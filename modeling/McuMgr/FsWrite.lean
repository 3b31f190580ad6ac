import McuMgr.Config

set_option autoImplicit false

/-!
# Chunked file writes through a cached handle

`fs_mgmt_impl_write` keeps one file handle open across calls, with its path in `previous_path`;
a call at offset 0, or for another path, reopens it, unlinking the file first at offset 0. The
file system and the allocator are collaborators whose answers are an explicit outcome per call,
and the effects they are asked for are recorded as events. `fs_mgmt_impl_read` opens a handle of
its own for each call.
-/
namespace McuMgr.FsWrite
open McuMgr.Config

/-- `struct fs_dirent` as `fs_mgmt_impl_filelen` reads it; `isFile` is `type == FS_DIR_ENTRY_FILE`. -/
structure FsDirent where
  isFile : Bool
  size : Nat
  deriving DecidableEq, Repr

/-- The answers of the file system and of `k_malloc` during one call: the entry `fs_stat` finds
(`none` when it fails), whether `fs_unlink`, `fs_open`, `k_malloc` and `fs_seek` succeed, what
`fs_write` returns (the bytes written, or a negative error), and whether `fs_sync` returns 0. -/
structure FsOutcome where
  stat : Option FsDirent
  unlinkOk : Bool
  openOk : Bool
  mallocOk : Bool
  seekOk : Bool
  written : Int
  syncOk : Bool
  deriving DecidableEq, Repr

structure FsState where
  previousPath : Option String
  file : Option String
  deriving DecidableEq, Repr

/-- The file system calls with an effect that a call makes: an `fs_unlink(path)` that returned 0,
and, after a successful `fs_seek`, the `fs_write(&file, data, len)` on the handle (open on `file`)
with what it returned. -/
inductive FsEvent where
  | unlink (path : String)
  | write (file : Option String) (offset len : Nat) (written : Int)
  deriving DecidableEq, Repr

def fsMgmtImplFilelen (stat : Option FsDirent) : Except MgmtErr Nat :=
  match stat with
  | none => .error .eunknown
  | some d => if d.isFile then .ok d.size else .error .eunknown

def zephyrFsMgmtTruncate (o : FsOutcome) (path : String) : Except MgmtErr Unit × List FsEvent :=
  match fsMgmtImplFilelen o.stat with
  | .ok _ => if o.unlinkOk then (.ok (), [.unlink path]) else (.error .eunknown, [])
  | .error _ => (.ok (), [])

/-- The block of `fs_mgmt_impl_write` that drops the cached handle, truncates at offset 0 and
opens `path`. -/
def reopenFile (o : FsOutcome) (s : FsState) (path : String) (offset : Nat) :
    Except MgmtErr Unit × FsState × List FsEvent :=
  let s := if s.previousPath.isSome then ⟨none, none⟩ else s
  match (if offset = 0 then zephyrFsMgmtTruncate o path else (.ok (), [])) with
  | (.error e, ev) => (.error e, s, ev)
  | (.ok (), ev) =>
    if !o.openOk then (.error .eunknown, { s with file := none }, ev)
    else if !o.mallocOk then (.error .enomem, { s with file := none }, ev)
    else (.ok (), ⟨some path, some path⟩, ev)

/-- The opening test of `fs_mgmt_impl_write`: reopen unless the call continues the cached file. -/
def prepareFile (o : FsOutcome) (s : FsState) (path : String) (offset : Nat) :
    Except MgmtErr Unit × FsState × List FsEvent :=
  if offset = 0 ∨ s.previousPath ≠ some path then reopenFile o s path offset else (.ok (), s, [])

def fsMgmtImplWrite (o : FsOutcome) (s : FsState) (path : String) (offset len : Nat) :
    Except MgmtErr Unit × FsState × List FsEvent :=
  match prepareFile o s path offset with
  | (.error e, s, ev) => (.error e, s, ev)
  | (.ok (), s, ev) =>
    let ev := if o.seekOk then ev ++ [.write s.file offset len o.written] else ev
    (if o.syncOk then .ok () else .error .eunknown, s, ev)

structure FsCall where
  path : String
  offset : Nat
  len : Nat
  deriving DecidableEq, Repr

def runFsWrites : FsState → List (FsOutcome × FsCall) → FsState
  | s, [] => s
  | s, (o, c) :: rest => runFsWrites (fsMgmtImplWrite o s c.path c.offset c.len).2.1 rest

def HandleInv (s : FsState) : Prop := s.file = s.previousPath

section Spec
variable {o : FsOutcome} {s : FsState} {path : String} {offset len : Nat}

def reopenEvents (o : FsOutcome) (path : String) (offset : Nat) : List FsEvent :=
  if offset = 0 ∧ (fsMgmtImplFilelen o.stat).isOk then [.unlink path] else []

theorem reopenFile_spec (hi : HandleInv s) :
    ((reopenFile o s path offset).1 = .ok () ∧
      (reopenFile o s path offset).2 = (⟨some path, some path⟩, reopenEvents o path offset)) ∨
    ((reopenFile o s path offset).1 ≠ .ok () ∧ (reopenFile o s path offset).2.1 = ⟨none, none⟩) := by
  have hclosed : (if s.previousPath.isSome then (⟨none, none⟩ : FsState) else s) = ⟨none, none⟩ := by
    obtain ⟨p, f⟩ := s
    cases p <;> simp_all [HandleInv]
  unfold reopenFile reopenEvents
  rw [hclosed]
  by_cases h0 : offset = 0
  · simp only [h0, if_true, true_and]
    unfold zephyrFsMgmtTruncate
    cases hl : fsMgmtImplFilelen o.stat <;> cases o.unlinkOk <;> cases o.openOk <;>
      cases o.mallocOk <;> simp
  · simp only [h0, if_false, false_and]
    cases o.openOk <;> cases o.mallocOk <;> simp

theorem prepareFile_spec (hi : HandleInv s) {r : Except MgmtErr Unit} {s' : FsState}
    {ev : List FsEvent} (h : prepareFile o s path offset = (r, s', ev)) :
    (r = .ok () ∧ s' = ⟨some path, some path⟩ ∧ ev = reopenEvents o path offset) ∨
      (r ≠ .ok () ∧ s' = ⟨none, none⟩) := by
  unfold prepareFile at h
  split_ifs at h with hc
  · have hre := @reopenFile_spec o s path offset hi
    rw [h] at hre
    simpa using hre
  · push_neg at hc
    obtain ⟨h0, hp⟩ := hc
    have hs : s = ⟨some path, some path⟩ := by
      obtain ⟨p, f⟩ := s
      simp_all [HandleInv]
    simp only [hs, Prod.mk.injEq] at h
    obtain ⟨rfl, rfl, rfl⟩ := h
    simp [reopenEvents, h0]

theorem fsMgmtImplWrite_inv (hi : HandleInv s) :
    HandleInv (fsMgmtImplWrite o s path offset len).2.1 := by
  unfold fsMgmtImplWrite
  cases hp : prepareFile o s path offset with
  | mk r p =>
    obtain ⟨s', ev⟩ := p
    rcases prepareFile_spec hi hp with ⟨rfl, rfl, rfl⟩ | ⟨hr, rfl⟩
    · rfl
    · cases r with
      | ok u => exact absurd rfl hr
      | error e => rfl

theorem fsMgmtImplWrite_ok (hi : HandleInv s) (h : (fsMgmtImplWrite o s path offset len).1 = .ok ()) :
    (fsMgmtImplWrite o s path offset len).2 = (⟨some path, some path⟩, reopenEvents o path offset ++
      if o.seekOk then [.write (some path) offset len o.written] else []) := by
  unfold fsMgmtImplWrite at h ⊢
  cases hp : prepareFile o s path offset with
  | mk r p =>
    obtain ⟨s', ev⟩ := p
    rw [hp] at h
    rcases prepareFile_spec hi hp with ⟨rfl, rfl, rfl⟩ | ⟨hr, rfl⟩
    · split_ifs <;> simp
    · cases r with
      | ok u => exact absurd rfl hr
      | error e => cases h

end Spec

theorem runFsWrites_inv (calls : List (FsOutcome × FsCall)) (s : FsState) (hi : HandleInv s) :
    HandleInv (runFsWrites s calls) := by
  induction calls generalizing s with
  | nil => exact hi
  | cons oc rest ih => exact ih _ (fsMgmtImplWrite_inv hi)

/-- From boot, after any calls with any answers of the file system and the allocator, the static
handle is open exactly when `previous_path` is set, and then on that path. -/
theorem fsWrite_handle_cached (calls : List (FsOutcome × FsCall)) :
    (runFsWrites ⟨none, none⟩ calls).file = (runFsWrites ⟨none, none⟩ calls).previousPath :=
  runFsWrites_inv calls _ rfl

/-- After any calls from boot, a call that returns 0 leaves the handle open on its own path and
cached; it has unlinked the file `fs_stat` found at offset 0, and its one `fs_write`, if the
seek succeeded, went through that handle at its offset. -/
theorem fsWrite_ok_after_run (calls : List (FsOutcome × FsCall)) (o : FsOutcome) (c : FsCall)
    (h : (fsMgmtImplWrite o (runFsWrites ⟨none, none⟩ calls) c.path c.offset c.len).1 = .ok ()) :
    (fsMgmtImplWrite o (runFsWrites ⟨none, none⟩ calls) c.path c.offset c.len).2 =
      (⟨some c.path, some c.path⟩, reopenEvents o c.path c.offset ++
        if o.seekOk then [.write (some c.path) c.offset c.len o.written] else []) :=
  fsMgmtImplWrite_ok (runFsWrites_inv calls _ rfl) h

theorem fsWrite_ok_after_run_first_chunk :
    let o : FsOutcome := ⟨some ⟨true, 4⟩, true, true, true, true, 10, true⟩
    let o' : FsOutcome := ⟨none, false, false, false, true, 6, true⟩
    (fsMgmtImplWrite o (runFsWrites ⟨none, none⟩ []) "f" 0 10).2 =
        (⟨some "f", some "f"⟩, [.unlink "f", .write (some "f") 0 10 10]) ∧
      (fsMgmtImplWrite o' (runFsWrites ⟨none, none⟩ [(o, ⟨"f", 0, 10⟩)]) "f" 10 6).1 = .ok () ∧
      (fsMgmtImplWrite o' (runFsWrites ⟨none, none⟩ [(o, ⟨"f", 0, 10⟩)]) "f" 10 6).2 =
        (⟨some "f", some "f"⟩, [.write (some "f") 10 6 6]) := by
  intro o o'
  refine ⟨?_, rfl, ?_⟩
  · rw [fsWrite_ok_after_run [] o ⟨"f", 0, 10⟩ rfl]
    rfl
  · rw [fsWrite_ok_after_run [(o, ⟨"f", 0, 10⟩)] o' ⟨"f", 10, 6⟩ rfl]
    rfl

/-- A call returns 0 without having written its data when the seek fails, or the write writes
nothing, and the sync after it succeeds. -/
theorem fsMgmtImplWrite_ok_unwritten (path : String) (offset len : Nat) :
    fsMgmtImplWrite ⟨none, true, true, true, false, 0, true⟩ ⟨none, none⟩ path offset len =
      (.ok (), ⟨some path, some path⟩, []) ∧
    fsMgmtImplWrite ⟨none, true, true, true, true, 0, true⟩ ⟨none, none⟩ path offset (len + 1) =
      (.ok (), ⟨some path, some path⟩, [.write (some path) offset (len + 1) 0]) := by
  constructor <;> by_cases h0 : offset = 0 <;>
    simp [fsMgmtImplWrite, prepareFile, reopenFile, zephyrFsMgmtTruncate, fsMgmtImplFilelen, h0]

/-- The answers of the file system during one `fs_mgmt_impl_read`: whether `fs_open` and `fs_seek`
return 0, and what `fs_read` returns (the bytes read, or a negative error). -/
structure FsReadOutcome where
  openOk : Bool
  seekOk : Bool
  bytesRead : Int
  deriving DecidableEq, Repr

/-- `fs_mgmt_impl_read`: the status, and the value it stores in `*out_len`, if any. -/
def fsMgmtImplRead (o : FsReadOutcome) : Except MgmtErr Unit × Option Nat :=
  if !o.openOk then (.error .enoent, none)
  else if !o.seekOk then (.error .eunknown, none)
  else if o.bytesRead < 0 then (.ok (), none)
  else (.ok (), some o.bytesRead.toNat)

/-- `fs_mgmt_impl_read` returns 0 exactly when the open and the seek succeed, and sets
`*out_len` exactly when `fs_read` then returns a count, which it stores. -/
theorem fsRead_status (o : FsReadOutcome) :
    ((fsMgmtImplRead o).1 = .ok () ↔ o.openOk = true ∧ o.seekOk = true) ∧
    ∀ n : Nat, (fsMgmtImplRead o).2 = some n ↔
      o.openOk = true ∧ o.seekOk = true ∧ o.bytesRead = n := by
  unfold fsMgmtImplRead
  cases o.openOk
  · simp
  cases o.seekOk
  · simp
  by_cases hr : o.bytesRead < 0 <;> simp [hr] <;> omega

/-- A failed `fs_read` after a successful seek: the call returns 0 and `*out_len` is not set. -/
example : fsMgmtImplRead ⟨true, true, -5⟩ = (.ok (), none) := rfl

end McuMgr.FsWrite
