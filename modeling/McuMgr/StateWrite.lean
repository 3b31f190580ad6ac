import McuMgr.SlotState

set_option autoImplicit false

/-!
# The image state command

`img_mgmt_state_write` picks a slot from the request's hash, or the running slot for a plain
confirm, and either confirms the running image (`img_mgmt_state_confirm`) or marks a slot for
the next boot (`img_mgmt_state_set_pending`). The only bootloader writes are
`boot_request_upgrade`, for slot 1, and `boot_write_img_confirmed`; both are recorded with the
answers the bootloader library and the logging hooks give, which are explicit here.
-/
namespace McuMgr.StateWrite
open McuMgr.Config McuMgr.SlotState

/-- The request after `cbor_read_object`: `hash[0 .. hash_len)` (empty when absent) and
`confirm` (false when absent). -/
structure StateWriteReq where
  hash : List UInt8
  confirm : Bool
  deriving DecidableEq, Repr

/-- What the collaborators of the command answer: whether `cbor_read_object` returns 0, the slot
`img_mgmt_find_by_hash` gives a hash (negative when none), whether `boot_request_upgrade` and
`boot_write_img_confirmed` return 0, what `img_mgmt_impl_log_confirm(rc, NULL)` returns for `rc`,
and whether `img_mgmt_state_read` encodes the response. -/
structure ControlEnv where
  decodeOk : Bool
  findByHash : List UInt8 → Int
  requestUpgradeOk : Bool
  writeConfirmedOk : Bool
  logConfirm : Except MgmtErr Unit → Except MgmtErr Unit
  stateReadOk : Bool

inductive BootWrite where
  | requestUpgrade (permanent : Bool)
  | writeConfirmed
  deriving DecidableEq, Repr

/-- `if (rc != 0) rc = MGMT_ERR_EUNKNOWN;` -/
def unknownOnError (r : Except MgmtErr Unit) : Except MgmtErr Unit :=
  match r with
  | .ok () => .ok ()
  | .error _ => .error .eunknown

def imgMgmtImplWritePending (env : ControlEnv) (slot : Int) (permanent : Bool) :
    Except MgmtErr Unit × List BootWrite :=
  if slot ≠ 1 then (.error .einval, [])
  else (if env.requestUpgradeOk then .ok () else .error .eunknown, [.requestUpgrade permanent])

def imgMgmtImplWriteConfirmed (env : ControlEnv) : Except MgmtErr Unit × List BootWrite :=
  (if env.writeConfirmedOk then .ok () else .error .eunknown, [.writeConfirmed])

/-- `img_mgmt_state_set_pending`; the hash lookup and the log calls at `done:` change nothing. -/
def imgMgmtStateSetPending (b : Build) (boot : BootState) (env : ControlEnv) (slot : Int)
    (permanent : Bool) : Except MgmtErr Unit × List BootWrite :=
  if (imgMgmtStateFlags b boot slot).confirmed ∧ slot ≠ 0 then (.error .ebadstate, [])
  else
    let r := imgMgmtImplWritePending env slot permanent
    (unknownOnError r.1, r.2)

/-- `img_mgmt_state_confirm`: its answer is the log hook's. -/
def imgMgmtStateConfirm (b : Build) (boot : BootState) (env : ControlEnv) :
    Except MgmtErr Unit × List BootWrite :=
  if imgMgmtStateAnyPending b boot then (env.logConfirm (.error .ebadstate), [])
  else
    let r := imgMgmtImplWriteConfirmed env
    (env.logConfirm (unknownOnError r.1), r.2)

/-- "Determine which slot is being operated on": the running slot for a confirm without hash,
else the slot holding the hash; `none` is `MGMT_ERR_EINVAL`. -/
def stateWriteSlot (b : Build) (env : ControlEnv) (req : StateWriteReq) : Option Int :=
  if req.hash = [] then (if req.confirm then some b.bootCurrSlot else none)
  else if env.findByHash req.hash < 0 then none
  else some (env.findByHash req.hash)

def imgMgmtStateWrite (b : Build) (boot : BootState) (env : ControlEnv) (req : StateWriteReq) :
    Except MgmtErr Unit × List BootWrite :=
  if !env.decodeOk then (.error .einval, [])
  else
    match stateWriteSlot b env req with
    | none => (.error .einval, [])
    | some slot =>
      let r := if slot = b.bootCurrSlot ∧ req.confirm then imgMgmtStateConfirm b boot env
        else imgMgmtStateSetPending b boot env slot req.confirm
      match r.1 with
      | .error e => (.error e, r.2)
      | .ok () => (if env.stateReadOk then .ok () else .error .enomem, r.2)

section Spec
variable {b : Build} {boot : BootState} {env : ControlEnv} {req : StateWriteReq}

theorem stateWriteSlot_some {slot : Int} (h : stateWriteSlot b env req = some slot) :
    (req.hash = [] ∧ req.confirm = true ∧ slot = b.bootCurrSlot) ∨
      (req.hash ≠ [] ∧ env.findByHash req.hash = slot ∧ 0 ≤ slot) := by
  unfold stateWriteSlot at h
  split_ifs at h with hh hc hneg <;> cases h
  · exact .inl ⟨hh, hc, rfl⟩
  · exact .inr ⟨hh, rfl, by omega⟩

theorem writePending_writes (slot : Int) (permanent : Bool) :
    (imgMgmtImplWritePending env slot permanent).2 =
      if slot = 1 then [.requestUpgrade permanent] else [] := by
  unfold imgMgmtImplWritePending
  by_cases h : slot = 1 <;> simp [h]

theorem setPending_writes_eq (slot : Int) (permanent : Bool) :
    (imgMgmtStateSetPending b boot env slot permanent).2 =
      if (imgMgmtStateFlags b boot slot).confirmed ∧ slot ≠ 0 then []
      else (imgMgmtImplWritePending env slot permanent).2 := by
  unfold imgMgmtStateSetPending
  split_ifs <;> rfl

theorem confirm_writes_eq :
    (imgMgmtStateConfirm b boot env).2 =
      if imgMgmtStateAnyPending b boot then [] else [.writeConfirmed] := by
  unfold imgMgmtStateConfirm
  split_ifs <;> rfl

theorem stateWrite_writes {w : BootWrite} (h : w ∈ (imgMgmtStateWrite b boot env req).2) :
    ∃ slot, stateWriteSlot b env req = some slot ∧
      ((slot = b.bootCurrSlot ∧ req.confirm = true ∧ w ∈ (imgMgmtStateConfirm b boot env).2) ∨
        (¬(slot = b.bootCurrSlot ∧ req.confirm = true) ∧
          w ∈ (imgMgmtStateSetPending b boot env slot req.confirm).2)) := by
  unfold imgMgmtStateWrite at h
  cases hd : env.decodeOk
  · simp [hd] at h
  cases hs : stateWriteSlot b env req with
  | none => simp [hd, hs] at h
  | some slot =>
    refine ⟨slot, rfl, ?_⟩
    have hw : w ∈ (if slot = b.bootCurrSlot ∧ req.confirm = true then imgMgmtStateConfirm b boot env
        else imgMgmtStateSetPending b boot env slot req.confirm).2 := by
      simp only [hd, hs, Bool.not_true, Bool.false_eq_true, if_false] at h
      split at h <;> exact h
    by_cases hc : slot = b.bootCurrSlot ∧ req.confirm = true
    · rw [if_pos hc] at hw
      exact .inl ⟨hc.1, hc.2, hw⟩
    · rw [if_neg hc] at hw
      exact .inr ⟨hc, hw⟩

theorem setPending_writes {slot : Int} {permanent : Bool} {w : BootWrite}
    (h : w ∈ (imgMgmtStateSetPending b boot env slot permanent).2) :
    slot = 1 ∧ (imgMgmtStateFlags b boot 1).confirmed = false ∧ w = .requestUpgrade permanent := by
  rw [setPending_writes_eq, writePending_writes] at h
  split_ifs at h with hc h1
  · simp at h
  · subst h1
    exact ⟨rfl, by simpa using fun h' => hc ⟨h', by decide⟩, List.mem_singleton.1 h⟩
  · simp at h

theorem confirm_writes {w : BootWrite} (h : w ∈ (imgMgmtStateConfirm b boot env).2) :
    imgMgmtStateAnyPending b boot = false ∧ w = .writeConfirmed := by
  rw [confirm_writes_eq] at h
  split_ifs at h with hp
  · simp at h
  · simpa [hp] using h

end Spec

/-- A state command asks the bootloader for an upgrade only of slot 1, named by the request's
hash and not confirmed, with `permanent` set as the request's `confirm`. -/
theorem stateWrite_requestUpgrade (b : Build) (boot : BootState) (env : ControlEnv)
    (req : StateWriteReq) (permanent : Bool)
    (h : .requestUpgrade permanent ∈ (imgMgmtStateWrite b boot env req).2) :
    req.hash ≠ [] ∧ env.findByHash req.hash = 1 ∧ permanent = req.confirm ∧
      (imgMgmtStateFlags b boot 1).confirmed = false := by
  obtain ⟨slot, hs, ⟨-, -, hw⟩ | ⟨hnc, hw⟩⟩ := stateWrite_writes h
  · cases (confirm_writes hw).2
  · obtain ⟨rfl, hconf, hw⟩ := setPending_writes hw
    cases hw
    rcases stateWriteSlot_some hs with ⟨-, hc, hcur⟩ | ⟨hh, hfind, -⟩
    · exact absurd ⟨hcur, hc⟩ hnc
    · exact ⟨hh, hfind, rfl, hconf⟩

theorem stateWrite_requestUpgrade_test :
    let b : Build :=
      { scorpio := false, lazyErase := false, rejectXipMismatch := false,
        bootCurrSlot := 0, image0 := 1, image1 := 2, image2 := none, image3 := none,
        headerSize := 32, imageMagic := 0x96f3b83d, dataShaLen := 32 }
    let boot : BootState := ⟨.none, fun _ => ⟨false, false, false⟩⟩
    let env : ControlEnv := ⟨true, fun h => if h = [1, 2] then 1 else -1, true, true, id, true⟩
    let req : StateWriteReq := ⟨[1, 2], false⟩
    .requestUpgrade false ∈ (imgMgmtStateWrite b boot env req).2 ∧
      req.hash ≠ [] ∧ env.findByHash req.hash = 1 ∧ false = req.confirm ∧
      (imgMgmtStateFlags b boot 1).confirmed = false := by
  intro b boot env req
  have h : .requestUpgrade false ∈ (imgMgmtStateWrite b boot env req).2 := by
    simp only [b, boot, env, req]
    decide
  exact ⟨h, stateWrite_requestUpgrade b boot env req false h⟩

/-- A state command confirms the running image only on a confirm request for the running slot
(without hash, or with the running image's), and only while no slot is pending. -/
theorem stateWrite_writeConfirmed (b : Build) (boot : BootState) (env : ControlEnv)
    (req : StateWriteReq) (h : .writeConfirmed ∈ (imgMgmtStateWrite b boot env req).2) :
    req.confirm = true ∧ (req.hash = [] ∨ env.findByHash req.hash = b.bootCurrSlot) ∧
      imgMgmtStateAnyPending b boot = false := by
  obtain ⟨slot, hs, ⟨rfl, hc, hw⟩ | ⟨-, hw⟩⟩ := stateWrite_writes h
  · refine ⟨hc, ?_, (confirm_writes hw).1⟩
    rcases stateWriteSlot_some hs with ⟨hh, -, -⟩ | ⟨-, hfind, -⟩
    · exact .inl hh
    · exact .inr hfind
  · cases (setPending_writes hw).2.2

theorem stateWrite_writeConfirmed_plain :
    let b : Build :=
      { scorpio := false, lazyErase := false, rejectXipMismatch := false,
        bootCurrSlot := 0, image0 := 1, image1 := 2, image2 := none, image3 := none,
        headerSize := 32, imageMagic := 0x96f3b83d, dataShaLen := 32 }
    let boot : BootState := ⟨.none, fun _ => ⟨false, false, false⟩⟩
    let env : ControlEnv := ⟨true, fun _ => -1, true, true, id, true⟩
    let req : StateWriteReq := ⟨[], true⟩
    .writeConfirmed ∈ (imgMgmtStateWrite b boot env req).2 ∧ req.confirm = true ∧
      (req.hash = [] ∨ env.findByHash req.hash = b.bootCurrSlot) ∧
      imgMgmtStateAnyPending b boot = false := by
  intro b boot env req
  have h : .writeConfirmed ∈ (imgMgmtStateWrite b boot env req).2 := by
    simp only [b, boot, env, req]
    decide
  exact ⟨h, stateWrite_writeConfirmed b boot env req h⟩

end McuMgr.StateWrite
