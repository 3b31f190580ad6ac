import McuMgr.Erase
import McuMgr.Version

set_option autoImplicit false

/-!
# Inspecting an upload request

`img_mgmt_impl_upload_inspect` decides, for one chunk of an image upload, whether and where the
caller writes it: a first chunk (`off == 0`) is checked and given a free slot, a later chunk
continues the upload in `g_img_mgmt_state`, and either may have its write cut to the flash write
alignment. The function writes nothing; its result is a `Reject` or the action.
-/
namespace McuMgr.UploadInspect
open McuMgr.Config McuMgr.SlotState McuMgr.SlotSelect McuMgr.Flash McuMgr.Erase McuMgr.Version

/-- `struct image_header`, as far as the inspection reads it: `ih_magic`, `ih_load_addr`,
`ih_flags & IMAGE_F_ROM_FIXED_ADDR` and `ih_ver`. -/
structure ImageHeader where
  magic : Nat
  loadAddr : Nat
  romFixedAddr : Bool
  ver : ImageVersion
  deriving DecidableEq, Repr

/-- `struct img_mgmt_upload_req` as the upload command's decoder fills it: `image`, `off` and
`size` are `unsigned long long` (`off` and `size` are `-1` when absent), `data_len` counts the
bytes of the chunk buffer `img_data`, far below `INT_MAX`, `hdr` is the start of `img_data` read
as an image header, and `dataSha` is `data_sha[0 .. data_sha_len)`. -/
structure UploadReq where
  image : Nat
  off : Nat
  size : Nat
  dataLen : Nat
  hdr : ImageHeader
  dataSha : List UInt8
  upgrade : Bool
  dataLen_lt : dataLen < 2^31

/-- `g_img_mgmt_state`: the upload in progress (`area_id == -1` when there is none); `off` and
`size` are 32-bit `size_t`, and `dataSha` is `data_sha[0 .. data_sha_len)`. -/
structure UploadState where
  areaId : Int
  off : Nat
  size : Nat
  dataSha : List UInt8
  off_lt : off < 2^32
  size_lt : size < 2^32

structure UploadAction where
  size : Nat
  writeBytes : Nat
  areaId : Int
  proceed : Bool
  erase : Bool
  deriving DecidableEq, Repr

inductive ErrStr where
  | hdrMalformed
  | magicMismatch
  | noSlot
  | flashOpenFailed
  | imageBadFlashAddr
  | downgrade
  deriving DecidableEq, Repr

/-- A rejected request: the `MGMT_ERR_*` code returned and the `errstr` set, if any. -/
structure Reject where
  err : MgmtErr
  errstr : Option ErrStr
  deriving DecidableEq, Repr

structure InspectEnv where
  flash : FlashMap
  myVersion : Option ImageVersion

/-- The action after `memset(action, 0, sizeof *action)`. -/
def UploadAction.zero : UploadAction :=
  { size := 0, writeBytes := 0, areaId := 0, proceed := false, erase := false }

/-- "Calculate size of flash write": the whole chunk, cut down to the write alignment of the
destination area unless the chunk reaches the declared size; `rem_bytes` is a `uint8_t`. -/
def writeSize (flash : FlashMap) (req : UploadReq) (action : UploadAction) :
    Except Reject UploadAction :=
  let action := { action with writeBytes := req.dataLen }
  if (req.off + req.dataLen) % 2^64 < action.size then
    match flash (toUInt8 action.areaId) with
    | none => .error ⟨.eunknown, some .flashOpenFailed⟩
    | some fa =>
      let remBytes := (toUInt8 ((req.dataLen % fa.align.toNat : Nat) : Int)).toNat
      .ok { action with
        writeBytes := if remBytes ≠ 0 then action.writeBytes - remBytes else action.writeBytes,
        proceed := true }
  else .ok { action with proceed := true }

/-- The header of a first chunk: long enough, with a `len` field, the image magic and a hash
no longer than `IMG_MGMT_DATA_SHA_LEN`. -/
def headerCheck (b : Build) (req : UploadReq) : Except Reject Unit :=
  if req.dataLen < b.headerSize then .error ⟨.einval, some .hdrMalformed⟩
  else if req.size = ullMinusOne then .error ⟨.einval, some .hdrMalformed⟩
  else if req.hdr.magic ≠ b.imageMagic then .error ⟨.einval, some .magicMismatch⟩
  else if req.dataSha.length > b.dataShaLen then .error ⟨.einval, none⟩
  else .ok ()

def resumes (g : UploadState) (req : UploadReq) : Prop :=
  req.dataSha.length > 0 ∧ g.areaId ≠ -1 ∧ g.dataSha = req.dataSha

instance (g : UploadState) (req : UploadReq) : Decidable (resumes g req) := by
  unfold resumes; infer_instance

/-- The slot for a new upload and, with direct-XIP checking, the match of its flash address
with the header's load address. -/
def slotCheck (b : Build) (boot : BootState) (env : InspectEnv) (req : UploadReq) :
    Except Reject Int :=
  let areaId := imgMgmtGetUnusedSlotAreaId b boot (imageSlot req.image)
  if areaId < 0 then .error ⟨.enomem, some .noSlot⟩
  else if b.rejectXipMismatch ∧ req.hdr.romFixedAddr then
    match env.flash (toUInt8 areaId) with
    | none => .error ⟨.eunknown, some .flashOpenFailed⟩
    | some fa =>
      if fa.off ≠ req.hdr.loadAddr then .error ⟨.einval, some .imageBadFlashAddr⟩ else .ok areaId
  else .ok areaId

/-- The checks of a first chunk before the version gate: `none` resumes the upload in progress,
`some areaId` goes on into the slot chosen. -/
def firstChunkPreGate (b : Build) (boot : BootState) (env : InspectEnv) (g : UploadState)
    (req : UploadReq) : Except Reject (Option Int) :=
  match headerCheck b req with
  | .error e => .error e
  | .ok () => if resumes g req then .ok none else (slotCheck b boot env req).map some

def versionGate (env : InspectEnv) (req : UploadReq) : Except Reject Unit :=
  if req.upgrade then
    match env.myVersion with
    | none => .error ⟨.eunknown, none⟩
    | some curVer =>
      if imgMgmtVercmp curVer req.hdr.ver ≥ 0 then .error ⟨.ebadstate, some .downgrade⟩
      else .ok ()
  else .ok ()

def eraseCheck (b : Build) (env : InspectEnv) (action : UploadAction) : Except Reject UploadAction :=
  if b.lazyErase then .ok action
  else
    match (zephyrImgMgmtFlashCheckEmpty b env.flash (toUInt8 action.areaId)).1 with
    | .error _ => .error ⟨.eunknown, none⟩
    | .ok empty => .ok { action with erase := !empty }

def imgMgmtImplUploadInspect (b : Build) (boot : BootState) (env : InspectEnv) (g : UploadState)
    (req : UploadReq) : Except Reject UploadAction :=
  if req.off = ullMinusOne then .error ⟨.einval, some .hdrMalformed⟩
  else if req.off = 0 then
    let action := { UploadAction.zero with size := req.size }
    match firstChunkPreGate b boot env g req with
    | .error e => .error e
    | .ok none => .ok action
    | .ok (some areaId) =>
      let action := { action with areaId := areaId }
      match versionGate env req with
      | .error e => .error e
      | .ok () =>
        match eraseCheck b env action with
        | .error e => .error e
        | .ok action => writeSize env.flash req action
  else
    let action := { UploadAction.zero with areaId := g.areaId, size := g.size }
    if req.off ≠ g.off then .ok action
    else writeSize env.flash req action

section Spec
variable {b : Build} {boot : BootState} {env : InspectEnv} {g : UploadState} {req : UploadReq}
  {flash : FlashMap} {action a : UploadAction}

theorem remBytes_eq (n : Nat) (align : UInt8) (h : 1 ≤ align.toNat) :
    (toUInt8 (n % align.toNat : Nat)).toNat = n % align.toNat := by
  have hlt : n % align.toNat < 256 := Nat.lt_of_lt_of_le (Nat.mod_lt _ h) (Nat.le_of_lt align.toNat_lt_size)
  rw [toUInt8_toNat, Int.emod_eq_of_lt (by omega) (by omega)]
  rfl

theorem writeSize_ok (h : writeSize flash req action = .ok a) :
    a.proceed = true ∧ a.size = action.size ∧ a.areaId = action.areaId ∧ a.erase = action.erase ∧
    (action.size ≤ (req.off + req.dataLen) % 2^64 → a.writeBytes = req.dataLen) ∧
    ((req.off + req.dataLen) % 2^64 < action.size → ∃ fa, flash (toUInt8 action.areaId) = some fa ∧
      a.writeBytes = req.dataLen - (toUInt8 (req.dataLen % fa.align.toNat : Nat)).toNat) := by
  simp only [writeSize] at h
  split_ifs at h with hlt
  · split at h
    · cases h
    · rename_i fa hfa
      cases h
      refine ⟨rfl, rfl, rfl, rfl, fun hge => absurd hlt (by omega), fun _ => ⟨fa, hfa, ?_⟩⟩
      dsimp only
      split_ifs with hr
      · rfl
      · simp only [ne_eq, not_not] at hr; rw [hr]; rfl
  · cases h
    exact ⟨rfl, rfl, rfl, rfl, fun _ => rfl, fun hlt' => absurd hlt' hlt⟩

theorem inspect_ok_cases (h : imgMgmtImplUploadInspect b boot env g req = .ok a) :
    (req.off = 0 ∧ ((firstChunkPreGate b boot env g req = .ok none ∧ a = ⟨req.size, 0, 0, false, false⟩) ∨
      ∃ areaId a1, firstChunkPreGate b boot env g req = .ok (some areaId) ∧
        versionGate env req = .ok () ∧ eraseCheck b env ⟨req.size, 0, areaId, false, false⟩ = .ok a1 ∧
        writeSize env.flash req a1 = .ok a)) ∨
    (req.off ≠ 0 ∧ req.off ≠ ullMinusOne ∧
      ((req.off ≠ g.off ∧ a = ⟨g.size, 0, g.areaId, false, false⟩) ∨
        (req.off = g.off ∧ writeSize env.flash req ⟨g.size, 0, g.areaId, false, false⟩ = .ok a))) := by
  dsimp only [imgMgmtImplUploadInspect, UploadAction.zero] at h
  split_ifs at h with hneg hzero hoff
  · left
    refine ⟨hzero, ?_⟩
    split at h
    · cases h
    · rename_i hpre; cases h; exact .inl ⟨hpre, rfl⟩
    · rename_i areaId hpre
      split at h
      · cases h
      · rename_i hgate
        split at h
        · cases h
        · rename_i a1 herase
          exact .inr ⟨areaId, a1, hpre, hgate, herase, h⟩
  · cases h; exact .inr ⟨hzero, hneg, .inl ⟨hoff, rfl⟩⟩
  · exact .inr ⟨hzero, hneg, .inr ⟨by simpa using hoff, h⟩⟩

theorem slotCheck_ok {areaId : Int} (h : slotCheck b boot env req = .ok areaId) :
    areaId = imgMgmtGetUnusedSlotAreaId b boot (imageSlot req.image) ∧ 0 ≤ areaId := by
  dsimp only [slotCheck] at h
  split_ifs at h with hneg hxip
  · split at h
    · cases h
    · split_ifs at h
      obtain rfl := Except.ok.inj h
      exact ⟨rfl, by omega⟩
  · obtain rfl := Except.ok.inj h
    exact ⟨rfl, by omega⟩

theorem preGate_some {areaId : Int} (h : firstChunkPreGate b boot env g req = .ok (some areaId)) :
    headerCheck b req = .ok () ∧ ¬resumes g req ∧ slotCheck b boot env req = .ok areaId := by
  unfold firstChunkPreGate at h
  split at h
  · cases h
  · rename_i hhdr
    by_cases hres : resumes g req
    · rw [if_pos hres] at h; cases h
    · rw [if_neg hres] at h
      cases hs : slotCheck b boot env req with
      | error e => rw [hs] at h; cases h
      | ok id =>
        rw [hs] at h
        obtain rfl := Option.some.inj (Except.ok.inj h)
        exact ⟨hhdr, hres, rfl⟩

theorem eraseCheck_ok (h : eraseCheck b env action = .ok a) :
    a.proceed = action.proceed ∧ a.size = action.size ∧ a.areaId = action.areaId ∧
    (b.lazyErase = false → a.erase = false →
      (zephyrImgMgmtFlashCheckEmpty b env.flash (toUInt8 action.areaId)).1 = .ok true) := by
  unfold eraseCheck at h
  split_ifs at h with hl
  · cases h; exact ⟨rfl, rfl, rfl, fun h => absurd hl (by simp [h])⟩
  · split at h
    · cases h
    · rename_i empty he
      cases h
      refine ⟨rfl, rfl, rfl, fun _ hfalse => ?_⟩
      cases empty
      · simp at hfalse
      · exact he

theorem inspect_proceed_writeSize (h : imgMgmtImplUploadInspect b boot env g req = .ok a)
    (hp : a.proceed = true) :
    ∃ action, writeSize env.flash req action = .ok a ∧ req.off + req.dataLen < 2^64 := by
  have hd := req.dataLen_lt
  have ho := g.off_lt
  rcases inspect_ok_cases h with ⟨h0, ⟨-, rfl⟩ | ⟨-, a1, -, -, -, hw⟩⟩ | ⟨-, -, ⟨-, rfl⟩ | ⟨hoff, hw⟩⟩
  · cases hp
  · exact ⟨a1, hw, by omega⟩
  · cases hp
  · exact ⟨_, hw, by omega⟩

theorem writeSize_bytes (h : writeSize flash req action = .ok a) (hnw : req.off + req.dataLen < 2^64) :
    a.writeBytes ≤ req.dataLen ∧ (a.size ≤ req.off + req.dataLen → a.writeBytes = req.dataLen) ∧
    (req.off + req.dataLen < a.size → ∀ fa, flash (toUInt8 a.areaId) = some fa →
      1 ≤ fa.align.toNat →
        a.writeBytes = req.dataLen - req.dataLen % fa.align.toNat ∧
        a.writeBytes % fa.align.toNat = 0) := by
  obtain ⟨-, hs, hid, -, hwhole, hclamp⟩ := writeSize_ok h
  rw [Nat.mod_eq_of_lt hnw, ← hs] at hwhole hclamp
  rw [← hid] at hclamp
  have hclamped : req.off + req.dataLen < a.size → ∀ fa, flash (toUInt8 a.areaId) = some fa →
      1 ≤ fa.align.toNat → a.writeBytes = req.dataLen - req.dataLen % fa.align.toNat := by
    intro hlt fa hfa h1
    obtain ⟨fa', hfa', hw⟩ := hclamp hlt
    rw [hfa] at hfa'
    cases hfa'
    rw [hw, remBytes_eq _ _ h1]
  refine ⟨?_, hwhole, fun hlt fa hfa h1 => ⟨hclamped hlt fa hfa h1, ?_⟩⟩
  · by_cases hlt : req.off + req.dataLen < a.size
    · obtain ⟨fa, hfa, hw⟩ := hclamp hlt
      omega
    · exact hwhole (by omega) ▸ Nat.le_refl _
  · rw [hclamped hlt fa hfa h1, Nat.sub_eq_of_eq_add (Nat.div_add_mod _ _).symm]
    exact Nat.mul_mod_right _ _

theorem slotCheck_err {e : Reject} (h : slotCheck b boot env req = .error e) :
    e.err ≠ .ebadstate := by
  dsimp only [slotCheck] at h
  split_ifs at h
  · cases h; simp
  · split at h
    · cases h; simp
    · split_ifs at h; cases h; simp

theorem headerCheck_err {e : Reject} (h : headerCheck b req = .error e) : e.err = .einval := by
  unfold headerCheck at h
  by_cases h1 : req.dataLen < b.headerSize
  · rw [if_pos h1] at h; cases h; rfl
  rw [if_neg h1] at h
  by_cases h2 : req.size = ullMinusOne
  · rw [if_pos h2] at h; cases h; rfl
  rw [if_neg h2] at h
  by_cases h3 : req.hdr.magic ≠ b.imageMagic
  · rw [if_pos h3] at h; cases h; rfl
  rw [if_neg h3] at h
  by_cases h4 : req.dataSha.length > b.dataShaLen
  · rw [if_pos h4] at h; cases h; rfl
  rw [if_neg h4] at h; cases h

theorem preGate_err {e : Reject} (h : firstChunkPreGate b boot env g req = .error e) :
    e.err ≠ .ebadstate := by
  unfold firstChunkPreGate at h
  split at h
  · rename_i e' he
    cases h
    rw [headerCheck_err he]
    decide
  · split_ifs at h
    cases hs : slotCheck b boot env req with
    | ok id => rw [hs] at h; cases h
    | error e' => rw [hs] at h; cases h; exact slotCheck_err hs

theorem eraseCheck_err {e : Reject} (h : eraseCheck b env action = .error e) : e.err = .eunknown := by
  unfold eraseCheck at h
  split_ifs at h
  split at h
  · cases h; rfl
  · cases h

theorem writeSize_err {e : Reject} (h : writeSize flash req action = .error e) : e.err = .eunknown := by
  simp only [writeSize] at h
  split_ifs at h
  split at h
  · cases h; rfl
  · cases h

/-- On a first chunk with `upgrade` set, the inspection answers `MGMT_ERR_EBADSTATE` exactly when
the chunk reaches the version gate with a header version not above the running one. -/
theorem inspect_ebadstate_iff {cur : ImageVersion} (hoff : req.off = 0) (hup : req.upgrade = true)
    (hver : env.myVersion = some cur) :
    (∃ s, imgMgmtImplUploadInspect b boot env g req = .error ⟨.ebadstate, s⟩) ↔
      (∃ areaId, firstChunkPreGate b boot env g req = .ok (some areaId)) ∧
        ¬VersionLt cur req.hdr.ver := by
  have hgate : versionGate env req = if imgMgmtVercmp cur req.hdr.ver ≥ 0 then
      .error ⟨.ebadstate, some .downgrade⟩ else .ok () := by
    simp [versionGate, hup, hver]
  have hnonneg := lexCompare_nonneg_iff cur req.hdr.ver
  rw [← imgMgmtVercmp_eq_lexCompare] at hnonneg
  have hneg : req.off ≠ ullMinusOne := by rw [hoff]; decide
  dsimp only [imgMgmtImplUploadInspect, UploadAction.zero]
  rw [if_neg hneg, if_pos hoff]
  cases hpre : firstChunkPreGate b boot env g req with
  | error e =>
    simp only [Except.error.injEq, reduceCtorEq, false_and, exists_const, iff_false]
    rintro ⟨s, rfl⟩
    exact preGate_err hpre rfl
  | ok r =>
    cases r with
    | none => simp
    | some areaId =>
      have hex : ∃ id, (.ok (some areaId) : Except Reject (Option Int)) = .ok (some id) :=
        ⟨areaId, rfl⟩
      simp only [hex, true_and, ← hnonneg, hgate]
      split_ifs with hge
      · exact iff_of_true ⟨_, rfl⟩ hge
      · refine iff_of_false ?_ hge
        rintro ⟨s, h⟩
        dsimp only at h
        cases he : eraseCheck b env ⟨req.size, 0, areaId, false, false⟩ with
        | error e => rw [he] at h; cases h; exact absurd (eraseCheck_err he) (by simp)
        | ok a1 => rw [he] at h; exact absurd (writeSize_err h) (by simp)

end Spec

/-- `img_mgmt_vercmp` is the three-way lexicographic comparison of (major, minor, revision): zero
exactly on equal triples, whatever the build numbers, antisymmetric and transitive. The upload
gate therefore rejects an upgrade-only first chunk with `MGMT_ERR_EBADSTATE` exactly when it
reaches the gate with a version not above the running one. -/
theorem imgMgmtVercmp_correct :
    (∀ v w, imgMgmtVercmp v w = lexCompare v w) ∧
    (∀ v w, imgMgmtVercmp v w = 0 ↔
      v.major = w.major ∧ v.minor = w.minor ∧ v.revision = w.revision) ∧
    (∀ v w n, imgMgmtVercmp { v with buildNum := n } w = imgMgmtVercmp v w) ∧
    (∀ v w, imgMgmtVercmp v w = -imgMgmtVercmp w v) ∧
    (∀ u v w, imgMgmtVercmp u v = -1 → imgMgmtVercmp v w = -1 → imgMgmtVercmp u w = -1) ∧
    (∀ u v w, imgMgmtVercmp u v ≤ 0 → imgMgmtVercmp v w ≤ 0 → imgMgmtVercmp u w ≤ 0) ∧
    (∀ b boot env g req cur, req.off = 0 → req.upgrade = true → env.myVersion = some cur →
      ((∃ s, imgMgmtImplUploadInspect b boot env g req = .error ⟨.ebadstate, s⟩) ↔
        (∃ areaId, firstChunkPreGate b boot env g req = .ok (some areaId)) ∧
          ¬VersionLt cur req.hdr.ver)) := by
  refine ⟨imgMgmtVercmp_eq_lexCompare, fun v w => ?_, fun _ _ _ => rfl, fun v w => ?_,
    fun u v w huv hvw => ?_, fun u v w huv hvw => ?_,
    fun _ _ _ _ _ _ hoff hup hver => inspect_ebadstate_iff hoff hup hver⟩
  · rw [imgMgmtVercmp_eq_lexCompare, lexCompare_eq_zero_iff]
  · rw [imgMgmtVercmp_eq_lexCompare, imgMgmtVercmp_eq_lexCompare, lexCompare_swap]
  · rw [imgMgmtVercmp_eq_lexCompare, lexCompare_neg_one_iff] at *
    exact versionLt_trans huv hvw
  · rw [imgMgmtVercmp_eq_lexCompare, lexCompare_nonpos_iff] at *
    exact not_versionLt_trans huv hvw

/-- With no upload in progress (`area_id == -1`, as the upload command leaves it once the last
chunk is written), a chunk at the old end offset proceeds into area `-1`. -/
theorem inspect_idle_proceeds (b : Build) (boot : BootState) (env : InspectEnv) (hdr : ImageHeader) :
    imgMgmtImplUploadInspect b boot env ⟨-1, 900, 900, [], by decide, by decide⟩
      ⟨0, 900, ullMinusOne, 100, hdr, [], false, by decide⟩ = .ok ⟨900, 100, -1, true, false⟩ := by
  simp [imgMgmtImplUploadInspect, writeSize, ullMinusOne, UploadAction.zero]

/-- For every chunk that proceeds and every alignment `A ≥ 1` of its destination area, the write
is at most the chunk; the whole chunk when it reaches the declared size, else the chunk less its
remainder modulo `A`. -/
theorem inspect_writeBytes (b : Build) (boot : BootState) (env : InspectEnv) (g : UploadState)
    (req : UploadReq) (a : UploadAction) (h : imgMgmtImplUploadInspect b boot env g req = .ok a)
    (hp : a.proceed = true) :
    a.writeBytes ≤ req.dataLen ∧ (a.size ≤ req.off + req.dataLen → a.writeBytes = req.dataLen) ∧
    (req.off + req.dataLen < a.size → ∀ fa, env.flash (toUInt8 a.areaId) = some fa →
      1 ≤ fa.align.toNat →
        a.writeBytes = req.dataLen - req.dataLen % fa.align.toNat ∧
        a.writeBytes % fa.align.toNat = 0) := by
  obtain ⟨action, hw, hnw⟩ := inspect_proceed_writeSize h hp
  exact writeSize_bytes hw hnw

theorem inspect_writeBytes_align8 :
    let b : Build :=
      { scorpio := false, lazyErase := true, rejectXipMismatch := false,
        bootCurrSlot := 0, image0 := 1, image1 := 2, image2 := none, image3 := none,
        headerSize := 32, imageMagic := 0x96f3b83d, dataShaLen := 32 }
    let boot : BootState := ⟨.none, fun _ => ⟨false, false, false⟩⟩
    let fa : FlashArea :=
      { off := 4096, size := 12288, device := ⟨[4096, 4096, 4096, 4096]⟩, align := 8,
        erasedVal := 255, bytes := (fun _ => 255), readOk := (fun _ _ => true),
        eraseOk := (fun _ _ => true), off_lt := (by decide), size_lt := (by decide) }
    let env : InspectEnv := ⟨fun id => if id = 1 then some fa else none, none⟩
    let g : UploadState := ⟨1, 512, 4096, [], by decide, by decide⟩
    let req : UploadReq := ⟨1, 512, 4096, 300, ⟨0, 0, false, ⟨1, 0, 0, 0⟩⟩, [], false, by decide⟩
    let a : UploadAction := ⟨4096, 296, 1, true, false⟩
    imgMgmtImplUploadInspect b boot env g req = .ok a ∧ a.proceed = true ∧
      a.writeBytes = req.dataLen - req.dataLen % fa.align.toNat ∧ a.writeBytes % fa.align.toNat = 0 := by
  intro b boot fa env g req a
  have h : imgMgmtImplUploadInspect b boot env g req = .ok a := by
    simp only [b, boot, fa, env, g, req, a]
    rfl
  exact ⟨h, rfl, (inspect_writeBytes b boot env g req a h rfl).2.2 (by decide) fa rfl (by decide)⟩

/-! ## What the inspection reads of the flash -/

section Frame
variable {b : Build} {boot : BootState} {env env' : InspectEnv} {g : UploadState} {req : UploadReq}

end Frame

end McuMgr.UploadInspect
