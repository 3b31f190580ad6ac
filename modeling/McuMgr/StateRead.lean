import McuMgr.SlotState
import McuMgr.Version

set_option autoImplicit false

/-!
# The image state read

`img_mgmt_state_read` answers with one map for each of slots 0 and 1 whose image reads, in slot
order, and `splitStatus` 0. `img_mgmt_read_info` and the CBOR encoder are collaborators; the
response is kept as the values the loop encodes.
-/
namespace McuMgr.StateRead
open McuMgr.Config McuMgr.SlotState McuMgr.Version

/-- What `img_mgmt_read_info` fills in for a slot that holds an image; `nonBootable` is
`flags & IMAGE_F_NON_BOOTABLE`. -/
structure ImageInfo where
  ver : ImageVersion
  hash : List UInt8
  nonBootable : Bool
  deriving DecidableEq, Repr

/-- The collaborators of `img_mgmt_state_read`: `img_mgmt_read_info(i, &ver, hash, &flags)` for
each slot (`none` when it fails), and whether every `cbor_encode_*` and `cbor_encoder_*` call
returns 0. -/
structure ReadEnv where
  readInfo : Int → Option ImageInfo
  encodeOk : Bool

structure ImageEntry where
  slot : Int
  version : ImageVersion
  hash : List UInt8
  bootable : Bool
  flags : StateFlags
  deriving DecidableEq, Repr

def imageEntry (b : Build) (boot : BootState) (i : Int) (info : ImageInfo) : ImageEntry :=
  { slot := i, version := info.ver, hash := info.hash, bootable := !info.nonBootable,
    flags := imgMgmtStateFlags b boot i }

/-- The `for (i = 0; i < 2; i++)` loop over the slots left; a slot whose `img_mgmt_read_info`
fails is skipped by `continue`. -/
def imagesLoop (b : Build) (boot : BootState) (env : ReadEnv) : List Int → List ImageEntry
  | [] => []
  | i :: rest =>
    match env.readInfo i with
    | none => imagesLoop b boot env rest
    | some info => imageEntry b boot i info :: imagesLoop b boot env rest

structure StateReadRsp where
  images : List ImageEntry
  splitStatus : Int
  deriving DecidableEq, Repr

def imgMgmtStateRead (b : Build) (boot : BootState) (env : ReadEnv) :
    Except MgmtErr StateReadRsp :=
  if env.encodeOk then .ok ⟨imagesLoop b boot env [0, 1], 0⟩ else .error .enomem

section Loop
variable {b : Build} {boot : BootState} {env : ReadEnv}

theorem mem_imagesLoop {slots : List Int} {e : ImageEntry} :
    e ∈ imagesLoop b boot env slots ↔
      ∃ i ∈ slots, ∃ info, env.readInfo i = some info ∧ e = imageEntry b boot i info := by
  induction slots with
  | nil => simp [imagesLoop]
  | cons i rest ih =>
    cases h : env.readInfo i with
    | none => simp [imagesLoop, h, ih]
    | some info => simp [imagesLoop, h, ih, List.exists_mem_cons]

theorem imagesLoop_slots (slots : List Int) :
    (imagesLoop b boot env slots).map ImageEntry.slot =
      slots.filter fun i => (env.readInfo i).isSome := by
  induction slots with
  | nil => rfl
  | cons i rest ih =>
    cases h : env.readInfo i with
    | none => simp [imagesLoop, h, ih, List.filter_cons]
    | some info => simp [imagesLoop, h, ih, imageEntry, List.filter_cons]

end Loop

/-- Unless an encoding fails, the state read answers with one map for each of slots 0 and 1
whose image reads, in slot order, with the image's version and hash, its bootable bit and the
slot's state flags, and with `splitStatus` 0; an encoding failure is `MGMT_ERR_ENOMEM`. -/
theorem stateRead_response (b : Build) (boot : BootState) (env : ReadEnv) :
    (env.encodeOk = false → imgMgmtStateRead b boot env = .error .enomem) ∧
    (env.encodeOk = true → ∃ rsp, imgMgmtStateRead b boot env = .ok rsp ∧ rsp.splitStatus = 0 ∧
      rsp.images.map ImageEntry.slot = [0, 1].filter (fun i => (env.readInfo i).isSome) ∧
      ∀ e ∈ rsp.images, ∃ info, env.readInfo e.slot = some info ∧ e.version = info.ver ∧
        e.hash = info.hash ∧ e.bootable = !info.nonBootable ∧
        e.flags = imgMgmtStateFlags b boot e.slot) := by
  refine ⟨fun h => by simp [imgMgmtStateRead, h], fun h => ⟨⟨imagesLoop b boot env [0, 1], 0⟩,
    by simp [imgMgmtStateRead, h], rfl,
    imagesLoop_slots _, fun e he => ?_⟩⟩
  obtain ⟨i, -, info, hi, rfl⟩ := mem_imagesLoop.1 he
  exact ⟨info, hi, rfl, rfl, rfl, rfl⟩

end McuMgr.StateRead
