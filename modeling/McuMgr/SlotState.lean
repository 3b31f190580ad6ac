import McuMgr.Config

set_option autoImplicit false

/-!
# Slot state flags

`img_mgmt_state_flags` derives each slot's flags from what the bootloader reports: the swap
type in the default build, the raw trailer fields of the slot under `CONFIG_BOARD_SCORPIO`.
The flags are recomputed on every query; nothing here is stored.
-/
namespace McuMgr.SlotState
open McuMgr.Config

/-- What `mcuboot_swap_type()` reports; `other` covers `BOOT_SWAP_TYPE_FAIL` and `_PANIC`. -/
inductive BootSwapType where
  | none
  | test
  | perm
  | revert
  | other (code : Nat)
  deriving DecidableEq, Repr

inductive SwapType where
  | none
  | test
  | perm
  | revert
  deriving DecidableEq, Repr

/-- `img_mgmt_impl_swap_type`; an unknown value trips `assert(0)`, a no-op without
`CONFIG_ASSERT`, and then reads as NONE. -/
def imgMgmtImplSwapType : BootSwapType → SwapType
  | .none => .none
  | .test => .test
  | .perm => .perm
  | .revert => .revert
  | .other _ => .none

/-- The comparisons the Scorpio path makes on `struct boot_swap_state`: `magic == BOOT_MAGIC_GOOD`,
`image_ok == BOOT_FLAG_SET` and `copy_done == BOOT_FLAG_SET`. -/
structure SwapState where
  magicGood : Bool
  imageOkSet : Bool
  copyDoneSet : Bool
  deriving DecidableEq, Repr

/-- The bootloader state the management code reads: the swap type and, by flash area id,
the swap state `boot_read_swap_state_by_id` fills in. -/
structure BootState where
  swapType : BootSwapType
  swapState : Int → SwapState

structure StateFlags where
  pending : Bool
  confirmed : Bool
  active : Bool
  permanent : Bool
  deriving DecidableEq, Repr

/-- The `switch (swap_type)` of `img_mgmt_state_flags`, for the slot that is (`curr`) or is
not the one `IMG_MGMT_BOOT_CURR_SLOT` names. -/
def swapFlags : SwapType → Bool → StateFlags
  | .none, curr => { pending := false, confirmed := curr, active := curr, permanent := false }
  | .test, curr => { pending := !curr, confirmed := curr, active := false, permanent := false }
  | .perm, curr => { pending := !curr, confirmed := curr, active := false, permanent := !curr }
  | .revert, curr => { pending := false, confirmed := !curr, active := curr, permanent := false }

/-- The Scorpio path: CONFIRMED and ACTIVE read from the slot's own trailer. -/
def trailerFlags (state : SwapState) : StateFlags :=
  { pending := false, confirmed := state.magicGood && state.imageOkSet,
    active := state.magicGood && state.copyDoneSet, permanent := false }

def imgMgmtStateFlags (b : Build) (boot : BootState) (querySlot : Int) : StateFlags :=
  if b.scorpio then trailerFlags (boot.swapState (querySlot + 1))
  else swapFlags (imgMgmtImplSwapType boot.swapType) (decide (querySlot = b.bootCurrSlot))

def imgMgmtStateAnyPending (b : Build) (boot : BootState) : Bool :=
  (imgMgmtStateFlags b boot 0).pending || (imgMgmtStateFlags b boot 1).pending

def imgMgmtSlotInUse (b : Build) (boot : BootState) (slot : Int) : Bool :=
  let f := imgMgmtStateFlags b boot slot
  f.active || f.confirmed || f.pending

theorem swapFlags_pending (t : SwapType) (curr : Bool) (h : (swapFlags t curr).pending) :
    curr = false := by
  cases t <;> simp_all [swapFlags]

theorem swapFlags_active_iff (t : SwapType) (curr : Bool) :
    (swapFlags t curr).active = true ↔ curr = true ∧ (t = .none ∨ t = .revert) := by
  cases t <;> cases curr <;> simp [swapFlags]

theorem swapFlags_active (t : SwapType) (curr : Bool) (h : (swapFlags t curr).active) :
    curr = true :=
  ((swapFlags_active_iff t curr).1 h).1

theorem stateFlags_default {b : Build} (boot : BootState) (hb : b.scorpio = false) (i : Int) :
    imgMgmtStateFlags b boot i =
      swapFlags (imgMgmtImplSwapType boot.swapType) (decide (i = b.bootCurrSlot)) := by
  simp only [imgMgmtStateFlags, hb]; rfl

/-- In the default build the running slot is always in use: every swap type marks it CONFIRMED
or ACTIVE. -/
theorem runningSlot_inUse {b : Build} (boot : BootState) (hb : b.scorpio = false) :
    imgMgmtSlotInUse b boot b.bootCurrSlot = true := by
  simp only [imgMgmtSlotInUse, stateFlags_default boot hb, decide_True]
  cases imgMgmtImplSwapType boot.swapType <;> rfl

end McuMgr.SlotState
