import Mathlib.Tactic.Ring

set_option autoImplicit false

/-!
# Build configuration, management error codes and C integer conversions

The Zephyr port of `img_mgmt` is compiled against Kconfig options and devicetree macros that
do not appear in its own sources. `Build` collects them, so that every result below holds
for every configuration the port can be built in.
-/
namespace McuMgr.Config

/-- The compile-time configuration, in field order: `CONFIG_BOARD_SCORPIO`, `IMG_MGMT_LAZY_ERASE`,
`CONFIG_IMG_MGMT_REJECT_DIRECT_XIP_MISMATCHED_SLOT`, `IMG_MGMT_BOOT_CURR_SLOT`, the
`FLASH_AREA_ID` of `image_0` to `image_3` (the last two only when the label exists),
`sizeof(struct image_header)`, `IMAGE_MAGIC` and `IMG_MGMT_DATA_SHA_LEN`. -/
structure Build where
  scorpio : Bool
  lazyErase : Bool
  rejectXipMismatch : Bool
  bootCurrSlot : Int
  image0 : UInt8
  image1 : UInt8
  image2 : Option UInt8
  image3 : Option UInt8
  headerSize : Nat
  imageMagic : Nat
  dataShaLen : Nat

def Build.imageArea (b : Build) : Int → Option UInt8
  | 0 => some b.image0
  | 1 => some b.image1
  | 2 => b.image2
  | 3 => b.image3
  | _ => none

/-- `MGMT_ERR_*`: the non-zero codes a management handler returns. -/
inductive MgmtErr where
  | eunknown
  | enomem
  | einval
  | enoent
  | ebadstate
  deriving DecidableEq, Repr

@[simp] theorem isOk_ok {ε α : Type} (a : α) : (Except.ok a : Except ε α).isOk = true := rfl

@[simp] theorem isOk_error {ε α : Type} (e : ε) : (Except.error e : Except ε α).isOk = false := rfl

/-- Storing an `int` into a `uint8_t` keeps its value modulo 256. -/
def toUInt8 (v : Int) : UInt8 := UInt8.ofNat (v % 256).toNat

/-- Storing an `off_t` value into a 32-bit `unsigned int` or `size_t` keeps it modulo 2^32. -/
def toU32 (v : Int) : Nat := (v % 2^32).toNat

theorem toU32_of_eq {v : Int} {a : Nat} (hv : v = a) (ha : a < 2^32) : toU32 v = a := by
  rw [toU32, hv, Int.emod_eq_of_lt (by omega) (by omega)]
  rfl

/-- Converting an unsigned value to a 32-bit `int` or `off_t` keeps the low 32 bits, two's
complement. -/
def toInt32 (v : Nat) : Int :=
  if v % 2^32 < 2^31 then (v % 2^32 : Nat) else (v % 2^32 : Nat) - 2^32

/-- `(unsigned long long)-1`, the decoder's marker for an absent `off` or `len` field. -/
def ullMinusOne : Nat := 2^64 - 1

theorem toUInt8_toNat (v : Int) : (toUInt8 v).toNat = (v % 256).toNat := by
  have h : (v % 256).toNat < 256 := by omega
  simp only [toUInt8, UInt8.toNat_ofNat_of_lt h]

@[simp] theorem toUInt8_neg_one : toUInt8 (-1) = 255 := rfl

@[simp] theorem toUInt8_toNat_self (id : UInt8) : toUInt8 (id.toNat : Int) = id := by
  have h : id.toNat < 256 := id.toNat_lt_size
  apply UInt8.toNat.inj
  rw [toUInt8_toNat]
  omega

theorem toInt32_of_lt {v : Nat} (h : v < 2^31) : toInt32 v = v := by
  have hv : v % 2^32 = v := Nat.mod_eq_of_lt (by omega)
  simp only [toInt32, hv, h, if_true]

/-- The slot number `req->image - 1` that `img_mgmt_impl_upload_inspect` hands to the selector. -/
def imageSlot (image : Nat) : Int := toInt32 ((image + ullMinusOne) % 2^64)

theorem imageSlot_zero : imageSlot 0 = -1 := by decide

theorem imageSlot_of_pos {image : Nat} (h0 : 0 < image) (h : image ≤ 2^31) :
    imageSlot image = image - 1 := by
  have hm : (image + ullMinusOne) % 2^64 = image - 1 := by
    rw [ullMinusOne, show image + (2^64 - 1) = (image - 1) + 2^64 by omega, Nat.add_mod_right,
      Nat.mod_eq_of_lt (by omega)]
  rw [imageSlot, hm, toInt32_of_lt (by omega)]
  omega

end McuMgr.Config
