import McuMgr.Config

set_option autoImplicit false

/-!
# Flash areas and the erased-slot scan

The Zephyr flash map and flash driver are collaborators: `FlashArea` records what they answer for
one area. `zephyr_img_mgmt_flash_check_empty` scans an area in 64-byte reads.
-/
namespace McuMgr.Flash
open McuMgr.Config

/-- A flash device, by the sizes of its pages in address order from offset 0. -/
structure Device where
  pages : List Nat

/-- `struct flash_area` (`fa_off`, a 32-bit `off_t`, and the `uint32_t fa_size`) with what the
driver answers for it: `flash_area_get_device`, `flash_area_align`, `flash_area_erased_val`, the
contents, and whether `flash_area_read` and `flash_area_erase` at (offset, length) return 0.
Offsets are relative to the start of the area. -/
structure FlashArea where
  off : Nat
  size : Nat
  device : Device
  align : UInt8
  erasedVal : UInt8
  bytes : Nat → UInt8
  readOk : Nat → Nat → Bool
  eraseOk : Nat → Nat → Bool
  off_lt : off < 2^31
  size_lt : size < 2^32

/-- `flash_area_open`: the area a flash area id names, if there is one. -/
abbrev FlashMap := UInt8 → Option FlashArea

structure PageInfo where
  startOffset : Nat
  size : Nat
  deriving DecidableEq, Repr

def pageInfoFrom : List Nat → Nat → Int → Option PageInfo
  | [], _, _ => none
  | sz :: rest, start, offs =>
    if offs < 0 then none
    else if offs < start + sz then some ⟨start, sz⟩
    else pageInfoFrom rest (start + sz) offs

def flashGetPageInfoByOffs (dev : Device) (offs : Int) : Option PageInfo :=
  pageInfoFrom dev.pages 0 offs

def erasedVal32 (x : Nat) : Nat := (x <<< 24) ||| (x <<< 16) ||| (x <<< 8) ||| x

/-- The `uint32_t` that `flash_area_read` leaves in `data[i]` for the four bytes at `a`. -/
def wordAt (fa : FlashArea) (a : Nat) : Nat :=
  (fa.bytes a).toNat + 256 * ((fa.bytes (a + 1)).toNat +
    256 * ((fa.bytes (a + 2)).toNat + 256 * (fa.bytes (a + 3)).toNat))

def bytesToRead (end_ addr : Nat) : Nat := if end_ - addr < 64 then end_ - addr else 64

def chunkErased (fa : FlashArea) (ev addr n : Nat) : Bool :=
  (List.range (n / 4)).all fun i => wordAt fa (addr + 4 * i) = ev

/-- The `for (addr = 0; addr < end; addr += sizeof data)` loop of
`zephyr_img_mgmt_flash_check_empty` from `addr` on, with the reads `(addr, bytes_to_read)` it
issues. -/
def checkEmptyLoop (fa : FlashArea) (ev end_ addr : Nat) : Except MgmtErr Bool × List (Nat × Nat) :=
  if addr < end_ then
    if fa.readOk addr (bytesToRead end_ addr) then
      if chunkErased fa ev addr (bytesToRead end_ addr) then
        let rest := checkEmptyLoop fa ev end_ (addr + 64)
        (rest.1, (addr, bytesToRead end_ addr) :: rest.2)
      else (.ok false, [(addr, bytesToRead end_ addr)])
    else (.error .eunknown, [(addr, bytesToRead end_ addr)])
  else (.ok true, [])
termination_by end_ - addr

/-- The scan's `off_t end`: `fa_size`, which wraps negative from 2^31 on so that the loop does not
run, or `MIN(512, fa_size)` on Scorpio, where the comparison is unsigned. -/
def scanEnd (b : Build) (fa : FlashArea) : Nat :=
  if b.scorpio then min 512 fa.size else (toInt32 fa.size).toNat

/-- `zephyr_img_mgmt_flash_check_empty`: `ok empty`, or the error code, and the reads made. -/
def zephyrImgMgmtFlashCheckEmpty (b : Build) (flash : FlashMap) (faId : UInt8) :
    Except MgmtErr Bool × List (Nat × Nat) :=
  match flash faId with
  | none => (.error .eunknown, [])
  | some fa => checkEmptyLoop fa (erasedVal32 fa.erasedVal.toNat) (scanEnd b fa) 0

section Frame
variable {fa fa' : FlashArea} {end_ : Nat}

end Frame

end McuMgr.Flash
