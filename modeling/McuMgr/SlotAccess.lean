import McuMgr.Erase

set_option autoImplicit false

/-!
# Slot access and the trailer helpers

The slot helpers open a slot's area through `zephyr_img_mgmt_flash_area_id`, so a slot with no
configured area opens area 255. The MCUboot constants `BOOT_MAGIC_SZ`, `BOOT_MAX_ALIGN` and
`boot_img_magic` are not in the port's sources; `TrailerLayout` takes them as parameters.
-/
namespace McuMgr.SlotAccess
open McuMgr.Config McuMgr.SlotSelect McuMgr.Flash McuMgr.Erase

/-- `flash_area_open(zephyr_img_mgmt_flash_area_id(slot), &fa)`: the area, or `none` when the
open fails. -/
def openSlotArea (b : Build) (flash : FlashMap) (slot : Int) : Option FlashArea :=
  flash (toUInt8 (zephyrImgMgmtFlashAreaId b slot))

theorem openSlotArea_unconfigured {b : Build} {flash : FlashMap} {slot : Int}
    (h : b.imageArea slot = none) : openSlotArea b flash slot = flash 255 := by
  rw [openSlotArea, flashAreaId_of_none h]
  rfl

/-- `img_mgmt_impl_read`, with the read `(offset, num_bytes)` it issues. -/
def imgMgmtImplRead (b : Build) (flash : FlashMap) (slot : Int) (offset numBytes : Nat) :
    Except MgmtErr Unit × List (Nat × Nat) :=
  match openSlotArea b flash slot with
  | none => (.error .eunknown, [])
  | some fa =>
    (if fa.readOk offset numBytes then .ok () else .error .eunknown, [(offset, numBytes)])

def imgMgmtImplErasedVal (b : Build) (flash : FlashMap) (slot : Int) : Except MgmtErr UInt8 :=
  match openSlotArea b flash slot with
  | none => .error .eunknown
  | some fa => .ok fa.erasedVal

/-! ## Erasing the trailer -/

/-- `img_mgmt_impl_erase_trailer`, with the erase `(off, erase_size)` it issues. The status of the
page lookup is dropped: when it fails, `page` is read uninitialised, and holds `stale`. -/
def imgMgmtImplEraseTrailer (b : Build) (trailerOffs : FlashArea → Nat) (flash : FlashMap)
    (stale : PageInfo) (slot : Int) : Except MgmtErr Unit × List (Nat × Nat) :=
  match openSlotArea b flash slot with
  | none => (.error .eunknown, [])
  | some fa =>
    let page := (flashGetPageInfoByOffs fa.device (fa.off + trailerOffs fa)).getD stale
    let off := toU32 (page.startOffset - fa.off)
    let eraseSize := toU32 (fa.size - off)
    (if fa.eraseOk off eraseSize then .ok () else .error .eunknown, [(off, eraseSize)])

/-- In an area that starts and ends on page boundaries, the trailer helper erases from the start
`P` of the page holding the trailer's first byte to the end of the area, whatever the stack
holds, so every byte of the trailer is erased; it fails exactly when that erase does. -/
theorem eraseTrailer_covers {b : Build} {trailerOffs : FlashArea → Nat} {flash : FlashMap}
    {slot : Int} {fa : FlashArea} (hs : IsBoundary fa.device fa.off)
    (he : IsBoundary fa.device (fa.off + fa.size)) (ht : trailerOffs fa < fa.size)
    (hfa : openSlotArea b flash slot = some fa) (stale : PageInfo) :
    ∃ P, P ≤ trailerOffs fa ∧ IsBoundary fa.device (fa.off + P) ∧
      (∀ x, IsBoundary fa.device (fa.off + x) → x ≤ trailerOffs fa → x ≤ P) ∧
      imgMgmtImplEraseTrailer b trailerOffs flash stale slot =
        (if fa.eraseOk P (fa.size - P) then .ok () else .error .eunknown, [(P, fa.size - P)]) ∧
      ∀ a, trailerOffs fa ≤ a → a < fa.size → Covered [(P, fa.size - P)] a := by
  have hsize := fa.size_lt
  obtain ⟨q, hq, hqa, hqlo, -, -, hqb, -, hmax⟩ :=
    page_in_area hs he (o := fa.off + trailerOffs fa) (by omega) (by omega)
  have hP : toU32 (q.startOffset - fa.off) = q.startOffset - fa.off :=
    toU32_of_eq (by omega) (by omega)
  have hR : toU32 (fa.size - (q.startOffset - fa.off : Nat)) = fa.size - (q.startOffset - fa.off) :=
    toU32_of_eq (by omega) (by omega)
  refine ⟨q.startOffset - fa.off, by omega,
    by rwa [show fa.off + (q.startOffset - fa.off) = q.startOffset by omega],
    fun x hx hxt => by have := hmax _ hx (by omega); omega, ?_,
    fun a hlo hhi => ⟨_, List.mem_singleton_self _, by dsimp only; omega⟩⟩
  simp only [imgMgmtImplEraseTrailer, hfa, hq, Option.getD_some, hP, hR]

theorem eraseTrailer_covers_last_page :
    let b : Build :=
      { scorpio := true, lazyErase := false, rejectXipMismatch := false,
        bootCurrSlot := 0, image0 := 1, image1 := 2, image2 := none, image3 := none,
        headerSize := 32, imageMagic := 0x96f3b83d, dataShaLen := 32 }
    let fa : FlashArea :=
      { off := 4096, size := 12288, device := ⟨[4096, 4096, 4096, 4096]⟩, align := 8,
        erasedVal := 255, bytes := (fun _ => 0), readOk := (fun _ _ => true),
        eraseOk := (fun _ _ => true), off_lt := (by decide), size_lt := (by decide) }
    let flash : FlashMap := fun id => if id = 2 then some fa else none
    let t := bootTrailerImgStatusOffs 16 8
    IsBoundary fa.device fa.off ∧ IsBoundary fa.device (fa.off + fa.size) ∧ t fa < fa.size ∧
      openSlotArea b flash 1 = some fa ∧
      imgMgmtImplEraseTrailer b t flash ⟨0, 0⟩ 1 = (.ok (), [(8192, 4096)]) ∧
      ∃ P, P ≤ t fa ∧ IsBoundary fa.device (fa.off + P) ∧
        (∀ x, IsBoundary fa.device (fa.off + x) → x ≤ t fa → x ≤ P) ∧
        imgMgmtImplEraseTrailer b t flash ⟨0, 0⟩ 1 =
          (if fa.eraseOk P (fa.size - P) then .ok () else .error .eunknown, [(P, fa.size - P)]) ∧
        ∀ a, t fa ≤ a → a < fa.size → Covered [(P, fa.size - P)] a := by
  intro b fa flash t
  have hs : IsBoundary fa.device fa.off := by decide
  have he : IsBoundary fa.device (fa.off + fa.size) := by decide
  have hfa : openSlotArea b flash 1 = some fa := rfl
  have hres : imgMgmtImplEraseTrailer b t flash ⟨0, 0⟩ 1 = (.ok (), [(8192, 4096)]) := by
    simp only [imgMgmtImplEraseTrailer, hfa, t, bootTrailerImgStatusOffs]
    rfl
  exact ⟨hs, he, by decide, hfa, hres, @eraseTrailer_covers b t flash 1 fa hs he (by decide) hfa ⟨0, 0⟩⟩

/-! ## Fixing up the trailer -/

/-- The MCUboot trailer layout: `BOOT_MAGIC_SZ`, `BOOT_MAX_ALIGN` and the words of
`boot_img_magic`. -/
structure TrailerLayout where
  magicSz : Nat
  maxAlign : Nat
  bootImgMagic : Nat → Nat

/-- `boot_magic_off`, in `uint32_t` arithmetic. -/
def bootMagicOff (l : TrailerLayout) (fa : FlashArea) : Nat := toU32 (fa.size - l.magicSz)

def bootImageOkOff (l : TrailerLayout) (fa : FlashArea) : Nat :=
  toU32 (bootMagicOff l fa - l.maxAlign)

def bootCopyDoneOff (l : TrailerLayout) (fa : FlashArea) : Nat :=
  toU32 (bootImageOkOff l fa - l.maxAlign)

/-- The `for (i = 0; i < BOOT_MAGIC_WORDS; i++)` loop from `i`, with `n` words left, that breaks
at the first word read back that differs from `boot_img_magic`: the final `i`. -/
def magicLoop (readWord magicWord : Nat → Nat) (i : Nat) : Nat → Nat
  | 0 => i
  | n + 1 => if readWord i ≠ magicWord i then i else magicLoop readWord magicWord (i + 1) n

theorem magicLoop_lt_iff (readWord magicWord : Nat → Nat) (i n : Nat) :
    magicLoop readWord magicWord i n < i + n ↔ ∃ j, i ≤ j ∧ j < i + n ∧ readWord j ≠ magicWord j := by
  induction n generalizing i with
  | zero => simp only [magicLoop, Nat.add_zero, Nat.lt_irrefl, false_iff]; omega
  | succ n ih =>
    by_cases h : readWord i ≠ magicWord i
    · rw [magicLoop, if_pos h]
      exact iff_of_true (by omega) ⟨i, Nat.le_refl i, by omega, h⟩
    · rw [magicLoop, if_neg h, show i + (n + 1) = i + 1 + n by omega, ih]
      constructor
      · rintro ⟨j, hlo, hhi, hj⟩
        exact ⟨j, by omega, hhi, hj⟩
      · rintro ⟨j, hlo, hhi, hj⟩
        refine ⟨j, ?_, hhi, hj⟩
        rcases Nat.eq_or_lt_of_le hlo with rfl | hlt
        · exact absurd hj h
        · exact hlt

/-- A write `img_mgmt_impl_write_trailer` makes: `boot_write_magic(fa)`, or
`boot_write_trailer_flag(fa, off, flag_val)`. -/
inductive TrailerWrite where
  | magic
  | flag (off : Nat) (val : UInt8)
  deriving DecidableEq, Repr

inductive TrailerRc where
  | ok
  | err (e : MgmtErr)
  | minusOne
  deriving DecidableEq, Repr

structure WriteTrailerResult where
  rc : TrailerRc
  writes : List TrailerWrite
  leftOpen : Bool
  deriving DecidableEq, Repr

def imgMgmtImplWriteTrailer (l : TrailerLayout) (b : Build) (flash : FlashMap) (slot : Int) :
    WriteTrailerResult :=
  match openSlotArea b flash slot with
  | none => ⟨.err .eunknown, [], false⟩
  | some fa =>
    if !fa.readOk (bootMagicOff l fa) l.magicSz then ⟨.minusOne, [], true⟩
    else
      let words := l.magicSz / 4
      if magicLoop (fun i => wordAt fa (bootMagicOff l fa + 4 * i)) l.bootImgMagic 0 words < words then
        let eraseVal := fa.erasedVal
        ⟨.ok, [.magic, .flag (bootCopyDoneOff l fa) eraseVal, .flag (bootImageOkOff l fa) eraseVal],
          false⟩
      else ⟨.ok, [], false⟩

/-- The trailer fix-up: an area that does not open gives `MGMT_ERR_EUNKNOWN`. Otherwise the call
returns `-1`, and only then leaves the area open, exactly when the magic cannot be read, and 0
whatever its writes do; it writes the magic and sets both flags to the erased value exactly when
the magic read back differs from `boot_img_magic` in one of its words. -/
theorem writeTrailer_spec (l : TrailerLayout) (b : Build) (flash : FlashMap) (slot : Int) :
    (openSlotArea b flash slot = none →
      imgMgmtImplWriteTrailer l b flash slot = ⟨.err .eunknown, [], false⟩) ∧
    ∀ fa, openSlotArea b flash slot = some fa →
      let r := imgMgmtImplWriteTrailer l b flash slot
      (r.leftOpen = true ↔ r.rc = .minusOne) ∧
      (r.rc = .minusOne ↔ fa.readOk (bootMagicOff l fa) l.magicSz = false) ∧
      (r.rc = .ok ↔ fa.readOk (bootMagicOff l fa) l.magicSz = true) ∧
      (r.writes ≠ [] ↔ fa.readOk (bootMagicOff l fa) l.magicSz = true ∧
        ∃ j < l.magicSz / 4, wordAt fa (bootMagicOff l fa + 4 * j) ≠ l.bootImgMagic j) ∧
      (r.writes ≠ [] → r.writes =
        [.magic, .flag (bootCopyDoneOff l fa) fa.erasedVal, .flag (bootImageOkOff l fa) fa.erasedVal]) := by
  refine ⟨fun h => by simp only [imgMgmtImplWriteTrailer, h], fun fa hfa => ?_⟩
  have hloop := magicLoop_lt_iff (fun i => wordAt fa (bootMagicOff l fa + 4 * i)) l.bootImgMagic 0
    (l.magicSz / 4)
  simp only [Nat.zero_add, Nat.zero_le, true_and] at hloop
  dsimp only
  unfold imgMgmtImplWriteTrailer
  rw [hfa]
  dsimp only
  cases hread : fa.readOk (bootMagicOff l fa) l.magicSz
  · simp
  · by_cases hm : magicLoop (fun i => wordAt fa (bootMagicOff l fa + 4 * i)) l.bootImgMagic 0
        (l.magicSz / 4) < l.magicSz / 4 <;> simp [hm, ← hloop]

theorem trailer_offsets (l : TrailerLayout) (fa : FlashArea)
    (h : l.magicSz + 2 * l.maxAlign ≤ fa.size) :
    bootMagicOff l fa + l.magicSz = fa.size ∧ bootImageOkOff l fa + l.maxAlign = bootMagicOff l fa ∧
      bootCopyDoneOff l fa + l.maxAlign = bootImageOkOff l fa := by
  have hsize := fa.size_lt
  have hm : bootMagicOff l fa = fa.size - l.magicSz := toU32_of_eq (by omega) (by omega)
  have hi : bootImageOkOff l fa = fa.size - l.magicSz - l.maxAlign := by
    rw [bootImageOkOff, hm]; exact toU32_of_eq (by omega) (by omega)
  have hc : bootCopyDoneOff l fa = fa.size - l.magicSz - 2 * l.maxAlign := by
    rw [bootCopyDoneOff, hi]; exact toU32_of_eq (by omega) (by omega)
  omega

end McuMgr.SlotAccess
