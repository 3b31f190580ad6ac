import McuMgr.Flash
import McuMgr.SlotSelect

set_option autoImplicit false

/-!
# Erasing an image slot

`img_mgmt_impl_erase_image_data` erases the pages that hold the first `num_bytes` of the slot,
and then the image trailer, but only when the trailer starts past that first erase
(`off >= erase_size`).
-/
namespace McuMgr.Erase
open McuMgr.Config McuMgr.SlotState McuMgr.SlotSelect McuMgr.Flash

/-- The page boundaries of pages laid out from `start`, the end of the last one included. -/
def boundaries : List Nat → Nat → List Nat
  | [], start => [start]
  | sz :: rest, start => start :: boundaries rest (start + sz)

def IsBoundary (dev : Device) (x : Nat) : Prop := x ∈ boundaries dev.pages 0

instance (dev : Device) (x : Nat) : Decidable (IsBoundary dev x) :=
  inferInstanceAs (Decidable (x ∈ boundaries dev.pages 0))

theorem boundaries_ge {pages : List Nat} {start x : Nat} (h : x ∈ boundaries pages start) :
    start ≤ x := by
  induction pages generalizing start with
  | nil => simp [boundaries] at h; omega
  | cons sz rest ih =>
    rcases List.mem_cons.1 h with rfl | h
    · exact Nat.le_refl _
    · have := ih h; omega

theorem boundaries_last_le {pages : List Nat} {start x : Nat} (h : x ∈ boundaries pages start) :
    x ≤ start + pages.sum := by
  induction pages generalizing start with
  | nil => simp [boundaries] at h; omega
  | cons sz rest ih =>
    rcases List.mem_cons.1 h with rfl | h
    · omega
    · have := ih h; simp only [List.sum_cons]; omega

theorem pageInfoFrom_spec (pages : List Nat) (start : Nat) (offs : Int) (hs : start ≤ offs)
    (he : offs < start + pages.sum) :
    ∃ p, pageInfoFrom pages start offs = some p ∧ p.startOffset ≤ offs ∧
      offs < p.startOffset + p.size ∧ p.startOffset ∈ boundaries pages start ∧
      p.startOffset + p.size ∈ boundaries pages start ∧
      (∀ x ∈ boundaries pages start, x ≤ offs → x ≤ p.startOffset) ∧
      (∀ x ∈ boundaries pages start, offs < x → p.startOffset + p.size ≤ x) := by
  induction pages generalizing start with
  | nil => simp at he; omega
  | cons sz rest ih =>
    simp only [List.sum_cons] at he
    have hhead : start + sz ∈ boundaries rest (start + sz) := by cases rest <;> simp [boundaries]
    by_cases hin : offs < start + sz
    · refine ⟨⟨start, sz⟩, by simp [pageInfoFrom, hin]; omega, hs, hin, List.mem_cons_self _ _,
        List.mem_cons_of_mem _ hhead, ?_, ?_⟩
      · rintro x hx hle
        rcases List.mem_cons.1 hx with rfl | hx
        · exact Nat.le_refl _
        · have := boundaries_ge hx; omega
      · rintro x hx hlt
        rcases List.mem_cons.1 hx with rfl | hx
        · omega
        · exact boundaries_ge hx
    · obtain ⟨p, hp, hlo, hhi, hps, hpe, hbelow, habove⟩ := ih (start + sz) (by omega) (by omega)
      have hnext : start + sz ≤ p.startOffset := hbelow _ hhead (by omega)
      refine ⟨p, by simp only [pageInfoFrom]; rw [if_neg (by omega), if_neg hin, hp], hlo, hhi,
        List.mem_cons_of_mem _ hps, List.mem_cons_of_mem _ hpe, ?_, ?_⟩
      · rintro x hx hle
        rcases List.mem_cons.1 hx with rfl | hx
        · omega
        · exact hbelow x hx hle
      · rintro x hx hlt
        rcases List.mem_cons.1 hx with rfl | hx
        · omega
        · exact habove x hx hlt

/-- `img_mgmt_impl_erase_image_data`, with the erases `(off, len)` it issues. The slot is
`g_img_mgmt_state.area_id` and `trailerOffs` is `BOOT_TRAILER_IMG_STATUS_OFFS`. The return
code of the second page lookup is dropped, so on failure `page` keeps its first value. -/
def imgMgmtImplEraseImageData (trailerOffs : FlashArea → Nat) (flash : FlashMap) (areaId : Int)
    (off numBytes : Nat) : Except MgmtErr Unit × List (Nat × Nat) :=
  if off ≠ 0 then (.error .einval, [])
  else
    match flash (toUInt8 areaId) with
    | none => (.error .eunknown, [])
    | some fa =>
      match flashGetPageInfoByOffs fa.device (fa.off + numBytes - 1) with
      | none => (.error .eunknown, [])
      | some page =>
        let eraseSize := toU32 (page.startOffset + page.size - fa.off)
        if fa.eraseOk 0 eraseSize = false then (.error .eunknown, [(0, eraseSize)])
        else if trailerOffs fa ≥ eraseSize then
          let page := (flashGetPageInfoByOffs fa.device (fa.off + trailerOffs fa)).getD page
          let off := toU32 (page.startOffset - fa.off)
          let eraseSize' := toU32 (fa.size - off)
          if fa.eraseOk off eraseSize' = false then
            (.error .eunknown, [(0, eraseSize), (off, eraseSize')])
          else (.ok (), [(0, eraseSize), (off, eraseSize')])
        else (.ok (), [(0, eraseSize)])

def Covered (erased : List (Nat × Nat)) (a : Nat) : Prop := ∃ r ∈ erased, r.1 ≤ a ∧ a < r.1 + r.2

instance (erased : List (Nat × Nat)) (a : Nat) : Decidable (Covered erased a) :=
  inferInstanceAs (Decidable (∃ r ∈ erased, r.1 ≤ a ∧ a < r.1 + r.2))

section Geometry
variable {trailerOffs : FlashArea → Nat} {flash : FlashMap} {areaId : Int} {fa : FlashArea}
  {numBytes : Nat}

/-- The geometry of a slot: pages tile the device, the area starts and ends on page boundaries,
the trailer starts inside the area and the image is non-empty and fits. -/
structure Geometry (trailerOffs : FlashArea → Nat) (fa : FlashArea) (numBytes : Nat) : Prop where
  start_boundary : IsBoundary fa.device fa.off
  end_boundary : IsBoundary fa.device (fa.off + fa.size)
  trailer_lt : trailerOffs fa < fa.size
  image_pos : 1 ≤ numBytes
  image_le : numBytes ≤ fa.size

theorem page_in_area (hs : IsBoundary fa.device fa.off)
    (he : IsBoundary fa.device (fa.off + fa.size)) {o : Int} (hlo : fa.off ≤ o)
    (hhi : o < fa.off + fa.size) :
    ∃ p, flashGetPageInfoByOffs fa.device o = some p ∧ fa.off ≤ p.startOffset ∧
      p.startOffset ≤ o ∧ o < p.startOffset + p.size ∧
      p.startOffset + p.size ≤ fa.off + fa.size ∧ IsBoundary fa.device p.startOffset ∧
      IsBoundary fa.device (p.startOffset + p.size) ∧
      ∀ x, IsBoundary fa.device x → x ≤ o → x ≤ p.startOffset := by
  have hdev := boundaries_last_le he
  obtain ⟨p, hp, hplo, hphi, hps, hpe, hbelow, habove⟩ :=
    pageInfoFrom_spec fa.device.pages 0 o (by omega) (by omega)
  exact ⟨p, hp, hbelow _ hs (by omega), hplo, hphi,
    habove _ he (by omega), hps, hpe, hbelow⟩

/-- Under the geometry the call erases `[0, E)`, `E` the end of the page holding the image's
last byte, and then `[P, fa_size)`, `P` the start of the page holding the trailer's first
byte, when the trailer starts at or past `E`. -/
theorem eraseImageData_eq (hg : Geometry trailerOffs fa numBytes)
    (hfa : flash (toUInt8 areaId) = some fa) :
    ∃ E P, numBytes ≤ E ∧ E ≤ fa.size ∧ IsBoundary fa.device (fa.off + E) ∧
      P ≤ trailerOffs fa ∧ IsBoundary fa.device (fa.off + P) ∧
      imgMgmtImplEraseImageData trailerOffs flash areaId 0 numBytes =
        if fa.eraseOk 0 E = false then (.error .eunknown, [(0, E)])
        else if trailerOffs fa ≥ E then
          if fa.eraseOk P (fa.size - P) = false then
            (.error .eunknown, [(0, E), (P, fa.size - P)])
          else (.ok (), [(0, E), (P, fa.size - P)])
        else (.ok (), [(0, E)]) := by
  have hsize := fa.size_lt
  have ht := hg.trailer_lt
  have h1 := hg.image_pos
  have hn := hg.image_le
  obtain ⟨p, hp, hpa, hplo, hphi, hpe, -, hpb, -⟩ :=
    page_in_area hg.start_boundary hg.end_boundary (o := fa.off + numBytes - 1) (by omega) (by omega)
  obtain ⟨q, hq, hqa, hqlo, -, -, hqb, -⟩ :=
    page_in_area hg.start_boundary hg.end_boundary (o := fa.off + trailerOffs fa) (by omega) (by omega)
  refine ⟨p.startOffset + p.size - fa.off, q.startOffset - fa.off, by omega, by omega,
    by rwa [show fa.off + (p.startOffset + p.size - fa.off) = p.startOffset + p.size by omega],
    by omega, by rwa [show fa.off + (q.startOffset - fa.off) = q.startOffset by omega], ?_⟩
  have hE : toU32 (p.startOffset + p.size - fa.off) = p.startOffset + p.size - fa.off :=
    toU32_of_eq (by omega) (by omega)
  have hP : toU32 (q.startOffset - fa.off) = q.startOffset - fa.off := toU32_of_eq (by omega) (by omega)
  have hR : toU32 (fa.size - (q.startOffset - fa.off : Nat)) = fa.size - (q.startOffset - fa.off) :=
    toU32_of_eq (by omega) (by omega)
  simp only [imgMgmtImplEraseImageData, hfa, hp, hq, hE, hP, hR, Option.getD_some, ne_eq,
    not_true_eq_false, if_false]

/-- A successful call erases whole pages of the area and the first `num_bytes`; it erases the
whole trailer exactly when the trailer starts at or past the first erase, or that erase already
reaches the end of the area. -/
theorem eraseImageData_ok (hg : Geometry trailerOffs fa numBytes)
    (hfa : flash (toUInt8 areaId) = some fa)
    (hok : (imgMgmtImplEraseImageData trailerOffs flash areaId 0 numBytes).1 = .ok ()) :
    let erased := (imgMgmtImplEraseImageData trailerOffs flash areaId 0 numBytes).2
    (∀ r ∈ erased, IsBoundary fa.device (fa.off + r.1) ∧
      IsBoundary fa.device (fa.off + (r.1 + r.2)) ∧ r.1 + r.2 ≤ fa.size) ∧
    (∀ a, a < numBytes → Covered erased a) ∧
    ∃ E, (0, E) ∈ erased ∧ numBytes ≤ E ∧
      ((∀ a, trailerOffs fa ≤ a → a < fa.size → Covered erased a) ↔
        (E ≤ trailerOffs fa ∨ E = fa.size)) := by
  obtain ⟨E, P, hnE, hEs, hEb, hPt, hPb, heq⟩ := eraseImageData_eq hg hfa
  have ht := hg.trailer_lt
  have hstart : IsBoundary fa.device (fa.off + 0) := by simpa using hg.start_boundary
  have hfirst : IsBoundary fa.device (fa.off + (0 + E)) := by simpa using hEb
  have hlast : IsBoundary fa.device (fa.off + (P + (fa.size - P))) := by
    rw [show fa.off + (P + (fa.size - P)) = fa.off + fa.size by omega]; exact hg.end_boundary
  rw [heq] at hok ⊢
  by_cases h0 : fa.eraseOk 0 E = false
  · rw [if_pos h0] at hok; cases hok
  rw [if_neg h0] at hok ⊢
  by_cases hge : trailerOffs fa ≥ E
  · rw [if_pos hge] at hok ⊢
    by_cases h1 : fa.eraseOk P (fa.size - P) = false
    · rw [if_pos h1] at hok; cases hok
    rw [if_neg h1]
    dsimp only
    refine ⟨?_, fun a ha => ⟨(0, E), by simp, by dsimp only; omega⟩, E, by simp, hnE,
      iff_of_true (fun a hta has => ⟨(P, fa.size - P), by simp, by dsimp only; omega⟩) (.inl hge)⟩
    simp only [List.mem_cons, List.mem_singleton, List.not_mem_nil, or_false]
    rintro r (rfl | rfl)
    · exact ⟨hstart, hfirst, by dsimp only; omega⟩
    · exact ⟨hPb, hlast, by dsimp only; omega⟩
  · rw [if_neg hge]
    dsimp only
    refine ⟨?_, fun a ha => ⟨(0, E), by simp, by dsimp only; omega⟩, E, by simp, hnE, ?_⟩
    · simp only [List.mem_singleton]
      rintro r rfl
      exact ⟨hstart, hfirst, by dsimp only; omega⟩
    constructor
    · intro h
      refine Classical.byContradiction fun hne => ?_
      obtain ⟨r, hr, -, hlt⟩ := h E (by omega) (by omega)
      rw [List.mem_singleton] at hr
      subst hr
      simp at hlt
    · rintro (h | h)
      · omega
      · exact fun a hta has => ⟨(0, E), by simp, by dsimp only; omega⟩

end Geometry

theorem eraseImageData_ok_whole_page :
    let fa : FlashArea :=
      { off := 4096, size := 12288, device := ⟨[4096, 4096, 4096, 4096]⟩, align := 8,
        erasedVal := 255, bytes := (fun _ => 0), readOk := (fun _ _ => true),
        eraseOk := (fun _ _ => true), off_lt := (by decide), size_lt := (by decide) }
    let flash : FlashMap := fun id => if id = 1 then some fa else none
    Geometry (fun _ => 6144) fa 4096 ∧ flash (toUInt8 1) = some fa ∧
      (imgMgmtImplEraseImageData (fun _ => 6144) flash 1 0 4096).1 = .ok () ∧
      (imgMgmtImplEraseImageData (fun _ => 6144) flash 1 0 4096).2 = [(0, 4096), (4096, 8192)] ∧
      ∀ a, a < 4096 → Covered (imgMgmtImplEraseImageData (fun _ => 6144) flash 1 0 4096).2 a := by
  intro fa flash
  have hg : Geometry (fun _ => 6144) fa 4096 :=
    ⟨by decide, by decide, by decide, by decide, by decide⟩
  have hres : imgMgmtImplEraseImageData (fun _ => 6144) flash 1 0 4096 =
      (.ok (), [(0, 4096), (4096, 8192)]) := by
    simp only [flash, fa]
    rfl
  have hcov := (eraseImageData_ok hg rfl (by rw [hres])).2.1
  rw [hres] at hcov ⊢
  exact ⟨hg, rfl, rfl, rfl, hcov⟩

/-- `BOOT_TRAILER_IMG_STATUS_OFFS` of `<dfu/mcuboot.h>`: the trailer starts `BOOT_MAGIC_SZ` and two
`BOOT_MAX_ALIGN` flag slots before the end of the area, where `boot_copy_done_off` puts it. -/
def bootTrailerImgStatusOffs (magicSz maxAlign : Nat) (fa : FlashArea) : Nat :=
  fa.size - magicSz - 2 * maxAlign

/-- A 64-byte slot on a device of 16-byte pages, with MCUboot's 16-byte magic and 8-byte
alignment: the trailer is `[32, 64)`, a 40-byte image ends in the page `[32, 48)` where the
trailer starts, the call succeeds after erasing `[0, 48)` only, and trailer byte 48 is left as it
was. -/
theorem eraseImageData_partial_trailer :
    let fa : FlashArea :=
      { off := 0, size := 64, device := ⟨[16, 16, 16, 16]⟩, align := 8, erasedVal := 255,
        bytes := (fun _ => 0), readOk := (fun _ _ => true), eraseOk := (fun _ _ => true),
        off_lt := (by decide), size_lt := (by decide) }
    let result := imgMgmtImplEraseImageData (bootTrailerImgStatusOffs 16 8)
      (fun id => if id = 1 then some fa else none) 1 0 40
    Geometry (bootTrailerImgStatusOffs 16 8) fa 40 ∧ bootTrailerImgStatusOffs 16 8 fa = 32 ∧
      result = (.ok (), [(0, 48)]) ∧ ¬Covered result.2 48 :=
  ⟨⟨by decide, by decide, by decide, by decide, by decide⟩, rfl, rfl, by decide⟩

/-- The area `img_mgmt_impl_erase_slot` picks: the first unused slot's or, on Scorpio when both
slots are in use, the unconfirmed one's, or that of the inactive one of two confirmed slots. -/
def eraseSlotTarget (b : Build) (boot : BootState) : Option Int :=
  let bestId := imgMgmtGetUnusedSlotAreaId b boot (-1)
  if bestId < 0 then
    if b.scorpio then
      let flags0 := imgMgmtStateFlags b boot 0
      let flags1 := imgMgmtStateFlags b boot 1
      let bestSlot : Int :=
        if flags0.confirmed && flags1.confirmed then (if flags0.active then 1 else 0)
        else (if flags0.confirmed then 1 else 0)
      some (zephyrImgMgmtFlashAreaId b bestSlot)
    else none
  else some bestId

/-- `img_mgmt_impl_erase_slot`, with the area `boot_erase_img_bank` is asked to erase, if any. -/
def imgMgmtImplEraseSlot (b : Build) (boot : BootState) (flash : FlashMap)
    (bankEraseOk : UInt8 → Bool) : Except MgmtErr Unit × Option UInt8 :=
  match eraseSlotTarget b boot with
  | none => (.error .eunknown, none)
  | some bestId =>
    match (zephyrImgMgmtFlashCheckEmpty b flash (toUInt8 bestId)).1 with
    | .error _ => (.error .eunknown, none)
    | .ok empty =>
      if !empty then
        if bankEraseOk (toUInt8 bestId) then (.ok (), some (toUInt8 bestId))
        else (.error .eunknown, some (toUInt8 bestId))
      else (.ok (), none)

theorem eraseSlot_cases (b : Build) (boot : BootState) (flash : FlashMap)
    (bankEraseOk : UInt8 → Bool) :
    let r := imgMgmtImplEraseSlot b boot flash bankEraseOk
    (eraseSlotTarget b boot = none ∧ r = (.error .eunknown, none)) ∨
    ∃ id, eraseSlotTarget b boot = some id ∧
      ((∃ e, (zephyrImgMgmtFlashCheckEmpty b flash (toUInt8 id)).1 = .error e ∧
          r = (.error .eunknown, none)) ∨
        ((zephyrImgMgmtFlashCheckEmpty b flash (toUInt8 id)).1 = .ok true ∧ r = (.ok (), none)) ∨
        ((zephyrImgMgmtFlashCheckEmpty b flash (toUInt8 id)).1 = .ok false ∧
          r.2 = some (toUInt8 id))) := by
  dsimp only
  unfold imgMgmtImplEraseSlot
  cases eraseSlotTarget b boot with
  | none => exact .inl ⟨rfl, rfl⟩
  | some id =>
    refine .inr ⟨id, rfl, ?_⟩
    dsimp only
    cases (zephyrImgMgmtFlashCheckEmpty b flash (toUInt8 id)).1 with
    | error e => exact .inl ⟨e, rfl, rfl⟩
    | ok empty =>
      cases empty
      · exact .inr (.inr ⟨rfl, by cases bankEraseOk (toUInt8 id) <;> rfl⟩)
      · exact .inr (.inl ⟨rfl, rfl⟩)

theorem eraseSlot_erases_target {b : Build} {boot : BootState} {flash : FlashMap}
    {bankEraseOk : UInt8 → Bool} {id : UInt8}
    (h : (imgMgmtImplEraseSlot b boot flash bankEraseOk).2 = some id) :
    ∃ bestId, eraseSlotTarget b boot = some bestId ∧ id = toUInt8 bestId := by
  rcases eraseSlot_cases b boot flash bankEraseOk with ⟨-, hr⟩ | ⟨bestId, ht, ⟨e, -, hr⟩ | ⟨-, hr⟩ | ⟨-, hr⟩⟩
    <;> simp [hr] at h
  exact ⟨bestId, ht, h.symm⟩

theorem eraseSlotTarget_default {b : Build} (boot : BootState) (hb : b.scorpio = false) :
    eraseSlotTarget b boot = if imgMgmtGetUnusedSlotAreaId b boot (-1) < 0 then none
      else some (imgMgmtGetUnusedSlotAreaId b boot (-1)) := by
  simp [eraseSlotTarget, hb]

/-- In the default build `img_mgmt_impl_erase_slot` only ever erases the area of slot 0 or 1
while that slot is not in use. -/
theorem eraseSlot_default_erases_unused (b : Build) (boot : BootState) (flash : FlashMap)
    (bankEraseOk : UInt8 → Bool) (hb : b.scorpio = false) {id : UInt8}
    (h : (imgMgmtImplEraseSlot b boot flash bankEraseOk).2 = some id) :
    ∃ t area, (t = 0 ∨ t = 1) ∧ b.imageArea t = some area ∧ id = toUInt8 area.toNat ∧
      imgMgmtSlotInUse b boot t = false := by
  obtain ⟨bestId, hbest, rfl⟩ : ∃ bestId, eraseSlotTarget b boot = some bestId ∧ id = toUInt8 bestId := by
    rcases eraseSlot_cases b boot flash bankEraseOk with ⟨-, hr⟩ | ⟨bestId, ht, ⟨e, -, hr⟩ | ⟨-, hr⟩ | ⟨-, hr⟩⟩
      <;> simp [hr] at h
    exact ⟨bestId, ht, h.symm⟩
  have hsel : eraseSlotTarget b boot = if imgMgmtGetUnusedSlotAreaId b boot (-1) < 0 then none
      else some (imgMgmtGetUnusedSlotAreaId b boot (-1)) := by
    simp [eraseSlotTarget, hb]
  rw [hsel] at hbest
  split_ifs at hbest with hneg
  cases hbest
  rcases unusedSlot_cases b boot (-1) with h1 | ⟨t, area, harea, heq, -, hfree, hpick⟩ | h2
  · omega
  · refine ⟨t, area, ?_, harea, by rw [heq], hfree (by omega)⟩
    rcases hpick rfl with rfl | ⟨rfl, -⟩ <;> simp
  · omega

theorem eraseSlot_default_erases_slot1 :
    let b : Build :=
      { scorpio := false, lazyErase := false, rejectXipMismatch := false,
        bootCurrSlot := 0, image0 := 1, image1 := 2, image2 := none, image3 := none,
        headerSize := 32, imageMagic := 0x96f3b83d, dataShaLen := 32 }
    let boot : BootState := ⟨.none, fun _ => ⟨false, false, false⟩⟩
    let fa : FlashArea :=
      { off := 16384, size := 12288, device := ⟨[4096, 4096, 4096, 4096, 4096, 4096, 4096]⟩,
        align := 8, erasedVal := 255, bytes := (fun _ => 0), readOk := (fun _ _ => true),
        eraseOk := (fun _ _ => true), off_lt := (by decide), size_lt := (by decide) }
    let flash : FlashMap := fun id => if id = 2 then some fa else none
    b.scorpio = false ∧ (imgMgmtImplEraseSlot b boot flash (fun _ => true)).2 = some 2 ∧
      ∃ t area, (t = 0 ∨ t = 1) ∧ b.imageArea t = some area ∧ (2 : UInt8) = toUInt8 area.toNat ∧
        imgMgmtSlotInUse b boot t = false := by
  intro b boot fa flash
  have hscan : (zephyrImgMgmtFlashCheckEmpty b flash 2).1 = .ok false := by
    have hf : flash 2 = some fa := rfl
    have hloop : zephyrImgMgmtFlashCheckEmpty b flash 2 =
        checkEmptyLoop fa (erasedVal32 255) 12288 0 := by
      simp only [zephyrImgMgmtFlashCheckEmpty, hf]
      rfl
    rw [hloop, checkEmptyLoop, if_pos (by decide), if_pos rfl, if_neg (by decide)]
  have h : (imgMgmtImplEraseSlot b boot flash (fun _ => true)).2 = some 2 := by
    have ht : eraseSlotTarget b boot = some 2 := rfl
    have h2 : toUInt8 2 = 2 := rfl
    rcases eraseSlot_cases b boot flash (fun _ => true) with
      ⟨hn, -⟩ | ⟨id, hid, ⟨e, he, -⟩ | ⟨he, -⟩ | ⟨-, hr⟩⟩
    · rw [ht] at hn; cases hn
    all_goals rw [ht, Option.some.injEq] at hid; subst hid
    · rw [h2, hscan] at he; cases he
    · rw [h2, hscan] at he; cases he
    · rw [hr, h2]
  exact ⟨rfl, h, eraseSlot_default_erases_unused b boot flash (fun _ => true) rfl h⟩

end McuMgr.Erase
