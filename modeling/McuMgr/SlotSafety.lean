import McuMgr.UploadInspect

set_option autoImplicit false

/-!
# The running image is never written or erased

In the default build neither an upload nor the image erase command reaches the area the device
runs from: the selector hands out only a slot that is not in use, the running slot always is, and
a later chunk goes where the upload's first chunk went. The flash layout must keep the running
slot's area apart from every other slot's and from the 255 an unconfigured slot selects
(`RunningArea`).
-/
namespace McuMgr.SlotSafety
open McuMgr.Config McuMgr.SlotState McuMgr.SlotSelect McuMgr.Flash McuMgr.Erase
  McuMgr.UploadInspect

/-- The running image's area `area`, as the devicetree lays it out: the running slot is 0 or 1,
`area` is its area and no other slot's, and it is not 255. -/
structure RunningArea (b : Build) (area : UInt8) : Prop where
  slot : b.bootCurrSlot = 0 ∨ b.bootCurrSlot = 1
  configured : b.imageArea b.bootCurrSlot = some area
  unique : ∀ t, b.imageArea t = some area → t = b.bootCurrSlot
  ne_unconfigured : area ≠ 255

section Select
variable {b : Build} {boot : BootState} {area : UInt8}

theorem unusedSlot_ne_running (hb : b.scorpio = false) (hr : RunningArea b area) (slot : Int)
    (h : 0 ≤ imgMgmtGetUnusedSlotAreaId b boot slot) :
    toUInt8 (imgMgmtGetUnusedSlotAreaId b boot slot) ≠ area := by
  rcases unusedSlot_cases b boot slot with hm | ⟨t, id, hid, heq, -, hfree, -⟩ | ⟨-, -, heq⟩
  · omega
  · rw [heq, toUInt8_toNat_self]
    rintro rfl
    have ht := hr.unique t hid
    have hbusy := runningSlot_inUse boot hb
    rw [← ht, hfree (by rcases hr.slot with h | h <;> omega)] at hbusy
    cases hbusy
  · rw [heq]
    exact fun h => hr.ne_unconfigured (h ▸ rfl)

theorem inspect_new_slot {env : InspectEnv} {g : UploadState} {req : UploadReq} {a : UploadAction}
    (h : imgMgmtImplUploadInspect b boot env g req = .ok a) (hp : a.proceed = true)
    (h0 : req.off = 0) :
    a.areaId = imgMgmtGetUnusedSlotAreaId b boot (imageSlot req.image) ∧ 0 ≤ a.areaId := by
  rcases inspect_ok_cases h with ⟨-, ⟨-, rfl⟩ | ⟨areaId, a1, hpre, -, he, hw⟩⟩ | ⟨hne, -⟩
  · cases hp
  · obtain ⟨-, -, hs⟩ := preGate_some hpre
    obtain ⟨-, -, hid, -⟩ := writeSize_ok hw
    obtain ⟨-, -, hid1, -⟩ := eraseCheck_ok he
    rw [hid, hid1]
    exact slotCheck_ok hs
  · exact absurd h0 hne

end Select

/-- In the default build, with the running image's area kept apart by the flash layout, no chunk
the inspection lets through goes to the running image: a first chunk goes to another area, and a
later chunk to the area of the upload in progress, so an upload started off the running image
stays off it. `img_mgmt_impl_erase_slot` never asks to erase the running image either. -/
theorem running_image_spared (b : Build) (boot : BootState) (area : UInt8) (hb : b.scorpio = false)
    (hr : RunningArea b area) :
    (∀ env g req a, imgMgmtImplUploadInspect b boot env g req = .ok a → a.proceed = true →
      (req.off = 0 → toUInt8 a.areaId ≠ area) ∧ (req.off ≠ 0 → a.areaId = g.areaId)) ∧
    (∀ flash bankEraseOk id, (imgMgmtImplEraseSlot b boot flash bankEraseOk).2 = some id →
      id ≠ area) := by
  refine ⟨fun env g req a h hp => ⟨fun h0 => ?_, fun h0 => ?_⟩, fun flash bankEraseOk id h => ?_⟩
  · obtain ⟨heq, hnn⟩ := inspect_new_slot h hp h0
    rw [heq] at hnn ⊢
    exact unusedSlot_ne_running hb hr _ hnn
  · rcases inspect_ok_cases h with ⟨hz, -⟩ | ⟨-, -, ⟨-, rfl⟩ | ⟨-, hw⟩⟩
    · exact absurd hz h0
    · cases hp
    · exact (writeSize_ok hw).2.2.1
  · obtain ⟨bestId, ht, rfl⟩ := eraseSlot_erases_target h
    rw [eraseSlotTarget_default boot hb] at ht
    split_ifs at ht with hneg
    obtain rfl := Option.some.inj ht
    exact unusedSlot_ne_running hb hr _ (by omega)

theorem running_image_spared_slot0 :
    let b : Build :=
      { scorpio := false, lazyErase := false, rejectXipMismatch := false,
        bootCurrSlot := 0, image0 := 1, image1 := 2, image2 := none, image3 := none,
        headerSize := 32, imageMagic := 0x96f3b83d, dataShaLen := 32 }
    let boot : BootState := ⟨.none, fun _ => ⟨false, false, false⟩⟩
    b.scorpio = false ∧ RunningArea b 1 ∧
    (∀ env g req a, imgMgmtImplUploadInspect b boot env g req = .ok a → a.proceed = true →
      (req.off = 0 → toUInt8 a.areaId ≠ 1) ∧ (req.off ≠ 0 → a.areaId = g.areaId)) ∧
    (∀ flash bankEraseOk id, (imgMgmtImplEraseSlot b boot flash bankEraseOk).2 = some id →
      id ≠ 1) := by
  intro b boot
  have hr : RunningArea b 1 := by
    refine ⟨.inl rfl, rfl, fun t ht => ?_, by decide⟩
    rcases imageArea_some_cases ht with ⟨rfl, -⟩ | ⟨-, h⟩ | ⟨-, h⟩ | ⟨-, h⟩ <;> first | rfl | cases h
  exact ⟨rfl, hr, running_image_spared b boot 1 rfl hr⟩

end McuMgr.SlotSafety
