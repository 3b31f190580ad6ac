import McuMgr.SlotState

set_option autoImplicit false

/-!
# Slot selection

`img_mgmt_get_unused_slot_area_id` turns a requested slot (`-1` for "any") into a flash area id:
`-1`, the area of a configured slot the request allows, or 255 for a slot with no configured
area, since `zephyr_img_mgmt_flash_area_id` stores its `-1` into a `uint8_t`.
-/
namespace McuMgr.SlotSelect
open McuMgr.Config McuMgr.SlotState

/-- `zephyr_img_mgmt_flash_area_id`: the switch writes a `uint8_t fa_id` that is returned as
an `int`. -/
def zephyrImgMgmtFlashAreaId (b : Build) (slot : Int) : Int :=
  let faId : UInt8 :=
    match b.imageArea slot with
    | some id => id
    | none => toUInt8 (-1)
  faId.toNat

/-- The auto-selection loop `for (slot = 0; slot < 2; slot++)`, over the slots left to try. -/
def autoSelect (b : Build) (boot : BootState) : List Int → Int
  | [] => -1
  | slot :: rest =>
    if imgMgmtSlotInUse b boot slot = false ∧ zephyrImgMgmtFlashAreaId b slot ≠ -1 then
      zephyrImgMgmtFlashAreaId b slot
    else autoSelect b boot rest

def imgMgmtGetUnusedSlotAreaId (b : Build) (boot : BootState) (slot : Int) : Int :=
  if slot < -1 then -1
  else if slot = -1 then autoSelect b boot [0, 1]
  else
    let slot := if slot < 2 then (if imgMgmtSlotInUse b boot slot = false then slot else -1)
      else slot
    if slot ≠ -1 then zephyrImgMgmtFlashAreaId b slot else -1

theorem flashAreaId_of_some {b : Build} {slot : Int} {id : UInt8}
    (h : b.imageArea slot = some id) : zephyrImgMgmtFlashAreaId b slot = id.toNat := by
  simp only [zephyrImgMgmtFlashAreaId, h]

theorem flashAreaId_of_none {b : Build} {slot : Int} (h : b.imageArea slot = none) :
    zephyrImgMgmtFlashAreaId b slot = 255 := by
  simp only [zephyrImgMgmtFlashAreaId, h, toUInt8_neg_one]
  rfl

theorem flashAreaId_nonneg (b : Build) (slot : Int) : 0 ≤ zephyrImgMgmtFlashAreaId b slot := by
  simp only [zephyrImgMgmtFlashAreaId]
  omega

theorem imageArea_of_lt_two {b : Build} {t : Int} (h0 : 0 ≤ t) (h2 : t < 2) :
    ∃ id, b.imageArea t = some id := by
  obtain rfl | rfl : t = 0 ∨ t = 1 := by omega
  all_goals exact ⟨_, rfl⟩

theorem imageArea_of_four_le {b : Build} {t : Int} (h : 4 ≤ t) : b.imageArea t = none := by
  obtain ⟨n, rfl⟩ : ∃ n : Nat, t = (n + 4 : Nat) := ⟨(t - 4).toNat, by omega⟩
  rfl

theorem imageArea_some_cases {b : Build} {t : Int} {id : UInt8} (h : b.imageArea t = some id) :
    (t = 0 ∧ b.image0 = id) ∨ (t = 1 ∧ b.image1 = id) ∨ (t = 2 ∧ b.image2 = some id) ∨
      (t = 3 ∧ b.image3 = some id) := by
  unfold Build.imageArea at h
  split at h <;> simp_all

theorem flashAreaId_cases (b : Build) (t : Int) :
    (∃ id, b.imageArea t = some id ∧ zephyrImgMgmtFlashAreaId b t = id.toNat) ∨
    (b.imageArea t = none ∧ zephyrImgMgmtFlashAreaId b t = 255) := by
  cases h : b.imageArea t with
  | none => exact .inr ⟨rfl, flashAreaId_of_none h⟩
  | some id => exact .inl ⟨id, rfl, flashAreaId_of_some h⟩

theorem autoSelect_cases (b : Build) (boot : BootState) (slots : List Int)
    (hcfg : ∀ t ∈ slots, ∃ id, b.imageArea t = some id) :
    (autoSelect b boot slots = -1 ∧ ∀ t ∈ slots, imgMgmtSlotInUse b boot t = true) ∨
    ∃ pre t post id, slots = pre ++ t :: post ∧ (∀ u ∈ pre, imgMgmtSlotInUse b boot u = true) ∧
      imgMgmtSlotInUse b boot t = false ∧ b.imageArea t = some id ∧
      autoSelect b boot slots = id.toNat := by
  induction slots with
  | nil => exact .inl ⟨rfl, by simp⟩
  | cons t rest ih =>
    obtain ⟨id, hid⟩ := hcfg t (by simp)
    have harea := flashAreaId_of_some hid
    by_cases hfree : imgMgmtSlotInUse b boot t = false
    · have hne : zephyrImgMgmtFlashAreaId b t ≠ -1 := by rw [harea]; omega
      exact .inr ⟨[], t, rest, id, rfl, by simp, hfree, hid, by simp [autoSelect, hfree, hne, harea]⟩
    · have hbusy : imgMgmtSlotInUse b boot t = true := by simpa using hfree
      have hstep : autoSelect b boot (t :: rest) = autoSelect b boot rest := by
        simp [autoSelect, hbusy]
      rcases ih (fun u hu => hcfg u (by simp [hu])) with ⟨hm, hall⟩ | ⟨pre, u, post, id', hs, hpre, hu, hid', he⟩
      · exact .inl ⟨hstep.trans hm, List.forall_mem_cons.2 ⟨hbusy, hall⟩⟩
      · exact .inr ⟨t :: pre, u, post, id', by simp [hs], List.forall_mem_cons.2 ⟨hbusy, hpre⟩, hu, hid',
          hstep.trans he⟩

/-- The selector's contract: it answers `-1`, or the area of a configured slot `t` that the
request names (the first free one of slots 0 and 1 for `-1`), free whenever `t < 2`, or 255
for a requested slot with no configured area. -/
theorem unusedSlot_cases (b : Build) (boot : BootState) (slot : Int) :
    imgMgmtGetUnusedSlotAreaId b boot slot = -1 ∨
    (∃ t id, b.imageArea t = some id ∧ imgMgmtGetUnusedSlotAreaId b boot slot = id.toNat ∧
      (0 ≤ slot → t = slot) ∧ (t < 2 → imgMgmtSlotInUse b boot t = false) ∧
      (slot = -1 → t = 0 ∨ (t = 1 ∧ imgMgmtSlotInUse b boot 0 = true))) ∨
    (2 ≤ slot ∧ b.imageArea slot = none ∧ imgMgmtGetUnusedSlotAreaId b boot slot = 255) := by
  unfold imgMgmtGetUnusedSlotAreaId
  by_cases hlt : slot < -1
  · exact .inl (if_pos hlt)
  rw [if_neg hlt]
  by_cases hauto : slot = -1
  · subst hauto
    rw [if_pos rfl]
    rcases autoSelect_cases b boot [0, 1] (fun t ht => imageArea_of_lt_two (by simp at ht; omega)
        (by simp at ht; omega)) with ⟨hm, -⟩ | ⟨pre, t, post, id, hs, hpre, hfree, hid, he⟩
    · exact .inl hm
    · refine .inr (.inl ⟨t, id, hid, he, by omega, fun _ => hfree, fun _ => ?_⟩)
      match pre, hs with
      | [], hs => exact .inl (List.cons.inj hs).1.symm
      | [u], hs =>
        obtain ⟨rfl, htail⟩ := List.cons.inj hs
        exact .inr ⟨(List.cons.inj htail).1.symm, hpre 0 (List.mem_singleton_self 0)⟩
      | _ :: _ :: _, hs => simp at hs
  rw [if_neg hauto]
  dsimp only
  by_cases h2 : slot < 2
  · rw [if_pos h2]
    by_cases hfree : imgMgmtSlotInUse b boot slot = false
    · obtain ⟨id, hid⟩ := imageArea_of_lt_two (b := b) (by omega) h2
      rw [if_pos hfree, if_pos hauto, flashAreaId_of_some hid]
      exact .inr (.inl ⟨slot, id, hid, rfl, fun _ => rfl, fun _ => hfree, fun h => absurd h hauto⟩)
    · rw [if_neg hfree]
      exact .inl (if_neg (not_not_intro rfl))
  · rw [if_neg h2, if_pos hauto]
    rcases flashAreaId_cases b slot with ⟨id, hid, he⟩ | ⟨hnone, he⟩
    · exact .inr (.inl ⟨slot, id, hid, he, fun _ => rfl, fun h => absurd h h2,
        fun h => absurd h hauto⟩)
    · exact .inr (.inr ⟨by omega, hnone, he⟩)

/-- A slot number past every configured image slot selects area 255, not `-1`. -/
theorem unusedSlotAreaId_four (b : Build) (boot : BootState) :
    imgMgmtGetUnusedSlotAreaId b boot 4 = 255 ∧ b.imageArea 4 = none :=
  ⟨by simp [imgMgmtGetUnusedSlotAreaId, flashAreaId_of_none (imageArea_of_four_le (Int.le_refl 4))],
    imageArea_of_four_le (Int.le_refl 4)⟩

end McuMgr.SlotSelect
