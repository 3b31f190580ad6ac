import Mathlib.Tactic.Ring

set_option autoImplicit false

namespace McuMgr.Version

/-- `struct image_version`. The fields are `uint8_t`, `uint8_t`, `uint16_t` and `uint32_t`;
`img_mgmt_vercmp` only compares them, so they are kept as natural numbers. -/
structure ImageVersion where
  major : Nat
  minor : Nat
  revision : Nat
  buildNum : Nat
  deriving DecidableEq, Repr

def imgMgmtVercmp (a b : ImageVersion) : Int :=
  if a.major < b.major then -1
  else if a.major > b.major then 1
  else if a.minor < b.minor then -1
  else if a.minor > b.minor then 1
  else if a.revision < b.revision then -1
  else if a.revision > b.revision then 1
  else 0

/-- The lexicographic order on (major, minor, revision); the build number takes no part. -/
def VersionLt (a b : ImageVersion) : Prop :=
  a.major < b.major ∨ (a.major = b.major ∧
    (a.minor < b.minor ∨ (a.minor = b.minor ∧ a.revision < b.revision)))

instance (a b : ImageVersion) : Decidable (VersionLt a b) := by
  unfold VersionLt; infer_instance

def lexCompare (a b : ImageVersion) : Int :=
  if VersionLt a b then -1 else if VersionLt b a then 1 else 0

theorem versionLt_asymm {a b : ImageVersion} (h : VersionLt a b) : ¬VersionLt b a := by
  unfold VersionLt at *
  omega

theorem imgMgmtVercmp_eq_lexCompare (a b : ImageVersion) :
    imgMgmtVercmp a b = lexCompare a b := by
  have hlt (h : VersionLt a b) : -1 = lexCompare a b := by rw [lexCompare, if_pos h]
  have hgt (h : VersionLt b a) : 1 = lexCompare a b := by
    rw [lexCompare, if_neg (versionLt_asymm h), if_pos h]
  unfold imgMgmtVercmp
  by_cases h1 : a.major < b.major
  · rw [if_pos h1]; exact hlt (.inl h1)
  by_cases h2 : a.major > b.major
  · rw [if_neg h1, if_pos h2]; exact hgt (.inl h2)
  by_cases h3 : a.minor < b.minor
  · rw [if_neg h1, if_neg h2, if_pos h3]; exact hlt (.inr ⟨by omega, .inl h3⟩)
  by_cases h4 : a.minor > b.minor
  · rw [if_neg h1, if_neg h2, if_neg h3, if_pos h4]; exact hgt (.inr ⟨by omega, .inl h4⟩)
  by_cases h5 : a.revision < b.revision
  · rw [if_neg h1, if_neg h2, if_neg h3, if_neg h4, if_pos h5]
    exact hlt (.inr ⟨by omega, .inr ⟨by omega, h5⟩⟩)
  by_cases h6 : a.revision > b.revision
  · rw [if_neg h1, if_neg h2, if_neg h3, if_neg h4, if_neg h5, if_pos h6]
    exact hgt (.inr ⟨by omega, .inr ⟨by omega, h6⟩⟩)
  rw [if_neg h1, if_neg h2, if_neg h3, if_neg h4, if_neg h5, if_neg h6, lexCompare,
    if_neg (by unfold VersionLt; omega), if_neg (by unfold VersionLt; omega)]

theorem lexCompare_eq_zero_iff (a b : ImageVersion) :
    lexCompare a b = 0 ↔ a.major = b.major ∧ a.minor = b.minor ∧ a.revision = b.revision := by
  unfold lexCompare
  split_ifs with h1 h2
  · exact iff_of_false (by decide) (by unfold VersionLt at h1; omega)
  · exact iff_of_false (by decide) (by unfold VersionLt at h2; omega)
  · exact iff_of_true rfl (by unfold VersionLt at h1 h2; omega)

theorem lexCompare_swap (a b : ImageVersion) : lexCompare a b = -lexCompare b a := by
  unfold lexCompare VersionLt
  split_ifs <;> omega

theorem lexCompare_nonpos_iff (a b : ImageVersion) : lexCompare a b ≤ 0 ↔ ¬VersionLt b a := by
  unfold lexCompare
  split_ifs with h1 h2
  · exact iff_of_true (by decide) (versionLt_asymm h1)
  · exact iff_of_false (by decide) (not_not_intro h2)
  · exact iff_of_true (Int.le_refl 0) h2

theorem lexCompare_neg_one_iff (a b : ImageVersion) : lexCompare a b = -1 ↔ VersionLt a b := by
  unfold lexCompare
  split_ifs with h1 h2
  · exact iff_of_true rfl h1
  · exact iff_of_false (by decide) h1
  · exact iff_of_false (by decide) h1

theorem lexCompare_nonneg_iff (a b : ImageVersion) : 0 ≤ lexCompare a b ↔ ¬VersionLt a b := by
  have hs := lexCompare_swap a b
  rw [← lexCompare_nonpos_iff b a]
  omega

theorem versionLt_trans {a b c : ImageVersion} (hab : VersionLt a b) (hbc : VersionLt b c) :
    VersionLt a c := by
  unfold VersionLt at *
  omega

theorem not_versionLt_trans {a b c : ImageVersion} (hab : ¬VersionLt b a) (hbc : ¬VersionLt c b) :
    ¬VersionLt c a := by
  unfold VersionLt at *
  omega

end McuMgr.Version
