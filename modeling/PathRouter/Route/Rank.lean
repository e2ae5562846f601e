import PathRouter.Text.Order

/-!
# Ranks

Patterns are tried in the order of their ranks: higher scores first, equal scores by source. The
order is total (`rankLe_total`), and two ranks that come before each other are the same
(`rankLe_antisymm`).
-/

set_option autoImplicit false

namespace PathRouter

open Text

/-- A source and its score. -/
abbrev Rank := String × Int

/-- Whether a rank comes before another or is the same. -/
def rankLe (a b : Rank) : Bool := b.2 < a.2 || (a.2 == b.2 && notAfter a.1 b.1)

theorem rankLe_iff {a b : Rank} :
    rankLe a b = true ↔ b.2 < a.2 ∨ (a.2 = b.2 ∧ notAfter a.1 b.1 = true) := by
  simp [rankLe]

theorem rankLe_trans (a b c : Rank) (hab : rankLe a b = true) (hbc : rankLe b c = true) :
    rankLe a c = true := by
  rw [rankLe_iff] at *
  rcases hab with h | ⟨h, hs⟩ <;> rcases hbc with h' | ⟨h', hs'⟩
  · exact .inl (by omega)
  · exact .inl (by omega)
  · exact .inl (by omega)
  · exact .inr ⟨by omega, notAfter_trans hs hs'⟩

theorem rankLe_total (a b : Rank) : (rankLe a b || rankLe b a) = true := by
  rw [Bool.or_eq_true, rankLe_iff, rankLe_iff]
  by_cases h : a.2 = b.2
  · rcases notAfter_total a.1 b.1 with hs | hs
    · exact .inl (.inr ⟨h, hs⟩)
    · exact .inr (.inr ⟨h.symm, hs⟩)
  · by_cases less : b.2 < a.2
    · exact .inl (.inl less)
    · exact .inr (.inl (by omega))

theorem rankLe_antisymm {a b : Rank} (hab : rankLe a b = true) (hba : rankLe b a = true) :
    a = b := by
  rw [rankLe_iff] at *
  have scores : a.2 = b.2 := by omega
  have sources : a.1 = b.1 := by
    rcases hab with h | ⟨_, hs⟩
    · omega
    · rcases hba with h | ⟨_, hs'⟩
      · omega
      · exact notAfter_antisymm hs hs'
  exact Prod.ext sources scores

end PathRouter
