/-!
# The order of texts

Texts are ordered by the code points of their characters: at the first place where two texts
differ, the smaller code point comes first, and a text comes before its continuations. The order is
strict and total (`before_irrefl`, `before_trans`, `before_trichotomy`).
-/

set_option autoImplicit false

namespace PathRouter.Text

/-- Whether one list of characters comes before another. -/
def charsBefore : List Char → List Char → Bool
  | _, [] => false
  | [], _ :: _ => true
  | a :: as, b :: bs => decide (a.toNat < b.toNat) || (a == b && charsBefore as bs)

theorem charsBefore_cons {a b : Char} {as bs : List Char} :
    charsBefore (a :: as) (b :: bs) = true ↔
      a.toNat < b.toNat ∨ (a = b ∧ charsBefore as bs = true) := by
  simp [charsBefore]

theorem charsBefore_irrefl (cs : List Char) : charsBefore cs cs = false := by
  induction cs with
  | nil => rfl
  | cons c rest ih => simp [charsBefore, ih]

theorem charsBefore_trans {as bs cs : List Char} (hab : charsBefore as bs = true)
    (hbc : charsBefore bs cs = true) : charsBefore as cs = true := by
  induction as generalizing bs cs with
  | nil =>
    cases cs with
    | nil => cases bs <;> simp [charsBefore] at hbc
    | cons c cs => rfl
  | cons a as ih =>
    cases bs with
    | nil => simp [charsBefore] at hab
    | cons b bs =>
      cases cs with
      | nil => simp [charsBefore] at hbc
      | cons c cs =>
        rw [charsBefore_cons] at *
        rcases hab with h | ⟨rfl, h⟩
        · rcases hbc with h' | ⟨rfl, _⟩
          · exact .inl (by omega)
          · exact .inl h
        · rcases hbc with h' | ⟨rfl, h'⟩
          · exact .inl h'
          · exact .inr ⟨rfl, ih h h'⟩

/-- Two lists of characters are the same, or one of them comes before the other. -/
theorem charsBefore_trichotomy (as bs : List Char) :
    charsBefore as bs = true ∨ as = bs ∨ charsBefore bs as = true := by
  induction as generalizing bs with
  | nil => cases bs <;> simp [charsBefore]
  | cons a as ih =>
    cases bs with
    | nil => exact .inr (.inr rfl)
    | cons b bs =>
      rw [charsBefore_cons, charsBefore_cons]
      by_cases less : a.toNat < b.toNat
      · exact .inl (.inl less)
      · by_cases more : b.toNat < a.toNat
        · exact .inr (.inr (.inl more))
        · have same : a = b := Char.toNat_inj.1 (by omega)
          subst same
          rcases ih bs with h | rfl | h
          · exact .inl (.inr ⟨rfl, h⟩)
          · exact .inr (.inl rfl)
          · exact .inr (.inr (.inr ⟨rfl, h⟩))

/-- Whether a text comes before another. -/
def before (s t : String) : Bool := charsBefore s.toList t.toList

theorem before_irrefl (s : String) : before s s = false := charsBefore_irrefl s.toList

theorem before_trans {s t u : String} (h : before s t = true) (h' : before t u = true) :
    before s u = true :=
  charsBefore_trans h h'

theorem before_asymm {s t : String} (h : before s t = true) : before t s = false := by
  cases h' : before t s with
  | false => rfl
  | true => exact absurd (before_trans h h') (by simp [before_irrefl])

theorem before_trichotomy (s t : String) :
    before s t = true ∨ s = t ∨ before t s = true := by
  rcases charsBefore_trichotomy s.toList t.toList with h | h | h
  · exact .inl h
  · exact .inr (.inl (String.toList_inj.1 h))
  · exact .inr (.inr h)

/-- Whether a text comes before another or is the same. -/
def notAfter (s t : String) : Bool := !before t s

theorem notAfter_iff {s t : String} : notAfter s t = true ↔ before s t = true ∨ s = t := by
  rw [notAfter, Bool.not_eq_true']
  constructor
  · intro h
    rcases before_trichotomy s t with h' | h' | h'
    · exact .inl h'
    · exact .inr h'
    · exact absurd (h ▸ h') (by decide)
  · rintro (h | rfl)
    · exact before_asymm h
    · exact before_irrefl s

theorem notAfter_trans {s t u : String} (h : notAfter s t = true) (h' : notAfter t u = true) :
    notAfter s u = true := by
  rw [notAfter_iff] at *
  rcases h with h | rfl
  · rcases h' with h' | rfl
    · exact .inl (before_trans h h')
    · exact .inl h
  · exact h'

theorem notAfter_total (s t : String) : notAfter s t = true ∨ notAfter t s = true := by
  rw [notAfter_iff, notAfter_iff]
  rcases before_trichotomy s t with h | h | h
  · exact .inl (.inl h)
  · exact .inl (.inr h)
  · exact .inr (.inl h)

theorem notAfter_antisymm {s t : String} (h : notAfter s t = true) (h' : notAfter t s = true) :
    s = t := by
  rw [notAfter_iff] at *
  rcases h with h | h
  · rcases h' with h' | h'
    · exact absurd (before_asymm h) (by simp [h'])
    · exact h'.symm
  · exact h

/-- Texts in ascending order. -/
def sortTexts (texts : List String) : List String := texts.mergeSort notAfter

/-- Texts in another order are the same in ascending order. -/
theorem sortTexts_eq_of_perm {texts texts' : List String} (h : texts.Perm texts') :
    sortTexts texts = sortTexts texts' := by
  have htotal (s t : String) : (notAfter s t || notAfter t s) = true := by
    rw [Bool.or_eq_true]
    exact notAfter_total s t
  have hsorted (ts : List String) : (sortTexts ts).Pairwise fun s t => notAfter s t = true :=
    @List.pairwise_mergeSort _ notAfter (fun _ _ _ => notAfter_trans) htotal ts
  refine List.Perm.eq_of_pairwise (fun _ _ _ _ => notAfter_antisymm) (hsorted texts)
    (hsorted texts') ?_
  exact (List.mergeSort_perm texts notAfter).trans
    (h.trans (List.mergeSort_perm texts' notAfter).symm)

end PathRouter.Text
