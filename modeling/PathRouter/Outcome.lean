/-!
# Outcomes

When a chain of steps, each of which may fail, succeeds: all of its steps do.
-/

set_option autoImplicit false

namespace PathRouter.Outcome

variable {ε α β : Type}

theorem bind_eq_ok {x : Except ε α} {f : α → Except ε β} {b : β} :
    x >>= f = .ok b ↔ ∃ a, x = .ok a ∧ f a = .ok b := by
  cases x with
  | error e => simp [bind, Except.bind]
  | ok a => simp [bind, Except.bind]

theorem bind_eq_error {x : Except ε α} {f : α → Except ε β} {e : ε} :
    x >>= f = .error e ↔ x = .error e ∨ ∃ a, x = .ok a ∧ f a = .error e := by
  cases x with
  | error e => simp [bind, Except.bind]
  | ok a => simp [bind, Except.bind]

theorem map_eq_ok {x : Except ε α} {f : α → β} {b : β} :
    x.map f = .ok b ↔ ∃ a, x = .ok a ∧ f a = b := by
  cases x with
  | error e => simp [Except.map]
  | ok a => simp [Except.map]

theorem map_eq_error {x : Except ε α} {f : α → β} {e : ε} : x.map f = .error e ↔ x = .error e := by
  cases x with
  | error e => simp [Except.map]
  | ok a => simp [Except.map]

theorem toOption_map_eq_some {x : Except ε α} {f : α → β} {b : β} :
    x.toOption.map f = some b ↔ ∃ a, x = .ok a ∧ f a = b := by
  cases x with
  | error e => simp [Except.toOption]
  | ok a => simp [Except.toOption]

theorem toOption_eq_some {x : Except ε α} {a : α} : x.toOption = some a ↔ x = .ok a := by
  cases x with
  | error e => simp [Except.toOption]
  | ok a => simp [Except.toOption]

/-! ## Lists of steps -/

theorem mapM_cons_eq_ok {f : α → Except ε β} {a : α} {l : List α} {bs : List β} :
    (a :: l).mapM f = .ok bs ↔ ∃ b rest, f a = .ok b ∧ l.mapM f = .ok rest ∧ bs = b :: rest := by
  rw [List.mapM_cons, bind_eq_ok]
  constructor
  · rintro ⟨b, hb, h⟩
    obtain ⟨rest, hrest, h⟩ := bind_eq_ok.1 h
    exact ⟨b, rest, hb, hrest, (Except.ok.inj h).symm⟩
  · rintro ⟨b, rest, hb, hrest, rfl⟩
    exact ⟨b, hb, bind_eq_ok.2 ⟨rest, hrest, rfl⟩⟩

/-- A list of steps succeeds exactly if each of them does. -/
theorem mapM_isOk_iff {f : α → Except ε β} {l : List α} :
    (∃ bs, l.mapM f = .ok bs) ↔ ∀ a ∈ l, ∃ b, f a = .ok b := by
  induction l with
  | nil => simpa using ⟨[], rfl⟩
  | cons a l ih =>
      rw [List.forall_mem_cons, ← ih]
      constructor
      · rintro ⟨bs, h⟩
        obtain ⟨b, rest, hb, hrest, -⟩ := mapM_cons_eq_ok.1 h
        exact ⟨⟨b, hb⟩, rest, hrest⟩
      · rintro ⟨⟨b, hb⟩, rest, hrest⟩
        exact ⟨b :: rest, mapM_cons_eq_ok.2 ⟨b, rest, hb, hrest, rfl⟩⟩

/-- The results of a list of steps are the results of the single ones. -/
theorem mem_of_mapM_eq_ok {f : α → Except ε β} {l : List α} {bs : List β}
    (h : l.mapM f = .ok bs) {b : β} : b ∈ bs ↔ ∃ a ∈ l, f a = .ok b := by
  induction l generalizing bs with
  | nil =>
      obtain rfl := Except.ok.inj h
      simp
  | cons a l ih =>
      obtain ⟨first, rest, hfirst, hrest, rfl⟩ := mapM_cons_eq_ok.1 h
      simp [ih hrest, hfirst, eq_comm]

/-- A list of steps fails as one of them does. -/
theorem mapM_eq_error {f : α → Except ε β} {l : List α} {e : ε} (h : l.mapM f = .error e) :
    ∃ a ∈ l, f a = .error e := by
  induction l with
  | nil => cases h
  | cons a l ih =>
      rw [List.mapM_cons] at h
      rcases bind_eq_error.1 h with ha | ⟨b, -, h⟩
      · exact ⟨a, List.mem_cons_self .., ha⟩
      · rcases bind_eq_error.1 h with hl | ⟨rest, -, h⟩
        · obtain ⟨c, hc, hfail⟩ := ih hl
          exact ⟨c, List.mem_cons_of_mem _ hc, hfail⟩
        · cases h

/-! ## Outcomes side by side -/

/-- Where one step succeeds another one does too, with results related by `R`. -/
structure Mirrors {γ : Type} (R : α → γ → Prop) (x : Except ε α) (x' : Except ε γ) : Prop where
  of_ok : ∀ a, x = .ok a → ∃ c, x' = .ok c ∧ R a c

theorem mirrors_ok {γ : Type} {R : α → γ → Prop} {a : α} {c : γ} (h : R a c) :
    Mirrors R (.ok a : Except ε α) (.ok c) := by
  refine ⟨fun a' ha => ?_⟩
  obtain rfl := Except.ok.inj ha
  exact ⟨c, rfl, h⟩

theorem mirrors_error {γ : Type} {R : α → γ → Prop} (e : ε) (x' : Except ε γ) :
    Mirrors R (.error e) x' :=
  ⟨fun _ h => nomatch h⟩

theorem Mirrors.bind {γ δ : Type} {R : α → γ → Prop} {S : β → δ → Prop} {x : Except ε α}
    {x' : Except ε γ} {g : α → Except ε β} {g' : γ → Except ε δ} (h : Mirrors R x x')
    (hg : ∀ a c, R a c → Mirrors S (g a) (g' c)) : Mirrors S (x >>= g) (x' >>= g') := by
  refine ⟨fun b hb => ?_⟩
  obtain ⟨a, ha, hb⟩ := bind_eq_ok.1 hb
  obtain ⟨c, rfl, hac⟩ := h.of_ok a ha
  exact (hg a c hac).of_ok b hb

theorem Mirrors.map {γ δ : Type} {R : α → γ → Prop} {S : β → δ → Prop} {x : Except ε α}
    {x' : Except ε γ} {g : α → β} {g' : γ → δ} (h : Mirrors R x x')
    (hg : ∀ a c, R a c → S (g a) (g' c)) : Mirrors S (x.map g) (x'.map g') := by
  refine ⟨fun b hb => ?_⟩
  obtain ⟨a, ha, rfl⟩ := map_eq_ok.1 hb
  obtain ⟨c, rfl, hac⟩ := h.of_ok a ha
  exact ⟨g' c, rfl, hg a c hac⟩

end PathRouter.Outcome
