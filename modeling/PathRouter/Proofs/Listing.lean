import PathRouter.Proofs.Lookup

set_option autoImplicit false

/-! # What a generation lists

The methods allowed for a path are those of all routes that match it
(`Generation.mem_allowedMethods`). The patterns of a generation are listed in the strict order of
their ranks, each once (`Generation.pairwise_patterns`, `Generation.mem_patterns`), if routes with
one source have one pattern, as routes have that are declared by their sources.
-/

namespace PathRouter

open Text

variable {α : Type}

/-! ## The rank of a pattern -/

namespace Pattern

/-- What decides on the rank of a pattern. -/
def rank (p : Pattern) : Rank := (p.source, p.score)

/-- A pattern ranks before another one. -/
def Precedes (p q : Pattern) : Prop := rankLe p.rank q.rank = true ∧ p.rank ≠ q.rank

instance : Std.Irrefl Precedes := ⟨fun _ h => h.2 rfl⟩

instance : Std.Antisymm Precedes := ⟨fun _ _ h h' => absurd (rankLe_antisymm h.1 h'.1) h.2⟩

theorem source_eq_of_same {p q : Pattern} (h : p.same q = true) : p.source = q.source :=
  congrArg Prod.fst (same_iff.1 h)

end Pattern

namespace Generation

/-! ## Allowed methods -/

theorem mem_addAllowed {path : String} {allowed : List String} {r : Route α} {m : String} :
    m ∈ addAllowed path allowed r ↔ m ∈ allowed ∨ r.Answers path m := by
  unfold addAllowed Route.Answers
  split
  · next hsubset =>
    -- a route that could add nothing
    exact ⟨.inl, fun h => h.elim id fun h => Methods.isSubset_iff.1 hsubset m h.1⟩
  · split
    · next hmatch => simp [hmatch, or_comm]
    · next hmatch => simp [hmatch]

theorem mem_foldl_addAllowed {path : String} {allowed : List String} {routes : List (Route α)}
    {m : String} :
    m ∈ routes.foldl (addAllowed path) allowed ↔
      m ∈ allowed ∨ ∃ r ∈ routes, r.Answers path m := by
  induction routes generalizing allowed with
  | nil => simp
  | cons r rest ih => simp [ih, mem_addAllowed, or_assoc]

/-- The methods allowed for a path are those of the routes that match it. -/
theorem mem_allowedMethods {g : Generation α} {path m : String} :
    m ∈ g.allowedMethods path ↔ ∃ r ∈ g.routes, r.Answers path m := by
  simp [allowedMethods, mem_foldl_addAllowed]

theorem ascending_allowedMethods (g : Generation α) (path : String) :
    Methods.Ascending (g.allowedMethods path) := by
  have key : ∀ (routes : List (Route α)) (allowed : List String), Methods.Ascending allowed →
      Methods.Ascending (routes.foldl (addAllowed path) allowed) := by
    intro routes
    induction routes with
    | nil => exact fun _ h => h
    | cons r rest ih =>
        intro allowed h
        refine ih _ ?_
        unfold addAllowed
        split
        · exact h
        · split
          · exact Methods.ascending_union h
          · exact h
  exact key _ _ .nil

/-! ## Patterns -/

theorem distinctFrom_sublist (seen cs : List Compiled) : (distinctFrom seen cs).Sublist cs := by
  induction cs generalizing seen with
  | nil => exact .slnil
  | cons c rest ih =>
      rw [distinctFrom]
      split
      · exact (ih seen).cons c
      · exact (ih (c :: seen)).cons_cons c

/-- A pattern is kept only if it is not the same as one seen before. -/
theorem not_same_of_mem_distinctFrom {seen cs : List Compiled} {c : Compiled}
    (h : c ∈ distinctFrom seen cs) : ∀ s ∈ seen, s.pattern.same c.pattern = false := by
  induction cs generalizing seen with
  | nil => cases h
  | cons first rest ih =>
      rw [distinctFrom] at h
      split at h
      · exact ih h
      · next hfirst =>
        rcases List.mem_cons.1 h with rfl | h
        · simpa using hfirst
        · exact (List.forall_mem_cons.1 (ih h)).2

theorem pairwise_distinctFrom (seen cs : List Compiled) :
    (distinctFrom seen cs).Pairwise fun c d => c.pattern.same d.pattern = false := by
  induction cs generalizing seen with
  | nil => exact .nil
  | cons c rest ih =>
      rw [distinctFrom]
      split
      · exact ih seen
      · refine List.pairwise_cons.2 ⟨fun d hd => ?_, ih (c :: seen)⟩
        exact not_same_of_mem_distinctFrom hd c (List.mem_cons_self ..)

/-- Of every pattern one that is the same is kept, if none has been seen before. -/
theorem exists_same_distinctFrom {seen cs : List Compiled} {c : Compiled} (h : c ∈ cs) :
    ∃ d, (d ∈ seen ∨ d ∈ distinctFrom seen cs) ∧ d.pattern.same c.pattern = true := by
  induction cs generalizing seen with
  | nil => cases h
  | cons first rest ih =>
      rw [distinctFrom]
      split
      · next hseen =>
        rcases List.mem_cons.1 h with rfl | h
        · obtain ⟨d, hd, hsame⟩ := List.any_eq_true.1 hseen
          exact ⟨d, .inl hd, hsame⟩
        · exact ih h
      · rcases List.mem_cons.1 h with rfl | h
        · exact ⟨c, .inr (List.mem_cons_self ..), Pattern.same_iff.2 rfl⟩
        · obtain ⟨d, hd, hsame⟩ : ∃ d, (d ∈ first :: seen ∨ d ∈ distinctFrom (first :: seen) rest) ∧
              d.pattern.same c.pattern = true := ih h
          refine ⟨d, ?_, hsame⟩
          rcases hd with hd | hd
          · rcases List.mem_cons.1 hd with rfl | hd
            · exact .inr (List.mem_cons_self ..)
            · exact .inl hd
          · exact .inr (List.mem_cons_of_mem _ hd)

/-- The routes that are listed: all of them, or those of a method. -/
def listed (g : Generation α) : Option String → List (Route α)
  | none => g.routes
  | some method => g.candidates (upper method)

theorem patterns_eq (g : Generation α) (method? : Option String) :
    g.patterns method? = distinctFrom [] ((g.listed method?).map (·.compiled)) := by
  cases method? <;> rfl

theorem mem_listed {g : Generation α} {method? : Option String} {r : Route α} :
    r ∈ g.listed method? ↔
      r ∈ g.routes ∧ ∀ method, method? = some method → upper method ∈ r.methods := by
  cases method? with
  | none => simp [listed]
  | some method => simp [listed, mem_candidates]

theorem pairwise_listed (g : Generation α) (method? : Option String) :
    (g.listed method?).Pairwise fun r q => r.le q = true := by
  cases method? with
  | none => exact g.ranked
  | some method => exact g.pairwise_candidates _

end Generation

/-- Routes with one source have one pattern. -/
def Route.Determined (routes : List (Route α)) : Prop :=
  ∀ r ∈ routes, ∀ q ∈ routes, r.source = q.source → r.pattern = q.pattern

namespace Generation

variable {g : Generation α}

/-- What is kept of a list of routes is the pattern of one of them. -/
theorem exists_of_mem_patterns {method? : Option String} {c : Compiled}
    (h : c ∈ g.patterns method?) : ∃ r ∈ g.listed method?, r.compiled = c := by
  rw [patterns_eq] at h
  simpa using (distinctFrom_sublist _ _).subset h

/-- The patterns of the routes are listed, and no others. -/
theorem mem_patterns (hdetermined : Route.Determined g.routes) {method? : Option String}
    {p : Pattern} :
    p ∈ (g.patterns method?).map (·.pattern) ↔ ∃ r ∈ g.listed method?, r.pattern = p := by
  constructor
  · intro h
    obtain ⟨c, hc, rfl⟩ := List.mem_map.1 h
    obtain ⟨r, hr, rfl⟩ := exists_of_mem_patterns hc
    exact ⟨r, hr, rfl⟩
  · rintro ⟨r, hr, rfl⟩
    have hcompiled : r.compiled ∈ (g.listed method?).map (·.compiled) := List.mem_map_of_mem hr
    obtain ⟨c, hc, hsame⟩ : ∃ c, (c ∈ [] ∨ c ∈ distinctFrom [] _) ∧ _ :=
      exists_same_distinctFrom hcompiled
    have hc : c ∈ g.patterns method? := by
      rw [patterns_eq]
      exact hc.resolve_left List.not_mem_nil
    obtain ⟨q, hq, rfl⟩ := exists_of_mem_patterns hc
    -- the one that is kept is not only the same, but equal
    have hqr : q.pattern = r.pattern := hdetermined q (mem_listed.1 hq).1 r (mem_listed.1 hr).1
      (Pattern.source_eq_of_same hsame)
    rw [← hqr]
    exact List.mem_map_of_mem hc

/-- The patterns are listed in the strict order of their ranks. -/
theorem pairwise_patterns (hdetermined : Route.Determined g.routes) (method? : Option String) :
    ((g.patterns method?).map (·.pattern)).Pairwise Pattern.Precedes := by
  have hsub : (g.patterns method?).Sublist ((g.listed method?).map (·.compiled)) := by
    rw [patterns_eq]
    exact distinctFrom_sublist _ _
  have hranked : (g.patterns method?).Pairwise fun c d =>
      rankLe c.pattern.rank d.pattern.rank = true :=
    (List.pairwise_map.2 (g.pairwise_listed method?)).sublist hsub
  have hdistinct : (g.patterns method?).Pairwise fun c d => c.pattern.same d.pattern = false := by
    rw [patterns_eq]
    exact pairwise_distinctFrom _ _
  refine List.pairwise_map.2 ((hranked.and hdistinct).imp_of_mem ?_)
  rintro c d hc hd ⟨hle, hne⟩
  refine ⟨hle, fun hrank => ?_⟩
  obtain ⟨r, hr, rfl⟩ := exists_of_mem_patterns hc
  obtain ⟨q, hq, rfl⟩ := exists_of_mem_patterns hd
  have hrq : r.pattern = q.pattern := hdetermined r (mem_listed.1 hr).1 q (mem_listed.1 hq).1
    (congrArg Prod.fst hrank)
  have hsame : r.compiled.pattern.same q.compiled.pattern = true :=
    Pattern.same_iff.2 (congrArg (·.template.key) hrq)
  rw [hsame] at hne
  cases hne

end Generation

end PathRouter
