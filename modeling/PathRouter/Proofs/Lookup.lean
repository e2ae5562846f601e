import PathRouter.Route.Builder
import Mathlib.Tactic

set_option autoImplicit false

/-! # Look-up finds the best match

A path asked for with a method is led to the first route that matches it, in the order of ranks,
among the routes that the index lists for the method. `find_best_match` says what this comes to for
the generation of a builder, however its routes were registered: the route found is one of those
registered, and no other one that would answer ranks before it.
-/

namespace PathRouter

open Text

variable {α : Type}

/-! ## Routes that answer -/

/-- A route answers for a path and a method in upper case. -/
def Route.Answers (r : Route α) (path method : String) : Prop :=
  method ∈ r.methods ∧ r.pattern.isMatch path = true

instance (r : Route α) (path method : String) : Decidable (r.Answers path method) :=
  inferInstanceAs (Decidable (_ ∧ _))

/-- A route ranks at least as high as another: the other one has a smaller score, or the same score
and a source that is not lexically smaller. -/
def Route.Outranks (r other : Route α) : Prop :=
  other.score < r.score ∨ (other.score = r.score ∧ before other.source r.source = false)

theorem Route.outranks_of_le {r other : Route α} (h : r.le other = true) : r.Outranks other := by
  have hrank := rankLe_iff.1 h
  simp only [Route.rank, notAfter, Bool.not_eq_true', Nat.cast_lt, Nat.cast_inj] at hrank
  rcases hrank with hless | ⟨hscore, hsource⟩
  · exact Or.inl hless
  · exact Or.inr ⟨hscore.symm, hsource⟩

theorem Route.outranks_self (r : Route α) : r.Outranks r := Or.inr ⟨rfl, before_irrefl r.source⟩

/-- A pattern gives values to its variables for exactly the paths that it matches. -/
theorem Pattern.isSome_resolve (p : Pattern) (path : String) :
    (p.resolve path).isSome = p.isMatch path := by
  simp [Pattern.resolve, Pattern.captures?, Regex.Program.captures?, Pattern.isMatch]

theorem Pattern.resolve_eq_none_iff {p : Pattern} {path : String} :
    p.resolve path = none ↔ p.isMatch path = false := by
  rw [← p.isSome_resolve path, Option.isSome_eq_false_iff, Option.isNone_iff_eq_none]

namespace Generation

/-! ## The scan -/

/-- The scan fails if no route matches. -/
theorem firstMatch_eq_none_iff {path : String} {routes : List (Route α)} :
    firstMatch path routes = none ↔ ∀ r ∈ routes, r.pattern.isMatch path = false := by
  induction routes with
  | nil => simp [firstMatch]
  | cons r rest ih =>
      rw [firstMatch, List.forall_mem_cons, ← Pattern.resolve_eq_none_iff]
      cases hr : r.pattern.resolve path with
      | none => simpa using ih
      | some parameters => simp

/-- The scan stops at the first route that matches: all routes before it do not. -/
theorem firstMatch_eq_some {path : String} {routes : List (Route α)} {r : Route α}
    {parameters : Parameters} {rest : List (Route α)}
    (h : firstMatch path routes = some (r, parameters, rest)) :
    r.pattern.resolve path = some parameters ∧
      ∃ passed, routes = passed ++ r :: rest ∧
        ∀ p ∈ passed, p.pattern.isMatch path = false := by
  induction routes with
  | nil => simp [firstMatch] at h
  | cons first others ih =>
      rw [firstMatch] at h
      cases hfirst : first.pattern.resolve path with
      | some found =>
          rw [hfirst] at h
          obtain ⟨rfl, rfl, rfl⟩ : first = r ∧ found = parameters ∧ others = rest := by
            simpa using h
          exact ⟨hfirst, [], rfl, by simp⟩
      | none =>
          rw [hfirst] at h
          obtain ⟨hr, passed, rfl, hpassed⟩ := ih h
          refine ⟨hr, first :: passed, rfl, ?_⟩
          intro p hp
          rcases List.mem_cons.1 hp with rfl | hp
          · exact Pattern.resolve_eq_none_iff.1 hfirst
          · exact hpassed p hp

/-- In ranked routes the first match outranks every other match. -/
theorem outranks_of_firstMatch {path : String} {routes : List (Route α)} {r : Route α}
    {parameters : Parameters} {rest : List (Route α)}
    (ranked : routes.Pairwise fun a b => a.le b = true)
    (h : firstMatch path routes = some (r, parameters, rest)) :
    ∀ other ∈ routes, other.pattern.isMatch path = true → r.Outranks other := by
  intro other hother hmatch
  obtain ⟨-, passed, rfl, hpassed⟩ := firstMatch_eq_some h
  obtain ⟨-, hranked, -⟩ := List.pairwise_append.1 ranked
  -- a route before the first match does not match, and one after it ranks no higher
  rcases List.mem_append.1 hother with hin | hin
  · rw [hpassed other hin] at hmatch
    cases hmatch
  · rcases List.mem_cons.1 hin with rfl | hin
    · exact other.outranks_self
    · exact Route.outranks_of_le ((List.pairwise_cons.1 hranked).1 other hin)

/-! ## The candidates of a method -/

theorem mem_candidates {g : Generation α} {method : String} {r : Route α} :
    r ∈ g.candidates method ↔ r ∈ g.routes ∧ method ∈ r.methods := by
  simp [candidates_eq_filter]

theorem pairwise_candidates (g : Generation α) (method : String) :
    (g.candidates method).Pairwise fun a b => a.le b = true := by
  rw [candidates_eq_filter]
  exact g.ranked.filter _

/-! ## What is found -/

/-- Nothing is found exactly if no route answers. -/
theorem find_eq_none_iff {g : Generation α} {path method : String} :
    g.find path method = none ↔ ∀ r ∈ g.routes, ¬ r.Answers path (upper method) := by
  rw [find, Option.map_eq_none_iff, firstMatch_eq_none_iff]
  simp only [mem_candidates, Route.Answers, not_and, Bool.not_eq_true, and_imp]

/-- What is found is a route that answers, with the values that its pattern gives, and it outranks
every route that answers. -/
theorem find_eq_some {g : Generation α} {path method : String} {found : Resolution α}
    (h : g.find path method = some found) :
    found.route ∈ g.routes ∧ found.route.Answers path (upper method) ∧
      found.route.pattern.resolve path = some found.parameters ∧ found.method = upper method ∧
      ∀ other ∈ g.routes, other.Answers path (upper method) → found.route.Outranks other := by
  obtain ⟨⟨r, parameters, rest⟩, hfirst, rfl⟩ := Option.map_eq_some_iff.1 h
  obtain ⟨hresolve, passed, hsplit, -⟩ := firstMatch_eq_some hfirst
  have hcandidate : r ∈ g.candidates (upper method) := by simp [hsplit]
  obtain ⟨hroute, hmethod⟩ := mem_candidates.1 hcandidate
  have hmatch : r.pattern.isMatch path = true := by
    rw [← Pattern.isSome_resolve, hresolve]
    rfl
  refine ⟨hroute, ⟨hmethod, hmatch⟩, hresolve, rfl, ?_⟩
  rintro other hother ⟨hothers, hmatches⟩
  exact outranks_of_firstMatch (g.pairwise_candidates _) hfirst other
    (mem_candidates.2 ⟨hother, hothers⟩) hmatches

end Generation

/-! ## Registered routes -/

namespace Builder

/-- `Built limit? routes b`: successful registrations, one after the other, answered `routes` and
made the builder `b` of an empty one. The cache may be another one each time. -/
inductive Built (limit? : Option Int) : List (Route α) → Builder α → Prop
  | empty : Built limit? [] { limit? }
  | register {routes : List (Route α)} {b b' : Builder α} {cache cache' : Cache}
      {d : Declaration α} {r : Route α} (before : Built limit? routes b)
      (registered : b.register cache d = (.ok (r, b'), cache')) : Built limit? (routes ++ [r]) b'

/-- A builder holds the registered routes and no others, in the order of their registration. -/
theorem Built.routes_eq {limit? : Option Int} {routes : List (Route α)} {b : Builder α}
    (h : Built limit? routes b) : b.routes = routes := by
  induction h with
  | empty => rfl
  | register _ registered ih =>
      obtain ⟨-, -, -, hadd⟩ := register_eq_ok.1 registered
      obtain ⟨-, -, rfl⟩ := add_eq_ok.1 hadd
      rw [push_routes, ih]

/-- Registering declarations together is registering them one after the other. -/
theorem Built.registerAll {limit? : Option Int} {routes : List (Route α)} {b b' : Builder α}
    {cache cache' : Cache} {index : Nat} {ds : List (Declaration α)} (h : Built limit? routes b)
    (hall : b.registerAll cache index ds = (.ok b', cache')) : Built limit? b'.routes b' := by
  induction ds generalizing routes b cache index with
  | nil =>
      cases hall
      rw [h.routes_eq]
      exact h
  | cons d rest ih =>
      rw [Builder.registerAll] at hall
      rcases hd : b.register cache d with ⟨e | ⟨r, b₁⟩, cache₁⟩
      · rw [hd] at hall
        cases hall
      · rw [hd] at hall
        exact ih (h.register hd) hall

/-- **Look-up is exactly best match.** The generation of registered routes lists each of them once,
and so does its index for every method. A path leads nowhere if no registered route answers for it;
otherwise it leads to a registered route that answers, with the values that its pattern gives, and
this route outranks every registered route that answers. -/
theorem find_best_match {limit? : Option Int} {routes : List (Route α)} {b : Builder α}
    (h : Built limit? routes b) (version : Int) (path method : String) :
    (b.build version).routes.Perm routes ∧
      (∀ m, ((b.build version).candidates m).Perm (routes.filter (·.methods.contains m))) ∧
      ((∀ r ∈ routes, ¬ r.Answers path (upper method)) →
        (b.build version).find path method = none) ∧
      ((∃ r ∈ routes, r.Answers path (upper method)) →
        ∃ r ∈ routes, ∃ parameters,
          (b.build version).find path method =
            some { route := r, parameters, method := upper method } ∧
          r.pattern.resolve path = some parameters ∧ r.Answers path (upper method) ∧
          ∀ other ∈ routes, other.Answers path (upper method) → r.Outranks other) := by
  have hperm : (b.build version).routes.Perm routes := by
    rw [← h.routes_eq]
    exact Generation.perm_ofRoutes version b.routes
  refine ⟨hperm, ?_, ?_, ?_⟩
  · intro m
    rw [Generation.candidates_eq_filter]
    exact hperm.filter _
  · intro hnone
    rw [Generation.find_eq_none_iff]
    intro r hr
    exact hnone r (hperm.mem_iff.1 hr)
  · rintro ⟨r, hr, hanswers⟩
    cases hfind : (b.build version).find path method with
    | none =>
        exact absurd hanswers (Generation.find_eq_none_iff.1 hfind r (hperm.mem_iff.2 hr))
    | some found =>
        obtain ⟨hroute, hfound, hresolve, hmethod, hbest⟩ := Generation.find_eq_some hfind
        refine ⟨found.route, hperm.mem_iff.1 hroute, found.parameters, ?_, hresolve, hfound, ?_⟩
        · rw [← hmethod]
        · intro other hother
          exact hbest other (hperm.mem_iff.2 hother)

/-- Of two patterns with one score that match a path, the one whose source comes first is found,
though it is registered last. -/
theorem find_best_match_tied :
    ∃ b : Builder Nat, Built none b.routes b ∧ ∃ r ∈ b.routes, r.source = "/{a}" ∧
      ∃ parameters, (b.build 1).find "/x" "get" =
        some { route := r, parameters, method := upper "get" } := by
  let declared : List (Declaration Nat) :=
    [⟨.source (some "/{b}"), .text "GET", 0⟩, ⟨.source (some "/{a}"), .text "Get", 1⟩]
  have hrun : ((({} : Builder Nat).registerAll (.ofOptions {}) 0 declared).1.toOption.map
      fun b => b.routes.map fun r => (r.source, r.score, decide (r.Answers "/x" (upper "get")))) =
      some [("/{b}", 0, true), ("/{a}", 0, true)] := by decide +kernel
  rcases hall : ({} : Builder Nat).registerAll (.ofOptions {}) 0 declared with ⟨e | b, cache⟩
  · rw [hall] at hrun
    cases hrun
  · rw [hall] at hrun
    have hroutes := Option.some.inj hrun
    have hbuilt : Built none b.routes b := Built.empty.registerAll hall
    obtain ⟨rb, others, hb, hrb, hothers⟩ := List.map_eq_cons_iff.1 hroutes
    obtain ⟨ra, none, ha, hra, hnone⟩ := List.map_eq_cons_iff.1 hothers
    obtain rfl := List.map_eq_nil_iff.1 hnone
    simp only [Prod.mk.injEq, decide_eq_true_eq] at hrb hra
    have hmem : ra ∈ b.routes := by simp [hb, ha]
    obtain ⟨r, hr, parameters, hfind, -, -, hbest⟩ :=
      (find_best_match hbuilt 1 "/x" "get").2.2.2 ⟨ra, hmem, hra.2.2⟩
    refine ⟨b, hbuilt, r, hr, ?_, parameters, hfind⟩
    rw [hb, ha] at hr
    rcases List.mem_pair.1 hr with rfl | rfl
    · -- the route of `/{b}` would have to outrank that of `/{a}`
      have hlater := hbest ra hmem hra.2.2
      rw [Route.Outranks, hrb.1, hrb.2.1, hra.1, hra.2.1] at hlater
      exact absurd hlater (by decide)
    · exact hra.1

end Builder

end PathRouter
