import PathRouter.Proofs.Registering

set_option autoImplicit false

/-! # The catalogue of a generation

A generation lists its patterns by going through its routes in the order of their ranks and leaving
out what has come before. Where all patterns are what their sources read as, nothing is lost and
nothing repeated by that (`Builder.patterns_of_built`): every pattern that is registered comes
once, at the place that its rank gives it, and the patterns of a method are those of all patterns
that have it, in the same order. The reason is the same each time: patterns in the strict order of
their ranks are determined by which of them there are, and patterns of one source are one.
-/

namespace PathRouter

open Text

variable {α : Type}

/-! ## Ranks and sources -/

/-- A pattern ranks before those of smaller scores, and before those of its score whose sources come
later. -/
theorem Pattern.precedes_iff {p q : Pattern} :
    p.Precedes q ↔
      q.score < p.score ∨ (p.score = q.score ∧ before p.source q.source = true) := by
  rw [Precedes, rankLe_iff, notAfter_iff]
  simp only [rank, Nat.cast_lt, Nat.cast_inj, ne_eq, Prod.mk.injEq, not_and]
  constructor
  · rintro ⟨hless | ⟨hscore, hbefore | hsource⟩, hne⟩
    · exact .inl hless
    · exact .inr ⟨hscore, hbefore⟩
    · exact absurd hscore (hne hsource)
  · rintro (hless | ⟨hscore, hbefore⟩)
    · exact ⟨.inl hless, fun _ => hless.ne'⟩
    · refine ⟨.inr ⟨hscore, .inl hbefore⟩, fun hsource => ?_⟩
      rw [hsource, before_irrefl] at hbefore
      cases hbefore

/-- The pattern of a declaration with a source is what its source reads as. -/
theorem Declaration.Makes.isRead {validateDefaults : Bool} {d : Declaration α} {r : Route α}
    (h : d.Makes validateDefaults r) (hsource : d.HasSource) : r.pattern.IsRead :=
  ⟨validateDefaults, h.parse_source hsource⟩

theorem Route.determined_of_isRead {routes : List (Route α)}
    (h : ∀ r ∈ routes, r.pattern.IsRead) : Route.Determined routes :=
  fun r hr q hq hsource => (h r hr).eq_of_source_eq (h q hq) hsource

namespace Generation

variable {g : Generation α}

theorem mem_patterns_none (hdetermined : Route.Determined g.routes) {p : Pattern} :
    p ∈ (g.patterns none).map (·.pattern) ↔ ∃ r ∈ g.routes, r.pattern = p :=
  mem_patterns hdetermined

theorem mem_patterns_some (hdetermined : Route.Determined g.routes) {method : String}
    {p : Pattern} :
    p ∈ (g.patterns (some method)).map (·.pattern) ↔
      ∃ r ∈ g.routes, upper method ∈ r.methods ∧ r.pattern = p := by
  simp [mem_patterns hdetermined, mem_listed, and_assoc]

/-- The patterns of a method are those of all patterns that some route has with the method. -/
theorem patterns_of_method (hdetermined : Route.Determined g.routes) (method : String) :
    (g.patterns (some method)).map (·.pattern) =
      ((g.patterns none).map (·.pattern)).filter fun p =>
        (methodsFor g.routes p).contains (upper method) := by
  -- two lists in the strict order of the ranks
  refine (pairwise_patterns hdetermined (some method)).eq_of_mem_iff
    ((pairwise_patterns hdetermined none).filter _) fun p => ?_
  rw [mem_patterns_some hdetermined, List.mem_filter, mem_patterns_none hdetermined,
    List.contains_iff_mem, mem_methodsFor]
  constructor
  · rintro ⟨r, hr, hmethod, rfl⟩
    exact ⟨⟨r, hr, rfl⟩, r, hr, Pattern.same_iff.2 rfl, hmethod⟩
  · -- the route that has the method need not be the one that has been found for the pattern
    rintro ⟨⟨r, hr, rfl⟩, q, hq, hsame, hmethod⟩
    exact ⟨q, hq, hmethod, hdetermined q hq r hr (Pattern.source_eq_of_same hsame)⟩

/-- Of the patterns that are listed, one alone is the same as that of a route. -/
theorem filter_same_patterns (hdetermined : Route.Determined g.routes) {r : Route α}
    (hr : r ∈ g.routes) :
    ((g.patterns none).map (·.pattern)).filter (·.same r.pattern) = [r.pattern] := by
  refine ((pairwise_patterns hdetermined none).filter _).eq_of_mem_iff
    (List.pairwise_singleton _ _) fun p => ?_
  rw [List.mem_filter, mem_patterns_none hdetermined, List.mem_singleton]
  constructor
  · rintro ⟨⟨q, hq, rfl⟩, hsame⟩
    exact hdetermined q hq r hr (Pattern.source_eq_of_same hsame)
  · rintro rfl
    exact ⟨⟨r, hr, rfl⟩, Pattern.same_iff.2 rfl⟩

end Generation

namespace Builder

variable {limit? : Option Int} {routes : List (Route α)} {b : Builder α}

/-- **Listing loses and repeats nothing.** Let routes be registered whose patterns are what their
sources read as, as all patterns are that are declared by their sources. The patterns of the
generation are those of the routes, each of them once, higher scores first and equal scores by
source. The patterns of a method are those among them, in their order, that some route has with the
method. -/
theorem patterns_of_built (h : Built limit? routes b) (hread : ∀ r ∈ routes, r.pattern.IsRead)
    (version : Int) :
    (∀ p, p ∈ ((b.build version).patterns none).map (·.pattern) ↔ ∃ r ∈ routes, r.pattern = p) ∧
    (∀ r ∈ routes, (((b.build version).patterns none).map (·.pattern)).filter
      (·.same r.pattern) = [r.pattern]) ∧
    (((b.build version).patterns none).map (·.pattern)).Pairwise (fun p q =>
      q.score < p.score ∨ (p.score = q.score ∧ before p.source q.source = true)) ∧
    ∀ method, ((b.build version).patterns (some method)).map (·.pattern) =
      (((b.build version).patterns none).map (·.pattern)).filter fun p =>
        (methodsFor routes p).contains (upper method) := by
  -- a generation has the routes that were registered, in another order
  have hperm := h.perm_build version
  have hdetermined : Route.Determined (b.build version).routes :=
    Route.determined_of_isRead fun r hr => hread r (hperm.mem_iff.1 hr)
  refine ⟨fun p => ?_, fun r hr => ?_, ?_, fun method => ?_⟩
  · rw [Generation.mem_patterns_none hdetermined]
    simp only [hperm.mem_iff]
  · exact Generation.filter_same_patterns hdetermined (hperm.mem_iff.2 hr)
  · exact (Generation.pairwise_patterns hdetermined none).imp Pattern.precedes_iff.1
  · rw [Generation.patterns_of_method hdetermined]
    refine List.filter_congr fun p _ => ?_
    rw [Bool.eq_iff_iff, List.contains_iff_mem, List.contains_iff_mem, mem_methodsFor,
      mem_methodsFor]
    simp only [hperm.mem_iff]

/-- A pattern that is registered twice, for a method and later for two others, and one that ranks
before it. -/
theorem patterns_of_built_twice :
    ∃ b : Builder Nat, Built none b.routes b ∧ (∀ r ∈ b.routes, r.pattern.IsRead) ∧
      b.routes.map Route.source = ["/\x7ba\x7d", "/bc", "/\x7ba\x7d"] ∧
      (∀ r ∈ b.routes, (((b.build 1).patterns none).map (·.pattern)).filter
        (·.same r.pattern) = [r.pattern]) ∧
      ((b.build 1).patterns (some "put")).map (·.pattern) =
        (((b.build 1).patterns none).map (·.pattern)).filter fun p =>
          (methodsFor b.routes p).contains "PUT" := by
  let declared : List (Declaration Nat) :=
    [⟨.source (some "/\x7ba\x7d"), .text "GET", 0⟩, ⟨.source (some "/bc"), .text "get", 1⟩,
      ⟨.source (some "/\x7ba\x7d"), .list [.text "post", .text " Put "], 2⟩]
  have hsource : ∀ d ∈ declared, d.HasSource := by
    intro d hd
    simp only [declared, List.mem_cons, List.not_mem_nil, or_false] at hd
    obtain rfl | rfl | rfl := hd <;> exact ⟨_, rfl⟩
  have hrun : ((({} : Builder Nat).registerAll (.ofOptions {}) 0 declared).1.toOption.map fun b =>
      b.routes.map Route.source) = some ["/\x7ba\x7d", "/bc", "/\x7ba\x7d"] := by decide +kernel
  obtain ⟨result, cache, hall, -, -, hresult⟩ := registerAll_spec (l := {}) nofun
    (Cache.faithful_ofOptions {}) rfl declared
  have hall : ({} : Builder Nat).registerAll (.ofOptions {}) 0 declared = (result, cache) := hall
  rw [hall] at hrun
  cases result with
  | error e => cases hrun
  | ok b =>
      obtain ⟨-, -, hmakes⟩ := hresult
      have hbuilt : Built none b.routes b := Built.empty.registerAll hall
      have hread : ∀ r ∈ b.routes, r.pattern.IsRead := by
        intro r hr
        obtain ⟨d, hd, hdr⟩ := exists_right_of_forall₂ hmakes.flip hr
        exact hdr.isRead (hsource d hd)
      obtain ⟨-, honce, -, hmethod⟩ := patterns_of_built hbuilt hread 1
      have hupper : upper "put" = "PUT" := by decide
      exact ⟨b, hbuilt, hread, Option.some.inj hrun, honce, hupper ▸ hmethod "put"⟩

end Builder

end PathRouter
