import PathRouter.Proofs.Listing
import PathRouter.Proofs.Loading
import PathRouter.Proofs.Tokens

set_option autoImplicit false

/-! # The order of declarations does not matter

Two registries with one configuration load a list of declarations and a rearrangement of it, all of
them with sources for patterns. Either both loads succeed or neither does, and if they do, nothing
that can be asked tells the two registries apart (`Registry.load_of_perm`). Their caches may differ,
and with them which compilation a pattern comes from; and routes of one source may be tried in
another order, but these never share a method.
-/

namespace PathRouter

open Text

variable {α : Type}

/-! ## Rearranged declarations -/

/-- A pattern that is read keeps the source it is read from. -/
theorem Pattern.source_of_parse {source : String} {validateDefaults : Bool} {p : Pattern}
    (h : Pattern.parse source validateDefaults = .ok p) : p.source = source := by
  unfold Pattern.parse at h
  split at h
  · cases h
  · next t ht =>
    obtain ⟨tokens, -, rfl⟩ := Outcome.map_eq_ok.1 ht
    rw [Pattern.source, Pattern.template_of_ofTemplate h]

/-- All that a look-up can tell of a route: not the compilation that its pattern comes from. -/
def Route.content (r : Route α) : Pattern × List String × α := (r.pattern, r.methods, r.payload)

namespace Declaration

/-- A declaration has the source of a pattern, not a pattern that is made already. -/
def HasSource (d : Declaration α) : Prop := ∃ source, d.pattern = .source (some source)

theorem Clashes.symm {validateDefaults : Bool} {d e : Declaration α}
    (h : d.Clashes validateDefaults e) : e.Clashes validateDefaults d := by
  obtain ⟨p, q, hp, hq, hsame, s, t, hs, ht, hst⟩ := h
  refine ⟨q, p, hq, hp, ?_, t, s, ht, hs, hst.symm⟩
  rw [Pattern.same_iff] at *
  exact hsame.symm

/-- A declaration says all of the content of its route. -/
theorem Makes.content_eq {validateDefaults : Bool} {d : Declaration α} {r q : Route α}
    (hr : d.Makes validateDefaults r) (hq : d.Makes validateDefaults q) :
    r.content = q.content := by
  have hpattern : r.pattern = q.pattern := Except.ok.inj (hr.pattern.symm.trans hq.pattern)
  have hmethods : r.methods = q.methods :=
    Methods.eq_of_mem_iff r.ascending q.ascending fun m => (hr.methods m).trans (hq.methods m).symm
  rw [Route.content, Route.content, hpattern, hmethods, hr.payload, hq.payload]

theorem Makes.map_content_eq {validateDefaults : Bool} {ds : List (Declaration α)}
    {routes routes' : List (Route α)} (h : List.Forall₂ (Makes validateDefaults) ds routes)
    (h' : List.Forall₂ (Makes validateDefaults) ds routes') :
    routes.map Route.content = routes'.map Route.content := by
  induction h generalizing routes' with
  | nil =>
      cases h'
      rfl
  | cons hd _ ih =>
      obtain _ | ⟨hd', hrest⟩ := h'
      rw [List.map_cons, List.map_cons, hd.content_eq hd', ih hrest]

/-- The routes of rearranged declarations have the same content, rearranged. -/
theorem Makes.perm_content {validateDefaults : Bool} {ds es : List (Declaration α)}
    {routes routes' : List (Route α)} (h : ds.Perm es)
    (hds : List.Forall₂ (Makes validateDefaults) ds routes)
    (hes : List.Forall₂ (Makes validateDefaults) es routes') :
    (routes.map Route.content).Perm (routes'.map Route.content) := by
  obtain ⟨rearranged, hrearranged, hperm⟩ := List.perm_comp_forall₂ h.symm hds
  rw [← map_content_eq hrearranged hes]
  exact (hperm.map _).symm

/-- The route of a declaration with a source has the pattern of this source. -/
theorem Makes.parse_source {validateDefaults : Bool} {d : Declaration α} {r : Route α}
    (h : d.Makes validateDefaults r) (hsource : d.HasSource) :
    Pattern.parse r.source validateDefaults = .ok r.pattern := by
  obtain ⟨source, hd⟩ := hsource
  have hpattern : Pattern.parse? (some source) validateDefaults = .ok r.pattern := by
    rw [← h.pattern, hd]
    rfl
  obtain ⟨_, hsame, hparse⟩ := Pattern.parse?_eq_ok.1 hpattern
  obtain rfl := Option.some.inj hsame
  rwa [Route.source, Pattern.source_of_parse hparse]

/-- Declared by their sources, routes with one source have one pattern. -/
theorem Makes.determined {validateDefaults : Bool} {ds : List (Declaration α)}
    {routes : List (Route α)} (h : List.Forall₂ (Makes validateDefaults) ds routes)
    (hsource : ∀ d ∈ ds, d.HasSource) : Route.Determined routes := by
  have hparse : ∀ r ∈ routes, Pattern.parse r.source validateDefaults = .ok r.pattern := by
    intro r hr
    obtain ⟨d, hd, hdr⟩ := exists_right_of_forall₂ h.flip hr
    exact hdr.parse_source (hsource d hd)
  intro r hr q hq hsame
  have hrparse := hparse r hr
  rw [hsame, hparse q hq] at hrparse
  exact (Except.ok.inj hrparse).symm

end Declaration

/-- Routes do not clash if their declarations do not. -/
theorem Declaration.Makes.pairwise {validateDefaults : Bool} {ds : List (Declaration α)}
    {routes : List (Route α)} (h : List.Forall₂ (Makes validateDefaults) ds routes)
    (hapart : ds.Pairwise fun d e => ¬ d.Clashes validateDefaults e) :
    routes.Pairwise fun r q => ¬ q.Clashes r := by
  induction h with
  | nil => exact .nil
  | cons hd hrest ih =>
      obtain ⟨hfirst, hapart⟩ := List.pairwise_cons.1 hapart
      refine List.pairwise_cons.2 ⟨fun q hq => ?_, ih hapart⟩
      obtain ⟨e, he, heq⟩ := exists_right_of_forall₂ hrest.flip hq
      exact fun hclash => hfirst e he ((hd.clashes_iff heq).1 hclash)

/-- Acceptable declarations stay so in another order. -/
theorem Limits.Accepts.of_perm {l : Limits} {ds es : List (Declaration α)} (h : l.Accepts ds)
    (hperm : ds.Perm es) : l.Accepts es := by
  refine ⟨fun d hd => h.named d (hperm.mem_iff.2 hd), fun d hd => h.compiles d (hperm.mem_iff.2 hd),
    fun limit hlimit => ?_, ?_⟩
  · rw [← hperm.length_eq]
    exact h.fits limit hlimit
  · exact (hperm.pairwise_iff fun hde hed => hde hed.symm).1 h.apart

/-! ## Rearranged routes -/

namespace Route

theorem Clashes.symm {r q : Route α} (h : r.Clashes q) : q.Clashes r := by
  obtain ⟨hsame, m, hq, hr⟩ := h
  rw [Clashes, Pattern.same_iff] at *
  exact ⟨hsame.symm, m, hr, hq⟩

instance : Std.Symm fun r q : Route α => ¬ q.Clashes r := ⟨fun _ _ h hclash => h hclash.symm⟩

/-- Of routes that do not clash, one alone has a given source and a given method. -/
theorem eq_of_source_eq {routes : List (Route α)} (hdetermined : Determined routes)
    (hapart : routes.Pairwise fun r q => ¬ q.Clashes r) {r q : Route α} (hr : r ∈ routes)
    (hq : q ∈ routes) (hsource : r.source = q.source) {m : String} (hrm : m ∈ r.methods)
    (hqm : m ∈ q.methods) : r = q := by
  by_contra hne
  refine hapart.forall hr hq hne ⟨?_, m, hrm, hqm⟩
  rw [Pattern.same_iff, hdetermined r hr q hq hsource]

theorem answers_iff_of_content_eq {r q : Route α} (h : r.content = q.content) {path m : String} :
    r.Answers path m ↔ q.Answers path m := by
  obtain ⟨hpattern, hmethods, -⟩ : r.pattern = q.pattern ∧ r.methods = q.methods ∧ _ := by
    simpa [content] using h
  rw [Answers, Answers, hpattern, hmethods]

end Route

/-- All that a look-up answers, but for the compilation that the pattern comes from. -/
def Resolution.content (x : Resolution α) : α × Pattern × Parameters :=
  (x.route.payload, x.route.pattern, x.parameters)

namespace Generation

variable {g g' : Generation α}

/-- The first match has the same content in routes with the same content. -/
theorem map_firstMatch_eq (path : String) {routes routes' : List (Route α)}
    (h : routes.map Route.content = routes'.map Route.content) :
    (firstMatch path routes).map (fun (r, parameters, _) => (r.payload, r.pattern, parameters)) =
      (firstMatch path routes').map fun (r, parameters, _) =>
        (r.payload, r.pattern, parameters) := by
  induction routes generalizing routes' with
  | nil =>
      obtain rfl := List.map_eq_nil_iff.1 h.symm
      rfl
  | cons r rest ih =>
      obtain ⟨q, rest', rfl, hq, hrest⟩ := List.map_eq_cons_iff.1 h.symm
      obtain ⟨hpattern, -, hpayload⟩ : q.pattern = r.pattern ∧ _ ∧ q.payload = r.payload := by
        simpa [Route.content] using hq
      rw [firstMatch, firstMatch, hpattern]
      cases r.pattern.resolve path with
      | none => exact ih hrest.symm
      | some parameters => simp [hpattern, hpayload]

theorem exists_content_eq (h : (g.routes.map Route.content).Perm (g'.routes.map Route.content))
    {r : Route α} (hr : r ∈ g.routes) : ∃ q ∈ g'.routes, q.content = r.content :=
  List.mem_map.1 (h.mem_iff.1 (List.mem_map_of_mem hr))

theorem determined_of_perm (h : (g.routes.map Route.content).Perm (g'.routes.map Route.content))
    (hdetermined : Route.Determined g.routes) : Route.Determined g'.routes := by
  intro r hr q hq hsource
  obtain ⟨r', hr', hrr'⟩ := exists_content_eq h.symm hr
  obtain ⟨q', hq', hqq'⟩ := exists_content_eq h.symm hq
  have hrpattern : r'.pattern = r.pattern := congrArg Prod.fst hrr'
  have hqpattern : q'.pattern = q.pattern := congrArg Prod.fst hqq'
  rw [← hrpattern, ← hqpattern]
  refine hdetermined r' hr' q' hq' ?_
  rw [Route.source, Route.source, hrpattern, hqpattern]
  exact hsource

/-- The candidates of a method have the same content in the same order. Those of one rank are of one
source, and no two of these have the method. -/
theorem map_content_candidates
    (h : (g.routes.map Route.content).Perm (g'.routes.map Route.content))
    (hdetermined : Route.Determined g.routes)
    (hapart : g.routes.Pairwise fun r q => ¬ q.Clashes r) (method : String) :
    (g.candidates method).map Route.content = (g'.candidates method).map Route.content := by
  have hfilter : ∀ g : Generation α, (g.candidates method).map Route.content =
      (g.routes.map Route.content).filter (·.2.1.contains method) := by
    intro g
    rw [candidates_eq_filter, List.filter_map]
    rfl
  have hperm : ((g.candidates method).map Route.content).Perm
      ((g'.candidates method).map Route.content) := by
    rw [hfilter, hfilter]
    exact h.filter _
  have hranked : ∀ g : Generation α, ((g.candidates method).map Route.content).Pairwise
      fun c d => rankLe c.1.rank d.1.rank = true :=
    fun g => List.pairwise_map.2 (g.pairwise_candidates method)
  refine List.Perm.eq_of_pairwise ?_ (hranked g) (hranked g') hperm
  intro c d hc hd hcd hdc
  obtain ⟨r, hr, rfl⟩ := List.mem_map.1 hc
  obtain ⟨q, hq, rfl⟩ := List.mem_map.1 (hperm.mem_iff.2 hd)
  obtain ⟨hr, hrm⟩ := mem_candidates.1 hr
  obtain ⟨hq, hqm⟩ := mem_candidates.1 hq
  have hsource : r.source = q.source := congrArg Prod.fst (rankLe_antisymm hcd hdc)
  rw [Route.eq_of_source_eq hdetermined hapart hr hq hsource hrm hqm]

theorem map_content_find
    (h : (g.routes.map Route.content).Perm (g'.routes.map Route.content))
    (hdetermined : Route.Determined g.routes)
    (hapart : g.routes.Pairwise fun r q => ¬ q.Clashes r) (path method : String) :
    (g.find path method).map Resolution.content = (g'.find path method).map Resolution.content := by
  have hfirst := map_firstMatch_eq path
    (map_content_candidates h hdetermined hapart (upper method))
  rw [find, find, Option.map_map, Option.map_map]
  exact hfirst

theorem allowedMethods_eq_of_perm
    (h : (g.routes.map Route.content).Perm (g'.routes.map Route.content)) (path : String) :
    g.allowedMethods path = g'.allowedMethods path := by
  have key : ∀ {g g' : Generation α},
      (g.routes.map Route.content).Perm (g'.routes.map Route.content) →
        ∀ m ∈ g.allowedMethods path, m ∈ g'.allowedMethods path := by
    intro g g' h m hm
    obtain ⟨r, hr, hanswers⟩ := mem_allowedMethods.1 hm
    obtain ⟨q, hq, hqr⟩ := exists_content_eq h hr
    exact mem_allowedMethods.2 ⟨q, hq, (Route.answers_iff_of_content_eq hqr).2 hanswers⟩
  exact Methods.eq_of_mem_iff (ascending_allowedMethods g path) (ascending_allowedMethods g' path)
    fun m => ⟨key h m, key h.symm m⟩

theorem map_pattern_patterns
    (h : (g.routes.map Route.content).Perm (g'.routes.map Route.content))
    (hdetermined : Route.Determined g.routes) (method? : Option String) :
    (g.patterns method?).map (·.pattern) = (g'.patterns method?).map (·.pattern) := by
  have key : ∀ {g g' : Generation α},
      (g.routes.map Route.content).Perm (g'.routes.map Route.content) →
        ∀ p, (∃ r ∈ g.listed method?, r.pattern = p) → ∃ r ∈ g'.listed method?, r.pattern = p := by
    rintro g g' h p ⟨r, hr, rfl⟩
    obtain ⟨hr, hmethod⟩ := mem_listed.1 hr
    obtain ⟨q, hq, hqr⟩ := exists_content_eq h hr
    obtain ⟨hpattern, hmethods, -⟩ : q.pattern = r.pattern ∧ q.methods = r.methods ∧ _ := by
      simpa [Route.content] using hqr
    exact ⟨q, mem_listed.2 ⟨hq, by rwa [hmethods]⟩, hpattern⟩
  have hdetermined' := determined_of_perm h hdetermined
  -- two strictly ordered lists with the same members
  refine (pairwise_patterns hdetermined method?).eq_of_mem_iff
    (pairwise_patterns hdetermined' method?) fun p => ?_
  rw [mem_patterns hdetermined, mem_patterns hdetermined']
  exact ⟨key h p, key h.symm p⟩

theorem fingerprint_eq_of_perm
    (h : (g.routes.map Route.content).Perm (g'.routes.map Route.content)) :
    g.fingerprint = g'.fingerprint := by
  have hrows : ∀ g : Generation α, g.routes.map Fingerprint.rowOf =
      (g.routes.map Route.content).map fun c => (c.1.source, c.2.1) := by
    intro g
    rw [List.map_map]
    rfl
  have hcanonical : Fingerprint.canonical g.routes = Fingerprint.canonical g'.routes := by
    refine Fingerprint.canonicalForm_eq_of_perm ?_
    rw [hrows, hrows]
    exact h.map _
  rw [fingerprint, fingerprint, PathRouter.fingerprint, PathRouter.fingerprint, hcanonical]

end Generation

/-! ## Loads -/

namespace Registry

/-- What a load of declarations with sources makes the live generation. -/
theorem routes_of_loads {r : Registry α} (hr : r.Sound) {ds : List (Declaration α)}
    (h : r.Loads ds) :
    ∃ g routes, (r.load ds).1 = .ok g ∧ (r.load ds).2.generation? = some g ∧
      g.routes.Perm routes ∧ List.Forall₂ (Declaration.Makes r.limits.validateDefaults) ds routes ∧
      routes.Pairwise fun r q => ¬ q.Clashes r := by
  obtain ⟨g, hg⟩ := h
  obtain ⟨hgeneration, -, -, routes, hperm, hmakes⟩ := load_eq_ok hr hg
  have haccepts := (loads_iff hr ds).1 ⟨g, hg⟩
  exact ⟨g, routes, hg, hgeneration, hperm, hmakes,
    Declaration.Makes.pairwise hmakes haccepts.apart⟩

/-- **The order in which declarations are loaded does not matter.** Let two new registries with the
same configuration, each with a cache of its own or one filled by compiling, load declarations with
sources, one of them in another order than the other. One load succeeds if and only if the other one
does. If they do, look-ups lead to the same payload, pattern and parameters, the same methods are
allowed for every path, the same patterns are listed in the same order, and the fingerprints of the
live generations are equal. -/
theorem load_of_perm {settings config : Settings} (hconfig : settings.check = .ok config)
    {cache₁? cache₂? : Option Cache} (hcache₁ : ∀ c, cache₁? = some c → c.Faithful)
    (hcache₂ : ∀ c, cache₂? = some c → c.Faithful) {r₁ r₂ : Registry α}
    (hr₁ : create config.limits cache₁? = .ok r₁) (hr₂ : create config.limits cache₂? = .ok r₂)
    {ds₁ ds₂ : List (Declaration α)} (hsource : ∀ d ∈ ds₁, d.HasSource) (hperm : ds₁.Perm ds₂) :
    (r₁.Loads ds₁ ↔ r₂.Loads ds₂) ∧
      (r₁.Loads ds₁ →
        (∀ path method, ((r₁.load ds₁).2.find path method).map Resolution.content =
            ((r₂.load ds₂).2.find path method).map Resolution.content) ∧
          (∀ path, (r₁.load ds₁).2.allowedMethods path = (r₂.load ds₂).2.allowedMethods path) ∧
          (∀ method?, ((r₁.load ds₁).2.patterns method?).map (·.pattern) =
            ((r₂.load ds₂).2.patterns method?).map (·.pattern)) ∧
          ∃ g₁ g₂, (r₁.load ds₁).1 = .ok g₁ ∧ (r₂.load ds₂).1 = .ok g₂ ∧
            g₁.fingerprint = g₂.fingerprint) := by
  have hlimit : ∀ limit, config.limits.maxPatterns? = some limit → 1 ≤ limit :=
    fun limit h => Settings.one_le_of_check hconfig h
  have hsound₁ := sound_create hlimit hcache₁ hr₁
  have hsound₂ := sound_create hlimit hcache₂ hr₂
  have hlimits₁ := (new_of_create hr₁).1
  have hlimits₂ := (new_of_create hr₂).1
  have hiff : r₁.Loads ds₁ ↔ r₂.Loads ds₂ := by
    rw [loads_iff hsound₁, loads_iff hsound₂, hlimits₁, hlimits₂]
    exact ⟨fun h => h.of_perm hperm, fun h => h.of_perm hperm.symm⟩
  refine ⟨hiff, fun h => ?_⟩
  obtain ⟨g₁, routes₁, hg₁, hlive₁, hroutes₁, hmakes₁, hapart₁⟩ := routes_of_loads hsound₁ h
  obtain ⟨g₂, routes₂, hg₂, hlive₂, hroutes₂, hmakes₂, -⟩ := routes_of_loads hsound₂ (hiff.1 h)
  rw [hlimits₁] at hmakes₁
  rw [hlimits₂] at hmakes₂
  have hcontent : (g₁.routes.map Route.content).Perm (g₂.routes.map Route.content) :=
    calc (g₁.routes.map Route.content).Perm (routes₁.map Route.content) := hroutes₁.map _
      List.Perm _ (routes₂.map Route.content) :=
        Declaration.Makes.perm_content hperm hmakes₁ hmakes₂
      List.Perm _ (g₂.routes.map Route.content) := (hroutes₂.map _).symm
  have hdetermined : Route.Determined g₁.routes := by
    intro r hr q hq
    exact Declaration.Makes.determined hmakes₁ hsource r (hroutes₁.mem_iff.1 hr) q
      (hroutes₁.mem_iff.1 hq)
  have hapart : g₁.routes.Pairwise fun r q => ¬ q.Clashes r :=
    (hroutes₁.pairwise_iff fun h hclash => h hclash.symm).2 hapart₁
  refine ⟨fun path method => ?_, fun path => ?_, fun method? => ?_, g₁, g₂, hg₁, hg₂, ?_⟩
  · rw [find, find, hlive₁, hlive₂]
    exact Generation.map_content_find hcontent hdetermined hapart path method
  · rw [allowedMethods, allowedMethods, hlive₁, hlive₂]
    exact Generation.allowedMethods_eq_of_perm hcontent path
  · rw [patterns, patterns, hlive₁, hlive₂]
    exact Generation.map_pattern_patterns hcontent hdetermined method?
  · exact Generation.fingerprint_eq_of_perm hcontent

/-- Two routes of one source and a third one with their score are loaded in both directions, and
look-ups find the same. -/
theorem load_of_perm_reversed :
    ∃ (r : Registry Nat) (ds : List (Declaration Nat)), r.Loads ds ∧ r.Loads ds.reverse ∧
      ∀ path method, ((r.load ds).2.find path method).map Resolution.content =
        ((r.load ds.reverse).2.find path method).map Resolution.content := by
  let r : Registry Nat := { limits := {}, cache := .ofOptions {} }
  let ds : List (Declaration Nat) :=
    [⟨.source (some "/{a}"), .text "GET", 0⟩, ⟨.source (some "/{a}"), .text "POST", 1⟩,
      ⟨.source (some "/{b}"), .text "POST", 2⟩]
  have hconfig : ({} : Settings).check = .ok {} := rfl
  have hr : create ({} : Settings).limits none = .ok r := rfl
  have hsource : ∀ d ∈ ds, d.HasSource := by
    intro d hd
    simp only [ds, List.mem_cons, List.not_mem_nil, or_false] at hd
    obtain rfl | rfl | rfl := hd <;> exact ⟨_, rfl⟩
  have hloads : (r.load ds).1.toOption.isSome = true := by decide +kernel
  obtain ⟨hiff, hsame⟩ := load_of_perm hconfig (by simp) (by simp) hr hr hsource
    (List.reverse_perm ds).symm
  have h : r.Loads ds := by
    cases hload : (r.load ds).1 with
    | ok g => exact ⟨g, hload⟩
    | error e =>
        rw [hload] at hloads
        cases hloads
  exact ⟨r, ds, h, hiff.1 h, (hsame h).1⟩

end Registry

end PathRouter
