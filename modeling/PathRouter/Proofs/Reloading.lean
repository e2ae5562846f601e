import PathRouter.Proofs.Setup

set_option autoImplicit false

/-! # Loading once more

What a load compiles is cached, and none of it is evicted before the load is over, if the cache has
room for its sources: those that the load has asked for are always the latest entries
(`Cache.Latest`), whatever was cached before it. A second load of the same declarations is therefore
served from the cache throughout and makes the same routes of the same compiled patterns
(`Registry.load_again`).
-/

namespace PathRouter

/-! ## One look-up -/

namespace Cache

variable {c c' : Cache} {key : String} {compiled : Compiled} {seen : Finset String}

/-- What is cached for a source. -/
def held (c : Cache) (key : String) : Option Compiled := (c.find? key).map (·.compiled)

theorem held_eq_none_iff : c.held key = none ↔ key ∉ c.keys := by
  rw [held, Option.map_eq_none_iff, find?_eq_none_iff]

theorem held_congr (h : c'.entries = c.entries) (key : String) : c'.held key = c.held key := by
  rw [held, held, find?, find?, h]

/-- Of entries, one of which has been moved to the end, this one is found, and so is any other. -/
theorem find?_moved {entries : List CacheEntry} {e : CacheEntry} (k : String) :
    (entries.filter (·.key != e.key) ++ [e]).find? (·.key == k) =
      if k = e.key then some e else entries.find? (·.key == k) := by
  rw [List.find?_append, List.find?_filter]
  by_cases hk : k = e.key
  · have hnone : entries.find? (fun a => decide (a.key != e.key ∧ a.key == k)) = none := by
      refine List.find?_eq_none.2 fun a _ => ?_
      simp [hk]
    rw [hnone]
    simp [hk]
  · have hsame : (fun a : CacheEntry => decide (a.key != e.key ∧ a.key == k)) =
        fun a => a.key == k := by
      funext a
      by_cases ha : a.key = k
      · simp [ha, hk]
      · simp [ha]
    have hlast : (e.key == k) = false := by simpa using Ne.symm hk
    rw [hsame, if_neg hk, List.find?_singleton, hlast]
    simp

/-- What is cached is served and becomes the latest entry. -/
theorem compile_of_held (httl : c.options.ttl? = none) (h : c.held key = some compiled) :
    ∃ e : CacheEntry, e.key = key ∧ e.compiled = compiled ∧ c.compile (some key) = (.ok compiled,
      Cache.count { c with entries := c.entries.filter (·.key != key) ++ [e] }
        fun s => { s with hits := s.hits + 1 }) := by
  obtain ⟨e, hfind, rfl⟩ := Option.map_eq_some_iff.1 h
  have hkey : e.key = key := by simpa using List.find?_some hfind
  refine ⟨{ e with accesses := e.accesses + 1 }, hkey, rfl, ?_⟩
  simp [compile, get?, get, hfind, isExpired, httl, erase]

theorem held_of_compile (httl : c.options.ttl? = none) (hkey : key ∈ c.keys)
    (h : c.compile (some key) = (.ok compiled, c')) : c.held key = some compiled := by
  cases hheld : c.held key with
  | none => exact absurd hkey (held_eq_none_iff.1 hheld)
  | some compiled' =>
      obtain ⟨e, -, -, hcompile⟩ := compile_of_held httl hheld
      rw [hcompile] at h
      rw [Except.ok.inj (congrArg Prod.fst h)]

/-- A pattern that is stored becomes the latest entry. If it is not cached, and there is no room for
it, the oldest entry goes. -/
theorem entries_put (hcapacity : 0 < c.capacity) (key : String) (compiled : Compiled) :
    ∃ (kept : List CacheEntry) (e : CacheEntry), e.key = key ∧ e.compiled = compiled ∧
      (c.put key compiled).entries = kept.filter (·.key != e.key) ++ [e] ∧
      (kept = c.entries ∨
        kept = c.entries.tail ∧ key ∉ c.keys ∧ c.capacity ≤ c.entries.length) := by
  unfold put
  rw [if_neg (by omega)]
  by_cases hfull : (decide (c.capacity ≤ c.entries.length) && !c.contains key) = true
  · have hgone : c.evictOldest.entries = c.entries.tail := by simp [evictOldest]
    have hboth : c.capacity ≤ c.entries.length ∧ c.contains key = false := by simpa using hfull
    refine ⟨c.entries.tail, { key, compiled, createdAt := c.evictOldest.now }, rfl, rfl, ?_,
      .inr ⟨rfl, contains_eq_false_iff.1 hboth.2, hboth.1⟩⟩
    simp only [if_pos hfull, erase, hgone]
  · refine ⟨c.entries, { key, compiled, createdAt := c.now }, rfl, rfl, ?_, .inl rfl⟩
    simp only [if_neg hfull, erase]

/-- So does a pattern whose source is asked for, whether it was cached or had to be made. -/
theorem entries_compile (httl : c.options.ttl? = none) (hcapacity : 0 < c.capacity)
    (h : c.compile (some key) = (.ok compiled, c')) :
    ∃ (kept : List CacheEntry) (e : CacheEntry), e.key = key ∧ e.compiled = compiled ∧
      c'.entries = kept.filter (·.key != e.key) ++ [e] ∧
      (kept = c.entries ∨
        kept = c.entries.tail ∧ key ∉ c.keys ∧ c.capacity ≤ c.entries.length) := by
  cases hheld : c.held key with
  | some compiled' =>
      obtain ⟨e, rfl, hcompiled, hcompile⟩ := compile_of_held httl hheld
      rw [hcompile] at h
      obtain ⟨hok, rfl⟩ := Prod.mk.inj h
      exact ⟨c.entries, e, rfl, hcompiled.trans (Except.ok.inj hok), by simp, .inl rfl⟩
  | none =>
      have hkey : key ∉ c.keys := held_eq_none_iff.1 hheld
      rw [compile, get?, get, find?_eq_none_iff.2 hkey] at h
      dsimp only at h
      split at h
      · cases h
      · next p hparse =>
        obtain ⟨hok, rfl⟩ := Prod.mk.inj h
        obtain rfl := Except.ok.inj hok
        -- the miss has been counted, which changes no entry
        have hentries : (c.missed.adopt p).2.entries = c.entries := count_entries ..
        have hroom : (c.missed.adopt p).2.capacity = c.capacity := count_capacity ..
        have hput := entries_put (c := (c.missed.adopt p).2) (by rwa [hroom]) key
          (c.missed.adopt p).1
        rw [keys, hentries, hroom] at hput
        exact hput

/-! ## The latest entries -/

/-- The latest of some entries are those of the sources in `seen`, one for each. -/
def Latest (seen : Finset String) (entries : List CacheEntry) : Prop :=
  ∃ older latest, entries = older ++ latest ∧ (∀ e ∈ older, e.key ∉ seen) ∧
    (latest.map (·.key)).Nodup ∧ (latest.map (·.key)).toFinset = seen

theorem latest_empty (entries : List CacheEntry) : Latest ∅ entries :=
  ⟨entries, [], by simp, by simp, List.nodup_nil, rfl⟩

/-- If there are more entries than sources in `seen`, the oldest one is of another source. -/
theorem Latest.tail {entries : List CacheEntry} (h : Latest seen entries)
    (hmore : seen.card < entries.length) :
    Latest seen entries.tail ∧
      ∀ k ∈ seen, entries.tail.find? (·.key == k) = entries.find? (·.key == k) := by
  obtain ⟨older, latest, rfl, holder, hnodup, rfl⟩ := h
  cases older with
  | nil =>
      rw [List.toFinset_card_of_nodup hnodup, List.length_map, List.nil_append] at hmore
      exact absurd hmore (lt_irrefl _)
  | cons oldest older =>
      refine ⟨⟨older, latest, rfl, fun e he => holder e (List.mem_cons_of_mem _ he), hnodup, rfl⟩,
        fun k hk => ?_⟩
      have hne : oldest.key ≠ k := fun h => holder oldest (List.mem_cons_self ..) (h ▸ hk)
      rw [List.cons_append, List.tail_cons, List.find?_cons_of_neg (by simpa using hne)]

/-- An entry that is moved to the end is one of the latest. -/
theorem Latest.moved {entries : List CacheEntry} (h : Latest seen entries) (e : CacheEntry) :
    Latest (insert e.key seen) (entries.filter (·.key != e.key) ++ [e]) := by
  obtain ⟨older, latest, rfl, holder, hnodup, rfl⟩ := h
  have hkeys : (latest.filter (·.key != e.key) ++ [e]).map (·.key) =
      (latest.map (·.key)).filter (· != e.key) ++ [e.key] := by
    rw [List.map_append, List.filter_map]
    rfl
  refine ⟨older.filter (·.key != e.key), latest.filter (·.key != e.key) ++ [e], ?_, ?_, ?_, ?_⟩
  · rw [List.filter_append, List.append_assoc]
  · intro a ha
    obtain ⟨ha, hne⟩ := List.mem_filter.1 ha
    rw [Finset.mem_insert, not_or]
    exact ⟨by simpa using hne, holder a ha⟩
  · rw [hkeys, List.nodup_append]
    refine ⟨hnodup.filter _, List.nodup_singleton _, ?_⟩
    intro k hk k' hk'
    obtain rfl := List.mem_singleton.1 hk'
    simpa using (List.mem_filter.1 hk).2
  · rw [hkeys]
    ext k
    by_cases hk : k = e.key
    · simp [hk]
    · simp [hk]

theorem Latest.mem_keys (h : Latest seen c.entries) (hkey : key ∈ seen) : key ∈ c.keys := by
  obtain ⟨older, latest, hsplit, -, -, rfl⟩ := h
  rw [keys, hsplit, List.map_append]
  exact List.mem_append_right _ (List.mem_toFinset.1 hkey)

/-- One more source is asked for. If there is room for all of them, none of the entries of the
others is evicted, and they hold what they have held. -/
theorem Latest.compile (h : Latest seen c.entries) (httl : c.options.ttl? = none)
    (hroom : ((insert key seen).card : Int) ≤ c.capacity)
    (hc : c.compile (some key) = (.ok compiled, c')) :
    Latest (insert key seen) c'.entries ∧ c'.held key = some compiled ∧
      ∀ k ∈ seen, c'.held k = c.held k := by
  have hcapacity : 0 < c.capacity := by
    have hpos : 0 < (insert key seen).card := Finset.card_pos.2 (Finset.insert_nonempty ..)
    omega
  obtain ⟨kept, e, rfl, rfl, hentries, hkept⟩ := entries_compile httl hcapacity hc
  have hlatest : Latest seen kept ∧
      ∀ k ∈ seen, kept.find? (·.key == k) = c.entries.find? (·.key == k) := by
    rcases hkept with rfl | ⟨rfl, hkey, hfull⟩
    · exact ⟨h, fun _ _ => rfl⟩
    · -- a source that is not cached is none of those in `seen`
      have hnew : e.key ∉ seen := fun hmem => hkey (h.mem_keys hmem)
      rw [Finset.card_insert_of_notMem hnew] at hroom
      exact h.tail (by omega)
  have hfind : ∀ k, c'.find? k = if k = e.key then some e else kept.find? (·.key == k) := by
    intro k
    rw [find?, hentries, find?_moved]
  refine ⟨hentries ▸ hlatest.1.moved e, ?_, fun k hk => ?_⟩
  · rw [held, hfind, if_pos rfl, Option.map_some]
  · by_cases hke : k = e.key
    · -- its entry has been served, so it holds what it has held
      subst hke
      have hheld := held_of_compile httl (h.mem_keys hk) hc
      rw [hheld, held, hfind, if_pos rfl, Option.map_some]
    · rw [held, held, hfind, if_neg hke, hlatest.2 k hk, find?]

/-- What holds of a cache while sources are asked for, those in `seen` before and the others still
to come: the latest entries are those of the first, and there is room for all of them. -/
structure HasRoom (seen : Finset String) (sources : List String) (c : Cache) : Prop where
  ttl : c.options.ttl? = none
  latest : Latest seen c.entries
  room : ((seen ∪ sources.toFinset).card : Int) ≤ c.capacity

/-- **One look-up of a load.** The source becomes one of those that have been asked for, and what is
held for the others stays. -/
theorem HasRoom.compile {sources : List String} (h : HasRoom seen (key :: sources) c)
    (hc : c.compile (some key) = (.ok compiled, c')) :
    HasRoom (insert key seen) sources c' ∧ c'.held key = some compiled ∧
      ∀ k ∈ seen, c'.held k = c.held k := by
  have hroom : ((insert key seen ∪ sources.toFinset).card : Int) ≤ c.capacity := by
    have hroom := h.room
    rwa [List.toFinset_cons, Finset.union_insert, ← Finset.insert_union] at hroom
  have hcard : (insert key seen).card ≤ (insert key seen ∪ sources.toFinset).card :=
    Finset.card_le_card Finset.subset_union_left
  have hc' : (c.compile (some key)).2 = c' := congrArg Prod.snd hc
  have hoptions : c'.options = c.options := hc' ▸ compile_options c _
  have hcapacity : c'.capacity = c.capacity := hc' ▸ compile_capacity c _
  obtain ⟨hlatest, hheld, hkept⟩ := h.latest.compile h.ttl (by omega) hc
  exact ⟨⟨hoptions ▸ h.ttl, hlatest, hcapacity ▸ hroom⟩, hheld, hkept⟩

/-- What `n` look-ups lead to that are all served: they are counted as hits, and what is cached is
what it was. -/
structure Served (n : Nat) (c c' : Cache) : Prop where
  options : c'.options = c.options
  held : ∀ k, c'.held k = c.held k
  stats : c'.stats =
    if c.options.keepsStats = true then { c.stats with hits := c.stats.hits + n } else c.stats

theorem Served.refl (c : Cache) : Served 0 c c := by
  refine ⟨rfl, fun _ => rfl, ?_⟩
  simp

theorem Served.trans {c'' : Cache} {m n : Nat} (h : Served m c c') (h' : Served n c' c'') :
    Served (m + n) c c'' := by
  refine ⟨h'.options.trans h.options, fun k => (h'.held k).trans (h.held k), ?_⟩
  rw [h'.stats, h.options, h.stats]
  split
  · simp [add_assoc]
  · rfl

theorem served_of_held (httl : c.options.ttl? = none) (h : c.held key = some compiled) :
    ∃ c', c.compile (some key) = (.ok compiled, c') ∧ Served 1 c c' := by
  obtain ⟨e, rfl, rfl, hcompile⟩ := compile_of_held httl h
  refine ⟨_, hcompile, ?_, fun k => ?_, ?_⟩
  · simp
  · rw [held_congr (count_entries ..), held, find?, find?_moved]
    by_cases hk : k = e.key
    · rw [if_pos hk, hk, h, Option.map_some]
    · rw [if_neg hk]
      rfl
  · rw [count_stats]
    simp

end Cache

/-! ## Declarations one after the other -/

namespace Builder

variable {α : Type} {b b' : Builder α} {c c' : Cache} {seen : Finset String}
  {ds : List (Declaration α)} {sources : List String} {index : Nat}

/-- The patterns of declarations are given by sources. -/
abbrev GivenBy (ds : List (Declaration α)) (sources : List String) : Prop :=
  List.Forall₂ (fun d source => d.pattern = .source (some source)) ds sources

/-- The first of some declarations has been registered if all of them have. -/
theorem registerAll_cons_eq_ok {d : Declaration α} :
    b.registerAll c index (d :: ds) = (.ok b', c') ↔
      ∃ r b₁ c₁, b.register c d = (.ok (r, b₁), c₁) ∧
        b₁.registerAll c₁ (index + 1) ds = (.ok b', c') := by
  rw [registerAll]
  rcases b.register c d with ⟨e | ⟨r, b₁⟩, c₁⟩
  · simp
  · simp

/-- What is compiled for a declaration that is registered is the pattern of the route. -/
theorem compile_of_register {d : Declaration α} {source : String} {r : Route α}
    (hd : d.pattern = .source (some source)) (h : b.register c d = (.ok (r, b'), c')) :
    c.compile (some source) = (.ok r.compiled, c') := by
  obtain ⟨-, hcompile, -, -⟩ := register_eq_ok.1 h
  rwa [hd] at hcompile

/-- A declaration whose source is cached with the compiled pattern of a route is registered as this
route, and served. -/
theorem register_of_held {d : Declaration α} {source : String} {r : Route α} {c₂ : Cache}
    (hd : d.pattern = .source (some source)) (h : b.register c d = (.ok (r, b'), c'))
    (httl : c₂.options.ttl? = none) (hheld : c₂.held source = some r.compiled) :
    ∃ c₃, b.register c₂ d = (.ok (r, b'), c₃) ∧ Cache.Served 1 c₂ c₃ := by
  obtain ⟨hmethods, -, hpayload, hadd⟩ := register_eq_ok.1 h
  obtain ⟨c₃, hcompile, hserved⟩ := Cache.served_of_held httl hheld
  refine ⟨c₃, register_eq_ok.2 ⟨hmethods, ?_, hpayload, hadd⟩, hserved⟩
  rw [hd]
  exact hcompile

/-- While declarations are registered, what is held for the sources asked for before stays. -/
theorem held_of_registerAll (hds : GivenBy ds sources) (hroom : Cache.HasRoom seen sources c)
    (h : b.registerAll c index ds = (.ok b', c')) : ∀ k ∈ seen, c'.held k = c.held k := by
  induction hds generalizing b c index seen with
  | nil =>
      obtain ⟨-, rfl⟩ := Prod.mk.inj h
      exact fun _ _ => rfl
  | cons hd _ ih =>
      obtain ⟨r, b₁, c₁, hregister, hrest⟩ := registerAll_cons_eq_ok.1 h
      obtain ⟨hroom₁, -, hkept⟩ := hroom.compile (compile_of_register hd hregister)
      exact fun k hk => (ih hroom₁ hrest k (Finset.mem_insert_of_mem hk)).trans (hkept k hk)

/-- **Registering again.** Let declarations be registered, with a cache that has room for their
sources. A cache that holds what is held then for these sources serves them all when the same
declarations are registered, and the routes are the same. -/
theorem registerAll_again (hds : GivenBy ds sources) (hroom : Cache.HasRoom seen sources c)
    (h : b.registerAll c index ds = (.ok b', c')) {c₂ : Cache} (httl : c₂.options.ttl? = none)
    (hheld : ∀ k ∈ sources, c₂.held k = c'.held k) :
    ∃ c₃, b.registerAll c₂ index ds = (.ok b', c₃) ∧ Cache.Served ds.length c₂ c₃ := by
  induction hds generalizing b c index seen c₂ with
  | nil =>
      obtain ⟨hb, -⟩ := Prod.mk.inj h
      exact ⟨c₂, congrArg (·, c₂) hb, .refl c₂⟩
  | @cons d source ds sources hd hds ih =>
      obtain ⟨r, b₁, c₁, hregister, hrest⟩ := registerAll_cons_eq_ok.1 h
      obtain ⟨hroom₁, hnow, -⟩ := hroom.compile (compile_of_register hd hregister)
      -- what has just been compiled is still there at the end
      have hend : c'.held source = some r.compiled :=
        (held_of_registerAll hds hroom₁ hrest source (Finset.mem_insert_self ..)).trans hnow
      obtain ⟨c₃, hagain, hserved⟩ := register_of_held hd hregister httl
        ((hheld source (List.mem_cons_self ..)).trans hend)
      have hheld₃ : ∀ k ∈ sources, c₃.held k = c'.held k :=
        fun k hk => (hserved.held k).trans (hheld k (List.mem_cons_of_mem _ hk))
      obtain ⟨c₄, hrestAgain, hrestServed⟩ :=
        ih hroom₁ hrest (hserved.options ▸ httl) hheld₃
      refine ⟨c₄, registerAll_cons_eq_ok.2 ⟨r, b₁, c₃, hagain, hrestAgain⟩, ?_⟩
      rw [List.length_cons, Nat.add_comm]
      exact hserved.trans hrestServed

end Builder

/-! ## Loads -/

namespace Registry

variable {α : Type}

/-- A load succeeds exactly if all declarations are registered, and publishes their routes. -/
theorem load_eq_ok_iff {r r' : Registry α} {ds : List (Declaration α)} {g : Generation α} :
    r.load ds = (.ok g, r') ↔
      ∃ b cache, r.builder.registerAll r.cache 0 ds = (.ok b, cache) ∧
        g = b.build (r.version + 1) ∧ r' = ({ r with cache }.publish b).2 := by
  unfold load
  rcases r.builder.registerAll r.cache 0 ds with ⟨e | b, cache⟩
  · simp
  · simp [eq_comm]

/-- **A load that is repeated compiles nothing.** Let a load of declarations succeed whose patterns
are given by sources. Its cache has no time to live and room for as many entries as there are
different sources, and may hold anything before. If the same is loaded again, and the cache has not
been used meanwhile, then this load succeeds too: it has the same routes, with the very patterns
that were compiled for the first one, and the next version; every declaration is a hit, and nothing
is missed, evicted or refused. -/
theorem load_again {r r₁ r₂ : Registry α} {ds : List (Declaration α)} {sources : List String}
    (hds : Builder.GivenBy ds sources) (httl : r.cache.options.ttl? = none)
    (hroom : (sources.toFinset.card : Int) ≤ r.cache.capacity) {g : Generation α}
    (hload : r.load ds = (.ok g, r₁)) (hcache : r₂.cache = r₁.cache)
    (hlimits : r₂.limits = r.limits) :
    ∃ g' r₃, r₂.load ds = (.ok g', r₃) ∧ r₃.generation? = some g' ∧ g'.routes = g.routes ∧
      g'.fingerprint = g.fingerprint ∧ g.version = r₁.version ∧ g'.version = r₂.version + 1 ∧
      r₃.cache.stats =
        if r.cache.options.keepsStats = true then
          { r₂.cache.stats with hits := r₂.cache.stats.hits + ds.length }
        else r₂.cache.stats := by
  obtain ⟨b, cache, hregister, rfl, rfl⟩ := load_eq_ok_iff.1 hload
  have hfirst : Cache.HasRoom ∅ sources r.cache :=
    ⟨httl, Cache.latest_empty _, by rwa [Finset.empty_union]⟩
  have hsetup : r.cache.AsSetUp cache := by
    have hall := Cache.AsSetUp.registerAll r.builder r.cache 0 ds
    rwa [hregister] at hall
  have hcache₂ : r₂.cache = cache := hcache
  have hoptions : r₂.cache.options = r.cache.options := hcache₂ ▸ hsetup.options
  obtain ⟨cache', hagain, hserved⟩ := Builder.registerAll_again hds hfirst hregister
    (hoptions ▸ httl) (fun _ _ => congrArg (Cache.held · _) hcache₂)
  have hbuilder : r₂.builder = r.builder := by rw [builder, builder, hlimits]
  rw [← hbuilder] at hagain
  refine ⟨_, _, load_eq_ok_iff.2 ⟨b, cache', hagain, rfl, rfl⟩, rfl, rfl, rfl, rfl, rfl, ?_⟩
  rw [← hoptions]
  exact hserved.stats

/-- Two sources, one of them declared twice and one cached before, are loaded with a cache that has
two places and is full. -/
theorem load_again_full :
    ∃ (r r₁ r₂ : Registry Nat) (ds : List (Declaration Nat)) (g g' : Generation Nat),
      r.cache.keys = ["/x", "/b"] ∧ r.cache.capacity = 2 ∧ ds.length = 3 ∧
        r.load ds = (.ok g, r₁) ∧ r₁.load ds = (.ok g', r₂) ∧ g'.routes = g.routes ∧
        g'.version = g.version + 1 ∧
        r₂.cache.stats = { r₁.cache.stats with hits := r₁.cache.stats.hits + 3 } := by
  let declare (source method : String) : Declaration Nat :=
    ⟨.source (some source), .text method, 0⟩
  let ds := [declare "/a" "GET", declare "/b" "GET", declare "/a" "POST"]
  let r : Registry Nat :=
    { limits := {}, cache := (Cache.ofOptions { maxSize := 2 }).compileAll [some "/x", some "/b"] }
  have hds : Builder.GivenBy ds ["/a", "/b", "/a"] := .cons rfl (.cons rfl (.cons rfl .nil))
  have httl : r.cache.options.ttl? = none := rfl
  have hkeeps : r.cache.options.keepsStats = true := by decide +kernel
  have hroom : (["/a", "/b", "/a"].toFinset.card : Int) ≤ r.cache.capacity := by decide +kernel
  have hloads : (r.load ds).1.toOption.isSome = true := by decide +kernel
  rcases hload : r.load ds with ⟨e | g, r₁⟩
  · rw [hload] at hloads
    cases hloads
  · have hlimits : r₁.limits = r.limits := by
      obtain ⟨b, cache, -, -, rfl⟩ := load_eq_ok_iff.1 hload
      rfl
    obtain ⟨g', r₂, hagain, -, hroutes, -, hversion, hversion', hstats⟩ :=
      load_again hds httl hroom hload rfl hlimits
    refine ⟨r, r₁, r₂, ds, g, g', by decide +kernel, by decide +kernel, rfl, hload, hagain,
      hroutes, ?_, ?_⟩
    · rw [hversion', hversion]
    · rw [hstats, if_pos hkeeps]
      rfl

end Registry

end PathRouter
