import PathRouter.Proofs.Caching

set_option autoImplicit false

/-! # Least recently used

A cache without a time to live holds, of the sources that were compiled through it and are patterns,
those that were compiled last, as many as it has room for (`Cache.holdsRecent_compileAll`). So what
a small cache holds is held by a larger one too, and the larger one serves at least as often and
evicts at most as often (`Cache.least_recently_used`).

The order of recency is described first for calls alone, without a cache.
-/

namespace PathRouter

/-! ## Lists without repetitions -/

section

variable {β : Type} [BEq β] [LawfulBEq β]

theorem eraseDups_filter (p : β → Bool) (l : List β) :
    (l.filter p).eraseDups = l.eraseDups.filter p := by
  induction hn : l.length using Nat.strong_induction_on generalizing l with
  | _ n ih =>
      cases l with
      | nil => rfl
      | cons a l =>
          have hlength : (l.filter fun b => !b == a).length < n := by
            have hle := List.length_filter_le (fun b => !b == a) l
            rw [List.length_cons] at hn
            omega
          rw [List.eraseDups_cons, List.filter_cons]
          by_cases ha : p a = true
          · have hswap : (l.filter p).filter (fun b => !b == a) =
                (l.filter fun b => !b == a).filter p := by
              simp only [List.filter_filter, Bool.and_comm]
            rw [if_pos ha, List.eraseDups_cons, hswap, ih _ hlength _ rfl,
              List.filter_cons_of_pos ha]
          · -- what the filter leaves out need not be removed before
            have hdrop : (l.filter fun b => !b == a).filter p = l.filter p := by
              rw [List.filter_filter]
              refine List.filter_congr fun b _ => ?_
              by_cases hb : b = a
              · simp [hb, ha]
              · simp [hb]
            rw [if_neg ha, List.filter_cons_of_neg ha, ← ih _ hlength _ rfl, hdrop]

theorem eraseDups_cons_eq (a : β) (l : List β) :
    (a :: l).eraseDups = a :: l.eraseDups.filter (· != a) := by
  rw [List.eraseDups_cons, eraseDups_filter]
  rfl

theorem nodup_eraseDups (l : List β) : l.eraseDups.Nodup := by
  induction l with
  | nil => exact List.nodup_nil
  | cons a l ih =>
      rw [eraseDups_cons_eq, List.nodup_cons]
      refine ⟨?_, ih.filter _⟩
      intro ha
      simpa using (List.mem_filter.1 ha).2

/-- A member that is taken out of the first `k + 1` leaves the first `k` of the others in place. -/
theorem take_filter_take {l : List β} (h : l.Nodup) (a : β) (k : Nat) :
    ((l.take (k + 1)).filter (· != a)).take k = (l.filter (· != a)).take k := by
  rcases Nat.lt_or_ge k l.length with hk | hk
  · have hfront : k ≤ ((l.take (k + 1)).filter (· != a)).length := by
      rw [← (h.sublist (List.take_sublist ..)).erase_eq_filter]
      have htake : (l.take (k + 1)).length = k + 1 := List.length_take_of_le hk
      have herase := List.le_length_erase (a := a) (l := l.take (k + 1))
      omega
    calc ((l.take (k + 1)).filter (· != a)).take k
        = ((l.take (k + 1)).filter (· != a) ++ (l.drop (k + 1)).filter (· != a)).take k :=
          (List.take_append_of_le_length hfront).symm
      _ = (l.filter (· != a)).take k := by rw [← List.filter_append, List.take_append_drop]
  · have hall : l.take (k + 1) = l := List.take_of_length_le (by omega)
    rw [hall]

end

/-! ## Calls -/

/-- Whether a source is that of a pattern. -/
def Pattern.isSource (validateDefaults : Bool) (source : String) : Bool :=
  (Pattern.parse source validateDefaults).toOption.isSome

/-- The sources of patterns among those that are called for, the latest first and each once. -/
def recent (validateDefaults : Bool) (calls : List (Option String)) : List String :=
  (calls.reverse.filterMap (Option.filter (Pattern.isSource validateDefaults))).eraseDups

/-- Puts a key in front of others. Of these, only as many are kept as there are places for. -/
def bringToFront (places : Nat) (key : String) (keys : List String) : List String :=
  (key :: keys.filter (· != key)).take places

theorem nodup_recent (validateDefaults : Bool) (calls : List (Option String)) :
    (recent validateDefaults calls).Nodup := nodup_eraseDups _

/-- A source that is called for becomes the latest. -/
theorem recent_concat_of_isSource {validateDefaults : Bool} {source : String}
    (h : Pattern.isSource validateDefaults source = true) (calls : List (Option String)) :
    recent validateDefaults (calls ++ [some source]) =
      source :: (recent validateDefaults calls).filter (· != source) := by
  have hcall : (some source).filter (Pattern.isSource validateDefaults) = some source := by
    simp [h]
  rw [recent, List.reverse_append, List.reverse_singleton, List.singleton_append,
    List.filterMap_cons_some hcall, eraseDups_cons_eq]
  rfl

/-- What is no source of a pattern does not count. -/
theorem recent_concat_of_filter {validateDefaults : Bool} {source? : Option String}
    (h : source?.filter (Pattern.isSource validateDefaults) = none) (calls : List (Option String)) :
    recent validateDefaults (calls ++ [source?]) = recent validateDefaults calls := by
  rw [recent, List.reverse_append, List.reverse_singleton, List.singleton_append,
    List.filterMap_cons_none h]
  rfl

/-- What stands in front of the first places depends on what stood in them alone. -/
theorem bringToFront_take {keys : List String} (h : keys.Nodup) (places : Nat) (key : String) :
    bringToFront places key (keys.take places) = (key :: keys.filter (· != key)).take places := by
  cases places with
  | zero => rfl
  | succ k =>
      rw [bringToFront, List.take_succ_cons, List.take_succ_cons, take_filter_take h]

namespace Cache

/-! ## One look-up -/

variable {c : Cache} {key : String} {n : Nat}

@[simp] theorem count_keys (c : Cache) (change : Stats → Stats) :
    (c.count change).keys = c.keys := by
  simp [keys]

@[simp] theorem count_capacity (c : Cache) (change : Stats → Stats) :
    (c.count change).capacity = c.capacity := by
  unfold count
  split <;> rfl

theorem count_stats (c : Cache) (change : Stats → Stats) :
    (c.count change).stats = if c.options.keepsStats = true then change c.stats else c.stats := by
  unfold count
  split <;> rfl

theorem keys_erase (c : Cache) (key : String) : (c.erase key).keys = c.keys.filter (· != key) := by
  rw [keys, keys, erase, List.filter_map]
  rfl

theorem find?_eq_none_iff : c.find? key = none ↔ key ∉ c.keys := by
  simp [find?, keys]

theorem contains_eq_false_iff : c.contains key = false ↔ key ∉ c.keys := by
  rw [contains, Option.isSome_eq_false_iff, Option.isNone_iff_eq_none, find?_eq_none_iff]

/-- A source that is cached and does not expire is served and becomes the latest. -/
theorem exists_of_compile_of_mem (httl : c.options.ttl? = none) (hkey : key ∈ c.keys) :
    ∃ served : CacheEntry, served.key = key ∧ (c.compile (some key)).2 =
      Cache.count { c with entries := (c.erase key).entries ++ [served] }
        fun s => { s with hits := s.hits + 1 } := by
  cases hfind : c.find? key with
  | none => exact absurd hkey (find?_eq_none_iff.1 hfind)
  | some e =>
      have he : e.key = key := by simpa using List.find?_some hfind
      refine ⟨{ e with accesses := e.accesses + 1 }, he, ?_⟩
      simp [compile, get?, get, hfind, isExpired, httl]

/-- The cache after a look-up without success. -/
def missed (c : Cache) : Cache := c.count fun s => { s with misses := s.misses + 1 }

/-- A source that is not cached and is that of a pattern is stored. -/
theorem compile_of_ok {p : Pattern} (hkey : key ∉ c.keys)
    (hparse : Pattern.parse key c.options.validateDefaults = .ok p) :
    (c.compile (some key)).2 =
      (c.missed.adopt p).2.put key (c.missed.adopt p).1 := by
  rw [compile, get?, get, find?_eq_none_iff.2 hkey]
  simp [Pattern.parse?, hparse, missed]

/-- A source that is not cached and is that of no pattern is counted. -/
theorem compile_of_error {e : PatternError} (hkey : key ∉ c.keys)
    (hparse : Pattern.parse key c.options.validateDefaults = .error e) :
    (c.compile (some key)).2 = c.missed.count fun s => { s with errors := s.errors + 1 } := by
  rw [compile, get?, get, find?_eq_none_iff.2 hkey]
  simp [Pattern.parse?, hparse, missed]

/-- A pattern that is not cached is stored last; a full cache drops its first entry before. -/
theorem put_of_not_mem (hcapacity : 0 < c.capacity) (hkey : key ∉ c.keys) (compiled : Compiled) :
    c.put key compiled =
      let c' := if c.capacity ≤ c.entries.length then c.evictOldest else c
      { c' with entries := c'.entries ++ [{ key, compiled, createdAt := c'.now }] } := by
  have hcontains : c.contains key = false := contains_eq_false_iff.2 hkey
  have hkeep : ∀ entries : List CacheEntry, (∀ e ∈ entries, e ∈ c.entries) →
      entries.filter (·.key != key) = entries := by
    intro entries hentries
    refine List.filter_eq_self.2 fun e he => ?_
    have hne : e.key ≠ key := fun h => hkey (h ▸ List.mem_map_of_mem (hentries e he))
    simpa using hne
  rw [put, if_neg (by omega), hcontains]
  by_cases hfull : c.capacity ≤ c.entries.length
  · simp [hfull, erase, evictOldest, hkeep c.entries.tail fun e he => List.mem_of_mem_tail he]
  · simp [hfull, erase, hkeep c.entries fun e he => he]

/-! ## One call -/

/-- What a cache adds to one of its counts if `p` holds. -/
def tally (c : Cache) (p : Prop) [Decidable p] : Int :=
  if c.options.keepsStats = true ∧ p then 1 else 0

/-- `c.Notes n key c'`: a call for `key` leads from `c`, which has `n` places, to `c'`. -/
structure Notes (n : Nat) (key : String) (c c' : Cache) : Prop where
  keys : c'.keys.reverse = bringToFront n key c.keys.reverse
  hits : c'.stats.hits = c.stats.hits + c.tally (key ∈ c.keys)
  evictions : c'.stats.evictions =
    c.stats.evictions + c.tally (key ∉ c.keys ∧ n ≤ c.keys.length)

/-- `c.Ignores c'`: a call that leads from `c` to `c'` neither hits nor stores anything. -/
structure Ignores (c c' : Cache) : Prop where
  keys : c'.keys = c.keys
  hits : c'.stats.hits = c.stats.hits
  evictions : c'.stats.evictions = c.stats.evictions

/-- What holds of a cache with `n` places and no time to live from one call to the next. -/
structure Regular (n : Nat) (c : Cache) : Prop where
  ttl : c.options.ttl? = none
  capacity : c.capacity = n
  fits : c.keys.length ≤ n
  faithful : c.Faithful

theorem ignores_count (c : Cache) {change : Stats → Stats} (hhits : ∀ s, (change s).hits = s.hits)
    (hevictions : ∀ s, (change s).evictions = s.evictions) : c.Ignores (c.count change) := by
  refine ⟨count_keys c change, ?_, ?_⟩
  · rw [count_stats]
    split
    · exact hhits _
    · rfl
  · rw [count_stats]
    split
    · exact hevictions _
    · rfl

theorem Ignores.trans {c c' c'' : Cache} (h : c.Ignores c') (h' : c'.Ignores c'') :
    c.Ignores c'' :=
  ⟨h'.keys.trans h.keys, h'.hits.trans h.hits, h'.evictions.trans h.evictions⟩

theorem ignores_missed (c : Cache) : c.Ignores c.missed :=
  c.ignores_count (fun _ => rfl) fun _ => rfl

/-- What has been ignored before a call does not matter for it. -/
theorem Ignores.notes {c c' c'' : Cache} (h : c.Ignores c') (h' : c'.Notes n key c'')
    (hoptions : c'.options = c.options) : c.Notes n key c'' := by
  refine ⟨?_, ?_, ?_⟩
  · rw [h'.keys, h.keys]
  · rw [h'.hits, h.hits]
    simp only [tally, hoptions, h.keys]
  · rw [h'.evictions, h.evictions]
    simp only [tally, hoptions, h.keys]

/-- Storing a pattern that is not cached brings it to the front. -/
theorem notes_put (hn : 1 ≤ n) (hcapacity : c.capacity = n) (hfits : c.keys.length ≤ n)
    (hkey : key ∉ c.keys) (compiled : Compiled) : c.Notes n key (c.put key compiled) := by
  have hlength : c.entries.length = c.keys.length := by simp [keys]
  have hothers : c.keys.reverse.filter (· != key) = c.keys.reverse := by
    refine List.filter_eq_self.2 fun k hk => ?_
    have hne : k ≠ key := fun h => hkey (h ▸ List.mem_reverse.1 hk)
    simpa using hne
  rw [put_of_not_mem (by omega) hkey]
  by_cases hfull : n ≤ c.keys.length
  · have hcapacity' : c.capacity ≤ c.entries.length := by omega
    have htail : c.evictOldest.entries = c.entries.tail := by simp [evictOldest]
    rw [if_pos hcapacity']
    refine ⟨?_, ?_, ?_⟩
    · -- of as many keys as there are places, the last one has to go
      obtain ⟨k, rfl⟩ : ∃ k, n = k + 1 := ⟨n - 1, by omega⟩
      have hdrop : c.keys.reverse.take k = c.keys.tail.reverse := by
        rw [← List.dropLast_reverse, List.dropLast_eq_take, List.length_reverse]
        congr 1
        omega
      rw [bringToFront, hothers, List.take_succ_cons, hdrop]
      simp [keys, htail]
    · simp [evictOldest, count_stats, tally, hkey]
      split <;> rfl
    · simp [evictOldest, count_stats, tally, hkey, hfull]
      split <;> simp
  · have hcapacity' : ¬ c.capacity ≤ c.entries.length := by omega
    have hall : (key :: c.keys.reverse).length ≤ n := by
      rw [List.length_cons, List.length_reverse]
      omega
    rw [if_neg hcapacity']
    refine ⟨?_, ?_, ?_⟩
    · rw [bringToFront, hothers, List.take_of_length_le hall]
      simp [keys]
    · simp [tally, hkey]
    · simp [tally, hfull]

/-- A call for what is no source of a pattern changes nothing but counts of misses and errors. -/
theorem Regular.ignores {source? : Option String} (h : c.Regular n)
    (hsource : source?.filter (Pattern.isSource c.options.validateDefaults) = none) :
    c.Ignores (c.compile source?).2 := by
  have hcounts : c.Ignores (c.missed.count fun s => { s with errors := s.errors + 1 }) :=
    c.ignores_missed.trans (c.missed.ignores_count (fun _ => rfl) fun _ => rfl)
  cases source? with
  | none => exact hcounts
  | some key =>
      cases hparse : Pattern.parse key c.options.validateDefaults with
      | ok p => simp [Pattern.isSource, hparse, Except.toOption] at hsource
      | error e =>
          -- what is cached could be read
          have hkey : key ∉ c.keys := by
            rw [← contains_eq_false_iff, Bool.eq_false_iff]
            intro hcontains
            obtain ⟨p, hp⟩ := h.faithful.exists_of_contains hcontains
            rw [hparse] at hp
            cases hp
          rw [compile_of_error hkey hparse]
          exact hcounts

/-- A call for a source of a pattern brings it to the front. -/
theorem Regular.notes (h : c.Regular n) (hn : 1 ≤ n)
    (hsource : Pattern.isSource c.options.validateDefaults key = true) :
    c.Notes n key (c.compile (some key)).2 := by
  have hfits := h.fits
  by_cases hkey : key ∈ c.keys
  · -- what is cached is served and becomes the latest entry; nothing has to go
    obtain ⟨served, rfl, hcompile⟩ := exists_of_compile_of_mem h.ttl hkey
    rw [hcompile]
    refine ⟨?_, ?_, ?_⟩
    · have hless : (c.keys.filter (· != served.key)).length < c.keys.length :=
        List.length_filter_lt_length_iff_exists.2 ⟨served.key, hkey, by simp⟩
      have hkeys : (c.erase served.key).keys = c.keys.filter (· != served.key) := keys_erase ..
      have hall : (served.key :: c.keys.reverse.filter (· != served.key)).length ≤ n := by
        rw [List.length_cons, List.filter_reverse, List.length_reverse]
        omega
      rw [count_keys, bringToFront, List.take_of_length_le hall, List.filter_reverse, ← hkeys]
      simp [keys]
    · rw [count_stats]
      simp only [tally, hkey]
      split <;> simp_all
    · rw [count_stats]
      simp only [tally, hkey]
      split <;> simp_all
  · -- anything else is missed first, which changes no entry, and then stored
    obtain ⟨p, hp⟩ : ∃ p, Pattern.parse key c.options.validateDefaults = .ok p := by
      obtain ⟨p, hp⟩ := Option.isSome_iff_exists.1 hsource
      exact ⟨p, Outcome.toOption_eq_some.1 hp⟩
    rw [compile_of_ok hkey hp]
    have hmissed : c.Ignores (c.missed.adopt p).2 := { c.ignores_missed with }
    have hcapacity : (c.missed.adopt p).2.capacity = n := (c.count_capacity _).trans h.capacity
    refine hmissed.notes (notes_put hn hcapacity ?_ ?_ _) (c.count_options _)
    · rwa [hmissed.keys]
    · rwa [hmissed.keys]

theorem get_capacity (c : Cache) (key : String) : (c.get key).2.capacity = c.capacity := by
  unfold get
  split
  · simp
  · split <;> simp [erase]

theorem get?_capacity (c : Cache) (source? : Option String) :
    (c.get? source?).2.capacity = c.capacity := by
  cases source? with
  | none => simp [get?]
  | some key => exact get_capacity c key

theorem put_capacity (c : Cache) (key : String) (compiled : Compiled) :
    (c.put key compiled).capacity = c.capacity := by
  unfold put
  split
  · rfl
  · dsimp only
    split
    · simp [evictOldest]
    · rfl

theorem compile_capacity (c : Cache) (source? : Option String) :
    (c.compile source?).2.capacity = c.capacity := by
  have hget := get?_capacity c source?
  unfold compile
  split
  · next hc => simpa [hc] using hget
  · next c₁ hc =>
    rw [hc] at hget
    split
    · simpa using hget
    · simpa [put_capacity, adopt] using hget

/-! ## Sequences of calls -/

/-- Compiles sources one after the other. -/
def compileAll (c : Cache) (calls : List (Option String)) : Cache :=
  calls.foldl (fun c source? => (c.compile source?).2) c

theorem compileAll_concat (c : Cache) (calls : List (Option String)) (source? : Option String) :
    c.compileAll (calls ++ [source?]) = ((c.compileAll calls).compile source?).2 :=
  List.foldl_append

/-- An empty cache with `n` places, and otherwise set up by given options. -/
def ofPlaces (options : CacheOptions) (n : Nat) : Cache := ofOptions { options with maxSize := n }

variable {options : CacheOptions}

/-- What holds after calls to an empty cache with `n` places: it is regular, under the same options,
and has the latest sources. -/
structure HoldsRecent (options : CacheOptions) (n : Nat) (calls : List (Option String))
    (c : Cache) : Prop where
  regular : c.Regular n
  setup : c.options = { options with maxSize := n }
  keys : c.keys.reverse = (recent options.validateDefaults calls).take n

/-- **One more call.** Either it is for no source of a pattern, and is ignored, or its source comes
to the front of what is cached and of what is recent. -/
theorem HoldsRecent.compile {calls : List (Option String)} (h : c.HoldsRecent options n calls)
    (hn : 1 ≤ n) (source? : Option String) :
    (c.compile source?).2.HoldsRecent options n (calls ++ [source?]) := by
  have hregular := h.regular
  have hvalidate : c.options.validateDefaults = options.validateDefaults := by rw [h.setup]
  have hoptions : (c.compile source?).2.options = c.options := compile_options c source?
  have hrest : (c.compile source?).2.keys.length ≤ n → (c.compile source?).2.Regular n :=
    fun hfits => ⟨hoptions ▸ hregular.ttl, (compile_capacity c source?).trans hregular.capacity,
      hfits, (hregular.faithful.compile source?).1⟩
  cases hsource : source?.filter (Pattern.isSource options.validateDefaults) with
  | none =>
      have hignores := hregular.ignores (by rwa [hvalidate])
      refine ⟨hrest ?_, hoptions.trans h.setup, ?_⟩
      · rw [hignores.keys]
        exact hregular.fits
      · rw [hignores.keys, recent_concat_of_filter hsource, h.keys]
  | some key =>
      obtain ⟨rfl, hkey⟩ := Option.filter_eq_some_iff.1 hsource
      have hnotes : c.Notes n key _ := hregular.notes hn (by rwa [hvalidate])
      refine ⟨hrest ?_, hoptions.trans h.setup, ?_⟩
      · rw [← List.length_reverse, hnotes.keys]
        exact List.length_take_le ..
      · rw [hnotes.keys, h.keys, bringToFront_take (nodup_recent ..),
          recent_concat_of_isSource hkey]

/-- **A cache is least recently used.** After any calls its keys, the latest used first, are the
latest sources that were called for, as many as there are places for. -/
theorem holdsRecent_compileAll (httl : options.ttl? = none) (hn : 1 ≤ n)
    (calls : List (Option String)) :
    ((ofPlaces options n).compileAll calls).HoldsRecent options n calls := by
  induction calls using List.reverseRecOn with
  | nil => exact ⟨⟨httl, rfl, Nat.zero_le n, faithful_ofOptions _⟩, rfl, List.take_nil.symm⟩
  | append_singleton calls source? ih =>
      rw [compileAll_concat]
      exact ih.compile hn source?

/-! ## Caches of different sizes -/

theorem tally_le_tally {c c' : Cache} {p q : Prop} [Decidable p] [Decidable q]
    (hkeeps : c'.options.keepsStats = c.options.keepsStats) (h : p → q) :
    c.tally p ≤ c'.tally q := by
  unfold tally
  rw [hkeeps]
  by_cases hp : c.options.keepsStats = true ∧ p
  · rw [if_pos hp, if_pos ⟨hp.1, h hp.2⟩]
  · rw [if_neg hp]
    split <;> decide

/-- A large cache has at least as many hits as a small one and at most as many evictions. -/
structure NoWorse (small large : Cache) : Prop where
  hits : small.stats.hits ≤ large.stats.hits
  evictions : large.stats.evictions ≤ small.stats.evictions

/-- One more call leaves a larger cache no worse: what the small one serves the large one serves
too, and where the large one has to make room the small one has to as well. -/
theorem NoWorse.compile {small large : Cache} (h : small.NoWorse large) {m : Nat} (hn : 1 ≤ n)
    (hnm : n ≤ m) {calls : List (Option String)} (hsmall : small.HoldsRecent options n calls)
    (hlarge : large.HoldsRecent options m calls) (source? : Option String) :
    (small.compile source?).2.NoWorse (large.compile source?).2 := by
  obtain ⟨hhits, hevictions⟩ := h
  have hvalidateSmall : small.options.validateDefaults = options.validateDefaults := by
    rw [hsmall.setup]
  have hvalidateLarge : large.options.validateDefaults = options.validateDefaults := by
    rw [hlarge.setup]
  cases hsource : source?.filter (Pattern.isSource options.validateDefaults) with
  | none =>
      have hsmall' := hsmall.regular.ignores (by rwa [hvalidateSmall])
      have hlarge' := hlarge.regular.ignores (by rwa [hvalidateLarge])
      constructor
      · rwa [hsmall'.hits, hlarge'.hits]
      · rwa [hsmall'.evictions, hlarge'.evictions]
  | some key =>
      obtain ⟨rfl, hkey⟩ := Option.filter_eq_some_iff.1 hsource
      have hsmall' : small.Notes n key _ := hsmall.regular.notes hn (by rwa [hvalidateSmall])
      have hlarge' : large.Notes m key _ :=
        hlarge.regular.notes (hn.trans hnm) (by rwa [hvalidateLarge])
      have hkeeps : large.options.keepsStats = small.options.keepsStats := by
        rw [hsmall.setup, hlarge.setup]
      -- both caches hold the latest sources, the large one more of them
      have hheld : key ∈ small.keys → key ∈ large.keys := by
        intro hmem
        have hfront : key ∈ (recent options.validateDefaults calls).take n := by
          rw [← hsmall.keys]
          exact List.mem_reverse.2 hmem
        apply List.mem_reverse.1
        rw [hlarge.keys]
        exact List.take_subset_take_left _ hnm hfront
      have hfull : m ≤ large.keys.length → n ≤ small.keys.length := by
        intro hm
        have hlengthSmall := congrArg List.length hsmall.keys
        have hlengthLarge := congrArg List.length hlarge.keys
        rw [List.length_reverse, List.length_take] at hlengthSmall hlengthLarge
        omega
      constructor
      · have hmore := tally_le_tally hkeeps hheld
        rw [hsmall'.hits, hlarge'.hits]
        omega
      · have hfewer : large.tally (key ∉ large.keys ∧ m ≤ large.keys.length) ≤
            small.tally (key ∉ small.keys ∧ n ≤ small.keys.length) := by
          apply tally_le_tally hkeeps.symm
          rintro ⟨hmiss, hroom⟩
          exact ⟨fun hmem => hmiss (hheld hmem), hfull hroom⟩
        rw [hsmall'.evictions, hlarge'.evictions]
        omega

/-- **A cache is least recently used, and a larger one is no worse.** After any calls to an empty
cache without a time to live, its keys, the latest used first, are the first of the sources of
patterns that are met when the calls are read backwards, as many as there are places for. A cache
with more places has the same keys in front, and has served at least as often and evicted at most as
often. -/
theorem least_recently_used (httl : options.ttl? = none) {n m : Nat} (hn : 1 ≤ n) (hnm : n ≤ m)
    (calls : List (Option String)) :
    ((ofPlaces options n).compileAll calls).keys.reverse =
        (recent options.validateDefaults calls).take n ∧
      ((ofPlaces options n).compileAll calls).keys.reverse =
        ((ofPlaces options m).compileAll calls).keys.reverse.take n ∧
      ((ofPlaces options n).compileAll calls).NoWorse ((ofPlaces options m).compileAll calls) := by
  have hsmall := holdsRecent_compileAll httl hn calls
  have hlarge := holdsRecent_compileAll httl (hn.trans hnm) calls
  have hnoWorse : NoWorse ((ofPlaces options n).compileAll calls)
      ((ofPlaces options m).compileAll calls) := by
    clear hsmall hlarge
    induction calls using List.reverseRecOn with
    | nil => exact ⟨le_rfl, le_rfl⟩
    | append_singleton calls source? ih =>
        rw [compileAll_concat, compileAll_concat]
        exact ih.compile hn hnm (holdsRecent_compileAll httl hn calls)
          (holdsRecent_compileAll httl (hn.trans hnm) calls) source?
  refine ⟨hsmall.keys, ?_, hnoWorse⟩
  rw [hsmall.keys, hlarge.keys, List.take_take, Nat.min_eq_left hnm]

/-- Of two patterns that are called for in turn, a cache with one place has the latest alone. -/
theorem least_recently_used_pair :
    let calls := [some "/a", some "/b", none, some "/a"]
    let small := (ofPlaces {} 1).compileAll calls
    let large := (ofPlaces {} 2).compileAll calls
    small.keys.reverse = ["/a"] ∧ small.keys.reverse = large.keys.reverse.take 1 ∧
      small.NoWorse large := by
  intro calls small large
  obtain ⟨hkeys, hrest⟩ := @least_recently_used {} rfl 1 2 le_rfl (by decide) calls
  have hrecent : (recent true calls).take 1 = ["/a"] := by decide +kernel
  exact ⟨hkeys.trans hrecent, hrest⟩

end Cache

end PathRouter
