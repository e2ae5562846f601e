import PathRouter.Proofs.Lifetimes

set_option autoImplicit false

/-! # Capacity and blocks

The capacity of a cache is also what switches it off: within a block in which nothing new is cached
it is zero, though there may be entries. So the entries are not bounded by the capacity in force,
but by any number that bounds the capacity too (`Cache.Fits`): such a bound outlives the beginning
of a block and its end. Within a block the cached sources only grow fewer (`Shrinks`).
-/

namespace PathRouter

variable {c c' : Cache} {calls : List CacheCall} {key : String}

/-! ## A bound for the entries -/

/-- `c.Fits n`: neither are there more than `n` entries nor may there be. -/
structure Cache.Fits (n : Int) (c : Cache) : Prop where
  length : c.entries.length ≤ n
  capacity : c.capacity ≤ n

namespace Cache

theorem length_erase_lt (h : key ∈ c.keys) : (c.erase key).entries.length < c.entries.length := by
  obtain ⟨e, he, hkey⟩ := List.mem_map.1 h
  exact List.length_filter_lt_length_iff_exists.2 ⟨e, he, by simp [hkey]⟩

/-- A source that was cached is replaced, another one needs room of its own. -/
theorem length_put_le (c : Cache) (key : String) (p : Compiled) :
    ((c.put key p).entries.length : Int) ≤ max (c.entries.length : Int) c.capacity := by
  rcases lt_or_ge 0 c.capacity with hpositive | hcapacity
  · by_cases hkey : key ∈ c.keys
    · -- the entry that is replaced leaves its place
      have hfewer := length_erase_lt hkey
      have hcontains : c.contains key = true := by
        rw [← Bool.not_eq_false, contains_eq_false_iff, not_not]
        exact hkey
      have hcapacity : ¬ c.capacity ≤ 0 := by omega
      simp only [put, if_neg hcapacity, hcontains, Bool.not_true, Bool.and_false,
        Bool.false_eq_true, if_false, List.length_append, List.length_singleton]
      omega
    · rw [put_of_not_mem hpositive hkey]
      by_cases hfull : c.capacity ≤ c.entries.length
      · -- there is an oldest entry, for the capacity is positive
        simp only [if_pos hfull, evictOldest_entries, List.length_append, List.length_tail,
          List.length_singleton]
        omega
      · simp only [if_neg hfull, List.length_append, List.length_singleton]
        omega
  · rw [put_of_capacity_le hcapacity]
    omega

namespace Fits

variable {n : Int}

theorem of_length_le (h : c.Fits n) (hlength : c'.entries.length ≤ c.entries.length)
    (hcapacity : c'.capacity = c.capacity) : c'.Fits n := by
  obtain ⟨hbound, hroom⟩ := h
  exact ⟨by omega, by omega⟩

theorem get (h : c.Fits n) (key : String) : (c.get key).2.Fits n := by
  refine h.of_length_le ?_ (get?_capacity c (some key))
  rcases c.get_cases key with ⟨-, hget⟩ | ⟨e, -, -, hget⟩ | ⟨e, hfind, -, hget⟩
  · rw [hget, missed, count_entries]
  · rw [hget, count_entries]
    exact List.length_filter_le ..
  · rw [hget, count_entries, List.length_append]
    exact length_erase_lt (mem_keys_of_find? hfind)

theorem put (h : c.Fits n) (key : String) (p : Compiled) : (c.put key p).Fits n := by
  obtain ⟨hbound, hroom⟩ := h
  have hlength := length_put_le c key p
  exact ⟨by omega, by rwa [put_capacity]⟩

theorem invalidate (h : c.Fits n) (source? : Option String) : (c.invalidate source?).Fits n := by
  refine h.of_length_le (c.sublist_invalidate source?).length_le ?_
  cases source? <;> rfl

/-- A call keeps every bound. -/
theorem after {call : CacheCall} (hop : call.op.isBlock = false) (h : call.before.Fits n) :
    call.after.Fits n := by
  refine call.keeps (fun c c' hentries hcapacity h => ?_) (fun _ key h => h.get key)
    (fun _ key p h => h.put key p) (fun _ source? h => h.invalidate source?) hop h
  exact h.of_length_le (by rw [hentries]) hcapacity

/-- A run keeps every bound that is not negative. -/
theorem leads (run : c.Leads calls c') (hn : 0 ≤ n) (h : c.Fits n) : c'.Fits n := by
  induction run with
  | refl => exact h
  | call call hop _ ih => exact (ih h).after hop
  | enter _ ih =>
      -- the entries stay, and the capacity is zero, which the bound allows
      exact ⟨(ih h).length, hn⟩
  | block _ _ ih ihWithin =>
      have hbefore := ih h
      exact ⟨(ihWithin ⟨hbefore.length, hn⟩).length, hbefore.capacity⟩

end Fits

end Cache

/-! ## Within a block -/

namespace CacheCall

/-- A call looks up a source whose time is over. -/
def FindsExpired (call : CacheCall) (key : String) : Prop :=
  (call.op = .get (some key) ∨ call.op = .compile (some key)) ∧
    ∃ e, call.before.find? key = some e ∧ call.before.isExpired e = true

end CacheCall

/-- A look-up takes away no other source than the one it is for, if its time is over. -/
theorem Cache.mem_keys_get? {source? : Option String} (hkey : key ∈ c.keys)
    (h : source? = some key → ∀ e, c.find? key = some e → c.isExpired e = false) :
    key ∈ (c.get? source?).2.keys := by
  cases source? with
  | none => rwa [get?, count_keys]
  | some asked =>
      by_cases hasked : key = asked
      · subst hasked
        obtain ⟨e, hfind⟩ := exists_find?_of_mem_keys hkey
        rw [get?, keys_get_of_live hfind (h rfl e hfind)]
        simp
      · have hkept : key ∈ c.keys.filter (· != asked) := by simp [hkey, hasked]
        rcases c.get_cases asked with ⟨-, hget⟩ | ⟨e, -, -, hget⟩ | ⟨e, hfind, hlive, -⟩
        · rwa [get?, hget, missed, count_keys]
        · rwa [get?, hget, count_keys, keys_erase]
        · rw [get?, keys_get_of_live hfind hlive]
          exact List.mem_append_left _ hkept

/-- `Shrinks keys calls keys'`: while the calls `calls` are made, of the sources `keys` those in
`keys'` are left, and no other is cached. The others have been invalidated or their time was over
when they were looked up; none had to make room. -/
structure Shrinks (keys : List String) (calls : List CacheCall) (keys' : List String) : Prop where
  subset : keys' ⊆ keys
  each : ∀ call ∈ calls, call.after.keys ⊆ call.before.keys
  lost : ∀ key ∈ keys, key ∉ keys' → ∃ call ∈ calls, call.Invalidates key ∨ call.FindsExpired key

namespace Shrinks

variable {keys keys' keys'' : List String} {calls' : List CacheCall}

theorem refl (keys : List String) : Shrinks keys [] keys :=
  ⟨List.Subset.refl keys, by simp, fun _ hkey hlost => absurd hkey hlost⟩

theorem trans (h : Shrinks keys calls keys') (h' : Shrinks keys' calls' keys'') :
    Shrinks keys (calls ++ calls') keys'' := by
  refine ⟨List.Subset.trans h'.subset h.subset, fun call hcall => ?_, fun key hkey hlost => ?_⟩
  · exact (List.mem_append.1 hcall).elim (h.each call) (h'.each call)
  · by_cases hkept : key ∈ keys'
    · obtain ⟨call, hcall, hgone⟩ := h'.lost key hkept hlost
      exact ⟨call, List.mem_append_right _ hcall, hgone⟩
    · obtain ⟨call, hcall, hgone⟩ := h.lost key hkey hkept
      exact ⟨call, List.mem_append_left _ hcall, hgone⟩

end Shrinks

namespace CacheCall

variable {call : CacheCall}

/-- Without a capacity, a call caches no new source. -/
theorem keys_after_subset (hop : call.op.isBlock = false) (h : call.before.capacity ≤ 0) :
    call.after.keys ⊆ call.before.keys := by
  intro key hkey
  obtain ⟨e, he, rfl⟩ := List.mem_map.1 hkey
  rcases call.mem_entries_after hop he with ⟨hstored, -⟩ | ⟨⟨held, hheld, hsame⟩, -⟩
  · rw [stored?_of_capacity_le h] at hstored
    cases hstored
  · rw [hsame.key]
    exact List.mem_map_of_mem hheld

/-- Without a capacity, no source has to make room for another one. -/
theorem mem_keys_after (hop : call.op.isBlock = false) (h : call.before.capacity ≤ 0)
    (hinvalidates : ¬ call.Invalidates key) (hexpired : ¬ call.FindsExpired key)
    (hkey : key ∈ call.before.keys) : key ∈ call.after.keys := by
  obtain ⟨c, op⟩ := call
  have hlooked : ∀ source?, op = .get source? ∨ op = .compile source? →
      key ∈ (c.get? source?).2.keys := by
    intro source? hasked
    refine Cache.mem_keys_get? hkey fun hsource e hfind => ?_
    subst hsource
    -- the call would have found that the time of the source is over
    rw [← Bool.not_eq_true]
    exact fun hover => hexpired ⟨hasked, e, hfind, hover⟩
  cases op with
  | compile source? =>
      have hlooked := hlooked source? (.inr rfl)
      rw [after, Cache.perform_compile]
      rcases c.compile_cases source? with
        ⟨p, -, hcompile⟩ | ⟨e, -, hcompile⟩ | ⟨source, pattern, rfl, -, hcompile⟩
      · rwa [hcompile]
      · rw [hcompile]
        rwa [Cache.count_keys]
      · have hcapacity : ((c.get source).2.adopt pattern).2.capacity ≤ 0 :=
          (Cache.get_capacity c source).trans_le h
        rw [hcompile]
        rwa [Cache.put_of_capacity_le hcapacity]
  | get source? =>
      rw [after, Cache.perform_get]
      exact hlooked source? (.inl rfl)
  | put source pattern =>
      cases pattern with
      | error e => exact hkey
      | ok pattern =>
          have hsame : after ⟨c, .put source (.ok pattern)⟩ = (c.adopt pattern).2 :=
            Cache.put_of_capacity_le (c := (c.adopt pattern).2) h source (c.adopt pattern).1
          rw [hsame]
          exact hkey
  | invalidate source? =>
      cases source? with
      | none => exact absurd (.inl rfl) hinvalidates
      | some source =>
          have hne : key ≠ source := fun heq => hinvalidates (.inr (by rw [heq]))
          rw [after, Cache.perform, Cache.invalidate, Cache.keys_erase]
          simp [hkey, hne]
  | contains source? => exact hkey
  | resetStats => exact hkey
  | advance duration => exact hkey
  | accesses => exact hkey
  | disabled ops => cases hop

theorem shrinks (hop : call.op.isBlock = false) (h : call.before.capacity ≤ 0) :
    Shrinks call.before.keys [call] call.after.keys := by
  have hsubset := keys_after_subset hop h
  refine ⟨hsubset, by simpa using hsubset, fun key hkey hlost => ⟨call, by simp, ?_⟩⟩
  by_contra hnone
  exact hlost (mem_keys_after hop h (hnone ∘ .inl) (hnone ∘ .inr) hkey)

end CacheCall

namespace Cache

/-- What a run without a capacity does to the cached sources, whatever blocks there are in it. -/
theorem Leads.shrinks (run : c.Leads calls c') (h : c.capacity ≤ 0) :
    Shrinks c.keys calls c'.keys := by
  induction run with
  | refl c => exact .refl c.keys
  | call call hop run ih =>
      have hcapacity : call.before.capacity ≤ 0 := by
        rcases run.capacity_cases.1 with hsame | hzero <;> omega
      exact (ih h).trans (call.shrinks hop hcapacity)
  | enter _ ih => exact ih h
  | block _ _ ih ihWithin => exact (ih h).trans (ihWithin le_rfl)

/-- What is cached after a run without a capacity was cached before, and since the same time. -/
theorem Leads.heldSince?_of_capacity_le (run : c.Leads calls c') (h : c.capacity ≤ 0)
    (hnodup : c.keys.Nodup) {e : CacheEntry} (he : c'.find? key = some e) :
    c.heldSince? key = some (e.compiled, e.createdAt) := by
  obtain rfl := key_of_find? he
  rcases run.origin (mem_of_find? he) with hlast | ⟨⟨held, hheld, hsame⟩, -⟩
  · -- no call of the run has had a capacity to store anything
    obtain ⟨earlier, call, later, rfl, hstored, -⟩ := hlast
    have hcapacity : call.before.capacity ≤ 0 := by
      rcases run.capacity_cases.2 call (by simp) with hsame | hzero <;> omega
    rw [call.stored?_of_capacity_le hcapacity] at hstored
    cases hstored
  · have hfind := find?_of_mem hnodup hheld
    rw [heldSince?, hsame.key, hfind, hsame.compiled, hsame.createdAt]
    rfl

/-- `c.Inside inner c'`: what holds in a block that began in the cache `c`, when the calls `inner`
have led to `c'`. -/
structure Inside (c : Cache) (inner : List CacheCall) (c' : Cache) : Prop where
  /-- The cached sources have only grown fewer, and not for want of room. -/
  shrinks : Shrinks c.keys inner c'.keys
  /-- What is still cached was cached before and, while its time is not over, is served. -/
  served : ∀ key ∈ c'.keys, ∃ p time,
    c.heldSince? key = some (p, time) ∧ c'.heldSince? key = some (p, time) ∧
      (c.options.InTime time c'.now →
        (c'.get key).1 = some p ∧ (c'.compile (some key)).1 = .ok p)

theorem Leads.inside {inner : List CacheCall} (within : Leads { c with capacity := 0 } inner c')
    (hnodup : c.keys.Nodup) : c.Inside inner c' := by
  refine ⟨within.shrinks le_rfl, fun key hkey => ?_⟩
  obtain ⟨e, hfind⟩ := exists_find?_of_mem_keys hkey
  have hbefore := within.heldSince?_of_capacity_le le_rfl hnodup hfind
  refine ⟨e.compiled, e.createdAt, hbefore, by rw [heldSince?, hfind]; rfl, fun hlive => ?_⟩
  have hoptions : c'.options = c.options := within.options_eq
  rw [← hoptions] at hlive
  have hget : (c'.get? (some key)).1 = some e.compiled := by
    rw [get?, get_of_live hfind (isExpired_eq_false_iff.2 hlive)]
  exact ⟨hget, by rw [compile_of_served hget]⟩

/-- **A cache is bounded through blocks in which nothing new is cached.** Wherever a run has led
from an empty cache, within such blocks or outside, there are no more entries than the cache was set
up for. In a block that begins there the calls cache no new source and take none away to make room
for another one, and what is still cached is served as before. Operations leave the capacity as it
was, and so does a block, whether its operations end or fail. -/
theorem bounded_through_blocks {options : CacheOptions} (run : (ofOptions options).Leads calls c) :
    (c.entries.length : Int) ≤ max 0 options.maxSize ∧
    (∀ inner c', Leads { c with capacity := 0 } inner c' → c.Inside inner c') ∧
    ∀ ops, (c.performAll ops).2.2.capacity = c.capacity ∧
      ∀ answers raised c', Cache.performAll { c with capacity := 0 } ops = (answers, raised, c') →
        c.perform (.disabled ops) =
          (.ok (.block answers raised), { c' with capacity := c.capacity }) ∧
        ∃ inner, Leads { c with capacity := 0 } inner c' := by
  have hfits : (ofOptions options).Fits (max 0 options.maxSize) :=
    ⟨le_max_left _ _, le_max_right _ _⟩
  have hnodup : c.keys.Nodup := run.nodup_keys List.nodup_nil
  refine ⟨(Fits.leads run (le_max_left _ _) hfits).length,
    fun inner c' within => within.inside hnodup, fun ops => ?_⟩
  refine ⟨(AsSetUp.performAll c ops).capacity, fun answers raised c' hops => ⟨?_, ?_⟩⟩
  · rw [perform, hops]
  · obtain ⟨inner, hinner⟩ := exists_leads_performAll { c with capacity := 0 } ops
    rw [hops] at hinner
    exact ⟨inner, hinner⟩

/-- A cache with one place has an entry when a block begins. In a block within it another source is
compiled, and then the outer block fails: the first source is still served, and the capacity is
one again. -/
theorem bounded_through_blocks_nested :
    ∃ c calls answers failure c', (ofOptions { maxSize := 1 }).Leads calls c ∧
      (c.entries.length : Int) ≤ 1 ∧
      Cache.performAll { c with capacity := 0 }
        [.disabled [.compile (some "/b")], .compile (some "/\x7b")] =
          (answers, some failure, c') ∧
      c'.keys ⊆ c.keys ∧ (c'.get "/a").1.isSome = true ∧
      (c.perform (.disabled
        [.disabled [.compile (some "/b")], .compile (some "/\x7b")])).2.capacity = 1 := by
  let c := ((ofOptions { maxSize := 1 }).perform (.compile (some "/a"))).2
  let ops : List CacheOp := [.disabled [.compile (some "/b")], .compile (some "/\x7b")]
  have run : (ofOptions { maxSize := 1 }).Leads [⟨_, .compile (some "/a")⟩] c :=
    .call ⟨_, .compile (some "/a")⟩ rfl (.refl _)
  obtain ⟨hlength, hinside, hleave⟩ := bounded_through_blocks run
  obtain ⟨answers, raised, c', hops⟩ :
      ∃ answers raised c', Cache.performAll { c with capacity := 0 } ops = (answers, raised, c') :=
    ⟨_, _, _, rfl⟩
  obtain ⟨hblock, inner, hinner⟩ := (hleave ops).2 answers raised c' hops
  have hraised : raised.isSome = true := by
    have hfails : (Cache.performAll { c with capacity := 0 } ops).2.1.isSome = true := by
      decide +kernel
    rwa [hops] at hfails
  have hkept : "/a" ∈ c'.keys := by
    have hmem : "/a" ∈ (Cache.performAll { c with capacity := 0 } ops).2.2.keys := by
      decide +kernel
    rwa [hops] at hmem
  have hwithin := hinside inner c' hinner
  obtain ⟨p, time, -, -, hget⟩ := hwithin.served "/a" hkept
  have hserves := (hget fun _ httl => nomatch httl).1
  obtain ⟨failure, rfl⟩ := Option.isSome_iff_exists.1 hraised
  exact ⟨c, _, answers, failure, c', run, hlength, hops, hwithin.shrinks.subset,
    by rw [hserves]; rfl, by rw [hblock]; rfl⟩

end Cache

end PathRouter
