import PathRouter.Proofs.Calls

set_option autoImplicit false

/-! # The counts of a cache

A cache counts hits, misses, evictions and errors at four places, and an entry that is dropped since
its time is over counts twice, as an eviction and as a miss. What one compilation adds to the counts
and to the entries is told by `Cache.Adds`; a sequence of compilations, invalidations and moves of
the clock adds up what its calls add, and so the counts always account for what was asked for, for
what was stored and for what is cached (`Cache.counts_balance`).
-/

namespace PathRouter

/-- Whether an operation is a compilation. -/
def CacheOp.isCompile : CacheOp → Bool
  | .compile _ => true
  | _ => false

/-- The operations that the counts account for: compilations, invalidations and moves of the
clock. -/
def CacheOp.isAccounted : CacheOp → Bool
  | .compile _ | .invalidate _ | .advance _ => true
  | _ => false

theorem CacheOp.isBlock_of_isAccounted {op : CacheOp} (h : op.isAccounted = true) :
    op.isBlock = false := by
  cases op <;> simp_all [isAccounted, isBlock]

/-- How many entries a call takes away if it invalidates. -/
def CacheCall.removed (call : CacheCall) : Nat :=
  match call.op with
  | .invalidate _ => call.before.entries.length - call.after.entries.length
  | _ => 0

namespace Cache

variable {c c' c'' : Cache} {key : String} {source? : Option String} {p : Compiled}

/-! ## Sequences of operations -/

/-- The cache after operations one after the other, whether or not they fail. -/
def performEach (c : Cache) (ops : List CacheOp) : Cache :=
  ops.foldl (fun c op => (c.perform op).2) c

/-- The calls of operations one after the other, whether or not they fail. -/
def callsOf (c : Cache) : List CacheOp → List CacheCall
  | [] => []
  | op :: rest => ⟨c, op⟩ :: callsOf (c.perform op).2 rest

@[simp] theorem performEach_concat (c : Cache) (ops : List CacheOp) (op : CacheOp) :
    c.performEach (ops ++ [op]) = ((c.performEach ops).perform op).2 := by
  simp [performEach]

@[simp] theorem callsOf_concat (c : Cache) (ops : List CacheOp) (op : CacheOp) :
    c.callsOf (ops ++ [op]) = c.callsOf ops ++ [⟨c.performEach ops, op⟩] := by
  induction ops generalizing c with
  | nil => rfl
  | cons first rest ih =>
      rw [List.cons_append, callsOf, ih, callsOf, List.cons_append]
      rfl

/-! ## What is added -/

/-- From `c` to `c'`, that many hits, misses and errors have been counted, and that many entries
have come that are either cached or counted as evicted. -/
structure Adds (c c' : Cache) (hits misses errors entries : Int) : Prop where
  hits : c'.stats.hits = c.stats.hits + hits
  misses : c'.stats.misses = c.stats.misses + misses
  errors : c'.stats.errors = c.stats.errors + errors
  entries : c'.entries.length + c'.stats.evictions = c.entries.length + c.stats.evictions + entries

namespace Adds

theorem trans {h m e n h' m' e' n' : Int} (hfirst : c.Adds c' h m e n)
    (hthen : c'.Adds c'' h' m' e' n') : c.Adds c'' (h + h') (m + m') (e + e') (n + n') := by
  obtain ⟨hhits, hmisses, herrors, hentries⟩ := hfirst
  obtain ⟨hhits', hmisses', herrors', hentries'⟩ := hthen
  exact ⟨by omega, by omega, by omega, by omega⟩

theorem of_counts {h m e n : Int} (evictions : Int)
    (hcounts : c'.stats = {
      hits := c.stats.hits + h
      misses := c.stats.misses + m
      evictions := c.stats.evictions + evictions
      errors := c.stats.errors + e })
    (hentries : c'.entries.length + evictions = c.entries.length + n) : c.Adds c' h m e n := by
  refine ⟨by rw [hcounts], by rw [hcounts], by rw [hcounts], ?_⟩
  rw [hcounts]
  dsimp only
  omega

end Adds

/-- Taking away the entry of a source that is cached once leaves one entry less. -/
theorem length_erase_of_mem (hnodup : c.keys.Nodup) (hkey : key ∈ c.keys) :
    (c.erase key).entries.length + 1 = c.entries.length := by
  have hfewer := List.length_erase_of_mem hkey
  have hpositive := List.length_pos_of_mem hkey
  rw [hnodup.erase_eq_filter, ← keys_erase] at hfewer
  simp only [keys, List.length_map] at hfewer hpositive
  omega

section

variable (hstats : c.options.keepsStats = true)
include hstats

theorem adds_error : c.Adds (c.count fun s => { s with errors := s.errors + 1 }) 0 0 1 0 :=
  .of_counts 0 (by simp [count_stats, hstats]) (by simp)

theorem adds_missed : c.Adds c.missed 0 1 0 0 :=
  .of_counts 0 (by simp [missed, count_stats, hstats]) (by simp [missed])

/-- Serving a source is a hit. -/
theorem adds_of_served (hnodup : c.keys.Nodup) (h : (c.get? source?).1 = some p) :
    c.Adds (c.get? source?).2 1 0 0 0 := by
  cases source? with
  | none => cases h
  | some key =>
      obtain ⟨e, hfind, hlive, -⟩ := exists_of_get_eq_some h
      -- the entry that is served is taken out and put at the end
      have hlength := length_erase_of_mem hnodup (mem_keys_of_find? hfind)
      rw [get?, get_of_live hfind hlive]
      refine .of_counts 0 (by simp [count_stats, hstats]) ?_
      rw [count_entries, List.length_append, List.length_singleton]
      omega

/-- Not serving a source is a miss. An entry whose time is over has been evicted. -/
theorem adds_of_unserved (hnodup : c.keys.Nodup) (h : (c.get? source?).1 = none) :
    c.Adds (c.get? source?).2 0 1 0 0 := by
  cases source? with
  | none => exact adds_missed hstats
  | some key =>
      rcases c.get_cases key with ⟨-, hget⟩ | ⟨e, hfind, -, hget⟩ | ⟨e, -, -, hget⟩
      · rw [get?, hget]
        exact adds_missed hstats
      · -- the entry that goes is counted as evicted
        have hlength := length_erase_of_mem hnodup (mem_keys_of_find? hfind)
        have hkeeps : (c.erase key).options.keepsStats = true := hstats
        have hcounts : (c.erase key).stats = c.stats := rfl
        rw [get?, hget]
        refine .of_counts 1 (by simp [count_stats, hkeeps, hcounts]) ?_
        rw [count_entries]
        omega
      · rw [get?, hget] at h
        cases h

/-- A new entry comes, and if it needs the place of another one, that one is evicted. -/
theorem adds_put (hcapacity : 1 ≤ c.capacity) (hkey : key ∉ c.keys) (p : Compiled) :
    c.Adds (c.put key p) 0 0 0 1 := by
  rw [put_of_not_mem (by omega) hkey]
  by_cases hfull : c.capacity ≤ c.entries.length
  · -- one entry goes and is counted, and one comes
    simp only [if_pos hfull]
    refine .of_counts 1 (by simp [evictOldest, count_stats, hstats]) ?_
    rw [List.length_append, evictOldest_entries, List.length_tail, List.length_singleton]
    omega
  · simp only [if_neg hfull]
    refine .of_counts 0 (by simp) ?_
    rw [List.length_append, List.length_singleton]
    omega

/-- A compilation is one hit or one miss, and a miss is one error or one new entry. -/
theorem adds_compile (hcapacity : 1 ≤ c.capacity) (hnodup : c.keys.Nodup)
    (source? : Option String) :
    ∃ hits misses errors stored : Int,
      c.Adds (c.compile source?).2 hits misses errors stored ∧ hits + misses = 1 ∧
      misses = errors + stored ∧
      [CacheCall.mk c (.compile source?)].countP (·.stored?.isSome) = stored := by
  have hkeeps : (c.get? source?).2.options.keepsStats = true := by rwa [get?_options]
  rcases c.compile_cases source? with
    ⟨p, hget, hcompile⟩ | ⟨f, hget, hcompile⟩ | ⟨key, pattern, rfl, hget, hcompile⟩
  · have hlooked := adds_of_served hstats hnodup hget
    have hstored := CacheCall.stored?_compile_of_served hget
    rw [hcompile]
    exact ⟨1, 0, 0, 0, hlooked, rfl, rfl, by simp [hstored]⟩
  · have hlooked := adds_of_unserved hstats hnodup hget
    have hstored := CacheCall.stored?_compile_of_error (congrArg Prod.fst hcompile)
    rw [hcompile]
    exact ⟨0, 1, 1, 0, hlooked.trans (adds_error hkeeps), rfl, rfl, by simp [hstored]⟩
  · -- the entry that was looked up without success is not there when another one is put
    have hmissed : (c.get? (some key)).1 = none := hget
    have hlooked : c.Adds (c.get key).2 0 1 0 0 := adds_of_unserved hstats hnodup hmissed
    have hadopt : (c.get key).2.Adds ((c.get key).2.adopt pattern).2 0 0 0 0 :=
      .of_counts 0 (by simp [adopt]) rfl
    have hroom : 1 ≤ ((c.get key).2.adopt pattern).2.capacity := by rwa [adopt, get_capacity]
    have hkey : key ∉ ((c.get key).2.adopt pattern).2.keys := not_mem_keys_of_get_eq_none hget
    have hput := adds_put (c := ((c.get key).2.adopt pattern).2) hkeeps hroom hkey
      ((c.get key).2.adopt pattern).1
    have hstored := CacheCall.stored?_compile (by omega) hget (congrArg Prod.fst hcompile)
    rw [hcompile]
    exact ⟨0, 1, 0, 1, hlooked.trans (hadopt.trans hput), rfl, rfl, by simp [hstored]⟩

end

end Cache

/-! ## The balance -/

/-- `Balanced calls c`: the counts of the cache `c` account for the calls that led to it. -/
structure Balanced (calls : List CacheCall) (c : Cache) : Prop where
  lookups : c.stats.hits + c.stats.misses = calls.countP (·.op.isCompile)
  misses : c.stats.misses = c.stats.errors + calls.countP (·.stored?.isSome)
  entries : c.entries.length =
    c.stats.misses - c.stats.errors - c.stats.evictions - (calls.map CacheCall.removed).sum

namespace Balanced

variable {calls : List CacheCall} {call : CacheCall}

theorem ofOptions (options : CacheOptions) : Balanced [] (Cache.ofOptions options) :=
  ⟨rfl, rfl, rfl⟩

/-- A call that adds as many hits and misses as it is compilations, as many misses as errors and
storings, and as many entries as it stores and does not remove, keeps the balance. -/
theorem concat (h : Balanced calls call.before) {hits misses errors stored : Int}
    (hadds : call.before.Adds call.after hits misses errors (stored - call.removed))
    (hlookups : [call].countP (·.op.isCompile) = hits + misses) (hmisses : misses = errors + stored)
    (hstored : [call].countP (·.stored?.isSome) = stored) :
    Balanced (calls ++ [call]) call.after := by
  obtain ⟨hhits, hmiss, herrors, hentries⟩ := hadds
  obtain ⟨hlookups', hmisses', hentries'⟩ := h
  refine ⟨?_, ?_, ?_⟩
  · rw [List.countP_append, hhits, hmiss]
    omega
  · rw [List.countP_append, hmiss, herrors]
    omega
  · rw [List.map_append, List.sum_append, List.map_singleton, List.sum_singleton, hmiss, herrors]
    omega

theorem concat_of_uncounted (h : Balanced calls call.before) (hop : call.op.isCompile = false)
    (hstored : call.stored? = none)
    (hadds : call.before.Adds call.after 0 0 0 (0 - call.removed)) :
    Balanced (calls ++ [call]) call.after :=
  h.concat hadds (by simp [hop]) rfl (by simp [hstored])

/-- **One call keeps the balance.** -/
theorem after (call : CacheCall) (h : Balanced calls call.before) (hop : call.op.isAccounted = true)
    (hstats : call.before.options.keepsStats = true) (hcapacity : 1 ≤ call.before.capacity)
    (hnodup : call.before.keys.Nodup) : Balanced (calls ++ [call]) call.after := by
  obtain ⟨c, op⟩ := call
  cases op with
  | compile source? =>
      obtain ⟨hits, misses, errors, stored, hadds, hone, hmisses, hstored⟩ :=
        Cache.adds_compile hstats hcapacity hnodup source?
      have hafter : CacheCall.after ⟨c, .compile source?⟩ = (c.compile source?).2 := by
        rw [CacheCall.after, Cache.perform_compile]
      refine h.concat ?_ hone.symm hmisses hstored
      rw [hafter]
      simpa [CacheCall.removed] using hadds
  | invalidate source? =>
      have hstored : CacheCall.stored? ⟨c, .invalidate source?⟩ = none := by
        simp [CacheCall.stored?]
      have hafter : CacheCall.after ⟨c, .invalidate source?⟩ = c.invalidate source? := by
        rw [CacheCall.after, Cache.perform]
      have hcounts : (c.invalidate source?).stats = c.stats := by cases source? <;> rfl
      have hfewer := (c.sublist_invalidate source?).length_le
      refine h.concat_of_uncounted rfl hstored ?_
      simp only [CacheCall.removed, hafter]
      exact .of_counts 0 (by simp [hcounts]) (by omega)
  | advance duration =>
      have hstored : CacheCall.stored? ⟨c, .advance duration⟩ = none := by simp [CacheCall.stored?]
      have hadds : c.Adds (c.advance duration) 0 0 0 0 := .of_counts 0 (by simp [Cache.advance]) rfl
      exact h.concat_of_uncounted rfl hstored hadds
  | _ => cases hop

end Balanced

namespace Cache

theorem performEach_asSetUp (c : Cache) (ops : List CacheOp) : c.AsSetUp (c.performEach ops) := by
  induction ops using List.reverseRecOn with
  | nil => exact .refl c
  | append_singleton ops op ih =>
      rw [performEach_concat]
      exact ih.trans (.perform _ op)

theorem nodup_keys_performEach {c : Cache} (h : c.keys.Nodup) {ops : List CacheOp}
    (hops : ∀ op ∈ ops, op.isBlock = false) : (c.performEach ops).keys.Nodup := by
  induction ops using List.reverseRecOn with
  | nil => exact h
  | append_singleton ops op ih =>
      rw [performEach_concat]
      have hbefore := ih fun op hop => hops op (List.mem_append_left _ hop)
      exact (CacheCall.mk (c.performEach ops) op).nodup_keys (hops op (by simp)) hbefore

/-- **The counts of a cache balance.** In an empty cache that keeps counts and has room for an
entry, sources are compiled, whether or not they are patterns, others or all are invalidated, and
time passes. Then there have been as many hits and misses as compilations, as many misses as errors
and patterns stored, and there are as many entries as misses that were no errors, without those that
were evicted and those that were invalidated. -/
theorem counts_balance {options : CacheOptions} (hstats : options.keepsStats = true)
    (hsize : 1 ≤ options.maxSize) {ops : List CacheOp} (hops : ∀ op ∈ ops, op.isAccounted = true) :
    Balanced ((ofOptions options).callsOf ops) ((ofOptions options).performEach ops) := by
  induction ops using List.reverseRecOn with
  | nil => exact .ofOptions options
  | append_singleton ops op ih =>
      have hbefore : ∀ op ∈ ops, op.isAccounted = true := fun op hop =>
        hops op (List.mem_append_left _ hop)
      have hsetup := (ofOptions options).performEach_asSetUp ops
      have hnodup : ((ofOptions options).performEach ops).keys.Nodup :=
        nodup_keys_performEach (c := ofOptions options) List.nodup_nil fun op hop =>
          CacheOp.isBlock_of_isAccounted (hbefore op hop)
      have hkeeps : ((ofOptions options).performEach ops).options.keepsStats = true := by
        rwa [hsetup.options]
      have hcapacity : 1 ≤ ((ofOptions options).performEach ops).capacity := by
        rwa [hsetup.capacity]
      rw [performEach_concat, callsOf_concat]
      exact .after ⟨(ofOptions options).performEach ops, op⟩ (ih hbefore) (hops op (by simp)) hkeeps
        hcapacity hnodup

/-- In a cache with one place and ten units of time to live, a source is served once, is compiled
again when its time is over, and is evicted for another one, which is invalidated. -/
theorem counts_balance_ten_units :
    let options : CacheOptions := { maxSize := 1, ttl? := some 10 }
    let ops : List CacheOp := [.compile (some "/a"), .advance 6, .compile (some "/a"),
      .compile (some "/\x7b"), .advance 6, .compile (some "/a"), .compile (some "/b"),
      .invalidate (some "/b")]
    Balanced ((ofOptions options).callsOf ops) ((ofOptions options).performEach ops) ∧
      ((ofOptions options).performEach ops).stats =
        { hits := 1, misses := 4, evictions := 2, errors := 1 } :=
  ⟨counts_balance rfl (by decide) (by decide), by decide +kernel⟩

end Cache

end PathRouter
