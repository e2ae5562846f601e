import PathRouter.Proofs.Setup

set_option autoImplicit false

/-! # Calls of a cache

A run of a cache is told by its calls, each with the cache in which it was made
(`Cache.Leads`). A call may fail, and a run may stop within a block in which nothing new is cached.

How a look-up and a compilation end is told by `Cache.get_cases` and `Cache.compile_cases`. From
these follows once for all calls where the entries come from that there are afterwards
(`CacheCall.mem_entries_after`), and that a call keeps what looking up, storing and invalidating
keep (`CacheCall.keeps`).
-/

namespace PathRouter

namespace Cache

variable {c : Cache} {key : String} {e : CacheEntry} {p : Compiled}

/-! ## One look-up -/

/-- An entry whose time is over is dropped. -/
theorem get_of_expired (h : c.find? key = some e) (hexpired : c.isExpired e = true) :
    c.get key = (none, (c.erase key).count fun s =>
      { s with misses := s.misses + 1, evictions := s.evictions + 1 }) := by
  simp [get, h, hexpired]

/-- An entry whose time is not over is served and becomes the latest. -/
theorem get_of_live (h : c.find? key = some e) (hlive : c.isExpired e = false) :
    c.get key = (some e.compiled,
      Cache.count
        { c with entries := (c.erase key).entries ++ [{ e with accesses := e.accesses + 1 }] }
        fun s => { s with hits := s.hits + 1 }) := by
  simp [get, h, hlive]

/-- **How a look-up ends.** Nothing is cached for a source, or its time is over, or it is
served. -/
theorem get_cases (c : Cache) (key : String) :
    (c.find? key = none ∧ c.get key = (none, c.missed)) ∨
    (∃ e, c.find? key = some e ∧ c.isExpired e = true ∧ c.get key =
      (none, (c.erase key).count fun s =>
        { s with misses := s.misses + 1, evictions := s.evictions + 1 })) ∨
    ∃ e, c.find? key = some e ∧ c.isExpired e = false ∧ c.get key =
      (some e.compiled, Cache.count
        { c with entries := (c.erase key).entries ++ [{ e with accesses := e.accesses + 1 }] }
        fun s => { s with hits := s.hits + 1 }) := by
  cases hfind : c.find? key with
  | none => exact .inl ⟨rfl, by simp [get, hfind, missed]⟩
  | some e =>
      cases hexpired : c.isExpired e with
      | true => exact .inr (.inl ⟨e, rfl, hexpired, get_of_expired hfind hexpired⟩)
      | false => exact .inr (.inr ⟨e, rfl, hexpired, get_of_live hfind hexpired⟩)

theorem key_of_find? (h : c.find? key = some e) : e.key = key := by
  simpa using List.find?_some h

theorem mem_of_find? (h : c.find? key = some e) : e ∈ c.entries := List.mem_of_find?_eq_some h

theorem mem_keys_of_find? (h : c.find? key = some e) : key ∈ c.keys := by
  rw [← key_of_find? h]
  exact List.mem_map_of_mem (mem_of_find? h)

theorem exists_find?_of_mem_keys (h : key ∈ c.keys) : ∃ e, c.find? key = some e := by
  rwa [← Option.ne_none_iff_exists', Ne, find?_eq_none_iff, not_not]

/-- What is served is an entry whose time is not over. -/
theorem exists_of_get_eq_some (h : (c.get key).1 = some p) :
    ∃ e, c.find? key = some e ∧ c.isExpired e = false ∧ e.compiled = p := by
  rcases c.get_cases key with ⟨-, hget⟩ | ⟨e, -, -, hget⟩ | ⟨e, hfind, hlive, hget⟩
  · rw [hget] at h
    cases h
  · rw [hget] at h
    cases h
  · rw [hget] at h
    exact ⟨e, hfind, hlive, Option.some.inj h⟩

/-- A source that has not been served is not cached afterwards. -/
theorem not_mem_keys_of_get_eq_none (h : (c.get key).1 = none) : key ∉ (c.get key).2.keys := by
  rcases c.get_cases key with ⟨hfind, hget⟩ | ⟨e, -, -, hget⟩ | ⟨e, -, -, hget⟩
  · rw [hget, missed, count_keys]
    exact find?_eq_none_iff.1 hfind
  · rw [hget, count_keys, keys_erase]
    simp
  · rw [hget] at h
    cases h

theorem keys_get_of_live (h : c.find? key = some e) (hlive : c.isExpired e = false) :
    (c.get key).2.keys = c.keys.filter (· != key) ++ [key] := by
  rw [get_of_live h hlive, count_keys, ← keys_erase]
  simp [keys, key_of_find? h]

/-! ## One storing -/

@[simp] theorem count_now (c : Cache) (change : Stats → Stats) :
    (c.count change).now = c.now := by
  unfold count
  split <;> rfl

@[simp] theorem evictOldest_entries (c : Cache) : c.evictOldest.entries = c.entries.tail := by
  simp [evictOldest]

@[simp] theorem evictOldest_now (c : Cache) : c.evictOldest.now = c.now := by simp [evictOldest]

theorem put_of_capacity_le (h : c.capacity ≤ 0) (key : String) (p : Compiled) :
    c.put key p = c := by
  rw [put, if_pos h]

/-- A pattern is stored as the latest entry, and other entries that there were stay. -/
theorem exists_put_entries (h : 0 < c.capacity) (key : String) (p : Compiled) :
    ∃ kept, kept.Sublist c.entries ∧ (∀ e ∈ kept, e.key ≠ key) ∧
      (c.put key p).entries = kept ++ [{ key, compiled := p, createdAt := c.now }] := by
  have hcapacity : ¬ c.capacity ≤ 0 := by omega
  rw [put, if_neg hcapacity]
  by_cases hfull : (decide (c.capacity ≤ c.entries.length) && !c.contains key) = true
  · refine ⟨(c.evictOldest.erase key).entries, ?_, by simp [erase], by simp [hfull]⟩
    have htail : c.evictOldest.entries.Sublist c.entries := by simp [List.tail_sublist]
    exact List.filter_sublist.trans htail
  · exact ⟨(c.erase key).entries, List.filter_sublist, by simp [erase], by simp [hfull]⟩

/-- What is cached after a storing has been stored by it, or was cached before. -/
theorem mem_entries_put (he : e ∈ (c.put key p).entries) :
    (0 < c.capacity ∧ e = { key, compiled := p, createdAt := c.now }) ∨
      (e ∈ c.entries ∧ (0 < c.capacity → e.key ≠ key)) := by
  rcases lt_or_ge 0 c.capacity with hpositive | hcapacity
  · obtain ⟨kept, hsublist, hothers, hentries⟩ := exists_put_entries hpositive key p
    rw [hentries] at he
    rcases List.mem_append.1 he with hkept | hnew
    · exact .inr ⟨hsublist.subset hkept, fun _ => hothers e hkept⟩
    · exact .inl ⟨hpositive, List.mem_singleton.1 hnew⟩
  · rw [put_of_capacity_le hcapacity] at he
    exact .inr ⟨he, fun hpositive => absurd hpositive (by omega)⟩

/-- Invalidating caches nothing. -/
theorem sublist_invalidate (c : Cache) (source? : Option String) :
    (c.invalidate source?).entries.Sublist c.entries := by
  cases source? with
  | none => exact List.nil_sublist _
  | some key => exact List.filter_sublist

/-! ## One compilation -/

theorem compile_of_served {source? : Option String} (h : (c.get? source?).1 = some p) :
    c.compile source? = (.ok p, (c.get? source?).2) := by
  unfold compile
  split
  · next hget =>
    rw [hget] at h ⊢
    rw [Option.some.inj h]
  · next hget =>
    rw [hget] at h
    cases h

/-- **How a compilation ends.** A source is served, or it is looked up without success. Then it is
counted if it is no pattern, and what is made of it is stored if it is one. -/
theorem compile_cases (c : Cache) (source? : Option String) :
    (∃ p, (c.get? source?).1 = some p ∧ c.compile source? = (.ok p, (c.get? source?).2)) ∨
    (∃ e, (c.get? source?).1 = none ∧ c.compile source? =
      (.error e, (c.get? source?).2.count fun s => { s with errors := s.errors + 1 })) ∨
    ∃ key pattern, source? = some key ∧ (c.get key).1 = none ∧ c.compile source? =
      (.ok ((c.get key).2.adopt pattern).1,
        ((c.get key).2.adopt pattern).2.put key ((c.get key).2.adopt pattern).1) := by
  have hoptions := get?_options c source?
  rcases hget : c.get? source? with ⟨served | served, c'⟩
  · rw [hget] at hoptions
    cases hparse : Pattern.parse? source? c'.options.validateDefaults with
    | error e => exact .inr (.inl ⟨e, rfl, by simp [compile, hget, hparse]⟩)
    | ok pattern =>
        obtain ⟨key, rfl, -⟩ := Pattern.parse?_eq_ok.1 hparse
        have hlooked : c.get key = (none, c') := hget
        refine .inr (.inr ⟨key, pattern, rfl, by rw [hlooked], ?_⟩)
        simp [compile, hget, hparse, hlooked]
  · exact .inl ⟨served, rfl, by rw [compile_of_served (congrArg Prod.fst hget), hget]⟩

/-! ## Operations -/

@[simp] theorem perform_get (c : Cache) (source? : Option String) :
    (c.perform (.get source?)).2 = (c.get? source?).2 := by
  unfold perform
  split <;> simp_all

@[simp] theorem perform_compile (c : Cache) (source? : Option String) :
    c.perform (.compile source?) =
      ((c.compile source?).1.map CacheAnswer.compiled, (c.compile source?).2) := by
  unfold perform
  split <;> simp_all [Except.map]

end Cache

/-- The same entry, however often it has been served. -/
structure CacheEntry.SameAs (e e' : CacheEntry) : Prop where
  key : e'.key = e.key
  compiled : e'.compiled = e.compiled
  createdAt : e'.createdAt = e.createdAt

theorem CacheEntry.SameAs.refl (e : CacheEntry) : e.SameAs e := ⟨rfl, rfl, rfl⟩

theorem CacheEntry.SameAs.trans {e e' e'' : CacheEntry} (h : e.SameAs e') (h' : e'.SameAs e'') :
    e.SameAs e'' :=
  ⟨h'.key.trans h.key, h'.compiled.trans h.compiled, h'.createdAt.trans h.createdAt⟩

/-- Whether an operation is a block. -/
def CacheOp.isBlock : CacheOp → Bool
  | .disabled _ => true
  | _ => false

/-- A call of an operation, with the cache in which it is made. -/
structure CacheCall where
  before : Cache
  op : CacheOp

namespace CacheCall

/-- The cache after a call. -/
def after (call : CacheCall) : Cache := (call.before.perform call.op).2

/-- What a call stores for which source: the pattern that is put or, if the source is not served,
compiled. Nothing is stored while the capacity is zero or less. -/
def stored? (call : CacheCall) : Option (String × Compiled) :=
  if call.before.capacity ≤ 0 then none
  else
    match call.op with
    | .put key (.ok pattern) => some (key, (call.before.adopt pattern).1)
    | .compile (some key) =>
      if (call.before.get key).1.isSome then none
      else (call.before.compile (some key)).1.toOption.map fun p => (key, p)
    | _ => none

/-- A call invalidates a source, or all. -/
def Invalidates (call : CacheCall) (key : String) : Prop :=
  call.op = .invalidate none ∨ call.op = .invalidate (some key)

/-- A call neither stores a pattern for a source nor invalidates it. -/
structure Spares (call : CacheCall) (key : String) : Prop where
  stored : ∀ p, call.stored? ≠ some (key, p)
  invalidates : ¬ call.Invalidates key

end CacheCall

namespace Cache

variable {c : Cache}

/-- A look-up stores nothing. -/
theorem exists_sameAs_of_get {key : String} {e : CacheEntry} (he : e ∈ (c.get key).2.entries) :
    ∃ held ∈ c.entries, held.SameAs e := by
  rcases c.get_cases key with ⟨-, hget⟩ | ⟨held, -, -, hget⟩ | ⟨held, hfind, -, hget⟩
  · rw [hget, missed, count_entries] at he
    exact ⟨e, he, .refl e⟩
  · rw [hget, count_entries] at he
    exact ⟨e, (List.mem_filter.1 he).1, .refl e⟩
  · rw [hget, count_entries] at he
    rcases List.mem_append.1 he with hkept | hserved
    · exact ⟨e, (List.mem_filter.1 hkept).1, .refl e⟩
    · obtain rfl := List.mem_singleton.1 hserved
      exact ⟨held, mem_of_find? hfind, rfl, rfl, rfl⟩

theorem exists_sameAs_of_get? {source? : Option String} {e : CacheEntry}
    (he : e ∈ (c.get? source?).2.entries) : ∃ held ∈ c.entries, held.SameAs e := by
  cases source? with
  | none =>
      rw [get?, count_entries] at he
      exact ⟨e, he, .refl e⟩
  | some key => exact exists_sameAs_of_get he

theorem get_now (c : Cache) (key : String) : (c.get key).2.now = c.now := by
  unfold get
  split
  · simp
  · split <;> simp [erase]

end Cache

namespace CacheCall

variable {c : Cache} {key : String} {source? : Option String}

theorem stored?_of_capacity_le {call : CacheCall} (h : call.before.capacity ≤ 0) :
    call.stored? = none := by
  rw [stored?, if_pos h]

theorem stored?_put {pattern : Pattern} (h : 0 < c.capacity) :
    stored? ⟨c, .put key (.ok pattern)⟩ = some (key, (c.adopt pattern).1) := by
  have hcapacity : ¬ c.capacity ≤ 0 := by omega
  simp [stored?, hcapacity]

/-- A compilation that is not served stores what it answers. -/
theorem stored?_compile {p : Compiled} (h : 0 < c.capacity) (hmissed : (c.get key).1 = none)
    (hok : (c.compile (some key)).1 = .ok p) :
    stored? ⟨c, .compile (some key)⟩ = some (key, p) := by
  have hcapacity : ¬ c.capacity ≤ 0 := by omega
  simp [stored?, hcapacity, hmissed, hok, Except.toOption]

theorem stored?_compile_of_served {p : Compiled} (h : (c.get? source?).1 = some p) :
    stored? ⟨c, .compile source?⟩ = none := by
  cases source? with
  | none => simp [stored?]
  | some key =>
      have hserved : (c.get key).1 = some p := h
      simp [stored?, hserved]

theorem stored?_compile_of_error {e : Failure} (h : (c.compile source?).1 = .error e) :
    stored? ⟨c, .compile source?⟩ = none := by
  cases source? with
  | none => simp [stored?]
  | some key => simp [stored?, h, Except.toOption]

/-- A call that stores a pattern for a source spares all others. -/
theorem spares_of_stored {call : CacheCall} {other : String} {p : Compiled}
    (h : call.stored? = some (key, p)) (hinvalidates : ¬ call.Invalidates other)
    (hne : other ≠ key) : call.Spares other := by
  refine ⟨fun q hq => ?_, hinvalidates⟩
  rw [h] at hq
  exact hne (congrArg Prod.fst (Option.some.inj hq)).symm

theorem spares_of_stored?_eq_none {call : CacheCall} (h : call.stored? = none)
    (hinvalidates : ¬ call.Invalidates key) : call.Spares key :=
  ⟨by simp [h], hinvalidates⟩

/-- A property that depends on the entries and the capacity alone, and that looking up, storing and
invalidating keep, is kept by every call. -/
theorem keeps {P : Cache → Prop}
    (hsame : ∀ c c' : Cache, c'.entries = c.entries → c'.capacity = c.capacity → P c → P c')
    (hget : ∀ (c : Cache) key, P c → P (c.get key).2)
    (hput : ∀ (c : Cache) key p, P c → P (c.put key p))
    (hinvalidate : ∀ (c : Cache) source?, P c → P (c.invalidate source?))
    {call : CacheCall} (hop : call.op.isBlock = false) (h : P call.before) : P call.after := by
  obtain ⟨c, op⟩ := call
  have hcount : ∀ (c : Cache) change, P c → P (c.count change) := fun c change =>
    hsame _ _ (c.count_entries change) (c.count_capacity change)
  have hget? : ∀ source?, P (c.get? source?).2 := by
    intro source?
    cases source? with
    | none => exact hcount c (fun s => { s with misses := s.misses + 1 }) h
    | some key => exact hget c key h
  cases op with
  | compile source? =>
      have hlooked := hget? source?
      rw [after, Cache.perform_compile]
      rcases c.compile_cases source? with
        ⟨p, -, hcompile⟩ | ⟨e, -, hcompile⟩ | ⟨key, pattern, rfl, -, hcompile⟩
      · rwa [hcompile]
      · rw [hcompile]
        exact hcount _ (fun s => { s with errors := s.errors + 1 }) hlooked
      · rw [hcompile]
        exact hput _ _ _ (hsame (c.get key).2 _ rfl rfl hlooked)
  | get source? =>
      rw [after, Cache.perform_get]
      exact hget? source?
  | put key pattern =>
      cases pattern with
      | error e => exact h
      | ok pattern => exact hput _ _ _ (hsame c _ rfl rfl h)
  | invalidate source? => exact hinvalidate c source? h
  | contains source? => exact h
  | resetStats => exact hsame c _ rfl rfl h
  | advance duration => exact hsame c _ rfl rfl h
  | accesses => exact h
  | disabled ops => cases hop

/-- **What is cached after a call** has been stored by it, or was cached before and has been spared
by it. -/
theorem mem_entries_after {call : CacheCall} (hop : call.op.isBlock = false) {e : CacheEntry}
    (he : e ∈ call.after.entries) :
    (call.stored? = some (e.key, e.compiled) ∧ e.createdAt = call.before.now) ∨
      ((∃ held ∈ call.before.entries, held.SameAs e) ∧ call.Spares e.key) := by
  obtain ⟨c, op⟩ := call
  -- a call that stores nothing and does not invalidate the source has spared it
  have hspared : stored? ⟨c, op⟩ = none → ¬ Invalidates ⟨c, op⟩ e.key →
      (∃ held ∈ c.entries, held.SameAs e) →
        (stored? ⟨c, op⟩ = some (e.key, e.compiled) ∧ e.createdAt = c.now) ∨
          ((∃ held ∈ c.entries, held.SameAs e) ∧ Spares ⟨c, op⟩ e.key) :=
    fun hstored hinvalidates hheld => .inr ⟨hheld, spares_of_stored?_eq_none hstored hinvalidates⟩
  cases op with
  | compile source? =>
      rw [after, Cache.perform_compile] at he
      rcases c.compile_cases source? with
        ⟨p, hget, hcompile⟩ | ⟨f, -, hcompile⟩ | ⟨key, pattern, rfl, hget, hcompile⟩
      · rw [hcompile] at he
        exact hspared (stored?_compile_of_served hget) (by simp [Invalidates])
          (Cache.exists_sameAs_of_get? he)
      · rw [hcompile, Cache.count_entries] at he
        exact hspared (stored?_compile_of_error (congrArg Prod.fst hcompile))
          (by simp [Invalidates]) (Cache.exists_sameAs_of_get? he)
      · have hcapacity := Cache.get_capacity c key
        have hanswer := congrArg Prod.fst hcompile
        rw [hcompile] at he
        rcases Cache.mem_entries_put he with ⟨hpositive, rfl⟩ | ⟨hheld, hothers⟩
        · have hstored := stored?_compile (hcapacity ▸ hpositive) hget hanswer
          exact .inl ⟨hstored, Cache.get_now c key⟩
        · have hheld := Cache.exists_sameAs_of_get hheld
          rcases lt_or_ge 0 c.capacity with hpositive | hcapacity'
          · exact .inr ⟨hheld, spares_of_stored (stored?_compile hpositive hget hanswer)
              (by simp [Invalidates]) (hothers (hcapacity.symm ▸ hpositive))⟩
          · exact hspared (stored?_of_capacity_le hcapacity') (by simp [Invalidates]) hheld
  | get source? =>
      rw [after, Cache.perform_get] at he
      exact hspared (by simp [stored?]) (by simp [Invalidates]) (Cache.exists_sameAs_of_get? he)
  | put key pattern =>
      cases pattern with
      | error f =>
          exact hspared (by simp [stored?]) (by simp [Invalidates]) ⟨e, he, .refl e⟩
      | ok pattern =>
          rcases Cache.mem_entries_put (c := (c.adopt pattern).2) he with
            ⟨hpositive, rfl⟩ | ⟨hheld, hothers⟩
          · exact .inl ⟨stored?_put hpositive, rfl⟩
          · rcases lt_or_ge 0 c.capacity with hpositive | hcapacity
            · exact .inr ⟨⟨e, hheld, .refl e⟩, spares_of_stored (stored?_put hpositive)
                (by simp [Invalidates]) (hothers hpositive)⟩
            · exact hspared (stored?_of_capacity_le hcapacity) (by simp [Invalidates])
                ⟨e, hheld, .refl e⟩
  | invalidate source? =>
      cases source? with
      | none => cases he
      | some key =>
          obtain ⟨hheld, hne⟩ := List.mem_filter.1 he
          refine hspared (by simp [stored?]) ?_ ⟨e, hheld, .refl e⟩
          rintro (hall | hkey)
          · cases hall
          · obtain rfl : key = e.key := Option.some.inj (CacheOp.invalidate.inj hkey)
            simp at hne
  | contains source? => exact hspared (by simp [stored?]) (by simp [Invalidates]) ⟨e, he, .refl e⟩
  | resetStats => exact hspared (by simp [stored?]) (by simp [Invalidates]) ⟨e, he, .refl e⟩
  | advance duration => exact hspared (by simp [stored?]) (by simp [Invalidates]) ⟨e, he, .refl e⟩
  | accesses => exact hspared (by simp [stored?]) (by simp [Invalidates]) ⟨e, he, .refl e⟩
  | disabled ops => cases hop

/-- A call leaves the cache as it is set up. -/
theorem asSetUp (call : CacheCall) : call.before.AsSetUp call.after :=
  .perform call.before call.op

/-- A call caches no source twice. -/
theorem nodup_keys {call : CacheCall} (hop : call.op.isBlock = false)
    (h : call.before.keys.Nodup) : call.after.keys.Nodup := by
  refine keeps (P := fun c => c.keys.Nodup) (fun c c' hentries _ h => ?_) ?_ ?_ ?_ hop h
  · rwa [Cache.keys, hentries]
  · intro c key h
    rcases c.get_cases key with ⟨-, hget⟩ | ⟨e, -, -, hget⟩ | ⟨e, hfind, hlive, -⟩
    · rwa [hget, Cache.missed, Cache.count_keys]
    · rw [hget, Cache.count_keys, Cache.keys_erase]
      exact h.filter _
    · -- the source that is served moves to the end
      have hother : key ∉ c.keys.filter (· != key) := by simp
      rw [Cache.keys_get_of_live hfind hlive, ← List.concat_eq_append]
      exact (h.filter _).concat hother
  · intro c key p h
    rcases lt_or_ge 0 c.capacity with hpositive | hcapacity
    · obtain ⟨kept, hsublist, hothers, hentries⟩ := Cache.exists_put_entries hpositive key p
      have hother : key ∉ kept.map (·.key) := by simpa using hothers
      rw [Cache.keys, hentries, List.map_append, List.map_singleton, ← List.concat_eq_append]
      exact (h.sublist (hsublist.map _)).concat hother
    · rwa [Cache.put_of_capacity_le hcapacity]
  · intro c source? h
    cases source? with
    | none => exact List.nodup_nil
    | some key =>
        rw [Cache.invalidate, Cache.keys_erase]
        exact h.filter _

end CacheCall

/-! ## Runs -/

namespace Cache

/-- `c.Leads calls c'`: the calls `calls`, one after the other, lead from the cache `c` to `c'`.
They need not succeed, and a run may stop within a block, after any of its calls. -/
inductive Leads : Cache → List CacheCall → Cache → Prop
  | refl (c : Cache) : Leads c [] c
  | call {c : Cache} {calls : List CacheCall} (call : CacheCall) (hop : call.op.isBlock = false)
      (run : Leads c calls call.before) : Leads c (calls ++ [call]) call.after
  /-- The beginning of a block in which nothing new is cached. -/
  | enter {c c' : Cache} {calls : List CacheCall} (run : Leads c calls c') :
      Leads c calls { c' with capacity := 0 }
  /-- A whole block, whose calls lead to `c''`, where it ends or is ended by a failure. The capacity
  is restored. -/
  | block {c c' c'' : Cache} {calls inner : List CacheCall} (run : Leads c calls c')
      (within : Leads { c' with capacity := 0 } inner c'') :
      Leads c (calls ++ inner) { c'' with capacity := c'.capacity }

variable {c c' c'' : Cache} {calls calls' : List CacheCall}

theorem Leads.trans (h : c.Leads calls c') (h' : c'.Leads calls' c'') :
    c.Leads (calls ++ calls') c'' := by
  induction h' with
  | refl c' => rwa [List.append_nil]
  | call call hop _ ih =>
      rw [← List.append_assoc]
      exact .call call hop (ih h)
  | enter _ ih => exact .enter (ih h)
  | block _ within ih _ =>
      rw [← List.append_assoc]
      exact .block (ih h) within

theorem Leads.options_eq (h : c.Leads calls c') : c'.options = c.options := by
  induction h with
  | refl c => rfl
  | call call _ _ ih => exact call.asSetUp.options.trans ih
  | enter _ ih => exact ih
  | block _ _ ih ihWithin => exact ihWithin.trans ih

/-- The capacity is that of the beginning, or is zero within a block. -/
theorem Leads.capacity_cases (h : c.Leads calls c') :
    (c'.capacity = c.capacity ∨ c'.capacity = 0) ∧
      ∀ call ∈ calls, call.before.capacity = c.capacity ∨ call.before.capacity = 0 := by
  induction h with
  | refl c => exact ⟨.inl rfl, by simp⟩
  | call call _ _ ih =>
      refine ⟨by rw [call.asSetUp.capacity]; exact ih.1, ?_⟩
      simpa [or_imp, forall_and] using ⟨ih.2, ih.1⟩
  | enter _ ih => exact ⟨.inr rfl, ih.2⟩
  | block _ _ ih ihWithin =>
      refine ⟨ih.1, fun call hcall => ?_⟩
      rcases List.mem_append.1 hcall with hcall | hcall
      · exact ih.2 call hcall
      · -- in the block the capacity is zero in either case
        exact .inr ((ihWithin.2 call hcall).elim id id)

theorem Leads.nodup_keys (h : c.Leads calls c') (hc : c.keys.Nodup) : c'.keys.Nodup := by
  induction h with
  | refl c => exact hc
  | call call hop _ ih => exact call.nodup_keys hop (ih hc)
  | enter _ ih => exact ih hc
  | block _ _ ih ihWithin => exact ihWithin (ih hc)

/-- Where no source is cached twice, an entry is the one of its source. -/
theorem find?_of_mem {e : CacheEntry} (h : c.keys.Nodup) (he : e ∈ c.entries) :
    c.find? e.key = some e := by
  obtain ⟨found, hfound⟩ := exists_find?_of_mem_keys (List.mem_map_of_mem he)
  rw [hfound, List.inj_on_of_nodup_map h (mem_of_find? hfound) he (key_of_find? hfound)]

mutual

/-- What an operation performs is a run, also if it is a block and fails. -/
theorem exists_leads_perform (c : Cache) : ∀ op : CacheOp, ∃ calls, c.Leads calls (c.perform op).2
  | .disabled ops => by
      obtain ⟨inner, hinner⟩ := exists_leads_performAll { c with capacity := 0 } ops
      exact ⟨[] ++ inner, .block (.refl c) hinner⟩
  | .compile source? => ⟨_, .call ⟨c, .compile source?⟩ rfl (.refl c)⟩
  | .get source? => ⟨_, .call ⟨c, .get source?⟩ rfl (.refl c)⟩
  | .put key pattern => ⟨_, .call ⟨c, .put key pattern⟩ rfl (.refl c)⟩
  | .invalidate source? => ⟨_, .call ⟨c, .invalidate source?⟩ rfl (.refl c)⟩
  | .contains source? => ⟨_, .call ⟨c, .contains source?⟩ rfl (.refl c)⟩
  | .resetStats => ⟨_, .call ⟨c, .resetStats⟩ rfl (.refl c)⟩
  | .advance duration => ⟨_, .call ⟨c, .advance duration⟩ rfl (.refl c)⟩
  | .accesses => ⟨_, .call ⟨c, .accesses⟩ rfl (.refl c)⟩

/-- So are operations one after the other. -/
theorem exists_leads_performAll (c : Cache) :
    ∀ ops : List CacheOp, ∃ calls, c.Leads calls (c.performAll ops).2.2
  | [] => ⟨[], .refl c⟩
  | op :: rest => by
      obtain ⟨calls, hfirst⟩ := exists_leads_perform c op
      unfold performAll
      split
      · next hop =>
        rw [hop] at hfirst
        exact ⟨calls, hfirst⟩
      · next c₁ hop =>
        rw [hop] at hfirst
        obtain ⟨calls', hrest⟩ := exists_leads_performAll c₁ rest
        exact ⟨calls ++ calls', hfirst.trans hrest⟩

end

end Cache

end PathRouter
