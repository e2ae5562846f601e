import PathRouter.Proofs.Calls

set_option autoImplicit false

/-! # Lifetimes of cached patterns

An entry of a cache comes from one storing and lives until its time is over, counted from that
storing, unless it is replaced, invalidated or evicted before. So whatever is served for a source is
what was stored for it last, and has been neither outdated nor invalidated since
(`Cache.served_is_stored_last`). Nothing is supposed of the clock, which may even go back.
-/

namespace PathRouter

/-- The last of some calls that stored a pattern for a source stored `p`, at `time`, and no call
after it invalidated the source. -/
def StoredLast (calls : List CacheCall) (key : String) (p : Compiled) (time : Float) : Prop :=
  ∃ earlier call later, calls = earlier ++ call :: later ∧ call.stored? = some (key, p) ∧
    call.before.now = time ∧ ∀ other ∈ later, other.Spares key

namespace StoredLast

variable {calls : List CacheCall} {key : String} {p : Compiled} {time : Float}

/-- Calls that spare a source change nothing for it. -/
theorem append (h : StoredLast calls key p time) {later : List CacheCall}
    (hlater : ∀ call ∈ later, call.Spares key) : StoredLast (calls ++ later) key p time := by
  obtain ⟨earlier, call, between, rfl, hstored, htime, hbetween⟩ := h
  refine ⟨earlier, call, between ++ later, by simp, hstored, htime, fun other hother => ?_⟩
  rcases List.mem_append.1 hother with hother | hother
  · exact hbetween other hother
  · exact hlater other hother

/-- Calls before the storing do not matter. -/
theorem append_left (h : StoredLast calls key p time) (before : List CacheCall) :
    StoredLast (before ++ calls) key p time := by
  obtain ⟨earlier, call, later, rfl, hstored, htime, hlater⟩ := h
  exact ⟨before ++ earlier, call, later, by simp, hstored, htime, hlater⟩

theorem concat {call : CacheCall} (h : call.stored? = some (key, p))
    (calls : List CacheCall) : StoredLast (calls ++ [call]) key p call.before.now :=
  ⟨calls, call, [], rfl, h, rfl, by simp⟩

end StoredLast

/-- What is cached since `since` has not been cached for longer than it may. -/
def CacheOptions.InTime (options : CacheOptions) (since now : Float) : Prop :=
  ∀ ttl, options.ttl? = some ttl → ¬ ttl < now - since

namespace Cache

variable {c c' : Cache} {calls : List CacheCall} {key : String} {p : Compiled}

/-- **Where an entry comes from.** After a run it is that of the last storing, or it has been there
all the time and has been spared. -/
theorem Leads.origin (run : c.Leads calls c') {e : CacheEntry} (he : e ∈ c'.entries) :
    StoredLast calls e.key e.compiled e.createdAt ∨
      ((∃ held ∈ c.entries, held.SameAs e) ∧ ∀ call ∈ calls, call.Spares e.key) := by
  -- `e` is general, as an entry that has been served is another one than it was before
  induction run generalizing e with
  | refl c => exact .inr ⟨⟨e, he, .refl e⟩, by simp⟩
  | @call c calls call hop _ ih =>
      rcases call.mem_entries_after hop he with ⟨hstored, htime⟩ | ⟨⟨held, hheld, hsame⟩, hspares⟩
      · exact .inl (htime ▸ .concat hstored calls)
      · have hone : ∀ other ∈ [call], other.Spares e.key := by simpa using hspares
        rcases ih hheld with hlast | ⟨⟨first, hfirst, hfirst'⟩, hall⟩
        · rw [← hsame.key, ← hsame.compiled, ← hsame.createdAt] at hlast
          exact .inl (hlast.append hone)
        · rw [← hsame.key] at hall
          refine .inr ⟨⟨first, hfirst, hfirst'.trans hsame⟩, fun other hother => ?_⟩
          exact (List.mem_append.1 hother).elim (hall other) (hone other)
  | enter _ ih => exact ih he
  | @block c c' c'' calls inner _ _ ih ihWithin =>
      -- what the block has not stored was there at its beginning
      rcases ihWithin he with hlast | ⟨⟨held, hheld, hsame⟩, hinner⟩
      · exact .inl (hlast.append_left calls)
      · rcases ih hheld with hlast | ⟨⟨first, hfirst, hfirst'⟩, hall⟩
        · rw [← hsame.key, ← hsame.compiled, ← hsame.createdAt] at hlast
          exact .inl (hlast.append hinner)
        · rw [← hsame.key] at hall
          refine .inr ⟨⟨first, hfirst, hfirst'.trans hsame⟩, fun other hother => ?_⟩
          exact (List.mem_append.1 hother).elim (hall other) (hinner other)

/-- What is cached for a source, and since when. -/
def heldSince? (c : Cache) (key : String) : Option (Compiled × Float) :=
  (c.find? key).map fun e => (e.compiled, e.createdAt)

theorem isExpired_eq_false_iff {e : CacheEntry} :
    c.isExpired e = false ↔ c.options.InTime e.createdAt c.now := by
  unfold isExpired CacheOptions.InTime
  cases c.options.ttl? <;> simp

theorem isExpired_eq_true_iff {e : CacheEntry} :
    c.isExpired e = true ↔ ¬ c.options.InTime e.createdAt c.now := by
  rw [← isExpired_eq_false_iff, Bool.not_eq_false]

/-- Serving a source changes neither what is cached nor since when. -/
theorem heldSince?_of_get (h : (c.get key).1 = some p) (other : String) :
    (c.get key).2.heldSince? other = c.heldSince? other := by
  obtain ⟨e, hfind, hlive, -⟩ := exists_of_get_eq_some h
  obtain rfl := key_of_find? hfind
  rw [get_of_live hfind hlive, heldSince?, heldSince?, find?, count_entries, List.find?_append]
  by_cases hother : other = e.key
  · -- the entry that has been served stands last now
    subst hother
    have hgone : (c.erase e.key).entries.find? (·.key == e.key) = none := by simp [erase]
    rw [hgone, hfind]
    simp
  · have hkept : (c.erase e.key).entries.find? (·.key == other) = c.find? other := by
      rw [erase, List.find?_filter, find?]
      congr 1
      funext held
      by_cases hheld : held.key = other <;> simp_all
    have hserved : (e.key == other) = false := by simpa using Ne.symm hother
    rw [hkept]
    simp [hserved]

theorem heldSince?_put (h : 0 < c.capacity) (key : String) (p : Compiled) :
    (c.put key p).heldSince? key = some (p, c.now) := by
  obtain ⟨kept, -, hothers, hentries⟩ := exists_put_entries h key p
  have hkept : kept.find? (·.key == key) = none := by simpa using hothers
  simp [heldSince?, find?, hentries, hkept]

/-- What a call stores is cached after it. -/
theorem heldSince?_of_stored {call : CacheCall} (h : call.stored? = some (key, p)) :
    call.after.heldSince? key = some (p, call.before.now) := by
  obtain ⟨c, op⟩ := call
  have hpositive : 0 < c.capacity := by
    by_contra hcapacity
    rw [CacheCall.stored?_of_capacity_le (not_lt.1 hcapacity)] at h
    cases h
  unfold CacheCall.stored? at h
  rw [if_neg (not_le.2 hpositive)] at h
  dsimp only at h
  split at h
  · next pattern =>
    obtain ⟨rfl, rfl⟩ := Prod.mk.inj (Option.some.inj h)
    exact heldSince?_put (c := (c.adopt pattern).2) hpositive ..
  · next source =>
    rcases c.compile_cases (some source) with
      ⟨p, hget, -⟩ | ⟨e, -, hcompile⟩ | ⟨_, pattern, ⟨⟩, hget, hcompile⟩
    · rw [get?] at hget
      rw [hget] at h
      cases h
    · rw [hcompile, Except.toOption] at h
      split at h <;> cases h
    · have hroom : 0 < ((c.get source).2.adopt pattern).2.capacity := by rwa [adopt, get_capacity]
      have hnow : ((c.get source).2.adopt pattern).2.now = c.now := get_now c source
      rw [hcompile, hget] at h
      obtain ⟨rfl, rfl⟩ := Prod.mk.inj (Option.some.inj h)
      rw [CacheCall.after, perform_compile, hcompile, ← hnow]
      exact heldSince?_put hroom ..
  · cases h

/-! ## What is served -/

@[simp] theorem count_issued (c : Cache) (change : Stats → Stats) :
    (c.count change).issued = c.issued := by
  unfold count
  split <;> rfl

theorem get_issued (c : Cache) (key : String) : (c.get key).2.issued = c.issued := by
  unfold get
  split
  · simp
  · split <;> simp [erase]

theorem put_issued (c : Cache) (key : String) (p : Compiled) : (c.put key p).issued = c.issued := by
  unfold put
  split
  · rfl
  · dsimp only
    split
    · simp [evictOldest]
    · rfl

/-- A source is served a pattern: by a look-up, or by a compilation that makes no new one. -/
def Serves (c : Cache) (key : String) (p : Compiled) : Prop :=
  (c.get key).1 = some p ∨
    ((c.compile (some key)).1 = .ok p ∧ (c.compile (some key)).2.issued = c.issued)

theorem serves_iff : c.Serves key p ↔ (c.get key).1 = some p := by
  refine ⟨?_, .inl⟩
  rintro (hget | ⟨hok, hissued⟩)
  · exact hget
  · rcases c.compile_cases (some key) with
      ⟨q, hget, hcompile⟩ | ⟨e, -, hcompile⟩ | ⟨_, pattern, ⟨⟩, -, hcompile⟩
    · rw [hcompile] at hok
      exact hget.trans (congrArg some (Except.ok.inj hok))
    · rw [hcompile] at hok
      cases hok
    · -- without being served, a source is made a new pattern, which is numbered
      have hnew : (c.compile (some key)).2.issued = (c.get key).2.issued + 1 := by
        rw [hcompile]
        exact put_issued ..
      rw [get_issued] at hnew
      omega

/-- **What is served has been stored last.** Wherever a run from an empty cache has led, a pattern
that is served for a source is the one that the last storing for this source stored, the source has
not been invalidated since, and the time that has passed since is not over. Serving it leaves what
is cached, and since when, as it was. What is cached is served while its time is not over; after
that it is not served, and is no longer cached once it has been asked for. What is stored is cached
since then. -/
theorem served_is_stored_last {options : CacheOptions}
    (run : (ofOptions options).Leads calls c) (key : String) :
    (∀ p, c.Serves key p →
      (∃ time, StoredLast calls key p time ∧ options.InTime time c.now) ∧
      ∀ other, (c.get key).2.heldSince? other = c.heldSince? other ∧
        (c.compile (some key)).2.heldSince? other = c.heldSince? other) ∧
    (∀ p time, c.heldSince? key = some (p, time) →
      (options.InTime time c.now → c.Serves key p) ∧
      (¬ options.InTime time c.now → (c.get key).1 = none ∧ (c.get key).2.contains key = false)) ∧
    ∀ op p, CacheCall.stored? ⟨c, op⟩ = some (key, p) →
      (c.perform op).2.heldSince? key = some (p, c.now) := by
  have hoptions : c.options = options := run.options_eq
  refine ⟨fun p hserves => ?_, fun p time hheld => ?_,
    fun op p hstored => heldSince?_of_stored hstored⟩
  · have hget := serves_iff.1 hserves
    obtain ⟨e, hfind, hlive, rfl⟩ := exists_of_get_eq_some hget
    obtain rfl := key_of_find? hfind
    refine ⟨⟨e.createdAt, ?_, ?_⟩, fun other => ⟨heldSince?_of_get hget other, ?_⟩⟩
    · rcases run.origin (mem_of_find? hfind) with hlast | ⟨⟨held, hheld, -⟩, -⟩
      · exact hlast
      · cases hheld
    · rw [← hoptions]
      exact isExpired_eq_false_iff.1 hlive
    · have hserved : (c.get? (some e.key)).1 = some e.compiled := hget
      rw [compile_of_served hserved]
      exact heldSince?_of_get hget other
  · obtain ⟨e, hfind, he⟩ := Option.map_eq_some_iff.1 hheld
    obtain ⟨rfl, rfl⟩ := Prod.mk.inj he
    rw [← hoptions]
    constructor
    · intro hlive
      exact .inl (by rw [get_of_live hfind (isExpired_eq_false_iff.2 hlive)])
    · intro hover
      have hget : (c.get key).1 = none := by
        rw [get_of_expired hfind (isExpired_eq_true_iff.2 hover)]
      exact ⟨hget, contains_eq_false_iff.2 (not_mem_keys_of_get_eq_none hget)⟩

/-- A pattern with ten units of time to live is served when they have passed, though another one was
put for its source within a block, and though it has been served before. -/
theorem served_is_stored_last_block :
    ∃ c calls p, (ofOptions { ttl? := some 10 }).Leads calls c ∧ c.Serves "/a" p ∧
      ∃ time, StoredLast calls "/a" p time ∧ ¬ 10 < c.now - time := by
  let c₁ := ((ofOptions { ttl? := some 10 }).perform (.compile (some "/a"))).2
  let c₂ := (c₁.perform (.advance 6)).2
  let other := Pattern.parse? (some "/b") true
  let c₃ := (Cache.perform { c₂ with capacity := 0 } (.put "/a" other)).2
  let c₄ := (c₃.perform (.get (some "/a"))).2
  let c₅ := (c₄.perform (.advance 4)).2
  have run : (ofOptions { ttl? := some 10 }).Leads _ c₅ :=
    .call ⟨c₄, .advance 4⟩ rfl <| .call ⟨c₃, .get (some "/a")⟩ rfl <|
      .call ⟨{ c₂ with capacity := 0 }, .put "/a" other⟩ rfl <| .enter <|
      .call ⟨c₁, .advance 6⟩ rfl <| .call ⟨_, .compile (some "/a")⟩ rfl <| .refl _
  have hserved : (c₅.get "/a").1.isSome = true := by decide +kernel
  obtain ⟨p, hp⟩ := Option.isSome_iff_exists.1 hserved
  obtain ⟨⟨time, hlast, hlive⟩, -⟩ := (served_is_stored_last run "/a").1 p (.inl hp)
  exact ⟨c₅, _, p, run, .inl hp, time, hlast, hlive 10 rfl⟩

end Cache

end PathRouter
