import PathRouter.Registry.Session
import Mathlib.Tactic

set_option autoImplicit false

/-! # A cache changes nothing but the time it takes

A cache is *faithful* if every entry holds what its source compiles to. Compiling through a faithful
cache gives what compiling afresh gives (`Cache.Faithful.compile`), whatever has been evicted or has
expired meanwhile, and every operation but the storing of a pattern made elsewhere keeps a cache
faithful (`Cache.faithful_perform`).
-/

namespace PathRouter

namespace Cache

/-- Every entry holds the pattern that its source compiles to. -/
def Faithful (c : Cache) : Prop :=
  ∀ e ∈ c.entries, Pattern.parse e.key c.options.validateDefaults = .ok e.compiled.pattern

theorem faithful_ofOptions (options : CacheOptions) : (ofOptions options).Faithful := by
  intro e he
  cases he

/-- A cache with some of the entries of a faithful cache is faithful. -/
theorem Faithful.of_subset {c c' : Cache} (h : c.Faithful) (hoptions : c'.options = c.options)
    (hentries : ∀ e ∈ c'.entries, e ∈ c.entries) : c'.Faithful := by
  intro e he
  rw [hoptions]
  exact h e (hentries e he)

@[simp] theorem count_options (c : Cache) (change : Stats → Stats) :
    (c.count change).options = c.options := by
  unfold count
  split <;> rfl

@[simp] theorem count_entries (c : Cache) (change : Stats → Stats) :
    (c.count change).entries = c.entries := by
  unfold count
  split <;> rfl

theorem Faithful.count {c : Cache} (h : c.Faithful) (change : Stats → Stats) :
    (c.count change).Faithful :=
  h.of_subset (by simp) (by simp)

theorem Faithful.erase {c : Cache} (h : c.Faithful) (key : String) : (c.erase key).Faithful :=
  h.of_subset rfl fun _ he => (List.mem_filter.1 he).1

/-! ## Looking up -/

theorem get_options (c : Cache) (key : String) : (c.get key).2.options = c.options := by
  unfold get
  split
  · simp
  · split <;> simp [Cache.erase]

theorem Faithful.get {c : Cache} (h : c.Faithful) (key : String) : (c.get key).2.Faithful := by
  unfold Cache.get
  split
  · exact h.count _
  · next served hfind =>
    split
    · exact (h.erase key).count _
    · -- what has been served becomes the latest entry
      apply Faithful.count
      intro e he
      rcases List.mem_append.1 he with hkept | hserved
      · exact h.erase key e hkept
      · obtain rfl := List.mem_singleton.1 hserved
        exact h served (List.mem_of_find?_eq_some hfind)

/-- What a faithful cache serves is what the source compiles to. -/
theorem Faithful.get_eq_some {c : Cache} (h : c.Faithful) {key : String} {compiled : Compiled}
    (hget : (c.get key).1 = some compiled) :
    Pattern.parse key c.options.validateDefaults = .ok compiled.pattern := by
  unfold Cache.get at hget
  split at hget
  · cases hget
  · next served hfind =>
    split at hget
    · cases hget
    · obtain rfl := Option.some.inj hget
      have hkey : served.key = key := by simpa using List.find?_some hfind
      rw [← hkey]
      exact h served (List.mem_of_find?_eq_some hfind)

theorem get?_options (c : Cache) (source? : Option String) :
    (c.get? source?).2.options = c.options := by
  cases source? with
  | none => simp [get?]
  | some key => exact get_options c key

theorem Faithful.get? {c : Cache} (h : c.Faithful) (source? : Option String) :
    (c.get? source?).2.Faithful := by
  cases source? with
  | none => exact h.count _
  | some key => exact h.get key

/-! ## Storing -/

theorem put_options (c : Cache) (key : String) (compiled : Compiled) :
    (c.put key compiled).options = c.options := by
  unfold put
  split
  · rfl
  · dsimp only
    split
    · simp [evictOldest]
    · rfl

/-- Storing what the key compiles to keeps a cache faithful. -/
theorem Faithful.put {c : Cache} (h : c.Faithful) {key : String} {compiled : Compiled}
    (hkey : Pattern.parse key c.options.validateDefaults = .ok compiled.pattern) :
    (c.put key compiled).Faithful := by
  have hstore : ∀ c' : Cache, c'.options = c.options → c'.Faithful →
      Faithful { c' with entries := (c'.erase key).entries ++
        [{ key, compiled, createdAt := c'.now }] } := by
    intro c' hoptions hc' e he
    rcases List.mem_append.1 he with hkept | hnew
    · exact hc'.erase key e hkept
    · obtain rfl := List.mem_singleton.1 hnew
      show Pattern.parse key c'.options.validateDefaults = _
      rw [hoptions, hkey]
  unfold Cache.put
  split
  · exact h
  · dsimp only
    split
    · -- a full cache makes room first
      refine hstore _ (by simp [evictOldest]) ?_
      exact h.of_subset (by simp [evictOldest]) fun e he =>
        List.mem_of_mem_tail (by simpa [evictOldest] using he)
    · exact hstore c rfl h

/-! ## Compiling -/

theorem compile_options (c : Cache) (source? : Option String) :
    (c.compile source?).2.options = c.options := by
  have hget := get?_options c source?
  unfold compile
  split
  · next hc => simpa [hc] using hget
  · next c₁ hc =>
    rw [hc] at hget
    split
    · simpa using hget
    · simpa [put_options, adopt] using hget

/-- Compiling through a faithful cache keeps it faithful, and its result is what compiling afresh
gives: the same pattern or the same failure. -/
theorem Faithful.compile {c : Cache} (h : c.Faithful) (source? : Option String) :
    (c.compile source?).2.Faithful ∧
      (c.compile source?).1.map Compiled.pattern =
        Pattern.parse? source? c.options.validateDefaults := by
  have hfaithful := h.get? source?
  have hoptions := get?_options c source?
  unfold Cache.compile
  split
  · next compiled c₁ hc =>
    rw [hc] at hfaithful
    refine ⟨hfaithful, ?_⟩
    cases source? with
    | none => simp [Cache.get?] at hc
    | some key =>
        have hparse : Pattern.parse key c.options.validateDefaults = .ok compiled.pattern :=
          h.get_eq_some (congrArg Prod.fst hc)
        simp [Pattern.parse?, hparse, Except.map]
  · next c₁ hc =>
    rw [hc] at hfaithful hoptions
    dsimp only at hfaithful hoptions
    rw [hoptions]
    -- a failure is not stored
    cases hparse : Pattern.parse? source? c.options.validateDefaults with
    | error e => exact ⟨hfaithful.count _, rfl⟩
    | ok pattern =>
        obtain ⟨key, rfl, hkey⟩ := Pattern.parse?_eq_ok.1 hparse
        refine ⟨?_, rfl⟩
        have hadopted : Faithful { c₁ with issued := c₁.issued + 1 } := hfaithful
        exact hadopted.put (hoptions ▸ hkey)

/-- Naming a pattern in a declaration comes to compiling its source, or to the pattern itself. -/
theorem Faithful.compileRef {c : Cache} (h : c.Faithful) (ref : PatternRef) :
    (c.compileRef ref).2.Faithful ∧ (c.compileRef ref).2.options = c.options ∧
      (c.compileRef ref).1.map Compiled.pattern =
        ref.pattern c.options.validateDefaults := by
  cases ref with
  | source source? =>
      exact ⟨(h.compile source?).1, compile_options c source?, (h.compile source?).2⟩
  | made p => exact ⟨h, rfl, rfl⟩

/-- Whatever has been cached, compiling fails only for a source that does not compile. -/
theorem compileRef_eq_error {c : Cache} {ref : PatternRef} {e : Failure}
    (h : (c.compileRef ref).1 = .error e) :
    ∃ source? validateDefaults, ref = .source source? ∧
      Pattern.parse? source? validateDefaults = .error e := by
  cases ref with
  | made p => cases h
  | source source? =>
      unfold compileRef compile at h
      dsimp only at h
      split at h
      · cases h
      · split at h
        · next hparse =>
          cases h
          exact ⟨source?, _, rfl, hparse⟩
        · cases h

end Cache

/-! ## Runs -/

mutual

/-- Whether an operation stores no pattern that was made elsewhere, also in blocks within it. -/
def CacheOp.storesNothing : CacheOp → Bool
  | .put .. => false
  | .disabled ops => CacheOp.storeNothing ops
  | _ => true

/-- Whether all of some operations store no pattern that was made elsewhere. -/
def CacheOp.storeNothing : List CacheOp → Bool
  | [] => true
  | op :: rest => op.storesNothing && CacheOp.storeNothing rest

end

namespace Cache

mutual

/-- An operation that stores no pattern made elsewhere keeps a cache faithful, under the same
options. -/
theorem faithful_perform {c : Cache} (h : c.Faithful) :
    ∀ op : CacheOp, op.storesNothing = true →
      (c.perform op).2.Faithful ∧ (c.perform op).2.options = c.options
  | .compile source?, _ => by
      have hcompile := (h.compile source?).1
      have hoptions := compile_options c source?
      unfold perform
      split <;> simp_all
  | .get source?, _ => by
      have hget := h.get? source?
      have hoptions := get?_options c source?
      unfold perform
      split <;> simp_all
  | .put _ _, hop => by simp [CacheOp.storesNothing] at hop
  | .invalidate none, _ => ⟨h.of_subset rfl (fun _ he => nomatch he), rfl⟩
  | .invalidate (some key), _ => ⟨h.erase key, rfl⟩
  | .contains _, _ => ⟨h, rfl⟩
  | .resetStats, _ => ⟨h, rfl⟩
  | .advance _, _ => ⟨h, rfl⟩
  | .accesses, _ => ⟨h, rfl⟩
  | .disabled ops, hop => by
      have hblock := faithful_performAll (c := { c with capacity := 0 }) h ops
        (by simpa [CacheOp.storesNothing] using hop)
      unfold perform
      exact hblock

/-- Operations that store no pattern made elsewhere keep a cache faithful, under the same
options. -/
theorem faithful_performAll {c : Cache} (h : c.Faithful) :
    ∀ ops : List CacheOp, CacheOp.storeNothing ops = true →
      (c.performAll ops).2.2.Faithful ∧ (c.performAll ops).2.2.options = c.options
  | [], _ => ⟨h, rfl⟩
  | op :: rest, hops => by
      rw [CacheOp.storeNothing, Bool.and_eq_true] at hops
      obtain ⟨hfirst, hoptions⟩ := faithful_perform h op hops.1
      unfold performAll
      split
      · next e c₁ hperform =>
        rw [hperform] at hfirst hoptions
        exact ⟨hfirst, hoptions⟩
      · next answer c₁ hperform =>
        rw [hperform] at hfirst hoptions
        obtain ⟨hrest, hsame⟩ := faithful_performAll hfirst rest hops.2
        exact ⟨hrest, hsame.trans hoptions⟩

end

/-- `c.Reaches c'`: operations lead from the cache `c` to `c'`, and none of them stores a pattern
made elsewhere. They need not succeed, and a run may stop within a block, after any of its
operations. -/
inductive Reaches : Cache → Cache → Prop
  | refl (c : Cache) : Reaches c c
  | perform {c c' : Cache} (run : Reaches c c') (op : CacheOp) (hop : op.storesNothing = true) :
      Reaches c (c'.perform op).2
  /-- The beginning of a block in which nothing new is cached. -/
  | enter {c c' : Cache} (run : Reaches c c') : Reaches c { c' with capacity := 0 }
  /-- A whole block, whose operations lead to `c''`. Its end restores the capacity. -/
  | block {c c' c'' : Cache} (run : Reaches c c') (inner : Reaches { c' with capacity := 0 } c'') :
      Reaches c { c'' with capacity := c'.capacity }

/-- A run keeps a cache faithful, under the same options. -/
theorem Reaches.faithful {c c' : Cache} (run : c.Reaches c') (h : c.Faithful) :
    c'.Faithful ∧ c'.options = c.options := by
  induction run with
  | refl => exact ⟨h, rfl⟩
  | perform _ op hop ih =>
      obtain ⟨hfaithful, hsame⟩ := ih h
      obtain ⟨hperformed, hoptions⟩ := faithful_perform hfaithful op hop
      exact ⟨hperformed, hoptions.trans hsame⟩
  | enter _ ih => exact ih h
  | block _ _ ih ihInner =>
      -- neither the beginning nor the end of the block changes the entries
      obtain ⟨hfaithful, hsame⟩ := ih h
      obtain ⟨hinner, hoptions⟩ := ihInner hfaithful
      exact ⟨hinner, hoptions.trans hsame⟩

/-- What a faithful cache contains compiles. -/
theorem Faithful.exists_of_contains {c : Cache} (h : c.Faithful) {key : String}
    (hkey : c.contains key = true) :
    ∃ p, Pattern.parse key c.options.validateDefaults = .ok p := by
  obtain ⟨e, hfind⟩ := Option.isSome_iff_exists.1 hkey
  have he : e.key = key := by simpa using List.find?_some hfind
  exact ⟨e.compiled.pattern, he ▸ h e (List.mem_of_find?_eq_some hfind)⟩

/-- **Compiling through a cache is compiling.** Wherever a run from an empty cache has led,
compiling a source gives the pattern, or the failure, that reading the source gives; what is served
for a source is the pattern of it; and a source that is no pattern is not cached. -/
theorem compile_eq_parse {options : CacheOptions} {c : Cache}
    (run : (ofOptions options).Reaches c) :
    (∀ source?, (c.compile source?).1.map Compiled.pattern =
      Pattern.parse? source? options.validateDefaults) ∧
    (∀ source compiled, (c.get source).1 = some compiled →
      Pattern.parse source options.validateDefaults = .ok compiled.pattern) ∧
    ∀ source e, Pattern.parse source options.validateDefaults = .error e →
      c.contains source = false := by
  obtain ⟨hfaithful, hoptions⟩ := run.faithful (faithful_ofOptions options)
  have hvalidate : c.options.validateDefaults = options.validateDefaults := by
    rw [hoptions]
    rfl
  refine ⟨?_, ?_, ?_⟩
  · intro source?
    rw [(hfaithful.compile source?).2, hvalidate]
  · intro source compiled hget
    rw [← hvalidate]
    exact hfaithful.get_eq_some hget
  · intro source e herror
    rw [Bool.eq_false_iff]
    intro hcontains
    obtain ⟨p, hp⟩ := hfaithful.exists_of_contains hcontains
    rw [hvalidate, herror] at hp
    cases hp

/-- A run in which one source is compiled, and then, in a block, one that is no pattern and a third
one, ends with a cache that serves the first and contains neither of the others. -/
theorem compile_eq_parse_block :
    ∃ c p, (ofOptions {}).Reaches c ∧ (c.get "/{a}").1 = some p ∧
      Pattern.parse "/{a}" true = .ok p.pattern ∧ c.contains "/\x7b" = false ∧
      c.contains "/b" = false := by
  let c₁ := ((ofOptions {}).perform (.compile (some "/{a}"))).2
  let c₂ := (Cache.perform { c₁ with capacity := 0 } (.compile (some "/\x7b"))).2
  let c₃ := (c₂.perform (.compile (some "/b"))).2
  have hrun : (ofOptions {}).Reaches { c₃ with capacity := c₁.capacity } :=
    .block (.perform (.refl _) _ rfl) (.perform (.perform (.refl _) _ rfl) _ rfl)
  obtain ⟨-, hget, hcontains⟩ := compile_eq_parse hrun
  have hserved : (Cache.get { c₃ with capacity := c₁.capacity } "/{a}").1.isSome = true := by
    decide +kernel
  have hthird : Cache.contains { c₃ with capacity := c₁.capacity } "/b" = false := by decide +kernel
  obtain ⟨p, hp⟩ := Option.isSome_iff_exists.1 hserved
  cases herror : Pattern.parse "/\x7b" true with
  | error e => exact ⟨_, p, hrun, hp, hget _ _ hp, hcontains _ e herror, hthird⟩
  | ok q =>
      have hnone : (Pattern.parse "/\x7b" true).toOption.isSome = false := by decide +kernel
      rw [herror] at hnone
      cases hnone

end Cache

end PathRouter
