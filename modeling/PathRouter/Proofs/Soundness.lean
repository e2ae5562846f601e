import PathRouter.Proofs.Caching
import PathRouter.Proofs.Ranges

set_option autoImplicit false

/-! # Registries whose cache is filled by compiling alone

Such a registry is *sound*: its cache is faithful and validates defaults as the registry is set to
do. A registry is made sound (`sound_create`), and every operation keeps it so unless it stores a
pattern that was made elsewhere in the cache (`sound_perform`), in whatever order and in whatever
blocks the operations come.
-/

namespace PathRouter

variable {α : Type}

/-! ## Registrations -/

namespace Builder

/-- A registration leaves the cache faithful, whether it succeeds or not. -/
theorem faithful_register {b : Builder α} {c : Cache} (h : c.Faithful) (d : Declaration α) :
    (b.register c d).2.Faithful ∧ (b.register c d).2.options = c.options := by
  have hcompile := h.compileRef d.pattern
  unfold register
  split
  · exact ⟨h, rfl⟩
  · split
    · next hc =>
      rw [hc] at hcompile
      exact ⟨hcompile.1, hcompile.2.1⟩
    · next hc =>
      rw [hc] at hcompile
      exact ⟨hcompile.1, hcompile.2.1⟩

/-- So do registrations one after the other. -/
theorem faithful_registerAll {b : Builder α} {c : Cache} (h : c.Faithful) (index : Nat)
    (ds : List (Declaration α)) :
    (b.registerAll c index ds).2.Faithful ∧
      (b.registerAll c index ds).2.options = c.options := by
  induction ds generalizing b c index with
  | nil => exact ⟨h, rfl⟩
  | cons d rest ih =>
      obtain ⟨hfirst, hoptions⟩ := b.faithful_register h d
      unfold registerAll
      split
      · next hd =>
        rw [hd] at hfirst hoptions
        exact ⟨hfirst, hoptions⟩
      · next hd =>
        rw [hd] at hfirst hoptions
        obtain ⟨hrest, hsame⟩ := ih hfirst (index + 1)
        exact ⟨hrest, hsame.trans hoptions⟩

end Builder

/-! ## Sound registries -/

/-- No count below one reaches a number that is at least one, and none reaches NaN. -/
theorem Value.one_le_of_leastCount? {v : Value} {n : Int} (h : v.AtLeast 1 ∨ v.IsNaN)
    (hn : v.leastCount? = some n) : 1 ≤ n := by
  cases v with
  | int m | bool b =>
      obtain rfl := Option.some.inj hn
      exact h.resolve_right id
  | float x =>
      obtain hleast | hnan := h
      · exact Decimal.one_le_of_ceil? hleast hn
      · have hnone : Decimal.ceil? x = none := Decimal.ceil?_of_isNaN hnan
        cases hnone.symm.trans hn
  | _ => cases hn

/-- The greatest number of routes is at least one where it comes from checked settings. -/
theorem Settings.one_le_of_check {s s' : Settings} (h : s.check = .ok s') {limit : Int}
    (hlimit : s'.limits.maxPatterns? = some limit) : 1 ≤ limit := by
  obtain rfl := check_eq_ok h
  obtain (hmissing | hleast) | hnan := check_eq_ok_iff.1 h .maxPatterns
  · have hnull : s'.maxPatterns = .null := hmissing
    rw [limits, hnull] at hlimit
    cases hlimit
  · exact Value.one_le_of_leastCount? (.inl hleast) hlimit
  · exact Value.one_le_of_leastCount? (.inr hnan) hlimit

namespace Registry

/-- What holds of a registry whose cache is filled by compiling alone: if there is a greatest number
of routes it is at least one, as settings are checked to be; the cache validates defaults as the
registry is set to do, which is checked when the registry is made; and the cache is faithful. -/
structure Sound (r : Registry α) : Prop where
  limit : ∀ limit, r.limits.maxPatterns? = some limit → 1 ≤ limit
  validates : r.cache.options.validateDefaults = r.limits.validateDefaults
  faithful : r.cache.Faithful

/-- A registry with another cache is sound if that one is faithful under the same options. -/
theorem Sound.of_cache {r r' : Registry α} (h : r.Sound) (hlimits : r'.limits = r.limits)
    (hcache : r'.cache.Faithful ∧ r'.cache.options = r.cache.options) : r'.Sound := by
  refine ⟨?_, ?_, hcache.1⟩
  · rw [hlimits]
    exact h.limit
  · rw [hlimits, hcache.2]
    exact h.validates

/-- A registry is sound when it is made, with a cache of its own or a faithful one. -/
theorem sound_create {limits : Limits} {cache? : Option Cache} {r : Registry α}
    (hlimit : ∀ limit, limits.maxPatterns? = some limit → 1 ≤ limit)
    (hcache : ∀ c, cache? = some c → c.Faithful) (h : create limits cache? = .ok r) : r.Sound := by
  unfold create at h
  split at h
  · obtain rfl := Except.ok.inj h
    exact ⟨hlimit, rfl, Cache.faithful_ofOptions _⟩
  · next cache =>
    split at h
    · next hvalidates =>
      obtain rfl := Except.ok.inj h
      exact ⟨hlimit, hvalidates, hcache cache rfl⟩
    · cases h

theorem Sound.register {r : Registry α} (h : r.Sound) (d : Declaration α) :
    (r.register d).2.Sound := by
  have hcache := (r.pending?.getD r.builder).faithful_register h.faithful d
  unfold Registry.register
  split
  · next hd =>
    rw [hd] at hcache
    exact h.of_cache rfl hcache
  · next hd =>
    rw [hd] at hcache
    exact h.of_cache rfl hcache

theorem Sound.load {r : Registry α} (h : r.Sound) (ds : List (Declaration α)) :
    (r.load ds).2.Sound := by
  have hcache := r.builder.faithful_registerAll h.faithful 0 ds
  unfold Registry.load
  split
  · next hds =>
    rw [hds] at hcache
    exact h.of_cache rfl hcache
  · next hds =>
    rw [hds] at hcache
    exact h.of_cache rfl hcache

theorem Sound.rollback {r : Registry α} (h : r.Sound) : r.rollback.Sound := by
  unfold Registry.rollback
  split
  · exact h.of_cache rfl ⟨h.faithful, rfl⟩
  · exact h

end Registry

/-! ## Runs -/

mutual

/-- Whether an operation stores no pattern that was made elsewhere in the cache, also in blocks
within it. -/
def RegistryOp.storesNothing : RegistryOp α → Bool
  | .loading steps => BlockStep.storeNothing steps
  | .cache op => op.storesNothing
  | _ => true

/-- Whether a step of a block stores no pattern that was made elsewhere in the cache. -/
def BlockStep.storesNothing : BlockStep α → Bool
  | .op op => op.storesNothing
  | _ => true

/-- Whether all of the steps of a block store no pattern that was made elsewhere in the cache. -/
def BlockStep.storeNothing : List (BlockStep α) → Bool
  | [] => true
  | step :: rest => step.storesNothing && BlockStep.storeNothing rest

end

namespace Session

theorem sound_load {s : Session α} (h : s.registry.Sound) (drafts : List (Draft α)) :
    (s.load drafts).2.registry.Sound := by
  unfold load
  split
  · exact h
  · exact h.load _

theorem sound_registerIn {s : Session α} (h : s.registry.Sound) (b : Builder α) (d : Draft α) :
    (s.registerIn b d).2.registry.Sound := by
  unfold registerIn
  split
  · exact h
  · exact h.of_cache rfl (b.faithful_register h.faithful _)

mutual

/-- **An operation keeps a registry sound** unless it stores a pattern that was made elsewhere. -/
theorem sound_perform {s : Session α} (h : s.registry.Sound) :
    ∀ op : RegistryOp α, op.storesNothing = true → (s.perform op).2.registry.Sound
  | .register d, _ => by
      unfold perform
      split
      · exact h
      · exact h.register _
  | .commit, _ => h.of_cache rfl ⟨h.faithful, rfl⟩
  | .rollback, _ => h.rollback
  | .clear, _ => h.of_cache rfl ⟨h.faithful, rfl⟩
  | .load drafts, _ => sound_load h drafts
  | .ensureLoaded drafts, _ => by
      unfold perform
      split
      · exact h
      · exact sound_load h drafts
  | .loading steps, hop => by
      have hsteps := sound_performSteps h s.registry.builder steps
        (by simpa [RegistryOp.storesNothing] using hop)
      unfold perform
      split
      · next hrun =>
        rw [hrun] at hsteps
        exact hsteps.of_cache rfl ⟨hsteps.faithful, rfl⟩
      · next hrun =>
        rw [hrun] at hsteps
        exact hsteps.of_cache rfl ⟨hsteps.faithful, rfl⟩
  | .ask _, _ => h.of_cache rfl ⟨h.faithful, rfl⟩
  | .describe, _ => h
  | .keep _, _ => h
  | .askKept _ _, _ => h.of_cache rfl ⟨h.faithful, rfl⟩
  | .cache op, hop => by
      have hcache := Cache.faithful_perform h.faithful op hop
      unfold perform
      dsimp only
      split
      · next hrun =>
        rw [hrun] at hcache
        exact h.of_cache rfl hcache
      · next hrun =>
        rw [hrun] at hcache
        exact h.of_cache rfl hcache

/-- So do the steps of a block. -/
theorem sound_performSteps {s : Session α} (h : s.registry.Sound) (b : Builder α) :
    ∀ steps : List (BlockStep α), BlockStep.storeNothing steps = true →
      (s.performSteps b steps).2.2.2.registry.Sound
  | [], _ => h
  | step :: rest, hsteps => by
      rw [BlockStep.storeNothing, Bool.and_eq_true] at hsteps
      have hfirst := sound_performStep h b step hsteps.1
      unfold performSteps
      split
      · next hrun =>
        rw [hrun] at hfirst
        exact hfirst
      · next b₁ s₁ hrun =>
        rw [hrun] at hfirst
        exact sound_performSteps hfirst b₁ rest hsteps.2

/-- So does one step of a block. -/
theorem sound_performStep {s : Session α} (h : s.registry.Sound) (b : Builder α) :
    ∀ step : BlockStep α, step.storesNothing = true → (s.performStep b step).2.2.registry.Sound
  | .register d, _ => by
      have hregister := sound_registerIn h b d
      unfold performStep
      split <;> simp_all
  | .attempt d, _ => by
      have hregister := sound_registerIn h b d
      unfold performStep
      split <;> simp_all
  | .size, _ => h
  | .raise _, _ => h
  | .op op, hop => sound_perform h op (by simpa [BlockStep.storesNothing] using hop)

end

end Session

end PathRouter
