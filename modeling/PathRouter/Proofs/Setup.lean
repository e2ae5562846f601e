import PathRouter.Proofs.Recency
import PathRouter.Proofs.Runs

set_option autoImplicit false

/-! # What a cache is set up with

No operation changes the options of a cache, and none its capacity for longer than a block in which
nothing new is cached. So the own cache of a registry has the size and the time to live of the
limits wherever a run of the registry has led (`Session.cache_of_runs`).
-/

namespace PathRouter

/-- Two caches have the same options and the same capacity. -/
structure Cache.AsSetUp (c c' : Cache) : Prop where
  options : c'.options = c.options
  capacity : c'.capacity = c.capacity

namespace Cache.AsSetUp

variable {c c' c'' : Cache}

theorem refl (c : Cache) : c.AsSetUp c := ⟨rfl, rfl⟩

theorem trans (h : c.AsSetUp c') (h' : c'.AsSetUp c'') : c.AsSetUp c'' :=
  ⟨h'.options.trans h.options, h'.capacity.trans h.capacity⟩

theorem compile (c : Cache) (source? : Option String) : c.AsSetUp (c.compile source?).2 :=
  ⟨compile_options c source?, compile_capacity c source?⟩

mutual

/-- An operation leaves a cache as it is set up; after a block its capacity is restored. -/
theorem perform (c : Cache) : ∀ op : CacheOp, c.AsSetUp (c.perform op).2
  | .compile source? => by
      have hcompile := compile c source?
      unfold Cache.perform
      split <;> simp_all
  | .get source? => by
      have hget : c.AsSetUp (c.get? source?).2 := ⟨get?_options c source?, get?_capacity c source?⟩
      unfold Cache.perform
      split <;> simp_all
  | .put _ (.error _) => .refl c
  | .put key (.ok pattern) => ⟨put_options .., put_capacity ..⟩
  | .invalidate none => ⟨rfl, rfl⟩
  | .invalidate (some _) => ⟨rfl, rfl⟩
  | .contains _ => .refl c
  | .resetStats => ⟨rfl, rfl⟩
  | .advance _ => ⟨rfl, rfl⟩
  | .accesses => .refl c
  | .disabled ops => ⟨(performAll { c with capacity := 0 } ops).options, rfl⟩

/-- So do operations one after the other. -/
theorem performAll (c : Cache) : ∀ ops : List CacheOp, c.AsSetUp (c.performAll ops).2.2
  | [] => .refl c
  | op :: rest => by
      have hfirst := perform c op
      unfold Cache.performAll
      split
      · next hop =>
        rw [hop] at hfirst
        exact hfirst
      · next hop =>
        rw [hop] at hfirst
        exact hfirst.trans (performAll _ rest)

end

variable {α : Type}

theorem register (b : Builder α) (c : Cache) (d : Declaration α) :
    c.AsSetUp (b.register c d).2 := by
  have hcompile : c.AsSetUp (c.compileRef d.pattern).2 := by
    cases d.pattern with
    | source source? => exact compile c source?
    | made p => exact ⟨rfl, rfl⟩
  unfold Builder.register
  split
  · exact .refl c
  · split
    · next hc =>
      rw [hc] at hcompile
      exact hcompile
    · next hc =>
      rw [hc] at hcompile
      exact hcompile

theorem registerAll (b : Builder α) (c : Cache) (index : Nat) (ds : List (Declaration α)) :
    c.AsSetUp (b.registerAll c index ds).2 := by
  induction ds generalizing b c index with
  | nil => exact .refl c
  | cons d rest ih =>
      have hfirst := register b c d
      unfold Builder.registerAll
      split
      · next hd =>
        rw [hd] at hfirst
        exact hfirst
      · next hd =>
        rw [hd] at hfirst
        exact hfirst.trans (ih ..)

theorem load (r : Registry α) (ds : List (Declaration α)) :
    r.cache.AsSetUp (r.load ds).2.cache := by
  have hcache := registerAll r.builder r.cache 0 ds
  unfold Registry.load
  split
  · next hds =>
    rw [hds] at hcache
    exact hcache
  · next hds =>
    rw [hds] at hcache
    exact hcache

theorem registerPending (r : Registry α) (d : Declaration α) :
    r.cache.AsSetUp (r.register d).2.cache := by
  have hregister := register (r.pending?.getD r.builder) r.cache d
  unfold Registry.register
  split
  · next hd =>
    rw [hd] at hregister
    exact hregister
  · next hd =>
    rw [hd] at hregister
    exact hregister

theorem registerIn (s : Session α) (b : Builder α) (d : Draft α) :
    s.registry.cache.AsSetUp (s.registerIn b d).2.registry.cache := by
  unfold Session.registerIn
  split
  · exact .refl _
  · exact register ..

theorem loadDrafts (s : Session α) (drafts : List (Draft α)) :
    s.registry.cache.AsSetUp (s.load drafts).2.registry.cache := by
  unfold Session.load
  split
  · exact .refl _
  · exact load ..

mutual

/-- An operation on a registry leaves its cache as it is set up. -/
theorem performOp (s : Session α) :
    ∀ op : RegistryOp α, s.registry.cache.AsSetUp (s.perform op).2.registry.cache
  | .register d => by
      unfold Session.perform
      split
      · exact .refl _
      · exact registerPending ..
  | .commit => .refl _
  | .rollback => by
      unfold Session.perform Registry.rollback
      split <;> exact .refl _
  | .clear => .refl _
  | .load drafts => loadDrafts s drafts
  | .ensureLoaded drafts => by
      unfold Session.perform
      split
      · exact .refl _
      · exact loadDrafts s drafts
  | .loading steps => by
      have hsteps := performSteps s s.registry.builder steps
      unfold Session.perform
      split
      · next hrun =>
        rw [hrun] at hsteps
        exact hsteps
      · next hrun =>
        rw [hrun] at hsteps
        exact hsteps
  | .ask _ => .refl _
  | .describe => .refl _
  | .keep _ => .refl _
  | .askKept _ _ => .refl _
  | .cache op => by
      have hcache := perform s.registry.cache op
      unfold Session.perform
      dsimp only
      split
      · next hrun =>
        rw [hrun] at hcache
        exact hcache
      · next hrun =>
        rw [hrun] at hcache
        exact hcache

/-- So do the steps of a block. -/
theorem performSteps (s : Session α) (b : Builder α) :
    ∀ steps : List (BlockStep α),
      s.registry.cache.AsSetUp (s.performSteps b steps).2.2.2.registry.cache
  | [] => .refl _
  | step :: rest => by
      have hfirst := performStep s b step
      unfold Session.performSteps
      split
      · next hrun =>
        rw [hrun] at hfirst
        exact hfirst
      · next b₁ s₁ hrun =>
        rw [hrun] at hfirst
        exact hfirst.trans (performSteps s₁ b₁ rest)

/-- So does one step of a block. -/
theorem performStep (s : Session α) (b : Builder α) :
    ∀ step : BlockStep α, s.registry.cache.AsSetUp (s.performStep b step).2.2.registry.cache
  | .register d => by
      have hregister := registerIn s b d
      unfold Session.performStep
      split <;> simp_all
  | .attempt d => by
      have hregister := registerIn s b d
      unfold Session.performStep
      split <;> simp_all
  | .size => .refl _
  | .raise _ => .refl _
  | .op op => performOp s op

end

end Cache.AsSetUp

/-- **The cache of a registry stays as the limits set it up** if it is its own, wherever a run has
led: it has the size and the time to live of the limits. -/
theorem Session.cache_of_runs {α : Type} {l : Limits} {s₀ s : Session α} {L : Ledger α}
    (hr : Registry.create l none = .ok s₀.registry) (run : s₀.Runs {} s L) :
    s.registry.cache.capacity = l.cacheSize ∧ s.registry.cache.options = l.cacheOptions := by
  have hsetup : s₀.registry.cache.AsSetUp s.registry.cache := by
    induction run with
    | refl => exact .refl _
    | perform _ op ih => exact ih.trans (.performOp _ op)
    | within _ steps ih => exact ih.trans (.performSteps _ _ steps)
    | told _ ih => exact ih
  have hown := Except.ok.inj hr
  rw [hsetup.capacity, hsetup.options, ← hown]
  exact ⟨rfl, rfl⟩

end PathRouter
