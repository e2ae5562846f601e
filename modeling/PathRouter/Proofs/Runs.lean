import PathRouter.Proofs.Loading
import PathRouter.Proofs.Transactions

set_option autoImplicit false

/-! # Runs

A run of operations may be looked at after any of them, also within the blocks that they come in.
From a new registry on, `Session.Transactional` holds of it wherever it is looked at
(`Session.transactional_of_runs`): the live generation has the routes of the transaction that
published it and no others, and what is lost is lost for good.
-/

namespace PathRouter

variable {α : Type}

namespace Session

/-- The session after its events have been told. -/
def told (s : Session α) : Session α := s.on { s.registry with journal := [] }

/-- `s.Runs L s' L'`: operations, one after the other, lead from the session `s` with the ledger `L`
to `s'` with `L'`. A run may stop within a block, after any of its steps, and go on from there with
the operations in it. -/
inductive Runs (s : Session α) (L : Ledger α) : Session α → Ledger α → Prop
  | refl : Runs s L s L
  | perform {s' : Session α} {L' : Ledger α} (run : Runs s L s' L') (op : RegistryOp α) :
      Runs s L (s'.perform op).2 (L'.after s' op)
  | within {s' : Session α} {L' : Ledger α} (run : Runs s L s' L') (steps : List (BlockStep α)) :
      Runs s L (s'.performSteps s'.registry.builder steps).2.2.2
        (L'.start.afterSteps s' L'.begun s'.registry.builder steps)
  | told {s' : Session α} {L' : Ledger α} (run : Runs s L s' L') : Runs s L s'.told L'

namespace Runs

variable {s s' : Session α} {L L' : Ledger α} {l : Limits}

/-- A step of a session is a step of a run. -/
theorem step (run : s.Runs L s' L') (op : RegistryOp α) :
    s.Runs L (s'.step op).2.2 (L'.after s'.told op) :=
  run.told.perform op

theorem grows (run : s.Runs L s' L') : L.Grows none L' := by
  induction run with
  | refl => exact .refl
  | perform _ op ih => exact ih.trans (Ledger.grows_after ..)
  | @within s' L' _ steps ih =>
      have hsteps := Ledger.grows_start.mono.trans
        (Ledger.grows_afterSteps L'.start s' L'.begun s'.registry.builder steps)
      exact ih.trans (hsteps.of_not_apart Ledger.not_apart_begun)
  | told _ ih => exact ih

theorem describes (run : s.Runs L s' L') (h : L.Describes l s.registry) :
    L'.Describes l s'.registry := by
  induction run with
  | refl => exact h
  | perform _ op ih => exact Ledger.describes_after ih op
  | within _ steps ih => exact (Ledger.within_afterSteps ih.start steps).describes
  | told _ ih => exact ih.of_eq rfl rfl rfl rfl

end Runs

/-- The live generation and the version are as before. -/
def KeepsLive (s s' : Session α) : Prop :=
  s'.registry.generation? = s.registry.generation? ∧ s'.registry.version = s.registry.version

/-- The routes of a builder are lost: they are those of transaction `t`, which has ended without
being published, and will never be. -/
structure Loses (s : Session α) (L : Ledger α) (t : Nat) (b : Builder α) : Prop where
  entries : L.entriesOf t = b.routes.map (.registered t) ++ [.dropped t]
  never : ∀ {s' L'}, s.Runs L s' L' → ∀ g, .published t g ∉ L'.entries

/-- What transactions come to for a session with limits `l` and the ledger `L`. -/
structure Transactional (l : Limits) (s : Session α) (L : Ledger α) : Prop where
  version : s.registry.version = L.publications.length
  /-- The version never decreases, whatever follows. -/
  monotone : ∀ {s' L'}, s.Runs L s' L' → s.registry.version ≤ s'.registry.version
  /-- The live generation is the last that was published. It has the version of the registry, the
  routes of the transaction that published it, and no more routes than there may be. -/
  live : ∀ g, s.registry.generation? = some g →
    g.version = s.registry.version ∧ L.publications.getLast? = some g ∧ (∃ t, L.Publishes t g) ∧
      ∀ limit, l.maxPatterns? = some limit → g.size ≤ limit
  /-- So had every other one that was published. -/
  published : ∀ t g, .published t g ∈ L.entries → L.Publishes t g
  clear : (s.perform .clear).2.registry.version = s.registry.version
  /-- The pending routes are lost if they are rolled back. -/
  rollback : s.KeepsLive (s.perform .rollback).2 ∧
    ∀ b, s.registry.pending? = some b →
      (s.perform .rollback).2.Loses (L.after s .rollback) L.current b
  register : ∀ d, s.KeepsLive (s.perform (.register d)).2
  /-- A registration that fails leaves no pending routes: those that there were are lost. -/
  discards : ∀ d declaration e, d.declaration = .ok declaration →
    (s.perform (.register d)).1 = .failed e →
      (s.perform (.register d)).2.registry.pending? = none ∧
        (s.perform (.register d)).2.Loses (L.after s (.register d)) L.current
          (s.registry.pending?.getD s.registry.builder)
  load : ∀ drafts e, (s.perform (.load drafts)).1 = .failed e →
    s.KeepsLive (s.perform (.load drafts)).2
  ensureLoaded : ∀ drafts e, (s.perform (.ensureLoaded drafts)).1 = .failed e →
    s.KeepsLive (s.perform (.ensureLoaded drafts)).2
  /-- A block that fails at one of its steps loses the routes of its builder, and the live
  generation is the one that the steps up to there have left. -/
  loading : ∀ steps e, (s.perform (.loading steps)).1 = .failed e →
    ∃ answers b s', s.performSteps s.registry.builder steps = (answers, some e, b, s') ∧
      s'.KeepsLive (s.perform (.loading steps)).2 ∧
      (s.perform (.loading steps)).2.Loses (L.after s (.loading steps)) L.begun b
  /-- Of the steps of a block, only operations make a difference to the live generation. -/
  step : ∀ b step, (∀ op, step ≠ .op op) → s.KeepsLive (s.performStep b step).2.2

variable {s : Session α} {L : Ledger α} {l : Limits}

/-! ### What is dropped -/

/-- A transaction that has been dropped cannot be published. -/
theorem loses_of_dropped {t : Nat} {b : Builder α} (h : L.Describes l s.registry)
    (hentries : L.entriesOf t = b.routes.map (.registered t) ++ [.dropped t]) : s.Loses L t b := by
  refine ⟨hentries, fun {s' L'} run g hg => ?_⟩
  -- the entry is still there, but it would not be among those of a published transaction
  obtain ⟨routes, hroutes, -⟩ := ((run.describes h).published t g hg).1
  have hdropped : Entry.dropped t ∈ L.entriesOf t := by simp [hentries]
  have hkept : Entry.dropped t ∈ L'.entriesOf t := by
    rw [Ledger.mem_entriesOf] at *
    exact ⟨run.grows.entries.subset hdropped.1, rfl⟩
  rw [hroutes] at hkept
  simp at hkept

theorem loses_of_rollback (h : L.Describes l s.registry) {b : Builder α}
    (hb : s.registry.pending? = some b) :
    (s.perform .rollback).2.Loses (L.after s .rollback) L.current b := by
  have hafter : L.after s .rollback = L.take.write (.dropped L.current) := by
    simp [Ledger.after, hb]
  have hentries := h.take.entriesOf_drop
  rw [hb, ← hafter] at hentries
  exact loses_of_dropped (Ledger.describes_after h .rollback) hentries

theorem loses_of_register (h : L.Describes l s.registry) {d : Draft α} {declaration : Declaration α}
    {e : Failure} (hd : d.declaration = .ok declaration)
    (he : (s.registry.register declaration).1 = .error e) :
    (s.perform (.register d)).2.Loses (L.after s (.register d)) L.current
      (s.registry.pending?.getD s.registry.builder) := by
  have hafter : L.after s (.register d) = L.take.write (.dropped L.current) := by
    simp [Ledger.after, hd, he]
  have hentries := h.take.entriesOf_drop
  rw [← hafter] at hentries
  exact loses_of_dropped (Ledger.describes_after h (.register d)) hentries

theorem loses_of_loading (h : L.Describes l s.registry) {steps : List (BlockStep α)}
    {answers : List (Answer α)} {e : Failure} {b : Builder α} {s' : Session α}
    (hrun : s.performSteps s.registry.builder steps = (answers, some e, b, s')) :
    (s.perform (.loading steps)).2.Loses (L.after s (.loading steps)) L.begun b := by
  have hafter : L.after s (.loading steps) =
      (L.start.afterSteps s L.begun s.registry.builder steps).write (.dropped L.begun) := by
    unfold Ledger.after
    rw [hrun]
  have hentries := (Ledger.within_afterSteps h.start steps).entriesOf_drop
  rw [← hafter, hrun] at hentries
  exact loses_of_dropped (Ledger.describes_after h (.loading steps)) hentries

/-! ### What is kept -/

theorem keepsLive_rollback : s.KeepsLive (s.perform .rollback).2 := by
  unfold perform Registry.rollback
  cases s.registry.pending? with
  | some b => exact ⟨rfl, rfl⟩
  | none => exact ⟨rfl, rfl⟩

theorem keepsLive_register (d : Draft α) : s.KeepsLive (s.perform (.register d)).2 := by
  unfold perform
  cases d.declaration with
  | error e => exact ⟨rfl, rfl⟩
  | ok declaration => exact s.registry.register_live declaration

theorem keepsLive_load {drafts : List (Draft α)} {e : Failure} (he : (s.load drafts).1 = .error e) :
    s.KeepsLive (s.load drafts).2 := by
  unfold load at *
  cases hdrafts : drafts.mapM Draft.declaration with
  | error e => exact ⟨rfl, rfl⟩
  | ok declarations =>
      rw [hdrafts] at he
      obtain ⟨hgeneration, hversion, -⟩ := Registry.load_eq_error he
      exact ⟨hgeneration, hversion⟩

theorem keepsLive_registerIn (b : Builder α) (d : Draft α) : s.KeepsLive (s.registerIn b d).2 := by
  unfold registerIn
  cases d.declaration <;> exact ⟨rfl, rfl⟩

theorem keepsLive_performStep (b : Builder α) (step : BlockStep α) (h : ∀ op, step ≠ .op op) :
    s.KeepsLive (s.performStep b step).2.2 := by
  cases step with
  | register d =>
      have hregister := s.keepsLive_registerIn b d
      unfold performStep
      split <;> simp_all
  | attempt d =>
      have hregister := s.keepsLive_registerIn b d
      unfold performStep
      split <;> simp_all
  | size => exact ⟨rfl, rfl⟩
  | raise message => exact ⟨rfl, rfl⟩
  | op op => exact absurd rfl (h op)

theorem keepsLive_loading {steps : List (BlockStep α)} {answers : List (Answer α)} {e : Failure}
    {b : Builder α} {s' : Session α}
    (hrun : s.performSteps s.registry.builder steps = (answers, some e, b, s')) :
    s'.KeepsLive (s.perform (.loading steps)).2 := by
  unfold perform
  rw [hrun]
  exact ⟨rfl, rfl⟩

/-! ### All of it -/

theorem eq_error_of_ofExcept {β : Type} {answer : β → Answer α} {x : Except Failure β} {e : Failure}
    (h : Answer.ofExcept answer x = .failed e) (hanswer : ∀ b, answer b ≠ .failed e) :
    x = .error e := by
  cases x with
  | ok b => exact absurd h (hanswer b)
  | error e' => rw [Answer.failed.inj h]

theorem keepsLive_ensureLoaded {drafts : List (Draft α)} {e : Failure}
    (he : (s.perform (.ensureLoaded drafts)).1 = .failed e) :
    s.KeepsLive (s.perform (.ensureLoaded drafts)).2 := by
  unfold perform at *
  cases hlive : s.registry.generation? with
  | some g => exact ⟨rfl, rfl⟩
  | none =>
      rw [hlive] at he
      exact keepsLive_load (eq_error_of_ofExcept he (by simp))

/-- A block fails by what a step of it has raised. -/
theorem exists_of_loading {steps : List (BlockStep α)} {e : Failure}
    (he : (s.perform (.loading steps)).1 = .failed e) :
    ∃ answers b s', s.performSteps s.registry.builder steps = (answers, some e, b, s') := by
  unfold perform at he
  rcases hrun : s.performSteps s.registry.builder steps with ⟨answers, _ | e', b, s'⟩
  · rw [hrun] at he
    cases he
  · rw [hrun] at he
    obtain rfl := Answer.failed.inj he
    exact ⟨answers, b, s', rfl⟩

theorem pending?_of_register {r : Registry α} {d : Declaration α} {e : Failure}
    (h : (r.register d).1 = .error e) : (r.register d).2.pending? = none := by
  unfold Registry.register at *
  split at h
  · cases h
  · rfl

theorem transactional_of_describes (h : L.Describes l s.registry) : s.Transactional l L where
  version := h.version
  monotone {s' L'} run := by
    have hlater : L.publications.length ≤ L'.publications.length :=
      (run.grows.entries.filterMap _).length_le
    rw [h.version, (run.describes h).version]
    exact_mod_cast hlater
  live g hg := by
    obtain ⟨hversion, hlast⟩ := h.live g hg
    obtain ⟨t, ht⟩ := Ledger.mem_publications.1 (List.mem_of_getLast? hlast)
    exact ⟨hversion, hlast, ⟨t, (h.published t g ht).1⟩, (h.published t g ht).2⟩
  published t g hg := (h.published t g hg).1
  clear := rfl
  rollback := ⟨keepsLive_rollback, fun _ hb => loses_of_rollback h hb⟩
  register := keepsLive_register
  discards d declaration e hd he := by
    have herror : (s.registry.register declaration).1 = .error e := by
      have hanswer : Answer.ofExcept .route (s.registry.register declaration).1 = .failed e := by
        simpa [perform, hd] using he
      exact eq_error_of_ofExcept hanswer (by simp)
    refine ⟨?_, loses_of_register h hd herror⟩
    have hpending := pending?_of_register herror
    simpa [perform, hd, on] using hpending
  load drafts e he := keepsLive_load (eq_error_of_ofExcept he (by simp))
  ensureLoaded drafts e he := keepsLive_ensureLoaded he
  loading steps e he := by
    obtain ⟨answers, b, s', hrun⟩ := exists_of_loading he
    exact ⟨answers, b, s', hrun, keepsLive_loading hrun, loses_of_loading h hrun⟩
  step := keepsLive_performStep

/-! ### From a new registry -/

/-- Nothing has been written down of a new registry. -/
theorem describes_of_create {r : Registry α} {cache? : Option Cache}
    (hlimit : ∀ limit, l.maxPatterns? = some limit → 1 ≤ limit)
    (hr : Registry.create l cache? = .ok r) : ({} : Ledger α).Describes l r := by
  obtain ⟨hlimits, hgeneration, hpending, hversion⟩ := Registry.new_of_create hr
  refine ⟨hlimits, hlimit, hversion, fun g hg => ?_, nofun, nofun, ?_⟩
  · rw [hgeneration] at hg
    cases hg
  · rw [hpending]
    exact .none

/-- **Registrations, commits, loads and blocks are transactions.** Let a run begin with a new
registry, whose settings have been checked. Whatever operations it has, and wherever it stops, also
within blocks, the version is the number of generations that were published. The live generation is
the last of them and has the routes that were registered in the transaction that published it, and
no others. An operation that fails publishes nothing, and its routes are lost for good. -/
theorem transactional_of_runs {settings config : Settings} (hconfig : settings.check = .ok config)
    {cache? : Option Cache} {s₀ : Session α}
    (hr : Registry.create config.limits cache? = .ok s₀.registry) (hrun : s₀.Runs {} s L) :
    s.Transactional config.limits L :=
  transactional_of_describes
    (hrun.describes (describes_of_create (fun _ h => Settings.one_le_of_check hconfig h) hr))

/-- A registration that clashes, a commit, and a block that fails after a load in it. -/
theorem transactional_of_runs_nested :
    ∃ (s₀ s : Session Nat) (L : Ledger Nat), s₀.Runs {} s L ∧ s.Transactional {} L ∧
      L.entries.map Entry.transaction = [0, 0, 1, 2, 3, 3, 2] ∧ s.registry.version = 2 := by
  let draft (source : String) : Draft Nat := ⟨.ok (.source (some source)), .text "GET", 0⟩
  let s₀ : Session Nat := { registry := { limits := {}, cache := .ofOptions {} } }
  have hconfig : ({} : Settings).check = .ok {} := rfl
  have hr : Registry.create ({} : Settings).limits none = .ok s₀.registry := rfl
  have hrun := (((Runs.refl (s := s₀) (L := {})).step (.register (draft "/a"))).step
    (.register (draft "/a"))).step .commit |>.step
    (.loading [.register (draft "/b"), .op (.load [draft "/c"]), .raise "stop"])
  have h := transactional_of_runs hconfig hr hrun
  refine ⟨s₀, _, _, hrun, h, by decide +kernel, ?_⟩
  rw [h.version]
  decide +kernel

end Session

end PathRouter
