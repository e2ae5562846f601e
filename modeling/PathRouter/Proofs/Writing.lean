import PathRouter.Proofs.Runs

set_option autoImplicit false

/-! # Three ways to write

Declared routes are made live by a load, by a block that registers them in order, or by registering
them one by one and committing them. Each way has its own handling of failures and its own builder;
where no routes are pending they nevertheless come to the same (`Session.write_paths_agree`): they
publish the same generation, or fail at the same declaration and leave what is live as it was.

All three are compared with `Builder.registerAll`, which is what a load does.
-/

namespace PathRouter

variable {α : Type}

/-- The draft of a declaration. -/
def Declaration.draft (d : Declaration α) : Draft α where
  pattern := .ok d.pattern
  methods := d.methods
  payload := d.payload

@[simp] theorem Declaration.declaration_draft (d : Declaration α) : d.draft.declaration = .ok d :=
  rfl

theorem mapM_declaration_draft (ds : List (Declaration α)) :
    (ds.map Declaration.draft).mapM Draft.declaration = .ok ds := by
  induction ds with
  | nil => rfl
  | cons d rest ih => exact Outcome.mapM_cons_eq_ok.2 ⟨d, rest, rfl, ih, rfl⟩

/-- A way to make declared routes live. -/
inductive WritePath where
  | load
  /-- A block that registers the routes. -/
  | block
  /-- Registrations one by one, and a commit. -/
  | oneByOne

namespace WritePath

/-- The operations by which declared routes are written. -/
def operations : WritePath → List (Declaration α) → List (RegistryOp α)
  | .load, ds => [.load (ds.map Declaration.draft)]
  | .block, ds => [.loading (ds.map fun d => .register d.draft)]
  | .oneByOne, ds => ds.map (fun d => .register d.draft) ++ [.commit]

/-- The failure that is told where declaration `index` fails by `e`. Only loads tell the number. -/
def failureAt : WritePath → Nat → Option String → Failure → Failure
  | .load, index, source, e => e.atDeclaration index source
  | .block, _, _, e | .oneByOne, _, _, e => e

end WritePath

/-- The failure that an answer tells. -/
def Answer.failure? : Answer α → Option Failure
  | .failed e => some e
  | _ => none

namespace Session

variable {s : Session α} {b b' : Builder α} {c : Cache} {ds : List (Declaration α)} {k : Nat}

/-- Performs operations up to the first that fails. -/
def performInTurn (s : Session α) : List (RegistryOp α) → Option Failure × Session α
  | [] => (none, s)
  | op :: rest =>
    let (answer, s) := s.perform op
    match answer.failure? with
    | some e => (some e, s)
    | none => s.performInTurn rest

/-- `s.Publishes g s'`: the generation `g` has been made live, with the next version, and no routes
are pending. -/
structure Publishes (s : Session α) (g : Generation α) (s' : Session α) : Prop where
  live : s'.registry.generation? = some g
  version : s'.registry.version = s.registry.version + 1
  numbered : g.version = s.registry.version + 1
  pending : s'.registry.pending? = none

/-! ## Registrations in a block -/

/-- A block registers declarations as a load does, and goes on with its other steps. -/
theorem performSteps_register (h : b.registerAll s.registry.cache k ds = (.ok b', c))
    (rest : List (BlockStep α)) :
    ∃ answers, s.performSteps b (ds.map (fun d => .register d.draft) ++ rest) =
      let (others, raised, b', s') := (s.on { s.registry with cache := c }).performSteps b' rest
      (answers ++ others, raised, b', s') := by
  induction ds generalizing s b k with
  | nil =>
      obtain ⟨hb, rfl⟩ := Prod.mk.inj h
      obtain rfl := Except.ok.inj hb
      exact ⟨[], rfl⟩
  | cons d ds ih =>
      rw [Builder.registerAll] at h
      rcases hd : b.register s.registry.cache d with ⟨e | ⟨r, b₁⟩, c₁⟩
      · rw [hd] at h
        cases h
      · rw [hd] at h
        -- the block keeps its builder apart; of the session only the cache changes
        have hstep : s.performStep b (.register d.draft) =
            (.ok (.route r), b₁, s.on { s.registry with cache := c₁ }) := by
          simp [performStep, registerIn, hd]
        obtain ⟨answers, hrest⟩ := ih (s := s.on { s.registry with cache := c₁ }) h
        refine ⟨.route r :: answers, ?_⟩
        rw [List.map_cons, List.cons_append, performSteps, hstep]
        dsimp only
        rw [hrest]
        rfl

/-- A registration that fails ends the block, whatever steps come after it. -/
theorem performSteps_register_error {d : Declaration α} {e : Failure}
    (h : b.register s.registry.cache d = (.error e, c)) (rest : List (BlockStep α)) :
    s.performSteps b (.register d.draft :: rest) =
      ([], some e, b, s.on { s.registry with cache := c }) := by
  have hstep : s.performStep b (.register d.draft) =
      (.error e, b, s.on { s.registry with cache := c }) := by
    simp [performStep, registerIn, h]
  rw [performSteps, hstep]

/-! ## Registrations one by one -/

/-- Registrations one by one go on from the pending routes, and leave theirs pending. -/
theorem performInTurn_register
    (h : (s.registry.pending?.getD s.registry.builder).registerAll s.registry.cache k ds =
      (.ok b', c)) :
    ∃ pending?, pending?.getD s.registry.builder = b' ∧
      ∀ rest, s.performInTurn (ds.map (fun d => .register d.draft) ++ rest) =
        (s.on { s.registry with cache := c, pending? }).performInTurn rest := by
  induction ds generalizing s k with
  | nil =>
      obtain ⟨hb, rfl⟩ := Prod.mk.inj h
      exact ⟨s.registry.pending?, Except.ok.inj hb, fun rest => rfl⟩
  | cons d ds ih =>
      rw [Builder.registerAll] at h
      rcases hd : (s.registry.pending?.getD s.registry.builder).register s.registry.cache d with
        ⟨e | ⟨r, b₁⟩, c₁⟩
      · rw [hd] at h
        cases h
      · rw [hd] at h
        -- the builder is kept in the registry from the first registration on
        have hop : s.perform (.register d.draft) =
            (.route r, s.on { s.registry with cache := c₁, pending? := some b₁ }) := by
          simp [perform, Registry.register, hd, Answer.ofExcept]
        obtain ⟨pending?, hpending, hrest⟩ :=
          ih (s := s.on { s.registry with cache := c₁, pending? := some b₁ }) h
        refine ⟨pending?, hpending, fun rest => ?_⟩
        rw [List.map_cons, List.cons_append, performInTurn, hop]
        exact hrest rest

/-- A registration that fails ends them and drops the pending routes. -/
theorem performInTurn_register_error {d : Declaration α} {e : Failure}
    (h : (s.registry.pending?.getD s.registry.builder).register s.registry.cache d = (.error e, c))
    (rest : List (RegistryOp α)) :
    s.performInTurn (.register d.draft :: rest) = (some e,
      s.on (Registry.record { s.registry with cache := c, pending? := none }
        (.discarded d.pattern e))) := by
  have hop : s.perform (.register d.draft) = (.failed e,
      s.on (Registry.record { s.registry with cache := c, pending? := none }
        (.discarded d.pattern e))) := by
    simp [perform, Registry.register, h, Answer.ofExcept]
  rw [performInTurn, hop]
  rfl

/-! ## Each way -/

/-- Where all declarations can be registered, each way to write publishes the routes of them. -/
theorem publishes_of_registerAll (hpending : s.registry.pending? = none)
    (h : s.registry.builder.registerAll s.registry.cache 0 ds = (.ok b, c)) (path : WritePath) :
    ∃ s', s.performInTurn (path.operations ds) = (none, s') ∧
      s.Publishes (b.build (s.registry.version + 1)) s' := by
  cases path with
  | load =>
      have hop : s.perform (.load (ds.map Declaration.draft)) =
          (.generation (some (b.build (s.registry.version + 1))),
            s.on (Registry.publish { s.registry with cache := c } b).2) := by
        rw [perform, load, mapM_declaration_draft]
        simp [Registry.load, h, Answer.ofExcept]
      refine ⟨s.on (Registry.publish { s.registry with cache := c } b).2, ?_, rfl, rfl, rfl,
        hpending⟩
      rw [WritePath.operations, performInTurn, hop]
      rfl
  | block =>
      obtain ⟨answers, hsteps⟩ := performSteps_register h []
      rw [List.append_nil] at hsteps
      refine ⟨s.on (Registry.publish { s.registry with cache := c } b).2, ?_, rfl, rfl, rfl,
        hpending⟩
      simp only [WritePath.operations, performInTurn, perform, hsteps, performSteps]
      rfl
  | oneByOne =>
      obtain ⟨pending?, hb, hrun⟩ := performInTurn_register (s := s) (by rwa [hpending])
      refine ⟨_, hrun [.commit], ?_, rfl, rfl, rfl⟩
      show some ((pending?.getD s.registry.builder).build (s.registry.version + 1)) = _
      rw [hb]

/-- Where a declaration after others cannot be registered, each way to write stops there, whatever
comes after it. -/
theorem keepsLive_of_register_error (hpending : s.registry.pending? = none)
    {before : List (Declaration α)} {d : Declaration α} {c' : Cache} {e : Failure}
    (hbefore : s.registry.builder.registerAll s.registry.cache 0 before = (.ok b, c))
    (hd : b.register c d = (.error e, c')) (path : WritePath) :
    ∃ s', s.KeepsLive s' ∧ s'.registry.pending? = none ∧
      ∀ after, s.performInTurn (path.operations (before ++ d :: after)) =
        (some (path.failureAt before.length d.pattern.source? e), s') := by
  cases path with
  | load =>
      let events := e.eventsAt before.length d.pattern.source?
      let r := { s.registry with cache := c', journal := s.registry.journal ++ events }
      refine ⟨s.on r, ⟨rfl, rfl⟩, hpending, fun after => ?_⟩
      have hall : s.registry.builder.registerAll s.registry.cache 0 (before ++ d :: after) =
          (.error (before.length, d, e), c') := by
        rw [Builder.registerAll_append, hbefore]
        simp [Builder.registerAll, hd]
      have hop : s.perform (.load ((before ++ d :: after).map Declaration.draft)) =
          (.failed (e.atDeclaration before.length d.pattern.source?), s.on r) := by
        rw [perform, load, mapM_declaration_draft]
        simp [Registry.load, hall, r, events, Answer.ofExcept]
      rw [WritePath.operations, performInTurn, hop]
      rfl
  | block =>
      let r := { s.registry with cache := c' }
      refine ⟨s.on (r.record (.aborted b.size (r.generation?.map (·.version)))), ⟨rfl, rfl⟩,
        hpending, fun after => ?_⟩
      obtain ⟨answers, hsteps⟩ := performSteps_register hbefore
        (.register d.draft :: after.map fun d => .register d.draft)
      rw [performSteps_register_error (s := s.on { s.registry with cache := c }) hd] at hsteps
      have hmap : (before ++ d :: after).map (fun d => BlockStep.register d.draft) =
          before.map (fun d => .register d.draft) ++
            .register d.draft :: after.map fun d => .register d.draft := by
        rw [List.map_append, List.map_cons]
      simp only [WritePath.operations, performInTurn, perform, hmap, hsteps]
      rfl
  | oneByOne =>
      obtain ⟨pending?, rfl, hrun⟩ := performInTurn_register (s := s) (by rwa [hpending])
      let r := { s.registry with cache := c', pending? := none }
      refine ⟨s.on (r.record (.discarded d.pattern e)), ⟨rfl, rfl⟩, rfl, fun after => ?_⟩
      have hoperations : WritePath.oneByOne.operations (before ++ d :: after) =
          before.map (fun d => .register d.draft) ++
            .register d.draft :: (after.map (fun d => .register d.draft) ++ [.commit]) := by
        simp [WritePath.operations]
      rw [hoperations, hrun]
      exact performInTurn_register_error (s := s.on { s.registry with cache := c, pending? }) hd _

/-! ## All of them -/

/-- **The ways to write agree.** Where no routes are pending, either each of them publishes the same
generation, with the next version; or there is a declaration before which each of them succeeds and
at which each of them fails, for the same reason, without going on to the declarations after it, and
the live generation and the version stay as they were. In either case no routes are pending. -/
theorem write_paths_agree (hpending : s.registry.pending? = none) (ds : List (Declaration α)) :
    (∃ g, ∀ path : WritePath, ∃ s',
      s.performInTurn (path.operations ds) = (none, s') ∧ s.Publishes g s') ∨
    ∃ i d e, ds[i]? = some d ∧ ∀ path : WritePath,
      (∃ g s', s.performInTurn (path.operations (ds.take i)) = (none, s') ∧ s.Publishes g s') ∧
      ∃ s', s.KeepsLive s' ∧ s'.registry.pending? = none ∧
        s.performInTurn (path.operations ds) = (some (path.failureAt i d.pattern.source? e), s') ∧
        s.performInTurn (path.operations (ds.take (i + 1))) =
          (some (path.failureAt i d.pattern.source? e), s') := by
  rcases hall : s.registry.builder.registerAll s.registry.cache 0 ds with ⟨⟨i, d, e⟩ | b, c⟩
  · -- what is registered first decides, and is the same for all ways
    obtain ⟨before, after, b, c₁, rfl, hi, hbefore, hd⟩ := Builder.registerAll_eq_error hall
    obtain rfl : i = before.length := by omega
    refine .inr ⟨before.length, d, e, by simp, fun path => ?_⟩
    obtain ⟨s', hkeeps, hnone, hrun⟩ := keepsLive_of_register_error hpending hbefore hd path
    have htake : (before ++ d :: after).take before.length = before := by simp
    have htake' : (before ++ d :: after).take (before.length + 1) = before ++ [d] := by
      simp [List.take_append]
    rw [htake, htake']
    obtain ⟨s₁, hrun₁, hpublishes⟩ := publishes_of_registerAll hpending hbefore path
    exact ⟨⟨_, s₁, hrun₁, hpublishes⟩, s', hkeeps, hnone, hrun after, hrun []⟩
  · exact .inl ⟨_, publishes_of_registerAll hpending hall⟩

/-- Two routes of one pattern with a common method are refused at the second, in whichever way they
are written. -/
theorem write_paths_agree_clash :
    ∃ (s : Session Nat) (ds : List (Declaration Nat)) (e : Failure), s.registry.pending? = none ∧
      ∀ path : WritePath, ∃ s', s.KeepsLive s' ∧ s'.registry.pending? = none ∧
        s.performInTurn (path.operations ds) = (some (path.failureAt 1 (some "/{a}") e), s') := by
  let limits : Limits := {}
  let s : Session Nat := { registry := { limits, cache := .ofOptions limits.cacheOptions } }
  let ds : List (Declaration Nat) :=
    [⟨.source (some "/{a}"), .text "get", 0⟩, ⟨.source (some "/{a}"), .text " GET ", 1⟩]
  have hfirst : (s.performInTurn (WritePath.load.operations (ds.take 1))).1.isNone = true := by
    decide +kernel
  have hboth : (s.performInTurn (WritePath.load.operations ds)).1.isSome = true := by decide +kernel
  rcases write_paths_agree (s := s) rfl ds with ⟨g, hall⟩ | ⟨i, d, e, hi, hall⟩
  · obtain ⟨s', hrun, -⟩ := hall .load
    rw [hrun] at hboth
    cases hboth
  · match i, hi with
    | 0, _ =>
        obtain ⟨-, s', -, -, -, hrun⟩ := hall .load
        rw [hrun] at hfirst
        cases hfirst
    | 1, hd =>
        obtain rfl := Option.some.inj hd
        refine ⟨s, ds, e, rfl, fun path => ?_⟩
        obtain ⟨-, s', hkeeps, hnone, hrun, -⟩ := hall path
        exact ⟨s', hkeeps, hnone, hrun⟩

end Session

end PathRouter
