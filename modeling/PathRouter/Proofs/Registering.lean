import PathRouter.Proofs.Ties

set_option autoImplicit false

/-! # Registrations that succeed and registrations that fail

A builder has its routes and, apart from them, the methods that are taken for every pattern. The two
stay in step over any registrations, also over those that fail (`Builder.registrations_in_step`): a
registration fails for what its builder holds exactly if the limit is reached or a route of the same
pattern has one of the methods, and then it leaves nothing behind, so that a block that catches the
failure goes on as if it had not been tried.
-/

namespace PathRouter

open Text

variable {α : Type}

/-! ## The methods that are taken -/

namespace Taken

variable {taken : Taken}

/-- The methods of every pattern are a set. -/
def Ascending (taken : Taken) : Prop := ∀ entry ∈ taken, Methods.Ascending entry.2

theorem Ascending.methodsOf (h : taken.Ascending) (p : Pattern) :
    Methods.Ascending (taken.methodsOf p) := by
  induction taken with
  | nil => exact List.Pairwise.nil
  | cons entry rest ih =>
      obtain ⟨q, methods⟩ := entry
      obtain ⟨hmethods, hrest⟩ := List.forall_mem_cons.1 h
      rw [Taken.methodsOf]
      split
      · exact hmethods
      · exact ih hrest

theorem Ascending.add (h : taken.Ascending) (p : Pattern) {methods : List String}
    (hmethods : Methods.Ascending methods) : (taken.add p methods).Ascending := by
  induction taken with
  | nil => simpa [Ascending, Taken.add] using hmethods
  | cons entry rest ih =>
      obtain ⟨q, held⟩ := entry
      obtain ⟨hheld, hrest⟩ := List.forall_mem_cons.1 h
      rw [Taken.add]
      split
      · exact List.forall_mem_cons.2 ⟨Methods.ascending_union hheld, hrest⟩
      · exact List.forall_mem_cons.2 ⟨hheld, ih hrest⟩

end Taken

/-- The methods of those of some routes that have a pattern, together. -/
def methodsFor (routes : List (Route α)) (p : Pattern) : List String :=
  Methods.ofList ((routes.filter fun r => r.pattern.same p).flatMap fun r => r.methods)

theorem mem_methodsFor {routes : List (Route α)} {p : Pattern} {m : String} :
    m ∈ methodsFor routes p ↔ ∃ r ∈ routes, r.pattern.same p = true ∧ m ∈ r.methods := by
  simp [methodsFor, and_assoc]

namespace Builder

variable {b b' : Builder α} {r : Route α} {cache : Cache} {d : Declaration α}
  {limit? : Option Int}

/-! ## How a registration ends -/

/-- There is no room for one more route. -/
def Full (b : Builder α) : Prop := ∃ limit, b.limit? = some limit ∧ limit ≤ b.size

/-- A route is refused for want of room, or is added, or is refused for the methods that it has in
common with routes of its pattern; in this order. -/
theorem add_cases (b : Builder α) (r : Route α) :
    (b.Full ∧ ∃ limit, b.add r = .error (.capped limit r.source none)) ∨
      (¬ b.Full ∧ b.overlap r = [] ∧ b.add r = .ok (b.push r)) ∨
      (¬ b.Full ∧ b.overlap r ≠ [] ∧ b.add r = .error (.ambiguous r.source (b.overlap r))) := by
  have htake : (b.overlap r = [] ∧ b.take r = .ok (b.push r)) ∨
      (b.overlap r ≠ [] ∧ b.take r = .error (.ambiguous r.source (b.overlap r))) := by
    by_cases h : b.overlap r = [] <;> simp [take, h]
  cases hlimit : b.limit? with
  | none =>
      have hfree : ¬ b.Full := by simp [Full, hlimit]
      have hadd : b.add r = b.take r := by simp [add, hlimit]
      rw [hadd]
      exact .inr (htake.imp (⟨hfree, ·⟩) (⟨hfree, ·⟩))
  | some limit =>
      by_cases hroom : (b.size : Int) < limit
      · have hfree : ¬ b.Full := by simp [Full, hlimit, hroom]
        have hadd : b.add r = b.take r := by simp [add, hlimit, hasRoom, hroom]
        rw [hadd]
        exact .inr (htake.imp (⟨hfree, ·⟩) (⟨hfree, ·⟩))
      · exact .inl ⟨⟨limit, hlimit, by omega⟩, limit, by simp [add, hlimit, hasRoom, hroom]⟩

/-- Where the methods are good and the pattern compiles, a registration adds the route of them. -/
theorem register_eq_add {methods : List String} {compiled : Compiled} {cache' : Cache}
    (hmethods : Methods.normalize d.methods = .ok methods)
    (hcompile : cache.compileRef d.pattern = (.ok compiled, cache')) (b : Builder α) :
    ∃ r : Route α, r.compiled = compiled ∧ r.methods = methods ∧
      (b.register cache d).1 = (b.add r).map fun b' => (r, b') := by
  refine ⟨⟨compiled, methods, d.payload, Methods.ascending_of_normalize hmethods⟩, rfl, rfl, ?_⟩
  unfold register
  split
  · next h =>
    rw [hmethods] at h
    cases h
  · next h =>
    obtain rfl := Except.ok.inj (h.symm.trans hmethods)
    rw [hcompile]

theorem normalize_ne_ambiguous (v : Value) (source : String) (names : List String) :
    Methods.normalize v ≠ .error (.ambiguous source names) := by
  intro h
  rcases Methods.normalize_eq_error h with hlisted | ⟨name, hname⟩ | hnone
  · unfold Methods.listed at hlisted
    split at hlisted <;> cases hlisted
  · cases hname
  · cases hnone

theorem compileRef_ne_ambiguous (cache : Cache) (ref : PatternRef) (source : String)
    (names : List String) : (cache.compileRef ref).1 ≠ .error (.ambiguous source names) := by
  intro h
  obtain ⟨source?, validateDefaults, -, hparse⟩ := Cache.compileRef_eq_error h
  rcases Pattern.parse?_eq_error hparse with ⟨-, verb, hverb⟩ | ⟨s, e, -, -, he⟩
  · cases hverb
  · cases he

/-- A registration is refused for common methods only once its methods have been read and its
pattern has been compiled. -/
theorem register_eq_ambiguous {source : String} {names : List String}
    (h : (b.register cache d).1 = .error (.ambiguous source names)) :
    ∃ r : Route α, Methods.normalize d.methods = .ok r.methods ∧
      (cache.compileRef d.pattern).1 = .ok r.compiled ∧ source = r.source ∧
      names = b.overlap r := by
  -- methods that are no methods, or a pattern that does not compile, fail otherwise
  cases hmethods : Methods.normalize d.methods with
  | error e =>
      have hfailed : (b.register cache d).1 = .error e := by
        unfold register
        split <;> simp_all
      obtain rfl := Except.error.inj (hfailed.symm.trans h)
      exact absurd hmethods (normalize_ne_ambiguous _ _ _)
  | ok methods =>
      rcases hcompile : cache.compileRef d.pattern with ⟨e | compiled, cache'⟩
      · have hfailed : (b.register cache d).1 = .error e := by
          unfold register
          split
          · simp_all
          · rw [hcompile]
        obtain rfl := Except.error.inj (hfailed.symm.trans h)
        exact absurd (congrArg Prod.fst hcompile) (compileRef_ne_ambiguous _ _ _ _)
      · obtain ⟨r, rfl, rfl, hadd⟩ := register_eq_add hmethods hcompile b
        rw [h] at hadd
        have hrefused := Outcome.map_eq_error.1 hadd.symm
        rcases b.add_cases r with ⟨-, limit, hcapped⟩ | ⟨-, -, hadded⟩ | ⟨-, -, hambiguous⟩
        · rw [hcapped] at hrefused
          cases hrefused
        · rw [hadded] at hrefused
          cases hrefused
        · rw [hambiguous] at hrefused
          cases hrefused
          exact ⟨r, rfl, rfl, rfl, rfl⟩

/-! ## Registrations one after the other -/

/-- The builder after a registration. One that fails leaves it as it was. -/
def after (b : Builder α) (cache : Cache) (d : Declaration α) : Builder α :=
  match (b.register cache d).1 with
  | .ok (_, b') => b'
  | .error _ => b

/-- `Called limit? answers b`: registrations, one after the other, answered `answers` and led from
an empty builder to `b`. Some of them may have failed, and the cache may be another one each
time. -/
inductive Called (limit? : Option Int) : List (Except Failure (Route α)) → Builder α → Prop
  | empty : Called limit? [] { limit? }
  | register {answers : List (Except Failure (Route α))} {b : Builder α}
      (before : Called limit? answers b) (cache : Cache) (d : Declaration α) :
      Called limit? (answers ++ [(b.register cache d).1.map Prod.fst]) (b.after cache d)

/-- The routes that were answered. -/
def answered (answers : List (Except Failure (Route α))) : List (Route α) :=
  answers.filterMap Except.toOption

theorem answered_concat (answers : List (Except Failure (Route α)))
    (answer : Except Failure (Route α)) :
    answered (answers ++ [answer]) = answered answers ++ answer.toOption.toList := by
  rw [answered, List.filterMap_append]
  cases answer <;> rfl

/-- What is left of registrations are those that succeeded. -/
theorem Called.built {answers : List (Except Failure (Route α))} (h : Called limit? answers b) :
    Built limit? (answered answers) b := by
  induction h with
  | empty => exact .empty
  | @register answers b _ cache d ih =>
      rw [answered_concat, after]
      rcases hd : b.register cache d with ⟨e | ⟨r, b'⟩, cache'⟩
      · rwa [Except.map, Except.toOption, Option.toList_none, List.append_nil]
      · exact ih.register hd

theorem Built.limit?_eq {routes : List (Route α)} (h : Built limit? routes b) :
    b.limit? = limit? := by
  induction h with
  | empty => rfl
  | register _ registered ih =>
      obtain ⟨-, -, -, hadd⟩ := register_eq_ok.1 registered
      obtain ⟨-, -, rfl⟩ := add_eq_ok.1 hadd
      exact ih

/-- The methods that are taken for a pattern are those of its routes. -/
theorem Built.methodsOf_eq {routes : List (Route α)} (h : Built limit? routes b) (p : Pattern) :
    b.taken.methodsOf p = methodsFor routes p := by
  have hascending : b.taken.Ascending := by
    induction h with
    | empty => exact fun _ hentry => nomatch hentry
    | @register routes b b' _ _ _ r before registered ih =>
        obtain ⟨-, -, -, hadd⟩ := register_eq_ok.1 registered
        obtain ⟨-, -, rfl⟩ := add_eq_ok.1 hadd
        exact ih.add r.pattern r.ascending
  -- two sets of methods are the same if they have the same members
  refine Methods.eq_of_mem_iff (hascending.methodsOf p) (Methods.ascending_ofList _) fun m => ?_
  rw [b.tracked, h.routes_eq]
  exact mem_methodsFor.symm

/-- There are no more routes than there may be. -/
theorem Built.size_le {routes : List (Route α)} (h : Built limit? routes b) {limit : Int}
    (hlimit : limit? = some limit) : (b.size : Int) ≤ max 0 limit := by
  induction h with
  | empty => exact le_max_left ..
  | @register _ b _ _ _ _ _ before registered _ =>
      obtain ⟨-, -, -, hadd⟩ := register_eq_ok.1 registered
      obtain ⟨hroom, -, rfl⟩ := add_eq_ok.1 hadd
      have hless : (b.size : Int) < limit := by
        simpa [hasRoom] using hroom limit (before.limit?_eq.trans hlimit)
      rw [size, push_routes, List.length_append, List.length_singleton]
      rw [size] at hless
      omega

/-! ## In a block -/

/-- A block that catches the failure of a registration goes on with the same builder. -/
theorem performSteps_attempt_error {s : Session α} {d : Draft α} {e : Failure}
    (h : (s.registerIn b d).1 = .error e) (rest : List (BlockStep α)) :
    s.performSteps b (.attempt d :: rest) =
      let (others, raised, b', s') := (s.registerIn b d).2.performSteps b rest
      (.failed e :: others, raised, b', s') := by
  rcases hd : s.registerIn b d with ⟨e' | ⟨r, b'⟩, s'⟩
  · rw [hd] at h
    obtain rfl := Except.error.inj h
    simp [Session.performSteps, Session.performStep, hd]
  · rw [hd] at h
    cases h

/-- The builder after a step of a block is that after a registration, or is the same. -/
theorem Called.performStep {answers : List (Except Failure (Route α))}
    (h : Called limit? answers b) (s : Session α) (step : BlockStep α) :
    ∃ more, Called limit? (answers ++ more) (s.performStep b step).2.1 := by
  have hsame : ∃ more, Called limit? (answers ++ more) b := ⟨[], by rwa [List.append_nil]⟩
  have hregister : ∀ d : Draft α, ∃ more, Called limit? (answers ++ more)
      (match (s.registerIn b d).1 with
        | .ok (_, b') => b'
        | .error _ => b) := by
    intro d
    unfold Session.registerIn
    cases hd : d.declaration with
    | error e => exact hsame
    | ok declaration => exact ⟨_, h.register s.registry.cache declaration⟩
  cases step with
  | register d =>
      have hd := hregister d
      unfold Session.performStep
      split <;> simp_all
  | attempt d =>
      have hd := hregister d
      unfold Session.performStep
      split <;> simp_all
  | size => exact hsame
  | raise message => exact hsame
  | op op => exact hsame

/-- So is the builder that a block ends with, however it ends. -/
theorem Called.performSteps {answers : List (Except Failure (Route α))}
    (h : Called limit? answers b) (s : Session α) (steps : List (BlockStep α)) :
    ∃ more, Called limit? (answers ++ more) (s.performSteps b steps).2.2.1 := by
  induction steps generalizing answers b s with
  | nil => exact ⟨[], by rwa [List.append_nil]⟩
  | cons step rest ih =>
      obtain ⟨more, hstep⟩ := h.performStep s step
      unfold Session.performSteps
      split
      · next hrun =>
        rw [hrun] at hstep
        exact ⟨more, hstep⟩
      · next hrun =>
        rw [hrun] at hstep
        obtain ⟨further, hrest⟩ := ih hstep _
        exact ⟨more ++ further, by rwa [← List.append_assoc]⟩

/-! ## All of it -/

/-- A route is refused exactly if there is no room or it has a method in common with a route of its
pattern. -/
theorem exists_add_eq_error_iff :
    (∃ e, b.add r = .error e) ↔
      b.Full ∨ ∃ held ∈ b.routes, held.pattern.same r.pattern = true ∧
        ¬ held.methods.Disjoint r.methods := by
  have hoverlap : (∃ held ∈ b.routes, held.pattern.same r.pattern = true ∧
      ¬ held.methods.Disjoint r.methods) ↔ b.overlap r ≠ [] := by
    rw [Ne, overlap_eq_nil_iff]
    simp [Route.Clashes, List.Disjoint]
  rw [hoverlap]
  rcases b.add_cases r with ⟨hfull, limit, hadd⟩ | ⟨hfree, hnone, hadd⟩ | ⟨hfree, hsome, hadd⟩
  · simp [hadd, hfull]
  · simp [hadd, hfree, hnone]
  · simp [hadd, hsome]

/-- What holds of a builder after registrations that answered `answers`. -/
structure InStep (limit? : Option Int) (answers : List (Except Failure (Route α)))
    (b : Builder α) : Prop where
  /-- It has the routes that were answered. -/
  routes : b.routes = answered answers
  /-- The methods that are taken for a pattern are those of the routes with the same pattern. -/
  taken : ∀ p, b.taken.methodsOf p = methodsFor (answered answers) p
  disjoint : (answered answers).Pairwise fun r q =>
    r.pattern.same q.pattern = true → r.methods.Disjoint q.methods
  /-- There are no more routes than there may be, and none if the limit is negative. -/
  fits : ∀ limit, limit? = some limit → (b.size : Int) ≤ max 0 limit
  /-- A registration with good methods and a pattern that compiles fails exactly if the limit is
  reached or a route with the same pattern has one of the methods. -/
  refused : ∀ (cache : Cache) (d : Declaration α) methods compiled,
    Methods.normalize d.methods = .ok methods → (cache.compileRef d.pattern).1 = .ok compiled →
    ((∃ e, (b.register cache d).1 = .error e) ↔
      (∃ limit, limit? = some limit ∧ limit ≤ b.size) ∨
        ∃ r ∈ answered answers, r.pattern.same compiled.pattern = true ∧
          ¬ r.methods.Disjoint methods)
  /-- One that is refused for common methods names all of them and no others. -/
  ambiguous : ∀ (cache : Cache) (d : Declaration α) source names,
    (b.register cache d).1 = .error (.ambiguous source names) →
    ∃ methods compiled, Methods.normalize d.methods = .ok methods ∧
      (cache.compileRef d.pattern).1 = .ok compiled ∧ source = compiled.pattern.source ∧
      names = Methods.inter (methodsFor (answered answers) compiled.pattern) methods
  /-- A registration that fails leaves the routes and the methods as they were. -/
  kept : ∀ (cache : Cache) (d : Declaration α) e,
    (b.register cache d).1 = .error e → b.after cache d = b
  /-- A block that catches a failure goes on with the builder as it was. -/
  caught : ∀ (s : Session α) (d : Draft α) e, (s.registerIn b d).1 = .error e → ∀ rest,
    s.performSteps b (.attempt d :: rest) =
      let (others, raised, b', s') := (s.registerIn b d).2.performSteps b rest
      (.failed e :: others, raised, b', s')
  /-- Whatever steps a block has, all of this holds of the builder that it ends with. -/
  block : ∀ (s : Session α) (steps : List (BlockStep α)), ∃ more,
    Called limit? (answers ++ more) (s.performSteps b steps).2.2.1

/-- **Routes and taken methods stay in step.** Let registrations, of which some may fail, lead from
an empty builder to another one. The methods that are taken in it for a pattern are those of the
registered routes with the same pattern, and no two of these have one in common; there are no more
routes than there may be. Where methods and pattern are good, one more registration fails exactly if
there is no room or a route with the same pattern has one of the methods, and tells which methods
these are. A registration that fails leaves nothing behind. -/
theorem registrations_in_step {answers : List (Except Failure (Route α))}
    (h : Called limit? answers b) : InStep limit? answers b where
  routes := h.built.routes_eq
  taken := h.built.methodsOf_eq
  disjoint := by
    refine h.built.apart.imp fun {r q} hfree hsame m hr hq => hfree ⟨hsame, m, hr, hq⟩
  fits _ hlimit := h.built.size_le hlimit
  refused cache d methods compiled hmethods hcompile := by
    obtain ⟨r, rfl, rfl, hadd⟩ := register_eq_add hmethods (Prod.ext hcompile rfl) b
    rw [hadd, ← h.built.limit?_eq, ← h.built.routes_eq]
    simp only [Outcome.map_eq_error]
    exact exists_add_eq_error_iff
  ambiguous cache d source names hrefused := by
    obtain ⟨r, hmethods, hcompile, rfl, rfl⟩ := register_eq_ambiguous hrefused
    refine ⟨r.methods, r.compiled, hmethods, hcompile, rfl, ?_⟩
    rw [overlap, h.built.methodsOf_eq]
    rfl
  kept cache d e hd := by rw [after, hd]
  caught s d e hd rest := performSteps_attempt_error hd rest
  block s steps := h.performSteps s steps

/-- With room for two routes, a registration that shares one of its two methods is refused, then the
other method alone is registered, and after that nothing more. -/
theorem registrations_in_step_caught :
    ∃ (answers : List (Except Failure (Route Nat))) (b : Builder Nat),
      Called (some 2) answers b ∧ InStep (some 2) answers b ∧ b.size = 2 ∧
      answers.map (fun
        | .ok r => ("registered", r.methods)
        | .error (.ambiguous _ names) => ("ambiguous", names)
        | .error (.capped ..) => ("capped", [])
        | .error _ => ("", [])) =
        [("registered", ["GET"]), ("ambiguous", ["GET"]), ("registered", ["POST"]),
          ("capped", [])] := by
  let cache : Cache := .ofOptions {}
  let declared (source : String) (methods : Value) : Declaration Nat :=
    ⟨.source (some source), methods, 0⟩
  have hnone : Called (some 2) [] ({ limit? := some 2 } : Builder Nat) := .empty
  have h := (((hnone.register cache
    (declared "/{a}" (.text "get"))).register cache
    (declared "/{a}" (.list [.text " get", .text "post"]))).register cache
    (declared "/{a}" (.text "Post"))).register cache
    (declared "/b" (.text "GET"))
  exact ⟨_, _, h, registrations_in_step h, by decide +kernel, by decide +kernel⟩

end Builder

end PathRouter
