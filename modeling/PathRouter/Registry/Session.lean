import PathRouter.Registry.Basic

/-!
# Sessions

A session is a registry in use: a sequence of operations, among them blocks in which routes are
registered and other operations take place, and generations that are kept by a name to be asked
later.
-/

set_option autoImplicit false

namespace PathRouter

/-- A declaration whose pattern may turn out not to be one. -/
structure Draft (α : Type) where
  pattern : Except Failure PatternRef
  methods : Value
  payload : α

/-- The declaration of a draft. -/
def Draft.declaration {α : Type} (d : Draft α) : Except Failure (Declaration α) :=
  d.pattern.map fun pattern => { pattern, methods := d.methods, payload := d.payload }

/-- A question to a generation. -/
inductive Query where
  | find (path method : String)
  | allowed (path : String)
  | patterns (method? : Option String)
  | whole

mutual

/-- An operation on a registry. -/
inductive RegistryOp (α : Type) where
  | register (d : Draft α)
  | commit
  | rollback
  | clear
  | load (drafts : List (Draft α))
  /-- Loads only if no generation is live. -/
  | ensureLoaded (drafts : List (Draft α))
  /-- A block of steps; what they register becomes the live generation at its end. -/
  | loading (steps : List (BlockStep α))
  | ask (q : Query)
  | describe
  /-- Keeps the live generation by a name. -/
  | keep (name : String)
  /-- Asks a generation that was kept. -/
  | askKept (name : String) (q : Query)
  | cache (op : CacheOp)

/-- A step in a block. -/
inductive BlockStep (α : Type) where
  | register (d : Draft α)
  /-- Registers a route; a failure does not end the block. -/
  | attempt (d : Draft α)
  | size
  /-- Ends the block by a failure. -/
  | raise (message : String)
  /-- An operation on the registry; a failure does not end the block. -/
  | op (op : RegistryOp α)

end

/-- What an operation answers. -/
inductive Answer (α : Type) where
  | done
  | failed (e : Failure)
  | route (r : Route α)
  | generation (g? : Option (Generation α))
  | ensured (loaded : Bool) (g : Generation α)
  | block (answers : List (Answer α))
  | size (n : Nat)
  | resolution (r? : Option (Resolution α))
  | methods (names : List String)
  | patterns (ps : List Compiled)
  | text (s : String)
  | cache (answer : CacheAnswer) (c : Cache)
  | cacheFailed (e : Failure) (c : Cache)

/-- The answer that an outcome makes. -/
def Answer.ofExcept {α β : Type} (answer : β → Answer α) : Except Failure β → Answer α
  | .ok b => answer b
  | .error e => .failed e

/-- A registry in use. -/
structure Session (α : Type) where
  registry : Registry α
  kept : Bindings (Option (Generation α)) := .empty
  /-- Whether ties are reported. -/
  reportsTies : Bool := false

namespace Session

variable {α : Type}

/-- The session with another registry. -/
def on (s : Session α) (r : Registry α) : Session α := { s with registry := r }

/-- What a generation, if there is one, answers to a question. -/
def answer (g? : Option (Generation α)) : Query → Answer α
  | .find path method => .resolution (g?.bind (·.find path method))
  | .allowed path => .methods ((g?.map (·.allowedMethods path)).getD [])
  | .patterns method? => .patterns ((g?.map (·.patterns method?)).getD [])
  | .whole => .generation g?

/-- The ties that a question brings about, as events. -/
def tieEvents (g? : Option (Generation α)) : Query → List Event
  | .find path method =>
    match g? with
    | none => []
    | some g =>
      match g.find path method with
      | none => []
      | some r =>
        (g.ties path method).map fun other =>
          .tied r.method path r.route.source other.source r.route.score
  | _ => []

/-- Asks a generation. -/
def ask (s : Session α) (g? : Option (Generation α)) (q : Query) : Answer α × Session α :=
  let r := s.registry
  let events := if s.reportsTies then tieEvents g? q else []
  (answer g? q, s.on { r with journal := r.journal ++ events })

/-- Loads the declarations of drafts. Nothing is loaded if the pattern of one of them is none. -/
def load (s : Session α) (drafts : List (Draft α)) :
    Except Failure (Generation α) × Session α :=
  match drafts.mapM Draft.declaration with
  | .error e => (.error e, s)
  | .ok declarations =>
    let (result, r) := s.registry.load declarations
    (result, s.on r)

/-- Registers the route of a draft in a builder. -/
def registerIn (s : Session α) (b : Builder α) (d : Draft α) :
    Except Failure (Route α × Builder α) × Session α :=
  match d.declaration with
  | .error e => (.error e, s)
  | .ok declaration =>
    let r := s.registry
    let (result, cache) := b.register r.cache declaration
    (result, s.on { r with cache })

mutual

/-- Performs an operation. -/
def perform (s : Session α) : RegistryOp α → Answer α × Session α
  | .register d =>
    match d.declaration with
    | .error e => (.failed e, s)
    | .ok declaration =>
      let (result, r) := s.registry.register declaration
      (.ofExcept .route result, s.on r)
  | .commit =>
    let (generation, r) := s.registry.commit
    (.generation (some generation), s.on r)
  | .rollback => (.done, s.on s.registry.rollback)
  | .clear => (.done, s.on s.registry.clear)
  | .load drafts =>
    let (result, s) := s.load drafts
    (.ofExcept (fun g => .generation (some g)) result, s)
  | .ensureLoaded drafts =>
    match s.registry.generation? with
    | some g => (.ensured false g, s)
    | none =>
      let (result, s) := s.load drafts
      (.ofExcept (.ensured true) result, s)
  | .loading steps =>
    match performSteps s s.registry.builder steps with
    | (answers, none, b, s) => (.block answers, s.on (s.registry.publish b).2)
    | (_, some e, b, s) =>
      let r := s.registry
      (.failed e, s.on (r.record (.aborted b.size (r.generation?.map (·.version)))))
  | .ask q => s.ask s.registry.generation? q
  | .describe => (.text s.registry.describe, s)
  | .keep name => (.done, { s with kept := s.kept.insert name s.registry.generation? })
  | .askKept name q => s.ask ((s.kept.get? name).join) q
  | .cache op =>
    let r := s.registry
    match r.cache.perform op with
    | (.ok answer, cache) => (.cache answer cache, s.on { r with cache })
    | (.error e, cache) => (.cacheFailed e cache, s.on { r with cache })

/-- Performs the steps of a block up to the first failure that ends it. The result has the answers,
that failure, and the builder with what was registered. -/
def performSteps (s : Session α) (b : Builder α) :
    List (BlockStep α) → List (Answer α) × Option Failure × Builder α × Session α
  | [] => ([], none, b, s)
  | step :: rest =>
    match performStep s b step with
    | (.error e, b, s) => ([], some e, b, s)
    | (.ok answer, b, s) =>
      let (answers, raised, b, s) := performSteps s b rest
      (answer :: answers, raised, b, s)

/-- Performs a step of a block. -/
def performStep (s : Session α) (b : Builder α) :
    BlockStep α → Except Failure (Answer α) × Builder α × Session α
  | .register d =>
    match s.registerIn b d with
    | (.error e, s) => (.error e, b, s)
    | (.ok (route, b), s) => (.ok (.route route), b, s)
  | .attempt d =>
    match s.registerIn b d with
    | (.error e, s) => (.ok (.failed e), b, s)
    | (.ok (route, b), s) => (.ok (.route route), b, s)
  | .size => (.ok (.size b.size), b, s)
  | .raise message => (.error (.raised message), b, s)
  | .op op =>
    let (answer, s) := perform s op
    (.ok answer, b, s)

end

/-- Performs an operation, and tells the events that it brought about. -/
def step (s : Session α) (op : RegistryOp α) : Answer α × List Event × Session α :=
  let r := s.registry
  let (answer, s) := (s.on { r with journal := [] }).perform op
  (answer, s.registry.journal, s)

end Session

end PathRouter
