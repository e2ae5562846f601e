import PathRouter.Config.Settings
import PathRouter.Registry.Event
import PathRouter.Route.Builder

/-!
# Registries

A registry has at most one live generation, which answers all look-ups. Routes are first registered
in a builder; a commit makes a generation of them and puts it in the place of the live one. Until
then, and whenever a registration fails, the live generation stays as it is.

Operations follow one another. That writers wait for each other is left out.
-/

set_option autoImplicit false

namespace PathRouter

/-- A registry of routes. -/
structure Registry (α : Type) where
  limits : Limits
  cache : Cache
  /-- The live generation. -/
  generation? : Option (Generation α) := none
  /-- The routes that are registered one by one and not committed yet. -/
  pending? : Option (Builder α) := none
  /-- The number of generations that have been committed. -/
  version : Int := 0
  /-- What has happened, the latest last. -/
  journal : List Event := []

/-- The options of the cache that a registry with these limits has of its own. -/
def Limits.cacheOptions (l : Limits) : CacheOptions where
  maxSize := l.cacheSize
  ttl? := l.cacheTtl?
  validateDefaults := l.validateDefaults

namespace Registry

variable {α : Type}

/-- A registry without routes. A cache that is given must agree with the limits on whether defaults
are validated. -/
def create (limits : Limits) (cache? : Option Cache) : Except Failure (Registry α) :=
  match cache? with
  | none => .ok { limits, cache := .ofOptions limits.cacheOptions }
  | some cache =>
    if cache.options.validateDefaults = limits.validateDefaults then .ok { limits, cache }
    else
      .error (.config (.fault
        (.mismatch cache.options.validateDefaults limits.validateDefaults)))

/-- A new registry has the limits that are given, and nothing has happened to it. -/
theorem new_of_create {limits : Limits} {cache? : Option Cache} {r : Registry α}
    (h : create limits cache? = .ok r) :
    r.limits = limits ∧ r.generation? = none ∧ r.pending? = none ∧ r.version = 0 := by
  unfold create at h
  split at h
  · obtain rfl := Except.ok.inj h
    exact ⟨rfl, rfl, rfl, rfl⟩
  · split at h
    · obtain rfl := Except.ok.inj h
      exact ⟨rfl, rfl, rfl, rfl⟩
    · cases h

/-- Records an event. -/
def record (r : Registry α) (e : Event) : Registry α := { r with journal := r.journal ++ [e] }

/-- An empty builder with the limits of a registry. -/
def builder (r : Registry α) : Builder α := { limit? := r.limits.maxPatterns? }

/-! ## Writing -/

/-- Puts the routes of a builder in the place of the live generation. -/
def publish (r : Registry α) (b : Builder α) : Generation α × Registry α :=
  let version := r.version + 1
  let generation := b.build version
  let unchanged := match r.generation? with
    | some previous => previous.fingerprint == generation.fingerprint
    | none => false
  (generation,
    { r with version, generation? := some generation }.record
      (.committed version generation.size unchanged))

@[simp] theorem publish_version (r : Registry α) (b : Builder α) :
    (r.publish b).2.version = r.version + 1 := rfl

@[simp] theorem publish_generation? (r : Registry α) (b : Builder α) :
    (r.publish b).2.generation? = some (b.build (r.version + 1)) := rfl

@[simp] theorem publish_fst (r : Registry α) (b : Builder α) :
    (r.publish b).1 = b.build (r.version + 1) := rfl

@[simp] theorem publish_pending? (r : Registry α) (b : Builder α) :
    (r.publish b).2.pending? = r.pending? := rfl

/-- Registers a route. The first registration begins a load; one that fails ends it, and all routes
that were pending are lost. -/
def register (r : Registry α) (d : Declaration α) : Except Failure (Route α) × Registry α :=
  match (r.pending?.getD r.builder).register r.cache d with
  | (.ok (route, b), cache) => (.ok route, { r with cache, pending? := some b })
  | (.error e, cache) =>
    (.error e, { r with cache, pending? := none }.record (.discarded d.pattern e))

/-- Registering a route changes neither the live generation nor the version. -/
theorem register_live (r : Registry α) (d : Declaration α) :
    (r.register d).2.generation? = r.generation? ∧ (r.register d).2.version = r.version := by
  unfold register
  split <;> exact ⟨rfl, rfl⟩

/-- Makes the pending routes, none if no load has begun, the live generation. -/
def commit (r : Registry α) : Generation α × Registry α :=
  let (generation, r) := r.publish (r.pending?.getD r.builder)
  (generation, { r with pending? := none })

/-- Drops the pending routes. -/
def rollback (r : Registry α) : Registry α :=
  match r.pending? with
  | some b => { r with pending? := none }.record (.rolledBack b.size)
  | none => r

/-- Drops the live generation. -/
def clear (r : Registry α) : Registry α := { r with generation? := none }.record .cleared

end Registry

/-- A failure as that of the declaration `index` of a load, if loads report it as such. -/
def Failure.atDeclaration (index : Nat) (source : Option String) (e : Failure) : Failure :=
  match e with
  | .capped limit source _ => .capped limit source (some index)
  | e => if e.isOfDeclaration then .declaration index source e else e

/-- The events that report the failure of a declaration. -/
def Failure.eventsAt (index : Nat) (source : Option String) (e : Failure) : List Event :=
  match e with
  | .capped .. => [.capped index e]
  | e => if e.isOfDeclaration then [.refused index source e] else []

namespace Registry

variable {α : Type}

/-- Makes declared routes, all of them or none, the live generation. -/
def load (r : Registry α) (declarations : List (Declaration α)) :
    Except Failure (Generation α) × Registry α :=
  match r.builder.registerAll r.cache 0 declarations with
  | (.ok b, cache) =>
    let (generation, r) := { r with cache }.publish b
    (.ok generation, r)
  | (.error (index, d, e), cache) =>
    (.error (e.atDeclaration index d.pattern.source?),
      { r with cache, journal := r.journal ++ e.eventsAt index d.pattern.source? })

/-! ## Reading -/

/-- The number of routes of the live generation. -/
def size (r : Registry α) : Nat := (r.generation?.map Generation.size).getD 0

/-- Where a path leads to for a method. -/
def find (r : Registry α) (path method : String) : Option (Resolution α) :=
  r.generation?.bind (·.find path method)

/-- The methods for which a path leads anywhere. -/
def allowedMethods (r : Registry α) (path : String) : List String :=
  (r.generation?.map (·.allowedMethods path)).getD []

/-- The patterns of the live generation. -/
def patterns (r : Registry α) (method? : Option String) : List Compiled :=
  (r.generation?.map (·.patterns method?)).getD []

/-- Whether a generation is live, as a word. -/
def stateName (r : Registry α) : String := if r.generation?.isSome then "loaded" else "empty"

/-- A registry as messages show it. -/
def describe (r : Registry α) : String :=
  "PatternRegistry(state=" ++ r.stateName ++ ", version=" ++ toString r.version ++
    ", routes=" ++ toString r.size ++ ")"

end Registry

end PathRouter
