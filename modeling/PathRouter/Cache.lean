import PathRouter.Compiled
import PathRouter.Decimal.Nearest

/-!
# The pattern cache

A cache keeps compiled patterns by their sources, the least recently used first. It has a capacity,
beyond which the least recently used entry is evicted, and may have a time to live, after which an
entry is no longer served. The clock is a part of the state and moves only by `advance`.
-/

set_option autoImplicit false

namespace PathRouter

/-- Counts of what a cache has done. -/
structure Stats where
  hits : Int := 0
  misses : Int := 0
  evictions : Int := 0
  errors : Int := 0
  deriving DecidableEq, Inhabited

/-- The quotient of two integers as a double. -/
def ratio (num den : Int) : Float :=
  let bits := Decimal.nearestBits num.natAbs den.natAbs
  Decimal.ofMagnitude (num < 0 && 0 < bits) bits

/-- The part of the look-ups that were hits, zero if there were none. -/
def Stats.hitRate (s : Stats) : Float :=
  if 0 < s.hits + s.misses then ratio s.hits (s.hits + s.misses) else 0

/-- How a cache is set up. -/
structure CacheOptions where
  maxSize : Int := 1000
  ttl? : Option Float := none
  keepsStats : Bool := true
  validateDefaults : Bool := true

/-- An entry of a cache. -/
structure CacheEntry where
  key : String
  compiled : Compiled
  createdAt : Float
  accesses : Nat := 0

/-- A cache. Entries are held least recently used first. -/
structure Cache where
  options : CacheOptions
  /-- The capacity in force, which is zero while the cache is disabled. -/
  capacity : Int
  entries : List CacheEntry := []
  stats : Stats := {}
  now : Float := 0
  /-- The number of patterns made so far. -/
  issued : Nat := 0

namespace Cache

/-- An empty cache. -/
def ofOptions (options : CacheOptions) : Cache := { options, capacity := options.maxSize }

/-- The entry of a source. -/
def find? (c : Cache) (key : String) : Option CacheEntry := c.entries.find? (·.key == key)

/-- The sources, the least recently used first. -/
def keys (c : Cache) : List String := c.entries.map (·.key)

/-- Whether a source is cached. -/
def contains (c : Cache) (key : String) : Bool := (c.find? key).isSome

/-- The cache without the entry of a source. -/
def erase (c : Cache) (key : String) : Cache :=
  { c with entries := c.entries.filter (·.key != key) }

/-- The cache without entries. -/
def clear (c : Cache) : Cache := { c with entries := [] }

/-- Counts, if the cache keeps statistics. -/
def count (c : Cache) (change : Stats → Stats) : Cache :=
  if c.options.keepsStats then { c with stats := change c.stats } else c

/-- Sets all counts to zero. -/
def resetStats (c : Cache) : Cache := { c with stats := {} }

/-- Moves the clock. -/
def advance (c : Cache) (duration : Float) : Cache := { c with now := c.now + duration }

/-- Whether the time to live of an entry is over. -/
def isExpired (c : Cache) (e : CacheEntry) : Bool :=
  match c.options.ttl? with
  | none => false
  | some ttl => ttl < c.now - e.createdAt

/-- Looks up a source. An entry that is served becomes the most recently used; one whose time is
over is dropped. -/
def get (c : Cache) (key : String) : Option Compiled × Cache :=
  match c.find? key with
  | none => (none, c.count fun s => { s with misses := s.misses + 1 })
  | some e =>
    if c.isExpired e then
      (none, (c.erase key).count fun s =>
        { s with misses := s.misses + 1, evictions := s.evictions + 1 })
    else
      let served := { e with accesses := e.accesses + 1 }
      let c := { c with entries := (c.erase key).entries ++ [served] }
      (some e.compiled, c.count fun s => { s with hits := s.hits + 1 })

/-- Makes room for one more entry. -/
def evictOldest (c : Cache) : Cache :=
  { c with entries := c.entries.tail }.count fun s => { s with evictions := s.evictions + 1 }

/-- Stores a pattern as the most recently used, unless the capacity is zero or less. -/
def put (c : Cache) (key : String) (compiled : Compiled) : Cache :=
  if c.capacity ≤ 0 then c
  else
    let c := if c.capacity ≤ c.entries.length && !c.contains key then c.evictOldest else c
    { c with entries := (c.erase key).entries ++ [{ key, compiled, createdAt := c.now }] }

/-- Numbers a pattern that was made elsewhere. -/
def adopt (c : Cache) (pattern : Pattern) : Compiled × Cache :=
  ({ pattern, stamp := c.issued }, { c with issued := c.issued + 1 })

/-- Looks up a source that may be missing; a missing one is never cached. -/
def get? (c : Cache) : Option String → Option Compiled × Cache
  | some key => c.get key
  | none => (none, c.count fun s => { s with misses := s.misses + 1 })

/-- Compiles a source unless it is cached, and stores what was compiled. -/
def compile (c : Cache) (source? : Option String) : Except Failure Compiled × Cache :=
  match c.get? source? with
  | (some compiled, c) => (.ok compiled, c)
  | (none, c) =>
    match Pattern.parse? source? c.options.validateDefaults with
    | .error e => (.error e, c.count fun s => { s with errors := s.errors + 1 })
    | .ok pattern =>
      let (compiled, c) := c.adopt pattern
      (.ok compiled, c.put (source?.getD "") compiled)

/-- Drops the entry of a source, or all entries. -/
def invalidate (c : Cache) : Option String → Cache
  | some key => c.erase key
  | none => c.clear

/-- How often each cached source has been served, the least recently used first. -/
def accesses (c : Cache) : List (String × Nat) := c.entries.map fun e => (e.key, e.accesses)

/-! ## Sequences of operations -/

end Cache

/-- An operation on a cache. -/
inductive CacheOp where
  | compile (source? : Option String)
  | get (source? : Option String)
  /-- Makes a pattern and stores it. -/
  | put (key : String) (pattern : Except Failure Pattern)
  | invalidate (source? : Option String)
  | contains (source? : Option String)
  | resetStats
  | advance (duration : Float)
  | accesses
  /-- A block in which nothing new is cached. -/
  | disabled (ops : List CacheOp)

/-- What an operation on a cache answers. -/
inductive CacheAnswer where
  | done
  | compiled (c : Compiled)
  | nothing
  | holds (b : Bool)
  | accesses (counts : List (String × Nat))
  /-- The answers in a block up to the first failure, and that failure. -/
  | block (inner : List CacheAnswer) (raised : Option Failure)

namespace Cache

mutual

/-- Performs an operation. -/
def perform (c : Cache) : CacheOp → Except Failure CacheAnswer × Cache
  | .compile source? =>
    match c.compile source? with
    | (.ok compiled, c) => (.ok (.compiled compiled), c)
    | (.error e, c) => (.error e, c)
  | .get source? =>
    match c.get? source? with
    | (some compiled, c) => (.ok (.compiled compiled), c)
    | (none, c) => (.ok .nothing, c)
  | .put _ (.error e) => (.error e, c)
  | .put key (.ok pattern) =>
    let (compiled, c) := c.adopt pattern
    (.ok (.compiled compiled), c.put key compiled)
  | .invalidate source? => (.ok .done, c.invalidate source?)
  | .contains source? => (.ok (.holds (source?.any c.contains)), c)
  | .resetStats => (.ok .done, c.resetStats)
  | .advance duration => (.ok .done, c.advance duration)
  | .accesses => (.ok (.accesses c.accesses), c)
  | .disabled ops =>
    let capacity := c.capacity
    let (inner, raised, c) := performAll { c with capacity := 0 } ops
    (.ok (.block inner raised), { c with capacity })

/-- Performs operations up to the first that fails. -/
def performAll (c : Cache) : List CacheOp → List CacheAnswer × Option Failure × Cache
  | [] => ([], none, c)
  | op :: rest =>
    match perform c op with
    | (.error e, c) => ([], some e, c)
    | (.ok answer, c) =>
      let (answers, raised, c) := performAll c rest
      (answer :: answers, raised, c)

end

end Cache

end PathRouter
