import PathRouter.Cache

/-!
# The shared cache

A cache that all share who do not bring their own. It comes into being when it is first needed, and
may be replaced or dropped. The clock and the numbering of patterns go on across the caches.
-/

set_option autoImplicit false

namespace PathRouter

/-- The shared cache, or what is left of the one that was dropped last. -/
structure SharedCache where
  /-- The cache in use, if there is one. -/
  current? : Option Cache := none
  /-- The cache whose clock and numbering the next one continues. -/
  last : Cache := .ofOptions {}

/-- An operation on the shared cache. -/
inductive SharedOp where
  /-- Compiles a source, through the shared cache or by itself. -/
  | compile (source? : Option String) (shared : Bool)
  /-- Replaces the shared cache by an empty one, or drops it. -/
  | install (options? : Option CacheOptions)
  | op (op : CacheOp)

namespace SharedCache

/-- An empty cache that continues the clock and the numbering of another. -/
def renew (last : Cache) (options : CacheOptions) : Cache :=
  { Cache.ofOptions options with now := last.now, issued := last.issued }

/-- The cache in use, or a new one. -/
def obtain (s : SharedCache) : Cache := s.current?.getD (renew s.last {})

/-- Takes a cache into use. -/
def use (c : Cache) : SharedCache := { current? := some c, last := c }

/-- The cache whose clock and numbering are in force. -/
def clock (s : SharedCache) : Cache := s.current?.getD s.last

/-- Continues the numbering and the clock of another cache. -/
def follow (s : SharedCache) (c : Cache) : SharedCache where
  current? := s.current?.map fun current => { current with now := c.now, issued := c.issued }
  last := c

/-- Performs an operation. -/
def perform (s : SharedCache) : SharedOp → Except Failure CacheAnswer × SharedCache
  | .compile source? true =>
    let (result, c) := s.obtain.perform (.compile source?)
    (result, use c)
  | .compile source? false =>
    match Pattern.parse? source? true with
    | .error e => (.error e, s)
    | .ok pattern =>
      let (compiled, c) := s.clock.adopt pattern
      (.ok (.compiled compiled), s.follow c)
  | .install none => (.ok .done, { current? := none, last := s.clock })
  | .install (some options) => (.ok .done, use (renew s.clock options))
  | .op op =>
    let (result, c) := s.obtain.perform op
    (result, use c)

end SharedCache

end PathRouter
