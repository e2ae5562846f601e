import PathRouter.Route.Fingerprint
import PathRouter.Route.Index

/-!
# Generations

A generation is a numbered set of routes, held in the order in which they are tried: higher scores
first, equal scores by source. An index, made once, lists the routes of every method in this order.
A path is led to the first route of the asked method that matches it.
-/

set_option autoImplicit false

namespace PathRouter

open Text

/-- Routes in the order in which they are tried, and their index. -/
structure Generation (α : Type) where
  version : Int
  routes : List (Route α)
  byMethod : MethodIndex α
  ranked : routes.Pairwise fun a b => a.le b = true
  indexed : byMethod = .ofRoutes routes

/-- Where a path leads to. -/
structure Resolution (α : Type) where
  route : Route α
  parameters : Parameters
  method : String

namespace Generation

variable {α : Type}

/-- Sorted by rank, routes are in the order of their ranks. -/
theorem pairwise_mergeSort_le (routes : List (Route α)) :
    (routes.mergeSort Route.le).Pairwise fun a b => a.le b = true :=
  List.pairwise_mergeSort (fun a b c => rankLe_trans a.rank b.rank c.rank)
    (fun a b => rankLe_total a.rank b.rank) routes

/-- The generation of routes, ranked. -/
def ofRoutes (version : Int) (routes : List (Route α)) : Generation α :=
  let ranked := routes.mergeSort Route.le
  { version, routes := ranked, byMethod := .ofRoutes ranked
    ranked := pairwise_mergeSort_le routes, indexed := rfl }

/-- Ranking loses and repeats no route. -/
theorem perm_ofRoutes (version : Int) (routes : List (Route α)) :
    (ofRoutes version routes).routes.Perm routes :=
  List.mergeSort_perm ..

/-- The number of routes. -/
def size (g : Generation α) : Nat := g.routes.length

/-- All methods of all routes. -/
def methods (g : Generation α) : List String := g.byMethod.methods

/-- The fingerprint of the routes. -/
def fingerprint (g : Generation α) : String := PathRouter.fingerprint g.routes

/-- The routes of a method, which is in upper case. -/
def candidates (g : Generation α) (method : String) : List (Route α) := g.byMethod.routesOf method

/-- The routes of a method are those of all routes that have it, in the order of all. -/
theorem candidates_eq_filter (g : Generation α) (method : String) :
    g.candidates method = g.routes.filter (·.methods.contains method) := by
  rw [candidates, g.indexed, MethodIndex.routesOf_ofRoutes]

/-- The first of some routes that matches a path, with the values it gives, and the routes after
it. -/
def firstMatch (path : String) : List (Route α) → Option (Route α × Parameters × List (Route α))
  | [] => none
  | r :: rest =>
    match r.pattern.resolve path with
    | some parameters => some (r, parameters, rest)
    | none => firstMatch path rest

/-- Where a path leads to for a method. -/
def find (g : Generation α) (path method : String) : Option (Resolution α) :=
  (firstMatch path (g.candidates (upper method))).map fun (route, parameters, _) =>
    { route, parameters, method := upper method }

/-- The routes that match a path as well as the one that is found, with the same score. They come
right after it. -/
def ties (g : Generation α) (path method : String) : List (Route α) :=
  match firstMatch path (g.candidates (upper method)) with
  | none => []
  | some (winner, _, rest) =>
    (rest.takeWhile (·.score == winner.score)).filter (·.pattern.isMatch path)

/-- Adds the methods of a route that matches a path. One that could add nothing is not tried. -/
def addAllowed (path : String) (allowed : List String) (r : Route α) : List String :=
  if Methods.isSubset r.methods allowed then allowed
  else if r.pattern.isMatch path then Methods.union r.methods allowed
  else allowed

/-- The methods for which a path leads anywhere. -/
def allowedMethods (g : Generation α) (path : String) : List String :=
  g.routes.foldl (addAllowed path) []

/-- Drops patterns that occurred before. -/
def distinctFrom (seen : List Compiled) : List Compiled → List Compiled
  | [] => []
  | c :: rest =>
    if seen.any (·.pattern.same c.pattern) then distinctFrom seen rest
    else c :: distinctFrom (c :: seen) rest

/-- The patterns, each once, in the order in which they are tried; those of one method if it is
given. -/
def patterns (g : Generation α) (method? : Option String) : List Compiled :=
  let routes := match method? with
    | none => g.routes
    | some method => g.candidates (upper method)
  distinctFrom [] (routes.map (·.compiled))

/-- A generation as messages show it. -/
def describe (g : Generation α) : String :=
  "Generation(version=" ++ toString g.version ++ ", routes=" ++ toString g.size ++ ")"

end Generation

end PathRouter
