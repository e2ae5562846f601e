import PathRouter.Route.Basic

/-!
# Routes by method

An index lists, for every method that some route has, the routes of that method in the order in
which they were added. `routesOf_ofRoutes`: the index of a list of routes gives for a method exactly
the routes of the list that have it, in their order.
-/

set_option autoImplicit false

namespace PathRouter

/-- Methods with their routes, each method once, in the order of their first routes. -/
abbrev MethodIndex (α : Type) := List (String × List (Route α))

namespace MethodIndex

variable {α : Type}

/-- The routes of a method. -/
def routesOf (index : MethodIndex α) (method : String) : List (Route α) :=
  (index.lookup method).getD []

/-- All methods, in ascending order. -/
def methods (index : MethodIndex α) : List String := Methods.ofList (index.map Prod.fst)

/-- The index with one more route for a method. -/
def append (route : Route α) (index : MethodIndex α) (method : String) : MethodIndex α :=
  match index with
  | [] => [(method, [route])]
  | (m, routes) :: rest =>
    if m = method then (m, routes ++ [route]) :: rest
    else (m, routes) :: append route rest method

/-- The index with one more route, for each of its methods. -/
def add (index : MethodIndex α) (route : Route α) : MethodIndex α :=
  route.methods.foldl (append route) index

/-- The index of routes. -/
def ofRoutes (routes : List (Route α)) : MethodIndex α := routes.foldl add []

@[simp] theorem routesOf_nil (method : String) : routesOf ([] : MethodIndex α) method = [] := rfl

/-- A route added for a method is the last of that method and changes no other one. -/
theorem routesOf_append (route : Route α) (index : MethodIndex α) (added method : String) :
    (append route index added).routesOf method =
      if method = added then index.routesOf method ++ [route] else index.routesOf method := by
  induction index with
  | nil =>
      by_cases h : method = added
      · simp [append, routesOf, h]
      · have hb : (method == added) = false := by simp [h]
        simp [append, routesOf, List.lookup_cons, h, hb]
  | cons entry rest ih =>
      obtain ⟨m, routes⟩ := entry
      by_cases hm : m = added
      · subst hm
        by_cases h : method = m
        · simp [append, routesOf, h]
        · have hb : (method == m) = false := by simp [h]
          simp [append, routesOf, List.lookup_cons, h, hb]
      · by_cases h : method = m
        · subst h
          simp [append, routesOf, hm]
        · have hb : (method == m) = false := by simp [h]
          simpa [append, routesOf, List.lookup_cons, hm, hb] using ih

/-- A route added for several methods, none of them twice, is added once for each. -/
theorem routesOf_foldl_append (route : Route α) (index : MethodIndex α) (added : List String)
    (once : added.Nodup) (method : String) :
    (added.foldl (append route) index).routesOf method =
      index.routesOf method ++ if method ∈ added then [route] else [] := by
  induction added generalizing index with
  | nil => simp
  | cons m rest ih =>
      obtain ⟨fresh, once⟩ := List.nodup_cons.1 once
      rw [List.foldl_cons, ih _ once, routesOf_append]
      by_cases h : method = m
      · subst h
        simp [fresh]
      · simp [h]

theorem routesOf_add (index : MethodIndex α) (route : Route α) (method : String) :
    (index.add route).routesOf method =
      index.routesOf method ++ if method ∈ route.methods then [route] else [] :=
  routesOf_foldl_append route index route.methods route.ascending.nodup method

/-- The index of routes gives for a method the routes that have it, in their order. -/
theorem routesOf_ofRoutes (routes : List (Route α)) (method : String) :
    (ofRoutes routes).routesOf method = routes.filter (·.methods.contains method) := by
  have key : ∀ (routes : List (Route α)) (index : MethodIndex α),
      (routes.foldl add index).routesOf method =
        index.routesOf method ++ routes.filter (·.methods.contains method) := by
    intro routes
    induction routes with
    | nil => simp
    | cons r rest ih =>
        intro index
        rw [List.foldl_cons, ih, routesOf_add]
        by_cases h : method ∈ r.methods <;> simp [h]
  rw [ofRoutes, key]
  simp

end MethodIndex

end PathRouter
