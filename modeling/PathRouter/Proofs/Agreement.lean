import PathRouter.Proofs.Listing
import PathRouter.Registry.Basic

set_option autoImplicit false

/-! # Look-up and allowed methods agree

Look-up goes through the index of a method and stops at the first route that matches. The allowed
methods are gathered from all routes, and a route is not even tried if its methods are all allowed
already. The two give the same answer, for a generation and for a registry, live or empty
(`Registry.answers_agree`).
-/

namespace PathRouter

open Text

variable {α : Type}

/-! ## Routes that are not tried -/

namespace Generation

/-- A route whose methods are allowed already adds nothing, whatever its pattern is. -/
theorem addAllowed_of_covered {path : String} {allowed : List String} {r : Route α}
    (h : ∀ m ∈ r.methods, m ∈ allowed) : addAllowed path allowed r = allowed :=
  if_pos (Methods.isSubset_iff.2 h)

/-- Another route with the same methods may stand in the place of a route that is not tried. -/
theorem foldl_addAllowed_of_covered {path : String} {before after : List (Route α)}
    {r other : Route α} (hcovered : ∀ m ∈ r.methods, ∃ s ∈ before, s.Answers path m)
    (hmethods : other.methods = r.methods) :
    (before ++ other :: after).foldl (addAllowed path) [] =
      (before ++ r :: after).foldl (addAllowed path) [] := by
  have hallowed : ∀ m ∈ r.methods, m ∈ before.foldl (addAllowed path) [] := fun m hm =>
    mem_foldl_addAllowed.2 (.inr (hcovered m hm))
  rw [List.foldl_append, List.foldl_append, List.foldl_cons, List.foldl_cons,
    addAllowed_of_covered hallowed, addAllowed_of_covered (hmethods ▸ hallowed)]

/-- The allowed methods are the union of the methods of the routes that match. -/
theorem allowedMethods_eq_ofList (g : Generation α) (path : String) :
    g.allowedMethods path =
      Methods.ofList ((g.routes.filter (·.pattern.isMatch path)).flatMap (·.methods)) := by
  refine Methods.eq_of_mem_iff (ascending_allowedMethods g path) (Methods.ascending_ofList _) ?_
  intro m
  rw [mem_allowedMethods, Methods.mem_ofList, List.mem_flatMap]
  constructor
  · rintro ⟨r, hr, hm, hmatch⟩
    exact ⟨r, List.mem_filter.2 ⟨hr, hmatch⟩, hm⟩
  · rintro ⟨r, hr, hm⟩
    obtain ⟨hr, hmatch⟩ := List.mem_filter.1 hr
    exact ⟨r, hr, hm, hmatch⟩

/-- A path leads somewhere for a method exactly if the method is allowed. -/
theorem isSome_find_iff (g : Generation α) (path method : String) :
    (g.find path method).isSome = true ↔ upper method ∈ g.allowedMethods path := by
  rw [Option.isSome_iff_ne_none, ne_eq, find_eq_none_iff, mem_allowedMethods]
  push Not
  rfl

end Generation

/-! ## Agreement -/

/-- What look-up finds for a path, by method, and the methods that are allowed for it agree with the
routes that there are, and with each other. -/
structure AnswersAgree (routes : List (Route α)) (path : String)
    (find : String → Option (Resolution α)) (allowed : List String) : Prop where
  found_iff : ∀ method, (find method).isSome = true ↔ upper method ∈ allowed
  /-- The allowed methods are the union of the methods of the routes that match. -/
  allowed_eq : allowed =
    Methods.ofList ((routes.filter (·.pattern.isMatch path)).flatMap (·.methods))
  /-- A route whose methods are all those of matching routes before it is not tried: the answer is
  the same for another route, with any pattern, in its place. -/
  covered : ∀ before r after, routes = before ++ r :: after →
    (∀ m ∈ r.methods, ∃ s ∈ before, s.Answers path m) →
      ∀ other : Route α, other.methods = r.methods →
        (before ++ other :: after).foldl (Generation.addAllowed path) [] = allowed

theorem Generation.answersAgree (g : Generation α) (path : String) :
    AnswersAgree g.routes path (g.find path) (g.allowedMethods path) where
  found_iff := g.isSome_find_iff path
  allowed_eq := g.allowedMethods_eq_ofList path
  covered before r after hroutes hcovered other hmethods := by
    rw [foldl_addAllowed_of_covered hcovered hmethods, ← hroutes]
    rfl

/-- Without routes, nothing is found and nothing is allowed. -/
theorem answersAgree_nil (path : String) :
    AnswersAgree ([] : List (Route α)) path (fun _ => none) [] where
  found_iff method := by simp
  allowed_eq := rfl
  covered before r after hroutes := by simp at hroutes

/-- **Look-up and allowed methods agree.** In every generation a path leads somewhere for a method
exactly if the method is allowed for it, and the methods allowed are those of the routes that match,
all of them, although routes that could add nothing are not tried. The same is true of every
registry, whatever has been done with it, and of the routes that are live in it; as long as there
are none, nothing is found and nothing is allowed. -/
theorem Registry.answers_agree :
    (∀ (g : Generation α) (path : String),
      AnswersAgree g.routes path (g.find path) (g.allowedMethods path)) ∧
    ∀ (r : Registry α) (path : String),
      AnswersAgree ((r.generation?.map (·.routes)).getD []) path (r.find path)
        (r.allowedMethods path) ∧
      (r.generation? = none →
        (∀ method, r.find path method = none) ∧ r.allowedMethods path = []) := by
  refine ⟨Generation.answersAgree, fun r path => ?_⟩
  unfold Registry.find Registry.allowedMethods
  cases r.generation? with
  | none => exact ⟨answersAgree_nil path, fun _ => ⟨fun _ => rfl, rfl⟩⟩
  | some g => exact ⟨g.answersAgree path, nofun⟩

end PathRouter
