import PathRouter.Failure

/-!
# Compiled patterns

A compiled pattern carries the number of the compilation that made it: two of them with one number
are one and the same.
-/

set_option autoImplicit false

namespace PathRouter

/-- A pattern with the number of the compilation that made it. -/
structure Compiled where
  pattern : Pattern
  stamp : Nat

/-- Reads a pattern from a source that may be missing. -/
def Pattern.parse? (source? : Option String) (validateDefaults : Bool) : Except Failure Pattern :=
  match source? with
  | none => .error (.noSource "create a template from a null source")
  | some source =>
    match Pattern.parse source validateDefaults with
    | .error e => .error (.pattern e)
    | .ok p => .ok p

/-- A source that may be missing compiles exactly if it is there and compiles. -/
theorem Pattern.parse?_eq_ok {source? : Option String} {validateDefaults : Bool} {p : Pattern} :
    Pattern.parse? source? validateDefaults = .ok p ↔
      ∃ source, source? = some source ∧ Pattern.parse source validateDefaults = .ok p := by
  cases source? with
  | none => simp [parse?]
  | some source => cases h : Pattern.parse source validateDefaults <;> simp [parse?, h]

/-- A source that does not compile is missing, or is refused as a pattern. -/
theorem Pattern.parse?_eq_error {source? : Option String} {validateDefaults : Bool} {e : Failure}
    (h : Pattern.parse? source? validateDefaults = .error e) :
    (source? = none ∧ ∃ verb, e = .noSource verb) ∨
      ∃ source e', source? = some source ∧ Pattern.parse source validateDefaults = .error e' ∧
        e = .pattern e' := by
  unfold parse? at h
  split at h
  · exact .inl ⟨rfl, _, (Except.error.inj h).symm⟩
  · next source =>
    split at h
    · next e' hparse => exact .inr ⟨source, e', rfl, hparse, (Except.error.inj h).symm⟩
    · cases h

end PathRouter
