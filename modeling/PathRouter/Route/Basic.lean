import PathRouter.Compiled
import PathRouter.Route.Methods
import PathRouter.Route.Rank

/-!
# Routes

A route leads the paths that a pattern matches, asked for with one of its methods, to a payload.
What the payload is does not matter here. A route is declared with the source of a pattern or with
a pattern that is made already.
-/

set_option autoImplicit false

namespace PathRouter

/-- The pattern of a declaration. -/
inductive PatternRef where
  | source (source? : Option String)
  | made (p : Pattern)

/-- The source that a declaration names. -/
def PatternRef.source? : PatternRef → Option String
  | .source source? => source?
  | .made p => some p.source

/-- The pattern of a declaration as messages show it. -/
def PatternRef.describe : PatternRef → String
  | .source source? => (source?.map Text.quoted).getD "None"
  | .made p => p.describe

/-- The pattern of a declaration. -/
def PatternRef.pattern (validateDefaults : Bool) : PatternRef → Except Failure Pattern
  | .source source? => Pattern.parse? source? validateDefaults
  | .made p => .ok p

/-- What is declared about a route. -/
structure Declaration (α : Type) where
  pattern : PatternRef
  methods : Value
  payload : α

/-- A route. Its methods are a set: ascending, without repetitions. -/
structure Route (α : Type) where
  compiled : Compiled
  methods : List String
  payload : α
  ascending : Methods.Ascending methods

namespace Route

variable {α : Type}

/-- The pattern of a route. -/
def pattern (r : Route α) : Pattern := r.compiled.pattern

/-- The source of the pattern of a route. -/
def source (r : Route α) : String := r.pattern.source

/-- The score of the pattern of a route. -/
def score (r : Route α) : Nat := r.pattern.score

/-- Whether a route has the pattern of another one and shares a method with it. -/
def Clashes (r other : Route α) : Prop :=
  other.pattern.same r.pattern = true ∧ ∃ m, m ∈ other.methods ∧ m ∈ r.methods

/-- What decides on the rank of a route. -/
def rank (r : Route α) : String × Int := (r.source, r.score)

/-- The order in which routes are tried. -/
def le (a b : Route α) : Bool := rankLe a.rank b.rank

end Route

end PathRouter
