import PathRouter.Diagnostic
import PathRouter.Regex.Fault

/-!
# What can be wrong with a template

The faults of a template and their wording. A fault is reported with the part of the template it
concerns, if that is known.
-/

set_option autoImplicit false

namespace PathRouter

open Text

/-- A fault of a template. -/
inductive TemplateFault where
  | unterminatedBrace
  | emptySpec
  | namelessSpec (spec : String)
  | badName (name : String)
  | emptyConstraint
  /-- A constraint that is refused, by itself or as it stands in `pattern`. -/
  | badConstraint (constraint : String) (pattern : List Char) (fault : Regex.Fault)
  | capturingConstraint (constraint : String)
  | unfitDefault (name default constraint : String)
  /-- A composed template whose expression `pattern` is refused. -/
  | badPattern (source : String) (pattern : List Char) (fault : Regex.Fault)
  | capturingPattern (source : String)
  deriving DecidableEq

namespace TemplateFault

/-- The wording of a fault. -/
def message : TemplateFault → String
  | .unterminatedBrace => "Unterminated '\x7b' in template"
  | .emptySpec => "Empty variable spec"
  | .namelessSpec spec => "Variable spec " ++ quoted spec ++ " has no name"
  | .badName name => "Invalid variable name " ++ quoted name
  | .emptyConstraint => "Empty constraint"
  | .badConstraint constraint pattern fault =>
    "Invalid constraint " ++ quoted constraint ++ ": " ++ fault.message pattern
  | .capturingConstraint constraint =>
    "Constraint " ++ quoted constraint ++ " contains capturing groups"
  | .unfitDefault name default constraint =>
    "Default " ++ quoted default ++ " of variable " ++ quoted name ++
      " does not satisfy constraint " ++ quoted constraint
  | .badPattern source pattern fault =>
    "Pattern " ++ quoted source ++ " does not compile: " ++ fault.message pattern
  | .capturingPattern source =>
    "Pattern " ++ quoted source ++ " has constraints with capturing groups"

/-- How a fault may be mended. -/
def suggestions : TemplateFault → List String
  | .emptySpec => ["Remove the extra ',' or name the variable"]
  | .badName _ =>
    ["Names start with a letter or '_' and contain letters, digits, '_', '.' or '-'"]
  | .emptyConstraint => ["Drop the ':' or give a regular expression after it"]
  | .capturingConstraint _ | .capturingPattern _ =>
    ["Use non-capturing groups '(?:...)' inside constraints"]
  | _ => []

end TemplateFault

/-- A fault with the template and the part of it that it concerns. -/
structure TemplateError where
  fault : TemplateFault
  span : Option Span := none
  source : Option String := none
  deriving DecidableEq

/-- The diagnostic of a fault. -/
def TemplateError.diagnostic (e : TemplateError) : Diagnostic :=
  { topic := .template
    message := e.fault.message
    span := e.span
    source := e.source
    suggestions := e.fault.suggestions }

/-- Why a template cannot be read: it has a fault, or a constraint exceeds a limit of the engine. -/
inductive ParseError where
  | fault (e : TemplateError)
  | excess (e : Regex.Excess)
  deriving DecidableEq

end PathRouter
