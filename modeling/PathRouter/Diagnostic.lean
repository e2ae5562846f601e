import PathRouter.Value
import PathRouter.Text.Order
import PathRouter.Text.Trim

/-!
# Reports

How errors are displayed. A `Diagnostic` speaks about a template or a route; it may point at a part
of a template and suggest what to do. A `Report` is a diagnostic, the failure of a load with what
caused it, or any other error.
-/

set_option autoImplicit false

namespace PathRouter

open Text

/-- A part of a template, from `start` up to but not including `stop`, counted in characters. -/
structure Span where
  start : Int
  stop : Int
  deriving DecidableEq, Inhabited

/-- A span without its source. -/
def Span.describe (s : Span) : String := "pos " ++ toString s.start ++ "-" ++ toString s.stop

/-- What a diagnostic is about. -/
inductive Topic where
  | general
  | template
  /-- An expression that cannot be matched. -/
  | unmatchable (expression : String)
  /-- A pattern that is registered twice for the same methods. -/
  | ambiguity (pattern : String) (methods : List String)
  deriving DecidableEq

/-- The heading of a diagnostic. -/
def Topic.name : Topic → String
  | .general => "PatternDiagnostic"
  | .template => "TemplateSyntaxError"
  | .unmatchable _ => "InvalidPatternError"
  | .ambiguity .. => "RouteAmbiguityError"

/-- An error about a template or a route. -/
structure Diagnostic where
  topic : Topic
  message : String
  span : Option Span := none
  source : Option String := none
  suggestions : List String := []
  deriving DecidableEq

namespace Diagnostic

/-- The numbered suggestions, under a heading of their own. -/
def suggestionLines (suggestions : List String) : List String :=
  if suggestions.isEmpty then []
  else "\nSuggestions:" ::
    suggestions.zipIdx.map fun (s, i) => "  " ++ toString (i + 1) ++ ") " ++ s

/-- A line of carets under the part of the source that a span covers, at least one caret. -/
def caretLine (s : Span) : String :=
  String.ofList (List.replicate (6 + s.start.toNat) ' ' ++
    List.replicate (max (s.stop - s.start) 1).toNat '^')

/-- The lines that say where the error is. -/
def placeLines (d : Diagnostic) : List String :=
  match d.source, d.span with
  | some source, some span => ["  --> " ++ source, caretLine span]
  | some source, none => ["  --> " ++ source]
  | none, some span => ["  --> " ++ span.describe]
  | none, none => []

/-- A diagnostic as it is displayed. -/
def format (d : Diagnostic) : String :=
  let heading := d.topic.name ++ ": " ++ d.message
  let place := match d.topic with
    | .ambiguity pattern methods =>
      ["  Pattern: " ++ pattern, "  Methods: " ++ ", ".intercalate (sortTexts methods)]
    | _ => d.placeLines
  "\n".intercalate (heading :: place ++ suggestionLines d.suggestions)

end Diagnostic

/-- An error as it is displayed. -/
inductive Report where
  | diagnostic (d : Diagnostic)
  /-- The failure of a load, at the declaration `index` for the source `pattern` if these are
  known. -/
  | load (message : String) (index : Option Int) (pattern : Option String)
    (details : List (String × Value)) (cause : Option Report)
  | other (name message : String)
  deriving Inhabited

namespace Report

/-- The heading of a report. -/
def name : Report → String
  | .diagnostic d => d.topic.name
  | .load .. => "RegistryLoadError"
  | .other name _ => name

/-- The message of a report. -/
def message : Report → String
  | .diagnostic d => d.message
  | .load message .. => message
  | .other _ message => message

/-- The lines that tell the cause of a failed load. -/
def causeLines : Option Report → List String
  | none => []
  | some (.diagnostic d) => "" :: (lines d.format).map ("   " ++ ·)
  | some cause => ["   caused by " ++ cause.name ++ ": " ++ cause.message]

/-- The lines that list the details of a failed load. -/
def detailLines (details : List (String × Value)) : List String :=
  if details.isEmpty then []
  else "\n   Details:" :: details.map fun (key, v) => "     " ++ key ++ ": " ++ v.printed

/-- The line that tells which declaration failed. -/
def declarationLines : Option Int → Option String → List String
  | none, _ => []
  | some index, pattern =>
    ["   at declaration #" ++ toString index ++ ": " ++ (pattern.map quoted).getD "None"]

/-- A report as it is displayed. -/
def format : Report → String
  | .diagnostic d => d.format
  | .load message index pattern details cause =>
    "\n".intercalate (("RegistryLoadError: " ++ message) ::
      declarationLines index pattern ++ causeLines cause ++ detailLines details)
  | .other name message => name ++ ": " ++ message

end Report

end PathRouter
