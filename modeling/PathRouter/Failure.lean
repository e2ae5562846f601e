import PathRouter.Pattern
import PathRouter.Config.Fault

/-!
# Failures

Everything that can go wrong, by its cause. `Failure.report` is the report that is displayed.
-/

set_option autoImplicit false

namespace PathRouter

open Text

/-- A failure, by its cause. -/
inductive Failure where
  | pattern (e : PatternError)
  /-- A template without a source; `verb` is what was to be done. -/
  | noSource (verb : String)
  /-- Something that is no token where a template is composed. -/
  | notToken (shown : String)
  /-- A token of a kind that does not exist. -/
  | unknownKind (kind : String)
  | invalidMethod (name : Value)
  | noMethod
  /-- Methods that are neither a name nor a list of names. -/
  | notIterable (kind : String)
  /-- A pattern that is registered already for some of the methods. -/
  | ambiguous (source : String) (methods : List String)
  /-- A route beyond the greatest number of routes, the declaration `index` of a load. -/
  | capped (limit : Int) (source : String) (index : Option Nat)
  /-- A declaration of a load that failed. -/
  | declaration (index : Nat) (source : Option String) (cause : Failure)
  | config (e : ConfigError)
  /-- A name that is not bound. -/
  | unbound (name : String)
  /-- An exception raised by a caller. -/
  | raised (message : String)

/-- The heading under which a limit of the expression engine is reported. -/
def excessName : Regex.Excess → String
  | .repetition | .codePoint => "OverflowError"
  | .digits _ | .alphabets => "ValueError"

/-- The report of an error of a pattern. -/
def PatternError.report : PatternError → Report
  | .parse (.fault e) => .diagnostic e.diagnostic
  | .parse (.excess e) => .other (excessName e) e.message
  | .unmatchable expression start source =>
    .diagnostic
      { topic := .unmatchable expression
        message := "Token " ++ quoted expression ++ " cannot be matched"
        span := some ⟨start, start + expression.length⟩
        source := some source
        suggestions := ["A wildcard '*' may only end a pattern"] }

/-- The report of an error of settings. -/
def ConfigError.report : ConfigError → Report
  | .fault f => .other "ConfigError" f.message
  | .unwritable =>
    .other "ValueError"
      ("Exceeds the limit (4300 digits) for integer string conversion; " ++
        "use sys.set_int_max_str_digits() to increase the limit")
  | .tooLarge => .other "OverflowError" "int too large to convert to float"
  | .incomparable operator kind =>
    .other "TypeError"
      (quoted operator ++ " not supported between instances of " ++ quoted kind ++ " and 'int'")

namespace Failure

/-- The report of a failure. -/
def report : Failure → Report
  | .pattern e => e.report
  | .noSource verb => .other "TypeError" ("Cannot " ++ verb)
  | .notToken shown => .other "TypeError" ("Not a template token: " ++ shown)
  | .unknownKind kind => .other "AssertionError" ("Unhandled token kind: " ++ quoted kind)
  | .invalidMethod name => .other "ValueError" ("Invalid HTTP method: " ++ name.shown)
  | .noMethod => .other "ValueError" "A route needs at least one HTTP method"
  | .notIterable kind => .other "TypeError" (quoted kind ++ " object is not iterable")
  | .ambiguous source methods =>
    .diagnostic
      { topic := .ambiguity source methods
        message := "Pattern " ++ quoted source ++ " is already registered for " ++
          ", ".intercalate (sortTexts methods)
        suggestions := ["Register each pattern at most once per method"] }
  | .capped limit source index =>
    .load ("Registry is capped at " ++ toString limit ++ " routes") (index.map Int.ofNat)
      (some source) [("max_patterns", .int limit)] none
  | .declaration index source cause =>
    .load ("Invalid declaration #" ++ toString index ++ ": " ++ cause.report.message)
      (some index) source [] (some cause.report)
  | .config e => e.report
  | .unbound name => .other "KeyError" (quoted name)
  | .raised message => .other "RuntimeError" message

/-- The message of a failure. -/
def message (f : Failure) : String := f.report.message

/-- Whether a load reports a failure as that of a declaration. Failures of the program that loads,
and limits of the expression engine that are no errors of value, are passed on as they are. -/
def isOfDeclaration : Failure → Bool
  | .pattern (.parse (.excess e)) => excessName e == "ValueError"
  | .pattern _ | .invalidMethod _ | .noMethod | .ambiguous .. => true
  | _ => false

end Failure

end PathRouter
