import PathRouter.Parameters
import PathRouter.Regex.Escape

/-!
# Tokens

A template is a sequence of tokens: literal text, variables, and a wildcard for the remainder of a
path. A token knows its spelling, what it expands to, the expression it is matched by, and what it
adds to the score of a pattern.
-/

set_option autoImplicit false

namespace PathRouter

/-- The three kinds of tokens. -/
inductive TokenKind where
  | literal
  | var
  | wildcard
  deriving DecidableEq

/-- The name of a kind. -/
def TokenKind.name : TokenKind → String
  | .literal => "literal"
  | .var => "variable"
  | .wildcard => "wildcard"

/-- A variable, with a default and a constraint if it has them. `expression` is its spelling in the
template, with the braces that belong to it. -/
structure Variable where
  name : String
  default? : Option String := none
  constraint? : Option String := none
  expression : String
  deriving DecidableEq

/-- The spelling of a variable between its braces: `name=default:constraint`. -/
def Variable.body (name : String) (default? constraint? : Option String) : String :=
  name ++ (default?.map ("=" ++ ·)).getD "" ++ (constraint?.map (":" ++ ·)).getD ""

/-- A variable with an expansion of its own. -/
def Variable.spelled (name : String) (default? constraint? : Option String) : Variable :=
  { name, default?, constraint?
    expression := "\x7b" ++ Variable.body name default? constraint? ++ "\x7d" }

/-- A part of a template. -/
inductive Token where
  | literal (text : String)
  | var (v : Variable)
  | wildcard (expression : String)
  deriving DecidableEq

/-- The name under which the remainder of a path is bound. -/
def remainderName : String := "*"

/-- The spelling of a wildcard. -/
def wildcardText : String := "*"

namespace Token

/-- The kind of a token. -/
def kind : Token → TokenKind
  | .literal _ => .literal
  | .var _ => .var
  | .wildcard _ => .wildcard

/-- The spelling of a token. -/
def expression : Token → String
  | .literal text => text
  | .var v => v.expression
  | .wildcard expression => expression

/-- What identifies a token: its kind and its spelling. -/
def key (t : Token) : TokenKind × String := (t.kind, t.expression)

/-- The text of a token, where `value?` gives the values of names. A variable without a value has
its default or is empty. -/
def expand (value? : String → Option String) : Token → String
  | .literal text => text
  | .var v => ((value? v.name).or v.default?).getD ""
  | .wildcard _ => (value? remainderName).getD ""

/-- Whether a token can take part in a match: a wildcard only if it is `last`. -/
def isMatchable (last : Bool) : Token → Bool
  | .literal _ | .var _ => true
  | .wildcard _ => last

/-- What a variable without a constraint matches: one or more characters, none of them a slash. -/
def segmentFragment : String := "[^/]+"

/-- What a wildcard matches: anything. -/
def remainderFragment : String := ".*"

/-- The expression that a token is matched by. -/
def fragment : Token → String
  | .literal text => String.ofList (Regex.literal text.toList)
  | .var v => v.constraint?.getD segmentFragment
  | .wildcard _ => remainderFragment

/-- The number of characters of a text that are no slashes. -/
def literalWeight (text : String) : Nat := (text.toList.filter (· != '/')).length

/-- What a token adds to a score. -/
def score : Token → Nat
  | .literal text => literalWeight text
  | .var _ | .wildcard _ => 0

end Token

/-- The sum of scores. -/
def totalScore (scores : List Nat) : Nat := scores.foldr (· + ·) 0

end PathRouter
