import PathRouter.Template.Source

/-!
# Templates

A template is a source with its tokens. It is read from a source, or composed of tokens; the source
of a composed template is the concatenation of their spellings.
-/

set_option autoImplicit false

namespace PathRouter

/-- A source and its tokens. -/
structure Template where
  source : String
  tokens : List Token

namespace Template

/-- Reads a template. -/
def parse (source : String) (validateDefaults : Bool) : Except ParseError Template :=
  (Token.ofSource source validateDefaults).map fun tokens => { source, tokens }

/-- Composes a template of tokens. -/
def ofTokens (tokens : List Token) : Template :=
  { source := String.join (tokens.map Token.expression), tokens }

/-- The text of a template, where `value?` gives the values of names. -/
def expandWith (t : Template) (value? : String → Option String) : String :=
  String.join (t.tokens.map (·.expand value?))

/-- The text of a template with parameters. -/
def expand (t : Template) (parameters : Parameters) : String := t.expandWith parameters.get?

/-- The names of the variables, each once, in the order of their first occurrence. -/
def variableNames (t : Template) : List String :=
  (t.tokens.filterMap fun
    | .var v => some v.name
    | _ => none).eraseDups

/-- What identifies a template: its source, and the kinds and spellings of its tokens. -/
def key (t : Template) : String × List (TokenKind × String) :=
  (t.source, t.tokens.map Token.key)

/-- Whether two templates are the same. -/
def same (a b : Template) : Bool := a.key == b.key

/-- The number of literal characters of a template, slashes left out. -/
def score (t : Template) : Nat := totalScore (t.tokens.map Token.score)

/-- A template as messages show it. -/
def describe (t : Template) : String := "Template(" ++ Text.quoted t.source ++ ")"

end Template

end PathRouter
