import PathRouter.Template.Basic

/-!
# Patterns

A pattern is a template that paths can be matched with. Its expression has one capturing group for
every token, in the order of the tokens, so that the groups of a match can be read off against them.
-/

set_option autoImplicit false

namespace PathRouter

/-- Why a template is no pattern. -/
inductive PatternError where
  | parse (e : ParseError)
  /-- A token that cannot be matched where it stands, from `start` on in `source`. -/
  | unmatchable (expression : String) (start : Nat) (source : String)
  deriving DecidableEq

/-- A template with its compiled expression. -/
structure Pattern where
  template : Template
  program : Regex.Program

namespace Pattern

/-- Whether every token can take part in a match: a wildcard may only stand at the end. -/
def areMatchable : List Token → Bool
  | [] => true
  | [t] => t.isMatchable true
  | t :: rest => t.isMatchable false && areMatchable rest

/-- The first token that cannot be matched, with its place, where the first token of `tokens` stands
at `start`. -/
def firstUnmatchable (start : Nat) : List Token → Option (String × Nat)
  | [] => none
  | t :: rest =>
    if t.isMatchable rest.isEmpty then firstUnmatchable (start + t.expression.length) rest
    else some (t.expression, start)

/-- The expression of a sequence of tokens, with each token in a group of its own. -/
def expressionOf (tokens : List Token) : List Char :=
  tokens.flatMap fun t => '(' :: t.fragment.toList ++ [')']

/-- The modes in which patterns are matched: a dot matches every character. -/
def modes : Regex.Modes := { dotAll := true }

/-- Refuses a template for a fault of its expression. -/
def refuse {α : Type} (t : Template) (fault : TemplateFault) : Except PatternError α :=
  .error (.parse (.fault { fault, source := some t.source }))

/-- Makes a pattern of a template. -/
def ofTemplate (t : Template) : Except PatternError Pattern :=
  match firstUnmatchable 0 t.tokens with
  | some (expression, start) => .error (.unmatchable expression start t.source)
  | none =>
    let expression := expressionOf t.tokens
    match Regex.compile false modes expression with
    | .error (.excess e) => .error (.parse (.excess e))
    | .error (.fault f) => refuse t (.badPattern t.source expression f)
    | .ok program =>
      if program.groups = t.tokens.length then .ok { template := t, program }
      else refuse t (.capturingPattern t.source)

/-- Reads a pattern. -/
def parse (source : String) (validateDefaults : Bool) : Except PatternError Pattern :=
  match Template.parse source validateDefaults with
  | .error e => .error (.parse e)
  | .ok t => ofTemplate t

/-- Composes a pattern of tokens. -/
def ofTokens (tokens : List Token) : Except PatternError Pattern := ofTemplate (.ofTokens tokens)

/-- The source of a pattern. -/
def source (p : Pattern) : String := p.template.source

/-- The tokens of a pattern. -/
def tokens (p : Pattern) : List Token := p.template.tokens

/-- The expression of a pattern, as text. -/
def expression (p : Pattern) : String := String.ofList (expressionOf p.tokens)

/-- The score of a pattern: the more literal characters, the higher it ranks. -/
def score (p : Pattern) : Nat := p.template.score

/-- Whether two patterns are the same. -/
def same (a b : Pattern) : Bool := a.template.same b.template

/-- Two patterns are the same if their templates are identified by the same. -/
theorem same_iff {a b : Pattern} : a.same b = true ↔ a.template.key = b.template.key := by
  simp [same, Template.same]

/-- A pattern as messages show it. -/
def describe (p : Pattern) : String := "Pattern(" ++ Text.quoted p.source ++ ")"

/-- What the tokens have captured in a path, if the pattern matches all of it. A group that has
taken no part in the match has captured nothing. -/
def captures? (p : Pattern) (path : String) : Option (List String) :=
  (p.program.captures? path.toList).map
    (·.map fun captured => String.ofList (captured.getD []))

/-- Whether a pattern matches a path. -/
def isMatch (p : Pattern) (path : String) : Bool :=
  (Regex.fullMatch? p.program.regex path.toList).isSome

/-- Binds what a token has captured. A variable that has captured nothing is bound to its default,
if it has one. -/
def bind (bound : Parameters) : Token × String → Parameters
  | (.literal _, _) => bound
  | (.var v, captured) =>
    bound.insert v.name (if captured.isEmpty then v.default?.getD "" else captured)
  | (.wildcard _, captured) => bound.insert remainderName captured

/-- The values that a path gives to the variables, if the pattern matches the path. -/
def resolve (p : Pattern) (path : String) : Option Parameters :=
  (p.captures? path).map fun captured => (p.tokens.zip captured).foldl bind .empty

end Pattern

end PathRouter
