import PathRouter.Failure

/-!
# Composing templates

A template may be composed of tokens. What a caller hands over need not be a token: it may claim a
kind that does not exist, or be something else altogether.
-/

set_option autoImplicit false

namespace PathRouter

/-- What a caller hands over as a token. -/
inductive TokenLike where
  | token (t : Token)
  /-- Something of a kind that no token has. -/
  | unknown (kind expression : String)
  /-- Something without a kind, as messages show it. -/
  | other (shown : String)

namespace TokenLike

/-- The token that was handed over. -/
def token? : TokenLike → Except Failure Token
  | .token t => .ok t
  | .unknown _ expression => .error (.notToken expression)
  | .other shown => .error (.notToken shown)

/-- Asks a token; one of an unknown kind has no answer. -/
def ask {α : Type} (question : Token → α) : TokenLike → Except Failure α
  | .token t => .ok (question t)
  | .unknown kind _ => .error (.unknownKind kind)
  | .other shown => .error (.notToken shown)

/-- The kind and the spelling. -/
def key : TokenLike → String × String
  | .token t => (t.kind.name, t.expression)
  | .unknown kind expression => (kind, expression)
  | .other shown => ("", shown)

/-- The score of a sequence. -/
def score (parts : List TokenLike) : Except Failure Nat :=
  (parts.mapM (ask Token.score)).map totalScore

end TokenLike

/-- Composes a template of what was handed over. -/
def Template.compose (parts : List TokenLike) : Except Failure Template :=
  (parts.mapM TokenLike.token?).map Template.ofTokens

/-- Reads the tokens of a source that may be missing. -/
def Token.ofSource? (source? : Option String) (validateDefaults : Bool) :
    Except Failure (List Token) :=
  match source? with
  | none => .error (.noSource "tokenize a null template")
  | some source =>
    match Token.ofSource source validateDefaults with
    | .error e => .error (.pattern (.parse e))
    | .ok tokens => .ok tokens

/-- Reads a template from a source that may be missing. -/
def Template.parse? (source? : Option String) (validateDefaults : Bool) :
    Except Failure Template :=
  match source? with
  | none => .error (.noSource "create a template from a null source")
  | some source =>
    match Template.parse source validateDefaults with
    | .error e => .error (.pattern (.parse e))
    | .ok t => .ok t

/-- Makes a pattern of a template. -/
def Template.toPattern (t : Template) : Except Failure Pattern :=
  match Pattern.ofTemplate t with
  | .error e => .error (.pattern e)
  | .ok p => .ok p

end PathRouter
