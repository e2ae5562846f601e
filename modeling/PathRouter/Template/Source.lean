import PathRouter.Template.Spec
import PathRouter.Template.Token

/-!
# From a source to tokens

A source is cut into texts and expansions: an expansion is an opening brace, characters other than
braces, and a closing brace. Texts become literals, the specs of an expansion become variables with
a literal comma between two of them, and an asterisk at the very end becomes a wildcard.
-/

set_option autoImplicit false

namespace PathRouter

/-- A piece of a source. -/
inductive Segment where
  | text (cs : List Char)
  | expansion (body : List Char)
  deriving DecidableEq

namespace Segment

/-- A text as segments: none if it is empty. -/
def ofText (cs : List Char) : List Segment := if cs.isEmpty then [] else [.text cs]

/-- The segments of a source from some place on. `text` holds the characters of the text begun and
`body?` those after an opening brace that may begin an expansion, both latest first. -/
def segmentsFrom (text : List Char) (body? : Option (List Char)) : List Char → List Segment
  | [] =>
    match body? with
    | none => ofText text.reverse
    | some body => ofText (body ++ '\x7b' :: text).reverse
  | c :: rest =>
    match body? with
    | none =>
      if c = '\x7b' then segmentsFrom text (some []) rest else segmentsFrom (c :: text) none rest
    | some body =>
      if c = '\x7d' then
        ofText text.reverse ++ .expansion body.reverse :: segmentsFrom [] none rest
      else if c = '\x7b' then segmentsFrom (body ++ '\x7b' :: text) (some []) rest
      else segmentsFrom text (some (c :: body)) rest

/-- The segments of a source. -/
def ofSource (cs : List Char) : List Segment := segmentsFrom [] none cs

/-- The number of characters of a segment. -/
def width : Segment → Nat
  | .text cs => cs.length
  | .expansion body => body.length + 2

/-- A segment as it is spelt. -/
def chars : Segment → List Char
  | .text cs => cs
  | .expansion body => '\x7b' :: body ++ ['\x7d']

theorem flatMap_chars_ofText (cs : List Char) : (ofText cs).flatMap chars = cs := by
  cases cs <;> simp [ofText, chars]

/-- The segments spell what has been read and what is to come. -/
theorem flatMap_chars_segmentsFrom (text : List Char) (body? : Option (List Char))
    (cs : List Char) :
    (segmentsFrom text body? cs).flatMap chars =
      text.reverse ++ (body?.map fun body => '\x7b' :: body.reverse).getD [] ++ cs := by
  induction cs generalizing text body? with
  | nil => cases body? <;> simp [segmentsFrom, flatMap_chars_ofText]
  | cons c rest ih =>
    cases body? with
    | none =>
      rw [segmentsFrom]
      split
      · next h => simp [ih, h]
      · simp [ih]
    | some body =>
      rw [segmentsFrom]
      split
      · next h => simp [ih, h, flatMap_chars_ofText, chars]
      · split
        · next h => simp [ih, h]
        · simp [ih]

/-- The segments of a source spell the source. -/
theorem flatMap_chars_ofSource (cs : List Char) : (ofSource cs).flatMap chars = cs := by
  simp [ofSource, flatMap_chars_segmentsFrom]

end Segment

namespace Token

/-- The literal of a text that begins at `start`. An opening brace in it has no closing one. -/
def ofText (source : String) (start : Nat) (cs : List Char) : Except ParseError Token :=
  match cs.findIdx? (· == '\x7b') with
  | some i =>
    .error (.fault
      { fault := .unterminatedBrace
        span := some ⟨start + i, start + cs.length⟩
        source := some source })
  | none => .ok (.literal (String.ofList cs))

/-- The tokens of the text that ends a source. -/
def ofLastText (source : String) (start : Nat) (cs : List Char) :
    Except ParseError (List Token) :=
  if cs.getLast? == some '*' then
    if cs.length = 1 then .ok [.wildcard wildcardText]
    else (ofText source start cs.dropLast).map fun t => [t, .wildcard wildcardText]
  else (ofText source start cs).map fun t => [t]

/-- The variables of specs with a literal comma between two of them. `lead` is what stands before
the first spelling, and a closing brace stands after the last. -/
def ofSpecs (lead : String) : List (VarSpec × List Char) → List Token
  | [] => []
  | [(s, piece)] =>
    [.var { name := s.name, default? := s.default?, constraint? := s.constraint?
            expression := lead ++ String.ofList piece ++ "\x7d" }]
  | (s, piece) :: rest =>
    .var { name := s.name, default? := s.default?, constraint? := s.constraint?
           expression := lead ++ String.ofList piece } ::
      .literal "," :: ofSpecs "" rest

/-- The tokens of an expansion that begins at `start`. -/
def ofExpansion (source : String) (validateDefaults : Bool) (start : Nat) (body : List Char) :
    Except ParseError (List Token) :=
  (VarSpec.parseBody { source? := some source, offset := start + 1, validateDefaults } body).map
    fun specs => ofSpecs "\x7b" (specs.zip (splitAt ',' body))

/-- The tokens of a segment that begins at `start` and does not end a source as a text. -/
def ofSegment (source : String) (validateDefaults : Bool) (start : Nat) :
    Segment → Except ParseError (List Token)
  | .text cs => (ofText source start cs).map fun t => [t]
  | .expansion body => ofExpansion source validateDefaults start body

/-- The tokens of segments, the first of which begins at `start`. -/
def ofSegments (source : String) (validateDefaults : Bool) (start : Nat) :
    List Segment → Except ParseError (List Token)
  | [] => .ok []
  | [.text cs] => ofLastText source start cs
  | segment :: rest => do
    let first ← ofSegment source validateDefaults start segment
    let further ← ofSegments source validateDefaults (start + segment.width) rest
    return first ++ further

/-- The tokens of a source. -/
def ofSource (source : String) (validateDefaults : Bool) : Except ParseError (List Token) :=
  ofSegments source validateDefaults 0 (Segment.ofSource source.toList)

end Token

end PathRouter
