import PathRouter.Template.Fault
import PathRouter.Regex.Matcher

/-!
# Variable specs

The body of an expansion is a list of specs, separated by commas. A spec is one of

    name    name=default    name=default:constraint    name:constraint

where the first `=` or `:` decides the form. A constraint is a regular expression without capturing
groups; it is checked as it will stand in a pattern, in a group after other text, and by itself.
-/

set_option autoImplicit false

namespace PathRouter

/-- The parts of `cs` between the separators. -/
def splitAt (separator : Char) : List Char → List (List Char)
  | [] => [[]]
  | c :: rest =>
    if c = separator then [] :: splitAt separator rest
    else match splitAt separator rest with
      | piece :: pieces => (c :: piece) :: pieces
      | [] => [[c]]

theorem splitAt_ne_nil (separator : Char) (cs : List Char) : splitAt separator cs ≠ [] := by
  cases cs with
  | nil => simp [splitAt]
  | cons c rest =>
    rw [splitAt]
    split
    · simp
    · split <;> simp

/-- The parts with separators between them are the whole. -/
theorem intercalate_splitAt (separator : Char) (cs : List Char) :
    [separator].intercalate (splitAt separator cs) = cs := by
  induction cs with
  | nil => simp [splitAt]
  | cons c rest ih =>
    have shape := splitAt_ne_nil separator rest
    rw [splitAt]
    split
    · next h =>
      cases hs : splitAt separator rest with
      | nil => exact absurd hs shape
      | cons piece pieces =>
        rw [hs] at ih
        simp [List.intercalate, h, ← ih]
    · cases hs : splitAt separator rest with
      | nil => exact absurd hs shape
      | cons piece pieces =>
        rw [hs] at ih
        cases pieces <;> simp_all [List.intercalate]

/-- No part holds a separator. -/
theorem not_mem_of_mem_splitAt {separator : Char} {cs piece : List Char}
    (h : piece ∈ splitAt separator cs) : separator ∉ piece := by
  induction cs generalizing piece with
  | nil => simp_all [splitAt]
  | cons c rest ih =>
    rw [splitAt] at h
    split at h
    · rcases List.mem_cons.1 h with rfl | h
      · simp
      · exact ih h
    · next different =>
      cases hs : splitAt separator rest with
      | nil => exact absurd hs (splitAt_ne_nil separator rest)
      | cons first others =>
        rw [hs] at h ih
        rcases List.mem_cons.1 h with rfl | h
        · have := ih (List.mem_cons_self ..)
          simp [this, Ne.symm different]
        · exact ih (List.mem_cons_of_mem _ h)

/-- A variable as it is specified in an expansion, with its place in the body. -/
structure VarSpec where
  name : String
  default? : Option String
  constraint? : Option String
  start : Int
  stop : Int
  deriving DecidableEq

/-- Where the body of an expansion stands, and how strictly its specs are read. -/
structure SpecContext where
  /-- The template, if it is known. -/
  source? : Option String := none
  /-- The place of the body in the template. -/
  offset : Int := 0
  /-- Whether defaults must satisfy their constraints. -/
  validateDefaults : Bool := true

namespace VarSpec

/-- The parts of a spec: its name, its default and its constraint. -/
def divide (text : List Char) : List Char × Option (List Char) × Option (List Char) :=
  let name := text.takeWhile fun c => c != '=' && c != ':'
  match text.dropWhile fun c => c != '=' && c != ':' with
  | '=' :: rest =>
    let default := rest.takeWhile (· != ':')
    match rest.dropWhile (· != ':') with
    | _ :: constraint => (name, some default, some constraint)
    | [] => (name, some default, none)
  | _ :: constraint => (name, none, some constraint)
  | [] => (name, none, none)

/-- A character that may start a name. -/
def isNameStart (c : Char) : Bool := c.isAlpha || c == '_'

/-- A character that may go on with a name. -/
def isNameContinue (c : Char) : Bool := c.isAlphanum || c == '_' || c == '.' || c == '-'

/-- Whether a text is a name: a letter or underscore, then letters, digits, `_`, `.` and `-`. -/
def isName : List Char → Bool
  | [] => false
  | c :: rest => isNameStart c && rest.all isNameContinue

/-- A constraint as it stands in a pattern: in a group, after other text. -/
def embedded (constraint : List Char) : List Char := '_' :: '(' :: constraint ++ [')']

/-- Compiles a constraint in both forms; the result is the one that stands by itself. -/
def compileConstraint (constraint : List Char) : Except (List Char × Regex.Error) Regex.Program :=
  match Regex.compile true {} (embedded constraint) with
  | .error e => .error (embedded constraint, e)
  | .ok _ =>
    match Regex.compile false {} constraint with
    | .error e => .error (constraint, e)
    | .ok program => .ok program

/-- Refuses a spec for a fault in the part of the body from `start` to `stop`. -/
def refuse {α : Type} (ctx : SpecContext) (fault : TemplateFault) (start stop : Int) :
    Except ParseError α :=
  .error (.fault
    { fault, span := some ⟨ctx.offset + start, ctx.offset + stop⟩, source := ctx.source? })

/-- The compiled form of the constraint of the spec from `start` to `stop`. -/
def checkConstraint (ctx : SpecContext) (constraint : List Char) (start stop : Int) :
    Except ParseError Regex.Program :=
  let shown := String.ofList constraint
  if constraint.isEmpty then refuse ctx .emptyConstraint start stop
  else match compileConstraint constraint with
    | .error (_, .excess e) => .error (.excess e)
    | .error (pattern, .fault f) => refuse ctx (.badConstraint shown pattern f) start stop
    | .ok program =>
      if program.groups ≠ 0 then refuse ctx (.capturingConstraint shown) start stop
      else .ok program

/-- Whether a text as a whole satisfies a constraint. -/
def satisfies (program : Regex.Program) (text : List Char) : Bool :=
  (Regex.fullMatch? program.regex text).isSome

/-- Reads the spec that stands from `start` to `stop` in the body. -/
def parse (ctx : SpecContext) (text : List Char) (start stop : Int) :
    Except ParseError VarSpec :=
  if text.isEmpty then refuse ctx .emptySpec start stop
  else
    let (name, default?, constraint?) := divide text
    if name.isEmpty then refuse ctx (.namelessSpec (String.ofList text)) start stop
    else if !isName name then
      refuse ctx (.badName (String.ofList name)) start (start + name.length)
    else do
      match constraint? with
      | none => pure ()
      | some constraint =>
        let program ← checkConstraint ctx constraint start stop
        match default? with
        | none => pure ()
        | some default =>
          if ctx.validateDefaults && !satisfies program default then
            refuse ctx
              (.unfitDefault (String.ofList name) (String.ofList default)
                (String.ofList constraint))
              start stop
      return {
        name := String.ofList name
        default? := default?.map String.ofList
        constraint? := constraint?.map String.ofList
        start, stop }

/-- Reads specs that follow one another, the first of them at `start`. -/
def parsePieces (ctx : SpecContext) (start : Int) :
    List (List Char) → Except ParseError (List VarSpec)
  | [] => .ok []
  | piece :: rest => do
    let stop := start + piece.length
    let spec ← parse ctx piece start stop
    let specs ← parsePieces ctx (stop + 1) rest
    return spec :: specs

/-- Reads the body of an expansion. -/
def parseBody (ctx : SpecContext) (body : List Char) : Except ParseError (List VarSpec) :=
  parsePieces ctx 0 (splitAt ',' body)

end VarSpec

end PathRouter
