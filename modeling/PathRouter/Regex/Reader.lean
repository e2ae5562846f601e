import PathRouter.Regex.Group
import PathRouter.Decimal.Numeral

/-!
# Reading an expression

An expression is read by a machine that takes one symbol at a time (`Reader.feed`). Its state is
the stack of open groups, the table of capturing groups, and the lexeme that has begun and may go
on (`Pending`). Reading two pieces one after the other is reading their concatenation
(`feedAll_append`).
-/

set_option autoImplicit false

namespace PathRouter.Regex

open Text Decimal

/-- What the name in a group is for. -/
inductive NameUse where
  /-- `(?P<name>...)` -/
  | define
  /-- `(?P=name)` -/
  | refer
  /-- `(?(name)...)` -/
  | condition
  deriving DecidableEq

/-- The character that ends a name. -/
def NameUse.terminator : NameUse → Char
  | .define => '>'
  | .refer | .condition => ')'

/-- A lexeme that has begun. `start` is where it begins. -/
inductive Pending where
  | ready
  /-- After a quantifier: `?` or `+` may follow. -/
  | quantified
  /-- In a comment that ends with its line. -/
  | lineComment
  | escape (start : Nat) (n : Numeric)
  /-- A backslash and one digit. -/
  | reference (start : Nat) (first : Char)
  /-- A backslash and two octal digits; a third would make a character of them. -/
  | octalReference (start : Nat) (first second : Char)
  /-- An opening brace, the digits of the lower bound and, after a comma, those of the upper one. -/
  | bounds (start : Nat) (least : List Char) (most : Option (List Char))
  | bracket (b : Bracket)
  /-- `(` -/
  | opening (start : Nat)
  /-- `(?` -/
  | extension (start : Nat)
  /-- `(?P` -/
  | namedExtension (start : Nat)
  /-- `(?<` -/
  | behindExtension (start : Nat)
  /-- `(?#` -/
  | comment (start : Nat)
  | name (start : Nat) (use : NameUse) (chars : List Char)
  /-- `(?` and one or more flags. -/
  | flags (start : Nat) (on : List Char)
  /-- `(?`, flags, a minus and further flags. -/
  | flagsOff (start : Nat) (on off : List Char)
  deriving DecidableEq

/-- The state of reading. -/
structure Reader where
  /-- Whether group numbers must be spelt in plain digits. -/
  strict : Bool
  /-- The place of the next symbol. -/
  position : Nat := 0
  top : Frame
  below : List Frame := []
  table : GroupTable := {}
  /-- The flags set for the whole expression at its start. -/
  globals : List Char := []
  pending : Pending := .ready
  deriving DecidableEq

namespace Reader

/-- The state before the first symbol. -/
def start (strict : Bool) (modes : Modes) : Reader :=
  { strict, top := { kind := .whole, start := 0, modes } }

/-- Adds an item to the innermost group. -/
def add (r : Reader) (item : Item) : Reader := { r with top := r.top.add item }

/-- Adds a one-character test to the innermost group. -/
def addTest (r : Reader) (t : CharTest) : Reader := r.add (.one (.char r.top.modes t))

/-- Adds the character of a code point. -/
def addCode (r : Reader) (n : Nat) : Reader := r.addTest (.code n)

/-- The same state, with another lexeme begun or none. -/
def await (r : Reader) (p : Pending) : Reader := { r with pending := p }

/-- Moves past a symbol. `cut` tells that a lone backslash follows, which is refused now. -/
def consume (r : Reader) (s : Symbol) (cut : Bool) : Except Error Reader :=
  let position := r.position + s.width
  if cut then misspelt .loneBackslash position else .ok { r with position }

/-! ## Groups -/

/-- Opens a group. -/
def push (r : Reader) (kind : GroupKind) (start : Nat) (modes : Modes) : Reader :=
  { r with
    top := { kind, start, modes }
    below := r.top :: r.below
    pending := .ready }

/-- Opens a capturing group, with a name that begins at `position` if it has one. -/
def capture (r : Reader) (start : Nat) (name? : Option (List Char)) (position : Nat) :
    Except Error Reader :=
  (r.table.openGroup name? position).map fun table =>
    { r with table }.push (.capture r.table.next) start r.top.modes

/-- Opens a lookbehind. -/
def behind (r : Reader) (negated : Bool) (start : Nat) : Reader :=
  match r.table.behindFrom with
  | some _ => r.push (.behind negated false) start r.top.modes
  | none =>
    { r with table := { r.table with behindFrom := some r.table.next } }.push
      (.behind negated true) start r.top.modes

/-- Closes the innermost group, `outer` being the one around it. -/
def close (r : Reader) (outer : Frame) (further : List Frame) : Reader :=
  let table := match r.top.kind with
    | .capture index => r.table.close index r.top.body.width
    | .behind _ true => { r.table with behindFrom := none }
    | _ => r.table
  { r with top := outer.add r.top.close, below := further, table, pending := .ready }

/-! ## Repetition -/

/-- The greatest bound a repetition may have. -/
def maxRepeat : Nat := 4294967295

/-- Repeats the last item of the innermost group; `start` is where the quantifier begins. -/
def quantify (r : Reader) (start least : Nat) (most : Option Nat) : Except Error Reader :=
  match r.top.items with
  | [] => misspelt .nothingToRepeat start
  | item :: rest =>
    match item.unrepeatable? with
    | some problem => misspelt problem start
    | none =>
      .ok { r with
        top := { r.top with items := .one (.rep .greedy least most item.body) :: rest }
        pending := .quantified }

/-- Changes the greed of the repetition just read. -/
def setGreed (r : Reader) (greed : Greed) : Reader :=
  match r.top.items with
  | [] => r.await .ready
  | item :: rest =>
    { r with
      top := { r.top with items := item.withGreed greed :: rest }
      pending := .ready }

/-- The bound that digits spell. -/
def bound (digits : List Char) : Except Error Nat :=
  if maxDigits < digits.length then .error (.excess (.digits digits.length))
  else
    let n := digitsValue digits
    if maxRepeat ≤ n then .error (.excess .repetition) else .ok n

/-- The lower bound that digits spell; without digits it is zero. -/
def lowerBound (digits : List Char) : Except Error Nat :=
  if digits.isEmpty then .ok 0 else bound digits

/-- Repeats the last item as often as bounds in braces say. -/
def quantifyBounds (r : Reader) (start : Nat) (least : List Char) (most : Option (List Char)) :
    Except Error Reader := do
  let low ← lowerBound least
  let highDigits := most.getD least
  if highDigits.isEmpty then r.quantify start low none
  else
    let high ← bound highDigits
    if high < low then misspelt .leastExceedsMost (start + 1)
    else r.quantify start low (some high)

/-- Takes an opening brace and what follows it literally. -/
def literalBounds (r : Reader) (least : List Char) (most : Option (List Char)) : Reader :=
  let rest := least ++ (most.map (',' :: ·)).getD []
  ('\x7b' :: rest).foldl (fun r c => r.addCode c.toNat) (r.await .ready)

/-! ## References -/

/-- Adds a reference to the group of a number; `start` is where the backslash stands. -/
def refer (r : Reader) (start index : Nat) : Except Error Reader :=
  if index < r.table.next then
    match r.table.closed.lookup index with
    | none => misspelt .openGroup start
    | some width => do
      r.table.checkBehind index r.position
      return (r.add (.one (.backref r.top.modes index width))).await .ready
  else misspelt (.invalidReference index) (start + 1)

/-- Adds a reference to the group of a name that has just ended. -/
def referName (r : Reader) (name : List Char) : Except Error Reader :=
  let begun := r.position - (name.length + 1)
  if !isIdentifier name then misspelt (.badGroupName name) begun
  else match r.table.names.lookup name with
    | none => misspelt (.unknownGroupName name) begun
    | some index =>
      match r.table.closed.lookup index with
      | none => misspelt .openGroup begun
      | some width => do
        r.table.checkBehind index r.position
        return (r.add (.one (.backref r.top.modes index width))).await .ready

/-- The number of groups no expression reaches. -/
def maxGroups : Nat := 1073741823

/-- Opens a condition on the group whose name or number has just ended. -/
def condition (r : Reader) (start : Nat) (name : List Char) : Except Error Reader := do
  let begun := r.position - (name.length + 1)
  if isIdentifier name then
    match r.table.names.lookup name with
    | none => misspelt (.unknownGroupName name) begun
    | some index =>
      r.table.checkBehind index r.position
      return r.push (.condition index) start r.top.modes
  else match integer? name with
    | none => misspelt (.badGroupName name) begun
    | some n =>
      if n < 0 then misspelt (.badGroupName name) begun
      else
        let index := n.toNat
        if index = 0 then misspelt .badGroupNumber begun
        else if maxGroups ≤ index then misspelt (.invalidReference index) begun
        else
          let table := r.table.await index begun
          if r.strict && !name.all Char.isDigit then
            .error (.fault (.looseGroupNumber name begun))
          else
            table.checkBehind index r.position
            return { r with table }.push (.condition index) start r.top.modes

/-- Ends a name. -/
def named (r : Reader) (start : Nat) (use : NameUse) (name : List Char) : Except Error Reader :=
  match use with
  | .define =>
    let begun := r.position - (name.length + 1)
    if !isIdentifier name then misspelt (.badGroupName name) begun
    else r.capture start (some name) begun
  | .refer => r.referName name
  | .condition => r.condition start name

/-! ## Flags -/

/-- The letters that are flags. -/
def isFlag (c : Char) : Bool := "iLmsxatu".toList.contains c

/-- The flags of which at most one may be set. -/
def isTypeFlag (c : Char) : Bool := c == 'a' || c == 'u' || c == 'L'

/-- The modes after flags are turned on and off. -/
def withFlags (modes : Modes) (on off : List Char) : Modes :=
  let set (c : Char) (before : Bool) : Bool := (before || on.contains c) && !off.contains c
  { ignoreCase := set 'i' modes.ignoreCase
    ascii := if on.contains 'a' then true else if on.contains 'u' then false else modes.ascii
    multiline := set 'm' modes.multiline
    dotAll := set 's' modes.dotAll
    verbose := set 'x' modes.verbose }

/-- Turns on one more flag, which has just been read. -/
def flagOn (r : Reader) (start : Nat) (on : List Char) (c : Char) : Except Error Reader :=
  if c == 'L' then misspelt .localeFlag r.position
  else if isTypeFlag c && on.any (fun d => isTypeFlag d && d != c) then
    misspelt .incompatibleFlags r.position
  else .ok (r.await (.flags start (c :: on)))

/-- Turns off one more flag, which has just been read. -/
def flagOff (r : Reader) (start : Nat) (on off : List Char) (c : Char) : Except Error Reader :=
  if isTypeFlag c then misspelt .typeFlagOff r.position
  else .ok (r.await (.flagsOff start on (c :: off)))

/-- The fault of a symbol where a flag was expected. -/
def noFlag (s : Symbol) (otherwise : Problem) : Problem :=
  if s.isPlain isLetter then .unknownFlag else otherwise

/-- Whether nothing has been read yet that takes part in a match. -/
def atStart (r : Reader) : Bool :=
  r.below.isEmpty && r.top.branches.isEmpty && r.top.items.isEmpty

/-- Sets flags for the whole expression. They may stand at its start only. -/
def setGlobals (r : Reader) (start : Nat) (on : List Char) : Except Error Reader :=
  if r.atStart then
    .ok { r with
      top := { r.top with modes := withFlags r.top.modes on [] }
      globals := on ++ r.globals
      pending := .ready }
  else misspelt .flagsNotAtStart start

/-- Refuses an expression whose classes are set both to ASCII and to all scripts. -/
def checkGlobals (r : Reader) : Except Error Unit :=
  if r.globals.contains 'a' && r.globals.contains 'u' then .error (.excess .alphabets) else .ok ()

/-- Takes a symbol after flags. -/
def afterFlags (r : Reader) (start : Nat) (on : List Char) (s : Symbol) : Except Error Reader :=
  if s.is ')' then r.setGlobals start on
  else if s.is ':' || s.is '-' then
    if on.contains 't' then misspelt .globalFlagOn (r.position - 1)
    else if s.is '-' then .ok (r.await (.flagsOff start on []))
    else .ok (r.push .scoped start (withFlags r.top.modes on []))
  else if s.isPlain isFlag then r.flagOn start on s.char
  else misspelt (noFlag s .missingFlagOrEnd) (r.position - s.width)

/-- Takes a symbol after a minus and the flags that follow it. -/
def afterFlagsOff (r : Reader) (start : Nat) (on off : List Char) (s : Symbol) :
    Except Error Reader :=
  if s.is ':' && !off.isEmpty then
    if off.contains 't' then misspelt .globalFlagOff (r.position - 1)
    else if on.any off.contains then misspelt .flagOnAndOff (r.position - 1)
    else .ok (r.push .scoped start (withFlags r.top.modes on off))
  else if s.isPlain isFlag then r.flagOff start on off s.char
  else
    misspelt (noFlag s (if off.isEmpty then .missingFlag else .missingColon))
      (r.position - s.width)

/-! ## One symbol -/

/-- Takes a symbol after `(?`. -/
def afterMark (r : Reader) (start : Nat) (s : Symbol) : Except Error Reader :=
  let modes := r.top.modes
  if s.escaped then misspelt (.unknownExtension s.chars) (start + 1)
  else match s.char with
    | 'P' => .ok (r.await (.namedExtension start))
    | ':' => .ok (r.push .plain start modes)
    | '#' => .ok (r.await (.comment start))
    | '=' => .ok (r.push (.ahead false) start modes)
    | '!' => .ok (r.push (.ahead true) start modes)
    | '<' => .ok (r.await (.behindExtension start))
    | '(' => .ok (r.await (.name start .condition []))
    | '>' => .ok (r.push .atomic start modes)
    | '-' => .ok (r.await (.flagsOff start [] []))
    | c =>
      if isFlag c then r.flagOn start [] c
      else misspelt (.unknownExtension [c]) (start + 1)

/-- Takes an escaped character where no lexeme has begun; `r` is the state after it. -/
def escaped (r : Reader) (c : Char) : Except Error Reader :=
  let start := r.position - 2
  let modes := r.top.modes
  match Escape.ofChar c with
  | .place a => .ok (r.add (.one (.anchor modes a)))
  | .kind k negated => .ok (r.addTest (.oneOf false [.kind k negated]))
  | .code n => .ok (r.addCode n)
  | .numeric n => .ok (r.await (.escape start n))
  | .number first => .ok (r.await (.reference start first))
  | .unknown => misspelt (.badEscape ['\x5c', c]) start

/-- Takes a character where no lexeme has begun; `r` is the state after it. -/
def unescaped (r : Reader) (c : Char) : Except Error Reader :=
  let start := r.position - 1
  let modes := r.top.modes
  match c with
  | '[' => .ok (r.await (.bracket { start }))
  | '(' => .ok (r.await (.opening start))
  | '\x7b' => .ok (r.await (.bounds start [] none))
  | '?' => r.quantify start 0 (some 1)
  | '*' => r.quantify start 0 none
  | '+' => r.quantify start 1 none
  | '.' => .ok (r.addTest .any)
  | '^' => .ok (r.add (.one (.anchor modes .lineStart)))
  | '$' => .ok (r.add (.one (.anchor modes .lineEnd)))
  | c =>
    if modes.verbose && isAsciiBlank c then .ok r
    else if modes.verbose && c == '#' then .ok (r.await .lineComment)
    else .ok (r.addCode c.toNat)

/-- Takes a symbol where no lexeme has begun. -/
def feedReady (r : Reader) (s : Symbol) (cut : Bool) : Except Error Reader :=
  let r := r.await .ready
  if s.is '|' then
    match r.top.kind, r.top.branches with
    | .condition _, _ :: _ => misspelt .moreThanTwoBranches r.position
    | _, _ => (r.consume s cut).map fun r => { r with top := r.top.bar }
  else if s.is ')' then
    match r.below with
    | [] => do
      r.checkGlobals
      misspelt .unbalanced r.position
    | outer :: further => (r.consume s cut).map (·.close outer further)
  else do
    let r ← r.consume s cut
    if s.escaped then r.escaped s.char else r.unescaped s.char

/-- The number that a backslash and digits refer to. -/
def referenceIndex (digits : List Char) : Nat := digitsValue digits

/-- Takes a symbol inside a class. -/
def feedBracket (r : Reader) (b : Bracket) (s : Symbol) (cut : Bool) : Except Error Reader := do
  let b ← b.settleBefore s r.position
  let r ← r.consume s cut
  match ← b.push s r.position with
  | .inl b => return r.await (.bracket b)
  | .inr t => return (r.addTest t).await .ready

/-- Takes a symbol inside a name. -/
def feedName (r : Reader) (start : Nat) (use : NameUse) (chars : List Char) (s : Symbol)
    (cut : Bool) : Except Error Reader := do
  let r ← r.consume s cut
  if s.is use.terminator then
    if chars.isEmpty then misspelt (.missingName "group name") (r.position - 1)
    else r.named start use chars.reverse
  else return r.await (.name start use (s.chars.reverse ++ chars))

/-- Takes one symbol. `cut` tells that a lone backslash follows it and ends the expression. -/
def feed (r : Reader) (s : Symbol) (cut : Bool) : Except Error Reader :=
  match r.pending with
  | .ready => r.feedReady s cut
  | .quantified =>
    if s.is '?' then (r.consume s cut).map (·.setGreed .reluctant)
    else if s.is '+' then (r.consume s cut).map (·.setGreed .possessive)
    else r.feedReady s cut
  | .lineComment =>
    (r.consume s cut).map fun r => if s.is '\n' then r.await .ready else r
  | .escape start n =>
    if n.takes s then do
      let r ← r.consume s cut
      match ← n.push s start r.position with
      | .inl n => return r.await (.escape start n)
      | .inr code => return (r.addCode code).await .ready
    else do
      let code ← n.stop start r.position
      (r.addCode code).feedReady s cut
  | .reference start first =>
    if s.isPlain Char.isDigit then do
      let r ← r.consume s cut
      if isOctal first && isOctal s.char then
        return r.await (.octalReference start first s.char)
      else r.refer start (referenceIndex [first, s.char])
    else do
      let r ← r.refer start (referenceIndex [first])
      r.feedReady s cut
  | .octalReference start first second =>
    if s.isPlain isOctal then do
      let r ← r.consume s cut
      let code ← Numeric.octalCode [s.char, second, first] start
      return (r.addCode code).await .ready
    else do
      let r ← r.refer start (referenceIndex [first, second])
      r.feedReady s cut
  | .bounds start least most =>
    if s.isPlain Char.isDigit then
      (r.consume s cut).map fun r => match most with
        | none => r.await (.bounds start (least ++ [s.char]) none)
        | some digits => r.await (.bounds start least (some (digits ++ [s.char])))
    else if s.is ',' && most.isNone then
      (r.consume s cut).map (·.await (.bounds start least (some [])))
    else if s.is '\x7d' && !(least.isEmpty && most.isNone) then do
      let r ← r.consume s cut
      r.quantifyBounds start least most
    else (r.literalBounds least most).feedReady s cut
  | .bracket b => r.feedBracket b s cut
  | .opening start =>
    if s.is '?' then (r.consume s cut).map (·.await (.extension start))
    else do
      let r ← r.capture start none start
      r.feedReady s cut
  | .extension start => do
    let r ← r.consume s cut
    r.afterMark start s
  | .namedExtension start => do
    let r ← r.consume s cut
    if s.is '<' then return r.await (.name start .define [])
    else if s.is '=' then return r.await (.name start .refer [])
    else misspelt (.unknownExtension ('P' :: s.chars)) (start + 1)
  | .behindExtension start => do
    let r ← r.consume s cut
    if s.is '=' then return r.behind false start
    else if s.is '!' then return r.behind true start
    else misspelt (.unknownExtension ('<' :: s.chars)) (start + 1)
  | .comment _ =>
    (r.consume s cut).map fun r => if s.is ')' then r.await .ready else r
  | .name start use chars => r.feedName start use chars s cut
  | .flags start on => do
    let r ← r.consume s cut
    r.afterFlags start on s
  | .flagsOff start on off => do
    let r ← r.consume s cut
    r.afterFlagsOff start on off s

/-- Takes symbols one after the other. `lone` tells that a lone backslash ends the expression. -/
def feedAll (lone : Bool) : List Symbol → Reader → Except Error Reader
  | [], r => .ok r
  | s :: rest, r => do
    let r ← r.feed s (lone && rest.isEmpty)
    feedAll lone rest r

/-- Ends the lexeme that has begun at the end of the expression. -/
def settle (r : Reader) : Except Error Reader :=
  match r.pending with
  | .ready | .quantified | .lineComment => .ok r
  | .escape start n => (n.stop start r.position).map r.addCode
  | .reference start first => r.refer start (referenceIndex [first])
  | .octalReference start first second => r.refer start (referenceIndex [first, second])
  | .bounds _ least most => .ok (r.literalBounds least most)
  | .bracket b => do
    let _ ← b.settle r.position
    misspelt .unterminatedClass b.start
  | .opening start => misspelt .unterminatedGroup start
  | .extension _ | .namedExtension _ | .behindExtension _ => misspelt .unexpectedEnd r.position
  | .comment start => misspelt .unterminatedComment start
  | .name _ use chars =>
    if chars.isEmpty then misspelt (.missingName "group name") r.position
    else misspelt (.unterminatedName use.terminator) (r.position - chars.length)
  | .flags .. => misspelt .missingFlagOrEnd r.position
  | .flagsOff _ _ off =>
    misspelt (if off.isEmpty then .missingFlag else .missingColon) r.position

/-- Ends an expression: every group must be closed, and every condition must have its group. -/
def finish (r : Reader) : Except Error Reader := do
  let r ← r.settle
  match r.below with
  | _ :: _ => misspelt .unterminatedGroup r.top.start
  | [] =>
    r.checkGlobals
    r.table.checkAwaited
    return r

/-- Reading a sequence of symbols is reading its two parts one after the other. -/
theorem feedAll_append (xs ys : List Symbol) (r : Reader) :
    feedAll false (xs ++ ys) r = (feedAll false xs r).bind (feedAll false ys) := by
  induction xs generalizing r with
  | nil => rfl
  | cons x xs ih =>
    show ((r.feed x (false && _)).bind _) = ((r.feed x (false && _)).bind _).bind _
    simp only [Bool.false_and]
    cases r.feed x false with
    | error e => rfl
    | ok r' => exact ih r'

end Reader

/-- Reads an expression to its end. -/
def read (strict : Bool) (modes : Modes) (pattern : List Char) : Except Error Reader :=
  match symbols pattern with
  | ([], true) => misspelt .loneBackslash 0
  | (ss, lone) => do
    let r ← Reader.feedAll lone ss (Reader.start strict modes)
    r.finish

end PathRouter.Regex
