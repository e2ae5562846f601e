import PathRouter.Regex.CharClass
import PathRouter.Regex.Program

/-!
# Matching

A text is matched by a backtracking search. `run r c k` looks for a way to match `r` from the cursor
`c` on such that the rest `k` of the search succeeds; ways are tried in order of preference, and the
first one that leads to success is the answer. `fullMatch?` asks for a match of a whole text.
-/

set_option autoImplicit false

namespace PathRouter.Regex

/-- An edge of a capturing group, at a place of the text. -/
inductive Mark where
  | opened (group place : Nat)
  | closed (group place : Nat)
  deriving DecidableEq

/-- A place in a text, with the marks left on the way there, latest first. -/
structure Cursor where
  place : Nat
  /-- The characters before the place, the nearest first. -/
  before : List Char
  /-- The characters after the place. -/
  after : List Char
  trail : List Mark
  deriving DecidableEq

namespace Cursor

/-- The place before the first character of a text. -/
def start (text : List Char) : Cursor := ⟨0, [], text, []⟩

/-- The whole text. -/
def text (c : Cursor) : List Char := c.before.reverse ++ c.after

/-- The place after the next character. -/
def advance (c : Cursor) (x : Char) (rest : List Char) : Cursor :=
  { c with place := c.place + 1, before := x :: c.before, after := rest }

/-- The place `n` characters back, if there are so many. -/
def back? (c : Cursor) : Nat → Option Cursor
  | 0 => some c
  | n + 1 =>
    match c.before with
    | [] => none
    | x :: before => back? { c with place := c.place - 1, before, after := x :: c.after } n

/-- The cursor with one more mark. -/
def mark (c : Cursor) (m : Mark) : Cursor := { c with trail := m :: c.trail }

/-- Where a group was last opened. -/
def openedAt? (c : Cursor) (group : Nat) : Option Nat :=
  c.trail.findSome? fun
    | .opened g place => if g = group then some place else none
    | .closed .. => none

/-- Where a group was last closed. -/
def closedAt? (c : Cursor) (group : Nat) : Option Nat :=
  c.trail.findSome? fun
    | .closed g place => if g = group then some place else none
    | .opened .. => none

/-- The two ends of what a group has captured, if it has taken part in the match. -/
def span? (c : Cursor) (group : Nat) : Option (Nat × Nat) :=
  match c.openedAt? group, c.closedAt? group with
  | some first, some last => if first ≤ last then some (first, last) else none
  | _, _ => none

/-- What a group has captured. -/
def captured? (c : Cursor) (group : Nat) : Option (List Char) :=
  (c.span? group).map fun (first, last) => (c.text.drop first).take (last - first)

/-- Whether exactly one of the two characters around the place is a word character. -/
def onWordEdge (ascii : Bool) (c : Cursor) : Bool :=
  c.before.head?.any (CharKind.word.holds ascii) != c.after.head?.any (CharKind.word.holds ascii)

end Cursor

/-- Whether an anchor holds at a place. In an empty text neither `\b` nor `\B` holds. -/
def Anchor.holds (modes : Modes) (c : Cursor) : Anchor → Bool
  | .lineStart => c.before.isEmpty || (modes.multiline && c.before.head? == some '\n')
  | .lineEnd =>
    c.after.isEmpty || c.after == ['\n'] || (modes.multiline && c.after.head? == some '\n')
  | .textStart => c.before.isEmpty
  | .textEnd => c.after.isEmpty
  | .wordEdge => c.onWordEdge modes.ascii
  | .notWordEdge => !(c.before.isEmpty && c.after.isEmpty) && !c.onWordEdge modes.ascii

/-- The rest of a search. -/
abbrev Rest := Cursor → Option Cursor

/-- A search for one expression, followed by the rest. -/
abbrev Search := Cursor → Rest → Option Cursor

/-- Takes the characters of `cs`, one after the other. -/
def takeAll (modes : Modes) : List Char → Search
  | [], c, k => k c
  | x :: xs, c, k =>
    match c.after with
    | [] => none
    | y :: rest => if sameChar modes x y then takeAll modes xs (c.advance y rest) k else none

/-- Exactly so many iterations. -/
def exactly (body : Search) : Nat → Search
  | 0, c, k => k c
  | n + 1, c, k => body c fun d => exactly body n d k

/-- As many further iterations as possible, at most so many. An iteration that has taken up nothing
is the last one; `last` is where the latest iteration began. -/
def many (body : Search) : Nat → Option Nat → Search
  | 0, _, c, k => k c
  | n + 1, last, c, k =>
    if last = some c.place then k c
    else (body c fun d => many body n (some c.place) d k) <|> k c

/-- As few further iterations as possible, at most so many. -/
def few (body : Search) : Nat → Option Nat → Search
  | 0, _, c, k => k c
  | n + 1, last, c, k =>
    k c <|>
      if last = some c.place then none
      else body c fun d => few body n (some c.place) d k

/-- Exactly so many iterations, each of which is settled once it has matched. -/
def exactlySettled (body : Search) : Nat → Cursor → Option Cursor
  | 0, c => some c
  | n + 1, c => (body c some).bind (exactlySettled body n)

/-- As many further iterations as possible, at most so many, each settled once it has matched. -/
def manySettled (body : Search) : Nat → Cursor → Cursor
  | 0, c => c
  | n + 1, c =>
    match body c some with
    | none => c
    | some d => if d.place = c.place then d else manySettled body n d

/-- A bound on the number of iterations after the first `least` ones: after as many iterations as
there are characters left, one more can only be empty. -/
def furtherBound (least : Nat) (most : Option Nat) (c : Cursor) : Nat :=
  match most with
  | none => c.after.length + 1
  | some most => min (most - least) (c.after.length + 1)

/-- Searches for a match of an expression from a cursor on, followed by the rest. -/
def run : Regex → Search
  | .empty, c, k => k c
  | .char modes t, c, k =>
    match c.after with
    | [] => none
    | x :: rest => if t.holds modes x then k (c.advance x rest) else none
  | .anchor modes a, c, k => if a.holds modes c then k c else none
  | .seq r s, c, k => run r c fun d => run s d k
  | .alt r s, c, k => run r c k <|> run s c k
  | .group index r, c, k =>
    run r (c.mark (.opened index c.place)) fun d => k (d.mark (.closed index d.place))
  | .scoped r, c, k => run r c k
  | .atomic r, c, k => (run r c some).bind k
  | .lookAhead negated r, c, k =>
    match run r c some with
    | some d => if negated then none else k { c with trail := d.trail }
    | none => if negated then k c else none
  | .lookBehind negated w r, c, k =>
    match (c.back? w.least).bind (run r · some) with
    | some d => if negated then none else k { c with trail := d.trail }
    | none => if negated then k c else none
  | .rep .greedy least most r, c, k =>
    exactly (run r) least c fun d => many (run r) (furtherBound least most d) none d k
  | .rep .reluctant least most r, c, k =>
    exactly (run r) least c fun d => few (run r) (furtherBound least most d) none d k
  | .rep .possessive least most r, c, k =>
    (exactlySettled (run r) least c).bind fun d =>
      k (manySettled (run r) (furtherBound least most d) d)
  | .backref modes index _, c, k =>
    match c.captured? index with
    | none => none
    | some cs => takeAll modes cs c k
  | .cond index yes no, c, k =>
    if (c.span? index).isSome then run yes c k else run no c k

/-- The rest of a search for a match that reaches the end of the text. -/
def atEnd : Rest := fun c => if c.after.isEmpty then some c else none

/-- The end of the preferred match of a whole text, if there is a match. -/
def fullMatch? (r : Regex) (text : List Char) : Option Cursor := run r (Cursor.start text) atEnd

/-- What the capturing groups of a program have captured in a match of a whole text. -/
def Program.captures? (p : Program) (text : List Char) : Option (List (Option (List Char))) :=
  (fullMatch? p.regex text).map fun c => (List.range p.groups).map fun i => c.captured? (i + 1)

end PathRouter.Regex
