import PathRouter.Regex.Escape

/-!
# Bracketed classes

Reading `[...]` symbol by symbol. A `Bracket` holds the members read so far and the stage of the
member being read; taking a symbol gives the bracket that goes on or the test that it stands for.
-/

set_option autoImplicit false

namespace PathRouter.Regex

/-- How far the member being read has come. `shown` is the first symbol of a member as it is spelt,
which is what messages quote. -/
inductive Stage where
  /-- Just opened: `^` may follow. -/
  | opened
  /-- A member or the closing bracket follows. -/
  | member
  | memberEscape (shown : List Char) (start : Nat) (n : Numeric)
  /-- A member is complete: `-` may follow. -/
  | dash (shown : List Char) (item : ClassItem)
  /-- The upper end of a range follows. -/
  | upper (shown : List Char) (item : ClassItem)
  | upperEscape (shown : List Char) (item : ClassItem) (shownHigh : List Char) (start : Nat)
    (n : Numeric)
  deriving DecidableEq

/-- A class that has begun. The members are held latest first. -/
structure Bracket where
  start : Nat
  negated : Bool := false
  items : List ClassItem := []
  stage : Stage := .opened
  deriving DecidableEq

namespace Bracket

/-- The test that a complete class stands for. A class of a single character is that character. -/
def test (b : Bracket) : CharTest :=
  match b.items.reverse.eraseDups with
  | [.code n] => if b.negated then .notCode n else .code n
  | items => .oneOf b.negated items

/-- The bracket with one more member. -/
def add (b : Bracket) (item : ClassItem) : Bracket := { b with items := item :: b.items }

/-- The bracket after a range, which must go from a character to one that is not before it. -/
def addRange (b : Bracket) (shown : List Char) (low : ClassItem) (shownHigh : List Char)
    (high : ClassItem) (position : Nat) : Except Error Bracket :=
  let refused :=
    misspelt (.badRange shown shownHigh) (position - (shown.length + 1 + shownHigh.length))
  match low, high with
  | .code l, .code h =>
    if h < l then refused else .ok { b.add (.range l h) with stage := .member }
  | _, _ => refused

/-- Gives a member, just completed, to the stage that has waited for it. -/
def complete (b : Bracket) (shown : List Char) (item : ClassItem) : Bracket :=
  { b with stage := .dash shown item }

/-- Takes a symbol where a member may begin; `position` is the place after it. The result is the
test that the class stands for if the symbol closes it. -/
def member (b : Bracket) (s : Symbol) (position : Nat) : Except Error (Bracket ⊕ CharTest) :=
  if s.is ']' && !b.items.isEmpty then .ok (.inr b.test)
  else if s.escaped then
    match Escape.ofClassChar s.char with
    | .kind k negated => .ok (.inl (b.complete s.chars (.kind k negated)))
    | .code n => .ok (.inl (b.complete s.chars (.code n)))
    | .numeric n =>
      .ok (.inl { b with stage := .memberEscape s.chars (position - 2) n })
    | _ => misspelt (.badEscape s.chars) (position - 2)
  else .ok (.inl (b.complete s.chars (.code s.char.toNat)))

/-- Takes a symbol where the upper end of a range is expected; `position` is the place after it. A
closing bracket there makes the dash a member. -/
def upper (b : Bracket) (shown : List Char) (low : ClassItem) (s : Symbol) (position : Nat) :
    Except Error (Bracket ⊕ CharTest) :=
  if s.is ']' then .ok (.inr ((b.add low).add (.code 0x2d)).test)
  else if s.escaped then
    match Escape.ofClassChar s.char with
    | .kind k negated =>
      (b.addRange shown low s.chars (.kind k negated) position).map .inl
    | .code n => (b.addRange shown low s.chars (.code n) position).map .inl
    | .numeric n =>
      .ok (.inl { b with stage := .upperEscape shown low s.chars (position - 2) n })
    | _ => misspelt (.badEscape s.chars) (position - 2)
  else (b.addRange shown low s.chars (.code s.char.toNat) position).map .inl

/-- Ends an escape that does not go on with the next symbol. -/
def settle (b : Bracket) (position : Nat) : Except Error Bracket :=
  match b.stage with
  | .memberEscape shown start n =>
    (n.stop start position).map fun code => b.complete shown (.code code)
  | .upperEscape shown low shownHigh start n => do
    let code ← n.stop start position
    b.addRange shown low shownHigh (.code code) position
  | _ => .ok b

/-- Whether the next symbol belongs to the escape being read. -/
def inEscape (b : Bracket) (s : Symbol) : Bool :=
  match b.stage with
  | .memberEscape _ _ n | .upperEscape _ _ _ _ n => n.takes s
  | _ => false

/-- Ends the escape being read unless the next symbol belongs to it. -/
def settleBefore (b : Bracket) (s : Symbol) (position : Nat) : Except Error Bracket :=
  if b.inEscape s then .ok b else b.settle position

/-- Takes a symbol; `position` is the place after it. -/
def push (b : Bracket) (s : Symbol) (position : Nat) : Except Error (Bracket ⊕ CharTest) :=
  match b.stage with
  | .opened =>
    if s.is '^' then .ok (.inl { b with negated := true, stage := .member })
    else b.member s position
  | .member => b.member s position
  | .memberEscape shown start n => do
    match ← n.push s start position with
    | .inl n => return .inl { b with stage := .memberEscape shown start n }
    | .inr code => return .inl (b.complete shown (.code code))
  | .dash shown item =>
    if s.is '-' then .ok (.inl { b with stage := .upper shown item })
    else (b.add item).member s position
  | .upper shown item => b.upper shown item s position
  | .upperEscape shown low shownHigh start n => do
    match ← n.push s start position with
    | .inl n => return .inl { b with stage := .upperEscape shown low shownHigh start n }
    | .inr code => (b.addRange shown low shownHigh (.code code) position).map .inl

end Bracket

end PathRouter.Regex
