import PathRouter.Regex.Bracket

/-!
# Groups that are still open

What is known of groups while an expression is read. A `Frame` is a group that has been opened,
with the branches and elements read in it so far; closing it gives one element of the group around
it. The `GroupTable` records the capturing groups, and which of them may be referred to.
-/

set_option autoImplicit false

namespace PathRouter.Regex

/-- An element of a sequence. A group that neither captures nor changes modes is a part of the
sequence around it once the branch is complete; until then it can be repeated as a whole. -/
inductive Item where
  | one (r : Regex)
  | plain (rs : List Regex)
  deriving DecidableEq

/-- The elements an item contributes to its branch. -/
def Item.elements : Item → List Regex
  | .one r => [r]
  | .plain rs => rs

/-- The expression that a quantifier after an item repeats. -/
def Item.body : Item → Regex
  | .one r => r
  | .plain rs => .ofList rs

/-- Why an item cannot be repeated: it is a place, or a repetition itself. -/
def Item.unrepeatable? : Item → Option Problem
  | .one (.anchor ..) => some .nothingToRepeat
  | .one (.rep ..) => some .multipleRepeat
  | _ => none

/-- The item with another greed, if it is a repetition. -/
def Item.withGreed (greed : Greed) : Item → Item
  | .one (.rep _ least most body) => .one (.rep greed least most body)
  | item => item

/-- What a group is for. -/
inductive GroupKind where
  /-- No group: the whole expression. -/
  | whole
  | capture (index : Nat)
  | plain
  | scoped
  | atomic
  | ahead (negated : Bool)
  /-- A lookbehind; `outermost` if it stands in no other one. -/
  | behind (negated outermost : Bool)
  | condition (index : Nat)
  deriving DecidableEq

/-- An open group. Branches and items are held latest first. -/
structure Frame where
  kind : GroupKind
  start : Nat
  modes : Modes
  branches : List (List Regex) := []
  items : List Item := []
  deriving DecidableEq

namespace Frame

/-- The frame with one more item. -/
def add (f : Frame) (item : Item) : Frame := { f with items := item :: f.items }

/-- The elements of the branch being read. -/
def branch (f : Frame) : List Regex := f.items.reverse.flatMap Item.elements

/-- The frame with its branch complete and a new one begun. -/
def bar (f : Frame) : Frame := { f with branches := f.branch :: f.branches, items := [] }

/-- All branches, in order. -/
def allBranches (f : Frame) : List (List Regex) := (f.branch :: f.branches).reverse

/-- The elements of the alternation of all branches. -/
def elements (f : Frame) : List Regex := alternation f.modes f.allBranches

/-- The expression inside the frame. -/
def body (f : Frame) : Regex := .ofList f.elements

/-- The item that a frame is to the frame around it, once it is closed. -/
def close (f : Frame) : Item :=
  match f.kind with
  | .whole | .plain => .plain f.elements
  | .capture index => .one (.group index f.body)
  | .scoped => .one (.scoped f.body)
  | .atomic => .one (.atomic f.body)
  | .ahead negated => .one (.lookAhead negated f.body)
  | .behind negated _ => .one (.lookBehind negated f.body.width f.body)
  | .condition index =>
    match f.allBranches with
    | yes :: no :: _ => .one (.cond index (.ofList yes) (.ofList no))
    | [yes] => .one (.cond index (.ofList yes) .empty)
    | [] => .one (.cond index .empty .empty)

end Frame

/-- The capturing groups met so far. -/
structure GroupTable where
  /-- The index of the next group. -/
  next : Nat := 1
  /-- The groups that are closed, with their widths. -/
  closed : List (Nat × Width) := []
  names : List (List Char × Nat) := []
  /-- Inside a lookbehind, the first index that may not be referred to there. -/
  behindFrom : Option Nat := none
  /-- The groups that conditions depend on, each with its first mention, latest first. -/
  awaited : List (Nat × Nat) := []
  deriving DecidableEq

namespace GroupTable

/-- Opens a capturing group, with a name that no other group has; `position` is where the name
begins. -/
def openGroup (t : GroupTable) (name? : Option (List Char)) (position : Nat) :
    Except Error GroupTable :=
  match name? with
  | none => .ok { t with next := t.next + 1 }
  | some name =>
    match t.names.lookup name with
    | some previous => misspelt (.redefinedGroup name t.next previous) position
    | none => .ok { t with next := t.next + 1, names := (name, t.next) :: t.names }

/-- Records that a group is closed. -/
def close (t : GroupTable) (index : Nat) (width : Width) : GroupTable :=
  { t with closed := (index, width) :: t.closed }

/-- Refuses, inside a lookbehind, a reference to a group that is open or stands in the lookbehind
itself. -/
def checkBehind (t : GroupTable) (index position : Nat) : Except Error Unit :=
  match t.behindFrom with
  | none => .ok ()
  | some first =>
    if (t.closed.lookup index).isNone then misspelt .openGroup position
    else if first ≤ index then misspelt .lookbehindGroup position
    else .ok ()

/-- Notes that a condition depends on a group. -/
def await (t : GroupTable) (index position : Nat) : GroupTable :=
  if (t.awaited.lookup index).isSome then t
  else { t with awaited := (index, position) :: t.awaited }

/-- Refuses an expression with a condition on a group that does not exist. -/
def checkAwaited (t : GroupTable) : Except Error Unit :=
  match t.awaited.reverse.find? (t.next ≤ ·.1) with
  | some (index, position) => misspelt (.invalidReference index) position
  | none => .ok ()

end GroupTable

end PathRouter.Regex
