/-!
# Regular expressions

The syntax trees of the regular expressions that constrain variables. A tree is resolved: every
element that depends on a mode carries the modes in force where it stands, and every lookbehind
carries the width of its body. `Width` measures how many characters an expression can take up.
-/

set_option autoImplicit false

namespace PathRouter

namespace Regex

/-- The modes an expression can be read in. -/
structure Modes where
  /-- Letters match regardless of case. -/
  ignoreCase : Bool := false
  /-- Classes, word edges and case are those of ASCII. -/
  ascii : Bool := false
  /-- `^` and `$` also match at the line feeds inside a text. -/
  multiline : Bool := false
  /-- `.` also matches a line feed. -/
  dotAll : Bool := false
  /-- Blanks and `#` comments between elements are skipped. -/
  verbose : Bool := false
  deriving DecidableEq, Inhabited

/-- The named classes `\d`, `\s` and `\w`. -/
inductive CharKind where
  | digit
  | space
  | word
  deriving DecidableEq

/-- A member of a bracketed class. Code points are numbers, since an escape may name a code point
that is no character. -/
inductive ClassItem where
  | code (n : Nat)
  | range (low high : Nat)
  | kind (k : CharKind) (negated : Bool)
  deriving DecidableEq

/-- A test on one character. -/
inductive CharTest where
  | code (n : Nat)
  | notCode (n : Nat)
  | oneOf (negated : Bool) (items : List ClassItem)
  | any
  deriving DecidableEq

/-- A condition on a place between characters. -/
inductive Anchor where
  | lineStart
  | lineEnd
  | textStart
  | textEnd
  | wordEdge
  | notWordEdge
  deriving DecidableEq

/-- How many iterations a repetition prefers, and whether it gives any back. -/
inductive Greed where
  | greedy
  | reluctant
  | possessive
  deriving DecidableEq

/-- The least and the greatest number of characters an expression takes up. -/
structure Width where
  least : Nat
  most : Nat
  deriving DecidableEq

/-- The number that stands for an unbounded width, `2 ^ 64`; no width exceeds it. -/
def Width.unbounded : Nat := 0x10000000000000000

/-- A width with both bounds cut to `Width.unbounded`. -/
def Width.capped (least most : Nat) : Width :=
  ⟨min least Width.unbounded, min most Width.unbounded⟩

end Regex

open Regex in
/-- A regular expression. -/
inductive Regex where
  | empty
  | char (modes : Modes) (test : CharTest)
  | anchor (modes : Modes) (place : Anchor)
  | seq (first second : Regex)
  | alt (first second : Regex)
  /-- A capturing group. -/
  | group (index : Nat) (body : Regex)
  /-- A group with modes of its own. -/
  | scoped (body : Regex)
  /-- A group that gives back nothing once it has matched. -/
  | atomic (body : Regex)
  | lookAhead (negated : Bool) (body : Regex)
  | lookBehind (negated : Bool) (width : Width) (body : Regex)
  | rep (greed : Greed) (least : Nat) (most : Option Nat) (body : Regex)
  /-- The text of a capturing group once more. -/
  | backref (modes : Modes) (index : Nat) (width : Width)
  /-- A choice that depends on whether a group has taken part in the match. -/
  | cond (index : Nat) (yes no : Regex)
  deriving DecidableEq, Inhabited

namespace Regex

/-- The elements of a sequence, one after the other. -/
def ofList : List Regex → Regex
  | [] => .empty
  | [r] => r
  | r :: rs => .seq r (ofList rs)

/-- What holds of some expressions and is kept by sequences holds of all of them in sequence. -/
theorem ofList_induction {P : Regex → Prop} (hempty : P .empty)
    (hseq : ∀ r s, P r → P s → P (.seq r s)) {rs : List Regex} (h : ∀ r ∈ rs, P r) :
    P (ofList rs) := by
  induction rs with
  | nil => exact hempty
  | cons r rest ih =>
      obtain ⟨hr, hrest⟩ := List.forall_mem_cons.1 h
      cases rest with
      | nil => exact hr
      | cons s rest => exact hseq _ _ hr (ih hrest)

/-- The width of an expression. -/
def width : Regex → Width
  | .empty | .anchor .. | .lookAhead .. | .lookBehind .. => ⟨0, 0⟩
  | .char .. => ⟨1, 1⟩
  | .seq r s => Width.capped (r.width.least + s.width.least) (r.width.most + s.width.most)
  | .alt r s => ⟨min r.width.least s.width.least, max r.width.most s.width.most⟩
  | .group _ r | .scoped r | .atomic r => r.width
  | .rep _ least none r =>
    Width.capped (r.width.least * least) (if r.width.most = 0 then 0 else Width.unbounded)
  | .rep _ least (some most) r => Width.capped (r.width.least * least) (r.width.most * most)
  | .backref _ _ w => w
  | .cond _ yes no => ⟨min yes.width.least no.width.least, max yes.width.most no.width.most⟩

/-- An expression made of one element whose spelling settles its meaning. -/
def isSimple : Regex → Bool
  | .char .. | .anchor .. | .backref .. => true
  | _ => false

/-- The members of the class that an expression stands for, if it is one character or a class that
is not negated. -/
def members? : List Regex → Option (List ClassItem)
  | [.char _ (.code n)] => some [.code n]
  | [.char _ (.oneOf false items)] => some items
  | _ => none

/-- A choice between two or more branches, tried in order. -/
def choice : List (List Regex) → Regex
  | [] => .empty
  | [branch] => ofList branch
  | branch :: rest => .alt (ofList branch) (choice rest)

/-- A choice without a common head. Branches of single characters are one class. -/
def branchesOf (modes : Modes) (branches : List (List Regex)) : Regex :=
  match branches.mapM members? with
  | some items => .char modes (.oneOf false items.flatten.eraseDups)
  | none => choice branches

/-- A choice between `first` and `others`, where elements that all branches begin with are taken
out of the choice. -/
def factored (modes : Modes) : List Regex → List (List Regex) → List Regex
  | [], others => [branchesOf modes ([] :: others)]
  | r :: rest, others =>
    if r.isSimple && others.all (·.head? == some r) then
      r :: factored modes rest (others.map List.tail)
    else [branchesOf modes ((r :: rest) :: others)]

/-- The elements of an alternation. -/
def alternation (modes : Modes) : List (List Regex) → List Regex
  | [] => []
  | [only] => only
  | first :: others => factored modes first others

end Regex

end PathRouter
