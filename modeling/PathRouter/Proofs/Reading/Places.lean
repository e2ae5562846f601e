import PathRouter.Regex.Reader
import PathRouter.Outcome
import Mathlib.Tactic

set_option autoImplicit false

/-! # Lexemes read alike wherever they stand

A lexeme remembers where it began, which messages tell and nothing else depends on. Two lexemes are
the same if they differ in that alone (`Pending.Same`); escapes (`Numeric.mirrors_push`) and
bracketed classes (`Bracket.Same.mirrors_push`) that are the same go on to be the same.
-/

namespace PathRouter.Regex

open Outcome

/-! ## Escapes -/

namespace Numeric

theorem mirrors_hexCode (letter : Char) (digits : List Char) (start start' : Nat) :
    Mirrors Eq (hexCode letter digits start) (hexCode letter digits start') := by
  unfold hexCode
  dsimp only
  split
  · exact mirrors_ok rfl
  · split <;> exact mirrors_error _ _

theorem mirrors_octalCode (digits : List Char) (start start' : Nat) :
    Mirrors Eq (octalCode digits start) (octalCode digits start') := by
  unfold octalCode
  dsimp only
  split
  · exact mirrors_ok rfl
  · exact mirrors_error _ _

theorem mirrors_push (n : Numeric) (s : Symbol) (start start' position position' : Nat) :
    Mirrors Eq (n.push s start position) (n.push s start' position') := by
  cases n with
  | hex letter wanted digits =>
      unfold push
      dsimp only
      split
      · exact mirrors_ok rfl
      · exact (mirrors_hexCode ..).map fun _ _ h => congrArg _ h
  | octal digits =>
      unfold push
      dsimp only
      split
      · exact mirrors_ok rfl
      · exact (mirrors_octalCode ..).map fun _ _ h => congrArg _ h
  | unnamed => exact mirrors_ok rfl
  | named name =>
      unfold push
      dsimp only
      split
      · split
        · exact mirrors_error _ _
        · split
          · exact mirrors_ok rfl
          · exact mirrors_error _ _
      · exact mirrors_ok rfl

theorem mirrors_stop (n : Numeric) (start start' position position' : Nat) :
    Mirrors Eq (n.stop start position) (n.stop start' position') := by
  cases n with
  | octal digits => exact mirrors_octalCode ..
  | named name => cases name <;> exact mirrors_error _ _
  | _ => exact mirrors_error _ _

end Numeric

/-! ## Bracketed classes -/

/-- Stages that differ at most in where an escape begins. -/
inductive Stage.Same : Stage → Stage → Prop where
  | opened : Same .opened .opened
  | member : Same .member .member
  | memberEscape (shown : List Char) (start start' : Nat) (n : Numeric) :
      Same (.memberEscape shown start n) (.memberEscape shown start' n)
  | dash (shown : List Char) (item : ClassItem) : Same (.dash shown item) (.dash shown item)
  | upper (shown : List Char) (item : ClassItem) : Same (.upper shown item) (.upper shown item)
  | upperEscape (shown : List Char) (item : ClassItem) (shownHigh : List Char)
      (start start' : Nat) (n : Numeric) :
      Same (.upperEscape shown item shownHigh start n) (.upperEscape shown item shownHigh start' n)

/-- Classes that differ at most in where they and their escapes begin. -/
structure Bracket.Same (b b' : Bracket) : Prop where
  negated : b.negated = b'.negated
  items : b.items = b'.items
  stage : b.stage.Same b'.stage

namespace Bracket

variable {b b' : Bracket}

/-- What taking a symbol leads to is the same: a class that goes on, or a test. -/
def SameStep : Bracket ⊕ CharTest → Bracket ⊕ CharTest → Prop
  | .inl b, .inl b' => b.Same b'
  | .inr t, .inr t' => t = t'
  | _, _ => False

theorem Same.test (h : b.Same b') : b.test = b'.test := by
  unfold Bracket.test
  rw [h.items, h.negated]

theorem Same.add (h : b.Same b') (item : ClassItem) : (b.add item).Same (b'.add item) :=
  ⟨h.negated, congrArg (item :: ·) h.items, h.stage⟩

theorem Same.enter (h : b.Same b') {stage stage' : Stage} (hstage : stage.Same stage') :
    Same { b with stage } { b' with stage := stage' } :=
  ⟨h.negated, h.items, hstage⟩

theorem Same.mirrors_addRange (h : b.Same b') (shown : List Char) (low : ClassItem)
    (shownHigh : List Char) (high : ClassItem) (position position' : Nat) :
    Mirrors Same (b.addRange shown low shownHigh high position)
      (b'.addRange shown low shownHigh high position') := by
  unfold addRange
  dsimp only
  split
  · split
    · exact mirrors_error _ _
    · exact mirrors_ok ((h.add _).enter .member)
  · exact mirrors_error _ _

theorem Same.mirrors_member (h : b.Same b') (s : Symbol) (position position' : Nat) :
    Mirrors SameStep (b.member s position) (b'.member s position') := by
  have hitems : b'.items.isEmpty = b.items.isEmpty := congrArg _ h.items.symm
  unfold member
  rw [hitems]
  split
  · exact mirrors_ok h.test
  · split
    · split
      · exact mirrors_ok (h.enter (.dash _ _))
      · exact mirrors_ok (h.enter (.dash _ _))
      · exact mirrors_ok (h.enter (.memberEscape _ _ _ _))
      · exact mirrors_error _ _
    · exact mirrors_ok (h.enter (.dash _ _))

theorem Same.mirrors_upper (h : b.Same b') (shown : List Char) (low : ClassItem) (s : Symbol)
    (position position' : Nat) :
    Mirrors SameStep (b.upper shown low s position) (b'.upper shown low s position') := by
  unfold upper
  split
  · exact mirrors_ok ((h.add _).add _).test
  · split
    · split
      · exact (h.mirrors_addRange ..).map fun _ _ h => h
      · exact (h.mirrors_addRange ..).map fun _ _ h => h
      · exact mirrors_ok (h.enter (.upperEscape _ _ _ _ _ _))
      · exact mirrors_error _ _
    · exact (h.mirrors_addRange ..).map fun _ _ h => h

theorem Same.mirrors_settle (h : b.Same b') (position position' : Nat) :
    Mirrors Same (b.settle position) (b'.settle position') := by
  unfold settle
  cases b with
  | mk start negated items stage =>
    cases b' with
    | mk start' negated' items' stage' =>
      have hstage := h.stage
      dsimp only at hstage ⊢
      cases hstage with
      | memberEscape shown a a' n =>
          refine (n.mirrors_stop ..).map ?_
          rintro code _ rfl
          exact h.enter (.dash _ _)
      | upperEscape shown item shownHigh a a' n =>
          refine (n.mirrors_stop ..).bind ?_
          rintro code _ rfl
          exact h.mirrors_addRange ..
      | _ => exact mirrors_ok h

theorem Same.inEscape (h : b.Same b') (s : Symbol) : b.inEscape s = b'.inEscape s := by
  unfold Bracket.inEscape
  cases b with
  | mk start negated items stage =>
    cases b' with
    | mk start' negated' items' stage' =>
      have hstage := h.stage
      dsimp only at hstage ⊢
      cases hstage <;> rfl

theorem Same.mirrors_settleBefore (h : b.Same b') (s : Symbol) (position position' : Nat) :
    Mirrors Same (b.settleBefore s position) (b'.settleBefore s position') := by
  unfold settleBefore
  rw [h.inEscape]
  split
  · exact mirrors_ok h
  · exact h.mirrors_settle ..

/-- **Classes that are the same go on to be the same**, wherever they stand. -/
theorem Same.mirrors_push (h : b.Same b') (s : Symbol) (position position' : Nat) :
    Mirrors SameStep (b.push s position) (b'.push s position') := by
  unfold push
  cases b with
  | mk start negated items stage =>
    cases b' with
    | mk start' negated' items' stage' =>
      have hstage := h.stage
      dsimp only at hstage ⊢
      cases hstage with
      | opened =>
          -- a caret negates the class, any other symbol is a member
          dsimp only
          split
          · exact mirrors_ok ⟨rfl, h.items, .member⟩
          · exact h.mirrors_member ..
      | member => exact h.mirrors_member ..
      | memberEscape shown a a' n =>
          refine (n.mirrors_push ..).bind ?_
          rintro step _ rfl
          cases step with
          | inl n => exact mirrors_ok (h.enter (.memberEscape _ _ _ _))
          | inr code => exact mirrors_ok (h.enter (.dash _ _))
      | dash shown item =>
          dsimp only
          split
          · exact mirrors_ok (h.enter (.upper _ _))
          · exact (h.add item).mirrors_member ..
      | upper shown item => exact h.mirrors_upper ..
      | upperEscape shown item shownHigh a a' n =>
          refine (n.mirrors_push ..).bind ?_
          rintro step _ rfl
          cases step with
          | inl n => exact mirrors_ok (h.enter (.upperEscape _ _ _ _ _ _))
          | inr code => exact (h.mirrors_addRange ..).map fun _ _ h => h

end Bracket

/-! ## Lexemes -/

/-- Lexemes that differ at most in where they begin. Flags have begun with one of them. -/
inductive Pending.Same : Pending → Pending → Prop where
  | ready : Same .ready .ready
  | quantified : Same .quantified .quantified
  | lineComment : Same .lineComment .lineComment
  | escape (start start' : Nat) (n : Numeric) : Same (.escape start n) (.escape start' n)
  | reference (start start' : Nat) (first : Char) :
      Same (.reference start first) (.reference start' first)
  | octalReference (start start' : Nat) (first second : Char) :
      Same (.octalReference start first second) (.octalReference start' first second)
  | bounds (start start' : Nat) (least : List Char) (most : Option (List Char)) :
      Same (.bounds start least most) (.bounds start' least most)
  | bracket {b b' : Bracket} (h : b.Same b') : Same (.bracket b) (.bracket b')
  | opening (start start' : Nat) : Same (.opening start) (.opening start')
  | extension (start start' : Nat) : Same (.extension start) (.extension start')
  | namedExtension (start start' : Nat) : Same (.namedExtension start) (.namedExtension start')
  | behindExtension (start start' : Nat) :
      Same (.behindExtension start) (.behindExtension start')
  | comment (start start' : Nat) : Same (.comment start) (.comment start')
  | name (start start' : Nat) (use : NameUse) (chars : List Char) :
      Same (.name start use chars) (.name start' use chars)
  | flags (start start' : Nat) {on : List Char} (h : on ≠ []) :
      Same (.flags start on) (.flags start' on)
  | flagsOff (start start' : Nat) (on off : List Char) :
      Same (.flagsOff start on off) (.flagsOff start' on off)

end PathRouter.Regex
