import PathRouter.Regex.Fault

/-!
# The symbols of an expression

An expression is read symbol by symbol. A symbol is a character, or a backslash with the character
after it. A backslash at the very end belongs to no symbol; it is reported when the symbol before it
is taken.
-/

set_option autoImplicit false

namespace PathRouter.Regex

/-- A character, or a backslash with the character after it. -/
structure Symbol where
  escaped : Bool
  char : Char
  deriving DecidableEq

namespace Symbol

/-- The symbol of a character without a backslash. -/
def plain (c : Char) : Symbol := ⟨false, c⟩

/-- The number of characters of a symbol. -/
def width (s : Symbol) : Nat := if s.escaped then 2 else 1

/-- A symbol as it is spelt. -/
def chars (s : Symbol) : List Char := if s.escaped then ['\x5c', s.char] else [s.char]

/-- Whether a symbol is the character `c` without a backslash. -/
def is (s : Symbol) (c : Char) : Bool := !s.escaped && s.char == c

/-- Whether a symbol is a character without a backslash that passes `test`. -/
def isPlain (s : Symbol) (test : Char → Bool) : Bool := !s.escaped && test s.char

end Symbol

/-- The symbols of an expression, and whether a lone backslash ends it. -/
def symbols : List Char → List Symbol × Bool
  | [] => ([], false)
  | '\x5c' :: [] => ([], true)
  | '\x5c' :: c :: rest => let (ss, lone) := symbols rest; (⟨true, c⟩ :: ss, lone)
  | c :: rest => let (ss, lone) := symbols rest; (.plain c :: ss, lone)

/-- Refuses an expression for a fault of spelling. -/
def misspelt {α : Type} (problem : Problem) (position : Nat) : Except Error α :=
  .error (.fault (.misspelt problem position))

end PathRouter.Regex
