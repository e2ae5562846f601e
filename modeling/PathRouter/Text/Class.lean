import PathRouter.Text.LetterTable
import PathRouter.Text.IdentifierTable
import PathRouter.Text.PrintableTable

/-!
# Classes of characters

The classes of Unicode characters on which patterns and messages depend: letters, numbers, word
characters, decimal digits, blanks, identifier characters, and characters that have a picture.
Below U+0080 every class is given by its ASCII members; from U+0080 on it is read off a table.
-/

set_option autoImplicit false

namespace PathRouter.Text

/-- Whether a code point lies in one of the inclusive ranges `ranges`. -/
def codeInRanges (ranges : List (Nat × Nat)) (code : Nat) : Bool :=
  ranges.any fun r => r.1 ≤ code && code ≤ r.2

/-- Whether the code point of `c` lies in one of the inclusive ranges `ranges`. -/
def inRanges (ranges : List (Nat × Nat)) (c : Char) : Bool := codeInRanges ranges c.toNat

/-- A character of the ASCII block. -/
def isAscii (c : Char) : Bool := c.toNat < 0x80

/-- A letter of any script. -/
def isLetter (c : Char) : Bool :=
  if isAscii c then c.isAlpha else inRanges letterRanges c

/-- A character that carries a numeric value and is not a letter. -/
def isNumber (c : Char) : Bool :=
  if isAscii c then c.isDigit else inRanges numberRanges c

/-- A letter, a number or the underscore. -/
def isWord (c : Char) : Bool := isLetter c || isNumber c || c == '_'

/-- A letter, a digit or the underscore, all of ASCII. -/
def isAsciiWord (c : Char) : Bool := c.isAlphanum || c == '_'

/-- The value of a decimal digit of any script. -/
def digitValue? (c : Char) : Option Nat :=
  if isAscii c then
    if c.isDigit then some (c.toNat - 0x30) else none
  else
    (zeroDigits.find? fun z => z ≤ c.toNat && c.toNat ≤ z + 9).map (c.toNat - ·)

/-- A decimal digit of any script. -/
def isDigit (c : Char) : Bool := (digitValue? c).isSome

/-- White space of any script, the four separators U+001C to U+001F included. -/
def isBlank (c : Char) : Bool :=
  let n := c.toNat
  (9 ≤ n && n ≤ 13) || (0x1c ≤ n && n ≤ 0x20) || n == 0x85 || n == 0xa0 || n == 0x1680 ||
    (0x2000 ≤ n && n ≤ 0x200a) || n == 0x2028 || n == 0x2029 || n == 0x202f || n == 0x205f ||
    n == 0x3000

/-- The space, the tab and the four line controls of ASCII. -/
def isAsciiBlank (c : Char) : Bool :=
  let n := c.toNat
  (9 ≤ n && n ≤ 13) || n == 0x20

/-- A character that is shown as it is: everything but controls, separators other than the space,
and code points that no character is assigned to. -/
def isPrintable (c : Char) : Bool :=
  if c.toNat < 0x7f then 0x20 ≤ c.toNat else !inRanges unprintableRanges c

/-- A character that may start an identifier. -/
def isIdentifierStart (c : Char) : Bool :=
  if isAscii c then c.isAlpha || c == '_'
  else (inRanges letterRanges c && !inRanges identifierStartExcept c) ||
    inRanges identifierStartExtra c

/-- A character that may go on with an identifier. -/
def isIdentifierContinue (c : Char) : Bool :=
  isIdentifierStart c || c.isDigit || (!isAscii c && inRanges identifierContinueExtra c)

/-- A non-empty word that starts like an identifier and goes on like one. -/
def isIdentifier : List Char → Bool
  | [] => false
  | c :: rest => isIdentifierStart c && rest.all isIdentifierContinue

end PathRouter.Text
