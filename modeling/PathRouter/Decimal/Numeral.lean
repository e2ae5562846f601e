import PathRouter.Decimal.Nearest
import PathRouter.Text.Class

/-!
# Reading numerals

How an integer and a decimal are read from a text: blanks around the numeral are ignored, digits of
any script count, and a single underscore may stand between two digits.
-/

set_option autoImplicit false

namespace PathRouter.Decimal

open Text

/-- The ASCII character that a character of a numeral counts as. -/
def plainChar (c : Char) : Char :=
  if c.toNat < 0x7f then c
  else if isBlank c then ' '
  else match digitValue? c with
    | some d => Nat.digitChar d
    | none => '?'

/-- A numeral in ASCII, without the blanks around it. -/
def plainNumeral (cs : List Char) : List Char :=
  let plain := cs.map plainChar
  ((plain.dropWhile isAsciiBlank).reverse.dropWhile isAsciiBlank).reverse

/-- The digits of a run in which single underscores may stand between digits. -/
def digitRun? : List Char → Option (List Char)
  | [] => none
  | [d] => if d.isDigit then some [d] else none
  | d :: '_' :: rest => if d.isDigit then (digitRun? rest).map (d :: ·) else none
  | d :: rest => if d.isDigit then (digitRun? rest).map (d :: ·) else none

/-- The value of a run of digits. -/
def digitsValue (digits : List Char) : Nat :=
  digits.foldl (fun n d => 10 * n + (d.toNat - 0x30)) 0

/-- The sign in front of a numeral, and the rest. -/
def splitSign : List Char → Bool × List Char
  | '-' :: rest => (true, rest)
  | '+' :: rest => (false, rest)
  | rest => (false, rest)

/-- The most digits an integer may be written with. -/
def maxDigits : Nat := 4300

/-- The least magnitude that has more digits than an integer may be written with. -/
def leastUnwritable : Nat := Nat.pow 10 maxDigits

/-- The integer that a text spells. -/
def integer? (cs : List Char) : Option Int :=
  let (negative, rest) := splitSign (plainNumeral cs)
  match digitRun? rest with
  | none => none
  | some digits =>
    if maxDigits < digits.length then none
    else
      let value : Int := digitsValue digits
      some (if negative then -value else value)

/-- A text without its underscores, if each of them stands between two digits. -/
def withoutUnderscores? (previous : Char) : List Char → Option (List Char)
  | [] => if previous == '_' then none else some []
  | c :: rest =>
    if c == '_' then
      if previous.isDigit then withoutUnderscores? c rest else none
    else if previous == '_' && !c.isDigit then none
    else (withoutUnderscores? c rest).map (c :: ·)

/-- The exponent of a decimal, zero if there is none. -/
def exponent? : List Char → Option Int
  | [] => some 0
  | e :: rest =>
    if e == 'e' || e == 'E' then
      let (negative, digits) := splitSign rest
      if digits.isEmpty || !digits.all Char.isDigit then none
      else
        let value : Int := digitsValue digits
        some (if negative then -value else value)
    else none

/-- The bits of the magnitude of an unsigned decimal. -/
def magnitude? (cs : List Char) : Option Nat :=
  let whole := cs.takeWhile Char.isDigit
  let rest := cs.dropWhile Char.isDigit
  let (fraction, rest) := match rest with
    | '.' :: more => (more.takeWhile Char.isDigit, more.dropWhile Char.isDigit)
    | _ => ([], rest)
  if whole.isEmpty && fraction.isEmpty then none
  else
    (exponent? rest).map fun e =>
      nearestDecimalBits (digitsValue (whole ++ fraction)) (e - fraction.length)

/-- The double that a text spells, infinities and the value that is not a number included. -/
def decimal? (cs : List Char) : Option Float :=
  match withoutUnderscores? ' ' (plainNumeral cs) with
  | none => none
  | some plain =>
    let (negative, rest) := splitSign plain
    let word := rest.map Char.toLower
    if word == "inf".toList || word == "infinity".toList then
      some (ofMagnitude negative infinityBits)
    else if word == "nan".toList then
      some (ofMagnitude negative (infinityBits + exponentUnit / 2))
    else (magnitude? rest).map (ofMagnitude negative)

end PathRouter.Decimal
