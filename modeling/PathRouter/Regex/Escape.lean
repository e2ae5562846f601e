import PathRouter.Regex.Symbol
import PathRouter.Regex.Syntax
import PathRouter.Text.Name

/-!
# Escapes

What a backslash and the character after it mean: a place, a named class, a control character, or
the beginning of an escape that goes on with digits or a name (`Numeric`). `literal` is the other
direction: the expression that matches a text and nothing else.
-/

set_option autoImplicit false

namespace PathRouter.Regex

open Text

/-- The characters that have a meaning somewhere in an expression. -/
def isSpecial (c : Char) : Bool := "()[]\x7b\x7d?*+-|^$\\.&~# \t\n\r\x0b\x0c".toList.contains c

/-- An expression, in characters, for the text `cs` itself. -/
def literal (cs : List Char) : List Char :=
  cs.flatMap fun c => if isSpecial c then ['\x5c', c] else [c]

/-- An octal digit. -/
def isOctal (c : Char) : Bool := '0' ≤ c && c ≤ '7'

/-- A hexadecimal digit. -/
def isHex (c : Char) : Bool :=
  c.isDigit || ('a' ≤ c && c ≤ 'f') || ('A' ≤ c && c ≤ 'F')

/-- The value of a hexadecimal digit. -/
def hexValue (c : Char) : Nat :=
  if c.isDigit then c.toNat - 0x30
  else if c.isUpper then c.toNat - 0x37
  else c.toNat - 0x57

/-- The value of digits in a base of at most sixteen. -/
def valueIn (base : Nat) (digits : List Char) : Nat :=
  digits.foldl (fun n d => base * n + hexValue d) 0

/-- An escape that has begun. Characters already read are held latest first. -/
inductive Numeric where
  /-- `\x`, `\u` or `\U` and a fixed number of hexadecimal digits. -/
  | hex (letter : Char) (wanted : Nat) (digits : List Char)
  /-- Up to three octal digits. -/
  | octal (digits : List Char)
  /-- `\N`, whose brace is still to come. -/
  | unnamed
  /-- The name in braces after `\N`. -/
  | named (name : List Char)
  deriving DecidableEq

namespace Numeric

/-- Whether the escape goes on with a symbol. -/
def takes : Numeric → Symbol → Bool
  | .hex .., s => s.isPlain isHex
  | .octal _, s => s.isPlain isOctal
  | .unnamed, s => s.is '\x7b'
  | .named _, _ => true

/-- The code point of a hexadecimal escape that is complete. -/
def hexCode (letter : Char) (digits : List Char) (start : Nat) : Except Error Nat :=
  let code := valueIn 16 digits.reverse
  if code < 0x110000 then .ok code
  else if 0x80000000 ≤ code then .error (.excess .codePoint)
  else misspelt (.badEscape ('\x5c' :: letter :: digits.reverse)) start

/-- The code point of an octal escape that is complete. -/
def octalCode (digits : List Char) (start : Nat) : Except Error Nat :=
  let code := valueIn 8 digits.reverse
  if code ≤ 0xff then .ok code
  else misspelt (.octalTooLarge ('\x5c' :: digits.reverse)) start

/-- Takes one more symbol: the escape goes on, or it is complete and names a code point. `start` is
where the escape begins, `position` the place after the symbol. -/
def push (n : Numeric) (s : Symbol) (start position : Nat) : Except Error (Numeric ⊕ Nat) :=
  match n with
  | .hex letter wanted digits =>
    let digits := s.char :: digits
    if digits.length < wanted then .ok (.inl (.hex letter wanted digits))
    else (hexCode letter digits start).map .inr
  | .octal digits =>
    let digits := s.char :: digits
    if digits.length < 3 then .ok (.inl (.octal digits))
    else (octalCode digits start).map .inr
  | .unnamed => .ok (.inl (.named []))
  | .named name =>
    if s.is '\x7d' then
      if name.isEmpty then misspelt (.missingName "character name") (position - 1)
      else match codeOfName? name.reverse with
        | some code => .ok (.inr code)
        | none => misspelt (.undefinedCharacter name.reverse) start
    else .ok (.inl (.named (s.chars.reverse ++ name)))

/-- Ends an escape before a symbol that does not belong to it, or at the end of the expression. -/
def stop (n : Numeric) (start position : Nat) : Except Error Nat :=
  match n with
  | .hex letter _ digits => misspelt (.incompleteEscape ('\x5c' :: letter :: digits.reverse)) start
  | .octal digits => octalCode digits start
  | .unnamed => misspelt .noOpeningBrace position
  | .named [] => misspelt (.missingName "character name") position
  | .named name => misspelt (.unterminatedName '\x7d') (position - name.length)

end Numeric

/-- What an escaped character means outside a class. -/
inductive Escape where
  | place (a : Anchor)
  | kind (k : CharKind) (negated : Bool)
  | code (n : Nat)
  | numeric (n : Numeric)
  /-- The number of a group, or octal digits. -/
  | number (first : Char)
  | unknown
  deriving DecidableEq

/-- The control characters that have an escape of their own. -/
def controlCode? : Char → Option Nat
  | 'a' => some 7
  | 'b' => some 8
  | 't' => some 9
  | 'n' => some 10
  | 'v' => some 11
  | 'f' => some 12
  | 'r' => some 13
  | _ => none

/-- The named class of an escaped letter, and whether it is negated. -/
def namedKind? : Char → Option (CharKind × Bool)
  | 'd' => some (.digit, false)
  | 'D' => some (.digit, true)
  | 's' => some (.space, false)
  | 'S' => some (.space, true)
  | 'w' => some (.word, false)
  | 'W' => some (.word, true)
  | _ => none

/-- The escape that begins with a letter and goes on with digits or a name. -/
def numeric? : Char → Option Numeric
  | 'x' => some (.hex 'x' 2 [])
  | 'u' => some (.hex 'u' 4 [])
  | 'U' => some (.hex 'U' 8 [])
  | 'N' => some .unnamed
  | _ => none

/-- The place of an escaped letter. -/
def place? : Char → Option Anchor
  | 'A' => some .textStart
  | 'Z' => some .textEnd
  | 'b' => some .wordEdge
  | 'B' => some .notWordEdge
  | _ => none

/-- The meaning of an escaped character outside a class. Letters and digits without a meaning are
refused; every other character stands for itself. -/
def Escape.ofChar (c : Char) : Escape :=
  if let some a := place? c then .place a
  else if let some (k, negated) := namedKind? c then .kind k negated
  else if let some n := controlCode? c then .code n
  else if let some n := numeric? c then .numeric n
  else if c == '0' then .numeric (.octal ['0'])
  else if c.isDigit then .number c
  else if c.isAlpha then .unknown
  else .code c.toNat

/-- The meaning of an escaped character inside a class. -/
def Escape.ofClassChar (c : Char) : Escape :=
  if let some (k, negated) := namedKind? c then .kind k negated
  else if let some n := controlCode? c then .code n
  else if let some n := numeric? c then .numeric n
  else if isOctal c then .numeric (.octal [c])
  else if c.isAlphanum then .unknown
  else .code c.toNat

end PathRouter.Regex
