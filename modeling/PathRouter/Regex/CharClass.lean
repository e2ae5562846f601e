import PathRouter.Regex.Syntax
import PathRouter.Text.Case

/-!
# Tests on one character

When a test on one character holds. Where case is ignored, both sides are compared in lower case,
and small letters that share their capital count as the same letter (`caseKin`).
-/

set_option autoImplicit false

namespace PathRouter.Regex

open Text

/-- Small letters that share their capital form with other small letters, each with the others. -/
def sharedCapitals : List (Nat × List Nat) :=
  [(0x69, [0x131]), (0x73, [0x17f]), (0xb5, [0x3bc]), (0x131, [0x69]), (0x17f, [0x73]),
   (0x345, [0x3b9, 0x1fbe]), (0x390, [0x1fd3]), (0x3b0, [0x1fe3]), (0x3b2, [0x3d0]),
   (0x3b5, [0x3f5]), (0x3b8, [0x3d1]), (0x3b9, [0x345, 0x1fbe]), (0x3ba, [0x3f0]),
   (0x3bc, [0xb5]), (0x3c0, [0x3d6]), (0x3c1, [0x3f1]), (0x3c2, [0x3c3]), (0x3c3, [0x3c2]),
   (0x3c6, [0x3d5]), (0x3d0, [0x3b2]), (0x3d1, [0x3b8]), (0x3d5, [0x3c6]), (0x3d6, [0x3c0]),
   (0x3f0, [0x3ba]), (0x3f1, [0x3c1]), (0x3f5, [0x3b5]), (0x432, [0x1c80]), (0x434, [0x1c81]),
   (0x43e, [0x1c82]), (0x441, [0x1c83]), (0x442, [0x1c84, 0x1c85]), (0x44a, [0x1c86]),
   (0x463, [0x1c87]), (0x1c80, [0x432]), (0x1c81, [0x434]), (0x1c82, [0x43e]), (0x1c83, [0x441]),
   (0x1c84, [0x442, 0x1c85]), (0x1c85, [0x442, 0x1c84]), (0x1c86, [0x44a]), (0x1c87, [0x463]),
   (0x1c88, [0xa64b]), (0x1e61, [0x1e9b]), (0x1e9b, [0x1e61]), (0x1fbe, [0x345, 0x3b9]),
   (0x1fd3, [0x390]), (0x1fe3, [0x3b0]), (0xa64b, [0x1c88]), (0xfb05, [0xfb06]),
   (0xfb06, [0xfb05])]

/-- The lower-case form of a code point, one code point for one. -/
def lowerCode (ascii : Bool) (n : Nat) : Nat :=
  if ascii then (if 0x41 ≤ n && n ≤ 0x5a then n + 0x20 else n)
  else if n.isValidChar then (lowerHead (Char.ofNat n)).toNat else n

/-- A small letter and the small letters that count as the same where case is ignored. -/
def caseKin (ascii : Bool) (n : Nat) : List Nat :=
  if ascii then [n] else n :: (sharedCapitals.lookup n).getD []

/-- Every code point whose lower-case form is `n`. -/
def lowerSources (ascii : Bool) (n : Nat) : List Nat :=
  let self := if lowerCode ascii n == n then [n] else []
  let capital := if 0x61 ≤ n && n ≤ 0x7a then [n - 0x20] else []
  let others := if ascii then [] else
    lowerRuns.filterMap (fun (first, last, step, image) =>
      let source := first + (n - image)
      if image ≤ n && source ≤ last && (n - image) % step == 0 then some source else none) ++
    lowerExpansions.filterMap fun (source, image) =>
      if image.head? == some n then some source else none
  self ++ capital ++ others

/-- Whether `c` belongs to a named class. -/
def CharKind.holds (ascii : Bool) : CharKind → Char → Bool
  | .digit, c => if ascii then c.isDigit else isDigit c
  | .space, c => if ascii then isAsciiBlank c else isBlank c
  | .word, c => if ascii then isAsciiWord c else isWord c

/-- Whether `c` belongs to a member of a class where case matters. -/
def ClassItem.holds (ascii : Bool) : ClassItem → Char → Bool
  | .code n, c => c.toNat == n
  | .range low high, c => low ≤ c.toNat && c.toNat ≤ high
  | .kind k negated, c => k.holds ascii c != negated

/-- Whether `c`, a character in lower case, belongs to a member of a class where case is ignored.
Beyond the basic plane a single member stands for itself alone, and a range also admits the
characters whose capital lies in it. -/
def ClassItem.holdsIgnoringCase (ascii : Bool) : ClassItem → Char → Bool
  | .code n, c =>
    if n < 0x10000 then (caseKin ascii (lowerCode ascii n)).contains c.toNat else c.toNat == n
  | .range low high, c =>
    ((caseKin ascii c.toNat).flatMap (lowerSources ascii)).any
        (fun n => low ≤ n && n ≤ high && n < 0x10000) ||
      (0x10000 ≤ high &&
        ((low ≤ c.toNat && c.toNat ≤ high) ||
          (low ≤ (upperHead c).toNat && (upperHead c).toNat ≤ high)))
  | .kind k negated, c => k.holds ascii c != negated

/-- Whether `c` is the character of code `n`. -/
def sameLetter (modes : Modes) (n : Nat) (c : Char) : Bool :=
  if modes.ignoreCase then
    (caseKin modes.ascii (lowerCode modes.ascii n)).contains (lowerCode modes.ascii c.toNat)
  else c.toNat == n

/-- Whether two characters of a text count as equal when one repeats the other. -/
def sameChar (modes : Modes) (c d : Char) : Bool :=
  if modes.ignoreCase then lowerCode modes.ascii c.toNat == lowerCode modes.ascii d.toNat
  else c == d

/-- Whether a character passes a test. -/
def CharTest.holds (modes : Modes) : CharTest → Char → Bool
  | .code n, c => sameLetter modes n c
  | .notCode n, c => !sameLetter modes n c
  | .oneOf negated items, c =>
    let found :=
      if modes.ignoreCase then
        let small := Char.ofNat (lowerCode modes.ascii c.toNat)
        items.any (·.holdsIgnoringCase modes.ascii small)
      else items.any (·.holds modes.ascii c)
    found != negated
  | .any, c => modes.dotAll || c != '\n'

end PathRouter.Regex
