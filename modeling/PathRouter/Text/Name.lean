import PathRouter.Text.Class
import PathRouter.Text.Names.Alphabets
import PathRouter.Text.Names.Ancient
import PathRouter.Text.Names.Forms
import PathRouter.Text.Names.Pictures
import PathRouter.Text.Names.Syllabaries
import PathRouter.Text.Names.Symbols

/-!
# Characters by their names

`codeOfName? name` is the code point of the character of a name. Capital and small letters of ASCII
count as the same in the names of tables, but not in those of syllables and unified ideographs.
-/

set_option autoImplicit false

namespace PathRouter.Text

/-- What follows a lead in a name that begins with it. -/
def afterLead? (lead : String) (name : List Char) : Option (List Char) :=
  if lead.toList.isPrefixOf name then some (name.drop lead.length) else none

/-! ## Names by rule -/

/-- The number of hexadecimal digits, those above nine in capitals. -/
def codeOfDigits? (digits : List Char) : Option Nat :=
  digits.foldlM (fun code d => ("0123456789ABCDEF".toList.idxOf? d).map (16 * code + ·)) 0

/-- The code point of a unified ideograph: four or five digits, the first of which may be zero. -/
def ideographCode? (name : List Char) : Option Nat := do
  let digits ← afterLead? "CJK UNIFIED IDEOGRAPH-" name
  let code ← codeOfDigits? digits
  if (digits.length = 4 || digits.length = 5) && codeInRanges unifiedIdeographs code then some code
  else none

/-- Whether a letter belongs to the sound in the middle of a syllable. -/
def isMedialLetter (c : Char) : Bool := "AEIOUWY".toList.contains c

/-- The code point of a syllable: its three sounds count like digits. -/
def syllableCode? (name : List Char) : Option Nat := do
  let sounds ← afterLead? "HANGUL SYLLABLE " name
  let initial := sounds.takeWhile fun c => !isMedialLetter c
  let others := sounds.drop initial.length
  let medial := others.takeWhile isMedialLetter
  let i ← initialSounds.idxOf? (String.ofList initial)
  let m ← medialSounds.idxOf? (String.ofList medial)
  let f ← finalSounds.idxOf? (String.ofList (others.drop medial.length))
  return 0xac00 + (i * medialSounds.length + m) * finalSounds.length + f

/-- The code point that a name ends with, written without zeros in front. -/
def codedCode? (name : List Char) : Option Nat :=
  codedNames.findSome? fun (lead, ranges) => do
    let digits ← afterLead? lead name
    let code ← codeOfDigits? digits
    if digits.head? ≠ some '0' && codeInRanges ranges code then some code else none

/-! ## Names in tables -/

/-- The code point of a name in a run. -/
def NameRun.code? (run : NameRun) (name : List Char) : Option Nat := do
  let ending ← afterLead? run.lead name
  let place ← (run.rows.flatMap (·.splitOn ";")).idxOf? (String.ofList ending)
  return run.first + place

/-- All runs of names. -/
def nameRuns : List NameRun :=
  alphabetNames ++ syllabaryNames ++ symbolNames ++ formNames ++ ancientNames ++ pictureNames ++
    selectorNames

/-- The code point of the character of a name. -/
def codeOfName? (name : List Char) : Option Nat :=
  let capital := name.map Char.toUpper
  (syllableCode? name).or <| (ideographCode? name).or <|
    (aliasCodes.lookup (String.ofList capital)).or <| (codedCode? capital).or <|
      nameRuns.findSome? fun run => run.code? capital

end PathRouter.Text
