import PathRouter.Text.CaseTable
import PathRouter.Text.Class

/-!
# Upper and lower case

`upper` and `lower` are the full case mappings: one character may become several, and a capital
sigma that ends a word becomes the final form of the small letter. `upperHead` and `lowerHead` give
one character for one character, the first of the full mapping, which is what case-insensitive
comparison uses.
-/

set_option autoImplicit false

namespace PathRouter.Text

/-- The image of the code point `n` under one-to-one mappings given as runs
`(first, last, step, image)`; a code point of no run is its own image. -/
def mapRuns (runs : List (Nat × Nat × Nat × Nat)) (n : Nat) : Nat :=
  match runs.find? fun (first, last, step, _) =>
      first ≤ n && n ≤ last && (n - first) % step == 0 with
  | some (first, _, _, image) => image + (n - first)
  | none => n

/-- The full upper-case form of a character. -/
def upperChars (c : Char) : List Char :=
  if isAscii c then [c.toUpper]
  else match upperExpansions.lookup c.toNat with
    | some ns => ns.map Char.ofNat
    | none => [Char.ofNat (mapRuns upperRuns c.toNat)]

/-- The full lower-case form of a character that stands alone. -/
def lowerChars (c : Char) : List Char :=
  if isAscii c then [c.toLower]
  else match lowerExpansions.lookup c.toNat with
    | some ns => ns.map Char.ofNat
    | none => [Char.ofNat (mapRuns lowerRuns c.toNat)]

/-- The first character of the upper-case form. -/
def upperHead (c : Char) : Char := (upperChars c).headD c

/-- The first character of the lower-case form. -/
def lowerHead (c : Char) : Char := (lowerChars c).headD c

/-- The upper-case form of a text. -/
def upper (s : String) : String := String.ofList (s.toList.flatMap upperChars)

/-- Whether the first character that is not skipped has a case. -/
def meetsCased (cs : List Char) : Bool :=
  match cs.dropWhile (inRanges caseIgnorableRanges ·) with
  | [] => false
  | c :: _ => inRanges casedRanges c

/-- The lower-case form of `rest`, where `before` holds the characters already passed, the nearest
first. A capital sigma takes its final form after a cased letter and before none. -/
def lowerAfter (before : List Char) : List Char → List Char
  | [] => []
  | c :: rest =>
    let image :=
      if c == 'Σ' then
        [if meetsCased before && !meetsCased rest then 'ς' else 'σ']
      else lowerChars c
    image ++ lowerAfter (c :: before) rest

/-- The lower-case form of a text. -/
def lower (s : String) : String := String.ofList (lowerAfter [] s.toList)

end PathRouter.Text
