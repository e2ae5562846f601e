import PathRouter.Text.Class

/-!
# Blanks at the ends, and lines

`trim` drops the blanks at both ends of a text; `lines` cuts a text at its line boundaries.
-/

set_option autoImplicit false

namespace PathRouter.Text

/-- The characters of `cs` without the blanks at its two ends. -/
def trimChars (cs : List Char) : List Char :=
  ((cs.dropWhile isBlank).reverse.dropWhile isBlank).reverse

/-- The text without the blanks at its two ends. -/
def trim (s : String) : String := String.ofList (trimChars s.toList)

/-- A character that ends a line. -/
def isLineEnd (c : Char) : Bool :=
  let n := c.toNat
  (10 ≤ n && n ≤ 13) || (0x1c ≤ n && n ≤ 0x1e) || n == 0x85 || n == 0x2028 || n == 0x2029

/-- The lines of `cs`, where `line` holds the characters of the line begun, the latest first. A
carriage return and the line feed after it are one boundary, and a boundary at the very end opens
no further line. -/
def linesFrom (line : List Char) : List Char → List (List Char)
  | [] => if line.isEmpty then [] else [line.reverse]
  | '\r' :: '\n' :: rest => line.reverse :: linesFrom [] rest
  | c :: rest =>
    if isLineEnd c then line.reverse :: linesFrom [] rest else linesFrom (c :: line) rest

/-- The lines of a text, without their boundaries. -/
def lines (s : String) : List String := (linesFrom [] s.toList).map String.ofList

end PathRouter.Text
