import PathRouter.Decimal.Nearest

/-!
# The shortest text of a double

A double is written with the fewest digits that read back as the same double, and of the texts with
so many digits by the one nearest to it. Numbers from `10 ^ 16` on and below `10 ^ -4` are written
with an exponent of at least two digits; others positionally, with a digit on either side of the
point.
-/

set_option autoImplicit false

namespace PathRouter.Decimal

/-- The number `k` with `10 ^ (k - 1) ≤ num / den < 10 ^ k`, for a positive ratio, searched upwards
from `k` in at most `fuel` steps. -/
def pointFrom (num den : Nat) : Nat → Int → Int
  | 0, k => k
  | fuel + 1, k =>
    let below := if 0 ≤ k then num < den * Nat.pow 10 k.toNat else num * Nat.pow 10 (-k).toNat < den
    if below then k else pointFrom num den fuel (k + 1)

/-- The number of digits before the point of a positive finite magnitude, at most zero where the
first digits after the point are zeros. -/
def pointOf (num den : Nat) : Int := pointFrom num den 640 (-330)

/-- The integer next below `num / den / 10 ^ unit`, and whether the one above is nearer. -/
def onGrid (num den : Nat) (unit : Int) : Nat × Bool :=
  let (n, d) :=
    if 0 ≤ unit then (num, den * Nat.pow 10 unit.toNat) else (num * Nat.pow 10 (-unit).toNat, den)
  (n / d, d < 2 * (n % d) || (d == 2 * (n % d) && n / d % 2 == 1))

/-- The digits and the exponent of the shortest decimal that reads back as `bits`, tried from
`count` digits on. -/
def shortestFrom (bits num den : Nat) (point : Int) : Nat → Nat → Nat × Int
  | 0, count =>
    let unit := point - count
    ((onGrid num den unit).1, unit)
  | fuel + 1, count =>
    let unit := point - count
    let (low, up) := onGrid num den unit
    let (first, second) := if up then (low + 1, low) else (low, low + 1)
    if nearestDecimalBits first unit = bits then (first, unit)
    else if nearestDecimalBits second unit = bits then (second, unit)
    else shortestFrom bits num den point fuel (count + 1)

/-- The digits of the shortest decimal of a positive finite magnitude, and how many of them stand
before the point. -/
def shortest (bits : Nat) : List Char × Int :=
  let (num, den) := ratioOfBits bits
  let (digits, unit) := shortestFrom bits num den (pointOf num den) 17 1
  let shown := Nat.toDigits 10 digits
  let trimmed := (shown.reverse.dropWhile (· == '0')).reverse
  (trimmed, shown.length + unit)

/-- Digits with a point after the first `point` of them, padded with zeros. -/
def positional (digits : List Char) (point : Int) : List Char :=
  if point ≤ 0 then
    '0' :: '.' :: List.replicate (-point).toNat '0' ++ digits
  else
    let before := digits.take point.toNat
    let after := digits.drop point.toNat
    before ++ List.replicate (point.toNat - digits.length) '0' ++
      '.' :: (if after.isEmpty then ['0'] else after)

/-- Digits with a point after the first and an exponent. -/
def scientific (digits : List Char) (point : Int) : List Char :=
  let exponent := point - 1
  let size := Nat.toDigits 10 exponent.natAbs
  let mantissa := match digits with
    | d :: e :: rest => d :: '.' :: e :: rest
    | short => short
  mantissa ++ 'e' :: (if exponent < 0 then '-' else '+') ::
    (List.replicate (2 - size.length) '0' ++ size)

/-- The text of a double. -/
def text (x : Float) : String :=
  let bits := magnitude x
  if infinityBits < bits then "nan"
  else
    let unsigned :=
      if bits = infinityBits then "inf".toList
      else if bits = 0 then "0.0".toList
      else
        let (digits, point) := shortest bits
        if -4 < point && point ≤ 16 then positional digits point else scientific digits point
    String.ofList (if isNegative x then '-' :: unsigned else unsigned)

end PathRouter.Decimal
