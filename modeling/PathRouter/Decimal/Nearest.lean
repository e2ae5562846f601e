/-!
# The double nearest to a ratio

`nearest num den` is the double-precision number nearest to `num / den`, an exact tie going to the
one with the even significand. A finite double is `significand * 2 ^ exponent`; written as bits
without its sign it is `(exponent + 1074) * 2 ^ 52 + significand`, for subnormal numbers too, so
that a significand that rounds up to `2 ^ 53` carries into the exponent by itself.
-/

set_option autoImplicit false

namespace PathRouter.Decimal

/-- The integer nearest to `num / den`; a tie goes to the even one. -/
def roundHalfEven (num den : Nat) : Nat :=
  let floor := num / den
  let twice := 2 * (num % den)
  if twice < den then floor
  else if den < twice then floor + 1
  else floor + floor % 2

/-- The lowest bit of the exponent, `2 ^ 52`: the leading bit of a normal significand. -/
def exponentUnit : Nat := 0x10000000000000

/-- The bit of the sign, `2 ^ 63`. -/
def signBit : Nat := 0x8000000000000000

/-- The greatest `k` with `2 ^ k ≤ num / den`, for a positive ratio. -/
def floorLog2 (num den : Nat) : Int :=
  let k : Int := (num.log2 : Int) - (den.log2 : Int)
  let reached := if 0 ≤ k then den * Nat.pow 2 k.toNat ≤ num else den ≤ num * Nat.pow 2 (-k).toNat
  if reached then k else k - 1

/-- The bits of positive infinity. -/
def infinityBits : Nat := 0x7ff * exponentUnit

/-- The bits of the double nearest to `num / den`. Ratios of `2 ^ 1024` and more, rounded, are
infinite. -/
def nearestBits (num den : Nat) : Nat :=
  if num = 0 then 0
  else
    let exponent := max (floorLog2 num den - 52) (-1074)
    let significand :=
      if 0 ≤ exponent then roundHalfEven num (den * Nat.pow 2 exponent.toNat)
      else roundHalfEven (num * Nat.pow 2 (-exponent).toNat) den
    min infinityBits ((exponent + 1074).toNat * exponentUnit + significand)

/-- The double with the given sign and the bits of its magnitude. -/
def ofMagnitude (negative : Bool) (bits : Nat) : Float :=
  Float.ofBits (UInt64.ofNat (if negative then bits + signBit else bits))

/-- The double nearest to `num / den`. -/
def nearest (num den : Nat) : Float := ofMagnitude false (nearestBits num den)

/-- The bits of the double nearest to `mantissa * 10 ^ exponent`. A number with more than 400 digits
before the point is infinite, and one with more than 400 zeros after it is zero. -/
def nearestDecimalBits (mantissa : Nat) (exponent : Int) : Nat :=
  if mantissa = 0 then 0
  else
    let digits : Int := (Nat.toDigits 10 mantissa).length
    if 400 < digits + exponent then infinityBits
    else if digits + exponent < -400 then 0
    else if 0 ≤ exponent then nearestBits (mantissa * Nat.pow 10 exponent.toNat) 1
    else nearestBits mantissa (Nat.pow 10 (-exponent).toNat)

/-- The double nearest to an integer, unless that is infinite. -/
def ofInt? (n : Int) : Option Float :=
  let bits := nearestBits n.natAbs 1
  if bits < infinityBits then some (ofMagnitude (n < 0) bits) else none

/-- A finite magnitude as a ratio of two integers. -/
def ratioOfBits (bits : Nat) : Nat × Nat :=
  let field : Nat := bits / exponentUnit
  let significand := if field = 0 then bits else bits % exponentUnit + exponentUnit
  let exponent : Int := max (field : Int) 1 - 1075
  if 0 ≤ exponent then (significand * Nat.pow 2 exponent.toNat, 1)
  else (significand, Nat.pow 2 (-exponent).toNat)

/-- The bits of the magnitude of a double. -/
def magnitude (x : Float) : Nat := x.toBits.toNat % signBit

/-- Whether the sign of a double is set. -/
def isNegative (x : Float) : Bool := signBit ≤ x.toBits.toNat

/-- The integer that a double is, if it is one. -/
def toInt? (x : Float) : Option Int :=
  if infinityBits ≤ magnitude x then none
  else
    let (num, den) := ratioOfBits (magnitude x)
    if num % den = 0 then
      some (if isNegative x then -((num / den : Nat) : Int) else ((num / den : Nat) : Int))
    else none

/-- The least integer that is not below a double, unless the double is infinite or NaN. -/
def ceil? (x : Float) : Option Int :=
  if infinityBits ≤ magnitude x then none
  else
    let (num, den) := ratioOfBits (magnitude x)
    some (if isNegative x then -((num / den : Nat) : Int)
      else (((num + den - 1) / den : Nat) : Int))

end PathRouter.Decimal
