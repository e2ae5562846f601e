import PathRouter.Decimal.Numeral
import Mathlib

set_option autoImplicit false

/-! # Doubles

What settings depend on in doubles. Two doubles can be compared unless one of them is NaN: what is
not less than a bound reaches it or is NaN (`not_lt_iff`, `not_le_iff`). An integer is too large for
a double from `overflow` on, half a unit of the last place above the greatest double
(`ofInt?_eq_none_iff`). An integer that a double is, or that a text spells, is short enough to be
written out (`toInt?_lt`, `integer?_lt`). No count below one reaches a double from one on
(`one_le_of_ceil?`).
-/

namespace PathRouter.Decimal

/-! ## Order -/

section Order

open Float.Model

theorem compare_swap (a b : UnpackedFloat) : b.compare a = (a.compare b).map Ordering.swap := by
  cases a with
  | notANumber => cases b <;> rfl
  | infinity s =>
      cases b with
      | infinity t => cases s <;> cases t <;> rfl
      | _ => cases s <;> rfl
  | zero s =>
      cases b with
      | infinity t => cases t <;> rfl
      | finite t => cases t <;> rfl
      | _ => rfl
  | finite s m e _ =>
      cases b with
      | notANumber => rfl
      | infinity t => cases t <;> rfl
      | zero t => cases s <;> rfl
      | finite t n d _ =>
          have h : (compare d e).then (compare n m) = ((compare e d).then (compare m n)).swap := by
            rw [Ordering.swap_then, ← Std.OrientedCmp.eq_swap, ← Std.OrientedCmp.eq_swap]
          cases s <;> cases t <;> simp [UnpackedFloat.compare, h]

theorem compare_eq_none_iff (a b : UnpackedFloat) :
    a.compare b = none ↔ a.isNaN = true ∨ b.isNaN = true := by
  cases a with
  | notANumber => simp [UnpackedFloat.compare, UnpackedFloat.isNaN]
  | infinity s => cases b <;> cases s <;> simp [UnpackedFloat.compare, UnpackedFloat.isNaN]
  | zero s =>
      cases b with
      | infinity t => cases t <;> simp [UnpackedFloat.compare, UnpackedFloat.isNaN]
      | finite t => cases t <;> simp [UnpackedFloat.compare, UnpackedFloat.isNaN]
      | _ => simp [UnpackedFloat.compare, UnpackedFloat.isNaN]
  | finite s m e _ =>
      cases b with
      | notANumber => simp [UnpackedFloat.compare, UnpackedFloat.isNaN]
      | infinity t => cases t <;> simp [UnpackedFloat.compare, UnpackedFloat.isNaN]
      | zero t => cases s <;> simp [UnpackedFloat.compare, UnpackedFloat.isNaN]
      | finite t => cases s <;> cases t <;> simp [UnpackedFloat.compare, UnpackedFloat.isNaN]

/-- How two doubles compare, unless one of them is NaN. -/
def order? (x y : Float) : Option Ordering := x.toModel.unpack.compare y.toModel.unpack

theorem order?_swap (x y : Float) : order? y x = (order? x y).map Ordering.swap :=
  compare_swap ..

theorem order?_eq_none_iff {x y : Float} :
    order? x y = none ↔ x.isNaN = true ∨ y.isNaN = true :=
  compare_eq_none_iff ..

theorem lt_iff_order? {x y : Float} : x < y ↔ order? x y = some .lt := by
  show Float.lt x y = true ↔ _
  rw [Float.lt, decide_eq_true_iff]
  show UnpackedFloat.lt _ _ = true ↔ _
  rw [UnpackedFloat.lt, beq_iff_eq]
  rfl

theorem le_iff_order? {x y : Float} : x ≤ y ↔ ∃ o, order? x y = some o ∧ o.isLE := by
  show Float.le x y = true ↔ _
  rw [Float.le, decide_eq_true_iff]
  show UnpackedFloat.le _ _ = true ↔ _
  rw [UnpackedFloat.le, Option.any_eq_true]
  rfl

/-- A double that is not below another one is at least as great, unless one of them is NaN. -/
theorem not_lt_iff {x y : Float} : ¬ x < y ↔ y ≤ x ∨ x.isNaN = true ∨ y.isNaN = true := by
  rw [lt_iff_order?, le_iff_order?, ← order?_eq_none_iff, order?_swap x y]
  cases order? x y with
  | none => simp
  | some o => cases o <;> simp

theorem not_le_iff {x y : Float} : ¬ x ≤ y ↔ y < x ∨ x.isNaN = true ∨ y.isNaN = true := by
  rw [lt_iff_order?, le_iff_order?, ← order?_eq_none_iff, order?_swap x y]
  cases order? x y with
  | none => simp
  | some o => cases o <;> simp

end Order

/-! ## Integers that are too large for a double -/

/-- The least integer that is too large for a double: half a unit above the greatest double. -/
def overflow : Nat := (Nat.pow 2 54 - 1) * Nat.pow 2 970

/-- Rounding stays next to the quotient. -/
theorem roundHalfEven_bounds (num den : Nat) :
    num / den ≤ roundHalfEven num den ∧ roundHalfEven num den ≤ num / den + 1 := by
  unfold roundHalfEven
  dsimp only
  split
  · omega
  · split <;> omega

theorem roundHalfEven_one (n : Nat) : roundHalfEven n 1 = n := by
  simp [roundHalfEven, Nat.mod_one]

/-- What is rounded to an odd integer or below it lies below the middle between that integer and the
next one. -/
theorem roundHalfEven_le_iff {num half top : Nat} (hhalf : 0 < half) (hodd : top % 2 = 1) :
    roundHalfEven num (2 * half) ≤ top ↔ num < (2 * top + 1) * half := by
  have hdivision : 2 * half * (num / (2 * half)) + num % (2 * half) = num := Nat.div_add_mod ..
  have hremainder : num % (2 * half) < 2 * half := Nat.mod_lt _ (by omega)
  obtain ⟨hlow, hhigh⟩ := roundHalfEven_bounds num (2 * half)
  have hmiddle : (2 * top + 1) * half = 2 * half * top + half := by ring
  rcases Nat.lt_trichotomy (num / (2 * half)) top with hless | rfl | hgreater
  · have hnext : 2 * half * (num / (2 * half) + 1) ≤ 2 * half * top := Nat.mul_le_mul_left _ hless
    rw [Nat.mul_add] at hnext
    omega
  · unfold roundHalfEven
    dsimp only
    split
    · omega
    · split <;> omega
  · have hnext : 2 * half * (top + 1) ≤ 2 * half * (num / (2 * half)) :=
      Nat.mul_le_mul_left _ hgreater
    rw [Nat.mul_add] at hnext
    omega

theorem floorLog2_one {n : Nat} (hn : n ≠ 0) : floorLog2 n 1 = n.log2 := by
  have hlog : Nat.log2 1 = 0 := by decide
  simp [floorLog2, hlog, Nat.log2_self_le hn]

/-- The leading 53 bits of an integer, the others rounded off. -/
def leading (n : Nat) : Nat :=
  if 52 ≤ n.log2 then roundHalfEven n (Nat.pow 2 (n.log2 - 52)) else n * Nat.pow 2 (52 - n.log2)

theorem nearestBits_one {n : Nat} (hn : n ≠ 0) :
    nearestBits n 1 = min infinityBits ((n.log2 + 1022) * exponentUnit + leading n) := by
  have hexponent : max (floorLog2 n 1 - 52) (-1074) = (n.log2 : Int) - 52 := by
    rw [floorLog2_one hn]
    omega
  have hbias : ((n.log2 : Int) - 52 + 1074).toNat = n.log2 + 1022 := by omega
  rw [nearestBits, if_neg hn]
  dsimp only
  rw [hexponent, hbias, leading]
  by_cases h : 52 ≤ n.log2
  · have hpositive : 0 ≤ (n.log2 : Int) - 52 := by omega
    have hshift : ((n.log2 : Int) - 52).toNat = n.log2 - 52 := by omega
    rw [if_pos h, if_pos hpositive, hshift, Nat.one_mul]
  · have hnegative : ¬ 0 ≤ (n.log2 : Int) - 52 := by omega
    have hshift : (-((n.log2 : Int) - 52)).toNat = 52 - n.log2 := by omega
    rw [if_neg h, if_neg hnegative, hshift, roundHalfEven_one]

/-- The leading bits of an integer begin with a one; rounding may take them to the next power of
two. -/
theorem leading_bounds {n : Nat} (hn : n ≠ 0) :
    exponentUnit ≤ leading n ∧ leading n ≤ 2 * exponentUnit := by
  have hlow : 2 ^ n.log2 ≤ n := Nat.log2_self_le hn
  have hhigh : n < 2 ^ (n.log2 + 1) := Nat.lt_log2_self
  have hunit : exponentUnit = 2 ^ 52 := by decide
  rw [leading, hunit]
  split
  · next h =>
    show 2 ^ 52 ≤ roundHalfEven n (2 ^ (n.log2 - 52)) ∧ roundHalfEven n (2 ^ (n.log2 - 52)) ≤ _
    obtain ⟨hfloor, hceil⟩ := roundHalfEven_bounds n (2 ^ (n.log2 - 52))
    have hleast : 2 ^ 52 ≤ n / 2 ^ (n.log2 - 52) := by
      rw [Nat.le_div_iff_mul_le (Nat.two_pow_pos _), ← Nat.pow_add]
      rwa [show 52 + (n.log2 - 52) = n.log2 by omega]
    have hgreatest : n / 2 ^ (n.log2 - 52) < 2 * 2 ^ 52 := by
      rw [Nat.div_lt_iff_lt_mul (Nat.two_pow_pos _), ← Nat.pow_succ', ← Nat.pow_add]
      rwa [show 52 + 1 + (n.log2 - 52) = n.log2 + 1 by omega]
    omega
  · next h =>
    show 2 ^ 52 ≤ n * 2 ^ (52 - n.log2) ∧ n * 2 ^ (52 - n.log2) ≤ 2 * 2 ^ 52
    constructor
    · calc 2 ^ 52 = 2 ^ n.log2 * 2 ^ (52 - n.log2) := by
            rw [← Nat.pow_add, show n.log2 + (52 - n.log2) = 52 by omega]
        _ ≤ n * 2 ^ (52 - n.log2) := Nat.mul_le_mul_right _ hlow
    · calc n * 2 ^ (52 - n.log2) ≤ 2 ^ (n.log2 + 1) * 2 ^ (52 - n.log2) :=
            Nat.mul_le_mul_right _ hhigh.le
        _ = 2 * 2 ^ 52 := by
            rw [← Nat.pow_add, show n.log2 + 1 + (52 - n.log2) = 52 + 1 by omega, Nat.pow_succ']

/-- They stay below it if the integer is less than half a unit of the last place away from it. -/
theorem leading_lt_iff {n k : Nat} (h : n.log2 = 53 + k) :
    leading n < 2 * exponentUnit ↔ n < (Nat.pow 2 54 - 1) * Nat.pow 2 k := by
  have hunit : 2 * exponentUnit = 2 * (exponentUnit - 1) + 1 + 1 := by decide
  have hpow : Nat.pow 2 (n.log2 - 52) = 2 * Nat.pow 2 k := by
    rw [h, show 53 + k - 52 = k + 1 by omega]
    exact Nat.pow_succ'
  have hpositive : 0 < Nat.pow 2 k := Nat.two_pow_pos k
  rw [leading, if_pos (by omega), hpow, hunit, Nat.lt_succ_iff,
    roundHalfEven_le_iff hpositive (by omega)]
  rfl

/-- Integers with fewer bits are below that bound, and those with more bits are not. -/
theorem lt_iff_log2_lt {n k : Nat} (hn : n ≠ 0) (h : n.log2 ≠ 53 + k) :
    n < (Nat.pow 2 54 - 1) * Nat.pow 2 k ↔ n.log2 < 53 + k := by
  show n < (2 ^ 54 - 1) * 2 ^ k ↔ _
  have hlow : 2 ^ n.log2 ≤ n := Nat.log2_self_le hn
  have hhigh : n < 2 ^ (n.log2 + 1) := Nat.lt_log2_self
  constructor
  · intro hless
    by_contra hmore
    have hbits : 2 ^ (54 + k) ≤ 2 ^ n.log2 := Nat.pow_le_pow_right (by omega) (by omega)
    rw [Nat.pow_add 2 54] at hbits
    omega
  · intro hless
    have hbits : 2 ^ (n.log2 + 1) ≤ 2 ^ (53 + k) := Nat.pow_le_pow_right (by omega) (by omega)
    rw [Nat.pow_add 2 53] at hbits
    omega

/-- An integer has a finite nearest double exactly if it is below `overflow`. -/
theorem nearestBits_lt_iff {n : Nat} : nearestBits n 1 < infinityBits ↔ n < overflow := by
  by_cases hn : n = 0
  · subst hn
    exact iff_of_true (by decide) (by decide +kernel)
  obtain ⟨hleast, hgreatest⟩ := leading_bounds hn
  have hinfinity : infinityBits = 2045 * exponentUnit + 2 * exponentUnit := by decide
  rw [nearestBits_one hn, min_lt_iff, lt_self_iff_false, false_or, hinfinity, overflow]
  generalize hk : 970 = k
  by_cases hlast : n.log2 = 53 + k
  · -- the exponents are those of the greatest doubles, so that the leading bits decide
    rw [← leading_lt_iff hlast, hlast, ← hk]
    omega
  · rw [lt_iff_log2_lt hn hlast]
    unfold exponentUnit at *
    omega

/-- **An integer is too large for a double exactly from `overflow` on.** -/
theorem ofInt?_eq_none_iff {n : Int} : ofInt? n = none ↔ overflow ≤ n.natAbs := by
  rw [← not_lt, ← nearestBits_lt_iff, ofInt?]
  split
  · next h => exact iff_of_false (Option.some_ne_none _) (not_not.2 h)
  · next h => exact iff_of_true rfl h

/-! ## Integers that can be written out -/

theorem ratioOfBits_le {bits : Nat} (h : bits < infinityBits) :
    (ratioOfBits bits).1 ≤ 2 * exponentUnit * Nat.pow 2 971 := by
  have hunit : 0 < exponentUnit := by decide
  have hfield : bits / exponentUnit < 0x7ff := by
    rwa [Nat.div_lt_iff_lt_mul hunit]
  have hsignificand : (if bits / exponentUnit = 0 then bits
      else bits % exponentUnit + exponentUnit) ≤ 2 * exponentUnit := by
    have hremainder : bits % exponentUnit < exponentUnit := Nat.mod_lt _ hunit
    split
    · next hzero =>
      have hsubnormal := Nat.lt_of_div_eq_zero hunit hzero
      omega
    · omega
  unfold ratioOfBits
  dsimp only
  generalize hk : 971 = k
  split
  · next hpositive =>
    have hshift : (max ((bits / exponentUnit : Nat) : Int) 1 - 1075).toNat ≤ k := by omega
    exact Nat.mul_le_mul hsignificand (Nat.pow_le_pow_right (by omega) hshift)
  · exact le_trans hsignificand (Nat.le_mul_of_pos_right _ (Nat.two_pow_pos k))

theorem toInt?_lt {x : Float} {n : Int} (h : toInt? x = some n) : n.natAbs < leastUnwritable := by
  unfold toInt? at h
  split at h
  · cases h
  · next hfinite =>
    have hnum := ratioOfBits_le (not_le.1 hfinite)
    dsimp only at h
    split at h
    · have hquotient := Nat.div_le_self (ratioOfBits (magnitude x)).1 (ratioOfBits (magnitude x)).2
      generalize (ratioOfBits (magnitude x)).1 / (ratioOfBits (magnitude x)).2 = q at h hquotient
      have habs : n.natAbs = q := by
        obtain rfl := Option.some.inj h
        split <;> omega
      have hleast : 2 * exponentUnit * Nat.pow 2 971 < leastUnwritable := by decide +kernel
      exact lt_of_le_of_lt (habs ▸ hquotient.trans hnum) hleast
    · cases h

/-- A run of digits holds nothing but digits. -/
theorem isDigit_of_digitRun? {cs ds : List Char} (h : digitRun? cs = some ds) :
    ∀ d ∈ ds, d.isDigit = true := by
  fun_induction digitRun? cs generalizing ds with
  | case1 => cases h
  | case2 d hd =>
      obtain rfl := Option.some.inj h
      simpa using hd
  | case3 => cases h
  | case4 d rest hd ih =>
      obtain ⟨others, hothers, rfl⟩ := Option.map_eq_some_iff.1 h
      exact List.forall_mem_cons.2 ⟨hd, ih hothers⟩
  | case5 => cases h
  | case6 d rest _ _ hd ih =>
      obtain ⟨others, hothers, rfl⟩ := Option.map_eq_some_iff.1 h
      exact List.forall_mem_cons.2 ⟨hd, ih hothers⟩
  | case7 => cases h

theorem digitsValue_lt {ds : List Char} (h : ∀ d ∈ ds, d.isDigit = true) :
    digitsValue ds < Nat.pow 10 ds.length := by
  induction ds using List.reverseRecOn with
  | nil => decide
  | append_singleton ds d ih =>
      have hvalue := ih fun c hc => h c (List.mem_append_left _ hc)
      have hdigit : d.isDigit = true := h d (by simp)
      have hlast : d.toNat ≤ 0x39 := by
        rw [Char.isDigit, Bool.and_eq_true, decide_eq_true_iff, decide_eq_true_iff] at hdigit
        exact UInt32.le_iff_toNat_le.1 hdigit.2
      have hsnoc : digitsValue (ds ++ [d]) = 10 * digitsValue ds + (d.toNat - 0x30) := by
        rw [digitsValue, List.foldl_append]
        rfl
      have hpow : Nat.pow 10 (ds ++ [d]).length = 10 * Nat.pow 10 ds.length := by
        rw [List.length_append]
        exact Nat.pow_succ'
      omega

/-- **An integer that is read from a text is short enough to be written out.** -/
theorem integer?_lt {cs : List Char} {n : Int} (h : integer? cs = some n) :
    n.natAbs < leastUnwritable := by
  unfold integer? at h
  dsimp only at h
  split at h
  · cases h
  · next digits hdigits =>
    split at h
    · cases h
    · next hlength =>
      have hvalue := digitsValue_lt (isDigit_of_digitRun? hdigits)
      have habs : n.natAbs = digitsValue digits := by
        obtain rfl := Option.some.inj h
        split <;> omega
      rw [habs]
      delta leastUnwritable
      generalize maxDigits = limit at hlength ⊢
      exact lt_of_lt_of_le hvalue (Nat.pow_le_pow_right (by omega) (not_lt.1 hlength))

/-! ## Counts that reach a double -/

section Counts

open Float.Model

theorem toNat_unpackExponent (bits : BitVec 64) :
    (@UnpackedFloat.unpackExponent Format.binary64 bits).toNat =
      bits.toNat / exponentUnit % 2048 := by
  simp only [UnpackedFloat.unpackExponent, BitVec.toNat_cast, BitVec.extractLsb_toNat,
    Nat.shiftRight_eq_div_pow]
  rfl

theorem unpackSign_eq_zero_iff (bits : BitVec 64) :
    @UnpackedFloat.unpackSign Format.binary64 bits = 0#1 ↔ bits.toNat < signBit := by
  have hbits : bits.toNat < 2 ^ 64 := bits.isLt
  have hunit : signBit = 2 ^ 63 := by decide
  rw [← BitVec.toNat_inj]
  simp only [UnpackedFloat.unpackSign, BitVec.toNat_cast, BitVec.extractLsb_toNat,
    Nat.shiftRight_eq_div_pow]
  show bits.toNat / 2 ^ 63 % 2 = 0 ↔ _
  omega

/-- NaN has no magnitude below infinity. -/
theorem infinityBits_le_of_isNaN {x : Float} (h : x.isNaN = true) : infinityBits ≤ magnitude x := by
  have hnan : (UnpackedFloat.unpack Format.binary64 x.toBits.toBitVec).isNaN = true := h
  have hexponent : @UnpackedFloat.unpackExponent Format.binary64 x.toBits.toBitVec = -1#_ := by
    by_contra hne
    rw [UnpackedFloat.unpack] at hnan
    simp only [hne, if_false] at hnan
    split at hnan
    · split at hnan <;> cases hnan
    · cases hnan
  have hfield := toNat_unpackExponent x.toBits.toBitVec
  rw [hexponent] at hfield
  have hfield : 2047 = x.toBits.toNat / exponentUnit % 2048 := hfield
  have hbits : x.toBits.toNat < 2 ^ 64 := x.toBits.toNat_lt
  rw [magnitude, infinityBits, signBit]
  rw [exponentUnit] at *
  omega

/-- One as a double. -/
theorem unpack_one :
    ∃ m e hm, (Float.ofInt 1).toModel.unpack = .finite .positive m e hm :=
  ⟨exponentUnit, -52, by decide, rfl⟩

/-- One is above every double whose sign is set, except for NaN. -/
theorem order?_one_of_isNegative {x : Float} (h : isNegative x = true) :
    order? (Float.ofInt 1) x = none ∨ order? (Float.ofInt 1) x = some .gt := by
  have hsign : UnpackedFloat.Sign.ofBitVec
      (@UnpackedFloat.unpackSign Format.binary64 x.toBits.toBitVec) = .negative := by
    refine if_neg fun hzero => ?_
    have hless : x.toBits.toNat < signBit := (unpackSign_eq_zero_iff _).1 hzero
    have hset : signBit ≤ x.toBits.toNat := of_decide_eq_true h
    omega
  have hunpack : x.toModel.unpack = UnpackedFloat.unpack Format.binary64 x.toBits.toBitVec := rfl
  obtain ⟨m, e, hm, hone⟩ := unpack_one
  rw [order?, hone, hunpack, UnpackedFloat.unpack]
  simp only [hsign]
  split
  · split
    · exact .inr rfl
    · exact .inl rfl
  · split
    · split <;> exact .inr rfl
    · exact .inr rfl

/-- One is above the two zeros, the doubles without a magnitude. -/
theorem order?_one_of_magnitude_eq_zero {x : Float} (h : magnitude x = 0) :
    order? (Float.ofInt 1) x = some .gt := by
  have hbits : x.toBits.toNat < 2 ^ 64 := x.toBits.toNat_lt
  have hunpack : x.toModel.unpack = UnpackedFloat.unpack Format.binary64 x.toBits.toBitVec := rfl
  have hzero : x.toBits.toBitVec = 0#64 ∨ x.toBits.toBitVec = BitVec.ofNat 64 signBit := by
    rw [← BitVec.toNat_inj, ← BitVec.toNat_inj]
    show x.toBits.toNat = 0 ∨ x.toBits.toNat = signBit
    rw [magnitude, signBit] at h
    rw [signBit]
    omega
  obtain ⟨m, e, hm, hone⟩ := unpack_one
  rw [order?, hone, hunpack]
  obtain hzero | hzero := hzero <;> rw [hzero] <;> rfl

/-- **A double from one on has no sign, but a magnitude.** -/
theorem positive_of_one_le {x : Float} (h : Float.ofInt 1 ≤ x) :
    isNegative x = false ∧ magnitude x ≠ 0 := by
  obtain ⟨o, horder, hle⟩ := le_iff_order?.1 h
  have hgreater : order? (Float.ofInt 1) x ≠ some .gt := by
    rw [horder]
    rintro ⟨⟩
    cases hle
  constructor
  · by_contra hset
    obtain hnone | hgt := order?_one_of_isNegative (Bool.not_eq_false _ ▸ hset)
    · rw [horder] at hnone
      cases hnone
    · exact hgreater hgt
  · exact fun hzero => hgreater (order?_one_of_magnitude_eq_zero hzero)

theorem ratioOfBits_pos {bits : Nat} (h : bits ≠ 0) :
    0 < (ratioOfBits bits).1 ∧ 0 < (ratioOfBits bits).2 := by
  have hsignificand : 0 < (if bits / exponentUnit = 0 then bits
      else bits % exponentUnit + exponentUnit) := by
    have hunit : 0 < exponentUnit := by decide
    split <;> omega
  unfold ratioOfBits
  dsimp only
  split
  · exact ⟨Nat.mul_pos hsignificand (Nat.two_pow_pos _), Nat.one_pos⟩
  · exact ⟨hsignificand, Nat.two_pow_pos _⟩

/-- A count that reaches a double from one on is positive. -/
theorem one_le_of_ceil? {x : Float} {n : Int} (h : Float.ofInt 1 ≤ x) (hn : ceil? x = some n) :
    1 ≤ n := by
  obtain ⟨hsign, hmagnitude⟩ := positive_of_one_le h
  obtain ⟨hnum, hden⟩ := ratioOfBits_pos hmagnitude
  unfold ceil? at hn
  split at hn
  · cases hn
  · rw [hsign] at hn
    obtain rfl := Option.some.inj hn
    have hleast : 1 ≤ ((ratioOfBits (magnitude x)).1 + (ratioOfBits (magnitude x)).2 - 1) /
        (ratioOfBits (magnitude x)).2 := (Nat.one_le_div_iff hden).2 (by omega)
    exact Int.ofNat_le.2 hleast

theorem ceil?_of_isNaN {x : Float} (h : x.isNaN = true) : ceil? x = none :=
  if_pos (infinityBits_le_of_isNaN h)

end Counts

end PathRouter.Decimal
