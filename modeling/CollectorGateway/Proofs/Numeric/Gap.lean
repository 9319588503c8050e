import CollectorGateway.Json.Number
import CollectorGateway.Proofs.Numeric.Shortest
import Mathlib.Tactic.LinearCombination

/-!
How near a decimal of eight digits comes to a cut between two numbers of single
precision. Both are whole multiples of one unit, so to come near is to nearly solve
`d * p = b * q` in whole numbers. Such pairs are combinations of two neighbouring
ones that Euclid's algorithm finds, and in the ranges of the digits and the mantissas
only a few combinations are left for each pair of exponents; all are tried. Where one
is near, the numbers on both sides of the cut are seen to be read back themselves.
-/

namespace CollectorGateway

namespace Gap

/-- Two neighbours among the pairs that nearly solve `d * p = b * q`: one with
`d * p` too great, one with `b * q` too great. -/
structure Basis where
  ud : Nat
  ub : Nat
  vd : Nat
  vb : Nat

namespace Basis

variable (c : Basis) (p q δ most : Nat)

/-- The determinant is one, and multiples of the errors stay below `q`. -/
def isFit : Bool :=
  c.ud * c.vb == c.ub * c.vd + 1 && c.ub * q ≤ c.ud * p && c.vd * p ≤ c.vb * q &&
    c.ud * δ < q && c.vd * δ < q

def mostFirst : Nat := (most * (c.vb * q - c.vd * p) + c.vd * δ) / q

def mostSecond : Nat := (most * (c.ud * p - c.ub * q) + c.ud * δ) / q

theorem exists_coefficient {x r : ℤ} {q e w δ d most : Nat} (small : d ≤ most)
    (low : -(δ : ℤ) ≤ r) (high : r ≤ δ) (slight : w * δ < q)
    (same : x * q = d * e + w * r) : ∃ n : Nat, x = n ∧ n ≤ (most * e + w * δ) / q := by
  have positive : 0 < q := by omega
  have unit : (0 : ℤ) < q := by exact_mod_cast positive
  have part : (0 : ℤ) ≤ d * e := by positivity
  have under : -(w * δ : ℤ) ≤ w * r := by
    rw [← mul_neg]
    exact mul_le_mul_of_nonneg_left low (Int.natCast_nonneg w)
  have above : (w * r : ℤ) ≤ w * δ := mul_le_mul_of_nonneg_left high (Int.natCast_nonneg w)
  have slight : (w * δ : ℤ) < q := by exact_mod_cast slight
  have nonneg : 0 ≤ x := by
    have : (-1) * (q : ℤ) < x * q := by linarith
    have := lt_of_mul_lt_mul_right this unit.le
    omega
  obtain ⟨n, rfl⟩ := Int.eq_ofNat_of_zero_le nonneg
  refine ⟨n, rfl, (Nat.le_div_iff_mul_le positive).2 ?_⟩
  have most' : (d * e : ℤ) ≤ most * e := by
    exact_mod_cast Nat.mul_le_mul_right e small
  have : (n * q : ℤ) ≤ most * e + w * δ := by linarith
  exact_mod_cast this

theorem exists_combination {c : Basis} {p q δ most d b : Nat} (fit : c.isFit p q δ)
    (small : d ≤ most) (above : d * p ≤ b * q + δ) (under : b * q ≤ d * p + δ) :
    ∃ s t, s ≤ c.mostFirst p q δ most ∧ t ≤ c.mostSecond p q δ most ∧
      d = s * c.ud + t * c.vd ∧ b = s * c.ub + t * c.vb := by
  obtain ⟨ud, ub, vd, vb⟩ := c
  simp only [isFit, Bool.and_eq_true, beq_iff_eq, decide_eq_true_eq] at fit
  obtain ⟨⟨⟨⟨determinant, first⟩, second⟩, uSlight⟩, vSlight⟩ := fit
  have determinant : (ud * vb : ℤ) = ub * vd + 1 := by exact_mod_cast determinant
  have above : (d * p : ℤ) ≤ b * q + δ := by exact_mod_cast above
  have under : (b * q : ℤ) ≤ d * p + δ := by exact_mod_cast under
  obtain ⟨s, hs, sBound⟩ := exists_coefficient (x := d * vb - b * vd) (r := d * p - b * q)
    (e := vb * q - vd * p) small (by linarith) (by linarith) vSlight (by
      rw [Nat.cast_sub second]
      push_cast
      ring)
  obtain ⟨t, ht, tBound⟩ := exists_coefficient (x := b * ud - d * ub) (r := b * q - d * p)
    (e := ud * p - ub * q) small (by linarith) (by linarith) uSlight (by
      rw [Nat.cast_sub first]
      push_cast
      ring)
  refine ⟨s, t, sBound, tBound, ?_, ?_⟩
  · have : (d : ℤ) = s * ud + t * vd := by
      rw [← hs, ← ht]
      linear_combination (-(d : ℤ)) * determinant
    exact_mod_cast this
  · have : (b : ℤ) = s * ub + t * vb := by
      rw [← hs, ← ht]
      linear_combination (-(b : ℤ)) * determinant
    exact_mod_cast this

/-- Euclid's steps as far as the errors stay below `q`. -/
def refine (p q δ : Nat) : Nat → Basis → Basis
  | 0, c => c
  | fuel + 1, c =>
    let u := c.ud * p - c.ub * q
    let v := c.vb * q - c.vd * p
    let next : Basis :=
      if v ≤ u then { c with ud := c.ud + u / v * c.vd, ub := c.ub + u / v * c.vb }
      else { c with vd := c.vd + v / u * c.ud, vb := c.vb + v / u * c.ub }
    if u = 0 ∨ v = 0 ∨ q ≤ next.ud * δ ∨ q ≤ next.vd * δ then c else refine p q δ fuel next

end Basis

def decimalUnit (k j : ℤ) : Nat := Nat.pow 5 k.toNat * Nat.pow 2 (k - j).toNat

def binaryUnit (k j : ℤ) : Nat := Nat.pow 5 (-k).toNat * Nat.pow 2 (j - k).toNat

theorem exists_common_unit (k j : ℤ) : ∃ u : ℚ, 0 < u ∧ (10 : ℚ) ^ k = decimalUnit k j * u ∧
    (2 : ℚ) ^ j = binaryUnit k j * u := by
  have five : (5 : ℚ) ^ k * 5 ^ (-k).toNat = 5 ^ k.toNat := by
    rw [← zpow_natCast, ← zpow_natCast, ← zpow_add₀ (by norm_num)]
    congr 1
    omega
  have above : (2 : ℚ) ^ k = 2 ^ (k - j).toNat * 2 ^ min k j := by
    rw [← zpow_natCast, ← zpow_add₀ two_ne_zero]
    congr 1
    omega
  have below : (2 : ℚ) ^ j = 2 ^ (j - k).toNat * 2 ^ min k j := by
    rw [← zpow_natCast, ← zpow_add₀ two_ne_zero]
    congr 1
    omega
  refine ⟨2 ^ min k j / 5 ^ (-k).toNat, by positivity, ?_, ?_⟩
  · have split : (10 : ℚ) ^ k = 5 ^ k * 2 ^ k := by rw [← mul_zpow]; norm_num
    simp only [decimalUnit, Nat.pow_eq]
    push_cast
    rw [split, above, ← five]
    field_simp
  · simp only [binaryUnit, Nat.pow_eq]
    push_cast
    rw [below]
    field_simp

/-- Nearer than the error with which decimals are read. -/
def isNear (p q d b : Nat) : Bool :=
  2 ^ 54 * (d * p - b * q) ≤ 5 * (d * p) && 2 ^ 54 * (b * q - d * p) ≤ 5 * (d * p)

def readsBack (n : Nat) : Bool :=
  let x := Single.layout.numeral false (Decimal.shortest .single 9 n)
  let s := x.significand
  match Numeral.magnitude? s.digits (s.exponent + x.powerOfTen) with
  | some m =>
    let (a, q) := BinaryFormat.double.unpack m
    BinaryFormat.single.ofScaled a q == n
  | none => false

theorem ofScaled_of_readsBack {n m : Nat} {x : Numeral} (back : readsBack n)
    (written : Single.layout.numeral false (Decimal.shortest .single 9 n) = x)
    (read : Numeral.magnitude? x.significand.digits (x.significand.exponent + x.powerOfTen) = some m) :
    BinaryFormat.single.ofScaled (BinaryFormat.double.unpack m).1 (BinaryFormat.double.unpack m).2 =
      n := by
  unfold readsBack at back
  simp only [written, read] at back
  exact beq_iff_eq.1 back

def patternBefore (j : ℤ) (b : Nat) : Nat := (j + 150).toNat * 2 ^ 23 + b / 2

/-- Whether one combination is of no concern: not a decimal of eight digits and an odd
mantissa that are near, or with both numbers at the cut read back. -/
def isHarmless (k j : ℤ) (least d b : Nat) : Bool :=
  !isNear (decimalUnit k j) (binaryUnit k j) d b || b % 2 == 0 || d < 10 ^ 7 || b < least ||
    2 ^ 25 ≤ b || (readsBack (patternBefore j b) && readsBack (patternBefore j b + 1))

def leastMantissa (j : ℤ) : Nat := if j = -150 then 1 else 2 ^ 24

def isClear (k j : ℤ) : Bool :=
  let p := decimalUnit k j
  let q := binaryUnit k j
  let most := min (10 ^ 8) (2 ^ 26 * q / p)
  let δ := 5 * (most * p) / 2 ^ 54
  let c := Basis.refine p q δ 40 ⟨1, 0, 0, 1⟩
  2 ^ 26 * q < 10 ^ 7 * p || 2 * 10 ^ 8 * p < leastMantissa j * q ||
    c.isFit p q δ && (List.range (c.mostFirst p q δ most + 1)).all fun s =>
      (List.range (c.mostSecond p q δ most + 1)).all fun t =>
        isHarmless k j (leastMantissa j) (s * c.ud + t * c.vd) (s * c.ub + t * c.vb)

theorem readsBack_of_isClear {k j : ℤ} (clear : isClear k j) {d b : Nat} (least : 10 ^ 7 ≤ d)
    (greatest : d ≤ 10 ^ 8) (odd : b % 2 = 1) (fills : leastMantissa j ≤ b) (fits : b < 2 ^ 25)
    (near : isNear (decimalUnit k j) (binaryUnit k j) d b) :
    readsBack (patternBefore j b) ∧ readsBack (patternBefore j b + 1) := by
  have given := near
  unfold isClear at clear
  unfold isHarmless at clear
  rw [isNear, Bool.and_eq_true, decide_eq_true_eq, decide_eq_true_eq] at near
  have some : 0 < decimalUnit k j := Nat.mul_pos (Nat.pow_pos (by decide)) (Nat.pow_pos (by decide))
  generalize decimalUnit k j = p at *
  generalize binaryUnit k j = q at *
  -- What is near is within a factor of two, so the exponents are not far apart.
  have twice : d * p ≤ 2 * (b * q) ∧ b * q ≤ 2 * (d * p) := by omega
  have pLow : 10 ^ 7 * p ≤ d * p := Nat.mul_le_mul_right p least
  have pHigh : d * p ≤ 10 ^ 8 * p := Nat.mul_le_mul_right p greatest
  have qLow : leastMantissa j * q ≤ b * q := Nat.mul_le_mul_right q fills
  have qHigh : b * q ≤ 2 ^ 25 * q := Nat.mul_le_mul_right q fits.le
  have small : d ≤ min (10 ^ 8) (2 ^ 26 * q / p) := by
    refine le_min greatest ((Nat.le_div_iff_mul_le some).2 ?_)
    omega
  simp only [Bool.or_eq_true, Bool.and_eq_true, decide_eq_true_eq] at clear
  obtain (far | far) | ⟨fit, tried⟩ := clear
  · omega
  · omega
  generalize min (10 ^ 8) (2 ^ 26 * q / p) = most at *
  have bounded : d * p ≤ most * p := Nat.mul_le_mul_right p small
  have above : d * p ≤ b * q + 5 * (most * p) / 2 ^ 54 := by omega
  have under : b * q ≤ d * p + 5 * (most * p) / 2 ^ 54 := by omega
  obtain ⟨s, t, sBound, tBound, digits, mantissa⟩ := Basis.exists_combination fit small above under
  rw [List.all_eq_true] at tried
  have triedFirst := tried s (List.mem_range.2 (Nat.lt_succ_of_le sBound))
  rw [List.all_eq_true] at triedFirst
  have harmless := triedFirst t (List.mem_range.2 (Nat.lt_succ_of_le tBound))
  rw [← digits, ← mantissa, given] at harmless
  simp only [Bool.not_true, Bool.false_or, Bool.or_eq_true, Bool.and_eq_true, beq_iff_eq,
    decide_eq_true_eq] at harmless
  obtain (((even | few) | low) | high) | back := harmless
  · omega
  · omega
  · omega
  · omega
  · exact back

def exponents : List ℤ :=
  (List.range 41).map (fun (i : Nat) => (i : ℤ) - 52) ++ (List.range 21).map fun (i : Nat) => (i : ℤ) + 11

theorem isClear_all :
    (exponents.all fun k => (List.range 254).all fun (i : Nat) => isClear k (i - 150)) = true := by
  decide +kernel

theorem isClear_of_mem {k j : ℤ} (listed : k ∈ exponents) (low : -150 ≤ j) (high : j ≤ 103) :
    isClear k j := by
  have all := List.all_eq_true.1 isClear_all k listed
  have this := List.all_eq_true.1 all (j + 150).toNat (List.mem_range.2 (by omega))
  rwa [Int.toNat_of_nonneg (by omega), add_sub_cancel_right] at this

theorem mem_exponents {k : ℤ} (low : -52 ≤ k) (high : k ≤ 31) (outer : k < -11 ∨ 10 < k) :
    k ∈ exponents := by
  simp only [exponents, List.mem_append, List.mem_map, List.mem_range]
  obtain below | above := outer
  · exact .inl ⟨(k + 52).toNat, by omega, by omega⟩
  · exact .inr ⟨(k - 11).toNat, by omega, by omega⟩

theorem eq_of_isNear {k j : ℤ} (low : -11 ≤ k) (high : k ≤ 10) {d b : Nat} (digits : d ≤ 10 ^ 8)
    (mantissa : b < 2 ^ 25) (near : isNear (decimalUnit k j) (binaryUnit k j) d b) :
    d * decimalUnit k j = b * binaryUnit k j := by
  rw [isNear, Bool.and_eq_true, decide_eq_true_eq, decide_eq_true_eq] at near
  have bounded : d * decimalUnit k j ≤ 10 ^ 8 * 5 ^ 10 ∨ b * binaryUnit k j ≤ 2 ^ 25 * 5 ^ 11 := by
    obtain wide | narrow := le_or_gt k j
    · left
      have power : Nat.pow 5 k.toNat ≤ 5 ^ 10 := Nat.pow_le_pow_right (n := 5) (by decide) (by omega)
      have none : (k - j).toNat = 0 := by omega
      rw [decimalUnit, none]
      exact Nat.mul_le_mul digits (by simpa using power)
    · right
      have power : Nat.pow 5 (-k).toNat ≤ 5 ^ 11 :=
        Nat.pow_le_pow_right (n := 5) (by decide) (by omega)
      have none : (j - k).toNat = 0 := by omega
      rw [binaryUnit, none]
      exact Nat.mul_le_mul mantissa.le (by simpa using power)
  generalize d * decimalUnit k j = x at *
  generalize b * binaryUnit k j = y at *
  omega

theorem exists_cut {n : Nat} (finite : n < BinaryFormat.single.infinity) :
    ∃ (b : Nat) (j : ℤ), BinaryFormat.single.cut n = b * 2 ^ j ∧ b % 2 = 1 ∧ leastMantissa j ≤ b ∧
      b < 2 ^ 25 ∧ -150 ≤ j ∧ j ≤ 103 ∧ patternBefore j b = n := by
  obtain ⟨⟨least, -, normal⟩, inner, same⟩ := BinaryFormat.single.pattern_unpack n
  have half : BinaryFormat.single.half = 2 ^ 23 := rfl
  have bottom : BinaryFormat.single.minExponent = -149 := rfl
  have top : BinaryFormat.single.infinity = 255 * 2 ^ 23 := rfl
  rw [BinaryFormat.cut]
  rw [BinaryFormat.pattern] at same
  generalize (BinaryFormat.single.unpack n).1 = m at *
  generalize (BinaryFormat.single.unpack n).2 = q at *
  rw [bottom, half] at same normal
  rw [half] at inner
  rw [top] at finite
  rw [bottom] at least
  refine ⟨2 * m + 1, q - 1, by push_cast; ring, by omega, ?_, by omega, by omega, ?_, ?_⟩
  · rw [leastMantissa]
    split <;> omega
  · omega
  · rw [patternBefore, ← same]
    have places : q - 1 + 150 = q - -149 := by ring
    rw [places]
    omega

/-- A decimal of eight digits keeps a distance from a cut, or it is the cut and its
power of ten is small, or the numbers on both sides of the cut are read back. -/
theorem distance_or_readsBack {n : Nat} (finite : n < BinaryFormat.single.infinity) {k : ℤ}
    (low : -52 ≤ k) (high : k ≤ 31) {d : Nat} (least : 10 ^ 7 ≤ d) (greatest : d ≤ 10 ^ 8) :
    5 * ((d : ℚ) * 10 ^ k) < 2 ^ 54 * |d * 10 ^ k - BinaryFormat.single.cut n| ∨
      ((d : ℚ) * 10 ^ k = BinaryFormat.single.cut n ∧ -11 ≤ k ∧ k ≤ 10) ∨
      (readsBack n ∧ readsBack (n + 1)) := by
  obtain ⟨b, j, cut, odd, fills, fits, jLow, jHigh, rfl⟩ := exists_cut finite
  obtain ⟨u, positive, ten, two⟩ := exists_common_unit k j
  have left : (d : ℚ) * 10 ^ k = ((d * decimalUnit k j : Nat) : ℚ) * u := by
    rw [ten]
    push_cast
    ring
  have right : BinaryFormat.single.cut (patternBefore j b) = ((b * binaryUnit k j : Nat) : ℚ) * u := by
    rw [cut, two]
    push_cast
    ring
  rw [left, right]
  by_cases near : isNear (decimalUnit k j) (binaryUnit k j) d b
  · right
    by_cases inner : -11 ≤ k ∧ k ≤ 10
    · exact .inl ⟨by rw [eq_of_isNear inner.1 inner.2 greatest fits near], inner⟩
    · have clear := isClear_of_mem (mem_exponents low high (by omega)) jLow jHigh
      exact .inr (readsBack_of_isClear clear least greatest odd fills fits near)
  · left
    rw [isNear, Bool.and_eq_true, decide_eq_true_eq, decide_eq_true_eq] at near
    generalize d * decimalUnit k j = x at *
    generalize b * binaryUnit k j = y at *
    have apart : (y ≤ x ∧ 5 * x < 2 ^ 54 * (x - y)) ∨ (x ≤ y ∧ 5 * x < 2 ^ 54 * (y - x)) := by omega
    rw [← sub_mul, abs_mul, abs_of_pos positive, ← mul_assoc, ← mul_assoc]
    refine mul_lt_mul_of_pos_right ?_ positive
    obtain ⟨less, far⟩ | ⟨less, far⟩ := apart
    · rw [← Nat.cast_sub less, Nat.abs_cast]
      exact_mod_cast far
    · rw [abs_sub_comm, ← Nat.cast_sub less, Nat.abs_cast]
      exact_mod_cast far

end Gap

end CollectorGateway
