import CollectorGateway.Json.Number
import CollectorGateway.Numeric.Decimal
import CollectorGateway.Proofs.Numeric.Shortest

/-!
What a written decimal is read as in double precision. Its digits are gathered without
loss; the power of ten and the product or the quotient are each rounded once, so the
outcome is off by no more than five parts in `2 ^ 54`, and not at all where the power of
ten and the decimal itself are numbers of double precision.
-/

namespace CollectorGateway

namespace BinaryFormat

variable {f : BinaryFormat}

def Rounds (f : BinaryFormat) (n : Nat) (v : ℚ) : Prop :=
  ∃ num den : Nat, 0 < num ∧ 0 < den ∧ (num : ℚ) / den = v ∧ n = f.nearest num den

theorem rounds_natCast {n : Nat} (positive : 0 < n) : f.Rounds (f.nearest n 1) n :=
  ⟨n, 1, positive, Nat.one_pos, by simp, rfl⟩

theorem rounds_ofScaled {m : Nat} (positive : 0 < m) (q : ℤ) :
    f.Rounds (f.ofScaled m q) (m * 2 ^ q) := by
  rw [ofScaled]
  split
  · rename_i whole
    have power := cast_two_pow whole
    refine ⟨m * Nat.pow 2 q.toNat, 1, Nat.mul_pos positive (Nat.pow_pos (by decide)), Nat.one_pos, ?_, rfl⟩
    rw [Nat.cast_mul, power, Nat.cast_one, div_one]
  · rename_i broken
    have power := cast_two_pow (e := -q) (by omega)
    refine ⟨m, Nat.pow 2 (-q).toNat, positive, Nat.pow_pos (by decide), ?_, rfl⟩
    rw [power, zpow_neg, div_inv_eq_mul]

theorem pos_of_value_pos {n : Nat} (positive : 0 < f.value n) : 0 < n := by
  refine Nat.pos_of_ne_zero fun none => positive.ne' ?_
  simp [none, value, unpack]

theorem rounds_mul {a b : Nat} (ha : 0 < a) (hb : 0 < b) :
    f.Rounds (f.mul a b) (f.value a * f.value b) := by
  have scaled := rounds_ofScaled (f := f)
    (Nat.mul_pos (mantissa_pos (f := f) ha) (mantissa_pos (f := f) hb))
    ((f.unpack a).2 + (f.unpack b).2)
  rw [Nat.cast_mul, zpow_add₀ two_ne_zero, mul_mul_mul_comm] at scaled
  exact scaled

theorem rounds_div {a b : Nat} (ha : 0 < a) (hb : 0 < b) :
    f.Rounds (f.div a b) (f.value a / f.value b) := by
  have unfolded : f.div a b = if (f.unpack b).2 ≤ (f.unpack a).2 then
      f.nearest ((f.unpack a).1 * Nat.pow 2 ((f.unpack a).2 - (f.unpack b).2).toNat) (f.unpack b).1
      else f.nearest (f.unpack a).1
        ((f.unpack b).1 * Nat.pow 2 ((f.unpack b).2 - (f.unpack a).2).toNat) := rfl
  have numerator := mantissa_pos (f := f) ha
  have denominator := mantissa_pos (f := f) hb
  rw [unfolded, value, value]
  generalize f.unpack a = x at *
  generalize f.unpack b = y at *
  split
  · rename_i less
    have power := cast_two_pow (e := x.2 - y.2) (by omega)
    rw [zpow_sub₀ two_ne_zero] at power
    refine ⟨x.1 * Nat.pow 2 (x.2 - y.2).toNat, y.1, Nat.mul_pos numerator (Nat.pow_pos (by decide)),
      denominator, ?_, rfl⟩
    rw [Nat.cast_mul, power]
    field_simp
  · rename_i less
    have power := cast_two_pow (e := y.2 - x.2) (by omega)
    rw [zpow_sub₀ two_ne_zero] at power
    refine ⟨x.1, y.1 * Nat.pow 2 (y.2 - x.2).toNat, numerator,
      Nat.mul_pos denominator (Nat.pow_pos (by decide)), ?_, rfl⟩
    rw [Nat.cast_mul, power]
    field_simp

namespace Rounds

variable {n : Nat} {v : ℚ}

theorem lt_infinity (rounds : f.Rounds n v) (room : v < f.limit) (wide : 2 ≤ f.exponentBits) :
    n < f.infinity := by
  obtain ⟨num, den, hn, hd, rfl, rfl⟩ := rounds
  obtain ⟨-, -, -, -, finite, -⟩ := exists_rounding hn hd room wide
  exact finite

theorem error (rounds : f.Rounds n v) (room : v < f.limit) (wide : 2 ≤ f.exponentBits)
    (normal : f.half * 2 ^ f.minExponent ≤ v) : |f.value n - v| * (2 * f.half) ≤ v := by
  obtain ⟨num, den, hn, hd, rfl, rfl⟩ := rounds
  exact nearest_error hn hd room wide normal

theorem exact (rounds : f.Rounds n v) (room : v < f.limit) (wide : 2 ≤ f.exponentBits) {m : Nat}
    {j : ℤ} (least : f.minExponent ≤ j) (fits : m < 2 * f.half) (same : v = m * 2 ^ j) :
    f.value n = v := by
  obtain ⟨num, den, hn, hd, rfl, rfl⟩ := rounds
  exact nearest_exact hn hd room wide least fits same

theorem eq_of_surrounds (rounds : f.Rounds n v) {k : Nat} (positive : 0 < k)
    (finite : k < f.infinity) (within : f.Surrounds k v) : n = k := by
  obtain ⟨num, den, hn, hd, rfl, rfl⟩ := rounds
  exact nearest_of_surrounds positive finite hn hd within

end Rounds

/-- Numbers of this size are rounded by double precision in its normal range. -/
def IsModerate (v : ℚ) : Prop := 2 ^ (-250 : ℤ) ≤ v ∧ v ≤ 2 ^ (250 : ℤ)

theorem IsModerate.lt_limit {v : ℚ} (moderate : IsModerate v) : v < double.limit := by
  refine moderate.2.trans_lt ?_
  rw [limit, half_eq_zpow, ← zpow_add₀ two_ne_zero]
  exact zpow_lt_zpow_right₀ (by norm_num) (by decide)

theorem IsModerate.normal {v : ℚ} (moderate : IsModerate v) :
    double.half * 2 ^ double.minExponent ≤ v := by
  refine le_trans ?_ moderate.1
  rw [half_eq_zpow, ← zpow_add₀ two_ne_zero]
  exact zpow_le_zpow_right₀ (by norm_num) (by decide)

namespace Rounds

variable {n : Nat} {v : ℚ}

theorem double_error (rounds : double.Rounds n v) (moderate : IsModerate v) :
    |double.value n - v| * 2 ^ 53 ≤ v := by
  have bound := rounds.error moderate.lt_limit (by decide) moderate.normal
  have half : (2 * double.half : ℚ) = 2 ^ 53 := by norm_num [half, double]
  rwa [half] at bound

theorem double_exact (rounds : double.Rounds n v) (moderate : IsModerate v) {m : Nat} {j : ℤ}
    (least : -1074 ≤ j) (fits : m < 2 ^ 53) (same : v = m * 2 ^ j) : double.value n = v :=
  rounds.exact moderate.lt_limit (by decide) least fits same

end Rounds

end BinaryFormat

namespace Numeral

open BinaryFormat (double IsModerate Rounds)

theorem product_error {s T t r : ℚ} (nonneg : 0 ≤ s) (power : |t - T| * 2 ^ 53 ≤ T)
    (outcome : |r - s * t| * 2 ^ 53 ≤ s * t) : |r - s * T| * 2 ^ 54 ≤ 5 * (s * T) := by
  have scaled : |s * t - s * T| * 2 ^ 53 ≤ s * T := by
    rw [← mul_sub, abs_mul, abs_of_nonneg nonneg, mul_assoc]
    exact mul_le_mul_of_nonneg_left power nonneg
  have both : |r - s * T| ≤ |r - s * t| + |s * t - s * T| := abs_sub_le _ _ _
  have above : s * t - s * T ≤ |s * t - s * T| := le_abs_self _
  have far : 0 ≤ |s * t - s * T| := abs_nonneg _
  linarith

theorem quotient_error {s T t r : ℚ} (nonneg : 0 ≤ s) (positive : 0 < T)
    (power : |t - T| * 2 ^ 53 ≤ T) (outcome : |r - s / t| * 2 ^ 53 ≤ s / t) :
    |r - s / T| * 2 ^ 54 ≤ 5 * (s / T) := by
  have some : 0 < t := by
    have := (abs_le.1 (le_refl |t - T|)).1
    linarith
  have scaled : |s / t - s / T| * 2 ^ 53 ≤ s / t := by
    have cut : s / t - s / T = s / t * ((T - t) / T) := by field_simp
    rw [cut, abs_mul, abs_of_nonneg (by positivity), abs_div, abs_of_pos positive, abs_sub_comm,
      mul_assoc]
    refine mul_le_of_le_one_right (by positivity) ?_
    rwa [div_mul_eq_mul_div, div_le_one positive]
  have both : |r - s / T| ≤ |r - s / t| + |s / t - s / T| := abs_sub_le _ _ _
  have above : s / t - s / T ≤ |s / t - s / T| := le_abs_self _
  have whole : 0 ≤ s / T := by positivity
  linarith

theorem digits_spec {s : Nat} (positive : 0 < s) (fits : s < 2 ^ 53) :
    0 < double.nearest s 1 ∧ double.value (double.nearest s 1) = s := by
  have one : (1 : ℚ) ≤ s := by exact_mod_cast positive
  have most : (s : ℚ) ≤ 2 ^ 53 := by exact_mod_cast fits.le
  have moderate : IsModerate s := ⟨le_trans (by norm_num) one, most.trans (by norm_num)⟩
  have value : double.value (double.nearest s 1) = s :=
    (BinaryFormat.rounds_natCast positive).double_exact moderate (j := 0) (by decide) fits (by simp)
  exact ⟨BinaryFormat.pos_of_value_pos (f := double) (by rw [value]; linarith), value⟩

theorem ten_spec {k : Nat} (small : k ≤ 55) :
    ∃ t, double.value (double.nearest (Nat.pow 10 k) 1) = t ∧ 2⁻¹ ≤ t ∧ t ≤ 2 * 10 ^ 55 ∧
      0 < double.nearest (Nat.pow 10 k) 1 ∧ |t - 10 ^ k| * 2 ^ 53 ≤ 10 ^ k ∧
      (k ≤ 22 → t = 10 ^ k) := by
  have cast : ((Nat.pow 10 k : Nat) : ℚ) = 10 ^ k := by
    rw [Nat.pow_eq]
    push_cast
    rfl
  have one : (1 : ℚ) ≤ 10 ^ k := one_le_pow₀ (by norm_num)
  have most : (10 : ℚ) ^ k ≤ 10 ^ 55 := pow_le_pow_right₀ (by norm_num) small
  have moderate : IsModerate (10 ^ k) :=
    ⟨le_trans (by norm_num) one, most.trans (by norm_num)⟩
  have rounds : double.Rounds (double.nearest (Nat.pow 10 k) 1) (10 ^ k) :=
    cast ▸ BinaryFormat.rounds_natCast (Nat.pow_pos (by decide))
  have error := rounds.double_error moderate
  have exact : k ≤ 22 → double.value (double.nearest (Nat.pow 10 k) 1) = 10 ^ k := by
    intro low
    have fits : 5 ^ k < 2 ^ 53 := (Nat.pow_le_pow_right (by decide) low).trans_lt (by norm_num)
    refine rounds.double_exact moderate (j := k) (by omega) fits ?_
    push_cast
    rw [zpow_natCast, ← mul_pow]
    norm_num
  obtain ⟨below, above⟩ :=
    abs_le.1 (le_refl |double.value (double.nearest (Nat.pow 10 k) 1) - 10 ^ k|)
  refine ⟨_, rfl, by linarith, by linarith, ?_, error, exact⟩
  exact BinaryFormat.pos_of_value_pos (f := double) (by linarith)

/-- How well a pattern is a reading of the decimal `s * 10 ^ e` in double precision. -/
structure IsReading (n s : Nat) (e : ℤ) : Prop where
  finite : n < double.infinity
  error : |double.value n - s * 10 ^ e| * 2 ^ 54 ≤ 5 * (s * 10 ^ e)
  exact : -22 ≤ e → e ≤ 22 → ∀ (m : Nat) (j : ℤ), -1074 ≤ j → m < 2 ^ 53 →
    (s : ℚ) * 10 ^ e = m * 2 ^ j → double.value n = s * 10 ^ e

theorem isReading_mul {s : Nat} (positive : 0 < s) (fits : s < 2 ^ 53) {k : Nat} (small : k ≤ 55) :
    IsReading (double.mul (double.nearest s 1) (double.nearest (Nat.pow 10 k) 1)) s k := by
  have one : (1 : ℚ) ≤ s := by exact_mod_cast positive
  have most : (s : ℚ) ≤ 2 ^ 53 := by exact_mod_cast fits.le
  obtain ⟨digitsPos, digits⟩ := digits_spec positive fits
  obtain ⟨t, ten, least, greatest, tenPos, power, powerExact⟩ := ten_spec small
  have rounds := BinaryFormat.rounds_mul (f := double) digitsPos tenPos
  rw [digits, ten] at rounds
  have moderate : IsModerate (s * t) := by
    constructor
    · calc
        (2 : ℚ) ^ (-250 : ℤ) ≤ 1 * 2⁻¹ := by norm_num
        _ ≤ s * t := by gcongr
    · calc
        s * t ≤ 2 ^ 53 * (2 * 10 ^ 55) := by gcongr
        _ ≤ 2 ^ (250 : ℤ) := by norm_num
  refine ⟨rounds.lt_infinity moderate.lt_limit (by decide), ?_, ?_⟩ <;> rw [zpow_natCast]
  · exact product_error (by linarith) power (rounds.double_error moderate)
  · intro _ _ m j lowest fine same
    rw [powerExact (by omega)] at rounds moderate
    exact rounds.double_exact moderate lowest fine same

theorem isReading_div {s : Nat} (positive : 0 < s) (fits : s < 2 ^ 53) {k : Nat} (small : k ≤ 55) :
    IsReading (double.div (double.nearest s 1) (double.nearest (Nat.pow 10 k) 1)) s (-k) := by
  have one : (1 : ℚ) ≤ s := by exact_mod_cast positive
  have most : (s : ℚ) ≤ 2 ^ 53 := by exact_mod_cast fits.le
  obtain ⟨digitsPos, digits⟩ := digits_spec positive fits
  obtain ⟨t, ten, least, greatest, tenPos, power, powerExact⟩ := ten_spec small
  have rounds := BinaryFormat.rounds_div (f := double) digitsPos tenPos
  rw [digits, ten] at rounds
  have moderate : IsModerate (s / t) := by
    constructor
    · calc
        (2 : ℚ) ^ (-250 : ℤ) ≤ 1 / (2 * 10 ^ 55) := by norm_num
        _ ≤ s / t := by gcongr
    · calc
        s / t ≤ 2 ^ 53 / 2⁻¹ := by gcongr
        _ ≤ 2 ^ (250 : ℤ) := by norm_num
  refine ⟨rounds.lt_infinity moderate.lt_limit (by decide), ?_, ?_⟩ <;>
    rw [zpow_neg, zpow_natCast, ← div_eq_mul_inv]
  · exact quotient_error (by linarith) (by positivity) power (rounds.double_error moderate)
  · intro _ _ m j lowest fine same
    rw [powerExact (by omega)] at rounds moderate
    exact rounds.double_exact moderate lowest fine same

theorem magnitude?_of_nonneg {s : Nat} (positive : 0 < s) {e : ℤ} (whole : 0 ≤ e) (high : e ≤ 308) :
    magnitude? s e =
      if double.mul (double.nearest s 1) (double.nearest (Nat.pow 10 e.toNat) 1) = double.infinity
      then none
      else some (double.mul (double.nearest s 1) (double.nearest (Nat.pow 10 e.toNat) 1)) := by
  rw [magnitude?, if_neg positive.ne', if_neg (by omega), if_pos whole]

theorem magnitude?_of_neg {s : Nat} (positive : 0 < s) {e : ℤ} (broken : e < 0) (low : -308 ≤ e) :
    magnitude? s e =
      some (double.div (double.nearest s 1) (double.nearest (Nat.pow 10 (-e).toNat) 1)) := by
  rw [magnitude?, if_neg positive.ne', if_neg (by omega), if_neg (by omega), if_pos low]

theorem exists_isReading {s : Nat} (positive : 0 < s) (fits : s < 2 ^ 53) {e : ℤ} (low : -55 ≤ e)
    (high : e ≤ 55) : ∃ n, magnitude? s e = some n ∧ IsReading n s e := by
  obtain ⟨k, rfl | rfl⟩ := e.eq_nat_or_neg
  · have reading := isReading_mul positive fits (k := k) (by omega)
    refine ⟨_, ?_, reading⟩
    rw [magnitude?_of_nonneg positive (by omega) (by omega), Int.toNat_natCast,
      if_neg reading.finite.ne]
  · obtain rfl | broken := Nat.eq_zero_or_pos k
    · have reading := isReading_mul positive fits (k := 0) (by omega)
      exact ⟨_, (magnitude?_of_nonneg positive (by omega) (by omega)).trans
        (if_neg reading.finite.ne), reading⟩
    · refine ⟨_, ?_, isReading_div positive fits (k := k) (by omega)⟩
      rw [magnitude?_of_neg positive (by omega) (by omega), neg_neg, Int.toNat_natCast]

theorem digitsValue_append (cs ds : List Char) :
    digitsValue (cs ++ ds) = digitsValue cs * 10 ^ ds.length + digitsValue ds := by
  have shift : ∀ cs, digitsValue cs = Nat.ofDigitChars 10 cs 0 := fun _ => rfl
  rw [shift, shift, shift, Nat.ofDigitChars_append, Nat.ofDigitChars_eq_ofDigitChars_zero,
    Nat.mul_comm]

theorem digitsValue_toDigits (n : Nat) : digitsValue (Nat.toDigits 10 n) = n :=
  Nat.ofDigitChars_ten_toDigits

theorem digitsValue_zeros (k : Nat) : digitsValue (List.replicate k '0') = 0 := by
  induction k with
  | zero => rfl
  | succ k ih => rw [List.replicate_succ', digitsValue_append, ih]; rfl

theorem le_ofDigitChars (cs : List Char) (n : Nat) : n ≤ Nat.ofDigitChars 10 cs n := by
  rw [Nat.ofDigitChars_eq_ofDigitChars_zero]
  exact (Nat.le_mul_of_pos_left n (Nat.pow_pos (by decide))).trans (Nat.le_add_right _ _)

theorem foldl_pushWhole {cs : List Char} {n : Nat} (e : Int)
    (fits : Nat.ofDigitChars 10 cs n < Nat.pow 2 64) :
    cs.foldl Significand.pushWhole ⟨n, e, false⟩ = ⟨Nat.ofDigitChars 10 cs n, e, false⟩ := by
  induction cs generalizing n with
  | nil => rfl
  | cons c cs ih =>
    have room : 10 * n + digitValue c < Nat.pow 2 64 := (le_ofDigitChars cs _).trans_lt fits
    rw [List.foldl_cons, Significand.pushWhole, if_neg (by simpa using room)]
    exact ih fits

theorem foldl_pushFraction {cs : List Char} {n : Nat} (e : Int)
    (fits : Nat.ofDigitChars 10 cs n < Nat.pow 2 64) :
    cs.foldl Significand.pushFraction ⟨n, e, false⟩ =
      ⟨Nat.ofDigitChars 10 cs n, e - cs.length, false⟩ := by
  induction cs generalizing n e with
  | nil => simp
  | cons c cs ih =>
    have room : 10 * n + digitValue c < Nat.pow 2 64 := (le_ofDigitChars cs _).trans_lt fits
    rw [List.foldl_cons, Significand.pushFraction, if_neg (by simpa using room)]
    refine (ih (e - 1) fits).trans ?_
    rw [List.length_cons, Nat.cast_succ, sub_sub, add_comm (1 : Int)]
    rfl

theorem significand_eq {n : Numeral}
    (fits : digitsValue (n.whole ++ n.fraction.getD []) < Nat.pow 2 64) :
    n.significand = ⟨digitsValue (n.whole ++ n.fraction.getD []), -(n.fraction.getD []).length, false⟩ := by
  have both : digitsValue (n.whole ++ n.fraction.getD []) =
      Nat.ofDigitChars 10 (n.fraction.getD []) (Nat.ofDigitChars 10 n.whole 0) :=
    Nat.ofDigitChars_append 0
  rw [both] at fits ⊢
  have whole := foldl_pushWhole 0 ((le_ofDigitChars _ _).trans_lt fits)
  rw [significand, whole]
  exact (foldl_pushFraction 0 fits).trans (by rw [zero_sub])

theorem numeral_negative (l : DecimalLayout) (negative other : Bool) (d : Decimal) :
    l.numeral other d = { l.numeral negative d with negative := other } := by
  rw [DecimalLayout.numeral, DecimalLayout.numeral]
  simp only
  split
  · split
    · rfl
    · split <;> rfl
  · rfl

theorem powerOfTen_of_toDigits {n : Numeral} {place : Int}
    (written : n.exponent = some (decide (place < 0), Nat.toDigits 10 place.natAbs))
    (near : place.natAbs < Nat.pow 2 31) : n.powerOfTen = place := by
  have value : valueUpTo exponentLimit (Nat.toDigits 10 place.natAbs) = place.natAbs := by
    rw [valueUpTo_eq, digitsValue_toDigits]
    exact Nat.min_eq_right near.le
  rw [powerOfTen, written]
  by_cases below : place < 0
  · simp only [below, decide_true, value]
    omega
  · simp only [below, decide_false, value]
    omega

/-- A layout writes the digits with zeros around them, and the point and the power of
ten stand where the exponent has them. Zeros at the end take the digits one place past
the point. -/
theorem numeral_spec (l : DecimalLayout) (negative : Bool) {d : Decimal}
    (near : d.exponent.natAbs + Decimal.digitCount d.digits < Nat.pow 2 31) :
    ∃ (n : Numeral) (a b : Nat), l.numeral negative d = n ∧ n.negative = negative ∧
      (n.fraction.isSome ∨ n.exponent.isSome) ∧
      n.whole ++ n.fraction.getD [] =
        List.replicate a '0' ++ Nat.toDigits 10 d.digits ++ List.replicate b '0' ∧
      n.powerOfTen - (n.fraction.getD []).length = d.exponent - b ∧
      (b = 0 ∨ (b : Int) = d.exponent + 1 ∧ d.exponent + Decimal.digitCount d.digits - 1 ≤ l.greatest) := by
  have filled : 0 < (Nat.toDigits 10 d.digits).length := Nat.length_toDigits_pos
  rw [DecimalLayout.numeral]
  rw [Decimal.digitCount] at *
  generalize Nat.toDigits 10 d.digits = ds at *
  generalize hp : d.exponent + ds.length - 1 = place at *
  split
  · rename_i positional
    split
    · rename_i whole
      refine ⟨_, 0, d.exponent.toNat + 1, rfl, rfl, .inl rfl, ?_, ?_, .inr ⟨by omega, positional.2⟩⟩
      · simp [List.replicate_succ']
      · simp [powerOfTen]
        omega
    · split
      · rename_i broken front
        refine ⟨_, 0, 0, rfl, rfl, .inl rfl, ?_, ?_, .inl rfl⟩
        · simp
        · simp [powerOfTen]
          omega
      · rename_i broken behind
        refine ⟨_, (-place - 1).toNat + 1, 0, rfl, rfl, .inl rfl, ?_, ?_, .inl rfl⟩
        · simp [List.replicate_succ]
        · simp [powerOfTen]
          omega
  · have power : ∀ fraction, (Numeral.mk negative (ds.take 1) fraction
        (some (place < 0, Nat.toDigits 10 place.natAbs))).powerOfTen = place := fun _ =>
      powerOfTen_of_toDigits rfl (by omega)
    refine ⟨_, 0, 0, rfl, rfl, .inr rfl, ?_, ?_, .inl rfl⟩
    · obtain ⟨c, rest, rfl⟩ := List.exists_cons_of_length_pos filled
      cases rest <;> simp
    · rw [power]
      obtain ⟨c, rest, rfl⟩ := List.exists_cons_of_length_pos filled
      cases rest <;> simp at hp ⊢ <;> omega

/-- What is gathered from a reading's numeral: its decimal, with the digits taken one
place past the point if zeros are written up to there. -/
theorem gathered_numeral (negative : Bool) {d : Decimal} (positive : 0 < d.digits)
    (few : d.digits ≤ 10 ^ 9) (low : -100 ≤ d.exponent) (high : d.exponent ≤ 100) :
    ∃ (n : Numeral) (e : Int), Single.layout.numeral negative d = n ∧ n.negative = negative ∧
      n.toInt? = none ∧ n.significand.exponent + n.powerOfTen = e ∧
      (e = d.exponent ∨ e = -1) ∧ 0 < n.significand.digits ∧ n.significand.digits < 2 ^ 53 ∧
      (n.significand.digits : ℚ) * 10 ^ e = d.value := by
  obtain ⟨-, count⟩ := Decimal.digitCount_spec positive
  have places : Decimal.digitCount d.digits ≤ 10 :=
    (Nat.length_toDigits_le_iff (by decide) (by decide)).2 (few.trans_lt (by norm_num))
  obtain ⟨n, a, b, written, sign, marked, spelled, exponent, zeros⟩ :=
    numeral_spec Single.layout negative (d := d) (by
      have : Nat.pow 2 31 = 2147483648 := by decide
      omega)
  have digits : digitsValue (n.whole ++ n.fraction.getD []) = d.digits * 10 ^ b := by
    rw [spelled, digitsValue_append, digitsValue_append, digitsValue_zeros, digitsValue_zeros,
      digitsValue_toDigits, List.length_replicate, zero_mul, zero_add, add_zero]
  have small : d.digits * 10 ^ b < 10 ^ 15 := by
    obtain rfl | ⟨point, greatest⟩ := zeros
    · exact (Nat.mul_le_mul_right _ few).trans_lt (by norm_num)
    · have twelve : Single.layout.greatest = 12 := rfl
      calc
        d.digits * 10 ^ b < 10 ^ Decimal.digitCount d.digits * 10 ^ b :=
          Nat.mul_lt_mul_of_pos_right count (Nat.pow_pos (by decide))
        _ = 10 ^ (Decimal.digitCount d.digits + b) := (Nat.pow_add _ _ _).symm
        _ ≤ 10 ^ 15 := Nat.pow_le_pow_right (by decide) (by omega)
  have gathered := significand_eq (n := n) (by
    rw [digits]
    exact small.trans (by decide))
  rw [digits] at gathered
  refine ⟨n, d.exponent - b, written, sign, ?_, ?_, by omega, ?_, ?_, ?_⟩
  · obtain ⟨_, _, fraction, power⟩ := n
    cases fraction <;> cases power <;> simp [toInt?] at marked ⊢
  · rw [gathered, ← exponent]
    ring
  · rw [gathered]
    positivity
  · rw [gathered]
    exact small.trans (by norm_num)
  · rw [gathered, Decimal.value, zpow_sub₀ (by norm_num), zpow_natCast]
    push_cast
    field_simp

end Numeral

end CollectorGateway
