import CollectorGateway.Proofs.Numeric.Gap
import CollectorGateway.Proofs.Numeric.Reading

/-!
Every finite reading is read back from its decimal. The decimal is between the cuts of
its number, and what is read in double precision is as well: a decimal of nine digits
is far enough from the cuts, and one of eight digits that is near a cut is among those
tried, or it is the cut and is read without error.
-/

namespace CollectorGateway

open BinaryFormat (single double Surrounds)

namespace Single

variable {n : Nat}

theorem value_bounds (positive : 0 < n) (finite : n < single.infinity) :
    (10 : ℚ) ^ (-45 : ℤ) < single.value n ∧ single.value n < 10 ^ (39 : ℤ) := by
  obtain ⟨⟨least, -, normal⟩, inner, same⟩ := single.pattern_unpack n
  have mantissa := BinaryFormat.mantissa_pos (f := single) positive
  have half : single.half = 2 ^ 23 := rfl
  have bottom : single.minExponent = -149 := rfl
  have top : single.infinity = 255 * 2 ^ 23 := rfl
  rw [BinaryFormat.value]
  rw [BinaryFormat.pattern] at same
  generalize (single.unpack n).1 = m at *
  generalize (single.unpack n).2 = q at *
  rw [bottom, half] at same normal
  rw [bottom] at least
  rw [half] at inner
  rw [top] at finite
  have one : (1 : ℚ) ≤ m := by exact_mod_cast mantissa
  have most : (m : ℚ) ≤ 2 ^ 24 := by exact_mod_cast inner.le
  constructor
  · calc
      (10 : ℚ) ^ (-45 : ℤ) < 1 * 2 ^ (-149 : ℤ) := by norm_num
      _ ≤ m * 2 ^ q := by
        gcongr
        norm_num
  · calc
      (m : ℚ) * 2 ^ q ≤ 2 ^ 24 * 2 ^ (104 : ℤ) := by
        gcongr
        · norm_num
        · omega
      _ < 10 ^ (39 : ℤ) := by norm_num

theorem side_of_far {D R c : ℚ} (error : |R - D| * 2 ^ 54 ≤ 5 * D) (far : 5 * D < 2 ^ 54 * |D - c|) :
    (c ≤ D → c < R) ∧ (D ≤ c → R < c) := by
  have closer : |R - D| < |D - c| := by linarith
  obtain ⟨low, high⟩ := abs_lt.1 closer
  constructor
  · intro below
    rw [abs_of_nonneg (by linarith)] at low
    linarith
  · intro above
    rw [abs_of_nonpos (by linarith)] at high
    linarith

theorem surrounds_of_near (positive : 0 < n) {D R : ℚ} (error : |R - D| * 2 ^ 54 ≤ 5 * D)
    (near : |D - single.value n| * 10 ^ 8 ≤ single.value n) : single.Surrounds n R := by
  obtain ⟨lower, upper⟩ := BinaryFormat.cut_distance (f := single) positive
  have some := BinaryFormat.value_pos (f := single) positive
  have half : (4 * single.half : ℚ) = 2 ^ 25 := by norm_num [BinaryFormat.half, single]
  rw [half] at lower upper
  generalize single.value n = x at *
  have both : |R - x| ≤ |R - D| + |D - x| := abs_sub_le _ _ _
  have bound : D ≤ x + |D - x| := by linarith [le_abs_self (D - x)]
  have close : |R - x| * 2 ^ 25 < x := by linarith
  obtain ⟨left, right⟩ := abs_le.1 (le_refl |R - x|)
  have low : single.cut (n - 1) < R := by linarith
  have high : R < single.cut n := by linarith
  exact ⟨low.le, high.le, .inr ⟨low, high⟩⟩

theorem ofScaled_of_surrounds (positive : 0 < n) (finite : n < single.infinity) {m : Nat}
    (within : single.Surrounds n (double.value m)) :
    single.ofScaled (double.unpack m).1 (double.unpack m).2 = n := by
  have some : 0 < m := by
    refine BinaryFormat.pos_of_value_pos (f := double) (lt_of_lt_of_le ?_ within.low)
    rw [BinaryFormat.cut]
    positivity
  have rounds := BinaryFormat.rounds_ofScaled (f := single)
    (BinaryFormat.mantissa_pos (f := double) some) (double.unpack m).2
  rw [BinaryFormat.value] at within
  exact rounds.eq_of_surrounds positive finite within

theorem surrounds_or_readsBack (positive : 0 < n) (finite : n < single.infinity) {k : ℤ}
    (low : -52 ≤ k) (high : k ≤ 31) {d : Nat} (least : 10 ^ 7 ≤ d) (greatest : d ≤ 10 ^ 8)
    (surrounds : single.Surrounds n (d * 10 ^ k)) {R : ℚ}
    (error : |R - d * 10 ^ k| * 2 ^ 54 ≤ 5 * (d * 10 ^ k))
    (exact : -11 ≤ k → k ≤ 10 → ∀ (b : Nat) (j : ℤ), -1074 ≤ j → b < 2 ^ 53 →
      (d : ℚ) * 10 ^ k = b * 2 ^ j → R = d * 10 ^ k) :
    single.Surrounds n R ∨ Gap.readsBack n := by
  -- At a cut nothing is lost, since a cut is a number of double precision.
  have atCut : ∀ {m : Nat}, m < single.infinity → (d : ℚ) * 10 ^ k = single.cut m → -11 ≤ k →
      k ≤ 10 → single.Surrounds n R := by
    intro m less same inner outer
    obtain ⟨b, j, cut, -, -, fits, jLow, -⟩ := Gap.exists_cut less
    rwa [exact inner outer b j (by omega) (fits.trans (by norm_num)) (same.trans cut)]
  obtain farHigh | ⟨same, inner, outer⟩ | ⟨back, -⟩ :=
    Gap.distance_or_readsBack finite low high least greatest
  · obtain farLow | ⟨same, inner, outer⟩ | ⟨-, back⟩ :=
      Gap.distance_or_readsBack (n := n - 1) (by omega) low high least greatest
    · have below := (side_of_far error farLow).1 surrounds.low
      have above := (side_of_far error farHigh).2 surrounds.high
      exact .inl ⟨below.le, above.le, .inr ⟨below, above⟩⟩
    · exact .inl (atCut (by omega) same inner outer)
    · rw [Nat.sub_add_cancel positive] at back
      exact .inr back
  · exact .inl (atCut finite same inner outer)
  · exact .inr back

open Decimal (IsBeside)

variable {e : ℤ} {i : Nat} {d : Decimal}

theorem exponent_of_isBeside (positive : 0 < n) (finite : n < single.infinity)
    (beside : IsBeside single n e i d) : -46 < e ∧ e < 39 := by
  obtain ⟨low, high⟩ := value_bounds positive finite
  have least : -45 < e + 1 := (zpow_lt_zpow_iff_right₀ (by norm_num)).1 (low.trans beside.high)
  have most : e < 39 := (zpow_lt_zpow_iff_right₀ (by norm_num)).1 (beside.low.trans_lt high)
  omega

/-- What is read from the decimal beside a number is between the cuts of the number, or
the number is one of those tried. -/
theorem surrounds_or_readsBack_of_isBeside (positive : 0 < n) (finite : n < single.infinity)
    (beside : IsBeside single n e i d) (few : i ≤ 8) {R : ℚ}
    (error : |R - d.value| * 2 ^ 54 ≤ 5 * d.value)
    (exact : -4 ≤ e → e ≤ 17 → ∀ (b : Nat) (j : ℤ), -1074 ≤ j → b < 2 ^ 53 →
      d.value = b * 2 ^ j → R = d.value) :
    single.Surrounds n R ∨ Gap.readsBack n := by
  obtain ⟨least, most⟩ := exponent_of_isBeside positive finite beside
  obtain eight | rfl := Nat.lt_or_eq_of_le few
  · -- With zeros at the end, the decimal has eight digits.
    obtain ⟨fewest, greatest⟩ := beside.digits_filled (k := 7) (by omega)
    have surrounds := beside.surrounds
    rw [beside.value_filled (k := 7) (by omega)] at surrounds error exact
    exact surrounds_or_readsBack positive finite (by omega) (by omega) fewest greatest surrounds error
      fun inner outer => exact (by omega) (by omega)
  · refine .inl (surrounds_of_near positive error ?_)
    calc
      |d.value - single.value n| * 10 ^ 8 ≤ 10 ^ (e - (8 : Nat)) * 10 ^ 8 := by
        gcongr
        exact beside.near
      _ = 10 ^ e := by
        rw [zpow_sub₀ (by norm_num), zpow_natCast]
        field_simp
      _ ≤ single.value n := beside.low

/-- The shortest decimal of every number of single precision is read back as the number. -/
theorem exists_read (negative : Bool) (positive : 0 < n) (finite : n < single.infinity) :
    ∃ (x : Numeral) (m : Nat), Single.layout.numeral negative (Decimal.shortest single 9 n) = x ∧
      x.negative = negative ∧ x.toInt? = none ∧
      Numeral.magnitude? x.significand.digits (x.significand.exponent + x.powerOfTen) = some m ∧
      m < double.infinity ∧ single.ofScaled (double.unpack m).1 (double.unpack m).2 = n := by
  obtain ⟨e, i, d, few, beside, chosen⟩ :=
    Decimal.exists_isBeside (f := single) positive (p := 8) (by decide)
  obtain ⟨least, most⟩ := exponent_of_isBeside positive finite beside
  have same := Decimal.value_trimZeros 9 d
  obtain ⟨some, fewer, low, high⟩ := beside.trimmed 9
  have tens : 10 ^ (i + 1) ≤ 10 ^ 9 := Nat.pow_le_pow_right (by decide) (by omega)
  rw [← chosen] at same some fewer low high
  generalize shortest : Decimal.shortest single 9 n = t at *
  obtain ⟨x, place, written, sign, broken, sum, places, positive', fits, value⟩ :=
    Numeral.gathered_numeral negative some (fewer.trans tens) (by omega) (by omega)
  obtain ⟨m, read, bounded, error, exact⟩ :=
    Numeral.exists_isReading positive' fits (e := place) (by omega) (by omega)
  rw [← sum] at read
  rw [value, same] at error exact
  refine ⟨x, m, written, sign, broken, read, bounded, ?_⟩
  obtain within | back := surrounds_or_readsBack_of_isBeside positive finite beside few error
    fun inner outer => exact (by omega) (by omega)
  · exact ofScaled_of_surrounds positive finite within
  · have unsigned := Numeral.numeral_negative Single.layout negative false t
    rw [written, ← shortest] at unsigned
    exact Gap.ofScaled_of_readsBack back unsigned read

theorem ofMagnitude_magnitude (x : Single) : ofMagnitude x.isNegative x.magnitude = x := by
  obtain ⟨bits⟩ := x
  have small : bits.toNat < 2 ^ 32 := bits.toNat_lt
  have sign : single.signBit = 2 ^ 31 := rfl
  rw [ofMagnitude, isNegative, magnitude, sign]
  simp only
  congr 1
  rw [← UInt32.toNat_inj]
  by_cases negative : 2 ^ 31 ≤ bits.toNat
  · rw [decide_eq_true negative, if_pos rfl, UInt32.toNat_ofNat']
    omega
  · rw [decide_eq_false negative, if_neg Bool.false_ne_true, UInt32.toNat_ofNat']
    omega

theorem ofDouble_ofMagnitude (negative : Bool) {m : Nat} (finite : m < double.infinity) :
    ofDouble (Double.ofMagnitude negative m) =
      ofMagnitude negative (single.ofScaled (double.unpack m).1 (double.unpack m).2) := by
  have sign : double.signBit = 2 ^ 63 := rfl
  have top : double.infinity = 2047 * 2 ^ 52 := rfl
  have bits : (Double.ofMagnitude negative m).bits.toNat = if negative then 2 ^ 63 + m else m := by
    rw [Double.ofMagnitude, UInt64.toNat_ofNat', sign]
    split <;> omega
  have magnitude : (Double.ofMagnitude negative m).magnitude = m := by
    rw [Double.magnitude, bits, sign]
    split <;> omega
  have isNegative : (Double.ofMagnitude negative m).isNegative = negative := by
    rw [Double.isNegative, bits, sign]
    cases negative
    · simpa using finite.trans (by decide)
    · simp
  rw [ofDouble, Double.isNaN, magnitude, isNegative, if_neg (by simpa using finite.le),
    if_neg finite.ne]

theorem toSingle?_numeral {x : Single} (finite : x.isFinite) : x.numeral.toSingle? = some x := by
  rw [isFinite, decide_eq_true_eq] at finite
  have back := ofMagnitude_magnitude x
  rw [numeral]
  split
  · rename_i zero
    rw [zero] at back
    have read : Numeral.toDouble? ⟨x.isNegative, ['0'], some ['0'], none⟩ =
        some (Double.ofMagnitude x.isNegative 0) := rfl
    rw [Numeral.toSingle?]
    simp only [Numeral.toInt?, read, Option.map_some]
    rw [ofDouble_ofMagnitude _ (by decide)]
    exact congrArg some back
  · rename_i nonzero
    obtain ⟨n, m, written, sign, broken, read, bounded, same⟩ :=
      exists_read x.isNegative (Nat.pos_of_ne_zero nonzero) finite
    rw [written, Numeral.toSingle?, broken]
    simp only [Numeral.toDouble?, read, Option.map_some]
    rw [sign, ofDouble_ofMagnitude _ bounded, same, back]

end Single

end CollectorGateway
