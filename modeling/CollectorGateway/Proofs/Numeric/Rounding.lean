import CollectorGateway.Numeric.Binary
import Mathlib.Algebra.Order.Field.Power
import Mathlib.Algebra.Order.Ring.Rat
import Mathlib.Data.Rat.Cast.Order
import Mathlib.Tactic.FieldSimp
import Mathlib.Tactic.Linarith
import Mathlib.Tactic.NormNum
import Mathlib.Tactic.Positivity
import Mathlib.Tactic.Ring

/-!
Rounding as exact arithmetic on rational numbers. A pattern has a value, and a cut
lies half way to the next pattern; rounding a quotient between the cuts on both
sides of a pattern yields this pattern. Where no pattern is beyond the range, the
error is at most half a unit of the last place, and a value that some mantissa and
exponent have is kept.
-/

namespace CollectorGateway

def IsNearestWhole (x : ℚ) (m : Nat) : Prop :=
  |x - m| < 1 / 2 ∨ |x - m| = 1 / 2 ∧ m % 2 = 0

theorem IsNearestWhole.unique {x : ℚ} {m n : Nat} (hm : IsNearestWhole x m)
    (hn : IsNearestWhole x n) : m = n := by
  wlog less : m < n generalizing m n
  · obtain same | more := Nat.eq_or_lt_of_not_lt less
    · exact same
    · exact (this hn hm more).symm
  exfalso
  have apart : (m : ℚ) + 1 ≤ n := by exact_mod_cast less
  have left : |x - m| ≤ 1 / 2 := hm.elim le_of_lt fun h => h.1.le
  have right : |x - n| ≤ 1 / 2 := hn.elim le_of_lt fun h => h.1.le
  rw [abs_le] at left right
  -- Both are a half away, so both are even and next to each other.
  have next : (n : ℚ) = m + 1 := by linarith
  have half : x - m = 1 / 2 := by linarith
  have half' : x - n = -(1 / 2) := by linarith
  have evenLeft : m % 2 = 0 := by
    obtain h | h := hm
    · rw [half] at h
      norm_num at h
    · exact h.2
  have evenRight : n % 2 = 0 := by
    obtain h | h := hn
    · rw [half'] at h
      norm_num at h
    · exact h.2
  have : n = m + 1 := by exact_mod_cast next
  omega

theorem isNearestWhole_of_between {w : ℚ} {m : Nat} (low : m - 1 / 2 ≤ w) (high : w ≤ m + 1 / 2)
    (inner : m % 2 = 0 ∨ (m : ℚ) - 1 / 2 < w ∧ w < m + 1 / 2) : IsNearestWhole w m := by
  obtain even | ⟨more, less⟩ := inner
  · have close : |w - m| ≤ 1 / 2 := by
      rw [abs_le]
      exact ⟨by linarith, by linarith⟩
    exact close.lt_or_eq.imp_right fun h => ⟨h, even⟩
  · left
    rw [abs_lt]
    exact ⟨by linarith, by linarith⟩

theorem isNearestWhole_roundHalfEven (num : Nat) {den : Nat} (positive : 0 < den) :
    IsNearestWhole (num / den) (roundHalfEven num den) := by
  have scale : (0 : ℚ) < den := by exact_mod_cast positive
  have cut : (num : ℚ) = den * (num / den : Nat) + (num % den : Nat) := by
    exact_mod_cast (Nat.div_add_mod num den).symm
  have below : ((num % den : Nat) : ℚ) < den := by exact_mod_cast Nat.mod_lt num positive
  have part : (num : ℚ) / den = (num / den : Nat) + (num % den : Nat) / den := by
    rw [cut]
    field_simp
  simp only [roundHalfEven]
  generalize num / den = q at *
  generalize num % den = r at *
  have rest : (0 : ℚ) ≤ (r : ℚ) / den := by positivity
  have fraction : (r : ℚ) / den < 1 := (div_lt_one scale).2 below
  rw [part]
  split
  · rename_i h
    have half : (r : ℚ) / den ≤ 1 / 2 := by
      have : (2 : ℚ) * r ≤ den := by exact_mod_cast h.elim Nat.le_of_lt fun tie => tie.1.le
      rw [div_le_iff₀ scale]
      linarith
    refine isNearestWhole_of_between (by linarith) (by linarith) ?_
    obtain less | ⟨-, even⟩ := h
    · have less : (2 : ℚ) * r < den := by exact_mod_cast less
      have : (r : ℚ) / den < 1 / 2 := by
        rw [div_lt_iff₀ scale]
        linarith
      exact .inr ⟨by linarith, by linarith⟩
    · exact .inl even
  · rename_i h
    have half : 1 / 2 ≤ (r : ℚ) / den := by
      have : (den : ℚ) ≤ 2 * r := by exact_mod_cast (show den ≤ 2 * r by omega)
      rw [le_div_iff₀ scale]
      linarith
    refine isNearestWhole_of_between (by push_cast; linarith) (by push_cast; linarith) ?_
    by_cases tie : 2 * r = den
    · exact .inl (by omega)
    · have more : (den : ℚ) < 2 * r := by exact_mod_cast (show den < 2 * r by omega)
      have : 1 / 2 < (r : ℚ) / den := by
        rw [lt_div_iff₀ scale]
        linarith
      exact .inr ⟨by push_cast; linarith, by push_cast; linarith⟩

theorem exists_isNearestWhole {x : ℚ} (nonneg : 0 ≤ x) : ∃ m, IsNearestWhole x m := by
  have same : (x.num.toNat : ℚ) / x.den = x := by
    have : ((x.num.toNat : ℤ) : ℚ) = x.num := by
      rw [Int.toNat_of_nonneg (Rat.num_nonneg.2 nonneg)]
    rw [← Int.cast_natCast, this, Rat.num_div_den]
  exact ⟨_, same ▸ isNearestWhole_roundHalfEven x.num.toNat x.den_pos⟩

theorem cast_pow_toNat (b : Nat) {e : ℤ} (nonneg : 0 ≤ e) :
    ((Nat.pow b e.toNat : Nat) : ℚ) = (b : ℚ) ^ e := by
  conv_rhs => rw [← Int.toNat_of_nonneg nonneg, zpow_natCast]
  exact Nat.cast_pow b _

theorem cast_two_pow {e : ℤ} (nonneg : 0 ≤ e) : ((Nat.pow 2 e.toNat : Nat) : ℚ) = 2 ^ e := by
  rw [cast_pow_toNat 2 nonneg, Nat.cast_ofNat]

theorem cast_ten_pow {e : ℤ} (nonneg : 0 ≤ e) : ((Nat.pow 10 e.toNat : Nat) : ℚ) = 10 ^ e := by
  rw [cast_pow_toNat 10 nonneg, Nat.cast_ofNat]

theorem zpow_halved (q : ℤ) : (2 : ℚ) ^ (q - 1) = 2 ^ q / 2 := by
  rw [zpow_sub₀ two_ne_zero, zpow_one]

theorem zpow_quartered (q : ℤ) : (2 : ℚ) ^ (q - 2) = 2 ^ q / 4 := by
  rw [zpow_sub₀ two_ne_zero]
  norm_num

theorem log2_spec {n : Nat} (positive : 0 < n) :
    (2 : ℚ) ^ (n.log2 : ℤ) ≤ n ∧ (n : ℚ) < 2 ^ (n.log2 + 1 : ℤ) := by
  refine ⟨?_, ?_⟩
  · rw [zpow_natCast]
    exact_mod_cast Nat.log2_self_le positive.ne'
  · have above := Nat.lt_log2_self (n := n)
    rw [← Nat.cast_succ, zpow_natCast]
    exact_mod_cast above

theorem powTwo_le_quotient_iff (num : Nat) {den : Nat} (positive : 0 < den) (e : ℤ) :
    (if 0 ≤ e then den * Nat.pow 2 e.toNat ≤ num else den ≤ num * Nat.pow 2 (-e).toNat) ↔
      (2 : ℚ) ^ e ≤ num / den := by
  have scale : (0 : ℚ) < den := by exact_mod_cast positive
  rw [le_div_iff₀ scale]
  split
  · rename_i h
    have power := cast_two_pow h
    rw [← power, mul_comm]
    exact_mod_cast Iff.rfl
  · rename_i h
    have power := cast_two_pow (e := -e) (by omega)
    rw [zpow_neg] at power
    have unit : (0 : ℚ) < 2 ^ e := by positivity
    rw [← le_div_iff₀' unit, div_eq_mul_inv, ← power]
    exact_mod_cast Iff.rfl

theorem floorLog2_spec {num den : Nat} (hn : 0 < num) (hd : 0 < den) :
    (2 : ℚ) ^ floorLog2 num den ≤ num / den ∧ (num : ℚ) / den < 2 ^ (floorLog2 num den + 1) := by
  obtain ⟨numLow, numHigh⟩ := log2_spec hn
  obtain ⟨denLow, denHigh⟩ := log2_spec hd
  have scale : (0 : ℚ) < den := by exact_mod_cast hd
  have low : (2 : ℚ) ^ ((num.log2 : ℤ) - den.log2 - 1) ≤ num / den := by
    rw [le_div_iff₀ scale]
    calc
      (2 : ℚ) ^ ((num.log2 : ℤ) - den.log2 - 1) * den
        ≤ 2 ^ ((num.log2 : ℤ) - den.log2 - 1) * 2 ^ (den.log2 + 1 : ℤ) := by gcongr
      _ = 2 ^ (num.log2 : ℤ) := by rw [← zpow_add₀ two_ne_zero]; congr 1; ring
      _ ≤ num := numLow
  have high : (num : ℚ) / den < 2 ^ ((num.log2 : ℤ) - den.log2 + 1) := by
    rw [div_lt_iff₀ scale]
    calc
      (num : ℚ) < 2 ^ (num.log2 + 1 : ℤ) := numHigh
      _ = 2 ^ ((num.log2 : ℤ) - den.log2 + 1) * 2 ^ (den.log2 : ℤ) := by
        rw [← zpow_add₀ two_ne_zero]; congr 1; ring
      _ ≤ 2 ^ ((num.log2 : ℤ) - den.log2 + 1) * den := by gcongr
  have reached := powTwo_le_quotient_iff num hd ((num.log2 : ℤ) - den.log2)
  simp only [floorLog2]
  by_cases h : (2 : ℚ) ^ ((num.log2 : ℤ) - den.log2) ≤ num / den
  · rw [if_pos (reached.2 h)]
    exact ⟨h, high⟩
  · rw [if_neg (mt reached.1 h), sub_add_cancel]
    exact ⟨low, lt_of_not_ge h⟩

namespace BinaryFormat

variable {f : BinaryFormat}

def half (f : BinaryFormat) : Nat := Nat.pow 2 (f.precision - 1)

theorem half_pos (f : BinaryFormat) : 0 < f.half := Nat.pow_pos (by decide)

/-- Mantissas and exponents of finite numbers, and the mantissas that a rounding
carried to the next power of two. -/
def Scales (f : BinaryFormat) (m : Nat) (q : ℤ) : Prop :=
  f.minExponent ≤ q ∧ m ≤ 2 * f.half ∧ (f.half ≤ m ∨ q = f.minExponent)

def pattern (f : BinaryFormat) (m : Nat) (q : ℤ) : Nat := (q - f.minExponent).toNat * f.half + m

theorem unpack_pattern {m : Nat} {q : ℤ} (scales : f.Scales m q) (inner : m < 2 * f.half) :
    f.unpack (f.pattern m q) = (m, q) := by
  obtain ⟨least, -, normal⟩ := scales
  have positive := f.half_pos
  have unfolded : f.unpack (f.pattern m q) =
      if f.pattern m q / f.half = 0 then (f.pattern m q, f.minExponent)
      else (f.pattern m q % f.half + f.half,
        f.minExponent + (f.pattern m q / f.half - 1 : Nat)) := rfl
  by_cases small : m < f.half
  · have bottom : q = f.minExponent := normal.resolve_left (by omega)
    have same : f.pattern m q = m := by simp [pattern, bottom]
    rw [unfolded, same, Nat.div_eq_of_lt small, if_pos rfl, bottom]
  · have split : f.pattern m q = (m - f.half) + f.half * ((q - f.minExponent).toNat + 1) := by
      rw [pattern, Nat.mul_succ, Nat.mul_comm]
      omega
    have rest : m - f.half < f.half := by omega
    have field : f.pattern m q / f.half = (q - f.minExponent).toNat + 1 := by
      rw [split, Nat.add_mul_div_left _ _ positive, Nat.div_eq_of_lt rest, Nat.zero_add]
    have mantissa : f.pattern m q % f.half = m - f.half := by
      rw [split, Nat.add_mul_mod_self_left, Nat.mod_eq_of_lt rest]
    rw [unfolded, field, mantissa, if_neg (by omega), Prod.mk.injEq]
    omega

theorem pattern_unpack (f : BinaryFormat) (n : Nat) :
    f.Scales (f.unpack n).1 (f.unpack n).2 ∧ (f.unpack n).1 < 2 * f.half ∧
      f.pattern (f.unpack n).1 (f.unpack n).2 = n := by
  have positive := f.half_pos
  have unfolded : f.unpack n = if n / f.half = 0 then (n, f.minExponent)
      else (n % f.half + f.half, f.minExponent + (n / f.half - 1 : Nat)) := rfl
  have cut := Nat.div_add_mod n f.half
  have rest := Nat.mod_lt n positive
  rw [unfolded]
  split
  · rename_i small
    have less : n < f.half := (Nat.div_eq_zero_iff_lt positive).1 small
    refine ⟨⟨le_rfl, by omega, .inr rfl⟩, by omega, ?_⟩
    simp [pattern]
  · rename_i large
    refine ⟨⟨by omega, by omega, .inl (by omega)⟩, by omega, ?_⟩
    have places : (f.minExponent + ((n / f.half - 1 : Nat) : ℤ) - f.minExponent).toNat =
        n / f.half - 1 := by omega
    have whole : (n / f.half - 1) * f.half + f.half = f.half * (n / f.half) := by
      rw [← Nat.succ_mul, Nat.mul_comm, Nat.succ_eq_add_one, Nat.sub_add_cancel]
      exact Nat.one_le_iff_ne_zero.2 large
    simp only [pattern, places]
    omega

def value (f : BinaryFormat) (n : Nat) : ℚ := (f.unpack n).1 * 2 ^ (f.unpack n).2

/-- What lies half way between a pattern and the next. -/
def cut (f : BinaryFormat) (n : Nat) : ℚ := (2 * (f.unpack n).1 + 1) * 2 ^ ((f.unpack n).2 - 1)

theorem pattern_carried (q : ℤ) (least : f.minExponent ≤ q) :
    f.pattern (2 * f.half) q = f.pattern f.half (q + 1) := by
  have places : (q + 1 - f.minExponent).toNat = (q - f.minExponent).toNat + 1 := by omega
  rw [pattern, pattern, places, Nat.succ_mul (q - f.minExponent).toNat]
  omega

theorem value_pattern {m : Nat} {q : ℤ} (scales : f.Scales m q) :
    f.value (f.pattern m q) = m * 2 ^ q := by
  obtain ⟨least, most, normal⟩ := scales
  have positive := f.half_pos
  obtain inner | same := Nat.lt_or_eq_of_le most
  · rw [value, unpack_pattern ⟨least, most, normal⟩ inner]
  · have next : f.Scales f.half (q + 1) := ⟨by omega, by omega, .inl le_rfl⟩
    rw [same, pattern_carried q least, value, unpack_pattern next (by omega),
      zpow_add_one₀ two_ne_zero]
    push_cast
    ring

theorem half_eq_zpow (f : BinaryFormat) : (f.half : ℚ) = 2 ^ ((f.precision - 1 : Nat) : ℤ) := by
  rw [zpow_natCast]
  exact Nat.cast_pow 2 _

/-- The exponent with which a quotient is rounded: the least one at which the whole
part fits, or the least of all. -/
structure IsScale (f : BinaryFormat) (v : ℚ) (q : ℤ) : Prop where
  least : f.minExponent ≤ q
  low : f.half * 2 ^ q ≤ v ∨ q = f.minExponent
  high : v < 2 * f.half * 2 ^ q

theorem IsScale.eq {num den : Nat} {q : ℤ} (scale : f.IsScale (num / den) q) (hn : 0 < num)
    (hd : 0 < den) : max (floorLog2 num den - (f.precision - 1 : Nat)) f.minExponent = q := by
  obtain ⟨below, above⟩ := floorLog2_spec hn hd
  have base : (1 : ℚ) < 2 := by norm_num
  have upper : floorLog2 num den < (f.precision - 1 : Nat) + q + 1 := by
    rw [← zpow_lt_zpow_iff_right₀ base]
    refine below.trans_lt (scale.high.trans_eq ?_)
    rw [half_eq_zpow, zpow_add_one₀ two_ne_zero, zpow_add₀ two_ne_zero]
    ring
  obtain normal | bottom := scale.low
  · have lower : (f.precision - 1 : Nat) + q < floorLog2 num den + 1 := by
      rw [← zpow_lt_zpow_iff_right₀ base]
      refine lt_of_eq_of_lt ?_ (normal.trans_lt above)
      rw [half_eq_zpow, zpow_add₀ two_ne_zero]
    have := scale.least
    omega
  · omega

theorem exists_isScale (f : BinaryFormat) {num den : Nat} (hn : 0 < num) (hd : 0 < den) :
    ∃ q, f.IsScale (num / den) q := by
  obtain ⟨below, above⟩ := floorLog2_spec hn hd
  have whole : (f.half : ℚ) * 2 ^ (floorLog2 num den - (f.precision - 1 : Nat)) =
      2 ^ floorLog2 num den := by
    rw [half_eq_zpow, ← zpow_add₀ two_ne_zero]
    congr 1
    ring
  refine ⟨max (floorLog2 num den - (f.precision - 1 : Nat)) f.minExponent, le_max_right _ _, ?_, ?_⟩
  · obtain h | h := le_total (floorLog2 num den - (f.precision - 1 : Nat)) f.minExponent
    · exact .inr (max_eq_right h)
    · rw [max_eq_left h, whole]
      exact .inl below
  · calc
      (num : ℚ) / den < 2 ^ (floorLog2 num den + 1) := above
      _ = 2 * (f.half * 2 ^ (floorLog2 num den - (f.precision - 1 : Nat))) := by
        rw [whole, zpow_add_one₀ two_ne_zero]; ring
      _ ≤ 2 * f.half * 2 ^ max (floorLog2 num den - (f.precision - 1 : Nat)) f.minExponent := by
        rw [mul_assoc]
        gcongr
        · norm_num
        · exact le_max_left _ _

theorem nearest_eq {num den : Nat} (hn : 0 < num) (hd : 0 < den) {q : ℤ}
    (scale : f.IsScale (num / den) q) {m : Nat} (nearest : IsNearestWhole (num / den / 2 ^ q) m) :
    f.nearest num den = min f.infinity (f.pattern m q) := by
  have unfolded : f.nearest num den = if num = 0 then 0 else
      min f.infinity (f.pattern
        (if 0 ≤ max (floorLog2 num den - (f.precision - 1 : Nat)) f.minExponent then
          roundHalfEven num (den * Nat.pow 2
            (max (floorLog2 num den - (f.precision - 1 : Nat)) f.minExponent).toNat)
        else roundHalfEven (num * Nat.pow 2
          (-max (floorLog2 num den - (f.precision - 1 : Nat)) f.minExponent).toNat) den)
        (max (floorLog2 num den - (f.precision - 1 : Nat)) f.minExponent)) := rfl
  rw [unfolded, if_neg hn.ne', scale.eq hn hd]
  congr 2
  refine IsNearestWhole.unique ?_ nearest
  split
  · rename_i h
    have power := cast_two_pow h
    have round := isNearestWhole_roundHalfEven num
      (Nat.mul_pos hd (Nat.pow_pos (n := q.toNat) (Nat.two_pos)))
    rw [Nat.cast_mul, ← div_div] at round
    rw [← power]
    exact round
  · rename_i h
    have power := cast_two_pow (e := -q) (by omega)
    rw [zpow_neg] at power
    have round := isNearestWhole_roundHalfEven (num * Nat.pow 2 (-q).toNat) hd
    rw [Nat.cast_mul, power] at round
    rwa [div_right_comm, div_eq_mul_inv (num : ℚ)]

def limit (f : BinaryFormat) : ℚ := f.half * 2 ^ (f.minExponent + Nat.pow 2 f.exponentBits - 3)

theorem IsScale.scales {v : ℚ} {q : ℤ} (scale : f.IsScale v q) {m : Nat}
    (nearest : IsNearestWhole (v / 2 ^ q) m) : f.Scales m q := by
  have unit : (0 : ℚ) < 2 ^ q := by positivity
  have close : |v / 2 ^ q - m| ≤ 1 / 2 := nearest.elim le_of_lt fun h => h.1.le
  rw [abs_le] at close
  refine ⟨scale.least, ?_, ?_⟩
  · have fits : v / 2 ^ q < 2 * f.half := (div_lt_iff₀ unit).2 scale.high
    have : (m : ℚ) < 2 * f.half + 1 := by linarith
    exact Nat.lt_succ_iff.1 (by exact_mod_cast this)
  · refine scale.low.imp_left fun low => ?_
    have fills : f.half ≤ v / 2 ^ q := (le_div_iff₀ unit).2 low
    have : (f.half : ℚ) < m + 1 := by linarith
    exact Nat.lt_succ_iff.1 (by exact_mod_cast this)

theorem exists_rounding {num den : Nat} (hn : 0 < num) (hd : 0 < den)
    (room : (num : ℚ) / den < f.limit) (wide : 2 ≤ f.exponentBits) :
    ∃ q m, f.IsScale (num / den) q ∧ IsNearestWhole (num / den / 2 ^ q) m ∧
      f.nearest num den < f.infinity ∧ f.value (f.nearest num den) = m * 2 ^ q := by
  obtain ⟨q, scale⟩ := f.exists_isScale hn hd
  have nonneg : (0 : ℚ) ≤ num / den / 2 ^ q := by positivity
  obtain ⟨m, nearest⟩ := exists_isNearestWhole nonneg
  have scales := scale.scales nearest
  have positive : (0 : ℚ) < f.half := by exact_mod_cast f.half_pos
  have four : 4 ≤ Nat.pow 2 f.exponentBits := Nat.pow_le_pow_right (n := 2) (by decide) wide
  have bounded : q ≤ f.minExponent + Nat.pow 2 f.exponentBits - 4 := by
    obtain normal | bottom := scale.low
    · have less : (f.half : ℚ) * 2 ^ q <
          f.half * 2 ^ (f.minExponent + Nat.pow 2 f.exponentBits - 3) := normal.trans_lt room
      have less := lt_of_mul_lt_mul_left less positive.le
      rw [zpow_lt_zpow_iff_right₀ (by norm_num)] at less
      omega
    · omega
  have finite : f.pattern m q < f.infinity := by
    have places : (q - f.minExponent).toNat + 4 ≤ Nat.pow 2 f.exponentBits := by
      have := scale.least
      omega
    have most := scales.2.1
    have := f.half_pos
    calc
      f.pattern m q ≤ (q - f.minExponent).toNat * f.half + 2 * f.half := by
        rw [pattern]
        omega
      _ = ((q - f.minExponent).toNat + 2) * f.half := by rw [Nat.add_mul]
      _ < (Nat.pow 2 f.exponentBits - 1) * f.half :=
        Nat.mul_lt_mul_of_pos_right (by omega) this
  have rounded : f.nearest num den = f.pattern m q := by
    rw [nearest_eq hn hd scale nearest, Nat.min_eq_right finite.le]
  exact ⟨q, m, scale, nearest, rounded ▸ finite, by rw [rounded, value_pattern scales]⟩

theorem nearest_error {num den : Nat} (hn : 0 < num) (hd : 0 < den)
    (room : (num : ℚ) / den < f.limit) (wide : 2 ≤ f.exponentBits)
    (normal : f.half * 2 ^ f.minExponent ≤ (num : ℚ) / den) :
    |f.value (f.nearest num den) - num / den| * (2 * f.half) ≤ num / den := by
  obtain ⟨q, m, scale, nearest, -, same⟩ := exists_rounding hn hd room wide
  have unit : (0 : ℚ) < 2 ^ q := by positivity
  have low : f.half * 2 ^ q ≤ (num : ℚ) / den := scale.low.elim id fun h => h ▸ normal
  have close : |(num : ℚ) / den / 2 ^ q - m| ≤ 1 / 2 := nearest.elim le_of_lt fun h => h.1.le
  have apart : |(m : ℚ) * 2 ^ q - num / den| = |(num : ℚ) / den / 2 ^ q - m| * 2 ^ q := by
    rw [abs_sub_comm, ← abs_of_pos unit, ← abs_mul, abs_of_pos unit, sub_mul,
      div_mul_cancel₀ _ unit.ne']
  rw [same, apart]
  calc
    |(num : ℚ) / den / 2 ^ q - m| * 2 ^ q * (2 * f.half) ≤ 1 / 2 * 2 ^ q * (2 * f.half) := by gcongr
    _ = f.half * 2 ^ q := by ring
    _ ≤ num / den := low

theorem nearest_exact {num den : Nat} (hn : 0 < num) (hd : 0 < den)
    (room : (num : ℚ) / den < f.limit) (wide : 2 ≤ f.exponentBits) {n : Nat} {j : ℤ}
    (least : f.minExponent ≤ j) (fits : n < 2 * f.half) (same : (num : ℚ) / den = n * 2 ^ j) :
    f.value (f.nearest num den) = num / den := by
  obtain ⟨q, m, scale, nearest, -, value⟩ := exists_rounding hn hd room wide
  have unit : (0 : ℚ) < 2 ^ q := by positivity
  have positive : (0 : ℚ) < f.half := by exact_mod_cast f.half_pos
  have below : q ≤ j := by
    obtain low | bottom := scale.low
    · have inner : (n : ℚ) < 2 * f.half := by exact_mod_cast fits
      have less : (f.half : ℚ) * 2 ^ q < f.half * 2 ^ (j + 1) := by
        calc
          (f.half : ℚ) * 2 ^ q ≤ n * 2 ^ j := same ▸ low
          _ < 2 * f.half * 2 ^ j := by gcongr
          _ = f.half * 2 ^ (j + 1) := by rw [zpow_add_one₀ two_ne_zero]; ring
      have less := lt_of_mul_lt_mul_left less positive.le
      rw [zpow_lt_zpow_iff_right₀ (by norm_num)] at less
      omega
    · omega
  have shift := cast_two_pow (e := j - q) (by omega)
  rw [zpow_sub₀ two_ne_zero] at shift
  have whole : (num : ℚ) / den / 2 ^ q = ((n * Nat.pow 2 (j - q).toNat : Nat) : ℚ) := by
    rw [same, Nat.cast_mul, shift, mul_div_assoc]
  have found : m = n * Nat.pow 2 (j - q).toNat := by
    refine nearest.unique (.inl ?_)
    rw [whole, sub_self, abs_zero]
    norm_num
  rw [value, found, ← whole, div_mul_cancel₀ _ unit.ne']

theorem mantissa_pos {n : Nat} (positive : 0 < n) : 0 < (f.unpack n).1 := by
  obtain ⟨⟨-, -, normal⟩, -, same⟩ := f.pattern_unpack n
  obtain full | bottom := normal
  · exact f.half_pos.trans_le full
  · rw [pattern, bottom, sub_self, Int.toNat_zero, Nat.zero_mul, Nat.zero_add] at same
    omega

/-- The cut before a pattern; below a power of two the patterns lie twice as close. -/
theorem cut_pred {n : Nat} (positive : 0 < n) :
    f.cut (n - 1) =
      ((if (f.unpack n).1 = f.half ∧ f.minExponent < (f.unpack n).2 then 4 * (f.unpack n).1 - 1
        else 4 * (f.unpack n).1 - 2 : Nat) : ℚ) * 2 ^ ((f.unpack n).2 - 2) := by
  obtain ⟨⟨least, -, normal⟩, inner, same⟩ := f.pattern_unpack n
  have some := mantissa_pos (f := f) positive
  generalize (f.unpack n).1 = m at *
  generalize (f.unpack n).2 = q at *
  split
  · rename_i narrow
    obtain ⟨rfl, above⟩ := narrow
    have before : n - 1 = f.pattern (2 * f.half - 1) (q - 1) := by
      have carried := f.pattern_carried (q - 1) (by omega)
      rw [sub_add_cancel, same] at carried
      rw [← carried, pattern, pattern]
      omega
    have scales : f.Scales (2 * f.half - 1) (q - 1) := ⟨by omega, by omega, .inl (by omega)⟩
    rw [cut, before, unpack_pattern scales (by omega), Nat.cast_sub (by omega),
      Nat.cast_sub (by omega), sub_sub]
    push_cast
    ring
  · rename_i broad
    have before : n - 1 = f.pattern (m - 1) q := by
      rw [← same, pattern, pattern]
      omega
    have scales : f.Scales (m - 1) q := by
      refine ⟨least, by omega, ?_⟩
      by_cases bottom : q = f.minExponent
      · exact .inr bottom
      · exact .inl (by omega)
    rw [cut, before, unpack_pattern scales (by omega), zpow_halved, zpow_quartered,
      Nat.cast_sub (by omega), Nat.cast_sub (by omega)]
    push_cast
    ring

theorem value_pos {n : Nat} (positive : 0 < n) : 0 < f.value n := by
  have : (0 : ℚ) < (f.unpack n).1 := by exact_mod_cast mantissa_pos (f := f) positive
  rw [value]
  positivity

theorem cut_distance {n : Nat} (positive : 0 < n) :
    f.value n ≤ 4 * f.half * (f.value n - f.cut (n - 1)) ∧
      f.value n ≤ 4 * f.half * (f.cut n - f.value n) := by
  have least := mantissa_pos (f := f) positive
  obtain ⟨-, inner, -⟩ := f.pattern_unpack n
  rw [cut_pred positive, value, cut, zpow_quartered, zpow_halved]
  generalize (f.unpack n).1 = m at *
  generalize (f.unpack n).2 = q at *
  have unit : (0 : ℚ) < 2 ^ q := by positivity
  have inner : (m : ℚ) ≤ 2 * f.half := by exact_mod_cast inner.le
  constructor
  · split
    · rename_i narrow
      rw [Nat.cast_sub (by omega), narrow.1]
      push_cast
      linarith
    · rw [Nat.cast_sub (by omega)]
      push_cast
      have : (m : ℚ) * 2 ^ q ≤ 2 * f.half * 2 ^ q := by gcongr
      linarith
  · have : (m : ℚ) * 2 ^ q ≤ 2 * f.half * 2 ^ q := by gcongr
    linarith

/-- A quotient between the cuts on both sides of a finite pattern; it may be at a cut
if the mantissa is even. -/
structure Surrounds (f : BinaryFormat) (n : Nat) (v : ℚ) : Prop where
  low : f.cut (n - 1) ≤ v
  high : v ≤ f.cut n
  inner : (f.unpack n).1 % 2 = 0 ∨ f.cut (n - 1) < v ∧ v < f.cut n

theorem nearest_within {num den m : Nat} (hn : 0 < num) (hd : 0 < den) {w : ℚ} {q : ℤ}
    (scaled : (num : ℚ) / den = w * 2 ^ q) (least : f.minExponent ≤ q)
    (full : f.half ≤ w ∨ q = f.minExponent) (room : w < 2 * f.half) (low : m - 1 / 2 ≤ w)
    (high : w ≤ m + 1 / 2) (inner : m % 2 = 0 ∨ (m : ℚ) - 1 / 2 < w ∧ w < m + 1 / 2) :
    f.nearest num den = min f.infinity (f.pattern m q) := by
  have unit : (0 : ℚ) < 2 ^ q := by positivity
  have scale : f.IsScale (num / den) q := by
    rw [scaled]
    refine ⟨least, full.imp_left fun h => ?_, ?_⟩
    · gcongr
    · gcongr
  have rounded : (num : ℚ) / den / 2 ^ q = w := by rw [scaled, mul_div_cancel_right₀ _ unit.ne']
  exact nearest_eq hn hd scale (rounded ▸ isNearestWhole_of_between low high inner)

theorem nearest_below {num den : Nat} (hn : 0 < num) (hd : 0 < den) {w : ℚ} {q : ℤ}
    (scaled : (num : ℚ) / den = w * 2 ^ q) (above : f.minExponent < q) (low : f.half - 1 / 4 ≤ w)
    (under : w < f.half) : f.nearest num den = min f.infinity (f.pattern f.half q) := by
  have some : (1 : ℚ) ≤ f.half := by exact_mod_cast f.half_pos
  have carried := f.pattern_carried (q - 1) (by omega)
  rw [sub_add_cancel] at carried
  have doubled : (num : ℚ) / den = 2 * w * 2 ^ (q - 1) := by
    rw [scaled, zpow_halved]
    ring
  rw [← carried]
  refine nearest_within hn hd doubled (by omega) (.inl (by linarith)) (by linarith) ?_ ?_
    (.inl (by omega))
  · push_cast
    linarith
  · push_cast
    linarith

theorem nearest_of_surrounds {n num den : Nat} (positive : 0 < n) (finite : n < f.infinity)
    (hn : 0 < num) (hd : 0 < den) (within : f.Surrounds n (num / den)) :
    f.nearest num den = n := by
  obtain ⟨low, high, inner⟩ := within
  rw [cut_pred positive, zpow_quartered] at low inner
  rw [cut, zpow_halved] at high inner
  have some := mantissa_pos (f := f) positive
  obtain ⟨⟨least, -, normal⟩, fits, same⟩ := f.pattern_unpack n
  generalize (f.unpack n).1 = m at *
  generalize (f.unpack n).2 = q at *
  have unit : (0 : ℚ) < 2 ^ q := by positivity
  obtain ⟨w, scaled⟩ : ∃ w, (num : ℚ) / den = w * 2 ^ q :=
    ⟨num / den / 2 ^ q, (div_mul_cancel₀ _ unit.ne').symm⟩
  rw [scaled] at low high inner
  have top : w ≤ m + 1 / 2 := le_of_mul_le_mul_right (high.trans_eq (by ring)) unit
  have strictTop : w * 2 ^ q < (2 * m + 1) * (2 ^ q / 2) → w < m + 1 / 2 := fun h =>
    lt_of_mul_lt_mul_right (h.trans_eq (by ring)) unit.le
  have room : (m : ℚ) + 1 ≤ 2 * f.half := by exact_mod_cast fits
  by_cases narrow : (m = f.half ∧ f.minExponent < q) ∧ w < m
  · obtain ⟨⟨rfl, above⟩, under⟩ := narrow
    rw [if_pos ⟨rfl, above⟩, Nat.cast_sub (by omega)] at low
    have bottom : f.half - 1 / 4 ≤ w := by
      refine le_of_mul_le_mul_right (le_of_eq_of_le ?_ low) unit
      push_cast
      ring
    rw [nearest_below hn hd scaled above bottom under, same, Nat.min_eq_right finite.le]
  -- Elsewhere the cuts are half a unit away, or the quotient is not below the number.
  have between : (m : ℚ) - 1 / 2 ≤ w ∧ (m % 2 = 0 ∨ (m : ℚ) - 1 / 2 < w ∧ w < m + 1 / 2) := by
    by_cases outer : m = f.half ∧ f.minExponent < q
    · have past : (m : ℚ) ≤ w := le_of_not_gt fun under => narrow ⟨outer, under⟩
      exact ⟨by linarith, inner.imp_right fun h => ⟨by linarith, strictTop h.2⟩⟩
    · have spread : ((4 * m - 2 : Nat) : ℚ) * (2 ^ q / 4) = (m - 1 / 2) * 2 ^ q := by
        rw [Nat.cast_sub (by omega)]
        push_cast
        ring
      rw [if_neg outer, spread] at low inner
      exact ⟨le_of_mul_le_mul_right low unit, inner.imp_right fun h =>
        ⟨lt_of_mul_lt_mul_right h.1 unit.le, strictTop h.2⟩⟩
  have full : f.half ≤ w ∨ q = f.minExponent := by
    refine or_iff_not_imp_right.2 fun lowest => ?_
    have large : f.half ≤ m := normal.resolve_right lowest
    by_cases edge : m = f.half
    · subst edge
      exact le_of_not_gt fun under => narrow ⟨⟨rfl, by omega⟩, under⟩
    · have : (f.half : ℚ) + 1 ≤ m := by exact_mod_cast (show f.half + 1 ≤ m by omega)
      linarith [between.1]
  rw [nearest_within hn hd scaled least full (by linarith) between.1 top between.2, same,
    Nat.min_eq_right finite.le]

end BinaryFormat

end CollectorGateway
