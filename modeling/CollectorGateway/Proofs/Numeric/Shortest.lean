import CollectorGateway.Numeric.Decimal
import CollectorGateway.Proofs.Numeric.Rounding

/-!
What the shortest decimal of a number is. On a decimal grid the neighbours of a
number that lie between its cuts are tried, on finer and finer grids; the grid of
nine digits always has one, far from the cuts. Zeros at the end are then moved into
the exponent, which changes no value.
-/

namespace CollectorGateway

namespace Decimal

def value (d : Decimal) : ℚ := d.digits * 10 ^ d.exponent

theorem digitCount_spec {n : Nat} (positive : 0 < n) :
    10 ^ (digitCount n - 1) ≤ n ∧ n < 10 ^ digitCount n := by
  have some : 0 < digitCount n := Nat.length_toDigits_pos
  have fits : ∀ k, 0 < k → (digitCount n ≤ k ↔ n < 10 ^ k) := fun k hk =>
    Nat.length_toDigits_le_iff (by decide) hk
  refine ⟨?_, (fits _ some).1 le_rfl⟩
  by_contra less
  by_cases one : digitCount n = 1
  · rw [one] at less
    omega
  · have := (fits (digitCount n - 1) (by omega)).2 (by omega)
    omega

theorem pred_ceil_spec {num den : Nat} (hn : 0 < num) (small : num < den) :
    ∃ c, (den + num - 1) / num - 1 = c ∧ 0 < c ∧ c * num < den ∧ den ≤ (c + 1) * num := by
  obtain ⟨c, hc⟩ : ∃ c, (den + num - 1) / num = c + 1 :=
    ⟨(den + num - 1) / num - 1, by
      have : 2 ≤ (den + num - 1) / num := (Nat.le_div_iff_mul_le hn).2 (by omega)
      omega⟩
  have cut := Nat.div_add_mod (den + num - 1) num
  have rest := Nat.mod_lt (den + num - 1) hn
  rw [hc, Nat.mul_succ, Nat.mul_comm] at cut
  refine ⟨c, by omega, Nat.pos_of_ne_zero fun none => ?_, by omega, ?_⟩
  · rw [none] at cut
    omega
  · rw [Nat.succ_mul]
    omega

theorem floorLog10_spec {num den : Nat} (hn : 0 < num) (hd : 0 < den) :
    (10 : ℚ) ^ floorLog10 num den ≤ num / den ∧
      (num : ℚ) / den < 10 ^ (floorLog10 num den + 1) := by
  have scale : (0 : ℚ) < den := by exact_mod_cast hd
  unfold floorLog10
  split
  · rename_i large
    obtain ⟨low, high⟩ := digitCount_spec (Nat.div_pos large hd)
    have some : 0 < digitCount (num / den) := Nat.length_toDigits_pos
    have places : ((digitCount (num / den) : Nat) : ℤ) - 1 = (digitCount (num / den) - 1 : Nat) := by
      omega
    rw [places, zpow_natCast, ← Nat.cast_succ, zpow_natCast, Nat.succ_eq_add_one,
      Nat.sub_add_cancel some, le_div_iff₀ scale, div_lt_iff₀ scale]
    constructor
    · have : 10 ^ (digitCount (num / den) - 1) * den ≤ num :=
        (Nat.mul_le_mul_right den low).trans (Nat.div_mul_le_self num den)
      exact_mod_cast this
    · have : num < 10 ^ digitCount (num / den) * den := by
        rw [← Nat.div_lt_iff_lt_mul hd]
        exact high
      exact_mod_cast this
  · rename_i small
    obtain ⟨c, same, positive, above, below⟩ := pred_ceil_spec hn (Nat.lt_of_not_le small)
    obtain ⟨low, high⟩ := digitCount_spec positive
    have some : 0 < digitCount c := Nat.length_toDigits_pos
    have places : -((digitCount c : Nat) : ℤ) + 1 = -((digitCount c - 1 : Nat) : ℤ) := by omega
    rw [same, places, zpow_neg, zpow_neg, zpow_natCast, zpow_natCast, le_div_iff₀ scale,
      div_lt_iff₀ scale, inv_mul_le_iff₀ (by positivity), lt_inv_mul_iff₀ (by positivity)]
    constructor
    · have : den ≤ 10 ^ digitCount c * num := below.trans (Nat.mul_le_mul_right num high)
      exact_mod_cast this
    · have : 10 ^ (digitCount c - 1) * num < den := (Nat.mul_le_mul_right num low).trans_lt above
      exact_mod_cast this

theorem trimZeros_spec (fuel : Nat) (d : Decimal) :
    ∃ z : Nat, (trimZeros fuel d).exponent = d.exponent + z ∧
      (trimZeros fuel d).digits * 10 ^ z = d.digits := by
  induction fuel generalizing d with
  | zero => exact ⟨0, by simp [trimZeros], by simp [trimZeros]⟩
  | succ fuel ih =>
    rw [trimZeros]
    split
    · rename_i trailing
      obtain ⟨z, exponent, digits⟩ := ih ⟨d.digits / 10, d.exponent + 1⟩
      refine ⟨z + 1, by rw [exponent]; push_cast; ring, ?_⟩
      rw [Nat.pow_succ, ← Nat.mul_assoc, digits]
      exact Nat.div_mul_cancel (Nat.dvd_of_mod_eq_zero trailing.2)
    · exact ⟨0, by simp, by simp⟩

theorem value_trimZeros (fuel : Nat) (d : Decimal) : (trimZeros fuel d).value = d.value := by
  obtain ⟨z, exponent, digits⟩ := trimZeros_spec fuel d
  rw [value, value, exponent, ← digits, zpow_add₀ (by norm_num), zpow_natCast]
  push_cast
  ring

open BinaryFormat (Surrounds)

variable {f : BinaryFormat} {n : Nat}

theorem span_spec (positive : 0 < n) :
    0 < (Span.ofPattern f n).den ∧
    ((Span.ofPattern f n).low : ℚ) / (Span.ofPattern f n).den = f.cut (n - 1) ∧
    ((Span.ofPattern f n).mid : ℚ) / (Span.ofPattern f n).den = f.value n ∧
    ((Span.ofPattern f n).high : ℚ) / (Span.ofPattern f n).den = f.cut n := by
  have unfolded : Span.ofPattern f n =
      ⟨(if (f.unpack n).1 = f.half ∧ f.minExponent < (f.unpack n).2 then 4 * (f.unpack n).1 - 1
          else 4 * (f.unpack n).1 - 2) *
            (if 2 ≤ (f.unpack n).2 then Nat.pow 2 ((f.unpack n).2 - 2).toNat else 1),
        4 * (f.unpack n).1 *
          (if 2 ≤ (f.unpack n).2 then Nat.pow 2 ((f.unpack n).2 - 2).toNat else 1),
        (4 * (f.unpack n).1 + 2) *
          (if 2 ≤ (f.unpack n).2 then Nat.pow 2 ((f.unpack n).2 - 2).toNat else 1),
        if 2 ≤ (f.unpack n).2 then 1 else Nat.pow 2 (2 - (f.unpack n).2).toNat,
        (f.unpack n).1 % 2 = 0⟩ := rfl
  rw [unfolded, BinaryFormat.cut_pred positive, BinaryFormat.value, BinaryFormat.cut]
  generalize (f.unpack n).1 = m
  generalize (f.unpack n).2 = q
  have some : 0 < if 2 ≤ q then 1 else Nat.pow 2 (2 - q).toNat := by
    split
    · decide
    · exact Nat.pow_pos (by decide)
  have ratio : (((if 2 ≤ q then Nat.pow 2 (q - 2).toNat else 1 : Nat)) : ℚ) /
      ((if 2 ≤ q then 1 else Nat.pow 2 (2 - q).toNat : Nat)) = 2 ^ (q - 2) := by
    split
    · rename_i h
      have power := cast_two_pow (e := q - 2) (by omega)
      rw [power, Nat.cast_one, div_one]
    · rename_i h
      have power := cast_two_pow (e := 2 - q) (by omega)
      rw [power, Nat.cast_one, one_div, ← zpow_neg, neg_sub]
  rw [zpow_quartered] at ratio
  rw [zpow_quartered, zpow_halved]
  refine ⟨some, ?_, ?_, ?_⟩
  · rw [Nat.cast_mul, mul_div_assoc, ratio]
  · rw [Nat.cast_mul, mul_div_assoc, ratio]
    push_cast
    ring
  · rw [Nat.cast_mul, mul_div_assoc, ratio]
    push_cast
    ring

theorem grid_le_iff (s : Span) (positive : 0 < s.den) (unit : ℤ) :
    let ten := Nat.pow 10 unit.natAbs
    let step := if 0 ≤ unit then s.den * ten else s.den
    let scale := if 0 ≤ unit then 1 else ten
    0 < step ∧ ∀ a d, (a * scale ≤ d * step ↔ (a : ℚ) / s.den ≤ d * 10 ^ unit) ∧
      (d * step ≤ a * scale ↔ (d : ℚ) * 10 ^ unit ≤ a / s.den) := by
  have den : (0 : ℚ) < s.den := by exact_mod_cast positive
  have ten : 0 < Nat.pow 10 unit.natAbs := Nat.pow_pos (by decide)
  simp only
  split
  · rename_i h
    refine ⟨Nat.mul_pos positive ten, fun a d => ?_⟩
    have power := cast_ten_pow h
    rw [show unit.toNat = unit.natAbs by omega] at power
    have swap : (d : ℚ) * ((Nat.pow 10 unit.natAbs : Nat) : ℚ) * s.den =
        ((d * (s.den * Nat.pow 10 unit.natAbs) : Nat) : ℚ) := by
      push_cast
      ring
    rw [div_le_iff₀ den, le_div_iff₀ den, ← power, swap, mul_one]
    exact ⟨by exact_mod_cast Iff.rfl, by exact_mod_cast Iff.rfl⟩
  · rename_i h
    refine ⟨positive, fun a d => ?_⟩
    have power := cast_ten_pow (e := -unit) (by omega)
    rw [show (-unit).toNat = unit.natAbs by omega, zpow_neg] at power
    have same : (10 : ℚ) ^ unit = ((Nat.pow 10 unit.natAbs : Nat) : ℚ)⁻¹ := by rw [power, inv_inv]
    have some : (0 : ℚ) < ((Nat.pow 10 unit.natAbs : Nat) : ℚ) := by exact_mod_cast ten
    rw [div_le_iff₀ den, le_div_iff₀ den, same, mul_right_comm, ← div_eq_mul_inv,
      le_div_iff₀ some, div_le_iff₀ some]
    exact ⟨by exact_mod_cast Iff.rfl, by exact_mod_cast Iff.rfl⟩

def Span.isInside (s : Span) (unit : ℤ) (d : Nat) : Bool :=
  let step := if 0 ≤ unit then s.den * Nat.pow 10 unit.natAbs else s.den
  let scale := if 0 ≤ unit then 1 else Nat.pow 10 unit.natAbs
  if s.closed then s.low * scale ≤ d * step && d * step ≤ s.high * scale
  else s.low * scale < d * step && d * step < s.high * scale

def Span.floorOn (s : Span) (unit : ℤ) : Nat :=
  s.mid * (if 0 ≤ unit then 1 else Nat.pow 10 unit.natAbs) /
    if 0 ≤ unit then s.den * Nat.pow 10 unit.natAbs else s.den

theorem isInside_iff (positive : 0 < n) (unit : ℤ) (d : Nat) :
    (Span.ofPattern f n).isInside unit d = true ↔ f.Surrounds n (d * 10 ^ unit) := by
  obtain ⟨den, low, -, high⟩ := span_spec (f := f) positive
  have closed : (Span.ofPattern f n).closed = decide ((f.unpack n).1 % 2 = 0) := rfl
  obtain ⟨-, compare⟩ := grid_le_iff (Span.ofPattern f n) den unit
  have fromLow := (compare (Span.ofPattern f n).low d).1
  have toLow := (compare (Span.ofPattern f n).low d).2
  have fromHigh := (compare (Span.ofPattern f n).high d).1
  have toHigh := (compare (Span.ofPattern f n).high d).2
  rw [low] at fromLow toLow
  rw [high] at fromHigh toHigh
  rw [Span.isInside, closed]
  by_cases even : (f.unpack n).1 % 2 = 0
  · simp only [even, decide_true, if_true, Bool.and_eq_true, decide_eq_true_eq, fromLow, toHigh]
    exact ⟨fun h => ⟨h.1, h.2, .inl even⟩, fun h => ⟨h.low, h.high⟩⟩
  · simp only [even, decide_false, Bool.false_eq_true, if_false, Bool.and_eq_true,
      decide_eq_true_eq, ← Nat.not_le, fromHigh, toLow, not_le]
    exact ⟨fun h => ⟨h.1.le, h.2.le, .inr h⟩, fun h => h.inner.resolve_left even⟩

theorem floorOn_spec (positive : 0 < n) (unit : ℤ) :
    (Span.ofPattern f n).floorOn unit * 10 ^ unit ≤ f.value n ∧
      f.value n < (Span.ofPattern f n).floorOn unit * 10 ^ unit + 10 ^ unit := by
  obtain ⟨den, -, mid, -⟩ := span_spec (f := f) positive
  obtain ⟨filled, compare⟩ := grid_le_iff (Span.ofPattern f n) den unit
  rw [← mid]
  refine ⟨(compare _ _).2.1 (Nat.div_mul_le_self _ _), lt_of_not_ge fun le => ?_⟩
  have below := (compare (Span.ofPattern f n).mid ((Span.ofPattern f n).floorOn unit + 1)).2.2 (by
    push_cast
    linarith)
  have above := Nat.lt_div_mul_add (a := (Span.ofPattern f n).mid *
    (if 0 ≤ unit then 1 else Nat.pow 10 unit.natAbs)) filled
  rw [Nat.succ_mul] at below
  exact absurd (above.trans_le below) (lt_irrefl _)

/-- A grid is searched at the point below a number and at the next: the outcome is
one of them that lies between the cuts, and not nothing if the first does. -/
theorem nearestOnGrid?_cases (positive : 0 < n) (unit : ℤ) :
    ∃ k : Nat, k * 10 ^ unit ≤ f.value n ∧ f.value n < k * 10 ^ unit + 10 ^ unit ∧
      ((Span.ofPattern f n).nearestOnGrid? unit = some ⟨k, unit⟩ ∧ f.Surrounds n (k * 10 ^ unit) ∨
        (Span.ofPattern f n).nearestOnGrid? unit = some ⟨k + 1, unit⟩ ∧
          f.Surrounds n ((k + 1 : Nat) * 10 ^ unit) ∨
        (Span.ofPattern f n).nearestOnGrid? unit = none ∧ ¬ f.Surrounds n (k * 10 ^ unit)) := by
  obtain ⟨below, above⟩ := floorOn_spec (f := f) positive unit
  refine ⟨_, below, above, ?_⟩
  rw [← isInside_iff positive, ← isInside_iff positive]
  generalize Span.ofPattern f n = s
  obtain ⟨nearer, unfolded⟩ : ∃ nearer : Bool, s.nearestOnGrid? unit =
      if s.isInside unit (s.floorOn unit) && (!s.isInside unit (s.floorOn unit + 1) || nearer) then
        some ⟨s.floorOn unit, unit⟩
      else if s.isInside unit (s.floorOn unit + 1) then some ⟨s.floorOn unit + 1, unit⟩
      else none := ⟨_, by rw [Span.nearestOnGrid?, Bool.or_assoc]; rfl⟩
  rw [unfolded]
  cases s.isInside unit (s.floorOn unit) <;> cases s.isInside unit (s.floorOn unit + 1) <;>
    cases nearer <;> simp

theorem nearestOnGrid?_ne_none (positive : 0 < n) {unit : ℤ}
    (fine : 4 * f.half * 10 ^ unit < f.value n) :
    (Span.ofPattern f n).nearestOnGrid? unit ≠ none := by
  obtain ⟨k, below, above, ⟨found, -⟩ | ⟨found, -⟩ | ⟨-, outside⟩⟩ :=
    nearestOnGrid?_cases (f := f) positive unit
  · simp [found]
  · simp [found]
  · obtain ⟨lower, upper⟩ := BinaryFormat.cut_distance (f := f) positive
    have some := BinaryFormat.value_pos (f := f) positive
    have half : (0 : ℚ) < 4 * f.half := by
      have := f.half_pos
      positivity
    have step : (10 : ℚ) ^ unit < f.value n - f.cut (n - 1) :=
      lt_of_mul_lt_mul_left (fine.trans_le lower) half.le
    have beyond : 0 < f.cut n - f.value n := by
      refine pos_of_mul_pos_right ?_ half.le
      linarith
    refine absurd (⟨?_, ?_, .inr ⟨?_, ?_⟩⟩ : f.Surrounds n (k * 10 ^ unit)) outside <;> linarith

/-- A decimal next to a number and between its cuts, on the grid with `i` places below
the first digit of the number. It has as many digits as the number has on this grid, or
is the next power of ten. -/
structure IsBeside (f : BinaryFormat) (n : Nat) (e : ℤ) (i : Nat) (d : Decimal) : Prop where
  low : (10 : ℚ) ^ e ≤ f.value n
  high : f.value n < 10 ^ (e + 1)
  exponent : d.exponent = e - i
  surrounds : f.Surrounds n d.value
  near : |d.value - f.value n| ≤ 10 ^ (e - i)
  least : 10 ^ i ≤ d.digits
  most : d.digits ≤ 10 ^ (i + 1)

theorem isBeside_of_nearestOnGrid? (positive : 0 < n) {e : ℤ} {i : Nat}
    (low : (10 : ℚ) ^ e ≤ f.value n) (high : f.value n < 10 ^ (e + 1)) {d : Decimal}
    (found : (Span.ofPattern f n).nearestOnGrid? (e - i) = some d) : IsBeside f n e i d := by
  obtain ⟨k, below, above, outcome⟩ := nearestOnGrid?_cases (f := f) positive (e - i)
  have place : (0 : ℚ) < 10 ^ (e - i) := by positivity
  have next : ((k + 1 : Nat) : ℚ) * 10 ^ (e - i) = k * 10 ^ (e - i) + 10 ^ (e - i) := by
    push_cast
    ring
  obtain ⟨j, rfl, surrounds, upper, lower⟩ : ∃ j : Nat, d = ⟨j, e - i⟩ ∧
      f.Surrounds n (j * 10 ^ (e - i)) ∧ j * 10 ^ (e - i) ≤ f.value n + 10 ^ (e - i) ∧
      f.value n < j * 10 ^ (e - i) + 10 ^ (e - i) := by
    obtain ⟨hit, surrounds⟩ | ⟨hit, surrounds⟩ | ⟨miss, -⟩ := outcome
    · exact ⟨k, Option.some.inj (found.symm.trans hit), surrounds, by linarith, above⟩
    · exact ⟨k + 1, Option.some.inj (found.symm.trans hit), surrounds, by linarith, by linarith⟩
    · exact absurd (found.symm.trans miss) nofun
  have whole : (10 : ℚ) ^ e = 10 ^ i * 10 ^ (e - i) := by
    rw [← zpow_natCast, ← zpow_add₀ (by norm_num)]
    congr 1
    ring
  refine ⟨low, high, rfl, surrounds, ?_, ?_, ?_⟩
  · rw [value, abs_le]
    exact ⟨by linarith, by linarith⟩
  · have : (10 : ℚ) ^ i < (j + 1 : Nat) := by
      refine lt_of_mul_lt_mul_right ?_ place.le
      push_cast
      linarith
    exact Nat.lt_succ_iff.1 (by exact_mod_cast this)
  · have : (j : ℚ) < (10 ^ (i + 1) + 1 : Nat) := by
      rw [zpow_add_one₀ (by norm_num), whole] at high
      refine lt_of_mul_lt_mul_right ?_ place.le
      push_cast
      rw [pow_succ]
      linarith
    exact Nat.lt_succ_iff.1 (by exact_mod_cast this)

/-- The shortest decimal is one beside the number, with the zeros at its end removed. -/
theorem exists_isBeside (positive : 0 < n) {p : Nat} (fine : 4 * f.half < 10 ^ p) :
    ∃ (e : ℤ) (i : Nat) (d : Decimal), i ≤ p ∧ IsBeside f n e i d ∧
      shortest f (p + 1) n = trimZeros (p + 1) d := by
  obtain ⟨den, -, mid, -⟩ := span_spec (f := f) positive
  obtain ⟨e, he⟩ : ∃ e, floorLog10 (Span.ofPattern f n).mid (Span.ofPattern f n).den = e := ⟨_, rfl⟩
  have filled : 0 < (Span.ofPattern f n).mid := by
    refine Nat.pos_of_ne_zero fun none => ?_
    rw [none, Nat.cast_zero, zero_div] at mid
    exact (BinaryFormat.value_pos (f := f) positive).ne mid
  obtain ⟨low, high⟩ := floorLog10_spec filled den
  rw [mid, he] at low high
  have unfolded : shortest f (p + 1) n = trimZeros (p + 1)
      (((List.range (p + 1)).findSome? fun (i : Nat) =>
        (Span.ofPattern f n).nearestOnGrid? (e - i)).getD ⟨0, 0⟩) := by rw [← he]; rfl
  -- The finest grid has a point, so some grid is the first that has one.
  have finest : 4 * f.half * (10 : ℚ) ^ (e - p) < f.value n := by
    have finer : (4 * f.half : ℚ) < 10 ^ p := by exact_mod_cast fine
    calc
      4 * (f.half : ℚ) * 10 ^ (e - p) < 10 ^ p * 10 ^ (e - p) := by gcongr
      _ = 10 ^ e := by
        rw [← zpow_natCast, ← zpow_add₀ (by norm_num), add_sub_cancel]
      _ ≤ f.value n := low
  have hit := nearestOnGrid?_ne_none (f := f) positive finest
  obtain ⟨d, first⟩ : ∃ d, ((List.range (p + 1)).findSome? fun (i : Nat) =>
      (Span.ofPattern f n).nearestOnGrid? (e - i)) = some d := by
    rw [← Option.isSome_iff_exists, List.findSome?_isSome_iff]
    exact ⟨p, by simp, Option.isSome_iff_ne_none.2 hit⟩
  obtain ⟨i, listed, found⟩ := List.exists_of_findSome?_eq_some first
  rw [List.mem_range] at listed
  refine ⟨e, i, d, by omega, isBeside_of_nearestOnGrid? positive low high found, ?_⟩
  rw [unfolded, first]
  rfl

namespace IsBeside

variable {e : ℤ} {i : Nat} {d : Decimal}

theorem digits_pos (beside : IsBeside f n e i d) : 0 < d.digits :=
  (Nat.pow_pos (by decide)).trans_le beside.least

theorem value_filled (beside : IsBeside f n e i d) {k : Nat} (finer : i ≤ k) :
    d.value = (d.digits * 10 ^ (k - i) : Nat) * 10 ^ (e - k) := by
  rw [value, beside.exponent]
  push_cast
  rw [mul_assoc, ← zpow_natCast, ← zpow_add₀ (by norm_num)]
  congr 2
  omega

theorem digits_filled (beside : IsBeside f n e i d) {k : Nat} (finer : i ≤ k) :
    10 ^ k ≤ d.digits * 10 ^ (k - i) ∧ d.digits * 10 ^ (k - i) ≤ 10 ^ (k + 1) := by
  obtain ⟨z, rfl⟩ := Nat.exists_eq_add_of_le finer
  rw [Nat.add_sub_cancel_left, Nat.add_right_comm, Nat.pow_add, Nat.pow_add]
  exact ⟨Nat.mul_le_mul_right _ beside.least, Nat.mul_le_mul_right _ beside.most⟩

theorem trimmed (beside : IsBeside f n e i d) (fuel : Nat) :
    0 < (trimZeros fuel d).digits ∧ (trimZeros fuel d).digits ≤ 10 ^ (i + 1) ∧
      e - i ≤ (trimZeros fuel d).exponent ∧ (trimZeros fuel d).exponent ≤ e + 1 := by
  obtain ⟨z, exponent, digits⟩ := trimZeros_spec fuel d
  have some : 0 < (trimZeros fuel d).digits := Nat.pos_of_mul_pos_right (digits ▸ beside.digits_pos)
  have fewer : (trimZeros fuel d).digits ≤ d.digits :=
    digits ▸ Nat.le_mul_of_pos_right _ (by positivity)
  have zeros : z ≤ i + 1 := by
    rw [← Nat.pow_le_pow_iff_right (a := 10) (by decide)]
    exact (Nat.le_mul_of_pos_left _ some).trans (digits ▸ beside.most)
  rw [exponent, beside.exponent]
  exact ⟨some, fewer.trans beside.most, by omega, by omega⟩

end IsBeside

theorem shortest_pos (positive : 0 < n) {p : Nat} (fine : 4 * f.half < 10 ^ p) :
    0 < (shortest f (p + 1) n).digits := by
  obtain ⟨e, i, d, -, beside, chosen⟩ := exists_isBeside (f := f) positive fine
  rw [chosen]
  exact (beside.trimmed _).1

end Decimal

end CollectorGateway
