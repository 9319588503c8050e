/-!
Hexadecimal numerals in small letters: with as many digits as needed, padded
to a width, and one pair of digits for each octet.
-/

namespace CollectorGateway.Hex

def digit (n : Nat) : Char :=
  if n < 10 then Char.ofNat (48 + n) else Char.ofNat (87 + n)

def digitValue? (c : Char) : Option Nat :=
  if '0' ≤ c ∧ c ≤ '9' then some (c.toNat - 48)
  else if 'a' ≤ c ∧ c ≤ 'f' then some (c.toNat - 87)
  else if 'A' ≤ c ∧ c ≤ 'F' then some (c.toNat - 55)
  else none

def padded : Nat → Nat → List Char
  | 0, _ => []
  | width + 1, n => padded width (n / 16) ++ [digit (n % 16)]

def width (n : Nat) : Nat := Nat.log2 n / 4 + 1

def digits (n : Nat) : List Char := padded (width n) n

def text (n : Nat) : String := String.ofList ('0' :: 'x' :: digits n)

def textPadded (places n : Nat) : String := String.ofList ('0' :: 'x' :: padded places n)

def ofOctets (bs : List UInt8) : String :=
  String.ofList (bs.flatMap fun b => [digit (b.toNat / 16), digit (b.toNat % 16)])

/-- The number that a run of hexadecimal digits writes, or a limit if that is
less; nothing for an empty run or another character. -/
def value? (limit : Nat) : List Char → Option Nat
  | [] => none
  | c :: cs => (c :: cs).foldlM (fun n c => do
    return min limit (16 * n + (← digitValue? c))) 0

theorem digitValue?_digit {n : Nat} (small : n < 16) : digitValue? (digit n) = some n := by
  have all : ∀ n < 16, digitValue? (digit n) = some n := by decide
  exact all n small

theorem lt_width (n : Nat) : n < Nat.pow 16 (width n) := by
  have places : n.log2 + 1 ≤ 4 * width n := by
    rw [width]
    omega
  calc
    n < Nat.pow 2 (n.log2 + 1) := Nat.lt_log2_self
    _ ≤ Nat.pow 2 (4 * width n) := Nat.pow_le_pow_right (by decide) places
    _ = Nat.pow 16 (width n) := Nat.pow_mul 2 4 (width n)

theorem foldlM_padded (limit places n value : Nat) :
    (padded places n).foldlM (fun m c => do return min limit (16 * m + (← digitValue? c)))
      (min limit value) = some (min limit (Nat.pow 16 places * value + n % Nat.pow 16 places)) := by
  induction places generalizing n with
  | zero => simp [padded, Nat.mod_one]
  | succ places ih =>
    have last := digitValue?_digit (Nat.mod_lt n (by decide : 0 < 16))
    have power : Nat.pow 16 (places + 1) = 16 * Nat.pow 16 places := Nat.pow_succ'
    have front : n % (16 * Nat.pow 16 places) = n % 16 + 16 * (n / 16 % Nat.pow 16 places) :=
      Nat.mod_mul
    have grouped : 16 * Nat.pow 16 places * value = 16 * (Nat.pow 16 places * value) :=
      Nat.mul_assoc _ _ _
    rw [padded, List.foldlM_append, ih, power, front, grouped]
    simp only [Option.bind_eq_bind, Option.bind_some, List.foldlM_cons, last, List.foldlM_nil,
      Option.pure_def]
    congr 1
    omega

theorem mem_padded {places n : Nat} {c : Char} (listed : c ∈ padded places n) :
    ∃ d < 16, c = digit d := by
  induction places generalizing n with
  | zero => cases listed
  | succ places ih =>
    obtain front | last := List.mem_append.1 listed
    · exact ih front
    · exact ⟨n % 16, Nat.mod_lt n (by decide), List.mem_singleton.1 last⟩

theorem digits_ne_nil (n : Nat) : digits n ≠ [] := by
  simp [digits, padded, width]

theorem value?_digits {limit n : Nat} (small : n < limit) : value? limit (digits n) = some n := by
  have read := foldlM_padded limit (width n) n 0
  rw [Nat.mul_zero, Nat.zero_add, Nat.mod_eq_of_lt (lt_width n), Nat.min_zero,
    Nat.min_eq_right (Nat.le_of_lt small)] at read
  obtain ⟨c, cs, shape⟩ := List.exists_cons_of_ne_nil (digits_ne_nil n)
  rw [shape, value?, ← shape]
  exact read

end CollectorGateway.Hex
