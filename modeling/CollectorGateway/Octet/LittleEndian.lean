/-!
Natural numbers as octets, least significant octet first. `encode` writes a
fixed number of octets and `decode` reads all it is given; each undoes the
other, and what `decode` returns always fits the octets it came from.
-/

namespace CollectorGateway.LittleEndian

def encode : Nat → Nat → List UInt8
  | 0, _ => []
  | width + 1, n => UInt8.ofNat n :: encode width (n / 256)

def decode : List UInt8 → Nat
  | [] => 0
  | b :: bs => b.toNat + 256 * decode bs

def u16 (n : UInt16) : List UInt8 := encode 2 n.toNat
def u32 (n : UInt32) : List UInt8 := encode 4 n.toNat
def u64 (n : UInt64) : List UInt8 := encode 8 n.toNat

@[simp] theorem length_encode (width n : Nat) : (encode width n).length = width := by
  induction width generalizing n with
  | zero => rfl
  | succ width ih => simp [encode, ih]

theorem pow_succ_eq (width : Nat) : Nat.pow 256 (width + 1) = 256 * Nat.pow 256 width :=
  Nat.mul_comm _ _

theorem decode_encode (width n : Nat) : decode (encode width n) = n % Nat.pow 256 width := by
  induction width generalizing n with
  | zero => simp [encode, decode, Nat.mod_one]
  | succ width ih =>
    simp only [encode, decode, ih, pow_succ_eq, Nat.mod_mul (x := n) (a := 256)]
    rfl

theorem decode_lt (bs : List UInt8) : decode bs < Nat.pow 256 bs.length := by
  induction bs with
  | nil => simp [decode]
  | cons b bs ih =>
    have hb := b.toNat_lt
    simp only [decode, List.length_cons, pow_succ_eq]
    omega

theorem encode_decode (bs : List UInt8) : encode bs.length (decode bs) = bs := by
  induction bs with
  | nil => rfl
  | cons b bs ih =>
    have hb := b.toNat_lt
    have hd : (b.toNat + 256 * decode bs) / 256 = decode bs := by omega
    have hm : UInt8.ofNat (b.toNat + 256 * decode bs) = b := by
      apply UInt8.toNat_inj.mp
      simp only [UInt8.toNat_ofNat']
      omega
    simp only [encode, decode, List.length_cons, hd, hm, ih]

theorem encode_one (v : UInt8) : encode 1 v.toNat = [v] := by
  simp [encode]

theorem eq_encode_iff {width n : Nat} {bs : List UInt8} (small : n < Nat.pow 256 width) :
    bs = encode width n ↔ bs.length = width ∧ decode bs = n := by
  constructor
  · intro spelled
    rw [spelled, length_encode, decode_encode, Nat.mod_eq_of_lt small]
    exact ⟨rfl, rfl⟩
  · rintro ⟨rfl, rfl⟩
    exact (encode_decode bs).symm

end CollectorGateway.LittleEndian
