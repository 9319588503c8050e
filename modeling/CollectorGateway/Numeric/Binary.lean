import CollectorGateway.Text.Hex

/-!
Binary floating-point numbers as bit patterns. The magnitude of a finite
number with mantissa `m` and exponent `q` is `m * 2 ^ q`; the patterns without
their sign bit count the magnitudes in ascending order, so rounding a quotient
of naturals is one division and one addition. A quotient half way between two
numbers goes to the one with the even pattern.
-/

namespace CollectorGateway

def roundHalfEven (num den : Nat) : Nat :=
  let q := num / den
  let twice := 2 * (num % den)
  if twice < den ∨ (twice = den ∧ q % 2 = 0) then q else q + 1

def floorLog2 (num den : Nat) : Int :=
  let e : Int := num.log2 - den.log2
  let reached := if 0 ≤ e then den * Nat.pow 2 e.toNat ≤ num else den ≤ num * Nat.pow 2 (-e).toNat
  if reached then e else e - 1

structure BinaryFormat where
  /-- Bits of the mantissa, its leading one included. -/
  precision : Nat
  exponentBits : Nat

namespace BinaryFormat

def single : BinaryFormat := ⟨24, 8⟩
def double : BinaryFormat := ⟨53, 11⟩

def minExponent (f : BinaryFormat) : Int :=
  2 - (Nat.pow 2 (f.exponentBits - 1) : Nat) - (f.precision - 1 : Nat)

def infinity (f : BinaryFormat) : Nat := (Nat.pow 2 f.exponentBits - 1) * Nat.pow 2 (f.precision - 1)

def signBit (f : BinaryFormat) : Nat := Nat.pow 2 (f.exponentBits + f.precision - 1)

def nearest (f : BinaryFormat) (num den : Nat) : Nat :=
  if num = 0 then 0
  else
    let q := max (floorLog2 num den - (f.precision - 1 : Nat)) f.minExponent
    let m := if 0 ≤ q then roundHalfEven num (den * Nat.pow 2 q.toNat)
      else roundHalfEven (num * Nat.pow 2 (-q).toNat) den
    min f.infinity ((q - f.minExponent).toNat * Nat.pow 2 (f.precision - 1) + m)

def ofScaled (f : BinaryFormat) (m : Nat) (q : Int) : Nat :=
  if 0 ≤ q then f.nearest (m * Nat.pow 2 q.toNat) 1 else f.nearest m (Nat.pow 2 (-q).toNat)

def unpack (f : BinaryFormat) (magnitude : Nat) : Nat × Int :=
  let half := Nat.pow 2 (f.precision - 1)
  let field := magnitude / half
  if field = 0 then (magnitude, f.minExponent)
  else (magnitude % half + half, f.minExponent + (field - 1 : Nat))

def mul (f : BinaryFormat) (a b : Nat) : Nat :=
  let (m, p) := f.unpack a
  let (n, q) := f.unpack b
  f.ofScaled (m * n) (p + q)

def div (f : BinaryFormat) (a b : Nat) : Nat :=
  let (m, p) := f.unpack a
  let (n, q) := f.unpack b
  if q ≤ p then f.nearest (m * Nat.pow 2 (p - q).toNat) n else f.nearest m (n * Nat.pow 2 (q - p).toNat)

end BinaryFormat

structure Single where
  bits : UInt32
  deriving DecidableEq, Repr

structure Double where
  bits : UInt64
  deriving DecidableEq, Repr

namespace Double

def magnitude (x : Double) : Nat := x.bits.toNat % BinaryFormat.double.signBit

def isNegative (x : Double) : Bool := BinaryFormat.double.signBit ≤ x.bits.toNat

def isNaN (x : Double) : Bool := BinaryFormat.double.infinity < x.magnitude

def ofMagnitude (negative : Bool) (magnitude : Nat) : Double :=
  ⟨UInt64.ofNat (if negative then BinaryFormat.double.signBit + magnitude else magnitude)⟩

def ofNat (n : Nat) : Double := ofMagnitude false (BinaryFormat.double.nearest n 1)

def bitsText (x : Double) : String :=
  if x.isNaN then "nan" else String.ofList (Hex.padded 16 x.bits.toNat)

end Double

namespace Single

def zero : Single := ⟨0⟩

def magnitude (x : Single) : Nat := x.bits.toNat % BinaryFormat.single.signBit

def isNegative (x : Single) : Bool := BinaryFormat.single.signBit ≤ x.bits.toNat

def isNaN (x : Single) : Bool := BinaryFormat.single.infinity < x.magnitude

def bitsText (x : Single) : String :=
  if x.isNaN then "nan" else String.ofList (Hex.padded 8 x.bits.toNat)

def isFinite (x : Single) : Bool := x.magnitude < BinaryFormat.single.infinity

def ofMagnitude (negative : Bool) (magnitude : Nat) : Single :=
  ⟨UInt32.ofNat (if negative then BinaryFormat.single.signBit + magnitude else magnitude)⟩

def ofInt (n : Int) : Single :=
  ofMagnitude (n < 0) (BinaryFormat.single.nearest n.natAbs 1)

def ofDouble (x : Double) : Single :=
  if x.isNaN then ⟨0x7fc00000⟩
  else if x.magnitude = BinaryFormat.double.infinity then
    ofMagnitude x.isNegative BinaryFormat.single.infinity
  else
    let (m, q) := BinaryFormat.double.unpack x.magnitude
    ofMagnitude x.isNegative (BinaryFormat.single.ofScaled m q)

/-- The same number in double precision; what is no number becomes a quiet one
with the same payload. -/
def toDouble (x : Single) : Double :=
  if x.isNaN then
    let payload := x.magnitude - BinaryFormat.single.infinity
    .ofMagnitude x.isNegative (BinaryFormat.double.infinity +
      (Nat.pow 2 51 + payload % Nat.pow 2 22 * Nat.pow 2 29))
  else if x.magnitude = BinaryFormat.single.infinity then
    .ofMagnitude x.isNegative BinaryFormat.double.infinity
  else
    let (m, q) := BinaryFormat.single.unpack x.magnitude
    .ofMagnitude x.isNegative (BinaryFormat.double.ofScaled m q)

end Single

end CollectorGateway
