import CollectorGateway.Numeric.Binary
import CollectorGateway.Numeric.Numeral

/-!
The shortest decimal of a binary number: of all decimals that round to it, one
with the fewest digits, and of these the nearest. On each decimal grid only
the two neighbours of the number have to be tried. How digits and exponent are
then written is the choice of a `DecimalLayout`.
-/

namespace CollectorGateway

structure Decimal where
  digits : Nat
  exponent : Int
  deriving DecidableEq, Repr

namespace Decimal

def digitCount (n : Nat) : Nat := (Nat.toDigits 10 n).length

def floorLog10 (num den : Nat) : Int :=
  if den ≤ num then (digitCount (num / den) : Int) - 1
  else -(digitCount ((den + num - 1) / num - 1) : Int)

def trimZeros : Nat → Decimal → Decimal
  | 0, d => d
  | fuel + 1, d =>
    if d.digits ≠ 0 ∧ d.digits % 10 = 0 then trimZeros fuel ⟨d.digits / 10, d.exponent + 1⟩ else d

/-- The quotients that round to one number: from `low` to `high` around
`mid`, all over `den`, with or without the ends. -/
structure Span where
  low : Nat
  mid : Nat
  high : Nat
  den : Nat
  closed : Bool

def Span.ofPattern (f : BinaryFormat) (magnitude : Nat) : Span :=
  let (m, q) := f.unpack magnitude
  let narrow := m = Nat.pow 2 (f.precision - 1) ∧ f.minExponent < q
  let low := if narrow then 4 * m - 1 else 4 * m - 2
  let up := if 2 ≤ q then Nat.pow 2 (q - 2).toNat else 1
  let den := if 2 ≤ q then 1 else Nat.pow 2 (2 - q).toNat
  ⟨low * up, 4 * m * up, (4 * m + 2) * up, den, m % 2 = 0⟩

def Span.nearestOnGrid? (s : Span) (unit : Int) : Option Decimal :=
  let ten := Nat.pow 10 unit.natAbs
  let step := if 0 ≤ unit then s.den * ten else s.den
  let scale := if 0 ≤ unit then 1 else ten
  let inside (d : Nat) : Bool :=
    if s.closed then s.low * scale ≤ d * step && d * step ≤ s.high * scale
    else s.low * scale < d * step && d * step < s.high * scale
  let d := s.mid * scale / step
  let below := s.mid * scale - d * step
  let above := (d + 1) * step - s.mid * scale
  if inside d && (!inside (d + 1) || below < above || (below == above && d % 2 == 0)) then
    some ⟨d, unit⟩
  else if inside (d + 1) then some ⟨d + 1, unit⟩
  else none

/-- The shortest decimal of a positive finite pattern, tried on grids of one to
`places` digits. -/
def shortest (f : BinaryFormat) (places magnitude : Nat) : Decimal :=
  let s := Span.ofPattern f magnitude
  let e := floorLog10 s.mid s.den
  let onGrid := (List.range places).findSome? fun (n : Nat) => s.nearestOnGrid? (e - n)
  trimZeros places (onGrid.getD ⟨0, 0⟩)

/-- The pattern of the number nearest to a decimal. The place of the first
digit tells which decimals are far outside the range of double precision. -/
def nearest (f : BinaryFormat) (d : Decimal) : Nat :=
  let place := d.exponent + digitCount d.digits
  if d.digits = 0 ∨ place < -400 then 0
  else if 400 < place then f.infinity
  else if 0 ≤ d.exponent then f.nearest (d.digits * Nat.pow 10 d.exponent.toNat) 1
  else f.nearest d.digits (Nat.pow 10 (-d.exponent).toNat)

end Decimal

/-- Which decimals are written without an exponent: those whose first digit has
a place from `least` to `greatest`. -/
structure DecimalLayout where
  least : Int
  greatest : Int

namespace DecimalLayout

def numeral (l : DecimalLayout) (negative : Bool) (d : Decimal) : Numeral :=
  let ds := Nat.toDigits 10 d.digits
  let place := d.exponent + ds.length - 1
  if l.least ≤ place ∧ place ≤ l.greatest then
    if 0 ≤ d.exponent then
      ⟨negative, ds ++ List.replicate d.exponent.toNat '0', some ['0'], none⟩
    else if 0 ≤ place then
      ⟨negative, ds.take (place.toNat + 1), some (ds.drop (place.toNat + 1)), none⟩
    else ⟨negative, ['0'], some (List.replicate (-place - 1).toNat '0' ++ ds), none⟩
  else
    ⟨negative, ds.take 1, if ds.length = 1 then none else some (ds.drop 1),
      some (place < 0, Nat.toDigits 10 place.natAbs)⟩

end DecimalLayout

def Single.layout : DecimalLayout := ⟨-6, 12⟩

def Single.numeral (x : Single) : Numeral :=
  if x.magnitude = 0 then ⟨x.isNegative, ['0'], some ['0'], none⟩
  else
    Single.layout.numeral x.isNegative (Decimal.shortest BinaryFormat.single 9 x.magnitude)

end CollectorGateway
