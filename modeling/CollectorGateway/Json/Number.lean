import CollectorGateway.Json.Basic
import CollectorGateway.Numeric.Binary

/-!
What a written number means. Without fraction and exponent, and within 64
bits, it is an integer; any other is a number of double precision, obtained in
three roundings: as many leading digits as fit in 64 bits, the power of ten,
and their product or quotient. A number beyond the greatest finite one means
nothing.
-/

namespace CollectorGateway.Numeral

def digitValue (c : Char) : Nat := c.toNat - 48

def digitsValue (cs : List Char) : Nat := cs.foldl (fun n c => 10 * n + digitValue c) 0

def valueUpTo (limit : Nat) (cs : List Char) : Nat :=
  cs.foldl (fun n c => min limit (10 * n + digitValue c)) 0

theorem valueUpTo_eq (limit : Nat) (cs : List Char) :
    valueUpTo limit cs = min limit (digitsValue cs) := by
  suffices ∀ n m, n = min limit m →
      cs.foldl (fun n c => min limit (10 * n + digitValue c)) n =
        min limit (cs.foldl (fun n c => 10 * n + digitValue c) m) from
    this 0 0 (by simp)
  induction cs with
  | nil => simp
  | cons c cs ih =>
    intro n m h
    simp only [List.foldl_cons]
    exact ih _ _ (by omega)

/-- Digits and power of ten gathered so far; once a digit did not fit, `full`. -/
structure Significand where
  digits : Nat
  exponent : Int
  full : Bool

def Significand.pushWhole (s : Significand) (c : Char) : Significand :=
  let n := 10 * s.digits + digitValue c
  if s.full ∨ Nat.pow 2 64 ≤ n then { s with exponent := s.exponent + 1, full := true }
  else { s with digits := n }

def Significand.pushFraction (s : Significand) (c : Char) : Significand :=
  let n := 10 * s.digits + digitValue c
  if s.full ∨ Nat.pow 2 64 ≤ n then { s with full := true }
  else { s with digits := n, exponent := s.exponent - 1 }

def significand (n : Numeral) : Significand :=
  let s := n.whole.foldl Significand.pushWhole ⟨0, 0, false⟩
  (n.fraction.getD []).foldl Significand.pushFraction { s with full := false }

def exponentLimit : Nat := Nat.pow 2 31

def powerOfTen (n : Numeral) : Int :=
  match n.exponent with
  | some (true, digits) => -(valueUpTo exponentLimit digits : Int)
  | some (false, digits) => valueUpTo exponentLimit digits
  | none => 0

/-- The pattern of `digits * 10 ^ exponent`. Powers above 308 are out of range,
those below -308 are divided out in two parts, and those below -616 leave
nothing. -/
def magnitude? (digits : Nat) (exponent : Int) : Option Nat :=
  let f := BinaryFormat.double
  let ten (k : Nat) := f.nearest (Nat.pow 10 k) 1
  let d := f.nearest digits 1
  if digits = 0 then some 0
  else if 308 < exponent then none
  else if 0 ≤ exponent then
    let m := f.mul d (ten exponent.toNat)
    if m = f.infinity then none else some m
  else if -308 ≤ exponent then some (f.div d (ten (-exponent).toNat))
  else if -616 ≤ exponent then some (f.div (f.div d (ten 308)) (ten (-exponent - 308).toNat))
  else some 0

def toDouble? (n : Numeral) : Option Double :=
  let s := n.significand
  (magnitude? s.digits (s.exponent + n.powerOfTen)).map (Double.ofMagnitude n.negative)

def toInt? (n : Numeral) : Option Int :=
  match n.fraction, n.exponent with
  | none, none =>
    let v := valueUpTo (Nat.pow 2 64) n.whole
    if n.negative then if 0 < v ∧ v ≤ Nat.pow 2 63 then some (-v) else none
    else if v < Nat.pow 2 64 then some v
    else none
  | _, _ => none

def toSingle? (n : Numeral) : Option Single :=
  match n.toInt? with
  | some v => some (.ofInt v)
  | none => n.toDouble?.map .ofDouble

end CollectorGateway.Numeral
