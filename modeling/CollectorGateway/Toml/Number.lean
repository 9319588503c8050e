import CollectorGateway.Json.Number
import CollectorGateway.Numeric.Decimal
import CollectorGateway.Text.Hex
import CollectorGateway.Text.Scan
import CollectorGateway.Toml.Basic

/-!
Numbers, dates and times of settings files. Underscores may stand between
digits. Integers have 64 bits; a positive number with a fraction or an
exponent must not round to infinity, though infinity can be written.
-/

namespace CollectorGateway.Toml.Grammar

open Scan

def digits (isDigit : Char → Bool) : Scan (List Char) := do
  let first ← satisfying isDigit
  let rest ← many (do
    let _ ← perhaps (char '_')
    satisfying isDigit)
  return first :: rest

def wholeDigits : Scan (List Char) := do
  match ← peek with
  | some '0' => List.singleton <$> satisfying Char.isDigit
  | _ => digits Char.isDigit

def sign : Scan Bool := do
  match ← perhaps (satisfying fun c => c == '+' || c == '-') with
  | some c => return c == '-'
  | none => return false

def exponent : Scan (Bool × List Char) := do
  let _ ← satisfying fun c => c == 'e' || c == 'E'
  return (← sign, ← digits Char.isDigit)

def fraction : Scan (List Char) := do
  char '.'
  digits Char.isDigit

/-- More digits than a point half way between two numbers of double precision
can have. -/
def decisiveDigits : Nat := 800

/-- A decimal that is rounded like the one a numeral writes, without its sign:
digits beyond the decisive ones only tell whether it is more than those say. -/
def decimalOf (n : Numeral) : Decimal :=
  let fraction := n.fraction.getD []
  let digits := (n.whole ++ fraction).dropWhile (· == '0')
  let rest := digits.drop decisiveDigits
  let value := Numeral.digitsValue (digits.take decisiveDigits)
  let exponent := n.powerOfTen - fraction.length + rest.length
  if rest.all (· == '0') then ⟨value, exponent⟩ else ⟨10 * value + 1, exponent - 1⟩

def floatOf (n : Numeral) : Option Double :=
  let magnitude := (decimalOf n).nearest BinaryFormat.double
  if magnitude = BinaryFormat.double.infinity ∧ !n.negative then none
  else some (.ofMagnitude n.negative magnitude)

def fractional : Scan Double := do
  let negative ← sign
  let whole ← wholeDigits
  let fraction ← perhaps fraction
  let exponent ← perhaps exponent
  if fraction.isNone ∧ exponent.isNone then failure
  else
    match floatOf ⟨negative, whole, fraction, exponent⟩ with
    | some x => return x
    | none => failure

def special : Scan Double := do
  let negative ← sign
  let f := BinaryFormat.double
  (do literal ['i', 'n', 'f']; return .ofMagnitude negative f.infinity) <|>
    (do literal ['n', 'a', 'n']; return .ofMagnitude negative (f.infinity + Nat.pow 2 51))

def based (mark : Char) (base : Nat) : Scan Int := do
  literal ['0', mark]
  let ds ← digits fun c => (Hex.digitValue? c).any (· < base)
  let n := ds.foldl (fun n c => min (Nat.pow 2 63) (base * n + (Hex.digitValue? c).getD 0)) 0
  if n < Nat.pow 2 63 then return n else failure

def decimalInteger : Scan Int := do
  let negative ← sign
  let n := Numeral.valueUpTo (Nat.pow 2 64) (← wholeDigits)
  if negative then if n ≤ Nat.pow 2 63 then return -n else failure
  else if n < Nat.pow 2 63 then return n
  else failure

def integer : Scan Int := based 'x' 16 <|> based 'o' 8 <|> based 'b' 2 <|> decimalInteger

def twoDigits (low high : Nat) : Scan Nat := do
  let n := Numeral.digitsValue (← exactly 2 Char.isDigit)
  if low ≤ n ∧ n ≤ high then return n else failure

def isLeapYear (year : Nat) : Bool := year % 4 == 0 && (year % 100 != 0 || year % 400 == 0)

def daysIn (year month : Nat) : Nat :=
  if month = 2 then if isLeapYear year then 29 else 28
  else if month = 4 ∨ month = 6 ∨ month = 9 ∨ month = 11 then 30
  else 31

def date : Scan Unit := do
  let year := Numeral.digitsValue (← exactly 4 Char.isDigit)
  char '-'
  let month ← twoDigits 1 12
  char '-'
  let _ ← twoDigits 1 (daysIn year month)

def time : Scan Unit := do
  let _ ← twoDigits 0 23
  char ':'
  let _ ← twoDigits 0 59
  char ':'
  let _ ← twoDigits 0 60
  let _ ← perhaps (do char '.'; takeSome Char.isDigit)

def timeZone : Scan Unit := do
  let c ← satisfying fun c => c == 'Z' || c == 'z' || c == '+' || c == '-'
  if c = '+' ∨ c = '-' then
    let _ ← twoDigits 0 23
    char ':'
    let _ ← twoDigits 0 59

def dateTime : Scan (List Char) :=
  written (dated <|> time)
where
  dated : Scan Unit := do
    date
    let _ ← perhaps (do
      let _ ← satisfying fun c => c == 'T' || c == 't' || c == ' '
      time
      let _ ← perhaps timeZone)

end CollectorGateway.Toml.Grammar
