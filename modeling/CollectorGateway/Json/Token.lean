import CollectorGateway.Json.Basic
import CollectorGateway.Text.Hex

/-!
The words of a JSON text. The scanner takes one character at a time; a number
or a name ends with the first character that cannot continue it, and a text
ends with its closing quote.
-/

namespace CollectorGateway

namespace Numeral

def splitDigits (cs : List Char) : List Char × List Char :=
  (cs.takeWhile Char.isDigit, cs.dropWhile Char.isDigit)

def splitWhole? (cs : List Char) : Option (List Char × List Char) :=
  match splitDigits cs with
  | ([], _) => none
  | ('0' :: _ :: _, _) => none
  | (digits, rest) => some (digits, rest)

def splitFraction? : List Char → Option (Option (List Char) × List Char)
  | '.' :: rest =>
    match splitDigits rest with
    | ([], _) => none
    | (digits, rest) => some (some digits, rest)
  | rest => some (none, rest)

def splitExponentDigits? (negative : Bool) (cs : List Char) :
    Option (Option (Bool × List Char) × List Char) :=
  match splitDigits cs with
  | ([], _) => none
  | (digits, rest) => some (some (negative, digits), rest)

def splitExponent? : List Char → Option (Option (Bool × List Char) × List Char)
  | [] => some (none, [])
  | c :: rest =>
    if c = 'e' ∨ c = 'E' then
      match rest with
      | '-' :: rest => splitExponentDigits? true rest
      | '+' :: rest => splitExponentDigits? false rest
      | rest => splitExponentDigits? false rest
    else some (none, c :: rest)

def ofChars? (cs : List Char) : Option Numeral := do
  let (negative, cs) := match cs with
    | '-' :: rest => (true, rest)
    | rest => (false, rest)
  let (whole, cs) ← splitWhole? cs
  let (fraction, cs) ← splitFraction? cs
  let (exponent, cs) ← splitExponent? cs
  if cs.isEmpty then some ⟨negative, whole, fraction, exponent⟩ else none

end Numeral

namespace Json

inductive Token where
  | openArray
  | closeArray
  | openObject
  | closeObject
  | comma
  | colon
  | null
  | bool (b : Bool)
  | number (n : Numeral)
  | text (units : List TextUnit)
  deriving DecidableEq

/-- What the scanner is in the middle of; what it has is kept last first. -/
inductive Reading where
  | nothing
  | name (letters : List Char)
  | numeral (chars : List Char)
  | text (units : List TextUnit)
  | escape (units : List TextUnit)
  | code (units : List TextUnit) (places value : Nat)
  deriving DecidableEq

structure Scan where
  tokens : List Token
  reading : Reading

namespace Scan

def start : Scan := ⟨[], .nothing⟩

def emit (s : Scan) (t : Token) : Scan := ⟨t :: s.tokens, .nothing⟩

def fresh (s : Scan) (c : Char) : Option Scan :=
  if c = ' ' ∨ c = '\n' ∨ c = '\t' ∨ c = '\r' then some s
  else if c = '[' then some (s.emit .openArray)
  else if c = ']' then some (s.emit .closeArray)
  else if c = '\x7b' then some (s.emit .openObject)
  else if c = '\x7d' then some (s.emit .closeObject)
  else if c = ',' then some (s.emit .comma)
  else if c = ':' then some (s.emit .colon)
  else if c = '"' then some { s with reading := .text [] }
  else if c = '-' ∨ c.isDigit then some { s with reading := .numeral [c] }
  else if c.isLower then some { s with reading := .name [c] }
  else none

def settle (s : Scan) : Option Scan :=
  match s.reading with
  | .nothing => some s
  | .name letters =>
    match String.ofList letters.reverse with
    | "null" => some (s.emit .null)
    | "true" => some (s.emit (.bool true))
    | "false" => some (s.emit (.bool false))
    | _ => none
  | .numeral chars => (Numeral.ofChars? chars.reverse).map fun n => s.emit (.number n)
  | _ => none

def continuesNumeral (c : Char) : Bool :=
  c.isDigit || c == '.' || c == 'e' || c == 'E' || c == '+' || c == '-'

def escaped? (c : Char) : Option Char :=
  if c = '"' ∨ c = '\\' ∨ c = '/' then some c
  else if c = 'b' then some (Char.ofNat 8)
  else if c = 'f' then some (Char.ofNat 12)
  else if c = 'n' then some '\n'
  else if c = 'r' then some '\r'
  else if c = 't' then some '\t'
  else none

def unitOfCode (code : Nat) : TextUnit :=
  if 0xD800 ≤ code ∧ code < 0xE000 then .half code else .char (Char.ofNat code)

def step (s : Scan) (c : Char) : Option Scan :=
  match s.reading with
  | .nothing => s.fresh c
  | .name letters =>
    if c.isLower then some { s with reading := .name (c :: letters) }
    else do (← s.settle).fresh c
  | .numeral chars =>
    if continuesNumeral c then some { s with reading := .numeral (c :: chars) }
    else do (← s.settle).fresh c
  | .text units =>
    if c = '"' then some (s.emit (.text units.reverse))
    else if c = '\\' then some { s with reading := .escape units }
    else if c.toNat < 32 then none
    else some { s with reading := .text (.char c :: units) }
  | .escape units =>
    if c = 'u' then some { s with reading := .code units 0 0 }
    else (escaped? c).map fun e => { s with reading := .text (.char e :: units) }
  | .code units places value => do
    let value := value * 16 + (← Hex.digitValue? c)
    if places = 3 then some { s with reading := .text (unitOfCode value :: units) }
    else some { s with reading := .code units (places + 1) value }

end Scan

def tokens? (cs : List Char) : Option (List Token) := do
  let s ← cs.foldlM Scan.step Scan.start
  let s ← s.settle
  return s.tokens.reverse

end Json

end CollectorGateway
