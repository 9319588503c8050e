import CollectorGateway.Text.Hex
import CollectorGateway.Text.Scan

/-!
Texts of settings files. A text stands between quotes, where a backslash
begins an escape, or between apostrophes, where nothing does; three of either
hold a text of many lines. A line of such a text ends with a line feed however
the file writes it, the line end after the opening marks does not count, and
between quotes a backslash at the end of a line takes the white space after it
away.
-/

namespace CollectorGateway.Toml.Grammar

open Scan

def isGap (c : Char) : Bool := c == ' ' || c == '\t'

def isTextual (c : Char) : Bool := c == '\t' || (32 ≤ c.toNat && c.toNat != 127)

def isPlain (c : Char) : Bool := isTextual c && c != '"' && c != '\\'

def isVerbatim (c : Char) : Bool := isTextual c && c != '\x27'

def newline : Scan Unit := do
  let _ ← perhaps (char '\r')
  char '\n'

def codePoint (places : Nat) : Scan Char := do
  let digits ← exactly places fun c => (Hex.digitValue? c).isSome
  match Hex.value? 0x110000 digits with
  | some n => if h : n.isValidChar then return Char.ofNatAux n h else failure
  | none => failure

def escape : Scan Char := do
  char '\\'
  let c ← satisfying fun _ => true
  if c = 'b' then return Char.ofNat 8
  else if c = 't' then return '\t'
  else if c = 'n' then return '\n'
  else if c = 'f' then return Char.ofNat 12
  else if c = 'r' then return '\r'
  else if c = '"' ∨ c = '\\' then return c
  else if c = 'u' then codePoint 4
  else if c = 'U' then codePoint 8
  else failure

def lineBreak : Scan (List Char) := do
  newline
  return ['\n']

def lineFolding : Scan (List Char) := do
  char '\\'
  let _ ← takeWhile isGap
  newline
  let _ ← many (newline <|> (do let _ ← takeSome isGap))
  return []

def quoted : Scan (List Char) := do
  char '"'
  let pieces ← many (takeSome isPlain <|> List.singleton <$> escape)
  char '"'
  return pieces.flatten

def apostrophized : Scan (List Char) := do
  char '\x27'
  let cs ← takeWhile isVerbatim
  char '\x27'
  return cs

/-- A text of many lines between three marks. One or two marks may stand
inside it, and up to two before the closing ones. -/
def manyLines (mark : Char) (content : Scan (List Char)) : Scan (List Char) := do
  literal [mark, mark, mark]
  let _ ← perhaps newline
  let pieces ← many (content <|> marked)
  let closing ← takeSome (· == mark)
  if 3 ≤ closing.length ∧ closing.length ≤ 5 then return pieces.flatten ++ closing.drop 3
  else failure
where
  marked : Scan (List Char) := do
    let marks ← takeSome (· == mark)
    if marks.length ≤ 2 then return marks ++ (← content) else failure

def text : Scan (List Char) :=
  manyLines '"' (takeSome isPlain <|> lineBreak <|> lineFolding <|> List.singleton <$> escape) <|>
    quoted <|> manyLines '\x27' (takeSome isVerbatim <|> lineBreak) <|> apostrophized

def isBare (c : Char) : Bool := c.isAlphanum || c == '_' || c == '-'

def keyPart : Scan (List Char) := quoted <|> apostrophized <|> takeSome isBare

def keyParts : Nat := 79

def key : Scan (List (List Char) × List Char) := do
  let parts ← separated (do
    let _ ← takeWhile isGap
    let part ← keyPart
    let _ ← takeWhile isGap
    return part) (char '.')
  match parts.getLast? with
  | some last => if parts.length ≤ keyParts then return (parts.dropLast, last) else failure
  | none => failure

end CollectorGateway.Toml.Grammar
