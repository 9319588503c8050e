import CollectorGateway.Json.Basic
import CollectorGateway.Text.Hex

/-!
JSON written without blanks. A text escapes its quotes, backslashes, control
characters and surrogate halves and nothing else, so a written value never
holds a line break.
-/

namespace CollectorGateway

def TextUnit.print : TextUnit → List Char
  | .char c =>
    if c = '"' then ['\\', '"']
    else if c = '\\' then ['\\', '\\']
    else if c.toNat = 8 then ['\\', 'b']
    else if c = '\t' then ['\\', 't']
    else if c = '\n' then ['\\', 'n']
    else if c.toNat = 12 then ['\\', 'f']
    else if c = '\r' then ['\\', 'r']
    else if c.toNat < 32 then ['\\', 'u'] ++ Hex.padded 4 c.toNat
    else [c]
  | .half code => ['\\', 'u'] ++ Hex.padded 4 code

namespace Json

def printText (units : List TextUnit) : List Char :=
  '"' :: units.flatMap TextUnit.print ++ ['"']

mutual

def print : Json → List Char
  | null => ['n', 'u', 'l', 'l']
  | bool true => ['t', 'r', 'u', 'e']
  | bool false => ['f', 'a', 'l', 's', 'e']
  | number n => n.print
  | text units => printText units
  | array items => '[' :: printItems items ++ [']']
  | object members => '\x7b' :: printMembers members ++ ['\x7d']

def printItems : List Json → List Char
  | [] => []
  | [j] => print j
  | j :: rest => print j ++ ',' :: printItems rest

def printMembers : List (List TextUnit × Json) → List Char
  | [] => []
  | [(key, value)] => printText key ++ ':' :: print value
  | (key, value) :: rest => printText key ++ ':' :: print value ++ ',' :: printMembers rest

end

def toText (j : Json) : String := String.ofList j.print

end Json

end CollectorGateway
