import CollectorGateway.Text.Hex
import CollectorGateway.Text.Invisible

/-!
Values described for a reader of the journal: named fields between braces,
lists between brackets, text between quotes. A description is meant to be
read and not to be parsed.
-/

namespace CollectorGateway.Record

def text (name : String) (fields : List (String × String)) : String :=
  name ++ " \x7b " ++ ", ".intercalate (fields.map fun (key, value) => key ++ ": " ++ value) ++
    " \x7d"

def list (items : List String) : String := "[" ++ ", ".intercalate items ++ "]"

def tagged (name value : String) : String := name ++ "(" ++ value ++ ")"

def option : Option String → String
  | some value => tagged "Some" value
  | none => "None"

/-- A character of a quoted text; one that leaves no mark is written as its
code point. -/
def quotedChar (c : Char) : List Char :=
  if c = '"' then ['\\', '"']
  else if c = '\\' then ['\\', '\\']
  else if c = '\n' then ['\\', 'n']
  else if c = '\r' then ['\\', 'r']
  else if c = '\t' then ['\\', 't']
  else if c.toNat = 0 then ['\\', '0']
  else if Invisible.isInvisible c then
    ['\\', 'u', '\x7b'] ++ Hex.digits c.toNat ++ ['\x7d']
  else [c]

def quoted (s : String) : String :=
  String.ofList ('"' :: s.toList.flatMap quotedChar ++ ['"'])

end CollectorGateway.Record
