import CollectorGateway.Numeric.Numeral

/-!
JSON as a tree that keeps what a text said: numbers as the digits written,
texts as the characters and surrogate halves written, members of an object in
their order and with their repetitions. What a number or a text means, and
whether a repetition is allowed, is for the reader of the tree to decide.
-/

namespace CollectorGateway

/-- One unit of a text: a character, or one half of a surrogate pair, which
only an escape can write. -/
inductive TextUnit where
  | char (c : Char)
  | half (code : Nat)
  deriving DecidableEq, Repr

inductive Json where
  | null
  | bool (b : Bool)
  | number (n : Numeral)
  | text (units : List TextUnit)
  | array (items : List Json)
  | object (members : List (List TextUnit × Json))

namespace Json

def ofText (s : String) : Json := text (s.toList.map .char)

def ofNat (n : Nat) : Json := number (.ofNat n)

def ofInt (n : Int) : Json := number (.ofInt n)

def record (fields : List (String × Json)) : Json :=
  object (fields.map fun (key, value) => (key.toList.map .char, value))

def ofOption (write : α → Json) : Option α → Json
  | some a => write a
  | none => null

end Json

/-- The text that units write; nothing if a half stands without its other
half after it. -/
def TextUnit.text? : List TextUnit → Option (List Char)
  | [] => some []
  | .char c :: rest => (text? rest).map (c :: ·)
  | .half lead :: .half trail :: rest =>
    if lead < 0xDC00 ∧ 0xDC00 ≤ trail then
      (text? rest).map (Char.ofNat (0x10000 + (lead - 0xD800) * 0x400 + (trail - 0xDC00)) :: ·)
    else none
  | .half _ :: _ => none

theorem TextUnit.text?_map_char (cs : List Char) : text? (cs.map .char) = some cs := by
  induction cs with
  | nil => rfl
  | cons c cs ih => simp [text?, ih]

end CollectorGateway
