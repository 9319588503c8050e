import CollectorGateway.Json.Number

/-!
Values of the domain from JSON trees. A record may be written as an object or
as the array of all its values in order; unknown members are passed over,
repeated ones refuse the record. A choice without content may be written as
its name or as an object with the name and a null.
-/

namespace CollectorGateway.Json

def text? : Json → Option String
  | text units => (TextUnit.text? units).map String.ofList
  | _ => none

def bool? : Json → Option Bool
  | bool b => some b
  | _ => none

def int? (low high : Int) : Json → Option Int
  | number n => n.toInt?.filter fun v => low ≤ v ∧ v ≤ high
  | _ => none

def nat? (bound : Nat) (j : Json) : Option Nat :=
  (j.int? 0 (bound - 1 : Nat)).map Int.toNat

def u8? (j : Json) : Option UInt8 := (j.nat? UInt8.size).map UInt8.ofNat
def u16? (j : Json) : Option UInt16 := (j.nat? UInt16.size).map UInt16.ofNat
def u32? (j : Json) : Option UInt32 := (j.nat? UInt32.size).map UInt32.ofNat
def u64? (j : Json) : Option UInt64 := (j.nat? UInt64.size).map UInt64.ofNat
def i8? (j : Json) : Option Int8 := (j.int? (-128) 127).map Int8.ofInt
def i16? (j : Json) : Option Int16 := (j.int? (-32768) 32767).map Int16.ofInt

def single? : Json → Option Single
  | number n => n.toSingle?
  | _ => none

def members? : Json → Option (List (String × Json))
  | object members => members.mapM fun (key, value) => do
      return (String.ofList (← TextUnit.text? key), value)
  | _ => none

def fields? (names : List String) (j : Json) : Option (List (String × Json)) := do
  let members ← j.members?
  let known := members.filter fun (key, _) => names.contains key
  if (known.map Prod.fst).Nodup then some known else none

def record? (names : List String) : Json → Option (List (String × Json))
  | array items => if items.length = names.length then some (names.zip items) else none
  | j => j.fields? names

def required (fields : List (String × Json)) (name : String) (read : Json → Option α) :
    Option α := do read (← fields.lookup name)

def optional (fields : List (String × Json)) (name : String) (read : Json → Option α) :
    Option (Option α) :=
  match fields.lookup name with
  | none | some null => some none
  | some j => (read j).map some

def choice? : Json → Option (String × Option Json)
  | text units => (TextUnit.text? units).map fun cs => (String.ofList cs, none)
  | object [(key, content)] =>
    (TextUnit.text? key).map fun cs => (String.ofList cs, some content)
  | _ => none

def pick? (choices : List (String × α)) (j : Json) : Option α :=
  match j.choice? with
  | some (name, none) | some (name, some null) => choices.lookup name
  | _ => none

/-- Trees that may be kept for later: at most `budget` deep, all texts whole
and all numbers in range. -/
def isKeepable : Nat → Json → Bool
  | 0, array _ | 0, object _ => false
  | budget + 1, array items => items.all (isKeepable budget)
  | budget + 1, object members =>
    members.all fun (key, value) => (TextUnit.text? key).isSome && isKeepable budget value
  | _, text units => (TextUnit.text? units).isSome
  | _, number n => n.toInt?.isSome || n.toDouble?.isSome
  | _, null | _, bool _ => true

end CollectorGateway.Json
