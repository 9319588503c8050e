import CollectorGateway.Text.Blank
import CollectorGateway.Text.Hex
import CollectorGateway.Text.Split

/-!
Which blocks a sensor message carries, one bit for each, in sixteen bits. The
bits without a block are kept. As text, a mask is the names of its blocks and
one hexadecimal number for the rest, with bars between them.
-/

namespace CollectorGateway

inductive SensorField where
  | temperature
  | light
  | humidity
  | messageStats
  | configSettings
  | hallEffect
  | accel
  deriving DecidableEq, Repr

namespace SensorField

/-- The blocks in the order of their bits, which is their order in a message. -/
def all : List SensorField :=
  [temperature, light, humidity, messageStats, configSettings, hallEffect, accel]

def bit : SensorField → UInt16
  | temperature => 0x01
  | light => 0x02
  | humidity => 0x04
  | messageStats => 0x08
  | configSettings => 0x10
  | hallEffect => 0x20
  | accel => 0x40

def name : SensorField → String
  | temperature => "TEMPERATURE"
  | light => "LIGHT"
  | humidity => "HUMIDITY"
  | messageStats => "MSG_STATS"
  | configSettings => "CONFIG_SETTINGS"
  | hallEffect => "HALL_EFFECT"
  | accel => "ACCEL"

def size : SensorField → Nat
  | temperature => 4
  | light => 2
  | humidity => 4
  | messageStats => 40
  | configSettings => 8
  | hallEffect => 4
  | accel => 8

end SensorField

structure FieldMask where
  bits : UInt16
  deriving DecidableEq, Repr

namespace FieldMask

def empty : FieldMask := ⟨0⟩

def has (m : FieldMask) (f : SensorField) : Bool := m.bits &&& f.bit == f.bit

def fields (m : FieldMask) : List SensorField := SensorField.all.filter m.has

def undefinedBits (m : FieldMask) : UInt16 := m.bits &&& 0xFF80

def size (m : FieldMask) : Nat := m.fields.foldr (fun f n => f.size + n) 0

def text (m : FieldMask) : String :=
  let names := m.fields.map SensorField.name
  let rest := if m.undefinedBits = 0 then [] else [Hex.text m.undefinedBits.toNat]
  " | ".intercalate (names ++ rest)

def ofPart? : List Char → Option FieldMask
  | '0' :: 'x' :: digits => do
    let digits := match digits with
      | '+' :: rest => rest
      | rest => rest
    let n ← Hex.value? UInt16.size digits
    if n < UInt16.size then some ⟨UInt16.ofNat n⟩ else none
  | part =>
    (SensorField.all.find? fun f => f.name.toList = part).map fun f => ⟨f.bit⟩

def ofText? (s : String) : Option FieldMask :=
  let cs := Blank.trim s.toList
  if cs.isEmpty then some empty
  else
    (splitAtEach '|' cs).foldlM (fun m part => do
      return ⟨m.bits ||| (← ofPart? (Blank.trim part)).bits⟩) empty

end FieldMask

end CollectorGateway
