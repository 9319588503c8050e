import CollectorGateway.Text.Hex

/-!
The two addresses by which a radio device is known: the short one that the
network hands out and may hand out again, and the extended one that never
changes and is the device's identity.
-/

namespace CollectorGateway

inductive Address where
  | short (a : UInt16)
  | extended (a : UInt64)
  deriving DecidableEq, Repr

def Address.text : Address → String
  | .short a => Hex.textPadded 4 a.toNat
  | .extended a => Hex.textPadded 16 a.toNat

end CollectorGateway
