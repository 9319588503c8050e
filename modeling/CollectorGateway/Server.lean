import CollectorGateway.Text.Record

/-!
Where the application server listens.
-/

namespace CollectorGateway

structure ServerAddress where
  host : String
  port : UInt16
  deriving DecidableEq, Repr

def ServerAddress.text (s : ServerAddress) : String := s.host ++ ":" ++ toString s.port.toNat

def ServerAddress.describe (s : ServerAddress) : String :=
  Record.text "ConnectionInfo"
    [("host", Record.quoted s.host), ("port", toString s.port.toNat)]

end CollectorGateway
