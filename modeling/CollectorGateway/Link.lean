import CollectorGateway.Fault

/-!
The life of the link to the application server. Of four phases only some may
follow each other; a step from the wrong phase is a fault and leaves the phase
as it was.
-/

namespace CollectorGateway

inductive LinkStatus where
  | disconnected
  | connecting
  | connected
  | reconnectPending
  deriving DecidableEq, Repr

def LinkStatus.name : LinkStatus → String
  | .disconnected => "disconnected"
  | .connecting => "connecting"
  | .connected => "connected"
  | .reconnectPending => "reconnect_pending"

/-- A phase that lasts knows since when, in milliseconds. -/
inductive LinkPhase where
  | disconnected
  | connecting
  | connected (since : Nat)
  | reconnectPending (since : Nat)
  deriving DecidableEq, Repr

namespace LinkPhase

def name : LinkPhase → String
  | disconnected => "Disconnected"
  | connecting => "Connecting"
  | connected _ => "Connected"
  | reconnectPending _ => "ReconnectPending"

def status : LinkPhase → LinkStatus
  | disconnected => .disconnected
  | connecting => .connecting
  | connected _ => .connected
  | reconnectPending _ => .reconnectPending

def isReconnectPending : LinkPhase → Bool
  | reconnectPending _ => true
  | _ => false

def uptime? (now : Nat) : LinkPhase → Option Nat
  | connected since => some (now - since)
  | _ => none

def beginConnect : LinkPhase → Except Fault LinkPhase
  | disconnected | reconnectPending _ => .ok connecting
  | _ => .error .linkBusy

def completeConnect (now : Nat) : LinkPhase → Except Fault LinkPhase
  | connecting => .ok (connected now)
  | _ => .error .linkNotConnecting

def lose : LinkPhase → Except Fault LinkPhase
  | connecting | connected _ => .ok disconnected
  | _ => .error .linkNotUp

def scheduleReconnect? (now : Nat) : LinkPhase → Option LinkPhase
  | reconnectPending _ => none
  | _ => some (reconnectPending now)

end LinkPhase

end CollectorGateway
