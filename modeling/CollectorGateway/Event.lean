import CollectorGateway.Device.Json
import CollectorGateway.Link
import CollectorGateway.Network

/-!
What the gateway tells the presentation side. An event is written as one JSON
object with the name of the event and its data.
-/

namespace CollectorGateway

inductive Event where
  /-- The network as it now is; nothing before the collector described it. -/
  | networkInfo (network : Option Network)
  | deviceUpdate (device : Device)
  | deviceArray (devices : List Device)
  | permitJoinConfirmation (status : UInt32)
  | linkState (status : LinkStatus)
  deriving DecidableEq, Repr

namespace Event

def name : Event → String
  | networkInfo _ => "networkInfo"
  | deviceUpdate _ => "deviceUpdate"
  | deviceArray _ => "deviceArray"
  | permitJoinConfirmation _ => "permitJoinConfirmation"
  | linkState _ => "linkState"

def data : Event → Json
  | networkInfo network => .ofOption Network.toJson network
  | deviceUpdate device => device.toJson
  | deviceArray devices => .array (devices.map Device.toJson)
  | permitJoinConfirmation status => .record [("status", .ofNat status.toNat)]
  | linkState status => .ofText status.name

def toJson (e : Event) : Json := .record [("event", .ofText e.name), ("data", e.data)]

def isLinkState : Event → Bool
  | linkState _ => true
  | _ => false

end Event

end CollectorGateway
