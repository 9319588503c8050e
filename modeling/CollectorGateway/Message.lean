import CollectorGateway.Device.Roster
import CollectorGateway.Network
import CollectorGateway.Sensor.Report
import CollectorGateway.Wire.Frame

/-!
What a frame from the server says, read from its payload alone. Whether a
payload is long enough is decided here, before anything is done about it;
octets after the last field are passed over.
-/

namespace CollectorGateway

inductive SensorMessage where
  | data (report : SensorReport) (trailing : Nat)
  | config (status : UInt16) (fields : FieldMask) (reporting polling : UInt32)
  /-- Known, but nothing to be done about. -/
  | other (inner : SensorCommand)
  | unknown (inner : UInt8)
  deriving DecidableEq, Repr

inductive Message where
  /-- The answer to the question for the network; it holds only if the network
  is up. -/
  | networkAnswer (status : UInt8) (record : NetworkRecord)
  | network (record : NetworkRecord)
  | roster (status : UInt8) (entries : List RosterEntry)
  | joined (short : UInt16) (ext : UInt64) (capability : Capability)
  | inactive (short : UInt16) (timeout : UInt8)
  | fromSensor (address : Address) (rssi : Int8) (message : SensorMessage)
  | stateChanged (code : UInt8)
  | joinPermit (status : UInt32)
  | sent
  | unhandled
  deriving DecidableEq, Repr

namespace Read

def rosterEntry : Read RosterEntry := do
  let _ ← u16
  return ⟨← u16, ← u64, ← capability⟩

def roster : Read Message := do
  let status ← u8
  let count ← u16
  return .roster status (← times rosterEntry count.toNat)

def joined : Read Message := do
  let entry ← rosterEntry
  return .joined entry.shortAddress entry.extAddress entry.capability

def inactive : Read Message := do
  let _ ← u16
  let short ← u16
  let _ ← u64
  return .inactive short (← u8)

def address : Read Address := do
  let mode ← u8
  if mode = 2 then return .short (← u16)
  else if mode = 3 then return .extended (← u64)
  else fail (.unknownAddressMode mode)

def sensorData : Read SensorMessage := do
  let _ ← u64
  let fields := FieldMask.mk (← u16)
  return .data (← sensorReport fields) (← remaining)

def configResponse : Read SensorMessage :=
  return .config (← u16) ⟨← u16⟩ (← u32) (← u32)

def sensorMessage : Read SensorMessage := do
  let inner ← u8
  match SensorCommand.ofCode? inner with
  | some .sensorData => sensorData
  | some .configRsp => configResponse
  | some other => return .other other
  | none => return .unknown inner

def fromSensor : Read Message := do
  let address ← address
  let rssi ← i8
  return .fromSensor address rssi (← sensorMessage)

end Read

def Command.payloadName : Command → String
  | .getNwkInfoCnf => "GET_NWK_INFO_CNF"
  | .nwkInfoInd => "NWK_INFO_IND"
  | .getDeviceArrayCnf => "GET_DEVICE_ARRAY_CNF"
  | .deviceJoinedInd => "DEVICE_JOINED_IND"
  | .deviceNotActiveUpdateInd => "DEVICE_NOTACTIVE_UPDATE_IND"
  | .deviceDataRxInd => "DEVICE_DATA_RX_IND"
  | .collectorStateCngInd => "COLLECTOR_STATE_CNG_IND"
  | .setJoinPermitCnf => "SET_JOIN_PERMIT_CNF"
  | c => c.name

def Read.message (c : Command) : Read Message :=
  match c with
  | .getNwkInfoCnf => return .networkAnswer (← u8) (← networkRecord)
  | .nwkInfoInd => Message.network <$> networkRecord
  | .getDeviceArrayCnf => roster
  | .deviceJoinedInd => joined
  | .deviceNotActiveUpdateInd => inactive
  | .deviceDataRxInd => fromSensor
  | .collectorStateCngInd => Message.stateChanged <$> u8
  | .setJoinPermitCnf => Message.joinPermit <$> u32
  | .txDataCnf => pure .sent
  | _ => pure .unhandled

def Message.ofPayload (c : Command) (payload : List UInt8) : Except Fault Message :=
  (Read.message c).whole c.payloadName payload

end CollectorGateway
