import CollectorGateway.Fault

/-!
What a frame asks or tells: the commands of the application server, and the
messages to and from a sensor that some of those commands carry inside. The
codes are the places in `Command.all` and `SensorCommand.all`; every other
code is unknown.
-/

namespace CollectorGateway

/-- Requests and answers of the server: `req` goes out, `cnf`, `rsp` and `ind`
come in. -/
inductive Command where
  | deviceJoinedInd
  | deviceLeftInd
  | nwkInfoInd
  | getNwkInfoReq
  | getNwkInfoRsp
  | getNwkInfoCnf
  | getDeviceArrayReq
  | getDeviceArrayCnf
  | deviceNotActiveUpdateInd
  | deviceDataRxInd
  | collectorStateCngInd
  | setJoinPermitReq
  | setJoinPermitCnf
  | txDataReq
  | txDataCnf
  | rmvDeviceReq
  | rmvDeviceRsp
  | devMovedInd
  deriving DecidableEq, Repr

namespace Command

def all : List Command :=
  [deviceJoinedInd, deviceLeftInd, nwkInfoInd, getNwkInfoReq, getNwkInfoRsp, getNwkInfoCnf,
    getDeviceArrayReq, getDeviceArrayCnf, deviceNotActiveUpdateInd, deviceDataRxInd,
    collectorStateCngInd, setJoinPermitReq, setJoinPermitCnf, txDataReq, txDataCnf,
    rmvDeviceReq, rmvDeviceRsp, devMovedInd]

def code : Command → UInt8
  | deviceJoinedInd => 0
  | deviceLeftInd => 1
  | nwkInfoInd => 2
  | getNwkInfoReq => 3
  | getNwkInfoRsp => 4
  | getNwkInfoCnf => 5
  | getDeviceArrayReq => 6
  | getDeviceArrayCnf => 7
  | deviceNotActiveUpdateInd => 8
  | deviceDataRxInd => 9
  | collectorStateCngInd => 10
  | setJoinPermitReq => 11
  | setJoinPermitCnf => 12
  | txDataReq => 13
  | txDataCnf => 14
  | rmvDeviceReq => 15
  | rmvDeviceRsp => 16
  | devMovedInd => 17

def ofCode? (c : UInt8) : Option Command := all[c.toNat]?

def ofCode (c : UInt8) : Except Fault Command :=
  match ofCode? c with
  | some command => .ok command
  | none => .error (.unknownCode "Command" c.toNat)

def name : Command → String
  | deviceJoinedInd => "DeviceJoinedInd"
  | deviceLeftInd => "DeviceLeftInd"
  | nwkInfoInd => "NwkInfoInd"
  | getNwkInfoReq => "GetNwkInfoReq"
  | getNwkInfoRsp => "GetNwkInfoRsp"
  | getNwkInfoCnf => "GetNwkInfoCnf"
  | getDeviceArrayReq => "GetDeviceArrayReq"
  | getDeviceArrayCnf => "GetDeviceArrayCnf"
  | deviceNotActiveUpdateInd => "DeviceNotActiveUpdateInd"
  | deviceDataRxInd => "DeviceDataRxInd"
  | collectorStateCngInd => "CollectorStateCngInd"
  | setJoinPermitReq => "SetJoinPermitReq"
  | setJoinPermitCnf => "SetJoinPermitCnf"
  | txDataReq => "TxDataReq"
  | txDataCnf => "TxDataCnf"
  | rmvDeviceReq => "RmvDeviceReq"
  | rmvDeviceRsp => "RmvDeviceRsp"
  | devMovedInd => "DevMovedInd"

def isRequest : Command → Bool
  | getNwkInfoReq | getDeviceArrayReq | setJoinPermitReq | txDataReq | rmvDeviceReq => true
  | _ => false

theorem ofCode?_code (c : Command) : ofCode? c.code = some c := by
  cases c <;> rfl

theorem code_of_ofCode? {b : UInt8} {c : Command} (h : ofCode? b = some c) : c.code = b := by
  have hlt : b.toNat < all.length := (List.getElem?_eq_some_iff.1 h).1
  have hall : ∀ i, (hi : i < all.length) → (all.get ⟨i, hi⟩).code.toNat = i := by decide
  apply UInt8.toNat_inj.mp
  rw [← (List.getElem?_eq_some_iff.1 h).2]
  exact hall _ hlt

end Command

inductive SensorCommand where
  | configReq
  | configRsp
  | trackingReq
  | trackingRsp
  | sensorData
  | toggleReq
  | toggleRsp
  deriving DecidableEq, Repr

namespace SensorCommand

def all : List SensorCommand :=
  [configReq, configRsp, trackingReq, trackingRsp, sensorData, toggleReq, toggleRsp]

def code : SensorCommand → UInt8
  | configReq => 1
  | configRsp => 2
  | trackingReq => 3
  | trackingRsp => 4
  | sensorData => 5
  | toggleReq => 6
  | toggleRsp => 7

def ofCode? (c : UInt8) : Option SensorCommand :=
  if c = 0 then none else all[c.toNat - 1]?

def ofCode (c : UInt8) : Except Fault SensorCommand :=
  match ofCode? c with
  | some command => .ok command
  | none => .error (.unknownCode "SensorCommand" c.toNat)

def name : SensorCommand → String
  | configReq => "ConfigReq"
  | configRsp => "ConfigRsp"
  | trackingReq => "TrackingReq"
  | trackingRsp => "TrackingRsp"
  | sensorData => "SensorData"
  | toggleReq => "ToggleReq"
  | toggleRsp => "ToggleRsp"

theorem ofCode?_code (c : SensorCommand) : ofCode? c.code = some c := by
  cases c <;> rfl

end SensorCommand

end CollectorGateway
