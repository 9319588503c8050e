import CollectorGateway.Address
import CollectorGateway.Sensor.Report

/-!
A radio device as the gateway knows it: its addresses, what it can do, whether
it is thought reachable, and the last of each kind of reading it sent.
-/

namespace CollectorGateway

structure Capability where
  panCoordinator : Bool
  fullFunction : Bool
  mainsPower : Bool
  receiverOnWhenIdle : Bool
  security : Bool
  allocateAddress : Bool
  deriving DecidableEq, Repr

def Capability.size : Nat := 6

def Read.capability : Read Capability :=
  return ⟨← bool, ← bool, ← bool, ← bool, ← bool, ← bool⟩

inductive DeviceStatus where
  | active
  | inactive
  deriving DecidableEq, Repr

inductive PollingInterval where
  | millis (n : UInt32)
  | alwaysOn
  deriving DecidableEq, Repr

structure Device where
  shortAddress : UInt16
  extAddress : UInt64
  capability : Capability
  status : DeviceStatus
  rssi : Option Int8
  temperature : Option TemperatureReading
  light : Option LightReading
  humidity : Option HumidityReading
  hallEffect : Option HallEffectReading
  accel : Option AccelReading
  messageStats : Option MessageStats
  configSettings : Option ConfigSettings
  reportingInterval : Option UInt32
  pollingInterval : Option PollingInterval
  deriving DecidableEq, Repr

namespace Device

def fresh (short : UInt16) (ext : UInt64) (capability : Capability) : Device where
  shortAddress := short
  extAddress := ext
  capability := capability
  status := .active
  rssi := none
  temperature := none
  light := none
  humidity := none
  hallEffect := none
  accel := none
  messageStats := none
  configSettings := none
  reportingInterval := none
  pollingInterval := none

def isActive (d : Device) : Bool := d.status == .active

def answersTo (d : Device) : Address → Bool
  | .short a => d.shortAddress == a
  | .extended a => d.extAddress == a

def rejoin (d : Device) (short : UInt16) (capability : Capability) : Device :=
  { d with shortAddress := short, capability := capability, status := .active }

def deactivate (d : Device) : Device := { d with status := .inactive }

def applyReport (d : Device) (rssi : Int8) (r : SensorReport) : Device :=
  { d with
    status := .active
    rssi := some rssi
    temperature := r.temperature.or d.temperature
    light := r.light.or d.light
    humidity := r.humidity.or d.humidity
    hallEffect := r.hallEffect.or d.hallEffect
    accel := r.accel.or d.accel
    messageStats := r.messageStats.or d.messageStats
    configSettings := r.configSettings.or d.configSettings }

/-- The device took over a configuration: the readings it will now send start
from zero, and it works with the new intervals. -/
def applyConfig (d : Device) (fields : FieldMask) (reporting polling : UInt32) : Device :=
  let restart {α : Type} (f : SensorField) (zero : α) (old : Option α) : Option α :=
    if fields.has f then some zero else old
  { d with
    status := .active
    temperature := restart .temperature ⟨0, 0⟩ d.temperature
    light := restart .light ⟨0⟩ d.light
    humidity := restart .humidity ⟨0, 0⟩ d.humidity
    hallEffect := restart .hallEffect ⟨Single.zero⟩ d.hallEffect
    reportingInterval := some reporting
    pollingInterval := some
      (if d.capability.receiverOnWhenIdle then .millis polling else .alwaysOn) }

end Device

end CollectorGateway
