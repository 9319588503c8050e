import CollectorGateway.Device.Basic
import CollectorGateway.Sensor.Json

/-!
Devices and their addresses as JSON.
-/

namespace CollectorGateway

open Json (ofNat ofInt record required optional)

namespace Address

def toJson : Address → Json
  | .short a => record [("short", ofNat a.toNat)]
  | .extended a => record [("extended", ofNat a.toNat)]

def ofJson? (j : Json) : Option Address := do
  match ← j.choice? with
  | ("short", some content) => return .short (← content.u16?)
  | ("extended", some content) => return .extended (← content.u64?)
  | _ => none

end Address

namespace Capability

def toJson (c : Capability) : Json :=
  record [("pan_coord", .bool c.panCoordinator), ("ffd", .bool c.fullFunction),
    ("mains_power", .bool c.mainsPower), ("rx_on_when_idle", .bool c.receiverOnWhenIdle),
    ("security", .bool c.security), ("alloc_addr", .bool c.allocateAddress)]

def ofJson? (j : Json) : Option Capability := do
  let fs ← j.record?
    ["pan_coord", "ffd", "mains_power", "rx_on_when_idle", "security", "alloc_addr"]
  return ⟨← required fs "pan_coord" Json.bool?, ← required fs "ffd" Json.bool?,
    ← required fs "mains_power" Json.bool?, ← required fs "rx_on_when_idle" Json.bool?,
    ← required fs "security" Json.bool?, ← required fs "alloc_addr" Json.bool?⟩

end Capability

namespace DeviceStatus

def label : DeviceStatus → String
  | active => "active"
  | inactive => "inactive"

def ofJson? : Json → Option DeviceStatus :=
  Json.pick? ([active, inactive].map fun s => (s.label, s))

end DeviceStatus

namespace PollingInterval

def toJson : PollingInterval → Json
  | millis n => record [("millis", ofNat n.toNat)]
  | alwaysOn => .ofText "always_on"

def ofJson? (j : Json) : Option PollingInterval := do
  match ← j.choice? with
  | ("millis", some content) => return .millis (← content.u32?)
  | ("always_on", none) | ("always_on", some .null) => return .alwaysOn
  | _ => none

end PollingInterval

namespace Device

def names : List String :=
  ["short_address", "ext_address", "capability_info", "status", "rssi", "temperature", "light",
    "humidity", "hall_effect", "accel", "msg_stats", "config_settings", "reporting_interval",
    "polling_interval"]

def toJson (d : Device) : Json :=
  record [("short_address", ofNat d.shortAddress.toNat),
    ("ext_address", ofNat d.extAddress.toNat),
    ("capability_info", d.capability.toJson),
    ("status", .ofText d.status.label),
    ("rssi", .ofOption (fun r : Int8 => ofInt r.toInt) d.rssi),
    ("temperature", .ofOption TemperatureReading.toJson d.temperature),
    ("light", .ofOption LightReading.toJson d.light),
    ("humidity", .ofOption HumidityReading.toJson d.humidity),
    ("hall_effect", .ofOption HallEffectReading.toJson d.hallEffect),
    ("accel", .ofOption AccelReading.toJson d.accel),
    ("msg_stats", .ofOption MessageStats.toJson d.messageStats),
    ("config_settings", .ofOption ConfigSettings.toJson d.configSettings),
    ("reporting_interval", .ofOption (fun n : UInt32 => ofNat n.toNat) d.reportingInterval),
    ("polling_interval", .ofOption PollingInterval.toJson d.pollingInterval)]

def ofJson? (j : Json) : Option Device := do
  let fs ← j.record? names
  return {
    shortAddress := ← required fs "short_address" Json.u16?
    extAddress := ← required fs "ext_address" Json.u64?
    capability := ← required fs "capability_info" Capability.ofJson?
    status := ← required fs "status" DeviceStatus.ofJson?
    rssi := ← optional fs "rssi" Json.i8?
    temperature := ← optional fs "temperature" TemperatureReading.ofJson?
    light := ← optional fs "light" LightReading.ofJson?
    humidity := ← optional fs "humidity" HumidityReading.ofJson?
    hallEffect := ← optional fs "hall_effect" HallEffectReading.ofJson?
    accel := ← optional fs "accel" AccelReading.ofJson?
    messageStats := ← optional fs "msg_stats" MessageStats.ofJson?
    configSettings := ← optional fs "config_settings" ConfigSettings.ofJson?
    reportingInterval := ← optional fs "reporting_interval" Json.u32?
    pollingInterval := ← optional fs "polling_interval" PollingInterval.ofJson? }

end Device

end CollectorGateway
