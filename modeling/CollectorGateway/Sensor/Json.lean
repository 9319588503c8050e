import CollectorGateway.Json.Printer
import CollectorGateway.Json.Reader
import CollectorGateway.Numeric.Decimal
import CollectorGateway.Sensor.Report

/-!
Sensor values as JSON. A flux that is no finite number is written as null,
which no reader takes for a number.
-/

namespace CollectorGateway

open Json (ofNat ofInt record required optional)

namespace Single

def toJson (x : Single) : Json := if x.isFinite then .number x.numeral else .null

end Single

namespace FieldMask

def toJson (m : FieldMask) : Json := .ofText m.text

def ofJson? (j : Json) : Option FieldMask := do ofText? (← j.text?)

end FieldMask

namespace TemperatureReading

def toJson (r : TemperatureReading) : Json :=
  record [("ambience_temp", ofNat r.ambience.toNat), ("object_temp", ofNat r.object.toNat)]

def ofJson? (j : Json) : Option TemperatureReading := do
  let fs ← j.record? ["ambience_temp", "object_temp"]
  return ⟨← required fs "ambience_temp" Json.u16?, ← required fs "object_temp" Json.u16?⟩

end TemperatureReading

namespace LightReading

def toJson (r : LightReading) : Json := record [("raw_data", ofNat r.raw.toNat)]

def ofJson? (j : Json) : Option LightReading := do
  let fs ← j.record? ["raw_data"]
  return ⟨← required fs "raw_data" Json.u16?⟩

end LightReading

namespace HumidityReading

def toJson (r : HumidityReading) : Json :=
  record [("temp", ofNat r.temperature.toNat), ("humidity", ofNat r.humidity.toNat)]

def ofJson? (j : Json) : Option HumidityReading := do
  let fs ← j.record? ["temp", "humidity"]
  return ⟨← required fs "temp" Json.u16?, ← required fs "humidity" Json.u16?⟩

end HumidityReading

namespace HallEffectReading

def toJson (r : HallEffectReading) : Json := record [("flux", r.flux.toJson)]

def ofJson? (j : Json) : Option HallEffectReading := do
  let fs ← j.record? ["flux"]
  return ⟨← required fs "flux" Json.single?⟩

end HallEffectReading

namespace AccelReading

def toJson (r : AccelReading) : Json :=
  record [("x_axis", ofInt r.x.toInt), ("y_axis", ofInt r.y.toInt), ("z_axis", ofInt r.z.toInt),
    ("x_tilt", ofNat r.xTilt.toNat), ("y_tilt", ofNat r.yTilt.toNat)]

def ofJson? (j : Json) : Option AccelReading := do
  let fs ← j.record? ["x_axis", "y_axis", "z_axis", "x_tilt", "y_tilt"]
  return ⟨← required fs "x_axis" Json.i16?, ← required fs "y_axis" Json.i16?,
    ← required fs "z_axis" Json.i16?, ← required fs "x_tilt" Json.u8?,
    ← required fs "y_tilt" Json.u8?⟩

end AccelReading

namespace ConfigSettings

def toJson (s : ConfigSettings) : Json :=
  record [("reporting_interval", ofNat s.reporting.toNat),
    ("polling_interval", ofNat s.polling.toNat)]

def ofJson? (j : Json) : Option ConfigSettings := do
  let fs ← j.record? ["reporting_interval", "polling_interval"]
  return ⟨← required fs "reporting_interval" Json.u32?, ← required fs "polling_interval" Json.u32?⟩

end ConfigSettings

namespace MessageStats

def names : List String :=
  ["join_attempts", "join_fails", "msgs_attempted", "msgs_sent", "tracking_requests",
    "tracking_response_attempts", "tracking_response_sent", "config_requests",
    "config_response_attempts", "config_response_sent", "channel_access_failures",
    "mac_ack_failures", "other_data_request_failures", "sync_loss_indications",
    "rx_decrypt_failures", "tx_encrypt_failures", "reset_count", "last_reset_reason",
    "join_time", "interim_delay"]

def toJson (s : MessageStats) : Json :=
  record (names.zip (s.toList.map fun n => ofNat n.toNat))

def ofJson? (j : Json) : Option MessageStats := do
  let fs ← j.record? names
  return ofList (← names.mapM fun name => required fs name Json.u16?)

end MessageStats

namespace SensorReport

def names : List String :=
  ["frame_control", "temperature", "light", "humidity", "msg_stats", "config_settings",
    "hall_effect", "accel"]

def toJson (r : SensorReport) : Json :=
  record [("frame_control", r.fields.toJson),
    ("temperature", .ofOption TemperatureReading.toJson r.temperature),
    ("light", .ofOption LightReading.toJson r.light),
    ("humidity", .ofOption HumidityReading.toJson r.humidity),
    ("msg_stats", .ofOption MessageStats.toJson r.messageStats),
    ("config_settings", .ofOption ConfigSettings.toJson r.configSettings),
    ("hall_effect", .ofOption HallEffectReading.toJson r.hallEffect),
    ("accel", .ofOption AccelReading.toJson r.accel)]

def ofJson? (j : Json) : Option SensorReport := do
  let fs ← j.record? names
  return {
    fields := ← required fs "frame_control" FieldMask.ofJson?
    temperature := ← optional fs "temperature" TemperatureReading.ofJson?
    light := ← optional fs "light" LightReading.ofJson?
    humidity := ← optional fs "humidity" HumidityReading.ofJson?
    messageStats := ← optional fs "msg_stats" MessageStats.ofJson?
    configSettings := ← optional fs "config_settings" ConfigSettings.ofJson?
    hallEffect := ← optional fs "hall_effect" HallEffectReading.ofJson?
    accel := ← optional fs "accel" AccelReading.ofJson? }

end SensorReport

end CollectorGateway
