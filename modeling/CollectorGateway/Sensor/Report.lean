import CollectorGateway.Numeric.Binary
import CollectorGateway.Octet.Cursor
import CollectorGateway.Sensor.FieldMask

/-!
What a sensor measured. A report holds the blocks that its mask selects; on
the wire they follow one another in the order of their bits, each with a fixed
size, and an undefined bit selects nothing.
-/

namespace CollectorGateway

structure TemperatureReading where
  ambience : UInt16
  object : UInt16
  deriving DecidableEq, Repr

structure LightReading where
  raw : UInt16
  deriving DecidableEq, Repr

structure HumidityReading where
  temperature : UInt16
  humidity : UInt16
  deriving DecidableEq, Repr

structure HallEffectReading where
  flux : Single
  deriving DecidableEq, Repr

structure AccelReading where
  x : Int16
  y : Int16
  z : Int16
  xTilt : UInt8
  yTilt : UInt8
  deriving DecidableEq, Repr

structure ConfigSettings where
  reporting : UInt32
  polling : UInt32
  deriving DecidableEq, Repr

structure MessageStats where
  joinAttempts : UInt16
  joinFails : UInt16
  messagesAttempted : UInt16
  messagesSent : UInt16
  trackingRequests : UInt16
  trackingResponseAttempts : UInt16
  trackingResponseSent : UInt16
  configRequests : UInt16
  configResponseAttempts : UInt16
  configResponseSent : UInt16
  channelAccessFailures : UInt16
  ackFailures : UInt16
  otherDataRequestFailures : UInt16
  syncLossIndications : UInt16
  decryptFailures : UInt16
  encryptFailures : UInt16
  resetCount : UInt16
  lastResetReason : UInt16
  joinTime : UInt16
  interimDelay : UInt16
  deriving DecidableEq, Repr

namespace MessageStats

def toList (s : MessageStats) : List UInt16 :=
  [s.joinAttempts, s.joinFails, s.messagesAttempted, s.messagesSent, s.trackingRequests,
    s.trackingResponseAttempts, s.trackingResponseSent, s.configRequests,
    s.configResponseAttempts, s.configResponseSent, s.channelAccessFailures, s.ackFailures,
    s.otherDataRequestFailures, s.syncLossIndications, s.decryptFailures, s.encryptFailures,
    s.resetCount, s.lastResetReason, s.joinTime, s.interimDelay]

def ofList (cs : List UInt16) : MessageStats :=
  let nth (i : Nat) := cs.getD i 0
  ⟨nth 0, nth 1, nth 2, nth 3, nth 4, nth 5, nth 6, nth 7, nth 8, nth 9,
    nth 10, nth 11, nth 12, nth 13, nth 14, nth 15, nth 16, nth 17, nth 18, nth 19⟩

def count : Nat := 20

theorem length_toList (s : MessageStats) : s.toList.length = count := rfl

theorem ofList_toList (s : MessageStats) : ofList s.toList = s := rfl

end MessageStats

/-- Sensors whose readings leave the gateway as single numbers. -/
inductive SensorKind where
  | temperature
  | light
  | humidity
  | hallEffect
  deriving DecidableEq, Repr

def SensorKind.name : SensorKind → String
  | .temperature => "temperature"
  | .light => "light"
  | .humidity => "humidity"
  | .hallEffect => "hall_effect"

structure Reading where
  kind : SensorKind
  value : Double
  deriving DecidableEq, Repr

structure SensorReport where
  fields : FieldMask
  temperature : Option TemperatureReading
  light : Option LightReading
  humidity : Option HumidityReading
  messageStats : Option MessageStats
  configSettings : Option ConfigSettings
  hallEffect : Option HallEffectReading
  accel : Option AccelReading
  deriving DecidableEq, Repr

namespace Read

def when (selected : Bool) (r : Read α) : Read (Option α) :=
  if selected then some <$> r else pure none

def times (r : Read α) : Nat → Read (List α)
  | 0 => pure []
  | n + 1 => do return (← r) :: (← times r n)

def single : Read Single := Single.mk <$> u32

def temperature : Read TemperatureReading := return ⟨← u16, ← u16⟩
def light : Read LightReading := return ⟨← u16⟩
def humidity : Read HumidityReading := return ⟨← u16, ← u16⟩
def messageStats : Read MessageStats := MessageStats.ofList <$> times u16 MessageStats.count
def configSettings : Read ConfigSettings := return ⟨← u32, ← u32⟩
def hallEffect : Read HallEffectReading := return ⟨← single⟩
def accel : Read AccelReading := return ⟨← i16, ← i16, ← i16, ← u8, ← u8⟩

def sensorReport (mask : FieldMask) : Read SensorReport := do
  return {
    fields := mask
    temperature := ← when (mask.has .temperature) temperature
    light := ← when (mask.has .light) light
    humidity := ← when (mask.has .humidity) humidity
    messageStats := ← when (mask.has .messageStats) messageStats
    configSettings := ← when (mask.has .configSettings) configSettings
    hallEffect := ← when (mask.has .hallEffect) hallEffect
    accel := ← when (mask.has .accel) accel }

end Read

def TemperatureReading.toOctets (r : TemperatureReading) : List UInt8 :=
  LittleEndian.u16 r.ambience ++ LittleEndian.u16 r.object

def LightReading.toOctets (r : LightReading) : List UInt8 := LittleEndian.u16 r.raw

def HumidityReading.toOctets (r : HumidityReading) : List UInt8 :=
  LittleEndian.u16 r.temperature ++ LittleEndian.u16 r.humidity

def MessageStats.toOctets (s : MessageStats) : List UInt8 := s.toList.flatMap LittleEndian.u16

def ConfigSettings.toOctets (s : ConfigSettings) : List UInt8 :=
  LittleEndian.u32 s.reporting ++ LittleEndian.u32 s.polling

def HallEffectReading.toOctets (r : HallEffectReading) : List UInt8 :=
  LittleEndian.u32 r.flux.bits

def AccelReading.toOctets (r : AccelReading) : List UInt8 :=
  LittleEndian.u16 r.x.toUInt16 ++ LittleEndian.u16 r.y.toUInt16 ++
    LittleEndian.u16 r.z.toUInt16 ++ [r.xTilt, r.yTilt]

namespace SensorReport

def toOctets (r : SensorReport) : List UInt8 :=
  let block {α : Type} (write : α → List UInt8) (b : Option α) : List UInt8 := (b.map write).getD []
  block TemperatureReading.toOctets r.temperature ++ block LightReading.toOctets r.light ++
    block HumidityReading.toOctets r.humidity ++ block MessageStats.toOctets r.messageStats ++
    block ConfigSettings.toOctets r.configSettings ++
    block HallEffectReading.toOctets r.hallEffect ++ block AccelReading.toOctets r.accel

def readings (r : SensorReport) : List Reading :=
  (r.temperature.map fun t => ⟨.temperature, .ofNat t.ambience.toNat⟩).toList ++
    (r.light.map fun l => ⟨.light, .ofNat l.raw.toNat⟩).toList ++
    (r.humidity.map fun h => ⟨.humidity, .ofNat h.humidity.toNat⟩).toList ++
    (r.hallEffect.map fun h => ⟨.hallEffect, h.flux.toDouble⟩).toList

end SensorReport

end CollectorGateway
