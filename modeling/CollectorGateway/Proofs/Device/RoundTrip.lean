import CollectorGateway.Device.Json
import CollectorGateway.Proofs.Gateway.Steps
import CollectorGateway.Proofs.Sensor.RoundTrip

/-!
Devices are read back from their own text, whatever they have reported, as long as the
flux among it is a finite number; a device with another flux has a text from which no
device is read.
-/

namespace CollectorGateway

open Json (record required optional ofNat ofInt)

namespace Capability

@[simp] theorem isProper_toJson (c : Capability) : c.toJson.IsProper :=
  Json.isProper_record (by simp [Json.IsProper.bool])

@[simp] theorem ofJson?_toJson (c : Capability) : ofJson? c.toJson = some c := by
  rw [ofJson?, toJson, Json.record?_record]
  · simp [Json.bool?]
  · rfl
  · decide

end Capability

namespace DeviceStatus

@[simp] theorem ofJson?_label (s : DeviceStatus) : ofJson? (.ofText s.label) = some s := by
  cases s <;> rfl

end DeviceStatus

namespace PollingInterval

@[simp] theorem isProper_toJson (p : PollingInterval) : p.toJson.IsProper := by
  cases p with
  | millis n => exact Json.isProper_record (by simp)
  | alwaysOn => exact Json.isProper_ofText _

@[simp] theorem ofJson?_toJson (p : PollingInterval) : ofJson? p.toJson = some p := by
  cases p with
  | millis n =>
    have named : (record [("millis", ofNat n.toNat)]).choice? = some ("millis", some (ofNat n.toNat)) := rfl
    simp [ofJson?, toJson, named]
  | alwaysOn => rfl

end PollingInterval

namespace Device

def hasFiniteFlux (d : Device) : Bool := d.hallEffect.all fun h => h.flux.isFinite

@[simp] theorem isProper_toJson (d : Device) : d.toJson.IsProper :=
  Json.isProper_record (by simp [Json.isProper_ofOption])

theorem ofJson?_toJson (d : Device) :
    ofJson? d.toJson = if d.hasFiniteFlux then some d else none := by
  rw [ofJson?, toJson, Json.record?_record]
  · rw [Option.bind_eq_bind, Option.bind_some]
    simp (disch := decide) only [Json.required_cons_self, Json.required_cons_of_ne,
      Json.optional_cons_self, Json.optional_cons_of_ne]
    simp only [Option.bind_eq_bind, Option.bind_some,
      Option.pure_def, Json.u16?_ofNat, Json.u64?_ofNat, Capability.ofJson?_toJson,
      DeviceStatus.ofJson?_label, Json.perhaps_ofOption Json.i8?_ofInt rfl,
      Json.perhaps_ofOption Json.u32?_ofNat rfl,
      Json.perhaps_ofOption TemperatureReading.ofJson?_toJson rfl,
      Json.perhaps_ofOption LightReading.ofJson?_toJson rfl,
      Json.perhaps_ofOption HumidityReading.ofJson?_toJson rfl,
      Json.perhaps_ofOption MessageStats.ofJson?_toJson rfl,
      Json.perhaps_ofOption ConfigSettings.ofJson?_toJson rfl,
      Json.perhaps_ofOption PollingInterval.ofJson?_toJson rfl,
      Json.perhaps_ofOption AccelReading.ofJson?_toJson rfl, HallEffectReading.perhaps_ofOption]
    rw [hasFiniteFlux]
    split <;> rfl
  · rfl
  · decide

theorem read_print (d : Device) :
    (Json.parse? d.toJson.print).bind ofJson? = if d.hasFiniteFlux then some d else none := by
  rw [Json.parse?_print d.isProper_toJson]
  exact d.ofJson?_toJson

end Device

theorem SensorReport.read_print (r : SensorReport) :
    (Json.parse? r.toJson.print).bind ofJson? = if r.hasFiniteFlux then some r else none := by
  rw [Json.parse?_print r.isProper_toJson]
  exact r.ofJson?_toJson

namespace Gateway

/-- A device, and a report, is read back from its own text if its flux, where it has one,
is a finite number; nothing is read from its text if not. -/
theorem values_survive_text (d : Device) (r : SensorReport) :
    ((Json.parse? d.toJson.print).bind Device.ofJson? =
      if d.hallEffect.all fun h => h.flux.isFinite then some d else none) ∧
    (Json.parse? r.toJson.print).bind SensorReport.ofJson? =
      if r.hallEffect.all fun h => h.flux.isFinite then some r else none :=
  ⟨d.read_print, r.read_print⟩

def fluxReport : Frame :=
  ⟨rpcSubsystem, Command.deviceDataRxInd.code,
    [2, 1, 0, 0xd6, 5, 0x88, 0x77, 0x66, 0x55, 0x44, 0x33, 0x22, 0x11, 0x20, 0, 0, 0, 0xc0, 0x7f],
    by decide⟩

/-- A device is not read back from its text after it reported a flux that is no number. -/
theorem text_without_device :
    ∃ d ∈ (empty.after [.frame (joining 1 0x11), .frame fluxReport]).roster.devices,
      (Json.parse? d.toJson.print).bind Device.ofJson? = none := by
  have reported : (empty.after [.frame (joining 1 0x11), .frame fluxReport]).roster.devices.any
      (fun d => !d.hasFiniteFlux) = true := by
    decide +kernel
  obtain ⟨d, listed, infinite⟩ := List.any_eq_true.1 reported
  refine ⟨d, listed, ?_⟩
  rw [d.read_print, if_neg (by simpa using infinite)]

end Gateway

end CollectorGateway
