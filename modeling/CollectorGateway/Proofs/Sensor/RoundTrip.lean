import CollectorGateway.Proofs.Json.Records
import CollectorGateway.Proofs.Numeric.ReadBack
import CollectorGateway.Proofs.Sensor.MaskText
import CollectorGateway.Sensor.Json

/-!
Sensor values are read back from the trees they are written as, all but one: a flux that
is no finite number is written as null, which is not read as a number.
-/

namespace CollectorGateway

open Json (record required optional ofNat ofInt)

namespace Single

theorem isProper_numeral (x : Single) : x.numeral.IsProper := by
  rw [numeral]
  split
  · refine ⟨isDigits_zero, fun _ => rfl, ?_, by simp⟩
    rintro _ ⟨⟩
    exact isDigits_zero
  · rename_i nonzero
    exact DecimalLayout.isProper_numeral _ _
      (Decimal.shortest_pos (Nat.pos_of_ne_zero nonzero) (by decide))

theorem isProper_toJson (x : Single) : x.toJson.IsProper := by
  rw [toJson]
  split
  · exact .number x.isProper_numeral
  · exact .null

theorem single?_toJson (x : Single) : x.toJson.single? = if x.isFinite then some x else none := by
  rw [toJson]
  split
  · rename_i finite
    rw [Json.single?, toSingle?_numeral finite]
  · rfl

end Single

namespace FieldMask

@[simp] theorem isProper_toJson (m : FieldMask) : m.toJson.IsProper := Json.isProper_ofText _

@[simp] theorem ofJson?_toJson (m : FieldMask) : ofJson? m.toJson = some m := by
  rw [ofJson?, toJson, Json.text?_ofText]
  exact ofText?_text m

end FieldMask

namespace TemperatureReading

@[simp] theorem isProper_toJson (r : TemperatureReading) : r.toJson.IsProper :=
  Json.isProper_record (by simp)

@[simp] theorem ofJson?_toJson (r : TemperatureReading) : ofJson? r.toJson = some r := by
  rw [ofJson?, toJson, Json.record?_record]
  · simp
  · rfl
  · decide

end TemperatureReading

namespace LightReading

@[simp] theorem isProper_toJson (r : LightReading) : r.toJson.IsProper :=
  Json.isProper_record (by simp)

@[simp] theorem ofJson?_toJson (r : LightReading) : ofJson? r.toJson = some r := by
  rw [ofJson?, toJson, Json.record?_record]
  · simp
  · rfl
  · decide

end LightReading

namespace HumidityReading

@[simp] theorem isProper_toJson (r : HumidityReading) : r.toJson.IsProper :=
  Json.isProper_record (by simp)

@[simp] theorem ofJson?_toJson (r : HumidityReading) : ofJson? r.toJson = some r := by
  rw [ofJson?, toJson, Json.record?_record]
  · simp
  · rfl
  · decide

end HumidityReading

namespace HallEffectReading

@[simp] theorem isProper_toJson (r : HallEffectReading) : r.toJson.IsProper :=
  Json.isProper_record (by simp [Single.isProper_toJson])

theorem ofJson?_toJson (r : HallEffectReading) :
    ofJson? r.toJson = if r.flux.isFinite then some r else none := by
  rw [ofJson?, toJson, Json.record?_record]
  · simp only [Option.bind_eq_bind, Option.bind_some, Json.required_cons_self, Single.single?_toJson]
    split <;> rfl
  · rfl
  · decide

theorem perhaps_ofOption (o : Option HallEffectReading) :
    Json.perhaps ofJson? (.ofOption toJson o) =
      if o.all fun r => r.flux.isFinite then some o else none := by
  cases o with
  | none => rfl
  | some r =>
    have present : r.toJson ≠ .null := nofun
    rw [Json.ofOption, Json.perhaps_of_ne present, ofJson?_toJson, Option.all_some]
    split <;> rfl

end HallEffectReading

namespace AccelReading

@[simp] theorem isProper_toJson (r : AccelReading) : r.toJson.IsProper :=
  Json.isProper_record (by simp)

@[simp] theorem ofJson?_toJson (r : AccelReading) : ofJson? r.toJson = some r := by
  rw [ofJson?, toJson, Json.record?_record]
  · simp
  · rfl
  · decide

end AccelReading

namespace ConfigSettings

@[simp] theorem isProper_toJson (s : ConfigSettings) : s.toJson.IsProper :=
  Json.isProper_record (by simp)

@[simp] theorem ofJson?_toJson (s : ConfigSettings) : ofJson? s.toJson = some s := by
  rw [ofJson?, toJson, Json.record?_record]
  · simp
  · rfl
  · decide

end ConfigSettings

namespace MessageStats

@[simp] theorem isProper_toJson (s : MessageStats) : s.toJson.IsProper := by
  refine Json.isProper_record fun f listed => ?_
  obtain ⟨n, -, same⟩ := List.mem_map.1 (List.of_mem_zip listed).2
  rw [← same]
  exact Json.isProper_ofNat _

@[simp] theorem ofJson?_toJson (s : MessageStats) : ofJson? s.toJson = some s := by
  have read : names.mapM (fun name => required
      (names.zip (s.toList.map fun n : UInt16 => ofNat n.toNat)) name Json.u16?) = some s.toList :=
    Json.mapM_required_zip Json.u16?_ofNat (by decide) rfl
  rw [ofJson?, toJson, Json.record?_record]
  · simp only [Option.bind_eq_bind, Option.bind_some, read]
    rfl
  · rfl
  · decide

end MessageStats

namespace SensorReport

def hasFiniteFlux (r : SensorReport) : Bool := r.hallEffect.all fun h => h.flux.isFinite

@[simp] theorem isProper_toJson (r : SensorReport) : r.toJson.IsProper :=
  Json.isProper_record (by simp [Json.isProper_ofOption])

theorem ofJson?_toJson (r : SensorReport) :
    ofJson? r.toJson = if r.hasFiniteFlux then some r else none := by
  rw [ofJson?, toJson, Json.record?_record]
  · simp [Json.perhaps_ofOption TemperatureReading.ofJson?_toJson rfl,
      Json.perhaps_ofOption LightReading.ofJson?_toJson rfl,
      Json.perhaps_ofOption HumidityReading.ofJson?_toJson rfl,
      Json.perhaps_ofOption MessageStats.ofJson?_toJson rfl,
      Json.perhaps_ofOption ConfigSettings.ofJson?_toJson rfl,
      Json.perhaps_ofOption AccelReading.ofJson?_toJson rfl, HallEffectReading.perhaps_ofOption]
    rw [hasFiniteFlux]
    split <;> rfl
  · rfl
  · decide

end SensorReport

end CollectorGateway
