import CollectorGateway.Proofs.Gateway.Steps
import CollectorGateway.Proofs.Reads

/-!
How the messages of devices are laid out. A report is spelled by the blocks it
holds, in the order of their bits, and its mask tells which these are; around it
stand the sender's address, the signal strength and a code. The records of devices
and of the network have flags, and every octet but zero sets one. For each kind of
message that a device sends or that tells of its silence, a frame holds a given
message exactly if its payload begins with what spells it.
-/

namespace CollectorGateway

namespace MessageStats

theorem toList_ofList {cs : List UInt16} (h : cs.length = count) : (ofList cs).toList = cs := by
  have listed : (ofList cs).toList = (List.range count).map fun i => cs.getD i 0 := rfl
  rw [listed]
  refine List.ext_getElem (by simp [h]) fun i _ hi => ?_
  simp [List.getD_eq_getElem?_getD, hi]

end MessageStats

namespace SensorReport

def has (r : SensorReport) : SensorField → Bool
  | .temperature => r.temperature.isSome
  | .light => r.light.isSome
  | .humidity => r.humidity.isSome
  | .messageStats => r.messageStats.isSome
  | .configSettings => r.configSettings.isSome
  | .hallEffect => r.hallEffect.isSome
  | .accel => r.accel.isSome

def Fits (r : SensorReport) : Prop := ∀ f, r.has f = r.fields.has f

theorem fits_iff {r : SensorReport} : r.Fits ↔
    r.temperature.isSome = r.fields.has .temperature ∧ r.light.isSome = r.fields.has .light ∧
    r.humidity.isSome = r.fields.has .humidity ∧
    r.messageStats.isSome = r.fields.has .messageStats ∧
    r.configSettings.isSome = r.fields.has .configSettings ∧
    r.hallEffect.isSome = r.fields.has .hallEffect ∧ r.accel.isSome = r.fields.has .accel := by
  constructor
  · intro h
    exact ⟨h .temperature, h .light, h .humidity, h .messageStats, h .configSettings,
      h .hallEffect, h .accel⟩
  · rintro ⟨temperature, light, humidity, messageStats, configSettings, hallEffect, accel⟩ f
    cases f <;> assumption

instance (r : SensorReport) : Decidable r.Fits := decidable_of_iff _ fits_iff.symm

def spelling (r : SensorReport) : List UInt8 := LittleEndian.u16 r.fields.bits ++ r.toOctets

end SensorReport

def Address.toOctets : Address → List UInt8
  | .short a => [2] ++ LittleEndian.u16 a
  | .extended a => [3] ++ LittleEndian.u64 a

namespace SensorCommand

theorem code_of_ofCode? {b : UInt8} {c : SensorCommand} (h : ofCode? b = some c) : c.code = b := by
  unfold ofCode? at h
  split at h
  · simp at h
  · rename_i positive
    have hlt : b.toNat - 1 < all.length := (List.getElem?_eq_some_iff.1 h).1
    have hall : ∀ i, (hi : i < all.length) → (all.get ⟨i, hi⟩).code.toNat = i + 1 := by decide
    have hpos : b.toNat ≠ 0 := fun zero => positive (UInt8.toNat_inj.mp zero)
    apply UInt8.toNat_inj.mp
    rw [← (List.getElem?_eq_some_iff.1 h).2]
    exact (hall _ hlt).trans (by omega)

end SensorCommand

def Capability.flags (c : Capability) : List Bool :=
  [c.panCoordinator, c.fullFunction, c.mainsPower, c.receiverOnWhenIdle, c.security,
    c.allocateAddress]

def RosterEntry.SpelledBy (e : RosterEntry) (bs : List UInt8) : Prop :=
  ∃ network flags, flags.map (· != 0) = e.capability.flags ∧
    bs = LittleEndian.u16 network ++ LittleEndian.u16 e.shortAddress ++
      LittleEndian.u64 e.extAddress ++ flags

/-- Octets of a record: addresses first, and every nonzero octet is a flag that is set. -/
def NetworkRecord.SpelledBy (r : NetworkRecord) (bs : List UInt8) : Prop :=
  ∃ hopping security : UInt8, (hopping != 0) = r.hopping ∧ (security != 0) = r.security ∧
    bs = LittleEndian.u16 r.panId ++ LittleEndian.u16 r.shortAddress ++
      LittleEndian.u64 r.extAddress ++ [r.channel, hopping, security, r.mode, r.state]

/-- The command that brings a message, if only one does. -/
def Message.source? : Message → Option Command
  | networkAnswer _ _ => some .getNwkInfoCnf
  | network _ => some .nwkInfoInd
  | roster _ _ => some .getDeviceArrayCnf
  | joined _ _ _ => some .deviceJoinedInd
  | inactive _ _ => some .deviceNotActiveUpdateInd
  | fromSensor _ _ _ => some .deviceDataRxInd
  | stateChanged _ => some .collectorStateCngInd
  | joinPermit _ => some .setJoinPermitCnf
  | sent => some .txDataCnf
  | unhandled => none

namespace Read

open Cursor (passed_append_iff passed_pair_iff)

variable {c c' : Cursor}

theorem temperature_on_iff {v : TemperatureReading} :
    temperature.on c = (.ok v, c') ↔ c.Passed v.toOctets c' := by
  cases v
  simp [temperature, TemperatureReading.toOctets, bind_on_iff, map_on_iff, u16_on_iff,
    passed_append_iff]

theorem light_on_iff {v : LightReading} :
    light.on c = (.ok v, c') ↔ c.Passed v.toOctets c' := by
  cases v
  simp [light, LightReading.toOctets, map_on_iff, u16_on_iff]

theorem humidity_on_iff {v : HumidityReading} :
    humidity.on c = (.ok v, c') ↔ c.Passed v.toOctets c' := by
  cases v
  simp [humidity, HumidityReading.toOctets, bind_on_iff, map_on_iff, u16_on_iff,
    passed_append_iff]

theorem messageStats_on_iff {v : MessageStats} :
    messageStats.on c = (.ok v, c') ↔ c.Passed v.toOctets c' := by
  simp only [messageStats, map_on_iff, times_on_iff u16_on_iff]
  constructor
  · rintro ⟨vs, ⟨long, passed⟩, rfl⟩
    rwa [MessageStats.toOctets, MessageStats.toList_ofList long]
  · intro passed
    exact ⟨v.toList, ⟨v.length_toList, passed⟩, v.ofList_toList⟩

theorem configSettings_on_iff {v : ConfigSettings} :
    configSettings.on c = (.ok v, c') ↔ c.Passed v.toOctets c' := by
  cases v
  simp [configSettings, ConfigSettings.toOctets, bind_on_iff, map_on_iff, u32_on_iff,
    passed_append_iff]

theorem hallEffect_on_iff {v : HallEffectReading} :
    hallEffect.on c = (.ok v, c') ↔ c.Passed v.toOctets c' := by
  cases v
  simp [hallEffect, HallEffectReading.toOctets, map_on_iff, single_on_iff]

theorem accel_on_iff {v : AccelReading} :
    accel.on c = (.ok v, c') ↔ c.Passed v.toOctets c' := by
  cases v
  simp [accel, AccelReading.toOctets, bind_on_iff, map_on_iff, i16_on_iff, u8_on_iff,
    passed_append_iff, passed_pair_iff, ← and_assoc]

theorem sensorReport_on_iff {mask : FieldMask} {r : SensorReport} :
    (sensorReport mask).on c = (.ok r, c') ↔
      r.fields = mask ∧ r.Fits ∧ c.Passed r.toOctets c' := by
  rw [SensorReport.fits_iff]
  simp only [sensorReport, SensorReport.toOctets, bind_on_iff, pure_on_iff,
    when_on_iff temperature_on_iff, when_on_iff light_on_iff, when_on_iff humidity_on_iff,
    when_on_iff messageStats_on_iff, when_on_iff configSettings_on_iff,
    when_on_iff hallEffect_on_iff, when_on_iff accel_on_iff, List.append_assoc, passed_append_iff]
  constructor
  · rintro ⟨_, _, ⟨h₁, p₁⟩, _, _, ⟨h₂, p₂⟩, _, _, ⟨h₃, p₃⟩, _, _, ⟨h₄, p₄⟩, _, _, ⟨h₅, p₅⟩,
      _, _, ⟨h₆, p₆⟩, _, _, ⟨h₇, p₇⟩, rfl, rfl⟩
    exact ⟨rfl, ⟨h₁, h₂, h₃, h₄, h₅, h₆, h₇⟩, _, p₁, _, p₂, _, p₃, _, p₄, _, p₅, _, p₆, p₇⟩
  · rintro ⟨rfl, ⟨h₁, h₂, h₃, h₄, h₅, h₆, h₇⟩, _, p₁, _, p₂, _, p₃, _, p₄, _, p₅, _, p₆, p₇⟩
    exact ⟨_, _, ⟨h₁, p₁⟩, _, _, ⟨h₂, p₂⟩, _, _, ⟨h₃, p₃⟩, _, _, ⟨h₄, p₄⟩, _, _, ⟨h₅, p₅⟩,
      _, _, ⟨h₆, p₆⟩, _, _, ⟨h₇, p₇⟩, rfl, rfl⟩

theorem address_on_iff {a : Address} : address.on c = (.ok a, c') ↔ c.Passed a.toOctets c' := by
  have apart : ¬ (3 : UInt8) = 2 := by decide
  simp only [address, bind_on_iff, u8_on_iff]
  constructor
  · rintro ⟨m, mode, tag, h⟩
    by_cases two : mode = 2
    · subst two
      simp only [if_true, bind_on_iff, pure_on_iff, u16_on_iff] at h
      obtain ⟨_, s, passed, rfl, rfl⟩ := h
      exact passed_append_iff.2 ⟨m, tag, passed⟩
    · by_cases three : mode = 3
      · subst three
        simp only [if_neg apart, if_true, bind_on_iff, pure_on_iff, u64_on_iff] at h
        obtain ⟨_, s, passed, rfl, rfl⟩ := h
        exact passed_append_iff.2 ⟨m, tag, passed⟩
      · simp only [if_neg two, if_neg three, fail_on_iff] at h
  · intro passed
    cases a with
    | short a =>
      obtain ⟨m, tag, rest⟩ := passed_append_iff.1 passed
      refine ⟨m, 2, tag, ?_⟩
      simpa [map_on_iff, u16_on_iff] using rest
    | extended a =>
      obtain ⟨m, tag, rest⟩ := passed_append_iff.1 passed
      refine ⟨m, 3, tag, ?_⟩
      simpa [map_on_iff, u64_on_iff] using rest

theorem sensorData_on_iff {m : SensorMessage} : sensorData.on c = (.ok m, c') ↔
    ∃ ext report, m = .data report c'.remaining ∧ report.Fits ∧
      c.Passed (LittleEndian.u64 ext ++ report.spelling) c' := by
  simp only [sensorData, SensorReport.spelling, bind_on_iff, pure_on_iff, u64_on_iff, u16_on_iff,
    sensorReport_on_iff, remaining_on_iff, passed_append_iff]
  constructor
  · rintro ⟨_, ext, p₁, _, bits, p₂, _, report, ⟨mask, fits, p₃⟩, _, _, ⟨rfl, rfl⟩, rfl, rfl⟩
    exact ⟨ext, report, rfl, fits, _, p₁, _, by rwa [mask], p₃⟩
  · rintro ⟨ext, report, rfl, fits, _, p₁, _, p₂, p₃⟩
    exact ⟨_, ext, p₁, _, _, p₂, _, report, ⟨rfl, fits, p₃⟩, _, _, ⟨rfl, rfl⟩, rfl, rfl⟩

theorem configResponse_on_iff {m : SensorMessage} : configResponse.on c = (.ok m, c') ↔
    ∃ status fields reporting polling, m = .config status fields reporting polling ∧
      c.Passed (LittleEndian.u16 status ++ LittleEndian.u16 fields.bits ++
        LittleEndian.u32 reporting ++ LittleEndian.u32 polling) c' := by
  simp only [configResponse, bind_on_iff, pure_on_iff, u32_on_iff, u16_on_iff,
    List.append_assoc, passed_append_iff]
  constructor
  · rintro ⟨_, status, p₁, _, bits, p₂, _, reporting, p₃, _, polling, p₄, rfl, rfl⟩
    exact ⟨status, ⟨bits⟩, reporting, polling, rfl, _, p₁, _, p₂, _, p₃, p₄⟩
  · rintro ⟨status, fields, reporting, polling, rfl, _, p₁, _, p₂, _, p₃, p₄⟩
    exact ⟨_, status, p₁, _, _, p₂, _, reporting, p₃, _, polling, p₄, rfl, rfl⟩

theorem sensorMessage_data_iff {report : SensorReport} {trailing : Nat} :
    sensorMessage.on c = (.ok (.data report trailing), c') ↔
      ∃ ext, trailing = c'.remaining ∧ report.Fits ∧
        c.Passed ([5] ++ LittleEndian.u64 ext ++ report.spelling) c' := by
  simp only [sensorMessage, bind_on_iff, u8_on_iff, List.append_assoc]
  constructor
  · rintro ⟨m, inner, tag, h⟩
    split at h
    · rename_i code
      obtain rfl : 5 = inner := SensorCommand.code_of_ofCode? code
      obtain ⟨ext, report', same, fits, passed⟩ := sensorData_on_iff.1 h
      obtain ⟨rfl, rfl⟩ := SensorMessage.data.inj same
      exact ⟨ext, rfl, fits, passed_append_iff.2 ⟨m, tag, passed⟩⟩
    · obtain ⟨_, _, _, _, same, -⟩ := configResponse_on_iff.1 h
      simp at same
    · simp [pure_on_iff] at h
    · simp [pure_on_iff] at h
  · rintro ⟨ext, rfl, fits, passed⟩
    obtain ⟨m, tag, rest⟩ := passed_append_iff.1 passed
    exact ⟨m, 5, tag, sensorData_on_iff.2 ⟨ext, report, rfl, fits, rest⟩⟩

theorem sensorMessage_config_iff {status : UInt16} {fields : FieldMask}
    {reporting polling : UInt32} :
    sensorMessage.on c = (.ok (.config status fields reporting polling), c') ↔
      c.Passed ([2] ++ LittleEndian.u16 status ++ LittleEndian.u16 fields.bits ++
        LittleEndian.u32 reporting ++ LittleEndian.u32 polling) c' := by
  simp only [sensorMessage, bind_on_iff, u8_on_iff, List.append_assoc]
  constructor
  · rintro ⟨m, inner, tag, h⟩
    split at h
    · obtain ⟨_, _, same, -⟩ := sensorData_on_iff.1 h
      simp at same
    · rename_i code
      obtain rfl : 2 = inner := SensorCommand.code_of_ofCode? code
      obtain ⟨_, _, _, _, same, passed⟩ := configResponse_on_iff.1 h
      obtain ⟨rfl, rfl, rfl, rfl⟩ := SensorMessage.config.inj same
      rw [List.append_assoc, List.append_assoc] at passed
      exact passed_append_iff.2 ⟨m, tag, passed⟩
    · simp [pure_on_iff] at h
    · simp [pure_on_iff] at h
  · intro passed
    obtain ⟨m, tag, rest⟩ := passed_append_iff.1 passed
    refine ⟨m, 2, tag, configResponse_on_iff.2 ⟨status, fields, reporting, polling, rfl, ?_⟩⟩
    rwa [List.append_assoc, List.append_assoc]

theorem fromSensor_on_iff {a : Address} {rssi : Int8} {s : SensorMessage} :
    fromSensor.on c = (.ok (.fromSensor a rssi s), c') ↔
      ∃ m, c.Passed (a.toOctets ++ [rssi.toUInt8]) m ∧ sensorMessage.on m = (.ok s, c') := by
  simp only [fromSensor, bind_on_iff, pure_on_iff, address_on_iff, i8_on_iff, passed_append_iff]
  constructor
  · rintro ⟨_, a, p₁, _, rssi, p₂, _, s, h, same, rfl⟩
    obtain ⟨rfl, rfl, rfl⟩ := Message.fromSensor.inj same
    exact ⟨_, ⟨_, p₁, p₂⟩, h⟩
  · rintro ⟨_, ⟨_, p₁, p₂⟩, h⟩
    exact ⟨_, a, p₁, _, rssi, p₂, _, s, h, rfl, rfl⟩

theorem inactive_on_iff {m : Message} : inactive.on c = (.ok m, c') ↔
    ∃ network short ext timeout, m = .inactive short timeout ∧
      c.Passed (LittleEndian.u16 network ++ LittleEndian.u16 short ++ LittleEndian.u64 ext ++
        [timeout]) c' := by
  simp only [inactive, bind_on_iff, pure_on_iff, u8_on_iff, u16_on_iff, u64_on_iff,
    List.append_assoc, passed_append_iff]
  constructor
  · rintro ⟨_, network, p₁, _, short, p₂, _, ext, p₃, _, timeout, p₄, rfl, rfl⟩
    exact ⟨network, short, ext, timeout, rfl, _, p₁, _, p₂, _, p₃, p₄⟩
  · rintro ⟨network, short, ext, timeout, rfl, _, p₁, _, p₂, _, p₃, p₄⟩
    exact ⟨_, network, p₁, _, short, p₂, _, ext, p₃, _, timeout, p₄, rfl, rfl⟩

theorem bool_on_iff {v : Bool} : bool.on c = (.ok v, c') ↔ ∃ o, c.Passed [o] c' ∧ (o != 0) = v := by
  simp only [bool, map_on_iff, u8_on_iff]

theorem passed_six_iff {a b d e f g : UInt8} :
    c.Passed [a, b, d, e, f, g] c' ↔ ∃ c₁, c.Passed [a] c₁ ∧ ∃ c₂, c₁.Passed [b] c₂ ∧
      ∃ c₃, c₂.Passed [d] c₃ ∧ ∃ c₄, c₃.Passed [e] c₄ ∧ ∃ c₅, c₄.Passed [f] c₅ ∧
        c₅.Passed [g] c' := by
  have pieces : [a, b, d, e, f, g] = [a] ++ ([b] ++ ([d] ++ ([e] ++ ([f] ++ [g])))) := rfl
  simp only [pieces, passed_append_iff]

theorem capability_on_iff {v : Capability} :
    capability.on c = (.ok v, c') ↔ ∃ flags, flags.map (· != 0) = v.flags ∧ c.Passed flags c' := by
  simp only [capability, bind_on_iff, pure_on_iff, bool_on_iff]
  constructor
  · rintro ⟨_, _, ⟨a, p₁, rfl⟩, _, _, ⟨b, p₂, rfl⟩, _, _, ⟨d, p₃, rfl⟩, _, _, ⟨e, p₄, rfl⟩,
      _, _, ⟨f, p₅, rfl⟩, _, _, ⟨g, p₆, rfl⟩, rfl, rfl⟩
    exact ⟨[a, b, d, e, f, g], rfl, passed_six_iff.2 ⟨_, p₁, _, p₂, _, p₃, _, p₄, _, p₅, p₆⟩⟩
  · rintro ⟨flags, same, passed⟩
    obtain ⟨p, q, r, s, t, u⟩ := v
    simp only [Capability.flags, List.map_eq_cons_iff, List.map_eq_nil_iff] at same
    obtain ⟨a, _, rfl, rfl, b, _, rfl, rfl, d, _, rfl, rfl, e, _, rfl, rfl, f, _, rfl, rfl, g, _,
      rfl, rfl, rfl⟩ := same
    obtain ⟨_, p₁, _, p₂, _, p₃, _, p₄, _, p₅, p₆⟩ := passed_six_iff.1 passed
    exact ⟨_, _, ⟨a, p₁, rfl⟩, _, _, ⟨b, p₂, rfl⟩, _, _, ⟨d, p₃, rfl⟩, _, _, ⟨e, p₄, rfl⟩,
      _, _, ⟨f, p₅, rfl⟩, _, _, ⟨g, p₆, rfl⟩, rfl, rfl⟩

theorem networkRecord_on_iff {r : NetworkRecord} :
    networkRecord.on c = (.ok r, c') ↔ ∃ bs, r.SpelledBy bs ∧ c.Passed bs c' := by
  have pieces (a b d e f : UInt8) : [a, b, d, e, f] = [a] ++ ([b] ++ ([d] ++ ([e] ++ [f]))) := rfl
  simp only [networkRecord, NetworkRecord.SpelledBy, bind_on_iff, pure_on_iff, u8_on_iff,
    u16_on_iff, u64_on_iff, bool_on_iff]
  constructor
  · rintro ⟨_, panId, p₁, _, short, p₂, _, ext, p₃, _, channel, p₄, _, _, ⟨hopping, p₅, rfl⟩,
      _, _, ⟨security, p₆, rfl⟩, _, mode, p₇, _, state, p₈, rfl, rfl⟩
    refine ⟨_, ⟨hopping, security, rfl, rfl, rfl⟩, ?_⟩
    simp only [pieces, List.append_assoc, passed_append_iff]
    exact ⟨_, p₁, _, p₂, _, p₃, _, p₄, _, p₅, _, p₆, _, p₇, p₈⟩
  · rintro ⟨_, ⟨hopping, security, same, same', rfl⟩, passed⟩
    simp only [pieces, List.append_assoc, passed_append_iff] at passed
    obtain ⟨_, p₁, _, p₂, _, p₃, _, p₄, _, p₅, _, p₆, _, p₇, p₈⟩ := passed
    exact ⟨_, _, p₁, _, _, p₂, _, _, p₃, _, _, p₄, _, _, ⟨hopping, p₅, same⟩, _, _,
      ⟨security, p₆, same'⟩, _, _, p₇, _, _, p₈, rfl, rfl⟩

theorem rosterEntry_on_iff {e : RosterEntry} :
    rosterEntry.on c = (.ok e, c') ↔ ∃ bs, e.SpelledBy bs ∧ c.Passed bs c' := by
  simp only [rosterEntry, RosterEntry.SpelledBy, bind_on_iff, pure_on_iff, u16_on_iff, u64_on_iff,
    capability_on_iff]
  constructor
  · rintro ⟨_, network, p₁, _, _, p₂, _, _, p₃, _, _, ⟨flags, same, p₄⟩, rfl, rfl⟩
    refine ⟨_, ⟨network, flags, same, rfl⟩, ?_⟩
    simp only [List.append_assoc, passed_append_iff]
    exact ⟨_, p₁, _, p₂, _, p₃, p₄⟩
  · rintro ⟨_, ⟨network, flags, same, rfl⟩, passed⟩
    simp only [List.append_assoc, passed_append_iff] at passed
    obtain ⟨_, p₁, _, p₂, _, p₃, p₄⟩ := passed
    exact ⟨_, network, p₁, _, _, p₂, _, _, p₃, _, _, ⟨flags, same, p₄⟩, rfl, rfl⟩

theorem joined_on_iff {m : Message} : joined.on c = (.ok m, c') ↔
    ∃ (e : RosterEntry) (bs : _), m = .joined e.shortAddress e.extAddress e.capability ∧
      e.SpelledBy bs ∧ c.Passed bs c' := by
  simp only [joined, bind_on_iff, pure_on_iff, rosterEntry_on_iff]
  constructor
  · rintro ⟨_, e, ⟨bs, spelled, passed⟩, rfl, rfl⟩
    exact ⟨e, bs, rfl, spelled, passed⟩
  · rintro ⟨e, bs, rfl, spelled, passed⟩
    exact ⟨_, e, ⟨bs, spelled, passed⟩, rfl, rfl⟩

theorem roster_on_iff {m : Message} : roster.on c = (.ok m, c') ↔
    ∃ status count entries bss, m = .roster status entries ∧
      entries.length = UInt16.toNat count ∧ List.Forall₂ RosterEntry.SpelledBy entries bss ∧
      c.Passed ([status] ++ LittleEndian.u16 count ++ bss.flatten) c' := by
  simp only [roster, bind_on_iff, pure_on_iff, u8_on_iff, u16_on_iff,
    times_on_iff_spelled RosterEntry.SpelledBy rosterEntry_on_iff, List.append_assoc,
    passed_append_iff]
  constructor
  · rintro ⟨_, status, p₁, _, count, p₂, _, entries, ⟨long, bss, spelled, p₃⟩, rfl, rfl⟩
    exact ⟨status, count, entries, bss, rfl, long, spelled, _, p₁, _, p₂, p₃⟩
  · rintro ⟨status, count, entries, bss, rfl, long, spelled, _, p₁, _, p₂, p₃⟩
    exact ⟨_, status, p₁, _, count, p₂, _, entries, ⟨long, bss, spelled, p₃⟩, rfl, rfl⟩

theorem source?_of_message {k : Command} {m : Message} (h : (message k).on c = (.ok m, c')) :
    m = .unhandled ∨ m.source? = some k := by
  cases k
  case getNwkInfoCnf =>
    obtain ⟨_, _, -, h⟩ := bind_on_iff.1 h
    obtain ⟨_, _, -, h⟩ := bind_on_iff.1 h
    exact .inr ((pure_on_iff.1 h).1 ▸ rfl)
  case getDeviceArrayCnf =>
    obtain ⟨_, _, _, _, rfl, -⟩ := roster_on_iff.1 h
    exact .inr rfl
  case deviceJoinedInd =>
    obtain ⟨_, _, rfl, -⟩ := joined_on_iff.1 h
    exact .inr rfl
  case deviceNotActiveUpdateInd =>
    obtain ⟨_, _, _, _, rfl, -⟩ := inactive_on_iff.1 h
    exact .inr rfl
  case deviceDataRxInd =>
    obtain ⟨_, _, -, h⟩ := bind_on_iff.1 h
    obtain ⟨_, _, -, h⟩ := bind_on_iff.1 h
    obtain ⟨_, _, -, h⟩ := bind_on_iff.1 h
    exact .inr ((pure_on_iff.1 h).1 ▸ rfl)
  case nwkInfoInd | collectorStateCngInd | setJoinPermitCnf =>
    obtain ⟨_, -, rfl⟩ := map_on_iff.1 h
    exact .inr rfl
  case txDataCnf => exact .inr ((pure_on_iff.1 h).1 ▸ rfl)
  -- No other command has a message of its own.
  all_goals exact .inl (pure_on_iff.1 h).1.symm

end Read

namespace Frame

theorem message?_eq_some_iff {f : Frame} {m : Message} {k : Command}
    (source : m.source? = some k) :
    f.message? = some m ↔ f.command = k.code ∧
      ∃ c', (Read.message k).on (.ofOctets k.payloadName f.payload) = (.ok m, c') := by
  have read : ∀ k', (Message.ofPayload k' f.payload).toOption = some m ↔
      ∃ c', (Read.message k').on (.ofOctets k'.payloadName f.payload) = (.ok m, c') := by
    intro k'
    rw [← Read.whole_eq_ok_iff, Message.ofPayload]
    cases (Read.message k').whole k'.payloadName f.payload <;> simp [Except.toOption]
  rw [message?, Option.bind_eq_some_iff]
  constructor
  · rintro ⟨k', hk, h⟩
    obtain ⟨c', h⟩ := (read k').1 h
    obtain rfl | known := Read.source?_of_message h
    · contradiction
    obtain rfl : k = k' := Option.some.inj (source.symm.trans known)
    exact ⟨(Command.code_of_ofCode? hk).symm, c', h⟩
  · rintro ⟨hk, h⟩
    exact ⟨k, by rw [hk, Command.ofCode?_code], (read k).2 h⟩

theorem message?_eq_report_iff {f : Frame} {a : Address} {rssi : Int8} {report : SensorReport}
    {trailing : Nat} :
    f.message? = some (.fromSensor a rssi (.data report trailing)) ↔
      f.command = Command.deviceDataRxInd.code ∧ report.Fits ∧ ∃ ext tail,
        f.payload = a.toOctets ++ [rssi.toUInt8] ++ ([5] ++ LittleEndian.u64 ext ++
          report.spelling) ++ tail ∧ trailing = tail.length := by
  rw [message?_eq_some_iff rfl]
  refine and_congr_right fun _ => ?_
  simp only [Read.message, Read.fromSensor_on_iff, Read.sensorMessage_data_iff]
  constructor
  · rintro ⟨c', m, before, ext, counted, fits, passed⟩
    have whole := Cursor.passed_append_iff.2 ⟨m, before, passed⟩
    exact ⟨fits, ext, c'.rest, whole.rest, counted⟩
  · rintro ⟨fits, ext, tail, laid, counted⟩
    obtain ⟨m, before, passed⟩ :=
      Cursor.passed_append_iff.1 (Cursor.passed_ofOctets Command.deviceDataRxInd.payloadName
        (a.toOctets ++ [rssi.toUInt8] ++ ([5] ++ LittleEndian.u64 ext ++ report.spelling)) tail)
    rw [laid]
    exact ⟨⟨_, _, tail⟩, m, before, ext, counted, fits, passed⟩

theorem message?_eq_config_iff {f : Frame} {a : Address} {rssi : Int8} {status : UInt16}
    {fields : FieldMask} {reporting polling : UInt32} :
    f.message? = some (.fromSensor a rssi (.config status fields reporting polling)) ↔
      f.command = Command.deviceDataRxInd.code ∧ ∃ tail,
        f.payload = a.toOctets ++ [rssi.toUInt8] ++ ([2] ++ LittleEndian.u16 status ++
          LittleEndian.u16 fields.bits ++ LittleEndian.u32 reporting ++
          LittleEndian.u32 polling) ++ tail := by
  rw [message?_eq_some_iff rfl]
  refine and_congr_right fun _ => ?_
  simp only [Read.message, Read.fromSensor_on_iff, Read.sensorMessage_config_iff,
    ← Cursor.passed_append_iff]
  constructor
  · rintro ⟨c', whole⟩
    exact ⟨c'.rest, whole.rest⟩
  · rintro ⟨tail, laid⟩
    rw [laid]
    exact ⟨_, Cursor.passed_ofOctets _ _ tail⟩

theorem message?_eq_joined_iff {f : Frame} {short : UInt16} {ext : UInt64}
    {capability : Capability} :
    f.message? = some (.joined short ext capability) ↔
      f.command = Command.deviceJoinedInd.code ∧ ∃ bs tail,
        RosterEntry.SpelledBy ⟨short, ext, capability⟩ bs ∧ f.payload = bs ++ tail := by
  rw [message?_eq_some_iff rfl]
  refine and_congr_right fun _ => ?_
  simp only [Read.message, Read.joined_on_iff]
  constructor
  · rintro ⟨c', e, bs, same, spelled, passed⟩
    obtain ⟨rfl, rfl, rfl⟩ := Message.joined.inj same
    exact ⟨bs, c'.rest, spelled, passed.rest⟩
  · rintro ⟨bs, tail, spelled, laid⟩
    rw [laid]
    exact ⟨_, _, bs, rfl, spelled, Cursor.passed_ofOctets _ _ tail⟩

theorem message?_eq_roster_iff {f : Frame} {status : UInt8} {entries : List RosterEntry} :
    f.message? = some (.roster status entries) ↔
      f.command = Command.getDeviceArrayCnf.code ∧ ∃ count bss tail,
        entries.length = UInt16.toNat count ∧ List.Forall₂ RosterEntry.SpelledBy entries bss ∧
        f.payload = [status] ++ LittleEndian.u16 count ++ bss.flatten ++ tail := by
  rw [message?_eq_some_iff rfl]
  refine and_congr_right fun _ => ?_
  simp only [Read.message, Read.roster_on_iff]
  constructor
  · rintro ⟨c', _, count, _, bss, same, long, spelled, passed⟩
    obtain ⟨rfl, rfl⟩ := Message.roster.inj same
    exact ⟨count, bss, c'.rest, long, spelled, passed.rest⟩
  · rintro ⟨count, bss, tail, long, spelled, laid⟩
    rw [laid]
    exact ⟨_, status, count, entries, bss, rfl, long, spelled, Cursor.passed_ofOctets _ _ tail⟩

theorem message?_eq_inactive_iff {f : Frame} {short : UInt16} {timeout : UInt8} :
    f.message? = some (.inactive short timeout) ↔
      f.command = Command.deviceNotActiveUpdateInd.code ∧ ∃ network ext tail,
        f.payload = LittleEndian.u16 network ++ LittleEndian.u16 short ++
          LittleEndian.u64 ext ++ [timeout] ++ tail := by
  rw [message?_eq_some_iff rfl]
  refine and_congr_right fun _ => ?_
  simp only [Read.message, Read.inactive_on_iff]
  constructor
  · rintro ⟨c', network, _, ext, _, same, whole⟩
    obtain ⟨rfl, rfl⟩ := Message.inactive.inj same
    exact ⟨network, ext, c'.rest, whole.rest⟩
  · rintro ⟨network, ext, tail, laid⟩
    rw [laid]
    exact ⟨_, network, short, ext, timeout, rfl, Cursor.passed_ofOctets _ _ tail⟩

end Frame

end CollectorGateway
