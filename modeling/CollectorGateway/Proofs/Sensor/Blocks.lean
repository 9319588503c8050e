import CollectorGateway.Proofs.Extents
import CollectorGateway.Proofs.Layout

/-!
The blocks of a report on the wire. They follow one another in the order of their bits,
and each is a row of numbers of fixed widths. So the octets of any report whose blocks
are those of its mask are read back as that report, whatever follows them; any octets
that suffice for the blocks of a mask are read as the report that they spell; and if
there are fewer, the read stops before the first number that is not there.
-/

namespace CollectorGateway

open Read (extent extent_append)

namespace SensorField

def widths : SensorField → List Nat
  | temperature => [2, 2]
  | light => [2]
  | humidity => [2, 2]
  | messageStats => List.replicate MessageStats.count 2
  | configSettings => [4, 4]
  | hallEffect => [4]
  | accel => [2, 2, 2, 1, 1]

theorem extent_widths (f : SensorField) : extent f.widths = f.size := by
  cases f <;> rfl

end SensorField

namespace FieldMask

theorem fields_ascending (m : FieldMask) : m.fields.Pairwise fun f g => f.bit < g.bit := by
  have ascending : SensorField.all.Pairwise fun f g => f.bit < g.bit := by decide
  exact ascending.filter _

theorem flatMap_fields {α : Type} (m : FieldMask) (tell : SensorField → List α) :
    m.fields.flatMap tell =
      SensorField.all.flatMap fun f => if m.has f = true then tell f else [] := by
  rw [fields]
  induction SensorField.all with
  | nil => rfl
  | cons f rest ih => by_cases h : m.has f = true <;> simp [h, ih]

def widths (m : FieldMask) : List Nat := m.fields.flatMap SensorField.widths

theorem extent_widths (m : FieldMask) : extent m.widths = m.size := by
  rw [widths, size]
  induction m.fields with
  | nil => rfl
  | cons f rest ih =>
    rw [List.flatMap_cons, extent_append, SensorField.extent_widths, ih, List.foldr_cons]

end FieldMask

namespace Read

theorem spans_messageStats : messageStats.Spans SensorField.messageStats.widths :=
  (spans_u16.times MessageStats.count).map _

theorem spans_accel : accel.Spans SensorField.accel.widths :=
  spans_i16.bind fun _ => spans_i16.bind fun _ => spans_i16.bind fun _ => spans_u8.bind fun _ =>
    spans_u8.map _

theorem spans_pair {α β γ : Type} {r : Read α} {s : Read β} {a b : Nat} (first : r.Spans [a])
    (second : s.Spans [b]) (f : α → β → γ) :
    (do return f (← r) (← s) : Read γ).Spans [a, b] :=
  first.bind fun v => second.map (f v)

theorem spans_sensorReport (mask : FieldMask) : (sensorReport mask).Spans mask.widths := by
  have whole := ((spans_pair spans_u16 spans_u16 TemperatureReading.mk).when
      (mask.has .temperature)).bind fun t => ((spans_u16.map LightReading.mk).when
      (mask.has .light)).bind fun l => ((spans_pair spans_u16 spans_u16 HumidityReading.mk).when
      (mask.has .humidity)).bind fun h => (spans_messageStats.when
      (mask.has .messageStats)).bind fun s => ((spans_pair spans_u32 spans_u32 ConfigSettings.mk).when
      (mask.has .configSettings)).bind fun c => (((spans_u32.map Single.mk).map
      HallEffectReading.mk).when (mask.has .hallEffect)).bind fun e => (spans_accel.when
      (mask.has .accel)).map fun a => SensorReport.mk mask t l h s c e a
  rw [FieldMask.widths, FieldMask.flatMap_fields]
  simp only [SensorField.all, List.flatMap_cons, List.flatMap_nil, List.append_nil]
  exact whole

end Read

namespace SensorReport

variable {r : SensorReport}

def block (r : SensorReport) : SensorField → List UInt8
  | .temperature => (r.temperature.map TemperatureReading.toOctets).getD []
  | .light => (r.light.map LightReading.toOctets).getD []
  | .humidity => (r.humidity.map HumidityReading.toOctets).getD []
  | .messageStats => (r.messageStats.map MessageStats.toOctets).getD []
  | .configSettings => (r.configSettings.map ConfigSettings.toOctets).getD []
  | .hallEffect => (r.hallEffect.map HallEffectReading.toOctets).getD []
  | .accel => (r.accel.map AccelReading.toOctets).getD []

theorem block_eq_nil {f : SensorField} (absent : r.has f = false) : r.block f = [] := by
  cases f <;> simp_all [has, block]

theorem Fits.flatMap_block (fits : r.Fits) : r.fields.fields.flatMap r.block = r.toOctets := by
  have blocks : r.toOctets = SensorField.all.flatMap r.block := by
    simp [toOctets, SensorField.all, block]
  rw [blocks, FieldMask.flatMap_fields]
  refine congrArg (List.flatMap · SensorField.all) (funext fun f => ?_)
  split
  · rfl
  · rename_i unset
    exact (block_eq_nil (by rw [fits f]; simpa using unset)).symm

theorem Fits.length_toOctets (fits : r.Fits) : r.toOctets.length = r.fields.size := by
  let c := Cursor.ofOctets "" (r.toOctets ++ [])
  have passed := Cursor.passed_ofOctets "" r.toOctets []
  have read := Read.sensorReport_on_iff.2 ⟨rfl, fits, passed⟩
  have same := passed.eq_skip.symm.trans ((Read.spans_sensorReport r.fields c).eq_skip read)
  have counted := congrArg Cursor.position same
  rw [FieldMask.extent_widths] at counted
  exact Nat.add_left_cancel counted

/-- The octets of the blocks of a mask are read as the report with just these blocks. A report
is read exactly if they are all left; otherwise the read stops before the first number that
is not there. -/
theorem sensorReport_of_blocks (mask : FieldMask) :
    mask.fields.Pairwise (fun f g => f.bit < g.bit) ∧
    (∀ r : SensorReport, r.fields = mask → r.Fits → ∀ what position tail,
      (Read.sensorReport mask).on ⟨what, position, mask.fields.flatMap r.block ++ tail⟩ =
        (.ok r, ⟨what, position + mask.size, tail⟩)) ∧
    ∀ c : Cursor,
      ((∃ r c', (Read.sensorReport mask).on c = (.ok r, c')) ↔ mask.size ≤ c.remaining) ∧
      (∀ r c', (Read.sensorReport mask).on c = (.ok r, c') →
        r.fields = mask ∧ r.Fits ∧ c' = c.skip mask.size ∧
          c.rest.take mask.size = mask.fields.flatMap r.block) ∧
      (c.remaining < mask.size → (Read.sensorReport mask).StopsShort mask.widths c) := by
  have spans := Read.spans_sensorReport mask
  rw [← mask.extent_widths]
  refine ⟨mask.fields_ascending, ?_, fun c => ⟨⟨?_, fun enough => ?_⟩, ?_,
    (spans c).stopsShort⟩⟩
  · rintro r rfl fits what position tail
    refine Read.sensorReport_on_iff.2 ⟨rfl, fits, rfl, ?_, ?_⟩
    · rw [FieldMask.extent_widths, fits.length_toOctets]
    · rw [fits.flatMap_block]
  · rintro ⟨r, c', read⟩
    exact ((spans c).gives_of_ok read).1
  · obtain ⟨r, gives⟩ := (spans c).gives_of_le enough
    exact ⟨r, _, gives.on⟩
  · intro r c' read
    obtain ⟨rfl, fits, passed⟩ := Read.sensorReport_on_iff.1 read
    refine ⟨rfl, fits, (spans c).eq_skip read, ?_⟩
    rw [fits.flatMap_block, passed.rest, FieldMask.extent_widths, ← fits.length_toOctets,
      List.take_left]

/-- A mask with a bit that belongs to no block, and two blocks; the flux is no number. -/
theorem undefined_bit_and_nan_kept :
    let mask : FieldMask := ⟨0x8021⟩
    let r : SensorReport :=
      ⟨mask, some ⟨1, 2⟩, none, none, none, none, some ⟨⟨0x7fc00000⟩⟩, none⟩
    r.fields = mask ∧ r.Fits ∧
    (Read.sensorReport mask).on ⟨"sensor data", 10, [1, 0, 2, 0, 0, 0, 0xc0, 0x7f, 0xee]⟩ =
      (.ok r, ⟨"sensor data", 18, [0xee]⟩) ∧
    (Read.sensorReport mask).StopsShort [2, 2, 4] ⟨"sensor data", 10, [1, 0, 2, 0, 0, 0, 0xc0]⟩ := by
  intro mask r
  obtain ⟨-, back, others⟩ := sensorReport_of_blocks mask
  have fits : r.Fits := by decide
  have spelled : mask.fields.flatMap r.block = [1, 0, 2, 0, 0, 0, 0xc0, 0x7f] := by decide
  have sized : mask.size = 8 := by decide
  have numbers : mask.widths = [2, 2, 4] := by decide
  have read := back r rfl fits "sensor data" 10 [0xee]
  rw [spelled, sized] at read
  have short := (others ⟨"sensor data", 10, [1, 0, 2, 0, 0, 0, 0xc0]⟩).2.2 (by decide)
  rw [numbers] at short
  exact ⟨rfl, fits, read, short⟩

end SensorReport

end CollectorGateway
