import CollectorGateway.Proofs.Gateway.Incidents

/-!
What is stored of a device. Each stored value is the last one that befell the
device: a report brings those of its blocks, and an accepted configuration sets
the four plain readings that it selects to zero and brings the two intervals.
Nothing else changes any of them, and of a mask only the bits of its blocks count.
-/

namespace CollectorGateway

namespace FieldMask

theorem has_congr {m m' : FieldMask} (same : m.bits &&& 0x7F = m'.bits &&& 0x7F)
    (f : SensorField) : m.has f = m'.has f := by
  have defined : 0x7F &&& f.bit = f.bit := by cases f <;> rfl
  have bit : ∀ b : UInt16, b &&& f.bit = (b &&& 0x7F) &&& f.bit := by
    intro b
    rw [UInt16.and_assoc, defined]
  rw [has, has, bit m.bits, bit m'.bits, same]

end FieldMask

namespace Incident

def sent? {α : Type} (block : SensorReport → Option α) : Incident → Option α
  | .reported _ report => block report
  | _ => none

/-- What a report brings of a block, or zero if an accepted configuration selects it. -/
def reading? {α : Type} (block : SensorReport → Option α) (f : SensorField) (zero : α) :
    Incident → Option α
  | .reported _ report => block report
  | .configured _ fields _ _ => if fields.has f then some zero else none
  | _ => none

def reporting? : Incident → Option UInt32
  | .configured _ _ reporting _ => some reporting
  | _ => none

end Incident

namespace Device

def polling? (d : Device) : Incident → Option PollingInterval
  | .configured _ _ _ polling =>
    some (if d.capability.receiverOnWhenIdle then .millis polling else .alwaysOn)
  | _ => none

theorem meet_reported_mask (d : Device) (rssi : Int8) (report : SensorReport)
    (mask : FieldMask) :
    d.meet (.reported rssi { report with fields := mask }) = d.meet (.reported rssi report) := rfl

theorem meet_configured_mask (d : Device) (rssi : Int8) {m m' : FieldMask}
    (same : m.bits &&& 0x7F = m'.bits &&& 0x7F) (reporting polling : UInt32) :
    d.meet (.configured rssi m reporting polling) =
      d.meet (.configured rssi m' reporting polling) := by
  simp only [meet, applyConfig, FieldMask.has_congr same]

theorem meet_of_unmeasured (d : Device) {x : Incident}
    (unheard : ∀ rssi report, x ≠ .reported rssi report)
    (unset : ∀ rssi fields reporting polling, x ≠ .configured rssi fields reporting polling) :
    d.meet x = { d with
      shortAddress := (d.meet x).shortAddress
      capability := (d.meet x).capability
      status := (d.meet x).status } := by
  cases x with
  | joined | silenced => rfl
  | reported rssi report => exact absurd rfl (unheard rssi report)
  | configured rssi fields reporting polling =>
    exact absurd rfl (unset rssi fields reporting polling)

end Device

namespace Life

theorem reading_device {α : Type} (l : Life) (value : Device → Option α)
    (block : SensorReport → Option α) (f : SensorField) (zero : α)
    (fresh : ∀ e, value (.ofEntry e) = none)
    (step : ∀ d x, value (Device.meet d x) = match x with
      | .reported _ report => (block report).or (value d)
      | .configured _ fields _ _ => if fields.has f then some zero else value d
      | _ => value d) :
    value l.device = l.last? (Incident.reading? block f zero) := by
  have brought : ∀ d x, value (Device.meet d x) =
      (Incident.reading? block f zero x).or (value d) := by
    intro d x
    cases x with
    | configured rssi fields reporting polling =>
      rw [step, Incident.reading?]
      dsimp only
      split <;> rfl
    | _ => exact step d _
  rw [l.value_device value _ brought, fresh, Option.or_none]

theorem sent_device {α : Type} (l : Life) (value : Device → Option α)
    (block : SensorReport → Option α) (fresh : ∀ e, value (.ofEntry e) = none)
    (step : ∀ d x, value (Device.meet d x) = (Incident.sent? block x).or (value d)) :
    value l.device = l.last? (Incident.sent? block) := by
  rw [l.value_device value _ step, fresh, Option.or_none]

theorem reporting_device (l : Life) :
    l.device.reportingInterval = l.last? Incident.reporting? := by
  have last := l.value_device (·.reportingInterval) Incident.reporting?
    fun d x => by cases x <;> rfl
  rw [last]
  exact Option.or_none

theorem polling_device (l : Life) :
    l.device.pollingInterval = (l.encounters.filterMap fun e => e.1.polling? e.2).getLast? := by
  have last := Device.foldl_meet_eq_last (·.pollingInterval) Device.polling?
    (fun d x => by cases x <;> rfl) (.ofEntry l.record) l.incidents
  rw [device, last]
  exact Option.or_none

end Life

namespace Gateway

theorem get?_handle_of_unmeasured {g : Gateway} {i : Input} {k : Nat} {d : Device}
    (present : g.roster.get? k = some d) (unlisted : i.snapshot? = none)
    (unheard : ∀ rssi report, g.incidentAt? i k ≠ some (.reported rssi report))
    (unset : ∀ rssi fields reporting polling,
      g.incidentAt? i k ≠ some (.configured rssi fields reporting polling)) :
    ∃ d', (g.handle i).gateway.roster.get? k = some d' ∧ d' = { d with
      shortAddress := d'.shortAddress
      capability := d'.capability
      status := d'.status } := by
  rw [get?_handle unlisted, present, Option.map_some, Option.some_or]
  cases brought : g.incidentAt? i k with
  | none => exact ⟨d, rfl, rfl⟩
  | some x =>
    refine ⟨d.meet x, rfl, d.meet_of_unmeasured ?_ ?_⟩
    · rintro rssi report rfl
      exact unheard rssi report brought
    · rintro rssi fields reporting polling rfl
      exact unset rssi fields reporting polling brought

/-- What is stored of a device is the last that befell it: of each reading the last report with
its block or the zero of the last accepted configuration that selects it, of the intervals
the last accepted configuration. Nothing else changes it. -/
theorem readings_of_history (inputs : List Input) :
    let g := empty.after inputs
    (∀ k d, g.roster.get? k = some d → ∃ l, HasLived inputs k l) ∧
    (∀ k l, HasLived inputs k l → ∃ d, g.roster.get? k = some d ∧
      d.temperature = l.last? (Incident.reading? (·.temperature) .temperature ⟨0, 0⟩) ∧
      d.light = l.last? (Incident.reading? (·.light) .light ⟨0⟩) ∧
      d.humidity = l.last? (Incident.reading? (·.humidity) .humidity ⟨0, 0⟩) ∧
      d.hallEffect = l.last? (Incident.reading? (·.hallEffect) .hallEffect ⟨.zero⟩) ∧
      d.accel = l.last? (Incident.sent? (·.accel)) ∧
      d.messageStats = l.last? (Incident.sent? (·.messageStats)) ∧
      d.configSettings = l.last? (Incident.sent? (·.configSettings)) ∧
      d.reportingInterval = l.last? Incident.reporting? ∧
      d.pollingInterval = (l.encounters.filterMap fun e => e.1.polling? e.2).getLast?) ∧
    (∀ i k x, g.incidentAt? i k = some x ↔ ∃ f, i = .frame f ∧ g.Brings f k x) ∧
    (∀ i k d, g.roster.get? k = some d → Input.snapshot? i = none →
      (∀ rssi report, g.incidentAt? i k ≠ some (.reported rssi report)) →
      (∀ rssi fields reporting polling,
        g.incidentAt? i k ≠ some (.configured rssi fields reporting polling)) →
      ∃ d', (empty.after (inputs ++ [i])).roster.get? k = some d' ∧ d' = { d with
        shortAddress := d'.shortAddress
        capability := d'.capability
        status := d'.status }) ∧
    (∀ (d : Device) rssi report mask,
      d.meet (.reported rssi { report with fields := mask }) = d.meet (.reported rssi report)) ∧
    ∀ (d : Device) rssi (m m' : FieldMask) reporting polling,
      m.bits &&& 0x7F = m'.bits &&& 0x7F →
      d.meet (.configured rssi m reporting polling) =
        d.meet (.configured rssi m' reporting polling) := by
  intro g
  refine ⟨fun k d => exists_hasLived, fun k l lived => ⟨l.device, lived.get?, ?_⟩,
    fun i k x => incidentAt?_eq_some_iff_brings,
    fun i k d present unlisted unheard unset => ?_,
    Device.meet_reported_mask,
    fun d rssi m m' reporting polling same => d.meet_configured_mask rssi same reporting polling⟩
  · refine ⟨?_, ?_, ?_, ?_, ?_, ?_, ?_, l.reporting_device, l.polling_device⟩
    · exact l.reading_device (·.temperature) _ _ _ (fun _ => rfl) fun d x => by cases x <;> rfl
    · exact l.reading_device (·.light) _ _ _ (fun _ => rfl) fun d x => by cases x <;> rfl
    · exact l.reading_device (·.humidity) _ _ _ (fun _ => rfl) fun d x => by cases x <;> rfl
    · exact l.reading_device (·.hallEffect) _ _ _ (fun _ => rfl) fun d x => by cases x <;> rfl
    · exact l.sent_device (·.accel) _ (fun _ => rfl) fun d x => by cases x <;> rfl
    · exact l.sent_device (·.messageStats) _ (fun _ => rfl) fun d x => by cases x <;> rfl
    · exact l.sent_device (·.configSettings) _ (fun _ => rfl) fun d x => by cases x <;> rfl
  · rw [after_append]
    exact get?_handle_of_unmeasured present unlisted unheard unset

def warmAndLight : Frame :=
  ⟨rpcSubsystem, Command.deviceDataRxInd.code,
    [2, 1, 0, 0xd6, 5, 0, 0, 0, 0, 0, 0, 0, 0, 3, 0x80, 21, 0, 22, 0, 0x2c, 1], by decide⟩

def measuredAndConfigured : List Input :=
  [joining 1 0x11, warmAndLight, acceptance].map .frame

theorem measuredAndConfigured_stored :
    ∃ d, (empty.after measuredAndConfigured).roster.get? 0 = some d ∧
      d.temperature = some ⟨0, 0⟩ ∧ d.light = some ⟨300⟩ ∧ d.humidity = none ∧
      d.reportingInterval = some 90000 ∧ d.pollingInterval = some .alwaysOn ∧
      ∃ d', (empty.after (measuredAndConfigured ++ [.frame (joining 7 0x11)])).roster.get? 0 =
        some d' ∧ d'.light = d.light := by
  let plain : Capability := ⟨false, false, false, false, false, false⟩
  let report : SensorReport := ⟨⟨0x8003⟩, some ⟨21, 22⟩, some ⟨300⟩, none, none, none, none, none⟩
  have lived : HasLived measuredAndConfigured 0 ⟨⟨1, 0x1122334455667788, plain⟩,
      [.reported (-42) report, .configured (-42) ⟨1⟩ 90000 4000]⟩ :=
    ⟨[], .frame (joining 1 0x11), [warmAndLight, acceptance].map .frame, rfl,
      by decide +kernel, by decide +kernel, by decide +kernel⟩
  have again : (empty.after measuredAndConfigured).incidentAt? (.frame (joining 7 0x11)) 0 =
      some (.joined 7 plain) := by decide +kernel
  obtain ⟨-, stored, -, kept, -⟩ := readings_of_history measuredAndConfigured
  obtain ⟨d, present, temperature, light, humidity, -, -, -, -, reporting, polling⟩ :=
    stored 0 _ lived
  obtain ⟨d', present', same⟩ := kept (.frame (joining 7 0x11)) 0 d present (by decide +kernel)
    (by simp [again]) (by simp [again])
  exact ⟨d, present, by rw [temperature]; decide +kernel, by rw [light]; decide +kernel,
    by rw [humidity]; decide +kernel, by rw [reporting]; decide +kernel,
    by rw [polling]; decide +kernel, d', present', by rw [same]⟩

end Gateway

end CollectorGateway
