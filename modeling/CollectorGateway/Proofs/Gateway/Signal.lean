import CollectorGateway.Proofs.Gateway.Incidents

/-!
The signal strength of a device. A report brings its own and makes the device
active; an accepted configuration makes the device active too, but the signal
strength it came with is not kept. So what is stored is that of the last report,
which is that of the last message heard only if no configuration came after it
with another.
-/

namespace CollectorGateway

namespace Incident

def reportedSignal? : Incident → Option Int8
  | .reported rssi _ => some rssi
  | _ => none

/-- The signal strength of a report or of an accepted configuration. -/
def heardSignal? : Incident → Option Int8
  | .reported rssi _ | .configured rssi _ _ _ => some rssi
  | _ => none

end Incident

theorem Life.rssi_device (l : Life) : l.device.rssi = l.last? Incident.reportedSignal? := by
  have last := l.value_device (·.rssi) Incident.reportedSignal? fun d x => by cases x <;> rfl
  rw [last]
  exact Option.or_none

namespace Life

def lastHeard? (l : Life) : Option Incident :=
  (l.incidents.filter fun x => x.heardSignal?.isSome).getLast?

theorem reported_eq_heard_iff (l : Life) :
    l.last? Incident.reportedSignal? = l.last? Incident.heardSignal? ↔
      ∀ rssi fields reporting polling,
        l.lastHeard? = some (.configured rssi fields reporting polling) →
        l.last? Incident.reportedSignal? = some rssi := by
  obtain ⟨record, incidents⟩ := l
  induction incidents using List.reverseRecOn with
  | nil => simp [last?, lastHeard?]
  | append_singleton incidents x ih =>
    cases x with
    | joined | silenced => simpa [last?, lastHeard?, Incident.reportedSignal?,
        Incident.heardSignal?] using ih
    | reported rssi report =>
      simp [last?, lastHeard?, Incident.reportedSignal?, Incident.heardSignal?]
    | configured rssi fields reporting polling =>
      -- It is the last one heard itself, so all depends on the reports before it.
      let l : Life := ⟨record, incidents ++ [.configured rssi fields reporting polling]⟩
      have heard : l.last? Incident.heardSignal? = some rssi := by
        simp [l, last?, Incident.heardSignal?]
      have latest : l.lastHeard? = some (.configured rssi fields reporting polling) := by
        simp [l, lastHeard?, Incident.heardSignal?]
      rw [heard, latest]
      constructor
      · intro same r f m n which
        cases which
        exact same
      · intro same
        exact same rssi fields reporting polling rfl

end Life

namespace Gateway

/-- A device has the signal strength of the last report since it was made, or none. This is that
of the last message heard unless that is a configuration which came with another. -/
theorem signal_of_history (inputs : List Input) :
    let g := empty.after inputs
    (∀ f k rssi report, g.Brings f k (.reported rssi report) →
      ∃ d', d'.status = .active ∧ d'.rssi = some rssi ∧
        ∀ j, (empty.after (inputs ++ [.frame f])).roster.get? j =
          if j = k then some d' else g.roster.get? j) ∧
    (∀ f k rssi fields reporting polling,
      g.Brings f k (.configured rssi fields reporting polling) →
      ∃ d d', g.roster.get? k = some d ∧ d'.status = .active ∧ d'.rssi = d.rssi ∧
        ∀ j, (empty.after (inputs ++ [.frame f])).roster.get? j =
          if j = k then some d' else g.roster.get? j) ∧
    (∀ i k x, g.incidentAt? i k = some x ↔ ∃ f, i = .frame f ∧ g.Brings f k x) ∧
    (∀ k d, g.roster.get? k = some d → ∃ l, HasLived inputs k l) ∧
    ∀ k l, HasLived inputs k l → ∃ d, g.roster.get? k = some d ∧
      d.rssi = l.last? Incident.reportedSignal? ∧
      (d.rssi = l.last? Incident.heardSignal? ↔ ∀ rssi fields reporting polling,
        l.lastHeard? = some (.configured rssi fields reporting polling) →
        l.last? Incident.reportedSignal? = some rssi) := by
  intro g
  refine ⟨fun f k rssi report brings => ?_, fun f k rssi fields reporting polling brings => ?_,
    fun i k x => incidentAt?_eq_some_iff_brings, fun k d => exists_hasLived, fun k l lived => ?_⟩
  · obtain ⟨d, -, changed⟩ := get?_handle_incident (brings_iff.1 brings)
    rw [after_append]
    exact ⟨d.applyReport rssi report, rfl, rfl, changed⟩
  · obtain ⟨d, present, changed⟩ := get?_handle_incident (brings_iff.1 brings)
    rw [after_append]
    exact ⟨d, d.applyConfig fields reporting polling, present, rfl, rfl, changed⟩
  · refine ⟨l.device, lived.get?, l.rssi_device, ?_⟩
    rw [l.rssi_device]
    exact l.reported_eq_heard_iff

def heardAtWeak : Frame :=
  ⟨rpcSubsystem, Command.deviceDataRxInd.code,
    [2, 1, 0, 0xba, 5, 0, 0, 0, 0, 0, 0, 0, 0, 0, 0], by decide⟩

theorem report_then_configuration_keep_signal :
    let joined : List Input := [.frame (joining 1 0x11)]
    let heard : List Input := joined ++ [.frame heardAtWeak]
    (∃ d, (empty.after heard).roster.get? 0 = some d ∧ d.rssi = some (-70)) ∧
    ∃ d, (empty.after (heard ++ [.frame acceptance])).roster.get? 0 = some d ∧
      d.status = .active ∧ d.rssi = some (-70) := by
  intro joined heard
  let nothing : SensorReport := ⟨⟨0⟩, none, none, none, none, none, none, none⟩
  have reports : (empty.after joined).Brings heardAtWeak 0 (.reported (-70) nothing) := by
    decide +kernel
  have configures : (empty.after heard).Brings acceptance 0
      (.configured (-42) ⟨1⟩ 90000 4000) := by
    decide +kernel
  obtain ⟨reported, -, -, -, -⟩ := signal_of_history joined
  obtain ⟨-, configured, -, -, -⟩ := signal_of_history heard
  obtain ⟨d, -, rssi, changed⟩ := reported heardAtWeak 0 (-70) nothing reports
  obtain ⟨e, e', present, status, same, changed'⟩ :=
    configured acceptance 0 (-42) ⟨1⟩ 90000 4000 configures
  have first : (empty.after heard).roster.get? 0 = some d := (changed 0).trans (if_pos rfl)
  obtain rfl : d = e := Option.some.inj (first.symm.trans present)
  exact ⟨⟨d, first, rssi⟩, e', (changed' 0).trans (if_pos rfl), status, same.trans rssi⟩

/-- A device is heard for the first time as it takes over a configuration, and has
no signal strength. -/
theorem configured_device_without_signal :
    let joined : List Input := [.frame (joining 1 0x11)]
    let inputs := joined ++ [.frame acceptance]
    let life : Life := ⟨⟨1, 0x1122334455667788, ⟨false, false, false, false, false, false⟩⟩,
      [.configured (-42) ⟨1⟩ 90000 4000]⟩
    (empty.after joined).Brings acceptance 0 (.configured (-42) ⟨1⟩ 90000 4000) ∧
    (¬ ∃ d, (empty.after inputs).roster.get? 0 = some d ∧ d.rssi = some (-42)) ∧
    HasLived inputs 0 life ∧
    ¬ ∃ d, (empty.after inputs).roster.get? 0 = some d ∧
      d.rssi = life.last? Incident.heardSignal? := by
  intro joined inputs life
  have configures : (empty.after joined).Brings acceptance 0
      (.configured (-42) ⟨1⟩ 90000 4000) := by
    decide +kernel
  have lived : HasLived inputs 0 life :=
    ⟨[], .frame (joining 1 0x11), [.frame acceptance], rfl, by decide +kernel,
      by decide +kernel, by decide +kernel⟩
  have heard : life.last? Incident.heardSignal? = some (-42) := by decide +kernel
  have without : ¬ ∃ d, (empty.after inputs).roster.get? 0 = some d ∧ d.rssi = some (-42) := by
    rintro ⟨d, present, rssi⟩
    have stored : ((empty.after inputs).roster.get? 0).map (·.rssi) = some none := by
      decide +kernel
    rw [present, Option.map_some, rssi] at stored
    contradiction
  rw [heard]
  exact ⟨configures, without, lived, without⟩

end Gateway

end CollectorGateway
