import CollectorGateway.Proofs.Gateway.Drops
import CollectorGateway.Proofs.Gateway.Identity
import CollectorGateway.Proofs.Gateway.Incidents

/-!
Messages that name a device by both of its addresses. The message of a silent
device and the report under a short address carry the extended address as well,
but it is passed over: the device that changes and is published is the first one
with the short address. It is the one with the extended address exactly if no
other holds the short address before it.
-/

namespace CollectorGateway

/-- The frame tells of a device's silence or holds its report, and carries both a
short and an extended address. -/
def Frame.NamesBoth (f : Frame) (short : UInt16) (ext : UInt64) : Prop :=
  (f.command = Command.deviceNotActiveUpdateInd.code ∧ ∃ network timeout tail,
    f.payload = LittleEndian.u16 network ++ LittleEndian.u16 short ++ LittleEndian.u64 ext ++
      [timeout] ++ tail) ∨
  (f.command = Command.deviceDataRxInd.code ∧
    ∃ (rssi : Int8) (report : SensorReport) (tail : List UInt8), report.Fits ∧
      f.payload = (Address.short short).toOctets ++ [rssi.toUInt8] ++
        ([5] ++ LittleEndian.u64 ext ++ report.spelling) ++ tail)

theorem Frame.NamesBoth.incident {f : Frame} {short : UInt16} {ext : UInt64}
    (named : f.NamesBoth short ext) :
    ∃ m x, f.message? = some m ∧ m.incident? = some (.short short, x) := by
  obtain ⟨command, network, timeout, tail, laid⟩ | ⟨command, rssi, report, tail, fits, laid⟩ :=
    named
  · have read := Frame.message?_eq_inactive_iff.2 ⟨command, network, ext, tail, laid⟩
    exact ⟨_, _, read, rfl⟩
  · have read := Frame.message?_eq_report_iff.2 ⟨command, fits, ext, tail, laid, rfl⟩
    exact ⟨_, _, read, rfl⟩

namespace Gateway

variable {g : Gateway} {a : Address} {k : Nat} {d : Device}

theorem events_updateDevice (there : g.roster.find? a = some k) (present : g.roster.get? k = some d)
    (before : List Effect) (f : Device → Device) :
    (g.updateDevice a before f).events =
      before.filterMap Effect.event? ++ [.deviceUpdate (f d)] := by
  have changed : (g.roster.modify k f).get? k = some (f d) := by
    rw [Roster.get?_modify, present, Option.map_some, if_pos rfl]
  simp [updateDevice, there, deviceEvent, changed, Outcome.events]

theorem events_take_incident (c : Command) {m : Message} {x : Incident}
    (about : m.incident? = some (a, x)) (there : g.roster.find? a = some k)
    (present : g.roster.get? k = some d) : (g.take c m).events = [.deviceUpdate (d.meet x)] := by
  cases x with
  | joined short capability =>
    obtain ⟨ext, rfl, rfl⟩ := Message.incident?_eq_joined_iff.1 about
    have changed : (g.roster.modify k (·.rejoin short capability)).get? k =
        some (d.rejoin short capability) := by
      rw [Roster.get?_modify, present, Option.map_some, if_pos rfl]
    simp [take, joinDevice, Roster.join, there, deviceEvent, changed, Outcome.events,
      List.filterMap_cons, Device.meet]
  | silenced =>
    obtain ⟨short, timeout, rfl, rfl⟩ := Message.incident?_eq_silenced_iff.1 about
    have published := events_updateDevice there present [] Device.deactivate
    have known : g.roster.find? (.short short) ≠ none := by simp [there]
    simp only [take, deactivateDevice, fault_updateDevice_of_known [] _ known]
    exact published
  | reported rssi report =>
    obtain ⟨trailing, rfl⟩ := Message.incident?_eq_reported_iff.1 about
    let m : Message := .fromSensor a rssi (.data report trailing)
    have quiet := m.areSubdued_beforehand.events
    have published :=
      events_updateDevice there present m.beforehand (·.applyReport rssi report)
    rw [quiet] at published
    exact published
  | configured rssi fields reporting polling =>
    obtain rfl := Message.incident?_eq_configured_iff.1 about
    exact events_updateDevice there present [] (·.applyConfig fields reporting polling)

def ChangesOnly (g : Gateway) (f : Frame) (ext : UInt64) : Prop :=
  ∃ k d d', g.roster.get? k = some d ∧ d.extAddress = ext ∧ d'.extAddress = ext ∧
    (∀ j, (g.dispatch f).gateway.roster.get? j = if j = k then some d' else g.roster.get? j) ∧
    (g.dispatch f).events = [.deviceUpdate d']

theorem ChangesOnly.extAddress {f : Frame} {ext : UInt64} {d' : Device}
    (only : g.ChangesOnly f ext) (published : (g.dispatch f).events = [.deviceUpdate d']) :
    d'.extAddress = ext := by
  obtain ⟨_, _, e, -, -, same, -, told⟩ := only
  rw [published] at told
  obtain rfl : d' = e := by simpa using told
  exact same

/-- A message of a silent device and a report under a short address go to the first
device with the short address; it alone is changed and published. So they go to the
device with the extended address that they carry exactly if this is that device. -/
theorem changesOnly_iff_first (g : Gateway) {f : Frame} {short : UInt16} {ext : UInt64}
    (named : f.NamesBoth short ext) (known : ∃ d ∈ g.roster.devices, d.shortAddress = short) :
    ∃ m x k d, f.message? = some m ∧ m.incident? = some (.short short, x) ∧
      g.roster.find? (.short short) = some k ∧ g.roster.get? k = some d ∧
      (∀ j, (g.dispatch f).gateway.roster.get? j =
        if j = k then some (d.meet x) else g.roster.get? j) ∧
      (g.dispatch f).events = [.deviceUpdate (d.meet x)] ∧
      (g.ChangesOnly f ext ↔ d.extAddress = ext) := by
  obtain ⟨m, x, read, about⟩ := named.incident
  obtain ⟨k, there⟩ : ∃ k, g.roster.find? (.short short) = some k := by
    rw [← Option.ne_none_iff_exists']
    intro missing
    obtain ⟨d, listed, same⟩ := known
    have silent := Roster.find?_eq_none_iff.1 missing d listed
    simp [Device.answersTo, same] at silent
  have brought : g.incidentAt? (.frame f) k = some x :=
    incidentAt?_eq_some_iff.2 ⟨f, m, _, rfl, read, about, there⟩
  obtain ⟨d, present, changed⟩ := get?_handle_incident brought
  have published : (g.dispatch f).events = [.deviceUpdate (d.meet x)] := by
    obtain ⟨unread, -⟩ | ⟨c, m', -, read', -, -, events, -⟩ := g.dispatch_cases f
    · rw [unread] at read
      contradiction
    · obtain rfl : m = m' := Option.some.inj (read.symm.trans read')
      rw [events, events_take_incident c about there present]
  refine ⟨m, x, k, d, read, about, there, present, changed, published, ?_, ?_⟩
  · intro only
    rw [← only.extAddress published, Device.extAddress_meet]
  · intro same
    exact ⟨k, d, d.meet x, present, same, by rw [Device.extAddress_meet, same], changed, published⟩

def silenceOfSecond : Frame :=
  ⟨rpcSubsystem, Command.deviceNotActiveUpdateInd.code,
    [0xdc, 0xac, 1, 0, 0x88, 0x77, 0x66, 0x55, 0x44, 0x33, 0x22, 0x22, 10], by decide⟩

def reportOfSecond : Frame :=
  ⟨rpcSubsystem, Command.deviceDataRxInd.code,
    [2, 1, 0, 0xd6, 5, 0x88, 0x77, 0x66, 0x55, 0x44, 0x33, 0x22, 0x22, 2, 0, 0x2c, 1],
    by decide⟩

theorem namesBoth_silenceOfSecond : silenceOfSecond.NamesBoth 1 0x2222334455667788 :=
  .inl ⟨rfl, 0xacdc, 10, [], by decide +kernel⟩

theorem namesBoth_reportOfSecond : reportOfSecond.NamesBoth 1 0x2222334455667788 :=
  .inr ⟨rfl, -42, ⟨⟨2⟩, none, some ⟨300⟩, none, none, none, none, none⟩, [], by decide +kernel,
    by decide +kernel⟩

def sharedShort : List Input := [joining 1 0x11, joining 1 0x22].map .frame

theorem silence_of_second_goes_to_first :
    silenceOfSecond.NamesBoth 1 0x2222334455667788 ∧
    (∃ d ∈ (empty.after sharedShort).roster.devices, d.shortAddress = 1) ∧
    ∃ d x, (empty.after sharedShort).roster.get? 0 = some d ∧
      d.extAddress = 0x1122334455667788 ∧
      ((empty.after sharedShort).dispatch silenceOfSecond).events = [.deviceUpdate (d.meet x)] := by
  have known : ∃ d ∈ (empty.after sharedShort).roster.devices, d.shortAddress = 1 := by
    decide +kernel
  obtain ⟨m, x, k, d, -, -, there, present, -, published, -⟩ :=
    changesOnly_iff_first (empty.after sharedShort) namesBoth_silenceOfSecond known
  have first : (empty.after sharedShort).roster.find? (.short 1) = some 0 := by decide +kernel
  obtain rfl : 0 = k := Option.some.inj (first.symm.trans there)
  have identity : ((empty.after sharedShort).roster.get? 0).map (·.extAddress) =
      some 0x1122334455667788 := by decide +kernel
  rw [present] at identity
  exact ⟨namesBoth_silenceOfSecond, known, d, x, present, Option.some.inj identity, published⟩

/-- Of two distinct devices under one short address the first is changed, though the
messages carry the extended address of the second. -/
theorem second_device_not_changed :
    let g := empty.after sharedShort
    let ext : UInt64 := 0x2222334455667788
    g.roster.IsDistinct ∧ (∃ d ∈ g.roster.devices, d.shortAddress = 1) ∧
    (∃ d ∈ g.roster.devices, d.extAddress = ext) ∧
    silenceOfSecond.NamesBoth 1 ext ∧ ¬ g.ChangesOnly silenceOfSecond ext ∧
    reportOfSecond.NamesBoth 1 ext ∧ ¬ g.ChangesOnly reportOfSecond ext := by
  intro g ext
  let first : Device := .fresh 1 0x1122334455667788 ⟨false, false, false, false, false, false⟩
  have silenced : (g.dispatch silenceOfSecond).events = [.deviceUpdate first.deactivate] := by
    decide +kernel
  have reported : (g.dispatch reportOfSecond).events =
      [.deviceUpdate { first with rssi := some (-42), light := some ⟨300⟩ }] := by
    decide +kernel
  refine ⟨by decide +kernel, by decide +kernel, by decide +kernel, namesBoth_silenceOfSecond,
    fun only => ?_, namesBoth_reportOfSecond, fun only => ?_⟩
  · have same := only.extAddress silenced
    revert same
    decide +kernel
  · have same := only.extAddress reported
    revert same
    decide +kernel

end Gateway

end CollectorGateway
