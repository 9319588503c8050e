import CollectorGateway.Proofs.Gateway.Lives
import CollectorGateway.Proofs.Layout

/-!
The frames behind what befalls a device. An input brings an incident to a place
of the roster exactly if it is a frame of one command, laid out as that command's
payload is, and the address it carries is found at that place.
-/

namespace CollectorGateway

namespace Message

variable {m : Message} {a : Address}

theorem incident?_eq_joined_iff {short : UInt16} {capability : Capability} :
    m.incident? = some (a, .joined short capability) ↔
      ∃ ext, a = .extended ext ∧ m = .joined short ext capability := by
  unfold incident?
  split <;> grind

theorem incident?_eq_reported_iff {rssi : Int8} {report : SensorReport} :
    m.incident? = some (a, .reported rssi report) ↔
      ∃ trailing, m = .fromSensor a rssi (.data report trailing) := by
  constructor
  · intro h
    unfold incident? at h
    split at h <;> simp_all
  · rintro ⟨trailing, rfl⟩
    rfl

theorem incident?_eq_configured_iff {rssi : Int8} {fields : FieldMask}
    {reporting polling : UInt32} :
    m.incident? = some (a, .configured rssi fields reporting polling) ↔
      m = .fromSensor a rssi (.config 0 fields reporting polling) := by
  unfold incident?
  split <;> grind

theorem incident?_eq_silenced_iff :
    m.incident? = some (a, .silenced) ↔
      ∃ short timeout, a = .short short ∧ m = .inactive short timeout := by
  unfold incident?
  split <;> grind

end Message

namespace Gateway

variable {g : Gateway} {i : Input} {k : Nat}

theorem incidentAt?_eq_some_iff {x : Incident} : g.incidentAt? i k = some x ↔
    ∃ f m a, i = .frame f ∧ f.message? = some m ∧ m.incident? = some (a, x) ∧
      g.roster.find? a = some k := by
  have found : ∀ m, g.roster.incidentAt? m k = some x ↔
      ∃ a, m.incident? = some (a, x) ∧ g.roster.find? a = some k := by
    intro m
    simp only [Roster.incidentAt?, Option.bind_eq_some_iff, Prod.exists,
      Option.ite_none_right_eq_some, Option.some.injEq]
    constructor
    · rintro ⟨a, _, about, there, rfl⟩
      exact ⟨a, about, there⟩
    · rintro ⟨a, about, there⟩
      exact ⟨a, x, about, there, rfl⟩
  cases i with
  | request r => simp [incidentAt?, Input.message?]
  | frame f => simp [incidentAt?, Input.message?, Option.bind_eq_some_iff, found]

theorem get?_handle_incident {x : Incident} (brought : g.incidentAt? i k = some x) :
    ∃ d, g.roster.get? k = some d ∧ ∀ j, (g.handle i).gateway.roster.get? j =
      if j = k then some (d.meet x) else g.roster.get? j := by
  obtain ⟨f, m, a, rfl, read, about, there⟩ := incidentAt?_eq_some_iff.1 brought
  obtain ⟨front, d, back, split, rfl, -⟩ := Roster.split_of_find? there
  have present : g.roster.get? front.length = some d := by simp [Roster.get?, split]
  have unlisted : (Input.frame f).snapshot? = none := by
    rw [Input.snapshot?, read]
    cases m with
    | roster => simp [Message.incident?] at about
    | _ => rfl
  refine ⟨d, present, fun j => ?_⟩
  rw [get?_handle unlisted]
  by_cases here : j = front.length
  · subst here
    rw [present, brought, if_pos rfl]
    rfl
  · have elsewhere : g.incidentAt? (.frame f) j = none := by
      simp [incidentAt?, Input.message?, read, Roster.incidentAt?, about, there, Ne.symm here]
    have unmade : g.creation? (.frame f) j = none := by
      rw [creation?, Input.message?, read]
      cases m with
      | joined short ext capability =>
        obtain ⟨rfl, -⟩ := Prod.mk.inj (Option.some.inj about)
        simp [Roster.creation?, Message.snapshot?, Message.newcomer?, there]
      | roster => simp [Message.incident?] at about
      | _ => rfl
    rw [elsewhere, unmade, if_neg here]
    simp

/-- The frame is laid out as one that brings the incident, and the address that it
carries is found at the place. -/
inductive Brings (g : Gateway) (f : Frame) (k : Nat) : Incident → Prop where
  | joined {short : UInt16} {ext : UInt64} {capability : Capability} {bs tail : List UInt8}
      (command : f.command = Command.deviceJoinedInd.code)
      (spelled : RosterEntry.SpelledBy ⟨short, ext, capability⟩ bs)
      (laid : f.payload = bs ++ tail)
      (there : g.roster.find? (.extended ext) = some k) :
      Brings g f k (.joined short capability)
  | reported {a : Address} {rssi : Int8} {ext : UInt64} {report : SensorReport}
      {tail : List UInt8} (command : f.command = Command.deviceDataRxInd.code)
      (fits : report.Fits)
      (laid : f.payload = a.toOctets ++ [rssi.toUInt8] ++ ([5] ++ LittleEndian.u64 ext ++
        report.spelling) ++ tail)
      (there : g.roster.find? a = some k) :
      Brings g f k (.reported rssi report)
  | configured {a : Address} {rssi : Int8} {fields : FieldMask} {reporting polling : UInt32}
      {tail : List UInt8} (command : f.command = Command.deviceDataRxInd.code)
      (laid : f.payload = a.toOctets ++ [rssi.toUInt8] ++ ([2] ++ LittleEndian.u16 0 ++
        LittleEndian.u16 fields.bits ++ LittleEndian.u32 reporting ++
        LittleEndian.u32 polling) ++ tail)
      (there : g.roster.find? a = some k) :
      Brings g f k (.configured rssi fields reporting polling)
  | silenced {network short : UInt16} {ext : UInt64} {timeout : UInt8} {tail : List UInt8}
      (command : f.command = Command.deviceNotActiveUpdateInd.code)
      (laid : f.payload = LittleEndian.u16 network ++ LittleEndian.u16 short ++
        LittleEndian.u64 ext ++ [timeout] ++ tail)
      (there : g.roster.find? (.short short) = some k) :
      Brings g f k .silenced

theorem incidentAt?_eq_some_iff_brings {x : Incident} :
    g.incidentAt? i k = some x ↔ ∃ f, i = .frame f ∧ g.Brings f k x := by
  rw [incidentAt?_eq_some_iff]
  constructor
  · rintro ⟨f, m, a, rfl, read, about, there⟩
    refine ⟨f, rfl, ?_⟩
    cases x with
    | joined short capability =>
      obtain ⟨ext, rfl, rfl⟩ := Message.incident?_eq_joined_iff.1 about
      obtain ⟨command, bs, tail, spelled, laid⟩ := Frame.message?_eq_joined_iff.1 read
      exact .joined command spelled laid there
    | reported rssi report =>
      obtain ⟨trailing, rfl⟩ := Message.incident?_eq_reported_iff.1 about
      obtain ⟨command, fits, ext, tail, laid, -⟩ := Frame.message?_eq_report_iff.1 read
      exact .reported command fits laid there
    | configured rssi fields reporting polling =>
      obtain rfl := Message.incident?_eq_configured_iff.1 about
      obtain ⟨command, tail, laid⟩ := Frame.message?_eq_config_iff.1 read
      exact .configured command laid there
    | silenced =>
      obtain ⟨short, timeout, rfl, rfl⟩ := Message.incident?_eq_silenced_iff.1 about
      obtain ⟨command, network, ext, tail, laid⟩ := Frame.message?_eq_inactive_iff.1 read
      exact .silenced command laid there
  · rintro ⟨f, rfl, brings⟩
    cases brings with
    | joined command spelled laid there =>
      have read := Frame.message?_eq_joined_iff.2 ⟨command, _, _, spelled, laid⟩
      exact ⟨f, _, _, rfl, read, rfl, there⟩
    | reported command fits laid there =>
      have read := Frame.message?_eq_report_iff.2 ⟨command, fits, _, _, laid, rfl⟩
      exact ⟨f, _, _, rfl, read, rfl, there⟩
    | configured command laid there =>
      have read := Frame.message?_eq_config_iff.2 ⟨command, _, laid⟩
      exact ⟨f, _, _, rfl, read, rfl, there⟩
    | silenced command laid there =>
      have read := Frame.message?_eq_inactive_iff.2 ⟨command, _, _, _, laid⟩
      exact ⟨f, _, _, rfl, read, rfl, there⟩

theorem brings_iff {f : Frame} {x : Incident} :
    g.Brings f k x ↔ g.incidentAt? (.frame f) k = some x := by
  simp [incidentAt?_eq_some_iff_brings]

instance (g : Gateway) (f : Frame) (k : Nat) (x : Incident) : Decidable (g.Brings f k x) :=
  decidable_of_iff _ brings_iff.symm

theorem Input.snapshot?_eq_some_iff {entries : List RosterEntry} :
    i.snapshot? = some entries ↔ ∃ f status count bss tail,
      i = .frame f ∧ f.command = Command.getDeviceArrayCnf.code ∧
      entries.length = UInt16.toNat count ∧ List.Forall₂ RosterEntry.SpelledBy entries bss ∧
      f.payload = [status] ++ LittleEndian.u16 count ++ bss.flatten ++ tail := by
  have lists : ∀ m, Message.snapshot? m = some entries ↔ ∃ status, m = .roster status entries := by
    intro m
    cases m <;> simp [Message.snapshot?]
  cases i with
  | request r => simp [Input.snapshot?]
  | frame f =>
    simp only [Input.snapshot?, Option.bind_eq_some_iff, lists]
    constructor
    · rintro ⟨_, read, status, rfl⟩
      obtain ⟨command, count, bss, tail, long, spelled, laid⟩ := Frame.message?_eq_roster_iff.1 read
      exact ⟨f, status, count, bss, tail, rfl, command, long, spelled, laid⟩
    · rintro ⟨_, status, count, bss, tail, same, command, long, spelled, laid⟩
      cases same
      exact ⟨_, Frame.message?_eq_roster_iff.2 ⟨command, count, bss, tail, long, spelled, laid⟩,
        status, rfl⟩

theorem Input.newcomer?_eq_some_iff {e : RosterEntry} :
    i.newcomer? = some e ↔ ∃ f bs tail, i = .frame f ∧
      f.command = Command.deviceJoinedInd.code ∧ e.SpelledBy bs ∧ f.payload = bs ++ tail := by
  have tells : ∀ m, Message.newcomer? m = some e ↔
      m = .joined e.shortAddress e.extAddress e.capability := by
    intro m
    obtain ⟨short, ext, capability⟩ := e
    cases m <;> simp [Message.newcomer?]
  cases i with
  | request r => simp [Input.newcomer?, Input.message?]
  | frame f =>
    simp only [Input.newcomer?, Input.message?, Option.bind_eq_some_iff, tells]
    constructor
    · rintro ⟨_, read, rfl⟩
      obtain ⟨command, bs, tail, spelled, laid⟩ := Frame.message?_eq_joined_iff.1 read
      exact ⟨f, bs, tail, rfl, command, spelled, laid⟩
    · rintro ⟨_, bs, tail, same, command, spelled, laid⟩
      cases same
      exact ⟨_, Frame.message?_eq_joined_iff.2 ⟨command, bs, tail, spelled, laid⟩, rfl⟩

def acceptance : Frame :=
  ⟨rpcSubsystem, Command.deviceDataRxInd.code,
    [2, 1, 0, 0xd6, 2, 0, 0, 1, 0, 0x90, 0x5f, 1, 0, 0xa0, 0x0f, 0, 0], by decide⟩

end Gateway

end CollectorGateway
