import CollectorGateway.Proofs.Extents
import CollectorGateway.Proofs.Gateway.Drops
import CollectorGateway.Proofs.Layout

/-!
Readings and replies are a matter of the frames alone. What a frame reports and
what it is answered with is read off the frame, so any two gateways record and
answer the same, whatever they know. A report gives one reading for each of the
blocks it holds that are single numbers, and a frame that is no complete report
gives none; only the news that the network is up is answered.
-/

namespace CollectorGateway

namespace SensorKind

/-- In the order in which their readings are recorded. -/
def all : List SensorKind := [temperature, light, humidity, hallEffect]

def field : SensorKind → SensorField
  | temperature => .temperature
  | light => .light
  | humidity => .humidity
  | hallEffect => .hallEffect

end SensorKind

namespace SensorReport

def scalar? (r : SensorReport) : SensorKind → Option Double
  | .temperature => r.temperature.map fun t => .ofNat t.ambience.toNat
  | .light => r.light.map fun l => .ofNat l.raw.toNat
  | .humidity => r.humidity.map fun h => .ofNat h.humidity.toNat
  | .hallEffect => r.hallEffect.map fun h => h.flux.toDouble

theorem readings_eq_scalars (r : SensorReport) :
    r.readings = SensorKind.all.filterMap fun k => (r.scalar? k).map (Reading.mk k) := by
  obtain ⟨_, temperature, light, humidity, _, _, hallEffect, _⟩ := r
  cases temperature <;> cases light <;> cases humidity <;> cases hallEffect <;> rfl

theorem Fits.isSome_scalar? {r : SensorReport} (fits : r.Fits) (k : SensorKind) :
    (r.scalar? k).isSome = r.fields.has k.field := by
  rw [← fits k.field]
  cases k <;> exact Option.isSome_map

end SensorReport

def Message.reply? : Message → Option Frame
  | .networkAnswer status _ => if status = 1 then some .getDeviceArray else none
  | _ => none

namespace Frame

def reply? (f : Frame) : Option Frame := f.message?.bind Message.reply?

def Reports (f : Frame) (a : Address) (rssi : Int8) (ext : UInt64) (report : SensorReport)
    (tail : List UInt8) : Prop :=
  f.command = Command.deviceDataRxInd.code ∧ report.Fits ∧
    f.payload = a.toOctets ++ [rssi.toUInt8] ++ ([5] ++ LittleEndian.u64 ext ++ report.spelling) ++
      tail

instance (f : Frame) (a : Address) (rssi : Int8) (ext : UInt64) (report : SensorReport)
    (tail : List UInt8) : Decidable (f.Reports a rssi ext report tail) :=
  inferInstanceAs (Decidable (_ ∧ _ ∧ _))

variable {f : Frame}

theorem Reports.readings {a : Address} {rssi : Int8} {ext : UInt64} {report : SensorReport}
    {tail : List UInt8} (laid : f.Reports a rssi ext report tail) :
    f.readings = report.readings := by
  have told := message?_eq_report_iff.2 ⟨laid.1, laid.2.1, ext, tail, laid.2.2, rfl⟩
  rw [Frame.readings, told]
  rfl

theorem readings_of_not_reports
    (other : ∀ a rssi ext report tail, ¬ f.Reports a rssi ext report tail) : f.readings = [] := by
  cases told : f.message? with
  | none => rw [Frame.readings, told, Option.map_none, Option.getD_none]
  | some m =>
    rw [Frame.readings, told, Option.map_some, Option.getD_some]
    unfold Message.readings
    split
    · obtain ⟨command, fits, ext, tail, laid, -⟩ := message?_eq_report_iff.1 told
      exact absurd ⟨command, fits, laid⟩ (other _ _ ext _ tail)
    · rfl

theorem answersNetwork_iff {status : UInt8} :
    (∃ record, f.message? = some (.networkAnswer status record)) ↔
      f.command = Command.getNwkInfoCnf.code ∧ f.payload.head? = some status ∧
        1 + NetworkRecord.size ≤ f.payload.length := by
  have told : ∀ record, f.message? = some (.networkAnswer status record) ↔ _ :=
    fun record => message?_eq_some_iff rfl
  simp only [told, exists_and_left, Read.message, Read.bind_on_iff, Read.pure_on_iff,
    Read.u8_on_iff]
  refine and_congr_right fun _ => ?_
  constructor
  · rintro ⟨record, c', c, s, first, c₁, record', read, same, -⟩
    obtain ⟨rfl, rfl⟩ := Message.networkAnswer.inj same
    have begins : f.payload = s :: c.rest := first.rest
    have long := (Read.takes_networkRecord.succeeds_iff c).1 ⟨_, _, read⟩
    rw [Cursor.remaining] at long
    rw [begins, List.length_cons]
    exact ⟨rfl, by omega⟩
  · rintro ⟨begins, long⟩
    obtain ⟨rest, laid⟩ : ∃ rest, f.payload = status :: rest := by
      cases h : f.payload with
      | nil => simp [h] at begins
      | cons b rest => exact ⟨rest, by simpa [h] using begins⟩
    have first := Cursor.passed_ofOctets Command.getNwkInfoCnf.payloadName [status] rest
    rw [laid, List.length_cons] at long
    have enough : NetworkRecord.size ≤ rest.length := by omega
    obtain ⟨record, c', read⟩ :=
      (Read.takes_networkRecord.succeeds_iff ⟨_, 0 + [status].length, rest⟩).2 enough
    rw [laid]
    exact ⟨record, c', _, status, first, c', record, read, rfl, rfl⟩

theorem reply?_eq_some_iff {r : Frame} : f.reply? = some r ↔
    r = .getDeviceArray ∧ f.command = Command.getNwkInfoCnf.code ∧ f.payload.head? = some 1 ∧
      1 + NetworkRecord.size ≤ f.payload.length := by
  have answers : ∀ m, Message.reply? m = some r ↔
      r = .getDeviceArray ∧ ∃ record, m = .networkAnswer 1 record := by
    intro m
    cases m with
    | networkAnswer status record =>
      simp only [Message.reply?, Option.ite_none_right_eq_some, Option.some.injEq,
        Message.networkAnswer.injEq, exists_and_left, exists_eq', and_true]
      exact and_comm.trans (and_congr_left fun _ => eq_comm)
    | _ => simp [Message.reply?]
  rw [← answersNetwork_iff, reply?, Option.bind_eq_some_iff]
  simp only [answers]
  constructor
  · rintro ⟨m, told, same, record, rfl⟩
    exact ⟨same, record, told⟩
  · rintro ⟨same, record, told⟩
    exact ⟨_, told, same, record, rfl⟩

end Frame

namespace Gateway

theorem readings_updateDevice (g : Gateway) (a : Address) (before : List Effect)
    (f : Device → Device) :
    (g.updateDevice a before f).readings = before.filterMap Effect.reading? := by
  obtain ⟨-, h⟩ | ⟨_, _, _, -, -, -, h⟩ := g.updateDevice_cases a before f
  · rw [h]
    rfl
  · rw [h, Outcome.readings, List.filterMap_append]
    exact List.append_nil _

theorem readings_describeNetwork (g : Gateway) (record : NetworkRecord) :
    (g.describeNetwork record).readings = [] := by
  simp [describeNetwork, Outcome.readings, (areNotes_stateNotes record.state).readings,
    List.filterMap_cons]

theorem readings_take (g : Gateway) (c : Command) (m : Message) :
    (g.take c m).readings = m.readings := by
  cases m with
  | networkAnswer status record =>
    simp only [take]
    split
    · exact g.readings_describeNetwork record
    · rfl
  | network record => exact g.readings_describeNetwork record
  | joined short ext capability =>
    obtain ⟨front, d, back, -, -, -, h⟩ | ⟨-, h⟩ := g.roster.join_cases short ext capability
    · simp [take, joinDevice, h, deviceEvent, Roster.get?_split, Outcome.readings,
        List.filterMap_cons, Message.readings]
    · simp [take, joinDevice, h, deviceEvent, Roster.get?, Outcome.readings, List.filterMap_cons,
        Message.readings]
  | inactive short timeout =>
    have silent := g.readings_updateDevice (.short short) [] Device.deactivate
    simp only [take, deactivateDevice]
    split <;> exact silent
  | fromSensor a rssi message =>
    cases message with
    | data report trailing =>
      rw [take, takeReport, readings_updateDevice, List.filterMap_append, Effect.readings_records]
      split <;> rfl
    | config status fields reporting polling =>
      simp only [take, takeConfig]
      split
      · exact g.readings_updateDevice a [] _
      · have silent := g.readings_updateDevice a [] id
        split <;> exact silent
    | other inner | unknown inner => rfl
  | stateChanged code =>
    simp only [take, changeState]
    split
    · rfl
    · simp [Outcome.readings, (areNotes_stateNotes code).readings, List.filterMap_cons,
        Message.readings]
  | roster status entries | joinPermit status => rfl
  | sent | unhandled => rfl

theorem reply_take (g : Gateway) (c : Command) (m : Message) :
    (g.take c m).reply = m.reply? := by
  cases m with
  | networkAnswer status record =>
    simp only [take, Message.reply?]
    split <;> rfl
  | joined short ext capability => rfl
  | inactive short timeout =>
    simp only [take, deactivateDevice, updateDevice]
    split <;> split <;> rfl
  | fromSensor a rssi message =>
    cases message with
    | data report trailing =>
      simp only [take, takeReport, updateDevice]
      split <;> rfl
    | config status fields reporting polling =>
      simp only [take, takeConfig, updateDevice]
      repeat' split
      all_goals rfl
    | other inner | unknown inner => rfl
  | stateChanged code =>
    simp only [take, changeState]
    split <;> rfl
  | network record | roster status entries | joinPermit status => rfl
  | sent | unhandled => rfl

theorem readings_dispatch (g : Gateway) (f : Frame) : (g.dispatch f).readings = f.readings := by
  obtain ⟨unread, -, -, -, none⟩ | ⟨c, m, -, read, -, -, -, same⟩ := g.dispatch_cases f
  · rw [none, Frame.readings, unread]
    rfl
  · rw [same, readings_take, Frame.readings, read]
    rfl

theorem reply_dispatch (g : Gateway) (f : Frame) : (g.dispatch f).reply = f.reply? := by
  obtain ⟨unread, -, none, -⟩ | ⟨c, m, -, read, -, same, -⟩ := g.dispatch_cases f
  · rw [none, Frame.reply?, unread]
    rfl
  · rw [same, reply_take, Frame.reply?, read]
    rfl

theorem gathered_frames {α : Type} {gather : Outcome → α} {tell : Frame → α}
    (same : ∀ (g : Gateway) (f : Frame), gather (g.dispatch f) = tell f) (g : Gateway)
    (fs : List Frame) : (g.outcomes (fs.map .frame)).map gather = fs.map tell := by
  induction fs generalizing g with
  | nil => rfl
  | cons f rest ih =>
    have later := ih (g.dispatch f).gateway
    simp only [List.map_cons, outcomes, handle, same, later]

/-- Any two gateways record the same readings and send the same replies: one reading for each
block of a report that is a single number, in the order of the kinds, and the question for
all devices to each confirmation that the network is up. -/
theorem telemetry_of_frames (fs : List Frame) :
    (∀ g h : Gateway,
      (g.outcomes (fs.map .frame)).map Outcome.readings =
        (h.outcomes (fs.map .frame)).map Outcome.readings ∧
      (g.outcomes (fs.map .frame)).map Outcome.reply =
        (h.outcomes (fs.map .frame)).map Outcome.reply) ∧
    (∀ g : Gateway, g.recorded (fs.map .frame) = fs.flatMap Frame.readings) ∧
    (∀ f a rssi ext report tail, Frame.Reports f a rssi ext report tail →
      f.readings = SensorKind.all.filterMap (fun k => (report.scalar? k).map (Reading.mk k)) ∧
      ∀ k, (report.scalar? k).isSome = report.fields.has k.field) ∧
    (∀ f, (∀ a rssi ext report tail, ¬ Frame.Reports f a rssi ext report tail) →
      f.readings = []) ∧
    ∀ (g : Gateway) (f r : Frame), (g.dispatch f).reply = some r ↔
      r = .getDeviceArray ∧ f.command = Command.getNwkInfoCnf.code ∧
        f.payload.head? = some 1 ∧ 1 + NetworkRecord.size ≤ f.payload.length := by
  have readings := gathered_frames readings_dispatch
  have replies := gathered_frames reply_dispatch
  refine ⟨fun g h => ⟨?_, ?_⟩, fun g => ?_, fun f a rssi ext report tail laid => ⟨?_, ?_⟩,
    fun f other => Frame.readings_of_not_reports other, fun g f r => ?_⟩
  · rw [readings, readings]
  · rw [replies, replies]
  · rw [recorded, List.flatMap_def, readings, ← List.flatMap_def]
  · rw [laid.readings, report.readings_eq_scalars]
  · exact laid.2.1.isSome_scalar?
  · rw [reply_dispatch, Frame.reply?_eq_some_iff]

def brokenReport : Frame :=
  ⟨rpcSubsystem, Command.deviceDataRxInd.code,
    [2, 0x55, 0, 0xd6, 5, 0, 0, 0, 0, 0, 0, 0, 0, 2, 0, 0x2c], by decide⟩

/-- The readings of a device are recorded by a gateway that knows it as by one that
does not. -/
theorem report_recorded_by_strangers :
    let known := empty.after [.frame (joining 0x55 0x11)]
    let fs := [strangersReport, brokenReport, networkUp]
    (known.outcomes (fs.map .frame)).map Outcome.readings =
      (empty.outcomes (fs.map .frame)).map Outcome.readings ∧
    empty.recorded (fs.map .frame) = [⟨.light, .ofNat 300⟩] ∧
    strangersReport.readings = [⟨.light, .ofNat 300⟩] ∧ brokenReport.readings = [] ∧
    (known.dispatch networkUp).reply = some .getDeviceArray := by
  intro known fs
  obtain ⟨alike, recorded, whole, broken, answered⟩ := telemetry_of_frames fs
  let report : SensorReport := ⟨⟨2⟩, none, some ⟨300⟩, none, none, none, none, none⟩
  have laid : strangersReport.Reports (.short 0x55) (-42) 0 report [] := by decide +kernel
  have unread : brokenReport.message? = none := by decide +kernel
  have told := (whole _ _ _ _ _ _ laid).1
  have untold : brokenReport.readings = [] := by
    apply broken
    intro a rssi ext report tail cut
    have read := Frame.message?_eq_report_iff.2 ⟨cut.1, cut.2.1, ext, tail, cut.2.2, rfl⟩
    rw [unread] at read
    contradiction
  have silent : networkUp.readings = [] := by decide +kernel
  refine ⟨(alike known empty).1, ?_, told, untold, (answered _ _ _).2 (by decide +kernel)⟩
  rw [recorded]
  simp only [fs, List.flatMap_cons, List.flatMap_nil, told, untold, silent]
  rfl

end Gateway

end CollectorGateway
