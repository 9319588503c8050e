import CollectorGateway.Proofs.Extents
import CollectorGateway.Proofs.Gateway.Lives
import CollectorGateway.Proofs.Layout

/-!
The description of the network. A record from the collector replaces it whole and a
state code changes its state alone, unless there is none to be changed. So after any
inputs it is that of the last record in the state of the last code since, the record's
own included, and what was told before that record has left no trace in it.
-/

namespace CollectorGateway

namespace NetworkRecord

variable {r : NetworkRecord} {bs : List UInt8}

theorem SpelledBy.length (spelled : r.SpelledBy bs) : bs.length = size := by
  obtain ⟨hopping, security, -, -, rfl⟩ := spelled
  simp [LittleEndian.u16, LittleEndian.u64, size]

theorem exists_spelledBy_append {bs : List UInt8} (long : size ≤ bs.length) :
    ∃ (r : NetworkRecord) (spelling tail : List UInt8),
      r.SpelledBy spelling ∧ bs = spelling ++ tail := by
  obtain ⟨r, c', read⟩ := (Read.takes_networkRecord.succeeds_iff (.ofOctets "" bs)).2 long
  obtain ⟨spelling, spelled, passed⟩ := Read.networkRecord_on_iff.1 read
  exact ⟨r, spelling, c'.rest, spelled, passed.rest⟩

end NetworkRecord

namespace Message

/-- The record by which a message describes the network. An answer without a network
holds nothing of one. -/
def description? : Message → Option NetworkRecord
  | .networkAnswer status r => if status = 1 then some r else none
  | .network r => some r
  | _ => none

def stateCode? : Message → Option UInt8
  | .stateChanged code => some code
  | _ => none

end Message

namespace Frame

variable {f : Frame}

theorem message?_eq_network_iff {r : NetworkRecord} :
    f.message? = some (.network r) ↔ f.command = Command.nwkInfoInd.code ∧
      ∃ bs tail, r.SpelledBy bs ∧ f.payload = bs ++ tail := by
  rw [message?_eq_some_iff rfl]
  refine and_congr_right fun _ => ?_
  simp only [Read.message, Read.map_on_iff, Read.networkRecord_on_iff]
  constructor
  · rintro ⟨c', _, ⟨bs, spelled, passed⟩, same⟩
    obtain rfl := Message.network.inj same
    exact ⟨bs, c'.rest, spelled, passed.rest⟩
  · rintro ⟨bs, tail, spelled, laid⟩
    rw [laid]
    exact ⟨_, r, ⟨bs, spelled, Cursor.passed_ofOctets _ _ tail⟩, rfl⟩

theorem message?_eq_networkAnswer_iff {status : UInt8} {r : NetworkRecord} :
    f.message? = some (.networkAnswer status r) ↔ f.command = Command.getNwkInfoCnf.code ∧
      ∃ bs tail, r.SpelledBy bs ∧ f.payload = status :: bs ++ tail := by
  rw [message?_eq_some_iff rfl]
  refine and_congr_right fun _ => ?_
  simp only [Read.message, Read.bind_on_iff, Read.pure_on_iff, Read.u8_on_iff,
    Read.networkRecord_on_iff]
  constructor
  · rintro ⟨c', _, _, p₁, _, _, ⟨bs, spelled, p₂⟩, same, rfl⟩
    obtain ⟨rfl, rfl⟩ := Message.networkAnswer.inj same
    exact ⟨bs, c'.rest, spelled, (Cursor.passed_append_iff.2 ⟨_, p₁, p₂⟩).rest⟩
  · rintro ⟨bs, tail, spelled, laid⟩
    obtain ⟨_, p₁, p₂⟩ := Cursor.passed_append_iff.1
      (Cursor.passed_ofOctets Command.getNwkInfoCnf.payloadName ([status] ++ bs) tail)
    rw [laid]
    exact ⟨_, _, status, p₁, _, r, ⟨bs, spelled, p₂⟩, rfl, rfl⟩

theorem message?_eq_stateChanged_iff {code : UInt8} :
    f.message? = some (.stateChanged code) ↔ f.command = Command.collectorStateCngInd.code ∧
      f.payload.head? = some code := by
  rw [message?_eq_some_iff rfl]
  refine and_congr_right fun _ => ?_
  simp only [Read.message, Read.map_on_iff, Read.u8_on_iff, Message.stateChanged.injEq,
    exists_eq_right]
  constructor
  · rintro ⟨c', passed⟩
    have laid : f.payload = [code] ++ c'.rest := passed.rest
    rw [laid]
    rfl
  · intro first
    obtain ⟨tail, laid⟩ := List.head?_eq_some_iff.1 first
    rw [laid]
    exact ⟨_, Cursor.passed_ofOctets _ [code] tail⟩

end Frame

def Note.illegalCode? : Note → Option UInt8
  | .illegalState code => some code
  | _ => none

def Effect.illegalCode? (e : Effect) : Option UInt8 := e.note?.bind Note.illegalCode?

@[simp] theorem Effect.illegalCode?_publish (e : Event) : (publish e).illegalCode? = none := rfl

@[simp] theorem Effect.illegalCode?_record (r : Reading) : (record r).illegalCode? = none := rfl

@[simp] theorem Effect.illegalCode?_note (n : Note) : (note n).illegalCode? = n.illegalCode? := rfl

theorem Effect.illegalCode?_of_noteWith (sink : Sink) (receivers : Nat) (e : Effect) :
    (e.noteWith sink receivers).bind Note.illegalCode? = e.illegalCode? := by
  cases e with
  | note n => rfl
  | publish e =>
    simp only [noteWith, Note.published]
    split <;> rfl
  | record r =>
    simp only [noteWith]
    split <;> rfl

def Outcome.illegalCodes (o : Outcome) : List UInt8 := o.effects.filterMap Effect.illegalCode?

theorem Outcome.illegalCodes_of_noteWith (o : Outcome) (sink : Sink) (receivers : Nat) :
    (o.effects.filterMap (·.noteWith sink receivers)).filterMap Note.illegalCode? =
      o.illegalCodes := by
  simp only [List.filterMap_filterMap, Effect.illegalCode?_of_noteWith, illegalCodes]

def NetworkState.complaints (code : UInt8) : List UInt8 := if 6 < code then [code] else []

/-- An outcome that makes a network known in the state of some code: this network is all
that is published, and the code is noted if it has no label. -/
structure Outcome.Describes (o : Outcome) (n : Network) (code : UInt8) : Prop where
  known : o.gateway.network = some n
  published : o.events = [.networkInfo (some n)]
  noted : o.illegalCodes = NetworkState.complaints code

namespace Gateway

open NetworkState (complaints)

namespace Input

def description? (i : Input) : Option NetworkRecord := i.message?.bind Message.description?

def stateCode? (i : Input) : Option UInt8 := i.message?.bind Message.stateCode?

theorem description?_frame_iff {f : Frame} {r : NetworkRecord} :
    (frame f).description? = some r ↔ ∃ bs tail, r.SpelledBy bs ∧
      (f.command = Command.nwkInfoInd.code ∧ f.payload = bs ++ tail ∨
        f.command = Command.getNwkInfoCnf.code ∧ f.payload = 1 :: bs ++ tail) := by
  have told : (frame f).description? = some r ↔
      f.message? = some (.network r) ∨ f.message? = some (.networkAnswer 1 r) := by
    simp only [description?, message?, Option.bind_eq_some_iff]
    constructor
    · rintro ⟨m, read, brings⟩
      cases m with
      | network r' =>
        obtain rfl : r' = r := by simpa [Message.description?] using brings
        exact .inl read
      | networkAnswer status r' =>
        obtain ⟨rfl, rfl⟩ : status = 1 ∧ r' = r := by
          simpa [Message.description?] using brings
        exact .inr read
      | _ => simp [Message.description?] at brings
    · rintro (read | read)
      · exact ⟨_, read, rfl⟩
      · exact ⟨_, read, rfl⟩
  rw [told, Frame.message?_eq_network_iff, Frame.message?_eq_networkAnswer_iff]
  constructor
  · rintro (⟨source, bs, tail, spelled, laid⟩ | ⟨source, bs, tail, spelled, laid⟩)
    · exact ⟨bs, tail, spelled, .inl ⟨source, laid⟩⟩
    · exact ⟨bs, tail, spelled, .inr ⟨source, laid⟩⟩
  · rintro ⟨bs, tail, spelled, ⟨source, laid⟩ | ⟨source, laid⟩⟩
    · exact .inl ⟨source, bs, tail, spelled, laid⟩
    · exact .inr ⟨source, bs, tail, spelled, laid⟩

theorem description?_frame_eq_none_iff {f : Frame} :
    (frame f).description? = none ↔
      ¬ (f.command = Command.nwkInfoInd.code ∧ NetworkRecord.size ≤ f.payload.length ∨
        f.command = Command.getNwkInfoCnf.code ∧ f.payload.head? = some 1 ∧
          1 + NetworkRecord.size ≤ f.payload.length) := by
  rw [Option.eq_none_iff_forall_ne_some, ← not_exists]
  refine not_congr ?_
  simp only [description?_frame_iff]
  constructor
  · rintro ⟨r, bs, tail, spelled, ⟨source, laid⟩ | ⟨source, laid⟩⟩
    · exact .inl ⟨source, by simp [laid, spelled.length]⟩
    · refine .inr ⟨source, by simp [laid], ?_⟩
      simp only [laid, List.length_append, List.length_cons, spelled.length]
      omega
  · rintro (⟨source, long⟩ | ⟨source, first, long⟩)
    · obtain ⟨r, bs, tail, spelled, laid⟩ := NetworkRecord.exists_spelledBy_append long
      exact ⟨r, bs, tail, spelled, .inl ⟨source, laid⟩⟩
    · obtain ⟨rest, whole⟩ := List.head?_eq_some_iff.1 first
      have enough : NetworkRecord.size ≤ rest.length := by
        rw [whole, List.length_cons] at long
        omega
      obtain ⟨r, bs, tail, spelled, rfl⟩ := NetworkRecord.exists_spelledBy_append enough
      exact ⟨r, bs, tail, spelled, .inr ⟨source, whole⟩⟩

theorem stateCode?_frame_iff {f : Frame} {code : UInt8} :
    (frame f).stateCode? = some code ↔
      f.command = Command.collectorStateCngInd.code ∧ f.payload.head? = some code := by
  rw [← Frame.message?_eq_stateChanged_iff, stateCode?, message?, Option.bind_eq_some_iff]
  constructor
  · rintro ⟨m, read, brings⟩
    cases m with
    | stateChanged code' =>
      obtain rfl : code' = code := by simpa [Message.stateCode?] using brings
      exact read
    | _ => simp [Message.stateCode?] at brings
  · intro read
    exact ⟨_, read, rfl⟩

end Input

/-- The network that a message makes known to a gateway with this one, if it does, and
the code that its state is the label of. -/
def change? (network : Option Network) (m : Message) : Option (Network × UInt8) :=
  match m.description? with
  | some r => some (.ofRecord r, r.state)
  | none => m.stateCode?.bind fun code => network.map fun n => (n.withState code, code)

theorem illegalCodes_stateNotes (code : UInt8) :
    (stateNotes code).filterMap Effect.illegalCode? = complaints code := by
  unfold stateNotes complaints
  simp only [NetworkState.ofCode_eq_unknown_iff]
  split <;> rfl

theorem describes_describeNetwork (g : Gateway) (r : NetworkRecord) :
    (g.describeNetwork r).Describes (.ofRecord r) r.state where
  known := rfl
  published := by
    simp [Outcome.events, describeNetwork, (areNotes_stateNotes r.state).events,
      List.filterMap_cons]
  noted := by
    simp [Outcome.illegalCodes, describeNetwork, List.filterMap_append, illegalCodes_stateNotes,
      List.filterMap_cons, Note.illegalCode?]

theorem describes_changeState {g : Gateway} {n : Network} (known : g.network = some n)
    (code : UInt8) : (g.changeState code).Describes (n.withState code) code where
  known := by rw [changeState, known]
  published := by
    simp [changeState, known, Outcome.events, (areNotes_stateNotes code).events,
      List.filterMap_cons]
  noted := by
    simp [changeState, known, Outcome.illegalCodes, List.filterMap_append,
      illegalCodes_stateNotes, List.filterMap_cons, Note.illegalCode?]

theorem describes_take {g : Gateway} {m : Message} {n : Network} {code : UInt8} (c : Command)
    (changed : change? g.network m = some (n, code)) : (g.take c m).Describes n code := by
  cases m with
  | networkAnswer status r =>
    by_cases up : status = 1
    · obtain ⟨rfl, rfl⟩ : Network.ofRecord r = n ∧ r.state = code := by
        simpa [change?, Message.description?, up] using changed
      have described := g.describes_describeNetwork r
      rw [take, if_pos up]
      exact ⟨described.known, described.published, described.noted⟩
    · simp [change?, Message.description?, Message.stateCode?, up] at changed
  | network r =>
    obtain ⟨rfl, rfl⟩ : Network.ofRecord r = n ∧ r.state = code := by
      simpa [change?, Message.description?] using changed
    exact g.describes_describeNetwork r
  | stateChanged code' =>
    obtain ⟨n', known, rfl, rfl⟩ :
        ∃ n', g.network = some n' ∧ n'.withState code' = n ∧ code' = code := by
      simpa [change?, Message.description?, Message.stateCode?] using changed
    exact describes_changeState known code'
  | _ => simp [change?, Message.description?, Message.stateCode?] at changed

structure IsAside (g : Gateway) (o : Outcome) : Prop where
  network : o.gateway.network = g.network
  quiet : o.illegalCodes = []

theorem isAside_updateDevice (g : Gateway) (a : Address) (before : List Effect)
    (f : Device → Device) (quiet : before.filterMap Effect.illegalCode? = []) :
    g.IsAside (g.updateDevice a before f) := by
  obtain ⟨-, h⟩ | ⟨front, d, back, -, -, -, h⟩ := g.updateDevice_cases a before f
  · rw [h]
    exact ⟨rfl, quiet⟩
  · rw [h]
    refine ⟨rfl, ?_⟩
    simp only [Outcome.illegalCodes, List.filterMap_append, quiet, List.nil_append]
    rfl

theorem isAside_deactivateDevice (g : Gateway) (short : UInt16) (timeout : UInt8) :
    g.IsAside (g.deactivateDevice short timeout) := by
  have aside := g.isAside_updateDevice (.short short) [] Device.deactivate rfl
  unfold deactivateDevice
  dsimp only
  split
  · exact ⟨aside.network, aside.quiet⟩
  · exact aside

theorem isAside_takeReport (g : Gateway) (a : Address) (rssi : Int8) (report : SensorReport)
    (trailing : Nat) : g.IsAside (g.takeReport a rssi report trailing) := by
  refine g.isAside_updateDevice a _ _ ?_
  have recorded : Effect.illegalCode? ∘ Effect.record = fun _ => none := rfl
  rw [List.filterMap_append, List.filterMap_map, recorded]
  split <;> simp [Note.illegalCode?]

theorem isAside_takeConfig (g : Gateway) (a : Address) (status : UInt16) (fields : FieldMask)
    (reporting polling : UInt32) :
    g.IsAside (g.takeConfig a status fields reporting polling) := by
  unfold takeConfig
  split
  · exact g.isAside_updateDevice a _ _ rfl
  · have aside := g.isAside_updateDevice a [] id rfl
    dsimp only
    split
    · exact ⟨aside.network, aside.quiet⟩
    · exact aside

theorem isAside_joinDevice (g : Gateway) (short : UInt16) (ext : UInt64)
    (capability : Capability) : g.IsAside (g.joinDevice short ext capability) := by
  refine ⟨rfl, ?_⟩
  obtain ⟨front, d, back, split, -, -, h⟩ | ⟨new, h⟩ := g.roster.join_cases short ext capability
  · simp [joinDevice, h, deviceEvent, Roster.get?_split, Outcome.illegalCodes, joinNote,
      Note.illegalCode?, List.filterMap_cons]
  · simp [joinDevice, h, deviceEvent, Roster.get?, Outcome.illegalCodes, joinNote,
      Note.illegalCode?, List.filterMap_cons]

theorem isAside_take {g : Gateway} {m : Message} (c : Command)
    (same : change? g.network m = none) : g.IsAside (g.take c m) := by
  cases m with
  | networkAnswer status r =>
    by_cases up : status = 1
    · simp [change?, Message.description?, up] at same
    · rw [take, if_neg up]
      exact ⟨rfl, rfl⟩
  | network r => simp [change?, Message.description?] at same
  | stateChanged code =>
    have unknown : g.network = none := by
      simpa [change?, Message.description?, Message.stateCode?] using same
    rw [take, changeState, unknown]
    exact ⟨rfl, rfl⟩
  | joined short ext capability => exact g.isAside_joinDevice short ext capability
  | inactive short timeout => exact g.isAside_deactivateDevice short timeout
  | fromSensor a rssi message =>
    cases message with
    | data report trailing => exact g.isAside_takeReport a rssi report trailing
    | config status fields reporting polling =>
      exact g.isAside_takeConfig a status fields reporting polling
    | other | unknown => exact ⟨rfl, rfl⟩
  | _ => exact ⟨rfl, rfl⟩

theorem illegalCodes_dispatch (g : Gateway) (f : Frame) :
    (g.dispatch f).illegalCodes = [] ∧ f.message? = none ∨
      ∃ c m, f.message? = some m ∧ (g.dispatch f).illegalCodes = (g.take c m).illegalCodes := by
  have foreign : (foreignNotes f.subsystem).filterMap Effect.illegalCode? = [] := by
    unfold foreignNotes
    split <;> rfl
  have dropped (c : Command) (fault : Option Fault) :
      (dropNotes c fault).filterMap Effect.illegalCode? = [] := by
    cases fault <;> rfl
  unfold dispatch Frame.message?
  cases hc : Command.ofCode? f.command with
  | none =>
    left
    simp [stay, Outcome.illegalCodes, foreign, Note.illegalCode?]
  | some c =>
    simp only [takePayload, Option.bind_some, Outcome.illegalCodes, List.filterMap_append,
      List.filterMap_cons, foreign, dropped, Effect.illegalCode?_note, Note.illegalCode?,
      List.nil_append, List.append_nil]
    cases Message.ofPayload c f.payload with
    | error fault => exact .inl ⟨rfl, rfl⟩
    | ok m => exact .inr ⟨c, m, rfl, rfl⟩

theorem fault_dispatch {f : Frame} {m : Message} (g : Gateway) (told : f.message? = some m) :
    ∃ c, (g.dispatch f).fault = (g.take c m).fault := by
  obtain ⟨c, hc, hm⟩ := Option.bind_eq_some_iff.1 told
  refine ⟨c, ?_⟩
  simp only [dispatch, hc, takePayload]
  cases read : Message.ofPayload c f.payload with
  | error e => simp [read, Except.toOption] at hm
  | ok m' =>
    obtain rfl : m' = m := by simpa [read, Except.toOption] using hm
    rfl

def Input.change? (g : Gateway) (i : Input) : Option (Network × UInt8) :=
  i.message?.bind (Gateway.change? g.network)

theorem describes_handle {g : Gateway} {i : Input} {n : Network} {code : UInt8}
    (changed : i.change? g = some (n, code)) : (g.handle i).Describes n code := by
  obtain ⟨m, told, changes⟩ := Option.bind_eq_some_iff.1 changed
  cases i with
  | frame f =>
    have told : f.message? = some m := told
    obtain ⟨unread, -⟩ | ⟨c, m', -, read, gateway, -, events, -⟩ := g.dispatch_cases f
    · simp [told] at unread
    · obtain ⟨-, unread⟩ | ⟨c', m'', read', codes⟩ := g.illegalCodes_dispatch f
      · simp [told] at unread
      · obtain rfl : m = m' := Option.some.inj (told.symm.trans read)
        obtain rfl : m = m'' := Option.some.inj (told.symm.trans read')
        have first := describes_take c changes
        exact ⟨(congrArg network gateway).trans first.known, events.trans first.published,
          codes.trans (describes_take c' changes).noted⟩
  | request r => simp [Input.message?] at told

theorem isAside_handle {g : Gateway} {i : Input} (same : i.change? g = none) :
    g.IsAside (g.handle i) := by
  cases i with
  | frame f =>
    have aside : ∀ c m, f.message? = some m → g.IsAside (g.take c m) := fun c m told =>
      isAside_take c (Option.bind_eq_none_iff.1 same m told)
    constructor
    · obtain ⟨-, gateway, -⟩ | ⟨c, m, -, read, gateway, -⟩ := g.dispatch_cases f
      · exact congrArg network gateway
      · exact (congrArg network gateway).trans (aside c m read).network
    · obtain ⟨silent, -⟩ | ⟨c, m, read, codes⟩ := g.illegalCodes_dispatch f
      · exact silent
      · exact codes.trans (aside c m read).quiet
  | request r =>
    constructor
    · exact congrArg network (g.gateway_answer r)
    · cases r with
      | getNetworkInfo | getDeviceArray | setPermitJoin => rfl
      | sendToggle | sendConfig =>
        simp only [handle, answer, sendTo]
        split <;> rfl

section Change

variable {g : Gateway} {i : Input} {r : NetworkRecord} {code : UInt8}

theorem Input.change?_of_description (brings : i.description? = some r) :
    i.change? g = some (.ofRecord r, r.state) := by
  obtain ⟨m, told, record⟩ := Option.bind_eq_some_iff.1 brings
  simp [Input.change?, Gateway.change?, told, record]

theorem Input.change?_of_no_description (undescribed : i.description? = none) :
    i.change? g = i.stateCode?.bind fun code => g.network.map fun n => (n.withState code, code) := by
  cases told : i.message? with
  | none => simp [Input.change?, stateCode?, told]
  | some m =>
    have bare : m.description? = none := by simpa [description?, told] using undescribed
    simp [Input.change?, Gateway.change?, stateCode?, told, bare]

theorem Input.description?_of_stateCode (brings : i.stateCode? = some code) :
    i.description? = none := by
  obtain ⟨m, told, changes⟩ := Option.bind_eq_some_iff.1 brings
  cases m with
  | stateChanged => simp [description?, told, Message.description?]
  | _ => simp [Message.stateCode?] at changes

theorem describes_of_stateCode {n : Network} (brings : i.stateCode? = some code)
    (known : g.network = some n) : (g.handle i).Describes (n.withState code) code := by
  refine describes_handle ?_
  rw [i.change?_of_no_description (i.description?_of_stateCode brings), brings, known]
  rfl

theorem drops_of_stateCode (brings : i.stateCode? = some code) (unknown : g.network = none) :
    g.Drops i := by
  obtain ⟨m, told, changes⟩ := Option.bind_eq_some_iff.1 brings
  cases i with
  | frame f =>
    obtain ⟨c, failed⟩ := g.fault_dispatch told
    cases m with
    | stateChanged code' =>
      right
      rw [failed, take, changeState, unknown]
      exact Option.some_ne_none _
    | _ => simp [Message.stateCode?] at changes
  | request r => simp [Input.message?] at told

theorem network_handle_of_no_description (undescribed : i.description? = none) :
    (g.handle i).gateway.network =
      g.network.map fun n => (i.stateCode?.map n.withState).getD n := by
  have changes := i.change?_of_no_description (g := g) undescribed
  cases code : i.stateCode? with
  | none =>
    rw [code] at changes
    rw [(isAside_handle changes).network]
    exact Option.map_id'.symm
  | some code' =>
    cases known : g.network with
    | none =>
      rw [code, known] at changes
      exact (isAside_handle changes).network.trans known
    | some n => exact (describes_of_stateCode code known).known

end Change

theorem network_after_of_no_description (g : Gateway) {inputs : List Input}
    (undescribed : ∀ i ∈ inputs, i.description? = none) :
    (g.after inputs).network = g.network.map fun n => { n with
      state := ((inputs.filterMap Input.stateCode?).getLast?.map .ofCode).getD n.state } := by
  induction inputs using List.reverseRecOn with
  | nil => exact Option.map_id'.symm
  | append_singleton inputs i ih =>
    have earlier := ih fun j hj => undescribed j (List.mem_append_left _ hj)
    have step := network_handle_of_no_description (g := g.after inputs)
      (undescribed i (List.mem_append_right _ (List.mem_singleton_self i)))
    rw [after_append]
    simp only [after]
    rw [step, earlier, Option.map_map, List.filterMap_append]
    congr 1
    funext n
    cases code : i.stateCode? with
    | none => simp [code]
    | some code' => simp [code, Network.withState]

theorem last_description_cases (inputs : List Input) :
    (∀ i ∈ inputs, i.description? = none) ∨ ∃ before i r later,
      inputs = before ++ i :: later ∧ i.description? = some r ∧
        ∀ j ∈ later, j.description? = none := by
  induction inputs with
  | nil => exact .inl fun i hi => absurd hi List.not_mem_nil
  | cons i rest ih =>
    obtain undescribed | ⟨before, j, r, later, rfl, brings, after⟩ := ih
    · cases brings : i.description? with
      | none => exact .inl (List.forall_mem_cons.2 ⟨brings, undescribed⟩)
      | some r => exact .inr ⟨[], i, r, rest, rfl, brings, undescribed⟩
    · exact .inr ⟨i :: before, j, r, later, rfl, brings, after⟩

theorem network_after_description (g : Gateway) (before : List Input) {later : List Input}
    {i : Input} {r : NetworkRecord} (brings : i.description? = some r)
    (undescribed : ∀ j ∈ later, j.description? = none) :
    (g.after (before ++ i :: later)).network = some { Network.ofRecord r with
      state := .ofCode ((later.filterMap Input.stateCode?).getLast?.getD r.state) } := by
  have described := describes_handle (i.change?_of_description (g := g.after before) brings)
  rw [after_append, after, network_after_of_no_description _ undescribed, described.known,
    Option.map_some]
  simp only [Network.ofRecord, Option.getD_map]

theorem network_eq_none_iff (inputs : List Input) :
    (empty.after inputs).network = none ↔ ∀ i ∈ inputs, i.description? = none := by
  obtain undescribed | ⟨before, i, r, later, rfl, brings, after⟩ := last_description_cases inputs
  · simp only [network_after_of_no_description _ undescribed, empty, Option.map_none, true_iff]
    exact undescribed
  · simp only [network_after_description _ _ brings after, reduceCtorEq, false_iff, not_forall]
    exact ⟨i, by simp, by simp [brings]⟩

/-- The network is that of the last complete record, in the state of the last code since; codes
that come before any record are dropped. Each change is published alone, and a code without
a label noted once. -/
theorem network_of_history (inputs : List Input) :
    let g := empty.after inputs
    (g.network = none ↔ ∀ i ∈ inputs, i.description? = none) ∧
    (∀ later, g.network ≠ none → (empty.after (inputs ++ later)).network ≠ none) ∧
    (∀ n, g.network = some n ↔ ∃ before i r later, inputs = before ++ i :: later ∧
      i.description? = some r ∧ (∀ j ∈ later, j.description? = none) ∧
      n = { Network.ofRecord r with
        state := .ofCode ((later.filterMap Input.stateCode?).getLast?.getD r.state) }) ∧
    (∀ i r, i.description? = some r → (g.handle i).Describes (.ofRecord r) r.state) ∧
    (∀ i code n, i.stateCode? = some code → g.network = some n →
      (g.handle i).Describes { n with state := .ofCode code } code) ∧
    (∀ i code, i.stateCode? = some code → g.network = none →
      g.Drops i ∧ (g.handle i).gateway = g ∧ (g.handle i).events = [] ∧
        (g.handle i).illegalCodes = []) ∧
    (∀ i, i.description? = none → i.stateCode? = none →
      (g.handle i).gateway.network = g.network ∧ (g.handle i).illegalCodes = []) ∧
    (∀ f, f.command = Command.getNwkInfoCnf.code → f.payload.head? ≠ some 1 →
      (g.dispatch f).gateway.network = g.network) ∧
    (∀ i sink receivers,
      ((g.handle i).effects.filterMap (·.noteWith sink receivers)).filterMap Note.illegalCode? =
        (g.handle i).illegalCodes) ∧
    -- which frames bring a record or a state code
    (∀ f r, (Input.frame f).description? = some r ↔ ∃ bs tail, r.SpelledBy bs ∧
      (f.command = Command.nwkInfoInd.code ∧ f.payload = bs ++ tail ∨
        f.command = Command.getNwkInfoCnf.code ∧ f.payload = 1 :: bs ++ tail)) ∧
    (∀ f, (Input.frame f).description? = none ↔
      ¬ (f.command = Command.nwkInfoInd.code ∧ NetworkRecord.size ≤ f.payload.length ∨
        f.command = Command.getNwkInfoCnf.code ∧ f.payload.head? = some 1 ∧
          1 + NetworkRecord.size ≤ f.payload.length)) ∧
    ∀ f code, (Input.frame f).stateCode? = some code ↔
      f.command = Command.collectorStateCngInd.code ∧ f.payload.head? = some code := by
  intro g
  refine ⟨network_eq_none_iff inputs, fun later known => ?_, fun n => ?_, fun i r brings => ?_,
    fun i code n => describes_of_stateCode, fun i code brings unknown => ?_,
    fun i undescribed unchanged => ?_, fun f source down => ?_,
    fun i => (g.handle i).illegalCodes_of_noteWith, fun f r => Input.description?_frame_iff,
    fun f => Input.description?_frame_eq_none_iff, fun f code => Input.stateCode?_frame_iff⟩
  · contrapose! known
    have undescribed := (network_eq_none_iff _).1 known
    exact (network_eq_none_iff _).2 fun i hi => undescribed i (List.mem_append_left _ hi)
  · constructor
    · intro known
      obtain undescribed | ⟨before, i, r, later, split, brings, after⟩ :=
        last_description_cases inputs
      · simp [g, (network_eq_none_iff inputs).2 undescribed] at known
      · have told := network_after_description empty before brings after
        rw [← split] at told
        exact ⟨before, i, r, later, split, brings, after, Option.some.inj (known.symm.trans told)⟩
    · rintro ⟨before, i, r, later, rfl, brings, after, rfl⟩
      exact network_after_description empty _ brings after
  · exact describes_handle (i.change?_of_description brings)
  · have dropped := drops_of_stateCode brings unknown
    have unchanging : i.change? g = none := by
      rw [i.change?_of_no_description (i.description?_of_stateCode brings), brings, unknown]
      rfl
    obtain ⟨same, silent, -⟩ := handle_of_drop dropped
    exact ⟨dropped, same, silent, (isAside_handle unchanging).quiet⟩
  · have aside : g.IsAside (g.handle i) :=
      isAside_handle (by rw [i.change?_of_no_description undescribed, unchanged]; rfl)
    exact ⟨aside.network, aside.quiet⟩
  · have undescribed : (Input.frame f).description? = none := by
      rw [Input.description?_frame_eq_none_iff, source]
      rintro (⟨indication, -⟩ | ⟨-, up, -⟩)
      · exact absurd indication (by decide)
      · exact down up
    have stateless : (Input.frame f).stateCode? = none := by
      rw [Option.eq_none_iff_forall_ne_some]
      intro code brings
      have change := (Input.stateCode?_frame_iff.1 brings).1
      rw [source] at change
      exact absurd change (by decide)
    exact (isAside_handle (i := .frame f)
      (by rw [Input.change?_of_no_description undescribed, stateless]; rfl)).network

def stateChange (code : UInt8) : Frame :=
  ⟨rpcSubsystem, Command.collectorStateCngInd.code, [code], by simp [maxPayload]⟩

def networkOpen : Frame :=
  ⟨rpcSubsystem, Command.nwkInfoInd.code,
    [0xdc, 0xac, 0, 0, 0, 0, 0, 0, 0, 0, 0, 0, 11, 0, 7, 1, 5], by decide⟩

/-- A change of state that comes too early is dropped, and of two late ones the last stays,
though its code has no label. -/
theorem last_state_of_open_network :
    let early : List Input := [.frame (stateChange 9)]
    let late : List Input := [.frame (stateChange 6), .frame (stateChange 9)]
    let g := empty.after (early ++ .frame networkOpen :: late)
    empty.Drops (.frame (stateChange 9)) ∧ (empty.after early).network = none ∧
    g.network = some ⟨false, 11, ⟨0xacdc, 0, 0⟩, true, .beaconEnabled, .unknown⟩ ∧
    (g.handle (.frame (stateChange 9))).illegalCodes = [9] := by
  intro early late g
  let record : NetworkRecord := ⟨0xacdc, 0, 0, 11, false, true, 1, 5⟩
  have brings : Input.description? (.frame networkOpen) = some record := by decide +kernel
  have after : ∀ j ∈ late, j.description? = none := by decide +kernel
  have code : Input.stateCode? (.frame (stateChange 9)) = some 9 := by decide +kernel
  obtain ⟨-, -, -, -, -, early_drops, -⟩ := network_of_history []
  obtain ⟨unknown, -⟩ := network_of_history early
  obtain ⟨-, -, known, -, changes, -⟩ := network_of_history (early ++ .frame networkOpen :: late)
  have open_network := (known _).2 ⟨early, _, record, late, rfl, brings, after, rfl⟩
  refine ⟨(early_drops _ 9 code rfl).1, unknown.2 (by decide +kernel), open_network, ?_⟩
  exact (changes _ 9 _ code open_network).noted

end Gateway

end CollectorGateway
