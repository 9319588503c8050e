import CollectorGateway.Gateway
import CollectorGateway.Proofs.Roster

/-!
What one input can do to the gateway's knowledge, and the course of many. An
input is a frame or a request; `Moves` lists all that can become of the roster
and the network in one step together with the events that are published about
it, and `moves_handle` says that there is nothing else. Readings and replies are
not described here.
-/

namespace CollectorGateway

/-- The message of a frame, if its command is known and its payload complete. -/
def Frame.message? (f : Frame) : Option Message :=
  (Command.ofCode? f.command).bind fun c => (Message.ofPayload c f.payload).toOption

def Message.snapshot? : Message → Option (List RosterEntry)
  | .roster _ entries => some entries
  | _ => none

namespace Gateway

inductive Input where
  | frame (f : Frame)
  | request (r : Request)
  deriving DecidableEq

namespace Input

def frame? : Input → Option Frame
  | frame f => some f
  | request _ => none

def request? : Input → Option Request
  | frame _ => none
  | request r => some r

def snapshot? : Input → Option (List RosterEntry)
  | frame f => f.message?.bind Message.snapshot?
  | request _ => none

end Input

def handle (g : Gateway) : Input → Outcome
  | .frame f => g.dispatch f
  | .request r => g.answer r

def after (g : Gateway) : List Input → Gateway
  | [] => g
  | i :: rest => (g.handle i).gateway.after rest

def outcomes (g : Gateway) : List Input → List Outcome
  | [] => []
  | i :: rest => g.handle i :: (g.handle i).gateway.outcomes rest

def published (g : Gateway) (inputs : List Input) : List Event :=
  (g.outcomes inputs).flatMap Outcome.events

def recorded (g : Gateway) (inputs : List Input) : List Reading :=
  (g.outcomes inputs).flatMap Outcome.readings

def replies (g : Gateway) (inputs : List Input) : List Frame :=
  (g.outcomes inputs).flatMap fun o => o.reply.toList

theorem after_append (g : Gateway) (a b : List Input) : g.after (a ++ b) = (g.after a).after b := by
  induction a generalizing g with
  | nil => rfl
  | cons i rest ih => exact ih _

theorem outcomes_append (g : Gateway) (a b : List Input) :
    g.outcomes (a ++ b) = g.outcomes a ++ (g.after a).outcomes b := by
  induction a generalizing g with
  | nil => rfl
  | cons i rest ih => rw [List.cons_append, outcomes, ih, outcomes, after, List.cons_append]

theorem published_append (g : Gateway) (a b : List Input) :
    g.published (a ++ b) = g.published a ++ (g.after a).published b := by
  rw [published, outcomes_append, List.flatMap_append, published, published]

theorem recorded_append (g : Gateway) (a b : List Input) :
    g.recorded (a ++ b) = g.recorded a ++ (g.after a).recorded b := by
  rw [recorded, outcomes_append, List.flatMap_append, recorded, recorded]

@[simp] theorem published_singleton (g : Gateway) (i : Input) :
    g.published [i] = (g.handle i).events := by
  simp [published, outcomes]

@[simp] theorem recorded_singleton (g : Gateway) (i : Input) :
    g.recorded [i] = (g.handle i).readings := by
  simp [recorded, outcomes]

def AreNotes (effects : List Effect) : Prop := ∀ e ∈ effects, ∃ n, e = .note n

theorem areNotes_ite {p : Prop} [Decidable p] (n : Note) :
    AreNotes (if p then [] else [.note n]) := by
  intro e he
  split at he
  · simp at he
  · exact ⟨n, by simpa using he⟩

theorem areNotes_dropNotes (c : Command) (fault : Option Fault) :
    AreNotes (dropNotes c fault) := by
  intro e he
  cases fault with
  | none => simp [dropNotes] at he
  | some cause => exact ⟨_, by simpa [dropNotes] using he⟩

theorem areNotes_stateNotes (code : UInt8) : AreNotes (stateNotes code) := by
  intro e he
  unfold stateNotes at he
  split at he
  · exact ⟨_, by simpa using he⟩
  · simp at he

theorem AreNotes.events {effects : List Effect} (h : AreNotes effects) :
    effects.filterMap Effect.event? = [] := by
  refine List.filterMap_eq_nil_iff.2 fun e he => ?_
  obtain ⟨n, rfl⟩ := h e he
  rfl

theorem AreNotes.readings {effects : List Effect} (h : AreNotes effects) :
    effects.filterMap Effect.reading? = [] := by
  refine List.filterMap_eq_nil_iff.2 fun e he => ?_
  obtain ⟨n, rfl⟩ := h e he
  rfl

theorem dispatch_cases (g : Gateway) (f : Frame) :
    (f.message? = none ∧ (g.dispatch f).gateway = g ∧ (g.dispatch f).reply = none ∧
      (g.dispatch f).events = [] ∧ (g.dispatch f).readings = []) ∨
    ∃ c m, Command.ofCode? f.command = some c ∧ f.message? = some m ∧
      (g.dispatch f).gateway = (g.take c m).gateway ∧
      (g.dispatch f).reply = (g.take c m).reply ∧
      (g.dispatch f).events = (g.take c m).events ∧
      (g.dispatch f).readings = (g.take c m).readings := by
  have foreign : AreNotes (foreignNotes f.subsystem) := areNotes_ite _
  unfold dispatch Frame.message?
  cases hc : Command.ofCode? f.command with
  | none =>
    left
    simp [stay, Outcome.events, Outcome.readings, foreign.events, foreign.readings]
  | some c =>
    simp only [takePayload, Option.bind_some]
    cases hm : Message.ofPayload c f.payload with
    | error fault =>
      have dropped := areNotes_dropNotes c (some fault)
      left
      simp only [fail, Except.toOption, Outcome.events, Outcome.readings, List.filterMap_append,
        List.filterMap_cons, Effect.event?_note, Effect.reading?_note, foreign.events,
        foreign.readings, dropped.events, dropped.readings, List.filterMap_nil, List.append_nil,
        and_self]
    | ok m =>
      have dropped := areNotes_dropNotes c (g.take c m).fault
      right
      refine ⟨c, m, rfl, rfl, rfl, rfl, ?_, ?_⟩
      · simp only [Outcome.events, List.filterMap_append, List.filterMap_cons,
          Effect.event?_note, foreign.events, dropped.events, List.nil_append, List.append_nil]
      · simp only [Outcome.readings, List.filterMap_append, List.filterMap_cons,
          Effect.reading?_note, foreign.readings, dropped.readings, List.nil_append,
          List.append_nil]

/-- An update of the device that answers to an address: without one it fails and
changes nothing, else the first one is changed in its place and published. -/
theorem updateDevice_cases (g : Gateway) (a : Address) (before : List Effect)
    (f : Device → Device) :
    (g.roster.find? a = none ∧ g.updateDevice a before f = g.fail before (.deviceNotFound a)) ∨
    ∃ front d back, g.roster.devices = front ++ d :: back ∧ d.answersTo a = true ∧
      (∀ e ∈ front, e.answersTo a = false) ∧
      g.updateDevice a before f = ⟨{ g with roster := ⟨front ++ f d :: back⟩ }, none,
        before ++ [.publish (.deviceUpdate (f d))], none⟩ := by
  cases hi : g.roster.find? a with
  | none => exact .inl ⟨rfl, by rw [updateDevice, hi]⟩
  | some i =>
    obtain ⟨front, d, back, hsplit, rfl, hd, hfront⟩ := Roster.split_of_find? hi
    have hroster : g.roster = ⟨front ++ d :: back⟩ := by rw [← hsplit]
    refine .inr ⟨front, d, back, hsplit, hd, hfront, ?_⟩
    rw [updateDevice, hi]
    simp only [hroster, Roster.modify_split, deviceEvent, Roster.get?_split, Option.toList_some,
      List.map_cons, List.map_nil]

/-- What can become of the knowledge in one step, given the list of all devices
that the step took in, if it did; and what is published about it. -/
inductive Moves (g : Gateway) : Option (List RosterEntry) → Gateway → List Event → Prop
  | silent : Moves g none g []
  | permit (status : UInt32) : Moves g none g [.permitJoinConfirmation status]
  | tellNetwork : Moves g none g [.networkInfo g.network]
  | tellRoster : Moves g none g [.deviceArray g.roster.devices]
  | network (n : Network) : Moves g none { g with network := some n } [.networkInfo (some n)]
  | snapshot (entries : List RosterEntry) :
      Moves g (some entries) { g with roster := .ofEntries entries }
        [.deviceArray (Roster.ofEntries entries).devices]
  | update (front back : List Device) (d d' : Device)
      (split : g.roster.devices = front ++ d :: back) (same : d'.extAddress = d.extAddress) :
      Moves g none { g with roster := ⟨front ++ d' :: back⟩ } [.deviceUpdate d']
  | join (d : Device) (new : d.extAddress ∉ g.roster.extAddresses) :
      Moves g none { g with roster := ⟨g.roster.devices ++ [d]⟩ } [.deviceUpdate d]

theorem moves_updateDevice (g : Gateway) (a : Address) (before : List Effect)
    {f : Device → Device} (quiet : before.filterMap Effect.event? = [])
    (same : ∀ d, (f d).extAddress = d.extAddress) :
    Moves g none (g.updateDevice a before f).gateway (g.updateDevice a before f).events := by
  obtain ⟨-, h⟩ | ⟨front, d, back, split, -, -, h⟩ := g.updateDevice_cases a before f
  · rw [h]
    simp only [fail, Outcome.events, quiet]
    exact .silent
  · rw [h]
    simp only [Outcome.events, List.filterMap_append, quiet, List.filterMap_cons,
      Effect.event?_publish, List.filterMap_nil, List.nil_append]
    exact .update front back d (f d) split (same d)

theorem moves_deactivateDevice (g : Gateway) (short : UInt16) (timeout : UInt8) :
    Moves g none (g.deactivateDevice short timeout).gateway
      (g.deactivateDevice short timeout).events := by
  have moved := g.moves_updateDevice (.short short) [] rfl Device.extAddress_deactivate
  unfold deactivateDevice
  dsimp only
  split
  · exact moved
  · exact moved

theorem moves_takeReport (g : Gateway) (a : Address) (rssi : Int8) (report : SensorReport)
    (trailing : Nat) :
    Moves g none (g.takeReport a rssi report trailing).gateway
      (g.takeReport a rssi report trailing).events := by
  refine g.moves_updateDevice a _ ?_ fun d => d.extAddress_applyReport rssi report
  rw [List.filterMap_append, List.filterMap_map]
  have recorded : Effect.event? ∘ Effect.record = fun _ => none := rfl
  split <;> simp [recorded]

theorem moves_takeConfig (g : Gateway) (a : Address) (status : UInt16) (fields : FieldMask)
    (reporting polling : UInt32) :
    Moves g none (g.takeConfig a status fields reporting polling).gateway
      (g.takeConfig a status fields reporting polling).events := by
  unfold takeConfig
  split
  · exact g.moves_updateDevice a _ rfl fun d => d.extAddress_applyConfig fields reporting polling
  · have moved := g.moves_updateDevice a [] (f := id) rfl fun _ => rfl
    dsimp only
    split
    · exact moved
    · exact moved

theorem moves_joinDevice (g : Gateway) (short : UInt16) (ext : UInt64) (capability : Capability) :
    Moves g none (g.joinDevice short ext capability).gateway
      (g.joinDevice short ext capability).events := by
  obtain ⟨front, d, back, split, -, -, h⟩ | ⟨new, h⟩ := g.roster.join_cases short ext capability
  · have moved := Moves.update (g := g) front back d (d.rejoin short capability) split rfl
    simpa [joinDevice, h, deviceEvent, Roster.get?_split, Outcome.events, List.filterMap_cons]
      using moved
  · have moved := Moves.join (g := g) (.fresh short ext capability) new
    simpa [joinDevice, h, deviceEvent, Roster.get?, Outcome.events, List.filterMap_cons]
      using moved

theorem moves_describeNetwork (g : Gateway) (record : NetworkRecord) :
    Moves g none (g.describeNetwork record).gateway (g.describeNetwork record).events := by
  simpa [describeNetwork, Outcome.events, (areNotes_stateNotes record.state).events,
    List.filterMap_cons] using Moves.network (g := g) (.ofRecord record)

theorem moves_changeState (g : Gateway) (code : UInt8) :
    Moves g none (g.changeState code).gateway (g.changeState code).events := by
  unfold changeState
  split
  · exact .silent
  · rename_i network _
    simpa [Outcome.events, (areNotes_stateNotes code).events, List.filterMap_cons] using
      Moves.network (g := g) (network.withState code)

theorem moves_take (g : Gateway) (c : Command) (m : Message) :
    Moves g m.snapshot? (g.take c m).gateway (g.take c m).events := by
  cases m with
  | networkAnswer status record =>
    simp only [take]
    split
    · exact g.moves_describeNetwork record
    · exact .silent
  | network record => exact g.moves_describeNetwork record
  | roster status entries => exact .snapshot entries
  | joined short ext capability => exact g.moves_joinDevice short ext capability
  | inactive short timeout => exact g.moves_deactivateDevice short timeout
  | fromSensor a rssi message =>
    cases message with
    | data report trailing => exact g.moves_takeReport a rssi report trailing
    | config status fields reporting polling =>
      exact g.moves_takeConfig a status fields reporting polling
    | other inner => exact .silent
    | unknown inner => exact .silent
  | stateChanged code => exact g.moves_changeState code
  | joinPermit status => exact .permit status
  | sent => exact .silent
  | unhandled => exact .silent

theorem moves_answer (g : Gateway) (r : Request) :
    Moves g none (g.answer r).gateway (g.answer r).events := by
  cases r with
  | getNetworkInfo => exact .tellNetwork
  | getDeviceArray => exact .tellRoster
  | setPermitJoin action => exact .silent
  | sendToggle target =>
    simp only [answer, sendTo]
    split <;> exact .silent
  | sendConfig target polling reporting fields =>
    simp only [answer, sendTo]
    split <;> exact .silent

theorem moves_handle (g : Gateway) (i : Input) :
    Moves g i.snapshot? (g.handle i).gateway (g.handle i).events := by
  cases i with
  | frame f =>
    obtain ⟨hm, hg, -, he, -⟩ | ⟨c, m, -, hm, hg, -, he, -⟩ := g.dispatch_cases f
    · simp only [handle, Input.snapshot?, hm, hg, he]
      exact .silent
    · simp only [handle, Input.snapshot?, hm, hg, he]
      exact g.moves_take c m
  | request r => exact g.moves_answer r

def deviceRecord (short ext : UInt8) : List UInt8 :=
  [0xdc, 0xac, short, 0, 0x88, 0x77, 0x66, 0x55, 0x44, 0x33, 0x22, ext, 0, 0, 0, 0, 0, 0]

def joining (short ext : UInt8) : Frame :=
  ⟨rpcSubsystem, Command.deviceJoinedInd.code, deviceRecord short ext,
    by simp [deviceRecord, maxPayload]⟩

def networkUp : Frame :=
  ⟨rpcSubsystem, Command.getNwkInfoCnf.code,
    [1, 0xdc, 0xac, 0, 0, 0, 0, 0, 0, 0, 0, 0, 0, 11, 0, 0, 1, 3], by decide⟩

end Gateway

end CollectorGateway
