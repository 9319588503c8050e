import CollectorGateway.Proofs.Gateway.Steps

/-!
Frames that are dropped. A frame is dropped if no command has its code, its
payload cannot be read, or its message is about a device or a network that is
not known. All of this is found out before anything is done: what is known stays
as it was, nothing is published or sent back, and one warning tells of the drop.
So the dropped frames of a course can be left out of it, and every other input
still meets the same knowledge.
-/

namespace CollectorGateway

namespace Effect

def AreSubdued (effects : List Effect) : Prop :=
  ∀ e ∈ effects, e.event? = none ∧
    ∀ sink receivers n, e.noteWith sink receivers = some n → Level.warn.rank < n.level.rank

theorem areSubdued_nil : AreSubdued [] := fun _ he => absurd he List.not_mem_nil

theorem AreSubdued.append {a b : List Effect} (ha : AreSubdued a) (hb : AreSubdued b) :
    AreSubdued (a ++ b) := by
  intro e he
  obtain he | he := List.mem_append.1 he
  · exact ha e he
  · exact hb e he

theorem areSubdued_note {n : Note} (h : Level.warn.rank < n.level.rank) :
    AreSubdued [.note n] := by
  intro e he
  obtain rfl := List.mem_singleton.1 he
  refine ⟨rfl, fun sink receivers m hm => ?_⟩
  obtain rfl : n = m := by simpa [noteWith] using hm
  exact h

theorem areSubdued_records (readings : List Reading) : AreSubdued (readings.map .record) := by
  intro e he
  obtain ⟨r, -, rfl⟩ := List.mem_map.1 he
  refine ⟨rfl, fun sink receivers n hn => ?_⟩
  obtain ⟨-, rfl⟩ : sink = .journal ∧ Note.readingTaken r = n := by simpa [noteWith] using hn
  simp [Note.level, Level.rank]

theorem AreSubdued.events {effects : List Effect} (h : AreSubdued effects) :
    effects.filterMap event? = [] :=
  List.filterMap_eq_nil_iff.2 fun e he => (h e he).1

theorem AreSubdued.keptBy_warn {effects : List Effect} (h : AreSubdued effects) (sink : Sink)
    (receivers : Nat) : Note.keptBy .warn (effects.filterMap (·.noteWith sink receivers)) = [] := by
  refine List.filter_eq_nil_iff.2 fun n hn => ?_
  obtain ⟨e, he, hen⟩ := List.mem_filterMap.1 hn
  have verbose := (h e he).2 sink receivers n hen
  simp only [decide_eq_true_eq]
  omega

theorem readings_records (readings : List Reading) :
    (readings.map record).filterMap reading? = readings := by
  induction readings with
  | nil => rfl
  | cons r rest ih => simp [ih]

end Effect

namespace Message

/-- The device that must be known for a message to be taken. -/
def subject? : Message → Option Address
  | .inactive short _ => some (.short short)
  | .fromSensor a _ (.data _ _) | .fromSensor a _ (.config _ _ _ _) => some a
  | _ => none

def readings : Message → List Reading
  | .fromSensor _ _ (.data report _) => report.readings
  | _ => []

def beforehand : Message → List Effect
  | .fromSensor _ _ (.data report trailing) =>
    (if 0 < trailing then [.note (.trailingOctets trailing)] else []) ++
      report.readings.map .record
  | _ => []

theorem areSubdued_beforehand (m : Message) : Effect.AreSubdued m.beforehand := by
  unfold beforehand
  split
  · refine .append ?_ (Effect.areSubdued_records _)
    split
    · exact Effect.areSubdued_note (by simp [Note.level, Level.rank])
    · exact Effect.areSubdued_nil
  · exact Effect.areSubdued_nil

theorem readings_beforehand (m : Message) :
    m.beforehand.filterMap Effect.reading? = m.readings := by
  unfold beforehand readings
  split
  · rw [List.filterMap_append, Effect.readings_records]
    split <;> rfl
  · rfl

end Message

def Frame.beforehand (f : Frame) : List Effect :=
  (f.message?.map Message.beforehand).getD []

def Frame.readings (f : Frame) : List Reading := (f.message?.map Message.readings).getD []

theorem Frame.areSubdued_beforehand (f : Frame) : Effect.AreSubdued f.beforehand := by
  rw [beforehand]
  cases f.message? with
  | none => exact Effect.areSubdued_nil
  | some m => exact m.areSubdued_beforehand

theorem Frame.readings_beforehand (f : Frame) :
    f.beforehand.filterMap Effect.reading? = f.readings := by
  rw [beforehand, readings]
  cases f.message? with
  | none => rfl
  | some m => exact m.readings_beforehand

namespace Gateway

def refusal? (g : Gateway) (m : Message) : Option Fault :=
  match m.subject?, m with
  | some a, _ => if g.roster.find? a = none then some (.deviceNotFound a) else none
  | none, .stateChanged _ => if g.network = none then some .networkUnknown else none
  | none, _ => none

theorem updateDevice_of_unknown {g : Gateway} {a : Address} (before : List Effect)
    (f : Device → Device) (unknown : g.roster.find? a = none) :
    g.updateDevice a before f = g.fail before (.deviceNotFound a) := by
  rw [updateDevice, unknown]

theorem fault_updateDevice_of_known {g : Gateway} {a : Address} (before : List Effect)
    (f : Device → Device) (known : g.roster.find? a ≠ none) :
    (g.updateDevice a before f).fault = none := by
  unfold updateDevice
  split
  · contradiction
  · rfl

theorem take_of_refusal {g : Gateway} {m : Message} {fault : Fault} (c : Command)
    (refused : g.refusal? m = some fault) : g.take c m = g.fail m.beforehand fault := by
  cases m with
  | inactive short timeout =>
    obtain ⟨unknown, rfl⟩ : g.roster.find? (.short short) = none ∧ _ = fault := by
      simpa [refusal?, Message.subject?] using refused
    simp only [take, deactivateDevice, updateDevice_of_unknown _ _ unknown, fail]
    rfl
  | fromSensor a rssi message =>
    cases message with
    | data report trailing =>
      obtain ⟨unknown, rfl⟩ : g.roster.find? a = none ∧ _ = fault := by
        simpa [refusal?, Message.subject?] using refused
      exact updateDevice_of_unknown _ _ unknown
    | config status fields reporting polling =>
      obtain ⟨unknown, rfl⟩ : g.roster.find? a = none ∧ _ = fault := by
        simpa [refusal?, Message.subject?] using refused
      simp only [take, takeConfig, updateDevice_of_unknown _ _ unknown, fail, ite_self]
      rfl
    | other | unknown => simp [refusal?, Message.subject?] at refused
  | stateChanged code =>
    obtain ⟨unknown, rfl⟩ : g.network = none ∧ _ = fault := by
      simpa [refusal?, Message.subject?] using refused
    simp only [take, changeState, unknown]
    rfl
  | _ => simp [refusal?, Message.subject?] at refused

theorem fault_take_of_accepted {g : Gateway} {m : Message} (c : Command)
    (accepted : g.refusal? m = none) : (g.take c m).fault = none := by
  cases m with
  | inactive short timeout =>
    have known : g.roster.find? (.short short) ≠ none := by
      simpa [refusal?, Message.subject?] using accepted
    simp only [take, deactivateDevice, fault_updateDevice_of_known _ _ known]
  | fromSensor a rssi message =>
    cases message with
    | data report trailing =>
      have known : g.roster.find? a ≠ none := by
        simpa [refusal?, Message.subject?] using accepted
      exact fault_updateDevice_of_known _ _ known
    | config status fields reporting polling =>
      have known : g.roster.find? a ≠ none := by
        simpa [refusal?, Message.subject?] using accepted
      simp only [take, takeConfig]
      split
      · exact fault_updateDevice_of_known _ _ known
      · simp only [fault_updateDevice_of_known _ _ known]
    | other | unknown => rfl
  | stateChanged code =>
    have known : g.network ≠ none := by simpa [refusal?, Message.subject?] using accepted
    simp only [take, changeState]
    split
    · contradiction
    · rfl
  | networkAnswer status record =>
    simp only [take]
    split <;> rfl
  | _ => rfl

/-- An input that comes to nothing: a frame without a known command, or one whose
handling failed. -/
def Drops (g : Gateway) : Input → Prop
  | .frame f => Command.ofCode? f.command = none ∨ (g.dispatch f).fault ≠ none
  | .request _ => False

instance (g : Gateway) (i : Input) : Decidable (g.Drops i) :=
  match i with
  | .frame f => inferInstanceAs (Decidable (Command.ofCode? f.command = none ∨ _))
  | .request _ => inferInstanceAs (Decidable False)

def dropWarning? (g : Gateway) (f : Frame) : Option Note :=
  match Command.ofCode? f.command with
  | none => some (.unknownCommand f.command)
  | some c => (g.dispatch f).fault.map (.frameDropped c)

theorem level_of_dropWarning? {g : Gateway} {f : Frame} {n : Note}
    (h : g.dropWarning? f = some n) : n.level = .warn := by
  unfold dropWarning? at h
  split at h
  · obtain rfl : _ = n := by simpa using h
    rfl
  · obtain ⟨fault, -, rfl⟩ := Option.map_eq_some_iff.1 h
    rfl

theorem areSubdued_foreignNotes (subsystem : UInt8) :
    Effect.AreSubdued (foreignNotes subsystem) := by
  unfold foreignNotes
  split
  · exact Effect.areSubdued_nil
  · exact Effect.areSubdued_note (by simp [Note.level, Level.rank])

theorem readings_foreignNotes (subsystem : UInt8) :
    (foreignNotes subsystem).filterMap Effect.reading? = [] := by
  unfold foreignNotes
  split <;> rfl

theorem takePayload_of_fault {g : Gateway} {f : Frame} {c : Command} {fault : Fault}
    (hc : Command.ofCode? f.command = some c)
    (failed : (g.takePayload c f.payload).fault = some fault) :
    g.takePayload c f.payload = g.fail f.beforehand fault := by
  cases hm : Message.ofPayload c f.payload with
  | error e =>
    have mute : f.beforehand = [] := by
      rw [Frame.beforehand, Frame.message?, hc, Option.bind_some, hm]
      rfl
    have taken : g.takePayload c f.payload = g.fail [] e := by rw [takePayload, hm]
    obtain rfl : e = fault := by simpa [taken, fail] using failed
    rw [taken, mute]
  | ok m =>
    have told : f.beforehand = m.beforehand := by
      rw [Frame.beforehand, Frame.message?, hc, Option.bind_some, hm]
      rfl
    have taken : g.takePayload c f.payload = g.take c m := by rw [takePayload, hm]
    rw [taken] at failed
    cases refused : g.refusal? m with
    | none => simp [fault_take_of_accepted c refused] at failed
    | some e =>
      have refusal := take_of_refusal c refused
      obtain rfl : e = fault := by simpa [refusal, fail] using failed
      rw [taken, refusal, told]

theorem dispatch_of_drop {g : Gateway} {f : Frame} (dropped : g.Drops (.frame f)) :
    ∃ notes n fault?, g.dispatch f = ⟨g, none, notes ++ f.beforehand ++ [.note n], fault?⟩ ∧
      g.dropWarning? f = some n ∧ Effect.AreSubdued notes ∧
      notes.filterMap Effect.reading? = [] := by
  have foreign := areSubdued_foreignNotes f.subsystem
  have silent := readings_foreignNotes f.subsystem
  cases hc : Command.ofCode? f.command with
  | none =>
    have mute : f.beforehand = [] := by
      rw [Frame.beforehand, Frame.message?, hc]
      rfl
    refine ⟨foreignNotes f.subsystem, .unknownCommand f.command, none, ?_, ?_, foreign, silent⟩
    · simp only [dispatch, hc, stay, mute, List.append_nil]
    · simp only [dropWarning?, hc]
  | some c =>
    obtain ⟨fault, failed⟩ : ∃ fault, (g.takePayload c f.payload).fault = some fault := by
      simpa only [Drops, hc, reduceCtorEq, false_or, dispatch, Option.ne_none_iff_exists'] using
        dropped
    have taken := takePayload_of_fault hc failed
    refine ⟨foreignNotes f.subsystem ++ [.note (.frameReceived c f.payload.length)],
      .frameDropped c fault, some fault, ?_, ?_, ?_, ?_⟩
    · simp only [dispatch, hc, taken, fail, dropNotes, List.append_assoc, List.cons_append,
        List.nil_append]
    · simp only [dropWarning?, dispatch, hc, taken, fail, Option.map_some]
    · exact foreign.append (Effect.areSubdued_note (by simp [Note.level, Level.rank]))
    · rw [List.filterMap_append, silent]
      rfl

theorem refusal?_of_drop {g : Gateway} {f : Frame} {m : Message} (dropped : g.Drops (.frame f))
    (told : f.message? = some m) : g.refusal? m ≠ none := by
  obtain ⟨c, hc, hm⟩ := Option.bind_eq_some_iff.1 told
  intro accepted
  have read : Message.ofPayload c f.payload = .ok m := by
    cases h : Message.ofPayload c f.payload with
    | error e => simp [h, Except.toOption] at hm
    | ok m' => simpa [h, Except.toOption] using hm
  have done := fault_take_of_accepted c accepted
  obtain unknown | failed := dropped
  · simp [hc] at unknown
  · exact failed (by simpa only [dispatch, hc, takePayload, read] using done)

def course (g : Gateway) : List Input → List (Gateway × Input)
  | [] => []
  | i :: rest => (g, i) :: (g.handle i).gateway.course rest

theorem outcomes_eq_map_course (g : Gateway) (inputs : List Input) :
    g.outcomes inputs = (g.course inputs).map fun turn => turn.1.handle turn.2 := by
  induction inputs generalizing g with
  | nil => rfl
  | cons i rest ih => rw [outcomes, course, ih, List.map_cons]

def isKept (turn : Gateway × Input) : Bool := !decide (turn.1.Drops turn.2)

/-- The inputs of a course that are not dropped. -/
def kept (g : Gateway) (inputs : List Input) : List Input :=
  ((g.course inputs).filter isKept).map Prod.snd

theorem isKept_iff {turn : Gateway × Input} : isKept turn = true ↔ ¬ turn.1.Drops turn.2 := by
  simp [isKept]

theorem handle_of_drop {g : Gateway} {i : Input} (dropped : g.Drops i) :
    (g.handle i).gateway = g ∧ (g.handle i).events = [] ∧ (g.handle i).reply = none := by
  cases i with
  | frame f =>
    obtain ⟨notes, n, fault?, h, -, subdued, -⟩ := dispatch_of_drop dropped
    have quiet := (subdued.append f.areSubdued_beforehand).events
    rw [handle, h]
    refine ⟨rfl, ?_, rfl⟩
    simp only [Outcome.events, List.filterMap_append, List.filterMap_cons, Effect.event?_note,
      List.filterMap_nil, List.append_nil] at quiet ⊢
    exact quiet
  | request r => exact dropped.elim

theorem kept_cons_of_drop {g : Gateway} {i : Input} (rest : List Input) (dropped : g.Drops i) :
    g.kept (i :: rest) = g.kept rest := by
  have skipped : ¬ isKept (g, i) = true := fun h => isKept_iff.1 h dropped
  rw [kept, course, (handle_of_drop dropped).1, List.filter_cons_of_neg skipped, kept]

theorem kept_cons_of_not_drop {g : Gateway} {i : Input} (rest : List Input)
    (taken : ¬ g.Drops i) : g.kept (i :: rest) = i :: (g.handle i).gateway.kept rest := by
  have passed : isKept (g, i) = true := isKept_iff.2 taken
  rw [kept, course, List.filter_cons_of_pos passed, List.map_cons, kept]

theorem after_kept (g : Gateway) (inputs : List Input) :
    g.after (g.kept inputs) = g.after inputs := by
  induction inputs generalizing g with
  | nil => rfl
  | cons i rest ih =>
    by_cases dropped : g.Drops i
    · rw [kept_cons_of_drop rest dropped, ih, after, (handle_of_drop dropped).1]
    · rw [kept_cons_of_not_drop rest dropped, after, after, ih]

theorem course_kept (g : Gateway) (inputs : List Input) :
    g.course (g.kept inputs) = (g.course inputs).filter isKept := by
  induction inputs generalizing g with
  | nil => rfl
  | cons i rest ih =>
    by_cases dropped : g.Drops i
    · have skipped : ¬ isKept (g, i) = true := fun h => isKept_iff.1 h dropped
      rw [kept_cons_of_drop rest dropped, ih, course, (handle_of_drop dropped).1,
        List.filter_cons_of_neg skipped]
    · have passed : isKept (g, i) = true := isKept_iff.2 dropped
      rw [kept_cons_of_not_drop rest dropped, course, course, ih, List.filter_cons_of_pos passed]

theorem gathered_kept {α : Type} (gather : Outcome → List α)
    (nothing : ∀ (g : Gateway) (i : Input), g.Drops i → gather (g.handle i) = [])
    (g : Gateway) (inputs : List Input) :
    (g.outcomes (g.kept inputs)).flatMap gather = (g.outcomes inputs).flatMap gather := by
  rw [outcomes_eq_map_course, outcomes_eq_map_course, course_kept, List.flatMap_map,
    List.flatMap_map]
  induction g.course inputs with
  | nil => rfl
  | cons turn rest ih =>
    by_cases dropped : turn.1.Drops turn.2
    · have skipped : ¬ isKept turn = true := fun h => isKept_iff.1 h dropped
      rw [List.filter_cons_of_neg skipped, List.flatMap_cons, ih, nothing _ _ dropped,
        List.nil_append]
    · rw [List.filter_cons_of_pos (isKept_iff.2 dropped), List.flatMap_cons, List.flatMap_cons, ih]

/-- A dropped frame changes nothing, publishes nothing, is not answered and gets one warning; it
leaves readings only as the complete report of a device that is not known. A course without
its dropped frames comes to the same. -/
theorem dispatch_atomic (g : Gateway) :
    (∀ f, g.Drops (.frame f) →
      let o := g.dispatch f
      o.gateway = g ∧ o.events = [] ∧ o.reply = none ∧
      (∃ n, g.dropWarning? f = some n ∧ ∀ sink receivers,
        Note.keptBy .warn (o.effects.filterMap (·.noteWith sink receivers)) = [n]) ∧
      o.readings = f.readings ∧
      (f.readings ≠ [] → ∃ a rssi report trailing,
        f.message? = some (.fromSensor a rssi (.data report trailing)) ∧
        g.roster.find? a = none)) ∧
    ∀ inputs,
      g.after (g.kept inputs) = g.after inputs ∧
      g.published (g.kept inputs) = g.published inputs ∧
      g.replies (g.kept inputs) = g.replies inputs := by
  refine ⟨fun f dropped => ?_, fun inputs => ⟨g.after_kept inputs, ?_, ?_⟩⟩
  · obtain ⟨notes, n, fault?, h, warned, subdued, silent⟩ := dispatch_of_drop dropped
    obtain ⟨same, unpublished, unanswered⟩ := handle_of_drop dropped
    refine ⟨same, unpublished, unanswered, ⟨n, warned, fun sink receivers => ?_⟩, ?_, ?_⟩
    · have quiet := (subdued.append f.areSubdued_beforehand).keptBy_warn sink receivers
      have kept : Note.keptBy .warn [n] = [n] := by
        simp [Note.keptBy, level_of_dropWarning? warned]
      rw [h]
      simp only [Note.keptBy] at quiet kept ⊢
      rw [List.filterMap_append, List.filter_append, quiet, List.nil_append]
      exact kept
    · rw [h, Outcome.readings, List.filterMap_append, List.filterMap_append, silent,
        f.readings_beforehand, List.nil_append]
      exact List.append_nil _
    · intro reports
      cases told : f.message? with
      | none => simp [Frame.readings, told] at reports
      | some m =>
        have refused := refusal?_of_drop dropped told
        simp only [Frame.readings, told, Option.map_some, Option.getD_some] at reports
        unfold Message.readings at reports
        split at reports
        · rename_i a rssi report trailing
          refine ⟨a, rssi, report, trailing, rfl, ?_⟩
          simpa [refusal?, Message.subject?] using refused
        · contradiction
  · exact gathered_kept Outcome.events (fun g i h => (handle_of_drop h).2.1) g inputs
  · refine gathered_kept _ (fun g i h => ?_) g inputs
    rw [(handle_of_drop h).2.2, Option.toList_none]

def brokenListing : Frame :=
  ⟨rpcSubsystem, Command.getDeviceArrayCnf.code, [0, 2, 0] ++ deviceRecord 1 0x11 ++ [0xdc, 0xac],
    by decide⟩

def strangersReport : Frame :=
  ⟨rpcSubsystem, Command.deviceDataRxInd.code,
    [2, 0x55, 0, 0xd6, 5, 0, 0, 0, 0, 0, 0, 0, 0, 2, 0, 0x2c, 1], by decide⟩

theorem broken_and_strange_frames_drop :
    let known := empty.after [.frame (joining 1 0x11)]
    let inputs := [.frame brokenListing, .frame (joining 2 0x22), .frame strangersReport]
    known.Drops (.frame brokenListing) ∧ known.Drops (.frame strangersReport) ∧
    (known.dispatch brokenListing).gateway = known ∧
    (known.dispatch strangersReport).readings.length = 1 ∧
    known.kept inputs = [.frame (joining 2 0x22)] ∧
    known.after [.frame (joining 2 0x22)] = known.after inputs := by
  intro known inputs
  have broken : known.Drops (.frame brokenListing) := by decide +kernel
  have strange : known.Drops (.frame strangersReport) := by decide +kernel
  have kept : known.kept inputs = [.frame (joining 2 0x22)] := by decide +kernel
  obtain ⟨atomic, course⟩ := dispatch_atomic known
  obtain ⟨same, -⟩ := atomic brokenListing broken
  obtain ⟨-, -, -, -, reported, -⟩ := atomic strangersReport strange
  have after := (course inputs).1
  rw [kept] at after
  have one : strangersReport.readings.length = 1 := by decide +kernel
  exact ⟨broken, strange, same, by rw [reported]; exact one, kept, after⟩

end Gateway

end CollectorGateway
