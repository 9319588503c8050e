import CollectorGateway.Proofs.Client.Steps
import CollectorGateway.Trial

/-!
What a step can do to the link. Of the actions of a step only the marks they
leave on the link are kept: what is told of it, calls, ends and repairs. `Fares`
lists the seven ways in which a step can go for the link, also over a connection
that cannot be written to; handling frames and requests leaves no mark at all.
-/

namespace CollectorGateway

/-- What an action does to the link or tells of it. -/
inductive LinkMark where
  | told (s : LinkStatus)
  | dialled
  | hungUp
  | lost
  | refused
  /-- The phase was not the one expected and had to be set right. -/
  | repaired
  deriving DecidableEq, Repr

def Effect.linkMark? : Effect → Option LinkMark
  | publish (.linkState s) => some (.told s)
  | note .linkLost => some .lost
  | note .linkRefused => some .refused
  | note (.linkReset _) | note (.linkPhaseUnexpected _ _) => some .repaired
  | _ => none

def Effect.AreAside (effects : List Effect) : Prop := ∀ e ∈ effects, e.linkMark? = none

namespace Effect

theorem areAside_nil : AreAside [] := fun _ he => absurd he List.not_mem_nil

theorem AreAside.cons {e : Effect} {effects : List Effect} (he : e.linkMark? = none)
    (h : AreAside effects) : AreAside (e :: effects) :=
  List.forall_mem_cons.2 ⟨he, h⟩

theorem AreAside.append {a b : List Effect} (ha : AreAside a) (hb : AreAside b) :
    AreAside (a ++ b) :=
  List.forall_mem_append.2 ⟨ha, hb⟩

theorem areAside_records (readings : List Reading) : AreAside (readings.map .record) := by
  intro e he
  obtain ⟨r, -, rfl⟩ := List.mem_map.1 he
  rfl

end Effect

namespace Gateway

open Effect (AreAside areAside_nil)

theorem areAside_stateNotes (code : UInt8) : AreAside (stateNotes code) := by
  unfold stateNotes
  split
  · exact areAside_nil.cons rfl
  · exact areAside_nil

theorem areAside_foreignNotes (subsystem : UInt8) : AreAside (foreignNotes subsystem) := by
  unfold foreignNotes
  split
  · exact areAside_nil
  · exact areAside_nil.cons rfl

theorem areAside_dropNotes (c : Command) (fault : Option Fault) :
    AreAside (dropNotes c fault) := by
  cases fault with
  | none => exact areAside_nil
  | some fault => exact areAside_nil.cons rfl

theorem areAside_describeNetwork (g : Gateway) (record : NetworkRecord) :
    AreAside (g.describeNetwork record).effects :=
  (areAside_stateNotes _).append ((areAside_nil.cons rfl).cons rfl)

theorem areAside_changeState (g : Gateway) (code : UInt8) :
    AreAside (g.changeState code).effects := by
  unfold changeState
  split
  · exact areAside_nil
  · exact (areAside_stateNotes _).append ((areAside_nil.cons rfl).cons rfl)

theorem areAside_updateDevice (g : Gateway) (a : Address) {before : List Effect}
    (f : Device → Device) (h : AreAside before) :
    AreAside (g.updateDevice a before f).effects := by
  obtain ⟨-, missed⟩ | ⟨front, d, back, -, -, -, hit⟩ := g.updateDevice_cases a before f
  · rw [missed]
    exact h
  · rw [hit]
    exact h.append (areAside_nil.cons rfl)

theorem areAside_joinDevice (g : Gateway) (short : UInt16) (ext : UInt64)
    (capability : Capability) : AreAside (g.joinDevice short ext capability).effects := by
  have known : ∀ roster i, AreAside (deviceEvent roster i) := by
    intro roster i e he
    obtain ⟨d, -, rfl⟩ := List.mem_map.1 he
    rfl
  unfold joinDevice
  refine .cons ?_ (.append ?_ (known _ _))
  · unfold joinNote
    split <;> rfl
  · split
    · exact areAside_nil.cons rfl
    · exact areAside_nil

theorem areAside_take (g : Gateway) (c : Command) (m : Message) :
    AreAside (g.take c m).effects := by
  cases m with
  | networkAnswer status record =>
    simp only [take]
    split
    · exact g.areAside_describeNetwork record
    · exact areAside_nil.cons rfl
  | network record => exact g.areAside_describeNetwork record
  | roster status entries => exact ((areAside_nil.cons rfl).cons rfl).cons rfl
  | joined short ext capability => exact g.areAside_joinDevice short ext capability
  | inactive short timeout =>
    have updated := g.areAside_updateDevice (.short short) Device.deactivate areAside_nil
    simp only [take, deactivateDevice]
    split
    · exact updated.cons rfl
    · exact updated
  | fromSensor a rssi message =>
    cases message with
    | data report trailing =>
      refine g.areAside_updateDevice a _ (.append ?_ (Effect.areAside_records _))
      split
      · exact areAside_nil.cons rfl
      · exact areAside_nil
    | config status fields reporting polling =>
      simp only [take, takeConfig]
      split
      · exact g.areAside_updateDevice a _ areAside_nil
      · have updated := g.areAside_updateDevice a id areAside_nil
        split
        · exact updated.cons rfl
        · exact updated
    | other inner => exact areAside_nil.cons rfl
    | unknown inner => exact areAside_nil.cons rfl
  | stateChanged code => exact g.areAside_changeState code
  | joinPermit status => exact areAside_nil.cons rfl
  | sent => exact areAside_nil
  | unhandled => exact areAside_nil.cons rfl

theorem areAside_dispatch (g : Gateway) (f : Frame) : AreAside (g.dispatch f).effects := by
  have foreign := areAside_foreignNotes f.subsystem
  unfold dispatch
  split
  · exact foreign.append (areAside_nil.cons rfl)
  · rename_i c _
    have taken : AreAside (g.takePayload c f.payload).effects := by
      unfold takePayload
      split
      · exact areAside_nil
      · exact g.areAside_take c _
    have dropped := areAside_dropNotes c (g.takePayload c f.payload).fault
    exact (foreign.append (taken.cons rfl)).append dropped

theorem areAside_answer (g : Gateway) (r : Request) : AreAside (g.answer r).effects := by
  cases r with
  | getNetworkInfo | getDeviceArray => exact areAside_nil.cons rfl
  | setPermitJoin => exact areAside_nil
  | sendToggle | sendConfig =>
    simp only [answer, sendTo]
    split <;> exact areAside_nil

end Gateway

namespace Action

def linkMark? : Action → Option LinkMark
  | effect e => e.linkMark?
  | dial => some .dialled
  | hangUp => some .hungUp
  | send _ => none

def linkMarks (actions : List Action) : List LinkMark := actions.filterMap linkMark?

def unsent (actions : List Action) : List Action := actions.filter (·.sent?.isNone)

theorem linkMarks_append (a b : List Action) :
    linkMarks (a ++ b) = linkMarks a ++ linkMarks b := List.filterMap_append

theorem filterMap_unsent {α : Type} {f : Action → Option α} (blind : ∀ frame, f (send frame) = none)
    (actions : List Action) : (unsent actions).filterMap f = actions.filterMap f := by
  induction actions with
  | nil => rfl
  | cons a rest ih =>
    cases a with
    | send frame => rw [List.filterMap_cons_none (blind frame), ← ih]; rfl
    | effect | dial | hangUp =>
      rw [List.filterMap_cons, ← ih]
      exact List.filterMap_cons

theorem linkMarks_unsent (actions : List Action) : linkMarks (unsent actions) = linkMarks actions :=
  filterMap_unsent (fun _ => rfl) actions

theorem linkMarks_effects {effects : List Effect} (h : Effect.AreAside effects) :
    linkMarks (effects.map .effect) = [] := by
  rw [linkMarks, List.filterMap_map]
  exact List.filterMap_eq_nil_iff.2 h

theorem linkMarks_sends (frames : List Frame) : linkMarks (frames.map send) = [] := by
  rw [linkMarks, List.filterMap_map]
  exact List.filterMap_eq_nil_iff.2 fun _ _ => rfl

end Action

/-- An activity without what is particular to a connection. -/
def Activity.bare : Activity → Activity
  | .serving _ => .serving .fresh
  | a => a

theorem Activity.bare_eq_iff {a b : Activity} :
    a.bare = b.bare ↔ a = b ∨ ∃ s t, a = .serving s ∧ b = .serving t := by
  cases a <;> cases b <;> simp [bare]

theorem Activity.eq_of_bare {a b : Activity} (same : a.bare = b.bare)
    (apart : ∀ s, b ≠ .serving s) : a = b := by
  obtain eq | ⟨s, t, -, serving⟩ := bare_eq_iff.1 same
  · exact eq
  · exact absurd serving (apart t)

namespace Client

open Gateway (Input)
open CollectorGateway.Action (linkMarks unsent)

variable {c c' : Client} {s : Stimulus} {input? : Option Input} {actions : List Action}

def wait (c : Client) : Nat := min c.delay longestWait

def callOutcome? (c : Client) : Stimulus → Option Bool
  | .established => if c.activity = .connecting then some true else none
  | .refused => if c.activity = .connecting then some false else none
  | _ => none

def lossMarks : List LinkMark := [.told .disconnected, .told .reconnectPending]

/-- How a step goes for the link. -/
inductive Fares (c : Client) (s : Stimulus) (c' : Client) (actions : List Action) : Prop
  | aside (phase : c'.phase = c.phase) (activity : c'.activity.bare = c.activity.bare)
      (outcome : c.callOutcome? s = none) (marks : linkMarks actions = [])
  | halted (phase : c'.phase = c.phase) (activity : c'.activity = .stopped)
      (outcome : c.callOutcome? s = none)
      (marks : linkMarks actions = if c.activity.bare = .serving .fresh then [.hungUp] else [])
  | answered (dialled : c.activity = .connecting) (phase : c'.phase = .connected c.clock)
      (activity : c'.activity = .serving .fresh) (outcome : c.callOutcome? s = some true)
      (marks : linkMarks actions = [.told .connected])
  | refused (dialled : c.activity = .connecting) (phase : c'.phase = .reconnectPending c.clock)
      (activity : c'.activity = .waiting (c.clock + c.wait))
      (outcome : c.callOutcome? s = some false)
      (marks : linkMarks actions = .refused :: lossMarks)
  | lost (session : Session) (serving : c.activity = .serving session)
      (phase : c'.phase = .reconnectPending c.clock)
      (activity : c'.activity = .waiting (c.clock + c.wait)) (outcome : c.callOutcome? s = none)
      (marks : linkMarks actions = .hungUp :: .lost :: lossMarks)
  | broken (dialled : c.activity = .connecting) (phase : c'.phase = .reconnectPending c.clock)
      (activity : c'.activity = .waiting (c.clock + c.wait))
      (outcome : c.callOutcome? s = some true)
      (marks : linkMarks actions = .told .connected :: .hungUp :: .lost :: lossMarks)
  | dialled (deadline : Nat) (waiting : c.activity = .waiting deadline)
      (due : deadline ≤ c.clock) (phase : c'.phase = .connecting)
      (activity : c'.activity = .connecting) (outcome : c.callOutcome? s = none)
      (marks : linkMarks actions = [.told .connecting, .dialled])

theorem linkMarks_handled {effects : List Effect} (h : Effect.AreAside effects)
    (rest : List Action) : linkMarks (effects.map .effect ++ rest) = linkMarks rest := by
  rw [Action.linkMarks_append, Action.linkMarks_effects h, List.nil_append]

theorem linkMarks_replyTo (connected : Bool) (reply : Option Frame) (fault : Option Fault) :
    linkMarks (replyTo connected reply ++
      fault.toList.map fun fault => .note (.requestFailed fault)) = [] := by
  cases reply <;> cases connected <;> cases fault <;> rfl

theorem linkMarks_farewell (activity : Activity) (rest : List Action) :
    linkMarks (farewell activity ++ rest) =
      (if activity.bare = .serving .fresh then [.hungUp] else []) ++ linkMarks rest := by
  cases activity <;> rfl

theorem callOutcome?_of_ignores (ignored : c.Ignores s) : c.callOutcome? s = none := by
  cases s with
  | established | refused => exact if_neg ignored
  | _ => rfl

theorem Does.fares (does : Does c s input? c' actions) : Fares c s c' actions := by
  cases does with
  | idle s ignored => exact .aside rfl rfl (callOutcome?_of_ignores ignored) rfl
  | establish dialled => exact .answered dialled rfl rfl (if_pos dialled) rfl
  | refuse dialled => exact .refused dialled rfl rfl (if_pos dialled) rfl
  | receive bs session serving => exact .aside rfl (by rw [serving]; rfl) rfl rfl
  | finish session serving =>
    have quiet : linkMarks (endNotes session) = [] := by
      unfold endNotes
      split <;> rfl
    exact .aside rfl (by rw [serving]; rfl) rfl quiet
  | submit | elapse | release => exact .aside rfl rfl rfl rfl
  | abort =>
    have marks := linkMarks_farewell c.activity []
    rw [List.append_nil] at marks
    exact .halted rfl rfl rfl (marks.trans (List.append_nil _))
  | frame carry f inbox ended serving =>
    refine .aside rfl (by rw [serving]; rfl) rfl ?_
    rw [linkMarks_handled (c.gateway.areAside_dispatch f), Action.linkMarks_sends]
  | request connected r queue =>
    refine .aside rfl rfl rfl ?_
    rw [List.append_assoc, linkMarks_handled (c.gateway.areAside_answer r), linkMarks_replyTo]
  | lose carry serving => exact .lost _ serving rfl rfl rfl rfl
  | shutdown => exact .halted rfl rfl rfl ((linkMarks_farewell _ _).trans (List.append_nil _))
  | dial deadline waiting due => exact .dialled deadline waiting due rfl rfl rfl rfl

theorem Fares.stopped (fares : Fares c s c' actions) (stopped : c.activity = .stopped) :
    c'.activity = .stopped := by
  cases fares with
  | aside _ activity =>
    rw [stopped] at activity
    exact Activity.eq_of_bare activity (by simp)
  | halted _ activity => exact activity
  | answered active | refused active | broken active | lost _ active | dialled _ active =>
    simp [stopped] at active

theorem Does.serving_of_send (does : Does c s input? c' actions) {f : Frame}
    (sends : .send f ∈ actions) :
    c'.clock = c.clock ∧ c'.delay = c.delay ∧ ∃ session, c'.activity = .serving session := by
  cases does with
  | establish => exact ⟨rfl, rfl, _, rfl⟩
  | frame carry f inbox ended => exact ⟨rfl, rfl, _, rfl⟩
  | request connected r queue queued able =>
    obtain ⟨session, serving, -⟩ | ⟨deadline, waiting, rfl⟩ := able
    · exact ⟨rfl, rfl, session, serving⟩
    · simp [replyTo, Action.note] at sends
  | finish => simp [endNotes, Action.note] at sends
  | abort => unfold farewell at sends; split at sends <;> simp at sends
  | shutdown => unfold farewell at sends; split at sends <;> simp [Action.note] at sends
  | refuse | lose => simp [deferral, publishPhase, Action.publish, Action.note] at sends
  | dial => simp [publishPhase, Action.publish, Action.note] at sends
  | _ => simp at sends

/-- Either a step is whole, or the connection it leaves breaks. -/
theorem stepOn_cases (h : c.IsCoherent) (writable : Bool) (s : Stimulus) :
    c.stepOn writable s = c.step s ∨
    ∃ session, (c.step s).1.activity = .serving session ∧
      (c.step s).1.clock = c.clock ∧ (c.step s).1.delay = c.delay ∧
      c.stepOn writable s = ((c.step s).1.deferred,
        unsent (c.step s).2 ++ .hangUp :: .note .linkLost :: (c.step s).1.deferral) := by
  have does := does_step h s
  by_cases whole : (writable || (c.step s).2.all (·.sent?.isNone)) = true
  · exact .inl (by simp only [stepOn, whole, if_true])
  · have sending : (c.step s).2.all (·.sent?.isNone) = false := by
      rw [Bool.not_eq_true, Bool.or_eq_false_iff] at whole
      exact whole.2
    obtain ⟨a, ha, sent⟩ := List.all_eq_false.1 sending
    obtain ⟨f, rfl⟩ : ∃ f, a = .send f := by
      cases a with
      | send f => exact ⟨f, rfl⟩
      | _ => simp [Action.sent?] at sent
    obtain ⟨clock, delay, session, serving⟩ := does.serving_of_send ha
    have lost := dropLink_of_serving (does.isCoherent h) serving
    refine .inr ⟨session, serving, clock, delay, ?_⟩
    simp only [stepOn, whole, lost]
    rfl

theorem isCoherent_stepOn (h : c.IsCoherent) (writable : Bool) (s : Stimulus) :
    (c.stepOn writable s).1.IsCoherent := by
  obtain whole | ⟨session, -, -, -, broken⟩ := stepOn_cases h writable s
  · rw [whole]
    exact (does_step h s).isCoherent h
  · rw [broken]
    exact ⟨_, rfl⟩

theorem isCoherent_runOn (h : c.IsCoherent) (script : List (Bool × Stimulus)) :
    (c.runOn script).1.IsCoherent := by
  induction script generalizing c with
  | nil => exact h
  | cons e rest ih => exact ih (isCoherent_stepOn h e.1 e.2)

theorem fares_stepOn (h : c.IsCoherent) (writable : Bool) (s : Stimulus) :
    Fares c s (c.stepOn writable s).1 (c.stepOn writable s).2 := by
  have fares := (does_step h s).fares
  obtain whole | ⟨session, serving, clock, delay, broken⟩ := stepOn_cases h writable s
  · rw [whole]
    exact fares
  · have phase : (c.step s).1.deferred.phase = .reconnectPending c.clock := by
      rw [← clock]
      rfl
    have activity : (c.step s).1.deferred.activity = .waiting (c.clock + c.wait) := by
      rw [wait, ← clock, ← delay]
      rfl
    have marks : linkMarks (unsent (c.step s).2 ++
        .hangUp :: .note .linkLost :: (c.step s).1.deferral) =
        linkMarks (c.step s).2 ++ .hungUp :: .lost :: lossMarks := by
      rw [Action.linkMarks_append, Action.linkMarks_unsent]
      rfl
    rw [broken]
    -- The whole step would have left a connection, so there was one or it was just opened.
    cases fares with
    | aside _ same outcome quiet =>
      rw [quiet, List.nil_append] at marks
      obtain ⟨session, up⟩ : ∃ session, c.activity = .serving session := by
        obtain eq | ⟨-, session, -, up⟩ := Activity.bare_eq_iff.1 same
        · exact ⟨_, eq.symm.trans serving⟩
        · exact ⟨session, up⟩
      exact .lost session up phase activity outcome marks
    | answered dialled _ _ outcome told =>
      rw [told] at marks
      exact .broken dialled phase activity outcome marks
    | halted _ stopped => simp [serving] at stopped
    | refused _ _ waits | lost _ _ _ waits | broken _ _ waits => simp [serving] at waits
    | dialled _ _ _ _ calls => simp [serving] at calls

def Stimulus.span : Stimulus → Nat
  | .elapsed ms => ms
  | _ => 0

theorem Does.clock (does : Does c s input? c' actions) :
    c'.clock = c.clock + s.span ∧ c'.delay = c.delay := by
  cases does with
  | idle s ignored =>
    cases s with
    | elapsed ms => exact ignored.elim
    | _ => exact ⟨rfl, rfl⟩
  | _ => exact ⟨rfl, rfl⟩

theorem clock_stepOn (h : c.IsCoherent) (writable : Bool) (s : Stimulus) :
    (c.stepOn writable s).1.clock = c.clock + s.span ∧
      (c.stepOn writable s).1.wait = c.wait := by
  obtain ⟨clock, delay⟩ := (does_step h s).clock
  obtain whole | ⟨-, -, -, -, broken⟩ := stepOn_cases h writable s
  · rw [whole]
    exact ⟨clock, by rw [wait, delay, wait]⟩
  · rw [broken]
    exact ⟨clock, by rw [wait, deferred, delay, wait]⟩

end Client

end CollectorGateway
