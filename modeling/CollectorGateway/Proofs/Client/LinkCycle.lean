import CollectorGateway.Proofs.Client.Link

/-!
The life of the link over a whole run. What is told of it is one episode after
another: the client connects, is connected if the call was taken, then
disconnected, and waits to reconnect. Every phase that is entered is told once,
the phase is always the one that is expected, and of the connections that were
opened one is open exactly while a running client is connected.
-/

namespace CollectorGateway

def Event.linkStatus? : Event → Option LinkStatus
  | linkState s => some s
  | _ => none

def LinkMark.status? : LinkMark → Option LinkStatus
  | told s => some s
  | _ => none

/-- What is told of a call and all that comes of it. -/
def LinkStatus.episode : Bool → List LinkStatus
  | true => [connecting, connected, disconnected, reconnectPending]
  | false => [connecting, disconnected, reconnectPending]

namespace LinkPhase

inductive Becomes (p q : LinkPhase) : Prop
  | begin (h : p.beginConnect = .ok q)
  | complete (now : Nat) (h : p.completeConnect now = .ok q)
  | lose (h : p.lose = .ok q)
  | schedule (now : Nat) (h : p.scheduleReconnect? now = some q)

inductive Passes : LinkPhase → List LinkStatus → LinkPhase → Prop
  | still (p : LinkPhase) : Passes p [] p
  | change {p q r : LinkPhase} {told : List LinkStatus} (first : Becomes p q)
      (later : Passes q told r) : Passes p (q.status :: told) r

theorem Passes.trans {p q r : LinkPhase} {a b : List LinkStatus} (first : Passes p a q)
    (later : Passes q b r) : Passes p (a ++ b) r := by
  induction first with
  | still => exact later
  | change becomes _ ih => exact .change becomes (ih later)

theorem passes_lose {p : LinkPhase} (up : p.lose = .ok .disconnected) (now : Nat) :
    Passes p [.disconnected, .reconnectPending] (.reconnectPending now) := by
  have pending : Becomes .disconnected (.reconnectPending now) := .schedule now rfl
  exact .change (.lose up) (.change pending (.still _))

end LinkPhase

namespace Action

def linkStates (actions : List Action) : List LinkStatus :=
  (actions.filterMap event?).filterMap Event.linkStatus?

theorem linkStates_append (a b : List Action) :
    linkStates (a ++ b) = linkStates a ++ linkStates b := by
  simp only [linkStates, List.filterMap_append]

theorem linkStates_eq_marks (actions : List Action) :
    linkStates actions = (linkMarks actions).filterMap LinkMark.status? := by
  have same : ∀ a : Action, a.event?.bind Event.linkStatus? = a.linkMark?.bind LinkMark.status? := by
    intro a
    cases a with
    | effect e =>
      cases e with
      | note n => cases n <;> rfl
      | publish e => cases e <;> rfl
      | record r => rfl
    | _ => rfl
  rw [linkStates, linkMarks, List.filterMap_filterMap, List.filterMap_filterMap]
  exact congrArg (List.filterMap · actions) (funext same)

theorem countP_isHangUp (actions : List Action) :
    actions.countP isHangUp = (linkMarks actions).count .hungUp := by
  have same : ∀ a : Action, isHangUp a = (a.linkMark? == some .hungUp) := by
    intro a
    cases a with
    | effect e =>
      cases e with
      | note n => cases n <;> rfl
      | publish e => cases e <;> rfl
      | record r => rfl
    | _ => rfl
  rw [linkMarks, List.count_filterMap]
  exact congrArg (List.countP · actions) (funext same)

end Action

namespace Client

open LinkStatus (episode)
open LinkPhase (Passes)
open CollectorGateway.Action (linkMarks linkStates)

variable {c c' : Client} {s : Stimulus} {actions : List Action}

def outcomes (c : Client) : List (Bool × Stimulus) → List Bool
  | [] => []
  | (writable, s) :: rest =>
    (c.callOutcome? s).toList ++ (c.stepOn writable s).1.outcomes rest

/-- What was told of the link after some calls, by the phase it is now in. -/
def Told (outcomes : List Bool) (told : List LinkStatus) : LinkPhase → Prop
  | .disconnected => False
  | .connecting => told = outcomes.flatMap episode ++ [.connecting]
  | .connected _ => ∃ earlier, outcomes = earlier ++ [true] ∧
      told = earlier.flatMap episode ++ [.connecting, .connected]
  | .reconnectPending _ => told = outcomes.flatMap episode

def connections (c : Client) : Nat := if c.activity.bare = .serving .fresh then 1 else 0

structure NeedsNoRepair (c : Client) : Prop where
  begins : ∀ deadline, c.activity = .waiting deadline → c.phase.beginConnect = .ok .connecting
  completes : c.activity = .connecting →
    c.phase.completeConnect c.clock = .ok (.connected c.clock)
  loses : c.activity = .connecting ∨ (∃ s, c.activity = .serving s) →
    c.phase.lose = .ok .disconnected ∧
      LinkPhase.disconnected.scheduleReconnect? c.clock = some (.reconnectPending c.clock)

theorem IsCoherent.needsNoRepair (h : c.IsCoherent) : c.NeedsNoRepair where
  begins deadline waiting := by
    obtain ⟨since, phase⟩ := h.reconnectPending waiting
    rw [phase]
    rfl
  completes dialled := by
    rw [h.connecting dialled]
    rfl
  loses up := by
    refine ⟨?_, rfl⟩
    obtain dialled | ⟨session, serving⟩ := up
    · rw [h.connecting dialled]
      rfl
    · obtain ⟨since, phase⟩ := h.connected serving
      rw [phase]
      rfl

theorem Fares.told (fares : Fares c s c' actions) (h : c.IsCoherent) {outcomes : List Bool}
    {told : List LinkStatus} (begun : Told outcomes told c.phase) :
    Told (outcomes ++ (c.callOutcome? s).toList) (told ++ linkStates actions) c'.phase := by
  rw [Action.linkStates_eq_marks]
  cases fares with
  | aside phase _ outcome marks =>
    rw [phase, outcome, marks]
    simpa using begun
  | halted phase _ outcome marks =>
    have silent : (linkMarks actions).filterMap LinkMark.status? = [] := by
      rw [marks]
      split <;> rfl
    rw [phase, outcome, silent]
    simpa using begun
  | answered dialled phase _ outcome marks =>
    rw [h.connecting dialled] at begun
    rw [phase, outcome, marks]
    exact ⟨outcomes, rfl, by rw [begun, List.append_assoc]; rfl⟩
  | refused dialled phase _ outcome marks | broken dialled phase _ outcome marks =>
    rw [h.connecting dialled] at begun
    rw [phase, outcome, marks]
    simp only [Told] at begun ⊢
    rw [begun, List.append_assoc, List.flatMap_append]
    rfl
  | lost session serving phase _ outcome marks =>
    obtain ⟨since, up⟩ := h.connected serving
    rw [up] at begun
    obtain ⟨earlier, rfl, begun⟩ := begun
    rw [phase, outcome, marks]
    simp only [Told, Option.toList_none, List.append_nil]
    rw [begun, List.append_assoc, List.flatMap_append]
    rfl
  | dialled deadline waiting _ phase _ outcome marks =>
    obtain ⟨since, pending⟩ := h.reconnectPending waiting
    rw [pending] at begun
    rw [phase, outcome, marks]
    simp only [Told, Option.toList_none, List.append_nil] at begun ⊢
    rw [begun]
    rfl

theorem Fares.passes (fares : Fares c s c' actions) (h : c.IsCoherent) :
    Passes c.phase (linkStates actions) c'.phase := by
  have fit := h.needsNoRepair
  rw [Action.linkStates_eq_marks]
  cases fares with
  | aside phase _ _ marks =>
    rw [phase, marks]
    exact .still _
  | halted phase _ _ marks =>
    have silent : (linkMarks actions).filterMap LinkMark.status? = [] := by
      rw [marks]
      split <;> rfl
    rw [phase, silent]
    exact .still _
  | answered dialled phase _ _ marks =>
    rw [phase, marks]
    exact .change (.complete _ (fit.completes dialled)) (.still _)
  | refused dialled phase _ _ marks =>
    rw [phase, marks]
    exact LinkPhase.passes_lose (fit.loses (.inl dialled)).1 _
  | lost session serving phase _ _ marks =>
    rw [phase, marks]
    exact LinkPhase.passes_lose (fit.loses (.inr ⟨session, serving⟩)).1 _
  | broken dialled phase _ _ marks =>
    rw [phase, marks]
    exact .change (.complete _ (fit.completes dialled)) (LinkPhase.passes_lose rfl _)
  | dialled deadline waiting _ phase _ _ marks =>
    rw [phase, marks]
    exact .change (.begin (fit.begins deadline waiting)) (.still _)

theorem Fares.told_nil_iff (fares : Fares c s c' actions) (h : c.IsCoherent) :
    linkStates actions = [] ↔ c'.phase = c.phase := by
  rw [Action.linkStates_eq_marks]
  cases fares with
  | aside phase _ _ marks => simp [phase, marks]
  | halted phase _ _ marks =>
    rw [phase, marks]
    split <;> simp [LinkMark.status?]
  | answered dialled phase _ _ marks | refused dialled phase _ _ marks
  | broken dialled phase _ _ marks =>
    simp [phase, marks, h.connecting dialled, LinkMark.status?, lossMarks]
  | lost session serving phase _ _ marks =>
    obtain ⟨since, up⟩ := h.connected serving
    simp [phase, marks, up, LinkMark.status?, lossMarks]
  | dialled deadline waiting _ phase _ _ marks =>
    obtain ⟨since, pending⟩ := h.reconnectPending waiting
    simp [phase, marks, pending, LinkMark.status?]

theorem Fares.connections (fares : Fares c s c' actions) :
    (c.callOutcome? s).toList.count true + c.connections =
      (linkMarks actions).count .hungUp + c'.connections := by
  cases fares with
  | aside _ activity outcome marks => simp [Client.connections, activity, outcome, marks]
  | halted _ activity outcome marks =>
    rw [outcome, marks, Client.connections, Client.connections, activity]
    split <;> simp [Activity.bare]
  | answered dialled _ activity outcome marks =>
    simp [Client.connections, dialled, activity, outcome, marks, Activity.bare]
  | refused dialled _ activity outcome marks | broken dialled _ activity outcome marks =>
    simp [Client.connections, dialled, activity, outcome, marks, lossMarks, Activity.bare]
  | lost session serving _ activity outcome marks =>
    simp [Client.connections, serving, activity, outcome, marks, lossMarks, Activity.bare]
  | dialled deadline waiting _ _ activity outcome marks =>
    simp [Client.connections, waiting, activity, outcome, marks, Activity.bare]

theorem Fares.not_repaired (fares : Fares c s c' actions) : .repaired ∉ linkMarks actions := by
  cases fares with
  | halted _ _ _ marks =>
    rw [marks]
    split <;> simp
  | _ => simp [*, lossMarks]

theorem IsCoherent.connections (h : c.IsCoherent) :
    c.connections =
      if c.phase.status = .connected ∧ c.activity ≠ .stopped then 1 else 0 := by
  cases running : c.activity with
  | connecting => simp [Client.connections, running, h.connecting running, Activity.bare,
      LinkPhase.status]
  | serving session =>
    obtain ⟨since, up⟩ := h.connected running
    simp [Client.connections, running, up, Activity.bare, LinkPhase.status]
  | waiting deadline =>
    obtain ⟨since, pending⟩ := h.reconnectPending running
    simp [Client.connections, running, pending, Activity.bare, LinkPhase.status]
  | stopped => simp [Client.connections, running, Activity.bare]

/-- What a client did for its link so far, and how its calls were answered. -/
structure LinkHistory (outcomes : List Bool) (actions : List Action) (c : Client) : Prop where
  coherent : c.IsCoherent
  told : Told outcomes (linkStates actions) c.phase
  passes : Passes .disconnected (linkStates actions) c.phase
  connections : outcomes.count true = (linkMarks actions).count .hungUp + c.connections
  unrepaired : .repaired ∉ linkMarks actions

variable {outcomes : List Bool} {done : List Action}

theorem linkHistory_start (delay : Nat) : LinkHistory [] (start delay).2 (start delay).1 where
  coherent := isCoherent_start delay
  told := rfl
  passes := .change (.begin rfl) (.still _)
  connections := rfl
  unrepaired := by simp [linkMarks, start, attempt, LinkPhase.beginConnect, publishPhase,
    Action.publish, Action.note, Action.linkMark?, Effect.linkMark?]

theorem LinkHistory.step (history : LinkHistory outcomes done c) (writable : Bool)
    (s : Stimulus) :
    LinkHistory (outcomes ++ (c.callOutcome? s).toList) (done ++ (c.stepOn writable s).2)
      (c.stepOn writable s).1 := by
  obtain ⟨coherent, told, passes, connections, unrepaired⟩ := history
  have fares := fares_stepOn coherent writable s
  refine ⟨isCoherent_stepOn coherent writable s, ?_, ?_, ?_, ?_⟩
  · rw [Action.linkStates_append]
    exact fares.told coherent told
  · rw [Action.linkStates_append]
    exact passes.trans (fares.passes coherent)
  · have balance := fares.connections
    rw [Action.linkMarks_append, List.count_append, List.count_append]
    omega
  · rw [Action.linkMarks_append, List.mem_append, not_or]
    exact ⟨unrepaired, fares.not_repaired⟩

theorem LinkHistory.run (history : LinkHistory outcomes done c)
    (script : List (Bool × Stimulus)) :
    LinkHistory (outcomes ++ c.outcomes script) (done ++ (c.runOn script).2)
      (c.runOn script).1 := by
  induction script generalizing c outcomes done with
  | nil => simpa [Client.outcomes, runOn] using history
  | cons e rest ih =>
    have later := ih (history.step e.1 e.2)
    simp only [List.append_assoc] at later
    exact later

theorem Told.prefix_episodes {told : List LinkStatus} {phase : LinkPhase}
    (h : Told outcomes told phase) (next : Bool) :
    told <+: (outcomes ++ [next]).flatMap episode := by
  have opening : [.connecting] <+: episode next := by
    cases next
    · exact ⟨_, rfl⟩
    · exact ⟨_, rfl⟩
  rw [List.flatMap_append, List.flatMap_singleton]
  cases phase with
  | disconnected => exact h.elim
  | connecting =>
    rw [show told = _ from h]
    exact (List.prefix_append_right_inj _).2 opening
  | connected since =>
    obtain ⟨earlier, rfl, rfl⟩ := h
    rw [List.flatMap_append, List.append_assoc]
    exact (List.prefix_append_right_inj _).2 ⟨_, rfl⟩
  | reconnectPending since =>
    rw [show told = _ from h]
    exact List.prefix_append _ _

theorem count_episodes (outcomes : List Bool) :
    (outcomes.flatMap episode).count .connected = outcomes.count true ∧
    (outcomes.flatMap episode).count .connecting = outcomes.length := by
  induction outcomes with
  | nil => exact ⟨rfl, rfl⟩
  | cons b rest ih =>
    obtain ⟨connected, connecting⟩ := ih
    cases b <;> simp [episode, connected, connecting]

theorem Told.counts {told : List LinkStatus} {phase : LinkPhase} (h : Told outcomes told phase) :
    told.count .connected = outcomes.count true ∧
    told.count .connecting = outcomes.length + if phase.status = .connecting then 1 else 0 := by
  cases phase with
  | disconnected => exact h.elim
  | connecting =>
    rw [show told = _ from h]
    simp [count_episodes, LinkPhase.status]
  | connected since =>
    obtain ⟨earlier, rfl, rfl⟩ := h
    simp [count_episodes, LinkPhase.status]
  | reconnectPending since =>
    rw [show told = _ from h]
    simp [count_episodes, LinkPhase.status]

/-- On every run, also over connections that break, the link is told in whole episodes and the
last one's beginning, each change of phase once; no phase has to be set right, and of the
connections that were opened one at most is open. -/
theorem link_life_cycle (delay : Nat) (script : List (Bool × Stimulus)) :
    let start := Client.start delay
    let client := (start.1.runOn script).1
    let actions := start.2 ++ (start.1.runOn script).2
    let outcomes := start.1.outcomes script
    let told := linkStates actions
    (∀ next, told <+: (outcomes ++ [next]).flatMap episode) ∧
    told.count .connected = outcomes.count true ∧
    told.count .connecting =
      outcomes.length + (if client.phase.status = .connecting then 1 else 0) ∧
    Passes .disconnected told client.phase ∧
    (∀ writable s,
      let next := client.stepOn writable s
      Passes client.phase (linkStates next.2) next.1.phase ∧
      (linkStates next.2 = [] ↔ next.1.phase = client.phase)) ∧
    client.NeedsNoRepair ∧
    (∀ fault, .note (.linkReset fault) ∉ actions) ∧
    (∀ fault phase, .note (.linkPhaseUnexpected fault phase) ∉ actions) ∧
    outcomes.count true = actions.countP Action.isHangUp +
      if client.phase.status = .connected ∧ client.activity ≠ .stopped then 1 else 0 := by
  intro start client actions outcomes told
  have history : LinkHistory outcomes actions client := (linkHistory_start delay).run script
  obtain ⟨connected, connecting⟩ := history.told.counts
  refine ⟨history.told.prefix_episodes, connected, connecting, history.passes, ?_,
    history.coherent.needsNoRepair, ?_, ?_, ?_⟩
  · intro writable s next
    have fares := fares_stepOn history.coherent writable s
    exact ⟨fares.passes history.coherent, fares.told_nil_iff history.coherent⟩
  · intro fault reset
    exact history.unrepaired (List.mem_filterMap.2 ⟨_, reset, rfl⟩)
  · intro fault phase unexpected
    exact history.unrepaired (List.mem_filterMap.2 ⟨_, unexpected, rfl⟩)
  · rw [Action.countP_isHangUp, ← history.coherent.connections]
    exact history.connections

end Client

end CollectorGateway
