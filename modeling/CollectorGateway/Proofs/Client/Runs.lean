import CollectorGateway.Proofs.Client.Steps
import CollectorGateway.Trial

/-!
Runs of the client. To its gateway a run is the sequence of frames and requests
that the client hands over in it: what the gateway then knows, the readings and
the events that are not about the link depend on nothing else. A client that is
let do what is due comes to rest.
-/

namespace CollectorGateway

namespace Action

def readings (actions : List Action) : List Reading := actions.filterMap reading?

/-- The published events that are not about the link. -/
def news (actions : List Action) : List Event :=
  (actions.filterMap event?).filter fun e => !e.isLinkState

theorem readings_append (a b : List Action) : readings (a ++ b) = readings a ++ readings b :=
  List.filterMap_append

theorem news_append (a b : List Action) : news (a ++ b) = news a ++ news b := by
  simp only [news, List.filterMap_append, List.filter_append]

theorem readings_map_effect (effects : List Effect) :
    readings (effects.map effect) = effects.filterMap Effect.reading? :=
  List.filterMap_map

theorem news_map_effect (effects : List Effect) :
    news (effects.map effect) =
      (effects.filterMap Effect.event?).filter fun e => !e.isLinkState := by
  rw [news, List.filterMap_map]
  rfl

def AreQuiet (actions : List Action) : Prop :=
  ∀ a ∈ actions, a.reading? = none ∧ a.event? = none

theorem AreQuiet.readings {actions : List Action} (h : AreQuiet actions) :
    readings actions = [] :=
  List.filterMap_eq_nil_iff.2 fun a ha => (h a ha).1

theorem AreQuiet.news {actions : List Action} (h : AreQuiet actions) : news actions = [] := by
  have hevents : actions.filterMap event? = [] :=
    List.filterMap_eq_nil_iff.2 fun a ha => (h a ha).2
  rw [Action.news, hevents]
  rfl

theorem AreQuiet.append {a b : List Action} (ha : AreQuiet a) (hb : AreQuiet b) :
    AreQuiet (a ++ b) := by
  intro action h
  obtain h | h := List.mem_append.1 h
  · exact ha action h
  · exact hb action h

theorem areQuiet_sends (frames : List Frame) : AreQuiet (frames.map send) := by
  intro a ha
  obtain ⟨f, -, rfl⟩ := List.mem_map.1 ha
  exact ⟨rfl, rfl⟩

theorem areQuiet_notes {α : Type} (f : α → Note) (xs : List α) :
    AreQuiet (xs.map fun x => note (f x)) := by
  intro a ha
  obtain ⟨x, -, rfl⟩ := List.mem_map.1 ha
  exact ⟨rfl, rfl⟩

end Action

theorem Gateway.Moves.not_link {g g' : Gateway} {listed : Option (List RosterEntry)}
    {events : List Event} (h : Moves g listed g' events) :
    ∀ e ∈ events, e.isLinkState = false := by
  cases h <;> simp [Event.isLinkState]

namespace Client

open Gateway (Input)

def Stimulus.request? : Stimulus → Option Request
  | .submitted r => some r
  | _ => none

theorem areQuiet_replyTo (connected : Bool) (reply : Option Frame) :
    Action.AreQuiet (replyTo connected reply) := by
  cases connected with
  | true => exact Action.areQuiet_sends _
  | false => exact Action.areQuiet_notes _ _

theorem outcome_actions (g : Gateway) (i : Input) {actions : List Action}
    (quiet : Action.AreQuiet actions) :
    Action.readings ((g.handle i).effects.map .effect ++ actions) = g.recorded [i] ∧
    Action.news ((g.handle i).effects.map .effect ++ actions) = g.published [i] := by
  refine ⟨?_, ?_⟩
  · rw [Action.readings_append, Action.readings_map_effect, quiet.readings, List.append_nil,
      Gateway.recorded_singleton]
    rfl
  · rw [Action.news_append, Action.news_map_effect, quiet.news, List.append_nil,
      Gateway.published_singleton]
    refine List.filter_eq_self.2 fun e he => ?_
    have other := (Gateway.moves_handle g i).not_link e he
    simp only [other, Bool.not_false]

variable {c c' : Client} {s : Stimulus} {input? : Option Input} {actions : List Action}

theorem Does.gateway (does : Does c s input? c' actions) :
    c'.gateway = c.gateway.after input?.toList := by
  cases does <;> rfl

theorem Does.outcome (does : Does c s input? c' actions) :
    Action.readings actions = c.gateway.recorded input?.toList ∧
    Action.news actions = c.gateway.published input?.toList := by
  cases does with
  | frame carry f => exact outcome_actions c.gateway (.frame f) (Action.areQuiet_sends _)
  | request connected r =>
    rw [List.append_assoc]
    exact outcome_actions c.gateway (.request r)
      ((areQuiet_replyTo connected _).append (Action.areQuiet_notes _ _))
  | finish s =>
    unfold endNotes
    split <;> exact ⟨rfl, rfl⟩
  | abort | shutdown =>
    unfold farewell
    split <;> exact ⟨rfl, rfl⟩
  | _ => exact ⟨rfl, rfl⟩

/-- A client that someone attends and nobody has stopped. -/
structure IsUp (c : Client) : Prop where
  coherent : c.IsCoherent
  attended : c.attended = true
  running : c.activity ≠ .stopped

theorem isUp_start (delay : Nat) : (start delay).1.IsUp :=
  ⟨isCoherent_start delay, rfl, nofun⟩

theorem Does.isUp (does : Does c s input? c' actions) (h : c.IsUp) (released : s ≠ .released)
    (aborted : s ≠ .aborted) : c'.IsUp := by
  have coherent := does.isCoherent h.coherent
  have attended := h.attended
  cases does with
  | release => exact absurd rfl released
  | abort => exact absurd rfl aborted
  | shutdown unattended => simp [unattended] at attended
  | idle | submit | elapse | request => exact ⟨coherent, attended, h.running⟩
  | _ => exact ⟨coherent, attended, nofun⟩

theorem Does.answered (does : Does c s input? c' actions) (running : c.activity ≠ .stopped)
    (aborted : s ≠ .aborted) :
    input?.toList.filterMap Input.request? ++ c'.queue = c.queue ++ s.request?.toList := by
  cases does with
  | idle s ignored =>
    cases s with
    | submitted r => exact absurd ignored running
    | _ => exact (List.append_nil _).symm
  | submit r => rfl
  | request connected r queue queued => exact queued ▸ (List.append_nil _).symm
  | abort => exact absurd rfl aborted
  | shutdown _ queue => simp [queue, Stimulus.request?]
  | _ => exact (List.append_nil _).symm

theorem isUp_run (h : c.IsUp) {script : List Stimulus} (released : .released ∉ script)
    (aborted : .aborted ∉ script) : (c.run script).1.IsUp := by
  induction script generalizing c with
  | nil => exact h
  | cons s rest ih =>
    simp only [List.mem_cons, not_or] at released aborted
    have up := (does_step h.coherent s).isUp h (Ne.symm released.1) (Ne.symm aborted.1)
    exact ih up released.2 aborted.2

theorem run_answered (h : c.IsUp) {script : List Stimulus} (released : .released ∉ script)
    (aborted : .aborted ∉ script) :
    (c.inputs script).filterMap Input.request? ++ (c.run script).1.queue =
      c.queue ++ script.filterMap Stimulus.request? := by
  induction script generalizing c with
  | nil => simp [inputs, run]
  | cons s rest ih =>
    simp only [List.mem_cons, not_or] at released aborted
    have does := does_step h.coherent s
    have first := does.answered h.running (Ne.symm aborted.1)
    have later := ih (does.isUp h (Ne.symm released.1) (Ne.symm aborted.1)) released.2 aborted.2
    calc
      (c.inputs (s :: rest)).filterMap Input.request? ++ (c.run (s :: rest)).1.queue
        = (c.handed s).toList.filterMap Input.request? ++
            (((c.step s).1.inputs rest).filterMap Input.request? ++
              ((c.step s).1.run rest).1.queue) := by
          rw [inputs, List.filterMap_append, List.append_assoc, run]
      _ = c.queue ++ (s.request?.toList ++ rest.filterMap Stimulus.request?) := by
          rw [later, ← List.append_assoc, first, List.append_assoc]
      _ = c.queue ++ (s :: rest).filterMap Stimulus.request? := by
          rw [List.filterMap_cons]
          cases s.request? <;> rfl

theorem run_eq_after (h : c.IsCoherent) (script : List Stimulus) :
    (c.run script).1.gateway = c.gateway.after (c.inputs script) ∧
    Action.readings (c.run script).2 = c.gateway.recorded (c.inputs script) ∧
    Action.news (c.run script).2 = c.gateway.published (c.inputs script) := by
  induction script generalizing c with
  | nil => exact ⟨rfl, rfl, rfl⟩
  | cons s rest ih =>
    have does := does_step h s
    obtain ⟨first_readings, first_news⟩ := does.outcome
    obtain ⟨knowledge, readings, news⟩ := ih (does.isCoherent h)
    rw [does.gateway] at knowledge readings news
    simp only [run, inputs]
    refine ⟨?_, ?_, ?_⟩
    · rw [knowledge, Gateway.after_append]
    · rw [Action.readings_append, first_readings, readings, Gateway.recorded_append]
    · rw [Action.news_append, first_news, news, Gateway.published_append]

theorem due?_eq_none_iff : c.due? = none ↔ ∀ t, t ≠ .timer → c.isDue t = false := by
  simp only [due?, List.find?_eq_none, preference, List.mem_cons, List.not_mem_nil, or_false,
    forall_eq_or_imp, forall_eq, Bool.not_eq_true]
  constructor
  · rintro ⟨hframe, hrequest, hloss, hshutdown⟩ t ht
    cases t with
    | timer => exact absurd rfl ht
    | _ => assumption
  · intro h
    exact ⟨h _ nofun, h _ nofun, h _ nofun, h _ nofun⟩

theorem isDue_of_due? {t : Turn} (h : c.due? = some t) : c.isDue t = true ∧ t ≠ .timer := by
  have hmem := List.mem_of_find?_eq_some h
  refine ⟨List.find?_some h, ?_⟩
  rintro rfl
  simp [preference] at hmem

theorem work_turn (h : c.IsCoherent) {t : Turn} (due : c.isDue t = true) (ht : t ≠ .timer) :
    (c.turn t).1.work < c.work := by
  have does := does_turn h t
  generalize (c.turn t).1 = c', (c.turn t).2 = actions, c.handed (.turn t) = input? at does
  cases does with
  | idle _ ignored => simp [Ignores, due] at ignored
  | frame carry f inbox ended serving => simp [work, serving]
  | request connected r queue queued => simp only [work, queued, List.length_cons]; omega
  | lose carry serving => simp [work, serving, deferred]
  | shutdown _ queue able =>
    obtain ⟨s, serving⟩ | ⟨deadline, waiting⟩ := able
    · simp only [work, serving, queue, List.length_nil]
      omega
    · simp only [work, waiting, queue, List.length_nil]
      omega
  | dial => exact absurd rfl ht

theorem comes_to_rest (h : c.IsCoherent) :
    ∃ turns : List Turn, (c.run (turns.map .turn)).1.due? = none := by
  induction left : c.work using Nat.strongRecOn generalizing c with
  | ind n ih =>
    cases due? : c.due? with
    | none => exact ⟨[], due?⟩
    | some t =>
      obtain ⟨due, untimed⟩ := isDue_of_due? due?
      have less : (c.turn t).1.work < n := left ▸ work_turn h due untimed
      obtain ⟨turns, rest⟩ := ih _ less ((does_turn h t).isCoherent h) rfl
      exact ⟨t :: turns, rest⟩

end Client

end CollectorGateway
