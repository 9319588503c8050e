import CollectorGateway.Client
import CollectorGateway.Proofs.Gateway.Steps

/-!
What one stimulus can make the client do. `Does` lists all of it: the client
afterwards, its actions, and what it hands to the gateway, if anything. It holds
of a client whose phase is that of its activity, which every step preserves, so
the repairs of a wrong phase never happen.
-/

namespace CollectorGateway.Client

open Gateway (Input)

/-- The phase of the link is that of the activity. -/
def IsCoherent (c : Client) : Prop :=
  match c.activity with
  | .connecting => c.phase = .connecting
  | .serving _ => ∃ since, c.phase = .connected since
  | .waiting _ => ∃ since, c.phase = .reconnectPending since
  | .stopped => True

theorem IsCoherent.connecting {c : Client} (h : c.IsCoherent)
    (dialled : c.activity = .connecting) : c.phase = .connecting := by
  simpa [IsCoherent, dialled] using h

theorem IsCoherent.connected {c : Client} (h : c.IsCoherent) {s : Session}
    (serving : c.activity = .serving s) : ∃ since, c.phase = .connected since := by
  simpa [IsCoherent, serving] using h

theorem IsCoherent.reconnectPending {c : Client} (h : c.IsCoherent) {deadline : Nat}
    (waiting : c.activity = .waiting deadline) : ∃ since, c.phase = .reconnectPending since := by
  simpa [IsCoherent, waiting] using h

/-- What the client hands to its gateway when a stimulus comes. -/
def handed (c : Client) : Stimulus → Option Input
  | .turn .frame =>
    match c.activity with
    | .serving s => s.inbox.head?.map .frame
    | _ => none
  | .turn .request =>
    match c.activity with
    | .serving _ | .waiting _ => c.queue.head?.map .request
    | _ => none
  | _ => none

def inputs (c : Client) : List Stimulus → List Input
  | [] => []
  | s :: rest => (c.handed s).toList ++ (c.step s).1.inputs rest

def deferred (c : Client) : Client :=
  { c with
    phase := .reconnectPending c.clock
    activity := .waiting (c.clock + min c.delay longestWait) }

def deferral (c : Client) : List Action :=
  [publishPhase .disconnected, publishPhase (.reconnectPending c.clock),
    .note (.reconnectScheduled c.delay)]

def farewell : Activity → List Action
  | .serving _ => [.hangUp]
  | _ => []

def Ignores (c : Client) : Stimulus → Prop
  | .established | .refused => c.activity ≠ .connecting
  | .received _ | .ended => ∀ s, c.activity = .serving s → s.ended = true
  | .submitted _ => c.activity = .stopped
  | .elapsed _ | .released | .aborted => False
  | .turn t => c.isDue t = false

/-- What a stimulus makes the client hand over, become and do. -/
inductive Does (c : Client) : Stimulus → Option Input → Client → List Action → Prop
  | idle (s : Stimulus) (ignored : c.Ignores s) : Does c s none c []
  | establish (dialled : c.activity = .connecting) :
      Does c .established none
        { c with phase := .connected c.clock, activity := .serving .fresh }
        [publishPhase (.connected c.clock), .note .linkConnected, .send .getNetworkInfo]
  | refuse (dialled : c.activity = .connecting) :
      Does c .refused none c.deferred (.note .linkRefused :: c.deferral)
  | receive (bs : List UInt8) (s : Session) (serving : c.activity = .serving s)
      (lasting : s.ended = false) :
      Does c (.received bs) none { c with activity := .serving (s.receive bs) } []
  | finish (s : Session) (serving : c.activity = .serving s) (lasting : s.ended = false) :
      Does c .ended none { c with activity := .serving { s with ended := true } } (endNotes s)
  | submit (r : Request) (running : c.activity ≠ .stopped) :
      Does c (.submitted r) none { c with queue := c.queue ++ [r] } []
  | elapse (ms : Nat) : Does c (.elapsed ms) none { c with clock := c.clock + ms } []
  | release : Does c .released none { c with attended := false } []
  | abort :
      Does c .aborted none { c with activity := .stopped, queue := [] } (farewell c.activity)
  | frame (carry : List UInt8) (f : Frame) (inbox : List Frame) (ended : Bool)
      (serving : c.activity = .serving ⟨carry, f :: inbox, ended⟩) :
      Does c (.turn .frame) (some (.frame f))
        { c with
          gateway := (c.gateway.dispatch f).gateway
          activity := .serving ⟨carry, inbox, ended⟩ }
        ((c.gateway.dispatch f).effects.map .effect ++
          (c.gateway.dispatch f).reply.toList.map .send)
  | request (connected : Bool) (r : Request) (queue : List Request)
      (queued : c.queue = r :: queue)
      (able : (∃ s, c.activity = .serving s ∧ connected = true) ∨
        ∃ deadline, c.activity = .waiting deadline ∧ connected = false) :
      Does c (.turn .request) (some (.request r))
        { c with gateway := (c.gateway.answer r).gateway, queue }
        ((c.gateway.answer r).effects.map .effect ++
          replyTo connected (c.gateway.answer r).reply ++
          (c.gateway.answer r).fault.toList.map fun fault => .note (.requestFailed fault))
  | lose (carry : List UInt8) (serving : c.activity = .serving ⟨carry, [], true⟩) :
      Does c (.turn .loss) none c.deferred (.hangUp :: .note .linkLost :: c.deferral)
  | shutdown (unattended : c.attended = false) (queue : c.queue = [])
      (able : (∃ s, c.activity = .serving s) ∨ ∃ deadline, c.activity = .waiting deadline) :
      Does c (.turn .shutdown) none { c with activity := .stopped, queue := [] }
        (farewell c.activity ++ [.note .stopped])
  | dial (deadline : Nat) (waiting : c.activity = .waiting deadline) (due : deadline ≤ c.clock) :
      Does c (.turn .timer) none { c with phase := .connecting, activity := .connecting }
        [publishPhase .connecting, .note .linkConnecting, .dial]

theorem lose_of_phase {c : Client} {phase : LinkPhase} (h : c.phase.lose = .ok phase) :
    c.lose = (c.deferred, c.deferral) := by
  have hp : phase = .disconnected := by
    revert h
    unfold LinkPhase.lose
    split <;> simp [eq_comm]
  subst hp
  simp only [lose, h, schedule, LinkPhase.scheduleReconnect?]
  rfl

theorem lose_of_connecting {c : Client} (h : c.IsCoherent)
    (dialled : c.activity = .connecting) : c.lose = (c.deferred, c.deferral) := by
  have lost : c.phase.lose = .ok .disconnected := by rw [h.connecting dialled]; rfl
  exact lose_of_phase lost

theorem lose_of_serving {c : Client} (h : c.IsCoherent) {s : Session}
    (serving : c.activity = .serving s) : c.lose = (c.deferred, c.deferral) := by
  obtain ⟨since, hp⟩ := h.connected serving
  have lost : c.phase.lose = .ok .disconnected := by rw [hp]; rfl
  exact lose_of_phase lost

theorem dropLink_of_serving {c : Client} (h : c.IsCoherent) {s : Session}
    (serving : c.activity = .serving s) :
    c.dropLink = (c.deferred, .hangUp :: .note .linkLost :: c.deferral) := by
  rw [dropLink, lose_of_serving h serving]

theorem attempt_of_waiting {c : Client} (h : c.IsCoherent) {deadline : Nat}
    (waiting : c.activity = .waiting deadline) :
    c.attempt = ({ c with phase := .connecting, activity := .connecting },
      [publishPhase .connecting, .note .linkConnecting, .dial]) := by
  obtain ⟨since, hp⟩ := h.reconnectPending waiting
  simp [attempt, hp, LinkPhase.beginConnect]

theorem does_turn {c : Client} (h : c.IsCoherent) (t : Turn) :
    Does c (.turn t) (c.handed (.turn t)) (c.turn t).1 (c.turn t).2 := by
  have hlose := fun s (serving : c.activity = .serving s) => dropLink_of_serving h serving
  have hdial := fun deadline (waiting : c.activity = .waiting deadline) =>
    attempt_of_waiting h waiting
  obtain ⟨delay, clock, gateway, phase, activity, queue, attended⟩ := c
  cases t with
  | frame =>
    cases activity with
    | serving s =>
      obtain ⟨carry, inbox, ended⟩ := s
      cases inbox with
      | nil => exact .idle _ rfl
      | cons f inbox => exact .frame carry f inbox ended rfl
    | connecting | waiting | stopped => exact .idle _ rfl
  | request =>
    cases queue with
    | nil => cases activity <;> exact .idle _ rfl
    | cons r queue =>
      cases activity with
      | serving s => exact .request true r queue rfl (.inl ⟨s, rfl, rfl⟩)
      | waiting deadline => exact .request false r queue rfl (.inr ⟨deadline, rfl, rfl⟩)
      | connecting | stopped => exact .idle _ rfl
  | loss =>
    cases activity with
    | serving s =>
      have lost := hlose s rfl
      obtain ⟨carry, inbox, ended⟩ := s
      cases inbox with
      | nil =>
        cases ended with
        | false => exact .idle _ rfl
        | true =>
          simp only [turn, handed, lost]
          exact .lose carry rfl
      | cons => exact .idle _ rfl
    | connecting | waiting | stopped => exact .idle _ rfl
  | shutdown =>
    cases queue with
    | nil =>
      cases attended with
      | true => cases activity <;> exact .idle _ rfl
      | false =>
        cases activity with
        | serving s => exact .shutdown rfl rfl (.inl ⟨s, rfl⟩)
        | waiting deadline => exact .shutdown rfl rfl (.inr ⟨deadline, rfl⟩)
        | connecting | stopped => exact .idle _ rfl
    | cons => cases activity <;> exact .idle _ rfl
  | timer =>
    cases activity with
    | waiting deadline =>
      by_cases due : deadline ≤ clock
      · simp only [turn, handed, due, if_true, hdial deadline rfl]
        exact .dial deadline rfl due
      · simp only [turn, handed, due, if_false]
        exact .idle _ (decide_eq_false due)
    | connecting | serving | stopped => exact .idle _ rfl

theorem does_step {c : Client} (h : c.IsCoherent) (s : Stimulus) :
    Does c s (c.handed s) (c.step s).1 (c.step s).2 := by
  cases s with
  | established =>
    by_cases dialled : c.activity = .connecting
    · have hp := h.connecting dialled
      have does := Does.establish dialled
      simpa [step, dialled, handed, establish, hp, LinkPhase.completeConnect] using does
    · simpa [step, dialled, handed] using Does.idle .established dialled
  | refused =>
    by_cases dialled : c.activity = .connecting
    · have lost := lose_of_connecting h dialled
      have does := Does.refuse dialled
      simpa [step, dialled, handed, refuse, lost] using does
    · simpa [step, dialled, handed] using Does.idle .refused dialled
  | received bs =>
    obtain ⟨delay, clock, gateway, phase, activity, queue, attended⟩ := c
    cases activity with
    | serving s =>
      obtain ⟨carry, inbox, ended⟩ := s
      cases ended with
      | false => exact .receive bs _ rfl rfl
      | true => exact .idle _ (by rintro s ⟨⟩; rfl)
    | connecting | waiting | stopped => exact .idle _ nofun
  | ended =>
    obtain ⟨delay, clock, gateway, phase, activity, queue, attended⟩ := c
    cases activity with
    | serving s =>
      obtain ⟨carry, inbox, ended⟩ := s
      cases ended with
      | false => exact .finish _ rfl rfl
      | true => exact .idle _ (by rintro s ⟨⟩; rfl)
    | connecting | waiting | stopped => exact .idle _ nofun
  | submitted r =>
    by_cases stopped : c.activity = .stopped
    · simpa [step, stopped, handed] using Does.idle (.submitted r) stopped
    · simpa [step, stopped, handed] using Does.submit r stopped
  | elapsed ms => exact .elapse ms
  | released => exact .release
  | aborted => exact .abort
  | turn t => exact does_turn h t

theorem Does.isCoherent {c c' : Client} {s : Stimulus} {input? : Option Input}
    {actions : List Action} (does : Does c s input? c' actions) (h : c.IsCoherent) :
    c'.IsCoherent := by
  cases does with
  | idle | submit | elapse | release | request => exact h
  | establish => exact ⟨c.clock, rfl⟩
  | refuse | lose => exact ⟨c.clock, rfl⟩
  | receive _ _ serving | finish _ serving | frame _ _ _ _ serving => exact h.connected serving
  | abort | shutdown => exact True.intro
  | dial => exact (rfl : LinkPhase.connecting = _)

theorem isCoherent_start (delay : Nat) : (start delay).1.IsCoherent := rfl

end CollectorGateway.Client
