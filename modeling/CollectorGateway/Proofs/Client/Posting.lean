import CollectorGateway.Proofs.Client.Link
import CollectorGateway.Proofs.Client.Sessions

/-!
What the client hands to its connections, and what becomes of requests. For each
connection that is the question for the network and then the replies to what is
handled while it is open, nothing else; a request that comes before it or after it
adds nothing. Requests are handled once each in the order they were made.
-/

namespace CollectorGateway

/-- A list cut at each gap: what stands before the first one, and after each. -/
def cut {α : Type} : List (Option α) → List α × List (List α)
  | [] => ([], [])
  | none :: rest => ([], (cut rest).1 :: (cut rest).2)
  | some a :: rest => (a :: (cut rest).1, (cut rest).2)

theorem cut_append_some {α : Type} (xs : List α) (rest : List (Option α)) :
    cut (xs.map some ++ rest) = (xs ++ (cut rest).1, (cut rest).2) := by
  induction xs with
  | nil => rfl
  | cons x xs ih => simp [cut, ih]

def Action.posted : Action → List (Option UInt8)
  | .effect (.publish (.linkState .connected)) => [none]
  | .send f => f.toOctets.map some
  | _ => []

theorem Action.posted_effects {effects : List Effect} (h : Effect.AreAside effects) :
    (effects.map Action.effect).flatMap Action.posted = [] := by
  refine List.flatMap_eq_nil_iff.2 fun a ha => ?_
  obtain ⟨e, he, rfl⟩ := List.mem_map.1 ha
  have aside := h e he
  cases e with
  | publish event =>
    cases event with
    | linkState status => simp [Effect.linkMark?] at aside
    | _ => rfl
  | _ => rfl

theorem Action.posted_sends (frames : List Frame) :
    (frames.map Action.send).flatMap Action.posted = (frames.flatMap Frame.toOctets).map some := by
  rw [List.flatMap_map, List.map_flatMap]
  rfl

namespace Gateway

def posted (g : Gateway) : List (Option Input) → List (Option UInt8)
  | [] => []
  | none :: rest => none :: (Frame.getNetworkInfo.toOctets.map some ++ g.posted rest)
  | some i :: rest =>
    ((g.handle i).reply.toList.flatMap Frame.toOctets).map some ++ (g.handle i).gateway.posted rest

/-- The streams of some connections, each with the inputs handled while it is open. -/
def streams (g : Gateway) : List (List Input) → List (List UInt8)
  | [] => []
  | talk :: later =>
    (Frame.getNetworkInfo :: g.replies talk).flatMap Frame.toOctets :: (g.after talk).streams later

theorem posted_append (g : Gateway) (a b : List (Option Input)) :
    g.posted (a ++ b) = g.posted a ++ (g.after (a.filterMap id)).posted b := by
  induction a generalizing g with
  | nil => rfl
  | cons occasion rest ih =>
    cases occasion with
    | none => simp [posted, ih]
    | some i => simp [posted, ih, after]

theorem cut_posted (g : Gateway) (occasions : List (Option Input)) :
    cut (g.posted occasions) =
      ((g.replies (cut occasions).1).flatMap Frame.toOctets,
        (g.after (cut occasions).1).streams (cut occasions).2) := by
  induction occasions generalizing g with
  | nil => rfl
  | cons occasion rest ih =>
    cases occasion with
    | none =>
      simp only [posted, cut, cut_append_some, ih]
      rfl
    | some i =>
      simp only [posted, cut, cut_append_some, ih]
      simp only [replies, outcomes, List.flatMap_cons, List.flatMap_append]
      rfl

end Gateway

namespace Client

open Gateway (Input)

variable {c c' : Client} {s : Stimulus} {input? : Option Input} {actions : List Action}

/-- A gap where a connection is opened, and what is handled while one is open. -/
def occasion (c : Client) (s : Stimulus) : List (Option Input) :=
  match s, c.activity with
  | .established, .connecting => [none]
  | s, .serving _ => (c.handed s).toList.map some
  | _, _ => []

def occasions (c : Client) : List Stimulus → List (Option Input)
  | [] => []
  | s :: rest => c.occasion s ++ (c.step s).1.occasions rest

def accepted (c : Client) : List Stimulus → List Request
  | [] => []
  | s :: rest =>
    (if c.activity = .stopped then [] else s.request?.toList) ++ (c.step s).1.accepted rest

theorem occasion_of_handed {i : Input} {session : Session} (serving : c.activity = .serving session)
    (handed : c.handed s = some i) : c.occasion s = [some i] := by
  simp [occasion, serving, handed]

theorem occasion_of_unhanded (unhanded : c.handed s = none)
    (unopened : ¬(s = .established ∧ c.activity = .connecting)) : c.occasion s = [] := by
  unfold occasion
  split
  · rename_i dialled
    exact absurd ⟨rfl, dialled⟩ unopened
  · rw [unhanded]
    rfl
  · rfl

theorem Does.silent (does : Does c s none c' actions)
    (unopened : ¬(s = .established ∧ c.activity = .connecting)) :
    actions.flatMap Action.posted = [] := by
  cases does with
  | establish dialled => exact absurd ⟨rfl, dialled⟩ unopened
  | finish session =>
    unfold endNotes
    split <;> rfl
  | abort | shutdown =>
    unfold farewell
    split <;> rfl
  | _ => rfl

theorem posted_replyTo (connected : Bool) (reply : Option Frame) (fault : Option Fault) :
    (replyTo connected reply ++
        fault.toList.map fun fault => Action.note (.requestFailed fault)).flatMap Action.posted =
      ((if connected then reply else none).toList.flatMap Frame.toOctets).map some := by
  cases connected <;> cases reply <;> cases fault <;> simp [replyTo, Action.posted, Action.note]

theorem posted_step (h : c.IsCoherent) (s : Stimulus) :
    (c.step s).2.flatMap Action.posted = c.gateway.posted (c.occasion s) ∧
      (c.step s).1.gateway = c.gateway.after ((c.occasion s).filterMap id) := by
  have does := does_step h s
  have gateway := does.gateway
  generalize (c.step s).1 = c', (c.step s).2 = actions, hi : c.handed s = input? at does gateway ⊢
  cases input? with
  | none =>
    by_cases opened : s = .established ∧ c.activity = .connecting
    · obtain ⟨rfl, dialled⟩ := opened
      have gap : c.occasion .established = [none] := by simp [occasion, dialled]
      rw [gap]
      refine ⟨?_, gateway⟩
      cases does with
      | establish => rfl
      | idle _ ignored => exact absurd dialled ignored
    · rw [occasion_of_unhanded hi opened]
      exact ⟨does.silent opened, gateway⟩
  | some i =>
    cases does with
    | frame carry f inbox ended serving =>
      rw [occasion_of_handed serving hi, List.flatMap_append,
        Action.posted_effects (c.gateway.areAside_dispatch f), Action.posted_sends]
      exact ⟨(List.append_nil _).symm, gateway⟩
    | request connected r queue queued able =>
      rw [List.append_assoc, List.flatMap_append,
        Action.posted_effects (c.gateway.areAside_answer r), posted_replyTo]
      obtain ⟨session, serving, rfl⟩ | ⟨deadline, waiting, rfl⟩ := able
      · rw [occasion_of_handed serving hi]
        exact ⟨(List.append_nil _).symm, gateway⟩
      -- A request leaves the knowledge as it is, so one without a connection can be left
      -- out of the occasions.
      · have none : c.occasion (.turn .request) = [] := by simp [occasion, waiting]
        rw [none]
        exact ⟨rfl, Gateway.gateway_answer _ _⟩

theorem posted_run (h : c.IsCoherent) (script : List Stimulus) :
    (c.run script).2.flatMap Action.posted = c.gateway.posted (c.occasions script) := by
  induction script generalizing c with
  | nil => rfl
  | cons s rest ih =>
    obtain ⟨written, gateway⟩ := posted_step h s
    have later := ih ((does_step h s).isCoherent h)
    rw [gateway] at later
    rw [occasions, Gateway.posted_append, ← written, ← later, run, List.flatMap_append]

theorem cut_occasions_fst (h : c.IsCoherent) (apart : ∀ session, c.activity ≠ .serving session)
    (script : List Stimulus) : (cut (c.occasions script)).1 = [] := by
  induction script generalizing c with
  | nil => rfl
  | cons s rest ih =>
    have does := does_step h s
    have coherent := does.isCoherent h
    rw [occasions]
    by_cases opened : s = .established ∧ c.activity = .connecting
    · obtain ⟨rfl, dialled⟩ := opened
      have gap : c.occasion .established = [none] := by simp [occasion, dialled]
      rw [gap]
      rfl
    · have none : c.occasion s = [] := by
        unfold occasion
        split
        · rename_i dialled
          exact absurd ⟨rfl, dialled⟩ opened
        · rename_i serving
          exact absurd serving (apart _)
        · rfl
      rw [none]
      refine ih coherent ?_
      generalize (c.step s).1 = c', (c.step s).2 = actions, c.handed s = input? at does
      cases does with
      | establish dialled => exact absurd ⟨rfl, dialled⟩ opened
      | receive _ _ serving | finish _ serving | frame _ _ _ _ serving =>
        exact absurd serving (apart _)
      | idle | submit | elapse | release | request => exact apart
      | refuse | abort | lose | shutdown | dial => exact nofun

theorem step_of_stopped (stopped : c.activity = .stopped) (s : Stimulus) :
    c.handed s = none ∧ (c.step s).1.activity = .stopped := by
  have coherent : c.IsCoherent := by simp [IsCoherent, stopped]
  refine ⟨?_, (does_step coherent s).fares.stopped stopped⟩
  cases s with
  | turn t => cases t <;> simp [handed, stopped]
  | _ => rfl

theorem run_of_stopped (stopped : c.activity = .stopped) (script : List Stimulus) :
    c.inputs script = [] ∧ (c.run script).1.activity = .stopped := by
  induction script generalizing c with
  | nil => exact ⟨rfl, stopped⟩
  | cons s rest ih =>
    obtain ⟨unhanded, stopped⟩ := step_of_stopped stopped s
    obtain ⟨none, last⟩ := ih stopped
    rw [inputs, unhanded, none]
    exact ⟨rfl, last⟩

theorem Does.prefix_queue (does : Does c s input? c' actions) :
    input?.toList.filterMap Input.request? <+: c.queue := by
  cases does with
  | request connected r queue queued =>
    rw [queued]
    exact ⟨queue, rfl⟩
  | _ => exact List.nil_prefix

theorem run_accepted (h : c.IsCoherent) (running : c.activity ≠ .stopped)
    (script : List Stimulus) :
    (c.inputs script).filterMap Input.request? <+: c.queue ++ c.accepted script ∧
    ((c.run script).1.activity ≠ .stopped →
      (c.inputs script).filterMap Input.request? ++ (c.run script).1.queue =
        c.queue ++ c.accepted script) := by
  induction script generalizing c with
  | nil => exact ⟨List.nil_prefix, fun _ => (List.append_nil _).symm⟩
  | cons s rest ih =>
    have does := does_step h s
    rw [inputs, List.filterMap_append, accepted, if_neg running]
    by_cases stopped : (c.step s).1.activity = .stopped
    -- A client that stops drops its queue, so what was handled is only the beginning.
    · obtain ⟨none, last⟩ := run_of_stopped stopped rest
      rw [none]
      refine ⟨?_, fun going => absurd last going⟩
      simpa using does.prefix_queue.trans (List.prefix_append _ _)
    · have lasting : s ≠ .aborted := by
        rintro rfl
        exact stopped rfl
      obtain ⟨first, all⟩ := ih (does.isCoherent h) stopped
      rw [← List.append_assoc, ← does.answered running lasting, List.append_assoc]
      refine ⟨(List.prefix_append_right_inj _).2 first, fun going => ?_⟩
      rw [← all going, List.append_assoc]
      rfl

theorem step_request {connected : Bool} {r : Request} {queue : List Request}
    (queued : c.queue = r :: queue)
    (able : (∃ session, c.activity = .serving session ∧ connected = true) ∨
      ∃ deadline, c.activity = .waiting deadline ∧ connected = false) :
    c.step (.turn .request) =
      ({ c with queue },
        (c.gateway.answer r).effects.map .effect ++
          replyTo connected (c.gateway.answer r).reply ++
          (c.gateway.answer r).fault.toList.map fun fault => .note (.requestFailed fault)) := by
  obtain ⟨session, active, rfl⟩ | ⟨deadline, active, rfl⟩ := able
  · simp [step, turn, active, queued, handleRequest, Gateway.gateway_answer]
  · simp [step, turn, active, queued, handleRequest, Gateway.gateway_answer]

theorem answer_of_fault {g : Gateway} {r : Request} {fault : Fault}
    (failed : (g.answer r).fault = some fault) :
    (g.answer r).reply = none ∧ (g.answer r).effects = [] := by
  cases r with
  | getNetworkInfo | getDeviceArray | setPermitJoin =>
    simp [Gateway.answer, Gateway.stay] at failed
  | sendToggle | sendConfig =>
    simp only [Gateway.answer, Gateway.sendTo] at failed ⊢
    split at failed
    · exact ⟨rfl, rfl⟩
    · simp at failed

theorem step_request_of_fault {r : Request} {queue : List Request} (queued : c.queue = r :: queue)
    (decided : c.activity ≠ .connecting) (running : c.activity ≠ .stopped) {fault : Fault}
    (failed : (c.gateway.answer r).fault = some fault) :
    c.step (.turn .request) = ({ c with queue }, [.note (.requestFailed fault)]) := by
  obtain ⟨unanswered, silent⟩ := answer_of_fault failed
  obtain ⟨connected, able⟩ : ∃ connected,
      (∃ session, c.activity = .serving session ∧ connected = true) ∨
        ∃ deadline, c.activity = .waiting deadline ∧ connected = false := by
    cases active : c.activity with
    | connecting => exact absurd active decided
    | stopped => exact absurd active running
    | serving session => exact ⟨true, .inl ⟨session, rfl, rfl⟩⟩
    | waiting deadline => exact ⟨false, .inr ⟨deadline, rfl, rfl⟩⟩
  rw [step_request queued able, unanswered, silent, failed]
  rfl

end Client

end CollectorGateway
