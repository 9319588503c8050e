import CollectorGateway.Proofs.Client.Runs
import CollectorGateway.Proofs.Framing

/-!
The connections of a client as one course of the gateway. The octets of each
connection are a stream of their own, and what breaks off at its end is lost
with it. While someone attends the client and nobody stops it, every complete
frame that arrived is handed over or still in the inbox. At rest the inbox is
empty, and the client is one gateway that took the frames of each stream in
turn, with the requests between them.
-/

namespace CollectorGateway.Client

open Gateway (Input)

/-- The octets of each connection, the latest first, after one more stimulus. -/
def deliver (c : Client) (streams : List (List UInt8)) : Stimulus → List (List UInt8)
  | .established => if c.activity = .connecting then [] :: streams else streams
  | .received bs =>
    match c.activity with
    | .serving s => if s.ended then streams else streams.modifyHead (· ++ bs)
    | _ => streams
  | _ => streams

def gather (c : Client) (streams : List (List UInt8)) : List Stimulus → List (List UInt8)
  | [] => streams
  | s :: rest => (c.step s).1.gather (c.deliver streams s) rest

def streams (c : Client) (script : List Stimulus) : List (List UInt8) :=
  (c.gather [] script).reverse

def frames (streams : List (List UInt8)) : List Frame :=
  streams.flatMap fun stream => (Frame.splitAll stream).1

theorem frames_reverse_cons (stream : List UInt8) (older : List (List UInt8)) :
    frames (stream :: older).reverse = frames older.reverse ++ (Frame.splitAll stream).1 := by
  simp only [frames, List.reverse_cons, List.flatMap_append, List.flatMap_cons, List.flatMap_nil,
    List.append_nil]

def pending (c : Client) : List Frame :=
  match c.activity with
  | .serving s => s.inbox
  | _ => []

/-- Every complete frame of the streams, the latest of which comes first, is
handled or pending, and what follows the last one is carried over. -/
structure Accounts (c : Client) (streams : List (List UInt8)) (handled : List Frame) : Prop where
  complete : handled ++ c.pending = frames streams.reverse
  carried : ∀ s, c.activity = .serving s →
    ∃ stream older, streams = stream :: older ∧ (Frame.splitAll stream).2 = s.carry

variable {c c' : Client} {streams : List (List UInt8)} {handled : List Frame}
  {s : Stimulus} {input? : Option Input} {actions : List Action}

theorem deliver_of_ignores (ignored : c.Ignores s) : c.deliver streams s = streams := by
  cases s with
  | established => exact if_neg ignored
  | received bs =>
    simp only [deliver]
    split
    · rename_i session serving
      exact if_pos (ignored session serving)
    · rfl
  | _ => rfl

theorem Accounts.step (h : Accounts c streams handled) (does : Does c s input? c' actions)
    (running : c'.activity ≠ .stopped) :
    Accounts c' (c.deliver streams s) (handled ++ input?.toList.filterMap Input.frame?) := by
  obtain ⟨complete, carried⟩ := h
  cases does with
  | idle s ignored =>
    rw [deliver_of_ignores ignored]
    exact ⟨by simpa using complete, carried⟩
  | establish dialled =>
    have nothing := Frame.splitAll_of_isUnfinished Frame.isUnfinished_nil
    have opened : c.deliver streams .established = [] :: streams := if_pos dialled
    simp only [pending, dialled] at complete
    rw [opened]
    refine ⟨?_, ?_⟩
    · rw [frames_reverse_cons, nothing, ← complete]
      simp [pending, Session.fresh]
    · rintro s ⟨⟩
      exact ⟨[], streams, rfl, by rw [nothing]; rfl⟩
  | receive bs session serving lasting =>
    obtain ⟨stream, older, rfl, hcarry⟩ := carried session serving
    have grown : c.deliver (stream :: older) (.received bs) = (stream ++ bs) :: older := by
      simp [deliver, serving, lasting]
    rw [frames_reverse_cons] at complete
    simp only [pending, serving] at complete
    rw [grown]
    refine ⟨?_, ?_⟩
    · rw [frames_reverse_cons, Frame.splitAll_append, hcarry, ← List.append_assoc, ← complete]
      simp [pending, Session.receive]
    · rintro s ⟨⟩
      refine ⟨stream ++ bs, older, rfl, ?_⟩
      rw [Frame.splitAll_append, hcarry]
      rfl
  | finish session serving =>
    have same := carried session serving
    simp only [pending, serving] at complete
    refine ⟨by simpa [pending, deliver] using complete, ?_⟩
    rintro s ⟨⟩
    exact same
  | frame carry f inbox ended serving =>
    have same := carried _ serving
    simp only [pending, serving] at complete
    refine ⟨by simpa [pending, deliver, Input.frame?] using complete, ?_⟩
    rintro s ⟨⟩
    exact same
  | refuse active | lose _ active | dial _ active =>
    simp only [pending, active] at complete
    refine ⟨by simpa [pending, deferred, deliver] using complete, ?_⟩
    intro s serving
    cases serving
  | submit | elapse | release | request =>
    have same : handled ++ [] ++ c.pending = frames streams.reverse := by
      rw [List.append_nil, complete]
    exact ⟨same, carried⟩
  | abort | shutdown => exact absurd rfl running

theorem accounts_run (h : c.IsUp) (begun : Accounts c streams handled) {script : List Stimulus}
    (released : .released ∉ script) (aborted : .aborted ∉ script) :
    Accounts (c.run script).1 (c.gather streams script)
      (handled ++ (c.inputs script).filterMap Input.frame?) := by
  induction script generalizing c streams handled with
  | nil => simpa [inputs, run, gather] using begun
  | cons s rest ih =>
    simp only [List.mem_cons, not_or] at released aborted
    have does := does_step h.coherent s
    have up := does.isUp h (Ne.symm released.1) (Ne.symm aborted.1)
    have later := ih up (begun.step does up.running) released.2 aborted.2
    rwa [inputs, List.filterMap_append, ← List.append_assoc]

theorem pending_of_due?_eq_none (rest : c.due? = none) : c.pending = [] := by
  have idle := due?_eq_none_iff.1 rest .frame nofun
  unfold pending
  split
  · rename_i s serving
    simpa [isDue, serving] using idle
  · rfl

theorem queue_of_due?_eq_none (rest : c.due? = none) (running : c.activity ≠ .stopped)
    (decided : c.activity ≠ .connecting) : c.queue = [] := by
  have idle := due?_eq_none_iff.1 rest .request nofun
  cases h : c.activity with
  | connecting => exact absurd h decided
  | stopped => exact absurd h running
  | serving s => simpa [isDue, h] using idle
  | waiting deadline => simpa [isDue, h] using idle

/-- An attended client comes to rest after any course of its connections. It then took in the
complete frames of each stream and all requests, each in order, and is to the outside what
one gateway is that takes these inputs. -/
theorem sessions_refine_gateway (delay : Nat) (script : List Stimulus)
    (released : .released ∉ script) (aborted : .aborted ∉ script) :
    let start := (Client.start delay).1
    let client := (start.run script).1
    let actions := (Client.start delay).2 ++ (start.run script).2
    let inputs := start.inputs script
    (∃ turns : List Turn, (start.run (script ++ turns.map .turn)).1.due? = none) ∧
    (client.due? = none →
      inputs.filterMap Input.frame? = frames (start.streams script) ∧
      inputs.filterMap Input.request? ++ client.queue = script.filterMap Stimulus.request? ∧
      (client.activity ≠ .connecting → client.queue = [])) ∧
    client.gateway = Gateway.empty.after inputs ∧
    Action.readings actions = Gateway.empty.recorded inputs ∧
    Action.news actions = Gateway.empty.published inputs ∧
    (∀ s, s ≠ .turn .frame → s ≠ .turn .request →
      (client.step s).1.gateway = client.gateway ∧
      Action.readings (client.step s).2 = [] ∧ Action.news (client.step s).2 = []) := by
  intro start client actions inputs
  have up : client.IsUp := isUp_run (isUp_start delay) released aborted
  have begun : Accounts start [] [] := ⟨rfl, nofun⟩
  have accounts := accounts_run (isUp_start delay) begun released aborted
  have answered := run_answered (isUp_start delay) released aborted
  obtain ⟨knowledge, readings, news⟩ := run_eq_after (isUp_start delay).coherent script
  refine ⟨?_, fun rest => ⟨?_, answered, ?_⟩, knowledge, ?_, ?_, fun s hframe hrequest => ?_⟩
  · obtain ⟨turns, rest⟩ := comes_to_rest up.coherent
    exact ⟨turns, by rw [run_append]; exact rest⟩
  · have complete := accounts.complete
    rwa [pending_of_due?_eq_none rest, List.append_nil] at complete
  · exact queue_of_due?_eq_none rest up.running
  · rw [Action.readings_append, readings]
    rfl
  · rw [Action.news_append, news]
    rfl
  · have does := does_step up.coherent s
    have silent : client.handed s = none := by
      cases s with
      | turn t => cases t <;> first | rfl | contradiction
      | _ => rfl
    rw [silent] at does
    exact ⟨does.gateway, does.outcome⟩

/-- A connection ends inside a frame, a request comes between two connections, and
the next one brings a frame in two pieces. -/
def interrupted : List Stimulus :=
  let first := (Gateway.joining 1 0x11).toOctets
  let second := (Gateway.joining 2 0x22).toOctets
  [.established, .received (first ++ second.take 7), .ended, .turn .frame, .turn .loss,
    .submitted .getDeviceArray, .turn .request, .elapsed 5000, .turn .timer,
    .established, .received (second.take 9), .received (second.drop 9), .turn .frame]

theorem interrupted_refines_gateway :
    let start := (Client.start 5000).1
    let client := (start.run interrupted).1
    .released ∉ interrupted ∧ .aborted ∉ interrupted ∧ client.due? = none ∧
    (start.inputs interrupted).filterMap Input.frame? =
      [Gateway.joining 1 0x11, Gateway.joining 2 0x22] ∧
    client.gateway = Gateway.empty.after (start.inputs interrupted) ∧
    client.gateway.roster.devices.map Device.shortAddress = [1, 2] := by
  intro start client
  have released : .released ∉ interrupted := by simp [interrupted]
  have aborted : .aborted ∉ interrupted := by simp [interrupted]
  have rest : client.due? = none := by decide +kernel
  obtain ⟨-, atRest, knowledge, -⟩ := sessions_refine_gateway 5000 interrupted released aborted
  have split : frames (start.streams interrupted) =
      [Gateway.joining 1 0x11, Gateway.joining 2 0x22] := by decide +kernel
  exact ⟨released, aborted, rest, (atRest rest).1.trans split, knowledge, by decide +kernel⟩

end CollectorGateway.Client
