import CollectorGateway.Proofs.Client.Answers
import CollectorGateway.Proofs.Client.LinkCycle
import CollectorGateway.Proofs.Client.Timing

/-!
How the client ends. Once nobody is left to make requests, a client that is connected
or waits has always something to do, or its writer has: it handles what is queued and
then stops. So both come to rest only when the client has stopped or while a call is out,
and no time has to pass for it; its timer ends no wait any more if it was not due before.
A client that somebody attends never stops, and one that has stopped does nothing at all.
-/

namespace CollectorGateway

open Gateway (Input)

namespace Client

variable {c c' : Client} {s : Stimulus} {input? : Option Input} {actions : List Action}

section Requests

end Requests

section Stopped

theorem Does.of_stopped (does : Does c s input? c' actions) (stopped : c.activity = .stopped) :
    actions = [] ∧ c'.activity = .stopped := by
  cases does with
  | idle => exact ⟨rfl, stopped⟩
  | elapse | release => exact ⟨rfl, stopped⟩
  | submit r running => exact absurd stopped running
  | abort => exact ⟨by rw [stopped]; rfl, rfl⟩
  | establish active | refuse active | receive _ _ active | finish _ active
  | frame _ _ _ _ active | lose _ active | dial _ active => simp [stopped] at active
  | request _ _ _ _ able | shutdown _ _ able => simp [stopped] at able

theorem stepOn_of_stopped (stopped : c.activity = .stopped) (writable : Bool) (s : Stimulus) :
    (c.stepOn writable s).2 = [] ∧ (c.stepOn writable s).1.activity = .stopped := by
  have h : c.IsCoherent := by simp [IsCoherent, stopped]
  have silent := (does_step h s).of_stopped stopped
  obtain whole | ⟨session, serving, -⟩ := stepOn_cases h writable s
  · rw [whole]
    exact silent
  · simp [silent.2] at serving

end Stopped

theorem isUp_stepOn (h : c.IsUp) (writable : Bool) {s : Stimulus} (released : s ≠ .released)
    (aborted : s ≠ .aborted) : (c.stepOn writable s).1.IsUp := by
  have up := (does_step h.coherent s).isUp h released aborted
  obtain whole | ⟨session, -, -, -, broken⟩ := stepOn_cases h.coherent writable s
  · rw [whole]
    exact up
  · rw [broken]
    exact ⟨⟨_, rfl⟩, up.attended, nofun⟩

theorem Does.unattended (does : Does c s input? c' actions) (h : c.attended = false) :
    c'.attended = false := by
  cases does with
  | release => rfl
  | _ => exact h

structure Dozes (c : Client) : Prop where
  unattended : c.attended = false
  patient : 1 ≤ c.wait
  early : ∀ deadline, c.activity = .waiting deadline → c.clock < deadline

theorem Dozes.undue (h : c.Dozes) : c.isDue .timer = false := by
  cases active : c.activity with
  | waiting deadline => simpa [isDue, active] using h.early deadline active
  | _ => simp [isDue, active]

end Client

namespace Uplink

open Client (Turn)
open CollectorGateway.Action (linkMarks)

variable {u : Uplink}

section Requests

end Requests

section Stopped

theorem step_of_stopped (h : u.IsSound) (stopped : u.client.activity = .stopped) (s : Stimulus) :
    (u.step s).2 = [] ∧ (u.step s).1.client.activity = .stopped := by
  obtain ⟨void, whole⟩ := h.apart fun session => by simp [stopped]
  cases s with
  | client t =>
    have alone : u.respond t = u.client.stepOn true t := by
      simp [respond, void, whole, Outbox.isOverfull, Outbox.empty]
    obtain ⟨silent, still⟩ := Client.stepOn_of_stopped stopped true t
    rw [client_step, step_client, alone, silent]
    exact ⟨rfl, still⟩
  | takes n =>
    rw [step_takes whole, void, Outbox.write_empty]
    exact ⟨rfl, stopped⟩
  | refuses =>
    rw [step, void]
    exact ⟨by simp [Outbox.isEmpty, Outbox.empty], by simpa [Outbox.isEmpty, Outbox.empty]⟩

theorem run_of_stopped (h : u.IsSound) (stopped : u.client.activity = .stopped)
    (script : List Stimulus) :
    (u.run script).2 = [] ∧ (u.run script).1.client.activity = .stopped := by
  induction script generalizing u with
  | nil => exact ⟨rfl, stopped⟩
  | cons s rest ih =>
    obtain ⟨silent, still⟩ := step_of_stopped h stopped s
    obtain ⟨later, last⟩ := ih (h.step s) still
    exact ⟨by simp only [run, silent, later, List.append_nil], last⟩

end Stopped

theorem isUp_run (h : u.IsSound) (up : u.client.IsUp) {script : List Stimulus}
    (kept : .client .released ∉ script) (unaborted : .client .aborted ∉ script) :
    (u.run script).1.client.IsUp := by
  refine keeps_run (P := fun u => u.client.IsUp) h up fun {u s} h mem up => ?_
  refine keeps_client h s up ⟨⟨_, rfl⟩, up.attended, nofun⟩ ?_
  rintro t rfl
  exact Client.isUp_stepOn up _ (fun eq => kept (eq ▸ mem)) fun eq => unaborted (eq ▸ mem)

section Unattended

end Unattended

section Timer

def Stimulus.span : Stimulus → Nat
  | .client s => s.span
  | _ => 0

end Timer

section Ending

def callOutcome? (u : Uplink) : Stimulus → Option Bool
  | .client s => u.client.callOutcome? s
  | _ => none

def outcomes (u : Uplink) : List Stimulus → List Bool
  | [] => []
  | s :: rest => (u.callOutcome? s).toList ++ (u.step s).1.outcomes rest

end Ending

end Uplink

end CollectorGateway
