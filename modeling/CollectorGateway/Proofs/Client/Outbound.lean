import CollectorGateway.Proofs.Client.Posting
import CollectorGateway.Proofs.Client.Uplink

/-!
What reaches the server. On each connection the octets that its client hands over are
written in their order, up to some point; the rest is still in the outbox, or it was when
the connection was dropped and is written nowhere. So a connection carries its whole
stream exactly if it is dropped with an empty outbox, and a reply that the client hands
over just before the end is lost.
-/

namespace CollectorGateway

namespace Action

def isJunction : Action → Bool
  | effect (.publish (.linkState .connected)) | hangUp => true
  | _ => false

theorem isJunction_of_aside {effects : List Effect} (h : Effect.AreAside effects) :
    ∀ a ∈ effects.map effect, a.isJunction = false := by
  intro a ha
  obtain ⟨e, he, rfl⟩ := List.mem_map.1 ha
  have aside := h e he
  cases e with
  | publish event =>
    cases event with
    | linkState status => simp [Effect.linkMark?] at aside
    | _ => rfl
  | _ => rfl

end Action

/-- What a deed puts on the wire, after a gap if it tells of a new connection. -/
def Uplink.Deed.wire : Deed → List (Option UInt8)
  | act (.effect (.publish (.linkState .connected))) => [none]
  | act _ => []
  | write bs => bs.map some

/-- What of an outbox is never written, after a gap where there is a new connection. -/
def Outbox.forfeit (o : Outbox) : Action → List (Option UInt8)
  | .effect (.publish (.linkState .connected)) => [none]
  | .hangUp => o.octets.map some
  | _ => []

namespace Client

variable {c c' : Client} {s : Stimulus} {input? : Option Gateway.Input} {actions : List Action}

def isServing (c : Client) : Bool :=
  match c.activity with
  | .serving _ => true
  | _ => false

/-- What a step does to the connection: nothing, or it opens or drops it. -/
inductive Deals (c c' : Client) (actions : List Action) : Prop
  | keeps (same : c'.isServing = c.isServing) (plain : ∀ a ∈ actions, a.isJunction = false)
      (unsent : c.isServing = false → actions.filterMap Action.sent? = [])
  | opens (before : c.isServing = false) (after : c'.isServing = true)
      (said : actions =
        [publishPhase (.connected c.clock), .note .linkConnected, .send .getNetworkInfo])
  | drops (before : c.isServing = true) (after : c'.isServing = false) (rest : List Action)
      (said : actions = .hangUp :: rest) (plain : ∀ a ∈ rest, a.isJunction = false)
      (unsent : rest.filterMap Action.sent? = [])

theorem deals_farewell (rest : List Action) (plain : ∀ a ∈ rest, a.isJunction = false)
    (unsent : rest.filterMap Action.sent? = []) :
    Deals c { c with activity := .stopped, queue := [] } (farewell c.activity ++ rest) := by
  cases active : c.activity with
  | serving session =>
    exact .drops (by simp [isServing, active]) rfl rest rfl plain unsent
  | _ => exact .keeps (by simp [isServing, active]) plain fun _ => unsent

theorem Does.deals (does : Does c s input? c' actions) : Deals c c' actions := by
  cases does with
  | idle | submit | elapse | release => exact .keeps rfl (List.forall_mem_nil _) fun _ => rfl
  | establish dialled => exact .opens (by simp [isServing, dialled]) rfl rfl
  | refuse dialled =>
    refine .keeps (by simp [isServing, dialled, deferred]) ?_ fun _ => rfl
    simp [deferral, publishPhase, Action.publish, Action.note, Action.isJunction,
      LinkPhase.status]
  | receive bs session serving =>
    exact .keeps (by simp [isServing, serving]) (List.forall_mem_nil _) fun _ => rfl
  | finish session serving =>
    refine .keeps (by simp [isServing, serving]) ?_ ?_
    · unfold endNotes
      split <;> simp [Action.note, Action.isJunction]
    · simp [isServing, serving]
  | abort =>
    have deals := deals_farewell (c := c) [] (List.forall_mem_nil _) rfl
    rwa [List.append_nil] at deals
  | frame carry f inbox ended serving =>
    refine .keeps (by simp [isServing, serving]) ?_ (by simp [isServing, serving])
    intro a ha
    obtain ha | ha := List.mem_append.1 ha
    · exact Action.isJunction_of_aside (c.gateway.areAside_dispatch f) a ha
    · obtain ⟨f, -, rfl⟩ := List.mem_map.1 ha
      rfl
  | request connected r queue queued able =>
    refine .keeps rfl ?_ ?_
    · intro a ha
      obtain ha | ha := List.mem_append.1 ha
      · obtain ha | ha := List.mem_append.1 ha
        · exact Action.isJunction_of_aside (c.gateway.areAside_answer r) a ha
        · obtain ⟨f, -, rfl⟩ := List.mem_map.1 ha
          cases connected <;> rfl
      · obtain ⟨fault, -, rfl⟩ := List.mem_map.1 ha
        rfl
    · intro apart
      obtain ⟨session, serving, -⟩ | ⟨deadline, waiting, rfl⟩ := able
      · simp [isServing, serving] at apart
      · simp only [List.filterMap_append, List.filterMap_map, replyTo]
        cases (c.gateway.answer r).reply <;> cases (c.gateway.answer r).fault <;>
          simp [Function.comp_def, Action.sent?, Action.note]
  | lose carry serving =>
    refine .drops (by simp [isServing, serving]) rfl _ rfl ?_ rfl
    simp [deferral, publishPhase, Action.publish, Action.note, Action.isJunction,
      LinkPhase.status]
  | shutdown =>
    refine deals_farewell [.note .stopped] ?_ rfl
    simp [Action.note, Action.isJunction]
  | dial deadline waiting =>
    refine .keeps (by simp [isServing, waiting]) ?_ fun _ => rfl
    simp [publishPhase, Action.publish, Action.note, Action.isJunction, LinkPhase.status]

theorem Does.unsent_of_unturned (does : Does c s input? c' actions) (up : c.isServing = true)
    (unturned : s.isTurn = false) : actions.filterMap Action.sent? = [] := by
  cases does with
  | establish dialled => simp [isServing, dialled] at up
  | frame | request | lose | shutdown | dial => simp [Stimulus.isTurn] at unturned
  | finish => unfold endNotes; split <;> rfl
  | abort => unfold farewell; split <;> rfl
  | _ => rfl

end Client

namespace Uplink

open Client (Deals)
open Gateway (Input)

variable {u : Uplink}

section Plain

variable {actions : List Action} (plain : ∀ a ∈ actions, a.isJunction = false)
include plain

theorem wire_of_plain : (actions.map Deed.act).flatMap Deed.wire = [] := by
  refine List.flatMap_eq_nil_iff.2 fun d hd => ?_
  obtain ⟨a, ha, rfl⟩ := List.mem_map.1 hd
  have said := plain a ha
  unfold Deed.wire
  split
  · rename_i eq
    cases eq
    cases said
  · rfl
  · rename_i eq
    cases eq

theorem forfeit_of_plain (o : Outbox) : actions.flatMap o.forfeit = [] := by
  refine List.flatMap_eq_nil_iff.2 fun a ha => ?_
  have said := plain a ha
  unfold Outbox.forfeit
  split
  · cases said
  · cases said
  · rfl

theorem posted_of_plain :
    actions.flatMap Action.posted =
      ((actions.filterMap Action.sent?).flatMap Frame.toOctets).map some := by
  induction actions with
  | nil => rfl
  | cons a rest ih =>
    obtain ⟨first, later⟩ := List.forall_mem_cons.1 plain
    rw [List.flatMap_cons, ih later, List.filterMap_cons]
    cases a with
    | send f => simp [Action.posted, Action.sent?]
    | hangUp => simp [Action.isJunction] at first
    | dial => rfl
    | effect e =>
      cases e with
      | publish event =>
        cases event with
        | linkState status =>
          cases status with
          | connected => simp [Action.isJunction] at first
          | _ => rfl
        | _ => rfl
      | _ => rfl

theorem heeded_of_plain (u : Uplink) :
    actions.foldl heed u = { u with outbox := u.outbox.put (actions.filterMap Action.sent?) } := by
  refine heeded_of_kept (fun dropped => ?_) u
  have said := plain _ dropped
  simp [Action.isJunction] at said

end Plain

/-- Of what an outbox owes and what is then handed over, connection by connection, the first
part is written and the rest is left. -/
structure Balance (owed : List UInt8) (posted written left : List (Option UInt8)) : Prop where
  current : owed ++ (cut posted).1 = (cut written).1 ++ (cut left).1
  later : (cut posted).2 = List.zipWith (· ++ ·) (cut written).2 (cut left).2
  count : (cut written).2.length = (cut left).2.length

namespace Balance

variable {owed : List UInt8} {posted written left : List (Option UInt8)}

theorem rest (owed : List UInt8) : Balance owed [] [] (owed.map some) := by
  have whole : cut (owed.map some) = (owed, []) := by
    have split := cut_append_some owed []
    rwa [List.append_nil, cut, List.append_nil] at split
  exact ⟨by rw [whole]; simp [cut], by rw [whole]; rfl, by rw [whole]; rfl⟩

theorem write (bs : List UInt8) (balance : Balance owed posted written left) :
    Balance (bs ++ owed) posted (bs.map some ++ written) left := by
  obtain ⟨current, later, count⟩ := balance
  refine ⟨?_, ?_, ?_⟩
  · rw [cut_append_some, List.append_assoc, List.append_assoc, current]
  · rw [cut_append_some, later]
  · rw [cut_append_some, count]

theorem post {bs : List UInt8} (balance : Balance (owed ++ bs) posted written left) :
    Balance owed (bs.map some ++ posted) written left := by
  obtain ⟨current, later, count⟩ := balance
  refine ⟨?_, ?_, count⟩
  · rw [cut_append_some, ← current, List.append_assoc]
  · rw [cut_append_some, later]

theorem openNext {bs : List UInt8} (balance : Balance bs posted written left) :
    Balance [] (none :: (bs.map some ++ posted)) (none :: written) (none :: left) := by
  obtain ⟨current, later, count⟩ := balance
  refine ⟨rfl, ?_, congrArg (· + 1) count⟩
  simp only [cut, cut_append_some, List.zipWith_cons_cons, current, later]

theorem drop (owed : List UInt8) (balance : Balance [] posted written left)
    (idle : (cut written).1 = []) : Balance owed posted written (owed.map some ++ left) := by
  obtain ⟨current, later, count⟩ := balance
  refine ⟨?_, ?_, ?_⟩
  · rw [cut_append_some, idle, List.nil_append]
    rw [idle] at current
    exact congrArg (owed ++ ·) current
  · rw [cut_append_some, later]
  · rw [cut_append_some, count]

end Balance

/-- The octets of the connections that a run drops with something to write, in their place
among those it opens. -/
def forfeits (u : Uplink) : List Stimulus → List (Option UInt8)
  | [] => []
  | s :: rest => (acts (u.step s).2).flatMap u.outbox.forfeit ++ (u.step s).1.forfeits rest

/-- What a run never writes, and what is still to be written after it. -/
def unwritten (u : Uplink) (script : List Stimulus) : List (Option UInt8) :=
  u.forfeits script ++ (u.run script).1.outbox.octets.map some

theorem unwritten_cons (u : Uplink) (s : Stimulus) (rest : List Stimulus) :
    u.unwritten (s :: rest) =
      (acts (u.step s).2).flatMap u.outbox.forfeit ++ (u.step s).1.unwritten rest := by
  rw [unwritten, forfeits, List.append_assoc]
  rfl

theorem deals_respond (h : u.IsSound) (whole : u.broken = false) (s : Client.Stimulus) :
    Deals u.client (u.respond s).1 (u.respond s).2 := by
  obtain ⟨waits, -⟩ | ⟨lost, -, session, serving⟩ | ⟨alone, -⟩ := respond_cases h s
  · rw [waits]
    exact .keeps rfl (List.forall_mem_nil _) fun _ => rfl
  · rw [lost]
    refine .drops (by simp [Client.isServing, serving]) rfl _ rfl ?_ rfl
    simp [Client.deferral, Client.publishPhase, Action.publish, Action.note, Action.isJunction,
      LinkPhase.status]
  · rw [alone, whole, Bool.not_false, Client.stepOn_true]
    exact (Client.does_step h.coherent s).deals

theorem IsSound.empty_of_apart (h : u.IsSound) (apart : u.client.isServing = false) :
    u.outbox = .empty := by
  refine (h.apart fun session serving => ?_).1
  simp [Client.isServing, serving] at apart

def IsIdle (written left : List (Option UInt8)) : Prop := (cut written).1 = [] ∧ (cut left).1 = []

theorem balance_step (h : u.IsSound) (whole : u.broken = false) {s : Stimulus}
    (taken : s ≠ .refuses) {posted written left : List (Option UInt8)}
    (later : Balance (u.step s).1.outbox.octets posted written left)
    (apart : (u.step s).1.client.isServing = false → IsIdle written left) :
    let posted := (acts (u.step s).2).flatMap Action.posted ++ posted
    let written := (u.step s).2.flatMap Deed.wire ++ written
    let left := (acts (u.step s).2).flatMap u.outbox.forfeit ++ left
    Balance u.outbox.octets posted written left ∧
      (u.client.isServing = false → IsIdle written left) := by
  cases s with
  | refuses => exact absurd rfl taken
  | takes n =>
    have wrote := u.outbox.octets_write n
    rw [step_takes whole] at later apart ⊢
    have deed : (if (u.outbox.write n).2.isEmpty then [] else
        [Deed.write (u.outbox.write n).2]).flatMap Deed.wire =
        (u.outbox.write n).2.map some := by
      cases (u.outbox.write n).2 <;> simp [Deed.wire]
    have silent : acts (if (u.outbox.write n).2.isEmpty then [] else
        [Deed.write (u.outbox.write n).2]) = [] := by split <;> rfl
    simp only [deed, silent, List.flatMap_nil, List.nil_append]
    refine ⟨wrote ▸ later.write _, fun idle => ?_⟩
    rw [h.empty_of_apart idle, Outbox.write_empty]
    exact apart idle
  | client s =>
    rw [client_step] at apart
    rw [acts_step]
    rw [step_client] at later ⊢
    cases deals_respond h whole s with
    | keeps same plain unsent =>
      rw [heeded_of_plain plain, Outbox.octets_put] at later
      simp only [wire_of_plain plain, forfeit_of_plain plain, posted_of_plain plain,
        List.nil_append]
      exact ⟨later.post, fun idle => apart (same.trans idle)⟩
    | opens before after said =>
      have void := h.empty_of_apart before
      rw [said] at later ⊢
      rw [void] at later ⊢
      exact ⟨later.openNext, fun _ => ⟨rfl, rfl⟩⟩
    | drops before after rest said plain unsent =>
      rw [said, List.foldl_cons, heeded_of_plain plain, unsent, Outbox.put_nil] at later
      rw [said]
      simp only [List.map_cons, List.flatMap_cons, wire_of_plain plain, forfeit_of_plain plain,
        posted_of_plain plain, unsent, List.append_assoc]
      refine ⟨later.drop _ (apart after).1, fun idle => ?_⟩
      rw [before] at idle
      contradiction

theorem balance_run (h : u.IsSound) (whole : u.broken = false) {script : List Stimulus}
    (taken : .refuses ∉ script) :
    Balance u.outbox.octets ((acts (u.run script).2).flatMap Action.posted)
        ((u.run script).2.flatMap Deed.wire) (u.unwritten script) ∧
      (u.client.isServing = false →
        IsIdle ((u.run script).2.flatMap Deed.wire) (u.unwritten script)) := by
  induction script generalizing u with
  | nil =>
    refine ⟨.rest _, fun idle => ?_⟩
    rw [unwritten, run, h.empty_of_apart idle]
    exact ⟨rfl, rfl⟩
  | cons s rest ih =>
    rw [List.mem_cons, not_or] at taken
    obtain ⟨later, apart⟩ := ih (h.step s) (step_eq_run whole (Ne.symm taken.1)).2.2 taken.2
    have balance := balance_step h whole (Ne.symm taken.1) later apart
    rwa [run, unwritten_cons, acts_append, List.flatMap_append, List.flatMap_append]

theorem forfeits_of_serving (h : u.IsSound) (whole : u.broken = false) {script : List Stimulus}
    (taken : .refuses ∉ script) (serving : (u.run script).1.client.isServing = true) :
    (u.client.isServing = true ∧ u.forfeits script = []) ∨
      ∃ earlier, u.forfeits script = earlier ++ [none] := by
  induction script generalizing u with
  | nil => exact .inl ⟨serving, rfl⟩
  | cons s rest ih =>
    rw [List.mem_cons, not_or] at taken
    obtain ⟨up, nothing⟩ | ⟨earlier, later⟩ :=
      ih (h.step s) (step_eq_run whole (Ne.symm taken.1)).2.2 taken.2 serving
    · rw [forfeits, nothing, List.append_nil]
      cases s with
      | refuses => exact absurd rfl taken.1
      | takes n =>
        refine .inl ⟨?_, ?_⟩
        · rwa [step_takes whole] at up
        · rw [step_takes whole]
          split <;> rfl
      | client s =>
        rw [client_step] at up
        rw [acts_step]
        cases deals_respond h whole s with
        | keeps same plain => exact .inl ⟨same.symm.trans up, forfeit_of_plain plain _⟩
        | opens before after said =>
          rw [said]
          exact .inr ⟨[], rfl⟩
        | drops before after => exact absurd (after.symm.trans up) nofun
    · rw [forfeits, later, ← List.append_assoc]
      exact .inr ⟨_, rfl⟩

theorem cut_last (earlier : List (Option UInt8)) (bs : List UInt8) :
    ∃ front, (cut (earlier ++ none :: bs.map some)).2 = front ++ [bs] := by
  induction earlier with
  | nil =>
    have whole := cut_append_some bs []
    rw [List.append_nil, cut, List.append_nil] at whole
    exact ⟨[], by simp only [List.nil_append, cut, whole]⟩
  | cons x rest ih =>
    obtain ⟨front, last⟩ := ih
    cases x with
    | none => exact ⟨_ :: front, by rw [List.cons_append, cut, last]; rfl⟩
    | some b => exact ⟨front, by rw [List.cons_append, cut, last]⟩

theorem held_step_le (h : u.IsSound) (whole : u.broken = false) {s : Stimulus}
    (taken : s ≠ .refuses) (few : u.outbox.held.length ≤ Outbox.room + 1) :
    (u.step s).1.outbox.held.length ≤ Outbox.room + 1 := by
  cases s with
  | refuses => exact absurd rfl taken
  | takes n =>
    rw [step_takes whole]
    exact Nat.le_trans (u.outbox.held_take_le) few
  | client s =>
    have sends := sends_respond_le h s
    rw [step_client]
    cases deals_respond h whole s with
    | keeps same plain unsent =>
      rw [heeded_of_plain plain]
      simp only [Outbox.put, List.length_append]
      by_cases full : u.outbox.isOverfull = true
      · have nothing : (u.respond s).2.filterMap Action.sent? = [] := by
          obtain ⟨session, serving⟩ := h.serving (.inl full)
          obtain ⟨waits, -⟩ | ⟨lost, -⟩ | ⟨alone, free⟩ := respond_cases h s
          · rw [waits]
            rfl
          · rw [lost]
            rfl
          · rw [full, Bool.and_true] at free
            rw [alone, whole, Bool.not_false, Client.stepOn_true]
            exact (Client.does_step h.coherent s).unsent_of_unturned
              (by simp [Client.isServing, serving]) free
        simpa [nothing] using few
      · simp only [Outbox.isOverfull, decide_eq_true_eq, Nat.not_lt] at full
        omega
    | opens before after said =>
      rw [said, h.empty_of_apart before]
      exact Nat.le_add_left 1 _
    | drops before after rest said plain unsent =>
      rw [said, List.foldl_cons, heeded_of_plain plain, unsent]
      exact Nat.zero_le _

theorem held_run_le (h : u.IsSound) (whole : u.broken = false) {script : List Stimulus}
    (taken : .refuses ∉ script) (few : u.outbox.held.length ≤ Outbox.room + 1) :
    (u.run script).1.outbox.held.length ≤ Outbox.room + 1 := by
  induction script generalizing u with
  | nil => exact few
  | cons s rest ih =>
    rw [List.mem_cons, not_or] at taken
    have first := Ne.symm taken.1
    exact ih (h.step s) (step_eq_run whole first).2.2 taken.2 (held_step_le h whole first few)

theorem rest_of_due? (whole : u.broken = false) (rest : u.due? = none) :
    u.outbox = .empty ∧ u.client.due? = none := by
  unfold due? at rest
  split at rest
  · simp at rest
  · rename_i idle
    rw [whole, Bool.false_or] at rest
    split at rest
    · rename_i void
      have void := Outbox.isEmpty_iff.1 void
      refine ⟨void, ?_⟩
      rw [turn?, void] at idle
      exact idle
    · simp at rest

theorem respond_of_roomy (whole : u.broken = false) (roomy : u.outbox.isOverfull = false)
    (s : Client.Stimulus) : u.respond s = u.client.step s := by
  simp [respond, whole, roomy, Client.stepOn_true]

/-- On every run whose socket refuses nothing, each connection's stream is the question for
the network and the replies to what is handled while it is open. A first part of it is
written; the rest is what the outbox holds, or held when the connection was dropped. -/
theorem outbound_of_run (delay : Nat) (script : List Stimulus) (taken : .refuses ∉ script) :
    let start := (Uplink.start delay).1
    let uplink := (start.run script).1
    let deeds := (Uplink.start delay).2 ++ (start.run script).2
    let reached := start.reaching script
    let talks := cut (start.client.occasions reached)
    let written := cut (deeds.flatMap Deed.wire)
    let left := cut (start.unwritten script)
    let handled := (start.client.inputs reached).filterMap Input.request?
    let accepted := start.client.accepted reached
    (uplink.client = (start.client.run reached).1 ∧
      acts deeds = (Client.start delay).2 ++ (start.client.run reached).2) ∧
    talks.1 = [] ∧ written.1 = [] ∧ left.1 = [] ∧ written.2.length = left.2.length ∧
    List.zipWith (· ++ ·) written.2 left.2 = Gateway.empty.streams talks.2 ∧
    (uplink.client.isServing = true → ∃ earlier, left.2 = earlier ++ [uplink.outbox.octets]) ∧
    uplink.outbox.held.length ≤ Outbox.room + 1 ∧
    handled <+: accepted ∧
    (uplink.due? = none → uplink.outbox.octets = [] ∧
      (uplink.client.activity ≠ .connecting → uplink.client.activity ≠ .stopped →
        handled = accepted)) ∧
    (∃ turns, (∀ s ∈ turns, s.isOwn = true) ∧ uplink.settle = uplink.run turns ∧
      uplink.settle.1.due? = none) ∧
    ∀ r queue, uplink.client.queue = r :: queue →
      let answer := uplink.client.gateway.answer r
      let next := uplink.respond (.turn .request)
      (∀ deadline, uplink.client.activity = .waiting deadline →
        next.1 = { uplink.client with queue } ∧ (∀ f, .send f ∉ next.2) ∧
        next.2 = answer.effects.map .effect ++
          answer.reply.toList.map (fun f => .note (.requestUnsent f.command)) ++
          answer.fault.toList.map (fun fault => .note (.requestFailed fault)) ∧
        (r = .getNetworkInfo →
          next.2 = [.publish (.networkInfo uplink.client.gateway.network)]) ∧
        (r = .getDeviceArray →
          next.2 = [.publish (.deviceArray uplink.client.gateway.roster.devices)])) ∧
      (uplink.client.activity ≠ .connecting → uplink.client.activity ≠ .stopped →
        uplink.outbox.isOverfull = false → ∀ fault, answer.fault = some fault →
          next = ({ uplink.client with queue }, [.note (.requestFailed fault)])) := by
  intro start uplink deeds reached talks written left handled accepted
  have begun : start.IsSound := isSound_start delay
  have sound : uplink.IsSound := isSound_run begun script
  obtain ⟨client, actions, whole⟩ := run_eq_run (u := start) rfl taken
  obtain ⟨balance, idle⟩ := balance_run begun rfl taken
  obtain ⟨unwritten, unleft⟩ := idle rfl
  have silent : talks.1 = [] := Client.cut_occasions_fst begun.coherent nofun reached
  obtain ⟨first, all⟩ := Client.run_accepted begun.coherent nofun reached
  have said : deeds.flatMap Deed.wire = (start.run script).2.flatMap Deed.wire := by
    rw [List.flatMap_append]
    rfl
  refine ⟨⟨client, ?_⟩, silent, ?_, unleft, ?_, ?_, ?_, held_run_le begun rfl taken
    (Nat.zero_le _), first, fun rest => ?_, settle_spec sound, fun r queue queued => ⟨?_, ?_⟩⟩
  · rw [acts_append, actions]
    rfl
  · show (cut (deeds.flatMap Deed.wire)).1 = []
    rw [said]
    exact unwritten
  · show (cut (deeds.flatMap Deed.wire)).2.length = _
    rw [said]
    exact balance.count
  · have streams : (cut ((acts (start.run script).2).flatMap Action.posted)).2 =
        Gateway.empty.streams talks.2 := by
      rw [actions, Client.posted_run begun.coherent, Gateway.cut_posted,
        show (cut (start.client.occasions (start.reaching script))).1 = [] from silent]
      rfl
    show List.zipWith _ (cut (deeds.flatMap Deed.wire)).2 _ = _
    rw [said, ← streams]
    exact balance.later.symm
  · intro serving
    obtain ⟨up, -⟩ | ⟨earlier, dropped⟩ := forfeits_of_serving begun rfl taken serving
    · simp [start, Uplink.start, Client.start, Client.attempt, Client.isServing] at up
    · show ∃ earlier, (cut (start.forfeits script ++ _)).2 = _
      rw [dropped, List.append_assoc]
      exact cut_last earlier _
  · obtain ⟨void, due⟩ := rest_of_due? whole rest
    refine ⟨by rw [void]; rfl, fun decided running => ?_⟩
    have going : (start.client.run reached).1.activity ≠ .stopped := by rwa [← client]
    have done := all going
    rw [← client, Client.queue_of_due?_eq_none due running decided, List.append_nil] at done
    exact done
  · intro deadline waiting
    have void := (sound.apart fun session serving => by simp [waiting] at serving).1
    have roomy : uplink.outbox.isOverfull = false := by
      rw [void]
      rfl
    have answered := Client.step_request queued (.inr ⟨deadline, waiting, rfl⟩)
    rw [respond_of_roomy whole roomy, answered]
    refine ⟨rfl, fun f sends => ?_, rfl, ?_, ?_⟩
    · simp [Client.replyTo, Action.note] at sends
    · rintro rfl
      rfl
    · rintro rfl
      rfl
  · intro decided running roomy fault failed
    rw [respond_of_roomy whole roomy]
    exact Client.step_request_of_fault queued decided running failed

/-- The server answers the question and hangs up, and the client drops the connection
before its writer takes the reply. -/
def cutShort : List Stimulus :=
  [.client .established, .takes 4, .client (.received Gateway.networkUp.toOctets),
    .client .ended, .client (.turn .frame), .client (.turn .loss)]

/-- The reply is never written, although no write failed and nothing is left to do. -/
theorem reply_lost_with_connection :
    let start := (Uplink.start 5000).1
    let last := (start.run cutShort).1
    let deeds := (Uplink.start 5000).2 ++ (start.run cutShort).2
    let talks := cut (start.client.occasions (start.reaching cutShort))
    let written := cut (deeds.flatMap Deed.wire)
    .refuses ∉ cutShort ∧ last.due?.isNone ∧ last.client.isServing = false ∧
    Gateway.empty.streams talks.2 =
      [Frame.getNetworkInfo.toOctets ++ Frame.getDeviceArray.toOctets] ∧
    written.2 = [Frame.getNetworkInfo.toOctets] ∧
    written.2 ≠ Gateway.empty.streams talks.2 := by
  intro start last deeds talks written
  have stream : Gateway.empty.streams talks.2 =
      [Frame.getNetworkInfo.toOctets ++ Frame.getDeviceArray.toOctets] := by decide +kernel
  have carried : written.2 = [Frame.getNetworkInfo.toOctets] := by decide +kernel
  refine ⟨by simp [cutShort], by decide +kernel, by decide +kernel, stream, carried, ?_⟩
  rw [stream, carried]
  decide

/-- The first connection ends inside a reply, a request comes between two connections, and
the second connection carries nothing of either. -/
def cutInside : List Stimulus :=
  [.client .established, .takes 4, .client (.received Gateway.networkUp.toOctets),
    .client .ended, .client (.turn .frame), .takes 1, .client (.turn .loss),
    .client (.submitted (.setPermitJoin .opening)), .client (.turn .request),
    .client (.elapsed 5000), .client (.turn .timer), .client .established, .takes 3]

theorem cutInside_streams :
    let start := (Uplink.start 5000).1
    let deeds := (Uplink.start 5000).2 ++ (start.run cutInside).2
    let left := cut (start.unwritten cutInside)
    .refuses ∉ cutInside ∧
    List.zipWith (· ++ ·) (cut (deeds.flatMap Deed.wire)).2 left.2 =
      [Frame.getNetworkInfo.toOctets ++ Frame.getDeviceArray.toOctets,
        Frame.getNetworkInfo.toOctets] ∧
    left.2.map List.length = [3, 1] := by
  intro start deeds left
  have taken : .refuses ∉ cutInside := by simp [cutInside]
  obtain ⟨-, -, -, -, -, streams, -⟩ := outbound_of_run 5000 cutInside taken
  refine ⟨taken, streams.trans ?_, ?_⟩
  · decide +kernel
  · decide +kernel

end Uplink

end CollectorGateway
