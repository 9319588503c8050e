import CollectorGateway.Proofs.Client.Link
import CollectorGateway.Proofs.Client.Runs
import CollectorGateway.Uplink

/-!
Steps of a client with its writer. The outbox is empty unless a connection is open. As
long as the socket refuses nothing the client runs as it does alone, on the stimuli that
reach it; where the socket refuses, a step still goes for the link in one of the ways
in which a step of the client can go.
-/

namespace CollectorGateway

namespace Client

variable {c c' : Client} {s : Stimulus} {input? : Option Gateway.Input} {actions : List Action}

theorem Does.sends_le (does : Does c s input? c' actions) :
    (actions.filterMap Action.sent?).length ≤ 1 := by
  have unsaid : ∀ effects : List Effect, (effects.map Action.effect).filterMap Action.sent? = [] :=
    fun effects => by simp [List.filterMap_map, Function.comp_def, Action.sent?]
  cases does with
  | frame carry f =>
    rw [List.filterMap_append, unsaid]
    cases (c.gateway.dispatch f).reply <;> simp [Action.sent?]
  | request connected r =>
    rw [List.filterMap_append, List.filterMap_append, unsaid]
    cases (c.gateway.answer r).reply <;> cases (c.gateway.answer r).fault <;> cases connected <;>
      simp [List.filterMap_cons, replyTo, Action.sent?, Action.note]
  | finish => unfold endNotes; split <;> simp [List.filterMap_cons, Action.sent?, Action.note]
  | abort | shutdown =>
    unfold farewell
    split <;> simp [List.filterMap_cons, Action.sent?, Action.note]
  | _ =>
    simp [List.filterMap_cons, deferral, publishPhase, Action.sent?, Action.note, Action.publish]

theorem stepOn_true (c : Client) (s : Stimulus) : c.stepOn true s = c.step s := by
  simp [stepOn]

theorem work_stepOn (h : c.IsCoherent) (writable : Bool) {t : Turn} (due : c.isDue t = true)
    (untimed : t ≠ .timer) : (c.stepOn writable (.turn t)).1.work < c.work := by
  have less : (c.step (.turn t)).1.work < c.work := work_turn h due untimed
  obtain whole | ⟨session, serving, -, -, broken⟩ := stepOn_cases h writable (.turn t)
  · rw [whole]
    exact less
  · have waits : (c.step (.turn t)).1.deferred.work < (c.step (.turn t)).1.work := by
      simp only [work, serving, deferred]
      omega
    rw [broken]
    exact Nat.lt_trans waits less

end Client

namespace Uplink

open Client (Turn)

variable {u : Uplink} {s : Client.Stimulus}

theorem acts_append (a b : List Deed) : acts (a ++ b) = acts a ++ acts b := List.filterMap_append

@[simp] theorem acts_map_act (actions : List Action) : acts (actions.map .act) = actions := by
  simp [acts, List.filterMap_map, Function.comp_def, Deed.act?]

section Heeding

theorem client_heeded (u : Uplink) (actions : List Action) :
    (actions.foldl heed u).client = u.client := by
  induction actions generalizing u with
  | nil => rfl
  | cons a rest ih =>
    rw [List.foldl_cons, ih]
    cases a <;> rfl

theorem whole_heeded {u : Uplink} (whole : u.broken = false) (actions : List Action) :
    (actions.foldl heed u).broken = false := by
  induction actions generalizing u with
  | nil => exact whole
  | cons a rest ih =>
    refine ih ?_
    cases a <;> first | rfl | exact whole

theorem load_heeded (u : Uplink) (actions : List Action) :
    (actions.foldl heed u).outbox.load ≤
      u.outbox.load + (actions.filterMap Action.sent?).length := by
  induction actions generalizing u with
  | nil => exact Nat.le_refl _
  | cons a rest ih =>
    have later := ih (u.heed a)
    cases a with
    | send f =>
      have more : (u.heed (.send f)).outbox.load = u.outbox.load + 1 := Outbox.load_put _ _
      rw [more] at later
      rw [List.foldl_cons, List.filterMap_cons]
      simp only [Action.sent?, List.length_cons]
      omega
    | hangUp =>
      exact Nat.le_trans later (Nat.add_le_add_right (Nat.zero_le _) _)
    | effect | dial => exact later

theorem heeded_of_kept {actions : List Action} (kept : .hangUp ∉ actions) (u : Uplink) :
    actions.foldl heed u = { u with outbox := u.outbox.put (actions.filterMap Action.sent?) } := by
  induction actions generalizing u with
  | nil => simp
  | cons a rest ih =>
    rw [List.mem_cons, not_or] at kept
    rw [List.foldl_cons, ih kept.2]
    cases a with
    | hangUp => exact absurd rfl kept.1
    | send f => simp [heed, Outbox.put, Action.sent?]
    | effect | dial => simp [heed]; rfl

theorem heeded_of_dropped {actions : List Action} (dropped : .hangUp ∈ actions)
    (unsent : ∀ f, .send f ∉ actions) (u : Uplink) :
    actions.foldl heed u = { u with outbox := .empty, broken := false } := by
  have still : ∀ (rest : List Action) (u : Uplink), (∀ f, .send f ∉ rest) →
      u.outbox = .empty → u.broken = false → rest.foldl heed u = u := by
    intro rest
    induction rest with
    | nil => exact fun _ _ _ _ => rfl
    | cons a rest ih =>
      intro u unsent void whole
      have same : u.heed a = u := by
        cases a with
        | send f => exact absurd List.mem_cons_self (unsent f)
        | hangUp =>
          obtain ⟨client, outbox, broken⟩ := u
          simp only at void whole
          simp only [heed, void, whole]
        | effect | dial => rfl
      rw [List.foldl_cons, same]
      exact ih u (fun f sends => unsent f (List.mem_cons_of_mem _ sends)) void whole
  obtain ⟨first, rest, rfl⟩ := List.append_of_mem dropped
  rw [List.foldl_append, List.foldl_cons]
  have there :
      (first.foldl heed u).heed .hangUp = { u with outbox := .empty, broken := false } := by
    simp only [heed, client_heeded]
  rw [there]
  exact still rest _ (fun f sends => unsent f (by simp [sends])) rfl rfl

end Heeding

theorem step_client (u : Uplink) (s : Client.Stimulus) :
    u.step (.client s) =
      ((u.respond s).2.foldl heed { u with client := (u.respond s).1 },
        (u.respond s).2.map .act) := rfl

theorem step_takes (whole : u.broken = false) (n : Nat) :
    u.step (.takes n) =
      ({ u with outbox := (u.outbox.write n).1 },
        if (u.outbox.write n).2.isEmpty then [] else [.write (u.outbox.write n).2]) := by
  simp [step, whole]

theorem step_of_broken (broken : u.broken = true) {s : Stimulus}
    (writing : (∃ n, s = .takes n) ∨ s = .refuses) : u.step s = (u, []) := by
  obtain ⟨n, rfl⟩ | rfl := writing
  · simp [step, broken]
  · simp [step, broken]

theorem client_step (u : Uplink) (s : Client.Stimulus) :
    (u.step (.client s)).1.client = (u.respond s).1 := client_heeded _ _

theorem acts_step (u : Uplink) (s : Client.Stimulus) :
    acts (u.step (.client s)).2 = (u.respond s).2 := acts_map_act _

section Soundness

/-- The phase fits, and only an open connection has anything to write. -/
structure IsSound (u : Uplink) : Prop where
  coherent : u.client.IsCoherent
  apart : (∀ session, u.client.activity ≠ .serving session) →
    u.outbox = .empty ∧ u.broken = false

theorem isSound_start (delay : Nat) : (start delay).1.IsSound :=
  ⟨Client.isCoherent_start delay, fun _ => ⟨rfl, rfl⟩⟩

theorem IsSound.serving (h : u.IsSound) (filled : u.outbox.isOverfull = true ∨ u.broken = true) :
    ∃ session, u.client.activity = .serving session := by
  refine Classical.byContradiction fun apart => ?_
  obtain ⟨void, whole⟩ := h.apart fun session serving => apart ⟨session, serving⟩
  rw [void, whole] at filled
  simp [Outbox.isOverfull, Outbox.empty] at filled

theorem respond_cases (h : u.IsSound) (s : Client.Stimulus) :
    (u.respond s = (u.client, []) ∧ s.isTurn = true ∧ u.outbox.isOverfull = true ∧
      u.broken = false) ∨
    (u.respond s = (u.client.deferred, .hangUp :: .note .linkLost :: u.client.deferral) ∧
      s.isTurn = true ∧ ∃ session, u.client.activity = .serving session) ∨
    (u.respond s = u.client.stepOn (!u.broken) s ∧
      (s.isTurn && u.outbox.isOverfull) = false) := by
  unfold respond
  split
  · rename_i waits
    obtain ⟨turn, full⟩ := Bool.and_eq_true_iff.1 waits
    obtain ⟨session, serving⟩ := h.serving (.inl full)
    split
    · exact .inr (.inl ⟨Client.dropLink_of_serving h.coherent serving, turn, session, serving⟩)
    · rename_i whole
      exact .inl ⟨rfl, turn, full, Bool.eq_false_iff.2 whole⟩
  · rename_i free
    exact .inr (.inr ⟨rfl, Bool.eq_false_iff.2 free⟩)

theorem callOutcome?_of_isTurn (c : Client) (turn : s.isTurn = true) : c.callOutcome? s = none := by
  cases s with
  | turn t => rfl
  | _ => simp [Client.Stimulus.isTurn] at turn

theorem fares_respond (h : u.IsSound) (s : Client.Stimulus) :
    Client.Fares u.client s (u.respond s).1 (u.respond s).2 := by
  obtain ⟨waits, turn, -, -⟩ | ⟨lost, turn, session, serving⟩ | ⟨alone, -⟩ := respond_cases h s
  · rw [waits]
    exact .aside rfl rfl (callOutcome?_of_isTurn _ turn) rfl
  · rw [lost]
    exact .lost session serving rfl rfl (callOutcome?_of_isTurn _ turn) rfl
  · rw [alone]
    exact Client.fares_stepOn h.coherent _ s

theorem isCoherent_respond (h : u.IsSound) (s : Client.Stimulus) :
    (u.respond s).1.IsCoherent := by
  obtain ⟨waits, -⟩ | ⟨lost, -⟩ | ⟨alone, -⟩ := respond_cases h s
  · rw [waits]
    exact h.coherent
  · rw [lost]
    exact ⟨_, rfl⟩
  · rw [alone]
    exact Client.isCoherent_stepOn h.coherent _ s

theorem unsent_of_apart (h : u.IsSound)
    (apart : ∀ session, (u.respond s).1.activity ≠ .serving session) (f : Frame) :
    .send f ∉ (u.respond s).2 := by
  intro sends
  obtain ⟨waits, -⟩ | ⟨lost, -⟩ | ⟨alone, -⟩ := respond_cases h s
  · rw [waits] at sends
    exact absurd sends List.not_mem_nil
  · rw [lost] at sends
    simp [Client.deferral, Client.publishPhase, Action.publish, Action.note] at sends
  · rw [alone] at sends apart
    obtain whole | ⟨session, -, -, -, broken⟩ := Client.stepOn_cases h.coherent (!u.broken) s
    · rw [whole] at sends apart
      obtain ⟨-, -, session, serving⟩ := (Client.does_step h.coherent s).serving_of_send sends
      exact apart session serving
    · rw [broken] at sends
      simp [Action.unsent, Action.sent?, Client.deferral, Client.publishPhase, Action.publish,
        Action.note] at sends

theorem mem_hangUp_iff {actions : List Action} :
    .hangUp ∈ actions ↔ .hungUp ∈ Action.linkMarks actions := by
  constructor
  · intro mem
    exact List.mem_filterMap.2 ⟨_, mem, rfl⟩
  · intro mem
    obtain ⟨a, ha, mark⟩ := List.mem_filterMap.1 mem
    cases a with
    | hangUp => exact ha
    | effect e =>
      cases e with
      | note n => cases n <;> simp [Action.linkMark?, Effect.linkMark?] at mark
      | publish e => cases e <;> simp [Action.linkMark?, Effect.linkMark?] at mark
      | record r => simp [Action.linkMark?, Effect.linkMark?] at mark
    | send | dial => simp [Action.linkMark?] at mark

theorem IsSound.step (h : u.IsSound) (s : Stimulus) : (u.step s).1.IsSound := by
  cases s with
  | client s =>
    refine ⟨by rw [client_step]; exact isCoherent_respond h s, fun apart => ?_⟩
    rw [client_step] at apart
    have unsent := unsent_of_apart h apart
    by_cases dropped : .hangUp ∈ (u.respond s).2
    · rw [step_client, heeded_of_dropped dropped unsent]
      exact ⟨rfl, rfl⟩
    · have nothing : (u.respond s).2.filterMap Action.sent? = [] := by
        refine List.filterMap_eq_nil_iff.2 fun a ha => ?_
        cases a with
        | send f => exact absurd ha (unsent f)
        | _ => rfl
      rw [step_client, heeded_of_kept dropped, nothing, Outbox.put_nil]
      refine h.apart fun session serving => ?_
      -- Without a hang-up a connection lasts.
      rw [mem_hangUp_iff] at dropped
      cases fares_respond h s with
      | aside _ same =>
        rw [serving] at same
        obtain eq | ⟨session, -, up, -⟩ := Activity.bare_eq_iff.1 same
        · exact apart session eq
        · exact apart session up
      | halted _ _ _ marks => simp [marks, serving, Activity.bare] at dropped
      | lost _ _ _ _ _ marks => simp [marks] at dropped
      | answered active | refused active | broken active | dialled _ active =>
        simp [serving] at active
  | takes n =>
    cases whole : u.broken with
    | true =>
      rw [step_of_broken whole (.inl ⟨n, rfl⟩)]
      exact h
    | false =>
      rw [step_takes whole]
      refine ⟨h.coherent, fun apart => ⟨?_, whole⟩⟩
      rw [(h.apart apart).1, Outbox.write_empty]
  | refuses =>
    simp only [Uplink.step]
    split
    · exact h
    · rename_i filled
      refine ⟨h.coherent, fun apart => ?_⟩
      obtain ⟨void, whole⟩ := h.apart apart
      simp [void, whole, Outbox.isEmpty, Outbox.empty] at filled

theorem isSound_run (h : u.IsSound) (script : List Stimulus) : (u.run script).1.IsSound := by
  induction script generalizing u with
  | nil => exact h
  | cons s rest ih => exact ih (h.step s)

end Soundness

section Reaching

/-- The stimulus that reaches the client, if any does. -/
def reaches (u : Uplink) : Stimulus → Option Client.Stimulus
  | .client s => if s.isTurn && u.outbox.isOverfull then none else some s
  | _ => none

def reaching (u : Uplink) : List Stimulus → List Client.Stimulus
  | [] => []
  | s :: rest => (u.reaches s).toList ++ (u.step s).1.reaching rest

theorem step_eq_run (whole : u.broken = false) {s : Stimulus} (taken : s ≠ .refuses) :
    (u.step s).1.client = (u.client.run (u.reaches s).toList).1 ∧
      acts (u.step s).2 = (u.client.run (u.reaches s).toList).2 ∧ (u.step s).1.broken = false := by
  cases s with
  | client s =>
    have responds : u.respond s = u.client.run (u.reaches (.client s)).toList := by
      rw [respond, reaches, whole]
      cases s.isTurn && u.outbox.isOverfull with
      | true => rfl
      | false => simp [Client.run, Client.stepOn_true]
    refine ⟨by rw [client_step, responds], by rw [acts_step, responds], ?_⟩
    exact whole_heeded (u := { u with client := (u.respond s).1 }) whole _
  | takes n =>
    rw [step_takes whole]
    refine ⟨rfl, ?_, whole⟩
    split <;> rfl
  | refuses => exact absurd rfl taken

theorem run_eq_run (whole : u.broken = false) {script : List Stimulus}
    (taken : .refuses ∉ script) :
    (u.run script).1.client = (u.client.run (u.reaching script)).1 ∧
      acts (u.run script).2 = (u.client.run (u.reaching script)).2 ∧
      (u.run script).1.broken = false := by
  induction script generalizing u with
  | nil => exact ⟨rfl, rfl, whole⟩
  | cons s rest ih =>
    rw [List.mem_cons, not_or] at taken
    obtain ⟨client, actions, whole⟩ := step_eq_run whole (Ne.symm taken.1)
    obtain ⟨last, later, whole⟩ := ih whole taken.2
    rw [client] at last later
    rw [run, reaching, Client.run_append, acts_append]
    exact ⟨last, by rw [actions, later], whole⟩

end Reaching

section Stepping

theorem keeps_run {P : Uplink → Prop} {script : List Stimulus} (h : u.IsSound) (holds : P u)
    (step : ∀ {u : Uplink} {s : Stimulus}, u.IsSound → s ∈ script → P u → P (u.step s).1) :
    P (u.run script).1 := by
  induction script generalizing u with
  | nil => exact holds
  | cons s rest ih =>
    exact ih (h.step s) (step h List.mem_cons_self holds)
      fun h mem => step h (List.mem_cons_of_mem _ mem)

theorem step_of_writing (u : Uplink) {s : Stimulus} (writing : ∀ t, s ≠ .client t) :
    (u.step s).1.client = u.client ∧
      (acts (u.step s).2 = [] ∨ acts (u.step s).2 = [.note .streamUnwritable]) := by
  cases s with
  | client t => exact absurd rfl (writing t)
  | takes n =>
    simp only [step]
    split
    · exact ⟨rfl, .inl rfl⟩
    · refine ⟨rfl, .inl ?_⟩
      dsimp only
      split <;> rfl
  | refuses =>
    simp only [step]
    split
    · exact ⟨rfl, .inl rfl⟩
    · exact ⟨rfl, .inr rfl⟩

/-- A step leaves the client alone, or drops its link, or is a step of the client. -/
theorem step_cases (h : u.IsSound) (s : Stimulus) :
    (u.reaches s = none ∧ (u.step s).1.client = u.client ∧
      (acts (u.step s).2 = [] ∨ acts (u.step s).2 = [.note .streamUnwritable])) ∨
    (u.reaches s = none ∧ (u.step s).1.client = u.client.deferred ∧
      acts (u.step s).2 = .hangUp :: .note .linkLost :: u.client.deferral) ∨
    ∃ t, s = .client t ∧ u.reaches s = some t ∧
      (u.step s).1.client = (u.client.stepOn (!u.broken) t).1 ∧
      acts (u.step s).2 = (u.client.stepOn (!u.broken) t).2 := by
  cases s with
  | client t =>
    rw [client_step, acts_step, reaches]
    cases blocked : t.isTurn && u.outbox.isOverfull with
    | true =>
      obtain ⟨waits, -⟩ | ⟨lost, -⟩ | ⟨-, free⟩ := respond_cases h t
      · exact .inl ⟨rfl, by rw [waits], .inl (by rw [waits])⟩
      · exact .inr (.inl ⟨rfl, by rw [lost], by rw [lost]⟩)
      · rw [blocked] at free
        contradiction
    | false =>
      have alone : u.respond t = u.client.stepOn (!u.broken) t := by
        simp only [respond, blocked, Bool.false_eq_true, if_false]
      exact .inr (.inr ⟨t, rfl, rfl, by rw [alone], by rw [alone]⟩)
  | takes | refuses => exact .inl ⟨rfl, u.step_of_writing (by simp)⟩

/-- What the loss of the link and the client's own steps preserve, each step preserves. -/
theorem keeps_client {P : Client → Prop} (h : u.IsSound) (s : Stimulus) (holds : P u.client)
    (deferred : P u.client.deferred)
    (stepped : ∀ t, s = .client t → P (u.client.stepOn (!u.broken) t).1) :
    P (u.step s).1.client := by
  obtain ⟨-, client, -⟩ | ⟨-, client, -⟩ | ⟨t, rfl, -, client, -⟩ := step_cases h s
  · rwa [client]
  · rwa [client]
  · rw [client]
    exact stepped t rfl

end Stepping

section Settling

/-- What the client and its writer do of themselves, without time passing. -/
def Stimulus.isOwn : Stimulus → Bool
  | .client (.turn t) => t ≠ .timer
  | .takes _ => true
  | _ => false

theorem reaching_of_own {script : List Stimulus} (own : ∀ s ∈ script, s.isOwn = true) :
    ∃ turns : List Turn, .timer ∉ turns ∧ u.reaching script = turns.map .turn := by
  induction script generalizing u with
  | nil => exact ⟨[], List.not_mem_nil, rfl⟩
  | cons s rest ih =>
    obtain ⟨first, later⟩ := List.forall_mem_cons.1 own
    obtain ⟨turns, untimed, reached⟩ := ih (u := (u.step s).1) later
    have ⟨t?, hs, ht⟩ : ∃ t? : Option Turn, u.reaches s = t?.map .turn ∧ t? ≠ some .timer := by
      cases s with
      | client s =>
        cases s with
        | turn t =>
          have other : t ≠ .timer := by simpa [Stimulus.isOwn] using first
          by_cases full : u.outbox.isOverfull = true
          · exact ⟨none, by simp [reaches, Client.Stimulus.isTurn, full], nofun⟩
          · exact ⟨some t, by simp [reaches, full], fun eq => other (Option.some.inj eq)⟩
        | _ => simp [Stimulus.isOwn] at first
      | takes n => exact ⟨none, rfl, nofun⟩
      | refuses => simp [Stimulus.isOwn] at first
    refine ⟨t?.toList ++ turns, ?_, ?_⟩
    · rw [List.mem_append, not_or]
      exact ⟨fun mem => ht (Option.mem_toList.1 mem), untimed⟩
    · rw [reaching, hs, reached, List.map_append]
      cases t? <;> rfl

theorem turn?_ne_timer (u : Uplink) : u.turn? ≠ some .timer := by
  unfold turn?
  split
  · split <;> simp
  · exact fun due => (Client.isDue_of_due? due).2 rfl

theorem due?_cases {s : Stimulus} (due : u.due? = some s) :
    (∃ t, s = .client (.turn t) ∧ u.turn? = some t) ∨
      s = .takes u.outbox.take.begun.length ∧ u.broken = false ∧ u.outbox.isEmpty = false := by
  unfold due? at due
  split at due
  · rename_i t turn
    exact .inl ⟨t, (Option.some.inj due).symm, turn⟩
  · split at due
    · simp at due
    · rename_i filled
      rw [Bool.not_eq_true, Bool.or_eq_false_iff] at filled
      exact .inr ⟨(Option.some.inj due).symm, filled⟩

theorem isOwn_of_due? {s : Stimulus} (due : u.due? = some s) : s.isOwn = true := by
  obtain ⟨t, rfl, turn⟩ | ⟨rfl, -⟩ := due?_cases due
  · refine decide_eq_true ?_
    rintro rfl
    exact u.turn?_ne_timer turn
  · rfl

theorem settleWithin_eq_run (n : Nat) (u : Uplink) :
    ∃ turns, (∀ s ∈ turns, s.isOwn = true) ∧ u.settleWithin n = u.run turns := by
  induction n generalizing u with
  | zero => exact ⟨[], nofun, rfl⟩
  | succ n ih =>
    cases due : u.due? with
    | none => exact ⟨[], nofun, by rw [settleWithin, due]; rfl⟩
    | some s =>
      obtain ⟨turns, own, settled⟩ := ih (u.step s).1
      refine ⟨s :: turns, List.forall_mem_cons.2 ⟨isOwn_of_due? due, own⟩, ?_⟩
      rw [settleWithin, due]
      simp only [settled, run]

/-- Whether the client can take a turn: one that is due, or any while it waits for room that
will not come. -/
def isReady (u : Uplink) (t : Turn) : Bool :=
  if u.outbox.isOverfull then u.broken else u.client.isDue t

theorem isReady_of_turn? {t : Turn} (turn : u.turn? = some t) : u.isReady t = true := by
  unfold turn? at turn
  unfold isReady
  split at turn
  · rename_i full
    rw [if_pos full]
    split at turn
    · rename_i broken
      exact broken
    · simp at turn
  · rename_i roomy
    rw [if_neg roomy]
    exact (Client.isDue_of_due? turn).1

theorem work_respond (h : u.IsSound) {t : Turn} (ready : u.isReady t = true)
    (untimed : t ≠ .timer) : (u.respond (.turn t)).1.work < u.client.work := by
  unfold isReady at ready
  unfold respond
  cases full : u.outbox.isOverfull with
  | true =>
    have broken : u.broken = true := by simpa [full] using ready
    obtain ⟨session, serving⟩ := h.serving (.inl full)
    have lost := Client.dropLink_of_serving h.coherent serving
    simp only [Client.Stimulus.isTurn, broken, lost, Client.work, Client.deferred, serving,
      Bool.and_self, if_true]
    omega
  | false =>
    have due : u.client.isDue t = true := by simpa [full] using ready
    simpa using Client.work_stepOn h.coherent _ due untimed

theorem sends_respond_le (h : u.IsSound) (s : Client.Stimulus) :
    ((u.respond s).2.filterMap Action.sent?).length ≤ 1 := by
  obtain ⟨waits, -⟩ | ⟨lost, -⟩ | ⟨alone, -⟩ := respond_cases h s
  · simp [waits]
  · simp [lost, List.filterMap_cons, Client.deferral, Client.publishPhase, Action.sent?,
      Action.publish, Action.note]
  · rw [alone]
    obtain whole | ⟨-, -, -, -, broken⟩ := Client.stepOn_cases h.coherent (!u.broken) s
    · rw [whole]
      exact (Client.does_step h.coherent s).sends_le
    · have unsent : (Action.unsent (u.client.step s).2).filterMap Action.sent? = [] := by
        refine List.filterMap_eq_nil_iff.2 fun a ha => ?_
        simpa using (List.mem_filter.1 ha).2
      rw [broken, List.filterMap_append, unsent]
      simp [List.filterMap_cons, Client.deferral, Client.publishPhase, Action.sent?,
        Action.publish, Action.note]

theorem work_step (h : u.IsSound) {s : Stimulus} (due : u.due? = some s) :
    (u.step s).1.work < u.work := by
  obtain ⟨t, rfl, turn⟩ | ⟨rfl, whole, filled⟩ := due?_cases due
  · have untimed : t ≠ .timer := by
      rintro rfl
      exact u.turn?_ne_timer turn
    have less := work_respond h (isReady_of_turn? turn) untimed
    have sends := sends_respond_le h (.turn t)
    have load := load_heeded { u with client := (u.respond (.turn t)).1 } (u.respond (.turn t)).2
    rw [work, client_step, step_client]
    simp only [work] at load ⊢
    omega
  · have lighter := Outbox.load_write filled
    rw [step_takes whole]
    simp only [work]
    omega

theorem rests_of_settleWithin (h : u.IsSound) {n : Nat} (enough : u.work ≤ n) :
    (u.settleWithin n).1.due? = none := by
  induction n generalizing u with
  | zero =>
    cases due : u.due? with
    | none => exact due
    | some s =>
      have := work_step h due
      omega
  | succ n ih =>
    cases due : u.due? with
    | none =>
      rw [settleWithin, due]
      exact due
    | some s =>
      have less := work_step h due
      rw [settleWithin, due]
      exact ih (h.step s) (by omega)

/-- Doing all that is due is a run of the client's and the writer's own, after which both
rest. -/
theorem settle_spec (h : u.IsSound) :
    ∃ turns, (∀ s ∈ turns, s.isOwn = true) ∧ u.settle = u.run turns ∧ u.settle.1.due? = none := by
  obtain ⟨turns, own, settled⟩ := settleWithin_eq_run u.work u
  exact ⟨turns, own, settled, rests_of_settleWithin h (Nat.le_refl _)⟩

end Settling

end Uplink

end CollectorGateway
