import CollectorGateway.LineBridge
import CollectorGateway.Proofs.EventRing
import CollectorGateway.Proofs.Json.Plain

/-!
Events on their way from the ring to the presentation side. Each is written as one line,
and an output that has room for so many octets only gets just as many of the lines of all
events in a row. So the lines of a subscriber, once the ring is closed, are those of the
events that it had unread, or of the last of them that the ring held.
-/

namespace CollectorGateway

namespace LineBridge

def octets (cs : List Char) : List UInt8 := cs.flatMap String.utf8EncodeChar

theorem newline_not_mem_print (e : Event) : '\n' ∉ e.toJson.print := by
  intro listed
  exact absurd (List.all_eq_true.1 e.isPlain_toJson _ listed) (by decide)

theorem ascii_eventLine (e : Event) : ∀ c ∈ eventLine e, c.toNat < 128 := by
  rw [eventLine, List.forall_mem_append, List.forall_mem_singleton]
  refine ⟨fun c listed => ?_, by decide⟩
  have range := isPlain_iff.1 (List.all_eq_true.1 e.isPlain_toJson c listed)
  omega

theorem octets_of_ascii {cs : List Char} (ascii : ∀ c ∈ cs, c.toNat < 128) :
    octets cs = cs.map fun c => c.val.toUInt8 := by
  induction cs with
  | nil => rfl
  | cons c cs ih =>
    rw [List.forall_mem_cons] at ascii
    have small : c.utf8Size = 1 := by
      rw [Char.utf8Size_eq_one_iff, UInt32.le_iff_toNat_le]
      exact Nat.le_of_lt_succ ascii.1
    rw [octets, List.flatMap_cons, String.utf8EncodeChar_eq_singleton small, List.map_cons,
      ← ih ascii.2]
    rfl

theorem octets_take {cs : List Char} (ascii : ∀ c ∈ cs, c.toNat < 128) (n : Nat) :
    octets (cs.take n) = (octets cs).take n := by
  rw [octets_of_ascii ascii, octets_of_ascii fun c listed => ascii c (List.mem_of_mem_take listed),
    List.map_take]

theorem length_octets {cs : List Char} (ascii : ∀ c ∈ cs, c.toNat < 128) :
    (octets cs).length = cs.length := by
  rw [octets_of_ascii ascii, List.length_map]

theorem forward_values (es : List Event) :
    forward none (es.map .value) = ⟨es.flatMap eventLine, [], none⟩ := by
  induction es with
  | nil => rfl
  | cons e es ih => rw [List.map_cons, forward, ih, List.flatMap_cons]

theorem forward_values_within (es : List Event) (n : Nat) :
    forward (some n) (es.map .value) =
      ⟨(es.flatMap eventLine).take n, [],
        if (es.flatMap eventLine).length ≤ n then none else some .writeZero⟩ := by
  induction es generalizing n with
  | nil => simp [forward]
  | cons e es ih =>
    rw [List.map_cons, forward, List.flatMap_cons, List.length_append]
    dsimp only
    by_cases fits : (eventLine e).length ≤ n
    · have rest : (es.flatMap eventLine).length ≤ n - (eventLine e).length ↔
          (eventLine e).length + (es.flatMap eventLine).length ≤ n := by omega
      simp only [if_pos fits, ih, rest, List.take_append, List.take_of_length_le fits]
    · have long : ¬ (eventLine e).length + (es.flatMap eventLine).length ≤ n := by omega
      rw [if_neg fits, if_neg long, List.take_append_of_le_length (by omega)]

theorem forward_due (r : EventRing Event) (unread : List Event) (room : Option Nat) :
    ∃ notes, forward room (r.due unread) =
      { forward room ((unread.rtake r.slots).map .value) with notes } := by
  rw [EventRing.due]
  split
  · exact ⟨_, rfl⟩
  · exact ⟨_, rfl⟩

open EventRing (Act ofCapacity slotsFor)

/-- What a subscriber gets accounts for all that was published since it came: events in order,
a report of just those lost when more are unread than there are slots, and those unread. As
lines they are written in full, or as far as the output has room. -/
theorem events_relayed (capacity : Nat) (before later : List (Act Event)) :
    let k := slotsFor capacity
    let start := (ofCapacity capacity).after before
    let i := start.subscribe.2
    let got := start.subscribe.1.got i later
    let r := start.subscribe.1.after later
    (∃ e, k = Nat.pow 2 e) ∧ max 1 capacity ≤ k ∧
    (∀ e, max 1 capacity ≤ Nat.pow 2 e → k ≤ Nat.pow 2 e) ∧
    (∀ e : Event, '\n' ∉ e.toJson.print) ∧
    (.unsubscribe i ∉ later → ∃ segments unread,
      later.filterMap Act.value? = segments.flatten ++ unread ∧
      List.Forall₂ Delivery.AccountsFor got segments ∧
      (got.filterMap Delivery.value?).Sublist (later.filterMap Act.value?) ∧
      (k < unread.length → (r.receive i).2 = .lagged (unread.length - k) ∧
        ((r.receive i).1.drain i).2 = (unread.rtake k).map .value) ∧
      (unread.length ≤ k → (r.drain i).2 = unread.map .value) ∧
      let text := octets ((unread.rtake k).flatMap fun e => e.toJson.print ++ ['\n'])
      let forwarding := fun room => forward room (r.close.drain i).2
      octets (forwarding none).written = text ∧ (forwarding none).fault = none ∧
      ∀ n, octets (forwarding (some n)).written = text.take n ∧
        (forwarding (some n)).fault = if text.length ≤ n then none else some .writeZero) := by
  intro k start i got r
  obtain ⟨power, large, least⟩ := EventRing.slotsFor_spec capacity
  refine ⟨power, large, least, newline_not_mem_print, fun stays => ?_⟩
  have isOpen : start.isOpen = true := (EventRing.after_fixed _ before).2
  obtain ⟨all, took⟩ := (EventRing.tookIn_ofCapacity capacity).after rfl before
  obtain ⟨segments, unread, split, accounts, awaits⟩ := (took.subscribe isOpen).after isOpen stays
  have slots : r.slots = k :=
    (EventRing.after_fixed _ later).1.trans (EventRing.after_fixed _ before).1
  have values := EventRing.values_sublist accounts
  rw [List.nil_append] at split
  refine ⟨segments, unread, split, accounts, ?_, fun many => ?_, fun few => ?_, ?_⟩
  · rw [split]
    exact values.trans (List.sublist_append_left ..)
  · obtain ⟨next, later⟩ := awaits.receive
    obtain ⟨positions, -, same⟩ := r.receive_fst i
    have slots' : (r.receive i).1.slots = k := by rw [same]; exact slots
    have short : ¬ k < (unread.rtake k).length := by
      rw [length_rtake]
      omega
    rw [EventRing.next_of_many (slots ▸ many), slots] at next later
    refine ⟨next, ?_⟩
    rw [later.drain, EventRing.due, slots', if_neg short, rtake_rtake, Nat.min_self]
    rfl
  · rw [awaits.drain, EventRing.due, slots, if_neg (Nat.not_lt.2 few), rtake_of_length_le _ few]
    rfl
  · intro text forwarding
    have ascii : ∀ c ∈ (unread.rtake k).flatMap eventLine, c.toNat < 128 := by
      intro c listed
      obtain ⟨e, -, listed⟩ := List.mem_flatMap.1 listed
      exact ascii_eventLine e c listed
    have length : text.length = ((unread.rtake k).flatMap eventLine).length := length_octets ascii
    have forwarded : ∀ room, ∃ notes, forwarding room =
        { forward room ((unread.rtake k).map .value) with notes } := by
      intro room
      have written := forward_due r.close unread room
      have held : r.close.slots = k := slots
      rwa [← awaits.close.drain, held] at written
    obtain ⟨notes, unlimited⟩ := forwarded none
    refine ⟨?_, ?_, fun n => ?_⟩
    · rw [unlimited, forward_values]
      rfl
    · rw [unlimited, forward_values]
    · obtain ⟨notes, limited⟩ := forwarded (some n)
      rw [limited, forward_values_within, length]
      exact ⟨octets_take ascii n, rfl⟩

def permission (status : UInt32) : Event := .permitJoinConfirmation status

/-- A ring for three events has four slots. Of six events a subscriber got the first and
has five unread: it loses one, and the other four are forwarded. -/
theorem second_of_six_lost :
    let before := [.publish (permission 0), .subscribe]
    let later := .publish (permission 1) :: .receive 1 ::
      [2, 3, 4, 5, 6].map fun status => .publish (permission status)
    let start := ((ofCapacity 3).after before).subscribe.1
    let r := start.after later
    .unsubscribe 1 ∉ later ∧ slotsFor 3 = 4 ∧ start.got 1 later = [.value (permission 1)] ∧
    (r.receive 1).2 = .lagged 1 ∧
    ((r.receive 1).1.drain 1).2 = [3, 4, 5, 6].map (fun status => .value (permission status)) ∧
    (forward none (r.close.drain 1).2).fault = none ∧
    (forward (some 60) (r.close.drain 1).2).fault = some .writeZero := by
  intro before later start r
  obtain ⟨-, -, -, -, relayed⟩ := events_relayed 3 before later
  have stays : .unsubscribe 1 ∉ later := by simp [later]
  have slots : slotsFor 3 = 4 := by decide +kernel
  have got : start.got 1 later = [.value (permission 1)] := by decide +kernel
  obtain ⟨segments, unread, split, accounts, -, lagging, -, lines⟩ := relayed stays
  have told : List.Forall₂ Delivery.AccountsFor (start.got 1 later) segments := accounts
  rw [got] at told
  obtain ⟨_, _, first, rest, rfl⟩ := List.forall₂_cons_left_iff.1 told
  obtain rfl := List.forall₂_nil_left_iff.1 rest
  cases first
  obtain rfl : [2, 3, 4, 5, 6].map permission = unread := by
    simpa [later, Act.value?, List.filterMap_cons] using split
  rw [slots] at lagging lines
  obtain ⟨lost, last⟩ := lagging (by decide)
  obtain ⟨-, whole, limited⟩ := lines
  have long : ¬ (octets (([2, 3, 4, 5, 6].map permission).rtake 4 |>.flatMap fun e =>
      e.toJson.print ++ ['\n'])).length ≤ 60 := by
    decide +kernel
  exact ⟨stays, slots, got, lost, last, whole, (limited 60).2.trans (if_neg long)⟩

end LineBridge

end CollectorGateway
