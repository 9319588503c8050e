import CollectorGateway.EventRing
import Mathlib.Data.List.DropRight
import Mathlib.Data.List.Forall2

/-!
What a subscriber gets of the values published since it came. At any time these are, in
their order, those it has heard of and those it has not yet read. Of the unread ones the
ring holds the last, as many as it has slots; only when there are more does the subscriber
lose some, namely the oldest, and is told how many. So each value is got once, or counted
in one report of a loss, or still unread.
-/

namespace CollectorGateway

section Rtake

variable {α : Type} (l : List α)

theorem rtake_rtake (m n : Nat) : (l.rtake m).rtake n = l.rtake (min n m) := by
  simp only [List.rtake_eq_reverse_take_reverse, List.reverse_reverse, List.take_take]

theorem rtake_concat_rtake (k : Nat) (a : α) : (l.rtake k ++ [a]).rtake k = (l ++ [a]).rtake k := by
  cases k with
  | zero => rw [List.rtake_zero, List.rtake_zero]
  | succ k =>
    rw [List.rtake_concat_succ, List.rtake_concat_succ, rtake_rtake, Nat.min_eq_left (Nat.le_succ k)]

theorem rtake_length_append (front : List α) : (front ++ l).rtake l.length = l := by
  rw [List.rtake, List.length_append, Nat.add_sub_cancel, List.drop_left]

theorem rtake_of_length_le {k : Nat} (few : l.length ≤ k) : l.rtake k = l := by
  rw [List.rtake, Nat.sub_eq_zero_of_le few, List.drop_zero]

theorem length_rtake (k : Nat) : (l.rtake k).length = min k l.length := by
  rw [List.rtake, List.length_drop]
  omega

end Rtake

def Delivery.value? {α : Type} : Delivery α → Option α
  | value a => some a
  | _ => none

/-- What a delivery tells of the values that were next: that this is the first, or that
so many, not none, are lost. -/
inductive Delivery.AccountsFor {α : Type} : Delivery α → List α → Prop
  | value (a : α) : AccountsFor (.value a) [a]
  | lagged {lost : List α} (some : lost ≠ []) : AccountsFor (.lagged lost.length) lost
  | empty : AccountsFor .empty []

namespace EventRing

variable {α : Type}

theorem slotsFor_spec (capacity : Nat) :
    (∃ e, slotsFor capacity = Nat.pow 2 e) ∧ max 1 capacity ≤ slotsFor capacity ∧
      ∀ e, max 1 capacity ≤ Nat.pow 2 e → slotsFor capacity ≤ Nat.pow 2 e := by
  have positive : 1 ≤ max 1 capacity := Nat.le_max_left ..
  rw [slotsFor]
  generalize max 1 capacity = m at positive ⊢
  have some : 2 * m - 1 ≠ 0 := by omega
  refine ⟨⟨_, rfl⟩, ?_, fun e enough => ?_⟩
  · have above : 2 * m - 1 < Nat.pow 2 (Nat.log2 (2 * m - 1) + 1) := Nat.lt_log2_self
    have doubled : Nat.pow 2 (Nat.log2 (2 * m - 1) + 1) =
        Nat.pow 2 (Nat.log2 (2 * m - 1)) * 2 := rfl
    omega
  · have doubled : Nat.pow 2 (e + 1) = Nat.pow 2 e * 2 := rfl
    have below : Nat.log2 (2 * m - 1) < e + 1 := (Nat.log2_lt some).2 (by
      change 2 * m - 1 < Nat.pow 2 (e + 1)
      omega)
    exact Nat.pow_le_pow_right (by decide) (Nat.le_of_lt_succ below)

inductive Act (α : Type) where
  | subscribe
  | unsubscribe (i : Nat)
  | publish (a : α)
  | receive (i : Nat)

def Act.value? : Act α → Option α
  | publish a => some a
  | _ => none

def act (r : EventRing α) : Act α → EventRing α
  | .subscribe => r.subscribe.1
  | .unsubscribe i => r.unsubscribe i
  | .publish a => r.publish a
  | .receive i => (r.receive i).1

def heard (r : EventRing α) (i : Nat) : Act α → List (Delivery α)
  | .receive j => if j = i then [(r.receive j).2] else []
  | _ => []

def after (r : EventRing α) : List (Act α) → EventRing α
  | [] => r
  | a :: rest => (r.act a).after rest

def got (r : EventRing α) (i : Nat) : List (Act α) → List (Delivery α)
  | [] => []
  | a :: rest => r.heard i a ++ (r.act a).got i rest

structure TookIn (r : EventRing α) (all : List α) : Prop where
  sent : r.sent = all.length
  held : r.held = all.rtake r.slots

/-- The subscriber has yet to read just these of the values taken in, the last ones. -/
def Awaits (r : EventRing α) (i : Nat) (unread : List α) : Prop :=
  ∃ past, r.TookIn (past ++ unread) ∧ r.positions[i]? = some (some past.length)

def next (r : EventRing α) (unread : List α) : Delivery α × List α :=
  if r.slots < unread.length then (.lagged (unread.length - r.slots), unread.rtake r.slots)
  else
    match unread with
    | a :: rest => (.value a, rest)
    | [] => (if r.isOpen then .empty else .closed, [])

variable {r : EventRing α} {i : Nat} {unread : List α}

theorem next_of_many (many : r.slots < unread.length) :
    r.next unread = (.lagged (unread.length - r.slots), unread.rtake r.slots) :=
  if_pos many

theorem next_cons {a : α} (few : (a :: unread).length ≤ r.slots) :
    r.next (a :: unread) = (.value a, unread) :=
  if_neg (Nat.not_lt.2 few)

theorem next_nil : r.next [] = (if r.isOpen then .empty else .closed, []) :=
  if_neg (Nat.not_lt_zero _)

theorem Awaits.congr (h : r.Awaits i unread) {r' : EventRing α} (slots : r'.slots = r.slots)
    (sent : r'.sent = r.sent) (held : r'.held = r.held)
    (position : r'.positions[i]? = r.positions[i]?) : r'.Awaits i unread := by
  obtain ⟨past, took, stands⟩ := h
  exact ⟨past, ⟨sent.trans took.sent, by rw [held, slots, took.held]⟩, position.trans stands⟩

theorem Awaits.length_held (h : r.Awaits i unread) :
    min r.slots unread.length ≤ r.held.length := by
  obtain ⟨past, took, -⟩ := h
  rw [took.held, length_rtake, List.length_append]
  omega

theorem receivers_pos {p : Nat} (stands : r.positions[i]? = some (some p)) : 0 < r.receivers :=
  List.countP_pos_iff.2 ⟨_, List.mem_of_getElem? stands, rfl⟩

theorem TookIn.pending {past : List α} (took : r.TookIn (past ++ unread))
    (few : unread.length ≤ r.slots) : r.pending past.length = unread := by
  have behind : r.sent - past.length = unread.length := by
    rw [took.sent, List.length_append, Nat.add_sub_cancel_left]
  change r.held.rtake (r.sent - past.length) = unread
  rw [behind, took.held, rtake_rtake, Nat.min_eq_left few, rtake_length_append]

theorem TookIn.awaits {past : List α} (took : r.TookIn (past ++ unread))
    (present : i < r.positions.length) :
    Awaits { r with positions := r.positions.set i (some past.length) } i unread :=
  ⟨past, ⟨took.sent, took.held⟩, by rw [List.getElem?_set_self present]⟩

theorem Awaits.receive (h : r.Awaits i unread) :
    (r.receive i).2 = (r.next unread).1 ∧ (r.receive i).1.Awaits i (r.next unread).2 := by
  obtain ⟨past, took, stands⟩ := h
  have behind : r.sent - past.length = unread.length := by
    rw [took.sent, List.length_append, Nat.add_sub_cancel_left]
  have size : r.held.length = min r.slots (past.length + unread.length) := by
    rw [took.held, length_rtake, List.length_append]
  have present : i < r.positions.length := (List.getElem?_eq_some_iff.1 stands).1
  rw [EventRing.receive, stands]
  simp only [behind]
  by_cases many : r.slots < unread.length
  · have full : r.held.length = r.slots := by omega
    let lost := unread.take (unread.length - r.slots)
    have split : past ++ lost ++ unread.rtake r.slots = past ++ unread := by
      rw [List.append_assoc, List.rtake, List.take_append_drop]
    have counted : r.sent - r.held.length = (past ++ lost).length := by
      rw [took.sent, full, List.length_append, List.length_append, List.length_take]
      omega
    rw [if_pos (full ▸ many), next_of_many many, counted]
    exact ⟨by rw [full], TookIn.awaits (split ▸ took) present⟩
  · have few : unread.length ≤ r.slots := Nat.not_lt.1 many
    rw [if_neg (by omega), took.pending few]
    cases unread with
    | nil =>
      rw [next_nil]
      exact ⟨rfl, past, took, stands⟩
    | cons a rest =>
      have split : past ++ [a] ++ rest = past ++ a :: rest := List.append_assoc ..
      have after : past.length + 1 = (past ++ [a]).length := by
        rw [List.length_append, List.length_singleton]
      rw [next_cons few, after]
      exact ⟨rfl, TookIn.awaits (split ▸ took) present⟩

theorem next_accounts (isOpen : r.isOpen = true) (unread : List α) :
    ∃ segment, (r.next unread).1.AccountsFor segment ∧ unread = segment ++ (r.next unread).2 := by
  by_cases many : r.slots < unread.length
  · let lost := unread.take (unread.length - r.slots)
    have size : lost.length = unread.length - r.slots := by
      rw [List.length_take]
      omega
    have some : lost ≠ [] := List.ne_nil_of_length_pos (by omega)
    rw [next_of_many many, ← size]
    refine ⟨lost, .lagged some, ?_⟩
    rw [List.rtake, List.take_append_drop]
  · cases unread with
    | nil =>
      rw [next_nil, if_pos isOpen]
      exact ⟨[], .empty, rfl⟩
    | cons a rest =>
      rw [next_cons (Nat.not_lt.1 many)]
      exact ⟨[a], .value a, rfl⟩

theorem receive_fst (r : EventRing α) (j : Nat) :
    ∃ positions, (∀ i, i ≠ j → positions[i]? = r.positions[i]?) ∧
      (r.receive j).1 = { r with positions } := by
  have moved : ∀ p, ∀ i, i ≠ j → (r.positions.set j p)[i]? = r.positions[i]? := fun p i other => by
    rw [List.getElem?_set_ne other.symm]
  unfold EventRing.receive
  split
  · exact ⟨_, fun _ _ => rfl, rfl⟩
  · exact ⟨_, fun _ _ => rfl, rfl⟩
  · dsimp only
    split
    · exact ⟨_, moved _, rfl⟩
    · split
      · exact ⟨_, moved _, rfl⟩
      · exact ⟨_, fun _ _ => rfl, rfl⟩

theorem TookIn.publish {all : List α} (took : r.TookIn all) (isOpen : r.isOpen = true)
    (some : 0 < r.receivers) (a : α) : (r.publish a).TookIn (all ++ [a]) := by
  rw [EventRing.publish, if_pos ⟨isOpen, some⟩]
  refine ⟨?_, ?_⟩
  · rw [took.sent, List.length_append, List.length_singleton]
  · change (r.held ++ [a]).rtake r.slots = (all ++ [a]).rtake r.slots
    rw [took.held, rtake_concat_rtake]

theorem act_fixed (r : EventRing α) (a : Act α) :
    (r.act a).slots = r.slots ∧ (r.act a).isOpen = r.isOpen := by
  cases a with
  | subscribe | unsubscribe j => exact ⟨rfl, rfl⟩
  | publish a =>
    simp only [act, EventRing.publish]
    split <;> exact ⟨rfl, rfl⟩
  | receive j =>
    obtain ⟨positions, -, same⟩ := r.receive_fst j
    rw [act, same]
    exact ⟨rfl, rfl⟩

theorem TookIn.act {all : List α} (took : r.TookIn all) (isOpen : r.isOpen = true) (a : Act α) :
    ∃ all', (r.act a).TookIn all' := by
  cases a with
  | subscribe | unsubscribe j => exact ⟨all, took.sent, took.held⟩
  | publish a =>
    by_cases some : 0 < r.receivers
    · exact ⟨_, took.publish isOpen some a⟩
    · have unheard : r.publish a = r := if_neg fun both => some both.2
      exact ⟨all, by rw [EventRing.act, unheard]; exact took⟩
  | receive j =>
    obtain ⟨positions, -, same⟩ := r.receive_fst j
    rw [EventRing.act, same]
    exact ⟨all, took.sent, took.held⟩

theorem Awaits.act (h : r.Awaits i unread) (isOpen : r.isOpen = true) (a : Act α)
    (stays : a ≠ .unsubscribe i) :
    ∃ segments unread', unread ++ a.value?.toList = segments.flatten ++ unread' ∧
      List.Forall₂ Delivery.AccountsFor (r.heard i a) segments ∧ (r.act a).Awaits i unread' := by
  have quiet : ∀ a : Act α, a.value? = none → r.heard i a = [] → (r.act a).Awaits i unread →
      ∃ segments unread', unread ++ a.value?.toList = segments.flatten ++ unread' ∧
        List.Forall₂ Delivery.AccountsFor (r.heard i a) segments ∧
          (r.act a).Awaits i unread' := by
    intro a valueless unheard awaits
    refine ⟨[], unread, ?_, unheard ▸ .nil, awaits⟩
    rw [valueless, Option.toList_none, List.append_nil, List.flatten_nil, List.nil_append]
  have present : i < r.positions.length := by
    obtain ⟨past, -, stands⟩ := h
    exact (List.getElem?_eq_some_iff.1 stands).1
  cases a with
  | subscribe =>
    exact quiet _ rfl rfl (h.congr rfl rfl rfl (List.getElem?_append_left present))
  | unsubscribe j =>
    have other : j ≠ i := fun same => stays (congrArg Act.unsubscribe same)
    exact quiet _ rfl rfl (h.congr rfl rfl rfl (List.getElem?_set_ne other))
  | publish a =>
    obtain ⟨past, took, stands⟩ := h
    have taken := took.publish isOpen (receivers_pos stands) a
    have same : (r.publish a).positions = r.positions := by
      rw [EventRing.publish]
      split <;> rfl
    rw [List.append_assoc] at taken
    exact ⟨[], unread ++ [a], rfl, .nil, past, taken, by rw [EventRing.act, same, stands]⟩
  | receive j =>
    by_cases own : j = i
    · subst own
      obtain ⟨got, awaits⟩ := h.receive
      obtain ⟨segment, accounts, split⟩ := r.next_accounts isOpen unread
      have heard : r.heard j (.receive j) = [(r.next unread).1] := by
        rw [EventRing.heard, if_pos rfl, got]
      refine ⟨[segment], (r.next unread).2, ?_, ?_, awaits⟩
      · simpa [Act.value?] using split
      · rw [heard]
        exact .cons accounts .nil
    · obtain ⟨positions, others, same⟩ := r.receive_fst j
      have unheard : r.heard i (.receive j) = [] := if_neg own
      refine quiet _ rfl unheard ?_
      rw [EventRing.act, same]
      exact h.congr rfl rfl rfl (others i (Ne.symm own))

theorem after_fixed (r : EventRing α) (acts : List (Act α)) :
    (r.after acts).slots = r.slots ∧ (r.after acts).isOpen = r.isOpen := by
  induction acts generalizing r with
  | nil => exact ⟨rfl, rfl⟩
  | cons a rest ih =>
    obtain ⟨slots, isOpen⟩ := r.act_fixed a
    obtain ⟨slots', isOpen'⟩ := ih (r.act a)
    exact ⟨slots'.trans slots, isOpen'.trans isOpen⟩

theorem TookIn.after {all : List α} (took : r.TookIn all) (isOpen : r.isOpen = true)
    (acts : List (Act α)) : ∃ all', (r.after acts).TookIn all' := by
  induction acts generalizing r all with
  | nil => exact ⟨all, took⟩
  | cons a rest ih =>
    obtain ⟨all', took'⟩ := took.act isOpen a
    exact ih took' ((r.act_fixed a).2.trans isOpen)

theorem tookIn_ofCapacity (capacity : Nat) : (ofCapacity capacity : EventRing α).TookIn [] :=
  ⟨rfl, (List.rtake_nil _).symm⟩

theorem TookIn.subscribe {all : List α} (took : r.TookIn all) (isOpen : r.isOpen = true) :
    r.subscribe.1.Awaits r.subscribe.2 [] := by
  refine ⟨all, ⟨?_, ?_⟩, ?_⟩
  · rw [List.append_nil]
    exact took.sent
  · rw [List.append_nil]
    exact took.held
  · simp [EventRing.subscribe, isOpen, took.sent]

/-- A course: what a subscriber gets accounts, one by one, for the values that it had
unread and those published since, up to the ones that it has then unread. -/
theorem Awaits.after (h : r.Awaits i unread) (isOpen : r.isOpen = true) {acts : List (Act α)}
    (stays : .unsubscribe i ∉ acts) :
    ∃ segments unread', unread ++ acts.filterMap Act.value? = segments.flatten ++ unread' ∧
      List.Forall₂ Delivery.AccountsFor (r.got i acts) segments ∧
        (r.after acts).Awaits i unread' := by
  induction acts generalizing r unread with
  | nil => exact ⟨[], unread, List.append_nil _, .nil, h⟩
  | cons a rest ih =>
    obtain ⟨other, stays⟩ := not_or.1 (List.mem_cons.not.1 stays)
    obtain ⟨first, unread₁, split₁, accounts₁, awaits₁⟩ := h.act isOpen a (Ne.symm other)
    obtain ⟨later, unread₂, split₂, accounts₂, awaits₂⟩ :=
      ih awaits₁ ((r.act_fixed a).2.trans isOpen) stays
    refine ⟨first ++ later, unread₂, ?_, List.rel_append accounts₁ accounts₂, awaits₂⟩
    have values : (a :: rest).filterMap Act.value? =
        a.value?.toList ++ rest.filterMap Act.value? := by
      rw [List.filterMap_cons]
      split <;> rename_i value <;> rw [value] <;> rfl
    rw [values, ← List.append_assoc, split₁, List.append_assoc, split₂, List.flatten_append,
      List.append_assoc]

theorem values_sublist {ds : List (Delivery α)} {segments : List (List α)}
    (accounts : List.Forall₂ Delivery.AccountsFor ds segments) :
    (ds.filterMap Delivery.value?).Sublist segments.flatten := by
  induction accounts with
  | nil => exact .slnil
  | cons first _ ih =>
    cases first with
    | value a => exact ih.cons_cons a
    | lagged some => exact ih.trans (List.sublist_append_right ..)
    | empty => exact ih

theorem Awaits.drain_go (h : r.Awaits i unread) (few : unread.length ≤ r.slots) {fuel : Nat}
    (enough : unread.length ≤ fuel) : (drain.go i r fuel).2 = unread.map .value := by
  induction unread generalizing r fuel with
  | nil =>
    obtain ⟨got, -⟩ := h.receive
    cases fuel with
    | zero => rfl
    | succ fuel =>
      rw [next_nil] at got
      rcases received : r.receive i with ⟨r', d⟩
      rw [received] at got
      obtain rfl : d = _ := got
      rw [drain.go, received]
      cases r.isOpen <;> rfl
  | cons a rest ih =>
    obtain ⟨got, awaits⟩ := h.receive
    obtain ⟨positions, -, same⟩ := r.receive_fst i
    have slots : (r.receive i).1.slots = r.slots := by rw [same]
    rw [next_cons few] at got awaits
    cases fuel with
    | zero => simp at enough
    | succ fuel =>
      have later := ih awaits (slots ▸ Nat.le_of_succ_le few) (Nat.le_of_succ_le_succ enough)
      rcases received : r.receive i with ⟨r', d⟩
      rw [received] at got later
      obtain rfl : d = .value a := got
      rw [drain.go, received, List.map_cons, ← later]

/-- All that a subscriber gets with these values unread: a report of the loss, if there are
more than slots, and as many of the last ones as there are slots. -/
def due (r : EventRing α) (unread : List α) : List (Delivery α) :=
  (if r.slots < unread.length then [.lagged (unread.length - r.slots)] else []) ++
    (unread.rtake r.slots).map .value

theorem Awaits.drain (h : r.Awaits i unread) : (r.drain i).2 = r.due unread := by
  by_cases many : r.slots < unread.length
  · obtain ⟨got, awaits⟩ := h.receive
    obtain ⟨positions, -, same⟩ := r.receive_fst i
    have slots : (r.receive i).1.slots = r.slots := by rw [same]
    have held := h.length_held
    have size : (unread.rtake r.slots).length = r.slots := by
      rw [length_rtake]
      omega
    rw [next_of_many many] at got awaits
    have later : (drain.go i (r.receive i).1 r.held.length).2 = (unread.rtake r.slots).map .value :=
      awaits.drain_go (by rw [slots, size]) (by rw [size]; omega)
    rcases received : r.receive i with ⟨r', d⟩
    rw [received] at got later
    obtain rfl : d = .lagged (unread.length - r.slots) := got
    rw [EventRing.drain, drain.go, received, due, if_pos many, ← later]
    rfl
  · have few : unread.length ≤ r.slots := Nat.not_lt.1 many
    have held := h.length_held
    rw [EventRing.drain, due, if_neg many, rtake_of_length_le _ few, List.nil_append]
    exact h.drain_go few (by omega)

theorem Awaits.close (h : r.Awaits i unread) : r.close.Awaits i unread :=
  h.congr rfl rfl rfl rfl

end EventRing

end CollectorGateway
