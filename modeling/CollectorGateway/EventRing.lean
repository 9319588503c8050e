/-!
A ring of slots between one publisher and many subscribers. Each subscriber
gets the values published since it came, in order; one that falls behind by
more than the slots of the ring loses the oldest values, is told once how many
it lost, and goes on with the oldest still held.
-/

namespace CollectorGateway

structure EventRing (α : Type) where
  slots : Nat
  /-- Values taken in so far. -/
  sent : Nat
  /-- The last values taken in, as many as there are slots, oldest first. -/
  held : List α
  isOpen : Bool
  /-- For each subscriber, how many values lie behind it; nothing once it left. -/
  positions : List (Option Nat)
  deriving DecidableEq, Repr

inductive Delivery (α : Type) where
  | value (a : α)
  | lagged (count : Nat)
  | empty
  | closed
  /-- There is no such subscriber, or no longer. -/
  | gone
  deriving DecidableEq, Repr

namespace EventRing

/-- Slots come in powers of two: the least that holds the capacity, and at least one. -/
def slotsFor (capacity : Nat) : Nat := Nat.pow 2 (Nat.log2 (2 * max 1 capacity - 1))

def ofCapacity (capacity : Nat) : EventRing α := ⟨slotsFor capacity, 0, [], true, []⟩

def defaultCapacity : Nat := 256

def receivers (r : EventRing α) : Nat := r.positions.countP Option.isSome

def subscribe (r : EventRing α) : EventRing α × Nat :=
  ({ r with positions := r.positions ++ [if r.isOpen then some r.sent else none] },
    r.positions.length)

def unsubscribe (r : EventRing α) (i : Nat) : EventRing α :=
  { r with positions := r.positions.set i none }

/-- A value for all subscribers; without one, it is not taken in. -/
def publish (r : EventRing α) (a : α) : EventRing α :=
  if r.isOpen ∧ 0 < r.receivers then
    let held := r.held ++ [a]
    { r with sent := r.sent + 1, held := held.drop (held.length - r.slots) }
  else r

def close (r : EventRing α) : EventRing α := { r with isOpen := false }

def pending (r : EventRing α) (position : Nat) : List α :=
  r.held.drop (r.held.length - (r.sent - position))

def receive (r : EventRing α) (i : Nat) : EventRing α × Delivery α :=
  match r.positions[i]? with
  | none | some none => (r, .gone)
  | some (some position) =>
    let unread := r.sent - position
    let moveTo (p : Nat) := { r with positions := r.positions.set i (some p) }
    if r.held.length < unread then
      (moveTo (r.sent - r.held.length), .lagged (unread - r.held.length))
    else
      match r.pending position with
      | a :: _ => (moveTo (position + 1), .value a)
      | [] => (r, if r.isOpen then .empty else .closed)

def drain (r : EventRing α) (i : Nat) : EventRing α × List (Delivery α) :=
  go r (r.held.length + 1)
where
  go (r : EventRing α) : Nat → EventRing α × List (Delivery α)
    | 0 => (r, [])
    | fuel + 1 =>
      match r.receive i with
      | (r, .value a) => let (r, rest) := go r fuel; (r, .value a :: rest)
      | (r, .lagged n) => let (r, rest) := go r fuel; (r, .lagged n :: rest)
      | (r, _) => (r, [])

end EventRing

end CollectorGateway
