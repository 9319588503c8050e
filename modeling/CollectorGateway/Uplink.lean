import CollectorGateway.Client

/-!
The client with the writer of its connection. What the client sends is put into an
outbox; the writer takes one frame after another out of it and writes the octets as
the socket takes them. The outbox has room for so many frames, and a client that
sends one more takes no turn until the writer took one. What is still in the outbox
when the connection is dropped is thrown away.
-/

namespace CollectorGateway

structure Outbox where
  /-- What is still to be written of the frame that the writer is at. -/
  begun : List UInt8
  held : List Frame
  deriving DecidableEq

namespace Outbox

def room : Nat := 100

def empty : Outbox := ⟨[], []⟩

def isEmpty (o : Outbox) : Bool := o.begun.isEmpty && o.held.isEmpty

/-- There is no room for the last frame, and its sender waits. -/
def isOverfull (o : Outbox) : Bool := room < o.held.length

def put (o : Outbox) (frames : List Frame) : Outbox := { o with held := o.held ++ frames }

def octets (o : Outbox) : List UInt8 := o.begun ++ o.held.flatMap Frame.toOctets

def take (o : Outbox) : Outbox :=
  match o.begun, o.held with
  | [], f :: held => ⟨f.toOctets, held⟩
  | _, _ => o

/-- What is left, and what is written, when the socket takes so many octets of a frame. -/
def write (o : Outbox) (n : Nat) : Outbox × List UInt8 :=
  (⟨o.take.begun.drop n, o.take.held⟩, o.take.begun.take n)

def load (o : Outbox) : Nat := (if o.begun.isEmpty then 0 else 1) + o.held.length

@[simp] theorem octets_put (o : Outbox) (frames : List Frame) :
    (o.put frames).octets = o.octets ++ frames.flatMap Frame.toOctets := by
  simp [octets, put]

@[simp] theorem put_nil (o : Outbox) : o.put [] = o := by simp [put]

theorem octets_take (o : Outbox) : o.take.octets = o.octets := by
  unfold take
  split
  · rename_i begun held
    simp [octets, begun, held]
  · rfl

theorem held_take_le (o : Outbox) : o.take.held.length ≤ o.held.length := by
  unfold take
  split
  · rename_i held
    simp [held]
  · exact Nat.le_refl _

theorem octets_write (o : Outbox) (n : Nat) : (o.write n).2 ++ (o.write n).1.octets = o.octets := by
  rw [← octets_take o]
  simp only [write, octets]
  rw [← List.append_assoc, List.take_append_drop]

theorem write_empty (n : Nat) : empty.write n = (empty, []) := by simp [write, take, empty]

theorem isEmpty_iff {o : Outbox} : o.isEmpty = true ↔ o = empty := by
  obtain ⟨begun, held⟩ := o
  simp [isEmpty, empty]

theorem load_put (o : Outbox) (frames : List Frame) :
    (o.put frames).load = o.load + frames.length := by
  simp [load, put, Nat.add_assoc]

theorem load_write {o : Outbox} (filled : o.isEmpty = false) :
    (o.write o.take.begun.length).1.load < o.load := by
  obtain ⟨begun, held⟩ := o
  cases begun with
  | nil =>
    cases held with
    | nil => simp [isEmpty] at filled
    | cons f held => simp [write, take, load]
  | cons b begun => simp [write, take, load]

end Outbox

structure Uplink where
  client : Client
  outbox : Outbox
  /-- The socket refused what was written, and the writer gave up. -/
  broken : Bool

namespace Uplink

inductive Deed where
  | act (a : Action)
  | write (bs : List UInt8)

namespace Deed

def act? : Deed → Option Action
  | act a => some a
  | write _ => none

def written : Deed → List UInt8
  | act _ => []
  | write bs => bs

end Deed

def acts (deeds : List Deed) : List Action := deeds.filterMap Deed.act?

inductive Stimulus where
  | client (s : Client.Stimulus)
  /-- The socket takes octets of the frame whose turn it is, at most so many. -/
  | takes (n : Nat)
  | refuses

/-- What the client does about a stimulus. One that waits for room takes no turn, but
to notice that there will be none. -/
def respond (u : Uplink) (s : Client.Stimulus) : Client × List Action :=
  if s.isTurn && u.outbox.isOverfull then
    if u.broken then u.client.dropLink else (u.client, [])
  else u.client.stepOn (!u.broken) s

def heed (u : Uplink) : Action → Uplink
  | .send f => { u with outbox := u.outbox.put [f] }
  | .hangUp => { u with outbox := .empty, broken := false }
  | _ => u

def step (u : Uplink) : Stimulus → Uplink × List Deed
  | .client s =>
    let (client, actions) := u.respond s
    (actions.foldl heed { u with client }, actions.map .act)
  | .takes n =>
    if u.broken then (u, [])
    else
      let (outbox, bs) := u.outbox.write n
      ({ u with outbox }, if bs.isEmpty then [] else [.write bs])
  | .refuses =>
    if u.broken || u.outbox.isEmpty then (u, [])
    else ({ u with broken := true }, [.act (.note .streamUnwritable)])

def run (u : Uplink) : List Stimulus → Uplink × List Deed
  | [] => (u, [])
  | s :: rest =>
    let (u, deeds) := u.step s
    let (u, more) := u.run rest
    (u, deeds ++ more)

def start (delay : Nat) : Uplink × List Deed :=
  let (client, actions) := Client.start delay
  (⟨client, .empty, false⟩, actions.map .act)

def turn? (u : Uplink) : Option Client.Turn :=
  if u.outbox.isOverfull then if u.broken then some .loss else none
  else u.client.due?

/-- What is due next: the client goes first, and the writer writes whole frames. -/
def due? (u : Uplink) : Option Stimulus :=
  match u.turn? with
  | some t => some (.client (.turn t))
  | none =>
    if u.broken || u.outbox.isEmpty then none else some (.takes u.outbox.take.begun.length)

def work (u : Uplink) : Nat := 2 * u.client.work + u.outbox.load

def settleWithin : Nat → Uplink → Uplink × List Deed
  | 0, u => (u, [])
  | n + 1, u =>
    match u.due? with
    | none => (u, [])
    | some s =>
      let (u, deeds) := u.step s
      let (u, more) := settleWithin n u
      (u, deeds ++ more)

def settle (u : Uplink) : Uplink × List Deed := settleWithin u.work u

end Uplink

end CollectorGateway
