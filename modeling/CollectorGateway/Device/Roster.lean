import CollectorGateway.Device.Basic

/-!
The devices known to the coordinator, in the order in which they became known.
A device is added when it joins, the whole roster is replaced by a snapshot,
and nothing else adds, removes or moves a device.
-/

namespace CollectorGateway

structure RosterEntry where
  shortAddress : UInt16
  extAddress : UInt64
  capability : Capability
  deriving DecidableEq, Repr

structure Roster where
  devices : List Device
  deriving DecidableEq, Repr

namespace Roster

def empty : Roster := ⟨[]⟩

def size (r : Roster) : Nat := r.devices.length

def get? (r : Roster) (i : Nat) : Option Device := r.devices[i]?

def find? (r : Roster) (a : Address) : Option Nat := r.devices.findIdx? (·.answersTo a)

def modify (r : Roster) (i : Nat) (f : Device → Device) : Roster := ⟨r.devices.modify i f⟩

def ofEntries (entries : List RosterEntry) : Roster :=
  ⟨entries.map fun e => Device.fresh e.shortAddress e.extAddress e.capability⟩

inductive Joining where
  | created
  | updated
  deriving DecidableEq, Repr

/-- A device joined: one with a known extended address is brought up to date in
its place, any other is added at the end. -/
def join (r : Roster) (short : UInt16) (ext : UInt64) (capability : Capability) :
    Roster × Nat × Joining :=
  match r.find? (.extended ext) with
  | some i => (r.modify i (·.rejoin short capability), i, .updated)
  | none => (⟨r.devices ++ [Device.fresh short ext capability]⟩, r.size, .created)

end Roster

end CollectorGateway
