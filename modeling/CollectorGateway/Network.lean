import CollectorGateway.Json.Printer
import CollectorGateway.Json.Reader
import CollectorGateway.Octet.Cursor
import CollectorGateway.Text.Record

/-!
The one network that the collector runs: the record in which it arrives and
the description that is kept of it. State and mode arrive as codes and are
kept as labels; a code without a label is told as unknown and is no fault.
-/

namespace CollectorGateway

inductive NetworkState where
  | waiting
  | starting
  | restoring
  | started
  | opened
  | closed
  | unknown
  deriving DecidableEq, Repr

namespace NetworkState

/-- A started network and a restored one are both running. -/
def ofCode (code : UInt8) : NetworkState :=
  if code = 0 then waiting
  else if code = 1 then starting
  else if code = 2 then restoring
  else if code = 3 ∨ code = 4 then started
  else if code = 5 then opened
  else if code = 6 then closed
  else unknown

def label : NetworkState → String
  | waiting => "waiting"
  | starting => "starting"
  | restoring => "restoring"
  | started => "started"
  | opened => "open"
  | closed => "close"
  | unknown => "unknown"

def all : List NetworkState := [waiting, starting, restoring, started, opened, closed, unknown]

def ofJson? : Json → Option NetworkState := Json.pick? (all.map fun s => (s.label, s))

theorem ofCode_eq_unknown_iff (code : UInt8) : ofCode code = unknown ↔ 6 < code := by
  have h5 : (5 : UInt8).toNat = 5 := rfl
  have h6 : (6 : UInt8).toNat = 6 := rfl
  simp only [ofCode, UInt8.lt_iff_toNat_lt, ← UInt8.toNat_inj, UInt8.toNat_zero,
    UInt8.toNat_one, show (2 : UInt8).toNat = 2 from rfl, show (3 : UInt8).toNat = 3 from rfl,
    show (4 : UInt8).toNat = 4 from rfl, h5, h6]
  repeat' split
  all_goals simp
  all_goals omega

end NetworkState

inductive NetworkMode where
  | beaconEnabled
  | nonBeacon
  | frequencyHopping
  | unknown
  deriving DecidableEq, Repr

namespace NetworkMode

def ofCode (code : UInt8) : NetworkMode :=
  if code = 1 then beaconEnabled
  else if code = 2 then nonBeacon
  else if code = 3 then frequencyHopping
  else unknown

def label : NetworkMode → String
  | beaconEnabled => "Beacon Enabled"
  | nonBeacon => "Non Beacon"
  | frequencyHopping => "Freq Hopping"
  | unknown => "Unknown Mode"

def all : List NetworkMode := [beaconEnabled, nonBeacon, frequencyHopping, unknown]

def ofJson? : Json → Option NetworkMode := Json.pick? (all.map fun m => (m.label, m))

end NetworkMode

structure NetworkRecord where
  panId : UInt16
  shortAddress : UInt16
  extAddress : UInt64
  channel : UInt8
  hopping : Bool
  security : Bool
  mode : UInt8
  state : UInt8
  deriving DecidableEq, Repr

namespace NetworkRecord

def size : Nat := 17

def describe (r : NetworkRecord) : String :=
  Record.text "RawNetworkInfo"
    [("pan_id", toString r.panId.toNat), ("short_address", toString r.shortAddress.toNat),
      ("ext_address", toString r.extAddress.toNat), ("channel", toString r.channel.toNat),
      ("fh", toString r.hopping), ("security_enabled", toString r.security),
      ("network_mode", toString r.mode.toNat), ("state", toString r.state.toNat)]

end NetworkRecord

def Read.networkRecord : Read NetworkRecord :=
  return ⟨← u16, ← u16, ← u64, ← u8, ← bool, ← bool, ← u8, ← u8⟩

structure Coordinator where
  panId : UInt16
  shortAddress : UInt16
  extAddress : UInt64
  deriving DecidableEq, Repr

structure Network where
  hopping : Bool
  channel : UInt8
  coordinator : Coordinator
  security : Bool
  mode : NetworkMode
  state : NetworkState
  deriving DecidableEq, Repr

namespace Coordinator

open Json (ofNat record required)

def toJson (c : Coordinator) : Json :=
  record [("pan_id", ofNat c.panId.toNat), ("short_address", ofNat c.shortAddress.toNat),
    ("ext_address", ofNat c.extAddress.toNat)]

def ofJson? (j : Json) : Option Coordinator := do
  let fs ← j.record? ["pan_id", "short_address", "ext_address"]
  return ⟨← required fs "pan_id" Json.u16?, ← required fs "short_address" Json.u16?,
    ← required fs "ext_address" Json.u64?⟩

end Coordinator

namespace Network

open Json (ofNat record required)

def ofRecord (r : NetworkRecord) : Network where
  hopping := r.hopping
  channel := r.channel
  coordinator := ⟨r.panId, r.shortAddress, r.extAddress⟩
  security := r.security
  mode := .ofCode r.mode
  state := .ofCode r.state

def withState (n : Network) (code : UInt8) : Network := { n with state := .ofCode code }

def toJson (n : Network) : Json :=
  record [("fh", .bool n.hopping), ("channel", ofNat n.channel.toNat),
    ("pan_coord", n.coordinator.toJson), ("security_enabled", .bool n.security),
    ("network_mode", .ofText n.mode.label), ("state", .ofText n.state.label)]

def ofJson? (j : Json) : Option Network := do
  let fs ← j.record?
    ["fh", "channel", "pan_coord", "security_enabled", "network_mode", "state"]
  return {
    hopping := ← required fs "fh" Json.bool?
    channel := ← required fs "channel" Json.u8?
    coordinator := ← required fs "pan_coord" Coordinator.ofJson?
    security := ← required fs "security_enabled" Json.bool?
    mode := ← required fs "network_mode" NetworkMode.ofJson?
    state := ← required fs "state" NetworkState.ofJson? }

end Network

end CollectorGateway
