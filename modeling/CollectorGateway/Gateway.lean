import CollectorGateway.Journal
import CollectorGateway.Message

/-!
The gateway's knowledge, a roster and a network, and how it changes. A frame
from the server or a request from the presentation side is taken in one step
that says what is then known, what is sent back, and in order what is noted,
published and recorded. A step that fails leaves the knowledge as it was.
-/

namespace CollectorGateway

structure Gateway where
  roster : Roster
  network : Option Network
  deriving DecidableEq, Repr

inductive Effect where
  | note (n : Note)
  | publish (e : Event)
  | record (r : Reading)

namespace Effect

def event? : Effect → Option Event
  | publish e => some e
  | _ => none

def reading? : Effect → Option Reading
  | record r => some r
  | _ => none

def note? : Effect → Option Note
  | note n => some n
  | _ => none

@[simp] theorem event?_note (n : Note) : (note n).event? = none := rfl
@[simp] theorem event?_publish (e : Event) : (publish e).event? = some e := rfl
@[simp] theorem event?_record (r : Reading) : (record r).event? = none := rfl
@[simp] theorem reading?_note (n : Note) : (note n).reading? = none := rfl
@[simp] theorem reading?_publish (e : Event) : (publish e).reading? = none := rfl
@[simp] theorem reading?_record (r : Reading) : (record r).reading? = some r := rfl

end Effect

inductive Sink where
  | journal
  | memory
  | nowhere
  deriving DecidableEq, Repr

def Effect.noteWith (sink : Sink) (receivers : Nat) : Effect → Option Note
  | note n => some n
  | publish e => some (.published e.name receivers)
  | record r => if sink = .journal then some (.readingTaken r) else none

structure Outcome where
  gateway : Gateway
  /-- The frame to send to the server. -/
  reply : Option Frame
  effects : List Effect
  fault : Option Fault

namespace Outcome

def events (o : Outcome) : List Event := o.effects.filterMap Effect.event?
def readings (o : Outcome) : List Reading := o.effects.filterMap Effect.reading?
def notes (o : Outcome) : List Note := o.effects.filterMap Effect.note?

end Outcome

namespace Gateway

def empty : Gateway := ⟨.empty, none⟩

def stay (g : Gateway) (effects : List Effect) : Outcome := ⟨g, none, effects, none⟩

def fail (g : Gateway) (effects : List Effect) (fault : Fault) : Outcome :=
  ⟨g, none, effects, some fault⟩

def stateNotes (code : UInt8) : List Effect :=
  if NetworkState.ofCode code = .unknown then [.note (.illegalState code)] else []

def describeNetwork (g : Gateway) (r : NetworkRecord) : Outcome :=
  let network := Network.ofRecord r
  ⟨{ g with network := some network }, none,
    stateNotes r.state ++ [.note (.networkDescribed network), .publish (.networkInfo (some network))],
    none⟩

def changeState (g : Gateway) (code : UInt8) : Outcome :=
  match g.network with
  | none => g.fail [] .networkUnknown
  | some network =>
    let network := network.withState code
    ⟨{ g with network := some network }, none,
      stateNotes code ++
        [.note (.stateChanged network.state), .publish (.networkInfo (some network))],
      none⟩

def replaceRoster (g : Gateway) (status : UInt8) (entries : List RosterEntry) : Outcome :=
  let roster := Roster.ofEntries entries
  ⟨{ g with roster }, none,
    [.note (.rosterReceived status entries.length), .note (.rosterReplaced roster.size),
      .publish (.deviceArray roster.devices)],
    none⟩

def deviceEvent (roster : Roster) (i : Nat) : List Effect :=
  (roster.get? i).toList.map fun d => .publish (.deviceUpdate d)

def joinNote (short : UInt16) (ext : UInt64) : Roster.Joining → Note
  | .created => .deviceJoined ext
  | .updated => .deviceRejoined ext short

def joinDevice (g : Gateway) (short : UInt16) (ext : UInt64) (capability : Capability) : Outcome :=
  let (roster, i, joining) := g.roster.join short ext capability
  let added := if joining = .created then [.note (.deviceAdded i)] else []
  ⟨{ g with roster }, none,
    .note (joinNote short ext joining) :: added ++ deviceEvent roster i, none⟩

def updateDevice (g : Gateway) (a : Address) (before : List Effect) (f : Device → Device) :
    Outcome :=
  match g.roster.find? a with
  | none => g.fail before (.deviceNotFound a)
  | some i =>
    let roster := g.roster.modify i f
    ⟨{ g with roster }, none, before ++ deviceEvent roster i, none⟩

def deactivateDevice (g : Gateway) (short : UInt16) (timeout : UInt8) : Outcome :=
  let o := g.updateDevice (.short short) [] Device.deactivate
  match o.fault with
  | none => { o with effects := .note (.deviceInactive short timeout) :: o.effects }
  | some _ => o

/-- Readings are recorded whether or not the device is known. -/
def takeReport (g : Gateway) (a : Address) (rssi : Int8) (report : SensorReport)
    (trailing : Nat) : Outcome :=
  let notes := if 0 < trailing then [.note (.trailingOctets trailing)] else []
  g.updateDevice a (notes ++ report.readings.map .record) (·.applyReport rssi report)

/-- A device that rejects its configuration is published as it was. -/
def takeConfig (g : Gateway) (a : Address) (status : UInt16) (fields : FieldMask)
    (reporting polling : UInt32) : Outcome :=
  if status = 0 then g.updateDevice a [] (·.applyConfig fields reporting polling)
  else
    let o := g.updateDevice a [] id
    match o.fault with
    | none => { o with effects := .note (.configRejected a status) :: o.effects }
    | some _ => o

def take (g : Gateway) (c : Command) : Message → Outcome
  | .networkAnswer status record =>
    if status = 1 then { g.describeNetwork record with reply := some .getDeviceArray }
    else g.stay [.note (.networkNotStarted status)]
  | .network record => g.describeNetwork record
  | .roster status entries => g.replaceRoster status entries
  | .joined short ext capability => g.joinDevice short ext capability
  | .inactive short timeout => g.deactivateDevice short timeout
  | .fromSensor a rssi (.data report trailing) => g.takeReport a rssi report trailing
  | .fromSensor a _ (.config status fields reporting polling) =>
    g.takeConfig a status fields reporting polling
  | .fromSensor a _ (.other inner) => g.stay [.note (.sensorMessageIgnored a inner)]
  | .fromSensor a _ (.unknown inner) => g.stay [.note (.sensorMessageUnknown a inner)]
  | .stateChanged code => g.changeState code
  | .joinPermit status => g.stay [.publish (.permitJoinConfirmation status)]
  | .sent => g.stay []
  | .unhandled => g.stay [.note (.frameIgnored c)]

def takePayload (g : Gateway) (c : Command) (payload : List UInt8) : Outcome :=
  match Message.ofPayload c payload with
  | .error fault => g.fail [] fault
  | .ok message => g.take c message

def dropNotes (c : Command) : Option Fault → List Effect
  | none => []
  | some fault => [.note (.frameDropped c fault)]

/-- The note on a frame of another subsystem, which is taken all the same. -/
def foreignNotes (subsystem : UInt8) : List Effect :=
  if subsystem = rpcSubsystem then [] else [.note (.foreignSubsystem subsystem)]

def dispatch (g : Gateway) (f : Frame) : Outcome :=
  match Command.ofCode? f.command with
  | none => g.stay (foreignNotes f.subsystem ++ [.note (.unknownCommand f.command)])
  | some c =>
    let o := g.takePayload c f.payload
    { o with effects :=
        foreignNotes f.subsystem ++
          .note (.frameReceived c f.payload.length) :: o.effects ++ dropNotes c o.fault }

def resolve (g : Gateway) : Option Address → Except Fault UInt16
  | none => .error .missingTarget
  | some a =>
    match (g.roster.find? a).bind g.roster.get? with
    | some device => .ok device.shortAddress
    | none => .error (.deviceNotFound a)

def sendTo (g : Gateway) (target : Option Address) (frame : UInt16 → Frame) : Outcome :=
  match g.resolve target with
  | .error fault => g.fail [] fault
  | .ok short => ⟨g, some (frame short), [], none⟩

def answer (g : Gateway) : Request → Outcome
  | .getNetworkInfo => g.stay [.publish (.networkInfo g.network)]
  | .getDeviceArray => g.stay [.publish (.deviceArray g.roster.devices)]
  | .setPermitJoin action => ⟨g, some (.setJoinPermit action.duration), [], none⟩
  | .sendToggle target => g.sendTo target .toggle
  | .sendConfig target polling reporting fields =>
    g.sendTo target (.configure · polling reporting fields)

theorem gateway_answer (g : Gateway) (r : Request) : (g.answer r).gateway = g := by
  cases r <;> simp only [answer, stay, sendTo]
  all_goals split <;> rfl

end Gateway

end CollectorGateway
