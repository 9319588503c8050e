import CollectorGateway.Event
import CollectorGateway.Request
import CollectorGateway.Wire.Command

/-!
What the gateway notes about its own work. Each kind of note has a level, and
a journal keeps the notes up to one level; `Note.text` is the only place where
notes are put into words.
-/

namespace CollectorGateway

inductive Level where
  | off
  | error
  | warn
  | info
  | debug
  | trace
  deriving DecidableEq, Repr

namespace Level

def rank : Level → Nat
  | off => 0
  | error => 1
  | warn => 2
  | info => 3
  | debug => 4
  | trace => 5

def label : Level → String
  | off => "OFF"
  | error => "ERROR"
  | warn => "WARN"
  | info => "INFO"
  | debug => "DEBUG"
  | trace => "TRACE"

def all : List Level := [off, error, warn, info, debug, trace]

def ofName? (s : String) : Option Level := all.find? fun l => l.label = s.toUpper

end Level

inductive Note where
  -- frames
  | foreignSubsystem (id : UInt8)
  | unknownCommand (id : UInt8)
  | frameReceived (command : Command) (length : Nat)
  | frameIgnored (command : Command)
  | frameDropped (command : Command) (fault : Fault)
  -- the network
  | networkNotStarted (status : UInt8)
  | networkDescribed (network : Network)
  | illegalState (code : UInt8)
  | stateChanged (state : NetworkState)
  -- devices
  | rosterReceived (status : UInt8) (count : Nat)
  | rosterReplaced (count : Nat)
  | deviceRejoined (ext : UInt64) (short : UInt16)
  | deviceJoined (ext : UInt64)
  | deviceAdded (index : Nat)
  | deviceInactive (short : UInt16) (timeout : UInt8)
  | trailingOctets (count : Nat)
  | configRejected (address : Address) (status : UInt16)
  | sensorMessageIgnored (address : Address) (inner : SensorCommand)
  | sensorMessageUnknown (address : Address) (inner : UInt8)
  | readingTaken (reading : Reading)
  -- events
  | eventPublished (name : String) (receivers : Nat)
  | eventUnheard (name : String)
  | eventsSkipped (count : Nat)
  -- the link
  | linkReset (fault : Fault)
  | linkPhaseUnexpected (fault : Fault) (phase : String)
  | linkConnecting
  | linkConnected
  | linkLost
  | linkRefused
  | streamFailed
  | streamUnwritable
  | streamFinished
  | reconnectScheduled (delay : Nat)
  | stopped
  -- requests
  | requestFailed (fault : Fault)
  | requestUnsent (command : UInt8)
  | requestRead (request : Request)
  | requestMalformed
  | inputClosed
  | inputFailed (fault : Fault)
  -- settings
  | settingsInvalid
  | settingsMissing

namespace Note

def published (name : String) (receivers : Nat) : Note :=
  if receivers = 0 then eventUnheard name else eventPublished name receivers

def level : Note → Level
  | foreignSubsystem _ | trailingOctets _ | eventPublished _ _ | eventUnheard _ => .trace
  | unknownCommand _ | frameDropped _ _ | illegalState _ | eventsSkipped _ | linkReset _
  | linkPhaseUnexpected _ _ | linkLost | linkRefused | streamFailed | streamUnwritable
  | requestFailed _ | requestUnsent _ | requestMalformed | inputFailed _ | settingsInvalid => .warn
  | readingTaken _ | linkConnecting | linkConnected | inputClosed | settingsMissing => .info
  | frameReceived _ _ | frameIgnored _ | networkNotStarted _ | networkDescribed _
  | stateChanged _ | rosterReceived _ _ | rosterReplaced _ | deviceRejoined _ _ | deviceJoined _
  | deviceAdded _ | deviceInactive _ _ | configRejected _ _ | sensorMessageIgnored _ _
  | sensorMessageUnknown _ _ | streamFinished | reconnectScheduled _ | stopped
  | requestRead _ => .debug

/-- A time span with the largest unit that leaves it a whole part. -/
def spanText (ms : Nat) : String :=
  if ms = 0 then "0ns"
  else if ms < 1000 then s!"{ms}ms"
  else
    let padded := (Nat.toDigits 10 (1000 + ms % 1000)).drop 1
    let fraction := (padded.reverse.dropWhile (· == '0')).reverse
    let point := if fraction.isEmpty then [] else '.' :: fraction
    String.ofList (Nat.toDigits 10 (ms / 1000) ++ point ++ ['s'])

def message : Note → String
  | foreignSubsystem id => s!"frame from foreign subsystem subsystem={id.toNat}"
  | unknownCommand id => s!"unknown command id; frame dropped command_id={id.toNat}"
  | frameReceived command length => s!"rx frame command={command.name} len={length}"
  | frameIgnored command => s!"no handler; frame ignored command={command.name}"
  | frameDropped command fault =>
      s!"frame dropped command={command.name} error={fault.message}"
  | networkNotStarted status => s!"network not started yet status={status.toNat}"
  | networkDescribed network =>
      s!"network info channel={network.channel.toNat} state={network.state.label} " ++
        s!"mode={network.mode.label}"
  | illegalState code => s!"illegal collector state raw={code.toNat}"
  | stateChanged state => s!"collector state changed state={state.label}"
  | rosterReceived status count => s!"device array status={status.toNat} count={count}"
  | rosterReplaced count => s!"device roster replaced count={count}"
  | deviceRejoined ext short =>
      s!"known device rejoined ext={(Address.extended ext).text} " ++
        s!"short={(Address.short short).text}"
  | deviceJoined ext => s!"new device joined ext={(Address.extended ext).text}"
  | deviceAdded index => s!"device added to roster index={index}"
  | deviceInactive short timeout =>
      s!"device not active address={(Address.short short).text} timeout={timeout.toNat}"
  | trailingOctets count => s!"trailing bytes after sensor data extra={count}"
  | configRejected address status =>
      s!"device rejected config address={address.text} status={status.toNat}"
  | sensorMessageIgnored address inner =>
      s!"sensor message ignored address={address.text} inner={inner.name}"
  | sensorMessageUnknown address inner =>
      s!"unknown sensor message ignored address={address.text} inner={inner.toNat}"
  | readingTaken reading =>
      s!"reading kind={reading.kind.name} value={reading.value.bitsText}"
  | eventPublished name receivers =>
      s!"event published event={Record.quoted name} receivers={receivers}"
  | eventUnheard name => s!"event published with no subscribers event={Record.quoted name}"
  | eventsSkipped count =>
      s!"event consumer lagging; oldest events dropped skipped={count}"
  | linkReset fault => s!"resetting link state error={fault.message}"
  | linkPhaseUnexpected fault phase =>
      s!"unexpected phase after session error={fault.message} phase={phase}"
  | linkConnecting => "connecting"
  | linkConnected => "connected"
  | linkLost => "connection lost"
  | linkRefused => "connect failed"
  | streamFailed => "network read error"
  | streamUnwritable => "network write error"
  | streamFinished => "reader finished"
  | reconnectScheduled delay => s!"reconnect scheduled delay={spanText delay}"
  | stopped => "gateway client stopped"
  | requestFailed fault => s!"request dropped error={fault.message}"
  | requestUnsent command =>
      s!"request dropped command_id={command.toNat} error={Fault.notConnected.message}"
  | requestRead request => s!"request request={request.describe}"
  | requestMalformed => "malformed request line skipped"
  | inputClosed => "request input closed"
  | inputFailed fault => s!"request input failed error={fault.message}"
  | settingsInvalid => "invalid config"
  | settingsMissing => "no config"

def text (n : Note) : String := n.level.label ++ " " ++ n.message

def keptBy (level : Level) (notes : List Note) : List Note :=
  notes.filter fun n => n.level.rank ≤ level.rank

end Note

end CollectorGateway
