import CollectorGateway.CommandLine
import CollectorGateway.LineBridge
import CollectorGateway.Uplink
import Std.Async.DNS
import Std.Async.Signal
import Std.Async.TCP
import Std.Async.Timer
import Std.Sync.Channel

/-!
The program. One loop owns the client and its outbox and takes what happens out
of a mailbox; beside it others wait for the server, for a write to end, the clock,
the interrupt and the standard input, and do nothing but post. Events go to the
standard output and notes to the standard error stream. A read of the standard
input cannot be called off: after an interrupt the program is over once that read
returns.
-/

namespace CollectorGateway.Program

open Std.Async

/-- What is posted. A connection is told by the number of its call. -/
inductive Happening where
  | answered (socket : TCP.Socket.Client)
  | unanswered
  | octets (call : Nat) (bs : List UInt8)
  | hungUp (call : Nat)
  | wrote (call octets : Nat)
  | unwritable (call : Nat)
  | line (l : LineBridge.Line)
  | inputOver
  | tick
  | interrupted

abbrev Mailbox := Std.CloseableChannel Happening

structure State where
  box : Mailbox
  server : ServerAddress
  journal : Level
  uplink : Uplink
  calls : Nat
  socket : Option TCP.Socket.Client
  /-- The deadline that is already waited for. -/
  armed : Option Nat
  /-- Whether a frame is being written. -/
  writing : Bool
  reading : Bool

def post (box : Mailbox) (h : Happening) : IO Unit := do
  let _ ← box.send h

def beside (act : Async Unit) : IO Unit := do
  let _ ← act.toIO

def socketAddress (ip : Std.Net.IPAddr) (port : UInt16) : Std.Net.SocketAddress :=
  match ip with
  | .v4 ip => .v4 ⟨ip, port⟩
  | .v6 ip => .v6 ⟨ip, port⟩

def firstAnswer (port : UInt16) : List Std.Net.IPAddr → Async TCP.Socket.Client
  | [] => throw (IO.userError "no answer")
  | ip :: rest => do
    try
      let socket ← TCP.Socket.Client.mk
      socket.connect (socketAddress ip port)
      socket.noDelay
      return socket
    catch _ => firstAnswer port rest

def dial (box : Mailbox) (server : ServerAddress) : Async Unit := do
  try
    let ips ← DNS.getAddrInfo server.host (toString server.port.toNat)
    post box (.answered (← firstAnswer server.port ips.toList))
  catch _ => post box .unanswered

partial def listen (box : Mailbox) (call : Nat) (socket : TCP.Socket.Client) : Async Unit := do
  match ← (try socket.recv? 4096 catch _ => pure none) with
  | some bs =>
    post box (.octets call bs.toList)
    listen box call socket
  | none => post box (.hungUp call)

def write (box : Mailbox) (call : Nat) (socket : TCP.Socket.Client) (bs : List UInt8) :
    Async Unit := do
  try
    socket.send (ByteArray.mk bs.toArray)
    post box (.wrote call bs.length)
  catch _ => post box (.unwritable call)

def awaitDeadline (box : Mailbox) (span : Nat) : Async Unit := do
  sleep (.ofNat span)
  post box .tick

def awaitInterrupt (box : Mailbox) : Async Unit := do
  let waiter ← Signal.Waiter.mk .sigint false
  let _ ← await (← waiter.wait)
  post box .interrupted

partial def readLine (input : IO.FS.Stream) (before : List UInt8) : IO (List UInt8) := do
  match (← input.read 1).toList with
  | [] => return before.reverse
  | b :: _ => if b = 10 then return (b :: before).reverse else readLine input (b :: before)

partial def readLines (box : Mailbox) (input : IO.FS.Stream) : IO Unit := do
  let bs ← readLine input []
  if bs.isEmpty then post box .inputOver
  else
    for line in LineBridge.lines bs do post box (.line (.ofOctets line))
    readLines box input

def note (p : State) (n : Note) : IO Unit := do
  if n.level.rank ≤ p.journal.rank then IO.eprintln n.text

def hangUp (socket : TCP.Socket.Client) : IO Unit := do
  try socket.shutdown.block catch _ => pure ()

def perform (p : State) : Uplink.Deed → IO State
  | .act (.effect e) => do
    if let some n := e.noteWith .journal 1 then note p n
    if let some event := e.event? then
      let output ← IO.getStdout
      output.putStr (String.ofList (LineBridge.eventLine event))
      output.flush
    return p
  | .act .dial => do
    beside (dial p.box p.server)
    return p
  | .act .hangUp => do
    p.socket.forM hangUp
    return { p with socket := none, writing := false }
  | .act (.send _) | .write _ => return p

def follow (p : State) (did : Uplink × List Uplink.Deed) : IO State :=
  did.2.foldlM perform { p with uplink := did.1 }

/-- Begins to write the next frame unless one is still being written. -/
def pump (p : State) : IO State := do
  match p.socket with
  | none => return p
  | some socket =>
    if p.writing || p.uplink.broken || p.uplink.outbox.isEmpty then return p
    else
      let p ← follow p (p.uplink.step (.takes 0))
      beside (write p.box p.calls socket p.uplink.outbox.begun)
      return { p with writing := true }

partial def stimulate (p : State) (s : Uplink.Stimulus) : IO State := do
  let p ← follow p (p.uplink.step s)
  match p.uplink.turn? with
  | none => pump p
  | some t => stimulate p (.client (.turn t))

def arm (p : State) : IO State := do
  match p.uplink.client.activity with
  | .waiting deadline =>
    if p.armed = some deadline then return p
    else
      beside (awaitDeadline p.box (deadline - p.uplink.client.clock))
      return { p with armed := some deadline }
  | _ => return { p with armed := none }

def takeLine (p : State) : LineBridge.Line → IO State
  | .blank => return p
  | .malformed => do
    note p .requestMalformed
    return p
  | .notText cause => do
    note p (.inputFailed (.stream cause))
    return { p with reading := false }
  | .request r => do
    note p (.requestRead r)
    stimulate p (.client (.submitted r))

def isCurrent (p : State) (call : Nat) : Bool := call = p.calls && p.socket.isSome

def handle (p : State) : Happening → IO (Option State)
  | .answered socket => do
    let call := p.calls + 1
    beside (listen p.box call socket)
    let p := { p with calls := call, socket := some socket, writing := false }
    return some (← stimulate p (.client .established))
  | .unanswered => do return some (← stimulate p (.client .refused))
  | .octets call bs => do
    if isCurrent p call then return some (← stimulate p (.client (.received bs)))
    else return some p
  | .hungUp call => do
    if isCurrent p call then return some (← stimulate p (.client .ended)) else return some p
  | .wrote call octets => do
    if isCurrent p call then return some (← stimulate { p with writing := false } (.takes octets))
    else return some p
  | .unwritable call => do
    if isCurrent p call then return some (← stimulate { p with writing := false } .refuses)
    else return some p
  | .line l => do if p.reading then return some (← takeLine p l) else return some p
  | .inputOver => do
    if p.reading then note p .inputClosed
    return some p
  | .tick => do return some (← stimulate { p with armed := none } (.client (.turn .timer)))
  | .interrupted => return none

partial def loop (p : State) : IO Unit := do
  let p ← arm p
  match ← IO.wait (← p.box.recv) with
  | none => return
  | some h =>
    let now ← IO.monoMsNow
    let p ← follow p (p.uplink.step (.client (.elapsed (now - p.uplink.client.clock))))
    match ← handle p h with
    | some p => loop p
    | none => p.socket.forM hangUp

def serve (s : Settings) : IO Unit := do
  let box ← Std.CloseableChannel.new
  beside (awaitInterrupt box)
  let _ ← IO.asTask (readLines box (← IO.getStdin)) .dedicated
  let (uplink, deeds) := Uplink.start s.reconnectDelay
  let p : State := ⟨box, s.server, s.journalLevel, uplink, 0, none, none, false, true⟩
  let p ← follow p (p.uplink.step (.client (.elapsed (← IO.monoMsNow))))
  loop (← follow p (p.uplink, deeds))

def readFile (path : String) : IO (Option (List UInt8)) := do
  try return some (← IO.FS.readBinFile path).toList
  catch _ => return none

def writeTemplate (path : String) : IO UInt32 := do
  try
    IO.FS.writeFile path Settings.default.fileText
    IO.print (CommandLine.writtenMessage path)
    return 0
  catch e =>
    IO.eprintln (toString e)
    return CommandLine.failureCode

def usage : String := "usage: [--config FILE] [--host HOST] [--port PORT] [--gen-config [FILE]]"

def run (words : List String) : IO UInt32 := do
  match CommandLine.ofWords? words with
  | none =>
    IO.eprintln usage
    return CommandLine.usageCode
  | some c =>
    match c.task with
    | .showTemplate =>
      IO.print CommandLine.shownTemplate
      return 0
    | .writeTemplate path => writeTemplate path
    | .serve =>
      let (s, notes) := Settings.load (← readFile c.file)
      for n in Note.keptBy s.journalLevel notes do IO.eprintln n.text
      serve (c.settings s)
      return 0

end CollectorGateway.Program

def main (words : List String) : IO UInt32 := CollectorGateway.Program.run words
