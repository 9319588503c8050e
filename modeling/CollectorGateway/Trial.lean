import CollectorGateway.LineBridge
import CollectorGateway.Uplink

/-!
A client on trial: it runs against a server and a presentation side that do as
they are told, with one consumer of events that keeps up and a socket that takes
whatever is written. After each thing that happens the client and its writer do
all they can do without a further one; all that the outside sees is read off
from what they did.
-/

namespace CollectorGateway

structure Trial where
  client : Client
  outbox : Outbox
  listening : Bool
  accepted : Nat
  hungUp : Nat
  /-- What the client did since it was last looked at, the last thing first. -/
  latest : List Action
  /-- What was written since then. -/
  written : List UInt8

structure Transcript where
  lines : List (List Char)
  sent : List UInt8
  readings : List Reading
  notes : List Note

namespace Action

def isHangUp : Action → Bool
  | hangUp => true
  | _ => false

def reading? : Action → Option Reading
  | effect e => e.reading?
  | _ => none

def note? : Action → Option Note
  | effect e => e.noteWith .memory 1
  | _ => none

end Action

def Transcript.ofActions (actions : List Action) : Transcript where
  lines := (actions.filterMap Action.event?).map LineBridge.eventLine
  sent := (actions.filterMap Action.sent?).flatMap Frame.toOctets
  readings := actions.filterMap Action.reading?
  notes := actions.filterMap Action.note?

namespace Trial

def actions (t : Trial) : List Action := t.latest.reverse

def uplink (t : Trial) : Uplink := ⟨t.client, t.outbox, false⟩

def did (t : Trial) (u : Uplink) (deeds : List Uplink.Deed) : Trial :=
  let actions := Uplink.acts deeds
  { t with
    client := u.client
    outbox := u.outbox
    hungUp := t.hungUp + actions.countP Action.isHangUp
    latest := actions.reverse ++ t.latest
    written := t.written ++ deeds.flatMap Uplink.Deed.written }

def stimulate (t : Trial) (s : Client.Stimulus) : Trial :=
  let (u, deeds) := t.uplink.step (.client s)
  t.did u deeds

def note (t : Trial) (n : Note) : Trial := { t with latest := .note n :: t.latest }

def answerCall (t : Trial) : Trial :=
  if t.client.activity = .connecting then
    if t.listening then { t with accepted := t.accepted + 1 }.stimulate .established
    else t.stimulate .refused
  else t

def settle (t : Trial) : Trial :=
  let t := t.answerCall
  let (u, deeds) := t.uplink.settle
  t.did u deeds

def look (t : Trial) : Transcript × Trial :=
  ({ Transcript.ofActions t.actions with sent := t.written },
    { t with latest := [], written := [] })

def start (delay : Nat) (listening : Bool) : Trial :=
  let (client, actions) := Client.start delay
  (Trial.mk client .empty listening 0 0 actions.reverse []).settle

/-- Time passes; if the client's timer runs out meanwhile, it does so once. -/
def advance (t : Trial) (ms : Nat) : Trial :=
  ((t.stimulate (.elapsed ms)).stimulate (.turn .timer)).settle

def deliver (t : Trial) (bs : List UInt8) : Trial := (t.stimulate (.received bs)).settle

def hangUpServer (t : Trial) : Trial := (t.stimulate .ended).settle

def release (t : Trial) : Trial := (t.stimulate .released).settle

def abort (t : Trial) : Trial := t.stimulate .aborted

/-- Hands a request to the client, which may first have to make room. -/
def submit (t : Trial) (r : Request) : Except Fault Trial :=
  if t.client.isStopped then .error .closed
  else
    let t := if Client.queueRoom ≤ t.client.queue.length then t.settle else t
    .ok (t.stimulate (.submitted r))

def feed (t : Trial) : List LineBridge.Line → Trial × Option Fault
  | [] => (t, none)
  | .blank :: rest => t.feed rest
  | .malformed :: rest => (t.note .requestMalformed).feed rest
  | .notText cause :: _ => (t, some (.stream cause))
  | .request r :: rest =>
    let t := t.note (.requestRead r)
    match t.submit r with
    | .ok t => t.feed rest
    | .error fault => (t, some fault)

def feedOctets (t : Trial) (bs : List UInt8) : Trial × Option Fault :=
  t.feed ((LineBridge.lines bs).map .ofOctets)

def noteEnd (t : Trial) : Option Fault → Trial
  | none => t.note .inputClosed
  | some fault => t.note (.inputFailed fault)

/-- Hands over an input that stays open: a last line without its line feed is
not read yet. -/
def feedOpen (t : Trial) (bs : List UInt8) : Trial :=
  let (t, fault) := t.feed ((LineBridge.splitLines bs).1.map .ofOctets)
  match fault with
  | none => t
  | some _ => t.noteEnd fault

def isRelayOver (t : Trial) : Bool := t.client.isStopped && !t.client.attended

end Trial

end CollectorGateway
