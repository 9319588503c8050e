import CollectorGateway.Gateway
import CollectorGateway.Wire.Stream

/-!
The gateway's client: it keeps a link to the application server, hands what
arrives to the gateway, sends what the gateway replies, and after a link was
lost or refused waits before it tries again. It answers requests while it is
connected and while it waits.

The client is a machine. What happens to it is a `Stimulus`; what it then does
is a list of actions in order. Octets and requests are put into its inbox and
its queue, and a `Turn` takes one thing out; which turn comes first is open as
long as it is due. Time is a clock in milliseconds that only a stimulus moves.
-/

namespace CollectorGateway

inductive Action where
  | effect (e : Effect)
  | dial
  /-- Hands a frame to the connection, which writes it in its turn. -/
  | send (f : Frame)
  | hangUp

namespace Action

def note (n : Note) : Action := effect (.note n)
def publish (e : Event) : Action := effect (.publish e)

def sent? : Action → Option Frame
  | send f => some f
  | _ => none

def event? : Action → Option Event
  | effect e => e.event?
  | _ => none

end Action

structure Session where
  /-- Octets of a frame not yet complete. -/
  carry : List UInt8
  inbox : List Frame
  ended : Bool
  deriving DecidableEq

namespace Session

def fresh : Session := ⟨[], [], false⟩

def receive (s : Session) (bs : List UInt8) : Session :=
  let (frames, carry) := Frame.splitAll (s.carry ++ bs)
  { s with carry, inbox := s.inbox ++ frames }

end Session

inductive Activity where
  | connecting
  | serving (s : Session)
  /-- Dials again when the clock reaches the deadline. -/
  | waiting (deadline : Nat)
  | stopped
  deriving DecidableEq

structure Client where
  /-- Milliseconds from losing the link to the next attempt. -/
  delay : Nat
  clock : Nat
  gateway : Gateway
  phase : LinkPhase
  activity : Activity
  queue : List Request
  /-- Whether anyone can still make requests. -/
  attended : Bool

namespace Client

def queueRoom : Nat := 64

def publishPhase (p : LinkPhase) : Action := .publish (.linkState p.status)

def attempt (c : Client) : Client × List Action :=
  let (notes, phase) := match c.phase.beginConnect with
    | .ok phase => ([], phase)
    | .error fault => ([Action.note (.linkReset fault)], .connecting)
  ({ c with phase, activity := .connecting },
    notes ++ [publishPhase phase, .note .linkConnecting, .dial])

/-- The longest wait that can be timed, thirty years of 365 days in
milliseconds; one that is meant to last longer ends then. -/
def longestWait : Nat := 30 * 365 * 24 * 60 * 60 * 1000

def schedule (c : Client) : Client × List Action :=
  match c.phase.scheduleReconnect? c.clock with
  | none => c.attempt
  | some phase =>
    ({ c with phase, activity := .waiting (c.clock + min c.delay longestWait) },
      [publishPhase phase, .note (.reconnectScheduled c.delay)])

def lose (c : Client) : Client × List Action :=
  let (notes, phase) := match c.phase.lose with
    | .ok phase => ([], phase)
    | .error fault => ([Action.note (.linkPhaseUnexpected fault c.phase.name)], .disconnected)
  let (c, actions) := schedule { c with phase }
  (c, notes ++ publishPhase phase :: actions)

def dropLink (c : Client) : Client × List Action :=
  let (c, actions) := c.lose
  (c, .hangUp :: .note .linkLost :: actions)

def establish (c : Client) : Client × List Action :=
  let (published, phase) := match c.phase.completeConnect c.clock with
    | .ok phase => ([publishPhase phase], phase)
    | .error _ => ([], c.phase)
  ({ c with phase, activity := .serving .fresh },
    published ++ [.note .linkConnected, .send .getNetworkInfo])

def refuse (c : Client) : Client × List Action :=
  let (c, actions) := c.lose
  (c, .note .linkRefused :: actions)

def stop (c : Client) (last : List Action) : Client × List Action :=
  ({ c with activity := .stopped, queue := [] }, last ++ [.note .stopped])

def handleFrame (c : Client) (f : Frame) : Client × List Action :=
  let o := c.gateway.dispatch f
  ({ c with gateway := o.gateway }, o.effects.map .effect ++ o.reply.toList.map .send)

def replyTo (connected : Bool) (reply : Option Frame) : List Action :=
  reply.toList.map fun f => if connected then .send f else .note (.requestUnsent f.command)

def handleRequest (c : Client) (connected : Bool) (r : Request) : Client × List Action :=
  let o := c.gateway.answer r
  let failed := o.fault.toList.map fun fault => Action.note (.requestFailed fault)
  ({ c with gateway := o.gateway },
    o.effects.map .effect ++ replyTo connected o.reply ++ failed)

inductive Turn where
  | frame
  | request
  /-- Notices the end of the connection. -/
  | loss
  /-- Notices that nobody can make requests any more. -/
  | shutdown
  | timer
  deriving DecidableEq, Repr

/-- Whether a turn is due. The end of a connection and of the requests show
only after what came before them. -/
def isDue (c : Client) (t : Turn) : Bool :=
  match t, c.activity with
  | .frame, .serving s => !s.inbox.isEmpty
  | .request, .serving _ | .request, .waiting _ => !c.queue.isEmpty
  | .loss, .serving s => s.inbox.isEmpty && s.ended
  | .shutdown, .serving _ | .shutdown, .waiting _ => c.queue.isEmpty && !c.attended
  | .timer, .waiting deadline => deadline ≤ c.clock
  | _, _ => false

def turn (c : Client) (t : Turn) : Client × List Action :=
  match t, c.activity, c.queue with
  | .frame, .serving ⟨carry, f :: inbox, ended⟩, _ =>
    handleFrame { c with activity := .serving ⟨carry, inbox, ended⟩ } f
  | .request, .serving _, r :: queue => handleRequest { c with queue } true r
  | .request, .waiting _, r :: queue => handleRequest { c with queue } false r
  | .loss, .serving ⟨_, [], true⟩, _ => c.dropLink
  | .shutdown, .serving _, [] => if c.attended then (c, []) else c.stop [.hangUp]
  | .shutdown, .waiting _, [] => if c.attended then (c, []) else c.stop []
  | .timer, .waiting deadline, _ => if deadline ≤ c.clock then c.attempt else (c, [])
  | _, _, _ => (c, [])

/-- The order in which turns are preferred. The timer is not among them: it is
looked at when the clock moves. -/
def preference : List Turn := [.frame, .request, .loss, .shutdown]

def due? (c : Client) : Option Turn := preference.find? c.isDue

/-- A bound on the turns that can follow without a further stimulus. -/
def work (c : Client) : Nat :=
  let left := match c.activity with
    | .serving s => s.inbox.length + 3
    | .waiting _ => 2
    | .connecting => 1
    | .stopped => 0
  left + c.queue.length

inductive Stimulus where
  | established
  | refused
  | received (bs : List UInt8)
  /-- The server ends the connection. -/
  | ended
  | submitted (r : Request)
  | elapsed (ms : Nat)
  /-- The last of those who make requests left. -/
  | released
  /-- The client is stopped from outside. -/
  | aborted
  | turn (t : Turn)

def Stimulus.isTurn : Stimulus → Bool
  | turn _ => true
  | _ => false

def endNotes (s : Session) : List Action :=
  (if s.carry.isEmpty then [] else [.note .streamFailed]) ++ [.note .streamFinished]

def step (c : Client) : Stimulus → Client × List Action
  | .established => if c.activity = .connecting then c.establish else (c, [])
  | .refused => if c.activity = .connecting then c.refuse else (c, [])
  | .received bs =>
    match c.activity with
    | .serving s =>
      if s.ended then (c, []) else ({ c with activity := .serving (s.receive bs) }, [])
    | _ => (c, [])
  | .ended =>
    match c.activity with
    | .serving s =>
      if s.ended then (c, [])
      else ({ c with activity := .serving { s with ended := true } }, endNotes s)
    | _ => (c, [])
  | .submitted r =>
    if c.activity = .stopped then (c, []) else ({ c with queue := c.queue ++ [r] }, [])
  | .elapsed ms => ({ c with clock := c.clock + ms }, [])
  | .released => ({ c with attended := false }, [])
  | .aborted =>
    let hangUp := match c.activity with
      | .serving _ => [Action.hangUp]
      | _ => []
    ({ c with activity := .stopped, queue := [] }, hangUp)
  | .turn t => c.turn t

def run (c : Client) : List Stimulus → Client × List Action
  | [] => (c, [])
  | s :: rest =>
    let (c, actions) := c.step s
    let (c, more) := c.run rest
    (c, actions ++ more)

/-- A step over a connection that takes what is sent or takes nothing any more.
In the second case the link is lost in place of the frame to be sent. -/
def stepOn (writable : Bool) (c : Client) (s : Stimulus) : Client × List Action :=
  let (c, actions) := c.step s
  if writable || actions.all (·.sent?.isNone) then (c, actions)
  else
    let (c, more) := c.dropLink
    (c, actions.filter (·.sent?.isNone) ++ more)

def runOn (c : Client) : List (Bool × Stimulus) → Client × List Action
  | [] => (c, [])
  | (writable, s) :: rest =>
    let (c, actions) := c.stepOn writable s
    let (c, more) := c.runOn rest
    (c, actions ++ more)

def start (delay : Nat) : Client × List Action :=
  attempt ⟨delay, 0, .empty, .disconnected, .stopped, [], true⟩

def isStopped (c : Client) : Bool := c.activity = .stopped

theorem run_append (c : Client) (a b : List Stimulus) :
    c.run (a ++ b) =
      (((c.run a).1.run b).1, (c.run a).2 ++ ((c.run a).1.run b).2) := by
  induction a generalizing c with
  | nil => simp [run]
  | cons s rest ih => simp [run, ih]

end Client

end CollectorGateway
