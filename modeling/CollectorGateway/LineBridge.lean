import CollectorGateway.EventRing
import CollectorGateway.Journal
import CollectorGateway.Text.Blank
import CollectorGateway.Text.Split
import CollectorGateway.Text.Utf8

/-!
The gateway's two streams of lines to the presentation side: one request a
line comes in, one event a line goes out. Blank request lines are passed over
and malformed ones are noted; a line that is no text ends the requests.
-/

namespace CollectorGateway.LineBridge

def withoutReturn (line : List UInt8) : List UInt8 :=
  if line.getLast? = some 13 then line.dropLast else line

def splitLines (bs : List UInt8) : List (List UInt8) × List UInt8 :=
  let parts := splitAtEach 10 bs
  (parts.dropLast.map withoutReturn, parts.getLast?.getD [])

/-- The lines of a stream that is over. Octets after the last line feed make a
line of their own, which keeps a carriage return at its end. -/
def lines (bs : List UInt8) : List (List UInt8) :=
  let (ended, rest) := splitLines bs
  ended ++ if rest.isEmpty then [] else [rest]

inductive Line where
  | blank
  | malformed
  | request (r : Request)
  | notText (cause : StreamFault)
  deriving DecidableEq, Repr

def Line.ofOctets (bs : List UInt8) : Line :=
  match Utf8.decode bs with
  | .error cause => notText cause
  | .ok cs =>
    let cs := Blank.trim cs
    if cs.isEmpty then blank
    else
      match Request.ofText? cs with
      | some r => request r
      | none => malformed

def eventLine (e : Event) : List Char := e.toJson.print ++ ['\n']

structure Forwarding where
  written : List Char
  notes : List Note
  fault : Option StreamFault

/-- Writes what a subscriber gets to an output with room for `room` characters,
or for any number. A line that does not fit is cut and ends the forwarding. -/
def forward (room : Option Nat) : List (Delivery Event) → Forwarding
  | [] => ⟨[], [], none⟩
  | .value e :: rest =>
    let line := eventLine e
    match room with
    | some n =>
      if line.length ≤ n then
        let f := forward (some (n - line.length)) rest
        { f with written := line ++ f.written }
      else ⟨line.take n, [], some .writeZero⟩
    | none =>
      let f := forward none rest
      { f with written := line ++ f.written }
  | .lagged count :: rest =>
    let f := forward room rest
    { f with notes := .eventsSkipped count :: f.notes }
  | _ :: rest => forward room rest

end CollectorGateway.LineBridge
