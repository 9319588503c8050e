import CollectorGateway.Journal
import CollectorGateway.Server
import CollectorGateway.Text.Utf8
import CollectorGateway.Toml.Document

/-!
The gateway's settings and the file that holds them. Each section and each
setting may be left out and then has its default; a section may be written as
the array of its leading values. A file that is no text counts as missing, and
one with anything invalid in it gives all defaults.
-/

namespace CollectorGateway

structure Settings where
  server : ServerAddress
  /-- Milliseconds from losing the link to the next attempt. -/
  reconnectDelay : Nat
  /-- Events kept for a consumer that falls behind. -/
  eventCapacity : Nat
  logLevel : String
  deriving DecidableEq, Repr

namespace Settings

def default : Settings where
  server := ⟨"127.0.0.1", 5000⟩
  reconnectDelay := 5000
  eventCapacity := 256
  logLevel := "info"

/-- A consumer can always fall behind by one event. -/
def eventRoom (s : Settings) : Nat := max 1 s.eventCapacity

def journalLevel (s : Settings) : Level := (Level.ofName? s.logLevel).getD .error

def toJson (s : Settings) : Json :=
  .record
    [("appsrv", .record
        [("host", .ofText s.server.host), ("port", .ofNat s.server.port.toNat),
          ("reconnect_delay_ms", .ofNat s.reconnectDelay)]),
      ("events", .record [("capacity", .ofNat s.eventCapacity)]),
      ("logging", .record [("level", .ofText s.logLevel)])]

def quotedText (s : String) : String :=
  String.ofList ('"' :: s.toList.flatMap escaped ++ ['"'])
where
  escaped (c : Char) : List Char :=
    if c = '"' ∨ c = '\\' then ['\\', c]
    else if Toml.Grammar.isTextual c then [c]
    else ['\\', 'u'] ++ Hex.padded 4 c.toNat

def fileText (s : Settings) : String :=
  "[appsrv]\n" ++
    s!"host = {quotedText s.server.host}\n" ++
    s!"port = {s.server.port.toNat}\n" ++
    s!"reconnect_delay_ms = {s.reconnectDelay}\n" ++
    "\n[events]\n" ++
    s!"capacity = {s.eventCapacity}\n" ++
    "\n[logging]\n" ++
    s!"level = {quotedText s.logLevel}\n"

def sectionMembers? (names : List String) : Toml → Option Toml.Members
  | .table _ ms => some ms
  | .array items => some ((names.map String.toList).zip items)
  | .tables items => some ((names.map String.toList).zip (items.map (.table .header)))
  | .dateTime _ => some []
  | _ => none

def sectionOf (root : Toml.Members) (name : String) (names : List String) :
    Option Toml.Members :=
  match root.lookup name.toList with
  | some value => sectionMembers? names value
  | none => some []

def setting (ms : Toml.Members) (name : String) (read : Toml → Option α) (preset : α) :
    Option α :=
  match ms.lookup name.toList with
  | some value => read value
  | none => some preset

def text? : Toml → Option String
  | .text cs => some (String.ofList cs)
  | _ => none

def nat? (bound : Nat) : Toml → Option Nat
  | .integer n => if 0 ≤ n ∧ n < bound then some n.toNat else none
  | _ => none

def port? (v : Toml) : Option UInt16 := (nat? UInt16.size v).map UInt16.ofNat

def ofToml? (root : Toml.Members) : Option Settings := do
  let server ← sectionOf root "appsrv" ["host", "port", "reconnect_delay_ms"]
  let events ← sectionOf root "events" ["capacity"]
  let logging ← sectionOf root "logging" ["level"]
  return {
    server :=
      ⟨← setting server "host" text? default.server.host,
        ← setting server "port" port? default.server.port⟩
    reconnectDelay := ←
      setting server "reconnect_delay_ms" (nat? UInt64.size) default.reconnectDelay
    eventCapacity := ← setting events "capacity" (nat? UInt64.size) default.eventCapacity
    logLevel := ← setting logging "level" text? default.logLevel }

def load (file : Option (List UInt8)) : Settings × List Note :=
  match file.map Utf8.decode with
  | some (.ok cs) =>
    match Toml.parse? cs >>= ofToml? with
    | some settings => (settings, [])
    | none => (default, [.settingsInvalid])
  | some (.error _) | none => (default, [.settingsMissing])

end Settings

end CollectorGateway
