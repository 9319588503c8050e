import CollectorGateway.Settings

/-!
What the words after the program's name ask for. An option is given once, with
its value after a sign of equality or as the next word; a word that begins
with a dash, except a dash alone, is no such value. Anything else among the
words is an error.
-/

namespace CollectorGateway

structure CommandLine where
  settingsFile : Option String
  host : Option String
  port : Option UInt16
  /-- Where to write a file with the default settings. -/
  templateFile : Option String
  deriving DecidableEq, Repr

namespace CommandLine

inductive Flag where
  | settings
  | host
  | port
  | template
  deriving DecidableEq, Repr

def Flag.ofName? : String → Option Flag
  | "config" => some .settings
  | "host" => some .host
  | "port" => some .port
  | "gen-config" => some .template
  | _ => none

/-- Stands for the standard output where a file is asked for. -/
def standardOutput : String := "-"

def Flag.alone? : Flag → Option String
  | .template => some standardOutput
  | _ => none

def isValue (word : String) : Bool := word = "-" || word.toList.head? ≠ some '-'

def port? (s : String) : Option UInt16 :=
  let (negative, cs) := match s.toList with
    | '-' :: cs => (true, cs)
    | '+' :: cs => (false, cs)
    | cs => (false, cs)
  let n := Numeral.valueUpTo UInt16.size cs
  if cs.isEmpty || cs.any (!·.isDigit) || UInt16.size ≤ n || (negative && 0 < n) then none
  else some (UInt16.ofNat n)

def set (c : CommandLine) (flag : Flag) (value : String) : Option CommandLine :=
  match flag with
  | .settings =>
    if c.settingsFile.isSome || value.isEmpty then none
    else some { c with settingsFile := some value }
  | .host => if c.host.isSome then none else some { c with host := some value }
  | .port =>
    if c.port.isSome then none else (port? value).map fun port => { c with port := some port }
  | .template =>
    if c.templateFile.isSome || value.isEmpty then none
    else some { c with templateFile := some value }

def flag? (word : String) : Option (Flag × Option String) :=
  match word.toList with
  | '-' :: '-' :: cs => do
    let name := cs.takeWhile (· ≠ '=')
    let flag ← Flag.ofName? (String.ofList name)
    return (flag, if cs.length = name.length then none
      else some (String.ofList (cs.drop (name.length + 1))))
  | ['-', 'c'] => some (.settings, none)
  | '-' :: 'c' :: '=' :: cs => some (.settings, some (String.ofList cs))
  | '-' :: 'c' :: cs => some (.settings, some (String.ofList cs))
  | _ => none

/-- Reads the words from left to right; `waiting` is a flag whose value may be
the next word. -/
def read (c : CommandLine) (waiting : Option Flag) : List String → Option CommandLine
  | [] =>
    match waiting with
    | none => some c
    | some flag => do c.set flag (← flag.alone?)
  | word :: words => do
    match waiting with
    | some flag =>
      if isValue word then (← c.set flag word).read none words
      else begin (← c.set flag (← flag.alone?)) word words
    | none => begin c word words
where
  begin (c : CommandLine) (word : String) (words : List String) : Option CommandLine := do
    if word = "--" then if words.isEmpty then some c else none
    else
      match ← flag? word with
      | (flag, some value) => (← c.set flag value).read none words
      | (flag, none) => c.read (some flag) words

def ofWords? (words : List String) : Option CommandLine := read ⟨none, none, none, none⟩ none words

def defaultFile : String := "sensorgw.toml"

def file (c : CommandLine) : String := c.settingsFile.getD defaultFile

def settings (c : CommandLine) (s : Settings) : Settings :=
  { s with
    server := ⟨c.host.getD s.server.host, c.port.getD s.server.port⟩ }

inductive Task where
  | showTemplate
  | writeTemplate (path : String)
  | serve
  deriving DecidableEq, Repr

def task (c : CommandLine) : Task :=
  match c.templateFile with
  | none => .serve
  | some path => if path = standardOutput then .showTemplate else .writeTemplate path

def shownTemplate : String := Settings.default.fileText ++ "\n"

def writtenMessage (path : String) : String := s!"Default config written to {path}.\n"

def usageCode : UInt32 := 2

def failureCode : UInt32 := 1

end CommandLine

end CollectorGateway
