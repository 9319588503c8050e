import CollectorGateway.Toml.Number
import CollectorGateway.Toml.Text

/-!
Whole settings files. Each line is blank, a header or a key with its value;
a header and the keys below it make one section, and the sections are put into
the tree one after the other. A file that fits this grammar but defines
something twice is refused too.
-/

namespace CollectorGateway.Toml

namespace Grammar

open Scan

def comment : Scan Unit := do
  char '#'
  let _ ← takeWhile isTextual

def lineEnd : Scan Unit := do
  let _ ← takeWhile isGap
  let _ ← perhaps comment
  match ← peek with
  | none => return ()
  | some _ => newline

def spacing : Scan Unit := do
  let _ ← takeWhile isGap
  let _ ← many (do
    let _ ← perhaps comment
    newline
    let _ ← takeWhile isGap)

def array (item : Scan Toml) : Scan Toml := do
  char '['
  let items ← separated (do spacing; let j ← item; spacing; return j) (char ',')
  if !items.isEmpty then
    let _ ← perhaps (char ',')
  spacing
  char ']'
  return .array items

def entry (item : Scan Toml) : Scan ((List (List Char) × List Char) × Toml) := do
  let key ← key
  char '='
  let _ ← takeWhile isGap
  return (key, ← item)

def fill (origin : Origin) (entries : List ((List (List Char) × List Char) × Toml))
    (ms : Members) : Option Members :=
  entries.foldlM (fun ms ((path, key), value) => Members.put origin ms path key value) ms

def inlineTable (item : Scan Toml) : Scan Toml := do
  char '\x7b'
  let entries ← separated (do
    let e ← entry item
    let _ ← takeWhile isGap
    return e) (char ',')
  let _ ← takeWhile isGap
  char '\x7d'
  match fill .braces entries [] with
  | some ms => return .table .braces ms
  | none => failure

def truth : Scan Bool :=
  (do literal ['t', 'r', 'u', 'e']; return true) <|>
    (do literal ['f', 'a', 'l', 's', 'e']; return false)

def scalar : Scan Toml :=
  .text <$> text <|> .dateTime <$> dateTime <|> .float <$> (fractional <|> special) <|>
    .integer <$> integer <|> .bool <$> truth

def value : Nat → Scan Toml
  | 0 => scalar
  | depth + 1 => array (value depth) <|> inlineTable (value depth) <|> scalar

def depthLimit : Nat := 79

inductive Line where
  | blank
  | header (isRepeated : Bool) (path : List (List Char)) (key : List Char)
  | entry (path : List (List Char)) (key : List Char) (value : Toml)

def header : Scan Line :=
  (do
    literal ['[', '[']
    let (path, key) ← key
    literal [']', ']']
    return .header true path key) <|>
  (do
    char '['
    let (path, key) ← key
    char ']'
    return .header false path key)

def statement : Scan Line :=
  header <|> (do let ((path, key), v) ← entry (value depthLimit); return .entry path key v) <|>
    pure .blank

def line : Scan Line := do
  match ← peek with
  | none => failure
  | some _ =>
    let _ ← takeWhile isGap
    let said ← statement
    lineEnd
    return said

def lines : Scan (List Line) := do
  let _ ← perhaps (char (Char.ofNat 0xFEFF))
  many line

structure Section where
  header : Option (Bool × List (List Char) × List Char)
  entries : List ((List (List Char) × List Char) × Toml)

def sections (ls : List Line) : List Section :=
  let (entries, rest) := ls.foldr push ([], [])
  ⟨none, entries⟩ :: rest
where
  /-- Puts a line before entries that have no header yet and later sections. -/
  push : Line → List ((List (List Char) × List Char) × Toml) × List Section →
      List ((List (List Char) × List Char) × Toml) × List Section
    | .blank, acc => acc
    | .entry path key v, (entries, rest) => (((path, key), v) :: entries, rest)
    | .header isRepeated path key, (entries, rest) =>
      ([], ⟨some (isRepeated, path, key), entries⟩ :: rest)

def addSection (ms : Members) (s : Section) : Option Members :=
  match s.header with
  | none => fill .header s.entries ms
  | some (true, path, key) => ms.addTable path key (fill .header s.entries)
  | some (false, path, key) => ms.openTable path key (fill .header s.entries)

end Grammar

def parse? (cs : List Char) : Option Members := do
  (Grammar.sections (← Grammar.lines.whole cs)).foldlM Grammar.addSection []

end CollectorGateway.Toml
