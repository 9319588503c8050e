import CollectorGateway.Numeric.Binary

/-!
Settings files as trees. A table knows how it came to be, because that decides
what may still be put into it: a table made by a dotted key takes more dotted
keys and a table implied by a longer header takes its own header later, while
a table that had its header and a table between braces are finished.
-/

namespace CollectorGateway

inductive Toml.Origin where
  /-- The table of a header, or the whole file. -/
  | header
  /-- Made on the way to the table of a header. -/
  | implied
  /-- Made on the way along a dotted key. -/
  | dotted
  /-- Between braces. -/
  | braces
  deriving DecidableEq, Repr

inductive Toml where
  | text (s : List Char)
  | integer (n : Int)
  | float (x : Double)
  | bool (b : Bool)
  /-- A date, a time or both, as written. -/
  | dateTime (written : List Char)
  | array (items : List Toml)
  | table (origin : Toml.Origin) (members : List (List Char × Toml))
  /-- An array that grows by headers, one table each. -/
  | tables (items : List (List (List Char × Toml)))

namespace Toml

abbrev Members := List (List Char × Toml)

namespace Members

def set (ms : Members) (key : List Char) (value : Toml) : Members :=
  if ms.any (·.1 = key) then ms.map fun m => if m.1 = key then (key, value) else m
  else ms ++ [(key, value)]

/-- Whether a table may be entered on a way that makes tables of some origin:
a dotted key enters no finished table, a header enters all but braces. -/
def enters (way origin : Origin) : Bool :=
  match way, origin with
  | _, .braces => false
  | .dotted, .header => false
  | _, _ => true

/-- Follows a path, making the tables that are missing on the way, and changes
the members of the table at its end, whose origin the change is told. Of
tables that grow by headers the last is entered. -/
def update (way : Origin) (change : Origin → Members → Option Members) :
    List (List Char) → Origin → Members → Option Members
  | [], origin, ms => change origin ms
  | key :: path, _, ms =>
    match ms.lookup key with
    | none => do return ms.set key (.table way (← update way change path way []))
    | some (.table origin inner) =>
      if enters way origin then do
        return ms.set key (.table origin (← update way change path origin inner))
      else none
    | some (.tables items) => do
      let last ← items.getLast?
      let last ← update way change path .header last
      return ms.set key (.tables (items.dropLast ++ [last]))
    | some _ => none

/-- Puts a value under a dotted key. The key must be new, and its table must be
the current one or one made by dotted keys. -/
def put (origin : Origin) (ms : Members) (path : List (List Char)) (key : List Char)
    (value : Toml) : Option Members :=
  update .dotted (fun reached inner =>
    if (reached == .dotted) == path.isEmpty || (inner.lookup key).isSome then none
    else some (inner ++ [(key, value)])) path origin ms

def openTable (ms : Members) (path : List (List Char)) (key : List Char)
    (fill : Members → Option Members) : Option Members :=
  update .implied (fun _ inner =>
    match inner.lookup key with
    | none => do return inner.set key (.table .header (← fill []))
    | some (.table .implied old) => do return inner.set key (.table .header (← fill old))
    | some _ => none) path .header ms

def addTable (ms : Members) (path : List (List Char)) (key : List Char)
    (fill : Members → Option Members) : Option Members :=
  update .implied (fun _ inner =>
    match inner.lookup key with
    | none => do return inner.set key (.tables [← fill []])
    | some (.tables items) => do return inner.set key (.tables (items ++ [← fill []]))
    | some _ => none) path .header ms

end Members

end Toml

end CollectorGateway
