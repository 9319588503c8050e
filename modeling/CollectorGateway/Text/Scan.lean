/-!
Scanning a text from the front. A scanner takes some characters and makes a
value of them, or takes none and fails; of two alternatives the second is
tried where the first fails.
-/

namespace CollectorGateway

abbrev Scan := StateT (List Char) Option

namespace Scan

def whole (s : Scan α) (cs : List Char) : Option α :=
  match s cs with
  | some (a, []) => some a
  | _ => none

def peek : Scan (Option Char) := fun cs => some (cs.head?, cs)

def satisfying (p : Char → Bool) : Scan Char
  | c :: rest => if p c then some (c, rest) else none
  | [] => none

def char (c : Char) : Scan Unit := do let _ ← satisfying (· == c)

def literal : List Char → Scan Unit
  | [] => pure ()
  | c :: cs => do char c; literal cs

def takeWhile (p : Char → Bool) : Scan (List Char) :=
  fun cs => some (cs.takeWhile p, cs.dropWhile p)

def takeSome (p : Char → Bool) : Scan (List Char) := do
  return (← satisfying p) :: (← takeWhile p)

def exactly (n : Nat) (p : Char → Bool) : Scan (List Char) :=
  match n with
  | 0 => pure []
  | n + 1 => do return (← satisfying p) :: (← exactly n p)

def perhaps (s : Scan α) : Scan (Option α) := some <$> s <|> pure none

/-- Scans again and again until that fails, but no more often than there are
characters: enough where each time takes one. -/
def many (s : Scan α) : Scan (List α) := fun cs => some (go cs [] cs)
where
  /-- Puts what is scanned before what is done; `room` is as long as the times left. -/
  go : List Char → List α → List Char → List α × List Char
    | [], done, cs => (done.reverse, cs)
    | _ :: room, done, cs =>
      match s cs with
      | none => (done.reverse, cs)
      | some (a, rest) => go room (a :: done) rest

def separated (item : Scan α) (separator : Scan Unit) : Scan (List α) := do
  match ← perhaps item with
  | none => return []
  | some first => return first :: (← many (do separator; item))

def written (s : Scan Unit) : Scan (List Char) := fun cs =>
  (s cs).map fun ((), rest) => (cs.take (cs.length - rest.length), rest)

end Scan

end CollectorGateway
