import CollectorGateway.Fault
import CollectorGateway.Octet.LittleEndian

/-!
A cursor over the octets of one message. A read either takes all the octets it
needs and moves past them, or takes none and fails with the number it needed
and the number it had; a read made of several keeps what its finished parts
took.
-/

namespace CollectorGateway

def splitExactly? : Nat → List α → Option (List α × List α)
  | 0, xs => some ([], xs)
  | _ + 1, [] => none
  | n + 1, x :: xs => (splitExactly? n xs).map fun (taken, rest) => (x :: taken, rest)

theorem splitExactly?_eq_some_iff {n : Nat} {xs taken rest : List α} :
    splitExactly? n xs = some (taken, rest) ↔ xs = taken ++ rest ∧ taken.length = n := by
  induction n generalizing xs taken with
  | zero =>
    simp only [splitExactly?, Option.some.injEq, Prod.mk.injEq, List.length_eq_zero_iff]
    constructor
    · rintro ⟨rfl, rfl⟩; simp
    · rintro ⟨rfl, rfl⟩; simp
  | succ n ih =>
    cases xs with
    | nil =>
      simp only [splitExactly?, reduceCtorEq, false_iff, not_and]
      intro h
      have := congrArg List.length h
      simp only [List.length_nil, List.length_append] at this
      omega
    | cons x xs =>
      simp only [splitExactly?, Option.map_eq_some_iff, Prod.exists, Prod.mk.injEq]
      constructor
      · rintro ⟨t, r, h, rfl, rfl⟩
        obtain ⟨rfl, rfl⟩ := ih.1 h
        simp
      · rintro ⟨h, hl⟩
        cases taken with
        | nil => simp at hl
        | cons t ts =>
          simp only [List.cons_append, List.cons.injEq] at h
          exact ⟨ts, rest, ih.2 ⟨h.2, by simpa using hl⟩, by rw [h.1], rfl⟩

theorem splitExactly?_eq_none_iff {n : Nat} {xs : List α} :
    splitExactly? n xs = none ↔ xs.length < n := by
  induction n generalizing xs with
  | zero => simp [splitExactly?]
  | succ n ih =>
    cases xs with
    | nil => simp [splitExactly?]
    | cons x xs => simp [splitExactly?, ih]

structure Cursor where
  what : String
  position : Nat
  rest : List UInt8
  deriving DecidableEq, Repr

namespace Cursor

def ofOctets (what : String) (bs : List UInt8) : Cursor := ⟨what, 0, bs⟩

def remaining (c : Cursor) : Nat := c.rest.length

end Cursor

/-- A read from a cursor: a value or a fault, and where the cursor then stands. -/
abbrev Read := ExceptT Fault (StateM Cursor)

namespace Read

def on (r : Read α) (c : Cursor) : Except Fault α × Cursor := r c

def whole (r : Read α) (what : String) (bs : List UInt8) : Except Fault α :=
  (r.on (.ofOctets what bs)).1

def octets (n : Nat) : Read (List UInt8) := fun c =>
  match splitExactly? n c.rest with
  | some (taken, rest) => (.ok taken, { c with position := c.position + n, rest })
  | none => (.error (.truncated c.what n c.remaining), c)

def remaining : Read Nat := fun c => (.ok c.remaining, c)

def fail (f : Fault) : Read α := fun c => (.error f, c)

def number (width : Nat) : Read Nat := LittleEndian.decode <$> octets width

def u8 : Read UInt8 := UInt8.ofNat <$> number 1
def u16 : Read UInt16 := UInt16.ofNat <$> number 2
def u32 : Read UInt32 := UInt32.ofNat <$> number 4
def u64 : Read UInt64 := UInt64.ofNat <$> number 8

def i8 : Read Int8 := UInt8.toInt8 <$> u8
def i16 : Read Int16 := UInt16.toInt16 <$> u16

def bool : Read Bool := (· != 0) <$> u8

theorem octets_on (n : Nat) (c : Cursor) : (octets n).on c =
    match splitExactly? n c.rest with
    | some (taken, rest) => (.ok taken, { c with position := c.position + n, rest })
    | none => (.error (.truncated c.what n c.remaining), c) := rfl

end Read

end CollectorGateway
