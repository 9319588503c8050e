import CollectorGateway.Fault

/-!
Octets as text in UTF-8. Decoding yields the characters or the first place
where the octets are no text: either a sequence that cannot be continued to a
character, with the number of its octets that could have begun one, or a
character that breaks off at the end.
-/

namespace CollectorGateway.Utf8

/-- The least and the greatest octet that may come second after a first octet
of a longer sequence, and the number of octets after the first. -/
def lead? (b : UInt8) : Option (UInt8 × UInt8 × Nat) :=
  if 0xC2 ≤ b ∧ b ≤ 0xDF then some (0x80, 0xBF, 1)
  else if b = 0xE0 then some (0xA0, 0xBF, 2)
  else if b = 0xED then some (0x80, 0x9F, 2)
  else if 0xE1 ≤ b ∧ b ≤ 0xEF then some (0x80, 0xBF, 2)
  else if b = 0xF0 then some (0x90, 0xBF, 3)
  else if 0xF1 ≤ b ∧ b ≤ 0xF3 then some (0x80, 0xBF, 3)
  else if b = 0xF4 then some (0x80, 0x8F, 3)
  else none

def leadBits (b : UInt8) (following : Nat) : Nat :=
  b.toNat % Nat.pow 2 (6 - following)

/-- In the middle of a character: where it starts, its octets so far and still
missing, its value so far, and the bounds of the next octet. -/
structure Partial where
  start : Nat
  taken : Nat
  missing : Nat
  value : Nat
  low : UInt8
  high : UInt8

structure Decoder where
  chars : List Char
  place : Nat
  inside : Option Partial

namespace Decoder

def start : Decoder := ⟨[], 0, none⟩

def step (d : Decoder) (b : UInt8) : Except StreamFault Decoder :=
  match d.inside with
  | none =>
    if b < 0x80 then .ok ⟨Char.ofNat b.toNat :: d.chars, d.place + 1, none⟩
    else
      match lead? b with
      | none => .error (.notText 1 d.place)
      | some (low, high, following) =>
        .ok ⟨d.chars, d.place + 1,
          some ⟨d.place, 1, following, leadBits b following, low, high⟩⟩
  | some p =>
    if p.low ≤ b ∧ b ≤ p.high then
      let value := p.value * 64 + b.toNat % 64
      if p.missing ≤ 1 then .ok ⟨Char.ofNat value :: d.chars, d.place + 1, none⟩
      else
        .ok ⟨d.chars, d.place + 1,
          some ⟨p.start, p.taken + 1, p.missing - 1, value, 0x80, 0xBF⟩⟩
    else .error (.notText p.taken p.start)

def finish (d : Decoder) : Except StreamFault (List Char) :=
  match d.inside with
  | none => .ok d.chars.reverse
  | some p => .error (.brokenOff p.start)

end Decoder

def decode (bs : List UInt8) : Except StreamFault (List Char) := do
  (← bs.foldlM Decoder.step Decoder.start).finish

end CollectorGateway.Utf8
