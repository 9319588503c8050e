import CollectorGateway.Wire.Frame

/-!
A stream of octets as a sequence of frames. `Frame.splitAll` takes every
complete frame from the front and leaves the octets of the unfinished one, so
a stream may arrive in pieces of any size: what is left of one piece is put
before the next.
-/

namespace CollectorGateway.Frame

def encode (f : Frame) (buffer : List UInt8) : List UInt8 :=
  buffer ++ f.header.toOctets ++ f.payload

/-- One look at the octets that are buffered: the frame at their start is taken
from them, and without one they stay. -/
def decode (buffer : List UInt8) : Except Fault (Option Frame) × List UInt8 :=
  match split? buffer with
  | some (f, rest) => (.ok (some f), rest)
  | none => (.ok none, buffer)

theorem decode_of_some {bs rest : List UInt8} {f : Frame} (h : split? bs = some (f, rest)) :
    decode bs = (.ok (some f), rest) := by
  rw [decode, h]

theorem decode_of_none {bs : List UInt8} (h : split? bs = none) : decode bs = (.ok none, bs) := by
  rw [decode, h]

theorem split?_of_decode {bs rest : List UInt8} {f : Frame}
    (h : decode bs = (.ok (some f), rest)) : split? bs = some (f, rest) := by
  cases hs : split? bs with
  | none => simp [decode_of_none hs] at h
  | some taken =>
    obtain ⟨f', rest'⟩ := taken
    obtain ⟨rfl, rfl⟩ : f' = f ∧ rest' = rest := by simpa [decode_of_some hs] using h
    rfl

def splitAll (bs : List UInt8) : List Frame × List UInt8 :=
  go [] bs
where
  go (done : List Frame) (bs : List UInt8) : List Frame × List UInt8 :=
    match _h : decode bs with
    | (.ok (some f), rest) => go (f :: done) rest
    | (_, rest) => (done.reverse, rest)
  termination_by bs.length
  decreasing_by exact length_of_split? (split?_of_decode _h)

/-- What a stream that ended after these octets still had to say: a frame,
nothing, or an unfinished frame. -/
def splitLast (bs : List UInt8) : Except Fault (Option Frame) × List UInt8 :=
  match decode bs with
  | (.ok none, rest) =>
    if rest.isEmpty then (.ok none, rest) else (.error (.stream .unfinishedFrame), rest)
  | taken => taken

private theorem splitAll_go_of_none (done : List Frame) {bs : List UInt8}
    (h : split? bs = none) : splitAll.go done bs = (done.reverse, bs) := by
  rw [splitAll.go]
  split
  · simp_all [decode_of_none h]
  · simp_all [decode_of_none h]

private theorem splitAll_go_of_some (done : List Frame) {bs rest : List UInt8} {f : Frame}
    (h : split? bs = some (f, rest)) : splitAll.go done bs = splitAll.go (f :: done) rest := by
  have hd := decode_of_some h
  rw [splitAll.go]
  split
  · simp_all
  · rename_i hnone heq
    exact absurd (congrArg Prod.fst (heq.symm.trans hd)) (hnone f)

private theorem splitAll_go (done : List Frame) (bs : List UInt8) :
    splitAll.go done bs = (done.reverse ++ (splitAll bs).1, (splitAll bs).2) := by
  unfold splitAll
  induction h : bs.length using Nat.strongRecOn generalizing done bs with
  | _ n ih =>
    cases hs : split? bs with
    | none => simp [splitAll_go_of_none _ hs]
    | some taken =>
      obtain ⟨f, rest⟩ := taken
      have hlt : rest.length < n := h ▸ length_of_split? hs
      rw [splitAll_go_of_some _ hs, splitAll_go_of_some _ hs, ih _ hlt (f :: done) rest rfl,
        ih _ hlt [f] rest rfl]
      simp

theorem splitAll_of_none {bs : List UInt8} (h : split? bs = none) : splitAll bs = ([], bs) :=
  splitAll_go_of_none [] h

theorem splitAll_of_some {bs rest : List UInt8} {f : Frame} (h : split? bs = some (f, rest)) :
    splitAll bs = (f :: (splitAll rest).1, (splitAll rest).2) := by
  rw [splitAll, splitAll_go_of_some [] h, splitAll_go]
  rfl

end CollectorGateway.Frame
