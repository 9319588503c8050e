import CollectorGateway.Octet.Cursor
import CollectorGateway.Text.Record
import CollectorGateway.Wire.Command

/-!
Frames on the link to the application server: a header of four octets and a
payload. The header gives the payload's length in two octets, so a frame
carries the proof that its payload is not longer than that; the header is
computed from the frame and cannot disagree with it.
-/

namespace CollectorGateway

structure Header where
  payloadLength : UInt16
  subsystem : UInt8
  command : UInt8
  deriving DecidableEq, Repr

namespace Header

def size : Nat := 4

def toOctets (h : Header) : List UInt8 :=
  LittleEndian.encode 2 h.payloadLength.toNat ++ [h.subsystem, h.command]

def frameLength (h : Header) : Nat := size + h.payloadLength.toNat

def split? : List UInt8 → Option (Header × List UInt8)
  | a :: b :: subsystem :: command :: rest =>
      some (⟨UInt16.ofNat (LittleEndian.decode [a, b]), subsystem, command⟩, rest)
  | _ => none

def describe (h : Header) : String :=
  Record.text "FrameHeader"
    [("payload_length", toString h.payloadLength.toNat),
      ("subsystem_id", toString h.subsystem.toNat), ("command_id", toString h.command.toNat)]

theorem length_toOctets (h : Header) : h.toOctets.length = size := by
  simp [toOctets, size]

theorem split?_toOctets (h : Header) (rest : List UInt8) :
    split? (h.toOctets ++ rest) = some (h, rest) := by
  have key : UInt16.ofNat (LittleEndian.decode (LittleEndian.encode 2 h.payloadLength.toNat)) =
      h.payloadLength := by
    have hlt : h.payloadLength.toNat < Nat.pow 256 2 := h.payloadLength.toNat_lt
    rw [LittleEndian.decode_encode, Nat.mod_eq_of_lt hlt]
    exact UInt16.ofNat_toNat
  simp only [toOctets, LittleEndian.encode] at key ⊢
  simp only [List.cons_append, List.nil_append, split?, key]

theorem toOctets_of_split? {bs rest : List UInt8} {h : Header} (hs : split? bs = some (h, rest)) :
    bs = h.toOctets ++ rest := by
  unfold split? at hs
  split at hs
  · rename_i a b subsystem command tail
    obtain ⟨rfl, rfl⟩ : _ ∧ tail = rest := by simpa using hs
    have hlt : LittleEndian.decode [a, b] < Nat.pow 2 16 := by
      simpa using LittleEndian.decode_lt [a, b]
    have hab : LittleEndian.encode 2 (LittleEndian.decode [a, b]) = [a, b] :=
      LittleEndian.encode_decode [a, b]
    rw [toOctets, UInt16.toNat_ofNat', Nat.mod_eq_of_lt hlt, hab]
    rfl
  · simp at hs

theorem split?_eq_none_iff {bs : List UInt8} : split? bs = none ↔ bs.length < size := by
  unfold split?
  split
  · simp [size]
  · rename_i hshort
    refine iff_of_true rfl (Nat.lt_of_not_le fun hlong => ?_)
    match bs, hlong with
    | a :: b :: c :: d :: rest, _ => exact hshort a b c d rest rfl
    | [], h | [_], h | [_, _], h | [_, _, _], h => simp [size] at h

end Header

def rpcSubsystem : UInt8 := 10

def maxPayload : Nat := 65535

structure Frame where
  subsystem : UInt8
  command : UInt8
  payload : List UInt8
  payload_le : payload.length ≤ maxPayload
  deriving DecidableEq

namespace Frame

def header (f : Frame) : Header :=
  ⟨UInt16.ofNat f.payload.length, f.subsystem, f.command⟩

def ofParts (subsystem command : UInt8) (payload : List UInt8) : Except Fault Frame :=
  if h : payload.length ≤ maxPayload then .ok ⟨subsystem, command, payload, h⟩
  else .error (.frameTooLarge payload.length maxPayload)

def toOctets (f : Frame) : List UInt8 := f.header.toOctets ++ f.payload

def split? (bs : List UInt8) : Option (Frame × List UInt8) :=
  match Header.split? bs with
  | none => none
  | some (h, rest) =>
    match hs : splitExactly? h.payloadLength.toNat rest with
    | none => none
    | some (payload, rest) =>
      some (⟨h.subsystem, h.command, payload, by
        have hl := (splitExactly?_eq_some_iff.1 hs).2
        have hb := h.payloadLength.toNat_lt
        simp only [maxPayload]
        omega⟩, rest)

def ofOctets (bs : List UInt8) : Except Fault Frame :=
  match Header.split? bs with
  | none => .error (.truncated "frame header" Header.size bs.length)
  | some (h, _) =>
    if bs.length < h.frameLength then
      .error (.truncated "frame payload" h.frameLength bs.length)
    else
      match split? bs with
      | some (f, []) => .ok f
      | _ => .error (.frameLength h.frameLength bs.length)

def describe (f : Frame) : String :=
  Record.text "Frame"
    [("header", f.header.describe),
      ("payload", Record.list (f.payload.map fun b => toString b.toNat))]

theorem header_payloadLength (f : Frame) : f.header.payloadLength.toNat = f.payload.length := by
  have h := f.payload_le
  simp only [header, maxPayload] at h ⊢
  rw [UInt16.toNat_ofNat']
  omega

theorem length_toOctets (f : Frame) : f.toOctets.length = f.header.frameLength := by
  simp [toOctets, Header.length_toOctets, Header.frameLength, header_payloadLength]

theorem split?_toOctets (f : Frame) (rest : List UInt8) :
    split? (f.toOctets ++ rest) = some (f, rest) := by
  have hs : splitExactly? f.header.payloadLength.toNat (f.payload ++ rest) =
      some (f.payload, rest) :=
    splitExactly?_eq_some_iff.2 ⟨rfl, f.header_payloadLength.symm⟩
  simp only [split?, toOctets, List.append_assoc, Header.split?_toOctets]
  split
  · simp_all
  · rename_i h
    obtain ⟨rfl, rfl⟩ : _ ∧ _ := by simpa [hs, eq_comm] using h
    rfl

theorem toOctets_of_split? {bs rest : List UInt8} {f : Frame} (h : split? bs = some (f, rest)) :
    bs = f.toOctets ++ rest := by
  unfold split? at h
  split at h
  · simp at h
  · rename_i hd tail hheader
    split at h
    · simp at h
    · rename_i payload after hs
      simp only [Option.some.injEq, Prod.mk.injEq] at h
      obtain ⟨rfl, rfl⟩ := h
      obtain ⟨rfl, hl⟩ := splitExactly?_eq_some_iff.1 hs
      simp only [toOctets, header, hl, UInt16.ofNat_toNat, List.append_assoc]
      exact Header.toOctets_of_split? hheader

theorem length_of_split? {bs rest : List UInt8} {f : Frame} (h : split? bs = some (f, rest)) :
    rest.length < bs.length := by
  rw [toOctets_of_split? h, List.length_append, length_toOctets, Header.frameLength, Header.size]
  omega

theorem split?_eq_none_iff {bs : List UInt8} : split? bs = none ↔
    bs.length < Header.size ∨
      bs.length < Header.size + LittleEndian.decode (bs.take 2) := by
  unfold split?
  split
  · rename_i hheader
    simp [Header.split?_eq_none_iff.1 hheader]
  · rename_i hd tail hheader
    have hbs := Header.toOctets_of_split? hheader
    have hlen : bs.length = Header.size + tail.length := by
      rw [hbs, List.length_append, Header.length_toOctets]
    have htake : LittleEndian.decode (bs.take 2) = hd.payloadLength.toNat := by
      have hlt : hd.payloadLength.toNat < Nat.pow 256 2 := hd.payloadLength.toNat_lt
      rw [hbs, Header.toOctets, List.append_assoc, List.take_left' (by simp),
        LittleEndian.decode_encode, Nat.mod_eq_of_lt hlt]
    rw [htake, hlen]
    split
    · rename_i hs
      have := splitExactly?_eq_none_iff.1 hs
      simp only [true_iff]
      omega
    · rename_i payload rest hs
      obtain ⟨rfl, hl⟩ := splitExactly?_eq_some_iff.1 hs
      simp only [reduceCtorEq, List.length_append, false_iff]
      omega

def request (command : Command) (payload : List UInt8)
    (h : payload.length ≤ maxPayload) : Frame :=
  ⟨rpcSubsystem, command.code, payload, h⟩

def getNetworkInfo : Frame := request .getNwkInfoReq [] (by decide)

def getDeviceArray : Frame := request .getDeviceArrayReq [] (by decide)

def setJoinPermit (duration : UInt32) : Frame :=
  request .setJoinPermitReq (LittleEndian.u32 duration) (by simp [maxPayload, LittleEndian.u32])

def configure (short polling reporting fields : UInt16) : Frame :=
  request .txDataReq
    (SensorCommand.configReq.code :: LittleEndian.u16 short ++ LittleEndian.u16 polling ++
      LittleEndian.u16 reporting ++ LittleEndian.u16 fields)
    (by simp [maxPayload, LittleEndian.u16])

def toggle (short : UInt16) : Frame :=
  request .txDataReq (SensorCommand.toggleReq.code :: LittleEndian.u16 short)
    (by simp [maxPayload, LittleEndian.u16])

end Frame

end CollectorGateway
