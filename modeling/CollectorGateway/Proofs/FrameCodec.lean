import CollectorGateway.Proofs.Framing

/-!
Two ways to write a frame and three to read one. What is read of a frame is what was
written, with nothing lost and nothing left over, and the header that is read tells the
length of the payload. Read as one frame, octets have to be exactly as long as their
header tells; these are the octets that fall apart into one frame alone.
-/

namespace CollectorGateway.Frame

def toldLength (bs : List UInt8) : Nat := LittleEndian.decode (bs.take 2)

section Parts

variable {subsystem command : UInt8} {payload : List UInt8} {f : Frame} {e : Fault}

theorem ofParts_eq_ok_iff : ofParts subsystem command payload = .ok f ↔
    f.subsystem = subsystem ∧ f.command = command ∧ f.payload = payload := by
  unfold ofParts
  split
  · obtain ⟨s, c, p, le⟩ := f
    simp only [Except.ok.injEq, mk.injEq]
    constructor
    · rintro ⟨rfl, rfl, rfl⟩
      exact ⟨rfl, rfl, rfl⟩
    · rintro ⟨rfl, rfl, rfl⟩
      exact ⟨rfl, rfl, rfl⟩
  · rename_i long
    simp only [reduceCtorEq, false_iff, not_and]
    rintro - - rfl
    exact long f.payload_le

theorem ofParts_eq_error_iff : ofParts subsystem command payload = .error e ↔
    maxPayload < payload.length ∧ e = .frameTooLarge payload.length maxPayload := by
  unfold ofParts
  split
  · rename_i fits
    simp only [reduceCtorEq, false_iff, not_and]
    omega
  · rename_i long
    simp only [Except.error.injEq]
    constructor
    · rintro rfl
      exact ⟨Nat.lt_of_not_le long, rfl⟩
    · rintro ⟨-, rfl⟩
      rfl

end Parts

theorem header_of_split? {bs rest : List UInt8} {f : Frame} (h : split? bs = some (f, rest)) :
    Header.split? bs = some (f.header, f.payload ++ rest) := by
  rw [toOctets_of_split? h, toOctets, List.append_assoc, Header.split?_toOctets]

theorem encode_eq (f : Frame) (buffer : List UInt8) : f.encode buffer = buffer ++ f.toOctets :=
  List.append_assoc ..

section Whole

variable {bs : List UInt8} {f : Frame}

theorem toldLength_toOctets (f : Frame) (rest : List UInt8) :
    toldLength (f.toOctets ++ rest) = f.payload.length := by
  have small : f.payload.length < Nat.pow 256 2 := Nat.lt_succ_of_le f.payload_le
  rw [toldLength, toOctets, Header.toOctets, header_payloadLength, List.append_assoc,
    List.append_assoc, List.take_left' (by simp), LittleEndian.decode_encode,
    Nat.mod_eq_of_lt small]

theorem frameLength_of_split? {h : Header} {rest : List UInt8}
    (split : Header.split? bs = some (h, rest)) :
    h.frameLength = Header.size + toldLength bs := by
  have small : h.payloadLength.toNat < Nat.pow 256 2 := h.payloadLength.toNat_lt
  rw [Header.frameLength, toldLength, Header.toOctets_of_split? split, Header.toOctets,
    List.append_assoc, List.take_left' (by simp), LittleEndian.decode_encode,
    Nat.mod_eq_of_lt small]

theorem ofOctets_of_short (short : bs.length < Header.size) :
    ofOctets bs = .error (.truncated "frame header" Header.size bs.length) := by
  rw [ofOctets, Header.split?_eq_none_iff.2 short]

theorem ofOctets_of_header (long : Header.size ≤ bs.length) :
    (bs.length < Header.size + toldLength bs ∧
      ofOctets bs = .error (.truncated "frame payload" (Header.size + toldLength bs) bs.length)) ∨
    (Header.size + toldLength bs < bs.length ∧
      ofOctets bs = .error (.frameLength (Header.size + toldLength bs) bs.length)) ∨
    (bs.length = Header.size + toldLength bs ∧ ∃ f, split? bs = some (f, []) ∧
      ofOctets bs = .ok f) := by
  obtain ⟨⟨h, rest⟩, split⟩ : ∃ p, Header.split? bs = some p :=
    Option.ne_none_iff_exists'.1 fun missing =>
      absurd (Header.split?_eq_none_iff.1 missing) (Nat.not_lt.2 long)
  have told := frameLength_of_split? split
  simp only [ofOctets, split, told]
  by_cases cut : bs.length < Header.size + toldLength bs
  · exact .inl ⟨cut, if_pos cut⟩
  · right
    rw [if_neg cut]
    obtain ⟨⟨f, tail⟩, taken⟩ : ∃ p, split? bs = some p :=
      Option.ne_none_iff_exists'.1 fun missing => by
        obtain short | short := split?_eq_none_iff.1 missing
        · omega
        · exact cut short
    have length : bs.length = Header.size + toldLength bs + tail.length := by
      rw [← told, toOctets_of_split? taken, List.length_append, length_toOctets]
      have same := header_of_split? taken
      rw [split] at same
      obtain ⟨rfl, -⟩ := Prod.mk.inj (Option.some.inj same)
      rfl
    cases tail with
    | nil => exact .inr ⟨length, f, taken, by rw [taken]⟩
    | cons b rest =>
      rw [List.length_cons] at length
      exact .inl ⟨by omega, by rw [taken]⟩

theorem ofOctets_eq_ok_iff_split? : ofOctets bs = .ok f ↔ split? bs = some (f, []) := by
  constructor
  · intro read
    by_cases long : Header.size ≤ bs.length
    · obtain ⟨-, cut⟩ | ⟨-, excess⟩ | ⟨-, f', taken, same⟩ := ofOctets_of_header long
      · simp [cut] at read
      · simp [excess] at read
      · obtain rfl : f' = f := Except.ok.inj (same.symm.trans read)
        exact taken
    · simp [ofOctets_of_short (Nat.lt_of_not_le long)] at read
  · intro taken
    have whole : bs = f.toOctets := by simpa using toOctets_of_split? taken
    have length : bs.length = Header.size + toldLength bs := by
      have told := toldLength_toOctets f []
      rw [List.append_nil] at told
      rw [whole, told, length_toOctets, Header.frameLength, header_payloadLength]
    have long : Header.size ≤ bs.length := by omega
    obtain ⟨cut, -⟩ | ⟨excess, -⟩ | ⟨-, f', taken', same⟩ := ofOctets_of_header long
    · omega
    · omega
    · rw [taken] at taken'
      obtain ⟨rfl, -⟩ := Prod.mk.inj (Option.some.inj taken')
      exact same

theorem ofOctets_eq_ok_iff : ofOctets bs = .ok f ↔ bs = f.toOctets := by
  rw [ofOctets_eq_ok_iff_split?]
  constructor
  · intro taken
    simpa using toOctets_of_split? taken
  · rintro rfl
    simpa using split?_toOctets f []

theorem splitAll_singleton_iff : splitAll bs = ([f], []) ↔ bs = f.toOctets := by
  simp [splitAll_eq_iff, isUnfinished_nil]

theorem exists_ofOctets_iff : (∃ f, ofOctets bs = .ok f) ↔
    Header.size ≤ bs.length ∧ bs.length = Header.size + toldLength bs := by
  constructor
  · rintro ⟨f, read⟩
    by_cases long : Header.size ≤ bs.length
    · obtain ⟨-, cut⟩ | ⟨-, excess⟩ | ⟨length, -⟩ := ofOctets_of_header long
      · simp [cut] at read
      · simp [excess] at read
      · exact ⟨long, length⟩
    · simp [ofOctets_of_short (Nat.lt_of_not_le long)] at read
  · rintro ⟨long, length⟩
    obtain ⟨cut, -⟩ | ⟨excess, -⟩ | ⟨-, f, -, read⟩ := ofOctets_of_header long
    · omega
    · omega
    · exact ⟨f, read⟩

end Whole

/-- What is written is read back by each of the three readers, and octets are one frame exactly
if they are as many as their header tells; only a payload too long for the header is refused. -/
theorem frame_codec :
    -- well formed, however it was made
    (∀ f : Frame, f.header.payloadLength.toNat = f.payload.length) ∧
    (∀ subsystem command payload f, ofParts subsystem command payload = .ok f ↔
      f.header = ⟨UInt16.ofNat payload.length, subsystem, command⟩ ∧ f.payload = payload) ∧
    (∀ subsystem command payload e, ofParts subsystem command payload = .error e ↔
      65535 < payload.length ∧ e = .frameTooLarge payload.length 65535) ∧
    (∀ bs f, ofOctets bs = .ok f → Header.split? bs = some (f.header, f.payload)) ∧
    (∀ buffer f rest, decode buffer = (.ok (some f), rest) →
      Header.split? buffer = some (f.header, f.payload ++ rest)) ∧
    (∀ buffer frames rest, splitAll buffer = (frames, rest) →
      buffer = frames.flatMap (fun f => f.header.toOctets ++ f.payload) ++ rest) ∧
    -- written and read back
    (∀ (f : Frame) (a b : List UInt8), ofOctets f.toOctets = .ok f ∧
      f.encode a = a ++ f.toOctets ∧ decode (f.toOctets ++ b) = (.ok (some f), b)) ∧
    -- read and written again
    (∀ bs, (∃ f, ofOctets bs = .ok f) ↔ 4 ≤ bs.length ∧ bs.length = 4 + toldLength bs) ∧
    (∀ bs f, ofOctets bs = .ok f → f.toOctets = bs) ∧
    (∀ bs f, ofOctets bs = .ok f ↔ splitAll bs = ([f], [])) ∧
    (∀ bs, bs.length < 4 → ofOctets bs = .error (.truncated "frame header" 4 bs.length)) ∧
    (∀ bs, 4 ≤ bs.length → bs.length < 4 + toldLength bs →
      ofOctets bs = .error (.truncated "frame payload" (4 + toldLength bs) bs.length)) ∧
    ∀ bs, 4 ≤ bs.length → 4 + toldLength bs < bs.length →
      ofOctets bs = .error (.frameLength (4 + toldLength bs) bs.length) := by
  refine ⟨header_payloadLength, fun subsystem command payload f => ?_,
    fun subsystem command payload e => ofParts_eq_error_iff, fun bs f read => ?_,
    fun buffer f rest taken => header_of_split? (split?_of_decode taken),
    fun buffer frames rest all => (splitAll_eq_iff.1 all).1,
    fun f a b => ⟨ofOctets_eq_ok_iff.2 rfl, f.encode_eq a, decode_toOctets_append f b⟩,
    fun bs => exists_ofOctets_iff, fun bs f read => (ofOctets_eq_ok_iff.1 read).symm,
    fun bs f => ofOctets_eq_ok_iff.trans splitAll_singleton_iff.symm,
    fun bs => ofOctets_of_short, fun bs long cut => ?_, fun bs long excess => ?_⟩
  · rw [ofParts_eq_ok_iff, header, Header.mk.injEq]
    constructor
    · rintro ⟨rfl, rfl, rfl⟩
      exact ⟨⟨rfl, rfl, rfl⟩, rfl⟩
    · rintro ⟨⟨-, rfl, rfl⟩, rfl⟩
      exact ⟨rfl, rfl, rfl⟩
  · simpa using header_of_split? (ofOctets_eq_ok_iff_split?.1 read)
  · obtain ⟨-, read⟩ | ⟨excess, -⟩ | ⟨length, -⟩ := ofOctets_of_header long
    · exact read
    · exact absurd cut (Nat.not_lt.2 (Nat.le_of_lt excess))
    · exact absurd cut (Nat.not_lt.2 (Nat.le_of_eq length.symm))
  · obtain ⟨cut, -⟩ | ⟨-, read⟩ | ⟨length, -⟩ := ofOctets_of_header long
    · exact absurd excess (Nat.not_lt.2 (Nat.le_of_lt cut))
    · exact read
    · exact absurd excess (Nat.not_lt.2 (Nat.le_of_eq length))

end CollectorGateway.Frame
