import CollectorGateway.Proofs.Extents
import CollectorGateway.Proofs.Layout

/-!
Fields read from one payload, one after another and on behind those that fail. The cursor
always stands in the payload, at as many octets as were passed, and never goes back. A
field is read exactly if octets for the whole of it are left, and it is then what these
octets say; otherwise as many of its first parts are passed as there are octets for, so
that a failing read of one number does not move. What values spell is read back as them.
-/

namespace CollectorGateway

namespace LittleEndian

def decodeSigned (bs : List UInt8) : Int :=
  if 2 * decode bs < Nat.pow 256 bs.length then decode bs
  else decode bs - Nat.pow 256 bs.length

theorem decodeSigned_eq_iff {width pattern : Nat} {n : Int} {bs : List UInt8}
    (small : pattern < Nat.pow 256 width)
    (signed : n = if 2 * pattern < Nat.pow 256 width then (pattern : Int)
      else pattern - Nat.pow 256 width) :
    bs.length = width ∧ decodeSigned bs = n ↔ bs.length = width ∧ decode bs = pattern := by
  refine and_congr_right fun long => ?_
  subst long
  have fits := decode_lt bs
  rw [decodeSigned, signed]
  generalize Nat.pow 256 bs.length = limit at *
  split <;> split <;> omega

end LittleEndian

inductive FieldKind where
  | u8
  | i8
  | bool
  | u16
  | i16
  | u32
  | u64
  | single
  | capability
  | networkRecord
  deriving DecidableEq, Repr

inductive FieldValue where
  | u8 (n : UInt8)
  | i8 (n : Int8)
  | bool (b : Bool)
  | u16 (n : UInt16)
  | i16 (n : Int16)
  | u32 (n : UInt32)
  | u64 (n : UInt64)
  | single (x : Single)
  | capability (v : Capability)
  | networkRecord (r : NetworkRecord)
  deriving DecidableEq, Repr

namespace FieldValue

open LittleEndian (decode decodeSigned)

def kind : FieldValue → FieldKind
  | u8 _ => .u8
  | i8 _ => .i8
  | bool _ => .bool
  | u16 _ => .u16
  | i16 _ => .i16
  | u32 _ => .u32
  | u64 _ => .u64
  | single _ => .single
  | capability _ => .capability
  | networkRecord _ => .networkRecord

/-- The octets say this value. Numbers have their least significant octet first, and any
octet but zero is a flag that is set. -/
def SpelledBy (v : FieldValue) (bs : List UInt8) : Prop :=
  match v with
  | u8 n => bs.length = 1 ∧ decode bs = n.toNat
  | i8 n => bs.length = 1 ∧ decodeSigned bs = n.toInt
  | bool b => bs.length = 1 ∧ (decode bs ≠ 0 ↔ b = true)
  | u16 n => bs.length = 2 ∧ decode bs = n.toNat
  | i16 n => bs.length = 2 ∧ decodeSigned bs = n.toInt
  | u32 n => bs.length = 4 ∧ decode bs = n.toNat
  | u64 n => bs.length = 8 ∧ decode bs = n.toNat
  | single x => bs.length = 4 ∧ decode bs = x.bits.toNat
  | capability v => bs.map (· != 0) = v.flags
  | networkRecord r => r.SpelledBy bs

def flagOctet (b : Bool) : UInt8 := if b then 1 else 0

theorem flagOctet_ne_zero (b : Bool) : (flagOctet b != 0) = b := by
  cases b <;> rfl

def toOctets : FieldValue → List UInt8
  | u8 n => [n]
  | i8 n => [n.toUInt8]
  | bool b => [flagOctet b]
  | u16 n => LittleEndian.u16 n
  | i16 n => LittleEndian.u16 n.toUInt16
  | u32 n => LittleEndian.u32 n
  | u64 n => LittleEndian.u64 n
  | single x => LittleEndian.u32 x.bits
  | capability v => v.flags.map flagOctet
  | networkRecord r => LittleEndian.u16 r.panId ++ LittleEndian.u16 r.shortAddress ++
      LittleEndian.u64 r.extAddress ++
      [r.channel, flagOctet r.hopping, flagOctet r.security, r.mode, r.state]

end FieldValue

namespace FieldKind

def size : FieldKind → Nat
  | u8 | i8 | bool => 1
  | u16 | i16 => 2
  | u32 | single => 4
  | u64 => 8
  | capability => Capability.size
  | networkRecord => NetworkRecord.size

def widths : FieldKind → List Nat
  | capability => List.replicate Capability.size 1
  | networkRecord => [2, 2, 8, 1, 1, 1, 1, 1]
  | k => [k.size]

def read : FieldKind → Read FieldValue
  | u8 => FieldValue.u8 <$> Read.u8
  | i8 => FieldValue.i8 <$> Read.i8
  | bool => FieldValue.bool <$> Read.bool
  | u16 => FieldValue.u16 <$> Read.u16
  | i16 => FieldValue.i16 <$> Read.i16
  | u32 => FieldValue.u32 <$> Read.u32
  | u64 => FieldValue.u64 <$> Read.u64
  | single => FieldValue.single <$> Read.single
  | capability => FieldValue.capability <$> Read.capability
  | networkRecord => FieldValue.networkRecord <$> Read.networkRecord

def isNumber : FieldKind → Bool
  | bool | capability | networkRecord => false
  | _ => true

theorem extent_widths (k : FieldKind) : Read.extent k.widths = k.size := by
  cases k <;> rfl

theorem spans_read (k : FieldKind) : k.read.Spans k.widths := by
  cases k with
  | u8 => exact Read.spans_u8.map _
  | i8 => exact Read.spans_i8.map _
  | bool => exact Read.spans_bool.map _
  | u16 => exact Read.spans_u16.map _
  | i16 => exact Read.spans_i16.map _
  | u32 => exact Read.spans_u32.map _
  | u64 => exact Read.spans_u64.map _
  | single => exact (Read.spans_u32.map _).map _
  | capability => exact Read.spans_capability.map _
  | networkRecord => exact Read.spans_networkRecord.map _

theorem kind_of_read {k : FieldKind} {v : FieldValue} {c c' : Cursor}
    (read : k.read.on c = (.ok v, c')) : v.kind = k := by
  cases k <;> obtain ⟨_, -, rfl⟩ := Read.map_on_iff.1 read <;> rfl

end FieldKind

namespace FieldValue

open LittleEndian (encode_one eq_encode_iff decodeSigned_eq_iff)

variable {v : FieldValue} {bs : List UInt8} {c c' : Cursor}

theorem spelledBy_iff_eq (number : v.kind.isNumber = true) : v.SpelledBy bs ↔ bs = v.toOctets := by
  cases v with
  | u8 n =>
    rw [toOctets, ← encode_one]
    exact (eq_encode_iff n.toNat_lt).symm
  | i8 n =>
    rw [toOctets, ← encode_one]
    have signed := BitVec.toInt_eq_toNat_cond n.toBitVec
    exact (decodeSigned_eq_iff n.toUInt8.toNat_lt signed).trans
      (eq_encode_iff n.toUInt8.toNat_lt).symm
  | u16 n => exact (eq_encode_iff n.toNat_lt).symm
  | i16 n =>
    have signed := BitVec.toInt_eq_toNat_cond n.toBitVec
    exact (decodeSigned_eq_iff n.toUInt16.toNat_lt signed).trans
      (eq_encode_iff n.toUInt16.toNat_lt).symm
  | u32 n => exact (eq_encode_iff n.toNat_lt).symm
  | u64 n => exact (eq_encode_iff n.toNat_lt).symm
  | single x => exact (eq_encode_iff x.bits.toNat_lt).symm
  | bool b => exact absurd number Bool.false_ne_true
  | capability v => exact absurd number Bool.false_ne_true
  | networkRecord r => exact absurd number Bool.false_ne_true

theorem spelledBy_bool_iff {b : Bool} :
    (bool b).SpelledBy bs ↔ ∃ o : UInt8, bs = [o] ∧ (o != 0) = b := by
  have said (o : UInt8) : (LittleEndian.decode [o] ≠ 0 ↔ b = true) ↔ (o != 0) = b := by
    have same : LittleEndian.decode [o] ≠ 0 ↔ (o != 0) = true := by
      simp [LittleEndian.decode, ← UInt8.toNat_inj]
    rw [same, ← Bool.eq_iff_iff]
  simp only [SpelledBy, List.length_eq_one_iff]
  constructor
  · rintro ⟨⟨o, rfl⟩, held⟩
    exact ⟨o, rfl, (said o).1 held⟩
  · rintro ⟨o, rfl, same⟩
    exact ⟨⟨o, rfl⟩, (said o).2 same⟩

theorem exists_spelledBy_iff (number : v.kind.isNumber = true) :
    (∃ bs, v.SpelledBy bs ∧ c.Passed bs c') ↔ c.Passed v.toOctets c' := by
  simp only [spelledBy_iff_eq number, exists_eq_left]

theorem read_on_iff : v.kind.read.on c = (.ok v, c') ↔ ∃ bs, v.SpelledBy bs ∧ c.Passed bs c' := by
  -- The kind of the value picks the read, and that read gives what the constructor holds.
  cases v with
  | bool b =>
    simp only [spelledBy_bool_iff, kind, FieldKind.read, Read.map_on_iff, bool.injEq,
      exists_eq_right, Read.bool_on_iff]
    constructor
    · rintro ⟨o, passed, same⟩
      exact ⟨[o], ⟨o, rfl, same⟩, passed⟩
    · rintro ⟨_, ⟨o, rfl, same⟩, passed⟩
      exact ⟨o, passed, same⟩
  | capability v =>
    simp only [kind, FieldKind.read, Read.map_on_iff, capability.injEq, exists_eq_right]
    exact Read.capability_on_iff
  | networkRecord r =>
    simp only [kind, FieldKind.read, Read.map_on_iff, networkRecord.injEq, exists_eq_right]
    exact Read.networkRecord_on_iff
  | _ =>
    refine Iff.trans ?_ (Iff.symm (exists_spelledBy_iff rfl))
    simp only [kind, FieldKind.read, Read.map_on_iff, u8.injEq, i8.injEq, u16.injEq, i16.injEq,
      u32.injEq, u64.injEq, single.injEq, exists_eq_right, toOctets, Read.u8_on_iff,
      Read.i8_on_iff, Read.u16_on_iff, Read.i16_on_iff, Read.u32_on_iff, Read.u64_on_iff,
      Read.single_on_iff]

theorem spelledBy_toOctets (v : FieldValue) : v.SpelledBy v.toOctets := by
  cases v with
  | bool b => exact spelledBy_bool_iff.2 ⟨flagOctet b, rfl, flagOctet_ne_zero b⟩
  | capability v =>
    rw [SpelledBy, toOctets, List.map_map]
    exact List.map_id'' flagOctet_ne_zero _
  | networkRecord r =>
    exact ⟨_, _, flagOctet_ne_zero r.hopping, flagOctet_ne_zero r.security, rfl⟩
  | _ => exact (spelledBy_iff_eq rfl).2 rfl

end FieldValue

namespace Read

/-- The longest run of first fields for which so many octets suffice. -/
structure IsLongestFit (widths : List Nat) (n : Nat) (passed : List Nat) : Prop where
  first : passed <+: widths
  fits : extent passed ≤ n
  longest : ∀ run, run <+: widths → extent run ≤ n → run <+: passed

theorem isLongestFit_append {before after : List Nat} {width n : Nat} (fits : extent before ≤ n)
    (few : n < extent before + width) : IsLongestFit (before ++ width :: after) n before where
  first := List.prefix_append before _
  fits := fits
  longest run begins enough := by
    cases List.prefix_or_prefix_of_prefix begins (List.prefix_append before _) with
    | inl shorter => exact shorter
    | inr longer =>
      obtain ⟨others, rfl⟩ := longer
      have behind := (List.prefix_append_right_inj before).1 begins
      -- One field more than those before is already too much.
      cases others with
      | nil => simp
      | cons next rest =>
        obtain ⟨rfl, -⟩ := List.cons_prefix_cons.1 behind
        rw [extent_append, extent] at enough
        omega

variable {α : Type} {r : Read α} {widths : List Nat} {c : Cursor}

theorem StopsShort.exists_isLongestFit (short : r.StopsShort widths c) :
    ∃ passed width, IsLongestFit widths c.remaining passed ∧ passed ++ [width] <+: widths ∧
      r.on c = (.error (.truncated c.what width (c.remaining - extent passed)),
        c.skip (extent passed)) := by
  obtain ⟨before, width, after, rfl, fits, few, failed⟩ := short
  refine ⟨before, width, isLongestFit_append fits few, ?_, failed⟩
  exact ⟨after, by simp⟩

theorem StopsShort.on_of_single {width : Nat} (short : r.StopsShort [width] c) :
    r.on c = (.error (.truncated c.what width c.remaining), c) := by
  obtain ⟨before, next, after, split, -, -, failed⟩ := short
  cases before with
  | nil =>
    obtain ⟨rfl, -⟩ := List.cons.inj split
    exact failed
  | cons _ others => simp at split

theorem SpansAt.exists_skip (spans : r.SpansAt widths c) :
    ∃ n ≤ c.remaining, (r.on c).2 = c.skip n := by
  cases spans with
  | inl done =>
    obtain ⟨v, gives⟩ := done
    exact ⟨_, gives.1, by rw [gives.on]⟩
  | inr short =>
    obtain ⟨before, _, _, -, fits, -, failed⟩ := short
    exact ⟨_, fits, by rw [failed]⟩

end Read

namespace FieldKind

theorem read_of_le {k : FieldKind} {c : Cursor} (enough : k.size ≤ c.remaining) :
    ∃ v : FieldValue, v.kind = k ∧ v.SpelledBy (c.rest.take k.size) ∧
      k.read.on c = (.ok v, c.skip k.size) := by
  rw [← k.extent_widths] at enough ⊢
  obtain ⟨v, gives⟩ := (k.spans_read c).gives_of_le enough
  obtain rfl := kind_of_read gives.on
  obtain ⟨bs, spelled, passed⟩ := FieldValue.read_on_iff.1 gives.on
  have long : Read.extent v.kind.widths = bs.length := Nat.add_left_cancel passed.position
  refine ⟨v, rfl, ?_, gives.on⟩
  rwa [long, passed.rest, List.take_left]

end FieldKind

namespace Cursor

variable {c c' : Cursor} {what : String} {bs : List UInt8}

structure StandsIn (c : Cursor) (what : String) (bs : List UInt8) : Prop where
  what : c.what = what
  counted : c.position + c.remaining = bs.length
  rest : c.rest = bs.drop c.position

theorem standsIn_ofOctets (what : String) (bs : List UInt8) :
    (ofOctets what bs).StandsIn what bs where
  what := rfl
  counted := Nat.zero_add _
  rest := rfl

theorem StandsIn.skip {n : Nat} (stands : c.StandsIn what bs) (enough : n ≤ c.remaining) :
    (c.skip n).StandsIn what bs where
  what := stands.what
  counted := by
    have counted := stands.counted
    rw [remaining_skip, Cursor.skip]
    dsimp only
    omega
  rest := by rw [Cursor.skip, stands.rest, List.drop_drop]

theorem StandsIn.read (stands : c.StandsIn what bs) (k : FieldKind) :
    (k.read.on c).2.StandsIn what bs := by
  obtain ⟨n, enough, moved⟩ := (k.spans_read c).exists_skip
  rw [moved]
  exact stands.skip enough

theorem position_le_read (c : Cursor) (k : FieldKind) :
    c.position ≤ (k.read.on c).2.position := by
  obtain ⟨n, -, moved⟩ := (k.spans_read c).exists_skip
  rw [moved]
  exact Nat.le_add_right ..

/-- The cursor after some fields were read, or tried to be. -/
def after (c : Cursor) : List FieldKind → Cursor
  | [] => c
  | k :: rest => (k.read.on c).2.after rest

def outcomes (c : Cursor) : List FieldKind → List (Except Fault FieldValue)
  | [] => []
  | k :: rest => (k.read.on c).1 :: (k.read.on c).2.outcomes rest

theorem after_append (c : Cursor) (a b : List FieldKind) :
    c.after (a ++ b) = (c.after a).after b := by
  induction a generalizing c with
  | nil => rfl
  | cons k rest ih => exact ih _

theorem StandsIn.after (stands : c.StandsIn what bs) (ks : List FieldKind) :
    (c.after ks).StandsIn what bs := by
  induction ks generalizing c with
  | nil => exact stands
  | cons k rest ih => exact ih (stands.read k)

theorem position_le_after (c : Cursor) (ks : List FieldKind) :
    c.position ≤ (c.after ks).position := by
  induction ks generalizing c with
  | nil => exact Nat.le_refl _
  | cons k rest ih => exact Nat.le_trans (position_le_read c k) (ih _)

theorem read_back {vs : List FieldValue} {bss : List (List UInt8)}
    (spelled : List.Forall₂ FieldValue.SpelledBy vs bss) (passed : c.Passed bss.flatten c') :
    c.outcomes (vs.map FieldValue.kind) = vs.map .ok ∧ c.after (vs.map FieldValue.kind) = c' := by
  induction spelled generalizing c with
  | nil => exact ⟨rfl, (passed_nil_iff.1 passed).symm⟩
  | @cons v first vs bss spells others ih =>
    obtain ⟨m, here, onward⟩ := passed_append_iff.1 passed
    have read := FieldValue.read_on_iff.2 ⟨first, spells, here⟩
    obtain ⟨outcomes, after⟩ := ih onward
    simp only [List.map_cons, Cursor.outcomes, Cursor.after, read, outcomes, after, and_self]

/-- In a course of reads a field is read exactly if its octets are left, and is what they say;
otherwise its first parts that fit are passed and the next is told short. What values are
written as is read back as these values. -/
theorem reads_of_payload (what : String) (bs : List UInt8) :
    (∀ (ks more : List FieldKind) (k : FieldKind),
      let start := ofOctets what bs
      let c := start.after ks
      c.position + c.remaining = bs.length ∧ c.rest = bs.drop c.position ∧
      c.position ≤ (start.after (ks ++ more)).position ∧
      ((∃ v, (k.read.on c).1 = .ok v) ↔ k.size ≤ c.remaining) ∧
      (k.size ≤ c.remaining → ∃ v : FieldValue, v.kind = k ∧
        v.SpelledBy (c.rest.take k.size) ∧ k.read.on c = (.ok v, c.skip k.size)) ∧
      (c.remaining < k.size → ∃ passed width,
        Read.IsLongestFit k.widths c.remaining passed ∧ passed ++ [width] <+: k.widths ∧
        k.read.on c = (.error (.truncated what width (c.remaining - Read.extent passed)),
          c.skip (Read.extent passed))) ∧
      (k.widths = [k.size] → c.remaining < k.size →
        k.read.on c = (.error (.truncated what k.size c.remaining), c))) ∧
    ∀ (vs : List FieldValue) (tail : List UInt8),
      let octets := vs.flatMap FieldValue.toOctets
      let start := ofOctets what (octets ++ tail)
      start.outcomes (vs.map FieldValue.kind) = vs.map .ok ∧
      start.after (vs.map FieldValue.kind) = ⟨what, octets.length, tail⟩ := by
  refine ⟨fun ks more k => ?_, fun vs tail => ?_⟩
  · intro start c
    have stands : c.StandsIn what bs := (standsIn_ofOctets what bs).after ks
    have spans := k.spans_read c
    have sized := k.extent_widths
    refine ⟨stands.counted, stands.rest, ?_, ⟨?_, fun enough => ?_⟩, FieldKind.read_of_le,
      fun few => ?_, fun single few => ?_⟩
    · rw [after_append]
      exact position_le_after c more
    · rintro ⟨v, given⟩
      have read : k.read.on c = (.ok v, (k.read.on c).2) := Prod.ext given rfl
      exact sized ▸ (spans.gives_of_ok read).1
    · obtain ⟨v, -, -, read⟩ := FieldKind.read_of_le enough
      exact ⟨v, by rw [read]⟩
    · have short := spans.stopsShort (sized.symm ▸ few)
      exact stands.what ▸ short.exists_isLongestFit
    · have short := spans.stopsShort (sized.symm ▸ few)
      rw [single] at short
      exact stands.what ▸ short.on_of_single
  · intro octets start
    have spelled : List.Forall₂ FieldValue.SpelledBy vs (vs.map FieldValue.toOctets) := by
      rw [List.forall₂_map_right_iff, List.forall₂_same]
      exact fun v _ => v.spelledBy_toOctets
    have passed : start.Passed octets ⟨what, octets.length, tail⟩ :=
      Nat.zero_add octets.length ▸ passed_ofOctets what octets tail
    exact read_back spelled passed

/-- A number that is too wide leaves the cursor, a narrower one is read behind it, and of
a record only the one flag that is left is passed. -/
theorem short_payload_read_on :
    let start := ofOctets "short payload" [0x34, 0x12, 7]
    FieldKind.u32.widths = [FieldKind.u32.size] ∧ start.remaining < FieldKind.u32.size ∧
    FieldKind.u32.read.on start = (.error (.truncated "short payload" 4 3), start) ∧
    FieldKind.u16.size ≤ (start.after [.u32]).remaining ∧
    (∃ v : FieldValue, v.kind = .u16 ∧ v.SpelledBy [0x34, 0x12] ∧
      FieldKind.u16.read.on (start.after [.u32]) = (.ok v, ⟨"short payload", 2, [7]⟩)) ∧
    (start.after [.u32, .u16]).remaining < FieldKind.capability.size ∧
    ∃ passed width, Read.IsLongestFit [1, 1, 1, 1, 1, 1] 1 passed ∧
      passed ++ [width] <+: [1, 1, 1, 1, 1, 1] ∧
      FieldKind.capability.read.on (start.after [.u32, .u16]) =
        (.error (.truncated "short payload" width (1 - Read.extent passed)),
          (start.after [.u32, .u16]).skip (Read.extent passed)) := by
  intro start
  obtain ⟨anywhere, -⟩ := reads_of_payload "short payload" [0x34, 0x12, 7]
  obtain ⟨-, -, -, -, -, -, wide⟩ := anywhere [] [] .u32
  obtain ⟨-, -, -, -, narrow, -, -⟩ := anywhere [.u32] [] .u16
  obtain ⟨-, -, -, -, -, record, -⟩ := anywhere [.u32, .u16] [] .capability
  exact ⟨rfl, by decide, wide rfl (by decide), by decide, narrow (by decide), by decide,
    record (by decide)⟩

end Cursor

end CollectorGateway
