import CollectorGateway.Sensor.Report
import Mathlib.Data.List.Forall2

/-!
Reads that succeed. A read gives a value exactly if the octets under the cursor
begin with what spells that value, and it then stands behind them; so the values
and the layout of a message determine each other. What spells the value of a read
made of several is what spells their values, one after another.
-/

namespace CollectorGateway

namespace Cursor

variable {c c' : Cursor}

/-- Between the two positions of the cursor lie just these octets. -/
structure Passed (c : Cursor) (bs : List UInt8) (c' : Cursor) : Prop where
  what : c'.what = c.what
  position : c'.position = c.position + bs.length
  rest : c.rest = bs ++ c'.rest

@[simp] theorem passed_nil_iff : c.Passed [] c' ↔ c' = c := by
  constructor
  · intro h
    cases c
    cases c'
    have position := h.position
    have rest := h.rest
    have what := h.what
    simp_all
  · rintro rfl
    exact ⟨rfl, rfl, rfl⟩

theorem passed_append_iff {a b : List UInt8} :
    c.Passed (a ++ b) c' ↔ ∃ m, c.Passed a m ∧ m.Passed b c' := by
  constructor
  · intro h
    refine ⟨⟨c.what, c.position + a.length, b ++ c'.rest⟩, ⟨rfl, rfl, ?_⟩, ⟨h.what, ?_, rfl⟩⟩
    · rw [h.rest, List.append_assoc]
    · rw [h.position, List.length_append, Nat.add_assoc]
  · rintro ⟨m, first, second⟩
    refine ⟨second.what.trans first.what, ?_, ?_⟩
    · rw [second.position, first.position, List.length_append, Nat.add_assoc]
    · rw [first.rest, second.rest, List.append_assoc]

theorem passed_pair_iff {a b : UInt8} :
    c.Passed [a, b] c' ↔ ∃ m, c.Passed [a] m ∧ m.Passed [b] c' :=
  passed_append_iff (a := [a])

theorem passed_ofOctets (what : String) (bs tail : List UInt8) :
    (ofOctets what (bs ++ tail)).Passed bs ⟨what, 0 + bs.length, tail⟩ :=
  ⟨rfl, rfl, rfl⟩

end Cursor

namespace Read

variable {α β : Type} {c c' : Cursor}

theorem pure_on_iff {v w : α} : (pure v : Read α).on c = (.ok w, c') ↔ v = w ∧ c' = c := by
  change (Except.ok v, c) = (Except.ok w, c') ↔ _
  simp [eq_comm]

theorem bind_on_iff {r : Read α} {f : α → Read β} {w : β} :
    (r >>= f).on c = (.ok w, c') ↔ ∃ m v, r.on c = (.ok v, m) ∧ (f v).on m = (.ok w, c') := by
  have opened : (r >>= f).on c = match r.on c with
      | (.ok v, m) => (f v).on m
      | (.error e, m) => (.error e, m) := by
    simp only [on, bind, ExceptT.bind, ExceptT.mk, StateT.bind, ExceptT.bindCont]
    rcases r c with ⟨_ | _, m⟩ <;> rfl
  rw [opened]
  rcases r.on c with ⟨e | v, m⟩
  · simp
  · constructor
    · intro h
      exact ⟨m, v, rfl, h⟩
    · rintro ⟨m', v', same, h⟩
      cases same
      exact h

theorem map_on_iff {r : Read α} {f : α → β} {w : β} :
    (f <$> r).on c = (.ok w, c') ↔ ∃ v, r.on c = (.ok v, c') ∧ f v = w := by
  have opened : (f <$> r).on c = (r >>= fun v => pure (f v)).on c := rfl
  simp only [opened, bind_on_iff, pure_on_iff]
  constructor
  · rintro ⟨m, v, h, rfl, rfl⟩
    exact ⟨v, h, rfl⟩
  · rintro ⟨v, h, rfl⟩
    exact ⟨c', v, h, rfl, rfl⟩

theorem fail_on_iff {f : Fault} {w : α} : (fail f : Read α).on c = (.ok w, c') ↔ False := by
  simp [fail, on]

theorem remaining_on_iff {n : Nat} :
    remaining.on c = (.ok n, c') ↔ n = c.remaining ∧ c' = c := by
  simp [remaining, on, eq_comm]

theorem octets_on_iff {n : Nat} {bs : List UInt8} :
    (octets n).on c = (.ok bs, c') ↔ bs.length = n ∧ c.Passed bs c' := by
  rw [octets_on]
  cases h : splitExactly? n c.rest with
  | none =>
    have short := splitExactly?_eq_none_iff.1 h
    simp only [Prod.mk.injEq, reduceCtorEq, false_and, false_iff, not_and]
    intro long passed
    have := congrArg List.length passed.rest
    rw [List.length_append] at this
    omega
  | some taken =>
    obtain ⟨split, long⟩ := splitExactly?_eq_some_iff.1 h
    simp only [Prod.mk.injEq, Except.ok.injEq]
    constructor
    · rintro ⟨rfl, rfl⟩
      exact ⟨long, rfl, by rw [long], split⟩
    · rintro ⟨same, passed⟩
      have cut := passed.rest
      rw [split] at cut
      obtain ⟨rfl, rest⟩ := List.append_inj cut (long.trans same.symm)
      refine ⟨rfl, ?_⟩
      rw [Cursor.mk.injEq]
      exact ⟨passed.what.symm, by rw [passed.position, same], rest⟩

theorem number_on_iff {width n : Nat} :
    (number width).on c = (.ok n, c') ↔
      n < Nat.pow 256 width ∧ c.Passed (LittleEndian.encode width n) c' := by
  simp only [number, map_on_iff, octets_on_iff]
  constructor
  · rintro ⟨bs, ⟨rfl, passed⟩, rfl⟩
    exact ⟨LittleEndian.decode_lt bs, by rwa [LittleEndian.encode_decode]⟩
  · rintro ⟨small, passed⟩
    refine ⟨_, ⟨LittleEndian.length_encode width n, passed⟩, ?_⟩
    rw [LittleEndian.decode_encode, Nat.mod_eq_of_lt small]

theorem word_on_iff (width : Nat) {ofNat : Nat → α} {toNat : α → Nat}
    (small : ∀ v, toNat v < Nat.pow 256 width) (ofNat_toNat : ∀ v, ofNat (toNat v) = v)
    (toNat_ofNat : ∀ n < Nat.pow 256 width, toNat (ofNat n) = n) {v : α} :
    (ofNat <$> number width).on c = (.ok v, c') ↔
      c.Passed (LittleEndian.encode width (toNat v)) c' := by
  simp only [map_on_iff, number_on_iff]
  constructor
  · rintro ⟨n, ⟨hn, passed⟩, rfl⟩
    rwa [toNat_ofNat n hn]
  · intro passed
    exact ⟨toNat v, ⟨small v, passed⟩, ofNat_toNat v⟩

theorem u8_on_iff {v : UInt8} : u8.on c = (.ok v, c') ↔ c.Passed [v] c' := by
  rw [← LittleEndian.encode_one]
  refine word_on_iff 1 (fun v => v.toNat_lt) (fun _ => UInt8.ofNat_toNat) fun _ hn => ?_
  exact UInt8.toNat_ofNat_of_lt' hn

theorem u16_on_iff {v : UInt16} :
    u16.on c = (.ok v, c') ↔ c.Passed (LittleEndian.u16 v) c' :=
  word_on_iff 2 (fun v => v.toNat_lt) (fun _ => UInt16.ofNat_toNat)
    fun _ hn => UInt16.toNat_ofNat_of_lt' hn

theorem u32_on_iff {v : UInt32} :
    u32.on c = (.ok v, c') ↔ c.Passed (LittleEndian.u32 v) c' :=
  word_on_iff 4 (fun v => v.toNat_lt) (fun _ => UInt32.ofNat_toNat)
    fun _ hn => UInt32.toNat_ofNat_of_lt' hn

theorem u64_on_iff {v : UInt64} :
    u64.on c = (.ok v, c') ↔ c.Passed (LittleEndian.u64 v) c' :=
  word_on_iff 8 (fun v => v.toNat_lt) (fun _ => UInt64.ofNat_toNat)
    fun _ hn => UInt64.toNat_ofNat_of_lt' hn

theorem converted_on_iff {r : Read α} {write : α → List UInt8}
    (reads : ∀ {c c' : Cursor} {v : α}, r.on c = (.ok v, c') ↔ c.Passed (write v) c')
    {f : α → β} {g : β → α} (f_g : ∀ v, f (g v) = v) (g_f : ∀ u, g (f u) = u) {v : β} :
    (f <$> r).on c = (.ok v, c') ↔ c.Passed (write (g v)) c' := by
  simp only [map_on_iff, reads]
  constructor
  · rintro ⟨u, passed, rfl⟩
    rwa [g_f]
  · intro passed
    exact ⟨g v, passed, f_g v⟩

theorem i8_on_iff {v : Int8} : i8.on c = (.ok v, c') ↔ c.Passed [v.toUInt8] c' :=
  converted_on_iff u8_on_iff (fun _ => rfl) fun _ => rfl

theorem i16_on_iff {v : Int16} :
    i16.on c = (.ok v, c') ↔ c.Passed (LittleEndian.u16 v.toUInt16) c' :=
  converted_on_iff u16_on_iff (fun _ => rfl) fun _ => rfl

theorem single_on_iff {v : Single} :
    single.on c = (.ok v, c') ↔ c.Passed (LittleEndian.u32 v.bits) c' :=
  converted_on_iff u32_on_iff (fun _ => rfl) fun _ => rfl

theorem when_on_iff {r : Read α} {write : α → List UInt8}
    (reads : ∀ {c c' : Cursor} {v : α}, r.on c = (.ok v, c') ↔ c.Passed (write v) c')
    {selected : Bool} {v : Option α} :
    (when selected r).on c = (.ok v, c') ↔
      v.isSome = selected ∧ c.Passed ((v.map write).getD []) c' := by
  cases selected with
  | false => cases v <;> simp [when, pure_on_iff]
  | true => cases v <;> simp [when, map_on_iff, reads]

/-- Of values that can be spelled in several ways, some spellings were read. -/
theorem times_on_iff_spelled {r : Read α} (spelled : α → List UInt8 → Prop)
    (reads : ∀ {c c' : Cursor} {v : α},
      r.on c = (.ok v, c') ↔ ∃ bs, spelled v bs ∧ c.Passed bs c')
    {n : Nat} {vs : List α} :
    (times r n).on c = (.ok vs, c') ↔
      vs.length = n ∧ ∃ bss, List.Forall₂ spelled vs bss ∧ c.Passed bss.flatten c' := by
  induction n generalizing c c' vs with
  | zero => cases vs <;> simp [times, pure_on_iff]
  | succ n ih =>
    simp only [times, bind_on_iff, pure_on_iff, reads, ih]
    constructor
    · rintro ⟨m, v, ⟨bs, first, passed⟩, m', rest, ⟨long, bss, others, passed'⟩, rfl, rfl⟩
      refine ⟨congrArg (· + 1) long, bs :: bss, .cons first others, ?_⟩
      exact Cursor.passed_append_iff.2 ⟨m, passed, passed'⟩
    · rintro ⟨long, bss, spelling, passed⟩
      cases spelling with
      | nil => simp at long
      | cons first others =>
        obtain ⟨m, passed, passed'⟩ := Cursor.passed_append_iff.1 passed
        exact ⟨m, _, ⟨_, first, passed⟩, c', _, ⟨by simpa using long, _, others, passed'⟩, rfl, rfl⟩

theorem times_on_iff {r : Read α} {write : α → List UInt8}
    (reads : ∀ {c c' : Cursor} {v : α}, r.on c = (.ok v, c') ↔ c.Passed (write v) c')
    {n : Nat} {vs : List α} :
    (times r n).on c = (.ok vs, c') ↔ vs.length = n ∧ c.Passed (vs.flatMap write) c' := by
  have written : ∀ bss, List.Forall₂ (fun v bs => bs = write v) vs bss ↔ bss = vs.map write := by
    intro bss
    induction vs generalizing bss with
    | nil => simp
    | cons v rest ih => simp [List.forall₂_cons_left_iff, ih]
  rw [times_on_iff_spelled (fun v bs => bs = write v) (by simp [reads])]
  simp only [written, exists_eq_left, List.flatMap_def]

theorem whole_eq_ok_iff {r : Read α} {what : String} {bs : List UInt8} {v : α} :
    r.whole what bs = .ok v ↔ ∃ c', r.on (.ofOctets what bs) = (.ok v, c') := by
  rw [whole]
  rcases r.on (.ofOctets what bs) with ⟨_ | _, m⟩ <;> simp

end Read

end CollectorGateway
