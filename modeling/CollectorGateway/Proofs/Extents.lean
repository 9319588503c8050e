import CollectorGateway.Device.Basic
import CollectorGateway.Network
import CollectorGateway.Proofs.Reads

/-!
Reads of fields of fixed widths, one after another. Such a read succeeds exactly if
octets for all its fields are left, whatever these are, and then leaves those behind them
without having looked at them; if not, it takes the fields that fit, stands before the
first that does not and tells the width of that one. The fields of a read made of several
are those of its parts in a row, and which fields come later can hang on what was read.
-/

namespace CollectorGateway

namespace Cursor

def skip (c : Cursor) (n : Nat) : Cursor := ⟨c.what, c.position + n, c.rest.drop n⟩

/-- The cursor with more octets behind those that are left. -/
def extend (c : Cursor) (extra : List UInt8) : Cursor := { c with rest := c.rest ++ extra }

variable {c c' : Cursor}

@[simp] theorem skip_skip (c : Cursor) (m n : Nat) : (c.skip m).skip n = c.skip (m + n) := by
  simp [skip, Nat.add_assoc]

@[simp] theorem remaining_skip (c : Cursor) (n : Nat) :
    (c.skip n).remaining = c.remaining - n :=
  List.length_drop

@[simp] theorem extend_nil (c : Cursor) : c.extend [] = c := by
  rw [extend, List.append_nil]

theorem Passed.eq_skip {bs : List UInt8} (passed : c.Passed bs c') : c' = c.skip bs.length := by
  have rest : c.rest.drop bs.length = c'.rest := by rw [passed.rest, List.drop_left]
  rw [skip, rest, ← passed.what, ← passed.position]

end Cursor

namespace Read

variable {α β : Type}

theorem bind_on (r : Read α) (f : α → Read β) (c : Cursor) :
    (r >>= f).on c = match r.on c with
      | (.ok v, m) => (f v).on m
      | (.error e, m) => (.error e, m) := by
  simp only [on, bind, ExceptT.bind, ExceptT.mk, StateT.bind, ExceptT.bindCont]
  rcases r c with ⟨_ | _, m⟩ <;> rfl

def extent : List Nat → Nat
  | [] => 0
  | width :: rest => width + extent rest

@[simp] theorem extent_append (a b : List Nat) : extent (a ++ b) = extent a + extent b := by
  induction a with
  | nil => exact (Nat.zero_add _).symm
  | cons width rest ih => rw [List.cons_append, extent, extent, ih, Nat.add_assoc]

/-- So many octets that are left give a value, whatever follows them. -/
def Gives (r : Read α) (c : Cursor) (v : α) (n : Nat) : Prop :=
  n ≤ c.remaining ∧ ∀ extra, r.on (c.extend extra) = (.ok v, (c.skip n).extend extra)

/-- The read takes the fields of these widths that fit, and fails at the first that
does not. -/
def StopsShort (r : Read α) (widths : List Nat) (c : Cursor) : Prop :=
  ∃ before width after, widths = before ++ width :: after ∧
    extent before ≤ c.remaining ∧ c.remaining < extent before + width ∧
    r.on c = (.error (.truncated c.what width (c.remaining - extent before)),
      c.skip (extent before))

/-- From this cursor the read takes fields of these widths, one after another. -/
def SpansAt (r : Read α) (widths : List Nat) (c : Cursor) : Prop :=
  (∃ v, r.Gives c v (extent widths)) ∨ r.StopsShort widths c

def Spans (r : Read α) (widths : List Nat) : Prop := ∀ c, r.SpansAt widths c

section Spans

variable {r : Read α} {widths more : List Nat} {c : Cursor} {v : α} {n : Nat}

theorem Gives.on (gives : r.Gives c v n) : r.on c = (.ok v, c.skip n) := by
  simpa only [Cursor.extend_nil] using gives.2 []

theorem Gives.bind {f : α → Read β} {w : β} {m : Nat} (first : r.Gives c v m)
    (second : (f v).Gives (c.skip m) w n) : (r >>= f).Gives c w (m + n) := by
  have left := second.1
  rw [Cursor.remaining_skip] at left
  refine ⟨?_, fun extra => ?_⟩
  · have fits := first.1
    omega
  · rw [bind_on, first.2 extra, ← Cursor.skip_skip]
    exact second.2 extra

theorem StopsShort.lt (short : r.StopsShort widths c) : c.remaining < extent widths := by
  obtain ⟨before, width, after, rfl, -, few, -⟩ := short
  rw [extent_append, extent]
  omega

theorem StopsShort.bind {f : α → Read β} (short : r.StopsShort widths c) :
    (r >>= f).StopsShort (widths ++ more) c := by
  obtain ⟨before, width, after, rfl, fits, few, failed⟩ := short
  refine ⟨before, width, after ++ more, by simp, fits, few, ?_⟩
  rw [bind_on, failed]

theorem Gives.stopsShort_bind {f : α → Read β} (first : r.Gives c v (extent widths))
    (second : (f v).StopsShort more (c.skip (extent widths))) :
    (r >>= f).StopsShort (widths ++ more) c := by
  obtain ⟨before, width, after, rfl, fits, few, failed⟩ := second
  rw [Cursor.remaining_skip] at fits few failed
  have enough := first.1
  refine ⟨widths ++ before, width, after, by rw [List.append_assoc], ?_, ?_, ?_⟩
  · rw [extent_append]
    omega
  · rw [extent_append]
    omega
  · rw [bind_on, first.on, extent_append, ← Cursor.skip_skip, ← Nat.sub_sub]
    exact failed

theorem Gives.spansAt_bind {f : α → Read β} (first : r.Gives c v (extent widths))
    (second : (f v).SpansAt more (c.skip (extent widths))) :
    (r >>= f).SpansAt (widths ++ more) c := by
  cases second with
  | inl done =>
    obtain ⟨w, gives⟩ := done
    exact .inl ⟨w, extent_append .. ▸ first.bind gives⟩
  | inr short => exact .inr (first.stopsShort_bind short)

theorem SpansAt.gives_of_le (spans : r.SpansAt widths c) (enough : extent widths ≤ c.remaining) :
    ∃ v, r.Gives c v (extent widths) := by
  cases spans with
  | inl done => exact done
  | inr short => exact absurd short.lt (by omega)

theorem SpansAt.stopsShort (spans : r.SpansAt widths c) (few : c.remaining < extent widths) :
    r.StopsShort widths c := by
  cases spans with
  | inl done =>
    obtain ⟨v, enough, -⟩ := done
    omega
  | inr short => exact short

theorem SpansAt.gives_of_ok (spans : r.SpansAt widths c) {c' : Cursor}
    (read : r.on c = (.ok v, c')) : r.Gives c v (extent widths) := by
  cases spans with
  | inl done =>
    obtain ⟨w, gives⟩ := done
    rw [gives.on] at read
    obtain rfl : w = v := Except.ok.inj (Prod.mk.inj read).1
    exact gives
  | inr short =>
    obtain ⟨_, _, _, -, -, -, failed⟩ := short
    simp [read] at failed

theorem SpansAt.eq_skip (spans : r.SpansAt widths c) {c' : Cursor}
    (read : r.on c = (.ok v, c')) : c' = c.skip (extent widths) := by
  have gives := spans.gives_of_ok read
  rw [gives.on] at read
  exact (Prod.mk.inj read).2.symm

theorem spansAt_pure (v : α) (c : Cursor) : (pure v : Read α).SpansAt [] c :=
  .inl ⟨v, Nat.zero_le _, fun _ => rfl⟩

theorem SpansAt.bind {f : α → Read β} (first : r.SpansAt widths c)
    (second : ∀ v, r.Gives c v (extent widths) → (f v).SpansAt more (c.skip (extent widths))) :
    (r >>= f).SpansAt (widths ++ more) c := by
  cases first with
  | inl done =>
    obtain ⟨v, gives⟩ := done
    exact gives.spansAt_bind (second v gives)
  | inr short => exact .inr short.bind

theorem SpansAt.map (spans : r.SpansAt widths c) (f : α → β) : (f <$> r).SpansAt widths c := by
  have whole := spans.bind fun v _ => spansAt_pure (f v) (c.skip (extent widths))
  rwa [List.append_nil] at whole

theorem Spans.bind {f : α → Read β} (first : r.Spans widths)
    (second : ∀ v, (f v).Spans more) : (r >>= f).Spans (widths ++ more) :=
  fun c => (first c).bind fun v _ => second v _

theorem Spans.map (spans : r.Spans widths) (f : α → β) : (f <$> r).Spans widths :=
  fun c => (spans c).map f

theorem Spans.when (spans : r.Spans widths) (selected : Bool) :
    (when selected r).Spans (if selected then widths else []) := by
  cases selected with
  | false => exact spansAt_pure none
  | true => exact spans.map some

theorem Spans.times (spans : r.Spans widths) (n : Nat) :
    (times r n).Spans (List.replicate n widths).flatten := by
  induction n with
  | zero => exact spansAt_pure []
  | succ n ih =>
    have whole := spans.bind fun v => ih.map (v :: ·)
    rwa [← List.flatten_cons, ← List.replicate_succ] at whole

theorem spans_octets (n : Nat) : (octets n).Spans [n] := by
  intro c
  by_cases enough : n ≤ c.remaining
  · refine .inl ⟨c.rest.take n, enough, fun extra => ?_⟩
    have long : (c.rest.take n).length = n := by
      rw [List.length_take]
      exact Nat.min_eq_left enough
    refine octets_on_iff.2 ⟨long, rfl, by rw [long]; rfl, ?_⟩
    simp only [Cursor.extend, Cursor.skip, extent, Nat.add_zero, ← List.append_assoc,
      List.take_append_drop]
  · have few : c.remaining < n := Nat.not_le.1 enough
    refine .inr ⟨[], n, [], rfl, Nat.zero_le _, by simpa [extent] using few, ?_⟩
    rw [octets_on, splitExactly?_eq_none_iff.2 few]
    rfl

theorem spans_u8 : u8.Spans [1] := ((spans_octets 1).map _).map _

theorem spans_u16 : u16.Spans [2] := ((spans_octets 2).map _).map _

theorem spans_u32 : u32.Spans [4] := ((spans_octets 4).map _).map _

theorem spans_u64 : u64.Spans [8] := ((spans_octets 8).map _).map _

theorem spans_i8 : i8.Spans [1] := spans_u8.map _

theorem spans_i16 : i16.Spans [2] := spans_u16.map _

theorem spans_bool : bool.Spans [1] := spans_u8.map _

theorem spans_capability : capability.Spans (List.replicate Capability.size 1) :=
  spans_bool.bind fun _ => spans_bool.bind fun _ => spans_bool.bind fun _ => spans_bool.bind fun _ =>
    spans_bool.bind fun _ => spans_bool.map _

theorem spans_networkRecord : networkRecord.Spans [2, 2, 8, 1, 1, 1, 1, 1] :=
  spans_u16.bind fun _ => spans_u16.bind fun _ => spans_u64.bind fun _ => spans_u8.bind fun _ =>
    spans_bool.bind fun _ => spans_bool.bind fun _ => spans_u8.bind fun _ => spans_u8.map _

end Spans

def Takes (r : Read α) (n : Nat) : Prop :=
  ∀ c : Cursor, (∃ v c', r.on c = (.ok v, c') ∧ c.remaining = n + c'.remaining) ∨
    (c.remaining < n ∧ ∃ e c', r.on c = (.error e, c'))

theorem Takes.succeeds_iff {r : Read α} {n : Nat} (takes : r.Takes n) (c : Cursor) :
    (∃ v c', r.on c = (.ok v, c')) ↔ n ≤ c.remaining := by
  cases takes c with
  | inl done =>
    obtain ⟨v, c', read, left⟩ := done
    have enough : n ≤ c.remaining := by omega
    exact iff_of_true ⟨v, c', read⟩ enough
  | inr short =>
    obtain ⟨few, e, c', failed⟩ := short
    simp only [failed, Prod.mk.injEq, reduceCtorEq, false_and, exists_false, false_iff]
    omega

theorem Spans.takes {r : Read α} {widths : List Nat} (spans : r.Spans widths) :
    r.Takes (extent widths) := by
  intro c
  cases spans c with
  | inl done =>
    obtain ⟨v, gives⟩ := done
    have enough := gives.1
    exact .inl ⟨v, _, gives.on, by rw [Cursor.remaining_skip]; omega⟩
  | inr short =>
    have few := short.lt
    obtain ⟨before, width, after, -, -, -, failed⟩ := short
    exact .inr ⟨few, _, _, failed⟩

theorem takes_networkRecord : networkRecord.Takes NetworkRecord.size := spans_networkRecord.takes

end Read

end CollectorGateway
