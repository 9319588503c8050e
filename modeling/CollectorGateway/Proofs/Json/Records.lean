import CollectorGateway.Json.Reader
import CollectorGateway.Proofs.Json.RoundTrip
import CollectorGateway.Proofs.Numeric.Reading

/-!
Numbers and records written as trees, and read from them. What is written of a number
has a spelling. An integer of at most 64 bits, a text and an object with distinct names
are read as what they were written from, and so is a list of values under distinct names.
-/

namespace CollectorGateway

theorem isDigits_toDigits (n : Nat) : IsDigits (Nat.toDigits 10 n) :=
  ⟨Nat.toDigits_ne_nil, fun _ listed => Nat.isDigit_of_mem_toDigits (by decide) (by decide) listed⟩

theorem toDigits_unpadded (n : Nat) (zero : (Nat.toDigits 10 n).head? = some '0') :
    Nat.toDigits 10 n = ['0'] := by
  induction n using Nat.strongRecOn with
  | ind n ih =>
    obtain small | large := Nat.lt_or_ge n 10
    · rw [Nat.toDigits_of_lt_base small] at zero ⊢
      rw [List.head?_cons, Option.some.injEq] at zero
      rw [zero]
    · exfalso
      rw [Nat.toDigits_of_base_le (by decide) large, List.head?_append_of_ne_nil _ Nat.toDigits_ne_nil]
        at zero
      have front := ih (n / 10) (Nat.div_lt_self (by omega) (by decide)) zero
      have value := Numeral.digitsValue_toDigits (n / 10)
      rw [front] at value
      have : 1 ≤ n / 10 := by omega
      rw [← value] at this
      exact absurd this (by decide)

namespace Numeral

theorem isProper_ofNat (n : Nat) : (ofNat n).IsProper :=
  ⟨isDigits_toDigits n, toDigits_unpadded n, nofun, nofun⟩

theorem isProper_ofInt (n : Int) : (ofInt n).IsProper :=
  ⟨isDigits_toDigits _, toDigits_unpadded _, nofun, nofun⟩

theorem toInt?_ofInt {n : Int} (low : -2 ^ 63 ≤ n) (high : n < 2 ^ 64) :
    (ofInt n).toInt? = some n := by
  have value : valueUpTo (Nat.pow 2 64) (Nat.toDigits 10 n.natAbs) = n.natAbs := by
    rw [valueUpTo_eq, digitsValue_toDigits]
    exact Nat.min_eq_right (by simp; omega)
  simp only [toInt?, ofInt, value]
  have first : Nat.pow 2 63 = 2 ^ 63 := rfl
  have second : Nat.pow 2 64 = 2 ^ 64 := rfl
  by_cases negative : n < 0
  · rw [decide_eq_true negative, if_pos rfl, if_pos (by omega)]
    congr 1
    omega
  · rw [decide_eq_false negative, if_neg Bool.false_ne_true, if_pos (by omega)]
    congr 1
    omega

theorem ofNat_eq_ofInt (n : Nat) : ofNat n = ofInt n := by
  simp [ofNat, ofInt]

end Numeral

namespace DecimalLayout

theorem head_toDigits {n : Nat} (positive : 0 < n) : (Nat.toDigits 10 n).head? ≠ some '0' := by
  intro zero
  have value := Numeral.digitsValue_toDigits n
  rw [toDigits_unpadded n zero] at value
  have none : Numeral.digitsValue ['0'] = 0 := rfl
  omega

theorem isProper_numeral (l : DecimalLayout) (negative : Bool) {d : Decimal}
    (positive : 0 < d.digits) : (l.numeral negative d).IsProper := by
  have digits := isDigits_toDigits d.digits
  have first := head_toDigits positive
  rw [numeral]
  generalize Nat.toDigits 10 d.digits = ds at *
  -- The first digit stays in front, unless a zero of its own is.
  obtain ⟨c, cs, rfl⟩ := List.exists_cons_of_ne_nil digits.1
  have unpadded : ∀ cs, (c :: cs).head? = some '0' → c :: cs = ['0'] := fun _ zero => absurd zero first
  split
  · split
    · exact ⟨digits.append_zeros _, unpadded _, by simpa using isDigits_zero, by simp⟩
    · split
      · refine ⟨digits.take _, unpadded _, ?_, by simp⟩
        rintro _ ⟨⟩
        exact digits.drop (by omega)
      · exact ⟨isDigits_zero, fun _ => rfl, by simpa using digits.zeros_append _, by simp⟩
  · refine ⟨digits.take 0, unpadded _, fun ds given => ?_, by simpa using isDigits_toDigits _⟩
    split at given
    · cases given
    · rename_i more
      rw [← Option.some.inj given]
      exact digits.drop (lt_of_le_of_ne (Nat.succ_le_succ (Nat.zero_le _)) (Ne.symm more))

end DecimalLayout

namespace Json

section Writing

theorem isProper_chars (cs : List Char) : ∀ u ∈ cs.map TextUnit.char, u.IsProper := by
  simp [TextUnit.IsProper]

@[simp] theorem isProper_ofText (s : String) : (ofText s).IsProper := .text (isProper_chars s.toList)

@[simp] theorem isProper_ofNat (n : Nat) : (ofNat n).IsProper := .number (Numeral.isProper_ofNat n)

@[simp] theorem isProper_ofInt (n : Int) : (ofInt n).IsProper := .number (Numeral.isProper_ofInt n)

theorem isProper_record {fields : List (String × Json)} (proper : ∀ f ∈ fields, f.2.IsProper) :
    (record fields).IsProper := by
  refine .object ?_ ?_
  · rw [List.forall_mem_map]
    exact fun f _ => isProper_chars f.1.toList
  · rw [List.forall_mem_map]
    exact proper

theorem isProper_ofOption {α : Type} {write : α → Json} (proper : ∀ a, (write a).IsProper)
    (o : Option α) : (ofOption write o).IsProper := by
  cases o with
  | none => exact .null
  | some a => exact proper a

end Writing

section Reading

theorem int?_ofInt {low high n : Int} (least : low ≤ n) (greatest : n ≤ high)
    (inside : -2 ^ 63 ≤ n ∧ n < 2 ^ 64) : (ofInt n).int? low high = some n := by
  rw [ofInt, int?, Numeral.toInt?_ofInt inside.1 inside.2, Option.filter_some, if_pos]
  simpa using ⟨least, greatest⟩

theorem nat?_ofNat {bound n : Nat} (small : n < bound) (wide : bound ≤ 2 ^ 64) :
    (ofNat n).nat? bound = some n := by
  have same : ofNat n = ofInt n := congrArg number (Numeral.ofNat_eq_ofInt n)
  rw [nat?, same, int?_ofInt (by omega) (by omega) (by omega)]
  simp

@[simp] theorem u8?_ofNat (n : UInt8) : (ofNat n.toNat).u8? = some n := by
  rw [u8?, nat?_ofNat n.toNat_lt (by decide), Option.map_some, UInt8.ofNat_toNat]

@[simp] theorem u16?_ofNat (n : UInt16) : (ofNat n.toNat).u16? = some n := by
  rw [u16?, nat?_ofNat n.toNat_lt (by decide), Option.map_some, UInt16.ofNat_toNat]

@[simp] theorem u32?_ofNat (n : UInt32) : (ofNat n.toNat).u32? = some n := by
  rw [u32?, nat?_ofNat n.toNat_lt (by decide), Option.map_some, UInt32.ofNat_toNat]

@[simp] theorem u64?_ofNat (n : UInt64) : (ofNat n.toNat).u64? = some n := by
  rw [u64?, nat?_ofNat n.toNat_lt (by decide), Option.map_some, UInt64.ofNat_toNat]

@[simp] theorem i8?_ofInt (n : Int8) : (ofInt n.toInt).i8? = some n := by
  have low := n.le_toInt
  have high := n.toInt_lt
  rw [i8?, int?_ofInt (by omega) (by omega) (by omega), Option.map_some, Int8.ofInt_toInt]

@[simp] theorem i16?_ofInt (n : Int16) : (ofInt n.toInt).i16? = some n := by
  have low := n.le_toInt
  have high := n.toInt_lt
  rw [i16?, int?_ofInt (by omega) (by omega) (by omega), Option.map_some, Int16.ofInt_toInt]

@[simp] theorem text?_ofText (s : String) : (ofText s).text? = some s := by
  rw [ofText, text?, TextUnit.text?_map_char, Option.map_some, String.ofList_toList]

theorem members?_record (fields : List (String × Json)) : (record fields).members? = some fields := by
  rw [record, members?]
  induction fields with
  | nil => rfl
  | cons f fields ih =>
    obtain ⟨key, value⟩ := f
    rw [List.map_cons, List.mapM_cons, ih]
    simp [TextUnit.text?_map_char]

theorem record?_record {fields : List (String × Json)} {names : List String}
    (same : fields.map Prod.fst = names) (distinct : names.Nodup) :
    (record fields).record? names = some fields := by
  have known : ∀ f ∈ fields, names.contains f.1 = true := by
    intro f listed
    rw [← same]
    simpa using ⟨f.2, listed⟩
  have read : (record fields).record? names = (record fields).fields? names := rfl
  rw [read, fields?, members?_record, Option.bind_eq_bind, Option.bind_some,
    List.filter_eq_self.2 known]
  rw [← same] at distinct
  exact if_pos distinct

variable {α : Type} {fields : List (String × Json)} {name : String} {read : Json → Option α}

@[simp] theorem required_cons_self {j : Json} : required ((name, j) :: fields) name read = read j := by
  rw [required, List.lookup_cons_self]
  rfl

@[simp] theorem required_cons_of_ne {j : Json} {key : String} (other : name ≠ key) :
    required ((key, j) :: fields) name read = required fields name read := by
  rw [required, required, List.lookup_cons, beq_false_of_ne other]

def perhaps (read : Json → Option α) : Json → Option (Option α)
  | null => some none
  | j => (read j).map some

@[simp] theorem optional_cons_self {j : Json} :
    optional ((name, j) :: fields) name read = perhaps read j := by
  rw [optional, List.lookup_cons_self]
  cases j <;> rfl

theorem perhaps_of_ne {j : Json} (present : j ≠ null) : perhaps read j = (read j).map some := by
  cases j with
  | null => exact absurd rfl present
  | _ => rfl

@[simp] theorem optional_cons_of_ne {j : Json} {key : String} (other : name ≠ key) :
    optional ((key, j) :: fields) name read = optional fields name read := by
  rw [optional, optional, List.lookup_cons, beq_false_of_ne other]

theorem perhaps_ofOption {write : α → Json} (back : ∀ a, read (write a) = some a)
    (refuses : read null = none) (o : Option α) : perhaps read (ofOption write o) = some o := by
  cases o with
  | none => rfl
  | some a =>
    have present : write a ≠ null := by
      intro same
      have := back a
      simp [same, refuses] at this
    rw [ofOption, perhaps_of_ne present, back, Option.map_some]

theorem mapM_required_cons_of_notMem {j : Json} {key : String} {names : List String}
    (absent : key ∉ names) :
    names.mapM (fun name => required ((key, j) :: fields) name read) =
      names.mapM fun name => required fields name read := by
  induction names with
  | nil => rfl
  | cons name names ih =>
    rw [List.mem_cons, not_or] at absent
    rw [List.mapM_cons, List.mapM_cons, required_cons_of_ne (Ne.symm absent.1), ih absent.2]

theorem mapM_required_zip {write : α → Json} (back : ∀ a, read (write a) = some a)
    {names : List String} (distinct : names.Nodup) {values : List α}
    (long : names.length = values.length) :
    names.mapM (fun name => required (names.zip (values.map write)) name read) = some values := by
  induction names generalizing values with
  | nil =>
    rw [List.length_nil] at long
    rw [List.length_eq_zero_iff.1 long.symm]
    rfl
  | cons name names ih =>
    rw [List.nodup_cons] at distinct
    cases values with
    | nil => exact absurd long (Nat.succ_ne_zero _)
    | cons value values =>
      rw [List.map_cons, List.zip_cons_cons, List.mapM_cons, required_cons_self, back,
        mapM_required_cons_of_notMem distinct.1, ih distinct.2 (Nat.succ.inj long)]
      rfl

end Reading

end Json

end CollectorGateway
