import CollectorGateway.Json.Reader

/-!
Integers of a JSON tree. An integer is written without fraction and exponent, and
its value is that of its digits, however many they are; what is read as a word is
always this value and never another one of the same remainder. A tree is entered
by the names of its members.
-/

namespace CollectorGateway

namespace Numeral

def integer? (n : Numeral) : Option Int :=
  match n.fraction, n.exponent with
  | none, none => some (if n.negative then -(digitsValue n.whole : Int) else digitsValue n.whole)
  | _, _ => none

theorem toInt?_eq_some {n : Numeral} {v : Int} (read : n.toInt? = some v) :
    n.integer? = some v := by
  obtain ⟨negative, whole, fraction, exponent⟩ := n
  cases fraction <;> cases exponent <;> simp only [toInt?, reduceCtorEq] at read
  -- A value below the limit is the value of the digits itself.
  have cut := valueUpTo_eq (Nat.pow 2 64) whole
  have room : Nat.pow 2 63 < Nat.pow 2 64 := by decide
  cases negative with
  | false =>
    simp only [Bool.false_eq_true, if_false, Option.ite_none_right_eq_some,
      Option.some.injEq] at read
    obtain ⟨small, rfl⟩ := read
    have same : valueUpTo (Nat.pow 2 64) whole = digitsValue whole := by omega
    simp [integer?, same]
  | true =>
    simp only [if_true, Option.ite_none_right_eq_some, Option.some.injEq] at read
    obtain ⟨small, rfl⟩ := read
    have same : valueUpTo (Nat.pow 2 64) whole = digitsValue whole := by omega
    simp [integer?, same]

end Numeral

namespace Json

def integer? : Json → Option Int
  | number n => n.integer?
  | _ => none

def member? (name : String) (j : Json) : Option Json := do (← j.members?).lookup name

/-- The tree under the names of a path, each that of a member of the tree before. -/
def at? (j : Json) (path : List String) : Option Json := path.foldlM (fun j name => j.member? name) j

theorem at?_cons {j : Json} {name : String} {path : List String} :
    j.at? (name :: path) = (j.member? name).bind fun content => content.at? path := rfl

theorem int?_eq_some {j : Json} {low high v : Int} (read : j.int? low high = some v) :
    j.integer? = some v ∧ low ≤ v ∧ v ≤ high := by
  cases j with
  | number n =>
    obtain ⟨value, inside⟩ := Option.filter_eq_some_iff.1 read
    exact ⟨Numeral.toInt?_eq_some value, by simpa using inside⟩
  | _ => simp [int?] at read

theorem nat?_eq_some {j : Json} {bound v : Nat} (positive : 0 < bound)
    (read : j.nat? bound = some v) : j.integer? = some (v : Int) ∧ v < bound := by
  obtain ⟨i, value, rfl⟩ := Option.map_eq_some_iff.1 read
  obtain ⟨written, low, high⟩ := int?_eq_some value
  have same : (i.toNat : Int) = i := Int.toNat_of_nonneg low
  rw [same]
  exact ⟨written, by omega⟩

theorem u16?_eq_some {j : Json} {v : UInt16} (read : j.u16? = some v) :
    j.integer? = some (v.toNat : Int) := by
  obtain ⟨n, value, rfl⟩ := Option.map_eq_some_iff.1 read
  obtain ⟨written, small⟩ := nat?_eq_some (by decide) value
  rw [written, UInt16.toNat_ofNat_of_lt' small]

theorem u64?_eq_some {j : Json} {v : UInt64} (read : j.u64? = some v) :
    j.integer? = some (v.toNat : Int) := by
  obtain ⟨n, value, rfl⟩ := Option.map_eq_some_iff.1 read
  obtain ⟨written, small⟩ := nat?_eq_some (by decide) value
  rw [written, UInt64.toNat_ofNat_of_lt' small]

theorem lookup_filter {α : Type} (keep : String → Bool) {name : String} (kept : keep name)
    (fields : List (String × α)) :
    (fields.filter fun field => keep field.1).lookup name = fields.lookup name := by
  induction fields with
  | nil => rfl
  | cons field rest ih =>
    obtain ⟨key, value⟩ := field
    by_cases here : name = key
    · subst here
      simp only [List.filter_cons, kept, if_true, List.lookup_cons_self]
    · have other : (name == key) = false := by simpa using here
      rw [List.lookup_cons, other, ← ih, List.filter_cons]
      split
      · rw [List.lookup_cons, other]
      · rfl

theorem lookup_of_fields? {j : Json} {names : List String} {fields : List (String × Json)}
    (read : j.fields? names = some fields) {name : String} (known : name ∈ names) :
    fields.lookup name = j.member? name := by
  obtain ⟨members, written, rest⟩ := Option.bind_eq_some_iff.1 read
  obtain ⟨-, rfl⟩ := Option.ite_none_right_eq_some.1 rest |>.imp_right Option.some.inj
  have listed : (names.contains name) = true := by simpa using known
  rw [member?, written]
  exact lookup_filter (fun key => names.contains key) listed members

theorem member?_of_choice? {j content : Json} {name : String}
    (read : j.choice? = some (name, some content)) : j.member? name = some content := by
  unfold choice? at read
  split at read
  · simp at read
  · rename_i key value
    obtain ⟨cs, written, same⟩ := Option.map_eq_some_iff.1 read
    obtain ⟨rfl, rfl⟩ : String.ofList cs = name ∧ value = content := by simpa using same
    simp [member?, members?, written]
  · simp at read

theorem required_eq_some_iff {α : Type} {fields : List (String × Json)} {name : String}
    {read : Json → Option α} {v : α} :
    required fields name read = some v ↔ ∃ j, fields.lookup name = some j ∧ read j = some v :=
  Option.bind_eq_some_iff

theorem optional_eq_some_some {α : Type} {fields : List (String × Json)} {name : String}
    {read : Json → Option α} {v : α} (h : optional fields name read = some (some v)) :
    ∃ j, fields.lookup name = some j ∧ read j = some v := by
  unfold optional at h
  split at h
  · simp at h
  · simp at h
  · rename_i j nonnull present
    exact ⟨j, present, by simpa using h⟩

end Json

end CollectorGateway
