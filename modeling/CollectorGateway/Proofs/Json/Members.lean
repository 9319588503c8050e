import CollectorGateway.Json.Reader
import CollectorGateway.Proofs.Json.Integers
import CollectorGateway.Proofs.Json.Records

/-!
Objects whose members may stand in any order, with others among them that nobody asked
for. What is read of the members by name depends on neither, as long as no asked name
stands twice; and an object may be kept exactly if each of its values may.
-/

namespace CollectorGateway

namespace Json

variable {α : Type} {j : Json} {names : List String} {fields others : List (String × Json)}

theorem lookup_perm {gs fs : List (String × α)} (same : gs.Perm fs)
    (distinct : (fs.map Prod.fst).Nodup) (name : String) : gs.lookup name = fs.lookup name := by
  induction same with
  | nil => rfl
  | cons f same ih =>
    rw [List.map_cons, List.nodup_cons] at distinct
    rw [List.lookup_cons, List.lookup_cons, ih distinct.2]
  | swap f g rest =>
    obtain ⟨key, value⟩ := f
    obtain ⟨key', value'⟩ := g
    simp only [List.map_cons, List.nodup_cons, List.mem_cons, not_or] at distinct
    have apart : key ≠ key' := distinct.1.1
    simp only [List.lookup_cons]
    by_cases first : name = key
    · have second : (name == key') = false := by simpa [first] using apart
      rw [second]
    · have here : (name == key) = false := by simpa using first
      rw [here]
  | trans first second ih ih' =>
    rw [ih ((second.map Prod.fst).nodup_iff.2 distinct), ih' distinct]

theorem required_perm {gs fs : List (String × Json)} (same : gs.Perm fs)
    (distinct : (fs.map Prod.fst).Nodup) (name : String) (read : Json → Option α) :
    required gs name read = required fs name read := by
  rw [required, required, lookup_perm same distinct]

theorem optional_perm {gs fs : List (String × Json)} (same : gs.Perm fs)
    (distinct : (fs.map Prod.fst).Nodup) (name : String) (read : Json → Option α) :
    optional gs name read = optional fs name read := by
  rw [optional, optional, lookup_perm same distinct]

@[simp] theorem optional_nil (name : String) (read : Json → Option α) :
    optional [] name read = some none := rfl

theorem exists_object_of_members? {read : List (String × Json)} (written : j.members? = some read) :
    ∃ members, j = object members := by
  cases j with
  | object members => exact ⟨members, rfl⟩
  | _ => cases written

theorem exists_object_of_fields? (read : j.fields? names = some fields) :
    ∃ members, j = object members := by
  obtain ⟨members, written, -⟩ := Option.bind_eq_some_iff.1 read
  exact exists_object_of_members? written

/-- An object has these fields, each under one of the names, and others under other names,
in whatever order. -/
def Holds (j : Json) (names : List String) (fields others : List (String × Json)) : Prop :=
  ∃ members, j.members? = some members ∧ members.Perm (fields ++ others) ∧
    (∀ f ∈ fields, f.1 ∈ names) ∧ ∀ m ∈ others, m.1 ∉ names

theorem holds_record (known : ∀ f ∈ fields, f.1 ∈ names) : (record fields).Holds names fields [] :=
  ⟨fields, members?_record fields, by rw [List.append_nil], known, nofun⟩

theorem Holds.fields? (holds : j.Holds names fields others)
    (distinct : (fields.map Prod.fst).Nodup) :
    ∃ known, j.fields? names = some known ∧ known.Perm fields := by
  obtain ⟨members, written, same, known, unknown⟩ := holds
  let asked (m : String × Json) : Bool := names.contains m.1
  have all : fields.filter asked = fields :=
    List.filter_eq_self.2 fun f listed => by simpa [asked] using known f listed
  have none : others.filter asked = [] :=
    List.filter_eq_nil_iff.2 fun m listed => by simpa [asked] using unknown m listed
  have kept := same.filter asked
  rw [List.filter_append, all, none, List.append_nil] at kept
  refine ⟨members.filter asked, ?_, kept⟩
  rw [Json.fields?, written]
  exact if_pos ((kept.map Prod.fst).nodup_iff.2 distinct)

def leader? (names : List String) (j : Json) : Option String := do
  ((← j.members?).find? fun m => names.contains m.1).map Prod.fst

theorem leader?_of_fields? {known : List (String × Json)} (read : j.fields? names = some known) :
    j.leader? names = known.head?.map Prod.fst := by
  obtain ⟨members, written, rest⟩ := Option.bind_eq_some_iff.1 read
  obtain ⟨-, rfl⟩ := Option.ite_none_right_eq_some.1 rest |>.imp_right Option.some.inj
  rw [leader?, written, List.head?_filter]
  rfl

section Keeping

variable {members : List (List TextUnit × Json)} {budget : Nat}

theorem isKeepable_object {read : List (String × Json)}
    (written : (object members).members? = some read) :
    (object members).isKeepable (budget + 1) ↔ ∀ m ∈ read, m.2.isKeepable budget := by
  rw [members?] at written
  induction members generalizing read with
  | nil =>
    obtain rfl : [] = read := Option.some.inj written
    simp [isKeepable]
  | cons m members ih =>
    obtain ⟨key, value⟩ := m
    rw [List.mapM_cons] at written
    obtain ⟨first, here, written⟩ := Option.bind_eq_some_iff.1 written
    obtain ⟨rest, there, same⟩ := Option.bind_eq_some_iff.1 written
    obtain ⟨cs, whole, rfl⟩ := Option.bind_eq_some_iff.1 here |>.imp fun _ h =>
      h.imp_right Option.some.inj
    obtain rfl : _ :: rest = read := Option.some.inj same
    have later := ih there
    simp only [isKeepable, List.all_eq_true, Bool.and_eq_true] at later
    simp only [isKeepable, List.all_cons, whole, Option.isSome_some, Bool.true_and,
      Bool.and_eq_true, List.all_eq_true, List.forall_mem_cons, later]

theorem Holds.isKeepable (holds : j.Holds names fields others) :
    j.isKeepable (budget + 1) ↔
      (∀ f ∈ fields, f.2.isKeepable budget) ∧ ∀ m ∈ others, m.2.isKeepable budget := by
  obtain ⟨members, written, same, -⟩ := holds
  obtain ⟨inner, rfl⟩ := exists_object_of_members? written
  rw [isKeepable_object written]
  simp only [same.mem_iff, List.mem_append, or_imp, forall_and]

theorem isKeepable_record (fs : List (String × Json)) :
    (record fs).isKeepable (budget + 1) ↔ ∀ f ∈ fs, f.2.isKeepable budget :=
  isKeepable_object (members?_record fs)

theorem isKeepable_ofNat {n : Nat} (small : n < 2 ^ 64) : (ofNat n).isKeepable budget := by
  have integer := Numeral.toInt?_ofInt (n := n) (by omega) (by omega)
  rw [← Numeral.ofNat_eq_ofInt] at integer
  simp [ofNat, Json.isKeepable, integer]

theorem isKeepable_ofText (s : String) : (ofText s).isKeepable budget := by
  simp [ofText, Json.isKeepable, TextUnit.text?_map_char]

end Keeping

end Json

end CollectorGateway
