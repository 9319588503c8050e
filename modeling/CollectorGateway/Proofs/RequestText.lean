import CollectorGateway.Proofs.Json.Members
import CollectorGateway.Proofs.Json.RoundTrip
import CollectorGateway.Request
import Mathlib.Data.List.Permutation

/-!
The texts of a request. A request is said by an object that names it and gives its data,
the members of both in any order and among others that nobody asks for. Where the name
comes first, the data is read as it stands; where the data comes first, it is read from
what was kept of it, and then what nobody asks for has to be such that it can be kept.
-/

namespace CollectorGateway

open Json (ofNat record)

namespace Address

@[simp] theorem ofJson?_toJson (a : Address) : ofJson? a.toJson = some a := by
  cases a with
  | short a =>
    have named : (record [("short", ofNat a.toNat)]).choice? =
      some ("short", some (ofNat a.toNat)) := rfl
    simp [ofJson?, toJson, named]
  | extended a =>
    have named : (record [("extended", ofNat a.toNat)]).choice? =
      some ("extended", some (ofNat a.toNat)) := rfl
    simp [ofJson?, toJson, named]

@[simp] theorem isProper_toJson (a : Address) : a.toJson.IsProper := by
  cases a <;> exact Json.isProper_record (by simp)

end Address

@[simp] theorem PermitAction.ofJson?_label (kept : Bool) (a : PermitAction) :
    ofJson? kept (.ofText a.label) = some a := by
  cases a <;> rfl

namespace Request

def name : Request → String
  | getNetworkInfo => "getNetworkInfo"
  | getDeviceArray => "getDeviceArray"
  | setPermitJoin _ => "setPermitJoin"
  | sendToggle _ => "sendToggle"
  | sendConfig .. => "sendConfig"

def fields? : Request → Option (List (String × Json))
  | getNetworkInfo | getDeviceArray => none
  | setPermitJoin action => some [("action", .ofText action.label)]
  | sendToggle target => some [("targetAddress", .ofOption Address.toJson target)]
  | sendConfig target polling reporting control =>
    some [("targetAddress", .ofOption Address.toJson target),
      ("pollingInterval", ofNat polling.toNat), ("reportingInterval", ofNat reporting.toNat),
      ("frameControl", ofNat control.toNat)]

def envelope (r : Request) (data : Option Json) : List (String × Json) :=
  ("request", .ofText r.name) :: (data.map fun data => ("data", data)).toList

theorem toJson_eq (r : Request) : r.toJson = record (r.envelope (r.fields?.map record)) := by
  cases r <;> rfl

/-- Data says a request, beside others that nobody asks for. A request without data may
say so by a null, and no target may be said by leaving the target out. -/
inductive SaidBy (r : Request) : Option Json → List (String × Json) → Prop
  | absent (plain : r.fields? = none) : r.SaidBy none []
  | null (plain : r.fields? = none) : r.SaidBy (some .null) []
  | fields {fs others : List (String × Json)} {data : Json} (given : r.fields? = some fs)
    (holds : data.Holds (fs.map Prod.fst) fs others) : r.SaidBy (some data) others
  | untargeted {fs others : List (String × Json)} {data : Json}
    (given : r.fields? = some (("targetAddress", .null) :: fs))
    (holds : data.Holds ("targetAddress" :: fs.map Prod.fst) fs others) :
    r.SaidBy (some data) others

def Allows (r : Request) (data : Option Json) : Prop :=
  match r.fields? with
  | none => data = none ∨ data = some .null
  | some _ => ∃ members, data = some (.object members)

def parts? : Json → Option (String × Option Json)
  | .array [name, data] => name.text?.map fun name => (name, some data)
  | j => do return (← name? (← j.member? "request"), j.member? "data")

theorem isProper_toJson (r : Request) : r.toJson.IsProper := by
  cases r <;> refine Json.isProper_record ?_ <;>
    simp [Json.isProper_record, Json.isProper_ofOption]

def outer : List String := ["request", "data"]

/-- Data is given, and the name only after it. -/
def DataFirst (j : Json) : Prop := j.leader? outer = some "data"

def Keepable (others : List (String × Json)) : Prop :=
  ∀ m ∈ others, m.2.isKeepable (keptDepth - 1)

section Reading

variable {r : Request} {data : Option Json} {others rest : List (String × Json)}
  {fs : List (String × Json)} {j : Json}

theorem nodup_fields (given : r.fields? = some fs) : (fs.map Prod.fst).Nodup := by
  cases r <;> cases given <;> simp

theorem ofData?_of_fields {known : List (String × Json)} (given : r.fields? = some fs)
    (read : j.fields? (fs.map Prod.fst) = some known) (same : known.Perm fs) (kept : Bool) :
    ofData? kept r.name (some j) = some r := by
  have distinct := nodup_fields given
  cases r <;> cases given <;>
    simp only [name, ofData?, List.map_cons, List.map_nil] at read ⊢ <;>
    simp [read, Json.required_perm same distinct, Json.optional_perm same distinct,
      Json.perhaps_ofOption Address.ofJson?_toJson rfl]

theorem eq_none_of_null {target : Option Address}
    (same : Json.ofOption Address.toJson target = .null) : target = none := by
  cases target with
  | none => rfl
  | some a => cases a <;> cases same

theorem ofData?_of_untargeted {known : List (String × Json)}
    (given : r.fields? = some (("targetAddress", .null) :: fs))
    (read : j.fields? ("targetAddress" :: fs.map Prod.fst) = some known) (same : known.Perm fs)
    (kept : Bool) : ofData? kept r.name (some j) = some r := by
  have distinct := (nodup_fields given).of_cons
  cases r with
  | sendToggle target =>
    obtain ⟨written, rfl⟩ : Json.ofOption Address.toJson target = .null ∧ [] = fs := by
      simpa [fields?] using given
    obtain rfl := eq_none_of_null written
    simp only [name, ofData?, List.map_nil] at read ⊢
    simp [read, Json.optional_perm same distinct]
  | sendConfig target polling reporting control =>
    obtain ⟨written, rfl⟩ : Json.ofOption Address.toJson target = .null ∧
        [("pollingInterval", ofNat polling.toNat), ("reportingInterval", ofNat reporting.toNat),
          ("frameControl", ofNat control.toNat)] = fs := by
      simpa [fields?] using given
    obtain rfl := eq_none_of_null written
    simp only [name, ofData?, List.map_cons, List.map_nil] at read ⊢
    simp [read, Json.required_perm same distinct, Json.optional_perm same distinct]
  | _ => simp [fields?] at given

theorem ofData?_of_saidBy (said : r.SaidBy data others) (kept : Bool) :
    ofData? kept r.name data = some r := by
  cases said with
  | absent plain | null plain =>
    cases r with
    | getNetworkInfo | getDeviceArray => rfl
    | _ => cases plain
  | fields given holds =>
    obtain ⟨known, read, same⟩ := holds.fields? (nodup_fields given)
    exact ofData?_of_fields given read same kept
  | untargeted given holds =>
    obtain ⟨known, read, same⟩ := holds.fields? (nodup_fields given).of_cons
    exact ofData?_of_untargeted given read same kept

theorem isKeepable_word (n : UInt16) (budget : Nat) : (ofNat n.toNat).isKeepable budget :=
  Json.isKeepable_ofNat (Nat.lt_trans n.toNat_lt (by decide))

theorem isKeepable_address (a : Address) (budget : Nat) : a.toJson.isKeepable (budget + 1) := by
  cases a with
  | short a => exact (Json.isKeepable_record _).2 (by simpa using isKeepable_word a budget)
  | extended a => exact (Json.isKeepable_record _).2 (by simpa using Json.isKeepable_ofNat a.toNat_lt)

theorem isKeepable_fields (given : r.fields? = some fs) (budget : Nat) :
    ∀ f ∈ fs, f.2.isKeepable (budget + 1) := by
  have target : ∀ o : Option Address, (Json.ofOption Address.toJson o).isKeepable (budget + 1) := by
    rintro (_ | a)
    · rfl
    · exact isKeepable_address a budget
  cases r <;> cases given <;> simp [isKeepable_word, target, Json.isKeepable_ofText]

theorem isKeepable_of_saidBy (said : r.SaidBy (some j) others) :
    j.isKeepable keptDepth ↔ Keepable others := by
  cases said with
  | null => simp [Keepable, Json.isKeepable]
  | fields given holds =>
    exact holds.isKeepable.trans (and_iff_right (isKeepable_fields given _))
  | untargeted given holds =>
    exact holds.isKeepable.trans
      (and_iff_right (List.forall_mem_cons.1 (isKeepable_fields given _)).2)

@[simp] theorem name?_ofText (s : String) : name? (.ofText s) = some s := by
  simp [name?, Json.choice?, Json.ofText, TextUnit.text?_map_char]

theorem nodup_envelope (r : Request) (data : Option Json) :
    ((r.envelope data).map Prod.fst).Nodup := by
  cases data <;> simp [envelope]

theorem lookup_envelope (r : Request) (data : Option Json) :
    (r.envelope data).lookup "data" = data := by
  cases data <;> rfl

theorem ofJson?_of_saidBy (said : r.SaidBy data others)
    (holds : j.Holds outer (r.envelope data) rest) :
    ((DataFirst j → Keepable others) → ofJson? j = some r) ∧
      (DataFirst j → ¬ Keepable others → ofJson? j = none) := by
  obtain ⟨known, read, same⟩ := holds.fields? (r.nodup_envelope data)
  have leader := Json.leader?_of_fields? read
  obtain ⟨members, rfl⟩ := Json.exists_object_of_fields? read
  have direct : ofData? false r.name ((r.envelope data).lookup "data") = some r := by
    rw [lookup_envelope, ofData?_of_saidBy said]
  rw [DataFirst, leader]
  rw [outer] at read
  cases data with
  | none =>
    obtain rfl := List.perm_singleton.1 same
    simpa [ofJson?, read, envelope] using direct
  | some data =>
    obtain rfl | rfl := List.perm_pair.1 same
    · simpa [ofJson?, read, envelope] using direct
    · simp [ofJson?, read, ofData?_of_saidBy said true, ← isKeepable_of_saidBy said]

theorem allows_of_ofData? {kept : Bool} {name : String} (read : ofData? kept name data = some r) :
    name = r.name ∧ r.Allows data := by
  unfold ofData? at read
  split at read
  -- A name without data comes with nothing or with a null.
  · obtain rfl := Option.some.inj read
    exact ⟨rfl, .inl rfl⟩
  · obtain rfl := Option.some.inj read
    exact ⟨rfl, .inr rfl⟩
  · obtain rfl := Option.some.inj read
    exact ⟨rfl, .inl rfl⟩
  · obtain rfl := Option.some.inj read
    exact ⟨rfl, .inr rfl⟩
  -- The others come with fields, so with an object.
  · obtain ⟨fs, given, read⟩ := Option.bind_eq_some_iff.1 read
    obtain ⟨action, -, read⟩ := Option.bind_eq_some_iff.1 read
    obtain rfl := Option.some.inj read
    obtain ⟨members, rfl⟩ := Json.exists_object_of_fields? given
    exact ⟨rfl, members, rfl⟩
  · obtain ⟨fs, given, read⟩ := Option.bind_eq_some_iff.1 read
    obtain ⟨target, -, read⟩ := Option.bind_eq_some_iff.1 read
    obtain rfl := Option.some.inj read
    obtain ⟨members, rfl⟩ := Json.exists_object_of_fields? given
    exact ⟨rfl, members, rfl⟩
  · obtain ⟨fs, given, read⟩ := Option.bind_eq_some_iff.1 read
    obtain ⟨target, -, read⟩ := Option.bind_eq_some_iff.1 read
    obtain ⟨polling, -, read⟩ := Option.bind_eq_some_iff.1 read
    obtain ⟨reporting, -, read⟩ := Option.bind_eq_some_iff.1 read
    obtain ⟨control, -, read⟩ := Option.bind_eq_some_iff.1 read
    obtain rfl := Option.some.inj read
    obtain ⟨members, rfl⟩ := Json.exists_object_of_fields? given
    exact ⟨rfl, members, rfl⟩
  · cases read

theorem allows_of_ofJson? (read : ofJson? j = some r) :
    ∃ data, parts? j = some (r.name, data) ∧ r.Allows data := by
  unfold ofJson? at read
  split at read
  · rename_i first data
    obtain ⟨name, named, read⟩ := Option.bind_eq_some_iff.1 read
    obtain ⟨rfl, allowed⟩ := allows_of_ofData? read
    exact ⟨some data, by simp [parts?, named], allowed⟩
  · rename_i notPair
    obtain ⟨fs, given, read⟩ := Option.bind_eq_some_iff.1 read
    obtain ⟨name, named, read⟩ := Option.bind_eq_some_iff.1 read
    obtain ⟨tree, there, named⟩ := Json.required_eq_some_iff.1 named
    rw [Json.lookup_of_fields? given (by simp)] at there
    have split : parts? j = some (name, j.member? "data") := by
      rw [parts?]
      · simp [there, named]
      · exact notPair
    have sought : fs.lookup "data" = j.member? "data" := Json.lookup_of_fields? given (by simp)
    split at read
    · rename_i data _ _
      rw [List.lookup_cons_self] at sought
      obtain ⟨-, read⟩ := Option.ite_none_right_eq_some.1 read
      obtain ⟨rfl, allowed⟩ := allows_of_ofData? read
      exact ⟨some data, by rw [split, sought], allowed⟩
    · obtain ⟨rfl, allowed⟩ := allows_of_ofData? read
      exact ⟨_, by rw [split, sought], allowed⟩

theorem saidBy_fields (r : Request) : r.SaidBy (r.fields?.map record) [] := by
  cases given : r.fields? with
  | none => exact .absent given
  | some fs =>
    exact .fields given (Json.holds_record fun f listed => List.mem_map_of_mem listed)

theorem holds_envelope (r : Request) (data : Option Json) :
    (record (r.envelope data)).Holds outer (r.envelope data) [] := by
  refine Json.holds_record ?_
  cases data <;> simp [envelope, outer]

end Reading

/-- A request is read from every text that says it: members in any order, among others, with
blanks between the tokens. Where the data stands before the name, what nobody asks for in it
must be such that it can be kept. -/
theorem read_in_any_order (r : Request) :
    ofText? r.toJson.print = some r ∧
    (∀ {data : Option Json} {others rest : List (String × Json)} {j : Json} {cs : List Char},
      r.SaidBy data others → j.Holds outer (r.envelope data) rest → Json.Spells j.tokens cs →
        ((DataFirst j → Keepable others) → ofText? cs = some r) ∧
        (DataFirst j → ¬ Keepable others → ofText? cs = none)) ∧
    ∀ {cs : List Char}, ofText? cs = some r →
      ∃ j data, Json.parse? cs = some j ∧ parts? j = some (r.name, data) ∧ r.Allows data := by
  have spelled : ∀ {data : Option Json} {others rest : List (String × Json)} {j : Json}
      {cs : List Char}, r.SaidBy data others → j.Holds outer (r.envelope data) rest →
      Json.Spells j.tokens cs → ((DataFirst j → Keepable others) → ofText? cs = some r) ∧
        (DataFirst j → ¬ Keepable others → ofText? cs = none) := by
    intro data others rest j cs said holds spells
    have read : ofText? cs = ofJson? j := by
      rw [ofText?, Json.parse?_of_spells spells]
      rfl
    rw [read]
    exact ofJson?_of_saidBy said holds
  refine ⟨?_, spelled, fun {cs} read => ?_⟩
  · have holds := r.holds_envelope (r.fields?.map record)
    rw [← toJson_eq] at holds
    have written := Json.spells_print r.isProper_toJson
    exact (spelled r.saidBy_fields holds written).1 fun _ => nofun
  · obtain ⟨j, written, read⟩ := Option.bind_eq_some_iff.1 read
    obtain ⟨data, named, allowed⟩ := allows_of_ofJson? read
    exact ⟨j, data, written, named, allowed⟩

def shuffledData : Json := record [("retries", .array [ofNat 3, .null])]

def shuffled : Json :=
  record [("data", shuffledData), ("request", .ofText "sendToggle"), ("id", ofNat 7)]

theorem shuffled_is_read :
    DataFirst shuffled ∧ ofText? (' ' :: shuffled.print) = some (sendToggle none) ∧
      ∃ j data, Json.parse? (' ' :: shuffled.print) = some j ∧
        parts? j = some ("sendToggle", data) ∧ (sendToggle none).Allows data := by
  have said : (sendToggle none).SaidBy (some shuffledData) [("retries", .array [ofNat 3, .null])] :=
    .untargeted rfl ⟨_, Json.members?_record _, .rfl, nofun, by simp⟩
  have holds : shuffled.Holds outer ((sendToggle none).envelope (some shuffledData))
      [("id", ofNat 7)] :=
    ⟨_, Json.members?_record _, .swap _ _ _, by simp [envelope, outer], by simp [outer]⟩
  have proper : shuffled.IsProper := by
    have counts : (Json.array [ofNat 3, .null]).IsProper := .array (by simp [Json.IsProper.null])
    have inner : shuffledData.IsProper := Json.isProper_record (by simp [counts])
    exact Json.isProper_record (by simp [inner])
  have spells : Json.Spells shuffled.tokens (' ' :: shuffled.print) :=
    .blank rfl (Json.spells_print proper)
  have keepable : Keepable [("retries", .array [ofNat 3, .null])] := by
    rw [Keepable, List.forall_mem_singleton]
    decide +kernel
  have read := ((read_in_any_order (sendToggle none)).2.1 said holds spells).1 fun _ => keepable
  exact ⟨rfl, read, (read_in_any_order (sendToggle none)).2.2 read⟩

def overflow : Json := .number ⟨false, ['1'], none, some (false, ['4', '0', '0'])⟩

def overflowingData : Json := record [("targetAddress", .null), ("x", overflow)]

def overflowing : Json := record [("data", overflowingData), ("request", .ofText "sendToggle")]

def halfNamed : Json :=
  .object [("request".toList.map .char, .ofText "sendToggle"), ([.half 0xD800], ofNat 1),
    ("data".toList.map .char, record [("targetAddress", .null)])]

/-- Not every member that nobody asks for is passed over: a number out of range cannot be kept,
and half a surrogate pair is no name. -/
theorem overflowing_is_refused :
    (sendToggle none).SaidBy (some overflowingData) [("x", overflow)] ∧
    overflowing.Holds outer ((sendToggle none).envelope (some overflowingData)) [] ∧
    (Json.Spells overflowing.tokens overflowing.print ∧ ofText? overflowing.print = none) ∧
    Json.Spells halfNamed.tokens halfNamed.print ∧ ofText? halfNamed.print = none := by
  have target : ∀ {fs : List (String × Json)}, (∀ f ∈ fs, f.2.IsProper) →
      (record (("targetAddress", .null) :: fs)).IsProper :=
    fun proper => Json.isProper_record (List.forall_mem_cons.2 ⟨.null, proper⟩)
  have number : overflow.IsProper := by
    have whole : IsDigits ['1'] := ⟨List.cons_ne_nil _ _, List.all_eq_true.1 rfl⟩
    have power : IsDigits ['4', '0', '0'] := ⟨List.cons_ne_nil _ _, List.all_eq_true.1 rfl⟩
    exact .number ⟨whole, by decide, by simp, by simp [power]⟩
  have proper : overflowing.IsProper :=
    Json.isProper_record (by simp [overflowingData, target, number])
  have proper' : halfNamed.IsProper := by
    refine .object ?_ ?_
    · simp [TextUnit.IsProper]
    · simp [target]
  refine ⟨.fields rfl ⟨_, Json.members?_record _, .rfl, by simp, by simp⟩,
    ⟨_, Json.members?_record _, .swap _ _ _, by simp [envelope, outer], by simp⟩,
    ⟨Json.spells_print proper, ?_⟩, Json.spells_print proper', ?_⟩
  · decide +kernel
  · decide +kernel

end Request

end CollectorGateway
