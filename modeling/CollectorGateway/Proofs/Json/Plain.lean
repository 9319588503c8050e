import CollectorGateway.Event
import CollectorGateway.Proofs.Sensor.RoundTrip

/-!
What is written of an event holds plain characters only, those that one octet writes and
that leave a mark or a space. So it is one line, and it is as many octets long as it has
characters.
-/

namespace CollectorGateway

/-- A space, or a character of one octet that leaves a mark. -/
def isPlain (c : Char) : Bool := 32 ≤ c.toNat && c.toNat < 127

theorem isPlain_iff {c : Char} : isPlain c = true ↔ 32 ≤ c.toNat ∧ c.toNat < 127 := by
  simp [isPlain]

theorem TextUnit.isPlain_print {c : Char} (plain : isPlain c = true) :
    (TextUnit.print (.char c)).all isPlain = true := by
  have range := isPlain_iff.1 plain
  have uncontrolled : ∀ k : Char, k.toNat < 32 → c ≠ k := by
    rintro k small rfl
    omega
  rw [TextUnit.print]
  split
  · rfl
  · split
    · rfl
    · rw [if_neg (by omega), if_neg (uncontrolled _ (by decide)),
        if_neg (uncontrolled _ (by decide)), if_neg (by omega),
        if_neg (uncontrolled _ (by decide)), if_neg (by omega)]
      rw [List.all_cons, plain, List.all_nil, Bool.and_true]

theorem Numeral.isPlain_print {n : Numeral} (proper : n.IsProper) :
    n.print.all isPlain = true := by
  refine List.all_eq_true.2 fun c listed => ?_
  have continues := Json.Scan.continuesNumeral_print proper c listed
  simp only [Json.Scan.continuesNumeral, Bool.or_eq_true, beq_iff_eq] at continues
  obtain ((((digit | rfl) | rfl) | rfl) | rfl) | rfl := continues
  · simp only [Char.isDigit, Bool.and_eq_true, decide_eq_true_eq, ge_iff_le,
      UInt32.le_iff_toNat_le] at digit
    have low : 48 ≤ c.toNat := digit.1
    have high : c.toNat ≤ 57 := digit.2
    exact isPlain_iff.2 ⟨by omega, by omega⟩
  all_goals rfl

namespace Json

def IsPlain (j : Json) : Prop := j.print.all isPlain = true

theorem isPlain_null : null.IsPlain := by
  rw [IsPlain, print]
  rfl

@[simp] theorem isPlain_bool (b : Bool) : (bool b).IsPlain := by
  cases b <;> rw [IsPlain, print] <;> rfl

theorem isPlain_number {n : Numeral} (proper : n.IsProper) : (number n).IsPlain := by
  rw [IsPlain, print]
  exact Numeral.isPlain_print proper

@[simp] theorem isPlain_ofNat (n : Nat) : (ofNat n).IsPlain :=
  isPlain_number (Numeral.isProper_ofNat n)

@[simp] theorem isPlain_ofInt (n : Int) : (ofInt n).IsPlain :=
  isPlain_number (Numeral.isProper_ofInt n)

theorem isPlain_printText {cs : List Char} (plain : cs.all isPlain = true) :
    (printText (cs.map .char)).all isPlain = true := by
  have units : ((cs.map TextUnit.char).flatMap TextUnit.print).all isPlain = true := by
    rw [List.all_flatMap, List.all_map, List.all_eq_true]
    exact fun c listed => TextUnit.isPlain_print (List.all_eq_true.1 plain c listed)
  rw [printText, List.cons_append, List.all_cons, List.all_append, units]
  rfl

theorem isPlain_ofText {s : String} (plain : s.toList.all isPlain = true) :
    (ofText s).IsPlain := by
  rw [IsPlain, ofText, print]
  exact isPlain_printText plain

theorem printItems_cons_cons (j k : Json) (items : List Json) :
    printItems (j :: k :: items) = print j ++ ',' :: printItems (k :: items) := by
  rw [printItems]
  exact List.cons_ne_nil k items

theorem isPlain_printItems {items : List Json} (plain : ∀ j ∈ items, j.IsPlain) :
    (printItems items).all isPlain = true := by
  induction items with
  | nil => rw [printItems, List.all_nil]
  | cons j items ih =>
    rw [List.forall_mem_cons] at plain
    obtain ⟨first, others⟩ := plain
    rw [IsPlain] at first
    cases items with
    | nil => rw [printItems, first]
    | cons k items =>
      rw [printItems_cons_cons, List.all_append, List.all_cons, first, ih others]
      rfl

theorem isPlain_array {items : List Json} (plain : ∀ j ∈ items, j.IsPlain) :
    (array items).IsPlain := by
  rw [IsPlain, print, List.cons_append, List.all_cons, List.all_append, isPlain_printItems plain]
  rfl

theorem printMembers_cons_cons (m k : List TextUnit × Json)
    (members : List (List TextUnit × Json)) :
    printMembers (m :: k :: members) =
      printText m.1 ++ ':' :: print m.2 ++ ',' :: printMembers (k :: members) := by
  rw [printMembers]
  exact List.cons_ne_nil k members

theorem isPlain_printMembers {members : List (List TextUnit × Json)}
    (keys : ∀ m ∈ members, (printText m.1).all isPlain = true)
    (values : ∀ m ∈ members, m.2.IsPlain) : (printMembers members).all isPlain = true := by
  induction members with
  | nil => rw [printMembers, List.all_nil]
  | cons m members ih =>
    rw [List.forall_mem_cons] at keys values
    obtain ⟨key, keys⟩ := keys
    obtain ⟨value, values⟩ := values
    rw [IsPlain] at value
    cases members with
    | nil =>
      rw [printMembers, List.all_append, List.all_cons, key, value]
      rfl
    | cons k members =>
      rw [printMembers_cons_cons, List.all_append, List.all_append, List.all_cons, List.all_cons,
        key, value, ih keys values]
      rfl

theorem isPlain_object {members : List (List TextUnit × Json)}
    (keys : ∀ m ∈ members, (printText m.1).all isPlain = true)
    (values : ∀ m ∈ members, m.2.IsPlain) : (object members).IsPlain := by
  rw [IsPlain, print, List.cons_append, List.all_cons, List.all_append,
    isPlain_printMembers keys values]
  rfl

theorem isPlain_record {fields : List (String × Json)}
    (names : (fields.map Prod.fst).all (·.toList.all isPlain) = true)
    (values : ∀ f ∈ fields, f.2.IsPlain) : (record fields).IsPlain := by
  refine isPlain_object ?_ ?_
  · rw [List.forall_mem_map]
    rw [List.all_map, List.all_eq_true] at names
    exact fun f listed => isPlain_printText (names f listed)
  · rw [List.forall_mem_map]
    exact values

theorem isPlain_ofOption {α : Type} {write : α → Json} (plain : ∀ a, (write a).IsPlain)
    (o : Option α) : (ofOption write o).IsPlain := by
  cases o with
  | none => exact isPlain_null
  | some a => exact plain a

end Json

open Json (isPlain_record isPlain_ofText isPlain_ofOption)

@[simp] theorem Single.isPlain_toJson (x : Single) : x.toJson.IsPlain := by
  rw [toJson]
  split
  · exact Json.isPlain_number x.isProper_numeral
  · exact Json.isPlain_null

@[simp] theorem TemperatureReading.isPlain_toJson (r : TemperatureReading) : r.toJson.IsPlain :=
  isPlain_record (by simp only [List.map]; decide) (by simp)

@[simp] theorem LightReading.isPlain_toJson (r : LightReading) : r.toJson.IsPlain :=
  isPlain_record (by simp only [List.map]; decide) (by simp)

@[simp] theorem HumidityReading.isPlain_toJson (r : HumidityReading) : r.toJson.IsPlain :=
  isPlain_record (by simp only [List.map]; decide) (by simp)

@[simp] theorem HallEffectReading.isPlain_toJson (r : HallEffectReading) : r.toJson.IsPlain :=
  isPlain_record (by simp only [List.map]; decide) (by simp)

@[simp] theorem AccelReading.isPlain_toJson (r : AccelReading) : r.toJson.IsPlain :=
  isPlain_record (by simp only [List.map]; decide) (by simp)

@[simp] theorem ConfigSettings.isPlain_toJson (s : ConfigSettings) : s.toJson.IsPlain :=
  isPlain_record (by simp only [List.map]; decide) (by simp)

@[simp] theorem MessageStats.isPlain_toJson (s : MessageStats) : s.toJson.IsPlain := by
  have named : (names.zip (s.toList.map fun n => Json.ofNat n.toNat)).map Prod.fst = names := rfl
  refine isPlain_record ?_ fun f listed => ?_
  · rw [named]
    decide
  · obtain ⟨n, -, same⟩ := List.mem_map.1 (List.of_mem_zip listed).2
    rw [← same]
    exact Json.isPlain_ofNat _

@[simp] theorem Capability.isPlain_toJson (c : Capability) : c.toJson.IsPlain :=
  isPlain_record (by simp only [List.map]; decide) (by simp)

@[simp] theorem DeviceStatus.isPlain_label (s : DeviceStatus) : (Json.ofText s.label).IsPlain := by
  cases s <;> exact isPlain_ofText (by decide)

@[simp] theorem PollingInterval.isPlain_toJson (p : PollingInterval) : p.toJson.IsPlain := by
  cases p with
  | millis n => exact isPlain_record (by simp only [List.map]; decide) (by simp)
  | alwaysOn => exact isPlain_ofText (by decide)

@[simp] theorem Device.isPlain_toJson (d : Device) : d.toJson.IsPlain :=
  isPlain_record (by simp only [List.map]; decide) (by simp [isPlain_ofOption])

@[simp] theorem Coordinator.isPlain_toJson (c : Coordinator) : c.toJson.IsPlain :=
  isPlain_record (by simp only [List.map]; decide) (by simp)

@[simp] theorem NetworkMode.isPlain_label (m : NetworkMode) : (Json.ofText m.label).IsPlain := by
  cases m <;> exact isPlain_ofText (by decide)

@[simp] theorem NetworkState.isPlain_label (s : NetworkState) : (Json.ofText s.label).IsPlain := by
  cases s <;> exact isPlain_ofText (by decide)

@[simp] theorem Network.isPlain_toJson (n : Network) : n.toJson.IsPlain :=
  isPlain_record (by simp only [List.map]; decide) (by simp)

namespace Event

theorem isPlain_data (e : Event) : e.data.IsPlain := by
  cases e with
  | networkInfo network => exact isPlain_ofOption Network.isPlain_toJson network
  | deviceUpdate device => exact device.isPlain_toJson
  | deviceArray devices => exact Json.isPlain_array (by simp)
  | permitJoinConfirmation status => exact isPlain_record (by simp only [List.map]; decide) (by simp)
  | linkState status => cases status <;> exact isPlain_ofText (by decide)

theorem isPlain_toJson (e : Event) : e.toJson.IsPlain := by
  have name : (Json.ofText e.name).IsPlain := by
    cases e <;> rw [Event.name] <;> exact isPlain_ofText (by decide)
  exact isPlain_record (by simp only [List.map]; decide) (by simp [name, e.isPlain_data])

end Event

end CollectorGateway
