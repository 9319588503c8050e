import CollectorGateway.Sensor.FieldMask
import Mathlib.Data.List.Basic
import Mathlib.Data.Nat.Bitwise

/-!
The text of a mask is read as the mask. The parts between the bars are the names and the
number that were joined, once the blanks around each are gone, and the bits of the names
and of the number together are those of the mask.
-/

namespace CollectorGateway

namespace FieldMask

/-- A part of a mask's text: at least one character, and neither blanks nor bars. -/
def IsPart (w : List Char) : Prop := w ≠ [] ∧ ∀ c ∈ w, ¬ Blank.isBlank c ∧ c ≠ '|'

theorem trim_part {lead w : List Char} (trail : List Char) (part : IsPart w) (front : ∀ c ∈ lead, Blank.isBlank c)
    (back : ∀ c ∈ trail, Blank.isBlank c) : Blank.trim (lead ++ (w ++ trail)) = w :=
  Blank.trim_around lead trail front back part.1 (fun c first => (part.2 c (List.mem_of_head? first)).1)
    fun c last => (part.2 c (List.mem_of_getLast? last)).1

def joined (ws : List (List Char)) : List Char := [' ', '|', ' '].intercalate ws

theorem joined_cons {w : List Char} {ws : List (List Char)} (some : ws ≠ []) :
    joined (w :: ws) = w ++ ' ' :: '|' :: ' ' :: joined ws := by
  rw [joined, List.intercalate_cons_of_ne_nil some, List.append_assoc]
  rfl

theorem joined_ne_nil {ws : List (List Char)} (some : ws ≠ []) (parts : ∀ w ∈ ws, IsPart w) :
    joined ws ≠ [] := by
  obtain ⟨w, rest, rfl⟩ := List.exists_cons_of_ne_nil some
  have first := (parts w (by simp)).1
  cases rest with
  | nil => simpa [joined] using first
  | cons v rest => simp [joined_cons, first]

theorem head_joined {ws : List (List Char)} (parts : ∀ w ∈ ws, IsPart w) :
    ∀ c ∈ (joined ws).head?, ¬ Blank.isBlank c := by
  cases ws with
  | nil => simp [joined]
  | cons w rest =>
    obtain ⟨nonempty, marks⟩ := parts w (by simp)
    obtain ⟨d, ds, rfl⟩ := List.exists_cons_of_ne_nil nonempty
    intro c first
    have same : d = c := by
      cases rest with
      | nil => simpa [joined] using first
      | cons v rest => simpa [joined_cons] using first
    exact same ▸ (marks d (by simp)).1

theorem getLast_joined {ws : List (List Char)} (parts : ∀ w ∈ ws, IsPart w) :
    ∀ c ∈ (joined ws).getLast?, ¬ Blank.isBlank c := by
  induction ws with
  | nil => simp [joined]
  | cons w rest ih =>
    rw [List.forall_mem_cons] at parts
    intro c last
    by_cases alone : rest = []
    · subst alone
      rw [joined, List.intercalate_singleton] at last
      exact (parts.1.2 c (List.mem_of_getLast? last)).1
    · have some := joined_ne_nil alone parts.2
      obtain ⟨d, ds, shape⟩ := List.exists_cons_of_ne_nil some
      rw [joined_cons alone, shape, List.getLast?_append_cons, List.getLast?_cons_cons,
        List.getLast?_cons_cons, List.getLast?_cons_cons, ← shape] at last
      exact ih parts.2 c last

theorem map_trim_splitAtEach {ws : List (List Char)} (some : ws ≠ []) (parts : ∀ w ∈ ws, IsPart w)
    (lead : List Char) (front : ∀ c ∈ lead, Blank.isBlank c) (free : '|' ∉ lead) :
    (splitAtEach '|' (lead ++ joined ws)).map Blank.trim = ws := by
  induction ws generalizing lead with
  | nil => exact absurd rfl some
  | cons w rest ih =>
    rw [List.forall_mem_cons] at parts
    have whole : '|' ∉ w := fun bar => (parts.1.2 '|' bar).2 rfl
    by_cases alone : rest = []
    · subst alone
      have trimmed := trim_part [] parts.1 front (by simp)
      rw [List.append_nil] at trimmed
      rw [joined, List.intercalate_singleton,
        splitAtEach_of_free (by simp [free, whole]), List.map_cons, trimmed, List.map_nil]
    · have blank : ∀ c ∈ [' '], Blank.isBlank c := List.forall_mem_singleton.2 rfl
      have shape : lead ++ joined (w :: rest) =
          (lead ++ (w ++ [' '])) ++ '|' :: ([' '] ++ joined rest) := by
        simp [joined_cons alone]
      have trimmed := trim_part [' '] parts.1 front blank
      rw [shape, splitAtEach_append (by simp [free, whole]), List.map_cons, trimmed,
        ih alone parts.2 [' '] blank (by decide)]

theorem trim_joined {ws : List (List Char)} (some : ws ≠ []) (parts : ∀ w ∈ ws, IsPart w) :
    Blank.trim (joined ws) = joined ws := by
  have around := Blank.trim_around [] [] (by simp) (by simp)
    (joined_ne_nil some parts) (head_joined parts) (getLast_joined parts)
  rwa [List.nil_append, List.append_nil] at around

theorem ofText?_joined {ws : List (List Char)} (some : ws ≠ []) (parts : ∀ w ∈ ws, IsPart w) :
    ofText? (String.ofList (joined ws)) =
      ws.foldlM (fun m part => do return ⟨m.bits ||| (← ofPart? part).bits⟩) empty := by
  have cut := map_trim_splitAtEach some parts [] (by simp) (by simp)
  rw [List.nil_append] at cut
  rw [ofText?, String.toList_ofList, trim_joined some parts]
  simp only [List.isEmpty_iff, joined_ne_nil some parts, if_false]
  conv_rhs => rw [← cut, List.foldlM_map]

theorem ofPart?_name (f : SensorField) : ofPart? f.name.toList = some ⟨f.bit⟩ := by
  cases f <;> decide

theorem isPart_name (f : SensorField) : IsPart f.name.toList := by
  have marks : f.name.toList.all (fun c => !Blank.isBlank c && c != '|') = true := by
    cases f <;> decide
  refine ⟨by cases f <;> decide, fun c listed => ?_⟩
  simpa using List.all_eq_true.1 marks c listed

theorem ofPart?_number (n : UInt16) : ofPart? (Hex.text n.toNat).toList = some ⟨n⟩ := by
  have plain : ∀ rest, Hex.digits n.toNat ≠ '+' :: rest := by
    intro rest signed
    have listed : '+' ∈ Hex.digits n.toNat := by simp [signed]
    obtain ⟨d, small, same⟩ := Hex.mem_padded listed
    have all : ∀ d < 16, '+' ≠ Hex.digit d := by decide
    exact all d small same
  have value : Hex.value? UInt16.size (Hex.digits n.toNat) = some n.toNat :=
    Hex.value?_digits n.toNat_lt
  rw [Hex.text, String.toList_ofList, ofPart?, value]
  · have small : n.toNat < UInt16.size := n.toNat_lt
    simp [small]
  · exact plain

theorem isPart_number (n : Nat) : IsPart (Hex.text n).toList := by
  have all : ∀ d < 16, ¬ Blank.isBlank (Hex.digit d) ∧ Hex.digit d ≠ '|' := by decide
  refine ⟨by simp [Hex.text], ?_⟩
  rw [Hex.text, String.toList_ofList, List.forall_mem_cons, List.forall_mem_cons]
  refine ⟨by decide, by decide, fun c listed => ?_⟩
  obtain ⟨d, small, rfl⟩ := Hex.mem_padded listed
  exact all d small

theorem and_or_distrib (a b c : UInt16) : a &&& (b ||| c) = (a &&& b) ||| (a &&& c) := by
  rw [← UInt16.toNat_inj]
  simp only [UInt16.toNat_and, UInt16.toNat_or, Nat.and_or_distrib_left]

theorem and_bit (m : FieldMask) (f : SensorField) :
    m.bits &&& f.bit = if m.has f then f.bit else 0 := by
  obtain ⟨k, bit⟩ : ∃ k, f.bit.toNat = 2 ^ k := by
    cases f
    exacts [⟨0, rfl⟩, ⟨1, rfl⟩, ⟨2, rfl⟩, ⟨3, rfl⟩, ⟨4, rfl⟩, ⟨5, rfl⟩, ⟨6, rfl⟩]
  have either : m.bits &&& f.bit = f.bit ∨ m.bits &&& f.bit = 0 := by
    rw [← UInt16.toNat_inj, ← UInt16.toNat_inj, UInt16.toNat_and, bit, Nat.and_two_pow]
    cases m.bits.toNat.testBit k <;> simp
  have some : f.bit ≠ 0 := by
    cases f <;> decide
  rw [has]
  obtain same | none := either
  · rw [same, beq_self_eq_true, if_pos rfl]
  · rw [none, beq_eq_false_iff_ne.2 some.symm, if_neg Bool.false_ne_true]

def union (fs : List SensorField) : UInt16 := fs.foldr (fun f b => f.bit ||| b) 0

theorem foldl_filter (m : FieldMask) (fs : List SensorField) (b : UInt16) :
    (fs.filter m.has).foldl (fun b f => b ||| f.bit) b = b ||| (m.bits &&& union fs) := by
  induction fs generalizing b with
  | nil => simp [union]
  | cons f fs ih =>
    have both : m.bits &&& union (f :: fs) = (if m.has f then f.bit else 0) ||| (m.bits &&& union fs) := by
      rw [← and_bit, ← and_or_distrib]
      rfl
    rw [both, List.filter_cons]
    split
    · rw [List.foldl_cons, ih, UInt16.or_assoc]
    · rw [ih, UInt16.zero_or]

theorem foldlM_names (fs : List SensorField) (m : FieldMask) :
    (fs.map fun f => f.name.toList).foldlM
        (fun m part => do return FieldMask.mk (m.bits ||| (← ofPart? part).bits)) m =
      some ⟨fs.foldl (fun b f => b ||| f.bit) m.bits⟩ := by
  induction fs generalizing m with
  | nil => rfl
  | cons f fs ih =>
    rw [List.map_cons, List.foldlM_cons, ofPart?_name]
    exact ih _

theorem bits_eq (m : FieldMask) :
    m.fields.foldl (fun b f => b ||| f.bit) 0 ||| m.undefinedBits = m.bits := by
  rw [fields, foldl_filter, UInt16.zero_or, undefinedBits, ← and_or_distrib]
  have all : union SensorField.all ||| 0xFF80 = -1 := by decide
  rw [all, UInt16.and_neg_one]

def parts (m : FieldMask) : List (List Char) :=
  m.fields.map (fun f => f.name.toList) ++
    if m.undefinedBits = 0 then [] else [(Hex.text m.undefinedBits.toNat).toList]

theorem text_eq (m : FieldMask) : m.text = String.ofList (joined m.parts) := by
  rw [← String.toList_inj, String.toList_ofList, text, String.toList_intercalate, joined, parts,
    List.map_append, List.map_map]
  congr 2
  split <;> rfl

theorem isPart_of_mem (m : FieldMask) : ∀ w ∈ m.parts, IsPart w := by
  intro w listed
  obtain name | number := List.mem_append.1 listed
  · obtain ⟨f, -, rfl⟩ := List.mem_map.1 name
    exact isPart_name f
  · split at number
    · cases number
    · rw [List.mem_singleton.1 number]
      exact isPart_number _

theorem foldlM_parts (m : FieldMask) :
    m.parts.foldlM (fun m part => do return FieldMask.mk (m.bits ||| (← ofPart? part).bits)) empty =
      some m := by
  have whole := m.bits_eq
  rw [parts, List.foldlM_append, foldlM_names]
  split
  · rename_i none
    rw [none, UInt16.or_zero] at whole
    exact congrArg (fun b => some (FieldMask.mk b)) whole
  · rw [Option.bind_eq_bind, Option.bind_some, List.foldlM_cons, ofPart?_number]
    exact congrArg (fun b => some (FieldMask.mk b)) whole

theorem ofText?_text (m : FieldMask) : ofText? m.text = some m := by
  rw [text_eq]
  by_cases none : m.parts = []
  · have same := m.foldlM_parts
    rw [none] at same ⊢
    exact same
  · rw [ofText?_joined none m.isPart_of_mem, foldlM_parts]

end FieldMask

end CollectorGateway
