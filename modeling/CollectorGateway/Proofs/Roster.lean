import CollectorGateway.Device.Roster

/-!
The roster as a list of identities. A lookup splits the roster at the first
device that answers; changing that device keeps all others and their places. No
change of a device changes its extended address, and joining adds an address
only if it is not there, so of all operations only a snapshot can make two
devices of one identity.
-/

namespace CollectorGateway

namespace Device

@[simp] theorem extAddress_fresh (short : UInt16) (ext : UInt64) (capability : Capability) :
    (fresh short ext capability).extAddress = ext := rfl

@[simp] theorem extAddress_rejoin (d : Device) (short : UInt16) (capability : Capability) :
    (d.rejoin short capability).extAddress = d.extAddress := rfl

@[simp] theorem extAddress_deactivate (d : Device) : d.deactivate.extAddress = d.extAddress := rfl

@[simp] theorem extAddress_applyReport (d : Device) (rssi : Int8) (r : SensorReport) :
    (d.applyReport rssi r).extAddress = d.extAddress := rfl

@[simp] theorem extAddress_applyConfig (d : Device) (fields : FieldMask)
    (reporting polling : UInt32) :
    (d.applyConfig fields reporting polling).extAddress = d.extAddress := rfl

theorem answersTo_extended {d : Device} {ext : UInt64} :
    d.answersTo (.extended ext) = true ↔ d.extAddress = ext := by
  simp [answersTo]

end Device

namespace Roster

theorem split_of_find? {r : Roster} {a : Address} {i : Nat} (h : r.find? a = some i) :
    ∃ before d after, r.devices = before ++ d :: after ∧ before.length = i ∧
      d.answersTo a = true ∧ ∀ e ∈ before, e.answersTo a = false := by
  obtain ⟨hi, hd, hbefore⟩ := List.findIdx?_eq_some_iff_getElem.1 h
  refine ⟨r.devices.take i, r.devices[i], r.devices.drop (i + 1), ?_, ?_, hd, ?_⟩
  · rw [List.getElem_cons_drop, List.take_append_drop]
  · rw [List.length_take]
    omega
  · intro e he
    obtain ⟨j, hj, rfl⟩ := List.getElem_of_mem he
    rw [List.length_take] at hj
    simpa [List.getElem_take] using hbefore j (by omega)

theorem find?_eq_none_iff {r : Roster} {a : Address} :
    r.find? a = none ↔ ∀ e ∈ r.devices, e.answersTo a = false := by
  simp [find?, List.findIdx?_eq_none_iff]

theorem modify_split (before after : List Device) (d : Device) (f : Device → Device) :
    (⟨before ++ d :: after⟩ : Roster).modify before.length f = ⟨before ++ f d :: after⟩ := by
  induction before with
  | nil => rfl
  | cons e before ih =>
    simp only [modify, Roster.mk.injEq, List.cons_append, List.length_cons,
      List.modify_succ_cons, List.cons.injEq, true_and] at ih ⊢
    exact ih

theorem get?_split (before after : List Device) (d : Device) :
    (⟨before ++ d :: after⟩ : Roster).get? before.length = some d := by
  simp [get?]

def extAddresses (r : Roster) : List UInt64 := r.devices.map (·.extAddress)

def IsDistinct (r : Roster) : Prop := r.extAddresses.Nodup

instance (r : Roster) : Decidable r.IsDistinct := inferInstanceAs (Decidable (List.Nodup _))

theorem extended_not_found_iff {r : Roster} {ext : UInt64} :
    r.find? (.extended ext) = none ↔ ext ∉ r.extAddresses := by
  simp [find?_eq_none_iff, extAddresses, Device.answersTo]

/-- A joining device is the first of its identity, or new at the end. -/
theorem join_cases (r : Roster) (short : UInt16) (ext : UInt64) (capability : Capability) :
    (∃ front d back, r.devices = front ++ d :: back ∧ d.extAddress = ext ∧
      (∀ e ∈ front, e.extAddress ≠ ext) ∧ r.join short ext capability =
        (⟨front ++ d.rejoin short capability :: back⟩, front.length, .updated)) ∨
    (ext ∉ r.extAddresses ∧ r.join short ext capability =
      (⟨r.devices ++ [.fresh short ext capability]⟩, r.devices.length, .created)) := by
  cases hi : r.find? (.extended ext) with
  | none => exact .inr ⟨extended_not_found_iff.1 hi, by rw [join, hi, size]⟩
  | some i =>
    obtain ⟨front, d, back, hsplit, rfl, hd, hfront⟩ := split_of_find? hi
    have hr : r = ⟨front ++ d :: back⟩ := by rw [← hsplit]
    refine .inl ⟨front, d, back, hsplit, Device.answersTo_extended.1 hd, ?_, ?_⟩
    · intro e he
      simpa [Device.answersTo] using hfront e he
    · rw [join, hi, hr]
      simp only [modify_split]

theorem extAddresses_ofEntries (entries : List RosterEntry) :
    (ofEntries entries).extAddresses = entries.map (·.extAddress) := by
  simp [extAddresses, ofEntries, Function.comp_def]

theorem extAddresses_replaced (before after : List Device) {d d' : Device}
    (same : d'.extAddress = d.extAddress) :
    extAddresses ⟨before ++ d' :: after⟩ = extAddresses ⟨before ++ d :: after⟩ := by
  simp [extAddresses, same]

theorem extAddresses_added (devices : List Device) (d : Device) :
    extAddresses ⟨devices ++ [d]⟩ = extAddresses ⟨devices⟩ ++ [d.extAddress] := by
  simp [extAddresses]

end Roster

end CollectorGateway
