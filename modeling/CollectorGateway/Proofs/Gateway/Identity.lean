import CollectorGateway.Proofs.Gateway.Steps
import Mathlib.Data.List.Induction
import Mathlib.Data.List.Nodup

/-!
The extended address as a device's identity. A join never adds a second device
of one identity and nothing else but a list of all devices adds any, so after
any inputs the devices are distinct exactly if the last such list was: it is
taken over unchecked, and one that names a device twice makes two of it.
-/

namespace CollectorGateway.Gateway

def lastSnapshot? (inputs : List Input) : Option (List RosterEntry) :=
  (inputs.filterMap Input.snapshot?).getLast?

theorem lastSnapshot?_concat (inputs : List Input) (i : Input) :
    lastSnapshot? (inputs ++ [i]) = i.snapshot?.or (lastSnapshot? inputs) := by
  rw [lastSnapshot?, List.filterMap_append, List.getLast?_append]
  cases h : i.snapshot? <;> simp [h, lastSnapshot?]

def Input.ListsDistinct (i : Input) : Prop :=
  ∀ entries ∈ i.snapshot?, (entries.map (·.extAddress)).Nodup

instance (i : Input) : Decidable i.ListsDistinct :=
  inferInstanceAs (Decidable (∀ entries ∈ i.snapshot?, _))

theorem Moves.isDistinct_iff {g g' : Gateway} {listed : Option (List RosterEntry)}
    {events : List Event} (h : Moves g listed g' events) :
    g'.roster.IsDistinct ↔
      (listed.map fun entries => (entries.map (·.extAddress)).Nodup).getD g.roster.IsDistinct := by
  cases h with
  | silent | permit | tellNetwork | tellRoster | network => rfl
  | snapshot entries => simp [Roster.IsDistinct, Roster.extAddresses_ofEntries]
  | update front back d d' split same =>
    have hr : g.roster = ⟨front ++ d :: back⟩ := by rw [← split]
    rw [Roster.IsDistinct, Roster.extAddresses_replaced front back same, ← hr]
    rfl
  | join d new =>
    simp only [Roster.IsDistinct, Roster.extAddresses_added, List.nodup_append,
      List.nodup_singleton, List.mem_singleton, true_and, Option.map_none, Option.getD_none,
      and_iff_left_iff_imp]
    rintro - ext hext - rfl rfl
    exact new hext

theorem isDistinct_handle {g : Gateway} {i : Input} (distinct : g.roster.IsDistinct)
    (listed : i.ListsDistinct) : (g.handle i).gateway.roster.IsDistinct := by
  rw [(moves_handle g i).isDistinct_iff]
  cases h : i.snapshot? with
  | none => exact distinct
  | some entries => exact listed entries h

/-- The devices are distinct exactly if the last list of all devices names none
twice. -/
theorem isDistinct_after_iff (inputs : List Input) :
    (empty.after inputs).roster.IsDistinct ↔
      ∀ entries ∈ lastSnapshot? inputs, (entries.map (·.extAddress)).Nodup := by
  induction inputs using List.reverseRecOn with
  | nil => simp [after, empty, lastSnapshot?, Roster.IsDistinct, Roster.extAddresses, Roster.empty]
  | append_singleton inputs i ih =>
    have step := (moves_handle (empty.after inputs) i).isDistinct_iff
    rw [after_append, lastSnapshot?_concat]
    simp only [after]
    rw [step, ih]
    cases i.snapshot? <;> simp

def repeatedListing : Frame :=
  ⟨rpcSubsystem, Command.getDeviceArrayCnf.code,
    [0, 2, 0] ++ deviceRecord 1 0x11 ++ deviceRecord 1 0x11, by decide⟩

theorem repeated_device_after_listing :
    ¬ (empty.after [.frame repeatedListing]).roster.IsDistinct := by
  decide +kernel

end CollectorGateway.Gateway
