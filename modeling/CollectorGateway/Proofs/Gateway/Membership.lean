import CollectorGateway.Proofs.Gateway.Identity
import CollectorGateway.Proofs.Gateway.Incidents
import Mathlib.Data.List.DropRight

/-!
Who is in the roster. The identities are those of the last list of all devices,
in its order, and then those that joined since and were not in it, each where it
joined first. Between two such lists every device keeps its place. A device has
the addresses of its record unless it joined again, and it is inactive exactly
if the last thing that befell it was its silence.
-/

namespace CollectorGateway

def Incident.joining? : Incident → Option (UInt16 × Capability)
  | .joined short capability => some (short, capability)
  | _ => none

namespace Life

theorem joining_device (l : Life) :
    (l.device.shortAddress, l.device.capability) =
      (l.last? Incident.joining?).getD (l.record.shortAddress, l.record.capability) := by
  have last : some (l.device.shortAddress, l.device.capability) =
      (l.last? Incident.joining?).or (some (l.record.shortAddress, l.record.capability)) :=
    l.value_device (fun d => some (d.shortAddress, d.capability)) Incident.joining?
      fun d x => by cases x <;> rfl
  cases joined : l.last? Incident.joining? with
  | none => simpa [joined] using last
  | some pair => simpa [joined] using last

theorem status_device (l : Life) :
    l.device.status = .inactive ↔ l.incidents.getLast? = some .silenced := by
  obtain ⟨record, incidents⟩ := l
  induction incidents using List.reverseRecOn with
  | nil => simp [device, Device.ofEntry, Device.fresh]
  | append_singleton incidents x ih =>
    simp only [device, List.foldl_append, List.foldl_cons, List.foldl_nil, List.getLast?_concat,
      Option.some.injEq]
    cases x <;> simp [Device.meet, Device.rejoin, Device.applyReport, Device.applyConfig,
      Device.deactivate]

end Life

namespace Gateway

def listed (inputs : List Input) : List UInt64 :=
  ((lastSnapshot? inputs).getD []).map (·.extAddress)

/-- The identities of the devices that joined since that list, in order. -/
def joinedSince (inputs : List Input) : List UInt64 :=
  ((inputs.rtakeWhile fun i => i.snapshot?.isNone).filterMap Input.newcomer?).map (·.extAddress)

theorem creation?_of_unlisted {g : Gateway} {i : Input} {k : Nat} (unlisted : i.snapshot? = none) :
    g.creation? i k = i.newcomer?.bind fun e =>
      if e.extAddress ∉ g.roster.extAddresses ∧ g.roster.size = k then some e else none := by
  ext e
  rw [creation?_eq_some_iff, unlisted]
  cases i.newcomer? with
  | none => simp
  | some e' =>
    simp only [Option.bind_some, Option.ite_none_right_eq_some, Option.some.injEq]
    grind

theorem extAddresses_handle {g : Gateway} {i : Input} (unlisted : i.snapshot? = none) :
    (g.handle i).gateway.roster.extAddresses = g.roster.extAddresses ++
      (i.newcomer?.toList.map (·.extAddress)).filter (· ∉ g.roster.extAddresses) := by
  -- Place by place: no device changes its identity, and only a newcomer takes a new place.
  refine List.ext_getElem? fun k => ?_
  have kept : ((g.roster.get? k).map fun d => (g.incidentAt? i k).elim d d.meet).map
      (·.extAddress) = g.roster.extAddresses[k]? := by
    rw [Roster.getElem?_extAddresses, Option.map_map]
    congr 1
    funext d
    cases g.incidentAt? i k <;> simp
  have step : (g.handle i).gateway.roster.extAddresses[k]? =
      g.roster.extAddresses[k]?.or ((g.creation? i k).map (·.extAddress)) := by
    rw [Roster.getElem?_extAddresses, get?_handle unlisted, Option.map_or, kept, Option.map_map]
    rfl
  rw [step, creation?_of_unlisted unlisted]
  cases i.newcomer? with
  | none => simp
  | some e =>
    by_cases known : e.extAddress ∈ g.roster.extAddresses
    · simp [known]
    · have long : g.roster.extAddresses.length = g.roster.size := List.length_map _
      have new : ([e].map (·.extAddress)).filter (· ∉ g.roster.extAddresses) = [e.extAddress] := by
        simp [known]
      rw [Option.toList_some, new, getElem?_concat, long, Option.bind_some]
      simp only [known, not_false_eq_true, true_and]
      split <;> rfl

theorem extAddresses_after (inputs : List Input) :
    (empty.after inputs).roster.extAddresses =
      listed inputs ++ ((joinedSince inputs).filter (· ∉ listed inputs)).eraseDups := by
  induction inputs using List.reverseRecOn with
  | nil => rfl
  | append_singleton inputs i ih =>
    rw [after_append]
    simp only [after]
    cases lists : i.snapshot? with
    | some entries =>
      have moved := moves_handle (empty.after inputs) i
      rw [lists] at moved
      rw [moved.roster_eq, Roster.extAddresses_ofEntries]
      simp [listed, joinedSince, lastSnapshot?_concat, lists]
    | none =>
      have same : listed (inputs ++ [i]) = listed inputs := by
        simp [listed, lastSnapshot?_concat, lists]
      have joined : joinedSince (inputs ++ [i]) =
          joinedSince inputs ++ i.newcomer?.toList.map (·.extAddress) := by
        cases new : i.newcomer? <;> simp [joinedSince, lists, new]
      rw [extAddresses_handle lists, ih, same, joined, List.filter_append, List.eraseDups_append,
        List.append_assoc]
      congr 2
      cases i.newcomer? with
      | none => rfl
      | some e =>
        by_cases first : e.extAddress ∈ listed inputs
        · simp [first, List.removeAll]
        · by_cases again : e.extAddress ∈ joinedSince inputs
          · simp [first, again, List.removeAll]
          · simp [first, again, List.removeAll, List.eraseDups_cons]

theorem devices_handle_joining (g : Gateway) {i : Input} {e : RosterEntry}
    (joined : i.newcomer? = some e) :
    (∃ front d back, g.roster.devices = front ++ d :: back ∧ d.extAddress = e.extAddress ∧
      (∀ x ∈ front, x.extAddress ≠ e.extAddress) ∧
      (g.handle i).gateway.roster.devices =
        front ++ d.rejoin e.shortAddress e.capability :: back) ∨
    (e.extAddress ∉ g.roster.extAddresses ∧
      (g.handle i).gateway.roster.devices = g.roster.devices ++ [.ofEntry e]) := by
  obtain ⟨m, read, told⟩ := Option.bind_eq_some_iff.1 joined
  obtain ⟨unread, -⟩ | ⟨c, m', read', taken⟩ := g.handle_cases i
  · rw [unread] at read
    contradiction
  · obtain rfl : m = m' := Option.some.inj (read.symm.trans read')
    cases m with
    | joined short ext capability =>
      cases told
      have result : (g.handle i).gateway.roster = (g.roster.join short ext capability).1 := by
        rw [taken]
        rfl
      obtain ⟨front, d, back, split, same, before, h⟩ | ⟨new, h⟩ :=
        g.roster.join_cases short ext capability
      · exact .inl ⟨front, d, back, split, same, before, by rw [result, h]⟩
      · exact .inr ⟨new, by rw [result, h]; rfl⟩
    | _ => simp [Message.newcomer?] at told

/-- The identities are those of the last list of all devices and then those that joined since,
each once; addresses, capabilities and status are those that the device's life brought, and
without a new list every place keeps its device. -/
theorem roster_of_history (inputs : List Input) :
    let r := (empty.after inputs).roster
    r.extAddresses =
      listed inputs ++ ((joinedSince inputs).filter (· ∉ listed inputs)).eraseDups ∧
    (∀ k d, r.get? k = some d → ∃ l, HasLived inputs k l) ∧
    (∀ k l, HasLived inputs k l → ∃ d, r.get? k = some d ∧
      d.extAddress = l.record.extAddress ∧
      (d.shortAddress, d.capability) =
        (l.last? Incident.joining?).getD (l.record.shortAddress, l.record.capability) ∧
      (d.status = .inactive ↔ l.incidents.getLast? = some .silenced)) ∧
    (∀ i k x, (empty.after inputs).incidentAt? i k = some x ↔
      ∃ f, i = .frame f ∧ (empty.after inputs).Brings f k x) ∧
    (∀ i e, Input.newcomer? i = some e →
      (∃ front d back, r.devices = front ++ d :: back ∧ d.extAddress = e.extAddress ∧
        (∀ x ∈ front, x.extAddress ≠ e.extAddress) ∧
        (empty.after (inputs ++ [i])).roster.devices =
          front ++ d.rejoin e.shortAddress e.capability :: back) ∨
      (e.extAddress ∉ r.extAddresses ∧
        (empty.after (inputs ++ [i])).roster.devices = r.devices ++ [.ofEntry e])) ∧
    (∀ later, (∀ i ∈ later, Input.snapshot? i = none) → ∀ k d, r.get? k = some d →
      ∃ d', (empty.after (inputs ++ later)).roster.get? k = some d' ∧
        d'.extAddress = d.extAddress) ∧
    (∀ i entries, Input.snapshot? i = some entries ↔ ∃ f status count bss tail,
      i = .frame f ∧ f.command = Command.getDeviceArrayCnf.code ∧
      entries.length = UInt16.toNat count ∧ List.Forall₂ RosterEntry.SpelledBy entries bss ∧
      f.payload = [status] ++ LittleEndian.u16 count ++ bss.flatten ++ tail) ∧
    ∀ i e, Input.newcomer? i = some e ↔ ∃ f bs tail, i = .frame f ∧
      f.command = Command.deviceJoinedInd.code ∧ e.SpelledBy bs ∧ f.payload = bs ++ tail := by
  intro r
  refine ⟨extAddresses_after inputs, fun k d => exists_hasLived, fun k l lived => ?_,
    fun i k x => incidentAt?_eq_some_iff_brings, fun i e joined => ?_,
    fun later unlisted k d present => ?_, fun i entries => Input.snapshot?_eq_some_iff,
    fun i e => Input.newcomer?_eq_some_iff⟩
  · exact ⟨l.device, lived.get?, l.extAddress_device, l.joining_device, l.status_device⟩
  · rw [after_append]
    exact devices_handle_joining _ joined
  · have stays := get?_after present unlisted
    rw [after_append]
    exact ⟨_, stays, Device.extAddress_foldl_meet d _⟩

def pairListing : Frame :=
  ⟨rpcSubsystem, Command.getDeviceArrayCnf.code,
    [0, 2, 0] ++ deviceRecord 2 0x22 ++ deviceRecord 3 0x33, by decide⟩

def silenceOfThree : Frame :=
  ⟨rpcSubsystem, Command.deviceNotActiveUpdateInd.code,
    [0xdc, 0xac, 3, 0, 0, 0, 0, 0, 0, 0, 0, 0, 10], by decide⟩

/-- A device joins and is forgotten with the list, joins again behind it, a listed
device comes back under a new short address and another falls silent. -/
def comingsAndGoings : List Input :=
  [joining 1 0x11, pairListing, joining 1 0x11, joining 5 0x22, silenceOfThree].map .frame

theorem comingsAndGoings_give_roster :
    (empty.after comingsAndGoings).roster.extAddresses =
      [0x2222334455667788, 0x3322334455667788, 0x1122334455667788] ∧
    (∃ d, (empty.after comingsAndGoings).roster.get? 0 = some d ∧ d.shortAddress = 5 ∧
      ∃ d', (empty.after (comingsAndGoings ++ [.frame (joining 3 0x11)])).roster.get? 0 = some d' ∧
        d'.extAddress = d.extAddress) ∧
    ∃ d, (empty.after comingsAndGoings).roster.get? 1 = some d ∧ d.status = .inactive := by
  let plain : Capability := ⟨false, false, false, false, false, false⟩
  have returned : HasLived comingsAndGoings 0
      ⟨⟨2, 0x2222334455667788, plain⟩, [.joined 5 plain]⟩ :=
    ⟨[.frame (joining 1 0x11)], .frame pairListing,
      [joining 1 0x11, joining 5 0x22, silenceOfThree].map .frame, rfl, by decide +kernel,
      by decide +kernel, by decide +kernel⟩
  have silenced : HasLived comingsAndGoings 1 ⟨⟨3, 0x3322334455667788, plain⟩, [.silenced]⟩ :=
    ⟨[.frame (joining 1 0x11)], .frame pairListing,
      [joining 1 0x11, joining 5 0x22, silenceOfThree].map .frame, rfl, by decide +kernel,
      by decide +kernel, by decide +kernel⟩
  obtain ⟨identities, -, fates, -, -, stays, -⟩ := roster_of_history comingsAndGoings
  obtain ⟨d, present, -, addresses, -⟩ := fates 0 _ returned
  obtain ⟨d', present', -, -, status⟩ := fates 1 _ silenced
  have short : d.shortAddress = 5 := congrArg Prod.fst addresses
  have later := stays [.frame (joining 3 0x11)] (by decide +kernel) 0 d present
  rw [identities]
  exact ⟨by decide +kernel, ⟨d, present, short, later⟩, d', present', status.2 rfl⟩

end Gateway

end CollectorGateway
