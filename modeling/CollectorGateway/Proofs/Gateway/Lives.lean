import CollectorGateway.Proofs.Gateway.Drops
import Mathlib.Data.List.Induction

/-!
The life of a roster entry. An entry is made of a record that a list of all
devices or a joining device brought, and from then on a message changes it only
if the device it is about is found at the entry's place. So what stands at a
place is always the device of the record after all that befell it since, in
order; the next list of all devices ends the lives of all.
-/

namespace CollectorGateway

theorem getElem?_concat {α : Type} (xs : List α) (x : α) (k : Nat) :
    (xs ++ [x])[k]? = xs[k]?.or (if xs.length = k then some x else none) := by
  rw [List.getElem?_append]
  by_cases inside : k < xs.length
  · rw [if_pos inside, List.getElem?_eq_getElem inside, Option.some_or]
  · have outside : xs[k]? = none := List.getElem?_eq_none (Nat.le_of_not_lt inside)
    rw [if_neg inside, outside, Option.none_or, List.getElem?_singleton]
    congr 1
    simp only [eq_iff_iff]
    omega

/-- What can befall a device of the roster. -/
inductive Incident where
  | joined (short : UInt16) (capability : Capability)
  | reported (rssi : Int8) (report : SensorReport)
  | configured (rssi : Int8) (fields : FieldMask) (reporting polling : UInt32)
  | silenced
  deriving DecidableEq, Repr

namespace Device

def ofEntry (e : RosterEntry) : Device := .fresh e.shortAddress e.extAddress e.capability

def meet (d : Device) : Incident → Device
  | .joined short capability => d.rejoin short capability
  | .reported rssi report => d.applyReport rssi report
  | .configured _ fields reporting polling => d.applyConfig fields reporting polling
  | .silenced => d.deactivate

def encounters (d : Device) : List Incident → List (Device × Incident)
  | [] => []
  | x :: rest => (d, x) :: (d.meet x).encounters rest

theorem map_snd_encounters (d : Device) (xs : List Incident) :
    (d.encounters xs).map Prod.snd = xs := by
  induction xs generalizing d with
  | nil => rfl
  | cons x rest ih => rw [encounters, List.map_cons, ih]

@[simp] theorem extAddress_meet (d : Device) (x : Incident) :
    (d.meet x).extAddress = d.extAddress := by
  cases x <;> rfl

theorem extAddress_foldl_meet (d : Device) (xs : List Incident) :
    (xs.foldl meet d).extAddress = d.extAddress := by
  induction xs generalizing d with
  | nil => rfl
  | cons x rest ih => rw [List.foldl_cons, ih, extAddress_meet]

theorem foldl_meet_eq_last {α : Type} (value : Device → Option α)
    (brings : Device → Incident → Option α)
    (step : ∀ d x, value (d.meet x) = (brings d x).or (value d)) (d : Device)
    (xs : List Incident) :
    value (xs.foldl meet d) =
      ((d.encounters xs).filterMap fun e => brings e.1 e.2).getLast?.or (value d) := by
  induction xs generalizing d with
  | nil => rfl
  | cons x rest ih =>
    rw [List.foldl_cons, ih, step, encounters, List.filterMap_cons]
    cases brings d x with
    | none => rfl
    | some v =>
      simp only [Option.some_or, List.getLast?_cons]
      cases List.getLast? _ <;> rfl

end Device

namespace Message

/-- The device that a message is about, and what befalls it. A configuration that
the device rejected is nothing to it. -/
def incident? : Message → Option (Address × Incident)
  | .joined short ext capability => some (.extended ext, .joined short capability)
  | .inactive short _ => some (.short short, .silenced)
  | .fromSensor a rssi (.data report _) => some (a, .reported rssi report)
  | .fromSensor a rssi (.config status fields reporting polling) =>
    if status = 0 then some (a, .configured rssi fields reporting polling) else none
  | _ => none

def newcomer? : Message → Option RosterEntry
  | .joined short ext capability => some ⟨short, ext, capability⟩
  | _ => none

end Message

namespace Roster

def update (r : Roster) (a : Address) (f : Device → Device) : Roster :=
  match r.find? a with
  | some i => r.modify i f
  | none => r

def incidentAt? (r : Roster) (m : Message) (k : Nat) : Option Incident :=
  m.incident?.bind fun (a, x) => if r.find? a = some k then some x else none

def creation? (r : Roster) (m : Message) (k : Nat) : Option RosterEntry :=
  match m.snapshot? with
  | some entries => entries[k]?
  | none => m.newcomer?.bind fun e =>
    if r.find? (.extended e.extAddress) = none ∧ r.size = k then some e else none

theorem get?_modify (r : Roster) (i : Nat) (f : Device → Device) (k : Nat) :
    (r.modify i f).get? k = (r.get? k).map fun d => if i = k then f d else d :=
  List.getElem?_modify f i r.devices k

theorem get?_update (r : Roster) (a : Address) (f : Device → Device) (k : Nat) :
    (r.update a f).get? k = (r.get? k).map fun d => if r.find? a = some k then f d else d := by
  unfold update
  split
  · rename_i i found
    simp only [get?_modify, found, Option.some.injEq]
  · rename_i missing
    simp [missing]

theorem get?_ofEntries (entries : List RosterEntry) (k : Nat) :
    (ofEntries entries).get? k = entries[k]?.map Device.ofEntry :=
  List.getElem?_map ..

theorem getElem?_extAddresses (r : Roster) (k : Nat) :
    r.extAddresses[k]? = (r.get? k).map (·.extAddress) :=
  List.getElem?_map ..

theorem get?_append (r : Roster) (d : Device) (k : Nat) :
    (⟨r.devices ++ [d]⟩ : Roster).get? k = (r.get? k).or (if r.size = k then some d else none) :=
  getElem?_concat r.devices d k

/-- What stands at a place after a message that lists no devices: the device that
stood there after what the message brings it, or the device the message makes. -/
def next? (r : Roster) (m : Message) (k : Nat) : Option Device :=
  ((r.get? k).map fun d => (r.incidentAt? m k).elim d d.meet).or
    ((r.creation? m k).map Device.ofEntry)

theorem get?_update_eq_next? (r : Roster) {m : Message} {a : Address} {x : Incident} {k : Nat}
    (about : m.incident? = some (a, x)) (unmade : r.creation? m k = none) :
    (r.update a (·.meet x)).get? k = r.next? m k := by
  have brought : r.incidentAt? m k = if r.find? a = some k then some x else none := by
    simp [incidentAt?, about]
  rw [get?_update, next?, brought, unmade, Option.map_none, Option.or_none]
  congr 1
  funext d
  split <;> rfl

theorem get?_eq_next? (r : Roster) {m : Message} {k : Nat} (about : m.incident? = none)
    (unmade : r.creation? m k = none) : r.get? k = r.next? m k := by
  rw [next?, incidentAt?, about, unmade]
  simp

theorem get?_join_eq_next? (r : Roster) (short : UInt16) (ext : UInt64) (capability : Capability)
    (k : Nat) :
    (r.join short ext capability).1.get? k = r.next? (.joined short ext capability) k := by
  cases found : r.find? (.extended ext) with
  | some i =>
    have joined : (r.join short ext capability).1 =
        r.update (.extended ext) (·.rejoin short capability) := by
      rw [join, update, found]
    have unmade : r.creation? (.joined short ext capability) k = none := by
      simp [creation?, Message.snapshot?, Message.newcomer?, found]
    rw [joined]
    exact r.get?_update_eq_next? (x := .joined short capability) rfl unmade
  | none =>
    have joined : (r.join short ext capability).1 =
        ⟨r.devices ++ [Device.fresh short ext capability]⟩ := by
      rw [join, found]
    have brought : r.incidentAt? (.joined short ext capability) k = none := by
      simp [incidentAt?, Message.incident?, found]
    have new : (r.creation? (.joined short ext capability) k).map Device.ofEntry =
        if r.size = k then some (Device.fresh short ext capability) else none := by
      simp only [creation?, Message.snapshot?, Message.newcomer?, found, Option.bind_some,
        true_and]
      split <;> rfl
    rw [joined, get?_append, next?, brought, new]
    simp

end Roster

namespace Gateway

theorem roster_updateDevice (g : Gateway) (a : Address) (before : List Effect)
    (f : Device → Device) :
    (g.updateDevice a before f).gateway.roster = g.roster.update a f := by
  unfold updateDevice Roster.update
  split
  · rename_i missing
    simp [missing, fail]
  · rename_i i found
    simp [found]

theorem roster_deactivateDevice (g : Gateway) (short : UInt16) (timeout : UInt8) :
    (g.deactivateDevice short timeout).gateway.roster =
      g.roster.update (.short short) Device.deactivate := by
  unfold deactivateDevice
  dsimp only
  split <;> exact g.roster_updateDevice (.short short) [] Device.deactivate

theorem roster_takeConfig (g : Gateway) (a : Address) (status : UInt16) (fields : FieldMask)
    (reporting polling : UInt32) :
    (g.takeConfig a status fields reporting polling).gateway.roster =
      if status = 0 then g.roster.update a (·.applyConfig fields reporting polling)
      else g.roster := by
  unfold takeConfig
  split
  · exact g.roster_updateDevice a [] _
  · have same : g.roster.update a id = g.roster := by
      unfold Roster.update
      split
      · simp [Roster.modify]
      · rfl
    dsimp only
    split <;> exact (g.roster_updateDevice a [] id).trans same

theorem get?_take (g : Gateway) (c : Command) {m : Message} (unlisted : m.snapshot? = none)
    (k : Nat) : (g.take c m).gateway.roster.get? k = g.roster.next? m k := by
  cases m with
  | roster status entries => simp [Message.snapshot?] at unlisted
  | joined short ext capability => exact g.roster.get?_join_eq_next? short ext capability k
  | inactive short timeout =>
    rw [take, roster_deactivateDevice]
    exact g.roster.get?_update_eq_next? (x := .silenced) rfl rfl
  | fromSensor a rssi s =>
    cases s with
    | data report trailing =>
      rw [take, takeReport, roster_updateDevice]
      exact g.roster.get?_update_eq_next? (x := .reported rssi report) rfl rfl
    | config status fields reporting polling =>
      rw [take, roster_takeConfig]
      by_cases accepted : status = 0
      · have about :
            (Message.fromSensor a rssi (.config status fields reporting polling)).incident? =
              some (a, .configured rssi fields reporting polling) := if_pos accepted
        rw [if_pos accepted]
        exact g.roster.get?_update_eq_next? about rfl
      · have about :
            (Message.fromSensor a rssi (.config status fields reporting polling)).incident? =
              none := if_neg accepted
        rw [if_neg accepted]
        exact g.roster.get?_eq_next? about rfl
    | other | unknown => exact g.roster.get?_eq_next? rfl rfl
  | networkAnswer status record =>
    simp only [take]
    split <;> exact g.roster.get?_eq_next? rfl rfl
  | stateChanged code =>
    simp only [take, changeState]
    split <;> exact g.roster.get?_eq_next? rfl rfl
  | _ => exact g.roster.get?_eq_next? rfl rfl

namespace Input

def message? : Input → Option Message
  | frame f => f.message?
  | request _ => none

def newcomer? (i : Input) : Option RosterEntry := i.message?.bind Message.newcomer?

theorem snapshot?_eq (i : Input) : i.snapshot? = i.message?.bind Message.snapshot? := by
  cases i <;> rfl

end Input

def incidentAt? (g : Gateway) (i : Input) (k : Nat) : Option Incident :=
  i.message?.bind fun m => g.roster.incidentAt? m k

def creation? (g : Gateway) (i : Input) (k : Nat) : Option RosterEntry :=
  i.message?.bind fun m => g.roster.creation? m k

def incidentsAt (g : Gateway) (k : Nat) (inputs : List Input) : List Incident :=
  (g.course inputs).filterMap fun turn => turn.1.incidentAt? turn.2 k

theorem handle_cases (g : Gateway) (i : Input) :
    (i.message? = none ∧ (g.handle i).gateway = g) ∨
    ∃ c m, i.message? = some m ∧ (g.handle i).gateway = (g.take c m).gateway := by
  cases i with
  | frame f =>
    obtain ⟨unread, same, -⟩ | ⟨c, m, -, read, taken, -⟩ := g.dispatch_cases f
    · exact .inl ⟨unread, same⟩
    · exact .inr ⟨c, m, read, taken⟩
  | request r => exact .inl ⟨rfl, g.gateway_answer r⟩

theorem Moves.roster_eq {g g' : Gateway} {entries : List RosterEntry} {events : List Event}
    (h : Moves g (some entries) g' events) : g'.roster = .ofEntries entries := by
  cases h
  rfl

theorem get?_handle_listing {g : Gateway} {i : Input} {entries : List RosterEntry}
    (listed : i.snapshot? = some entries) (k : Nat) :
    (g.handle i).gateway.roster.get? k = entries[k]?.map Device.ofEntry := by
  have moved := g.moves_handle i
  rw [listed] at moved
  rw [moved.roster_eq, Roster.get?_ofEntries]

/-- After any other input the device at a place is the one before it, after what
the input brought it, or one that the input made. -/
theorem get?_handle {g : Gateway} {i : Input} (unlisted : i.snapshot? = none) (k : Nat) :
    (g.handle i).gateway.roster.get? k =
      ((g.roster.get? k).map fun d => (g.incidentAt? i k).elim d d.meet).or
        ((g.creation? i k).map Device.ofEntry) := by
  obtain ⟨unread, same⟩ | ⟨c, m, read, taken⟩ := g.handle_cases i
  · rw [same, incidentAt?, creation?, unread]
    simp
  · rw [i.snapshot?_eq, read] at unlisted
    rw [taken, g.get?_take c unlisted, incidentAt?, creation?, read]
    rfl

theorem creation?_eq_some_iff {g : Gateway} {i : Input} {k : Nat} {e : RosterEntry} :
    g.creation? i k = some e ↔
      (∃ entries, i.snapshot? = some entries ∧ entries[k]? = some e) ∨
      (i.newcomer? = some e ∧ e.extAddress ∉ g.roster.extAddresses ∧ g.roster.size = k) := by
  rw [creation?, i.snapshot?_eq, Input.newcomer?]
  cases i.message? with
  | none => simp
  | some m =>
    cases m with
    | joined short ext capability =>
      simp only [Option.bind_some, Roster.creation?, Message.snapshot?, Message.newcomer?,
        Roster.extended_not_found_iff]
      grind
    | _ => simp [Roster.creation?, Message.snapshot?, Message.newcomer?]

theorem snapshot?_of_newcomer {i : Input} {e : RosterEntry} (new : i.newcomer? = some e) :
    i.snapshot? = none := by
  obtain ⟨m, read, joined⟩ := Option.bind_eq_some_iff.1 new
  rw [i.snapshot?_eq, read]
  cases m <;> simp [Message.newcomer?] at joined
  rfl

theorem get?_handle_of_creation {g : Gateway} {i : Input} {k : Nat} {e : RosterEntry}
    (made : g.creation? i k = some e) :
    (g.handle i).gateway.roster.get? k = some (.ofEntry e) := by
  obtain ⟨entries, listed, entry⟩ | ⟨new, -, last⟩ := creation?_eq_some_iff.1 made
  · rw [get?_handle_listing listed, entry, Option.map_some]
  · have vacant : g.roster.get? k = none := List.getElem?_eq_none (Nat.le_of_eq last)
    rw [get?_handle (snapshot?_of_newcomer new), vacant, made]
    rfl

theorem get?_after {g : Gateway} {k : Nat} {d : Device} (present : g.roster.get? k = some d)
    {inputs : List Input} (unlisted : ∀ i ∈ inputs, i.snapshot? = none) :
    (g.after inputs).roster.get? k = some ((g.incidentsAt k inputs).foldl Device.meet d) := by
  induction inputs generalizing g d with
  | nil => exact present
  | cons i rest ih =>
    have step := get?_handle (g := g) (unlisted i List.mem_cons_self) k
    rw [present, Option.map_some, Option.some_or] at step
    have later := ih step fun j hj => unlisted j (List.mem_cons_of_mem _ hj)
    rw [after, later, incidentsAt, incidentsAt, course, List.filterMap_cons]
    cases g.incidentAt? i k <;> rfl

theorem incidentsAt_concat (g : Gateway) (k : Nat) (inputs : List Input) (i : Input) :
    g.incidentsAt k (inputs ++ [i]) =
      g.incidentsAt k inputs ++ ((g.after inputs).incidentAt? i k).toList := by
  induction inputs generalizing g with
  | nil => cases h : g.incidentAt? i k <;> simp [incidentsAt, course, after, h]
  | cons j rest ih =>
    have later := ih (g.handle j).gateway
    simp only [incidentsAt] at later ⊢
    rw [List.cons_append, course, course, List.filterMap_cons, List.filterMap_cons, after]
    cases g.incidentAt? j k with
    | none => exact later
    | some x => exact congrArg (x :: ·) later

end Gateway

structure Life where
  record : RosterEntry
  incidents : List Incident
  deriving DecidableEq, Repr

namespace Life

def device (l : Life) : Device := l.incidents.foldl Device.meet (.ofEntry l.record)

def encounters (l : Life) : List (Device × Incident) :=
  (Device.ofEntry l.record).encounters l.incidents

def last? {α : Type} (l : Life) (brings : Incident → Option α) : Option α :=
  (l.incidents.filterMap brings).getLast?

theorem extAddress_device (l : Life) : l.device.extAddress = l.record.extAddress :=
  Device.extAddress_foldl_meet _ l.incidents

theorem value_device {α : Type} (l : Life) (value : Device → Option α)
    (brings : Incident → Option α)
    (step : ∀ d x, value (d.meet x) = (brings x).or (value d)) :
    value l.device = (l.last? brings).or (value (.ofEntry l.record)) := by
  have brought : l.encounters.filterMap (fun e => brings e.2) = l.incidents.filterMap brings := by
    rw [← Function.comp_def, ← List.filterMap_map, encounters, Device.map_snd_encounters]
  rw [device, Device.foldl_meet_eq_last value _ step, last?, ← brought, encounters]

end Life

namespace Gateway

/-- An input made the device at a place of the life's record, no list of all
devices came since, and the life's incidents are what the inputs since brought. -/
def HasLived (inputs : List Input) (k : Nat) (l : Life) : Prop :=
  ∃ before i later, inputs = before ++ i :: later ∧
    (empty.after before).creation? i k = some l.record ∧
    (∀ j ∈ later, j.snapshot? = none) ∧
    l.incidents = (empty.after (before ++ [i])).incidentsAt k later

theorem HasLived.get? {inputs : List Input} {k : Nat} {l : Life} (lived : HasLived inputs k l) :
    (empty.after inputs).roster.get? k = some l.device := by
  obtain ⟨before, i, later, rfl, made, unlisted, incidents⟩ := lived
  have first : (empty.after (before ++ [i])).roster.get? k = some (.ofEntry l.record) := by
    rw [after_append]
    exact get?_handle_of_creation made
  have whole : before ++ i :: later = (before ++ [i]) ++ later := by simp
  rw [whole, after_append, get?_after first unlisted, ← incidents, Life.device]

theorem HasLived.concat {inputs : List Input} {k : Nat} {l : Life} (lived : HasLived inputs k l)
    {i : Input} (unlisted : i.snapshot? = none) :
    HasLived (inputs ++ [i]) k
      ⟨l.record, l.incidents ++ ((empty.after inputs).incidentAt? i k).toList⟩ := by
  obtain ⟨before, j, later, rfl, made, quiet, incidents⟩ := lived
  refine ⟨before, j, later ++ [i], by simp, made, ?_, ?_⟩
  · intro x hx
    obtain hx | hx := List.mem_append.1 hx
    · exact quiet x hx
    · rwa [List.mem_singleton.1 hx]
  · have whole : before ++ j :: later = (before ++ [j]) ++ later := by simp
    rw [incidentsAt_concat, ← incidents, ← after_append, ← whole]

theorem hasLived_of_creation {inputs : List Input} {k : Nat} {i : Input} {e : RosterEntry}
    (made : (empty.after inputs).creation? i k = some e) : HasLived (inputs ++ [i]) k ⟨e, []⟩ :=
  ⟨inputs, i, [], rfl, made, by simp, rfl⟩

theorem exists_hasLived {inputs : List Input} {k : Nat} {d : Device}
    (present : (empty.after inputs).roster.get? k = some d) : ∃ l, HasLived inputs k l := by
  -- The last input made the device, or found it there and may have brought it something.
  induction inputs using List.reverseRecOn generalizing d with
  | nil => simp [after, empty, Roster.empty, Roster.get?] at present
  | append_singleton inputs i ih =>
    rw [after_append] at present
    simp only [after] at present
    cases listed : i.snapshot? with
    | some entries =>
      rw [get?_handle_listing listed] at present
      obtain ⟨e, entry, -⟩ := Option.map_eq_some_iff.1 present
      have made : (empty.after inputs).creation? i k = some e :=
        creation?_eq_some_iff.2 (.inl ⟨entries, listed, entry⟩)
      exact ⟨_, hasLived_of_creation made⟩
    | none =>
      cases old : (empty.after inputs).roster.get? k with
      | some d' =>
        obtain ⟨l, lived⟩ := ih old
        exact ⟨_, lived.concat listed⟩
      | none =>
        rw [get?_handle listed, old, Option.map_none, Option.none_or] at present
        obtain ⟨e, made, -⟩ := Option.map_eq_some_iff.1 present
        exact ⟨_, hasLived_of_creation made⟩

end Gateway

end CollectorGateway
