import CollectorGateway.Proofs.Gateway.Identity

/-!
A consumer's replica of the gateway's knowledge, kept by the published events
alone. One step is told by events that move the replica of the knowledge before
to that of the knowledge after, provided the devices are distinct: an update
names its device by identity. So a replica that begins with the gateway agrees
with it after every step, and one that begins later agrees once it was told the
devices and the network.
-/

namespace CollectorGateway

/-- What a consumer of events keeps. -/
structure Replica where
  devices : List Device
  network : Option Network
  deriving DecidableEq, Repr

namespace Replica

def empty : Replica := ⟨[], none⟩

def ofGateway (g : Gateway) : Replica := ⟨g.roster.devices, g.network⟩

def upsert (d : Device) : List Device → List Device
  | [] => [d]
  | e :: rest => if e.extAddress = d.extAddress then d :: rest else e :: upsert d rest

def take (r : Replica) : Event → Replica
  | .networkInfo network => { r with network }
  | .deviceArray devices => { r with devices }
  | .deviceUpdate d => { r with devices := upsert d r.devices }
  | .permitJoinConfirmation _ | .linkState _ => r

def follow (r : Replica) (events : List Event) : Replica := events.foldl take r

theorem follow_append (r : Replica) (a b : List Event) :
    r.follow (a ++ b) = (r.follow a).follow b := List.foldl_append

theorem upsert_append {d : Device} {front : List Device} (back : List Device)
    (other : ∀ e ∈ front, e.extAddress ≠ d.extAddress) :
    upsert d (front ++ back) = front ++ upsert d back := by
  induction front with
  | nil => rfl
  | cons e front ih =>
    have he := other e List.mem_cons_self
    have rest := ih fun e h => other e (List.mem_cons_of_mem _ h)
    rw [List.cons_append, upsert, if_neg he, rest, List.cons_append]

theorem upsert_cons_self {d e : Device} (rest : List Device) (same : e.extAddress = d.extAddress) :
    upsert d (e :: rest) = d :: rest := by
  rw [upsert, if_pos same]

theorem upsert_replaced {front back : List Device} {d d' : Device}
    (distinct : (⟨front ++ d :: back⟩ : Roster).IsDistinct)
    (same : d'.extAddress = d.extAddress) :
    upsert d' (front ++ d :: back) = front ++ d' :: back := by
  have other : ∀ e ∈ front, e.extAddress ≠ d'.extAddress := by
    intro e he
    rw [Roster.IsDistinct, Roster.extAddresses, List.map_append, List.nodup_append] at distinct
    rw [same]
    exact distinct.2.2 _ (List.mem_map_of_mem he) _ (by simp)
  rw [upsert_append _ other, upsert_cons_self _ same.symm]

theorem upsert_added {d : Device} {devices : List Device}
    (new : d.extAddress ∉ Roster.extAddresses ⟨devices⟩) :
    upsert d devices = devices ++ [d] := by
  have other : ∀ e ∈ devices, e.extAddress ≠ d.extAddress := fun e he heq =>
    new (List.mem_map.2 ⟨e, he, heq⟩)
  simpa [upsert] using upsert_append [] other

end Replica

namespace Gateway

open Replica (ofGateway)

/-- An event tells what the gateway now knows. -/
def Tells (g : Gateway) : Event → Prop
  | .networkInfo network => network = g.network
  | .deviceArray devices => devices = g.roster.devices
  | .deviceUpdate d => d ∈ g.roster.devices
  | .permitJoinConfirmation _ | .linkState _ => True

variable {g g' : Gateway} {listed : Option (List RosterEntry)} {events : List Event}

theorem Moves.tells (h : Moves g listed g' events) : ∀ e ∈ events, g'.Tells e := by
  cases h <;> simp [Tells]

theorem Moves.eq_of_unpublished (h : Moves g listed g' events) (silent : events = []) : g' = g := by
  cases h <;> first | rfl | simp at silent

theorem Moves.devices_follow (h : Moves g listed g' events) (distinct : g.roster.IsDistinct)
    {r : Replica} (agree : r.devices = g.roster.devices) :
    (r.follow events).devices = g'.roster.devices := by
  cases h with
  | silent | permit | tellNetwork | network => exact agree
  | tellRoster | snapshot => rfl
  | update front back d d' split same =>
    have hr : g.roster = ⟨front ++ d :: back⟩ := by rw [← split]
    rw [hr] at distinct
    simp only [Replica.follow, List.foldl_cons, List.foldl_nil, Replica.take, agree, split]
    exact Replica.upsert_replaced distinct same
  | join d new =>
    simp only [Replica.follow, List.foldl_cons, List.foldl_nil, Replica.take, agree]
    exact Replica.upsert_added new

theorem Moves.network_follow (h : Moves g listed g' events) {r : Replica}
    (agree : r.network = g.network) : (r.follow events).network = g'.network := by
  cases h with
  | silent | permit | tellRoster | snapshot | update | join => exact agree
  | tellNetwork | network => rfl

theorem isDistinct_after {inputs : List Input} (distinct : g.roster.IsDistinct)
    (listed : ∀ i ∈ inputs, i.ListsDistinct) : (g.after inputs).roster.IsDistinct := by
  induction inputs generalizing g with
  | nil => exact distinct
  | cons i rest ih =>
    exact ih (isDistinct_handle distinct (listed i List.mem_cons_self))
      fun j hj => listed j (List.mem_cons_of_mem _ hj)

theorem published_cons (g : Gateway) (i : Input) (rest : List Input) :
    g.published (i :: rest) = (g.handle i).events ++ (g.handle i).gateway.published rest := by
  simp [published, outcomes]

theorem devices_follow_published {inputs : List Input} (distinct : g.roster.IsDistinct)
    (listed : ∀ i ∈ inputs, i.ListsDistinct) {r : Replica}
    (agree : r.devices = g.roster.devices) :
    (r.follow (g.published inputs)).devices = (g.after inputs).roster.devices := by
  induction inputs generalizing g r with
  | nil => exact agree
  | cons i rest ih =>
    rw [published_cons, Replica.follow_append]
    exact ih (isDistinct_handle distinct (listed i List.mem_cons_self))
      (fun j hj => listed j (List.mem_cons_of_mem _ hj))
      ((moves_handle g i).devices_follow distinct agree)

theorem network_follow_published {inputs : List Input} {r : Replica}
    (agree : r.network = g.network) :
    (r.follow (g.published inputs)).network = (g.after inputs).network := by
  induction inputs generalizing g r with
  | nil => exact agree
  | cons i rest ih =>
    rw [published_cons, Replica.follow_append]
    exact ih ((moves_handle g i).network_follow agree)

theorem devices_follow_of_asked {inputs : List Input} (distinct : g.roster.IsDistinct)
    (listed : ∀ i ∈ inputs, i.ListsDistinct) (asked : .request .getDeviceArray ∈ inputs)
    (r : Replica) :
    (r.follow (g.published inputs)).devices = (g.after inputs).roster.devices := by
  obtain ⟨before, later, rfl⟩ := List.append_of_mem asked
  rw [published_append, after_append, Replica.follow_append, published_cons, Replica.follow_append]
  refine devices_follow_published ?_ (fun j hj => listed j (by simp [hj])) rfl
  exact isDistinct_handle (isDistinct_after distinct fun j hj => listed j (by simp [hj]))
    (listed _ asked)

theorem network_follow_of_asked {inputs : List Input}
    (asked : .request .getNetworkInfo ∈ inputs) (r : Replica) :
    (r.follow (g.published inputs)).network = (g.after inputs).network := by
  obtain ⟨before, later, rfl⟩ := List.append_of_mem asked
  rw [published_append, after_append, Replica.follow_append, published_cons, Replica.follow_append]
  exact network_follow_published rfl

theorem isDistinct_empty : empty.roster.IsDistinct := List.nodup_nil

/-- As long as no list names a device twice, a replica that follows from the beginning agrees
with the gateway after every input, and one that comes late as soon as both questions were
answered; nothing changes without an event, and no event is stale. -/
theorem replica_agrees (inputs : List Input) (listed : ∀ i ∈ inputs, i.ListsDistinct) :
    (∀ seen, seen <+: inputs →
      Replica.empty.follow (empty.published seen) = ofGateway (empty.after seen)) ∧
    (∀ before later, before ++ later <+: inputs →
      .request .getDeviceArray ∈ later → .request .getNetworkInfo ∈ later → ∀ r : Replica,
        r.follow ((empty.after before).published later) =
          ofGateway (empty.after (before ++ later))) ∧
    (∀ seen i, seen ++ [i] <+: inputs →
      (((empty.after seen).handle i).events = [] →
        empty.after (seen ++ [i]) = empty.after seen) ∧
      ∀ e ∈ ((empty.after seen).handle i).events, (empty.after (seen ++ [i])).Tells e) := by
  refine ⟨fun seen hseen => ?_, fun before later hseen devices network r => ?_, fun seen i _ => ?_⟩
  · have listed' : ∀ i ∈ seen, i.ListsDistinct := fun i hi => listed i (hseen.subset hi)
    rw [ofGateway, ← devices_follow_published isDistinct_empty listed' (r := .empty) rfl,
      ← network_follow_published (r := .empty) rfl]
  · have listed' : ∀ i ∈ before ++ later, i.ListsDistinct := fun i hi => listed i (hseen.subset hi)
    have distinct := isDistinct_after isDistinct_empty fun i hi =>
      listed' i (List.mem_append_left _ hi)
    rw [ofGateway, after_append, ← devices_follow_of_asked distinct
      (fun i hi => listed' i (List.mem_append_right _ hi)) devices r,
      ← network_follow_of_asked network r]
  · have moved := moves_handle (empty.after seen) i
    rw [after_append]
    exact ⟨moved.eq_of_unpublished, moved.tells⟩

/-- Two devices are listed, the first falls silent, a third joins, and a consumer
that came late asks for both. -/
def lateConsumer : List Input :=
  [.frame ⟨rpcSubsystem, Command.getDeviceArrayCnf.code,
      [0, 2, 0] ++ deviceRecord 1 0x11 ++ deviceRecord 2 0x22, by decide⟩,
    .frame ⟨rpcSubsystem, Command.deviceNotActiveUpdateInd.code, (deviceRecord 1 0x11).take 13,
      by decide⟩,
    .frame (joining 3 0x33),
    .request .getDeviceArray,
    .request .getNetworkInfo]

theorem late_consumer_agrees :
    (∀ i ∈ lateConsumer, i.ListsDistinct) ∧
    Replica.empty.follow (empty.published lateConsumer) = ofGateway (empty.after lateConsumer) ∧
    Replica.empty.follow ((empty.after (lateConsumer.take 3)).published (lateConsumer.drop 3)) =
      ofGateway (empty.after lateConsumer) ∧
    (empty.after lateConsumer).roster.devices.map Device.status = [.inactive, .active, .active] := by
  have listed : ∀ i ∈ lateConsumer, i.ListsDistinct := by decide +kernel
  obtain ⟨early, late, -⟩ := replica_agrees lateConsumer listed
  have whole : lateConsumer.take 3 ++ lateConsumer.drop 3 <+: lateConsumer := by
    simp only [List.take_append_drop, List.prefix_rfl]
  have agrees := late _ _ whole (by simp [lateConsumer]) (by simp [lateConsumer]) .empty
  rw [List.take_append_drop] at agrees
  exact ⟨listed, early _ List.prefix_rfl, agrees, by decide +kernel⟩

end Gateway

end CollectorGateway
