import CollectorGateway.Proofs.Gateway.Telemetry

/-!
Frames that come again. What a message makes of the knowledge it makes of it but once:
the device that it is about is found in the same place afterwards, and every change of a
device or of the network, made again, gives the same. So a frame taken in a second time
changes nothing more, and comes to what it came to the first time; only the notes can
differ, as one who joined first has then joined again.
-/

namespace CollectorGateway

/-- The outcomes differ at most in what is noted. -/
structure Outcome.Alike (o o' : Outcome) : Prop where
  gateway : o.gateway = o'.gateway
  reply : o.reply = o'.reply
  events : o.events = o'.events
  readings : o.readings = o'.readings
  fault : o.fault = o'.fault

namespace Outcome.Alike

variable {o o' o'' : Outcome}

protected theorem rfl : o.Alike o := ⟨rfl, rfl, rfl, rfl, rfl⟩

protected theorem symm (h : o.Alike o') : o'.Alike o :=
  ⟨h.gateway.symm, h.reply.symm, h.events.symm, h.readings.symm, h.fault.symm⟩

protected theorem trans (h : o.Alike o') (h' : o'.Alike o'') : o.Alike o'' :=
  ⟨h.gateway.trans h'.gateway, h.reply.trans h'.reply, h.events.trans h'.events,
    h.readings.trans h'.readings, h.fault.trans h'.fault⟩

theorem of_eq (h : o = o') : o.Alike o' := h ▸ .rfl

end Outcome.Alike

namespace Device

theorem answersTo_congr {d d' : Device} (short : d'.shortAddress = d.shortAddress)
    (ext : d'.extAddress = d.extAddress) (a : Address) : d'.answersTo a = d.answersTo a := by
  cases a <;> simp only [answersTo, short, ext]

theorem applyReport_again (d : Device) (rssi : Int8) (r : SensorReport) :
    (d.applyReport rssi r).applyReport rssi r = d.applyReport rssi r := by
  simp only [applyReport, ← Option.or_assoc, Option.or_self]

theorem applyConfig_again (d : Device) (fields : FieldMask) (reporting polling : UInt32) :
    (d.applyConfig fields reporting polling).applyConfig fields reporting polling =
      d.applyConfig fields reporting polling := by
  have restarted : ∀ {α : Type} (p : Prop) [Decidable p] (zero : α) (old : Option α),
      (if p then some zero else if p then some zero else old) = if p then some zero else old := by
    intro α p _ zero old
    split <;> rfl
  simp only [applyConfig, restarted]
  rfl

end Device

namespace Roster

variable {r : Roster} {a : Address} {i : Nat} {f : Device → Device}

theorem find?_modify (kept : ∀ d, (f d).answersTo a = d.answersTo a) :
    (r.modify i f).find? a = r.find? a := by
  obtain ⟨devices⟩ := r
  simp only [find?, modify]
  induction devices generalizing i with
  | nil => rw [List.modify_nil]
  | cons d rest ih =>
    cases i with
    | zero => simp only [List.modify_zero_cons, List.findIdx?_cons, kept]
    | succ i => simp only [List.modify_succ_cons, List.findIdx?_cons, ih]

theorem modify_modify (settled : ∀ d, f (f d) = f d) :
    (r.modify i f).modify i f = r.modify i f := by
  have once : f ∘ f = f := funext settled
  simp only [modify, List.modify_modify_eq, once]

theorem join_again (r : Roster) (short : UInt16) (ext : UInt64) (capability : Capability) :
    (r.join short ext capability).1.join short ext capability =
      ((r.join short ext capability).1, (r.join short ext capability).2.1, .updated) := by
  cases found : r.find? (.extended ext) with
  | some i =>
    let f : Device → Device := (·.rejoin short capability)
    have again : (r.modify i f).find? (.extended ext) = some i :=
      (find?_modify (f := f) fun _ => rfl).trans found
    have same : (r.modify i f).modify i f = r.modify i f := modify_modify (f := f) fun _ => rfl
    simp only [join, found, f, again, same]
  | none =>
    let d := Device.fresh short ext capability
    have again : (⟨r.devices ++ [d]⟩ : Roster).find? (.extended ext) = some r.size := by
      have before : r.devices.findIdx? (·.answersTo (.extended ext)) = none := found
      have answers : d.answersTo (.extended ext) = true := Device.answersTo_extended.2 rfl
      simp [find?, List.findIdx?_append, before, answers, size]
    have same : (⟨r.devices ++ [d]⟩ : Roster).modify r.size (·.rejoin short capability) =
        ⟨r.devices ++ [d]⟩ := modify_split r.devices [] d _
    simp only [join, found, again, d, same]

end Roster

namespace Gateway

theorem updateDevice_again (g : Gateway) (a : Address) (before : List Effect)
    {f : Device → Device} (settled : ∀ d, f (f d) = f d)
    (kept : ∀ d, (f d).answersTo a = d.answersTo a) :
    (g.updateDevice a before f).gateway.updateDevice a before f = g.updateDevice a before f := by
  cases found : g.roster.find? a with
  | none => simp only [updateDevice, found, fail]
  | some i =>
    have again : (g.roster.modify i f).find? a = some i := (Roster.find?_modify kept).trans found
    simp only [updateDevice, found, again, Roster.modify_modify settled]

theorem deactivateDevice_again (g : Gateway) (short : UInt16) (timeout : UInt8) :
    (g.deactivateDevice short timeout).gateway.deactivateDevice short timeout =
      g.deactivateDevice short timeout := by
  have gateway : (g.deactivateDevice short timeout).gateway =
      (g.updateDevice (.short short) [] Device.deactivate).gateway := by
    simp only [deactivateDevice]
    split <;> rfl
  have again := g.updateDevice_again (.short short) [] (f := Device.deactivate) (fun _ => rfl)
    fun _ => rfl
  rw [gateway]
  simp only [deactivateDevice, again]

theorem takeReport_again (g : Gateway) (a : Address) (rssi : Int8) (report : SensorReport)
    (trailing : Nat) :
    (g.takeReport a rssi report trailing).gateway.takeReport a rssi report trailing =
      g.takeReport a rssi report trailing :=
  g.updateDevice_again a _ (fun d => d.applyReport_again rssi report)
    fun _ => Device.answersTo_congr rfl rfl a

theorem takeConfig_again (g : Gateway) (a : Address) (status : UInt16) (fields : FieldMask)
    (reporting polling : UInt32) :
    (g.takeConfig a status fields reporting polling).gateway.takeConfig a status fields reporting
      polling = g.takeConfig a status fields reporting polling := by
  by_cases accepted : status = 0
  · have again := g.updateDevice_again a [] (f := (·.applyConfig fields reporting polling))
      (fun d => d.applyConfig_again fields reporting polling)
      fun _ => Device.answersTo_congr rfl rfl a
    simpa only [takeConfig, if_pos accepted] using again
  · have gateway : (g.takeConfig a status fields reporting polling).gateway =
        (g.updateDevice a [] id).gateway := by
      simp only [takeConfig, if_neg accepted]
      split <;> rfl
    have again := g.updateDevice_again a [] (f := id) (fun _ => rfl) fun _ => rfl
    rw [gateway]
    simp only [takeConfig, if_neg accepted, again]

theorem changeState_again (g : Gateway) (code : UInt8) :
    (g.changeState code).gateway.changeState code = g.changeState code := by
  cases known : g.network with
  | none => simp only [changeState, known, fail]
  | some network => simp only [changeState, known, Network.withState]

theorem events_joinDevice (g : Gateway) (short : UInt16) (ext : UInt64) (capability : Capability) :
    (g.joinDevice short ext capability).events =
      (deviceEvent (g.roster.join short ext capability).1
        (g.roster.join short ext capability).2.1).filterMap Effect.event? := by
  simp only [joinDevice, Outcome.events, List.filterMap_append, List.filterMap_cons,
    Effect.event?_note]
  split <;> rfl

theorem joinDevice_again (g : Gateway) (short : UInt16) (ext : UInt64) (capability : Capability) :
    ((g.joinDevice short ext capability).gateway.joinDevice short ext capability).Alike
      (g.joinDevice short ext capability) := by
  have again := g.roster.join_again short ext capability
  have gateway : (g.joinDevice short ext capability).gateway =
    { g with roster := (g.roster.join short ext capability).1 } := rfl
  have unread : ∀ h : Gateway, (h.joinDevice short ext capability).readings = [] :=
    fun h => h.readings_take .deviceJoinedInd (.joined short ext capability)
  refine ⟨?_, rfl, ?_, (unread _).trans (unread g).symm, rfl⟩
  · rw [gateway]
    simp only [joinDevice, again]
  · rw [gateway]
    simp only [events_joinDevice, again]

theorem take_again (g : Gateway) (c : Command) (m : Message) :
    ((g.take c m).gateway.take c m).Alike (g.take c m) := by
  cases m with
  | joined short ext capability => exact g.joinDevice_again short ext capability
  | networkAnswer status record =>
    refine .of_eq ?_
    simp only [take]
    split <;> rfl
  | inactive short timeout => exact .of_eq (g.deactivateDevice_again short timeout)
  | fromSensor a rssi message =>
    cases message with
    | data report trailing => exact .of_eq (g.takeReport_again a rssi report trailing)
    | config status fields reporting polling =>
      exact .of_eq (g.takeConfig_again a status fields reporting polling)
    | other inner | unknown inner => exact .rfl
  | stateChanged code => exact .of_eq (g.changeState_again code)
  | network record | roster status entries | joinPermit status => exact .rfl
  | sent | unhandled => exact .rfl

theorem takePayload_again (g : Gateway) (c : Command) (payload : List UInt8) :
    ((g.takePayload c payload).gateway.takePayload c payload).Alike (g.takePayload c payload) := by
  cases read : Message.ofPayload c payload with
  | error fault => exact .of_eq (by simp only [takePayload, read, fail])
  | ok m => simpa only [takePayload, read] using g.take_again c m

theorem dispatch_alike_of_unknown (g : Gateway) {f : Frame}
    (unknown : Command.ofCode? f.command = none) : (g.dispatch f).Alike (g.stay []) := by
  have foreign : AreNotes (foreignNotes f.subsystem) := areNotes_ite _
  rw [dispatch, unknown]
  refine ⟨rfl, rfl, ?_, ?_, rfl⟩
  · simp [stay, Outcome.events, foreign.events]
  · simp [stay, Outcome.readings, foreign.readings]

theorem dispatch_alike_of_known (g : Gateway) {f : Frame} {c : Command}
    (known : Command.ofCode? f.command = some c) :
    (g.dispatch f).Alike (g.takePayload c f.payload) := by
  have foreign : AreNotes (foreignNotes f.subsystem) := areNotes_ite _
  have dropped := areNotes_dropNotes c (g.takePayload c f.payload).fault
  rw [dispatch, known]
  refine ⟨rfl, rfl, ?_, ?_, rfl⟩
  · simp only [Outcome.events, List.filterMap_append, List.filterMap_cons, Effect.event?_note,
      foreign.events, dropped.events, List.nil_append, List.append_nil]
  · simp only [Outcome.readings, List.filterMap_append, List.filterMap_cons,
      Effect.reading?_note, foreign.readings, dropped.readings, List.nil_append, List.append_nil]

theorem dispatch_again (g : Gateway) (f : Frame) :
    ((g.dispatch f).gateway.dispatch f).Alike (g.dispatch f) := by
  cases known : Command.ofCode? f.command with
  | none =>
    have first := g.dispatch_alike_of_unknown known
    have second := (g.dispatch f).gateway.dispatch_alike_of_unknown known
    rw [first.gateway] at second ⊢
    exact second.trans first.symm
  | some c =>
    have first := g.dispatch_alike_of_known known
    have second := (g.dispatch f).gateway.dispatch_alike_of_known known
    rw [first.gateway] at second ⊢
    exact (second.trans (g.takePayload_again c f.payload)).trans first.symm

/-- Whatever is known and whatever a frame holds, taking it in again right after changes
neither devices nor network, and comes to the same reply, events and readings and the
same fault as the first time; and so does each further time. -/
theorem redelivery_idempotent (g : Gateway) (f : Frame) :
    ((g.dispatch f).gateway.dispatch f).Alike (g.dispatch f) ∧
    ∀ n, g.after (List.replicate (n + 1) (.frame f)) = (g.dispatch f).gateway ∧
      ∀ o ∈ g.outcomes (List.replicate (n + 1) (.frame f)), o.Alike (g.dispatch f) := by
  have again := g.dispatch_again f
  refine ⟨again, fun n => ?_⟩
  have later : ∀ h : Gateway, h = (g.dispatch f).gateway →
      h.after (List.replicate n (.frame f)) = h ∧
        ∀ o ∈ h.outcomes (List.replicate n (.frame f)), o.Alike (g.dispatch f) := by
    rintro h rfl
    induction n with
    | zero => exact ⟨rfl, fun _ ho => absurd ho List.not_mem_nil⟩
    | succ n ih =>
      rw [List.replicate_succ, after, outcomes, handle, again.gateway]
      exact ⟨ih.1, List.forall_mem_cons.2 ⟨again, ih.2⟩⟩
  obtain ⟨stays, alike⟩ := later _ rfl
  rw [List.replicate_succ, after, outcomes, handle]
  exact ⟨stays, List.forall_mem_cons.2 ⟨.rfl, alike⟩⟩

end Gateway

end CollectorGateway
