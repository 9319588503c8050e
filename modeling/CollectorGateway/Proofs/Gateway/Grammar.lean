import CollectorGateway.Proofs.Gateway.Drops
import CollectorGateway.Proofs.Gateway.Redelivery
import CollectorGateway.Proofs.Sensor.Blocks

/-!
How long a payload must be. Most commands demand a fixed number of octets; a list of
devices and a device's message tell themselves how much is to follow, by a count, by the
form of an address, by an inner code and by a mask of blocks. A payload with fewer octets
than it demands breaks off, and from one with as many the message is read without a look
at what lies behind them, which is only counted.
-/

namespace CollectorGateway

def wordAt (i : Nat) (bs : List UInt8) : UInt16 :=
  match bs.drop i with
  | low :: high :: _ => UInt16.ofNat (LittleEndian.decode [low, high])
  | _ => 0

theorem wordAt_of_drop {i : Nat} {bs tail : List UInt8} {v : UInt16}
    (laid : bs.drop i = LittleEndian.u16 v ++ tail) : wordAt i bs = v := by
  have spelled : LittleEndian.u16 v = [_, _] := rfl
  have small : v.toNat < Nat.pow 256 2 := v.toNat_lt
  rw [wordAt, laid, spelled]
  change UInt16.ofNat (LittleEndian.decode (LittleEndian.u16 v)) = v
  rw [LittleEndian.u16, LittleEndian.decode_encode, Nat.mod_eq_of_lt small, UInt16.ofNat_toNat]

def SensorCommand.demand (k : SensorCommand) (bs : List UInt8) : Nat :=
  match k with
  | .sensorData => 10 + FieldMask.size ⟨wordAt 8 bs⟩
  | .configRsp => 12
  | _ => 0

def SensorMessage.demand : List UInt8 → Nat
  | [] => 0
  | code :: rest => ((SensorCommand.ofCode? code).map (·.demand rest)).getD 0

/-- The octets that the payload of a command must have, as its own content tells. -/
def Command.demand (k : Command) (bs : List UInt8) : Nat :=
  match k with
  | .deviceJoinedInd => 18
  | .nwkInfoInd => 17
  | .getNwkInfoCnf => 18
  | .getDeviceArrayCnf => 3 + 18 * (wordAt 1 bs).toNat
  | .deviceNotActiveUpdateInd => 13
  | .collectorStateCngInd => 1
  | .setJoinPermitCnf => 4
  | .deviceDataRxInd =>
    if bs.head? = some 2 then 5 + SensorMessage.demand (bs.drop 4)
    else if bs.head? = some 3 then 11 + SensorMessage.demand (bs.drop 10)
    else 1
  | _ => 0

/-- The octets that the payload of a frame must have; an unknown command demands none. -/
def Frame.demand (f : Frame) : Nat :=
  ((Command.ofCode? f.command).map (·.demand f.payload)).getD 0

def SensorMessage.bare : SensorMessage → SensorMessage
  | .data report _ => .data report 0
  | m => m

def Message.bare : Message → Message
  | .fromSensor a rssi m => .fromSensor a rssi m.bare
  | m => m

namespace Read

variable {α β : Type} {c : Cursor} {m n : Nat}

def SpansTo (r : Read α) (n : Nat) (c : Cursor) : Prop :=
  ∃ widths, extent widths = n ∧ r.SpansAt widths c

theorem Spans.spansTo {r : Read α} {widths : List Nat} (spans : r.Spans widths) (c : Cursor) :
    r.SpansTo (extent widths) c :=
  ⟨widths, rfl, spans c⟩

theorem spansTo_pure (v : α) (c : Cursor) : (pure v : Read α).SpansTo 0 c :=
  ⟨[], rfl, spansAt_pure v c⟩

theorem SpansTo.map {r : Read α} (spans : r.SpansTo n c) (f : α → β) : (f <$> r).SpansTo n c := by
  obtain ⟨widths, sized, spans⟩ := spans
  exact ⟨widths, sized, spans.map f⟩

theorem SpansTo.bind {r : Read α} {f : α → Read β} (first : r.SpansTo m c)
    (second : ∀ v, r.Gives c v m → (f v).SpansTo n (c.skip m)) : (r >>= f).SpansTo (m + n) c := by
  obtain ⟨widths, rfl, spans⟩ := first
  cases spans with
  | inl done =>
    obtain ⟨v, gives⟩ := done
    obtain ⟨more, rfl, spans⟩ := second v gives
    exact ⟨widths ++ more, extent_append .., gives.spansAt_bind spans⟩
  | inr short => exact ⟨widths ++ [n], extent_append .., .inr short.bind⟩

theorem Gives.octet {v : UInt8} (gives : u8.Gives c v n) : c.rest = v :: (c.skip n).rest :=
  (u8_on_iff.1 gives.on).rest

theorem Gives.word {v : UInt16} (gives : u16.Gives c v n) {i : Nat} {bs : List UInt8}
    (stands : c.rest = bs.drop i) : wordAt i bs = v :=
  wordAt_of_drop (stands.symm.trans (u16_on_iff.1 gives.on).rest)

theorem spans_rosterEntry : rosterEntry.Spans ([2, 2, 8] ++ List.replicate Capability.size 1) :=
  spans_u16.bind fun _ => spans_u16.bind fun _ => spans_u64.bind fun _ => spans_capability.map _

theorem spans_inactive : inactive.Spans [2, 2, 8, 1] :=
  spans_u16.bind fun _ => spans_u16.bind fun _ => spans_u64.bind fun _ => spans_u8.map _

theorem spans_configResponse : configResponse.Spans [2, 2, 4, 4] :=
  spans_u16.bind fun _ => spans_u16.bind fun _ => spans_u32.bind fun _ => spans_u32.map _

theorem extent_replicate (n : Nat) (widths : List Nat) :
    extent (List.replicate n widths).flatten = extent widths * n := by
  induction n with
  | zero => rfl
  | succ n ih =>
    rw [List.replicate_succ, List.flatten_cons, extent_append, ih, Nat.mul_succ, Nat.add_comm]

theorem roster_spansTo (c : Cursor) : roster.SpansTo (3 + 18 * (wordAt 1 c.rest).toNat) c := by
  have entries : ∀ count : UInt16, (times rosterEntry count.toNat).SpansTo (18 * count.toNat)
      ((c.skip 1).skip 2) :=
    fun count => ⟨_, extent_replicate .., spans_rosterEntry.times count.toNat _⟩
  have whole := (spans_u8.spansTo c).bind fun status _ =>
    (spans_u16.spansTo (c.skip 1)).bind (n := 18 * (wordAt 1 c.rest).toNat)
      fun count gives => by
        have counted : wordAt 1 c.rest = count := gives.word rfl
        rw [counted]
        exact (entries count).map (Message.roster status)
  rwa [← Nat.add_assoc] at whole

theorem bare_sensorData : SensorMessage.bare <$> sensorData = do
    let _ ← u64
    let bits ← u16
    return .data (← sensorReport ⟨bits⟩) 0 := by
  simp only [sensorData, map_bind, map_pure]
  rfl

theorem sensorData_spansTo (c : Cursor) : (SensorMessage.bare <$> sensorData).SpansTo
    (SensorCommand.sensorData.demand c.rest) c := by
  rw [bare_sensorData]
  have whole := (spans_u64.spansTo c).bind fun _ _ =>
    (spans_u16.spansTo (c.skip 8)).bind (n := FieldMask.size ⟨wordAt 8 c.rest⟩)
      fun bits gives => by
        have selected : wordAt 8 c.rest = bits := gives.word rfl
        rw [selected, ← FieldMask.extent_widths]
        exact ((spans_sensorReport ⟨bits⟩).spansTo _).map fun report => SensorMessage.data report 0
  rwa [← Nat.add_assoc] at whole

theorem sensorMessage_spansTo (c : Cursor) :
    (SensorMessage.bare <$> sensorMessage).SpansTo (1 + SensorMessage.demand c.rest) c := by
  rw [sensorMessage, map_bind]
  refine (spans_u8.spansTo c).bind fun code gives => ?_
  rw [gives.octet, SensorMessage.demand]
  split
  · rename_i known
    rw [known]
    exact sensorData_spansTo _
  · rename_i known
    rw [known]
    exact (spans_configResponse.spansTo _).map _
  · rename_i other data config known
    rw [known]
    cases other
    case sensorData => exact absurd rfl data
    case configRsp => exact absurd rfl config
    all_goals exact spansTo_pure _ _
  · rename_i unknown
    rw [unknown]
    exact spansTo_pure _ _

theorem bare_fromSensor : Message.bare <$> fromSensor = do
    let a ← address
    let rssi ← i8
    return .fromSensor a rssi (← SensorMessage.bare <$> sensorMessage) := by
  simp only [fromSensor, map_bind, map_pure, bind_map_left]
  rfl

theorem address_spansTo_of_short (begins : c.rest.head? = some 2) : address.SpansTo 3 c := by
  refine (spans_u8.spansTo c).bind (n := 2) fun mode gives => ?_
  obtain rfl : mode = 2 := by simpa [gives.octet] using begins
  exact (spans_u16.spansTo _).map Address.short

theorem address_spansTo_of_extended (begins : c.rest.head? = some 3) : address.SpansTo 9 c := by
  refine (spans_u8.spansTo c).bind (n := 8) fun mode gives => ?_
  obtain rfl : mode = 3 := by simpa [gives.octet] using begins
  exact (spans_u64.spansTo _).map Address.extended

theorem fromSensor_spansTo_of_address (addressed : address.SpansTo n c) :
    (Message.bare <$> fromSensor).SpansTo
      (n + 2 + SensorMessage.demand (c.rest.drop (n + 1))) c := by
  rw [bare_fromSensor]
  have whole := addressed.bind fun a _ => (spans_i8.spansTo _).bind fun rssi _ =>
    (sensorMessage_spansTo _).map (Message.fromSensor a rssi)
  rw [Cursor.skip_skip] at whole
  have octets : n + (1 + (1 + SensorMessage.demand (c.skip (n + 1)).rest)) =
      n + 2 + SensorMessage.demand (c.rest.drop (n + 1)) := by
    simp only [Cursor.skip]
    omega
  exact octets ▸ whole

theorem fromSensor_spansTo
    (addressed : ∀ mode, c.rest.head? = some mode → mode = 2 ∨ mode = 3) :
    (Message.bare <$> fromSensor).SpansTo (Command.deviceDataRxInd.demand c.rest) c := by
  cases begins : c.rest.head? with
  | none =>
    have few : c.remaining < 1 := by simp [Cursor.remaining, List.head?_eq_none_iff.1 begins]
    have short := (spans_u8 c).stopsShort few
    rw [bare_fromSensor, Command.demand, begins, if_neg (by simp), if_neg (by simp)]
    have stopped : address.StopsShort ([1] ++ []) c := short.bind
    exact ⟨[1] ++ [] ++ [], rfl, .inr stopped.bind⟩
  | some mode =>
    rw [Command.demand, begins]
    obtain rfl | rfl := addressed mode begins
    · exact fromSensor_spansTo_of_address (address_spansTo_of_short begins)
    · exact fromSensor_spansTo_of_address (address_spansTo_of_extended begins)

theorem error_of_map_on {r : Read α} {f : α → β} {e : Fault} {c' : Cursor}
    (failed : (f <$> r).on c = (.error e, c')) : (r.on c).1 = .error e := by
  have opened := (Read.bind_on r (fun v => pure (f v)) c).symm.trans failed
  rcases read : r.on c with ⟨e' | v, m⟩
  · rw [read] at opened
    cases opened
    rfl
  · rw [read] at opened
    cases opened

theorem fromSensor_on_of_mode {mode : UInt8} (begins : c.rest.head? = some mode)
    (two : mode ≠ 2) (three : mode ≠ 3) :
    fromSensor.on c = (.error (.unknownAddressMode mode), c.skip 1) := by
  have first : u8.on c = (.ok mode, c.skip 1) := by
    have enough : 1 ≤ c.remaining := by
      obtain ⟨rest, laid⟩ := List.head?_eq_some_iff.1 begins
      simp [Cursor.remaining, laid]
    obtain ⟨v, gives⟩ := (spans_u8 c).gives_of_le enough
    obtain rfl : v = mode := by simpa [gives.octet] using begins
    exact gives.on
  rw [fromSensor, bind_on, address, bind_on, first]
  simp only [if_neg two, if_neg three]
  rfl

theorem message_spansTo (k : Command)
    (addressed : k = .deviceDataRxInd → ∀ mode, c.rest.head? = some mode → mode = 2 ∨ mode = 3) :
    (Message.bare <$> message k).SpansTo (k.demand c.rest) c := by
  cases k
  case getNwkInfoCnf =>
    exact ((spans_u8.bind fun status =>
      spans_networkRecord.map (Message.networkAnswer status)).spansTo c).map _
  case nwkInfoInd => exact ((spans_networkRecord.map Message.network).spansTo c).map _
  case getDeviceArrayCnf => exact (roster_spansTo c).map _
  case deviceJoinedInd => exact ((spans_rosterEntry.map _).spansTo c).map _
  case deviceNotActiveUpdateInd => exact (spans_inactive.spansTo c).map _
  case deviceDataRxInd => exact fromSensor_spansTo (addressed rfl)
  case collectorStateCngInd => exact ((spans_u8.map Message.stateChanged).spansTo c).map _
  case setJoinPermitCnf => exact ((spans_u32.map Message.joinPermit).spansTo c).map _
  -- No other command looks into its payload.
  all_goals exact (spansTo_pure _ c).map _

end Read

namespace Message

/-- A payload breaks off, or is under no address, or is read as a message that does not
hang on what follows it. -/
theorem ofPayload_cases (k : Command) (bs : List UInt8) :
    (bs.length < k.demand bs ∧
      ∃ needed left, ofPayload k bs = .error (.truncated k.payloadName needed left)) ∨
    (k.demand bs ≤ bs.length ∧ ∃ mode, k = .deviceDataRxInd ∧ bs.head? = some mode ∧ mode ≠ 2 ∧
      mode ≠ 3 ∧ ∀ extra, ofPayload k (bs ++ extra) = .error (.unknownAddressMode mode)) ∨
    (k.demand bs ≤ bs.length ∧
      (k = .deviceDataRxInd → ∀ mode, bs.head? = some mode → mode = 2 ∨ mode = 3) ∧
      ∃ m, ∀ extra, ∃ m', ofPayload k (bs ++ extra) = .ok m' ∧ m'.bare = m) := by
  by_cases addressed : k = .deviceDataRxInd → ∀ mode, bs.head? = some mode → mode = 2 ∨ mode = 3
  · let c := Cursor.ofOctets k.payloadName bs
    obtain ⟨widths, sized, spans⟩ := Read.message_spansTo (c := c) k addressed
    cases spans with
    | inl done =>
      obtain ⟨m, enough, gives⟩ := done
      rw [sized] at enough
      refine .inr (.inr ⟨enough, addressed, m, fun extra => ?_⟩)
      obtain ⟨m', read, same⟩ := Read.map_on_iff.1 (gives extra)
      exact ⟨m', congrArg Prod.fst read, same⟩
    | inr short =>
      have few := short.lt
      rw [sized] at few
      obtain ⟨before, width, after, -, -, -, failed⟩ := short
      exact .inl ⟨few, _, _, Read.error_of_map_on failed⟩
  · obtain ⟨rfl, mode, begins, two, three⟩ : k = .deviceDataRxInd ∧ ∃ mode, bs.head? = some mode ∧
        mode ≠ 2 ∧ mode ≠ 3 := by
      simpa only [Classical.not_imp, not_forall, not_or, exists_prop] using addressed
    obtain ⟨rest, rfl⟩ := List.head?_eq_some_iff.1 begins
    have demanded : Command.deviceDataRxInd.demand (mode :: rest) = 1 := by
      simp [Command.demand, two, three]
    refine .inr (.inl ⟨?_, mode, rfl, rfl, two, three, fun extra => ?_⟩)
    · rw [demanded, List.length_cons]
      omega
    · let c := Cursor.ofOctets Command.deviceDataRxInd.payloadName (mode :: rest ++ extra)
      exact congrArg Prod.fst (Read.fromSensor_on_of_mode (c := c) rfl two three)

end Message

namespace Gateway

theorem fault_take (g : Gateway) (k : Command) (m : Message) :
    (g.take k m).fault = g.refusal? m := by
  cases refused : g.refusal? m with
  | none => exact fault_take_of_accepted k refused
  | some fault => rw [take_of_refusal k refused, fail]

theorem refusal?_cases (g : Gateway) (m : Message) :
    g.refusal? m = none ∨ (∃ a, g.refusal? m = some (.deviceNotFound a)) ∨
      g.refusal? m = some .networkUnknown := by
  unfold refusal?
  split
  · split
    · exact .inr (.inl ⟨_, rfl⟩)
    · exact .inl rfl
  · split
    · exact .inr (.inr rfl)
    · exact .inl rfl
  · exact .inl rfl

theorem updateDevice_alike (g : Gateway) (a : Address) {before before' : List Effect}
    (f : Device → Device) (events : before.filterMap Effect.event? = before'.filterMap Effect.event?)
    (readings : before.filterMap Effect.reading? = before'.filterMap Effect.reading?) :
    (g.updateDevice a before f).Alike (g.updateDevice a before' f) := by
  unfold updateDevice
  split
  · exact ⟨rfl, rfl, events, readings, rfl⟩
  · refine ⟨rfl, rfl, ?_, ?_, rfl⟩
    · simp only [Outcome.events, List.filterMap_append, events]
    · simp only [Outcome.readings, List.filterMap_append, readings]

theorem take_bare (g : Gateway) (k : Command) (m : Message) :
    (g.take k m).Alike (g.take k m.bare) := by
  cases m with
  | fromSensor a rssi message =>
    cases message with
    | data report trailing =>
      refine g.updateDevice_alike a _ ?_ ?_
      · split <;> rfl
      · split <;> rfl
    | config status fields reporting polling => exact .rfl
    | other inner | unknown inner => exact .rfl
  | _ => exact .rfl

theorem takePayload_of_error {g : Gateway} {k : Command} {bs : List UInt8} {fault : Fault}
    (read : Message.ofPayload k bs = .error fault) : g.takePayload k bs = g.fail [] fault := by
  rw [takePayload, read]

theorem takePayload_alike_bare (g : Gateway) {k : Command} {bs : List UInt8} {m : Message}
    (read : ∃ m', Message.ofPayload k bs = .ok m' ∧ m'.bare = m) :
    (g.takePayload k bs).Alike (g.take k m) := by
  obtain ⟨m', read, rfl⟩ := read
  rw [takePayload, read]
  exact g.take_bare k m'

theorem takePayload_grammar (g : Gateway) (k : Command) (bs : List UInt8) :
    ((∃ what needed left, (g.takePayload k bs).fault = some (.truncated what needed left)) ↔
      bs.length < k.demand bs) ∧
    (∀ mode, (g.takePayload k bs).fault = some (.unknownAddressMode mode) ↔
      k = .deviceDataRxInd ∧ bs.head? = some mode ∧ mode ≠ 2 ∧ mode ≠ 3) ∧
    (k.demand bs ≤ bs.length → ∀ extra,
      (g.takePayload k (bs ++ extra)).Alike (g.takePayload k bs)) := by
  obtain ⟨few, needed, left, read⟩ | ⟨enough, mode, rfl, begins, two, three, read⟩ |
    ⟨enough, addressed, m, read⟩ := Message.ofPayload_cases k bs
  · have dropped := takePayload_of_error (g := g) read
    refine ⟨?_, fun mode => ?_, fun enough => absurd few (Nat.not_lt.2 enough)⟩
    · rw [dropped]
      exact iff_of_true ⟨_, _, _, rfl⟩ few
    · rw [dropped]
      refine iff_of_false (by simp [fail]) ?_
      rintro ⟨rfl, begins, two, three⟩
      simp [Command.demand, begins, two, three] at few
      simp [few] at begins
  · have dropped := fun extra => takePayload_of_error (g := g) (read extra)
    have unlonger := dropped []
    rw [List.append_nil] at unlonger
    refine ⟨?_, fun mode' => ?_, fun _ extra => ?_⟩
    · rw [unlonger]
      exact iff_of_false (by simp [fail]) (Nat.not_lt.2 enough)
    · rw [unlonger, begins]
      simp only [fail, Option.some.injEq, Fault.unknownAddressMode.injEq, true_and]
      constructor
      · rintro rfl
        exact ⟨rfl, two, three⟩
      · exact fun h => h.1
    · rw [dropped extra, unlonger]
      exact .rfl
  · have taken := fun extra => g.takePayload_alike_bare (read extra)
    have unlonger := taken []
    rw [List.append_nil] at unlonger
    have fault : (g.takePayload k bs).fault = g.refusal? m :=
      unlonger.fault.trans (g.fault_take k m)
    have unread : (∀ what needed left, g.refusal? m ≠ some (.truncated what needed left)) ∧
        ∀ mode, g.refusal? m ≠ some (.unknownAddressMode mode) := by
      obtain h | ⟨a, h⟩ | h := g.refusal?_cases m <;> simp [h]
    rw [fault]
    refine ⟨?_, fun mode => ?_, fun _ extra => (taken extra).trans unlonger.symm⟩
    · refine iff_of_false ?_ (Nat.not_lt.2 enough)
      rintro ⟨what, needed, left, refused⟩
      exact unread.1 what needed left refused
    · refine iff_of_false (unread.2 mode) ?_
      rintro ⟨sender, begins, two, three⟩
      obtain h | h := addressed sender mode begins
      · exact two h
      · exact three h

/-- A frame is dropped as truncated exactly if its payload has fewer octets than its
content demands, and for its address exactly if it is a device's message under neither
form of address. One that has what it demands comes to the same, whatever octets follow. -/
theorem payload_grammar (g : Gateway) (f : Frame) :
    ((∃ what needed left, (g.dispatch f).fault = some (.truncated what needed left)) ↔
      f.payload.length < f.demand) ∧
    (∀ mode, (g.dispatch f).fault = some (.unknownAddressMode mode) ↔
      f.command = Command.deviceDataRxInd.code ∧ f.payload.head? = some mode ∧ mode ≠ 2 ∧
        mode ≠ 3) ∧
    (f.demand ≤ f.payload.length → ∀ (longer : Frame) (extra : List UInt8),
      longer.command = f.command → longer.payload = f.payload ++ extra →
        (g.dispatch longer).Alike (g.dispatch f)) := by
  cases known : Command.ofCode? f.command with
  | none =>
    have undemanding : f.demand = 0 := by rw [Frame.demand, known]; rfl
    have alike := g.dispatch_alike_of_unknown known
    have other : f.command ≠ Command.deviceDataRxInd.code := by
      intro same
      rw [same, Command.ofCode?_code] at known
      contradiction
    have faultless : (g.dispatch f).fault = none := alike.fault
    refine ⟨?_, fun mode => ?_, fun _ longer extra same _ => ?_⟩
    · simp [faultless, undemanding]
    · simp [faultless, other]
    · exact (g.dispatch_alike_of_unknown (same ▸ known)).trans alike.symm
  | some k =>
    have demand : f.demand = k.demand f.payload := by rw [Frame.demand, known]; rfl
    have alike := g.dispatch_alike_of_known known
    have code : f.command = Command.deviceDataRxInd.code ↔ k = .deviceDataRxInd := by
      rw [← Command.code_of_ofCode? known]
      constructor
      · intro same
        exact Option.some.inj ((Command.ofCode?_code k).symm.trans
          (same ▸ Command.ofCode?_code .deviceDataRxInd))
      · exact fun same => congrArg Command.code same
    obtain ⟨short, addressed, longer⟩ := g.takePayload_grammar k f.payload
    rw [demand, alike.fault, code]
    refine ⟨short, addressed, fun enough f' extra same laid => ?_⟩
    have later := g.dispatch_alike_of_known (f := f') (same ▸ known)
    rw [laid] at later
    exact (later.trans (longer enough extra)).trans alike.symm

/-- The report of a device with its last octet, without it, and with others behind it. -/
theorem last_octet_counts :
    let longer : Frame :=
      ⟨rpcSubsystem, Command.deviceDataRxInd.code, strangersReport.payload ++ [0xee, 5],
        by decide⟩
    strangersReport.demand = 17 ∧ brokenReport.demand = 17 ∧
    (∃ what needed left,
      (empty.dispatch brokenReport).fault = some (.truncated what needed left)) ∧
    (empty.dispatch longer).Alike (empty.dispatch strangersReport) := by
  intro longer
  have demanded : strangersReport.demand = 17 := by decide
  have demanded' : brokenReport.demand = 17 := by decide
  have cut := (payload_grammar empty brokenReport).1.2 (by decide)
  have alike := (payload_grammar empty strangersReport).2.2 (by decide) longer [0xee, 5] rfl rfl
  exact ⟨demanded, demanded', cut, alike⟩

end Gateway

end CollectorGateway
