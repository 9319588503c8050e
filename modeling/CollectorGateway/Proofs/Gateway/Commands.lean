import CollectorGateway.Proofs.Gateway.Membership
import CollectorGateway.Proofs.Json.Integers

/-!
Requests that command a device. The device is the first that answers to the
target, and the frame carries the short address under which the last input that
assigned it one did so, be it a list of all devices or the device's own joining.
Every integer of a request is the one written in its text.
-/

namespace CollectorGateway

namespace Roster

def shortAddress? (r : Roster) (ext : UInt64) : Option UInt16 :=
  (r.devices.find? fun d => d.extAddress == ext).map (·.shortAddress)

theorem shortAddress?_congr {r r' : Roster}
    (same : r'.devices.map (fun d => (d.extAddress, d.shortAddress)) =
      r.devices.map (fun d => (d.extAddress, d.shortAddress))) (ext : UInt64) :
    r'.shortAddress? ext = r.shortAddress? ext := by
  have paired : ∀ x : Roster, x.shortAddress? ext =
      ((x.devices.map fun d => (d.extAddress, d.shortAddress)).find? fun p => p.1 == ext).map
        (·.2) := by
    intro x
    rw [List.find?_map, Option.map_map]
    rfl
  rw [paired, paired, same]

theorem shortAddress?_ofEntries (entries : List RosterEntry) (ext : UInt64) :
    (ofEntries entries).shortAddress? ext =
      (entries.find? fun e => e.extAddress == ext).map (·.shortAddress) := by
  rw [shortAddress?, ofEntries, List.find?_map, Option.map_map]
  rfl

theorem shortAddress?_replaced (front back : List Device) (d d' : Device)
    (same : d'.extAddress = d.extAddress) (first : ∀ x ∈ front, x.extAddress ≠ d.extAddress)
    (ext : UInt64) :
    shortAddress? ⟨front ++ d' :: back⟩ ext =
      if d.extAddress = ext then some d'.shortAddress
      else shortAddress? ⟨front ++ d :: back⟩ ext := by
  by_cases here : d.extAddress = ext
  · subst here
    have passed : front.find? (fun x => x.extAddress == d.extAddress) = none := by
      simpa [List.find?_eq_none] using first
    simp [shortAddress?, passed, same]
  · simp [shortAddress?, here, same]

theorem shortAddress?_added {r : Roster} {d : Device} (new : d.extAddress ∉ r.extAddresses)
    (ext : UInt64) :
    shortAddress? ⟨r.devices ++ [d]⟩ ext =
      if d.extAddress = ext then some d.shortAddress else r.shortAddress? ext := by
  by_cases here : d.extAddress = ext
  · subst here
    have passed : r.devices.find? (fun x => x.extAddress == d.extAddress) = none := by
      simpa [List.find?_eq_none, extAddresses] using new
    simp [shortAddress?, passed]
  · simp [shortAddress?, here]

end Roster

namespace Gateway

/-- What an input that assigns short addresses leaves the first device of an identity
with: nothing if it is a list without it. -/
def Input.assigns? (ext : UInt64) (i : Input) : Option (Option UInt16) :=
  match i.snapshot? with
  | some entries => some ((entries.find? fun e => e.extAddress == ext).map (·.shortAddress))
  | none => i.newcomer?.bind fun e =>
    if e.extAddress = ext then some (some e.shortAddress) else none

def lastAssigned? (inputs : List Input) (ext : UInt64) : Option UInt16 :=
  (inputs.filterMap (Input.assigns? ext)).getLast?.join

theorem lastAssigned?_concat (inputs : List Input) (i : Input) (ext : UInt64) :
    lastAssigned? (inputs ++ [i]) ext = (i.assigns? ext).getD (lastAssigned? inputs ext) := by
  rw [lastAssigned?, List.filterMap_append, List.getLast?_append]
  cases h : i.assigns? ext <;> simp [h, lastAssigned?]

theorem addresses_handle_of_quiet {g : Gateway} {i : Input} (unlisted : i.snapshot? = none)
    (unjoined : i.newcomer? = none) :
    (g.handle i).gateway.roster.devices.map (fun d => (d.extAddress, d.shortAddress)) =
      g.roster.devices.map (fun d => (d.extAddress, d.shortAddress)) := by
  refine List.ext_getElem? fun k => ?_
  have unmade : g.creation? i k = none := by rw [creation?_of_unlisted unlisted, unjoined]; rfl
  have step : (g.handle i).gateway.roster.devices[k]? =
      (g.roster.get? k).map fun d => (g.incidentAt? i k).elim d d.meet := by
    have place := get?_handle (g := g) unlisted k
    rwa [unmade, Option.map_none, Option.or_none] at place
  rw [List.getElem?_map, List.getElem?_map, step, Option.map_map]
  refine congrArg (Option.map · _) (funext fun d => ?_)
  cases brought : g.incidentAt? i k with
  | none => rfl
  | some x =>
    cases x with
    | joined short capability =>
      obtain ⟨f, m, a, rfl, read, about, -⟩ := incidentAt?_eq_some_iff.1 brought
      obtain ⟨ext, rfl, rfl⟩ := Message.incident?_eq_joined_iff.1 about
      simp [Input.newcomer?, Input.message?, read, Message.newcomer?] at unjoined
    | _ => rfl

theorem shortAddress?_after (inputs : List Input) (ext : UInt64) :
    (empty.after inputs).roster.shortAddress? ext = lastAssigned? inputs ext := by
  induction inputs using List.reverseRecOn with
  | nil => rfl
  | append_singleton inputs i ih =>
    rw [lastAssigned?_concat, after_append, ← ih]
    simp only [after]
    cases listed : i.snapshot? with
    | some entries =>
      have moved := moves_handle (empty.after inputs) i
      rw [listed] at moved
      rw [moved.roster_eq, Roster.shortAddress?_ofEntries]
      simp [Input.assigns?, listed]
    | none =>
      cases joined : i.newcomer? with
      | none =>
        have quiet := addresses_handle_of_quiet (g := empty.after inputs) listed joined
        rw [Roster.shortAddress?_congr quiet]
        simp [Input.assigns?, listed, joined]
      | some e =>
        have assigned : (i.assigns? ext).getD ((empty.after inputs).roster.shortAddress? ext) =
            if e.extAddress = ext then some e.shortAddress
            else (empty.after inputs).roster.shortAddress? ext := by
          simp only [Input.assigns?, listed, joined, Option.bind_some]
          split <;> rfl
        have cases := devices_handle_joining (empty.after inputs) joined
        generalize (handle (empty.after inputs) i).gateway.roster = r' at cases ⊢
        rw [assigned]
        obtain ⟨front, d, back, split, same, first, now⟩ | ⟨new, now⟩ := cases
        · have old : (empty.after inputs).roster = ⟨front ++ d :: back⟩ := by rw [← split]
          have new : r' = ⟨front ++ d.rejoin e.shortAddress e.capability :: back⟩ := by rw [← now]
          rw [old, new, ← same]
          exact Roster.shortAddress?_replaced front back d (d.rejoin e.shortAddress e.capability)
            rfl (same ▸ first) ext
        · have fresh : r' = ⟨(empty.after inputs).roster.devices ++ [.ofEntry e]⟩ := by rw [← now]
          rw [fresh]
          exact Roster.shortAddress?_added new ext

/-- The short address under which a target is reached after some inputs. -/
def destination? (inputs : List Input) : Address → Option UInt16
  | .short a => some a
  | .extended ext => lastAssigned? inputs ext

theorem resolve_of_answered {inputs : List Input} {t : Address} {d : Device}
    (present : d ∈ (empty.after inputs).roster.devices) (answers : d.answersTo t) :
    ∃ a, destination? inputs t = some a ∧ (empty.after inputs).resolve (some t) = .ok a := by
  cases found : (empty.after inputs).roster.find? t with
  | none =>
    have silent := Roster.find?_eq_none_iff.1 found d present
    rw [answers] at silent
    contradiction
  | some i =>
    obtain ⟨front, e, back, split, rfl, first, before⟩ := Roster.split_of_find? found
    have old : (empty.after inputs).roster = ⟨front ++ e :: back⟩ := by rw [← split]
    have there : (empty.after inputs).roster.get? front.length = some e := by
      rw [old, Roster.get?_split]
    have resolved : (empty.after inputs).resolve (some t) = .ok e.shortAddress := by
      simp only [resolve, found, Option.bind_some, there]
    refine ⟨e.shortAddress, ?_, resolved⟩
    cases t with
    | short a =>
      have same : e.shortAddress = a := by simpa [Device.answersTo] using first
      rw [same]
      rfl
    | extended ext =>
      have same : e.extAddress = ext := Device.answersTo_extended.1 first
      have passed : front.find? (fun x => x.extAddress == ext) = none := by
        simpa [List.find?_eq_none, Device.answersTo] using before
      rw [destination?, ← shortAddress?_after, old]
      simp [Roster.shortAddress?, passed, same]

theorem resolve_of_unanswered {g : Gateway} {t : Address}
    (silent : ∀ d ∈ g.roster.devices, d.answersTo t = false) :
    g.resolve (some t) = .error (.deviceNotFound t) := by
  simp only [resolve, Roster.find?_eq_none_iff.2 silent, Option.bind_none]

end Gateway

def Frame.Spells (f : Frame) (code : UInt8) (words : List UInt16) : Prop :=
  ∃ c', (do return (← Read.u8, ← Read.times Read.u16 words.length) : Read _).on
      (.ofOctets "payload" f.payload) = (.ok (code, words), c') ∧ c'.rest = []

theorem Frame.spells_of_payload {f : Frame} {code : UInt8} {words : List UInt16}
    (laid : f.payload = [code] ++ words.flatMap LittleEndian.u16) : f.Spells code words := by
  have passed := Cursor.passed_ofOctets "payload" f.payload []
  rw [List.append_nil] at passed
  nth_rewrite 2 [laid] at passed
  obtain ⟨m, first, rest⟩ := Cursor.passed_append_iff.1 passed
  refine ⟨⟨"payload", 0 + f.payload.length, []⟩, ?_, rfl⟩
  simp only [Read.bind_on_iff, Read.pure_on_iff, Read.u8_on_iff,
    Read.times_on_iff Read.u16_on_iff]
  exact ⟨m, code, first, _, words, ⟨rfl, rest⟩, rfl, rfl⟩

namespace Request

/-- A request that commands a device: its target, the octet of the command and the
settings that follow the device's address. -/
def command? : Request → Option (Option Address × UInt8 × List UInt16)
  | sendToggle target => some (target, 6, [])
  | sendConfig target polling reporting fields =>
    some (target, 1, [polling, reporting, fields])
  | _ => none

/-- An integer in the data of a request: where it is written, its bits and its
value. -/
structure Integer where
  path : List String
  bits : Nat
  value : Nat
  deriving DecidableEq

def targetIntegers : Option Address → List Integer
  | none => []
  | some (.short a) => [⟨["targetAddress", "short"], 16, a.toNat⟩]
  | some (.extended a) => [⟨["targetAddress", "extended"], 64, a.toNat⟩]

def integers : Request → List Integer
  | sendToggle target => targetIntegers target
  | sendConfig target polling reporting fields =>
    [⟨["pollingInterval"], 16, polling.toNat⟩, ⟨["reportingInterval"], 16, reporting.toNat⟩,
      ⟨["frameControl"], 16, fields.toNat⟩] ++ targetIntegers target
  | _ => []

theorem value_lt_of_mem_integers {r : Request} {x : Integer} (h : x ∈ r.integers) :
    x.value < Nat.pow 2 x.bits := by
  have small : ∀ target, ∀ x ∈ targetIntegers target, x.value < Nat.pow 2 x.bits := by
    intro target x hx
    cases target with
    | none => simp [targetIntegers] at hx
    | some a =>
      cases a with
      | short a =>
        obtain rfl := List.mem_singleton.1 hx
        exact a.toNat_lt
      | extended a =>
        obtain rfl := List.mem_singleton.1 hx
        exact a.toNat_lt
  cases r with
  | sendToggle target => exact small target x h
  | sendConfig target polling reporting fields =>
    simp only [integers, List.cons_append, List.nil_append, List.mem_cons] at h
    obtain rfl | rfl | rfl | h := h
    · exact polling.toNat_lt
    · exact reporting.toNat_lt
    · exact fields.toNat_lt
    · exact small target x h
  | _ => simp [integers] at h

def data? : Json → Option Json
  | .array [_, data] => some data
  | j => j.member? "data"

def Integer.WrittenIn (x : Integer) (data : Json) : Prop :=
  ∃ j, data.at? x.path = some j ∧ j.integer? = some x.value

theorem address_written {j : Json} {a : Address} (read : Address.ofJson? j = some a) {data : Json}
    (here : data.member? "targetAddress" = some j) :
    ∀ x ∈ targetIntegers (some a), x.WrittenIn data := by
  intro x hx
  obtain ⟨choice, chosen, read⟩ := Option.bind_eq_some_iff.1 read
  split at read
  · rename_i content
    obtain ⟨v, word, same⟩ := Option.bind_eq_some_iff.1 read
    obtain rfl := Option.some.inj same
    obtain rfl := List.mem_singleton.1 hx
    refine ⟨content, ?_, Json.u16?_eq_some word⟩
    rw [Json.at?_cons, here, Option.bind_some, Json.at?_cons, Json.member?_of_choice? chosen]
    rfl
  · rename_i content
    obtain ⟨v, word, same⟩ := Option.bind_eq_some_iff.1 read
    obtain rfl := Option.some.inj same
    obtain rfl := List.mem_singleton.1 hx
    refine ⟨content, ?_, Json.u64?_eq_some word⟩
    rw [Json.at?_cons, here, Option.bind_some, Json.at?_cons, Json.member?_of_choice? chosen]
    rfl
  · contradiction

theorem target_written {fields : List (String × Json)} {target : Option Address} {data : Json}
    (read : Json.optional fields "targetAddress" Address.ofJson? = some target)
    (here : fields.lookup "targetAddress" = data.member? "targetAddress") :
    ∀ x ∈ targetIntegers target, x.WrittenIn data := by
  intro x hx
  cases target with
  | none => simp [targetIntegers] at hx
  | some a =>
    obtain ⟨j, present, written⟩ := Json.optional_eq_some_some read
    exact address_written written (here ▸ present) x hx

theorem word_written {fields : List (String × Json)} {name : String} {v : UInt16} {data : Json}
    (read : Json.required fields name Json.u16? = some v)
    (here : fields.lookup name = data.member? name) :
    Integer.WrittenIn ⟨[name], 16, v.toNat⟩ data := by
  obtain ⟨j, present, word⟩ := Json.required_eq_some_iff.1 read
  refine ⟨j, ?_, Json.u16?_eq_some word⟩
  rw [Json.at?_cons, ← here, present]
  rfl

theorem integers_written_of_ofData? {kept : Bool} {name : String} {data : Option Json}
    {r : Request} (read : ofData? kept name data = some r) :
    ∀ x ∈ r.integers, ∃ d, data = some d ∧ x.WrittenIn d := by
  unfold ofData? at read
  split at read
  case h_5 =>
    simp only [Option.bind_eq_bind, Option.bind_eq_some_iff, Option.pure_def,
      Option.some.injEq] at read
    obtain ⟨fields, known, action, -, rfl⟩ := read
    simp [integers]
  case h_6 d =>
    simp only [Option.bind_eq_bind, Option.bind_eq_some_iff, Option.pure_def,
      Option.some.injEq] at read
    obtain ⟨fields, known, target, aimed, rfl⟩ := read
    have here := Json.lookup_of_fields? known (List.mem_singleton.2 rfl)
    exact fun x hx => ⟨d, rfl, target_written aimed here x hx⟩
  case h_7 d =>
    simp only [Option.bind_eq_bind, Option.bind_eq_some_iff, Option.pure_def,
      Option.some.injEq] at read
    obtain ⟨fields, known, target, aimed, polling, p, reporting, q, mask, m, rfl⟩ := read
    have here := fun name (listed : name ∈ _) => Json.lookup_of_fields? known listed
    intro x hx
    simp only [integers, List.cons_append, List.nil_append, List.mem_cons] at hx
    obtain rfl | rfl | rfl | hx := hx
    · exact ⟨d, rfl, word_written p (here _ (by decide))⟩
    · exact ⟨d, rfl, word_written q (here _ (by decide))⟩
    · exact ⟨d, rfl, word_written m (here _ (by decide))⟩
    · exact ⟨d, rfl, target_written aimed (here _ (by decide)) x hx⟩
  -- Nothing else that is read has integers.
  case h_8 => contradiction
  all_goals
    obtain rfl := Option.some.inj read
    simp [integers]

theorem integers_written {cs : List Char} {r : Request} (read : ofText? cs = some r) :
    ∀ x ∈ r.integers, x.value < Nat.pow 2 x.bits ∧
      ∃ j d, Json.parse? cs = some j ∧ data? j = some d ∧ x.WrittenIn d := by
  intro x hx
  obtain ⟨j, parsed, read⟩ := Option.bind_eq_some_iff.1 read
  refine ⟨value_lt_of_mem_integers hx, j, ?_⟩
  unfold ofJson? at read
  split at read
  · obtain ⟨name, -, read⟩ := Option.bind_eq_some_iff.1 read
    obtain ⟨d, same, written⟩ := integers_written_of_ofData? read x hx
    exact ⟨d, parsed, same, written⟩
  · rename_i notPair
    obtain ⟨fields, known, read⟩ := Option.bind_eq_some_iff.1 read
    obtain ⟨name, -, read⟩ := Option.bind_eq_some_iff.1 read
    have member : data? j = fields.lookup "data" := by
      rw [Json.lookup_of_fields? known (by decide)]
      unfold data?
      split
      · exact absurd rfl (notPair _ _)
      · rfl
    split at read
    · obtain ⟨-, read⟩ := Option.ite_none_right_eq_some.1 read
      obtain ⟨d, same, written⟩ := integers_written_of_ofData? read x hx
      exact ⟨d, parsed, member.trans same, written⟩
    · obtain ⟨d, same, written⟩ := integers_written_of_ofData? read x hx
      exact ⟨d, parsed, member.trans same, written⟩

end Request

namespace Gateway

theorem answer_of_command {g : Gateway} {r : Request} {target : Option Address} {code : UInt8}
    {words : List UInt16} (commands : r.command? = some (target, code, words)) :
    ∃ frame, g.answer r = g.sendTo target frame ∧ ∀ a, (frame a).subsystem = 10 ∧
      (frame a).command = Command.txDataReq.code ∧ (frame a).Spells code (a :: words) := by
  cases r with
  | sendToggle =>
    obtain ⟨rfl, rfl, rfl⟩ : _ = target ∧ 6 = code ∧ [] = words := by
      simpa [Request.command?] using commands
    exact ⟨.toggle, rfl, fun a => ⟨rfl, rfl, Frame.spells_of_payload rfl⟩⟩
  | sendConfig _ polling reporting fields =>
    obtain ⟨rfl, rfl, rfl⟩ :
        _ = target ∧ 1 = code ∧ [polling, reporting, fields] = words := by
      simpa [Request.command?] using commands
    exact ⟨(.configure · polling reporting fields), rfl,
      fun a => ⟨rfl, rfl, Frame.spells_of_payload rfl⟩⟩
  | _ => simp [Request.command?] at commands

theorem sendTo_after (inputs : List Input) (target : Option Address) (frame : UInt16 → Frame) :
    let o := (empty.after inputs).sendTo target frame
    o.events = [] ∧
      ((∃ t a, target = some t ∧ (∃ d ∈ (empty.after inputs).roster.devices, d.answersTo t) ∧
          destination? inputs t = some a ∧ o.reply = some (frame a) ∧ o.fault = none) ∨
        (¬ (∃ t, target = some t ∧ ∃ d ∈ (empty.after inputs).roster.devices, d.answersTo t) ∧
          o.reply = none ∧ o.fault = some (target.elim .missingTarget .deviceNotFound))) := by
  cases target with
  | none => exact ⟨rfl, .inr ⟨by simp, rfl, rfl⟩⟩
  | some t =>
    by_cases answered : ∃ d ∈ (empty.after inputs).roster.devices, d.answersTo t
    · obtain ⟨d, present, answers⟩ := answered
      obtain ⟨a, aimed, resolved⟩ := resolve_of_answered present answers
      have sent : (empty.after inputs).sendTo (some t) frame =
          ⟨empty.after inputs, some (frame a), [], none⟩ := by simp only [sendTo, resolved]
      rw [sent]
      exact ⟨rfl, .inl ⟨t, a, rfl, ⟨d, present, answers⟩, aimed, rfl, rfl⟩⟩
    · have silent : ∀ d ∈ (empty.after inputs).roster.devices, d.answersTo t = false := by
        simpa using answered
      rw [sendTo, resolve_of_unanswered silent]
      refine ⟨rfl, .inr ⟨?_, rfl, rfl⟩⟩
      rintro ⟨t', same, found⟩
      obtain rfl := Option.some.inj same
      exact answered found

/-- Requests reach the device they are for with the values they are written with. -/
theorem requests_reach_target (inputs : List Input) :
    let g := empty.after inputs
    (∀ r, (g.answer r).gateway = g) ∧
    (∀ ext, g.roster.shortAddress? ext = lastAssigned? inputs ext) ∧
    (∀ r target code words, r.command? = some (target, code, words) →
      let o := g.answer r
      o.events = [] ∧
      (o.reply.isSome ↔ ∃ t, target = some t ∧ ∃ d ∈ g.roster.devices, d.answersTo t) ∧
      (∀ f, o.reply = some f → o.fault = none ∧ f.subsystem = 10 ∧
        f.command = Command.txDataReq.code ∧
        ∃ a, target.bind (destination? inputs) = some a ∧ f.Spells code (a :: words)) ∧
      (o.reply = none → o.fault = some (target.elim .missingTarget .deviceNotFound))) ∧
    ∀ cs r, Request.ofText? cs = some r → ∀ x ∈ r.integers,
      x.value < Nat.pow 2 x.bits ∧
        ∃ j d, Json.parse? cs = some j ∧ Request.data? j = some d ∧ x.WrittenIn d := by
  refine ⟨gateway_answer _, shortAddress?_after inputs, ?_, fun _ _ => Request.integers_written⟩
  intro r target code words commands
  obtain ⟨frame, sent, laid⟩ := answer_of_command (g := empty.after inputs) commands
  rw [sent]
  obtain ⟨unpublished, reached | missed⟩ := sendTo_after inputs target frame
  · obtain ⟨t, a, rfl, answered, aimed, replied, faultless⟩ := reached
    refine ⟨unpublished, ?_, ?_, ?_⟩
    · rw [replied]
      exact iff_of_true rfl ⟨t, rfl, answered⟩
    · intro f same
      obtain rfl := Option.some.inj (replied.symm.trans same)
      obtain ⟨subsystem, command, spelt⟩ := laid a
      exact ⟨faultless, subsystem, command, a, aimed, spelt⟩
    · intro unsent
      rw [replied] at unsent
      contradiction
  · obtain ⟨unanswered, silent, fault⟩ := missed
    refine ⟨unpublished, ?_, ?_, fun _ => fault⟩
    · rw [silent]
      exact iff_of_false (by decide) unanswered
    · intro f same
      rw [silent] at same
      contradiction

def settingsText : List Char :=
  ("[\"sendConfig\", \x7b\"targetAddress\": \x7b\"extended\": 1234605616436508552\x7d, " ++
    "\"pollingInterval\": 1, \"reportingInterval\": 65535, \"frameControl\": 3\x7d]").toList

def settings : Request := .sendConfig (some (.extended 0x1122334455667788)) 1 65535 3

/-- A device that joined again is told its settings under its new short address; a
device that is not known gets none, and neither does nobody. -/
theorem settings_follow_rejoined :
    let g := empty.after [.frame (joining 1 0x11), .frame (joining 5 0x11)]
    Request.ofText? settingsText = some settings ∧
    (∃ f, (g.answer settings).reply = some f ∧ f.Spells 1 [5, 1, 65535, 3]) ∧
    (g.answer (.sendToggle (some (.short 1)))).fault = some (.deviceNotFound (.short 1)) ∧
    (g.answer (.sendToggle none)).fault = some .missingTarget ∧
    ∀ x ∈ settings.integers, x.value < Nat.pow 2 x.bits := by
  intro g
  have read : Request.ofText? settingsText = some settings := by decide +kernel
  obtain ⟨-, -, commanded, written⟩ :=
    requests_reach_target [.frame (joining 1 0x11), .frame (joining 5 0x11)]
  obtain ⟨-, answered, sent, -⟩ := commanded settings _ 1 [1, 65535, 3] rfl
  obtain ⟨-, -, -, lost⟩ := commanded (.sendToggle (some (.short 1))) _ 6 [] rfl
  obtain ⟨-, -, -, aimless⟩ := commanded (.sendToggle none) _ 6 [] rfl
  refine ⟨read, ?_, lost (by decide +kernel), aimless rfl,
    fun x hx => (written _ _ read x hx).1⟩
  obtain ⟨f, replied⟩ := Option.isSome_iff_exists.1
    (answered.2 ⟨_, rfl, .ofEntry ⟨5, 0x1122334455667788, ⟨false, false, false, false, false, false⟩⟩,
      by decide +kernel⟩)
  obtain ⟨-, -, -, a, aimed, spelt⟩ := sent f replied
  have five : a = 5 := by
    have given : destination? [.frame (joining 1 0x11), .frame (joining 5 0x11)]
        (.extended 0x1122334455667788) = some 5 := by decide +kernel
    exact Option.some.inj (aimed.symm.trans given)
  exact ⟨f, replied, five ▸ spelt⟩

end Gateway

end CollectorGateway
