import CollectorGateway.Proofs.Client.Uplink
import CollectorGateway.Trial

/-!
Requests read from lines. The lines of an input that are text are read one after
another: of each only its own request is made, or it is noted as malformed, and
nothing else comes of it. The first line that is no text ends the reading, with
all the lines after it.
-/

namespace CollectorGateway

namespace LineBridge

theorem lines_parts {parts : List (List UInt8)} {last : List UInt8}
    (free : ∀ part ∈ parts, 10 ∉ part) (freeLast : 10 ∉ last) :
    lines (parts.flatMap (· ++ [10]) ++ last) =
      parts.map withoutReturn ++ if last.isEmpty then [] else [last] := by
  rw [lines, splitLines, splitAtEach_parts free freeLast, List.dropLast_concat,
    List.getLast?_concat]
  rfl

namespace Line

def isText : Line → Bool
  | notText _ => false
  | _ => true

def request? : Line → Option Request
  | request r => some r
  | _ => none

def notes : Line → List Note
  | malformed => [.requestMalformed]
  | request r => [.requestRead r]
  | blank | notText _ => []

end Line

end LineBridge

namespace Client

open LineBridge (Line)

/-- A run of a client beside lines that are read, each with what happens once it
is. -/
def runLines (c : Client) : List (Line × List Stimulus) → Client × List Action
  | [] => (c, [])
  | (l, script) :: rest =>
    let (c, actions) := c.run script
    let (c, more) := c.runLines rest
    (c, l.notes.map .note ++ actions ++ more)

theorem runLines_cons (c : Client) (l : Line) (script : List Stimulus)
    (rest : List (Line × List Stimulus)) :
    c.runLines ((l, script) :: rest) =
      (((c.run script).1.runLines rest).1,
        l.notes.map .note ++ (c.run script).2 ++ ((c.run script).1.runLines rest).2) := rfl

def IsCalm (script : List Stimulus) : Prop := .released ∉ script ∧ .aborted ∉ script

theorem IsCalm.append {a b : List Stimulus} (ha : IsCalm a) (hb : IsCalm b) : IsCalm (a ++ b) := by
  simp only [IsCalm, List.mem_append, not_or]
  exact ⟨⟨ha.1, hb.1⟩, ha.2, hb.2⟩

theorem isCalm_turns (turns : List Turn) : IsCalm (turns.map .turn) := by
  constructor <;> simp

theorem request?_turns (turns : List Turn) :
    (turns.map Stimulus.turn).filterMap Stimulus.request? = [] := by
  rw [List.filterMap_map]
  exact List.filterMap_eq_nil_iff.2 fun _ _ => rfl

end Client

namespace Trial

open Client (Stimulus IsCalm)
open LineBridge (Line)

def Ran (t : Trial) (script : List Stimulus) (t' : Trial) : Prop :=
  t'.client = (t.client.run script).1 ∧ t'.actions = t.actions ++ (t.client.run script).2

variable {t t' t'' : Trial} {a b : List Stimulus}

theorem Ran.append (first : t.Ran a t') (then' : t'.Ran b t'') : t.Ran (a ++ b) t'' := by
  obtain ⟨client, actions⟩ := first
  obtain ⟨client', actions'⟩ := then'
  rw [client] at client' actions'
  rw [Ran, Client.run_append, client', actions', actions, List.append_assoc]
  exact ⟨rfl, rfl⟩

theorem ran_nil (t : Trial) : t.Ran [] t := ⟨rfl, (List.append_nil _).symm⟩

theorem actions_did (t : Trial) (u : Uplink) (deeds : List Uplink.Deed) :
    (t.did u deeds).actions = t.actions ++ Uplink.acts deeds := by
  simp [Trial.actions, did]

theorem actions_note (t : Trial) (n : Note) : (t.note n).actions = t.actions ++ [.note n] := by
  simp [Trial.actions, note]

theorem ran_stimulate (t : Trial) {s : Stimulus} (unturned : s.isTurn = false) :
    t.Ran [s] (t.stimulate s) := by
  obtain ⟨client, actions, -⟩ :=
    Uplink.step_eq_run (u := t.uplink) rfl (s := .client s) nofun
  have reached : (t.uplink.reaches (.client s)).toList = [s] := by
    simp [Uplink.reaches, unturned]
  rw [reached] at client actions
  refine ⟨client, ?_⟩
  rw [stimulate, actions_did, actions]
  rfl

theorem ran_settle (t : Trial) :
    ∃ script, script.filterMap Stimulus.request? = [] ∧ IsCalm script ∧ t.Ran script t.settle := by
  have called : ∃ script, script.filterMap Stimulus.request? = [] ∧ IsCalm script ∧
      t.Ran script t.answerCall := by
    unfold answerCall
    split
    · split
      · exact ⟨[.established], rfl, ⟨by simp, by simp⟩, ran_stimulate { t with accepted := _ } rfl⟩
      · exact ⟨[.refused], rfl, ⟨by simp, by simp⟩, ran_stimulate t rfl⟩
    · exact ⟨[], rfl, ⟨by simp, by simp⟩, ran_nil t⟩
  obtain ⟨script, unasked, calm, ran⟩ := called
  obtain ⟨own, owned, settled⟩ :=
    Uplink.settleWithin_eq_run t.answerCall.uplink.work t.answerCall.uplink
  obtain ⟨turns, -, reached⟩ := Uplink.reaching_of_own (u := t.answerCall.uplink) owned
  have taken : .refuses ∉ own := fun mem => by simpa [Uplink.Stimulus.isOwn] using owned _ mem
  obtain ⟨client, actions, -⟩ := Uplink.run_eq_run (u := t.answerCall.uplink) rfl taken
  rw [reached, ← settled] at client actions
  refine ⟨script ++ turns.map .turn, ?_, calm.append (Client.isCalm_turns turns), ran.append ⟨?_, ?_⟩⟩
  · rw [List.filterMap_append, unasked, Client.request?_turns, List.nil_append]
  · exact client
  · rw [settle, actions_did]
    exact congrArg _ actions

theorem ran_submit (up : t.client.IsUp) (r : Request) :
    ∃ script t', t.submit r = .ok t' ∧ script.filterMap Stimulus.request? = [r] ∧
      IsCalm script ∧ t.Ran script t' := by
  have running : t.client.isStopped = false := decide_eq_false up.running
  obtain ⟨script, unasked, calm, ran⟩ : ∃ script, script.filterMap Stimulus.request? = [] ∧
      IsCalm script ∧
      t.Ran script (if Client.queueRoom ≤ t.client.queue.length then t.settle else t) := by
    split
    · exact ran_settle t
    · exact ⟨[], rfl, ⟨by simp, by simp⟩, ran_nil t⟩
  refine ⟨script ++ [.submitted r], _, ?_, ?_, calm.append ⟨by simp, by simp⟩,
    ran.append (ran_stimulate _ rfl)⟩
  · rw [submit, running]
    rfl
  · rw [List.filterMap_append, unasked]
    rfl

/-- What happens beside a line that is read: its request is made, if it has one, and
otherwise nothing. -/
def IsCourse (course : List (Line × List Stimulus)) : Prop :=
  ∀ p ∈ course, p.2.filterMap Stimulus.request? = p.1.request?.toList ∧ IsCalm p.2 ∧
    (p.1.request? = none → p.2 = [])

theorem IsCourse.idle {l : Line} {course : List (Line × List Stimulus)}
    (idle : l.request? = none) (lawful : IsCourse course) : IsCourse ((l, []) :: course) :=
  List.forall_mem_cons.2 ⟨⟨by rw [idle]; rfl, ⟨nofun, nofun⟩, fun _ => rfl⟩, lawful⟩

def RanLines (t : Trial) (course : List (Line × List Stimulus)) (t' : Trial) : Prop :=
  t'.client = (t.client.runLines course).1 ∧
    t'.actions = t.actions ++ (t.client.runLines course).2

theorem RanLines.cons {l : Line} {script : List Stimulus} {course : List (Line × List Stimulus)}
    (noted : t'.actions = t.actions ++ l.notes.map .note ∧ t'.client = t.client)
    (ran : t'.Ran script t'') {t₃ : Trial} (rest : t''.RanLines course t₃) :
    t.RanLines ((l, script) :: course) t₃ := by
  obtain ⟨client, actions⟩ := ran
  obtain ⟨client', actions'⟩ := rest
  rw [noted.2] at client actions
  rw [client] at client' actions'
  rw [RanLines, Client.runLines_cons, client', actions', actions, noted.1]
  simp only [List.append_assoc, and_self]

/-- How a reading ends: at the end of the lines, or at one that is no text. -/
def EndsIn (rest : List Line) (fault : Option Fault) : Prop :=
  rest = [] ∧ fault = none ∨
    ∃ cause later, rest = .notText cause :: later ∧ fault = some (.stream cause)

theorem feed_spec (up : t.client.IsUp) (ls : List Line) :
    ∃ course rest, ls = course.map Prod.fst ++ rest ∧ (∀ p ∈ course, p.1.isText) ∧
      IsCourse course ∧ EndsIn rest (t.feed ls).2 ∧ (t.feed ls).1.client.IsUp ∧
      t.RanLines course (t.feed ls).1 := by
  induction ls generalizing t with
  | nil => exact ⟨[], [], rfl, nofun, nofun, .inl ⟨rfl, rfl⟩, up, rfl, (List.append_nil _).symm⟩
  | cons l ls ih =>
    cases l with
    | notText cause =>
      exact ⟨[], _, rfl, nofun, nofun, .inr ⟨cause, ls, rfl, rfl⟩, up, rfl,
        (List.append_nil _).symm⟩
    | blank =>
      obtain ⟨course, rest, rfl, readable, lawful, ended, lasting, ran⟩ := ih up
      exact ⟨(.blank, []) :: course, rest, rfl, List.forall_mem_cons.2 ⟨rfl, readable⟩,
        lawful.idle rfl, ended, lasting, .cons ⟨(List.append_nil _).symm, rfl⟩ (ran_nil _) ran⟩
    | malformed =>
      obtain ⟨course, rest, rfl, readable, lawful, ended, lasting, ran⟩ :=
        ih (t := t.note .requestMalformed) up
      have noted := t.actions_note .requestMalformed
      exact ⟨(.malformed, []) :: course, rest, rfl, List.forall_mem_cons.2 ⟨rfl, readable⟩,
        lawful.idle rfl, ended, lasting, .cons (l := .malformed) ⟨noted, rfl⟩ (ran_nil _) ran⟩
    | request r =>
      obtain ⟨script, t', taken, asked, calm, ran⟩ := ran_submit (t := t.note (.requestRead r)) up r
      have there : t'.client.IsUp := by
        rw [ran.1]
        exact Client.isUp_run up calm.1 calm.2
      have goes : t.feed (.request r :: ls) = t'.feed ls := by rw [feed, taken]
      obtain ⟨course, rest, rfl, readable, lawful, ended, lasting, later⟩ := ih there
      have noted := t.actions_note (.requestRead r)
      rw [goes]
      exact ⟨(.request r, script) :: course, rest, rfl, List.forall_mem_cons.2 ⟨rfl, readable⟩,
        List.forall_mem_cons.2 ⟨⟨asked, calm, nofun⟩, lawful⟩, ended, lasting,
        .cons (l := .request r) ⟨noted, rfl⟩ ran later⟩

theorem requests_of_course {course : List (Line × List Stimulus)} (lawful : IsCourse course) :
    (course.flatMap Prod.snd).filterMap Stimulus.request? =
      (course.map Prod.fst).filterMap Line.request? := by
  induction course with
  | nil => rfl
  | cons p course ih =>
    rw [IsCourse, List.forall_mem_cons] at lawful
    rw [List.flatMap_cons, List.filterMap_append, lawful.1.1, ih lawful.2, List.map_cons,
      List.filterMap_cons]
    cases p.1.request? <;> rfl

theorem client_runLines (c : Client) (course : List (Line × List Stimulus)) :
    (c.runLines course).1 = (c.run (course.flatMap Prod.snd)).1 := by
  induction course generalizing c with
  | nil => rfl
  | cons p course ih =>
    rw [List.flatMap_cons, Client.run_append]
    exact ih _

theorem EndsIn.none_iff {rest : List Line} {fault : Option Fault} (h : EndsIn rest fault) :
    fault = none ↔ ∀ l ∈ rest, l.isText := by
  obtain ⟨rfl, rfl⟩ | ⟨cause, later, rfl, rfl⟩ := h
  · exact iff_of_true rfl nofun
  · exact iff_of_false nofun fun all => absurd (all _ List.mem_cons_self) nofun

/-- The requests of the lines before the first that is no text are made, each once
and in their order; a malformed line among them leaves its note and nothing else. The
reading comes to the end of the input, without a fault, exactly if every line is text. -/
theorem requests_of_lines {t : Trial} (up : t.client.IsUp) (bs : List UInt8) :
    let ls := (LineBridge.lines bs).map Line.ofOctets
    let o := t.feedOctets bs
    (∃ (parts : List (List UInt8)) (last : List UInt8), (∀ part ∈ parts, 10 ∉ part) ∧ 10 ∉ last ∧
      bs = parts.flatMap (· ++ [10]) ++ last ∧
      LineBridge.lines bs =
        parts.map LineBridge.withoutReturn ++ if last.isEmpty then [] else [last]) ∧
    ∃ course rest, ls = course.map Prod.fst ++ rest ∧ (∀ p ∈ course, p.1.isText) ∧
      EndsIn rest o.2 ∧ IsCourse course ∧ t.RanLines course o.1 ∧ o.1.client.IsUp ∧
      (let requests := (course.map Prod.fst).filterMap Line.request?
       (t.client.inputs (course.flatMap Prod.snd)).filterMap Gateway.Input.request? ++
          o.1.client.queue = t.client.queue ++ requests ∧
        (o.2 = none ↔ ∀ l ∈ ls, l.isText) ∧
        (o.2 = none → requests = ls.filterMap Line.request?)) := by
  intro ls o
  obtain ⟨parts, last, free, freeLast, rfl⟩ := exists_parts 10 bs
  obtain ⟨course, rest, cut, readable, lawful, ended, lasting, ran⟩ := feed_spec up ls
  refine ⟨⟨parts, last, free, freeLast, rfl, LineBridge.lines_parts free freeLast⟩,
    course, rest, cut, readable, ended, lawful, ran, lasting, ?_, ?_, ?_⟩
  · have calm : IsCalm (course.flatMap Prod.snd) := by
      simp only [IsCalm, List.mem_flatMap, not_exists, not_and]
      exact ⟨fun p hp => (lawful p hp).2.1.1, fun p hp => (lawful p hp).2.1.2⟩
    have answered := Client.run_answered up calm.1 calm.2
    rwa [requests_of_course lawful, ← client_runLines, ← ran.1] at answered
  · have ends : o.2 = none ↔ ∀ l ∈ rest, l.isText := ended.none_iff
    rw [ends, cut, List.forall_mem_append, List.forall_mem_map]
    exact (and_iff_right readable).symm
  · intro faultless
    obtain ⟨rfl, -⟩ | ⟨cause, later, -, fault⟩ := ended
    · rw [cut, List.append_nil]
    · exact absurd (faultless.symm.trans fault) nofun

def dialling : Trial := ⟨(Client.start 5000).1, .empty, true, 0, 0, [], []⟩

def asText (s : String) : List UInt8 := s.toList.map fun c => UInt8.ofNat c.toNat

/-- Two requests among lines that are none: not JSON, blank, of the wrong shape and
out of range. The last line is not ended. -/
def mixedLines : List UInt8 :=
  asText "getNetworkInfo\r\n \r\n\x7b\"request\":\"getNetworkInfo\"\x7d\r\n" ++
    asText "[\"sendToggle\",1]\n[\"sendToggle\",\x7b\"targetAddress\":\x7b\"short\":65536\x7d\x7d]\n" ++
    asText "[\"sendToggle\",\x7b\x7d]"

theorem malformed_lines_skipped :
    dialling.client.IsUp ∧ (dialling.feedOctets mixedLines).2 = none ∧
    ∃ script, (dialling.client.inputs script).filterMap Gateway.Input.request? ++
      (dialling.feedOctets mixedLines).1.client.queue = [.getNetworkInfo, .sendToggle none] := by
  have up : dialling.client.IsUp := Client.isUp_start 5000
  have said : (LineBridge.lines mixedLines).map Line.ofOctets =
      [.malformed, .blank, .request .getNetworkInfo, .malformed, .malformed,
        .request (.sendToggle none)] := by decide +kernel
  obtain ⟨-, course, rest, -, -, -, -, -, -, answered, faultless, all⟩ :=
    requests_of_lines up mixedLines
  have read : (dialling.feedOctets mixedLines).2 = none :=
    faultless.2 (by rw [said]; decide)
  rw [all read, said] at answered
  exact ⟨up, read, _, answered⟩

def strayOctet : List UInt8 :=
  [0xFF, 10] ++ asText "\x7b\"request\":\"getNetworkInfo\"\x7d\n"

/-- A line that is no text takes the request after it away, and the input fails. -/
theorem stray_octet_ends_requests :
    ((LineBridge.lines strayOctet).map Line.ofOctets).filterMap Line.request? =
      [.getNetworkInfo] ∧
    dialling.feedOctets strayOctet = (dialling, some (.stream (.notText 1 0))) ∧
    dialling.client.IsUp ∧ dialling.client.queue = [] := by
  have first : (LineBridge.lines strayOctet).map Line.ofOctets =
      [.notText (.notText 1 0), .request .getNetworkInfo] := by decide +kernel
  refine ⟨by rw [first]; rfl, ?_, Client.isUp_start 5000, rfl⟩
  rw [feedOctets, first]
  rfl

end Trial

end CollectorGateway
