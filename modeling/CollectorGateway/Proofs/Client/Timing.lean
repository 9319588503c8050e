import CollectorGateway.Proofs.Client.Link

/-!
When the client calls again. Nothing that happens while it waits moves the
deadline: no call comes before it, and if the clock stands still whenever the
timer is due, the next call comes at the first moment that the clock shows at or
past it. How far the clock moves at once is up to the run, so that moment is the
deadline itself only if the clock does not jump over it.
-/

namespace CollectorGateway.Client

open CollectorGateway.Action (linkMarks)

variable {c c' : Client} {s : Stimulus} {actions : List Action}

/-- What the clock showed at each call of a run. -/
def dials (c : Client) : List (Bool × Stimulus) → List Nat
  | [] => []
  | (writable, s) :: rest =>
    let next := c.stepOn writable s
    List.replicate ((linkMarks next.2).count .dialled) c.clock ++ next.1.dials rest

/-- What the clock shows at each step of a run and at its end. -/
def moments (now : Nat) : List (Bool × Stimulus) → List Nat
  | [] => [now]
  | (_, s) :: rest => now :: moments (now + s.span) rest

def duration : List (Bool × Stimulus) → Nat
  | [] => 0
  | (_, s) :: rest => s.span + duration rest

/-- No time passes while the timer is due, and in the end it is not. -/
def isPunctual (c : Client) : List (Bool × Stimulus) → Bool
  | [] => !c.isDue .timer
  | (writable, s) :: rest =>
    (s.span = 0 || !c.isDue .timer) && (c.stepOn writable s).1.isPunctual rest

/-- Each call is refused before any time passes. -/
def isRebuffed (c : Client) : List (Bool × Stimulus) → Bool
  | [] => true
  | (writable, s) :: rest =>
    (s.span = 0 || c.activity ≠ .connecting) && c.callOutcome? s ≠ some true &&
      (c.stepOn writable s).1.isRebuffed rest

def Fails (actions : List Action) : Prop :=
  .note .linkLost ∈ actions ∨ .note .linkRefused ∈ actions

theorem le_of_mem_moments {now m : Nat} {script : List (Bool × Stimulus)}
    (h : m ∈ moments now script) : now ≤ m := by
  induction script generalizing now with
  | nil =>
    have same : m = now := by simpa [moments] using h
    omega
  | cons e rest ih =>
    obtain rfl | h := List.mem_cons.1 h
    · exact Nat.le_refl _
    · have := ih h
      omega

theorem find?_moments {now time : Nat} {script : List (Bool × Stimulus)}
    (h : time ∈ moments now script) : (moments now script).find? (time ≤ ·) = some time := by
  induction script generalizing now with
  | nil =>
    have same : time = now := by simpa [moments] using h
    simp [moments, same]
  | cons e rest ih =>
    by_cases past : time ≤ now
    · have same : time = now := Nat.le_antisymm past (le_of_mem_moments h)
      simp [moments, same]
    · have later : time ∈ moments (now + e.2.span) rest :=
        (List.mem_cons.1 h).resolve_left (by omega)
      rw [moments, List.find?_cons_of_neg (by simpa using past)]
      exact ih later

theorem find?_moments_of_le {now time : Nat} (past : time ≤ now)
    (script : List (Bool × Stimulus)) : (moments now script).find? (time ≤ ·) = some now := by
  cases script <;> simp [moments, past]

theorem mem_moments (now : Nat) (script : List (Bool × Stimulus)) : now ∈ moments now script := by
  cases script <;> simp [moments]

theorem stopped_runOn (h : c.IsCoherent) (stopped : c.activity = .stopped)
    (script : List (Bool × Stimulus)) : (c.runOn script).1.activity = .stopped := by
  induction script generalizing c with
  | nil => exact stopped
  | cons e rest ih =>
    exact ih (isCoherent_stepOn h e.1 e.2) ((fares_stepOn h e.1 e.2).stopped stopped)

theorem wait_runOn (h : c.IsCoherent) (script : List (Bool × Stimulus)) :
    (c.runOn script).1.wait = c.wait := by
  induction script generalizing c with
  | nil => rfl
  | cons e rest ih =>
    have later := ih (isCoherent_stepOn h e.1 e.2)
    exact later.trans (clock_stepOn h e.1 e.2).2

theorem waiting_of_fails (h : c.IsCoherent) {writable : Bool}
    (fails : Fails (c.stepOn writable s).2) :
    (c.stepOn writable s).1.activity = .waiting (c.clock + c.wait) ∧
      (c.stepOn writable s).1.clock = c.clock := by
  have failed : .lost ∈ linkMarks (c.stepOn writable s).2 ∨
      .refused ∈ linkMarks (c.stepOn writable s).2 := by
    obtain lost | refused := fails
    · exact .inl (List.mem_filterMap.2 ⟨_, lost, rfl⟩)
    · exact .inr (List.mem_filterMap.2 ⟨_, refused, rfl⟩)
  refine ⟨?_, ?_⟩
  · cases fares_stepOn h writable s with
    | refused _ _ waiting | lost _ _ _ waiting | broken _ _ waiting => exact waiting
    | aside _ _ _ marks | answered _ _ _ _ marks | dialled _ _ _ _ _ _ marks =>
      simp [marks] at failed
    | halted _ _ _ marks =>
      rw [marks] at failed
      split at failed <;> simp at failed
  · rw [(clock_stepOn h writable s).1]
    cases s with
    | elapsed ms => simp [Fails, stepOn, step] at fails
    | _ => rfl

def CallsNotBefore (c : Client) (time : Nat) : Prop :=
  match c.activity with
  | .waiting deadline => time ≤ deadline
  | .stopped => True
  | _ => time ≤ c.clock + c.wait

theorem Fares.callsNotBefore (fares : Fares c s c' actions) {time : Nat}
    (bound : c.CallsNotBefore time) (clock : c'.clock = c.clock + s.span) (wait : c'.wait = c.wait) :
    ((linkMarks actions).count .dialled = 0 ∧ c'.CallsNotBefore time) ∨
    ((linkMarks actions).count .dialled = 1 ∧ time ≤ c.clock ∧
      c'.CallsNotBefore (c.clock + c.wait)) := by
  cases fares with
  | aside _ activity _ marks =>
    refine .inl ⟨by simp [marks], ?_⟩
    unfold CallsNotBefore at bound ⊢
    obtain same | ⟨session, session', serving', serving⟩ := Activity.bare_eq_iff.1 activity
    · rw [same]
      split at bound
      · exact bound
      · exact bound
      · omega
    · rw [serving] at bound
      rw [serving']
      simp only at bound ⊢
      omega
  | halted _ activity _ marks =>
    refine .inl ⟨?_, by simp [CallsNotBefore, activity]⟩
    rw [marks]
    split <;> simp
  | answered dialled _ activity _ marks =>
    simp only [CallsNotBefore, dialled] at bound
    refine .inl ⟨by simp [marks], ?_⟩
    simp only [CallsNotBefore, activity]
    omega
  | refused active _ activity _ marks | lost _ active _ activity _ marks
  | broken active _ activity _ marks =>
    simp only [CallsNotBefore, active] at bound
    refine .inl ⟨by simp [marks, lossMarks], ?_⟩
    simpa only [CallsNotBefore, activity] using bound
  | dialled deadline waiting due _ activity _ marks =>
    simp only [CallsNotBefore, waiting] at bound
    refine .inr ⟨by simp [marks], by omega, ?_⟩
    simp only [CallsNotBefore, activity]
    omega

theorem dials_spaced (h : c.IsCoherent) {time : Nat} (bound : c.CallsNotBefore time)
    (script : List (Bool × Stimulus)) :
    (∀ a ∈ c.dials script, time ≤ a) ∧
      (c.dials script).Pairwise fun a b => a + c.wait ≤ b := by
  induction script generalizing c time with
  | nil => simp [dials]
  | cons e rest ih =>
    have coherent := isCoherent_stepOn h e.1 e.2
    obtain ⟨clock, wait⟩ := clock_stepOn h e.1 e.2
    have taken : c.dials (e :: rest) =
        List.replicate ((linkMarks (c.stepOn e.1 e.2).2).count .dialled) c.clock ++
          (c.stepOn e.1 e.2).1.dials rest := rfl
    obtain ⟨none, bound⟩ | ⟨one, due, bound⟩ :=
      (fares_stepOn h e.1 e.2).callsNotBefore bound clock wait
    · rw [taken, none]
      simpa [wait] using ih coherent bound
    · obtain ⟨after, spaced⟩ := ih coherent bound
      rw [wait] at spaced
      rw [taken, one]
      refine ⟨?_, List.pairwise_cons.2 ⟨after, spaced⟩⟩
      intro a ha
      obtain rfl | ha := List.mem_cons.1 ha
      · exact due
      · have := after a ha
        omega

theorem isDue_timer_iff {deadline : Nat} (waiting : c.activity = .waiting deadline) :
    c.isDue .timer = true ↔ deadline ≤ c.clock := by
  simp [isDue, waiting]

theorem head?_dials (h : c.IsCoherent) {deadline : Nat} (waiting : c.activity = .waiting deadline)
    {later : List (Bool × Stimulus)} (punctual : c.isPunctual later = true)
    (running : (c.runOn later).1.activity ≠ .stopped) :
    (c.dials later).head? = (moments c.clock later).find? (deadline ≤ ·) := by
  induction later generalizing c with
  | nil =>
    have early : ¬deadline ≤ c.clock := by
      rw [← isDue_timer_iff waiting]
      simpa [isPunctual] using punctual
    rw [moments, List.find?_cons_of_neg (by simpa using early)]
    rfl
  | cons e rest ih =>
    obtain ⟨writable, s⟩ := e
    have fares := fares_stepOn h writable s
    have coherent := isCoherent_stepOn h writable s
    obtain ⟨clock, -⟩ := clock_stepOn h writable s
    simp only [isPunctual, Bool.and_eq_true] at punctual
    obtain ⟨still, punctual⟩ := punctual
    simp only [runOn] at running
    simp only [dials, moments]
    generalize c.stepOn writable s = next at *
    cases fares with
    | aside _ activity _ marks =>
      rw [waiting] at activity
      have first := ih coherent (Activity.eq_of_bare activity (by simp)) punctual running
      rw [clock] at first
      rw [marks]
      by_cases due : deadline ≤ c.clock
      -- The timer is due, so this step takes no time and the first moment stays the same.
      · have none : s.span = 0 := by simpa [(isDue_timer_iff waiting).2 due] using still
        rw [none, Nat.add_zero, find?_moments_of_le due] at first
        rw [List.find?_cons_of_pos (by simpa using due)]
        exact first
      · rw [List.find?_cons_of_neg (by simpa using due)]
        exact first
    | halted _ stopped => exact absurd (stopped_runOn coherent stopped rest) running
    | answered active | refused active | broken active | lost _ active => simp [waiting] at active
    | dialled deadline' active due _ _ _ marks =>
      cases waiting.symm.trans active
      rw [marks, List.find?_cons_of_pos (by simpa using due)]
      rfl

theorem add_mul_wait (t w k : Nat) : t + w + k * w = t + (k + 1) * w := by
  rw [Nat.succ_mul]
  omega

/-- The time of the next call, in a client that waits for it or for the outcome of
one that will be refused. -/
def NextCall (c : Client) (time : Nat) : Prop :=
  match c.activity with
  | .waiting deadline => time = deadline ∧ c.clock ≤ deadline
  | .connecting => time = c.clock + c.wait
  | _ => False

theorem NextCall.early {time : Nat} (next : c.NextCall time)
    (undue : (!c.isDue .timer) = true) (settled : c.activity ≠ .connecting) :
    c.activity = .waiting time ∧ c.clock < time := by
  unfold NextCall at next
  split at next
  · rename_i deadline waiting
    have early : ¬deadline ≤ c.clock := by
      rw [← isDue_timer_iff waiting]
      simpa using undue
    exact ⟨next.1 ▸ waiting, by omega⟩
  · rename_i dialled
    exact absurd dialled settled
  · exact next.elim

theorem Fares.nextCall (fares : Fares c s c' actions) {time : Nat} (next : c.NextCall time)
    (clock : c'.clock = c.clock + s.span) (wait : c'.wait = c.wait)
    (untaken : c.callOutcome? s ≠ some true) (running : c'.activity ≠ .stopped)
    (paced : s.span ≠ 0 → c.activity = .waiting time ∧ c'.clock ≤ time) :
    ((linkMarks actions).count .dialled = 0 ∧ c'.NextCall time) ∨
    ((linkMarks actions).count .dialled = 1 ∧ time = c.clock ∧ c'.NextCall (time + c.wait)) := by
  cases fares with
  | aside _ activity _ marks =>
    refine .inl ⟨by simp [marks], ?_⟩
    unfold NextCall at next
    split at next
    · rename_i deadline waiting
      rw [waiting] at activity
      simp only [NextCall, Activity.eq_of_bare activity (by simp)]
      by_cases still : s.span = 0
      · omega
      · have := (paced still).2
        omega
    · rename_i dialled
      rw [dialled] at activity
      have still : s.span = 0 := by simpa [dialled] using paced
      simp only [NextCall, Activity.eq_of_bare activity (by simp)]
      omega
    · exact next.elim
  | halted _ stopped => exact absurd stopped running
  | answered _ _ _ outcome | broken _ _ _ outcome => exact absurd outcome untaken
  | refused dialled _ activity _ marks =>
    refine .inl ⟨by simp [marks, lossMarks], ?_⟩
    have still : s.span = 0 := by simpa [dialled] using paced
    simp only [NextCall, dialled] at next
    simp only [NextCall, activity]
    omega
  | lost session serving => simp [NextCall, serving] at next
  | dialled deadline waiting due _ activity _ marks =>
    simp only [NextCall, waiting] at next
    have still : s.span = 0 := by
      by_cases still : s.span = 0
      · exact still
      · have := (paced still).2
        omega
    refine .inr ⟨by simp [marks], by omega, ?_⟩
    simp only [NextCall, activity]
    omega

theorem dials_rebuffed {time w n : Nat} (h : c.IsCoherent) (waits : c.wait = w)
    (positive : 1 ≤ w) (next : c.NextCall time) {later : List (Bool × Stimulus)}
    (punctual : c.isPunctual later = true) (rebuffed : c.isRebuffed later = true)
    (running : (c.runOn later).1.activity ≠ .stopped)
    (count : ∀ k, k < n ↔ time + k * w ≤ c.clock + duration later)
    (met : ∀ k, k < n → time + k * w ∈ moments c.clock later) :
    c.dials later = (List.range n).map fun k => time + k * w := by
  induction later generalizing c time n with
  | nil =>
    have early : c.clock < time := by
      by_cases dialled : c.activity = .connecting
      · simp only [NextCall, dialled] at next
        omega
      · exact (next.early punctual dialled).2
    cases n with
    | zero => rfl
    | succ m =>
      have soon := (count 0).1 m.succ_pos
      simp only [duration] at soon
      omega
  | cons e rest ih =>
    obtain ⟨writable, s⟩ := e
    have fares := fares_stepOn h writable s
    have coherent := isCoherent_stepOn h writable s
    obtain ⟨clock, wait⟩ := clock_stepOn h writable s
    simp only [isPunctual, Bool.and_eq_true, Bool.or_eq_true, decide_eq_true_eq] at punctual
    simp only [isRebuffed, Bool.and_eq_true, Bool.or_eq_true, decide_eq_true_eq] at rebuffed
    obtain ⟨still, punctual⟩ := punctual
    obtain ⟨⟨pending, untaken⟩, rebuffed⟩ := rebuffed
    simp only [runOn] at running
    simp only [duration, ← Nat.add_assoc, ← clock] at count
    simp only [moments, List.mem_cons, ← clock] at met
    simp only [dials]
    generalize c.stepOn writable s = after at *
    have early := fun moving : s.span ≠ 0 =>
      next.early (still.resolve_left moving) (pending.resolve_left moving)
    have met : ∀ k, k < n → time + k * w ∈ moments after.1.clock rest := by
      intro k within
      obtain now | later := met k within
      · have none : s.span = 0 := by
          by_cases moving : s.span = 0
          · exact moving
          · have := (early moving).2
            omega
        rw [now, show c.clock = after.1.clock by omega]
        exact mem_moments _ _
      · exact later
    -- If the clock is to reach the next call at all it shows that very moment, and so
    -- this step does not jump over it.
    have paced : s.span ≠ 0 → c.activity = .waiting time ∧ after.1.clock ≤ time := by
      intro moving
      refine ⟨(early moving).1, ?_⟩
      by_cases within : time ≤ after.1.clock + duration rest
      · have := le_of_mem_moments (met 0 ((count 0).2 (by omega)))
        omega
      · omega
    have going : after.1.activity ≠ .stopped := fun stopped =>
      running (stopped_runOn coherent stopped rest)
    obtain ⟨none, again⟩ | ⟨one, now, again⟩ := fares.nextCall next clock wait untaken going paced
    · rw [none]
      exact ih coherent (wait.trans waits) again punctual rebuffed running count met
    · rw [waits] at again
      have some_due : 0 < n := (count 0).2 (by omega)
      obtain ⟨m, rfl⟩ := Nat.exists_eq_add_one_of_ne_zero (Nat.ne_of_gt some_due)
      have left := ih (n := m) coherent (wait.trans waits) again punctual rebuffed running
        (fun k => by rw [add_mul_wait, ← count]; omega)
        (fun k within => by rw [add_mul_wait]; exact met (k + 1) (by omega))
      rw [one, left, List.range_succ_eq_map, List.map_cons, List.map_map, Nat.zero_mul,
        Nat.add_zero, now]
      exact congrArg _ (List.map_congr_left fun k _ => add_mul_wait _ w k)

/-- After a failure no call comes before the wait is over, or sooner than a wait after another.
If no time passes while the timer is due the next comes at the first moment past it, and if
each call is refused at once one comes at the end of every wait. -/
theorem reconnect_timing (delay : Nat) (positive : 1 ≤ delay)
    (before : List (Bool × Stimulus)) (writable : Bool) (s : Stimulus)
    (fails : Fails (((start delay).1.runOn before).1.stepOn writable s).2)
    (later : List (Bool × Stimulus)) :
    let client := (((start delay).1.runOn before).1.stepOn writable s).1
    let now := client.clock
    let wait := min delay longestWait
    (∀ a ∈ client.dials later, now + wait ≤ a) ∧
    (client.dials later).Pairwise (fun a b => a + wait ≤ b) ∧
    (client.isPunctual later = true → (client.runOn later).1.activity ≠ .stopped →
      (client.dials later).head? = (moments now later).find? (now + wait ≤ ·) ∧
      (now + wait ∈ moments now later → (client.dials later).head? = some (now + wait)) ∧
      (client.isRebuffed later = true →
        (∀ k, 1 ≤ k → k * wait ≤ duration later → now + k * wait ∈ moments now later) →
        client.dials later =
          (List.range (duration later / wait)).map fun k => now + (k + 1) * wait)) := by
  intro client now wait
  have begun := isCoherent_runOn (isCoherent_start delay) before
  have coherent : client.IsCoherent := isCoherent_stepOn begun writable s
  have longest : 1 ≤ longestWait := by decide
  have timed : ((start delay).1.runOn before).1.wait = wait :=
    wait_runOn (isCoherent_start delay) before
  have waits : client.wait = wait := ((clock_stepOn begun writable s).2).trans timed
  obtain ⟨waiting, clock⟩ := waiting_of_fails begun fails
  rw [← clock, timed] at waiting
  change client.activity = .waiting (now + wait) at waiting
  have bound : client.CallsNotBefore (now + wait) := by
    simp only [CallsNotBefore, waiting, Nat.le_refl]
  have next : client.NextCall (now + wait) := by
    simp only [NextCall, waiting, true_and]
    exact Nat.le_add_right _ _
  have spaced := dials_spaced coherent bound later
  rw [waits] at spaced
  refine ⟨spaced.1, spaced.2, fun punctual running => ?_⟩
  have first := head?_dials coherent waiting punctual running
  refine ⟨first, fun shown => first.trans (find?_moments shown), fun rebuffed met => ?_⟩
  have count : ∀ k, k < duration later / wait ↔
      now + wait + k * wait ≤ now + duration later := by
    intro k
    rw [add_mul_wait, Nat.add_le_add_iff_left, ← Nat.le_div_iff_mul_le (by omega)]
    exact Iff.rfl
  have calls := dials_rebuffed coherent waits (by omega) next punctual rebuffed running count
    fun k within => by
      have ends := (count k).1 within
      rw [add_mul_wait] at ends ⊢
      exact met (k + 1) k.succ_pos (by omega)
  rw [calls]
  exact List.map_congr_left fun k _ => add_mul_wait now wait k

/-- A request comes in the middle of a wait and is answered when the wait is over,
before the timer is looked at; a second wait follows. -/
def busyWait : List (Bool × Stimulus) :=
  [(true, .elapsed 3000), (true, .submitted .getDeviceArray), (true, .elapsed 2000),
    (true, .turn .request), (true, .turn .timer), (true, .refused), (true, .elapsed 5000),
    (true, .turn .timer), (true, .refused)]

theorem busyWait_ends_on_time :
    let failed := (start 5000).1.stepOn true .refused
    1 ≤ 5000 ∧ Fails failed.2 ∧ failed.1.isPunctual busyWait = true ∧
    (failed.1.dials busyWait).head? = some 5000 ∧
    failed.1.dials busyWait = [5000, 10000] := by
  intro failed
  have fails : Fails failed.2 := .inr List.mem_cons_self
  have punctual : failed.1.isPunctual busyWait = true := by decide +kernel
  obtain ⟨-, -, timed⟩ := reconnect_timing 5000 (by decide) [] true .refused fails busyWait
  obtain ⟨-, first, calls⟩ := timed punctual (by decide +kernel)
  have shown : ∀ k, 1 ≤ k → k * 5000 ≤ 10000 → 0 + k * 5000 ∈ moments 0 busyWait := by
    intro k positive within
    obtain rfl | rfl : k = 1 ∨ k = 2 := by omega
    · decide
    · decide
  exact ⟨by decide, fails, punctual, first (by decide +kernel), calls (by decide +kernel) shown⟩

/-- A clock that jumps over the end of a wait, and a wait that is too long to be
timed: the call comes late, once for all the waits that are over, or early. -/
theorem wait_is_not_delay :
    let failed := (start 5000).1.stepOn true .refused
    let endless := (start 9223372036854775807).1.stepOn true .refused
    let jump : List (Bool × Stimulus) :=
      [(true, .elapsed 60000), (true, .turn .timer), (true, .refused)]
    let ages : List (Bool × Stimulus) := [(true, .elapsed longestWait), (true, .turn .timer)]
    Fails failed.2 ∧ failed.1.clock = 0 ∧ (failed.1.runOn jump).1.activity ≠ .stopped ∧
    failed.1.isPunctual jump = true ∧ failed.1.isRebuffed jump = true ∧
    failed.1.dials jump = [60000] ∧
    (failed.1.dials jump).length ≠ duration jump / 5000 ∧
    Fails endless.2 ∧ endless.1.clock = 0 ∧ endless.1.isPunctual ages = true ∧
    endless.1.dials ages = [longestWait] ∧ longestWait < 9223372036854775807 := by
  intro failed endless jump ages
  exact ⟨.inr List.mem_cons_self, rfl, by decide +kernel, by decide +kernel, by decide +kernel,
    by decide +kernel, by decide +kernel, .inr List.mem_cons_self, rfl, by decide +kernel,
    by decide +kernel, by decide +kernel⟩

end CollectorGateway.Client
