import MetricTPower.Agent.PollTimer
import MetricTPower.Agent.Polling

/-!
# When the topology is read again

An asset message schedules a reload for a minute later, unless one is scheduled; `onPoll` makes it
when the clock has reached the time, and a reload that fails schedules the next one. What a step can
do to the schedule is in `Agent.step_schedule`; the rest follows from it and from a clock that does
not go back. So the first of several messages has its reload in time (`processAsset_reloads`). But
the README says that a message which arrives while a reload is scheduled postpones it, and the code
leaves the schedule as it is: the reload may come a second after the last message.

## Main definitions

* `Agent.TimerInTime`: the poll timer ends when the scheduled reload is due.
* `Step.SetsTimer`: the steps that compute a new poll timeout.
* `ReloadsSettle`: in a run, polls reload a minute or more after every asset message.

## Main results

* `Agent.step_schedule`: what a step can do to the schedule.
* `processAsset_reloads`: an asset message is followed by a reload in time.
* `reloadsSettle_of_messages`: when reloads wait for the asset messages to settle.
-/

namespace MetricTPower

variable {V : Type} [Double V] {env : Env V}

namespace Agent

/-! ### The steps and the schedule -/

omit [Double V] in
variable (env) in
/-- A call of `configure` schedules a retry exactly when it fails. -/
theorem reconfigPending_configure (a : Agent V) :
    ∃ loaded, (a.configure env).world.history =
        .configure a.world.pos loaded :: a.world.history ∧
      (a.configure env).conf.reconfigPending =
        if loaded then 0 else (env.time a.world.pos).toInt + 60 := by
  refine ⟨_, rfl, ?_⟩
  rw [configure, TotalPowerConfiguration.configure_eq]

variable (env) in
/-- **What a step can do to the schedule**: nothing; or it is an asset message, and schedules the
first reload; or it calls `configure`, which clears the schedule when it succeeds and schedules a
retry when it fails. -/
theorem step_schedule (a : Agent V) (s : Step V) :
    ((a.step env s).conf.reconfigPending = a.conf.reconfigPending ∧
      (a.step env s).loads = a.loads) ∨
    (a.conf.reconfigPending = 0 ∧ (∃ operation ∈ assetOperations, s = .processAsset operation) ∧
      (a.step env s).conf.reconfigPending = (env.time a.world.pos).toInt + 60 ∧
      (a.step env s).loads = a.loads) ∨
    ((a.step env s).loads = a.loads + 1 ∧ ∃ place loaded, a.world.pos ≤ place ∧
      place < (a.step env s).world.pos ∧
      (a.step env s).world.history.head? = some (.configure place loaded) ∧
      (a.step env s).conf.reconfigPending =
        (if loaded then 0 else (env.time place).toInt + 60)) := by
  cases s with
  | configure =>
    obtain ⟨loaded, hhistory, hpending⟩ := reconfigPending_configure env a
    refine Or.inr (Or.inr ⟨loads_configure a, a.world.pos, loaded, le_rfl, Nat.lt_succ_self _, ?_,
      hpending⟩)
    rw [step, hhistory]
    rfl
  | processMetric M topic =>
    have hunits := unitsOnly_of_unitMoves (processMetric_unitMoves env M topic a)
    exact Or.inl ⟨hunits.reconfigPending, hunits.loads⟩
  | processAsset operation =>
    simp only [step, processAsset, scheduleReconfig]
    by_cases hop : operation ∈ assetOperations
    · rw [if_pos hop]
      by_cases hzero : a.conf.reconfigPending = 0
      · rw [if_pos hzero]
        exact Or.inr (Or.inl ⟨hzero, ⟨operation, hop, rfl⟩, rfl, rfl⟩)
      · rw [if_neg hzero]
        exact Or.inl ⟨rfl, rfl⟩
    · rw [if_neg hop]
      exact Or.inl ⟨rfl, rfl⟩
  | onPoll =>
    have hunits := unitsOnly_checked env a
    rcases onPoll_cases env a with ⟨-, -, hpoll⟩ | ⟨-, hpoll⟩
    · obtain ⟨loaded, hhistory, hpending⟩ := reconfigPending_configure env (a.checked env)
      rw [step, hpoll, loads_setPollInterval, loads_configure, hunits.loads]
      refine Or.inr (Or.inr ⟨rfl, a.pollCheck env + 1, loaded, ?_, ?_, ?_, hpending⟩)
      · exact (pos_le_pollCheck env a).trans (Nat.le_succ _)
      · exact Nat.lt_of_lt_of_le (Nat.lt_succ_self _) (Nat.le_add_right _ _)
      · exact congrArg List.head? hhistory
    · rw [step, hpoll, loads_setPollInterval, reconfigPending_setPollInterval]
      exact Or.inl ⟨hunits.reconfigPending, hunits.loads⟩
  | setPollInterval => exact Or.inl ⟨rfl, rfl⟩

/-! ### The schedule in a run -/

/-- A scheduled reload stays scheduled for the same time until `configure` is called. -/
theorem reconfigPending_steps (a : Agent V) (steps : List (Step V))
    (hpending : a.conf.reconfigPending ≠ 0) (hloads : (a.steps env steps).loads = a.loads) :
    (a.steps env steps).conf.reconfigPending = a.conf.reconfigPending := by
  induction steps generalizing a with
  | nil => rfl
  | cons s steps ih =>
    have hfirst : a.loads ≤ (a.step env s).loads := loads_le_of_moves (step_moves env a s)
    have hrest : (a.step env s).loads ≤ a.loads :=
      (loads_le_of_moves (steps_moves env _ steps)).trans hloads.le
    rcases step_schedule env a s with ⟨hsame, -⟩ | ⟨hzero, -⟩ | ⟨hmore, -⟩
    · have hloads' : ((a.step env s).steps env steps).loads = (a.step env s).loads :=
        hloads.trans (hfirst.antisymm hrest)
      exact (ih (a.step env s) (by rwa [hsame]) hloads').trans hsame
    · exact absurd hzero hpending
    · omega

variable (env) in
/-- A scheduled reload is at most a minute away. -/
def Soon (a : Agent V) : Prop :=
  a.conf.reconfigPending = 0 ∨ a.conf.reconfigPending ≤ (env.time a.world.pos).toInt + 60

theorem soon_step (hclock : ∀ i j, i ≤ j → env.time i ≤ env.time j) {a : Agent V}
    (ha : a.Soon env) (s : Step V) : (a.step env s).Soon env := by
  have hpos : a.world.pos ≤ (a.step env s).world.pos := pos_le_of_moves (step_moves env a s)
  have hlater : ∀ i, i ≤ (a.step env s).world.pos →
      (env.time i).toInt ≤ (env.time (a.step env s).world.pos).toInt := fun i hi =>
    Int64.le_iff_toInt_le.mp (hclock i _ hi)
  rw [Soon]
  rcases step_schedule env a s with
    ⟨hsame, -⟩ | ⟨-, -, hnew, -⟩ | ⟨-, place, loaded, -, hplace, -, hnew⟩
  · rw [hsame]
    exact ha.imp_right fun h => h.trans (Int.add_le_add_right (hlater _ hpos) 60)
  · rw [hnew]
    exact Or.inr (Int.add_le_add_right (hlater _ hpos) 60)
  · rw [hnew]
    cases loaded with
    | true => exact Or.inl rfl
    | false => exact Or.inr (Int.add_le_add_right (hlater _ hplace.le) 60)

theorem soon_run (hclock : ∀ i j, i ≤ j → env.time i ≤ env.time j) (steps : List (Step V)) :
    (run env steps).Soon env := by
  induction steps using List.reverseRecOn with
  | nil => exact Or.inl rfl
  | append_singleton steps s ih =>
    rw [run_append]
    exact soon_step hclock ih s

variable (env) in
/-- An asset message leaves a reload scheduled. -/
theorem reconfigPending_processAsset (a : Agent V) {operation : String}
    (hop : operation ∈ assetOperations) :
    (a.processAsset env operation).conf.reconfigPending =
        (if a.conf.reconfigPending = 0 then (env.time a.world.pos).toInt + 60
        else a.conf.reconfigPending) := by
  rw [processAsset, if_pos hop, scheduleReconfig]
  split <;> rfl

theorem loads_processAsset (a : Agent V) (operation : String) :
    (a.processAsset env operation).loads = a.loads := by
  rw [processAsset, scheduleReconfig]
  split
  · split <;> rfl
  · rfl

/-! ### The poll timer -/

variable (env) in
/-- The timer that was set with the last reading of the clock ends in the first second in which the
scheduled reload is due. -/
def TimerInTime (a : Agent V) : Prop :=
  a.conf.timeout ≤
    1000 * max 1 (a.conf.reconfigPending - (env.time (a.world.pos - 1)).toInt + 1)

theorem timerInTime_setPollInterval (a : Agent V) (hpending : a.conf.reconfigPending ≠ 0) :
    (a.setPollInterval env).TimerInTime env :=
  (TotalPowerConfiguration.getPollInterval_le_iff a.conf
    (fun i => env.time (a.world.pos + i)) _).mpr (Or.inr (Or.inr ⟨hpending, le_rfl⟩))

end Agent

omit [Double V] in
/-- The steps that compute a new poll timeout. -/
def Step.SetsTimer : Step V → Prop
  | .configure => False
  | .processMetric _ _ => False
  | .processAsset operation => operation ∈ Agent.assetOperations
  | .onPoll => True
  | .setPollInterval => True

namespace Agent

/-- A step that computes a timeout ends with it. -/
theorem timerInTime_step (a : Agent V) {s : Step V} (hs : s.SetsTimer)
    (hpending : (a.step env s).conf.reconfigPending ≠ 0) : (a.step env s).TimerInTime env := by
  obtain ⟨b, hb⟩ : ∃ b : Agent V, a.step env s = b.setPollInterval env := by
    cases s with
    | configure => exact hs.elim
    | processMetric M topic => exact hs.elim
    | processAsset operation => exact ⟨_, if_pos hs⟩
    | onPoll => exact ⟨_, rfl⟩
    | setPollInterval => exact ⟨a, rfl⟩
  rw [hb] at hpending ⊢
  exact timerInTime_setPollInterval b hpending

end Agent

/-! ### After an asset message -/

omit [Double V] in
theorem toInt_time_pos (hpositive : ∀ i, 0 < env.time i) (i : ℕ) : 0 < (env.time i).toInt :=
  Int64.lt_iff_toInt_lt.mp (hpositive i)

/-- The schedule is cleared by a successful reload only. -/
theorem head?_of_reconfigPending_eq_zero (hpositive : ∀ i, 0 < env.time i) (a : Agent V)
    (s : Step V) (hpending : a.conf.reconfigPending ≠ 0)
    (hcleared : (a.step env s).conf.reconfigPending = 0) :
    (a.step env s).loads = a.loads + 1 ∧
      ∃ place, (a.step env s).world.history.head? = some (.configure place true) := by
  rcases a.step_schedule env s with
    ⟨hsame, -⟩ | ⟨hzero, -⟩ | ⟨hloads, place, loaded, -, -, hhead, hnew⟩
  · exact absurd (hsame.symm.trans hcleared) hpending
  · exact absurd hzero hpending
  · cases loaded with
    | true => exact ⟨hloads, place, hhead⟩
    | false =>
      have htime := toInt_time_pos hpositive place
      have hretry : (a.step env s).conf.reconfigPending = (env.time place).toInt + 60 := hnew
      omega

/-- **No asset change is forgotten and its reload is on time.** In every run with a positive clock
that does not go back, from an asset message until the next call of `configure` begins: a reload is
scheduled for at most a minute after the message; a poll at which the clock has reached the time
makes it; and every timer that is set ends in the first second in which the reload is due. And in
every state of a run the schedule is cleared only by a call of `configure` that returns `true`. -/
theorem processAsset_reloads (env : Env V) (hclock : ∀ i j, i ≤ j → env.time i ≤ env.time j)
    (hpositive : ∀ i, 0 < env.time i) (before after : List (Step V)) (operation : String)
    (hop : operation ∈ Agent.assetOperations)
    (hloads : (((run env before).processAsset env operation).steps env after).loads =
      (run env before).loads) :
    let a := run env before
    let b := (a.processAsset env operation).steps env after
    (b.conf.reconfigPending ≠ 0 ∧
      b.conf.reconfigPending ≤ (env.time a.world.pos).toInt + 60) ∧
    (∀ i ≤ b.pollCheck env, b.conf.reconfigPending ≤ (env.time i).toInt →
      (b.onPoll env).loads = b.loads + 1) ∧
    ((a.processAsset env operation).TimerInTime env ∧
      ∀ s : Step V, s.SetsTimer → (b.step env s).loads = b.loads →
        (b.step env s).TimerInTime env) ∧
    ∀ s : Step V, a.conf.reconfigPending ≠ 0 → (a.step env s).conf.reconfigPending = 0 →
      (a.step env s).loads = a.loads + 1 ∧
        ∃ place, (a.step env s).world.history.head? = some (.configure place true) := by
  intro a b
  have hscheduled := a.reconfigPending_processAsset env hop
  have hmessage : (a.processAsset env operation).conf.reconfigPending ≠ 0 ∧
      (a.processAsset env operation).conf.reconfigPending ≤ (env.time a.world.pos).toInt + 60 := by
    rw [hscheduled]
    split
    · have htime := toInt_time_pos hpositive a.world.pos
      exact ⟨by omega, le_rfl⟩
    · rename_i hpending
      exact ⟨hpending, (Agent.soon_run hclock before).resolve_left hpending⟩
  have hkept : b.conf.reconfigPending = (a.processAsset env operation).conf.reconfigPending :=
    Agent.reconfigPending_steps _ after hmessage.1
      (hloads.trans (a.loads_processAsset operation).symm)
  have hpending : b.conf.reconfigPending ≠ 0 := by rw [hkept]; exact hmessage.1
  refine ⟨⟨hpending, hkept ▸ hmessage.2⟩, fun i hi hdue => ?_, ⟨?_, fun s hs hsame => ?_⟩, ?_⟩
  · exact b.loads_onPoll hpending
      (hdue.trans (Int64.le_iff_toInt_le.mp (hclock i _ hi)))
  · exact Agent.timerInTime_step a (s := .processAsset operation) hop hmessage.1
  · have hkept' : (b.step env s).conf.reconfigPending = b.conf.reconfigPending :=
      b.reconfigPending_steps [s] hpending hsame
    exact Agent.timerInTime_step b hs (by rwa [hkept'])
  · exact fun s => head?_of_reconfigPending_eq_zero hpositive a s

theorem processAsset_reloads_oneRack :
    let a := run oneRackEnv [.configure]
    let b := (a.processAsset oneRackEnv "update").steps oneRackEnv
      [.processMetric epduMetric epduMetric.generateTopic]
    (b.conf.reconfigPending ≠ 0 ∧
      b.conf.reconfigPending ≤ (oneRackEnv.time a.world.pos).toInt + 60) ∧
    (∀ i ≤ b.pollCheck oneRackEnv, b.conf.reconfigPending ≤ (oneRackEnv.time i).toInt →
      (b.onPoll oneRackEnv).loads = b.loads + 1) ∧
    ((a.processAsset oneRackEnv "update").TimerInTime oneRackEnv ∧
      ∀ s : Step Exact, s.SetsTimer → (b.step oneRackEnv s).loads = b.loads →
        (b.step oneRackEnv s).TimerInTime oneRackEnv) ∧
    ∀ s : Step Exact, a.conf.reconfigPending ≠ 0 →
      (a.step oneRackEnv s).conf.reconfigPending = 0 →
        (a.step oneRackEnv s).loads = a.loads + 1 ∧
          ∃ place, (a.step oneRackEnv s).world.history.head? = some (.configure place true) := by
  refine processAsset_reloads oneRackEnv oneRackEnv_clock (fun i => ?_) [.configure]
    [.processMetric epduMetric epduMetric.generateTopic] "update" (by decide) (by decide +kernel)
  simp only [oneRackEnv]
  split <;> decide

/-! ### Messages while a reload is scheduled -/

section Settling

variable {a : Agent V} {place : ℕ}

/-- A reload that is scheduled for at least a minute after a place of the run stays so, and those
that are scheduled later are. -/
theorem settled_step (hclock : ∀ i j, i ≤ j → env.time i ≤ env.time j)
    (hplace : place ≤ a.world.pos) (s : Step V)
    (h : a.conf.reconfigPending = 0 ∨ (env.time place).toInt + 60 ≤ a.conf.reconfigPending) :
    (a.step env s).conf.reconfigPending = 0 ∨
      (env.time place).toInt + 60 ≤ (a.step env s).conf.reconfigPending := by
  have hlater : ∀ i, place ≤ i → (env.time place).toInt ≤ (env.time i).toInt := fun i hi =>
    Int64.le_iff_toInt_le.mp (hclock place i hi)
  rcases a.step_schedule env s with
    ⟨hsame, -⟩ | ⟨-, -, hnew, -⟩ | ⟨-, place', loaded, hplace', -, -, hnew⟩
  · rwa [hsame]
  · rw [hnew]
    exact Or.inr (Int.add_le_add_right (hlater _ hplace) 60)
  · rw [hnew]
    cases loaded with
    | true => exact Or.inl rfl
    | false => exact Or.inr (Int.add_le_add_right (hlater _ (hplace.trans hplace')) 60)

theorem settled_steps (hclock : ∀ i j, i ≤ j → env.time i ≤ env.time j)
    (hplace : place ≤ a.world.pos) (steps : List (Step V))
    (h : a.conf.reconfigPending = 0 ∨ (env.time place).toInt + 60 ≤ a.conf.reconfigPending) :
    (a.steps env steps).conf.reconfigPending = 0 ∨
      (env.time place).toInt + 60 ≤ (a.steps env steps).conf.reconfigPending := by
  induction steps generalizing a with
  | nil => exact h
  | cons s steps ih =>
    exact ih (hplace.trans (Agent.pos_le_of_moves (a.step_moves env s)))
      (settled_step hclock hplace s h)

end Settling

/-- In a run, every poll that calls `configure` comes at least a minute after every asset message
before it. -/
def ReloadsSettle (env : Env V) (steps : List (Step V)) : Prop :=
  ∀ (before : List (Step V)) (operation : String) (mid after : List (Step V)),
    steps = before ++ .processAsset operation :: mid ++ .onPoll :: after →
    operation ∈ Agent.assetOperations →
    let a := run env before
    let b := run env (before ++ .processAsset operation :: mid)
    (b.onPoll env).loads ≠ b.loads →
      (env.time a.world.pos).toInt + 60 ≤ (env.time (b.pollCheck env)).toInt

/-- **Reloads wait for the asset traffic to settle** in every run, with a clock that does not go
back, whose asset messages all arrive when no reload is scheduled or the scheduled one is at least a
minute away. -/
theorem reloadsSettle_of_messages (env : Env V) (hclock : ∀ i j, i ≤ j → env.time i ≤ env.time j)
    (steps : List (Step V))
    (hmessages : ∀ before operation after, steps = before ++ .processAsset operation :: after →
      operation ∈ Agent.assetOperations → (run env before).conf.reconfigPending = 0 ∨
        (env.time (run env before).world.pos).toInt + 60 ≤
          (run env before).conf.reconfigPending) :
    ReloadsSettle env steps := by
  intro before operation mid after hsteps hop a b hreloads
  have hmessage : (a.processAsset env operation).conf.reconfigPending = 0 ∨
      (env.time a.world.pos).toInt + 60 ≤
        (a.processAsset env operation).conf.reconfigPending := by
    rw [a.reconfigPending_processAsset env hop]
    split
    · exact Or.inr le_rfl
    · rw [List.append_assoc, List.cons_append] at hsteps
      exact hmessages before operation _ hsteps hop
  have hb : b = (a.processAsset env operation).steps env mid :=
    Agent.run_append env before (.processAsset operation :: mid)
  have hsettled := settled_steps hclock
    (Agent.pos_le_of_moves (a.step_moves env (.processAsset operation))) mid hmessage
  rw [hb] at hreloads ⊢
  rcases Agent.onPoll_cases env ((a.processAsset env operation).steps env mid) with
    ⟨hpending, hdue, -⟩ | ⟨-, hpoll⟩
  · exact (hsettled.resolve_left hpending).trans hdue
  · refine absurd ?_ hreloads
    rw [hpoll, Agent.loads_setPollInterval]
    exact (Agent.unitsOnly_checked env _).loads

/-- A clock that stands at 1000 for two messages and at 1060 from then on. -/
def pairEnv : Env Exact :=
  { oneRackEnv with time place := if place < 3 then 1000 else 1060 }

theorem pairEnv_clock : ∀ i j, i ≤ j → pairEnv.time i ≤ pairEnv.time j := by
  intro i j hij
  simp only [pairEnv]
  split_ifs <;> first | decide | omega

/-- Two messages in one second, and a poll a minute later, which reloads. -/
theorem reloadsSettle_of_messages_burst :
    ReloadsSettle pairEnv [.processAsset "create", .processAsset "update", .onPoll] ∧
      ((run pairEnv [.processAsset "create", .processAsset "update"]).onPoll pairEnv).loads ≠
        (run pairEnv [.processAsset "create", .processAsset "update"]).loads := by
  refine ⟨reloadsSettle_of_messages pairEnv pairEnv_clock _ ?_, by decide +kernel⟩
  rintro (_ | ⟨first, _ | ⟨second, _ | ⟨third, before⟩⟩⟩) operation after hsteps -
  · exact Or.inl rfl
  · -- the second message finds the reload that the first one has scheduled
    obtain rfl : .processAsset "create" = first := (List.cons.inj hsteps).1
    exact Or.inr (by decide +kernel)
  · cases (List.cons.inj (List.cons.inj (List.cons.inj hsteps).2).2).1
  · simp at hsteps

/-- A clock that stands at 1000 for the first message, at 1050 for the second one and at 1060 from
then on. -/
def burstEnv : Env Exact :=
  { oneRackEnv with
    time place := if place < 2 then 1000 else if place < 3 then 1050 else 1060 }

theorem burstEnv_clock : ∀ i j, i ≤ j → burstEnv.time i ≤ burstEnv.time j := by
  intro i j hij
  simp only [burstEnv]
  split_ifs <;> first | decide | omega

/-- A second message 50 seconds after the first one does not postpone the reload, which comes 10
seconds after it. -/
theorem burst_not_settled :
    ¬ ∀ (env : Env Exact) (steps : List (Step Exact)),
      (∀ i j, i ≤ j → env.time i ≤ env.time j) → ReloadsSettle env steps := by
  intro h
  have hsettle := h burstEnv [.processAsset "create", .processAsset "update", .onPoll]
    burstEnv_clock [.processAsset "create"] "update" [] [] rfl (by decide) (by decide +kernel)
  exact absurd hsettle (by decide +kernel)

end MetricTPower
