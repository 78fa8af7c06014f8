import MetricTPower.Library.Fairness
import MetricTPower.Agent.PublishedTotals
import MetricTPower.Server.Serial

/-!
# Fair schedules of the process

The events of a run come in any order, so that an actor may be passed over for ever. In a fair run
an actor that can go on again and again does go on: the operating system gives every thread its
turns, the mutex goes at some time to a thread that asks for it again and again, and `zpoller_wait`
comes back, as it has a timeout.

There is one thing an actor may do for ever in one step: a reload searches for the power sources,
and the search need not end. The environment has the answers of the searches that end
(`Returns`). Fairness promises no step to the main actor at a reload that does not return, and all
reloads of a run are where `State.reloadAt?` says (`reloadAt?_of_loads`).

## Main definitions

* `Event.actor?`: the actor that goes on.
* `State.reloadAt?`, `Returns`: the reload that comes next, and whether it returns.
* `FairRun`: the infinite runs in which no actor is passed over for ever.

## Main results

* `Move.call?`: a call stays the call of its actor until the mutex is given back.
* `reloadAt?_of_loads`: the reloads of a run.
-/

namespace MetricTPower.Server

variable {V : Type} [DoubleText V] {env : Env V} {s s' : State V} {time : ℕ} {event : Event}

/-! ### Reloads that return -/

omit [DoubleText V] in
/-- The search of the reload at a place ends, with the topology of the environment. -/
def Returns (persist : Persist) (db : ℕ → Database) (env : Env V) (place : ℕ) : Prop :=
  ∃ rounds, (db place).powerTopology persist rounds = some (env.topology place)

variable (env) in
omit [DoubleText V] in
/-- The place of the reload that comes with the next step of the main actor, when there is one: at
the beginning, and in `onPoll` when two parts are left and the time has come. -/
def State.reloadAt? (s : State V) : Option ℕ :=
  let a := s.sections.shared
  match s.main, s.sections.inside .main with
  | .connecting, _ => some a.world.pos
  | .polling _, some [_, _] =>
    if a.conf.reconfigPending ≠ 0 ∧ a.conf.reconfigPending ≤ (env.time a.world.pos).toInt then
      some (a.world.pos + 1)
    else none
  | _, _ => none

/-! ### Fair runs -/

/-- The actor that goes on in an event. -/
def Event.actor? : Event → Option Actor
  | .elapse _ | .destroyContext | .watchdog _ => none
  | .connect _ | .wakeMain _ => some .main
  | .wakePull _ => some .pull
  | .go actor => some actor

/-- An actor can go on: it has a step, and is not at a reload that does not return. -/
def CanGo (env : Env V) (returns : ℕ → Prop) (actor : Actor) (s : State V) : Prop :=
  (∃ event, event.actor? = some actor ∧ (s.step env event).isSome = true) ∧
    (actor = .main → ∀ place, s.reloadAt? env = some place → returns place)

/-- An infinite run of the process in which no actor is passed over for ever. -/
structure FairRun (env : Env V) (returns : ℕ → Prop) (states : ℕ → State V)
    (events : ℕ → Event) : Prop where
  step : ∀ n, (states n).step env (events n) = some (states (n + 1))
  fair : Fairness.Fair (CanGo env returns) states fun actor n => (events n).actor? = some actor

theorem FairRun.reachable {returns : ℕ → Prop} {states : ℕ → State V} {events : ℕ → Event}
    (h : FairRun env returns states events) (hreach : Reachable env time (states 0)) :
    ∀ n, Reachable env time (states n)
  | 0 => hreach
  | n + 1 => (h.reachable hreach n).tail ⟨events n, h.step n⟩

/-! ### Calls under way -/

/-- **A call stays the call of its actor** until all parts have run and the mutex is given back. -/
theorem Move.call? (h : Reachable env time s) (hmove : Move env s s') {actor : Actor}
    {call : Step V} (hcall : s.call? actor = some call) :
    s'.call? actor = some call ∨
      (s.sections.inside actor = some [] ∧ s'.sections.inside actor = none) := by
  have hmain : ∀ main, s.main = main → (main.call? : Option (Step V)) = none → actor = .pull := by
    rintro _ rfl hnone
    cases actor with
    | main => cases hcall.symm.trans hnone
    | pull => rfl
  have hpull : s.pull.call? = none → actor = .main := by
    intro hnone
    cases actor with
    | main => rfl
    | pull => cases hcall.symm.trans hnone
  cases hmove with
  | outside | watchdog | enter | work => exact Or.inl (by cases actor <;> exact hcall)
  | connected _ _ _ hfrom | spawned hfrom | arm hfrom | due _ _ hfrom | early _ _ hfrom
  | other _ hfrom | asset _ _ hfrom | join hfrom =>
    obtain rfl := hmain _ hfrom rfl
    exact Or.inl hcall
  | main main hnext =>
    obtain rfl := hmain _ rfl (Accounts.main_next hnext).1
    exact Or.inl hcall
  | spawn hfrom =>
    -- the puller has not been started
    obtain rfl := hmain _ hfrom rfl
    rw [State.call?, h.accounts.absent (Or.inr hfrom)] at hcall
    cases hcall
  | pull pull hnext =>
    obtain rfl := hpull (Accounts.pull_next hnext).1
    exact Or.inl hcall
  | read metrics hfrom =>
    obtain rfl := hpull (by rw [hfrom]; rfl)
    exact Or.inl hcall
  | leave actor' call' sections hcall' hs =>
    by_cases hsame : actor = actor'
    · subst hsame
      obtain ⟨hinside, -⟩ := CriticalSections.State.leave_eq_some_iff.mp hs
      exact Or.inr ⟨hinside, (CriticalSections.State.leave_spec hs).2.2.1⟩
    · refine Or.inl ?_
      cases actor <;> cases actor' <;> first | exact hcall | exact absurd rfl hsame

/-- An actor is inside a section because it was, with the same parts left or one more, or because it
has just entered. -/
theorem Move.inside (hmove : Move env s s') {actor : Actor} {rest : List (Agent V → Agent V)}
    (h : s'.sections.inside actor = some rest) :
    s.sections.inside actor = some rest ∨ (∃ part, s.sections.inside actor = some (part :: rest)) ∨
      ∃ call, s.call? actor = some call ∧ s.sections.inside actor = none ∧
        rest = call.parts env s.sections.shared := by
  cases hmove with
  | connected entered worked sections hmain hentered hworked hleft =>
    obtain ⟨-, -, hentered⟩ := CriticalSections.State.enter_spec hentered
    obtain ⟨-, -, -, hworked⟩ := CriticalSections.State.work_spec hworked
    obtain ⟨-, -, hout, hleft⟩ := CriticalSections.State.leave_spec hleft
    cases actor with
    | main => cases hout.symm.trans h
    | pull =>
      have hpull := (hleft .pull (by decide)).trans
        ((hworked .pull (by decide)).trans (hentered .pull (by decide)))
      exact Or.inl (hpull.symm.trans h)
  | enter actor' call sections hcall hinside hs =>
    by_cases hsame : actor = actor'
    · subst hsame
      obtain ⟨-, rfl⟩ := CriticalSections.State.enter_eq_some_iff.mp hs
      dsimp only at h
      rw [Function.update_self, Option.some.injEq] at h
      exact Or.inr (Or.inr ⟨call, hcall, hinside, h.symm⟩)
    · exact Or.inl (((CriticalSections.State.enter_spec hs).2.2 actor hsame).symm.trans h)
  | work actor' call sections hcall hs =>
    by_cases hsame : actor = actor'
    · subst hsame
      obtain ⟨part, rest', hinside, rfl⟩ := CriticalSections.State.work_eq_some_iff.mp hs
      dsimp only at h
      rw [Function.update_self, Option.some.injEq] at h
      exact Or.inr (Or.inl ⟨part, h ▸ hinside⟩)
    · exact Or.inl (((CriticalSections.State.work_spec hs).2.2.2 actor hsame).symm.trans h)
  | leave actor' call sections hcall hs =>
    obtain ⟨-, -, hout, hothers⟩ := CriticalSections.State.leave_spec hs
    by_cases hsame : actor = actor'
    · subst hsame
      cases hout.symm.trans h
    · exact Or.inl ((hothers actor hsame).symm.trans h)
  | _ => exact Or.inl h

/-- An actor that waits for the mutex goes on waiting or enters its section. -/
theorem Move.of_waiting (h : Reachable env time s) (hmove : Move env s s') {actor : Actor}
    {call : Step V} (hcall : s.call? actor = some call) (hinside : s.sections.inside actor = none) :
    s'.call? actor = some call ∧ (s'.sections.inside actor = none ∨
      s'.sections.inside actor = some (call.parts env s.sections.shared)) := by
  refine ⟨(hmove.call? h hcall).resolve_right (by simp [hinside]), ?_⟩
  cases hinside' : s'.sections.inside actor with
  | none => exact Or.inl rfl
  | some rest =>
    obtain hsame | ⟨part, hpart⟩ | ⟨call', hcall', -, rfl⟩ := hmove.inside hinside'
    · cases hinside.symm.trans hsame
    · cases hinside.symm.trans hpart
    · obtain rfl := Option.some.inj (hcall.symm.trans hcall')
      exact Or.inr rfl

/-- The parts that an actor has still to run are the last ones of its call. -/
theorem Reachable.parts_of_inside (h : Reachable env time s) (actor : Actor)
    (rest : List (Agent V → Agent V)) (hinside : s.sections.inside actor = some rest) :
    ∃ call a done, s.call? actor = some call ∧ call.parts env a = done ++ rest := by
  refine h.invariant (P := fun s => ∀ rest, s.sections.inside actor = some rest →
    ∃ call a done, s.call? actor = some call ∧ call.parts env a = done ++ rest)
    (fun rest hrest => by cases hrest) (fun s s' hs hmove ih rest hrest => ?_) rest hinside
  have hstays : ∀ call, s.call? actor = some call → s'.call? actor = some call := fun call hcall =>
    (hmove.call? hs hcall).resolve_right (by simp [hrest])
  obtain hsame | ⟨part, hpart⟩ | ⟨call, hcall, -, rfl⟩ := hmove.inside hrest
  · obtain ⟨call, a, done, hcall, hparts⟩ := ih rest hsame
    exact ⟨call, a, done, hstays call hcall, hparts⟩
  · obtain ⟨call, a, done, hcall, hparts⟩ := ih _ hpart
    exact ⟨call, a, done ++ [part], hstays call hcall, by simp [hparts]⟩
  · exact ⟨call, s.sections.shared, [], hstays call hcall, rfl⟩

/-! ### The reloads of a run -/

/-- The only part of a call but `configure` that loads is the first of the last two of `onPoll`. -/
theorem Step.eq_onPoll_of_loads {call : Step V} {a b : Agent V} {part : Agent V → Agent V}
    {done rest : List (Agent V → Agent V)} (hparts : call.parts env a = done ++ part :: rest)
    (hcall : call ≠ .configure) (hloads : (part b).loads ≠ b.loads) :
    call = .onPoll ∧ part = Agent.reconfigure env ∧ rest = [Agent.setPollInterval env] := by
  have hunits : ¬ Relation.ReflTransGen (UnitMove env) b (part b) := fun hmoves =>
    hloads (Agent.unitsOnly_of_unitMoves hmoves).loads
  have htimer : part ≠ Agent.setPollInterval env := by
    rintro rfl
    exact hloads rfl
  have hmem : part ∈ call.parts env a := by simp [hparts]
  cases call with
  | configure => exact absurd rfl hcall
  | processMetric M topic =>
    refine absurd ((List.mem_append.mp hmem).elim ?_ ?_) hunits
    · exact fun h => Agent.metricPart_unitMoves h b
    · exact fun h => Agent.metricPart_unitMoves h b
  | processAsset operation =>
    rw [Step.parts] at hmem
    split at hmem
    · refine (List.mem_pair.mp hmem).elim (fun hschedule => ?_) fun h => absurd h htimer
      refine absurd ?_ hloads
      rw [hschedule, Agent.scheduleReconfig]
      split <;> rfl
    · cases hmem
  | onPoll =>
    rcases List.append_eq_append_iff.mp hparts with ⟨l, -, hlast⟩ | ⟨l, hpasses, hlast⟩
    · -- one of the last two parts
      rcases l with _ | ⟨first, _ | ⟨second, l⟩⟩
      · obtain ⟨rfl, rfl⟩ := List.cons.inj hlast
        exact ⟨rfl, rfl, rfl⟩
      · exact absurd (List.cons.inj (List.cons.inj hlast).2).1.symm htimer
      · simp at hlast
    · cases l with
      | nil =>
        obtain ⟨rfl, rfl⟩ := List.cons.inj hlast
        exact ⟨rfl, rfl, rfl⟩
      | cons part' l =>
        obtain ⟨rfl, -⟩ := List.cons.inj hlast
        have hpass : part ∈ Agent.passParts env .rack a ++ Agent.passParts env .dc a := by
          simp [hpasses]
        refine absurd ((List.mem_append.mp hpass).elim ?_ ?_) hunits
        · exact fun h => Agent.passPart_unitMoves h b
        · exact fun h => Agent.passPart_unitMoves h b
  | setPollInterval => exact absurd (List.mem_singleton.mp hmem) htimer

omit [DoubleText V] in
theorem State.call?_ne_configure (s : State V) (actor : Actor) :
    s.call? actor ≠ some .configure := by
  cases actor with
  | main => cases hmain : s.main <;> simp [State.call?, Main.call?, hmain]
  | pull => cases hpull : s.pull <;> simp [State.call?, Pull.call?, hpull]

omit [DoubleText V] in
theorem State.polling_of_call? {actor : Actor} (h : s.call? actor = some .onPoll) :
    actor = .main ∧ ∃ wake, s.main = .polling wake := by
  cases actor with
  | main => cases hmain : s.main <;> simp_all [State.call?, Main.call?]
  | pull => cases hpull : s.pull <;> simp [State.call?, Pull.call?, hpull] at h

/-- **The reloads of a run** are where `State.reloadAt?` says: a step that changes the number of
loads is one from a state that has a place there, and the reload is the one of this place. -/
theorem reloadAt?_of_loads (h : Reachable env time s) (hstep : s.step env event = some s')
    (hloads : s'.sections.shared.loads ≠ s.sections.shared.loads) :
    ∃ place loaded, s.reloadAt? env = some place ∧
      s'.sections.shared.world.history =
        .configure place loaded :: s.sections.shared.world.history := by
  cases move_of_step hstep with
  | connected entered worked sections hmain hentered hworked hleft =>
    obtain ⟨-, rfl⟩ := CriticalSections.State.enter_eq_some_iff.mp hentered
    obtain ⟨part, rest, hpart, rfl⟩ := CriticalSections.State.work_eq_some_iff.mp hworked
    obtain ⟨-, rfl⟩ := CriticalSections.State.leave_eq_some_iff.mp hleft
    dsimp only at hpart
    rw [Function.update_self, Option.some.injEq] at hpart
    obtain ⟨rfl, -⟩ := List.cons.inj hpart
    exact ⟨_, _, by simp only [State.reloadAt?, hmain], rfl⟩
  | work actor call sections hcall hs =>
    obtain ⟨part, rest, hinside, rfl⟩ := CriticalSections.State.work_eq_some_iff.mp hs
    obtain ⟨call', a, done, hcall', hparts⟩ := h.parts_of_inside actor _ hinside
    obtain ⟨rfl, rfl, rfl⟩ := Step.eq_onPoll_of_loads hparts
      (fun hconfigure => s.call?_ne_configure actor (hconfigure ▸ hcall')) hloads
    obtain ⟨rfl, wake, hmain⟩ := State.polling_of_call? hcall'
    have hdue : s.sections.shared.conf.reconfigPending ≠ 0 ∧
        s.sections.shared.conf.reconfigPending ≤
          (env.time s.sections.shared.world.pos).toInt := by
      by_contra hnot
      refine hloads ?_
      dsimp only
      rw [Agent.reconfigure, if_neg hnot]
      rfl
    refine ⟨s.sections.shared.world.pos + 1, _, ?_,
      congrArg (fun a : Agent V => a.world.history) (if_pos hdue)⟩
    simp only [State.reloadAt?, hmain, hinside]
    exact if_pos hdue
  | enter actor call sections hcall hinside hs =>
    obtain ⟨-, rfl⟩ := CriticalSections.State.enter_eq_some_iff.mp hs
    exact absurd rfl hloads
  | leave actor call sections hcall hs =>
    obtain ⟨-, rfl⟩ := CriticalSections.State.leave_eq_some_iff.mp hs
    exact absurd rfl hloads
  | _ => exact absurd rfl hloads

/-! ### Runs in which the process ends -/

omit [DoubleText V] in
/-- The main actor has ended, and the puller has ended or was never started. -/
def State.ended (s : State V) : Bool :=
  match s.main, s.pull with
  | .finished, .finished | .finished, .absent => true
  | _, _ => false

omit [DoubleText V] in
theorem State.ended_iff : s.ended = true ↔
    s.main = .finished ∧ (s.pull = .finished ∨ s.pull = .absent) := by
  cases hmain : s.main <;> cases hpull : s.pull <;> simp [State.ended, hmain, hpull]

/-- No actor can go on when both have ended. -/
theorem not_canGo_of_ended {returns : ℕ → Prop} (h : s.ended = true) (actor : Actor) :
    ¬ CanGo env returns actor s := by
  obtain ⟨hmain, hpull⟩ := State.ended_iff.mp h
  rintro ⟨⟨event, hactor, hstep⟩, -⟩
  cases event with
  | elapse time => cases hactor
  | destroyContext => cases hactor
  | watchdog event => cases hactor
  | connect ok => simp [State.step, State.connect, hmain] at hstep
  | wakeMain wake => simp [State.step, State.wakeMain, hmain] at hstep
  | wakePull wake =>
    rcases hpull with hpull | hpull <;> simp [State.step, State.wakePull, hpull] at hstep
  | go actor' =>
    cases actor' with
    | main => simp [State.step, State.go, State.call?, Main.call?, State.goMain, hmain] at hstep
    | pull =>
      rcases hpull with hpull | hpull <;>
        simp [State.step, State.go, State.call?, Pull.call?, State.goPull, hpull] at hstep

variable (env) in
/-- The states of a run through a list of events, after which only the time goes on. -/
def State.play : State V → List Event → ℕ → State V
  | s, _, 0 => s
  | s, [], n + 1 => State.play { s with now := s.now + 1 } [] n
  | s, event :: events, n + 1 => State.play ((s.step env event).getD s) events n

theorem State.run_nil (s : State V) : s.run env [] = some s := rfl

theorem State.step_play {events : List Event} {final : State V}
    (h : s.run env events = some final) (n : ℕ) :
    (s.play env events n).step env (events.getD n (.elapse 1)) =
      some (s.play env events (n + 1)) := by
  induction n generalizing s events final with
  | zero =>
    cases events with
    | nil => rfl
    | cons event events =>
      obtain ⟨s₁, hstep, -⟩ := Option.bind_eq_some_iff.mp h
      change s.step env event = some ((s.step env event).getD s)
      rw [hstep]
      rfl
  | succ n ih =>
    cases events with
    | nil => exact ih (State.run_nil _)
    | cons event events =>
      obtain ⟨s₁, hstep, hrun⟩ := Option.bind_eq_some_iff.mp h
      simp only [State.play, hstep, Option.getD_some, List.getD_cons_succ]
      exact ih hrun

theorem State.play_ended {events : List Event} {final : State V}
    (h : s.run env events = some final) (hended : final.ended = true) (n : ℕ)
    (hn : events.length ≤ n) : (s.play env events n).ended = true := by
  induction n generalizing s events final with
  | zero =>
    obtain rfl := List.length_eq_zero_iff.mp (Nat.le_zero.mp hn)
    obtain rfl := Option.some.inj h
    exact hended
  | succ n ih =>
    cases events with
    | nil =>
      obtain rfl := Option.some.inj h
      exact ih (State.run_nil _) hended (Nat.zero_le n)
    | cons event events =>
      obtain ⟨s₁, hstep, hrun⟩ := Option.bind_eq_some_iff.mp h
      simp only [State.play, hstep, Option.getD_some]
      exact ih hrun hended (Nat.le_of_succ_le_succ hn)

/-- A run at whose end the process has ended is fair. -/
theorem fairRun_of_ended {returns : ℕ → Prop} {events : List Event} {final : State V}
    (h : s.run env events = some final) (hended : final.ended = true) :
    FairRun env returns (s.play env events) (fun n => events.getD n (.elapse 1)) where
  step := State.step_play h
  fair actor hcan := by
    obtain ⟨n, hn, hgoes⟩ := Filter.frequently_atTop.mp hcan events.length
    exact absurd hgoes (not_canGo_of_ended (State.play_ended h hended n hn) actor)

/-- A database with a rack whose epdu is fed from out of it, and a clock by which a reload that an
asset message schedules is due at the next poll. -/
def reloadingOutside : Outside where
  time place := if place < 4 then 1000 else 2000
  writeMetric _ _ := 0
  topology _ := (fedRack.powerTopology samplePersist 1).get isSome_powerTopology_fedRack

/-- The outside as the configuration with exact values meets it. -/
def reloadingEnv : Env Extended :=
  reloadingOutside.env

theorem returns_reloadingEnv (place : ℕ) :
    Returns samplePersist (fun _ => fedRack) reloadingEnv place :=
  ⟨1, (Option.some_get isSome_powerTopology_fedRack).symm⟩

/-- An asset message schedules a reload. The main actor polls and is about to reload when the puller
comes to the mutex with a metric. -/
def reloadingEvents : List Event :=
  [.connect true, .go .main, .go .main, .go .main, .go .main, .go .pull,
    .wakeMain (.client (.asset "create")), .go .main, .go .main, .go .main, .go .main, .go .main,
    .go .main, .go .main, .go .main, .go .main, .elapse 61000, .wakePull (.expired [epduMetric]),
    .wakeMain .expired, .go .main, .go .main, .go .main, .go .main, .go .main, .go .pull]

/-- When it is interrupted there, the main actor reloads, the puller stores the metric, and both
end. -/
def endingEvents : List Event :=
  List.replicate 3 (.go .main) ++ List.replicate 11 (.go .pull) ++ List.replicate 4 (.go .main)

end MetricTPower.Server
