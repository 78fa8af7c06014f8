import MetricTPower.Server.Schedules

/-!
# The mutex is given back

An actor that is inside a section can go on, whatever the rest of the process does, and every step
of it leaves one part less; with no part left it gives the mutex back. So in a fair run the mutex
is free again and again, as long as the reloads return, and an actor that waits for it gets it
(`enters_section`). A reload that does not return keeps the mutex for ever
(`fairRun_of_not_returns`).

## Main results

* `FairRun.exists_free`: the mutex comes to be free.
* `fairRun_of_not_returns`: a reload that does not return keeps it.
* `enters_section`: an actor that waits for the mutex gets it.
-/

open Filter

namespace MetricTPower.Server

variable {V : Type} [DoubleText V] {env : Env V} {s s' : State V} {time : ℕ}

/-- The other actor. -/
def Actor.other : Actor → Actor
  | .main => .pull
  | .pull => .main

theorem Actor.eq_other {actor actor' : Actor} (h : actor' ≠ actor) : actor' = actor.other := by
  cases actor <;> cases actor' <;> simp_all [Actor.other]

/-! ### The steps of an actor with a call to make -/

/-- What an actor does that has a call to make. -/
theorem step_go_of_call {actor : Actor} {call : Step V} (hcall : s.call? actor = some call) :
    s.step env (.go actor) = s.goSection env actor call := by
  change s.go env actor = _
  unfold State.go
  simp only [hcall]

section Go

variable {actor : Actor} {call : Step V}

/-- An actor with a call to make is not in `zpoller_wait` and not at the beginning. -/
theorem eq_go_of_call {event : Event} (hcall : s.call? actor = some call)
    (hactor : event.actor? = some actor) (h : s.step env event = some s') : event = .go actor := by
  cases event with
  | elapse time => cases hactor
  | destroyContext => cases hactor
  | watchdog event => cases hactor
  | connect ok =>
    obtain rfl := Option.some.inj hactor
    cases hmain : s.main <;> cases ok <;>
      simp_all [State.call?, Main.call?, State.step, State.connect]
  | wakeMain wake =>
    obtain rfl := Option.some.inj hactor
    cases hmain : s.main <;> simp_all [State.call?, Main.call?, State.step, State.wakeMain]
  | wakePull wake =>
    obtain rfl := Option.some.inj hactor
    cases hpull : s.pull <;> simp_all [State.call?, Pull.call?, State.step, State.wakePull]
  | go actor' => rw [Option.some.inj hactor]

variable (env) in
/-- An actor that comes to the mutex when it is free can go on. -/
theorem isSome_go_of_free (hcall : s.call? actor = some call)
    (hinside : s.sections.inside actor = none) (hfree : s.sections.lock = none) :
    (s.step env (.go actor)).isSome = true := by
  rw [step_go_of_call hcall, State.goSection, hinside, CriticalSections.State.enter, hfree]
  rfl

variable (env) in
/-- An actor inside its section can go on. -/
theorem isSome_go_of_inside (hcall : s.call? actor = some call)
    (hinside : s.sections.inside actor ≠ none) : (s.step env (.go actor)).isSome = true := by
  obtain ⟨rest, hrest⟩ := Option.ne_none_iff_exists'.mp hinside
  rw [step_go_of_call hcall, State.goSection, hrest]
  cases rest with
  | nil =>
    rw [CriticalSections.State.leave, hrest]
    rfl
  | cons part rest =>
    rw [CriticalSections.State.work, hrest]
    rfl

/-- A step of an actor at the mutex takes it into its section. -/
theorem inside_of_go (hcall : s.call? actor = some call) (hinside : s.sections.inside actor = none)
    (h : s.step env (.go actor) = some s') :
    s'.sections.inside actor = some (call.parts env s.sections.shared) := by
  rw [step_go_of_call hcall, State.goSection, hinside] at h
  obtain ⟨sections, hsections, rfl⟩ := Option.map_eq_some_iff.mp h
  obtain ⟨-, rfl⟩ := CriticalSections.State.enter_eq_some_iff.mp hsections
  exact Function.update_self _ _ _

end Go

/-! ### The mutex comes to be free -/

/-- While the mutex is not free no step gives its holder more to do. -/
theorem remaining_le_of_move (h : Reachable env time s) (hmove : Move env s s')
    (hheld : s.sections.lock ≠ none) (hheld' : s'.sections.lock ≠ none) :
    s'.sections.remaining.length ≤ s.sections.remaining.length := by
  cases hmove with
  | connected entered worked sections hmain hentered hworked hleft =>
    exact absurd (CriticalSections.State.enter_eq_some_iff.mp hentered).1 hheld
  | enter actor call sections hcall hinside hs =>
    exact absurd (CriticalSections.State.enter_eq_some_iff.mp hs).1 hheld
  | work actor call sections hcall hs => exact (h.sections.remaining_lt_of_work hs).le
  | leave actor call sections hcall hs =>
    obtain ⟨-, rfl⟩ := CriticalSections.State.leave_eq_some_iff.mp hs
    exact absurd rfl hheld'
  | _ => exact le_rfl

/-- A step of an actor with a call to make leaves less to do, while the mutex is not free. -/
theorem remaining_lt_of_go {actor : Actor} {call : Step V} (h : Reachable env time s)
    (hcall : s.call? actor = some call) (hstep : s.step env (.go actor) = some s')
    (hheld : s.sections.lock ≠ none) (hheld' : s'.sections.lock ≠ none) :
    s'.sections.remaining.length < s.sections.remaining.length := by
  rw [step_go_of_call hcall, State.goSection] at hstep
  split at hstep
  · obtain ⟨sections, hsections, rfl⟩ := Option.map_eq_some_iff.mp hstep
    exact absurd (CriticalSections.State.enter_eq_some_iff.mp hsections).1 hheld
  · obtain ⟨sections, hsections, rfl⟩ := Option.map_eq_some_iff.mp hstep
    exact h.sections.remaining_lt_of_work hsections
  · obtain ⟨sections, hsections, rfl⟩ := Option.map_eq_some_iff.mp hstep
    obtain ⟨-, rfl⟩ := CriticalSections.State.leave_eq_some_iff.mp hsections
    exact absurd rfl hheld'

/-- The holder of the mutex has a call to make and is inside its section. -/
theorem exists_holder (h : Reachable env time s) (hheld : s.sections.lock ≠ none) :
    ∃ holder call, s.call? holder = some call ∧ s.sections.inside holder ≠ none := by
  obtain ⟨holder, hlock⟩ := Option.ne_none_iff_exists'.mp hheld
  have hinside := (h.sections.inside_iff holder).mpr hlock
  obtain ⟨call, hcall⟩ := Option.ne_none_iff_exists'.mp (h.accounts.inside holder hinside)
  exact ⟨holder, call, hcall, hinside⟩

section Runs

variable {returns : ℕ → Prop} {states : ℕ → State V} {events : ℕ → Event}

instance : Finite Actor :=
  Finite.of_injective (fun actor : Actor => decide (actor = .main)) fun a b h => by
    cases a <;> cases b <;> simp_all

/-- While an actor has a call to make, the mutex of a fair run comes to be free. -/
theorem FairRun.exists_free (h : FairRun env returns states events)
    (hreach : Reachable env time (states 0))
    (hreturns : ∀ n place, (states n).reloadAt? env = some place → returns place) {N : ℕ}
    {actor : Actor} {call : Step V} (hwaits : ∀ n, N ≤ n → (states n).call? actor = some call ∧
      (states n).sections.inside actor = none) :
    ∃ n, N ≤ n ∧ (states n).sections.lock = none := by
  refine h.fair.exists_goal (fun s => s.sections.remaining.length)
    (fun s => s.sections.lock = none) N ?_ ?_ ?_
  · intro n _ hheld hheld'
    exact remaining_le_of_move (h.reachable hreach n) (move_of_step (h.step n)) hheld hheld'
  · intro n hn hheld hheld' actor' hgoes
    obtain ⟨holder, call', hcall', hinside'⟩ := exists_holder (h.reachable hreach n) hheld
    -- the holder goes on, or the actor that waits, which cannot
    have hcall : ∃ call, (states n).call? actor' = some call := by
      by_cases hsame : actor' = actor
      · exact ⟨call, hsame ▸ (hwaits n hn).1⟩
      · have hholder : holder ≠ actor := by
          rintro rfl
          exact hinside' (hwaits n hn).2
        rw [Actor.eq_other hsame, ← Actor.eq_other hholder]
        exact ⟨call', hcall'⟩
    obtain ⟨call'', hcall''⟩ := hcall
    have hstep := h.step n
    rw [eq_go_of_call hcall'' hgoes hstep] at hstep
    exact remaining_lt_of_go (h.reachable hreach n) hcall'' hstep hheld hheld'
  · intro n _ hheld
    obtain ⟨holder, call', hcall', hinside'⟩ := exists_holder (h.reachable hreach n) hheld
    exact ⟨holder, ⟨.go holder, rfl, isSome_go_of_inside env hcall' hinside'⟩,
      fun _ => hreturns n⟩

end Runs

omit [DoubleText V] in
theorem State.inside_of_reloadAt? {place : ℕ} (h : s.reloadAt? env = some place)
    (hmain : s.main ≠ .connecting) : s.sections.inside .main ≠ none := by
  intro hnone
  cases hfrom : s.main <;> simp_all [State.reloadAt?]

/-- A reload that does not return keeps the mutex for ever: when the main actor has come to it in
`onPoll` and the puller to the mutex, the run in which only the time goes on is fair. -/
theorem fairRun_of_not_returns {returns : ℕ → Prop} {place : ℕ} {call : Step V}
    (h : Reachable env time s) (hreload : s.reloadAt? env = some place)
    (hmain : s.main ≠ .connecting) (hnot : ¬ returns place) (hcall : s.call? .pull = some call)
    (hinside : s.sections.inside .pull = none) :
    FairRun env returns (fun n => { s with now := s.now + n }) fun _ => .elapse 1 where
  step n := rfl
  fair actor hcan := by
    obtain ⟨n, ⟨event, hactor, hstep⟩, hreturns⟩ := hcan.exists
    exfalso
    cases actor with
    | main => exact hnot (hreturns rfl place hreload)
    | pull =>
      obtain ⟨s', hs'⟩ := Option.isSome_iff_exists.mp hstep
      have hheld := (h.sections.inside_iff .main).mp (State.inside_of_reloadAt? hreload hmain)
      have hcall' : State.call? { s with now := s.now + n } .pull = some call := hcall
      rw [eq_go_of_call hcall' hactor hs', step_go_of_call hcall', State.goSection] at hs'
      simp [hinside, CriticalSections.State.enter, hheld] at hs'

/-- **An actor that waits for the mutex gets it**, in every fair run whose reloads return: from the
time on when it comes to the mutex with a call, it waits until it enters its section and has all
parts of this call to run. -/
theorem enters_section (env : Env V) (time : ℕ) (persist : Persist) (db : ℕ → Database)
    (states : ℕ → State V) (events : ℕ → Event)
    (hfair : FairRun env (Returns persist db env) states events)
    (h : Reachable env time (states 0))
    (hreturns : ∀ n place, (states n).reloadAt? env = some place → Returns persist db env place)
    (i : ℕ) (actor : Actor) (call : Step V) (hcall : (states i).call? actor = some call)
    (hinside : (states i).sections.inside actor = none) :
    ∃ n, i ≤ n ∧ (∀ k, i ≤ k → k ≤ n → (states k).call? actor = some call ∧
        (states k).sections.inside actor = none) ∧
      (states (n + 1)).call? actor = some call ∧
      (states (n + 1)).sections.inside actor =
        some (call.parts env (states n).sections.shared) := by
  refine (Fairness.forever_or_until (P := fun n => (states n).call? actor = some call ∧
    (states n).sections.inside actor = none) ⟨hcall, hinside⟩ ?_).resolve_left ?_
  · intro n _ hwaits
    obtain ⟨hcall', hin | hin⟩ :=
      (move_of_step (hfair.step n)).of_waiting (hfair.reachable h n) hwaits.1 hwaits.2
    · exact Or.inl ⟨hcall', hin⟩
    · exact Or.inr ⟨hcall', hin⟩
  intro hwaits
  -- the mutex is free again and again, so that the actor can go on
  have hcan : ∃ᶠ n in atTop, CanGo env (Returns persist db env) actor (states n) := by
    refine frequently_atTop.mpr fun N => ?_
    obtain ⟨n, hn, hfree⟩ := hfair.exists_free h hreturns (N := max i N)
      fun n hn => hwaits n ((le_max_left i N).trans hn)
    obtain ⟨hcall', hin⟩ := hwaits n ((le_max_left i N).trans hn)
    exact ⟨n, (le_max_right i N).trans hn,
      ⟨.go actor, rfl, isSome_go_of_free env hcall' hin hfree⟩, fun _ => hreturns n⟩
  obtain ⟨n, hn, hgoes⟩ := frequently_atTop.mp (hfair.fair actor hcan) i
  obtain ⟨hcall', hin⟩ := hwaits n hn
  have hstep := hfair.step n
  rw [eq_go_of_call hcall' hgoes hstep] at hstep
  have hentered := inside_of_go hcall' hin hstep
  rw [(hwaits (n + 1) (hn.trans n.le_succ)).2] at hentered
  cases hentered

theorem any_ended_reloading :
    ((State.init 0 : State Extended).run reloadingEnv
      (reloadingEvents ++ .watchdog .interrupt :: endingEvents)).any State.ended = true := by
  decide +kernel

/-- The puller has come to the mutex, while the main actor is about to reload. -/
theorem enters_section_reloading :
    let states := (State.init 0 : State Extended).play reloadingEnv
      (reloadingEvents ++ .watchdog .interrupt :: endingEvents)
    ∃ call, (states 25).call? .pull = some call ∧
      ∃ n, 25 ≤ n ∧ (∀ k, 25 ≤ k → k ≤ n → (states k).call? .pull = some call ∧
          (states k).sections.inside .pull = none) ∧
        (states (n + 1)).call? .pull = some call ∧
        (states (n + 1)).sections.inside .pull =
          some (call.parts reloadingEnv (states n).sections.shared) := by
  intro states
  obtain ⟨final, hrun, hended⟩ := (Option.any_eq_true _ _).mp any_ended_reloading
  have hcall : ((states 25).call? .pull).isSome = true := by decide +kernel
  have hinside : ((states 25).sections.inside .pull).isNone = true := by decide +kernel
  obtain ⟨call, hsome⟩ := Option.isSome_iff_exists.mp hcall
  exact ⟨call, hsome, enters_section reloadingEnv 0 samplePersist (fun _ => fedRack) states _
    (fairRun_of_ended hrun hended) .refl (fun _ place _ => returns_reloadingEnv place) 25 .pull call
    hsome (Option.isNone_iff_eq_none.mp hinside)⟩

end MetricTPower.Server
