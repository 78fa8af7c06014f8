import MetricTPower.Server.Endings
import MetricTPower.Server.Progress
import Mathlib.Data.Prod.Lex

/-!
# The end of an interrupted process

Once `zsys_interrupted` is set, both actors leave their loops at the next round. Whatever they are
in the middle of takes them a bounded number of steps, except that a section has as many parts as
the configuration has when it is entered. So the rank of a state is the distance of the actors from
their ends, and then the parts of the section under way.

No event increases the rank and every turn of an actor decreases it (`rank_lt_of_actor`), and until
the main actor has ended an actor can go on (`moves_of_interrupted`). So in a fair run the process
ends, as long as the reloads return: a search that does not end is not interrupted.

## Main definitions

* `State.actors`: the actors and their sections, without the clock and the watchdog.
* `rank`: how far the actors are from their ends.

## Main results

* `interrupted_ends`: an interrupted process comes to its end.
-/

namespace MetricTPower

namespace Watchdog

variable {w w' : State} {time : ℕ} {event : Event}

theorem now_of_step (h : w.step time event = some w') : w'.now = time := by
  have hround : ∀ v : State, v.nextRound.now = v.now := by
    intro v
    rw [State.nextRound]
    split <;> rfl
  rw [State.step] at h
  split at h
  · cases h
  · dsimp only at h
    split at h
    · obtain rfl := Option.some.inj h
      rfl
    · obtain rfl := Option.some.inj h
      rfl
    · split at h
      · obtain rfl := Option.some.inj h
        exact hround _
      · obtain rfl := Option.some.inj h
        rfl
    · split at h
      · obtain rfl := Option.some.inj h
        rfl
      · obtain rfl := Option.some.inj h
        rfl
    · obtain rfl := Option.some.inj h
      rfl
    · split at h
      · obtain rfl := Option.some.inj h
        exact hround _
      · obtain rfl := Option.some.inj h
        exact hround _
    · cases h

end Watchdog

namespace Server

variable {V : Type} [DoubleText V] {env : Env V} {s s' : State V} {time : ℕ}

/-! ### The rank -/

/-- How far the main actor is from its end, with room for a step into each section. -/
def Main.distance : Main → ℕ
  | .finished => 0
  | .joining => 1
  | .stopping => 2
  | .looping => 3
  | .spawned => 4
  | .configured => 5
  | .connecting => 6
  | .processing _ => 5
  | .dispatching _ => 6
  | .polling _ => 8
  | .timed _ _ => 9
  | .woken _ => 10
  | .waiting => 11
  | .arming => 12

/-- How far the puller is from its end. -/
def Pull.distance : Pull V → ℕ
  | .finished => 0
  | .absent | .looping => 1
  | .waiting => 2
  | .setting => 3
  | .reading metrics => 4 + 3 * metrics.length
  | .processing _ _ metrics => 6 + 3 * metrics.length

/-- The actors and their sections. -/
abbrev Actors (V : Type) : Type :=
  Main × Pull V × CriticalSections.State Actor (Step V) (Agent V)

/-- The actors and their sections in a state. -/
def State.actors (s : State V) : Actors V :=
  (s.main, s.pull, s.sections)

/-- One for an actor that is not inside a section. -/
def outside (sections : CriticalSections.State Actor (Step V) (Agent V)) (actor : Actor) : ℕ :=
  if (sections.inside actor).isNone then 1 else 0

/-- How far the actors are from their ends, but for the parts of the section under way. -/
def distance (actors : Actors V) : ℕ :=
  actors.1.distance + actors.2.1.distance + outside actors.2.2 .main + outside actors.2.2 .pull

/-- How far the actors are from their ends. -/
def rank (actors : Actors V) : ℕ ×ₗ ℕ :=
  toLex (distance actors, actors.2.2.remaining.length)

omit [DoubleText V] in
theorem rank_lt_of_distance_lt {actors actors' : Actors V}
    (h : distance actors' < distance actors) : rank actors' < rank actors :=
  Prod.Lex.toLex_lt_toLex.mpr (Or.inl h)

omit [DoubleText V] in
/-- The main actor goes on outside its sections. -/
theorem rank_lt_of_main {main main' : Main} (hmain : s.main = main)
    (h : main'.distance < main.distance) :
    rank (main', s.pull, s.sections) < rank s.actors := by
  subst hmain
  refine rank_lt_of_distance_lt ?_
  simp only [distance, State.actors]
  omega

omit [DoubleText V] in
/-- The puller goes on outside its sections. -/
theorem rank_lt_of_pull {pull : Pull V} (h : pull.distance < s.pull.distance) :
    rank (s.main, pull, s.sections) < rank s.actors := by
  refine rank_lt_of_distance_lt ?_
  simp only [distance, State.actors]
  omega

omit [DoubleText V] in
theorem distance_lt_of_next {main main' : Main} (h : Main.Next s main main')
    (hinterrupted : s.interrupted = true) : main'.distance < main.distance := by
  cases h with
  | loop hnot =>
    rw [hinterrupted] at hnot
    cases hnot
  | _ => simp [Main.distance]

theorem distance_lt_of_pull_next {pull pull' : Pull V} (h : Pull.Next s pull pull')
    (hinterrupted : s.interrupted = true) : pull'.distance < pull.distance := by
  cases h with
  | loop hnot =>
    rw [hinterrupted] at hnot
    cases hnot
  | ignored m metrics =>
    simp only [Pull.distance, List.length_cons]
    omega
  | metric m metrics M =>
    simp only [Pull.distance, List.length_cons]
    omega
  | _ => simp [Pull.distance]

omit [DoubleText V] in
theorem distance_resume {main : Main} {call : Step V} (hcall : main.call? = some call) :
    main.resume.distance + 2 ≤ main.distance := by
  cases main <;> simp [Main.call?] at hcall <;> simp [Main.resume, Main.distance]

omit [DoubleText V] in
theorem distance_pull_resume {pull : Pull V} {call : Step V} (hcall : pull.call? = some call) :
    pull.resume.distance + 2 ≤ pull.distance := by
  cases pull <;> simp [Pull.call?] at hcall <;> simp [Pull.resume, Pull.distance]
  omega

section Sections

variable {sections sections' : CriticalSections.State Actor (Step V) (Agent V)} {actor : Actor}

omit [DoubleText V] in
theorem outside_of_none (h : sections.inside actor = none) : outside sections actor = 1 := by
  rw [outside, h]
  rfl

omit [DoubleText V] in
theorem outside_of_ne_none (h : sections.inside actor ≠ none) : outside sections actor = 0 := by
  obtain ⟨rest, hrest⟩ := Option.ne_none_iff_exists'.mp h
  rw [outside, hrest]
  rfl

omit [DoubleText V] in
theorem outside_congr (h : sections'.inside actor = sections.inside actor) :
    outside sections' actor = outside sections actor := by
  rw [outside, outside, h]

omit [DoubleText V] in
theorem distance_eq (main : Main) (pull : Pull V) (actor : Actor) :
    distance (main, pull, sections) =
      main.distance + pull.distance + outside sections actor + outside sections actor.other := by
  cases actor
  · rfl
  · exact Nat.add_right_comm ..

omit [DoubleText V] in
theorem other_ne (actor : Actor) : actor.other ≠ actor := by
  cases actor <;> simp [Actor.other]

theorem rank_lt_of_enter {call : Step V} (hinside : s.sections.inside actor = none)
    (hs : s.sections.enter (Step.parts env) actor call = some sections) :
    rank (s.main, s.pull, sections) < rank s.actors := by
  obtain ⟨-, hin, hothers⟩ := CriticalSections.State.enter_spec hs
  refine rank_lt_of_distance_lt ?_
  rw [State.actors, distance_eq _ _ actor, distance_eq _ _ actor, outside_of_ne_none hin,
    outside_of_none hinside, outside_congr (hothers _ (other_ne actor))]
  omega

theorem rank_lt_of_work (hreach : Reachable env time s)
    (hs : s.sections.work actor = some sections) :
    rank (s.main, s.pull, sections) < rank s.actors := by
  obtain ⟨-, hin, hin', hothers⟩ := CriticalSections.State.work_spec hs
  refine Prod.Lex.toLex_lt_toLex.mpr (Or.inr ⟨?_, hreach.sections.remaining_lt_of_work hs⟩)
  rw [State.actors, distance_eq _ _ actor, distance_eq _ _ actor, outside_of_ne_none hin,
    outside_of_ne_none hin', outside_congr (hothers _ (other_ne actor))]

omit [DoubleText V] in
theorem rank_lt_of_leave {call : Step V} (hcall : s.call? actor = some call)
    (hs : s.sections.leave actor = some sections) :
    rank ((s.resume actor).main, (s.resume actor).pull, sections) < rank s.actors := by
  obtain ⟨-, hin, hout, hothers⟩ := CriticalSections.State.leave_spec hs
  have hresume : (s.resume actor).main.distance + (s.resume actor).pull.distance + 2 ≤
      s.main.distance + s.pull.distance := by
    cases actor with
    | main =>
      have h := distance_resume hcall
      simp only [State.resume]
      omega
    | pull =>
      have h := distance_pull_resume hcall
      simp only [State.resume]
      omega
  refine rank_lt_of_distance_lt ?_
  rw [State.actors, distance_eq _ _ actor, distance_eq _ _ actor, outside_of_ne_none hin,
    outside_of_none hout, outside_congr (hothers _ (other_ne actor))]
  omega

end Sections

/-- Every change of the actors of an interrupted process decreases the rank. -/
theorem rank_lt_of_move (hreach : Reachable env time s) (hinterrupted : s.interrupted = true)
    (hmove : Move env s s') : s'.actors = s.actors ∨ rank s'.actors < rank s.actors := by
  cases hmove with
  | outside => exact Or.inl rfl
  | watchdog => exact Or.inl rfl
  | connected entered worked sections hmain hentered hworked hleft =>
    right
    obtain ⟨-, -, hentered⟩ := CriticalSections.State.enter_spec hentered
    obtain ⟨-, -, -, hworked⟩ := CriticalSections.State.work_spec hworked
    obtain ⟨-, -, hout, hleft⟩ := CriticalSections.State.leave_spec hleft
    have hpull : sections.inside .pull = s.sections.inside .pull :=
      (hleft _ (other_ne .main)).trans ((hworked _ (other_ne .main)).trans
        (hentered _ (other_ne .main)))
    have hin := hreach.accounts.inside_eq_none .main (by rw [State.call?, hmain]; rfl)
    refine rank_lt_of_distance_lt ?_
    simp only [distance, State.actors, hmain, Main.distance, outside_of_none hout,
      outside_of_none hin, outside_congr hpull]
    omega
  | spawn hmain =>
    right
    have hpull := hreach.accounts.absent (Or.inr hmain)
    refine rank_lt_of_distance_lt ?_
    simp [distance, State.actors, hmain, hpull, Main.distance, Pull.distance]
  | spawned hmain => exact Or.inr (rank_lt_of_main hmain (by simp [Main.distance]))
  | main main hnext => exact Or.inr (rank_lt_of_main rfl (distance_lt_of_next hnext hinterrupted))
  | arm hmain => exact Or.inr (rank_lt_of_main hmain (by simp [Main.distance]))
  | due wake now hmain => exact Or.inr (rank_lt_of_main hmain (by simp [Main.distance]))
  | early wake now hmain => exact Or.inr (rank_lt_of_main hmain (by simp [Main.distance]))
  | other watchdog hmain => exact Or.inr (rank_lt_of_main hmain (by simp [Main.distance]))
  | asset operation watchdog hmain =>
    exact Or.inr (rank_lt_of_main hmain (by simp [Main.distance]))
  | join hmain => exact Or.inr (rank_lt_of_main hmain (by simp [Main.distance]))
  | pull pull hnext => exact Or.inr (rank_lt_of_pull (distance_lt_of_pull_next hnext hinterrupted))
  | read metrics hpull hterm hnot =>
    rw [hinterrupted] at hnot
    cases hnot
  | enter actor call sections hcall hinside hs => exact Or.inr (rank_lt_of_enter hinside hs)
  | work actor call sections hcall hs =>
    exact Or.inr (rank_lt_of_work hreach hs)
  | leave actor call sections hcall hs => exact Or.inr (rank_lt_of_leave hcall hs)

/-! ### The turns of the actors -/

omit [DoubleText V] in
theorem actors_ne_of_main (h : s'.main ≠ s.main) : s'.actors ≠ s.actors :=
  fun hsame => h (congrArg Prod.fst hsame)

omit [DoubleText V] in
theorem actors_ne_of_pull (h : s'.pull ≠ s.pull) : s'.actors ≠ s.actors :=
  fun hsame => h (congrArg (fun actors => actors.2.1) hsame)

omit [DoubleText V] in
theorem actors_ne_of_inside {actor : Actor}
    (h : s'.sections.inside actor ≠ s.sections.inside actor) : s'.actors ≠ s.actors :=
  fun hsame => h (congrArg (fun actors => actors.2.2.inside actor) hsame)

omit [DoubleText V] in
theorem main_ne_of_dispatch {wake : Wake} (hmain : s.main = .dispatching wake)
    (h : s.dispatch wake = some s') : s'.main ≠ s.main := by
  rw [hmain]
  revert h
  fun_cases State.dispatch s wake with
  | case3 cmd =>
    rintro ⟨⟩
    dsimp only
    split <;> simp
  | case7 =>
    intro h
    obtain ⟨watchdog, -, rfl⟩ := Option.map_eq_some_iff.mp h
    simp
  | case8 operation =>
    intro h
    obtain ⟨watchdog, -, rfl⟩ := Option.map_eq_some_iff.mp h
    simp
  | _ =>
    rintro ⟨⟩
    simp

omit [DoubleText V] in
theorem main_ne_of_goMain (h : s.goMain = some s') : s'.main ≠ s.main := by
  revert h
  fun_cases State.goMain s with
  | case3 hmain =>
    rintro ⟨⟩
    rw [hmain]
    dsimp only
    split <;> simp
  | case8 wake hmain => exact main_ne_of_dispatch hmain
  | _ =>
    rintro ⟨⟩
    try simp [*]

theorem pull_ne_of_goPull (h : s.goPull = some s') : s'.pull ≠ s.pull := by
  revert h
  fun_cases State.goPull s with
  | case1 hpull =>
    rintro ⟨⟩
    rw [hpull]
    dsimp only
    split <;> simp
  | _ =>
    rintro ⟨⟩
    try simp [*]

/-- A step of an actor with a call to make changes its section. -/
theorem inside_ne_of_goSection {actor : Actor} {call : Step V}
    (h : s.goSection env actor call = some s') :
    s'.sections.inside actor ≠ s.sections.inside actor := by
  rw [State.goSection] at h
  split at h
  · rename_i hinside
    obtain ⟨sections, hsections, rfl⟩ := Option.map_eq_some_iff.mp h
    rw [hinside]
    exact (CriticalSections.State.enter_spec hsections).2.1
  · obtain ⟨sections, hsections, rfl⟩ := Option.map_eq_some_iff.mp h
    obtain ⟨part, rest, hinside, rfl⟩ := CriticalSections.State.work_eq_some_iff.mp hsections
    rw [hinside]
    simp
  · rename_i hinside
    obtain ⟨sections, hsections, rfl⟩ := Option.map_eq_some_iff.mp h
    rw [hinside, (CriticalSections.State.leave_spec hsections).2.2.1]
    simp

theorem main_ne_of_connect {ok : Bool} (h : s.connect env ok = some s') : s'.main ≠ s.main := by
  revert h
  fun_cases State.connect env s ok with
  | case1 hmain =>
    intro h
    obtain ⟨sections, -, rfl⟩ := Option.map_eq_some_iff.mp h
    simp [hmain]
  | case2 hmain =>
    rintro ⟨⟩
    simp [hmain]
  | case3 => simp

omit [DoubleText V] in
theorem main_ne_of_wakeMain {wake : Wake} (h : s.wakeMain wake = some s') : s'.main ≠ s.main := by
  revert h
  fun_cases State.wakeMain s wake with
  | case1 hmain =>
    rintro ⟨⟩
    simp [hmain]
  | case3 =>
    rename_i hmain _
    rintro ⟨⟩
    simp [hmain]
  | _ => simp

omit [DoubleText V] in
theorem pull_ne_of_wakePull {wake : PullWake} (h : s.wakePull wake = some s') :
    s'.pull ≠ s.pull := by
  revert h
  fun_cases State.wakePull s wake with
  | case1 hpull | case3 hpull | case6 _ hpull | case7 _ hpull =>
    rintro ⟨⟩
    simp [hpull]
  | _ => simp

theorem actors_ne_of_go {actor : Actor} (h : s.go env actor = some s') :
    s'.actors ≠ s.actors := by
  unfold State.go at h
  split at h
  · exact actors_ne_of_inside (inside_ne_of_goSection h)
  · exact actors_ne_of_main (main_ne_of_goMain h)
  · exact actors_ne_of_pull (pull_ne_of_goPull h)

/-- **A turn of an actor changes the actors.** -/
theorem actors_ne_of_actor {event : Event} {actor : Actor} (hactor : event.actor? = some actor)
    (h : s.step env event = some s') : s'.actors ≠ s.actors := by
  cases event with
  | elapse time => cases hactor
  | destroyContext => cases hactor
  | watchdog event => cases hactor
  | connect ok => exact actors_ne_of_main (main_ne_of_connect h)
  | wakeMain wake => exact actors_ne_of_main (main_ne_of_wakeMain h)
  | wakePull wake => exact actors_ne_of_pull (pull_ne_of_wakePull h)
  | go actor' => exact actors_ne_of_go h

/-- **A turn of an actor of an interrupted process decreases the rank.** -/
theorem rank_lt_of_actor {event : Event} {actor : Actor} (hreach : Reachable env time s)
    (hinterrupted : s.interrupted = true) (hactor : event.actor? = some actor)
    (h : s.step env event = some s') : rank s'.actors < rank s.actors :=
  (rank_lt_of_move hreach hinterrupted (move_of_step h)).resolve_left (actors_ne_of_actor hactor h)

/-! ### The next turn -/

/-- The watchdog can be ticked, because the clock does not go back. -/
theorem exists_tick (h : Reachable env time s) :
    ∃ watchdog, s.watchdog.step s.now .tick = some watchdog := by
  have hnow : s.watchdog.now ≤ s.now := by
    refine h.invariant (P := fun s => s.watchdog.now ≤ s.now) le_rfl fun s s' _ hmove hs => ?_
    cases hmove with
    | outside now hnow => exact hs.trans hnow
    | watchdog event watchdog htick hcmd hstep => exact (Watchdog.now_of_step hstep).le
    | other watchdog hmain htick => exact (Watchdog.now_of_step htick).le
    | asset operation watchdog hmain htick => exact (Watchdog.now_of_step htick).le
    | leave actor => cases actor <;> exact hs
    | _ => exact hs
  exact ⟨_, by rw [Watchdog.State.step, if_neg hnow.not_gt]⟩

/-- An actor has a step. -/
def Moves (env : Env V) (s : State V) : Prop :=
  ∃ actor event, event.actor? = some actor ∧ (s.step env event).isSome = true

theorem step_goMain (hcall : s.main.call? = (none : Option (Step V))) :
    s.step env (.go .main) = s.goMain := by
  have hcall' : s.call? .main = none := hcall
  change s.go env .main = _
  unfold State.go
  simp only [hcall']

theorem step_goPull (hcall : s.pull.call? = none) : s.step env (.go .pull) = s.goPull := by
  have hcall' : s.call? .pull = none := hcall
  change s.go env .pull = _
  unfold State.go
  simp only [hcall']

/-- An actor with a call to make, or the one that it waits for, goes on. -/
theorem moves_of_call {actor : Actor} {call : Step V} (h : Reachable env time s)
    (hcall : s.call? actor = some call) : Moves env s := by
  by_cases hfree : s.sections.lock = none
  · have hinside : s.sections.inside actor = none := by
      by_contra hin
      cases hfree.symm.trans ((h.sections.inside_iff actor).mp hin)
    exact ⟨actor, .go actor, rfl, isSome_go_of_free env hcall hinside hfree⟩
  · obtain ⟨holder, call', hcall', hinside⟩ := exists_holder h hfree
    exact ⟨holder, .go holder, rfl, isSome_go_of_inside env hcall' hinside⟩

/-- The puller of an interrupted process goes on until its end. -/
theorem moves_of_pulling (h : Reachable env time s) (hinterrupted : s.interrupted = true)
    (habsent : s.pull ≠ .absent) (hfinished : s.pull ≠ .finished) : Moves env s := by
  have hcalls : ∀ call, s.pull.call? = some call → Moves env s := fun call hcall =>
    moves_of_call h (show s.call? .pull = some call from hcall)
  have hgo : s.pull.call? = none → s.goPull.isSome = true → Moves env s := fun hcall hgoes =>
    ⟨.pull, .go .pull, rfl, by rwa [step_goPull hcall]⟩
  cases hpull : s.pull with
  | absent => exact absurd hpull habsent
  | finished => exact absurd hpull hfinished
  | looping => exact hgo (by rw [hpull]; rfl) (by rw [State.goPull, hpull]; rfl)
  | waiting =>
    cases hterm : s.term with
    | true =>
      refine ⟨.pull, .wakePull .pipe, rfl, ?_⟩
      simp [State.step, State.wakePull, hpull, hterm]
    | false =>
      refine ⟨.pull, .wakePull .terminated, rfl, ?_⟩
      simp [State.step, State.wakePull, State.terminated, hpull, hinterrupted]
  | reading metrics =>
    refine hgo (by rw [hpull]; rfl) ?_
    rw [State.goPull, hpull]
    cases metrics with
    | nil => rfl
    | cons m metrics => cases hm : (m.metricInfo? : Option (MetricInfo V)) <;> simp [hm]
  | processing M topic metrics => exact hcalls _ (by rw [hpull]; rfl)
  | setting => exact hcalls _ (by rw [hpull]; rfl)

/-- **Until the main actor of an interrupted process has ended, an actor can go on.** -/
theorem moves_of_interrupted (h : Reachable env time s) (hinterrupted : s.interrupted = true)
    (hfinished : s.main ≠ .finished) : Moves env s := by
  have hcalls : ∀ call, s.main.call? = some call → Moves env s := fun call hcall =>
    moves_of_call h (show s.call? .main = some call from hcall)
  have hgo : s.main.call? = (none : Option (Step V)) → s.goMain.isSome = true → Moves env s :=
    fun hcall hgoes => ⟨.main, .go .main, rfl, by rwa [step_goMain hcall]⟩
  cases hmain : s.main with
  | finished => exact absurd hmain hfinished
  | connecting => exact ⟨.main, .connect false, rfl, by simp [State.step, State.connect, hmain]⟩
  | waiting => exact ⟨.main, .wakeMain .expired, rfl, by simp [State.step, State.wakeMain, hmain]⟩
  | configured | spawned | looping | arming | woken | stopping =>
    exact hgo (by rw [hmain]; rfl) (by rw [State.goMain, hmain]; rfl)
  | timed wake now =>
    refine hgo (by rw [hmain]; rfl) ?_
    simp only [State.goMain, hmain]
    split <;> rfl
  | dispatching wake =>
    obtain ⟨watchdog, htick⟩ := exists_tick h
    refine hgo (by rw [hmain]; rfl) ?_
    rw [State.goMain, hmain]
    fun_cases State.dispatch s wake with
    | case7 | case8 => simp [State.dispatch, htick]
    | _ => rfl
  | polling wake => exact hcalls _ (by rw [hmain]; rfl)
  | processing operation => exact hcalls _ (by rw [hmain]; rfl)
  | joining =>
    by_cases hpull : s.pull = .finished
    · exact hgo (by rw [hmain]; rfl) (by rw [State.goMain, hmain, hpull]; rfl)
    · exact moves_of_pulling h hinterrupted (h.ending.started (by rw [hmain]; rfl)) hpull

/-! ### The end -/

theorem Move.interrupted (h : Move env s s') (hs : s.interrupted = true) :
    s'.interrupted = true := by
  cases h with
  | watchdog event watchdog htick hcmd hstep =>
    exact (Watchdog.quiet_of_step hstep htick fun cmd h => (hcmd cmd h).1).2.1 hs
  | other watchdog hmain htick => exact (Watchdog.tick_of_step htick).2.1.trans hs
  | asset operation watchdog hmain htick => exact (Watchdog.tick_of_step htick).2.1.trans hs
  | leave actor => cases actor <;> exact hs
  | _ => exact hs

/-- When the main actor has ended, the puller has ended or was never started. -/
theorem Reachable.pull_of_finished (h : Reachable env time s) :
    s.main = .finished → s.pull = .finished ∨ s.pull = .absent := by
  refine h.invariant (P := fun s => s.main = .finished → s.pull = .finished ∨ s.pull = .absent)
    (fun hmain => nomatch hmain) fun s s' hs hmove ih => ?_
  cases hmove with
  | outside | watchdog | enter | work => exact ih
  | connected | spawn | spawned | arm | due | early | other | asset | join =>
    exact fun h => nomatch h
  | main main hnext =>
    rintro rfl
    generalize hmain : s.main = from' at hnext
    cases hnext with
    | finish hpull => exact Or.inl hpull
    | gaveUp => exact Or.inr (hs.accounts.absent (Or.inl hmain))
  | pull pull hnext =>
    intro hmain
    exfalso
    generalize hpull : s.pull = from' at hnext
    have hended := ih hmain
    rw [hpull] at hended
    cases hnext <;> simp at hended
  | read metrics hpull =>
    intro hmain
    have hended := ih hmain
    rw [hpull] at hended
    simp at hended
  | leave actor call sections hcall =>
    intro hmain
    cases actor with
    | main => cases hfrom : s.main <;> simp_all [State.call?, Main.call?, State.resume, Main.resume]
    | pull =>
      have hended := ih hmain
      cases hfrom : s.pull <;> simp_all [State.call?, Pull.call?]

/-- The main actor does not go on when it has ended. -/
theorem Move.finished (hmove : Move env s s') (hs : s.main = .finished) :
    s'.main = .finished := by
  cases hmove with
  | outside | watchdog | enter | work | pull | read => exact hs
  | connected _ _ _ hmain | spawn hmain | spawned hmain | arm hmain | due _ _ hmain
  | early _ _ hmain | other _ hmain | asset _ _ hmain | join hmain => cases hmain.symm.trans hs
  | main main hnext =>
    rw [hs] at hnext
    cases hnext
  | leave actor call sections hcall =>
    cases actor with
    | main =>
      rw [State.call?, hs] at hcall
      cases hcall
    | pull => exact hs

/-- **An interrupted process ends.** In every fair run from a state in which the process is
interrupted, whatever the order of the events, as long as the reloads return: from some time on the
main actor has ended, the puller has ended or was never started, and the mutex is free. -/
theorem interrupted_ends (env : Env V) (time : ℕ) (persist : Persist) (db : ℕ → Database)
    (states : ℕ → State V) (events : ℕ → Event)
    (hfair : FairRun env (Returns persist db env) states events)
    (h : Reachable env time (states 0))
    (hreturns : ∀ n place, (states n).reloadAt? env = some place → Returns persist db env place)
    (hinterrupted : (states 0).interrupted = true) :
    ∃ N, ∀ n, N ≤ n → (states n).main = .finished ∧
      ((states n).pull = .finished ∨ (states n).pull = .absent) ∧
      (states n).sections.lock = none := by
  have hreach := hfair.reachable h
  have hstill : ∀ n, (states n).interrupted = true := by
    intro n
    induction n with
    | zero => exact hinterrupted
    | succ n ih => exact (move_of_step (hfair.step n)).interrupted ih
  obtain ⟨N, -, hN⟩ := hfair.fair.exists_goal (fun s => rank s.actors)
    (fun s => s.main = .finished) 0
    (fun n _ _ _ => (rank_lt_of_move (hreach n) (hstill n) (move_of_step (hfair.step n))).elim
      (fun hsame => (congrArg rank hsame).le) le_of_lt)
    (fun n _ _ _ actor hgoes =>
      rank_lt_of_actor (hreach n) (hstill n) hgoes (hfair.step n))
    fun n _ hmain => by
      obtain ⟨actor, hmoves⟩ := moves_of_interrupted (hreach n) (hstill n) hmain
      exact ⟨actor, hmoves, fun _ => hreturns n⟩
  refine ⟨N, fun n hn => ?_⟩
  have hmain : (states n).main = .finished := by
    induction n, hn using Nat.le_induction with
    | base => exact hN
    | succ n _ ih => exact (move_of_step (hfair.step n)).finished ih
  have hpull := (hreach n).pull_of_finished hmain
  refine ⟨hmain, hpull, ?_⟩
  -- no actor is left that could hold the mutex
  by_contra hheld
  obtain ⟨holder, call, hcall, -⟩ := exists_holder (hreach n) hheld
  cases holder with
  | main =>
    rw [State.call?, hmain] at hcall
    cases hcall
  | pull => rcases hpull with hpull | hpull <;> rw [State.call?, hpull] at hcall <;> cases hcall

theorem isSome_run_interrupt :
    ((State.init 0 : State Extended).run reloadingEnv
      (reloadingEvents ++ [.watchdog .interrupt])).isSome = true := by
  decide +kernel

/-- The process that is interrupted when the main actor is about to reload and the puller waits for
the mutex. -/
def interruptedState : State Extended :=
  ((State.init 0 : State Extended).run reloadingEnv
    (reloadingEvents ++ [.watchdog .interrupt])).get isSome_run_interrupt

theorem any_ended_interruptedState :
    (interruptedState.run reloadingEnv endingEvents).any State.ended = true := by
  decide +kernel

theorem interrupted_ends_reloading :
    let states := interruptedState.play reloadingEnv endingEvents
    ∃ N, ∀ n, N ≤ n → (states n).main = .finished ∧
      ((states n).pull = .finished ∨ (states n).pull = .absent) ∧
      (states n).sections.lock = none := by
  intro states
  obtain ⟨final, hrun, hended⟩ := (Option.any_eq_true _ _).mp any_ended_interruptedState
  exact interrupted_ends reloadingEnv 0 samplePersist (fun _ => fedRack) states _
    (fairRun_of_ended hrun hended) (reachable_of_run (Option.some_get isSome_run_interrupt).symm)
    (fun _ place _ => returns_reloadingEnv place) (by decide +kernel)

end Server

end MetricTPower
