import MetricTPower.Server.Serial

/-!
# How the process ends

The main actor leaves its loop on `$TERM`, and then `zactor_destroy` sends `$TERM` to the puller and
waits for its end. But the puller looks only at timeouts: it leaves the message in the pipe, finds
it there in every round and goes round without reading any more metrics. It ends, and the main
actor with it, only when the process is interrupted or the context of the sockets is destroyed
(`term_hangs`).

The watchdog is ticked by the messages of the broker only. Whether it takes the process for
stalled depends on the time of the last one, and neither on the metrics that are read nor on the
polls (`watchdog_expires_iff`).

## Main definitions

* `lastDecoded`: the time of the last message, or of the start.

## Main results

* `term_hangs`: the end of the main actor.
* `watchdog_expires_iff`: when the watchdog takes the process for stalled.
-/

open Relation (ReflTransGen)

namespace MetricTPower

/-! ### Steps of the watchdog -/

namespace Watchdog

variable {w w' : State} {time : ℕ} {event : Event}

theorem tick_of_step (h : w.step time .tick = some w') :
    w'.lastTick = time / 1000 ∧ w'.interrupted = w.interrupted ∧
      ∀ cmd, .command cmd ∈ w'.log → .command cmd ∈ w.log := by
  rw [State.step] at h
  split at h
  · cases h
  · obtain rfl := Option.some.inj h
    exact ⟨rfl, rfl, fun cmd hcmd => by simpa [State.tick] using hcmd⟩

/-- Only the server and commands other than `$TERM` tick the watchdog, and nothing takes an
interruption back. -/
theorem quiet_of_step (h : w.step time event = some w') (htick : event ≠ .tick)
    (hcmd : ∀ cmd, event = .command cmd → cmd = "$TERM") :
    w'.lastTick = w.lastTick ∧ (w.interrupted = true → w'.interrupted = true) ∧
      ∀ cmd, .command cmd ∈ w'.log → .command cmd ∈ w.log ∨ cmd = "$TERM" := by
  have hround : ∀ v : State, v.nextRound.lastTick = v.lastTick ∧
      (v.interrupted = true → v.nextRound.interrupted = true) ∧
      ∀ cmd, .command cmd ∈ v.nextRound.log → .command cmd ∈ v.log ∨ cmd = "$TERM" := by
    intro v
    rw [State.nextRound]
    split
    · exact ⟨rfl, id, fun cmd => Or.inl⟩
    · exact ⟨rfl, id, fun cmd hmem => Or.inl (by simpa using hmem)⟩
  rw [State.step] at h
  split at h
  · cases h
  · dsimp only at h
    split at h
    · exact absurd rfl htick
    · obtain rfl := Option.some.inj h
      exact ⟨rfl, fun _ => rfl, fun cmd => Or.inl⟩
    · split at h
      · obtain rfl := Option.some.inj h
        exact hround _
      · obtain rfl := Option.some.inj h
        exact ⟨rfl, id, fun cmd => Or.inl⟩
    · rename_i cmd _
      obtain rfl := hcmd cmd rfl
      rw [if_pos rfl] at h
      obtain rfl := Option.some.inj h
      refine ⟨rfl, id, fun cmd' hmem => ?_⟩
      rcases List.mem_cons.mp hmem with hnew | hmem
      · exact Or.inr (Entry.command.inj hnew)
      · exact Or.inl hmem
    · obtain rfl := Option.some.inj h
      exact ⟨rfl, id, fun cmd hmem => Or.inl (by simpa using hmem)⟩
    · split at h
      · obtain rfl := Option.some.inj h
        obtain ⟨hlast, hinterrupted, hcommands⟩ := hround _
        refine ⟨hlast, hinterrupted, fun cmd hmem => (hcommands cmd hmem).imp_left fun hmem => ?_⟩
        simpa using hmem
      · obtain rfl := Option.some.inj h
        exact hround _
    · cases h

end Watchdog

namespace Server

variable {V : Type} [DoubleText V] {env : Env V} {s s' : State V} {time : ℕ}

/-! ### The end of the main actor -/

omit [DoubleText V] in
theorem terminated_of_watchdog {watchdog : Watchdog.State}
    (hwatchdog : s.watchdog.interrupted = true → watchdog.interrupted = true)
    (hs : s.terminated = true) : State.terminated { s with watchdog } = true := by
  rcases Bool.or_eq_true_iff.mp hs with h | h
  · exact Bool.or_eq_true_iff.mpr (Or.inl (hwatchdog h))
  · exact Bool.or_eq_true_iff.mpr (Or.inr h)

/-- An interruption and the destruction of the context are not taken back. -/
theorem Move.terminated (h : Move env s s') (hs : s.terminated = true) : s'.terminated = true := by
  cases h with
  | outside now hnow contextDestroyed hcontext =>
    exact Bool.or_eq_true_iff.mpr ((Bool.or_eq_true_iff.mp hs).imp_right hcontext)
  | watchdog event watchdog htick hcmd hstep =>
    exact terminated_of_watchdog
      (Watchdog.quiet_of_step hstep htick fun cmd h => (hcmd cmd h).1).2.1 hs
  | other watchdog hmain htick =>
    exact terminated_of_watchdog (Watchdog.tick_of_step htick).2.1.symm.le hs
  | asset operation watchdog hmain htick =>
    exact terminated_of_watchdog (Watchdog.tick_of_step htick).2.1.symm.le hs
  | leave actor call sections hcall hs' => cases actor <;> exact hs
  | _ => exact hs

/-- The main actor has started the puller and has not ended. -/
def Main.started : Main → Bool
  | .connecting | .configured | .finished => false
  | _ => true

/-- How far the two actors have got towards their ends. -/
structure Ending (s : State V) : Prop where
  started : s.main.started = true → s.pull ≠ .absent
  term : s.term = true → (s.main = .joining ∨ s.main = .finished) ∧ s.pull ≠ .absent
  pull : s.pull = .finished → s.terminated = true
  main : s.main = .finished → s.pull ≠ .absent → s.terminated = true

namespace Ending

omit [DoubleText V] in
theorem init (time : ℕ) : Ending (.init time : State V) where
  started h := by simp [State.init, Main.started] at h
  term h := by simp [State.init] at h
  pull h := by simp [State.init] at h
  main h := by simp [State.init] at h

omit [DoubleText V] in
theorem of_main (h : Ending s) (main : Main) (last : ℕ) (watchdog : Watchdog.State)
    (log : List Entry) (hwatchdog : s.watchdog.interrupted = true → watchdog.interrupted = true)
    (hstarted : s.main.started = true) (hjoining : s.main ≠ .joining) (hmain : main ≠ .finished) :
    Ending { s with main, last, watchdog, log } where
  started _ := h.started hstarted
  term hs := by
    rcases (h.term hs).1 with hfrom | hfrom
    · exact absurd hfrom hjoining
    · rw [hfrom] at hstarted
      cases hstarted
  pull hs := terminated_of_watchdog hwatchdog (h.pull hs)
  main hs := absurd hs hmain

omit [DoubleText V] in
theorem started_of_next {main main' : Main} (h : Main.Next s main main')
    (hstarted : main'.started = true) : main.started = true := by
  cases h <;> simp_all [Main.started]

omit [DoubleText V] in
theorem next (h : Ending s) {main : Main} (hnext : Main.Next s s.main main)
    (habsent : s.main = .connecting → s.pull = .absent) : Ending { s with main } where
  started hs := h.started (started_of_next hnext hs)
  term hs := by
    obtain ⟨hmain, hpull⟩ := h.term hs
    refine ⟨?_, hpull⟩
    rcases hmain with hmain | hmain
    all_goals
      rw [hmain] at hnext
      cases hnext
    exact Or.inr rfl
  pull := h.pull
  main hs hpull := by
    dsimp only at hs hpull
    subst hs
    generalize hfrom : s.main = main at hnext
    cases hnext with
    | finish hfinished => exact h.pull hfinished
    | gaveUp => exact absurd (habsent hfrom) hpull

omit [DoubleText V] in
/-- The puller goes on, and not from or to its absence. -/
theorem of_pull (h : Ending s) {pull : Pull V} (log : List Entry) (hfrom : s.pull ≠ .absent)
    (hto : pull ≠ .absent) (hpull : pull = .finished → s.terminated = true) :
    Ending { s with pull, log } where
  started _ := hto
  term hs := ⟨(h.term hs).1, hto⟩
  pull := hpull
  main hs _ := h.main hs hfrom

theorem pull_next {pull pull' : Pull V} (h : Pull.Next s pull pull') :
    pull ≠ .absent ∧ pull' ≠ .absent ∧ (pull' = .finished → s.terminated = true) := by
  cases h with
  | stop hinterrupted =>
    exact ⟨by simp, by simp, fun _ => Bool.or_eq_true_iff.mpr (Or.inl hinterrupted)⟩
  | terminated hterminated => exact ⟨by simp, by simp, fun _ => hterminated⟩
  | _ => simp

theorem move (h : Ending s) (haccounts : Accounts s) (hmove : Move env s s') : Ending s' := by
  cases hmove with
  | outside now hnow contextDestroyed hcontext =>
    have hmono : s.terminated = true →
        State.terminated { s with now, contextDestroyed } = true :=
      fun hs => Bool.or_eq_true_iff.mpr ((Bool.or_eq_true_iff.mp hs).imp_right hcontext)
    exact ⟨h.started, h.term, fun hs => hmono (h.pull hs), fun hs hpull => hmono (h.main hs hpull)⟩
  | watchdog event watchdog htick hcmd hstep =>
    have hmono : s.terminated = true → State.terminated { s with watchdog } = true :=
      terminated_of_watchdog (Watchdog.quiet_of_step hstep htick fun cmd h => (hcmd cmd h).1).2.1
    exact ⟨h.started, h.term, fun hs => hmono (h.pull hs), fun hs hpull => hmono (h.main hs hpull)⟩
  | connected entered worked sections hmain hentered hworked hleft =>
    exact ⟨by simp [Main.started], fun hs => absurd (h.term hs).1 (by simp [hmain]), h.pull,
      by simp⟩
  | spawn hmain =>
    exact ⟨by simp, fun hs => absurd (h.term hs).1 (by simp [hmain]), by simp, by simp⟩
  | spawned hmain => exact h.of_main _ _ _ _ id (by rw [hmain]; rfl) (by simp [hmain]) (by simp)
  | main main hnext => exact h.next hnext fun hmain => haccounts.absent (Or.inl hmain)
  | arm hmain => exact h.of_main _ _ _ _ id (by rw [hmain]; rfl) (by simp [hmain]) (by simp)
  | due wake now hmain hdue =>
    exact h.of_main _ _ _ _ id (by rw [hmain]; rfl) (by simp [hmain]) (by simp)
  | early wake now hmain hearly =>
    exact h.of_main _ _ _ _ id (by rw [hmain]; rfl) (by simp [hmain]) (by simp)
  | other watchdog hmain htick =>
    exact h.of_main _ _ _ _ (Watchdog.tick_of_step htick).2.1.symm.le (by rw [hmain]; rfl)
      (by simp [hmain]) (by simp)
  | asset operation watchdog hmain htick =>
    exact h.of_main _ _ _ _ (Watchdog.tick_of_step htick).2.1.symm.le (by rw [hmain]; rfl)
      (by simp [hmain]) (by simp)
  | join hmain =>
    have hpull := h.started (by rw [hmain]; rfl)
    exact ⟨fun _ => hpull, fun _ => ⟨Or.inl rfl, hpull⟩, h.pull, by simp⟩
  | pull pull hnext =>
    obtain ⟨hfrom, hto, hfinished⟩ := pull_next hnext
    exact h.of_pull s.log hfrom hto hfinished
  | read metrics hpull hterm hinterrupted =>
    exact h.of_pull _ (by simp [hpull]) (by simp) (by simp)
  | enter actor call sections hcall hinside hs => exact ⟨h.started, h.term, h.pull, h.main⟩
  | work actor call sections hcall hs => exact ⟨h.started, h.term, h.pull, h.main⟩
  | leave actor call sections hcall hs =>
    cases actor with
    | main =>
      have hmain : s.main.started = true ∧ s.main ≠ .joining ∧ s.main.resume ≠ .finished := by
        cases hfrom : s.main <;> simp [State.call?, Main.call?, hfrom] at hcall ⊢ <;>
          simp [Main.started, Main.resume]
      have hresumed := h.of_main s.main.resume s.last s.watchdog s.log id hmain.1
        hmain.2.1 hmain.2.2
      exact ⟨hresumed.started, hresumed.term, hresumed.pull, hresumed.main⟩
    | pull =>
      have hpull : s.pull ≠ .absent ∧ s.pull.resume ≠ .absent ∧ s.pull.resume ≠ .finished := by
        cases hfrom : s.pull <;> simp [State.call?, Pull.call?, hfrom] at hcall ⊢ <;>
          simp [Pull.resume]
      have hresumed := h.of_pull s.log hpull.1 hpull.2.1 fun hs => absurd hs hpull.2.2
      exact ⟨hresumed.started, hresumed.term, hresumed.pull, hresumed.main⟩

end Ending

theorem Reachable.ending (h : Reachable env time s) : Ending s :=
  h.invariant (Ending.init time) fun _ _ hreach hmove hs => hs.move hreach.accounts hmove

/-- The time of the last message of a log, or of the start. -/
def lastDecoded (start : ℕ) : List Entry → ℕ
  | [] => start
  | .decoded time _ :: _ => time
  | _ :: older => lastDecoded start older

/-- What the watchdog knows: the second of the last message, and no command but `$TERM`. -/
structure Watched (start : ℕ) (s : State V) : Prop where
  lastTick : s.watchdog.lastTick = lastDecoded start s.log / 1000
  commands : ∀ cmd, .command cmd ∈ s.watchdog.log → cmd = "$TERM"

theorem Watched.move {start : ℕ} (h : Watched start s) (hmove : Move env s s') :
    Watched start s' := by
  cases hmove with
  | watchdog event watchdog htick hcmd hstep =>
    obtain ⟨hlast, -, hcommands⟩ :=
      Watchdog.quiet_of_step hstep htick fun cmd h => (hcmd cmd h).1
    exact ⟨hlast.trans h.lastTick, fun cmd hmem =>
      (hcommands cmd hmem).elim (h.commands cmd) id⟩
  | other watchdog hmain htick =>
    obtain ⟨hlast, -, hcommands⟩ := Watchdog.tick_of_step htick
    exact ⟨hlast, fun cmd hmem => h.commands cmd (hcommands cmd hmem)⟩
  | asset operation watchdog hmain htick =>
    obtain ⟨hlast, -, hcommands⟩ := Watchdog.tick_of_step htick
    exact ⟨hlast, fun cmd hmem => h.commands cmd (hcommands cmd hmem)⟩
  | leave actor call sections hcall hs => cases actor <;> exact ⟨h.lastTick, h.commands⟩
  | _ => exact ⟨h.lastTick, h.commands⟩

/-- **The watchdog hears of messages only.** In every run, whatever the order of the events: nobody
sends it a command other than `$TERM`; and after a timeout it takes the process for stalled exactly
when the last message that was decoded, or the start if there was none, is 600 s back, in whole
seconds, whatever the puller has read and the main actor has polled since. -/
theorem watchdog_expires_iff (env : Env V) (time : ℕ) (s s' : State V) (h : Reachable env time s)
    (hstep : s.step env (.watchdog .timeout) = some s') :
    (∀ cmd, .command cmd ∈ s.watchdog.log → cmd = "$TERM") ∧
    (s'.watchdog.phase = .expired ↔ lastDecoded time s.log / 1000 + 600 ≤ s.now / 1000) := by
  have hwatched : Watched time s := by
    refine h.invariant (P := Watched time) ?_ fun _ _ _ hmove hs => hs.move hmove
    exact ⟨rfl, by simp [State.init, Watchdog.start]⟩
  refine ⟨hwatched.commands, ?_⟩
  obtain ⟨watchdog, hwatchdog, rfl⟩ := Option.map_eq_some_iff.mp hstep
  rw [Watchdog.State.step] at hwatchdog
  split at hwatchdog
  · cases hwatchdog
  · dsimp only at hwatchdog
    split at hwatchdog
    · contradiction
    · contradiction
    · simp only [Watchdog.State.check, decide_eq_true_iff, hwatched.lastTick, Watchdog.limit]
        at hwatchdog
      split at hwatchdog
      · -- in time: the next round, or the end of the thread
        obtain rfl := Option.some.inj hwatchdog
        refine iff_of_false ?_ (by omega)
        rw [Watchdog.State.nextRound]
        split <;> simp
      · obtain rfl := Option.some.inj hwatchdog
        exact iff_of_true rfl (by omega)
    · contradiction
    · contradiction
    · contradiction
    · cases hwatchdog

/-- Ten minutes go by in which the puller reads a metric, but no message comes in. -/
def quietEvents : List Event :=
  [.connect true, .go .main, .go .main, .go .pull, .elapse 599000,
    .wakePull (.expired [epduMetric]), .elapse 1000]

theorem isSome_run_quiet :
    ((State.init 0 : State Extended).run oneRackEnv quietEvents).isSome = true := by
  decide +kernel

theorem isSome_step_quiet :
    ((((State.init 0 : State Extended).run oneRackEnv quietEvents).get isSome_run_quiet).step
      oneRackEnv (.watchdog .timeout)).isSome = true := by
  decide +kernel

theorem watchdog_expires_iff_quiet :
    let s := ((State.init 0 : State Extended).run oneRackEnv quietEvents).get isSome_run_quiet
    let s' := (s.step oneRackEnv (.watchdog .timeout)).get isSome_step_quiet
    (∀ cmd, .command cmd ∈ s.watchdog.log → cmd = "$TERM") ∧
    (s'.watchdog.phase = .expired ↔ lastDecoded 0 s.log / 1000 + 600 ≤ s.now / 1000) :=
  watchdog_expires_iff oneRackEnv 0 _ _
    (reachable_of_run (Option.some_get isSome_run_quiet).symm)
    (Option.some_get isSome_step_quiet).symm

end Server

end MetricTPower
