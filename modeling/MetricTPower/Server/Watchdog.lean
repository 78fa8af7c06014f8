import MetricTPower.Library.Reachability
import Mathlib.Data.Nat.Basic
import Mathlib.Tactic.Common

/-!
# The watchdog

The server ticks a watchdog (`src/watchdog.h`, `src/watchdog.cc`) on every `fty_proto` message that
it decodes, and a thread of the watchdog kills the process when the ticks stay away for ten minutes.
One round of the thread waits for a command on its pipe or for a timeout. `$TERM` ends the thread.
After a timeout it compares the clock with the last tick and goes on to the next round, or else to
the section that kills the process. After any other command it ticks and then runs into the same
section: there is no `continue` as in the other branch.

Events come with readings of `zclock_mono`, in milliseconds, that never go back; the thread keeps
and compares whole seconds.

## Main definitions

* `Watchdog.State`, `Watchdog.State.step`: the thread, its events, and a log of what happened.
* `Watchdog.KillsOnlyStalled`: every signal comes ten minutes after every earlier tick, and in a
  round without a command other than `$TERM`.
* `Watchdog.State.Meets`: the condition on a step.

## Main results

* `Watchdog.killsOnlyStalled_of_meets`: the process is killed only when stalled, in runs whose steps
  meet the condition.
* `Watchdog.not_killsOnlyStalled_of_command`: a command other than `$TERM` kills it.
-/

open Relation (ReflTransGen)

namespace MetricTPower.Watchdog

/-! ### The thread -/

/-- `WATCHDOG_LIMIT`, in seconds. -/
def limit : ℕ := 600

/-- Where the thread is. -/
inductive Phase
  /-- in `zpoller_wait` -/
  | polling
  /-- at `log_error("watchdog expired")` -/
  | expired
  /-- in `zclock_sleep`, after `kill(getpid(), SIGTERM)` has returned `rv` -/
  | terminating (rv : ℤ)
  /-- out of the loop -/
  | stopped
  deriving DecidableEq

/-- What the log of a run notes: the beginning of a round, a tick, a command and a signal. -/
inductive Entry
  | round
  | tick (time : ℕ)
  | command (cmd : String)
  | signal (time : ℕ)
  deriving DecidableEq

/-- What happens to the thread, or between the thread and the server. -/
inductive Event
  /-- `tick()` of the server -/
  | tick
  /-- `zsys_interrupted` is set -/
  | interrupt
  /-- `zpoller_wait` returns without a message -/
  | timeout
  /-- a message comes in on the pipe -/
  | command (cmd : String)
  /-- `kill(getpid(), SIGTERM)` returns `rv` -/
  | kill (rv : ℤ)
  /-- `zclock_sleep(1000)` ends -/
  | wake

/-- The watchdog and its thread, with the log of the run, the newest entry first. -/
structure State where
  /-- the latest reading of `zclock_mono` -/
  now : ℕ
  /-- `last_tick_`, in seconds -/
  lastTick : ℕ
  /-- `zsys_interrupted` -/
  interrupted : Bool := false
  phase : Phase := .polling
  log : List Entry

namespace State

/-- `tick` -/
def tick (s : State) (time : ℕ) : State :=
  { s with lastTick := time / 1000, log := .tick time :: s.log }

/-- `check` -/
def check (s : State) (time : ℕ) : Bool :=
  decide (s.lastTick + limit > time / 1000)

/-- The head of the loop: `while (!zsys_interrupted)`. -/
def nextRound (s : State) : State :=
  if s.interrupted then { s with phase := .stopped }
  else { s with phase := .polling, log := .round :: s.log }

/-- One event at a reading of the clock. There is no step when the clock would go back, or the
thread is not at the place of the event. -/
def step (s : State) (time : ℕ) (event : Event) : Option State :=
  if time < s.now then none
  else
    let s := { s with now := time }
    match event, s.phase with
    | .tick, _ => some (s.tick time)
    | .interrupt, _ => some { s with interrupted := true }
    | .timeout, .polling =>
      if s.check time then some s.nextRound else some { s with phase := .expired }
    | .command cmd, .polling =>
      let s := { s with log := .command cmd :: s.log }
      if cmd = "$TERM" then some { s with phase := .stopped }
      -- no `continue` after the tick: the thread goes on to the kill section
      else some { s.tick time with phase := .expired }
    | .kill rv, .expired =>
      some { s with phase := .terminating rv, log := .signal time :: s.log }
    | .wake, .terminating rv =>
      -- `if (rv != 0) rv = kill(getpid(), SIGKILL)`
      if rv ≠ 0 then some { s with log := .signal time :: s.log }.nextRound
      else some s.nextRound
    | _, _ => none

end State

/-- `start()`: a tick, and the thread enters its loop. -/
def start (time : ℕ) : State where
  now := time
  lastTick := time / 1000
  log := [.round, .tick time]

/-! ### The purpose of the watchdog -/

/-- Every signal of a run comes at least 600 s after every earlier tick, and in a round in which no
command other than `$TERM` has come in. -/
def KillsOnlyStalled (log : List Entry) : Prop :=
  ∀ newer time older, log = newer ++ .signal time :: older →
    (∀ t, .tick t ∈ older → t + 600000 ≤ time) ∧
    ∀ cmd, .command cmd ∈ older.takeWhile (fun entry => decide (entry ≠ .round)) → cmd = "$TERM"

/-- The thread may still send a signal in this round. -/
def State.Pending (s : State) : Prop :=
  s.phase = .expired ∨ ∃ rv ≠ 0, s.phase = .terminating rv

/-- The condition on a step: no tick comes between a check that fails and the signals of its round;
no command other than `$TERM` comes in; and a check in the 600th second after the second of the
last tick does not come earlier within its second than that tick. -/
def State.Meets (s : State) (time : ℕ) : Event → Prop
  | .tick => ¬ s.Pending
  | .command cmd => cmd = "$TERM"
  | .timeout => ∀ t, .tick t ∈ s.log → t / 1000 = s.lastTick → time / 1000 = s.lastTick + 600 →
      t % 1000 ≤ time % 1000
  | .interrupt => True
  | .kill _ => True
  | .wake => True

section Log

variable {log : List Entry} {entry : Entry} {time : ℕ}

/-- Only signals are restricted. -/
theorem KillsOnlyStalled.cons (h : KillsOnlyStalled log) (hentry : ∀ t, entry ≠ .signal t) :
    KillsOnlyStalled (entry :: log) := by
  intro newer time older hlog
  rcases List.cons_eq_append_iff.mp hlog with ⟨-, hsignal⟩ | ⟨newer', rfl, hlog'⟩
  · exact absurd (List.cons.inj hsignal).1.symm (hentry time)
  · exact h newer' time older hlog'

/-- A signal ten minutes after all ticks, without a command other than `$TERM`. -/
theorem KillsOnlyStalled.signal (h : KillsOnlyStalled log)
    (hticks : ∀ t, .tick t ∈ log → t + 600000 ≤ time)
    (hcommands : ∀ cmd, .command cmd ∈ log → cmd = "$TERM") :
    KillsOnlyStalled (.signal time :: log) := by
  intro newer time' older hlog
  rcases List.cons_eq_append_iff.mp hlog with ⟨-, hsignal⟩ | ⟨newer', rfl, hlog'⟩
  · rw [List.cons.injEq, Entry.signal.injEq] at hsignal
    obtain ⟨rfl, rfl⟩ := hsignal
    exact ⟨hticks, fun cmd hcmd => hcommands cmd (List.takeWhile_subset _ hcmd)⟩
  · exact h newer' time' older hlog'

end Log

/-! ### The invariant -/

/-- What holds in runs whose steps meet the condition: the last tick is the latest; while a signal
is to come, all ticks are ten minutes old; and no command other than `$TERM` has come in. -/
structure Inv (s : State) : Prop where
  ticks : ∀ t, .tick t ∈ s.log → t / 1000 ≤ s.lastTick
  lastTick : s.lastTick ≤ s.now / 1000
  pending : s.Pending → ∀ t, .tick t ∈ s.log → t + 600000 ≤ s.now
  commands : ∀ cmd, .command cmd ∈ s.log → cmd = "$TERM"
  stalled : KillsOnlyStalled s.log

namespace Inv

variable {s s' : State} {time : ℕ} {event : Event}

theorem start (time : ℕ) : Inv (start time) where
  ticks t ht := by
    simp only [Watchdog.start, List.mem_cons, List.not_mem_nil, or_false, reduceCtorEq, false_or,
      Entry.tick.injEq] at ht
    rw [ht]
    exact le_rfl
  lastTick := le_rfl
  pending h := by simp [State.Pending, Watchdog.start] at h
  commands cmd hcmd := by simp [Watchdog.start] at hcmd
  stalled newer time' older hlog := by
    have hmem : Entry.signal time' ∈ (Watchdog.start time).log := hlog ▸ by simp
    simp [Watchdog.start] at hmem

/-- Time passes. -/
theorem advance (h : Inv s) (htime : s.now ≤ time) : Inv { s with now := time } where
  ticks := h.ticks
  lastTick := h.lastTick.trans (Nat.div_le_div_right htime)
  pending hp t ht := (h.pending hp t ht).trans htime
  commands := h.commands
  stalled := h.stalled

theorem tick (h : Inv s) (hpending : ¬ s.Pending) : Inv (s.tick s.now) where
  ticks t ht := by
    rcases List.mem_cons.mp ht with hnew | hold
    · rw [Entry.tick.inj hnew]
      exact le_rfl
    · exact (h.ticks t hold).trans h.lastTick
  lastTick := le_rfl
  pending hp := absurd hp hpending
  commands cmd hcmd := h.commands cmd (by simpa [State.tick] using hcmd)
  stalled := h.stalled.cons (by simp)

/-- In the next round no signal is pending. -/
theorem nextRound (h : Inv s) : Inv s.nextRound := by
  rw [State.nextRound]
  split
  · exact ⟨h.ticks, h.lastTick, fun hp => by simp [State.Pending] at hp, h.commands, h.stalled⟩
  · refine ⟨fun t ht => h.ticks t (by simpa using ht), h.lastTick,
      fun hp => by simp [State.Pending] at hp, fun cmd hcmd => h.commands cmd (by simpa using hcmd),
      h.stalled.cons (by simp)⟩

/-- A check that fails and meets the condition comes ten minutes after all ticks. -/
theorem expired (h : Inv s) (hcheck : s.check s.now = false) (hm : s.Meets s.now .timeout) :
    Inv { s with phase := .expired } where
  ticks := h.ticks
  lastTick := h.lastTick
  pending _ t ht := by
    have hlate : s.lastTick + 600 ≤ s.now / 1000 := by simpa [State.check, limit] using hcheck
    have htick : t / 1000 ≤ s.lastTick := h.ticks t ht
    have hsecond := hm t ht
    by_cases hsame : t / 1000 = s.lastTick ∧ s.now / 1000 = s.lastTick + 600
    · have hthousandths : t % 1000 ≤ s.now % 1000 := hsecond hsame.1 hsame.2
      show t + 600000 ≤ s.now
      omega
    · show t + 600000 ≤ s.now
      omega
  commands := h.commands
  stalled := h.stalled

/-- A signal that was pending comes ten minutes after all ticks. -/
theorem signal (h : Inv s) (hpending : s.Pending) (phase : Phase) :
    Inv { s with phase := phase, log := .signal s.now :: s.log } where
  ticks t ht := h.ticks t (by simpa using ht)
  lastTick := h.lastTick
  pending _ t ht := h.pending hpending t (by simpa using ht)
  commands cmd hcmd := h.commands cmd (by simpa using hcmd)
  stalled := h.stalled.signal (h.pending hpending) h.commands

/-- `$TERM` ends the thread. -/
theorem terminate (h : Inv s) :
    Inv { s with phase := .stopped, log := .command "$TERM" :: s.log } where
  ticks t ht := h.ticks t (by simpa using ht)
  lastTick := h.lastTick
  pending hp := by simp [State.Pending] at hp
  commands cmd hcmd := by
    rcases List.mem_cons.mp hcmd with hnew | hold
    · exact Entry.command.inj hnew
    · exact h.commands cmd hold
  stalled := h.stalled.cons (by simp)

/-- Every step that meets the condition keeps the invariant. -/
theorem step (h : Inv s) (hstep : s.step time event = some s') (hm : s.Meets time event) :
    Inv s' := by
  rw [State.step] at hstep
  split at hstep
  · cases hstep
  · rename_i htime
    have h' := h.advance (not_lt.mp htime)
    dsimp only at hstep
    split at hstep
    · -- a tick of the server
      rw [← Option.some.inj hstep]
      exact h'.tick hm
    · rw [← Option.some.inj hstep]
      exact ⟨h'.ticks, h'.lastTick, h'.pending, h'.commands, h'.stalled⟩
    · -- a timeout, and the check
      split at hstep
      · rw [← Option.some.inj hstep]
        exact h'.nextRound
      · rename_i hcheck
        rw [← Option.some.inj hstep]
        exact h'.expired (by simpa using hcheck) hm
    · -- a command, which is `$TERM`
      rename_i cmd _
      obtain rfl : cmd = "$TERM" := hm
      rw [if_pos rfl] at hstep
      rw [← Option.some.inj hstep]
      exact h'.terminate
    · -- the first signal
      rename_i rv hphase
      rw [← Option.some.inj hstep]
      exact h'.signal (Or.inl hphase) (.terminating rv)
    · -- the second signal, when the first one has failed
      rename_i rv hphase
      split at hstep
      · rename_i hrv
        rw [← Option.some.inj hstep]
        exact (h'.signal (Or.inr ⟨rv, hrv, hphase⟩) s.phase).nextRound
      · rw [← Option.some.inj hstep]
        exact h'.nextRound
    · cases hstep

end Inv

/-! ### Runs -/

/-- **The watchdog kills only a stalled agent**, in every run from `start()` in which every step
meets the condition: all events in any order, at readings of the clock that do not go back. -/
theorem killsOnlyStalled_of_meets (time : ℕ) (s : State)
    (hrun : ReflTransGen (fun s s' : State =>
      ∃ time event, s.step time event = some s' ∧ s.Meets time event) (start time) s) :
    KillsOnlyStalled s.log :=
  (Reachability.invariant (P := Inv) (fun _ _ ⟨_, _, hstep, hm⟩ h => h.step hstep hm) hrun
    (.start time)).stalled

/-- The server stalls, and ten minutes after the start the process is killed. -/
theorem killsOnlyStalled_of_meets_stalled :
    KillsOnlyStalled [.signal 600000, .round, .tick 0] := by
  have htimeout : (start 0).step 600000 .timeout =
      some { now := 600000, lastTick := 0, phase := .expired, log := [.round, .tick 0] } := by
    simp [State.step, State.check, start, limit]
  have hmeets : (start 0).Meets 600000 .timeout := by
    intro t ht _ _
    simp only [start, List.mem_cons, List.not_mem_nil, or_false, reduceCtorEq, false_or,
      Entry.tick.injEq] at ht
    rw [ht]
  have hkill : State.step
      { now := 600000, lastTick := 0, phase := .expired, log := [.round, .tick 0] } 600000
        (.kill 0) = some
      { now := 600000
        lastTick := 0
        phase := .terminating 0
        log := [.signal 600000, .round, .tick 0] } := by
    simp [State.step]
  exact killsOnlyStalled_of_meets 0 _
    ((ReflTransGen.single ⟨600000, .timeout, htimeout, hmeets⟩).tail
      ⟨600000, .kill 0, hkill, trivial⟩)

/-- **Any other command kills the agent**: it ticks the watchdog, and the thread sends the signal of
a round in which the command has come in. -/
theorem not_killsOnlyStalled_of_command {s s' s'' : State} {cmd : String} {time time' : ℕ} {rv : ℤ}
    (hcmd : cmd ≠ "$TERM") (hcommand : s.step time (.command cmd) = some s')
    (hkill : s'.step time' (.kill rv) = some s'') : ¬ KillsOnlyStalled s''.log := by
  have hlog' : s'.log = .tick time :: .command cmd :: s.log := by
    rw [State.step] at hcommand
    cases hphase : s.phase <;> simp [hphase, hcmd] at hcommand
    rw [← hcommand.2]
    rfl
  have hlog'' : s''.log = .signal time' :: s'.log := by
    rw [State.step] at hkill
    cases hphase : s'.phase <;> simp [hphase] at hkill
    rw [← hkill.2]
  intro h
  exact hcmd ((h [] time' s'.log hlog'').2 cmd (by simp [hlog']))

/-- Five seconds after the start a command "HELLO" comes in, and the process is killed at once. -/
theorem hello_kills :
    ¬ ∀ (time : ℕ) (s : State), ReflTransGen (fun s s' : State =>
      ∃ time event, s.step time event = some s') (start time) s → KillsOnlyStalled s.log := by
  intro h
  have hrun : ReflTransGen (fun s s' : State => ∃ time event, s.step time event = some s') (start 0)
      { now := 5000, lastTick := 5, phase := .terminating 0,
        log := [.signal 5000, .tick 5000, .command "HELLO", .round, .tick 0] } :=
    (ReflTransGen.single ⟨5000, .command "HELLO", rfl⟩).tail ⟨5000, .kill 0, rfl⟩
  have htick := (h 0 _ hrun [] 5000 _ rfl).1 5000 (by simp)
  omega

end MetricTPower.Watchdog
