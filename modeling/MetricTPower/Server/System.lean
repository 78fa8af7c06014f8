import MetricTPower.Agent.Parts
import MetricTPower.Server.MetricPull
import MetricTPower.Server.Watchdog

/-!
# The whole process

The main actor `fty_metric_tpower_server` loads the configuration, starts the puller
`fty_metric_tpower_metric_pull` and goes through its loop: it waits, polls when the time has come
and handles the message that has come in. The puller reads the metrics of the shared memory at
regular times. Both work on the configuration in sections under the mutex `mtx_tpowerConf`, but the
main actor reads `getTimeout()` without it. A thread of the watchdog runs beside them.

`State.step` is one event: an actor goes on to its next access to something shared, a call of
`zpoller_wait` returns, or something happens outside. The sections are those of `CriticalSections`,
with the parts of a call as what the other actors can see of it. A reload is one part, and a reload
whose search does not end is a step of the main actor that never comes.

## Main definitions

* `Server.State`, `Server.State.step`: the process, and its events in any order.
* `Server.Reachable`: the states of the process in any run.
* `Server.Move`: the transitions, told apart.

## Main results

* `Server.move_of_step`: every event is one of the transitions.
* `Server.Reachable.invariant`: what every transition keeps holds in every run.
-/

open Relation (ReflTransGen)

namespace MetricTPower.Server

/-! ### The actors -/

/-- The actors that use the configuration. -/
inductive Actor
  | main
  | pull
  deriving DecidableEq

/-- What `mlm_client_recv` returns. -/
inductive Message
  /-- `NULL` -/
  | null
  /-- a message for which `fty_proto_is` is false -/
  | foreign
  /-- one for which `fty_proto_decode` returns `NULL` -/
  | undecodable
  /-- one of `fty_proto` that is not an asset message -/
  | other
  | asset (operation : String)

/-- A message that is not of `fty_proto` or cannot be decoded. -/
def Message.ignored : Message → Bool
  | .null | .foreign | .undecodable => true
  | .other | .asset _ => false

/-- How `zpoller_wait` returns in the main actor. -/
inductive Wake
  | expired
  | terminated
  | pipe (cmd : String)
  | client (message : Message)

/-- How `zpoller_wait` returns in the puller. -/
inductive PullWake
  /-- expired, with the metrics that `read_metrics` gives then -/
  | expired (metrics : List ProtoMetric)
  | terminated
  | pipe

/-- Where the main actor is. -/
inductive Main
  /-- behind `watchdog.start()` -/
  | connecting
  /-- at `zactor_new` -/
  | configured
  /-- at `last = zclock_mono()` -/
  | spawned
  /-- at `while (!zsys_interrupted)` -/
  | looping
  /-- at `int(tpower_conf.getTimeout())` -/
  | arming
  /-- in `zpoller_wait` -/
  | waiting
  /-- at `now = zclock_mono()` -/
  | woken (wake : Wake)
  /-- at `(now - last) >= getTimeout()` -/
  | timed (wake : Wake) (now : ℕ)
  /-- from the lock to the unlock around `onPoll` -/
  | polling (wake : Wake)
  /-- at `zpoller_expired(poller)` -/
  | dispatching (wake : Wake)
  /-- from the lock to the unlock around `processAsset` -/
  | processing (operation : String)
  /-- at `zactor_destroy` -/
  | stopping
  /-- in `zactor_destroy`, with `$TERM` sent -/
  | joining
  | finished

/-- Where the puller is. -/
inductive Pull (V : Type)
  /-- not started -/
  | absent
  /-- at `while (!zsys_interrupted)` -/
  | looping
  /-- in `zpoller_wait` -/
  | waiting
  /-- at the loop of `s_processMetrics`, with the metrics that are left -/
  | reading (metrics : List ProtoMetric)
  /-- from the lock to the unlock around `processMetric` -/
  | processing (M : MetricInfo V) (topic : String) (metrics : List ProtoMetric)
  /-- from the lock to the unlock around `setPollInterval` -/
  | setting
  | finished

/-- The call that the main actor makes in its section. -/
def Main.call? {V : Type} : Main → Option (Step V)
  | .polling _ => some .onPoll
  | .processing operation => some (.processAsset operation)
  | _ => none

/-- Where the main actor goes on behind its section. -/
def Main.resume : Main → Main
  | .polling wake => .dispatching wake
  | .processing _ => .looping
  | main => main

/-- The call that the puller makes in its section. -/
def Pull.call? {V : Type} : Pull V → Option (Step V)
  | .processing M topic _ => some (.processMetric M topic)
  | .setting => some .setPollInterval
  | _ => none

/-- Where the puller goes on behind its section. -/
def Pull.resume {V : Type} : Pull V → Pull V
  | .processing _ _ metrics => .reading metrics
  | .setting => .looping
  | pull => pull

/-- What the log of a run notes. -/
inductive Entry
  /-- `configure()` before the puller is started -/
  | configured
  /-- `last = zclock_mono()` -/
  | spawned (time : ℕ)
  /-- `zpoller_wait(poller, timeout)` of the main actor -/
  | waiting (timeout : ℤ)
  /-- the comparison of `now - last` with the timer, and its result -/
  | checked (now : ℕ) (timeout : ℤ) (due : Bool)
  /-- a message of `fty_proto` that was decoded, and its operation if it is an asset message -/
  | decoded (time : ℕ) (operation : Option String)
  /-- what the puller has read -/
  | read (metrics : List ProtoMetric)

/-- The process. -/
structure State (V : Type) where
  /-- the configuration, the mutex and the sections -/
  sections : CriticalSections.State Actor (Step V) (Agent V)
  main : Main
  pull : Pull V
  /-- what `zclock_mono` reads, in milliseconds -/
  now : ℕ
  last : ℕ
  watchdog : Watchdog.State
  /-- the context of the sockets is destroyed -/
  contextDestroyed : Bool
  /-- `$TERM` is in the pipe of the puller, which never receives it -/
  term : Bool
  log : List Entry

/-- What happens. -/
inductive Event
  | elapse (time : ℕ)
  | destroyContext
  /-- the thread of the watchdog goes on, or a signal sets `zsys_interrupted` -/
  | watchdog (event : Watchdog.Event)
  /-- the client is made, connected and set as a consumer, or one of these fails -/
  | connect (ok : Bool)
  /-- `zpoller_wait` returns in the main actor -/
  | wakeMain (wake : Wake)
  /-- `zpoller_wait` returns in the puller -/
  | wakePull (wake : PullWake)
  /-- an actor goes on -/
  | go (actor : Actor)

variable {V : Type}

namespace State

/-- `zsys_interrupted` -/
def interrupted (s : State V) : Bool :=
  s.watchdog.interrupted

/-- `zpoller_terminated` may be true. -/
def terminated (s : State V) : Bool :=
  s.interrupted || s.contextDestroyed

/-- `getTimeout()` -/
def getTimeout (s : State V) : ℤ :=
  s.sections.shared.conf.timeout

/-- The beginning of the main actor, whose watchdog has just started. -/
def init (time : ℕ) : State V where
  sections := .init .init
  main := .connecting
  pull := .absent
  now := time
  last := 0
  watchdog := Watchdog.start time
  contextDestroyed := false
  term := false
  log := []

/-! ### The steps -/

/-- The call that an actor makes in its section. -/
def call? (s : State V) : Actor → Option (Step V)
  | .main => s.main.call?
  | .pull => s.pull.call?

/-- An actor goes on behind its section. -/
def resume (s : State V) : Actor → State V
  | .main => { s with main := s.main.resume }
  | .pull => { s with pull := s.pull.resume }

/-- The main actor behind `zpoller_wait` and the periodic polling. -/
def dispatch (s : State V) : Wake → Option (State V)
  | .expired => some { s with main := .looping }
  | .terminated => some { s with main := .stopping }
  | .pipe cmd => some { s with main := if cmd = "$TERM" then .stopping else .looping }
  | .client .null | .client .foreign | .client .undecodable => some { s with main := .looping }
  | .client .other =>
    (s.watchdog.step s.now .tick).map fun watchdog =>
      { s with main := .looping, watchdog, log := .decoded s.now none :: s.log }
  | .client (.asset operation) =>
    (s.watchdog.step s.now .tick).map fun watchdog =>
      { s with main := .processing operation, watchdog, log := .decoded s.now operation :: s.log }

/-- The main actor outside its sections. -/
def goMain (s : State V) : Option (State V) :=
  match s.main with
  | .configured => some { s with main := .spawned, pull := .looping }
  | .spawned => some { s with main := .looping, last := s.now, log := .spawned s.now :: s.log }
  | .looping => some { s with main := if s.interrupted then .stopping else .arming }
  | .arming =>
    some { s with main := .waiting, log := .waiting (s.getTimeout.bmod (2 ^ 32)) :: s.log }
  | .woken wake => some { s with main := .timed wake s.now }
  | .timed wake now =>
    if (s.getTimeout % 2 ^ 64).toNat ≤ now - s.last then
      some { s with
        main := .polling wake
        last := now
        log := .checked now s.getTimeout true :: s.log }
    else
      some { s with
        main := .dispatching wake
        log := .checked now s.getTimeout false :: s.log }
  | .dispatching wake => s.dispatch wake
  -- `$TERM` is sent, and `zactor_destroy` waits for the end of the puller
  | .stopping => some { s with main := .joining, term := true }
  | .joining =>
    match s.pull with
    | .finished => some { s with main := .finished }
    | _ => none
  | .connecting | .waiting | .polling _ | .processing _ | .finished => none

variable [DoubleText V] (env : Env V)

/-- The puller outside its sections. -/
def goPull (s : State V) : Option (State V) :=
  match s.pull with
  | .looping => some { s with pull := if s.interrupted then .finished else .waiting }
  | .reading [] => some { s with pull := .setting }
  | .reading (m :: metrics) =>
    match (m.metricInfo? : Option (MetricInfo V)) with
    | none => some { s with pull := .reading metrics }
    | some M => some { s with pull := .processing M m.topic metrics }
  | .absent | .waiting | .processing _ _ _ | .setting | .finished => none

/-- An actor locks the mutex, runs a part of its call, or unlocks the mutex and goes on. -/
def goSection (s : State V) (actor : Actor) (call : Step V) : Option (State V) :=
  match s.sections.inside actor with
  | none =>
    (s.sections.enter (Step.parts env) actor call).map fun sections => { s with sections }
  | some (_ :: _) => (s.sections.work actor).map fun sections => { s with sections }
  | some [] => (s.sections.leave actor).map fun sections => { s.resume actor with sections }

/-- An actor goes on. -/
def go (s : State V) (actor : Actor) : Option (State V) :=
  match s.call? actor, actor with
  | some call, _ => s.goSection env actor call
  | none, .main => s.goMain
  | none, .pull => s.goPull

/-- The watchdog: the server ticks in `dispatch`, and sends `$TERM` when it destroys it. -/
def goWatchdog (s : State V) (event : Watchdog.Event) : Option (State V) :=
  let goes := (s.watchdog.step s.now event).map fun watchdog => { s with watchdog }
  match event, s.main with
  | .tick, _ => none
  | .command cmd, .finished => if cmd = "$TERM" then goes else none
  | .command _, _ => none
  | .interrupt, _ | .timeout, _ | .kill _, _ | .wake, _ => goes

/-- The beginning of the main actor, up to `configure()`. -/
def connect (s : State V) (ok : Bool) : Option (State V) :=
  match s.main, ok with
  | .connecting, true =>
    -- without the mutex; nobody else has the configuration yet, as if in a section
    ((s.sections.enter (Step.parts env) .main .configure).bind (·.work .main)).bind
      (·.leave .main) |>.map fun sections =>
        { s with sections, main := .configured, log := .configured :: s.log }
  | .connecting, false => some { s with main := .finished }
  | _, _ => none

omit [DoubleText V] in
/-- `zpoller_wait` returns in the main actor. -/
def wakeMain (s : State V) (wake : Wake) : Option (State V) :=
  match s.main, wake with
  | .waiting, .terminated =>
    if s.terminated then some { s with main := .woken .terminated } else none
  | .waiting, wake => some { s with main := .woken wake }
  | _, _ => none

omit [DoubleText V] in
/-- `zpoller_wait` returns in the puller. A message stays in the pipe. -/
def wakePull (s : State V) (wake : PullWake) : Option (State V) :=
  match s.pull, wake with
  | .waiting, .pipe => if s.term then some { s with pull := .looping } else none
  | .waiting, .terminated => if s.terminated then some { s with pull := .finished } else none
  | .waiting, .expired metrics =>
    if s.term then none
    else if s.interrupted then some { s with pull := .finished }
    else some { s with pull := .reading metrics, log := .read metrics :: s.log }
  | _, _ => none

/-- One event. There is no step when it cannot happen in the state. -/
def step (s : State V) : Event → Option (State V)
  | .elapse time => some { s with now := s.now + time }
  | .destroyContext => some { s with contextDestroyed := true }
  | .watchdog event => s.goWatchdog event
  | .connect ok => s.connect env ok
  | .wakeMain wake => s.wakeMain wake
  | .wakePull wake => s.wakePull wake
  | .go actor => s.go env actor

/-- A sequence of events. -/
def run (s : State V) : List Event → Option (State V)
  | [] => some s
  | event :: events => (s.step env event).bind (·.run events)

end State

/-- The states of a process that starts at a reading of the clock, whatever the order of the
events. -/
def Reachable [DoubleText V] (env : Env V) (time : ℕ) (s : State V) : Prop :=
  ReflTransGen (fun s s' : State V => ∃ event, s.step env event = some s') (.init time) s

theorem reflTransGen_of_run [DoubleText V] {env : Env V} {events : List Event} {s s' : State V}
    (h : s.run env events = some s') :
    ReflTransGen (fun s s' : State V => ∃ event, s.step env event = some s') s s' := by
  induction events generalizing s with
  | nil =>
    obtain rfl := Option.some.inj h
    exact .refl
  | cons event events ih =>
    obtain ⟨s₁, hstep, hrun⟩ := Option.bind_eq_some_iff.mp h
    exact (ih hrun).head ⟨event, hstep⟩

theorem reachable_of_run [DoubleText V] {env : Env V} {time : ℕ} {events : List Event} {s : State V}
    (h : (State.init time).run env events = some s) : Reachable env time s :=
  reflTransGen_of_run h

/-! ### The transitions -/

/-- Where the main actor goes without an access to anything but the flags and the messages. -/
inductive Main.Next (s : State V) : Main → Main → Prop
  | stop (h : s.interrupted = true) : Next s .looping .stopping
  | loop (h : s.interrupted = false) : Next s .looping .arming
  | wake (wake : Wake) (h : wake = .terminated → s.terminated = true) :
      Next s .waiting (.woken wake)
  | time (wake : Wake) : Next s (.woken wake) (.timed wake s.now)
  | expired : Next s (.dispatching .expired) .looping
  | terminated : Next s (.dispatching .terminated) .stopping
  | command (cmd : String) (h : cmd ≠ "$TERM") : Next s (.dispatching (.pipe cmd)) .looping
  | term : Next s (.dispatching (.pipe "$TERM")) .stopping
  | ignored (message : Message) (h : message.ignored = true) :
      Next s (.dispatching (.client message)) .looping
  | finish (h : s.pull = .finished) : Next s .joining .finished
  | gaveUp : Next s .connecting .finished

/-- Where the puller goes without an access to anything but the flags and the metrics that it has
read. -/
inductive Pull.Next [DoubleText V] (s : State V) : Pull V → Pull V → Prop
  | stop (h : s.interrupted = true) : Next s .looping .finished
  | loop (h : s.interrupted = false) : Next s .looping .waiting
  | pipe (h : s.term = true) : Next s .waiting .looping
  | terminated (h : s.terminated = true) : Next s .waiting .finished
  | ignored (m : ProtoMetric) (metrics : List ProtoMetric)
      (h : (m.metricInfo? : Option (MetricInfo V)) = none) :
      Next s (.reading (m :: metrics)) (.reading metrics)
  | metric (m : ProtoMetric) (metrics : List ProtoMetric) (M : MetricInfo V)
      (h : m.metricInfo? = some M) :
      Next s (.reading (m :: metrics)) (.processing M m.topic metrics)
  | done : Next s (.reading []) .setting

/-- The transitions of the process. -/
inductive Move [DoubleText V] (env : Env V) (s : State V) : State V → Prop
  | outside (now : ℕ) (hnow : s.now ≤ now) (contextDestroyed : Bool)
      (hcontext : s.contextDestroyed = true → contextDestroyed = true) :
      Move env s { s with now, contextDestroyed }
  | watchdog (event : Watchdog.Event) (watchdog : Watchdog.State) (htick : event ≠ .tick)
      (hcmd : ∀ cmd, event = .command cmd → cmd = "$TERM" ∧ s.main = .finished)
      (hstep : s.watchdog.step s.now event = some watchdog) : Move env s { s with watchdog }
  | connected (entered worked sections : CriticalSections.State Actor (Step V) (Agent V))
      (hmain : s.main = .connecting)
      (hentered : s.sections.enter (Step.parts env) .main .configure = some entered)
      (hworked : entered.work .main = some worked) (hleft : worked.leave .main = some sections) :
      Move env s { s with sections, main := .configured, log := .configured :: s.log }
  | spawn (hmain : s.main = .configured) : Move env s { s with main := .spawned, pull := .looping }
  | spawned (hmain : s.main = .spawned) :
      Move env s { s with main := .looping, last := s.now, log := .spawned s.now :: s.log }
  | main (main : Main) (hnext : Main.Next s s.main main) : Move env s { s with main }
  | arm (hmain : s.main = .arming) :
      Move env s { s with
        main := .waiting
        log := .waiting (s.getTimeout.bmod (2 ^ 32)) :: s.log }
  | due (wake : Wake) (now : ℕ) (hmain : s.main = .timed wake now)
      (hdue : (s.getTimeout % 2 ^ 64).toNat ≤ now - s.last) :
      Move env s { s with
        main := .polling wake
        last := now
        log := .checked now s.getTimeout true :: s.log }
  | early (wake : Wake) (now : ℕ) (hmain : s.main = .timed wake now)
      (hearly : now - s.last < (s.getTimeout % 2 ^ 64).toNat) :
      Move env s { s with
        main := .dispatching wake
        log := .checked now s.getTimeout false :: s.log }
  | other (watchdog : Watchdog.State) (hmain : s.main = .dispatching (.client .other))
      (htick : s.watchdog.step s.now .tick = some watchdog) :
      Move env s { s with main := .looping, watchdog, log := .decoded s.now none :: s.log }
  | asset (operation : String) (watchdog : Watchdog.State)
      (hmain : s.main = .dispatching (.client (.asset operation)))
      (htick : s.watchdog.step s.now .tick = some watchdog) :
      Move env s { s with
        main := .processing operation
        watchdog
        log := .decoded s.now operation :: s.log }
  | join (hmain : s.main = .stopping) : Move env s { s with main := .joining, term := true }
  | pull (pull : Pull V) (hnext : Pull.Next s s.pull pull) : Move env s { s with pull }
  | read (metrics : List ProtoMetric) (hpull : s.pull = .waiting) (hterm : s.term = false)
      (hinterrupted : s.interrupted = false) :
      Move env s { s with pull := .reading metrics, log := .read metrics :: s.log }
  | enter (actor : Actor) (call : Step V)
      (sections : CriticalSections.State Actor (Step V) (Agent V))
      (hcall : s.call? actor = some call) (hinside : s.sections.inside actor = none)
      (h : s.sections.enter (Step.parts env) actor call = some sections) :
      Move env s { s with sections }
  | work (actor : Actor) (call : Step V)
      (sections : CriticalSections.State Actor (Step V) (Agent V))
      (hcall : s.call? actor = some call) (h : s.sections.work actor = some sections) :
      Move env s { s with sections }
  | leave (actor : Actor) (call : Step V)
      (sections : CriticalSections.State Actor (Step V) (Agent V))
      (hcall : s.call? actor = some call) (h : s.sections.leave actor = some sections) :
      Move env s { s.resume actor with sections }

variable [DoubleText V] {env : Env V} {s s' : State V}

theorem move_of_dispatch {wake : Wake} (hmain : s.main = .dispatching wake)
    (h : s.dispatch wake = some s') : Move env s s' := by
  have hnext : ∀ main, Main.Next s (.dispatching wake) main →
      some { s with main } = some s' → Move env s s' := by
    rintro main hnext hs'
    obtain rfl := Option.some.inj hs'
    exact .main main (hmain ▸ hnext)
  fun_cases State.dispatch s wake with
  | case1 => exact hnext _ .expired h
  | case2 => exact hnext _ .terminated h
  | case3 cmd =>
    by_cases hcmd : cmd = "$TERM"
    · subst hcmd
      exact hnext _ .term h
    · exact hnext _ (.command cmd hcmd) (by rwa [State.dispatch, if_neg hcmd] at h)
  | case4 => exact hnext _ (.ignored _ rfl) h
  | case5 => exact hnext _ (.ignored _ rfl) h
  | case6 => exact hnext _ (.ignored _ rfl) h
  | case7 =>
    obtain ⟨watchdog, htick, rfl⟩ := Option.map_eq_some_iff.mp h
    exact .other watchdog hmain htick
  | case8 operation =>
    obtain ⟨watchdog, htick, rfl⟩ := Option.map_eq_some_iff.mp h
    exact .asset operation watchdog hmain htick

theorem move_of_goMain (h : s.goMain = some s') : Move env s s' := by
  have hnext : ∀ main main', s.main = main → Main.Next s main main' →
      some { s with main := main' } = some s' → Move env s s' := by
    rintro main main' rfl hnext hs'
    obtain rfl := Option.some.inj hs'
    exact .main main' hnext
  revert h
  fun_cases State.goMain s with
  | case1 hmain =>
    rintro ⟨⟩
    exact .spawn hmain
  | case2 hmain =>
    rintro ⟨⟩
    exact .spawned hmain
  | case3 hmain =>
    intro h
    cases hinterrupted : s.interrupted with
    | false => exact hnext _ _ hmain (.loop hinterrupted) (by rwa [hinterrupted] at h)
    | true => exact hnext _ _ hmain (.stop hinterrupted) (by rwa [hinterrupted] at h)
  | case4 hmain =>
    rintro ⟨⟩
    exact .arm hmain
  | case5 wake hmain => exact hnext _ _ hmain (.time wake)
  | case6 wake now hmain hdue =>
    rintro ⟨⟩
    exact .due wake now hmain hdue
  | case7 wake now hmain hdue =>
    rintro ⟨⟩
    exact .early wake now hmain (Nat.lt_of_not_le hdue)
  | case8 wake hmain => exact move_of_dispatch hmain
  | case9 hmain =>
    rintro ⟨⟩
    exact .join hmain
  | case10 hmain hpull => exact hnext _ _ hmain (.finish hpull)
  | _ => exact fun h => nomatch h

theorem move_of_goPull (h : s.goPull = some s') : Move env s s' := by
  have hnext : ∀ pull pull', s.pull = pull → Pull.Next s pull pull' →
      some { s with pull := pull' } = some s' → Move env s s' := by
    rintro pull pull' rfl hnext hs'
    obtain rfl := Option.some.inj hs'
    exact .pull pull' hnext
  revert h
  fun_cases State.goPull s with
  | case1 hpull =>
    intro h
    cases hinterrupted : s.interrupted with
    | false => exact hnext _ _ hpull (.loop hinterrupted) (by rwa [hinterrupted] at h)
    | true => exact hnext _ _ hpull (.stop hinterrupted) (by rwa [hinterrupted] at h)
  | case2 hpull => exact hnext _ _ hpull .done
  | case3 m metrics hpull hm => exact hnext _ _ hpull (.ignored m metrics hm)
  | case4 m metrics hpull M hm => exact hnext _ _ hpull (.metric m metrics M hm)
  | _ => exact fun h => nomatch h

theorem move_of_go {actor : Actor} (h : s.go env actor = some s') : Move env s s' := by
  have hsection : ∀ call, s.call? actor = some call →
      s.goSection env actor call = some s' → Move env s s' := by
    intro call hcall h
    rw [State.goSection] at h
    split at h
    · rename_i hinside
      obtain ⟨sections, hsections, rfl⟩ := Option.map_eq_some_iff.mp h
      exact .enter actor call sections hcall hinside hsections
    · obtain ⟨sections, hsections, rfl⟩ := Option.map_eq_some_iff.mp h
      exact .work actor call sections hcall hsections
    · obtain ⟨sections, hsections, rfl⟩ := Option.map_eq_some_iff.mp h
      exact .leave actor call sections hcall hsections
  unfold State.go at h
  split at h
  · rename_i call hcall
    exact hsection call hcall h
  · exact move_of_goMain h
  · exact move_of_goPull h

theorem move_of_goWatchdog {event : Watchdog.Event} (h : s.goWatchdog event = some s') :
    Move env s s' := by
  have hgoes : event ≠ .tick →
      (∀ cmd, event = .command cmd → cmd = "$TERM" ∧ s.main = .finished) →
      ((s.watchdog.step s.now event).map fun watchdog => { s with watchdog }) = some s' →
      Move env s s' := by
    intro htick hcmd h
    obtain ⟨watchdog, hstep, rfl⟩ := Option.map_eq_some_iff.mp h
    exact .watchdog event watchdog htick hcmd hstep
  revert h
  fun_cases State.goWatchdog s event with
  | case1 => exact fun h => nomatch h
  | case2 hmain =>
    refine hgoes (by simp) fun cmd hcmd => ?_
    obtain rfl := Watchdog.Event.command.inj hcmd
    exact ⟨rfl, hmain⟩
  | case3 => exact fun h => nomatch h
  | case4 => exact fun h => nomatch h
  | case5 => exact hgoes (by simp) (by simp)
  | case6 => exact hgoes (by simp) (by simp)
  | case7 => exact hgoes (by simp) (by simp)
  | case8 => exact hgoes (by simp) (by simp)

theorem move_of_connect {ok : Bool} (h : s.connect env ok = some s') : Move env s s' := by
  revert h
  fun_cases State.connect env s ok with
  | case1 hmain =>
    intro h
    obtain ⟨sections, hsections, rfl⟩ := Option.map_eq_some_iff.mp h
    obtain ⟨worked, hworked, hleft⟩ := Option.bind_eq_some_iff.mp hsections
    obtain ⟨entered, hentered, hworked⟩ := Option.bind_eq_some_iff.mp hworked
    exact .connected entered worked sections hmain hentered hworked hleft
  | case2 hmain =>
    rintro ⟨⟩
    exact .main _ (hmain ▸ .gaveUp)
  | case3 => exact fun h => nomatch h

theorem move_of_wakeMain {wake : Wake} (h : s.wakeMain wake = some s') : Move env s s' := by
  revert h
  fun_cases State.wakeMain s wake with
  | case1 hmain hterminated =>
    rintro ⟨⟩
    exact .main _ (hmain ▸ .wake .terminated fun _ => hterminated)
  | case2 => exact fun h => nomatch h
  | case3 =>
    rename_i hmain hwake
    rintro ⟨⟩
    exact .main _ (hmain ▸ .wake wake fun hterminated => absurd hterminated hwake)
  | case4 => exact fun h => nomatch h

theorem move_of_wakePull {wake : PullWake} (h : s.wakePull wake = some s') : Move env s s' := by
  revert h
  fun_cases State.wakePull s wake with
  | case1 hpull hterm =>
    rintro ⟨⟩
    exact .pull _ (hpull ▸ .pipe hterm)
  | case2 => exact fun h => nomatch h
  | case3 hpull hterminated =>
    rintro ⟨⟩
    exact .pull _ (hpull ▸ .terminated hterminated)
  | case4 => exact fun h => nomatch h
  | case5 => exact fun h => nomatch h
  | case6 metrics hpull hterm hinterrupted =>
    rintro ⟨⟩
    refine .pull _ (hpull ▸ .terminated ?_)
    rw [State.terminated, hinterrupted, Bool.true_or]
  | case7 metrics hpull hterm hinterrupted =>
    rintro ⟨⟩
    exact .read metrics hpull (by simpa using hterm) (by simpa using hinterrupted)
  | case8 => exact fun h => nomatch h

/-- **Every event is one of the transitions.** -/
theorem move_of_step {event : Event} (h : s.step env event = some s') : Move env s s' := by
  cases event with
  | elapse time =>
    obtain rfl := Option.some.inj h
    exact .outside _ (Nat.le_add_right _ _) _ id
  | destroyContext =>
    obtain rfl := Option.some.inj h
    exact .outside _ le_rfl true fun _ => rfl
  | watchdog event => exact move_of_goWatchdog h
  | connect ok => exact move_of_connect h
  | wakeMain wake => exact move_of_wakeMain h
  | wakePull wake => exact move_of_wakePull h
  | go actor => exact move_of_go h

/-- What holds at the beginning and is kept by every transition from a state of a run holds in every
run. -/
theorem Reachable.invariant {P : State V → Prop} {time : ℕ} (h : Reachable env time s)
    (hinit : P (.init time))
    (hmove : ∀ s s', Reachable env time s → Move env s s' → P s → P s') : P s := by
  induction h with
  | refl => exact hinit
  | tail hprefix hstep ih =>
    obtain ⟨event, hstep⟩ := hstep
    exact hmove _ _ hprefix (move_of_step hstep) ih

/-! ### A short run -/

/-- Both actors wait; the puller reads a measurement, and the main actor polls after five seconds.
It has the mutex and has run the first part of `onPoll` when the puller comes to the mutex. -/
def oneRackEvents : List Event :=
  [.connect true, .go .main, .go .main, .go .main, .go .main, .go .pull,
    .wakePull (.expired [epduMetric]), .elapse 5000, .wakeMain .expired, .go .main, .go .main,
    .go .main, .go .pull, .go .main]

theorem isSome_run_oneRack :
    ((State.init 0 : State Extended).run oneRackEnv oneRackEvents).isSome = true := by
  decide +kernel

/-- The process at the end of the short run. -/
def oneRackState : State Extended :=
  ((State.init 0 : State Extended).run oneRackEnv oneRackEvents).get isSome_run_oneRack

theorem reachable_oneRackState : Reachable oneRackEnv 0 oneRackState :=
  reachable_of_run (Option.some_get isSome_run_oneRack).symm

end MetricTPower.Server
