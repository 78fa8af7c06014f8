import MetricTPower.Server.System

/-!
# The calls of the process

Whatever the order of the events, the configuration goes through a run of the agent: the calls that
the two actors make in their sections, in the order in which the sections are entered
(`process_serializable`). What was proved of the runs of the agent therefore holds of the process.

The calls are the ones that the actors have reason to make. The log notes the reasons: the start, a
check of the timer that is due, an asset message, what the puller has read. Each actor makes the
calls of its reasons once and in their order, up to those it has still to make
(`calls_exactly_once`).

## Main definitions

* `Entry.calls`, `State.requested`: the calls for which there is a reason.
* `State.made`, `State.pending`: the calls that were made, and those still to be made.

## Main results

* `process_serializable`: the configuration goes through a run of the agent.
* `calls_exactly_once`: no call is lost, made twice or out of order.
-/

open Relation (ReflTransGen)

namespace MetricTPower.Server

variable {V : Type} [DoubleText V] {env : Env V} {s s' : State V} {time : ℕ}

/-! ### The sections of the process -/

theorem Move.sections (h : Move env s s') :
    ReflTransGen (CriticalSections.Step (Step.parts env)) s.sections s'.sections := by
  cases h with
  | connected entered worked sections hmain hentered hworked hleft =>
    exact ((ReflTransGen.single (.enter .main _ hentered)).tail (.work .main hworked)).tail
      (.leave .main hleft)
  | enter actor call sections hcall hinside h => exact .single (.enter actor call h)
  | work actor call sections hcall h => exact .single (.work actor h)
  | leave actor call sections hcall h => exact .single (.leave actor h)
  | _ => exact .refl

/-- The sections of the process are sections under one lock. -/
theorem Reachable.sections (h : Reachable env time s) :
    CriticalSections.Inv (Step.parts env) .init s.sections := by
  refine CriticalSections.inv_of_reachable ?_
  exact h.invariant (P := fun s => ReflTransGen (CriticalSections.Step (Step.parts env))
    (.init .init) s.sections) .refl fun _ _ _ hmove hs => hs.trans hmove.sections

omit [DoubleText V] in
/-- Calls made one after the other are a run of the agent. -/
theorem serial_eq_run [Double V] (env : Env V) (calls : List (Step V)) :
    CriticalSections.serial (Step.parts env) .init calls = run env calls.reverse := by
  induction calls with
  | nil => rfl
  | cons call older ih =>
    rw [CriticalSections.serial, Step.runParts_parts, ih, List.reverse_cons, Agent.run_concat]

/-- Whether the configuration has been made, and how the calls then begin. -/
structure Begun (s : State V) : Prop where
  connecting : s.main = .connecting → s.sections.entered = [] ∧ s.pull = .absent
  loaded : s.main = .connecting ∨ (s.main = .finished ∧ s.pull = .absent) ∨
    ∃ newer, s.sections.entered = newer ++ [(.main, .configure)]

namespace Begun

omit [DoubleText V] in
theorem init (time : ℕ) : Begun (.init time : State V) where
  connecting _ := ⟨rfl, rfl⟩
  loaded := Or.inl rfl

omit [DoubleText V] in
/-- The main actor goes on within or out of its loop. -/
theorem of_main (h : Begun s) {main : Main} (hfrom : s.main ≠ .connecting ∧ s.main ≠ .finished)
    (hmain : main ≠ .connecting) (last : ℕ) (watchdog : Watchdog.State) (term : Bool)
    (log : List Entry) : Begun { s with main, last, watchdog, term, log } where
  connecting hconnecting := absurd hconnecting hmain
  loaded := by
    rcases h.loaded with hconnecting | ⟨hfinished, -⟩ | hloaded
    · exact absurd hconnecting hfrom.1
    · exact absurd hfinished hfrom.2
    · exact Or.inr (Or.inr hloaded)

omit [DoubleText V] in
/-- The puller goes on, from where it would not be if the configuration had not been made. -/
theorem of_pull (h : Begun s) (hfrom : s.pull ≠ .absent) (pull : Pull V) (log : List Entry) :
    Begun { s with pull, log } where
  connecting hconnecting := absurd (h.connecting hconnecting).2 hfrom
  loaded := by
    rcases h.loaded with hconnecting | ⟨-, habsent⟩ | hloaded
    · exact absurd (h.connecting hconnecting).2 hfrom
    · exact absurd habsent hfrom
    · exact Or.inr (Or.inr hloaded)

omit [DoubleText V] in
/-- An actor with a call to make has the configuration. -/
theorem exists_entered (h : Begun s) {actor : Actor} {call : Step V}
    (hcall : s.call? actor = some call) :
    s.main ≠ .connecting ∧ ∃ newer, s.sections.entered = newer ++ [(.main, .configure)] := by
  have hactor : ∀ main, s.main = main → main.call? = (none : Option (Step V)) → s.pull ≠ .absent :=
    by
    rintro _ rfl hmain habsent
    cases actor with
    | main => exact Option.some_ne_none call (hcall.symm.trans hmain)
    | pull =>
      rw [State.call?, habsent] at hcall
      cases hcall
  rcases h.loaded with hconnecting | ⟨hfinished, habsent⟩ | hloaded
  · exact absurd (h.connecting hconnecting).2 (hactor _ hconnecting rfl)
  · exact absurd habsent (hactor _ hfinished rfl)
  · refine ⟨fun hconnecting => ?_, hloaded⟩
    exact absurd (h.connecting hconnecting).2 (hactor _ hconnecting rfl)

theorem move (h : Begun s) (hmove : Move env s s') : Begun s' := by
  cases hmove with
  | outside now hnow contextDestroyed hcontext => exact ⟨h.connecting, h.loaded⟩
  | watchdog event watchdog htick hcmd hstep => exact ⟨h.connecting, h.loaded⟩
  | connected entered worked sections hmain hentered hworked hleft =>
    have hsections : sections.entered = [] ++ [(.main, .configure)] := by
      rw [(CriticalSections.State.leave_spec hleft).1, (CriticalSections.State.work_spec hworked).1,
        (CriticalSections.State.enter_spec hentered).1, (h.connecting hmain).1]
      rfl
    exact ⟨by simp, Or.inr (Or.inr ⟨[], hsections⟩)⟩
  | spawn hmain =>
    rcases h.loaded with hconnecting | ⟨hfinished, -⟩ | hloaded
    · simp [hmain] at hconnecting
    · simp [hmain] at hfinished
    · exact ⟨by simp, Or.inr (Or.inr hloaded)⟩
  | spawned hmain => exact h.of_main (by simp [hmain]) (by simp) _ _ _ _
  | main main hnext =>
    generalize hfrom : s.main = from' at hnext
    cases hnext with
    | finish => exact h.of_main (by simp [hfrom]) (by simp) s.last s.watchdog s.term s.log
    | gaveUp => exact ⟨by simp, Or.inr (Or.inl ⟨rfl, (h.connecting hfrom).2⟩)⟩
    | _ => exact h.of_main (by simp [hfrom]) (by simp) s.last s.watchdog s.term s.log
  | arm hmain => exact h.of_main (by simp [hmain]) (by simp) _ _ _ _
  | due wake now hmain hdue => exact h.of_main (by simp [hmain]) (by simp) _ _ _ _
  | early wake now hmain hearly => exact h.of_main (by simp [hmain]) (by simp) _ _ _ _
  | other watchdog hmain htick => exact h.of_main (by simp [hmain]) (by simp) _ _ _ _
  | asset operation watchdog hmain htick => exact h.of_main (by simp [hmain]) (by simp) _ _ _ _
  | join hmain => exact h.of_main (by simp [hmain]) (by simp) _ _ _ _
  | pull pull hnext =>
    refine h.of_pull (fun habsent => ?_) pull s.log
    rw [habsent] at hnext
    cases hnext
  | read metrics hpull hterm hinterrupted => exact h.of_pull (by simp [hpull]) _ _
  | enter actor call sections hcall hinside hs =>
    obtain ⟨hmain, newer, hnewer⟩ := h.exists_entered hcall
    refine ⟨fun hconnecting => absurd hconnecting hmain,
      Or.inr (Or.inr ⟨(actor, call) :: newer, ?_⟩)⟩
    rw [(CriticalSections.State.enter_spec hs).1, hnewer]
    rfl
  | work actor call sections hcall hs =>
    obtain ⟨hmain, newer, hnewer⟩ := h.exists_entered hcall
    refine ⟨fun hconnecting => absurd hconnecting hmain, Or.inr (Or.inr ⟨newer, ?_⟩)⟩
    rw [(CriticalSections.State.work_spec hs).1, hnewer]
  | leave actor call sections hcall hs =>
    obtain ⟨hmain, newer, hnewer⟩ := h.exists_entered hcall
    have hresume : (s.resume actor).main ≠ .connecting := by
      cases actor with
      | main =>
        cases hfrom : s.main <;> simp [State.call?, Main.call?, hfrom] at hcall <;>
          simp [State.resume, hfrom, Main.resume]
      | pull => exact hmain
    refine ⟨fun hconnecting => absurd hconnecting hresume, Or.inr (Or.inr ⟨newer, ?_⟩)⟩
    rw [(CriticalSections.State.leave_spec hs).1, hnewer]

end Begun

/-- **The process is serializable.** In every state, whatever the order of the events: at most one
actor is inside a section. And unless the main actor has not connected or has given up, there are
calls such that the configuration is the one of the run of the agent made of `configure` and these
calls, which are those of the sections in their order, once the call that is under way has ended;
it is that one already when the mutex is free. -/
theorem process_serializable (env : Env V) (time : ℕ) (s : State V)
    (h : Reachable env time s) :
    (∀ actor actor', s.sections.inside actor ≠ none → s.sections.inside actor' ≠ none →
      actor = actor') ∧
    (s.main = .connecting ∨ (s.main = .finished ∧ s.pull = .absent) ∨
      ∃ calls, s.sections.sections.reverse = .configure :: calls ∧
        s.sections.finish = run env (.configure :: calls) ∧
        (s.sections.lock = none → s.sections.shared = run env (.configure :: calls))) := by
  have hinv := h.sections
  have hbegun : Begun s := h.invariant (Begun.init time) fun _ _ _ hmove hs => hs.move hmove
  refine ⟨fun _ _ => hinv.inside_inj, hbegun.loaded.imp_right (Or.imp_right ?_)⟩
  rintro ⟨newer, hnewer⟩
  have hsections : s.sections.sections.reverse = .configure :: (newer.map Prod.snd).reverse := by
    rw [CriticalSections.State.sections, hnewer, List.map_append, List.reverse_append]
    rfl
  refine ⟨(newer.map Prod.snd).reverse, hsections, ?_, fun hfree => ?_⟩
  · rw [hinv.finish_eq_serial, serial_eq_run, hsections]
  · rw [hinv.free hfree, serial_eq_run, hsections]

theorem process_serializable_oneRack :
    (∀ actor actor', oneRackState.sections.inside actor ≠ none →
      oneRackState.sections.inside actor' ≠ none → actor = actor') ∧
    (oneRackState.main = .connecting ∨
      (oneRackState.main = .finished ∧ oneRackState.pull = .absent) ∨
      ∃ calls, oneRackState.sections.sections.reverse = .configure :: calls ∧
        oneRackState.sections.finish = run oneRackEnv (.configure :: calls) ∧
        (oneRackState.sections.lock = none →
          oneRackState.sections.shared = run oneRackEnv (.configure :: calls))) :=
  process_serializable oneRackEnv 0 oneRackState reachable_oneRackState

/-! ### The calls and their reasons -/

/-- The calls for which an entry is the reason. -/
def Entry.calls : Actor → Entry → List (Step V)
  | .main, .configured => [.configure]
  | .main, .checked _ _ true => [.onPoll]
  | .main, .decoded _ (some operation) => [.processAsset operation]
  | .pull, .read metrics => sProcessMetrics metrics
  | _, _ => []

omit [DoubleText V] in
/-- The calls of an actor in sections that were entered, the oldest first. -/
def callsOf (entered : List (Actor × Step V)) (actor : Actor) : List (Step V) :=
  (entered.reverse.filter (·.1 = actor)).map Prod.snd

omit [DoubleText V] in
theorem callsOf_cons (entered : List (Actor × Step V)) (actor a : Actor) (call : Step V) :
    callsOf ((actor, call) :: entered) a =
      callsOf entered a ++ if actor = a then [call] else [] := by
  rw [callsOf, List.reverse_cons, List.filter_append, List.map_append, callsOf]
  by_cases ha : actor = a
  · simp [ha]
  · simp [ha]

/-- The calls of the metrics that the puller has still to look at. -/
def Pull.rest : Pull V → List (Step V)
  | .reading metrics | .processing _ _ metrics => sProcessMetrics metrics
  | _ => []

namespace State

/-- The calls of an actor for which there has been a reason, in the order of the reasons. -/
def requested (s : State V) (actor : Actor) : List (Step V) :=
  s.log.reverse.flatMap (Entry.calls actor)

omit [DoubleText V] in
/-- The calls that an actor has made, in the order of their sections. -/
def made (s : State V) (actor : Actor) : List (Step V) :=
  callsOf s.sections.entered actor

omit [DoubleText V] in
/-- The call of an actor that has not yet entered its section. -/
def next (s : State V) (actor : Actor) : List (Step V) :=
  match s.sections.inside actor with
  | none => (s.call? actor).toList
  | some _ => []

/-- The calls that an actor has still to make: the next one, and for the puller those of the
metrics that are left. -/
def pending (s : State V) : Actor → List (Step V)
  | .main => s.next .main
  | .pull => s.next .pull ++ s.pull.rest

end State

/-! ### No call is lost or made twice -/

/-- Every actor has made the calls for which there has been a reason, in their order, up to those it
has still to make. -/
structure Accounts (s : State V) : Prop where
  absent : s.main = .connecting ∨ s.main = .configured → s.pull = .absent
  inside : ∀ actor, s.sections.inside actor ≠ none → s.call? actor ≠ none
  requested_eq : ∀ actor, s.requested actor = s.made actor ++ s.pending actor

namespace Accounts

theorem init (time : ℕ) : Accounts (.init time : State V) where
  absent _ := rfl
  inside actor h := absurd rfl h
  requested_eq actor := by cases actor <;> rfl

theorem inside_eq_none (h : Accounts s) (actor : Actor) (hcall : s.call? actor = none) :
    s.sections.inside actor = none := by
  by_contra hinside
  exact h.inside actor hinside hcall

/-- An actor without a call has none in front of a section. -/
theorem next_eq_nil (h : Accounts s) (actor : Actor) (hcall : s.call? actor = none) :
    s.next actor = [] := by
  rw [State.next, h.inside_eq_none actor hcall, hcall]
  rfl

theorem requested_append (entries : List Entry) (actor : Actor)
    (hlog : s'.log = entries ++ s.log) :
    s'.requested actor = s.requested actor ++ entries.reverse.flatMap (Entry.calls actor) := by
  rw [State.requested, hlog, List.reverse_append, List.flatMap_append, State.requested]

/-- The main actor goes on outside its sections: what it notes are the reasons of the call that it
makes next. -/
theorem goMain (h : Accounts s) {main : Main} (entries : List Entry) (last : ℕ)
    (watchdog : Watchdog.State) (term : Bool) (hcall : (s.main.call? : Option (Step V)) = none)
    (hmain : entries.reverse.flatMap (Entry.calls .main) = (main.call? : Option (Step V)).toList)
    (hpull : entries.reverse.flatMap (Entry.calls .pull) = ([] : List (Step V)))
    (habsent : main = .connecting ∨ main = .configured → s.pull = .absent) :
    Accounts { s with main, last, watchdog, term, log := entries ++ s.log } where
  absent := habsent
  inside actor hactor := by
    cases actor with
    | main => exact absurd (h.inside_eq_none .main hcall) hactor
    | pull => exact h.inside .pull hactor
  requested_eq actor := by
    rw [requested_append entries actor rfl, h.requested_eq]
    cases actor with
    | main =>
      rw [State.pending, h.next_eq_nil .main hcall, List.append_nil, hmain,
        State.pending, State.next, h.inside_eq_none .main hcall]
      rfl
    | pull =>
      rw [hpull, List.append_nil]
      rfl

/-- The puller goes on outside its sections. -/
theorem goPull (h : Accounts s) {pull : Pull V} (entries : List Entry)
    (hcall : s.pull.call? = none)
    (hmain : entries.reverse.flatMap (Entry.calls .main) = ([] : List (Step V)))
    (hpull : s.pull.rest ++ entries.reverse.flatMap (Entry.calls .pull) =
      pull.call?.toList ++ pull.rest)
    (habsent : s.pull ≠ .absent) :
    Accounts { s with pull, log := entries ++ s.log } where
  absent hmain' := absurd (h.absent hmain') habsent
  inside actor hactor := by
    cases actor with
    | main => exact h.inside .main hactor
    | pull => exact absurd (h.inside_eq_none .pull hcall) hactor
  requested_eq actor := by
    rw [requested_append entries actor rfl, h.requested_eq]
    cases actor with
    | main =>
      rw [hmain, List.append_nil]
      rfl
    | pull =>
      rw [State.pending, h.next_eq_nil .pull hcall, List.nil_append, List.append_assoc,
        hpull, State.pending, State.next, h.inside_eq_none .pull hcall]
      rfl

section Sections

variable {actor : Actor} {call : Step V}
  {sections : CriticalSections.State Actor (Step V) (Agent V)}

theorem pending_of_inside_eq {a : Actor} (hinside : sections.inside a = s.sections.inside a) :
    State.pending { s with sections } a = s.pending a := by
  cases a <;> simp only [State.pending, State.next, State.call?, hinside]

/-- An actor enters its section: its next call is made. -/
theorem enter (h : Accounts s) (hcall : s.call? actor = some call)
    (hinside : s.sections.inside actor = none)
    (hs : s.sections.enter (Step.parts env) actor call = some sections) :
    Accounts { s with sections } := by
  obtain ⟨hentered, hin, hother⟩ := CriticalSections.State.enter_spec hs
  refine ⟨h.absent, fun a ha => ?_, fun a => ?_⟩
  · by_cases haa : a = actor
    · rw [haa]
      exact fun hnone => Option.some_ne_none call (hcall.symm.trans hnone)
    · exact h.inside a (hother a haa ▸ ha)
  · change s.requested a = callsOf sections.entered a ++ _
    rw [h.requested_eq, hentered, callsOf_cons, List.append_assoc]
    by_cases haa : actor = a
    · subst haa
      obtain ⟨rest, hrest⟩ := Option.ne_none_iff_exists'.mp hin
      cases actor <;> simp_all [State.pending, State.next, State.call?, State.made]
    · rw [pending_of_inside_eq (hother a (Ne.symm haa)), if_neg haa, List.nil_append]
      rfl

/-- An actor runs a part of its call. -/
theorem work (h : Accounts s) (hs : s.sections.work actor = some sections) :
    Accounts { s with sections } := by
  obtain ⟨hentered, hwas, hin, hother⟩ := CriticalSections.State.work_spec hs
  refine ⟨h.absent, fun a ha => ?_, fun a => ?_⟩
  · by_cases haa : a = actor
    · exact haa ▸ h.inside actor hwas
    · exact h.inside a (hother a haa ▸ ha)
  · change s.requested a = callsOf sections.entered a ++ _
    rw [h.requested_eq, hentered]
    by_cases haa : a = actor
    · subst haa
      obtain ⟨rest, hrest⟩ := Option.ne_none_iff_exists'.mp hwas
      obtain ⟨rest', hrest'⟩ := Option.ne_none_iff_exists'.mp hin
      cases a <;> simp [State.pending, State.next, hrest, hrest', State.made]
    · rw [pending_of_inside_eq (hother a haa)]
      rfl

omit [DoubleText V] in
theorem main_resume {main : Main} (h : main.call? = some call) :
    (main.resume.call? : Option (Step V)) = none ∧ main.resume ≠ .connecting ∧
      main.resume ≠ .configured := by
  cases main <;> simp [Main.call?, Main.resume] at h ⊢

theorem pull_resume {pull : Pull V} (h : pull.call? = some call) :
    pull.resume.call? = none ∧ pull.resume.rest = pull.rest ∧ pull ≠ .absent := by
  cases pull <;> simp [Pull.call?, Pull.resume, Pull.rest] at h ⊢

/-- An actor leaves its section and goes on. -/
theorem leave (h : Accounts s) (hcall : s.call? actor = some call)
    (hs : s.sections.leave actor = some sections) :
    Accounts { s.resume actor with sections } := by
  obtain ⟨hentered, hwas, hout, hother⟩ := CriticalSections.State.leave_spec hs
  obtain ⟨rest, hrest⟩ := Option.ne_none_iff_exists'.mp hwas
  cases actor with
  | main =>
    obtain ⟨hresume, hconnecting, hconfigured⟩ := main_resume hcall
    refine ⟨fun hmain => ?_, fun a ha => ?_, fun a => ?_⟩
    · exact absurd hmain (not_or.mpr ⟨hconnecting, hconfigured⟩)
    · cases a with
      | main => exact absurd hout ha
      | pull => exact h.inside .pull (hother .pull (by decide) ▸ ha)
    · change s.requested a = callsOf sections.entered a ++ _
      rw [h.requested_eq, hentered]
      cases a with
      | main => simp [State.pending, State.next, hrest, hout, State.call?, State.resume, hresume,
          State.made]
      | pull => simp [State.pending, State.next, hother .pull, State.call?, State.resume,
          State.made]
  | pull =>
    obtain ⟨hresume, hrest', habsent⟩ := pull_resume hcall
    refine ⟨fun hmain => ?_, fun a ha => ?_, fun a => ?_⟩
    · exact absurd (h.absent hmain) habsent
    · cases a with
      | main => exact h.inside .main (hother .main (by decide) ▸ ha)
      | pull => exact absurd hout ha
    · change s.requested a = callsOf sections.entered a ++ _
      rw [h.requested_eq, hentered]
      cases a with
      | main => simp [State.pending, State.next, hother .main, State.call?, State.resume,
          State.made]
      | pull => simp [State.pending, State.next, hrest, hout, State.call?, State.resume, hresume,
          hrest', State.made]

end Sections

omit [DoubleText V] in
/-- Outside its sections the main actor makes no call and goes to none. -/
theorem main_next {main main' : Main} (h : Main.Next s main main') :
    (main.call? : Option (Step V)) = none ∧ (main'.call? : Option (Step V)) = none ∧
      main' ≠ .connecting ∧ main' ≠ .configured := by
  cases h <;> simp [Main.call?]

theorem pull_next {pull pull' : Pull V} (h : Pull.Next s pull pull') :
    pull.call? = none ∧ pull.rest = pull'.call?.toList ++ pull'.rest ∧ pull ≠ .absent := by
  cases h with
  | ignored m metrics hm => simp [Pull.call?, Pull.rest, sProcessMetrics_cons_none hm]
  | metric m metrics M hm => simp [Pull.call?, Pull.rest, sProcessMetrics_cons_some hm]
  | done => simp [Pull.call?, Pull.rest, sProcessMetrics]
  | _ => simp [Pull.call?, Pull.rest]

theorem move (h : Accounts s) (hmove : Move env s s') : Accounts s' := by
  cases hmove with
  | outside now hnow contextDestroyed hcontext => exact ⟨h.absent, h.inside, h.requested_eq⟩
  | watchdog event watchdog htick hcmd hstep => exact ⟨h.absent, h.inside, h.requested_eq⟩
  | connected entered worked sections hmain hentered hworked hleft =>
    obtain ⟨hentered₁, -, hother₁⟩ := CriticalSections.State.enter_spec hentered
    obtain ⟨hentered₂, -, -, hother₂⟩ := CriticalSections.State.work_spec hworked
    obtain ⟨hentered₃, -, hout, hother₃⟩ := CriticalSections.State.leave_spec hleft
    have hpull : sections.inside .pull = s.sections.inside .pull := by
      rw [hother₃ .pull (by decide), hother₂ .pull (by decide), hother₁ .pull (by decide)]
    have hcall : s.call? .main = none := by rw [State.call?, hmain]; rfl
    refine ⟨fun _ => h.absent (Or.inl hmain), fun a ha => ?_, fun a => ?_⟩
    · cases a with
      | main => exact absurd hout ha
      | pull => exact h.inside .pull (hpull ▸ ha)
    · rw [requested_append [.configured] a rfl, h.requested_eq]
      change _ = callsOf sections.entered a ++ _
      rw [hentered₃, hentered₂, hentered₁, callsOf_cons, State.made]
      cases a with
      | main =>
        rw [State.pending, h.next_eq_nil .main hcall]
        simp [State.pending, State.next, hout, State.call?, Main.call?, Entry.calls]
      | pull =>
        simp [State.pending, State.next, hpull, State.call?, Entry.calls]
  | spawn hmain =>
    have hpull := h.absent (Or.inr hmain)
    have hcall : s.call? .main = none := by rw [State.call?, hmain]; rfl
    have hcall' : s.call? .pull = none := by rw [State.call?, hpull]; rfl
    refine ⟨fun hmain' => by simp at hmain', fun a ha => ?_, fun a => ?_⟩
    · cases a with
      | main => exact absurd (h.inside_eq_none .main hcall) ha
      | pull => exact absurd (h.inside_eq_none .pull hcall') ha
    · refine (h.requested_eq a).trans ?_
      cases a with
      | main =>
        rw [State.pending, h.next_eq_nil .main hcall]
        simp [State.pending, State.next, h.inside_eq_none .main hcall, State.call?, Main.call?,
          State.made]
      | pull =>
        rw [State.pending, h.next_eq_nil .pull hcall', hpull]
        simp [State.pending, State.next, h.inside_eq_none .pull hcall', State.call?, Pull.call?,
          Pull.rest, State.made]
  | spawned hmain =>
    exact h.goMain [.spawned s.now] s.now s.watchdog s.term (by rw [hmain]; rfl)
      rfl rfl (by simp)
  | main main hnext =>
    obtain ⟨hcall, hcall', hconnecting, hconfigured⟩ := main_next hnext
    exact h.goMain [] s.last s.watchdog s.term hcall (by rw [hcall']; rfl) rfl
      fun hmain => absurd hmain (not_or.mpr ⟨hconnecting, hconfigured⟩)
  | arm hmain =>
    exact h.goMain [_] s.last s.watchdog s.term (by rw [hmain]; rfl) rfl rfl (by simp)
  | due wake now hmain hdue =>
    exact h.goMain [_] now s.watchdog s.term (by rw [hmain]; rfl) rfl rfl (by simp)
  | early wake now hmain hearly =>
    exact h.goMain [_] s.last s.watchdog s.term (by rw [hmain]; rfl) rfl rfl (by simp)
  | other watchdog hmain htick =>
    exact h.goMain [_] s.last watchdog s.term (by rw [hmain]; rfl) rfl rfl (by simp)
  | asset operation watchdog hmain htick =>
    exact h.goMain [_] s.last watchdog s.term (by rw [hmain]; rfl) rfl rfl (by simp)
  | join hmain =>
    exact h.goMain [] s.last s.watchdog true (by rw [hmain]; rfl) rfl rfl (by simp)
  | pull pull hnext =>
    obtain ⟨hcall, hrest, habsent⟩ := pull_next hnext
    exact h.goPull [] hcall rfl (by simpa using hrest) habsent
  | read metrics hpull hterm hinterrupted =>
    refine h.goPull [.read metrics] (by rw [hpull]; rfl) rfl ?_ (by simp [hpull])
    simp [hpull, Pull.rest, Pull.call?, Entry.calls]
  | enter actor call sections hcall hinside hs => exact h.enter hcall hinside hs
  | work actor call sections hcall hs => exact h.work hs
  | leave actor call sections hcall hs => exact h.leave hcall hs

end Accounts

theorem Reachable.accounts (h : Reachable env time s) : Accounts s :=
  h.invariant (Accounts.init time) fun _ _ _ hmove hs => hs.move hmove

/-- **No call is lost, made twice or out of order.** In every state, whatever the order of the
events, each actor has made the calls for which there has been a reason, in the order of the
reasons, up to those it has still to make; and the calls of the configuration are those of the two
actors, in some order. -/
theorem calls_exactly_once (env : Env V) (time : ℕ) (s : State V)
    (h : Reachable env time s) :
    (∀ actor, s.requested actor = s.made actor ++ s.pending actor) ∧
    s.sections.sections.Perm (s.made .main ++ s.made .pull) := by
  refine ⟨h.accounts.requested_eq, ?_⟩
  have hsplit := List.filter_append_perm (fun entry : Actor × Step V => decide (entry.1 = .main))
    s.sections.entered.reverse
  have hpull : s.sections.entered.reverse.filter (fun entry => !decide (entry.1 = .main)) =
      s.sections.entered.reverse.filter (·.1 = .pull) := by
    refine List.filter_congr fun entry _ => ?_
    cases entry.1 <;> rfl
  rw [hpull] at hsplit
  rw [CriticalSections.State.sections, State.made, State.made, callsOf, callsOf, ← List.map_append]
  exact ((List.reverse_perm _).symm.trans hsplit.symm).map Prod.snd

theorem calls_exactly_once_oneRack :
    (∀ actor, oneRackState.requested actor =
      oneRackState.made actor ++ oneRackState.pending actor) ∧
    oneRackState.sections.sections.Perm (oneRackState.made .main ++ oneRackState.made .pull) :=
  calls_exactly_once oneRackEnv 0 oneRackState reachable_oneRackState

end MetricTPower.Server
