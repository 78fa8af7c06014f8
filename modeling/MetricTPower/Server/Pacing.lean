import MetricTPower.Server.Serial

/-!
# The pace of the polling

The main actor reads the timer without the mutex, so that it may find the value of any moment,
also of one in which the puller is in the middle of a call. Every value it can find lies between one
second and five minutes. The checks of the timer therefore have the polls at least a second and less
than five minutes apart, as far as the main actor comes to check: a check that is due is at least a
second later than the poll before it, and one that is not due less than five minutes.

## Main definitions

* `lastPoll`: the time of the last poll, or of the start.

## Main results

* `getTimeout_mem`: what can be read of the timer.
* `polls_paced`: the waits, and the times of the polls.
-/

namespace MetricTPower.Server

variable {V : Type} [DoubleText V] {env : Env V} {s s' : State V} {time : ℕ}

/-! ### What can be read of the timer -/

/-- At every moment of every run the timer lies between one second and five minutes. -/
theorem getTimeout_mem (h : Reachable env time s) :
    1000 ≤ s.getTimeout ∧ s.getTimeout ≤ 300000 := by
  refine h.sections.shared_invariant
    (P := fun a : Agent V => 1000 ≤ a.conf.timeout ∧ a.conf.timeout ≤ 300000) ?_ ?_
  · intro call a part hpart b hb
    rcases Step.timeout_part hpart b with hsame | ⟨c, clock, hinterval⟩
    · rw [hsame]
      exact hb
    · rw [hinterval]
      exact c.getPollInterval_mem clock
  · exact Agent.timerInRange_init.timeout

/-- The conversions of the timer lose nothing. -/
theorem getTimeout_conversions (h : Reachable env time s) :
    s.getTimeout.bmod (2 ^ 32) = s.getTimeout ∧
      ((s.getTimeout % 2 ^ 64).toNat : ℤ) = s.getTimeout := by
  obtain ⟨hlow, hhigh⟩ := getTimeout_mem h
  refine ⟨Int.bmod_eq_of_le (by omega) (by omega), ?_⟩
  rw [Int.emod_eq_of_lt (by omega) (by omega)]
  omega

/-! ### The polls -/

/-- The time of the last poll of a log, or of the start. -/
def lastPoll : List Entry → Option ℕ
  | [] => none
  | .spawned time :: _ => some time
  | .checked now _ true :: _ => some now
  | _ :: older => lastPoll older

/-- The main actor is in its loop. -/
def Main.inLoop : Main → Bool
  | .connecting | .configured | .spawned | .stopping | .joining | .finished => false
  | _ => true

/-- The waits of a log are between one second and five minutes, and its checks are due a second and
not due five minutes after the last poll. -/
structure Paced (log : List Entry) : Prop where
  waits : ∀ timeout, .waiting timeout ∈ log → 1000 ≤ timeout ∧ timeout ≤ 300000
  checks : ∀ newer now timeout due older, log = newer ++ .checked now timeout due :: older →
    ∃ last, lastPoll older = some last ∧
      if due then last + 1000 ≤ now else last ≤ now ∧ now < last + 300000

/-- What holds of the pace in every state. -/
structure Pace (s : State V) : Prop where
  paced : Paced s.log
  last : s.main.inLoop = true → lastPoll s.log = some s.last ∧ s.last ≤ s.now
  timed : ∀ wake now, s.main = .timed wake now → s.last ≤ now ∧ now ≤ s.now

namespace Paced

variable {log : List Entry} {entry : Entry}

/-- An entry that is neither a wait nor a check. -/
theorem cons (h : Paced log) (hwait : ∀ timeout, entry ≠ .waiting timeout)
    (hcheck : ∀ now timeout due, entry ≠ .checked now timeout due) : Paced (entry :: log) where
  waits timeout hmem := by
    rcases List.mem_cons.mp hmem with hnew | hmem
    · exact absurd hnew.symm (hwait timeout)
    · exact h.waits timeout hmem
  checks newer now timeout due older hlog := by
    rcases List.cons_eq_append_iff.mp hlog with ⟨-, hnew⟩ | ⟨newer', rfl, hlog'⟩
    · exact absurd (List.cons.inj hnew).1.symm (hcheck now timeout due)
    · exact h.checks newer' now timeout due older hlog'

theorem waiting (h : Paced log) {timeout : ℤ} (ht : 1000 ≤ timeout ∧ timeout ≤ 300000) :
    Paced (.waiting timeout :: log) where
  waits timeout' hmem := by
    rcases List.mem_cons.mp hmem with hnew | hmem
    · rw [Entry.waiting.inj hnew]
      exact ht
    · exact h.waits timeout' hmem
  checks newer now timeout' due older hlog := by
    rcases List.cons_eq_append_iff.mp hlog with ⟨-, hnew⟩ | ⟨newer', rfl, hlog'⟩
    · exact nomatch (List.cons.inj hnew).1
    · exact h.checks newer' now timeout' due older hlog'

theorem checked (h : Paced log) {now last : ℕ} {timeout : ℤ} {due : Bool}
    (hlast : lastPoll log = some last)
    (hdue : if due then last + 1000 ≤ now else last ≤ now ∧ now < last + 300000) :
    Paced (.checked now timeout due :: log) where
  waits timeout' hmem := by
    rcases List.mem_cons.mp hmem with hnew | hmem
    · exact nomatch hnew
    · exact h.waits timeout' hmem
  checks newer now' timeout' due' older hlog := by
    rcases List.cons_eq_append_iff.mp hlog with ⟨-, hnew⟩ | ⟨newer', rfl, hlog'⟩
    · obtain ⟨hentry, rfl⟩ := List.cons.inj hnew
      obtain ⟨rfl, -, rfl⟩ := Entry.checked.inj hentry
      exact ⟨last, hlast, hdue⟩
    · exact h.checks newer' now' timeout' due' older hlog'

end Paced

omit [DoubleText V] in
theorem inLoop_of_next {main main' : Main} (h : Main.Next s main main')
    (hloop : main'.inLoop = true) : main.inLoop = true := by
  cases h <;> simp_all [Main.inLoop]

omit [DoubleText V] in
theorem inLoop_resume {main : Main} {call : Step V} (h : main.call? = some call) :
    main.inLoop = true ∧ ∀ wake now, main.resume ≠ .timed wake now := by
  cases main <;> simp [Main.call?, Main.inLoop, Main.resume] at h ⊢

namespace Pace

theorem move (h : Pace s) (hreach : Reachable env time s) (hmove : Move env s s') : Pace s' := by
  have hrange := getTimeout_mem hreach
  obtain ⟨hint, huint⟩ := getTimeout_conversions hreach
  cases hmove with
  | outside now hnow contextDestroyed hcontext =>
    exact ⟨h.paced, fun hloop => (h.last hloop).imp_right hnow.trans',
      fun wake now' hmain => (h.timed wake now' hmain).imp_right hnow.trans'⟩
  | watchdog event watchdog htick hcmd hstep => exact ⟨h.paced, h.last, h.timed⟩
  | connected entered worked sections hmain hentered hworked hleft =>
    exact ⟨h.paced.cons (by simp) (by simp), by simp [Main.inLoop], by simp⟩
  | spawn hmain => exact ⟨h.paced, by simp [Main.inLoop], by simp⟩
  | spawned hmain => exact ⟨h.paced.cons (by simp) (by simp), fun _ => ⟨rfl, le_rfl⟩, by simp⟩
  | main main hnext =>
    refine ⟨h.paced, fun hloop => h.last (inLoop_of_next hnext hloop), fun wake now hmain => ?_⟩
    -- only the reading of the clock leads to the comparison
    dsimp only at hmain
    subst hmain
    generalize hfrom : s.main = main at hnext
    cases hnext with
    | time => exact ⟨(h.last (by rw [hfrom]; rfl)).2, le_rfl⟩
  | arm hmain =>
    refine ⟨h.paced.waiting (hint.symm ▸ hrange), fun _ => h.last (by rw [hmain]; rfl), by simp⟩
  | due wake now hmain hdue =>
    obtain ⟨hlast, -⟩ := h.last (by rw [hmain]; rfl)
    obtain ⟨hle, hnow⟩ := h.timed wake now hmain
    refine ⟨h.paced.checked hlast ?_, fun _ => ⟨rfl, hnow⟩, by simp⟩
    rw [if_pos rfl]
    omega
  | early wake now hmain hearly =>
    obtain ⟨hlast, hle'⟩ := h.last (by rw [hmain]; rfl)
    obtain ⟨hle, -⟩ := h.timed wake now hmain
    refine ⟨h.paced.checked hlast ?_, fun _ => ⟨hlast, hle'⟩, by simp⟩
    rw [if_neg (by decide)]
    omega
  | other watchdog hmain htick =>
    exact ⟨h.paced.cons (by simp) (by simp), fun _ => h.last (by rw [hmain]; rfl), by simp⟩
  | asset operation watchdog hmain htick =>
    exact ⟨h.paced.cons (by simp) (by simp), fun _ => h.last (by rw [hmain]; rfl), by simp⟩
  | join hmain => exact ⟨h.paced, by simp [Main.inLoop], by simp⟩
  | pull pull hnext => exact ⟨h.paced, h.last, h.timed⟩
  | read metrics hpull hterm hinterrupted =>
    exact ⟨h.paced.cons (by simp) (by simp), h.last, h.timed⟩
  | enter actor call sections hcall hinside hs => exact ⟨h.paced, h.last, h.timed⟩
  | work actor call sections hcall hs => exact ⟨h.paced, h.last, h.timed⟩
  | leave actor call sections hcall hs =>
    cases actor with
    | main =>
      obtain ⟨hloop, htimed⟩ := inLoop_resume hcall
      exact ⟨h.paced, fun _ => h.last hloop, fun wake now hmain => absurd hmain (htimed wake now)⟩
    | pull => exact ⟨h.paced, h.last, h.timed⟩

end Pace

/-- **The polls are paced.** In every run, whatever the order of the events: the main actor waits
between one second and five minutes at a time, also when it reads the timer in the middle of a call
of the puller; a check that leads to a poll is at least a second later than the poll before it, or
the start; and a check that does not is less than five minutes later. -/
theorem polls_paced (env : Env V) (time : ℕ) (s : State V)
    (h : Reachable env time s) :
    (∀ timeout, .waiting timeout ∈ s.log → 1000 ≤ timeout ∧ timeout ≤ 300000) ∧
    ∀ newer now timeout due older, s.log = newer ++ .checked now timeout due :: older →
      ∃ last, lastPoll older = some last ∧
        if due then last + 1000 ≤ now else last ≤ now ∧ now < last + 300000 := by
  have hpace : Pace s := by
    refine h.invariant (P := Pace) ?_ fun _ _ hreach hmove hs => hs.move hreach hmove
    exact ⟨⟨by simp [State.init], by simp [State.init]⟩, by simp [State.init, Main.inLoop],
      by simp [State.init]⟩
  exact ⟨hpace.paced.waits, hpace.paced.checks⟩

theorem polls_paced_oneRack :
    (∀ timeout, .waiting timeout ∈ oneRackState.log → 1000 ≤ timeout ∧ timeout ≤ 300000) ∧
    ∀ newer now timeout due older, oneRackState.log = newer ++ .checked now timeout due :: older →
      ∃ last, lastPoll older = some last ∧
        if due then last + 1000 ≤ now else last ≤ now ∧ now < last + 300000 :=
  polls_paced oneRackEnv 0 oneRackState reachable_oneRackState

end MetricTPower.Server
