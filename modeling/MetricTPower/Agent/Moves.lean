import MetricTPower.Agent.Loading
import MetricTPower.Agent.Run
import MetricTPower.Library.Reachability

/-!
# The moves of a run

Every call of the agent comes to a sequence of moves of a few kinds (`Move`): a method of one unit
is called, `configure` is called, or something else than the units is written. What is to hold of
all runs is proved of the moves. For a statement about one unit and the history there remain the
three methods that a unit sees, the loading of fresh units, and the calls of other units
(`UnitInvariant`).

## Main definitions

* `UnitCall`, `Move`: the methods the agent calls on its units, and the moves.
* `UnitInvariant`: a statement about a unit and the history that every move keeps.
* `Agent.loads`: the number of calls of `configure` so far.

## Main results

* `Agent.steps_moves`: every sequence of steps is a sequence of moves.
* `sendMeasurement_cases`: what one call of `sendMeasurement` does.
* `UnitInvariant.traced`: invariants of units hold in all runs, and for the unit of every call of
  `sendMeasurement` with the history up to the call.
* `Agent.invariant_of_loads_eq`: invariants of runs without a reload.
-/

open Std (TreeMap)
open Relation (ReflTransGen)

namespace MetricTPower

open Double

variable {V : Type} [Double V] {env : Env V}

/-! ### Moves -/

variable (env) in
/-- The methods that the agent calls on the unit of an owner. -/
inductive UnitCall (kind : Kind) (owner : String) :
    (TPUnit V × World V → TPUnit V × World V) → Prop
  | setMeasurement (M : MetricInfo V) : UnitCall kind owner (setMeasurement M)
  | dropOldMetricInfos : UnitCall kind owner (dropOldMetricInfos env)
  | sendMeasurement (quantity : String) (hquantity : quantity ∈ kind.quantities) :
      UnitCall kind owner (sendMeasurement env kind owner quantity)

variable (env) in
/-- What the agent does at a time. -/
inductive Move : Agent V → Agent V → Prop
  | onUnit (a : Agent V) (kind : Kind) (owner : String)
      (f : TPUnit V × World V → TPUnit V × World V) (hf : UnitCall env kind owner f) :
      Move a (a.onUnit kind owner f)
  | configure (a : Agent V) : Move a (a.configure env)
  /-- the timer and the schedule of the reload are written, at the next places -/
  | schedule (a : Agent V) (timeout reconfigPending : ℤ) (places : ℕ) :
      Move a ⟨{ a.conf with timeout, reconfigPending }, a.world.advance places⟩

variable (env) in
/-- The moves of the units only. -/
inductive UnitMove : Agent V → Agent V → Prop
  | onUnit (a : Agent V) (kind : Kind) (owner : String)
      (f : TPUnit V × World V → TPUnit V × World V) (hf : UnitCall env kind owner f) :
      UnitMove a (a.onUnit kind owner f)

theorem moves_of_unitMoves {a a' : Agent V} (h : ReflTransGen (UnitMove env) a a') :
    ReflTransGen (Move env) a a' := by
  refine ReflTransGen.mono ?_ a a' h
  rintro b _ ⟨kind, owner, f, hf⟩
  exact .onUnit b kind owner f hf

namespace Agent

variable (env)

theorem setPollInterval_move (a : Agent V) : Move env a (a.setPollInterval env) :=
  .schedule a _ a.conf.reconfigPending _

/-- The loop over the quantities of a unit keeps to the quantities of the kind. -/
theorem foldl_sendMeasurement_unitMoves (kind : Kind) (owner : String) :
    ∀ (l : List String) (a : Agent V), (∀ q ∈ l, q ∈ kind.quantities) →
      ReflTransGen (UnitMove env) a (l.foldl
        (fun a quantity => a.onUnit kind owner (sendMeasurement env kind owner quantity)) a)
  | [], _, _ => .refl
  | q :: l, a, hl => by
    have hsend : UnitCall env kind owner (sendMeasurement env kind owner q) :=
      .sendMeasurement q (hl q List.mem_cons_self)
    exact (ReflTransGen.single (.onUnit a kind owner _ hsend)).trans
      (foldl_sendMeasurement_unitMoves kind owner l _ fun x hx => hl x (List.mem_cons_of_mem q hx))

theorem sendElement_unitMoves (kind : Kind) (owner : String) (a : Agent V) :
    ReflTransGen (UnitMove env) a (a.sendElement env kind owner) := by
  have hpurge : UnitMove env a (a.onUnit kind owner (dropOldMetricInfos env)) :=
    .onUnit a kind owner _ .dropOldMetricInfos
  exact (ReflTransGen.single hpurge).trans
    (foldl_sendMeasurement_unitMoves env kind owner kind.quantities _ fun _ h => h)

theorem sendMeasurements_unitMoves (kind : Kind) (a : Agent V) :
    ReflTransGen (UnitMove env) a (a.sendMeasurements env kind) :=
  Reachability.reflTransGen_foldl (fun a owner => sendElement_unitMoves env kind owner a) _ a

theorem processMetricFor_unitMoves (kind : Kind) (M : MetricInfo V) (quantity : String)
    (a : Agent V) : ReflTransGen (UnitMove env) a (processMetricFor env kind M quantity a) := by
  rw [processMetricFor]
  split
  · rename_i hquantity
    split
    · exact .refl
    · rename_i owner _
      exact (ReflTransGen.single (.onUnit a kind owner _ (.setMeasurement M))).tail
        (.onUnit _ kind owner _ (.sendMeasurement quantity hquantity))
  · exact .refl

theorem processMetric_unitMoves (M : MetricInfo V) (topic : String) (a : Agent V) :
    ReflTransGen (UnitMove env) a (a.processMetric env M topic) :=
  (processMetricFor_unitMoves env .rack M _ a).trans (processMetricFor_unitMoves env .dc M _ _)

theorem reconfigure_moves (a : Agent V) : ReflTransGen (Move env) a (a.reconfigure env) := by
  have hclock : Move env a { a with world := a.world.advance 1 } :=
    .schedule a a.conf.timeout a.conf.reconfigPending 1
  rw [reconfigure]
  split
  · exact (ReflTransGen.single hclock).tail (.configure _)
  · exact .single hclock

/-- Every call of the agent is a sequence of moves. -/
theorem step_moves (a : Agent V) (s : Step V) : ReflTransGen (Move env) a (a.step env s) := by
  cases s with
  | configure => exact .single (.configure a)
  | processMetric M topic => exact moves_of_unitMoves (processMetric_unitMoves env M topic a)
  | processAsset operation =>
    simp only [step, processAsset]
    split
    · have hschedule : ReflTransGen (Move env) a (a.scheduleReconfig env) := by
        rw [scheduleReconfig]
        split
        · exact .single (.schedule a a.conf.timeout _ 1)
        · exact .refl
      exact hschedule.tail (setPollInterval_move env _)
    · exact .refl
  | onPoll =>
    have hpasses : ReflTransGen (UnitMove env) a
        ((a.sendMeasurements env .rack).sendMeasurements env .dc) :=
      (sendMeasurements_unitMoves env .rack a).trans (sendMeasurements_unitMoves env .dc _)
    exact ((moves_of_unitMoves hpasses).trans (reconfigure_moves env _)).tail
      (setPollInterval_move env _)
  | setPollInterval => exact .single (setPollInterval_move env a)

theorem steps_append (a : Agent V) (steps steps' : List (Step V)) :
    a.steps env (steps ++ steps') = (a.steps env steps).steps env steps' :=
  List.foldl_append

theorem run_append (steps steps' : List (Step V)) :
    run env (steps ++ steps') = (run env steps).steps env steps' :=
  steps_append env _ steps steps'

theorem run_concat (steps : List (Step V)) (s : Step V) :
    run env (steps ++ [s]) = (run env steps).step env s :=
  run_append env steps [s]

/-- Every sequence of calls is a sequence of moves. -/
theorem steps_moves (a : Agent V) (steps : List (Step V)) :
    ReflTransGen (Move env) a (a.steps env steps) :=
  Reachability.reflTransGen_foldl (step_moves env) steps a

end Agent

/-! ### One call of `sendMeasurement` -/

variable (env) in
/-- What one call of `sendMeasurement` does. The unit calculates; when the total is due and can be
read, the sending function is called with it, and the unit notes that it is advertised exactly
when the function returns `true`. -/
theorem sendMeasurement_cases (kind : Kind) (owner quantity : String) (u : TPUnit V)
    (w : World V) :
    ∃ call : Call V, (sendMeasurement env kind owner quantity (u, w)).2 = w.record call ∧
      call.kind = kind ∧ call.owner = owner ∧ call.quantity = quantity ∧ call.before = u ∧
      call.pos = w.pos ∧ call.calculated = (u.calculation quantity (env.time w.pos)).isOk ∧
      let u' := u.calculate quantity (env.time w.pos)
      (call.sent = none ∧ (sendMeasurement env kind owner quantity (u, w)).1 = u' ∧
        (u'.advertise quantity (env.time (w.pos + 1)) = false ∨
          ∀ M, u'.getMetricInfo quantity ≠ .ok M)) ∨
      ∃ M, u'.advertise quantity (env.time (w.pos + 1)) = true ∧ u'.getMetricInfo quantity = .ok M ∧
        call.sent = some (M, env.reply w.pos M) ∧
        (sendMeasurement env kind owner quantity (u, w)).1 =
          if env.reply w.pos M = .returned true then
            u'.advertised quantity (env.time (w.pos + 2)) (env.time (w.pos + 3))
          else u' := by
  rw [sendMeasurement]
  dsimp only
  generalize u.calculate quantity (env.time w.pos) = u'
  cases hdue : u'.advertise quantity (env.time (w.pos + 1)) with
  | false => exact ⟨_, rfl, rfl, rfl, rfl, rfl, rfl, rfl, Or.inl ⟨rfl, rfl, Or.inl rfl⟩⟩
  | true =>
    cases hread : u'.getMetricInfo quantity with
    | error e =>
      refine ⟨_, rfl, rfl, rfl, rfl, rfl, rfl, rfl, Or.inl ⟨rfl, rfl, Or.inr ?_⟩⟩
      simp
    | ok M =>
      dsimp only
      cases hreply : env.reply w.pos M with
      | threw =>
        refine ⟨_, rfl, rfl, rfl, rfl, rfl, rfl, rfl, Or.inr ⟨M, rfl, rfl, ?_, ?_⟩⟩ <;>
          simp [hreply]
      | returned isSent =>
        cases isSent <;>
          refine ⟨_, rfl, rfl, rfl, rfl, rfl, rfl, rfl, Or.inr ⟨M, rfl, rfl, ?_, ?_⟩⟩ <;>
            simp [hreply]

/-! ### One unit in a move -/

namespace TotalPowerConfiguration

omit [Double V] in
@[simp] theorem group_setGroup_self (c : TotalPowerConfiguration V) (kind : Kind)
    (g : UnitGroup V) : (c.setGroup kind g).group kind = g := by
  cases kind <;> rfl

omit [Double V] in
theorem group_setGroup_of_ne (c : TotalPowerConfiguration V) {kind k : Kind} (h : k ≠ kind)
    (g : UnitGroup V) : (c.setGroup kind g).group k = c.group k := by
  cases kind <;> cases k <;> first | rfl | exact absurd rfl h

end TotalPowerConfiguration

namespace Agent

variable {kind k : Kind} {owner o : String} {f : TPUnit V × World V → TPUnit V × World V}

omit [Double V] in
theorem onUnit_of_none {a : Agent V} (h : a.unit? kind owner = none) :
    a.onUnit kind owner f = a := by
  rw [onUnit, h]

omit [Double V] in
theorem world_onUnit_of_some {a : Agent V} {u : TPUnit V} (h : a.unit? kind owner = some u) :
    (a.onUnit kind owner f).world = (f (u, a.world)).2 := by
  rw [onUnit, h]

omit [Double V] in
/-- A method of a unit changes that unit only. -/
theorem unit?_onUnit (a : Agent V) (kind : Kind) (owner : String)
    (f : TPUnit V × World V → TPUnit V × World V) (k : Kind) (o : String) :
    (a.onUnit kind owner f).unit? k o =
      if k = kind ∧ o = owner then (a.unit? k o).map fun u => (f (u, a.world)).1
      else a.unit? k o := by
  cases hu : a.unit? kind owner with
  | none =>
    rw [onUnit_of_none hu]
    split
    · rename_i h
      rw [h.1, h.2, hu, Option.map_none]
    · rfl
  | some u =>
    rw [onUnit, hu]
    simp only [unit?, TotalPowerConfiguration.setUnit] at hu ⊢
    by_cases hk : k = kind
    · subst hk
      rw [TotalPowerConfiguration.group_setGroup_self, TreeMap.getElem?_insert]
      by_cases ho : o = owner
      · subst ho
        simp [hu]
      · simp [ho, Ne.symm ho]
    · rw [TotalPowerConfiguration.group_setGroup_of_ne _ hk]
      simp [hk]

omit [Double V] in
/-- No method of a unit writes the maps of the affected owners. -/
@[simp] theorem affected_onUnit (a : Agent V) (kind : Kind) (owner : String)
    (f : TPUnit V × World V → TPUnit V × World V) (k : Kind) :
    ((a.onUnit kind owner f).conf.group k).affected = (a.conf.group k).affected := by
  rw [onUnit]
  split
  · rfl
  · by_cases hk : k = kind
    · subst hk
      simp [TotalPowerConfiguration.setUnit]
    · rw [TotalPowerConfiguration.setUnit, TotalPowerConfiguration.group_setGroup_of_ne _ hk]

omit [Double V] in
/-- A method of a unit leaves the schedule of the reload and the timer alone. -/
theorem conf_onUnit (a : Agent V) (kind : Kind) (owner : String)
    (f : TPUnit V × World V → TPUnit V × World V) :
    (a.onUnit kind owner f).conf.reconfigPending = a.conf.reconfigPending ∧
      (a.onUnit kind owner f).conf.timeout = a.conf.timeout := by
  rw [onUnit]
  split
  · exact ⟨rfl, rfl⟩
  · cases kind <;> exact ⟨rfl, rfl⟩

omit [Double V] in
theorem fresh_of_configure {a : Agent V} {u : TPUnit V}
    (hu : (a.configure env).unit? k o = some u) : u.Fresh o := by
  rw [unit?, configure, TotalPowerConfiguration.group_configure] at hu
  exact UnitGroup.fresh_load _ o u hu

end Agent

/-! ### Invariants of units -/

variable (env) in
/-- A statement about the unit of an owner and the history that holds of freshly loaded units and
that every move keeps. -/
structure UnitInvariant (P : Kind → String → TPUnit V → List (Event V) → Prop) : Prop where
  fresh : ∀ kind owner u history pos loaded, u.Fresh owner →
    P kind owner u (.configure pos loaded :: history)
  setMeasurement : ∀ kind owner (u : TPUnit V) history M, P kind owner u history →
    P kind owner (u.setMeasurement M) history
  dropOldMetricInfos : ∀ kind owner (u : TPUnit V) history clock, P kind owner u history →
    P kind owner (u.dropOldMetricInfos clock) history
  sendMeasurement : ∀ (kind : Kind) owner quantity u w, quantity ∈ kind.quantities →
    P kind owner u w.history →
      P kind owner (sendMeasurement env kind owner quantity (u, w)).1
        (sendMeasurement env kind owner quantity (u, w)).2.history
  otherCall : ∀ kind owner u history (call : Call V), ¬ (call.kind = kind ∧ call.owner = owner) →
    P kind owner u history → P kind owner u (.sendMeasurement call :: history)

/-- The calls of `sendMeasurement` in a history, the newest first. -/
def calls (history : List (Event V)) : List (Call V) :=
  history.filterMap fun
    | .sendMeasurement call => some call
    | .configure _ _ => none

omit [Double V] in
@[simp] theorem history_record (w : World V) (call : Call V) :
    (w.record call).history = .sendMeasurement call :: w.history := rfl

omit [Double V] in
theorem World.record_injective (w : World V) : Function.Injective w.record := by
  intro call call' h
  have hhistory := congrArg World.history h
  simpa using hhistory

omit [Double V] in
@[simp] theorem calls_sendMeasurement (call : Call V) (history : List (Event V)) :
    calls (.sendMeasurement call :: history) = call :: calls history := rfl

omit [Double V] in
theorem mem_calls {call : Call V} {history : List (Event V)} :
    call ∈ calls history ↔ .sendMeasurement call ∈ history := by
  rw [calls, List.mem_filterMap]
  constructor
  · rintro ⟨event, hevent, h⟩
    cases event with
    | sendMeasurement call' =>
      rw [Option.some.injEq] at h
      rwa [← h]
    | configure pos loaded => cases h
  · exact fun h => ⟨_, h, rfl⟩

omit [Double V] in
/-- A call in a history that starts with a call is this one or one of the rest. -/
theorem sendMeasurement_cons_eq_append {call call' : Call V} {history newer older : List (Event V)}
    (h : .sendMeasurement call' :: history = newer ++ .sendMeasurement call :: older) :
    (call' = call ∧ history = older) ∨
    ∃ newer', newer = .sendMeasurement call' :: newer' ∧
      history = newer' ++ .sendMeasurement call :: older := by
  rcases List.cons_eq_append_iff.mp h with ⟨-, hnew⟩ | ⟨newer', hnewer, hold⟩
  · rw [List.cons.injEq, Event.sendMeasurement.injEq] at hnew
    exact Or.inl ⟨hnew.1.symm, hnew.2.symm⟩
  · exact Or.inr ⟨newer', hnewer, hold⟩

omit [Double V] in
/-- A call in a history that starts with a reload is one of the rest. -/
theorem configure_cons_eq_append {pos : ℕ} {loaded : Bool} {call : Call V}
    {history newer older : List (Event V)}
    (h : .configure pos loaded :: history = newer ++ .sendMeasurement call :: older) :
    ∃ newer', newer = .configure pos loaded :: newer' ∧
      history = newer' ++ .sendMeasurement call :: older := by
  rcases List.cons_eq_append_iff.mp h with ⟨-, hnew⟩ | ⟨newer', hnewer, hold⟩
  · cases hnew
  · exact ⟨newer', hnewer, hold⟩

namespace UnitInvariant

variable {P : Kind → String → TPUnit V → List (Event V) → Prop}

/-- All units of the agent satisfy an invariant, and so did the unit of every call of
`sendMeasurement` when the call started. -/
structure Holds (env : Env V) (P : Kind → String → TPUnit V → List (Event V) → Prop)
    (a : Agent V) : Prop where
  units : ∀ kind owner u, a.unit? kind owner = some u → P kind owner u a.world.history
  calls : ∀ call ∈ calls a.world.history, ∃ w : World V, call.quantity ∈ call.kind.quantities ∧
    P call.kind call.owner call.before w.history ∧
    (MetricTPower.sendMeasurement env call.kind call.owner call.quantity (call.before, w)).2 =
      w.record call

/-- All units of the agent satisfy an invariant, and the unit of every call of `sendMeasurement` did
so when the call started, with the history up to the call. -/
structure Traced (env : Env V) (P : Kind → String → TPUnit V → List (Event V) → Prop)
    (a : Agent V) : Prop where
  units : ∀ kind owner u, a.unit? kind owner = some u → P kind owner u a.world.history
  calls : ∀ newer call older, a.world.history = newer ++ .sendMeasurement call :: older →
    ∃ w : World V, w.history = older ∧ call.quantity ∈ call.kind.quantities ∧
      P call.kind call.owner call.before w.history ∧
      (MetricTPower.sendMeasurement env call.kind call.owner call.quantity (call.before, w)).2 =
        w.record call

/-- The history grows by a call exactly when the method is `sendMeasurement`. -/
theorem history_of_unitCall {kind : Kind} {owner : String}
    {f : TPUnit V × World V → TPUnit V × World V} (hf : UnitCall env kind owner f) (u : TPUnit V)
    (w : World V) :
    (f (u, w)).2.history = w.history ∨
    ∃ call quantity, f = MetricTPower.sendMeasurement env kind owner quantity ∧
      quantity ∈ kind.quantities ∧ (f (u, w)).2 = w.record call ∧ call.kind = kind ∧
      call.owner = owner ∧ call.quantity = quantity ∧ call.before = u := by
  cases hf with
  | setMeasurement M => exact Or.inl rfl
  | dropOldMetricInfos => exact Or.inl rfl
  | sendMeasurement quantity hquantity =>
    obtain ⟨call, hw, hkind, howner, hq, hbefore, -⟩ :=
      sendMeasurement_cases env kind owner quantity u w
    exact Or.inr ⟨call, quantity, rfl, hquantity, hw, hkind, howner, hq, hbefore⟩

/-- The history of a run grows by a method of a unit at most, by a call for that unit. -/
theorem history_onUnit_cases {kind : Kind} {owner : String}
    {f : TPUnit V × World V → TPUnit V × World V} (hf : UnitCall env kind owner f) (a : Agent V) :
    (a.onUnit kind owner f).world.history = a.world.history ∨
    ∃ call u, a.unit? kind owner = some u ∧ call.kind = kind ∧ call.owner = owner ∧
      (a.onUnit kind owner f).world.history = .sendMeasurement call :: a.world.history := by
  cases hu : a.unit? kind owner with
  | none => exact Or.inl (by rw [Agent.onUnit_of_none hu])
  | some u =>
    rw [Agent.world_onUnit_of_some hu]
    rcases history_of_unitCall hf u a.world with hsame | ⟨call, q, -, -, hw, hkind, howner, -⟩
    · exact Or.inl hsame
    · exact Or.inr ⟨call, u, rfl, hkind, howner, by rw [hw, history_record]⟩

theorem traced_init : Traced env P (Agent.init : Agent V) where
  units kind owner u hu := by
    cases kind <;> simp [Agent.init, Agent.unit?, TotalPowerConfiguration.group] at hu
  calls newer call older h := by simp [Agent.init] at h

/-- A method of a unit keeps the invariants of that unit. -/
theorem of_unitCall (h : UnitInvariant env P) {kind : Kind} {owner : String}
    {f : TPUnit V × World V → TPUnit V × World V} (hf : UnitCall env kind owner f) {u : TPUnit V}
    {w : World V} (hu : P kind owner u w.history) :
    P kind owner (f (u, w)).1 (f (u, w)).2.history := by
  cases hf with
  | setMeasurement M => exact h.setMeasurement kind owner u w.history M hu
  | dropOldMetricInfos =>
    exact h.dropOldMetricInfos kind owner u w.history (fun i => env.time (w.pos + i)) hu
  | sendMeasurement quantity hquantity =>
    exact h.sendMeasurement kind owner quantity u w hquantity hu

theorem traced_onUnit (h : UnitInvariant env P) {a : Agent V} (ha : Traced env P a) {kind : Kind}
    {owner : String} {f : TPUnit V × World V → TPUnit V × World V}
    (hf : UnitCall env kind owner f) : Traced env P (a.onUnit kind owner f) := by
  cases hu : a.unit? kind owner with
  | none => rwa [Agent.onUnit_of_none hu]
  | some u =>
    have hunit := ha.units kind owner u hu
    constructor
    · intro k o u' hu'
      rw [Agent.world_onUnit_of_some hu]
      rw [Agent.unit?_onUnit] at hu'
      split at hu'
      · -- the unit itself
        rename_i hsame
        obtain ⟨rfl, rfl⟩ := hsame
        rw [hu, Option.map_some, Option.some.injEq] at hu'
        rw [← hu']
        exact h.of_unitCall hf hunit
      · -- another unit, which at most sees a call of this one
        rename_i hother
        have hunit' := ha.units k o u' hu'
        rcases history_of_unitCall hf u a.world with hsame | ⟨call, q, -, -, hw, hkind, howner, -⟩
        · rwa [hsame]
        · rw [hw]
          refine h.otherCall k o u' _ call ?_ hunit'
          rintro ⟨rfl, rfl⟩
          exact hother ⟨hkind, howner⟩
    · intro newer call older hcall
      rw [Agent.world_onUnit_of_some hu] at hcall
      rcases history_of_unitCall hf u a.world with
        hsame | ⟨call', q, rfl, hq, hw, hkind, howner, hquantity, hbefore⟩
      · rw [hsame] at hcall
        exact ha.calls newer call older hcall
      · rw [hw, history_record] at hcall
        rcases sendMeasurement_cons_eq_append hcall with ⟨rfl, hhistory⟩ | ⟨newer', -, hold⟩
        · -- the new call, which starts with the unit and the history from before
          subst hkind howner hquantity hbefore
          exact ⟨a.world, hhistory, hq, hunit, hw⟩
        · exact ha.calls newer' call older hold

/-- Every move keeps an invariant of units. -/
theorem traced_move (h : UnitInvariant env P) {a a' : Agent V} (hm : Move env a a')
    (ha : Traced env P a) : Traced env P a' := by
  cases hm with
  | onUnit kind owner f hf => exact h.traced_onUnit ha hf
  | configure =>
    refine ⟨fun kind owner u hu => h.fresh kind owner u _ _ _ (Agent.fresh_of_configure hu),
      fun newer call older hcall => ?_⟩
    obtain ⟨newer', -, hold⟩ := configure_cons_eq_append hcall
    exact ha.calls newer' call older hold
  | schedule timeout reconfigPending places => exact ⟨ha.units, ha.calls⟩

/-- **An invariant of units holds in every run**, for every call with the history up to it. -/
theorem traced (h : UnitInvariant env P) (steps : List (Step V)) :
    Traced env P (MetricTPower.run env steps) :=
  Reachability.invariant (fun _ _ hm ha => h.traced_move hm ha) (Agent.steps_moves env _ steps)
    traced_init

/-- **An invariant of units holds in every run.** -/
theorem run (h : UnitInvariant env P) (steps : List (Step V)) :
    Holds env P (MetricTPower.run env steps) where
  units := (h.traced steps).units
  calls call hcall := by
    obtain ⟨newer, older, hhistory⟩ := List.append_of_mem (mem_calls.mp hcall)
    obtain ⟨w, -, hw⟩ := (h.traced steps).calls newer call older hhistory
    exact ⟨w, hw⟩

end UnitInvariant

/-! ### Runs without a reload -/

namespace Agent

omit [Double V] in
/-- The number of calls of `configure` so far. -/
def loads (a : Agent V) : ℕ :=
  a.world.history.countP fun
    | .configure _ _ => true
    | .sendMeasurement _ => false

theorem loads_onUnit (a : Agent V) {kind : Kind} {owner : String}
    {f : TPUnit V × World V → TPUnit V × World V} (hf : UnitCall env kind owner f) :
    (a.onUnit kind owner f).loads = a.loads := by
  rw [loads]
  rcases UnitInvariant.history_onUnit_cases hf a with hsame | ⟨call, u, -, -, -, hcall⟩
  · rw [hsame, loads]
  · rw [hcall]
    rfl

omit [Double V] in
/-- What the methods of units leave as it is: the schedule of the reload, the timer, the affected
owners, and what is loaded. -/
structure UnitsOnly (a a' : Agent V) : Prop where
  reconfigPending : a'.conf.reconfigPending = a.conf.reconfigPending
  timeout : a'.conf.timeout = a.conf.timeout
  affected : ∀ k, (a'.conf.group k).affected = (a.conf.group k).affected
  loads : a'.loads = a.loads

theorem unitsOnly_of_unitMoves {a a' : Agent V} (h : ReflTransGen (UnitMove env) a a') :
    a.UnitsOnly a' := by
  refine Reachability.invariant (P := a.UnitsOnly) ?_ h ⟨rfl, rfl, fun _ => rfl, rfl⟩
  rintro b _ ⟨kind, owner, f, hf⟩ hb
  obtain ⟨hpending, htimeout⟩ := b.conf_onUnit kind owner f
  exact ⟨hpending.trans hb.reconfigPending, htimeout.trans hb.timeout,
    fun k => (b.affected_onUnit kind owner f k).trans (hb.affected k),
    (b.loads_onUnit hf).trans hb.loads⟩

omit [Double V] in
theorem loads_configure (a : Agent V) : (a.configure env).loads = a.loads + 1 := by
  simp [loads, configure]

theorem loads_le_of_move {a a' : Agent V} (hm : Move env a a') : a.loads ≤ a'.loads := by
  cases hm with
  | onUnit kind owner f hf => exact (loads_onUnit a hf).ge
  | configure => exact (loads_configure a).symm ▸ Nat.le_succ _
  | schedule timeout reconfigPending places => exact le_rfl

theorem loads_le_of_moves {a a' : Agent V} (h : ReflTransGen (Move env) a a') :
    a.loads ≤ a'.loads :=
  Reachability.count_le (f := fun b : Agent V => b.loads) (fun _ _ => loads_le_of_move) h

/-- While nothing is loaded, what the other moves keep holds. -/
theorem invariant_of_loads_eq {P : Agent V → Prop}
    (honUnit : ∀ (a : Agent V) kind owner f, UnitCall env kind owner f → P a →
      P (a.onUnit kind owner f))
    (hschedule : ∀ (a : Agent V) timeout reconfigPending places, P a →
      P ⟨{ a.conf with timeout, reconfigPending }, a.world.advance places⟩)
    {a : Agent V} (steps : List (Step V)) (hloads : (a.steps env steps).loads = a.loads)
    (ha : P a) : P (a.steps env steps) := by
  have hcount : ∀ b b' : Agent V, Move env b b' → b.loads ≤ b'.loads := fun _ _ => loads_le_of_move
  refine Reachability.invariant_of_count_eq hcount ?_ (steps_moves env a steps) hloads ha
  intro b b' hm heq hb
  cases hm with
  | onUnit kind owner f hf => exact honUnit b kind owner f hf hb
  | configure => exact absurd ((loads_configure b).symm.trans heq) (Nat.succ_ne_self _)
  | schedule timeout reconfigPending places => exact hschedule b _ _ _ hb

end Agent

/-! ### A short run -/

/-- The database with one rack, a sending function that succeeds, and a clock that stands at 1000
for the first five readings and at 1301 from then on. -/
def oneRackEnv : Env Exact where
  time place := if place < 5 then 1000 else 1301
  reply _ _ := .returned true
  topology _ := oneRack

theorem oneRackEnv_clock : ∀ i j, i ≤ j → oneRackEnv.time i ≤ oneRackEnv.time j := by
  intro i j hij
  simp only [oneRackEnv]
  split <;> split
  · exact Int64.le_refl _
  · decide
  · omega
  · exact Int64.le_refl _

/-- A measurement of the epdu of the rack, of 100 W, that expires in a minute. -/
def epduMetric : MetricInfo Exact where
  elementName := "epdu-1"
  source := "realpower.default"
  units := "W"
  value := some 100
  timestamp := 1000
  ttl := 60

/-- The rack is loaded, its epdu sends a measurement, and after five minutes the agent polls. -/
def oneRackSteps : List (Step Exact) :=
  [.configure, .processMetric epduMetric epduMetric.generateTopic, .onPoll]

end MetricTPower
