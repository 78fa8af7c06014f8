import MetricTPower.Agent.Provenance
import MetricTPower.Agent.MetricEffect

/-!
# What the totals are made of

The measurements of a unit come from the metrics that the run has delivered: what a unit holds for a
device and a quantity is the latest metric of the two that went to its kind, or nothing, for only
the unit of the affected owner stores the metrics of a device, and all else takes measurements away.
With the origin of a sent metric (`lastStore_of_sent`) it follows what a published total is made of:
the calculation that stored it saw nothing but the latest delivered metrics.

## Main definitions

* `delivered`: the metrics that a run delivers to the units of a kind.
* `Agent.Supplied`: the units of a kind hold the latest metrics.
* `Agent.OnlyPurged`: the units of a kind have at most lost measurements.
* `MadeIn`: the step of a run in which a call was made.
* `Origin`: the origin of a sent metric.

## Main results

* `exists_madeIn`: what the unit of a call holds.
* `sent_provenance`: where a sent metric and the measurements behind it come from.
-/

open Std (TreeMap)

namespace MetricTPower

open Double

variable {V : Type}

/-! ### Fewer measurements -/

/-- The second unit holds no measurement that the first does not hold. -/
def TPUnit.Covers (u v : TPUnit V) : Prop :=
  ∀ device quantity M, v.measurementOf device quantity = some M →
    u.measurementOf device quantity = some M

theorem TPUnit.Covers.trans {u v w : TPUnit V} (huv : u.Covers v) (hvw : v.Covers w) :
    u.Covers w :=
  fun device quantity M hM => huv device quantity M (hvw device quantity M hM)

theorem TPUnit.mem_of_measurementOf {u : TPUnit V} {device quantity : String} {M : MetricInfo V}
    (h : u.measurementOf device quantity = some M) : device ∈ u.powerdevices := by
  obtain ⟨measurements, hdevice, -⟩ := Option.bind_eq_some_iff.mp h
  exact TreeMap.mem_iff_isSome_getElem?.mpr (Option.isSome_of_eq_some hdevice)

theorem TPUnit.covers_dropOldMetricInfos (u : TPUnit V) (clock : ℕ → Int64) :
    u.Covers (u.dropOldMetricInfos clock) := by
  intro device quantity M hM
  rw [TPUnit.measurementOf_dropOldMetricInfos, Option.filter_eq_some_iff] at hM
  exact hM.1

namespace Agent

/-- From one agent to another, the units of a kind have at most lost measurements, also those of the
calls in between. -/
structure OnlyPurged (kind : Kind) (a a' : Agent V) : Prop where
  affected : (a'.conf.group kind).affected = (a.conf.group kind).affected
  units : ∀ owner v, a'.unit? kind owner = some v → ∃ u, a.unit? kind owner = some u ∧ u.Covers v
  calls : ∃ new : List (Event V), a'.world.history = new ++ a.world.history ∧
    ∀ call ∈ calls new, call.kind = kind →
      ∃ u, a.unit? kind call.owner = some u ∧ u.Covers call.before

namespace OnlyPurged

variable {kind k : Kind} {a b c : Agent V}

theorem refl (kind : Kind) (a : Agent V) : OnlyPurged kind a a :=
  ⟨rfl, fun _ v hv => ⟨v, hv, fun _ _ _ h => h⟩, [], rfl, by simp [MetricTPower.calls]⟩

theorem trans (hab : OnlyPurged kind a b) (hbc : OnlyPurged kind b c) : OnlyPurged kind a c where
  affected := hbc.affected.trans hab.affected
  units owner w hw := by
    obtain ⟨v, hv, hvw⟩ := hbc.units owner w hw
    obtain ⟨u, hu, huv⟩ := hab.units owner v hv
    exact ⟨u, hu, huv.trans hvw⟩
  calls := by
    obtain ⟨new, hnew, hcalls⟩ := hab.calls
    obtain ⟨new', hnew', hcalls'⟩ := hbc.calls
    refine ⟨new' ++ new, by rw [hnew', hnew, List.append_assoc], fun call hcall hkind => ?_⟩
    rw [MetricTPower.calls, List.filterMap_append, List.mem_append] at hcall
    rcases hcall with hcall | hcall
    · obtain ⟨v, hv, hvw⟩ := hcalls' call hcall hkind
      obtain ⟨u, hu, huv⟩ := hab.units call.owner v hv
      exact ⟨u, hu, huv.trans hvw⟩
    · exact hcalls call hcall hkind

/-- A loop takes measurements away when its body does. -/
theorem foldl {β : Type} {body : Agent V → β → Agent V} :
    ∀ (l : List β) (a : Agent V), (∀ x ∈ l, ∀ a, OnlyPurged kind a (body a x)) →
      OnlyPurged kind a (l.foldl body a)
  | [], a, _ => refl kind a
  | x :: l, a, hbody => (hbody x List.mem_cons_self a).trans
    (foldl l (body a x) fun y hy => hbody y (List.mem_cons_of_mem x hy))

/-- What is neither a unit nor a call does not matter. -/
theorem of_units_eq (haffected : (b.conf.group kind).affected = (a.conf.group kind).affected)
    (hunits : ∀ owner, b.unit? kind owner = a.unit? kind owner)
    (hhistory : b.world.history = a.world.history) : OnlyPurged kind a b :=
  ⟨haffected, fun owner v hv => ⟨v, (hunits owner).symm.trans hv, fun _ _ _ h => h⟩, [], hhistory,
    by simp [MetricTPower.calls]⟩

/-- A method of a unit of another kind, or one that stores no measurement. -/
theorem onUnit [Double V] {env : Env V} {owner : String}
    {f : TPUnit V × World V → TPUnit V × World V} (hf : UnitCall env k owner f)
    (hcovers : k = kind → ∀ (u : TPUnit V) w, u.Covers (f (u, w)).1) (a : Agent V) :
    OnlyPurged kind a (a.onUnit k owner f) where
  affected := a.affected_onUnit k owner f kind
  units o v hv := by
    rw [unit?_onUnit] at hv
    split at hv
    · rename_i hsame
      obtain ⟨u, hu, rfl⟩ := Option.map_eq_some_iff.mp hv
      exact ⟨u, hu, hcovers hsame.1.symm u _⟩
    · exact ⟨v, hv, fun _ _ _ h => h⟩
  calls := by
    cases hu : a.unit? k owner with
    | none => exact ⟨[], by rw [onUnit_of_none hu]; rfl, by simp [MetricTPower.calls]⟩
    | some u =>
      rw [world_onUnit_of_some hu]
      rcases UnitInvariant.history_of_unitCall hf u a.world with
        hsame | ⟨call, q, -, -, hw, hkind, howner, -, hbefore⟩
      · exact ⟨[], hsame, by simp [MetricTPower.calls]⟩
      · refine ⟨[.sendMeasurement call], by rw [hw, history_record]; rfl, fun c hc hck => ?_⟩
        obtain rfl : c = call := by simpa [MetricTPower.calls] using hc
        refine ⟨u, ?_, hbefore ▸ fun _ _ _ h => h⟩
        rw [howner, ← hck, hkind, hu]

end OnlyPurged

section Sending

variable [Double V] (env : Env V) (kind : Kind)

theorem onlyPurged_sendMeasurement (k : Kind) (owner : String) {quantity : String}
    (hquantity : quantity ∈ k.quantities) (a : Agent V) :
    OnlyPurged kind a (a.onUnit k owner (sendMeasurement env k owner quantity)) := by
  refine .onUnit (.sendMeasurement quantity hquantity) (fun _ u w => ?_) a
  intro device q M hM
  rwa [TPUnit.measurementOf_congr (powerdevices_sendMeasurement k owner quantity u w)] at hM

theorem onlyPurged_sendElement (k : Kind) (owner : String) (a : Agent V) :
    OnlyPurged kind a (a.sendElement env k owner) := by
  have hpurge : OnlyPurged kind a (a.onUnit k owner (dropOldMetricInfos env)) := by
    have hf : UnitCall env k owner (dropOldMetricInfos env) := .dropOldMetricInfos
    refine .onUnit hf (fun _ u w => ?_) a
    exact u.covers_dropOldMetricInfos fun i => env.time (w.pos + i)
  exact hpurge.trans (.foldl _ _ fun q hq b => onlyPurged_sendMeasurement env kind k owner hq b)

theorem onlyPurged_sendMeasurements (k : Kind) (a : Agent V) :
    OnlyPurged kind a (a.sendMeasurements env k) :=
  .foldl _ _ fun owner _ b => onlyPurged_sendElement env kind k owner b

omit [Double V] in
/-- The timer and the schedule of the reload do not matter. -/
theorem onlyPurged_schedule (a : Agent V) (timeout reconfigPending : ℤ) (places : ℕ) :
    OnlyPurged kind a ⟨{ a.conf with timeout, reconfigPending }, a.world.advance places⟩ := by
  have hgroup : ∀ c : TotalPowerConfiguration V,
      { c with timeout, reconfigPending }.group kind = c.group kind := fun c => by
    cases kind <;> rfl
  exact .of_units_eq (by rw [hgroup]) (fun owner => by rw [unit?, hgroup, unit?]) rfl

theorem onlyPurged_setPollInterval (a : Agent V) : OnlyPurged kind a (a.setPollInterval env) :=
  onlyPurged_schedule kind a _ a.conf.reconfigPending _

end Sending

end Agent

/-! ### The latest metrics -/

/-- The metrics that a run delivers to the units of a kind. -/
def delivered (kind : Kind) (steps : List (Step V)) : List (MetricInfo V) :=
  steps.filterMap fun
    | .processMetric M topic => if quantityOf topic ∈ kind.quantities then some M else none
    | _ => none

/-- A unit holds nothing but the latest metrics of its devices. -/
def TPUnit.HoldsLatest (u : TPUnit V) (metrics : List (MetricInfo V)) : Prop :=
  ∀ device quantity M, u.measurementOf device quantity = some M →
    latest metrics device quantity = some M

theorem TPUnit.Covers.holdsLatest {u v : TPUnit V} {metrics : List (MetricInfo V)}
    (huv : u.Covers v) (hu : u.HoldsLatest metrics) : v.HoldsLatest metrics :=
  fun device quantity M hM => hu device quantity M (huv device quantity M hM)

namespace Agent

/-- The units of a kind hold nothing but the latest metrics, and only of the devices whose affected
owner is their own. -/
structure Supplied (kind : Kind) (metrics : List (MetricInfo V)) (a : Agent V) : Prop where
  affected : ∀ owner u, a.unit? kind owner = some u → ∀ device quantity M,
    u.measurementOf device quantity = some M → (a.conf.group kind).affected[device]? = some owner
  holdsLatest : ∀ owner u, a.unit? kind owner = some u → u.HoldsLatest metrics

/-- From one agent to another, with the calls in between. -/
structure Supplies (kind : Kind) (metrics : List (MetricInfo V)) (a a' : Agent V) : Prop where
  supplied : Supplied kind metrics a'
  calls : ∃ new : List (Event V), a'.world.history = new ++ a.world.history ∧
    ∀ call ∈ calls new, call.kind = kind → call.before.HoldsLatest metrics

variable {kind : Kind} {metrics : List (MetricInfo V)} {a b c : Agent V}

theorem Supplies.trans (hab : Supplies kind metrics a b) (hbc : Supplies kind metrics b c) :
    Supplies kind metrics a c where
  supplied := hbc.supplied
  calls := by
    obtain ⟨new, hnew, hcalls⟩ := hab.calls
    obtain ⟨new', hnew', hcalls'⟩ := hbc.calls
    refine ⟨new' ++ new, by rw [hnew', hnew, List.append_assoc], fun call hcall hkind => ?_⟩
    rw [MetricTPower.calls, List.filterMap_append, List.mem_append] at hcall
    exact hcall.elim (hcalls' call · hkind) (hcalls call · hkind)

/-- The units stay supplied while they lose measurements. -/
theorem OnlyPurged.supplies (hab : OnlyPurged kind a b) (ha : Supplied kind metrics a) :
    Supplies kind metrics a b where
  supplied := by
    constructor
    · intro owner v hv device quantity M hM
      obtain ⟨u, hu, huv⟩ := hab.units owner v hv
      rw [hab.affected]
      exact ha.affected owner u hu device quantity M (huv device quantity M hM)
    · intro owner v hv
      obtain ⟨u, hu, huv⟩ := hab.units owner v hv
      exact huv.holdsLatest (ha.holdsLatest owner u hu)
  calls := by
    obtain ⟨new, hnew, hcalls⟩ := hab.calls
    refine ⟨new, hnew, fun call hcall hkind => ?_⟩
    obtain ⟨u, hu, huv⟩ := hcalls call hcall hkind
    exact huv.holdsLatest (ha.holdsLatest call.owner u hu)

variable {env : Env V}

/-- A loaded unit holds nothing. -/
theorem supplies_configure (a : Agent V) : Supplies kind metrics a (a.configure env) where
  supplied := by
    constructor
    · intro owner u hu device quantity M hM
      rw [(fresh_of_configure hu).measurementOf_eq_none] at hM
      cases hM
    · intro owner u hu device quantity M hM
      rw [(fresh_of_configure hu).measurementOf_eq_none] at hM
      cases hM
  calls := ⟨[_], rfl, by simp [MetricTPower.calls]⟩

/-- A metric is stored by the unit of the affected owner of its device. -/
theorem Supplied.setMeasurement (ha : Supplied kind metrics a) {M : MetricInfo V} {owner : String}
    (howner : (a.conf.group kind).affected[M.elementName]? = some owner) :
    Supplied kind (metrics ++ [M]) (a.onUnit kind owner (setMeasurement M)) := by
  -- a measurement of the unit is the metric or one from before
  have hunit : ∀ o v, (a.onUnit kind owner (MetricTPower.setMeasurement M)).unit? kind o = some v →
      ∀ device quantity N, v.measurementOf device quantity = some N →
        (a.conf.group kind).affected[device]? = some o ∧
          latest (metrics ++ [M]) device quantity = some N := by
    intro o v hv device quantity N hN
    rw [latest_append]
    rw [unit?_onUnit] at hv
    split at hv
    · rename_i hsame
      obtain ⟨-, rfl⟩ := hsame
      obtain ⟨u, hu, rfl⟩ := Option.map_eq_some_iff.mp hv
      change (u.setMeasurement M).measurementOf device quantity = some N at hN
      rw [TPUnit.measurementOf_setMeasurement] at hN
      split at hN
      · rename_i hstored
        obtain ⟨rfl, hsource, -⟩ := hstored
        exact ⟨howner, by rw [if_pos ⟨rfl, hsource⟩, hN]⟩
      · rename_i hstored
        refine ⟨ha.affected o u hu device quantity N hN, ?_⟩
        rw [if_neg, ha.holdsLatest o u hu device quantity N hN]
        rintro ⟨rfl, hsource⟩
        exact hstored ⟨rfl, hsource, TPUnit.mem_of_measurementOf hN⟩
    · rename_i hother
      have haffected := ha.affected o v hv device quantity N hN
      refine ⟨haffected, ?_⟩
      rw [if_neg, ha.holdsLatest o v hv device quantity N hN]
      rintro ⟨rfl, -⟩
      rw [howner, Option.some.injEq] at haffected
      exact hother ⟨rfl, haffected.symm⟩
  constructor
  · intro o v hv device quantity N hN
    rw [affected_onUnit]
    exact (hunit o v hv device quantity N hN).1
  · exact fun o v hv device quantity N hN => (hunit o v hv device quantity N hN).2

variable [Double V]

omit [Double V] in
/-- A metric of a device without an affected owner is not stored, and no unit holds another one. -/
theorem Supplied.append_of_not_affected (ha : Supplied kind metrics a) {M : MetricInfo V}
    (hnone : (a.conf.group kind).affected[M.elementName]? = none) :
    Supplied kind (metrics ++ [M]) a where
  affected := ha.affected
  holdsLatest owner u hu device quantity N hN := by
    rw [latest_append, if_neg, ha.holdsLatest owner u hu device quantity N hN]
    rintro ⟨rfl, -⟩
    rw [ha.affected owner u hu _ quantity N hN] at hnone
    cases hnone

variable (env) in
/-- A metric for the kind is stored before the unit calculates. -/
theorem Supplied.processMetricFor (ha : Supplied kind metrics a) (M : MetricInfo V)
    {quantity : String} (hquantity : quantity ∈ kind.quantities) :
    Supplies kind (metrics ++ [M]) a (processMetricFor env kind M quantity a) := by
  rw [Agent.processMetricFor, if_pos hquantity]
  split
  · rename_i hnone
    exact (OnlyPurged.refl kind a).supplies (ha.append_of_not_affected hnone)
  · rename_i owner howner
    have hstored : Supplies kind (metrics ++ [M]) a
        (a.onUnit kind owner (MetricTPower.setMeasurement M)) := by
      refine ⟨ha.setMeasurement howner, [], ?_, by simp [MetricTPower.calls]⟩
      cases hu : a.unit? kind owner with
      | none => rw [onUnit_of_none hu, List.nil_append]
      | some u => rw [world_onUnit_of_some hu]; rfl
    exact hstored.trans
      ((onlyPurged_sendMeasurement env kind kind owner hquantity _).supplies hstored.supplied)

/-- The part of `processMetric` for another kind has no call of this one and leaves its units. -/
theorem history_processMetricFor_of_ne {k : Kind} (hk : k ≠ kind) (M : MetricInfo V)
    (quantity : String) (a : Agent V) :
    ∃ new : List (Event V),
      (Agent.processMetricFor env k M quantity a).world.history = new ++ a.world.history ∧
        ∀ call ∈ calls new, call.kind ≠ kind := by
  rcases history_processMetricFor env a k M quantity with hsame | ⟨call, hcall, hkind, -⟩
  · exact ⟨[], hsame, by simp [MetricTPower.calls]⟩
  · refine ⟨[.sendMeasurement call], hcall, fun c hc => ?_⟩
    obtain rfl : c = call := by simpa [MetricTPower.calls] using hc
    exact hkind ▸ hk

theorem Supplied.processMetricFor_of_ne (ha : Supplied kind metrics a) {k : Kind} (hk : k ≠ kind)
    (M : MetricInfo V) (quantity : String) :
    Supplied kind metrics (Agent.processMetricFor env k M quantity a) where
  affected owner u hu := by
    rw [unit?_processMetricFor_of_ne a hk.symm] at hu
    rw [affected_processMetricFor]
    exact ha.affected owner u hu
  holdsLatest owner u hu := by
    rw [unit?_processMetricFor_of_ne a hk.symm] at hu
    exact ha.holdsLatest owner u hu

/-- What goes to another kind does not matter, before or after. -/
theorem Supplies.processMetricFor_of_ne {k : Kind} (hk : k ≠ kind) (M : MetricInfo V)
    (quantity : String) (h : Supplies kind metrics a b) :
    Supplies kind metrics a (Agent.processMetricFor env k M quantity b) := by
  obtain ⟨new, hnew, hcalls⟩ := history_processMetricFor_of_ne hk M quantity b
  exact h.trans ⟨h.supplied.processMetricFor_of_ne hk M quantity, new, hnew,
    fun call hcall hkind => absurd hkind (hcalls call hcall)⟩

theorem Supplies.of_processMetricFor_of_ne {k : Kind} (hk : k ≠ kind) {M : MetricInfo V}
    {quantity : String} (h : Supplies kind metrics (Agent.processMetricFor env k M quantity a) b) :
    Supplies kind metrics a b where
  supplied := h.supplied
  calls := by
    obtain ⟨new, hnew, hcalls⟩ := history_processMetricFor_of_ne hk M quantity a
    obtain ⟨new', hnew', hcalls'⟩ := h.calls
    refine ⟨new' ++ new, by rw [hnew', hnew, List.append_assoc], fun call hcall hkind => ?_⟩
    rw [MetricTPower.calls, List.filterMap_append, List.mem_append] at hcall
    exact hcall.elim (hcalls' call · hkind) fun h => absurd hkind (hcalls call h)

/-- A metric goes to the kind when the quantity of its topic is one of the kind. -/
theorem Supplied.processMetric (ha : Supplied kind metrics a) (M : MetricInfo V) (topic : String) :
    Supplies kind (metrics ++ delivered kind [.processMetric M topic]) a
      (a.processMetric env M topic) := by
  by_cases hquantity : quantityOf topic ∈ kind.quantities
  · have hdelivered : delivered kind [.processMetric M topic] = [M] := by
      simp [delivered, hquantity]
    rw [hdelivered, Agent.processMetric]
    cases kind with
    | rack => exact (ha.processMetricFor env M hquantity).processMetricFor_of_ne (by decide) M _
    | dc =>
      have hrack : Supplied .dc metrics (Agent.processMetricFor env .rack M (quantityOf topic) a) :=
        ha.processMetricFor_of_ne (by decide) M _
      exact .of_processMetricFor_of_ne (by decide) (hrack.processMetricFor env M hquantity)
  · have hdelivered : delivered kind [.processMetric M topic] = [] := by
      simp [delivered, hquantity]
    have hself : ∀ b : Agent V, Agent.processMetricFor env kind M (quantityOf topic) b = b :=
      fun b => by rw [Agent.processMetricFor, if_neg hquantity]
    have hrefl : Supplies kind metrics a a := (OnlyPurged.refl kind a).supplies ha
    rw [hdelivered, List.append_nil, Agent.processMetric]
    cases kind with
    | rack =>
      rw [hself]
      exact hrefl.processMetricFor_of_ne (by decide) M _
    | dc =>
      rw [hself]
      exact hrefl.processMetricFor_of_ne (by decide) M _

variable (env) in
/-- One call of the agent delivers its metric, if it has one, and takes measurements away. -/
theorem Supplied.step (ha : Supplied kind metrics a) (s : Step V) :
    Supplies kind (metrics ++ delivered kind [s]) a (a.step env s) := by
  have hnothing : ∀ s' : Step V, delivered kind [s'] = [] →
      Supplies kind metrics a (a.step env s') →
        Supplies kind (metrics ++ delivered kind [s']) a (a.step env s') := by
    intro s' hs' h
    rwa [hs', List.append_nil]
  cases s with
  | configure => exact supplies_configure a
  | processMetric M topic => exact ha.processMetric M topic
  | processAsset operation =>
    have hpurged : OnlyPurged kind a (a.processAsset env operation) := by
      rw [processAsset]
      split
      · rw [scheduleReconfig]
        split
        · exact (onlyPurged_schedule kind a a.conf.timeout _ 1).trans
            (onlyPurged_setPollInterval env kind _)
        · exact onlyPurged_setPollInterval env kind a
      · exact .refl kind a
    exact hnothing _ rfl (hpurged.supplies ha)
  | onPoll =>
    have hsend : Supplies kind metrics a
        ((a.sendMeasurements env .rack).sendMeasurements env .dc) :=
      ((onlyPurged_sendMeasurements env kind .rack a).trans
        (onlyPurged_sendMeasurements env kind .dc _)).supplies ha
    have hreconfigure : ∀ b : Agent V, Supplied kind metrics b →
        Supplies kind metrics b (b.reconfigure env) := by
      intro b hb
      have hclock :=
        (onlyPurged_schedule kind b b.conf.timeout b.conf.reconfigPending 1).supplies hb
      rw [reconfigure]
      split
      · exact hclock.trans (supplies_configure _)
      · exact hclock
    have hloaded := hsend.trans (hreconfigure _ hsend.supplied)
    exact hnothing _ rfl (hloaded.trans
      ((onlyPurged_setPollInterval env kind _).supplies hloaded.supplied))
  | setPollInterval =>
    exact hnothing _ rfl ((onlyPurged_setPollInterval env kind a).supplies ha)

end Agent

/-! ### Calls of a run -/

variable [Double V] {env : Env V}

omit [Double V] in
theorem delivered_append (kind : Kind) (steps steps' : List (Step V)) :
    delivered kind (steps ++ steps') = delivered kind steps ++ delivered kind steps' :=
  List.filterMap_append

variable (env) in
theorem run_supplied (kind : Kind) (steps : List (Step V)) :
    (run env steps).Supplied kind (delivered kind steps) := by
  induction steps using List.reverseRecOn with
  | nil =>
    constructor <;>
      · intro owner u hu
        cases kind <;> simp [run, Agent.steps, Agent.init, Agent.unit?,
          TotalPowerConfiguration.group] at hu
  | append_singleton steps s ih =>
    rw [Agent.run_concat, delivered_append]
    exact (ih.step env s).supplied

variable (env) in
/-- The call that follows an older history was made in a step of a run. -/
structure MadeIn (earlier : List (Step V)) (s : Step V) (call : Call V) (older : List (Event V)) :
    Prop where
  after : (run env earlier).world.history <:+ older
  before : .sendMeasurement call :: older <:+ (run env (earlier ++ [s])).world.history

variable (env) in
/-- Every call of a run was made in a step of it, and its unit held nothing but the latest metrics
delivered up to that step. -/
theorem exists_madeIn (steps : List (Step V)) (newer older : List (Event V)) (call : Call V)
    (hhistory : (run env steps).world.history = newer ++ .sendMeasurement call :: older) :
    ∃ earlier s later, steps = earlier ++ s :: later ∧ MadeIn env earlier s call older ∧
      call.before.HoldsLatest (delivered call.kind (earlier ++ [s])) := by
  induction steps using List.reverseRecOn generalizing newer with
  | nil => simp [run, Agent.steps, Agent.init] at hhistory
  | append_singleton steps s ih =>
    have hstep := (run_supplied env call.kind steps).step env s
    obtain ⟨new, hnew, hcalls⟩ := hstep.calls
    rw [Agent.run_concat, hnew] at hhistory
    rcases List.append_eq_append_iff.mp hhistory with ⟨new', hnewer, hold⟩ | ⟨new', hnew', hold⟩
    · -- a call of an earlier step
      obtain ⟨earlier, s', later, rfl, hmade, hholds⟩ := ih new' hold
      exact ⟨earlier, s', later ++ [s], by simp, hmade, hholds⟩
    · rcases List.cons_eq_append_iff.mp hold with ⟨-, hfirst⟩ | ⟨rest, hrest, holder⟩
      · obtain ⟨earlier, s', later, rfl, hmade, hholds⟩ := ih [] hfirst
        exact ⟨earlier, s', later ++ [s], by simp, hmade, hholds⟩
      · -- a call of the last step
        subst hrest
        refine ⟨steps, s, [], rfl, ⟨⟨rest, holder.symm⟩, newer, ?_⟩, ?_⟩
        · rw [Agent.run_concat, hnew, hnew', List.append_assoc, holder, List.cons_append]
        · rw [delivered_append]
          refine hcalls call (mem_calls.mpr ?_) rfl
          rw [hnew']
          exact List.mem_append_right newer List.mem_cons_self

/-! ### Sent metrics -/

variable (env) in
/-- The origin of a metric that a call of a run sends, and the metrics delivered to its kind up to
the step of the origin. -/
structure Origin (steps : List (Step V)) (call : Call V) (older : List (Event V))
    (M : MetricInfo V) (origin : Call V) (metrics : List (MetricInfo V)) : Prop where
  lastStore : ∃ newer' older', .sendMeasurement call :: older =
      newer' ++ .sendMeasurement origin :: older' ∧
    LastStore env call.kind call.owner call.quantity newer' origin ∧
    ∃ earlier s later, steps = earlier ++ s :: later ∧ MadeIn env earlier s origin older' ∧
      metrics = delivered call.kind (earlier ++ [s])
  result : origin.before.calculation call.quantity (env.time origin.pos) = .ok M
  holdsLatest : origin.before.HoldsLatest metrics

theorem exists_origin {steps : List (Step V)} {newer older : List (Event V)} {call : Call V}
    (hhistory : (run env steps).world.history = newer ++ .sendMeasurement call :: older)
    {M : MetricInfo V} {reply : Reply} (hsent : call.sent = some (M, reply)) :
    ∃ origin metrics, Origin env steps call older M origin metrics := by
  obtain ⟨newer', origin, older', hsplit, hlast, horigin⟩ :=
    lastStore_of_sent env steps newer older call hhistory M reply hsent
  have horigin' : (run env steps).world.history =
      (newer ++ newer') ++ .sendMeasurement origin :: older' := by
    rw [hhistory, hsplit, List.append_assoc]
  obtain ⟨earlier, s, later, hsteps, hmade, hholds⟩ :=
    exists_madeIn env steps _ older' origin horigin'
  rw [hlast.isOf.1] at hholds
  exact ⟨origin, _, ⟨newer', older', hsplit, hlast, earlier, s, later, hsteps, hmade, rfl⟩, horigin,
    hholds⟩

/-- **Where a sent metric comes from.** In every run, whatever the clock, the database and the
sending function do: a metric given to the sending function is the result, with its value and its
timestamp, of the last calculation of the quantity by the unit that stored one (`LastStore`), in
this call or an earlier one; and every measurement that the unit held in this calculation was the
latest metric of its device and quantity among those delivered to the kind up to its step. -/
theorem sent_provenance (env : Env V) (steps : List (Step V)) (newer older : List (Event V))
    (call : Call V)
    (hhistory : (run env steps).world.history = newer ++ .sendMeasurement call :: older)
    (M : MetricInfo V) (reply : Reply) (hsent : call.sent = some (M, reply)) :
    ∃ newer' origin older', .sendMeasurement call :: older =
        newer' ++ .sendMeasurement origin :: older' ∧
      LastStore env call.kind call.owner call.quantity newer' origin ∧
      origin.before.calculation call.quantity (env.time origin.pos) = .ok M ∧
      ∃ earlier s later, steps = earlier ++ s :: later ∧ MadeIn env earlier s origin older' ∧
        ∀ device quantity N, origin.before.measurementOf device quantity = some N →
          latest (delivered call.kind (earlier ++ [s])) device quantity = some N := by
  obtain ⟨origin, metrics, horigin⟩ := exists_origin hhistory hsent
  obtain ⟨newer', older', hsplit, hlast, earlier, s, later, hsteps, hmade, rfl⟩ := horigin.lastStore
  exact ⟨newer', origin, older', hsplit, hlast, horigin.result, earlier, s, later, hsteps, hmade,
    horigin.holdsLatest⟩

omit [Double V] in
/-- A call that sends a metric, found in a history. -/
theorem exists_sent_of_find? {history : List (Event V)} {quantity : String}
    (hfind : ((calls history).find? fun call =>
      call.quantity == quantity && call.sent.isSome).isSome = true) :
    ∃ newer call older M reply, history = newer ++ .sendMeasurement call :: older ∧
      call.quantity = quantity ∧ call.sent = some (M, reply) := by
  obtain ⟨call, hcall⟩ := Option.isSome_iff_exists.mp hfind
  have hsent := List.find?_some hcall
  rw [Bool.and_eq_true, beq_iff_eq, Option.isSome_iff_exists] at hsent
  obtain ⟨hquantity, ⟨M, reply⟩, hsent⟩ := hsent
  obtain ⟨newer, older, hhistory⟩ :=
    List.append_of_mem (mem_calls.mp (List.mem_of_find?_eq_some hcall))
  exact ⟨newer, call, older, M, reply, hhistory, hquantity, hsent⟩

theorem sent_provenance_oneRack :
    ∃ call older M reply, call.sent = some (M, reply) ∧
      ∃ newer' origin older', .sendMeasurement call :: older =
          newer' ++ .sendMeasurement origin :: older' ∧
        LastStore oneRackEnv call.kind call.owner call.quantity newer' origin ∧
        origin.before.calculation call.quantity (oneRackEnv.time origin.pos) = .ok M ∧
        ∃ earlier s later, oneRackSteps = earlier ++ s :: later ∧
          MadeIn oneRackEnv earlier s origin older' ∧
          ∀ device quantity N, origin.before.measurementOf device quantity = some N →
            latest (delivered call.kind (earlier ++ [s])) device quantity = some N := by
  have hfind : ((calls (run oneRackEnv oneRackSteps).world.history).find? fun call =>
      call.quantity == "realpower.default" && call.sent.isSome).isSome = true := by
    decide +kernel
  obtain ⟨newer, call, older, M, reply, hhistory, -, hsent⟩ := exists_sent_of_find? hfind
  exact ⟨call, older, M, reply, hsent,
    sent_provenance oneRackEnv oneRackSteps newer older call hhistory M reply hsent⟩

end MetricTPower
