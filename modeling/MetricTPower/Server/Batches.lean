import MetricTPower.Agent.Deliveries
import MetricTPower.Server.MetricPull

/-!
# The order of a batch

`metric_pull` reads all metrics of the shared memory again at every round, in the order in which
`fty::shm::read_metrics` gives them. In the shared memory there is one entry for each name and type,
and then neither the order nor the repetition matters for what the units hold: a batch leaves each
unit with the entries for its own devices and quantities, and with what it held where there is none.
The totals may differ in both cases, since the dead band depends on the order.

## Main definitions

* `TPUnit.AfterBatch`: a unit after a batch, in terms of its latest metrics.

## Main results

* `afterBatch_sProcessMetrics`: what a batch leaves a unit with.
* `batch_order`: batches in another order, and read again.
-/

open Std (TreeMap)

namespace MetricTPower

/-! ### The latest metrics of a batch -/

section Latest

variable {V : Type} {metrics metrics' : List (MetricInfo V)} {device quantity : String}

theorem latest_append_list (metrics metrics' : List (MetricInfo V)) (device quantity : String) :
    latest (metrics ++ metrics') device quantity =
      (latest metrics' device quantity).or (latest metrics device quantity) := by
  rw [latest, List.filter_append, List.getLast?_append, latest, latest]

theorem latest_singleton_of_ne {M : MetricInfo V}
    (h : ¬ (M.elementName = device ∧ M.source = quantity)) :
    latest [M] device quantity = none := by
  have hskip := latest_append [] M device quantity
  rwa [if_neg h] at hskip

/-- Where there is at most one metric of each device and quantity, the order does not matter. -/
theorem latest_perm (hperm : metrics.Perm metrics')
    (hdistinct : (metrics.map fun M => (M.elementName, M.source)).Nodup) :
    latest metrics device quantity = latest metrics' device quantity := by
  have hfilter := hperm.filter fun M => M.elementName == device && M.source == quantity
  have hkeys : ∀ M ∈ metrics.filter fun M => M.elementName == device && M.source == quantity,
      (M.elementName, M.source) = (device, quantity) := by
    intro M hM
    simpa using (List.mem_filter.mp hM).2
  have hnodup : ((metrics.filter fun M => M.elementName == device && M.source == quantity).map
      fun M => (M.elementName, M.source)).Nodup :=
    hdistinct.sublist (List.filter_sublist.map _)
  rw [latest, latest]
  generalize metrics.filter _ = l at hfilter hkeys hnodup
  rcases l with - | ⟨M, - | ⟨N, l⟩⟩
  · rw [List.nil_perm.mp hfilter]
  · rw [List.singleton_perm.mp hfilter]
  · have hM := hkeys M List.mem_cons_self
    have hN := hkeys N (List.mem_cons_of_mem M List.mem_cons_self)
    simp [hM, hN] at hnodup

end Latest

/-! ### A unit after a batch -/

namespace TPUnit

variable {V : Type} {owner : String} {affected : TreeMap String String}
  {metrics metrics' : List (MetricInfo V)} {u v w : TPUnit V}

/-- The unit of an owner after a batch: it holds the latest metrics of its devices that are affected
by it, and else what it held. -/
structure AfterBatch (owner : String) (affected : TreeMap String String)
    (metrics : List (MetricInfo V)) (u v : TPUnit V) : Prop where
  mem_powerdevices : ∀ device, device ∈ v.powerdevices ↔ device ∈ u.powerdevices
  measurementOf_eq : ∀ device quantity, v.measurementOf device quantity =
    if affected[device]? = some owner ∧ device ∈ u.powerdevices then
      (latest metrics device quantity).or (u.measurementOf device quantity)
    else u.measurementOf device quantity

theorem afterBatch_of_powerdevices_eq (h : v.powerdevices = u.powerdevices) :
    AfterBatch owner affected [] u v where
  mem_powerdevices device := by rw [h]
  measurementOf_eq device quantity := by
    rw [measurementOf_congr h]
    simp [latest]

theorem AfterBatch.trans (huv : AfterBatch owner affected metrics u v)
    (hvw : AfterBatch owner affected metrics' v w) :
    AfterBatch owner affected (metrics ++ metrics') u w where
  mem_powerdevices device := (hvw.mem_powerdevices device).trans (huv.mem_powerdevices device)
  measurementOf_eq device quantity := by
    rw [hvw.measurementOf_eq, huv.measurementOf_eq, latest_append_list]
    simp only [huv.mem_powerdevices]
    split
    · rw [Option.or_assoc]
    · rfl

/-- A received measurement is a batch of one metric. -/
theorem afterBatch_setMeasurement {M : MetricInfo V}
    (howner : affected[M.elementName]? = some owner) (u : TPUnit V) :
    AfterBatch owner affected [M] u (u.setMeasurement M) where
  mem_powerdevices device := mem_powerdevices_setMeasurement u M device
  measurementOf_eq device quantity := by
    rw [measurementOf_setMeasurement]
    by_cases hmetric : M.elementName = device ∧ M.source = quantity
    · obtain ⟨rfl, rfl⟩ := hmetric
      simp [latest, howner]
    · rw [if_neg fun h => hmetric ⟨h.1, h.2.1⟩, latest_singleton_of_ne hmetric, Option.none_or,
        ite_self]

end TPUnit

/-! ### The agent after a batch -/

section Batch

variable {V : Type} [DoubleText V] {env : Env V} {kind : Kind} {owner : String}

variable (env) in
/-- A metric is a batch for the unit of the affected owner, when it goes to its kind. -/
theorem afterBatch_processMetric (a : Agent V) (M : MetricInfo V) (topic : String) {u : TPUnit V}
    (hu : a.unit? kind owner = some u) :
    ∃ v, (a.processMetric env M topic).unit? kind owner = some v ∧
      TPUnit.AfterBatch owner (a.conf.group kind).affected
        (delivered kind [.processMetric M topic]) u v := by
  obtain ⟨b, -, hunit⟩ := unit?_processMetric env a M topic kind owner
  rw [hunit, hu]
  by_cases hquantity : quantityOf topic ∈ kind.quantities
  · have hdelivered : delivered kind [.processMetric M topic] = [M] := by
      simp [delivered, hquantity]
    rw [hdelivered]
    by_cases howner : (a.conf.group kind).affected[M.elementName]? = some owner
    · rw [if_pos ⟨hquantity, howner⟩]
      exact ⟨_, rfl, (TPUnit.afterBatch_setMeasurement howner u).trans
        (TPUnit.afterBatch_of_powerdevices_eq (powerdevices_sendMeasurement ..))⟩
    · rw [if_neg fun h => howner h.2]
      refine ⟨u, rfl, fun _ => Iff.rfl, fun device quantity => ?_⟩
      by_cases hdevice : M.elementName = device
      · rw [if_neg fun h => howner (hdevice ▸ h.1)]
      · rw [latest_singleton_of_ne fun h => hdevice h.1, Option.none_or, ite_self]
  · have hdelivered : delivered kind [.processMetric M topic] = [] := by
      simp [delivered, hquantity]
    rw [hdelivered, if_neg fun h => hquantity h.1]
    exact ⟨u, rfl, TPUnit.afterBatch_of_powerdevices_eq rfl⟩

variable (env) in
/-- **What a batch leaves a unit with**: the latest metrics for its devices, and else what it
held. -/
theorem afterBatch_sProcessMetrics (metrics : List ProtoMetric) (a : Agent V) {u : TPUnit V}
    (hu : a.unit? kind owner = some u) :
    ∃ v, (a.steps env (sProcessMetrics metrics)).unit? kind owner = some v ∧
      TPUnit.AfterBatch owner (a.conf.group kind).affected
        (delivered kind (sProcessMetrics metrics : List (Step V))) u v := by
  induction metrics generalizing a u with
  | nil =>
    refine ⟨u, ?_, TPUnit.afterBatch_of_powerdevices_eq rfl⟩
    cases kind <;> exact hu
  | cons m metrics ih =>
    cases hm : (m.metricInfo? : Option (MetricInfo V)) with
    | none =>
      rw [sProcessMetrics_cons_none hm]
      exact ih a hu
    | some M =>
      rw [sProcessMetrics_cons_some hm]
      obtain ⟨v, hv, huv⟩ := afterBatch_processMetric env a M m.topic hu
      obtain ⟨w, hw, hvw⟩ := ih (a.processMetric env M m.topic) hv
      rw [affected_processMetric] at hvw
      have happend := delivered_append kind [.processMetric M m.topic]
        (sProcessMetrics metrics : List (Step V))
      rw [List.singleton_append] at happend
      rw [happend]
      exact ⟨w, hw, huv.trans hvw⟩

theorem affected_sProcessMetrics (metrics : List ProtoMetric) (a : Agent V) :
    ((a.steps env (sProcessMetrics metrics)).conf.group kind).affected =
      (a.conf.group kind).affected := by
  induction metrics generalizing a with
  | nil => cases kind <;> rfl
  | cons m metrics ih =>
    cases hm : (m.metricInfo? : Option (MetricInfo V)) with
    | none => rw [sProcessMetrics_cons_none hm, ih]
    | some M =>
      rw [sProcessMetrics_cons_some hm]
      exact (ih (a.processMetric env M m.topic)).trans (affected_processMetric a M m.topic kind)

/-- The metrics of a batch that go to a kind. -/
theorem delivered_sProcessMetrics (kind : Kind) (metrics : List ProtoMetric) :
    delivered kind (sProcessMetrics metrics : List (Step V)) =
      metrics.filterMap fun m =>
        if quantityOf m.topic ∈ kind.quantities then m.metricInfo? else none := by
  induction metrics with
  | nil => rfl
  | cons m metrics ih =>
    cases hm : (m.metricInfo? : Option (MetricInfo V)) with
    | none => simp [sProcessMetrics_cons_none hm, ih, hm]
    | some M =>
      rw [sProcessMetrics_cons_some hm, List.filterMap_cons, ← ih, hm]
      by_cases hquantity : quantityOf m.topic ∈ kind.quantities <;> simp [delivered, hquantity]

variable (V kind) in
/-- The latest metrics of batches that differ in the order. -/
theorem latest_delivered_perm {metrics metrics' : List ProtoMetric} (hperm : metrics.Perm metrics')
    (hdistinct : (metrics.map fun m => (m.name, m.type)).Nodup) (device quantity : String) :
    latest (delivered kind (sProcessMetrics metrics : List (Step V))) device quantity =
      latest (delivered kind (sProcessMetrics metrics' : List (Step V))) device quantity := by
  rw [delivered_sProcessMetrics, delivered_sProcessMetrics]
  refine latest_perm (hperm.filterMap _) ?_
  have hkey : ∀ (m : ProtoMetric) (M : MetricInfo V),
      (if quantityOf m.topic ∈ kind.quantities then m.metricInfo? else none) = some M →
        (M.elementName, M.source) = (m.name, m.type) := by
    intro m M hM
    split at hM
    · obtain ⟨x, v, -, -, rfl⟩ := metricInfo?_eq_some_iff.mp hM
      rfl
    · cases hM
  refine List.pairwise_map.mpr ((List.pairwise_map.mp hdistinct).filterMap _ ?_)
  intro m m' hne M hM M' hM'
  rw [hkey m M hM, hkey m' M' hM']
  exact hne

/-- **The order of a batch does not matter, nor does reading it again.** For every agent and every
batch with at most one entry of each name and type: whatever the clock and the sending function do,
each unit holds the same measurements after the batch, after the batch in another order, and after
both. -/
theorem batch_order (env env' : Env V) (a : Agent V) (metrics metrics' : List ProtoMetric)
    (hperm : metrics.Perm metrics') (hdistinct : (metrics.map fun m => (m.name, m.type)).Nodup)
    (kind : Kind) (owner : String) (u : TPUnit V) (hu : a.unit? kind owner = some u) :
    ∃ v v' w, (a.steps env (sProcessMetrics metrics)).unit? kind owner = some v ∧
      (a.steps env' (sProcessMetrics metrics')).unit? kind owner = some v' ∧
      ((a.steps env (sProcessMetrics metrics)).steps env' (sProcessMetrics metrics')).unit?
        kind owner = some w ∧
      ∀ device quantity, v'.measurementOf device quantity = v.measurementOf device quantity ∧
        w.measurementOf device quantity = v.measurementOf device quantity := by
  obtain ⟨v, hv, huv⟩ := afterBatch_sProcessMetrics env metrics a hu
  obtain ⟨v', hv', huv'⟩ := afterBatch_sProcessMetrics env' metrics' a hu
  obtain ⟨w, hw, hvw⟩ := afterBatch_sProcessMetrics env' metrics' _ hv
  refine ⟨v, v', w, hv, hv', hw, fun device quantity => ?_⟩
  have hlatest := latest_delivered_perm V kind hperm hdistinct device quantity
  constructor
  · rw [huv'.measurementOf_eq, huv.measurementOf_eq, hlatest]
  · rw [hvw.measurementOf_eq, affected_sProcessMetrics, ← hlatest, huv.measurementOf_eq]
    simp only [huv.mem_powerdevices]
    split
    · rw [← Option.or_assoc, Option.or_self]
    · rfl

end Batch

namespace Server

theorem isSome_unit?_oneRack :
    ((run oneRackEnv [.configure]).unit? .rack "rack-1").isSome = true := by
  decide +kernel

theorem batch_order_oneRack :
    ∃ v v' w, ((run oneRackEnv [.configure]).steps oneRackEnv
        (sProcessMetrics mixedMetrics)).unit? .rack "rack-1" = some v ∧
      ((run oneRackEnv [.configure]).steps oneRackEnv
        (sProcessMetrics mixedMetrics.reverse)).unit? .rack "rack-1" = some v' ∧
      (((run oneRackEnv [.configure]).steps oneRackEnv (sProcessMetrics mixedMetrics)).steps
        oneRackEnv (sProcessMetrics mixedMetrics.reverse)).unit? .rack "rack-1" = some w ∧
      ∀ device quantity, v'.measurementOf device quantity = v.measurementOf device quantity ∧
        w.measurementOf device quantity = v.measurementOf device quantity :=
  batch_order oneRackEnv oneRackEnv (run oneRackEnv [.configure]) mixedMetrics mixedMetrics.reverse
    (List.reverse_perm _).symm (by decide) .rack "rack-1" _
    (Option.some_get isSome_unit?_oneRack).symm

end Server

end MetricTPower
