import MetricTPower.Agent.Owners

/-!
# Where a metric goes

`processMetric` looks only at the quantity in front of `@` in the topic and at the owner of the
device: for each kind that has the quantity, the metric goes to the unit of the affected owner,
which stores it and calculates the quantity. For a unit loaded by the last reload it follows which
measurements it holds after a sequence of metrics: for a device of its own and a quantity of its
kind the latest one that was delivered, for others none (`measurementOf_afterMetrics`).

## Main definitions

* `latest`: the latest metric of a device and a quantity in a sequence.

## Main results

* `unit?_processMetric`: what `processMetric` does to a unit.
* `measurementOf_afterMetrics`: the measurements of a unit after a sequence of metrics.
-/

open Std (TreeMap)
open Relation (ReflTransGen)

namespace MetricTPower

variable {V : Type} [Double V] {env : Env V}

/-! ### One metric -/

section OneMetric

variable {kind k : Kind} {owner quantity : String}

variable (env) in
/-- The part of `processMetric` for a kind does nothing, or it is two methods of the unit of the
affected owner. -/
theorem processMetricFor_cases (a : Agent V) (kind : Kind) (M : MetricInfo V) (quantity : String) :
    Agent.processMetricFor env kind M quantity a = a ∨
    ∃ owner, quantity ∈ kind.quantities ∧
      (a.conf.group kind).affected[M.elementName]? = some owner ∧
      Agent.processMetricFor env kind M quantity a =
        (a.onUnit kind owner (setMeasurement M)).onUnit kind owner
          (sendMeasurement env kind owner quantity) := by
  rw [Agent.processMetricFor]
  by_cases hquantity : quantity ∈ kind.quantities
  · rw [if_pos hquantity]
    cases haffected : (a.conf.group kind).affected[M.elementName]? with
    | none => exact Or.inl rfl
    | some owner => exact Or.inr ⟨owner, hquantity, rfl, rfl⟩
  · exact Or.inl (if_neg hquantity)

theorem affected_processMetricFor (a : Agent V) (kind : Kind) (M : MetricInfo V)
    (quantity : String) (k : Kind) :
    ((Agent.processMetricFor env kind M quantity a).conf.group k).affected =
      (a.conf.group k).affected :=
  (Agent.unitsOnly_of_unitMoves (Agent.processMetricFor_unitMoves env kind M quantity a)).affected k

theorem unit?_processMetricFor_of_ne (a : Agent V) (hk : k ≠ kind) (M : MetricInfo V)
    (quantity : String) (o : String) :
    (Agent.processMetricFor env kind M quantity a).unit? k o = a.unit? k o := by
  rcases processMetricFor_cases env a kind M quantity with h | ⟨owner, -, -, h⟩
  · rw [h]
  · rw [h, Agent.unit?_onUnit, if_neg fun h => hk h.1, Agent.unit?_onUnit, if_neg fun h => hk h.1]

/-- The part of `processMetric` for a kind: the unit of the affected owner stores the metric and
calculates. -/
theorem unit?_processMetricFor (a : Agent V) (kind : Kind) (M : MetricInfo V)
    (quantity owner : String) :
    (Agent.processMetricFor env kind M quantity a).unit? kind owner =
      if quantity ∈ kind.quantities ∧ (a.conf.group kind).affected[M.elementName]? = some owner then
        (a.unit? kind owner).map fun u =>
          (sendMeasurement env kind owner quantity (u.setMeasurement M, a.world)).1
      else a.unit? kind owner := by
  rw [Agent.processMetricFor]
  by_cases hquantity : quantity ∈ kind.quantities
  · rw [if_pos hquantity]
    cases haffected : (a.conf.group kind).affected[M.elementName]? with
    | none => simp
    | some owner' =>
      simp only [hquantity, true_and, Option.some.injEq]
      by_cases howner : owner' = owner
      · subst howner
        rw [Agent.unit?_onUnit, if_pos ⟨rfl, rfl⟩, Agent.unit?_onUnit, if_pos ⟨rfl, rfl⟩,
          if_pos rfl]
        cases hu : a.unit? kind owner' with
        | none => rfl
        | some u =>
          have hworld : (a.onUnit kind owner' (setMeasurement M)).world = a.world :=
            Agent.world_onUnit_of_some hu
          rw [hworld]
          rfl
      · have hne : ¬ (kind = kind ∧ owner = owner') := fun h => howner h.2.symm
        rw [Agent.unit?_onUnit, if_neg hne, Agent.unit?_onUnit, if_neg hne, if_neg howner]
  · rw [if_neg hquantity, if_neg fun h => hquantity h.1]

theorem affected_processMetric (a : Agent V) (M : MetricInfo V) (topic : String) (k : Kind) :
    ((a.processMetric env M topic).conf.group k).affected = (a.conf.group k).affected :=
  (Agent.unitsOnly_of_unitMoves (Agent.processMetric_unitMoves env M topic a)).affected k

variable (env) in
/-- What `processMetric` does to a unit: the unit of the affected owner of the device stores the
metric and calculates the quantity of the topic, when this is a quantity of the kind. The agent is
then as it was or has done its part for the racks. -/
theorem unit?_processMetric (a : Agent V) (M : MetricInfo V) (topic : String) (kind : Kind)
    (owner : String) :
    ∃ b : Agent V, ReflTransGen (UnitMove env) a b ∧
      (a.processMetric env M topic).unit? kind owner =
        if quantityOf topic ∈ kind.quantities ∧
            (a.conf.group kind).affected[M.elementName]? = some owner then
          (a.unit? kind owner).map fun u =>
            (sendMeasurement env kind owner (quantityOf topic) (u.setMeasurement M, b.world)).1
        else a.unit? kind owner := by
  rw [Agent.processMetric]
  cases kind with
  | rack =>
    refine ⟨a, .refl, ?_⟩
    rw [unit?_processMetricFor_of_ne _ (by decide), unit?_processMetricFor]
  | dc =>
    refine ⟨Agent.processMetricFor env .rack M (quantityOf topic) a,
      Agent.processMetricFor_unitMoves env .rack M (quantityOf topic) a, ?_⟩
    rw [unit?_processMetricFor, affected_processMetricFor,
      unit?_processMetricFor_of_ne _ (by decide)]

end OneMetric

/-! ### A sequence of metrics -/

omit [Double V] in
/-- The latest metric of a device and a quantity. -/
def latest (metrics : List (MetricInfo V)) (device quantity : String) : Option (MetricInfo V) :=
  (metrics.filter fun M => M.elementName == device && M.source == quantity).getLast?

omit [Double V] in
theorem latest_append (metrics : List (MetricInfo V)) (M : MetricInfo V)
    (device quantity : String) :
    latest (metrics ++ [M]) device quantity =
      if M.elementName = device ∧ M.source = quantity then some M
      else latest metrics device quantity := by
  by_cases h : M.elementName = device ∧ M.source = quantity
  · simp [latest, h]
  · have hnot : (M.elementName == device && M.source == quantity) = false := by
      simpa [not_and_or] using h
    rw [if_neg h, latest, List.filter_append, List.filter_singleton, hnot]
    simp [latest]

/-- `processMetric` of each metric of a sequence, under its own topic. -/
def processMetrics (metrics : List (MetricInfo V)) : List (Step V) :=
  metrics.map fun M => .processMetric M M.generateTopic

/-- The agent just after a reload that is followed by a sequence of metrics. -/
def afterMetrics (env : Env V) (a : Agent V) (metrics : List (MetricInfo V)) : Agent V :=
  (a.configure env).steps env (processMetrics metrics)

theorem afterMetrics_append (a : Agent V) (metrics : List (MetricInfo V)) (M : MetricInfo V) :
    afterMetrics env a (metrics ++ [M]) =
      (afterMetrics env a metrics).processMetric env M M.generateTopic := by
  simp only [afterMetrics, processMetrics, Agent.steps, List.map_append, List.foldl_append]
  rfl

/-- **The measurements of a unit after a sequence of metrics** that follows its reload: the latest
metric of each device that belongs to the owner and of each quantity of the kind, and nothing
else. -/
theorem measurementOf_afterMetrics (env : Env V) (a : Agent V) (metrics : List (MetricInfo V))
    (kind : Kind) (owner device quantity : String) (u : TPUnit V)
    (hu : (afterMetrics env a metrics).unit? kind owner = some u)
    (hdevice : device ∈ u.powerdevices) (hquantity : '@' ∉ quantity.toList) :
    u.measurementOf device quantity =
      if quantity ∈ kind.quantities ∧
          ((afterMetrics env a metrics).conf.group kind).affected[device]? = some owner then
        latest metrics device quantity
      else none := by
  induction metrics using List.reverseRecOn generalizing u with
  | nil =>
    have hfresh : u.Fresh owner := Agent.fresh_of_configure hu
    rw [hfresh.measurementOf_eq_none]
    simp [latest]
  | append_singleton metrics M ih =>
    rw [afterMetrics_append] at hu ⊢
    rw [affected_processMetric, latest_append]
    obtain ⟨b, -, hunit⟩ := unit?_processMetric env (afterMetrics env a metrics) M
      M.generateTopic kind owner
    rw [hunit] at hu
    -- a metric of this device and quantity has this quantity in front of the `@` of its topic
    have htopic : M.source = quantity → quantityOf M.generateTopic = quantity := by
      rintro rfl
      exact quantityOf_topicOf M.elementName hquantity
    split at hu
    · rename_i hrouted
      obtain ⟨u₀, hu₀, rfl⟩ := Option.map_eq_some_iff.mp hu
      rw [powerdevices_sendMeasurement, TPUnit.mem_powerdevices_setMeasurement] at hdevice
      rw [TPUnit.measurementOf, powerdevices_sendMeasurement, ← TPUnit.measurementOf,
        TPUnit.measurementOf_setMeasurement]
      by_cases hmetric : M.elementName = device ∧ M.source = quantity
      · obtain ⟨rfl, hsource⟩ := hmetric
        rw [htopic hsource] at hrouted
        rw [if_pos ⟨rfl, hsource, hdevice⟩, if_pos hrouted, if_pos ⟨rfl, hsource⟩]
      · rw [if_neg fun h => hmetric ⟨h.1, h.2.1⟩, ih u₀ hu₀ hdevice, if_neg hmetric]
    · rename_i hrouted
      rw [ih u hu hdevice]
      by_cases hmetric : M.elementName = device ∧ M.source = quantity
      · obtain ⟨rfl, hsource⟩ := hmetric
        rw [htopic hsource] at hrouted
        rw [if_neg hrouted, if_neg hrouted]
      · rw [if_neg hmetric]

end MetricTPower
