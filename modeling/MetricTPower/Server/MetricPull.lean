import MetricTPower.Agent.MetricEffect
import MetricTPower.Metric.NumberText
import Mathlib.Computability.RegularExpressions

/-!
# Metrics in the shared memory

The server (`src/fty_metric_tpower_server.cc`) reads the metrics of the devices from the shared
memory and writes the totals to it; in both directions the values are texts.
`fty::shm::read_metrics` gives the entries whose type matches a filter. `s_processMetrics` gives an
entry to the configuration when the whole text of its value is a number that a `double` can hold.

## Main definitions

* `ProtoMetric`, `ProtoMetric.metricInfo?`, `sProcessMetrics`: reading.
* `ShmMetric`, `MetricInfo.shmMetric`, `sendMetrics`: writing.
* `typeFilter`: the filter.

## Main results

* `mem_sProcessMetrics_iff`: which metrics are given to the configuration.
* `steps_filter_eq`: what may be left out of a batch.
-/

namespace MetricTPower

open Numeral
open Std (TreeMap)

/-! ### Writing -/

/-- What `fty::shm::write_metric` is called with. -/
structure ShmMetric where
  asset : String
  metric : String
  value : String
  unit : String
  ttl : ℤ
  deriving DecidableEq

section Writing

variable {V : Type} [DoubleText V]

/-- What `send_metrics` writes of a metric: the value as a text, and `int(M.getTtl())`. -/
def MetricInfo.shmMetric (M : MetricInfo V) : ShmMetric where
  asset := M.elementName
  metric := M.source
  value := toText M.value
  unit := M.units
  ttl := (M.ttl.toNat : ℤ).bmod (2 ^ 32)

/-- `send_metrics`, where `writeMetric` is what `fty::shm::write_metric` returns. -/
def sendMetrics (writeMetric : ShmMetric → ℤ) (M : MetricInfo V) : Bool :=
  if writeMetric M.shmMetric = -1 then false else true

end Writing

/-- The outside of the server. -/
structure Outside where
  /-- `::time(NULL)` at each place of the run that may read it -/
  time : ℕ → Int64
  /-- the result of `fty::shm::write_metric` in the call of `sendMeasurement` at a place -/
  writeMetric : ℕ → ShmMetric → ℤ
  /-- the database, for the call of `configure` at a place -/
  topology : ℕ → PowerTopology

/-- The outside as the configuration meets it, with `send_metrics` as its sending function. -/
def Outside.env {V : Type} [DoubleText V] (out : Outside) : Env V where
  time := out.time
  reply place M := .returned (sendMetrics (out.writeMetric place) M)
  topology := out.topology

/-! ### Reading -/

/-- A metric as it is read, with the fields of its message that the server uses. -/
structure ProtoMetric where
  name : String
  type : String
  value : String
  unit : String
  /-- in seconds -/
  time : UInt64
  /-- time to live, in seconds -/
  ttl : UInt32

section Reading

variable {V : Type} [DoubleText V]

namespace ProtoMetric

/-- `type + "@" + asset_name` -/
def topic (m : ProtoMetric) : String :=
  topicOf m.type m.name

/-- `MetricInfo m(asset_name, type, unit, value, timestamp, ttl)`, when the value can be read. -/
def metricInfo? (m : ProtoMetric) : Option (MetricInfo V) :=
  (parseValue m.value).map fun value =>
    { elementName := m.name
      source := m.type
      units := m.unit
      value := value
      timestamp := m.time
      ttl := m.ttl.toUInt64 }

end ProtoMetric

/-- The calls that `s_processMetrics` makes. -/
def sProcessMetrics : List ProtoMetric → List (Step V)
  | [] => [.setPollInterval]
  | m :: metrics =>
    match (m.metricInfo? : Option (MetricInfo V)) with
    -- `continue` after the error message
    | none => sProcessMetrics metrics
    | some M => .processMetric M m.topic :: sProcessMetrics metrics

variable {m : ProtoMetric} {metrics : List ProtoMetric} {M : MetricInfo V}

theorem sProcessMetrics_cons_none (h : (m.metricInfo? : Option (MetricInfo V)) = none) :
    (sProcessMetrics (m :: metrics) : List (Step V)) = sProcessMetrics metrics := by
  rw [sProcessMetrics, h]

theorem sProcessMetrics_cons_some (h : m.metricInfo? = some M) :
    sProcessMetrics (m :: metrics) = .processMetric M m.topic :: sProcessMetrics metrics := by
  rw [sProcessMetrics, h]

/-- A metric can be read when its value is, as a whole, a text of a number in range. -/
theorem metricInfo?_eq_some_iff : m.metricInfo? = some M ↔
    ∃ x v, Denotes m.value.toList x ∧ DoubleText.ofNumber x = some v ∧
      M = ⟨m.name, m.type, m.unit, v, m.time, m.ttl.toUInt64⟩ := by
  rw [ProtoMetric.metricInfo?, Option.map_eq_some_iff]
  simp only [parseValue_eq_some_iff]
  constructor
  · rintro ⟨v, ⟨x, hx, hv⟩, rfl⟩
    exact ⟨x, v, hx, hv, rfl⟩
  · rintro ⟨x, v, hx, hv, rfl⟩
    exact ⟨v, ⟨x, hx, hv⟩, rfl⟩

theorem mem_sProcessMetrics {topic : String} :
    .processMetric M topic ∈ (sProcessMetrics metrics : List (Step V)) ↔
      ∃ m ∈ metrics, m.metricInfo? = some M ∧ topic = m.topic := by
  induction metrics with
  | nil => simp [sProcessMetrics]
  | cons m metrics ih =>
    simp only [List.mem_cons, exists_eq_or_imp]
    cases hm : (m.metricInfo? : Option (MetricInfo V)) with
    | none =>
      rw [sProcessMetrics_cons_none hm, ih]
      simp
    | some M' =>
      rw [sProcessMetrics_cons_some hm, List.mem_cons, ih, Step.processMetric.injEq,
        Option.some.injEq, eq_comm (a := M)]

/-- **The metrics that are given to the configuration** are those whose value is, as a whole, a text
of a number in range, each under its own topic. -/
theorem mem_sProcessMetrics_iff (metrics : List ProtoMetric) (M : MetricInfo V) (topic : String) :
    .processMetric M topic ∈ (sProcessMetrics metrics : List (Step V)) ↔
      ∃ m ∈ metrics, ∃ x v, Denotes m.value.toList x ∧ DoubleText.ofNumber x = some v ∧
        M = ⟨m.name, m.type, m.unit, v, m.time, m.ttl.toUInt64⟩ ∧ topic = M.generateTopic := by
  rw [mem_sProcessMetrics]
  refine exists_congr fun m => and_congr_right fun _ => ?_
  rw [metricInfo?_eq_some_iff]
  constructor
  · rintro ⟨⟨x, v, hx, hv, rfl⟩, rfl⟩
    exact ⟨x, v, hx, hv, rfl, rfl⟩
  · rintro ⟨x, v, hx, hv, rfl, rfl⟩
    exact ⟨⟨x, v, hx, hv, rfl⟩, rfl⟩

end Reading

/-! ### The filter -/

/-- A word as a regular expression. -/
def word (s : String) : RegularExpression Char :=
  (s.toList.map RegularExpression.char).foldr (· * ·) 1

/-- `(output|input)\\.L(1|2|3)` -/
def phaseFilter : RegularExpression Char :=
  (word "output" + word "input") * word ".L" * (word "1" + word "2" + word "3")

/-- `typeFilter`, for the alternatives `realpower\\.(default|...)`, `current\\....` and
`voltage\\....-N`. -/
def typeFilter : RegularExpression Char :=
  word "realpower." * (word "default" + phaseFilter) + word "current." * phaseFilter +
    word "voltage." * phaseFilter * word "-N"

/-- A type passes the filter as a whole. -/
def passesFilter (m : ProtoMetric) : Bool :=
  typeFilter.rmatch m.type.toList

/-- The quantities of the units pass the filter. -/
theorem rmatch_of_mem_quantities {kind : Kind} {quantity : String}
    (h : quantity ∈ kind.quantities) : typeFilter.rmatch quantity.toList = true := by
  revert quantity
  cases kind <;> decide +kernel

/-! ### What may be left out of a batch -/

variable {V : Type} [DoubleText V] {env : Env V}

/-- A metric matters to an agent: it can be read, and it is of a quantity of a kind and of a device
with an affected owner of that kind. -/
def Agent.Relevant (a : Agent V) (m : ProtoMetric) : Prop :=
  (m.metricInfo? : Option (MetricInfo V)).isSome ∧ ∃ kind : Kind,
    quantityOf m.topic ∈ kind.quantities ∧ m.name ∈ (a.conf.group kind).affected

instance (a : Agent V) : DecidablePred a.Relevant := fun m =>
  decidable_of_iff ((m.metricInfo? : Option (MetricInfo V)).isSome ∧
      ((quantityOf m.topic ∈ Kind.rack.quantities ∧ m.name ∈ (a.conf.group .rack).affected) ∨
        (quantityOf m.topic ∈ Kind.dc.quantities ∧ m.name ∈ (a.conf.group .dc).affected)))
    (and_congr_right fun _ => ⟨fun h => h.elim (⟨.rack, ·⟩) (⟨.dc, ·⟩), fun ⟨kind, h⟩ =>
      match kind with
      | .rack => Or.inl h
      | .dc => Or.inr h⟩)

section Batch

variable {m m' : ProtoMetric} {M : MetricInfo V}

/-- A metric that does not matter changes nothing. -/
theorem processMetric_of_not_relevant (a : Agent V) (hm : m.metricInfo? = some M)
    (h : ¬ a.Relevant m) : a.processMetric env M m.topic = a := by
  have hname : M.elementName = m.name := by
    obtain ⟨v, -, rfl⟩ := Option.map_eq_some_iff.mp hm
    rfl
  have hfor : ∀ kind, Agent.processMetricFor env kind M (quantityOf m.topic) a = a := by
    intro kind
    rcases processMetricFor_cases env a kind M (quantityOf m.topic) with
      hsame | ⟨owner, hquantity, howner, -⟩
    · exact hsame
    · rw [hname] at howner
      exact absurd ⟨Option.isSome_of_eq_some hm, kind, hquantity,
        TreeMap.mem_iff_isSome_getElem?.mpr (Option.isSome_of_eq_some howner)⟩ h
  rw [Agent.processMetric, hfor .rack, hfor .dc]

theorem relevant_processMetric_iff (a : Agent V) (topic : String) :
    (a.processMetric env M topic).Relevant m' ↔ a.Relevant m' := by
  simp only [Agent.Relevant, affected_processMetric]

end Batch

/-- **A filter that keeps the metrics that matter changes nothing**: the agent is the same after
the filtered batch and after the whole one. -/
theorem steps_filter_eq (env : Env V) (metrics : List ProtoMetric) (a : Agent V)
    (keep : ProtoMetric → Bool) (hkeep : ∀ m ∈ metrics, a.Relevant m → keep m = true) :
    a.steps env (sProcessMetrics (metrics.filter keep)) =
      a.steps env (sProcessMetrics metrics) := by
  induction metrics generalizing a with
  | nil => rfl
  | cons m metrics ih =>
    have hrest : ∀ m' ∈ metrics, a.Relevant m' → keep m' = true := fun m' hm' =>
      hkeep m' (List.mem_cons_of_mem m hm')
    rw [List.filter_cons]
    cases hm : (m.metricInfo? : Option (MetricInfo V)) with
    | none =>
      rw [sProcessMetrics_cons_none hm]
      split
      · rw [sProcessMetrics_cons_none hm, ih a hrest]
      · exact ih a hrest
    | some M =>
      have ih' := ih (a.processMetric env M m.topic) fun m' hm' hrelevant =>
        hrest m' hm' ((relevant_processMetric_iff a m.topic).mp hrelevant)
      rw [sProcessMetrics_cons_some hm]
      split
      · rw [sProcessMetrics_cons_some hm]
        exact ih'
      · rename_i hdropped
        -- the metric that is left out does not matter
        have hnot : ¬ a.Relevant m := fun hrelevant =>
          hdropped (hkeep m List.mem_cons_self hrelevant)
        rw [processMetric_of_not_relevant a hm hnot] at ih'
        rw [ih']
        change _ = (a.processMetric env M m.topic).steps env (sProcessMetrics metrics)
        rw [processMetric_of_not_relevant a hm hnot]

/-- **The filter loses nothing.** For every agent and every batch of metrics without `@` in their
types, the agent is the same whether it reads the whole batch, what passes the filter of the
server, or only what matters to it. -/
theorem steps_passesFilter_eq (env : Env V) (metrics : List ProtoMetric) (a : Agent V)
    (htypes : ∀ m ∈ metrics, '@' ∉ m.type.toList) :
    a.steps env (sProcessMetrics (metrics.filter passesFilter)) =
        a.steps env (sProcessMetrics metrics) ∧
      a.steps env (sProcessMetrics (metrics.filter fun m => decide (a.Relevant m))) =
        a.steps env (sProcessMetrics metrics) := by
  constructor
  · refine steps_filter_eq env metrics a _ fun m hm hrelevant => ?_
    obtain ⟨-, kind, hquantity, -⟩ := hrelevant
    rw [ProtoMetric.topic, quantityOf_topicOf m.name (htypes m hm)] at hquantity
    exact rmatch_of_mem_quantities hquantity
  · exact steps_filter_eq env metrics a _ fun m _ hrelevant => decide_eq_true hrelevant

namespace Server

/-- The database with one rack, a clock that stands still, and a shared memory that takes all. -/
def oneRackOutside : Outside where
  time _ := 1000
  writeMetric _ _ := 0
  topology _ := oneRack

/-- The outside as the configuration with exact values meets it. -/
def oneRackEnv : Env Extended :=
  oneRackOutside.env

/-- A measurement of the epdu of the rack, as it is read from the shared memory. -/
def epduMetric : ProtoMetric where
  name := "epdu-1"
  type := "realpower.default"
  value := " 1005e-1"
  unit := "W"
  time := 1000
  ttl := 60

/-- A measurement of the epdu that passes the filter, and one that does not. -/
def mixedMetrics : List ProtoMetric :=
  [epduMetric, { epduMetric with type := "load.default" }]

theorem steps_passesFilter_eq_oneRack :
    (run oneRackEnv [.configure]).steps oneRackEnv
        (sProcessMetrics (mixedMetrics.filter passesFilter)) =
      (run oneRackEnv [.configure]).steps oneRackEnv (sProcessMetrics mixedMetrics) ∧
    (run oneRackEnv [.configure]).steps oneRackEnv (sProcessMetrics (mixedMetrics.filter fun m =>
        decide ((run oneRackEnv [.configure]).Relevant m))) =
      (run oneRackEnv [.configure]).steps oneRackEnv (sProcessMetrics mixedMetrics) :=
  steps_passesFilter_eq oneRackEnv mixedMetrics (run oneRackEnv [.configure]) (by decide)

end Server

end MetricTPower
