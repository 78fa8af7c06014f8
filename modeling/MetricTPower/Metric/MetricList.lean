import MetricTPower.Metric.Double
import Std.Data.TreeMap.Lemmas
import Mathlib.Data.String.Basic

/-!
# Metrics and lists of metrics

`MetricInfo` is one measurement, `MetricList` the set of the measurements known so far, keyed by
topic (`src/metricinfo.h`, `src/metriclist.cc`). A topic is `quantity@asset`; the writer of an
entry builds it from the metric, its readers from the quantity and the asset they look for, and
`topicOf_left_inj` is what makes the two agree.

Timestamps and times to live are 64-bit unsigned numbers, and the age of a metric is their
difference with wrap-around, as in the code. A reading of `::time(NULL)` is an `Int64`; a
function that reads the clock takes the value read as an argument.

## Main definitions

* `topicOf`, `quantityOf`: building a topic, and the part of a topic in front of `@`.
* `MetricInfo`, `MetricInfo.expired`: a measurement, and the age test of the purge.
* `MetricList` with `addMetricInfo`, `getMetricInfo`, `find` and `removeOldMetrics`.

## Main results

* `MetricList.find_addMetricInfo`, `MetricList.knownMetrics_removeOldMetrics`: what the two
  writers do to every topic.
-/

open Std (TreeMap)

namespace MetricTPower

open Double

/-! ### Topics -/

/-- The topic `quantity@asset`. -/
def topicOf (quantity asset : String) : String :=
  quantity ++ "@" ++ asset

/-- `topic.substr(0, topic.find('@'))`: the whole topic when there is no `@` in it. -/
def quantityOf (topic : String) : String :=
  String.ofList (topic.toList.takeWhile (· != '@'))

/-- For one asset, the topic tells the quantity. -/
@[simp] theorem topicOf_left_inj {q q' asset : String} :
    topicOf q asset = topicOf q' asset ↔ q = q' := by
  simp only [topicOf, ← String.toList_inj, String.toList_append, List.append_left_inj]

/-- A quantity without `@` is the part of its topics in front of `@`. -/
theorem quantityOf_topicOf {q : String} (asset : String) (h : '@' ∉ q.toList) :
    quantityOf (topicOf q asset) = q := by
  have hq : ∀ c ∈ q.toList, (c != '@') = true := by
    intro c hc
    simpa using fun he : c = '@' => h (he ▸ hc)
  have htopic : (topicOf q asset).toList = q.toList ++ '@' :: asset.toList := by
    simp [topicOf]
  rw [quantityOf, htopic, List.takeWhile_append_of_pos hq]
  simp

/-! ### Measurements -/

/-- One measurement of a quantity (`source`) of an element. -/
structure MetricInfo (V : Type) where
  elementName : String
  source : String
  units : String
  value : V
  /-- in seconds -/
  timestamp : UInt64
  /-- time to live, in seconds -/
  ttl : UInt64
  deriving DecidableEq

variable {V : Type}

namespace MetricInfo

/-- `MetricInfo()` -/
def empty [Double V] : MetricInfo V where
  elementName := ""
  source := ""
  units := ""
  value := zero
  timestamp := 0
  ttl := 5 * 60

/-- `generateTopic`: `_source + "@" + _element_name`. -/
def generateTopic (m : MetricInfo V) : String :=
  topicOf m.source m.elementName

/-- `isUnknown`: the element name, the source or the units are empty. -/
def isUnknown (m : MetricInfo V) : Bool :=
  m.elementName.isEmpty || m.source.isEmpty || m.units.isEmpty

/-- The age test of `MetricList::removeOldMetrics`: `(now - _timestamp) > getTtl()`. -/
def expired (now : Int64) (m : MetricInfo V) : Bool :=
  decide (m.ttl < now.toUInt64 - m.timestamp)

end MetricInfo

/-! ### Lists of measurements -/

/-- The current known metrics: `std::map<topic, MetricInfo>`. -/
structure MetricList (V : Type) where
  knownMetrics : TreeMap String (MetricInfo V) := ∅

namespace MetricList

/-- `addMetricInfo`: replace the metric of the same topic, else add it. -/
def addMetricInfo (l : MetricList V) (metricInfo : MetricInfo V) : MetricList V :=
  ⟨l.knownMetrics.insert metricInfo.generateTopic metricInfo⟩

/-- `getMetricInfo`: the metric of the topic, else `MetricInfo()`. -/
def getMetricInfo [Double V] (l : MetricList V) (topic : String) : MetricInfo V :=
  l.knownMetrics[topic]?.getD .empty

/-- `find`: the value of the metric of the topic, `NaN` when there is none. -/
def find [Double V] (l : MetricList V) (topic : String) : V :=
  match l.knownMetrics[topic]? with
  | some m => m.value
  | none => nan

/-- `removeOldMetrics`: erase every metric older than its time to live. -/
def removeOldMetrics (l : MetricList V) (now : Int64) : MetricList V :=
  ⟨l.knownMetrics.filter fun _ m => !m.expired now⟩

@[simp] theorem knownMetrics_addMetricInfo (l : MetricList V) (m : MetricInfo V) (topic : String) :
    (l.addMetricInfo m).knownMetrics[topic]? =
      if m.generateTopic = topic then some m else l.knownMetrics[topic]? := by
  simp [addMetricInfo, TreeMap.getElem?_insert]

@[simp] theorem knownMetrics_removeOldMetrics (l : MetricList V) (now : Int64) (topic : String) :
    (l.removeOldMetrics now).knownMetrics[topic]? =
      l.knownMetrics[topic]?.filter fun m => !m.expired now := by
  simp [removeOldMetrics, TreeMap.getElem?_filter]

variable [Double V]

theorem find_eq (l : MetricList V) (topic : String) :
    l.find topic = (l.knownMetrics[topic]?.map MetricInfo.value).getD nan := by
  rw [find]
  cases l.knownMetrics[topic]? <;> rfl

@[simp] theorem find_addMetricInfo (l : MetricList V) (m : MetricInfo V) (topic : String) :
    (l.addMetricInfo m).find topic = if m.generateTopic = topic then m.value else l.find topic := by
  simp only [find_eq, knownMetrics_addMetricInfo]
  split <;> rfl

/-- A topic is known to a list when the list has a metric for it whose value is not `NaN`. -/
theorem isnan_find_eq_false_iff (l : MetricList V) (topic : String) :
    isnan (l.find topic) = false ↔
      ∃ m, l.knownMetrics[topic]? = some m ∧ isnan m.value = false := by
  rw [find]
  cases l.knownMetrics[topic]? <;> simp

/-- The purge takes no value away from a list whose metric of the topic is not expired. -/
theorem find_removeOldMetrics_of_fresh (l : MetricList V) (now : Int64) (topic : String)
    (h : ∀ m, l.knownMetrics[topic]? = some m → m.expired now = false) :
    (l.removeOldMetrics now).find topic = l.find topic := by
  simp only [find_eq, knownMetrics_removeOldMetrics]
  cases hm : l.knownMetrics[topic]? with
  | none => rfl
  | some m => rw [Option.filter_some, if_pos (by simp [h m hm])]

/-- What is known after a purge was known before it, with the same value. -/
theorem find_removeOldMetrics_of_known (l : MetricList V) (now : Int64) (topic : String)
    (h : isnan ((l.removeOldMetrics now).find topic) = false) :
    (l.removeOldMetrics now).find topic = l.find topic := by
  obtain ⟨m, hm, -⟩ := (isnan_find_eq_false_iff _ _).mp h
  rw [knownMetrics_removeOldMetrics, Option.filter_eq_some_iff] at hm
  refine find_removeOldMetrics_of_fresh l now topic fun m' hm' => ?_
  obtain rfl : m' = m := Option.some.inj (hm'.symm.trans hm.1)
  simpa using hm.2

end MetricList

end MetricTPower
