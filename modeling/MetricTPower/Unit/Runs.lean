import MetricTPower.Unit.Totals

/-!
# Runs of a unit

What holds of a unit whatever methods are called on it, in any order and at any readings of the
clock. A call of `calculate` with a vector of quantities is a call of `dropOldMetricInfos` and one
call of `calculate` for each of them.

## Main definitions

* `TPUnit.Method`, `TPUnit.call`, `TPUnit.callAll`: the calls that write to a unit.
* `TPUnit.OwnTotals`: what is stored as a total is a total of the unit.

## Main results

* `TPUnit.invariant_callAll`: what every call keeps holds after any number of them.
* `TPUnit.mem_powerdevices_callAll`: the devices of a unit are those that were added.
* `TPUnit.ownTotals_callAll`: the totals of a unit are always its own.
-/

open Std (TreeMap)

namespace MetricTPower

open Double

variable {V : Type}

namespace TPUnit

/-- The methods that write to a unit, with the readings of the clock that they make. -/
inductive Method (V : Type)
  | addPowerDevice (device : String)
  | setMeasurement (M : MetricInfo V)
  | dropOldMetricInfos (clock : ℕ → Int64)
  | calculate (quantity : String) (now : Int64)
  | advertised (quantity : String) (now now' : Int64)

variable [Double V]

/-- One call of a method. -/
def call (u : TPUnit V) : Method V → TPUnit V
  | .addPowerDevice device => u.addPowerDevice device
  | .setMeasurement M => u.setMeasurement M
  | .dropOldMetricInfos clock => u.dropOldMetricInfos clock
  | .calculate quantity now => u.calculate quantity now
  | .advertised quantity now now' => u.advertised quantity now now'

/-- A sequence of calls. -/
def callAll (u : TPUnit V) (methods : List (Method V)) : TPUnit V :=
  methods.foldl call u

theorem callAll_append (u : TPUnit V) (methods methods' : List (Method V)) :
    u.callAll (methods ++ methods') = (u.callAll methods).callAll methods' :=
  List.foldl_append

theorem callAll_concat (u : TPUnit V) (methods : List (Method V)) (m : Method V) :
    u.callAll (methods ++ [m]) = (u.callAll methods).call m :=
  u.callAll_append methods [m]

/-- **What every call keeps holds after any number of them.** -/
theorem invariant_callAll {P : TPUnit V → Prop} (hcall : ∀ u m, P u → P (u.call m)) (u : TPUnit V)
    (hu : P u) (methods : List (Method V)) : P (u.callAll methods) := by
  induction methods generalizing u with
  | nil => exact hu
  | cons m methods ih => exact ih (u.call m) (hcall u m hu)

/-! ### Name and devices -/

@[simp] theorem name_calculate (u : TPUnit V) (quantity : String) (now : Int64) :
    (u.calculate quantity now).name = u.name :=
  (u.onlyTotal_calculate quantity now).name

@[simp] theorem powerdevices_calculate (u : TPUnit V) (quantity : String) (now : Int64) :
    (u.calculate quantity now).powerdevices = u.powerdevices :=
  (u.onlyTotal_calculate quantity now).powerdevices

@[simp] theorem name_call (u : TPUnit V) (m : Method V) : (u.call m).name = u.name := by
  cases m with
  | addPowerDevice device => rfl
  | setMeasurement M => exact name_setMeasurement u M
  | dropOldMetricInfos clock => rfl
  | calculate quantity now => exact name_calculate u quantity now
  | advertised quantity now now' => exact name_advertised u quantity now now'

@[simp] theorem name_callAll (u : TPUnit V) (methods : List (Method V)) :
    (u.callAll methods).name = u.name :=
  invariant_callAll (P := fun v => v.name = u.name) (fun v m hv => (name_call v m).trans hv) u rfl
    methods

omit [Double V] in
@[simp] theorem mem_powerdevices_addPowerDevice (u : TPUnit V) (d device : String) :
    device ∈ (u.addPowerDevice d).powerdevices ↔ d = device ∨ device ∈ u.powerdevices := by
  rw [addPowerDevice, TreeMap.mem_insert, Std.LawfulEqOrd.compare_eq_iff_eq]

/-- Only `addPowerDevice` gives a unit another device. -/
theorem mem_powerdevices_call (u : TPUnit V) (m : Method V) (device : String) :
    device ∈ (u.call m).powerdevices ↔ m = .addPowerDevice device ∨ device ∈ u.powerdevices := by
  cases m with
  | addPowerDevice d => simp [call]
  | setMeasurement M => simp [call]
  | dropOldMetricInfos clock => simp [call]
  | calculate quantity now => simp [call]
  | advertised quantity now now' => simp [call]

/-- The devices of a unit are those it started with and those that were added. -/
theorem mem_powerdevices_callAll (u : TPUnit V) (methods : List (Method V)) (device : String) :
    device ∈ (u.callAll methods).powerdevices ↔
      .addPowerDevice device ∈ methods ∨ device ∈ u.powerdevices := by
  induction methods generalizing u with
  | nil => simp [callAll]
  | cons m methods ih =>
    have hrest : device ∈ (u.callAll (m :: methods)).powerdevices ↔
        .addPowerDevice device ∈ methods ∨ device ∈ (u.call m).powerdevices := ih (u.call m)
    rw [hrest, mem_powerdevices_call, List.mem_cons, or_left_comm, or_assoc, eq_comm]

/-! ### The totals are the unit's own -/

omit [Double V] in
/-- What a unit stores as totals are metrics of the unit in watts, each under its own topic. -/
def OwnTotals (u : TPUnit V) : Prop :=
  ∀ (topic : String) (m : MetricInfo V), u.lastValue.knownMetrics[topic]? = some m →
    m.generateTopic = topic ∧ m.elementName = u.name ∧ m.units = "W"

omit [Double V] in
theorem ownTotals_ofName (name : String) : (ofName name : TPUnit V).OwnTotals := by
  intro topic m hm
  simp [ofName] at hm

theorem OwnTotals.call {u : TPUnit V} (h : u.OwnTotals) (m : Method V) : (u.call m).OwnTotals := by
  cases m with
  | addPowerDevice device => exact h
  | setMeasurement M =>
    intro topic m hm
    rw [TPUnit.call, lastValue_setMeasurement] at hm
    rw [TPUnit.call, name_setMeasurement]
    exact h topic m hm
  | dropOldMetricInfos clock =>
    intro topic m hm
    have hm' : (u.lastValue.removeOldMetrics
        (clock u.powerdevices.size)).knownMetrics[topic]? = some m := hm
    rw [MetricList.knownMetrics_removeOldMetrics, Option.filter_eq_some_iff] at hm'
    exact h topic m hm'.1
  | calculate quantity now =>
    rcases u.calculate_cases quantity now with hsame | ⟨sum, -, hstored⟩
    · rwa [TPUnit.call, hsame]
    · rw [TPUnit.call, hstored]
      intro topic m hm
      have hm' : (u.lastValue.addMetricInfo (u.result quantity now sum)).knownMetrics[topic]? =
        some m := hm
      rw [MetricList.knownMetrics_addMetricInfo] at hm'
      split at hm'
      · rename_i htopic
        obtain rfl := Option.some.inj hm'
        exact ⟨htopic, rfl, rfl⟩
      · exact h topic m hm'
  | advertised quantity now now' =>
    intro topic m hm
    rw [TPUnit.call, lastValue_advertised] at hm
    rw [TPUnit.call, name_advertised]
    exact h topic m hm

/-- The totals of a unit are always its own. -/
theorem ownTotals_callAll {u : TPUnit V} (h : u.OwnTotals) (methods : List (Method V)) :
    (u.callAll methods).OwnTotals :=
  invariant_callAll (fun _ m hv => hv.call m) u h methods

/-! ### A short run -/

/-- A unit gets an epdu, a measurement of 100 W for it, and calculates its total. -/
def oneDevice : List (Method Exact) :=
  [.addPowerDevice "epdu-1",
    .setMeasurement
      { elementName := "epdu-1"
        source := "realpower.default"
        units := "W"
        value := some 100
        timestamp := 1000
        ttl := 60 },
    .calculate "realpower.default" 1000]

end TPUnit

end MetricTPower
