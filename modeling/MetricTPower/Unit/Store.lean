import MetricTPower.Unit.TPUnit

/-!
# The measurements of a unit

A unit holds one list of measurements for each of its devices, and reads a list only at topics of
its own device. What matters of the lists is therefore the measurement they hold for a device and
a quantity (`measurementOf`). A received measurement replaces that of its own device and quantity;
the purge takes away the expired ones; no other method of a unit writes to the lists.

## Main definitions

* `TPUnit.measurementOf`: the measurement of a quantity held for a device.
* `TPUnit.Has`: there is one, and its value is not `NaN`.

## Main results

* `TPUnit.measurementOf_setMeasurement`, `TPUnit.measurementOf_dropOldMetricInfos`.
-/

open Std (TreeMap)

namespace MetricTPower

open Double

variable {V : Type}

namespace TPUnit

variable {u : TPUnit V} {device quantity : String}

/-- The measurement of a quantity that the unit holds for a device. -/
def measurementOf (u : TPUnit V) (device quantity : String) : Option (MetricInfo V) :=
  u.powerdevices[device]?.bind fun measurements =>
    measurements.knownMetrics[topicOf quantity device]?

/-- The unit holds a value of a quantity for a device. -/
def Has [Double V] (u : TPUnit V) (device quantity : String) : Prop :=
  ∃ m, u.measurementOf device quantity = some m ∧ isnan m.value = false

theorem measurementOf_of_getElem? {measurements : MetricList V}
    (h : u.powerdevices[device]? = some measurements) :
    u.measurementOf device quantity = measurements.knownMetrics[topicOf quantity device]? := by
  rw [measurementOf, h, Option.bind_some]

theorem measurementOf_congr {u v : TPUnit V} (h : v.powerdevices = u.powerdevices)
    (device quantity : String) :
    v.measurementOf device quantity = u.measurementOf device quantity := by
  rw [measurementOf, h, measurementOf]

/-! ### Reading a device in a loop -/

theorem getElem?_of_mem_toList {it : PowerDevice V} (h : it ∈ u.powerdevices.toList) :
    u.powerdevices[it.1]? = some it.2 :=
  TreeMap.mem_toList_iff_getElem?_eq_some.mp h

theorem mem_powerdevices_of_mem_toList {it : PowerDevice V} (h : it ∈ u.powerdevices.toList) :
    it.1 ∈ u.powerdevices :=
  TreeMap.mem_iff_isSome_getElem?.mpr (Option.isSome_of_eq_some (getElem?_of_mem_toList h))

/-- A statement about the devices of a unit, read off its loops. -/
theorem forall_mem_toList_iff {P : String → Prop} :
    (∀ it ∈ u.powerdevices.toList, P it.1) ↔ ∀ device ∈ u.powerdevices, P device := by
  constructor
  · intro h device hdevice
    obtain ⟨measurements, hm⟩ :=
      Option.isSome_iff_exists.mp (TreeMap.mem_iff_isSome_getElem?.mp hdevice)
    exact h (device, measurements) (TreeMap.mem_toList_iff_getElem?_eq_some.mpr hm)
  · exact fun h it hit => h it.1 (mem_powerdevices_of_mem_toList hit)

/-- In the loops over the devices of a unit, a value is missing unless the unit has it. -/
theorem isMissing_eq_false_iff [Double V] {it : PowerDevice V}
    (h : it ∈ u.powerdevices.toList) : isMissing quantity it = false ↔ u.Has it.1 quantity := by
  rw [isMissing, getMetricValue, MetricList.isnan_find_eq_false_iff, Has,
    measurementOf_of_getElem? (getElem?_of_mem_toList h)]

/-! ### Writing -/

/-- A received measurement replaces that of its device and quantity, when the device is one of the
unit's. -/
theorem measurementOf_setMeasurement (u : TPUnit V) (M : MetricInfo V) (device quantity : String) :
    (u.setMeasurement M).measurementOf device quantity =
      if M.elementName = device ∧ M.source = quantity ∧ device ∈ u.powerdevices then some M
      else u.measurementOf device quantity := by
  rw [setMeasurement]
  split
  · rename_i measurements hm
    have hmem : M.elementName ∈ u.powerdevices :=
      TreeMap.mem_iff_isSome_getElem?.mpr (Option.isSome_of_eq_some hm)
    by_cases hdevice : M.elementName = device
    · subst hdevice
      rw [measurementOf_of_getElem? (TreeMap.getElem?_insert_self ..), measurementOf_of_getElem? hm,
        MetricList.knownMetrics_addMetricInfo, MetricInfo.generateTopic]
      simp [hmem]
    · rw [if_neg fun h => hdevice h.1]
      simp [measurementOf, TreeMap.getElem?_insert, hdevice]
  · rename_i hm
    rw [if_neg]
    rintro ⟨rfl, -, hmem⟩
    rw [TreeMap.mem_iff_isSome_getElem?, hm] at hmem
    cases hmem

/-- The purge takes away what is expired at the reading of its device. -/
theorem measurementOf_dropOldMetricInfos (u : TPUnit V) (clock : ℕ → Int64)
    (device quantity : String) :
    (u.dropOldMetricInfos clock).measurementOf device quantity =
      (u.measurementOf device quantity).filter fun m =>
        !m.expired (clock (u.powerdevices.keys.idxOf device)) := by
  simp only [measurementOf, dropOldMetricInfos, TreeMap.getElem?_map]
  cases u.powerdevices[device]? with
  | none => rfl
  | some measurements => simp

/-! ### What the writers leave alone -/

@[simp] theorem name_setMeasurement (u : TPUnit V) (M : MetricInfo V) :
    (u.setMeasurement M).name = u.name := by
  rw [setMeasurement]
  split <;> rfl

@[simp] theorem lastValue_setMeasurement (u : TPUnit V) (M : MetricInfo V) :
    (u.setMeasurement M).lastValue = u.lastValue := by
  rw [setMeasurement]
  split <;> rfl

@[simp] theorem changedStatus_setMeasurement (u : TPUnit V) (M : MetricInfo V) :
    (u.setMeasurement M).changedStatus = u.changedStatus := by
  rw [setMeasurement]
  split <;> rfl

@[simp] theorem changetimestamp_setMeasurement (u : TPUnit V) (M : MetricInfo V) :
    (u.setMeasurement M).changetimestamp = u.changetimestamp := by
  rw [setMeasurement]
  split <;> rfl

@[simp] theorem advertisedtimestamp_setMeasurement (u : TPUnit V) (M : MetricInfo V) :
    (u.setMeasurement M).advertisedtimestamp = u.advertisedtimestamp := by
  rw [setMeasurement]
  split <;> rfl

@[simp] theorem mem_powerdevices_setMeasurement (u : TPUnit V) (M : MetricInfo V)
    (device : String) : device ∈ (u.setMeasurement M).powerdevices ↔ device ∈ u.powerdevices := by
  rw [setMeasurement]
  split
  · rename_i measurements hm
    rw [TreeMap.mem_insert, Std.LawfulEqOrd.compare_eq_iff_eq]
    refine or_iff_right_of_imp ?_
    rintro rfl
    exact TreeMap.mem_iff_isSome_getElem?.mpr (Option.isSome_of_eq_some hm)
  · rfl

@[simp] theorem name_dropOldMetricInfos (u : TPUnit V) (clock : ℕ → Int64) :
    (u.dropOldMetricInfos clock).name = u.name := rfl

@[simp] theorem mem_powerdevices_dropOldMetricInfos (u : TPUnit V) (clock : ℕ → Int64)
    (device : String) :
    device ∈ (u.dropOldMetricInfos clock).powerdevices ↔ device ∈ u.powerdevices := by
  rw [dropOldMetricInfos, TreeMap.mem_map]

end TPUnit

end MetricTPower
