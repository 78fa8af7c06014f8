import MetricTPower.Library.WrappedAge
import MetricTPower.Unit.Totals

/-!
# The age tests

Four functions compare the age of a metric or of a total with a limit: the purge, the report of
silent devices, `advertise` and `timeToAdvertisement`. All of them subtract unsigned 64-bit numbers,
so that a time in the future, as it occurs when the wall clock is stepped back, has an age close
to `2 ^ 64` (`MetricTPower.Library.WrappedAge`). Such a metric is erased at once and such a total is
sent again. This file compares the four with the same decisions made by the exact age.

## Main definitions

* `MetricList.PurgesByExactAge`, `TPUnit.ReportsByExactAge`, `TPUnit.AdvertisesByExactAge`,
  `TPUnit.WaitsByExactAge`: a function decides by the exact age.

## Main results

* `decidesByExactAge_iff`: when the four functions do.
-/

open Std (TreeMap)

namespace MetricTPower

open Double WrappedAge

variable {V : Type}

/-! ### Decisions by the exact age -/

/-- The purge erases a metric if and only if it is older than its time to live. -/
def MetricList.PurgesByExactAge (l : MetricList V) (now : Int64) : Prop :=
  ∀ (topic : String) (m : MetricInfo V), l.knownMetrics[topic]? = some m →
    ((l.removeOldMetrics now).knownMetrics[topic]? = none ↔
      (m.ttl.toNat : ℤ) < exactAge now m.timestamp)

namespace TPUnit

variable [Double V]

/-- A device is reported if and only if the total is unknown and its measurement is missing or older
than twice its time to live. -/
def ReportsByExactAge (u : TPUnit V) (quantity : String) (now : Int64) : Prop :=
  ∀ device ∈ u.powerdevices, device ∈ u.devicesInUnknownState quantity now ↔
    isnan (u.storedTotal quantity) = true ∧
      (¬ u.Has device quantity ∨ ∃ m, u.measurementOf device quantity = some m ∧
        2 * (m.ttl.toNat : ℤ) < exactAge now m.timestamp)

/-- A total is to be sent if and only if it is known, has not been advertised at this reading of the
clock, and has changed or is older than 300 seconds. -/
def AdvertisesByExactAge (u : TPUnit V) (quantity : String) (now : Int64) : Prop :=
  u.advertise quantity now = true ↔ isnan (u.storedTotal quantity) = false ∧
    u.advertisedtimestamp[quantity]? ≠ some now.toUInt64 ∧
      (u.changed quantity = true ∨ 300 < exactAge now (u.timestamp quantity))

/-- A total that is known and has a time waits for what is left of 300 seconds, any other one for
300 seconds. -/
def WaitsByExactAge (u : TPUnit V) (quantity : String) (now : Int64) : Prop :=
  u.timeToAdvertisement quantity now =
    if isnan (u.storedTotal quantity) = true ∨ u.timestamp quantity = 0 then 300
    else max 0 (300 - exactAge now (u.timestamp quantity))

end TPUnit

/-! ### When the functions decide by the exact age -/

/-- The purge decides by the exact age when no metric is in the future. -/
theorem MetricList.purgesByExactAge_iff (l : MetricList V) (now : Int64)
    (httl : ∀ (topic : String) (m : MetricInfo V), l.knownMetrics[topic]? = some m →
      m.ttl.toNat < 2 ^ 32) :
    l.PurgesByExactAge now ↔ ∀ (topic : String) (m : MetricInfo V),
      l.knownMetrics[topic]? = some m → Told now m.timestamp m.ttl.toNat := by
  refine forall₃_congr fun topic m hm => ?_
  have hlimit : m.ttl.toNat < 2 ^ 63 := (httl topic m hm).trans (by decide)
  rw [← limit_lt_age_iff_exactAge now m.timestamp hlimit, knownMetrics_removeOldMetrics, hm,
    Option.filter_some, MetricInfo.expired, ← UInt64.lt_iff_toNat_lt]
  by_cases hage : m.ttl < now.toUInt64 - m.timestamp <;> simp [hage]

namespace TPUnit

variable [Double V] {u : TPUnit V} {device quantity : String} {now : Int64}

/-- A device is reported by its measurement; without one it is taken for a metric with value, time
and time to live of `MetricInfo()`. -/
theorem mem_devicesInUnknownState_iff (hdevice : device ∈ u.powerdevices) :
    device ∈ u.devicesInUnknownState quantity now ↔ isnan (u.storedTotal quantity) = true ∧
      (isnan ((u.measurementOf device quantity).getD .empty).value = true ∨
        ((u.measurementOf device quantity).getD .empty).ttl * 2 <
          now.toUInt64 - ((u.measurementOf device quantity).getD .empty).timestamp) := by
  obtain ⟨measurements, hm⟩ :=
    Option.isSome_iff_exists.mp (TreeMap.mem_iff_isSome_getElem?.mp hdevice)
  rw [measurementOf_of_getElem? hm, devicesInUnknownState, quantityIsKnown, quantityIsUnknown,
    ← storedTotal]
  cases isnan (u.storedTotal quantity) with
  | false => simp
  | true =>
    simp only [Bool.not_true, Bool.false_eq_true, if_false, true_and, List.mem_map,
      List.mem_filter, Bool.or_eq_true, decide_eq_true_eq]
    constructor
    · rintro ⟨it, ⟨hit, hreport⟩, rfl⟩
      obtain rfl := Option.some.inj (hm.symm.trans (getElem?_of_mem_toList hit))
      exact hreport
    · exact fun hreport =>
        ⟨(device, measurements), ⟨TreeMap.mem_toList_iff_getElem?_eq_some.mpr hm, hreport⟩, rfl⟩

/-- The report of a device is told by the exact age: a device without a measurement when the clock
does not stand in its first ten minutes, and a measurement when it is not in the future or not a
number anyway. -/
def ReportTold (u : TPUnit V) (quantity : String) (now : Int64) (device : String) : Prop :=
  (u.measurementOf device quantity = none → now.toInt < 0 ∨ 600 < now.toInt) ∧
    ∀ m, u.measurementOf device quantity = some m →
      isnan m.value = true ∨ Told now m.timestamp (2 * m.ttl.toNat)

theorem reportsByExactAge_iff (u : TPUnit V) (quantity : String) (now : Int64)
    (httl : ∀ device m, u.measurementOf device quantity = some m → m.ttl.toNat < 2 ^ 32) :
    u.ReportsByExactAge quantity now ↔ isnan (u.storedTotal quantity) = false ∨
      ∀ device ∈ u.powerdevices, u.ReportTold quantity now device := by
  cases hknown : isnan (u.storedTotal quantity) with
  | false =>
    refine iff_of_true (fun device hdevice => ?_) (Or.inl rfl)
    rw [mem_devicesInUnknownState_iff hdevice, hknown]
    simp
  | true =>
    rw [or_iff_right (by simp)]
    refine forall₂_congr fun device hdevice => ?_
    rw [mem_devicesInUnknownState_iff hdevice, hknown, ReportTold, Has]
    cases hm : u.measurementOf device quantity with
    | none =>
      have hnow := toNat_toUInt64 now
      have hlow := now.le_toInt
      simp [MetricInfo.empty, UInt64.lt_iff_toNat_lt]
      split at hnow <;> omega
    | some m =>
      have hlimit := httl device m hm
      have hdouble : (m.ttl * 2).toNat = 2 * m.ttl.toNat := by
        rw [UInt64.toNat_mul]
        simp
        omega
      rw [Option.getD_some, UInt64.lt_iff_toNat_lt, hdouble]
      have hiff := limit_lt_age_iff_exactAge now m.timestamp
        (by omega : 2 * m.ttl.toNat < 2 ^ 63)
      cases hnan : isnan m.value <;> simp [hnan, ← hiff]

theorem advertisesByExactAge_iff (u : TPUnit V) (quantity : String) (now : Int64) :
    u.AdvertisesByExactAge quantity now ↔ isnan (u.storedTotal quantity) = true ∨
      u.advertisedtimestamp[quantity]? = some now.toUInt64 ∨ u.changed quantity = true ∨
        Told now (u.timestamp quantity) 300 := by
  have hiff := limit_lt_age_iff_exactAge now (u.timestamp quantity) (by decide : 300 < 2 ^ 63)
  have hage : measurementRepeatAfter < now.toUInt64 - u.timestamp quantity ↔
      300 < (now.toUInt64 - u.timestamp quantity).toNat := UInt64.lt_iff_toNat_lt
  rw [AdvertisesByExactAge, advertise, quantityIsUnknown, ← storedTotal]
  cases hknown : isnan (u.storedTotal quantity) with
  | true => simp
  | false =>
    by_cases hnow : u.advertisedtimestamp[quantity]? = some now.toUInt64
    · simp [hnow]
    · cases hchanged : u.changed quantity <;> simp [hnow, hage, ← hiff]

theorem waitsByExactAge_iff (u : TPUnit V) (quantity : String) (now : Int64) :
    u.WaitsByExactAge quantity now ↔ isnan (u.storedTotal quantity) = true ∨
      u.timestamp quantity = 0 ∨ Told now (u.timestamp quantity) 0 := by
  rw [WaitsByExactAge, timeToAdvertisement, quantityIsUnknown, ← storedTotal]
  by_cases hskip : isnan (u.storedTotal quantity) = true ∨ u.timestamp quantity = 0
  · rw [if_pos (by simpa [or_comm] using hskip), if_pos hskip]
    exact iff_of_true rfl (hskip.imp_right Or.inl)
  · rw [if_neg (by simpa [or_comm] using hskip), if_neg hskip, ← or_assoc, or_iff_right hskip]
    generalize u.timestamp quantity = time
    have hage : measurementRepeatAfter < now.toUInt64 - time ↔
        300 < (now.toUInt64 - time).toNat := UInt64.lt_iff_toNat_lt
    have hleft : ¬ measurementRepeatAfter < now.toUInt64 - time →
        (measurementRepeatAfter - (now.toUInt64 - time)).toNat =
          300 - (now.toUInt64 - time).toNat := fun hle =>
      UInt64.toNat_sub_of_le _ _ (UInt64.le_iff_toNat_le.mpr (not_lt.mp (mt hage.mpr hle)))
    have hexact := exactAge_eq_or now time
    rw [← limit_lt_age_iff_exactAge now time (by decide)]
    dsimp only
    split
    · rename_i hold
      rw [hage] at hold
      omega
    · rename_i hyoung
      rw [hleft hyoung]
      omega

end TPUnit

/-- **When the age tests are sound for times in the future.** For any list of metrics, unit,
quantity and reading of the clock, with times to live below `2 ^ 32`: each of the four functions
decides as by the exact age, `0` for a time in the future, exactly when the times that its decision
rests on are not in the future, or so far in it that their age wraps round to at most the limit.
-/
theorem decidesByExactAge_iff [Double V] (l : MetricList V) (u : TPUnit V) (quantity : String)
    (now : Int64)
    (httl : ∀ (topic : String) (m : MetricInfo V), l.knownMetrics[topic]? = some m →
      m.ttl.toNat < 2 ^ 32)
    (httl' : ∀ device m, u.measurementOf device quantity = some m → m.ttl.toNat < 2 ^ 32) :
    (l.PurgesByExactAge now ↔ ∀ (topic : String) (m : MetricInfo V),
      l.knownMetrics[topic]? = some m → Told now m.timestamp m.ttl.toNat) ∧
    (u.ReportsByExactAge quantity now ↔ isnan (u.storedTotal quantity) = false ∨
      ∀ device ∈ u.powerdevices, u.ReportTold quantity now device) ∧
    (u.AdvertisesByExactAge quantity now ↔ isnan (u.storedTotal quantity) = true ∨
      u.advertisedtimestamp[quantity]? = some now.toUInt64 ∨ u.changed quantity = true ∨
        Told now (u.timestamp quantity) 300) ∧
    (u.WaitsByExactAge quantity now ↔ isnan (u.storedTotal quantity) = true ∨
      u.timestamp quantity = 0 ∨ Told now (u.timestamp quantity) 0) :=
  ⟨l.purgesByExactAge_iff now httl, u.reportsByExactAge_iff quantity now httl',
    u.advertisesByExactAge_iff quantity now, u.waitsByExactAge_iff quantity now⟩

/-! ### A clock that is one second behind -/

/-- A measurement that is stamped at second 1001. -/
def aheadMetric : MetricInfo Exact where
  elementName := "epdu-1"
  source := "realpower.default"
  units := "W"
  value := some 100
  timestamp := 1001
  ttl := 60

/-- A list that holds `aheadMetric`. -/
def aheadList : MetricList Exact :=
  ({} : MetricList Exact).addMetricInfo aheadMetric

/-- A unit that holds `aheadMetric`. -/
def aheadUnit : TPUnit Exact :=
  ((TPUnit.ofName "rack-1").addPowerDevice "epdu-1").setMeasurement aheadMetric

theorem eq_of_mem_aheadList {topic : String} {m : MetricInfo Exact}
    (h : aheadList.knownMetrics[topic]? = some m) : m = aheadMetric := by
  rw [aheadList, MetricList.knownMetrics_addMetricInfo] at h
  split at h
  · exact (Option.some.inj h).symm
  · simp at h

theorem decidesByExactAge_iff_ahead :
    (aheadList.PurgesByExactAge 1000 ↔ ∀ (topic : String) (m : MetricInfo Exact),
      aheadList.knownMetrics[topic]? = some m → Told 1000 m.timestamp m.ttl.toNat) ∧
    (aheadUnit.ReportsByExactAge "realpower.default" 1000 ↔
      isnan (aheadUnit.storedTotal "realpower.default") = false ∨
        ∀ device ∈ aheadUnit.powerdevices,
          aheadUnit.ReportTold "realpower.default" 1000 device) ∧
    (aheadUnit.AdvertisesByExactAge "realpower.default" 1000 ↔
      isnan (aheadUnit.storedTotal "realpower.default") = true ∨
        aheadUnit.advertisedtimestamp["realpower.default"]? = some (1000 : Int64).toUInt64 ∨
          aheadUnit.changed "realpower.default" = true ∨
            Told 1000 (aheadUnit.timestamp "realpower.default") 300) ∧
    (aheadUnit.WaitsByExactAge "realpower.default" 1000 ↔
      isnan (aheadUnit.storedTotal "realpower.default") = true ∨
        aheadUnit.timestamp "realpower.default" = 0 ∨
          Told 1000 (aheadUnit.timestamp "realpower.default") 0) := by
  refine decidesByExactAge_iff aheadList aheadUnit "realpower.default" 1000 ?_ ?_
  · intro topic m hm
    rw [eq_of_mem_aheadList hm]
    decide
  · intro device m hm
    rw [aheadUnit, TPUnit.measurementOf_setMeasurement] at hm
    split at hm
    · rw [← Option.some.inj hm]
      decide
    · rw [TPUnit.measurementOf, TPUnit.addPowerDevice, TreeMap.getElem?_insert] at hm
      split at hm
      · simp at hm
      · simp [TPUnit.ofName] at hm

/-- At second 1000 the purge erases a metric that is stamped one second later, although it has a
minute to live. -/
theorem aheadMetric_erased :
    ¬ ∀ (l : MetricList Exact) (u : TPUnit Exact) (quantity : String) (now : Int64),
      (∀ (topic : String) (m : MetricInfo Exact), l.knownMetrics[topic]? = some m →
        m.ttl.toNat < 2 ^ 32) →
      (∀ device m, u.measurementOf device quantity = some m → m.ttl.toNat < 2 ^ 32) →
      l.PurgesByExactAge now ∧ u.ReportsByExactAge quantity now ∧
        u.AdvertisesByExactAge quantity now ∧ u.WaitsByExactAge quantity now := by
  intro h
  have hlist : ∀ (topic : String) (m : MetricInfo Exact),
      aheadList.knownMetrics[topic]? = some m → m.ttl.toNat < 2 ^ 32 := by
    intro topic m hm
    rw [eq_of_mem_aheadList hm]
    decide
  have hmem : aheadList.knownMetrics[aheadMetric.generateTopic]? = some aheadMetric := by
    rw [aheadList, MetricList.knownMetrics_addMetricInfo, if_pos rfl]
  have hpurge := (h aheadList (TPUnit.ofName "rack-1") "realpower.default" 1000 hlist
    (by simp [TPUnit.measurementOf, TPUnit.ofName])).1 _ _ hmem
  rw [MetricList.knownMetrics_removeOldMetrics, hmem] at hpurge
  exact absurd (hpurge.mp (by decide)) (by decide)

end MetricTPower
