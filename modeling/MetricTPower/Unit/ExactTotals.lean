import MetricTPower.Unit.Calculation
import MetricTPower.Unit.Totals
import Mathlib.Tactic.NormNum

/-!
# Totals over exact numbers

`calculate` on exact numbers. The sum over the devices is exact whatever the order of the devices;
a device that lacks its measurement makes the loop throw, and the sums made so far are lost with it;
and the dead band compares the sum with the stored total and not with the previous sum, so that many
small changes do not add up to a drift. A calculation therefore either leaves the unit as it is, or
brings the total of its quantity into the dead band of the sum and touches nothing else
(`calculate_exact`).

## Main definitions

* `power`, `Complete`: the power of a device, and whether its values are enough for it.
* `powerOf`, `Delivers`: the same for a total that is not one of an output phase.
* `TPUnit.InDeadBand`: the stored total is known and close to a value.

## Main results

* `TPUnit.calculation_eq_sum`: the total of `realpower.default` over exact numbers.
* `TPUnit.calculate_exact`: what `calculate` does to a unit.
-/

open Std (TreeMap)

namespace MetricTPower

open Double TPUnit

/-! ### The power of a device -/

/-- The power of a device by its values: that of `realpower.default`, or else the sum of the
phases. -/
def power (value : String → Exact) : ℚ :=
  match value "realpower.default" with
  | some x => x
  | none => ([1, 2, 3].map fun phase => (value (outputPhase phase)).getD 0).sum

/-- The values of a device are enough for its power. -/
def Complete (value : String → Exact) : Prop :=
  (value "realpower.default").isSome = true ∨
    ∀ phase ∈ [1, 2, 3], (value (outputPhase phase)).isSome = true

namespace TPUnit

variable {u : TPUnit Exact} {device quantity : String} {now : Int64} {it : PowerDevice Exact}

/-- The value of a quantity that the unit holds for a device. -/
def valueOf (u : TPUnit Exact) (device quantity : String) : Exact :=
  (u.measurementOf device quantity).bind MetricInfo.value

theorem has_iff_isSome_valueOf :
    u.Has device quantity ↔ (u.valueOf device quantity).isSome = true := by
  rw [Has, valueOf]
  cases u.measurementOf device quantity with
  | none => simp
  | some m => simp [Exact.isnan_eq]

theorem getMetricValue_eq_valueOf (hit : it ∈ u.powerdevices.toList) :
    getMetricValue it.2 quantity it.1 = u.valueOf it.1 quantity := by
  rw [getMetricValue, MetricList.find_eq, valueOf,
    measurementOf_of_getElem? (getElem?_of_mem_toList hit)]
  cases it.2.knownMetrics[topicOf quantity it.1]? <;> rfl

theorem exists_defaultSummands (hit : it ∈ u.powerdevices.toList)
    (hcomplete : Complete (u.valueOf it.1)) :
    ∃ values : List ℚ, defaultSummands "realpower.default" it = values.map some ∧
      values.sum = power (u.valueOf it.1) := by
  rw [defaultSummands, isMissing, power]
  simp only [getMetricValue_eq_valueOf hit]
  cases hdefault : u.valueOf it.1 "realpower.default" with
  | some x => exact ⟨[x], by simp, by simp⟩
  | none =>
    have hphases := hcomplete.resolve_left (by simp [hdefault])
    refine ⟨_, ?_, rfl⟩
    rw [List.map_map, if_pos (by rfl)]
    refine List.map_congr_left fun phase hphase => ?_
    obtain ⟨x, hx⟩ := Option.isSome_iff_exists.mp (hphases phase hphase)
    rw [Function.comp_apply, hx, Option.getD_some]

theorem exists_flatMap_defaultSummands (l : List (PowerDevice Exact))
    (hl : ∀ it ∈ l, it ∈ u.powerdevices.toList)
    (hcomplete : ∀ device ∈ u.powerdevices, Complete (u.valueOf device)) :
    ∃ values : List ℚ, l.flatMap (defaultSummands "realpower.default") = values.map some ∧
      values.sum = (l.map fun it => power (u.valueOf it.1)).sum := by
  induction l with
  | nil => exact ⟨[], rfl, rfl⟩
  | cons it l ih =>
    have hit : it ∈ u.powerdevices.toList := hl it List.mem_cons_self
    obtain ⟨values, hvalues, hsum⟩ :=
      exists_defaultSummands hit (hcomplete it.1 (mem_powerdevices_of_mem_toList hit))
    obtain ⟨rest, hrest, hsum'⟩ := ih fun x hx => hl x (List.mem_cons_of_mem it hx)
    refine ⟨values ++ rest, ?_, ?_⟩
    · rw [List.flatMap_cons, hvalues, hrest, List.map_append]
    · rw [List.sum_append, List.map_cons, List.sum_cons, hsum, hsum']

/-- `realpower.default` can be calculated when the values of every device are enough. -/
theorem calculation_default_isOk_iff (u : TPUnit Exact) (now : Int64) :
    (u.calculation "realpower.default" now).isOk = true ↔
      ∀ device ∈ u.powerdevices, Complete (u.valueOf device) := by
  simp only [calculation_isOk_iff, Calculable, calculations, Complete, has_iff_isSome_valueOf]
  rfl

/-- **The total of `realpower.default`** over exact numbers is the sum of the powers of the
devices. -/
theorem calculation_eq_sum (u : TPUnit Exact) (now : Int64)
    (hcomplete : ∀ device ∈ u.powerdevices, Complete (u.valueOf device)) :
    u.calculation "realpower.default" now = .ok (u.result "realpower.default" now
      (some (u.powerdevices.keys.map fun device => power (u.valueOf device)).sum)) := by
  obtain ⟨values, hvalues, hsum⟩ :=
    exists_flatMap_defaultSummands u.powerdevices.toList (fun _ h => h) hcomplete
  have hneeds : ∀ device ∈ u.powerdevices, u.Has device "realpower.default" ∨
      ∀ phase ∈ [1, 2, 3], u.Has device (outputPhase phase) := by
    simp only [has_iff_isSome_valueOf]
    exact hcomplete
  have hmethod : u.calculation "realpower.default" now =
      u.realpowerDefault "realpower.default" now := rfl
  rw [hmethod, realpowerDefault_eq_ok u _ now hneeds, hvalues, Exact.total_map_some, hsum,
    ← TreeMap.map_fst_toList_eq_keys, List.map_map]
  rfl

end TPUnit

/-! ### The sum of a quantity -/

/-- What a device adds to the total of a quantity by its values: the value of the quantity, or else
the sum of the phases. -/
def powerOf (quantity : String) (value : String → Exact) : ℚ :=
  match value quantity with
  | some x => x
  | none => ([1, 2, 3].map fun phase => (value (outputPhase phase)).getD 0).sum

/-- The values of a device are enough for the total of a quantity: it has the quantity or, for
`realpower.default`, all phases. -/
def Delivers (quantity : String) (value : String → Exact) : Prop :=
  (value quantity).isSome = true ∨ (quantity = "realpower.default" ∧
    ∀ phase ∈ [1, 2, 3], (value (outputPhase phase)).isSome = true)

namespace TPUnit

variable {u : TPUnit Exact} {quantity : String} {now : Int64}

theorem delivers_default_iff {value : String → Exact} :
    Delivers "realpower.default" value ↔ Complete value := by
  rw [Delivers, Complete, and_iff_right rfl]

theorem delivers_iff_of_ne {value : String → Exact} (h : quantity ≠ "realpower.default") :
    Delivers quantity value ↔ (value quantity).isSome = true := by
  rw [Delivers, or_iff_left fun hq => h hq.1]

/-- The values in the loop over the devices, when all are known. -/
theorem map_getMetricValue (h : ∀ device ∈ u.powerdevices, u.Has device quantity) :
    u.powerdevices.toList.map (fun it => getMetricValue it.2 quantity it.1) =
      (u.powerdevices.keys.map fun device => powerOf quantity (u.valueOf device)).map some := by
  rw [← TreeMap.map_fst_toList_eq_keys, List.map_map, List.map_map]
  refine List.map_congr_left fun it hit => ?_
  have hknown := has_iff_isSome_valueOf.mp (h it.1 (mem_powerdevices_of_mem_toList hit))
  obtain ⟨x, hx⟩ := Option.isSome_iff_exists.mp hknown
  rw [getMetricValue_eq_valueOf hit, Function.comp_apply, Function.comp_apply, powerOf, hx]

/-- **The sum of a quantity** over exact numbers, for `realpower.default` and for a quantity without
a special method: it can be made exactly when every device delivers enough. -/
theorem calculation_of_delivers (u : TPUnit Exact) (quantity : String) (now : Int64)
    (hmethod : quantity = "realpower.default" ∨ calculations quantity = .realpowerUndefined) :
    ((u.calculation quantity now).isOk = true ↔
        ∀ device ∈ u.powerdevices, Delivers quantity (u.valueOf device)) ∧
      ((u.calculation quantity now).isOk = true → u.calculation quantity now =
        .ok (u.result quantity now (some
          (u.powerdevices.keys.map fun device => powerOf quantity (u.valueOf device)).sum))) := by
  rcases hmethod with rfl | hmethod
  · have hok := u.calculation_default_isOk_iff now
    simp only [delivers_default_iff]
    exact ⟨hok, fun h => u.calculation_eq_sum now (hok.mp h)⟩
  · have hne : quantity ≠ "realpower.default" := by
      rintro rfl
      cases hmethod
    have hok : (u.calculation quantity now).isOk = true ↔
        ∀ device ∈ u.powerdevices, u.Has device quantity := by
      rw [calculation_isOk_iff, Calculable, hmethod]
    refine ⟨hok.trans ?_, fun h => ?_⟩
    · simp only [delivers_iff_of_ne hne, has_iff_isSome_valueOf]
    · have hall := hok.mp h
      rw [calculation, hmethod]
      exact (u.simpleSummarize_eq_ok quantity now hall).trans
        (by rw [map_getMetricValue hall, Exact.total_map_some])

end TPUnit

/-! ### The dead band of a total -/

namespace TPUnit

variable {u : TPUnit Exact} {quantity : String} {now : Int64} {sum : ℚ}

/-- The stored total of a quantity is known and in the dead band of a value. -/
def InDeadBand (u : TPUnit Exact) (quantity : String) (sum : ℚ) : Prop :=
  ∃ x, u.storedTotal quantity = some x ∧ |x - sum| ≤ 1 / 100000

theorem replaces_some_iff : u.Replaces quantity (some sum) ↔ ¬ u.InDeadBand quantity sum := by
  rw [Replaces, InDeadBand]
  cases u.storedTotal quantity with
  | none => simp [Exact.isnan_eq]
  | some x => simp [Exact.exceeds_some]

/-- A calculation brings the total into the dead band of its sum, and an exception leaves it where
it was. -/
theorem inDeadBand_calculate_iff (hsum : (u.calculation quantity now).isOk = true →
      u.calculation quantity now = .ok (u.result quantity now (some sum))) :
    (u.calculate quantity now).InDeadBand quantity sum ↔
      (u.calculation quantity now).isOk = true ∨ u.InDeadBand quantity sum := by
  by_cases hok : (u.calculation quantity now).isOk = true
  · refine iff_of_true ?_ (Or.inl hok)
    by_cases hr : u.Replaces quantity (some sum)
    · exact ⟨sum, storedTotal_calculate_of_replaces (hsum hok) hr,
        by norm_num⟩
    · rw [InDeadBand, storedTotal_calculate_of_not_replaces (hsum hok) hr]
      exact not_not.mp (mt replaces_some_iff.mpr hr)
  · rw [calculate_of_not_isOk (by simpa using hok)]
    exact (or_iff_right hok).symm

/-! ### What `calculate` does -/

/-- **`calculate` is exact and atomic.** For `realpower.default` and for a quantity without a
special method, whatever the unit holds: when every device has the quantity or, for
`realpower.default`, all three output phases, then the stored total of the quantity is known
afterwards and within `0.00001` of the exact sum over the devices, and nothing but that total, its
changed mark and the time of its change is written. When some device lacks them, the unit stays as
it is. -/
theorem calculate_exact (u : TPUnit Exact) (quantity : String) (now : Int64)
    (hmethod : quantity = "realpower.default" ∨ calculations quantity = .realpowerUndefined) :
    ((∀ device ∈ u.powerdevices, Delivers quantity (u.valueOf device)) →
      (∃ x, (u.calculate quantity now).storedTotal quantity = some x ∧
        |x - (u.powerdevices.keys.map fun device => powerOf quantity (u.valueOf device)).sum| ≤
          1 / 100000) ∧
      OnlyTotal quantity u (u.calculate quantity now) ∧
      (u.calculate quantity now).advertisedtimestamp = u.advertisedtimestamp) ∧
    ((∃ device ∈ u.powerdevices, ¬ Delivers quantity (u.valueOf device)) →
      u.calculate quantity now = u) := by
  obtain ⟨hok, hsum⟩ := u.calculation_of_delivers quantity now hmethod
  constructor
  · intro hall
    exact ⟨(inDeadBand_calculate_iff hsum).mpr (Or.inl (hok.mpr hall)),
      u.onlyTotal_calculate quantity now, u.advertisedtimestamp_calculate quantity now⟩
  · rintro ⟨device, hdevice, hlacks⟩
    refine calculate_of_not_isOk (Bool.eq_false_iff.mpr fun h => ?_)
    exact hlacks (hok.mp h device hdevice)

/-- A unit with a device that has delivered 100 W. -/
def measuredUnit : TPUnit Exact :=
  ((TPUnit.ofName "rack-1").addPowerDevice "epdu-1").setMeasurement
    { elementName := "epdu-1", source := "realpower.default", units := "W", value := some 100,
      timestamp := 1000, ttl := 60 }

instance (quantity : String) (value : String → Exact) : Decidable (Delivers quantity value) :=
  inferInstanceAs (Decidable (_ ∨ (_ ∧ _)))

theorem calculate_exact_measured :
    (∃ x, (measuredUnit.calculate "realpower.default" 1000).storedTotal "realpower.default" =
        some x ∧
      |x - (measuredUnit.powerdevices.keys.map fun device =>
        powerOf "realpower.default" (measuredUnit.valueOf device)).sum| ≤ 1 / 100000) ∧
    OnlyTotal "realpower.default" measuredUnit
      (measuredUnit.calculate "realpower.default" 1000) ∧
    (measuredUnit.calculate "realpower.default" 1000).advertisedtimestamp =
      measuredUnit.advertisedtimestamp := by
  have hall : ∀ it ∈ measuredUnit.powerdevices.toList,
      Delivers "realpower.default" (measuredUnit.valueOf it.1) := by decide +kernel
  exact (calculate_exact measuredUnit "realpower.default" 1000 (Or.inl rfl)).1
    (forall_mem_toList_iff.mp hall)

end TPUnit

end MetricTPower
