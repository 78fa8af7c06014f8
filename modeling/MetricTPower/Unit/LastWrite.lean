import MetricTPower.Unit.Runs
import Mathlib.Data.List.Induction
import Mathlib.Data.List.Sort

/-!
# The measurements of a unit as a table of last writes

A unit keeps one list of measurements for each device, keyed by topics that writer and reader build
on their own, and erases entries while it goes through a list. All the same it is a table by device
and quantity: what it holds for a device and a quantity is the metric of the latest call of
`setMeasurement` for the two, provided the device was there by then and has not been added again,
and no purge since has found the metric expired (`LatestWrite`). Other metrics have no influence.

## Main definitions

* `TPUnit.Spares`: a call that leaves a measurement of a device in place.
* `TPUnit.LatestWrite`: the latest write for a device and a quantity, still in place.
* `TPUnit.Method.writesOther`: a write for another device or another quantity.

## Main results

* `TPUnit.measurementOf_callAll`: a unit holds exactly the latest writes.
* `getMetricValue_callAll`: what `getMetricValue` reads after any calls.
-/

open Std (TreeMap)

namespace MetricTPower

open Double

variable {V : Type} [Double V]

namespace TPUnit

/-! ### Latest writes -/

omit [Double V] in
/-- The call leaves a measurement of a device in place: the device is not added again, no
measurement of the same quantity comes in for it, and a purge does not find it expired at the
reading of the clock for the device. -/
def Spares (u : TPUnit V) (device : String) (m : MetricInfo V) : Method V → Prop
  | .addPowerDevice d => d ≠ device
  | .setMeasurement M => ¬ (M.elementName = device ∧ M.source = m.source)
  | .dropOldMetricInfos clock => m.expired (clock (u.powerdevices.keys.idxOf device)) = false
  | .calculate _ _ => True
  | .advertised _ _ _ => True

/-- The metric is that of a call of `setMeasurement` for the device and the quantity, after the
device was added, and all later calls spare it. -/
def LatestWrite (u : TPUnit V) (methods : List (Method V)) (device quantity : String)
    (m : MetricInfo V) : Prop :=
  ∃ before after, methods = before ++ .setMeasurement m :: after ∧
    m.elementName = device ∧ m.source = quantity ∧ .addPowerDevice device ∈ before ∧
    ∀ after₁ c after₂, after = after₁ ++ c :: after₂ →
      (u.callAll (before ++ .setMeasurement m :: after₁)).Spares device m c

section LatestWrite

variable {u : TPUnit V} {methods : List (Method V)} {device quantity : String} {m : MetricInfo V}

theorem LatestWrite.source_eq (h : u.LatestWrite methods device quantity m) :
    m.source = quantity := by
  obtain ⟨before, after, -, -, hsource, -⟩ := h
  exact hsource

theorem LatestWrite.addPowerDevice_mem (h : u.LatestWrite methods device quantity m) :
    .addPowerDevice device ∈ methods := by
  obtain ⟨before, after, rfl, -, -, hadded, -⟩ := h
  exact List.mem_append_left _ hadded

/-- One more call either is the latest write, or spares it. -/
theorem latestWrite_concat {c : Method V} :
    u.LatestWrite (methods ++ [c]) device quantity m ↔
      (c = .setMeasurement m ∧ m.elementName = device ∧ m.source = quantity ∧
        .addPowerDevice device ∈ methods) ∨
      (u.LatestWrite methods device quantity m ∧ (u.callAll methods).Spares device m c) := by
  constructor
  · rintro ⟨before, after, hsplit, helement, hsource, hadded, hspares⟩
    rcases List.eq_nil_or_concat after with rfl | ⟨after', c', rfl⟩
    · obtain ⟨rfl, hc⟩ := List.append_inj' hsplit rfl
      exact Or.inl ⟨List.singleton_inj.mp hc, helement, hsource, hadded⟩
    · rw [List.concat_eq_append, ← List.cons_append, ← List.append_assoc] at hsplit
      obtain ⟨rfl, hc⟩ := List.append_inj' hsplit rfl
      obtain rfl := List.singleton_inj.mp hc
      refine Or.inr ⟨⟨before, after', rfl, helement, hsource, hadded, ?_⟩,
        hspares after' c [] List.concat_eq_append⟩
      intro after₁ d after₂ hafter
      exact hspares after₁ d (after₂ ++ [c]) (by rw [hafter]; simp)
  · rintro (⟨rfl, helement, hsource, hadded⟩ |
      ⟨⟨before, after, rfl, helement, hsource, hadded, hspares⟩, hc⟩)
    · exact ⟨methods, [], rfl, helement, hsource, hadded, by simp⟩
    · refine ⟨before, after ++ [c], by simp, helement, hsource, hadded, ?_⟩
      intro after₁ d after₂ hafter
      rcases List.eq_nil_or_concat after₂ with rfl | ⟨after₂', d', rfl⟩
      · obtain ⟨rfl, hd⟩ := List.append_inj' hafter rfl
        obtain rfl := List.singleton_inj.mp hd
        exact hc
      · rw [List.concat_eq_append, ← List.cons_append, ← List.append_assoc] at hafter
        exact hspares after₁ d after₂' (List.append_inj' hafter rfl).1

/-- A write that reaches the device and the quantity is the latest one. -/
theorem latestWrite_concat_of_reaches {M : MetricInfo V} (helement : M.elementName = device)
    (hsource : M.source = quantity) (hadded : .addPowerDevice device ∈ methods) :
    u.LatestWrite (methods ++ [.setMeasurement M]) device quantity m ↔ M = m := by
  rw [latestWrite_concat, Method.setMeasurement.injEq]
  constructor
  · rintro (⟨hM, -⟩ | ⟨hlatest, hspares⟩)
    · exact hM
    · exact absurd ⟨helement, hsource.trans hlatest.source_eq.symm⟩ hspares
  · rintro rfl
    exact Or.inl ⟨rfl, helement, hsource, hadded⟩

/-- A write that does not reach the device and the quantity spares the latest one. -/
theorem latestWrite_concat_of_not_reaches {M : MetricInfo V}
    (h : ¬ (M.elementName = device ∧ M.source = quantity ∧ .addPowerDevice device ∈ methods)) :
    u.LatestWrite (methods ++ [.setMeasurement M]) device quantity m ↔
      u.LatestWrite methods device quantity m := by
  rw [latestWrite_concat, Method.setMeasurement.injEq]
  constructor
  · rintro (⟨rfl, hreaches⟩ | ⟨hlatest, -⟩)
    · exact absurd hreaches h
    · exact hlatest
  · intro hlatest
    refine Or.inr ⟨hlatest, fun hsame => h ⟨hsame.1, ?_, hlatest.addPowerDevice_mem⟩⟩
    exact hsame.2.trans hlatest.source_eq

end LatestWrite

/-! ### What the calls do to a measurement -/

omit [Double V] in
theorem measurementOf_addPowerDevice (u : TPUnit V) (d device quantity : String) :
    (u.addPowerDevice d).measurementOf device quantity =
      if d = device then none else u.measurementOf device quantity := by
  rw [measurementOf, addPowerDevice, TreeMap.getElem?_insert, measurementOf]
  simp only [Std.LawfulEqOrd.compare_eq_iff_eq]
  split
  · simp
  · rfl

/-- **A unit holds exactly the latest writes.** -/
theorem measurementOf_callAll (name : String) (methods : List (Method V))
    (device quantity : String) (m : MetricInfo V) :
    ((ofName name).callAll methods).measurementOf device quantity = some m ↔
      (ofName name).LatestWrite methods device quantity m := by
  induction methods using List.reverseRecOn with
  | nil =>
    refine iff_of_false (by simp [callAll, measurementOf, ofName]) ?_
    rintro ⟨before, after, hsplit, -⟩
    simp at hsplit
  | append_singleton methods c ih =>
    rw [callAll_concat]
    cases c with
    | addPowerDevice d =>
      rw [call, measurementOf_addPowerDevice, latestWrite_concat]
      by_cases hd : d = device <;> simp [hd, Spares, ih]
    | setMeasurement M =>
      have hadded : device ∈ ((ofName name).callAll methods).powerdevices ↔
          .addPowerDevice device ∈ methods := by
        rw [mem_powerdevices_callAll, or_iff_left]
        simp [ofName]
      rw [call, measurementOf_setMeasurement]
      split
      · rename_i hreaches
        obtain ⟨helement, hsource, hmem⟩ := hreaches
        rw [latestWrite_concat_of_reaches helement hsource (hadded.mp hmem), Option.some.injEq]
      · rename_i hother
        rw [latestWrite_concat_of_not_reaches (by rwa [← hadded]), ih]
    | dropOldMetricInfos clock =>
      rw [call, measurementOf_dropOldMetricInfos, Option.filter_eq_some_iff, latestWrite_concat, ih]
      simp [Spares]
    | calculate q now =>
      rw [call, measurementOf_congr (powerdevices_calculate _ q now), latestWrite_concat, ih]
      simp [Spares]
    | advertised q now now' =>
      rw [call, measurementOf_congr (powerdevices_advertised _ q now now'), latestWrite_concat, ih]
      simp [Spares]

/-! ### Other writes -/

omit [Double V] in
/-- A write for another device or another quantity. -/
def Method.writesOther (device quantity : String) : Method V → Bool
  | .setMeasurement M => !(M.elementName = device && M.source = quantity)
  | _ => false

omit [Double V] in
/-- The order in which the clock is read depends on the devices only. -/
theorem keys_powerdevices_congr {u v : TPUnit V}
    (h : ∀ d, d ∈ u.powerdevices ↔ d ∈ v.powerdevices) :
    u.powerdevices.keys = v.powerdevices.keys := by
  have hirrefl : Std.Irrefl fun a b : String => compare a b = .lt := ⟨fun a ha => by simp at ha⟩
  have hantisymm : Std.Antisymm fun a b : String => compare a b = .lt :=
    ⟨fun a b hab hba => by rw [Std.OrientedOrd.eq_swap, hba] at hab; cases hab⟩
  refine List.Pairwise.eq_of_mem_iff TreeMap.ordered_keys TreeMap.ordered_keys fun d => ?_
  rw [TreeMap.mem_keys, TreeMap.mem_keys, h]

/-- Leaving out the writes for other devices and quantities changes neither the devices nor the
measurement. -/
theorem measurementOf_callAll_filter (device quantity : String) :
    ∀ (methods : List (Method V)) (u v : TPUnit V),
      (∀ d, d ∈ u.powerdevices ↔ d ∈ v.powerdevices) →
      u.measurementOf device quantity = v.measurementOf device quantity →
      (u.callAll (methods.filter fun c => !c.writesOther device quantity)).measurementOf device
        quantity = (v.callAll methods).measurementOf device quantity
  | [], _, _, _, hsame => hsame
  | c :: methods, u, v, hdevices, hsame => by
    by_cases hc : c.writesOther device quantity = true
    · rw [List.filter_cons_of_neg (by simp [hc])]
      refine measurementOf_callAll_filter device quantity methods u (v.call c) ?_ ?_
      · intro d
        cases c with
        | setMeasurement M => rw [call, mem_powerdevices_setMeasurement, hdevices]
        | _ => cases hc
      · cases c with
        | setMeasurement M =>
          rw [call, measurementOf_setMeasurement, if_neg, hsame]
          rintro ⟨helement, hsource, -⟩
          simp [Method.writesOther, helement, hsource] at hc
        | _ => cases hc
    · rw [List.filter_cons_of_pos (by simp [hc])]
      refine measurementOf_callAll_filter device quantity methods (u.call c) (v.call c) ?_ ?_
      · exact fun d => by rw [mem_powerdevices_call, mem_powerdevices_call, hdevices]
      · cases c with
        | addPowerDevice d =>
          rw [call, call, measurementOf_addPowerDevice, measurementOf_addPowerDevice, hsame]
        | setMeasurement M =>
          rw [call, call, measurementOf_setMeasurement, measurementOf_setMeasurement, hsame]
          simp only [hdevices]
        | dropOldMetricInfos clock =>
          rw [call, call, measurementOf_dropOldMetricInfos, measurementOf_dropOldMetricInfos,
            hsame, keys_powerdevices_congr hdevices]
        | calculate q now =>
          rw [call, call, measurementOf_congr (powerdevices_calculate u q now),
            measurementOf_congr (powerdevices_calculate v q now), hsame]
        | advertised q now now' =>
          rw [call, call, measurementOf_congr (powerdevices_advertised u q now now'),
            measurementOf_congr (powerdevices_advertised v q now now'), hsame]

/-- Leaving out the writes for other devices and quantities leaves the devices. -/
theorem mem_powerdevices_callAll_filter (u : TPUnit V) (methods : List (Method V))
    (device quantity d : String) :
    d ∈ (u.callAll (methods.filter fun c => !c.writesOther device quantity)).powerdevices ↔
      d ∈ (u.callAll methods).powerdevices := by
  rw [mem_powerdevices_callAll, mem_powerdevices_callAll, List.mem_filter]
  simp [Method.writesOther]

/-- What `getMetricValue` reads of a device of the unit. -/
theorem getMetricValue_eq {u : TPUnit V} {device quantity : String} {measurements : MetricList V}
    (h : u.powerdevices[device]? = some measurements) :
    getMetricValue measurements quantity device =
      ((u.measurementOf device quantity).map MetricInfo.value).getD nan := by
  rw [getMetricValue, MetricList.find_eq, measurementOf_of_getElem? h]

end TPUnit

open TPUnit in
/-- **The measurements of a unit are a table of last writes by device and quantity.** After any
calls with any names, quantities, times and readings of the clock, `getMetricValue` on the list of
a device reads the value of the latest write for the device and the quantity that no purge has
erased since, and `NaN` when there is none; and it reads the same when all writes for other devices
and other quantities are left out. -/
theorem getMetricValue_callAll (name : String) (methods : List (Method V))
    (device quantity : String) (measurements : MetricList V)
    (hdevice : ((ofName name).callAll methods).powerdevices[device]? = some measurements) :
    (∀ m, (ofName name).LatestWrite methods device quantity m →
      getMetricValue measurements quantity device = m.value) ∧
    ((∀ m, ¬ (ofName name).LatestWrite methods device quantity m) →
      getMetricValue measurements quantity device = nan) ∧
    ∃ measurements', ((ofName name).callAll (methods.filter fun c =>
        !c.writesOther device quantity)).powerdevices[device]? = some measurements' ∧
      getMetricValue measurements' quantity device =
        getMetricValue measurements quantity device := by
  rw [getMetricValue_eq hdevice]
  refine ⟨fun m hlatest => ?_, fun hnone => ?_, ?_⟩
  · rw [(measurementOf_callAll name methods device quantity m).mpr hlatest]
    rfl
  · cases hm : ((ofName name).callAll methods).measurementOf device quantity with
    | none => rfl
    | some m =>
      exact absurd ((measurementOf_callAll name methods device quantity m).mp hm) (hnone m)
  · have hmem : device ∈ ((ofName name).callAll (methods.filter fun c =>
        !c.writesOther device quantity)).powerdevices := by
      rw [mem_powerdevices_callAll_filter]
      exact TreeMap.mem_iff_isSome_getElem?.mpr (Option.isSome_of_eq_some hdevice)
    obtain ⟨measurements', hdevice'⟩ :=
      Option.isSome_iff_exists.mp (TreeMap.mem_iff_isSome_getElem?.mp hmem)
    refine ⟨measurements', hdevice', ?_⟩
    rw [getMetricValue_eq hdevice', measurementOf_callAll_filter device quantity methods _ _
      (fun _ => Iff.rfl) rfl]

open TPUnit in
/-- A metric that a later one replaces, one that a purge finds expired, and one of a device that the
unit does not have. -/
def replacedWrites : List (Method Exact) :=
  let M : MetricInfo Exact :=
    { elementName := "epdu-1", source := "realpower.default", units := "W", value := some 100
      timestamp := 1000, ttl := 60 }
  [.addPowerDevice "epdu-1", .setMeasurement M,
    .setMeasurement { M with source := "realpower.output.L1", timestamp := 900 },
    .setMeasurement { M with elementName := "epdu-9", value := some 7 },
    .setMeasurement { M with value := some 120, timestamp := 1010 },
    .dropOldMetricInfos fun _ => 1020]

open TPUnit in
theorem getMetricValue_callAll_replacedWrites :
    ∃ measurements,
      ((ofName "rack-1").callAll replacedWrites).powerdevices["epdu-1"]? = some measurements ∧
      getMetricValue measurements "realpower.default" "epdu-1" = some 120 ∧
      getMetricValue measurements "realpower.output.L1" "epdu-1" = nan ∧
      (∀ m, (ofName "rack-1").LatestWrite replacedWrites "epdu-1" "realpower.default" m →
        getMetricValue measurements "realpower.default" "epdu-1" = m.value) ∧
      ((∀ m, ¬ (ofName "rack-1").LatestWrite replacedWrites "epdu-1" "realpower.default" m) →
        getMetricValue measurements "realpower.default" "epdu-1" = nan) ∧
      ∃ measurements', ((ofName "rack-1").callAll (replacedWrites.filter fun c =>
          !c.writesOther "epdu-1" "realpower.default")).powerdevices["epdu-1"]? =
            some measurements' ∧
        getMetricValue measurements' "realpower.default" "epdu-1" =
          getMetricValue measurements "realpower.default" "epdu-1" := by
  have hdevice : (((ofName "rack-1").callAll replacedWrites).powerdevices["epdu-1"]?).isSome =
      true := by
    decide +kernel
  have hvalues : ∀ h : (((ofName "rack-1").callAll replacedWrites).powerdevices["epdu-1"]?).isSome =
      true,
      let measurements := (((ofName "rack-1").callAll replacedWrites).powerdevices["epdu-1"]?).get h
      getMetricValue measurements "realpower.default" "epdu-1" = some 120 ∧
        getMetricValue measurements "realpower.output.L1" "epdu-1" = nan := by
    decide +kernel
  exact ⟨_, (Option.some_get hdevice).symm, (hvalues hdevice).1, (hvalues hdevice).2,
    getMetricValue_callAll "rack-1" replacedWrites "epdu-1" "realpower.default" _
      (Option.some_get hdevice).symm⟩

end MetricTPower
