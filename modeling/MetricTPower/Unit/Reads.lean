import MetricTPower.Unit.PhaseMix

/-!
# What a calculation reads

A calculation need not read all measurements of a unit. It reads the quantity of each device it
reaches; `realpowerDefault` goes on to the phases of a device without the quantity, until one is
missing; `realpowerOutput` asks the first device for the third phase and, without it, for the second
one, and each later device for the phase that its test for mixed phases compares. A device is
reached when no earlier one makes the loop throw. Where no value that is read is expired, a purge
makes no difference to the outcome (`calculation_dropOldMetricInfos`).

## Main definitions

* `TPUnit.Reads`: the measurements that a calculation reads.
* `TPUnit.heldValue`, `TPUnit.countedValues`: the values that a unit holds for a device, and those
  that count for a total.

## Main results

* `TPUnit.calculation_counts`: a total is made of all the values that the unit holds.
* `TPUnit.calculation_dropOldMetricInfos`: when the purge makes no difference.
-/

open Std (TreeMap)

namespace MetricTPower

open Double

variable {V : Type} [Double V]

namespace TPUnit

/-! ### The reads of a device -/

/-- The output phases that the inner loop of `realpowerDefault` reads: up to the first that is
missing. -/
def phaseReads (it : PowerDevice V) : List ℕ → List String
  | [] => []
  | phase :: phases =>
    outputPhase phase :: if isMissing (outputPhase phase) it then [] else phaseReads it phases

/-- The quantities that `realpowerDefault` reads of a device. -/
def defaultReads (quantity : String) (it : PowerDevice V) : List String :=
  quantity :: if isMissing quantity it then phaseReads it [1, 2, 3] else []

/-- The quantities that `realpowerOutput` reads of a device when it comes with a number of
phases. -/
def outputReads (quantity : String) (phases : ℕ) (it : PowerDevice V) : List String :=
  quantity ::
    if isMissing quantity it then []
    else
      match phases with
      | 0 =>
        "realpower.output.L3" ::
          if isMissing "realpower.output.L3" it then ["realpower.output.L2"] else []
      | 1 => ["realpower.output.L2"]
      | _ => ["realpower.output.L3"]

/-- The calculation of a quantity reads a measurement of a device: the loop of its method reaches
the device, and then reads the measurement. -/
def Reads (u : TPUnit V) (quantity device q : String) : Prop :=
  ∃ before measurements after,
    u.powerdevices.toList = before ++ (device, measurements) :: after ∧
      match calculations quantity with
      | .realpowerUndefined =>
        (before.foldlM (addValue quantity) zero).isOk = true ∧ q = quantity
      | .realpowerDefault =>
        (before.foldlM (addDefault quantity) zero).isOk = true ∧
          q ∈ defaultReads quantity (device, measurements)
      | .realpowerOutputL1 | .realpowerOutputL2 | .realpowerOutputL3 =>
        ∃ s, before.foldlM (addOutput quantity) ⟨zero, 0, 0⟩ = .ok s ∧
          q ∈ outputReads quantity s.phases (device, measurements)

/-! ### Lists that read alike -/

/-- A list of measurements reads like that of a device for a quantity: as the same value, or as a
missing one. -/
def Alike (q : String) (l : MetricList V) (it : PowerDevice V) : Prop :=
  getMetricValue l q it.1 = getMetricValue it.2 q it.1 ∨
    isMissing q (it.1, l) = true ∧ isMissing q it = true

variable {u : TPUnit V} {quantity q : String} {now : Int64} {it : PowerDevice V} {l : MetricList V}

theorem Alike.isMissing_eq (h : Alike q l it) : isMissing q (it.1, l) = isMissing q it := by
  rcases h with hvalue | ⟨hnew, hold⟩
  · rw [isMissing, isMissing, hvalue]
  · rw [hnew, hold]

theorem Alike.addValue_eq (h : Alike q l it) (sum : V) :
    addValue q sum (it.1, l) = addValue q sum it := by
  rcases h with hvalue | ⟨hnew, hold⟩
  · rw [addValue, addValue, hvalue]
  · rw [addValue_of_missing sum hnew, addValue_of_missing sum hold]

/-- The inner loop over the phases goes alike when the phases it reads do. -/
theorem foldlM_addValue_phases_eq :
    ∀ (phases : List ℕ) (sum : V), (∀ q ∈ phaseReads it phases, Alike q l it) →
      phases.foldlM (fun sum phase => addValue (outputPhase phase) sum (it.1, l)) sum =
        phases.foldlM (fun sum phase => addValue (outputPhase phase) sum it) sum
  | [], _, _ => rfl
  | phase :: phases, sum, h => by
    have hphase : Alike (outputPhase phase) l it := h _ List.mem_cons_self
    rw [List.foldlM_cons, List.foldlM_cons, hphase.addValue_eq]
    by_cases hmissing : isMissing (outputPhase phase) it = true
    · rw [addValue_of_missing sum hmissing]
      rfl
    · have hpresent : isMissing (outputPhase phase) it = false := by simpa using hmissing
      rw [addValue_of_present sum hpresent]
      refine foldlM_addValue_phases_eq phases _ fun q hq => h q ?_
      rw [phaseReads, if_neg hmissing]
      exact List.mem_cons_of_mem _ hq

theorem addDefault_eq_of_alike (h : ∀ q ∈ defaultReads quantity it, Alike q l it) (sum : V) :
    addDefault quantity sum (it.1, l) = addDefault quantity sum it := by
  have hquantity : Alike quantity l it := h quantity List.mem_cons_self
  have hsame := hquantity.isMissing_eq
  rw [isMissing] at hsame
  rw [addDefault, addDefault, hsame, ← isMissing]
  by_cases hmissing : isMissing quantity it = true
  · rw [if_pos hmissing, if_pos hmissing]
    refine foldlM_addValue_phases_eq [1, 2, 3] sum fun q hq => h q ?_
    rw [defaultReads, if_pos hmissing]
    exact List.mem_cons_of_mem _ hq
  · rw [if_neg hmissing, if_neg hmissing, hquantity.resolve_right fun hnan => hmissing hnan.2]

theorem addOutput_eq_of_alike {s : OutputSum V}
    (h : ∀ q ∈ outputReads quantity s.phases it, Alike q l it) :
    addOutput quantity s (it.1, l) = addOutput quantity s it := by
  obtain ⟨sum, devCnt, phases⟩ := s
  have hquantity : Alike quantity l it := h quantity List.mem_cons_self
  by_cases hmissing : isMissing quantity it = true
  · rw [addOutput, addOutput, hquantity.addValue_eq, addValue_of_missing sum hmissing]
    rfl
  · simp only [outputReads, if_neg hmissing] at h
    rw [addOutput, addOutput, hquantity.addValue_eq]
    rcases phases with _ | _ | phases
    · -- the first device chooses the number of phases
      have hL3 : Alike "realpower.output.L3" l it := h _ (by simp)
      have hchoose : choosePhases (it.1, l) = choosePhases it := by
        rw [choosePhases, choosePhases, hL3.isMissing_eq]
        by_cases hmissing3 : isMissing "realpower.output.L3" it = true
        · have hL2 : Alike "realpower.output.L2" l it := h _ (by simp [hmissing3])
          rw [hL2.isMissing_eq]
        · rw [if_neg hmissing3, if_neg hmissing3]
      simp only [if_true, hchoose]
    · have hL2 : Alike "realpower.output.L2" l it := h _ (by simp)
      have hmixed : mixedPhaseOutput 1 (it.1, l) = mixedPhaseOutput 1 it := by
        simp only [mixedPhaseOutput, hL2.isMissing_eq]
      simp [hmixed]
    · have hL3 : Alike "realpower.output.L3" l it := h _ (by simp)
      have hmixed : mixedPhaseOutput (phases + 2) (it.1, l) = mixedPhaseOutput (phases + 2) it := by
        cases phases <;> simp only [mixedPhaseOutput, hL3.isMissing_eq]
      simp [hmixed]

/-! ### The purge -/

/-- A quantity reads as before the purge when the unit holds no expired value of it. -/
theorem alike_removeOldMetrics (hit : it ∈ u.powerdevices.toList)
    (hfresh : ∀ m, u.measurementOf it.1 q = some m → isnan m.value = false →
      m.expired now = false) :
    Alike q (it.2.removeOldMetrics now) it := by
  rw [measurementOf_of_getElem? (getElem?_of_mem_toList hit)] at hfresh
  rw [Alike, isMissing, isMissing, getMetricValue, getMetricValue, MetricList.find_eq,
    MetricList.find_eq, MetricList.knownMetrics_removeOldMetrics]
  cases hm : it.2.knownMetrics[topicOf q it.1]? with
  | none => exact Or.inl rfl
  | some m =>
    rw [Option.filter_some]
    cases hexpired : m.expired now with
    | false => exact Or.inl rfl
    | true =>
      refine Or.inr ⟨isnan_nan, ?_⟩
      have hvalue : isnan m.value ≠ false := fun h =>
        Bool.false_ne_true ((hfresh m hm h).symm.trans hexpired)
      simpa using hvalue

omit [Double V] in
/-- A loop over the devices after a purge, when its body does not see the purge at the devices it
reaches. -/
theorem foldlM_dropOldMetricInfos {β : Type} (u : TPUnit V) (now : Int64)
    (f : β → PowerDevice V → Except String β) (b : β)
    (hf : ∀ before it after b', u.powerdevices.toList = before ++ it :: after →
      before.foldlM f b = .ok b' → f b' (it.1, it.2.removeOldMetrics now) = f b' it) :
    (u.dropOldMetricInfos fun _ => now).powerdevices.toList.foldlM f b =
      u.powerdevices.toList.foldlM f b := by
  have hlist : (u.dropOldMetricInfos fun _ => now).powerdevices.toList =
      u.powerdevices.toList.map fun it => (it.1, it.2.removeOldMetrics now) := TreeMap.toList_map
  rw [hlist]
  exact Loops.foldlM_map_congr _ b hf

/-- **The purge makes no difference** to the calculation of a quantity, be it its sum or its
exception, when no value that the calculation reads is expired. -/
theorem calculation_dropOldMetricInfos (u : TPUnit V) (quantity : String) (now : Int64)
    (hfresh : ∀ device q, u.Reads quantity device q → ∀ m, u.measurementOf device q = some m →
      isnan m.value = false → m.expired now = false) :
    (u.dropOldMetricInfos fun _ => now).calculation quantity now = u.calculation quantity now := by
  have halike : ∀ before it after, u.powerdevices.toList = before ++ it :: after →
      ∀ q, u.Reads quantity it.1 q → Alike q (it.2.removeOldMetrics now) it :=
    fun before it after hsplit q hq => alike_removeOldMetrics
      (hsplit ▸ List.mem_append_right before List.mem_cons_self) (hfresh it.1 q hq)
  -- the three output phases have one method
  have houtput : (∀ before it after s q, u.powerdevices.toList = before ++ it :: after →
      before.foldlM (addOutput quantity) ⟨zero, 0, 0⟩ = .ok s →
        q ∈ outputReads quantity s.phases it → u.Reads quantity it.1 q) →
      (u.dropOldMetricInfos fun _ => now).realpowerOutput quantity now =
        u.realpowerOutput quantity now := by
    intro hreads
    have hbody : ∀ before it after (s : OutputSum V),
        u.powerdevices.toList = before ++ it :: after →
        before.foldlM (addOutput quantity) ⟨zero, 0, 0⟩ = .ok s →
          addOutput quantity s (it.1, it.2.removeOldMetrics now) = addOutput quantity s it := by
      intro before it after s hsplit hreached
      refine addOutput_eq_of_alike fun q hq => ?_
      exact halike before it after hsplit q (hreads before it after s q hsplit hreached hq)
    rw [realpowerOutput, foldlM_dropOldMetricInfos u now (addOutput quantity) _ hbody]
    rfl
  unfold calculation
  cases hmethod : calculations quantity
  case realpowerUndefined =>
    have hbody : ∀ before it after s, u.powerdevices.toList = before ++ it :: after →
        before.foldlM (addValue quantity) zero = .ok s →
          addValue quantity s (it.1, it.2.removeOldMetrics now) = addValue quantity s it := by
      intro before it after s hsplit hreached
      refine Alike.addValue_eq (halike before it after hsplit quantity ?_) s
      exact ⟨before, it.2, after, hsplit, by rw [hmethod, hreached]; exact ⟨rfl, rfl⟩⟩
    simp only [simpleSummarize]
    rw [foldlM_dropOldMetricInfos u now (addValue quantity) _ hbody]
    rfl
  case realpowerDefault =>
    have hbody : ∀ before it after s, u.powerdevices.toList = before ++ it :: after →
        before.foldlM (addDefault quantity) zero = .ok s →
          addDefault quantity s (it.1, it.2.removeOldMetrics now) = addDefault quantity s it := by
      intro before it after s hsplit hreached
      refine addDefault_eq_of_alike (fun q hq => halike before it after hsplit q ?_) s
      exact ⟨before, it.2, after, hsplit, by rw [hmethod, hreached]; exact ⟨rfl, hq⟩⟩
    simp only [realpowerDefault]
    rw [foldlM_dropOldMetricInfos u now (addDefault quantity) _ hbody]
    rfl
  all_goals
    exact houtput fun before it after s q hsplit hreached hq =>
      ⟨before, it.2, after, hsplit, by rw [hmethod]; exact ⟨s, hreached, hq⟩⟩

/-! ### The values that count -/

variable (u) in
/-- The value of a quantity that a unit holds for a device, `NaN` when it holds none. -/
def heldValue (device quantity : String) : V :=
  ((u.measurementOf device quantity).map MetricInfo.value).getD nan

variable (u) in
/-- The values of a device that count for the total of a quantity: the held value of the quantity
or, for `realpower.default` without one, those of the phases. -/
def countedValues (quantity device : String) : List V :=
  if quantity = "realpower.default" ∧ isnan (u.heldValue device quantity) = true then
    [1, 2, 3].map fun phase => u.heldValue device (outputPhase phase)
  else [u.heldValue device quantity]

variable (u quantity now) in
/-- The calculation of a quantity counts all that the unit holds, and nothing else: it completes
when the held values of the devices meet its needs, and its total is then the sum of all that
count. -/
def CountsHeld : Prop :=
  ((u.calculation quantity now).isOk = true ↔ u.Calculable quantity) ∧
    ∀ r, u.calculation quantity now = .ok r →
      r.value = total (u.powerdevices.keys.flatMap (u.countedValues quantity))

theorem getMetricValue_eq_heldValue (hit : it ∈ u.powerdevices.toList) :
    getMetricValue it.2 quantity it.1 = u.heldValue it.1 quantity := by
  rw [getMetricValue, MetricList.find_eq, heldValue,
    measurementOf_of_getElem? (getElem?_of_mem_toList hit)]

theorem defaultSummands_eq_countedValues (hit : it ∈ u.powerdevices.toList) :
    defaultSummands "realpower.default" it = u.countedValues "realpower.default" it.1 := by
  simp only [defaultSummands, countedValues, isMissing, getMetricValue_eq_heldValue hit, true_and]

theorem flatMap_defaultSummands :
    u.powerdevices.toList.flatMap (defaultSummands "realpower.default") =
      u.powerdevices.keys.flatMap (u.countedValues "realpower.default") := by
  rw [← TreeMap.map_fst_toList_eq_keys, List.flatMap_map]
  exact List.flatMap_congr fun it hit => defaultSummands_eq_countedValues hit

theorem map_getMetricValue_eq_flatMap (h : quantity ≠ "realpower.default") :
    (u.powerdevices.toList.map fun it => getMetricValue it.2 quantity it.1) =
      u.powerdevices.keys.flatMap (u.countedValues quantity) := by
  rw [← TreeMap.map_fst_toList_eq_keys, List.flatMap_map, List.map_eq_flatMap]
  refine List.flatMap_congr fun it hit => ?_
  rw [countedValues, if_neg fun hand => h hand.1, getMetricValue_eq_heldValue hit]

/-- **A total is made of all that the unit holds.** -/
theorem countsHeld (u : TPUnit V) (quantity : String) (now : Int64)
    (hdevices : ∃ d, d ∈ u.powerdevices) : u.CountsHeld quantity now := by
  refine ⟨u.calculation_isOk_iff quantity now, fun r hr => ?_⟩
  by_cases hquantity : quantity = "realpower.default"
  · subst hquantity
    have hneeds := (u.realpowerDefault_isOk_iff "realpower.default" now).mp (by
      change (u.calculation "realpower.default" now).isOk = true
      rw [hr]
      rfl)
    have hcalc := u.realpowerDefault_eq_ok "realpower.default" now hneeds
    rw [flatMap_defaultSummands] at hcalc
    obtain rfl := Except.ok.inj (hr.symm.trans hcalc)
    rfl
  · rw [← map_getMetricValue_eq_flatMap hquantity]
    have hmethod : calculations quantity ≠ .realpowerDefault := by
      rw [calculations, if_neg hquantity]
      split_ifs <;> simp
    rw [calculation] at hr
    cases hcase : calculations quantity <;> rw [hcase] at hr
    case realpowerDefault => exact absurd hcase hmethod
    case realpowerUndefined =>
      have hsum : u.simpleSummarize quantity now = .ok r := hr
      have hneeds := (u.simpleSummarize_isOk_iff quantity now).mp (by rw [hsum]; rfl)
      have hcalc := u.simpleSummarize_eq_ok quantity now hneeds
      obtain rfl := Except.ok.inj (hsum.symm.trans hcalc)
      rfl
    all_goals exact value_of_realpowerOutput hdevices hr

end TPUnit

end MetricTPower
