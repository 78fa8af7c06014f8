import MetricTPower.Library.Loops
import MetricTPower.Unit.Store

/-!
# When a total can be calculated

The three methods of calculation are loops over the devices that throw at the first device
without the measurements it needs. `Calculable` says what the devices of a unit need for a
quantity, in terms of the measurements the unit holds, and `calculation_isOk_iff` that the
calculation completes exactly then. For `realpower.output.L1` to `L3` every device has to share
the number of phases of the first one, by the tests of `realpowerOutput` (`SharesPhases`).

## Main definitions

* `TPUnit.SharesPhases`, `TPUnit.Calculable`: what the calculation of a quantity needs.
* `TPUnit.defaultSummands`: what a device adds to `realpower.default`.

## Main results

* `TPUnit.calculation_isOk_iff`: the calculation completes if and only if its needs are met.
* `TPUnit.realpowerDefault_eq_ok`: the total that `realpowerDefault` calculates.
-/

open Std (TreeMap)

namespace MetricTPower

open Double

variable {V : Type} [Double V]

namespace TPUnit

/-! ### What a calculation needs -/

/-- What the test for mixed phases asks of a device once the first device has chosen: the third
phase when the first device has it, no third phase when that has two, no second phase when that has
one. -/
def SharesPhases (u : TPUnit V) (first device : String) : Prop :=
  (u.Has first "realpower.output.L3" → u.Has device "realpower.output.L3") ∧
  (¬ u.Has first "realpower.output.L3" → u.Has first "realpower.output.L2" →
    ¬ u.Has device "realpower.output.L3") ∧
  (¬ u.Has first "realpower.output.L3" → ¬ u.Has first "realpower.output.L2" →
    ¬ u.Has device "realpower.output.L2")

/-- Every device of the unit has what the calculation of a quantity needs of it. -/
def Calculable (u : TPUnit V) (quantity : String) : Prop :=
  match calculations quantity with
  | .realpowerDefault => ∀ device ∈ u.powerdevices,
      u.Has device quantity ∨ ∀ phase ∈ [1, 2, 3], u.Has device (outputPhase phase)
  | .realpowerOutputL1 | .realpowerOutputL2 | .realpowerOutputL3 => ∀ device ∈ u.powerdevices,
      u.Has device quantity ∧
        ∀ first, u.powerdevices.keys.head? = some first → u.SharesPhases first device
  | .realpowerUndefined => ∀ device ∈ u.powerdevices, u.Has device quantity

/-! ### One device -/

variable {u : TPUnit V} {quantity : String} {it first : PowerDevice V}

theorem addValue_of_present (sum : V) (h : isMissing quantity it = false) :
    addValue quantity sum it = .ok (add sum (getMetricValue it.2 quantity it.1)) := by
  rw [isMissing] at h
  simp [addValue, h]

theorem addValue_of_missing (sum : V) (h : isMissing quantity it = true) :
    addValue quantity sum it = .error (topicOf quantity it.1 ++ " is missing") := by
  rw [isMissing] at h
  simp [addValue, h]

/-- The values that a device adds to `realpower.default`: its own, or else its phases. -/
def defaultSummands (quantity : String) (it : PowerDevice V) : List V :=
  if isMissing quantity it then
    [1, 2, 3].map fun phase => getMetricValue it.2 (outputPhase phase) it.1
  else [getMetricValue it.2 quantity it.1]

/-- The phases of a device are added one by one, unless one is missing. -/
theorem addDefault_of_present (sum : V)
    (h : isMissing quantity it = false ∨
      ∀ phase ∈ [1, 2, 3], isMissing (outputPhase phase) it = false) :
    addDefault quantity sum it = .ok ((defaultSummands quantity it).foldl add sum) := by
  by_cases hq : isMissing quantity it = true
  · have hphases := h.resolve_left (by simp [hq])
    have hloop := Loops.foldlM_eq_ok (I := fun _ : V => True)
      (g := fun sum phase => add sum (getMetricValue it.2 (outputPhase phase) it.1))
      (fun sum phase _ hp => addValue_of_present sum hp)
      (fun _ _ _ _ => trivial) [1, 2, 3] sum trivial hphases
    rw [addDefault, ← isMissing, if_pos hq, hloop, defaultSummands, if_pos hq, List.foldl_map]
  · rw [addDefault, ← isMissing, if_neg hq, defaultSummands, if_neg hq]
    rfl

theorem exists_addDefault_eq_error (sum : V)
    (h : ¬ (isMissing quantity it = false ∨
      ∀ phase ∈ [1, 2, 3], isMissing (outputPhase phase) it = false)) :
    ∃ e, addDefault quantity sum it = .error e := by
  rw [not_or, Bool.not_eq_false] at h
  rw [addDefault, ← isMissing, if_pos h.1]
  refine Loops.exists_foldlM_eq_error (I := fun _ : V => True)
    (g := fun sum phase => add sum (getMetricValue it.2 (outputPhase phase) it.1))
    (fun sum phase _ (hp : isMissing (outputPhase phase) it = false) => addValue_of_present sum hp)
    (fun _ _ _ _ => trivial) ?_ [1, 2, 3] sum trivial
    (by simpa only [not_forall, exists_prop] using h.2)
  exact fun sum phase _ hp =>
    ⟨_, addValue_of_missing sum (by simpa using hp)⟩

/-- The test for mixed phases, in terms of the measurements of the unit. -/
theorem mixedPhaseOutput_eq_false_iff (hfirst : first ∈ u.powerdevices.toList)
    (hit : it ∈ u.powerdevices.toList) :
    mixedPhaseOutput (choosePhases first) it = false ↔ u.SharesPhases first.1 it.1 := by
  simp only [SharesPhases, ← isMissing_eq_false_iff hfirst, ← isMissing_eq_false_iff hit,
    choosePhases, mixedPhaseOutput]
  cases isMissing "realpower.output.L3" first <;> cases isMissing "realpower.output.L2" first <;>
    simp

/-- The first device passes the test that it sets for the others. -/
theorem mixedPhaseOutput_choosePhases : mixedPhaseOutput (choosePhases first) first = false := by
  rw [choosePhases]
  split_ifs with h3 h2
  · simp [mixedPhaseOutput, h2]
  · simp [mixedPhaseOutput, h3]
  · simpa [mixedPhaseOutput] using h3

theorem choosePhases_ne_zero : choosePhases first ≠ 0 := by
  rw [choosePhases]
  split_ifs <;> decide

/-- A device after the first one, which has chosen the phases. -/
theorem addOutput_of_present {s : OutputSum V} (hs : s.phases ≠ 0)
    (h : isMissing quantity it = false ∧ mixedPhaseOutput s.phases it = false) :
    addOutput quantity s it = .ok
      { s with sum := add s.sum (getMetricValue it.2 quantity it.1), devCnt := s.devCnt + 1 } := by
  simp [addOutput, addValue_of_present s.sum h.1, hs, h.2]

theorem exists_addOutput_eq_error {s : OutputSum V} (hs : s.phases ≠ 0)
    (h : ¬ (isMissing quantity it = false ∧ mixedPhaseOutput s.phases it = false)) :
    ∃ e, addOutput quantity s it = .error e := by
  by_cases hq : isMissing quantity it = false
  · have hmixed : mixedPhaseOutput s.phases it = true := by simpa [hq] using h
    exact ⟨_, by rw [addOutput, addValue_of_present s.sum hq]; simp [hs, hmixed]; rfl⟩
  · exact ⟨_, by rw [addOutput, addValue_of_missing s.sum (by simpa using hq)]; rfl⟩

/-! ### The loops over the devices -/

omit [Double V] in
/-- A computation completes when the part that may throw does. -/
theorem isOk_bind_pure {α β : Type} (x : Except String α) (f : α → β) :
    (x >>= fun a => pure (f a)).isOk = x.isOk := by
  cases x <;> rfl

theorem simpleSummarize_isOk_iff (u : TPUnit V) (quantity : String) (now : Int64) :
    (u.simpleSummarize quantity now).isOk = true ↔
      ∀ device ∈ u.powerdevices, u.Has device quantity := by
  rw [simpleSummarize, isOk_bind_pure, Loops.foldlM_isOk_iff (I := fun _ : V => True)
    (fun sum it _ (h : isMissing quantity it = false) => addValue_of_present sum h)
    (fun _ _ _ _ => trivial)
    (fun sum it _ h => ⟨_, addValue_of_missing sum (by simpa using h)⟩) _ _ trivial,
    ← forall_mem_toList_iff]
  exact forall₂_congr fun it hit => isMissing_eq_false_iff hit

/-- The total of a quantity without a special method: the sum of what the devices have, in their
order. -/
theorem simpleSummarize_eq_ok (u : TPUnit V) (quantity : String) (now : Int64)
    (h : ∀ device ∈ u.powerdevices, u.Has device quantity) :
    u.simpleSummarize quantity now = .ok (u.result quantity now
      (total (u.powerdevices.toList.map fun it => getMetricValue it.2 quantity it.1))) := by
  rw [← forall_mem_toList_iff] at h
  rw [simpleSummarize, Loops.foldlM_eq_ok (f := addValue quantity) (I := fun _ : V => True)
    (fun sum it _ (h : isMissing quantity it = false) => addValue_of_present sum h)
    (fun _ _ _ _ => trivial) _ _ trivial
    fun it hit => (isMissing_eq_false_iff hit).mpr (h it hit), total, List.foldl_map]
  rfl

/-- What a device needs for `realpower.default`. -/
theorem hasDefault_iff {it : PowerDevice V} (hit : it ∈ u.powerdevices.toList) :
    (isMissing quantity it = false ∨
        ∀ phase ∈ [1, 2, 3], isMissing (outputPhase phase) it = false) ↔
      u.Has it.1 quantity ∨ ∀ phase ∈ [1, 2, 3], u.Has it.1 (outputPhase phase) := by
  simp only [isMissing_eq_false_iff hit]

theorem realpowerDefault_isOk_iff (u : TPUnit V) (quantity : String) (now : Int64) :
    (u.realpowerDefault quantity now).isOk = true ↔ ∀ device ∈ u.powerdevices,
      u.Has device quantity ∨ ∀ phase ∈ [1, 2, 3], u.Has device (outputPhase phase) := by
  rw [realpowerDefault, isOk_bind_pure, Loops.foldlM_isOk_iff (f := addDefault quantity)
    (I := fun _ => True) (fun sum it _ h => addDefault_of_present sum h) (fun _ _ _ _ => trivial)
    (fun sum it _ h => exists_addDefault_eq_error sum h) _ _ trivial, ← forall_mem_toList_iff]
  exact forall₂_congr fun it hit => hasDefault_iff hit

/-- The total of `realpower.default`: the sum of what the devices add, in their order. -/
theorem realpowerDefault_eq_ok (u : TPUnit V) (quantity : String) (now : Int64)
    (h : ∀ device ∈ u.powerdevices,
      u.Has device quantity ∨ ∀ phase ∈ [1, 2, 3], u.Has device (outputPhase phase)) :
    u.realpowerDefault quantity now = .ok (u.result quantity now
      (total (u.powerdevices.toList.flatMap (defaultSummands quantity)))) := by
  rw [← forall_mem_toList_iff] at h
  rw [realpowerDefault, Loops.foldlM_eq_ok (f := addDefault quantity) (I := fun _ => True)
    (fun sum it _ h => addDefault_of_present sum h) (fun _ _ _ _ => trivial) _ _ trivial
    fun it hit => (hasDefault_iff hit).mpr (h it hit), total, List.foldl_flatMap]
  rfl

/-- The loop of `realpowerOutput` after its first device: the number of phases stays the one that
the first device has chosen. -/
theorem foldlM_addOutput_isOk_iff (quantity : String) (rest : List (PowerDevice V))
    {s : OutputSum V} (hs : s.phases = choosePhases first) :
    (rest.foldlM (addOutput quantity) s).isOk = true ↔ ∀ it ∈ rest,
      isMissing quantity it = false ∧ mixedPhaseOutput (choosePhases first) it = false :=
  Loops.foldlM_isOk_iff (I := fun s => s.phases = choosePhases first)
    (fun _ _ hs h => addOutput_of_present (hs ▸ choosePhases_ne_zero) (hs ▸ h))
    (fun _ _ hs _ => hs)
    (fun _ _ hs h => exists_addOutput_eq_error (hs ▸ choosePhases_ne_zero) (hs ▸ h)) rest s hs

theorem realpowerOutput_isOk_iff (u : TPUnit V) (quantity : String) (now : Int64) :
    (u.realpowerOutput quantity now).isOk = true ↔ ∀ device ∈ u.powerdevices,
      u.Has device quantity ∧
        ∀ first, u.powerdevices.keys.head? = some first → u.SharesPhases first device := by
  rw [realpowerOutput, isOk_bind_pure, ← forall_mem_toList_iff, ← TreeMap.map_fst_toList_eq_keys]
  have hpresent : ∀ it ∈ u.powerdevices.toList,
      (isMissing quantity it = false ↔ u.Has it.1 quantity) :=
    fun it hit => isMissing_eq_false_iff hit
  have hmixed : ∀ first ∈ u.powerdevices.toList, ∀ it ∈ u.powerdevices.toList,
      (mixedPhaseOutput (choosePhases first) it = false ↔ u.SharesPhases first.1 it.1) :=
    fun first hfirst it hit => mixedPhaseOutput_eq_false_iff hfirst hit
  cases hl : u.powerdevices.toList with
  | nil => simp [Except.isOk, Except.toBool]; rfl
  | cons first rest =>
    rw [hl] at hpresent hmixed
    have hfirst : first ∈ first :: rest := List.mem_cons_self
    rw [List.foldlM_cons]
    by_cases hq : isMissing quantity first = false
    · have hsum : addOutput quantity ⟨zero, 0, 0⟩ first = .ok
          ⟨add zero (getMetricValue first.2 quantity first.1), 1, choosePhases first⟩ := by
        rw [addOutput, addValue_of_present zero hq]
        rfl
      have hloop := foldlM_addOutput_isOk_iff quantity rest
        (s := ⟨add zero (getMetricValue first.2 quantity first.1), 1, choosePhases first⟩) rfl
      have hself : mixedPhaseOutput (choosePhases first) first = false :=
        mixedPhaseOutput_choosePhases
      rw [hsum]
      refine hloop.trans ?_
      simp only [List.map_cons, List.head?_cons, Option.some.injEq, forall_eq']
      constructor
      · intro h it hit
        have hgood : isMissing quantity it = false ∧
            mixedPhaseOutput (choosePhases first) it = false := by
          rcases List.mem_cons.mp hit with rfl | hrest
          · exact ⟨hq, hself⟩
          · exact h it hrest
        exact ⟨(hpresent it hit).mp hgood.1, (hmixed first hfirst it hit).mp hgood.2⟩
      · intro h it hrest
        have hit : it ∈ first :: rest := List.mem_cons_of_mem first hrest
        exact ⟨(hpresent it hit).mpr (h it hit).1, (hmixed first hfirst it hit).mpr (h it hit).2⟩
    · have hsum : ∃ e, addOutput quantity ⟨zero, 0, 0⟩ first = .error e :=
        ⟨_, by rw [addOutput, addValue_of_missing zero (by simpa using hq)]; rfl⟩
      obtain ⟨e, he⟩ := hsum
      rw [he]
      refine iff_of_false Bool.false_ne_true fun h => hq ?_
      exact (hpresent first hfirst).mpr (h first hfirst).1

/-- **The calculation of a quantity completes exactly when every device has what it needs.** -/
theorem calculation_isOk_iff (u : TPUnit V) (quantity : String) (now : Int64) :
    (u.calculation quantity now).isOk = true ↔ u.Calculable quantity := by
  rw [calculation, Calculable]
  cases calculations quantity with
  | realpowerUndefined => exact u.simpleSummarize_isOk_iff quantity now
  | realpowerDefault => exact u.realpowerDefault_isOk_iff quantity now
  | realpowerOutputL1 => exact u.realpowerOutput_isOk_iff quantity now
  | realpowerOutputL2 => exact u.realpowerOutput_isOk_iff quantity now
  | realpowerOutputL3 => exact u.realpowerOutput_isOk_iff quantity now

end TPUnit

end MetricTPower
