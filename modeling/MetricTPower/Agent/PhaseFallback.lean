import MetricTPower.Agent.Polling
import MetricTPower.Agent.Routing
import MetricTPower.Unit.Calculation

/-!
# The total of `realpower.default`

A device may deliver `realpower.default` or its three output phases; `realpowerDefault` falls back
to the phases. The phases have to pass the test of `processMetric` first, which lets only the
quantities of a kind through: those of the datacenters include the phases, those of the racks do
not. After a poll the total of a unit is therefore the running sum of what its devices delivered
when that is a number, all devices belong to the unit and, for a rack, none of them relies on its
phases; and otherwise only when the total from before is still there and happens to be close to that
sum (`total_onPoll_iff`). This holds whatever the arithmetic of the values, rounding and infinities
included: the sum is the one of the source, in the order of the devices.

## Main definitions

* `freshValue`: the latest value that was delivered, when it is not expired.
* `Delivered`, `powerValues`: the fresh values of a device are enough, and those that count.
* `Near`: a known value in the dead band of a sum.

## Main results

* `total_onPoll_iff`: when a poll makes the total known and right.
-/

open Std (TreeMap)

namespace MetricTPower

open Double TPUnit

variable {V : Type} [Double V]

/-! ### What the devices deliver -/

/-- The latest value of a device and a quantity in a sequence of metrics, `NaN` when there is none
or it is expired. -/
def freshValue (metrics : List (MetricInfo V)) (now : Int64) (device quantity : String) : V :=
  (((latest metrics device quantity).filter fun M => !M.expired now).map MetricInfo.value).getD nan

/-- The values of a device are enough for its power: `realpower.default` or the three phases. -/
def Delivered (value : String → V) : Prop :=
  isnan (value "realpower.default") = false ∨
    ∀ phase ∈ [1, 2, 3], isnan (value (outputPhase phase)) = false

/-- The values of a device that make up its power: that of `realpower.default`, or else those of the
phases. -/
def powerValues (value : String → V) : List V :=
  if isnan (value "realpower.default") then [1, 2, 3].map fun phase => value (outputPhase phase)
  else [value "realpower.default"]

/-- A known value that is a sum or in the dead band of it. -/
def Near (x sum : V) : Prop :=
  isnan x = false ∧ isnan sum = false ∧ (x = sum ∨ exceeds x sum = false)

omit [Double V] in
/-- The values of `realpower.default` pass the filter for both kinds, those of the phases that for
datacenters only. -/
theorem mem_quantities_default (kind : Kind) : "realpower.default" ∈ kind.quantities := by
  cases kind <;> decide

theorem outputPhase_mem_quantities_iff (kind : Kind) {phase : ℕ} (hphase : phase ∈ [1, 2, 3]) :
    outputPhase phase ∈ kind.quantities ↔ kind = .dc := by
  revert phase
  cases kind <;> decide

theorem at_notMem_outputPhase {phase : ℕ} (hphase : phase ∈ [1, 2, 3]) :
    '@' ∉ (outputPhase phase).toList := by
  revert phase
  decide

/-! ### What the unit holds of it -/

section Held

variable {env : Env V} {a : Agent V} {metrics : List (MetricInfo V)} {kind : Kind}
  {owner quantity : String} {u : TPUnit V} {now : Int64} {it : PowerDevice V}

/-- After the metrics and a purge a unit holds the fresh values of the devices that belong to its
owner, for the quantities of its kind. -/
theorem getMetricValue_afterMetrics (hu : (afterMetrics env a metrics).unit? kind owner = some u)
    (hit : it ∈ (u.dropOldMetricInfos fun _ => now).powerdevices.toList)
    (hquantity : '@' ∉ quantity.toList) :
    getMetricValue it.2 quantity it.1 =
      if quantity ∈ kind.quantities ∧
          ((afterMetrics env a metrics).conf.group kind).affected[it.1]? = some owner then
        freshValue metrics now it.1 quantity
      else nan := by
  have hdevice : it.1 ∈ u.powerdevices :=
    (mem_powerdevices_dropOldMetricInfos ..).mp (mem_powerdevices_of_mem_toList hit)
  rw [getMetricValue, MetricList.find_eq, ← measurementOf_of_getElem? (getElem?_of_mem_toList hit),
    measurementOf_dropOldMetricInfos,
    measurementOf_afterMetrics env a metrics kind owner it.1 quantity u hu hdevice hquantity]
  split <;> rfl

theorem getMetricValue_default (hu : (afterMetrics env a metrics).unit? kind owner = some u)
    (hit : it ∈ (u.dropOldMetricInfos fun _ => now).powerdevices.toList) :
    getMetricValue it.2 "realpower.default" it.1 =
      if ((afterMetrics env a metrics).conf.group kind).affected[it.1]? = some owner then
        freshValue metrics now it.1 "realpower.default"
      else nan := by
  rw [getMetricValue_afterMetrics hu hit (by decide)]
  simp only [mem_quantities_default, true_and]

theorem getMetricValue_outputPhase (hu : (afterMetrics env a metrics).unit? kind owner = some u)
    (hit : it ∈ (u.dropOldMetricInfos fun _ => now).powerdevices.toList) {phase : ℕ}
    (hphase : phase ∈ [1, 2, 3]) :
    getMetricValue it.2 (outputPhase phase) it.1 =
      if kind = .dc ∧
          ((afterMetrics env a metrics).conf.group kind).affected[it.1]? = some owner then
        freshValue metrics now it.1 (outputPhase phase)
      else nan := by
  rw [getMetricValue_afterMetrics hu hit (at_notMem_outputPhase hphase)]
  simp only [outputPhase_mem_quantities_iff kind hphase]

/-- Of a device that delivers enough, the unit holds enough if and only if the device belongs to
the owner and, in a rack, delivers `realpower.default` itself. -/
theorem present_iff_of_delivered (hu : (afterMetrics env a metrics).unit? kind owner = some u)
    (hit : it ∈ (u.dropOldMetricInfos fun _ => now).powerdevices.toList)
    (hdelivered : Delivered (freshValue metrics now it.1)) :
    (isMissing "realpower.default" it = false ∨
        ∀ phase ∈ [1, 2, 3], isMissing (outputPhase phase) it = false) ↔
      ((afterMetrics env a metrics).conf.group kind).affected[it.1]? = some owner ∧
        (kind = .dc ∨ isnan (freshValue metrics now it.1 "realpower.default") = false) := by
  have hphases := fun phase (hphase : phase ∈ [1, 2, 3]) =>
    getMetricValue_outputPhase hu hit hphase
  simp only [isMissing]
  rw [getMetricValue_default hu hit]
  constructor
  · rintro (hdefault | hall)
    · split at hdefault
      · rename_i haffected
        exact ⟨haffected, Or.inr hdefault⟩
      · simp at hdefault
    · have hfirst := hall 1 (by decide)
      rw [hphases 1 (by decide)] at hfirst
      split at hfirst
      · rename_i hrouted
        exact ⟨hrouted.2, Or.inl hrouted.1⟩
      · simp at hfirst
  · rintro ⟨haffected, hkind⟩
    rw [if_pos haffected]
    rcases hkind with hdc | hdefault
    · refine hdelivered.imp_right fun hall phase hphase => ?_
      rw [hphases phase hphase, if_pos ⟨hdc, haffected⟩]
      exact hall phase hphase
    · exact Or.inl hdefault

/-- And then the unit adds the values that make up the power of the device. -/
theorem defaultSummands_eq_powerValues
    (hu : (afterMetrics env a metrics).unit? kind owner = some u)
    (hit : it ∈ (u.dropOldMetricInfos fun _ => now).powerdevices.toList)
    (haffected : ((afterMetrics env a metrics).conf.group kind).affected[it.1]? = some owner)
    (hkind : kind = .dc ∨ isnan (freshValue metrics now it.1 "realpower.default") = false) :
    defaultSummands "realpower.default" it = powerValues (freshValue metrics now it.1) := by
  rw [defaultSummands, isMissing, getMetricValue_default hu hit, if_pos haffected, powerValues]
  split
  · rename_i hnan
    have hdc : kind = .dc := hkind.resolve_right (by simp [hnan])
    refine List.map_congr_left fun phase hphase => ?_
    rw [getMetricValue_outputPhase hu hit hphase, if_pos ⟨hdc, haffected⟩]
  · rfl

/-- After the metrics and a purge the calculation completes if and only if every device belongs to
the owner and, in a rack, delivers `realpower.default` itself. -/
theorem calculation_afterMetrics_isOk_iff
    (hu : (afterMetrics env a metrics).unit? kind owner = some u)
    (hdelivered : ∀ device ∈ u.powerdevices, Delivered (freshValue metrics now device)) :
    ((u.dropOldMetricInfos fun _ => now).calculation "realpower.default" now).isOk = true ↔
      ∀ device ∈ u.powerdevices,
        ((afterMetrics env a metrics).conf.group kind).affected[device]? = some owner ∧
          (kind = .dc ∨ isnan (freshValue metrics now device "realpower.default") = false) := by
  have hmethod : (u.dropOldMetricInfos fun _ => now).calculation "realpower.default" now =
      (u.dropOldMetricInfos fun _ => now).realpowerDefault "realpower.default" now := rfl
  rw [hmethod, realpowerDefault_isOk_iff]
  simp only [← mem_powerdevices_dropOldMetricInfos u fun _ => now] at hdelivered ⊢
  simp only [← forall_mem_toList_iff] at hdelivered ⊢
  refine forall₂_congr fun it hit => ?_
  rw [← hasDefault_iff hit]
  exact present_iff_of_delivered hu hit (hdelivered it hit)

/-- And then its total is the running sum of what was delivered. -/
theorem calculation_afterMetrics
    (hu : (afterMetrics env a metrics).unit? kind owner = some u)
    (hdelivered : ∀ device ∈ u.powerdevices, Delivered (freshValue metrics now device))
    (hok : ((u.dropOldMetricInfos fun _ => now).calculation "realpower.default" now).isOk = true) :
    (u.dropOldMetricInfos fun _ => now).calculation "realpower.default" now =
      .ok ((u.dropOldMetricInfos fun _ => now).result "realpower.default" now (total
        (u.powerdevices.keys.flatMap fun device =>
          powerValues (freshValue metrics now device)))) := by
  have hdevices := (calculation_afterMetrics_isOk_iff hu hdelivered).mp hok
  have hmethod : (u.dropOldMetricInfos fun _ => now).calculation "realpower.default" now =
      (u.dropOldMetricInfos fun _ => now).realpowerDefault "realpower.default" now := rfl
  have hkeys : (u.dropOldMetricInfos fun _ => now).powerdevices.keys = u.powerdevices.keys :=
    TreeMap.keys_map
  have hvalues : (u.dropOldMetricInfos fun _ => now).powerdevices.toList.flatMap
      (defaultSummands "realpower.default") =
        u.powerdevices.keys.flatMap fun device => powerValues (freshValue metrics now device) := by
    rw [← hkeys, ← TreeMap.map_fst_toList_eq_keys, List.flatMap_map]
    refine List.flatMap_congr fun it hit => ?_
    have hdevice : it.1 ∈ u.powerdevices :=
      (mem_powerdevices_dropOldMetricInfos ..).mp (mem_powerdevices_of_mem_toList hit)
    exact defaultSummands_eq_powerValues hu hit (hdevices it.1 hdevice).1 (hdevices it.1 hdevice).2
  rw [hmethod] at hok ⊢
  rw [realpowerDefault_eq_ok _ _ now ((realpowerDefault_isOk_iff _ _ now).mp hok), hvalues]

end Held

/-! ### The total after the poll -/

section NearTotal

variable {u : TPUnit V} {quantity : String} {now : Int64} {sum : V}

/-- A calculation brings a known total near its sum, when that is a number, and an exception leaves
it where it was. -/
theorem near_storedTotal_calculate_iff (hsum : (u.calculation quantity now).isOk = true →
      u.calculation quantity now = .ok (u.result quantity now sum)) :
    Near ((u.calculate quantity now).storedTotal quantity) sum ↔
      (isnan sum = false ∧ (u.calculation quantity now).isOk = true) ∨
        Near (u.storedTotal quantity) sum := by
  by_cases hok : (u.calculation quantity now).isOk = true
  · by_cases hr : u.Replaces quantity sum
    · rw [storedTotal_calculate_of_replaces (hsum hok) hr]
      constructor
      · exact fun h => Or.inl ⟨h.2.1, hok⟩
      · rintro (⟨hnumber, -⟩ | ⟨-, hnumber, -⟩) <;> exact ⟨hnumber, hnumber, Or.inl rfl⟩
    · rw [storedTotal_calculate_of_not_replaces (hsum hok) hr]
      obtain ⟨hknown, hband⟩ : isnan (u.storedTotal quantity) = false ∧
          exceeds (u.storedTotal quantity) sum = false := by
        simpa [Replaces, not_or] using hr
      constructor
      · exact Or.inr
      · rintro (⟨hnumber, -⟩ | h)
        · exact ⟨hknown, hnumber, Or.inr hband⟩
        · exact h
  · rw [calculate_of_not_isOk (by simpa using hok)]
    exact (or_iff_right fun h => hok h.2).symm

/-- The purge leaves a total near a sum when the total is not expired. -/
theorem near_storedTotal_dropOldMetricInfos_iff :
    Near ((u.dropOldMetricInfos fun _ => now).storedTotal quantity) sum ↔
      ∃ m, u.lastValue.knownMetrics[u.generateTopic quantity]? = some m ∧
        m.expired now = false ∧ Near m.value sum := by
  have htotal : (u.dropOldMetricInfos fun _ => now).storedTotal quantity =
      (u.lastValue.removeOldMetrics now).find (u.generateTopic quantity) := rfl
  rw [htotal, MetricList.find_eq, MetricList.knownMetrics_removeOldMetrics]
  cases hm : u.lastValue.knownMetrics[u.generateTopic quantity]? with
  | none => simp [Near]
  | some m =>
    rw [Option.filter_some]
    cases he : m.expired now <;> simp [Near, he]

end NearTotal

/-- **When a poll makes the total right.** The devices of a unit have delivered, since its reload,
fresh values of `realpower.default` or of the three phases. After a poll without a reload the total
of `realpower.default` is known and in the dead band of the sum of what they delivered, which the
source makes in the order of the devices, if and only if that sum is a number, every device belongs
to the unit and, in a rack, none relies on its phases; or the total from before the poll is not
expired and was as close. -/
theorem total_onPoll_iff (env : Env V) (a : Agent V) (metrics : List (MetricInfo V))
    (kind : Kind) (owner : String) (u : TPUnit V) (now : Int64)
    (hu : (afterMetrics env a metrics).unit? kind owner = some u)
    (hclock : ∀ i, (afterMetrics env a metrics).world.pos ≤ i → env.time i = now)
    (hloads : ((afterMetrics env a metrics).onPoll env).loads = (afterMetrics env a metrics).loads)
    (hdelivered : ∀ device ∈ u.powerdevices, Delivered (freshValue metrics now device)) :
    let sum := total
      (u.powerdevices.keys.flatMap fun device => powerValues (freshValue metrics now device))
    (∃ v, ((afterMetrics env a metrics).onPoll env).unit? kind owner = some v ∧
      Near (v.storedTotal "realpower.default") sum) ↔
    (isnan sum = false ∧ ∀ device ∈ u.powerdevices,
      ((afterMetrics env a metrics).conf.group kind).affected[device]? = some owner ∧
        (kind = .dc ∨ isnan (freshValue metrics now device "realpower.default") = false)) ∨
    ∃ m, u.lastValue.knownMetrics[u.generateTopic "realpower.default"]? = some m ∧
      m.expired now = false ∧ Near m.value sum := by
  intro sum
  obtain ⟨v, hv, -, htotal⟩ :=
    Agent.storedTotal_onPoll _ hu (mem_quantities_default kind) hclock hloads
  have hpoll : (∃ v, ((afterMetrics env a metrics).onPoll env).unit? kind owner = some v ∧
      Near (v.storedTotal "realpower.default") sum) ↔
        Near (((u.dropOldMetricInfos fun _ => now).calculate "realpower.default" now).storedTotal
          "realpower.default") sum := by
    simp only [hv, Option.some.injEq, exists_eq_left', htotal]
  rw [hpoll, near_storedTotal_calculate_iff (calculation_afterMetrics hu hdelivered),
    calculation_afterMetrics_isOk_iff hu hdelivered, near_storedTotal_dropOldMetricInfos_iff]

/-! ### A rack of one epdu -/

/-- The database with one rack, a sending function that succeeds, and a clock that stands. -/
def standingEnv : Env Exact where
  time _ := 1000
  reply _ _ := .returned true
  topology _ := oneRack

/-- A measurement of an output phase of the epdu of the rack, of 50 W. -/
def phaseMetric (phase : ℕ) : MetricInfo Exact :=
  { epduMetric with source := outputPhase phase, value := some 50 }

instance (value : String → V) : Decidable (Delivered value) :=
  inferInstanceAs (Decidable (_ ∨ _))

theorem total_onPoll_iff_oneRack :
    ∃ u, (afterMetrics standingEnv .init [epduMetric]).unit? .rack "rack-1" = some u ∧
      ∃ v, ((afterMetrics standingEnv .init [epduMetric]).onPoll standingEnv).unit? .rack
          "rack-1" = some v ∧
        Near (v.storedTotal "realpower.default") (total (u.powerdevices.keys.flatMap fun device =>
          powerValues (freshValue [epduMetric] 1000 device))) := by
  have hrack : ((afterMetrics standingEnv .init [epduMetric]).unit? .rack
      "rack-1").isSome = true := by
    decide +kernel
  have hall : ∀ it ∈ (((afterMetrics standingEnv .init [epduMetric]).unit? .rack "rack-1").get
      hrack).powerdevices.toList, it.1 = "epdu-1" := by
    decide +kernel +revert
  have hdevices := (forall_mem_toList_iff (P := fun device => device = "epdu-1")).mp hall
  have hnumber : isnan (total ((((afterMetrics standingEnv .init [epduMetric]).unit? .rack
      "rack-1").get hrack).powerdevices.keys.flatMap fun device =>
        powerValues (freshValue [epduMetric] 1000 device))) = false := by
    clear hdevices hall
    decide +kernel +revert
  refine ⟨_, (Option.some_get hrack).symm, ?_⟩
  refine (total_onPoll_iff standingEnv .init [epduMetric] .rack "rack-1" _ 1000
    (Option.some_get hrack).symm (fun _ _ => rfl) (by decide +kernel) ?_).mpr (Or.inl ⟨hnumber, ?_⟩)
  · intro device hdevice
    rw [hdevices device hdevice]
    decide +kernel
  · intro device hdevice
    rw [hdevices device hdevice]
    decide +kernel

/-- A rack whose epdu delivers the three phases only has no total after a poll. -/
theorem phases_of_rack_ignored :
    ¬ ∀ (env : Env Exact) (a : Agent Exact) (metrics : List (MetricInfo Exact)) (kind : Kind)
        (owner : String) (u : TPUnit Exact) (now : Int64),
      (afterMetrics env a metrics).unit? kind owner = some u →
      (∀ i, (afterMetrics env a metrics).world.pos ≤ i → env.time i = now) →
      ((afterMetrics env a metrics).onPoll env).loads = (afterMetrics env a metrics).loads →
      (∀ device ∈ u.powerdevices, Delivered (freshValue metrics now device)) →
      ∃ v, ((afterMetrics env a metrics).onPoll env).unit? kind owner = some v ∧
        Near (v.storedTotal "realpower.default") (total (u.powerdevices.keys.flatMap fun device =>
          powerValues (freshValue metrics now device))) := by
  intro h
  have hrack : ((afterMetrics standingEnv .init ([1, 2, 3].map phaseMetric)).unit? .rack
      "rack-1").isSome = true := by
    decide +kernel
  have hall : ∀ it ∈ (((afterMetrics standingEnv .init ([1, 2, 3].map phaseMetric)).unit? .rack
      "rack-1").get hrack).powerdevices.toList, it.1 = "epdu-1" := by
    decide +kernel +revert
  have hdevices := (forall_mem_toList_iff (P := fun device => device = "epdu-1")).mp hall
  obtain ⟨v, hv, hknown, -⟩ := h standingEnv .init ([1, 2, 3].map phaseMetric) .rack "rack-1" _
    1000 (Option.some_get hrack).symm (fun _ _ => rfl) (by decide +kernel) (by
      intro device hdevice
      rw [hdevices device hdevice]
      decide +kernel)
  have hunknown : (((afterMetrics standingEnv .init ([1, 2, 3].map phaseMetric)).onPoll
      standingEnv).unit? .rack "rack-1").all
        (fun v => isnan (v.storedTotal "realpower.default")) = true := by
    decide +kernel
  rw [hv, Option.all_some, hknown] at hunknown
  cases hunknown

end MetricTPower
