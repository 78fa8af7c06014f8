import MetricTPower.Agent.Moves
import MetricTPower.Library.Loops
import MetricTPower.Library.WrappedAge

/-!
# The poll timer

`getPollInterval` looks for the shortest wait among the totals and the pending reload, but skips
the waits that are not positive, and `timeToAdvertisement` is `0` for a total that is overdue and
already for one that is due in the next second. Such a total does not shorten the interval, so that
the agent may sleep for five more minutes. `getPollInterval_covers_iff` says exactly when a
total is covered all the same.

## Main results

* `TotalPowerConfiguration.getPollInterval_le_iff`: what the interval is bounded by.
* `TotalPowerConfiguration.getPollInterval_covers_iff`: when the interval ends before a total is
  due.
-/

open Std (TreeMap)

namespace MetricTPower

open Double

variable {V : Type} [Double V]

/-! ### The wait for one total -/

theorem measurementRepeatAfter_toNat : measurementRepeatAfter.toNat = 300 := rfl

/-- A wait counts for the interval when the total is known, has a change time and is younger than
five minutes. -/
theorem TPUnit.timeToAdvertisement_counts_iff (u : TPUnit V) (quantity : String) (now : Int64)
    {wait : ℤ} (hwait : wait < 300) :
    (0 < u.timeToAdvertisement quantity now ∧ u.timeToAdvertisement quantity now ≤ wait) ↔
      isnan (u.lastValue.find (u.generateTopic quantity)) = false ∧ u.timestamp quantity ≠ 0 ∧
        (now.toUInt64 - u.timestamp quantity).toNat < 300 ∧
        300 - ((now.toUInt64 - u.timestamp quantity).toNat : ℤ) ≤ wait := by
  rw [timeToAdvertisement]
  by_cases hskip : u.timestamp quantity = 0 ∨ u.quantityIsUnknown (u.generateTopic quantity) = true
  · rw [if_pos (by simpa using hskip), measurementRepeatAfter_toNat]
    refine iff_of_false (by omega) ?_
    rintro ⟨hknown, htime, -⟩
    rcases hskip with hskip | hskip
    · exact htime hskip
    · rw [quantityIsUnknown, hknown] at hskip
      cases hskip
  · rw [if_neg (by simpa using hskip)]
    rw [not_or, quantityIsUnknown, Bool.not_eq_true] at hskip
    simp only [hskip.1, hskip.2, ne_eq, not_false_eq_true, true_and]
    generalize now.toUInt64 - u.timestamp quantity = age
    by_cases hold : measurementRepeatAfter < age
    · have hage : 300 < age.toNat := UInt64.lt_iff_toNat_lt.mp hold
      rw [if_pos hold]
      omega
    · have hage : age.toNat ≤ 300 := not_lt.mp fun hlt => hold (UInt64.lt_iff_toNat_lt.mpr hlt)
      have hleft : (measurementRepeatAfter - age).toNat = 300 - age.toNat :=
        UInt64.toNat_sub_of_le _ _ (UInt64.le_iff_toNat_le.mpr hage)
      rw [if_neg hold, hleft]
      omega

namespace TotalPowerConfiguration

variable {c : TotalPowerConfiguration V}

omit [Double V] in
/-- The totals that the interval looks at: every unit with every quantity of its kind. -/
theorem mem_totals_iff {u : TPUnit V} {quantity : String} :
    (u, quantity) ∈ c.totals ↔ ∃ (kind : Kind) (owner : String),
      (c.group kind).units[owner]? = some u ∧ quantity ∈ kind.quantities := by
  have hgroup : ∀ (g : UnitGroup V) (quantities : List String),
      (u, quantity) ∈ (g.units.toList.flatMap fun it => quantities.map fun q => (it.2, q)) ↔
        ∃ owner : String, g.units[owner]? = some u ∧ quantity ∈ quantities := by
    intro g quantities
    simp only [List.mem_flatMap, List.mem_map, Prod.exists, Prod.mk.injEq,
      TreeMap.mem_toList_iff_getElem?_eq_some]
    constructor
    · rintro ⟨owner, _, hu, _, hq, rfl, rfl⟩
      exact ⟨owner, hu, hq⟩
    · rintro ⟨owner, hu, hq⟩
      exact ⟨owner, u, hu, quantity, hq, rfl, rfl⟩
  rw [totals, List.mem_append, hgroup, hgroup]
  constructor
  · rintro (⟨owner, h⟩ | ⟨owner, h⟩)
    · exact ⟨.rack, owner, h⟩
    · exact ⟨.dc, owner, h⟩
  · rintro ⟨kind, owner, h⟩
    cases kind
    · exact Or.inl ⟨owner, h⟩
    · exact Or.inr ⟨owner, h⟩

/-- The interval is at most a number of seconds when that is at least five minutes, or some positive
wait for a total is, or the wait for the pending reload is. -/
theorem getPollInterval_le_iff (c : TotalPowerConfiguration V) (clock : ℕ → Int64) (wait : ℤ) :
    c.getPollInterval clock ≤ 1000 * wait ↔
      300 ≤ wait ∨
      (∃ it ∈ c.totals.zipIdx, 0 < it.1.1.timeToAdvertisement it.1.2 (clock it.2) ∧
        it.1.1.timeToAdvertisement it.1.2 (clock it.2) ≤ wait) ∨
      (c.reconfigPending ≠ 0 ∧
        max 1 (c.reconfigPending - (clock c.totals.length).toInt + 1) ≤ wait) := by
  have hloop := Loops.foldl_min_le_iff (b := wait)
    (p := fun it : (TPUnit V × String) × ℕ => it.1.1.timeToAdvertisement it.1.2 (clock it.2) > 0)
    (f := fun it => it.1.1.timeToAdvertisement it.1.2 (clock it.2)) c.totals.zipIdx
    (measurementRepeatAfter.toNat : ℤ)
  rw [measurementRepeatAfter_toNat] at hloop
  -- the pending reload, after the loops have come to `T`
  have hpending : ∀ T Tx : ℤ,
      (if c.reconfigPending ≠ 0 then
        if (if Tx ≤ 0 then 1 else Tx) < T then if Tx ≤ 0 then 1 else Tx else T
      else T) * 1000 ≤ 1000 * wait ↔ T ≤ wait ∨ (c.reconfigPending ≠ 0 ∧ max 1 Tx ≤ wait) := by
    intro T Tx
    by_cases hzero : c.reconfigPending = 0
    · simp only [hzero, ne_eq, not_true_eq_false, if_false, false_and, or_false]
      omega
    · simp only [hzero, ne_eq, not_false_eq_true, if_true, true_and]
      split <;> split <;> omega
  rw [← or_assoc]
  exact (hpending _ _).trans (or_congr_left hloop)

/-- At one reading of the clock, an interval of less than five minutes is ended by the totals that
count, whatever their places in the loop. -/
theorem exists_wait_iff {now : Int64} {wait : ℤ} (hwait : wait < 300) :
    (∃ it ∈ c.totals.zipIdx, 0 < it.1.1.timeToAdvertisement it.1.2 now ∧
        it.1.1.timeToAdvertisement it.1.2 now ≤ wait) ↔
      ∃ (kind : Kind) (owner quantity : String) (u : TPUnit V),
        (c.group kind).units[owner]? = some u ∧ quantity ∈ kind.quantities ∧
        isnan (u.lastValue.find (u.generateTopic quantity)) = false ∧
        u.timestamp quantity ≠ 0 ∧
        (now.toUInt64 - u.timestamp quantity).toNat < 300 ∧
        300 - ((now.toUInt64 - u.timestamp quantity).toNat : ℤ) ≤ wait := by
  constructor
  · rintro ⟨⟨⟨u, quantity⟩, i⟩, hit, hcounts⟩
    obtain ⟨kind, owner, hu, hquantity⟩ := mem_totals_iff.mp (List.fst_mem_of_mem_zipIdx hit)
    exact ⟨kind, owner, quantity, u, hu, hquantity,
      (u.timeToAdvertisement_counts_iff quantity now hwait).mp hcounts⟩
  · rintro ⟨kind, owner, quantity, u, hu, hquantity, hcounts⟩
    have hmem : (u, quantity) ∈ c.totals := mem_totals_iff.mpr ⟨kind, owner, hu, hquantity⟩
    obtain ⟨i, hi, hget⟩ := List.mem_iff_getElem.mp hmem
    refine ⟨((u, quantity), i), ?_,
      (u.timeToAdvertisement_counts_iff quantity now hwait).mpr hcounts⟩
    rw [List.mk_mem_zipIdx_iff_getElem?, List.getElem?_eq_getElem hi, hget]

/-- **When the interval ends before a total is due.** For a known total whose change time `ts` is
not in the future, the interval is at most the `max 1 (ts + 301 - now)` seconds to the first one in
which it is due by schedule if and only if the total is younger than five minutes, or the
change time is `0` and no more than a second ago, or another known total or the pending
reload ends the interval in time. -/
theorem getPollInterval_covers_iff (c : TotalPowerConfiguration V) (now : Int64) (kind : Kind)
    (owner quantity : String) (u : TPUnit V) (hu : (c.group kind).units[owner]? = some u)
    (hquantity : quantity ∈ kind.quantities)
    (hknown : isnan (u.lastValue.find (u.generateTopic quantity)) = false)
    (htime : ((u.timestamp quantity).toNat : ℤ) ≤ now.toInt) :
    let wait : ℤ := max 1 ((u.timestamp quantity).toNat + 301 - now.toInt)
    c.getPollInterval (fun _ => now) ≤ 1000 * wait ↔
      (u.timestamp quantity ≠ 0 ∧ now.toInt - (u.timestamp quantity).toNat < 300) ∨
      (u.timestamp quantity = 0 ∧ now.toInt ≤ 1) ∨
      (∃ (kind' : Kind) (owner' quantity' : String) (u' : TPUnit V),
        (c.group kind').units[owner']? = some u' ∧ quantity' ∈ kind'.quantities ∧
        isnan (u'.lastValue.find (u'.generateTopic quantity')) = false ∧
        u'.timestamp quantity' ≠ 0 ∧
        (now.toUInt64 - u'.timestamp quantity').toNat < 300 ∧
        300 - ((now.toUInt64 - u'.timestamp quantity').toNat : ℤ) ≤ wait) ∨
      (c.reconfigPending ≠ 0 ∧ max 1 (c.reconfigPending - now.toInt + 1) ≤ wait) := by
  intro wait
  have hage := WrappedAge.toNat_age htime
  rw [getPollInterval_le_iff]
  by_cases hlong : 300 ≤ wait
  · refine iff_of_true (Or.inl hlong) ?_
    by_cases hzero : u.timestamp quantity = 0
    · rw [hzero, UInt64.toNat_zero] at htime
      exact Or.inr (Or.inl ⟨hzero, by simp only [wait, hzero, UInt64.toNat_zero] at hlong; omega⟩)
    · exact Or.inl ⟨hzero, by omega⟩
  · rw [or_iff_right hlong, exists_wait_iff (not_le.mp hlong)]
    constructor
    · exact fun h => Or.inr (Or.inr h)
    · rintro (⟨hchanged, hyoung⟩ | ⟨hzero, hnow⟩ | h)
      · exact Or.inl ⟨kind, owner, quantity, u, hu, hquantity, hknown, hchanged, by omega, by omega⟩
      · rw [hzero, UInt64.toNat_zero] at htime
        simp only [wait, hzero, UInt64.toNat_zero] at hlong
        omega
      · exact h

end TotalPowerConfiguration

theorem getPollInterval_covers_iff_oneRack :
    ∃ (c : TotalPowerConfiguration Exact) (u : TPUnit Exact),
      c.racks.units["rack-1"]? = some u ∧
      (c.getPollInterval (fun _ => 1200) ≤
          1000 * max 1 ((u.timestamp "realpower.default").toNat + 301 - (1200 : Int64).toInt) ↔
        (u.timestamp "realpower.default" ≠ 0 ∧
          (1200 : Int64).toInt - (u.timestamp "realpower.default").toNat < 300) ∨
        (u.timestamp "realpower.default" = 0 ∧ (1200 : Int64).toInt ≤ 1) ∨
        (∃ (kind' : Kind) (owner' quantity' : String) (u' : TPUnit Exact),
          (c.group kind').units[owner']? = some u' ∧ quantity' ∈ kind'.quantities ∧
          isnan (u'.lastValue.find (u'.generateTopic quantity')) = false ∧
          u'.timestamp quantity' ≠ 0 ∧
          ((1200 : Int64).toUInt64 - u'.timestamp quantity').toNat < 300 ∧
          300 - (((1200 : Int64).toUInt64 - u'.timestamp quantity').toNat : ℤ) ≤
            max 1 ((u.timestamp "realpower.default").toNat + 301 - (1200 : Int64).toInt)) ∨
        (c.reconfigPending ≠ 0 ∧ max 1 (c.reconfigPending - (1200 : Int64).toInt + 1) ≤
          max 1 ((u.timestamp "realpower.default").toNat + 301 - (1200 : Int64).toInt))) := by
  have hrack : ((run oneRackEnv (oneRackSteps.take 2)).conf.racks.units["rack-1"]?).isSome =
      true := by
    decide +kernel
  refine ⟨(run oneRackEnv (oneRackSteps.take 2)).conf, Option.get _ hrack,
    (Option.some_get hrack).symm, ?_⟩
  exact TotalPowerConfiguration.getPollInterval_covers_iff _ 1200 .rack "rack-1"
    "realpower.default" _ (Option.some_get hrack).symm (by decide) (by decide +kernel +revert)
    (by decide +kernel +revert)

/-- Five minutes after the total of the rack was sent, it is due in the next second, but the timer
is set to another five minutes. -/
theorem oneRack_sleeps_past_due :
    ¬ ∀ (env : Env Exact) (steps : List (Step Exact)) (now : Int64) (kind : Kind)
        (owner quantity : String) (u : TPUnit Exact),
      (run env steps).unit? kind owner = some u → quantity ∈ kind.quantities →
      isnan (u.lastValue.find (u.generateTopic quantity)) = false →
      ((u.timestamp quantity).toNat : ℤ) ≤ now.toInt →
      (run env steps).conf.getPollInterval (fun _ => now) ≤
        1000 * max 1 ((u.timestamp quantity).toNat + 301 - now.toInt) := by
  intro h
  have hrack : ((run oneRackEnv (oneRackSteps.take 2)).unit? .rack "rack-1").isSome = true := by
    decide +kernel
  have hcovered := h oneRackEnv (oneRackSteps.take 2) 1300 .rack "rack-1" "realpower.default" _
    (Option.some_get hrack).symm (by decide) (by decide +kernel +revert) (by decide +kernel +revert)
  have hsleeps : (run oneRackEnv (oneRackSteps.take 2)).conf.getPollInterval (fun _ => 1300) =
      300000 := by
    decide +kernel
  have htime : (((run oneRackEnv (oneRackSteps.take 2)).unit? .rack "rack-1").get
      hrack).timestamp "realpower.default" = 1000 := by
    clear hcovered
    decide +kernel +revert
  rw [hsleeps, htime] at hcovered
  exact absurd hcovered (by decide)

end MetricTPower
