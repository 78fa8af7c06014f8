import MetricTPower.Agent.PollTimer
import MetricTPower.Agent.Reloading

/-!
# The range of the poll timer

`getPollInterval` mixes unsigned differences that may wrap round, their conversion to `int64_t`, and
the time of the pending reload. All the same it lies between one second and five minutes: the
minimum starts at five minutes and only positive waits get into it. The time of the reload is
always a reading of the clock plus a minute, so that for a clock between 0 and `2 ^ 62` the signed
arithmetic does not overflow (`getPollInterval64` is the computation in `int64_t`), and the
conversion to `int` in the loop of the server keeps the value.

## Main definitions

* `ClockInRange`: a reading of the clock between 0 and `2 ^ 62`.
* `TotalPowerConfiguration.getPollInterval64`: the interval in the arithmetic of `int64_t`.
* `Agent.TimerInRange`: the timer and the schedule of the reload in their ranges.

## Main results

* `TotalPowerConfiguration.getPollInterval_mem`: the range of the interval.
* `TotalPowerConfiguration.toInt_getPollInterval64`: the arithmetic does not overflow.
* `pollInterval_bounds`: timer and interval in every run.
-/

open Std (TreeMap)

namespace MetricTPower

variable {V : Type} [Double V] {env : Env V}

/-- A reading of the clock between 0 and `2 ^ 62`. -/
def ClockInRange (now : Int64) : Prop :=
  0 ≤ now.toInt ∧ now.toInt ≤ 2 ^ 62

/-! ### One interval -/

/-- The wait for a total is between 0 and five minutes, whatever its change time. -/
theorem TPUnit.timeToAdvertisement_mem (u : TPUnit V) (quantity : String) (now : Int64) :
    0 ≤ u.timeToAdvertisement quantity now ∧ u.timeToAdvertisement quantity now ≤ 300 := by
  rw [timeToAdvertisement]
  split
  · decide
  · dsimp only
    split
    · decide
    · rename_i hyoung
      have hleft : (measurementRepeatAfter - (now.toUInt64 - u.timestamp quantity)).toNat =
          300 - (now.toUInt64 - u.timestamp quantity).toNat :=
        UInt64.toNat_sub_of_le _ _ (UInt64.le_iff_toNat_le.mpr (not_lt.mp
          (mt UInt64.lt_iff_toNat_lt.mpr hyoung)))
      omega

namespace TotalPowerConfiguration

/-- The interval lies between one second and five minutes, in every configuration and at any
readings of the clock. -/
theorem getPollInterval_mem (c : TotalPowerConfiguration V) (clock : ℕ → Int64) :
    1000 ≤ c.getPollInterval clock ∧ c.getPollInterval clock ≤ 300000 := by
  have hupper : c.getPollInterval clock ≤ 1000 * 300 :=
    (c.getPollInterval_le_iff clock 300).mpr (Or.inl le_rfl)
  have hlower : ¬ c.getPollInterval clock ≤ 1000 * 0 := by
    rw [getPollInterval_le_iff]
    rintro (hwait | ⟨it, -, hpositive, hwait⟩ | ⟨-, hwait⟩) <;> omega
  have hseconds : 1000 ∣ c.getPollInterval clock := Dvd.intro_left _ rfl
  omega

/-- The part of `getPollInterval` for the pending reload, in the arithmetic of `int64_t`. -/
def withReload64 (reconfigPending now T : Int64) : Int64 :=
  if reconfigPending ≠ 0 then
    let Tx := reconfigPending - now + 1
    let Tx := if Tx ≤ 0 then 1 else Tx
    if Tx < T then Tx else T
  else T

/-- `getPollInterval` in the arithmetic of `int64_t`, in which the source computes it. -/
def getPollInterval64 (c : TotalPowerConfiguration V) (clock : ℕ → Int64) : Int64 :=
  let T := c.totals.zipIdx.foldl (fun T it =>
    let Tx := Int64.ofInt (it.1.1.timeToAdvertisement it.1.2 (clock it.2))
    if Tx > 0 ∧ Tx < T then Tx else T) (300 : Int64)
  withReload64 (Int64.ofInt c.reconfigPending) (clock c.totals.length) T * 1000

/-- The wait for the pending reload does not overflow. -/
theorem toInt_reloadWait {pending : ℤ} (hpending : 0 ≤ pending ∧ pending ≤ 2 ^ 62 + 60)
    {now : Int64} (hnow : ClockInRange now) :
    (Int64.ofInt pending - now + 1).toInt = pending - now.toInt + 1 := by
  obtain ⟨hlow, hhigh⟩ := hnow
  have hone : (1 : Int64).toInt = 1 := rfl
  rw [Int64.toInt_add, Int64.toInt_sub, hone, Int64.toInt_ofInt_of_le (by omega) (by omega),
    Int.bmod_eq_of_le (n := pending - now.toInt) (by omega) (by omega),
    Int.bmod_eq_of_le (by omega) (by omega)]

/-- The pending reload shortens the interval alike in both arithmetics. -/
theorem toInt_withReload64 {pending : ℤ} (hpending : 0 ≤ pending ∧ pending ≤ 2 ^ 62 + 60)
    {now : Int64} (hnow : ClockInRange now) (T : Int64) :
    (withReload64 (Int64.ofInt pending) now T).toInt =
      if pending ≠ 0 then
        let Tx := pending - now.toInt + 1
        let Tx := if Tx ≤ 0 then 1 else Tx
        if Tx < T.toInt then Tx else T.toInt
      else T.toInt := by
  have hone : (1 : Int64).toInt = 1 := rfl
  have hzero : (0 : Int64).toInt = 0 := rfl
  have hpendingZero : Int64.ofInt pending = 0 ↔ pending = 0 := by
    rw [← Int64.toInt_inj, Int64.toInt_ofInt_of_le (by omega) (by omega), hzero]
  simp only [withReload64, ne_eq, hpendingZero, Int64.le_iff_toInt_le, Int64.lt_iff_toInt_lt,
    apply_ite Int64.toInt, toInt_reloadWait hpending hnow, hone, hzero]

/-- The loops over the totals compute the same minimum in both arithmetics. -/
theorem toInt_foldl_wait (l : List ((TPUnit V × String) × ℕ)) (clock : ℕ → Int64) (T : Int64) :
    (l.foldl (fun T it =>
      let Tx := Int64.ofInt (it.1.1.timeToAdvertisement it.1.2 (clock it.2))
      if Tx > 0 ∧ Tx < T then Tx else T) T).toInt =
    l.foldl (fun T it =>
      let Tx := it.1.1.timeToAdvertisement it.1.2 (clock it.2)
      if Tx > 0 ∧ Tx < T then Tx else T) T.toInt := by
  refine (List.foldl_hom Int64.toInt fun T it => ?_).symm
  obtain ⟨hlow, hhigh⟩ := it.1.1.timeToAdvertisement_mem it.1.2 (clock it.2)
  have hTx : (Int64.ofInt (it.1.1.timeToAdvertisement it.1.2 (clock it.2))).toInt =
      it.1.1.timeToAdvertisement it.1.2 (clock it.2) :=
    Int64.toInt_ofInt_of_le (by omega) (by omega)
  have hzero : (0 : Int64).toInt = 0 := rfl
  simp only [gt_iff_lt, Int64.lt_iff_toInt_lt, hTx, hzero]
  split
  · exact hTx.symm
  · rfl

/-- **The arithmetic of the interval does not overflow**, for a clock between 0 and `2 ^ 62` and a
reload that is scheduled at most a minute later. -/
theorem toInt_getPollInterval64 (c : TotalPowerConfiguration V)
    (hpending : 0 ≤ c.reconfigPending ∧ c.reconfigPending ≤ 2 ^ 62 + 60) {clock : ℕ → Int64}
    (hclock : ∀ i, ClockInRange (clock i)) :
    (c.getPollInterval64 clock).toInt = c.getPollInterval clock := by
  obtain ⟨hlower, hupper⟩ := c.getPollInterval_mem clock
  have hthousand : (1000 : Int64).toInt = 1000 := rfl
  have hstart : (300 : Int64).toInt = (measurementRepeatAfter.toNat : ℤ) := by decide
  rw [getPollInterval64, Int64.toInt_mul, toInt_withReload64 hpending (hclock _), toInt_foldl_wait,
    hthousand, hstart]
  change (c.getPollInterval clock).bmod (2 ^ 64) = c.getPollInterval clock
  exact Int.bmod_eq_of_le (by omega) (by omega)

end TotalPowerConfiguration

/-! ### Runs -/

namespace Agent

omit [Double V] in
/-- The timer lies between one second and five minutes, and the reload is scheduled at most a minute
after the latest reading the clock can make. -/
structure TimerInRange (a : Agent V) : Prop where
  timeout : 1000 ≤ a.conf.timeout ∧ a.conf.timeout ≤ 300000
  reconfigPending : 0 ≤ a.conf.reconfigPending ∧ a.conf.reconfigPending ≤ 2 ^ 62 + 60

omit [Double V] in
theorem timeout_configure (a : Agent V) :
    (a.configure env).conf.timeout = a.conf.timeout := by
  rw [configure, TotalPowerConfiguration.configure_eq]

theorem timeout_setPollInterval (a : Agent V) :
    (a.setPollInterval env).conf.timeout =
      a.conf.getPollInterval fun i => env.time (a.world.pos + i) := rfl

/-- A step leaves the timer, or sets it to the poll interval. -/
theorem timeout_step (env : Env V) (a : Agent V) (s : Step V) :
    (a.step env s).conf.timeout = a.conf.timeout ∨
    ∃ (c : TotalPowerConfiguration V) (clock : ℕ → Int64),
      (a.step env s).conf.timeout = c.getPollInterval clock := by
  cases s with
  | configure => exact Or.inl (timeout_configure a)
  | processMetric M topic =>
    exact Or.inl (unitsOnly_of_unitMoves (processMetric_unitMoves env M topic a)).timeout
  | processAsset operation =>
    simp only [step, processAsset]
    split
    · exact Or.inr ⟨_, _, timeout_setPollInterval (a.scheduleReconfig env)⟩
    · exact Or.inl rfl
  | onPoll => exact Or.inr ⟨_, _, timeout_setPollInterval ((a.passes env).reconfigure env)⟩
  | setPollInterval => exact Or.inr ⟨_, _, timeout_setPollInterval a⟩

omit [Double V] in
theorem timerInRange_init : (Agent.init : Agent V).TimerInRange := by
  have htimeout : (Agent.init : Agent V).conf.timeout = 5000 := rfl
  have hpending : (Agent.init : Agent V).conf.reconfigPending = 0 := rfl
  constructor
  · rw [htimeout]
    decide
  · rw [hpending]
    decide

/-- Every step keeps timer and schedule in their ranges. -/
theorem TimerInRange.step {a : Agent V} (h : a.TimerInRange)
    (hclock : ∀ i, ClockInRange (env.time i)) (s : Step V) : (a.step env s).TimerInRange := by
  constructor
  · rcases timeout_step env a s with hsame | ⟨c, clock, hinterval⟩
    · rw [hsame]
      exact h.timeout
    · rw [hinterval]
      exact c.getPollInterval_mem clock
  · have hminute : ∀ i, 0 ≤ (env.time i).toInt + 60 ∧ (env.time i).toInt + 60 ≤ 2 ^ 62 + 60 := by
      intro i
      obtain ⟨hlow, hhigh⟩ := hclock i
      omega
    rcases step_schedule env a s with
      ⟨hsame, -⟩ | ⟨-, -, hscheduled, -⟩ | ⟨-, place, loaded, -, -, -, hpending⟩
    · rw [hsame]
      exact h.reconfigPending
    · rw [hscheduled]
      exact hminute _
    · rw [hpending]
      split
      · decide
      · exact hminute place

/-- Timer and schedule stay in their ranges in every run. -/
theorem timerInRange_run (hclock : ∀ i, ClockInRange (env.time i)) (steps : List (Step V)) :
    (run env steps).TimerInRange :=
  Reachability.invariant (r := fun a a' : Agent V => ∃ s, a' = a.step env s)
    (P := fun a => a.TimerInRange)
    (fun _ _ ⟨s, hs⟩ h => hs ▸ h.step hclock s)
    (Reachability.reflTransGen_foldl (fun _ s => .single ⟨s, rfl⟩) steps Agent.init)
    timerInRange_init

end Agent

/-- **The poll timeout always stays in a safe range.** In every run at readings of the clock between
0 and `2 ^ 62`, in whatever order: the timer lies between 1000 and 300000 ms, and so does every
poll interval at such readings, with any units and any change times in place of those of the
run; the `int64_t` arithmetic of the interval does not overflow, and its conversion to `int`
loses nothing. -/
theorem pollInterval_bounds (env : Env V) (hclock : ∀ i, ClockInRange (env.time i))
    (steps : List (Step V)) :
    let c := (run env steps).conf
    (1000 ≤ c.timeout ∧ c.timeout ≤ 300000 ∧
      (Int64.ofInt c.timeout).toInt32.toInt = c.timeout) ∧
    ∀ (racks dcs : UnitGroup V) (clock : ℕ → Int64), (∀ i, ClockInRange (clock i)) →
      let c' := { c with racks, dcs }
      1000 ≤ c'.getPollInterval clock ∧ c'.getPollInterval clock ≤ 300000 ∧
      (c'.getPollInterval64 clock).toInt = c'.getPollInterval clock ∧
      (c'.getPollInterval64 clock).toInt32.toInt = c'.getPollInterval clock := by
  intro c
  obtain ⟨hlow, hhigh⟩ : 1000 ≤ c.timeout ∧ c.timeout ≤ 300000 :=
    (Agent.timerInRange_run hclock steps).timeout
  have hpending : 0 ≤ c.reconfigPending ∧ c.reconfigPending ≤ 2 ^ 62 + 60 :=
    (Agent.timerInRange_run hclock steps).reconfigPending
  refine ⟨⟨hlow, hhigh, ?_⟩, fun racks dcs clock hclock' => ?_⟩
  · have htimeout : (Int64.ofInt c.timeout).toInt = c.timeout :=
      Int64.toInt_ofInt_of_le (by omega) (by omega)
    rw [Int64.toInt_toInt32, htimeout]
    exact Int.bmod_eq_of_le (by omega) (by omega)
  · intro c'
    obtain ⟨hlow', hhigh'⟩ := c'.getPollInterval_mem clock
    have hsame := c'.toInt_getPollInterval64 hpending hclock'
    refine ⟨hlow', hhigh', hsame, ?_⟩
    rw [Int64.toInt_toInt32, hsame]
    exact Int.bmod_eq_of_le (by omega) (by omega)

theorem pollInterval_bounds_oneRack :
    let c := (run oneRackEnv oneRackSteps).conf
    (1000 ≤ c.timeout ∧ c.timeout ≤ 300000 ∧
      (Int64.ofInt c.timeout).toInt32.toInt = c.timeout) ∧
    ∀ (racks dcs : UnitGroup Exact) (clock : ℕ → Int64), (∀ i, ClockInRange (clock i)) →
      let c' := { c with racks, dcs }
      1000 ≤ c'.getPollInterval clock ∧ c'.getPollInterval clock ≤ 300000 ∧
      (c'.getPollInterval64 clock).toInt = c'.getPollInterval clock ∧
      (c'.getPollInterval64 clock).toInt32.toInt = c'.getPollInterval clock := by
  refine pollInterval_bounds oneRackEnv (fun i => ?_) oneRackSteps
  simp only [oneRackEnv]
  split <;> exact ⟨by decide, by decide⟩

end MetricTPower
