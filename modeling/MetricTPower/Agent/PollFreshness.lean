import MetricTPower.Agent.PollSends

/-!
# What a poll uses

A poll purges a unit before it calculates and sends its totals. So every measurement that such a
calculation reads, and every metric that is sent, was not expired at some reading of the clock
between the start of the poll and the call. A call of `sendMeasurement` for a received metric has no
such guarantee, since no purge comes before it.

## Main definitions

* `UnexpiredIn`: a metric is not expired at some reading of a stretch.
* `TPUnit.FreshIn`, `Call.FreshIn`: what a unit holds, and what a call uses.

## Main results

* `freshIn_dropOldMetricInfos`: what the purge leaves.
* `onPoll_fresh`: what the calls of a poll use.
-/

open Std (TreeMap)

namespace MetricTPower

variable {V : Type} {env : Env V} {start now : ℕ} {m : MetricInfo V}

/-! ### Metrics that are not expired -/

/-- A metric is not expired at some reading of the clock of a stretch. -/
def UnexpiredIn (env : Env V) (start now : ℕ) (m : MetricInfo V) : Prop :=
  ∃ place, start ≤ place ∧ place < now ∧ m.expired (env.time place) = false

theorem UnexpiredIn.mono (h : UnexpiredIn env start now m) {now' : ℕ} (hle : now ≤ now') :
    UnexpiredIn env start now' m := by
  obtain ⟨place, hstart, hnow, hm⟩ := h
  exact ⟨place, hstart, hnow.trans_le hle, hm⟩

/-- All that a unit holds was not expired at some reading of a stretch. -/
structure TPUnit.FreshIn (env : Env V) (start now : ℕ) (u : TPUnit V) : Prop where
  measurements : ∀ device quantity m, u.measurementOf device quantity = some m →
    UnexpiredIn env start now m
  totals : ∀ (topic : String) m, u.lastValue.knownMetrics[topic]? = some m →
    UnexpiredIn env start now m

/-- All that a call uses was not expired at some reading since the start of a stretch, the one of
the calculation included for the metric that is sent. -/
structure Call.FreshIn (env : Env V) (start : ℕ) (call : Call V) : Prop where
  measurements : ∀ device quantity m, call.before.measurementOf device quantity = some m →
    UnexpiredIn env start call.pos m
  sent : ∀ M reply, call.sent = some (M, reply) → UnexpiredIn env start (call.pos + 1) M

theorem TPUnit.FreshIn.mono_start {u : TPUnit V} {start' : ℕ} (h : u.FreshIn env start now)
    (hle : start' ≤ start) : u.FreshIn env start' now where
  measurements device quantity m hm := by
    obtain ⟨place, hstart, hnow, hm⟩ := h.measurements device quantity m hm
    exact ⟨place, hle.trans hstart, hnow, hm⟩
  totals topic m hm := by
    obtain ⟨place, hstart, hnow, hm⟩ := h.totals topic m hm
    exact ⟨place, hle.trans hstart, hnow, hm⟩

/-- What the purge leaves is not expired at the reading for its list. -/
theorem freshIn_dropOldMetricInfos (u : TPUnit V) (w : World V) :
    (dropOldMetricInfos env (u, w)).1.FreshIn env w.pos (dropOldMetricInfos env (u, w)).2.pos where
  measurements device quantity m hm := by
    have hm' : (u.dropOldMetricInfos fun i => env.time (w.pos + i)).measurementOf device quantity =
      some m := hm
    rw [TPUnit.measurementOf_dropOldMetricInfos, Option.filter_eq_some_iff] at hm'
    have hindex : u.powerdevices.keys.idxOf device ≤ u.powerdevices.size :=
      List.idxOf_le_length.trans_eq TreeMap.length_keys
    exact ⟨_, Nat.le_add_right _ _, Nat.add_lt_add_left (Nat.lt_succ_of_le hindex) _,
      by simpa using hm'.2⟩
  totals topic m hm := by
    have hm' : (u.lastValue.removeOldMetrics
      (env.time (w.pos + u.powerdevices.size))).knownMetrics[topic]? = some m := hm
    rw [MetricList.knownMetrics_removeOldMetrics, Option.filter_eq_some_iff] at hm'
    exact ⟨_, Nat.le_add_right _ _, Nat.add_lt_add_left (Nat.lt_succ_self _) _,
      by simpa using hm'.2⟩

/-- A total is not expired at the reading of its own calculation. -/
theorem expired_result (u : TPUnit V) (quantity : String) (now : Int64) (sum : V) :
    (u.result quantity now sum).expired now = false := by
  simp [MetricInfo.expired, TPUnit.result]

variable [Double V]

/-- The calculation of a call keeps what the unit holds fresh. -/
theorem TPUnit.FreshIn.calculate {u : TPUnit V} (h : u.FreshIn env start now) (hstart : start ≤ now)
    (quantity : String) : (u.calculate quantity (env.time now)).FreshIn env start (now + 1) where
  measurements device q m hm := by
    rw [TPUnit.measurementOf_congr (u.onlyTotal_calculate quantity _).powerdevices] at hm
    exact (h.measurements device q m hm).mono (Nat.le_succ now)
  totals topic m hm := by
    rcases u.calculate_cases quantity (env.time now) with hsame | ⟨sum, -, hstored⟩
    · rw [hsame] at hm
      exact (h.totals topic m hm).mono (Nat.le_succ now)
    · rw [hstored, TPUnit.stored, MetricList.knownMetrics_addMetricInfo] at hm
      split at hm
      · obtain rfl := Option.some.inj hm
        exact ⟨now, hstart, Nat.lt_succ_self now, expired_result u quantity _ sum⟩
      · exact (h.totals topic m hm).mono (Nat.le_succ now)

/-- A call of a fresh unit uses nothing that is expired, and leaves the unit fresh. -/
theorem TPUnit.FreshIn.sendMeasurement {u : TPUnit V} {w : World V}
    (h : u.FreshIn env start w.pos) (hstart : start ≤ w.pos) (kind : Kind)
    (owner quantity : String) :
    ∃ call, (sendMeasurement env kind owner quantity (u, w)).2 = w.record call ∧
      call.FreshIn env start ∧
      (sendMeasurement env kind owner quantity (u, w)).1.FreshIn env start (w.pos + 4) := by
  have hcalc := h.calculate hstart quantity
  have hmono : ∀ {v : TPUnit V}, v.FreshIn env start (w.pos + 1) →
      v.FreshIn env start (w.pos + 4) := fun hv =>
    ⟨fun device q m hm => (hv.measurements device q m hm).mono (by omega),
      fun topic m hm => (hv.totals topic m hm).mono (by omega)⟩
  obtain ⟨call, hw, -, -, -, rfl, hpos, -, ⟨hsent, hu, -⟩ | ⟨M, -, hread, hsent, hu⟩⟩ :=
    sendMeasurement_cases env kind owner quantity u w
  · refine ⟨call, hw, ⟨fun device q m hm => hpos ▸ h.measurements device q m hm, ?_⟩, ?_⟩
    · intro M reply hM
      rw [hsent] at hM
      cases hM
    · rw [hu]
      exact hmono hcalc
  · refine ⟨call, hw, ⟨fun device q m hm => hpos ▸ h.measurements device q m hm, ?_⟩, ?_⟩
    · intro M' reply hM'
      rw [hsent, Option.some.injEq, Prod.mk.injEq] at hM'
      obtain ⟨rfl, -⟩ := hM'
      rw [hpos]
      exact hcalc.totals _ M (TPUnit.getMetricInfo_eq_ok_iff.mp hread).1
    · rw [hu]
      split
      · refine hmono ⟨fun device q m hm => ?_, fun topic m hm => ?_⟩
        · rw [TPUnit.measurementOf_congr (TPUnit.powerdevices_advertised ..)] at hm
          exact hcalc.measurements device q m hm
        · rw [TPUnit.lastValue_advertised] at hm
          exact hcalc.totals topic m hm
      · exact hmono hcalc

/-! ### The calls of a poll -/

namespace Agent

variable {kind : Kind} {owner : String} {a b c : Agent V}

/-- From one agent to another, all calls use what was not expired since the start of a stretch. -/
structure FreshCalls (env : Env V) (start : ℕ) (a a' : Agent V) : Prop where
  pos_le : a.world.pos ≤ a'.world.pos
  calls_eq : ∃ new, calls a'.world.history = new ++ calls a.world.history ∧
    ∀ call ∈ new, call.FreshIn env start

namespace FreshCalls

omit [Double V] in
theorem of_calls_eq (hpos : a.world.pos ≤ b.world.pos)
    (hcalls : calls b.world.history = calls a.world.history) : FreshCalls env start a b :=
  ⟨hpos, [], hcalls, by simp⟩

omit [Double V] in
theorem trans (hab : FreshCalls env start a b) (hbc : FreshCalls env start b c) :
    FreshCalls env start a c where
  pos_le := hab.pos_le.trans hbc.pos_le
  calls_eq := by
    obtain ⟨new, hnew, hfresh⟩ := hab.calls_eq
    obtain ⟨new', hnew', hfresh'⟩ := hbc.calls_eq
    exact ⟨new' ++ new, by rw [hnew', hnew, List.append_assoc], fun call hcall =>
      (List.mem_append.mp hcall).elim (hfresh' call) (hfresh call)⟩

end FreshCalls

/-- The calls of a fresh unit, for some of its quantities. -/
theorem freshCalls_foldl (kind : Kind) (owner : String) :
    ∀ (l : List String) (a : Agent V), start ≤ a.world.pos →
      (∀ u, a.unit? kind owner = some u → u.FreshIn env start a.world.pos) →
      FreshCalls env start a (l.foldl
        (fun a quantity => a.onUnit kind owner (sendMeasurement env kind owner quantity)) a)
  | [], a, _, _ => .of_calls_eq le_rfl rfl
  | quantity :: l, a, hstart, hunit => by
    rw [List.foldl_cons]
    cases hu : a.unit? kind owner with
    | none =>
      rw [onUnit_of_none hu]
      exact freshCalls_foldl kind owner l a hstart hunit
    | some u =>
      obtain ⟨call, hw, hcall, hfresh⟩ :=
        (hunit u hu).sendMeasurement hstart kind owner quantity
      have hworld := world_onUnit_of_some hu (f := sendMeasurement env kind owner quantity)
      rw [hw] at hworld
      have hfirst : FreshCalls env start a
          (a.onUnit kind owner (sendMeasurement env kind owner quantity)) := by
        refine ⟨?_, [call], ?_, by simpa using hcall⟩
        · rw [hworld]
          exact Nat.le_add_right _ _
        · rw [hworld]
          rfl
      refine hfirst.trans (freshCalls_foldl kind owner l _ (hstart.trans hfirst.pos_le) ?_)
      intro v hv
      rw [unit?_onUnit, if_pos ⟨rfl, rfl⟩, hu, Option.map_some, Option.some.injEq] at hv
      rw [hworld, ← hv]
      exact hfresh

variable (env) in
theorem freshCalls_sendElement (kind : Kind) (owner : String) (a : Agent V)
    (hstart : start ≤ a.world.pos) : FreshCalls env start a (a.sendElement env kind owner) := by
  rw [sendElement]
  cases hu : a.unit? kind owner with
  | none =>
    rw [onUnit_of_none hu]
    refine freshCalls_foldl kind owner _ a hstart fun u hu' => ?_
    rw [hu] at hu'
    cases hu'
  | some u =>
    have hworld := world_onUnit_of_some hu (f := dropOldMetricInfos env)
    have hpurge : FreshCalls env start a (a.onUnit kind owner (dropOldMetricInfos env)) := by
      refine .of_calls_eq ?_ (congrArg calls (history_onUnit_dropOldMetricInfos env kind owner a))
      rw [hworld]
      exact Nat.le_add_right _ _
    refine hpurge.trans (freshCalls_foldl kind owner _ _ (hstart.trans hpurge.pos_le) ?_)
    intro v hv
    rw [unit?_onUnit, if_pos ⟨rfl, rfl⟩, hu, Option.map_some, Option.some.injEq] at hv
    rw [hworld, ← hv]
    exact (freshIn_dropOldMetricInfos u a.world).mono_start hstart

variable (env) in
theorem freshCalls_sendMeasurements (kind : Kind) (a : Agent V) (hstart : start ≤ a.world.pos) :
    FreshCalls env start a (a.sendMeasurements env kind) := by
  rw [sendMeasurements]
  generalize (a.conf.group kind).units.keys = l
  induction l generalizing a with
  | nil => exact .of_calls_eq le_rfl rfl
  | cons owner l ih =>
    have hfirst := freshCalls_sendElement env kind owner a hstart
    exact hfirst.trans (ih _ (hstart.trans hfirst.pos_le))

/-- **A poll uses nothing that is expired.** For every agent, whatever the clock, the database and
the sending function do: in each call of `sendMeasurement` of a poll, every measurement that the
unit holds was not expired at a reading of the clock between the start of the poll and the call; and
a metric that is sent was not expired at such a reading or that of the calculation. -/
theorem onPoll_fresh (env : Env V) (a : Agent V) :
    ∃ new, calls (a.onPoll env).world.history = new ++ calls a.world.history ∧ ∀ call ∈ new,
      (∀ device quantity m, call.before.measurementOf device quantity = some m →
        ∃ place, a.world.pos ≤ place ∧ place < call.pos ∧ m.expired (env.time place) = false) ∧
      ∀ M reply, call.sent = some (M, reply) →
        ∃ place, a.world.pos ≤ place ∧ place ≤ call.pos ∧ M.expired (env.time place) = false := by
  have hracks := freshCalls_sendMeasurements env .rack a le_rfl
  obtain ⟨-, new, hnew, hfresh⟩ :=
    hracks.trans (freshCalls_sendMeasurements env .dc _ hracks.pos_le)
  refine ⟨new, (calls_onPoll env a).trans hnew, fun call hcall => ?_⟩
  refine ⟨(hfresh call hcall).measurements, fun M reply hsent => ?_⟩
  obtain ⟨place, hstart, hlt, hM⟩ := (hfresh call hcall).sent M reply hsent
  exact ⟨place, hstart, Nat.le_of_lt_succ hlt, hM⟩

end Agent

end MetricTPower
