import MetricTPower.Agent.RateLimit

/-!
# Where a published total comes from

The metric that `sendMeasurement` gives to the sending function is read from the stored totals, and
need not come from the calculation of the same call. Its origin is the last call of the unit for the
quantity that stored a total: what is sent is the result of that calculation, with its value and its
timestamp, since nothing but a later store, the purge or a reload takes a stored total away.

## Main definitions

* `LastStore`: a call that stored a total, and no later one has stored another.
* `StoreTraced`: the stored totals of a unit have their origins in the history.

## Main results

* `lastStore_of_sent`: every metric that is sent is the result of the last store.
-/

open Std (TreeMap)

namespace MetricTPower

variable {V : Type} [Double V] {env : Env V}

variable (env) in
/-- A call of the unit of an owner that stored a total of a quantity, and since which the unit has
not been loaded anew and has stored no other total of the quantity. -/
structure LastStore (kind : Kind) (owner quantity : String) (newer : List (Event V))
    (origin : Call V) : Prop where
  isOf : origin.IsOf kind owner quantity
  stores : origin.Stores env
  not_loaded : ∀ pos loaded, .configure pos loaded ∉ newer
  not_stored : ∀ later ∈ calls newer, later.IsOf kind owner quantity → ¬ later.Stores env

variable (env) in
/-- Every stored total of a unit is the result of the last call that stored one. -/
def StoreTraced (kind : Kind) (owner : String) (u : TPUnit V) (history : List (Event V)) : Prop :=
  ∀ quantity M, u.lastValue.knownMetrics[u.generateTopic quantity]? = some M →
    ∃ newer origin older, history = newer ++ .sendMeasurement origin :: older ∧
      LastStore env kind owner quantity newer origin ∧
      origin.before.calculation quantity (env.time origin.pos) = .ok M

section StoreTraced

variable {kind : Kind} {owner quantity : String} {u v : TPUnit V} {history : List (Event V)}
  {call : Call V}

/-- The last store stays the last one when a call follows that stores nothing for the quantity. -/
theorem LastStore.cons {newer : List (Event V)} {origin : Call V}
    (h : LastStore env kind owner quantity newer origin)
    (hcall : call.IsOf kind owner quantity → ¬ call.Stores env) :
    LastStore env kind owner quantity (.sendMeasurement call :: newer) origin where
  isOf := h.isOf
  stores := h.stores
  not_loaded pos loaded hmem := by
    rcases List.mem_cons.mp hmem with hfirst | hrest
    · cases hfirst
    · exact h.not_loaded pos loaded hrest
  not_stored later hlater := by
    rw [calls_sendMeasurement, List.mem_cons] at hlater
    rcases hlater with rfl | hrest
    · exact hcall
    · exact h.not_stored later hrest

/-- A unit that has some of the totals of a unit has the same origins of them. -/
theorem StoreTraced.of_subset (h : StoreTraced env kind owner u history) (hname : v.name = u.name)
    (htotals : ∀ (topic : String) (M : MetricInfo V), v.lastValue.knownMetrics[topic]? = some M →
      u.lastValue.knownMetrics[topic]? = some M) : StoreTraced env kind owner v history := by
  intro quantity M hM
  have htopic : v.generateTopic quantity = u.generateTopic quantity := by
    rw [TPUnit.generateTopic, TPUnit.generateTopic, hname]
  rw [htopic] at hM
  exact h quantity M (htotals _ M hM)

/-- A call of another unit is not the origin of a total of this one. -/
theorem StoreTraced.otherCall (h : StoreTraced env kind owner u history)
    (hother : ¬ (call.kind = kind ∧ call.owner = owner)) :
    StoreTraced env kind owner u (.sendMeasurement call :: history) := by
  intro quantity M hM
  obtain ⟨newer, origin, older, hhistory, hlast, horigin⟩ := h quantity M hM
  refine ⟨.sendMeasurement call :: newer, origin, older, ?_, hlast.cons ?_, horigin⟩
  · rw [hhistory, List.cons_append]
  · exact fun hof => absurd ⟨hof.1, hof.2.1⟩ hother

/-- The calculation of a call is the origin of the total of its quantity when the call stores one;
otherwise the total is the one from before, with its origin. -/
theorem StoreTraced.calculate (h : StoreTraced env kind owner call.before history)
    (hkind : call.kind = kind) (howner : call.owner = owner) :
    StoreTraced env kind owner (call.before.calculate call.quantity (env.time call.pos))
      (.sendMeasurement call :: history) := by
  have hcalc := call.before.onlyTotal_calculate call.quantity (env.time call.pos)
  intro quantity M hM
  have htopic : (call.before.calculate call.quantity (env.time call.pos)).generateTopic quantity =
      call.before.generateTopic quantity := by
    rw [TPUnit.generateTopic, TPUnit.generateTopic, hcalc.name]
  rw [htopic] at hM
  -- what is kept from before has its origin before the call
  have hkept : call.before.lastValue.knownMetrics[call.before.generateTopic quantity]? = some M →
      (call.IsOf kind owner quantity → ¬ call.Stores env) →
      ∃ newer origin older, .sendMeasurement call :: history =
        newer ++ .sendMeasurement origin :: older ∧
        LastStore env kind owner quantity newer origin ∧
        origin.before.calculation quantity (env.time origin.pos) = .ok M := by
    intro hbefore hnot
    obtain ⟨newer, origin, older, hhistory, hlast, horigin⟩ := h quantity M hbefore
    refine ⟨.sendMeasurement call :: newer, origin, older, ?_, hlast.cons hnot, horigin⟩
    rw [hhistory, List.cons_append]
  by_cases hquantity : call.quantity = quantity
  · subst hquantity
    by_cases hstores : call.Stores env
    · -- the call is the origin
      refine ⟨[], call, history, rfl, ⟨⟨hkind, howner, rfl⟩, hstores, by simp, by simp [calls]⟩, ?_⟩
      obtain ⟨result, hresult, hreplaces⟩ := hstores
      rw [TPUnit.calculate_of_ok hresult, TPUnit.set_of_replaces hreplaces, TPUnit.stored,
        MetricList.knownMetrics_addMetricInfo] at hM
      obtain ⟨sum, rfl⟩ := TPUnit.calculation_eq_ok hresult
      rw [if_pos (TPUnit.generateTopic_result ..), Option.some.injEq] at hM
      rw [hresult, hM]
    · rw [Call.calculate_of_not_stores hstores] at hM
      exact hkept hM fun _ => hstores
  · rw [hcalc.lastValue] at hM
    · exact hkept hM fun hof => absurd hof.2.2 hquantity
    · rw [TPUnit.generateTopic, TPUnit.generateTopic, ne_eq, topicOf_left_inj]
      exact Ne.symm hquantity

end StoreTraced

/-- Every move keeps the origins of the stored totals in the history. -/
theorem storeTraced_invariant : UnitInvariant env (StoreTraced env) where
  fresh kind owner u history pos loaded hu quantity M hM := by
    rw [hu.lastValue_eq] at hM
    simp at hM
  setMeasurement kind owner u history M h :=
    h.of_subset (TPUnit.name_setMeasurement u M) fun topic N hN => by simpa using hN
  dropOldMetricInfos kind owner u history clock h := by
    refine h.of_subset rfl fun topic M hM => ?_
    have hM' : (u.lastValue.removeOldMetrics
        (clock u.powerdevices.size)).knownMetrics[topic]? = some M := hM
    rw [MetricList.knownMetrics_removeOldMetrics, Option.filter_eq_some_iff] at hM'
    exact hM'.1
  sendMeasurement kind owner quantity u w _ h := by
    obtain ⟨call, hw, hkind, howner, rfl, rfl, hpos, -, hcase⟩ :=
      sendMeasurement_cases env kind owner quantity u w
    have hcalc := h.calculate hkind howner
    rw [hpos] at hcalc
    rw [hw, history_record]
    rcases hcase with ⟨-, hu, -⟩ | ⟨M, -, -, -, hu⟩
    · rwa [hu]
    · rw [hu]
      split
      · exact hcalc.of_subset (TPUnit.name_advertised ..) fun topic N hN => by simpa using hN
      · exact hcalc
  otherCall kind owner u history call hother h := h.otherCall hother

/-- **Every metric that is sent is the result of the last store.** In every run, whatever the clock,
the database and the sending function do: the metric given to the sending function in a call of
`sendMeasurement` is, with its value and timestamp, the result calculated in a call for the same
quantity of the same unit, this one or an earlier one, that stored it; and since then the unit has
not been loaded anew, and each of its calculations of the quantity has failed or come out within the
dead band. -/
theorem lastStore_of_sent (env : Env V) (steps : List (Step V)) (newer older : List (Event V))
    (call : Call V)
    (hhistory : (run env steps).world.history = newer ++ .sendMeasurement call :: older)
    (M : MetricInfo V) (reply : Reply) (hsent : call.sent = some (M, reply)) :
    ∃ newer' origin older', .sendMeasurement call :: older =
        newer' ++ .sendMeasurement origin :: older' ∧
      LastStore env call.kind call.owner call.quantity newer' origin ∧
      origin.before.calculation call.quantity (env.time origin.pos) = .ok M := by
  obtain ⟨w, hw, -, htraced, hrecord⟩ :=
    (storeTraced_invariant.traced steps).calls newer call older hhistory
  obtain ⟨call', hrecord', -, -, -, -, hpos, -, hcase⟩ :=
    sendMeasurement_cases env call.kind call.owner call.quantity call.before w
  obtain rfl : call' = call := w.record_injective (hrecord'.symm.trans hrecord)
  rcases hcase with ⟨hnone, -, -⟩ | ⟨M', -, hread, hsent', -⟩
  · rw [hsent] at hnone
    cases hnone
  · rw [hsent, Option.some.injEq, Prod.mk.injEq] at hsent'
    obtain ⟨rfl, -⟩ := hsent'
    rw [hw] at htraced
    have hstored := TPUnit.getMetricInfo_eq_ok_iff.mp hread
    rw [← hpos] at hstored
    exact htraced.calculate rfl rfl call'.quantity M hstored.1

end MetricTPower
