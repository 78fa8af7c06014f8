import MetricTPower.Agent.Moves
import MetricTPower.Unit.Calculation

/-!
# What is published

Whether `sendMeasurement` publishes a total is decided by `advertise` from the stored total, the
changed status and the times, not by the outcome of the calculation in the same call. This file has
two statements about that. A change of a total is never lost: as long as its last value has not
been sent, the quantity is marked as changed. But a total may be published in a call whose
calculation failed: exactly when the total that the unit still stores is due.

## Main definitions

* `WellNamed`: what is stored as a total is a total of the unit.
* `lastSent`: the metric most recently sent for a quantity of a unit.

## Main results

* `lastSent_of_unchanged`: a known total that is not marked as changed was sent as it is.
* `sent_calculated_iff`: when a published total comes from a completed calculation.
-/

open Std (TreeMap)

namespace MetricTPower

open Double

variable {V : Type} [Double V] {env : Env V}

/-! ### Changes are not lost -/

omit [Double V] in
/-- The metric of the most recent successful send of a quantity by the unit object of an owner,
which is made anew by each call of `configure`. -/
def lastSent (kind : Kind) (owner quantity : String) : List (Event V) → Option (MetricInfo V)
  | [] => none
  | .configure _ _ :: _ => none
  | .sendMeasurement call :: history =>
    match call.sent with
    | some (M, .returned true) =>
      if call.kind = kind ∧ call.owner = owner ∧ call.quantity = quantity then some M
      else lastSent kind owner quantity history
    | _ => lastSent kind owner quantity history

/-- Every known total of a unit that is not marked as changed is the one most recently sent. -/
def ChangeNoted (kind : Kind) (owner : String) (u : TPUnit V) (history : List (Event V)) : Prop :=
  ∀ quantity, isnan (u.storedTotal quantity) = false → u.changed quantity = false →
    ∃ M, lastSent kind owner quantity history = some M ∧ M.value = u.storedTotal quantity

section ChangeNoted

variable {kind : Kind} {owner quantity : String} {u : TPUnit V} {history : List (Event V)}
  {call : Call V}

omit [Double V] in
/-- A call that sends nothing with success. -/
theorem lastSent_of_not_sent (h : ∀ M, call.sent ≠ some (M, .returned true)) :
    lastSent kind owner quantity (.sendMeasurement call :: history) =
      lastSent kind owner quantity history := by
  rw [lastSent]
  split
  · rename_i M hsent
    exact absurd hsent (h M)
  · rfl

omit [Double V] in
/-- A call for another unit or another quantity. -/
theorem lastSent_of_other
    (h : ¬ (call.kind = kind ∧ call.owner = owner ∧ call.quantity = quantity)) :
    lastSent kind owner quantity (.sendMeasurement call :: history) =
      lastSent kind owner quantity history := by
  rw [lastSent]
  split
  · rw [if_neg h]
  · rfl

/-- A calculation stores a new value only together with the changed mark. -/
theorem ChangeNoted.calculate (h : ChangeNoted kind owner u history) (q : String) (now : Int64) :
    ChangeNoted kind owner (u.calculate q now) history := by
  rcases u.calculate_cases q now with hsame | ⟨sum, -, hstored⟩
  · rwa [hsame]
  · rw [hstored]
    intro quantity hknown hchanged
    rw [TPUnit.changed_stored] at hchanged
    rw [TPUnit.storedTotal_stored_result] at hknown ⊢
    split at hchanged
    · cases hchanged
    · rename_i hq
      rw [if_neg hq] at hknown ⊢
      exact h quantity hknown hchanged

/-- A successful send carries the stored total, and only then is the mark cleared. -/
theorem ChangeNoted.advertised (h : ChangeNoted kind owner u history) {q : String}
    {now now' : Int64} {M : MetricInfo V} (hread : u.getMetricInfo q = .ok M)
    (hkind : call.kind = kind) (howner : call.owner = owner) (hq : call.quantity = q)
    (hsent : call.sent = some (M, .returned true)) :
    ChangeNoted kind owner (u.advertised q now now') (.sendMeasurement call :: history) := by
  intro quantity hknown hchanged
  rw [TPUnit.storedTotal_advertised] at hknown ⊢
  by_cases hquantity : quantity = q
  · subst hquantity
    refine ⟨M, ?_, TPUnit.value_of_getMetricInfo hread⟩
    rw [lastSent, hsent]
    exact if_pos ⟨hkind, howner, hq⟩
  · rw [TPUnit.changed_advertised, if_neg hquantity] at hchanged
    rw [lastSent_of_other fun hsame => hquantity (hsame.2.2.symm.trans hq)]
    exact h quantity hknown hchanged

end ChangeNoted

/-- Every move keeps the changed marks in line with the history. -/
theorem changeNoted_invariant : UnitInvariant env (ChangeNoted (V := V)) where
  fresh kind owner u history pos loaded hu quantity hknown := by
    have hnan : u.storedTotal quantity = nan := by
      rw [TPUnit.storedTotal, hu.lastValue_eq]
      rfl
    rw [hnan, isnan_nan] at hknown
    cases hknown
  setMeasurement kind owner u history M h quantity hknown hchanged := by
    rw [TPUnit.storedTotal_setMeasurement] at hknown ⊢
    rw [TPUnit.changed, TPUnit.changedStatus_setMeasurement] at hchanged
    exact h quantity hknown hchanged
  dropOldMetricInfos kind owner u history clock h quantity hknown hchanged := by
    have hsame := TPUnit.storedTotal_dropOldMetricInfos_of_known hknown
    rw [hsame] at hknown ⊢
    exact h quantity hknown hchanged
  sendMeasurement kind owner quantity u w _ h := by
    obtain ⟨call, hw, hkind, howner, hq, -, -, -, ⟨hsent, hu, -⟩ | ⟨M, -, hread, hsent, hu⟩⟩ :=
      sendMeasurement_cases env kind owner quantity u w
    · rw [hw, hu, history_record]
      intro q hknown hchanged
      rw [lastSent_of_not_sent (by simp [hsent])]
      exact h.calculate quantity _ q hknown hchanged
    · rw [hw, hu, history_record]
      split
      · rename_i hreply
        rw [hreply] at hsent
        exact (h.calculate quantity _).advertised hread hkind howner hq hsent
      · rename_i hreply
        intro q hknown hchanged
        rw [lastSent_of_not_sent fun M' hM' => hreply ?_]
        · exact h.calculate quantity _ q hknown hchanged
        · rw [hsent] at hM'
          exact (Prod.ext_iff.mp (Option.some.inj hM')).2
  otherCall kind owner u history call hother h quantity hknown hchanged := by
    rw [lastSent_of_other fun hsame => hother ⟨hsame.1, hsame.2.1⟩]
    exact h quantity hknown hchanged

/-- **No change of a total is lost.** In every run, whatever the clock and the sending function do:
when a total of a unit is known and not marked as changed, then the most recent successful send
of its quantity by this unit object carried exactly the stored value. -/
theorem lastSent_of_unchanged (env : Env V) (steps : List (Step V)) (kind : Kind)
    (owner quantity : String) (u : TPUnit V) (hu : (run env steps).unit? kind owner = some u)
    (hknown : isnan (u.lastValue.find (u.generateTopic quantity)) = false)
    (hchanged : u.changed quantity = false) :
    ∃ M, lastSent kind owner quantity (run env steps).world.history = some M ∧
      M.value = u.lastValue.find (u.generateTopic quantity) :=
  (changeNoted_invariant.run steps).units kind owner u hu quantity hknown hchanged

theorem lastSent_of_unchanged_oneRack :
    ∃ u, (run oneRackEnv (oneRackSteps.take 2)).unit? .rack "rack-1" = some u ∧
      ∃ M, lastSent .rack "rack-1" "realpower.default"
          (run oneRackEnv (oneRackSteps.take 2)).world.history = some M ∧
        M.value = u.lastValue.find (u.generateTopic "realpower.default") := by
  have hrack : ((run oneRackEnv (oneRackSteps.take 2)).unit? .rack "rack-1").isSome = true := by
    decide +kernel
  refine ⟨Option.get _ hrack, (Option.some_get hrack).symm, ?_⟩
  exact lastSent_of_unchanged oneRackEnv (oneRackSteps.take 2) .rack "rack-1" "realpower.default" _
    (Option.some_get hrack).symm (by decide +kernel +revert) (by decide +kernel +revert)

/-! ### Totals published without a calculation -/

omit [Double V] in
/-- The stored totals of the unit of an owner are metrics of that owner for the quantities of its
kind. -/
structure WellNamed (kind : Kind) (owner : String) (u : TPUnit V) : Prop where
  name_eq : u.name = owner
  total : ∀ (topic : String) (m : MetricInfo V), u.lastValue.knownMetrics[topic]? = some m →
    m.generateTopic = topic ∧ m.elementName = owner ∧ m.source ∈ kind.quantities ∧
      m.units = "W" ∧ m.ttl = TPUnit.TTL

section WellNamed

variable {kind : Kind} {owner quantity : String} {u : TPUnit V}

theorem WellNamed.calculate (h : WellNamed kind owner u) {q : String} (hq : q ∈ kind.quantities)
    (now : Int64) : WellNamed kind owner (u.calculate q now) := by
  rcases u.calculate_cases q now with hsame | ⟨sum, -, hstored⟩
  · rwa [hsame]
  · rw [hstored]
    refine ⟨h.name_eq, fun topic m hm => ?_⟩
    have hm' : (u.lastValue.addMetricInfo (u.result q now sum)).knownMetrics[topic]? = some m := hm
    rw [MetricList.knownMetrics_addMetricInfo] at hm'
    split at hm'
    · rename_i htopic
      obtain rfl := Option.some.inj hm'
      exact ⟨htopic, h.name_eq, hq, rfl, rfl⟩
    · exact h.total topic m hm'

theorem quantity_ne_empty (h : quantity ∈ kind.quantities) : quantity.isEmpty = false := by
  have hall : ∀ q ∈ kind.quantities, q.isEmpty = false := by cases kind <;> decide
  exact hall quantity h

/-- A known total can be read for sending unless the name of its unit is empty. -/
theorem WellNamed.exists_getMetricInfo_iff (h : WellNamed kind owner u)
    (hknown : isnan (u.storedTotal quantity) = false) :
    (∃ M, u.getMetricInfo quantity = .ok M) ↔ owner ≠ "" := by
  obtain ⟨m, hm, -⟩ := (MetricList.isnan_find_eq_false_iff _ _).mp hknown
  obtain ⟨-, helement, hsource, hunits, -⟩ := h.total _ m hm
  have hunknown : m.isUnknown = owner.isEmpty := by
    rw [MetricInfo.isUnknown, helement, quantity_ne_empty hsource, hunits, Bool.or_false]
    exact Bool.or_false _
  simp only [TPUnit.getMetricInfo_eq_ok_iff, hm, Option.some.injEq, exists_eq_left', hunknown]
  rw [← Bool.not_eq_true, String.isEmpty_iff]

end WellNamed

/-- The stored totals are always metrics of their unit. -/
theorem wellNamed_invariant :
    UnitInvariant env (fun kind owner (u : TPUnit V) _ => WellNamed kind owner u) where
  fresh kind owner u history pos loaded hu :=
    ⟨hu.name_eq, fun topic m hm => by rw [hu.lastValue_eq] at hm; simp at hm⟩
  setMeasurement kind owner u history M h :=
    ⟨by rw [TPUnit.name_setMeasurement, h.name_eq], by simpa using h.total⟩
  dropOldMetricInfos kind owner u history clock h := by
    refine ⟨h.name_eq, fun topic m hm => ?_⟩
    have hm' : (u.lastValue.removeOldMetrics
        (clock u.powerdevices.size)).knownMetrics[topic]? = some m := hm
    rw [MetricList.knownMetrics_removeOldMetrics, Option.filter_eq_some_iff] at hm'
    exact h.total topic m hm'.1
  sendMeasurement kind owner quantity u w hq h := by
    have hcalc := h.calculate hq (env.time w.pos)
    obtain ⟨call, -, -, -, -, -, -, -, ⟨-, hu, -⟩ | ⟨M, -, -, -, hu⟩⟩ :=
      sendMeasurement_cases env kind owner quantity u w
    · rwa [hu]
    · rw [hu]
      split
      · exact ⟨by rw [TPUnit.name_advertised, hcalc.name_eq], by simpa using hcalc.total⟩
      · exact hcalc
  otherCall kind owner u history call _ h := h

/-- **When a published total comes from a completed calculation.** For every call of
`sendMeasurement` in every run: that the sending function is invoked only after the calculation of
the same call has completed holds if and only if every device has the measurements the calculation
needs, or the unit has no name, or the total that the unit stored before the call is not due. -/
theorem sent_calculated_iff (env : Env V) (steps : List (Step V)) (call : Call V)
    (hcall : call ∈ calls (run env steps).world.history) :
    (call.sent.isSome = true → call.calculated = true) ↔
      (call.before.Calculable call.quantity ∨ call.owner = "" ∨
        call.before.advertise call.quantity (env.time (call.pos + 1)) = false) := by
  obtain ⟨w, -, hnamed, hw⟩ := (wellNamed_invariant.run steps).calls call hcall
  obtain ⟨call', hw', -, -, -, -, hpos, hcalculated, hcase⟩ :=
    sendMeasurement_cases env call.kind call.owner call.quantity call.before w
  obtain rfl : call' = call := w.record_injective (hw'.symm.trans hw)
  rw [← TPUnit.calculation_isOk_iff call'.before call'.quantity (env.time w.pos), ← hcalculated]
  cases hok : call'.calculated with
  | true => simp
  | false =>
    -- the calculation failed, so the call decides on the unit as it was
    rw [TPUnit.calculate_of_not_isOk (hcalculated.symm.trans hok), ← hpos] at hcase
    simp only [Bool.false_eq_true, imp_false, false_or]
    rcases hcase with ⟨hsent, -, hnot⟩ | ⟨M, hdue, hread, hsent, -⟩
    · refine iff_of_true (by simp [hsent]) ?_
      by_cases hdue : call'.before.advertise call'.quantity (env.time (call'.pos + 1)) = true
      · refine Or.inl ?_
        have hknown := TPUnit.isnan_storedTotal_of_advertise hdue
        by_contra howner
        obtain ⟨M, hM⟩ := (hnamed.exists_getMetricInfo_iff hknown).mpr howner
        rcases hnot with hnot | hnot
        · rw [hnot] at hdue
          cases hdue
        · exact hnot M hM
      · exact Or.inr (by simpa using hdue)
    · refine iff_of_false (by simp [hsent]) ?_
      have hknown := TPUnit.isnan_storedTotal_of_advertise hdue
      have howner := (hnamed.exists_getMetricInfo_iff hknown).mp ⟨M, hread⟩
      rintro (hempty | hnot)
      · exact howner hempty
      · rw [hnot] at hdue
        cases hdue

theorem sent_calculated_iff_oneRack :
    ∃ call ∈ calls (run oneRackEnv oneRackSteps).world.history,
      ((call.sent.isSome = true → call.calculated = true) ↔
        (call.before.Calculable call.quantity ∨ call.owner = "" ∨
          call.before.advertise call.quantity (oneRackEnv.time (call.pos + 1)) = false)) := by
  have hsome : (calls (run oneRackEnv oneRackSteps).world.history).head?.isSome = true := by
    decide +kernel
  have hcall := List.mem_of_mem_head? (Option.get_mem hsome)
  exact ⟨_, hcall, sent_calculated_iff oneRackEnv oneRackSteps _ hcall⟩

/-- The total of the rack is sent again after its epdu has been silent for five minutes: the poll
has purged the measurement, the calculation fails, and the old total is due. -/
theorem oneRack_stale_total_sent :
    ¬ ∀ (env : Env Exact) (steps : List (Step Exact)),
      (∀ i j, i ≤ j → env.time i ≤ env.time j) →
      ∀ call ∈ calls (run env steps).world.history,
        call.sent.isSome = true → call.calculated = true := by
  intro h
  exact absurd (h oneRackEnv oneRackSteps oneRackEnv_clock) (by decide +kernel)

end MetricTPower
