import MetricTPower.Unit.Runs

/-!
# The readers of a stored total

A total is stored under the topic `quantity@name` of the unit. `getMetricInfo` and
`quantityIsUnknown` look it up there; `get` looks up the quantity itself, although its error names
the topic. So `get` finds a total only for a quantity that is itself the topic of a known total, and
the three readers agree on a quantity with a stored total only in this case.

## Main definitions

* `TPUnit.ReadersAgree`: the three readers agree on a quantity.

## Main results

* `readersAgree_iff`: when they do.
-/

open Std (TreeMap)

namespace MetricTPower

open Double

variable {V : Type} [Double V]

namespace TPUnit

/-- The readers of a stored total agree: `get` returns a value when the total is known, and when
`getMetricInfo` does not throw, and then it is the value of the metric. -/
def ReadersAgree (u : TPUnit V) (quantity : String) : Prop :=
  ((∃ v, u.get quantity = .ok v) ↔ u.quantityIsKnown (u.generateTopic quantity) = true) ∧
  (u.quantityIsKnown (u.generateTopic quantity) = true ↔
    ∃ M, u.getMetricInfo quantity = .ok M) ∧
  ∀ v M, u.get quantity = .ok v → u.getMetricInfo quantity = .ok M → v = M.value

variable {u : TPUnit V} {quantity : String}

theorem get_eq_ok_iff {v : V} :
    u.get quantity = .ok v ↔
      isnan (u.lastValue.find quantity) = false ∧ u.lastValue.find quantity = v := by
  rw [get]
  cases isnan (u.lastValue.find quantity) <;> simp

theorem quantityIsKnown_iff :
    u.quantityIsKnown (u.generateTopic quantity) = true ↔
      isnan (u.storedTotal quantity) = false := by
  rw [quantityIsKnown, quantityIsUnknown, Bool.not_eq_true', storedTotal]

/-- Only topics of the unit are found in its totals. -/
theorem OwnTotals.exists_topic (h : u.OwnTotals)
    (hknown : isnan (u.lastValue.find quantity) = false) :
    ∃ q, quantity = u.generateTopic q := by
  obtain ⟨m, hm, -⟩ := (MetricList.isnan_find_eq_false_iff _ _).mp hknown
  obtain ⟨htopic, hname, -⟩ := h quantity m hm
  refine ⟨m.source, ?_⟩
  rw [generateTopic, ← htopic, MetricInfo.generateTopic, hname]

/-- `get` finds the known totals under their topics. -/
theorem OwnTotals.get_eq_ok_iff (h : u.OwnTotals) {v : V} :
    u.get quantity = .ok v ↔ ∃ q, quantity = u.generateTopic q ∧
      isnan (u.storedTotal q) = false ∧ u.storedTotal q = v := by
  rw [TPUnit.get_eq_ok_iff]
  constructor
  · rintro ⟨hknown, hv⟩
    obtain ⟨q, rfl⟩ := h.exists_topic hknown
    exact ⟨q, rfl, hknown, hv⟩
  · rintro ⟨q, rfl, hknown, hv⟩
    exact ⟨hknown, hv⟩

/-- In a unit with a name, a stored metric can be read unless its quantity is empty. -/
theorem OwnTotals.getMetricInfo_eq_ok_iff (h : u.OwnTotals) (hname : u.name ≠ "")
    {M : MetricInfo V} :
    u.getMetricInfo quantity = .ok M ↔
      u.lastValue.knownMetrics[u.generateTopic quantity]? = some M ∧ quantity ≠ "" := by
  rw [TPUnit.getMetricInfo_eq_ok_iff]
  refine and_congr_right fun hM => ?_
  obtain ⟨htopic, helement, hunits⟩ := h _ M hM
  have hsource : M.source = quantity := by
    rw [MetricInfo.generateTopic, helement] at htopic
    exact topicOf_left_inj.mp htopic
  have hnamed : u.name.isEmpty = false := by
    rw [← Bool.not_eq_true, String.isEmpty_iff]
    exact hname
  have hwatts : "W".isEmpty = false := by decide
  rw [MetricInfo.isUnknown, helement, hsource, hunits, hnamed, hwatts, Bool.or_false, Bool.false_or,
    ← Bool.not_eq_true, String.isEmpty_iff]

omit [Double V] in
theorem generateTopic_ne_empty (u : TPUnit V) (quantity : String) :
    u.generateTopic quantity ≠ "" := by
  intro h
  have hlist := congrArg String.toList h
  simp [generateTopic, topicOf] at hlist

theorem isnan_storedTotal_of_none
    (h : u.lastValue.knownMetrics[u.generateTopic quantity]? = none) :
    isnan (u.storedTotal quantity) = true := by
  rw [storedTotal, MetricList.find_eq, h]
  exact isnan_nan

/-- The readers agree on a known total when the quantity is the topic of another known total, of the
same value. -/
theorem OwnTotals.readersAgree_iff_of_known (h : u.OwnTotals) (hname : u.name ≠ "")
    (hknown : isnan (u.storedTotal quantity) = false) :
    u.ReadersAgree quantity ↔ ∃ q, quantity = u.generateTopic q ∧
      isnan (u.storedTotal q) = false ∧ u.storedTotal q = u.storedTotal quantity := by
  obtain ⟨m, hm, -⟩ := (MetricList.isnan_find_eq_false_iff _ _).mp hknown
  rw [ReadersAgree, quantityIsKnown_iff]
  constructor
  · rintro ⟨hget, hread, hvalue⟩
    obtain ⟨v, hv⟩ := hget.mpr hknown
    obtain ⟨M, hM⟩ := hread.mp hknown
    obtain ⟨q, htopic, hq, hqv⟩ := h.get_eq_ok_iff.mp hv
    exact ⟨q, htopic, hq, hqv.trans ((hvalue v M hv hM).trans (value_of_getMetricInfo hM))⟩
  · rintro ⟨q, htopic, hq, hvalue⟩
    have hne : quantity ≠ "" := htopic ▸ generateTopic_ne_empty u q
    have hget : u.get quantity = .ok (u.storedTotal q) := h.get_eq_ok_iff.mpr ⟨q, htopic, hq, rfl⟩
    refine ⟨iff_of_true ⟨_, hget⟩ hknown,
      iff_of_true hknown ⟨m, (h.getMetricInfo_eq_ok_iff hname).mpr ⟨hm, hne⟩⟩,
      fun v M hv hM => ?_⟩
    rw [hget, Except.ok.injEq] at hv
    rw [← hv, hvalue, value_of_getMetricInfo hM]

/-- The readers agree on an unknown total when nothing is stored for it that `getMetricInfo` reads,
and the quantity is not the topic of a known total. -/
theorem OwnTotals.readersAgree_iff_of_unknown (h : u.OwnTotals) (hname : u.name ≠ "")
    (hunknown : isnan (u.storedTotal quantity) = true) :
    u.ReadersAgree quantity ↔
      (u.lastValue.knownMetrics[u.generateTopic quantity]? = none ∨ quantity = "") ∧
        ∀ q, quantity = u.generateTopic q → isnan (u.storedTotal q) = true := by
  have hnot : ¬ isnan (u.storedTotal quantity) = false := by rw [hunknown]; simp
  rw [ReadersAgree, quantityIsKnown_iff]
  constructor
  · rintro ⟨hget, hread, -⟩
    refine ⟨?_, fun q htopic => ?_⟩
    · by_contra hstored
      rw [not_or] at hstored
      obtain ⟨m, hm⟩ := Option.ne_none_iff_exists'.mp hstored.1
      exact hnot (hread.mpr ⟨m, (h.getMetricInfo_eq_ok_iff hname).mpr ⟨hm, hstored.2⟩⟩)
    · by_contra hq
      rw [Bool.not_eq_true] at hq
      exact hnot (hget.mp ⟨_, h.get_eq_ok_iff.mpr ⟨q, htopic, hq, rfl⟩⟩)
  · rintro ⟨hstored, htopics⟩
    have hget : ∀ v, u.get quantity ≠ .ok v := by
      intro v hv
      obtain ⟨q, htopic, hq, -⟩ := h.get_eq_ok_iff.mp hv
      rw [htopics q htopic] at hq
      cases hq
    refine ⟨iff_of_false (fun ⟨v, hv⟩ => hget v hv) hnot, iff_of_false hnot ?_,
      fun v M hv => absurd hv (hget v)⟩
    rintro ⟨M, hM⟩
    obtain ⟨hm, hne⟩ := (h.getMetricInfo_eq_ok_iff hname).mp hM
    rcases hstored with hnone | hempty
    · rw [hnone] at hm
      cases hm
    · exact hne hempty

end TPUnit

open TPUnit in
/-- **When the readers of a stored total agree.** For every unit with a name, after any calls, and
every quantity: the readers agree exactly when nothing is stored for the quantity (or it is empty
and its total is `NaN`) and it is not the topic of a known total, or when it is the topic of a known
total and its own total is known with the same value. -/
theorem readersAgree_iff (name : String) (hname : name ≠ "") (methods : List (Method V))
    (quantity : String) :
    let u := (ofName name).callAll methods
    u.ReadersAgree quantity ↔
      ((u.lastValue.knownMetrics[u.generateTopic quantity]? = none ∨
          quantity = "" ∧ isnan (u.storedTotal quantity) = true) ∧
        ∀ q, quantity = u.generateTopic q → isnan (u.storedTotal q) = true) ∨
      ∃ q, quantity = u.generateTopic q ∧ isnan (u.storedTotal q) = false ∧
        isnan (u.storedTotal quantity) = false ∧ u.storedTotal q = u.storedTotal quantity := by
  intro u
  have hown : u.OwnTotals := ownTotals_callAll (ownTotals_ofName name) methods
  have hnamed : u.name ≠ "" := by rwa [name_callAll]
  cases hknown : isnan (u.storedTotal quantity) with
  | false =>
    have hstored : u.lastValue.knownMetrics[u.generateTopic quantity]? ≠ none := by
      intro hnone
      rw [isnan_storedTotal_of_none hnone] at hknown
      cases hknown
    rw [hown.readersAgree_iff_of_known hnamed hknown, or_iff_right]
    · simp
    · rintro ⟨hnone | ⟨-, hnan⟩, -⟩
      · exact hstored hnone
      · cases hnan
  | true =>
    rw [hown.readersAgree_iff_of_unknown hnamed hknown]
    simp only [and_true]
    refine (or_iff_left ?_).symm
    rintro ⟨q, -, -, hfalse, -⟩
    cases hfalse

open TPUnit in
/-- At a quantity whose total has been calculated. -/
theorem readersAgree_iff_oneDevice :
    let u := (ofName "rack-1").callAll oneDevice
    isnan (u.storedTotal "realpower.default") = false ∧
    (u.ReadersAgree "realpower.default" ↔
      ((u.lastValue.knownMetrics[u.generateTopic "realpower.default"]? = none ∨
          "realpower.default" = "" ∧ isnan (u.storedTotal "realpower.default") = true) ∧
        ∀ q, "realpower.default" = u.generateTopic q → isnan (u.storedTotal q) = true) ∨
      ∃ q, "realpower.default" = u.generateTopic q ∧ isnan (u.storedTotal q) = false ∧
        isnan (u.storedTotal "realpower.default") = false ∧
          u.storedTotal q = u.storedTotal "realpower.default") :=
  ⟨by decide +kernel, readersAgree_iff "rack-1" (by decide) oneDevice "realpower.default"⟩

open TPUnit in
/-- A unit calculates a total of 100 W: the total is known and `getMetricInfo` reads it, but `get`
throws. -/
theorem oneDevice_get_throws :
    ¬ ∀ (name device : String) (methods : List (Method Exact)) (quantity : String), name ≠ "" →
      (((ofName name).addPowerDevice device).callAll methods).ReadersAgree quantity := by
  intro h
  have hread := (h "rack-1" "epdu-1" oneDevice "realpower.default" (by decide)).1
  have hknown : (((ofName "rack-1").addPowerDevice "epdu-1").callAll oneDevice).quantityIsKnown
      ((((ofName "rack-1").addPowerDevice "epdu-1").callAll oneDevice).generateTopic
        "realpower.default") = true := by
    decide +kernel
  obtain ⟨v, hv⟩ := hread.mpr hknown
  have hthrows : ((((ofName "rack-1").addPowerDevice "epdu-1").callAll oneDevice).get
      "realpower.default").isOk = false := by
    decide +kernel
  rw [hv] at hthrows
  cases hthrows

end MetricTPower
