import MetricTPower.Unit.Store

/-!
# The totals of a unit

How the methods of a unit change its totals and what is noted about them. `calculate` either
leaves the unit as it is or stores one new total and marks its quantity as changed
(`calculate_cases`); `advertised` clears the mark and writes the time; the purge takes expired
totals away. A total of another quantity is under another topic and stays as it is.

## Main definitions

* `TPUnit.storedTotal`: the stored total of a quantity.
* `TPUnit.stored`: the unit after `set` has stored a total.
* `TPUnit.OnlyTotal`: two units that differ in the total of one quantity only.

## Main results

* `TPUnit.calculate_cases`: what `calculate` can do.
* `TPUnit.getMetricInfo_eq_ok_iff`: when a total can be read for sending.
-/

open Std (TreeMap)

namespace MetricTPower

open Double

variable {V : Type} [Double V]

namespace TPUnit

/-- The stored total of a quantity, `NaN` when there is none. -/
def storedTotal (u : TPUnit V) (quantity : String) : V :=
  u.lastValue.find (u.generateTopic quantity)

omit [Double V] in
/-- The unit after `set` has stored a total. -/
def stored (u : TPUnit V) (quantity : String) (measurement : MetricInfo V) : TPUnit V :=
  { u with
    lastValue := u.lastValue.addMetricInfo measurement
    changedStatus := u.changedStatus.insert quantity true
    changetimestamp := u.changetimestamp.insert quantity measurement.timestamp }

/-- A value replaces the stored total of a quantity: there is none, or the value is out of its dead
band. -/
def Replaces (u : TPUnit V) (quantity : String) (value : V) : Prop :=
  isnan (u.storedTotal quantity) = true ∨ exceeds (u.storedTotal quantity) value = true

variable {u : TPUnit V} {quantity q : String}

/-! ### Storing a total -/

theorem set_of_replaces {m : MetricInfo V} (h : u.Replaces quantity m.value) :
    u.set quantity m = u.stored quantity m := by
  rw [set]
  exact if_pos (by simpa [Replaces, storedTotal] using h)

theorem set_of_not_replaces {m : MetricInfo V} (h : ¬ u.Replaces quantity m.value) :
    u.set quantity m = u := by
  rw [set]
  exact if_neg (by simpa [Replaces, storedTotal] using h)

omit [Double V] in
theorem generateTopic_result (u : TPUnit V) (quantity : String) (now : Int64) (sum : V) :
    (u.result quantity now sum).generateTopic = u.generateTopic quantity := rfl

/-- The methods of calculation only choose the sum: the rest of the result is the same. -/
theorem calculation_eq_ok {now : Int64} {r : MetricInfo V}
    (h : u.calculation quantity now = .ok r) : ∃ sum, r = u.result quantity now sum := by
  have hmap : ∀ {α : Type} (x : Except String α) (f : α → V),
      (do let s ← x; return u.result quantity now (f s)) = .ok r →
        ∃ sum, r = u.result quantity now sum := by
    intro α x f hx
    cases x with
    | error e => cases hx
    | ok s => exact ⟨f s, (Except.ok.inj hx).symm⟩
  rw [calculation] at h
  cases hmethod : calculations quantity <;> rw [hmethod] at h
  case realpowerUndefined => exact hmap _ id h
  case realpowerDefault => exact hmap _ id h
  all_goals exact hmap _ _ h

theorem calculate_of_ok {now : Int64} {r : MetricInfo V}
    (h : u.calculation quantity now = .ok r) : u.calculate quantity now = u.set quantity r := by
  rw [calculate, h]

theorem calculate_of_not_isOk {now : Int64} (h : (u.calculation quantity now).isOk = false) :
    u.calculate quantity now = u := by
  rw [calculate]
  cases hc : u.calculation quantity now with
  | error e => rfl
  | ok r =>
    rw [hc] at h
    cases h

/-- What `calculate` can do: nothing, or store a total it has calculated. -/
theorem calculate_cases (u : TPUnit V) (quantity : String) (now : Int64) :
    u.calculate quantity now = u ∨
    ∃ sum, u.calculation quantity now = .ok (u.result quantity now sum) ∧
      u.calculate quantity now = u.stored quantity (u.result quantity now sum) := by
  cases hc : u.calculation quantity now with
  | error e => exact Or.inl (by rw [calculate, hc])
  | ok r =>
    obtain ⟨sum, rfl⟩ := calculation_eq_ok hc
    by_cases hr : u.Replaces quantity sum
    · exact Or.inr ⟨sum, rfl, (calculate_of_ok hc).trans (set_of_replaces hr)⟩
    · exact Or.inl ((calculate_of_ok hc).trans (set_of_not_replaces hr))

/-- A newly stored total, and the totals of the other quantities. -/
theorem storedTotal_stored_result (now : Int64) (sum : V) :
    (u.stored quantity (u.result quantity now sum)).storedTotal q =
      if q = quantity then sum else u.storedTotal q := by
  change (u.lastValue.addMetricInfo (u.result quantity now sum)).find (u.generateTopic q) = _
  rw [MetricList.find_addMetricInfo, generateTopic_result]
  simp only [generateTopic, topicOf_left_inj, eq_comm, storedTotal]
  rfl

theorem storedTotal_calculate_of_replaces {now : Int64} {sum : V}
    (h : u.calculation quantity now = .ok (u.result quantity now sum))
    (hr : u.Replaces quantity sum) :
    (u.calculate quantity now).storedTotal quantity = sum := by
  rw [calculate_of_ok h, set_of_replaces hr, storedTotal_stored_result, if_pos rfl]

theorem storedTotal_calculate_of_not_replaces {now : Int64} {sum : V}
    (h : u.calculation quantity now = .ok (u.result quantity now sum))
    (hr : ¬ u.Replaces quantity sum) :
    (u.calculate quantity now).storedTotal quantity = u.storedTotal quantity := by
  rw [calculate_of_ok h, set_of_not_replaces hr]

omit [Double V] in
theorem changed_stored (m : MetricInfo V) :
    (u.stored quantity m).changed q = if q = quantity then true else u.changed q := by
  simp only [changed, stored, TreeMap.getElem?_insert, Std.LawfulEqOrd.compare_eq_iff_eq,
    eq_comm (a := quantity)]
  split <;> rfl

/-! ### Marking a total as advertised -/

omit [Double V] in
@[simp] theorem lastValue_setChanged (u : TPUnit V) (quantity : String) (status : Bool)
    (now : Int64) : (u.setChanged quantity status now).lastValue = u.lastValue := by
  rw [setChanged]
  split <;> rfl

omit [Double V] in
@[simp] theorem name_setChanged (u : TPUnit V) (quantity : String) (status : Bool)
    (now : Int64) : (u.setChanged quantity status now).name = u.name := by
  rw [setChanged]
  split <;> rfl

omit [Double V] in
@[simp] theorem powerdevices_setChanged (u : TPUnit V) (quantity : String) (status : Bool)
    (now : Int64) : (u.setChanged quantity status now).powerdevices = u.powerdevices := by
  rw [setChanged]
  split <;> rfl

omit [Double V] in
theorem changed_setChanged (status : Bool) (now : Int64) :
    (u.setChanged quantity status now).changed q =
      if q = quantity then status else u.changed q := by
  rw [setChanged]
  split
  · simp only [changed, TreeMap.getElem?_insert, Std.LawfulEqOrd.compare_eq_iff_eq,
      eq_comm (a := quantity)]
    split <;> rfl
  · rename_i hsame
    rw [not_not] at hsame
    split
    · rename_i hq
      rw [hq, hsame]
    · rfl

omit [Double V] in
@[simp] theorem lastValue_advertised (u : TPUnit V) (quantity : String) (now now' : Int64) :
    (u.advertised quantity now now').lastValue = u.lastValue :=
  lastValue_setChanged ..

omit [Double V] in
@[simp] theorem name_advertised (u : TPUnit V) (quantity : String) (now now' : Int64) :
    (u.advertised quantity now now').name = u.name :=
  name_setChanged ..

omit [Double V] in
@[simp] theorem powerdevices_advertised (u : TPUnit V) (quantity : String) (now now' : Int64) :
    (u.advertised quantity now now').powerdevices = u.powerdevices :=
  powerdevices_setChanged ..

@[simp] theorem storedTotal_advertised (u : TPUnit V) (quantity q : String) (now now' : Int64) :
    (u.advertised quantity now now').storedTotal q = u.storedTotal q := by
  simp [storedTotal, generateTopic]

omit [Double V] in
theorem changed_advertised (now now' : Int64) :
    (u.advertised quantity now now').changed q = if q = quantity then false else u.changed q :=
  changed_setChanged ..

omit [Double V] in
@[simp] theorem timestamp_advertised (u : TPUnit V) (quantity : String) (now now' : Int64) :
    (u.advertised quantity now now').timestamp quantity = now'.toUInt64 := by
  simp [timestamp, advertised]

omit [Double V] in
@[simp] theorem advertisedtimestamp_advertised (u : TPUnit V) (quantity : String)
    (now now' : Int64) :
    (u.advertised quantity now now').advertisedtimestamp[quantity]? = some now'.toUInt64 := by
  simp [advertised]

/-! ### What storing leaves alone -/

@[simp] theorem storedTotal_setMeasurement (u : TPUnit V) (M : MetricInfo V) (quantity : String) :
    (u.setMeasurement M).storedTotal quantity = u.storedTotal quantity := by
  simp [storedTotal, generateTopic]

/-- The purge takes totals away and leaves the others as they are. -/
theorem storedTotal_dropOldMetricInfos_of_known {clock : ℕ → Int64}
    (h : isnan ((u.dropOldMetricInfos clock).storedTotal quantity) = false) :
    (u.dropOldMetricInfos clock).storedTotal quantity = u.storedTotal quantity :=
  MetricList.find_removeOldMetrics_of_known _ _ _ h

omit [Double V] in
/-- The second unit differs from the first at most in the total of a quantity and in what is noted
about it. -/
structure OnlyTotal (quantity : String) (u v : TPUnit V) : Prop where
  name : v.name = u.name
  powerdevices : v.powerdevices = u.powerdevices
  lastValue : ∀ topic, topic ≠ u.generateTopic quantity →
    v.lastValue.knownMetrics[topic]? = u.lastValue.knownMetrics[topic]?
  changedStatus : ∀ q, q ≠ quantity → v.changedStatus[q]? = u.changedStatus[q]?
  changetimestamp : ∀ q, q ≠ quantity → v.changetimestamp[q]? = u.changetimestamp[q]?
  advertisedtimestamp : ∀ q, q ≠ quantity → v.advertisedtimestamp[q]? = u.advertisedtimestamp[q]?

namespace OnlyTotal

variable {v w : TPUnit V}

omit [Double V] in
theorem refl (u : TPUnit V) (quantity : String) : OnlyTotal quantity u u :=
  ⟨rfl, rfl, fun _ _ => rfl, fun _ _ => rfl, fun _ _ => rfl, fun _ _ => rfl⟩

omit [Double V] in
theorem trans (huv : OnlyTotal quantity u v) (hvw : OnlyTotal quantity v w) :
    OnlyTotal quantity u w where
  name := hvw.name.trans huv.name
  powerdevices := hvw.powerdevices.trans huv.powerdevices
  lastValue topic h := by
    have htopic : v.generateTopic quantity = u.generateTopic quantity := by
      rw [generateTopic, generateTopic, huv.name]
    exact (hvw.lastValue topic (htopic ▸ h)).trans (huv.lastValue topic h)
  changedStatus q h := (hvw.changedStatus q h).trans (huv.changedStatus q h)
  changetimestamp q h := (hvw.changetimestamp q h).trans (huv.changetimestamp q h)
  advertisedtimestamp q h := (hvw.advertisedtimestamp q h).trans (huv.advertisedtimestamp q h)

omit [Double V] in
theorem changed_eq (h : OnlyTotal quantity u v) (hq : q ≠ quantity) :
    v.changed q = u.changed q := by
  rw [changed, h.changedStatus q hq, changed]

omit [Double V] in
theorem timestamp_eq (h : OnlyTotal quantity u v) (hq : q ≠ quantity) :
    v.timestamp q = u.timestamp q := by
  rw [timestamp, h.changetimestamp q hq, timestamp]

end OnlyTotal

theorem onlyTotal_calculate (u : TPUnit V) (quantity : String) (now : Int64) :
    OnlyTotal quantity u (u.calculate quantity now) := by
  obtain h | ⟨sum, -, h⟩ := u.calculate_cases quantity now <;> rw [h]
  · exact .refl u quantity
  · refine ⟨rfl, rfl, fun topic htopic => ?_, fun q hq => ?_, fun q hq => ?_, fun _ _ => rfl⟩
    · rw [stored, MetricList.knownMetrics_addMetricInfo, generateTopic_result, if_neg htopic.symm]
    · simp [stored, TreeMap.getElem?_insert, hq.symm]
    · simp [stored, TreeMap.getElem?_insert, hq.symm]

/-- A calculation notes nothing about advertisements. -/
theorem advertisedtimestamp_calculate (u : TPUnit V) (quantity : String) (now : Int64) :
    (u.calculate quantity now).advertisedtimestamp = u.advertisedtimestamp := by
  obtain h | ⟨sum, -, h⟩ := u.calculate_cases quantity now <;> rw [h]
  rfl

omit [Double V] in
theorem onlyTotal_advertised (u : TPUnit V) (quantity : String) (now now' : Int64) :
    OnlyTotal quantity u (u.advertised quantity now now') where
  name := name_advertised ..
  powerdevices := powerdevices_advertised ..
  lastValue topic _ := by rw [lastValue_advertised]
  changedStatus q hq := by
    simp only [advertised, setChanged]
    split <;> simp [TreeMap.getElem?_insert, hq.symm]
  changetimestamp q hq := by
    simp only [advertised, setChanged]
    split <;> simp [TreeMap.getElem?_insert, hq.symm]
  advertisedtimestamp q hq := by
    simp only [advertised, setChanged]
    split <;> simp [TreeMap.getElem?_insert, TreeMap.getElem?_insertIfNew, hq.symm]

/-! ### Reading a total for sending -/

/-- A total that is to be sent is known. -/
theorem isnan_storedTotal_of_advertise {now : Int64} (h : u.advertise quantity now = true) :
    isnan (u.storedTotal quantity) = false := by
  rw [advertise] at h
  split at h
  · cases h
  · rename_i hknown
    simpa [quantityIsUnknown, storedTotal] using hknown

/-- A total is not sent in the second in which it was marked as advertised, and otherwise only when
it has changed or the moment of its timestamp is long ago. -/
theorem due_of_advertise {now : Int64} (h : u.advertise quantity now = true) :
    u.advertisedtimestamp[quantity]? ≠ some now.toUInt64 ∧
      (u.changed quantity = true ∨
        measurementRepeatAfter < now.toUInt64 - u.timestamp quantity) := by
  rw [advertise] at h
  split at h
  · cases h
  · split at h
    · cases h
    · rename_i hmarked
      exact ⟨hmarked, by simpa using h⟩

/-- A total can be read for sending when there is a metric for it that has an element, a source and
units. -/
theorem getMetricInfo_eq_ok_iff {M : MetricInfo V} :
    u.getMetricInfo quantity = .ok M ↔
      u.lastValue.knownMetrics[u.generateTopic quantity]? = some M ∧ M.isUnknown = false := by
  rcases hm : u.lastValue.knownMetrics[u.generateTopic quantity]? with _ | m
  · simp [getMetricInfo, MetricList.getMetricInfo, hm, MetricInfo.isUnknown, MetricInfo.empty]
  · simp only [getMetricInfo, MetricList.getMetricInfo, hm, Option.getD_some, Option.some.injEq]
    by_cases hunknown : m.isUnknown = true
    · rw [if_pos hunknown]
      refine iff_of_false (by simp) ?_
      rintro ⟨rfl, h⟩
      exact Bool.false_ne_true (h.symm.trans hunknown)
    · rw [if_neg hunknown, Except.ok.injEq]
      exact ⟨fun h => ⟨h, h ▸ by simpa using hunknown⟩, fun h => h.1⟩

/-- A metric read for sending carries the stored total. -/
theorem value_of_getMetricInfo {M : MetricInfo V} (h : u.getMetricInfo quantity = .ok M) :
    M.value = u.storedTotal quantity := by
  rw [storedTotal, MetricList.find_eq, (getMetricInfo_eq_ok_iff.mp h).1]
  rfl

end TPUnit

end MetricTPower
