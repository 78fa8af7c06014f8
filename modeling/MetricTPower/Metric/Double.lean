import Mathlib.Algebra.BigOperators.Group.List.Basic
import Mathlib.Algebra.Order.Group.Unbundled.Abs
import Mathlib.Algebra.Order.Ring.Rat

/-!
# Measured values

Every value the agent handles is a C++ `double`. It only adds values, tests them for `NaN` and
compares a stored value with a new one through a dead band, so the model is written over any
type with these operations (`Double`). What holds of the whole agent whatever the arithmetic is
stated over an arbitrary `Double`; what needs exact numbers is stated over `Exact`, the rationals
with one `NaN`.

## Main definitions

* `Double`: the operations of a `double` the agent uses.
* `Exact`: exact numbers, `none` being `NaN`.
* `Double.total`: the running sum of a list of values, from `0`.

## Main results

* `total_map_some`: over exact numbers the running sum is the sum.
-/

namespace MetricTPower

/-- The operations on a C++ `double` that the agent uses. -/
class Double (V : Type) where
  /-- `0.0` -/
  zero : V
  /-- `x + y` -/
  add : V → V → V
  /-- `std::nan("")` -/
  nan : V
  /-- `std::isnan(x)` -/
  isnan : V → Bool
  /-- `abs(x - y) > 0.00001`, the dead band of `TPUnit::set` -/
  exceeds : V → V → Bool
  isnan_nan : isnan nan = true
  isnan_zero : isnan zero = false

attribute [simp] Double.isnan_nan Double.isnan_zero

namespace Double

variable {V : Type} [Double V]

/-- `sum = 0; sum += value` for every value of the list, in its order. -/
def total (values : List V) : V :=
  values.foldl add zero

end Double

/-- Exact numbers: a rational, or `NaN`. -/
abbrev Exact := Option ℚ

instance : Double Exact where
  zero := some 0
  add x y := x.bind fun a => y.map (a + ·)
  nan := none
  isnan := Option.isNone
  exceeds x y := x.any fun a => y.any fun b => decide (1 / 100000 < |a - b|)
  isnan_nan := rfl
  isnan_zero := rfl

namespace Exact

theorem isnan_eq (x : Exact) : Double.isnan x = x.isNone := rfl

@[simp] theorem isnan_some (a : ℚ) : Double.isnan (some a : Exact) = false := rfl

@[simp] theorem add_some (a b : ℚ) : Double.add (some a : Exact) (some b) = some (a + b) := rfl

theorem exceeds_some (a b : ℚ) :
    Double.exceeds (some a : Exact) (some b) = decide (1 / 100000 < |a - b|) := rfl

theorem foldl_add_map_some (values : List ℚ) (s : ℚ) :
    (values.map (some : ℚ → Exact)).foldl Double.add (some s) = some (s + values.sum) := by
  induction values generalizing s with
  | nil => simp
  | cons a values ih =>
    rw [List.map_cons, List.foldl_cons, add_some, ih, List.sum_cons, add_assoc]

/-- The running sum of exact numbers is their sum. -/
theorem total_map_some (values : List ℚ) :
    Double.total (values.map (some : ℚ → Exact)) = some values.sum := by
  have h := foldl_add_map_some values 0
  rwa [zero_add] at h

end Exact

end MetricTPower
