import MetricTPower.Metric.Double
import MetricTPower.Library.FixedPoint
import Mathlib.Data.NNRat.Lemmas

/-!
# Values as texts

In the shared memory the values are texts: `std::to_string` writes a `double` with six decimals,
and `strtod` reads it. Both are those of the library of texts of numbers; what a `double` stands
for and how a number is rounded to one are operations of the type (`DoubleText`).
`DoubleText.Nearest` says that it is rounded to a nearest one; nothing else is assumed of the
format. `Extended` is the type of exact numbers with infinities, on which nothing is rounded.

## Main definitions

* `DoubleText`: the operations of a `double` that texts need.
* `toText`, `parseValue`: writing a value, and reading one with the tests of the server.
* `DoubleText.Nearest`: what is read is a nearest value.
* `Extended`: exact numbers with infinities.

## Main results

* `parseValue_eq_some_iff`: the texts that are accepted.
* `parseValue_toText`: what is read of a written value.
* `DoubleText.exists_close`: how far it is from the value.
* `DoubleText.parseValue_toText_again`: what has been read is written and read unchanged.
-/

namespace MetricTPower

open Numeral

/-- What texts need of a C++ `double`. -/
class DoubleText (V : Type) extends Double V where
  /-- what a value stands for -/
  number : V → Number
  /-- the value that `strtod` returns for a number, unless it sets `errno` to `ERANGE` -/
  ofNumber : Number → Option V

section Texts

variable {V : Type} [DoubleText V]

/-- `std::to_string(value)`, which is `printf` with `%f`. -/
def toText (value : V) : String :=
  String.ofList (printf 6 (DoubleText.number value))

/-- `strtod(value_s, &end)`, unless `errno == ERANGE || end == value_s || *end != '\\0'`. -/
def parseValue (value : String) : Option V :=
  match strtod value.toList with
  | some (x, []) => DoubleText.ofNumber x
  | _ => none

/-- The texts that are accepted are those of the numbers in range, as a whole. -/
theorem parseValue_eq_some_iff {value : String} {v : V} :
    parseValue value = some v ↔ ∃ x, Denotes value.toList x ∧ DoubleText.ofNumber x = some v := by
  simp only [← strtod_eq_some_nil_iff]
  rw [parseValue]
  split
  · rename_i x h
    simp [h]
  · rename_i h
    refine iff_of_false (by simp) ?_
    rintro ⟨x, hx, -⟩
    exact h x hx

/-- What is read of a written value is the value rounded to six decimals. -/
theorem parseValue_toText (v : V) :
    (parseValue (toText v) : Option V) =
      DoubleText.ofNumber ((DoubleText.number v).round 6) := by
  have h := strtod_eq_some (denotes_printf (p := 6) (by decide) (DoubleText.number v))
  rw [parseValue, toText, String.toList_ofList, h]

end Texts

/-! ### Rounding to nearest -/

namespace DoubleText

/-- What the server relies on of the IEEE 754 `double`, of its texts and of its dead band. -/
class Nearest (V : Type) [DoubleText V] : Prop where
  isnan_iff (v : V) : Double.isnan v = true ↔ ∃ negative : Bool, number v = .nan negative
  /-- the text of a value that is not finite is read as such a value -/
  special (v : V) (h : (number v).value? = none) :
    ∃ w : V, ofNumber (number v) = some w ∧ number w = number v
  /-- zero is read as a zero -/
  zero (negative : Bool) : ∃ (w : V) (sgn : Bool), ofNumber (.finite negative 0) = some w ∧
    number w = .finite sgn 0 ∧ ofNumber (.finite sgn 0) = some w
  /-- what is written of a finite value, if it is not zero, is read as a nearest value -/
  nearest (v : V) (negative : Bool) (m : ℚ≥0) (hv : number v = .finite negative m)
    (hpos : 0 < units 6 m) :
    ∃ (w : V) (k : ℚ≥0), ofNumber (.finite negative (units 6 m / 10 ^ 6)) = some w ∧
      number w = .finite negative k ∧ ∀ (v' : V) (sgn : Bool) (k' : ℚ≥0),
        number v' = .finite sgn k' →
          |(k : ℚ) - units 6 m / 10 ^ 6| ≤ |(k' : ℚ) - units 6 m / 10 ^ 6|
  /-- a difference of more than eleven millionths is not in the dead band -/
  exceeds (v w : V) (x : ℚ) (hw : (number w).value? = some x) (hv : Double.isnan v = false)
    (h : Double.exceeds v w = false) :
    ∃ z : ℚ, (number v).value? = some z ∧ |z - x| ≤ 11 / 10 ^ 6

variable {V : Type} [DoubleText V] [Nearest V] {v : V} {negative : Bool} {m : ℚ≥0}

/-- What is read of the text of a finite value is a value that is as near to the text. -/
theorem exists_read (hv : number v = .finite negative m) :
    ∃ (w : V) (sgn : Bool) (k : ℚ≥0), ofNumber (.finite negative (units 6 m / 10 ^ 6)) = some w ∧
      number w = .finite sgn k ∧ signed sgn k = signed negative k ∧
      |(k : ℚ) - units 6 m / 10 ^ 6| ≤ |(m : ℚ) - units 6 m / 10 ^ 6| ∧
      ofNumber (.finite sgn (units 6 m / 10 ^ 6)) = some w := by
  rcases Nat.eq_zero_or_pos (units 6 m) with hzero | hpos
  · obtain ⟨w, sgn, hread, hw, hagain⟩ := Nearest.zero (V := V) negative
    rw [hzero, Nat.cast_zero, Nat.cast_zero, zero_div, zero_div]
    exact ⟨w, sgn, 0, hread, hw, by simp [signed], by simp, hagain⟩
  · obtain ⟨w, k, hread, hw, hnearest⟩ := Nearest.nearest v negative m hv hpos
    exact ⟨w, negative, k, hread, hw, rfl, hnearest v negative m hv, hread⟩

/-- **A value that has been written and read goes through unchanged from then on.** -/
theorem parseValue_toText_again (v : V) :
    ∃ w : V, parseValue (toText v) = some w ∧ parseValue (toText w) = some w := by
  simp only [parseValue_toText]
  cases hv : number v with
  | finite negative m =>
    obtain ⟨w, sgn, k, hread, hw, -, hnear, hagain⟩ := exists_read hv
    refine ⟨w, hread, ?_⟩
    rw [hw, Number.round, units_eq_of_abs_sub_le hnear]
    exact hagain
  | infinite negative =>
    obtain ⟨w, hread, hw⟩ := Nearest.special v (by rw [hv]; rfl)
    rw [hv] at hread hw
    exact ⟨w, hread, by rw [hw]; exact hread⟩
  | nan negative =>
    obtain ⟨w, hread, hw⟩ := Nearest.special v (by rw [hv]; rfl)
    rw [hv] at hread hw
    exact ⟨w, hread, by rw [hw]; exact hread⟩

/-- Values for two numbers that are at most a millionth apart, or for the same infinity. -/
def Close (v w : V) : Prop :=
  (∃ x y, (number v).value? = some x ∧ (number w).value? = some y ∧ |x - y| ≤ 1 / 10 ^ 6) ∨
    ∃ negative, number v = .infinite negative ∧ number w = .infinite negative

/-- What is read of a written number is close to it. -/
theorem exists_close (h : Double.isnan v = false) :
    ∃ w : V, parseValue (toText v) = some w ∧ Close w v := by
  simp only [parseValue_toText]
  cases hv : number v with
  | finite negative m =>
    obtain ⟨w, sgn, k, hread, hw, hsigned, hnear, -⟩ := exists_read hv
    refine ⟨w, hread, Or.inl ⟨_, _, by rw [hw]; rfl, by rw [hv]; rfl, ?_⟩⟩
    have hhalf := abs_units_div_sub_le 6 m
    rw [hsigned, abs_signed_sub]
    calc |(k : ℚ) - m| ≤ |(k : ℚ) - units 6 m / 10 ^ 6| + |(units 6 m : ℚ) / 10 ^ 6 - m| :=
          abs_sub_le _ _ _
      _ ≤ 1 / (2 * 10 ^ 6) + 1 / (2 * 10 ^ 6) := by
          rw [abs_sub_comm (m : ℚ)] at hnear
          exact add_le_add (hnear.trans hhalf) hhalf
      _ = 1 / 10 ^ 6 := by norm_num
  | infinite negative =>
    obtain ⟨w, hread, hw⟩ := Nearest.special v (by rw [hv]; rfl)
    rw [hv] at hread hw
    exact ⟨w, hread, Or.inr ⟨negative, hw, hv⟩⟩
  | nan negative =>
    rw [(Nearest.isnan_iff v).mpr ⟨negative, hv⟩] at h
    cases h

end DoubleText

/-! ### Exact numbers with infinities -/

/-- A rational, an infinity or `NaN`. -/
inductive Extended
  | finite (value : ℚ)
  | infinite (negative : Bool)
  | nan
  deriving DecidableEq

namespace Extended

/-- The sum: `NaN` when an operand is, or for infinities of different signs. -/
def add : Extended → Extended → Extended
  | .finite x, .finite y => .finite (x + y)
  | .infinite s, .finite _ | .finite _, .infinite s => .infinite s
  | .infinite s, .infinite t => if s = t then .infinite s else .nan
  | .nan, _ | _, .nan => .nan

/-- The dead band: an infinity is far from everything but itself. -/
def exceeds : Extended → Extended → Bool
  | .finite x, .finite y => decide (1 / 100000 < |x - y|)
  | .infinite s, .infinite t => s != t
  | .infinite _, .finite _ | .finite _, .infinite _ => true
  | .nan, _ | _, .nan => false

instance : DoubleText Extended where
  zero := .finite 0
  add := add
  nan := .nan
  isnan x := decide (x = .nan)
  exceeds := exceeds
  isnan_nan := rfl
  isnan_zero := rfl
  number
    | .finite x => .finite (decide (x < 0)) (Rat.nnabs x)
    | .infinite negative => .infinite negative
    | .nan => .nan false
  ofNumber
    | .finite negative m => some (.finite (if negative then -m else m))
    | .infinite negative => some (.infinite negative)
    | .nan _ => some .nan

theorem value?_number (x : ℚ) : (DoubleText.number (finite x)).value? = some x := by
  change some (signed (decide (x < 0)) (Rat.nnabs x)) = some x
  rw [signed, Rat.coe_nnabs, Option.some.injEq]
  split_ifs with hx
  · rw [abs_of_neg (of_decide_eq_true hx), neg_neg]
  · exact abs_of_nonneg (not_lt.mp (of_decide_eq_false (Bool.eq_false_iff.mpr hx)))

theorem number_signed (negative : Bool) {m : ℚ≥0} (hm : 0 < (m : ℚ)) :
    DoubleText.number (finite (signed negative m)) = .finite negative m := by
  change Number.finite _ _ = _
  have habs : Rat.nnabs (signed negative m) = m := by
    ext
    rw [Rat.coe_nnabs]
    cases negative
    · exact abs_of_pos hm
    · exact (abs_neg (m : ℚ)).trans (abs_of_pos hm)
  rw [habs]
  cases negative
  · rw [decide_eq_false (show ¬ signed false m < 0 from hm.not_gt)]
  · rw [decide_eq_true (show signed true m < 0 from neg_lt_zero.mpr hm)]

/-- Nothing is rounded, so that every number is read as itself. -/
instance : DoubleText.Nearest Extended where
  isnan_iff v := by cases v <;> simp [Double.isnan, DoubleText.number]
  special v h := by
    cases v with
    | finite x => rw [value?_number] at h; cases h
    | infinite negative => exact ⟨.infinite negative, rfl, rfl⟩
    | nan => exact ⟨.nan, rfl, rfl⟩
  zero negative := by
    have hzero :
        (DoubleText.ofNumber (.finite negative 0) : Option Extended) = some (.finite 0) := by
      cases negative <;> rfl
    exact ⟨.finite 0, false, hzero, rfl, rfl⟩
  nearest v negative m hv hpos := by
    refine ⟨_, _, rfl, number_signed negative ?_, fun _ _ k' _ => ?_⟩
    · push_cast
      positivity
    · push_cast
      rw [sub_self, abs_zero]
      exact abs_nonneg _
  exceeds v w x hw hv h := by
    cases v with
    | finite z =>
      cases w with
      | finite y =>
        rw [value?_number, Option.some.injEq] at hw
        subst hw
        exact ⟨z, value?_number z, (not_lt.mp (of_decide_eq_false h)).trans (by norm_num)⟩
      | infinite negative => cases hw
      | nan => cases hw
    | infinite negative =>
      cases w with
      | finite y => cases h
      | infinite negative => cases hw
      | nan => cases hw
    | nan => cases hv

theorem parseValue_toText_again_half :
    ∃ w : Extended, parseValue (toText (finite (1 / 2))) = some w ∧
      parseValue (toText w) = some w :=
  DoubleText.parseValue_toText_again (finite (1 / 2))

end Extended

end MetricTPower
