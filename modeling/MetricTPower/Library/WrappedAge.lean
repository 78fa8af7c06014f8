import Mathlib.Data.UInt
import Mathlib.Order.Lattice

/-!
# Ages on a 64-bit clock

A clock is read as a signed 64-bit number of seconds, the moments to compare it with are unsigned,
and an age is the difference of the two with wrap-around. For a moment that is not in the future
this is the exact age. For a moment in the future it is close to `2 ^ 64`, and a test of the age
against a limit takes the moment for an old one, unless it is so far in the future that the
difference wraps round to the limit (`limit_lt_age_iff_exactAge`).

## Main definitions

* `WrappedAge.exactAge`: the seconds since a moment, `0` for a moment in the future.
* `WrappedAge.Told`: the moments of which a test of the age tells the truth.

## Main results

* `WrappedAge.toNat_age`: the age of a moment that is not in the future.
* `WrappedAge.limit_lt_age_iff_exactAge`: when a test of the age agrees with the exact age.
-/

namespace WrappedAge

/-- The seconds since a moment, `0` for a moment in the future. -/
def exactAge (now : Int64) (time : UInt64) : ℤ :=
  max 0 (now.toInt - time.toNat)

/-- The moment is not in the future, or so far in it that its age wraps round to at most the
limit. -/
def Told (now : Int64) (time : UInt64) (limit : ℕ) : Prop :=
  (time.toNat : ℤ) ≤ now.toInt ∨
    (now.toInt + 2 ^ 64 - limit ≤ time.toNat ∧ (time.toNat : ℤ) ≤ now.toInt + 2 ^ 64)

/-- A reading of the clock as an unsigned number. -/
theorem toNat_toUInt64 (now : Int64) :
    (now.toUInt64.toNat : ℤ) = if 0 ≤ now.toInt then now.toInt else now.toInt + 2 ^ 64 := by
  have hcond := BitVec.toInt_eq_toNat_cond now.toBitVec
  have hlt := now.toUInt64.toNat_lt
  rw [Int64.toInt_toBitVec, Int64.toNat_toBitVec] at hcond
  split at hcond <;> split <;> omega

theorem toNat_toUInt64_of_nonneg {now : Int64} (h : 0 ≤ now.toInt) :
    (now.toUInt64.toNat : ℤ) = now.toInt := by
  rw [toNat_toUInt64, if_pos h]

/-- The age of a moment that is not in the future. -/
theorem toNat_age {now : Int64} {time : UInt64} (h : (time.toNat : ℤ) ≤ now.toInt) :
    ((now.toUInt64 - time).toNat : ℤ) = now.toInt - time.toNat := by
  have hnow : (now.toUInt64.toNat : ℤ) = now.toInt := toNat_toUInt64_of_nonneg (by omega)
  have hlt := now.toUInt64.toNat_lt
  rw [UInt64.toNat_sub]
  omega

/-- Two readings of a clock that does not go back are as far apart as the wrapped difference tells,
also before the epoch. -/
theorem toNat_sub_of_le {last now : Int64} (h : last ≤ now) :
    ((now.toUInt64 - last.toUInt64).toNat : ℤ) = now.toInt - last.toInt := by
  have hle := Int64.le_iff_toInt_le.mp h
  have hnow := toNat_toUInt64 now
  have hlast := toNat_toUInt64 last
  have hlow := last.le_toInt
  have hhigh := now.toInt_lt
  rw [UInt64.toNat_sub]
  split at hnow <;> split at hlast <;> omega

/-- Where the exact age is not the age, it is `0`. -/
theorem exactAge_eq_or (now : Int64) (time : UInt64) :
    exactAge now time = (now.toUInt64 - time).toNat ∨ exactAge now time = 0 := by
  rw [exactAge]
  by_cases hpast : (time.toNat : ℤ) ≤ now.toInt
  · have hage := toNat_age hpast
    omega
  · omega

/-- The age of a moment in the future, up to and after the moment at which it wraps round again. -/
theorem toNat_age_of_future {now : Int64} {time : UInt64} (h : now.toInt < time.toNat) :
    ((now.toUInt64 - time).toNat : ℤ) =
      if (time.toNat : ℤ) ≤ now.toInt + 2 ^ 64 then now.toInt + 2 ^ 64 - time.toNat
      else now.toInt + 2 ^ 65 - time.toNat := by
  have hnow := toNat_toUInt64 now
  have hlt := now.toUInt64.toNat_lt
  have htime := time.toNat_lt
  rw [UInt64.toNat_sub]
  split at hnow <;> split <;> omega

/-- **A test of the age against a limit** agrees with the exact age exactly for the moments that are
not in the future or that wrap round. -/
theorem limit_lt_age_iff_exactAge (now : Int64) (time : UInt64) {limit : ℕ}
    (hlimit : limit < 2 ^ 63) :
    (limit < (now.toUInt64 - time).toNat ↔ (limit : ℤ) < exactAge now time) ↔
      Told now time limit := by
  rw [exactAge, Told]
  by_cases hpast : (time.toNat : ℤ) ≤ now.toInt
  · have hage := toNat_age hpast
    omega
  · have hage := toNat_age_of_future (not_le.mp hpast)
    have hlow := now.le_toInt
    have htime := time.toNat_lt
    split at hage <;> omega

end WrappedAge
