import MetricTPower.Library.Numeral
import Mathlib.Algebra.Order.Field.Basic
import Mathlib.Tactic.FieldSimp
import Mathlib.Tactic.Linarith

/-!
# Writing numbers with a fixed number of decimals

`printf` of the C library writes a number with a fixed number of digits behind the point, rounded
half to even. The text is one of the rounded number (`denotes_printf`), which is at most half a unit
of the last digit away (`abs_units_div_sub_le`). A format that has no number nearer to the rounded
one than the number it comes from rounds to the same text again (`units_eq_of_abs_sub_le`).

## Main definitions

* `Numeral.Number.value?`: the value of a finite number.
* `Numeral.RoundsTo`: rounding half to even, by the distance.
* `Numeral.Number.round`: a number rounded to a number of decimals.
* `Numeral.printf`: its text.

## Main results

* `Numeral.units_eq_iff`: the units of a rounded magnitude.
* `Numeral.denotes_printf`, `Numeral.abs_units_div_sub_le`, `Numeral.units_eq_of_abs_sub_le`.
-/

namespace Numeral

/-! ### The value of a number -/

/-- A magnitude with its sign. -/
def signed (negative : Bool) (m : ℚ≥0) : ℚ :=
  if negative then -m else m

theorem abs_signed_sub (negative : Bool) (m k : ℚ≥0) :
    |signed negative m - signed negative k| = |(m : ℚ) - k| := by
  cases negative
  · rfl
  · rw [signed, signed, if_pos rfl, if_pos rfl, neg_sub_neg, abs_sub_comm]

/-- The value of a finite number. -/
def Number.value? : Number → Option ℚ
  | .finite negative m => some (signed negative m)
  | .infinite _ | .nan _ => none

/-! ### Rounding -/

/-- `n / d` rounded to a natural number, half to even. -/
def roundHalfEven (n d : ℕ) : ℕ :=
  if 2 * (n % d) < d then n / d
  else if d < 2 * (n % d) then n / d + 1
  else n / d + n / d % 2

/-- The number of units of the last of `p` decimals in a rounded magnitude. -/
def units (p : ℕ) (m : ℚ≥0) : ℕ :=
  roundHalfEven (m.num * 10 ^ p) m.den

/-- A number rounded to `p` decimals. -/
def Number.round (p : ℕ) : Number → Number
  | .finite negative m => .finite negative (units p m / 10 ^ p)
  | .infinite negative => .infinite negative
  | .nan negative => .nan negative

/-- A natural number nearest to another number, the even one of two. -/
structure RoundsTo (q : ℚ) (k : ℕ) : Prop where
  abs_sub_le : |q - k| ≤ 1 / 2
  even : |q - k| = 1 / 2 → k % 2 = 0

theorem roundsTo_roundHalfEven (n : ℕ) {d : ℕ} (hd : 0 < d) :
    RoundsTo (n / d) (roundHalfEven n d) := by
  have hpos : (0 : ℚ) < d := Nat.cast_pos.mpr hd
  have hsplit : (n : ℚ) / d = (n / d : ℕ) + (n % d : ℕ) / d := by
    have h : (d : ℚ) * (n / d : ℕ) + (n % d : ℕ) = n := by exact_mod_cast Nat.div_add_mod n d
    rw [← h]
    field_simp
  have hzero : (0 : ℚ) ≤ (n % d : ℕ) / d := by positivity
  have hone : ((n % d : ℕ) : ℚ) / d < 1 :=
    (div_lt_one hpos).mpr (Nat.cast_lt.mpr (Nat.mod_lt n hd))
  have hlt : ((n % d : ℕ) : ℚ) / d < 1 / 2 ↔ 2 * (n % d) < d := by
    rw [div_lt_div_iff₀ hpos two_pos, ← @Nat.cast_lt ℚ]
    push_cast
    constructor <;> intro h <;> linarith
  have hgt : (1 / 2 : ℚ) < (n % d : ℕ) / d ↔ d < 2 * (n % d) := by
    rw [div_lt_div_iff₀ two_pos hpos, ← @Nat.cast_lt ℚ]
    push_cast
    constructor <;> intro h <;> linarith
  rw [roundHalfEven, hsplit]
  generalize ((n % d : ℕ) : ℚ) / d = f at hzero hone hlt hgt
  split_ifs with hlow hhigh
  · have hhalf := hlt.mpr hlow
    have habs : |((n / d : ℕ) : ℚ) + f - (n / d : ℕ)| = f := by
      rw [add_sub_cancel_left, abs_of_nonneg hzero]
    exact ⟨by rw [habs]; exact hhalf.le, fun h => absurd (habs ▸ h) hhalf.ne⟩
  · have hhalf := hgt.mpr hhigh
    have habs : |((n / d : ℕ) : ℚ) + f - ((n / d + 1 : ℕ) : ℚ)| = 1 - f := by
      push_cast
      rw [add_sub_add_left_eq_sub, abs_sub_comm, abs_of_pos (by linarith)]
    exact ⟨by rw [habs]; linarith, fun h => absurd (habs ▸ h) (by linarith)⟩
  · have hhalf : f = 1 / 2 :=
      le_antisymm (not_lt.mp (hgt.not.mpr hhigh)) (not_lt.mp (hlt.not.mpr hlow))
    refine ⟨?_, fun _ => by omega⟩
    rcases Nat.mod_two_eq_zero_or_one (n / d) with heven | hodd
    · rw [heven, hhalf, Nat.add_zero, add_sub_cancel_left]
      norm_num
    · rw [hodd, hhalf]
      push_cast
      rw [add_sub_add_left_eq_sub]
      norm_num

theorem RoundsTo.le_of_roundsTo {q : ℚ} {k l : ℕ} (hk : RoundsTo q k) (hl : RoundsTo q l) :
    l ≤ k := by
  by_contra hlt
  have hsucc : (k : ℚ) + 1 ≤ l := by exact_mod_cast not_le.mp hlt
  obtain ⟨-, hqk⟩ := abs_le.mp hk.abs_sub_le
  obtain ⟨hql, -⟩ := abs_le.mp hl.abs_sub_le
  -- both are half away, on different sides
  have hkeven := hk.even (by rw [abs_of_nonneg] <;> linarith)
  have hleven := hl.even (by rw [abs_of_nonpos] <;> linarith)
  have hl' : l = k + 1 := by
    have : (l : ℚ) = k + 1 := by linarith
    exact_mod_cast this
  omega

theorem units_eq_iff {p : ℕ} {m : ℚ≥0} {k : ℕ} : units p m = k ↔ RoundsTo (m * 10 ^ p) k := by
  have hround : RoundsTo (m * 10 ^ p) (units p m) := by
    have h := roundsTo_roundHalfEven (m.num * 10 ^ p) m.den_pos
    have hm : ((m.num * 10 ^ p : ℕ) : ℚ) / m.den = m * 10 ^ p := by
      have h := congrArg (fun q : ℚ≥0 => (q : ℚ)) (NNRat.num_div_den m)
      push_cast at h ⊢
      rw [mul_div_right_comm, h]
    rwa [hm] at h
  constructor
  · rintro rfl
    exact hround
  · intro h
    exact le_antisymm (h.le_of_roundsTo hround) (hround.le_of_roundsTo h)

/-- A rounded magnitude is at most half a unit of the last decimal away. -/
theorem abs_units_div_sub_le (p : ℕ) (m : ℚ≥0) :
    |(units p m : ℚ) / 10 ^ p - m| ≤ 1 / (2 * 10 ^ p) := by
  have hp : (0 : ℚ) < 10 ^ p := by positivity
  have h := (units_eq_iff.mp (rfl : units p m = _)).abs_sub_le
  rw [abs_sub_comm] at h
  calc |(units p m : ℚ) / 10 ^ p - m| = |(units p m : ℚ) - m * 10 ^ p| / 10 ^ p := by
        rw [← abs_of_pos hp, ← abs_div, abs_of_pos hp, sub_div, mul_div_cancel_right₀ _ hp.ne']
    _ ≤ 1 / 2 / 10 ^ p := div_le_div_of_nonneg_right h hp.le
    _ = 1 / (2 * 10 ^ p) := div_div ..

/-- A magnitude nearer to a rounded one than the magnitude it comes from is rounded to the same. -/
theorem units_eq_of_abs_sub_le {p : ℕ} {m x : ℚ≥0}
    (h : |(m : ℚ) - units p x / 10 ^ p| ≤ |(x : ℚ) - units p x / 10 ^ p|) :
    units p m = units p x := by
  have hp : (0 : ℚ) < 10 ^ p := by positivity
  have hscale : ∀ y : ℚ≥0, |(y : ℚ) * 10 ^ p - units p x| =
      |(y : ℚ) - units p x / 10 ^ p| * 10 ^ p := by
    intro y
    rw [← abs_of_pos hp, ← abs_mul, abs_of_pos hp, sub_mul, div_mul_cancel₀ _ hp.ne']
  have hx := units_eq_iff.mp (rfl : units p x = _)
  have hle : |(m : ℚ) * 10 ^ p - units p x| ≤ |(x : ℚ) * 10 ^ p - units p x| := by
    rw [hscale, hscale]
    exact mul_le_mul_of_nonneg_right h hp.le
  exact units_eq_iff.mpr ⟨hle.trans hx.abs_sub_le, fun htie =>
    hx.even (le_antisymm hx.abs_sub_le (htie ▸ hle))⟩

/-! ### The text -/

/-- The sign of a number that is written. -/
def signText (negative : Bool) : List Char :=
  if negative then ['-'] else []

/-- `p` digits of a number, filled with zeros. -/
def padded (p n : ℕ) : List Char :=
  List.replicate (p - (Nat.toDigits 10 n).length) '0' ++ Nat.toDigits 10 n

/-- `printf` with `p` decimals, of which there is at least one. -/
def printf (p : ℕ) : Number → List Char
  | .finite negative m =>
    signText negative ++
      (Nat.toDigits 10 (units p m / 10 ^ p) ++ '.' :: padded p (units p m % 10 ^ p))
  | .infinite negative => signText negative ++ ['i', 'n', 'f']
  | .nan negative => signText negative ++ ['n', 'a', 'n']

theorem isSign_signText (negative : Bool) : IsSign negative (signText negative) := by
  cases negative
  · exact .empty
  · exact .minus

theorem isDigit_of_mem_toDigits {n : ℕ} {c : Char} (h : c ∈ Nat.toDigits 10 n) :
    isDigit 10 c = true := by
  have hc := Nat.isDigit_of_mem_toDigits (by decide) (by decide) h
  rw [Char.isDigit, Bool.and_eq_true, decide_eq_true_iff, decide_eq_true_iff] at hc
  exact isDigit_ten_iff.mpr hc

theorem isDigit_of_mem_padded {p n : ℕ} {c : Char} (h : c ∈ padded p n) :
    isDigit 10 c = true := by
  rcases List.mem_append.mp h with h | h
  · rw [List.eq_of_mem_replicate h]
    decide
  · exact isDigit_of_mem_toDigits h

theorem length_padded {p n : ℕ} (hp : 0 < p) (h : n < 10 ^ p) : (padded p n).length = p := by
  have hlength := (Nat.length_toDigits_le_iff (by decide) hp).mpr h
  rw [padded, List.length_append, List.length_replicate]
  omega

theorem ofDigits_ten {l : List Char} (h : ∀ c ∈ l, isDigit 10 c = true) :
    ofDigits 10 l = Nat.ofDigitChars 10 l 0 := by
  rw [ofDigits, Nat.ofDigitChars_eq_foldl]
  refine List.foldl_ext _ _ _ fun n c hc => ?_
  have hdigit : '0'.toNat ≤ c.toNat ∧ c.toNat ≤ '9'.toNat := isDigit_ten_iff.mp (h c hc)
  rw [digitValue, if_pos hdigit]

/-- The digits of a magnitude of `n` units are those of `n`. -/
theorem ofDigits_split {p n : ℕ} (hp : 0 < p) :
    ofDigits 10 (Nat.toDigits 10 (n / 10 ^ p) ++ padded p (n % 10 ^ p)) = n := by
  have hmod : n % 10 ^ p < 10 ^ p := Nat.mod_lt n (by positivity)
  have hdigits : ∀ c ∈ Nat.toDigits 10 (n / 10 ^ p) ++ padded p (n % 10 ^ p),
      isDigit 10 c = true := fun c hc =>
    (List.mem_append.mp hc).elim isDigit_of_mem_toDigits isDigit_of_mem_padded
  rw [ofDigits_ten hdigits, Nat.ofDigitChars_append, Nat.ofDigitChars_ten_toDigits,
    Nat.ofDigitChars_eq_ofDigitChars_zero, length_padded hp hmod, padded, Nat.ofDigitChars_append,
    Nat.ofDigitChars_replicate_zero, Nat.mul_zero, Nat.ofDigitChars_ten_toDigits]
  exact Nat.div_add_mod n (10 ^ p)

/-- **What `printf` writes is a text of the rounded number.** -/
theorem denotes_printf {p : ℕ} (hp : 0 < p) (x : Number) : Denotes (printf p x) (x.round p) := by
  have hspace : ∀ c ∈ ([] : List Char), isSpace c = true := by simp
  cases x with
  | finite negative m =>
    have hmod : units p m % 10 ^ p < 10 ^ p := Nat.mod_lt _ (by positivity)
    have hmantissa : IsMantissa 10 _ _ :=
      .point (Nat.toDigits 10 (units p m / 10 ^ p)) (padded p (units p m % 10 ^ p))
        (fun _ => isDigit_of_mem_toDigits) (fun _ => isDigit_of_mem_padded)
        (by simp [Nat.toDigits_ne_nil])
    rw [ofDigits_split hp, length_padded hp hmod] at hmantissa
    exact .mk [] _ _ negative _ hspace (isSign_signText negative)
      (.decimal _ _ (.plain _ _ hmantissa))
  | infinite negative =>
    exact .mk [] _ _ negative _ hspace (isSign_signText negative) (.inf _ (by decide))
  | nan negative =>
    exact .mk [] _ _ negative _ hspace (isSign_signText negative) (.nan _ (by decide))

end Numeral
