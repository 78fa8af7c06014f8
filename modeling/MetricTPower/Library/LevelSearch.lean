import Mathlib.Data.Finset.Card
import Mathlib.Data.Set.Finite.Basic
import Mathlib.Logic.Relation

/-!
# Searching a relation level by level

The level-by-level search of a relation `r` from a set `B` goes from a level to the set of all
successors of its elements, without remembering what it has seen. An element that is reached by
chains of several lengths is on several levels, and on a cycle the search runs on for ever.

## Main definitions

* `LevelSearch.level r B n`: the elements reached from `B` by chains of length `n`.
* `LevelSearch.ReachesCycle r B`: some element reached from `B` is on a cycle of `r`.

## Main results

* `LevelSearch.exists_mem_level_iff`: the levels cover exactly what is reachable from `B`.
* `LevelSearch.exists_level_eq_empty_iff`: when the successors lie in a finite set, the search
  ends if and only if it reaches no cycle.
* `LevelSearch.exists_end`: an element that leads to no cycle leads to one without successors.
-/

namespace LevelSearch

open Relation

variable {α : Type*} (r : α → α → Prop) (B : Set α)

/-- The elements reached from `B` by chains of length `n`. -/
def level : ℕ → Set α
  | 0 => B
  | n + 1 => {y | ∃ x ∈ level n, r x y}

/-- Some element reached from `B` is on a cycle. -/
def ReachesCycle : Prop :=
  ∃ x ∈ B, ∃ y, ReflTransGen r x y ∧ TransGen r y y

variable {r B}

theorem mem_level_succ {n : ℕ} {y : α} : y ∈ level r B (n + 1) ↔ ∃ x ∈ level r B n, r x y :=
  Iff.rfl

/-- The levels after the first are the levels of the search from the second level. -/
theorem level_succ' (n : ℕ) : level r B (n + 1) = level r {y | ∃ x ∈ B, r x y} n := by
  induction n with
  | zero => rfl
  | succ n ih =>
    ext y
    rw [mem_level_succ, ih]
    rfl

/-- The levels cover exactly what is reachable. -/
theorem exists_mem_level_iff {y : α} :
    (∃ n, y ∈ level r B n) ↔ ∃ x ∈ B, ReflTransGen r x y := by
  constructor
  · rintro ⟨n, hn⟩
    induction n generalizing y with
    | zero => exact ⟨y, hn, .refl⟩
    | succ n ih =>
      obtain ⟨z, hz, hzy⟩ := hn
      obtain ⟨x, hx, hxz⟩ := ih hz
      exact ⟨x, hx, hxz.tail hzy⟩
  · rintro ⟨x, hx, hxy⟩
    induction hxy with
    | refl => exact ⟨0, hx⟩
    | tail _ hyz ih =>
      obtain ⟨n, hn⟩ := ih
      exact ⟨n + 1, _, hn, hyz⟩

/-- A level is empty from the first empty level on. -/
theorem level_eq_empty_of_le {m n : ℕ} (h : level r B m = ∅) (hmn : m ≤ n) : level r B n = ∅ := by
  induction n, hmn using Nat.le_induction with
  | base => exact h
  | succ n _ ih =>
    ext y
    simp [mem_level_succ, ih]

/-- Walking a chain from an element of a level leads to a later level. -/
theorem exists_mem_level_of_transGen {m : ℕ} {x y : α} (hx : x ∈ level r B m)
    (hxy : TransGen r x y) : ∃ n, m < n ∧ y ∈ level r B n := by
  induction hxy with
  | single hxy => exact ⟨m + 1, Nat.lt_succ_self m, x, hx, hxy⟩
  | tail _ hyz ih =>
    obtain ⟨n, hmn, hn⟩ := ih
    exact ⟨n + 1, hmn.trans (Nat.lt_succ_self n), _, hn, hyz⟩

/-- A search that reaches a cycle has no empty level. -/
theorem ReachesCycle.level_nonempty (h : ReachesCycle r B) (n : ℕ) : (level r B n).Nonempty := by
  obtain ⟨x, hx, y, hxy, hcycle⟩ := h
  obtain ⟨m, hm⟩ := exists_mem_level_iff.mpr ⟨x, hx, hxy⟩
  -- once around the cycle leads to a later level, hence to arbitrarily late ones
  have hlate : ∀ n, ∃ k, n ≤ k ∧ y ∈ level r B k := by
    intro n
    induction n with
    | zero => exact ⟨m, Nat.zero_le m, hm⟩
    | succ n ih =>
      obtain ⟨k, hnk, hk⟩ := ih
      obtain ⟨k', hkk', hk'⟩ := exists_mem_level_of_transGen hk hcycle
      exact ⟨k', by omega, hk'⟩
  obtain ⟨k, hnk, hk⟩ := hlate n
  by_contra hempty
  rw [Set.not_nonempty_iff_eq_empty] at hempty
  rw [level_eq_empty_of_le hempty hnk] at hk
  exact hk

/-- An element of a level is the end of a chain from `B` of that length. -/
theorem exists_chain_of_mem_level {n : ℕ} {y : α} (hy : y ∈ level r B n) :
    ∃ c : ℕ → α, c 0 ∈ B ∧ c n = y ∧ ∀ i < n, r (c i) (c (i + 1)) := by
  induction n generalizing y with
  | zero => exact ⟨fun _ => y, hy, rfl, by simp⟩
  | succ n ih =>
    obtain ⟨x, hx, hxy⟩ := hy
    obtain ⟨c, h0, hn, hc⟩ := ih hx
    refine ⟨fun i => if i ≤ n then c i else y, by simpa using h0, by simp, fun i hi => ?_⟩
    rcases Nat.lt_succ_iff_lt_or_eq.mp hi with hlt | rfl
    · simpa [hlt.le, Nat.succ_le_of_lt hlt] using hc i hlt
    · simpa [hn, Nat.not_succ_le_self] using hxy

/-- A stretch of a chain is a chain of the relation. -/
theorem transGen_of_chain {c : ℕ → α} {n : ℕ} (hc : ∀ i < n, r (c i) (c (i + 1))) {i j : ℕ}
    (hij : i < j) (hjn : j ≤ n) : TransGen r (c i) (c j) := by
  induction j, hij using Nat.le_induction with
  | base => exact .single (hc i (by omega))
  | succ j hij ih => exact (ih (by omega)).tail (hc j (by omega))

/-- Among successors in a finite set, a search that reaches no cycle ends after one more round than
the set has elements: a longer chain would visit some element twice. -/
theorem level_card_succ_eq_empty (S : Finset α) (hS : ∀ x y, r x y → y ∈ S)
    (h : ¬ ReachesCycle r B) : level r B (S.card + 1) = ∅ := by
  by_contra hne
  obtain ⟨y, hy⟩ := Set.nonempty_iff_ne_empty.mpr hne
  obtain ⟨c, h0, -, hc⟩ := exists_chain_of_mem_level hy
  have hmaps : ∀ i ∈ Finset.range (S.card + 1), c (i + 1) ∈ S := fun i hi =>
    hS _ _ (hc i (Finset.mem_range.mp hi))
  obtain ⟨i, hi, j, hj, hij, heq⟩ :=
    Finset.exists_ne_map_eq_of_card_lt_of_maps_to (by simp) hmaps
  rw [Finset.mem_range] at hi hj
  -- the earlier of the two visits is reached from `B` and reaches itself again
  have hcycle : ∀ {a b : ℕ}, a < b → b < S.card + 1 → c (a + 1) = c (b + 1) → False := by
    intro a b hab hb hvisit
    refine h ⟨c 0, h0, c (a + 1), (transGen_of_chain hc (by omega) (by omega)).to_reflTransGen, ?_⟩
    have hloop : TransGen r (c (a + 1)) (c (b + 1)) :=
      transGen_of_chain hc (by omega) (by omega)
    rwa [← hvisit] at hloop
  rcases Nat.lt_or_gt_of_ne hij with hlt | hlt
  · exact hcycle hlt hj heq
  · exact hcycle hlt hi heq.symm

/-- **The search ends exactly when it reaches no cycle**, among successors in a finite set. -/
theorem exists_level_eq_empty_iff (S : Finset α) (hS : ∀ x y, r x y → y ∈ S) :
    (∃ n, level r B n = ∅) ↔ ¬ ReachesCycle r B := by
  constructor
  · rintro ⟨n, hn⟩ h
    exact (h.level_nonempty n).ne_empty hn
  · exact fun h => ⟨_, level_card_succ_eq_empty S hS h⟩

/-- Among successors in a finite set, an element that leads to no cycle leads to an element without
successors. -/
theorem exists_end (S : Finset α) (hS : ∀ x y, r x y → y ∈ S) {x : α} (h : ¬ ReachesCycle r {x}) :
    ∃ y, ReflTransGen r x y ∧ ∀ z, ¬ r y z := by
  by_contra hno
  push Not at hno
  -- otherwise every level has an element, as every element that is reached has a successor
  have hlevel : ∀ n, (level r {x} n).Nonempty := by
    intro n
    induction n with
    | zero => exact ⟨x, rfl⟩
    | succ n ih =>
      obtain ⟨y, hy⟩ := ih
      obtain ⟨_, rfl, hxy⟩ := exists_mem_level_iff.mp ⟨n, hy⟩
      obtain ⟨z, hyz⟩ := hno y hxy
      exact ⟨z, y, hy, hyz⟩
  obtain ⟨n, hn⟩ := (exists_level_eq_empty_iff S hS).mpr h
  exact (hlevel n).ne_empty hn

end LevelSearch
