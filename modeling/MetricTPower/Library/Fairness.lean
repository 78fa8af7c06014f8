import MetricTPower.Library.Reachability
import Mathlib.Order.Filter.AtTopBot.Basic
import Mathlib.Order.Filter.Finite

/-!
# Fair schedules

Actors take turns in an infinite run. A schedule is fair when an actor that can go on again and
again does go on again and again, whatever comes between (strong fairness). It says nothing of the
order of the turns.

What every step keeps or ends holds for ever or up to its end (`forever_or_until`); fairness is what
rules out one of the two. The rule for progress has a rank on the states. As long as the run is not
at its goal no step increases the rank, every turn of an actor decreases it, and some actor can go
on. Then the run comes to its goal, because a well-founded rank cannot be decreased again and again.

## Main definitions

* `Fairness.Fair`: no actor is passed over for ever.

## Main results

* `Fairness.forever_or_until`: what holds until it is ended.
* `Fairness.not_frequently_lt`: a rank that is never increased is not decreased for ever.
* `Fairness.Fair.exists_goal`: a fair run comes to its goal.
-/

namespace Fairness

open Filter

variable {α ι γ : Type*} {canGo : ι → α → Prop} {run : ℕ → α} {goes : ι → ℕ → Prop}

/-- An actor that can go on in infinitely many states of a run goes on infinitely often. -/
def Fair (canGo : ι → α → Prop) (run : ℕ → α) (goes : ι → ℕ → Prop) : Prop :=
  ∀ i, (∃ᶠ n in atTop, canGo i (run n)) → ∃ᶠ n in atTop, goes i n

/-- What every step keeps or ends with an exit holds for ever, or up to an exit. -/
theorem forever_or_until {P exits : ℕ → Prop} {N : ℕ} (hstart : P N)
    (hstep : ∀ n, N ≤ n → P n → P (n + 1) ∨ exits n) :
    (∀ n, N ≤ n → P n) ∨ ∃ n, N ≤ n ∧ (∀ k, N ≤ k → k ≤ n → P k) ∧ exits n := by
  refine or_iff_not_imp_right.mpr fun hnever n hn => ?_
  have hprefix : ∀ k, N ≤ k → k ≤ n → P k := by
    induction n, hn using Nat.le_induction with
    | base => exact fun k hNk hkN => le_antisymm hNk hkN ▸ hstart
    | succ n hn ih =>
      intro k hNk hkn
      rcases hkn.lt_or_eq with hlt | rfl
      · exact ih k hNk (Nat.le_of_lt_succ hlt)
      · refine (hstep n hn (ih n hn le_rfl)).resolve_right fun hexits => ?_
        exact hnever ⟨n, hn, ih, hexits⟩
  exact hprefix n hn le_rfl

section Rank

variable [PartialOrder γ] [WellFoundedLT γ]

/-- A rank that is not increased from a place on is not decreased again and again. -/
theorem not_frequently_lt (rank : ℕ → γ) {N : ℕ}
    (hle : ∀ n, N ≤ n → rank (n + 1) ≤ rank n) : ¬ ∃ᶠ n in atTop, rank (n + 1) < rank n := by
  obtain ⟨M, hconst⟩ := Reachability.eventually_const id (fun n => rank (N + n))
    fun n => (hle (N + n) (Nat.le_add_right N n)).eq_or_lt
  rw [not_frequently, eventually_atTop]
  refine ⟨N + M, fun n hn => ?_⟩
  obtain ⟨k, rfl⟩ := Nat.exists_eq_add_of_le ((Nat.le_add_right N M).trans hn)
  have hM : M ≤ k := Nat.le_of_add_le_add_left hn
  have hsame : rank (N + (k + 1)) = rank (N + k) :=
    (hconst (k + 1) (hM.trans k.le_succ)).trans (hconst k hM).symm
  exact hsame.not_lt

/-- **A fair run comes to its goal** when, as long as it is not there, no step increases a rank, the
turns of the actors decrease it and some actor can go on. -/
theorem Fair.exists_goal [Finite ι] (hfair : Fair canGo run goes) (rank : α → γ) (goal : α → Prop)
    (N : ℕ) (hle : ∀ n, N ≤ n → ¬ goal (run n) → ¬ goal (run (n + 1)) →
      rank (run (n + 1)) ≤ rank (run n))
    (hlt : ∀ n, N ≤ n → ¬ goal (run n) → ¬ goal (run (n + 1)) → ∀ i, goes i n →
      rank (run (n + 1)) < rank (run n))
    (hcan : ∀ n, N ≤ n → ¬ goal (run n) → ∃ i, canGo i (run n)) :
    ∃ n, N ≤ n ∧ goal (run n) := by
  by_contra hnever
  have hnot : ∀ n, N ≤ n → ¬ goal (run n) := fun n hn hgoal => hnever ⟨n, hn, hgoal⟩
  -- one of the finitely many actors can go on infinitely often
  obtain ⟨i, hi⟩ : ∃ i, ∃ᶠ n in atTop, canGo i (run n) := by
    by_contra hnone
    simp only [not_exists, not_frequently] at hnone
    obtain ⟨M, hM⟩ := eventually_atTop.mp (eventually_all.mpr hnone)
    obtain ⟨i, hi⟩ := hcan (max N M) (le_max_left N M) (hnot _ (le_max_left N M))
    exact hM _ (le_max_right N M) i hi
  refine not_frequently_lt (fun n => rank (run n)) (N := N)
    (fun n hn => hle n hn (hnot n hn) (hnot _ (hn.trans n.le_succ))) ?_
  refine ((hfair i hi).and_eventually (eventually_ge_atTop N)).mono ?_
  rintro n ⟨hgoes, hn⟩
  exact hlt n hn (hnot n hn) (hnot _ (hn.trans n.le_succ)) i hgoes

end Rank

end Fairness
