import Mathlib.Logic.Relation
import Mathlib.Order.WellFounded

/-!
# Invariants of sequences of steps

Rules for what holds after any number of steps of a relation `r`. A program that is a sequence of
loops takes a sequence of steps when the body of each loop does (`reflTransGen_foldl`). Where some
steps are told apart by a counter that never decreases, an invariant that the other steps keep
holds as long as the counter stands still (`invariant_of_count_eq`).

## Main results

* `invariant`: what every step keeps holds after any number of them.
* `reflTransGen_foldl`: a loop whose body takes steps takes steps.
* `exists_first`: a walk to an element with a property passes a first one.
* `invariant_of_count_eq`: what the uncounted steps keep holds until a counted one is taken.
* `eventually_const`: a run in which every change decreases a rank comes to a stop.
-/

namespace Reachability

open Relation

variable {α β : Type*} {r : α → α → Prop} {a b : α} {P : α → Prop}

/-- An invariant of every step holds after any number of steps. -/
theorem invariant (hstep : ∀ a b, r a b → P a → P b) (hab : ReflTransGen r a b) (ha : P a) :
    P b := by
  induction hab with
  | refl => exact ha
  | tail _ hbc ih => exact hstep _ _ hbc ih

/-- A loop takes steps when its body does. -/
theorem reflTransGen_foldl {body : α → β → α} (hbody : ∀ a x, ReflTransGen r a (body a x)) :
    ∀ (l : List β) (a : α), ReflTransGen r a (l.foldl body a)
  | [], _ => .refl
  | x :: l, a => (hbody a x).trans (reflTransGen_foldl hbody l (body a x))

/-- A walk to an element with a property passes a first one: before it, the walk has only left
elements without the property. -/
theorem exists_first (hab : ReflTransGen r a b) (hb : P b) :
    ∃ c, P c ∧ ReflTransGen (fun x y => r x y ∧ ¬ P x) a c ∧ ReflTransGen r c b := by
  induction hab using ReflTransGen.head_induction_on with
  | refl => exact ⟨b, hb, .refl, .refl⟩
  | @head a a' haa' ha'b ih =>
    by_cases ha : P a
    · exact ⟨a, ha, .refl, ha'b.head haa'⟩
    · obtain ⟨c, hc, ha'c, hcb⟩ := ih
      exact ⟨c, hc, ha'c.head ⟨haa', ha⟩, hcb⟩

variable {ι : Type*} [PartialOrder ι] {f : α → ι}

/-- A counter that no step decreases is not decreased by several. -/
theorem count_le (hcount : ∀ a b, r a b → f a ≤ f b) (hab : ReflTransGen r a b) :
    f a ≤ f b := by
  induction hab with
  | refl => exact le_rfl
  | tail _ hbc ih => exact ih.trans (hcount _ _ hbc)

/-- While a counter that no step decreases stands still, an invariant of the steps that leave it
alone holds. -/
theorem invariant_of_count_eq (hcount : ∀ a b, r a b → f a ≤ f b)
    (hstep : ∀ a b, r a b → f b = f a → P a → P b) (hab : ReflTransGen r a b)
    (heq : f b = f a) (ha : P a) : P b := by
  induction hab with
  | refl => exact ha
  | @tail b c hab hbc ih =>
    have hb : f b = f a :=
      le_antisymm ((hcount b c hbc).trans heq.le) (count_le hcount hab)
    exact hstep b c hbc (heq.trans hb.symm) (ih hb)

/-- A run in which every change decreases a well-founded rank comes to a stop. -/
theorem eventually_const {γ : Type*} [Preorder γ] [WellFoundedLT γ] (rank : β → γ) (run : ℕ → β)
    (hrank : ∀ n, run (n + 1) = run n ∨ rank (run (n + 1)) < rank (run n)) :
    ∃ N, ∀ n, N ≤ n → run n = run N := by
  obtain ⟨N, -, hmin⟩ := WellFounded.has_min
    (InvImage.wf (fun n => rank (run n)) wellFounded_lt) Set.univ ⟨0, trivial⟩
  refine ⟨N, fun n hn => ?_⟩
  induction n, hn using Nat.le_induction with
  | base => rfl
  | succ n _ ih =>
    refine (hrank n).elim (fun h => h.trans ih) fun hlt => ?_
    rw [ih] at hlt
    exact absurd hlt (hmin (n + 1) trivial)

end Reachability
