import Mathlib.Data.List.Basic
import Mathlib.Data.List.Nodup
import Mathlib.Order.Lattice

/-!
# Rules for loops over lists

A loop of a program over a list is a fold. This file has the rules for four kinds of them.

A loop whose body may throw is `List.foldlM` in `Except`. When an element either lets the body
complete or makes it throw, whatever the accumulator (among those the loop can reach), the loop
completes exactly on the lists of good elements, with the plain fold of the body.

A collecting loop puts elements into a container; the container after the loop has what it had
before and what the elements of the list add.

A minimizing loop keeps the least of its start and the values of the elements that count.

A loop over the keys of a family of components runs, for each key, a body that changes only the
component of that key. A component is then changed by its own turn of the loop and by no other.

## Main results

* `foldlM_eq_ok`, `exists_foldlM_eq_error`, `foldlM_isOk_iff`: loops that may throw.
* `foldlM_map_congr`: two loops whose bodies agree where the loop comes to agree.
* `mem_foldl_iff`: collecting loops.
* `foldl_min_le_iff`: minimizing loops.
* `foldl_component_of_mem`, `foldl_component_of_notMem`: loops over the keys of a family.
-/

namespace Loops

/-! ### Loops that may throw -/

section Throwing

variable {α β γ ε : Type*} {f : β → α → Except ε β} {g : β → α → β} {I : β → Prop} {good : α → Prop}

/-- The loop over good elements completes with the fold of the body, keeping the invariant. -/
theorem foldlM_eq_ok (hgood : ∀ b a, I b → good a → f b a = .ok (g b a))
    (hI : ∀ b a, I b → good a → I (g b a)) :
    ∀ (l : List α) (b : β), I b → (∀ a ∈ l, good a) → l.foldlM f b = .ok (l.foldl g b)
  | [], _, _, _ => rfl
  | a :: l, b, hb, hl => by
    have ha := hl a List.mem_cons_self
    rw [List.foldlM_cons, hgood b a hb ha]
    exact foldlM_eq_ok hgood hI l (g b a) (hI b a hb ha) fun x hx =>
      hl x (List.mem_cons_of_mem a hx)

/-- The loop throws at its first bad element. -/
theorem exists_foldlM_eq_error (hgood : ∀ b a, I b → good a → f b a = .ok (g b a))
    (hI : ∀ b a, I b → good a → I (g b a)) (hbad : ∀ b a, I b → ¬ good a → ∃ e, f b a = .error e) :
    ∀ (l : List α) (b : β), I b → (∃ a ∈ l, ¬ good a) → ∃ e, l.foldlM f b = .error e
  | [], _, _, h => by simp at h
  | a :: l, b, hb, h => by
    by_cases ha : good a
    · rw [List.foldlM_cons, hgood b a hb ha]
      refine exists_foldlM_eq_error hgood hI hbad l (g b a) (hI b a hb ha) ?_
      obtain ⟨x, hx, hxbad⟩ := h
      rcases List.mem_cons.mp hx with rfl | hx
      · exact absurd ha hxbad
      · exact ⟨x, hx, hxbad⟩
    · obtain ⟨e, he⟩ := hbad b a hb ha
      exact ⟨e, by rw [List.foldlM_cons, he]; rfl⟩

/-- The loop completes if and only if all elements are good. -/
theorem foldlM_isOk_iff (hgood : ∀ b a, I b → good a → f b a = .ok (g b a))
    (hI : ∀ b a, I b → good a → I (g b a)) (hbad : ∀ b a, I b → ¬ good a → ∃ e, f b a = .error e)
    (l : List α) (b : β) (hb : I b) : (l.foldlM f b).isOk = true ↔ ∀ a ∈ l, good a := by
  constructor
  · intro hok a ha
    by_contra hna
    obtain ⟨e, he⟩ := exists_foldlM_eq_error hgood hI hbad l b hb ⟨a, ha, hna⟩
    rw [he] at hok
    cases hok
  · intro hl
    rw [foldlM_eq_ok hgood hI l b hb hl]
    rfl

/-- Two loops agree when their bodies agree along a map of the list, at the elements that the loop
reaches and with the accumulators with which it reaches them. -/
theorem foldlM_map_congr {h : α → γ} {f' : β → γ → Except ε β} :
    ∀ (l : List α) (b : β),
      (∀ before a after b', l = before ++ a :: after → before.foldlM f b = .ok b' →
        f' b' (h a) = f b' a) →
      (l.map h).foldlM f' b = l.foldlM f b
  | [], _, _ => rfl
  | a :: l, b, hl => by
    rw [List.map_cons, List.foldlM_cons, List.foldlM_cons, hl [] a l b rfl rfl]
    cases hfirst : f b a with
    | error e => rfl
    | ok b₁ =>
      refine foldlM_map_congr l b₁ fun before x after b' hsplit hreached => ?_
      refine hl (a :: before) x after b' (congrArg (List.cons a) hsplit) ?_
      rw [List.foldlM_cons, hfirst]
      exact hreached

end Throwing

/-! ### Collecting loops -/

section Collecting

variable {α β σ : Type*} [Membership β σ] {step : σ → α → σ} {adds : α → β → Prop}

/-- After a collecting loop the container has what it had and what the elements add. -/
theorem mem_foldl_iff (h : ∀ (s : σ) (a : α) (x : β), x ∈ step s a ↔ x ∈ s ∨ adds a x) :
    ∀ (l : List α) (s : σ) (x : β), x ∈ l.foldl step s ↔ x ∈ s ∨ ∃ a ∈ l, adds a x
  | [], s, x => by simp
  | a :: l, s, x => by
    rw [List.foldl_cons, mem_foldl_iff h l (step s a) x, h]
    simp only [List.mem_cons, exists_eq_or_imp, or_assoc]

end Collecting

/-! ### Minimizing loops -/

section Minimizing

variable {α β : Type*} [LinearOrder β] {p : α → Prop} [DecidablePred p] {f : α → β}

/-- A minimizing loop ends below a bound exactly when its start or the value of an element that
counts is below it. -/
theorem foldl_min_le_iff {b : β} :
    ∀ (l : List α) (least : β),
      l.foldl (fun least a => if p a ∧ f a < least then f a else least) least ≤ b ↔
        least ≤ b ∨ ∃ a ∈ l, p a ∧ f a ≤ b
  | [], least => by simp
  | a :: l, least => by
    rw [List.foldl_cons, foldl_min_le_iff l]
    have hstep : (if p a ∧ f a < least then f a else least) ≤ b ↔
        least ≤ b ∨ (p a ∧ f a ≤ b) := by
      split
      · rename_i h
        exact ⟨fun hle => Or.inr ⟨h.1, hle⟩, fun hor => hor.elim h.2.le.trans And.right⟩
      · rename_i h
        refine ⟨Or.inl, fun hor => hor.elim id fun hval => ?_⟩
        exact (not_lt.mp fun hlt => h ⟨hval.1, hlt⟩).trans hval.2
    rw [hstep, or_assoc]
    simp only [List.mem_cons, exists_eq_or_imp]

end Minimizing

/-! ### Loops over the keys of a family -/

section Keyed

variable {κ σ β : Type*} {g : κ → σ → β} {f : σ → κ → σ}

/-- A component whose key is not in the list is as before the loop. -/
theorem foldl_component_of_notMem (hframe : ∀ s k k', k ≠ k' → g k (f s k') = g k s) {k : κ} :
    ∀ (l : List κ) (s : σ), k ∉ l → g k (l.foldl f s) = g k s
  | [], _, _ => rfl
  | k' :: l, s, hk => by
    rw [List.mem_cons, not_or] at hk
    rw [List.foldl_cons, foldl_component_of_notMem hframe l (f s k') hk.2, hframe s k k' hk.1]

/-- A component whose key is in a list without repeats is changed by its own turn of the loop, which
starts with the component as it was. -/
theorem foldl_component_of_mem (hframe : ∀ s k k', k ≠ k' → g k (f s k') = g k s) {k : κ} :
    ∀ (l : List κ) (s : σ), l.Nodup → k ∈ l →
      ∃ l₁ l₂, l = l₁ ++ k :: l₂ ∧ g k (l₁.foldl f s) = g k s ∧
        g k (l.foldl f s) = g k (f (l₁.foldl f s) k)
  | [], _, _, hk => by simp at hk
  | k' :: l, s, hl, hk => by
    rw [List.nodup_cons] at hl
    by_cases heq : k = k'
    · subst heq
      refine ⟨[], l, rfl, rfl, ?_⟩
      rw [List.foldl_cons, foldl_component_of_notMem hframe l (f s k) hl.1]
      rfl
    · have hkl : k ∈ l := (List.mem_cons.mp hk).resolve_left heq
      obtain ⟨l₁, l₂, hsplit, hbefore, hturn⟩ :=
        foldl_component_of_mem hframe l (f s k') hl.2 hkl
      refine ⟨k' :: l₁, l₂, by rw [hsplit]; rfl, ?_, ?_⟩
      · rw [List.foldl_cons, hbefore, hframe s k k' heq]
      · rw [List.foldl_cons, List.foldl_cons, hturn]

end Keyed

end Loops
