import MetricTPower.Library.Reachability
import Mathlib.Logic.Function.Basic

/-!
# Sections under one lock

Actors share a state, which they only write in sections under one lock. A section runs in several
parts, which are fixed when it is entered and between which the other actors go on; an actor enters
a section when the lock is free and gives it back when all parts have run.

Whatever the interleaving, the sections have then been run one after the other, in the order in
which they were entered, except that the parts of the last one may not all have run yet.

## Main definitions

* `CriticalSections.State`, `CriticalSections.Step`: the actors, and what they can do.
* `CriticalSections.serial`: the sections run one after the other.
* `CriticalSections.Inv`: what holds in every interleaving.

## Main results

* `CriticalSections.inv_of_reachable`: at most one actor is inside a section, and the shared state
  is that of the serial run.
* `CriticalSections.Inv.finish_eq_serial`: finishing the section under way completes the serial run.
* `CriticalSections.Inv.shared_invariant`: what every part keeps holds in every interleaving, also
  in the middle of a section.
-/

namespace CriticalSections

open Relation (ReflTransGen)

variable {ι κ σ : Type*}

/-! ### Sections and interleavings -/

/-- Parts of a section run one after the other. -/
def runParts (parts : List (σ → σ)) (s : σ) : σ :=
  parts.foldl (fun s part => part s) s

@[simp] theorem runParts_nil (s : σ) : runParts [] s = s := rfl

@[simp] theorem runParts_cons (part : σ → σ) (parts : List (σ → σ)) (s : σ) :
    runParts (part :: parts) s = runParts parts (part s) := rfl

theorem runParts_append (parts parts' : List (σ → σ)) (s : σ) :
    runParts (parts ++ parts') s = runParts parts' (runParts parts s) :=
  List.foldl_append

/-- Actors `ι` that share a state `σ` under a lock. -/
structure State (ι κ σ : Type*) where
  shared : σ
  /-- the actor that holds the lock -/
  lock : Option ι
  /-- the parts that an actor has still to run, when it is inside a section -/
  inside : ι → Option (List (σ → σ))
  /-- the sections entered so far and their actors, the newest first -/
  entered : List (ι × κ)

namespace State

/-- No section has been entered yet. -/
def init (s : σ) : State ι κ σ where
  shared := s
  lock := none
  inside := fun _ => none
  entered := []

/-- The parts that the section under way has still to run. -/
def remaining (s : State ι κ σ) : List (σ → σ) :=
  (s.lock.bind s.inside).getD []

/-- The shared state after the section under way. -/
def finish (s : State ι κ σ) : σ :=
  runParts s.remaining s.shared

/-- The sections entered so far, the newest first. -/
def sections (s : State ι κ σ) : List κ :=
  s.entered.map Prod.snd

end State

variable [DecidableEq ι] (parts : κ → σ → List (σ → σ))

namespace State

/-- An actor takes the lock, if it is free, and enters a section. -/
def enter (i : ι) (k : κ) (s : State ι κ σ) : Option (State ι κ σ) :=
  match s.lock with
  | none => some
    { shared := s.shared
      lock := some i
      inside := Function.update s.inside i (some (parts k s.shared))
      entered := (i, k) :: s.entered }
  | some _ => none

/-- An actor runs the next part of its section. -/
def work (i : ι) (s : State ι κ σ) : Option (State ι κ σ) :=
  match s.inside i with
  | some (part :: rest) => some
    { shared := part s.shared
      lock := s.lock
      inside := Function.update s.inside i (some rest)
      entered := s.entered }
  | _ => none

/-- An actor whose section has no parts left gives the lock back. -/
def leave (i : ι) (s : State ι κ σ) : Option (State ι κ σ) :=
  match s.inside i with
  | some [] => some
    { shared := s.shared
      lock := none
      inside := Function.update s.inside i none
      entered := s.entered }
  | _ => none

end State

/-- What the actors can do. -/
inductive Step (s s' : State ι κ σ) : Prop
  | enter (i : ι) (k : κ) (h : s.enter parts i k = some s')
  | work (i : ι) (h : s.work i = some s')
  | leave (i : ι) (h : s.leave i = some s')

section Results

variable {parts} {s s' : State ι κ σ} {i : ι} {k : κ}

theorem State.enter_eq_some_iff : s.enter parts i k = some s' ↔ s.lock = none ∧ s' =
    { shared := s.shared
      lock := some i
      inside := Function.update s.inside i (some (parts k s.shared))
      entered := (i, k) :: s.entered } := by
  rw [State.enter]
  cases s.lock <;> simp [eq_comm]

theorem State.work_eq_some_iff : s.work i = some s' ↔
    ∃ part rest, s.inside i = some (part :: rest) ∧ s' =
      { shared := part s.shared
        lock := s.lock
        inside := Function.update s.inside i (some rest)
        entered := s.entered } := by
  rw [State.work]
  rcases s.inside i with _ | _ | ⟨part, rest⟩
  · simp
  · simp
  · simp [eq_comm, and_assoc]

theorem State.leave_eq_some_iff : s.leave i = some s' ↔ s.inside i = some [] ∧ s' =
    { shared := s.shared
      lock := none
      inside := Function.update s.inside i none
      entered := s.entered } := by
  rw [State.leave]
  rcases s.inside i with _ | _ | ⟨part, rest⟩
  · simp
  · simp [eq_comm]
  · simp

/-! What the actors see of each other's steps: nothing but the sections that are entered. -/

theorem State.enter_spec (h : s.enter parts i k = some s') :
    s'.entered = (i, k) :: s.entered ∧ s'.inside i ≠ none ∧
      ∀ j, j ≠ i → s'.inside j = s.inside j := by
  obtain ⟨-, rfl⟩ := enter_eq_some_iff.mp h
  exact ⟨rfl, by simp, fun j hj => Function.update_of_ne hj _ _⟩

theorem State.work_spec (h : s.work i = some s') :
    s'.entered = s.entered ∧ s.inside i ≠ none ∧ s'.inside i ≠ none ∧
      ∀ j, j ≠ i → s'.inside j = s.inside j := by
  obtain ⟨part, rest, hinside, rfl⟩ := work_eq_some_iff.mp h
  exact ⟨rfl, by simp [hinside], by simp, fun j hj => Function.update_of_ne hj _ _⟩

theorem State.leave_spec (h : s.leave i = some s') :
    s'.entered = s.entered ∧ s.inside i ≠ none ∧ s'.inside i = none ∧
      ∀ j, j ≠ i → s'.inside j = s.inside j := by
  obtain ⟨hinside, rfl⟩ := leave_eq_some_iff.mp h
  exact ⟨rfl, by simp [hinside], by simp, fun j hj => Function.update_of_ne hj _ _⟩

end Results

/-- The sections of a list run one after the other, the last of the list first. -/
def serial (s : σ) : List κ → σ
  | [] => s
  | k :: older => runParts (parts k (serial s older)) (serial s older)

/-! ### What holds in every interleaving -/

/-- The actor that holds the lock, and no other, is inside a section; and the shared state is the
one of the serial run of the sections, the last of them as far as it has got. -/
structure Inv (s₀ : σ) (s : State ι κ σ) : Prop where
  inside_iff : ∀ i, s.inside i ≠ none ↔ s.lock = some i
  free : s.lock = none → s.shared = serial parts s₀ s.sections
  held : ∀ i rest, s.inside i = some rest → ∃ k older done, s.sections = k :: older ∧
    parts k (serial parts s₀ older) = done ++ rest ∧
    s.shared = runParts done (serial parts s₀ older)

variable {parts} {s₀ : σ} {s s' : State ι κ σ}

omit [DecidableEq ι] in
theorem Inv.init : Inv parts s₀ (State.init s₀ : State ι κ σ) where
  inside_iff i := by simp [State.init]
  free _ := rfl
  held i rest h := by simp [State.init] at h

omit [DecidableEq ι] in
theorem Inv.inside_inj (h : Inv parts s₀ s) {i j : ι} (hi : s.inside i ≠ none)
    (hj : s.inside j ≠ none) : i = j :=
  Option.some.inj (((h.inside_iff i).mp hi).symm.trans ((h.inside_iff j).mp hj))

theorem Inv.step (h : Inv parts s₀ s) (hstep : Step parts s s') : Inv parts s₀ s' := by
  cases hstep with
  | enter i k hs' =>
    obtain ⟨hfree, rfl⟩ := State.enter_eq_some_iff.mp hs'
    have hout : ∀ j, s.inside j = none := by
      intro j
      by_contra hj
      have hlock := (h.inside_iff j).mp hj
      rw [hfree] at hlock
      cases hlock
    constructor
    · intro j
      by_cases hij : j = i
      · simp [hij]
      · simp [Function.update_of_ne hij, hout, Ne.symm hij]
    · intro hlock
      cases hlock
    · intro j rest hj
      by_cases hij : j = i
      · subst hij
        dsimp only at hj
        rw [Function.update_self, Option.some.injEq] at hj
        refine ⟨k, s.sections, [], rfl, ?_, h.free hfree⟩
        rw [List.nil_append, ← hj, h.free hfree]
      · dsimp only at hj
        rw [Function.update_of_ne hij, hout] at hj
        cases hj
  | work i hs' =>
    obtain ⟨part, rest, hinside, rfl⟩ := State.work_eq_some_iff.mp hs'
    obtain ⟨k, older, done, hsections, hparts, hshared⟩ := h.held i _ hinside
    have hin : s.inside i ≠ none := by simp [hinside]
    constructor
    · intro j
      by_cases hij : j = i
      · simp [hij, (h.inside_iff i).mp hin]
      · dsimp only
        rw [Function.update_of_ne hij]
        exact h.inside_iff j
    · intro hfree
      rw [(h.inside_iff i).mp hin] at hfree
      cases hfree
    · intro j rest' hj
      dsimp only at hj
      by_cases hij : j = i
      · subst hij
        rw [Function.update_self, Option.some.injEq] at hj
        subst hj
        refine ⟨k, older, done ++ [part], hsections, ?_, ?_⟩
        · rw [hparts, List.append_assoc, List.singleton_append]
        · rw [runParts_append, ← hshared]
          rfl
      · -- no other actor is inside
        rw [Function.update_of_ne hij] at hj
        exact absurd (h.inside_inj (by simp [hj]) hin) hij
  | leave i hs' =>
    obtain ⟨hinside, rfl⟩ := State.leave_eq_some_iff.mp hs'
    obtain ⟨k, older, done, hsections, hparts, hshared⟩ := h.held i _ hinside
    have hout : ∀ j, j ≠ i → s.inside j = none := by
      intro j hij
      by_contra hj
      exact hij (h.inside_inj hj (by simp [hinside]))
    constructor
    · intro j
      by_cases hij : j = i
      · simp [hij]
      · simp [Function.update_of_ne hij, hout j hij]
    · intro _
      change s.shared = serial parts s₀ s.sections
      rw [hsections, serial, hparts, List.append_nil, hshared]
    · intro j rest hj
      dsimp only at hj
      by_cases hij : j = i
      · rw [hij, Function.update_self] at hj
        cases hj
      · rw [Function.update_of_ne hij, hout j hij] at hj
        cases hj

/-- **Every interleaving is a serial run** of the sections in the order in which they were entered,
the last of them as far as it has got. -/
theorem inv_of_reachable (h : ReflTransGen (Step parts) (State.init s₀) s) : Inv parts s₀ s :=
  Reachability.invariant (fun _ _ hstep hs => Inv.step hs hstep) h Inv.init

omit [DecidableEq ι] in
/-- Finishing the section under way completes the serial run. -/
theorem Inv.finish_eq_serial (h : Inv parts s₀ s) : s.finish = serial parts s₀ s.sections := by
  rw [State.finish, State.remaining]
  cases hlock : s.lock with
  | none => exact h.free hlock
  | some i =>
    obtain ⟨rest, hrest⟩ := Option.ne_none_iff_exists'.mp ((h.inside_iff i).mpr hlock)
    obtain ⟨k, older, done, hsections, hparts, hshared⟩ := h.held i rest hrest
    rw [Option.bind_some, hrest, Option.getD_some, hsections, serial, hparts, runParts_append,
      hshared]

/-- Work leaves one part less to run. -/
theorem Inv.remaining_lt_of_work (h : Inv parts s₀ s) {i : ι} (hs' : s.work i = some s') :
    s'.remaining.length < s.remaining.length := by
  obtain ⟨part, rest, hinside, rfl⟩ := State.work_eq_some_iff.mp hs'
  have hlock := (h.inside_iff i).mp (by simp [hinside])
  simp [State.remaining, hlock, hinside]

omit [DecidableEq ι] in
theorem runParts_invariant {P : σ → Prop} :
    ∀ (l : List (σ → σ)) (t : σ), (∀ part ∈ l, ∀ t, P t → P (part t)) → P t → P (runParts l t)
  | [], _, _, ht => ht
  | part :: l, t, hl, ht =>
    runParts_invariant l (part t) (fun part' h => hl part' (List.mem_cons_of_mem part h))
      (hl part List.mem_cons_self t ht)

omit [DecidableEq ι] in
theorem runParts_reaches {r : σ → σ → Prop} :
    ∀ (l : List (σ → σ)) (t : σ), (∀ part ∈ l, ∀ t, ReflTransGen r t (part t)) →
      ReflTransGen r t (runParts l t)
  | [], _, _ => .refl
  | part :: l, t, hl =>
    (hl part List.mem_cons_self t).trans
      (runParts_reaches l (part t) fun part' h => hl part' (List.mem_cons_of_mem part h))

omit [DecidableEq ι] in
/-- The section under way ends by steps that its parts take. -/
theorem Inv.reaches_finish {r : σ → σ → Prop} (h : Inv parts s₀ s)
    (hpart : ∀ k t, ∀ part ∈ parts k t, ∀ t', ReflTransGen r t' (part t')) :
    ReflTransGen r s.shared s.finish := by
  refine runParts_reaches _ _ fun part hmem => ?_
  rw [State.remaining] at hmem
  cases hlock : s.lock with
  | none => simp [hlock] at hmem
  | some i =>
    obtain ⟨rest, hrest⟩ := Option.ne_none_iff_exists'.mp ((h.inside_iff i).mpr hlock)
    obtain ⟨k, older, done, -, hparts, -⟩ := h.held i rest hrest
    rw [hlock, Option.bind_some, hrest, Option.getD_some] at hmem
    exact hpart k _ part (hparts ▸ List.mem_append_right done hmem)

theorem serial_invariant {P : σ → Prop}
    (hpart : ∀ k t, ∀ part ∈ parts k t, ∀ t', P t' → P (part t')) (h₀ : P s₀) :
    ∀ entered : List κ, P (serial parts s₀ entered)
  | [] => h₀
  | k :: older => runParts_invariant _ _ (hpart k _) (serial_invariant hpart h₀ older)

omit [DecidableEq ι] in
/-- What every part keeps holds in every interleaving, also in the middle of a section. -/
theorem Inv.shared_invariant {P : σ → Prop} (h : Inv parts s₀ s)
    (hpart : ∀ k t, ∀ part ∈ parts k t, ∀ t', P t' → P (part t')) (h₀ : P s₀) : P s.shared := by
  cases hlock : s.lock with
  | none =>
    rw [h.free hlock]
    exact serial_invariant hpart h₀ _
  | some i =>
    obtain ⟨rest, hrest⟩ := Option.ne_none_iff_exists'.mp ((h.inside_iff i).mpr hlock)
    obtain ⟨k, older, done, -, hparts, hshared⟩ := h.held i rest hrest
    rw [hshared]
    refine runParts_invariant _ _ (fun part hmem => ?_) (serial_invariant hpart h₀ _)
    exact hpart k _ part (hparts ▸ List.mem_append_left rest hmem)

end CriticalSections
