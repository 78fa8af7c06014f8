import Mathlib.Control.Basic
import Mathlib.Data.Nat.Notation

/-!
# Outcomes of calls that may throw or run on

A call of a procedure either returns a value, throws an exception, or is still running after the
number of loop rounds it was given. `Outcome` is the monad of such calls: a sequence of calls
goes on while they return.

## Main definitions

* `Outcome`, with its `Monad` instance.
* `Outcome.ofExcept`, `Outcome.ofOption`: calls that cannot run on, and calls that cannot throw.
* `Outcome.settled`: the value or the exception of a call that has ended.
* `Outcome.Ends`: a call returns a value whatever the number of rounds, from some number on.

## Main results

* `Outcome.Ends.bind`, `Outcome.exists_ends_foldlM`: sequences and loops of such calls.
-/

/-- The outcome of a call: a value, an exception with its text, or none yet. -/
inductive Outcome (α : Type)
  | returns (a : α)
  | throws (what : String)
  | running
  deriving DecidableEq

namespace Outcome

variable {α β : Type}

/-- The sequence of a call and of what is done with the value it returns. -/
def andThen (x : Outcome α) (f : α → Outcome β) : Outcome β :=
  match x with
  | returns a => f a
  | throws what => throws what
  | running => running

instance : Monad Outcome where
  pure := returns
  bind := andThen

/-- A call that ends. -/
def ofExcept : Except String α → Outcome α
  | .ok a => returns a
  | .error what => throws what

/-- A call that does not throw. -/
def ofOption : Option α → Outcome α
  | some a => returns a
  | none => running

/-- The value or the exception of a call that has ended. -/
def settled : Outcome α → Option (Except String α)
  | returns a => some (.ok a)
  | throws what => some (.error what)
  | running => none

@[simp] theorem returns_bind (a : α) (f : α → Outcome β) : returns a >>= f = f a := rfl

@[simp] theorem throws_bind (what : String) (f : α → Outcome β) :
    throws what >>= f = throws what := rfl

@[simp] theorem running_bind (f : α → Outcome β) : running >>= f = running := rfl

@[simp] theorem ofExcept_ok (a : α) : ofExcept (.ok a) = returns a := rfl

@[simp] theorem ofExcept_error (what : String) :
    (ofExcept (.error what) : Outcome α) = throws what := rfl

@[simp] theorem ofOption_some (a : α) : ofOption (some a) = returns a := rfl

@[simp] theorem ofOption_none : (ofOption none : Outcome α) = running := rfl

/-- A sequence returns when the first call does, and then the rest does. -/
theorem bind_eq_returns_iff {x : Outcome α} {f : α → Outcome β} {b : β} :
    x >>= f = returns b ↔ ∃ a, x = returns a ∧ f a = returns b := by
  cases x with
  | returns a => simp
  | throws what => simp
  | running => simp

theorem ofExcept_eq_returns_iff {x : Except String α} {a : α} :
    ofExcept x = returns a ↔ x = .ok a := by
  cases x <;> simp

theorem ofOption_eq_returns_iff {x : Option α} {a : α} : ofOption x = returns a ↔ x = some a := by
  cases x <;> simp

theorem settled_eq_ok_iff {x : Outcome α} {a : α} : x.settled = some (.ok a) ↔ x = returns a := by
  cases x <;> simp [settled]

/-! ### Calls with enough rounds -/

/-- A call, by the number of rounds it is given, returns a value from some number on. -/
def Ends (call : ℕ → Outcome α) (a : α) : Prop :=
  ∃ n, ∀ rounds, n ≤ rounds → call rounds = returns a

theorem ends_const (a : α) : Ends (fun _ => returns a) a :=
  ⟨0, fun _ _ => rfl⟩

/-- A sequence of two calls ends with enough rounds for both. -/
theorem Ends.bind {call : ℕ → Outcome α} {next : ℕ → α → Outcome β} {a : α} {b : β}
    (hcall : Ends call a) (hnext : Ends (fun rounds => next rounds a) b) :
    Ends (fun rounds => call rounds >>= next rounds) b := by
  obtain ⟨n, hn⟩ := hcall
  obtain ⟨m, hm⟩ := hnext
  refine ⟨max n m, fun rounds hrounds => ?_⟩
  have hfirst : call rounds = returns a := hn rounds (Nat.le_trans (Nat.le_max_left n m) hrounds)
  simp only [hfirst, returns_bind]
  exact hm rounds (Nat.le_trans (Nat.le_max_right n m) hrounds)

/-- A loop over a list ends when its body does, whatever it starts from. -/
theorem exists_ends_foldlM {f : ℕ → β → α → Outcome β} (l : List α)
    (h : ∀ a ∈ l, ∀ b, ∃ b', Ends (fun rounds => f rounds b a) b') (b : β) :
    ∃ b', Ends (fun rounds => l.foldlM (f rounds) b) b' := by
  induction l generalizing b with
  | nil => exact ⟨b, ends_const b⟩
  | cons a l ih =>
    obtain ⟨b₁, hfirst⟩ := h a List.mem_cons_self b
    obtain ⟨b', hrest⟩ := ih (fun x hx => h x (List.mem_cons_of_mem a hx)) b₁
    refine ⟨b', ?_⟩
    simp only [List.foldlM_cons]
    exact hfirst.bind hrest

end Outcome
