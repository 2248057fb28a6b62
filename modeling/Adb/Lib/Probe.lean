import Mathlib.Data.Nat.Notation

/-!
# Computations that read a memory

A computation reads one cell after the other; which one comes next may depend on what it has read.
What it comes to depends on these cells alone.
-/

namespace Adb.Lib

/-- A computation that reads cells of the type `β`. -/
inductive Probe (β α : Type) : Type
  | result (a : α)
  | read (i : ℕ) (next : β → Probe β α)

namespace Probe

variable {α β γ : Type}

def bind (x : Probe β α) (f : α → Probe β γ) : Probe β γ :=
  match x with
  | .result a => f a
  | .read i next => .read i fun b => (next b).bind f

instance : Monad (Probe β) where
  pure := .result
  bind := bind

def cell (i : ℕ) : Probe β β := .read i .result

def run (mem : ℕ → β) : Probe β α → α
  | .result a => a
  | .read i next => (next (mem i)).run mem

def reads (mem : ℕ → β) : Probe β α → List ℕ
  | .result _ => []
  | .read i next => i :: (next (mem i)).reads mem

variable {mem mem' : ℕ → β} {x : Probe β α} {f : α → Probe β γ}

@[simp] lemma run_pure (a : α) : (pure a : Probe β α).run mem = a := rfl

@[simp] lemma reads_pure (a : α) : (pure a : Probe β α).reads mem = [] := rfl

@[simp] lemma run_cell (i : ℕ) : (cell i).run mem = mem i := rfl

@[simp] lemma reads_cell (i : ℕ) : (cell i : Probe β β).reads mem = [i] := rfl

@[simp] lemma run_bind (x : Probe β α) (f : α → Probe β γ) :
    (x >>= f).run mem = (f (x.run mem)).run mem := by
  induction x with
  | result a => rfl
  | read i next ih => exact ih (mem i)

@[simp] lemma reads_bind (x : Probe β α) (f : α → Probe β γ) :
    (x >>= f).reads mem = x.reads mem ++ (f (x.run mem)).reads mem := by
  induction x with
  | result a => rfl
  | read i next ih => exact congrArg (i :: ·) (ih (mem i))

/-! ## Specifications -/

/-- Only the first `n` cells are read, and the result satisfies `Q`. -/
def Spec (mem : ℕ → β) (n : ℕ) (x : Probe β α) (Q : α → Prop) : Prop :=
  (∀ i ∈ x.reads mem, i < n) ∧ Q (x.run mem)

namespace Spec

variable {n : ℕ} {Q : α → Prop} {S : γ → Prop}

lemma pure {a : α} (h : Q a) : Spec mem n (Pure.pure a) Q := ⟨by simp, h⟩

lemma bind (h : Spec mem n x Q) (hf : ∀ a, Q a → Spec mem n (f a) S) : Spec mem n (x >>= f) S := by
  obtain ⟨hreads, hrun⟩ := hf _ h.2
  refine ⟨?_, by rwa [run_bind]⟩
  intro i hi
  rw [reads_bind] at hi
  exact (List.mem_append.mp hi).elim (h.1 i) (hreads i)

/-- A cell is read, and the computation goes on with what it holds. -/
lemma read {i : ℕ} {g : β → Probe β γ} (hi : i < n) (h : Spec mem n (g (mem i)) S) :
    Spec mem n (cell i >>= g) S := by
  apply bind (Q := fun b => b = mem i) ⟨by simpa using hi, rfl⟩
  intro b hb
  rwa [hb]

lemma ite {c : Prop} [Decidable c] {y : Probe β α} (ht : c → Spec mem n x Q)
    (hf : ¬ c → Spec mem n y Q) : Spec mem n (if c then x else y) Q := by
  by_cases hc : c
  · rw [if_pos hc]
    exact ht hc
  · rw [if_neg hc]
    exact hf hc

end Spec

end Probe

end Adb.Lib
