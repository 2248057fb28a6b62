import Mathlib.Tactic.Common

/-!
# Outcomes of fallible computations

`Sat x Q E` says that `x` either returns a value satisfying `Q` or stops with a reason satisfying
`E`. The rules follow the shape of the `do` blocks, so a proof about a block is a chain of
`Sat.bind`s, one for each line.
-/

namespace Adb.Lib

variable {ε α β : Type}

/-- `x` returns a value satisfying `Q`, or stops with a reason satisfying `E`. -/
def Sat (x : Except ε α) (Q : α → Prop) (E : ε → Prop) : Prop :=
  match x with
  | .ok a => Q a
  | .error e => E e

@[simp] lemma sat_ok (a : α) (Q : α → Prop) (E : ε → Prop) : Sat (.ok a) Q E ↔ Q a := Iff.rfl

@[simp] lemma sat_error (e : ε) (Q : α → Prop) (E : ε → Prop) :
    Sat (.error e : Except ε α) Q E ↔ E e := Iff.rfl

@[simp] lemma sat_pure (a : α) (Q : α → Prop) (E : ε → Prop) : Sat (pure a) Q E ↔ Q a := Iff.rfl

@[simp] lemma sat_throw (e : ε) (Q : α → Prop) (E : ε → Prop) :
    Sat (throw e : Except ε α) Q E ↔ E e := Iff.rfl

@[simp] lemma pure_eq_ok (a : α) : (pure a : Except ε α) = .ok a := rfl

@[simp] lemma throw_eq_error (e : ε) : (throw e : Except ε α) = .error e := rfl

@[simp] lemma ok_bind (a : α) (f : α → Except ε β) : (Except.ok a >>= f) = f a := rfl

@[simp] lemma error_bind (e : ε) (f : α → Except ε β) :
    ((Except.error e : Except ε α) >>= f) = .error e := rfl

/-- A block returns exactly when its first line does and the rest returns from there. -/
lemma bind_eq_ok {x : Except ε α} {f : α → Except ε β} {b : β} :
    (x >>= f) = .ok b ↔ ∃ a, x = .ok a ∧ f a = .ok b := by
  cases x with
  | ok a => simp
  | error e => simp

namespace Sat

variable {x : Except ε α} {f : α → Except ε β} {Q Q' : α → Prop} {R : β → Prop}
  {E E' : ε → Prop}

/-- Weakening of both the postcondition and the stopping reasons. -/
lemma mono (h : Sat x Q E) (hQ : ∀ a, Q a → Q' a) (hE : ∀ e, E e → E' e) : Sat x Q' E' := by
  cases x with
  | ok a => exact hQ a h
  | error e => exact hE e h

/-- Weakening of the postcondition alone. -/
lemma imp (h : Sat x Q E) (hQ : ∀ a, Q a → Q' a) : Sat x Q' E :=
  h.mono hQ fun _ he => he

lemma and (h : Sat x Q E) (h' : Sat x Q' E) : Sat x (fun a => Q a ∧ Q' a) E := by
  cases x with
  | ok a => exact ⟨h, h'⟩
  | error e => exact h

lemma self (h : Sat x Q E) : Sat x (fun a => x = .ok a ∧ Q a) E := by
  cases x with
  | ok a => exact ⟨rfl, h⟩
  | error e => exact h

/-- The sequencing rule. -/
lemma bind (h : Sat x Q E) (hf : ∀ a, Q a → Sat (f a) R E) : Sat (x >>= f) R E := by
  cases x with
  | ok a => exact hf a h
  | error e => exact h

/-- The rule for branching. -/
lemma ite {c : Prop} [Decidable c] {y : Except ε α} (ht : c → Sat x Q E) (hf : ¬ c → Sat y Q E) :
    Sat (if c then x else y) Q E := by
  by_cases hc : c
  · rw [if_pos hc]
    exact ht hc
  · rw [if_neg hc]
    exact hf hc

/-- A traversal that only reads stops for the reasons of its parts. -/
lemma mapM {l : List α} (h : ∀ a ∈ l, Sat (f a) (fun _ => True) E) :
    Sat (l.mapM f) (fun _ => True) E := by
  induction l with
  | nil => exact True.intro
  | cons a rest ih =>
    rw [List.mapM_cons]
    refine (h a (by simp)).bind fun _ _ => ?_
    exact (ih fun b hb => h b (by simp [hb])).bind fun _ _ => True.intro

lemma any (x : Except ε α) : Sat x (fun _ => True) fun _ => True := by
  cases x with
  | ok a => exact True.intro
  | error e => exact True.intro

lemma of_ok {a : α} (h : Sat x Q E) (hx : x = .ok a) : Q a := by
  rw [hx] at h
  exact h

lemma of_error {e : ε} (h : Sat x Q E) (hx : x = .error e) : E e := by
  rw [hx] at h
  exact h

end Sat

end Adb.Lib
