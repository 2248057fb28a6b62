import Mathlib.Tactic.Common

/-!
# Stores: memory with allocation and release

A `Store α` is a heap of records of type `α`. Addresses are handed out in order and never reused, so
a released object can be told from one that was never allocated. That addresses from `next` on are
free is a field of the structure.
-/

namespace Adb.Lib

variable {α : Type}

structure Store (α : Type) where
  get : ℕ → Option α
  next : ℕ
  fresh : ∀ p, next ≤ p → get p = none

namespace Store

def empty : Store α := ⟨fun _ => none, 0, fun _ _ => rfl⟩

@[simp] lemma get_empty (p : ℕ) : (empty : Store α).get p = none := rfl

variable {S : Store α} {p : ℕ} {a : α}

lemma lt_next (h : S.get p = some a) : p < S.next := by
  by_contra hp
  rw [S.fresh p (Nat.le_of_not_lt hp)] at h
  cases h

lemma ne_next (h : S.get p = some a) : p ≠ S.next :=
  Nat.ne_of_lt (lt_next h)

variable {q : ℕ}

lemma ne_of_next_le (h : S.get p = some a) (hq : S.next ≤ q) : q ≠ p :=
  Nat.ne_of_gt (Nat.lt_of_lt_of_le (lt_next h) hq)

@[simp] lemma get_next : S.get S.next = none := S.fresh _ (Nat.le_refl _)

def set (S : Store α) (p : ℕ) (a : α) : Store α where
  get q := if q = p then (S.get p).map fun _ => a else S.get q
  next := S.next
  fresh q hq := by
    split
    · next h => subst h; rw [S.fresh q hq]; rfl
    · exact S.fresh q hq

def free (S : Store α) (p : ℕ) : Store α where
  get q := if q = p then none else S.get q
  next := S.next
  fresh q hq := by
    split
    · rfl
    · exact S.fresh q hq

def alloc (S : Store α) (a : α) : Store α where
  get q := if q = S.next then some a else S.get q
  next := S.next + 1
  fresh q hq := by
    rw [if_neg (by omega)]
    exact S.fresh q (by omega)

lemma get_set (S : Store α) (p q : ℕ) (a : α) :
    (S.set p a).get q = if q = p then (S.get p).map fun _ => a else S.get q := rfl

@[simp] lemma get_set_self {b : α} (h : S.get p = some b) (a : α) : (S.set p a).get p = some a := by
  rw [get_set, if_pos rfl, h]
  rfl

@[simp] lemma get_set_of_ne (S : Store α) (h : q ≠ p) (a : α) : (S.set p a).get q = S.get q := by
  rw [get_set, if_neg h]

lemma get_free (S : Store α) (p q : ℕ) : (S.free p).get q = if q = p then none else S.get q := rfl

@[simp] lemma get_free_self : (S.free p).get p = none := by
  rw [get_free, if_pos rfl]

@[simp] lemma get_free_of_ne (h : q ≠ p) : (S.free p).get q = S.get q := by
  rw [get_free, if_neg h]

lemma get_alloc (S : Store α) (a : α) (q : ℕ) :
    (S.alloc a).get q = if q = S.next then some a else S.get q := rfl

@[simp] lemma get_alloc_self : (S.alloc a).get S.next = some a := by
  rw [get_alloc, if_pos rfl]

@[simp] lemma get_alloc_of_ne (h : q ≠ S.next) : (S.alloc a).get q = S.get q := by
  rw [get_alloc, if_neg h]

@[simp] lemma next_set (S : Store α) (p : ℕ) (a : α) : (S.set p a).next = S.next := rfl

@[simp] lemma next_free (S : Store α) (p : ℕ) : (S.free p).next = S.next := rfl

@[simp] lemma next_alloc (S : Store α) (a : α) : (S.alloc a).next = S.next + 1 := rfl

lemma ext_get {T : Store α} (hg : S.get = T.get) (hn : S.next = T.next) : S = T := by
  cases S
  cases T
  cases hg
  cases hn
  rfl

@[simp] lemma set_set (S : Store α) (p : ℕ) (a b : α) : (S.set p a).set p b = S.set p b := by
  refine ext_get (funext fun q => ?_) rfl
  by_cases h : q = p
  · subst h
    simp [get_set, Option.map_map, Function.comp_def]
  · simp [h]

lemma set_get (h : S.get p = some a) : S.set p a = S := by
  refine ext_get (funext fun q => ?_) rfl
  by_cases hq : q = p
  · rw [hq, get_set_self h, h]
  · rw [get_set_of_ne S hq]

lemma set_comm (S : Store α) (hpq : p ≠ q) (a b : α) :
    (S.set p a).set q b = (S.set q b).set p a := by
  refine ext_get (funext fun r => ?_) rfl
  simp only [get_set]
  by_cases hp : r = p
  · simp [hp, hpq]
  by_cases hq : r = q
  · simp [hq, hpq.symm]
  · simp [hp, hq]

@[simp] lemma set_alloc (S : Store α) (a b : α) : (S.alloc a).set S.next b = S.alloc b := by
  refine ext_get (funext fun q => ?_) rfl
  by_cases hq : q = S.next
  · subst hq
    simp
  · simp [hq]

@[simp] lemma free_set (S : Store α) (p : ℕ) (a : α) : (S.set p a).free p = S.free p := by
  refine ext_get (funext fun q => ?_) rfl
  by_cases h : q = p
  · simp [h]
  · simp [h]

/-! ## A part of every record -/

variable {β : Type} {f : α → β}

def map (f : α → β) (S : Store α) : Store β where
  get p := (S.get p).map f
  next := S.next
  fresh p hp := by rw [S.fresh p hp]; rfl

@[simp] lemma get_map (S : Store α) (p : ℕ) : (S.map f).get p = (S.get p).map f := rfl

@[simp] lemma next_map (S : Store α) : (S.map f).next = S.next := rfl

lemma map_set (S : Store α) (p : ℕ) (a : α) : (S.set p a).map f = (S.map f).set p (f a) := by
  refine ext_get (funext fun q => ?_) rfl
  by_cases hq : q = p
  · simp [get_set, hq, Option.map_map, Function.comp_def]
  · simp [hq]

lemma map_alloc (S : Store α) (a : α) : (S.alloc a).map f = (S.map f).alloc (f a) := by
  refine ext_get (funext fun q => ?_) rfl
  by_cases hq : q = S.next
  · simp [get_alloc, hq]
  · simp [get_alloc, hq]

lemma map_free (S : Store α) (p : ℕ) : (S.free p).map f = (S.map f).free p := by
  refine ext_get (funext fun q => ?_) rfl
  by_cases hq : q = p
  · simp [hq]
  · simp [hq]

lemma map_set_same {b : α} (h : S.get p = some b) (hf : f a = f b) :
    (S.set p a).map f = S.map f := by
  rw [map_set, hf]
  exact set_get (by simp [h])

end Store

end Adb.Lib
