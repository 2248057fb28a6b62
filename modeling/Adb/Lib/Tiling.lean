import Mathlib.Data.List.Basic
import Mathlib.Data.Nat.Notation

/-!
# Ranges that tile an interval

A list of ranges tiles `[lo, hi)` if each begins where the one before it ends, the first at `lo` and
the last up to `hi`. The ranges are then disjoint, and together they are the interval.
-/

namespace Adb.Lib

structure Range where
  start : ℕ
  len : ℕ
deriving DecidableEq, Repr

namespace Range

def stop (r : Range) : ℕ := r.start + r.len

def Has (r : Range) (i : ℕ) : Prop := r.start ≤ i ∧ i < r.stop

def Disjoint (r s : Range) : Prop := ∀ i, r.Has i → ¬ s.Has i

end Range

def Tiles (lo : ℕ) : List Range → ℕ → Prop
  | [], hi => lo = hi
  | r :: rs, hi => r.start = lo ∧ Tiles r.stop rs hi

namespace Tiles

variable {lo hi i : ℕ} {r : Range} {rs : List Range}

lemma le (h : Tiles lo rs hi) : lo ≤ hi := by
  induction rs generalizing lo with
  | nil => exact Nat.le_of_eq h
  | cons r rs ih =>
    have hle := ih h.2
    have hstart := h.1
    unfold Range.stop at hle
    omega

/-- The places of the ranges are those of the interval. -/
lemma has_iff (h : Tiles lo rs hi) : (∃ r ∈ rs, r.Has i) ↔ lo ≤ i ∧ i < hi := by
  induction rs generalizing lo with
  | nil =>
    have heq : lo = hi := h
    simp
    omega
  | cons r rs ih =>
    have hstart := h.1
    have hle := h.2.le
    rw [List.exists_mem_cons_iff, ih h.2]
    unfold Range.Has
    unfold Range.stop at hle ⊢
    omega

lemma bounds (h : Tiles lo rs hi) (hr : r ∈ rs) : lo ≤ r.start ∧ r.stop ≤ hi := by
  induction rs generalizing lo with
  | nil => cases hr
  | cons s rs ih =>
    have hstart := h.1
    have hle := h.2.le
    have hstop : s.start ≤ s.stop := Nat.le_add_right _ _
    rcases List.mem_cons.mp hr with heq | hmem
    · subst heq
      omega
    · have hbounds := ih h.2 hmem
      omega

lemma disjoint (h : Tiles lo rs hi) : rs.Pairwise Range.Disjoint := by
  induction rs generalizing lo with
  | nil => exact .nil
  | cons r rs ih =>
    refine .cons ?_ (ih h.2)
    intro s hs i hi hi'
    -- a later range begins where `r` ends, or after that
    have hbounds := (h.2.bounds hs).1
    have hstart := hi'.1
    have hstop := hi.2
    omega

end Tiles

end Adb.Lib
