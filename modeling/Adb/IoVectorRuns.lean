import Adb.Lib.Run
import Adb.IoVectorTheorems

/-!
# A program that uses vectors

A program has some vectors, to which it appends, which it splits, trims, clears and moves. Each of
them stands for a byte string, and each operation does to the byte strings what it says
(`Op.apply`); a vector that `take_front` has returned is a vector like any other.
-/

namespace Adb

open Lib List

namespace IOVector

inductive Op
  | create
  | append (i : ℕ) (block : Bytes)
  /-- the vector that is returned becomes the last of the list -/
  | takeFront (i len : ℕ)
  | trimFront (i : ℕ)
  | clear (i : ℕ)
  /-- the vector `j` takes over the blocks of the vector `i` -/
  | move (i j : ℕ)
deriving DecidableEq, Repr

namespace Op

def exec : Op → List IOVector → Res (List IOVector)
  | .create, vs => pure (vs ++ [{}])
  | .append i block, vs => do
    let v ← (vs.getD i {}).append block
    pure (vs.set i v)
  | .takeFront i len, vs => do
    let (head, v) ← (vs.getD i {}).takeFront len
    pure (vs.set i v ++ [head])
  | .trimFront i, vs => do
    let v ← (vs.getD i {}).trimFront
    pure (vs.set i v)
  | .clear i, vs => pure (vs.set i (vs.getD i {}).clear)
  | .move i j, vs => pure ((vs.set i (vs.getD i {}).move.2).set j (vs.getD i {}).move.1)

def apply : Op → List Bytes → List Bytes
  | .create, bs => bs ++ [[]]
  | .append i block, bs => bs.set i (bs.getD i [] ++ block)
  | .takeFront i len, bs => bs.set i ((bs.getD i []).drop len) ++ [(bs.getD i []).take len]
  | .trimFront _, bs => bs
  | .clear i, bs => bs.set i []
  | .move i j, bs => (bs.set i []).set j (bs.getD i [])

/-- The operation may be used: only what is there is taken, and nothing is appended to a vector
that has something cut off at its back. -/
def legal (vs : List IOVector) : Op → Bool
  | .create => true
  | .append i block => i < vs.length && block ≠ [] && (vs.getD i {}).endOffset = 0
  | .takeFront i len => i < vs.length && len ≤ (vs.getD i {}).size
  | .trimFront i | .clear i => i < vs.length
  | .move i j => i < vs.length && j < vs.length && i ≠ j

end Op

structure Models (vs : List IOVector) (bs : List Bytes) : Prop where
  shape : ∀ v ∈ vs, v.Shape
  value : vs.map value = bs

namespace Models

variable {vs : List IOVector} {bs : List Bytes} {v : IOVector}

lemma shape_getD (h : Models vs bs) (i : ℕ) : (vs.getD i {}).Shape := by
  rw [getD_eq_getElem?_getD]
  cases hi : vs[i]? with
  | none => exact wf_empty.shape
  | some v => exact h.shape v (mem_of_getElem? hi)

lemma value_getD (h : Models vs bs) (i : ℕ) : (vs.getD i {}).value = bs.getD i [] := by
  rw [← h.value, getD_eq_getElem?_getD, getD_eq_getElem?_getD, List.getElem?_map]
  cases vs[i]? with
  | none => rfl
  | some v => rfl

lemma set (h : Models vs bs) (hv : v.Shape) (i : ℕ) : Models (vs.set i v) (bs.set i v.value) := by
  refine ⟨fun w hw => ?_, ?_⟩
  · rcases mem_or_eq_of_mem_set hw with hw | rfl
    · exact h.shape w hw
    · exact hv
  · rw [List.map_set, h.value]

lemma snoc (h : Models vs bs) (hv : v.Shape) : Models (vs ++ [v]) (bs ++ [v.value]) := by
  refine ⟨fun w hw => ?_, ?_⟩
  · rcases mem_append.mp hw with hw | hw
    · exact h.shape w hw
    · rwa [mem_singleton.mp hw]
  · rw [map_append, h.value]
    rfl

lemma exec (h : Models vs bs) (op : Op) (hlegal : op.legal vs = true) :
    ∃ ws, op.exec vs = .ok ws ∧ Models ws (op.apply bs) := by
  cases op with
  | create => exact ⟨_, rfl, h.snoc wf_empty.shape⟩
  | append i block =>
    simp only [Op.legal, Bool.and_eq_true, decide_eq_true_eq] at hlegal
    obtain ⟨⟨-, hblock⟩, hend⟩ := hlegal
    obtain ⟨w, hw, hwf, hbytes⟩ := append_spec ((h.shape_getD i).wf hend) hblock
    refine ⟨vs.set i w, ?_, ?_⟩
    · rw [Op.exec, hw]
      rfl
    have hset := h.set hwf.shape i
    rwa [hwf.shape.value_eq_bytes, hbytes, ← (h.shape_getD i).value_eq_bytes, h.value_getD] at hset
  | takeFront i len =>
    simp only [Op.legal, Bool.and_eq_true, decide_eq_true_eq] at hlegal
    rcases Nat.eq_zero_or_pos len with rfl | hpos
    · -- nothing is taken, and the vector that is returned is a new one
      refine ⟨vs.set i (vs.getD i {}) ++ [({} : IOVector)], rfl, ?_⟩
      have hset := (h.set (h.shape_getD i) i).snoc wf_empty.shape
      rwa [h.value_getD] at hset
    · obtain ⟨head, w, hw, hsplit⟩ := takeFront_split (h.shape_getD i) hpos hlegal.2
      refine ⟨vs.set i w ++ [head], ?_, ?_⟩
      · rw [Op.exec, hw]
        rfl
      · have hset := (h.set hsplit.restShape i).snoc hsplit.headShape
        rwa [hsplit.restValue, hsplit.headValue, h.value_getD] at hset
  | trimFront i =>
    obtain ⟨w, hw, hshape, hvalue⟩ := trimFront_spec (h.shape_getD i)
    refine ⟨vs.set i w, ?_, ?_⟩
    · rw [Op.exec, hw]
      rfl
    have hset := h.set hshape i
    rw [hvalue, h.value_getD] at hset
    have hsame : bs.set i (bs.getD i []) = bs := by
      apply ext_getElem?
      intro j
      rw [List.getElem?_set, getD_eq_getElem?_getD]
      split
      · next hij =>
        subst hij
        cases hi : bs[i]? with
        | none => simp [List.getElem?_eq_none_iff.mp hi]
        | some b => simp [(List.getElem?_eq_some_iff.mp hi).1]
      · rfl
    rwa [hsame] at hset
  | clear i => exact ⟨_, rfl, h.set wf_empty.shape i⟩
  | move i j =>
    refine ⟨_, rfl, ?_⟩
    have hset := (h.set wf_empty.shape i).set (h.shape_getD i) j
    rwa [h.value_getD] at hset

end Models

/-- All that can be asked of a vector is answered from the byte string it stands for, and no
subtraction of `size()` underflows. -/
structure Answers (v : IOVector) : Prop where
  room : v.beginOffset + v.endOffset ≤ v.chainLength
  size : v.size = v.value.length
  coalesce : v.coalesce = .ok v.value
  coalesced : ∀ (α : Type) (f : Bytes → α), v.coalesced f = .ok (f v.value)
  iovecs : ∃ pieces, v.iovecs = .ok pieces ∧ pieces.flatten = v.value

lemma Shape.answers {v : IOVector} (h : v.Shape) : v.Answers where
  room := h.room
  size := h.size_eq_length
  coalesce := h.coalesce_eq
  coalesced _ := h.coalesced_eq
  iovecs := h.iovecs_eq

/-- A program that only does what it may do never fails a `CHECK`. Its vectors stand for the byte
strings that the operations make, and answer for them. -/
theorem vectors_refine (ops : List Op)
    (hlegal : Meets Op.exec (fun vs op => op.legal vs = true) ops []) :
    ∃ vs, runs Op.exec ops [] = .ok vs ∧
      vs.map value = ops.foldl (fun bs op => op.apply bs) [] ∧ ∀ v ∈ vs, v.Answers := by
  obtain ⟨vs, hrun, hvs⟩ := runs_refines (R := Models) Op.apply (fun vs op bs h => h.exec op)
    ⟨by simp, rfl⟩ hlegal
  exact ⟨vs, hrun, hvs.value, fun v hv => (hvs.shape v hv).answers⟩

def splits : List Op :=
  [.create, .append 0 [1, 2, 3], .append 0 [4, 5], .takeFront 0 4, .takeFront 1 1, .trimFront 1,
    .create, .move 1 3, .append 0 [6], .takeFront 3 3, .clear 0]

theorem vectors_refine_splits :
    ∃ vs, runs Op.exec splits [] = .ok vs ∧
      vs.map value = [[], [], [1], [], [2, 3, 4]] ∧ ∀ v ∈ vs, v.Answers :=
  vectors_refine splits (by decide)

end IOVector

end Adb
