import Mathlib.Data.List.DropRight
import Mathlib.Data.List.Flatten
import Adb.IoVector

/-!
# A packet queue is a byte string

`packet_queue` is only ever appended to, cleared and cut at the front. Such a vector keeps the shape
`Wf`, and then each operation succeeds and does to `bytes` what its name says: no `CHECK` fails but
the one that refuses an empty block.
-/

namespace Adb

open Lib List

namespace IOVector

/-- The shape of a packet queue: no empty block, nothing cut off at the back, and less than
the first block cut off at the front. -/
structure Wf (v : IOVector) : Prop where
  chainLength : v.chainLength = v.chain.flatten.length
  blocks : ∀ b ∈ v.chain, b ≠ []
  endOffset : v.endOffset = 0
  beginOffset : v.beginOffset = 0 ∨ v.beginOffset < (v.chain.headD []).length

/-- The shape of any vector: it may also have bytes cut off at the back, of its last block. -/
structure Shape (v : IOVector) : Prop where
  chainLength : v.chainLength = v.chain.flatten.length
  blocks : ∀ b ∈ v.chain, b ≠ []
  beginOffset : v.beginOffset = 0 ∨ v.beginOffset < (v.chain.headD []).length
  endOffset : v.endOffset ≤ (v.chain.getLastD []).length
  room : v.beginOffset + v.endOffset ≤ v.chainLength

/-- The blocks of the vector without the bytes that are cut off at both ends. -/
def value (v : IOVector) : Bytes := (v.chain.flatten.drop v.beginOffset).rdrop v.endOffset

variable {v : IOVector}

lemma value_eq : v.value = (v.chain.flatten.drop v.beginOffset).take
    (v.chain.flatten.length - v.beginOffset - v.endOffset) := by
  rw [value, List.rdrop, length_drop]

lemma wf_empty : ({} : IOVector).Wf :=
  ⟨rfl, by simp, rfl, .inl rfl⟩

lemma head_length_le (chain : List Bytes) : (chain.headD []).length ≤ chain.flatten.length := by
  cases chain with
  | nil => simp
  | cons b rest => simp

namespace Shape

lemma beginOffset_le (h : v.Shape) : v.beginOffset ≤ (v.chain.headD []).length := by
  rcases h.beginOffset with h0 | hlt
  · omega
  · omega

lemma size_eq (h : v.Shape) : v.size = v.chain.flatten.length - v.beginOffset - v.endOffset := by
  rw [size, h.chainLength]

lemma value_eq_take (h : v.Shape) : v.value = (v.chain.flatten.drop v.beginOffset).take v.size := by
  rw [value_eq, h.size_eq]

lemma value_eq_bytes (h : v.Shape) : v.value = v.bytes := h.value_eq_take

lemma size_eq_length (h : v.Shape) : v.size = v.value.length := by
  rw [value_eq, h.size_eq, length_take, length_drop]
  omega

lemma wf (h : v.Shape) (hend : v.endOffset = 0) : v.Wf :=
  ⟨h.chainLength, h.blocks, hend, h.beginOffset⟩

end Shape

namespace Wf

lemma shape (h : v.Wf) : v.Shape := by
  refine ⟨h.chainLength, h.blocks, h.beginOffset, by simp [h.endOffset], ?_⟩
  have hle := head_length_le v.chain
  have hbegin := h.beginOffset
  rw [h.chainLength, h.endOffset]
  omega

lemma beginOffset_le (h : v.Wf) : v.beginOffset ≤ (v.chain.headD []).length :=
  h.shape.beginOffset_le

lemma size_eq (h : v.Wf) : v.size = v.chain.flatten.length - v.beginOffset := by
  rw [size, h.chainLength, h.endOffset, Nat.sub_zero]

lemma bytes_eq (h : v.Wf) : v.bytes = v.chain.flatten.drop v.beginOffset := by
  rw [bytes, h.size_eq, take_of_length_le (by simp)]

lemma size_eq_length (h : v.Wf) : v.size = v.bytes.length := by
  rw [h.size_eq, h.bytes_eq, length_drop]

lemma empty_iff (h : v.Wf) : v.empty = true ↔ v.bytes = [] := by
  rw [empty, beq_iff_eq, h.size_eq_length, length_eq_zero_iff]

lemma empty_eq_false_iff (h : v.Wf) : v.empty = false ↔ v.bytes ≠ [] := by
  rw [← Bool.not_eq_true, Ne, h.empty_iff]

end Wf

/-! ## Appending and clearing -/

lemma append_nil (v : IOVector) : v.append [] = .error (.check .appendEmpty) := rfl

lemma append_eq_ok (h : v.Wf) {block : Bytes} (hb : block ≠ []) :
    v.append block = .ok
      { v with chainLength := v.chainLength + block.length, chain := v.chain ++ [block] } := by
  have hlen : (block.length != 0) = true := by simpa using hb
  rw [append, hlen, h.endOffset]
  rfl

lemma append_spec (h : v.Wf) {block : Bytes} (hb : block ≠ []) :
    ∃ w, v.append block = .ok w ∧ w.Wf ∧ w.bytes = v.bytes ++ block := by
  refine ⟨_, append_eq_ok h hb, ?_, ?_⟩
  · refine ⟨by simp [h.chainLength], ?_, h.endOffset, ?_⟩
    · intro b hm
      rcases mem_append.mp hm with hm | hm
      · exact h.blocks b hm
      · rwa [mem_singleton.mp hm]
    · rcases h.beginOffset with h0 | hlt
      · exact .inl h0
      right
      cases hc : v.chain with
      | nil => simp [hc] at hlt
      | cons c rest => simpa [hc] using hlt
  · have hle : v.beginOffset ≤ v.chain.flatten.length :=
      h.beginOffset_le.trans (head_length_le _)
    have hlen := h.chainLength
    rw [h.bytes_eq, bytes, size]
    simp only [flatten_append, flatten_cons, flatten_nil, List.append_nil]
    rw [drop_append_of_le_length hle, take_of_length_le]
    simp only [length_append, length_drop, h.endOffset]
    omega

/-! ## Cutting off the front -/

/-- Between two rounds of the loop of `take_front`: `head` has taken the blocks `pre` and
shares the first block of what is left. -/
private structure Taking (v0 : IOVector) (len : ℕ) (pre : List Bytes) (last : Bytes)
    (rest : List Bytes) (head v : IOVector) : Prop where
  split : v0.chain = pre ++ last :: rest
  chain : v.chain = last :: rest
  chainLength : v.chainLength = (last :: rest).flatten.length
  endOffset : v.endOffset = v0.endOffset
  headChain : head.chain = pre ++ [last]
  headLength : head.chainLength = (pre ++ [last]).flatten.length
  headBegin : head.beginOffset = v0.beginOffset
  headEnd : head.endOffset = 0
  short : pre.flatten.length < v0.beginOffset + len
  begin_le : v0.beginOffset ≤ (pre ++ [last]).flatten.length

variable {len : ℕ}

private lemma Taking.headSize {v0 : IOVector} {pre : List Bytes} {last : Bytes}
    {rest : List Bytes} {head : IOVector} (ht : Taking v0 len pre last rest head v) :
    head.size = (pre ++ [last]).flatten.length - v0.beginOffset := by
  rw [size, ht.headLength, ht.headBegin, ht.headEnd, Nat.sub_zero]

/-- The loop ends with at least `len` bytes taken. The invariant is `Taking`; every round
moves one block from what is left to `pre`, and there are enough of them. -/
private lemma takeFrontLoop_spec {v0 : IOVector} (h₀ : v0.Shape) (hlen : len ≤ v0.size) :
    ∀ (fuel : List Bytes) (pre : List Bytes) (last : Bytes) (rest : List Bytes)
      (head v : IOVector), Taking v0 len pre last rest head v →
      fuel.length = (last :: rest).length →
      ∃ pre' last' rest' head' v', takeFrontLoop len fuel head v = .ok (head', v') ∧
        Taking v0 len pre' last' rest' head' v' ∧ len ≤ head'.size := by
  intro fuel
  induction fuel with
  | nil =>
    intro pre last rest head v _ hf
    simp at hf
  | cons f fuel ih =>
    intro pre last rest head v ht hf
    by_cases hdone : head.size < len
    · -- not enough yet, so there is a further block
      rcases rest with _ | ⟨next, rest⟩
      · exfalso
        rw [ht.headSize] at hdone
        rw [h₀.size_eq, ht.split] at hlen
        omega
      have hne : next ≠ [] := h₀.blocks next (by rw [ht.split]; simp)
      have hnext : (next.length != 0) = true := by simpa using hne
      rw [takeFrontLoop, if_pos hdone]
      simp only [popFrontBlock, ht.chain, tail_cons, isEmpty_cons, Bool.not_false,
        check_true, ok_bind, headD_cons, append, hnext, ht.headEnd, beq_self_eq_true]
      refine ih (pre ++ [last]) next rest _ _ ?_ (by simpa using hf)
      refine ⟨by rw [ht.split]; simp, rfl, ?_, ht.endOffset, ?_, ?_, ht.headBegin, rfl, ?_, ?_⟩
      · simp [ht.chainLength]
      · simp [ht.headChain]
      · simp only [ht.headLength, flatten_append, length_append, flatten_cons,
          flatten_nil, List.append_nil]
      · have := ht.begin_le
        rw [ht.headSize] at hdone
        omega
      · have := ht.begin_le
        simp only [flatten_append, length_append] at this ⊢
        omega
    · rw [takeFrontLoop, if_neg hdone]
      exact ⟨pre, last, rest, head, v, rfl, ht, by omega⟩

private lemma takeFront_taking (h : v.Shape) (hpos : 0 < len) (hlen : len ≤ v.size) :
    ∃ pre last rest head w, Taking v len pre last rest head w ∧ len ≤ head.size ∧
      v.takeFront len = .ok (if head.size = len then
          ({ head with endOffset := 0 }, { w with beginOffset := 0 }.popFrontBlock)
        else
          ({ head with endOffset := head.size - len },
            { w with beginOffset := last.length - (head.size - len) })) := by
  obtain ⟨first, rest, hc⟩ : ∃ first rest, v.chain = first :: rest := by
    cases hc : v.chain with
    | nil =>
      exfalso
      rw [h.size_eq, hc] at hlen
      simp at hlen
      omega
    | cons first rest => exact ⟨first, rest, rfl⟩
  have hfirst : first ≠ [] := h.blocks first (by rw [hc]; simp)
  have hbegin : v.beginOffset ≤ first.length := by simpa [hc] using h.beginOffset_le
  have hstart : Taking v len [] first rest
      { ({ chainLength := 0 + first.length, chain := [] ++ [first] } : IOVector) with
        beginOffset := v.beginOffset } v :=
    ⟨hc, hc, by rw [h.chainLength, hc], rfl, rfl, by simp, rfl, rfl, by simp; omega,
      by simpa using hbegin⟩
  obtain ⟨pre, last, rest', head, w, hloop, ht, htaken⟩ :=
    takeFrontLoop_spec h hlen v.chain [] first rest _ _ hstart (by rw [hc])
  refine ⟨pre, last, rest', head, w, ht, htaken, ?_⟩
  rw [hc] at hloop
  rw [takeFront, if_neg (by omega)]
  simp only [hlen, decide_true, check_true, ok_bind, hc, headD_cons, hbegin,
    append_eq_ok wf_empty hfirst, hloop]
  split
  · rfl
  -- the part of the last block that is not taken is shorter than the block
  have hsize := ht.headSize
  have hshort := ht.short
  simp only [flatten_append, flatten_cons, flatten_nil, List.append_nil, length_append] at hsize
  have hcheck : decide (head.size - len ≤ last.length) = true := decide_eq_true (by omega)
  rw [ht.chain, headD_cons, hcheck]
  rfl

/-- What `take_front` makes of a vector: the first `len` bytes of its contents, and the rest. -/
structure Split (v : IOVector) (len : ℕ) (head w : IOVector) : Prop where
  headShape : head.Shape
  restShape : w.Shape
  headValue : head.value = v.value.take len
  restValue : w.value = v.value.drop len
  endOffset : w.endOffset = v.endOffset

section Taking

variable {v0 head : IOVector} {len : ℕ} {pre rest : List Bytes} {last : Bytes}

private lemma Taking.lengths (ht : Taking v0 len pre last rest head v) :
    head.size = pre.flatten.length + last.length - v0.beginOffset ∧
      v0.beginOffset ≤ pre.flatten.length + last.length ∧
      v0.chain.flatten.length = pre.flatten.length + last.length + rest.flatten.length := by
  have hsize := ht.headSize
  have hle := ht.begin_le
  simp only [flatten_append, flatten_cons, flatten_nil, List.append_nil, length_append] at hsize hle
  refine ⟨hsize, hle, ?_⟩
  rw [ht.split]
  simp only [flatten_append, flatten_cons, length_append]
  omega

private lemma getLastD_append_cons {b : Bytes} :
    (pre ++ b :: rest).getLastD [] = (b :: rest).getLastD [] := by
  simp [getLastD_eq_getLast?, List.getLast?_cons]

private lemma Taking.head_split (ht : Taking v0 len pre last rest head v) (h : v0.Shape)
    (hpos : 0 < len) (hlen : len ≤ v0.size) (htaken : len ≤ head.size) :
    Shape { head with endOffset := head.size - len } ∧
      value { head with endOffset := head.size - len } = v0.value.take len := by
  obtain ⟨hsize, hle, htotal⟩ := ht.lengths
  have hshort := ht.short
  have hflat : (pre ++ [last]).flatten.length = pre.flatten.length + last.length := by simp
  constructor
  · refine ⟨?_, ?_, ?_, ?_, ?_⟩
    · show head.chainLength = head.chain.flatten.length
      rw [ht.headLength, ht.headChain]
    · intro b hb
      refine h.blocks b ?_
      rw [ht.split]
      have hb : b ∈ pre ++ [last] := ht.headChain ▸ hb
      rcases mem_append.mp hb with hb | hb
      · exact mem_append_left _ hb
      · rw [mem_singleton.mp hb]
        simp
    · show head.beginOffset = 0 ∨ head.beginOffset < (head.chain.headD []).length
      have hbegin := h.beginOffset
      rw [ht.split] at hbegin
      rw [ht.headBegin, ht.headChain]
      cases pre with
      | nil => exact hbegin
      | cons b pre => exact hbegin
    · show head.size - len ≤ (head.chain.getLastD []).length
      rw [ht.headChain, getLastD_concat]
      omega
    · show head.beginOffset + (head.size - len) ≤ head.chainLength
      rw [ht.headBegin, ht.headLength, hflat]
      omega
  · have hroom := h.room
    rw [h.chainLength] at hroom
    have hlen' := hlen
    rw [h.size_eq] at hlen'
    rw [value_eq, h.value_eq_take, take_take, Nat.min_eq_left hlen, ht.split]
    show (head.chain.flatten.drop head.beginOffset).take
      (head.chain.flatten.length - head.beginOffset - (head.size - len)) = _
    rw [ht.headChain, ht.headBegin, hflat]
    have hcount : pre.flatten.length + last.length - v0.beginOffset - (head.size - len) = len := by
      omega
    have hsame : (pre ++ last :: rest).flatten = (pre ++ [last]).flatten ++ rest.flatten := by simp
    rw [hcount, hsame, drop_append_of_le_length (by omega),
      take_append_of_le_length (by rw [length_drop]; omega)]

private lemma Taking.rest_used (ht : Taking v0 len pre last rest head v) (h : v0.Shape)
    (hlen : len ≤ v0.size) (hfull : head.size = len) :
    Shape ({ v with beginOffset := 0 }.popFrontBlock) ∧
      value ({ v with beginOffset := 0 }.popFrontBlock) = v0.value.drop len := by
  obtain ⟨hsize, hle, htotal⟩ := ht.lengths
  have hroom := h.room
  rw [h.chainLength] at hroom
  rw [h.size_eq] at hlen
  have hpop : { v with beginOffset := 0 }.popFrontBlock =
      { chainLength := rest.flatten.length, beginOffset := 0, endOffset := v0.endOffset,
        chain := rest } := by
    simp [popFrontBlock, ht.chain, ht.chainLength, ht.endOffset]
  rw [hpop]
  constructor
  · refine ⟨rfl, ?_, .inl rfl, ?_, ?_⟩
    · intro b hb
      exact h.blocks b (by rw [ht.split]; simp [show b ∈ rest from hb])
    · -- if something is cut off at the back, it is cut off from a block that is left
      have hend := h.endOffset
      rw [ht.split] at hend
      cases rest with
      | nil =>
        rw [flatten_nil, length_nil] at htotal
        have hshort := ht.short
        show v0.endOffset ≤ 0
        omega
      | cons b rest =>
        have hsplit : pre ++ last :: b :: rest = (pre ++ [last]) ++ b :: rest := by simp
        rwa [hsplit, getLastD_append_cons] at hend
    · show 0 + v0.endOffset ≤ rest.flatten.length
      omega
  · rw [value_eq, h.value_eq_take, h.size_eq, drop_take, drop_drop, ht.split]
    have hsame : (pre ++ last :: rest).flatten = (pre.flatten ++ last) ++ rest.flatten := by simp
    have hdrop : v0.beginOffset + len = (pre.flatten ++ last).length := by
      rw [length_append]
      omega
    rw [hdrop, hsame, drop_left]
    show (rest.flatten.drop 0).take (rest.flatten.length - 0 - v0.endOffset) = _
    rw [drop_zero]
    congr 1
    rw [length_append, length_append]
    omega

private lemma Taking.rest_shared (ht : Taking v0 len pre last rest head v) (h : v0.Shape)
    (hlen : len ≤ v0.size) (hmore : len < head.size) :
    Shape { v with beginOffset := last.length - (head.size - len) } ∧
      value { v with beginOffset := last.length - (head.size - len) } = v0.value.drop len := by
  obtain ⟨hsize, hle, htotal⟩ := ht.lengths
  have hshort := ht.short
  have hroom := h.room
  rw [h.chainLength] at hroom
  rw [h.size_eq] at hlen
  have hflat : (last :: rest).flatten.length = last.length + rest.flatten.length := by simp
  constructor
  · refine ⟨?_, ?_, .inr ?_, ?_, ?_⟩
    · show v.chainLength = v.chain.flatten.length
      rw [ht.chainLength, ht.chain]
    · intro b hb
      have hb : b ∈ last :: rest := ht.chain ▸ hb
      exact h.blocks b (by rw [ht.split]; exact mem_append_right _ hb)
    · show last.length - (head.size - len) < (v.chain.headD []).length
      rw [ht.chain, headD_cons]
      omega
    · show v.endOffset ≤ (v.chain.getLastD []).length
      rw [ht.endOffset, ht.chain]
      have hend := h.endOffset
      rw [ht.split] at hend
      rwa [getLastD_append_cons] at hend
    · show last.length - (head.size - len) + v.endOffset ≤ v.chainLength
      rw [ht.endOffset, ht.chainLength, hflat]
      omega
  · rw [value_eq, h.value_eq_take, h.size_eq, drop_take, drop_drop, ht.split]
    show (v.chain.flatten.drop (last.length - (head.size - len))).take
      (v.chain.flatten.length - (last.length - (head.size - len)) - v.endOffset) = _
    have hdrop : (pre ++ last :: rest).flatten.drop (v0.beginOffset + len) =
        (last :: rest).flatten.drop (v0.beginOffset + len - pre.flatten.length) := by
      rw [flatten_append, drop_append, drop_eq_nil_of_le (by omega), nil_append]
    rw [ht.chain, ht.endOffset, hflat, hdrop]
    have hoff : last.length - (head.size - len) = v0.beginOffset + len - pre.flatten.length := by
      omega
    rw [hoff]
    congr 1
    rw [flatten_append, length_append, hflat]
    omega

end Taking

lemma takeFront_split (h : v.Shape) (hpos : 0 < len) (hlen : len ≤ v.size) :
    ∃ head w, v.takeFront len = .ok (head, w) ∧ v.Split len head w := by
  obtain ⟨pre, last, rest, head, w, ht, htaken, hrun⟩ := takeFront_taking h hpos hlen
  obtain ⟨hshape, hvalue⟩ := ht.head_split h hpos hlen htaken
  by_cases hfull : head.size = len
  · obtain ⟨hrest, hrestValue⟩ := ht.rest_used h hlen hfull
    rw [hfull, Nat.sub_self] at hshape hvalue
    exact ⟨_, _, hrun.trans (by rw [if_pos hfull]), hshape, hrest, hvalue, hrestValue, ht.endOffset⟩
  · obtain ⟨hrest, hrestValue⟩ := ht.rest_shared h hlen (by omega)
    exact ⟨_, _, hrun.trans (by rw [if_neg hfull]), hshape, hrest, hvalue, hrestValue, ht.endOffset⟩

lemma takeFront_spec (h : v.Wf) (hpos : 0 < len) (hlen : len ≤ v.size) :
    ∃ head w, v.takeFront len = .ok (head, w) ∧ w.Wf ∧ w.bytes = v.bytes.drop len := by
  obtain ⟨head, w, hrun, hsplit⟩ := takeFront_split h.shape hpos hlen
  refine ⟨head, w, hrun, hsplit.restShape.wf (hsplit.endOffset.trans h.endOffset), ?_⟩
  rw [← hsplit.restShape.value_eq_bytes, ← h.shape.value_eq_bytes]
  exact hsplit.restValue

/-! ## Giving back what is cut off -/

lemma trimFront_spec (h : v.Shape) : ∃ w, v.trimFront = .ok w ∧ w.Shape ∧ w.value = v.value := by
  by_cases hbegin : v.beginOffset = 0
  · exact ⟨v, by rw [trimFront, if_pos hbegin]; rfl, h, rfl⟩
  have hlt := h.beginOffset.resolve_left hbegin
  rcases hc : v.chain with _ | ⟨first, rest⟩
  · simp [hc] at hlt
  rw [hc, headD_cons] at hlt
  have hlen := h.chainLength
  have hroom := h.room
  have hend := h.endOffset
  rw [hc] at hlen hend
  simp only [flatten_cons, length_append] at hlen
  have hdrop : (first.drop v.beginOffset).length = first.length - v.beginOffset :=
    length_drop
  refine ⟨_, by rw [trimFront, if_neg hbegin, hc]; rfl, ⟨?_, ?_, .inl rfl, ?_, ?_⟩, ?_⟩
  · simp only [flatten_cons, length_append, hdrop]
    omega
  · intro b hb
    rcases mem_cons.mp hb with rfl | hb
    · intro hnil
      rw [hnil, length_nil] at hdrop
      omega
    · exact h.blocks b (by rw [hc]; exact mem_cons_of_mem _ hb)
  · cases rest with
    | nil =>
      rw [flatten_nil, length_nil] at hlen
      show v.endOffset ≤ (first.drop v.beginOffset).length
      omega
    | cons b rest => exact hend
  · show 0 + v.endOffset ≤ v.chainLength - v.beginOffset
    omega
  · rw [value_eq, value_eq, hc]
    simp only [flatten_cons, length_append, hdrop, drop_zero]
    rw [drop_append_of_le_length (Nat.le_of_lt hlt)]
    congr 1
    omega

/-! ## The pieces -/

private lemma getLastD_length_le {chain : List Bytes} :
    (chain.getLastD []).length ≤ chain.flatten.length := by
  rcases eq_nil_or_concat chain with rfl | ⟨pre, last, rfl⟩
  · simp
  · rw [concat_eq_append, getLastD_concat]
    simp

private lemma iterateBlocks_spec {endOffset : ℕ} :
    ∀ (chain : List Bytes) (begin : ℕ), begin ≤ (chain.headD []).length →
      endOffset ≤ (chain.getLastD []).length → begin + endOffset ≤ chain.flatten.length →
      ∃ pieces, iterateBlocks endOffset begin chain = .ok pieces ∧
        pieces.flatten = (chain.flatten.drop begin).take
          (chain.flatten.length - begin - endOffset) := by
  intro chain
  induction chain with
  | nil =>
    intro begin _ _ _
    exact ⟨[], rfl, by simp⟩
  | cons block rest ih =>
    intro begin hb he hroom
    simp only [headD_cons] at hb
    rcases rest with _ | ⟨next, rest⟩
    · refine ⟨[(block.drop begin).take ((block.drop begin).length - endOffset)], ?_, by simp⟩
      have hlast : endOffset ≤ (block.drop begin).length := by
        simp only [flatten_cons, flatten_nil, List.append_nil] at hroom
        rw [length_drop]
        omega
      simp only [iterateBlocks, hb, hlast, decide_true, check_true, ok_bind]
      rfl
    · have he : endOffset ≤ ((next :: rest).getLastD []).length := he
      have hle := he.trans getLastD_length_le
      obtain ⟨pieces, hp, hflat⟩ := ih 0 (Nat.zero_le _) he (by omega)
      refine ⟨block.drop begin :: pieces, ?_, ?_⟩
      · simp [iterateBlocks, hb, hp]
      -- the first block is taken whole
      have hcount : block.length + (next :: rest).flatten.length - begin - endOffset =
          (block.drop begin).length + ((next :: rest).flatten.length - 0 - endOffset) := by
        rw [length_drop]
        omega
      rw [flatten_cons, hflat, drop_zero, flatten_cons (l := block),
        drop_append_of_le_length hb, length_append, hcount, take_length_add_append]

lemma Shape.iovecs_eq (h : v.Shape) :
    ∃ pieces, v.iovecs = .ok pieces ∧ pieces.flatten = v.value := by
  rw [value_eq]
  exact iterateBlocks_spec v.chain v.beginOffset h.beginOffset_le h.endOffset
    (h.chainLength ▸ h.room)

lemma iovecs_spec (h : v.Wf) : ∃ pieces, v.iovecs = .ok pieces ∧ pieces.flatten = v.bytes := by
  rw [← h.shape.value_eq_bytes]
  exact h.shape.iovecs_eq

private lemma copyPieces_eq (pieces : List Bytes) :
    ∀ (result : Bytes) (offset : ℕ), offset + pieces.flatten.length = result.length →
      copyPieces result offset pieces = .ok (result.take offset ++ pieces.flatten) := by
  induction pieces with
  | nil =>
    intro result offset hlen
    rw [flatten_nil, length_nil, Nat.add_zero] at hlen
    rw [copyPieces, hlen, take_length, flatten_nil, List.append_nil]
    rfl
  | cons piece rest ih =>
    intro result offset hlen
    rw [flatten_cons, length_append] at hlen
    have hfront : (result.take offset ++ piece).length = offset + piece.length := by
      rw [length_append, length_take]
      omega
    rw [copyPieces, if_pos (by omega), ih]
    · rw [← hfront, take_left, flatten_cons, append_assoc]
    · rw [length_append, hfront, length_drop]
      omega

lemma Shape.coalesce_eq (h : v.Shape) : v.coalesce = .ok v.value := by
  by_cases hsize : v.size = 0
  · have hnil : v.value = [] := eq_nil_of_length_eq_zero (h.size_eq_length ▸ hsize)
    rw [coalesce, if_pos hsize, hnil]
    rfl
  obtain ⟨pieces, hp, hflat⟩ := h.iovecs_eq
  rw [iovecs] at hp
  rw [coalesce, if_neg hsize, hp, ok_bind, copyPieces_eq, hflat, take_zero, nil_append]
  rw [hflat, length_replicate, h.size_eq_length, Nat.zero_add]

lemma Shape.coalesced_eq {α : Type} (h : v.Shape) (f : Bytes → α) :
    v.coalesced f = .ok (f v.value) := by
  rw [coalesced]
  split
  · next block hc =>
    have hvalue := h.value_eq_take
    have hlen := h.chainLength
    have hroom := h.room
    rw [hc, flatten_cons, flatten_nil, List.append_nil] at hvalue hlen
    have hbound : v.beginOffset + v.size ≤ block.length := by
      rw [size]
      omega
    rw [if_pos hbound, hvalue]
    rfl
  · rw [h.coalesce_eq, ok_bind]
    rfl

end IOVector

end Adb
