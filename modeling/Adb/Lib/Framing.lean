import Mathlib.Data.List.Basic
import Mathlib.Data.Nat.Notation

/-!
# Streams of frames

A framer takes the first item off a stream, or finds that the stream is in error, or needs more of
it. It never takes back what it has found, so that a stream can be decoded in parts.
-/

namespace Adb.Lib

inductive Parse (β α : Type)
  | more
  | reject
  | item (a : α) (rest : List β)

structure Framer (β α : Type) where
  next : List β → Parse β α
  item_append : ∀ {b a r}, next b = .item a r → ∀ c, next (b ++ c) = .item a (r ++ c)
  reject_append : ∀ {b}, next b = .reject → ∀ c, next (b ++ c) = .reject
  shrinks : ∀ {b a r}, next b = .item a r → r.length < b.length

structure Decoded (β α : Type) where
  items : List α
  rejected : Bool
  rest : List β
deriving DecidableEq, Repr

namespace Framer

variable {α β : Type} (f : Framer β α) {a : α} {b c r : List β}

def decodeLoop : ℕ → List β → Decoded β α
  | 0, b => ⟨[], false, b⟩
  | fuel + 1, b =>
    match f.next b with
    | .more => ⟨[], false, b⟩
    | .reject => ⟨[], true, b⟩
    | .item a r =>
      let d := decodeLoop fuel r
      { d with items := a :: d.items }

def decode (b : List β) : Decoded β α := f.decodeLoop (b.length + 1) b

lemma decodeLoop_eq_decode {fuel : ℕ} (h : b.length < fuel) : f.decodeLoop fuel b = f.decode b := by
  suffices key : ∀ fuel fuel', b.length < fuel → b.length < fuel' →
      f.decodeLoop fuel b = f.decodeLoop fuel' b from key _ _ h (Nat.lt_succ_self _)
  clear h
  intro fuel
  induction fuel generalizing b with
  | zero => intro _ h; omega
  | succ fuel ih =>
    intro fuel' h h'
    cases fuel' with
    | zero => omega
    | succ fuel' =>
      rw [decodeLoop, decodeLoop]
      cases hnext : f.next b with
      | more => rfl
      | reject => rfl
      | item a r =>
        have hshrinks := f.shrinks hnext
        simp only
        rw [ih fuel' (by omega) (by omega)]

lemma decode_more (h : f.next b = .more) : f.decode b = ⟨[], false, b⟩ := by
  rw [decode, decodeLoop, h]

lemma decode_reject (h : f.next b = .reject) : f.decode b = ⟨[], true, b⟩ := by
  rw [decode, decodeLoop, h]

lemma decode_item (h : f.next b = .item a r) :
    f.decode b = ⟨a :: (f.decode r).items, (f.decode r).rejected, (f.decode r).rest⟩ := by
  rw [decode, decodeLoop, h]
  simp only
  rw [f.decodeLoop_eq_decode (f.shrinks h)]

/-- A stream is decoded in parts. -/
lemma decode_append (h : (f.decode b).rejected = false) (c : List β) :
    f.decode (b ++ c) = ⟨(f.decode b).items ++ (f.decode ((f.decode b).rest ++ c)).items,
        (f.decode ((f.decode b).rest ++ c)).rejected, (f.decode ((f.decode b).rest ++ c)).rest⟩ := by
  -- the items of the first part come off one after the other
  induction hlen : b.length using Nat.strongRecOn generalizing b with
  | _ len ih =>
  cases hnext : f.next b with
  | more => rw [f.decode_more hnext, List.nil_append]
  | reject =>
    rw [f.decode_reject hnext] at h
    cases h
  | item a r =>
    have hshrinks := f.shrinks hnext
    rw [f.decode_item hnext] at h
    rw [f.decode_item (f.item_append hnext c), ih r.length (by omega) h rfl, f.decode_item hnext]
    rfl

lemma decode_append_more (h : (f.decode b).rejected = false)
    (hnext : f.next ((f.decode b).rest ++ c) = .more) :
    f.decode (b ++ c) = ⟨(f.decode b).items, false, (f.decode b).rest ++ c⟩ := by
  rw [f.decode_append h, f.decode_more hnext, List.append_nil]

lemma decode_append_reject (h : (f.decode b).rejected = false)
    (hnext : f.next ((f.decode b).rest ++ c) = .reject) : (f.decode (b ++ c)).rejected = true := by
  rw [f.decode_append h, f.decode_reject hnext]

lemma decode_append_item (h : (f.decode b).rejected = false)
    (hnext : f.next ((f.decode b).rest ++ c) = .item a r) :
    f.decode (b ++ c) =
      ⟨(f.decode b).items ++ a :: (f.decode r).items, (f.decode r).rejected, (f.decode r).rest⟩ := by
  rw [f.decode_append h, f.decode_item hnext]

/-- A stream without an item is left as it is. -/
lemma rest_eq (h : (f.decode b).items = []) : (f.decode b).rest = b := by
  cases hnext : f.next b with
  | more => rw [f.decode_more hnext]
  | reject => rw [f.decode_reject hnext]
  | item a r =>
    rw [f.decode_item hnext] at h
    cases h

lemma decode_rejected_append (h : (f.decode b).rejected = true) :
    (f.decode (b ++ c)).rejected = true := by
  induction hlen : b.length using Nat.strongRecOn generalizing b with
  | _ len ih =>
  cases hnext : f.next b with
  | more =>
    rw [f.decode_more hnext] at h
    cases h
  | reject => rw [f.decode_reject (f.reject_append hnext c)]
  | item a r =>
    have hshrinks := f.shrinks hnext
    rw [f.decode_item hnext] at h
    rw [f.decode_item (f.item_append hnext c)]
    exact ih r.length (by omega) h rfl

/-- In the front of a stream its first items are found. -/
lemma decode_of_front (h : b <+: c) (hc : (f.decode c).rejected = false) :
    (f.decode b).rejected = false ∧ (f.decode b).items <+: (f.decode c).items := by
  obtain ⟨d, rfl⟩ := h
  have hb : (f.decode b).rejected = false := by
    by_contra hrejected
    rw [f.decode_rejected_append (Bool.not_eq_false _ ▸ hrejected)] at hc
    cases hc
  exact ⟨hb, by rw [f.decode_append hb]; exact List.prefix_append _ _⟩

/-- A stream that was put together from items. -/
lemma decode_flatMap {enc : α → List β} {as : List α} (hnil : f.next [] = .more)
    (henc : ∀ a ∈ as, ∀ c, f.next (enc a ++ c) = .item a c) :
    f.decode (as.flatMap enc) = ⟨as, false, []⟩ := by
  induction as with
  | nil => exact f.decode_more hnil
  | cons a as ih =>
    rw [List.flatMap_cons, f.decode_item (henc a (by simp) _),
      ih fun a ha => henc a (List.mem_cons_of_mem _ ha)]

end Framer

end Adb.Lib
