import Mathlib.Data.List.Basic

/-!
# What a history says

A history is a list of events, the latest at its end. Some events say something (`f` gives it);
`latest f` is what was said last, and `collect f` is all that was said, put together.
-/

namespace Adb.Lib

open List

variable {α β : Type} {f : α → Option β} {xs ys : List α}

/-- What the last event that says something says. -/
def latest (f : α → Option β) (xs : List α) : Option β := (xs.filterMap f).getLast?

@[simp] lemma latest_nil : latest f [] = none := rfl

lemma latest_append : latest f (xs ++ ys) = (latest f ys).or (latest f xs) := by
  simp [latest, List.getLast?_append]

lemma filterMap_filter_of_none {p : α → Bool} (h : ∀ x, p x = false → f x = none) :
    (xs.filter p).filterMap f = xs.filterMap f := by
  rw [filterMap_filter]
  refine filterMap_congr fun x _ => ?_
  cases hp : p x with
  | true => simp
  | false => simp [h x hp]

/-- Events that say nothing may be left out. -/
lemma latest_filter {p : α → Bool} (h : ∀ x, p x = false → f x = none) :
    latest f (xs.filter p) = latest f xs := by
  unfold latest
  congr 1
  induction xs with
  | nil => rfl
  | cons x rest ih =>
    cases hp : p x with
    | true => simp [hp, filterMap_cons, ih]
    | false => simp [hp, h x hp, ih]

lemma latest_eq_none (h : ∀ x ∈ xs, f x = none) : latest f xs = none := by
  simp [latest, filterMap_eq_nil_iff.mpr h]

lemma latest_eq_some {b : β} (hall : ∀ x ∈ xs, f x = none ∨ f x = some b)
    (hsome : ∃ x ∈ xs, f x = some b) : latest f xs = some b := by
  obtain ⟨x, hx, hfx⟩ := hsome
  have hne : xs.filterMap f ≠ [] := ne_nil_of_mem (mem_filterMap.mpr ⟨x, hx, hfx⟩)
  obtain ⟨y, hy, hlast⟩ := mem_filterMap.mp (getLast_mem hne)
  rw [latest, List.getLast?_eq_some_getLast hne, ← hlast]
  rcases hall y hy with h | h
  · rw [h] at hlast
    cases hlast
  · exact h

lemma exists_of_latest {b : β} (h : latest f xs = some b) : ∃ x ∈ xs, f x = some b :=
  mem_filterMap.mp (mem_of_getLast? h)

lemma foldl_filter_of_not {step : β → α → β} {p : α → Bool}
    (h : ∀ b x, p x = false → step b x = b) (b : β) :
    (xs.filter p).foldl step b = xs.foldl step b := by
  induction xs generalizing b with
  | nil => rfl
  | cons x rest ih =>
    cases hp : p x with
    | true => simp [hp, ih]
    | false => simp [hp, h b x hp, ih]

/-- An event is the latest, or an earlier one. -/
lemma snoc_eq_append_cons {pre post : List α} {c o : α} (h : xs ++ [o] = pre ++ c :: post) :
    (post = [] ∧ xs = pre ∧ o = c) ∨ ∃ mid, post = mid ++ [o] ∧ xs = pre ++ c :: mid := by
  rcases eq_nil_or_concat post with rfl | ⟨mid, o', rfl⟩
  · obtain ⟨hxs, ho⟩ := append_inj' h rfl
    exact .inl ⟨rfl, hxs, by simpa using ho⟩
  rw [concat_eq_append, ← cons_append, ← append_assoc] at h
  obtain ⟨hxs, ho⟩ := append_inj' h rfl
  obtain rfl : o = o' := by simpa using ho
  exact .inr ⟨mid, concat_eq_append, hxs⟩

/-- An event that is not the latest is an earlier one. -/
lemma eq_append_of_snoc {pre mid : List α} {c o : α} (h : xs ++ [o] = pre ++ c :: mid)
    (hne : o ≠ c) : ∃ mid', mid = mid' ++ [o] ∧ xs = pre ++ c :: mid' := by
  rcases snoc_eq_append_cons h with ⟨-, -, ho⟩ | hearlier
  · exact absurd ho hne
  · exact hearlier

/-- An event that has not happened before is the latest. -/
lemma eq_of_snoc {pre post : List α} {c o : α} (h : xs ++ [o] = pre ++ c :: post)
    (hnot : c ∉ xs) : xs = pre ∧ post = [] := by
  rcases snoc_eq_append_cons h with ⟨hpost, hxs, -⟩ | ⟨mid, -, rfl⟩
  · exact ⟨hxs, hpost⟩
  · exact absurd (by simp) hnot

def collect {γ : Type} (g : α → Option (List γ)) (xs : List α) : List γ := (xs.filterMap g).flatten

section collect

variable {γ : Type} {g : α → Option (List γ)}

@[simp] lemma collect_nil : collect g [] = [] := rfl

@[simp] lemma collect_append : collect g (xs ++ ys) = collect g xs ++ collect g ys := by
  simp [collect]

lemma collect_cons {x : α} : collect g (x :: xs) = (g x).getD [] ++ collect g xs := by
  unfold collect
  cases hx : g x with
  | none => simp [hx]
  | some b => simp [hx]

lemma collect_filter {p : α → Bool} (h : ∀ x, p x = false → g x = none) :
    collect g (xs.filter p) = collect g xs := by
  induction xs with
  | nil => rfl
  | cons x rest ih =>
    cases hp : p x with
    | true => rw [filter_cons_of_pos hp, collect_cons, collect_cons, ih]
    | false =>
      rw [filter_cons_of_neg (by simp [hp]), collect_cons, h x hp, ih]
      rfl

end collect

end Adb.Lib
