import Mathlib.Data.List.Induction
import Mathlib.Tactic.Common

/-!
# Lexical normalisation of paths

A path is a list of components, one of which, `up`, leaves the directory again. It is walked from a
stack of directories. Above the root there is nothing; a relative path may begin with as many `up`s
as it leaves directories that it has not entered.
-/

namespace Adb.Lib.Lexical

open List

variable {α : Type} [DecidableEq α] {up c : α} {root : Bool} {stack cs ds : List α}

/-- The directory that a component leads to. -/
def enter (up : α) (root : Bool) (stack : List α) (c : α) : List α :=
  if c = up then
    if stack = [] ∨ stack.getLast? = some up then if root then stack else stack ++ [up]
    else stack.dropLast
  else stack ++ [c]

def normal (up : α) (root : Bool) (cs : List α) : List α := cs.foldl (enter up root) []

def Stays (up : α) (cs : List α) : Prop := (normal up false cs).head? ≠ some up

instance (up : α) (cs : List α) : Decidable (Stays up cs) :=
  inferInstanceAs (Decidable (_ ≠ _))

lemma normal_concat : normal up root (cs ++ [c]) = enter up root (normal up root cs) c := by
  rw [normal, foldl_append, foldl_cons, foldl_nil, normal]

/-- All `up`s of a relative path come first. -/
lemma normal_shape (up : α) (cs : List α) :
    ∃ k rest, normal up false cs = List.replicate k up ++ rest ∧ up ∉ rest := by
  induction cs using List.reverseRecOn with
  | nil => exact ⟨0, [], rfl, by simp⟩
  | append_singleton cs c ih =>
    obtain ⟨k, rest, hcs, hrest⟩ := ih
    rw [normal_concat, enter]
    by_cases hc : c = up
    · rw [if_pos hc]
      by_cases hlast : normal up false cs = [] ∨ (normal up false cs).getLast? = some up
      · -- then there is nothing but `up`s
        have hnil : rest = [] := by
          obtain hnil | hup := hlast
          · rw [hcs] at hnil
            exact (append_eq_nil_iff.mp hnil).2
          cases hr : rest.getLast? with
          | none => exact List.getLast?_eq_none_iff.mp hr
          | some x =>
            rw [hcs, List.getLast?_append, hr] at hup
            have hx : x = up := Option.some.inj hup
            exact absurd (mem_of_getLast? (hx ▸ hr)) hrest
        refine ⟨k + 1, [], ?_, by simp⟩
        rw [if_pos hlast, hcs, hnil, List.append_nil, List.append_nil, replicate_succ']
        rfl
      · rw [if_neg hlast]
        cases rest with
        | nil =>
          exfalso
          apply hlast
          rw [hcs, List.append_nil]
          cases k with
          | zero => exact .inl rfl
          | succ k => exact .inr (by rw [replicate_succ', List.getLast?_concat])
        | cons r more =>
          refine ⟨k, (r :: more).dropLast, ?_, ?_⟩
          · rw [hcs, dropLast_append_of_ne_nil (by simp)]
          · intro hmem
            exact hrest ((dropLast_sublist _).subset hmem)
    · rw [if_neg hc]
      refine ⟨k, rest ++ [c], by rw [hcs, append_assoc], ?_⟩
      intro hmem
      obtain hmem | hmem := mem_append.mp hmem
      · exact hrest hmem
      · exact hc (mem_singleton.mp hmem).symm

/-- A path that stays has no `up` in its normal form. -/
lemma Stays.not_mem (h : Stays up cs) : up ∉ normal up false cs := by
  obtain ⟨k, rest, hcs, hrest⟩ := normal_shape up cs
  cases k with
  | zero =>
    rw [hcs]
    simpa using hrest
  | succ k =>
    exfalso
    apply h
    rw [hcs, replicate_succ]
    rfl

/-- Where a path has left its directory, it does not come back. -/
lemma Stays.of_concat (h : Stays up (cs ++ [c])) : Stays up cs := by
  intro hhead
  apply h
  obtain ⟨first, hfirst⟩ : ∃ more, normal up false cs = up :: more := by
    cases hn : normal up false cs with
    | nil =>
      rw [hn] at hhead
      cases hhead
    | cons x more =>
      rw [hn] at hhead
      exact ⟨more, by rw [Option.some.inj hhead]⟩
  rw [normal_concat, enter, hfirst]
  split
  · split
    · rfl
    next hlast =>
    cases first with
    | nil => exact absurd (.inr rfl) hlast
    | cons y more => rfl
  · rfl

/-- A path that stays adds its normal form to the directory where it starts. -/
lemma walk_of_stays (h : Stays up cs) :
    cs.foldl (enter up root) stack = stack ++ normal up false cs := by
  induction cs using List.reverseRecOn with
  | nil => exact (List.append_nil stack).symm
  | append_singleton cs c ih =>
    have hcs := h.of_concat
    have hmem := hcs.not_mem
    rw [foldl_append, foldl_cons, foldl_nil, ih hcs, normal_concat, enter, enter]
    by_cases hc : c = up
    · rw [if_pos hc, if_pos hc]
      cases hn : normal up false cs using List.reverseRecOn with
      | nil =>
        -- the path would begin with `up`
        exfalso
        apply h
        rw [normal_concat, hn, hc]
        simp [enter]
      | append_singleton more x =>
        have hx : x ≠ up := by
          intro hx
          apply hmem
          rw [hn, hx]
          simp
        rw [if_neg (by simp [hx]), if_neg (by simp [hx]), dropLast_concat,
          ← append_assoc, dropLast_concat]
    · rw [if_neg hc, if_neg hc, append_assoc]

/-- `ds` leads to the directory of `cs` or to one below it. -/
def Below (up : α) (root : Bool) (cs ds : List α) : Prop :=
  ∃ rest, normal up root ds = normal up root cs ++ rest ∧ rest.head? ≠ some up

lemma Below.refl (up : α) (root : Bool) (cs : List α) : Below up root cs cs :=
  ⟨[], (List.append_nil _).symm, by simp⟩

lemma Below.append {es : List α} (h : Below up root cs ds) (hes : Stays up es) :
    Below up root cs (ds ++ es) := by
  obtain ⟨rest, hds, hrest⟩ := h
  refine ⟨rest ++ normal up false es, ?_, ?_⟩
  · rw [normal, foldl_append, walk_of_stays hes]
    show normal up root ds ++ _ = _
    rw [hds, append_assoc]
  · cases rest with
    | nil => exact hes
    | cons r more => exact hrest

/-! ## Components -/

variable {β : Type} [DecidableEq β] {sep : β} {dot p q : List β}

/-- The components of a path: empty ones and `dot` lead nowhere. -/
def components (sep : β) (dot p : List β) : List (List β) :=
  (p.splitOn sep).filter fun c => c ≠ [] ∧ c ≠ dot

@[simp] lemma components_nil (sep : β) (dot : List β) : components sep dot [] = [] := by
  simp [components]

lemma components_append_cons :
    components sep dot (p ++ sep :: q) = components sep dot p ++ components sep dot q := by
  rw [components, splitOn_append_cons_self, filter_append]
  rfl

lemma components_separators_append {n : ℕ} :
    components sep dot (List.replicate n sep ++ p) = components sep dot p := by
  induction n with
  | zero => rfl
  | succ n ih =>
    have hsplit : List.replicate (n + 1) sep ++ p = [] ++ sep :: (List.replicate n sep ++ p) := by
      rw [replicate_succ, cons_append, nil_append]
    rw [hsplit, components_append_cons, components_nil, nil_append, ih]

lemma components_append_separators {n : ℕ} :
    components sep dot (p ++ (List.replicate (n + 1) sep ++ q)) =
      components sep dot p ++ components sep dot q := by
  rw [replicate_succ, cons_append, components_append_cons, components_separators_append]

end Adb.Lib.Lexical
