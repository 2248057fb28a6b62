import Adb.Lib.Outcome

/-!
# Runs of a machine

A machine takes inputs of type `ι` in states of type `σ`, and may stop for a reason in `ε`. `runs`
feeds it a list of inputs; `Meets step C` says that each of its steps meets the condition `C`.
-/

namespace Adb.Lib

variable {ε ι σ : Type}

/-- The computation returns a value that passes the test `f`; this can be evaluated. -/
def returns {α : Type} (x : Except ε α) (f : α → Bool) : Bool :=
  match x with
  | .ok a => f a
  | .error _ => false

variable {α : Type}

lemma returns_iff {x : Except ε α} {f : α → Bool} :
    returns x f = true ↔ ∃ a, x = .ok a ∧ f a = true := by
  cases x with
  | ok a => simp [returns]
  | error e => simp [returns]

/-- The computation stops for the reason `e`; this can be evaluated. -/
def stops {α : Type} [DecidableEq ε] (e : ε) (x : Except ε α) : Bool :=
  match x with
  | .ok _ => false
  | .error e' => e' = e

lemma stops_iff [DecidableEq ε] {e : ε} {x : Except ε α} : stops e x = true ↔ x = .error e := by
  cases x with
  | ok a => simp [stops]
  | error e' => simp [stops]

def runs (step : ι → σ → Except ε σ) : List ι → σ → Except ε σ
  | [], s => pure s
  | i :: rest, s => do
    let s ← step i s
    runs step rest s

/-- Every step of the run meets the condition `C`. -/
def Meets (step : ι → σ → Except ε σ) (C : σ → ι → Prop) : List ι → σ → Prop
  | [], _ => True
  | i :: rest, s =>
    C s i ∧
      match step i s with
      | .ok t => Meets step C rest t
      | .error _ => True

instance Meets.decidable (step : ι → σ → Except ε σ) (C : σ → ι → Prop)
    [∀ s i, Decidable (C s i)] : ∀ is s, Decidable (Meets step C is s)
  | [], _ => .isTrue trivial
  | i :: rest, s =>
    match h : step i s with
    | .ok t =>
      have := Meets.decidable step C rest t
      decidable_of_iff (C s i ∧ Meets step C rest t) (by simp [Meets, h])
    | .error _ => decidable_of_iff (C s i) (by simp [Meets, h])

variable {step : ι → σ → Except ε σ} {C C' : σ → ι → Prop} {I : σ → Prop} {is js : List ι}
  {s t : σ} {i : ι}

lemma runs_cons : runs step (i :: is) s = .ok t ↔
    ∃ u, step i s = .ok u ∧ runs step is u = .ok t := bind_eq_ok

lemma runs_concat (i : ι) (s : σ) : runs step (is ++ [i]) s = runs step is s >>= step i := by
  induction is generalizing s with
  | nil => exact bind_pure _
  | cons j rest ih =>
    rw [List.cons_append, runs, runs, bind_assoc]
    exact congrArg _ (funext ih)

lemma Meets.cons (h : Meets step C (i :: is) s) : C s i := h.1

lemma Meets.tail (h : Meets step C (i :: is) s) (hstep : step i s = .ok t) : Meets step C is t := by
  have hrest := h.2
  rw [hstep] at hrest
  exact hrest

/-- A condition on the inputs alone. -/
lemma Meets.of_mem (h : ∀ i ∈ is, ∀ s, C s i) (s : σ) : Meets step C is s := by
  induction is generalizing s with
  | nil => trivial
  | cons i rest ih =>
    refine ⟨h i (by simp) s, ?_⟩
    split
    · exact ih (fun j hj => h j (by simp [hj])) _
    · trivial

/-- A condition that always holds is met by every run. -/
lemma Meets.of_forall (h : ∀ s i, C s i) (is : List ι) (s : σ) : Meets step C is s :=
  .of_mem (fun i _ s => h s i) s

/-- The invariant rule. -/
lemma runs_invariant (hstep : ∀ s i t, I s → C s i → step i s = .ok t → I t) (hs : I s)
    (hC : Meets step C is s) (hrun : runs step is s = .ok t) : I t := by
  induction is generalizing s with
  | nil =>
    cases hrun
    exact hs
  | cons i rest ih =>
    obtain ⟨u, hu, hrest⟩ := runs_cons.mp hrun
    exact ih (hstep s i u hs hC.cons hu) (hC.tail hu) hrest

/-- The refinement rule: a run whose steps all meet the condition returns, and the state it comes
to is related to that of the abstract machine `apply`. -/
lemma runs_refines {R : σ → α → Prop} (apply : ι → α → α)
    (hstep : ∀ s i a, R s a → C s i → ∃ t, step i s = .ok t ∧ R t (apply i a)) {a : α}
    (h : R s a) (hC : Meets step C is s) :
    ∃ t, runs step is s = .ok t ∧ R t (is.foldl (fun a i => apply i a) a) := by
  induction is generalizing s a with
  | nil => exact ⟨s, rfl, h⟩
  | cons i rest ih =>
    obtain ⟨u, hu, hR⟩ := hstep s i a h hC.cons
    obtain ⟨t, ht, hRt⟩ := ih hR (hC.tail hu)
    exact ⟨t, runs_cons.mpr ⟨u, hu, ht⟩, hRt⟩

/-- The safety rule: a run whose steps all meet the condition returns, if the steps preserve what
they need to return. -/
lemma runs_safe (hstep : ∀ s i, I s → C s i → ∃ t, step i s = .ok t ∧ I t) (hs : I s)
    (hC : Meets step C is s) : ∃ t, runs step is s = .ok t ∧ I t :=
  runs_refines (R := fun s (_ : Unit) => I s) (fun _ a => a) (fun s i _ => hstep s i) (a := ()) hs hC

/-! ## Ghost values -/

variable {γ : Type} {note : ι → σ → γ → γ} {J : σ → γ → Prop} {g : γ}

def ledger (step : ι → σ → Except ε σ) (note : ι → σ → γ → γ) : List ι → σ → γ → γ
  | [], _, g => g
  | i :: rest, s, g =>
    match step i s with
    | .ok t => ledger step note rest t (note i s g)
    | .error _ => g

lemma ledger_cons (hstep : step i s = .ok t) :
    ledger step note (i :: is) s g = ledger step note is t (note i s g) := by
  simp [ledger, hstep]

/-- The invariant rule, for a property that ties a state to what has been noted. -/
lemma runs_ledger (hstep : ∀ s g i t, J s g → step i s = .ok t → J t (note i s g)) (hs : J s g)
    (hrun : runs step is s = .ok t) : J t (ledger step note is s g) := by
  induction is generalizing s g with
  | nil =>
    cases hrun
    exact hs
  | cons i rest ih =>
    obtain ⟨u, hu, hrest⟩ := runs_cons.mp hrun
    rw [ledger_cons hu]
    exact ih (hstep s g i u hs hu) hrest

/-- A run that goes on notes on. -/
lemma ledger_append (hrun : runs step is s = .ok t) :
    ledger step note (is ++ js) s g = ledger step note js t (ledger step note is s g) := by
  induction is generalizing s g with
  | nil =>
    cases hrun
    rfl
  | cons i rest ih =>
    obtain ⟨u, hu, hrest⟩ := runs_cons.mp hrun
    rw [List.cons_append, ledger_cons hu, ledger_cons hu, ih hrest]

end Adb.Lib
