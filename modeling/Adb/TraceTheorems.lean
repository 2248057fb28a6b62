import Adb.EffectsTheorems
import Adb.Lib.History

/-!
# The trace

A step of the sockets adds observations to the trace. Those that are not about sockets are named
by the labels of the step.
-/

namespace Adb

open Lib List

def APacket.hasData (p : APacket) : Bool := p.msg.command == A_WRTE || p.msg.command == A_OPEN

lemma Obs.not_hasData_of_neutral {t : TPtr} {p : APacket} (h : (Obs.sent t p).neutral = true) :
    p.hasData = false := by
  simp only [Obs.neutral, Bool.and_eq_true, decide_eq_true_eq] at h
  simp [APacket.hasData, h.1.1, h.2]

namespace Sockets

variable {P : Rules} {σ τ : Sockets} {l m : List Act} {s r : Ptr} {a b a' : ASocket}

variable {obs : List Obs}

@[simp] lemma emits_trace : (σ.emits obs).trace = σ.trace ++ obs := rfl

@[simp] lemma create_trace :
    σ.create.trace = σ.trace ++ [.created σ.heap.next σ.localSocketNextId] := rfl

@[simp] lemma addBare_trace : (σ.addBare a).trace = σ.trace := rfl

@[simp] lemma link_trace : (σ.link s r a b).trace = σ.trace := rfl

def orphanObs (s : Ptr) (a : ASocket) : List Obs :=
  if a.isLocal then if a.disposable then [.destroyed s a.queued] else [.closing s a.queued] else []

@[simp] lemma orphan_trace : (orphan s a σ).trace = σ.trace ++ orphanObs s a := by
  unfold orphan orphanObs
  split
  · split
    · rfl
    · rfl
  · simp

lemma filter_orphanObs : (orphanObs s a).filter Obs.notable = [] := by
  unfold orphanObs
  split
  · split
    · rfl
    · rfl
  · rfl

lemma filter_drained (h : a.Drained s a' obs) : obs.filter Obs.notable = [] := by
  rcases h.written with ⟨rfl, -⟩ | ⟨data, rfl, -⟩ | ⟨rfl, -⟩
  · rfl
  · rfl
  · rfl

lemma filter_drained_cons {data : Bytes} (h : a.Drained s a' obs) :
    (.enqueued s data :: obs).filter Obs.notable = [] :=
  (filter_cons_of_neg Bool.false_ne_true).trans (filter_drained h)

def notes (l : List Act) : List Obs :=
  l.filterMap fun
    | .note o => some o
    | _ => none

@[simp] lemma notes_nil : notes [] = [] := rfl

lemma notes_append : notes (l ++ m) = notes l ++ notes m := filterMap_append

lemma mem_notes {o : Obs} : o ∈ notes l ↔ .note o ∈ l := by
  refine mem_filterMap.trans ⟨?_, fun h => ⟨_, h, rfl⟩⟩
  rintro ⟨act, hact, ho⟩
  cases act with
  | note o' =>
    cases ho
    exact hact
  | _ => cases ho

lemma IsPacket.not_hasData {p : APacket} {arg0 arg1 : UInt32} (h : IsPacket p A_OKAY arg0 arg1) :
    p.hasData = false := by
  rw [APacket.hasData, h.1]
  decide

lemma IsPacket.not_greets {p : APacket} {command arg0 arg1 : UInt32}
    (h : IsPacket p command arg0 arg1)
    (hstream : command = A_OKAY ∨ command = A_WRTE ∨ command = A_OPEN) : p.greets = false := by
  rw [APacket.greets, h.1]
  rcases hstream with rfl | rfl | rfl
  · rfl
  · rfl
  · rfl

def Sends (P : Rules) (obs : List Obs) : Prop :=
  ∀ t p, .sent t p ∈ obs → p.hasData = true → P.send t p

namespace Sends

variable {obs obs' : List Obs} {t : TPtr} {p : APacket} {o : Obs}

lemma nil : Sends P [] := by simp [Sends]

lemma append (h : Sends P obs) (h' : Sends P obs') : Sends P (obs ++ obs') := by
  intro t p hmem
  rcases mem_append.mp hmem with hmem | hmem
  · exact h t p hmem
  · exact h' t p hmem

lemma cons (ho : ∀ t p, o ≠ .sent t p) (h : Sends P obs) : Sends P (o :: obs) := by
  intro t p hmem
  rcases mem_cons.mp hmem with hmem | hmem
  · exact absurd hmem.symm (ho t p)
  · exact h t p hmem

lemma cons_sent (ho : p.hasData = true → P.send t p) (h : Sends P obs) :
    Sends P (.sent t p :: obs) := by
  intro u q hmem
  rcases mem_cons.mp hmem with hmem | hmem
  · cases hmem
    exact ho
  · exact h u q hmem

lemma okay {arg0 arg1 : UInt32} (hp : IsPacket p A_OKAY arg0 arg1) : Sends P [.sent t p] :=
  cons_sent (by simp [hp.not_hasData]) nil

lemma drained (h : a.Drained s a' obs) : Sends P obs := by
  rcases h.written with ⟨rfl, -⟩ | ⟨data, rfl, -⟩ | ⟨rfl, -⟩
  · exact nil
  · exact cons (by simp) nil
  · exact cons (by simp) nil

lemma orphan (s : Ptr) (a : ASocket) : Sends P (orphanObs s a) := by
  unfold orphanObs
  split
  · split
    · exact cons (by simp) nil
    · exact cons (by simp) nil
  · exact nil

lemma status (h : obs = [] ∨ obs = [.status s true []]) : Sends P obs := by
  rcases h with rfl | rfl
  · exact nil
  · exact cons (by simp) nil

end Sends

lemma Eff.trace (h : Eff P l σ τ) :
    ∃ obs, τ.trace = σ.trace ++ obs ∧ obs.filter Obs.notable = notes l ∧ Sends P obs := by
  cases h with
  | emit o ho =>
    refine ⟨[o], rfl, by simp [Obs.notable_of_faint ho], ?_⟩
    rintro t p hmem hp
    cases mem_singleton.mp hmem
    rw [Obs.not_hasData_of_neutral (Obs.neutral_of_faint ho)] at hp
    cases hp
  | note o ho =>
    refine ⟨[o], rfl, by simp [ho, notes], ?_⟩
    rintro t p hmem hp
    cases mem_singleton.mp hmem
    rw [Obs.not_hasData_of_neutral (t := t) (APacket.greets.neutral ho)] at hp
    cases hp
  | os => exact ⟨[], by simp, rfl, .nil⟩
  | touch => exact ⟨[], by simp, rfl, .nil⟩
  | arm =>
    refine ⟨[], by simp, ?_, .nil⟩
    split
    · rfl
    · rfl
  | select => exact ⟨[], by simp, rfl, .nil⟩
  | wake => exact ⟨[], by simp, rfl, .nil⟩
  | hush => exact ⟨[], by simp, rfl, .nil⟩
  | @readied _ s _ _ status _ _ _ hst =>
    refine ⟨.readied s :: status, by simp, ?_, .cons (by simp) (.status hst)⟩
    rcases hst with rfl | rfl
    · rfl
    · rfl
  | @enqueue _ s _ _ _ _ data obs _ _ _ _ _ _ _ hd =>
    exact ⟨.enqueued s data :: obs, by simp, filter_drained_cons hd, .cons (by simp) (.drained hd)⟩
  | @drain _ _ _ _ obs _ _ _ hd => exact ⟨obs, by simp, filter_drained hd, .drained hd⟩
  | @settle _ _ _ _ _ _ obs t p _ _ _ _ _ _ hd _ _ hp =>
    refine ⟨obs ++ [.sent t p], by simp, ?_, .append (.drained hd) (.okay hp)⟩
    rw [filter_append, filter_drained hd]
    simp [Obs.notable, hp.not_greets (.inl rfl)]
  | @finish _ s a o left _ _ _ ho =>
    rcases ho with ⟨rfl, -⟩ | ⟨rfl, -⟩
    · exact ⟨[.wrote s a.queued, .destroyed s left], by simp, rfl,
        .cons (by simp) (.cons (by simp) .nil)⟩
    · exact ⟨[.writeFailed s, .destroyed s left], by simp, rfl,
        .cons (by simp) (.cons (by simp) .nil)⟩
  | @abandon _ s a => exact ⟨[.destroyed s a.queued], by simp, rfl, .cons (by simp) .nil⟩
  | read => exact ⟨[_], rfl, rfl, .cons (by simp) .nil⟩
  | discard =>
    refine ⟨[_], rfl, ?_, .cons (by simp) .nil⟩
    split
    · rfl
    · rfl
  | @forward _ s _ _ _ data t p _ _ _ _ _ _ hp _ hsend =>
    refine ⟨[.read s data, .sent t p], by simp, ?_,
      .cons (by simp) (.cons_sent (fun _ => hsend) .nil)⟩
    have hnot := hp.not_greets (.inr (.inl rfl))
    split
    · simp [Obs.notable, hnot]
    · simp [Obs.notable, hnot, notes]
  | close => exact ⟨_, orphan_trace, filter_orphanObs, .orphan _ _⟩
  | @closePair _ s a r b =>
    refine ⟨orphanObs r b ++ orphanObs s a, by simp, ?_, .append (.orphan r b) (.orphan s a)⟩
    rw [filter_append, filter_orphanObs, filter_orphanObs]
    rfl
  | client => exact ⟨[.created σ.heap.next σ.localSocketNextId], by simp, rfl, .cons (by simp) .nil⟩
  | forwardClient t p _ _ hp hsend =>
    exact ⟨[.created σ.heap.next σ.localSocketNextId, .sent t p,
      .opened σ.heap.next σ.localSocketNextId], by simp,
      by simp [Obs.notable, hp.not_greets (.inr (.inr rfl))],
      .cons (by simp) (.cons_sent (fun _ => hsend) (.cons (by simp) .nil))⟩
  | @hostService _ s =>
    exact ⟨[.created σ.heap.next σ.localSocketNextId, .status s true []], by simp, rfl,
      .cons (by simp) (.cons (by simp) .nil)⟩
  | @track _ s => exact ⟨[.status s true []], by simp, rfl, .cons (by simp) .nil⟩
  | @handOver _ s a _ _ t p _ _ _ _ _ _ hp hsend =>
    exact ⟨[.sent t p, .opened s a.id], by simp,
      by simp [Obs.notable, hp.not_greets (.inr (.inr rfl))], .cons_sent (fun _ => hsend) (.cons (by simp) .nil)⟩
  | accept _ remote t p _ _ _ _ hp =>
    exact ⟨[.created σ.heap.next σ.localSocketNextId,
      .accepted σ.heap.next σ.localSocketNextId remote] ++ ([.sent t p] ++ [.readied σ.heap.next]),
      by simp, by simp [Obs.notable, hp.not_greets (.inl rfl), notes],
      .append (.cons (by simp) (.cons (by simp) .nil)) (.append (.okay hp) (.cons (by simp) .nil))⟩
  | @connect _ s _ _ _ status _ _ _ _ _ _ _ hst =>
    refine ⟨.readied s :: status, by simp, ?_, .cons (by simp) (.status hst)⟩
    rcases hst with rfl | rfl
    · rfl
    · rfl
  | @deliver _ s _ _ _ _ data obs ack _ _ _ _ _ _ _ _ hd hack =>
    refine ⟨.enqueued s data :: (obs ++ ack), by simp, ?_,
      .cons (by simp) (.append (.drained hd) ?_)⟩
    · have hobs := filter_drained hd
      cases hack with
      | later => simp [hobs, Obs.notable, notes]
      | now _ hp => simp [hobs, Obs.notable, notes, hp.not_greets (.inl rfl)]
    · cases hack with
      | later => exact .nil
      | now _ hp => exact .okay hp
  | @inject _ s _ _ _ _ data obs _ _ _ _ _ _ _ hd =>
    exact ⟨.enqueued s data :: obs, by simp, filter_drained_cons hd, .cons (by simp) (.drained hd)⟩
  | echo t p _ _ _ _ _ hp =>
    exact ⟨[.sent t p], rfl, by simp [Obs.notable, hp.not_greets (.inl rfl), notes], .okay hp⟩

lemma Effs.trace (h : Effs P l σ τ) :
    ∃ obs, τ.trace = σ.trace ++ obs ∧ obs.filter Obs.notable = notes l ∧ Sends P obs := by
  induction h with
  | refl => exact ⟨[], by simp, rfl, .nil⟩
  | tail _ h' ih =>
    obtain ⟨obs, htrace, hnotes, hsends⟩ := ih
    obtain ⟨obs', htrace', hnotes', hsends'⟩ := h'.trace
    refine ⟨obs ++ obs', by rw [htrace', htrace, append_assoc], ?_, hsends.append hsends'⟩
    rw [filter_append, hnotes, hnotes', notes_append]

lemma Effs.trace_prefix (h : Effs P l σ τ) : σ.trace <+: τ.trace := by
  obtain ⟨obs, htrace, -⟩ := h.trace
  exact ⟨obs, htrace.symm⟩

lemma Effs.latest_eq {β : Type} {f : Obs → Option β} (hf : ∀ o, o.notable = false → f o = none)
    (h : Effs P l σ τ) : latest f τ.trace = (latest f (notes l)).or (latest f σ.trace) := by
  obtain ⟨obs, htrace, hnotes, -⟩ := h.trace
  rw [htrace, latest_append, ← hnotes, latest_filter hf]

end Sockets

end Adb
