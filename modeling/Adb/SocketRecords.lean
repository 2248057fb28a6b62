import Adb.SocketsInv

/-!
# Changes to one socket

The functions of `sockets.cpp` change a socket in a handful of ways: they switch its interest
in events on and off, write out some of its queue, add to it, and exchange its hooks. Each
change is a function on records here, with the proof that it keeps a socket well formed.
-/

namespace Adb

open Lib

namespace ASocket

/-- `fdevent_set(s->fde, g(s->fde->state))`. -/
def setInterest (a : ASocket) (g : Events → Events) : ASocket :=
  { a with fde := a.fde.map fun f => f.setTo (g f.state) }

abbrev addRead (a : ASocket) : ASocket := a.setInterest (·.union Events.FDE_READ)

abbrev delRead (a : ASocket) : ASocket := a.setInterest (·.diff Events.FDE_READ)

abbrev addWrite (a : ASocket) : ASocket := a.setInterest (·.union Events.FDE_WRITE)

abbrev delWrite (a : ASocket) : ASocket := a.setInterest (·.diff Events.FDE_WRITE)

def plain (a : ASocket) : ASocket :=
  { a with ready := .localSocketReady, shutdown := none, close := .localSocketClose }

def notify (a : ASocket) : ASocket :=
  { a with ready := .localSocketReadyNotify, shutdown := none, close := .localSocketCloseNotify }

variable {a : ASocket} {g : Events → Events}

section setInterest

@[simp] lemma setInterest_enqueue : (a.setInterest g).enqueue = a.enqueue := rfl
@[simp] lemma setInterest_id : (a.setInterest g).id = a.id := rfl
@[simp] lemma setInterest_closing : (a.setInterest g).closing = a.closing := rfl
@[simp] lemma setInterest_peer : (a.setInterest g).peer = a.peer := rfl
@[simp] lemma setInterest_queued : (a.setInterest g).queued = a.queued := rfl
@[simp] lemma setInterest_isLocal : (a.setInterest g).isLocal = a.isLocal := rfl
@[simp] lemma setInterest_transport : (a.setInterest g).transport = a.transport := rfl

variable {f : FdEvent}

lemma wantsRead_of_fde (hf : a.fde = some f) : a.wantsRead = f.state.read := by
  simp [wantsRead, hf]

lemma wantsWrite_of_fde (hf : a.fde = some f) : a.wantsWrite = f.state.write := by
  simp [wantsWrite, hf]

lemma setInterest_fde (hf : a.fde = some f) :
    (a.setInterest g).fde = some (f.setTo (g f.state)) := by
  simp [setInterest, hf]

lemma pending_of_setInterest (h : (a.setInterest g).pending = true) : a.pending = true := by
  cases hf : a.fde with
  | none => simp [pending, setInterest, hf] at h
  | some f =>
    simp only [pending, setInterest, hf, Option.map_some, Option.any_some] at h ⊢
    exact FdEvent.pending_of_setTo h

/-- An `FDE_READ` event that waits is one that is wanted. -/
def Asked (a : ASocket) : Prop :=
  ∀ f, a.fde = some f → f.events.read = true → f.state.read = true

lemma WfLocal.asked_setInterest (h : a.WfLocal) (ha : a.Asked) : (a.setInterest g).Asked := by
  obtain ⟨f, hf, hw⟩ := h.fde
  intro f' hf' hread
  rw [setInterest_fde hf] at hf'
  cases hf'
  rw [FdEvent.setTo_state]
  unfold FdEvent.setTo at hread
  split at hread
  · next hsame => rw [← hsame]; exact ha f hf hread
  cases hp : f.pending with
  | false => simp [hp, hw.idle hp] at hread
  | true =>
    simp only [hp, if_true, Events.inter_read, Bool.and_eq_true] at hread
    exact hread.2

lemma sameShape_setInterest : SameShape a (a.setInterest g) := ⟨rfl, rfl, rfl⟩

lemma WfLocal.rebuild (h : a.WfLocal) {q : IOVector} {e : Bool} (hq : q.Wf)
    (hshape : ∀ ev : Events, ev.error = false → (g ev).error = false)
    (hwaits : q.bytes ≠ [] → a.closing = false → e = false → (a.setInterest g).wantsWrite = true)
    (hwanted : (a.setInterest g).wantsWrite = true → q.bytes ≠ [])
    (hdrains : a.closing = true → (a.setInterest g).wantsWrite = true ∧
      (a.setInterest g).wantsRead = false ∧ e = false) :
    WfLocal { a.setInterest g with packetQueue := q, hasWriteError := e } where
  fde := by
    obtain ⟨f, hf, hfw⟩ := h.fde
    exact ⟨_, setInterest_fde hf, hfw.setTo (hshape _ hfw.error)⟩
  shutdown := h.shutdown
  hooks := h.hooks
  queue := hq
  id := h.id
  waits := hwaits
  wanted := hwanted
  drains hc := ⟨(h.drains hc).1, hdrains hc⟩

end setInterest

lemma WfLocal.plain_of_peer (h : a.WfLocal) {r : Ptr} (hpeer : a.peer = some r) :
    a.ready = .localSocketReady ∧ a.close = .localSocketClose := by
  rcases h.hooks with hh | ⟨-, -, hnone, -⟩
  · exact hh
  · rw [hpeer] at hnone
    cases hnone

lemma WfLocal.hooks_eq (h : a.WfLocal) :
    a.ready = .localSocketReady ∧ a.close = .localSocketClose ∨
      a.ready = .localSocketReadyNotify ∧ a.close = .localSocketCloseNotify := by
  rcases h.hooks with hh | ⟨hr, hc, -⟩
  · exact .inl hh
  · exact .inr ⟨hr, hc⟩

/-! ## Interest in reading -/

lemma WfLocal.wantsRead_addRead (h : a.WfLocal) : a.addRead.wantsRead = true := by
  obtain ⟨f, hf, -⟩ := h.fde
  rw [wantsRead_of_fde (setInterest_fde hf)]
  simp

lemma WfLocal.wantsWrite_addRead (h : a.WfLocal) : a.addRead.wantsWrite = a.wantsWrite := by
  obtain ⟨f, hf, -⟩ := h.fde
  rw [wantsWrite_of_fde (setInterest_fde hf), wantsWrite_of_fde hf]
  simp

lemma WfLocal.wantsRead_delRead (h : a.WfLocal) : a.delRead.wantsRead = false := by
  obtain ⟨f, hf, -⟩ := h.fde
  rw [wantsRead_of_fde (setInterest_fde hf)]
  simp

lemma WfLocal.wantsWrite_delRead (h : a.WfLocal) : a.delRead.wantsWrite = a.wantsWrite := by
  obtain ⟨f, hf, -⟩ := h.fde
  rw [wantsWrite_of_fde (setInterest_fde hf), wantsWrite_of_fde hf]
  simp

lemma WfLocal.addRead (h : a.WfLocal) (hc : a.closing = false) : a.addRead.WfLocal := by
  refine h.rebuild (g := (·.union Events.FDE_READ)) h.queue (by simp) ?_ ?_ (by simp [hc])
  · intro hq hc he
    exact h.wantsWrite_addRead.trans (h.waits hq hc he)
  · intro hw
    exact h.wanted (h.wantsWrite_addRead.symm.trans hw)

lemma WfLocal.delRead (h : a.WfLocal) : a.delRead.WfLocal := by
  refine h.rebuild (g := (·.diff Events.FDE_READ)) h.queue (by simp) ?_ ?_ ?_
  · intro hq hc he
    exact h.wantsWrite_delRead.trans (h.waits hq hc he)
  · intro hw
    exact h.wanted (h.wantsWrite_delRead.symm.trans hw)
  intro hc
  obtain ⟨-, hw, -, he⟩ := h.drains hc
  exact ⟨h.wantsWrite_delRead.trans hw, h.wantsRead_delRead, he⟩

/-! ## Interest in writing -/

lemma WfLocal.wantsWrite_addWrite (h : a.WfLocal) : a.addWrite.wantsWrite = true := by
  obtain ⟨f, hf, -⟩ := h.fde
  rw [wantsWrite_of_fde (setInterest_fde hf)]
  simp

lemma WfLocal.wantsWrite_delWrite (h : a.WfLocal) : a.delWrite.wantsWrite = false := by
  obtain ⟨f, hf, -⟩ := h.fde
  rw [wantsWrite_of_fde (setInterest_fde hf)]
  simp

lemma WfLocal.wantsRead_addWrite (h : a.WfLocal) : a.addWrite.wantsRead = a.wantsRead := by
  obtain ⟨f, hf, -⟩ := h.fde
  rw [wantsRead_of_fde (setInterest_fde hf), wantsRead_of_fde hf]
  simp

lemma WfLocal.wantsRead_delWrite (h : a.WfLocal) : a.delWrite.wantsRead = a.wantsRead := by
  obtain ⟨f, hf, -⟩ := h.fde
  rw [wantsRead_of_fde (setInterest_fde hf), wantsRead_of_fde hf]
  simp

lemma WfLocal.tryAgain (h : a.WfLocal) {q : IOVector} (hq : q.Wf) (hne : q.bytes ≠ []) :
    WfLocal { a.addWrite with packetQueue := q } := by
  refine h.rebuild hq (by simp) (fun _ _ _ => h.wantsWrite_addWrite) (fun _ => hne) fun hc => ?_
  obtain ⟨-, -, hr, he⟩ := h.drains hc
  exact ⟨h.wantsWrite_addWrite, h.wantsRead_addWrite.trans hr, he⟩

lemma WfLocal.completed (h : a.WfLocal) (hc : a.closing = false) {q : IOVector} {e : Bool}
    (hq : q.Wf) (hdone : q.bytes = [] ∨ e = true) :
    WfLocal { a.delWrite with packetQueue := q, hasWriteError := e } := by
  refine h.rebuild hq (by simp) ?_ ?_ (by simp [hc])
  · intro hne _ he
    rcases hdone with hd | hd
    · exact absurd hd hne
    · simp [hd] at he
  · intro hw
    rw [h.wantsWrite_delWrite] at hw
    cases hw

end ASocket

end Adb
