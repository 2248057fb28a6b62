import Adb.FdEventTheorems
import Adb.IoVectorTheorems
import Adb.Sockets

/-!
# The socket graph

What holds of the sockets between two calls: every socket is well formed (`Wf`), and the sockets
fit together (`Inv`): peers point at each other, a socket that is not local belongs to a local one,
the lists hold the sockets they are for, and the ids of local sockets are distinct. While the source
rearranges sockets, `Inv L` says that all but those of `L` fit.
-/

namespace Adb

open Lib List Store

namespace ASocket

def isLocal (a : ASocket) : Bool := a.enqueue == .localSocketEnqueue

def isRemote (a : ASocket) : Bool := a.enqueue == .remoteSocketEnqueue

def isTracker (a : ASocket) : Bool := a.enqueue == .deviceTrackerEnqueue

def pending (a : ASocket) : Bool := a.fde.any (·.pending)

def wantsRead (a : ASocket) : Bool := a.fde.any (·.state.read)

def wantsWrite (a : ASocket) : Bool := a.fde.any (·.state.write)

/-- The bytes in `s->packet_queue`. -/
def queued (a : ASocket) : Bytes := a.packetQueue.bytes

/-- A socket made by `create_local_socket`. The notify hooks are only installed on a socket
that waits for its connection. -/
structure WfLocal (a : ASocket) : Prop where
  fde : ∃ f, a.fde = some f ∧ f.Wf
  shutdown : a.shutdown = none
  hooks : a.ready = .localSocketReady ∧ a.close = .localSocketClose ∨
    a.ready = .localSocketReadyNotify ∧ a.close = .localSocketCloseNotify ∧ a.peer = none ∧
      a.closing = false
  queue : a.packetQueue.Wf
  id : a.id ≠ 0
  /-- what is queued is waiting for the fd to become writable -/
  waits : a.queued ≠ [] → a.closing = false → a.hasWriteError = false → a.wantsWrite = true
  /-- the fd is only watched when there is something to write -/
  wanted : a.wantsWrite = true → a.queued ≠ []
  /-- a closing socket only lives to drain its queue -/
  drains : a.closing = true →
    a.peer = none ∧ a.wantsWrite = true ∧ a.wantsRead = false ∧ a.hasWriteError = false

structure WfBare (a : ASocket) : Prop where
  fde : a.fde = none
  closing : a.closing = false

/-- Every kind of socket has its own functions. -/
def Wf (a : ASocket) : Prop :=
  match a.enqueue with
  | .localSocketEnqueue => a.WfLocal
  | .remoteSocketEnqueue => a.WfBare ∧ a.ready = .remoteSocketReady ∧
      a.shutdown = some .remoteSocketShutdown ∧ a.close = .remoteSocketClose ∧
      a.transport ≠ none ∧ a.id ≠ 0
  | .smartSocketEnqueue => a.WfBare ∧ a.ready = .smartSocketReady ∧ a.shutdown = none ∧
      a.close = .smartSocketClose ∧ a.id = 0
  | .deviceTrackerEnqueue => a.WfBare ∧ a.ready = .deviceTrackerReady ∧ a.shutdown = none ∧
      a.close = .deviceTrackerClose ∧ a.id = 0 ∧ a.transport = none

variable {a : ASocket}

lemma Wf.local (h : a.Wf) (hl : a.isLocal = true) : a.WfLocal := by
  unfold Wf at h
  simp only [isLocal, beq_iff_eq] at hl
  rwa [hl] at h

lemma Wf.bare (h : a.Wf) (hl : a.isLocal = false) : a.WfBare := by
  unfold Wf at h
  revert h hl
  cases he : a.enqueue with
  | localSocketEnqueue => simp [isLocal, he]
  | remoteSocketEnqueue => exact fun h _ => h.1
  | smartSocketEnqueue => exact fun h _ => h.1
  | deviceTrackerEnqueue => exact fun h _ => h.1

lemma WfBare.pending (h : a.WfBare) : a.pending = false := by
  simp [ASocket.pending, h.fde]

/-- The two records agree on what ties a socket to the others. -/
structure SameShape (a b : ASocket) : Prop where
  enqueue : b.enqueue = a.enqueue
  id : b.id = a.id
  closing : b.closing = a.closing

lemma SameShape.isLocal {b : ASocket} (h : SameShape a b) : b.isLocal = a.isLocal := by
  simp [ASocket.isLocal, h.enqueue]

lemma SameShape.isTracker {b : ASocket} (h : SameShape a b) : b.isTracker = a.isTracker := by
  simp [ASocket.isTracker, h.enqueue]

end ASocket

namespace Sockets

/-- A local socket without a peer that is not closing has asked the other side to open a
stream and waits for the answer. -/
def Connecting (a : ASocket) : Prop :=
  a.queued = [] ∧ a.wantsRead = false ∧ a.transport ≠ none

structure Inv (L : List Ptr) (σ : Sockets) : Prop where
  wf : ∀ p a, σ.heap.get p = some a → a.Wf
  paired : ∀ p a r, σ.heap.get p = some a → p ∉ L → a.peer = some r →
    r ∉ L ∧ r ≠ p ∧ ∃ b, σ.heap.get r = some b ∧ b.peer = some p ∧
      (a.isLocal = true ∨ b.isLocal = true)
  owned : ∀ p a, σ.heap.get p = some a → p ∉ L → a.isLocal = false → a.peer ≠ none
  connecting : ∀ p a, σ.heap.get p = some a → p ∉ L → a.isLocal = true → a.peer = none →
    a.closing = false → Connecting a
  /-- nothing is queued for the client of a smart socket -/
  idle : ∀ p a r b, σ.heap.get p = some a → p ∉ L → a.isLocal = true → a.peer = some r →
    σ.heap.get r = some b → b.enqueue = .smartSocketEnqueue → a.queued = []
  listed : ∀ p, p ∈ σ.localSocketList ↔
    ∃ a, σ.heap.get p = some a ∧ a.isLocal = true ∧ a.closing = false
  nodup : σ.localSocketList.Nodup
  closingListed : ∀ p, p ∈ σ.localSocketClosingList ↔
    ∃ a, σ.heap.get p = some a ∧ a.isLocal = true ∧ a.closing = true
  closingNodup : σ.localSocketClosingList.Nodup
  pending : ∀ p, p ∈ σ.gPendingList ↔ ∃ a, σ.heap.get p = some a ∧ a.pending = true
  pendingNodup : σ.gPendingList.Nodup
  trackers : ∀ p, p ∈ σ.deviceTrackerList ↔ ∃ a, σ.heap.get p = some a ∧ a.isTracker = true
  trackersNodup : σ.deviceTrackerList.Nodup
  ids : ∀ p a, σ.heap.get p = some a → a.isLocal = true → a.id < σ.localSocketNextId
  idsInj : ∀ p q a b, σ.heap.get p = some a → σ.heap.get q = some b → a.isLocal = true →
    b.isLocal = true → a.id = b.id → p = q
  nextId : σ.localSocketNextId ≠ 0

lemma inv_empty : Inv [] {} where
  wf := by simp
  paired := by simp
  owned := by simp
  connecting := by simp
  idle := by simp
  listed := by simp
  nodup := nodup_nil
  closingListed := by simp
  closingNodup := nodup_nil
  pending := by simp
  pendingNodup := nodup_nil
  trackers := by simp
  trackersNodup := nodup_nil
  ids := by simp
  idsInj := by simp
  nextId := by decide

variable {σ : Sockets} {L : List Ptr} {s r p : Ptr} {a b a' : ASocket}

/-- The record `a'` can stand in the place of `a` in the socket graph of `σ`. -/
structure Fits (σ : Sockets) (a a' : ASocket) : Prop where
  peer : a'.peer = a.peer
  connecting : a.isLocal = true → a.peer = none → a.closing = false → Connecting a'
  idle : ∀ r b, a.isLocal = true → a.peer = some r → σ.heap.get r = some b →
    b.enqueue = .smartSocketEnqueue → a'.queued = []

/-! ## Moves

The record of a socket is written with `write`, which takes a socket that is no longer
pending off `g_pending_list`; `remove` takes a socket off all lists and deletes it. -/

def write (s : Ptr) (a : ASocket) (σ : Sockets) : Sockets :=
  { σ with
    heap := σ.heap.set s a
    gPendingList := if a.pending then σ.gPendingList else σ.gPendingList.filter (· ≠ s) }

def remove (s : Ptr) (σ : Sockets) : Sockets :=
  { σ with
    heap := σ.heap.free s
    localSocketList := σ.localSocketList.filter (· ≠ s)
    localSocketClosingList := σ.localSocketClosingList.filter (· ≠ s)
    gPendingList := σ.gPendingList.filter (· ≠ s)
    deviceTrackerList := σ.deviceTrackerList.filter (· ≠ s) }

def moveToClosing (s : Ptr) (σ : Sockets) : Sockets :=
  { σ with
    localSocketList := σ.localSocketList.filter (· ≠ s)
    localSocketClosingList := σ.localSocketClosingList.filter (· ≠ s) ++ [s] }

def addBare (a : ASocket) (σ : Sockets) : Sockets :=
  { σ with
    heap := σ.heap.alloc a
    deviceTrackerList :=
      if a.isTracker then σ.heap.next :: σ.deviceTrackerList else σ.deviceTrackerList }

def addLocal (a : ASocket) (σ : Sockets) : Sockets :=
  { σ with
    heap := σ.heap.alloc a
    localSocketNextId := σ.localSocketNextId + 1
    localSocketList := σ.localSocketList ++ [σ.heap.next] }

@[simp] lemma emit_heap {o : Obs} : (σ.emit o).heap = σ.heap := rfl

@[simp] lemma write_trace : (σ.write s a).trace = σ.trace := rfl

@[simp] lemma remove_trace : (σ.remove s).trace = σ.trace := rfl

@[simp] lemma emit_trace {o : Obs} : (σ.emit o).trace = σ.trace ++ [o] := rfl

lemma get_set (hs : σ.heap.get s = some a) (p : Ptr) (a' : ASocket) :
    (σ.heap.set s a').get p = if p = s then some a' else σ.heap.get p := by
  by_cases hp : p = s
  · subst hp
    simp [get_set_self hs]
  · simp [hp]

lemma get_write (hs : σ.heap.get s = some a) (p : Ptr) (a' : ASocket) :
    (σ.write s a').heap.get p = if p = s then some a' else σ.heap.get p := get_set hs p a'

lemma get_remove (σ : Sockets) (s p : Ptr) :
    (σ.remove s).heap.get p = if p = s then none else σ.heap.get p := rfl

namespace Inv

lemma emit (h : Inv L σ) (o : Obs) : Inv L (σ.emit o) := { h with }

/-! ### Facts about one socket -/

lemma local_wf (h : Inv L σ) (hs : σ.heap.get s = some a) (hl : a.isLocal = true) : a.WfLocal :=
  (h.wf s a hs).local hl

lemma mem_list (h : Inv L σ) (hm : s ∈ σ.localSocketList) :
    ∃ a, σ.heap.get s = some a ∧ a.isLocal = true ∧ a.closing = false := (h.listed s).mp hm

variable {P : ASocket → Prop}

lemma mem_iff {l : List Ptr}
    (h : ∀ p, p ∈ l ↔ ∃ b, σ.heap.get p = some b ∧ P b) (hs : σ.heap.get s = some a) :
    s ∈ l ↔ P a := by
  rw [h, hs]
  simp

lemma next_not_mem {l : List Ptr}
    (h : ∀ p, p ∈ l ↔ ∃ b, σ.heap.get p = some b ∧ P b) : σ.heap.next ∉ l := by
  rw [h]
  simp

lemma not_pending (h : Inv L σ) (hs : σ.heap.get s = some a) (hp : a.pending = false) :
    s ∉ σ.gPendingList := by
  rw [mem_iff h.pending hs, hp]
  simp

lemma not_listed (h : Inv L σ) (hs : σ.heap.get s = some a) (hl : a.isLocal = false) :
    s ∉ σ.localSocketList ∧ s ∉ σ.localSocketClosingList := by
  rw [mem_iff h.listed hs, mem_iff h.closingListed hs, hl]
  simp

lemma not_tracker (h : Inv L σ) (hs : σ.heap.get s = some a) (ht : a.isTracker = false) :
    s ∉ σ.deviceTrackerList := by
  rw [mem_iff h.trackers hs, ht]
  simp

end Inv

/-! ### Changing one socket -/

/-- The list `l'` has the elements of `l`, except that `s` is on it if `c`. -/
structure Relisted (s : Ptr) (c : Prop) (l l' : List Ptr) : Prop where
  nodup : l'.Nodup
  mem : ∀ p, p ∈ l' ↔ if p = s then c else p ∈ l

namespace Relisted

variable {c : Prop} {l : List Ptr}

lemma same (h : l.Nodup) (hc : s ∈ l ↔ c) : Relisted s c l l := by
  refine ⟨h, fun p => ?_⟩
  by_cases hp : p = s
  · simp [hp, hc]
  · simp [hp]

lemma out (h : l.Nodup) (hc : ¬ c) : Relisted s c l (l.filter (· ≠ s)) := by
  refine ⟨h.filter _, fun p => ?_⟩
  by_cases hp : p = s
  · simp [hp, hc]
  · simp [hp]

lemma into (h : l.Nodup) (hs : s ∉ l) (hc : c) : Relisted s c l (l ++ [s]) := by
  refine ⟨List.Nodup.append h (nodup_singleton s) (by simpa using hs), fun p => ?_⟩
  by_cases hp : p = s
  · simp [hp, hc]
  · simp [hp]

lemma front (h : l.Nodup) (hs : s ∉ l) (hc : c) : Relisted s c l (s :: l) := by
  refine ⟨nodup_cons.mpr ⟨hs, h⟩, fun p => ?_⟩
  by_cases hp : p = s
  · simp [hp, hc]
  · simp [hp]

lemma moved (h : l.Nodup) (hc : c) : Relisted s c l (l.filter (· ≠ s) ++ [s]) := by
  have hout : Relisted s False l (l.filter (· ≠ s)) := out h not_false
  have hin := into (s := s) hout.nodup (by simp) hc
  refine ⟨hin.nodup, fun p => ?_⟩
  rw [hin.mem]
  by_cases hp : p = s
  · simp [hp]
  · simp [hp]

end Relisted

variable {τ : Sockets} {M : List Ptr} {x : Option ASocket}

/-- The socket at `s` is replaced by `x`, on the heap and on the lists. -/
structure Change (s : Ptr) (x : Option ASocket) (σ τ : Sockets) : Prop where
  get : ∀ p, τ.heap.get p = if p = s then x else σ.heap.get p
  wf : ∀ a, x = some a → a.Wf
  listed : Relisted s (∃ a, x = some a ∧ a.isLocal = true ∧ a.closing = false) σ.localSocketList
    τ.localSocketList
  closing : Relisted s (∃ a, x = some a ∧ a.isLocal = true ∧ a.closing = true)
    σ.localSocketClosingList τ.localSocketClosingList
  pending : Relisted s (∃ a, x = some a ∧ a.pending = true) σ.gPendingList τ.gPendingList
  trackers : Relisted s (∃ a, x = some a ∧ a.isTracker = true) σ.deviceTrackerList
    τ.deviceTrackerList
  ids : ∀ a, x = some a → a.isLocal = true → a.id < τ.localSocketNextId ∧
    ∀ q b, q ≠ s → σ.heap.get q = some b → b.isLocal = true → b.id ≠ a.id
  nextId : τ.localSocketNextId ≠ 0
  bound : ∀ n < σ.localSocketNextId, n < τ.localSocketNextId

lemma isTracker_of_isLocal (h : a.isLocal = true) : a.isTracker = false := by
  simp only [ASocket.isLocal, beq_iff_eq] at h
  simp [ASocket.isTracker, h]

namespace Change

variable (hc : Change s x σ τ)
include hc

lemma cases (hb : τ.heap.get p = some b) : p = s ∧ x = some b ∨ p ≠ s ∧ σ.heap.get p = some b := by
  rw [hc.get] at hb
  split at hb
  · next hp => exact .inl ⟨hp, hb⟩
  · next hp => exact .inr ⟨hp, hb⟩

private lemma mem_iff {P : ASocket → Prop} {l l' : List Ptr}
    (h : ∀ p, p ∈ l ↔ ∃ a, σ.heap.get p = some a ∧ P a)
    (hl : Relisted s (∃ a, x = some a ∧ P a) l l') (p : Ptr) :
    p ∈ l' ↔ ∃ a, τ.heap.get p = some a ∧ P a := by
  rw [hl.mem, hc.get]
  by_cases hp : p = s
  · simp [hp]
  · simp [hp, h p]

lemma inv (h : Inv L σ)
    (hpaired : ∀ p a r, τ.heap.get p = some a → p ∉ M → a.peer = some r →
      r ∉ M ∧ r ≠ p ∧ ∃ b, τ.heap.get r = some b ∧ b.peer = some p ∧
        (a.isLocal = true ∨ b.isLocal = true))
    (howned : ∀ p a, τ.heap.get p = some a → p ∉ M → a.isLocal = false → a.peer ≠ none)
    (hconnecting : ∀ p a, τ.heap.get p = some a → p ∉ M → a.isLocal = true → a.peer = none →
      a.closing = false → Connecting a)
    (hidle : ∀ p a r b, τ.heap.get p = some a → p ∉ M → a.isLocal = true → a.peer = some r →
      τ.heap.get r = some b → b.enqueue = .smartSocketEnqueue → a.queued = []) : Inv M τ where
  wf p b hb := by
    rcases hc.cases hb with ⟨-, hx⟩ | ⟨-, hb⟩
    · exact hc.wf b hx
    · exact h.wf p b hb
  paired := hpaired
  owned := howned
  connecting := hconnecting
  idle := hidle
  listed := hc.mem_iff h.listed hc.listed
  nodup := hc.listed.nodup
  closingListed := hc.mem_iff h.closingListed hc.closing
  closingNodup := hc.closing.nodup
  pending := hc.mem_iff h.pending hc.pending
  pendingNodup := hc.pending.nodup
  trackers := hc.mem_iff h.trackers hc.trackers
  trackersNodup := hc.trackers.nodup
  ids p b hb hl := by
    rcases hc.cases hb with ⟨-, hx⟩ | ⟨-, hb⟩
    · exact (hc.ids b hx hl).1
    · exact hc.bound _ (h.ids p b hb hl)
  idsInj p q b c hb hc' hlb hlc hid := by
    rcases hc.cases hb with ⟨hp, hx⟩ | ⟨hp, hb⟩
    · rcases hc.cases hc' with ⟨hq, -⟩ | ⟨hq, hc'⟩
      · rw [hp, hq]
      · exact absurd hid.symm ((hc.ids b hx hlb).2 q c hq hc' hlc)
    · rcases hc.cases hc' with ⟨-, hx⟩ | ⟨-, hc'⟩
      · exact absurd hid ((hc.ids c hx hlc).2 p b hp hb hlb)
      · exact h.idsInj p q b c hb hc' hlb hlc hid
  nextId := hc.nextId

/-- A socket that no other points at is changed. If it is not loose afterwards, it is a local one
that is closing or waits for its connection. -/
lemma loose (h : Inv L σ)
    (hnone : ∀ p b, σ.heap.get p = some b → p ∉ L → b.peer ≠ some s)
    (hM : ∀ p, p ∉ M → p ≠ s → p ∉ L) (hsub : ∀ q ∈ M, q ≠ s → q ∈ L)
    (hself : s ∉ M → ∀ a, x = some a →
      a.isLocal = true ∧ a.peer = none ∧ (a.closing = false → Connecting a)) : Inv M τ := by
  refine hc.inv h ?_ ?_ ?_ ?_
  · intro p b q hb hp hq
    rcases hc.cases hb with ⟨rfl, hx⟩ | ⟨hps, hb⟩
    · rw [(hself hp b hx).2.1] at hq
      cases hq
    obtain ⟨hqL, hqp, c, hc', hrest⟩ := h.paired p b q hb (hM p hp hps) hq
    have hqs : q ≠ s := fun he => hnone p b hb (hM p hp hps) (he ▸ hq)
    exact ⟨fun hm => hqL (hsub q hm hqs), hqp, c, by rw [hc.get, if_neg hqs]; exact hc', hrest⟩
  · intro p b hb hp hl
    rcases hc.cases hb with ⟨rfl, hx⟩ | ⟨hps, hb⟩
    · rw [(hself hp b hx).1] at hl
      cases hl
    · exact h.owned p b hb (hM p hp hps) hl
  · intro p b hb hp hl hpeer hopen
    rcases hc.cases hb with ⟨rfl, hx⟩ | ⟨hps, hb⟩
    · exact (hself hp b hx).2.2 hopen
    · exact h.connecting p b hb (hM p hp hps) hl hpeer hopen
  · intro p b q c hb hp hl hq hc' he
    rcases hc.cases hb with ⟨rfl, hx⟩ | ⟨hps, hb⟩
    · rw [(hself hp b hx).2.1] at hq
      cases hq
    rcases hc.cases hc' with ⟨rfl, -⟩ | ⟨-, hc'⟩
    · exact absurd hq (hnone p b hb (hM p hp hps))
    · exact h.idle p b q c hb (hM p hp hps) hl hq hc' he

end Change

namespace Inv

lemma not_peer (h : Inv L σ) (hsL : s ∈ L) (p : Ptr) (b : ASocket) (hb : σ.heap.get p = some b)
    (hp : p ∉ L) : b.peer ≠ some s := fun hq => (h.paired p b s hb hp hq).1 hsL

lemma next_not_peer (h : Inv L σ) (p : Ptr) (b : ASocket) (hb : σ.heap.get p = some b)
    (hp : p ∉ L) : b.peer ≠ some σ.heap.next := by
  intro hq
  obtain ⟨-, -, c, hc, -⟩ := h.paired p b _ hb hp hq
  simp at hc

private lemma changed (h : Inv L σ) (hs : σ.heap.get s = some a) (hw : a'.Wf)
    (henq : a'.enqueue = a.enqueue) (hid : a'.id = a.id) {list closing pend : List Ptr}
    (hlist : Relisted s (a'.isLocal = true ∧ a'.closing = false) σ.localSocketList list)
    (hclosing : Relisted s (a'.isLocal = true ∧ a'.closing = true) σ.localSocketClosingList closing)
    (hpend : Relisted s (a'.pending = true) σ.gPendingList pend) :
    Change s (some a') σ { σ with
      heap := σ.heap.set s a', localSocketList := list, localSocketClosingList := closing,
      gPendingList := pend } where
  get p := get_set hs p a'
  wf b hb := by
    cases hb
    exact hw
  listed := by simpa using hlist
  closing := by simpa using hclosing
  pending := by simpa using hpend
  trackers := .same h.trackersNodup (by
    rw [mem_iff h.trackers hs]
    simp [ASocket.isTracker, henq])
  ids b hb hl := by
    cases hb
    have hla : a.isLocal = true := by simpa [ASocket.isLocal, henq] using hl
    rw [hid]
    exact ⟨h.ids s a hs hla, fun q b hq hb hlb he => hq (h.idsInj q s b a hb hs hlb hla he)⟩
  nextId := h.nextId
  bound _ hn := hn

private lemma relisted_pending (h : Inv L σ) (hs : σ.heap.get s = some a)
    (hpend : a'.pending = true → a.pending = true) :
    Relisted s (a'.pending = true) σ.gPendingList
      (if a'.pending then σ.gPendingList else σ.gPendingList.filter (· ≠ s)) := by
  cases ha : a'.pending with
  | true => exact .same h.pendingNodup (by simpa [mem_iff h.pending hs] using hpend ha)
  | false => exact .out h.pendingNodup (by simp)

/-! ### Writing a record -/

/-- A record that keeps its shape can be written when the list of pending fdevents is made to
agree with it. A socket that is not loose keeps its peer. -/
private lemma setRecord (h : Inv L σ) (hs : σ.heap.get s = some a) (hw : a'.Wf)
    (hsh : ASocket.SameShape a a') (hfit : s ∉ L → Fits σ a a') {pend : List Ptr}
    (hpend : Relisted s (a'.pending = true) σ.gPendingList pend) :
    Inv L { σ with heap := σ.heap.set s a', gPendingList := pend } := by
  have hc := h.changed hs hw hsh.enqueue hsh.id
    (.same h.nodup (by rw [mem_iff h.listed hs, hsh.isLocal, hsh.closing]))
    (.same h.closingNodup (by rw [mem_iff h.closingListed hs, hsh.isLocal, hsh.closing])) hpend
  -- whichever socket was written, its kind and its peer are the old ones
  have hold : ∀ {p b}, (σ.heap.set s a').get p = some b → ∃ b0, σ.heap.get p = some b0 ∧
      b.enqueue = b0.enqueue ∧ b.isLocal = b0.isLocal ∧ (p ∉ L → b.peer = b0.peer) := by
    intro p b hb
    rcases hc.cases hb with ⟨rfl, hx⟩ | ⟨-, hb⟩
    · cases hx
      exact ⟨a, hs, hsh.enqueue, hsh.isLocal, fun hp => (hfit hp).peer⟩
    · exact ⟨b, hb, rfl, rfl, fun _ => rfl⟩
  refine hc.inv h ?_ ?_ ?_ ?_
  · intro p b r hb hpL hpeer
    obtain ⟨b0, hb0, -, hloc, hpeer0⟩ := hold hb
    rw [hpeer0 hpL] at hpeer
    obtain ⟨hrL, hrp, c, hcr, hcp, hcl⟩ := h.paired p b0 r hb0 hpL hpeer
    refine ⟨hrL, hrp, ?_⟩
    rw [hc.get, hloc]
    by_cases hrs : r = s
    · subst hrs
      cases hs.symm.trans hcr
      exact ⟨a', by simp, by rw [(hfit hrL).peer]; exact hcp, by rw [hsh.isLocal]; exact hcl⟩
    · exact ⟨c, by simp [hrs, hcr], hcp, hcl⟩
  · intro p b hb hpL hl
    obtain ⟨b0, hb0, -, hloc, hpeer0⟩ := hold hb
    rw [hpeer0 hpL]
    exact h.owned p b0 hb0 hpL (hloc.symm.trans hl)
  · intro p b hb hpL hl hpeer hopen
    rcases hc.cases hb with ⟨rfl, hx⟩ | ⟨-, hb⟩
    · cases hx
      rw [hsh.isLocal] at hl
      rw [(hfit hpL).peer] at hpeer
      rw [hsh.closing] at hopen
      exact (hfit hpL).connecting hl hpeer hopen
    · exact h.connecting p b hb hpL hl hpeer hopen
  · intro p b q c hb hpL hl hpeer hcq he
    obtain ⟨c0, hc0, henq, -⟩ := hold hcq
    rw [henq] at he
    rcases hc.cases hb with ⟨rfl, hx⟩ | ⟨-, hb⟩
    · cases hx
      rw [(hfit hpL).peer] at hpeer
      exact (hfit hpL).idle q c0 (by rw [← hsh.isLocal]; exact hl) hpeer hc0 he
    · exact h.idle p b q c0 hb hpL hl hpeer hc0 he

lemma write (h : Inv L σ) (hs : σ.heap.get s = some a) (hw : a'.Wf)
    (hsh : ASocket.SameShape a a') (hpend : a'.pending = true → a.pending = true)
    (hfit : s ∉ L → Fits σ a a') : Inv L (σ.write s a') :=
  h.setRecord hs hw hsh hfit (h.relisted_pending hs hpend)

lemma arm (h : Inv L σ) (hs : σ.heap.get s = some a) (hw : a'.Wf) (hsh : ASocket.SameShape a a')
    (hfit : s ∉ L → Fits σ a a') (hold : a.pending = false) (hnew : a'.pending = true) :
    Inv L { σ with heap := σ.heap.set s a', gPendingList := σ.gPendingList ++ [s] } :=
  h.setRecord hs hw hsh hfit (.into h.pendingNodup (h.not_pending hs hold) hnew)

/-! ### Loosening and fitting -/

lemma weaken (h : Inv L σ) (hsub : ∀ p ∈ L, p ∈ M)
    (hpairs : ∀ p b q, σ.heap.get p = some b → p ∉ L → b.peer = some q → q ∈ M → p ∈ M) : Inv M σ :=
  { h with
    paired := fun p b q hb hp hq => by
      have hpL : p ∉ L := fun hm => hp (hsub p hm)
      obtain ⟨-, hqp, hc⟩ := h.paired p b q hb hpL hq
      exact ⟨fun hm => hp (hpairs p b q hb hpL hq hm), hqp, hc⟩
    owned := fun p b hb hp => h.owned p b hb fun hm => hp (hsub p hm)
    connecting := fun p b hb hp => h.connecting p b hb fun hm => hp (hsub p hm)
    idle := fun p b q c hb hp => h.idle p b q c hb fun hm => hp (hsub p hm) }

lemma loosen_pair (h : Inv [] σ) (hs : σ.heap.get s = some a) (hpeer : a.peer = some r) :
    Inv [s, r] σ := by
  refine h.weaken (by simp) fun p b q hb _ hq hm => ?_
  obtain ⟨-, -, c, hc, hcp, -⟩ := h.paired p b q hb (by simp) hq
  obtain ⟨-, -, d, hd, hdp, -⟩ := h.paired s a r hs (by simp) hpeer
  rcases mem_cons.mp hm with rfl | hm
  · rw [hs] at hc
    cases hc
    rw [hpeer] at hcp
    cases hcp
    simp
  · obtain rfl := mem_singleton.mp hm
    rw [hd] at hc
    cases hc
    rw [hdp] at hcp
    cases hcp
    simp

lemma loosen (h : Inv [] σ) (hs : σ.heap.get s = some a) (hpeer : a.peer = none) : Inv [s] σ := by
  refine h.weaken (by simp) fun p b q hb _ hq hm => ?_
  obtain rfl := mem_singleton.mp hm
  obtain ⟨-, -, c, hc, hcp, -⟩ := h.paired p b q hb (by simp) hq
  rw [hs] at hc
  cases hc
  rw [hpeer] at hcp
  cases hcp

lemma join (h : Inv L σ) (hs : σ.heap.get s = some a) (hr : σ.heap.get r = some b)
    (hsr : a.peer = some r) (hrs : b.peer = some s) (hne : r ≠ s) (hl : a.isLocal = true)
    (hidle : b.enqueue = .smartSocketEnqueue → a.queued = []) (hL : ∀ q ∈ L, q = s ∨ q = r ∨ q ∈ M)
    (hsub : ∀ q ∈ M, q ∈ L) (hsL : s ∉ M) (hrL : r ∉ M) : Inv M σ :=
  have hnot : ∀ p, p ∉ M → p ≠ s → p ≠ r → p ∉ L := fun p hp hps hpr hm =>
    (hL p hm).elim hps fun hm => hm.elim hpr hp
  -- the two sockets have a peer, so the other clauses do not speak about them
  have hpeer : ∀ p c, σ.heap.get p = some c → c.peer = none → p ≠ s ∧ p ≠ r := by
    intro p c hc hnone
    constructor
    · rintro rfl
      rw [hs] at hc
      cases hc
      simp [hsr] at hnone
    · rintro rfl
      rw [hr] at hc
      cases hc
      simp [hrs] at hnone
  { h with
    paired := fun p c q hc hp hq => by
      by_cases hps : p = s
      · subst hps
        rw [hs] at hc
        cases hc
        rw [hsr] at hq
        cases hq
        exact ⟨hrL, hne, b, hr, hrs, .inl hl⟩
      · by_cases hpr : p = r
        · subst hpr
          rw [hr] at hc
          cases hc
          rw [hrs] at hq
          cases hq
          exact ⟨hsL, hne.symm, a, hs, hsr, .inr hl⟩
        · obtain ⟨hqL, hrest⟩ := h.paired p c q hc (hnot p hp hps hpr) hq
          exact ⟨fun hm => hqL (hsub q hm), hrest⟩
    owned := fun p c hc hp hlc hnone => by
      obtain ⟨hps, hpr⟩ := hpeer p c hc hnone
      exact h.owned p c hc (hnot p hp hps hpr) hlc hnone
    connecting := fun p c hc hp hlc hnone => by
      obtain ⟨hps, hpr⟩ := hpeer p c hc hnone
      exact h.connecting p c hc (hnot p hp hps hpr) hlc hnone
    idle := fun p c q d hc hp hlc hq hd he => by
      by_cases hps : p = s
      · subst hps
        rw [hs] at hc
        cases hc
        rw [hsr] at hq
        cases hq
        rw [hr] at hd
        cases hd
        exact hidle he
      · by_cases hpr : p = r
        · subst hpr
          rw [hr] at hc
          cases hc
          rw [hrs] at hq
          cases hq
          rw [hs] at hd
          cases hd
          simp [ASocket.isLocal, he] at hl
        · exact h.idle p c q d hc (hnot p hp hps hpr) hlc hq hd he }

lemma settle (h : Inv L σ) (hs : σ.heap.get s = some a) (hl : a.isLocal = true)
    (hpeer : a.peer = none) (hc : Connecting a) (hL : ∀ q ∈ L, q = s ∨ q ∈ M)
    (hsub : ∀ q ∈ M, q ∈ L) : Inv M σ := by
  by_cases hsL : s ∈ L
  · have hsame := h.changed hs (h.wf s a hs) rfl rfl (.same h.nodup (mem_iff h.listed hs))
      (.same h.closingNodup (mem_iff h.closingListed hs))
      (.same h.pendingNodup (mem_iff h.pending hs))
    rw [set_get hs] at hsame
    refine hsame.loose h (h.not_peer hsL) (fun p hp hps hm => (hL p hm).elim hps hp)
      (fun q hq _ => hsub q hq) fun _ b hb => ?_
    cases hb
    exact ⟨hl, hpeer, fun _ => hc⟩
  · -- it was not loose
    refine h.weaken (fun p hp => (hL p hp).resolve_left fun he => hsL (he ▸ hp)) ?_
    intro p b q hb hp hq hm
    exact absurd (hsub q hm) (h.paired p b q hb hp hq).1

/-! ### Deleting and retiring -/

lemma remove (h : Inv L σ) (hsL : s ∈ L) (hL : ∀ q ∈ L, q = s ∨ q ∈ M)
    (hsub : ∀ q ∈ M, q ∈ L) : Inv M (σ.remove s) := by
  have hc : Change s none σ (σ.remove s) :=
    { get := get_remove σ s
      wf := by simp
      listed := .out h.nodup (by simp)
      closing := .out h.closingNodup (by simp)
      pending := .out h.pendingNodup (by simp)
      trackers := .out h.trackersNodup (by simp)
      ids := by simp
      nextId := h.nextId
      bound := fun _ hn => hn }
  exact hc.loose h (h.not_peer hsL) (fun p hp hps hm => (hL p hm).elim hps hp)
    (fun q hq _ => hsub q hq) (by simp)

lemma retire (h : Inv L σ) (hs : σ.heap.get s = some a) (hsL : s ∈ L)
    (hl : a.isLocal = true) (hw : a'.Wf) (henq : a'.enqueue = a.enqueue) (hid : a'.id = a.id)
    (hc : a'.closing = true) (hpend : a'.pending = true → a.pending = true)
    (hL : ∀ q ∈ L, q = s ∨ q ∈ M) (hsub : ∀ q ∈ M, q ∈ L) :
    Inv M ((σ.write s a').moveToClosing s) := by
  have hl' : a'.isLocal = true := by simpa [ASocket.isLocal, henq] using hl
  have hchange := h.changed hs hw henq hid (.out h.nodup (by simp [hc]))
    (.moved h.closingNodup ⟨hl', hc⟩) (h.relisted_pending hs hpend)
  refine hchange.loose h (h.not_peer hsL) (fun p hp hps hm => (hL p hm).elim hps hp)
    (fun q hq _ => hsub q hq) fun _ b hb => ?_
  cases hb
  exact ⟨hl', ((hw.local hl').drains hc).1, by simp [hc]⟩

/-! ### Making sockets -/

lemma add (h : Inv L σ) (hc : Change σ.heap.next x σ τ) : Inv (σ.heap.next :: L) τ := by
  refine hc.loose h h.next_not_peer (fun p hp _ hm => ?_) (fun q hq hne => ?_) fun hnot => ?_
  · exact hp (mem_cons_of_mem _ hm)
  · exact (mem_cons.mp hq).resolve_left hne
  · exact absurd mem_cons_self hnot

lemma addBare (h : Inv L σ) (hw : a.Wf) (hl : a.isLocal = false) :
    Inv (σ.heap.next :: L) (σ.addBare a) := by
  have hc : Change σ.heap.next (some a) σ (σ.addBare a) :=
    { get := get_alloc σ.heap a
      wf := by simpa using hw
      listed := .same h.nodup (by simp [hl, next_not_mem h.listed])
      closing := .same h.closingNodup (by simp [hl, next_not_mem h.closingListed])
      pending := .same h.pendingNodup (by simp [(hw.bare hl).pending, next_not_mem h.pending])
      trackers := by
        unfold Sockets.addBare
        cases ht : a.isTracker with
        | true => exact .front h.trackersNodup (next_not_mem h.trackers) (by simpa using ht)
        | false => exact .same h.trackersNodup (by simp [ht, next_not_mem h.trackers])
      ids := by simp [hl]
      nextId := h.nextId
      bound := fun _ hn => hn }
  exact h.add hc

private lemma lt_succ {n m : UInt32} (hm : m + 1 ≠ 0) (h : n < m ∨ n = m) : n < m + 1 := by
  have hm' : m.toNat + 1 < 2 ^ 32 := by
    by_contra hge
    have hlt := m.toNat_lt
    apply hm
    apply UInt32.toNat_inj.mp
    rw [UInt32.toNat_add]
    have : m.toNat = 2 ^ 32 - 1 := by omega
    rw [this]
    rfl
  rw [UInt32.lt_iff_toNat_lt, UInt32.toNat_add, Nat.mod_eq_of_lt (by simpa using hm')]
  rcases h with h | rfl
  · rw [UInt32.lt_iff_toNat_lt] at h
    omega
  · simp

lemma addLocal (h : Inv L σ) (hw : a.Wf) (hl : a.isLocal = true) (hc : a.closing = false)
    (hpend : a.pending = false) (hid : a.id = σ.localSocketNextId)
    (hnext : σ.localSocketNextId + 1 ≠ 0) : Inv (σ.heap.next :: L) (σ.addLocal a) := by
  have hchange : Change σ.heap.next (some a) σ (σ.addLocal a) :=
    { get := get_alloc σ.heap a
      wf := by simpa using hw
      listed := .into h.nodup (next_not_mem h.listed) (by simpa using ⟨hl, hc⟩)
      closing := .same h.closingNodup (by simp [hc, next_not_mem h.closingListed])
      pending := .same h.pendingNodup (by simp [hpend, next_not_mem h.pending])
      trackers := .same h.trackersNodup (by simp [isTracker_of_isLocal hl, next_not_mem h.trackers])
      ids := fun b hb _ => by
        cases hb
        refine ⟨lt_succ hnext (.inr hid), fun q c _ hq hlc he => ?_⟩
        -- the id of the new socket is not that of an old one
        have hlt := h.ids q c hq hlc
        rw [he, hid] at hlt
        exact absurd hlt (UInt32.lt_irrefl _)
      nextId := hnext
      bound := fun _ hn => lt_succ hnext (.inl hn) }
  exact h.add hchange

end Inv

end Sockets

end Adb
