import Adb.CloseTheorems
import Adb.TraceTheorems

/-!
# The functions of `sockets.cpp` are sequences of steps

Writing out and filling the queue of a local socket, the ready functions, and the making of
sockets. As in `CloseTheorems`, each function is shown to return, on a whole socket graph,
with a state that the steps of `Eff` lead to.
-/

namespace Adb

open Lib List Store

/-- The ways in which a request for a connection can stop the process; `big` says whether the
destination is too long. -/
def Halt.Refused (big : Prop) (h : Halt) : Prop :=
  h.Excused ∨ h = .fatal .destinationOversized ∧ big

/-- After this result of `adb_writev` some of the `n` bytes are left, and can be written. -/
def WriteResult.leaves (n : ℕ) : WriteResult → Bool
  | .wrote k => 0 < k && k < n
  | .eagain => true
  | .failed => false

lemma ASocket.Drained.not_read {s : Ptr} {a a' : ASocket} {obs : List Obs}
    (h : a.Drained s a' obs) (p : Ptr) (data : Bytes) : .read p data ∉ obs := by
  rcases h.written with ⟨rfl, -⟩ | ⟨data, rfl, -⟩ | ⟨rfl, -⟩
  · simp
  · simp
  · simp

namespace Sockets

open ASocket

variable {P : Rules} {ts : Store ATransport} {σ τ : Sockets} {L : List Ptr} {s r : Ptr}
  {a b a' : ASocket} {f : FdEvent}

/-! ## Writing to the fd -/

inductive Flushed (s : Ptr) (a : ASocket) (q : IOVector) (σ : Sockets) :
    SocketFlushResult × Sockets → Prop
  | kept {res : SocketFlushResult} {a' : ASocket} {os : Os} {obs : List Obs}
      (hos : os.reads = σ.os.reads) (hres : res ≠ .destroyed)
      (hcompleted : res = .completed → a.closing = false ∧ Done s a' obs)
      (hagain : res = .tryAgain → a'.queued ≠ [] ∧ obs ≠ [.writeFailed s])
      (hleft : a.closing = true → (σ.os.writes.headD .eagain).leaves q.size = true)
      (hd : { a with packetQueue := q }.Drained s a' obs) :
      Flushed s a q σ (res, ({ σ with os := os }.emits obs).write s a')
  | finished {os : Os} {o : Obs} {left : Bytes} (hc : a.closing = true)
      (ho : o = .wrote s q.bytes ∧ left = [] ∨ o = .writeFailed s ∧ left = q.bytes) :
      Flushed s a q σ (.destroyed, (({ σ with os := os }.emit o).remove s).emit (.destroyed s left))

private lemma flushIncomingDone_closing (hs : σ.heap.get s = some a) (hc : a.closing = true)
    (hclose : a.close = .localSocketClose) (hpeer : a.peer = none) (hf : ∃ f, a.fde = some f ∧ f.Wf)
    (hp : PendingRight s a σ) (ht : s ∉ σ.deviceTrackerList) :
    Sat (flushIncomingDone ts s σ)
      (· = (.destroyed, (σ.remove s).emit (.destroyed s a.queued))) Halt.Excused := by
  have hd : a.disposable = true := by simp [ASocket.disposable, hc]
  unfold flushIncomingDone socketClose closeFn
  simp only [deref_eq hs, ok_bind, hc, if_true, hclose,
    localSocketClose_of_peer_none hs hpeer, localSocketLeave, hd,
    localSocketDestroy_eq hs hf hp ht]
  cases a.exitOnClose with
  | true => exact .inl rfl
  | false => rfl

private lemma flushIncomingDone_open (hs : σ.heap.get s = some a) (hc : a.closing = false)
    (hf : ∃ f, a.fde = some f ∧ f.Wf) (hp : PendingRight s a σ) :
    flushIncomingDone ts s σ = .ok (.completed, σ.write s a.delWrite) := by
  unfold flushIncomingDone
  simp [deref_eq hs, hc, fdeventDel_eq hs hf hp]

private lemma adbWritev_eq (σ : Sockets) :
    ∃ os, σ.adbWritev = (σ.os.writes.headD .eagain, { σ with os := os }) ∧
      os.reads = σ.os.reads := by
  unfold adbWritev
  cases σ.os.writes with
  | nil => exact ⟨σ.os, rfl, rfl⟩
  | cons w ws => exact ⟨_, rfl, rfl⟩

/-- The state in the middle of `local_socket_flush_incoming`: the queue and the error flag of
`s` have been changed, its interest has not. -/
private def flushing (s : Ptr) (a : ASocket) (q : IOVector) (e : Bool) (os : Os) (obs : List Obs)
    (σ : Sockets) : Sockets :=
  ({ σ with os := os }.put s { a with packetQueue := q, hasWriteError := e }).emits obs

private lemma get_flushing (hs : σ.heap.get s = some a) (q : IOVector) (e : Bool) (os : Os)
    (obs : List Obs) : (flushing s a q e os obs σ).heap.get s =
      some { a with packetQueue := q, hasWriteError := e } := get_set_self hs _

private lemma flushing_write (a' : ASocket) (q : IOVector) (e : Bool) (os : Os) (obs : List Obs) :
    (flushing s a q e os obs σ).write s a' = ({ σ with os := os }.emits obs).write s a' := by
  simp [flushing, put, write, emits]

private lemma flushing_remove (q : IOVector) (e : Bool) (os : Os) (o : Obs) :
    (flushing s a q e os [o] σ).remove s = ({ σ with os := os }.emit o).remove s := by
  simp [flushing, put, remove, emits, Sockets.emit]

private lemma pendingRight_flushing (h : Inv L σ) (hs : σ.heap.get s = some a) (q : IOVector)
    (e : Bool) (os : Os) (obs : List Obs) :
    PendingRight s { a with packetQueue := q, hasWriteError := e } (flushing s a q e os obs σ) :=
  fun hp => h.not_pending hs hp

variable {q q' : IOVector}

private lemma flushed_open (h : Inv [] σ) (hs : σ.heap.get s = some a) (hl : a.isLocal = true)
    (hc : a.closing = false) {e : Bool} (hq' : q'.Wf) {os : Os}
    (hos : os.reads = σ.os.reads) {obs : List Obs}
    (hdone : q'.bytes = [] ∨ e = true ∧ obs = [.writeFailed s])
    (hwritten : obs = [] ∧ q'.bytes = q.bytes ∨
      (∃ data, obs = [.wrote s data] ∧ data ++ q'.bytes = q.bytes) ∨
      obs = [.writeFailed s] ∧ q'.bytes = q.bytes) :
    Sat (flushIncomingDone ts s (flushing s a q' e os obs σ)) (Flushed s a q σ) Halt.Excused := by
  have hw := h.local_wf hs hl
  rw [flushIncomingDone_open (get_flushing hs q' e os obs) hc hw.fde
    (pendingRight_flushing h hs q' e os obs)]
  have hd : { a with packetQueue := q }.Drained s
      { a.delWrite with packetQueue := q', hasWriteError := e } obs :=
    { enqueue := rfl
      id := rfl
      closing := rfl
      wf := wf_of_local (hw.completed hc hq' (hdone.imp_right And.left)) hl
      peer := rfl
      transport := rfl
      wantsRead := hw.wantsRead_delWrite
      asked := fun ha => hw.asked_setInterest (g := (·.diff Events.FDE_WRITE)) ha
      pending := pending_of_setInterest (g := (·.diff Events.FDE_WRITE))
      written := hwritten
      done := ⟨fun _ => hdone.imp_right And.right, fun _ => hw.wantsWrite_delWrite⟩ }
  rw [flushing_write]
  exact .kept hos (by simp) (fun _ => ⟨hc, hdone.imp_right And.right⟩) (by simp)
    (fun hc' => by rw [hc] at hc'; cases hc') hd

private lemma flushed_closing (h : Inv [] σ) (hs : σ.heap.get s = some a) (hl : a.isLocal = true)
    (hc : a.closing = true) (e : Bool) (os : Os) {o : Obs}
    (ho : o = .wrote s q.bytes ∧ q'.bytes = [] ∨ o = .writeFailed s ∧ q'.bytes = q.bytes) :
    Sat (flushIncomingDone ts s (flushing s a q' e os [o] σ)) (Flushed s a q σ) Halt.Excused := by
  have hw := h.local_wf hs hl
  have hclose : a.close = .localSocketClose := by
    rcases hw.hooks with ⟨-, hclose⟩ | ⟨-, -, -, hnot⟩
    · exact hclose
    · rw [hc] at hnot
      cases hnot
  refine (flushIncomingDone_closing (get_flushing hs q' e os [o]) hc hclose (hw.drains hc).1
    hw.fde (pendingRight_flushing h hs q' e os [o])
    (h.not_tracker hs (isTracker_of_isLocal hl))).imp fun x hx => ?_
  rw [hx, flushing_remove]
  exact .finished hc ho

private lemma flushed_tryAgain (h : Inv [] σ) (hs : σ.heap.get s = some a)
    (hl : a.isLocal = true) (hq' : q'.Wf) (hne : q'.bytes ≠ []) {os : Os}
    (hos : os.reads = σ.os.reads)
    (hleft : (σ.os.writes.headD .eagain).leaves q.size = true) {obs : List Obs}
    (hwritten : obs = [] ∧ q'.bytes = q.bytes ∨
      ∃ data, obs = [.wrote s data] ∧ data ++ q'.bytes = q.bytes) :
    Sat (do
        let σ ← fdeventAdd s Events.FDE_WRITE (flushing s a q' a.hasWriteError os obs σ)
        pure (.tryAgain, σ)) (Flushed s a q σ) Halt.Excused := by
  have hw := h.local_wf hs hl
  rw [fdeventAdd_eq (get_flushing hs q' a.hasWriteError os obs) hw.fde
    (pendingRight_flushing h hs q' a.hasWriteError os obs), ok_bind]
  have hobs : obs ≠ [.writeFailed s] := by rcases hwritten with ⟨rfl, -⟩ | ⟨data, rfl, -⟩ <;> simp
  have hwants : ASocket.wantsWrite { a.addWrite with packetQueue := q' } = true :=
    hw.wantsWrite_addWrite
  have hd : { a with packetQueue := q }.Drained s { a.addWrite with packetQueue := q' } obs :=
    { enqueue := rfl
      id := rfl
      closing := rfl
      wf := wf_of_local (hw.tryAgain hq' hne) hl
      peer := rfl
      transport := rfl
      wantsRead := hw.wantsRead_addWrite
      asked := fun ha => hw.asked_setInterest (g := (·.union Events.FDE_WRITE)) ha
      pending := pending_of_setInterest (g := (·.union Events.FDE_WRITE))
      written := hwritten.imp_right .inl
      done := by
        rw [hwants]
        refine ⟨nofun, ?_⟩
        rintro (hnil | hfailed)
        · exact absurd hnil hne
        · exact absurd hfailed hobs }
  rw [flushing_write]
  exact .kept hos (by simp) (by simp) (fun _ => ⟨hne, hobs⟩) (fun _ => hleft) hd

lemma localSocketFlushIncoming_spec (ts : Store ATransport) (h : Inv [] σ)
    (hs : σ.heap.get s = some a) (hl : a.isLocal = true) (hq : q.Wf)
    (hclosing : a.closing = true → q.bytes ≠ []) :
    Sat (localSocketFlushIncoming ts s (σ.put s { a with packetQueue := q })) (Flushed s a q σ)
      Halt.Excused := by
  have hs' : (σ.put s { a with packetQueue := q }).heap.get s = some { a with packetQueue := q } :=
    get_set_self hs _
  unfold localSocketFlushIncoming
  rw [deref_eq hs', ok_bind]
  by_cases hempty : q.empty = true
  · -- there is nothing to write, and so the socket is not closing
    have hnil : q.bytes = [] := hq.empty_iff.mp hempty
    have hc : a.closing = false := by
      by_contra hc
      exact hclosing (by simpa using hc) hnil
    rw [if_pos hempty]
    have hstate : σ.put s { a with packetQueue := q } =
        flushing s a q a.hasWriteError σ.os [] σ := by simp [flushing, emits]
    rw [hstate]
    exact flushed_open h hs hl hc hq rfl (.inl hnil) (.inl ⟨rfl, rfl⟩)
  · have hne : q.bytes ≠ [] := hq.empty_eq_false_iff.mp (by simpa using hempty)
    obtain ⟨pieces, hpieces, -⟩ := IOVector.iovecs_spec hq
    obtain ⟨os, hrc, hos⟩ := adbWritev_eq (σ.put s { a with packetQueue := q })
    have hw : (σ.put s { a with packetQueue := q }).os.writes = σ.os.writes := rfl
    rw [if_neg hempty]
    simp only [hpieces, ok_bind, hrc, hw]
    have hfail : Sat (flushIncomingDone ts s (({ σ.put s { a with packetQueue := q } with
        os := os }.put s { a with packetQueue := q, hasWriteError := true }).emit
          (.writeFailed s))) (Flushed s a q σ) Halt.Excused := by
      have hstate : ({ σ.put s { a with packetQueue := q } with os := os }.put s
          { a with packetQueue := q, hasWriteError := true }).emit (.writeFailed s) =
          flushing s a q true os [.writeFailed s] σ := by
        simp [flushing, emits, put, Sockets.emit]
      rw [hstate]
      cases hc : a.closing with
      | true => exact flushed_closing h hs hl hc true os (.inr ⟨rfl, rfl⟩)
      | false => exact flushed_open h hs hl hc hq hos (.inr ⟨rfl, rfl⟩) (.inr (.inr ⟨rfl, rfl⟩))
    cases hresult : σ.os.writes.headD .eagain with
    | failed => exact hfail
    | eagain =>
      have hstate : ({ σ.put s { a with packetQueue := q } with os := os } : Sockets) =
          flushing s a q a.hasWriteError os [] σ := by simp [flushing, emits, put]
      simp only [hstate]
      exact flushed_tryAgain h hs hl hq hne hos (by rw [hresult]; rfl) (.inl ⟨rfl, rfl⟩)
    | wrote n =>
      by_cases hzero : min n q.size = 0
      · simp only [hzero, if_true]
        exact hfail
      simp only [hzero, if_false]
      by_cases hall : min n q.size = q.size
      · -- everything went out
        have hwrote : q.bytes.take q.size = q.bytes := by rw [hq.size_eq_length, take_length]
        have hstate : (({ σ.put s { a with packetQueue := q } with os := os } : Sockets).emit
            (.wrote s q.bytes)).put s { a with packetQueue := q.clear } =
            flushing s a {} a.hasWriteError os [.wrote s q.bytes] σ := by
          simp [flushing, emits, put, Sockets.emit, IOVector.clear]
        simp only [hall, if_true, hwrote, hstate]
        cases hc : a.closing with
        | true => exact flushed_closing h hs hl hc _ os (.inl ⟨rfl, rfl⟩)
        | false =>
          exact flushed_open h hs hl hc IOVector.wf_empty hos (.inl rfl)
            (.inr (.inl ⟨q.bytes, rfl, List.append_nil _⟩))
      · -- a part of the queue went out
        obtain ⟨head, q', htake, hq', hrest⟩ :=
          IOVector.takeFront_spec hq (Nat.pos_of_ne_zero hzero) (Nat.min_le_right n q.size)
        have hleft : q'.bytes ≠ [] := by
          rw [hrest, Ne, drop_eq_nil_iff, ← hq.size_eq_length]
          omega
        have hstate : (({ σ.put s { a with packetQueue := q } with os := os } : Sockets).emit
            (.wrote s (q.bytes.take (min n q.size)))).put s { a with packetQueue := q' } =
            flushing s a q' a.hasWriteError os [.wrote s (q.bytes.take (min n q.size))] σ := by
          simp [flushing, emits, put, Sockets.emit]
        simp only [hall, if_false, htake, ok_bind, hstate]
        refine flushed_tryAgain h hs hl hq' hleft hos ?_ (.inr ⟨_, rfl, ?_⟩)
        · simp only [hresult, WriteResult.leaves, Bool.and_eq_true, decide_eq_true_eq]
          omega
        · rw [hrest, take_append_drop]

lemma localSocketFlushIncoming_flushed (h : Inv [] σ) (hs : σ.heap.get s = some a)
    (hl : a.isLocal = true) :
    Sat (localSocketFlushIncoming ts s σ) (Flushed s a a.packetQueue σ) Halt.Excused := by
  have hw := h.local_wf hs hl
  have hput : σ.put s { a with packetQueue := a.packetQueue } = σ := by rw [put, set_get hs]
  have hspec := localSocketFlushIncoming_spec ts h hs hl hw.queue
    fun hc => hw.wanted (hw.drains hc).2.1
  rwa [hput] at hspec

lemma Flushed.effs {x : SocketFlushResult × Sockets} (hx : Flushed s a a.packetQueue σ x)
    (hs : σ.heap.get s = some a) (hl : a.isLocal = true) (hw : a.wantsWrite = true)
    (hpeer : x.1 = .completed →
      ∃ r b, a.peer = some r ∧ σ.heap.get r = some b ∧ b.isRemote = false) :
    Effs P [] σ x.2 := by
  cases hx with
  | @kept res a' os obs hos hres hcompleted hagain hleft hd =>
    refine (Effs.single (.os os)).tail (.drain hs hl hw hd ?_)
    cases res with
    | destroyed => exact absurd rfl hres
    | tryAgain => exact .inl (hagain rfl)
    | completed => exact .inr (hpeer rfl)
  | @finished os o left hc ho => exact (Effs.single (.os os)).tail (.finish o left hs hl hc ho)

/-! ## Filling the queue -/

inductive Enqueued (s : Ptr) (a : ASocket) (data : Bytes) (σ : Sockets) : Int × Sockets → Prop
  | intro {rc : Int} {q : IOVector} {a' : ASocket} {os : Os} {obs : List Obs}
      (hos : os.reads = σ.os.reads)
      (hrc : rc = 0 ∧ Done s a' obs ∨ rc = 1 ∧ ¬ Done s a' obs) (hq : q.bytes = a.queued ++ data)
      (hd : { a with packetQueue := q }.Drained s a' obs) :
      Enqueued s a data σ (rc, (({ σ with os := os }.emit (.enqueued s data)).emits obs).write s a')

variable {data : Bytes}

lemma localSocketEnqueue_spec (h : Inv [] σ) (hs : σ.heap.get s = some a) (hl : a.isLocal = true)
    (hc : a.closing = false) (hdata : data ≠ []) :
    Sat (localSocketEnqueue ts s data σ) (Enqueued s a data σ) Halt.Excused := by
  obtain ⟨q, happend, hq, hbytes⟩ := IOVector.append_spec (h.local_wf hs hl).queue hdata
  unfold localSocketEnqueue
  rw [deref_eq hs, ok_bind, happend]
  refine (localSocketFlushIncoming_spec ts (h.emit (.enqueued s data)) hs hl hq
    fun hc' => by rw [hc] at hc'; cases hc').bind ?_
  rintro ⟨res, τ⟩ hx
  cases hx with
  | finished hc' => rw [hc] at hc'; cases hc'
  | @kept _ a' os obs hos hres hcompleted hagain hleft hd =>
    cases res with
    | destroyed => exact absurd rfl hres
    | tryAgain =>
      obtain ⟨hne, hobs⟩ := hagain rfl
      exact .intro hos (.inr ⟨rfl, fun hdone => hdone.elim hne hobs⟩) hbytes hd
    | completed => exact .intro hos (.inl ⟨rfl, (hcompleted rfl).2⟩) hbytes hd

variable {x : Int × Sockets}

lemma Enqueued.steady (hx : Enqueued s a data σ x)
    (hs : σ.heap.get s = some a) : ∃ a', x.2.heap.get s = some a' ∧ a.Steady a' := by
  cases hx with
  | @intro rc q a' os obs hos hrc hq hd => exact ⟨a', get_set_self hs a', { hd with }⟩

lemma Enqueued.get_of_ne (hx : Enqueued s a data σ x)
    {p : Ptr} (hp : p ≠ s) : x.2.heap.get p = σ.heap.get p := by
  cases hx with
  | @intro rc q a' os obs hos hrc hq hd => exact get_set_of_ne _ hp a'

def Unread (σ τ : Sockets) : Prop :=
  ∃ obs, τ.trace = σ.trace ++ obs ∧ ∀ p data, .read p data ∉ obs

lemma Unread.of_trace_eq (h : τ.trace = σ.trace) : Unread σ τ := ⟨[], by simp [h], by simp⟩

lemma Unread.trans {ρ : Sockets} (h : Unread σ τ) (h' : Unread τ ρ) : Unread σ ρ := by
  obtain ⟨obs, htrace, hobs⟩ := h
  obtain ⟨obs', htrace', hobs'⟩ := h'
  refine ⟨obs ++ obs', by rw [htrace', htrace, append_assoc], fun p data hmem => ?_⟩
  rcases mem_append.mp hmem with hmem | hmem
  · exact hobs p data hmem
  · exact hobs' p data hmem

lemma Enqueued.unread (hx : Enqueued s a data σ x) : Unread σ x.2 := by
  cases hx with
  | @intro rc q a' os obs hos hrc hq hd =>
    refine ⟨.enqueued s data :: obs, by simp, fun p data hmem => ?_⟩
    exact hd.not_read p data (by simpa using hmem)

lemma Enqueued.effs (hx : Enqueued s a data σ x)
    (hs : σ.heap.get s = some a) (hl : a.isLocal = true) (hpeer : a.peer = some r)
    (hr : σ.heap.get r = some b) (hb : b.isLocal = true ∨ b.isTracker = true) :
    Effs P [] σ x.2 := by
  cases hx with
  | @intro rc q a' os obs hos hrc hq hd =>
    exact (Effs.single (.os os)).tail (.enqueue hs hl hpeer hr hb hq hd)

lemma Enqueued.deliver (hx : Enqueued s a data σ x) (hs : σ.heap.get s = some a)
    (hl : a.isLocal = true) (hpeer : a.peer = some r) (hr : σ.heap.get r = some b)
    (hb : b.isRemote = true) {t : TPtr} {p : APacket} (hp : IsPacket p A_OKAY a.id b.id) :
    Effs P [.deliver s t data] σ (if x.1 = 0 then x.2.emit (.sent t p) else x.2) := by
  cases hx with
  | @intro rc q a' os obs hos hrc hq hd =>
    rcases hrc with ⟨rfl, hdone⟩ | ⟨rfl, hnot⟩
    · have hanswer : Answer s a' obs b.id t [.sent t p] := .now hdone (by rw [hd.id]; exact hp)
      exact (Effs.single (.os os)).tail (.deliver hs hl hpeer hr hb hq hd hanswer)
    have hstep := (Effs.single (P := P) (.os os)).tail
      (.deliver hs hl hpeer hr hb hq hd (t := t) (.later hnot))
    rw [emits_nil] at hstep
    exact hstep

lemma Enqueued.inject (hx : Enqueued s a data σ x)
    (hs : σ.heap.get s = some a) (hl : a.isLocal = true) (hpeer : a.peer = some r)
    (hr : σ.heap.get r = some b) (hb : b.isLocal = true) : Effs P [.inject s] σ x.2 := by
  cases hx with
  | @intro rc q a' os obs hos hrc hq hd =>
    exact (Effs.single (.os os)).tail (.inject hs hl hpeer hr hb hq hd)

/-! ## The ready functions -/

lemma localSocketReady_eq (hs : σ.heap.get s = some a) (hf : ∃ f, a.fde = some f ∧ f.Wf)
    (hp : PendingRight s a σ) : localSocketReady s σ = .ok (σ.write s a.addRead) :=
  fdeventAdd_eq hs hf hp

def readyStatus (s : Ptr) (a : ASocket) : List Obs :=
  if a.ready = .localSocketReadyNotify then [.status s true []] else []

lemma readyStatus_cases (s : Ptr) (a : ASocket) :
    readyStatus s a = [] ∨ readyStatus s a = [.status s true []] := by
  unfold readyStatus
  split
  · exact .inr rfl
  · exact .inl rfl

lemma socketReady_local (listing : Bool → Bytes) (hs : σ.heap.get s = some a)
    (hf : ∃ f, a.fde = some f ∧ f.Wf) (hshut : a.shutdown = none)
    (hhooks : a.ready = .localSocketReady ∧ a.close = .localSocketClose ∨ a.ready = .localSocketReadyNotify ∧ a.close = .localSocketCloseNotify)
    (hp : PendingRight s a σ) :
    socketReady ts listing s σ = .ok ((σ.emits (readyStatus s a)).write s a.plain.addRead) := by
  unfold socketReady
  rw [deref_eq hs, ok_bind]
  rcases hhooks with ⟨hr, hc⟩ | ⟨hr, -⟩
  · have hplain : a.plain = a := by
      cases a
      simp only at hr hc hshut
      simp [ASocket.plain, hr, hc, hshut]
    rw [localSocketReady_eq hs hf hp, hplain]
    simp [readyStatus, hr, emits]
  · simp only [hr, localSocketReadyNotify, deref_eq hs, ok_bind]
    have hs' : ((σ.put s a.plain).emit (.status s true [])).heap.get s = some a.plain :=
      get_set_self hs _
    have hp' : PendingRight s a.plain ((σ.put s a.plain).emit (.status s true [])) := hp
    refine (localSocketReady_eq hs' hf hp').trans ?_
    simp [readyStatus, hr, emits, write, put, Sockets.emit]

lemma remoteSocketReady_spec (h : Inv [] σ) (hs : σ.heap.get s = some a) (hpeer : a.peer = some r)
    (hr : σ.heap.get r = some b) (hb : b.isRemote = true) :
    Sat (remoteSocketReady ts r σ)
      (fun τ => ∃ t p, b.transport = some t ∧ IsPacket p A_OKAY a.id b.id ∧
        τ = σ.emit (.sent t p)) (· = .dangling) := by
  have hbs := h.peer_of_peer hs hpeer hr
  obtain ⟨t, ht⟩ := h.remote_transport hr hb
  unfold remoteSocketReady
  rw [deref_eq hr, ok_bind, hbs]
  simp only [nonNull, pure_eq_ok, ok_bind, deref_eq hs, ht]
  refine (sendPacket_spec ts _ t σ).imp ?_
  rintro τ ⟨tr, -, rfl⟩
  exact ⟨t, _, rfl, ⟨rfl, rfl, rfl⟩, rfl⟩

structure PeerReadied (s r : Ptr) (a b : ASocket) (σ τ : Sockets) : Prop where
  reads : τ.os.reads = σ.os.reads
  socket : ∃ a', τ.heap.get s = some a' ∧ a.Steady a'
  peer : ∃ b', τ.heap.get r = some b' ∧ b'.enqueue = b.enqueue ∧ b'.transport = b.transport
  unread : Unread σ τ

/-! ## Device trackers -/

lemma hex4_ne_nil (n : ℕ) : hex4 n ≠ [] := by
  intro h
  have hlen := congrArg List.length h
  simp [hex4] at hlen

lemma deviceTrackerSend_spec (ts : Store ATransport) (text : Bytes) (h : Inv [] σ)
    (hs : σ.heap.get s = some a) (ht : a.isTracker = true) :
    ∃ c e, a.peer = some c ∧ σ.heap.get c = some e ∧ e.isLocal = true ∧ e.peer = some s ∧
      Sat (deviceTrackerSend ts s text σ) (Enqueued c e (trackerFrame text) σ) Halt.Excused := by
  have hl : a.isLocal = false := by
    rw [ASocket.isTracker, beq_iff_eq] at ht
    simp [ASocket.isLocal, ht]
  obtain ⟨c, hc⟩ := Option.ne_none_iff_exists'.mp (h.owned s a hs (by simp) hl)
  obtain ⟨-, -, e, he, hep, hor⟩ := h.paired s a c hs (by simp) hc
  have hel : e.isLocal = true := hor.resolve_left (by simp [hl])
  have hkind : e.enqueue = .localSocketEnqueue := by simpa [ASocket.isLocal] using hel
  refine ⟨c, e, hc, he, hel, hep, ?_⟩
  unfold deviceTrackerSend
  rw [deref_eq hs, ok_bind, hc]
  simp only [nonNull, pure_eq_ok, ok_bind, deref_eq he, hkind]
  exact localSocketEnqueue_spec h he hel (h.not_closing_of_peer he hep)
    (by simp [trackerFrame, hex4_ne_nil])

lemma deviceTrackerSend_effs (text : Bytes) (h : Inv [] σ) (hs : σ.heap.get s = some a)
    (ht : a.isTracker = true) :
    Sat (deviceTrackerSend ts s text σ)
      (fun x => Effs P [] σ x.2 ∧ x.2.deviceTrackerList = σ.deviceTrackerList)
      Halt.Excused := by
  obtain ⟨c, e, -, he, hel, hep, hspec⟩ := deviceTrackerSend_spec ts text h hs ht
  refine hspec.imp fun x hx => ⟨hx.effs he hel hep hs (.inr ht), ?_⟩
  cases hx with
  | intro => rfl

lemma deviceTrackerReady_effs (listing : Bool → Bytes) (h : Inv [] σ) (hs : σ.heap.get s = some a)
    (hl : a.isLocal = true) (hpeer : a.peer = some r) (hr : σ.heap.get r = some b)
    (ht : b.isTracker = true) :
    Sat (deviceTrackerReady ts listing r σ)
      (fun τ => Effs P [] σ τ ∧ PeerReadied s r a b σ τ) Halt.Excused := by
  unfold deviceTrackerReady
  rw [deref_eq hr, ok_bind]
  by_cases hup : b.updateNeeded = true
  · have hw : Wf { b with updateNeeded := false } := by
      have hw := h.wf r b hr
      rw [ASocket.isTracker, beq_iff_eq] at ht
      unfold Wf at hw ⊢
      simp only [ht] at hw ⊢
      exact ⟨⟨hw.1.1, hw.1.2⟩, hw.2⟩
    have hsr : s ≠ r := (h.paired s a r hs (by simp) hpeer).2.1.symm
    have hput : σ.put r { b with updateNeeded := false } =
        σ.write r { b with updateNeeded := false } := put_eq_write (h.pendingRight hr) rfl
    have hstep : Effs P [] σ (σ.write r { b with updateNeeded := false }) :=
      .single (.touch hr hw
        { enqueue := rfl, id := rfl, closing := rfl, peer := rfl, transport := rfl,
          wantsRead := rfl, asked := id, queued := rfl, wantsWrite := rfl, pending := id })
    have hr' : (σ.write r { b with updateNeeded := false }).heap.get r =
        some { b with updateNeeded := false } := get_set_self hr _
    have hs' : (σ.write r { b with updateNeeded := false }).heap.get s = some a :=
      (get_set_of_ne _ hsr _).trans hs
    obtain ⟨c, e, hc, he, hel, hep, hspec⟩ :=
      deviceTrackerSend_spec ts (listing b.longOutput) (hstep.inv h) hr' ht
    -- the client of the tracker is the socket that called it
    obtain rfl : c = s := by
      have hbs := h.peer_of_peer hs hpeer hr
      rw [show b.peer = some c from hc] at hbs
      exact Option.some.inj hbs
    rw [hs'] at he
    cases he
    simp only [hup, if_true, hput]
    refine hspec.bind fun x hx => ?_
    refine ⟨hstep.trans (hx.effs hs' hl hep hr' (.inr ht)), ?_, hx.steady hs',
      ⟨_, (hx.get_of_ne hsr.symm).trans hr', rfl, rfl⟩,
      (Unread.of_trace_eq (by simp)).trans hx.unread⟩
    cases hx with
    | intro hos => exact hos
  · rw [if_neg hup]
    exact ⟨.refl, rfl, ⟨a, hs, ⟨⟨rfl, rfl, rfl⟩, rfl, rfl, rfl, id⟩⟩, ⟨b, hr, rfl, rfl⟩,
      .of_trace_eq rfl⟩

lemma socketReady_remote (listing : Bool → Bytes) (h : Inv [] σ) (hr : σ.heap.get r = some b)
    (hb : b.isRemote = true) : socketReady ts listing r σ = remoteSocketReady ts r σ := by
  have hw := h.wf r b hr
  have he : b.enqueue = .remoteSocketEnqueue := by simpa [ASocket.isRemote] using hb
  unfold Wf at hw
  rw [he] at hw
  unfold socketReady
  rw [deref_eq hr, ok_bind, hw.2.1]

lemma peerReady_effs (listing : Bool → Bytes) (h : Inv [] σ) (hs : σ.heap.get s = some a)
    (hl : a.isLocal = true) (hpeer : a.peer = some r) (hr : σ.heap.get r = some b)
    (hb : b.isRemote = false) :
    Sat (socketReady ts listing r σ)
      (fun τ => Effs P [] σ τ ∧ PeerReadied s r a b σ τ) Halt.Excused := by
  have hsteady : a.Steady a := ⟨⟨rfl, rfl, rfl⟩, rfl, rfl, rfl, id⟩
  have hbs := h.peer_of_peer hs hpeer hr
  have hw := h.wf r b hr
  cases he : b.enqueue with
  | localSocketEnqueue =>
    have hbl : b.isLocal = true := by simp [ASocket.isLocal, he]
    have har : a.isRemote = false := by
      rw [ASocket.isLocal, beq_iff_eq] at hl
      simp [ASocket.isRemote, hl]
    have hwl := hw.local hbl
    have hsr : s ≠ r := (h.paired s a r hs (by simp) hpeer).2.1.symm
    unfold socketReady
    rw [deref_eq hr, ok_bind]
    simp only [(hwl.plain_of_peer hbs).1]
    rw [localSocketReady_eq hr hwl.fde (h.pendingRight hr)]
    refine ⟨.single (.wake hr hbl hbs hs har), rfl, ⟨a, ?_, hsteady⟩, ⟨b.addRead, ?_, rfl, rfl⟩,
      .of_trace_eq (by simp)⟩
    · exact (get_set_of_ne _ hsr _).trans hs
    · rw [get_write hr, if_pos rfl]
  | remoteSocketEnqueue => simp [ASocket.isRemote, he] at hb
  | smartSocketEnqueue =>
    have hready : b.ready = .smartSocketReady := by
      unfold Wf at hw
      rw [he] at hw
      exact hw.2.1
    unfold socketReady
    rw [deref_eq hr, ok_bind]
    simp only [hready]
    exact ⟨.refl, rfl, ⟨a, hs, hsteady⟩, ⟨b, hr, rfl, rfl⟩, .of_trace_eq rfl⟩
  | deviceTrackerEnqueue =>
    have hready : b.ready = .deviceTrackerReady := by
      unfold Wf at hw
      rw [he] at hw
      exact hw.2.1
    unfold socketReady
    rw [deref_eq hr, ok_bind]
    simp only [hready]
    exact deviceTrackerReady_effs listing h hs hl hpeer hr (by simp [ASocket.isTracker, he])

/-! ## Making sockets -/

lemma createLocalSocket_eq (hid : σ.localSocketNextId + 1 ≠ 0) :
    createLocalSocket σ = .ok (σ.heap.next, σ.create) := by
  unfold createLocalSocket installLocalSocket
  simp only [deref, get_alloc_self, pure_eq_ok, ok_bind, put, hid, if_false, set_alloc, emit_heap]
  simp [create, addLocal, newLocal, Sockets.emit]

lemma createLocalSocket_overflow (hid : σ.localSocketNextId + 1 = 0) :
    createLocalSocket σ = .error (.fatal .socketIdOverflow) := by
  unfold createLocalSocket installLocalSocket
  simp [deref, hid]

lemma createRemoteSocket_eq {id : UInt32} (hid : id ≠ 0) (t : TPtr) (σ : Sockets) :
    createRemoteSocket id t σ = .ok (σ.heap.next, σ.addBare (newRemote id t)) := by
  unfold createRemoteSocket
  rw [if_neg hid]
  rfl

lemma createSmartSocket_eq (σ : Sockets) :
    createSmartSocket σ = (σ.heap.next, σ.addBare newSmart) := rfl

lemma putPeers_eq (hps : PendingRight s a σ) (hpr : PendingRight r b σ) :
    (σ.put s { a with peer := some r }).put r { b with peer := some s } = σ.link s r a b := by
  have hput : σ.put s { a with peer := some r } = σ.write s { a with peer := some r } :=
    put_eq_write hps rfl
  have hpr' : PendingRight r b (σ.write s { a with peer := some r }) := by
    intro hb hm
    refine hpr hb ?_
    unfold write at hm
    split at hm
    · exact hm
    · exact (mem_filter.mp hm).1
  rw [hput]
  exact put_eq_write hpr' rfl

lemma connectPeers_eq (hs : σ.heap.get s = some a) (hr : σ.heap.get r = some b) (hne : r ≠ s)
    (hps : PendingRight s a σ) (hpr : PendingRight r b σ) :
    connectPeers s r σ = .ok (σ.link s r a b) := by
  have hr' : (σ.put s { a with peer := some r }).heap.get r = some b :=
    (get_set_of_ne _ hne _).trans hr
  unfold connectPeers
  rw [deref_eq hs]
  simp [deref_eq hr', putPeers_eq hps hpr]

lemma connectToRemote_spec (destination : Bytes) (hs : σ.heap.get s = some a)
    (hpeer : a.peer = none) {t : TPtr} (ht : a.transport = some t) :
    Sat (connectToRemote ts s destination σ)
      (fun τ => ∃ p tr, IsPacket p A_OPEN a.id 0 ∧ p.payload = destination ++ [0] ∧
        p.msg.dataLength = .ofNat (destination.length + 1) ∧ ts.get t = some tr ∧
        p.msg.dataLength.toNat ≤ min maxPayload tr.maxPayload ∧
        τ = σ.emits [.sent t p, .opened s a.id])
      (Halt.Refused (∃ tr, ts.get t = some tr ∧
        min maxPayload tr.maxPayload < (UInt32.ofNat (destination.length + 1)).toNat)) := by
  unfold connectToRemote getMaxPayload getMaxPayload.limit
  rw [deref_eq hs, ok_bind, ht, hpeer]
  cases htr : ts.get t with
  | none =>
    simp only [htr, throw_eq_error, error_bind]
    exact Or.inl (Or.inr rfl)
  | some tr =>
    simp only [htr, pure_eq_ok, ok_bind]
    refine .ite (fun hover => Or.inr ⟨rfl, tr, rfl, by simpa using hover⟩) fun hfits => ?_
    refine ((sendPacket_spec ts _ t σ).mono (fun _ h => h) fun e he => .inl (.inr he)).bind ?_
    rintro τ ⟨tr', -, rfl⟩
    have htrace : ∀ p, (σ.emit (.sent t p)).emit (.opened s a.id) =
        σ.emits [.sent t p, .opened s a.id] := fun p => by simp [emits, Sockets.emit]
    refine ⟨_, tr, ⟨rfl, rfl, rfl⟩, rfl, ?_, rfl, Nat.not_lt.mp hfits, htrace _⟩
    simp [sealPacket]

end Sockets

end Adb
