import Adb.EffectsTheorems

/-!
# Interest, packets and closing

The functions of `sockets.cpp` that change the interest of a socket, send a packet for it or close
it, in terms of the moves of `SocketsInv` and the steps of `Eff`. They fail to return only when a
socket refers to a deleted transport, or when the socket that is destroyed ends the process.
-/

namespace Adb

open Lib List Store

/-- The ways of stopping that the socket graph does not exclude. -/
def Halt.Excused (h : Halt) : Prop := h = .exit ∨ h = .dangling

namespace Sockets

open ASocket

variable {P : Rules} {ts : Store ATransport} {σ τ : Sockets} {L : List Ptr} {s r : Ptr}
  {a b a' : ASocket} {f : FdEvent}

lemma deref_eq (hs : σ.heap.get s = some a) : σ.deref s = .ok a := by
  rw [deref, hs]
  rfl

lemma filter_ne_eq_self {l : List Ptr} (h : s ∉ l) : l.filter (· ≠ s) = l := by
  rw [filter_eq_self]
  intro x hx
  have hne : x ≠ s := fun hxs => h (hxs ▸ hx)
  simpa using hne

/-! ## Interest -/

def PendingRight (s : Ptr) (a : ASocket) (σ : Sockets) : Prop :=
  a.pending = false → s ∉ σ.gPendingList

lemma Inv.pendingRight (h : Inv L σ) (hs : σ.heap.get s = some a) : PendingRight s a σ :=
  h.not_pending hs

lemma put_eq_write (hp : PendingRight s a σ) (h : a'.pending = a.pending) :
    σ.put s a' = σ.write s a' := by
  unfold put write
  cases ha : a'.pending with
  | true => simp
  | false =>
    simp only [Bool.false_eq_true, if_false]
    rw [filter_ne_eq_self (hp (h ▸ ha))]

lemma write_get (hs : σ.heap.get s = some a) (hp : PendingRight s a σ) : σ.write s a = σ := by
  rw [← put_eq_write hp rfl, put, set_get hs]

private lemma fdeventSet_eq (hs : σ.heap.get s = some a) (hf : a.fde = some f) (hw : f.Wf)
    (hp : PendingRight s a σ) (events : Events) :
    fdeventSet s events σ = .ok (σ.write s { a with fde := some (f.setTo events) }) := by
  unfold fdeventSet
  rw [deref_eq hs]
  simp only [ok_bind, hf, FdEvent.set_eq hw, put, write, ASocket.pending, Option.any_some]
  by_cases hn : (f.setTo events).pending = true
  · simp [hn]
  by_cases ho : f.pending = true
  · simp [hn, ho]
  · have hnot : s ∉ σ.gPendingList := hp (by simpa [ASocket.pending, hf] using ho)
    simpa [hn, ho] using (filter_ne_eq_self hnot).symm

lemma fdeventAdd_eq (hs : σ.heap.get s = some a) (hf : ∃ f, a.fde = some f ∧ f.Wf)
    (hp : PendingRight s a σ) {events : Events} :
    fdeventAdd s events σ = .ok (σ.write s (a.setInterest (·.union events))) := by
  obtain ⟨f, hf, hw⟩ := hf
  unfold fdeventAdd
  rw [deref_eq hs]
  simp only [ok_bind, hf]
  rw [fdeventSet_eq hs hf hw hp]
  simp [setInterest, hf]

lemma fdeventDel_eq (hs : σ.heap.get s = some a) (hf : ∃ f, a.fde = some f ∧ f.Wf)
    (hp : PendingRight s a σ) (events : Events) :
    fdeventDel s events σ = .ok (σ.write s (a.setInterest (·.diff events))) := by
  obtain ⟨f, hf, hw⟩ := hf
  unfold fdeventDel
  rw [deref_eq hs]
  simp only [ok_bind, hf]
  rw [fdeventSet_eq hs hf hw hp]
  simp [setInterest, hf]

/-! ## Packets -/

variable {p : APacket}

lemma sendPacket_some {t : TPtr} :
    sendPacket ts p (some t) σ =
      match ts.get t with
      | none => .error .dangling
      | some tr => .ok (σ.emit (.sent t (sealPacket p tr))) := rfl

variable {tr : ATransport}

@[simp] lemma sealPacket_command : (sealPacket p tr).msg.command = p.msg.command := rfl

@[simp] lemma sealPacket_arg0 : (sealPacket p tr).msg.arg0 = p.msg.arg0 := rfl

@[simp] lemma sealPacket_arg1 : (sealPacket p tr).msg.arg1 = p.msg.arg1 := rfl

@[simp] lemma sealPacket_payload : (sealPacket p tr).payload = p.payload := rfl

@[simp] lemma sealPacket_dataLength : (sealPacket p tr).msg.dataLength = p.msg.dataLength := rfl

lemma sendPacket_spec (ts : Store ATransport) (p : APacket) (t : TPtr) (σ : Sockets) :
    Sat (sendPacket ts p (some t) σ)
      (fun τ => ∃ tr, ts.get t = some tr ∧ τ = σ.emit (.sent t (sealPacket p tr)))
      (· = .dangling) := by
  rw [sendPacket_some]
  cases h : ts.get t with
  | none => simp
  | some tr => simp

/-! ## Closing -/

private lemma fdeventDestroy_eq (hs : σ.heap.get s = some a) (hf : ∃ f, a.fde = some f ∧ f.Wf)
    (hp : PendingRight s a σ) :
    fdeventDestroy s σ = .ok { σ with gPendingList := σ.gPendingList.filter (· ≠ s) } := by
  obtain ⟨f, hf, hw⟩ := hf
  unfold fdeventDestroy
  rw [deref_eq hs]
  simp only [ok_bind, hf, hw.created, if_true]
  by_cases hpend : f.pending = true
  · simp [hpend]
  have hnot : s ∉ σ.gPendingList := hp (by simpa [ASocket.pending, hf] using hpend)
  rw [if_neg hpend, filter_ne_eq_self hnot]
  rfl

lemma localSocketDestroy_eq (hs : σ.heap.get s = some a) (hf : ∃ f, a.fde = some f ∧ f.Wf)
    (hp : PendingRight s a σ) (ht : s ∉ σ.deviceTrackerList) :
    localSocketDestroy s σ = if a.exitOnClose then .error .exit
      else .ok ((σ.remove s).emit (.destroyed s a.queued)) := by
  unfold localSocketDestroy
  rw [deref_eq hs]
  simp only [ok_bind, fdeventDestroy_eq hs hf hp]
  by_cases he : a.exitOnClose = true
  · simp [he]
  · simpa [he, remove, removeSocket, Sockets.emit, queued] using (filter_ne_eq_self ht).symm

structure ListsRight (s : Ptr) (a : ASocket) (σ : Sockets) : Prop where
  pending : PendingRight s a σ
  trackers : a.isTracker = false → s ∉ σ.deviceTrackerList
  lists : a.isLocal = false → s ∉ σ.localSocketList ∧ s ∉ σ.localSocketClosingList

lemma Inv.listsRight (h : Inv L σ) (hs : σ.heap.get s = some a) : ListsRight s a σ :=
  ⟨h.pendingRight hs, h.not_tracker hs, h.not_listed hs⟩

lemma ListsRight.withoutPeer (h : ListsRight s a σ) (c : ASocket) :
    ListsRight s { a with peer := none } (σ.put s c) := ⟨h.pending, h.trackers, h.lists⟩

lemma WfLocal.plain_eq (h : a.WfLocal) (hr : a.ready = .localSocketReady)
    (hc : a.close = .localSocketClose) : a.plain = a := by
  have hs := h.shutdown
  cases a
  simp only [ASocket.plain] at *
  simp [hr, hc, hs]

lemma putOnClosingList_eq (hs : σ.heap.get s = some a) (hw : a.WfLocal)
    (hr : a.ready = .localSocketReady) (hc : a.close = .localSocketClose) (hpeer : a.peer = none)
    (hp : PendingRight s a σ) (hd : a.disposable = false) :
    putOnClosingList s a σ =
      .ok (((σ.write s a.retired).moveToClosing s).emit (.closing s a.queued)) := by
  have hs1 : (σ.put s { a with closing := true }).heap.get s = some { a with closing := true } :=
    get_set_self hs _
  have hrec : ASocket.setInterest { a with closing := true } (·.diff Events.FDE_READ) =
      a.retired := by
    rw [ASocket.retired, WfLocal.plain_eq hw hr hc]
    cases a
    simp only at hpeer
    simp [hpeer, setInterest]
  have hput : (σ.put s { a with closing := true }).write s a.retired = σ.write s a.retired := by
    simp [put, write]
  have hs2 : (σ.heap.set s a.retired).get s = some a.retired := get_set_self hs _
  have hwrite : a.retired.wantsWrite = true := ((hw.retired hd).drains rfl).2.1
  obtain ⟨g, hg, -⟩ := (hw.retired hd).fde
  rw [wantsWrite_of_fde hg] at hwrite
  unfold putOnClosingList
  dsimp only
  rw [fdeventDel_eq hs1 hw.fde hp, hrec, hput]
  simp only [ok_bind, removeSocket, write, deref, hs2, pure_eq_ok, hg, hwrite, check_true]
  rfl

lemma localSocketLeave_spec (hs : σ.heap.get s = some a) (hl : a.isLocal = true)
    (hw : a.WfLocal) (hr : a.ready = .localSocketReady) (hc : a.close = .localSocketClose)
    (hpeer : a.peer = none) (hright : ListsRight s a σ) :
    Sat (localSocketLeave s σ) (· = orphan s a σ) (· = .exit) := by
  unfold localSocketLeave orphan
  rw [deref_eq hs, ok_bind, if_pos hl]
  by_cases hd : a.disposable = true
  · rw [if_pos hd, if_pos hd, localSocketDestroy_eq hs hw.fde hright.pending
      (hright.trackers (isTracker_of_isLocal hl))]
    cases a.exitOnClose with
    | true => simp
    | false => simp
  · rw [if_neg hd, if_neg hd,
      putOnClosingList_eq hs hw hr hc hpeer hright.pending (by simpa using hd)]
    simp

/-! ### What is left of a closed socket does not depend on what was just written to it -/

@[simp] lemma orphan_put : orphan s a (σ.put s a') = orphan s a σ := by
  simp [orphan, put, write, remove, moveToClosing, Sockets.emit]

lemma orphan_plain : orphan s a.plain σ = orphan s a σ :=
  rfl

lemma orphan_withoutPeer : orphan s { a with peer := none } σ = orphan s a σ := rfl

def closedStatus (s : Ptr) (a : ASocket) : List Obs :=
  if a.close = .localSocketCloseNotify then [.status s false (ascii "closed")] else []

lemma free_eq_orphan (hl : a.isLocal = false) (hright : ListsRight s a σ) (hp : a.pending = false) :
    ({ σ with
        heap := σ.heap.free s
        deviceTrackerList := σ.deviceTrackerList.filter (· ≠ s) } : Sockets) =
      orphan s a σ := by
  unfold orphan remove
  rw [if_neg (by simp [hl]), filter_ne_eq_self (hright.lists hl).1,
    filter_ne_eq_self (hright.lists hl).2, filter_ne_eq_self (hright.pending hp)]

lemma free_eq_orphan_of_not_tracker (hl : a.isLocal = false) (ht : a.isTracker = false)
    (hright : ListsRight s a σ) (hp : a.pending = false) :
    ({ σ with heap := σ.heap.free s } : Sockets) = orphan s a σ := by
  rw [← free_eq_orphan hl hright hp, filter_ne_eq_self (hright.trackers ht)]

lemma localSocketClose_of_peer_none (hs : σ.heap.get s = some a) (hpeer : a.peer = none)
    (close : Ptr → Sockets → Res Sockets) :
    localSocketClose ts close s σ = localSocketLeave s σ := by
  unfold localSocketClose
  rw [deref_eq hs, ok_bind]
  simp only [hpeer]

private lemma closeFn_bare {depth : ℕ} (hs : σ.heap.get s = some a) (hw : a.Wf)
    (hl : a.isLocal = false) (hpeer : a.peer = none) (hright : ListsRight s a σ) :
    closeFn ts (depth + 1) s σ = .ok (orphan s a σ) := by
  have hp := (hw.bare hl).pending
  rw [closeFn]
  unfold Wf at hw
  cases he : a.enqueue with
  | localSocketEnqueue => simp [ASocket.isLocal, he] at hl
  | remoteSocketEnqueue =>
    rw [he] at hw
    obtain ⟨-, -, -, hc, -, -⟩ := hw
    have ht : a.isTracker = false := by simp [ASocket.isTracker, he]
    simp only [hc, remoteSocketClose, deref_eq hs, ok_bind, hpeer, pure_eq_ok]
    rw [free_eq_orphan_of_not_tracker hl ht hright hp]
  | smartSocketEnqueue =>
    rw [he] at hw
    obtain ⟨-, -, -, hc, -⟩ := hw
    have ht : a.isTracker = false := by simp [ASocket.isTracker, he]
    simp only [hc, smartSocketClose, deref_eq hs, ok_bind, hpeer, pure_eq_ok]
    rw [free_eq_orphan_of_not_tracker hl ht hright hp]
  | deviceTrackerEnqueue =>
    rw [he] at hw
    obtain ⟨-, -, -, hc, -⟩ := hw
    simp only [hc, deviceTrackerClose, deref_eq hs, ok_bind, hpeer, pure_eq_ok]
    rw [← free_eq_orphan hl hright hp]

lemma closedStatus_of_bare (hw : a.Wf) (hl : a.isLocal = false) : closedStatus s a = [] := by
  unfold closedStatus
  rw [if_neg]
  unfold Wf at hw
  intro hc
  cases he : a.enqueue with
  | localSocketEnqueue => simp [ASocket.isLocal, he] at hl
  | remoteSocketEnqueue | smartSocketEnqueue | deviceTrackerEnqueue => simp [he, hc] at hw

lemma closeFn_spec {depth : ℕ} (hs : σ.heap.get s = some a) (hw : a.Wf) (hpeer : a.peer = none)
    (hright : ListsRight s a σ) :
    Sat (closeFn ts (depth + 1) s σ) (· = orphan s a (σ.emits (closedStatus s a))) (· = .exit) := by
  cases hl : a.isLocal with
  | false =>
    rw [closeFn_bare hs hw hl hpeer hright, closedStatus_of_bare hw hl]
    simp [emits]
  | true =>
    have hwl := hw.local hl
    rw [closeFn, deref_eq hs, ok_bind]
    rcases hwl.hooks with ⟨hr, hc⟩ | ⟨-, hc, -, -⟩
    · have hst : σ.emits (closedStatus s a) = σ := by simp [closedStatus, hc, emits]
      simp only [hc]
      rw [localSocketClose_of_peer_none hs hpeer, hst]
      exact localSocketLeave_spec hs hl hwl hr hc hpeer hright
    · -- the client is told first, and the hooks become plain
      let told := Obs.status s false (ascii "closed")
      have hst : σ.emits (closedStatus s a) = σ.emit told := by
        simp [closedStatus, hc, emits, Sockets.emit, told]
      have hs' : ((σ.put s a.plain).emit told).heap.get s = some a.plain :=
        get_set_self hs _
      simp only [hc, localSocketCloseNotify, deref_eq hs, ok_bind]
      show Sat (localSocketClose ts _ s ((σ.put s a.plain).emit told)) _ _
      rw [localSocketClose_of_peer_none hs' hpeer, hst]
      refine (localSocketLeave_spec hs' hl hwl.plain rfl rfl hpeer
        ⟨hright.pending, hright.trackers, hright.lists⟩).imp fun τ hτ => ?_
      rw [hτ]
      exact orphan_put (σ := σ.emit told)

/-! ### A socket with its peer -/

lemma Inv.wf_withoutPeer (h : Inv L σ) (hs : σ.heap.get s = some a) (hpeer : a.peer = some r) :
    Wf { a with peer := none } := by
  cases hl : a.isLocal with
  | false => exact (h.wf s a hs).withPeer hl none
  | true =>
    have hw := h.local_wf hs hl
    refine wf_of_local (hw.withPeer (h.not_closing_of_peer hs hpeer) ?_ none) hl
    exact hw.plain_of_peer hpeer

lemma Inv.peer_of_peer (h : Inv [] σ) (hs : σ.heap.get s = some a) (hpeer : a.peer = some r)
    (hr : σ.heap.get r = some b) : b.peer = some s := by
  obtain ⟨-, -, c, hc, hcs, -⟩ := h.paired s a r hs (by simp) hpeer
  rw [hr] at hc
  cases hc
  exact hcs

lemma Inv.remote_transport (h : Inv L σ) (hr : σ.heap.get r = some b)
    (hb : b.isRemote = true) : ∃ t, b.transport = some t := by
  have hw := h.wf r b hr
  rw [ASocket.isRemote, beq_iff_eq] at hb
  unfold Wf at hw
  rw [hb] at hw
  exact Option.ne_none_iff_exists'.mp hw.2.2.2.2.1

def closeNotice (ts : Store ATransport) (a b : ASocket) : List Obs :=
  if a.isLocal && b.isRemote then
    (b.transport.bind fun t => (ts.get t).map fun tr =>
      Obs.sent t (sealPacket { msg := { command := A_CLSE, arg0 := a.id, arg1 := b.id } } tr)).toList
  else []

lemma closePeer_spec (ts : Store ATransport) (depth : ℕ) (h : Inv L σ)
    (hr : σ.heap.get r = some b) (hpeer : b.peer = some s) :
    Sat (closePeer (closeFn ts (depth + 1)) r σ) (· = orphan r b σ) (· = .exit) := by
  have hr' : (σ.put r { b with peer := none }).heap.get r = some { b with peer := none } :=
    get_set_self hr _
  have hright := (h.listsRight hr).withoutPeer { b with peer := none }
  have hst : closedStatus r { b with peer := none } = [] := by
    cases hl : b.isLocal with
    | false => exact closedStatus_of_bare ((h.wf r b hr).withPeer hl none) hl
    | true => simp [closedStatus, ((h.local_wf hr hl).plain_of_peer hpeer).2]
  unfold closePeer
  rw [deref_eq hr]
  refine (closeFn_spec hr' (h.wf_withoutPeer hr hpeer) rfl hright).imp fun τ hτ => ?_
  rw [hτ, hst, orphan_withoutPeer, show ∀ ρ : Sockets, ρ.emits [] = ρ by simp [emits], orphan_put]

private lemma Inv.after_peer (h : Inv [] σ) (hs : σ.heap.get s = some a)
    (hpeer : a.peer = some r) (hr : σ.heap.get r = some b) :
    ListsRight s a (Sockets.orphan r b σ) ∧ (Sockets.orphan r b σ).heap.get s = some a := by
  have hsr : s ≠ r := (h.paired s a r hs (by simp) hpeer).2.1.symm
  have h1 : Inv [s] (Sockets.orphan r b σ) :=
    (h.loosen_pair hs hpeer).orphan hr (by simp) (by simp) (by simp)
  have hs1 : (Sockets.orphan r b σ).heap.get s = some a := (Inv.get_orphan_of_ne hr hsr).trans hs
  exact ⟨h1.listsRight hs1, hs1⟩

private lemma leave_after_peer (h : Inv [] σ) (hs : σ.heap.get s = some a)
    (hl : a.isLocal = true) (hpeer : a.peer = some r) (hr : σ.heap.get r = some b) :
    Sat (do
        let a ← (orphan r b σ).deref s
        localSocketLeave s ((orphan r b σ).put s { a with peer := none }))
      (· = orphan s a (orphan r b σ)) (· = .exit) := by
  obtain ⟨hright, hs1⟩ := h.after_peer hs hpeer hr
  have hw := h.local_wf hs hl
  have hplain := hw.plain_of_peer hpeer
  rw [deref_eq hs1]
  have hw' : WfLocal { a with peer := none } :=
    hw.withPeer (h.not_closing_of_peer hs hpeer) hplain none
  have hs2 : ((orphan r b σ).put s { a with peer := none }).heap.get s =
      some { a with peer := none } := get_set_self hs1 _
  refine (localSocketLeave_spec hs2 hl hw' hplain.1 hplain.2 rfl
    (hright.withoutPeer _)).imp fun τ hτ => ?_
  rw [hτ, orphan_withoutPeer, orphan_put]

private lemma socketShutdown_spec (h : Inv [] σ) (hs : σ.heap.get s = some a)
    (hl : a.isLocal = true) (hr : σ.heap.get r = some b) (hbs : b.peer = some s) :
    Sat (socketShutdown ts r σ) (· = σ.emits (closeNotice ts a b)) Halt.Excused := by
  unfold socketShutdown
  rw [deref_eq hr]
  have hw := h.wf r b hr
  cases hb : b.isRemote with
  | false =>
    have hshut : b.shutdown = none := by
      unfold Wf at hw
      cases he : b.enqueue with
      | localSocketEnqueue => exact (h.local_wf hr (by simp [ASocket.isLocal, he])).shutdown
      | remoteSocketEnqueue => simp [ASocket.isRemote, he] at hb
      | smartSocketEnqueue | deviceTrackerEnqueue =>
        rw [he] at hw
        exact hw.2.2.1
    simp [hshut, closeNotice, hb, emits]
  | true =>
    obtain ⟨t, ht⟩ := h.remote_transport hr hb
    rw [ASocket.isRemote, beq_iff_eq] at hb
    unfold Wf at hw
    rw [hb] at hw
    obtain ⟨-, -, hshut, -⟩ := hw
    have hnotice : closeNotice ts a b = ((ts.get t).map fun tr => Obs.sent t
        (sealPacket { msg := { command := A_CLSE, arg0 := a.id, arg1 := b.id } } tr)).toList := by
      simp [closeNotice, hl, ASocket.isRemote, hb, ht]
    simp only [hshut, remoteSocketShutdown, deref_eq hr, ok_bind, hbs, deref_eq hs, pure_eq_ok, ht]
    refine (sendPacket_spec ts _ t σ).mono ?_ fun e he => .inr he
    rintro τ ⟨tr, htr, rfl⟩
    simp [hnotice, htr, emits, Sockets.emit]

private lemma localSocketClose_spec (depth : ℕ) (h : Inv [] σ) (hs : σ.heap.get s = some a)
    (hl : a.isLocal = true) (hpeer : a.peer = some r) (hr : σ.heap.get r = some b)
    (hbs : b.peer = some s) :
    Sat (localSocketClose ts (closeFn ts (depth + 1)) s σ)
      (· = orphan s a (orphan r b (σ.emits (closeNotice ts a b)))) Halt.Excused := by
  have hexit : ∀ e : Halt, e = .exit → e.Excused := fun e he => .inl he
  unfold localSocketClose
  rw [deref_eq hs, ok_bind]
  simp only [hpeer]
  refine (socketShutdown_spec h hs hl hr hbs).bind fun τ hτ => ?_
  subst hτ
  have h' := h.emits (closeNotice ts a b)
  refine ((closePeer_spec ts depth h' hr hbs).mono (fun _ h => h) hexit).bind fun τ hτ => ?_
  subst hτ
  exact (leave_after_peer h' hs hl hpeer hr).mono (fun _ h => h) hexit

private lemma bareClose_spec (ts : Store ATransport) (depth : ℕ) (h : Inv [] σ)
    (hs : σ.heap.get s = some a) (hl : a.isLocal = false) (hpeer : a.peer = some r)
    (hr : σ.heap.get r = some b) (hbs : b.peer = some s) :
    Sat (closeFn ts (depth + 2) s σ) (· = orphan s a (orphan r b σ)) (· = .exit) := by
  have hw := h.wf s a hs
  have hp := (hw.bare hl).pending
  obtain ⟨hright, hs1⟩ := h.after_peer hs hpeer hr
  have hpeerSpec := closePeer_spec ts depth h hr hbs
  rw [closeFn]
  unfold Wf at hw
  cases he : a.enqueue with
  | localSocketEnqueue => simp [ASocket.isLocal, he] at hl
  | remoteSocketEnqueue =>
    rw [he] at hw
    obtain ⟨-, -, -, hc, -, -⟩ := hw
    have ht : a.isTracker = false := by simp [ASocket.isTracker, he]
    simp only [hc, remoteSocketClose, deref_eq hs, ok_bind, hpeer]
    refine hpeerSpec.bind fun τ hτ => ?_
    subst hτ
    exact free_eq_orphan_of_not_tracker hl ht hright hp
  | smartSocketEnqueue =>
    rw [he] at hw
    obtain ⟨-, -, -, hc, -⟩ := hw
    have ht : a.isTracker = false := by simp [ASocket.isTracker, he]
    simp only [hc, smartSocketClose, deref_eq hs, ok_bind, hpeer]
    refine hpeerSpec.bind fun τ hτ => ?_
    subst hτ
    rw [deref_eq hs1]
    simp only [ok_bind, pure_eq_ok, sat_ok, put, free_set]
    exact free_eq_orphan_of_not_tracker hl ht hright hp
  | deviceTrackerEnqueue =>
    rw [he] at hw
    obtain ⟨-, -, -, hc, -⟩ := hw
    simp only [hc, deviceTrackerClose, deref_eq hs, ok_bind, hpeer]
    refine hpeerSpec.bind fun τ hτ => ?_
    subst hτ
    exact free_eq_orphan hl hright hp

lemma socketClose_pair (h : Inv [] σ) (hs : σ.heap.get s = some a) (hpeer : a.peer = some r)
    (hr : σ.heap.get r = some b) :
    Sat (socketClose ts s σ) (· = orphan s a (orphan r b (σ.emits (closeNotice ts a b))))
      Halt.Excused := by
  have hbs := h.peer_of_peer hs hpeer hr
  unfold socketClose
  cases hl : a.isLocal with
  | false =>
    have hnotice : σ.emits (closeNotice ts a b) = σ := by simp [closeNotice, hl, emits]
    rw [hnotice]
    exact (bareClose_spec ts 0 h hs hl hpeer hr hbs).mono (fun _ h => h) fun e he => .inl he
  | true =>
    rw [closeFn, deref_eq hs, ok_bind]
    simp only [((h.local_wf hs hl).plain_of_peer hpeer).2]
    exact localSocketClose_spec 0 h hs hl hpeer hr hbs

lemma socketClose_alone (h : Inv [] σ) (hs : σ.heap.get s = some a) (hpeer : a.peer = none) :
    Sat (socketClose ts s σ) (· = orphan s a (σ.emits (closedStatus s a))) Halt.Excused :=
  (closeFn_spec hs (h.wf s a hs) hpeer (h.listsRight hs)).mono (fun _ h => h) fun _ he => .inl he

lemma faint_closeNotice {o : Obs} (ho : o ∈ closeNotice ts a b) : o.faint = true := by
  unfold closeNotice at ho
  split at ho
  · simp only [Option.mem_toList, Option.bind_eq_some_iff, Option.map_eq_some_iff] at ho
    obtain ⟨t, -, tr, -, rfl⟩ := ho
    rfl
  · cases ho

lemma faint_closedStatus {o : Obs} (ho : o ∈ closedStatus s a) : o.faint = true := by
  unfold closedStatus at ho
  split at ho
  · obtain rfl := mem_singleton.mp ho
    rfl
  · cases ho

lemma socketClose_effs (h : Inv [] σ) (hs : σ.heap.get s = some a) (hc : a.closing = false) :
    Sat (socketClose ts s σ) (Effs P [] σ) Halt.Excused := by
  cases hpeer : a.peer with
  | none =>
    refine (socketClose_alone h hs hpeer).imp fun τ hτ => ?_
    subst hτ
    exact (Effs.emits fun o => faint_closedStatus).tail (.close hs hpeer hc)
  | some r =>
    obtain ⟨-, -, b, hr, -⟩ := h.paired s a r hs (by simp) hpeer
    refine (socketClose_pair h hs hpeer hr).imp fun τ hτ => ?_
    subst hτ
    exact (Effs.emits fun o => faint_closeNotice).tail (.closePair hs hpeer hr)

lemma deviceTrackerEnqueue_effs (h : Inv [] σ) (hs : σ.heap.get s = some a)
    (ht : a.isTracker = true) :
    Sat (deviceTrackerEnqueue ts s σ) (fun x => x.1 = -1 ∧ Effs P [] σ x.2) Halt.Excused := by
  rw [ASocket.isTracker, beq_iff_eq] at ht
  have hl : a.isLocal = false := by simp [ASocket.isLocal, ht]
  have hclose : a.close = .deviceTrackerClose := by
    have hw := h.wf s a hs
    unfold Wf at hw
    rw [ht] at hw
    exact hw.2.2.2.1
  obtain ⟨r, hpeer⟩ := Option.ne_none_iff_exists'.mp (h.owned s a hs (by simp) hl)
  obtain ⟨-, -, b, hr, hbs, -⟩ := h.paired s a r hs (by simp) hpeer
  have hspec := bareClose_spec ts 1 h hs hl hpeer hr hbs
  rw [closeFn, deref_eq hs, ok_bind] at hspec
  simp only [hclose] at hspec
  refine (hspec.mono (fun _ h => h) fun _ he => .inl he).bind fun τ hτ => ⟨rfl, ?_⟩
  subst hτ
  exact .single (.closePair hs hpeer hr)

lemma socketClose_closing (h : Inv [] σ) (hs : σ.heap.get s = some a) (hl : a.isLocal = true)
    (hc : a.closing = true) : Sat (socketClose ts s σ) (Effs P [.abandon s] σ) Halt.Excused := by
  have hw := h.local_wf hs hl
  refine (socketClose_alone h hs (hw.drains hc).1).imp fun τ hτ => ?_
  have hst : closedStatus s a = [] := by
    rcases hw.hooks with ⟨-, hclose⟩ | ⟨-, -, -, hnot⟩
    · simp [closedStatus, hclose]
    · rw [hc] at hnot
      cases hnot
  have hd : a.disposable = true := by simp [ASocket.disposable, hc]
  rw [hτ, hst, show σ.emits [] = σ by simp [emits], orphan, if_pos hl, if_pos hd]
  exact .single (.abandon hs hl hc)

/-! ### `close_all_sockets` -/

lemma orphan_localSocketList :
    (orphan s a σ).localSocketList = σ.localSocketList.filter (· ≠ s) := by
  unfold orphan
  split
  · split
    · rfl
    · rfl
  · rfl

lemma socketClose_list (h : Inv [] σ) (hs : σ.heap.get s = some a) (hm : s ∈ σ.localSocketList) :
    Sat (socketClose ts s σ)
      (fun τ => τ.localSocketList.length < σ.localSocketList.length) Halt.Excused := by
  have hlt : ∀ l : List Ptr, s ∈ l → (l.filter (· ≠ s)).length < l.length := fun l hl =>
    length_filter_lt_length_iff_exists.mpr ⟨s, hl, by simp⟩
  cases hpeer : a.peer with
  | none =>
    refine (socketClose_alone h hs hpeer).imp fun τ hτ => ?_
    rw [hτ, orphan_localSocketList]
    exact hlt _ hm
  | some r =>
    obtain ⟨-, hrs, b, hr, -⟩ := h.paired s a r hs (by simp) hpeer
    refine (socketClose_pair h hs hpeer hr).imp fun τ hτ => ?_
    rw [hτ, orphan_localSocketList, orphan_localSocketList]
    calc _ < (σ.localSocketList.filter (· ≠ r)).length :=
          hlt _ (mem_filter.mpr ⟨hm, by simpa using hrs.symm⟩)
      _ ≤ σ.localSocketList.length := length_filter_le _ _

def Shrinks (σ τ : Sockets) : Prop :=
  ∀ p a', τ.heap.get p = some a' → ∃ a, σ.heap.get p = some a ∧
    (a' = a ∨ a.isLocal = true ∧ a.disposable = false ∧ a' = a.retired)

lemma Shrinks.of_heap (h : τ.heap = σ.heap) : Shrinks σ τ := fun p a' hp =>
  ⟨a', by rw [← h]; exact hp, .inl rfl⟩

lemma Shrinks.trans (h : Shrinks σ τ) (h' : Shrinks τ ρ) : Shrinks σ ρ := by
  intro p a'' hp
  obtain ⟨a', hp', hrec'⟩ := h' p a'' hp
  obtain ⟨a, hp, hrec⟩ := h p a' hp'
  refine ⟨a, hp, ?_⟩
  rcases hrec' with rfl | ⟨hl, hd, rfl⟩
  · exact hrec
  rcases hrec with rfl | ⟨-, -, rfl⟩
  · exact .inr ⟨hl, hd, rfl⟩
  · -- a socket on the closing list is not put there again
    simp [ASocket.disposable, ASocket.retired] at hd

lemma Shrinks.orphan (hs : σ.heap.get s = some a) : Shrinks σ (Sockets.orphan s a σ) := by
  intro p a' hp
  by_cases hps : p = s
  · subst hps
    refine ⟨a, hs, ?_⟩
    unfold Sockets.orphan at hp
    split at hp
    · next hl =>
      split at hp
      · rw [show ((σ.remove p).emit _).heap = (σ.remove p).heap from rfl, get_remove,
          if_pos rfl] at hp
        cases hp
      next hd =>
      have hwritten : (σ.heap.set p a.retired).get p = some a' := hp
      rw [get_set_self hs] at hwritten
      cases hwritten
      exact .inr ⟨hl, by simpa using hd, rfl⟩
    · rw [get_remove, if_pos rfl] at hp
      cases hp
  · refine ⟨a', ?_, .inl rfl⟩
    rw [← hp]
    exact (Inv.get_orphan_of_ne hs hps).symm

lemma socketClose_shrinks (h : Inv [] σ) (hs : σ.heap.get s = some a) :
    Sat (socketClose ts s σ) (Shrinks σ) Halt.Excused := by
  cases hpeer : a.peer with
  | none =>
    refine (socketClose_alone h hs hpeer).imp fun τ hτ => ?_
    subst hτ
    exact (Shrinks.of_heap rfl).trans (.orphan hs)
  | some r =>
    obtain ⟨-, hrs, b, hr, -⟩ := h.paired s a r hs (by simp) hpeer
    refine (socketClose_pair h hs hpeer hr).imp fun τ hτ => ?_
    subst hτ
    have hr' : (σ.emits (closeNotice ts a b)).heap.get r = some b := hr
    have hs' : (Sockets.orphan r b (σ.emits (closeNotice ts a b))).heap.get s = some a :=
      (Inv.get_orphan_of_ne hr' hrs.symm).trans hs
    exact ((Shrinks.of_heap rfl).trans (.orphan hr')).trans (.orphan hs')

def Detached (t : TPtr) (σ : Sockets) : Prop := ∀ s ∈ σ.localSocketList, attached t s σ = false

lemma closeAllSockets_spec (t : TPtr) (passes : ℕ) (h : Inv [] σ)
    (hpasses : σ.localSocketList.length ≤ passes) :
    Sat (closeAllSockets ts t passes σ)
      (fun τ => Effs P [] σ τ ∧ Detached t τ ∧ Shrinks σ τ) Halt.Excused := by
  induction passes generalizing σ with
  | zero =>
    have hnil : σ.localSocketList = [] := eq_nil_of_length_eq_zero (by omega)
    exact ⟨.refl, by simp [Detached, hnil], .of_heap rfl⟩
  | succ passes ih =>
    unfold closeAllSockets
    cases hfind : σ.localSocketList.find? (fun s => attached t s σ) with
    | none =>
      refine ⟨.refl, fun s hm => ?_, .of_heap rfl⟩
      simpa using List.find?_eq_none.mp hfind s hm
    | some s =>
      have hm : s ∈ σ.localSocketList := mem_of_find?_eq_some hfind
      obtain ⟨a, hs, -, hc⟩ := h.mem_list hm
      refine (((socketClose_effs (P := P) h hs hc).and (socketClose_list h hs hm)).and
        (socketClose_shrinks h hs)).bind ?_
      rintro τ ⟨⟨heff, hlen⟩, hless⟩
      refine (ih (heff.inv h) (by omega)).imp ?_
      rintro ρ ⟨heff', hdet, hless'⟩
      exact ⟨heff.trans heff', hdet, hless.trans hless'⟩

end Sockets

end Adb
