import Adb.SocketRecords

/-!
# What can happen to the sockets

`Eff` lists everything the program ever does to the sockets, as steps between states in which the
socket graph is whole; what is true of every run is proved once for each kind of step. The label of a
step (`Act`) says which packet or event it is tied to. `P` restricts the transports that sockets are
attached to, and the data that is sent.
-/

namespace Adb

open Lib

def APacket.greets (p : APacket) : Bool := p.msg.command = A_CNXN || p.msg.command = A_AUTH

/-- Observations that are not about sockets. -/
def Obs.notable : Obs → Bool
  | .handled _ _ | .verified _ | .forwarded _ _ | .frameworkOk | .deleted _ => true
  | .sent _ p => p.greets
  | _ => false

/-- Observations that say nothing about the stream of a socket. -/
def Obs.neutral : Obs → Bool
  | .sent _ p => p.msg.command ≠ A_WRTE && p.msg.command ≠ A_OKAY && p.msg.command ≠ A_OPEN
  | .status _ _ _ | .reply _ _ => true
  | _ => false

lemma APacket.greets.neutral {t : TPtr} {p : APacket} (h : p.greets = true) :
    (Obs.sent t p).neutral = true := by
  simp only [greets, Bool.or_eq_true, decide_eq_true_eq] at h
  rcases h with h | h
  · rw [Obs.neutral, h]
    rfl
  · rw [Obs.neutral, h]
    rfl

def Obs.faint (o : Obs) : Bool := o.neutral && !o.notable

lemma Obs.neutral_of_faint {o : Obs} (h : o.faint = true) : o.neutral = true :=
  (Bool.and_eq_true_iff.mp h).1

lemma Obs.notable_of_faint {o : Obs} (h : o.faint = true) : o.notable = false := by
  simpa using (Bool.and_eq_true_iff.mp h).2

def Obs.socket : Obs → Option Ptr
  | .created s _ | .opened s _ | .accepted s _ _ | .readied s | .enqueued s _ | .wrote s _
  | .writeFailed s | .read s _ | .status s _ _ | .reply s _ | .closing s _
  | .destroyed s _ => some s
  | _ => none

def Obs.sentOn (t : TPtr) : Obs → Option APacket
  | .sent u p => if u = t then some p else none
  | _ => none

lemma Obs.sentOn_eq_some {o : Obs} {t : TPtr} {p : APacket} :
    o.sentOn t = some p ↔ o = .sent t p := by
  cases o with
  | sent u q => simp [Obs.sentOn]
  | _ => simp [Obs.sentOn]

namespace ASocket

def newLocal (id : UInt32) : ASocket :=
  { id := id
    fde := some {}
    enqueue := .localSocketEnqueue
    ready := .localSocketReady
    close := .localSocketClose }

def newService (id : UInt32) (exitOnClose : Bool) : ASocket :=
  { newLocal id with exitOnClose := exitOnClose }

def newRemote (id : UInt32) (t : TPtr) : ASocket :=
  { id := id
    enqueue := .remoteSocketEnqueue
    ready := .remoteSocketReady
    shutdown := some .remoteSocketShutdown
    close := .remoteSocketClose
    transport := some t }

def newSmart : ASocket :=
  { enqueue := .smartSocketEnqueue
    ready := .smartSocketReady
    close := .smartSocketClose }

def newTracker (longOutput : Bool) : ASocket :=
  { enqueue := .deviceTrackerEnqueue
    ready := .deviceTrackerReady
    close := .deviceTrackerClose
    updateNeeded := true
    longOutput := longOutput }

def retired (a : ASocket) : ASocket := { a.plain.delRead with closing := true, peer := none }

structure Steady (a a' : ASocket) : Prop extends SameShape a a' where
  peer : a'.peer = a.peer
  transport : a'.transport = a.transport
  wantsRead : a'.wantsRead = a.wantsRead
  asked : a.Asked → a'.Asked

lemma Steady.trans {a b c : ASocket} (h : a.Steady b) (h' : b.Steady c) : a.Steady c where
  enqueue := h'.enqueue.trans h.enqueue
  id := h'.id.trans h.id
  closing := h'.closing.trans h.closing
  peer := h'.peer.trans h.peer
  transport := h'.transport.trans h.transport
  wantsRead := h'.wantsRead.trans h.wantsRead
  asked ha := h'.asked (h.asked ha)

structure Touch (a a' : ASocket) : Prop extends Steady a a' where
  queued : a'.queued = a.queued
  wantsWrite : a'.wantsWrite = a.wantsWrite
  pending : a'.pending = true → a.pending = true

/-- What one attempt to write out the queue of `s` makes of its record. -/
structure Drained (s : Ptr) (a a' : ASocket) (obs : List Obs) : Prop extends Steady a a' where
  wf : a'.Wf
  pending : a'.pending = true → a.pending = true
  written : obs = [] ∧ a'.queued = a.queued ∨
    (∃ data, obs = [.wrote s data] ∧ data ++ a'.queued = a.queued) ∨
    obs = [.writeFailed s] ∧ a'.queued = a.queued
  /-- the fd is no longer watched when nothing is left, or nothing more can be written -/
  done : a'.wantsWrite = false ↔ a'.queued = [] ∨ obs = [.writeFailed s]

end ASocket

namespace Sockets

def emits (σ : Sockets) (obs : List Obs) : Sockets := { σ with trace := σ.trace ++ obs }

@[simp] lemma emits_nil (σ : Sockets) : σ.emits [] = σ := by simp [emits]

@[simp] lemma emits_heap (σ : Sockets) (obs : List Obs) : (σ.emits obs).heap = σ.heap := rfl

def orphan (s : Ptr) (a : ASocket) (σ : Sockets) : Sockets :=
  if a.isLocal then
    if a.disposable then (σ.remove s).emit (.destroyed s a.queued)
    else ((σ.write s a.retired).moveToClosing s).emit (.closing s a.queued)
  else σ.remove s

def create (σ : Sockets) : Sockets :=
  (σ.addLocal (.newLocal σ.localSocketNextId)).emit (.created σ.heap.next σ.localSocketNextId)

def link (s r : Ptr) (a b : ASocket) (σ : Sockets) : Sockets :=
  (σ.write s { a with peer := some r }).write r { b with peer := some s }

/-- The label of a step that is tied to a packet or to an event. -/
inductive Act
  /-- something that is not about sockets -/
  | note (o : Obs)
  | accept (s : Ptr) (id remote : UInt32) (t : TPtr)
  | connect (s : Ptr) (id remote : UInt32) (t : TPtr)
  | ready (s : Ptr)
  | deliver (s : Ptr) (t : TPtr) (data : Bytes)
  /-- an `A_WRTE` is handled for a socket whose peer is not remote -/
  | inject (s : Ptr)
  /-- an `FDE_READ` event is found while `FDE_READ` is off -/
  | alarm (s : Ptr)
  /-- data is read for a socket that has no peer and is not closing -/
  | discard (s : Ptr) (data : Bytes)
  /-- data is read and sent while `FDE_READ` is off -/
  | unasked (s : Ptr)
  /-- a closing socket is given up before its queue is written -/
  | abandon (s : Ptr)
deriving DecidableEq, Repr

def Act.onRead : Act → Bool
  | .discard _ _ | .unasked _ | .abandon _ => true
  | _ => false

def IsPacket (p : APacket) (command arg0 arg1 : UInt32) : Prop :=
  p.msg.command = command ∧ p.msg.arg0 = arg0 ∧ p.msg.arg1 = arg1

/-- What the steps of a function may do with transports. -/
structure Rules where
  /-- a socket may be attached to the transport -/
  attach : TPtr → Prop
  /-- a socket may get a remote end on the transport -/
  join : TPtr → Prop
  /-- the data of an `A_WRTE` or `A_OPEN` may be sent on the transport -/
  send : TPtr → APacket → Prop

def Rules.none : Rules := ⟨fun _ => False, fun _ => False, fun _ _ => False⟩

structure Rules.Le (P Q : Rules) : Prop where
  attach : ∀ t, P.attach t → Q.attach t
  join : ∀ t, P.join t → Q.join t
  send : ∀ t p, P.send t p → Q.send t p

lemma Rules.none_le (P : Rules) : Rules.none.Le P :=
  ⟨fun _ => False.elim, fun _ => False.elim, fun _ _ => False.elim⟩

/-- The last attempt to write out the queue has left nothing, or nothing more can be written. -/
def Done (s : Ptr) (a' : ASocket) (obs : List Obs) : Prop :=
  a'.queued = [] ∨ obs = [.writeFailed s]

/-- The answer to a payload that was put in the queue of `s`, now `a'`: it is acknowledged on `t`
when the queue has been written out. -/
inductive Answer (s : Ptr) (a' : ASocket) (obs : List Obs) (remote : UInt32) (t : TPtr) :
    List Obs → Prop
  | later (hnot : ¬ Done s a' obs) : Answer s a' obs remote t []
  | now {p : APacket} (hdone : Done s a' obs) (hp : IsPacket p A_OKAY a'.id remote) :
      Answer s a' obs remote t [.sent t p]

inductive Eff (P : Rules) : List Act → Sockets → Sockets → Prop
  | emit {σ} (o : Obs) (ho : o.faint = true) : Eff P [] σ (σ.emit o)
  | note {σ} (o : Obs) (ho : o.notable = true) : Eff P [.note o] σ (σ.emit o)
  | os {σ} (os : Os) : Eff P [] σ { σ with os := os }
  | touch {σ s a a'} (hs : σ.heap.get s = some a) (hw : a'.Wf) (ht : a.Touch a') :
      Eff P [] σ (σ.write s a')
  /-- `fdevent_process` finds events for `s` -/
  | arm {σ s a f} (f' : FdEvent) (hs : σ.heap.get s = some a) (hl : a.isLocal = true)
      (hf : a.fde = some f) (hf' : f'.Wf) (hstate : f'.state = f.state)
      (hold : f.pending = false) (hnew : f'.pending = true) :
      Eff P (if f'.events.read && !f.state.read then [.alarm s] else []) σ { σ with
        heap := σ.heap.set s { a with fde := some f' }
        gPendingList := σ.gPendingList ++ [s] }
  /-- a smart socket is given its transport -/
  | select {σ s a} (t : TPtr) (hs : σ.heap.get s = some a)
      (he : a.enqueue = .smartSocketEnqueue) (ht : P.attach t) :
      Eff P [] σ (σ.write s { a with transport := some t })
  /-- the peer of `s`, which is not remote, is ready for more -/
  | wake {σ s a r b} (hs : σ.heap.get s = some a) (hl : a.isLocal = true)
      (hpeer : a.peer = some r) (hr : σ.heap.get r = some b) (hb : b.isRemote = false) :
      Eff P [] σ (σ.write s a.addRead)
  /-- the peer of `s` cannot take more -/
  | hush {σ s a r b} (hs : σ.heap.get s = some a) (hl : a.isLocal = true)
      (hpeer : a.peer = some r) (hr : σ.heap.get r = some b) (hb : b.isRemote = false) :
      Eff P [] σ (σ.write s a.delRead)
  /-- the other side is ready for more -/
  | readied {σ s a r} (status : List Obs) (hs : σ.heap.get s = some a) (hl : a.isLocal = true)
      (hpeer : a.peer = some r) (hst : status = [] ∨ status = [.status s true []]) :
      Eff P [.ready s] σ (((σ.emit (.readied s)).emits status).write s a.plain.addRead)
  /-- the local socket or device tracker that is the peer of `s` has data for it -/
  | enqueue {σ s a r b a'} {data : Bytes} {obs : List Obs} {q : IOVector}
      (hs : σ.heap.get s = some a) (hl : a.isLocal = true) (hpeer : a.peer = some r)
      (hr : σ.heap.get r = some b) (hb : b.isLocal = true ∨ b.isTracker = true)
      (hq : q.bytes = a.queued ++ data)
      (hd : { a with packetQueue := q }.Drained s a' obs) :
      Eff P [] σ (((σ.emit (.enqueued s data)).emits obs).write s a')
  /-- `s` writes out some of its queue; if all, its peer is not remote -/
  | drain {σ s a a'} {obs : List Obs} (hs : σ.heap.get s = some a) (hl : a.isLocal = true)
      (hw : a.wantsWrite = true) (hd : a.Drained s a' obs)
      (hleft : a'.queued ≠ [] ∧ obs ≠ [.writeFailed s] ∨
        ∃ r b, a.peer = some r ∧ σ.heap.get r = some b ∧ b.isRemote = false) :
      Eff P [] σ ((σ.emits obs).write s a')
  /-- `s` writes out the last of its queue, and the other side is told that it is ready for
  more -/
  | settle {σ s a r b a'} {obs : List Obs} (t : TPtr) (p : APacket)
      (hs : σ.heap.get s = some a) (hl : a.isLocal = true) (hpeer : a.peer = some r)
      (hr : σ.heap.get r = some b) (hb : b.isRemote = true) (hw : a.wantsWrite = true)
      (hd : a.Drained s a' obs) (hdone : Done s a' obs) (ht : b.transport = some t)
      (hp : IsPacket p A_OKAY a.id b.id) :
      Eff P [] σ (((σ.emits obs).write s a').emit (.sent t p))
  /-- a closing socket writes out the last of its queue, or cannot write any more -/
  | finish {σ s a} (o : Obs) (left : Bytes) (hs : σ.heap.get s = some a) (hl : a.isLocal = true)
      (hc : a.closing = true)
      (ho : o = .wrote s a.queued ∧ left = [] ∨ o = .writeFailed s ∧ left = a.queued) :
      Eff P [] σ (((σ.emit o).remove s).emit (.destroyed s left))
  /-- a closing socket is closed once more -/
  | abandon {σ s a} (hs : σ.heap.get s = some a) (hl : a.isLocal = true)
      (hc : a.closing = true) :
      Eff P [.abandon s] σ ((σ.remove s).emit (.destroyed s a.queued))
  /-- `s` reads data for a peer that is not remote -/
  | read {σ s a r b} (data : Bytes) (hs : σ.heap.get s = some a) (hl : a.isLocal = true)
      (hpeer : a.peer = some r) (hr : σ.heap.get r = some b) (hb : b.isRemote = false) :
      Eff P [] σ (σ.emit (.read s data))
  /-- `s` reads data for nobody -/
  | discard {σ s a} (data : Bytes) (hs : σ.heap.get s = some a) (hl : a.isLocal = true)
      (hpeer : a.peer = none) :
      Eff P (if a.closing then [] else [.discard s data]) σ (σ.emit (.read s data))
  /-- `s` reads data and sends it to the other side -/
  | forward {σ s a r b} (data : Bytes) (t : TPtr) (p : APacket) (hs : σ.heap.get s = some a)
      (hl : a.isLocal = true) (hpeer : a.peer = some r) (hr : σ.heap.get r = some b)
      (hb : b.isRemote = true) (ht : b.transport = some t) (hp : IsPacket p A_WRTE a.id b.id)
      (hdata : p.payload = data) (hsend : P.send t p) :
      Eff P (if a.wantsRead then [] else [.unasked s]) σ
        (((σ.emit (.read s data)).emit (.sent t p)).write s a.delRead)
  | close {σ s a} (hs : σ.heap.get s = some a) (hpeer : a.peer = none)
      (hc : a.closing = false) : Eff P [] σ (orphan s a σ)
  /-- a socket is closed together with its peer, which goes first -/
  | closePair {σ s a r b} (hs : σ.heap.get s = some a) (hpeer : a.peer = some r)
      (hr : σ.heap.get r = some b) : Eff P [] σ (orphan s a (orphan r b σ))
  | client {σ} (hid : σ.localSocketNextId + 1 ≠ 0) :
      Eff P [] σ (((σ.create.addBare .newSmart).link σ.heap.next (σ.heap.next + 1)
        (.newLocal σ.localSocketNextId) .newSmart).write σ.heap.next
          { (ASocket.newLocal σ.localSocketNextId).addRead with peer := some (σ.heap.next + 1) })
  /-- a client connects to a forwarded port -/
  | forwardClient {σ} (t : TPtr) (p : APacket) (hid : σ.localSocketNextId + 1 ≠ 0)
      (ht : P.attach t) (hp : IsPacket p A_OPEN σ.localSocketNextId 0) (hsend : P.send t p) :
      Eff P [] σ ((σ.create.write σ.heap.next
        { ASocket.newLocal σ.localSocketNextId with transport := some t }).emits
          [.sent t p, .opened σ.heap.next σ.localSocketNextId])
  /-- the client `s` of the smart socket `r` is connected to a host service -/
  | hostService {σ s a r b} (hs : σ.heap.get s = some a) (hl : a.isLocal = true)
      (hpeer : a.peer = some r) (hr : σ.heap.get r = some b)
      (he : b.enqueue = .smartSocketEnqueue) (hid : σ.localSocketNextId + 1 ≠ 0) :
      Eff P [] σ ((((σ.create.emit (.status s true [])).link s σ.heap.next a.plain
          (.newLocal σ.localSocketNextId)).remove r).write σ.heap.next
            { (ASocket.newLocal σ.localSocketNextId).addRead with peer := some s })
  /-- the client `s` of the smart socket `r` gets a device tracker -/
  | track {σ s a r b} (longOutput : Bool) (hs : σ.heap.get s = some a) (hl : a.isLocal = true)
      (hpeer : a.peer = some r) (hr : σ.heap.get r = some b)
      (he : b.enqueue = .smartSocketEnqueue) :
      Eff P [] σ
        ((((σ.addBare (.newTracker longOutput)).emit (.status s true [])).link s σ.heap.next
          a.plain (.newTracker longOutput)).remove r)
  /-- the client `s` of the smart socket `r` asks for a service of the device -/
  | handOver {σ s a r b} (t : TPtr) (p : APacket) (hs : σ.heap.get s = some a)
      (hl : a.isLocal = true) (hpeer : a.peer = some r) (hr : σ.heap.get r = some b)
      (he : b.enqueue = .smartSocketEnqueue) (ht : P.attach t) (hp : IsPacket p A_OPEN a.id 0)
      (hsend : P.send t p) :
      Eff P [] σ ((((σ.write s { a.notify with peer := none, transport := some t }).emits
          [.sent t p, .opened s a.id]).remove r).write s
            { a.notify.delRead with peer := none, transport := some t })
  /-- an `A_OPEN` is answered with a service socket -/
  | accept {σ} (exits : Bool) (remote : UInt32) (t : TPtr) (p : APacket)
      (hid : σ.localSocketNextId + 1 ≠ 0) (ht : P.attach t) (hj : P.join t) (hremote : remote ≠ 0)
      (hp : IsPacket p A_OKAY σ.localSocketNextId remote) :
      Eff P [.accept σ.heap.next σ.localSocketNextId remote t] σ
        (((((σ.create.write σ.heap.next (.newService σ.localSocketNextId exits)).addBare
            (.newRemote remote t)).link σ.heap.next (σ.heap.next + 1)
              (.newService σ.localSocketNextId exits) (.newRemote remote t)).emits
            [.accepted σ.heap.next σ.localSocketNextId remote, .sent t p,
              .readied σ.heap.next]).write σ.heap.next
          { (ASocket.newService σ.localSocketNextId exits).addRead with
            peer := some (σ.heap.next + 1) })
  /-- the first `A_OKAY` connects a waiting socket -/
  | connect {σ s a} (remote : UInt32) (t : TPtr) (status : List Obs)
      (hs : σ.heap.get s = some a) (hl : a.isLocal = true) (hpeer : a.peer = none)
      (hc : a.closing = false) (hremote : remote ≠ 0) (ht : P.attach t) (hj : P.join t)
      (hst : status = [] ∨ status = [.status s true []]) :
      Eff P [.connect s a.id remote t] σ
        ((((σ.addBare (.newRemote remote t)).link s σ.heap.next a.plain
          (.newRemote remote t)).emits (.readied s :: status)).write s
            { a.plain.addRead with peer := some σ.heap.next })
  /-- the payload of an `A_WRTE` is queued -/
  | deliver {σ s a r b a'} {data : Bytes} {obs ack : List Obs} {q : IOVector} {t : TPtr}
      (hs : σ.heap.get s = some a) (hl : a.isLocal = true) (hpeer : a.peer = some r)
      (hr : σ.heap.get r = some b) (hb : b.isRemote = true)
      (hq : q.bytes = a.queued ++ data)
      (hd : { a with packetQueue := q }.Drained s a' obs) (hack : Answer s a' obs b.id t ack) :
      Eff P [.deliver s t data] σ ((((σ.emit (.enqueued s data)).emits obs).write s a').emits ack)
  /-- the payload of an `A_WRTE` is queued for a socket whose peer is local -/
  | inject {σ s a r b a'} {data : Bytes} {obs : List Obs} {q : IOVector}
      (hs : σ.heap.get s = some a) (hl : a.isLocal = true) (hpeer : a.peer = some r)
      (hr : σ.heap.get r = some b) (hb : b.isLocal = true)
      (hq : q.bytes = a.queued ++ data)
      (hd : { a with packetQueue := q }.Drained s a' obs) :
      Eff P [.inject s] σ (((σ.emit (.enqueued s data)).emits obs).write s a')
  /-- that payload is acknowledged -/
  | echo {σ s a r b} (t : TPtr) (p : APacket) (hs : σ.heap.get s = some a)
      (hl : a.isLocal = true) (hpeer : a.peer = some r) (hr : σ.heap.get r = some b)
      (hb : b.isLocal = true) (hp : IsPacket p A_OKAY a.id b.id) :
      Eff P [.inject s] σ (σ.emit (.sent t p))

inductive Effs (P : Rules) : List Act → Sockets → Sockets → Prop
  | refl {σ} : Effs P [] σ σ
  | tail {l l' σ τ ρ} (h : Effs P l σ τ) (h' : Eff P l' τ ρ) : Effs P (l ++ l') σ ρ

/-! ## Every step keeps the socket graph whole -/

variable {P : Rules} {σ τ : Sockets} {l : List Act} {L : List Ptr} {s r : Ptr}
  {a b a' : ASocket}

end Sockets

namespace ASocket

variable {a : ASocket}

lemma wf_of_local (h : a.WfLocal) (hl : a.isLocal = true) : a.Wf := by
  simp only [isLocal, beq_iff_eq] at hl
  rwa [Wf, hl]

lemma Wf.withPeer (h : a.Wf) (hl : a.isLocal = false) (r : Option Ptr) :
    Wf { a with peer := r } := by
  unfold Wf at h ⊢
  revert h
  cases he : a.enqueue with
  | localSocketEnqueue => simp [isLocal, he] at hl
  | remoteSocketEnqueue => exact fun h => ⟨⟨h.1.1, h.1.2⟩, h.2⟩
  | smartSocketEnqueue => exact fun h => ⟨⟨h.1.1, h.1.2⟩, h.2⟩
  | deviceTrackerEnqueue => exact fun h => ⟨⟨h.1.1, h.1.2⟩, h.2⟩

variable {id : UInt32}

lemma wfLocal_newLocal (hid : id ≠ 0) : (newLocal id).WfLocal :=
  ⟨⟨_, rfl, FdEvent.wf_new⟩, rfl, .inl ⟨rfl, rfl⟩, IOVector.wf_empty, hid,
    fun h => absurd rfl h, (by intro h; cases h), (by intro h; cases h)⟩

lemma wfLocal_newService (hid : id ≠ 0) (exits : Bool) :
    (newService id exits).WfLocal := { wfLocal_newLocal hid with }

lemma wf_newRemote {t : TPtr} (hid : id ≠ 0) : (newRemote id t).Wf :=
  ⟨⟨rfl, rfl⟩, rfl, rfl, rfl, by simp [newRemote], hid⟩

lemma wf_newSmart : newSmart.Wf := ⟨⟨rfl, rfl⟩, rfl, rfl, rfl, rfl⟩

lemma wf_newTracker {long : Bool} : (newTracker long).Wf := ⟨⟨rfl, rfl⟩, rfl, rfl, rfl, rfl, rfl⟩

lemma WfLocal.plain (h : a.WfLocal) : a.plain.WfLocal :=
  { h with shutdown := rfl, hooks := .inl ⟨rfl, rfl⟩ }

lemma WfLocal.withPeer (h : a.WfLocal) (hc : a.closing = false)
    (hh : a.ready = .localSocketReady ∧ a.close = .localSocketClose) (r : Option Ptr) :
    WfLocal { a with peer := r } :=
  { h with
    hooks := .inl hh
    drains := fun h' => by rw [hc] at h'; cases h' }

lemma WfLocal.notify (h : a.WfLocal) (hc : a.closing = false) (t : Option TPtr) :
    WfLocal { a.notify with peer := none, transport := t } :=
  { h with
    shutdown := rfl
    hooks := .inr ⟨rfl, rfl, rfl, hc⟩
    drains := fun h' => by rw [show a.closing = true from h'] at hc; cases hc }

lemma WfLocal.retired (h : a.WfLocal) (hd : a.disposable = false) : a.retired.WfLocal := by
  simp only [disposable, Bool.or_eq_false_iff] at hd
  obtain ⟨⟨hc, he⟩, hq⟩ := hd
  have hne : a.queued ≠ [] := h.queue.empty_eq_false_iff.mp hq
  have hw : a.retired.wantsWrite = true := h.plain.wantsWrite_delRead.trans (h.waits hne hc he)
  exact
    { h.plain.delRead with
      waits := fun _ _ _ => hw
      drains := fun _ => ⟨rfl, hw, h.plain.wantsRead_delRead, he⟩
      hooks := .inl ⟨rfl, rfl⟩ }

end ASocket

end Adb
