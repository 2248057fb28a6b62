import Adb.HandlePacketTheorems

/-!
# Requests of clients

`smart_socket_enqueue` and what it calls. A request is answered, and the smart socket goes away with
its client; or the client is connected to a host service; or it waits for a service of the device,
which is the only case that is not an ordinary step yet.
-/

namespace Adb

open Lib List Store Sockets

namespace Server

open Sockets (Inv Effs)

variable {σ τ : Server} {t : TPtr} {tr : ATransport} {cfg : Config}

/-! ## The choice of a transport -/

variable {target : Target}

private lemma acquireLoop_spec {list : List TPtr} {result : Option TPtr}
    {error error' : Bytes}
    (hresult : ∀ t, result = some t →
      ∃ tr, σ.transports.get t = some tr ∧ tr.connectionState ≠ .kCsNoPerm)
    (h : acquireLoop cfg target σ list result error = (some t, error')) :
    ∃ tr, σ.transports.get t = some tr ∧ tr.connectionState ≠ .kCsNoPerm := by
  induction list generalizing result error with
  | nil =>
    cases h
    exact hresult t rfl
  | cons u rest ih =>
    unfold acquireLoop at h
    split at h
    · exact ih hresult h
    next tr htr =>
    split at h
    · exact ih hresult h
    next hperm =>
    split at h
    · split at h
      · cases h
        exact ⟨tr, htr, hperm⟩
      split at h
      · cases h
      refine ih (fun v hv => ?_) h
      cases hv
      exact ⟨tr, htr, hperm⟩
    · exact ih hresult h

lemma acquireOneTransport_attachable {error : Bytes}
    (h : acquireOneTransport cfg target false σ = (some t, error)) : σ.Attachable t := by
  unfold acquireOneTransport at h
  split at h
  · cases h
  next u error' hloop =>
  obtain ⟨tr, htr, hperm⟩ := acquireLoop_spec (by simp) hloop
  simp only [htr] at h
  split at h
  · cases h
  next hactive =>
  cases h
  refine .inl ⟨tr, htr, .inr ?_⟩
  revert hactive hperm
  cases tr.connectionState <;> simp [inactive, connectionStateIsOnline]

/-! ## Requests that are answered at once -/

variable {c : Ptr}

lemma reportTransport_apart (report : ATransport → Bytes) :
    Apart σ (reportTransport cfg target report c σ) := by
  unfold reportTransport
  split
  · exact sendFail_apart _ _ σ
  split
  · exact .refl σ
  · exact sendOkayString_apart

lemma reconnectOffline_apart : Sat (reconnectOffline c σ) (Apart σ) (· = .dangling) :=
  kickAll_apart.bind fun _ hτ => hτ.trans sendOkayString_apart

lemma disconnectRequest_apart {address : Bytes} :
    Sat (disconnectRequest cfg address c σ) (Apart σ) (· = .dangling) := by
  unfold disconnectRequest
  split
  · exact kickAll_apart.bind fun _ hτ => hτ.trans sendOkayString_apart
  split
  · exact sendFail_apart _ _ σ
  split
  · exact sendFail_apart _ _ σ
  · exact kickTransport_apart.bind fun _ hτ => hτ.trans sendOkayString_apart

lemma reconnectRequest_apart : Sat (reconnectRequest cfg target c σ) (Apart σ) (· = .dangling) := by
  unfold reconnectRequest
  split
  · exact sendOkayString_apart
  · refine kickTransport_apart.bind fun τ hτ => ?_
    exact transport_spec.bind fun _ _ => hτ.trans sendOkayString_apart

/-- A step after which the smart socket `s` is still there; only the transport it has chosen
may be another one. -/
structure Answered (s : Ptr) (e : ASocket) (σ τ : Server) : Prop where
  ordinary : Ordinary [] σ τ
  smart : ∃ e', τ.socks.heap.get s = some e' ∧ e'.enqueue = e.enqueue ∧ e'.peer = e.peer
  others : ∀ p, p ≠ s → τ.socks.heap.get p = σ.socks.heap.get p

variable {s : Ptr} {e : ASocket}

lemma Apart.answered (h : Apart σ τ) (hs : σ.socks.heap.get s = some e) : Answered s e σ τ := by
  obtain ⟨obs, hobs⟩ := h.socks
  have hheap : τ.socks.heap = σ.socks.heap := by rw [hobs]; rfl
  exact ⟨h.ordinary, ⟨e, by rw [hheap]; exact hs, rfl, rfl⟩, fun p _ => by rw [hheap]⟩

lemma select_ordinary (h : Inv [] σ.socks) (hs : σ.socks.heap.get s = some e)
    (he : e.enqueue = .smartSocketEnqueue) (ht : σ.Attachable t) :
    Answered s e σ { σ with socks := σ.socks.put s { e with transport := some t } } := by
  have hput : σ.socks.put s { e with transport := some t } =
      σ.socks.write s { e with transport := some t } :=
    put_eq_write (h.pendingRight hs) rfl
  rw [hput]
  exact ⟨.ofSocks (.single (.select t hs he ht)), ⟨_, get_set_self hs _, rfl, rfl⟩,
    fun p hp => get_set_of_ne _ hp _⟩

lemma Answered.trans_apart {ρ : Server} (h : Answered s e σ τ)
    (h' : Apart τ ρ) : Answered s e σ ρ := by
  obtain ⟨obs, hobs⟩ := h'.socks
  have hheap : ρ.socks.heap = τ.socks.heap := by rw [hobs]; rfl
  obtain ⟨e', hs', he', hp'⟩ := h.smart
  exact ⟨h.ordinary.trans h'.ordinary, ⟨e', by rw [hheap]; exact hs', he', hp'⟩,
    fun p hp => by rw [hheap]; exact h.others p hp⟩

variable {service : Bytes}

lemma switchTransport_answered (h : Inv [] σ.socks) (hs : σ.socks.heap.get s = some e)
    (he : e.enqueue = .smartSocketEnqueue) :
    Sat (switchTransport cfg service target s c σ) (fun x => Answered s e σ x.2) Halt.Excused := by
  have hfail : ∀ reason, Answered s e σ (sendFail (some c) reason σ) := fun reason =>
    (sendFail_apart _ reason σ).answered hs
  unfold switchTransport
  extract_lets choose
  have hchoose : ∀ target : Target,
      Sat (choose target) (fun x => Answered s e σ x.2) Halt.Excused := by
    intro target
    dsimp only [choose]
    split
    · exact hfail _
    next t error hacq =>
    rw [Sockets.deref_eq hs]
    have hselect := select_ordinary h hs he (acquireOneTransport_attachable hacq)
    exact hselect.trans_apart (sendOkay_apart (some c))
  split
  · split
    · exact hchoose _
    · exact hfail _
  split
  · exact hchoose _
  split
  · exact hchoose _
  split
  · exact hchoose _
  split
  · exact hchoose _
  · exact hchoose _

lemma handleHostRequest_answered (hshort : service.length + 1 < UInt32.size)
    (h : Inv [] σ.socks) (hok : σ.ListenersOk)
    (hs : σ.socks.heap.get s = some e) (he : e.enqueue = .smartSocketEnqueue) :
    Sat (handleHostRequest cfg service target s c σ) (fun x => Answered s e σ x.2)
      Halt.Excused := by
  have hdangling : ∀ e : Halt, e = .dangling → e.Excused := fun _ he => .inr he
  have hapart : ∀ {τ : Server}, Apart σ τ → Answered s e σ τ := fun h => h.answered hs
  have hask : ∀ {x : Res Server}, Sat x (Apart σ) (· = .dangling) →
      Sat (do let σ ← x; pure (true, σ) : Res (Bool × Server)) (fun x => Answered s e σ x.2)
        Halt.Excused := fun hx => (hx.mono (fun _ h => h) hdangling).bind fun _ hτ => hapart hτ
  have hreply : ∀ {τ : Server}, Apart σ τ →
      Sat (pure (true, τ) : Res (Bool × Server)) (fun x => Answered s e σ x.2) Halt.Excused :=
    fun hτ => hapart hτ
  refine .ite (fun _ => Or.inl rfl) fun _ => ?_
  refine .ite (fun _ => switchTransport_answered h hs he) fun _ => ?_
  refine .ite (fun _ => ?_) fun _ => ?_
  · refine hreply ?_
    split
    · exact sendOkayString_apart
    · exact .refl σ
  refine .ite (fun _ => hask reconnectOffline_apart) fun _ => ?_
  refine .ite (fun _ => hreply (reportTransport_apart _)) fun _ => ?_
  refine .ite (fun _ => hreply sendOkayString_apart) fun _ => ?_
  refine .ite (fun _ => hask disconnectRequest_apart) fun _ => ?_
  refine .ite (fun _ => hreply sendOkayString_apart) fun _ => ?_
  refine .ite (fun _ => hreply (reportTransport_apart _)) fun _ => ?_
  refine .ite (fun _ => hreply (reportTransport_apart _)) fun _ => ?_
  refine .ite (fun _ => hreply (reportTransport_apart _)) fun _ => ?_
  refine .ite (fun _ => ?_) fun _ => ?_
  · refine hreply ?_
    split
    · exact registerSocketTransport_apart
    · exact .refl σ
  refine .ite (fun _ => hask reconnectRequest_apart) fun _ => ?_
  exact (handleForwardRequest_apart hshort hok fun t error hacq =>
    acquireOneTransport_attachable hacq).mono (fun _ hx => hapart hx) hdangling

/-! ## The smart socket leaves -/

variable {ts : Store ATransport}

lemma dismiss_spec {socks : Sockets} {L : List Ptr} (h : Inv L socks)
    (hs : socks.heap.get s = some e) (he : e.enqueue = .smartSocketEnqueue) :
    Sat (Sockets.socketClose ts s (socks.put s { e with peer := none }))
      (· = socks.remove s) Halt.Excused := by
  have hl : e.isLocal = false := by simp [ASocket.isLocal, he]
  have hw : ASocket.Wf { e with peer := none } := (h.wf s e hs).withPeer hl none
  have hs' : (socks.put s { e with peer := none }).heap.get s = some { e with peer := none } :=
    get_set_self hs _
  refine (closeFn_spec hs' hw rfl ((h.listsRight hs).withoutPeer _)).mono ?_ fun _ he => .inl he
  rintro _ rfl
  rw [closedStatus_of_bare hw hl, show ∀ ρ : Sockets, ρ.emits [] = ρ by simp [Sockets.emits],
    orphan_withoutPeer, orphan_put, Sockets.orphan, if_neg (by simp [hl])]

lemma smartSocketFail_spec (h : Inv [] σ.socks)
    (hs : σ.socks.heap.get s = some e) (he : e.enqueue = .smartSocketEnqueue) :
    Sat (smartSocketFail s σ) (fun x => x.1 = -1 ∧ Ordinary [] σ x.2) Halt.Excused := by
  have hc : e.closing = false := ((h.wf s e hs).bare (by simp [ASocket.isLocal, he])).closing
  exact (onSockets_ordinary (socketClose_effs h hs hc)).bind fun τ hτ => ⟨rfl, hτ⟩

/-! ## Host services -/

variable {a : ASocket}

lemma replaceSmartSocket_spec {socks : Sockets} {n : Ptr} {b : ASocket} (h : Inv [n, c, s] socks)
    (hc : socks.heap.get c = some a) (hl : a.isLocal = true) (hclosing : a.closing = false)
    (hn : socks.heap.get n = some b) (hs : socks.heap.get s = some e)
    (he : e.enqueue = .smartSocketEnqueue) (hnc : n ≠ c) (hsc : s ≠ c) (hsn : s ≠ n)
    (hw : ASocket.Wf { b with peer := some c }) (hb : b.enqueue ≠ .smartSocketEnqueue) :
    Sat (replaceSmartSocket ts s n c socks) (· = (socks.link c n a.plain b).remove s)
      Halt.Excused := by
  have h' : Inv [s] (socks.link c n a.plain b) := h.relink hc hn hl hclosing hnc hsc hsn hw hb
  let linked : ASocket :=
    { a with
      ready := .localSocketReady
      shutdown := none
      close := .localSocketClose
      peer := some n }
  have hp : Sockets.PendingRight c a socks := h.pendingRight hc
  have hput : (socks.put c linked).put n { b with peer := some c } =
      socks.link c n a.plain b := putPeers_eq (a := a.plain) hp (h.pendingRight hn)
  have hn' : (socks.put c linked).heap.get n = some b := (get_set_of_ne _ hnc _).trans hn
  have hs' : (socks.link c n a.plain b).heap.get s = some e := by
    rw [get_link hc hn hnc, if_neg hsn, if_neg hsc]
    exact hs
  unfold replaceSmartSocket
  rw [Sockets.deref_eq hc]
  show Sat ((socks.put c linked).deref n >>= _) _ _
  rw [Sockets.deref_eq hn']
  show Sat (((socks.put c linked).put n { b with peer := some c }).deref s >>= _) _ _
  rw [hput, Sockets.deref_eq hs']
  exact dismiss_spec h' hs' he

/-! ## Requests that are too long -/

/-- `connect_to_remote` is asked for a destination that `t` does not accept. -/
def oversized (t : TPtr) (destination : Bytes) (σ : Server) : Bool :=
  (σ.transports.get t).any fun tr => min maxPayload tr.maxPayload < destination.length + 1

/-- The service is requested through the transport `t`, which is online, and is too long. -/
def oversizedThrough (service : Bytes) (t : Option TPtr) (σ : Server) : Bool :=
  t.any fun t =>
    (σ.transports.get t).any (fun tr => connectionStateIsOnline tr.connectionState) &&
      oversized t service σ

/-- The request on the smart socket `e` is for a service of the device, and too long. -/
def oversizedRequest (cfg : Config) (service : Bytes) (e : ASocket) (σ : Server) : Bool :=
  if cfg.host then
    decide (parseRequest service = .device) && oversizedThrough service e.transport σ
  else
    oversizedThrough service (e.transport.or (σ.acquireOneTransport cfg {} false).1) σ

/-- The data makes the request on the smart socket `e` complete, and it is too long. -/
def oversizedData (cfg : Config) (e : ASocket) (data : Bytes) (σ : Server) : Bool :=
  let buffer := e.smartSocketData ++ data
  let len := unhex buffer 4
  decide (4 ≤ buffer.length ∧ len ≠ 0 ∧ len ≤ maxPayload ∧ len + 4 ≤ buffer.length) &&
    oversizedRequest cfg (cString ((buffer.drop 4).take len)) e σ

private lemma acquireLoop_congr (ht : τ.transports = σ.transports) (target : Target)
    (list : List TPtr) (result : Option TPtr) (error : Bytes) :
    acquireLoop cfg target τ list result error = acquireLoop cfg target σ list result error := by
  induction list generalizing result error with
  | nil => rfl
  | cons t rest ih => simp only [acquireLoop, ht, ih]

lemma acquireOneTransport_congr (ht : τ.transports = σ.transports)
    (hlist : τ.transportList = σ.transportList) (target : Target) (any : Bool) :
    τ.acquireOneTransport cfg target any = σ.acquireOneTransport cfg target any := by
  simp only [acquireOneTransport, acquireLoop_congr ht, ht, hlist]

lemma oversizedRequest_congr (ht : τ.transports = σ.transports)
    (hlist : τ.transportList = σ.transportList) {e' : ASocket} (he : e'.transport = e.transport) :
    oversizedRequest cfg service e' τ = oversizedRequest cfg service e σ := by
  simp [oversizedRequest, oversizedThrough, oversized, acquireOneTransport_congr ht hlist, ht, he]

lemma oversizedData_congr (ht : τ.transports = σ.transports)
    (hlist : τ.transportList = σ.transportList) {data : Bytes} :
    oversizedData cfg e data τ = oversizedData cfg e data σ := by
  simp only [oversizedData, oversizedRequest_congr ht hlist (rfl : e.transport = e.transport)]

/-- The ways in which a request can stop the process; `big` says whether it is too long. -/
def RequestHalt (big : Bool) (h : Halt) : Prop :=
  h.Refused (big = true) ∨ h = .fatal .socketIdOverflow ∨ h = .check .fdNonnegative

variable {big : Bool}

lemma RequestHalt.of_excused {h : Halt} (he : h.Excused) : RequestHalt big h :=
  .inl (.inl he)

lemma RequestHalt.of_over {big' : Bool} {h : Halt} (hh : RequestHalt big' h)
    (hover : big' = true → big = true) : RequestHalt big h :=
  hh.imp_left fun hr => hr.imp_right fun ⟨he, ho⟩ => ⟨he, hover ho⟩

/-! ## The client -/

structure Client (s c : Ptr) (a e : ASocket) (socks : Sockets) : Prop where
  smart : socks.heap.get s = some e
  enqueue : e.enqueue = .smartSocketEnqueue
  peer : e.peer = some c
  client : socks.heap.get c = some a
  isLocal : a.isLocal = true
  back : a.peer = some s

lemma connectHostService_thread (h : Inv [] σ.socks)
    (hcl : Client s c a e σ.socks) (hid : σ.socks.localSocketNextId + 1 ≠ 0) :
    Sat (connectHostService cfg s σ.socks.heap.next c { σ with socks := σ.socks.create })
      (fun τ => Ordinary [] σ τ ∧
        ∃ a', τ.socks.heap.get c = some a' ∧ a'.isLocal = true ∧ a'.closing = false)
      Halt.Excused := by
  obtain ⟨hs, he, hpeer, hc, hl, hback⟩ := hcl
  let n := σ.socks.heap.next
  let fresh : ASocket := .newLocal σ.socks.localSocketNextId
  have hclosing : a.closing = false := h.not_closing_of_peer hc hback
  have hcn : c ≠ n := ne_next hc
  have hsn : s ≠ n := ne_next hs
  have hsc : s ≠ c := (h.paired c a s hc (by simp) hback).2.1
  have hw : fresh.WfLocal := ASocket.wfLocal_newLocal h.nextId
  let told := σ.socks.create.emit (.status c true [])
  have h1 : Inv [n, c, s] told := ((h.loosen_pair hc hback).create hid).emit _
  have hc1 : told.heap.get c = some a := (get_create_of_ne σ.socks hcn).trans hc
  have hs1 : told.heap.get s = some e := (get_create_of_ne σ.socks hsn).trans hs
  have hn1 : told.heap.get n = some fresh := get_create_self σ.socks
  have hwn : ASocket.Wf { fresh with peer := some c } :=
    ASocket.wf_of_local (hw.withPeer rfl ⟨rfl, rfl⟩ _) rfl
  refine (replaceSmartSocket_spec h1 hc1 hl hclosing hn1 hs1 he hcn.symm hsc hsn hwn nofun).bind ?_
  rintro _ rfl
  -- the new socket is made ready for the client
  have h2 : Inv [] ((told.link c n a.plain fresh).remove s) :=
    (h1.relink hc1 hn1 hl hclosing hcn.symm hsc hsn hwn nofun).remove (by simp) (by simp) (by simp)
  have hn2 : ((told.link c n a.plain fresh).remove s).heap.get n =
      some { fresh with peer := some c } := by
    rw [get_remove, if_neg hsn.symm, get_link hc1 hn1 hcn.symm, if_pos rfl]
  have hc2 : ((told.link c n a.plain fresh).remove s).heap.get c =
      some { a.plain with peer := some n } := by
    rw [get_remove, if_neg hsc.symm, get_link hc1 hn1 hcn.symm, if_neg hcn, if_pos rfl]
  have hready : Sockets.socketReady σ.transports (listTransports cfg
      { σ with socks := σ.socks.create }) n ((told.link c n a.plain fresh).remove s) =
      .ok (((told.link c n a.plain fresh).remove s).write n
        (ASocket.addRead { fresh with peer := some c })) := by
    unfold Sockets.socketReady
    rw [Sockets.deref_eq hn2]
    exact localSocketReady_eq hn2 hw.fde (h2.pendingRight hn2)
  rw [hready]
  exact ⟨.ofSocks (.single (.hostService hc hl hback hs he hid)), _,
    (get_set_of_ne _ hcn _).trans hc2, hl, hclosing⟩

lemma connectHostService_tracker (long : Bool) (h : Inv [] σ.socks) (hcl : Client s c a e σ.socks) :
    Sat (connectHostService cfg s σ.socks.heap.next c
        { σ with socks := σ.socks.addBare (.newTracker long) })
      (fun τ => Ordinary [] σ τ ∧
        ∃ a', τ.socks.heap.get c = some a' ∧ a'.isLocal = true ∧ a'.closing = false)
      Halt.Excused := by
  obtain ⟨hs, he, hpeer, hc, hl, hback⟩ := hcl
  let n := σ.socks.heap.next
  let tracker : ASocket := .newTracker long
  have hclosing : a.closing = false := h.not_closing_of_peer hc hback
  have hcn : c ≠ n := ne_next hc
  have hsn : s ≠ n := ne_next hs
  have hsc : s ≠ c := (h.paired c a s hc (by simp) hback).2.1
  let told := (σ.socks.addBare tracker).emit (.status c true [])
  have h1 : Inv [n, c, s] told :=
    ((h.loosen_pair hc hback).addBare ASocket.wf_newTracker rfl).emit _
  have hc1 : told.heap.get c = some a := (get_addBare_of_ne σ.socks tracker hcn).trans hc
  have hs1 : told.heap.get s = some e := (get_addBare_of_ne σ.socks tracker hsn).trans hs
  have hn1 : told.heap.get n = some tracker := get_addBare_self σ.socks tracker
  have hwn : ASocket.Wf { tracker with peer := some c } :=
    ASocket.wf_newTracker.withPeer rfl _
  refine (replaceSmartSocket_spec h1 hc1 hl hclosing hn1 hs1 he hcn.symm hsc hsn hwn nofun).bind ?_
  rintro _ rfl
  -- the tracker sends the list of devices to the client
  have hstep : Effs σ.rules [] σ.socks ((told.link c n a.plain tracker).remove s) :=
    .single (.track long hc hl hback hs he)
  have hn2 : ((told.link c n a.plain tracker).remove s).heap.get n =
      some { tracker with peer := some c } := by
    rw [get_remove, if_neg hsn.symm, get_link hc1 hn1 hcn.symm, if_pos rfl]
  have hc2 : ((told.link c n a.plain tracker).remove s).heap.get c =
      some { a.plain with peer := some n } := by
    rw [get_remove, if_neg hsc.symm, get_link hc1 hn1 hcn.symm, if_neg hcn, if_pos rfl]
  refine (peerReady_effs (P := σ.rules) _ (hstep.inv h) hc2 hl rfl hn2 rfl).bind ?_
  rintro τ ⟨heff, -, ⟨a', ha', hsteady⟩, -⟩
  exact ⟨.ofSocks (hstep.trans heff), a', ha', hsteady.isLocal.trans hl,
    hsteady.closing.trans hclosing⟩

/-! ## Services of the device -/

/-- The sockets after the client `c` has been handed over by the smart socket `s`: it waits for
the connection, but still wants to read. -/
def handedOver (s c : Ptr) (a : ASocket) (t : TPtr) (p : APacket) (socks : Sockets) : Sockets :=
  ((socks.write c { a.notify with peer := none, transport := some t }).emits
    [.sent t p, .opened c a.id]).remove s

inductive RequestOutcome (c : Ptr) (σ : Server) : Int × Server → Prop
  /-- the request has failed, or was answered at once -/
  | done {τ : Server} (h : Ordinary [] σ τ) : RequestOutcome c σ (-1, τ)
  /-- more data is needed, or a host service has taken over -/
  | served {τ : Server} {a : ASocket} (h : Ordinary [] σ τ) (hc : τ.socks.heap.get c = some a)
      (hl : a.isLocal = true) (hclosing : a.closing = false) : RequestOutcome c σ (0, τ)
  /-- the other side has been asked to open a stream -/
  | handedOver {τ : Server} {s : Ptr} {a e : ASocket} {t : TPtr} {p : APacket}
      (h : Ordinary [] σ τ) (hcl : Client s c a e τ.socks) (ht : τ.Attachable t)
      (hp : Sockets.IsPacket p A_OPEN a.id 0) (hsend : τ.Fits t p) :
      RequestOutcome c σ (1, { τ with socks := Server.handedOver s c a t p τ.socks })

lemma RequestOutcome.trans {x : Int × Server} (h : Ordinary [] σ τ)
    (h' : RequestOutcome c τ x) : RequestOutcome c σ x := by
  cases h' with
  | done h' => exact .done (h.trans h')
  | served h' hc hl hclosing => exact .served (h.trans h') hc hl hclosing
  | handedOver h' hcl ht hp hsend => exact .handedOver (h.trans h') hcl ht hp hsend

private lemma fail_outcome (h : Inv [] σ.socks) (hcl : Client s c a e σ.socks) {reason : Bytes} :
    Sat (smartSocketFail s (sendFail (some c) reason σ)) (RequestOutcome c σ)
      (RequestHalt big) := by
  have hsend := sendFail_apart (some c) reason σ
  obtain ⟨e', hs', he', -⟩ := (hsend.answered hcl.smart).smart
  refine (smartSocketFail_spec (hsend.ordinary.socks.inv h) hs'
    (he'.trans hcl.enqueue)).mono ?_ fun _ => .of_excused
  rintro ⟨rc, τ⟩ ⟨rfl, hτ⟩
  exact .done (hsend.ordinary.trans hτ)

lemma connectThrough_spec (hshort : service.length + 1 < UInt32.size)
    (h : Inv [] σ.socks) (hcl : Client s c a e σ.socks) :
    Sat (connectThrough service s c σ) (RequestOutcome c σ)
      (RequestHalt (oversizedThrough service e.transport σ)) := by
  unfold connectThrough
  rw [Sockets.deref_eq hcl.smart, ok_bind]
  cases ht : e.transport with
  | none => exact fail_outcome h hcl
  | some t =>
    refine (transport_spec.mono (fun _ h => h) fun _ he => .of_excused (.inr he)).bind
      fun tr htr => ?_
    refine .ite (fun hon => ?_) fun _ => fail_outcome h hcl
    have hclosing : a.closing = false := h.not_closing_of_peer hcl.client hcl.back
    have hsc : s ≠ c := (h.paired c a s hcl.client (by simp) hcl.back).2.1
    let rigged : ASocket :=
      { a with
        ready := .localSocketReadyNotify
        shutdown := none
        close := .localSocketCloseNotify
        peer := none
        transport := some t }
    have hput : σ.socks.put c rigged = σ.socks.write c rigged :=
      put_eq_write (h.pendingRight hcl.client) rfl
    have hw := (h.local_wf hcl.client hcl.isLocal).notify hclosing (some t)
    have h1 : Inv [c, s] (σ.socks.write c rigged) :=
      (h.loosen_pair hcl.client hcl.back).write hcl.client (ASocket.wf_of_local hw hcl.isLocal)
        ⟨rfl, rfl, rfl⟩ id (by simp)
    have hc1 : (σ.socks.write c rigged).heap.get c = some rigged :=
      get_set_self hcl.client _
    have hs1 : (σ.socks.write c rigged).heap.get s = some e :=
      (get_set_of_ne _ hsc _).trans hcl.smart
    rw [Sockets.deref_eq hcl.client]
    show Sat (Sockets.connectToRemote σ.transports c service (σ.socks.put c rigged) >>= _) _ _
    rw [hput]
    have hsize : (UInt32.ofNat (service.length + 1)).toNat = service.length + 1 :=
      UInt32.toNat_ofNat_of_lt' hshort
    have hover : (∃ tr', σ.transports.get t = some tr' ∧
        min maxPayload tr'.maxPayload < (UInt32.ofNat (service.length + 1)).toNat) →
        oversizedThrough service (some t) σ = true := by
      rintro ⟨tr', htr', hlong⟩
      rw [htr] at htr'
      cases htr'
      rw [hsize] at hlong
      simpa [oversizedThrough, oversized, htr, hon] using hlong
    refine ((connectToRemote_spec service hc1 rfl rfl).mono (fun _ h => h)
      fun _ he => .inl (he.imp_right fun ⟨he, hlong⟩ => ⟨he, hover hlong⟩)).bind ?_
    rintro _ ⟨p, tr', hp, hpayload, hlen, htr', hmax, rfl⟩
    have hs2 : ((σ.socks.write c rigged).emits [.sent t p, .opened c rigged.id]).heap.get s =
        some e := hs1
    rw [Sockets.deref_eq hs2]
    refine ((dismiss_spec (h1.emits _) hs2 hcl.enqueue).mono (fun _ h => h)
      fun _ => .of_excused).bind ?_
    rintro _ rfl
    exact .handedOver (.refl σ) hcl (.inl ⟨tr, htr, .inr hon⟩) hp
      (.of_open htr' hpayload hlen hmax hshort)

/-! ## Whole requests -/

lemma Answered.client (h : Answered s e σ τ) (hinv : Inv [] σ.socks)
    (hcl : Client s c a e σ.socks) : ∃ e', Client s c a e' τ.socks := by
  obtain ⟨e', hs', he', hp'⟩ := h.smart
  have hsc : c ≠ s := ((hinv.paired c a s hcl.client (by simp) hcl.back).2.1).symm
  exact ⟨e', hs', he'.trans hcl.enqueue, hp'.trans hcl.peer, (h.others c hsc).trans hcl.client,
    hcl.isLocal, hcl.back⟩

lemma smartSocketFail_outcome (h : Inv [] σ.socks) (hcl : Client s c a e σ.socks) :
    Sat (smartSocketFail s σ) (RequestOutcome c σ) (RequestHalt big) := by
  refine (smartSocketFail_spec h hcl.smart hcl.enqueue).mono ?_ fun _ => .of_excused
  rintro ⟨rc, τ⟩ ⟨rfl, hτ⟩
  exact .done hτ

lemma putData_ordinary {data : Bytes} (h : Inv [] σ.socks) (hcl : Client s c a e σ.socks) :
    Ordinary [] σ { σ with socks := σ.socks.put s { e with smartSocketData := data } } ∧
      Client s c a { e with smartSocketData := data }
        (σ.socks.put s { e with smartSocketData := data }) := by
  have hput : σ.socks.put s { e with smartSocketData := data } =
      σ.socks.write s { e with smartSocketData := data } :=
    put_eq_write (h.pendingRight hcl.smart) rfl
  have hcs : c ≠ s := ((h.paired c a s hcl.client (by simp) hcl.back).2.1).symm
  have hw : ASocket.Wf { e with smartSocketData := data } := by
    have hwf := h.wf s e hcl.smart
    unfold ASocket.Wf at hwf ⊢
    rw [hcl.enqueue] at hwf ⊢
    exact ⟨⟨hwf.1.1, hwf.1.2⟩, hwf.2⟩
  rw [hput]
  refine ⟨.ofSocks (.single (.touch hcl.smart hw ?_)), get_set_self hcl.smart _,
    hcl.enqueue, hcl.peer, (get_set_of_ne _ hcs _).trans hcl.client, hcl.isLocal, hcl.back⟩
  exact { toSteady := ⟨⟨rfl, rfl, rfl⟩, rfl, rfl, rfl, id⟩, queued := rfl, wantsWrite := rfl,
          pending := id }

lemma hostService_spec (h : Inv [] σ.socks) (hcl : Client s c a e σ.socks) :
    Sat (do
      let (s2, socks) ← hostServiceToSocket service σ.socks
      let σ := { σ with socks := socks }
      match s2 with
      | none => smartSocketFail s (sendFail (some c) (ascii "unknown host service") σ)
      | some s2 => do
        let σ ← connectHostService cfg s s2 c σ
        pure (0, σ) : Res (Int × Server)) (RequestOutcome c σ) (RequestHalt big) := by
  unfold hostServiceToSocket
  cases hostService service with
  | unknown => exact fail_outcome h hcl
  | tracker long =>
    refine ((connectHostService_tracker long h hcl).mono (fun _ h => h)
      fun _ => .of_excused).bind ?_
    rintro τ ⟨hτ, a', ha', hl, hclosing⟩
    exact .served hτ ha' hl hclosing
  | thread =>
    cases σ.socks.os.service with
    | false => exact Or.inr (Or.inr rfl)
    | true => ?_
    by_cases hid : σ.socks.localSocketNextId + 1 = 0
    · rw [createLocalSocket_overflow hid]
      exact Or.inr (Or.inl rfl)
    rw [createLocalSocket_eq hid]
    refine ((connectHostService_thread h hcl hid).mono (fun _ h => h) fun _ => .of_excused).bind ?_
    rintro τ ⟨hτ, a', ha', hl, hclosing⟩
    exact .served hτ ha' hl hclosing

lemma hostRequest_spec (hshort : service.length + 1 < UInt32.size) (h : Inv [] σ.socks)
    (hok : σ.ListenersOk) (hcl : Client s c a e σ.socks) :
    Sat (hostRequest cfg service target s c σ) (RequestOutcome c σ) (RequestHalt big) := by
  refine ((handleHostRequest_answered hshort h hok hcl.smart hcl.enqueue).mono
    (fun _ h => h) fun _ => .of_excused).bind ?_
  rintro ⟨handled, τ⟩ hτ
  obtain ⟨e', hcl'⟩ := hτ.client h hcl
  have h' : Inv [] τ.socks := hτ.ordinary.socks.inv h
  refine .ite (fun _ => ?_) fun _ => .ite (fun _ => ?_) fun _ => ?_
  · exact (smartSocketFail_outcome h' hcl').imp fun _ => .trans hτ.ordinary
  · rw [Sockets.deref_eq hcl'.smart]
    obtain ⟨hput, hcl''⟩ := putData_ordinary h' hcl'
    exact .served (hτ.ordinary.trans hput) hcl''.client hcl''.isLocal
      (h'.not_closing_of_peer hcl'.client hcl'.back)
  · exact (hostService_spec h' hcl').imp fun _ => .trans hτ.ordinary

private lemma length_strtoll (s : Bytes) : (strtoll s).2.length ≤ s.length := by
  have hdrop : (s.dropWhile fun c => c = 32 || (9 ≤ c && c ≤ 13)).length ≤ s.length :=
    (dropWhile_suffix _).length_le
  unfold strtoll
  dsimp only
  generalize (s.dropWhile fun c => c = 32 || (9 ≤ c && c ≤ 13)) = t at hdrop ⊢
  have hsign : (if (decide (t.head? = some 45) || decide (t.head? = some 43)) = true then t.tail
      else t).length ≤ s.length := by
    split
    · rw [length_tail]
      omega
    · exact hdrop
  generalize (if (decide (t.head? = some 45) || decide (t.head? = some 43)) = true then t.tail
    else t) = u at hsign ⊢
  split
  · exact Nat.le_refl _
  · rw [length_drop]
    omega

lemma length_parseRequest {rest : Bytes}
    (h : parseRequest service = .host rest target) : rest.length ≤ service.length := by
  have hdrop (n : ℕ) : (service.drop n).length ≤ service.length := by
    rw [length_drop]
    omega
  unfold parseRequest at h
  split at h
  · dsimp only at h
    split at h
    · cases h
      exact hdrop 12
    cases h
    rw [length_drop]
    exact (Nat.sub_le _ _).trans (hdrop 12)
  split at h
  · split at h
    · next id c tail hparsed =>
      have hlen := length_strtoll (service.drop 18)
      rw [hparsed] at hlen
      split at h
      · cases h
        exact (Nat.le_succ _).trans (hlen.trans (hdrop 18))
      · cases h
    · cases h
  split at h
  · cases h
    exact hdrop 9
  split at h
  · cases h
    exact hdrop 11
  split at h
  · cases h
    exact hdrop 5
  · cases h

lemma smartSocketRequest_spec (hshort : service.length + 1 < UInt32.size) (h : Inv [] σ.socks)
    (hok : σ.ListenersOk) (hcl : Client s c a e σ.socks) :
    Sat (smartSocketRequest cfg service s c σ) (RequestOutcome c σ)
      (RequestHalt (oversizedRequest cfg service e σ)) := by
  refine .ite (fun hhost => ?_) fun hhost => ?_
  · cases hparsed : parseRequest service with
    | malformed => exact .done (.refl σ)
    | host rest target =>
      have hlen := length_parseRequest hparsed
      exact hostRequest_spec (by omega) h hok hcl
    | device =>
      refine (connectThrough_spec hshort h hcl).mono (fun _ hx => hx) fun _ he => he.of_over ?_
      simp [oversizedRequest, hhost, hparsed]
  · rw [Sockets.deref_eq hcl.smart, ok_bind]
    cases ht : e.transport with
    | some t =>
      refine (connectThrough_spec hshort h hcl).mono (fun _ hx => hx) fun _ he => he.of_over ?_
      simp [oversizedRequest, hhost, ht]
    | none =>
      dsimp only
      split
      · exact fail_outcome h hcl
      next t error hacq =>
      have hτ := select_ordinary h hcl.smart hcl.enqueue (acquireOneTransport_attachable hacq)
      have hs' : (σ.socks.put s { e with transport := some t }).heap.get s =
          some { e with transport := some t } := get_set_self hcl.smart _
      obtain ⟨e', hcl'⟩ := hτ.client h hcl
      obtain rfl : { e with transport := some t } = e' :=
        Option.some_inj.mp (hs'.symm.trans hcl'.smart)
      refine (connectThrough_spec hshort (hτ.ordinary.socks.inv h) hcl').mono
        (fun _ => .trans hτ.ordinary) fun _ he => he.of_over ?_
      simp [oversizedRequest, oversizedThrough, oversized, hhost, ht, hacq]

lemma length_request {buffer : Bytes} (hlen : unhex buffer 4 ≤ maxPayload) :
    (cString ((buffer.drop 4).take (unhex buffer 4))).length + 1 < UInt32.size := by
  have htake := ( takeWhile_prefix (l := (buffer.drop 4).take (unhex buffer 4)) (· ≠ 0)).length_le
  rw [length_take] at htake
  have hmax : maxPayload + 1 < UInt32.size := by decide
  exact Nat.lt_of_le_of_lt
    (Nat.add_le_add_right (htake.trans ((Nat.min_le_left _ _).trans hlen)) 1) hmax

lemma smartSocketEnqueue_spec (data : Bytes)
    (h : Inv [] σ.socks) (hok : σ.ListenersOk) (hcl : Client s c a e σ.socks) :
    Sat (smartSocketEnqueue cfg s data σ) (RequestOutcome c σ)
      (RequestHalt (oversizedData cfg e data σ)) := by
  unfold smartSocketEnqueue
  rw [Sockets.deref_eq hcl.smart]
  obtain ⟨hput, hcl'⟩ := putData_ordinary h hcl
  have h' := hput.socks.inv h
  have hclosing := h.not_closing_of_peer hcl.client hcl.back
  have hsame (service : Bytes) : oversizedRequest cfg service
      { e with smartSocketData := e.smartSocketData ++ data } { σ with
        socks := σ.socks.put s { e with smartSocketData := e.smartSocketData ++ data } } =
      oversizedRequest cfg service e σ :=
    oversizedRequest_congr (by exact rfl) (by exact rfl) (by exact rfl)
  refine .ite (fun _ => .served hput hcl'.client hcl'.isLocal hclosing) fun hhead => ?_
  refine .ite (fun _ => ?_) fun hlen => .ite (fun _ => ?_) fun hrest => ?_
  · exact (smartSocketFail_outcome h' hcl').imp fun _ => .trans hput
  · exact .served hput hcl'.client hcl'.isLocal hclosing
  have hpeer : Sockets.nonNull e.peer = .ok c := by rw [hcl.peer]; rfl
  rw [hpeer]
  simp only [Bool.or_eq_true, decide_eq_true_eq, not_or, Nat.not_lt] at hlen
  exact (smartSocketRequest_spec (length_request hlen.2) h' (hput.listenersOk hok) hcl').mono
    (fun _ hx => RequestOutcome.trans hput hx) fun _ he => he.of_over fun hover =>
      Bool.and_eq_true_iff.mpr ⟨decide_eq_true ⟨Nat.not_lt.mp hhead, hlen.1, hlen.2,
        Nat.not_lt.mp hrest⟩, (hsame _).symm.trans hover⟩

end Server

end Adb
