import Adb.Leases
import Adb.TransportTheorems

/-!
# What the functions of the server do to the leases

Most functions of the server do not touch what the threads see of the transports; a few kick some of
them, make new ones or give one a state. `Keeps` says this, function by function.
-/

namespace Adb

open Lib

def ATransport.lease (tr : ATransport) : Lease where
  refCount := tr.refCount
  kicked := tr.kicked
  tcp := tr.isTcpDevice
  noPerm := tr.connectionState = .kCsNoPerm
  connection := tr.connection

namespace Server

variable {σ τ : Server} {cfg : Config} {t : TPtr} {tr tr' : ATransport} {α β : Type}

def leases (σ : Server) : Leases where
  transports := σ.transports.map ATransport.lease
  registration := σ.registration
  reconnectQueue := σ.reconnectQueue
  reconnecting := σ.reconnecting
  runQueue := σ.runQueue
  pendingList := σ.pendingList
  transportList := σ.transportList

lemma get_leases (htr : σ.transports.get t = some tr) :
    σ.leases.transports.get t = some tr.lease := by
  simp [leases, htr]

lemma leases_setTransport (σ : Server) (t : TPtr) (tr : ATransport) :
    (σ.setTransport t tr).leases = σ.leases.set t tr.lease := by
  simp [leases, setTransport, Leases.set, Store.map_set]

lemma leases_setTransport_same (htr : σ.transports.get t = some tr)
    (hlease : tr'.lease = tr.lease) : (σ.setTransport t tr').leases = σ.leases := by
  simp [leases, setTransport, Store.map_set_same htr hlease]

/-! ## Frames -/

/-- What `x` returns is a server, or has one, with whose transports no more has been done than
`Leases.Serves` says. -/
def Keeps (σ : Server) (server : α → Server) (x : Res α) : Prop :=
  Sat x (fun a => σ.leases.Serves (server a).leases) fun _ => True

namespace Keeps

variable {p : α → Server} {q : β → Server} {x y : Res α} {f : α → Res β}

lemma ok {a : α} (h : σ.leases.Serves (p a).leases) : Keeps σ p (.ok a) := h

lemma same {a : α} (h : (p a).leases = σ.leases) : Keeps σ p (pure a) := by
  show σ.leases.Serves (p a).leases
  rw [h]
  exact .refl

lemma stop (e : Halt) : Keeps σ p (throw e) := True.intro

lemma bind (hx : Keeps σ p x) (hf : ∀ a, Keeps (p a) q (f a)) : Keeps σ q (x >>= f) :=
  Sat.bind hx fun a ha => (hf a).imp fun _ hb => Relation.ReflTransGen.trans ha hb

lemma skip (hf : ∀ a, Keeps σ q (f a)) : Keeps σ q (x >>= f) :=
  (Sat.any x).bind fun a _ => hf a

lemma look {f : ATransport → Res β} (hf : ∀ tr, σ.transports.get t = some tr → Keeps σ q (f tr)) :
    Keeps σ q (σ.transport t >>= f) := by
  cases htr : σ.transports.get t with
  | none => simp [transport, htr, Keeps]
  | some tr =>
    rw [show σ.transport t = .ok tr by simp [transport, htr]]
    exact hf tr htr

lemma ite {c : Prop} [Decidable c] (hx : Keeps σ p x) (hy : Keeps σ p y) :
    Keeps σ p (if c then x else y) := Sat.ite (fun _ => hx) fun _ => hy

lemma congr (hx : Keeps τ p x) (h : τ.leases = σ.leases) : Keeps σ p x := by
  unfold Keeps at hx ⊢
  rw [h] at hx
  exact hx

lemma trans (hx : Keeps τ p x) (h : σ.leases.Serves τ.leases) : Keeps σ p x :=
  hx.imp fun _ hs => Relation.ReflTransGen.trans h hs

end Keeps

variable {p : APacket} {s c : Ptr} {service : Bytes} {reply : Option Ptr} {target : Target}

lemma onSockets_keeps {f : Store ATransport → Sockets → Res Sockets} :
    Keeps σ id (onSockets f σ) := .skip fun _ => .same rfl

lemma sendPacket_keeps : Keeps σ id (sendPacket p t σ) :=
  onSockets_keeps

lemma updateTransports_keeps : Keeps σ id (updateTransports cfg σ) :=
  .ite onSockets_keeps (.same rfl)

/-! ## Connections and kicks -/

lemma leases_callOnce (σ : Server) (t : TPtr) (tr : ATransport) (c : Connection)
    (queue : List RunFn)
    (hqueue : queue = if c.errorFlag then σ.runQueue else σ.runQueue ++ [.error t]) :
    leases { σ.setTransport t { tr with connection := { c with errorFlag := true } } with
      runQueue := queue } = σ.leases.callOnce t tr.lease c := by
  rw [hqueue]
  simp only [leases, setTransport, Leases.callOnce, Leases.set, Store.map_set]
  rfl

private lemma transport_top (σ : Server) (t : TPtr) :
    Sat (σ.transport t) (fun tr => σ.transports.get t = some tr) fun _ => True :=
  transport_spec.mono (fun _ h => h) fun _ _ => True.intro

lemma connectionStop_leases :
    Sat (connectionStop t σ) (fun τ => τ.leases = σ.leases.stop t) fun _ => True := by
  refine (transport_top σ t).bind fun tr htr => ?_
  have hlease := get_leases htr
  refine .ite (fun hidle => ?_) fun hrunning => ?_
  · have hstop : σ.leases.stop t = σ.leases := by
      simp only [Leases.stop, hlease]
      exact if_pos hidle
    exact hstop.symm
  · have hstop : σ.leases.stop t =
        σ.leases.callOnce t tr.lease { tr.connection with stopped := true } := by
      simp only [Leases.stop, hlease]
      exact if_neg hrunning
    show leases (if tr.connection.errorFlag = true then _ else _) = _
    rw [hstop]
    cases hflag : tr.connection.errorFlag with
    | true =>
      exact leases_callOnce σ t tr { tr.connection with stopped := true } σ.runQueue (by simp [hflag])
    | false =>
      exact leases_callOnce σ t tr { tr.connection with stopped := true }
        (σ.runQueue ++ [.error t]) (by simp [hflag])

lemma kick_keeps : Keeps σ id (kick t σ) := by
  refine .look fun tr htr => Sat.ite (fun _ => .refl) fun hnot => ?_
  refine connectionStop_leases.imp fun τ hτ => ?_
  rw [id_eq, hτ, leases_setTransport]
  have hfirst : tr.lease.kicked = false := Bool.not_eq_true _ ▸ hnot
  exact .single (.kick (get_leases htr) hfirst)

lemma kickTransport_keeps : Keeps σ id (kickTransport t σ) :=
  .ite kick_keeps (.same rfl)

lemma kickAll_keeps {select : ATransport → Bool} {list : List TPtr} :
    Keeps σ id (kickAll select list σ) := by
  induction list generalizing σ with
  | nil => exact .same rfl
  | cons t rest ih =>
    refine .skip fun tr => ?_
    split
    · exact .bind kick_keeps fun _ => ih
    · exact ih

/-! ## Going online and offline -/

lemma handleOnline_keeps : Keeps σ id (handleOnline t σ) :=
  .look fun _ htr => .same (leases_setTransport_same htr rfl)

lemma leases_runDisconnectFuncs {ds : List Disconnect} (σ : Server) :
    (runDisconnectFuncs ds σ).leases = σ.leases ∧
      (runDisconnectFuncs ds σ).transports = σ.transports := by
  induction ds generalizing σ with
  | nil => exact ⟨rfl, rfl⟩
  | cons d rest ih =>
    cases d with
    | listener l => exact ih _
    | usb => exact ih _

lemma runDisconnects_leases :
    Sat (runDisconnects t σ) (fun τ => τ.leases = σ.leases) fun _ => True := by
  refine (transport_top σ t).bind fun tr htr => ?_
  obtain ⟨hleases, htransports⟩ := leases_runDisconnectFuncs σ
  have htr' : (runDisconnectFuncs tr.disconnects σ).transports.get t = some tr := by
    rw [htransports]
    exact htr
  have hset := leases_setTransport_same htr'
    (show ATransport.lease { tr with disconnects := [] } = tr.lease from rfl)
  exact hset.trans hleases

lemma handleOffline_leases (t : TPtr) (σ : Server) :
    Sat (handleOffline t σ) (fun τ => ∃ k, σ.leases.transports.get t = some k ∧
      (τ.leases = σ.leases ∨ τ.leases = σ.leases.set t { k with noPerm := false }))
      fun _ => True := by
  refine (transport_top σ t).bind fun tr htr => ?_
  refine .ite (fun _ => ⟨_, get_leases htr, .inl rfl⟩) fun _ => ?_
  have hset := leases_setTransport σ t { tr with connectionState := .kCsOffline, online := false }
  refine Sat.bind (Q := fun τ => τ.leases = σ.leases.set t { tr.lease with noPerm := false })
    ?_ fun τ hτ => ?_
  · exact (Sat.any _).bind fun _ _ => hset
  · refine runDisconnects_leases.imp fun ρ hρ => ?_
    exact ⟨_, get_leases htr, .inr (hρ.trans hτ)⟩

lemma handleOffline_keeps : Keeps σ id (handleOffline t σ) := by
  refine (handleOffline_leases t σ).imp ?_
  rintro τ ⟨k, hk, hτ | hτ⟩
  · rw [id_eq, hτ]
    exact .refl
  · rw [id_eq, hτ]
    exact .single (.permit hk)

lemma sendConnect_keeps : Keeps σ id (sendConnect cfg t σ) :=
  .skip fun _ => .ite (.stop _) sendPacket_keeps

/-! ## New transports -/

lemma leases_addTransport :
    (addTransport tr σ).leases = σ.leases.add { tr with id := σ.nextTransportId }.lease := by
  simp only [leases, addTransport, Leases.add, Leases.post, Store.map_alloc]
  rfl

lemma registerUsbTransport_serves {serial devpath : Bytes} {writeable : Bool} :
    σ.leases.Serves (registerUsbTransport serial devpath writeable σ).leases := by
  rw [registerUsbTransport, leases_addTransport]
  exact .single (.add _ _)

lemma registerSocketTransport_serves {serial : Bytes} :
    σ.leases.Serves (registerSocketTransport serial σ).leases := by
  unfold registerSocketTransport
  dsimp only
  split
  · exact .refl
  · rw [leases_addTransport]
    exact .single (.add _ _)

lemma unregisterUsbTransport_serves : σ.leases.Serves (unregisterUsbTransport t σ).leases := by
  unfold unregisterUsbTransport
  split
  · exact .refl
  next tr htr =>
  split
  · next husb =>
    refine .single (.unlist (get_leases htr) ?_)
    simp [ATransport.lease, ATransport.isTcpDevice, husb.1]
  · exact .refl

/-! ## Listeners -/

@[simp] lemma leases_emit {o : Obs} : (σ.emit o).leases = σ.leases := rfl

@[simp] lemma leases_sendOkay : (sendOkay reply σ).leases = σ.leases := by
  cases reply with
  | none => rfl
  | some s => rfl

@[simp] lemma leases_sendFail {reason : Bytes} : (sendFail reply reason σ).leases = σ.leases := by
  cases reply with
  | none => rfl
  | some s => rfl

@[simp] lemma leases_sendProtocolString {text : Bytes} :
    (sendProtocolString reply text σ).leases = σ.leases := by
  cases reply with
  | none => rfl
  | some s => rfl

@[simp] lemma leases_sendOkayString {text : Bytes} :
    (sendOkayString reply text σ).leases = σ.leases := by
  simp [sendOkayString]

lemma addDisconnect_keeps {d : Disconnect} : Keeps σ id (addDisconnect t d σ) :=
  .look fun _ htr => .same (leases_setTransport_same htr rfl)

lemma removeDisconnect_keeps {d : Disconnect} : Keeps σ id (removeDisconnect t d σ) :=
  .look fun _ htr => .same (leases_setTransport_same htr rfl)

lemma eraseListener_keeps {l : AListener} : Keeps σ id (eraseListener l σ) := by
  unfold eraseListener
  split
  · exact .same rfl
  · exact .congr removeDisconnect_keeps rfl

variable {name : Bytes}

lemma removeListener_keeps : Keeps σ Prod.snd (removeListener name σ) := by
  unfold removeListener
  split
  · exact .same rfl
  · exact .bind eraseListener_keeps fun _ => .same rfl

lemma removeAllListeners_keeps : Keeps σ id (removeAllListeners σ) := by
  unfold removeAllListeners
  generalize σ.listenerList.filter _ = list
  induction list generalizing σ with
  | nil => exact .same rfl
  | cons l rest ih => exact .bind eraseListener_keeps fun _ => ih

variable {noRebind : Bool}

lemma rebindListener_keeps {l : AListener} {connectTo : Bytes} :
    Keeps σ Prod.snd (rebindListener l connectTo t noRebind σ) := by
  refine .ite (.same rfl) (.ite (.same rfl) ?_)
  split
  · refine .skip fun old => .bind removeDisconnect_keeps fun τ => ?_
    exact .bind addDisconnect_keeps fun _ => .same rfl
  · exact .same rfl

lemma installListener_keeps {connectTo : Bytes} :
    Keeps σ Prod.snd (installListener name connectTo t noRebind σ) := by
  unfold installListener
  split
  · exact rebindListener_keeps
  split
  · exact .same rfl
  · exact .bind (p := id) (.congr addDisconnect_keeps rfl) fun _ => .same rfl

lemma leases_forwardReply {r : Installed} :
    (forwardReply cfg service r reply σ).leases = σ.leases := by
  unfold forwardReply
  split
  · split
    · split
      · simp
      · simp
    · split
      · simp
      · simp
  · simp

lemma killForward_keeps : Keeps σ id (killForward cfg service reply σ) := by
  unfold killForward
  split
  · refine .ite (.same leases_sendFail) ?_
    exact .bind removeListener_keeps fun a => .same leases_forwardReply
  · exact .same leases_sendFail

lemma forward_keeps : Keeps σ id (forward cfg service noRebind t reply σ) := by
  unfold forward
  split
  · refine .ite (.same leases_sendFail) ?_
    exact .bind installListener_keeps fun a => .same leases_forwardReply
  · exact .same leases_sendFail

lemma handleForwardRequest_keeps {acquire : Server → Option TPtr × Bytes} :
    Keeps σ Prod.snd (handleForwardRequest cfg service acquire reply σ) := by
  have hokay (τ : Server) : (if cfg.host = true then sendOkay reply τ else τ).leases = τ.leases := by
    split
    · exact leases_sendOkay
    · rfl
  refine .ite (.skip fun _ => .same ?_) (.ite ?_ (.ite ?_ (.same rfl)))
  · exact (leases_sendProtocolString).trans (hokay σ)
  · refine .bind removeAllListeners_keeps fun τ => .same ?_
    exact (leases_sendOkay).trans (hokay τ)
  split
  · exact .same leases_sendFail
  dsimp only
  split
  · exact .bind killForward_keeps fun _ => .same rfl
  split
  · exact .bind forward_keeps fun _ => .same rfl
  · exact .bind forward_keeps fun _ => .same rfl

/-! ## Handshakes -/

lemma serves_setState {state : ConnectionState} (htr : σ.transports.get t = some tr)
    (hstate : state ≠ .kCsNoPerm) :
    σ.leases.Serves (σ.setTransport t { tr with connectionState := state }).leases := by
  have hlease : ({ tr with connectionState := state } : ATransport).lease =
      { tr.lease with noPerm := false } := by
    simp [ATransport.lease, ATransport.isTcpDevice, hstate]
  rw [leases_setTransport, hlease]
  exact .single (.permit (get_leases htr))

lemma sendAuthRequest_keeps : Keeps σ id (sendAuthRequest t σ) := by
  refine .look fun tr htr => ?_
  have hset := leases_setTransport_same htr (show ATransport.lease { tr with
    token := σ.socks.os.urandom.take tokenSize ++
      tr.token.drop (σ.socks.os.urandom.take tokenSize).length } = tr.lease from rfl)
  exact .ite (.same hset) (.congr sendPacket_keeps hset)

lemma sendAuthPublickey_keeps : Keeps σ id (sendAuthPublickey t σ) :=
  .ite (.same rfl) sendPacket_keeps

lemma nextKey_keeps : Keeps σ Prod.snd (nextKey t σ) :=
  .look fun _ htr => .same (leases_setTransport_same htr rfl)

lemma sendAuthResponse_keeps {token : Bytes} : Keeps σ id (sendAuthResponse token t σ) := by
  refine .bind nextKey_keeps fun a => ?_
  dsimp only
  split
  · exact .look fun _ htr => .trans sendAuthPublickey_keeps (serves_setState htr (by decide))
  · exact .skip fun _ => .ite (.same rfl) sendPacket_keeps

lemma adbdAuthVerified_keeps : Keeps σ id (adbdAuthVerified cfg t σ) :=
  .bind (.congr handleOnline_keeps rfl) fun _ => sendConnect_keeps

lemma adbdAuthConfirmKey_keeps {key : Bytes} : Keeps σ id (adbdAuthConfirmKey key t σ) := by
  refine .bind (p := id) (.ite (.congr addDisconnect_keeps rfl) (.same rfl)) fun τ => ?_
  refine .ite ?_ (.same rfl)
  unfold forwardKey
  split
  · exact .stop _
  · exact .ite (.same rfl) (.ite (.same rfl) (.same rfl))

lemma adbdAuthEvent_keeps {response : Bytes} : Keeps σ id (adbdAuthEvent cfg response σ) := by
  refine .ite (.same rfl) (.ite ?_ (.same rfl))
  split
  · exact .same rfl
  · exact .congr adbdAuthVerified_keeps rfl

lemma adbdAuthListener_keeps : Keeps σ id (adbdAuthListener σ) :=
  .ite (.skip fun _ => .congr sendAuthRequest_keeps rfl) (.same rfl)

lemma acceptConnection_keeps : Keeps σ id (acceptConnection cfg t σ) :=
  .ite handleOnline_keeps (.ite sendAuthRequest_keeps
    (.bind handleOnline_keeps fun _ => sendConnect_keeps))

lemma lease_parseProperty {prop : Bytes} : (parseProperty prop tr).lease = tr.lease := by
  unfold parseProperty
  split
  · split
    · rfl
    split
    · rfl
    split
    · rfl
    split
    · rfl
    · rfl
  · rfl

lemma bannerState_ne (type : Bytes) : bannerState type ≠ .kCsNoPerm := by
  have honline := online_bannerState type
  intro hstate
  rw [hstate] at honline
  cases honline

lemma lease_parseBanner (banner : Bytes) (tr : ATransport) :
    (parseBanner banner tr).lease = { tr.lease with noPerm := false } := by
  have hfold (props : List Bytes) (tr : ATransport) :
      (props.foldl (fun t prop => parseProperty prop t) tr).lease = tr.lease := by
    induction props generalizing tr with
    | nil => rfl
    | cons prop rest ih => rw [List.foldl_cons, ih, lease_parseProperty]
  have hset (tr : ATransport) : ({ tr with
      connectionState := bannerState ((banner.splitOn 58).headD []) } : ATransport).lease =
        { tr.lease with noPerm := false } := by
    simp [ATransport.lease, ATransport.isTcpDevice, bannerState_ne]
  unfold parseBanner
  rw [hset, hfold]
  rfl

lemma handleNewConnection_keeps : Keeps σ id (handleNewConnection cfg t p σ) := by
  refine .bind handleOffline_keeps fun τ => .look fun tr htr => ?_
  refine .trans (.bind acceptConnection_keeps fun ρ => updateTransports_keeps) ?_
  rw [id_eq, leases_setTransport, lease_parseBanner]
  exact .single (.permit (k := tr.lease) (get_leases htr))

lemma authUnknown_keeps : Keeps σ id (authUnknown t σ) :=
  .look fun _ htr => .trans handleOffline_keeps (serves_setState htr (by decide))

lemma authToken_keeps : Keeps σ id (authToken t p σ) :=
  .look fun _ htr => .trans sendAuthResponse_keeps (serves_setState htr (by decide))

lemma authSignature_keeps : Keeps σ id (authSignature cfg t p σ) := by
  refine .look fun tr htr => .ite ?_ ?_
  · refine .bind adbdAuthVerified_keeps fun τ => .look fun _ htr' => .same ?_
    exact leases_setTransport_same htr' rfl
  · exact .congr sendAuthRequest_keeps (leases_setTransport_same htr rfl)

lemma handleAuth_keeps : Keeps σ id (handleAuth cfg t p σ) :=
  .ite (.ite authToken_keeps authUnknown_keeps) (.ite authSignature_keeps
      (.ite adbdAuthConfirmKey_keeps authUnknown_keeps))

/-! ## Packets of streams -/

lemma createLocalServiceSocket_keeps :
    Keeps σ Prod.snd (createLocalServiceSocket cfg name t σ) := by
  refine .bind (p := Prod.snd) ?_ fun a => .ite (.skip fun _ => .skip fun _ => .same rfl) (.same rfl)
  refine .ite (.same rfl) (.ite (.same rfl) (.ite ?_ (.same rfl)))
  exact .bind handleForwardRequest_keeps fun _ => .same rfl

lemma handleOpen_keeps : Keeps σ id (handleOpen cfg t p σ) := by
  refine .skip fun tr => .ite ?_ (.same rfl)
  refine .bind createLocalServiceSocket_keeps fun a => ?_
  dsimp only
  split
  · exact sendPacket_keeps
  · refine .skip fun _ => .skip fun _ => .skip fun _ => ?_
    refine .congr (.bind sendPacket_keeps fun τ => onSockets_keeps) rfl

lemma handleOkay_keeps : Keeps σ id (handleOkay cfg t p σ) := by
  refine .skip fun tr => .ite (.skip fun found => ?_) (.same rfl)
  split
  · exact sendPacket_keeps
  refine .skip fun a => ?_
  split
  · exact .skip fun _ => .skip fun _ => .congr onSockets_keeps rfl
  · exact .skip fun _ => .ite onSockets_keeps (.same rfl)

lemma handleClse_keeps : Keeps σ id (handleClse t p σ) := by
  refine .skip fun tr => .ite (.skip fun found => ?_) (.same rfl)
  split
  · exact .same rfl
  refine .skip fun a => ?_
  split
  · exact .skip fun _ => .ite (.same rfl) onSockets_keeps
  · exact .skip fun _ => .skip fun _ => .ite (.same rfl) onSockets_keeps

lemma handleWrte_keeps : Keeps σ id (handleWrte t p σ) := by
  refine .skip fun tr => .ite (.skip fun found => ?_) (.same rfl)
  split
  · exact .same rfl
  · refine .skip fun a => ?_
    exact .ite (.skip fun _ => .congr sendPacket_keeps rfl) (.same rfl)

lemma handlePacket_keeps : Keeps σ id (handlePacket cfg t p σ) := by
  refine .skip fun _ => .congr (τ := σ.emit (.handled t p)) ?_ rfl
  exact .ite handleNewConnection_keeps (.ite handleAuth_keeps
    (.ite handleOpen_keeps (.ite handleOkay_keeps (.ite handleClse_keeps
      (.ite handleWrte_keeps (.same rfl))))))

/-! ## Requests to the host server -/

lemma leases_reportTransport {report : ATransport → Bytes} :
    (reportTransport cfg target report c σ).leases = σ.leases := by
  unfold reportTransport
  split
  · exact leases_sendFail
  split
  · rfl
  · exact leases_sendOkayString

lemma switchTransport_keeps : Keeps σ Prod.snd (switchTransport cfg service target s c σ) := by
  unfold switchTransport
  extract_lets choose
  have hchoose (target : Target) : Keeps σ Prod.snd (choose target) := by
    dsimp only [choose]
    split
    · exact .same leases_sendFail
    · exact .skip fun _ => .same leases_sendOkay
  refine .ite ?_ (.ite (hchoose _) (.ite (hchoose _) (.ite (hchoose _) (.ite (hchoose _)
    (hchoose _)))))
  split
  · exact hchoose _
  · exact .same leases_sendFail

lemma reconnectOffline_keeps : Keeps σ id (reconnectOffline c σ) :=
  .bind kickAll_keeps fun _ => .same leases_sendOkayString

lemma disconnectRequest_keeps {address : Bytes} :
    Keeps σ id (disconnectRequest cfg address c σ) := by
  refine .ite (.bind kickAll_keeps fun τ => .same leases_sendOkayString) ?_
  split
  · exact .same leases_sendFail
  split
  · exact .same leases_sendFail
  · exact .bind kickTransport_keeps fun τ => .same leases_sendOkayString

lemma reconnectRequest_keeps : Keeps σ id (reconnectRequest cfg target c σ) := by
  unfold reconnectRequest
  split
  · exact .same leases_sendOkayString
  · exact .bind kickTransport_keeps fun τ => .skip fun _ => .same leases_sendOkayString

lemma handleHostRequest_keeps : Keeps σ Prod.snd (handleHostRequest cfg service target s c σ) := by
  have hreport (report : ATransport → Bytes) : Keeps σ Prod.snd
      (pure (true, reportTransport cfg target report c σ)) :=
    .same leases_reportTransport
  refine .ite (.stop _) (.ite switchTransport_keeps (.ite (.same ?_) (.ite ?_
    (.ite (hreport _) (.ite (.same leases_sendOkayString) (.ite ?_
      (.ite (.same leases_sendOkayString) (.ite (hreport _) (.ite (hreport _)
        (.ite (hreport _) (.ite ?_ (.ite ?_ handleForwardRequest_keeps))))))))))))
  · split
    · exact leases_sendOkayString
    · rfl
  · exact .bind reconnectOffline_keeps fun _ => .same rfl
  · exact .bind disconnectRequest_keeps fun _ => .same rfl
  · refine .ok ?_
    split
    · exact registerSocketTransport_serves
    · exact .refl
  · exact .bind reconnectRequest_keeps fun _ => .same rfl

lemma smartSocketFail_keeps : Keeps σ Prod.snd (smartSocketFail s σ) :=
  .bind onSockets_keeps fun _ => .same rfl

lemma connectThrough_keeps : Keeps σ Prod.snd (connectThrough service s c σ) := by
  have hfail (reason : Bytes) : Keeps σ Prod.snd (smartSocketFail s (sendFail (some c) reason σ)) :=
    .congr smartSocketFail_keeps leases_sendFail
  refine .skip fun e => ?_
  split
  · exact hfail _
  · refine .skip fun tr => .ite ?_ (hfail _)
    exact .skip fun _ => .skip fun _ => .skip fun _ => .skip fun _ => .same rfl

lemma hostRequest_keeps : Keeps σ Prod.snd (hostRequest cfg service target s c σ) := by
  refine .bind handleHostRequest_keeps fun a => ?_
  refine .ite smartSocketFail_keeps (.ite (.skip fun _ => .same rfl) (.skip fun found => ?_))
  dsimp only
  split
  · exact .congr smartSocketFail_keeps leases_sendFail
  · exact .bind (p := id) (.skip fun _ => .skip fun _ => .same rfl) fun _ => .same rfl

lemma smartSocketRequest_keeps : Keeps σ Prod.snd (smartSocketRequest cfg service s c σ) := by
  refine .ite ?_ (.skip fun e => ?_)
  · split
    · exact .same rfl
    · exact hostRequest_keeps
    · exact connectThrough_keeps
  · split
    · exact connectThrough_keeps
    split
    · exact .congr smartSocketFail_keeps leases_sendFail
    · exact .congr connectThrough_keeps rfl

lemma smartSocketEnqueue_keeps {data : Bytes} :
    Keeps σ Prod.snd (smartSocketEnqueue cfg s data σ) := by
  refine .skip fun e => .ite (.same rfl) (.ite ?_ (.ite (.same rfl) (.skip fun c => ?_)))
  · exact .congr smartSocketFail_keeps rfl
  · exact .congr smartSocketRequest_keeps rfl

/-! ## Events -/

lemma socketEnqueue_keeps {r : Ptr} {data : Bytes} :
    Keeps σ Prod.snd (socketEnqueue cfg r data σ) := by
  refine .skip fun b => ?_
  split
  · exact .skip fun _ => .same rfl
  · exact .skip fun _ => .same rfl
  · exact smartSocketEnqueue_keeps
  · exact .skip fun _ => .same rfl

lemma closeOnEof_keeps {isEof : Bool} : Keeps σ id (closeOnEof s isEof σ) :=
  .ite onSockets_keeps (.same rfl)

lemma localSocketFlushOutgoing_keeps : Keeps σ id (localSocketFlushOutgoing cfg s σ) := by
  refine .skip fun a => .skip fun limit => .ite (.congr closeOnEof_keeps rfl) ?_
  split
  · exact .congr closeOnEof_keeps rfl
  refine .congr (.bind socketEnqueue_keeps fun b => .ite (.same rfl) ?_) rfl
  split
  · exact .bind onSockets_keeps fun τ => closeOnEof_keeps
  · exact closeOnEof_keeps

lemma readEvent_keeps {ev : Events} : Keeps σ id (readEvent cfg s ev σ) :=
  .ite localSocketFlushOutgoing_keeps (.same rfl)

lemma localSocketEventFunc_keeps {ev : Events} : Keeps σ id (localSocketEventFunc cfg s ev σ) := by
  refine .ite (.skip fun result => ?_) readEvent_keeps
  dsimp only
  split
  · exact .same rfl
  · exact .congr readEvent_keeps rfl
  · refine .skip fun _ => .skip fun _ => .congr ?_ rfl
    exact .bind onSockets_keeps fun τ => readEvent_keeps

lemma fdeventCallFdfunc_keeps : Keeps σ id (fdeventCallFdfunc cfg σ) := by
  unfold fdeventCallFdfunc
  split
  · exact .same rfl
  refine .skip fun a => ?_
  split
  · exact .stop _
  · exact .skip fun _ => .congr localSocketEventFunc_keeps rfl

lemma listenerEvent_keeps {l : ℕ} : Keeps σ id (listenerEvent cfg l σ) := by
  unfold listenerEvent
  split
  · exact .same rfl
  refine .skip fun a => ?_
  dsimp only
  split
  · exact .skip fun _ => .same rfl
  · exact .skip fun _ => .skip fun _ => .same rfl

end Server

end Adb
