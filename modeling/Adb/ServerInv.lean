import Adb.EventLoop
import Adb.SocketsTheorems

/-!
# The server between two callbacks

What holds of the transports and listeners in every reachable state, and the relation `Ordinary`: no
transport changes its connection state, goes online or offline, or is deleted. All callbacks but a
few are ordinary.
-/

namespace Adb

open Lib Store

def TMsg.transport : TMsg → TPtr
  | .register t => t
  | .remove t => t

/-- What handshakes leave in a transport: the version of the protocol, and the keys that have not
been tried yet. -/
def ATransport.terms (tr : ATransport) : Int × List (Option PrivateKey) :=
  (tr.protocolVersion, tr.keys)

structure ATransport.Alike (tr tr' : ATransport) : Prop where
  connectionState : tr'.connectionState = tr.connectionState
  online : tr'.online = tr.online
  refCount : tr'.refCount = tr.refCount
  maxPayload : tr'.maxPayload = tr.maxPayload
  terms : tr'.terms = tr.terms

lemma ATransport.Alike.refl (tr : ATransport) : tr.Alike tr := ⟨rfl, rfl, rfl, rfl, rfl⟩

lemma ATransport.Alike.trans {tr tr' tr'' : ATransport} (h : tr.Alike tr') (h' : tr'.Alike tr'') :
    tr.Alike tr'' :=
  ⟨h'.connectionState.trans h.connectionState, h'.online.trans h.online,
    h'.refCount.trans h.refCount, h'.maxPayload.trans h.maxPayload, h'.terms.trans h.terms⟩

structure ATransport.New (tr : ATransport) : Prop where
  connectionState : connectionStateIsOnline tr.connectionState = false
  online : tr.online = false
  refCount : tr.refCount = 0
  maxPayload : tr.maxPayload = Adb.maxPayload
  terms : tr.terms = (0x01000000, [])

structure SameTransports (S T : Store ATransport) : Prop where
  back : ∀ t tr', T.get t = some tr' → ∃ tr, S.get t = some tr ∧ tr.Alike tr'
  forth : ∀ t tr, S.get t = some tr → ∃ tr', T.get t = some tr'
  next : T.next = S.next

namespace SameTransports

variable {S T U : Store ATransport} {t : TPtr} {tr tr' : ATransport}

lemma refl (S : Store ATransport) : SameTransports S S :=
  ⟨fun _ tr h => ⟨tr, h, .refl tr⟩, fun _ tr h => ⟨tr, h⟩, rfl⟩

lemma set (htr : S.get t = some tr) (hal : tr.Alike tr') : SameTransports S (S.set t tr') where
  back u tu hu := by
    by_cases hut : u = t
    · subst hut
      rw [get_set_self htr] at hu
      cases hu
      exact ⟨tr, htr, hal⟩
    · rw [get_set_of_ne _ hut] at hu
      exact ⟨tu, hu, .refl tu⟩
  forth u tu hu := by
    by_cases hut : u = t
    · subst hut
      exact ⟨tr', get_set_self htr tr'⟩
    · exact ⟨tu, (get_set_of_ne _ hut tr').trans hu⟩
  next := rfl

lemma trans (h : SameTransports S T) (h' : SameTransports T U) : SameTransports S U where
  back t tr'' h'' := by
    obtain ⟨tr', htr', hal'⟩ := h'.back t tr'' h''
    obtain ⟨tr, htr, hal⟩ := h.back t tr' htr'
    exact ⟨tr, htr, hal.trans hal'⟩
  forth t tr htr := by
    obtain ⟨tr', htr'⟩ := h.forth t tr htr
    exact h'.forth t tr' htr'
  next := h'.next.trans h.next

lemma refCount (h : SameTransports S T) (t : TPtr) :
    ((T.get t).map (·.refCount)).getD 0 = ((S.get t).map (·.refCount)).getD 0 := by
  cases hT : T.get t with
  | some tr' =>
    obtain ⟨tr, htr, hal⟩ := h.back t tr' hT
    simp [htr, hal.refCount]
  | none =>
    cases hS : S.get t with
    | none => rfl
    | some tr =>
      obtain ⟨tr', htr'⟩ := h.forth t tr hS
      rw [hT] at htr'
      cases htr'

end SameTransports

namespace Server

/-! ## Transports -/

def Attachable (σ : Server) (t : TPtr) : Prop :=
  (∃ tr, σ.transports.get t = some tr ∧
    (tr.online = true ∨ connectionStateIsOnline tr.connectionState = true)) ∨
  ∃ x ∈ σ.listenerList, x.transport = some t

def Online (σ : Server) (t : TPtr) : Prop :=
  ∃ tr, σ.transports.get t = some tr ∧ tr.online = true

def NotOffline (σ : Server) (t : TPtr) : Prop :=
  ∀ tr, σ.transports.get t = some tr → tr.online = true

def limit (σ : Server) (t : TPtr) : ℕ := ((σ.transports.get t).map (·.maxPayload)).getD maxPayload

structure Fits (σ : Server) (t : TPtr) (p : APacket) : Prop where
  length : p.msg.dataLength.toNat = p.payload.length
  max : p.payload.length ≤ maxPayload
  limit : p.payload.length ≤ σ.limit t
  alive : t < σ.transports.next → ∃ tr, σ.transports.get t = some tr

lemma Fits.of_open {σ : Server} {t : TPtr} {tr : ATransport} {p : APacket} {destination : Bytes}
    (htr : σ.transports.get t = some tr) (hpayload : p.payload = destination ++ [0])
    (hlen : p.msg.dataLength = .ofNat (destination.length + 1))
    (hmax : p.msg.dataLength.toNat ≤ min Adb.maxPayload tr.maxPayload)
    (hshort : destination.length + 1 < UInt32.size) : σ.Fits t p := by
  have hsize : p.msg.dataLength.toNat = p.payload.length := by
    rw [hlen, hpayload, UInt32.toNat_ofNat_of_lt' hshort, List.length_append, List.length_singleton]
  rw [hsize] at hmax
  refine ⟨hsize, hmax.trans (Nat.min_le_left _ _), ?_, fun _ => ⟨tr, htr⟩⟩
  simpa [Server.limit, htr] using hmax.trans (Nat.min_le_right _ _)

def rules (σ : Server) : Sockets.Rules := ⟨σ.Attachable, σ.Online, σ.Fits⟩

/-- The references to `t` that the main thread has not come to yet: messages to
`transport_registration_func` and attempts to reconnect. -/
def tokens (σ : Server) (t : TPtr) : ℕ :=
  σ.registration.countP (·.transport = t) + σ.reconnectQueue.countP (·.transport = t) +
    if σ.reconnecting.any (·.transport = t) then 1 else 0

def refs (σ : Server) (t : TPtr) : ℕ := ((σ.transports.get t).map (·.refCount)).getD 0

/-- A transport is either connected, or somebody is about to connect or delete it. -/
structure TokensOk (σ : Server) : Prop where
  one : ∀ t, σ.refs t + σ.tokens t ≤ 1
  fresh : ∀ t, σ.transports.next ≤ t → σ.tokens t = 0

/-! ## Listeners -/

structure ListenersOk (σ : Server) : Prop where
  /-- listeners are told apart by their numbers -/
  nums : (σ.listenerList.map (·.num)).Nodup
  fresh : ∀ x ∈ σ.listenerList, x.num < σ.nextListener
  known : ∀ x ∈ σ.listenerList, ∀ t, x.transport = some t → t < σ.transports.next
  /-- the transport of a listener will disconnect it -/
  linked : ∀ x ∈ σ.listenerList, ∀ t tr, x.transport = some t → σ.transports.get t = some tr →
    .listener x.num ∈ tr.disconnects
  /-- only the listener of the smart sockets has no transport -/
  owned : ∀ x ∈ σ.listenerList, x.transport = none → x.special = true
  forwards : ∀ x ∈ σ.listenerList, x.func = .listenerEventFunc → x.transport ≠ none
  /-- destinations come from packets and requests, whose length is limited -/
  short : ∀ x ∈ σ.listenerList, x.connectTo.length + 1 < UInt32.size

/-! ## Ordinary steps -/

/-- Sockets are served and requests are answered, and no transport is affected. -/
structure Ordinary (l : List Sockets.Act) (σ τ : Server) : Prop where
  socks : Sockets.Effs σ.rules l σ.socks τ.socks
  transports : ∀ t tr', τ.transports.get t = some tr' →
    (∃ tr, σ.transports.get t = some tr ∧ tr.Alike tr') ∨ σ.transports.next ≤ t ∧ tr'.New
  kept : ∀ t tr, σ.transports.get t = some tr → ∃ tr', τ.transports.get t = some tr'
  next : σ.transports.next ≤ τ.transports.next
  listeners : ∀ x ∈ τ.listenerList, ∀ t, x.transport = some t → σ.Attachable t
  listenersOk : σ.ListenersOk → τ.ListenersOk
  usbTransport : τ.usbTransport = σ.usbTransport
  needsRetry : τ.needsRetry = σ.needsRetry
  frameworkFd : τ.frameworkFd = σ.frameworkFd
  tokensOk : σ.TokensOk → τ.TokensOk

namespace Ordinary

variable {σ τ ρ : Server} {l m : List Sockets.Act} {t : TPtr} {tr tr' : ATransport}

lemma attachable (h : Ordinary l σ τ) (ht : τ.Attachable t) : σ.Attachable t := by
  rcases ht with ⟨tr', htr', hon⟩ | ⟨x, hx, hxt⟩
  · rcases h.transports t tr' htr' with ⟨tr, htr, hal⟩ | ⟨-, hnew⟩
    · rw [hal.online, hal.connectionState] at hon
      exact .inl ⟨tr, htr, hon⟩
    · rw [hnew.online, hnew.connectionState] at hon
      rcases hon with h | h <;> cases h
  · exact h.listeners x hx t hxt

lemma online_back (h : Ordinary l σ τ) (ht : τ.Online t) : σ.Online t := by
  obtain ⟨tr', htr', hon⟩ := ht
  rcases h.transports t tr' htr' with ⟨tr, htr, hal⟩ | ⟨-, hnew⟩
  · exact ⟨tr, htr, hal.online.symm.trans hon⟩
  · rw [hnew.online] at hon
    cases hon

lemma limit (h : Ordinary l σ τ) (t : TPtr) : τ.limit t = σ.limit t := by
  unfold Server.limit
  cases hτ : τ.transports.get t with
  | some tr' =>
    rcases h.transports t tr' hτ with ⟨tr, htr, hal⟩ | ⟨hn, hnew⟩
    · simp [htr, hal.maxPayload]
    · simp [σ.transports.fresh t hn, hnew.maxPayload]
  | none =>
    cases hσ : σ.transports.get t with
    | none => rfl
    | some tr =>
      obtain ⟨tr', htr'⟩ := h.kept t tr hσ
      rw [hτ] at htr'
      cases htr'

lemma alive (h : Ordinary l σ τ) (ht : t < τ.transports.next → ∃ tr, τ.transports.get t = some tr)
    (hlt : t < σ.transports.next) : ∃ tr, σ.transports.get t = some tr := by
  obtain ⟨tr', htr'⟩ := ht (Nat.lt_of_lt_of_le hlt h.next)
  rcases h.transports t tr' htr' with ⟨tr, htr, -⟩ | ⟨hle, -⟩
  · exact ⟨tr, htr⟩
  · exact absurd hlt (Nat.not_lt.mpr hle)

lemma rules_le (h : Ordinary l σ τ) : τ.rules.Le σ.rules :=
  ⟨fun _ => h.attachable, fun _ => h.online_back, fun t _ hp =>
    ⟨hp.length, hp.max, (h.limit t).le.trans' hp.limit, h.alive hp.alive⟩⟩

lemma ofSocks {socks : Sockets} (h : Sockets.Effs σ.rules l σ.socks socks) :
    Ordinary l σ { σ with socks := socks } where
  socks := h
  transports _ tr' htr' := .inl ⟨tr', htr', .refl tr'⟩
  kept _ tr htr := ⟨tr, htr⟩
  next := Nat.le_refl _
  listeners x hx _ hxt := .inr ⟨x, hx, hxt⟩
  listenersOk h := { h with }
  usbTransport := rfl
  needsRetry := rfl
  frameworkFd := rfl
  tokensOk h := { h with }

lemma refl (σ : Server) : Ordinary [] σ σ := ofSocks .refl

lemma trans (h : Ordinary l σ τ) (h' : Ordinary m τ ρ) : Ordinary (l ++ m) σ ρ where
  socks := h.socks.trans (h'.socks.mono h.rules_le)
  transports t tr'' htr'' := by
    rcases h'.transports t tr'' htr'' with ⟨tr', htr', hal'⟩ | ⟨hn, hnew⟩
    · rcases h.transports t tr' htr' with ⟨tr, htr, hal⟩ | ⟨hn, hnew⟩
      · exact .inl ⟨tr, htr, hal.trans hal'⟩
      exact .inr ⟨hn, by rw [hal'.connectionState]; exact hnew.connectionState,
        hal'.online.trans hnew.online, hal'.refCount.trans hnew.refCount,
        hal'.maxPayload.trans hnew.maxPayload, hal'.terms.trans hnew.terms⟩
    · exact .inr ⟨Nat.le_trans h.next hn, hnew⟩
  kept t tr htr := by
    obtain ⟨tr', htr'⟩ := h.kept t tr htr
    exact h'.kept t tr' htr'
  next := Nat.le_trans h.next h'.next
  listeners x hx t hxt := h.attachable (h'.listeners x hx t hxt)
  listenersOk hok := h'.listenersOk (h.listenersOk hok)
  usbTransport := h'.usbTransport.trans h.usbTransport
  needsRetry := h'.needsRetry.trans h.needsRetry
  frameworkFd := h'.frameworkFd.trans h.frameworkFd
  tokensOk hok := h'.tokensOk (h.tokensOk hok)

lemma ofListeners {ts : Store ATransport} {ls : List AListener} {n : ℕ} {queue : List RunFn}
    (hts : SameTransports σ.transports ts)
    (hls : ∀ x ∈ ls, ∀ t, x.transport = some t → σ.Attachable t)
    (hok : σ.ListenersOk → ListenersOk
      { σ with transports := ts, listenerList := ls, nextListener := n, runQueue := queue }) :
    Ordinary [] σ
      { σ with transports := ts, listenerList := ls, nextListener := n, runQueue := queue } where
  socks := .refl
  transports t tr' htr' := .inl (hts.back t tr' htr')
  kept := hts.forth
  next := Nat.le_of_eq hts.next.symm
  listeners := hls
  listenersOk := hok
  usbTransport := rfl
  needsRetry := rfl
  frameworkFd := rfl
  tokensOk h := by
    refine ⟨fun t => ?_, fun t ht => h.fresh t (by rw [← hts.next]; exact ht)⟩
    have hrefs : refs { σ with
        transports := ts, listenerList := ls, nextListener := n, runQueue := queue } t =
        σ.refs t := hts.refCount t
    rw [hrefs]
    exact h.one t

lemma setTransport (htr : σ.transports.get t = some tr) (hal : tr.Alike tr')
    (hd : ∀ d ∈ tr.disconnects, d ∈ tr'.disconnects) (queue : List RunFn) :
    Ordinary [] σ { σ with transports := σ.transports.set t tr', runQueue := queue } := by
  refine ofListeners (.set htr hal) (fun x hx t hxt => .inr ⟨x, hx, hxt⟩) fun hok => ?_
  refine { hok with linked := fun x hx u tu hxu hu => ?_ }
  change (σ.transports.set t tr').get u = some tu at hu
  by_cases hut : u = t
  · subst hut
    rw [get_set_self htr] at hu
    cases hu
    exact hd _ (hok.linked x hx u tr hxu htr)
  · rw [get_set_of_ne _ hut] at hu
    exact hok.linked x hx u tu hxu hu

end Ordinary

end Server

end Adb
