import Adb.AttachTheorems
import Adb.HandlePacketTheorems

/-!
# Transports come and go

The callbacks that are not ordinary change one transport each. `Affects` says that such a step leaves
the other transports alone and attaches no socket to anything; what it does to its own transport is
said by the specification of each function.
-/

namespace Adb

open Lib List Store Sockets

namespace Server

open Sockets (Inv Effs)

variable {σ τ ρ : Server} {t : TPtr} {tr tr' : ATransport} {l m : List Sockets.Act}
  {cfg : Config}

/-! ## Steps that concern one transport -/

/-- A step that changes no transport but `t`, and attaches no socket or listener to any. -/
structure Affects (t : TPtr) (l : List Sockets.Act) (σ τ : Server) : Prop where
  socks : Effs .none l σ.socks τ.socks
  others : ∀ u, u ≠ t → τ.transports.get u = σ.transports.get u
  next : τ.transports.next = σ.transports.next
  listeners : ∀ x ∈ τ.listenerList, x ∈ σ.listenerList
  listenersOk : σ.ListenersOk → τ.ListenersOk

/-- `usb_transport` and `needs_retry` are as they were, or `usb_disconnected` was called. -/
def UsbKept (σ τ : Server) : Prop :=
  τ.usbTransport = σ.usbTransport ∧ τ.needsRetry = σ.needsRetry ∨
    τ.usbTransport = none ∧ τ.needsRetry = false

/-- In addition, nobody else is told anything about `t`. -/
structure Quiet (t : TPtr) (l : List Sockets.Act) (σ τ : Server) : Prop extends
    Affects t l σ τ where
  usb : UsbKept σ τ
  frameworkFd : τ.frameworkFd = σ.frameworkFd
  tokens : ∀ u, τ.tokens u = σ.tokens u

lemma UsbKept.trans (h : UsbKept σ τ) (h' : UsbKept τ ρ) : UsbKept σ ρ := by
  rcases h' with ⟨hu', hn'⟩ | h'
  · rcases h with ⟨hu, hn⟩ | ⟨hu, hn⟩
    · exact .inl ⟨hu'.trans hu, hn'.trans hn⟩
    · exact .inr ⟨hu'.trans hu, hn'.trans hn⟩
  · exact .inr h'

lemma Affects.trans (h : Affects t l σ τ) (h' : Affects t m τ ρ) : Affects t (l ++ m) σ ρ where
  socks := h.socks.trans h'.socks
  others u hu := (h'.others u hu).trans (h.others u hu)
  next := h'.next.trans h.next
  listeners x hx := h.listeners x (h'.listeners x hx)
  listenersOk hok := h'.listenersOk (h.listenersOk hok)

namespace Quiet

lemma ofSocks {socks : Sockets} (t : TPtr) (h : Effs .none l σ.socks socks) :
    Quiet t l σ { σ with socks := socks } where
  socks := h
  others _ _ := rfl
  next := rfl
  listeners _ hx := hx
  listenersOk hok := { hok with }
  usb := .inl ⟨rfl, rfl⟩
  frameworkFd := rfl
  tokens _ := rfl

lemma refl (t : TPtr) (σ : Server) : Quiet t [] σ σ := .ofSocks t .refl

lemma trans (h : Quiet t l σ τ) (h' : Quiet t m τ ρ) : Quiet t (l ++ m) σ ρ :=
  { h.toAffects.trans h'.toAffects with
    usb := h.usb.trans h'.usb
    frameworkFd := h'.frameworkFd.trans h.frameworkFd
    tokens := fun u => (h'.tokens u).trans (h.tokens u) }

lemma setTransport (htr : σ.transports.get t = some tr)
    (hd : ∀ d ∈ tr.disconnects, d ∈ tr'.disconnects) :
    Quiet t [] σ (σ.setTransport t tr') where
  socks := .refl
  others _ hu := get_setTransport_of_ne hu
  next := rfl
  listeners _ hx := hx
  listenersOk hok :=
    { hok with
      linked := fun x hx u tu hxu hu => by
        by_cases hut : u = t
        · subst hut
          rw [get_setTransport_self htr] at hu
          cases hu
          exact hd _ (hok.linked x hx u tr hxu htr)
        · rw [get_setTransport_of_ne hut] at hu
          exact hok.linked x hx u tu hxu hu }
  usb := .inl ⟨rfl, rfl⟩
  frameworkFd := rfl
  tokens _ := rfl

end Quiet

variable {p : APacket}

lemma sendPacket_quiet (hp : p.greets = true) (htr : σ.transports.get t = some tr) :
    Sat (sendPacket p t σ)
      (fun τ => Quiet t [.note (.sent t (sealPacket p tr))] σ τ ∧ τ.transports = σ.transports)
      (· = .dangling) := by
  refine (sendPacket_spec p t σ).imp ?_
  rintro _ ⟨tr0, htr0, rfl⟩
  rw [htr] at htr0
  cases htr0
  exact ⟨.ofSocks t (.single (.note (.sent t (sealPacket p tr)) hp)), rfl⟩

/-- What `adbd` may say on `t` when it is spoken to: packets of a handshake. The host says
nothing. -/
structure Replies (cfg : Config) (t : TPtr) (l : List Sockets.Act) : Prop where
  greets : ∀ act ∈ l, ∃ p : APacket, act = .note (.sent t p) ∧ p.greets = true
  host : cfg.host = true → l = []

lemma Replies.nil : Replies cfg t [] := ⟨by simp, fun _ => rfl⟩

lemma Replies.single (hhost : cfg.host = false) (hp : p.greets = true) :
    Replies cfg t [.note (.sent t p)] where
  greets act hact := ⟨p, mem_singleton.mp hact, hp⟩
  host h := by
    rw [hhost] at h
    cases h

/-! ## Device trackers -/

variable {ts : Store ATransport}

lemma updateTrackers_effs {P : Sockets.Rules} {text : Bytes} {list : List Ptr} {socks : Sockets}
    (h : Inv [] socks) (hlist : ∀ p ∈ list, p ∈ socks.deviceTrackerList) :
    Sat (updateTrackers ts text list socks) (Effs P [] socks) Halt.Excused := by
  induction list generalizing socks with
  | nil => exact .refl
  | cons p rest ih =>
    obtain ⟨a, hp, ht⟩ := (h.trackers p).mp (hlist p (by simp))
    refine (deviceTrackerSend_effs (P := P) text h hp ht).bind ?_
    rintro ⟨rc, socks'⟩ ⟨heff, hsame⟩
    refine (ih (heff.inv h) fun q hq => ?_).imp fun _ => heff.trans
    exact hsame ▸ hlist q (by simp [hq])

lemma updateTransports_quiet (t : TPtr) (h : Inv [] σ.socks) :
    Sat (updateTransports cfg σ) (fun τ => Quiet t [] σ τ ∧ τ.transports = σ.transports)
      Halt.Excused := by
  refine .ite (fun _ => ?_) fun _ => ⟨.refl t σ, rfl⟩
  exact (updateTrackers_effs h fun _ hp => hp).bind fun _ hτ => ⟨.ofSocks t hτ, rfl⟩

/-! ## Going offline -/

lemma runDisconnectFuncs_eq {ds : List Disconnect} (σ : Server) :
    ∃ ls u n, runDisconnectFuncs ds σ =
        { σ with listenerList := ls, usbTransport := u, needsRetry := n } ∧
      List.Sublist ls σ.listenerList ∧
      (u = σ.usbTransport ∧ n = σ.needsRetry ∨ u = none ∧ n = false) ∧
      ((σ.listenerList.map (·.num)).Nodup → ∀ k, .listener k ∈ ds → ∀ x ∈ ls, x.num ≠ k) := by
  induction ds generalizing σ with
  | nil => exact ⟨_, _, _, rfl, .refl _, .inl ⟨rfl, rfl⟩, by simp⟩
  | cons d rest ih =>
    cases d with
    | usb =>
      obtain ⟨ls, u, n, heq, hsub, husb, hgone⟩ := ih (usbDisconnected σ)
      refine ⟨ls, u, n, heq, hsub, .inr ?_, fun hnodup k hk => hgone hnodup k (by simpa using hk)⟩
      rcases husb with h | h <;> exact h
    | listener k0 =>
      obtain ⟨ls, u, n, heq, hsub, husb, hgone⟩ := ih (listenerDisconnect k0 σ)
      have herase : List.Sublist (σ.listenerList.eraseP (·.num = k0)) σ.listenerList :=
        eraseP_sublist
      refine ⟨ls, u, n, heq, hsub.trans herase, husb, fun hnodup k hk x hx => ?_⟩
      have hnodup' : ((σ.listenerList.eraseP (·.num = k0)).map (·.num)).Nodup :=
        hnodup.sublist (herase.map _)
      rcases mem_cons.mp hk with hk | hk
      · -- numbers are distinct, so one erasure is enough
        cases hk
        exact num_ne_of_mem_eraseP hnodup (hsub.subset hx)
      · exact hgone hnodup' k hk x hx

def wentOffline (tr : ATransport) : ATransport :=
  { tr with connectionState := .kCsOffline, online := false, disconnects := [] }

inductive OfflineOutcome (t : TPtr) (tr : ATransport) (σ : Server) : Server → Prop
  /-- it returns at once when the connection state says that `t` is offline -/
  | already (hst : tr.connectionState = .kCsOffline) : OfflineOutcome t tr σ σ
  | cleared {τ : Server} (hst : tr.connectionState ≠ .kCsOffline) (h : Quiet t [] σ τ)
      (htr : τ.transports.get t = some (wentOffline tr)) (hclear : Sockets.Clear t τ.socks)
      (hlisteners : ∀ x ∈ τ.listenerList, x.transport ≠ some t)
      (hless : Sockets.Shrinks σ.socks τ.socks) : OfflineOutcome t tr σ τ

private lemma runDisconnects_spec (htr : σ.transports.get t = some tr) (hok : σ.ListenersOk) :
    Sat (runDisconnects t σ) (fun τ => Quiet t [] σ τ ∧ τ.socks = σ.socks ∧
        τ.transports.get t = some { tr with disconnects := [] } ∧
        ∀ x ∈ τ.listenerList, x.transport ≠ some t) (· = .dangling) := by
  unfold runDisconnects
  rw [transport_eq htr, ok_bind]
  obtain ⟨ls, u, n, heq, hsub, husb, hgone⟩ := runDisconnectFuncs_eq σ
  rw [heq]
  -- a listener of `t` was on the list of disconnects
  have hnone : ∀ x ∈ ls, x.transport ≠ some t := by
    intro x hx hxt
    have hmem := hsub.subset hx
    exact hgone hok.nums x.num (hok.linked x hmem t tr hxt htr) x hx rfl
  refine ⟨?_, rfl, get_set_self htr _, hnone⟩
  refine
    { socks := .refl
      others := fun v hv => get_set_of_ne _ hv _
      next := rfl
      listeners := fun x hx => hsub.subset hx
      listenersOk := fun _ => ?_
      usb := husb
      frameworkFd := rfl
      tokens := fun _ => rfl }
  refine
    { nums := (hsub.map _).nodup hok.nums
      fresh := fun x hx => hok.fresh x (hsub.subset hx)
      known := fun x hx => hok.known x (hsub.subset hx)
      linked := fun x hx v tv hxv hv => ?_
      owned := fun x hx => hok.owned x (hsub.subset hx)
      forwards := fun x hx => hok.forwards x (hsub.subset hx)
      short := fun x hx => hok.short x (hsub.subset hx) }
  have hvt : v ≠ t := by
    rintro rfl
    exact hnone x hx hxv
  have hv : σ.transports.get v = some tv := (get_set_of_ne _ hvt _).symm.trans hv
  exact hok.linked x (hsub.subset hx) v tv hxv hv

lemma handleOffline_spec (t : TPtr) (h : Inv [] σ.socks) (hok : σ.ListenersOk) :
    Sat (handleOffline t σ)
      (fun τ => ∃ tr, σ.transports.get t = some tr ∧ OfflineOutcome t tr σ τ) Halt.Excused := by
  refine (transport_spec.mono (fun _ h => h) fun _ he => .inr he).bind fun tr htr => ?_
  refine .ite (fun hst => ⟨tr, htr, .already hst⟩) fun hst => ?_
  let off : ATransport := { tr with connectionState := .kCsOffline, online := false }
  have hoff : Quiet t [] σ (σ.setTransport t off) := .setTransport htr fun _ hd => hd
  refine ((closeAllSockets_spec (P := .none) t _ h (Nat.le_refl _)).bind
    (R := fun τ => Quiet t [] σ τ ∧ τ.transports.get t = some off ∧
      Sockets.Clear t τ.socks ∧ Sockets.Shrinks σ.socks τ.socks)
    ?_).bind ?_
  · rintro socks ⟨heff, hdet, hless⟩
    exact ⟨hoff.trans (.ofSocks t heff), get_setTransport_self htr off, hdet.clear (heff.inv h),
      hless⟩
  rintro τ ⟨hτ, htr', hclear, hless⟩
  refine ((runDisconnects_spec htr' (hτ.listenersOk hok)).mono ?_ fun _ he => .inr he)
  rintro ρ ⟨hρ, hsocks, hget, hlisteners⟩
  exact ⟨tr, htr, .cleared hst (hτ.trans hρ) hget (hsocks ▸ hclear) hlisteners (hsocks ▸ hless)⟩

lemma OfflineOutcome.quiet (h : OfflineOutcome t tr σ τ) : Quiet t [] σ τ := by
  cases h with
  | already => exact .refl t σ
  | cleared _ h => exact h

lemma OfflineOutcome.record (h : OfflineOutcome t tr σ τ) (htr : σ.transports.get t = some tr) :
    ∃ tr', τ.transports.get t = some tr' ∧ tr'.connectionState = .kCsOffline ∧
      tr'.refCount = tr.refCount ∧
      tr'.online = (decide (tr.connectionState = .kCsOffline) && tr.online) ∧
      tr'.maxPayload = tr.maxPayload ∧ tr'.terms = tr.terms := by
  cases h with
  | already hst => exact ⟨tr, htr, hst, rfl, by simp [hst], rfl, rfl⟩
  | cleared hst _ htr' => exact ⟨_, htr', rfl, rfl, by simp [hst, wentOffline], rfl, rfl⟩

/-! ## Connecting -/

/-- Why a function fails that calls `send_connect` if `talks`. -/
def ConnectHalt (cfg : Config) (talks : Prop) (h : Halt) : Prop :=
  h.Excused ∨ h = .fatal .bannerTooLong ∧ maxPayloadV1 < cfg.connectionString.length ∧ talks

def connectPacket (cfg : Config) (tr : ATransport) : APacket :=
  sealPacket
    { msg :=
        { command := A_CNXN
          arg0 := A_VERSION
          arg1 := .ofNat tr.maxPayload
          dataLength := .ofNat cfg.connectionString.length }
      payload := cfg.connectionString } tr

lemma sendConnect_quiet (htr : σ.transports.get t = some tr) :
    Sat (sendConnect cfg t σ) (fun τ => Quiet t [.note (.sent t (connectPacket cfg tr))] σ τ ∧
        τ.transports = σ.transports)
      (ConnectHalt cfg True) := by
  unfold sendConnect
  rw [transport_eq htr]
  refine .ite (fun hlong => .inr ⟨rfl, hlong, trivial⟩) fun _ => ?_
  exact (sendPacket_quiet (by rfl) htr).mono (fun _ h => h) fun _ he => .inl (.inr he)

lemma handleOnline_quiet :
    Sat (handleOnline t σ) (fun τ => ∃ tr, σ.transports.get t = some tr ∧ Quiet t [] σ τ ∧
        τ.transports.get t = some { tr with online := true }) (· = .dangling) := by
  refine transport_spec.bind fun tr htr => ?_
  exact ⟨tr, htr, .setTransport htr fun _ hd => hd, get_setTransport_self htr _⟩

lemma sendAuthRequest_quiet (hhost : cfg.host = false) :
    Sat (sendAuthRequest t σ) (fun τ => ∃ tr tr' l, σ.transports.get t = some tr ∧ Quiet t l σ τ ∧
        τ.transports.get t = some tr' ∧ tr.Alike tr' ∧ Replies cfg t l)
      (· = .dangling) := by
  refine transport_spec.bind fun tr htr => ?_
  let asked : ATransport :=
    { tr with
      token := σ.socks.os.urandom.take tokenSize ++
        tr.token.drop (σ.socks.os.urandom.take tokenSize).length }
  have hset : Quiet t [] σ (σ.setTransport t asked) := .setTransport htr fun _ hd => hd
  have hget : (σ.setTransport t asked).transports.get t = some asked :=
    get_setTransport_self htr asked
  refine .ite (fun _ => ?_) fun _ => ?_
  · exact ⟨tr, asked, [], htr, hset, hget, ⟨rfl, rfl, rfl, rfl, rfl⟩, .nil⟩
  refine (sendPacket_quiet (by rfl) hget).imp ?_
  rintro τ ⟨hτ, hsame⟩
  exact ⟨tr, asked, _, htr, hset.trans hτ, hsame ▸ hget, ⟨rfl, rfl, rfl, rfl, rfl⟩,
    .single hhost rfl⟩

lemma online_bannerState (type : Bytes) : connectionStateIsOnline (bannerState type) = true := by
  unfold bannerState
  split
  · rfl
  split
  · rfl
  split
  · rfl
  split
  · rfl
  · rfl

private lemma parseProperty_keeps {prop : Bytes} :
    (parseProperty prop tr).online = tr.online ∧ (parseProperty prop tr).refCount = tr.refCount ∧
      (parseProperty prop tr).disconnects = tr.disconnects ∧
      (parseProperty prop tr).maxPayload = tr.maxPayload ∧
      (parseProperty prop tr).terms = tr.terms := by
  unfold parseProperty
  split
  · split
    · exact ⟨rfl, rfl, rfl, rfl, rfl⟩
    split
    · exact ⟨rfl, rfl, rfl, rfl, rfl⟩
    split
    · exact ⟨rfl, rfl, rfl, rfl, rfl⟩
    split
    · exact ⟨rfl, rfl, rfl, rfl, rfl⟩
    · exact ⟨rfl, rfl, rfl, rfl, rfl⟩
  · exact ⟨rfl, rfl, rfl, rfl, rfl⟩

lemma parseBanner_keeps {banner : Bytes} :
    connectionStateIsOnline (parseBanner banner tr).connectionState = true ∧
      (parseBanner banner tr).online = tr.online ∧
      (parseBanner banner tr).refCount = tr.refCount ∧
      (parseBanner banner tr).disconnects = tr.disconnects ∧
      (parseBanner banner tr).maxPayload = tr.maxPayload ∧
      (parseBanner banner tr).terms = tr.terms := by
  have hfold : ∀ (props : List Bytes) (tr : ATransport),
      (props.foldl (fun t prop => parseProperty prop t) tr).online = tr.online ∧
        (props.foldl (fun t prop => parseProperty prop t) tr).refCount = tr.refCount ∧
        (props.foldl (fun t prop => parseProperty prop t) tr).disconnects = tr.disconnects ∧
        (props.foldl (fun t prop => parseProperty prop t) tr).maxPayload = tr.maxPayload ∧
        (props.foldl (fun t prop => parseProperty prop t) tr).terms = tr.terms := by
    intro props
    induction props with
    | nil => exact fun tr => ⟨rfl, rfl, rfl, rfl, rfl⟩
    | cons prop rest ih =>
      intro tr
      obtain ⟨ho, hr, hd, hm, ht⟩ := parseProperty_keeps
      obtain ⟨ho', hr', hd', hm', ht'⟩ := ih (parseProperty prop tr)
      exact ⟨ho'.trans ho, hr'.trans hr, hd'.trans hd, hm'.trans hm, ht'.trans ht⟩
  refine ⟨online_bannerState _, ?_⟩
  exact hfold _ _

structure CnxnRecord (cfg : Config) (p : APacket) (tr tr' : ATransport) : Prop where
  state : connectionStateIsOnline tr'.connectionState = true
  refCount : tr'.refCount = tr.refCount
  /-- `adbd` that requires authentication leaves the flag as `handle_offline` has left it -/
  online : tr'.online = (cfg.host || !cfg.authRequired ||
    decide (tr.connectionState = .kCsOffline) && tr.online)
  maxPayload : tr'.maxPayload = min p.msg.arg1.toNat Adb.maxPayload
  terms : tr'.terms = (min p.msg.arg0.toBitVec.toInt A_VERSION.toBitVec.toInt, tr.keys)

private lemma acceptConnection_spec (htr : σ.transports.get t = some tr) :
    Sat (acceptConnection cfg t σ)
      (fun τ => ∃ l, Quiet t l σ τ ∧ Replies cfg t l ∧ ∃ tr', τ.transports.get t = some tr' ∧
        tr'.connectionState = tr.connectionState ∧ tr'.refCount = tr.refCount ∧
        tr'.online = (cfg.host || !cfg.authRequired || tr.online) ∧
        tr'.maxPayload = tr.maxPayload ∧ tr'.terms = tr.terms)
      (ConnectHalt cfg (cfg.host = false ∧ cfg.authRequired = false)) := by
  have hdangling : ∀ {talks : Prop} (e : Halt), e = .dangling → ConnectHalt cfg talks e :=
    fun _ he => .inl (.inr he)
  have honline {talks : Prop} :=
    (handleOnline_quiet (σ := σ) (t := t)).mono (fun _ h => h) (@hdangling talks)
  unfold acceptConnection
  cases hhost : cfg.host with
  | true =>
    refine honline.imp ?_
    rintro τ ⟨tr0, htr0, hτ, hget⟩
    rw [htr] at htr0
    cases htr0
    exact ⟨[], hτ, .nil, _, hget, rfl, rfl, by simp, rfl, rfl⟩
  | false =>
    cases hauth : cfg.authRequired with
    | true =>
      refine (sendAuthRequest_quiet hhost).mono ?_ hdangling
      rintro τ ⟨tr0, tr', l, htr0, hτ, hget, hal, hl⟩
      rw [htr] at htr0
      cases htr0
      exact ⟨l, hτ, hl, tr', hget, hal.connectionState, hal.refCount, by simp [hal.online],
        hal.maxPayload, hal.terms⟩
    | false =>
      refine honline.bind ?_
      rintro τ ⟨tr0, htr0, hτ, hget⟩
      rw [htr] at htr0
      cases htr0
      refine (sendConnect_quiet hget).mono ?_ fun _ he => he.imp_right fun he =>
        ⟨he.1, he.2.1, rfl, rfl⟩
      rintro ρ ⟨hρ, hsame⟩
      rw [← hsame] at hget
      exact ⟨_, hτ.trans hρ, .single hhost rfl, _, hget, rfl, rfl, by simp, rfl, rfl⟩

lemma handleNewConnection_spec (h : Inv [] σ.socks) (hok : σ.ListenersOk) :
    Sat (handleNewConnection cfg t p σ)
      (fun τ => ∃ tr tr' l, σ.transports.get t = some tr ∧ Quiet t l σ τ ∧ Replies cfg t l ∧
        τ.transports.get t = some tr' ∧ CnxnRecord cfg p tr tr' ∧
        (tr.connectionState ≠ .kCsOffline → Sockets.Clear t τ.socks))
      (ConnectHalt cfg (cfg.host = false ∧ cfg.authRequired = false)) := by
  refine ((handleOffline_spec t h hok).mono (fun _ h => h) fun _ he => .inl he).bind ?_
  rintro σ1 ⟨tr, htr, hoff⟩
  obtain ⟨tr1, htr1, -, hrefs1, honline1, -, hterms1⟩ := hoff.record htr
  rw [transport_eq htr1]
  obtain ⟨hst, honline2, hrefs2, hd2, hmax2, hterms2⟩ :=
    parseBanner_keeps
  have hset : Quiet t [] σ1 (σ1.setTransport t
      (parseBanner p.payload (tr1.updateVersion p.msg.arg0 p.msg.arg1))) :=
    .setTransport htr1 fun d hd => by rw [hd2]; exact hd
  refine (acceptConnection_spec (get_setTransport_self htr1 _)).bind ?_
  rintro σ2 ⟨l, hσ2, hl, tr2, htr2, hst2, hrefs, honline, hmax, hterms⟩
  have hquiet := hoff.quiet.trans (hset.trans hσ2)
  refine (updateTransports_quiet t (hquiet.socks.inv h)).mono ?_ fun _ he => .inl he
  rintro τ ⟨hτ, hsame⟩
  have hkeys : tr1.keys = tr.keys := congrArg (·.2) hterms1
  refine ⟨tr, tr2, l, htr, by simpa using hquiet.trans hτ, hl, hsame ▸ htr2,
    ⟨by rw [hst2]; exact hst, hrefs.trans (hrefs2.trans hrefs1), ?_, hmax.trans hmax2, ?_⟩,
    fun hne => ?_⟩
  · rw [honline, honline2]
    exact congrArg _ honline1
  · rw [hterms, hterms2, ← hkeys]
    rfl
  -- what was attached to `t` has been closed, and nothing was attached since
  cases hoff with
  | already hst => exact absurd hst hne
  | cleared _ _ _ hclear => exact (hset.trans (hσ2.trans hτ)).socks.origin.clear id hclear

/-! ## `A_AUTH` -/

def unknownAuth (cfg : Config) (p : APacket) : Bool :=
  if cfg.host then p.msg.arg0 ≠ ADB_AUTH_TOKEN
  else p.msg.arg0 ≠ ADB_AUTH_SIGNATURE && p.msg.arg0 ≠ ADB_AUTH_RSAPUBLICKEY

/-- The `default` branch. The state is set before `handle_offline` is called, which then has
nothing to do. -/
lemma authUnknown_eq (htr : σ.transports.get t = some tr) :
    authUnknown t σ = .ok (σ.setTransport t { tr with connectionState := .kCsOffline }) := by
  unfold authUnknown
  rw [transport_eq htr, ok_bind]
  unfold handleOffline
  rw [transport_eq (get_setTransport_self htr _)]
  rfl

/-- The keys that a token is answered with, the next one first: those that have not been tried, or
all of them, and a null key for the public key. -/
def keysLeft (tr : ATransport) (σ : Server) : List (Option PrivateKey) :=
  if tr.keys.isEmpty then σ.socks.os.privateKeys.map some ++ [none] else tr.keys

/-- The packet by which the host answers a token, if it does. -/
def tokenAnswer (tr : ATransport) (σ : Server) : Option APacket :=
  match (keysLeft tr σ).headD none with
  | none =>
    let key := σ.socks.os.userKey
    if key.isEmpty || key.length ≥ maxPayloadV1 then
      none
    else
      some
        { msg :=
            { command := A_AUTH
              arg0 := ADB_AUTH_RSAPUBLICKEY
              dataLength := .ofNat (key.length + 1) }
          payload := key ++ [0] }
  | some key =>
    let result := (σ.socks.os.signatures.lookup key).getD []
    if result.isEmpty then
      none
    else
      some
        { msg :=
            { command := A_AUTH
              arg0 := ADB_AUTH_SIGNATURE
              dataLength := .ofNat result.length }
          payload := result }

lemma tokenAnswer_command {q : APacket} (h : tokenAnswer tr σ = some q) :
    q.msg.command = A_AUTH := by
  unfold tokenAnswer at h
  dsimp only at h
  split at h
  · split at h
    · cases h
    · cases h
      rfl
  · split at h
    · cases h
    · cases h
      rfl

def answerActs (t : TPtr) (tr : ATransport) (σ : Server) : List Sockets.Act :=
  (tokenAnswer tr σ).toList.map fun q => .note (.sent t (sealPacket q tr))

def answeredState (tr : ATransport) (σ : Server) : ConnectionState :=
  if ((keysLeft tr σ).headD none).isSome then .kCsAuthorizing else .kCsUnauthorized

/-- The token has not the size it should have, and there is a private key to sign it with. -/
def oddToken (t : TPtr) (p : APacket) (σ : Server) : Bool :=
  p.payload.length ≠ tokenSize && (σ.transports.get t).any fun tr =>
    ((keysLeft tr σ).headD none).isSome

def TokenHalt (t : TPtr) (p : APacket) (σ : Server) (h : Halt) : Prop :=
  h = .dangling ∨ h = .nullString ∧ oddToken t p σ = true

structure TokenRecord (σ : Server) (tr tr' : ATransport) : Prop where
  state : tr'.connectionState = answeredState tr σ
  online : tr'.online = tr.online
  refCount : tr'.refCount = tr.refCount
  maxPayload : tr'.maxPayload = tr.maxPayload
  terms : tr'.terms = (tr.protocolVersion, (keysLeft tr σ).tail)

lemma TokenRecord.not_connected (h : TokenRecord σ tr tr') :
    tr'.connectionState = .kCsAuthorizing ∨ tr'.connectionState = .kCsUnauthorized := by
  rw [h.state, answeredState]
  split
  · exact .inl rfl
  · exact .inr rfl

def tokenAnswered (t : TPtr) (tr : ATransport) (σ : Server) : Server :=
  let tried := σ.setTransport t
    { tr with connectionState := answeredState tr σ, keys := (keysLeft tr σ).tail }
  (tokenAnswer tr σ).elim tried fun q => tried.emit (.sent t (sealPacket q tr))

private lemma setTransport_setTransport {a b : ATransport} :
    (σ.setTransport t a).setTransport t b = σ.setTransport t b := by
  simp [setTransport]

private lemma sendPacket_eq (htr : σ.transports.get t = some tr) :
    sendPacket p t σ = .ok (σ.emit (.sent t (sealPacket p tr))) := by
  unfold sendPacket onSockets
  dsimp only
  rw [sendPacket_some, htr]
  rfl

lemma authToken_eq (htr : σ.transports.get t = some tr)
    (hodd : oddToken t p σ = false) : authToken t p σ = .ok (tokenAnswered t tr σ) := by
  unfold authToken sendAuthResponse nextKey tokenAnswered
  simp only [transport_eq htr, ok_bind, transport_eq (get_setTransport_self htr _), pure_eq_ok]
  rw [show (if tr.keys.isEmpty = true then
    (σ.setTransport t { tr with connectionState := .kCsAuthorizing }).socks.os.privateKeys.map some
      ++ [none] else tr.keys) = keysLeft tr σ from rfl, setTransport_setTransport]
  cases hhead : (keysLeft tr σ).headD none with
  | none =>
    have hstate : answeredState tr σ = .kCsUnauthorized := by
      rw [answeredState, hhead]
      rfl
    rw [transport_eq (get_setTransport_self htr _), ok_bind, setTransport_setTransport, hstate]
    simp only [tokenAnswer, hhead]
    unfold sendAuthPublickey
    simp only [show ∀ a, (σ.setTransport t a).socks = σ.socks from fun _ => rfl]
    split
    · rfl
    · rw [sendPacket_eq (get_setTransport_self htr _)]
      rfl
  | some key =>
    have hstate : answeredState tr σ = .kCsAuthorizing := by
      rw [answeredState, hhead]
      rfl
    have hsize : p.payload.length = tokenSize := by
      simp only [oddToken, htr, Option.any_some, hhead, Option.isSome_some, Bool.and_true] at hodd
      simpa using hodd
    unfold adbAuthSign
    dsimp only
    rw [if_neg (by simpa using hsize), pure_eq_ok, ok_bind, hstate]
    simp only [tokenAnswer, hhead, show ∀ a, (σ.setTransport t a).socks = σ.socks from fun _ => rfl]
    split
    · rfl
    · rw [sendPacket_eq (get_setTransport_self htr _)]
      rfl

lemma authToken_odd (hodd : oddToken t p σ = true) : authToken t p σ = .error .nullString := by
  obtain ⟨hsize, hany⟩ := Bool.and_eq_true_iff.mp hodd
  obtain ⟨tr, htr, hkey⟩ := (Option.any_eq_true _ _).mp hany
  have hsize : p.payload.length ≠ tokenSize := by simpa using hsize
  unfold authToken sendAuthResponse nextKey
  rw [transport_eq htr, ok_bind, transport_eq (get_setTransport_self htr _), ok_bind, pure_eq_ok,
    ok_bind]
  obtain ⟨key, hkey⟩ := Option.isSome_iff_exists.mp hkey
  unfold keysLeft at hkey
  simp only [setTransport, hkey, adbAuthSign, hsize, ne_eq, not_false_eq_true, if_true,
    throw_eq_error, error_bind]

lemma tokenAnswered_quiet (htr : σ.transports.get t = some tr) :
    Quiet t (answerActs t tr σ) σ (tokenAnswered t tr σ) ∧
      ∃ tr', (tokenAnswered t tr σ).transports.get t = some tr' ∧ TokenRecord σ tr tr' := by
  let tried : ATransport :=
    { tr with connectionState := answeredState tr σ, keys := (keysLeft tr σ).tail }
  have hquiet : Quiet t [] σ (σ.setTransport t tried) := .setTransport htr fun _ hd => hd
  have hget : (σ.setTransport t tried).transports.get t = some tried :=
    get_setTransport_self htr tried
  have hrec : TokenRecord σ tr tried := ⟨rfl, rfl, rfl, rfl, rfl⟩
  unfold tokenAnswered answerActs
  cases hq : tokenAnswer tr σ with
  | none => exact ⟨hquiet, tried, hget, hrec⟩
  | some q =>
    have hgreets : (sealPacket q tr).greets = true := by
      simp [APacket.greets, tokenAnswer_command hq]
    have hsent : Quiet t [.note (.sent t (sealPacket q tr))] (σ.setTransport t tried)
        ((σ.setTransport t tried).emit (.sent t (sealPacket q tr))) :=
      .ofSocks t (.single (.note _ hgreets))
    exact ⟨hquiet.trans hsent, tried, hget, hrec⟩

lemma authToken_spec :
    Sat (authToken t p σ)
      (fun τ => ∃ tr tr', σ.transports.get t = some tr ∧ Quiet t (answerActs t tr σ) σ τ ∧
        τ.transports.get t = some tr' ∧ TokenRecord σ tr tr') (TokenHalt t p σ) := by
  cases htr : σ.transports.get t with
  | none =>
    exact (transport_spec.mono (fun _ h => h) fun _ he => .inl he).bind fun tr htr' => by
      rw [htr] at htr'
      cases htr'
  | some tr =>
    cases hodd : oddToken t p σ with
    | true =>
      rw [authToken_odd hodd]
      exact .inr ⟨rfl, hodd⟩
    | false =>
      rw [authToken_eq htr hodd]
      obtain ⟨hquiet, tr', htr', hrec⟩ := tokenAnswered_quiet htr
      exact ⟨tr, tr', rfl, hquiet, htr', hrec⟩

lemma adbdAuthVerified_spec :
    Sat (adbdAuthVerified cfg t σ) (fun τ => ∃ tr, σ.transports.get t = some tr ∧
        Quiet t [.note (.verified t), .note (.sent t (connectPacket cfg tr))] σ τ ∧
        τ.transports.get t = some { tr with online := true }) (ConnectHalt cfg True) := by
  refine (handleOnline_quiet.mono (fun _ h => h) fun _ he => .inl (.inr he)).bind ?_
  rintro τ ⟨tr, htr, hτ, hget⟩
  have hnote : Quiet t [.note (.verified t)] σ (σ.emit (.verified t)) :=
    .ofSocks t (.single (.note _ rfl))
  refine (sendConnect_quiet hget).imp ?_
  rintro ρ ⟨hρ, hsame⟩
  exact ⟨tr, htr, hnote.trans (hτ.trans hρ), (congrArg (·.get t) hsame).trans hget⟩

inductive SignatureOutcome (cfg : Config) (t : TPtr) (p : APacket) (tr : ATransport)
    (σ : Server) : List Sockets.Act → Server → Prop
  | verified {τ : Server} {tr' : ATransport}
      (hkey : adbdAuthVerify cfg tr.token p.payload σ = true)
      (h : Quiet t [.note (.verified t), .note (.sent t (connectPacket cfg tr))] σ τ)
      (htr : τ.transports.get t = some tr')
      (hst : tr'.connectionState = tr.connectionState) (hon : tr'.online = true)
      (hrefs : tr'.refCount = tr.refCount) (hmax : tr'.maxPayload = tr.maxPayload)
      (hterms : tr'.terms = tr.terms) :
      SignatureOutcome cfg t p tr σ [.note (.verified t), .note (.sent t (connectPacket cfg tr))] τ
  | refused {τ : Server} {tr' : ATransport} {l : List Sockets.Act} (hl : Replies cfg t l)
      (h : Quiet t l σ τ) (htr : τ.transports.get t = some tr') (hal : tr.Alike tr') :
      SignatureOutcome cfg t p tr σ l τ

lemma authSignature_spec (hhost : cfg.host = false) :
    Sat (authSignature cfg t p σ)
      (fun τ => ∃ tr l, σ.transports.get t = some tr ∧ SignatureOutcome cfg t p tr σ l τ)
      (ConnectHalt cfg (∃ tr, σ.transports.get t = some tr ∧
        adbdAuthVerify cfg tr.token p.payload σ = true)) := by
  refine (transport_spec.mono (fun _ h => h) fun _ he => .inl (.inr he)).bind fun tr htr => ?_
  refine .ite (fun hkey => ?_) fun _ => ?_
  · refine (adbdAuthVerified_spec.mono (fun _ h => h) fun _ he => he.imp_right fun he =>
      ⟨he.1, he.2.1, tr, htr, hkey⟩).bind ?_
    rintro τ ⟨tr0, htr0, hτ, hget⟩
    rw [htr] at htr0
    cases htr0
    rw [transport_eq hget]
    have hset : Quiet t [] τ (τ.setTransport t
        { tr with online := true, failedAuthAttempts := 0 }) :=
      .setTransport hget fun _ hd => hd
    exact ⟨tr, _, htr, .verified hkey (by simpa using hτ.trans hset)
      (get_setTransport_self hget _) rfl rfl rfl rfl rfl⟩
  · have hset : Quiet t [] σ (σ.setTransport t
        { tr with failedAuthAttempts := tr.failedAuthAttempts + 1 }) :=
      .setTransport htr fun _ hd => hd
    refine (sendAuthRequest_quiet hhost).mono ?_ fun _ he => .inl (.inr he)
    rintro τ ⟨tr0, tr', l, htr0, hτ, hget, hal, hl⟩
    rw [get_setTransport_self htr] at htr0
    cases htr0
    exact ⟨tr, _, htr, .refused hl (hset.trans hτ) hget
      ⟨hal.connectionState, hal.online, hal.refCount, hal.maxPayload, hal.terms⟩⟩

def forwards (key : Bytes) (σ : Server) : Bool :=
  σ.frameworkFd && key.getLast? == some 0 && decide (2 + (cString key).length < maxPayloadV1) &&
    σ.socks.os.frameworkWrite

structure KeyOutcome (t : TPtr) (key : Bytes) (σ : Server) (l : List Sockets.Act) (τ : Server) :
    Prop extends Affects t l σ τ where
  transports : SameTransports σ.transports τ.transports
  usbTransport : τ.usbTransport = some (σ.usbTransport.getD t)
  needsRetry : τ.needsRetry = (σ.needsRetry || !σ.frameworkFd)
  frameworkFd : τ.frameworkFd = σ.frameworkFd
  tokens : ∀ u, τ.tokens u = σ.tokens u
  acts : l = if forwards key σ then [.note (.forwarded t (cString key))] else []

def KeyHalt (key : Bytes) (σ : Server) (h : Halt) : Prop :=
  h = .dangling ∨ h = .wild ∧ key = [] ∧ σ.frameworkFd = true

private lemma claimUsbTransport_spec :
    Sat (claimUsbTransport t σ)
      (fun τ => Affects t [] σ τ ∧ SameTransports σ.transports τ.transports ∧
        τ.usbTransport = some (σ.usbTransport.getD t) ∧ τ.needsRetry = σ.needsRetry ∧
        τ.frameworkFd = σ.frameworkFd ∧ (∀ u, τ.tokens u = σ.tokens u) ∧ τ.socks = σ.socks)
      (· = .dangling) := by
  refine .ite (fun hnone => ?_) fun hsome => ?_
  · refine transport_spec.bind fun tr htr => ?_
    have hq : Quiet t [] σ (σ.setTransport t { tr with disconnects := tr.disconnects ++ [.usb] }) :=
      .setTransport htr fun _ hd => mem_append_left _ hd
    refine ⟨{ hq.toAffects with listenersOk := fun hok => { hq.listenersOk hok with } },
      .set htr (by exact ⟨rfl, rfl, rfl, rfl, rfl⟩), ?_, rfl, rfl, fun _ => rfl, rfl⟩
    simp [hnone, setTransport]
  · obtain ⟨u, hu⟩ := Option.ne_none_iff_exists'.mp hsome
    exact ⟨(Quiet.refl t σ).toAffects, .refl _, by simp [hu], rfl, rfl, fun _ => rfl, rfl⟩

private lemma forwardKey_spec {key : Bytes} (hfd : σ.frameworkFd = true) :
    Sat (forwardKey key t σ) (fun τ => τ = { σ with
        socks := σ.socks.emits (if forwards key σ then [.forwarded t (cString key)] else []) })
      (KeyHalt key σ) := by
  unfold forwardKey
  cases hlast : key.getLast? with
  | none => exact Or.inr ⟨rfl, List.getLast?_eq_none_iff.mp hlast, hfd⟩
  | some c => ?_
  have hnone : σ.socks.emits [] = σ.socks := by simp [Sockets.emits]
  refine .ite (fun hbad => ?_) fun hgood => .ite (fun hwrite => ?_) fun hwrite => ?_
  · have hnot : forwards key σ = false := by
      simp only [Bool.or_eq_true, decide_eq_true_eq] at hbad
      rcases hbad with hbad | hbad
      · simp [forwards, hlast, hbad]
      · simp [forwards, Nat.not_lt.mpr hbad]
    simp [hnot, hnone]
  · have hyes : forwards key σ = true := by
      simp only [Bool.or_eq_true, decide_eq_true_eq, not_or, not_not, Nat.not_le] at hgood
      simp [forwards, hfd, hlast, hgood.1, hgood.2, hwrite]
    rw [hyes]
    rfl
  · have hnot : forwards key σ = false := by simp [forwards, hwrite]
    simp [hnot, hnone]

lemma adbdAuthConfirmKey_spec {key : Bytes} :
    Sat (adbdAuthConfirmKey key t σ) (fun τ => ∃ l, KeyOutcome t key σ l τ) (KeyHalt key σ) := by
  refine (claimUsbTransport_spec.mono (fun _ h => h) fun _ he => .inl he).bind ?_
  rintro τ ⟨hτ, hts, husb, hretry, hfd, htokens, hsocks⟩
  have hsame : forwards key τ = forwards key σ := by simp [forwards, hfd, hsocks]
  refine .ite (fun hcon => ?_) fun hcon => ?_
  · have hfdσ : σ.frameworkFd = true := hfd ▸ hcon
    refine (forwardKey_spec hcon).mono ?_ ?_
    · rintro _ rfl
      rw [hsame]
      have heff : Effs .none
          (if forwards key σ then [.note (.forwarded t (cString key))] else []) τ.socks
          (τ.socks.emits (if forwards key σ then [.forwarded t (cString key)] else [])) := by
        cases forwards key σ with
        | true => exact .single (.note _ rfl)
        | false => simpa [Sockets.emits] using Effs.refl
      exact ⟨_, { hτ.trans (Quiet.ofSocks t heff).toAffects with
        transports := hts, usbTransport := husb, needsRetry := by simp [hretry, hfdσ],
        frameworkFd := hfd, tokens := htokens, acts := rfl }⟩
    · rintro e (rfl | ⟨rfl, hkey, -⟩)
      · exact .inl rfl
      · exact .inr ⟨rfl, hkey, hfdσ⟩
  · have hfdσ : σ.frameworkFd = false := by rw [← hfd]; simpa using hcon
    refine ⟨[], { hτ with
      listenersOk := fun hok => { hτ.listenersOk hok with }
      transports := hts, usbTransport := husb, needsRetry := ?_, frameworkFd := hfd,
      tokens := htokens, acts := ?_ }⟩
    · simp [hfdσ]
    · simp [forwards, hfdσ]

/-! ## The framework -/

inductive ReplyOutcome (cfg : Config) (response : Bytes) (σ : Server) :
    List Sockets.Act → Server → Prop
  | closed : ReplyOutcome cfg response σ [] { σ with frameworkFd := false }
  | nobody (hnone : σ.usbTransport = none) :
      ReplyOutcome cfg response σ [.note .frameworkOk] (σ.emit .frameworkOk)
  | approved {t : TPtr} {τ : Server} {tr : ATransport} (hreply : response.take 2 = ascii "OK")
      (hwaits : σ.usbTransport = some t)
      (htr : σ.transports.get t = some tr)
      (h : Quiet t [.note .frameworkOk, .note (.verified t), .note (.sent t (connectPacket cfg tr))]
        σ τ)
      (htr' : τ.transports.get t = some { tr with online := true }) :
      ReplyOutcome cfg response σ
        [.note .frameworkOk, .note (.verified t), .note (.sent t (connectPacket cfg tr))] τ
  | other : ReplyOutcome cfg response σ [] σ

lemma adbdAuthEvent_spec {response : Bytes} :
    Sat (adbdAuthEvent cfg response σ) (fun τ => ∃ l, ReplyOutcome cfg response σ l τ)
      (ConnectHalt cfg True) := by
  refine .ite (fun _ => ⟨_, .closed⟩) fun _ => .ite (fun hreply => ?_) fun _ => ⟨_, .other⟩
  cases husb : σ.usbTransport with
  | none => exact ⟨_, .nobody husb⟩
  | some t =>
    refine adbdAuthVerified_spec.imp ?_
    rintro τ ⟨tr, htr, hτ, htr'⟩
    have hnote : Quiet t [.note .frameworkOk] σ (σ.emit .frameworkOk) :=
      .ofSocks t (.single (.note _ rfl))
    exact ⟨_, .approved hreply husb htr (hnote.trans hτ) htr'⟩

structure FrameworkConnected (t : TPtr) (l : List Sockets.Act) (σ τ : Server) : Prop extends
    Affects t l σ τ where
  transports : SameTransports σ.transports τ.transports
  usbTransport : τ.usbTransport = σ.usbTransport
  needsRetry : τ.needsRetry = false
  tokens : ∀ u, τ.tokens u = σ.tokens u

lemma adbdAuthListener_spec (hhost : cfg.host = false)
    (hretry : σ.needsRetry = true → σ.usbTransport ≠ none) :
    Sat (adbdAuthListener σ) (fun τ => ∃ t l, FrameworkConnected t l σ τ ∧ Replies cfg t l)
      (· = .dangling) := by
  refine .ite (fun hneeds => ?_) fun hneeds => ?_
  · obtain ⟨t, ht⟩ := Option.ne_none_iff_exists'.mp (hretry hneeds)
    have hwaits : Sockets.nonNull σ.usbTransport = .ok t := by rw [ht]; rfl
    rw [hwaits]
    refine transport_spec.bind fun tr htr => ?_
    let asked : ATransport :=
      { tr with
        token := σ.socks.os.urandom.take tokenSize ++
          tr.token.drop (σ.socks.os.urandom.take tokenSize).length }
    have hset : Quiet t [] σ (σ.setTransport t asked) := .setTransport htr fun _ hd => hd
    have hset' : FrameworkConnected t [] σ
        { σ.setTransport t asked with frameworkFd := true, needsRetry := false } :=
      { hset.toAffects with
        listenersOk := fun hok => { hset.listenersOk hok with }
        transports := .set htr (by exact ⟨rfl, rfl, rfl, rfl, rfl⟩)
        usbTransport := rfl
        needsRetry := rfl
        tokens := fun _ => rfl }
    refine .ite (fun _ => ⟨t, [], hset', .nil⟩) fun _ => ?_
    refine (sendPacket_spec _ t _).imp ?_
    rintro _ ⟨tr', -, rfl⟩
    exact ⟨t, _, { hset' with
      socks := hset'.socks.tail (.note (.sent t _) (by rfl))
      listenersOk := fun hok => { hset'.listenersOk hok with } }, .single hhost rfl⟩
  · exact ⟨0, [], { (Quiet.refl 0 σ).toAffects with
      listenersOk := fun hok => { hok with }
      transports := .refl _
      usbTransport := rfl
      needsRetry := by simpa using hneeds
      tokens := fun _ => rfl }, .nil⟩

/-! ## References to a transport -/

lemma connectionStop_quiet (htr : σ.transports.get t = some tr) :
    Sat (connectionStop t σ) (fun τ => Quiet t [] σ τ ∧ τ.socks = σ.socks ∧
        ∃ tr', τ.transports.get t = some tr' ∧ tr.Alike tr') (· = .dangling) := by
  unfold connectionStop
  rw [transport_eq htr]
  refine .ite (fun _ => ⟨.refl t σ, rfl, tr, htr, .refl tr⟩) fun _ => ?_
  let stopped : ATransport :=
    { tr with connection := { tr.connection with stopped := true, errorFlag := true } }
  have hset : Quiet t [] σ (σ.setTransport t stopped) := .setTransport htr fun _ hd => hd
  have hget : (σ.setTransport t stopped).transports.get t = some stopped :=
    get_setTransport_self htr stopped
  split
  · exact ⟨hset, rfl, stopped, hget, ⟨rfl, rfl, rfl, rfl, rfl⟩⟩
  · exact ⟨{ hset with listenersOk := fun hok => { hset.listenersOk hok with } }, rfl, stopped,
      hget, ⟨rfl, rfl, rfl, rfl, rfl⟩⟩

private lemma tokens_registration (σ : Server) (m : TMsg) (u : TPtr) :
    tokens { σ with registration := σ.registration ++ [m] } u =
      σ.tokens u + if u = m.transport then 1 else 0 := by
  have hlast : [m].countP (·.transport = u) = if u = m.transport then 1 else 0 := by
    simp [countP_singleton, eq_comm]
  unfold tokens
  simp only [countP_append, hlast]
  omega

private lemma tokens_reconnectQueue (σ : Server) (x : ReconnectAttempt) (u : TPtr) :
    tokens { σ with reconnectQueue := σ.reconnectQueue ++ [x] } u =
      σ.tokens u + if u = x.transport then 1 else 0 := by
  have hlast : [x].countP (·.transport = u) = if u = x.transport then 1 else 0 := by
    simp [countP_singleton, eq_comm]
  unfold tokens
  simp only [countP_append, hlast]
  omega

/-- What `transport_unref` does to a transport with the record `tr`. When the last reference is
gone somebody is told to delete the transport, or to reconnect it. -/
structure Unref (t : TPtr) (tr : ATransport) (σ τ : Server) : Prop extends Affects t [] σ τ where
  counted : tr.refCount ≠ 0
  sockets : τ.socks = σ.socks
  usb : UsbKept σ τ
  frameworkFd : τ.frameworkFd = σ.frameworkFd
  record : ∃ tr', τ.transports.get t = some tr' ∧ tr'.connectionState = tr.connectionState ∧
    tr'.online = tr.online ∧ tr'.refCount = tr.refCount - 1 ∧ tr'.maxPayload = tr.maxPayload ∧
    tr'.terms = tr.terms
  tokens : ∀ u, τ.tokens u = σ.tokens u + if u = t ∧ tr.refCount = 1 then 1 else 0

def UnrefHalt (t : TPtr) (σ : Server) (h : Halt) : Prop :=
  h.Excused ∨ h = .check .refCount ∧ σ.refs t = 0

lemma transportUnref_spec (htr : σ.transports.get t = some tr) :
    Sat (transportUnref cfg t σ) (Unref t tr σ) (UnrefHalt t σ) := by
  unfold transportUnref
  rw [transport_eq htr, ok_bind]
  by_cases hzero : tr.refCount = 0
  · simp only [hzero, bne_self_eq_false, check_false, error_bind]
    exact Or.inr ⟨rfl, by simp [refs, htr, hzero]⟩
  rw [show (tr.refCount != 0) = true by simpa using hzero]
  let less : ATransport := { tr with refCount := tr.refCount - 1 }
  have hset : Quiet t [] σ (σ.setTransport t less) := .setTransport htr fun _ hd => hd
  have hget : (σ.setTransport t less).transports.get t = some less :=
    get_setTransport_self htr less
  refine .ite (fun hlast => ?_) fun hlast => ?_
  · have hone : tr.refCount = 1 := by omega
    refine ((connectionStop_quiet hget).mono (fun _ h => h) fun _ he => .inl (.inr he)).bind ?_
    rintro τ ⟨hτ, hsocks, tr', htr', hal⟩
    have hq := hset.trans hτ
    have htold : ∀ u, (if u = t then 1 else 0) = if u = t ∧ tr.refCount = 1 then 1 else 0 :=
      fun u => by simp [hone]
    have hdone : ∀ {ρ : Server}, ρ.socks = τ.socks → ρ.transports = τ.transports →
        ρ.listenerList = τ.listenerList → (τ.ListenersOk → ρ.ListenersOk) →
        ρ.usbTransport = τ.usbTransport → ρ.needsRetry = τ.needsRetry →
        ρ.frameworkFd = τ.frameworkFd →
        (∀ u, ρ.tokens u = τ.tokens u + if u = t then 1 else 0) → Unref t tr σ ρ := by
      intro ρ h1 h2 h3 h4 h5 h6 h7 h8
      exact
        { socks := h1 ▸ hq.socks
          others := h2 ▸ hq.others
          next := h2 ▸ hq.next
          listeners := h3 ▸ hq.listeners
          listenersOk := fun hok => h4 (hq.listenersOk hok)
          counted := hzero
          sockets := h1.trans hsocks
          usb := hq.usb.trans (.inl ⟨h5, h6⟩)
          frameworkFd := h7.trans hq.frameworkFd
          record := ⟨tr', h2 ▸ htr', hal.connectionState, hal.online, hal.refCount,
            hal.maxPayload, hal.terms⟩
          tokens := fun u => by rw [h8, hq.tokens, htold] }
    refine .ite (fun _ => ?_) fun _ => ?_
    · exact hdone rfl rfl rfl (fun hok => { hok with }) rfl rfl rfl (tokens_reconnectQueue τ ⟨t, 6⟩)
    · exact hdone rfl rfl rfl (fun hok => { hok with }) rfl rfl rfl
        (tokens_registration τ (.remove t))
  · exact
      { hset with
        counted := hzero
        sockets := rfl
        record := ⟨less, hget, rfl, rfl, rfl, rfl, rfl⟩
        tokens := fun u => by
          have hne : ¬ (u = t ∧ tr.refCount = 1) := by omega
          rw [if_neg hne]
          exact hset.tokens u }

lemma errorCallback_spec (h : Inv [] σ.socks) (hok : σ.ListenersOk) :
    Sat (errorCallback cfg t σ)
      (fun τ => ∃ tr tr1 σ1, σ.transports.get t = some tr ∧ OfflineOutcome t tr σ σ1 ∧
        σ1.transports.get t = some tr1 ∧ Unref t tr1 σ1 τ) (UnrefHalt t σ) := by
  refine ((handleOffline_spec t h hok).mono (fun _ h => h) fun _ he => .inl he).bind ?_
  rintro σ1 ⟨tr, htr, hoff⟩
  obtain ⟨tr1, htr1, -, hsame, -⟩ := hoff.record htr
  have hrefs : σ1.refs t = σ.refs t := by simp [refs, htr, htr1, hsame]
  refine (transportUnref_spec htr1).mono
    (fun τ hτ => ⟨tr, tr1, σ1, htr, hoff, htr1, hτ⟩) fun _ he => ?_
  rw [UnrefHalt, hrefs] at he
  exact he

/-! ## Registration -/

def RegisterHalt (cfg : Config) (t : TPtr) (σ : Server) (h : Halt) : Prop :=
  ConnectHalt cfg True h ∨
    h = .fatal .startedTwice ∧ ∃ tr, σ.transports.get t = some tr ∧ tr.connection.started = true

private lemma connectionStart_quiet (htr : σ.transports.get t = some tr) :
    Sat (connectionStart t σ)
      (fun τ => Quiet t [] σ τ ∧ ∃ tr', τ.transports.get t = some tr' ∧ tr.Alike tr')
      (fun h => h = .fatal .startedTwice ∧ tr.connection.started = true) := by
  unfold connectionStart
  rw [transport_eq htr]
  refine .ite (fun hstarted => ⟨rfl, hstarted⟩) fun _ => ?_
  exact ⟨.setTransport htr (by exact fun _ hd => hd), _, get_setTransport_self htr _,
    by exact ⟨rfl, rfl, rfl, rfl, rfl⟩⟩

structure StartRecord (tr tr' : ATransport) : Prop where
  state : tr'.connectionState = tr.connectionState
  online : tr'.online = tr.online
  refCount : tr'.refCount ≤ tr.refCount + 1
  maxPayload : tr'.maxPayload = tr.maxPayload
  terms : tr'.terms = tr.terms

def startActs (cfg : Config) (t : TPtr) (tr : ATransport) : List Sockets.Act :=
  if cfg.host && tr.connectionState ≠ .kCsNoPerm then [.note (.sent t (connectPacket cfg tr))]
  else []

private lemma startTransport_spec :
    Sat (startTransport cfg t σ)
      (fun τ => ∃ tr tr', σ.transports.get t = some tr ∧ Quiet t (startActs cfg t tr) σ τ ∧
        τ.transports.get t = some tr' ∧ StartRecord tr tr') (RegisterHalt cfg t σ) := by
  refine (transport_spec.mono (fun _ h => h) fun _ he => .inl (.inl (.inr he))).bind
    fun tr htr => ?_
  refine .ite (fun hperm => ?_) fun hperm => ?_
  swap
  · have hacts : startActs cfg t tr = [] := by simp [startActs, hperm]
    exact ⟨tr, tr, htr, hacts ▸ .refl t σ, htr, rfl, rfl, Nat.le_succ _, rfl, rfl⟩
  let more : ATransport := { tr with refCount := tr.refCount + 1 }
  have hmore : Quiet t [] σ (σ.setTransport t more) := .setTransport htr fun _ hd => hd
  have hget : (σ.setTransport t more).transports.get t = some more :=
    get_setTransport_self htr more
  show Sat (connectionStart t (σ.setTransport t more) >>= _) _ _
  refine ((connectionStart_quiet hget).mono (fun _ h => h)
    fun _ he => .inr ⟨he.1, tr, htr, he.2⟩).bind ?_
  rintro τ ⟨hτ, tr', htr', hal⟩
  have hquiet := hmore.trans hτ
  have hrec : StartRecord tr tr' :=
    ⟨hal.connectionState, hal.online, Nat.le_of_eq hal.refCount, hal.maxPayload, hal.terms⟩
  refine .ite (fun hhost => ?_) fun hhost => ?_
  · refine (sendConnect_quiet htr').mono ?_ fun _ he => .inl he
    rintro ρ ⟨hρ, hsame⟩
    have hversion : tr'.protocolVersion = tr.protocolVersion := congrArg (·.1) hal.terms
    have hacts : startActs cfg t tr = [.note (.sent t (connectPacket cfg tr'))] := by
      simp [startActs, hhost, hperm, connectPacket, sealPacket, hversion, hrec.maxPayload]
    refine ⟨tr, tr', htr, ?_, (congrArg (·.get t) hsame).trans htr', hrec⟩
    rw [hacts]
    exact hquiet.trans hρ
  · have hacts : startActs cfg t tr = [] := by simp [startActs, hhost]
    exact ⟨tr, tr', htr, hacts ▸ hquiet, htr', hrec⟩

lemma registerTransport_spec (h : Inv [] σ.socks) :
    Sat (registerTransport cfg t σ)
      (fun τ => ∃ tr tr', σ.transports.get t = some tr ∧ Quiet t (startActs cfg t tr) σ τ ∧
        τ.transports.get t = some tr' ∧ StartRecord tr tr') (RegisterHalt cfg t σ) := by
  refine startTransport_spec.bind ?_
  rintro σ1 ⟨tr, tr', htr, hσ1, htr', hrec⟩
  -- the lists of transports are nobody's business here
  have hlists : ∀ {ρ : Server}, Quiet t [] σ1 ρ → ρ.transports = σ1.transports →
      Sat (updateTransports cfg ρ)
        (fun τ => ∃ tr tr', σ.transports.get t = some tr ∧ Quiet t (startActs cfg t tr) σ τ ∧
          τ.transports.get t = some tr' ∧ StartRecord tr tr') (RegisterHalt cfg t σ) := by
    intro ρ hρ hsame
    have hquiet := hσ1.trans hρ
    refine (updateTransports_quiet t (hquiet.socks.inv h)).mono ?_ fun _ he => .inl (.inl he)
    rintro τ ⟨hτ, hsame'⟩
    exact ⟨tr, tr', htr, by simpa using hquiet.trans hτ,
      (congrArg (·.get t) (hsame'.trans hsame)).trans htr', hrec⟩
  split
  · exact hlists { Quiet.refl t σ1 with listenersOk := fun hok => { hok with } } rfl
  · exact hlists (.refl t σ1) rfl

lemma removeTransport_spec (h : Inv [] σ.socks) :
    Sat (removeTransport cfg t σ)
      (fun τ => Quiet t [.note (.deleted t)] σ τ ∧ τ.transports.get t = none) Halt.Excused := by
  unfold removeTransport
  dsimp only
  let unlisted : Server := { σ with transportList := σ.transportList.filter (· ≠ t) }
  have hunlisted : Quiet t [] σ unlisted :=
    { Quiet.refl t σ with listenersOk := fun hok => { hok with } }
  cases htr : σ.transports.get t with
  | none =>
    unfold connectionStop
    rw [transport_none (σ := unlisted) htr]
    exact Or.inr rfl
  | some tr =>
    refine ((connectionStop_quiet (σ := unlisted) htr).mono (fun _ h => h)
      fun _ he => .inr he).bind ?_
    rintro σ1 ⟨hσ1, -, tr', htr', -⟩
    let freed : Server := { σ1 with transports := σ1.transports.free t }
    have hfreed : Quiet t [.note (.deleted t)] σ1 (freed.emit (.deleted t)) :=
      { socks := .single (.note _ rfl)
        others := fun u hu => get_free_of_ne hu
        next := rfl
        listeners := fun _ hx => hx
        listenersOk := fun hok =>
          { hok with
            linked := fun x hx u tu hxu hu => by
              have hut : u ≠ t := by
                rintro rfl
                simp [freed, Server.emit] at hu
              exact hok.linked x hx u tu hxu ((get_free_of_ne hut).symm.trans hu) }
        usb := .inl ⟨rfl, rfl⟩
        frameworkFd := rfl
        tokens := fun _ => rfl }
    have hquiet := hunlisted.trans (hσ1.trans hfreed)
    refine (updateTransports_quiet t (hquiet.socks.inv h)).imp ?_
    rintro τ ⟨hτ, hsame⟩
    exact ⟨by simpa using hquiet.trans hτ, (congrArg (·.get t) hsame).trans get_free_self⟩

/-! ## The reconnect thread -/

private lemma Ordinary.ofQueues {registration : List TMsg}
    {queue : List ReconnectAttempt} {reconnecting : Option ReconnectAttempt}
    (hts : SameTransports σ.transports ts)
    (hd : ∀ u tu, ts.get u = some tu → ∃ tu0, σ.transports.get u = some tu0 ∧
      tu.disconnects = tu0.disconnects)
    (htokens : ∀ u, tokens { σ with
      transports := ts, registration := registration, reconnectQueue := queue,
      reconnecting := reconnecting } u = σ.tokens u) :
    Ordinary [] σ { σ with
      transports := ts, registration := registration, reconnectQueue := queue,
      reconnecting := reconnecting } where
  socks := .refl
  transports t tr' htr' := .inl (hts.back t tr' htr')
  kept := hts.forth
  next := Nat.le_of_eq hts.next.symm
  listeners x hx _ hxt := .inr ⟨x, hx, hxt⟩
  listenersOk hok :=
    { hok with
      known := fun x hx t hxt => by rw [hts.next]; exact hok.known x hx t hxt
      linked := fun x hx u tu hxu hu => by
        obtain ⟨tu0, htu0, hsame⟩ := hd u tu hu
        rw [hsame]
        exact hok.linked x hx u tu0 hxu htu0 }
  usbTransport := rfl
  needsRetry := rfl
  frameworkFd := rfl
  tokensOk hok := by
    refine ⟨fun t => ?_, fun t ht => ?_⟩
    · have hrefs : refs { σ with
          transports := ts, registration := registration, reconnectQueue := queue,
          reconnecting := reconnecting } t = σ.refs t := hts.refCount t
      rw [htokens, hrefs]
      exact hok.one t
    · rw [htokens]
      exact hok.fresh t (by rw [← hts.next]; exact ht)

private lemma removeKicked_spec {list : List ReconnectAttempt} :
    Sat (removeKicked list σ)
      (fun x => ∃ registration, x.2 = { σ with registration := registration } ∧
        ∀ u, registration.countP (·.transport = u) + x.1.countP (·.transport = u) =
          σ.registration.countP (·.transport = u) + list.countP (·.transport = u))
      (· = .dangling) := by
  induction list generalizing σ with
  | nil => exact ⟨σ.registration, rfl, fun u => by simp⟩
  | cons x rest ih =>
    refine transport_spec.bind fun tr _ => ?_
    refine .ite (fun _ => ?_) fun _ => ?_
    · refine ih.imp ?_
      rintro ⟨kept, τ⟩ ⟨registration, rfl, hcount⟩
      refine ⟨registration, rfl, fun u => ?_⟩
      have hlast : [TMsg.remove x.transport].countP (·.transport = u) =
          if x.transport = u then 1 else 0 := by
        simp only [countP_singleton, decide_eq_true_eq]
        rfl
      rw [hcount u, countP_append, hlast, countP_cons]
      simp only [decide_eq_true_eq]
      omega
    · refine ih.bind ?_
      rintro ⟨kept, τ⟩ ⟨registration, rfl, hcount⟩
      refine ⟨registration, rfl, fun u => ?_⟩
      have hrest := hcount u
      simp only [countP_cons] at hrest ⊢
      omega

private lemma countP_eraseIdx (queue : List ReconnectAttempt) (i : ℕ) (u : TPtr) :
    (queue.eraseIdx i).countP (·.transport = u) +
      (if queue[i]?.any (·.transport = u) then 1 else 0) = queue.countP (·.transport = u) := by
  induction queue generalizing i with
  | nil => simp
  | cons x rest ih =>
    cases i with
    | zero => simp [countP_cons]
    | succ i =>
      have hrest := ih i
      simp only [eraseIdx_cons_succ, countP_cons, List.getElem?_cons_succ] at hrest ⊢
      omega

lemma reconnectScan_ordinary {due : Option ℕ} :
    Sat (reconnectScan due σ) (Ordinary [] σ) (· = .dangling) := by
  unfold reconnectScan
  cases hrec : σ.reconnecting with
  | some x => exact Ordinary.refl σ
  | none =>
    refine removeKicked_spec.bind ?_
    rintro ⟨queue, τ⟩ ⟨registration, rfl, hcount⟩
    have hmoved : ∀ q r, (∀ u, q.countP (·.transport = u) +
        (if Option.any (·.transport = u) r then 1 else 0) = queue.countP (·.transport = u)) →
        Ordinary [] σ { σ with
          registration := registration, reconnectQueue := q, reconnecting := r } := by
      intro q r hq
      refine .ofQueues (.refl _) (fun u tu hu => ⟨tu, hu, rfl⟩) fun u => ?_
      have h1 := hcount u
      have h2 := hq u
      unfold tokens
      simp only [hrec, Option.any_none, Bool.false_eq_true, if_false] at h1 ⊢
      omega
    cases due with
    | none => exact hmoved queue σ.reconnecting fun u => by simp [hrec]
    | some i => exact hmoved _ _ (countP_eraseIdx queue i)

lemma reconnectResult_ordinary (r : ReconnectResult) :
    Sat (reconnectResult r σ) (Ordinary [] σ) (· = .dangling) := by
  unfold reconnectResult
  cases hrec : σ.reconnecting with
  | none => exact Ordinary.refl σ
  | some x =>
    -- the attempt ends, and its transport is spoken for in another way
    have hone : ∀ u, σ.tokens u = tokens { σ with reconnecting := none } u +
        if u = x.transport then 1 else 0 := by
      intro u
      unfold tokens
      by_cases hux : x.transport = u
      · simp [hrec, hux]
      · simp [hrec, hux, Ne.symm hux]
    have hgiveUp : Ordinary [] σ { σ with
        reconnecting := none, registration := σ.registration ++ [.remove x.transport] } := by
      refine .ofQueues (.refl _) (fun u tu hu => ⟨tu, hu, rfl⟩) fun u => ?_
      rw [hone u]
      exact tokens_registration { σ with reconnecting := none } (.remove x.transport) u
    cases r with
    | abort => exact hgiveUp
    | retry =>
      refine .ite (fun _ => hgiveUp) fun _ => ?_
      refine .ofQueues (.refl _) (fun u tu hu => ⟨tu, hu, rfl⟩) fun u => ?_
      rw [hone u]
      exact tokens_reconnectQueue { σ with reconnecting := none } _ u
    | success =>
      refine transport_spec.bind fun tr htr => ?_
      refine .ofQueues (.set htr (by exact ⟨rfl, rfl, rfl, rfl, rfl⟩)) ?_ fun u => ?_
      · intro u tu hu
        change (σ.transports.set x.transport _).get u = some tu at hu
        by_cases hux : u = x.transport
        · subst hux
          rw [get_set_self htr] at hu
          cases hu
          exact ⟨tr, htr, rfl⟩
        · rw [get_set_of_ne _ hux] at hu
          exact ⟨tu, hu, rfl⟩
      · rw [hone u]
        exact tokens_registration { σ with reconnecting := none } (.register x.transport) u

lemma unregisterUsbTransport_ordinary : Ordinary [] σ (unregisterUsbTransport t σ) := by
  unfold unregisterUsbTransport
  split
  · exact .refl σ
  split
  · exact { Ordinary.refl σ with
      listenersOk := fun hok => { hok with }
      tokensOk := fun hok => { hok with } }
  · exact .refl σ

end Server

end Adb
