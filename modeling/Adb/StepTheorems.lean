import Adb.EventLoopTheorems
import Adb.TransportTheorems

/-!
# What one step of the process does

`Moves` lists what a callback can come to: an ordinary step, or one of a few steps that concern one
transport. All that is proved about runs is proved from this list. `Sound` is what holds in every
state of every run; from it follow the reasons for which the process can stop.
-/

namespace Adb

open Lib List

namespace Server

open Sockets (Inv Effs Act)

structure Sound (σ : Server) : Prop where
  inv : Inv [] σ.socks
  listenersOk : σ.ListenersOk
  /-- the framework is asked again only for a transport that waits for it -/
  retry : σ.needsRetry = true → σ.usbTransport ≠ none

/-! ## Packets of streams -/

/-- The packet is for a socket that is connected to the one it comes from. -/
def FromPeer (p : APacket) (heap : Store ASocket) : Prop :=
  ∃ s a r b, Addressed p heap s a ∧ a.peer = some r ∧ heap.get r = some b ∧ b.id = p.msg.arg0

def FirstAnswer (p : APacket) (heap : Store ASocket) : Prop :=
  ∃ s a, Addressed p heap s a ∧ a.peer = none

/-- The steps that a packet of a stream leads to, which comes from `t`. -/
inductive PacketActs (t : TPtr) (p : APacket) (online : Prop) (heap : Store ASocket) :
    List Act → Prop
  /-- the packet is not for any socket, or asks for none of the steps that have a label -/
  | none
      (hwrte : p.msg.command = A_WRTE → p.msg.arg0 ≠ 0 → online → ¬ FromPeer p heap)
      (hokay : p.msg.command = A_OKAY → p.msg.arg0 ≠ 0 → online →
        ¬ FromPeer p heap ∧ ¬ FirstAnswer p heap) : PacketActs t p online heap []
  | accept {s : Ptr} {id : UInt32} (hp : p.msg.command = A_OPEN) :
      PacketActs t p online heap [.accept s id p.msg.arg0 t]
  | connect {s : Ptr} {a : ASocket} (hp : p.msg.command = A_OKAY)
      (hs : heap.get s = some a) (hid : a.id = p.msg.arg1) :
      PacketActs t p online heap [.connect s a.id p.msg.arg0 t]
  | ready {s r : Ptr} {a b : ASocket} (hp : p.msg.command = A_OKAY)
      (hs : heap.get s = some a) (hid : a.id = p.msg.arg1) (hpeer : a.peer = some r)
      (hr : heap.get r = some b) (hb : b.id = p.msg.arg0) : PacketActs t p online heap [.ready s]
  | write {s r : Ptr} {a b : ASocket} {l : List Act} (hp : p.msg.command = A_WRTE)
      (hs : heap.get s = some a) (hid : a.id = p.msg.arg1) (hpeer : a.peer = some r)
      (hr : heap.get r = some b) (hb : b.id = p.msg.arg0)
      (hl : WrteActs s t p.payload b l) : PacketActs t p online heap l

lemma PacketActs.not_onRead {t : TPtr} {p : APacket} {online : Prop} {heap : Store ASocket}
    {l : List Act} {act : Act} (h : PacketActs t p online heap l) (hact : act ∈ l) :
    act.onRead = false := by
  cases h with
  | none => cases hact
  | accept | connect | ready =>
    cases mem_singleton.mp hact
    rfl
  | write _ _ _ _ _ _ hl =>
    cases hl with
    | deliver | inject =>
      cases mem_singleton.mp hact
      rfl
    | echo =>
      rcases mem_cons.mp hact with rfl | hact
      · rfl
      · cases mem_singleton.mp hact
        rfl

/-! ## The steps -/

inductive Moves (cfg : Config) : Callback → Server → List Act → Server → Prop
  /-- a packet of a stream, or one with an unknown command -/
  | stream {t p σ l τ} (hcnxn : p.msg.command ≠ A_CNXN) (hauth : p.msg.command ≠ A_AUTH)
      (h : Ordinary (.note (.handled t p) :: l) σ τ)
      (hl : PacketActs t p (σ.NotOffline t) σ.socks.heap l) :
      Moves cfg (.packet t p) σ (.note (.handled t p) :: l) τ
  | event {σ l τ} (h : Ordinary l σ τ) (hl : ∀ act ∈ l, σ.PendingAct act) :
      Moves cfg .event σ l τ
  | poll {revents σ l τ} (h : Ordinary l σ τ) (hl : ∀ act ∈ l, PollAct revents act) :
      Moves cfg (.poll revents) σ l τ
  /-- a callback that has nothing to do with any stream or connection state -/
  | serve {c σ τ} (hc : ∀ t p, c ≠ .packet t p) (h : Ordinary [] σ τ) : Moves cfg c σ [] τ
  | cnxn {t p σ l τ tr tr'} (hp : p.msg.command = A_CNXN) (htr : σ.transports.get t = some tr)
      (h : Quiet t (.note (.handled t p) :: l) σ τ) (htr' : τ.transports.get t = some tr')
      (hrec : CnxnRecord cfg p tr tr')
      (hclear : tr.connectionState ≠ .kCsOffline → Sockets.Clear t τ.socks)
      (hl : Replies cfg t l) : Moves cfg (.packet t p) σ (.note (.handled t p) :: l) τ
  | authUnknown {t p σ tr} (hp : p.msg.command = A_AUTH) (hunknown : unknownAuth cfg p = true)
      (htr : σ.transports.get t = some tr) :
      Moves cfg (.packet t p) σ [.note (.handled t p)]
        ((σ.emit (.handled t p)).setTransport t { tr with connectionState := .kCsOffline })
  | authToken {t p σ τ tr tr'} (hp : p.msg.command = A_AUTH) (hhost : cfg.host = true)
      (htr : σ.transports.get t = some tr)
      (h : Quiet t (.note (.handled t p) :: answerActs t tr σ) σ τ)
      (htr' : τ.transports.get t = some tr') (hrec : TokenRecord σ tr tr')
      (harg : p.msg.arg0 = ADB_AUTH_TOKEN) :
      Moves cfg (.packet t p) σ (.note (.handled t p) :: answerActs t tr σ) τ
  | authSignature {t p σ l τ tr} (hp : p.msg.command = A_AUTH) (hhost : cfg.host = false)
      (harg : p.msg.arg0 = ADB_AUTH_SIGNATURE) (htr : σ.transports.get t = some tr)
      (h : SignatureOutcome cfg t p tr (σ.emit (.handled t p)) l τ) :
      Moves cfg (.packet t p) σ (.note (.handled t p) :: l) τ
  | authKey {t p σ l τ} (hp : p.msg.command = A_AUTH) (hhost : cfg.host = false)
      (harg : p.msg.arg0 = ADB_AUTH_RSAPUBLICKEY)
      (h : KeyOutcome t p.payload (σ.emit (.handled t p)) l τ) :
      Moves cfg (.packet t p) σ (.note (.handled t p) :: l) τ
  | error {t σ σ1 τ tr tr1} (htr : σ.transports.get t = some tr)
      (hoff : OfflineOutcome t tr σ σ1) (htr1 : σ1.transports.get t = some tr1)
      (h : Unref t tr1 σ1 τ) : Moves cfg (.error t) σ [] τ
  | frameworkConnect {t σ l τ} (hhost : cfg.host = false) (h : FrameworkConnected t l σ τ)
      (hl : Replies cfg t l) : Moves cfg .frameworkConnect σ l τ
  | frameworkReply {response σ l τ} (hhost : cfg.host = false)
      (h : ReplyOutcome cfg response σ l τ) : Moves cfg (.frameworkReply response) σ l τ
  | register {t σ τ tr tr' rest} (hmsg : σ.registration = .register t :: rest)
      (htr : σ.transports.get t = some tr)
      (h : Quiet t (startActs cfg t tr) { σ with registration := rest } τ)
      (htr' : τ.transports.get t = some tr') (hrec : StartRecord tr tr') :
      Moves cfg .registration σ (startActs cfg t tr) τ
  | remove {t σ τ rest} (hmsg : σ.registration = .remove t :: rest)
      (h : Quiet t [.note (.deleted t)] { σ with registration := rest } τ)
      (htr : τ.transports.get t = none) : Moves cfg .registration σ [.note (.deleted t)] τ

def Callback.EmptyKey (c : Callback) : Prop :=
  ∃ t p, c = .packet t p ∧ p.msg.command = A_AUTH ∧ p.msg.arg0 = ADB_AUTH_RSAPUBLICKEY ∧
    p.payload = []

def oversizedCallback (cfg : Config) (c : Callback) (σ : Server) : Bool :=
  match c with
  | .event => oversizedEvent cfg σ
  | .accept l => oversizedAccept l σ
  | _ => false

def Callback.UnrefsTooOften (c : Callback) (σ : Server) : Prop := ∃ t, c = .error t ∧ σ.refs t = 0

def Callback.StartsTwice (c : Callback) (σ : Server) : Prop :=
  ∃ t rest tr, c = .registration ∧ σ.registration = .register t :: rest ∧
    σ.transports.get t = some tr ∧ tr.connection.started = true

/-- Why a callback does not return. The other assertions of the source never fail, no null
pointer and no deleted socket is used, and no virtual call nests deeper than the model follows
it. -/
def CallbackHalt (cfg : Config) (c : Callback) (σ : Server) (h : Halt) : Prop :=
  h.Excused ∨ h = .nullString ∨ (h = .wild ∧ c.EmptyKey) ∨
    (h = .fatal .destinationOversized ∧ oversizedCallback cfg c σ = true) ∨
    (∃ f, h = .fatal f ∧ f ∈ [Fatal.socketIdOverflow, .bannerTooLong]) ∨
    (∃ k, h = .check k ∧ k ∈ [Check.packetLength, .appendEmpty, .fdNonnegative]) ∨
    (h = .check .refCount ∧ c.UnrefsTooOften σ) ∨ (h = .fatal .startedTwice ∧ c.StartsTwice σ)

namespace CallbackHalt

variable {c : Callback} {h : Halt} {cfg : Config} {t : TPtr} {p : APacket} {σ ρ : Server}

lemma of_excused (hh : h.Excused) : CallbackHalt cfg c σ h := .inl hh

lemma of_dangling (hh : h = .dangling) : CallbackHalt cfg c σ h := .inl (.inr hh)

private lemma of_fatal {f : Fatal} (hh : h = .fatal f)
    (hf : f ∈ [Fatal.socketIdOverflow, .bannerTooLong]) :
    CallbackHalt cfg c σ h := .inr (.inr (.inr (.inr (.inl ⟨f, hh, hf⟩))))

private lemma of_check {k : Check} (hh : h = .check k)
    (hk : k ∈ [Check.packetLength, .appendEmpty, .fdNonnegative]) :
    CallbackHalt cfg c σ h := .inr (.inr (.inr (.inr (.inr (.inl ⟨k, hh, hk⟩)))))

lemma of_open {used : Bool} (hh : OpenHalt used h) : CallbackHalt cfg c σ h := by
  rcases hh with hh | ⟨hh, -⟩
  · exact .of_excused hh
  · exact .of_fatal hh (by simp)

lemma of_request (hh : RequestHalt (oversizedCallback cfg c σ) h) : CallbackHalt cfg c σ h := by
  rcases hh with (hh | hh) | hh | hh
  · exact .of_excused hh
  · exact .inr (.inr (.inr (.inl hh)))
  · exact .of_fatal hh (by simp)
  · exact .of_check hh (by simp)

lemma of_connect {talks : Prop} (hh : ConnectHalt cfg talks h) : CallbackHalt cfg c σ h := by
  rcases hh with hh | ⟨hh, -⟩
  · exact .of_excused hh
  · exact .of_fatal hh (by simp)

lemma of_register {rest : List TMsg} (hmsg : σ.registration = .register t :: rest)
    (hh : RegisterHalt cfg t { σ with registration := rest } h) :
    CallbackHalt cfg .registration σ h := by
  rcases hh with hh | ⟨hh, tr, htr, hstarted⟩
  · exact .of_connect hh
  · exact .inr (.inr (.inr (.inr (.inr (.inr (.inr ⟨hh, t, rest, tr, rfl, hmsg, htr, hstarted⟩))))))

lemma of_unref (hh : UnrefHalt t σ h) : CallbackHalt cfg (.error t) σ h := by
  rcases hh with hh | ⟨hh, hrefs⟩
  · exact .of_excused hh
  · exact .inr (.inr (.inr (.inr (.inr (.inr (.inl ⟨hh, t, rfl, hrefs⟩))))))

lemma of_token (hh : TokenHalt t p ρ h) : CallbackHalt cfg c σ h := by
  rcases hh with hh | ⟨hh, -⟩
  · exact .of_dangling hh
  · exact .inr (.inl hh)

lemma of_key (hp : p.msg.command = A_AUTH) (harg : p.msg.arg0 = ADB_AUTH_RSAPUBLICKEY)
    (hh : KeyHalt p.payload ρ h) : CallbackHalt cfg (.packet t p) σ h := by
  rcases hh with hh | ⟨hh, hkey, -⟩
  · exact .of_dangling hh
  · exact .inr (.inr (.inl ⟨hh, t, p, rfl, hp, harg, hkey⟩))

lemma of_appendEmpty (hh : h = .check .appendEmpty) : CallbackHalt cfg c σ h :=
  .of_check hh (by simp)

lemma of_packetLength (hh : h = .check .packetLength) : CallbackHalt cfg c σ h :=
  .of_check hh (by simp)

end CallbackHalt

variable {σ τ : Server} {cfg : Config} {c : Callback} {l : List Act} {t : TPtr} {p : APacket}

/-! ## Every callback is such a step -/

private lemma streamPacket_spec (t : TPtr) (p : APacket) (h : σ.Sound)
    (hcnxn : p.msg.command ≠ A_CNXN) (hauth : p.msg.command ≠ A_AUTH)
    (hlen : p.payload.length < UInt32.size) :
    Sat (dispatchPacket cfg t p σ)
      (fun τ => ∃ l, Ordinary l σ τ ∧ PacketActs t p (σ.NotOffline t) σ.socks.heap l)
      (CallbackHalt cfg (.packet t p) σ) := by
  -- a packet of a stream is handled only while its transport is there
  have honline {f : ATransport → Res Server} {τ : Server} (hok : (σ.transport t >>= f) = .ok τ)
      (hon : σ.NotOffline t) : σ.Online t := by
    obtain ⟨tr, hok, -⟩ := bind_eq_ok.mp hok
    have htr := transport_spec.of_ok hok
    exact ⟨tr, htr, hon tr htr⟩
  have hwrte (hnone : wrteTarget t p σ = none) (harg : p.msg.arg0 ≠ 0) (hon : σ.Online t) :
      ¬ FromPeer p σ.socks.heap := by
    rintro ⟨s, a, r, b, ha, hpeer, hr, hb⟩
    rw [wrteTarget_eq h.inv hon harg ha hpeer hr hb] at hnone
    cases hnone
  have hokay (hnone : okayTarget t p σ = none) (harg : p.msg.arg0 ≠ 0) (hon : σ.Online t) :
      ¬ FromPeer p σ.socks.heap ∧ ¬ FirstAnswer p σ.socks.heap := by
    constructor
    · rintro ⟨s, a, r, b, ha, hpeer, hr, hb⟩
      rw [okayTarget_eq h.inv hon harg ha fun r' b' hr' hb' => by
        rw [hpeer] at hr'
        cases hr'
        rw [hr] at hb'
        cases hb'
        exact hb] at hnone
      cases hnone
    · rintro ⟨s, a, ha, hpeer⟩
      rw [okayTarget_eq h.inv hon harg ha fun r' b' hr' _ => by
        rw [hpeer] at hr'
        cases hr'] at hnone
      cases hnone
  unfold dispatchPacket
  rw [if_neg hcnxn, if_neg hauth]
  refine .ite (fun hp => ?_) fun _ => .ite (fun hp => ?_) fun hno => .ite (fun hp => ?_) fun _ =>
    .ite (fun hp => ?_) fun hnw => ⟨[], .refl σ, .none (absurd · hnw) (absurd · hno)⟩
  · refine (handleOpen_spec h.inv h.listenersOk hlen).mono ?_ fun _ => .of_open
    rintro τ ⟨l, hτ | hτ⟩
    · refine ⟨_, hτ, .none ?_ ?_⟩
      · rw [hp]
        exact fun h => absurd h (by decide)
      · rw [hp]
        exact fun h => absurd h (by decide)
    · exact ⟨_, hτ, .accept hp⟩
  · refine (handleOkay_spec h.inv).self.mono ?_ fun _ => .of_dangling
    have hnot : p.msg.command ≠ A_WRTE := by
      rw [hp]
      decide
    rintro τ ⟨hok, l, hτ⟩
    refine ⟨l, hτ.ordinary, ?_⟩
    cases hτ with
    | ignored hnone =>
      exact .none (absurd · hnot) fun _ harg hon => hokay hnone harg (honline hok hon)
    | unknown _ hnone =>
      exact .none (absurd · hnot) fun _ harg hon => hokay hnone harg (honline hok hon)
    | connect _ hs _ _ hid => exact .connect hp hs hid
    | ready _ hs _ hpeer hr hb hid => exact .ready hp hs hid hpeer hr hb
  · refine (handleClse_spec h.inv).mono ?_ fun _ => .of_excused
    refine fun τ hτ => ⟨[], hτ.ordinary h.inv, .none ?_ (absurd · hno)⟩
    rw [hp]
    exact fun h => absurd h (by decide)
  · by_cases hempty : p.payload = []
    · refine (handleWrte_empty h.inv hempty).self.mono ?_ ?_
      · rintro _ ⟨hok, rfl, hnone⟩
        exact ⟨[], .refl _, .none (fun _ harg hon => hwrte hnone harg (honline hok hon))
          (absurd · hno)⟩
      · rintro e (⟨he, -⟩ | ⟨he, -⟩)
        · exact .of_dangling he
        · exact .of_appendEmpty he
    · refine (handleWrte_spec h.inv hempty).self.mono ?_ fun _ => .of_excused
      rintro τ ⟨hok, hτ⟩
      rcases hτ.ordinary h.inv with ⟨rfl, hnone⟩ | ⟨s, r, a, b, l, hs, hpeer, hid, hr, hb, hl, hτ⟩
      · exact ⟨[], .refl _, .none (fun _ harg hon => hwrte hnone harg (honline hok hon))
          (absurd · hno)⟩
      · exact ⟨l, hτ, .write hp hs hid hpeer hr hb hl⟩

lemma handled_quiet (t : TPtr) (p : APacket) (σ : Server) :
    Quiet t [.note (.handled t p)] σ (σ.emit (.handled t p)) :=
  .ofSocks t (.single (.note _ rfl))

private lemma authPacket_spec (t : TPtr) (p : APacket) (hp : p.msg.command = A_AUTH) (σ : Server) :
    Sat (handleAuth cfg t p (σ.emit (.handled t p))) (fun τ => ∃ l, Moves cfg (.packet t p) σ l τ)
      (CallbackHalt cfg (.packet t p) σ) := by
  have hunknown (h : unknownAuth cfg p = true) : Sat (authUnknown t (σ.emit (.handled t p)))
        (fun τ => ∃ l, Moves cfg (.packet t p) σ l τ) (CallbackHalt cfg (.packet t p) σ) := by
    cases htr : σ.transports.get t with
    | none =>
      rw [authUnknown, transport_none (σ := σ.emit (.handled t p)) htr]
      exact .of_dangling rfl
    | some tr =>
      rw [authUnknown_eq (σ := σ.emit (.handled t p)) htr]
      exact ⟨_, .authUnknown hp h htr⟩
  refine .ite (fun hhost => .ite (fun harg => ?_) fun harg => ?_) fun hhost =>
    .ite (fun harg => ?_) fun harg => .ite (fun harg' => ?_) fun harg' => ?_
  · refine authToken_spec.mono ?_ fun _ => .of_token
    rintro τ ⟨tr, tr', htr, hτ, htr', hrec⟩
    exact ⟨_, .authToken hp hhost htr ((handled_quiet t p σ).trans hτ) htr' { hrec with } harg⟩
  · exact hunknown (by simp [unknownAuth, hhost, harg])
  · have hhost : cfg.host = false := by simpa using hhost
    refine (authSignature_spec hhost).mono ?_ fun _ => .of_connect
    rintro τ ⟨tr, l, htr, hτ⟩
    exact ⟨_, .authSignature hp hhost harg htr hτ⟩
  · have hhost : cfg.host = false := by simpa using hhost
    refine adbdAuthConfirmKey_spec.mono ?_ fun _ => .of_key hp harg'
    rintro τ ⟨l, hτ⟩
    exact ⟨_, .authKey hp hhost harg' hτ⟩
  · exact hunknown (by simp [unknownAuth, hhost, harg, harg'])

lemma handlePacket_moves (t : TPtr) (p : APacket) (h : σ.Sound) :
    Sat (handlePacket cfg t p σ) (fun τ => ∃ l, Moves cfg (.packet t p) σ l τ)
      (CallbackHalt cfg (.packet t p) σ) := by
  let heard := σ.emit (.handled t p)
  have hheard : Ordinary [.note (.handled t p)] σ heard := .ofSocks (.single (.note _ rfl))
  have hsound : heard.Sound := ⟨hheard.socks.inv h.inv, hheard.listenersOk h.listenersOk, h.retry⟩
  unfold handlePacket
  cases hlen : p.payload.length == p.msg.dataLength.toNat with
  | false => exact .of_packetLength rfl
  | true => ?_
  rw [check_true, ok_bind]
  by_cases hcnxn : p.msg.command = A_CNXN
  · rw [dispatchPacket, if_pos hcnxn]
    refine (handleNewConnection_spec hsound.inv hsound.listenersOk).mono ?_ fun _ => .of_connect
    rintro τ ⟨tr, tr', l, htr, hτ, hl, htr', hrec, hclear⟩
    exact ⟨_, .cnxn hcnxn htr ((handled_quiet t p σ).trans hτ) htr' hrec hclear hl⟩
  by_cases hauth : p.msg.command = A_AUTH
  · rw [dispatchPacket, if_neg hcnxn, if_pos hauth]
    exact authPacket_spec t p hauth σ
  have hshort : p.payload.length < UInt32.size := by
    rw [beq_iff_eq.mp hlen]
    exact p.msg.dataLength.toNat_lt_size
  refine (streamPacket_spec t p hsound hcnxn hauth hshort).imp ?_
  rintro τ ⟨l, hτ, hacts⟩
  exact ⟨_, .stream hcnxn hauth (hheard.trans hτ) hacts⟩

private lemma registration_moves (h : σ.Sound) :
    Sat (transportRegistrationFunc cfg σ) (fun τ => ∃ l, Moves cfg .registration σ l τ)
      (CallbackHalt cfg .registration σ) := by
  unfold transportRegistrationFunc
  cases hmsg : σ.registration with
  | nil => exact ⟨_, .serve (by simp) (.refl σ)⟩
  | cons m rest =>
    have hinv : Inv [] { σ with registration := rest }.socks := h.inv
    cases m with
    | remove t =>
      refine (removeTransport_spec hinv).mono ?_ fun _ => .of_excused
      exact fun τ hτ => ⟨_, .remove hmsg hτ.1 hτ.2⟩
    | register t =>
      refine (registerTransport_spec hinv).mono ?_ fun _ => .of_register hmsg
      rintro τ ⟨tr, tr', htr, hτ, htr', hrec⟩
      exact ⟨_, .register hmsg htr hτ htr' hrec⟩

lemma callback_moves (c : Callback) (h : σ.Sound) :
    Sat (callback cfg c σ) (fun τ => ∃ l, Moves cfg c σ l τ) (CallbackHalt cfg c σ) := by
  have hserve {τ : Server} (hc : ∀ t p, c ≠ .packet t p) (hτ : Ordinary [] σ τ) :
      ∃ l, Moves cfg c σ l τ := ⟨[], .serve hc hτ⟩
  cases c with
  | packet t p => exact handlePacket_moves t p h
  | error t =>
    refine (errorCallback_spec h.inv h.listenersOk).mono ?_ fun _ => .of_unref
    rintro τ ⟨tr, tr1, σ1, htr, hoff, htr1, hτ⟩
    exact ⟨[], .error htr hoff htr1 hτ⟩
  | poll revents =>
    obtain ⟨l, hτ, hl⟩ := fdeventProcess_effs revents h.inv
    exact ⟨l, .poll (.ofSocks hτ) hl⟩
  | event =>
    refine (fdeventCallFdfunc_spec h.inv h.listenersOk).mono ?_
      fun _ => CallbackHalt.of_request (c := .event)
    exact fun τ ⟨l, hτ, hacts⟩ => ⟨l, .event hτ hacts⟩
  | accept n =>
    refine (listenerEvent_spec n h.inv h.listenersOk).mono ?_
      fun _ => CallbackHalt.of_request (c := .accept n)
    exact fun τ hτ => hserve (by simp) hτ
  | frameworkConnect =>
    refine .ite (fun _ => hserve (by simp) (.refl σ)) fun hhost => ?_
    have hhost : cfg.host = false := by simpa using hhost
    refine (adbdAuthListener_spec hhost h.retry).mono ?_ fun _ => .of_dangling
    exact fun τ ⟨t, l, hτ, hl⟩ => ⟨l, .frameworkConnect hhost hτ hl⟩
  | frameworkReply response =>
    refine .ite (fun _ => hserve (by simp) (.refl σ)) fun hhost => ?_
    refine adbdAuthEvent_spec.mono ?_ fun _ => .of_connect
    simp only [Bool.or_eq_true, not_or] at hhost
    exact fun τ ⟨l, hτ⟩ => ⟨l, .frameworkReply (by simpa using hhost.1) hτ⟩
  | registration => exact registration_moves h
  | usbDevice serial devpath writeable => exact hserve (by simp) registerUsbTransport_apart.ordinary
  | usbGone t => exact hserve (by simp) unregisterUsbTransport_ordinary
  | tcpDevice serial => exact hserve (by simp) registerSocketTransport_apart.ordinary
  | kick t =>
    refine kickTransport_apart.mono ?_ fun _ => .of_dangling
    exact fun τ hτ => hserve (by simp) hτ.ordinary
  | reconnectScan due =>
    refine .ite (fun _ => ?_) fun _ => hserve (by simp) (.refl σ)
    refine (reconnectScan_ordinary).mono ?_ fun _ => .of_dangling
    exact fun τ hτ => hserve (by simp) hτ
  | reconnectResult r =>
    refine .ite (fun _ => ?_) fun _ => hserve (by simp) (.refl σ)
    refine (reconnectResult_ordinary r).mono ?_ fun _ => .of_dangling
    exact fun τ hτ => hserve (by simp) hτ

/-! ## What a step keeps -/

lemma UsbKept.retry (h : UsbKept σ τ) (hσ : σ.needsRetry = true → σ.usbTransport ≠ none) :
    τ.needsRetry = true → τ.usbTransport ≠ none := by
  rcases h with ⟨hu, hn⟩ | ⟨-, hn⟩
  · rw [hu, hn]
    exact hσ
  · simp [hn]

namespace Moves

lemma socks (h : Moves cfg c σ l τ) : Effs σ.rules l σ.socks τ.socks := by
  have hnone : ∀ {l : List Act} {socks socks' : Sockets}, Effs .none l socks socks' →
      Effs σ.rules l socks socks' := fun h => h.mono (Sockets.Rules.none_le _)
  cases h with
  | stream _ _ h => exact h.socks
  | event h => exact h.socks
  | poll h => exact h.socks
  | serve _ h => exact h.socks
  | cnxn _ _ h => exact hnone h.socks
  | authUnknown => exact .single (.note _ rfl)
  | authToken _ _ _ h => exact hnone h.socks
  | @authSignature t p _ _ _ _ _ _ _ _ h =>
    cases h with
    | verified _ h => exact hnone ((handled_quiet t p σ).socks.trans h.socks)
    | refused _ h => exact hnone ((handled_quiet t p σ).socks.trans h.socks)
  | @authKey t p _ _ _ _ _ _ h => exact hnone ((handled_quiet t p σ).socks.trans h.socks)
  | error _ hoff _ h => exact hnone (hoff.quiet.socks.trans h.socks)
  | frameworkConnect _ h => exact hnone h.socks
  | frameworkReply _ h =>
    cases h with
    | closed => exact .refl
    | nobody => exact .single (.note _ rfl)
    | approved _ _ _ h => exact hnone h.socks
    | other => exact .refl
  | register _ _ h => exact hnone h.socks
  | remove _ h => exact hnone h.socks

lemma listenersOk (h : Moves cfg c σ l τ) (hσ : σ.ListenersOk) : τ.ListenersOk := by
  have hheard (t : TPtr) (p : APacket) : ListenersOk (σ.emit (.handled t p)) := { hσ with }
  cases h with
  | stream _ _ h => exact h.listenersOk hσ
  | event h => exact h.listenersOk hσ
  | poll h => exact h.listenersOk hσ
  | serve _ h => exact h.listenersOk hσ
  | cnxn _ _ h => exact h.listenersOk hσ
  | @authUnknown t p _ tr _ _ htr =>
    have hset : Quiet t [] (σ.emit (.handled t p)) ((σ.emit (.handled t p)).setTransport t
        { tr with connectionState := .kCsOffline }) := .setTransport htr fun _ hd => hd
    exact hset.listenersOk (hheard t p)
  | authToken _ _ _ h => exact h.listenersOk hσ
  | @authSignature t p _ _ _ _ _ _ _ _ h =>
    cases h with
    | verified _ h => exact h.listenersOk (hheard t p)
    | refused _ h => exact h.listenersOk (hheard t p)
  | @authKey t p _ _ _ _ _ _ h => exact h.listenersOk (hheard t p)
  | error _ hoff _ h => exact h.listenersOk (hoff.quiet.listenersOk hσ)
  | frameworkConnect _ h => exact h.listenersOk hσ
  | frameworkReply _ h =>
    cases h with
    | closed => exact { hσ with }
    | nobody => exact { hσ with }
    | approved _ _ _ h => exact h.listenersOk hσ
    | other => exact hσ
  | register _ _ h => exact h.listenersOk { hσ with }
  | remove _ h => exact h.listenersOk { hσ with }

lemma retry (h : Moves cfg c σ l τ) (hσ : σ.needsRetry = true → σ.usbTransport ≠ none) :
    τ.needsRetry = true → τ.usbTransport ≠ none := by
  cases h with
  | stream _ _ h => rwa [h.usbTransport, h.needsRetry]
  | event h => rwa [h.usbTransport, h.needsRetry]
  | poll h => rwa [h.usbTransport, h.needsRetry]
  | serve _ h => rwa [h.usbTransport, h.needsRetry]
  | cnxn _ _ h => exact h.usb.retry hσ
  | authUnknown => exact hσ
  | authToken _ _ _ h => exact h.usb.retry hσ
  | authSignature _ _ _ _ h =>
    cases h with
    | verified _ h => exact h.usb.retry hσ
    | refused _ h => exact h.usb.retry hσ
  | authKey _ _ _ h => simp [h.usbTransport]
  | error _ hoff _ h => exact (hoff.quiet.usb.trans h.usb).retry hσ
  | frameworkConnect _ h => simp [h.needsRetry]
  | frameworkReply _ h =>
    cases h with
    | closed => exact hσ
    | nobody => exact hσ
    | approved _ _ _ h => exact h.usb.retry hσ
    | other => exact hσ
  | register _ _ h => exact h.usb.retry hσ
  | remove _ h => exact h.usb.retry hσ

lemma sound (h : Moves cfg c σ l τ) (hσ : σ.Sound) : τ.Sound :=
  ⟨h.socks.inv hσ.inv, h.listenersOk hσ.listenersOk, h.retry hσ.retry⟩

lemma pendingAct (h : Moves cfg c σ l τ) {act : Act} (hact : act ∈ l)
    (hread : act.onRead = true) : c = .event ∧ σ.PendingAct act := by
  have hnote {o : Obs} (h : act = .note o) : c = .event ∧ σ.PendingAct act := by
    rw [h] at hread
    cases hread
  have hreplies {t : TPtr} {m : List Act} (hm : Replies cfg t m) (hact : act ∈ m) :
      c = .event ∧ σ.PendingAct act := by
    obtain ⟨p, hp, -⟩ := hm.greets act hact
    exact hnote hp
  cases h with
  | stream _ _ _ hl =>
    rcases mem_cons.mp hact with rfl | hact
    · cases hread
    · rw [hl.not_onRead hact] at hread
      cases hread
  | event _ hl => exact ⟨rfl, hl act hact⟩
  | poll _ hl =>
    obtain ⟨s, r, rfl, -⟩ := hl act hact
    cases hread
  | serve => cases hact
  | cnxn _ _ _ _ _ _ hl =>
    rcases mem_cons.mp hact with rfl | hact
    · cases hread
    · exact hreplies hl hact
  | authUnknown | remove => exact hnote (mem_singleton.mp hact)
  | authToken =>
    rcases mem_cons.mp hact with rfl | hact
    · cases hread
    · obtain ⟨q, -, hq⟩ := mem_map.mp hact
      exact hnote hq.symm
  | authSignature _ _ _ _ h =>
    rcases mem_cons.mp hact with rfl | hact
    · cases hread
    cases h with
    | verified =>
      rcases mem_cons.mp hact with rfl | hact
      · cases hread
      · exact hnote (mem_singleton.mp hact)
    | refused hl => exact hreplies hl hact
  | authKey _ _ _ h =>
    rcases mem_cons.mp hact with rfl | hact
    · cases hread
    rw [h.acts] at hact
    split at hact
    · exact hnote (mem_singleton.mp hact)
    · cases hact
  | error => cases hact
  | frameworkConnect _ _ hl => exact hreplies hl hact
  | register =>
    unfold startActs at hact
    split at hact
    · exact hnote (mem_singleton.mp hact)
    · cases hact
  | frameworkReply _ h =>
    cases h with
    | closed | other => cases hact
    | nobody => exact hnote (mem_singleton.mp hact)
    | approved =>
      simp only [mem_cons, not_mem_nil, or_false] at hact
      rcases hact with rfl | rfl | rfl
      · cases hread
      · cases hread
      · cases hread

end Moves

/-! ## Steps and runs -/

variable {i : Input}

def withOs (os : Os) (σ : Server) : Server := { σ with socks := { σ.socks with os := os } }

lemma Sound.withOs (h : σ.Sound) (os : Os) : (σ.withOs os).Sound :=
  ⟨(Effs.single (P := .none) (.os os)).inv h.inv, { h.listenersOk with }, h.retry⟩

lemma withOs_rules_le (os : Os) (σ : Server) : (σ.withOs os).rules.Le σ.rules :=
  ⟨fun _ ht => ht, fun _ ht => ht, fun _ _ hp => ⟨hp.length, hp.max, hp.limit, hp.alive⟩⟩

inductive StepOutcome (cfg : Config) (i : Input) (σ : Server) : List Act → Server → Prop
  | skipped (hwaits : i.callback.waits = true) (hpending : σ.socks.gPendingList ≠ []) :
      StepOutcome cfg i σ [] σ
  | moved {l : List Act} {τ : Server} (h : Moves cfg i.callback (σ.withOs i.os) l τ) :
      StepOutcome cfg i σ l τ

lemma step_spec (i : Input) (h : σ.Sound) :
    Sat (step cfg i σ) (fun τ => ∃ l, StepOutcome cfg i σ l τ)
      (CallbackHalt cfg i.callback (σ.withOs i.os)) := by
  refine .ite (fun hskip => ?_) fun _ => ?_
  · simp only [Bool.and_eq_true, Bool.not_eq_true', isEmpty_eq_false_iff] at hskip
    exact ⟨[], .skipped hskip.1 hskip.2⟩
  · exact (callback_moves i.callback (h.withOs i.os)).imp fun τ ⟨l, hτ⟩ => ⟨l, .moved hτ⟩

lemma StepOutcome.sound (h : StepOutcome cfg i σ l τ) (hσ : σ.Sound) : τ.Sound := by
  cases h with
  | skipped => exact hσ
  | moved h => exact h.sound (hσ.withOs i.os)

lemma StepOutcome.socks (h : StepOutcome cfg i σ l τ) : Effs σ.rules l σ.socks τ.socks := by
  cases h with
  | skipped => exact .refl
  | moved h => exact (Effs.single (.os i.os)).trans (h.socks.mono (withOs_rules_le i.os σ))

lemma sound_init (name : Bytes) : (init name).Sound where
  inv := Sockets.inv_empty
  listenersOk :=
    { nums := by simp [init]
      fresh := by simp [init]
      known := by simp [init]
      linked := by simp [init]
      owned := by simp [init, AListener.special]; decide
      forwards := by simp [init]
      short := by simp [init]; decide }
  retry := by simp [init]

def Reachable (cfg : Config) (σ : Server) : Prop :=
  ∃ name inputs, run cfg inputs (init name) = .ok σ

/-- The invariant rule for runs of the process: a property that every step under the condition
`C` preserves holds at the end of every run whose steps all meet it. -/
lemma run_invariant {I : Server → Prop} {C : Server → Input → Prop} {inputs : List Input}
    (hstep : ∀ σ i l τ, σ.Sound → I σ → C σ i → StepOutcome cfg i σ l τ → I τ)
    (hσ : σ.Sound) (hI : I σ) (hC : Meets (step cfg) C inputs σ)
    (hrun : run cfg inputs σ = .ok τ) : τ.Sound ∧ I τ := by
  refine runs_invariant (I := fun σ => σ.Sound ∧ I σ) (fun σ i τ hσ hC hτ => ?_) ⟨hσ, hI⟩ hC hrun
  obtain ⟨l, hl⟩ := (step_spec i hσ.1).of_ok hτ
  exact ⟨hl.sound hσ.1, hstep σ i l τ hσ.1 hσ.2 hC hl⟩

lemma Reachable.sound (h : Reachable cfg σ) : σ.Sound := by
  obtain ⟨name, inputs, hrun⟩ := h
  exact (run_invariant (fun _ _ _ _ _ _ _ _ => trivial)
    (sound_init name) trivial (.of_forall (fun _ _ => trivial) _ _) hrun).1

end Server

end Adb
