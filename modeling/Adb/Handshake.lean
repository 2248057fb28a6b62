import Adb.MaxPayload
import Adb.Removal

/-!
# Handshakes, one after the other

A transport outlives its connections: when a new connection has been found for it, the handshake
starts again with what the last one has left. The version and the limit that the device announced
are still there (`handshake_compatible`), and so are the keys not tried (`keys_tried`).
-/

namespace Adb

open Lib List Sockets

/-- The greeting is one that every device understands. -/
structure APacket.Compatible (p : APacket) : Prop where
  dataCheck : p.msg.dataCheck = calculateApacketChecksum p
  maxdata : p.msg.arg1 = .ofNat maxPayload

def RunFn.connects (t : TPtr) : RunFn → Bool
  | .packet u p => u = t && p.msg.command = A_CNXN
  | .error _ => false

def APacket.isToken (p : APacket) : Bool := p.msg.command = A_AUTH && p.msg.arg0 = ADB_AUTH_TOKEN

namespace Server

open Sockets (Act notes)

variable {σ τ : Server} {cfg : Config} {c : Callback} {l : List Act} {t : TPtr}

/-! ## The greeting of the host -/

/-- What is said on `t` about its handshake: the host has greeted the device on a connection that
it has started, and the device has answered, or not yet. -/
def handshake (t : TPtr) : Obs → Option Bool
  | .sent u p => if u = t ∧ p.msg.command = A_CNXN then some false else none
  | .handled u p => if u = t ∧ p.msg.command = A_CNXN then some true else none
  | _ => none

def unanswered (t : TPtr) (trace : List Obs) : Prop := latest (handshake t) trace = some false

instance (trace : List Obs) : Decidable (unanswered t trace) :=
  inferInstanceAs (Decidable (latest (handshake t) trace = some false))

def unnegotiated (t : TPtr) (σ : Server) : Bool :=
  (σ.transports.get t).all fun tr =>
    tr.maxPayload = maxPayload && tr.protocolVersion < A_VERSION_SKIP_CHECKSUM.toBitVec.toInt &&
      !σ.runQueue.any (RunFn.connects t)

/-- A connection that the callback starts finds nothing of an earlier handshake. -/
def startsAfresh (σ : Server) (i : Input) : Bool :=
  match i.callback, σ.registration with
  | .registration, .register t :: _ => unnegotiated t σ
  | _, _ => true

variable {o : Obs}

lemma handshake_of_not_notable (h : o.notable = false) : handshake t o = none := by
  cases o with
  | handled => cases h
  | sent u p =>
    have hp : p.msg.command ≠ A_CNXN := by
      intro hp
      simp [Obs.notable, APacket.greets, hp] at h
    simp [handshake, hp]
  | _ => rfl

variable {p : APacket}

lemma Noted.of_sent (h : Noted cfg c σ (.sent t p)) (hhost : cfg.host = true)
    (hp : p.msg.command = A_CNXN) :
    ∃ rest tr, c = .registration ∧ σ.registration = .register t :: rest ∧
      σ.transports.get t = some tr ∧ p = connectPacket cfg tr := by
  cases h with
  | connect _ hc hmsg htr => exact ⟨_, _, hc, hmsg, htr, rfl⟩
  | answer _ _ _ _ _ hq =>
    have hauth := tokenAnswer_command hq
    exact absurd hp (ne_cnxn_of_auth hauth)
  | reply hnot =>
    rw [hhost] at hnot
    cases hnot

variable {i : Input} {tr : ATransport}

lemma startsAfresh_register {rest : List TMsg}
    (h : startsAfresh σ i = true) (hc : i.callback = .registration)
    (hmsg : σ.registration = .register t :: rest) (htr : σ.transports.get t = some tr) :
    tr.maxPayload = maxPayload ∧ tr.protocolVersion < A_VERSION_SKIP_CHECKSUM.toBitVec.toInt := by
  unfold startsAfresh at h
  rw [hc, hmsg] at h
  simp only [unnegotiated, htr, Option.all_some, Bool.and_eq_true, decide_eq_true_eq] at h
  exact h.1

lemma connectPacket_compatible (hmax : tr.maxPayload = maxPayload)
    (hversion : tr.protocolVersion < A_VERSION_SKIP_CHECKSUM.toBitVec.toInt) :
    (connectPacket cfg tr).Compatible where
  dataCheck := if_neg (Int.not_le.mpr hversion)
  maxdata := congrArg UInt32.ofNat hmax

lemma handshake_eq_some {b : Bool} (h : handshake t o = some b) :
    ∃ p, p.msg.command = A_CNXN ∧ o = if b then .handled t p else .sent t p := by
  cases o with
  | handled u p | sent u p =>
    rw [handshake] at h
    split at h
    · next hu =>
      obtain ⟨rfl, hp⟩ := hu
      cases h
      exact ⟨p, hp, rfl⟩
    · cases h
  | _ => cases h

lemma Moves.handshake_note (h : Moves cfg c σ l τ) (hhost : cfg.host = true)
    (hc : c.Connects t) (ho : o ∈ notes l) : handshake t o = none ∨ handshake t o = some true := by
  obtain ⟨q, rfl, hq⟩ := hc
  cases hb : handshake t o with
  | none => exact .inl rfl
  | some b =>
    cases b with
    | true => exact .inr rfl
    | false =>
      obtain ⟨p, hp, rfl⟩ := handshake_eq_some hb
      obtain ⟨_, _, hreg, -⟩ := (h.noted (mem_notes.mp ho)).of_sent hhost hp
      cases hreg

lemma Moves.unanswered (h : Moves cfg c σ l τ) (hhost : cfg.host = true)
    (hτ : Server.unanswered t τ.socks.trace) :
    ¬ c.Connects t ∧ (Server.unanswered t σ.socks.trace ∨
      c = .registration ∧ ∃ rest, σ.registration = .register t :: rest) := by
  unfold Server.unanswered at hτ ⊢
  rw [h.latest_eq fun _ => handshake_of_not_notable] at hτ
  by_cases hc : c.Connects t
  · have hlast : latest (handshake t) (notes l) = some true := by
      refine latest_eq_some (fun o ho => h.handshake_note hhost hc ho) ?_
      obtain ⟨p, rfl, hp⟩ := hc
      exact ⟨_, mem_notes.mpr h.handled, by simp [handshake, hp]⟩
    rw [hlast] at hτ
    cases hτ
  · refine ⟨hc, ?_⟩
    cases hlast : latest (handshake t) (notes l) with
    | none =>
      rw [hlast] at hτ
      exact .inl hτ
    | some b =>
      obtain ⟨o, ho, hb⟩ := exists_of_latest hlast
      rw [hlast] at hτ
      cases hτ
      obtain ⟨p, hp, rfl⟩ := handshake_eq_some hb
      obtain ⟨rest, _, hreg, hmsg, -⟩ := (h.noted (mem_notes.mp ho)).of_sent hhost hp
      exact .inr ⟨hreg, rest, hmsg⟩

/-- What the host has said in its handshakes, and what it goes by until they are answered. -/
structure Greeted (σ : Server) : Prop where
  sent : ∀ t p, .sent t p ∈ σ.socks.trace → p.msg.command = A_CNXN → p.Compatible
  limit : ∀ t tr, σ.transports.get t = some tr → unanswered t σ.socks.trace →
    tr.maxPayload = maxPayload

lemma Greeted.moves (h : Greeted σ) (hhost : cfg.host = true)
    (hfresh : startsAfresh σ i = true) (hmoves : Moves cfg i.callback (σ.withOs i.os) l τ) :
    Greeted τ where
  sent t p hp hcnxn := by
    obtain ⟨obs, htrace, hnotes, -⟩ := hmoves.socks.trace
    rw [htrace] at hp
    rcases mem_append.mp hp with hp | hp
    · exact h.sent t p hp hcnxn
    have hgreets : (Obs.sent t p).notable = true := by simp [Obs.notable, APacket.greets, hcnxn]
    have hnote : .sent t p ∈ notes l := hnotes ▸ mem_filter.mpr ⟨hp, hgreets⟩
    obtain ⟨rest, tr, hc, hmsg, htr, rfl⟩ :=
      (hmoves.noted (mem_notes.mp hnote)).of_sent hhost hcnxn
    obtain ⟨hmax, hversion⟩ := startsAfresh_register hfresh hc hmsg htr
    exact connectPacket_compatible hmax hversion
  limit t tr' htr' hτ := by
    obtain ⟨hnot, hbefore⟩ := hmoves.unanswered hhost hτ
    rcases hmoves.change htr' with ⟨tr, htr, hchange⟩ | ⟨-, -, hnew⟩
    swap
    · exact hnew.maxPayload
    have hmax : tr.maxPayload = maxPayload := by
      rcases hbefore with hσ | ⟨hc, rest, hmsg⟩
      · exact h.limit t tr htr hσ
      · exact (startsAfresh_register hfresh hc hmsg htr).1
    cases hchange with
    | same _ _ _ hsame | authUnknown _ _ _ _ _ hsame | verified _ _ _ _ hsame
    | offline _ _ _ hsame => exact hsame.trans hmax
    | cnxn hc hp => exact absurd ⟨_, hc, hp⟩ hnot
    | authToken _ _ hrec => exact hrec.maxPayload.trans hmax

lemma Greeted.step (h : Greeted σ) (hhost : cfg.host = true)
    (hfresh : startsAfresh σ i = true) (hstep : StepOutcome cfg i σ l τ) : Greeted τ := by
  cases hstep with
  | skipped => exact h
  | moved hmoves => exact h.moves hhost hfresh hmoves

private lemma Greeted.ordinary (h : Greeted σ) (ho : Ordinary [] σ τ) : Greeted τ :=
  have hstep : StepOutcome .adb { callback := .kick 0, os := σ.socks.os } σ [] τ :=
    .moved (.serve (by simp) ho)
  h.step rfl rfl hstep

/-- In every interleaving in which each connection that is started finds nothing of an earlier
handshake: every greeting of the host is one that every device understands, and until the device
has answered its packets are judged by `MAX_PAYLOAD`. -/
theorem handshake_compatible {name : Bytes} {turns : List Turn} (hhost : cfg.host = true)
    (hC : Meets (turnStep cfg)
      (fun σ turn => ∀ i ∈ turn.input σ, startsAfresh (turn.prepare σ) i = true) turns (init name))
    (hrun : runs (turnStep cfg) turns (init name) = .ok σ) :
    (∀ t p, .sent t p ∈ σ.socks.trace → p.msg.command = A_CNXN → p.Compatible) ∧
      ∀ t tr, σ.transports.get t = some tr → unanswered t σ.socks.trace →
        tr.maxPayload = maxPayload := by
  obtain ⟨-, h⟩ := turns_invariant (I := Greeted)
    (fun _ _ _ h => h.ordinary) (fun _ _ _ _ _ h => h.step hhost) (sound_init name)
    ⟨by simp [init], by simp [init]⟩ hC hrun
  exact ⟨h.sent, h.limit⟩

def lostConnection (packets : List APacket) : List Turn :=
  [.main { callback := .tcpDevice (ascii "phone:5555") }, .main { callback := .registration }] ++
    packets.map (fun p => .read 0 (some p)) ++ [.read 0 none] ++
    packets.map (fun _ => .flush {}) ++ [.flush {}]

def bannerHost : Config := { Config.adb with connectionString := ascii "host::" }

def foundAgain : List Turn :=
  [.main { callback := .reconnectScan (some 0) },
    .main { callback := .reconnectResult .success }, .main { callback := .registration }]

/-- A device that had not answered is found again. -/
theorem handshake_compatible_again :
    ∃ σ tr, runs (turnStep bannerHost) (lostConnection [] ++ foundAgain) (init []) = .ok σ ∧
      σ.transports.get 0 = some tr ∧ tr.connection.started = true ∧
      (∀ p, .sent 0 p ∈ σ.socks.trace → p.msg.command = A_CNXN → p.Compatible) ∧
      tr.maxPayload = maxPayload := by
  have htest : returns (runs (turnStep bannerHost) (lostConnection [] ++ foundAgain) (init [])) (fun σ =>
      (σ.transports.get 0).any (·.connection.started) &&
        decide (unanswered 0 σ.socks.trace)) = true := by decide
  have hC : Meets (turnStep bannerHost)
      (fun σ turn => ∀ i ∈ turn.input σ, startsAfresh (turn.prepare σ) i = true)
      (lostConnection [] ++ foundAgain) (init []) := by decide
  obtain ⟨σ, hrun, hσ⟩ := returns_iff.mp htest
  obtain ⟨hstarted, hwaits⟩ := Bool.and_eq_true_iff.mp hσ
  obtain ⟨tr, htr, hon⟩ := (Option.any_eq_true _ _).mp hstarted
  obtain ⟨hsent, hlimit⟩ := handshake_compatible rfl hC hrun
  exact ⟨σ, tr, hrun, htr, hon, hsent 0, hlimit 0 tr htr (of_decide_eq_true hwaits)⟩

/-- A device that has answered, with a limit of 4096 bytes, is greeted again without a checksum
and with its own limit; and its next packets may not have more data than that. -/
theorem handshake_incompatible :
    ∃ σ tr p, runs (turnStep bannerHost) (lostConnection [greeting] ++ foundAgain) (init []) = .ok σ ∧
      σ.transports.get 0 = some tr ∧ unanswered 0 σ.socks.trace ∧ tr.maxPayload = 4096 ∧
      σ.socks.trace.getLast? = some (.sent 0 p) ∧ p.msg.command = A_CNXN ∧
      p.msg.dataCheck ≠ calculateApacketChecksum p ∧ p.msg.arg1 = 4096 := by
  have htest : returns (runs (turnStep bannerHost) (lostConnection [greeting] ++ foundAgain) (init []))
      (fun σ => decide (unanswered 0 σ.socks.trace) &&
        ((σ.transports.get 0).any (·.maxPayload = 4096) &&
          σ.socks.trace.getLast?.any fun o => (o.sentOn 0).any fun p => p.msg.command = A_CNXN &&
            (p.msg.dataCheck ≠ calculateApacketChecksum p && p.msg.arg1 = 4096))) = true := by
    decide
  obtain ⟨σ, hrun, hσ⟩ := returns_iff.mp htest
  obtain ⟨hwaits, hσ⟩ := Bool.and_eq_true_iff.mp hσ
  obtain ⟨hlimit, hlast⟩ := Bool.and_eq_true_iff.mp hσ
  obtain ⟨tr, htr, hmax⟩ := (Option.any_eq_true _ _).mp hlimit
  obtain ⟨o, hlast, ho⟩ := (Option.any_eq_true _ _).mp hlast
  obtain ⟨p, hsent, hp⟩ := (Option.any_eq_true _ _).mp ho
  rw [Obs.sentOn_eq_some.mp hsent] at hlast
  simp only [Bool.and_eq_true, decide_eq_true_eq] at hp
  exact ⟨σ, tr, p, hrun, htr, of_decide_eq_true hwaits, of_decide_eq_true hmax, hlast, hp⟩

/-! ## The keys of the host -/

/-- The tokens of a connection of `t` are counted; it starts with the greeting. -/
def countToken (t : TPtr) (n : ℕ) : Obs → ℕ
  | .sent u p => if u = t ∧ p.msg.command = A_CNXN then 0 else n
  | .handled u p => if u = t ∧ p.isToken = true then n + 1 else n
  | _ => n

/-- The number of tokens that have been handled on `t` since its connection was started. -/
def tokensHandled (t : TPtr) (trace : List Obs) : ℕ := trace.foldl (countToken t) 0

/-- The answers to the tokens of a connection, in turn: a signature with each of the keys, and the
public key. -/
def answers (keys : List PrivateKey) : List (Option PrivateKey) := keys.map some ++ [none]

def keysAfter (keys : List PrivateKey) (n : ℕ) : List (Option PrivateKey) :=
  if n % (keys.length + 1) = 0 then [] else (answers keys).drop (n % (keys.length + 1))

/-- The keys do not change, and when a connection is started no key is left from another. -/
def keysSteady (keys : List PrivateKey) (σ : Server) (i : Input) : Bool :=
  match i.callback, σ.registration with
  | .packet _ p, _ => !p.isToken || i.os.privateKeys = keys
  | .registration, .register t :: _ => (σ.transports.get t).all (·.keys.isEmpty)
  | _, _ => true

variable {keys : List PrivateKey}

lemma keysLeft_eq {n : ℕ} (htr : tr.keys = keysAfter keys n) (hos : σ.socks.os.privateKeys = keys) :
    keysLeft tr σ = (answers keys).drop (n % (keys.length + 1)) := by
  have hlt : n % (keys.length + 1) < keys.length + 1 := Nat.mod_lt _ (Nat.succ_pos _)
  unfold keysLeft
  rw [htr, keysAfter, hos]
  split
  · next hzero =>
    rw [hzero]
    rfl
  have hne : (answers keys).drop (n % (keys.length + 1)) ≠ [] := by
    intro hnil
    have hlen := drop_eq_nil_iff.mp hnil
    simp only [answers, length_append, length_map, length_singleton] at hlen
    omega
  rw [if_neg (by simpa using hne)]

lemma keysAfter_succ (keys : List PrivateKey) (n : ℕ) :
    ((answers keys).drop (n % (keys.length + 1))).tail = keysAfter keys (n + 1) := by
  have hlt : n % (keys.length + 1) < keys.length + 1 := Nat.mod_lt _ (Nat.succ_pos _)
  rw [tail_drop, keysAfter, ← Nat.mod_add_mod]
  by_cases hlast : n % (keys.length + 1) = keys.length
  · rw [hlast]
    simp [answers]
  have hnext : (n % (keys.length + 1) + 1) % (keys.length + 1) = n % (keys.length + 1) + 1 :=
    Nat.mod_eq_of_lt (by omega)
  rw [hnext, if_neg (Nat.succ_ne_zero _)]

lemma countToken_of_not_notable (n : ℕ) (h : o.notable = false) : countToken t n o = n := by
  cases o with
  | handled => cases h
  | sent u p =>
    have hp : p.msg.command ≠ A_CNXN := by
      intro hp
      simp [Obs.notable, APacket.greets, hp] at h
    simp [countToken, hp]
  | _ => rfl

lemma Moves.tokensHandled_eq (h : Moves cfg c σ l τ) :
    tokensHandled t τ.socks.trace =
      (notes l).foldl (countToken t) (tokensHandled t σ.socks.trace) := by
  obtain ⟨obs, htrace, hnotes, -⟩ := h.socks.trace
  rw [tokensHandled, htrace, foldl_append, ← hnotes,
    foldl_filter_of_not fun _ _ => countToken_of_not_notable _]
  rfl

def Callback.Challenges (t : TPtr) (c : Callback) : Prop := ∃ p, c = .packet t p ∧ p.isToken = true

lemma Moves.challenged (h : Moves cfg (.packet t p) σ l τ)
    (hhost : cfg.host = true) (hp : p.isToken = true) :
    ∃ tr tr', σ.transports.get t = some tr ∧ τ.transports.get t = some tr' ∧
      TokenRecord σ tr tr' ∧ l = .note (.handled t p) :: answerActs t tr σ := by
  obtain ⟨hauth, harg⟩ : p.msg.command = A_AUTH ∧ p.msg.arg0 = ADB_AUTH_TOKEN := by
    simpa [APacket.isToken] using hp
  cases h with
  | stream _ hnot => exact absurd hauth hnot
  | serve hc => exact absurd rfl (hc t p)
  | cnxn hcnxn => exact absurd hcnxn (ne_cnxn_of_auth hauth)
  | authUnknown _ hunknown => simp [unknownAuth, hhost, harg] at hunknown
  | authToken _ _ htr _ htr' hrec => exact ⟨_, _, htr, htr', hrec, rfl⟩
  | authSignature _ hnot | authKey _ hnot =>
    rw [hhost] at hnot
    cases hnot

lemma Moves.tokensHandled_succ (h : Moves cfg c σ l τ) (hhost : cfg.host = true)
    (hc : c.Challenges t) : tokensHandled t τ.socks.trace = tokensHandled t σ.socks.trace + 1 := by
  obtain ⟨p, rfl, hp⟩ := hc
  rw [h.tokensHandled_eq]
  obtain ⟨tr, tr', -, -, -, rfl⟩ := h.challenged hhost hp
  unfold answerActs
  cases hq : tokenAnswer tr σ with
  | none => simp [notes, countToken, hp]
  | some q =>
    have hauth : q.msg.command ≠ A_CNXN := ne_cnxn_of_auth (tokenAnswer_command hq)
    simp [notes, countToken, hp, hauth]

lemma foldl_countToken {obs : List Obs} (n : ℕ) (h : ∀ p, p.isToken = true → .handled t p ∉ obs) :
    obs.foldl (countToken t) n = n ∨ obs.foldl (countToken t) n = 0 ∧
      ∃ p, p.msg.command = A_CNXN ∧ .sent t p ∈ obs := by
  induction obs generalizing n with
  | nil => exact .inl rfl
  | cons o rest ih =>
    have hrest := fun n => ih n fun p hp hmem => h p hp (mem_cons_of_mem o hmem)
    have hmore (hn : countToken t n o = n) :
        (o :: rest).foldl (countToken t) n = n ∨ (o :: rest).foldl (countToken t) n = 0 ∧
          ∃ p, p.msg.command = A_CNXN ∧ .sent t p ∈ o :: rest := by
      rw [foldl_cons, hn]
      exact (hrest n).imp_right fun ⟨hz, p, hp, hmem⟩ => ⟨hz, p, hp, mem_cons_of_mem o hmem⟩
    cases o with
    | sent u p =>
      by_cases hu : u = t ∧ p.msg.command = A_CNXN
      · have hzero : countToken t n (.sent u p) = 0 := if_pos hu
        rw [foldl_cons, hzero]
        refine .inr ⟨?_, p, hu.2, ?_⟩
        · rcases hrest 0 with hz | ⟨hz, -⟩
          · exact hz
          · exact hz
        · rw [hu.1]
          exact mem_cons_self
      · exact hmore (if_neg hu)
    | handled u p =>
      refine hmore (if_neg ?_)
      rintro ⟨rfl, hp⟩
      exact h p hp mem_cons_self
    | _ => exact hmore rfl

lemma Moves.tokensHandled_of_not (h : Moves cfg c σ l τ) (hhost : cfg.host = true)
    (hc : ¬ c.Challenges t) :
    tokensHandled t τ.socks.trace = tokensHandled t σ.socks.trace ∨
      tokensHandled t τ.socks.trace = 0 ∧ c = .registration ∧
        ∃ rest, σ.registration = .register t :: rest := by
  rw [h.tokensHandled_eq]
  refine (foldl_countToken _ fun p hp hmem => ?_).imp_right ?_
  · cases h.noted (mem_notes.mp hmem) with
    | handled hpacket => exact hc ⟨p, hpacket, hp⟩
  rintro ⟨hzero, p, hp, hmem⟩
  obtain ⟨rest, _, hreg, hmsg, -⟩ := (h.noted (mem_notes.mp hmem)).of_sent hhost hp
  exact ⟨hzero, hreg, rest, hmsg⟩

lemma Moves.keys_of_not {tr' : ATransport} (h : Moves cfg c σ l τ) (hc : ¬ c.Challenges t)
    (htr' : τ.transports.get t = some tr') :
    (∃ tr, σ.transports.get t = some tr ∧ tr'.keys = tr.keys) ∨
      σ.transports.next ≤ t ∧ tr'.keys = [] := by
  rcases h.change htr' with ⟨tr, htr, hchange⟩ | ⟨-, hle, hnew⟩
  · refine .inl ⟨tr, htr, ?_⟩
    cases hchange with
    | same _ _ _ _ hterms | authUnknown _ _ _ _ _ _ _ _ hterms | verified _ _ _ _ _ hterms
    | offline _ _ _ _ _ _ hterms => exact congrArg Prod.snd hterms
    | cnxn _ _ hrec => exact congrArg Prod.snd hrec.terms
    | authToken _ _ _ hpacket hp harg =>
      exact absurd ⟨_, hpacket, by simp [APacket.isToken, hp, harg]⟩ hc
  · exact .inr ⟨hle, congrArg Prod.snd hnew.terms⟩

structure KeysCounted (keys : List PrivateKey) (σ : Server) : Prop where
  left : ∀ t tr, σ.transports.get t = some tr →
    tr.keys = keysAfter keys (tokensHandled t σ.socks.trace)
  fresh : ∀ t, σ.transports.next ≤ t → tokensHandled t σ.socks.trace = 0

lemma KeysCounted.moves (h : KeysCounted keys σ)
    (hhost : cfg.host = true) (hsteady : keysSteady keys σ i = true)
    (hmoves : Moves cfg i.callback (σ.withOs i.os) l τ) : KeysCounted keys τ where
  left t tr' htr' := by
    by_cases hc : i.callback.Challenges t
    · rw [hmoves.tokensHandled_succ hhost hc]
      obtain ⟨p, hpacket, hp⟩ := hc
      rw [hpacket] at hmoves
      obtain ⟨tr, tr1, htr, htr1, hrec, -⟩ := hmoves.challenged hhost hp
      rw [htr'] at htr1
      cases htr1
      have hkeys : i.os.privateKeys = keys := by simpa [keysSteady, hpacket, hp] using hsteady
      have hleft := keysLeft_eq (σ := σ.withOs i.os) (h.left t tr htr) hkeys
      have htried : tr'.keys = (keysLeft tr (σ.withOs i.os)).tail := congrArg Prod.snd hrec.terms
      rw [htried, hleft, keysAfter_succ]
      rfl
    · rcases hmoves.keys_of_not hc htr' with ⟨tr, htr, hsame⟩ | ⟨hle, hnil⟩
      · rw [hsame]
        rcases hmoves.tokensHandled_of_not hhost hc with hcount | ⟨hcount, hreg, rest, hmsg⟩
        · rw [hcount]
          exact h.left t tr htr
        -- a connection is started: no key is left from another
        have htr : σ.transports.get t = some tr := htr
        have hmsg : σ.registration = .register t :: rest := hmsg
        have hempty : tr.keys = [] := by simpa [keysSteady, hreg, hmsg, htr] using hsteady
        rw [hcount, hempty]
        rfl
      · have hzero : tokensHandled t τ.socks.trace = 0 := by
          rcases hmoves.tokensHandled_of_not hhost hc with hcount | ⟨hcount, -⟩
          · rw [hcount]
            exact h.fresh t hle
          · exact hcount
        rw [hnil, hzero]
        rfl
  fresh t hle := by
    have hle' : σ.transports.next ≤ t := hmoves.next_le.trans hle
    have hc : ¬ i.callback.Challenges t := by
      rintro ⟨p, hpacket, hp⟩
      rw [hpacket] at hmoves
      obtain ⟨tr, -, htr, -⟩ := hmoves.challenged hhost hp
      exact absurd (Store.lt_next htr) (Nat.not_lt.mpr hle')
    rcases hmoves.tokensHandled_of_not hhost hc with hcount | ⟨hcount, -⟩
    · rw [hcount]
      exact h.fresh t hle'
    · exact hcount

lemma step_challenge {os : Os} (hhost : cfg.host = true) (hidle : σ.socks.gPendingList = [])
    (htr : σ.transports.get t = some tr) (hp : p.isToken = true)
    (hlength : p.msg.dataLength.toNat = p.payload.length) (hsize : p.payload.length = tokenSize) :
    step cfg ⟨.packet t p, os⟩ σ =
      .ok (tokenAnswered t tr ((σ.withOs os).emit (.handled t p))) := by
  obtain ⟨hauth, harg⟩ : p.msg.command = A_AUTH ∧ p.msg.arg0 = ADB_AUTH_TOKEN := by
    simpa [APacket.isToken] using hp
  have hodd : oddToken t p ((σ.withOs os).emit (.handled t p)) = false := by simp [oddToken, hsize]
  have htr : ((σ.withOs os).emit (.handled t p)).transports.get t = some tr := htr
  rw [← authToken_eq htr hodd]
  have hfull : (p.payload.length == p.msg.dataLength.toNat) = true := by simp [hlength]
  unfold step
  rw [if_neg (by simp [hidle])]
  show handlePacket cfg t p (σ.withOs os) = _
  unfold handlePacket check dispatchPacket handleAuth
  rw [if_pos hfull, pure_eq_ok, ok_bind, if_neg (ne_cnxn_of_auth hauth), if_pos hauth,
    if_pos hhost, if_pos harg]

structure TokenReply (t : TPtr) (p : APacket) (type : UInt32) (data : Bytes)
    (state : ConnectionState) (σ τ : Server) : Prop where
  sent : ∃ q, τ.socks.trace = σ.socks.trace ++ [.handled t p, .sent t q] ∧
    q.msg.command = A_AUTH ∧ q.msg.arg0 = type ∧ q.payload = data
  state : ∃ tr, τ.transports.get t = some tr ∧ tr.connectionState = state

lemma tokenAnswered_reply {q : APacket} {os : Os} {σ1 : Server}
    (hσ1 : σ1 = (σ.withOs os).emit (.handled t p)) (htr : σ.transports.get t = some tr)
    (hq : tokenAnswer tr σ1 = some q) :
    TokenReply t p q.msg.arg0 q.payload (answeredState tr σ1) σ (tokenAnswered t tr σ1) := by
  have hsent : (tokenAnswered t tr σ1).socks.trace =
      σ.socks.trace ++ [.handled t p, .sent t (sealPacket q tr)] := by
    simp only [tokenAnswered, hq, Option.elim_some]
    simp [hσ1, withOs, emit, Sockets.emit, setTransport]
  have hget : σ1.transports.get t = some tr := hσ1 ▸ htr
  obtain ⟨-, tr', htr', hrec⟩ := tokenAnswered_quiet hget
  have hauth := tokenAnswer_command hq
  exact ⟨⟨_, hsent, hauth, rfl, rfl⟩, tr', htr', hrec.state⟩

/-- In every run in which each connection that is started finds no keys left from another: the
token that comes when `n` others have been handled on the connection is answered with the key
that has the place `n`, and after the last key with the public key; then it goes on with the
first key. -/
theorem keys_tried {name : Bytes} {keys : List PrivateKey} {inputs : List Input} {p : APacket}
    {os : Os} (hhost : cfg.host = true)
    (hC : Meets (step cfg) (fun σ i => keysSteady keys σ i = true) inputs (init name))
    (hrun : run cfg inputs (init name) = .ok σ) (hidle : σ.socks.gPendingList = [])
    (ht : (σ.transports.get t).isSome = true) (hp : p.isToken = true)
    (hlength : p.msg.dataLength.toNat = p.payload.length) (hsize : p.payload.length = tokenSize)
    (hos : os.privateKeys = keys) :
    ∃ τ, step cfg ⟨.packet t p, os⟩ σ = .ok τ ∧
      (∀ key sig, keys[tokensHandled t σ.socks.trace % (keys.length + 1)]? = some key →
        os.signatures.lookup key = some sig → sig ≠ [] →
        TokenReply t p ADB_AUTH_SIGNATURE sig .kCsAuthorizing σ τ) ∧
      (tokensHandled t σ.socks.trace % (keys.length + 1) = keys.length →
        os.userKey ≠ [] → os.userKey.length < maxPayloadV1 →
        TokenReply t p ADB_AUTH_RSAPUBLICKEY (os.userKey ++ [0]) .kCsUnauthorized σ τ) := by
  have hcounted : KeysCounted keys σ := by
    refine (run_invariant ?_
      (sound_init name) ?_ hC hrun).2
    · intro σ i l τ _ h hsteady hstep
      cases hstep with
      | skipped => exact h
      | moved hmoves => exact h.moves hhost hsteady hmoves
    · exact ⟨by simp [init], by simp [init, tokensHandled]⟩
  obtain ⟨tr, htr⟩ := Option.isSome_iff_exists.mp ht
  have hleft := keysLeft_eq (σ := (σ.withOs os).emit (.handled t p)) (hcounted.left t tr htr) hos
  generalize hk : tokensHandled t σ.socks.trace % (keys.length + 1) = k at hleft ⊢
  refine ⟨_, step_challenge hhost hidle htr hp hlength hsize, ?_, ?_⟩
  · intro key sig hkey hsig hne
    have hhead : (keysLeft tr ((σ.withOs os).emit (.handled t p))).headD none = some key := by
      obtain ⟨hlt, hget⟩ := List.getElem?_eq_some_iff.mp hkey
      rw [hleft, headD_eq_head?_getD, List.head?_drop, answers,
        List.getElem?_append_left (by simpa using hlt), List.getElem?_map, hkey]
      rfl
    have hq : tokenAnswer tr ((σ.withOs os).emit (.handled t p)) = some
        { msg :=
            { command := A_AUTH
              arg0 := ADB_AUTH_SIGNATURE
              dataLength := .ofNat sig.length }
          payload := sig } := by
      have hsig : ((σ.withOs os).emit (.handled t p)).socks.os.signatures.lookup key = some sig :=
        hsig
      simp only [tokenAnswer, hhead, hsig, Option.getD_some]
      rw [if_neg (by simpa using hne)]
    have hstate : answeredState tr ((σ.withOs os).emit (.handled t p)) = .kCsAuthorizing := by
      rw [answeredState, hhead]
      rfl
    exact hstate ▸ tokenAnswered_reply rfl htr hq
  · intro hlast hsome hshort
    have hhead : (keysLeft tr ((σ.withOs os).emit (.handled t p))).headD none = none := by
      rw [hleft, answers, hlast]
      simp
    have hq : tokenAnswer tr ((σ.withOs os).emit (.handled t p)) = some
        { msg :=
            { command := A_AUTH
              arg0 := ADB_AUTH_RSAPUBLICKEY
              dataLength := .ofNat (os.userKey.length + 1) }
          payload := os.userKey ++ [0] } := by
      have huser : ((σ.withOs os).emit (.handled t p)).socks.os.userKey = os.userKey := rfl
      simp only [tokenAnswer, hhead, huser]
      rw [if_neg (by simp [hsome, hshort])]
    have hstate : answeredState tr ((σ.withOs os).emit (.handled t p)) = .kCsUnauthorized := by
      rw [answeredState, hhead]
      rfl
    exact hstate ▸ tokenAnswered_reply rfl htr hq

def twoKeys : Os :=
  { privateKeys := [0, 1], signatures := [(0, ascii "first"), (1, ascii "second")],
    userKey := ascii "key" }

def challenge : APacket :=
  { msg := { command := A_AUTH, arg0 := ADB_AUTH_TOKEN, dataLength := 20 }
    payload := List.replicate 20 7 }

def challenged : List Input :=
  [{ callback := .tcpDevice (ascii "phone:5555") }, { callback := .registration },
    { callback := .packet 0 challenge, os := twoKeys }]

/-- The second token of a connection is answered with the second key. -/
theorem keys_tried_second :
    ∃ σ τ, run .adb challenged (init []) = .ok σ ∧
      step .adb ⟨.packet 0 challenge, twoKeys⟩ σ = .ok τ ∧
      TokenReply 0 challenge ADB_AUTH_SIGNATURE (ascii "second") .kCsAuthorizing σ τ := by
  have htest : returns (run .adb challenged (init [])) (fun σ =>
      decide (σ.socks.gPendingList = []) && ((σ.transports.get 0).isSome &&
        decide (tokensHandled 0 σ.socks.trace = 1))) = true := by decide
  have hC : Meets (step .adb) (fun σ i => keysSteady [0, 1] σ i = true) challenged (init []) := by
    decide
  obtain ⟨σ, hrun, hσ⟩ := returns_iff.mp htest
  obtain ⟨hidle, hσ⟩ := Bool.and_eq_true_iff.mp hσ
  obtain ⟨ht, hcount⟩ := Bool.and_eq_true_iff.mp hσ
  have hcount : tokensHandled 0 σ.socks.trace = 1 := of_decide_eq_true hcount
  obtain ⟨τ, hstep, hsign, -⟩ := keys_tried (p := challenge) rfl hC hrun
    (of_decide_eq_true hidle) ht (by decide) (by decide) (by decide)
    (show twoKeys.privateKeys = [0, 1] from rfl)
  rw [hcount] at hsign
  exact ⟨σ, τ, hrun, hstep, hsign 1 (ascii "second") rfl rfl (by decide)⟩

/-- The device is lost in the middle of this, and found again. -/
def challengedAgain : List Input :=
  challenged ++ [{ callback := .error 0 }, { callback := .reconnectScan (some 0) },
    { callback := .reconnectResult .success }, { callback := .registration }]

/-- The first token of the new connection is answered with the second key. -/
theorem keys_skipped :
    ∃ σ τ q, run .adb challengedAgain (init []) = .ok σ ∧ tokensHandled 0 σ.socks.trace = 0 ∧
      step .adb ⟨.packet 0 challenge, twoKeys⟩ σ = .ok τ ∧
      τ.socks.trace.getLast? = some (.sent 0 q) ∧
      q.msg.arg0 = ADB_AUTH_SIGNATURE ∧ q.payload = ascii "second" := by
  have htest : returns (run .adb challengedAgain (init [])) (fun σ =>
      decide (tokensHandled 0 σ.socks.trace = 0) &&
        returns (step .adb ⟨.packet 0 challenge, twoKeys⟩ σ) fun τ =>
          τ.socks.trace.getLast?.any fun o => (o.sentOn 0).any fun q =>
            q.msg.arg0 = ADB_AUTH_SIGNATURE && q.payload = ascii "second") = true := by decide
  obtain ⟨σ, hrun, hσ⟩ := returns_iff.mp htest
  obtain ⟨hcount, hstep⟩ := Bool.and_eq_true_iff.mp hσ
  obtain ⟨τ, hτ, hlast⟩ := returns_iff.mp hstep
  obtain ⟨o, hlast, ho⟩ := (Option.any_eq_true _ _).mp hlast
  obtain ⟨q, hsent, hq⟩ := (Option.any_eq_true _ _).mp ho
  rw [Obs.sentOn_eq_some.mp hsent] at hlast
  simp only [Bool.and_eq_true, decide_eq_true_eq] at hq
  exact ⟨σ, τ, q, hrun, of_decide_eq_true hcount, hτ, hlast, hq⟩

end Server

end Adb
