import Adb.Offline
import Adb.ThreadsTheorems

/-!
# The removal of a transport

A transport is deleted when its connection has given its reference back. But packets queued behind
the error callback are still handled, sockets that wait for their data to be written are kept, and
`handle_offline` trusts a state that an `A_AUTH` may have set. `tidy` excludes these.
-/

namespace Adb

open Lib List

namespace Server

open Sockets (Act)

variable {σ τ : Server} {cfg : Config} {c : Callback} {l : List Act} {t u : TPtr}
  {tr tr' : ATransport}

/-! ## Who holds references -/

lemma refs_eq (htr : σ.transports.get t = some tr) : σ.refs t = tr.refCount := by
  simp [refs, htr]

lemma Affects.refs (h : Affects t l σ τ) (hu : u ≠ t) : τ.refs u = σ.refs u := by
  simp [Server.refs, h.others u hu]

lemma Ordinary.refs (h : Ordinary l σ τ) (t : TPtr) : τ.refs t = σ.refs t := by
  cases hτ : τ.transports.get t with
  | some tr' =>
    rcases h.transports t tr' hτ with ⟨tr, htr, hal⟩ | ⟨hn, hnew⟩
    · rw [refs_eq hτ, refs_eq htr, hal.refCount]
    · rw [refs_eq hτ, hnew.refCount]
      simp [Server.refs, σ.transports.fresh t hn]
  | none =>
    cases hσ : σ.transports.get t with
    | none => simp [Server.refs, hτ, hσ]
    | some tr =>
      obtain ⟨tr', htr'⟩ := h.kept t tr hσ
      rw [hτ] at htr'
      cases htr'

/-- What a callback does to the references: there is still one for every transport at most, and
only the error callback gives one back. -/
structure Counts (c : Callback) (σ τ : Server) : Prop where
  tokensOk : τ.TokensOk
  kept : ∀ u, τ.refs u = 0 → σ.refs u = 0 ∨ c = .error u

private lemma Counts.of_eq (hσ : σ.TokensOk) (hrefs : ∀ u, τ.refs u = σ.refs u)
    (htokens : ∀ u, τ.tokens u = σ.tokens u) (hnext : τ.transports.next = σ.transports.next) :
    Counts c σ τ where
  tokensOk :=
    { one := fun t => by rw [hrefs, htokens]; exact hσ.one t
      fresh := fun t ht => by rw [htokens]; exact hσ.fresh t (hnext ▸ ht) }
  kept u hu := .inl (by rw [← hrefs]; exact hu)

private lemma Counts.of_ordinary (hσ : σ.TokensOk) (h : Ordinary l σ τ) : Counts c σ τ :=
  ⟨h.tokensOk hσ, fun u hu => .inl (by rw [← h.refs u]; exact hu)⟩

private lemma Counts.of_quiet (hσ : σ.TokensOk) (h : Quiet t l σ τ)
    (htr : σ.transports.get t = some tr) (htr' : τ.transports.get t = some tr')
    (hrefs : tr'.refCount = tr.refCount) : Counts c σ τ := by
  refine .of_eq hσ (fun u => ?_) h.tokens h.next
  by_cases hut : u = t
  · rw [hut, refs_eq htr', refs_eq htr, hrefs]
  · exact h.toAffects.refs hut

variable {rest : List TMsg}

private lemma tokens_cons {m : TMsg} (hmsg : σ.registration = m :: rest) :
    σ.tokens u = tokens { σ with registration := rest } u + if m.transport = u then 1 else 0 := by
  unfold tokens
  rw [hmsg, countP_cons]
  simp only [decide_eq_true_eq]
  omega

lemma TokensOk.refs_of_message {m : TMsg} (h : σ.TokensOk)
    (hmsg : σ.registration = m :: rest) : σ.refs m.transport = 0 := by
  have hone := h.one m.transport
  rw [tokens_cons hmsg, if_pos rfl] at hone
  omega

private lemma Counts.of_message {m : TMsg} (hσ : σ.TokensOk)
    (hmsg : σ.registration = m :: rest) (h : Quiet m.transport l { σ with registration := rest } τ)
    (hrefs : τ.refs m.transport ≤ 1) : Counts c σ τ := by
  have htokens (u : TPtr) : σ.tokens u = τ.tokens u + if m.transport = u then 1 else 0 := by
    rw [tokens_cons hmsg, h.tokens]
  have hother {u : TPtr} (hu : u ≠ m.transport) : τ.refs u = σ.refs u := h.toAffects.refs hu
  refine ⟨⟨fun u => ?_, fun u hu => ?_⟩, fun u hu => ?_⟩
  · have hone := hσ.one u
    rw [htokens] at hone
    by_cases hum : u = m.transport
    · subst hum
      rw [if_pos rfl] at hone
      omega
    · rw [hother hum]
      omega
  · have hfresh := hσ.fresh u (h.next ▸ hu)
    rw [htokens] at hfresh
    omega
  · by_cases hum : u = m.transport
    · exact .inl (hum ▸ hσ.refs_of_message hmsg)
    · exact .inl (hother hum ▸ hu)

private lemma Counts.of_error {σ1 : Server} {tr1 : ATransport} (hσ : σ.TokensOk)
    (htr : σ.transports.get t = some tr) (hoff : OfflineOutcome t tr σ σ1)
    (htr1 : σ1.transports.get t = some tr1) (h : Unref t tr1 σ1 τ) : Counts (.error t) σ τ := by
  obtain ⟨tr0, htr0, -, hrefs0, -⟩ := hoff.record htr
  rw [htr1] at htr0
  cases htr0
  obtain ⟨tr2, htr2, -, -, hrefs2, -⟩ := h.record
  have hother {u : TPtr} (hu : u ≠ t) : τ.refs u = σ.refs u :=
    (h.toAffects.refs hu).trans (hoff.quiet.toAffects.refs hu)
  have htokens (u : TPtr) : τ.tokens u = σ.tokens u + if u = t ∧ tr1.refCount = 1 then 1 else 0 := by
    rw [h.tokens, hoff.quiet.tokens]
  have hone := hσ.one t
  rw [refs_eq htr, ← hrefs0] at hone
  refine ⟨⟨fun u => ?_, fun u hu => ?_⟩, fun u hu => ?_⟩
  · by_cases hut : u = t
    · subst hut
      have hcounted := h.counted
      rw [htokens, refs_eq htr2, hrefs2, if_pos ⟨rfl, by omega⟩]
      omega
    · rw [hother hut, htokens, if_neg (by simp [hut])]
      exact hσ.one u
  · have hlt : t < σ.transports.next := Store.lt_next htr
    have hnext : σ.transports.next ≤ u := (h.next.trans hoff.quiet.next) ▸ hu
    have hut : u ≠ t := Nat.ne_of_gt (Nat.lt_of_lt_of_le hlt hnext)
    rw [htokens, if_neg (by simp [hut])]
    exact hσ.fresh u hnext
  · by_cases hut : u = t
    · exact .inr (by rw [hut])
    · exact .inl (hother hut ▸ hu)

lemma Moves.counts (h : Moves cfg c σ l τ) (hσ : σ.TokensOk) : Counts c σ τ := by
  cases h with
  | stream _ _ h => exact .of_ordinary hσ h
  | event h => exact .of_ordinary hσ h
  | poll h => exact .of_ordinary hσ h
  | serve _ h => exact .of_ordinary hσ h
  | cnxn _ htr h htr' hrec => exact .of_quiet hσ h htr htr' hrec.refCount
  | @authUnknown t p _ tr _ _ htr =>
    have hset : Quiet t [] (σ.emit (.handled t p)) ((σ.emit (.handled t p)).setTransport t
        { tr with connectionState := .kCsOffline }) := .setTransport htr fun _ hd => hd
    exact .of_quiet hσ ((handled_quiet t p σ).trans hset) htr (get_setTransport_self htr _) rfl
  | authToken _ _ htr h htr' hrec => exact .of_quiet hσ h htr htr' hrec.refCount
  | @authSignature t p _ _ _ _ _ _ _ htr h =>
    cases h with
    | verified _ h htr' _ _ hrefs =>
      exact .of_quiet hσ ((handled_quiet t p σ).trans h) htr htr' hrefs
    | refused _ h htr' hal =>
      exact .of_quiet hσ ((handled_quiet t p σ).trans h) htr htr' hal.refCount
  | authKey _ _ _ h => exact .of_eq hσ (fun u => h.transports.refCount u) h.tokens h.next
  | error htr hoff htr1 h => exact .of_error hσ htr hoff htr1 h
  | frameworkConnect _ h => exact .of_eq hσ (fun u => h.transports.refCount u) h.tokens h.next
  | frameworkReply _ h =>
    cases h with
    | closed => exact .of_eq hσ (fun _ => rfl) (fun _ => rfl) rfl
    | nobody => exact .of_eq hσ (fun _ => rfl) (fun _ => rfl) rfl
    | approved _ _ htr h htr' => exact .of_quiet hσ h htr htr' rfl
    | other => exact .of_eq hσ (fun _ => rfl) (fun _ => rfl) rfl
  | @register t _ _ _ _ rest hmsg htr h htr' hrec =>
    refine .of_message hσ hmsg h ?_
    have hzero : σ.refs t = 0 := hσ.refs_of_message hmsg
    rw [refs_eq htr] at hzero
    have hle := hrec.refCount
    show τ.refs t ≤ 1
    rw [refs_eq htr']
    omega
  | @remove t _ _ rest hmsg h htr =>
    refine .of_message hσ hmsg h ?_
    show τ.refs t ≤ 1
    simp [refs, htr]

/-! ## Nothing refers to a transport without a connection -/

/-- No socket refers to `t`, closing or not, and none can come to. -/
structure Gone (σ : Server) (t : TPtr) : Prop where
  nobody : ∀ p a, σ.socks.heap.get p = some a → a.transport ≠ some t
  not_attachable : ¬ σ.Attachable t

/-- A transport without a reference is gone, and so is one that has been deleted or is not there
yet. -/
structure Accounted (σ : Server) : Prop where
  tokensOk : σ.TokensOk
  offline : OfflineUnused σ
  gone : ∀ t, σ.refs t = 0 → σ.Gone t

/-- No socket of `t` is closing, or would have to wait if it were closed. -/
def settled (σ : Server) (t : TPtr) : Bool :=
  (σ.socks.localSocketList ++ σ.socks.localSocketClosingList).all fun s =>
    (σ.socks.heap.get s).all fun a => a.transport ≠ some t || !a.closing && a.disposable

/-- The step is orderly; it puts no transport online whose connection has given its reference
back; and when it takes a transport offline, no socket of the transport waits for data to be
written. -/
def tidy (cfg : Config) (σ : Server) (i : Input) : Bool :=
  orderly cfg σ i &&
    match i.callback with
    | .packet t p =>
      σ.refs t ≠ 0 || p.msg.command ≠ A_CNXN &&
        (cfg.host || p.msg.command ≠ A_AUTH || p.msg.arg0 ≠ ADB_AUTH_SIGNATURE)
    | .frameworkReply _ => cfg.host || σ.usbTransport.all (σ.refs · ≠ 0)
    | .error t => σ.settled t
    | _ => true

lemma settled_iff (h : Sockets.Inv [] σ.socks) : σ.settled t = true ↔
    ∀ s a, σ.socks.heap.get s = some a → a.isLocal = true → a.transport = some t →
      a.closing = false ∧ a.disposable = true := by
  have hmem (s : Ptr) : s ∈ σ.socks.localSocketList ++ σ.socks.localSocketClosingList ↔
      ∃ a, σ.socks.heap.get s = some a ∧ a.isLocal = true := by
    rw [mem_append, h.listed, h.closingListed]
    constructor
    · rintro (⟨a, hs, hl, -⟩ | ⟨a, hs, hl, -⟩)
      · exact ⟨a, hs, hl⟩
      · exact ⟨a, hs, hl⟩
    rintro ⟨a, hs, hl⟩
    cases hc : a.closing with
    | false => exact .inl ⟨a, hs, hl, hc⟩
    | true => exact .inr ⟨a, hs, hl, hc⟩
  simp only [settled, all_eq_true, hmem]
  constructor
  · intro hall s a hs hl ht
    simpa [hs, ht] using hall s ⟨a, hs, hl⟩
  rintro hall s ⟨a, hs, hl⟩
  by_cases ht : a.transport = some t
  · simpa [hs, ht] using hall s a hs hl ht
  · simp [hs, ht]

lemma Gone.moves (hg : σ.Gone t) (h : Moves cfg c σ l τ) (hcnxn : ¬ c.Connects t)
    (hverified : ∀ tr, ¬ Verifies cfg σ t tr c) : τ.Gone t where
  nobody p a' hp ht := by
    rcases h.socks.origin p a' t hp ht with hat | ⟨a, hp', ht', -⟩
    · exact hg.not_attachable hat
    · exact hg.nobody p a hp' ht'
  not_attachable := by
    rintro (⟨tr', htr', hon⟩ | ⟨x, hx, hxt⟩)
    · rcases h.change htr' with ⟨tr, htr, hchange⟩ | ⟨-, -, hnew⟩
      · have hnot : tr.online = false ∧ connectionStateIsOnline tr.connectionState = false := by
          have hnot : ¬ (tr.online = true ∨ connectionStateIsOnline tr.connectionState = true) :=
            fun hon => hg.not_attachable (.inl ⟨tr, htr, hon⟩)
          simpa using hnot
        cases hchange with
        | same _ hst hon' => simp [hst, hon', hnot] at hon
        | cnxn hc hp => exact hcnxn ⟨_, hc, hp⟩
        | authUnknown _ _ _ hst hon' => simp [hst, hon', hnot, connectionStateIsOnline] at hon
        | authToken _ _ hrec =>
          rcases hrec.not_connected with hst | hst
          · simp [hst, hrec.online, hnot, connectionStateIsOnline] at hon
          · simp [hst, hrec.online, hnot, connectionStateIsOnline] at hon
        | verified hv => exact hverified tr hv
        | offline _ hst hon' => simp [hst, hon', connectionStateIsOnline] at hon
      · have hstate := hnew.connectionState
        rw [hnew.online] at hon
        rcases hon with hon | hon
        · cases hon
        · rw [hstate] at hon
          cases hon
    · exact hg.not_attachable (h.listeners hx hxt)

lemma Moves.gone_of_error (h : Moves cfg (.error t) σ l τ) (hs : σ.Sound) (hacc : Accounted σ)
    (hsettled : σ.settled t = true) (hrefs : σ.refs t ≠ 0) (hzero : τ.refs t = 0) : τ.Gone t := by
  have hset := (settled_iff hs.inv).mp hsettled
  -- a socket that refers to `t` would be closing, and have been so or have had data left before
  have hnobody (hclear : Sockets.Clear t τ.socks) (hless : Sockets.Shrinks σ.socks τ.socks) :
      ∀ p a', τ.socks.heap.get p = some a' → a'.transport ≠ some t := by
    intro p a' hp ht
    have hc : a'.closing = true := by
      by_contra hc
      exact hclear p a' hp (by simpa using hc) ht
    obtain ⟨a, hp0, rfl | ⟨hl, hd, rfl⟩⟩ := hless p a' hp
    · have hl := (h.socks.inv hs.inv).isLocal_of_closing hp hc
      rw [(hset p a' hp0 hl ht).1] at hc
      cases hc
    · rw [(hset p a hp0 hl ht).2] at hd
      cases hd
  cases h with
  | serve _ h =>
    rw [h.refs] at hzero
    exact absurd hzero hrefs
  | error htr hoff htr1 h =>
    obtain ⟨tr2, htr2, hst2, hon2, -⟩ := h.record
    cases hoff with
    | already hst =>
      rw [htr] at htr1
      cases htr1
      have hu := hacc.offline.offline _ _ htr hst
      refine ⟨hnobody (h.sockets ▸ hu.clear) (.of_heap (by rw [h.sockets])), ?_⟩
      rintro (⟨tr', htr', hon⟩ | ⟨x, hx, hxt⟩)
      · rw [htr2] at htr'
        cases htr'
        rw [hst2, hon2] at hon
        exact hu.not_attachable (.inl ⟨_, htr, hon⟩)
      · exact hu.not_attachable (.inr ⟨x, h.listeners x hx, hxt⟩)
    | cleared hst hq htr' hclear hlisteners hless =>
      rw [htr'] at htr1
      cases htr1
      refine ⟨hnobody (h.sockets ▸ hclear) (h.sockets ▸ hless), ?_⟩
      rintro (⟨tr', htr', hon⟩ | ⟨x, hx, hxt⟩)
      · rw [htr2] at htr'
        cases htr'
        simp [hst2, hon2, wentOffline, connectionStateIsOnline] at hon
      · exact hlisteners x (h.listeners x hx) hxt

private lemma not_revived {i : Input} (h : tidy cfg σ i = true) (hrefs : σ.refs t = 0) :
    ¬ i.callback.Connects t ∧ ∀ tr, ¬ Verifies cfg (σ.withOs i.os) t tr i.callback := by
  unfold tidy at h
  generalize i.callback = c at h ⊢
  constructor
  · rintro ⟨p, rfl, hp⟩
    simp [hrefs, hp] at h
  intro tr hv
  cases hv with
  | signature hhost hp harg => simp [hrefs, hhost, hp, harg] at h
  | framework hhost _ hwaits =>
    have hwaits : σ.usbTransport = some t := hwaits
    simp [hrefs, hhost, hwaits] at h

lemma Accounted.step {i : Input} (h : Accounted σ) (hs : σ.Sound) (htidy : tidy cfg σ i = true)
    (hstep : StepOutcome cfg i σ l τ) : Accounted τ := by
  have horderly : orderly cfg σ i = true := (Bool.and_eq_true_iff.mp htidy).1
  have hoffline := h.offline.step hs horderly hstep
  cases hstep with
  | skipped => exact h
  | moved hmove =>
    have hcounts := hmove.counts (c := i.callback) { h.tokensOk with }
    refine ⟨hcounts.tokensOk, hoffline, fun t hzero => ?_⟩
    by_cases hrefs : σ.refs t = 0
    · obtain ⟨hcnxn, hverified⟩ := not_revived htidy hrefs
      have hg := h.gone t hrefs
      exact Gone.moves (σ := σ.withOs i.os) ⟨hg.nobody, hg.not_attachable⟩ hmove hcnxn hverified
    -- the reference has been given back in this step
    have hc : i.callback = .error t := (hcounts.kept t hzero).resolve_left hrefs
    have hsettled : σ.settled t = true := by
      unfold tidy at htidy
      rw [hc] at htidy
      exact (Bool.and_eq_true_iff.mp htidy).2
    rw [hc] at hmove
    exact hmove.gone_of_error (hs.withOs i.os) ⟨{ h.tokensOk with }, ⟨fun u ur hur hst =>
        let hu := h.offline.offline u ur hur hst
        ⟨hu.clear, hu.not_attachable⟩, h.offline.fresh⟩,
        fun u hu => ⟨(h.gone u hu).nobody, (h.gone u hu).not_attachable⟩⟩
      hsettled hrefs hzero

lemma accounted_init (name : Bytes) : Accounted (init name) where
  tokensOk := ⟨by simp [init, refs, tokens], by simp [init, tokens]⟩
  offline := offlineUnused_init
  gone t _ := ⟨by simp [init], by simp [init, Attachable]⟩

/-! ## Runs -/

private lemma Accounted.ordinary (h : Accounted σ) (hs : σ.Sound) (ho : Ordinary [] σ τ) :
    Accounted τ :=
  have hstep : StepOutcome .adb { callback := .kick 0, os := σ.socks.os } σ [] τ :=
    .moved (.serve (by simp) ho)
  h.step hs rfl hstep

def referred (σ : Server) (t : TPtr) : Bool :=
  (σ.socks.localSocketList ++ σ.socks.localSocketClosingList).any fun s =>
    Sockets.attached t s σ.socks

lemma Gone.not_referred (h : σ.Gone t) : σ.referred t = false := by
  rw [referred, any_eq_false]
  intro s _
  unfold Sockets.attached
  split
  · simp
  next a hs =>
  have hown := h.nobody s a hs
  split
  · simpa using hown
  split
  · simpa using hown
  · next b hr => simpa using ⟨hown, h.nobody _ b hr⟩

/-- In every interleaving of tidy steps, nothing refers to a transport that is about to be
deleted. -/
theorem removed_unreferred {name : Bytes} {turns : List Turn} {rest : List TMsg}
    (hC : Meets (turnStep cfg)
      (fun σ turn => ∀ i ∈ turn.input σ, tidy cfg (turn.prepare σ) i = true) turns (init name))
    (hrun : runs (turnStep cfg) turns (init name) = .ok σ)
    (hmsg : σ.registration = .remove t :: rest) :
    σ.referred t = false ∧ ∀ x ∈ σ.listenerList, x.transport ≠ some t := by
  obtain ⟨-, h⟩ := turns_invariant (I := Accounted) (C := fun σ i => tidy cfg σ i = true)
    (fun _ _ hs h => h.ordinary hs) (fun _ _ _ _ hs h => h.step hs) (sound_init name)
    (accounted_init name) hC hrun
  have hg := h.gone t (h.tokensOk.refs_of_message hmsg)
  exact ⟨hg.not_referred, fun x hx hxt => hg.not_attachable (.inr ⟨x, hx, hxt⟩)⟩

def greeting : APacket := packetOf A_CNXN A_VERSION 4096 (ascii "device::")

/-- The connection of a device fails while it is being written to; its reader has read `late`
by then. -/
def brokenConnection (late : List APacket) : List Turn :=
  [.main { callback := .usbDevice [] [] true }, .main { callback := .registration },
    .read 0 (some greeting), .flush {}, .writeFailed 0] ++
    late.map (fun p => .read 0 (some p)) ++
    (.flush {} :: late.map fun _ => .flush { service := true })

/-- The transport is about to be deleted, and nothing refers to it. -/
theorem removed_unreferred_idle :
    ∃ σ, runs (turnStep .adb) (brokenConnection []) (init []) = .ok σ ∧
      σ.registration = [.remove 0] ∧ σ.referred 0 = false ∧
      ∀ x ∈ σ.listenerList, x.transport ≠ some 0 := by
  have htest : returns (runs (turnStep .adb) (brokenConnection []) (init []))
      (fun σ => σ.registration = [.remove 0]) = true := by decide
  have hC : Meets (turnStep .adb)
      (fun σ turn => ∀ i ∈ turn.input σ, tidy .adb (turn.prepare σ) i = true)
      (brokenConnection []) (init []) := by decide
  obtain ⟨σ, hrun, hσ⟩ := returns_iff.mp htest
  have hmsg : σ.registration = [.remove 0] := of_decide_eq_true hσ
  exact ⟨σ, hrun, hmsg, removed_unreferred hC hrun hmsg⟩

/-- The reader has queued a greeting and a request behind the error callback. They are handled,
and the transport is deleted while it has a stream. -/
theorem removed_referred :
    ∃ σ τ, runs (turnStep .adb)
        (brokenConnection [greeting, packetOf A_OPEN 7 0 (ascii "tcp:1")]) (init []) = .ok σ ∧
      σ.registration = [.remove 0] ∧ σ.referred 0 = true ∧
      turnStep .adb (.main { callback := .registration }) σ = .ok τ ∧
      τ.transports.get 0 = none ∧ τ.referred 0 = true := by
  have htest : returns (runs (turnStep .adb)
      (brokenConnection [greeting, packetOf A_OPEN 7 0 (ascii "tcp:1")]) (init []))
      (fun σ => decide (σ.registration = [.remove 0]) && σ.referred 0 &&
        returns (turnStep .adb (.main { callback := .registration }) σ) fun τ =>
          decide (τ.transports.get 0 = none) && τ.referred 0) = true := by decide
  obtain ⟨σ, hrun, hσ⟩ := returns_iff.mp htest
  obtain ⟨hbefore, hstep⟩ := Bool.and_eq_true_iff.mp hσ
  obtain ⟨τ, hτ, hafter⟩ := returns_iff.mp hstep
  simp only [Bool.and_eq_true, decide_eq_true_eq] at hbefore hafter
  exact ⟨σ, τ, hrun, hbefore.1, hbefore.2, hτ, hafter⟩

end Server

end Adb
