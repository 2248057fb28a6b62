import Adb.TransportRecords

/-!
# Authentication

`adbd` that requires authentication puts a transport online only from `adbd_auth_verified`. Two
things go wrong: `handle_offline` returns at once when the state is offline already, and the flag
survives a new `A_CNXN` (`gated` excludes that); and `usb_transport` is the transport whose key came
first, while the framework is asked about every key (`attributed` excludes that).
-/

namespace Adb

open Lib

namespace Server

open Sockets (Act notes mem_notes)

variable {σ τ : Server} {cfg : Config} {c : Callback} {l : List Act} {t u : TPtr}
  {tr tr' : ATransport} {i : Input}

/-! ## The gate -/

def verification (t : TPtr) : Obs → Option Bool
  | .handled u p => if u = t ∧ p.msg.command = A_CNXN then some false else none
  | .verified u => if u = t then some true else none
  | _ => none

/-- `adbd_auth_verified(t)` was called, and no `A_CNXN` has been handled on `t` since. -/
def verifiedSince (t : TPtr) (trace : List Obs) : Bool :=
  latest (verification t) trace == some true

/-- The step does not handle an `A_CNXN` on a transport whose state is offline and whose flag
says that it is online. -/
def gated (σ : Server) (i : Input) : Bool :=
  match i.callback with
  | .packet t p =>
    p.msg.command ≠ A_CNXN ||
      (σ.transports.get t).all fun tr => tr.connectionState ≠ .kCsOffline || !tr.online
  | _ => true

def OnlineVerified (σ : Server) : Prop :=
  ∀ t tr, σ.transports.get t = some tr → tr.online = true → verifiedSince t σ.socks.trace = true

private lemma verification_of_not_notable {o : Obs} (h : o.notable = false) :
    verification t o = none := by
  cases o with
  | handled | verified => cases h
  | _ => rfl

lemma Moves.verification_note (h : Moves cfg c σ l τ) (hc : ¬ c.Connects t) {o : Obs}
    (ho : o ∈ notes l) : verification t o = none ∨ verification t o = some true := by
  cases h.noted (mem_notes.mp ho) with
  | handled hp =>
    refine .inl (if_neg ?_)
    rintro ⟨rfl, hcnxn⟩
    exact hc ⟨_, hp, hcnxn⟩
  | @verified u =>
    by_cases hu : u = t
    · exact .inr (if_pos hu)
    · exact .inl (if_neg hu)
  | forwarded => exact .inl rfl
  | frameworkOk => exact .inl rfl
  | deleted => exact .inl rfl
  | connect | answer | reply => exact .inl rfl

lemma Moves.stays_verified (h : Moves cfg c σ l τ) (hc : ¬ c.Connects t)
    (hv : verifiedSince t σ.socks.trace = true) : verifiedSince t τ.socks.trace = true := by
  have hv : latest (verification t) σ.socks.trace = some true := beq_iff_eq.mp hv
  rw [verifiedSince, h.latest_eq fun _ => verification_of_not_notable, hv, beq_iff_eq]
  by_cases hnew : ∃ o ∈ notes l, verification t o = some true
  · rw [latest_eq_some (fun o ho => h.verification_note hc ho) hnew]
    rfl
  · rw [latest_eq_none fun o ho => (h.verification_note hc ho).resolve_right fun hn => hnew ⟨o, ho, hn⟩]
    rfl

lemma Moves.verified_of_note (h : Moves cfg c σ l τ) (hc : ¬ c.Connects t)
    (hl : .note (.verified t) ∈ l) : verifiedSince t τ.socks.trace = true := by
  rw [verifiedSince, h.latest_eq fun _ => verification_of_not_notable,
    latest_eq_some (fun o ho => h.verification_note hc ho) ⟨_, mem_notes.mpr hl, if_pos rfl⟩]
  rfl

lemma OnlineVerified.step (h : OnlineVerified σ) (hhost : cfg.host = false)
    (hauth : cfg.authRequired = true) (hgated : gated σ i = true)
    (hstep : StepOutcome cfg i σ l τ) : OnlineVerified τ := by
  cases hstep with
  | skipped => exact h
  | moved hmove =>
    intro t tr' htr' hon'
    rcases hmove.change htr' with ⟨tr, htr, hchange⟩ | ⟨-, -, hnew⟩
    · have htr : σ.transports.get t = some tr := htr
      cases hchange with
      | same hc _ hon => exact hmove.stays_verified hc (h t tr htr (hon ▸ hon'))
      | cnxn hc hp hrec =>
        simp only [gated, hc, hp, htr, ne_eq, not_true_eq_false, decide_false, Bool.false_or,
          Option.all_some, Bool.or_eq_true, decide_not, Bool.not_eq_true', decide_eq_false_iff_not]
          at hgated
        rw [hrec.online, hhost, hauth] at hon'
        simp only [Bool.not_true, Bool.or_false, Bool.false_or, Bool.and_eq_true,
          decide_eq_true_eq] at hon'
        rcases hgated with hst | hoff
        · exact absurd hon'.1 hst
        · rw [hoff] at hon'
          cases hon'.2
      | authUnknown hc hp _ _ hon =>
        have hcon : ¬ i.callback.Connects t := hc ▸ not_connects_packet (ne_cnxn_of_auth hp)
        exact hmove.stays_verified hcon (h t tr htr (hon ▸ hon'))
      | authToken _ hhost' =>
        rw [hhost] at hhost'
        cases hhost'
      | verified hv hl => exact hmove.verified_of_note hv.not_connects hl
      | offline _ _ hon =>
        rw [hon] at hon'
        cases hon'
    · rw [hnew.online] at hon'
      cases hon'

lemma handlePacket_open_of_not_online {p : APacket} (htr : σ.transports.get t = some tr)
    (hon : tr.online = false) (hp : p.msg.command = A_OPEN)
    (hτ : handlePacket cfg t p σ = .ok τ) : τ = σ.emit (.handled t p) := by
  obtain ⟨-, -, hτ⟩ := bind_eq_ok.mp hτ
  have hopen : dispatchPacket cfg t p (σ.emit (.handled t p)) =
      handleOpen cfg t p (σ.emit (.handled t p)) := by
    rw [dispatchPacket, hp]
    rfl
  rw [hopen, handleOpen, transport_eq (σ := σ.emit (.handled t p)) htr, ok_bind, hon] at hτ
  cases hτ
  rfl

/-- In every run of gated steps of an `adbd` that requires authentication, a transport that is
online has been verified since its last `A_CNXN`, and an `A_OPEN` on one that has not been does
nothing. -/
theorem online_verified {name : Bytes} {inputs : List Input} (hhost : cfg.host = false)
    (hauth : cfg.authRequired = true)
    (hC : Meets (Server.step cfg) (fun σ i => gated σ i = true) inputs (init name))
    (hrun : run cfg inputs (init name) = .ok σ) (htr : σ.transports.get t = some tr) :
    (tr.online = true → verifiedSince t σ.socks.trace = true) ∧
      (verifiedSince t σ.socks.trace = false → ∀ p os τ, p.msg.command = A_OPEN →
        handlePacket cfg t p (σ.withOs os) = .ok τ → τ = (σ.withOs os).emit (.handled t p)) := by
  obtain ⟨-, h⟩ := run_invariant (I := OnlineVerified)
    (fun σ i l τ _ h hg hstep => h.step hhost hauth hg hstep) (sound_init name)
    (by intro t tr htr; simp [init] at htr) hC hrun
  refine ⟨h t tr htr, fun hnot p os τ hp hτ => ?_⟩
  have hoff : tr.online = false := by
    by_contra hon
    rw [h t tr htr (by simpa using hon)] at hnot
    cases hnot
  exact handlePacket_open_of_not_online (σ := σ.withOs os) htr hoff hp hτ

/-- A host connects to a device that knows its key, and signs the token. -/
def signedHost : List Input :=
  [{ callback := .usbDevice [] [] true },
    { callback := .registration },
    { callback := .packet 0 (packetOf A_CNXN A_VERSION 4096 (ascii "host::")) },
    { callback := .packet 0 (packetOf A_AUTH ADB_AUTH_SIGNATURE 0 [1]), os := { adbKeys := [[]] } }]

def trusting : Config := { Config.adbd with rsaVerify := fun _ _ _ => true }

/-- The host is online, and verified. -/
theorem online_verified_signed :
    ∃ σ tr, run trusting signedHost (init []) = .ok σ ∧ σ.transports.get 0 = some tr ∧
      tr.online = true ∧ verifiedSince 0 σ.socks.trace = true := by
  have htest : returns (run trusting signedHost (init []))
      (fun σ => (σ.transports.get 0).any (·.online)) = true := by decide
  have hC : Meets (Server.step trusting) (fun σ i => gated σ i = true) signedHost (init []) := by
    decide
  obtain ⟨σ, hrun, hany⟩ := returns_iff.mp htest
  obtain ⟨tr, htr, hon⟩ := (Option.any_eq_true _ _).mp hany
  exact ⟨σ, tr, hrun, htr, hon, (online_verified rfl rfl hC hrun htr).1 hon⟩

/-- The host sends an `A_AUTH` of a type that there is not, and connects anew. -/
def reconnectedHost : List Input :=
  signedHost ++ [{ callback := .packet 0 (packetOf A_AUTH 4 0) },
      { callback := .packet 0 (packetOf A_CNXN A_VERSION 4096 (ascii "host::")) }]

/-- It is online without having been verified, and is given a service. -/
theorem online_unverified :
    ∃ σ tr τ s id, run trusting reconnectedHost (init []) = .ok σ ∧
      σ.transports.get 0 = some tr ∧ tr.online = true ∧ verifiedSince 0 σ.socks.trace = false ∧
      handlePacket trusting 0 (packetOf A_OPEN 7 0 (ascii "tcp:1"))
        (σ.withOs { service := true }) = .ok τ ∧ .accepted s id 7 ∈ τ.socks.trace := by
  have htest : returns (run trusting reconnectedHost (init [])) (fun σ =>
      ((σ.transports.get 0).any (·.online) && !verifiedSince 0 σ.socks.trace) &&
        returns (handlePacket trusting 0 (packetOf A_OPEN 7 0 (ascii "tcp:1"))
          (σ.withOs { service := true })) (fun τ => decide (.accepted 0 1 7 ∈ τ.socks.trace))) =
      true := by decide
  obtain ⟨σ, hrun, hσ⟩ := returns_iff.mp htest
  obtain ⟨hσ, hopen⟩ := Bool.and_eq_true_iff.mp hσ
  obtain ⟨hany, hnot⟩ := Bool.and_eq_true_iff.mp hσ
  obtain ⟨tr, htr, hon⟩ := (Option.any_eq_true _ _).mp hany
  obtain ⟨τ, hτ, hmem⟩ := returns_iff.mp hopen
  exact ⟨σ, tr, τ, 0, 1, hrun, htr, hon, by simpa using hnot, hτ, by simpa using hmem⟩

/-! ## User approval -/

def forwarder : Obs → Option TPtr
  | .forwarded t _ => some t
  | _ => none

def lastForwarded (trace : List Obs) : Option TPtr := latest forwarder trace

/-- A key of `t` is forwarded only if no other transport is `usb_transport`, and if it is not
forwarded then `t` does not become `usb_transport`, unless the last key forwarded was one of
`t`. -/
def attributed (cfg : Config) (σ : Server) (i : Input) : Bool :=
  match i.callback with
  | .packet t p =>
    cfg.host || p.msg.command ≠ A_AUTH || p.msg.arg0 ≠ ADB_AUTH_RSAPUBLICKEY ||
      if forwards p.payload (σ.withOs i.os) then σ.usbTransport.all (· = t)
      else σ.usbTransport.isSome || lastForwarded σ.socks.trace = some t
  | _ => true

/-- The transport that waits for the framework is the one that the framework was asked about
last. -/
def UsbForwarded (σ : Server) : Prop :=
  ∀ t, σ.usbTransport = some t → lastForwarded σ.socks.trace = some t

private lemma forwarder_of_not_notable {o : Obs} (h : o.notable = false) : forwarder o = none := by
  cases o with
  | forwarded => cases h
  | _ => rfl

structure KeyPacket (cfg : Config) (t : TPtr) (p : APacket) (c : Callback) : Prop where
  callback : c = .packet t p
  device : cfg.host = false
  command : p.msg.command = A_AUTH
  arg0 : p.msg.arg0 = ADB_AUTH_RSAPUBLICKEY

lemma Moves.usb (h : Moves cfg c σ l τ) :
    (τ.usbTransport = σ.usbTransport ∨ τ.usbTransport = none) ∧
        (∀ o ∈ notes l, forwarder o = none) ∨
      ∃ u p, KeyPacket cfg u p c ∧ τ.usbTransport = some (σ.usbTransport.getD u) ∧
        latest forwarder (notes l) = if forwards p.payload σ then some u else none := by
  have hkept (husb : UsbKept σ τ) (hl : ∀ o ∈ notes l, forwarder o = none) :
      (τ.usbTransport = σ.usbTransport ∨ τ.usbTransport = none) ∧
        ∀ o ∈ notes l, forwarder o = none :=
    ⟨husb.imp And.left And.left, hl⟩
  have hordinary {l : List Act} (hτ : Ordinary l σ τ) : UsbKept σ τ :=
    .inl ⟨hτ.usbTransport, hτ.needsRetry⟩
  -- only a key is forwarded
  have hnone (hkey : ∀ t p, c = .packet t p → p.msg.command = A_AUTH →
      p.msg.arg0 ≠ ADB_AUTH_RSAPUBLICKEY) : ∀ o ∈ notes l, forwarder o = none := by
    intro o ho
    cases h.noted (mem_notes.mp ho) with
    | forwarded hc hp harg => exact absurd harg (hkey _ _ hc hp)
    | _ => rfl
  have hother (hc : ∀ t p, c ≠ .packet t p) : ∀ o ∈ notes l, forwarder o = none :=
    hnone fun t p hp => absurd hp (hc t p)
  have hpacket {t : TPtr} {p : APacket} (hc : c = .packet t p)
      (hp : p.msg.command = A_AUTH → p.msg.arg0 ≠ ADB_AUTH_RSAPUBLICKEY) :
      ∀ o ∈ notes l, forwarder o = none := by
    refine hnone fun u q hq => ?_
    rw [hc] at hq
    cases hq
    exact hp
  cases id h with
  | stream _ hauth hτ => exact .inl (hkept (hordinary hτ) (hpacket rfl fun hp => absurd hp hauth))
  | event hτ => exact .inl (hkept (hordinary hτ) (hother (by simp)))
  | poll hτ => exact .inl (hkept (hordinary hτ) (hother (by simp)))
  | serve hc hτ => exact .inl (hkept (hordinary hτ) (hother hc))
  | cnxn hp _ hτ =>
    refine .inl (hkept hτ.usb (hpacket rfl fun hauth => ?_))
    rw [hp] at hauth
    exact absurd hauth (by decide)
  | authUnknown => exact .inl (hkept (.inl ⟨rfl, rfl⟩) (by simp [notes, forwarder]))
  | authToken _ _ _ hτ _ _ harg =>
    refine .inl (hkept hτ.usb (hpacket rfl fun _ => ?_))
    rw [harg]
    decide
  | authSignature _ _ harg _ hτ =>
    have hsignature := hpacket rfl fun _ => by
      rw [harg]
      decide
    cases hτ with
    | verified _ hτ => exact .inl (hkept hτ.usb hsignature)
    | refused _ hτ => exact .inl (hkept hτ.usb hsignature)
  | @authKey t p _ l _ hp hhost harg hτ =>
    refine .inr ⟨t, p, ⟨rfl, hhost, hp, harg⟩, hτ.usbTransport, ?_⟩
    have hacts : l = if forwards p.payload σ then [.note (.forwarded t (cString p.payload))] else [] :=
      hτ.acts
    rw [hacts]
    split
    · rfl
    · rfl
  | error _ hoff _ hτ => exact .inl (hkept (hoff.quiet.usb.trans hτ.usb) (hother (by simp)))
  | frameworkConnect _ hτ => exact .inl ⟨.inl hτ.usbTransport, hother (by simp)⟩
  | frameworkReply _ hτ =>
    have hreply := hother (by simp)
    cases hτ with
    | closed => exact .inl ⟨.inl rfl, hreply⟩
    | nobody => exact .inl ⟨.inl rfl, hreply⟩
    | approved _ _ _ hτ => exact .inl (hkept hτ.usb hreply)
    | other => exact .inl ⟨.inl rfl, hreply⟩
  | register _ _ hτ => exact .inl (hkept hτ.usb (hother (by simp)))
  | remove _ hτ => exact .inl (hkept hτ.usb (hother (by simp)))

private lemma attributed_key {p : APacket} (h : attributed cfg σ i = true)
    (hp : KeyPacket cfg u p i.callback) :
    if forwards p.payload (σ.withOs i.os) then ∀ v, σ.usbTransport = some v → v = u
    else σ.usbTransport ≠ none ∨ lastForwarded σ.socks.trace = some u := by
  unfold attributed at h
  simp only [hp.callback, hp.device, hp.command, hp.arg0, ne_eq, not_true_eq_false, decide_false,
    Bool.or_self, Bool.false_or] at h
  split
  · next hkey => simpa [hkey, Option.all_eq_true] using h
  · next hkey => simpa [hkey, Option.isSome_iff_ne_none] using h

lemma UsbForwarded.step (h : UsbForwarded σ) (hattr : attributed cfg σ i = true)
    (hstep : StepOutcome cfg i σ l τ) : UsbForwarded τ := by
  cases hstep with
  | skipped => exact h
  | moved hmove =>
    have hlatest : lastForwarded τ.socks.trace =
        (latest forwarder (notes l)).or (lastForwarded (σ.withOs i.os).socks.trace) :=
      hmove.latest_eq fun _ => forwarder_of_not_notable
    intro t ht
    rw [hlatest]
    change (latest forwarder (notes l)).or (lastForwarded σ.socks.trace) = some t
    rcases hmove.usb with ⟨husb, hnone⟩ | ⟨u, p, hp, husb, hkey⟩
    · rw [latest_eq_none hnone, Option.none_or]
      rcases husb with husb | husb
      · exact h t (husb.symm.trans ht)
      · rw [husb] at ht
        cases ht
    · have hattr := attributed_key hattr hp
      have husb : τ.usbTransport = some (σ.usbTransport.getD u) := husb
      rw [husb] at ht
      cases ht
      rw [hkey]
      cases hkey : forwards p.payload (σ.withOs i.os) with
      | true =>
        simp only [hkey, if_true] at hattr ⊢
        cases hσ : σ.usbTransport with
        | none => rfl
        | some v => simp [hattr v hσ]
      | false =>
        simp only [hkey, Bool.false_eq_true, if_false] at hattr ⊢
        cases hσ : σ.usbTransport with
        | none => simpa [hσ] using hattr
        | some v => simpa using h v hσ

/-- In every run of attributed steps, an `OK` of the framework verifies only the transport whose
key was the last to be forwarded. -/
theorem approved_forwarded {name response : Bytes} {inputs : List Input} {obs : List Obs}
    (hC : Meets (Server.step cfg) (fun σ i => attributed cfg σ i = true) inputs (init name))
    (hrun : run cfg inputs (init name) = .ok σ) (hi : i.callback = .frameworkReply response)
    (hstep : Server.step cfg i σ = .ok τ) (hobs : τ.socks.trace = σ.socks.trace ++ obs)
    (hv : .verified t ∈ obs) : lastForwarded σ.socks.trace = some t := by
  obtain ⟨hs, h⟩ := run_invariant (I := UsbForwarded)
    (fun σ i l τ _ h ha hstep => h.step ha hstep) (sound_init name)
    (by intro t ht; simp [init] at ht) hC hrun
  obtain ⟨l, hl⟩ := (step_spec i hs).of_ok hstep
  obtain ⟨obs', hobs', hnotes, -⟩ := hl.socks.trace
  have hsame : obs' = obs := List.append_cancel_left (hobs'.symm.trans hobs)
  have hmem : .note (.verified t) ∈ l := by
    rw [← mem_notes, ← hnotes, hsame]
    exact List.mem_filter.mpr ⟨hv, rfl⟩
  cases hl with
  | skipped => simp at hmem
  | moved hmove =>
    cases hmove.noted hmem with
    | verified _ hver =>
      rw [hi] at hver
      cases hver with
      | framework _ _ hwaits => exact h t hwaits

/-- Two hosts are connected to a device, and the framework is there. The keys of `senders`
arrive. -/
def waitingHosts (senders : List TPtr) : List Input :=
  [{ callback := .usbDevice [] [] true },
    { callback := .usbDevice [] [] true },
    { callback := .registration },
    { callback := .registration },
    { callback := .packet 0 (packetOf A_CNXN A_VERSION 4096 (ascii "host::")) },
    { callback := .packet 1 (packetOf A_CNXN A_VERSION 4096 (ascii "host::")) },
    { callback := .frameworkConnect }] ++
  senders.map fun t =>
    { callback := .packet t (packetOf A_AUTH ADB_AUTH_RSAPUBLICKEY 0 (ascii "key" ++ [0])) }

private lemma waitingHosts_reply (senders : List TPtr) (last : TPtr)
    (htest : returns (run .adbd (waitingHosts senders) (init [])) (fun σ =>
      lastForwarded σ.socks.trace == some last &&
        returns (Server.step .adbd { callback := .frameworkReply (ascii "OK") } σ) (fun τ =>
          τ.socks.trace == σ.socks.trace ++ τ.socks.trace.drop σ.socks.trace.length &&
            decide (.verified 0 ∈ τ.socks.trace.drop σ.socks.trace.length))) = true) :
    ∃ σ τ obs, run .adbd (waitingHosts senders) (init []) = .ok σ ∧
      Server.step .adbd { callback := .frameworkReply (ascii "OK") } σ = .ok τ ∧
      τ.socks.trace = σ.socks.trace ++ obs ∧ .verified 0 ∈ obs ∧
      lastForwarded σ.socks.trace = some last := by
  obtain ⟨σ, hrun, hσ⟩ := returns_iff.mp htest
  obtain ⟨hlast, hstep⟩ := Bool.and_eq_true_iff.mp hσ
  obtain ⟨τ, hτ, hobs⟩ := returns_iff.mp hstep
  obtain ⟨htrace, hmem⟩ := Bool.and_eq_true_iff.mp hobs
  exact ⟨σ, τ, _, hrun, hτ, beq_iff_eq.mp htrace, of_decide_eq_true hmem, beq_iff_eq.mp hlast⟩

/-- Only one host has sent its key. -/
theorem approved_forwarded_one :
    ∃ σ τ obs, run .adbd (waitingHosts [0]) (init []) = .ok σ ∧
      Server.step .adbd { callback := .frameworkReply (ascii "OK") } σ = .ok τ ∧
      τ.socks.trace = σ.socks.trace ++ obs ∧ .verified 0 ∈ obs ∧
      lastForwarded σ.socks.trace = some 0 := by
  obtain ⟨σ, τ, obs, hrun, hstep, hobs, hv, -⟩ := waitingHosts_reply [0] 0 (by decide)
  have hC : Meets (Server.step .adbd) (fun σ i => attributed .adbd σ i = true) (waitingHosts [0])
      (init []) := by decide
  exact ⟨σ, τ, obs, hrun, hstep, hobs, hv, approved_forwarded hC hrun rfl hstep hobs hv⟩

/-- Both hosts have sent their keys. The user sees the key of the second, and lets in the
first. -/
theorem approved_other :
    ∃ σ τ obs, run .adbd (waitingHosts [0, 1]) (init []) = .ok σ ∧
      Server.step .adbd { callback := .frameworkReply (ascii "OK") } σ = .ok τ ∧
      τ.socks.trace = σ.socks.trace ++ obs ∧ .verified 0 ∈ obs ∧
      lastForwarded σ.socks.trace = some 1 := waitingHosts_reply [0, 1] 1 (by decide)

end Server

end Adb
