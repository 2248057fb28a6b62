import Adb.Offline

/-!
# Packets that abort the process

`fatalPacket` says exactly when `handle_packet` does not come back from a packet of a reachable state,
the `exit()` of `adbd` and the use of a deleted transport apart.
-/

namespace Adb

open Lib

def Halt.aborts : Halt → Bool
  | .exit | .dangling => false
  | _ => true

lemma Halt.Excused.aborts {h : Halt} (hh : h.Excused) : h.aborts = false := by
  rcases hh with rfl | rfl
  · rfl
  · rfl

namespace Server

open Sockets (Inv)

variable {σ τ : Server} {cfg : Config} {t : TPtr} {tr : ATransport} {p : APacket} {c : Bool}

def longBanner (cfg : Config) : Bool := maxPayloadV1 < cfg.connectionString.length

def emptyKey (p : APacket) (σ : Server) : Bool := p.payload.isEmpty && σ.frameworkFd

/-- The `A_AUTH` makes the host build a `std::string` from a null pointer, or the device read
outside of the payload. -/
def unsafeAuth (cfg : Config) (t : TPtr) (p : APacket) (σ : Server) : Bool :=
  if cfg.host then p.msg.arg0 = ADB_AUTH_TOKEN && oddToken t p σ
  else p.msg.arg0 = ADB_AUTH_RSAPUBLICKEY && emptyKey p σ

def longAnswer (cfg : Config) (t : TPtr) (p : APacket) (σ : Server) : Bool :=
  !cfg.host && p.msg.arg0 = ADB_AUTH_SIGNATURE && longBanner cfg &&
    (σ.transports.get t).any fun tr => adbdAuthVerify cfg tr.token p.payload σ

/-- The `A_WRTE` has no payload, and there is a stream that it is for. -/
def emptyWrite (t : TPtr) (p : APacket) (σ : Server) : Bool :=
  p.payload.isEmpty && (wrteTarget t p σ).isSome

def fatalPacket (cfg : Config) (t : TPtr) (p : APacket) (σ : Server) : Bool :=
  if p.msg.command = A_CNXN then
    longBanner cfg && !cfg.host && !cfg.authRequired && returns (handleOffline t σ) fun _ => true
  else if p.msg.command = A_AUTH then unsafeAuth cfg t p σ || longAnswer cfg t p σ
  else if p.msg.command = A_OPEN then openOverflows cfg t p σ
  else if p.msg.command = A_WRTE then emptyWrite t p σ
  else false

def AbortsIff (c : Bool) (x : Res Server) : Prop :=
  Sat x (fun _ => c = false) (fun h => h.aborts = c)

namespace AbortsIff

variable {x : Res Server}

variable {Q : Server → Prop}

lemma of_excused (h : Sat x Q Halt.Excused) : AbortsIff false x :=
  h.mono (fun _ _ => rfl) fun _ he => he.aborts

lemma of_dangling (h : Sat x Q (· = .dangling)) : AbortsIff false x :=
  h.mono (fun _ _ => rfl) fun _ he => by rw [he]; rfl

lemma of_error {h : Halt} (hx : x = .error h) (hh : h.aborts = true) : AbortsIff true x := by
  rw [hx]
  exact hh

/-- What is left to show when the reasons are known: that `c` leads to an error, and that the
reasons lead to `c`. -/
lemma intro {E : Halt → Prop} (h : Sat x Q E)
    (hfatal : c = true → ∃ e, x = .error e ∧ e.aborts = true)
    (hreason : ∀ e, E e → e.aborts = false ∨ c = true) : AbortsIff c x := by
  cases hc : c with
  | true =>
    obtain ⟨e, hx, he⟩ := hfatal hc
    exact .of_error hx he
  | false =>
    refine h.mono (fun _ _ => rfl) fun e he => ?_
    rcases hreason e he with h | h
    · exact h
    · rw [hc] at h
      cases h

end AbortsIff

/-! ## `A_AUTH` -/

private lemma sendConnect_long (htr : σ.transports.get t = some tr)
    (hlong : longBanner cfg = true) : sendConnect cfg t σ = .error (.fatal .bannerTooLong) := by
  unfold sendConnect
  rw [transport_eq htr, ok_bind, if_pos (by simpa [longBanner] using hlong)]
  rfl

private lemma adbdAuthVerified_long (htr : σ.transports.get t = some tr)
    (hlong : longBanner cfg = true) :
    adbdAuthVerified cfg t σ = .error (.fatal .bannerTooLong) := by
  unfold adbdAuthVerified handleOnline
  rw [transport_eq (σ := σ.emit (.verified t)) htr, ok_bind, pure_eq_ok, ok_bind]
  exact sendConnect_long (get_setTransport_self (σ := σ.emit (.verified t)) htr _) hlong

private lemma adbdAuthConfirmKey_empty (htr : σ.transports.get t = some tr)
    (hfd : σ.frameworkFd = true) : adbdAuthConfirmKey [] t σ = .error .wild := by
  obtain ⟨τ, hτ, hfd'⟩ : ∃ τ, claimUsbTransport t σ = .ok τ ∧ τ.frameworkFd = true := by
    unfold claimUsbTransport addDisconnect
    split
    · rw [transport_eq (σ := { σ with usbTransport := some t }) htr, ok_bind]
      exact ⟨_, rfl, hfd⟩
    · exact ⟨σ, rfl, hfd⟩
  unfold adbdAuthConfirmKey
  rw [hτ, ok_bind, if_pos hfd']
  rfl

private lemma handleAuth_stops (htr : σ.transports.get t = some tr)
    (h : unsafeAuth cfg t p σ = true) :
    handleAuth cfg t p σ = .error (if cfg.host then .nullString else .wild) := by
  unfold unsafeAuth at h
  unfold handleAuth
  cases hhost : cfg.host with
  | true =>
    simp only [hhost, if_true, Bool.and_eq_true, decide_eq_true_eq] at h ⊢
    rw [if_pos h.1, authToken_odd h.2]
  | false =>
    simp only [hhost, Bool.false_eq_true, if_false, Bool.and_eq_true, decide_eq_true_eq, emptyKey,
      List.isEmpty_iff] at h ⊢
    obtain ⟨harg, hempty, hfd⟩ := h
    rw [if_neg (by rw [harg]; decide), if_pos harg, hempty, adbdAuthConfirmKey_empty htr hfd]

private lemma handleAuth_long (htr : σ.transports.get t = some tr)
    (h : longAnswer cfg t p σ = true) : handleAuth cfg t p σ = .error (.fatal .bannerTooLong) := by
  simp only [longAnswer, htr, Option.any_some, Bool.and_eq_true, Bool.not_eq_true',
    decide_eq_true_eq] at h
  obtain ⟨⟨⟨hhost, harg⟩, hlong⟩, hkey⟩ := h
  unfold handleAuth authSignature
  simp [hhost, if_pos harg, transport_eq htr, hkey, adbdAuthVerified_long htr hlong]

lemma handleAuth_aborts (htr : σ.transports.get t = some tr) :
    AbortsIff (unsafeAuth cfg t p σ || longAnswer cfg t p σ) (handleAuth cfg t p σ) := by
  cases hunsafe : unsafeAuth cfg t p σ with
  | true =>
    refine .of_error (handleAuth_stops htr hunsafe) ?_
    split
    · rfl
    · rfl
  | false =>
  cases hlong : longAnswer cfg t p σ with
  | true => exact .of_error (handleAuth_long htr hlong) rfl
  | false =>
    -- none of the reasons of the specifications is left
    have hunknown : AbortsIff false (authUnknown t σ) := by
      rw [authUnknown_eq htr]
      exact rfl
    simp only [unsafeAuth, longAnswer] at hunsafe hlong
    refine .ite (fun hhost => .ite (fun harg => ?_) fun _ => hunknown) fun hhost =>
      .ite (fun harg => ?_) fun _ => .ite (fun harg => ?_) fun _ => hunknown
    · refine authToken_spec.mono (fun _ _ => rfl) ?_
      rintro e (rfl | ⟨-, hodd⟩)
      · rfl
      · simp [hhost, harg, hodd] at hunsafe
    · refine (authSignature_spec (by simpa using hhost)).mono (fun _ _ => rfl) ?_
      rintro e (he | ⟨-, hbanner, tr', htr', hkey⟩)
      · exact he.aborts
      · simp [hhost, harg, longBanner, hbanner, htr', hkey] at hlong
    · refine adbdAuthConfirmKey_spec.mono (fun _ _ => rfl) ?_
      rintro e (rfl | ⟨-, hkey, hfd⟩)
      · rfl
      · simp [hhost, harg, emptyKey, hkey, hfd] at hunsafe

/-- In every state, an `A_AUTH` of any length makes no `std::string` from a null pointer and reads
nothing outside of its payload, if and only if it is none of those of `unsafeAuth`. -/
theorem handlePacket_auth_safe_iff (htr : σ.transports.get t = some tr)
    (hp : p.msg.command = A_AUTH) (hlen : p.payload.length = p.msg.dataLength.toNat) :
    (handlePacket cfg t p σ ≠ .error .nullString ∧ handlePacket cfg t p σ ≠ .error .wild) ↔
      unsafeAuth cfg t p σ = false := by
  have hauth : handlePacket cfg t p σ = handleAuth cfg t p (σ.emit (.handled t p)) := by
    unfold handlePacket dispatchPacket
    rw [hlen, beq_self_eq_true, check_true, ok_bind, hp]
    rfl
  have htr : (σ.emit (.handled t p)).transports.get t = some tr := htr
  have hsame : unsafeAuth cfg t p (σ.emit (.handled t p)) = unsafeAuth cfg t p σ := rfl
  rw [hauth]
  constructor
  · rintro ⟨hnull, hwild⟩
    by_contra hunsafe
    have herror := handleAuth_stops htr (hsame.trans (by simpa using hunsafe))
    split at herror
    · exact hnull herror
    · exact hwild herror
  · intro hsafe
    have haborts : AbortsIff (unsafeAuth cfg t p (σ.emit (.handled t p)) ||
        longAnswer cfg t p (σ.emit (.handled t p)))
        (handleAuth cfg t p (σ.emit (.handled t p))) := handleAuth_aborts htr
    rw [hsame, hsafe, Bool.false_or] at haborts
    -- what is left is the banner
    have hnot {e : Halt} (he : e.aborts = true) (hne : e ≠ .fatal .bannerTooLong) :
        handleAuth cfg t p (σ.emit (.handled t p)) ≠ .error e := by
      intro herror
      rw [herror] at haborts
      have hlong := handleAuth_long htr ((haborts : e.aborts = _).symm.trans he)
      rw [herror] at hlong
      exact hne (Except.error.inj hlong)
    exact ⟨hnot rfl (by decide), hnot rfl (by decide)⟩

def registered : List Input := [{ callback := .usbDevice [] [] true }, { callback := .registration }]

/-- The host has a private key, and signs a token of the right size. -/
theorem handlePacket_auth_safe_token :
    ∃ σ tr, run .adb registered (init []) = .ok σ ∧ σ.transports.get 0 = some tr ∧
      handlePacket .adb 0 (packetOf A_AUTH ADB_AUTH_TOKEN 0 (List.replicate tokenSize 1))
        (σ.withOs { privateKeys := [0] }) ≠ .error .nullString ∧
      handlePacket .adb 0 (packetOf A_AUTH ADB_AUTH_TOKEN 0 (List.replicate tokenSize 1))
        (σ.withOs { privateKeys := [0] }) ≠ .error .wild := by
  have htest : returns (run .adb registered (init []))
      (fun σ => (σ.transports.get 0).isSome) = true := by decide
  obtain ⟨σ, hrun, hsome⟩ := returns_iff.mp htest
  obtain ⟨tr, htr⟩ := Option.isSome_iff_exists.mp hsome
  exact ⟨σ, tr, hrun, htr,
    (handlePacket_auth_safe_iff (σ := σ.withOs { privateKeys := [0] }) htr rfl (by decide)).mpr
      (by simp [unsafeAuth, Config.adb, oddToken, packetOf, tokenSize])⟩

/-- A token of no bytes on the host, and a key of no bytes on the device. -/
theorem handlePacket_auth_unsafe :
    (∃ σ, run .adb registered (init []) = .ok σ ∧
      handlePacket .adb 0 (packetOf A_AUTH ADB_AUTH_TOKEN 0 [])
        (σ.withOs { privateKeys := [0] }) = .error .nullString) ∧
    ∃ σ, run .adbd (registered ++ [{ callback := .frameworkConnect }]) (init []) = .ok σ ∧
      handlePacket .adbd 0 (packetOf A_AUTH ADB_AUTH_RSAPUBLICKEY 0 []) σ = .error .wild := by
  refine ⟨?_, ?_⟩
  · have htest : returns (run .adb registered (init [])) (fun σ => stops .nullString
        (handlePacket .adb 0 (packetOf A_AUTH ADB_AUTH_TOKEN 0 [])
          (σ.withOs { privateKeys := [0] }))) = true := by decide
    obtain ⟨σ, hrun, hstop⟩ := returns_iff.mp htest
    exact ⟨σ, hrun, stops_iff.mp hstop⟩
  · have htest : returns (run .adbd (registered ++ [{ callback := .frameworkConnect }]) (init []))
        (fun σ => stops .wild
          (handlePacket .adbd 0 (packetOf A_AUTH ADB_AUTH_RSAPUBLICKEY 0 []) σ)) = true := by decide
    obtain ⟨σ, hrun, hstop⟩ := returns_iff.mp htest
    exact ⟨σ, hrun, stops_iff.mp hstop⟩

/-! ## The other packets -/

private lemma handleNewConnection_aborts (h : Inv [] σ.socks) (hok : σ.ListenersOk) :
    AbortsIff (longBanner cfg && !cfg.host && !cfg.authRequired &&
      returns (handleOffline t σ) fun _ => true) (handleNewConnection cfg t p σ) := by
  unfold handleNewConnection
  cases hoff : handleOffline t σ with
  | error e =>
    rw [error_bind]
    simp only [returns, Bool.and_false]
    exact Halt.Excused.aborts ((handleOffline_spec t h hok).of_error hoff)
  | ok τ =>
    have hnew : (Except.ok τ >>= fun σ => do
        let tr ← σ.transport t
        let σ ← acceptConnection cfg t (σ.setTransport t
          (parseBanner p.payload (tr.updateVersion p.msg.arg0 p.msg.arg1)))
        updateTransports cfg σ) = handleNewConnection cfg t p σ := by
      rw [handleNewConnection, hoff]
    refine .intro (hnew ▸ handleNewConnection_spec h hok) (fun hfatal => ?_) ?_
    · simp only [Bool.and_eq_true, Bool.not_eq_true'] at hfatal
      obtain ⟨⟨⟨hlong, hhost⟩, hauth⟩, -⟩ := hfatal
      obtain ⟨tr, htr, hout⟩ := (handleOffline_spec t h hok).of_ok hoff
      obtain ⟨tr', htr', -⟩ := hout.record htr
      rw [ok_bind, transport_eq htr', ok_bind]
      unfold acceptConnection handleOnline
      simp only [hhost, hauth, Bool.false_eq_true, if_false,
        transport_eq (get_setTransport_self htr' _), ok_bind, pure_eq_ok,
        sendConnect_long (get_setTransport_self (get_setTransport_self htr' _) _) hlong, error_bind]
      exact ⟨_, rfl, rfl⟩
    · rintro e (he | ⟨-, hlong, hhost, hauth⟩)
      · exact .inl he.aborts
      · exact .inr (by simp [longBanner, hlong, hhost, hauth, returns])

private lemma handleOpen_aborts (h : Inv [] σ.socks) (hok : σ.ListenersOk)
    (hlen : p.payload.length < UInt32.size) :
    AbortsIff (openOverflows cfg t p σ) (handleOpen cfg t p σ) := by
  refine .intro (handleOpen_spec h hok hlen) (fun hfatal => ?_) ?_
  · simp only [openOverflows, Bool.and_eq_true, bne_iff_ne, ne_eq, beq_iff_eq] at hfatal
    obtain ⟨⟨⟨hany, harg0⟩, harg1⟩, hused⟩ := hfatal
    obtain ⟨tr, htr, hon⟩ := (Option.any_eq_true _ _).mp hany
    obtain ⟨⟨fd, τ⟩, hfd, hτ⟩ := returns_iff.mp hused
    simp only [Bool.and_eq_true, beq_iff_eq] at hτ
    obtain ⟨rfl, hid⟩ := hτ
    have hcreate : createLocalServiceSocket cfg (cString p.payload) t σ =
        .error (.fatal .socketIdOverflow) := by
      unfold createLocalServiceSocket
      rw [hfd, ok_bind]
      simp [Sockets.createLocalSocket_overflow hid]
    unfold handleOpen
    rw [transport_eq htr, ok_bind, if_pos (by simp [hon, harg0, harg1]), hcreate]
    exact ⟨_, rfl, rfl⟩
  · rintro e (he | ⟨-, hused⟩)
    · exact .inl he.aborts
    · exact .inr hused

private lemma handleWrte_aborts (h : Inv [] σ.socks) :
    AbortsIff (emptyWrite t p σ) (handleWrte t p σ) := by
  by_cases hempty : p.payload = []
  · have hfatal : emptyWrite t p σ = (wrteTarget t p σ).isSome := by simp [emptyWrite, hempty]
    rw [hfatal]
    refine (handleWrte_empty h hempty).mono (fun τ hτ => by rw [hτ.2]; rfl) ?_
    rintro e (⟨rfl, hnone⟩ | ⟨rfl, hsome⟩)
    · rw [hnone]
      rfl
    · rw [Option.isSome_iff_ne_none.mpr hsome]
      rfl
  · have hnot : emptyWrite t p σ = false := by simp [emptyWrite, hempty]
    rw [hnot]
    exact .of_excused (handleWrte_spec h hempty)

lemma handlePacket_aborts (hs : σ.Sound) (htr : σ.transports.get t = some tr)
    (hlen : p.payload.length = p.msg.dataLength.toNat) :
    AbortsIff (fatalPacket cfg t p (σ.emit (.handled t p))) (handlePacket cfg t p σ) := by
  let heard := σ.emit (.handled t p)
  have hheard : Ordinary [.note (.handled t p)] σ heard := .ofSocks (.single (.note _ rfl))
  have hi : Inv [] heard.socks := hheard.socks.inv hs.inv
  have hok : heard.ListenersOk := hheard.listenersOk hs.listenersOk
  have hshort : p.payload.length < UInt32.size := hlen ▸ p.msg.dataLength.toNat_lt_size
  unfold handlePacket
  rw [hlen, beq_self_eq_true, check_true, ok_bind]
  unfold dispatchPacket fatalPacket
  by_cases hcnxn : p.msg.command = A_CNXN
  · simp only [if_pos hcnxn]
    exact handleNewConnection_aborts hi hok
  by_cases hauth : p.msg.command = A_AUTH
  · simp only [if_neg hcnxn, if_pos hauth]
    exact handleAuth_aborts (σ := heard) htr
  by_cases hopen : p.msg.command = A_OPEN
  · simp only [if_neg hcnxn, if_neg hauth, if_pos hopen]
    exact handleOpen_aborts hi hok hshort
  by_cases hokay : p.msg.command = A_OKAY
  · have hwrte : p.msg.command ≠ A_WRTE := by rw [hokay]; decide
    simp only [if_neg hcnxn, if_neg hauth, if_neg hopen, if_pos hokay, if_neg hwrte]
    exact .of_dangling (handleOkay_spec hi)
  by_cases hclse : p.msg.command = A_CLSE
  · have hwrte : p.msg.command ≠ A_WRTE := by rw [hclse]; decide
    simp only [if_neg hcnxn, if_neg hauth, if_neg hopen, if_neg hokay, if_pos hclse, if_neg hwrte]
    exact .of_excused (handleClse_spec hi)
  by_cases hwrte : p.msg.command = A_WRTE
  · simp only [if_neg hcnxn, if_neg hauth, if_neg hopen, if_neg hokay, if_neg hclse, if_pos hwrte]
    exact handleWrte_aborts hi
  · simp only [if_neg hcnxn, if_neg hauth, if_neg hopen, if_neg hokay, if_neg hclse, if_neg hwrte]
    exact rfl

lemma AbortsIff.iff {x : Res Server} (h : AbortsIff c x) :
    (∀ e, x = .error e → e.aborts = false) ↔ c = false := by
  constructor
  · intro hx
    cases x with
    | ok τ => exact h
    | error e => exact (h : e.aborts = c).symm.trans (hx e rfl)
  · rintro rfl e rfl
    exact h

/-- In every reachable state, a packet with a payload of the length it says does not abort the
process if and only if it is none of those of `fatalPacket`. -/
theorem handlePacket_completes_iff (hσ : Reachable cfg σ) (os : Os)
    (htr : σ.transports.get t = some tr) (hlen : p.payload.length = p.msg.dataLength.toNat) :
    (∀ e, handlePacket cfg t p (σ.withOs os) = .error e → e.aborts = false) ↔
      fatalPacket cfg t p ((σ.withOs os).emit (.handled t p)) = false :=
  (handlePacket_aborts (hσ.sound.withOs os) htr hlen).iff

/-- The device writes to its stream. -/
theorem handlePacket_completes_write :
    ∃ σ tr, run .adb deviceStream (init []) = .ok σ ∧ σ.transports.get 0 = some tr ∧
      tr.online = true ∧ checkHeader (packetOf A_WRTE 7 1 [1]) tr = true ∧
      ∀ e, handlePacket .adb 0 (packetOf A_WRTE 7 1 [1]) (σ.withOs {}) = .error e →
        e.aborts = false := by
  have htest : returns (run .adb deviceStream (init [])) (fun σ =>
      (σ.transports.get 0).any (fun tr => tr.online && checkHeader (packetOf A_WRTE 7 1 [1]) tr) &&
        !fatalPacket .adb 0 (packetOf A_WRTE 7 1 [1])
          ((σ.withOs {}).emit (.handled 0 (packetOf A_WRTE 7 1 [1])))) = true := by decide
  obtain ⟨σ, hrun, hσ⟩ := returns_iff.mp htest
  obtain ⟨hany, hsafe⟩ := Bool.and_eq_true_iff.mp hσ
  obtain ⟨tr, htr, hon⟩ := (Option.any_eq_true _ _).mp hany
  obtain ⟨hon, hheader⟩ := Bool.and_eq_true_iff.mp hon
  exact ⟨σ, tr, hrun, htr, hon, hheader,
    (handlePacket_completes_iff ⟨[], deviceStream, hrun⟩ {} htr (by decide)).mpr
      (by simpa using hsafe)⟩

/-- The device writes nothing to its stream. -/
theorem handlePacket_aborts_empty :
    ∃ σ tr, run .adb deviceStream (init []) = .ok σ ∧ σ.transports.get 0 = some tr ∧
      tr.online = true ∧ checkHeader (packetOf A_WRTE 7 1 []) tr = true ∧
      handlePacket .adb 0 (packetOf A_WRTE 7 1 []) σ = .error (.check .appendEmpty) := by
  have htest : returns (run .adb deviceStream (init [])) (fun σ =>
      (σ.transports.get 0).any (fun tr => tr.online && checkHeader (packetOf A_WRTE 7 1 []) tr) &&
        stops (.check .appendEmpty) (handlePacket .adb 0 (packetOf A_WRTE 7 1 []) σ)) = true := by
    decide
  obtain ⟨σ, hrun, hσ⟩ := returns_iff.mp htest
  obtain ⟨hany, hstop⟩ := Bool.and_eq_true_iff.mp hσ
  obtain ⟨tr, htr, hon⟩ := (Option.any_eq_true _ _).mp hany
  obtain ⟨hon, hheader⟩ := Bool.and_eq_true_iff.mp hon
  exact ⟨σ, tr, hrun, htr, hon, hheader, stops_iff.mp hstop⟩

end Server

end Adb
