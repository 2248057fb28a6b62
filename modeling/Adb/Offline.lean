import Adb.TransportRecords

/-!
# Offline means detached

After `handle_offline` nothing is attached to the transport until it is online again. Two branches go
past it: an `A_AUTH` of an unknown type sets the state first, and `adbd_auth_verified` sets the flag
whatever the state is. `orderly` excludes what goes wrong there.
-/

namespace Adb

open Lib

namespace Server

open Sockets (Act)

variable {σ τ : Server} {cfg : Config} {c : Callback} {l : List Act} {t u : TPtr}
  {tr tr' : ATransport}

structure Unused (σ : Server) (t : TPtr) : Prop where
  clear : Sockets.Clear t σ.socks
  not_attachable : ¬ σ.Attachable t

/-- Every transport that is offline is unused, and so is every address not yet given to a
transport. -/
structure OfflineUnused (σ : Server) : Prop where
  offline : ∀ t tr, σ.transports.get t = some tr → tr.connectionState = .kCsOffline → σ.Unused t
  fresh : ∀ t, σ.transports.next ≤ t → Sockets.Clear t σ.socks

/-- No socket of `local_socket_list` and no listener belongs to `t`, which is not online. -/
def idle (σ : Server) (t : TPtr) (tr : ATransport) : Bool :=
  !tr.online && σ.socks.localSocketList.all (fun s => !Sockets.attached t s σ.socks) &&
    σ.listenerList.all (·.transport ≠ some t)

/-- The step does not set a transport to offline that is in use, and does not put a transport
online that is offline. -/
def orderly (cfg : Config) (σ : Server) (i : Input) : Bool :=
  match i.callback with
  | .packet t p =>
    (σ.transports.get t).all fun tr =>
      p.msg.command ≠ A_AUTH ||
        (!unknownAuth cfg p || tr.connectionState = .kCsOffline || σ.idle t tr) &&
        (cfg.host || p.msg.arg0 ≠ ADB_AUTH_SIGNATURE ||
          !adbdAuthVerify cfg tr.token p.payload (σ.withOs i.os) ||
          tr.connectionState ≠ .kCsOffline)
  | .frameworkReply response =>
    cfg.host || response.take 2 ≠ ascii "OK" || σ.usbTransport.all fun t =>
      (σ.transports.get t).all (·.connectionState ≠ .kCsOffline)
  | _ => true

/-! ## One step -/

lemma Unused.moves (hu : σ.Unused t) (h : Moves cfg c σ l τ) :
    Sockets.Clear t τ.socks ∧ ∀ x ∈ τ.listenerList, x.transport ≠ some t :=
  ⟨h.socks.origin.clear hu.not_attachable hu.clear,
    fun _ hx hxt => hu.not_attachable (h.listeners hx hxt)⟩

lemma Unused.of_record (htr : σ.transports.get t = some tr) (hon : tr.online = false)
    (hst : connectionStateIsOnline tr.connectionState = false) (hclear : Sockets.Clear t σ.socks)
    (hlisteners : ∀ x ∈ σ.listenerList, x.transport ≠ some t) : σ.Unused t := by
  refine ⟨hclear, ?_⟩
  rintro (⟨tr', htr', h⟩ | ⟨x, hx, hxt⟩)
  · rw [htr] at htr'
    cases htr'
    simp [hon, hst] at h
  · exact hlisteners x hx hxt

lemma Unused.online (h : σ.Unused t) (htr : σ.transports.get t = some tr) : tr.online = false := by
  by_contra hon
  exact h.not_attachable (.inl ⟨tr, htr, .inl (by simpa using hon)⟩)

lemma OfflineUnused.unused_of_fresh (h : OfflineUnused σ) (hs : σ.Sound)
    (ht : σ.transports.next ≤ t) : σ.Unused t := by
  refine ⟨h.fresh t ht, ?_⟩
  rintro (⟨tr, htr, -⟩ | ⟨x, hx, hxt⟩)
  · exact absurd (Store.lt_next htr) (Nat.not_lt.mpr ht)
  · exact absurd (hs.listenersOk.known x hx t hxt) (Nat.not_lt.mpr ht)

lemma idle_iff : σ.idle t tr = true ↔ tr.online = false ∧ Sockets.Detached t σ.socks ∧
    ∀ x ∈ σ.listenerList, x.transport ≠ some t := by
  simp [idle, Sockets.Detached, and_assoc]

variable {i : Input}

private lemma orderly_unknown {p : APacket} (h : orderly cfg σ i = true)
    (hi : i.callback = .packet t p) (htr : σ.transports.get t = some tr)
    (hp : p.msg.command = A_AUTH) (hunknown : unknownAuth cfg p = true) :
    tr.connectionState = .kCsOffline ∨ σ.idle t tr = true := by
  unfold orderly at h
  simp only [hi, htr, Option.all_some, hp, hunknown, ne_eq, not_true_eq_false, decide_false,
    Bool.false_or, Bool.not_true, Bool.and_eq_true, Bool.or_eq_true, decide_eq_true_eq] at h
  exact h.1

private lemma orderly_verified (h : orderly cfg σ i = true)
    (hv : Verifies cfg (σ.withOs i.os) t tr i.callback) (htr : σ.transports.get t = some tr) :
    tr.connectionState ≠ .kCsOffline := by
  unfold orderly at h
  generalize hc : i.callback = c at h hv
  cases hv with
  | signature hhost hp harg hkey =>
    simp only [htr, Option.all_some, hp, hhost, harg, hkey, ne_eq, not_true_eq_false, decide_false,
      Bool.false_or, Bool.not_true, Bool.and_eq_true, decide_not, Bool.not_eq_true',
      decide_eq_false_iff_not] at h
    exact h.2
  | framework hhost hreply hwaits =>
    have hwaits : σ.usbTransport = some t := hwaits
    simpa [hhost, hreply, hwaits, htr] using h

lemma OfflineUnused.step (h : OfflineUnused σ) (hs : σ.Sound)
    (horderly : orderly cfg σ i = true) (hstep : StepOutcome cfg i σ l τ) : OfflineUnused τ := by
  cases hstep with
  | skipped => exact h
  | moved hmove =>
    have hfresh : ∀ t, σ.transports.next ≤ t → (σ.withOs i.os).Unused t := fun t ht =>
      let hu := h.unused_of_fresh hs ht
      ⟨hu.clear, hu.not_attachable⟩
    refine ⟨fun t tr' htr' hoff => ?_, fun t ht => ?_⟩
    · have hstate : connectionStateIsOnline tr'.connectionState = false := by rw [hoff]; rfl
      -- `t` is still unused if it was before the step and is not put online
      have hkeep (hu : (σ.withOs i.os).Unused t) (hon : tr'.online = false) : τ.Unused t :=
        let hkept := hu.moves hmove
        .of_record htr' hon hstate hkept.1 hkept.2
      have hbefore {tr : ATransport} (htr : σ.transports.get t = some tr)
          (hst : tr.connectionState = .kCsOffline) : (σ.withOs i.os).Unused t :=
        let hu := h.offline t tr htr hst
        ⟨hu.clear, hu.not_attachable⟩
      rcases hmove.change htr' with ⟨tr, htr, hchange⟩ | ⟨-, hn, hnew⟩
      · have htr : σ.transports.get t = some tr := htr
        cases hchange with
        | same _ hst hon =>
          have hu := hbefore htr (hst ▸ hoff)
          exact hkeep hu (hon.trans (hu.online htr))
        | cnxn _ _ hrec =>
          rw [hrec.state] at hstate
          cases hstate
        | authUnknown hc hp hunknown _ hon _ hheap hlisteners =>
          rcases orderly_unknown horderly hc htr hp hunknown with hst | hidle
          · have hu := hbefore htr hst
            exact hkeep hu (hon.trans (hu.online htr))
          obtain ⟨hflag, hdet, hls⟩ := idle_iff.mp hidle
          have hclear : Sockets.Clear t σ.socks := hdet.clear hs.inv
          exact .of_record htr' (hon.trans hflag) hstate
            (fun p a hp => hclear p a (by rw [hheap] at hp; exact hp)) (by rw [hlisteners]; exact hls)
        | authToken _ _ hrec =>
          rcases hrec.not_connected with hst | hst <;> rw [hst] at hoff <;> cases hoff
        | verified hv _ hst => exact absurd (hst ▸ hoff) (orderly_verified horderly hv htr)
        | offline _ _ hon _ hclear hlisteners => exact .of_record htr' hon hstate hclear hlisteners
      · exact hkeep (hfresh t hn) hnew.online
    · exact ((hfresh t (hmove.next_le.trans ht)).moves hmove).1

lemma offlineUnused_init {name : Bytes} : OfflineUnused (init name) where
  offline := by simp [init]
  fresh := by simp [init, Sockets.Clear]

/-! ## Runs -/

/-- In every run of orderly steps, a transport that is offline is not online, and no socket of
`local_socket_list` belongs to it. -/
theorem offline_detached {name : Bytes} {inputs : List Input}
    (hC : Meets (Server.step cfg) (fun σ i => orderly cfg σ i = true) inputs (init name))
    (hrun : run cfg inputs (init name) = .ok σ) (htr : σ.transports.get t = some tr)
    (hoff : tr.connectionState = .kCsOffline) :
    tr.online = false ∧ ∀ s ∈ σ.socks.localSocketList, Sockets.attached t s σ.socks = false := by
  obtain ⟨hs, h⟩ := run_invariant (I := OfflineUnused)
    (fun σ i l τ hs h ho hstep => h.step hs ho hstep) (sound_init name) offlineUnused_init
    hC hrun
  have hu := h.offline t tr htr hoff
  exact ⟨hu.online htr, hu.clear.detached hs.inv⟩

def deviceStream : List Input :=
  [{ callback := .usbDevice [] [] true },
    { callback := .registration },
    { callback := .packet 0 (packetOf A_CNXN A_VERSION 4096 (ascii "device::")) },
    { callback := .packet 0 (packetOf A_OPEN 7 0 (ascii "tcp:1")), os := { service := true } }]

/-- The connection breaks, and the transport goes offline with all that is attached to it. -/
theorem offline_detached_error :
    ∃ σ tr, run .adb (deviceStream ++ [{ callback := .error 0 }]) (init []) = .ok σ ∧
      σ.transports.get 0 = some tr ∧ tr.connectionState = .kCsOffline ∧ tr.online = false ∧
      ∀ s ∈ σ.socks.localSocketList, Sockets.attached 0 s σ.socks = false := by
  have htest : returns (run .adb (deviceStream ++ [{ callback := .error 0 }]) (init []))
      (fun σ => (σ.transports.get 0).any (·.connectionState = .kCsOffline)) = true := by decide
  have hC : Meets (Server.step .adb) (fun σ i => orderly .adb σ i = true)
      (deviceStream ++ [{ callback := .error 0 }]) (init []) := by decide
  obtain ⟨σ, hrun, hany⟩ := returns_iff.mp htest
  obtain ⟨tr, htr, hoff⟩ := (Option.any_eq_true _ _).mp hany
  have hoff : tr.connectionState = .kCsOffline := by simpa using hoff
  exact ⟨σ, tr, hrun, htr, hoff, offline_detached hC hrun htr hoff⟩

/-- The device sends an `A_AUTH` of a type that there is not. The transport is offline then, and
online, and its stream is open. -/
theorem offline_attached :
    ∃ σ tr, run .adb (deviceStream ++ [{ callback := .packet 0 (packetOf A_AUTH 4 0) }])
        (init []) = .ok σ ∧
      σ.transports.get 0 = some tr ∧ tr.connectionState = .kCsOffline ∧ tr.online = true ∧
      ∃ s ∈ σ.socks.localSocketList, Sockets.attached 0 s σ.socks = true := by
  have htest : returns (run .adb (deviceStream ++ [{ callback := .packet 0 (packetOf A_AUTH 4 0) }])
      (init [])) (fun σ => (σ.transports.get 0).any (fun tr =>
        tr.connectionState = .kCsOffline && tr.online) &&
          σ.socks.localSocketList.any fun s => Sockets.attached 0 s σ.socks) = true := by decide
  obtain ⟨σ, hrun, hσ⟩ := returns_iff.mp htest
  obtain ⟨hany, hlist⟩ := Bool.and_eq_true_iff.mp hσ
  obtain ⟨tr, htr, hoff⟩ := (Option.any_eq_true _ _).mp hany
  simp only [Bool.and_eq_true, decide_eq_true_eq] at hoff
  exact ⟨σ, tr, hrun, htr, hoff.1, hoff.2, List.any_eq_true.mp hlist⟩

end Server

end Adb
