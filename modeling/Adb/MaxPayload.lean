import Adb.TransportRecords

/-!
# What `maxdata` limits

The other side announces in its `A_CNXN` how much data it takes in one packet. The number is
stored as it is, and three things depend on it: whether `connect_to_remote` can ask for a
service, how much data one `A_WRTE` carries, and how much `local_socket_flush_outgoing` reads.
-/

namespace Adb

open Lib List Store Sockets

namespace Server

open Sockets (Inv Act notes)

variable {σ τ : Server} {cfg : Config} {s r c : Ptr} {a b e : ASocket}

/-! ## Destinations that are too long -/

variable {t : TPtr}

private lemma connectToRemote_oversized {socks : Sockets} {destination : Bytes}
    (hs : socks.heap.get s = some a) (hpeer : a.peer = none) (ht : a.transport = some t)
    (hshort : destination.length + 1 < UInt32.size) (hover : oversized t destination σ = true) :
    Sockets.connectToRemote σ.transports s destination socks =
      .error (.fatal .destinationOversized) := by
  obtain ⟨tr, htr, hlong⟩ := (Option.any_eq_true _ _).mp hover
  have hsize : (UInt32.ofNat (destination ++ [0]).length).toNat = destination.length + 1 := by
    rw [length_append]
    exact UInt32.toNat_ofNat_of_lt' hshort
  have hlimit : Sockets.getMaxPayload σ.transports a socks =
      .ok (min maxPayload tr.maxPayload) := by
    simp [Sockets.getMaxPayload, Sockets.getMaxPayload.limit, ht, htr, hpeer]
  unfold Sockets.connectToRemote
  simp only [Sockets.deref_eq hs, ok_bind, hlimit, hsize]
  rw [if_pos (of_decide_eq_true hlong)]
  rfl

private lemma connectThrough_oversized {service : Bytes} (hshort : service.length + 1 < UInt32.size)
    (hcl : Client s c a e σ.socks) (hover : oversizedThrough service e.transport σ = true) :
    connectThrough service s c σ = .error (.fatal .destinationOversized) := by
  obtain ⟨t, ht, hover⟩ := (Option.any_eq_true _ _).mp hover
  obtain ⟨hon, hover⟩ := Bool.and_eq_true_iff.mp hover
  obtain ⟨tr, htr, hon⟩ := (Option.any_eq_true _ _).mp hon
  unfold connectThrough
  simp only [Sockets.deref_eq hcl.smart, ok_bind, ht, transport_eq htr, hon, if_true,
    Sockets.deref_eq hcl.client]
  rw [connectToRemote_oversized (get_set_self hcl.client _) rfl rfl hshort hover]
  rfl

private lemma smartSocketRequest_oversized {service : Bytes}
    (hshort : service.length + 1 < UInt32.size) (hcl : Client s c a e σ.socks) (hsc : c ≠ s)
    (hover : oversizedRequest cfg service e σ = true) :
    smartSocketRequest cfg service s c σ = .error (.fatal .destinationOversized) := by
  unfold oversizedRequest at hover
  unfold smartSocketRequest
  split at hover
  · next hhost =>
    obtain ⟨hdevice, hover⟩ := Bool.and_eq_true_iff.mp hover
    rw [if_pos hhost, of_decide_eq_true hdevice]
    exact connectThrough_oversized hshort hcl hover
  · next hhost =>
    rw [if_neg hhost, Sockets.deref_eq hcl.smart, ok_bind]
    cases ht : e.transport with
    | some t =>
      exact connectThrough_oversized hshort hcl (ht ▸ hover)
    | none =>
      rw [ht, Option.none_or] at hover
      obtain ⟨t, hacq, hthrough⟩ := (Option.any_eq_true _ _).mp hover
      have hput : Client s c a { e with transport := some t }
          (σ.socks.put s { e with transport := some t }) :=
        { hcl with
          smart := get_set_self hcl.smart _
          client := (get_set_of_ne _ hsc _).trans hcl.client }
      rw [← Prod.eta (acquireOneTransport cfg {} false σ), hacq]
      exact connectThrough_oversized (σ := { σ with
        socks := σ.socks.put s { e with transport := some t } }) hshort hput hthrough

private lemma smartSocketEnqueue_oversized {data : Bytes} (hcl : Client s c a e σ.socks)
    (hsc : c ≠ s) (hover : oversizedData cfg e data σ = true) :
    smartSocketEnqueue cfg s data σ = .error (.fatal .destinationOversized) := by
  obtain ⟨hlen, hover⟩ := Bool.and_eq_true_iff.mp hover
  obtain ⟨hhead, hpos, hmax, hrest⟩ := of_decide_eq_true hlen
  let buffer := e.smartSocketData ++ data
  let σ1 : Server := { σ with socks := σ.socks.put s { e with smartSocketData := buffer } }
  have hcl' : Client s c a { e with smartSocketData := buffer } σ1.socks :=
    { hcl with
      smart := get_set_self hcl.smart _
      client := (get_set_of_ne _ hsc _).trans hcl.client }
  have hover' : oversizedRequest cfg (cString ((buffer.drop 4).take (unhex buffer 4)))
      { e with smartSocketData := buffer } σ1 = true :=
    (oversizedRequest_congr (by exact rfl) (by exact rfl) (by exact rfl)).trans hover
  have hpeer : Sockets.nonNull e.peer = .ok c := by
    rw [hcl.peer]
    rfl
  unfold smartSocketEnqueue
  rw [Sockets.deref_eq hcl.smart, ok_bind]
  rw [if_neg (Nat.not_lt.mpr hhead), if_neg (by simp [hpos, hmax]),
    if_neg (Nat.not_lt.mpr hrest), hpeer, ok_bind]
  exact smartSocketRequest_oversized (length_request hmax) hcl' hsc hover'

private lemma localSocketFlushOutgoing_oversized (h : Inv [] σ.socks)
    (hs : σ.socks.heap.get s = some a) (hl : a.isLocal = true)
    (hover : oversizedRead cfg a σ = true) :
    localSocketFlushOutgoing cfg s σ = .error (.fatal .destinationOversized) := by
  obtain ⟨hdata, hpass⟩ := Bool.and_eq_true_iff.mp hover
  obtain ⟨r, hpeer, hover⟩ := (Option.any_eq_true _ _).mp hpass
  obtain ⟨b, hr, hover⟩ := (Option.any_eq_true _ _).mp hover
  obtain ⟨hsmart, hover⟩ := Bool.and_eq_true_iff.mp hover
  have hsmart : b.enqueue = .smartSocketEnqueue := beq_iff_eq.mp hsmart
  have hrs : s ≠ r := (h.paired s a r hs (by simp) hpeer).2.1.symm
  have hcl : Client r s a b σ.socks := ⟨hr, hsmart, h.peer_of_peer hs hpeer hr, hs, hl, hpeer⟩
  -- data was read, so there was a limit to read by
  obtain ⟨limit, hlimit⟩ : ∃ limit, Sockets.getMaxPayload σ.transports a σ.socks = .ok limit := by
    cases hget : Sockets.getMaxPayload σ.transports a σ.socks with
    | ok limit => exact ⟨limit, rfl⟩
    | error e => simp [wouldRead, hget] at hdata
  have hwould : σ.wouldRead a = readLoop limit [] σ.socks.os.reads := by simp [wouldRead, hlimit]
  let os : Os := { σ.socks.os with reads := (σ.wouldRead a).rest }
  let σ1 : Server :=
    { σ with socks := { σ.socks with os := os }.emit (.read s (σ.wouldRead a).data) }
  have hr1 : σ1.socks.heap.get r = some b := hr
  have henqueue : socketEnqueue cfg r (σ.wouldRead a).data σ1 =
      .error (.fatal .destinationOversized) := by
    unfold socketEnqueue
    rw [Sockets.deref_eq hr1, ok_bind, hsmart]
    exact smartSocketEnqueue_oversized { hcl with } hrs
      ((oversizedData_congr (by exact rfl) (by exact rfl)).trans hover)
  unfold localSocketFlushOutgoing
  rw [Sockets.deref_eq hs, ok_bind, hlimit, ok_bind, ← hwould]
  rw [if_neg (by simpa using hdata), hpeer]
  show (socketEnqueue cfg r (σ.wouldRead a).data σ1 >>= _) = _
  rw [henqueue]
  rfl

private lemma callback_oversized {c : Callback} (h : σ.Sound)
    (hover : oversizedCallback cfg c σ = true) :
    callback cfg c σ = .error (.fatal .destinationOversized) := by
  cases c with
  | event =>
    obtain ⟨s, hhead, hover⟩ := (Option.any_eq_true _ _).mp hover
    obtain ⟨a, hs, hover⟩ := (Option.any_eq_true _ _).mp hover
    obtain ⟨hev, hover⟩ := Bool.and_eq_true_iff.mp hover
    obtain ⟨rest, hlist⟩ := List.head?_eq_some_iff.mp hhead
    obtain ⟨a1, a', f, hd⟩ := dispatched cfg h.inv hlist
    obtain rfl : a = a1 := Option.some_inj.mp (hs.symm.trans hd.socket)
    rw [hd.fde, Option.any_some] at hev
    -- nothing is queued for the client of a smart socket
    have hwrite : ¬ f.events.write = true := fun hw => by
      obtain ⟨-, hpass⟩ := Bool.and_eq_true_iff.mp hover
      obtain ⟨r, hpeer, hpass⟩ := (Option.any_eq_true _ _).mp hpass
      obtain ⟨b, hr, hpass⟩ := (Option.any_eq_true _ _).mp hpass
      exact hd.queued h.inv hw (h.inv.idle s a r b hs (by simp) hd.isLocal hpeer hr
        (beq_iff_eq.mp (Bool.and_eq_true_iff.mp hpass).1))
    rw [callback, hd.eq, localSocketEventFunc, if_neg hwrite, readEvent, if_pos hev]
    exact localSocketFlushOutgoing_oversized (hd.ordinary.socks.inv h.inv)
      (get_set_self hs _) (hd.alike.isLocal.trans hd.isLocal)
      ((hd.alike.oversizedRead rfl hd.others).trans hover)
  | accept l =>
    obtain ⟨hid, hover⟩ := Bool.and_eq_true_iff.mp hover
    obtain ⟨listener, hfind, hover⟩ := (Option.any_eq_true _ _).mp hover
    obtain ⟨hfunc, hover⟩ := Bool.and_eq_true_iff.mp hover
    obtain ⟨t, ht, hover⟩ := (Option.any_eq_true _ _).mp hover
    have hmem : listener ∈ σ.listenerList := mem_of_find?_eq_some hfind
    have hshort : (cString listener.connectTo).length + 1 < UInt32.size :=
      Nat.lt_of_le_of_lt (Nat.add_le_add_right ( takeWhile_prefix _).length_le 1)
        (h.listenersOk.short listener hmem)
    have hnew := get_create_self σ.socks
    rw [callback, listenerEvent, hfind]
    simp only [createLocalSocket_eq (of_decide_eq_true hid), ok_bind, beq_iff_eq.mp hfunc,
      Sockets.deref_eq hnew, ht]
    rw [connectToRemote_oversized (get_set_self hnew _) rfl rfl hshort hover]
    rfl
  | _ => cases hover

/-- A step of a process does not end in `fatal("destination oversized")` exactly when no client
asks in it for a destination that the device does not accept in one packet. -/
theorem destination_fits_iff (h : Reachable cfg σ) (i : Input) :
    step cfg i σ ≠ .error (.fatal .destinationOversized) ↔
      oversizedCallback cfg i.callback (σ.withOs i.os) = false := by
  have hσ := h.sound
  rw [← Bool.not_eq_true, not_iff_not]
  constructor
  · intro hstop
    have hhalt := (step_spec i hσ).of_error hstop
    simpa [CallbackHalt, Halt.Excused] using hhalt
  intro hover
  -- the main loop may come to these callbacks at any time
  have hnow : i.callback.waits = false := by
    cases hc : i.callback with
    | event | accept => rfl
    | _ =>
      rw [hc] at hover
      cases hover
  rw [step, hnow]
  exact callback_oversized (hσ.withOs i.os) hover

def smallDevice (request : Bytes) : List Input :=
  [{ callback := .usbDevice [] [] true },
    { callback := .registration },
    { callback := .packet 0 (packetOf A_CNXN A_VERSION 8 (ascii "device::")) },
    { callback := .accept 0 },
    { callback := .poll [(0, { pollin := true })] },
    { callback := .event, os := { reads := [.data (ascii "0012host:transport-any")] } },
    { callback := .poll [(0, { pollin := true })] },
    { callback := .event, os := { reads := [.data request] } },
    { callback := .poll [(0, { pollin := true })] }]

/-- The device is asked for the service `shell:l`, which fits. -/
theorem destination_fits_shell :
    ∃ σ, run .adb (smallDevice (ascii "0007shel")) (init []) = .ok σ ∧
      step .adb { callback := .event, os := { reads := [.data (ascii "l:l")] } } σ ≠
        .error (.fatal .destinationOversized) := by
  have htest : returns (run .adb (smallDevice (ascii "0007shel")) (init [])) (fun σ =>
      !oversizedCallback .adb .event (σ.withOs { reads := [.data (ascii "l:l")] })) = true := by
    decide
  obtain ⟨σ, hrun, hσ⟩ := returns_iff.mp htest
  exact ⟨σ, hrun, (destination_fits_iff ⟨[], _, hrun⟩ _).mpr (by simpa using hσ)⟩

/-- The request for `shell:ls` stops the server. -/
theorem destination_oversized :
    ∃ σ, run .adb (smallDevice (ascii "0008shel")) (init []) = .ok σ ∧
      step .adb { callback := .event, os := { reads := [.data (ascii "l:ls")] } } σ =
        .error (.fatal .destinationOversized) := by
  have htest : returns (run .adb (smallDevice (ascii "0008shel")) (init [])) (fun σ =>
      stops (.fatal .destinationOversized)
        (step .adb { callback := .event, os := { reads := [.data (ascii "l:ls")] } } σ)) = true := by
    decide
  obtain ⟨σ, hrun, hσ⟩ := returns_iff.mp htest
  exact ⟨σ, hrun, stops_iff.mp hσ⟩

/-! ## The payload of a packet -/

def announced (t : TPtr) : Obs → Option ℕ
  | .handled u p =>
    if u = t ∧ p.msg.command = A_CNXN then some (min p.msg.arg1.toNat maxPayload) else none
  | _ => none

/-- The limit that the last `A_CNXN` handled on `t` has announced. -/
def negotiated (t : TPtr) (trace : List Obs) : ℕ := (latest (announced t) trace).getD maxPayload

/-- The packet says how much data it has, and has no more than the limit. -/
structure Bounded (limit : ℕ) (p : APacket) : Prop where
  length : p.msg.dataLength.toNat = p.payload.length
  limit : p.payload.length ≤ limit
  max : p.payload.length ≤ maxPayload

lemma announced_of_not_notable {o : Obs} (h : o.notable = false) : announced t o = none := by
  cases o with
  | handled => cases h
  | _ => rfl

lemma Noted.announced {c : Callback} {o : Obs} {n : ℕ} (h : Noted cfg c σ o)
    (hn : Server.announced t o = some n) :
    ∃ p, c = .packet t p ∧ p.msg.command = A_CNXN ∧ n = min p.msg.arg1.toNat maxPayload := by
  cases h with
  | @handled u p hc =>
    rw [Server.announced] at hn
    split at hn
    · next h =>
      obtain ⟨rfl, hp⟩ := h
      cases hn
      exact ⟨p, hc, hp, rfl⟩
    · cases hn
  | _ => cases hn

variable {l : List Act}

lemma Moves.announced_none {c : Callback} (h : Moves cfg c σ l τ)
    (hc : ¬ c.Connects t) : latest (announced t) (notes l) = none := by
  refine latest_eq_none fun o ho => ?_
  by_contra hne
  obtain ⟨n, hn⟩ := Option.ne_none_iff_exists'.mp hne
  obtain ⟨p, hp, hcnxn, -⟩ := (h.noted (mem_notes.mp ho)).announced hn
  exact hc ⟨p, hp, hcnxn⟩

lemma Moves.handled {p : APacket} (h : Moves cfg (.packet t p) σ l τ) :
    .note (.handled t p) ∈ l := by
  cases h with
  | serve hc => exact absurd rfl (hc t p)
  | _ => simp

lemma Moves.announced_some {p : APacket}
    (h : Moves cfg (.packet t p) σ l τ) (hp : p.msg.command = A_CNXN) :
    latest (announced t) (notes l) = some (min p.msg.arg1.toNat maxPayload) := by
  refine latest_eq_some (fun o ho => ?_)
    ⟨.handled t p, mem_notes.mpr h.handled, by simp [announced, hp]⟩
  cases hn : announced t o with
  | none => exact .inl rfl
  | some n =>
    obtain ⟨q, hq, -, rfl⟩ := (h.noted (mem_notes.mp ho)).announced hn
    cases hq
    exact .inr rfl

lemma Moves.connects {c : Callback} (h : Moves cfg c σ l τ) (hc : c.Connects t) :
    (∃ tr, σ.transports.get t = some tr) ∧ Sockets.Effs .none l σ.socks τ.socks := by
  obtain ⟨p, rfl, hp⟩ := hc
  cases h with
  | stream hcnxn => exact absurd hp hcnxn
  | serve hc => exact absurd rfl (hc t p)
  | cnxn _ htr h => exact ⟨⟨_, htr⟩, h.socks⟩
  | authUnknown hauth | authToken hauth | authSignature hauth | authKey hauth =>
    exact absurd hp (ne_cnxn_of_auth hauth)

/-- What has been sent was within the limits at the time. -/
def TraceBounded (trace : List Obs) : Prop :=
  ∀ pre t p post, trace = pre ++ .sent t p :: post → p.hasData = true → Bounded (negotiated t pre) p

/-- The limits of the transports are those that were announced last. -/
structure Negotiated (σ : Server) : Prop where
  limit : ∀ t tr, σ.transports.get t = some tr → tr.maxPayload = negotiated t σ.socks.trace
  fresh : ∀ t, σ.transports.next ≤ t → latest (announced t) σ.socks.trace = none
  bounded : TraceBounded σ.socks.trace

lemma TraceBounded.append {trace obs : List Obs} (h : TraceBounded trace)
    (hobs : ∀ mid t p post, obs = mid ++ .sent t p :: post → p.hasData = true →
      Bounded (negotiated t (trace ++ mid)) p) : TraceBounded (trace ++ obs) := by
  intro pre t p post heq hp
  rcases append_eq_append_iff.mp heq with ⟨mid, rfl, hmid⟩ | ⟨mid, htrace, hmid⟩
  · exact hobs mid t p post hmid hp
  cases mid with
  | nil =>
    obtain rfl : pre = trace := by simpa using htrace.symm
    simpa using hobs [] t p post hmid.symm hp
  | cons o rest =>
    obtain ⟨rfl, -⟩ := cons_eq_cons.mp hmid
    exact h pre t p rest htrace hp

lemma Negotiated.limit_le (h : Negotiated σ)
    (halive : t < σ.transports.next → ∃ tr, σ.transports.get t = some tr) :
    σ.limit t ≤ negotiated t σ.socks.trace := by
  by_cases ht : t < σ.transports.next
  · obtain ⟨tr, htr⟩ := halive ht
    simp [Server.limit, htr, h.limit t tr htr]
  · have hle := Nat.le_of_not_lt ht
    simp [Server.limit, negotiated, σ.transports.fresh t hle, h.fresh t hle]

lemma Negotiated.traceBounded {c : Callback} (h : Negotiated σ)
    (hmoves : Moves cfg c σ l τ) : TraceBounded τ.socks.trace := by
  obtain ⟨obs, htrace, hnotes, hsends⟩ := hmoves.socks.trace
  rw [htrace]
  refine h.bounded.append fun mid t p post hobs hp => ?_
  have hmem : .sent t p ∈ obs := by simp [hobs]
  by_cases hc : c.Connects t
  · -- no data is sent with the answer to a CNXN
    obtain ⟨obs', htrace', -, hnone⟩ := (hmoves.connects hc).2.trace
    rw [append_cancel_left (htrace.symm.trans htrace')] at hmem
    exact (hnone t p hmem hp).elim
  have hfits : σ.Fits t p := hsends t p hmem hp
  have hquiet : latest (announced t) mid = none := by
    refine latest_eq_none fun o ho => ?_
    by_contra hne
    obtain ⟨n, hn⟩ := Option.ne_none_iff_exists'.mp hne
    have hnotable : o.notable = true := by
      by_contra hnot
      rw [announced_of_not_notable (Bool.not_eq_true _ ▸ hnot)] at hn
      cases hn
    have hnote : o ∈ notes l := by
      rw [← hnotes]
      exact mem_filter.mpr ⟨by simp [hobs, ho], hnotable⟩
    obtain ⟨q, hq, hcnxn, -⟩ := (hmoves.noted (mem_notes.mp hnote)).announced hn
    exact hc ⟨q, hq, hcnxn⟩
  have hsame : negotiated t (σ.socks.trace ++ mid) = negotiated t σ.socks.trace := by
    rw [negotiated, latest_append, hquiet, Option.none_or, negotiated]
  rw [hsame]
  exact ⟨hfits.length, hfits.limit.trans (h.limit_le hfits.alive), hfits.max⟩

lemma Negotiated.moves {c : Callback} (h : Negotiated σ)
    (hmoves : Moves cfg c σ l τ) : Negotiated τ where
  limit u tr' hu := by
    rw [negotiated, hmoves.latest_eq fun o => announced_of_not_notable]
    rcases hmoves.change hu with ⟨tr, htr, hchange⟩ | ⟨hc, hle, hnew⟩
    · have hsame (hc : ¬ c.Connects u) (hmax : tr'.maxPayload = tr.maxPayload) :
          tr'.maxPayload = ((latest (announced u) (notes l)).or
            (latest (announced u) σ.socks.trace)).getD maxPayload := by
        rw [hmoves.announced_none hc, hmax]
        exact h.limit u tr htr
      cases hchange with
      | same hc _ _ hmax => exact hsame hc hmax
      | cnxn hc hp hrec =>
        subst hc
        rw [hmoves.announced_some hp]
        exact hrec.maxPayload
      | authUnknown hc hp _ _ _ hmax =>
        subst hc
        exact hsame (not_connects_packet (ne_cnxn_of_auth hp)) hmax
      | authToken hc _ hrec => exact hsame hc hrec.maxPayload
      | verified hv _ _ _ hmax => exact hsame hv.not_connects hmax
      | offline hc _ _ hmax => exact hsame (not_connects_of_ne (by simp [hc])) hmax
    · rw [hmoves.announced_none hc, h.fresh u hle]
      exact hnew.maxPayload
  fresh u hu := by
    have hle : σ.transports.next ≤ u := hmoves.next_le.trans hu
    have hc : ¬ c.Connects u := fun hc => by
      obtain ⟨⟨tr, htr⟩, -⟩ := hmoves.connects hc
      exact absurd (lt_next htr) (Nat.not_lt.mpr hle)
    rw [hmoves.latest_eq fun o => announced_of_not_notable, hmoves.announced_none hc,
      Option.none_or, h.fresh u hle]
  bounded := h.traceBounded hmoves

lemma Reachable.negotiated (h : Reachable cfg σ) : Negotiated σ := by
  obtain ⟨name, inputs, hrun⟩ := h
  refine (run_invariant ?_ (sound_init name) ?_
    (.of_forall (fun _ _ => trivial) _ _) hrun).2
  · intro σ i l τ _ hσ _ hstep
    cases hstep with
    | skipped => exact hσ
    | moved hmoves => exact Negotiated.moves (σ := σ.withOs i.os) { hσ with } hmoves
  · exact ⟨by simp [init], by simp [init], by simp [init, TraceBounded]⟩

/-- Every packet with data that has been sent says how much data it has, and has no more than the
last `A_CNXN` before it on its transport has announced; the same holds of what any socket would
read and pass on to `remote_socket_enqueue` now, which therefore never refuses it. -/
theorem payload_bounded (h : Reachable cfg σ) :
    TraceBounded σ.socks.trace ∧ ∀ s a os, σ.socks.heap.get s = some a →
        ((σ.withOs os).wouldRead a).data.length ≤ maxPayload ∧
          ∀ r b t, a.peer = some r → σ.socks.heap.get r = some b → b.transport = some t →
            ((σ.withOs os).wouldRead a).data.length ≤ negotiated t σ.socks.trace := by
  refine ⟨h.negotiated.bounded, fun s a os hs => ?_⟩
  have hspec := getMaxPayload_spec (h.sound.withOs os).inv hs
  unfold wouldRead
  cases hget : Sockets.getMaxPayload (σ.withOs os).transports a (σ.withOs os).socks with
  | error e => exact ⟨Nat.zero_le _, fun _ _ _ _ _ _ => Nat.zero_le _⟩
  | ok limit =>
    obtain ⟨hmax, hpeers⟩ := hspec.of_ok hget
    have hroom : (readLoop limit [] os.reads).data.length ≤ limit := by
      simpa using readLoop_length limit [] os.reads
    refine ⟨hroom.trans hmax, fun r b t hr hb ht => ?_⟩
    obtain ⟨halive, hlimit⟩ := hpeers r b t hr hb ht
    exact (hroom.trans hlimit).trans (h.negotiated.limit_le fun _ => halive)

def smallHost : List Input :=
  [{ callback := .usbDevice [] [] true },
    { callback := .registration },
    { callback := .packet 0 (packetOf A_CNXN A_VERSION 4 (ascii "host::")) },
    { callback := .packet 0 (packetOf A_OPEN 7 0 (ascii "tcp:1")), os := { service := true } },
    { callback := .poll [(0, { pollin := true })] },
    { callback := .event, os := { reads := [.data (ascii "output")] } }]

theorem payload_bounded_small :
    ∃ σ pre t p, run { Config.adbd with authRequired := false } smallHost (init []) = .ok σ ∧
      σ.socks.trace = pre ++ [.sent t p] ∧ p.payload = ascii "outp" ∧
      Bounded (negotiated t pre) p := by
  have htest : returns (run { Config.adbd with authRequired := false } smallHost (init []))
      (fun σ => σ.socks.trace.getLast?.any fun o => (o.sentOn 0).any fun p =>
        p.hasData && p.payload == ascii "outp") = true := by decide
  obtain ⟨σ, hrun, hσ⟩ := returns_iff.mp htest
  obtain ⟨o, hlast, ho⟩ := (Option.any_eq_true _ _).mp hσ
  obtain ⟨pre, htrace⟩ := List.getLast?_eq_some_iff.mp hlast
  obtain ⟨p, hsent, hp⟩ := (Option.any_eq_true _ _).mp ho
  obtain ⟨hp, hpayload⟩ := Bool.and_eq_true_iff.mp hp
  rw [Obs.sentOn_eq_some.mp hsent] at htrace
  exact ⟨σ, pre, 0, p, hrun, htrace, beq_iff_eq.mp hpayload,
    (payload_bounded ⟨[], smallHost, hrun⟩).1 pre 0 p [] htrace hp⟩

/-! ## Progress -/

/-- The event on `s` has led to something: data was read from its fd, or `s` no longer waits for
data, or it is closed. -/
inductive Progress (s : Ptr) (σ τ : Server) : Prop
  | consumed {obs : List Obs} {data : Bytes} (h : τ.socks.trace = σ.socks.trace ++ obs)
      (hread : .read s data ∈ obs) (hdata : data ≠ [])
  | disabled {a : ASocket} (hs : τ.socks.heap.get s = some a) (h : a.wantsRead = false)
  | closed (h : ∀ a, τ.socks.heap.get s = some a → a.closing = true)

/-- The socket waits for data and has a peer, and the next event says that there is data. -/
def readsNext (s : Ptr) (a : ASocket) (σ : Server) : Bool :=
  σ.socks.gPendingList.head? == some s && a.fde.any (fun f => f.events.read) && a.wantsRead &&
    a.peer.isSome

structure ReadsNext (s : Ptr) (a : ASocket) (σ : Server) : Prop where
  socket : σ.socks.heap.get s = some a
  next : σ.readsNext s a = true

private lemma readLoop_keeps {data : Bytes} (hdata : data ≠ []) (avail : ℕ)
    (reads : List ReadResult) : (readLoop avail data reads).data ≠ [] := by
  induction reads generalizing avail data with
  | nil => exact hdata
  | cons r rest ih =>
    unfold readLoop
    split
    · exact hdata
    cases r with
    | data bs =>
      dsimp only
      split
      · exact hdata
      · exact ih (by simp [hdata]) _
    | eagain | eof | error => exact hdata

variable {more : List ReadResult}

private lemma readLoop_data {n : ℕ} {bs : Bytes} (hn : n ≠ 0)
    (hbs : bs ≠ []) : (readLoop n [] (.data bs :: more)).data ≠ [] := by
  have hsome : bs.take n ≠ [] := by simp [hn, hbs]
  unfold readLoop
  rw [if_neg hn]
  dsimp only
  rw [if_neg (by simpa using hsome)]
  exact readLoop_keeps (by simpa using hsome) _ _

private lemma readEvent_progress {ρ : Server} {ev : Events} {bs : Bytes} (h : Inv [] ρ.socks)
    (hok : ρ.ListenersOk) (hs : ρ.socks.heap.get s = some a) (hl : a.isLocal = true)
    (hwants : a.wantsRead = true) (hpeer : a.peer = some r) (hread : ev.read = true) (hbs : bs ≠ [])
    (hreads : ρ.socks.os.reads = .data bs :: more) (hunread : Sockets.Unread σ.socks ρ.socks) :
    Sat (readEvent cfg s ev ρ)
      (fun τ => Progress s σ τ ↔ Sockets.getMaxPayload ρ.transports a ρ.socks ≠ .ok 0)
      (fun _ => True) := by
  have hc : a.closing = false := h.not_closing_of_peer hs hpeer
  obtain ⟨obs, htrace, hobs⟩ := hunread
  unfold readEvent
  rw [if_pos hread]
  cases hlimit : Sockets.getMaxPayload ρ.transports a ρ.socks with
  | error e =>
    unfold localSocketFlushOutgoing
    rw [Sockets.deref_eq hs, ok_bind, hlimit]
    trivial
  | ok n =>
    by_cases hn : n = 0
    · -- the read loop is not entered
      subst hn
      unfold localSocketFlushOutgoing
      rw [Sockets.deref_eq hs, ok_bind, hlimit, hreads]
      simp only [readLoop, if_true, isEmpty_nil, closeOnEof, Bool.false_eq_true, if_false,
        pure_eq_ok, sat_ok]
      refine iff_of_false ?_ (by simp)
      rintro (⟨htrace', hmem, -⟩ | ⟨hs', hoff⟩ | hclosed)
      · rw [append_cancel_left (htrace'.symm.trans htrace)] at hmem
        exact hobs s _ hmem
      · obtain rfl := Option.some_inj.mp (hs.symm.trans hs')
        rw [hwants] at hoff
        cases hoff
      · have hclosing := hclosed a hs
        rw [hc] at hclosing
        cases hclosing
    · have hwould : ρ.wouldRead a = readLoop n [] (.data bs :: more) := by
        simp [wouldRead, hlimit, hreads]
      have hdata : (ρ.wouldRead a).data ≠ [] := hwould ▸ readLoop_data hn hbs
      refine (localSocketFlushOutgoing_spec h hok hs hl).mono ?_ fun _ _ => trivial
      intro τ hτ
      obtain ⟨rest, hrest⟩ := hτ.read hdata
      have hall : τ.socks.trace =
          σ.socks.trace ++ (obs ++ .read s (ρ.wouldRead a).data :: rest) := by
        rw [← hrest, htrace]
        simp
      exact iff_of_true (.consumed hall (by simp) hdata) (by simpa using hn)

/-- A read event on a socket that waits for data, has a peer and has bytes to read leads to
something exactly when the limit on what is read is not 0, that is, when neither the transport of
the socket nor that of its peer has announced a `maxdata` of 0. -/
theorem event_progress_iff (h : Reachable cfg σ) {os : Os} {bs : Bytes} {more : List ReadResult}
    (hnext : ReadsNext s a σ) (hreads : os.reads = .data bs :: more) (hbs : bs ≠ [])
    (hstep : step cfg { callback := .event, os := os } σ = .ok τ) :
    Progress s σ τ ↔ Sockets.getMaxPayload σ.transports a σ.socks ≠ .ok 0 := by
  have hσ := h.sound.withOs os
  obtain ⟨hs, hnext⟩ := hnext
  simp only [readsNext, Bool.and_eq_true, beq_iff_eq, Option.any_eq_true,
    Option.isSome_iff_exists] at hnext
  obtain ⟨⟨⟨hhead, f, hf, hread⟩, hwants⟩, r, hpeer⟩ := hnext
  obtain ⟨rest, hlist⟩ := List.head?_eq_some_iff.mp hhead
  obtain ⟨a0, a', f0, hd⟩ := dispatched cfg hσ.inv hlist
  obtain rfl : a = a0 := Option.some_inj.mp (hs.symm.trans hd.socket)
  obtain rfl : f = f0 := Option.some_inj.mp (hf.symm.trans hd.fde)
  have hcall : fdeventCallFdfunc cfg (σ.withOs os) = .ok τ := hstep
  rw [hd.eq] at hcall
  let ρ : Server := { σ.withOs os with socks := (σ.withOs os).socks.write s a' }
  have hs' : ρ.socks.heap.get s = some a' := get_set_self hs _
  have hρ : Inv [] ρ.socks := hd.ordinary.socks.inv hσ.inv
  have hl' : a'.isLocal = true := hd.alike.isLocal.trans hd.isLocal
  have hpeer' : a'.peer = some r := hd.alike.peer.trans hpeer
  have hwants' : a'.wantsRead = true := hd.alike.wantsRead.trans hwants
  have hunread : Sockets.Unread σ.socks ρ.socks := .of_trace_eq (by simp [ρ, withOs])
  have hlimit : Sockets.getMaxPayload ρ.transports a' ρ.socks =
      Sockets.getMaxPayload σ.transports a σ.socks :=
    getMaxPayload_congr σ.transports hd.alike.transport hd.alike.peer
      fun r hr => congrArg _ (hd.others r hr)
  refine Sat.of_ok (Q := fun τ => Progress s σ τ ↔
    Sockets.getMaxPayload σ.transports a σ.socks ≠ .ok 0)
    (localSocketEventFunc_rule hρ hs' hl'
    hd.write (fun _ _ => trivial)
    (fun τ hc _ => ?_) (fun _ => ?_) fun a1 τ _ hpart => ?_) hcall
  · rw [hρ.not_closing_of_peer hs' hpeer'] at hc
    cases hc
  · rw [← hlimit]
    exact readEvent_progress hρ (hd.ordinary.listenersOk hσ.listenersOk) hs' hl' hwants' hpeer'
      hread hbs hreads hunread
  have hlimit1 : Sockets.getMaxPayload τ.transports a1 τ.socks =
      Sockets.getMaxPayload ρ.transports a' ρ.socks := by
    rw [hpart.alike.transports]
    refine getMaxPayload_congr ρ.transports hpart.alike.transport hpart.alike.peer fun q hq => ?_
    obtain ⟨-, -, b, hb, -⟩ := hρ.paired s a' q hs' (by simp) hq
    obtain ⟨b', hb', -, ht⟩ := hpart.peer q b hq hb
    rw [hb', hb, Option.map_some, Option.map_some, ht]
  rw [← hlimit, ← hlimit1]
  exact readEvent_progress (hpart.ordinary.socks.inv hρ)
    (hpart.ordinary.listenersOk (hd.ordinary.listenersOk hσ.listenersOk)) hpart.socket
    (hpart.alike.isLocal.trans hl') (hpart.alike.wantsRead.trans hwants')
    (hpart.alike.peer.trans hpeer') hread hbs (hpart.alike.reads.trans hreads)
    (hunread.trans hpart.unread)

def chosenDevice (maxdata : UInt32) : List Input :=
  [{ callback := .usbDevice [] [] true },
    { callback := .registration },
    { callback := .packet 0 (packetOf A_CNXN A_VERSION maxdata (ascii "device::")) },
    { callback := .accept 0 },
    { callback := .poll [(0, { pollin := true })] },
    { callback := .event, os := { reads := [.data (ascii "0012host:transport-any")] } },
    { callback := .poll [(0, { pollin := true })] }]

/-- The client of a device that takes 8 bytes is served. -/
theorem event_progress_chosen :
    ∃ σ τ a, run .adb (chosenDevice 8) (init []) = .ok σ ∧ ReadsNext 0 a σ ∧
      step .adb { callback := .event, os := { reads := [.data (ascii "0005sync:")] } } σ = .ok τ ∧
      Progress 0 σ τ := by
  have htest : returns (run .adb (chosenDevice 8) (init [])) (fun σ =>
      ((σ.socks.heap.get 0).any fun a => σ.readsNext 0 a &&
        !returns (Sockets.getMaxPayload σ.transports a σ.socks) (· == 0)) &&
      returns (step .adb { callback := .event, os := { reads := [.data (ascii "0005sync:")] } } σ)
        fun _ => true) = true := by decide
  obtain ⟨σ, hrun, hσ⟩ := returns_iff.mp htest
  obtain ⟨ha, hstep⟩ := Bool.and_eq_true_iff.mp hσ
  obtain ⟨a, hs, ha⟩ := (Option.any_eq_true _ _).mp ha
  obtain ⟨hnext, hlimit⟩ := Bool.and_eq_true_iff.mp ha
  obtain ⟨τ, hτ, -⟩ := returns_iff.mp hstep
  have hnext : ReadsNext 0 a σ := ⟨hs, hnext⟩
  refine ⟨σ, τ, a, hrun, hnext, hτ,
    (event_progress_iff ⟨[], _, hrun⟩ hnext rfl (by decide) hτ).mpr fun h => ?_⟩
  rw [h] at hlimit
  cases hlimit

/-- The client of a device that has announced a `maxdata` of 0 is not: its event comes again and
again. -/
theorem event_spins :
    ∃ σ τ a, run .adb (chosenDevice 0) (init []) = .ok σ ∧ ReadsNext 0 a σ ∧
      step .adb { callback := .event, os := { reads := [.data (ascii "0005sync:")] } } σ = .ok τ ∧
      ¬ Progress 0 σ τ := by
  have htest : returns (run .adb (chosenDevice 0) (init [])) (fun σ =>
      ((σ.socks.heap.get 0).any fun a => σ.readsNext 0 a) &&
      returns (step .adb { callback := .event, os := { reads := [.data (ascii "0005sync:")] } } σ)
        fun τ => decide (τ.socks.trace = σ.socks.trace) &&
          (τ.socks.heap.get 0).any fun a => a.wantsRead && !a.closing) = true := by decide
  obtain ⟨σ, hrun, hσ⟩ := returns_iff.mp htest
  obtain ⟨ha, hstep⟩ := Bool.and_eq_true_iff.mp hσ
  obtain ⟨a, hs, hnext⟩ := (Option.any_eq_true _ _).mp ha
  obtain ⟨τ, hτ, hafter⟩ := returns_iff.mp hstep
  obtain ⟨htrace, hafter⟩ := Bool.and_eq_true_iff.mp hafter
  obtain ⟨b, hb, hafter⟩ := (Option.any_eq_true _ _).mp hafter
  obtain ⟨hwants, hopen⟩ := Bool.and_eq_true_iff.mp hafter
  refine ⟨σ, τ, a, hrun, ⟨hs, hnext⟩, hτ, ?_⟩
  rintro (⟨hobs, hmem, -⟩ | ⟨hs', hoff⟩ | hclosed)
  · rw [of_decide_eq_true htrace, self_eq_append_right] at hobs
    rw [hobs] at hmem
    cases hmem
  · obtain rfl := Option.some_inj.mp (hb.symm.trans hs')
    rw [hwants] at hoff
    cases hoff
  · rw [hclosed b hb] at hopen
    cases hopen

end Server

end Adb
