import Adb.SmartSocketTheorems

/-!
# Events

`fdevent_process` and the callbacks of fdevents. An event on the fd of a socket is an ordinary
step. Its labels say when it does something nobody asked for: `fdevent_process` reports a
hang-up as `FDE_READ`, whatever the interest of the socket is.
-/

namespace Adb

open Lib List Store Sockets

namespace Server

open Sockets (Inv Effs)

variable {σ τ : Server} {s r : Ptr} {a b : ASocket} {cfg : Config}

/-! ## Reading -/

lemma readLoop_length (avail : ℕ) (data : Bytes) (reads : List ReadResult) :
    (readLoop avail data reads).data.length ≤ data.length + avail := by
  induction reads generalizing avail data with
  | nil => simp [readLoop]
  | cons r rest ih =>
    unfold readLoop
    split
    · simp
    cases r with
    | data bs =>
      dsimp only
      split
      · simp
      have hrec := ih (avail - (bs.take avail).length) (data ++ bs.take avail)
      simp only [length_append, length_take] at hrec ⊢
      omega
    | eagain => simp
    | eof => simp
    | error => simp

private lemma limit_spec (σ : Server) (o : Option TPtr) :
    Sat (Sockets.getMaxPayload.limit σ.transports o) (fun n => n ≤ maxPayload ∧ ∀ t, o = some t →
        (∃ tr, σ.transports.get t = some tr) ∧ n ≤ σ.limit t) (· = .dangling) := by
  unfold Sockets.getMaxPayload.limit
  cases o with
  | none => exact ⟨Nat.le_refl maxPayload, fun t ht => by cases ht⟩
  | some t =>
    dsimp only
    cases htr : σ.transports.get t with
    | none => rfl
    | some tr =>
      refine ⟨Nat.min_le_left _ _, fun u hu => ?_⟩
      cases hu
      exact ⟨⟨tr, htr⟩, by simp [limit, htr]⟩

lemma getMaxPayload_spec (h : Inv [] σ.socks) (hs : σ.socks.heap.get s = some a) :
    Sat (Sockets.getMaxPayload σ.transports a σ.socks)
      (fun n => n ≤ maxPayload ∧ ∀ r b t, a.peer = some r → σ.socks.heap.get r = some b →
        b.transport = some t → (∃ tr, σ.transports.get t = some tr) ∧ n ≤ σ.limit t)
      (· = .dangling) := by
  refine (limit_spec σ a.transport).bind fun own hown => ?_
  cases hpeer : a.peer with
  | none => exact ⟨hown.1, fun r b t hr => by cases hr⟩
  | some r =>
    obtain ⟨-, -, b, hr, -⟩ := h.paired s a r hs (by simp) hpeer
    simp only [Sockets.deref_eq hr, ok_bind]
    refine (limit_spec σ b.transport).bind fun other hother => ?_
    refine ⟨(Nat.min_le_left _ _).trans hown.1, fun r' c t hr' hc ht => ?_⟩
    cases hr'
    rw [hr] at hc
    cases hc
    obtain ⟨halive, hlimit⟩ := hother.2 t ht
    exact ⟨halive, (Nat.min_le_right _ _).trans hlimit⟩

def wouldRead (a : ASocket) (σ : Server) : ReadLoop :=
  match Sockets.getMaxPayload σ.transports a σ.socks with
  | .ok limit => readLoop limit [] σ.socks.os.reads
  | .error _ => {}

/-- The labels of a read event on `s`: data is read while the other side has not answered yet, or
while `FDE_READ` is off and the other side is not ready, or a closing socket is given up at the
end of the file. -/
def ReadAct (s : Ptr) (a : ASocket) (σ : Server) : Sockets.Act → Prop
  | .discard s' data => s' = s ∧ a.closing = false ∧ a.peer = none ∧
      data = (σ.wouldRead a).data ∧ data ≠ []
  | .unasked s' => s' = s ∧ a.wantsRead = false ∧ (σ.wouldRead a).data ≠ [] ∧
      ∃ r b, a.peer = some r ∧ σ.socks.heap.get r = some b ∧ b.isRemote = true
  | .abandon s' => s' = s ∧ a.closing = true ∧ (σ.wouldRead a).isEof = true
  | _ => False

/-! ## Passing data on -/

def HasRead (s : Ptr) (data : Bytes) (σ τ : Server) : Prop :=
  σ.socks.trace ++ [.read s data] <+: τ.socks.trace

/-- After the data that `s` has read was given to its peer, `s` is still there. -/
structure Kept (s : Ptr) (a : ASocket) (data : Bytes) (σ ρ : Server) : Prop where
  read : HasRead s data σ ρ
  ordinary : ∃ l, Ordinary l σ ρ ∧ ∀ act ∈ l, act = .unasked s ∧ a.wantsRead = false ∧
    ∃ r b, a.peer = some r ∧ σ.socks.heap.get r = some b ∧ b.isRemote = true
  socket : ∃ a', ρ.socks.heap.get s = some a' ∧ a'.isLocal = true ∧ a'.closing = false

/-- What a peer makes of the data it is given by `s`. -/
inductive Passed (s : Ptr) (a : ASocket) (data : Bytes) (σ : Server) : Int × Server → Prop
  /-- the peer has closed `s` as a side-effect -/
  | closed {τ : Server} (hread : HasRead s data σ τ) (h : Ordinary [] σ τ) :
      Passed s a data σ (-1, τ)
  | taken {τ : Server} (h : Kept s a data σ τ) : Passed s a data σ (0, τ)
  /-- `s` is not to read until the peer is ready for more -/
  | full {τ : Server} {c : ASocket} (hs : τ.socks.heap.get s = some c)
      (hf : ∃ f, c.fde = some f ∧ f.Wf) (hp : Sockets.PendingRight s c τ.socks)
      (h : Kept s a data σ { τ with socks := τ.socks.write s c.delRead }) :
      Passed s a data σ (1, τ)

section passOn

variable {data : Bytes} {big : Bool}

private lemma passOn_local (h : Inv [] σ.socks) (hs : σ.socks.heap.get s = some a)
    (hl : a.isLocal = true) (hpeer : a.peer = some r) (hr : σ.socks.heap.get r = some b)
    (hb : b.isLocal = true) (hdata : data ≠ []) :
    Sat (Sockets.localSocketEnqueue σ.transports r data (σ.socks.emit (.read s data)))
      (fun x => Passed s a data σ (x.1, { σ with socks := x.2 })) (RequestHalt big) := by
  have hbs := h.peer_of_peer hs hpeer hr
  have hsr : s ≠ r := (h.paired s a r hs (by simp) hpeer).2.1.symm
  have hc : a.closing = false := h.not_closing_of_peer hs hpeer
  have hremote : b.isRemote = false := by
    rw [ASocket.isLocal, beq_iff_eq] at hb
    simp [ASocket.isRemote, hb]
  have hread : Effs σ.rules [] σ.socks (σ.socks.emit (.read s data)) :=
    .single (.read data hs hl hpeer hr hremote)
  have hr' : (σ.socks.emit (.read s data)).heap.get r = some b := hr
  have hs' : (σ.socks.emit (.read s data)).heap.get s = some a := hs
  refine (localSocketEnqueue_spec (hread.inv h) hr' hb
    (h.not_closing_of_peer hr hbs) hdata).mono ?_ fun _ => .of_excused
  rintro ⟨rc, socks⟩ hx
  have hpassed : Effs σ.rules [] (σ.socks.emit (.read s data)) socks :=
    hx.effs hr' hb hbs hs' (.inl hl)
  have heff : Effs σ.rules [] σ.socks socks := hread.trans hpassed
  have hs2 : socks.heap.get s = some a := (hx.get_of_ne hsr).trans hs'
  obtain ⟨b', hr2, hsteady⟩ := hx.steady hr'
  have hremote' : b'.isRemote = false := by
    rw [ASocket.isRemote, hsteady.enqueue]
    exact hremote
  obtain rfl | rfl : rc = 0 ∨ rc = 1 := by
    cases hx with
    | intro _ hrc => exact hrc.imp And.left And.left
  · exact .taken ⟨hpassed.trace_prefix, ⟨[], .ofSocks heff, by simp⟩, a, hs2, hl, hc⟩
  exact .full hs2 (h.local_wf hs hl).fde ((heff.inv h).pendingRight hs2)
    ⟨hpassed.trace_prefix, ⟨[], .ofSocks (heff.tail (.hush hs2 hl hpeer hr2 hremote')), by simp⟩,
      _, get_set_self hs2 _, hl, hc⟩

private lemma passOn_remote (h : Inv [] σ.socks) (hs : σ.socks.heap.get s = some a)
    (hl : a.isLocal = true) (hpeer : a.peer = some r) (hr : σ.socks.heap.get r = some b)
    (hb : b.isRemote = true) (hlen : data.length ≤ maxPayload)
    (hlimit : ∀ t, b.transport = some t → data.length ≤ σ.limit t) :
    Sat (Sockets.remoteSocketEnqueue σ.transports r data (σ.socks.emit (.read s data)))
      (fun x => Passed s a data σ (x.1, { σ with socks := x.2 })) (RequestHalt big) := by
  have hbs := h.peer_of_peer hs hpeer hr
  have hc : a.closing = false := h.not_closing_of_peer hs hpeer
  obtain ⟨t, ht⟩ := h.remote_transport hr hb
  have hr' : (σ.socks.emit (.read s data)).heap.get r = some b := hr
  have hs' : (σ.socks.emit (.read s data)).heap.get s = some a := hs
  have hsize : (UInt32.ofNat data.length).toNat = data.length :=
    UInt32.toNat_ofNat_of_lt' (Nat.lt_of_le_of_lt hlen (by decide))
  unfold Sockets.remoteSocketEnqueue
  simp only [Sockets.deref_eq hr', ok_bind, hbs, Sockets.nonNull, pure_eq_ok,
    Sockets.deref_eq hs', if_neg (Nat.not_lt.mpr hlen), ht]
  refine ((Sockets.sendPacket_spec σ.transports _ t _).mono (fun _ h => h)
    fun _ he => .of_excused (.inr he)).bind ?_
  rintro _ ⟨tr, htr, rfl⟩
  have heff := Effs.single (P := σ.rules) (.forward data t (sealPacket
      { msg := { command := A_WRTE, arg0 := a.id, arg1 := b.id, dataLength := .ofNat data.length }
        payload := data } tr) hs hl hpeer hr hb ht ⟨rfl, rfl, rfl⟩ rfl
      ⟨hsize, hlen, hlimit t ht, fun _ => ⟨tr, htr⟩⟩)
  refine .full hs (h.local_wf hs hl).fde (h.pendingRight hs)
    ⟨⟨_, rfl⟩, ⟨_, .ofSocks heff, ?_⟩, _, get_set_self hs _, hl, hc⟩
  intro act hact
  split at hact
  · cases hact
  next hw =>
  obtain rfl := mem_singleton.mp hact
  exact ⟨rfl, by simpa using hw, r, b, hpeer, hr, hb⟩

private lemma passOn_smart (h : Inv [] σ.socks) (hok : σ.ListenersOk)
    (hs : σ.socks.heap.get s = some a) (hl : a.isLocal = true) (hpeer : a.peer = some r)
    (hr : σ.socks.heap.get r = some b) (hb : b.enqueue = .smartSocketEnqueue) :
    Sat (smartSocketEnqueue cfg r data (σ.emit (.read s data))) (Passed s a data σ)
      (RequestHalt (oversizedData cfg b data σ)) := by
  have hbs := h.peer_of_peer hs hpeer hr
  have hremote : b.isRemote = false := by simp [ASocket.isRemote, hb]
  have hread : Ordinary [] σ (σ.emit (.read s data)) :=
    .ofSocks (.single (.read data hs hl hpeer hr hremote))
  have hcl : Client r s a b (σ.emit (.read s data)).socks := ⟨hr, hb, hbs, hs, hl, hpeer⟩
  have h' := hread.socks.inv h
  refine (smartSocketEnqueue_spec data h' (hread.listenersOk hok) hcl).mono ?_
    fun _ he => he.of_over (oversizedData_congr (by exact rfl) (by exact rfl)).symm.trans
  intro x hx
  cases hx with
  | done hτ => exact .closed hτ.socks.trace_prefix (hread.trans hτ)
  | @served τ a' hτ hs' hl' hc =>
    exact .taken ⟨hτ.socks.trace_prefix, ⟨[], hread.trans hτ, by simp⟩, a', hs', hl', hc⟩
  | @handedOver τ r' a' e t p hτ hcl' ht hp hsend =>
    obtain ⟨hr', he, hpr, hs', hl', hback⟩ := hcl'
    have hτi := hτ.socks.inv h'
    have hclosing : a'.closing = false := hτi.not_closing_of_peer hs' hback
    have hsr : s ≠ r' := (hτi.paired s a' r' hs' (by simp) hback).2.1.symm
    let c : ASocket := { a'.notify with peer := none, transport := some t }
    have hc : (τ.socks.write s c).heap.get s = some c := get_set_self hs' _
    have hstep : Ordinary [] τ
        { τ with socks := (handedOver r' s a' t p τ.socks).write s c.delRead } :=
      .ofSocks (.single (.handOver t p hs' hl' hback hr' he ht hp hsend))
    have hget : (handedOver r' s a' t p τ.socks).heap.get s = some c :=
      (get_remove _ r' s).trans (by rw [if_neg hsr]; exact hc)
    refine .full hget (hτi.local_wf hs' hl').fde ?_
      ⟨(hτ.trans hstep).socks.trace_prefix, ⟨[], hread.trans (hτ.trans hstep), by simp⟩, _,
        get_set_self hget _, hl', hclosing⟩
    intro hp hm
    exact pendingRight_write s c τ.socks hp (mem_filter.mp hm).1

private lemma passOn_tracker (h : Inv [] σ.socks) (hs : σ.socks.heap.get s = some a)
    (hl : a.isLocal = true) (hpeer : a.peer = some r) (hr : σ.socks.heap.get r = some b)
    (hb : b.enqueue = .deviceTrackerEnqueue) :
    Sat (Sockets.deviceTrackerEnqueue σ.transports r (σ.socks.emit (.read s data)))
      (fun x => Passed s a data σ (x.1, { σ with socks := x.2 })) (RequestHalt big) := by
  have hremote : b.isRemote = false := by simp [ASocket.isRemote, hb]
  have hread : Effs σ.rules [] σ.socks (σ.socks.emit (.read s data)) :=
    .single (.read data hs hl hpeer hr hremote)
  have hr' : (σ.socks.emit (.read s data)).heap.get r = some b := hr
  refine (deviceTrackerEnqueue_effs (P := σ.rules) (hread.inv h) hr'
    (by simp [ASocket.isTracker, hb])).mono ?_ fun _ => .of_excused
  rintro ⟨rc, socks⟩ ⟨rfl, heff⟩
  exact .closed heff.trace_prefix (.ofSocks (hread.trans heff))

/-- The data that `a` has read completes the request on its smart socket, which is too long. -/
def oversizedPass (cfg : Config) (a : ASocket) (data : Bytes) (σ : Server) : Bool :=
  a.peer.any fun r =>
    (σ.socks.heap.get r).any fun b => b.enqueue == .smartSocketEnqueue && oversizedData cfg b data σ

lemma socketEnqueue_spec (h : Inv [] σ.socks) (hok : σ.ListenersOk)
    (hs : σ.socks.heap.get s = some a) (hl : a.isLocal = true) (hpeer : a.peer = some r)
    (hdata : data ≠ []) (hlen : data.length ≤ maxPayload)
    (hlimit : ∀ r b t, a.peer = some r → σ.socks.heap.get r = some b → b.transport = some t →
      data.length ≤ σ.limit t) :
    Sat (socketEnqueue cfg r data (σ.emit (.read s data))) (Passed s a data σ)
      (RequestHalt (oversizedPass cfg a data σ)) := by
  obtain ⟨-, -, b, hr, -⟩ := h.paired s a r hs (by simp) hpeer
  have hr' : (σ.emit (.read s data)).socks.heap.get r = some b := hr
  unfold socketEnqueue
  rw [Sockets.deref_eq hr', ok_bind]
  cases hb : b.enqueue with
  | localSocketEnqueue =>
    exact (passOn_local h hs hl hpeer hr (by simp [ASocket.isLocal, hb]) hdata).bind fun _ hx => hx
  | remoteSocketEnqueue =>
    exact (passOn_remote h hs hl hpeer hr (by simp [ASocket.isRemote, hb]) hlen
      fun t => hlimit r b t hpeer hr).bind fun _ hx => hx
  | smartSocketEnqueue =>
    refine (passOn_smart h hok hs hl hpeer hr hb).mono (fun _ hx => hx) fun _ he => he.of_over ?_
    simp [oversizedPass, hpeer, hr, hb]
  | deviceTrackerEnqueue => exact (passOn_tracker h hs hl hpeer hr hb).bind fun _ hx => hx

end passOn

/-! ## `local_socket_flush_outgoing` -/

lemma closeOnEof_spec (h : Inv [] σ.socks) (hs : σ.socks.heap.get s = some a)
    (hl : a.isLocal = true) (isEof : Bool) :
    Sat (closeOnEof s isEof σ) (fun τ => ∃ l, Ordinary l σ τ ∧
        ∀ act ∈ l, act = .abandon s ∧ a.closing = true ∧ isEof = true) Halt.Excused := by
  unfold closeOnEof
  cases isEof with
  | false => exact ⟨[], .refl σ, by simp⟩
  | true =>
    rw [if_pos rfl]
    cases hc : a.closing with
    | false =>
      refine (onSockets_ordinary (socketClose_effs h hs hc)).imp ?_
      exact fun τ hτ => ⟨[], hτ, by simp⟩
    | true =>
      refine (onSockets_ordinary (socketClose_closing h hs hl hc)).imp ?_
      exact fun τ hτ => ⟨_, hτ, by simp⟩

def oversizedRead (cfg : Config) (a : ASocket) (σ : Server) : Bool :=
  !(σ.wouldRead a).data.isEmpty && oversizedPass cfg a (σ.wouldRead a).data σ

structure FlushedOut (s : Ptr) (a : ASocket) (σ τ : Server) : Prop where
  ordinary : ∃ l, Ordinary l σ τ ∧ ∀ act ∈ l, ReadAct s a σ act
  read : (σ.wouldRead a).data ≠ [] → HasRead s (σ.wouldRead a).data σ τ

lemma localSocketFlushOutgoing_spec (h : Inv [] σ.socks) (hok : σ.ListenersOk)
    (hs : σ.socks.heap.get s = some a) (hl : a.isLocal = true) :
    Sat (localSocketFlushOutgoing cfg s σ) (FlushedOut s a σ)
      (RequestHalt (oversizedRead cfg a σ)) := by
  unfold localSocketFlushOutgoing
  rw [Sockets.deref_eq hs]
  refine ((getMaxPayload_spec h hs).self.mono (fun _ h => h)
    fun _ he => .of_excused (.inr he)).bind ?_
  rintro limit ⟨hlimit, hmax, hpeers⟩
  have hwould : σ.wouldRead a = readLoop limit [] σ.socks.os.reads := by simp [wouldRead, hlimit]
  have hroom : (σ.wouldRead a).data.length ≤ limit := by
    have hroom := readLoop_length limit [] σ.socks.os.reads
    rwa [← hwould, length_nil, Nat.zero_add] at hroom
  rw [← hwould]
  let os : Os := { σ.socks.os with reads := (σ.wouldRead a).rest }
  let σ1 : Server := { σ with socks := { σ.socks with os := os } }
  have hos : Ordinary [] σ σ1 := .ofSocks (.single (.os os))
  have h1 : Inv [] σ1.socks := hos.socks.inv h
  have hs1 : σ1.socks.heap.get s = some a := hs
  -- the labels of the end of the file, after other labels
  have hend : ∀ {l : List Sockets.Act} {τ : Server} {a' : ASocket}, Ordinary l σ τ →
      (∀ act ∈ l, ReadAct s a σ act) →
      ((σ.wouldRead a).data ≠ [] → HasRead s (σ.wouldRead a).data σ τ) →
      τ.socks.heap.get s = some a' → a'.isLocal = true → (a'.closing = true → a.closing = true) →
      Sat (closeOnEof s (σ.wouldRead a).isEof τ) (FlushedOut s a σ)
        (RequestHalt (oversizedRead cfg a σ)) := by
    intro l τ a' hτ hacts hread hs' hl' hclosing
    refine (closeOnEof_spec (hτ.socks.inv h) hs' hl' _).mono ?_ fun _ => .of_excused
    rintro ρ ⟨m, hρ, hm⟩
    refine ⟨⟨l ++ m, hτ.trans hρ, fun act hact => ?_⟩,
      fun hne => (hread hne).trans hρ.socks.trace_prefix⟩
    rcases mem_append.mp hact with hact | hact
    · exact hacts act hact
    · obtain ⟨rfl, hc, heof⟩ := hm act hact
      exact ⟨rfl, hclosing hc, heof⟩
  refine .ite (fun hdata => hend hos (by simp) (fun hne => ?_) hs1 hl id) fun hdata => ?_
  · exact absurd (List.isEmpty_iff.mp hdata) hne
  have hdata : (σ.wouldRead a).data ≠ [] := by simpa using hdata
  cases hpeer : a.peer with
  | none =>
    have hdiscard : Ordinary (if a.closing then [] else [.discard s (σ.wouldRead a).data]) σ
        (σ1.emit (.read s (σ.wouldRead a).data)) :=
      hos.trans (.ofSocks (.single (.discard _ hs1 hl hpeer)))
    refine hend hdiscard ?_ (fun _ => prefix_refl _) hs1 hl id
    intro act hact
    cases hc : a.closing with
    | true => simp [hc] at hact
    | false =>
      rw [hc] at hact
      obtain rfl := mem_singleton.mp hact
      exact ⟨rfl, hc, hpeer, rfl, hdata⟩
  | some r =>
    have hpass : Sat (socketEnqueue cfg r (σ.wouldRead a).data
        (σ1.emit (.read s (σ.wouldRead a).data))) (Passed s a (σ.wouldRead a).data σ1)
        (RequestHalt (oversizedRead cfg a σ)) := by
      refine (socketEnqueue_spec h1 (hos.listenersOk hok) hs1 hl hpeer hdata (hroom.trans hmax)
        fun r b t hr hb ht => hroom.trans (hpeers r b t hr hb ht).2).mono (fun _ hx => hx)
        fun _ he => he.of_over fun hover => ?_
      simp only [oversizedPass, oversizedData_congr (show σ1.transports = σ.transports from rfl)
        (show σ1.transportList = σ.transportList from rfl)] at hover
      simpa [oversizedRead, oversizedPass, hdata] using hover
    refine hpass.bind ?_
    intro x hx
    have hkept : ∀ {τ : Server}, Kept s a (σ.wouldRead a).data σ1 τ →
        Sat (closeOnEof s (σ.wouldRead a).isEof τ) (FlushedOut s a σ)
          (RequestHalt (oversizedRead cfg a σ)) := by
      rintro τ ⟨hread, ⟨l, hτ, hacts⟩, a', hs', hl', hc'⟩
      refine hend (hos.trans hτ) (fun act hact => ?_) (fun _ => hread) hs' hl'
        fun hc => by rw [hc'] at hc; cases hc
      obtain ⟨rfl, hw, r, b, hr⟩ := hacts act hact
      exact ⟨rfl, hw, hdata, r, b, hr⟩
    cases hx with
    | closed hread hτ =>
      exact ⟨⟨[], hos.trans hτ, by simp⟩, fun _ => hread⟩
    | taken hτ => exact hkept hτ
    | @full τ c hs' hf hp hτ =>
      have hdel : onSockets (fun _ => Sockets.fdeventDel s Events.FDE_READ) τ =
          .ok { τ with socks := τ.socks.write s c.delRead } := by
        unfold onSockets
        dsimp only
        rw [fdeventDel_eq hs' hf hp]
        rfl
      simp only [show ¬ (1 : Int) < 0 by decide, show (1 : Int) > 0 by decide, if_true, if_false,
        hdel, ok_bind]
      exact hkept hτ

/-! ## `local_socket_event_func` -/

variable {socks : Sockets} {a' : ASocket}

lemma getMaxPayload_congr (ts : Store ATransport) {socks' : Sockets}
    {a : ASocket} (ht : a'.transport = a.transport) (hp : a'.peer = a.peer)
    (hr : ∀ r, a.peer = some r →
      (socks'.heap.get r).map (·.transport) = (socks.heap.get r).map (·.transport)) :
    Sockets.getMaxPayload ts a' socks' = Sockets.getMaxPayload ts a socks := by
  unfold Sockets.getMaxPayload Sockets.deref
  rw [ht, hp]
  cases hpeer : a.peer with
  | none => rfl
  | some r =>
    have htr := hr r hpeer
    dsimp only
    cases hb' : socks'.heap.get r with
    | none =>
      rw [hb', Option.map_none, eq_comm, Option.map_eq_none_iff] at htr
      rw [htr]
    | some b' =>
      rw [hb', Option.map_some, eq_comm, Option.map_eq_some_iff] at htr
      obtain ⟨b, hb, hsame⟩ := htr
      simp [hb, hsame]

/-- Nothing that happens before the read makes a difference to it. -/
structure ReadsAlike (a a' : ASocket) (σ τ : Server) : Prop extends ASocket.Steady a a' where
  transports : τ.transports = σ.transports
  reads : τ.socks.os.reads = σ.socks.os.reads
  /-- a remote peer is as it was -/
  remote : ∀ r b, a.peer = some r → τ.socks.heap.get r = some b → b.isRemote = true →
    σ.socks.heap.get r = some b

lemma ReadsAlike.wouldRead (h : ReadsAlike a a' σ τ)
    (hr : ∀ r, a.peer = some r → τ.socks.heap.get r = σ.socks.heap.get r) :
    τ.wouldRead a' = σ.wouldRead a := by
  unfold Server.wouldRead
  rw [h.transports, h.reads, getMaxPayload_congr σ.transports h.transport h.peer
    fun r hpeer => congrArg _ (hr r hpeer)]

lemma ReadsAlike.oversizedRead (h : ReadsAlike a a' σ τ) (hlist : τ.transportList = σ.transportList)
    (hr : ∀ r, a.peer = some r → τ.socks.heap.get r = σ.socks.heap.get r) :
    Server.oversizedRead cfg a' τ = Server.oversizedRead cfg a σ := by
  unfold Server.oversizedRead oversizedPass
  rw [h.wouldRead hr, h.peer]
  cases hpeer : a.peer with
  | none => rfl
  | some r => simp [hr r hpeer, oversizedData_congr h.transports hlist]

lemma ReadAct.back {act : Sockets.Act} (hact : ReadAct s a' τ act)
    (h : ReadsAlike a a' σ τ) (hclosing : a.closing = true → a.peer = none) :
    ReadAct s a σ act := by
  have halone : a.peer = none → τ.wouldRead a' = σ.wouldRead a := fun hnone =>
    h.wouldRead fun r hr => by rw [hnone] at hr; cases hr
  cases act with
  | discard s' data =>
    obtain ⟨rfl, hc, hpeer, hdata, hne⟩ := hact
    rw [h.peer] at hpeer
    exact ⟨rfl, h.closing ▸ hc, hpeer, by rw [← halone hpeer]; exact hdata, hne⟩
  | unasked s' =>
    obtain ⟨rfl, hw, hne, r, b, hpeer, hr, hb⟩ := hact
    rw [h.peer] at hpeer
    have hr' := h.remote r b hpeer hr hb
    have hsame : τ.wouldRead a' = σ.wouldRead a := h.wouldRead fun q hq => by
      rw [hpeer] at hq
      cases hq
      rw [hr, hr']
    exact ⟨rfl, h.wantsRead ▸ hw, by rw [← hsame]; exact hne, r, b, hpeer, hr', hb⟩
  | abandon s' =>
    obtain ⟨rfl, hc, heof⟩ := hact
    rw [h.closing] at hc
    exact ⟨rfl, hc, by rw [← halone (hclosing hc)]; exact heof⟩
  | note | accept | connect | ready | deliver | inject | alarm => exact hact

lemma readEvent_spec (h : Inv [] σ.socks) (hok : σ.ListenersOk)
    (hs : σ.socks.heap.get s = some a) (hl : a.isLocal = true) (ev : Events) :
    Sat (readEvent cfg s ev σ)
      (fun τ => ∃ l, Ordinary l σ τ ∧ ∀ act ∈ l, ev.read = true ∧ ReadAct s a σ act)
      (RequestHalt (ev.read && oversizedRead cfg a σ)) := by
  refine .ite (fun hread => ?_) fun _ => ⟨[], .refl σ, by simp⟩
  refine (localSocketFlushOutgoing_spec h hok hs hl).mono ?_
    fun _ he => he.of_over fun hover => by rw [hread, hover]; rfl
  rintro τ ⟨⟨l, hτ, hacts⟩, -⟩
  exact ⟨l, hτ, fun act hact => ⟨hread, hacts act hact⟩⟩

/-- The labels of an event on `s`. A closing socket that is given up had something left to
write after the `FDE_WRITE` part of the event. -/
def EventAct (s : Ptr) (a : ASocket) (ev : Events) (σ : Server) (act : Sockets.Act) : Prop :=
  ev.read = true ∧ ReadAct s a σ act ∧ (a.closing = true → ev.write = true →
      (σ.socks.os.writes.headD .eagain).leaves a.packetQueue.size = true)

/-- What the `FDE_WRITE` part of an event on `s` has come to when the event goes on. -/
structure WritePart (s : Ptr) (a a' : ASocket) (σ τ : Server) : Prop where
  ordinary : Ordinary [] σ τ
  socket : τ.socks.heap.get s = some a'
  alike : ReadsAlike a a' σ τ
  left : a.closing = true → (σ.socks.os.writes.headD .eagain).leaves a.packetQueue.size = true
  peer : ∀ r b, a.peer = some r → σ.socks.heap.get r = some b →
    ∃ b', τ.socks.heap.get r = some b' ∧ b'.enqueue = b.enqueue ∧ b'.transport = b.transport
  unread : Sockets.Unread σ.socks τ.socks

private lemma peerReady_after {os : Os} {obs : List Obs} (h : Inv [] σ.socks)
    (hs : σ.socks.heap.get s = some a) (hl : a.isLocal = true) (hpeer : a.peer = some r)
    (hr : σ.socks.heap.get r = some b) (hw : a.wantsWrite = true)
    (hos : os.reads = σ.socks.os.reads) (hd : a.Drained s a' obs) (hdone : Sockets.Done s a' obs) :
    Sat (onSockets (fun ts => Sockets.socketReady ts
        (listTransports cfg { σ with socks := ({ σ.socks with os := os }.emits obs).write s a' }) r)
        { σ with socks := ({ σ.socks with os := os }.emits obs).write s a' })
      (fun τ => Ordinary [] σ τ ∧ τ.transports = σ.transports ∧
        Sockets.PeerReadied s r a b σ.socks τ.socks ∧
        ∀ b', τ.socks.heap.get r = some b' → b'.isRemote = true → σ.socks.heap.get r = some b')
      Halt.Excused := by
  let socks := ({ σ.socks with os := os }.emits obs).write s a'
  have hrs : r ≠ s := (h.paired s a r hs (by simp) hpeer).2.1
  have hs1 : socks.heap.get s = some a' := get_set_self hs _
  have hr1 : socks.heap.get r = some b := (get_set_of_ne _ hrs _).trans hr
  have hpeer1 : a'.peer = some r := hd.peer.trans hpeer
  have hsteady : a.Steady a' := { hd with }
  have hstate : Effs σ.rules [] σ.socks { σ.socks with os := os } := .single (.os os)
  have hunread : Sockets.Unread σ.socks socks := ⟨obs, by simp [socks], hd.not_read⟩
  unfold onSockets
  dsimp only
  cases hb : b.isRemote with
  | true =>
    -- the graph is whole after the write, so the remote socket can be asked
    have hi : Inv [] socks := by
      refine ((hstate.inv h).emits obs).drained_peer hs hpeer hr hd fun he => ?_
      simp [ASocket.isRemote, he] at hb
    rw [socketReady_remote _ hi hr1 hb]
    refine ((remoteSocketReady_spec hi hs1 hpeer1 hr1 hb).mono (fun _ h => h)
      fun _ he => .inr he).bind ?_
    rintro _ ⟨t, p, ht, hp, rfl⟩
    have hstep := hstate.tail
      (.settle t p hs hl hpeer hr hb hw hd hdone ht (by rw [← hd.id]; exact hp))
    refine ⟨.ofSocks hstep, rfl, ⟨hos, ⟨a', hs1, hsteady⟩, ⟨b, hr1, rfl, rfl⟩,
      hunread.trans ⟨[.sent t p], rfl, by simp⟩⟩, fun b' hb' _ => ?_⟩
    exact hr.trans (hr1.symm.trans hb')
  | false =>
    have heff : Effs σ.rules [] σ.socks socks :=
      hstate.tail (.drain hs hl hw hd (.inr ⟨r, b, hpeer, hr, hb⟩))
    refine ((peerReady_effs (P := σ.rules) _ (heff.inv h) hs1
      (hsteady.isLocal.trans hl) hpeer1 hr1 hb).bind ?_)
    rintro socks' ⟨heff', hready⟩
    obtain ⟨c, hc, hsteady'⟩ := hready.socket
    obtain ⟨b2, hb2, hkind, htransport⟩ := hready.peer
    refine ⟨.ofSocks (heff.trans heff'), rfl, ⟨hready.reads.trans hos,
      ⟨c, hc, hsteady.trans hsteady'⟩, hready.peer, hunread.trans hready.unread⟩,
      fun b' hb' hrem => ?_⟩
    obtain rfl : b2 = b' := Option.some_inj.mp (hb2.symm.trans hb')
    rw [ASocket.isRemote, hkind] at hrem
    exact absurd hrem (by simpa [ASocket.isRemote] using hb)

/-- The rule for `local_socket_event_func`: what holds when the read part of the event is all that
is left holds of the event. An `FDE_WRITE` event is for a socket that waits for it. -/
lemma localSocketEventFunc_rule {Q : Server → Prop} {E : Halt → Prop} (h : Inv [] σ.socks)
    (hs : σ.socks.heap.get s = some a) (hl : a.isLocal = true) {ev : Events}
    (hwrite : ev.write = true → a.wantsWrite = true) (hE : ∀ e, e.Excused → E e)
    (hfinished : ∀ τ, a.closing = true → Ordinary [] σ τ → Q τ)
    (hread : ¬ ev.write = true → Sat (readEvent cfg s ev σ) Q E)
    (hnext : ∀ a' τ, ev.write = true → WritePart s a a' σ τ → Sat (readEvent cfg s ev τ) Q E) :
    Sat (localSocketEventFunc cfg s ev σ) Q E := by
  refine .ite (fun hw => ?_) hread
  refine ((localSocketFlushIncoming_flushed h hs hl).mono (fun _ h => h) hE).bind ?_
  rintro ⟨res, socks⟩ hx
  have heff := hx.effs (P := σ.rules) hs hl (hwrite hw)
  cases hx with
  | finished hc => exact hfinished _ hc (.ofSocks (heff nofun))
  | @kept _ a' os obs hos hres hcompleted hagain hleft hd =>
    have hs1 : (({ σ.socks with os := os }.emits obs).write s a').heap.get s = some a' :=
      get_set_self hs _
    have hsteady : a.Steady a' := { hd with }
    have hsame : ∀ r, a.peer = some r →
        (({ σ.socks with os := os }.emits obs).write s a').heap.get r = σ.socks.heap.get r :=
      fun r hr => get_set_of_ne _ (h.paired s a r hs (by simp) hr).2.1 _
    cases res with
    | destroyed => exact absurd rfl hres
    | tryAgain =>
      exact hnext a' _ hw
        { ordinary := .ofSocks (heff nofun)
          socket := hs1
          alike :=
            { hsteady with
              transports := rfl
              reads := hos
              remote := fun r b hr hb _ => (hsame r hr).symm.trans hb }
          left := hleft
          peer := fun r b hr hb => ⟨b, (hsame r hr).trans hb, rfl, rfl⟩
          unread := ⟨obs, by simp, hd.not_read⟩ }
    | completed =>
      obtain ⟨hopen, hdone⟩ := hcompleted rfl
      -- the queue was not empty, so the socket has a peer
      obtain ⟨r, hpeer⟩ : ∃ r, a.peer = some r := by
        refine Option.ne_none_iff_exists'.mp fun hnone => ?_
        exact (h.local_wf hs hl).wanted (hwrite hw) (h.connecting s a hs (by simp) hl hnone hopen).1
      obtain ⟨-, hrs, b, hr, -⟩ := h.paired s a r hs (by simp) hpeer
      have hpeer1 : a'.peer = some r := hd.peer.trans hpeer
      simp only [Sockets.deref_eq hs1, ok_bind, hpeer1, Sockets.nonNull, pure_eq_ok]
      refine ((peerReady_after h hs hl hpeer hr (hwrite hw) hos hd hdone).mono (fun _ h => h)
        hE).bind ?_
      rintro τ ⟨hτ, hts, hready, hremote⟩
      obtain ⟨c, hc, hst⟩ := hready.socket
      refine hnext c τ hw
        { ordinary := hτ
          socket := hc
          alike := { hst with transports := hts, reads := hready.reads, remote := ?_ }
          left := hleft
          peer := ?_
          unread := hready.unread }
      · intro r' b' hr' hb' hrem
        obtain rfl : r = r' := Option.some_inj.mp (hpeer.symm.trans hr')
        exact hremote b' hb' hrem
      intro r' b0 hr' hb0
      obtain rfl : r = r' := Option.some_inj.mp (hpeer.symm.trans hr')
      obtain rfl : b = b0 := Option.some_inj.mp (hr.symm.trans hb0)
      exact hready.peer

lemma localSocketEventFunc_spec (h : Inv [] σ.socks) (hok : σ.ListenersOk)
    (hs : σ.socks.heap.get s = some a) (hl : a.isLocal = true) {ev : Events}
    (hwrite : ev.write = true → a.wantsWrite = true) :
    Sat (localSocketEventFunc cfg s ev σ)
      (fun τ => ∃ l, Ordinary l σ τ ∧ ∀ act ∈ l, EventAct s a ev σ act)
      (RequestHalt (ev.read && oversizedRead cfg a σ)) := by
  refine localSocketEventFunc_rule h hs hl hwrite (fun _ => .of_excused)
    (fun τ _ hτ => ⟨[], hτ, by simp⟩) (fun hw => ?_) fun a' τ hw hpart => ?_
  · refine (readEvent_spec h hok hs hl ev).imp ?_
    rintro τ ⟨l, hτ, hacts⟩
    refine ⟨l, hτ, fun act hact => ?_⟩
    obtain ⟨hread, hra⟩ := hacts act hact
    exact ⟨hread, hra, fun _ hw' => absurd hw' hw⟩
  · -- there was something to write, so the peer is not a smart socket
    have hfits : ¬ oversizedRead cfg a' τ = true := by
      simp only [oversizedRead, oversizedPass, Bool.and_eq_true, Option.any_eq_true, beq_iff_eq]
      rintro ⟨-, r, hr, b', hb', he, -⟩
      have hpeer : a.peer = some r := hpart.alike.peer.symm.trans hr
      obtain ⟨-, -, b, hb, -⟩ := h.paired s a r hs (by simp) hpeer
      obtain ⟨b1, hb1, hkind, -⟩ := hpart.peer r b hpeer hb
      obtain rfl : b1 = b' := Option.some_inj.mp (hb1.symm.trans hb')
      exact (h.local_wf hs hl).wanted (hwrite hw)
        (h.idle s a r b hs (by simp) hl hpeer hb (hkind.symm.trans he))
    refine (readEvent_spec (hpart.ordinary.socks.inv h) (hpart.ordinary.listenersOk hok)
      hpart.socket (hpart.alike.isLocal.trans hl) ev).mono ?_
      fun _ he => he.of_over fun hover => absurd (Bool.and_eq_true_iff.mp hover).2 hfits
    rintro ρ ⟨l, hρ, hacts⟩
    refine ⟨l, hpart.ordinary.trans hρ, fun act hact => ?_⟩
    obtain ⟨hread, hra⟩ := hacts act hact
    exact ⟨hread, hra.back hpart.alike fun hc => ((h.local_wf hs hl).drains hc).1,
      fun hc _ => hpart.left hc⟩

/-! ## `fdevent_call_fdfunc` -/

lemma local_of_fde {L : List Ptr} (h : Inv L socks)
    (hs : socks.heap.get s = some a) {f : FdEvent} (hf : a.fde = some f) :
    a.isLocal = true ∧ f.Wf := by
  have hl : a.isLocal = true := by
    by_contra hl
    have hbare := (h.wf s a hs).bare (by simpa using hl)
    rw [hbare.fde] at hf
    cases hf
  obtain ⟨g, hg, hw⟩ := (h.local_wf hs hl).fde
  rw [hf] at hg
  cases hg
  exact ⟨hl, hw⟩

def PendingAct (σ : Server) (act : Sockets.Act) : Prop :=
  ∃ s rest a f, σ.socks.gPendingList = s :: rest ∧ σ.socks.heap.get s = some a ∧
    a.fde = some f ∧ EventAct s a f.events σ act

/-- The next pending fdevent is that of `s`; its function is called when it is no longer pending,
and the record of `s` is `a'`. -/
structure Dispatched (cfg : Config) (s : Ptr) (a a' : ASocket) (f : FdEvent) (σ : Server) :
    Prop where
  socket : σ.socks.heap.get s = some a
  fde : a.fde = some f
  isLocal : a.isLocal = true
  /-- an `FDE_WRITE` event is for a socket that waits for it -/
  write : f.events.write = true → a'.wantsWrite = true
  ordinary : Ordinary [] σ { σ with socks := σ.socks.write s a' }
  alike : ReadsAlike a a' σ { σ with socks := σ.socks.write s a' }
  packetQueue : a'.packetQueue = a.packetQueue
  others : ∀ r, a.peer = some r → (σ.socks.write s a').heap.get r = σ.socks.heap.get r
  eq : fdeventCallFdfunc cfg σ =
    localSocketEventFunc cfg s f.events { σ with socks := σ.socks.write s a' }

lemma dispatched (cfg : Config) {rest : List Ptr} (h : Inv [] σ.socks)
    (hlist : σ.socks.gPendingList = s :: rest) : ∃ a a' f, Dispatched cfg s a a' f σ := by
  obtain ⟨a, hs, hp⟩ := (h.pending s).mp (by rw [hlist]; simp)
  have hnot : s ∉ rest := (nodup_cons.mp (hlist ▸ h.pendingNodup)).1
  obtain ⟨f, hf, hfp⟩ : ∃ f, a.fde = some f ∧ f.pending = true := by
    simpa [ASocket.pending, Option.any_eq_true] using hp
  obtain ⟨hl, hfw⟩ := local_of_fde h hs hf
  let f' : FdEvent := { f with events := Events.none, pending := false }
  let a' : ASocket := { a with fde := some f' }
  have hw := h.local_wf hs hl
  have hread : a'.wantsRead = a.wantsRead := by simp [a', f', ASocket.wantsRead, hf]
  have hwrite : a'.wantsWrite = a.wantsWrite := by simp [a', f', ASocket.wantsWrite, hf]
  have hw' : a'.WfLocal :=
    { hw with
      fde := ⟨f', rfl,
        { hfw with
          masked := by simp [f', Events.none]
          idle := fun _ => rfl }⟩
      waits := fun h1 h2 h3 => hwrite.trans (hw.waits h1 h2 h3)
      wanted := fun h => hw.wanted (hwrite.symm.trans h)
      drains := fun hc => by rw [hwrite, hread]; exact hw.drains hc }
  have hasked : a'.Asked := by
    intro g hg hev
    cases hg
    cases hev
  have hsteady : a.Steady a' := ⟨⟨rfl, rfl, rfl⟩, rfl, rfl, hread, fun _ => hasked⟩
  have htouch : a.Touch a' :=
    { hsteady with queued := rfl, wantsWrite := hwrite, pending := by simp [a', f', ASocket.pending] }
  -- the fdevent is taken off the list as it is no longer pending
  have hstate : ({ σ.socks with gPendingList := rest } : Sockets).put s a' =
      σ.socks.write s a' := by
    have hpend : a'.pending = false := by simp [a', f', ASocket.pending]
    have hrest : (s :: rest).filter (· ≠ s) = rest := by
      rw [filter_cons_of_neg (by simp), filter_ne_eq_self hnot]
    simp only [Sockets.write, Sockets.put, hpend, hlist, hrest, Bool.false_eq_true, if_false]
  have hs0 : ({ σ.socks with gPendingList := rest } : Sockets).heap.get s = some a := hs
  have hothers : ∀ r, a.peer = some r →
      (σ.socks.write s a').heap.get r = σ.socks.heap.get r := fun r hr =>
    get_set_of_ne σ.socks.heap (h.paired s a r hs (by simp) hr).2.1 a'
  refine ⟨a, a', f, hs, hf, hl, fun hev => hwrite.trans ?_,
    .ofSocks (.single (.touch hs (ASocket.wf_of_local hw' hl) htouch)),
    { hsteady with
      transports := rfl
      reads := rfl
      remote := fun r b hr hb _ => (hothers r hr).symm.trans hb }, rfl, hothers, ?_⟩
  · rw [ASocket.wantsWrite_of_fde hf]
    exact hfw.masked hev
  unfold fdeventCallFdfunc
  rw [hlist]
  simp only [Sockets.deref_eq hs0, ok_bind, hf, hfp, check_true]
  rw [show ({ a with fde := some { f with events := Events.none, pending := false } } : ASocket) =
    a' from rfl, hstate]

lemma Dispatched.queued {f : FdEvent} (hd : Dispatched cfg s a a' f σ)
    (h : Inv [] σ.socks) (hw : f.events.write = true) : a.queued ≠ [] := by
  have hs' : (σ.socks.write s a').heap.get s = some a' := get_set_self hd.socket _
  have hwf := (hd.ordinary.socks.inv h).local_wf hs' (hd.alike.isLocal.trans hd.isLocal)
  rw [ASocket.queued, ← hd.packetQueue]
  exact hwf.wanted (hd.write hw)

def oversizedEvent (cfg : Config) (σ : Server) : Bool :=
  σ.socks.gPendingList.head?.any fun s =>
    (σ.socks.heap.get s).any fun a => a.fde.any (fun f => f.events.read) && oversizedRead cfg a σ

lemma fdeventCallFdfunc_spec (h : Inv [] σ.socks) (hok : σ.ListenersOk) :
    Sat (fdeventCallFdfunc cfg σ) (fun τ => ∃ l, Ordinary l σ τ ∧ ∀ act ∈ l, σ.PendingAct act)
      (RequestHalt (oversizedEvent cfg σ)) := by
  cases hlist : σ.socks.gPendingList with
  | nil =>
    unfold fdeventCallFdfunc
    rw [hlist]
    exact ⟨[], .refl σ, by simp⟩
  | cons s rest =>
    obtain ⟨a, a', f, hd⟩ := dispatched cfg h hlist
    have hs' : (σ.socks.write s a').heap.get s = some a' := get_set_self hd.socket _
    rw [hd.eq]
    refine (localSocketEventFunc_spec (hd.ordinary.socks.inv h) (hd.ordinary.listenersOk hok) hs'
      (hd.alike.isLocal.trans hd.isLocal) hd.write).mono ?_
      fun _ he => he.of_over fun hover => ?_
    · rintro τ ⟨l, hτ, hacts⟩
      refine ⟨l, hd.ordinary.trans hτ, fun act hact =>
        ⟨s, rest, a, f, hlist, hd.socket, hd.fde, ?_⟩⟩
      obtain ⟨hev, hra, hleft⟩ := hacts act hact
      refine ⟨hev, hra.back hd.alike fun hc => ((h.local_wf hd.socket hd.isLocal).drains hc).1, ?_⟩
      rw [← hd.packetQueue, ← hd.alike.closing]
      exact hleft
    · rw [hd.alike.oversizedRead rfl hd.others] at hover
      simpa [oversizedEvent, hlist, hd.socket, hd.fde] using hover

/-! ## `fdevent_process` -/

/-- The labels of `fdevent_process`: an `FDE_READ` event that nobody asked for is a hang-up. -/
def PollAct (revents : List (Ptr × Revents)) (act : Sockets.Act) : Prop :=
  ∃ s r, act = .alarm s ∧ (s, r) ∈ revents ∧ r.hangup = true

lemma processFd_effs {P : Sockets.Rules} (h : Inv [] socks) (s : Ptr) (rev : Revents) :
    ∃ l, Effs P l socks (processFd s rev socks) ∧ ∀ act ∈ l, PollAct [(s, rev)] act := by
  have hrefl : ∃ l, Effs P l socks socks ∧ ∀ act ∈ l, PollAct [(s, rev)] act :=
    ⟨[], .refl, by simp⟩
  unfold processFd
  split
  · exact hrefl
  next a hs =>
  split
  · exact hrefl
  next f hf =>
  obtain ⟨hl, hfw⟩ := local_of_fde h hs hf
  rw [hfw.node]
  dsimp only
  split
  · exact hrefl
  next hnew =>
  simp only [Bool.or_eq_true, not_or, Bool.not_eq_true] at hnew
  have hidle := hfw.idle hnew.1
  refine ⟨_, .single (.arm _ hs hl hf ?_ rfl hnew.1 rfl), fun act hact => ?_⟩
  · -- what is reported for writing was asked for
    refine { hfw with node := rfl, masked := ?_, idle := by simp }
    intro hev
    simp only [hidle, Events.union_write, Events.none_write, Bool.false_or] at hev
    simp only [Revents.toEvents, Revents.reported, Bool.and_eq_true] at hev
    exact hev.2
  · -- what is reported for reading was asked for, or is a hang-up
    split at hact
    · next hev =>
      simp only [hidle, Events.union_read, Events.none_read, Bool.false_or,
        Revents.toEvents, Revents.reported, Bool.and_eq_true, Bool.or_eq_true,
        Bool.not_eq_true'] at hev
      refine ⟨s, rev, mem_singleton.mp hact, by simp, hev.1.resolve_left ?_⟩
      simp [hev.2]
    · cases hact

lemma fdeventProcess_effs {P : Sockets.Rules} (revents : List (Ptr × Revents)) (h : Inv [] socks) :
    ∃ l, Effs P l socks (fdeventProcess revents socks) ∧ ∀ act ∈ l, PollAct revents act := by
  induction revents generalizing socks with
  | nil => exact ⟨[], .refl, by simp⟩
  | cons sr rest ih =>
    obtain ⟨l, hstep, hl⟩ := processFd_effs h sr.1 sr.2
    obtain ⟨m, hrest, hm⟩ := ih (hstep.inv h)
    refine ⟨l ++ m, hstep.trans hrest, fun act hact => ?_⟩
    rcases mem_append.mp hact with hact | hact
    · obtain ⟨s, r, rfl, hr, hup⟩ := hl act hact
      exact ⟨s, r, rfl, by simp [mem_singleton.mp hr], hup⟩
    · obtain ⟨s, r, rfl, hr, hup⟩ := hm act hact
      exact ⟨s, r, rfl, by simp [hr], hup⟩

/-! ## Listener events -/

private lemma connectToSmartsocket_eq (ts : Store ATransport) (listing : Bool → Bytes)
    (h : Inv [] socks) (hid : socks.localSocketNextId + 1 ≠ 0) :
    connectToSmartsocket ts listing socks.heap.next socks.create =
      .ok (((socks.create.addBare .newSmart).link socks.heap.next (socks.heap.next + 1)
        (.newLocal socks.localSocketNextId) .newSmart).write socks.heap.next
          { (ASocket.newLocal socks.localSocketNextId).addRead with
            peer := some (socks.heap.next + 1) }) := by
  let n := socks.heap.next
  let fresh : ASocket := .newLocal socks.localSocketNextId
  have hnext : socks.create.heap.next = n + 1 := rfl
  have hne : n + 1 ≠ n := Nat.succ_ne_self n
  have h1 : Inv [n] socks.create := h.create hid
  have h2 : Inv [n + 1, n] (socks.create.addBare .newSmart) :=
    h1.addBare ASocket.wf_newSmart rfl
  have hn2 : (socks.create.addBare .newSmart).heap.get n = some fresh :=
    (get_addBare_of_ne socks.create .newSmart (hnext ▸ hne.symm)).trans (get_create_self socks)
  have hss2 : (socks.create.addBare .newSmart).heap.get (n + 1) = some .newSmart :=
    get_addBare_self socks.create .newSmart
  have hn3 : ((socks.create.addBare .newSmart).link n (n + 1) fresh .newSmart).heap.get n =
      some { fresh with peer := some (n + 1) } := by
    rw [get_link hn2 hss2 hne, if_neg hne.symm, if_pos rfl]
  unfold connectToSmartsocket
  rw [createSmartSocket_eq]
  dsimp only
  rw [hnext, connectPeers_eq hn2 hss2 hne (h2.pendingRight hn2) (h2.pendingRight hss2), ok_bind]
  unfold Sockets.socketReady
  rw [Sockets.deref_eq hn3]
  refine localSocketReady_eq hn3 ⟨_, rfl, FdEvent.wf_new⟩ ?_
  exact (pendingRight_write n _ _).write_of_ne _ _

private lemma forwardClient_spec (h : Inv [] σ.socks)
    (hid : σ.socks.localSocketNextId + 1 ≠ 0) {t : TPtr} (ht : σ.Attachable t)
    {destination : Bytes} (hshort : destination.length + 1 < UInt32.size) :
    Sat (Sockets.connectToRemote σ.transports σ.socks.heap.next destination
        (σ.socks.create.put σ.socks.heap.next
          { ASocket.newLocal σ.socks.localSocketNextId with transport := some t }))
      (Effs σ.rules [] σ.socks) (RequestHalt (oversized t destination σ)) := by
  have hput : σ.socks.create.put σ.socks.heap.next
      { ASocket.newLocal σ.socks.localSocketNextId with transport := some t } =
      σ.socks.create.write σ.socks.heap.next
        { ASocket.newLocal σ.socks.localSocketNextId with transport := some t } :=
    put_eq_write ((h.create hid).pendingRight (get_create_self σ.socks)) rfl
  have hn : (σ.socks.create.write σ.socks.heap.next
      { ASocket.newLocal σ.socks.localSocketNextId with transport := some t }).heap.get
        σ.socks.heap.next =
      some { ASocket.newLocal σ.socks.localSocketNextId with transport := some t } :=
    get_set_self (get_create_self σ.socks) _
  rw [hput]
  have hover : (∃ tr, σ.transports.get t = some tr ∧
      min maxPayload tr.maxPayload < (UInt32.ofNat (destination.length + 1)).toNat) →
      oversized t destination σ = true := by
    rintro ⟨tr, htr, hlong⟩
    rw [UInt32.toNat_ofNat_of_lt' hshort] at hlong
    simpa [oversized, htr] using hlong
  refine (connectToRemote_spec destination hn rfl rfl).mono ?_
    fun _ he => .inl (he.imp_right fun h => ⟨h.1, hover h.2⟩)
  rintro _ ⟨p, tr, hp, hpayload, hlen, htr, hmax, rfl⟩
  exact .single (.forwardClient t p hid ht hp (.of_open htr hpayload hlen hmax hshort))

def oversizedAccept (l : ℕ) (σ : Server) : Bool :=
  decide (σ.socks.localSocketNextId + 1 ≠ 0) &&
    (σ.listenerList.find? (·.num = l)).any fun listener =>
      listener.func == .listenerEventFunc &&
        listener.transport.any fun t => oversized t (cString listener.connectTo) σ

lemma listenerEvent_spec (l : ℕ) (h : Inv [] σ.socks) (hok : σ.ListenersOk) :
    Sat (listenerEvent cfg l σ) (Ordinary [] σ) (RequestHalt (oversizedAccept l σ)) := by
  unfold listenerEvent
  cases hfind : σ.listenerList.find? (·.num = l) with
  | none => exact .refl σ
  | some listener =>
    have hmem : listener ∈ σ.listenerList := mem_of_find?_eq_some hfind
    by_cases hid : σ.socks.localSocketNextId + 1 = 0
    · rw [createLocalSocket_overflow hid]
      exact Or.inr (Or.inl rfl)
    simp only [createLocalSocket_eq hid, ok_bind]
    cases hfunc : listener.func with
    | ssListenerEventFunc =>
      rw [connectToSmartsocket_eq σ.transports _ h hid]
      exact .ofSocks (.single (.client hid))
    | listenerEventFunc =>
      obtain ⟨t, ht⟩ := Option.ne_none_iff_exists'.mp (hok.forwards listener hmem hfunc)
      simp only [Sockets.deref_eq (get_create_self σ.socks), ok_bind, ht]
      have hshort : (cString listener.connectTo).length + 1 < UInt32.size :=
        Nat.lt_of_le_of_lt (Nat.add_le_add_right ( takeWhile_prefix _).length_le 1)
          (hok.short listener hmem)
      refine ((forwardClient_spec h hid (.inr ⟨listener, hmem, ht⟩) hshort).mono (fun _ hx => hx)
        fun _ he => he.of_over fun hover => ?_).bind fun _ hτ => .ofSocks hτ
      simp [oversizedAccept, hfind, hfunc, ht, hid, hover]

end Server

end Adb
