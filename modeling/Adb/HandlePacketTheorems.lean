import Adb.ListenersTheorems

/-!
# The packets of streams

`A_OPEN`, `A_OKAY`, `A_CLSE` and `A_WRTE` are ordinary steps of the server. The label of the
step says what the packet has done: made a service socket, connected a waiting socket, or put
its payload in a queue.
-/

namespace Adb

open Lib List Store Sockets

namespace Sockets

open ASocket

variable {σ τ : Sockets} {s r : Ptr} {a b : ASocket}

lemma link_write (hne : r ≠ s) {c : ASocket} (hp : c.pending = a.pending) (d : ASocket) :
    (σ.link s r a b).write s d = (σ.link s r c b).write s d := by
  have hpend : ASocket.pending { a with peer := some r } =
      ASocket.pending { c with peer := some r } := hp.symm
  unfold link write
  simp [hpend, Store.set_comm _ hne]

lemma pendingRight_write (s : Ptr) (a : ASocket) (σ : Sockets) :
    PendingRight s a (σ.write s a) := by
  intro hp
  simp [write, hp]

lemma PendingRight.write_of_ne (h : PendingRight s a σ) (r : Ptr) (b : ASocket) :
    PendingRight s a (σ.write r b) := by
  intro hp hm
  unfold write at hm
  split at hm
  · exact h hp hm
  · exact h hp (mem_filter.mp hm).1

lemma findLocalSocket_spec (h : Inv [] σ) (i j : UInt32) :
    ∃ found, findLocalSocket i j σ = .ok found ∧ ∀ s, found = some s →
      ∃ a, σ.heap.get s = some a ∧ a.isLocal = true ∧ a.closing = false ∧ a.id = i ∧
        (j = 0 ∨ ∃ r b, a.peer = some r ∧ σ.heap.get r = some b ∧ b.id = j) := by
  unfold findLocalSocket
  have hmem : ∀ s ∈ σ.localSocketList,
      ∃ a, σ.heap.get s = some a ∧ a.isLocal = true ∧ a.closing = false := fun s => h.mem_list
  generalize σ.localSocketList = list at hmem
  induction list with
  | nil => exact ⟨none, rfl, by simp⟩
  | cons s rest ih =>
    obtain ⟨a, hs, hl, hc⟩ := hmem s (by simp)
    rw [findLocalSocket.go, deref_eq hs, ok_bind]
    split
    · exact ih fun p hp => hmem p (by simp [hp])
    next hid =>
    have hid : a.id = i := by simpa using hid
    split
    · next hj => exact ⟨some s, rfl, fun _ hs' => ⟨a, by cases hs'; exact hs, hl, hc, hid, .inl hj⟩⟩
    cases hpeer : a.peer with
    | none => exact ⟨none, rfl, by simp⟩
    | some r =>
      obtain ⟨-, -, b, hr, -⟩ := h.paired s a r hs (by simp) hpeer
      refine ⟨_, by simp only [deref_eq hr, ok_bind]; rfl, ?_⟩
      intro s' hs'
      split at hs'
      · next hb =>
        cases hs'
        exact ⟨a, hs, hl, hc, hid, .inr ⟨r, b, hpeer, hr, hb⟩⟩
      · cases hs'

lemma findLocalSocket_eq (h : Inv [] σ) {i j : UInt32} (hs : σ.heap.get s = some a)
    (hl : a.isLocal = true) (hc : a.closing = false) (hid : a.id = i)
    (hj : j = 0 ∨ ∃ r b, a.peer = some r ∧ σ.heap.get r = some b ∧ b.id = j) :
    findLocalSocket i j σ = .ok (some s) := by
  have hmem : s ∈ σ.localSocketList := (h.listed s).mpr ⟨a, hs, hl, hc⟩
  have hall : ∀ p ∈ σ.localSocketList, ∃ c, σ.heap.get p = some c ∧ c.isLocal = true :=
    fun p hp => by
      obtain ⟨c, hp, hl, -⟩ := h.mem_list hp
      exact ⟨c, hp, hl⟩
  unfold findLocalSocket
  generalize σ.localSocketList = list at hmem hall
  induction list with
  | nil => cases hmem
  | cons p rest ih =>
    obtain ⟨c, hp, hcl⟩ := hall p (by simp)
    rw [findLocalSocket.go, deref_eq hp, ok_bind]
    by_cases hci : c.id = i
    · -- ids are unique, so this is the socket
      obtain rfl : p = s := h.idsInj p s c a hp hs hcl hl (hci.trans hid.symm)
      rw [hs] at hp
      cases hp
      rw [if_neg (by simpa using hci)]
      rcases hj with hj | ⟨r, b, hpeer, hr, hb⟩
      · rw [if_pos hj]
        rfl
      split
      · rfl
      · simp only [hpeer, deref_eq hr, ok_bind, hb, if_true]
        rfl
    · rw [if_pos (by simpa using hci)]
      rcases mem_cons.mp hmem with rfl | hmem
      · rw [hs] at hp
        cases hp
        exact absurd hid hci
      · exact ih hmem fun q hq => hall q (by simp [hq])

end Sockets

namespace Server

open Sockets (Inv Effs)

variable {σ τ : Server} {t : TPtr} {tr : ATransport} {l : List Sockets.Act} {E : Halt → Prop}

lemma onSockets_ordinary {f : Store ATransport → Sockets → Res Sockets}
    (h : Sat (f σ.transports σ.socks) (Effs σ.rules l σ.socks) E) :
    Sat (onSockets f σ) (Ordinary l σ) E :=
  h.bind fun _ hτ => .ofSocks hτ

lemma sendPacket_spec (p : APacket) (t : TPtr) (σ : Server) :
    Sat (sendPacket p t σ)
      (fun τ => ∃ tr, σ.transports.get t = some tr ∧ τ = σ.emit (.sent t (sealPacket p tr)))
      (· = .dangling) := by
  refine (Sockets.sendPacket_spec σ.transports p t σ.socks).bind ?_
  rintro _ ⟨tr, htr, rfl⟩
  exact ⟨tr, htr, rfl⟩

variable {p : APacket}

lemma faint_close {t : TPtr} (hp : p.msg.command = A_CLSE) : (Obs.sent t p).faint = true := by
  simp only [Obs.faint, Obs.neutral, Obs.notable, APacket.greets, hp]
  rfl

lemma Ordinary.online (h : Ordinary l σ τ) (htr : σ.transports.get t = some tr) :
    ∃ tr', τ.transports.get t = some tr' ∧ tr.Alike tr' := by
  obtain ⟨tr', htr'⟩ := h.kept t tr htr
  rcases h.transports t tr' htr' with ⟨tr0, htr0, hal⟩ | ⟨hn, -⟩
  · rw [htr] at htr0
    cases htr0
    exact ⟨tr', htr', hal⟩
  · exact absurd (lt_next htr) (Nat.not_lt_of_le hn)

/-! ## The sockets that packets are for -/

def isOnline (σ : Server) (t : TPtr) : Bool := (σ.transports.get t).any (·.online)

def finds (localId peerId : UInt32) (σ : Server) : Option Ptr :=
  match σ.socks.findLocalSocket localId peerId with
  | .ok found => found
  | .error _ => none

def peerOf (s : Ptr) (σ : Server) : Option ASocket :=
  ((σ.socks.heap.get s).bind (·.peer)).bind σ.socks.heap.get

def okayTarget (t : TPtr) (p : APacket) (σ : Server) : Option Ptr :=
  if σ.isOnline t && p.msg.arg0 != 0 && p.msg.arg1 != 0 then
    (σ.finds p.msg.arg1 0).filter fun s => (σ.peerOf s).all (·.id = p.msg.arg0)
  else none

def clseTarget (t : TPtr) (p : APacket) (σ : Server) : Option Ptr :=
  if σ.isOnline t && p.msg.arg1 != 0 then
    (σ.finds p.msg.arg1 p.msg.arg0).filter fun s =>
      (σ.peerOf s).all fun b => p.msg.arg0 != 0 || b.transport == some t
  else none

def wrteTarget (t : TPtr) (p : APacket) (σ : Server) : Option Ptr :=
  if σ.isOnline t && p.msg.arg0 != 0 && p.msg.arg1 != 0 then σ.finds p.msg.arg1 p.msg.arg0
  else none

structure Addressed (p : APacket) (heap : Store ASocket) (s : Ptr) (a : ASocket) : Prop where
  socket : heap.get s = some a
  isLocal : a.isLocal = true
  closing : a.closing = false
  id : a.id = p.msg.arg1

variable {s : Ptr} {a : ASocket}

lemma Addressed.arg1_ne (h : Inv [] σ.socks) (ha : Addressed p σ.socks.heap s a) : p.msg.arg1 ≠ 0 :=
  ha.id ▸ (h.local_wf ha.socket ha.isLocal).id

lemma okayTarget_eq (h : Inv [] σ.socks)
    (hon : σ.Online t) (harg : p.msg.arg0 ≠ 0) (ha : Addressed p σ.socks.heap s a)
    (hpeer : ∀ r b, a.peer = some r → σ.socks.heap.get r = some b → b.id = p.msg.arg0) :
    okayTarget t p σ = some s := by
  obtain ⟨tr, htr, hon⟩ := hon
  have hfind := findLocalSocket_eq h ha.socket ha.isLocal ha.closing ha.id (.inl rfl)
  have hfor : (σ.peerOf s).all (·.id = p.msg.arg0) = true := by
    cases hp : a.peer with
    | none => simp [peerOf, ha.socket, hp]
    | some r =>
      obtain ⟨-, -, b, hr, -⟩ := h.paired s a r ha.socket (by simp) hp
      simp [peerOf, ha.socket, hp, hr, hpeer r b hp hr]
  simp [okayTarget, isOnline, htr, hon, harg, ha.arg1_ne h, finds, hfind, Option.filter, hfor]

lemma wrteTarget_eq {r : Ptr} {b : ASocket} (h : Inv [] σ.socks)
    (hon : σ.Online t) (harg : p.msg.arg0 ≠ 0) (ha : Addressed p σ.socks.heap s a)
    (hpeer : a.peer = some r) (hr : σ.socks.heap.get r = some b) (hb : b.id = p.msg.arg0) :
    wrteTarget t p σ = some s := by
  obtain ⟨tr, htr, hon⟩ := hon
  have hfind := findLocalSocket_eq h ha.socket ha.isLocal ha.closing ha.id
    (.inr ⟨r, b, hpeer, hr, hb⟩)
  simp [wrteTarget, isOnline, htr, hon, harg, ha.arg1_ne h, finds, hfind]

/-! ## `A_OKAY` -/

def readied (s : Ptr) (a : ASocket) (socks : Sockets) : Sockets :=
  ((socks.emit (.readied s)).emits (Sockets.readyStatus s a)).write s a.plain.addRead

def connected (s : Ptr) (a : ASocket) (remote : UInt32) (t : TPtr) (socks : Sockets) : Sockets :=
  (((socks.addBare (.newRemote remote t)).link s socks.heap.next a.plain
    (.newRemote remote t)).emits (.readied s :: Sockets.readyStatus s a)).write s
      { a.plain.addRead with peer := some socks.heap.next }

inductive OkayOutcome (t : TPtr) (p : APacket) (σ : Server) : List Sockets.Act → Server → Prop
  | ignored (hnone : okayTarget t p σ = none) : OkayOutcome t p σ [] σ
  /-- there is no such socket (any more), and the other side is told -/
  | unknown {q : APacket} (hq : q.msg.command = A_CLSE)
      (hnone : okayTarget t p σ = none) :
      OkayOutcome t p σ [] (σ.emit (.sent t q))
  | connect {s : Ptr} {a : ASocket} {tr : ATransport} (hfind : okayTarget t p σ = some s)
      (hs : σ.socks.heap.get s = some a) (hl : a.isLocal = true) (hc : a.closing = false)
      (hid : a.id = p.msg.arg1) (hpeer : a.peer = none) (harg : p.msg.arg0 ≠ 0)
      (htr : σ.transports.get t = some tr) (hon : tr.online = true) :
      OkayOutcome t p σ [.connect s a.id p.msg.arg0 t]
        { σ with socks := connected s a p.msg.arg0 t σ.socks }
  | ready {s r : Ptr} {a b : ASocket} (hfind : okayTarget t p σ = some s)
      (hs : σ.socks.heap.get s = some a) (hl : a.isLocal = true) (hpeer : a.peer = some r)
      (hr : σ.socks.heap.get r = some b) (hb : b.id = p.msg.arg0) (hid : a.id = p.msg.arg1) :
      OkayOutcome t p σ [.ready s] { σ with socks := readied s a σ.socks }

variable {cfg : Config} {socks : Sockets}

private lemma ready_eq
    (hs : socks.heap.get s = some a) (hf : ∃ f, a.fde = some f ∧ f.Wf) (hshut : a.shutdown = none)
    (hhooks : a.ready = .localSocketReady ∧ a.close = .localSocketClose ∨
      a.ready = .localSocketReadyNotify ∧ a.close = .localSocketCloseNotify)
    (hp : Sockets.PendingRight s a socks) :
    ready cfg s { σ with socks := socks } = .ok { σ with socks := readied s a socks } := by
  have hs' : (socks.emit (.readied s)).heap.get s = some a := hs
  unfold ready onSockets
  dsimp only
  rw [socketReady_local _ hs' hf hshut hhooks hp]
  rfl

variable {remote : UInt32}

private lemma connect_eq (h : Inv [] σ.socks) (hs : σ.socks.heap.get s = some a)
    (hl : a.isLocal = true) (hremote : remote ≠ 0) :
    (do
      let (r, socks) ← σ.socks.createRemoteSocket remote t
      let socks ← socks.connectPeers s r
      ready cfg s { σ with socks := socks }) =
      .ok { σ with socks := connected s a remote t σ.socks } := by
  have hsn : s ≠ σ.socks.heap.next := ne_next hs
  have hw := h.local_wf hs hl
  have h1 := h.addBare (ASocket.wf_newRemote (t := t) hremote) rfl
  have hs1 := (get_addBare_of_ne σ.socks (.newRemote remote t) hsn).trans hs
  have hr1 := get_addBare_self σ.socks (.newRemote remote t)
  rw [createRemoteSocket_eq hremote, ok_bind]
  dsimp only
  rw [connectPeers_eq hs1 hr1 hsn.symm (h1.pendingRight hs1) (h1.pendingRight hr1), ok_bind]
  have hs2 : ((σ.socks.addBare (.newRemote remote t)).link s σ.socks.heap.next a
      (.newRemote remote t)).heap.get s = some { a with peer := some σ.socks.heap.next } := by
    rw [get_link hs1 hr1 hsn.symm, if_neg hsn, if_pos rfl]
  have hp2 : Sockets.PendingRight s { a with peer := some σ.socks.heap.next }
      ((σ.socks.addBare (.newRemote remote t)).link s σ.socks.heap.next a (.newRemote remote t)) :=
    (pendingRight_write s _ _).write_of_ne _ _
  rw [ready_eq hs2 hw.fde hw.shutdown hw.hooks_eq hp2]
  -- the hooks the sockets were linked with have been replaced
  have hwrite : ((σ.socks.addBare (.newRemote remote t)).link s σ.socks.heap.next a
      (.newRemote remote t)).write s { a.plain.addRead with peer := some σ.socks.heap.next } = _ :=
    link_write (a := a) (c := a.plain) hsn.symm rfl _
  have hemit : ∀ (o : Obs) (obs : List Obs) (c : ASocket) (ρ : Sockets),
      ((ρ.emit o).emits obs).write s c = (ρ.write s c).emits (o :: obs) := by
    intro o obs c ρ
    simp [Sockets.emits, Sockets.emit, Sockets.write]
  have hemits : ∀ (obs : List Obs) (c : ASocket) (ρ : Sockets),
      (ρ.emits obs).write s c = (ρ.write s c).emits obs := fun _ _ _ => rfl
  have hsocks : readied s { a with peer := some σ.socks.heap.next }
      ((σ.socks.addBare (.newRemote remote t)).link s σ.socks.heap.next a
        (.newRemote remote t)) = connected s a remote t σ.socks := by
    unfold readied connected
    rw [hemit]
    exact congrArg (Sockets.emits · _) hwrite
  rw [hsocks]

lemma sendClose_spec {loc : UInt32} :
    Sat (sendClose loc remote t σ)
      (fun τ => ∃ q : APacket, q.msg.command = A_CLSE ∧ τ = σ.emit (.sent t q))
      (· = .dangling) := by
  refine (sendPacket_spec _ t σ).imp ?_
  rintro _ ⟨tr, -, rfl⟩
  exact ⟨_, by exact rfl, rfl⟩

lemma handleOkay_spec (h : Inv [] σ.socks) :
    Sat (handleOkay cfg t p σ) (fun τ => ∃ l, OkayOutcome t p σ l τ) (· = .dangling) := by
  refine transport_spec.bind fun tr htr => ?_
  split
  · next hguard =>
    simp only [Bool.and_eq_true, bne_iff_ne, ne_eq] at hguard
    obtain ⟨⟨hon, harg⟩, harg1⟩ := hguard
    obtain ⟨found, hfind, hfound⟩ := findLocalSocket_spec h p.msg.arg1 0
    have htarget : okayTarget t p σ =
        found.filter fun s => (σ.peerOf s).all (·.id = p.msg.arg0) := by
      simp [okayTarget, isOnline, htr, hon, harg, harg1, finds, hfind]
    rw [hfind]
    cases found with
    | none =>
      refine sendClose_spec.imp ?_
      rintro _ ⟨q, hq, rfl⟩
      exact ⟨[], .unknown hq htarget⟩
    | some s =>
      obtain ⟨a, hs, hl, hc, hid, -⟩ := hfound s rfl
      simp only [Sockets.deref_eq hs, ok_bind]
      cases hpeer : a.peer with
      | none =>
        have hfor : okayTarget t p σ = some s := by
          rw [htarget]
          simp [Option.filter, peerOf, hs, hpeer]
        refine (connect_eq h hs hl harg).symm ▸ ?_
        exact ⟨_, .connect hfor hs hl hc hid hpeer harg htr hon⟩
      | some r =>
        obtain ⟨-, -, b, hr, -⟩ := h.paired s a r hs (by simp) hpeer
        have hw := h.local_wf hs hl
        simp only [Sockets.deref_eq hr, ok_bind]
        split
        · next hb =>
          have hfor : okayTarget t p σ = some s := by
            rw [htarget]
            simp [Option.filter, peerOf, hs, hpeer, hr, hb]
          rw [show ready cfg s σ = _ from
            ready_eq hs hw.fde hw.shutdown hw.hooks_eq (h.pendingRight hs)]
          exact ⟨_, .ready hfor hs hl hpeer hr hb hid⟩
        · next hb =>
          refine ⟨_, .ignored ?_⟩
          rw [htarget]
          simp [Option.filter, peerOf, hs, hpeer, hr, hb]
  · next hguard =>
    refine ⟨_, .ignored ?_⟩
    rw [okayTarget, if_neg (by simpa [isOnline, htr] using hguard)]

lemma OkayOutcome.ordinary (h : OkayOutcome t p σ l τ) : Ordinary l σ τ := by
  cases h with
  | ignored => exact .refl σ
  | @unknown q hq hfind => exact (emit_apart (faint_close hq)).ordinary
  | @connect s a tr hfind hs hl hc hid hpeer harg htr hon =>
    have ht : σ.Attachable t := .inl ⟨tr, htr, .inl hon⟩
    exact .ofSocks (.single (.connect _ t _ hs hl hpeer hc harg ht ⟨tr, htr, hon⟩
      (readyStatus_cases s a)))
  | @ready s r a b hfind hs hl hpeer hr hb hid =>
    exact .ofSocks (.single (.readied _ hs hl hpeer (readyStatus_cases s a)))

/-! ## `A_CLSE` -/

inductive ClseOutcome (t : TPtr) (p : APacket) (σ : Server) : Server → Prop
  | ignored (hnone : clseTarget t p σ = none) : ClseOutcome t p σ σ
  | closed {s : Ptr} {a : ASocket} {socks : Sockets} (hfind : clseTarget t p σ = some s)
      (hs : σ.socks.heap.get s = some a) (hl : a.isLocal = true) (hc : a.closing = false)
      (hclose : Sockets.socketClose σ.transports s σ.socks = .ok socks) :
      ClseOutcome t p σ { σ with socks := socks }

lemma handleClse_spec (h : Inv [] σ.socks) :
    Sat (handleClse t p σ) (ClseOutcome t p σ) Halt.Excused := by
  refine (transport_spec.mono (fun _ h => h) fun _ he => .inr he).bind fun tr htr => ?_
  split
  · next hguard =>
    simp only [Bool.and_eq_true, bne_iff_ne, ne_eq] at hguard
    obtain ⟨hon, harg1⟩ := hguard
    obtain ⟨found, hfind, hfound⟩ := findLocalSocket_spec h p.msg.arg1 p.msg.arg0
    have htarget : clseTarget t p σ = found.filter fun s =>
        (σ.peerOf s).all fun b => p.msg.arg0 != 0 || b.transport == some t := by
      simp [clseTarget, isOnline, htr, hon, harg1, finds, hfind]
    rw [hfind]
    cases found with
    | none => exact .ignored htarget
    | some s =>
      obtain ⟨a, hs, hl, hc, -⟩ := hfound s rfl
      simp only [Sockets.deref_eq hs, ok_bind]
      have hclose (hfor : clseTarget t p σ = some s) :
          Sat (onSockets (fun ts => Sockets.socketClose ts s) σ) (ClseOutcome t p σ)
            Halt.Excused := by
        have hspec : Sat (Sockets.socketClose σ.transports s σ.socks)
            (Sockets.Effs σ.rules [] σ.socks) Halt.Excused := socketClose_effs h hs hc
        exact hspec.self.bind fun _ hok => .closed hfor hs hl hc hok.1
      cases hpeer : a.peer with
      | none =>
        refine hclose ?_
        rw [htarget]
        simp [Option.filter, peerOf, hs, hpeer]
      | some r =>
        obtain ⟨-, -, b, hr, -⟩ := h.paired s a r hs (by simp) hpeer
        simp only [Sockets.deref_eq hr, ok_bind, pure_eq_ok]
        have hpeerOf : σ.peerOf s = some b := by simp [peerOf, hs, hpeer, hr]
        split
        · next hrefused =>
          refine .ignored ?_
          rw [htarget]
          simp only [Bool.and_eq_true, beq_iff_eq, bne_iff_ne, ne_eq] at hrefused
          simp [Option.filter, hpeerOf, hrefused.1, hrefused.2]
        · next hallowed =>
          refine hclose ?_
          rw [htarget]
          simp only [Bool.and_eq_true, beq_iff_eq, bne_iff_ne, ne_eq, not_and, not_not] at hallowed
          by_cases harg : p.msg.arg0 = 0
          · simp [Option.filter, hpeerOf, hallowed harg]
          · simp [Option.filter, hpeerOf, harg]
  · next hguard =>
    refine .ignored ?_
    rw [clseTarget, if_neg (by simpa [isOnline, htr] using hguard)]

lemma ClseOutcome.ordinary (h : ClseOutcome t p σ τ) (hi : Inv [] σ.socks) : Ordinary [] σ τ := by
  cases h with
  | ignored => exact .refl σ
  | closed hfind hs hl hc hclose => exact .ofSocks ((socketClose_effs hi hs hc).of_ok hclose)

/-! ## `A_WRTE` -/

inductive WrteOutcome (t : TPtr) (p : APacket) (σ : Server) : Server → Prop
  | ignored (hnone : wrteTarget t p σ = none) : WrteOutcome t p σ σ
  | queued {s r : Ptr} {a b : ASocket} {x : Int × Sockets} {q : APacket}
      (hfind : wrteTarget t p σ = some s) (hs : σ.socks.heap.get s = some a) (hl : a.isLocal = true) (hpeer : a.peer = some r)
      (hr : σ.socks.heap.get r = some b) (hb : b.id = p.msg.arg0) (hid : a.id = p.msg.arg1)
      (harg : p.msg.arg0 ≠ 0)
      (hx : Sockets.Enqueued s a p.payload σ.socks x)
      (hq : Sockets.IsPacket q A_OKAY a.id p.msg.arg0) :
      WrteOutcome t p σ { σ with socks := if x.1 = 0 then x.2.emit (.sent t q) else x.2 }

private lemma findLocalSocket_peer (h : Inv [] σ.socks) {i j : UInt32} (hj : j ≠ 0)
    (hfind : σ.socks.findLocalSocket i j = .ok (some s)) :
    ∃ a r b, σ.socks.heap.get s = some a ∧ a.isLocal = true ∧ a.closing = false ∧ a.id = i ∧
      a.peer = some r ∧ σ.socks.heap.get r = some b ∧ b.id = j := by
  obtain ⟨found, hfind', hfound⟩ := findLocalSocket_spec h i j
  rw [hfind] at hfind'
  cases hfind'
  obtain ⟨a, hs, hl, hc, hid, hj' | ⟨r, b, hpeer, hr, hb⟩⟩ := hfound s rfl
  · exact absurd hj' hj
  · exact ⟨a, r, b, hs, hl, hc, hid, hpeer, hr, hb⟩

lemma handleWrte_spec (h : Inv [] σ.socks) (hp : p.payload ≠ []) :
    Sat (handleWrte t p σ) (WrteOutcome t p σ) Halt.Excused := by
  refine (transport_spec.mono (fun _ h => h) fun _ he => .inr he).bind fun tr htr => ?_
  split
  · next hguard =>
    simp only [Bool.and_eq_true, bne_iff_ne, ne_eq] at hguard
    obtain ⟨⟨hon, harg⟩, harg1⟩ := hguard
    obtain ⟨found, hfind, -⟩ := findLocalSocket_spec h p.msg.arg1 p.msg.arg0
    have htarget : wrteTarget t p σ = found := by
      simp [wrteTarget, isOnline, htr, hon, harg, harg1, finds, hfind]
    rw [hfind]
    cases found with
    | none => exact .ignored htarget
    | some s =>
      obtain ⟨a, r, b, hs, hl, hc, hid, hpeer, hr, hb⟩ := findLocalSocket_peer h harg hfind
      have hkind : a.enqueue = .localSocketEnqueue := by simpa [ASocket.isLocal] using hl
      simp only [listedEnqueue, Sockets.deref_eq hs, ok_bind, hkind]
      refine (localSocketEnqueue_spec h hs hl hc hp).bind ?_
      rintro ⟨rc, socks⟩ hx
      split
      · next hrc =>
        obtain ⟨a', hs', hsteady⟩ := hx.steady hs
        simp only [Sockets.deref_eq hs', ok_bind, sendReady]
        refine ((sendPacket_spec _ t _).mono ?_ fun _ he => .inr he)
        rintro _ ⟨tr', -, rfl⟩
        have hout := WrteOutcome.queued htarget hs hl hpeer hr hb hid harg hx
          (q := sealPacket { msg := { command := A_OKAY, arg0 := a'.id, arg1 := p.msg.arg0 } } tr')
          ⟨rfl, hsteady.id, rfl⟩
        rw [if_pos hrc] at hout
        exact hout
      · next hrc =>
        have hout := WrteOutcome.queued (t := t) htarget hs hl hpeer hr hb hid harg hx
          (q := { msg := { command := A_OKAY, arg0 := a.id, arg1 := p.msg.arg0 } })
          ⟨rfl, rfl, rfl⟩
        rw [if_neg hrc] at hout
        exact hout
  · next hguard =>
    refine .ignored ?_
    rw [wrteTarget, if_neg (by simpa [isOnline, htr] using hguard)]

lemma handleWrte_empty (h : Inv [] σ.socks) (hp : p.payload = []) :
    Sat (handleWrte t p σ) (fun τ => τ = σ ∧ wrteTarget t p σ = none)
      (fun e => e = .dangling ∧ wrteTarget t p σ = none ∨
        e = .check .appendEmpty ∧ wrteTarget t p σ ≠ none) := by
  unfold handleWrte
  cases htr : σ.transports.get t with
  | none =>
    rw [transport_none htr]
    exact Or.inl ⟨rfl, by simp [wrteTarget, isOnline, htr]⟩
  | some tr => ?_
  rw [transport_eq htr, ok_bind]
  split
  · next hguard =>
    simp only [Bool.and_eq_true, bne_iff_ne, ne_eq] at hguard
    obtain ⟨⟨hon, harg0⟩, harg1⟩ := hguard
    obtain ⟨found, hfind, -⟩ := findLocalSocket_spec h p.msg.arg1 p.msg.arg0
    have htarget : wrteTarget t p σ = found := by
      simp [wrteTarget, isOnline, htr, hon, harg0, harg1, finds, hfind]
    rw [hfind, htarget]
    cases found with
    | none => exact ⟨rfl, rfl⟩
    | some s =>
      obtain ⟨a, r, b, hs, hl, -⟩ := findLocalSocket_peer h harg0 hfind
      have hkind : a.enqueue = .localSocketEnqueue := by simpa [ASocket.isLocal] using hl
      have happend : a.packetQueue.append [] = .error (.check .appendEmpty) := rfl
      simp only [listedEnqueue, Sockets.deref_eq hs, ok_bind, hkind, Sockets.localSocketEnqueue, hp,
        happend, error_bind]
      exact Or.inr ⟨rfl, Option.some_ne_none s⟩
  · next hguard =>
    exact ⟨rfl, by rw [wrteTarget, if_neg (by simpa [isOnline, htr] using hguard)]⟩

inductive WrteActs (s : Ptr) (t : TPtr) (data : Bytes) (b : ASocket) : List Sockets.Act → Prop
  | deliver (hb : b.isRemote = true) : WrteActs s t data b [.deliver s t data]
  | inject (hb : b.isLocal = true) : WrteActs s t data b [.inject s]
  | echo (hb : b.isLocal = true) : WrteActs s t data b [.inject s, .inject s]

lemma local_or_remote (h : Inv [] socks) {r : Ptr} {b : ASocket}
    (hr : socks.heap.get r = some b) (hb : b.id ≠ 0) : b.isLocal = true ∨ b.isRemote = true := by
  have hw := h.wf r b hr
  unfold ASocket.Wf at hw
  cases he : b.enqueue with
  | localSocketEnqueue => exact .inl (by simp [ASocket.isLocal, he])
  | remoteSocketEnqueue => exact .inr (by simp [ASocket.isRemote, he])
  | smartSocketEnqueue =>
    rw [he] at hw
    exact absurd hw.2.2.2.2 hb
  | deviceTrackerEnqueue =>
    rw [he] at hw
    exact absurd hw.2.2.2.2.1 hb

lemma WrteOutcome.ordinary (h : WrteOutcome t p σ τ) (hi : Inv [] σ.socks) :
    τ = σ ∧ wrteTarget t p σ = none ∨
      ∃ s r a b l, σ.socks.heap.get s = some a ∧ a.peer = some r ∧ a.id = p.msg.arg1 ∧
        σ.socks.heap.get r = some b ∧ b.id = p.msg.arg0 ∧ WrteActs s t p.payload b l ∧
        Ordinary l σ τ := by
  cases h with
  | ignored hnone => exact .inl ⟨rfl, hnone⟩
  | @queued s r a b x q hfind hs hl hpeer hr hb hid harg hx hq =>
    refine .inr ?_
    rcases local_or_remote hi hr (hb ▸ harg) with hbl | hbr
    · obtain ⟨a', hs', hsteady⟩ := hx.steady hs
      have hsr : r ≠ s := (hi.paired s a r hs (by simp) hpeer).2.1
      have hr' : x.2.heap.get r = some b := hx.get_of_ne hsr ▸ hr
      have hq' : Sockets.IsPacket q A_OKAY a'.id b.id := by rw [hsteady.id, hb]; exact hq
      have hstep := hx.inject (P := σ.rules) hs hl hpeer hr hbl
      split
      · have hecho := hstep.tail (.echo t q hs' (hsteady.isLocal.trans hl)
          (hsteady.peer.trans hpeer) hr' hbl hq')
        exact ⟨s, r, a, b, _, hs, hpeer, hid, hr, hb, .echo hbl, .ofSocks hecho⟩
      · exact ⟨s, r, a, b, _, hs, hpeer, hid, hr, hb, .inject hbl, .ofSocks hstep⟩
    · have hstep := hx.deliver (P := σ.rules) hs hl hpeer hr hbr (t := t) (hb ▸ hq)
      exact ⟨s, r, a, b, _, hs, hpeer, hid, hr, hb, .deliver hbr, .ofSocks hstep⟩

/-! ## `A_OPEN` -/

def idsUsedUp (cfg : Config) (name : Bytes) (t : TPtr) (σ : Server) : Bool :=
  returns (serviceToFd cfg name t σ) fun x => x.1 && x.2.socks.localSocketNextId + 1 == 0

def openOverflows (cfg : Config) (t : TPtr) (p : APacket) (σ : Server) : Bool :=
  (σ.transports.get t).any (·.online) && p.msg.arg0 != 0 && p.msg.arg1 == 0 &&
    idsUsedUp cfg (cString p.payload) t σ

def OpenHalt (used : Bool) (h : Halt) : Prop :=
  h.Excused ∨ h = .fatal .socketIdOverflow ∧ used = true

lemma serviceToFd_apart (cfg : Config) {name : Bytes} (hname : name.length < UInt32.size)
    (hok : σ.ListenersOk) (ht : σ.Attachable t) :
    Sat (serviceToFd cfg name t σ) (fun x => Apart σ x.2) (· = .dangling) := by
  unfold serviceToFd
  split
  · exact Apart.refl σ
  split
  · exact Apart.refl σ
  split
  · next hreverse =>
    -- what follows `reverse:` is shorter than the name
    have hshort : (name.drop 8).length + 1 < UInt32.size := by
      have hpre := isPrefixOf_iff_prefix.mp (Bool.and_eq_true_iff.mp hreverse).1
      have hlen : 8 ≤ name.length := hpre.length_le
      rw [length_drop]
      omega
    refine (handleForwardRequest_apart hshort hok ?_).bind fun x hx => hx
    rintro u error hu
    cases hu
    exact ht
  · exact Apart.refl σ

/-- The sockets after a service socket has been made for an `A_OPEN` from `remote`, with the
answer `q`. -/
def accepted (exits : Bool) (remote : UInt32) (t : TPtr) (q : APacket) (socks : Sockets) :
    Sockets :=
  ((((socks.create.write socks.heap.next (.newService socks.localSocketNextId exits)).addBare
      (.newRemote remote t)).link socks.heap.next (socks.heap.next + 1)
        (.newService socks.localSocketNextId exits) (.newRemote remote t)).emits
      [.accepted socks.heap.next socks.localSocketNextId remote, .sent t q,
        .readied socks.heap.next]).write socks.heap.next
    { (ASocket.newService socks.localSocketNextId exits).addRead with
      peer := some (socks.heap.next + 1) }

private lemma createService_eq (h : Inv [] socks)
    (hid : socks.localSocketNextId + 1 ≠ 0) (exits : Bool) :
    (do
      let (s, socks) ← socks.createLocalSocket
      let a ← socks.deref s
      let socks := if exits then socks.put s { a with exitOnClose := true } else socks
      pure (s, socks) : Res (Ptr × Sockets)) =
      .ok (socks.heap.next,
        socks.create.write socks.heap.next (.newService socks.localSocketNextId exits)) := by
  have hs := get_create_self socks
  have hp := (h.create hid).pendingRight hs
  rw [createLocalSocket_eq hid]
  simp only [Sockets.deref_eq hs, ok_bind, pure_eq_ok]
  cases exits with
  | true =>
    have hput : socks.create.put socks.heap.next
        { ASocket.newLocal socks.localSocketNextId with exitOnClose := true } = _ :=
      put_eq_write hp rfl
    rw [hput]
    rfl
  | false =>
    have hsame := write_get hs hp
    exact congrArg _ (congrArg _ hsame.symm)

inductive ServiceOutcome (σ : Server) : Option Ptr × Server → Prop
  | none {τ : Server} (h : Apart σ τ) : ServiceOutcome σ (none, τ)
  | some {τ : Server} (exits : Bool) (h : Apart σ τ)
      (hid : τ.socks.localSocketNextId + 1 ≠ 0) :
      ServiceOutcome σ (some τ.socks.heap.next, { τ with
        socks := τ.socks.create.write τ.socks.heap.next
          (.newService τ.socks.localSocketNextId exits) })

lemma createLocalServiceSocket_spec (cfg : Config) {name : Bytes}
    (hname : name.length < UInt32.size) (h : Inv [] σ.socks) (hok : σ.ListenersOk)
    (ht : σ.Attachable t) :
    Sat (createLocalServiceSocket cfg name t σ) (ServiceOutcome σ)
      (OpenHalt (idsUsedUp cfg name t σ)) := by
  refine ((serviceToFd_apart cfg hname hok ht).self.mono (fun _ h => h)
    fun _ he => .inl (.inr he)).bind ?_
  rintro ⟨fd, τ⟩ ⟨heq, hτ⟩
  cases fd with
  | false => exact .none hτ
  | true =>
    dsimp only
    by_cases hid : τ.socks.localSocketNextId + 1 = 0
    · rw [createLocalSocket_overflow hid]
      exact Or.inr ⟨rfl, by simp [idsUsedUp, returns, heq, hid]⟩
    have heq := createService_eq (hτ.ordinary.socks.inv h) hid (exitsOnClose cfg name)
    rw [createLocalSocket_eq hid] at heq ⊢
    simp only [if_true, ok_bind, Sockets.deref_eq (get_create_self τ.socks), pure_eq_ok,
      Except.ok.injEq, Prod.mk.injEq, true_and] at heq ⊢
    rw [heq]
    exact .some (exitsOnClose cfg name) hτ hid

private lemma accept_spec (h : Inv [] σ.socks) (hid : σ.socks.localSocketNextId + 1 ≠ 0)
    {exits : Bool} (hremote : remote ≠ 0) :
    Sat (do
        let (r, socks) ← (σ.socks.create.write σ.socks.heap.next
          (.newService σ.socks.localSocketNextId exits)).createRemoteSocket remote t
        let socks ← socks.connectPeers σ.socks.heap.next r
        let a ← socks.deref σ.socks.heap.next
        let σ' := { σ with socks := socks.emit (.accepted σ.socks.heap.next a.id remote) }
        let σ' ← sendReady a.id remote t σ'
        ready cfg σ.socks.heap.next σ')
      (fun τ => ∃ q, Sockets.IsPacket q A_OKAY σ.socks.localSocketNextId remote ∧
        τ = { σ with socks := accepted exits remote t q σ.socks }) (· = .dangling) := by
  let n := σ.socks.heap.next
  let service : ASocket := .newService σ.socks.localSocketNextId exits
  have hw : service.WfLocal := ASocket.wfLocal_newService h.nextId exits
  have hs0 := get_create_self σ.socks
  have h1 : Inv [n] (σ.socks.create.write n service) :=
    (h.create hid).write hs0 (ASocket.wf_of_local hw rfl) ⟨rfl, rfl, rfl⟩ id
      fun hn => absurd (by simp [n]) hn
  have hs1 : (σ.socks.create.write n service).heap.get n = some service :=
    get_set_self hs0 _
  have h2 := h1.addBare (ASocket.wf_newRemote (t := t) hremote) rfl
  have hnr : n ≠ (σ.socks.create.write n service).heap.next := ne_next hs1
  have hs2 := (get_addBare_of_ne _ (.newRemote remote t) hnr).trans hs1
  have hr2 := get_addBare_self (σ.socks.create.write n service) (.newRemote remote t)
  rw [createRemoteSocket_eq hremote, ok_bind]
  dsimp only
  rw [connectPeers_eq hs2 hr2 hnr.symm (h2.pendingRight hs2) (h2.pendingRight hr2), ok_bind]
  have hs3 : (((σ.socks.create.write n service).addBare (.newRemote remote t)).link n
      (σ.socks.create.write n service).heap.next service (.newRemote remote t)).heap.get n =
      some { service with peer := some (σ.socks.create.write n service).heap.next } := by
    rw [get_link hs2 hr2 hnr.symm, if_neg hnr, if_pos rfl]
  have hp3 : Sockets.PendingRight n
      { service with peer := some (σ.socks.create.write n service).heap.next }
      (((σ.socks.create.write n service).addBare (.newRemote remote t)).link n
        (σ.socks.create.write n service).heap.next service (.newRemote remote t)) :=
    (pendingRight_write n _ _).write_of_ne _ _
  rw [Sockets.deref_eq hs3]
  refine (sendPacket_spec _ t _).bind ?_
  rintro _ ⟨tr, -, rfl⟩
  let linked := ((σ.socks.create.write n service).addBare (.newRemote remote t)).link n
    (σ.socks.create.write n service).heap.next service (.newRemote remote t)
  let q : APacket := sealPacket
    { msg := { command := A_OKAY, arg0 := σ.socks.localSocketNextId, arg1 := remote } } tr
  let told := (linked.emit (.accepted n service.id remote)).emit (.sent t q)
  have hready : ready cfg n { σ with socks := told } = .ok { σ with
      socks := readied n
        { service with peer := some (σ.socks.create.write n service).heap.next } told } :=
    ready_eq hs3 hw.fde hw.shutdown hw.hooks_eq hp3
  have hstate : readied n { service with peer := some (σ.socks.create.write n service).heap.next }
      told = accepted exits remote t q σ.socks := by
    unfold readied accepted
    simp only [told, Sockets.emits, Sockets.emit, append_assoc, cons_append, nil_append]
    rfl
  rw [hstate] at hready
  show Sat (ready cfg n { σ with socks := told }) _ _
  rw [hready]
  exact ⟨q, ⟨rfl, rfl, rfl⟩, rfl⟩

inductive OpenOutcome (t : TPtr) (p : APacket) (σ : Server) : List Sockets.Act → Server → Prop
  | refused {τ : Server} (h : Ordinary [] σ τ) : OpenOutcome t p σ [] τ
  | accept {τ : Server} {s : Ptr} {id : UInt32}
      (h : Ordinary [.accept s id p.msg.arg0 t] σ τ) :
      OpenOutcome t p σ [.accept s id p.msg.arg0 t] τ

lemma handleOpen_spec (h : Inv [] σ.socks) (hok : σ.ListenersOk)
    (hp : p.payload.length < UInt32.size) :
    Sat (handleOpen cfg t p σ) (fun τ => ∃ l, OpenOutcome t p σ l τ)
      (OpenHalt (openOverflows cfg t p σ)) := by
  have hdangling : ∀ e : Halt, e = .dangling → OpenHalt (openOverflows cfg t p σ) e :=
    fun _ he => .inl (.inr he)
  refine (transport_spec.mono (fun _ h => h) hdangling).bind fun tr htr => ?_
  split
  · next hguard =>
    simp only [Bool.and_eq_true, bne_iff_ne, ne_eq, beq_iff_eq] at hguard
    obtain ⟨⟨hon, harg⟩, harg1⟩ := hguard
    have ht : σ.Attachable t := .inl ⟨tr, htr, .inl hon⟩
    have hused : openOverflows cfg t p σ = idsUsedUp cfg (cString p.payload) t σ := by
      simp [openOverflows, htr, hon, harg, harg1]
    have hname : (cString p.payload).length < UInt32.size :=
      Nat.lt_of_le_of_lt ( takeWhile_prefix _).length_le hp
    refine (hused ▸ createLocalServiceSocket_spec cfg hname h hok ht).bind ?_
    rintro _ (⟨hτ⟩ | ⟨exits, hτ, hid⟩)
    · next τ =>
      refine sendClose_spec.mono ?_ hdangling
      rintro _ ⟨q, hq, rfl⟩
      have hsend : Ordinary [] τ (τ.emit (.sent t q)) :=
        (emit_apart (faint_close hq)).ordinary
      exact ⟨[], .refused (hτ.ordinary.trans hsend)⟩
    · next τ =>
      refine (accept_spec (hτ.ordinary.socks.inv h) hid harg).mono ?_ hdangling
      rintro _ ⟨q, hq, rfl⟩
      obtain ⟨tr', htr', hal⟩ := hτ.ordinary.online htr
      have hon' : τ.Online t := ⟨tr', htr', hal.online.trans hon⟩
      have ht' : τ.Attachable t := .inl ⟨tr', htr', .inl (hal.online.trans hon)⟩
      have hstep : Ordinary [.accept _ _ p.msg.arg0 t] τ
          { τ with socks := accepted exits p.msg.arg0 t q τ.socks } :=
        .ofSocks (.single (.accept exits p.msg.arg0 t q hid ht' hon' harg hq))
      exact ⟨_, .accept (hτ.ordinary.trans hstep)⟩
  · exact ⟨[], .refused (.refl σ)⟩

end Server

end Adb
