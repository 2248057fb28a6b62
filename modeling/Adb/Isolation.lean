import Adb.Notes

/-!
# Transport isolation

The packets of a stream carry the ids of its two sockets, and `find_local_socket` looks for the
ids alone: it does not ask on which transport the packet came. A packet on `t` therefore does
nothing to the sockets of other transports exactly if the socket it finds is not one of those
(`intrudes`).
-/

namespace Adb

open Lib List Store Sockets

namespace Sockets

variable {σ τ ρ : Sockets} {S S' : Ptr → Prop} {s r : Ptr} {a b : ASocket} {obs obs' : List Obs}

structure Confined (S : Ptr → Prop) (obs : List Obs) (σ τ : Sockets) : Prop where
  trace : τ.trace = σ.trace ++ obs
  heap : ∀ x c, ¬ S x → σ.heap.get x = some c → τ.heap.get x = some c
  list : ∀ x, ¬ S x → x ∈ σ.localSocketList → x ∈ τ.localSocketList
  about : ∀ o ∈ obs, ∀ x, o.socket = some x → S x

namespace Confined

lemma refl (S : Ptr → Prop) (σ : Sockets) : Confined S [] σ σ :=
  ⟨by simp, fun _ _ _ h => h, fun _ _ h => h, by simp⟩

lemma trans (h : Confined S obs σ τ) (h' : Confined S obs' τ ρ) :
    Confined S (obs ++ obs') σ ρ where
  trace := by rw [h'.trace, h.trace, append_assoc]
  heap x c hx hc := h'.heap x c hx (h.heap x c hx hc)
  list x hx hm := h'.list x hx (h.list x hx hm)
  about o ho := by
    rcases mem_append.mp ho with ho | ho
    · exact h.about o ho
    · exact h'.about o ho

lemma mono (h : Confined S obs σ τ) (hS : ∀ x, S x → S' x) : Confined S' obs σ τ :=
  ⟨h.trace, fun x c hx => h.heap x c fun hs => hx (hS x hs),
    fun x hx => h.list x fun hs => hx (hS x hs), fun o ho x hx => hS x (h.about o ho x hx)⟩

lemma emits (hobs : ∀ o ∈ obs, ∀ x, o.socket = some x → S x) (σ : Sockets) :
    Confined S obs σ (σ.emits obs) := ⟨rfl, fun _ _ _ h => h, fun _ _ h => h, hobs⟩

lemma write (hs : S s) (a : ASocket) (σ : Sockets) : Confined S [] σ (σ.write s a) where
  trace := by simp
  heap x c hx hc := by
    have hne : x ≠ s := fun h => hx (h ▸ hs)
    exact (get_set_of_ne _ hne a).trans hc
  list _ _ h := h
  about := by simp

lemma link (hs : S s) (hr : S r) (a b : ASocket) (σ : Sockets) :
    Confined S [] σ (σ.link s r a b) := (write hs _ σ).trans (write hr _ _)

lemma addBare (b : ASocket) (σ : Sockets) : Confined S [] σ (σ.addBare b) where
  trace := by simp
  heap x c _ hc := (get_addBare_of_ne σ b (ne_next hc)).trans hc
  list _ _ h := h
  about := by simp

lemma orphan (hs : S s) (ha : σ.heap.get s = some a) :
    Confined S (orphanObs s a) σ (orphan s a σ) where
  trace := orphan_trace
  heap x c hx hc := by
    have hne : x ≠ s := fun h => hx (h ▸ hs)
    exact (Inv.get_orphan_of_ne ha hne).trans hc
  list x hx hm := by
    have hne : x ≠ s := fun h => hx (h ▸ hs)
    rw [orphan_localSocketList]
    exact mem_filter.mpr ⟨hm, by simpa using hne⟩
  about o ho x hx := by
    unfold orphanObs at ho
    split at ho
    · split at ho <;> cases mem_singleton.mp ho <;> cases hx <;> exact hs
    · cases ho

end Confined

end Sockets

namespace Server

open Sockets (Inv Confined)

variable {σ τ : Server} {cfg : Config} {t : TPtr} {p : APacket} {s : Ptr} {a : ASocket}

/-- `s` or its peer belongs to a transport other than `t`. -/
def foreign (t : TPtr) (s : Ptr) (σ : Server) : Bool :=
  (σ.socks.heap.get s).any (fun a => a.transport.any (· ≠ t)) ||
    (σ.peerOf s).any fun b => b.transport.any (· ≠ t)

/-- Nothing is done to the sockets of other transports than `t`, and nothing is sent to them. -/
structure Isolated (t : TPtr) (σ τ : Server) : Prop where
  sockets : ∃ obs, Confined (fun s => σ.foreign t s = false) obs σ.socks τ.socks
  sent : ∀ obs, τ.socks.trace = σ.socks.trace ++ obs → ∀ u q, .sent u q ∈ obs → u = t

def target (t : TPtr) (p : APacket) (σ : Server) : Option Ptr :=
  if p.msg.command = A_OKAY then okayTarget t p σ
  else if p.msg.command = A_CLSE then clseTarget t p σ
  else if p.msg.command = A_WRTE then wrteTarget t p σ
  else none

/-- The packet is handled for a socket of another transport. -/
def intrudes (t : TPtr) (p : APacket) (σ : Server) : Bool :=
  (target t p σ).any fun s => σ.foreign t s

/-- `x` is `s` or its peer, or is not there yet. -/
def Near (s : Ptr) (σ : Server) (x : Ptr) : Prop :=
  x = s ∨ (∃ a, σ.socks.heap.get s = some a ∧ a.peer = some x) ∨ σ.socks.heap.get x = none

/-- What is done for a packet on `t` that is handled for `s`: something is done to `s`, nothing is
done to sockets other than `s` and its peer, and what is sent is sent on `t` if `s` is not
foreign. -/
structure DoneFor (t : TPtr) (s : Ptr) (σ τ : Server) (obs : List Obs) : Prop where
  exists_get : ∃ a, σ.socks.heap.get s = some a
  confined : Confined (σ.Near s) obs σ.socks τ.socks
  seen : ∃ o ∈ obs, o.socket = some s
  sent : σ.foreign t s = false → ∀ u q, .sent u q ∈ obs → u = t

inductive Served (t : TPtr) (σ τ : Server) : Option Ptr → Prop
  | nobody {obs : List Obs} (h : Confined (fun _ => False) obs σ.socks τ.socks)
      (hsent : ∀ u q, .sent u q ∈ obs → u = t) : Served t σ τ none
  | somebody {s : Ptr} {obs : List Obs} (h : DoneFor t s σ τ obs) : Served t σ τ (some s)

private lemma Served.ignored (t : TPtr) (σ : Server) : Served t σ σ none :=
  .nobody (.refl _ _) (by simp)

/-! ## `A_OKAY` -/

private lemma readied_about {x : Ptr} {o : Obs} (ho : o ∈ .readied s :: Sockets.readyStatus s a)
    (hx : o.socket = some x) : x = s := by
  rcases mem_cons.mp ho with rfl | ho
  · exact (Option.some.inj hx).symm
  rcases readyStatus_cases s a with h | h
  · rw [h] at ho
    cases ho
  rw [h] at ho
  cases mem_singleton.mp ho
  exact (Option.some.inj hx).symm

private lemma readied_not_sent {u : TPtr} {q : APacket} :
    .sent u q ∉ .readied s :: Sockets.readyStatus s a := by
  rcases readyStatus_cases s a with h | h
  · simp [h]
  · simp [h]

private lemma DoneFor.readied (hs : σ.socks.heap.get s = some a) {socks : Sockets}
    (h : Confined (σ.Near s) [] σ.socks socks) (c : ASocket) :
    DoneFor t s σ
      { σ with socks := (socks.emits (.readied s :: Sockets.readyStatus s a)).write s c }
      (.readied s :: Sockets.readyStatus s a) where
  exists_get := ⟨a, hs⟩
  confined := by
    have hself : σ.Near s s := .inl rfl
    have hemits : Confined (σ.Near s) (.readied s :: Sockets.readyStatus s a) socks
        (socks.emits (.readied s :: Sockets.readyStatus s a)) :=
      .emits (fun o ho x hx => readied_about ho hx ▸ hself) _
    simpa using h.trans (hemits.trans (.write hself c _))
  seen := ⟨.readied s, by simp, rfl⟩
  sent _ _ _ hq := absurd hq readied_not_sent

lemma OkayOutcome.served {l : List Sockets.Act} (hτ : OkayOutcome t p σ l τ) :
    Served t σ τ (okayTarget t p σ) := by
  cases hτ with
  | ignored hnone =>
    rw [hnone]
    exact .ignored t σ
  | @unknown q hq hnone =>
    rw [hnone]
    have hconfined : Confined (fun _ => False) [.sent t q] σ.socks (σ.socks.emits [.sent t q]) :=
      .emits (by simp [Obs.socket]) _
    exact .nobody hconfined (by simp)
  | @connect s a tr hfind hs =>
    rw [hfind]
    have hnew : σ.Near s σ.socks.heap.next := .inr (.inr get_next)
    have hlink : Confined (σ.Near s) [] σ.socks ((σ.socks.addBare (.newRemote p.msg.arg0 t)).link s
        σ.socks.heap.next a.plain (.newRemote p.msg.arg0 t)) :=
      (Confined.addBare _ _).trans (.link (.inl rfl) hnew _ _ _)
    exact .somebody (.readied hs hlink _)
  | @ready s r a b hfind hs hl hpeer hr hb =>
    rw [hfind]
    have hstate : readied s a σ.socks =
        (σ.socks.emits (.readied s :: Sockets.readyStatus s a)).write s a.plain.addRead := by
      simp [readied, Sockets.emits, Sockets.emit]
    rw [hstate]
    exact .somebody (.readied hs (.refl _ _) _)

/-! ## `A_CLSE` -/

private lemma orphanObs_seen (hl : a.isLocal = true) :
    ∃ o ∈ Sockets.orphanObs s a, o.socket = some s := by
  unfold Sockets.orphanObs
  rw [if_pos hl]
  split
  · exact ⟨_, mem_singleton_self _, rfl⟩
  · exact ⟨_, mem_singleton_self _, rfl⟩

private lemma sent_not_mem_orphanObs {u : TPtr} {q : APacket} :
    .sent u q ∉ Sockets.orphanObs s a := by
  unfold Sockets.orphanObs
  split
  · split
    · simp
    · simp
  · simp

private lemma sent_closeNotice {ts : Store ATransport} {b : ASocket} {o : Obs}
    (ho : o ∈ Sockets.closeNotice ts a b) : ∃ u q, o = .sent u q ∧ b.transport = some u := by
  unfold Sockets.closeNotice at ho
  split at ho
  · simp only [Option.mem_toList, Option.bind_eq_some_iff, Option.map_eq_some_iff] at ho
    obtain ⟨u, hu, tr, -, rfl⟩ := ho
    exact ⟨u, _, rfl, hu⟩
  · cases ho

lemma ClseOutcome.served (hτ : ClseOutcome t p σ τ) (h : Inv [] σ.socks) :
    Served t σ τ (clseTarget t p σ) := by
  cases hτ with
  | ignored hnone =>
    rw [hnone]
    exact .ignored t σ
  | @closed s a socks hfind hs hl hc hclose =>
    rw [hfind]
    have hself : σ.Near s s := .inl rfl
    obtain ⟨o, ho, hseen⟩ := orphanObs_seen (s := s) hl
    cases hpeer : a.peer with
    | none =>
      have hsocks := (socketClose_alone h hs hpeer).of_ok hclose
      have hstatus : ∀ o ∈ Sockets.closedStatus s a, o.socket = some s := by
        unfold Sockets.closedStatus
        split <;> simp [Obs.socket]
      suffices h : DoneFor t s σ _ (Sockets.closedStatus s a ++ Sockets.orphanObs s a) from
        .somebody h
      refine ⟨⟨a, hs⟩, ?_, ⟨o, mem_append_right _ ho, hseen⟩, fun _ u q hq => ?_⟩
      · rw [hsocks]
        refine (Confined.emits (fun o ho x hx => ?_) _).trans (.orphan hself hs)
        rw [hstatus o ho] at hx
        exact Option.some.inj hx ▸ hself
      · rcases mem_append.mp hq with hq | hq
        · exact absurd (hstatus _ hq) (by simp [Obs.socket])
        · exact absurd hq sent_not_mem_orphanObs
    | some r =>
      obtain ⟨-, hrs, b, hr, -⟩ := h.paired s a r hs (by simp) hpeer
      have hsocks := (socketClose_pair h hs hpeer hr).of_ok hclose
      have hnear : σ.Near s r := .inr (.inl ⟨a, hs, hpeer⟩)
      suffices h : DoneFor t s σ _ (Sockets.closeNotice σ.transports a b ++
          Sockets.orphanObs r b ++ Sockets.orphanObs s a) from .somebody h
      refine ⟨⟨a, hs⟩, ?_, ⟨o, mem_append_right _ ho, hseen⟩, ?_⟩
      · rw [hsocks]
        have hs' : (Sockets.orphan r b (σ.socks.emits
            (Sockets.closeNotice σ.transports a b))).heap.get s = some a :=
          (Inv.get_orphan_of_ne (σ := σ.socks.emits _) hr hrs.symm).trans hs
        refine ((Confined.emits (fun o ho x hx => ?_) _).trans (.orphan hnear hr)).trans
          (.orphan hself hs')
        obtain ⟨u, q, rfl, -⟩ := sent_closeNotice ho
        cases hx
      · intro hforeign u q hq
        rcases mem_append.mp hq with hq | hq
        · rcases mem_append.mp hq with hq | hq
          · obtain ⟨u', q', heq, hu⟩ := sent_closeNotice hq
            cases heq
            simp only [foreign, peerOf, hs, hpeer, Option.bind_some, hr, Option.any_some, hu,
              Bool.or_eq_false_iff, decide_not, Bool.not_eq_false', decide_eq_true_eq] at hforeign
            exact hforeign.2
          · exact absurd hq sent_not_mem_orphanObs
        · exact absurd hq sent_not_mem_orphanObs

/-! ## `A_WRTE` -/

lemma WrteOutcome.served (hτ : WrteOutcome t p σ τ) : Served t σ τ (wrteTarget t p σ) := by
  cases hτ with
  | ignored hnone =>
    rw [hnone]
    exact .ignored t σ
  | @queued s r a b x q hfind hs hl hpeer hr hb hid harg hx hq =>
    rw [hfind]
    have hself : σ.Near s s := .inl rfl
    cases hx with
    | @intro rc q' a' os obs hos hrc hbytes hd =>
      have habout : ∀ o ∈ .enqueued s p.payload :: obs, o.socket = some s := by
        rcases hd.written with ⟨rfl, -⟩ | ⟨data, rfl, -⟩ | ⟨rfl, -⟩ <;> simp [Obs.socket]
      have hconfined : Confined (σ.Near s) (.enqueued s p.payload :: obs) σ.socks
          ((({ σ.socks with os := os }.emit (.enqueued s p.payload)).emits obs).write s a') :=
        { trace := by simp
          heap := fun x c hx hc => (get_set_of_ne _ (fun h => hx (.inl h)) a').trans hc
          list := fun _ _ hm => hm
          about := fun o ho x hx => .inl (Option.some.inj (hx.symm.trans (habout o ho))) }
      have hseen : ∃ o ∈ .enqueued s p.payload :: obs, o.socket = some s :=
        ⟨_, mem_cons_self, rfl⟩
      have hquiet : ∀ u q, .sent u q ∉ .enqueued s p.payload :: obs := fun u q hq => by
        cases habout _ hq
      split
      · suffices h : DoneFor t s σ _ (.enqueued s p.payload :: obs ++ [.sent t q]) from .somebody h
        refine ⟨⟨a, hs⟩, hconfined.trans (.emits (by simp [Obs.socket]) _), ?_,
          fun _ u q' hq' => ?_⟩
        · obtain ⟨o, ho, hos⟩ := hseen
          exact ⟨o, mem_append_left _ ho, hos⟩
        rcases mem_append.mp hq' with hq' | hq'
        · exact absurd hq' (hquiet u q')
        · cases mem_singleton.mp hq'
          rfl
      · exact .somebody ⟨⟨a, hs⟩, hconfined, hseen, fun _ u q' hq' => absurd hq' (hquiet u q')⟩

/-! ## Every packet of a stream -/

def ofStream (p : APacket) : Prop :=
  p.msg.command = A_OKAY ∨ p.msg.command = A_CLSE ∨ p.msg.command = A_WRTE

lemma dispatchPacket_served (h : Inv [] σ.socks) (hp : ofStream p)
    (hτ : dispatchPacket cfg t p σ = .ok τ) : Served t σ τ (target t p σ) := by
  unfold dispatchPacket at hτ
  unfold target
  rcases hp with hp | hp | hp
  · rw [hp] at hτ ⊢
    obtain ⟨l, hl⟩ := (handleOkay_spec h).of_ok hτ
    exact hl.served
  · rw [hp] at hτ ⊢
    exact ((handleClse_spec h).of_ok hτ).served h
  rw [hp] at hτ ⊢
  by_cases hempty : p.payload = []
  · obtain ⟨rfl, hnone⟩ := (handleWrte_empty h hempty).of_ok hτ
    show Served t τ τ (wrteTarget t p τ)
    rw [hnone]
    exact .ignored t τ
  · exact ((handleWrte_spec h hempty).of_ok hτ).served

private lemma foreign_of_near (h : Inv [] σ.socks) {x : Ptr} (hx : σ.Near s x)
    (hs : σ.foreign t s = false) : σ.foreign t x = false := by
  rcases hx with rfl | ⟨a, ha, hpeer⟩ | hnone
  · exact hs
  · obtain ⟨-, -, b, hb, hback, -⟩ := h.paired s a x ha (by simp) hpeer
    simp only [foreign, peerOf, ha, hpeer, hb, hback, Option.bind_some, Option.any_some,
      Bool.or_eq_false_iff] at hs ⊢
    exact ⟨hs.2, hs.1⟩
  · simp [foreign, peerOf, hnone]

lemma Served.isolated_iff (h : Inv [] σ.socks) (hτ : Served t σ τ (target t p σ)) :
    Isolated t σ τ ↔ intrudes t p σ = false := by
  unfold intrudes
  generalize target t p σ = found at hτ
  cases hτ with
  | nobody hc hsent =>
    refine iff_of_true ⟨⟨_, hc.mono fun _ => False.elim⟩, fun obs hobs u q hq => ?_⟩ rfl
    rw [append_cancel_left (hc.trace.symm.trans hobs)] at hsent
    exact hsent u q hq
  | @somebody s obs hd =>
    rw [Option.any_some]
    constructor
    · rintro ⟨⟨obs', hc⟩, -⟩
      obtain ⟨o, ho, hos⟩ := hd.seen
      rw [append_cancel_left (hd.confined.trace.symm.trans hc.trace)] at ho
      exact hc.about o ho s hos
    · intro hs
      refine ⟨⟨obs, hd.confined.mono fun x hx => foreign_of_near h hx hs⟩, fun obs' hobs u q hq => ?_⟩
      rw [append_cancel_left (hobs.symm.trans hd.confined.trace)] at hq
      exact hd.sent hs u q hq

private lemma Served.heard {found : Option Ptr}
    (h : Served t (σ.emit (.handled t p)) τ found) : Served t σ τ found := by
  have hnote {S : Ptr → Prop} : Confined S [.handled t p] σ.socks (σ.emit (.handled t p)).socks :=
    .emits (by simp [Obs.socket]) _
  cases h with
  | nobody hc hsent => exact .nobody (hnote.trans hc) fun u q hq => hsent u q (by simpa using hq)
  | somebody hd =>
    obtain ⟨o, ho, hos⟩ := hd.seen
    exact .somebody ⟨hd.exists_get, hnote.trans hd.confined, ⟨o, mem_append_right _ ho, hos⟩,
      fun hs u q hq => hd.sent hs u q (by simpa using hq)⟩

private lemma target_congr (ht : τ.transports = σ.transports) (hh : τ.socks.heap = σ.socks.heap)
    (hl : τ.socks.localSocketList = σ.socks.localSocketList) : target t p τ = target t p σ := by
  have hfind (i j : UInt32) : τ.finds i j = σ.finds i j := by
    have hgo (list : List Ptr) : Sockets.findLocalSocket.go i j τ.socks list =
        Sockets.findLocalSocket.go i j σ.socks list := by
      induction list with
      | nil => rfl
      | cons s rest ih =>
        have hderef (x : Ptr) : τ.socks.deref x = σ.socks.deref x := by
          unfold Sockets.deref
          rw [hh]
        simp only [Sockets.findLocalSocket.go, hderef, ih]
    simp only [finds, Sockets.findLocalSocket, hl, hgo]
  have hpeer (s : Ptr) : τ.peerOf s = σ.peerOf s := by
    unfold peerOf
    rw [hh]
  have hon : τ.isOnline t = σ.isOnline t := by
    unfold isOnline
    rw [ht]
  unfold target okayTarget clseTarget wrteTarget
  simp only [hon, hfind, hpeer]

/-- In every reachable state, an `A_OKAY`, `A_CLSE` or `A_WRTE` that is handled on `t` leaves all
sockets of other transports as they were, and sends nothing to them, if and only if the socket it
is handled for is not one of those. -/
theorem handlePacket_isolated_iff (hσ : Reachable cfg σ) (os : Os) (hp : ofStream p)
    (hτ : handlePacket cfg t p (σ.withOs os) = .ok τ) :
    Isolated t (σ.withOs os) τ ↔ intrudes t p σ = false := by
  have hs := hσ.sound.withOs os
  obtain ⟨-, -, hτ⟩ := bind_eq_ok.mp hτ
  have hserved := (dispatchPacket_served (hs.inv.emit _) hp hτ).heard
  rw [show target t p ((σ.withOs os).emit (.handled t p)) = target t p (σ.withOs os) from
    target_congr rfl rfl rfl] at hserved
  have hsame : intrudes t p (σ.withOs os) = intrudes t p σ := by
    unfold intrudes
    rw [show target t p (σ.withOs os) = target t p σ from target_congr rfl rfl rfl]
    rfl
  exact hsame ▸ hserved.isolated_iff hs.inv

def twoDevices : List Input :=
  [{ callback := .usbDevice [] [] true },
    { callback := .usbDevice [] [] true },
    { callback := .registration },
    { callback := .registration },
    { callback := .packet 0 (packetOf A_CNXN A_VERSION 4096 (ascii "device::")) },
    { callback := .packet 1 (packetOf A_CNXN A_VERSION 4096 (ascii "device::")) },
    { callback := .packet 0 (packetOf A_OPEN 7 0 (ascii "tcp:1")), os := { service := true } }]

/-- The first device closes its stream, and the second notices nothing. -/
theorem handlePacket_isolated_close :
    ∃ σ τ, run .adb twoDevices (init []) = .ok σ ∧
      handlePacket .adb 0 (packetOf A_CLSE 7 1) (σ.withOs {}) = .ok τ ∧
      Isolated 0 (σ.withOs {}) τ := by
  have htest : returns (run .adb twoDevices (init [])) (fun σ =>
      !intrudes 0 (packetOf A_CLSE 7 1) σ &&
        returns (handlePacket .adb 0 (packetOf A_CLSE 7 1) (σ.withOs {})) fun _ => true) = true := by
    decide
  obtain ⟨σ, hrun, hσ⟩ := returns_iff.mp htest
  obtain ⟨hnot, hret⟩ := Bool.and_eq_true_iff.mp hσ
  obtain ⟨τ, hτ, -⟩ := returns_iff.mp hret
  exact ⟨σ, τ, hrun, hτ, (handlePacket_isolated_iff ⟨[], twoDevices, hrun⟩ {} (.inr (.inl rfl))
    hτ).mpr (by simpa using hnot)⟩

/-- The second device closes the stream of the first, which is told so. -/
theorem handlePacket_intrudes :
    ∃ σ τ, run .adb twoDevices (init []) = .ok σ ∧
      handlePacket .adb 1 (packetOf A_CLSE 7 1) σ = .ok τ ∧
      0 ∈ σ.socks.localSocketList ∧ Sockets.attached 0 0 σ.socks = true ∧
      0 ∉ τ.socks.localSocketList ∧ τ.socks.heap.get 0 = none ∧
      ∃ o ∈ τ.socks.trace.drop σ.socks.trace.length, ∃ q, o = .sent 0 q := by
  have htest : returns (run .adb twoDevices (init [])) (fun σ =>
      (decide (0 ∈ σ.socks.localSocketList) && Sockets.attached 0 0 σ.socks) &&
        returns (handlePacket .adb 1 (packetOf A_CLSE 7 1) σ) fun τ =>
          (decide (0 ∉ τ.socks.localSocketList) && (τ.socks.heap.get 0).isNone) &&
            (τ.socks.trace.drop σ.socks.trace.length).any fun o => (o.sentOn 0).isSome) = true := by
    decide
  obtain ⟨σ, hrun, hσ⟩ := returns_iff.mp htest
  obtain ⟨hσ, hret⟩ := Bool.and_eq_true_iff.mp hσ
  obtain ⟨hlist, hatt⟩ := Bool.and_eq_true_iff.mp hσ
  obtain ⟨τ, hτ, hτσ⟩ := returns_iff.mp hret
  obtain ⟨hτσ, hsent⟩ := Bool.and_eq_true_iff.mp hτσ
  obtain ⟨hgone, hfree⟩ := Bool.and_eq_true_iff.mp hτσ
  obtain ⟨o, ho, hto⟩ := any_eq_true.mp hsent
  refine ⟨σ, τ, hrun, hτ, of_decide_eq_true hlist, hatt, of_decide_eq_true hgone,
    Option.isNone_iff_eq_none.mp hfree, o, ho, ?_⟩
  obtain ⟨q, hq⟩ := Option.isSome_iff_exists.mp hto
  exact ⟨q, Obs.sentOn_eq_some.mp hq⟩

end Server

end Adb
