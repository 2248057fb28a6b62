import Adb.Effects

/-!
# Every step keeps the socket graph whole

`Eff.inv` goes through the kinds of steps; each is a short sequence of the moves of
`SocketsInv`. `Effs.inv` is the same for sequences of steps.
-/

namespace Adb

open Lib Store

namespace Sockets

open ASocket

variable {P : Rules} {σ τ : Sockets} {l : List Act} {L M : List Ptr} {s r : Ptr}
  {a b a' : ASocket}

namespace Inv

lemma emits (h : Inv L σ) (obs : List Obs) : Inv L (σ.emits obs) := { h with }

lemma isLocal_of_closing (h : Inv L σ) (hs : σ.heap.get s = some a) (hc : a.closing = true) :
    a.isLocal = true := by
  by_contra hl
  rw [((h.wf s a hs).bare (by simpa using hl)).closing] at hc
  cases hc

lemma not_closing_of_peer (h : Inv L σ) (hs : σ.heap.get s = some a) (hpeer : a.peer = some r) :
    a.closing = false := by
  by_contra hc
  rw [Bool.not_eq_false] at hc
  rw [((h.local_wf hs (h.isLocal_of_closing hs hc)).drains hc).1] at hpeer
  cases hpeer

lemma write_local (h : Inv [] σ) (hs : σ.heap.get s = some a) (hl : a.isLocal = true)
    (hpeer : a.peer = some r) (hw : a'.WfLocal) (hsh : SameShape a a')
    (hp : a'.peer = a.peer) (hq : a'.queued = a.queued)
    (hpend : a'.pending = true → a.pending = true) : Inv [] (σ.write s a') := by
  refine h.write hs (wf_of_local hw (hsh.isLocal.trans hl)) hsh hpend fun _ => ⟨hp, ?_, ?_⟩
  · intro _ hnone
    rw [hpeer] at hnone
    cases hnone
  · intro q c hl hpq hc he
    rw [hq]
    exact h.idle s a q c hs (by simp) hl hpq hc he

lemma orphan (h : Inv L σ) (hs : σ.heap.get s = some a) (hsL : s ∈ L)
    (hL : ∀ q ∈ L, q = s ∨ q ∈ M) (hsub : ∀ q ∈ M, q ∈ L) : Inv M (orphan s a σ) := by
  unfold Sockets.orphan
  cases hl : a.isLocal with
  | false => exact h.remove hsL hL hsub
  | true =>
    cases hd : a.disposable with
    | true => exact (h.remove hsL hL hsub).emit _
    | false =>
      have hw : a.retired.WfLocal := (h.local_wf hs hl).retired hd
      exact (h.retire hs hsL hl (wf_of_local hw hl) rfl rfl rfl
        (pending_of_setInterest (a := a.plain) (g := (·.diff Events.FDE_READ))) hL hsub).emit _

lemma get_orphan_of_ne (hs : σ.heap.get s = some a) {p : Ptr} (hp : p ≠ s) :
    (Sockets.orphan s a σ).heap.get p = σ.heap.get p := by
  unfold Sockets.orphan
  split
  · split
    · simp [get_remove, hp]
    · show (σ.write s a.retired).heap.get p = _
      rw [get_write hs, if_neg hp]
  · rw [get_remove, if_neg hp]

lemma link (h : Inv L σ) (hs : σ.heap.get s = some a) (hr : σ.heap.get r = some b) (hne : r ≠ s)
    (hsL : s ∈ L) (hrL : r ∈ L) (hsh : SameShape a a')
    (hpend : a'.pending = true → a.pending = true) (hws : Wf { a' with peer := some r })
    (hwr : Wf { b with peer := some s }) (hl : a'.isLocal = true)
    (hidle : b.enqueue = .smartSocketEnqueue → a'.queued = []) (hL : ∀ q ∈ L, q = s ∨ q = r ∨ q ∈ M)
    (hsub : ∀ q ∈ M, q ∈ L) (hsM : s ∉ M) (hrM : r ∉ M) : Inv M (σ.link s r a' b) := by
  have h1 : Inv L (σ.write s { a' with peer := some r }) :=
    h.write hs hws ⟨hsh.enqueue, hsh.id, hsh.closing⟩ hpend fun hn => absurd hsL hn
  have hr1 : (σ.write s { a' with peer := some r }).heap.get r = some b := by
    rw [get_write hs, if_neg hne]
    exact hr
  have h2 : Inv L (σ.link s r a' b) :=
    h1.write hr1 hwr ⟨rfl, rfl, rfl⟩ id fun hn => absurd hrL hn
  refine h2.join (s := s) (r := r) (a := { a' with peer := some r })
    (b := { b with peer := some s }) ?_ ?_ rfl rfl hne hl hidle hL hsub hsM hrM
  · rw [Sockets.link, get_write hr1, if_neg hne.symm, get_write hs, if_pos rfl]
  · rw [Sockets.link, get_write hr1, if_pos rfl]

lemma create (h : Inv L σ) (hid : σ.localSocketNextId + 1 ≠ 0) : Inv (σ.heap.next :: L) σ.create :=
  (h.addLocal (wf_of_local (wfLocal_newLocal h.nextId) rfl) rfl rfl rfl rfl hid).emit _

end Inv

@[simp] lemma create_next (σ : Sockets) : σ.create.heap.next = σ.heap.next + 1 := rfl

@[simp] lemma get_create_self (σ : Sockets) :
    σ.create.heap.get σ.heap.next = some (.newLocal σ.localSocketNextId) :=
  get_alloc_self

lemma get_create_of_ne (σ : Sockets) {p : Ptr} (hp : p ≠ σ.heap.next) :
    σ.create.heap.get p = σ.heap.get p := get_alloc_of_ne hp

lemma get_addBare_self (σ : Sockets) (b : ASocket) :
    (σ.addBare b).heap.get σ.heap.next = some b := get_alloc_self

lemma get_addBare_of_ne (σ : Sockets) (b : ASocket) {p : Ptr} (hp : p ≠ σ.heap.next) :
    (σ.addBare b).heap.get p = σ.heap.get p := get_alloc_of_ne hp

lemma get_link (hs : σ.heap.get s = some a) (hr : σ.heap.get r = some b) (hne : r ≠ s)
    (a' : ASocket) (p : Ptr) : (σ.link s r a' b).heap.get p =
      if p = r then some { b with peer := some s }
      else if p = s then some { a' with peer := some r } else σ.heap.get p := by
  have hr1 : (σ.write s { a' with peer := some r }).heap.get r = some b := by
    rw [get_write hs, if_neg hne]
    exact hr
  rw [link, get_write hr1, get_write hs]

/-! ## The kinds of steps -/

namespace Inv

lemma closePair (h : Inv [] σ) (hs : σ.heap.get s = some a) (hpeer : a.peer = some r)
    (hr : σ.heap.get r = some b) : Inv [] (Sockets.orphan s a (Sockets.orphan r b σ)) := by
  have hsr : s ≠ r := (h.paired s a r hs (by simp) hpeer).2.1.symm
  have h1 : Inv [s] (Sockets.orphan r b σ) :=
    (h.loosen_pair hs hpeer).orphan hr (by simp) (by simp) (by simp)
  exact h1.orphan ((get_orphan_of_ne hr hsr).trans hs) (by simp) (by simp) (by simp)

lemma client (h : Inv [] σ) (hid : σ.localSocketNextId + 1 ≠ 0) :
    Inv [] (((σ.create.addBare .newSmart).link σ.heap.next (σ.heap.next + 1)
      (.newLocal σ.localSocketNextId) .newSmart).write σ.heap.next
        { (ASocket.newLocal σ.localSocketNextId).addRead with
          peer := some (σ.heap.next + 1) }) := by
  have hw : (newLocal σ.localSocketNextId).WfLocal := wfLocal_newLocal h.nextId
  have hne : σ.heap.next + 1 ≠ σ.heap.next := by omega
  have h1 : Inv [σ.heap.next + 1, σ.heap.next] (σ.create.addBare .newSmart) :=
    (h.create hid).addBare wf_newSmart rfl
  have hs : (σ.create.addBare .newSmart).heap.get σ.heap.next =
      some (.newLocal σ.localSocketNextId) := by
    rw [get_addBare_of_ne _ _ (by rw [create_next]; exact hne.symm), get_create_self]
  have hr : (σ.create.addBare .newSmart).heap.get (σ.heap.next + 1) = some .newSmart :=
    get_addBare_self σ.create newSmart
  have h2 := h1.link (M := []) hs hr hne (by simp) (by simp) ⟨rfl, rfl, rfl⟩ id
    (wf_of_local (hw.withPeer rfl ⟨rfl, rfl⟩ _) rfl) (wf_newSmart.withPeer rfl _) rfl
    (fun _ => rfl) (by simp [or_comm]) (by simp) (by simp) (by simp)
  have hs2 := get_link hs hr hne (newLocal σ.localSocketNextId) σ.heap.next
  rw [if_neg hne.symm, if_pos rfl] at hs2
  exact h2.write_local hs2 rfl rfl ((hw.addRead rfl).withPeer rfl ⟨rfl, rfl⟩ _) ⟨rfl, rfl, rfl⟩ rfl rfl
    (pending_of_setInterest (a := newLocal σ.localSocketNextId) (g := (·.union Events.FDE_READ)))

lemma forwardClient (h : Inv [] σ) (hid : σ.localSocketNextId + 1 ≠ 0) (t : TPtr) (obs : List Obs) :
    Inv [] ((σ.create.write σ.heap.next
      { ASocket.newLocal σ.localSocketNextId with transport := some t }).emits obs) := by
  have hw : (newLocal σ.localSocketNextId).WfLocal := wfLocal_newLocal h.nextId
  have hs := get_create_self σ
  have hw' : WfLocal { newLocal σ.localSocketNextId with transport := some t } := { hw with }
  have h1 := (h.create hid).write hs (wf_of_local hw' rfl) ⟨rfl, rfl, rfl⟩ id (by simp)
  have hs1 := get_write hs σ.heap.next
    { newLocal σ.localSocketNextId with transport := some t }
  rw [if_pos rfl] at hs1
  exact (h1.settle hs1 rfl rfl ⟨rfl, rfl, by simp⟩ (by simp) (by simp)).emits obs

lemma relink {n : Ptr} (h : Inv [n, s, r] σ) (hs : σ.heap.get s = some a)
    (hn : σ.heap.get n = some b) (hl : a.isLocal = true) (hc : a.closing = false)
    (hns : n ≠ s) (hrs : r ≠ s) (hrn : r ≠ n) (hw : Wf { b with peer := some s })
    (he : b.enqueue ≠ .smartSocketEnqueue) : Inv [r] (σ.link s n a.plain b) :=
  h.link hs hn hns (by simp) (by simp) ⟨rfl, rfl, rfl⟩ id
    (wf_of_local ((h.local_wf hs hl).plain.withPeer hc ⟨rfl, rfl⟩ _) hl) hw hl
    (fun hsmart => absurd hsmart he) (by simp) (by simp) (by simp [hrs.symm]) (by simp [hrn.symm])

lemma hostService (h : Inv [] σ) (hs : σ.heap.get s = some a) (hl : a.isLocal = true)
    (hpeer : a.peer = some r) (hr : σ.heap.get r = some b) (hid : σ.localSocketNextId + 1 ≠ 0)
    (o : Obs) :
    Inv [] ((((σ.create.emit o).link s σ.heap.next a.plain
      (.newLocal σ.localSocketNextId)).remove r).write σ.heap.next
        { (ASocket.newLocal σ.localSocketNextId).addRead with peer := some s }) := by
  have hw : (newLocal σ.localSocketNextId).WfLocal := wfLocal_newLocal h.nextId
  have hsn : s ≠ σ.heap.next := ne_next hs
  have hrn : r ≠ σ.heap.next := ne_next hr
  have hrs : r ≠ s := (h.paired s a r hs (by simp) hpeer).2.1
  have h1 : Inv [σ.heap.next, s, r] (σ.create.emit o) :=
    ((h.loosen_pair hs hpeer).create hid).emit o
  have hs1 : (σ.create.emit o).heap.get s = some a := (get_create_of_ne σ hsn).trans hs
  have hr1 : (σ.create.emit o).heap.get r = some b := (get_create_of_ne σ hrn).trans hr
  have hn1 : (σ.create.emit o).heap.get σ.heap.next = some (.newLocal σ.localSocketNextId) :=
    get_create_self σ
  have hc : a.closing = false := h.not_closing_of_peer hs hpeer
  have h2 : Inv [r] ((σ.create.emit o).link s σ.heap.next a.plain
      (.newLocal σ.localSocketNextId)) := h1.relink hs1 hn1 hl hc hsn.symm hrs hrn
    (wf_of_local (hw.withPeer rfl ⟨rfl, rfl⟩ _) rfl) nofun
  have hn2 := get_link hs1 hn1 hsn.symm a.plain σ.heap.next
  rw [if_pos rfl] at hn2
  have h3 := h2.remove (s := r) (M := []) (by simp) (by simp) (by simp)
  have hn3 := (get_remove _ r σ.heap.next).trans (if_neg hrn.symm) |>.trans hn2
  exact h3.write_local hn3 rfl rfl ((hw.addRead rfl).withPeer rfl ⟨rfl, rfl⟩ _) ⟨rfl, rfl, rfl⟩ rfl rfl
    (pending_of_setInterest (a := newLocal σ.localSocketNextId) (g := (·.union Events.FDE_READ)))

lemma track (h : Inv [] σ) (hs : σ.heap.get s = some a) (hl : a.isLocal = true)
    (hpeer : a.peer = some r) (hr : σ.heap.get r = some b) (long : Bool) (o : Obs) :
    Inv [] ((((σ.addBare (.newTracker long)).emit o).link s σ.heap.next a.plain
      (.newTracker long)).remove r) := by
  have hsn : s ≠ σ.heap.next := ne_next hs
  have hrn : r ≠ σ.heap.next := ne_next hr
  have hrs : r ≠ s := (h.paired s a r hs (by simp) hpeer).2.1
  have h1 : Inv [σ.heap.next, s, r] ((σ.addBare (.newTracker long)).emit o) :=
    ((h.loosen_pair hs hpeer).addBare wf_newTracker rfl).emit o
  have hs1 : ((σ.addBare (.newTracker long)).emit o).heap.get s = some a :=
    (get_addBare_of_ne σ _ hsn).trans hs
  have hn1 : ((σ.addBare (.newTracker long)).emit o).heap.get σ.heap.next =
      some (.newTracker long) := get_addBare_self σ _
  have hc : a.closing = false := h.not_closing_of_peer hs hpeer
  have h2 : Inv [r] (((σ.addBare (.newTracker long)).emit o).link s σ.heap.next a.plain
      (.newTracker long)) := h1.relink hs1 hn1 hl hc hsn.symm hrs hrn
    (wf_newTracker.withPeer rfl _) nofun
  exact h2.remove (s := r) (M := []) (by simp) (by simp) (by simp)

lemma handOver (h : Inv [] σ) (hs : σ.heap.get s = some a) (hl : a.isLocal = true)
    (hpeer : a.peer = some r) (hq : a.queued = []) (t : TPtr) (obs : List Obs) :
    Inv [] ((((σ.write s { a.notify with peer := none, transport := some t }).emits obs).remove
      r).write s { a.notify.delRead with peer := none, transport := some t }) := by
  have hrs : r ≠ s := (h.paired s a r hs (by simp) hpeer).2.1
  have hc : a.closing = false := h.not_closing_of_peer hs hpeer
  have hw := (h.local_wf hs hl).notify hc (some t)
  have h1 := ((h.loosen_pair hs hpeer).write hs (wf_of_local hw hl) ⟨rfl, rfl, rfl⟩ id
    (by simp)).emits obs
  have h2 := h1.remove (s := r) (M := [s]) (by simp) (by simp [or_comm]) (by simp)
  have hs1 := get_write hs s { a.notify with peer := none, transport := some t }
  rw [if_pos rfl] at hs1
  have hs2 : (((σ.write s { a.notify with peer := none, transport := some t }).emits obs).remove
      r).heap.get s = some { a.notify with peer := none, transport := some t } := by
    rw [get_remove, if_neg hrs.symm]
    exact hs1
  have h3 := h2.write hs2 (wf_of_local hw.delRead hl) ⟨rfl, rfl, rfl⟩
    pending_of_setInterest (by simp)
  have hs3 := get_write hs2 s { a.notify.delRead with peer := none, transport := some t }
  rw [if_pos rfl] at hs3
  exact h3.settle hs3 hl rfl ⟨hq, hw.wantsRead_delRead, by simp⟩ (by simp) (by simp)

lemma accept (h : Inv [] σ) (hid : σ.localSocketNextId + 1 ≠ 0) {remote : UInt32}
    (hremote : remote ≠ 0) (exits : Bool) (t : TPtr) (obs : List Obs) :
    Inv [] (((((σ.create.write σ.heap.next (.newService σ.localSocketNextId exits)).addBare
      (.newRemote remote t)).link σ.heap.next (σ.heap.next + 1)
        (.newService σ.localSocketNextId exits) (.newRemote remote t)).emits obs).write σ.heap.next
      { (ASocket.newService σ.localSocketNextId exits).addRead with
        peer := some (σ.heap.next + 1) }) := by
  have hw := wfLocal_newService h.nextId exits
  have hne : σ.heap.next + 1 ≠ σ.heap.next := by omega
  have hs := get_create_self σ
  have h0 := (h.create hid).write hs (wf_of_local hw rfl) ⟨rfl, rfl, rfl⟩ id (by simp)
  have hs0 := get_write hs σ.heap.next (newService σ.localSocketNextId exits)
  rw [if_pos rfl] at hs0
  have h1 := h0.addBare (wf_newRemote (t := t) hremote) rfl
  have hs1 := (get_addBare_of_ne _ (newRemote remote t) hne.symm).trans hs0
  have hr1 : ((σ.create.write σ.heap.next (.newService σ.localSocketNextId exits)).addBare
      (.newRemote remote t)).heap.get (σ.heap.next + 1) = some (.newRemote remote t) :=
    get_addBare_self (σ.create.write σ.heap.next _) (newRemote remote t)
  have h2 := h1.link (M := []) hs1 hr1 hne (by simp) (by simp [Sockets.write]) ⟨rfl, rfl, rfl⟩ id
    (wf_of_local (hw.withPeer rfl ⟨rfl, rfl⟩ _) rfl) ((wf_newRemote hremote).withPeer rfl _)
    rfl nofun (by simp [Sockets.write, or_comm]) (by simp) (by simp) (by simp)
  have hs2 := get_link hs1 hr1 hne (newService σ.localSocketNextId exits) σ.heap.next
  rw [if_neg hne.symm, if_pos rfl] at hs2
  exact (h2.emits obs).write_local hs2 rfl rfl ((hw.addRead rfl).withPeer rfl ⟨rfl, rfl⟩ _)
    ⟨rfl, rfl, rfl⟩ rfl rfl
    (pending_of_setInterest (a := newService σ.localSocketNextId exits)
      (g := (·.union Events.FDE_READ)))

lemma connect (h : Inv [] σ) (hs : σ.heap.get s = some a) (hl : a.isLocal = true)
    (hpeer : a.peer = none) (hc : a.closing = false) {remote : UInt32} (hremote : remote ≠ 0)
    (t : TPtr) (obs : List Obs) :
    Inv [] ((((σ.addBare (.newRemote remote t)).link s σ.heap.next a.plain
      (.newRemote remote t)).emits obs).write s
        { a.plain.addRead with peer := some σ.heap.next }) := by
  have hsn : s ≠ σ.heap.next := ne_next hs
  have hw := (h.local_wf hs hl).plain
  have h1 := (h.loosen hs hpeer).addBare (wf_newRemote (t := t) hremote) rfl
  have hs1 := (get_addBare_of_ne σ (newRemote remote t) hsn).trans hs
  have hr1 := get_addBare_self σ (newRemote remote t)
  have h2 : Inv [] ((σ.addBare (.newRemote remote t)).link s σ.heap.next a.plain
      (.newRemote remote t)) := h1.link hs1 hr1 hsn.symm (by simp) (by simp) ⟨rfl, rfl, rfl⟩ id
    (wf_of_local (hw.withPeer hc ⟨rfl, rfl⟩ _) hl) ((wf_newRemote hremote).withPeer rfl _)
    hl nofun (by simp [or_comm]) (by simp) (by simp) (by simp)
  have hs2 := get_link hs1 hr1 hsn.symm a.plain s
  rw [if_neg hsn, if_pos rfl] at hs2
  exact (h2.emits obs).write_local hs2 hl rfl ((hw.addRead hc).withPeer hc ⟨rfl, rfl⟩ _)
    ⟨rfl, rfl, rfl⟩ rfl rfl
    (pending_of_setInterest (a := a.plain) (g := (·.union Events.FDE_READ)))

lemma drained (h : Inv [] σ) (hs : σ.heap.get s = some a)
    {q : IOVector} {obs : List Obs} (hd : { a with packetQueue := q }.Drained s a' obs)
    (hconn : a.peer = none → a.closing = false → Connecting a')
    (hidle : ∀ r b, a.peer = some r → σ.heap.get r = some b →
      b.enqueue = .smartSocketEnqueue → a'.queued = []) : Inv [] (σ.write s a') :=
  h.write hs hd.wf ⟨hd.enqueue, hd.id, hd.closing⟩ hd.pending fun _ =>
    ⟨hd.peer, fun _ => hconn, fun r b _ => hidle r b⟩

lemma drained_peer (h : Inv [] σ) (hs : σ.heap.get s = some a) (hpeer : a.peer = some r)
    (hr : σ.heap.get r = some b) {q : IOVector} {obs : List Obs}
    (hd : { a with packetQueue := q }.Drained s a' obs) (he : b.enqueue ≠ .smartSocketEnqueue) :
    Inv [] (σ.write s a') := by
  refine h.drained hs hd ?_ ?_
  · intro hnone
    rw [hpeer] at hnone
    cases hnone
  intro r' b' hpeer' hr' he'
  rw [hpeer] at hpeer'
  cases hpeer'
  rw [hr] at hr'
  cases hr'
  exact absurd he' he

end Inv

lemma Eff.inv (h : Eff P l σ τ) (hi : Inv [] σ) : Inv [] τ := by
  cases h with
  | emit o ho => exact hi.emit o
  | note o ho => exact hi.emit o
  | os os => exact { hi with }
  | @touch _ s a a' hs hw ht =>
    refine hi.write hs hw ht.toSameShape ht.pending fun _ => ⟨ht.peer, ?_, ?_⟩
    · intro hl hpeer hc
      obtain ⟨hq, hr, htr⟩ := hi.connecting s a hs (by simp) hl hpeer hc
      exact ⟨ht.queued.trans hq, ht.wantsRead.trans hr, by rw [ht.transport]; exact htr⟩
    · intro r b hl hpeer hr he
      exact ht.queued.trans (hi.idle s a r b hs (by simp) hl hpeer hr he)
  | @arm _ s a f f' hs hl hf hf' hstate hold hnew =>
    have hw := hi.local_wf hs hl
    have hread : ASocket.wantsRead { a with fde := some f' } = a.wantsRead := by
      simp [ASocket.wantsRead, hf, hstate]
    have hwrite : ASocket.wantsWrite { a with fde := some f' } = a.wantsWrite := by
      simp [ASocket.wantsWrite, hf, hstate]
    have hw' : WfLocal { a with fde := some f' } :=
      { hw with
        fde := ⟨f', rfl, hf'⟩
        waits := fun h1 h2 h3 => hwrite.trans (hw.waits h1 h2 h3)
        wanted := fun h => hw.wanted (hwrite.symm.trans h)
        drains := fun hc => by rw [hwrite, hread]; exact hw.drains hc }
    refine hi.arm hs (wf_of_local hw' hl) ⟨rfl, rfl, rfl⟩ (fun _ => ⟨rfl, ?_, ?_⟩)
      (by simp [ASocket.pending, hf, hold]) (by simp [ASocket.pending, hnew])
    · intro hl hpeer hc
      obtain ⟨hq, hr, htr⟩ := hi.connecting s a hs (by simp) hl hpeer hc
      exact ⟨hq, hread.trans hr, htr⟩
    · intro r b hl hpeer hr he
      exact hi.idle s a r b hs (by simp) hl hpeer hr he
  | @select _ s a t hs he ht =>
    have hw := hi.wf s a hs
    have hl : a.isLocal = false := by simp [ASocket.isLocal, he]
    have hw' : Wf { a with transport := some t } := by
      unfold Wf at hw ⊢
      rw [he] at hw ⊢
      exact ⟨⟨hw.1.1, hw.1.2⟩, hw.2⟩
    refine hi.write hs hw' ⟨rfl, rfl, rfl⟩ id fun _ => ⟨rfl, ?_, ?_⟩
    · intro hl'
      rw [hl] at hl'
      cases hl'
    · intro r b hl'
      rw [hl] at hl'
      cases hl'
  | @wake _ s a r b hs hl hpeer hr hb =>
    exact hi.write_local hs hl hpeer ((hi.local_wf hs hl).addRead (hi.not_closing_of_peer hs hpeer))
      sameShape_setInterest rfl rfl pending_of_setInterest
  | @hush _ s a r b hs hl hpeer hr hb =>
    exact hi.write_local hs hl hpeer (hi.local_wf hs hl).delRead sameShape_setInterest rfl rfl
      pending_of_setInterest
  | @readied _ s a r status hs hl hpeer hst =>
    have hc : a.closing = false := hi.not_closing_of_peer hs hpeer
    exact ((hi.emit _).emits status).write_local hs hl hpeer
      ((hi.local_wf hs hl).plain.addRead hc) ⟨rfl, rfl, rfl⟩ rfl rfl
      (pending_of_setInterest (a := a.plain) (g := (·.union Events.FDE_READ)))
  | @enqueue _ s a r b a' data obs q hs hl hpeer hr hb hq hd =>
    exact ((hi.emit _).emits obs).drained_peer hs hpeer hr hd fun he => by
      simp [ASocket.isLocal, ASocket.isTracker, he] at hb
  | @drain _ s a a' obs hs hl hw hd =>
    have hne : a.queued ≠ [] := (hi.local_wf hs hl).wanted hw
    refine (hi.emits obs).drained hs hd ?_ ?_
    · intro hpeer hc
      exact absurd (hi.connecting s a hs (by simp) hl hpeer hc).1 hne
    · intro r b hpeer hr he
      exact absurd (hi.idle s a r b hs (by simp) hl hpeer hr he) hne
  | @settle _ s a r b a' obs t p hs hl hpeer hr hb hw hd =>
    refine ((hi.emits obs).drained_peer hs hpeer hr hd fun he => ?_).emit _
    simp [ASocket.isRemote, he] at hb
  | @finish _ s a o left hs hl hc ho =>
    have hpeer := ((hi.local_wf hs hl).drains hc).1
    exact (((hi.loosen hs hpeer).emit o).remove (by simp) (by simp) (by simp)).emit _
  | @abandon _ s a hs hl hc =>
    have hpeer := ((hi.local_wf hs hl).drains hc).1
    exact ((hi.loosen hs hpeer).remove (by simp) (by simp) (by simp)).emit _
  | read data => exact hi.emit _
  | discard data => exact hi.emit _
  | @forward _ s a r b data t p hs hl hpeer =>
    exact ((hi.emit _).emit _).write_local hs hl hpeer (hi.local_wf hs hl).delRead
      sameShape_setInterest rfl rfl pending_of_setInterest
  | close hs hpeer hc => exact (hi.loosen hs hpeer).orphan hs (by simp) (by simp) (by simp)
  | closePair hs hpeer hr => exact hi.closePair hs hpeer hr
  | client hid => exact hi.client hid
  | forwardClient t p hid => exact hi.forwardClient hid t _
  | hostService hs hl hpeer hr he hid => exact hi.hostService hs hl hpeer hr hid _
  | track long hs hl hpeer hr he => exact hi.track hs hl hpeer hr long _
  | @handOver _ s a r b t p hs hl hpeer hr he =>
    exact hi.handOver hs hl hpeer (hi.idle s a r b hs (by simp) hl hpeer hr he) t _
  | accept exits remote t p hid ht hj hremote => exact hi.accept hid hremote exits t _
  | connect remote t status hs hl hpeer hc hremote => exact hi.connect hs hl hpeer hc hremote t _
  | @deliver _ s a r b a' data obs ack q t hs hl hpeer hr hb hq hd =>
    refine (((hi.emit _).emits obs).drained_peer hs hpeer hr hd fun he => ?_).emits ack
    simp [ASocket.isRemote, he] at hb
  | @inject _ s a r b a' data obs q hs hl hpeer hr hb hq hd =>
    exact ((hi.emit _).emits obs).drained_peer hs hpeer hr hd fun he => by
      simp [ASocket.isLocal, he] at hb
  | echo t p => exact hi.emit _

/-! ## Sequences of steps -/

namespace Effs

variable {Q : Rules} {m : List Act} {ρ : Sockets}

lemma single (h : Eff P l σ τ) : Effs P l σ τ := by
  simpa using Effs.refl.tail h

lemma trans (h : Effs P l σ τ) (h' : Effs P m τ ρ) : Effs P (l ++ m) σ ρ := by
  induction h' with
  | refl => simpa using h
  | tail _ h' ih => simpa using (ih h).tail h'

lemma emits {obs : List Obs} (h : ∀ o ∈ obs, o.faint = true) : Effs P [] σ (σ.emits obs) := by
  induction obs generalizing σ with
  | nil => simpa [Sockets.emits] using Effs.refl
  | cons o rest ih =>
    have h1 : Effs P [] σ (σ.emit o) := .single (.emit o (h o (by simp)))
    have h2 : Effs P [] (σ.emit o) ((σ.emit o).emits rest) := ih fun o ho => h o (by simp [ho])
    simpa [Sockets.emits, Sockets.emit] using h1.trans h2

lemma inv (h : Effs P l σ τ) (hi : Inv [] σ) : Inv [] τ := by
  induction h with
  | refl => exact hi
  | tail _ h' ih => exact h'.inv (ih hi)

lemma mono (hPQ : P.Le Q) (h : Effs P l σ τ) : Effs Q l σ τ := by
  induction h with
  | refl => exact .refl
  | tail _ h' ih =>
    refine ih.tail ?_
    cases h' with
    | emit o ho => exact .emit o ho
    | note o ho => exact .note o ho
    | os os => exact .os os
    | touch hs hw ht => exact .touch hs hw ht
    | arm f' hs hl hf hf' hstate hold hnew => exact .arm f' hs hl hf hf' hstate hold hnew
    | select t hs he ht => exact .select t hs he (hPQ.attach t ht)
    | wake hs hl hpeer hr hb => exact .wake hs hl hpeer hr hb
    | hush hs hl hpeer hr hb => exact .hush hs hl hpeer hr hb
    | readied status hs hl hpeer hst => exact .readied status hs hl hpeer hst
    | enqueue hs hl hpeer hr hb hq hd => exact .enqueue hs hl hpeer hr hb hq hd
    | drain hs hl hw hd hleft => exact .drain hs hl hw hd hleft
    | settle t p hs hl hpeer hr hb hw hd hdone ht hp =>
      exact .settle t p hs hl hpeer hr hb hw hd hdone ht hp
    | finish o left hs hl hc ho => exact .finish o left hs hl hc ho
    | abandon hs hl hc => exact .abandon hs hl hc
    | read data hs hl hpeer hr hb => exact .read data hs hl hpeer hr hb
    | discard data hs hl hpeer => exact .discard data hs hl hpeer
    | forward data t p hs hl hpeer hr hb ht hp hdata hsend =>
      exact .forward data t p hs hl hpeer hr hb ht hp hdata (hPQ.send t p hsend)
    | close hs hpeer hc => exact .close hs hpeer hc
    | closePair hs hpeer hr => exact .closePair hs hpeer hr
    | client hid => exact .client hid
    | forwardClient t p hid ht hp hsend =>
      exact .forwardClient t p hid (hPQ.attach t ht) hp (hPQ.send t p hsend)
    | hostService hs hl hpeer hr he hid => exact .hostService hs hl hpeer hr he hid
    | track long hs hl hpeer hr he => exact .track long hs hl hpeer hr he
    | handOver t p hs hl hpeer hr he ht hp hsend =>
      exact .handOver t p hs hl hpeer hr he (hPQ.attach t ht) hp (hPQ.send t p hsend)
    | accept exits remote t p hid ht hj hremote hp =>
      exact .accept exits remote t p hid (hPQ.attach t ht) (hPQ.join t hj) hremote hp
    | connect remote t status hs hl hpeer hc hremote ht hj hst =>
      exact .connect remote t status hs hl hpeer hc hremote (hPQ.attach t ht) (hPQ.join t hj) hst
    | deliver hs hl hpeer hr hb hq hd hack => exact .deliver hs hl hpeer hr hb hq hd hack
    | inject hs hl hpeer hr hb hq hd => exact .inject hs hl hpeer hr hb hq hd
    | echo t p hs hl hpeer hr hb hp => exact .echo t p hs hl hpeer hr hb hp

end Effs

end Sockets

end Adb
