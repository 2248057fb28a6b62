import Adb.Deeds
import Adb.StepTheorems

/-!
# The sockets of the program live as described

Every step of the sockets is a step in the life of each of them (`Eff.deed`), and every sequence of
steps is a part of the life of each (`Effs.lives`).
-/

namespace Adb

open Lib List Store

namespace Sockets

open ASocket
open Obs (Tell)

variable {P : Rules} {σ τ : Sockets} {l m : List Act} {s r p : Ptr} {a b a' : ASocket}
  {n : UInt32} {obs : List Obs}

lemma about_self {act : Act} (h : act.stream = some s) : about s [act] = [act] := by
  simp [about, h]

lemma stream_single {act : Act} (h : act.stream = some s) :
    ∀ act' ∈ [act], ∀ p, act'.stream = some p → p = s := by
  intro act' hact p hp
  rw [mem_singleton.mp hact, h] at hp
  exact (Option.some_inj.mp hp).symm

/-! ## Steps of a socket that has its peer -/

section peer

variable (hi : Inv [] σ) (hs : σ.heap.get s = some a) (hl : a.isLocal = true)
include hi hs hl

lemma deed_interest (hpeer : a.peer = some r) (hr : σ.heap.get r = some b)
    (hb : b.isRemote = false) {g : Events → Events} {reading : Bool}
    (hlife : (a.setInterest g).lifeIn σ.heap = { a.lifeIn σ.heap with reading := reading }) :
    Deed P.join [] [] σ (σ.write s (a.setInterest g)) := by
  refine .solo hi (by simp) hs hl rfl rfl rfl rfl rfl .nil (by simp) ?_
  rw [hlife]
  refine .interest reading ?_
  show a.linkIn σ.heap = _ ∨ a.linkIn σ.heap = _
  rw [hi.linkIn_peer hs hpeer hr]
  exact asPeer_of_not_remote hb

lemma deed_readied (hpeer : a.peer = some r) {status : List Obs}
    (hst : status = [] ∨ status = [.status s true []]) :
    Deed P.join [.ready s] (.readied s :: status) σ
      (((σ.emit (.readied s)).emits status).write s a.plain.addRead) := by
  have hw := hi.local_wf hs hl
  have hc := hi.not_closing_of_peer hs hpeer
  obtain ⟨-, -, b, hr, -⟩ := hi.paired s a r hs (by simp) hpeer
  refine .solo hi (by simp) hs hl rfl rfl rfl rfl rfl
    (.append (.own rfl rfl rfl (by simp)) (.status hst)) (stream_single rfl) ?_
  rw [lifeIn_addRead hw.plain, about_self rfl]
  refine .ready ?_ (linkIn_ne_closing hc)
  show a.linkIn σ.heap ≠ _
  rw [hi.linkIn_peer hs hpeer hr, asPeer]
  split <;> simp

variable {data : Bytes}

lemma deed_enqueue (hpeer : a.peer = some r) (hr : σ.heap.get r = some b)
    (hb : b.isLocal = true ∨ b.isTracker = true) (hl' : l = [] ∨ l = [.inject s]) {q : IOVector}
    (hq : q.bytes = a.queued ++ data) (hd : { a with packetQueue := q }.Drained s a' obs) :
    Deed P.join l (.enqueued s data :: obs) σ
      (((σ.emit (.enqueued s data)).emits obs).write s a') := by
  refine .solo hi (by simp) hs hl rfl rfl hd.enqueue hd.id hd.peer
    (.append (.own rfl rfl rfl (by simp)) (.drained hd)) ?_ ?_
  · rcases hl' with rfl | rfl
    · simp
    · exact stream_single rfl
  refine .enqueue ((hi.linkIn_peer hs hpeer hr).trans (asPeer_inner hb)) ?_ (flush_of_drained hq hd)
  rcases hl' with rfl | rfl
  · exact .inl rfl
  · exact .inr (about_self rfl)

lemma deed_deliver (hpeer : a.peer = some r) (hr : σ.heap.get r = some b) (hb : b.isRemote = true)
    {q : IOVector} {ack : List Obs} {t : TPtr} (hq : q.bytes = a.queued ++ data)
    (hd : { a with packetQueue := q }.Drained s a' obs) (hack : Answer s a' obs b.id t ack) :
    Deed P.join [.deliver s t data] (.enqueued s data :: (obs ++ ack)) σ
      ((((σ.emit (.enqueued s data)).emits obs).write s a').emits ack) := by
  have htell : Tell s a.id ack ack := by
    cases hack with
    | later => exact .nil
    | now _ hp => exact .sent (by rw [← hd.id]; exact hp) (by simp)
  have hdone : (a'.lifeIn σ.heap).writing = false ↔ Done s a' obs := hd.done
  have hlink : (a.lifeIn σ.heap).link = .joined b.transport b.id :=
    (hi.linkIn_peer hs hpeer hr).trans (asPeer_remote hb)
  have hanswer : (a'.lifeIn σ.heap).writing = true ∧ ack = [] ∨ (a'.lifeIn σ.heap).writing = false ∧
      ∃ p, ack = [.sent t p] ∧ IsPacket p A_OKAY a.id b.id := by
    cases hack with
    | later hnot => exact .inl ⟨by simpa using mt hdone.mp hnot, rfl⟩
    | now hyes hp => exact .inr ⟨hdone.mpr hyes, _, rfl, by rw [← hd.id]; exact hp⟩
  have hstep := Phase.Step.deliver (J := P.join) hlink (flush_of_drained hq hd) hanswer
  rw [show [Act.deliver s t data] = about s [.deliver s t data] from (about_self rfl).symm] at hstep
  exact .solo hi (by simp) hs hl rfl rfl hd.enqueue hd.id hd.peer
    (.append (.own rfl rfl rfl (by simp)) (.append (.drained hd) htell)) (stream_single rfl) hstep

lemma deed_drain (hw : a.wantsWrite = true) (hd : a.Drained s a' obs)
    (hleft : a'.queued ≠ [] ∧ obs ≠ [.writeFailed s] ∨
      ∃ r b, a.peer = some r ∧ σ.heap.get r = some b ∧ b.isRemote = false) :
    Deed P.join [] obs σ ((σ.emits obs).write s a') := by
  refine .solo hi (by simp) hs hl rfl rfl hd.enqueue hd.id hd.peer (.drained hd) (by simp) ?_
  refine .drain hw (flush_of_drained_nil hd) ?_
  rcases hleft with ⟨hq, hf⟩ | ⟨r, b, hpeer, hr, hb⟩
  · exact .inl (by simpa [lifeIn] using mt hd.done.mp (by simp [hq, hf]))
  refine .inr ((hi.linkIn_peer hs hpeer hr).trans ?_)
  refine (asPeer_of_not_remote hb).resolve_left fun hsmart => ?_
  -- nothing is queued for the client of a smart socket
  refine (hi.local_wf hs hl).wanted hw (hi.idle s a r b hs (by simp) hl hpeer hr ?_)
  unfold asPeer at hsmart
  split at hsmart <;> first | assumption | cases hsmart

lemma deed_settle (hpeer : a.peer = some r) (hr : σ.heap.get r = some b) (hb : b.isRemote = true)
    (hw : a.wantsWrite = true) (hd : a.Drained s a' obs) (hdone : Done s a' obs) {t : TPtr}
    {q : APacket} (ht : b.transport = some t) (hq : IsPacket q A_OKAY a.id b.id) :
    Deed P.join [] (obs ++ [.sent t q]) σ (((σ.emits obs).write s a').emit (.sent t q)) := by
  refine .solo hi (by simp) hs hl rfl rfl hd.enqueue hd.id hd.peer
    (.append (.drained hd) (.sent hq (by simp))) (by simp) ?_
  have hlink := (hi.linkIn_peer hs hpeer hr).trans (asPeer_remote hb)
  rw [ht] at hlink
  exact .settle hlink hw (flush_of_drained_nil hd) (hd.done.mpr hdone) hq

lemma deed_forward (hpeer : a.peer = some r) (hr : σ.heap.get r = some b)
    (hb : b.isRemote = true) {t : TPtr} {q : APacket} (ht : b.transport = some t)
    (hq : IsPacket q A_WRTE a.id b.id) (hdata : q.payload = data) :
    Deed P.join (if a.wantsRead then [] else [.unasked s]) [.read s data, .sent t q] σ
      (((σ.emit (.read s data)).emit (.sent t q)).write s a.delRead) := by
  have hw := hi.local_wf hs hl
  refine .solo hi (by simp) hs hl rfl rfl rfl rfl rfl
    (.append (.own rfl rfl rfl (by simp)) (.sent hq (by simp))) ?_ ?_
  · split
    · simp
    · exact stream_single rfl
  have hlink := (hi.linkIn_peer hs hpeer hr).trans (asPeer_remote hb)
  rw [ht] at hlink
  have habout : about s (if a.wantsRead then [] else [.unasked s]) =
      if (a.lifeIn σ.heap).reading then [] else [.unasked s] := by
    show about s (if a.wantsRead then [] else [.unasked s]) = if a.wantsRead then [] else _
    split
    · rfl
    · exact about_self rfl
  rw [habout, lifeIn_delRead hw, ← hdata]
  exact .forward hlink hq

lemma deed_seen {o : Obs} (htell : Tell s a.id [o] [o])
    (hacts : ∀ act ∈ l, ∀ p, act.stream = some p → p = s)
    (hstep : Phase.Step P.join s a.id (about s l) (.alive (a.lifeIn σ.heap)) [o]
      (.alive (a.lifeIn σ.heap))) : Deed P.join l [o] σ (σ.emit o) :=
  .solo hi rfl hs hl (set_get hs).symm rfl rfl rfl rfl htell hacts hstep

end peer

/-! ## Closing -/

lemma get_orphan_self (hs : σ.heap.get s = some a) (hl : a.isLocal = true) :
    (orphan s a σ).heap.get s = if a.disposable then none else some a.retired := by
  unfold orphan
  rw [if_pos hl]
  split
  · exact get_free_self
  · exact get_set_self hs _

@[simp] lemma orphan_next : (orphan s a σ).heap.next = σ.heap.next := by
  unfold orphan
  split
  · split <;> rfl
  · rfl

@[simp] lemma orphan_nextId (s : Ptr) (a : ASocket) (σ : Sockets) :
    (orphan s a σ).localSocketNextId = σ.localSocketNextId := by
  unfold orphan
  split
  · split <;> rfl
  · rfl

variable {J : TPtr → Prop}

lemma orphan_step (heap : Store ASocket) {heap' : Store ASocket}
    (hw : a.WfLocal) (hl : a.isLocal = true) (hc : a.closing = false)
    (hget : heap'.get s = if a.disposable then none else some a.retired) :
    Phase.Step J s a.id [] (.alive (a.lifeIn heap)) (orphanObs s a) (phaseAt heap' s) := by
  have hopen : (a.lifeIn heap).link ≠ .closing := linkIn_ne_closing hc
  unfold orphanObs
  rw [if_pos hl]
  split at hget
  · next hd =>
    rw [if_pos hd, phaseAt_none hget]
    exact .destroy hopen
  · next hd =>
    rw [if_neg hd, phaseAt_some hget, lifeIn_retired hw]
    exact .retire hopen

lemma mem_orphanObs {o : Obs} (ho : o ∈ orphanObs s a) :
    a.isLocal = true ∧ o.neutral = false ∧ o.socket = some s ∧ o.sender = none ∧
      ∀ p n, o ≠ .created p n := by
  unfold orphanObs at ho
  split at ho
  · next hl =>
    split at ho
    · cases mem_singleton.mp ho
      exact ⟨hl, rfl, rfl, rfl, by simp⟩
    · cases mem_singleton.mp ho
      exact ⟨hl, rfl, rfl, rfl, by simp⟩
  · cases ho

lemma filter_orphanObs_self (id : UInt32) :
    (orphanObs s a).filter (Obs.concerns s id) = orphanObs s a := by
  refine filter_eq_self.mpr fun o ho => ?_
  obtain ⟨-, hn, hs, -⟩ := mem_orphanObs ho
  exact Obs.concerns_of_socket hn hs

lemma filter_orphanObs_of_ne (hp : p ≠ s) (id : UInt32) :
    (orphanObs s a).filter (Obs.concerns p id) = [] := by
  refine filter_eq_nil_iff.mpr fun o ho hc => ?_
  obtain ⟨-, -, hs, hsender, -⟩ := mem_orphanObs ho
  rcases (Obs.concerns_iff.mp hc).2 with h | h
  · rw [hs] at h
    exact hp (Option.some_inj.mp h).symm
  · rw [hsender] at h
    cases h

lemma deed_close (hi : Inv [] σ) (hs : σ.heap.get s = some a) (hpeer : a.peer = none)
    (hc : a.closing = false) : Deed P.join [] (orphanObs s a) σ (orphan s a σ) := by
  have hl : a.isLocal = true := by
    by_contra hl
    exact hi.owned s a hs (by simp) (by simpa using hl) hpeer
  have hget := get_orphan_self hs hl
  have htell : Tell s a.id (orphanObs s a) (orphanObs s a) := by
    refine ⟨filter_orphanObs_self _, fun o ho _ p hp => ?_, fun o ho _ n hn => ?_,
      fun p n ho => (mem_orphanObs ho).2.2.2.2 p n rfl⟩
    · rw [(mem_orphanObs ho).2.2.1] at hp
      exact (Option.some_inj.mp hp).symm
    · rw [(mem_orphanObs ho).2.2.2.1] at hn
      cases hn
  have hstep := orphan_step (J := P.join) σ.heap (hi.local_wf hs hl) hl hc hget
  cases hd : a.disposable with
  | true =>
    rw [hd] at hget
    rw [phaseAt_none hget] at hstep
    refine .last hi orphan_trace hs hl hpeer ?_ (orphan_nextId s a σ) htell (by simp) hstep
    unfold orphan
    rw [if_pos hl, if_pos hd]
    rfl
  | false =>
    rw [hd] at hget
    rw [phaseAt_some hget] at hstep
    have hheap : (orphan s a σ).heap = σ.heap.set s a.retired := by
      unfold orphan
      rw [if_pos hl, if_neg (by simp [hd])]
      rfl
    refine .solo hi orphan_trace hs hl hheap (orphan_nextId s a σ) rfl rfl hpeer.symm htell
      (by simp) ?_
    rwa [lifeIn_congr (a := a.retired) (by simp [retired])] at hstep

lemma deed_closePair (hi : Inv [] σ) (hs : σ.heap.get s = some a) (hpeer : a.peer = some r)
    (hr : σ.heap.get r = some b) :
    Deed P.join [] (orphanObs r b ++ orphanObs s a) σ (orphan s a (orphan r b σ)) := by
  obtain ⟨-, hrs, c, hc, hback, -⟩ := hi.paired s a r hs (by simp) hpeer
  obtain rfl : b = c := Option.some_inj.mp (hr.symm.trans hc)
  have hs' : (orphan r b σ).heap.get s = some a := (Inv.get_orphan_of_ne hr hrs.symm).trans hs
  have hget_r : (orphan s a (orphan r b σ)).heap.get r = (orphan r b σ).heap.get r :=
    Inv.get_orphan_of_ne hs' hrs
  -- where the two sockets are afterwards
  have hafter (p : Ptr) (c : ASocket) (hp : p = s ∨ p = r) (hcp : σ.heap.get p = some c)
      (hl : c.isLocal = true) : (orphan s a (orphan r b σ)).heap.get p =
        if c.disposable then none else some c.retired := by
    rcases hp with rfl | rfl
    · obtain rfl : a = c := Option.some_inj.mp (hs.symm.trans hcp)
      exact get_orphan_self hs' hl
    · obtain rfl : b = c := Option.some_inj.mp (hr.symm.trans hcp)
      exact hget_r.trans (get_orphan_self hr hl)
  have hinvolved (p : Ptr) (c : ASocket) (hp : p = s ∨ p = r) (hcp : σ.heap.get p = some c) {o : Obs}
      (ho : o ∈ orphanObs p c) {q : Ptr} (hq : o.socket = some q) :
      Involved (fun p => p = s ∨ p = r) (orphanObs r b ++ orphanObs s a) σ q := by
    obtain ⟨hl, -, hsock, -⟩ := mem_orphanObs ho
    rw [hsock] at hq
    cases hq
    exact .inl ⟨c, hcp, hl, hp⟩
  have hobs {o : Obs} (ho : o ∈ orphanObs r b ++ orphanObs s a) :
      o ∈ orphanObs r b ∨ o ∈ orphanObs s a := mem_append.mp ho
  have hold (p : Ptr) (n : UInt32) : .created p n ∉ orphanObs r b ++ orphanObs s a := by
    intro hp
    rcases hobs hp with hp | hp
    · exact (mem_orphanObs hp).2.2.2.2 p n rfl
    · exact (mem_orphanObs hp).2.2.2.2 p n rfl
  refine Deed.build (T := fun p => p = s ∨ p = r) hi (by simp) (by simp)
    (UInt32.le_of_eq (by simp)) ?_ ?_ ?_ ?_ (fun p n hp => absurd hp (hold p n)) ?_ ?_ ?_ (by simp)
  · rintro p (rfl | rfl)
    · exact ⟨a, hs⟩
    · exact ⟨b, hr⟩
  · intro p hp hlt
    simp only [not_or] at hp
    refine hi.untouched hs (fun q hqs hqr _ => ?_) hlt hp.1
      (by rw [hpeer]; exact fun h => hp.2 (Option.some_inj.mp h).symm)
    have hqr : q ≠ r := by
      rintro rfl
      exact hqr hpeer
    rw [Inv.get_orphan_of_ne hs' hqs, Inv.get_orphan_of_ne hr hqr]
  · intro p c c' hp hcp hc'
    cases hl : c.isLocal with
    | true =>
      rw [hafter p c hp hcp hl] at hc'
      split at hc'
      · cases hc'
      · cases hc'
        exact ⟨hl, rfl⟩
    | false =>
      -- a socket that is not local is deleted
      exfalso
      rcases hp with rfl | rfl
      · obtain rfl : a = c := Option.some_inj.mp (hs.symm.trans hcp)
        rw [orphan, if_neg (by simp [hl]), get_remove, if_pos rfl] at hc'
        cases hc'
      · obtain rfl : b = c := Option.some_inj.mp (hr.symm.trans hcp)
        rw [hget_r, orphan, if_neg (by simp [hl]), get_remove, if_pos rfl] at hc'
        cases hc'
  · intro p c hp hcp hl
    have hopen : c.closing = false := by
      rcases hp with rfl | rfl
      · exact hi.not_closing_of_peer hcp (Option.some_inj.mp (hs.symm.trans hcp) ▸ hpeer)
      · exact hi.not_closing_of_peer hcp (Option.some_inj.mp (hr.symm.trans hcp) ▸ hback)
    have hfilter : (orphanObs r b ++ orphanObs s a).filter (Obs.concerns p c.id) =
        orphanObs p c := by
      rw [filter_append]
      rcases hp with rfl | rfl
      · obtain rfl : a = c := Option.some_inj.mp (hs.symm.trans hcp)
        rw [filter_orphanObs_of_ne hrs.symm, filter_orphanObs_self, nil_append]
      · obtain rfl : b = c := Option.some_inj.mp (hr.symm.trans hcp)
        rw [filter_orphanObs_self, filter_orphanObs_of_ne hrs, List.append_nil]
    rw [hfilter]
    exact orphan_step σ.heap (hi.local_wf hcp hl) hl hopen (hafter p c hp hcp hl)
  · intro p c hle hp _
    have hne : ∀ q d, σ.heap.get q = some d → p ≠ q := fun q d hq => ne_of_next_le hq hle
    rw [Inv.get_orphan_of_ne hs' (hne s a hs), Inv.get_orphan_of_ne hr (hne r b hr),
      σ.heap.fresh p hle] at hp
    cases hp
  · intro o ho _ p hp
    rcases hobs ho with ho | ho
    · exact hinvolved r b (.inr rfl) hr ho hp
    · exact hinvolved s a (.inl rfl) hs ho hp
  · intro o ho _ n hn
    have hsender : o.sender = none := by
      rcases hobs ho with ho | ho
      · exact (mem_orphanObs ho).2.2.2.1
      · exact (mem_orphanObs ho).2.2.2.1
    rw [hsender] at hn
    cases hn

/-! ## New sockets -/

lemma Deed.birth_pair {obs' : List Obs} (hi : Inv [] σ)
    (hid : σ.localSocketNextId + 1 ≠ 0)
    (htrace : τ.trace = σ.trace ++ .created σ.heap.next σ.localSocketNextId :: obs')
    (hnext : τ.heap.next = σ.heap.next + 2)
    (hnextId : τ.localSocketNextId = σ.localSocketNextId + 1)
    (hother : ∀ q, q ≠ σ.heap.next → q ≠ σ.heap.next + 1 → τ.heap.get q = σ.heap.get q)
    (hnew : τ.heap.get σ.heap.next = some { a.addRead with peer := some (σ.heap.next + 1) })
    (hl : a.isLocal = true) (ha : a.id = σ.localSocketNextId) (hw : a.WfLocal)
    (hc : a.closing = false) (hpeer : τ.heap.get (σ.heap.next + 1) = some b)
    (hb : b.isLocal = false) (htell : Tell σ.heap.next σ.localSocketNextId obs' obs')
    (hacts : ∀ act ∈ l, ∀ p, act.stream = some p → p = σ.heap.next)
    (hstep : Phase.Step J σ.heap.next σ.localSocketNextId (about σ.heap.next l) .unborn
      (.created σ.heap.next σ.localSocketNextId :: obs')
      (.alive ⟨b.asPeer, a.queued, true, a.wantsWrite⟩)) :
    Deed J l (.created σ.heap.next σ.localSocketNextId :: obs') σ τ := by
  refine .birth hi htrace (by omega) hnextId hid
    (fun q hq => hother q (Nat.ne_of_lt hq) (by omega)) hnew hl ha (fun q c hq hc => ?_) rfl htell
    hacts ?_
  · by_cases hq' : q = σ.heap.next + 1
    · cases (hq' ▸ hpeer).symm.trans hc
      exact hb
    · rw [hother q (Nat.ne_of_gt hq) hq', σ.heap.fresh q (Nat.le_of_lt hq)] at hc
      cases hc
  · rw [lifeIn_withPeer hw hc, linkTo_some hpeer]
    exact hstep

lemma deed_client (hi : Inv [] σ) (hid : σ.localSocketNextId + 1 ≠ 0) :
    Deed P.join [] [.created σ.heap.next σ.localSocketNextId] σ
      (((σ.create.addBare .newSmart).link σ.heap.next (σ.heap.next + 1)
        (.newLocal σ.localSocketNextId) .newSmart).write σ.heap.next
          { (ASocket.newLocal σ.localSocketNextId).addRead with
            peer := some (σ.heap.next + 1) }) := by
  refine .birth_pair (b := { ASocket.newSmart with peer := some σ.heap.next }) hi hid (by simp) rfl
    rfl (fun q h1 h2 => ?_) ?_ rfl rfl (wfLocal_newLocal hi.nextId) rfl ?_ rfl .nil (by simp) .client
  · simp [Sockets.write, Sockets.link, Sockets.addBare, Sockets.create, addLocal, get_alloc, h1, h2]
  · simp [Sockets.write, Sockets.link, Sockets.addBare, Sockets.create, addLocal, get_alloc]
  · simp [Sockets.write, Sockets.link, Sockets.addBare, Sockets.create, addLocal, get_alloc]

lemma deed_forwardClient (hi : Inv [] σ) (hid : σ.localSocketNextId + 1 ≠ 0) {t : TPtr}
    {q : APacket} (hq : IsPacket q A_OPEN σ.localSocketNextId 0) :
    Deed P.join [] [.created σ.heap.next σ.localSocketNextId, .sent t q,
        .opened σ.heap.next σ.localSocketNextId] σ
      ((σ.create.write σ.heap.next
        { ASocket.newLocal σ.localSocketNextId with transport := some t }).emits
          [.sent t q, .opened σ.heap.next σ.localSocketNextId]) := by
  let heap := (σ.heap.alloc (.newLocal σ.localSocketNextId)).set σ.heap.next
    { ASocket.newLocal σ.localSocketNextId with transport := some t }
  refine .birth hi (by simp) (Nat.lt_succ_self _) rfl hid (fun q hq => ?_)
    (a := { ASocket.newLocal σ.localSocketNextId with transport := some t }) ?_ rfl rfl
    (fun q c hq hc => ?_) rfl
    (.append (.sent hq (by simp)) (.own rfl rfl rfl (by simp))) (by simp)
    (.dial hq)
  · show heap.get q = _
    simp [heap, Nat.ne_of_lt hq]
  · show heap.get σ.heap.next = _
    simp [heap]
  change heap.get q = some c at hc
  have hfree : σ.heap.get q = none := σ.heap.fresh q (Nat.le_of_lt hq)
  simp [heap, Nat.ne_of_gt hq, hfree] at hc

lemma deed_accept (hi : Inv [] σ) (hid : σ.localSocketNextId + 1 ≠ 0) {exits : Bool}
    {remote : UInt32} {t : TPtr} {q : APacket} (hj : P.join t)
    (hq : IsPacket q A_OKAY σ.localSocketNextId remote) :
    Deed P.join [.accept σ.heap.next σ.localSocketNextId remote t]
      [.created σ.heap.next σ.localSocketNextId,
        .accepted σ.heap.next σ.localSocketNextId remote, .sent t q, .readied σ.heap.next] σ
      (((((σ.create.write σ.heap.next (.newService σ.localSocketNextId exits)).addBare
          (.newRemote remote t)).link σ.heap.next (σ.heap.next + 1)
            (.newService σ.localSocketNextId exits) (.newRemote remote t)).emits
          [.accepted σ.heap.next σ.localSocketNextId remote, .sent t q,
            .readied σ.heap.next]).write σ.heap.next
        { (ASocket.newService σ.localSocketNextId exits).addRead with
          peer := some (σ.heap.next + 1) }) := by
  refine .birth_pair (b := { ASocket.newRemote remote t with peer := some σ.heap.next }) hi hid
    (by simp) rfl rfl (fun q h1 h2 => ?_) ?_ rfl rfl (wfLocal_newService hi.nextId exits) rfl ?_ rfl
    (.append (.own rfl rfl rfl (by simp))
      (.append (.sent hq (by simp)) (.own rfl rfl rfl (by simp))))
    (stream_single rfl) ?_
  · simp [Sockets.write, Sockets.link, Sockets.addBare, Sockets.create, addLocal, get_alloc, h1, h2]
  · simp [Sockets.write, Sockets.link, Sockets.addBare, Sockets.create, addLocal, get_alloc]
  · simp [Sockets.write, Sockets.link, Sockets.addBare, Sockets.create, addLocal, get_alloc]
  · rw [about_self rfl]
    exact .accept hj hq

/-! ## A client gets another peer -/

lemma Deed.move {obs' : List Obs} (hi : Inv [] σ)
    (htrace : τ.trace = σ.trace ++ obs) (hnext : σ.heap.next ≤ τ.heap.next)
    (hnextId : τ.localSocketNextId = σ.localSocketNextId) (hs : σ.heap.get s = some a)
    (hl : a.isLocal = true) (hs' : τ.heap.get s = some a') (hl' : a'.isLocal = true)
    (hid : a'.id = a.id)
    (hpeer : ∀ r b, a.peer = some r → σ.heap.get r = some b →
      b.isLocal = false ∧ τ.heap.get r = none)
    (hother : ∀ q, q ≠ s → a.peer ≠ some q → q ≠ σ.heap.next → τ.heap.get q = σ.heap.get q)
    (hnew : ∀ c, τ.heap.get σ.heap.next = some c → c.isLocal = false)
    (htell : Tell s a.id obs obs') (hacts : ∀ act ∈ l, ∀ p, act.stream = some p → p = s)
    (hstep : Phase.Step J s a.id (about s l) (.alive (a.lifeIn σ.heap)) obs'
      (.alive (a'.lifeIn τ.heap))) : Deed J l obs σ τ := by
  refine .of_local (T := fun p => p = s ∨ a.peer = some p) hi htrace hnext hnextId hs hl (.inl rfl)
    (fun p hp hps => ?_) (fun p hp hlt => ?_) (fun c hc => ?_) (fun p c hle hp => ?_) htell hacts ?_
  · have hp := hp.resolve_left hps
    obtain ⟨-, -, b, hb, -⟩ := hi.paired s a p hs (by simp) hp
    exact ⟨b, hb, hpeer p b hp hb⟩
  · exact hi.untouched hs (fun q hqs hqr hq => hother q hqs hqr (Nat.ne_of_lt hq)) hlt
      (fun h => hp (.inl h)) fun h => hp (.inr h)
  · cases hs'.symm.trans hc
    exact ⟨hl', hid⟩
  · by_cases hpn : p = σ.heap.next
    · exact hnew c (hpn ▸ hp)
    have hpr : a.peer ≠ some p := by
      intro hpr
      obtain ⟨-, -, b, hb, -⟩ := hi.paired s a p hs (by simp) hpr
      exact ne_of_next_le hb hle rfl
    rw [hother p (ne_of_next_le hs hle) hpr hpn, σ.heap.fresh p hle] at hp
    cases hp
  · rw [phaseAt_some hs']
    exact hstep

lemma isLocal_of_smart (he : b.enqueue = .smartSocketEnqueue) : b.isLocal = false := by
  simp [isLocal, he]

lemma deed_connect (hi : Inv [] σ) (hs : σ.heap.get s = some a) (hl : a.isLocal = true)
    (hpeer : a.peer = none) (hc : a.closing = false) {remote : UInt32} {t : TPtr} (hj : P.join t)
    {status : List Obs} (hst : status = [] ∨ status = [.status s true []]) :
    Deed P.join [.connect s a.id remote t] (.readied s :: status) σ
      ((((σ.addBare (.newRemote remote t)).link s σ.heap.next a.plain
        (.newRemote remote t)).emits (.readied s :: status)).write s
          { a.plain.addRead with peer := some σ.heap.next }) := by
  have hsn : s ≠ σ.heap.next := ne_next hs
  let heap := (((σ.heap.alloc (.newRemote remote t)).set s
    { a.plain with peer := some σ.heap.next }).set σ.heap.next
      { ASocket.newRemote remote t with peer := some s }).set s
        { a.plain.addRead with peer := some σ.heap.next }
  have hremote : heap.get σ.heap.next =
      some { ASocket.newRemote remote t with peer := some s } := by
    simp [heap, hsn.symm, get_alloc]
  have hw := (hi.local_wf hs hl).plain
  have hs' : heap.get s = some { a.plain.addRead with peer := some σ.heap.next } := by
    simp [heap, hsn, hs, get_alloc]
  refine .move hi (by simp) (Nat.le_succ _) rfl hs hl hs' hl rfl (by simp [hpeer])
    (fun q hqs _ hqn => ?_) (fun c hc => ?_)
    (.append (.own rfl rfl rfl (by simp)) (.status hst)) (stream_single rfl) ?_
  · show heap.get q = _
    simp [heap, hqs, hqn]
  · cases hremote.symm.trans hc
    rfl
  have hlink : linkTo heap σ.heap.next = .joined (some t) remote := linkTo_some hremote
  show Phase.Step _ _ _ _ _ _ (.alive (ASocket.lifeIn heap _))
  rw [lifeIn_withPeer hw hc, hlink, about_self rfl]
  exact .connect (linkIn_waiting hc hpeer) hj

section smart

variable (hi : Inv [] σ) (hs : σ.heap.get s = some a) (hl : a.isLocal = true)
  (hpeer : a.peer = some r) (hr : σ.heap.get r = some b) (he : b.enqueue = .smartSocketEnqueue)
include hi hs hl hpeer hr he

lemma deed_track (long : Bool) :
    Deed P.join [] [.status s true []] σ
      ((((σ.addBare (.newTracker long)).emit (.status s true [])).link s σ.heap.next
        a.plain (.newTracker long)).remove r) := by
  have hsn : s ≠ σ.heap.next := ne_next hs
  have hrn : r ≠ σ.heap.next := ne_next hr
  have hrs : r ≠ s := (hi.paired s a r hs (by simp) hpeer).2.1
  have hc : a.closing = false := hi.not_closing_of_peer hs hpeer
  let heap := (((σ.heap.alloc (.newTracker long)).set s
    { a.plain with peer := some σ.heap.next }).set σ.heap.next
      { ASocket.newTracker long with peer := some s }).free r
  have htracker : heap.get σ.heap.next = some { ASocket.newTracker long with peer := some s } := by
    simp [heap, hsn.symm, hrn.symm, get_alloc]
  have hs' : heap.get s = some { a.plain with peer := some σ.heap.next } := by
    simp [heap, hsn, hrs.symm, hs]
  refine .move hi (by simp) (Nat.le_succ _) rfl hs hl hs' hl rfl (fun r' b' hr' hb' => ?_)
    (fun q hqs hqr hqn => ?_) (fun c hc => ?_) (.neutral rfl) (by simp) ?_
  · cases hpeer.symm.trans hr'
    cases hr.symm.trans hb'
    exact ⟨isLocal_of_smart he, get_free_self⟩
  · have hqr : q ≠ r := fun h => hqr (h ▸ hpeer)
    show heap.get q = _
    simp [heap, hqs, hqr, hqn]
  · cases htracker.symm.trans hc
    rfl
  have hlink : ASocket.linkIn heap { a.plain with peer := some σ.heap.next } = .inner := by
    rw [linkIn_of_peer (a := { a.plain with peer := some σ.heap.next }) hc rfl]
    exact linkTo_some htracker
  have hlife : ASocket.lifeIn heap { a.plain with peer := some σ.heap.next } =
      { a.lifeIn σ.heap with link := .inner } := Life.ext hlink rfl rfl rfl
  show Phase.Step _ _ _ _ _ _ (.alive (ASocket.lifeIn heap _))
  rw [hlife]
  exact .engage ((hi.linkIn_peer hs hpeer hr).trans (asPeer_smart he))

lemma deed_handOver {t : TPtr} {q : APacket} (hq : IsPacket q A_OPEN a.id 0) :
    Deed P.join [] [.sent t q, .opened s a.id] σ
      ((((σ.write s { a.notify with peer := none, transport := some t }).emits
        [.sent t q, .opened s a.id]).remove r).write s
          { a.notify.delRead with peer := none, transport := some t }) := by
  have hrs : r ≠ s := (hi.paired s a r hs (by simp) hpeer).2.1
  have hc : a.closing = false := hi.not_closing_of_peer hs hpeer
  have hw : WfLocal { a.notify with peer := none, transport := some t } :=
    (hi.local_wf hs hl).notify hc (some t)
  let heap := ((σ.heap.set s { a.notify with peer := none, transport := some t }).free r).set s
    { a.notify.delRead with peer := none, transport := some t }
  have hs' : heap.get s = some { a.notify.delRead with peer := none, transport := some t } := by
    simp [heap, hrs.symm, hs]
  refine .move hi (by simp) (Nat.le_refl _) rfl hs hl hs' hl rfl (fun r' b' hr' hb' => ?_)
    (fun q hqs hqr _ => ?_) (fun c hc => ?_)
    (.append (.sent hq (by simp)) (.own rfl rfl rfl (by simp))) (by simp) ?_
  · cases hpeer.symm.trans hr'
    cases hr.symm.trans hb'
    refine ⟨isLocal_of_smart he, ?_⟩
    show heap.get r = none
    simp [heap, hrs]
  · have hqr : q ≠ r := fun h => hqr (h ▸ hpeer)
    show heap.get q = _
    simp [heap, hqs, hqr]
  · change heap.get σ.heap.next = some c at hc
    simp [heap, (ne_next hs).symm, (ne_next hr).symm] at hc
  · have hlink : ASocket.linkIn heap { a.notify.delRead with peer := none, transport := some t } =
        .waiting := linkIn_waiting hc rfl
    have hlife : ASocket.lifeIn heap { a.notify.delRead with peer := none, transport := some t } =
        { a.lifeIn σ.heap with link := .waiting, reading := false } :=
      Life.ext hlink rfl hw.wantsRead_delRead hw.wantsWrite_delRead
    show Phase.Step _ _ _ _ _ _ (.alive (ASocket.lifeIn heap _))
    rw [hlife]
    exact .request ((hi.linkIn_peer hs hpeer hr).trans (asPeer_smart he)) hq

lemma deed_hostService (hid : σ.localSocketNextId + 1 ≠ 0) :
    Deed P.join [] [.created σ.heap.next σ.localSocketNextId, .status s true []] σ
      ((((σ.create.emit (.status s true [])).link s σ.heap.next a.plain
        (.newLocal σ.localSocketNextId)).remove r).write σ.heap.next
          { (ASocket.newLocal σ.localSocketNextId).addRead with peer := some s }) := by
  have hsn : s ≠ σ.heap.next := ne_next hs
  have hrn : r ≠ σ.heap.next := ne_next hr
  have hrs : r ≠ s := (hi.paired s a r hs (by simp) hpeer).2.1
  have hc : a.closing = false := hi.not_closing_of_peer hs hpeer
  have hlt : σ.localSocketNextId < σ.localSocketNextId + 1 :=
    UInt32.lt_add_one fun h => hid (by rw [h]; rfl)
  let service : ASocket := .newLocal σ.localSocketNextId
  let heap := ((((σ.heap.alloc service).set s { a.plain with peer := some σ.heap.next }).set
    σ.heap.next { service with peer := some s }).free r).set σ.heap.next
      { service.addRead with peer := some s }
  have hnew : heap.get σ.heap.next = some { service.addRead with peer := some s } := by
    simp [heap, hsn.symm, hrn.symm, Store.get_set, get_alloc]
  have hs' : heap.get s = some { a.plain with peer := some σ.heap.next } := by
    simp [heap, hsn, hrs.symm, hs]
  have hr' : heap.get r = none := by simp [heap, hrn]
  have hother (q : Ptr) (hqs : q ≠ s) (hqr : q ≠ r) (hqn : q ≠ σ.heap.next) :
      heap.get q = σ.heap.get q := by simp [heap, hqs, hqr, hqn]
  have honly (p : Ptr) (n : UInt32)
      (hp : .created p n ∈ [Obs.created σ.heap.next σ.localSocketNextId, .status s true []]) :
      p = σ.heap.next ∧ n = σ.localSocketNextId := by
    simpa using hp
  have hpeer' (p : Ptr) : a.peer = some p ↔ p = r := by rw [hpeer, Option.some_inj, eq_comm]
  refine Deed.build (T := fun p => p = s ∨ a.peer = some p) hi (by simp) (Nat.le_succ _)
    (UInt32.le_of_lt hlt) ?_ (fun p hp hlt => hi.untouched hs ?_ hlt (fun h => hp (.inl h))
      fun h => hp (.inr h)) ?_ ?_ (fun p n hp => ?_) ?_ ?_ ?_ (by simp)
  · rintro p (rfl | hp)
    · exact ⟨a, hs⟩
    · exact ⟨b, (hpeer' p).mp hp ▸ hr⟩
  · exact fun q hqs hqr hlt => hother q hqs (fun h => hqr (h ▸ hpeer)) (Nat.ne_of_lt hlt)
  · rintro p c c' (rfl | hp) hc hc'
    · rw [hs] at hc
      cases hc
      obtain rfl := Option.some_inj.mp (hs'.symm.trans hc')
      exact ⟨rfl, rfl⟩
    · rw [(hpeer' p).mp hp] at hc'
      cases hr'.symm.trans hc'
  · rintro p c (rfl | hp) hcp hlc
    · rw [hs] at hcp
      cases hcp
      have hlink : ASocket.linkIn heap { a.plain with peer := some σ.heap.next } = .inner := by
        rw [linkIn_of_peer (a := { a.plain with peer := some σ.heap.next }) hc rfl]
        exact linkTo_some hnew
      have hlife : ASocket.lifeIn heap { a.plain with peer := some σ.heap.next } =
          { a.lifeIn σ.heap with link := .inner } := Life.ext hlink rfl rfl rfl
      have hobs : [Obs.created σ.heap.next σ.localSocketNextId, .status p true []].filter
          (Obs.concerns p a.id) = [] := by
        simp [Obs.concerns, Obs.neutral, Obs.socket, Obs.sender, hsn.symm]
      have hphase : phaseAt heap p = .alive { a.lifeIn σ.heap with link := .inner } := by
        rw [phaseAt_some hs', hlife]
      rw [hobs]
      show Phase.Step _ _ _ _ _ _ (phaseAt heap p)
      rw [hphase]
      exact .engage ((hi.linkIn_peer hs hpeer hr).trans (asPeer_smart he))
    · rw [(hpeer' p).mp hp, hr] at hcp
      cases hcp
      rw [isLocal_of_smart he] at hlc
      cases hlc
  · obtain ⟨rfl, rfl⟩ := honly p n hp
    refine ⟨rfl, rfl, Nat.lt_succ_self _, hlt, fun c hc => ?_, ?_⟩
    · obtain rfl := Option.some_inj.mp (hnew.symm.trans hc)
      exact ⟨rfl, rfl⟩
    have hobs : [Obs.created σ.heap.next σ.localSocketNextId, .status s true []].filter
        (Obs.concerns σ.heap.next σ.localSocketNextId) =
        [.created σ.heap.next σ.localSocketNextId] := by
      simp [Obs.concerns, Obs.neutral, Obs.socket]
    have hlink : linkTo heap s = .inner := (linkTo_some hs').trans (asPeer_inner (.inl hl))
    have hphase : phaseAt heap σ.heap.next = .alive ⟨.inner, [], true, false⟩ := by
      rw [phaseAt_some hnew, lifeIn_withPeer (wfLocal_newLocal hi.nextId) rfl, hlink]
      rfl
    rw [hobs]
    show Phase.Step _ _ _ _ _ _ (phaseAt heap σ.heap.next)
    rw [hphase]
    exact .service
  · intro p c hle hp hlc
    have hne : ∀ q d, σ.heap.get q = some d → p ≠ q := fun q d hq => ne_of_next_le hq hle
    change heap.get p = some c at hp
    by_cases hpn : p = σ.heap.next
    · subst hpn
      obtain rfl := Option.some_inj.mp (hnew.symm.trans hp)
      exact mem_cons_self
    · rw [hother p (hne s a hs) (hne r b hr) hpn, σ.heap.fresh p hle] at hp
      cases hp
  · intro o ho hn p hp
    rcases mem_cons.mp ho with rfl | ho
    · cases hp
      exact .inr ⟨_, mem_cons_self⟩
    · rw [mem_singleton.mp ho] at hn
      cases hn
  · intro o ho hn n hs
    rcases mem_cons.mp ho with rfl | ho
    · cases hs
    · rw [mem_singleton.mp ho] at hs
      cases hs

end smart

/-! ## All steps -/

lemma Eff.deed (h : Eff P l σ τ) (hi : Inv [] σ) : ∃ obs, Deed P.join l obs σ τ := by
  cases h with
  | emit o ho => exact ⟨[o], .quiet hi rfl rfl rfl (by simp [Obs.neutral_of_faint ho]) (by simp)⟩
  | note o ho => exact ⟨[o], .quiet hi rfl rfl rfl (by simp [ho]) (by simp [Act.stream])⟩
  | os os => exact ⟨[], .quiet hi (by simp) rfl rfl (by simp) (by simp)⟩
  | @touch _ s a a' hs hw ht =>
    refine ⟨[], ?_⟩
    cases hl : a.isLocal with
    | true =>
      refine .solo hi (by simp) hs hl rfl rfl ht.enqueue ht.id ht.peer .nil (by simp) ?_
      rw [lifeIn_touch ht]
      exact .same
    | false => exact .bare hi (by simp) hs hl rfl rfl ht.enqueue ht.id fun _ => ht.transport
  | @arm _ s a f f' hs hl hf hf' hstate hold hnew =>
    refine ⟨[], ?_⟩
    have hlife : ASocket.lifeIn σ.heap { a with fde := some f' } = a.lifeIn σ.heap :=
      Life.ext rfl rfl (by simp [lifeIn, wantsRead, hf, hstate])
        (by simp [lifeIn, wantsWrite, hf, hstate])
    have halarm : ∀ act ∈ (if f'.events.read && !f.state.read then [Act.alarm s] else []),
        act.stream = none := by
      split <;> simp [Act.stream]
    refine .solo hi (by simp) hs hl rfl rfl rfl rfl rfl .nil (fun act hact p hp => ?_) ?_
    · rw [halarm act hact] at hp
      cases hp
    have habout : about s (if f'.events.read && !f.state.read then [Act.alarm s] else []) = [] :=
      filter_eq_nil_iff.mpr fun act hact => by simp [halarm act hact]
    rw [habout, hlife]
    exact .same
  | @select _ s a t hs he ht =>
    refine ⟨[], .bare hi (by simp) hs (isLocal_of_smart he) rfl rfl rfl rfl fun hremote => ?_⟩
    simp [isRemote, he] at hremote
  | wake hs hl hpeer hr hb =>
    exact ⟨[], deed_interest hi hs hl hpeer hr hb (lifeIn_addRead (hi.local_wf hs hl))⟩
  | hush hs hl hpeer hr hb =>
    exact ⟨[], deed_interest hi hs hl hpeer hr hb (lifeIn_delRead (hi.local_wf hs hl))⟩
  | readied status hs hl hpeer hst => exact ⟨_, deed_readied hi hs hl hpeer hst⟩
  | enqueue hs hl hpeer hr hb hq hd => exact ⟨_, deed_enqueue hi hs hl hpeer hr hb (.inl rfl) hq hd⟩
  | drain hs hl hw hd hleft => exact ⟨_, deed_drain hi hs hl hw hd hleft⟩
  | settle t p hs hl hpeer hr hb hw hd hdone ht hp =>
    exact ⟨_, deed_settle hi hs hl hpeer hr hb hw hd hdone ht hp⟩
  | @finish _ s a o left hs hl hc ho =>
    have hpeer := ((hi.local_wf hs hl).drains hc).1
    have hlink : (a.lifeIn σ.heap).link = .closing := linkIn_closing hc
    rcases ho with ⟨rfl, -⟩ | ⟨rfl, -⟩
    · exact ⟨[.wrote s a.queued, .destroyed s left], .last hi (by simp) hs hl hpeer rfl rfl
        (.append (.own rfl rfl rfl (by simp))
          (.own rfl rfl rfl (by simp))) (by simp)
        (.finish hlink (.inl rfl))⟩
    · exact ⟨[.writeFailed s, .destroyed s left], .last hi (by simp) hs hl hpeer rfl rfl
        (.append (.own rfl rfl rfl (by simp))
          (.own (o := .destroyed _ _) rfl rfl rfl (by simp))) (by simp)
        (.finish hlink (.inr rfl))⟩
  | @abandon _ s a hs hl hc =>
    refine ⟨[.destroyed s a.queued], .last hi (by simp) hs hl ((hi.local_wf hs hl).drains hc).1 rfl
      rfl (.own rfl rfl rfl (by simp)) (stream_single rfl) ?_⟩
    rw [about_self rfl]
    exact .abandon (linkIn_closing hc)
  | @read _ s a r b data hs hl hpeer hr hb =>
    refine ⟨[.read s data], deed_seen hi hs hl (.own rfl rfl rfl (by simp)) (by simp)
      (.read data ?_)⟩
    have hlink : a.linkIn σ.heap = _ := hi.linkIn_peer hs hpeer hr
    exact (asPeer_of_not_remote hb).imp hlink.trans fun h => .inl (hlink.trans h)
  | @discard _ s a data hs hl hpeer =>
    cases hc : a.closing with
    | true =>
      exact ⟨[.read s data], deed_seen hi hs hl (.own rfl rfl rfl (by simp)) (by simp)
        (.read data (.inr (.inr (linkIn_closing hc))))⟩
    | false =>
      refine ⟨[.read s data], deed_seen hi hs hl (.own rfl rfl rfl (by simp)) (stream_single rfl) ?_⟩
      rw [if_neg (by simp), about_self rfl]
      exact .discard data (linkIn_waiting hc hpeer)
  | forward data t p hs hl hpeer hr hb ht hp hdata =>
    exact ⟨_, deed_forward hi hs hl hpeer hr hb ht hp hdata⟩
  | close hs hpeer hc => exact ⟨_, deed_close hi hs hpeer hc⟩
  | closePair hs hpeer hr => exact ⟨_, deed_closePair hi hs hpeer hr⟩
  | client hid => exact ⟨_, deed_client hi hid⟩
  | forwardClient t p hid ht hp => exact ⟨_, deed_forwardClient hi hid hp⟩
  | hostService hs hl hpeer hr he hid => exact ⟨_, deed_hostService hi hs hl hpeer hr he hid⟩
  | track long hs hl hpeer hr he => exact ⟨_, deed_track hi hs hl hpeer hr he long⟩
  | handOver t p hs hl hpeer hr he ht hp => exact ⟨_, deed_handOver hi hs hl hpeer hr he hp⟩
  | accept exits remote t p hid ht hj hremote hp => exact ⟨_, deed_accept hi hid hj hp⟩
  | connect remote t status hs hl hpeer hc hremote ht hj hst =>
    exact ⟨_, deed_connect hi hs hl hpeer hc hj hst⟩
  | deliver hs hl hpeer hr hb hq hd hack => exact ⟨_, deed_deliver hi hs hl hpeer hr hb hq hd hack⟩
  | inject hs hl hpeer hr hb hq hd =>
    exact ⟨_, deed_enqueue hi hs hl hpeer hr (.inl hb) (.inr rfl) hq hd⟩
  | @echo _ s a r b t p hs hl hpeer hr hb hp =>
    refine ⟨[.sent t p], deed_seen hi hs hl (.sent hp (by simp)) (stream_single rfl) ?_⟩
    rw [about_self rfl]
    exact .echo ((hi.linkIn_peer hs hpeer hr).trans (asPeer_inner (.inl hb))) hp

/-- A sequence of steps is a part of the life of every socket. -/
structure Lives (J : TPtr → Prop) (l : List Act) (obs : List Obs) (σ τ : Sockets) : Prop where
  trace : τ.trace = σ.trace ++ obs
  ids : Ids τ
  steps : ∀ s id, .created s id ∈ τ.trace →
    Phase.Steps J s id (about s l) (σ.phase s id) (obs.filter (Obs.concerns s id)) (τ.phase s id)

lemma Effs.lives (h : Effs P l σ τ) (hi : Inv [] σ) (hids : Ids σ) :
    ∃ obs, Lives P.join l obs σ τ := by
  induction h with
  | refl => exact ⟨[], by simp, hids, fun s id _ => .refl⟩
  | @tail l l' σ τ ρ h h' ih =>
    obtain ⟨obs, hτ⟩ := ih hi hids
    obtain ⟨obs', hd⟩ := h'.deed (h.inv hi)
    refine ⟨obs ++ obs', by rw [hd.trace, hτ.trace, append_assoc], hd.ids hτ.ids, fun s id hs => ?_⟩
    rw [about_append, filter_append]
    by_cases hcreated : .created s id ∈ τ.trace
    · exact (hτ.steps s id hcreated).tail (hd.step hτ.ids hs)
    -- the socket is made by the last step
    have hσ : .created s id ∉ σ.trace := fun h => hcreated (by rw [hτ.trace]; simp [h])
    have hmade := hd.made s id ((mem_append.mp (hd.trace ▸ hs)).resolve_left hcreated)
    have hstory := hτ.ids.story_eq_nil (Nat.le_of_eq hmade.1.symm) (UInt32.le_of_eq hmade.2.1.symm)
    rw [story, hτ.trace, filter_append] at hstory
    rw [(append_eq_nil_iff.mp hstory).2, phase_unborn hσ]
    have hlast := hd.step hτ.ids hs
    rw [phase_unborn hcreated] at hlast
    exact (Phase.Steps.single (.wait _)).tail hlast

lemma ids_empty : Ids {} where
  live := by simp
  kept := by simp
  bound := by simp
  inj := by simp
  socket := by simp
  sender := by simp

lemma Lives.story_eq_nil (h : Lives J l obs σ τ) (hids : Ids σ)
    (hs : .created s n ∈ τ.trace) (hnot : .created s n ∉ σ.trace) : σ.story s n = [] := by
  have hlater {q : Ptr} {m : UInt32} (hq : .created q m ∈ σ.trace) : .created q m ∈ τ.trace := by
    rw [h.trace]
    exact mem_append_left _ hq
  refine filter_eq_nil_iff.mpr fun o ho hc => ?_
  obtain ⟨hneutral, ho' | ho'⟩ := Obs.concerns_iff.mp hc
  · obtain ⟨m, hm⟩ := hids.socket o ho hneutral s ho'
    obtain rfl := (h.ids.inj s s m n (hlater hm) hs).mp rfl
    exact hnot hm
  · obtain ⟨q, hq⟩ := hids.sender o ho hneutral n ho'
    obtain rfl := (h.ids.inj q s n n (hlater hq) hs).mpr rfl
    exact hnot hq

/-- `I` holds of every socket: of what was seen of it, and of where it is in its life. -/
structure Every (I : Ptr → UInt32 → List Obs → Phase → Prop) (σ : Sockets) : Prop where
  ids : Ids σ
  holds : ∀ s id, .created s id ∈ σ.trace → I s id (σ.story s id) (σ.phase s id)

lemma Lives.every {I : Ptr → UInt32 → List Obs → Phase → Prop}
    {K : Act → Prop} (h : Lives J l obs σ τ) (hunborn : ∀ s id, I s id [] .unborn)
    (hstep : ∀ s id acts φ obs ψ story, (∀ act ∈ acts, K act) →
      Phase.Step J s id acts φ obs ψ → I s id story φ → I s id (story ++ obs) ψ)
    (hK : ∀ act ∈ l, K act) (hI : Every I σ) : Every I τ := by
  refine ⟨h.ids, fun s id hs => ?_⟩
  have hstory : τ.story s id = σ.story s id ++ obs.filter (Obs.concerns s id) := by
    rw [story, story, h.trace, filter_append]
  have hσ : I s id (σ.story s id) (σ.phase s id) := by
    by_cases hcreated : .created s id ∈ σ.trace
    · exact hI.holds s id hcreated
    · rw [h.story_eq_nil hI.ids hs hcreated, phase_unborn hcreated]
      exact hunborn s id
  rw [hstory]
  exact (h.steps s id hs).invariant (hstep s id) (fun act hact => hK act (mem_about.mp hact).1) hσ

end Sockets

namespace Server

open Sockets (Act Every)

/-- The invariant rule for the lives of all sockets in a run of the process. The condition `C` on
the steps of the run excludes the labels that `K` does not allow. -/
lemma run_every {cfg : Config} {name : Bytes} {inputs : List Input} {τ : Server}
    {I : Ptr → UInt32 → List Obs → Phase → Prop} {C : Server → Input → Prop} {K : Act → Prop}
    (hunborn : ∀ s id, I s id [] .unborn)
    (hstep : ∀ J s id acts φ obs ψ story, (∀ act ∈ acts, K act) →
      Phase.Step J s id acts φ obs ψ → I s id story φ → I s id (story ++ obs) ψ)
    (hacts : ∀ σ i l τ, C σ i → StepOutcome cfg i σ l τ → ∀ act ∈ l, K act)
    (hC : Lib.Meets (step cfg) C inputs (init name))
    (hrun : run cfg inputs (init name) = .ok τ) : Every I τ.socks := by
  refine (run_invariant (I := fun σ => Every I σ.socks) (fun σ i l τ hσ hI hC hτ => ?_)
    (sound_init name) ⟨Sockets.ids_empty, by simp [init]⟩ hC hrun).2
  obtain ⟨obs, hlives⟩ := hτ.socks.lives hσ.inv hI.ids
  exact hlives.every hunborn (hstep _) (hacts σ i l τ hC hτ) hI

end Server

end Adb
