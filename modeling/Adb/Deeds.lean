import Adb.Life
import Adb.EffectsTheorems

/-!
# What a step of the sockets is to each of them

Every local socket keeps the id it was made with, and no two sockets have the same (`Ids`), so what
is seen of a socket can be told from the trace. A `Deed` says of a step what it is in the life of
every socket; most touch one socket or a pair of peers.
-/

namespace Adb

open Lib List Store

open Sockets (Act IsPacket)

/-! ## Who an observation belongs to -/

namespace Obs

variable {s p : Ptr} {id n : UInt32} {o : Obs} {obs obs' : List Obs}

lemma concerns_of_socket (hn : o.neutral = false) (ho : o.socket = some s) :
    o.concerns s id = true := by
  simp [concerns, hn, ho]

lemma concerns_of_neutral (hn : o.neutral = true) : o.concerns s id = false := by
  simp [concerns, hn]

lemma concerns_iff : o.concerns s id = true ↔
    o.neutral = false ∧ (o.socket = some s ∨ o.sender = some id) := by
  simp [concerns]

/-- The observations `obs` are about the socket `s` with the id `id`, and `obs'` is the part of them
that belongs to its life. -/
structure Tell (s : Ptr) (id : UInt32) (obs obs' : List Obs) : Prop where
  mine : obs.filter (concerns s id) = obs'
  socket : ∀ o ∈ obs, o.neutral = false → ∀ p, o.socket = some p → p = s
  sender : ∀ o ∈ obs, o.neutral = false → ∀ n, o.sender = some n → n = id
  old : ∀ p n, .created p n ∉ obs

namespace Tell

lemma nil : Tell s id [] [] := ⟨rfl, by simp, by simp, by simp⟩

lemma append {more more' : List Obs} (h : Tell s id obs obs') (h' : Tell s id more more') :
    Tell s id (obs ++ more) (obs' ++ more') where
  mine := by rw [filter_append, h.mine, h'.mine]
  socket o ho := (mem_append.mp ho).elim (h.socket o) (h'.socket o)
  sender o ho := (mem_append.mp ho).elim (h.sender o) (h'.sender o)
  old p n ho := (mem_append.mp ho).elim (h.old p n) (h'.old p n)

lemma neutral (hn : o.neutral = true) : Tell s id [o] [] where
  mine := by simp [concerns_of_neutral hn]
  socket := by simp [hn]
  sender := by simp [hn]
  old p n ho := by
    rw [← mem_singleton.mp ho] at hn
    cases hn

lemma own (hn : o.neutral = false) (ho : o.socket = some s) (hs : o.sender = none)
    (hold : ∀ p n, o ≠ .created p n) : Tell s id [o] [o] where
  mine := by simp [concerns_of_socket hn ho]
  socket := by simp [ho]
  sender := by simp [hs]
  old p n h := hold p n (mem_singleton.mp h).symm

lemma sent {t : TPtr} {q : APacket} {command arg1 : UInt32} (hp : IsPacket q command id arg1)
    (hc : command = A_WRTE ∨ command = A_OKAY ∨ command = A_OPEN) :
    Tell s id [.sent t q] [.sent t q] where
  mine := by
    have hn : (Obs.sent t q).neutral = false := by
      rw [Obs.neutral, hp.1]
      rcases hc with rfl | rfl | rfl <;> decide
    rw [filter_cons_of_pos]
    · rfl
    · exact concerns_iff.mpr ⟨hn, .inr (by rw [Obs.sender, hp.2.1])⟩
  socket := by simp [Obs.socket]
  sender := by simp [Obs.sender, hp.2.1]
  old := by simp

lemma status {okay : Bool} {text : Bytes} {status : List Obs}
    (h : status = [] ∨ status = [.status p okay text]) : Tell s id status [] := by
  rcases h with rfl | rfl
  · exact nil
  · exact neutral rfl

lemma drained {a a' : ASocket} (h : a.Drained s a' obs) : Tell s id obs obs := by
  rcases h.written with ⟨rfl, -⟩ | ⟨data, rfl, -⟩ | ⟨rfl, -⟩
  · exact nil
  · exact own rfl rfl rfl (by simp)
  · exact own rfl rfl rfl (by simp)

end Tell

end Obs

namespace Sockets

open ASocket

variable {P : Rules} {J : TPtr → Prop} {σ τ ρ : Sockets} {l m : List Act} {s r p : Ptr}
  {a b a' : ASocket} {id n : UInt32} {obs obs' : List Obs}

@[simp] lemma about_nil : about s [] = [] := rfl

lemma about_append : about s (l ++ m) = about s l ++ about s m :=
  filter_append _ _

lemma mem_about {act : Act} : act ∈ about s l ↔ act ∈ l ∧ act.stream = some s := by
  simp [about]

/-- Where the socket at `p` is in its life, if one was made there. -/
def phaseAt (heap : Store ASocket) (p : Ptr) : Phase :=
  match heap.get p with
  | some a => .alive (a.lifeIn heap)
  | none => .gone

variable {heap : Store ASocket}

lemma phaseAt_some (hp : heap.get p = some a) : phaseAt heap p = .alive (a.lifeIn heap) := by
  simp [phaseAt, hp]

lemma phaseAt_none (hp : heap.get p = none) : phaseAt heap p = .gone := by
  simp [phaseAt, hp]

lemma phase_eq (h : .created s id ∈ σ.trace) : σ.phase s id = phaseAt σ.heap s := by
  rw [phase, if_pos h]
  rfl

lemma phase_unborn (h : .created s id ∉ σ.trace) : σ.phase s id = .unborn := by
  rw [phase, if_neg h]

/-! ## What a socket is connected to -/

lemma linkTo_some (hr : heap.get r = some b) : linkTo heap r = b.asPeer := by
  simp [linkTo, hr]

variable {heap' : Store ASocket}

lemma linkTo_congr (h : heap'.get r = heap.get r) : linkTo heap' r = linkTo heap r := by
  rw [linkTo, linkTo, h]

lemma linkIn_of_peer (hc : a.closing = false) (hpeer : a.peer = some r) :
    a.linkIn heap = linkTo heap r := by
  simp [linkIn, hc, hpeer]

structure Untouched (σ τ : Sockets) (p : Ptr) : Prop where
  record : τ.heap.get p = σ.heap.get p
  peer : ∀ a r, σ.heap.get p = some a → a.peer = some r → linkTo τ.heap r = linkTo σ.heap r

lemma lifeIn_congr (h : ∀ r, a.peer = some r → linkTo heap' r = linkTo heap r) :
    a.lifeIn heap' = a.lifeIn heap := by
  have hlink : a.linkIn heap' = a.linkIn heap := by
    unfold linkIn
    split
    · rfl
    cases hpeer : a.peer with
    | none => rfl
    | some r => exact h r hpeer
  simp [lifeIn, hlink]

lemma Untouched.phaseAt (h : Untouched σ τ p) : phaseAt τ.heap p = phaseAt σ.heap p := by
  unfold Sockets.phaseAt
  rw [h.record]
  cases hp : σ.heap.get p with
  | none => rfl
  | some a =>
    show Phase.alive _ = Phase.alive _
    rw [lifeIn_congr fun r hr => h.peer a r hp hr]

lemma Inv.untouched (h : Inv [] σ) (hs : σ.heap.get s = some a)
    (hheap : ∀ q, q ≠ s → a.peer ≠ some q → q < σ.heap.next → τ.heap.get q = σ.heap.get q)
    (hp : p < σ.heap.next) (hps : p ≠ s) (hpr : a.peer ≠ some p) : Untouched σ τ p := by
  refine ⟨hheap p hps hpr hp, fun c q hc hq => linkTo_congr ?_⟩
  obtain ⟨-, hqp, d, hd, hback, -⟩ := h.paired p c q hc (by simp) hq
  refine hheap q ?_ ?_ (lt_next hd)
  · rintro rfl
    rw [hs] at hd
    cases hd
    exact hpr hback
  · intro hq'
    obtain ⟨-, -, e, he, hback', -⟩ := h.paired s a q hs (by simp) hq'
    rw [hd] at he
    cases he
    rw [hback] at hback'
    exact hps (Option.some_inj.mp hback')

lemma Inv.untouched_of_lt (h : Inv [] σ)
    (hheap : ∀ q, q < σ.heap.next → τ.heap.get q = σ.heap.get q) (hp : p < σ.heap.next) :
    Untouched σ τ p := by
  refine ⟨hheap p hp, fun c q hc hq => linkTo_congr (hheap q ?_)⟩
  obtain ⟨-, -, d, hd, -⟩ := h.paired p c q hc (by simp) hq
  exact lt_next hd

lemma untouched_set (hs : σ.heap.get s = some a) (heq : τ.heap = σ.heap.set s a')
    (henq : a'.enqueue = a.enqueue) (hid : a'.id = a.id)
    (htr : a.isRemote = true → a'.transport = a.transport) (hps : p ≠ s) : Untouched σ τ p := by
  refine ⟨by rw [heq, get_set_of_ne _ hps], fun c q hc hq => ?_⟩
  by_cases hqs : q = s
  · subst hqs
    rw [linkTo_some hs, linkTo_some (heq ▸ get_set_self hs a'), asPeer, asPeer, henq, hid]
    cases he : a.enqueue with
    | remoteSocketEnqueue => rw [htr (by simp [isRemote, he])]
    | _ => rfl
  · exact linkTo_congr (by rw [heq, get_set_of_ne _ hqs])

/-! ## Names -/

structure Ids (σ : Sockets) : Prop where
  live : ∀ p a, σ.heap.get p = some a → a.isLocal = true → .created p a.id ∈ σ.trace
  kept : ∀ p n a, .created p n ∈ σ.trace → σ.heap.get p = some a → a.isLocal = true ∧ a.id = n
  bound : ∀ p n, .created p n ∈ σ.trace → p < σ.heap.next ∧ n < σ.localSocketNextId
  inj : ∀ p q n m, .created p n ∈ σ.trace → .created q m ∈ σ.trace → (p = q ↔ n = m)
  socket : ∀ o ∈ σ.trace, o.neutral = false → ∀ p, o.socket = some p → ∃ n, .created p n ∈ σ.trace
  sender : ∀ o ∈ σ.trace, o.neutral = false → ∀ n, o.sender = some n → ∃ p, .created p n ∈ σ.trace

lemma Ids.story_eq_nil (h : Ids σ) (hp : σ.heap.next ≤ p) (hn : σ.localSocketNextId ≤ n) :
    σ.story p n = [] := by
  refine filter_eq_nil_iff.mpr fun o ho hc => ?_
  obtain ⟨hneutral, hs | hs⟩ := Obs.concerns_iff.mp hc
  · obtain ⟨m, hm⟩ := h.socket o ho hneutral p hs
    exact absurd (h.bound p m hm).1 (Nat.not_lt.mpr hp)
  · obtain ⟨q, hq⟩ := h.sender o ho hneutral n hs
    exact absurd (h.bound q n hq).2 (UInt32.not_lt.mpr hn)

/-- What a step of the sockets, which is seen as `obs`, does to each of them. -/
structure Deed (J : TPtr → Prop) (l : List Act) (obs : List Obs) (σ τ : Sockets) : Prop where
  trace : τ.trace = σ.trace ++ obs
  next : σ.heap.next ≤ τ.heap.next
  nextId : σ.localSocketNextId ≤ τ.localSocketNextId
  /-- a deleted socket does not come back -/
  dead : ∀ p, p < σ.heap.next → σ.heap.get p = none → τ.heap.get p = none
  shape : ∀ p a a', σ.heap.get p = some a → τ.heap.get p = some a' →
    a'.isLocal = a.isLocal ∧ a'.id = a.id
  lives : ∀ p a, σ.heap.get p = some a → a.isLocal = true →
    Phase.Step J p a.id (about p l) (.alive (a.lifeIn σ.heap)) (obs.filter (Obs.concerns p a.id))
      (phaseAt τ.heap p)
  /-- only the next socket can be made -/
  made : ∀ p n, .created p n ∈ obs → p = σ.heap.next ∧ n = σ.localSocketNextId ∧
    p < τ.heap.next ∧ n < τ.localSocketNextId ∧
    (∀ a, τ.heap.get p = some a → a.isLocal = true ∧ a.id = n) ∧
    Phase.Step J p n (about p l) .unborn (obs.filter (Obs.concerns p n)) (phaseAt τ.heap p)
  fresh : ∀ p a', σ.heap.next ≤ p → τ.heap.get p = some a' → a'.isLocal = true →
    .created p a'.id ∈ obs
  socket : ∀ o ∈ obs, o.neutral = false → ∀ p, o.socket = some p →
    (∃ a, σ.heap.get p = some a ∧ a.isLocal = true) ∨ ∃ n, .created p n ∈ obs
  sender : ∀ o ∈ obs, o.neutral = false → ∀ n, o.sender = some n →
    (∃ p a, σ.heap.get p = some a ∧ a.isLocal = true ∧ a.id = n) ∨ ∃ p, .created p n ∈ obs
  acts : ∀ act ∈ l, ∀ p, act.stream = some p →
    (∃ a, σ.heap.get p = some a ∧ a.isLocal = true) ∨ ∃ n, .created p n ∈ obs

namespace Deed

variable (h : Deed J l obs σ τ)
include h

lemma ids (hi : Ids σ) : Ids τ := by
  have hold {p : Ptr} {n : UInt32} (hp : .created p n ∈ σ.trace) : .created p n ∈ τ.trace := by
    rw [h.trace]
    exact mem_append_left _ hp
  have hnew {p : Ptr} {n : UInt32} (hp : .created p n ∈ obs) : .created p n ∈ τ.trace := by
    rw [h.trace]
    exact mem_append_right _ hp
  have hcases {p : Ptr} {n : UInt32} (hp : .created p n ∈ τ.trace) :
      .created p n ∈ σ.trace ∨ .created p n ∈ obs := by
    rw [h.trace] at hp
    exact mem_append.mp hp
  constructor
  · intro p a' hp hl
    by_cases hlt : p < σ.heap.next
    · cases ha : σ.heap.get p with
      | none =>
        rw [h.dead p hlt ha] at hp
        cases hp
      | some a =>
        obtain ⟨hloc, hid⟩ := h.shape p a a' ha hp
        rw [hid]
        exact hold (hi.live p a ha (hloc.symm.trans hl))
    · exact hnew (h.fresh p a' (Nat.not_lt.mp hlt) hp hl)
  · intro p n a' hp ha'
    rcases hcases hp with hp | hp
    · cases ha : σ.heap.get p with
      | none =>
        rw [h.dead p (hi.bound p n hp).1 ha] at ha'
        cases ha'
      | some a =>
        obtain ⟨hloc, hid⟩ := h.shape p a a' ha ha'
        obtain ⟨hl, hn⟩ := hi.kept p n a hp ha
        exact ⟨hloc.trans hl, hid.trans hn⟩
    · exact (h.made p n hp).2.2.2.2.1 a' ha'
  · intro p n hp
    rcases hcases hp with hp | hp
    · obtain ⟨hlt, hn⟩ := hi.bound p n hp
      exact ⟨Nat.lt_of_lt_of_le hlt h.next, UInt32.lt_of_lt_of_le hn h.nextId⟩
    · obtain ⟨-, -, hlt, hn, -⟩ := h.made p n hp
      exact ⟨hlt, hn⟩
  · intro p q n m hp hq
    rcases hcases hp with hp | hp
    · rcases hcases hq with hq | hq
      · exact hi.inj p q n m hp hq
      -- the new socket has a new address and a new id
      obtain ⟨rfl, rfl, -⟩ := h.made q m hq
      obtain ⟨hlt, hn⟩ := hi.bound p n hp
      exact ⟨fun he => absurd he (Nat.ne_of_lt hlt), fun he => absurd he (UInt32.ne_of_lt hn)⟩
    · obtain ⟨rfl, rfl, -⟩ := h.made p n hp
      rcases hcases hq with hq | hq
      · obtain ⟨hlt, hn⟩ := hi.bound q m hq
        exact ⟨fun he => absurd he (Nat.ne_of_gt hlt), fun he => absurd he (UInt32.ne_of_lt hn).symm⟩
      · obtain ⟨rfl, rfl, -⟩ := h.made q m hq
        exact ⟨fun _ => rfl, fun _ => rfl⟩
  · intro o ho hn p hp
    rw [h.trace] at ho
    rcases mem_append.mp ho with ho | ho
    · obtain ⟨n, hn⟩ := hi.socket o ho hn p hp
      exact ⟨n, hold hn⟩
    rcases h.socket o ho hn p hp with ⟨a, ha, hl⟩ | ⟨n, hn⟩
    · exact ⟨a.id, hold (hi.live p a ha hl)⟩
    · exact ⟨n, hnew hn⟩
  · intro o ho hn n hs
    rw [h.trace] at ho
    rcases mem_append.mp ho with ho | ho
    · obtain ⟨p, hp⟩ := hi.sender o ho hn n hs
      exact ⟨p, hold hp⟩
    rcases h.sender o ho hn n hs with ⟨p, a, ha, hl, rfl⟩ | ⟨p, hp⟩
    · exact ⟨p, hold (hi.live p a ha hl)⟩
    · exact ⟨p, hnew hp⟩

lemma step (hi : Ids σ) (hp : .created p n ∈ τ.trace) :
    Phase.Step J p n (about p l) (σ.phase p n) (obs.filter (Obs.concerns p n)) (τ.phase p n) := by
  rw [phase_eq hp]
  by_cases hσ : .created p n ∈ σ.trace
  · rw [phase_eq hσ]
    cases ha : σ.heap.get p with
    | some a =>
      obtain ⟨hl, rfl⟩ := hi.kept p n a hσ ha
      rw [phaseAt_some ha]
      exact h.lives p a ha hl
    | none =>
      obtain ⟨hlt, hn⟩ := hi.bound p n hσ
      -- nothing is done to a deleted socket
      have hnot (m : UInt32) : .created p m ∉ obs := fun hm =>
        absurd (h.made p m hm).1 (Nat.ne_of_lt hlt)
      have habout : about p l = [] := by
        refine filter_eq_nil_iff.mpr fun act hact hs => ?_
        rcases h.acts act hact p (beq_iff_eq.mp hs) with ⟨a, ha', -⟩ | ⟨m, hm⟩
        · rw [ha] at ha'
          cases ha'
        · exact hnot m hm
      have hobs : obs.filter (Obs.concerns p n) = [] := by
        refine filter_eq_nil_iff.mpr fun o ho hc => ?_
        obtain ⟨hneutral, hs | hs⟩ := Obs.concerns_iff.mp hc
        · rcases h.socket o ho hneutral p hs with ⟨a, ha', -⟩ | ⟨m, hm⟩
          · rw [ha] at ha'
            cases ha'
          · exact hnot m hm
        · rcases h.sender o ho hneutral n hs with ⟨q, a, ha', hl, rfl⟩ | ⟨q, hq⟩
          · obtain rfl := (hi.inj p q a.id a.id hσ (hi.live q a ha' hl)).mpr rfl
            rw [ha] at ha'
            cases ha'
          · exact absurd (h.made q n hq).2.1 (UInt32.ne_of_lt hn)
      rw [phaseAt_none ha, phaseAt_none (h.dead p hlt ha), habout, hobs]
      exact .same
  · rw [phase_unborn hσ]
    rw [h.trace] at hp
    have hp := (mem_append.mp hp).resolve_left hσ
    exact (h.made p n hp).2.2.2.2.2

end Deed

/-! ## Every step is such a deed -/

section build

variable {T : Ptr → Prop}

def Involved (T : Ptr → Prop) (obs : List Obs) (σ : Sockets) (p : Ptr) : Prop :=
  (∃ a, σ.heap.get p = some a ∧ a.isLocal = true ∧ T p) ∨ ∃ n, .created p n ∈ obs

def InvolvedId (T : Ptr → Prop) (obs : List Obs) (σ : Sockets) (n : UInt32) : Prop :=
  (∃ p a, σ.heap.get p = some a ∧ a.isLocal = true ∧ a.id = n ∧ T p) ∨ ∃ p, .created p n ∈ obs

lemma Deed.build (hi : Inv [] σ) (htrace : τ.trace = σ.trace ++ obs)
    (hnext : σ.heap.next ≤ τ.heap.next) (hnextId : σ.localSocketNextId ≤ τ.localSocketNextId)
    (hT : ∀ p, T p → ∃ c, σ.heap.get p = some c)
    (hun : ∀ p, ¬ T p → p < σ.heap.next → Untouched σ τ p)
    (hshape : ∀ p c c', T p → σ.heap.get p = some c → τ.heap.get p = some c' →
      c'.isLocal = c.isLocal ∧ c'.id = c.id)
    (hlives : ∀ p c, T p → σ.heap.get p = some c → c.isLocal = true →
      Phase.Step J p c.id (about p l) (.alive (c.lifeIn σ.heap))
        (obs.filter (Obs.concerns p c.id)) (phaseAt τ.heap p))
    (hmade : ∀ p n, .created p n ∈ obs → p = σ.heap.next ∧ n = σ.localSocketNextId ∧
      p < τ.heap.next ∧ n < τ.localSocketNextId ∧
      (∀ a, τ.heap.get p = some a → a.isLocal = true ∧ a.id = n) ∧
      Phase.Step J p n (about p l) .unborn (obs.filter (Obs.concerns p n)) (phaseAt τ.heap p))
    (hfresh : ∀ p a', σ.heap.next ≤ p → τ.heap.get p = some a' → a'.isLocal = true →
      .created p a'.id ∈ obs)
    (hsocket : ∀ o ∈ obs, o.neutral = false → ∀ p, o.socket = some p → Involved T obs σ p)
    (hsender : ∀ o ∈ obs, o.neutral = false → ∀ n, o.sender = some n → InvolvedId T obs σ n)
    (hacts : ∀ act ∈ l, ∀ p, act.stream = some p → Involved T obs σ p) : Deed J l obs σ τ := by
  have hdrop {p : Ptr} (h : Involved T obs σ p) :
      (∃ a, σ.heap.get p = some a ∧ a.isLocal = true) ∨ ∃ n, .created p n ∈ obs :=
    h.imp_left fun ⟨a, ha, hl, _⟩ => ⟨a, ha, hl⟩
  refine ⟨htrace, hnext, hnextId, ?_, ?_, ?_, hmade, hfresh,
    fun o ho hn p hp => hdrop (hsocket o ho hn p hp), ?_, fun act hact p hp =>
      hdrop (hacts act hact p hp)⟩
  · intro p hlt hp
    have hnot : ¬ T p := fun h => by
      obtain ⟨c, hc⟩ := hT p h
      rw [hp] at hc
      cases hc
    rw [(hun p hnot hlt).record, hp]
  · intro p c c' hc hc'
    by_cases h : T p
    · exact hshape p c c' h hc hc'
    rw [(hun p h (lt_next hc)).record, hc] at hc'
    cases hc'
    exact ⟨rfl, rfl⟩
  · intro p c hc hl
    by_cases h : T p
    · exact hlives p c h hc hl
    have hlt := lt_next hc
    have hnot (m : UInt32) : .created p m ∉ obs := fun hm =>
      absurd (hmade p m hm).1 (Nat.ne_of_lt hlt)
    have habout : about p l = [] := by
      refine filter_eq_nil_iff.mpr fun act hact hs => ?_
      rcases hacts act hact p (beq_iff_eq.mp hs) with ⟨a, -, -, hp⟩ | ⟨m, hm⟩
      · exact h hp
      · exact hnot m hm
    have hobs : obs.filter (Obs.concerns p c.id) = [] := by
      refine filter_eq_nil_iff.mpr fun o ho hcon => ?_
      obtain ⟨hneutral, hs | hs⟩ := Obs.concerns_iff.mp hcon
      · rcases hsocket o ho hneutral p hs with ⟨a, -, -, hp⟩ | ⟨m, hm⟩
        · exact h hp
        · exact hnot m hm
      rcases hsender o ho hneutral c.id hs with ⟨q, a, ha, hla, hid, hq⟩ | ⟨q, hq⟩
      · obtain rfl := hi.idsInj p q c a hc ha hl hla hid.symm
        exact h hq
      · exact absurd (hmade q c.id hq).2.1 (UInt32.ne_of_lt (hi.ids p c hc hl))
    rw [habout, hobs, (hun p h hlt).phaseAt, phaseAt_some hc]
    exact .same
  · intro o ho hn n hs
    exact (hsender o ho hn n hs).imp_left fun ⟨p, a, ha, hl, hid, _⟩ => ⟨p, a, ha, hl, hid⟩

lemma Deed.quiet (hi : Inv [] σ) (htrace : τ.trace = σ.trace ++ obs) (hheap : τ.heap = σ.heap)
    (hnextId : τ.localSocketNextId = σ.localSocketNextId)
    (hobs : ∀ o ∈ obs, o.neutral = true ∨ o.notable = true) (hacts : ∀ act ∈ l, act.stream = none) :
    Deed J l obs σ τ := by
  have hquiet : ∀ o ∈ obs, o.neutral = false → o.socket = none ∧ o.sender = none := by
    intro o ho hn
    have hnotable := (hobs o ho).resolve_left (by simp [hn])
    cases o with
    | handled | verified | forwarded | frameworkOk | deleted => exact ⟨rfl, rfl⟩
    | sent t p =>
      rw [APacket.greets.neutral hnotable] at hn
      cases hn
    | _ => cases hnotable
  have hnew : ∀ p n, .created p n ∉ obs := fun p n hp =>
    absurd (hquiet _ hp rfl).1 (by simp [Obs.socket])
  refine Deed.build (T := fun _ => False) hi htrace (Nat.le_of_eq (by rw [hheap]))
    (UInt32.le_of_eq hnextId.symm) (fun _ h => h.elim)
    (fun p _ _ => ⟨by rw [hheap], fun _ _ _ _ => by rw [hheap]⟩) (fun _ _ _ h => h.elim)
    (fun _ _ h => h.elim) (fun p n hp => absurd hp (hnew p n)) ?_ ?_ ?_ ?_
  · intro p a' hle hp _
    rw [hheap, σ.heap.fresh p hle] at hp
    cases hp
  · intro o ho hn p hp
    rw [(hquiet o ho hn).1] at hp
    cases hp
  · intro o ho hn n hs
    rw [(hquiet o ho hn).2] at hs
    cases hs
  · intro act hact p hp
    rw [hacts act hact] at hp
    cases hp

lemma Deed.bare (hi : Inv [] σ) (htrace : τ.trace = σ.trace) (hs : σ.heap.get s = some a)
    (hl : a.isLocal = false) (hheap : τ.heap = σ.heap.set s a')
    (hnextId : τ.localSocketNextId = σ.localSocketNextId) (henq : a'.enqueue = a.enqueue)
    (hid : a'.id = a.id) (htr : a.isRemote = true → a'.transport = a.transport) :
    Deed J [] [] σ τ := by
  refine Deed.build (T := (· = s)) hi (by simp [htrace]) (Nat.le_of_eq (by rw [hheap]; rfl))
    (UInt32.le_of_eq hnextId.symm) (fun p hp => ⟨a, hp ▸ hs⟩)
    (fun p hp _ => untouched_set hs hheap henq hid htr hp) ?_ ?_ (by simp) ?_ (by simp) (by simp)
    (by simp)
  · rintro p c c' rfl hc hc'
    rw [hheap, get_set_self hs] at hc'
    rw [hs] at hc
    cases hc
    cases hc'
    exact ⟨by rw [isLocal, isLocal, henq], hid⟩
  · rintro p c rfl hc hlc
    rw [hs] at hc
    cases hc
    rw [hl] at hlc
    cases hlc
  · intro p c' hle hp _
    rw [hheap, get_set_of_ne _ (ne_of_next_le hs hle), σ.heap.fresh p hle] at hp
    cases hp

lemma Deed.of_local (hi : Inv [] σ) (htrace : τ.trace = σ.trace ++ obs)
    (hnext : σ.heap.next ≤ τ.heap.next) (hnextId : τ.localSocketNextId = σ.localSocketNextId)
    (hs : σ.heap.get s = some a) (hl : a.isLocal = true) (hTs : T s)
    (hT : ∀ p, T p → p ≠ s → ∃ b, σ.heap.get p = some b ∧ b.isLocal = false ∧ τ.heap.get p = none)
    (hun : ∀ p, ¬ T p → p < σ.heap.next → Untouched σ τ p)
    (hshape : ∀ c, τ.heap.get s = some c → c.isLocal = true ∧ c.id = a.id)
    (hnew : ∀ p c, σ.heap.next ≤ p → τ.heap.get p = some c → c.isLocal = false)
    (htell : Obs.Tell s a.id obs obs') (hacts : ∀ act ∈ l, ∀ p, act.stream = some p → p = s)
    (hstep : Phase.Step J s a.id (about s l) (.alive (a.lifeIn σ.heap)) obs' (phaseAt τ.heap s)) :
    Deed J l obs σ τ := by
  have hmine (p : Ptr) (hp : p = s) : Involved T obs σ p := .inl ⟨a, hp ▸ hs, hl, hp ▸ hTs⟩
  refine Deed.build hi htrace hnext (UInt32.le_of_eq hnextId.symm) (fun p hp => ?_) hun
    (fun p c c' hp hc hc' => ?_) (fun p c hp hc hlc => ?_)
    (fun p n hp => absurd hp (htell.old p n)) (fun p c hle hp hlc => ?_)
    (fun o ho hn p hp => hmine p (htell.socket o ho hn p hp))
    (fun o ho hn n hs' => .inl ⟨s, a, hs, hl, (htell.sender o ho hn n hs').symm, hTs⟩)
    (fun act hact p hp => hmine p (hacts act hact p hp))
  · by_cases hps : p = s
    · exact ⟨a, hps ▸ hs⟩
    · obtain ⟨b, hb, -⟩ := hT p hp hps
      exact ⟨b, hb⟩
  · by_cases hps : p = s
    · subst hps
      cases hs.symm.trans hc
      rw [hl]
      exact hshape c' hc'
    · obtain ⟨b, -, -, hnone⟩ := hT p hp hps
      cases hnone.symm.trans hc'
  · by_cases hps : p = s
    · subst hps
      cases hs.symm.trans hc
      rw [htell.mine]
      exact hstep
    · obtain ⟨b, hb, hbare, -⟩ := hT p hp hps
      cases hb.symm.trans hc
      cases hbare.symm.trans hlc
  · cases (hnew p c hle hp).symm.trans hlc

lemma Deed.solo (hi : Inv [] σ) (htrace : τ.trace = σ.trace ++ obs)
    (hs : σ.heap.get s = some a) (hl : a.isLocal = true) (hheap : τ.heap = σ.heap.set s a')
    (hnextId : τ.localSocketNextId = σ.localSocketNextId) (henq : a'.enqueue = a.enqueue)
    (hid : a'.id = a.id) (hpeer : a'.peer = a.peer) (htell : Obs.Tell s a.id obs obs')
    (hacts : ∀ act ∈ l, ∀ p, act.stream = some p → p = s)
    (hstep : Phase.Step J s a.id (about s l) (.alive (a.lifeIn σ.heap)) obs'
      (.alive (a'.lifeIn σ.heap))) : Deed J l obs σ τ := by
  have hremote : a.isRemote = false := by
    simp only [isLocal, beq_iff_eq] at hl
    simp [isRemote, hl]
  have hs' : τ.heap.get s = some a' := by rw [hheap, get_set_self hs]
  have hlife : a'.lifeIn τ.heap = a'.lifeIn σ.heap := lifeIn_congr fun r hr => linkTo_congr <| by
    -- the peer of `s` is another socket
    have hne : r ≠ s := (hi.paired s a r hs (by simp) (hpeer.symm.trans hr)).2.1
    rw [hheap, get_set_of_ne _ hne]
  refine .of_local (T := (· = s)) hi htrace (Nat.le_of_eq (by rw [hheap]; rfl)) hnextId hs hl rfl
    (fun p hp hps => absurd hp hps)
    (fun p hp _ => untouched_set hs hheap henq hid (by simp [hremote]) hp) (fun c hc => ?_)
    (fun p c hle hp => ?_) htell hacts ?_
  · cases hs'.symm.trans hc
    exact ⟨by rw [← hl, isLocal, isLocal, henq], hid⟩
  · rw [hheap, get_set_of_ne _ (ne_of_next_le hs hle), σ.heap.fresh p hle] at hp
    cases hp
  · rw [phaseAt_some hs', hlife]
    exact hstep

lemma Deed.last (hi : Inv [] σ) (htrace : τ.trace = σ.trace ++ obs)
    (hs : σ.heap.get s = some a) (hl : a.isLocal = true) (hpeer : a.peer = none)
    (hheap : τ.heap = σ.heap.free s) (hnextId : τ.localSocketNextId = σ.localSocketNextId)
    (htell : Obs.Tell s a.id obs obs') (hacts : ∀ act ∈ l, ∀ p, act.stream = some p → p = s)
    (hstep : Phase.Step J s a.id (about s l) (.alive (a.lifeIn σ.heap)) obs' .gone) :
    Deed J l obs σ τ := by
  have hs' : τ.heap.get s = none := by rw [hheap, get_free_self]
  have hother (q : Ptr) (hq : q ≠ s) : τ.heap.get q = σ.heap.get q := by
    rw [hheap, get_free_of_ne hq]
  refine .of_local (T := (· = s)) hi htrace (Nat.le_of_eq (by rw [hheap]; rfl)) hnextId hs hl rfl
    (fun p hp hps => absurd hp hps)
    (fun p hp hlt => hi.untouched hs (fun q hq _ _ => hother q hq) hlt hp (by simp [hpeer]))
    (fun c hc => ?_) (fun p c hle hp => ?_) htell hacts ?_
  · cases hs'.symm.trans hc
  · rw [hother p (ne_of_next_le hs hle), σ.heap.fresh p hle] at hp
    cases hp
  · rw [phaseAt_none hs']
    exact hstep

lemma Deed.birth (hi : Inv [] σ) (htrace : τ.trace = σ.trace ++ obs)
    (hnext : σ.heap.next < τ.heap.next)
    (hnextId : τ.localSocketNextId = σ.localSocketNextId + 1)
    (hid : σ.localSocketNextId + 1 ≠ 0)
    (hheap : ∀ q, q < σ.heap.next → τ.heap.get q = σ.heap.get q)
    (hnew : τ.heap.get σ.heap.next = some a) (hl : a.isLocal = true)
    (ha : a.id = σ.localSocketNextId)
    (hbare : ∀ q c, σ.heap.next < q → τ.heap.get q = some c → c.isLocal = false)
    (hobs : obs = .created σ.heap.next σ.localSocketNextId :: obs')
    (htell : Obs.Tell σ.heap.next σ.localSocketNextId obs' obs')
    (hacts : ∀ act ∈ l, ∀ p, act.stream = some p → p = σ.heap.next)
    (hstep : Phase.Step J σ.heap.next σ.localSocketNextId (about σ.heap.next l) .unborn obs
      (.alive (a.lifeIn τ.heap))) : Deed J l obs σ τ := by
  have hlt : σ.localSocketNextId < σ.localSocketNextId + 1 := UInt32.lt_add_one fun h => hid (by rw [h]; rfl)
  have hcreated : .created σ.heap.next σ.localSocketNextId ∈ obs := by simp [hobs]
  have honly {p : Ptr} {n : UInt32} (hp : .created p n ∈ obs) :
      p = σ.heap.next ∧ n = σ.localSocketNextId := by
    rw [hobs] at hp
    rcases mem_cons.mp hp with hp | hp
    · cases hp
      exact ⟨rfl, rfl⟩
    · exact absurd hp (htell.old p n)
  refine Deed.build (T := fun _ => False) hi htrace (Nat.le_of_lt hnext)
    (hnextId ▸ UInt32.le_of_lt hlt) (fun _ h => h.elim)
    (fun p _ hp => hi.untouched_of_lt hheap hp) (fun _ _ _ h => h.elim) (fun _ _ h => h.elim)
    ?_ ?_ ?_ ?_ ?_
  · intro p n hp
    obtain ⟨rfl, rfl⟩ := honly hp
    refine ⟨rfl, rfl, hnext, hnextId ▸ hlt, fun c hc => ?_, ?_⟩
    · rw [hnew] at hc
      cases hc
      exact ⟨hl, ha⟩
    have hfilter : obs.filter (Obs.concerns σ.heap.next σ.localSocketNextId) = obs := by
      rw [hobs, filter_cons_of_pos (Obs.concerns_of_socket rfl rfl), htell.mine]
    rw [hfilter, phaseAt_some hnew]
    exact hstep
  · intro p c hle hp hlc
    rcases Nat.lt_or_eq_of_le hle with hlt | rfl
    · rw [hbare p c hlt hp] at hlc
      cases hlc
    rw [hnew] at hp
    cases hp
    rw [ha]
    exact hcreated
  · intro o ho hn p hp
    rw [hobs] at ho
    rcases mem_cons.mp ho with rfl | ho
    · cases hp
      exact .inr ⟨_, hcreated⟩
    · rw [htell.socket o ho hn p hp]
      exact .inr ⟨_, hcreated⟩
  · intro o ho hn n hs
    rw [hobs] at ho
    rcases mem_cons.mp ho with rfl | ho
    · cases hs
    · rw [htell.sender o ho hn n hs]
      exact .inr ⟨_, hcreated⟩
  · intro act hact p hp
    rw [hacts act hact p hp]
    exact .inr ⟨_, hcreated⟩

end build

/-! ### Records and lives -/

lemma asPeer_remote (hb : b.isRemote = true) : b.asPeer = .joined b.transport b.id := by
  simp only [isRemote, beq_iff_eq] at hb
  rw [asPeer, hb]

lemma asPeer_smart (hb : b.enqueue = .smartSocketEnqueue) : b.asPeer = .smart := by
  rw [asPeer, hb]

lemma asPeer_inner (hb : b.isLocal = true ∨ b.isTracker = true) : b.asPeer = .inner := by
  simp only [isLocal, isTracker, beq_iff_eq] at hb
  rcases hb with hb | hb <;> rw [asPeer, hb]

lemma asPeer_of_not_remote (hb : b.isRemote = false) : b.asPeer = .smart ∨ b.asPeer = .inner := by
  cases he : b.enqueue with
  | remoteSocketEnqueue => simp [isRemote, he] at hb
  | smartSocketEnqueue => exact .inl (asPeer_smart he)
  | localSocketEnqueue => exact .inr (asPeer_inner (.inl (by simp [isLocal, he])))
  | deviceTrackerEnqueue => exact .inr (asPeer_inner (.inr (by simp [isTracker, he])))

lemma Inv.linkIn_peer (h : Inv [] σ) (hs : σ.heap.get s = some a) (hpeer : a.peer = some r)
    (hr : σ.heap.get r = some b) : a.linkIn σ.heap = b.asPeer := by
  rw [linkIn_of_peer (h.not_closing_of_peer hs hpeer) hpeer, linkTo_some hr]

lemma linkIn_closing (hc : a.closing = true) : a.linkIn heap = .closing := by
  simp [linkIn, hc]

lemma linkIn_waiting (hc : a.closing = false) (hpeer : a.peer = none) :
    a.linkIn heap = .waiting := by
  simp [linkIn, hc, hpeer]

lemma linkIn_eq (hc : a'.closing = a.closing) (hpeer : a'.peer = a.peer) :
    a'.linkIn heap = a.linkIn heap := by
  rw [linkIn, linkIn, hc, hpeer]

lemma linkIn_ne_closing (hc : a.closing = false) : a.linkIn heap ≠ .closing := by
  unfold linkIn linkTo asPeer
  rw [if_neg (by simp [hc])]
  split
  · simp
  split
  · simp
  · split <;> simp

lemma lifeIn_addRead (hw : a.WfLocal) :
    a.addRead.lifeIn heap = { a.lifeIn heap with reading := true } :=
  Life.ext (linkIn_eq rfl rfl) rfl hw.wantsRead_addRead hw.wantsWrite_addRead

lemma lifeIn_withPeer (hw : a.WfLocal) (hc : a.closing = false) :
    ASocket.lifeIn heap { a.addRead with peer := some r } =
      ⟨linkTo heap r, a.queued, true, a.wantsWrite⟩ := by
  refine Life.ext ?_ rfl hw.wantsRead_addRead hw.wantsWrite_addRead
  exact linkIn_of_peer hc rfl

lemma lifeIn_delRead (hw : a.WfLocal) :
    a.delRead.lifeIn heap = { a.lifeIn heap with reading := false } :=
  Life.ext (linkIn_eq rfl rfl) rfl hw.wantsRead_delRead hw.wantsWrite_delRead

lemma lifeIn_retired (hw : a.WfLocal) :
    a.retired.lifeIn heap = { a.lifeIn heap with link := .closing, reading := false } := by
  have hread : a.retired.wantsRead = false := hw.plain.wantsRead_delRead
  have hwrite : a.retired.wantsWrite = a.wantsWrite := hw.plain.wantsWrite_delRead
  simp only [lifeIn, hread, hwrite, linkIn_closing (a := a.retired) rfl]
  rfl

lemma lifeIn_touch (h : a.Touch a') : a'.lifeIn heap = a.lifeIn heap := by
  simp [lifeIn, linkIn_eq h.closing h.peer, h.queued, h.wantsRead, h.wantsWrite]

lemma flush_of_drained {q : IOVector} {data : Bytes}
    (hq : q.bytes = a.queued ++ data) (hd : { a with packetQueue := q }.Drained s a' obs) :
    Life.Flush s { a.lifeIn heap with queue := (a.lifeIn heap).queue ++ data } (a'.lifeIn heap)
      obs where
  link := linkIn_eq hd.closing hd.peer
  reading := hd.wantsRead
  written := by
    have hqueued : ({ a with packetQueue := q } : ASocket).queued = a.queued ++ data := hq
    have h := hd.written
    rw [hqueued] at h
    exact h
  done := hd.done

lemma flush_of_drained_nil (hd : a.Drained s a' obs) :
    Life.Flush s (a.lifeIn heap) (a'.lifeIn heap) obs :=
  ⟨linkIn_eq hd.closing hd.peer, hd.wantsRead, hd.written, hd.done⟩

end Sockets

end Adb
