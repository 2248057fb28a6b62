import Adb.LifeTheorems

/-!
# Flow control

Every `A_WRTE` uses up a READY: the one an `A_OKAY` brings, or the one an incoming `A_OPEN` implies.
The credit is the `FDE_READ` bit of the socket. A hang-up is reported as `FDE_READ` whatever the bit
says, and `local_socket_flush_outgoing` then sends without a credit (`pushes`).
-/

namespace Adb

open Lib List

def Obs.isWrite (id : UInt32) : Obs → Bool
  | .sent _ p => p.msg.command == A_WRTE && p.msg.arg0 == id
  | _ => false

def Obs.isReady (s : Ptr) : Obs → Bool
  | .readied s' => s' == s
  | _ => false

def writes (id : UInt32) (obs : List Obs) : ℕ := obs.countP (Obs.isWrite id)

def readies (s : Ptr) (obs : List Obs) : ℕ := obs.countP (Obs.isReady s)

section counts

variable {s : Ptr} {id : UInt32} {obs pre : List Obs}

@[simp] lemma writes_nil : writes id [] = 0 := rfl
@[simp] lemma readies_nil : readies s [] = 0 := rfl

@[simp] lemma writes_append (xs ys : List Obs) :
    writes id (xs ++ ys) = writes id xs + writes id ys := countP_append

@[simp] lemma readies_append (xs ys : List Obs) :
    readies s (xs ++ ys) = readies s xs + readies s ys := countP_append

@[simp] lemma writes_cons (o : Obs) (xs : List Obs) :
    writes id (o :: xs) = writes id xs + if o.isWrite id then 1 else 0 := countP_cons

@[simp] lemma readies_cons (o : Obs) (xs : List Obs) :
    readies s (o :: xs) = readies s xs + if o.isReady s then 1 else 0 := countP_cons

lemma okay_ne_wrte : A_OKAY ≠ A_WRTE := by decide

lemma open_ne_wrte : A_OPEN ≠ A_WRTE := by decide

lemma Life.Flush.counts {L L' : Life} (h : Life.Flush s L L' obs) (id : UInt32) (r : Ptr) :
    writes id obs = 0 ∧ readies r obs = 0 := by
  rcases h.written with ⟨rfl, -⟩ | ⟨data, rfl, -⟩ | ⟨rfl, -⟩ <;> exact ⟨rfl, rfl⟩

lemma writes_filter : writes id (obs.filter (Obs.concerns s id)) = writes id obs := by
  rw [writes, countP_filter]
  refine countP_congr fun o _ => ?_
  cases o with
  | sent t p =>
    simp only [Obs.isWrite, Obs.concerns, Obs.neutral, Obs.sender, Bool.and_eq_true, beq_iff_eq]
    constructor
    · exact fun h => h.1
    · intro h
      simp [h.1, h.2]
  | _ => simp [Obs.isWrite]

lemma readies_filter : readies s (obs.filter (Obs.concerns s id)) = readies s obs := by
  rw [readies, countP_filter]
  refine countP_congr fun o _ => ?_
  cases o with
  | readied s' => simpa [Obs.isReady, Obs.concerns, Obs.neutral, Obs.socket] using .inl
  | _ => simp [Obs.isReady]

end counts

/-- The packets that may be sent before the next READY: one, if `FDE_READ` is on. -/
def Phase.credit : Phase → ℕ
  | .alive L =>
    match L.link with
    | .joined _ _ => if L.reading then 1 else 0
    | _ => 0
  | _ => 0

/-- Never have more packets been sent than the other side was ready for. -/
def Paced (s : Ptr) (id : UInt32) (obs : List Obs) : Prop :=
  ∀ pre, pre <+: obs → writes id pre ≤ readies s pre

lemma Paced.append {s : Ptr} {id : UInt32} {obs more : List Obs} (h : Paced s id obs)
    (hmore : writes id (obs ++ more) ≤ readies s obs) : Paced s id (obs ++ more) := by
  intro pre hpre
  rcases prefix_or_prefix_of_prefix hpre (prefix_append obs more) with hle | hle
  · exact h pre hle
  calc writes id pre ≤ writes id (obs ++ more) := hpre.sublist.countP_le
    _ ≤ readies s obs := hmore
    _ ≤ readies s pre := hle.sublist.countP_le

lemma Phase.Step.credit {J : TPtr → Prop} {s : Ptr} {id : UInt32} {acts : List Sockets.Act}
    {φ ψ : Phase} {obs : List Obs} (h : Phase.Step J s id acts φ obs ψ)
    (hasked : ∀ act ∈ acts, act ≠ .unasked s) :
    writes id obs ≤ φ.credit ∧ writes id obs + ψ.credit ≤ φ.credit + readies s obs := by
  cases h with
  | wait | same => simp
  | client | service | engage | read | discard | retire | destroy | abandon =>
    simp [Phase.credit, Obs.isWrite, Obs.isReady, *]
  | dial hp | request hlink hp =>
    simp [Phase.credit, Obs.isWrite, hp.1, open_ne_wrte]
  | accept hj hp => simp [Phase.credit, Obs.isWrite, Obs.isReady, hp.1, okay_ne_wrte]
  | @interest L b hlink => rcases hlink with h | h <;> simp [Phase.credit, h]
  | @ready L =>
    have hle : (Phase.alive { L with reading := true }).credit ≤ 1 := by
      cases L.link <;> simp [Phase.credit]
    simp only [writes_cons, writes_nil, readies_cons, readies_nil, Obs.isWrite, Obs.isReady,
      beq_self_eq_true, if_true, Bool.false_eq_true, if_false]
    omega
  | connect hlink hj => simp [Phase.credit, Obs.isWrite, Obs.isReady, hlink]
  | enqueue hlink _ hd =>
    have hcounts := hd.counts id s
    simp [Phase.credit, Obs.isWrite, Obs.isReady, hlink, hd.link, hcounts]
  | echo hlink hp => simp [Obs.isWrite, Obs.isReady, hp.1, okay_ne_wrte]
  | @deliver L L' remote data obs ack u t hlink hd hack =>
    have hcounts := hd.counts id s
    have hack' : writes id ack = 0 ∧ readies s ack = 0 := by
      rcases hack with ⟨-, rfl⟩ | ⟨-, p, rfl, hp⟩
      · exact ⟨rfl, rfl⟩
      · simp [Obs.isWrite, Obs.isReady, hp.1, okay_ne_wrte]
    simp [Phase.credit, Obs.isWrite, Obs.isReady, hlink, hd.link, hd.reading, hcounts, hack']
  | drain _ hd =>
    have hcounts := hd.counts id s
    simp [Phase.credit, hd.link, hd.reading, hcounts]
  | settle hlink _ hd _ hp =>
    have hcounts := hd.counts id s
    simp [Phase.credit, hd.link, hlink, hd.reading, hcounts, Obs.isWrite, Obs.isReady, hp.1,
      okay_ne_wrte]
  | @forward L t remote p hlink hp =>
    cases hr : L.reading with
    | true => simp [Phase.credit, hlink, hr, Obs.isWrite, Obs.isReady, hp.1, hp.2.1]
    | false => exact absurd rfl (hasked (.unasked s) (by simp [hr]))
  | finish hlink ho =>
    rcases ho with rfl | rfl <;> simp [Phase.credit, Obs.isWrite, Obs.isReady]

namespace Server

open Sockets (Act)

variable {σ τ : Server} {cfg : Config} {s : Ptr} {id : UInt32}

/-- The next event makes a socket send data while the other side is not ready for it: `FDE_READ`
is off, and the fd has data. -/
def pushes (σ : Server) : Bool :=
  σ.socks.gPendingList.head?.any fun s =>
    (σ.socks.heap.get s).any fun a =>
      a.fde.any (·.events.read) && !a.wantsRead && !(σ.wouldRead a).data.isEmpty &&
        (a.peer.bind σ.socks.heap.get).any (·.isRemote)

def asked (σ : Server) (i : Input) : Bool :=
  match i.callback with
  | .event => !(σ.withOs i.os).pushes
  | _ => true

lemma PendingAct.pushes (h : σ.PendingAct (.unasked s)) : σ.pushes = true := by
  obtain ⟨s', rest, a, f, hlist, hs', hf, hev, ⟨rfl, hread, hdata, r, b, hpeer, hr, hb⟩, -⟩ := h
  simp [Server.pushes, hlist, hs', hf, hev, hread, hdata, hpeer, hr, hb]

lemma StepOutcome.not_unasked {i : Input} {l : List Act} (hC : asked σ i = true)
    (h : StepOutcome cfg i σ l τ) : .unasked s ∉ l := by
  intro hact
  cases h with
  | skipped => cases hact
  | moved h =>
    obtain ⟨hc, hp⟩ := h.pendingAct hact rfl
    rw [asked, hc] at hC
    simp [hp.pushes] at hC

/-- In every run in which no socket is made to send what was not asked for, every local socket has
at all times sent at most as many `A_WRTE` packets as it was told that the other side is ready. -/
theorem flow_controlled {name : Bytes} {inputs : List Input}
    (hC : Meets (step cfg) (fun σ i => asked σ i = true) inputs (init name))
    (hrun : run cfg inputs (init name) = .ok τ) (hs : .created s id ∈ τ.socks.trace) :
    Paced s id τ.socks.trace := by
  have hpaced := run_every (K := fun act => ∀ s, act ≠ .unasked s)
    (I := fun s id story φ => Paced s id story ∧ writes id story + φ.credit ≤ readies s story)
    (fun s id => ⟨by simp [Paced], by simp [Phase.credit]⟩)
    (fun J s id acts φ obs ψ story hK hstep hI => by
      obtain ⟨huse, hbalance⟩ := hstep.credit fun act hact => hK act hact s
      refine ⟨hI.1.append ?_, ?_⟩
      · rw [writes_append]
        omega
      · rw [writes_append, readies_append]
        omega)
    (fun σ i l τ hC hτ act hact s h => hτ.not_unasked hC (h ▸ hact)) hC hrun
  intro pre hpre
  have hstory : pre.filter (Obs.concerns s id) <+: τ.socks.story s id := hpre.filter _
  have hle := (hpaced.holds s id hs).1 _ hstory
  rwa [writes_filter, readies_filter] at hle

/-- A service of the device has data for the host, and `poll` reports `revents` for its fd when the
data has been sent. -/
def chattyService (revents : Revents) : List Input :=
  [{ callback := .usbDevice [] [] true },
    { callback := .registration },
    { callback := .packet 0 (packetOf A_CNXN A_VERSION 4096 (ascii "host::")) },
    { callback := .packet 0 (packetOf A_OPEN 7 0 (ascii "tcp:1")), os := { service := true } },
    { callback := .poll [(0, { pollin := true })] },
    { callback := .event, os := { reads := [.data (ascii "one")] } },
    { callback := .poll [(0, revents)] },
    { callback := .event, os := { reads := [.data (ascii "two")] } }]

/-- Without a hang-up the second part of the data is not read. -/
theorem flow_controlled_chatty :
    ∃ τ, run { Config.adbd with authRequired := false } (chattyService { pollin := true })
        (init []) = .ok τ ∧
      writes 1 τ.socks.trace = 1 ∧ Paced 0 1 τ.socks.trace := by
  have htest : returns (run { Config.adbd with authRequired := false }
      (chattyService { pollin := true }) (init []))
      (fun τ => .created 0 1 ∈ τ.socks.trace ∧ writes 1 τ.socks.trace = 1) = true := by decide
  obtain ⟨τ, hrun, hτ⟩ := returns_iff.mp htest
  simp only [decide_eq_true_eq] at hτ
  exact ⟨τ, hrun, hτ.2, flow_controlled (by decide) hrun hτ.1⟩

/-- After a hang-up it is read and sent, although the host has not answered the first. -/
theorem flow_uncontrolled :
    ∃ τ, run { Config.adbd with authRequired := false } (chattyService { pollhup := true })
        (init []) = .ok τ ∧
      .created 0 1 ∈ τ.socks.trace ∧ writes 1 τ.socks.trace = 2 ∧ readies 0 τ.socks.trace = 1 := by
  have htest : returns (run { Config.adbd with authRequired := false }
      (chattyService { pollhup := true }) (init []))
      (fun τ => .created 0 1 ∈ τ.socks.trace ∧ writes 1 τ.socks.trace = 2 ∧
        readies 0 τ.socks.trace = 1) = true := by decide
  obtain ⟨τ, hrun, hτ⟩ := returns_iff.mp htest
  exact ⟨τ, hrun, of_decide_eq_true hτ⟩

end Server

end Adb
