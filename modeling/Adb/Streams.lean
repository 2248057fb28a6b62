import Adb.Draining
import Adb.FlowControl

/-!
# What goes through a socket

A local socket stands between an fd and its peer. What is put in its queue is written to the fd, and
what is read from the fd once the other side has answered is sent there. In every run both keep the
order, and neither adds anything or leaves out anything in between.
-/

namespace Adb

open Lib List

def Obs.enqueuedTo (s : Ptr) : Obs → Option Bytes
  | .enqueued s' data => if s' = s then some data else none
  | _ => none

def Obs.readFrom (s : Ptr) : Obs → Option Bytes
  | .read s' data => if s' = s then some data else none
  | _ => none

/-- The data that the socket with the id `id` sends, and where to. -/
def Obs.dataOf (id : UInt32) : Obs → Option (TPtr × UInt32 × Bytes)
  | .sent t p =>
    if p.msg.command = A_WRTE ∧ p.msg.arg0 = id then some (t, p.msg.arg1, p.payload) else none
  | _ => none

def queuedFor (s : Ptr) (obs : List Obs) : Bytes := collect (Obs.enqueuedTo s) obs

def readsOf (s : Ptr) (obs : List Obs) : List Bytes := obs.filterMap (Obs.readFrom s)

def sendsOf (id : UInt32) (obs : List Obs) : List (TPtr × UInt32 × Bytes) :=
  obs.filterMap (Obs.dataOf id)

/-- All that was sent had been read, in this order and without a gap, and went to the socket
`remote` of the other side; `after` has been read since. -/
structure Forwards (s : Ptr) (id : UInt32) (story : List Obs) (u : Option TPtr) (remote : UInt32)
    (after : List Bytes) : Prop where
  reads : ∃ before, readsOf s story = before ++ ((sendsOf id story).map (·.2.2) ++ after)
  one : ∀ x ∈ sendsOf id story, some x.1 = u ∧ x.2.1 = remote

/-- What has been sent so far, by what the socket is connected to. -/
def Link.Streams (s : Ptr) (id : UInt32) (story : List Obs) : Link → Prop
  | .joined u remote => Forwards s id story u remote []
  | .closing => ∃ u remote after, Forwards s id story u remote after
  | _ => sendsOf id story = []

/-- What the trace says of a socket that is where it is in its life. -/
def Phase.Streams (s : Ptr) (id : UInt32) (story : List Obs) : Phase → Prop
  | .unborn => story = []
  | .alive L => queuedFor s story = written s story ++ L.queue ∧
      (∀ left, .destroyed s left ∉ story) ∧ L.link.Streams s id story
  | .gone => written s story <+: queuedFor s story ∧
      (∃ u remote after, Forwards s id story u remote after) ∧
      ∃ pre left, story = pre ++ [.destroyed s left] ∧ ∀ left', .destroyed s left' ∉ pre

/-- The queue goes from `q` to `q'`, and nothing is read or sent. -/
structure Quiet (s : Ptr) (id : UInt32) (obs : List Obs) (q q' : Bytes) : Prop where
  queue : q ++ queuedFor s obs = written s obs ++ q'
  live : ∀ left, .destroyed s left ∉ obs
  reads : readsOf s obs = []
  sends : sendsOf id obs = []

/-- Once `s` is destroyed, nothing more is seen of it, and nothing is sent in its name. -/
def Quits (s : Ptr) (id : UInt32) (obs : List Obs) : Prop :=
  ∀ pre left post, obs = pre ++ .destroyed s left :: post → ∀ o ∈ post, o.concerns s id = false

variable {s : Ptr} {id : UInt32} {obs obs' story : List Obs} {L L' : Life} {q q' q'' : Bytes}
  {u : Option TPtr} {t : TPtr} {p : APacket} {remote : UInt32} {after : List Bytes}

lemma sendsOf_append (xs ys : List Obs) : sendsOf id (xs ++ ys) = sendsOf id xs ++ sendsOf id ys :=
  filterMap_append

lemma readsOf_append (xs ys : List Obs) : readsOf s (xs ++ ys) = readsOf s xs ++ readsOf s ys :=
  filterMap_append

lemma sendsOf_append_nil (h : sendsOf id story = []) (hobs : sendsOf id obs = []) :
    sendsOf id (story ++ obs) = [] := by
  rw [sendsOf_append, h, hobs, List.append_nil]

namespace Quiet

lemma append (h : Quiet s id obs q q') (h' : Quiet s id obs' q' q'') :
    Quiet s id (obs ++ obs') q q'' where
  queue := by
    rw [queuedFor, written, collect_append, collect_append, ← queuedFor, ← queuedFor, ← written,
      ← written, ← append_assoc, h.queue, append_assoc, h'.queue, append_assoc]
  live := by simp [h.live, h'.live]
  reads := by rw [readsOf_append, h.reads, h'.reads, List.append_nil]
  sends := by rw [sendsOf_append, h.sends, h'.sends, List.append_nil]

lemma nil : Quiet s id [] q q := ⟨List.append_nil q, by simp, rfl, rfl⟩

lemma enqueued (data : Bytes) : Quiet s id [.enqueued s data] q (q ++ data) :=
  ⟨by simp [queuedFor, written, collect_cons, Obs.enqueuedTo, Obs.wroteBy], by simp, rfl, rfl⟩

lemma wrote (data : Bytes) : Quiet s id [.wrote s data] (data ++ q) q :=
  ⟨by simp [queuedFor, written, collect_cons, Obs.enqueuedTo, Obs.wroteBy], by simp, rfl, rfl⟩

lemma failed : Quiet s id [.writeFailed s] q q := ⟨List.append_nil q, by simp, rfl, rfl⟩

lemma sent (hp : p.msg.command ≠ A_WRTE) : Quiet s id [.sent t p] q q :=
  ⟨List.append_nil q, by simp, rfl, by simp [sendsOf, Obs.dataOf, hp]⟩

end Quiet

lemma Life.Flush.quiet (h : Life.Flush s L L' obs) : Quiet s id obs L.queue L'.queue := by
  rcases h.written with ⟨rfl, hq⟩ | ⟨data, rfl, hq⟩ | ⟨rfl, hq⟩
  · exact hq ▸ .nil
  · exact hq ▸ .wrote data
  · exact hq ▸ .failed

lemma forwards_of_none (h : sendsOf id story = []) : Forwards s id story u remote [] :=
  ⟨⟨readsOf s story, by simp [h]⟩, by simp [h]⟩

lemma Forwards.append (h : Forwards s id story u remote after) (hobs : sendsOf id obs = []) :
    Forwards s id (story ++ obs) u remote (after ++ readsOf s obs) := by
  have hsends : sendsOf id (story ++ obs) = sendsOf id story := by
    rw [sendsOf_append, hobs, List.append_nil]
  obtain ⟨before, hreads⟩ := h.reads
  exact ⟨⟨before, by simp [readsOf_append, hreads, hsends]⟩, hsends ▸ h.one⟩

namespace Link.Streams

variable {l : Link}

lemma forwards (h : l.Streams s id story) :
    ∃ u remote after, Forwards s id story u remote after := by
  cases l with
  | joined u remote => exact ⟨u, remote, [], h⟩
  | closing => exact h
  | smart | inner | waiting => exact ⟨none, 0, [], forwards_of_none h⟩

lemma quiet (h : l.Streams s id story) (hobs : Quiet s id obs q q') :
    l.Streams s id (story ++ obs) := by
  cases l with
  | joined u remote =>
    have hf := Forwards.append h hobs.sends
    rwa [hobs.reads] at hf
  | closing =>
    obtain ⟨u, remote, after, h⟩ := h
    exact ⟨u, remote, _, h.append hobs.sends⟩
  | smart | inner | waiting => exact sendsOf_append_nil h hobs.sends

end Link.Streams

namespace Phase.Streams

lemma link {l : Link} (h : (Phase.alive L).Streams s id story) (hlink : L.link = l) :
    l.Streams s id story :=
  hlink ▸ h.2.2

lemma lives (h : (Phase.alive L).Streams s id story)
    (hqueue : L.queue ++ queuedFor s obs = written s obs ++ L'.queue)
    (hlive : ∀ left, .destroyed s left ∉ obs) (hlink : L'.link.Streams s id (story ++ obs)) :
    (Phase.alive L').Streams s id (story ++ obs) := by
  refine ⟨?_, by simp [h.2.1, hlive], hlink⟩
  rw [queuedFor, collect_append, ← queuedFor, ← queuedFor, h.1, append_assoc, hqueue]
  simp [written]

lemma stays (h : (Phase.alive L).Streams s id story) (hobs : Quiet s id obs L.queue L'.queue)
    (hlink : L'.link = L.link) : (Phase.alive L').Streams s id (story ++ obs) :=
  h.lives hobs.queue hobs.live (hlink ▸ h.2.2.quiet hobs)

lemma ends {left : Bytes} (h : (Phase.alive L).Streams s id story)
    (hobs : Quiet s id obs L.queue q) :
    Phase.gone.Streams s id (story ++ (obs ++ [.destroyed s left])) := by
  rw [← append_assoc]
  -- nothing is written that was not queued, whatever is left of the queue
  have hlast : (Phase.alive { L with queue := q }).Streams s id (story ++ obs) := h.stays hobs rfl
  obtain ⟨u, remote, after, hf⟩ := hlast.2.2.forwards
  refine ⟨?_, ⟨u, remote, _, hf.append rfl⟩, story ++ obs, left, rfl, hlast.2.1⟩
  refine ⟨q, ?_⟩
  rw [written, collect_append, ← written, queuedFor, collect_append, ← queuedFor, hlast.1]
  simp [collect_cons, Obs.wroteBy, Obs.enqueuedTo]

end Phase.Streams

lemma Phase.Step.streams {J : TPtr → Prop} {acts : List Sockets.Act} {φ ψ : Phase}
    (h : Phase.Step J s id acts φ obs ψ) (hφ : φ.Streams s id story) :
    ψ.Streams s id (story ++ obs) := by
  cases h with
  | wait | same => simpa using hφ
  | client | service =>
    obtain rfl : story = [] := hφ
    exact ⟨rfl, by simp, rfl⟩
  | dial hp =>
    obtain rfl : story = [] := hφ
    exact ⟨rfl, by simp, by simp [Link.Streams, sendsOf, Obs.dataOf, hp.1, open_ne_wrte]⟩
  | accept hj hp =>
    obtain rfl : story = [] := hφ
    exact ⟨rfl, by simp, forwards_of_none (by simp [sendsOf, Obs.dataOf, hp.1, okay_ne_wrte])⟩
  | interest | ready =>
    exact hφ.stays ⟨List.append_nil _, by simp, rfl, rfl⟩ rfl
  | engage hlink =>
    exact hφ.lives (List.append_nil _) (by simp) (sendsOf_append_nil (hφ.link hlink) rfl)
  | @request L t p hlink hp =>
    have hquiet : Quiet s id [.sent t p, .opened s id] L.queue L.queue :=
      (Quiet.sent (hp.1 ▸ open_ne_wrte)).append ⟨List.append_nil _, by simp, rfl, rfl⟩
    exact hφ.lives hquiet.queue hquiet.live (sendsOf_append_nil (hφ.link hlink) hquiet.sends)
  | connect hlink =>
    exact hφ.lives (List.append_nil _) (by simp) ((forwards_of_none (hφ.link hlink)).append rfl)
  | @enqueue L L' data obs _ _ _ hd =>
    exact hφ.stays ((Quiet.enqueued data).append hd.quiet) hd.link
  | echo hlink hp => exact hφ.stays (Quiet.sent (hp.1 ▸ okay_ne_wrte)) rfl
  | @deliver L L' remote data obs ack u t hlink hd hack =>
    have hflush : Quiet s id (.enqueued s data :: obs) L.queue L'.queue :=
      (Quiet.enqueued data).append hd.quiet
    rcases hack with ⟨-, rfl⟩ | ⟨-, p, rfl, hp⟩
    · rw [List.append_nil]
      exact hφ.stays hflush hd.link
    · exact hφ.stays (hflush.append (Quiet.sent (hp.1 ▸ okay_ne_wrte))) hd.link
  | drain _ hd => exact hφ.stays hd.quiet hd.link
  | settle hlink _ hd _ hp =>
    exact hφ.stays (hd.quiet.append (Quiet.sent (hp.1 ▸ okay_ne_wrte))) hd.link
  | @read L data hlink =>
    refine hφ.lives (List.append_nil _) (by simp) ?_
    rcases hlink with h | h | h <;> rw [h]
    · exact sendsOf_append_nil (hφ.link h) rfl
    · exact sendsOf_append_nil (hφ.link h) rfl
    · obtain ⟨u, remote, after, hf⟩ := hφ.link h
      exact ⟨u, remote, _, hf.append rfl⟩
  | discard data hlink =>
    refine hφ.lives (List.append_nil _) (by simp) ?_
    rw [hlink]
    exact sendsOf_append_nil (hφ.link hlink) rfl
  | @forward L t remote p hlink hp =>
    obtain ⟨⟨before, hreads⟩, hone⟩ := hφ.link hlink
    have hsent : sendsOf id [.read s p.payload, .sent t p] = [(t, remote, p.payload)] := by
      simp [sendsOf, filterMap_cons, Obs.dataOf, hp.1, hp.2.1, hp.2.2]
    have hread : readsOf s [.read s p.payload, .sent t p] = [p.payload] := by
      simp [readsOf, filterMap_cons, Obs.readFrom]
    refine hφ.lives (List.append_nil _) (by simp) ?_
    rw [show ({ L with reading := false } : Life).link = _ from hlink]
    refine ⟨⟨before, ?_⟩, fun x hx => ?_⟩
    · simp [readsOf_append, sendsOf_append, hreads, hsent, hread]
    · rw [sendsOf_append, hsent] at hx
      rcases mem_append.mp hx with hx | hx
      · exact hone x hx
      · simp [mem_singleton.mp hx]
  | retire =>
    obtain ⟨u, remote, after, hf⟩ := hφ.2.2.forwards
    exact hφ.lives (List.append_nil _) (by simp) ⟨u, remote, _, hf.append rfl⟩
  | destroy | abandon => exact hφ.ends .nil
  | @finish L o left hlink ho =>
    rcases ho with rfl | rfl
    · have hquiet : Quiet s id [.wrote s L.queue] (L.queue ++ []) [] := .wrote L.queue
      rw [List.append_nil] at hquiet
      exact hφ.ends hquiet
    · exact hφ.ends .failed

/-- What does not concern a socket is not about its streams. -/
lemma Obs.unconcerned {o : Obs} (ho : o.concerns s id = false) :
    o.enqueuedTo s = none ∧ o.wroteBy s = none ∧ o.readFrom s = none ∧ o.dataOf id = none := by
  have hnot (hn : o.neutral = false) : o.socket ≠ some s ∧ o.sender ≠ some id := by
    simpa [Obs.concerns, hn] using ho
  cases o with
  | enqueued s' data | wrote s' data | read s' data =>
    have hne : s' ≠ s := fun h => (hnot rfl).1 (congrArg some h)
    simp [Obs.enqueuedTo, Obs.wroteBy, Obs.readFrom, Obs.dataOf, hne]
  | sent t p =>
    refine ⟨rfl, rfl, rfl, if_neg fun h => ?_⟩
    exact (hnot (by simp [Obs.neutral, h.1])).2 (congrArg some h.2)
  | _ => exact ⟨rfl, rfl, rfl, rfl⟩

lemma Quits.of_filter (h : Quits s id (obs.filter (Obs.concerns s id))) : Quits s id obs := by
  rintro pre left post rfl o ho
  have hpost := h (pre.filter (Obs.concerns s id)) left (post.filter (Obs.concerns s id))
    (by rw [filter_append, filter_cons_of_pos (Obs.concerns_of_socket rfl rfl)])
  by_contra hc
  exact hc (hpost o (mem_filter.mpr ⟨ho, Bool.not_eq_false _ ▸ hc⟩))

namespace Server

variable {τ : Server} {cfg : Config} {name : Bytes} {inputs : List Input}

lemma run_streams (hrun : run cfg inputs (init name) = .ok τ) (hs : .created s id ∈ τ.socks.trace) :
    (∃ a, τ.socks.heap.get s = some a ∧
      (Phase.alive (a.lifeIn τ.socks.heap)).Streams s id (τ.socks.story s id)) ∨
    τ.socks.heap.get s = none ∧ Phase.gone.Streams s id (τ.socks.story s id) := by
  have hstreams := (run_every (C := fun _ _ => True) (K := fun _ => True)
    (I := fun s id story φ => φ.Streams s id story) (fun _ _ => rfl)
    (fun _ _ _ _ _ _ _ _ _ hstep hφ => hstep.streams hφ) (fun _ _ _ _ _ _ _ _ => trivial)
    (.of_forall (fun _ _ => trivial) _ _) hrun).holds s id hs
  rw [Sockets.phase, if_pos hs] at hstreams
  cases ha : τ.socks.heap.get s with
  | none => exact .inr ⟨rfl, by rwa [ha] at hstreams⟩
  | some a => exact .inl ⟨a, rfl, by rwa [ha] at hstreams⟩

/-- The daemon, which trusts every host. -/
def serve (inputs : List Input) : Res Server :=
  run { Config.adbd with authRequired := false } inputs (init [])

/-- In every run the data packets of a socket carry what was read from its fd, in that order and
without a gap, and all go to one socket on one transport. -/
theorem data_sent_in_order (hrun : run cfg inputs (init name) = .ok τ)
    (hs : .created s id ∈ τ.socks.trace) :
    (sendsOf id τ.socks.trace).map (·.2.2) <:+: readsOf s τ.socks.trace ∧
      ∃ t remote, ∀ x ∈ sendsOf id τ.socks.trace, x.1 = t ∧ x.2.1 = remote := by
  have hsends : sendsOf id (τ.socks.story s id) = sendsOf id τ.socks.trace :=
    filterMap_filter_of_none fun o ho => (Obs.unconcerned ho).2.2.2
  have hreads : readsOf s (τ.socks.story s id) = readsOf s τ.socks.trace :=
    filterMap_filter_of_none fun o ho => (Obs.unconcerned ho).2.2.1
  have hforwards : ∃ u remote after, Forwards s id (τ.socks.story s id) u remote after := by
    rcases run_streams hrun hs with ⟨a, -, hstreams⟩ | ⟨-, hstreams⟩
    · exact hstreams.2.2.forwards
    · exact hstreams.2.1
  obtain ⟨u, remote, after, ⟨before, heq⟩, hone⟩ := hforwards
  rw [hsends] at heq hone
  rw [hreads, ← append_assoc] at heq
  refine ⟨⟨before, after, heq.symm⟩, u.getD 0, remote, fun x hx => ⟨?_, (hone x hx).2⟩⟩
  rw [← (hone x hx).1, Option.getD_some]

theorem data_sent_twice : ∃ τ, serve (chattyService { pollhup := true }) = .ok τ ∧
      sendsOf 1 τ.socks.trace = [(0, 7, ascii "one"), (0, 7, ascii "two")] ∧
      (sendsOf 1 τ.socks.trace).map (·.2.2) <:+: readsOf 0 τ.socks.trace := by
  have htest : returns (serve (chattyService { pollhup := true }))
      (fun τ => .created 0 1 ∈ τ.socks.trace ∧
        sendsOf 1 τ.socks.trace = [(0, 7, ascii "one"), (0, 7, ascii "two")]) = true := by decide
  obtain ⟨τ, hrun, hτ⟩ := returns_iff.mp htest
  have hτ := of_decide_eq_true hτ
  exact ⟨τ, hrun, hτ.2, (data_sent_in_order hrun hτ.1).1⟩

end Server

end Adb
