import Adb.LifeTheorems

/-!
# A closing socket drains its queue

`local_socket_close` keeps a socket that has something left to write. A hang-up is reported as
`FDE_READ`: if the read finds the end of the file, the socket is closed a second time, and that
destroys it (`abandons`). Otherwise it is destroyed only after its queue has been written.
-/

namespace Adb

open Lib List

def Obs.wroteBy (s : Ptr) : Obs → Option Bytes
  | .wrote s' data => if s' = s then some data else none
  | _ => none

def written (s : Ptr) (obs : List Obs) : Bytes := collect (Obs.wroteBy s) obs

/-- Between the time `s` is put on the closing list and the time it is destroyed, all that was
queued is written, or a write fails. -/
def Drains (s : Ptr) (obs : List Obs) : Prop :=
  ∀ pre left mid left' post, obs = pre ++ .closing s left :: (mid ++ .destroyed s left' :: post) →
    written s mid = left ∨ .writeFailed s ∈ mid

/-- `s` has been on the closing list for some time, and `queue` is left. -/
def Draining (s : Ptr) (queue : Bytes) (obs : List Obs) : Prop :=
  ∀ pre left mid, obs = pre ++ .closing s left :: mid →
    written s mid ++ queue = left ∨ .writeFailed s ∈ mid

section draining

variable {s : Ptr} {queue queue' : Bytes} {obs : List Obs} {o : Obs}

lemma Draining.snoc (h : Draining s queue obs) (ho : ∀ left, o ≠ .closing s left)
    (hqueue : (o.wroteBy s).getD [] ++ queue' = queue) : Draining s queue' (obs ++ [o]) := by
  intro pre left mid heq
  obtain ⟨mid', rfl, rfl⟩ := eq_append_of_snoc heq (ho left)
  rcases h pre left mid' rfl with hmid | hmid
  · left
    rw [written, collect_append, collect_cons, collect_nil, List.append_nil, append_assoc, hqueue]
    exact hmid
  · exact .inr (by simp [hmid])

lemma Draining.failed (h : Draining s queue obs) (queue' : Bytes) :
    Draining s queue' (obs ++ [.writeFailed s]) := by
  intro pre left mid heq
  obtain ⟨mid', rfl, rfl⟩ := eq_append_of_snoc heq (by simp)
  exact .inr (by simp)

lemma Draining.start (h : ∀ left, .closing s left ∉ obs) :
    Draining s queue (obs ++ [.closing s queue]) := by
  intro pre left mid heq
  obtain ⟨rfl, rfl⟩ := eq_of_snoc heq (h left)
  left
  simpa [written] using (append_inj' heq rfl).2

lemma Draining.drains (h : Draining s [] obs) (hlive : ∀ left, .destroyed s left ∉ obs)
    (left : Bytes) : Drains s (obs ++ [.destroyed s left]) := by
  intro pre l mid left' post heq
  rw [← cons_append, ← append_assoc] at heq
  obtain ⟨rfl, rfl⟩ := eq_of_snoc heq (hlive left')
  simpa using h pre l mid rfl

lemma drains_of_not_closing (h : ∀ left, .closing s left ∉ obs) : Drains s obs := by
  rintro pre left mid left' post rfl
  exact absurd (by simp) (h left)

end draining

def Phase.Drained (s : Ptr) (story : List Obs) : Phase → Prop
  | .unborn => story = []
  | .alive L => (∀ left, .destroyed s left ∉ story) ∧
      if L.link = .closing then Draining s L.queue story else ∀ left, .closing s left ∉ story
  | .gone => Drains s story

variable {J : TPtr → Prop} {s : Ptr} {id : UInt32} {acts : List Sockets.Act} {φ ψ : Phase}
  {obs story : List Obs}

namespace Phase.Drained

variable {L L' : Life}

lemma open_alive (h : Phase.Drained s story (.alive L)) (hopen : L.link ≠ .closing) :
    (∀ left, .destroyed s left ∉ story) ∧ ∀ left, .closing s left ∉ story := by
  rwa [Phase.Drained, if_neg hopen] at h

lemma closing_alive (h : Phase.Drained s story (.alive L)) (hlink : L.link = .closing) :
    (∀ left, .destroyed s left ∉ story) ∧ Draining s L.queue story := by
  rwa [Phase.Drained, if_pos hlink] at h

lemma stay_open (h : (∀ left, .destroyed s left ∉ story) ∧ ∀ left, .closing s left ∉ story)
    (hlink : L'.link ≠ .closing)
    (hobs : ∀ o ∈ obs, ∀ left, o ≠ .destroyed s left ∧ o ≠ .closing s left) :
    Phase.Drained s (story ++ obs) (.alive L') := by
  rw [Phase.Drained, if_neg hlink]
  constructor
  · intro left hmem
    rcases mem_append.mp hmem with hmem | hmem
    · exact h.1 left hmem
    · exact (hobs _ hmem left).1 rfl
  · intro left hmem
    rcases mem_append.mp hmem with hmem | hmem
    · exact h.2 left hmem
    · exact (hobs _ hmem left).2 rfl

end Phase.Drained

lemma Life.Flush.not_end {L L' : Life} (h : Life.Flush s L L' obs) :
    ∀ o ∈ obs, ∀ left, o ≠ .destroyed s left ∧ o ≠ .closing s left := by
  rcases h.written with ⟨rfl, -⟩ | ⟨data, rfl, -⟩ | ⟨rfl, -⟩ <;> simp

lemma Phase.Step.drained (h : Phase.Step J s id acts φ obs ψ)
    (hkept : ∀ act ∈ acts, act ≠ .abandon s) (hφ : φ.Drained s story) :
    ψ.Drained s (story ++ obs) := by
  have hborn (hφ : Phase.Drained s story .unborn) :
      (∀ left, .destroyed s left ∉ story) ∧ ∀ left, .closing s left ∉ story := by
    rw [show story = [] from hφ]
    simp
  cases h with
  | wait => simpa using hφ
  | same => simpa using hφ
  | client | service | dial | accept => exact .stay_open (hborn hφ) (by simp) (by simp)
  | @interest L _ hlink =>
    have hopen : L.link ≠ .closing := by rcases hlink with h | h <;> simp [h]
    exact .stay_open (hφ.open_alive hopen) hopen (by simp)
  | ready _ hclosing => exact .stay_open (hφ.open_alive hclosing) hclosing (by simp)
  | engage hlink | request hlink | connect hlink =>
    exact .stay_open (hφ.open_alive (by simp [hlink])) (by simp) (by simp)
  | enqueue hlink _ hd =>
    refine .stay_open (hφ.open_alive (by simp [hlink])) (by simp [hd.link, hlink]) ?_
    simpa using hd.not_end
  | echo hlink => exact .stay_open (hφ.open_alive (by simp [hlink])) (by simp [hlink]) (by simp)
  | @deliver L L' remote data obs ack u t hlink hd hack =>
    refine .stay_open (hφ.open_alive (by simp [hlink])) (by simp [hd.link, hlink]) ?_
    intro o ho
    simp only [mem_cons, mem_append] at ho
    rcases ho with rfl | ho | ho
    · simp
    · exact hd.not_end o ho
    rcases hack with ⟨-, rfl⟩ | ⟨-, p, rfl, -⟩
    · cases ho
    · cases mem_singleton.mp ho
      simp
  | @drain L L' obs hw hd hleft =>
    by_cases hlink : L.link = .closing
    · obtain ⟨hlive, hdrain⟩ := hφ.closing_alive hlink
      have hwriting : L'.writing = true := hleft.resolve_right (by simp [hlink])
      rw [Phase.Drained, if_pos (hd.link.trans hlink)]
      refine ⟨fun left hmem => ?_, ?_⟩
      · rcases mem_append.mp hmem with hmem | hmem
        · exact hlive left hmem
        · exact (hd.not_end _ hmem left).1 rfl
      rcases hd.written with ⟨rfl, hq⟩ | ⟨data, rfl, hq⟩ | ⟨rfl, -⟩
      · rwa [List.append_nil, hq]
      · exact hdrain.snoc (by simp) (by simpa [Obs.wroteBy] using hq)
      · exact hdrain.failed _
    · exact .stay_open (hφ.open_alive hlink) (by rwa [hd.link]) hd.not_end
  | @settle L L' obs t remote p hlink _ hd =>
    refine .stay_open (hφ.open_alive (by simp [hlink])) (by simp [hd.link, hlink]) ?_
    intro o ho
    rcases mem_append.mp ho with ho | ho
    · exact hd.not_end o ho
    · cases mem_singleton.mp ho
      simp
  | discard data hlink =>
    exact .stay_open (hφ.open_alive (by simp [hlink])) (by simp [hlink]) (by simp)
  | @read L data hlink =>
    by_cases hclosing : L.link = .closing
    · obtain ⟨hlive, hdrain⟩ := hφ.closing_alive hclosing
      rw [Phase.Drained, if_pos hclosing]
      exact ⟨by simpa using hlive, hdrain.snoc (by simp) rfl⟩
    · exact .stay_open (hφ.open_alive hclosing) hclosing (by simp)
  | forward hlink => exact .stay_open (hφ.open_alive (by simp [hlink])) (by simp [hlink]) (by simp)
  | retire hopen =>
    obtain ⟨hlive, hnot⟩ := hφ.open_alive hopen
    rw [Phase.Drained, if_pos rfl]
    exact ⟨by simpa using hlive, .start hnot⟩
  | destroy hopen => exact drains_of_not_closing (by simpa using (hφ.open_alive hopen).2)
  | @finish L o left hlink ho =>
    obtain ⟨hlive, hdrain⟩ := hφ.closing_alive hlink
    have hlast : Draining s [] (story ++ [o]) := by
      rcases ho with rfl | rfl
      · exact hdrain.snoc (by simp) (by simp [Obs.wroteBy])
      · exact hdrain.failed []
    have hlive' : ∀ left, .destroyed s left ∉ story ++ [o] := by
      rcases ho with rfl | rfl <;> simpa using hlive
    show Drains s (story ++ [o, .destroyed s left])
    simpa using hlast.drains hlive' left
  | abandon => exact absurd rfl (hkept _ (mem_singleton.mpr rfl))

lemma Drains.of_filter (h : Drains s (obs.filter (Obs.concerns s id))) : Drains s obs := by
  rintro pre left mid left' post rfl
  have hkeep : ∀ o : Obs, o.concerns s id = false → o.wroteBy s = none := by
    intro o ho
    cases o with
    | wrote s' data =>
      rw [Obs.wroteBy, if_neg]
      rintro rfl
      rw [Obs.concerns_of_socket rfl rfl] at ho
      cases ho
    | _ => rfl
  have hself : ∀ {o : Obs}, o.neutral = false → o.socket = some s → o.concerns s id = true :=
    Obs.concerns_of_socket
  have heq := h (pre.filter (Obs.concerns s id)) left (mid.filter (Obs.concerns s id)) left'
    (post.filter (Obs.concerns s id)) (by
      rw [filter_append, filter_cons_of_pos (hself rfl rfl), filter_append,
        filter_cons_of_pos (hself rfl rfl)])
  rw [written, collect_filter hkeep] at heq
  exact heq.imp_right fun hmem => (mem_filter.mp hmem).1

namespace Server

open Sockets (Act)

variable {σ τ : Server} {cfg : Config}

/-- The next event closes a closing socket a second time: its fd is at the end of the file, and
something is left to write, or `FDE_WRITE` was not reported. -/
def abandons (σ : Server) : Bool :=
  σ.socks.gPendingList.head?.any fun s =>
    (σ.socks.heap.get s).any fun a =>
      a.closing && (σ.wouldRead a).isEof && a.fde.any fun f => f.events.read &&
          (!f.events.write || (σ.socks.os.writes.headD .eagain).leaves a.packetQueue.size)

def patient (σ : Server) (i : Input) : Bool :=
  match i.callback with
  | .event => !(σ.withOs i.os).abandons
  | _ => true

lemma PendingAct.abandons (h : σ.PendingAct (.abandon s)) : σ.abandons = true := by
  obtain ⟨s', rest, a, f, hlist, hs', hf, hev, ⟨rfl, hc, heof⟩, hleft⟩ := h
  have hwrite : (!f.events.write ||
      (σ.socks.os.writes.headD .eagain).leaves a.packetQueue.size) = true := by
    cases hw : f.events.write with
    | false => rfl
    | true => simpa using hleft hc hw
  simp only [Server.abandons, hlist, List.head?_cons, Option.any_some, hs', hc, heof, hf, hev, hwrite,
    Bool.and_self]

lemma StepOutcome.not_abandon {i : Input} {l : List Act} (hC : patient σ i = true)
    (h : StepOutcome cfg i σ l τ) : .abandon s ∉ l := by
  intro hact
  cases h with
  | skipped => cases hact
  | moved h =>
    obtain ⟨hc, hp⟩ := h.pendingAct hact rfl
    rw [patient, hc] at hC
    simp [hp.abandons] at hC

/-- In every run in which no closing socket is closed a second time, every socket that is put on the
closing list is destroyed only after all that was queued has been written, or a write has failed. -/
theorem closing_drained {name : Bytes} {inputs : List Input}
    (hC : Meets (step cfg) (fun σ i => patient σ i = true) inputs (init name))
    (hrun : run cfg inputs (init name) = .ok τ) (s : Ptr) : Drains s τ.socks.trace := by
  have hevery := run_every (K := fun act => ∀ s, act ≠ .abandon s)
    (I := fun s _ story φ => φ.Drained s story) (fun s id => rfl)
    (fun J s id acts φ obs ψ story hK hstep hI => hstep.drained (fun act hact => hK act hact s) hI)
    (fun σ i l τ hC hτ act hact s h => hτ.not_abandon hC (h ▸ hact)) hC hrun
  rintro pre left mid left' post heq
  -- a socket of which something is seen has been made
  have hmem : .closing s left ∈ τ.socks.trace := by simp [heq]
  obtain ⟨id, hs⟩ := hevery.ids.socket _ hmem rfl s rfl
  have hstory : Drains s (τ.socks.story s id) := by
    have hdrained := hevery.holds s id hs
    cases hφ : τ.socks.phase s id with
    | unborn =>
      rw [hφ] at hdrained
      rw [show τ.socks.story s id = [] from hdrained]
      exact drains_of_not_closing (by simp)
    | alive L =>
      rw [hφ] at hdrained
      rintro pre left mid left' post heq
      exact absurd (by simp [heq]) (hdrained.1 left')
    | gone =>
      rw [hφ] at hdrained
      exact hdrained
  exact hstory.of_filter pre left mid left' post heq

/-- The fd of a service takes no data; the host closes the stream, and `poll` reports `revents` for
the fd. -/
def closedService (revents : Revents) (os : Os) : List Input :=
  [{ callback := .usbDevice [] [] true },
    { callback := .registration },
    { callback := .packet 0 (packetOf A_CNXN A_VERSION 4096 (ascii "host::")) },
    { callback := .packet 0 (packetOf A_OPEN 7 0 (ascii "tcp:1")), os := { service := true } },
    { callback := .packet 0 (packetOf A_WRTE 7 1 (ascii "data")) },
    { callback := .packet 0 (packetOf A_CLSE 7 1) },
    { callback := .poll [(0, revents)] },
    { callback := .event, os := os }]

/-- The fd becomes writable, and all is written before the socket is destroyed. -/
theorem closing_drained_written : ∃ τ, run { Config.adbd with authRequired := false }
        (closedService { pollout := true } { writes := [.wrote 4] }) (init []) = .ok τ ∧
      .destroyed 0 [] ∈ τ.socks.trace ∧ Drains 0 τ.socks.trace := by
  have htest : returns (run { Config.adbd with authRequired := false }
      (closedService { pollout := true } { writes := [.wrote 4] }) (init []))
      (fun τ => .destroyed 0 [] ∈ τ.socks.trace) = true := by decide
  obtain ⟨τ, hrun, hτ⟩ := returns_iff.mp htest
  exact ⟨τ, hrun, of_decide_eq_true hτ, closing_drained (by decide) hrun 0⟩

/-- The fd hangs up and is at its end: the socket is destroyed with all its data. -/
theorem closing_abandoned : ∃ τ pre mid post, run { Config.adbd with authRequired := false }
        (closedService { pollhup := true } { reads := [.eof] }) (init []) = .ok τ ∧
      τ.socks.trace =
        pre ++ .closing 0 (ascii "data") :: (mid ++ .destroyed 0 (ascii "data") :: post) ∧
      written 0 mid = [] ∧ .writeFailed 0 ∉ mid := by
  have htest : returns (run { Config.adbd with authRequired := false }
      (closedService { pollhup := true } { reads := [.eof] }) (init []))
      (fun τ => τ.socks.trace.drop (τ.socks.trace.length - 2) =
        [.closing 0 (ascii "data"), .destroyed 0 (ascii "data")]) = true := by decide
  obtain ⟨τ, hrun, hτ⟩ := returns_iff.mp htest
  refine ⟨τ, τ.socks.trace.take (τ.socks.trace.length - 2), [], [], hrun, ?_, rfl, by simp⟩
  have hsplit := take_append_drop (τ.socks.trace.length - 2) τ.socks.trace
  rw [of_decide_eq_true hτ] at hsplit
  exact hsplit.symm

end Server

end Adb
