import Adb.Effects

/-!
# The life of a local socket

What can happen to one local socket, whatever the others do. `Phase.Step` lists the steps of its
life with the observations that belong to them and their labels; that the sockets of the program
take no others is shown in `LifeTheorems`.
-/

namespace Adb

/-- What a local socket is connected to. -/
inductive Link
  /-- a smart socket, which waits for a request -/
  | smart
  /-- a local socket or a device tracker -/
  | inner
  /-- nothing: the other side has been asked to open a stream -/
  | waiting
  /-- the socket `remote` of the other side, on the transport `t` -/
  | joined (t : Option TPtr) (remote : UInt32)
  /-- nothing: the socket is on the closing list -/
  | closing
deriving DecidableEq, Repr

@[ext] structure Life where
  link : Link
  /-- what is queued for its fd -/
  queue : Bytes
  reading : Bool
  writing : Bool
deriving DecidableEq, Repr

inductive Phase
  | unborn
  | alive (L : Life)
  | gone
deriving DecidableEq, Repr

namespace Sockets

def Act.stream : Act → Option Ptr
  | .accept s _ _ _ | .connect s _ _ _ | .ready s | .deliver s _ _ | .inject s | .discard s _
  | .unasked s | .abandon s => some s
  | .note _ | .alarm _ => none

def about (s : Ptr) (l : List Act) : List Act := l.filter (·.stream == some s)

end Sockets

open Sockets (Act IsPacket)

namespace Life

variable {s : Ptr} {L L' : Life} {obs : List Obs}

/-- One attempt to write out the queue. -/
structure Flush (s : Ptr) (L L' : Life) (obs : List Obs) : Prop where
  link : L'.link = L.link
  reading : L'.reading = L.reading
  written : obs = [] ∧ L'.queue = L.queue ∨
    (∃ data, obs = [.wrote s data] ∧ data ++ L'.queue = L.queue) ∨
    obs = [.writeFailed s] ∧ L'.queue = L.queue
  done : L'.writing = false ↔ L'.queue = [] ∨ obs = [.writeFailed s]

end Life

namespace Phase

/-- One step in the life of the socket `s` with the id `id`. A remote end is only given to it on a
transport that `J` allows. -/
inductive Step (J : TPtr → Prop) (s : Ptr) (id : UInt32) :
    List Act → Phase → List Obs → Phase → Prop
  | wait (acts : List Act) : Step J s id acts .unborn [] .unborn
  | same {φ} : Step J s id [] φ [] φ
  /-- a client is connected to a smart socket -/
  | client : Step J s id [] .unborn [.created s id] (.alive ⟨.smart, [], true, false⟩)
  /-- a service of the host is connected to a client -/
  | service : Step J s id [] .unborn [.created s id] (.alive ⟨.inner, [], true, false⟩)
  /-- a client is connected to a forwarded port -/
  | dial {t p} (hp : IsPacket p A_OPEN id 0) :
      Step J s id [] .unborn [.created s id, .sent t p, .opened s id]
        (.alive ⟨.waiting, [], false, false⟩)
  | accept {t p remote} (hj : J t) (hp : IsPacket p A_OKAY id remote) :
      Step J s id [.accept s id remote t] .unborn
        [.created s id, .accepted s id remote, .sent t p, .readied s]
        (.alive ⟨.joined (some t) remote, [], true, false⟩)
  /-- the interest in reading is changed for a peer that is not remote -/
  | interest {L} (b : Bool) (hlink : L.link = .smart ∨ L.link = .inner) :
      Step J s id [] (.alive L) [] (.alive { L with reading := b })
  | ready {L} (hwaiting : L.link ≠ .waiting) (hclosing : L.link ≠ .closing) :
      Step J s id [.ready s] (.alive L) [.readied s] (.alive { L with reading := true })
  /-- the client gets a service of the host or a device tracker -/
  | engage {L} (hlink : L.link = .smart) :
      Step J s id [] (.alive L) [] (.alive { L with link := .inner })
  /-- the client asks for a service of the device -/
  | request {L t p} (hlink : L.link = .smart) (hp : IsPacket p A_OPEN id 0) :
      Step J s id [] (.alive L) [.sent t p, .opened s id]
        (.alive { L with link := .waiting, reading := false })
  | connect {L t remote} (hlink : L.link = .waiting) (hj : J t) :
      Step J s id [.connect s id remote t] (.alive L) [.readied s]
        (.alive { L with link := .joined (some t) remote, reading := true })
  /-- the peer, which is not remote, has data -/
  | enqueue {L L' data obs acts} (hlink : L.link = .inner) (hacts : acts = [] ∨ acts = [.inject s])
      (hd : Life.Flush s { L with queue := L.queue ++ data } L' obs) :
      Step J s id acts (.alive L) (.enqueued s data :: obs) (.alive L')
  /-- an `A_OKAY` that is not for the other side -/
  | echo {L t p arg1} (hlink : L.link = .inner) (hp : IsPacket p A_OKAY id arg1) :
      Step J s id [.inject s] (.alive L) [.sent t p] (.alive L)
  /-- data comes from the other side -/
  | deliver {L L' remote data obs ack u t} (hlink : L.link = .joined u remote)
      (hd : Life.Flush s { L with queue := L.queue ++ data } L' obs)
      (hack : L'.writing = true ∧ ack = [] ∨
        L'.writing = false ∧ ∃ p, ack = [.sent t p] ∧ IsPacket p A_OKAY id remote) :
      Step J s id [.deliver s t data] (.alive L) (.enqueued s data :: (obs ++ ack)) (.alive L')
  /-- some of the queue is written -/
  | drain {L L' obs} (hw : L.writing = true) (hd : Life.Flush s L L' obs)
      (hleft : L'.writing = true ∨ L.link = .inner) :
      Step J s id [] (.alive L) obs (.alive L')
  /-- the rest of the queue is written, and the other side is told -/
  | settle {L L' obs t remote p} (hlink : L.link = .joined (some t) remote)
      (hw : L.writing = true) (hd : Life.Flush s L L' obs) (hdone : L'.writing = false)
      (hp : IsPacket p A_OKAY id remote) :
      Step J s id [] (.alive L) (obs ++ [.sent t p]) (.alive L')
  | read {L} (data : Bytes) (hlink : L.link = .smart ∨ L.link = .inner ∨ L.link = .closing) :
      Step J s id [] (.alive L) [.read s data] (.alive L)
  /-- data is read before the other side has answered, and lost -/
  | discard {L} (data : Bytes) (hlink : L.link = .waiting) :
      Step J s id [.discard s data] (.alive L) [.read s data] (.alive L)
  /-- data is read and sent to the other side -/
  | forward {L t remote p} (hlink : L.link = .joined (some t) remote)
      (hp : IsPacket p A_WRTE id remote) :
      Step J s id (if L.reading then [] else [.unasked s]) (.alive L)
        [.read s p.payload, .sent t p] (.alive { L with reading := false })
  | retire {L} (hopen : L.link ≠ .closing) :
      Step J s id [] (.alive L) [.closing s L.queue]
        (.alive { L with link := .closing, reading := false })
  | destroy {L} (hopen : L.link ≠ .closing) :
      Step J s id [] (.alive L) [.destroyed s L.queue] .gone
  /-- a closing socket writes the rest of its queue, or cannot write any more -/
  | finish {L o left} (hlink : L.link = .closing)
      (ho : o = .wrote s L.queue ∨ o = .writeFailed s) :
      Step J s id [] (.alive L) [o, .destroyed s left] .gone
  | abandon {L} (hlink : L.link = .closing) :
      Step J s id [.abandon s] (.alive L) [.destroyed s L.queue] .gone

inductive Steps (J : TPtr → Prop) (s : Ptr) (id : UInt32) :
    List Act → Phase → List Obs → Phase → Prop
  | refl {φ} : Steps J s id [] φ [] φ
  | tail {l l' φ ψ χ obs obs'} (h : Steps J s id l φ obs ψ) (h' : Step J s id l' ψ obs' χ) :
      Steps J s id (l ++ l') φ (obs ++ obs') χ

variable {J : TPtr → Prop} {s : Ptr} {id : UInt32} {l : List Act} {φ ψ : Phase} {obs : List Obs}

lemma Steps.single (h : Step J s id l φ obs ψ) : Steps J s id l φ obs ψ := by
  simpa using Steps.refl.tail h

lemma Steps.invariant {I : List Obs → Phase → Prop} {C : Act → Prop} {story : List Obs}
    (hstep : ∀ acts φ obs ψ story, (∀ act ∈ acts, C act) → Step J s id acts φ obs ψ →
      I story φ → I (story ++ obs) ψ)
    (h : Steps J s id l φ obs ψ) (hC : ∀ act ∈ l, C act) (hI : I story φ) : I (story ++ obs) ψ := by
  induction h with
  | refl => simpa using hI
  | @tail l l' φ ψ χ obs obs' h h' ih =>
    have hψ := ih (fun act hact => hC act (by simp [hact])) hI
    have hχ := hstep l' ψ obs' χ _ (fun act hact => hC act (by simp [hact])) h' hψ
    rwa [List.append_assoc] at hχ

end Phase

/-! ## The sockets of a state -/

def ASocket.asPeer (b : ASocket) : Link :=
  match b.enqueue with
  | .remoteSocketEnqueue => .joined b.transport b.id
  | .smartSocketEnqueue => .smart
  | .localSocketEnqueue | .deviceTrackerEnqueue => .inner

def linkTo (heap : Lib.Store ASocket) (r : Ptr) : Link :=
  match heap.get r with
  | none => .inner
  | some b => b.asPeer

namespace ASocket

def linkIn (heap : Lib.Store ASocket) (a : ASocket) : Link :=
  if a.closing then .closing
  else
    match a.peer with
    | none => .waiting
    | some r => linkTo heap r

def lifeIn (heap : Lib.Store ASocket) (a : ASocket) : Life where
  link := a.linkIn heap
  queue := a.queued
  reading := a.wantsRead
  writing := a.wantsWrite

end ASocket

def Obs.sender : Obs → Option UInt32
  | .sent _ p => some p.msg.arg0
  | _ => none

/-- The observation belongs to the life of the socket `s` with the id `id`. -/
def Obs.concerns (s : Ptr) (id : UInt32) (o : Obs) : Bool :=
  !o.neutral && (o.socket == some s || o.sender == some id)

namespace Sockets

/-- Where the socket `s` with the id `id` is in its life. -/
def phase (s : Ptr) (id : UInt32) (σ : Sockets) : Phase :=
  if .created s id ∈ σ.trace then
    match σ.heap.get s with
    | some a => .alive (a.lifeIn σ.heap)
    | none => .gone
  else .unborn

/-- What is seen of the socket `s` with the id `id`. -/
def story (s : Ptr) (id : UInt32) (σ : Sockets) : List Obs := σ.trace.filter (Obs.concerns s id)

end Sockets

end Adb
