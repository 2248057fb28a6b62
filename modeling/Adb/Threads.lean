import Adb.EventLoop

/-!
# The threads of a connection

`BlockingConnectionAdapter::Start` starts a reader, which hands every packet to a callback that queues
`handle_packet`, and a writer. Whichever fails first has the error callback called, which queues
`handle_offline` and `transport_unref`. A `Turn` is what one of the threads does next, in any order.
-/

namespace Adb

open Lib

def RunFn.callback : RunFn → Server.Callback
  | .packet t p => .packet t p
  | .error t => .error t

namespace Server

/-- The read callback of the connection of `t`: what it returns, and what it queues for the main
thread. -/
def readCallback (t : TPtr) (tr : ATransport) (p : APacket) : Bool × List RunFn :=
  if !checkHeader p tr then (false, []) else (true, [.packet t p])

/-- The reader thread, from what the successive calls of `Read` give: `none` for a failure, or
a packet together with `*t` as the callback finds it. The result of the callback is not looked
at. -/
def readThread (t : TPtr) : List (Option (APacket × ATransport)) → List RunFn
  | [] => []
  | none :: _ => [.error t]
  | some (p, tr) :: rest => (readCallback t tr p).2 ++ readThread t rest

def callErrorOnce (t : TPtr) (tr : ATransport) (c : Connection) (σ : Server) : Server :=
  { σ.setTransport t { tr with connection := { c with errorFlag := true } } with
    runQueue := if c.errorFlag then σ.runQueue else σ.runQueue ++ [.error t] }

def readTurn (t : TPtr) (r : Option APacket) (σ : Server) : Server :=
  match σ.transports.get t with
  | none => σ
  | some tr =>
    if tr.connection.reading then
      match r with
      | some p => { σ with runQueue := σ.runQueue ++ (readCallback t tr p).2 }
      | none => callErrorOnce t tr { tr.connection with readFailed := true } σ
    else σ

def writeFailedTurn (t : TPtr) (σ : Server) : Server :=
  match σ.transports.get t with
  | none => σ
  | some tr =>
    if tr.connection.started && !tr.connection.stopped then callErrorOnce t tr tr.connection σ
    else σ

def Callback.queued : Callback → Bool
  | .packet _ _ | .error _ => true
  | _ => false

inductive Turn
  /-- the main thread, or a thread that is not one of a connection -/
  | main (i : Input)
  /-- `fdevent_run_flush` comes to the next closure of the run queue -/
  | flush (os : Os)
  | read (t : TPtr) (r : Option APacket)
  | writeFailed (t : TPtr)
deriving DecidableEq

def Turn.input (turn : Turn) (σ : Server) : Option Input :=
  match turn with
  | .main i => if i.callback.queued then none else some i
  | .flush os =>
    if σ.socks.gPendingList.isEmpty then σ.runQueue.head?.map fun f => ⟨f.callback, os⟩ else none
  | .read _ _ | .writeFailed _ => none

def Turn.prepare (turn : Turn) (σ : Server) : Server :=
  match turn with
  | .main _ => σ
  | .flush _ => if σ.socks.gPendingList.isEmpty then { σ with runQueue := σ.runQueue.tail } else σ
  | .read t r => readTurn t r σ
  | .writeFailed t => writeFailedTurn t σ

def turnStep (cfg : Config) (turn : Turn) (σ : Server) : Res Server :=
  match turn.input σ with
  | none => pure (turn.prepare σ)
  | some i => step cfg i (turn.prepare σ)

end Server

end Adb
