import Adb.ListenerRuns

/-!
# Clients and the listener of the server

`handle_forward_request` lets clients add and remove listeners. The listener that the clients
themselves come to must not go: it is on the same list, and only its destination, `*smartsocket*`,
tells it from the others.
-/

namespace Adb

open Lib List

namespace Server

variable {σ τ : Server} {t : TPtr} {l x : AListener}

structure Holds (l : AListener) (σ : Server) : Prop where
  mem : l ∈ σ.listenerList
  nums : (σ.listenerList.map (·.num)).Nodup
  fresh : ∀ x ∈ σ.listenerList, x.num < σ.nextListener

namespace Holds

lemma ne_num (h : Holds l σ) (hx : x ∈ σ.listenerList) (hne : x ≠ l) : x.num ≠ l.num :=
  fun heq => hne (inj_on_of_nodup_map h.nums hx h.mem heq)

lemma congr (h : Holds l σ) (hlist : τ.listenerList = σ.listenerList)
    (hnext : τ.nextListener = σ.nextListener) : Holds l τ := by
  constructor
  · rw [hlist]
    exact h.mem
  · rw [hlist]
    exact h.nums
  · rw [hlist, hnext]
    exact h.fresh

lemma numbered (h : Holds l σ) : Numbered σ.listenerList σ.nextListener := ⟨h.nums, h.fresh⟩

lemma of_numbered (hmem : l ∈ σ.listenerList) (h : Numbered σ.listenerList σ.nextListener) :
    Holds l σ := ⟨hmem, h.nums, h.fresh⟩

lemma erase (h : Holds l σ) (hx : x.num ≠ l.num)
    (hlist : τ.listenerList = σ.listenerList.eraseP (·.num = x.num))
    (hnext : τ.nextListener = σ.nextListener) : Holds l τ := by
  apply of_numbered
  · rw [hlist]
    exact (mem_eraseP_of_neg (by simpa using Ne.symm hx)).mpr h.mem
  · rw [hlist, hnext]
    exact h.numbered.sublist eraseP_sublist

lemma update (h : Holds l σ) {f : AListener → AListener} (hf : ∀ y, (f y).num = y.num)
    (hl : f l = l) (hlist : τ.listenerList = σ.listenerList.map f)
    (hnext : τ.nextListener = σ.nextListener) : Holds l τ := by
  apply of_numbered
  · rw [hlist]
    exact mem_map.mpr ⟨l, h.mem, hl⟩
  · rw [hlist, hnext]
    exact h.numbered.map hf

lemma append (h : Holds l σ) {y : AListener} (hy : y.num = σ.nextListener)
    (hlist : τ.listenerList = σ.listenerList ++ [y])
    (hnext : τ.nextListener = σ.nextListener + 1) : Holds l τ := by
  apply of_numbered
  · rw [hlist]
    exact mem_append_left _ h.mem
  · rw [hlist, hnext]
    exact h.numbered.append hy

end Holds

lemma eraseListener_holds (h : Holds l σ) (hx : x.num ≠ l.num)
    (hτ : eraseListener x σ = .ok τ) : Holds l τ := by
  unfold eraseListener at hτ
  cases ht : x.transport with
  | none =>
    rw [ht] at hτ
    cases hτ
    exact h.erase hx rfl rfl
  | some t =>
    simp only [ht] at hτ
    obtain ⟨tr, htr, rfl⟩ := removeDisconnect_spec.of_ok hτ
    exact h.erase hx rfl rfl

lemma removeListener_holds {name : Bytes} {r : InstallStatus} (h : Holds l σ)
    (hname : name ≠ l.localName) (hτ : removeListener name σ = .ok (r, τ)) : Holds l τ := by
  unfold removeListener at hτ
  split at hτ
  · cases hτ
    exact h
  next x hfind =>
  obtain ⟨ρ, hρ, hret⟩ := bind_eq_ok.mp hτ
  cases hret
  have hxl : x ≠ l := by
    intro heq
    have hxname : x.localName = name := by simpa using List.find?_some hfind
    exact hname (heq ▸ hxname.symm)
  exact eraseListener_holds h (h.ne_num (mem_of_find?_eq_some hfind) hxl) hρ

lemma removeAllListeners_holds (h : Holds l σ) (hl : l.special = true)
    (hτ : removeAllListeners σ = .ok τ) : Holds l τ := by
  have hls : ∀ x ∈ σ.listenerList.filter (fun l => !l.special), x.num ≠ l.num := by
    intro x hx
    obtain ⟨hmem, hspecial⟩ := mem_filter.mp hx
    refine h.ne_num hmem ?_
    intro heq
    rw [heq, hl] at hspecial
    cases hspecial
  unfold removeAllListeners at hτ
  generalize σ.listenerList.filter (fun l => !l.special) = ls at hls hτ
  induction ls generalizing σ with
  | nil =>
    cases hτ
    exact h
  | cons y rest ih =>
    obtain ⟨ρ, hρ, hrest⟩ := bind_eq_ok.mp hτ
    exact ih (eraseListener_holds h (hls y (by simp)) hρ) (fun x hx => hls x (by simp [hx])) hrest

variable {noRebind : Bool}

lemma rebindListener_holds {connectTo : Bytes} {r : Installed}
    (h : Holds l σ) (hl : l.special = true) (hx : x ∈ σ.listenerList)
    (hτ : rebindListener x connectTo t noRebind σ = .ok (r, τ)) : Holds l τ := by
  unfold rebindListener at hτ
  split at hτ
  · cases hτ
    exact h
  next hspecial =>
  have hne : x.num ≠ l.num := by
    refine h.ne_num hx ?_
    intro heq
    exact hspecial (heq ▸ hl)
  split at hτ
  · cases hτ
    exact h
  have hupdate : ∀ y : AListener,
      (if y.num = x.num then { y with connectTo := connectTo, transport := some t } else y).num =
        y.num := by
    intro y
    split <;> rfl
  split at hτ
  · obtain ⟨old, hold, hτ⟩ := bind_eq_ok.mp hτ
    obtain ⟨ρ1, hρ1, hτ⟩ := bind_eq_ok.mp hτ
    obtain ⟨ρ, hρ, hret⟩ := bind_eq_ok.mp hτ
    cases hret
    obtain ⟨tro, htro, rfl⟩ := removeDisconnect_spec.of_ok hρ1
    obtain ⟨tr, htr, rfl⟩ := addDisconnect_spec.of_ok hρ
    exact h.update hupdate (if_neg (Ne.symm hne)) rfl rfl
  · cases hτ
    exact h.update hupdate (if_neg (Ne.symm hne)) rfl rfl

lemma installListener_holds {localName connectTo : Bytes} {r : Installed}
    (h : Holds l σ) (hl : l.special = true)
    (hτ : installListener localName connectTo t noRebind σ = .ok (r, τ)) : Holds l τ := by
  unfold installListener at hτ
  split at hτ
  · next x hfind => exact rebindListener_holds h hl (mem_of_find?_eq_some hfind) hτ
  split at hτ
  · cases hτ
    exact h
  obtain ⟨ρ, hρ, hret⟩ := bind_eq_ok.mp hτ
  cases hret
  obtain ⟨tr, htr, rfl⟩ := addDisconnect_spec.of_ok hρ
  exact h.append rfl rfl rfl

/-! ## Replies -/

lemma Holds.sendOkay (h : Holds l σ) (reply : Option Ptr) : Holds l (sendOkay reply σ) := by
  cases reply <;> exact h.congr rfl rfl

lemma Holds.sendFail (h : Holds l σ) (reply : Option Ptr) (reason : Bytes) :
    Holds l (sendFail reply reason σ) := by
  cases reply <;> exact h.congr rfl rfl

lemma Holds.sendProtocolString (h : Holds l σ) (reply : Option Ptr) (text : Bytes) :
    Holds l (sendProtocolString reply text σ) := by
  cases reply <;> exact h.congr rfl rfl

lemma Holds.forwardReply (h : Holds l σ) (cfg : Config) (service : Bytes) (r : Installed)
    (reply : Option Ptr) : Holds l (forwardReply cfg service r reply σ) := by
  unfold Server.forwardReply
  split
  · have hokay : Holds l (Server.sendOkay reply (if cfg.host then Server.sendOkay reply σ else σ)) := by
      apply Holds.sendOkay
      split
      · exact h.sendOkay reply
      · exact h
    dsimp only
    split
    · exact hokay.sendProtocolString reply _
    · exact hokay
  · exact h.sendFail reply _

/-! ## Requests -/

/-- A request that `handle_forward_request` gets, with the transport that is acquired for it or the
error, and what `socket_spec_listen` does. -/
structure ForwardRequest where
  service : Bytes
  transport : Option TPtr × Bytes
  reply : Option Ptr := none
  listen : Except Bytes ℕ := .error []

def forwardStep (cfg : Config) (r : ForwardRequest) (σ : Server) : Res Server := do
  let (_, σ) ← handleForwardRequest cfg r.service (fun _ => r.transport) r.reply
    (σ.withListen r.listen)
  pure σ

def killedName (service : Bytes) : Option Bytes :=
  if (ascii "killforward:").isPrefixOf service then
    match (service.drop 12).splitOn 59 with
    | [name] => some name
    | _ => none
  else
    none

/-- The request gets a transport, and is to remove the listener with the name of `l`. -/
def ForwardRequest.kills (l : AListener) (r : ForwardRequest) : Bool :=
  r.transport.1.isSome && killedName r.service = some l.localName

variable {cfg : Config} {service : Bytes} {reply : Option Ptr}

lemma killForward_holds (h : Holds l σ)
    (hname : ∀ name, service.splitOn 59 = [name] → name ≠ l.localName)
    (hτ : killForward cfg service reply σ = .ok τ) : Holds l τ := by
  unfold killForward at hτ
  split at hτ
  · next name hsplit =>
    split at hτ
    · cases hτ
      exact h.sendFail reply _
    obtain ⟨⟨r, ρ⟩, hρ, hret⟩ := bind_eq_ok.mp hτ
    cases hret
    exact (removeListener_holds h (hname name hsplit) hρ).forwardReply cfg _ _ reply
  · cases hτ
    exact h.sendFail reply _

lemma forward_holds (h : Holds l σ) (hl : l.special = true)
    (hτ : forward cfg service noRebind t reply σ = .ok τ) : Holds l τ := by
  unfold forward at hτ
  split at hτ
  · split at hτ
    · cases hτ
      exact h.sendFail reply _
    obtain ⟨⟨r, ρ⟩, hρ, hret⟩ := bind_eq_ok.mp hτ
    cases hret
    exact (installListener_holds h hl hρ).forwardReply cfg _ _ reply
  · cases hτ
    exact h.sendFail reply _

lemma handleForwardRequest_holds {answer : Option TPtr × Bytes} {b : Bool} (h : Holds l σ)
    (hl : l.special = true) (hname : answer.1.isSome = true → killedName service ≠ some l.localName)
    (hτ : handleForwardRequest cfg service (fun _ => answer) reply σ = .ok (b, τ)) : Holds l τ := by
  unfold handleForwardRequest at hτ
  split at hτ
  · -- `list-forward`
    obtain ⟨listeners, -, hret⟩ := bind_eq_ok.mp hτ
    cases hret
    apply Holds.sendProtocolString
    split
    · exact h.sendOkay reply
    · exact h
  split at hτ
  · -- `killforward-all`
    obtain ⟨ρ, hρ, hret⟩ := bind_eq_ok.mp hτ
    cases hret
    have hρ := removeAllListeners_holds h hl hρ
    apply Holds.sendOkay
    split
    · exact hρ.sendOkay reply
    · exact hρ
  split at hτ
  · split at hτ
    · cases hτ
      exact h.sendFail reply _
    next t error hanswer =>
    have hanswer : answer = (some t, error) := hanswer
    have hname := hname (by rw [hanswer]; rfl)
    split at hτ
    · next hkill =>
      obtain ⟨ρ, hρ, hret⟩ := bind_eq_ok.mp hτ
      cases hret
      refine killForward_holds h ?_ hρ
      intro name hsplit heq
      apply hname
      rw [killedName, if_pos hkill, hsplit, heq]
    · split at hτ
      · obtain ⟨ρ, hρ, hret⟩ := bind_eq_ok.mp hτ
        cases hret
        exact forward_holds h hl hρ
      · obtain ⟨ρ, hρ, hret⟩ := bind_eq_ok.mp hτ
        cases hret
        exact forward_holds h hl hρ
  · cases hτ
    exact h

lemma forwardStep_holds {r : ForwardRequest} (h : Holds l σ)
    (hl : l.special = true) (hkills : r.kills l = false) (hτ : forwardStep cfg r σ = .ok τ) :
    Holds l τ := by
  obtain ⟨⟨b, ρ⟩, hρ, hret⟩ := bind_eq_ok.mp hτ
  cases hret
  have hlisten : Holds l (σ.withListen r.listen) := h.congr rfl rfl
  refine handleForwardRequest_holds hlisten hl ?_ hρ
  intro hsome heq
  simp [ForwardRequest.kills, hsome, heq] at hkills

/-- The listener for the smart sockets stays, as long as no request is to kill it by its name. -/
theorem smartsocket_kept (cfg : Config) (h : Holds l σ) (hl : l.connectTo = ascii "*smartsocket*")
    {requests : List ForwardRequest} (hkills : ∀ r ∈ requests, r.kills l = false)
    (hrun : runs (forwardStep cfg) requests σ = .ok τ) : l ∈ τ.listenerList := by
  have hspecial : l.special = true := by
    rw [AListener.special, hl]
    rfl
  suffices hτ : Holds l τ from hτ.mem
  induction requests generalizing σ with
  | nil =>
    cases hrun
    exact h
  | cons r rest ih =>
    obtain ⟨ρ, hρ, hrest⟩ := runs_cons.mp hrun
    have hρ := forwardStep_holds h hspecial (hkills r (by simp)) hρ
    exact ih hρ (fun r hr => hkills r (by simp [hr])) hrest

def oneDevice : Server :=
  { init (ascii "tcp:5037") with
    transports := Store.empty.alloc { connectionState := .kCsDevice } }

/-- Forwards come and go, and a client asks for port 5037. -/
theorem smartsocket_kept_forwards : ∃ τ, runs (forwardStep { host := true })
        [{ service := ascii "forward:tcp:6100;tcp:1", transport := (some 0, []), listen := .ok 0 },
          { service := ascii "forward:tcp:5037;tcp:1", transport := (some 0, []), listen := .ok 0 },
          { service := ascii "killforward:tcp:6100", transport := (some 0, []) },
          { service := ascii "killforward-all", transport := (none, []) }]
        oneDevice = .ok τ ∧
      { num := 0, func := .ssListenerEventFunc, localName := ascii "tcp:5037",
        connectTo := ascii "*smartsocket*" } ∈ τ.listenerList := by
  have htest : returns (runs (forwardStep { host := true })
        [{ service := ascii "forward:tcp:6100;tcp:1", transport := (some 0, []), listen := .ok 0 },
          { service := ascii "forward:tcp:5037;tcp:1", transport := (some 0, []), listen := .ok 0 },
          { service := ascii "killforward:tcp:6100", transport := (some 0, []) },
          { service := ascii "killforward-all", transport := (none, []) }]
        oneDevice) (fun _ => true) = true := by
    decide
  obtain ⟨τ, hrun, -⟩ := returns_iff.mp htest
  refine ⟨τ, hrun, smartsocket_kept { host := true } ?_ rfl (by decide) hrun⟩
  exact { mem := by simp [oneDevice, init], nums := by decide, fresh := by decide }

/-- One request takes the listener of the server away: `remove_listener` does not look at the
destination. -/
theorem smartsocket_killed : ∃ τ, runs (forwardStep { host := true })
        [{ service := ascii "killforward:tcp:5037", transport := (some 0, []) }] oneDevice = .ok τ ∧
      ¬ ∃ l ∈ τ.listenerList, l.connectTo = ascii "*smartsocket*" := by
  have htest : returns (runs (forwardStep { host := true })
      [{ service := ascii "killforward:tcp:5037", transport := (some 0, []) }] oneDevice)
      (fun τ => τ.listenerList = []) = true := by
    decide
  obtain ⟨τ, hrun, hempty⟩ := returns_iff.mp htest
  refine ⟨τ, hrun, ?_⟩
  rw [of_decide_eq_true hempty]
  simp

end Server

end Adb
