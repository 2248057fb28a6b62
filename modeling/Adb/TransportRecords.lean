import Adb.Notes

/-!
# What a step does to the record of a transport

A property of transports has to be looked at for the few ways in which a callback changes the
connection state or the online flag of a transport; `Change` lists them.
-/

namespace Adb

open Lib

namespace Server

open Sockets (Act)

variable {σ τ : Server} {cfg : Config} {c : Callback} {l : List Act} {t u : TPtr}
  {tr tr' : ATransport}

def Callback.Connects (t : TPtr) (c : Callback) : Prop :=
  ∃ p, c = .packet t p ∧ p.msg.command = A_CNXN

lemma not_connects_of_ne (h : ∀ t p, c ≠ .packet t p) : ¬ c.Connects u := by
  rintro ⟨p, hc, -⟩
  exact h u p hc

variable {p : APacket}

lemma not_connects_packet (h : p.msg.command ≠ A_CNXN) : ¬ (Callback.packet t p).Connects u := by
  rintro ⟨q, hc, hq⟩
  cases hc
  exact h hq

lemma not_connects_other (h : u ≠ t) : ¬ (Callback.packet t p).Connects u := by
  rintro ⟨q, hc, -⟩
  cases hc
  exact h rfl

lemma ne_cnxn_of_auth (hp : p.msg.command = A_AUTH) : p.msg.command ≠ A_CNXN := by
  rw [hp]
  decide

/-- How a callback changes the connection state and the online flag of `t`, its limit, and what
handshakes leave in it. -/
inductive Change (cfg : Config) (c : Callback) (σ τ : Server) (l : List Act) (t : TPtr)
    (tr tr' : ATransport) : Prop
  | same (hc : ¬ c.Connects t) (hst : tr'.connectionState = tr.connectionState)
      (hon : tr'.online = tr.online) (hmax : tr'.maxPayload = tr.maxPayload)
      (hterms : tr'.terms = tr.terms)
  | cnxn {p : APacket} (hc : c = .packet t p) (hp : p.msg.command = A_CNXN)
      (hrec : CnxnRecord cfg p tr tr')
      (hclear : tr.connectionState ≠ .kCsOffline → Sockets.Clear t τ.socks)
  /-- nothing is closed when the state is set to offline -/
  | authUnknown {p : APacket} (hc : c = .packet t p) (hp : p.msg.command = A_AUTH)
      (hunknown : unknownAuth cfg p = true) (hst : tr'.connectionState = .kCsOffline)
      (hon : tr'.online = tr.online) (hmax : tr'.maxPayload = tr.maxPayload)
      (hheap : τ.socks.heap = σ.socks.heap) (hlisteners : τ.listenerList = σ.listenerList)
      (hterms : tr'.terms = tr.terms)
  | authToken {p : APacket} (hc : ¬ c.Connects t) (hhost : cfg.host = true)
      (hrec : TokenRecord σ tr tr') (hpacket : c = .packet t p) (hp : p.msg.command = A_AUTH)
      (harg : p.msg.arg0 = ADB_AUTH_TOKEN)
  | verified (h : Verifies cfg σ t tr c) (hl : .note (.verified t) ∈ l)
      (hst : tr'.connectionState = tr.connectionState) (hon : tr'.online = true)
      (hmax : tr'.maxPayload = tr.maxPayload) (hterms : tr'.terms = tr.terms)
  | offline (hc : c = .error t) (hst : tr'.connectionState = .kCsOffline)
      (hon : tr'.online = false) (hmax : tr'.maxPayload = tr.maxPayload)
      (hclear : Sockets.Clear t τ.socks) (hlisteners : ∀ x ∈ τ.listenerList, x.transport ≠ some t)
      (hterms : tr'.terms = tr.terms)

lemma Verifies.not_connects (h : Verifies cfg σ t tr c) : ¬ c.Connects u := by
  cases h with
  | signature _ hp => exact not_connects_packet (ne_cnxn_of_auth hp)
  | framework => exact not_connects_of_ne (by simp)

private lemma change_of_same (hc : ¬ c.Connects t)
    (h : SameTransports σ.transports τ.transports) (htr' : τ.transports.get t = some tr') :
    ∃ tr, σ.transports.get t = some tr ∧ Change cfg c σ τ l t tr tr' := by
  obtain ⟨tr, htr, hal⟩ := h.back t tr' htr'
  exact ⟨tr, htr, .same hc hal.connectionState hal.online hal.maxPayload hal.terms⟩

private lemma change_of_affects {ρ : Server} (hρ : ρ.transports = σ.transports)
    (h : Affects t l ρ τ) {m : List Act} (htr : σ.transports.get t = some tr)
    (htr' : τ.transports.get t = some tr') (hchange : Change cfg c σ τ m t tr tr')
    (hc : u ≠ t → ¬ c.Connects u) {ur : ATransport} (hur : τ.transports.get u = some ur) :
    ∃ ur0, σ.transports.get u = some ur0 ∧ Change cfg c σ τ m u ur0 ur := by
  by_cases hut : u = t
  · subst hut
    rw [htr'] at hur
    cases hur
    exact ⟨tr, htr, hchange⟩
  · rw [h.others u hut, hρ] at hur
    exact ⟨ur, hur, .same (hc hut) rfl rfl rfl rfl⟩

lemma Moves.change (h : Moves cfg c σ l τ) (hu : τ.transports.get u = some tr') :
    (∃ tr, σ.transports.get u = some tr ∧ Change cfg c σ τ l u tr tr') ∨
      ¬ c.Connects u ∧ σ.transports.next ≤ u ∧ tr'.New := by
  have hordinary {m : List Act} (h : Ordinary m σ τ) (hc : ¬ c.Connects u) :
      (∃ tr, σ.transports.get u = some tr ∧ Change cfg c σ τ l u tr tr') ∨
        ¬ c.Connects u ∧ σ.transports.next ≤ u ∧ tr'.New := by
    rcases h.transports u tr' hu with ⟨tr, htr, hal⟩ | hnew
    · exact .inl ⟨tr, htr, .same hc hal.connectionState hal.online hal.maxPayload hal.terms⟩
    · exact .inr ⟨hc, hnew⟩
  cases h with
  | stream hcnxn _ h => exact hordinary h (not_connects_packet hcnxn)
  | event h => exact hordinary h (not_connects_of_ne (by simp))
  | poll h => exact hordinary h (not_connects_of_ne (by simp))
  | serve hc h => exact hordinary h (not_connects_of_ne hc)
  | cnxn hp htr h htr' hrec hclear =>
    exact .inl (change_of_affects (σ := σ) rfl h.toAffects htr htr' (.cnxn rfl hp hrec hclear)
      not_connects_other hu)
  | @authUnknown t p _ tr hp hunknown htr =>
    have hset : Quiet t [] (σ.emit (.handled t p)) ((σ.emit (.handled t p)).setTransport t
        { tr with connectionState := .kCsOffline }) := .setTransport htr fun _ hd => hd
    exact .inl (change_of_affects (σ := σ) (ρ := σ.emit (.handled t p)) rfl hset.toAffects htr
      (get_setTransport_self htr _) (.authUnknown rfl hp hunknown rfl rfl rfl rfl rfl rfl)
      not_connects_other hu)
  | authToken hp hhost htr h htr' hrec harg =>
    exact .inl (change_of_affects (σ := σ) rfl h.toAffects htr htr'
      (.authToken (not_connects_packet (ne_cnxn_of_auth hp)) hhost hrec rfl hp harg)
      not_connects_other hu)
  | @authSignature t p _ _ _ tr hp hhost harg htr h =>
    cases h with
    | verified hkey h htr' hst hon _ hmax hterms =>
      exact .inl (change_of_affects (σ := σ) (ρ := σ.emit (.handled t p)) rfl h.toAffects htr htr'
        (.verified (.signature hhost hp harg hkey) (by simp) hst hon hmax hterms)
        not_connects_other hu)
    | refused _ h htr' hal =>
      exact .inl (change_of_affects (σ := σ) (ρ := σ.emit (.handled t p)) rfl h.toAffects htr htr'
        (.same (not_connects_packet (ne_cnxn_of_auth hp)) hal.connectionState hal.online
          hal.maxPayload hal.terms) not_connects_other hu)
  | authKey hp _ _ h =>
    exact .inl (change_of_same (σ := σ) (not_connects_packet (ne_cnxn_of_auth hp)) h.transports hu)
  | @error t _ σ1 _ tr tr1 htr hoff htr1 h =>
    obtain ⟨tr2, htr2, hst2, hon2, -, hmax2, hterms2⟩ := h.record
    have hc : ¬ (Callback.error t).Connects u := not_connects_of_ne (by simp)
    refine .inl (change_of_affects (σ := σ) rfl (hoff.quiet.toAffects.trans h.toAffects) htr htr2 ?_
      (fun _ => hc) hu)
    cases hoff with
    | already _ =>
      rw [htr] at htr1
      cases htr1
      exact .same (not_connects_of_ne (by simp)) hst2 hon2 hmax2 hterms2
    | cleared hst hq htr' hclear hlisteners =>
      rw [htr'] at htr1
      cases htr1
      exact .offline rfl hst2 hon2 hmax2 (h.sockets ▸ hclear)
        (fun x hx => hlisteners x (h.listeners x hx)) hterms2
  | frameworkConnect _ h =>
    exact .inl (change_of_same (not_connects_of_ne (by simp)) h.transports hu)
  | @frameworkReply response _ _ _ hhost h =>
    have hc : ∀ t p, Callback.frameworkReply response ≠ .packet t p := by simp
    cases h with
    | closed => exact .inl ⟨tr', hu, .same (not_connects_of_ne hc) rfl rfl rfl rfl⟩
    | nobody => exact .inl ⟨tr', hu, .same (not_connects_of_ne hc) rfl rfl rfl rfl⟩
    | approved hreply hwaits htr h htr' =>
      exact .inl (change_of_affects (σ := σ) rfl h.toAffects htr htr'
        (.verified (.framework hhost hreply hwaits) (by simp) rfl rfl rfl rfl)
        (fun _ => not_connects_of_ne hc) hu)
    | other => exact .inl ⟨tr', hu, .same (not_connects_of_ne hc) rfl rfl rfl rfl⟩
  | @register t _ _ _ _ rest hmsg htr h htr' hrec =>
    exact .inl (change_of_affects (σ := σ) (ρ := { σ with registration := rest }) rfl h.toAffects
      htr htr' (.same (not_connects_of_ne (by simp)) hrec.state hrec.online hrec.maxPayload hrec.terms)
      (fun _ => not_connects_of_ne (by simp)) hu)
  | @remove t _ _ rest hmsg h htr =>
    by_cases hut : u = t
    · subst hut
      rw [htr] at hu
      cases hu
    · rw [h.others u hut] at hu
      exact .inl ⟨tr', hu, .same (not_connects_of_ne (by simp)) rfl rfl rfl rfl⟩

lemma Moves.listeners (h : Moves cfg c σ l τ) {x : AListener} (hx : x ∈ τ.listenerList)
    (hxt : x.transport = some t) : σ.Attachable t := by
  have hkept (hx : x ∈ σ.listenerList) : σ.Attachable t := .inr ⟨x, hx, hxt⟩
  cases h with
  | stream _ _ h => exact h.listeners x hx t hxt
  | event h => exact h.listeners x hx t hxt
  | poll h => exact h.listeners x hx t hxt
  | serve _ h => exact h.listeners x hx t hxt
  | cnxn _ _ h => exact hkept (h.listeners x hx)
  | authUnknown => exact hkept hx
  | authToken _ _ _ h => exact hkept (h.listeners x hx)
  | authSignature _ _ _ _ h =>
    cases h with
    | verified _ h => exact hkept (h.listeners x hx)
    | refused _ h => exact hkept (h.listeners x hx)
  | authKey _ _ _ h => exact hkept (h.listeners x hx)
  | error _ hoff _ h => exact hkept (hoff.quiet.listeners x (h.listeners x hx))
  | frameworkConnect _ h => exact hkept (h.listeners x hx)
  | frameworkReply _ h =>
    cases h with
    | closed => exact hkept hx
    | nobody => exact hkept hx
    | approved _ _ _ h => exact hkept (h.listeners x hx)
    | other => exact hkept hx
  | register _ _ h => exact hkept (h.listeners x hx)
  | remove _ h => exact hkept (h.listeners x hx)

lemma Moves.next_le (h : Moves cfg c σ l τ) : σ.transports.next ≤ τ.transports.next := by
  cases h with
  | stream _ _ h => exact h.next
  | event h => exact h.next
  | poll h => exact h.next
  | serve _ h => exact h.next
  | cnxn _ _ h => exact h.next.ge
  | authUnknown => exact Nat.le_refl _
  | authToken _ _ _ h => exact h.next.ge
  | authSignature _ _ _ _ h =>
    cases h with
    | verified _ h => exact h.next.ge
    | refused _ h => exact h.next.ge
  | authKey _ _ _ h => exact h.next.ge
  | error _ hoff _ h => exact (h.next.trans hoff.quiet.next).ge
  | frameworkConnect _ h => exact h.next.ge
  | frameworkReply _ h =>
    cases h with
    | closed => exact Nat.le_refl _
    | nobody => exact Nat.le_refl _
    | approved _ _ _ h => exact h.next.ge
    | other => exact Nat.le_refl _
  | register _ _ h => exact h.next.ge
  | remove _ h => exact h.next.ge

end Server

end Adb
