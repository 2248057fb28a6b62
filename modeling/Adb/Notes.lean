import Adb.StepTheorems

/-!
# What is noted in a run

The observations that are not about sockets can be read off `Moves`: what a callback notes, and
when.
-/

namespace Adb

open Lib List

namespace Server

open Sockets (Act notes)

variable {σ τ : Server} {cfg : Config} {c : Callback} {l : List Act}

/-- The callback finds that the host on `t` is entitled to connect. -/
inductive Verifies (cfg : Config) (σ : Server) (t : TPtr) (tr : ATransport) : Callback → Prop
  | signature {p : APacket} (hhost : cfg.host = false) (hp : p.msg.command = A_AUTH)
      (harg : p.msg.arg0 = ADB_AUTH_SIGNATURE)
      (hkey : adbdAuthVerify cfg tr.token p.payload σ = true) : Verifies cfg σ t tr (.packet t p)
  | framework {response : Bytes} (hhost : cfg.host = false)
      (hreply : response.take 2 = ascii "OK") (hwaits : σ.usbTransport = some t) :
      Verifies cfg σ t tr (.frameworkReply response)

inductive Noted (cfg : Config) (c : Callback) (σ : Server) : Obs → Prop
  | handled {t : TPtr} {p : APacket} (hc : c = .packet t p) : Noted cfg c σ (.handled t p)
  | verified {t : TPtr} {tr : ATransport} (htr : σ.transports.get t = some tr)
      (h : Verifies cfg σ t tr c) : Noted cfg c σ (.verified t)
  | forwarded {t : TPtr} {p : APacket} (hc : c = .packet t p) (hp : p.msg.command = A_AUTH)
      (harg : p.msg.arg0 = ADB_AUTH_RSAPUBLICKEY) (hkey : forwards p.payload σ = true) :
      Noted cfg c σ (.forwarded t (cString p.payload))
  | frameworkOk : Noted cfg c σ .frameworkOk
  | deleted {t : TPtr} {rest : List TMsg} (hmsg : σ.registration = .remove t :: rest) :
      Noted cfg c σ (.deleted t)
  /-- the host greets, on a connection that it starts -/
  | connect {t : TPtr} {tr : ATransport} {rest : List TMsg} (hhost : cfg.host = true)
      (hc : c = .registration) (hmsg : σ.registration = .register t :: rest)
      (htr : σ.transports.get t = some tr) (hperm : tr.connectionState ≠ .kCsNoPerm) :
      Noted cfg c σ (.sent t (connectPacket cfg tr))
  /-- the host answers a token -/
  | answer {t : TPtr} {tr : ATransport} {p q : APacket} (hhost : cfg.host = true)
      (hc : c = .packet t p) (hp : p.msg.command = A_AUTH) (harg : p.msg.arg0 = ADB_AUTH_TOKEN)
      (htr : σ.transports.get t = some tr) (hq : tokenAnswer tr σ = some q) :
      Noted cfg c σ (.sent t (sealPacket q tr))
  /-- `adbd` says something -/
  | reply {t : TPtr} {p : APacket} (hhost : cfg.host = false) : Noted cfg c σ (.sent t p)

private lemma PacketActs.not_note {p : APacket} {online : Prop} {heap : Store ASocket} {o : Obs}
    (h : PacketActs t p online heap l) : .note o ∉ l := by
  cases h with
  | none => simp
  | accept => simp
  | connect => simp
  | ready => simp
  | write _ _ _ _ _ _ hl =>
    cases hl with
    | deliver => simp
    | inject => simp
    | echo => simp

lemma Moves.noted (h : Moves cfg c σ l τ) {o : Obs} (ho : .note o ∈ l) : Noted cfg c σ o := by
  have hreplies {t : TPtr} {m : List Act} (hm : Replies cfg t m) (ho : .note o ∈ m) :
      Noted cfg c σ o := by
    obtain ⟨p, hp, -⟩ := hm.greets _ ho
    cases hp
    cases hhost : cfg.host with
    | true =>
      rw [hm.host hhost] at ho
      cases ho
    | false => exact .reply hhost
  cases h with
  | stream _ _ _ hl =>
    rcases mem_cons.mp ho with ho | ho
    · cases ho
      exact .handled rfl
    · exact absurd ho hl.not_note
  | event _ hl =>
    obtain ⟨s, rest, a, f, -, -, -, -, hact, -⟩ := hl _ ho
    cases hact
  | poll _ hl =>
    obtain ⟨s, r, hact, -⟩ := hl _ ho
    cases hact
  | serve => simp at ho
  | cnxn _ _ _ _ _ _ hl =>
    rcases mem_cons.mp ho with ho | ho
    · cases ho
      exact .handled rfl
    · exact hreplies hl ho
  | authUnknown =>
    cases mem_singleton.mp ho
    exact .handled rfl
  | authToken hp hhost htr _ _ _ harg =>
    rcases mem_cons.mp ho with ho | ho
    · cases ho
      exact .handled rfl
    obtain ⟨q, hq, ho⟩ := mem_map.mp ho
    cases ho
    exact .answer hhost rfl hp harg htr (Option.mem_toList.mp hq)
  | authSignature hp hhost harg htr h =>
    rcases mem_cons.mp ho with ho | ho
    · cases ho
      exact .handled rfl
    cases h with
    | verified hkey =>
      rcases mem_cons.mp ho with ho | ho
      · cases ho
        exact .verified htr (.signature hhost hp harg hkey)
      · cases mem_singleton.mp ho
        exact .reply hhost
    | refused hl => exact hreplies hl ho
  | authKey hp hhost harg h =>
    rcases mem_cons.mp ho with ho | ho
    · cases ho
      exact .handled rfl
    rw [h.acts] at ho
    split at ho
    · next hkey =>
      cases mem_singleton.mp ho
      exact .forwarded rfl hp harg hkey
    · simp at ho
  | error => simp at ho
  | frameworkConnect _ _ hl => exact hreplies hl ho
  | frameworkReply hhost h =>
    cases h with
    | closed => simp at ho
    | nobody =>
      cases mem_singleton.mp ho
      exact .frameworkOk
    | approved hreply hwaits htr =>
      rcases mem_cons.mp ho with ho | ho
      · cases ho
        exact .frameworkOk
      rcases mem_cons.mp ho with ho | ho
      · cases ho
        exact .verified htr (.framework hhost hreply hwaits)
      · cases mem_singleton.mp ho
        exact .reply hhost
    | other => simp at ho
  | register hmsg htr =>
    unfold startActs at ho
    split at ho
    · next hstarts =>
      simp only [Bool.and_eq_true, decide_eq_true_eq] at hstarts
      cases mem_singleton.mp ho
      exact .connect hstarts.1 rfl hmsg htr hstarts.2
    · cases ho
  | remove hmsg =>
    cases mem_singleton.mp ho
    exact .deleted hmsg

lemma Moves.latest_eq {β : Type} {f : Obs → Option β} (hf : ∀ o, o.notable = false → f o = none)
    (h : Moves cfg c σ l τ) :
    latest f τ.socks.trace = (latest f (notes l)).or (latest f σ.socks.trace) := h.socks.latest_eq hf

end Server

end Adb
