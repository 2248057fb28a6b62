import Adb.StepTheorems
import Adb.Threads

/-!
# The threads of a connection and the main thread

What the reader and the writer do on their own is ordinary: they fill the run queue, and end. So a
property holds for every interleaving of the threads if the callbacks of the main thread preserve it
(`turns_invariant`). The reader goes on after a packet with a bad header (`badHeader_ends_iff`).
-/

namespace Adb

open Lib

namespace Server

open Sockets (Act)

variable {σ τ : Server} {cfg : Config} {t : TPtr} {tr : ATransport} {p : APacket}

/-! ## Turns of the threads -/

lemma Ordinary.runQueue (queue : List RunFn) (σ : Server) :
    Ordinary [] σ { σ with runQueue := queue } :=
  .ofListeners (.refl _) (fun x hx _ hxt => .inr ⟨x, hx, hxt⟩) fun hok => { hok with }

lemma callErrorOnce_ordinary (htr : σ.transports.get t = some tr) (c : Connection) :
    Ordinary [] σ (callErrorOnce t tr c σ) :=
  .setTransport htr (by exact ⟨rfl, rfl, rfl, rfl, rfl⟩) (by exact fun _ hd => hd) _

lemma readTurn_ordinary {r : Option APacket} : Ordinary [] σ (readTurn t r σ) := by
  unfold readTurn
  split
  · exact .refl σ
  next tr htr =>
  split
  · cases r with
    | some p => exact .runQueue _ σ
    | none => exact callErrorOnce_ordinary htr _
  · exact .refl σ

lemma writeFailedTurn_ordinary : Ordinary [] σ (writeFailedTurn t σ) := by
  unfold writeFailedTurn
  split
  · exact .refl σ
  next tr htr =>
  split
  · exact callErrorOnce_ordinary htr _
  · exact .refl σ

lemma Turn.prepare_ordinary (turn : Turn) (σ : Server) : Ordinary [] σ (turn.prepare σ) := by
  cases turn with
  | main i => exact .refl σ
  | flush os =>
    show Ordinary [] σ (if _ then _ else _)
    split
    · exact .runQueue _ σ
    · exact .refl σ
  | read t r => exact readTurn_ordinary
  | writeFailed t => exact writeFailedTurn_ordinary

lemma Ordinary.sound {l : List Act} (h : Ordinary l σ τ) (hσ : σ.Sound) : τ.Sound :=
  ⟨h.socks.inv hσ.inv, h.listenersOk hσ.listenersOk, by
    rw [h.needsRetry, h.usbTransport]; exact hσ.retry⟩

variable {turn : Turn}

lemma turnStep_outcome (hσ : σ.Sound) (hτ : turnStep cfg turn σ = .ok τ) :
    (turn.input σ = none ∧ τ = turn.prepare σ) ∨
      ∃ i l, turn.input σ = some i ∧ StepOutcome cfg i (turn.prepare σ) l τ := by
  unfold turnStep at hτ
  cases hinput : turn.input σ with
  | none =>
    rw [hinput] at hτ
    cases hτ
    exact .inl ⟨rfl, rfl⟩
  | some i =>
    rw [hinput] at hτ
    obtain ⟨l, hl⟩ := (step_spec i ((turn.prepare_ordinary σ).sound hσ)).of_ok hτ
    exact .inr ⟨i, l, rfl, hl⟩

lemma turnStep_halt {e : Halt} (hσ : σ.Sound) (he : turnStep cfg turn σ = .error e) :
    ∃ i, turn.input σ = some i ∧ CallbackHalt cfg i.callback ((turn.prepare σ).withOs i.os) e := by
  unfold turnStep at he
  cases hinput : turn.input σ with
  | none =>
    rw [hinput] at he
    cases he
  | some i =>
    rw [hinput] at he
    exact ⟨i, rfl, (step_spec i ((turn.prepare_ordinary σ).sound hσ)).of_error he⟩

lemma turnStep_sound (hσ : σ.Sound) (hτ : turnStep cfg turn σ = .ok τ) : τ.Sound := by
  have hprep := (turn.prepare_ordinary σ).sound hσ
  rcases turnStep_outcome hσ hτ with ⟨-, rfl⟩ | ⟨i, l, -, hl⟩
  · exact hprep
  · exact hl.sound hprep

/-- The invariant rule for interleavings. The condition is about the callbacks that the main
thread executes. -/
lemma turns_invariant {I : Server → Prop} {C : Server → Input → Prop} {turns : List Turn}
    (hordinary : ∀ σ τ, σ.Sound → I σ → Ordinary [] σ τ → I τ)
    (hstep : ∀ σ i l τ, σ.Sound → I σ → C σ i → StepOutcome cfg i σ l τ → I τ) (hσ : σ.Sound)
    (hI : I σ)
    (hC : Meets (turnStep cfg) (fun σ turn => ∀ i ∈ turn.input σ, C (turn.prepare σ) i) turns σ)
    (hrun : runs (turnStep cfg) turns σ = .ok τ) : τ.Sound ∧ I τ := by
  refine runs_invariant (I := fun σ => σ.Sound ∧ I σ) ?_ ⟨hσ, hI⟩ hC hrun
  rintro σ turn τ ⟨hσ, hI⟩ hC hτ
  have hprep := turn.prepare_ordinary σ
  have hI' := hordinary σ _ hσ hI hprep
  refine ⟨turnStep_sound hσ hτ, ?_⟩
  rcases turnStep_outcome hσ hτ with ⟨-, rfl⟩ | ⟨i, l, hinput, hl⟩
  · exact hI'
  · exact hstep _ i l τ (hprep.sound hσ) hI' (hC i hinput) hl

/-! ## The reader thread -/

/-- A packet with a bad header ends the connection: no later packet is passed to
`handle_packet`, and the error callback is called. -/
def BadHeaderEnds (t : TPtr) (reads : List (Option (APacket × ATransport))) : Prop :=
  ∀ pre p tr post, reads = pre ++ some (p, tr) :: post → none ∉ pre → checkHeader p tr = false →
      (∀ q, .packet t q ∉ readThread t post) ∧ .error t ∈ readThread t post

def failsNext : List (Option (APacket × ATransport)) → Bool
  | [] => false
  | none :: _ => true
  | some (p, tr) :: rest => !checkHeader p tr && failsNext rest

def failsAfterBadHeader : List (Option (APacket × ATransport)) → Bool
  | [] => true
  | none :: _ => true
  | some (p, tr) :: rest => if checkHeader p tr then failsAfterBadHeader rest else failsNext rest

variable {rest : List (Option (APacket × ATransport))}

lemma readThread_bad
    (h : checkHeader p tr = false) : readThread t (some (p, tr) :: rest) = readThread t rest := by
  simp [readThread, readCallback, h]

lemma readThread_good (h : checkHeader p tr = true) :
    readThread t (some (p, tr) :: rest) = .packet t p :: readThread t rest := by
  simp [readThread, readCallback, h]

lemma readThread_skip {pre post : List (Option (APacket × ATransport))}
    (h : checkHeader p tr = false)
    (hnone : ∀ q, .packet t q ∉ readThread t (pre ++ some (p, tr) :: post)) (hpre : none ∉ pre) :
    readThread t (pre ++ some (p, tr) :: post) = readThread t post := by
  induction pre with
  | nil => exact readThread_bad h
  | cons r pre ih =>
    match r with
    | none => simp at hpre
    | some (q, qr) =>
      cases hq : checkHeader q qr with
      | true => exact absurd (by simp [readThread_good hq]) (hnone q)
      | false =>
        rw [List.cons_append, readThread_bad hq] at hnone ⊢
        exact ih hnone (by simpa using hpre)

lemma failsNext_iff (reads : List (Option (APacket × ATransport))) :
    failsNext reads = true ↔
      (∀ q, .packet t q ∉ readThread t reads) ∧ .error t ∈ readThread t reads := by
  induction reads with
  | nil => simp [failsNext, readThread]
  | cons r rest ih =>
    match r with
    | none => simp [failsNext, readThread]
    | some (p, tr) =>
      cases h : checkHeader p tr with
      | false => simp [failsNext, h, readThread_bad h, ih]
      | true =>
        have hpassed : ¬ ∀ q, .packet t q ∉ readThread t (some (p, tr) :: rest) := fun hnone =>
          hnone p (by simp [readThread_good h])
        simp [failsNext, h, hpassed]

lemma badHeaderEnds_none : BadHeaderEnds t (none :: rest) := by
  intro pre p tr post heq hpre
  cases pre with
  | nil => cases heq
  | cons r pre =>
    obtain ⟨rfl, -⟩ := List.cons.inj heq
    simp at hpre

lemma badHeaderEnds_good (h : checkHeader p tr = true) :
    BadHeaderEnds t (some (p, tr) :: rest) ↔ BadHeaderEnds t rest := by
  refine ⟨fun hends pre q qr post heq hpre hbad => ?_, fun hends pre q qr post heq hpre hbad => ?_⟩
  · exact hends (some (p, tr) :: pre) q qr post (by simp [heq]) (by simpa using hpre) hbad
  cases pre with
  | nil =>
    cases heq
    rw [h] at hbad
    cases hbad
  | cons r pre =>
    obtain ⟨rfl, hrest⟩ := List.cons.inj heq
    exact hends pre q qr post hrest (by simpa using hpre) hbad

lemma badHeaderEnds_bad (h : checkHeader p tr = false) :
    BadHeaderEnds t (some (p, tr) :: rest) ↔ failsNext rest = true := by
  rw [failsNext_iff (t := t)]
  refine ⟨fun hends => hends [] p tr rest rfl (by simp) h, ?_⟩
  rintro ⟨hnone, herror⟩ pre q qr post heq hpre hbad
  cases pre with
  | nil =>
    cases heq
    exact ⟨hnone, herror⟩
  | cons r pre =>
    obtain ⟨rfl, hrest⟩ := List.cons.inj heq
    have hrest : rest = pre ++ some (q, qr) :: post := hrest
    rw [hrest] at hnone herror
    have hskip := readThread_skip hbad hnone (by simpa using hpre)
    rw [hskip] at hnone herror
    exact ⟨hnone, herror⟩

/-- A packet with a bad header ends the connection exactly if the connection breaks before
another good one. -/
theorem badHeader_ends_iff (t : TPtr) (reads : List (Option (APacket × ATransport))) :
    BadHeaderEnds t reads ↔ failsAfterBadHeader reads = true := by
  induction reads with
  | nil =>
    refine ⟨fun _ => rfl, fun _ pre p tr post heq => ?_⟩
    simp at heq
  | cons r rest ih =>
    match r with
    | none => exact ⟨fun _ => rfl, fun _ => badHeaderEnds_none⟩
    | some (p, tr) =>
      cases h : checkHeader p tr with
      | true => rw [badHeaderEnds_good h, ih, failsAfterBadHeader, if_pos h]
      | false => rw [badHeaderEnds_bad h, failsAfterBadHeader, if_neg (by simp [h])]

def badMagic : APacket := { msg := { command := A_CNXN } }

/-- The second is a greeting, which the host takes: the transport is online, and the error
callback has not been called. -/
theorem badHeader_ignored :
    ¬ BadHeaderEnds 0 [some (badMagic, {}), some (packetOf A_CNXN A_VERSION 4096 [], {})] ∧
      ∃ σ tr, runs (turnStep .adb)
          [.main { callback := .usbDevice [] [] true }, .main { callback := .registration },
            .read 0 (some badMagic), .read 0 (some (packetOf A_CNXN A_VERSION 4096 [])), .flush {}]
          (init []) = .ok σ ∧
        .handled 0 (packetOf A_CNXN A_VERSION 4096 []) ∈ σ.socks.trace ∧
        σ.transports.get 0 = some tr ∧ tr.online = true ∧ tr.connection.errorFlag = false := by
  have hends : ¬ BadHeaderEnds 0
      [some (badMagic, {}), some (packetOf A_CNXN A_VERSION 4096 [], {})] := by
    rw [badHeaderEnds_bad (by decide)]
    decide
  have htest : returns (runs (turnStep .adb)
      [.main { callback := .usbDevice [] [] true }, .main { callback := .registration },
        .read 0 (some badMagic), .read 0 (some (packetOf A_CNXN A_VERSION 4096 [])), .flush {}]
      (init [])) (fun σ =>
        decide (.handled 0 (packetOf A_CNXN A_VERSION 4096 []) ∈ σ.socks.trace) &&
        (σ.transports.get 0).any fun tr => tr.online && !tr.connection.errorFlag) = true := by
    decide
  obtain ⟨σ, hrun, hσ⟩ := returns_iff.mp htest
  obtain ⟨hhandled, hany⟩ := Bool.and_eq_true_iff.mp hσ
  obtain ⟨tr, htr, hflags⟩ := (Option.any_eq_true _ _).mp hany
  simp only [Bool.and_eq_true, Bool.not_eq_true'] at hflags
  exact ⟨hends, σ, tr, hrun, of_decide_eq_true hhandled, htr, hflags⟩

end Server

end Adb
