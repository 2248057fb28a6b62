import Adb.StepTheorems

/-!
# The sockets of a reachable state

Sockets point to each other in pairs, and no function uses a deleted socket. A local socket waits for
its fd to become writable exactly as long as something is queued.
-/

namespace Adb

open Lib

namespace Server

variable {σ : Server} {cfg : Config} {s : Ptr} {a : ASocket}

/-! ## Pairs -/

/-- Live sockets are paired, and the two lists hold live sockets, each once. -/
structure Paired (socks : Sockets) : Prop where
  peers : ∀ s a r, socks.heap.get s = some a → a.peer = some r →
    ∃ b, socks.heap.get r = some b ∧ b.peer = some s
  live : ∀ s ∈ socks.localSocketList ++ socks.localSocketClosingList, ∃ a, socks.heap.get s = some a
  once : (socks.localSocketList ++ socks.localSocketClosingList).Nodup

lemma Sound.paired (h : σ.Sound) : Paired σ.socks where
  peers s a r hs hpeer := by
    obtain ⟨-, -, b, hr, hback, -⟩ := h.inv.paired s a r hs (by simp) hpeer
    exact ⟨b, hr, hback⟩
  live s hs := by
    rcases List.mem_append.mp hs with hs | hs
    · obtain ⟨a, hs, -⟩ := (h.inv.listed s).mp hs
      exact ⟨a, hs⟩
    · obtain ⟨a, hs, -⟩ := (h.inv.closingListed s).mp hs
      exact ⟨a, hs⟩
  once := by
    refine List.nodup_append.mpr ⟨h.inv.nodup, h.inv.closingNodup, ?_⟩
    rintro s hs r hr rfl
    -- the socket is closing, or it is not
    obtain ⟨a, ha, -, hopen⟩ := (h.inv.listed s).mp hs
    obtain ⟨b, hb, -, hclosing⟩ := (h.inv.closingListed s).mp hr
    rw [ha] at hb
    cases hb
    rw [hopen] at hclosing
    cases hclosing

/-- In every reachable state the live sockets are paired and the lists hold live sockets, each
once; and no step uses a socket that has been deleted. The only memory that is ever used out of
bounds is the payload of a public key of no bytes. -/
theorem paired_of_reachable (h : Reachable cfg σ) :
    Paired σ.socks ∧ ∀ i, step cfg i σ = .error .wild → i.callback.EmptyKey := by
  refine ⟨h.sound.paired, fun i hi => ?_⟩
  simpa [CallbackHalt, Halt.Excused] using (step_spec i h.sound).of_error hi

/-! ## Interest in events -/

structure WriteInterest (s : Ptr) (a : ASocket) (socks : Sockets) : Prop where
  waits : a.packetQueue.empty = false → a.closing = false → a.hasWriteError = false →
    a.wantsWrite = true
  wanted : a.wantsWrite = true → a.packetQueue.empty = false
  closing : a.closing = true →
    s ∈ socks.localSocketClosingList ∧ s ∉ socks.localSocketList ∧ a.peer = none ∧
      a.wantsWrite = true

lemma Sound.writeInterest (h : σ.Sound) (hs : σ.socks.heap.get s = some a)
    (hl : a.isLocal = true) : WriteInterest s a σ.socks := by
  have hw := h.inv.local_wf hs hl
  have hempty := hw.queue.empty_eq_false_iff
  refine ⟨fun hq => hw.waits (hempty.mp hq), fun hwrite => hempty.mpr (hw.wanted hwrite),
    fun hc => ?_⟩
  obtain ⟨hpeer, hwrite, -⟩ := hw.drains hc
  refine ⟨(h.inv.closingListed s).mpr ⟨a, hs, hl, hc⟩, fun hmem => ?_, hpeer, hwrite⟩
  obtain ⟨b, hb, -, hopen⟩ := (h.inv.listed s).mp hmem
  rw [hs] at hb
  cases hb
  rw [hc] at hopen
  cases hopen

/-- In every reachable state every live local socket waits for its fd when, and only when, it
has something to write; no step then fails in `local_socket_close` or uses a null pointer. -/
theorem writeInterest_of_reachable (h : Reachable cfg σ) :
    (∀ s a, σ.socks.heap.get s = some a → a.isLocal = true → WriteInterest s a σ.socks) ∧
      ∀ i e, step cfg i σ = .error e → e ≠ .check .closingWrite ∧ e ≠ .null := by
  refine ⟨fun s a => h.sound.writeInterest, fun i e he => ?_⟩
  have hhalt := (step_spec i h.sound).of_error he
  constructor
  · rintro rfl
    simp [CallbackHalt, Halt.Excused] at hhalt
  · rintro rfl
    simp [CallbackHalt, Halt.Excused] at hhalt

def blockedService : List Input :=
  [{ callback := .usbDevice [] [] true },
    { callback := .registration },
    { callback := .packet 0 (packetOf A_CNXN A_VERSION 4096 (ascii "host::")) },
    { callback := .packet 0 (packetOf A_OPEN 7 0 (ascii "tcp:1")), os := { service := true } },
    { callback := .packet 0 (packetOf A_WRTE 7 1 (ascii "data")) }]

/-- The service socket and the remote socket are peers. -/
theorem paired_blockedService :
    ∃ σ, run { Config.adbd with authRequired := false } blockedService (init []) = .ok σ ∧
      (∃ a, σ.socks.heap.get 0 = some a ∧ a.peer = some 1) ∧ Paired σ.socks ∧
      ∀ i, step { Config.adbd with authRequired := false } i σ = .error .wild →
        i.callback.EmptyKey := by
  have htest : returns (run { Config.adbd with authRequired := false } blockedService (init []))
      (fun σ => (σ.socks.heap.get 0).any fun a => a.peer = some 1) = true := by decide
  obtain ⟨σ, hrun, hpeer⟩ := returns_iff.mp htest
  obtain ⟨a, hs, ha⟩ := (Option.any_eq_true _ _).mp hpeer
  exact ⟨σ, hrun, ⟨a, hs, of_decide_eq_true ha⟩, paired_of_reachable ⟨[], blockedService, hrun⟩⟩

theorem writeInterest_blockedService :
    ∃ σ, run { Config.adbd with authRequired := false } blockedService (init []) = .ok σ ∧
      (∃ s a, σ.socks.heap.get s = some a ∧ a.isLocal = true ∧ a.packetQueue.empty = false ∧
        WriteInterest s a σ.socks) ∧
      ∀ i e, step { Config.adbd with authRequired := false } i σ = .error e →
        e ≠ .check .closingWrite ∧ e ≠ .null := by
  have htest : returns (run { Config.adbd with authRequired := false } blockedService (init []))
      (fun σ => (σ.socks.heap.get 0).any fun a => a.isLocal && !a.packetQueue.empty) = true := by
    decide
  obtain ⟨σ, hrun, hqueue⟩ := returns_iff.mp htest
  obtain ⟨a, hs, ha⟩ := (Option.any_eq_true _ _).mp hqueue
  simp only [Bool.and_eq_true, Bool.not_eq_true'] at ha
  have hmain := writeInterest_of_reachable ⟨[], blockedService, hrun⟩
  exact ⟨σ, hrun, ⟨0, a, hs, ha.1, ha.2, hmain.1 0 a hs ha.1⟩, hmain.2⟩

end Server

end Adb
