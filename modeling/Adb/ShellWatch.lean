import Adb.ShellInput

/-!
# Whether the client is listened to

While a packet has not been taken by the process, the session does not read from the client; it waits
until the process can take more. This module is about a process that closes its standard input and
output in between.
-/

namespace Adb.Subprocess

open Lib List
open ShellProtocol (stdinPayload streamOf)

variable {s s' : Subprocess} {total : Bytes}

/-- When `select` is called, the client is listened to, or the session waits for the process to take
what is left of its last packet. -/
def Watches (s : Subprocess) : Prop :=
  s.passes = true → s.masterReadSet.protocol = true ∨
    0 < s.inputBytesLeft ∧ s.sfds.stdinout = true ∧ s.masterWriteSet.stdinout = true

/-- The standard output is found at its end while something is left of the last packet and the standard
error is open. -/
def Severs (r : Round) (s : Subprocess) : Prop :=
  s.passes = true ∧ s.inputBytesLeft ≠ 0 ∧ s.sfds.stderr = true ∧
    ∃ readSet writeSet, r.select = .ready readSet writeSet ∧ stdoutDies r readSet s

def Attached (s : Subprocess) : Prop :=
  s.passes = true → s.inputBytesLeft ≠ 0 → s.sfds.stdinout = true

lemma Inv.watches_iff (h : Inv total s) : Watches s ↔ Attached s := by
  constructor
  · intro hwatches hp hne
    obtain hread | ⟨-, hopen, -⟩ := hwatches hp
    · exact absurd ((h.sets hp).read.mp hread) hne
    · exact hopen
  · intro hattached hp
    by_cases hzero : s.inputBytesLeft = 0
    · exact .inl ((h.sets hp).read.mpr hzero)
    · have hopen := hattached hp hzero
      exact .inr ⟨Nat.pos_of_ne_zero hzero, hopen, (h.sets hp).write.mpr ⟨hzero, hopen⟩⟩

lemma round_attached_iff {r : Round} (h : Inv total s) (hs : Attached s)
    (hround : round r s = .ok s') : Attached s' ↔ ¬ Severs r s := by
  unfold round at hround
  cases hp : s.passes with
  | false =>
    rw [hp] at hround
    cases hround
    exact ⟨fun _ hsevers => absurd hsevers.1 (by simp [hp]), fun _ => hs⟩
  | true =>
    rw [hp] at hround
    cases hselect : r.select with
    | failed e =>
      have hnot : ¬ Severs r s := by
        intro hsevers
        obtain ⟨-, -, -, readSet, writeSet, hready, -⟩ := hsevers
        rw [hselect] at hready
        cases hready
      have hattached : Attached s' := by
        rw [hselect] at hround
        by_cases he : e = .EINTR
        · rw [he] at hround
          cases hround
          exact hs
        have hs' : s' = { s with sfds := { s.sfds with stdinout := false, stderr := false } } := by
          cases e <;> first | (cases hround; rfl) | exact absurd rfl he
        intro hp'
        rw [hs'] at hp'
        simp [passes] at hp'
      exact ⟨fun _ => hnot, fun _ => hattached⟩
    | ready readSet writeSet =>
      obtain ⟨⟨dead, s1⟩, hx, hafter⟩ := passData_after r readSet writeSet h hp
      simp only [hselect, Bool.not_true, Bool.false_eq_true, ↓reduceIte, hx, ok_bind,
        pure_eq_ok] at hround
      cases hround
      have hsfds : s1.sfds = s.sfds := hafter.sfds
      have hdead : dead = some .stdinout ∧ s1.inputBytesLeft ≠ 0 ↔
          stdoutDies r readSet s ∧ s.inputBytesLeft ≠ 0 := hafter.dead
      constructor
      · intro hattached hsevers
        obtain ⟨-, hne, hstderr, readSet', writeSet', hready, hdies⟩ := hsevers
        rw [hselect] at hready
        cases hready
        obtain ⟨rfl, hne'⟩ := hdead.mpr ⟨hdies, hne⟩
        have hp' : (Subprocess.close (some .stdinout) s1).passes = true := by
          rw [passes_iff]
          refine ⟨?_, .inr ?_⟩
          · show s1.sfds.protocol = true
            rw [hsfds]
            exact (passes_iff.mp hp).1
          · show s1.sfds.stderr = true
            rw [hsfds]
            exact hstderr
        have hopen := hattached hp' hne'
        cases hopen
      · intro hnot hp' hne'
        have hleft : (Subprocess.close dead s1).inputBytesLeft = s1.inputBytesLeft := by
          cases dead with
          | none => rfl
          | some sfd => cases sfd <;> rfl
        rw [hleft] at hne'
        have hopen := hafter.left (hs hp) hne'
        cases dead with
        | none =>
          show s1.sfds.stdinout = true
          rw [hsfds]
          exact hopen
        | some sfd =>
          cases sfd with
          | protocol => simp [Subprocess.close, passes] at hp'
          | stderr =>
            show s1.sfds.stdinout = true
            rw [hsfds]
            exact hopen
          | stdinout =>
            obtain ⟨hdies, hne⟩ := hdead.mp ⟨rfl, hne'⟩
            have hstderr : s1.sfds.stderr = true := by
              obtain hfalse | htrue := (passes_iff.mp hp').2
              · cases hfalse
              · exact htrue
            rw [hsfds] at hstderr
            exact absurd ⟨hp, hne, hstderr, readSet, writeSet, hselect, hdies⟩ hnot

lemma runs_watch_iff {rounds : List Round} (h : Inv total s) (hs : Attached s) :
    (∀ front s', front <+: rounds → runs round front s = .ok s' → Watches s') ↔
      Meets round (fun s r => ¬ Severs r s) rounds s := by
  induction rounds generalizing s with
  | nil =>
    refine ⟨fun _ => trivial, fun _ front s' hfront hrun => ?_⟩
    rw [prefix_nil.mp hfront] at hrun
    cases hrun
    exact h.watches_iff.mpr hs
  | cons r rest ih =>
    obtain ⟨s1, hround, hinv⟩ := round_inv r h
    have hstep := round_attached_iff h hs hround
    constructor
    · intro hwatch
      have hfirst : Watches s1 := by
        apply hwatch [r] s1 (by simp)
        rw [runs, hround]
        rfl
      have hattached := hinv.watches_iff.mp hfirst
      refine ⟨hstep.mp hattached, ?_⟩
      rw [hround]
      apply (ih hinv hattached).mp
      intro front s' hfront hrun
      apply hwatch (r :: front) s' (cons_prefix_cons.mpr ⟨rfl, hfront⟩)
      rw [runs, hround]
      exact hrun
    · intro hmeets front s' hfront hrun
      have hattached := hstep.mpr hmeets.cons
      cases front with
      | nil =>
        cases hrun
        exact h.watches_iff.mpr hs
      | cons r' front =>
        obtain ⟨rfl, hfront'⟩ := cons_prefix_cons.mp hfront
        rw [runs, hround] at hrun
        exact (ih hinv hattached).mpr (hmeets.tail hround) front s' hfront' hrun

lemma prefix_padded {α : Type} {l padding tail : List α} {n : ℕ} (h : l.drop n <+: tail) :
    l <+: (l ++ padding).take n ++ tail := by
  by_cases hn : n ≤ l.length
  · rw [take_append_of_le_length hn]
    nth_rewrite 1 [← take_append_drop n l]
    exact (prefix_append_right_inj _).mpr h
  · rw [take_append, take_of_length_le (by omega), append_assoc]
    exact prefix_append _ _

lemma exists_packets (stream : Bytes) :
    ∃ packets : List (UInt8 × Bytes), (∀ x ∈ packets, x.2.length < 2 ^ 32) ∧
      stream <+: streamOf packets := by
  induction hn : stream.length using Nat.strong_induction_on generalizing stream with
  | _ n ih =>
    cases stream with
    | nil => exact ⟨[], by simp, nil_prefix⟩
    | cons id rest =>
      -- the length of the packet, with zeros for the bytes that are not there
      generalize hword : word32 (rest ++ List.replicate 4 0) = word
      have hle32 : le32 word = (rest ++ List.replicate 4 0).take 4 := by
        rw [← hword]
        exact le32_word32 (by simp)
      generalize hpayload : (rest.drop 4 ++ List.replicate word.toNat 0).take word.toNat = payload
      have hlen : payload.length = word.toNat := by
        rw [← hpayload, length_take, length_append, length_replicate]
        omega
      have hsize : payload.length < 2 ^ 32 := by
        rw [hlen]
        exact word.toNat_lt
      have hpacket : packetBytes id payload = id :: (le32 word ++ payload) := by
        rw [packetBytes, hlen, UInt32.ofNat_toNat]
        rfl
      obtain ⟨packets, hsizes, hbegins⟩ := ih (rest.drop (4 + word.toNat)).length
        (by rw [← hn, length_drop, length_cons]; omega) _ rfl
      refine ⟨(id, payload) :: packets, ?_, ?_⟩
      · intro x hx
        obtain rfl | hx := mem_cons.mp hx
        · exact hsize
        · exact hsizes x hx
      · show id :: rest <+: packetBytes id payload ++ streamOf packets
        rw [hpacket, cons_append, cons_prefix_cons]
        refine ⟨rfl, ?_⟩
        rw [hle32, ← hpayload, append_assoc]
        apply prefix_padded
        apply prefix_padded
        rw [drop_drop]
        exact hbegins

/-- A session listens to its client, or waits for the process, each time `select` is called, if and only
if the standard output never ends while something is left of the last packet and the standard
error is open. -/
theorem session_watches_iff (type : SubprocessType) (sfds : FdSet)
    (hprotocol : sfds.protocol = true) (stream : Bytes) (outcomes : List ReadOutcome)
    (buffer : Bytes) (hbuffer : ShellProtocol.kHeaderSize ≤ buffer.length) (rounds : List Round) :
    (∀ front s, front <+: rounds → runs round front (start type sfds
        { fd := { input := stream, outcomes := outcomes }, buffer := buffer }) = .ok s → Watches s) ↔
      Meets round (fun s r => ¬ Severs r s) rounds (start type sfds
        { fd := { input := stream, outcomes := outcomes }, buffer := buffer }) := by
  obtain ⟨packets, hsizes, hstream⟩ := exists_packets stream
  apply runs_watch_iff (start_inv type hprotocol hsizes hstream hbuffer)
  intro _ hne
  exact absurd rfl hne

def allOpen : FdSet := { protocol := true, stdinout := true, stderr := true }

def stuck : Round := { select := .ready { protocol := true } {} }

def hangUp : Round := { select := .ready { stdinout := true } {}, stdout := .data [] }

theorem session_watches_stuck :
    ∃ s, runs round [stuck] (start .kRaw allOpen
      { fd := { input := encodePacket .kIdStdin (ascii "x"), outcomes := [] },
        buffer := List.replicate 64 0 }) = .ok s ∧ Watches s := by
  have htest : returns (runs round [stuck] (start .kRaw allOpen
      { fd := { input := encodePacket .kIdStdin (ascii "x"), outcomes := [] },
        buffer := List.replicate 64 0 })) (fun _ => true) = true := by decide +kernel
  obtain ⟨s, hrun, -⟩ := returns_iff.mp htest
  refine ⟨s, hrun, (session_watches_iff .kRaw allOpen rfl (encodePacket .kIdStdin (ascii "x")) []
    (List.replicate 64 0) (by decide) [stuck]).mpr ?_ [stuck] s (prefix_refl _) hrun⟩
  apply Meets.of_mem
  intro r hr s hsevers
  obtain rfl := mem_singleton.mp hr
  obtain ⟨-, -, -, readSet, writeSet, hselect, hdies⟩ := hsevers
  cases hselect
  simp [stdoutDies, ready, FdSet.has] at hdies

def oneByte (buffer : Bytes) : ShellProtocol :=
  { fd := { input := encodePacket .kIdStdin (ascii "x"), outcomes := [] }, buffer := buffer }

lemma oneByte_read {buffer : Bytes} (hbuffer : ShellProtocol.kHeaderSize < buffer.length) :
    ∃ p, ShellProtocol.read (oneByte buffer) = .ok (true, p) ∧ p.id = ShellId.kIdStdin.byte ∧
      p.dataLength = 1 := by
  obtain ⟨c, hc⟩ : ∃ c, buffer.length = ShellProtocol.kHeaderSize + (c + 1) :=
    ⟨buffer.length - ShellProtocol.kHeaderSize - 1, by omega⟩
  have hholds : ShellProtocol.Holds (c + 1) [] (encodePacket .kIdStdin (ascii "x") ++ [])
      (oneByte buffer) := ⟨rfl, rfl, by simp [ReadFd.Reliable, oneByte], hc⟩
  obtain ⟨p, hread, -, hid, hdata⟩ := ShellProtocol.read_header hholds (by decide)
  have hahead : ShellProtocol.Ahead (oneByte buffer).id [] [(0, ascii "x")] (oneByte buffer) :=
    ⟨rfl, ⟨[], rfl⟩, by decide, rfl, Nat.le_of_lt hbuffer, rfl⟩
  obtain ⟨ok, p', hread', hnext⟩ := ShellProtocol.read_ahead hahead
  rw [hread] at hread'
  cases hread'
  obtain ⟨id', remaining', packets', hahead', -⟩ := hnext rfl
  refine ⟨p, hread, hid, ?_⟩
  rw [← hahead'.dataLength, hdata, length_take]
  exact Nat.min_eq_right (Nat.le_add_left 1 c)

lemma runs_stuck_hangUp {buffer : Bytes} (hbuffer : ShellProtocol.kHeaderSize < buffer.length) :
    ∃ s, runs round [stuck, hangUp] (start .kRaw allOpen (oneByte buffer)) = .ok s ∧
      s.passes = true ∧ s.masterReadSet = { stderr := true } ∧ s.masterWriteSet = {} := by
  obtain ⟨p, hread, hid, hlength⟩ := oneByte_read hbuffer
  have hstuck : round stuck (start .kRaw allOpen (oneByte buffer)) = .ok
      { type := .kRaw
        sfds := allOpen
        masterReadSet := { stdinout := true, stderr := true }
        masterWriteSet := { stdinout := true }
        input := p
        inputBytesLeft := 1
        deeds := [.read 0, .write 1 1] } := by
    simp [round, start, passes, allOpen, stuck, passData, unlessDead, ready, FdSet.has, readProtocol,
      passInput, hread, acceptInput, acceptPacket, hid, hlength, writeInput, setWrite, FdSet.put,
      Subprocess.close, pure_eq_ok, ok_bind]
  refine ⟨_, runs_cons.mpr ⟨_, hstuck, rfl⟩, rfl, rfl, rfl⟩

/-- The session waits for the standard error only: the client may go away unnoticed. -/
theorem session_deaf :
    ∃ s, runs round [stuck, hangUp] (start .kRaw allOpen
        { fd := { input := encodePacket .kIdStdin (ascii "x"), outcomes := [] },
          buffer := List.replicate maxPayload 0 }) = .ok s ∧
      s.passes = true ∧ s.masterReadSet = { stderr := true } ∧ s.masterWriteSet = {} ∧
      ¬ Watches s := by
  have hroom : ShellProtocol.kHeaderSize < (List.replicate maxPayload (0 : UInt8)).length := by
    rw [length_replicate]
    decide
  obtain ⟨s, hrun, hpasses, hread, hwrite⟩ := runs_stuck_hangUp hroom
  refine ⟨s, hrun, hpasses, hread, hwrite, ?_⟩
  intro hwatches
  simp [Watches, hpasses, hread, hwrite] at hwatches

end Adb.Subprocess
