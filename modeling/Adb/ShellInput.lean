import Adb.Lib.Run
import Adb.ShellService

/-!
# What reaches the standard input

The packets of the client, read from a stream that may end or fail anywhere. A piece of a packet stays
in the buffer of the reader until the process has taken it, for as many rounds as that takes.
-/

namespace Adb

open Lib List

namespace ShellProtocol

variable {p p' : ShellProtocol} {id : UInt8} {remaining : Bytes} {packets : List (UInt8 × Bytes)}

def streamOf (packets : List (UInt8 × Bytes)) : Bytes := packets.flatMap fun x => packetBytes x.1 x.2

/-- What is left to read is `remaining` and `packets`, or less: the stream may break off. -/
structure Ahead (id : UInt8) (remaining : Bytes) (packets : List (UInt8 × Bytes))
    (p : ShellProtocol) : Prop where
  bytesLeft : p.bytesLeft = remaining.length
  input : p.fd.input <+: remaining ++ streamOf packets
  sizes : ∀ x ∈ packets, x.2.length < 2 ^ 32
  id : p.id = id
  buffer : kHeaderSize ≤ p.buffer.length
  dataLength : p.data.length = p.dataLength

lemma Took.split {data x rest : Bytes} (h : Took data p p') (hinput : p.fd.input <+: x ++ rest)
    (hlen : data.length = x.length) : data = x ∧ p'.fd.input <+: rest := by
  obtain ⟨tail, htail⟩ := hinput
  rw [h.input, append_assoc] at htail
  obtain ⟨hdata, hrest⟩ := append_inj htail hlen
  exact ⟨hdata, tail, hrest⟩

lemma readHeader_ahead (h : Ahead id [] packets p) :
    ∃ ok p1, readHeader p = .ok (ok, p1) ∧
      (ok = true → ∃ x more, packets = x :: more ∧ Ahead x.1 x.2 more p1) := by
  obtain ⟨ok, p1, hread, -, hok⟩ := readHeader_spec h.bytesLeft h.buffer
  refine ⟨ok, p1, hread, ?_⟩
  intro htrue
  obtain ⟨id', word, htook, hid, hleft, hlength⟩ := hok htrue
  have hinput := h.input
  cases packets with
  | nil =>
    have hnil := prefix_nil.mp hinput
    rw [htook.input] at hnil
    cases hnil
  | cons x more =>
    have hstream : [] ++ streamOf (x :: more) =
        (x.1 :: le32 (UInt32.ofNat x.2.length)) ++ (x.2 ++ streamOf more) := by
      rfl
    rw [hstream] at hinput
    obtain ⟨hheader, hrest⟩ := htook.split hinput (by simp)
    obtain ⟨rfl, hword⟩ := List.cons.inj hheader
    refine ⟨x, more, rfl, ?_, hrest, fun y hy => h.sizes y (by simp [hy]), hid,
      htook.buffer.symm ▸ h.buffer, ?_⟩
    · rw [hleft, ← word32_append word [], hword, word32_append]
      exact UInt32.toNat_ofNat_of_lt' (h.sizes x (by simp))
    · rw [data, hlength]
      rfl

lemma readData_ahead (h : Ahead id remaining packets p) :
    ∃ ok p', readData p = .ok (ok, p') ∧ (ok = true → ∃ remaining',
      Ahead id remaining' packets p' ∧ remaining = p'.data ++ remaining') := by
  obtain ⟨ok, p', hread, -, hok⟩ := readData_spec h.buffer
  refine ⟨ok, p', hread, ?_⟩
  intro htrue
  obtain ⟨htook, hlen, hlength, hleft, hid⟩ := hok htrue
  have hle : min p.bytesLeft p.dataCapacity ≤ remaining.length := by
    rw [h.bytesLeft]
    exact Nat.min_le_left _ _
  generalize min p.bytesLeft p.dataCapacity = n at hlen hlength hleft hle
  have hinput := h.input
  rw [← take_append_drop n remaining, append_assoc] at hinput
  obtain ⟨hdata, hrest⟩ := htook.split hinput (by rw [hlen, length_take]; omega)
  refine ⟨remaining.drop n, ⟨?_, hrest, h.sizes, hid.trans h.id, htook.buffer.symm ▸ h.buffer,
    hlen.trans hlength.symm⟩, ?_⟩
  · rw [hleft, length_drop, h.bytesLeft]
  · rw [hdata, take_append_drop]

def stdinPayload (packets : List (UInt8 × Bytes)) : Bytes :=
  packets.flatMap fun x => if x.1 = ShellId.kIdStdin.byte then x.2 else []

def stdinPart (id : UInt8) (piece : Bytes) : Bytes := if id = ShellId.kIdStdin.byte then piece else []

lemma stdinPart_append {x y : Bytes} :
    stdinPart id (x ++ y) = stdinPart id x ++ stdinPart id y := by
  unfold stdinPart
  split
  · rfl
  · rfl

lemma read_ahead (h : Ahead id remaining packets p) :
    ∃ ok p', read p = .ok (ok, p') ∧ (ok = true → ∃ id' remaining' packets',
      Ahead id' remaining' packets' p' ∧
      stdinPart id remaining ++ stdinPayload packets =
        stdinPart id' p'.data ++ (stdinPart id' remaining' ++ stdinPayload packets')) := by
  by_cases hnil : remaining = []
  · subst hnil
    obtain ⟨ok, p1, hheader, hahead⟩ := readHeader_ahead h
    cases ok with
    | false =>
      refine ⟨false, p1, ?_, by simp⟩
      rw [read, hheader]
      rfl
    | true =>
      obtain ⟨x, more, rfl, hahead1⟩ := hahead rfl
      obtain ⟨ok, p', hdata, hnext⟩ := readData_ahead hahead1
      refine ⟨ok, p', ?_, ?_⟩
      · rw [read, hheader]
        exact hdata
      intro hok
      obtain ⟨remaining', hahead', hsplit⟩ := hnext hok
      refine ⟨x.1, remaining', more, hahead', ?_⟩
      have hpayload : stdinPayload (x :: more) = stdinPart x.1 x.2 ++ stdinPayload more := by
        rfl
      have hempty : stdinPart id [] = [] := by
        unfold stdinPart
        split <;> rfl
      rw [hpayload, hempty, nil_append, ← append_assoc, ← stdinPart_append, ← hsplit]
  · obtain ⟨ok, p', hdata, hnext⟩ := readData_ahead h
    have hleft : p.bytesLeft ≠ 0 := by
      rw [h.bytesLeft]
      exact Nat.ne_of_gt (length_pos_of_ne_nil hnil)
    refine ⟨ok, p', ?_, ?_⟩
    · rw [read, readHeader, if_neg hleft]
      exact hdata
    intro hok
    obtain ⟨remaining', hahead', hsplit⟩ := hnext hok
    refine ⟨id, remaining', packets, hahead', ?_⟩
    rw [← append_assoc, ← stdinPart_append, ← hsplit]

end ShellProtocol

namespace Subprocess

open ShellProtocol (Ahead stdinPart stdinPayload streamOf)

variable {s s' : Subprocess} {total : Bytes}

/-! ## `PassInput` -/

def pending (s : Subprocess) : Bytes := s.input.data.drop (s.input.dataLength - s.inputBytesLeft)

/-- The process has been given, or will be given, what the client has sent for it, as long as its
standard input is open. -/
structure Streams (total : Bytes) (s : Subprocess) : Prop where
  ahead : ∃ id remaining packets, Ahead id remaining packets s.input ∧ (s.sfds.stdinout = true →
      total = s.written ++ s.pending ++ (stdinPart id remaining ++ stdinPayload packets))
  left : s.inputBytesLeft ≤ s.input.dataLength

/-- A packet is read when there is nothing left of the last one; what is written is a part of it. -/
def Deed.Ok : Deed → Prop
  | .read left => left = 0
  | .write left length => left ≤ length

lemma Streams.congr (h : Streams total s) (hinput : s'.input = s.input)
    (hleft : s'.inputBytesLeft = s.inputBytesLeft) (hwritten : s'.written = s.written)
    (hopen : s'.sfds.stdinout = true → s.sfds.stdinout = true) : Streams total s' := by
  obtain ⟨⟨id, remaining, packets, hahead, htotal⟩, hle⟩ := h
  refine ⟨⟨id, remaining, packets, hinput ▸ hahead, ?_⟩, by rw [hleft, hinput]; exact hle⟩
  intro hs'
  rw [pending, hwritten, hinput, hleft]
  exact htotal (hopen hs')

structure Passed (total : Bytes) (s : Subprocess) (x : Option Sfd × Subprocess) : Prop where
  sfds : x.2.sfds = s.sfds
  readSet : x.2.masterReadSet = s.masterReadSet
  writeSet : x.2.masterWriteSet = s.masterWriteSet
  written : x.2.written <+: total
  deeds : ∀ deed ∈ x.2.deeds, deed.Ok
  streams : x.1 ≠ some .protocol → Streams total (close x.1 x.2)
  left : x.2.inputBytesLeft ≠ 0 → x.1 = none ∧ s.sfds.stdinout = true

structure Fed (total : Bytes) (s : Subprocess) : Prop where
  written : s.written <+: total
  deeds : ∀ deed ∈ s.deeds, deed.Ok
  streams : Streams total s
  left : s.inputBytesLeft ≠ 0 → s.sfds.stdinout = true

lemma pending_nil (hahead : s.input.data.length = s.input.dataLength)
    (h : s.inputBytesLeft = 0) : s.pending = [] := by
  rw [pending, h, Nat.sub_zero, ← hahead, drop_length]

lemma writeInput_passed (w : StdinWrite) (h : Fed total s) : Passed total s (writeInput w s) := by
  obtain ⟨⟨id, remaining, packets, hahead, htotal⟩, hle⟩ := h.streams
  by_cases hzero : s.inputBytesLeft = 0
  · rw [writeInput, if_pos hzero]
    exact ⟨rfl, rfl, rfl, h.written, h.deeds, fun _ => h.streams, fun hne => absurd hzero hne⟩
  have hdeeds : ∀ deed ∈ s.deeds ++ [Deed.write s.inputBytesLeft s.input.dataLength], deed.Ok := by
    intro deed hdeed
    obtain hdeed | hdeed := mem_append.mp hdeed
    · exact h.deeds deed hdeed
    · rw [mem_singleton.mp hdeed]
      exact hle
  -- the standard input is closed by the caller
  have hclosed : Passed total s (some .stdinout, { s with
      deeds := s.deeds ++ [Deed.write s.inputBytesLeft s.input.dataLength]
      inputBytesLeft := 0 }) := by
    refine ⟨rfl, rfl, rfl, h.written, hdeeds, fun _ => ⟨⟨id, remaining, packets, hahead, ?_⟩, ?_⟩,
      fun hne => absurd rfl hne⟩
    · intro hopen
      cases hopen
    · exact Nat.zero_le _
  have hopen := h.left hzero
  have heq := htotal hopen
  rw [writeInput, if_neg hzero]
  dsimp only
  split
  · exact ⟨rfl, rfl, rfl, h.written, hdeeds,
      fun _ => ⟨⟨id, remaining, packets, hahead, htotal⟩, hle⟩, fun _ => ⟨rfl, hopen⟩⟩
  · exact hclosed
  next n =>
  split
  · exact hclosed
  next hk =>
  generalize hkdef : min n s.inputBytesLeft = k at hk
  have hkle : k ≤ s.inputBytesLeft := by omega
  have hlen : s.pending.length = s.inputBytesLeft := by
    rw [pending, length_drop, hahead.dataLength]
    omega
  have hbytes : ((s.input.data.drop (s.input.dataLength - s.inputBytesLeft)).take
      s.inputBytesLeft).take k = s.pending.take k := by
    rw [take_take, Nat.min_eq_left hkle]
    rfl
  have hpending : s.input.data.drop (s.input.dataLength - (s.inputBytesLeft - k)) =
      s.pending.drop k := by
    rw [pending, drop_drop]
    congr 1
    omega
  have heq' : total = s.written ++ s.pending.take k ++ s.pending.drop k ++
      (stdinPart id remaining ++ stdinPayload packets) := by
    rw [append_assoc s.written, take_append_drop]
    exact heq
  rw [hbytes]
  refine ⟨rfl, rfl, rfl, ?_, hdeeds, fun _ => ⟨⟨id, remaining, packets, hahead, fun _ => ?_⟩, ?_⟩,
    fun _ => ⟨rfl, hopen⟩⟩
  · rw [heq', append_assoc]
    exact prefix_append _ _
  · show total = s.written ++ s.pending.take k ++
      s.input.data.drop (s.input.dataLength - (s.inputBytesLeft - k)) ++ _
    rw [hpending]
    exact heq'
  · show s.inputBytesLeft - k ≤ s.input.dataLength
    omega

variable {packets : List (UInt8 × Bytes)}

lemma acceptInput_passed {id : UInt8} {remaining : Bytes}
    (w : StdinWrite) (shutdown : Bool) (hwritten : s.written <+: total)
    (hdeeds : ∀ deed ∈ s.deeds, deed.Ok) (hzero : s.inputBytesLeft = 0)
    (hahead : Ahead id remaining packets s.input)
    (htotal : s.sfds.stdinout = true → total = s.written ++
      (stdinPart id s.input.data ++ (stdinPart id remaining ++ stdinPayload packets))) :
    Passed total s (acceptInput w shutdown s) := by
  -- a packet that is not for the standard input
  have hstreams : (s.sfds.stdinout = true → id ≠ ShellId.kIdStdin.byte) → Streams total s := by
    intro hid
    refine ⟨⟨id, remaining, packets, hahead, fun hopen => ?_⟩, by rw [hzero]; exact Nat.zero_le _⟩
    have heq := htotal hopen
    rw [stdinPart, if_neg (hid hopen)] at heq
    rw [pending_nil hahead.dataLength hzero, List.append_nil]
    exact heq
  have hother : (s.sfds.stdinout = true → id ≠ ShellId.kIdStdin.byte) →
      Passed total s (writeInput w s) := by
    intro hid
    exact writeInput_passed w ⟨hwritten, hdeeds, hstreams hid, fun hne => absurd hzero hne⟩
  unfold acceptInput acceptPacket
  rw [hahead.id]
  by_cases hopen : s.sfds.stdinout = true
  · rw [if_pos hopen]
    by_cases hid : id = ShellId.kIdStdin.byte
    · rw [if_pos hid]
      have hfed : Fed total { s with inputBytesLeft := s.input.dataLength } := by
        refine ⟨hwritten, hdeeds, ⟨⟨id, remaining, packets, hahead, fun _ => ?_⟩, Nat.le_refl _⟩,
          fun _ => hopen⟩
        show total = s.written ++ s.input.data.drop (s.input.dataLength - s.input.dataLength) ++ _
        have heq := htotal hopen
        rw [stdinPart, if_pos hid] at heq
        rw [Nat.sub_self, append_assoc]
        exact heq
      have hpassed := writeInput_passed w hfed
      exact ⟨hpassed.sfds, hpassed.readSet, hpassed.writeSet, hpassed.written, hpassed.deeds,
        hpassed.streams, hpassed.left⟩
    · rw [if_neg hid]
      by_cases hclose : id = ShellId.kIdCloseStdin.byte
      · rw [if_pos hclose]
        cases s.type with
        | kPty => exact hother fun _ => hid
        | kRaw =>
          refine ⟨rfl, rfl, rfl, hwritten, hdeeds, fun _ => ?_, fun hne => absurd hzero hne⟩
          cases shutdown with
          | true => exact hstreams fun _ => hid
          | false => exact (hstreams fun _ => hid).congr rfl rfl rfl fun hopen => by cases hopen
      · rw [if_neg hclose]
        exact hother fun _ => hid
  · rw [if_neg hopen]
    exact hother fun hopen' => absurd hopen' hopen

lemma passInput_passed (w : StdinWrite) {shutdown : Bool} (h : Fed total s) :
    ∃ x, passInput w shutdown s = .ok x ∧ Passed total s x := by
  by_cases hzero : s.inputBytesLeft = 0
  · obtain ⟨⟨id, remaining, packets, hahead, htotal⟩, -⟩ := h.streams
    obtain ⟨ok, input, hread, hnext⟩ := ShellProtocol.read_ahead hahead
    have hdeeds : ∀ deed ∈ s.deeds ++ [Deed.read s.inputBytesLeft], deed.Ok := by
      intro deed hdeed
      obtain hdeed | hdeed := mem_append.mp hdeed
      · exact h.deeds deed hdeed
      · rw [mem_singleton.mp hdeed]
        exact hzero
    cases ok with
    | false =>
      refine ⟨(some .protocol, { s with
        input := input, deeds := s.deeds ++ [.read s.inputBytesLeft] }), ?_, ?_⟩
      · rw [passInput, if_pos hzero, hread]
        rfl
      · exact ⟨rfl, rfl, rfl, h.written, hdeeds, fun hne => absurd rfl hne,
          fun hne => absurd hzero hne⟩
    | true =>
      obtain ⟨id', remaining', packets', hahead', heq⟩ := hnext rfl
      refine ⟨acceptInput w shutdown { s with
        input := input, deeds := s.deeds ++ [.read s.inputBytesLeft] }, ?_, ?_⟩
      · rw [passInput, if_pos hzero, hread]
        rfl
      have hpassed := acceptInput_passed (s := { s with
          input := input, deeds := s.deeds ++ [.read s.inputBytesLeft] })
        w shutdown h.written hdeeds hzero hahead' (by
          intro hopen
          have htot := htotal hopen
          rw [pending_nil hahead.dataLength hzero, List.append_nil, heq] at htot
          exact htot)
      exact ⟨hpassed.sfds, hpassed.readSet, hpassed.writeSet, hpassed.written, hpassed.deeds,
        hpassed.streams, hpassed.left⟩
  · refine ⟨writeInput w s, ?_, writeInput_passed w h⟩
    rw [passInput, if_neg hzero]
    rfl

/-! ## A round -/

/-- The client is listened to just when nothing is left of its last packet; otherwise the session waits
for the process, if its standard input is open. -/
structure Sets (s : Subprocess) : Prop where
  read : s.masterReadSet.protocol = true ↔ s.inputBytesLeft = 0
  write : s.masterWriteSet.stdinout = true ↔ s.inputBytesLeft ≠ 0 ∧ s.sfds.stdinout = true

structure Inv (total : Bytes) (s : Subprocess) : Prop where
  written : s.written <+: total
  deeds : ∀ deed ∈ s.deeds, deed.Ok
  streams : s.passes = true → Streams total s
  sets : s.passes = true → Sets s

lemma passes_iff : s.passes = true ↔
    s.sfds.protocol = true ∧ (s.sfds.stdinout = true ∨ s.sfds.stderr = true) := by
  rw [passes, Bool.and_eq_true, Bool.or_eq_true]

lemma Inv.close (h : Inv total s) (dead : Option Sfd) : Inv total (close dead s) := by
  cases dead with
  | none => exact h
  | some sfd =>
    cases sfd with
    | protocol =>
      exact ⟨h.written, h.deeds, fun hp => absurd hp (by simp [Subprocess.close, passes]),
        fun hp => absurd hp (by simp [Subprocess.close, passes])⟩
    | stdinout =>
      have hpasses : (Subprocess.close (some .stdinout) s).passes = true → s.passes = true := by
        simp only [Subprocess.close, passes_iff, FdSet.put]
        intro hp
        exact ⟨hp.1, .inr (hp.2.resolve_left (by simp))⟩
      refine ⟨h.written, h.deeds, fun hp => (h.streams (hpasses hp)).congr rfl rfl rfl
        fun ho => absurd ho (by simp [Subprocess.close, FdSet.put]),
        fun hp => ⟨(h.sets (hpasses hp)).read, ?_⟩⟩
      show false = true ↔ _ ∧ false = true
      simp
    | stderr =>
      have hpasses : (Subprocess.close (some .stderr) s).passes = true → s.passes = true := by
        simp only [Subprocess.close, passes_iff, FdSet.put]
        intro hp
        exact ⟨hp.1, .inl (hp.2.resolve_right (by simp))⟩
      exact ⟨h.written, h.deeds, fun hp => (h.streams (hpasses hp)).congr rfl rfl rfl id,
        fun hp => ⟨(h.sets (hpasses hp)).read, (h.sets (hpasses hp)).write⟩⟩

lemma Inv.fed (h : Inv total s) (hp : s.passes = true)
    (hleft : s.inputBytesLeft ≠ 0 → s.sfds.stdinout = true) : Fed total s :=
  ⟨h.written, h.deeds, h.streams hp, hleft⟩

def OutputRead.dies : OutputRead → Bool
  | .data [] => true
  | .data (_ :: _) => false
  | .fails e => e ≠ .EAGAIN

/-- What a part of the round leaves; `died` says that the standard output was found at its end. -/
structure After (total : Bytes) (died : Prop) (s : Subprocess) (x : Option Sfd × Subprocess) :
    Prop where
  inv : Inv total (Subprocess.close x.1 x.2)
  sfds : x.2.sfds = s.sfds
  left : (s.inputBytesLeft ≠ 0 → s.sfds.stdinout = true) →
    x.2.inputBytesLeft ≠ 0 → s.sfds.stdinout = true
  dead : x.1 = some .stdinout ∧ x.2.inputBytesLeft ≠ 0 ↔ died ∧ s.inputBytesLeft ≠ 0

lemma passOutput_eq (sfd : Sfd) (id : ShellId) (r : OutputRead) {sent : Bool} (s : Subprocess) :
    (∃ output, (passOutput sfd id r sent s).2 = { s with output := output }) ∧
      (sfd ≠ .protocol → ((passOutput sfd id r sent s).1 = some sfd ↔ r.dies = true)) ∧
      ((passOutput sfd id r sent s).1 ≠ some sfd →
        (passOutput sfd id r sent s).1 = none ∨ (passOutput sfd id r sent s).1 = some .protocol) := by
  unfold passOutput
  split
  · exact ⟨⟨s.output, rfl⟩, by simp [OutputRead.dies], by simp⟩
  · next e hne =>
    refine ⟨⟨s.output, rfl⟩, ?_, by simp⟩
    simp only [OutputRead.dies, true_iff, decide_eq_true_eq]
    intro _ heq
    exact hne heq
  · exact ⟨⟨s.output, rfl⟩, by simp [OutputRead.dies], by simp⟩
  · next bytes hne =>
    cases bytes with
    | nil => exact absurd rfl hne
    | cons b rest =>
      split
      · exact ⟨⟨_, rfl⟩, by simp [OutputRead.dies], by simp⟩
      refine ⟨⟨s.output, rfl⟩, ?_, by simp⟩
      intro hsfd
      simp [OutputRead.dies, Ne.symm hsfd]

lemma Inv.output (h : Inv total s) (output : List (ShellId × Bytes)) :
    Inv total { s with output := output } :=
  ⟨h.written, h.deeds, fun hp => (h.streams hp).congr rfl rfl rfl id,
    fun hp => ⟨(h.sets hp).read, (h.sets hp).write⟩⟩

lemma Passed.inv {dead : Option Sfd} {readSet writeSet : FdSet} (h : Passed total s (dead, s'))
    (hread : readSet.protocol = true ↔ s'.inputBytesLeft = 0)
    (hwrite : writeSet.stdinout = true ↔ s'.inputBytesLeft ≠ 0) :
    Inv total (Subprocess.close dead
      { s' with masterReadSet := readSet, masterWriteSet := writeSet }) := by
  have hsfds : s'.sfds = s.sfds := h.sfds
  have hopen : s'.inputBytesLeft ≠ 0 → s'.sfds.stdinout = true := by
    intro hne
    rw [hsfds]
    exact (h.left hne).2
  cases dead with
  | none =>
    refine ⟨h.written, h.deeds, fun _ => (h.streams (by simp)).congr rfl rfl rfl id,
      fun _ => ⟨hread, ?_⟩⟩
    show writeSet.stdinout = true ↔ s'.inputBytesLeft ≠ 0 ∧ s'.sfds.stdinout = true
    rw [hwrite]
    exact ⟨fun hne => ⟨hne, hopen hne⟩, fun hne => hne.1⟩
  | some sfd =>
    have hzero : s'.inputBytesLeft = 0 := by
      by_contra hne
      have hnone := (h.left hne).1
      cases hnone
    have hunset : writeSet.stdinout ≠ true := fun htrue => hwrite.mp htrue hzero
    cases sfd with
    | protocol =>
      exact ⟨h.written, h.deeds, fun hp => absurd hp (by simp [Subprocess.close, passes]),
        fun hp => absurd hp (by simp [Subprocess.close, passes])⟩
    | stdinout =>
      refine ⟨h.written, h.deeds, fun _ => (h.streams (by simp)).congr rfl rfl rfl id,
        fun _ => ⟨hread, ?_⟩⟩
      show false = true ↔ _ ∧ false = true
      simp
    | stderr =>
      refine ⟨h.written, h.deeds, fun _ => (h.streams (by simp)).congr rfl rfl rfl id,
        fun _ => ⟨hread, ?_⟩⟩
      show writeSet.stdinout = true ↔ s'.inputBytesLeft ≠ 0 ∧ s'.sfds.stdinout = true
      exact ⟨fun htrue => absurd htrue hunset, fun hne => absurd hzero hne.1⟩

lemma Passed.after {dead : Option Sfd} {readSet writeSet : FdSet} (h : Passed total s (dead, s'))
    (hread : readSet.protocol = true ↔ s'.inputBytesLeft = 0)
    (hwrite : writeSet.stdinout = true ↔ s'.inputBytesLeft ≠ 0) :
    After total False s (dead, { s' with masterReadSet := readSet, masterWriteSet := writeSet }) := by
  refine ⟨h.inv hread hwrite, h.sfds, fun _ hne => (h.left hne).2, ?_⟩
  constructor
  · intro hdead
    have hnone : dead = none := (h.left hdead.2).1
    have hsome : dead = some .stdinout := hdead.1
    rw [hnone] at hsome
    cases hsome
  · intro hfalse
    exact hfalse.1.elim

lemma readProtocol_after (r : Round) (h : Inv total s) (hp : s.passes = true)
    (hready : s.masterReadSet.protocol = true) :
    ∃ x, readProtocol r s = .ok x ∧ After total False s x := by
  have hsets := h.sets hp
  have hzero := hsets.read.mp hready
  obtain ⟨⟨dead, s1⟩, hpass, hpassed⟩ := passInput_passed r.stdin
    (h.fed hp fun hne => absurd hzero hne)
  have hread1 : s1.masterReadSet = s.masterReadSet := hpassed.readSet
  have hwrite1 : s1.masterWriteSet = s.masterWriteSet := hpassed.writeSet
  by_cases hleft : s1.inputBytesLeft = 0
  · refine ⟨(dead, s1), ?_, hpassed.after ?_ ?_⟩
    · rw [readProtocol, hpass]
      exact if_pos hleft
    · rw [hread1]
      exact ⟨fun _ => hleft, fun _ => hready⟩
    · rw [hwrite1]
      exact ⟨fun htrue => absurd hzero (hsets.write.mp htrue).1, fun hne => absurd hleft hne⟩
  · have hopen : s1.sfds.has .stdinout = true := by
      show s1.sfds.stdinout = true
      rw [show s1.sfds = s.sfds from hpassed.sfds]
      exact (hpassed.left hleft).2
    refine ⟨(dead, { s1 with
        masterReadSet := s1.masterReadSet.put .protocol false
        masterWriteSet := s1.masterWriteSet.put .stdinout true }), ?_, hpassed.after ?_ ?_⟩
    · rw [readProtocol, hpass, ok_bind]
      dsimp only
      rw [if_neg hleft, setWrite, if_pos hopen]
      rfl
    · show false = true ↔ _
      simp [hleft]
    · show true = true ↔ _
      simp [hleft]

lemma writeStdin_after (r : Round) (h : Inv total s) (hp : s.passes = true)
    (hready : s.masterWriteSet.stdinout = true) :
    ∃ x, writeStdin r s = .ok x ∧ After total False s x := by
  have hsets := h.sets hp
  obtain ⟨hne, hopen⟩ := hsets.write.mp hready
  obtain ⟨⟨dead, s1⟩, hpass, hpassed⟩ := passInput_passed r.stdin2 (h.fed hp fun _ => hopen)
  have hread1 : s1.masterReadSet = s.masterReadSet := hpassed.readSet
  have hwrite1 : s1.masterWriteSet = s.masterWriteSet := hpassed.writeSet
  by_cases hleft : s1.inputBytesLeft = 0
  · have hprotocol : s1.sfds.has .protocol = true := by
      show s1.sfds.protocol = true
      rw [show s1.sfds = s.sfds from hpassed.sfds]
      exact (passes_iff.mp hp).1
    refine ⟨(dead, { s1 with
        masterReadSet := s1.masterReadSet.put .protocol true
        masterWriteSet := s1.masterWriteSet.put .stdinout false }), ?_, hpassed.after ?_ ?_⟩
    · rw [writeStdin, hpass, ok_bind]
      dsimp only
      rw [if_pos hleft, setRead, if_pos hprotocol]
      rfl
    · show true = true ↔ _
      simp [hleft]
    · show false = true ↔ _
      simp [hleft]
  · refine ⟨(dead, s1), ?_, hpassed.after ?_ ?_⟩
    · rw [writeStdin, hpass, ok_bind]
      exact if_neg hleft
    · rw [hread1]
      exact ⟨fun htrue => absurd (hsets.read.mp htrue) hne, fun hzero => absurd hzero hleft⟩
    · rw [hwrite1]
      exact ⟨fun _ => hleft, fun _ => hready⟩

/-- In this round the standard output is found at its end, or in error. -/
def stdoutDies (r : Round) (readSet : FdSet) (s : Subprocess) : Prop :=
  ready .stdinout s.masterReadSet readSet s = true ∧ r.stdout.dies = true

lemma passOutputs_spec (r : Round) (readSet : FdSet) (s : Subprocess) :
    ∃ x1 x, unlessDead (ready .stdinout s.masterReadSet readSet)
        (fun s => pure (passOutput .stdinout .kIdStdout r.stdout r.stdoutSent s)) (none, s) =
          .ok x1 ∧
      unlessDead (ready .stderr s.masterReadSet readSet)
        (fun s => pure (passOutput .stderr .kIdStderr r.stderr r.stderrSent s)) x1 = .ok x ∧
      (∃ output, x.2 = { s with output := output }) ∧
      (x.1 = some .stdinout ↔ stdoutDies r readSet s) := by
  -- what stderr adds
  have hstderr : ∀ x1 : Option Sfd × Subprocess, (∃ output, x1.2 = { s with output := output }) →
      (x1.1 = some .stdinout ↔ stdoutDies r readSet s) →
      ∃ x, unlessDead (ready .stderr s.masterReadSet readSet)
          (fun s => pure (passOutput .stderr .kIdStderr r.stderr r.stderrSent s)) x1 = .ok x ∧
        (∃ output, x.2 = { s with output := output }) ∧
        (x.1 = some .stdinout ↔ stdoutDies r readSet s) := by
    intro x1 hx1 hdead
    obtain ⟨output, houtput⟩ := hx1
    by_cases hrun : x1.1 = none ∧ ready .stderr s.masterReadSet readSet x1.2 = true
    · obtain ⟨⟨output', houtput'⟩, -, hcases⟩ :=
        passOutput_eq .stderr .kIdStderr r.stderr x1.2
      refine ⟨_, by rw [unlessDead, if_pos hrun]; rfl, ⟨output', by rw [houtput', houtput]⟩, ?_⟩
      rw [← hdead, hrun.1]
      by_cases hsfd : (passOutput .stderr .kIdStderr r.stderr r.stderrSent x1.2).1 = some .stderr
      · simp [hsfd]
      obtain hnone | hprotocol := hcases hsfd
      · simp [hnone]
      · simp [hprotocol]
    · exact ⟨x1, by rw [unlessDead, if_neg hrun]; rfl, ⟨output, houtput⟩, hdead⟩
  by_cases hready : ready .stdinout s.masterReadSet readSet s = true
  · obtain ⟨houtput, hdies, -⟩ := passOutput_eq .stdinout .kIdStdout r.stdout s
    obtain ⟨x, hx, hrest⟩ := hstderr _ houtput (by rw [hdies (by simp), stdoutDies, hready]; simp)
    exact ⟨_, x, by rw [unlessDead, if_pos ⟨rfl, hready⟩]; rfl, hx, hrest⟩
  · obtain ⟨x, hx, hrest⟩ := hstderr (none, s) ⟨s.output, rfl⟩ (by simp [stdoutDies, hready])
    refine ⟨(none, s), x, ?_, hx, hrest⟩
    rw [unlessDead, if_neg fun hand => hready hand.2]
    rfl

lemma After.of_output {died : Prop} {x : Option Sfd × Subprocess} {output : List (ShellId × Bytes)}
    (h : After total False { s with output := output } x) (hdied : ¬ died) : After total died s x :=
  ⟨h.inv, h.sfds, h.left, h.dead.trans (by simp [hdied])⟩

lemma passData_after (r : Round) (readSet writeSet : FdSet) (h : Inv total s)
    (hp : s.passes = true) :
    ∃ x, passData r readSet writeSet s = .ok x ∧ After total (stdoutDies r readSet s) s x := by
  obtain ⟨x1, ⟨dead, s2⟩, hfirst, hsecond, ⟨output, houtput⟩, hdead⟩ := passOutputs_spec r readSet s
  dsimp only at houtput hdead
  have hinv : Inv total s2 := houtput ▸ h.output output
  have hsets := h.sets hp
  cases dead with
  | some sfd =>
    refine ⟨(some sfd, s2), ?_, ⟨hinv.close _, by rw [houtput], by rw [houtput]; exact id, ?_⟩⟩
    · rw [passData, hfirst, ok_bind, hsecond, ok_bind, unlessDead, if_neg (by simp), pure_eq_ok,
        ok_bind, unlessDead, if_neg (by simp)]
      rfl
    · rw [houtput, hdead]
  | none =>
    have hdied : ¬ stdoutDies r readSet s := by
      rw [← hdead]
      simp
    by_cases hread : ready .protocol s.masterReadSet readSet s2 = true
    · have hmaster : s.masterReadSet.protocol = true := by
        unfold ready at hread
        simp only [Bool.and_eq_true] at hread
        exact hread.1.2
      have hunset : ¬ s.masterWriteSet.stdinout = true := fun htrue =>
        (hsets.write.mp htrue).1 (hsets.read.mp hmaster)
      obtain ⟨x, hx, hafter⟩ := readProtocol_after r hinv (by rw [houtput]; exact hp)
        (by rw [houtput]; exact hmaster)
      refine ⟨x, ?_, After.of_output (houtput ▸ hafter) hdied⟩
      rw [passData, hfirst, ok_bind, hsecond, ok_bind, unlessDead, if_pos ⟨rfl, hread⟩, hx, ok_bind,
        unlessDead, if_neg]
      · rfl
      intro hand
      have hset := hand.2
      unfold ready at hset
      simp only [Bool.and_eq_true] at hset
      exact hunset hset.1.2
    · have hskip : passData r readSet writeSet s =
          unlessDead (ready .stdinout s.masterWriteSet writeSet) (writeStdin r) (none, s2) := by
        rw [passData, hfirst, ok_bind, hsecond, ok_bind, unlessDead, if_neg fun hand => hread hand.2]
        rfl
      rw [hskip]
      by_cases hwrite : ready .stdinout s.masterWriteSet writeSet s2 = true
      · have hmaster : s.masterWriteSet.stdinout = true := by
          unfold ready at hwrite
          simp only [Bool.and_eq_true] at hwrite
          exact hwrite.1.2
        obtain ⟨x, hx, hafter⟩ := writeStdin_after r hinv (by rw [houtput]; exact hp)
          (by rw [houtput]; exact hmaster)
        refine ⟨x, ?_, After.of_output (houtput ▸ hafter) hdied⟩
        rw [unlessDead, if_pos ⟨rfl, hwrite⟩]
        exact hx
      · refine ⟨(none, s2), ?_, ⟨hinv, by rw [houtput], by rw [houtput]; exact id, ?_⟩⟩
        · rw [unlessDead, if_neg fun hand => hwrite hand.2]
          rfl
        · simp [hdied]

lemma round_inv (r : Round) (h : Inv total s) : ∃ s', round r s = .ok s' ∧ Inv total s' := by
  unfold round
  cases hp : s.passes with
  | false => exact ⟨s, rfl, h⟩
  | true =>
    cases r.select with
    | failed e =>
      by_cases he : e = .EINTR
      · rw [he]
        exact ⟨s, rfl, h⟩
      refine ⟨{ s with sfds := { s.sfds with stdinout := false, stderr := false } }, ?_,
        h.written, h.deeds, fun hp' => absurd hp' (by simp [passes]),
        fun hp' => absurd hp' (by simp [passes])⟩
      cases e <;> first | rfl | exact absurd rfl he
    | ready readSet writeSet =>
      obtain ⟨x, hx, hafter⟩ := passData_after r readSet writeSet h hp
      refine ⟨Subprocess.close x.1 x.2, ?_, hafter.inv⟩
      simp [hx]

lemma runs_inv {rounds : List Round} (h : Inv total s) :
    ∃ s', runs round rounds s = .ok s' ∧ Inv total s' := by
  induction rounds generalizing s with
  | nil => exact ⟨s, rfl, h⟩
  | cons r rest ih =>
    obtain ⟨s1, hround, hinv⟩ := round_inv r h
    obtain ⟨s', hrest, hinv'⟩ := ih hinv
    exact ⟨s', by rw [runs, hround]; exact hrest, hinv'⟩

lemma start_inv (type : SubprocessType) {sfds : FdSet}
    {stream : Bytes} {outcomes : List ReadOutcome} {buffer : Bytes}
    (hprotocol : sfds.protocol = true) (hsizes : ∀ x ∈ packets, x.2.length < 2 ^ 32)
    (hstream : stream <+: streamOf packets) (hbuffer : ShellProtocol.kHeaderSize ≤ buffer.length) :
    Inv (stdinPayload packets) (start type sfds
      { fd := { input := stream, outcomes := outcomes }, buffer := buffer }) := by
  refine ⟨⟨_, rfl⟩, by simp [start], fun _ => ⟨⟨_, [], packets, ⟨rfl, hstream, hsizes, rfl,
    hbuffer, ?_⟩, fun _ => ?_⟩, Nat.zero_le _⟩, fun _ => ⟨?_, ?_⟩⟩
  · show (List.take 0 _).length = 0
    rfl
  · have hempty : ∀ id, stdinPart id [] = [] := by
      intro id
      unfold stdinPart
      split <;> rfl
    rw [hempty]
    show _ = [] ++ List.drop _ (List.take 0 _) ++ _
    rfl
  · show sfds.protocol = true ↔ _
    simp [hprotocol, start]
  · show false = true ↔ _
    simp [start]

/-- Whatever the client sends, however its stream arrives and breaks off, and whatever the calls of the
session return: what the process is given is a front of what was sent for its standard input; a
packet is read only when nothing is left of the one before, and a write is within the packet. -/
theorem stdin_integrity (type : SubprocessType) (sfds : FdSet) (hprotocol : sfds.protocol = true)
    (packets : List (UInt8 × Bytes)) (hsizes : ∀ x ∈ packets, x.2.length < 2 ^ 32)
    (stream : Bytes) (hstream : stream <+: streamOf packets) (outcomes : List ReadOutcome)
    (buffer : Bytes) (hbuffer : ShellProtocol.kHeaderSize ≤ buffer.length) (rounds : List Round) :
    ∃ s, runs round rounds (start type sfds
        { fd := { input := stream, outcomes := outcomes }, buffer := buffer }) = .ok s ∧
      s.written <+: stdinPayload packets ∧
      (∀ left, .read left ∈ s.deeds → left = 0) ∧
      ∀ left length, .write left length ∈ s.deeds → left ≤ length := by
  obtain ⟨s, hrun, hinv⟩ := runs_inv (start_inv type hprotocol hsizes hstream hbuffer)
  exact ⟨s, hrun, hinv.written, fun left hmem => hinv.deeds _ hmem,
    fun left length hmem => hinv.deeds _ hmem⟩

/-- Two bytes are sent, of which the process takes one, and the packet that follows is cut off. -/
theorem stdin_integrity_partial :
    ∃ s, runs round [{ select := .ready { protocol := true } {}, stdin := .takes 1 }]
        (start .kRaw { protocol := true, stdinout := true, stderr := true }
          { fd := { input := packetBytes 0 (ascii "ab") ++ [0, 1], outcomes := [.upTo 3] }
            buffer := List.replicate 64 0 }) = .ok s ∧
      s.written <+: stdinPayload [(0, ascii "ab"), (0, ascii "c")] ∧
      (∀ left, .read left ∈ s.deeds → left = 0) ∧
      ∀ left length, .write left length ∈ s.deeds → left ≤ length :=
  stdin_integrity .kRaw { protocol := true, stdinout := true, stderr := true } rfl
    [(0, ascii "ab"), (0, ascii "c")] (by decide) (packetBytes 0 (ascii "ab") ++ [0, 1])
    (by decide) [.upTo 3] (List.replicate 64 0) (by decide) _

end Subprocess

end Adb
