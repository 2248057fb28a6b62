import Adb.Lib.LittleEndian
import Adb.Lib.ReadFd
import Adb.Packet

/-!
# The shell protocol

`ShellProtocol` of `shell_protocol.h` and `shell_service_protocol.cpp`: packets of one byte for what
they are, four bytes for the length, and a payload. The reader has room for a part of a payload only,
and returns it piece by piece; header and payload share one buffer.
-/

namespace Adb

open Lib List

inductive ShellId
  | kIdStdin
  | kIdStdout
  | kIdStderr
  | kIdExit
  | kIdCloseStdin
  | kIdWindowSizeChange
deriving DecidableEq, Repr

def ShellId.byte : ShellId → UInt8
  | .kIdStdin => 0
  | .kIdStdout => 1
  | .kIdStderr => 2
  | .kIdExit => 3
  | .kIdCloseStdin => 4
  | .kIdWindowSizeChange => 5

def kIdInvalid : UInt8 := 255

structure ShellProtocol where
  fd : ReadFd
  /-- `buffer_`, up to `buffer_end_` -/
  buffer : Bytes
  dataLength : ℕ := 0
  bytesLeft : ℕ := 0
deriving DecidableEq, Repr

namespace ShellProtocol

def kHeaderSize : ℕ := 5

def dataCapacity (p : ShellProtocol) : ℕ := p.buffer.length - kHeaderSize

def id (p : ShellProtocol) : UInt8 := p.buffer.headD 0

def data (p : ShellProtocol) : Bytes := (p.buffer.drop kHeaderSize).take p.dataLength

def readInto (offset len : ℕ) (p : ShellProtocol) : Res (Bool × ShellProtocol) :=
  if offset + len ≤ p.buffer.length then
    let (ok, data, fd) := p.fd.readExactly len
    pure (ok, { p with
      fd := fd
      buffer := p.buffer.take offset ++ data ++ p.buffer.drop (offset + data.length) })
  else throw .wild

/-- Only read a new header if we've finished the last packet. -/
def readHeader (p : ShellProtocol) : Res (Bool × ShellProtocol) :=
  if p.bytesLeft = 0 then do
    let (ok, p) ← readInto 0 kHeaderSize p
    pure (ok,
      if ok then { p with bytesLeft := (word32 (p.buffer.drop 1)).toNat, dataLength := 0 } else p)
  else pure (true, p)

/-- `read_length && !ReadFdExactly(fd_, data(), read_length)`. -/
def readBytes (readLength : ℕ) (p : ShellProtocol) : Res (Bool × ShellProtocol) :=
  if readLength = 0 then pure (true, p) else readInto kHeaderSize readLength p

def readData (p : ShellProtocol) : Res (Bool × ShellProtocol) := do
  let readLength := min p.bytesLeft p.dataCapacity
  let (ok, p) ← readBytes readLength p
  pure (ok,
    if ok then { p with bytesLeft := p.bytesLeft - readLength, dataLength := readLength } else p)

def read (p : ShellProtocol) : Res (Bool × ShellProtocol) := do
  let (ok, p) ← readHeader p
  if ok then readData p else pure (false, p)

/-- `Write`: what is handed to `WriteFdExactly`, and the buffer. -/
def write (id : ShellId) (length : ℕ) (buffer : Bytes) : Res (Bytes × Bytes) :=
  if kHeaderSize + length ≤ buffer.length then
    let buffer := id.byte :: le32 (UInt32.ofNat length) ++ buffer.drop kHeaderSize
    pure (buffer.take (kHeaderSize + length), buffer)
  else throw .wild

end ShellProtocol

def packetBytes (id : UInt8) (payload : Bytes) : Bytes :=
  id :: le32 (UInt32.ofNat payload.length) ++ payload

def encodePacket (id : ShellId) (payload : Bytes) : Bytes := packetBytes id.byte payload

namespace ShellProtocol

variable {p : ShellProtocol} {payload rest : Bytes} {id : ShellId}

@[simp] lemma length_header_bytes (id : UInt8) (n : ℕ) :
    (id :: le32 (UInt32.ofNat n)).length = kHeaderSize := by
  rw [length_cons, length_le32]
  rfl

lemma write_eq (id : ShellId) {buffer : Bytes} (header tail : Bytes)
    (hheader : header.length = kHeaderSize) (hbuffer : buffer = header ++ payload ++ tail) :
    ∃ buffer', write id payload.length buffer = .ok (encodePacket id payload, buffer') := by
  have hdrop : buffer.drop kHeaderSize = payload ++ tail := by
    rw [hbuffer, append_assoc, ← hheader, drop_left]
  have hlen : kHeaderSize + payload.length ≤ buffer.length := by
    rw [hbuffer, length_append, length_append]
    omega
  have hpacket : (encodePacket id payload).length = kHeaderSize + payload.length := by
    rw [encodePacket, packetBytes, length_append, length_header_bytes]
  refine ⟨encodePacket id payload ++ tail, ?_⟩
  rw [write, if_pos hlen, hdrop, ← append_assoc]
  show Except.ok ((encodePacket id payload ++ tail).take (kHeaderSize + payload.length), _) = _
  rw [← hpacket, take_left]
  rfl

/-! ## One call of `Read` -/

/-- `remaining` bytes of a packet have not been read, and `rest` comes after it. There is room for `c`
bytes. -/
structure Holds (c : ℕ) (remaining rest : Bytes) (p : ShellProtocol) : Prop where
  bytesLeft : p.bytesLeft = remaining.length
  input : p.fd.input = remaining ++ rest
  reliable : p.fd.Reliable
  buffer : p.buffer.length = kHeaderSize + c

variable {c : ℕ} {remaining : Bytes}

structure Took (data : Bytes) (p p' : ShellProtocol) : Prop where
  input : p.fd.input = data ++ p'.fd.input
  outcomes : p'.fd.outcomes <:+ p.fd.outcomes
  buffer : p'.buffer.length = p.buffer.length

lemma readInto_spec (offset len : ℕ) (hroom : offset + len ≤ p.buffer.length) :
    ∃ ok data fd, readInto offset len p = .ok (ok, { p with
        fd := fd
        buffer := p.buffer.take offset ++ data ++ p.buffer.drop (offset + data.length) }) ∧
      (p.fd.Reliable → len ≤ p.fd.input.length → ok = true) ∧
      (ok = true → data.length = len ∧ p.fd.input = data ++ fd.input ∧
        fd.outcomes <:+ p.fd.outcomes) := by
  obtain ⟨hinput, -, houtcomes, hok⟩ := ReadFd.readExactly_spec p.fd
  refine ⟨_, _, _, ?_, ?_, fun htrue => ⟨hok htrue, hinput, houtcomes⟩⟩
  · rw [readInto, if_pos hroom]
    rfl
  · intro hreliable hlen
    exact ReadFd.readRounds_reliable hreliable hlen (Nat.le_refl _)

lemma length_store (offset : ℕ) (data buffer : Bytes) (h : offset + data.length ≤ buffer.length) :
    (buffer.take offset ++ data ++ buffer.drop (offset + data.length)).length = buffer.length := by
  rw [length_append, length_append, length_take, length_drop]
  omega

lemma readHeader_spec (hzero : p.bytesLeft = 0) (hroom : kHeaderSize ≤ p.buffer.length) :
    ∃ ok p', readHeader p = .ok (ok, p') ∧
      (p.fd.Reliable → kHeaderSize ≤ p.fd.input.length → ok = true) ∧
      (ok = true → ∃ id word, Took (id :: le32 word) p p' ∧ p'.id = id ∧
        p'.bytesLeft = word.toNat ∧ p'.dataLength = 0) := by
  obtain ⟨ok, header, fd, hread, hreliable, hok⟩ := readInto_spec (p := p) 0 kHeaderSize (by omega)
  refine ⟨ok, _, by rw [readHeader, if_pos hzero, hread]; rfl, hreliable, ?_⟩
  intro htrue
  obtain ⟨hlen, hinput, houtcomes⟩ := hok htrue
  have hstore := length_store 0 header p.buffer (by omega)
  -- five bytes are an id and a word
  obtain ⟨id, bytes, rfl⟩ := exists_cons_of_length_eq_add_one hlen
  have hfour : bytes.length = 4 := Nat.succ.inj hlen
  have hword : le32 (word32 bytes) = bytes := by
    rw [le32_word32 (Nat.le_of_eq hfour.symm), take_of_length_le (Nat.le_of_eq hfour)]
  rw [htrue]
  refine ⟨id, word32 bytes, ⟨by rw [hword]; exact hinput, houtcomes, hstore⟩, rfl, ?_, rfl⟩
  show (word32 (bytes ++ _)).toNat = _
  nth_rewrite 1 [← hword]
  rw [word32_append]

lemma readData_spec (hroom : kHeaderSize ≤ p.buffer.length) :
    ∃ ok p', readData p = .ok (ok, p') ∧
      (p.fd.Reliable → min p.bytesLeft p.dataCapacity ≤ p.fd.input.length → ok = true) ∧
      (ok = true → Took p'.data p p' ∧ p'.data.length = min p.bytesLeft p.dataCapacity ∧
        p'.dataLength = min p.bytesLeft p.dataCapacity ∧
        p'.bytesLeft = p.bytesLeft - min p.bytesLeft p.dataCapacity ∧ p'.id = p.id) := by
  have hcapacity : min p.bytesLeft p.dataCapacity ≤ p.buffer.length - kHeaderSize :=
    Nat.min_le_right _ _
  generalize hn : min p.bytesLeft p.dataCapacity = n at hcapacity ⊢
  by_cases hzero : n = 0
  · subst hzero
    refine ⟨true, { p with bytesLeft := p.bytesLeft - 0, dataLength := 0 }, ?_, fun _ _ => rfl, ?_⟩
    · rw [readData, hn, readBytes, if_pos rfl, pure_eq_ok, ok_bind]
      rfl
    intro _
    have hdata : ({ p with bytesLeft := p.bytesLeft - 0, dataLength := 0 } :
        ShellProtocol).data = [] := take_zero
    rw [hdata]
    exact ⟨⟨rfl, suffix_rfl, rfl⟩, rfl, rfl, rfl, rfl⟩
  · obtain ⟨ok, data, fd, hread, hreliable, hok⟩ := readInto_spec (p := p) kHeaderSize n (by omega)
    refine ⟨ok, _, by rw [readData, hn, readBytes, if_neg hzero, hread]; rfl, hreliable, ?_⟩
    intro htrue
    obtain ⟨hlen, hinput, houtcomes⟩ := hok htrue
    have hstore := length_store kHeaderSize data p.buffer (by omega)
    have hheader : (p.buffer.take kHeaderSize).length = kHeaderSize := by
      rw [length_take]
      omega
    have hdata : ((p.buffer.take kHeaderSize ++ data ++
        p.buffer.drop (kHeaderSize + data.length)).drop kHeaderSize).take n = data := by
      rw [append_assoc, drop_left' hheader, ← hlen, take_left]
    rw [htrue, if_pos rfl]
    refine ⟨⟨?_, houtcomes, hstore⟩, ?_, rfl, rfl, ?_⟩
    · show _ = List.take n (List.drop _ _) ++ _
      rw [hdata]
      exact hinput
    · show (List.take n (List.drop _ _)).length = n
      rw [hdata, hlen]
    -- the byte in front of the data is not written
    show (p.buffer.take kHeaderSize ++ data ++ _ : Bytes).headD 0 = p.buffer.headD 0
    cases hbuffer : p.buffer with
    | nil => rw [hbuffer] at hheader; cases hheader
    | cons b more => rfl

lemma readHeader_holds (h : Holds c [] (encodePacket id payload ++ rest) p)
    (hsize : payload.length < 2 ^ 32) :
    ∃ p', readHeader p = .ok (true, p') ∧ Holds c payload rest p' ∧ p'.id = id.byte := by
  have hinput : p.fd.input =
      (id.byte :: le32 (UInt32.ofNat payload.length)) ++ (payload ++ rest) := by
    rw [h.input, encodePacket, packetBytes, nil_append, append_assoc]
  obtain ⟨ok, p', hread, hreliable, hok⟩ := readHeader_spec h.bytesLeft (by rw [h.buffer]; omega)
  obtain rfl := hreliable h.reliable (by rw [hinput, length_append, length_header_bytes]; omega)
  obtain ⟨id', word, htook, hid, hleft, -⟩ := hok rfl
  rw [htook.input] at hinput
  obtain ⟨hheader, hrest⟩ := append_inj hinput (by simp)
  obtain ⟨rfl, hword⟩ := List.cons.inj hheader
  refine ⟨p', hread, ⟨?_, hrest, h.reliable.suffix htook.outcomes, htook.buffer.trans h.buffer⟩, hid⟩
  rw [hleft, ← word32_append word [], hword, word32_append]
  exact UInt32.toNat_ofNat_of_lt' hsize

lemma readData_holds (h : Holds c remaining rest p) :
    ∃ p', readData p = .ok (true, p') ∧ Holds c (remaining.drop c) rest p' ∧ p'.id = p.id ∧
      p'.data = remaining.take c := by
  have hn : min p.bytesLeft p.dataCapacity = (remaining.take c).length := by
    rw [h.bytesLeft, dataCapacity, h.buffer, length_take]
    omega
  have hinput : p.fd.input = remaining.take c ++ (remaining.drop c ++ rest) := by
    rw [h.input, ← append_assoc, take_append_drop]
  obtain ⟨ok, p', hread, hreliable, hok⟩ := readData_spec (p := p) (by rw [h.buffer]; omega)
  rw [hn] at hreliable hok
  obtain rfl := hreliable h.reliable (by rw [hinput, length_append]; omega)
  obtain ⟨htook, hlen, -, hleft, hid⟩ := hok rfl
  rw [htook.input] at hinput
  obtain ⟨hdata, hrest⟩ := append_inj hinput hlen
  refine ⟨p', hread, ⟨?_, hrest, h.reliable.suffix htook.outcomes, htook.buffer.trans h.buffer⟩, hid,
    hdata⟩
  rw [hleft, h.bytesLeft, length_take, length_drop]
  omega

lemma read_header (h : Holds c [] (encodePacket id payload ++ rest) p)
    (hsize : payload.length < 2 ^ 32) :
    ∃ p', read p = .ok (true, p') ∧ Holds c (payload.drop c) rest p' ∧ p'.id = id.byte ∧
      p'.data = payload.take c := by
  obtain ⟨p1, hheader, hholds, hid⟩ := readHeader_holds h hsize
  obtain ⟨p', hdata, hholds', hid', htake⟩ := readData_holds hholds
  refine ⟨p', ?_, hholds', hid'.trans hid, htake⟩
  rw [read, hheader, ok_bind]
  exact hdata

lemma read_more (h : Holds c remaining rest p) (hne : remaining ≠ []) :
    ∃ p', read p = .ok (true, p') ∧ Holds c (remaining.drop c) rest p' ∧ p'.id = p.id ∧
      p'.data = remaining.take c := by
  obtain ⟨p', hdata, hholds', hid', htake⟩ := readData_holds h
  refine ⟨p', ?_, hholds', hid', htake⟩
  have hleft : p.bytesLeft ≠ 0 := by
    rw [h.bytesLeft]
    exact Nat.ne_of_gt (length_pos_of_ne_nil hne)
  rw [read, readHeader, if_neg hleft]
  exact hdata

/-! ## All packets -/

/-- `Read`, `n` times or until it fails, with `id()` and `data()` after each call. -/
def reads : ℕ → ShellProtocol → Res (List (UInt8 × Bytes) × ShellProtocol)
  | 0, p => pure ([], p)
  | n + 1, p => do
    let (ok, p) ← read p
    if ok then do
      let (items, q) ← reads n p
      pure ((p.id, p.data) :: items, q)
    else pure ([], p)

/-- A payload in pieces of `c` bytes, as long as there are so many; `n` is at least the number of
pieces. -/
def pieces (c : ℕ) : ℕ → Bytes → List Bytes
  | 0, remaining => [remaining]
  | n + 1, remaining =>
    if remaining.length ≤ c then [remaining]
    else remaining.take c :: pieces c n (remaining.drop c)

variable {n : ℕ}

lemma pieces_of_le (h : remaining.length ≤ c) : pieces c n remaining = [remaining] := by
  cases n with
  | zero => rfl
  | succ n => exact if_pos h

@[simp] lemma flatten_pieces (c n : ℕ) (remaining : Bytes) :
    (pieces c n remaining).flatten = remaining := by
  induction n generalizing remaining with
  | zero => simp [pieces]
  | succ n ih =>
    rw [pieces]
    split
    · simp
    · rw [flatten_cons, ih, take_append_drop]

def received (c : ℕ) (packets : List (ShellId × Bytes)) : List (UInt8 × Bytes) :=
  packets.flatMap fun x => (pieces c x.2.length x.2).map fun piece => (x.1.byte, piece)

variable {items : List (UInt8 × Bytes)}

lemma reads_succ {p' q : ShellProtocol}
    (h : read p = .ok (true, p')) (hrest : reads n p' = .ok (items, q)) :
    reads (n + 1) p = .ok ((p'.id, p'.data) :: items, q) := by
  rw [reads, h, ok_bind]
  dsimp only
  rw [if_pos rfl, hrest]
  rfl

variable {p1 : ShellProtocol}

lemma reads_last {x : Bytes} (hlast : x.length ≤ c) (hread : read p = .ok (true, p1))
    (hholds : Holds c (x.drop c) rest p1) (hdata : p1.data = x.take c) :
    Holds c [] rest p1 ∧ ∀ k items q, reads k p1 = .ok (items, q) →
      reads ((pieces c n x).length + k) p =
        .ok ((pieces c n x).map (fun piece => (p1.id, piece)) ++ items, q) := by
  rw [drop_of_length_le hlast] at hholds
  rw [take_of_length_le hlast] at hdata
  refine ⟨hholds, ?_⟩
  intro k items q hrest
  rw [pieces_of_le hlast, length_singleton, Nat.add_comm, reads_succ hread hrest, hdata]
  rfl

lemma reads_pieces {x : Bytes} (hc : 1 ≤ c) (hn : x.length ≤ n) (hread : read p = .ok (true, p1))
    (hholds : Holds c (x.drop c) rest p1) (hdata : p1.data = x.take c) :
    ∃ p', Holds c [] rest p' ∧ ∀ k items q, reads k p' = .ok (items, q) →
      reads ((pieces c n x).length + k) p =
        .ok ((pieces c n x).map (fun piece => (p1.id, piece)) ++ items, q) := by
  induction n generalizing x p p1 with
  | zero => exact ⟨p1, reads_last (by omega) hread hholds hdata⟩
  | succ n ih =>
    by_cases hlast : x.length ≤ c
    · exact ⟨p1, reads_last hlast hread hholds hdata⟩
    have hdrop : x.drop c ≠ [] := by
      intro hnil
      rw [drop_eq_nil_iff] at hnil
      exact hlast hnil
    obtain ⟨p2, hread2, hholds2, hid, hdata2⟩ := read_more hholds hdrop
    obtain ⟨p', hholds', hreads⟩ := ih (by rw [length_drop]; omega) hread2 hholds2 hdata2
    refine ⟨p', hholds', ?_⟩
    intro k items q hrest
    have hmore := hreads k items q hrest
    rw [hid] at hmore
    rw [pieces, if_neg hlast, length_cons, Nat.add_right_comm, reads_succ hread hmore, hdata]
    rfl

lemma reads_packets (hc : 1 ≤ c) {packets : List (ShellId × Bytes)}
    (hsizes : ∀ x ∈ packets, x.2.length < 2 ^ 32)
    (h : Holds c [] (packets.flatMap (fun x => encodePacket x.1 x.2) ++ rest) p) :
    ∃ q, reads (received c packets).length p = .ok (received c packets, q) ∧ Holds c [] rest q := by
  induction packets generalizing p with
  | nil => exact ⟨p, rfl, h⟩
  | cons x more ih =>
    rw [flatMap_cons, append_assoc] at h
    obtain ⟨p1, hread, hholds, hid, hdata⟩ := read_header h (hsizes x (by simp))
    obtain ⟨p2, hholds2, hreads⟩ := reads_pieces hc (Nat.le_refl _) hread hholds hdata
    obtain ⟨q, hmore, hq⟩ := ih (fun y hy => hsizes y (by simp [hy])) hholds2
    refine ⟨q, ?_, hq⟩
    have hall := hreads _ _ _ hmore
    rw [hid] at hall
    rw [received, flatMap_cons, length_append, length_map]
    exact hall

lemma reads_take {q : ShellProtocol} (m n : ℕ)
    (h : reads (m + n) p = .ok (items, q)) (hlen : items.length = m + n) :
    ∃ q', reads m p = .ok (items.take m, q') := by
  induction m generalizing p items with
  | zero => exact ⟨p, rfl⟩
  | succ m ih =>
    rw [Nat.add_right_comm, reads] at h
    obtain ⟨⟨ok, p1⟩, hread, h⟩ := bind_eq_ok.mp h
    dsimp only at h
    cases ok with
    | false =>
      cases h
      rw [length_nil] at hlen
      omega
    | true =>
      rw [if_pos rfl] at h
      obtain ⟨⟨items', q1⟩, hrest, h⟩ := bind_eq_ok.mp h
      cases h
      rw [length_cons] at hlen
      dsimp only at hlen
      obtain ⟨q', hq'⟩ := ih hrest (by omega)
      exact ⟨q', reads_succ hread hq'⟩

end ShellProtocol

/-- Packets are read by a `ShellProtocol` with room for `c` bytes, however the bytes arrive: each of the
first calls of `Read` returns the next piece of a payload, of `min(c, remaining)` bytes, with the id
of its packet. -/
theorem shellProtocol_roundTrip (c : ℕ) (hc : 1 ≤ c) (packets : List (ShellId × Bytes))
    (hsizes : ∀ x ∈ packets, x.2.length < 2 ^ 32) (rest : Bytes) (outcomes : List ReadOutcome)
    (hreads : ∀ e, ReadOutcome.fails e ∉ outcomes) (buffer : Bytes)
    (hbuffer : buffer.length = ShellProtocol.kHeaderSize + c) (m : ℕ)
    (hm : m ≤ (ShellProtocol.received c packets).length) :
    (∃ q, ShellProtocol.reads m
        { fd := { input := packets.flatMap (fun x => encodePacket x.1 x.2) ++ rest
                  outcomes := outcomes }
          buffer := buffer } =
      .ok ((ShellProtocol.received c packets).take m, q)) ∧
      ∀ x ∈ packets, (ShellProtocol.pieces c x.2.length x.2).flatten = x.2 := by
  obtain ⟨q, hall, -⟩ := ShellProtocol.reads_packets hc hsizes
    (p := { fd := { input := packets.flatMap (fun x => encodePacket x.1 x.2) ++ rest
                    outcomes := outcomes }
            buffer := buffer }) ⟨rfl, rfl, hreads, hbuffer⟩
  have hsplit : m + ((ShellProtocol.received c packets).length - m) =
      (ShellProtocol.received c packets).length := by omega
  rw [← hsplit] at hall
  exact ⟨ShellProtocol.reads_take m _ hall hsplit.symm, fun x _ => ShellProtocol.flatten_pieces ..⟩

/-- Ten bytes, read four at a time, and an empty packet: the bytes come one by one. -/
theorem shellProtocol_roundTrip_overflow :
    ∃ q, ShellProtocol.reads 4
        { fd := { input := encodePacket .kIdStdin (ascii "1234567890") ++ encodePacket .kIdStderr []
                  outcomes := List.replicate 20 (.upTo 1) }
          buffer := List.replicate 9 0 } =
      .ok ([(0, ascii "1234"), (0, ascii "5678"), (0, ascii "90"), (2, [])], q) := by
  have h := shellProtocol_roundTrip 4 (by decide)
    [(.kIdStdin, ascii "1234567890"), (.kIdStderr, [])] (by decide) []
    (List.replicate 20 (.upTo 1)) (by simp) (List.replicate 9 0) (by decide) 4 (by decide)
  exact h.1

end Adb
