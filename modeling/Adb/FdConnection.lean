import Adb.IoVectorTheorems
import Adb.Lib.Framing
import Adb.Lib.Run
import Adb.Wire

/-!
# Two readers of packets

`FdConnection::Read` of `transport.cpp` waits for the bytes it needs, and takes a packet at a time
off the stream. `NonblockingFdConnection::Run` of `transport_fd.cpp` is handed the bytes as they
arrive. This module compares the packets that the two find.
-/

namespace Adb

open Lib List

/-! ## The blocking reader -/

/-- `FdConnection::Read`, on the bytes that have arrived: `more` while `ReadFdExactly` waits. -/
def fdConnectionRead (b : Bytes) : Parse UInt8 APacket :=
  if b.length < AMessage.size then .more
  else
    let msg := AMessage.ofBytes (b.take AMessage.size)
    let body := b.drop AMessage.size
    if maxPayload < msg.dataLength.toNat then .reject
    else if body.length < msg.dataLength.toNat then .more
    else .item ⟨msg, body.take msg.dataLength.toNat⟩ (body.drop msg.dataLength.toNat)

/-! ## The other reader -/

structure NonblockingFdConnection where
  readHeader : Option AMessage := none
  readBuffer : IOVector := {}
  /-- What `read_callback_` has been called with. -/
  packets : List APacket := []
  /-- `Run` has returned, with this error. -/
  error : Option String := none
deriving DecidableEq, Repr

namespace NonblockingFdConnection

/-- `if (!read_header_ && read_buffer_.size() >= sizeof(amessage))`. -/
def takeHeader (n : NonblockingFdConnection) : Res NonblockingFdConnection :=
  if n.readHeader = none ∧ AMessage.size ≤ n.readBuffer.size then do
    let (front, buffer) ← n.readBuffer.takeFront AMessage.size
    let headerBuf ← front.coalesce
    check (AMessage.size == headerBuf.length) .headerSize
    pure { n with readHeader := some (AMessage.ofBytes headerBuf), readBuffer := buffer }
  else pure n

/-- `if (read_header_ && read_buffer_.size() >= read_header_->data_length)`. -/
def takePacket (n : NonblockingFdConnection) : Res NonblockingFdConnection :=
  match n.readHeader with
  | none => pure n
  | some header =>
    if header.dataLength.toNat ≤ n.readBuffer.size then do
      let (dataChain, buffer) ← n.readBuffer.takeFront header.dataLength.toNat
      let payload ← dataChain.coalesce
      pure { n with
        readHeader := none
        readBuffer := buffer
        packets := n.packets ++ [⟨header, payload⟩] }
    else pure n

inductive Read
  | failed (strerror : String)
  | eof
  | data (block : Bytes)
deriving DecidableEq, Repr

def onRead (read : Read) (n : NonblockingFdConnection) : Res NonblockingFdConnection :=
  if n.error ≠ none then pure n
  else
    match read with
    | .failed strerror => pure { n with error := some ("read failed: " ++ strerror) }
    | .eof => pure { n with error := some "read failed: EOF" }
    | .data block => do
      let buffer ← n.readBuffer.append block
      let n ← takeHeader { n with readBuffer := buffer }
      takePacket n

end NonblockingFdConnection

abbrev Chunk := { block : Bytes // block ≠ [] ∧ block.length ≤ maxPayload }

def received (chunks : List Chunk) : Bytes := (chunks.map Subtype.val).flatten

/-- `Run`, up to the end of the last read. -/
def nonblockingRun (chunks : List Chunk) (n : NonblockingFdConnection) :
    Res NonblockingFdConnection :=
  runs (fun c => NonblockingFdConnection.onRead (.data c.val)) chunks n

/-! ## The framing of packets -/

variable {b c header : Bytes}

lemma header_cases (b : Bytes) :
    b.length < AMessage.size ∨
      ∃ header body : Bytes, b = header ++ body ∧ header.length = AMessage.size := by
  by_cases hsize : b.length < AMessage.size
  · exact .inl hsize
  refine .inr ⟨b.take AMessage.size, b.drop AMessage.size, (take_append_drop _ _).symm, ?_⟩
  rw [length_take]
  omega

lemma fdConnectionRead_short (h : b.length < AMessage.size) : fdConnectionRead b = .more :=
  if_pos h

lemma fdConnectionRead_append (hheader : header.length = AMessage.size) (body : Bytes) :
    fdConnectionRead (header ++ body) =
      if maxPayload < (AMessage.ofBytes header).dataLength.toNat then .reject
      else if body.length < (AMessage.ofBytes header).dataLength.toNat then .more
      else .item ⟨AMessage.ofBytes header, body.take (AMessage.ofBytes header).dataLength.toNat⟩
        (body.drop (AMessage.ofBytes header).dataLength.toNat) := by
  have hlen : ¬ (header ++ body).length < AMessage.size := by
    rw [length_append]
    omega
  rw [fdConnectionRead, if_neg hlen]
  simp [← hheader]

/-- What `FdConnection::Read` finds does not depend on what comes later; `packetFramer.decode` is what
it returns on the bytes, one call after the other. -/
def packetFramer : Framer UInt8 APacket where
  next := fdConnectionRead
  item_append := by
    intro b p r h c
    rcases header_cases b with hshort | ⟨header, body, rfl, hheader⟩
    · rw [fdConnectionRead_short hshort] at h
      cases h
    rw [append_assoc]
    rw [fdConnectionRead_append hheader] at h ⊢
    by_cases hmax : maxPayload < (AMessage.ofBytes header).dataLength.toNat
    · rw [if_pos hmax] at h
      cases h
    by_cases hlen : body.length < (AMessage.ofBytes header).dataLength.toNat
    · rw [if_neg hmax, if_pos hlen] at h
      cases h
    rw [if_neg hmax, if_neg hlen] at h
    cases h
    rw [if_neg hmax, if_neg (by rw [length_append]; omega),
      take_append_of_le_length (by omega), drop_append_of_le_length (by omega)]
  reject_append := by
    intro b h c
    rcases header_cases b with hshort | ⟨header, body, rfl, hheader⟩
    · rw [fdConnectionRead_short hshort] at h
      cases h
    rw [append_assoc]
    rw [fdConnectionRead_append hheader] at h ⊢
    by_cases hmax : maxPayload < (AMessage.ofBytes header).dataLength.toNat
    · rw [if_pos hmax]
    · rw [if_neg hmax] at h
      split at h <;> cases h
  shrinks := by
    intro b p r h
    rcases header_cases b with hshort | ⟨header, body, rfl, hheader⟩
    · rw [fdConnectionRead_short hshort] at h
      cases h
    rw [fdConnectionRead_append hheader] at h
    split at h
    · cases h
    split at h
    · cases h
    cases h
    rw [length_drop, length_append, hheader, AMessage.size]
    omega

/-! ## One round of the other reader -/

namespace NonblockingFdConnection

variable {n : NonblockingFdConnection}

structure Waiting (n : NonblockingFdConnection) (b : Bytes) : Prop where
  wf : n.readBuffer.Wf
  running : n.error = none
  pending : n.readHeader = none ∧ n.readBuffer.bytes = b ∨
    ∃ header, header.length = AMessage.size ∧ n.readHeader = some (AMessage.ofBytes header) ∧
      header ++ n.readBuffer.bytes = b

lemma takeFront_coalesce {v : IOVector} (h : v.Wf) {len : ℕ} (hlen : len ≤ v.size) :
    ∃ head w, v.takeFront len = .ok (head, w) ∧ head.coalesce = .ok (v.bytes.take len) ∧ w.Wf ∧
      w.bytes = v.bytes.drop len := by
  by_cases hzero : len = 0
  · subst hzero
    exact ⟨{}, v, rfl, rfl, h, rfl⟩
  obtain ⟨head, w, hrun, hsplit⟩ := IOVector.takeFront_split h.shape (by omega) hlen
  refine ⟨head, w, hrun, ?_, hsplit.restShape.wf (hsplit.endOffset.trans h.endOffset), ?_⟩
  · rw [hsplit.headShape.coalesce_eq, hsplit.headValue, h.shape.value_eq_bytes]
  · rw [← hsplit.restShape.value_eq_bytes, hsplit.restValue, h.shape.value_eq_bytes]

lemma takeHeader_spec (h : Waiting n b) :
    ∃ n', takeHeader n = .ok n' ∧ Waiting n' b ∧ n'.packets = n.packets ∧
      (n'.readHeader = none → b.length < AMessage.size) := by
  unfold takeHeader
  rcases h.pending with ⟨hnone, hbytes⟩ | ⟨header, hheader, hsome, hbytes⟩
  · have hsize : n.readBuffer.size = b.length := by rw [h.wf.size_eq_length, hbytes]
    by_cases hlen : AMessage.size ≤ n.readBuffer.size
    · obtain ⟨front, buffer, htake, hfront, hwf, hrest⟩ := takeFront_coalesce h.wf hlen
      have hheader : (n.readBuffer.bytes.take AMessage.size).length = AMessage.size := by
        rw [length_take, ← h.wf.size_eq_length]
        omega
      simp only [if_pos (And.intro hnone hlen), htake, ok_bind, hfront, hheader, beq_self_eq_true,
        check_true]
      refine ⟨_, rfl, ⟨hwf, h.running, .inr ⟨_, hheader, rfl, ?_⟩⟩, rfl, nofun⟩
      rw [hrest, take_append_drop, hbytes]
    · rw [if_neg (fun hc => hlen hc.2)]
      exact ⟨n, rfl, h, rfl, fun _ => by omega⟩
  · rw [if_neg (by simp [hsome])]
    exact ⟨n, rfl, h, rfl, fun hnone => by rw [hsome] at hnone; cases hnone⟩

def Handed (n n' : NonblockingFdConnection) (b : Bytes) : Prop :=
  fdConnectionRead b = .more ∧ Waiting n' b ∧ n'.packets = n.packets ∨
    ∃ p r, fdConnectionRead b = .item p r ∧ Waiting n' r ∧ n'.packets = n.packets ++ [p]

lemma takePacket_spec (h : Waiting n b) (hheader : n.readHeader = none → b.length < AMessage.size)
    (hread : fdConnectionRead b ≠ .reject) : ∃ n', takePacket n = .ok n' ∧ Handed n n' b := by
  unfold takePacket
  rcases h.pending with ⟨hnone, -⟩ | ⟨header, hlen, hsome, rfl⟩
  · rw [hnone]
    exact ⟨n, rfl, .inl ⟨fdConnectionRead_short (hheader hnone), h, rfl⟩⟩
  rw [hsome]
  have hsize := h.wf.size_eq_length
  rw [fdConnectionRead_append hlen] at hread
  have hmax : ¬ maxPayload < (AMessage.ofBytes header).dataLength.toNat := by
    intro hmax
    exact hread (if_pos hmax)
  by_cases hall : (AMessage.ofBytes header).dataLength.toNat ≤ n.readBuffer.size
  · obtain ⟨data, buffer, htake, hdata, hwf, hrest⟩ := takeFront_coalesce h.wf hall
    simp only [if_pos hall, htake, ok_bind, hdata]
    refine ⟨_, rfl, .inr ⟨_, _, ?_, ⟨hwf, h.running, .inl ⟨rfl, hrest⟩⟩, rfl⟩⟩
    rw [fdConnectionRead_append hlen, if_neg hmax, if_neg (by omega)]
  · simp only [if_neg hall]
    refine ⟨n, rfl, .inl ⟨?_, h, rfl⟩⟩
    rw [fdConnectionRead_append hlen, if_neg hmax, if_pos (by omega)]

lemma onRead_spec (h : Waiting n b) (hc : c ≠ []) (hread : fdConnectionRead (b ++ c) ≠ .reject) :
    ∃ n', onRead (.data c) n = .ok n' ∧ Handed n n' (b ++ c) := by
  obtain ⟨buffer, happend, hwf, hbytes⟩ := IOVector.append_spec h.wf hc
  have hwaiting : Waiting { n with readBuffer := buffer } (b ++ c) := by
    refine ⟨hwf, h.running, ?_⟩
    rcases h.pending with ⟨hnone, rfl⟩ | ⟨header, hlen, hsome, rfl⟩
    · exact .inl ⟨hnone, hbytes⟩
    · exact .inr ⟨header, hlen, hsome, by rw [hbytes, append_assoc]⟩
  obtain ⟨n1, htake, hwaiting1, hpackets1, hheader⟩ := takeHeader_spec hwaiting
  obtain ⟨n2, hpacket, hhanded⟩ := takePacket_spec hwaiting1 hheader hread
  refine ⟨n2, ?_, ?_⟩
  · rw [onRead, if_neg (by simp [h.running])]
    simp [happend, htake, hpacket]
  · rw [Handed, hpackets1] at hhanded
    exact hhanded

variable {n' : NonblockingFdConnection}

lemma takeHeader_error (hrun : takeHeader n = .ok n') : n'.error = n.error := by
  unfold takeHeader at hrun
  split at hrun
  · obtain ⟨⟨front, buffer⟩, -, hrun⟩ := bind_eq_ok.mp hrun
    obtain ⟨headerBuf, -, hrun⟩ := bind_eq_ok.mp hrun
    obtain ⟨_, -, hrun⟩ := bind_eq_ok.mp hrun
    cases hrun
    rfl
  · cases hrun
    rfl

lemma takePacket_error (hrun : takePacket n = .ok n') : n'.error = n.error := by
  unfold takePacket at hrun
  split at hrun
  · cases hrun
    rfl
  split at hrun
  · obtain ⟨⟨data, buffer⟩, -, hrun⟩ := bind_eq_ok.mp hrun
    obtain ⟨payload, -, hrun⟩ := bind_eq_ok.mp hrun
    cases hrun
    rfl
  · cases hrun
    rfl

lemma onRead_error (hrun : onRead (.data c) n = .ok n') : n'.error = n.error := by
  unfold onRead at hrun
  split at hrun
  · cases hrun
    rfl
  obtain ⟨buffer, -, hrun⟩ := bind_eq_ok.mp hrun
  obtain ⟨n1, hheader, hpacket⟩ := bind_eq_ok.mp hrun
  rw [takePacket_error hpacket, takeHeader_error hheader]

/-! ## Whole runs -/

/-- After the bytes `b` the two readers have found the same packets. -/
structure Reads (n : NonblockingFdConnection) (b : Bytes) : Prop where
  waiting : Waiting n (packetFramer.decode b).rest
  packets : n.packets = (packetFramer.decode b).items
  accepted : (packetFramer.decode b).rejected = false

lemma reads_nil : Reads {} [] :=
  ⟨⟨IOVector.wf_empty, rfl, .inl ⟨rfl, rfl⟩⟩, rfl, rfl⟩

lemma Reads.step (h : Reads n b) (hc : c ≠ [])
    (hok : (packetFramer.decode (b ++ c)).rejected = false) :
    ∃ n', onRead (.data c) n = .ok n' ∧ n'.packets.length ≤ n.packets.length + 1 ∧
      ((packetFramer.decode (b ++ c)).items.length ≤ (packetFramer.decode b).items.length + 1 →
        Reads n' (b ++ c)) := by
  have hread : fdConnectionRead ((packetFramer.decode b).rest ++ c) ≠ .reject := by
    intro hreject
    rw [packetFramer.decode_append_reject h.accepted hreject] at hok
    cases hok
  obtain ⟨n', hrun, hhanded⟩ := onRead_spec h.waiting hc hread
  rcases hhanded with ⟨hmore, hwaiting, hpackets⟩ | ⟨p, r, hitem, hwaiting, hpackets⟩
  · have happend := packetFramer.decode_append_more h.accepted hmore
    refine ⟨n', hrun, by rw [hpackets]; omega, ?_⟩
    intro _
    refine ⟨?_, ?_, hok⟩
    · rw [happend]
      exact hwaiting
    · rw [happend, hpackets, h.packets]
  · have happend := packetFramer.decode_append_item h.accepted hitem
    refine ⟨n', hrun, by rw [hpackets, length_append]; exact Nat.le_refl _, ?_⟩
    intro hcount
    -- nothing is left for a second packet
    have hnil : (packetFramer.decode r).items = [] := by
      apply eq_nil_of_length_eq_zero
      rw [happend, length_append, length_cons] at hcount
      omega
    refine ⟨?_, ?_, hok⟩
    · rw [happend, packetFramer.rest_eq hnil]
      exact hwaiting
    · rw [happend, hnil, hpackets, h.packets]

end NonblockingFdConnection

open NonblockingFdConnection

/-- After the reads, the two readers have found the same packets, and both of them or neither has
turned down a header. -/
def Agrees (chunks : List Chunk) : Prop :=
  ∃ n, nonblockingRun chunks {} = .ok n ∧ n.packets = (packetFramer.decode (received chunks)).items ∧
    n.error.isSome = (packetFramer.decode (received chunks)).rejected

/-- The bytes have no header with a length above `MAX_PAYLOAD`. -/
def Accepted (chunks : List Chunk) : Prop :=
  (packetFramer.decode (received chunks)).rejected = false

/-- The read of `c` completes one packet at most. -/
def CompletesOne (chunks : List Chunk) (c : Chunk) : Prop :=
  (packetFramer.decode (received (chunks ++ [c]))).items.length ≤
    (packetFramer.decode (received chunks)).items.length + 1

variable {chunks : List Chunk} {n n' : NonblockingFdConnection}

lemma received_concat {c : Chunk} : received (chunks ++ [c]) = received chunks ++ c.val := by
  simp [received]

lemma nonblockingRun_concat {c : Chunk} (hrun : nonblockingRun chunks {} = .ok n) :
    nonblockingRun (chunks ++ [c]) {} = onRead (.data c.val) n := by
  rw [nonblockingRun, runs_concat]
  rw [nonblockingRun] at hrun
  rw [hrun, ok_bind]

lemma Agrees.step {c : Chunk} (hrun : nonblockingRun chunks {} = .ok n)
    (hreads : Reads n (received chunks)) (h : Agrees (chunks ++ [c])) :
    Accepted (chunks ++ [c]) ∧ CompletesOne chunks c ∧
      ∃ n', nonblockingRun (chunks ++ [c]) {} = .ok n' ∧ Reads n' (received (chunks ++ [c])) := by
  obtain ⟨n', hrun', hpackets, herror⟩ := h
  rw [nonblockingRun_concat hrun] at hrun'
  have hok : Accepted (chunks ++ [c]) := by
    rw [onRead_error hrun', hreads.waiting.running] at herror
    exact herror.symm
  unfold Accepted at hok
  rw [received_concat] at hok
  obtain ⟨m, hrun'', hlength, hnext⟩ := hreads.step c.property.1 hok
  rw [hrun'] at hrun''
  cases hrun''
  rw [hpackets, hreads.packets] at hlength
  rw [received_concat] at hlength
  rw [Accepted, CompletesOne, nonblockingRun_concat hrun, received_concat]
  exact ⟨hok, hlength, n', hrun', hnext hlength⟩

lemma reads_of_agrees (h : ∀ pre, pre <+: chunks → Agrees pre) :
    ∃ n, nonblockingRun chunks {} = .ok n ∧ Reads n (received chunks) := by
  induction chunks using List.reverseRecOn with
  | nil => exact ⟨{}, rfl, reads_nil⟩
  | append_singleton chunks c ih =>
    obtain ⟨n, hrun, hreads⟩ := ih fun pre hpre => h pre (hpre.trans (prefix_append _ _))
    exact (Agrees.step hrun hreads (h _ (prefix_refl _))).2.2

lemma reads_of_completesOne (haccepted : ∀ pre, pre <+: chunks → Accepted pre)
    (hone : ∀ pre c, pre ++ [c] <+: chunks → CompletesOne pre c) :
    ∃ n, nonblockingRun chunks {} = .ok n ∧ Reads n (received chunks) := by
  induction chunks using List.reverseRecOn with
  | nil => exact ⟨{}, rfl, reads_nil⟩
  | append_singleton chunks c ih =>
    have hprefix : chunks <+: chunks ++ [c] := prefix_append _ _
    obtain ⟨n, hrun, hreads⟩ := ih (fun pre hpre => haccepted pre (hpre.trans hprefix))
      fun pre c hpre => hone pre c (hpre.trans hprefix)
    have hok := haccepted _ (prefix_refl _)
    have hcount := hone _ _ (prefix_refl _)
    rw [Accepted, received_concat] at hok
    rw [CompletesOne, received_concat] at hcount
    obtain ⟨n', hrun', -, hnext⟩ := hreads.step c.property.1 hok
    rw [nonblockingRun_concat hrun, received_concat]
    exact ⟨n', hrun', hnext hcount⟩

/-- The readers agree after every read exactly if no header is turned down and no read completes
more than one packet. -/
theorem nonblocking_agrees_iff (chunks : List Chunk) :
    (∀ pre, pre <+: chunks → Agrees pre) ↔ (∀ pre, pre <+: chunks → Accepted pre) ∧
        ∀ pre c, pre ++ [c] <+: chunks → CompletesOne pre c := by
  constructor
  · intro h
    constructor
    · intro pre hpre
      obtain ⟨n, -, hreads⟩ := reads_of_agrees fun q hq => h q (hq.trans hpre)
      exact hreads.accepted
    intro pre c hpre
    have hprefix : pre <+: chunks := (prefix_append _ _).trans hpre
    obtain ⟨n, hrun, hreads⟩ := reads_of_agrees fun q hq => h q (hq.trans hprefix)
    exact (Agrees.step hrun hreads (h _ hpre)).2.1
  · intro h pre hpre
    obtain ⟨haccepted, hone⟩ := h
    obtain ⟨n, hrun, hreads⟩ := reads_of_completesOne (fun q hq => haccepted q (hq.trans hpre))
      fun q c hq => hone q c (hq.trans hpre)
    refine ⟨n, hrun, hreads.packets, ?_⟩
    rw [hreads.waiting.running, hreads.accepted]
    rfl

def twoPackets : Chunk :=
  ⟨(packetOf A_OKAY 1 2).msg.bytes ++ (packetOf A_CLSE 1 2).msg.bytes, by decide⟩

def tooLong : Chunk :=
  ⟨AMessage.bytes { command := A_WRTE, dataLength := 0x100001 }, by decide⟩

/-- Of two packets in one read the second is not handed over, and a header that the blocking reader
turns down is kept, to wait for its payload. -/
theorem nonblocking_disagrees : ¬ Agrees [twoPackets] ∧ ¬ Agrees [tooLong] := by
  constructor
  · intro h
    obtain ⟨n, hrun, hpackets, -⟩ := h
    have htest : returns (nonblockingRun [twoPackets] {}) (fun n => n.packets.length = 1) = true := by
      decide +kernel
    obtain ⟨n', hrun', hlength⟩ := returns_iff.mp htest
    rw [hrun] at hrun'
    cases hrun'
    have htwo : (packetFramer.decode (received [twoPackets])).items.length = 2 := by decide +kernel
    rw [← hpackets, of_decide_eq_true hlength] at htwo
    cases htwo
  · intro h
    obtain ⟨n, hrun, -, herror⟩ := h
    have htest : returns (nonblockingRun [tooLong] {}) (fun n => n.error = none) = true := by
      decide +kernel
    obtain ⟨n', hrun', hnone⟩ := returns_iff.mp htest
    rw [hrun] at hrun'
    cases hrun'
    have hrejected : (packetFramer.decode (received [tooLong])).rejected = true := by decide +kernel
    rw [hrejected, of_decide_eq_true hnone] at herror
    cases herror

end Adb
