import Adb.FdWriter

/-!
# Packets from one side to the other

What a `NonblockingFdConnection` writes is read by the `FdConnection` of the other side. The reader
goes by the length in the header of a packet.
-/

namespace Adb

open Lib List

/-- The header says how long the payload is, and it is not too long. -/
def APacket.Framed (p : APacket) : Prop :=
  p.msg.dataLength.toNat = p.payload.length ∧ p.payload.length ≤ maxPayload

lemma AMessage.ofBytes_bytes (m : AMessage) : ofBytes m.bytes = m := by
  have hlast (w : UInt32) : word32 (le32 w) = w := by
    simpa using word32_append w []
  simp [ofBytes, bytes, drop_append, drop_eq_nil_of_le, word32_append, hlast]

lemma fdConnectionRead_packet {p : APacket} (h : p.Framed) (b : Bytes) :
    fdConnectionRead (p.bytes ++ b) = .item p b := by
  obtain ⟨hlen, hle⟩ := h
  rw [APacket.bytes, append_assoc, fdConnectionRead_append (FdWriter.length_msg_bytes p.msg),
    AMessage.ofBytes_bytes, hlen, if_neg (by omega), if_neg (by simp), take_left, drop_left]

namespace FdWriter

variable {w w' : FdWriter} {turns : List Turn}

/-- The packets that `Write` is called with. -/
def packetsOf (turns : List Turn) : List APacket := (turns.filterMap Turn.written).map Prod.fst

lemma runs_offered (h : Inv w) (hrun : runs step turns w = .ok w') :
    Inv w' ∧ w'.offered = w.offered ++ (packetsOf turns).flatMap APacket.bytes := by
  induction turns generalizing w with
  | nil =>
    cases hrun
    exact ⟨h, by simp [packetsOf]⟩
  | cons turn turns ih =>
    obtain ⟨w1, hstep, hrest⟩ := bind_eq_ok.mp hrun
    cases hturn : turn.written with
    | none =>
      obtain ⟨hinv, hquiet⟩ := h.quiet hturn hstep
      obtain ⟨hinv', hoffered⟩ := ih hinv hrest
      refine ⟨hinv', ?_⟩
      rw [hoffered, hinv.offered, hquiet.accepted, hquiet.writeBuffer, ← h.offered, packetsOf,
        packetsOf, filterMap_cons_none hturn]
    | some x =>
      cases turn with
      | write p r =>
        obtain ⟨ok, rest, taken, failures, hwrite, -⟩ := write_spec p r h
        obtain ⟨hinv', hoffered⟩ := ih (h.write hstep).1 hrest
        refine ⟨hinv', hoffered.trans ?_⟩
        rw [step, hwrite] at hstep
        cases hstep
        simp [packetsOf, Turn.written, append_assoc]
      | _ => cases hturn

/-- However the threads take turns and whatever the socket takes at once: the reader of the other
side turns down nothing of what it gets, and finds the packets that were written, in their order;
all of them when nothing is left in the buffer. -/
theorem packets_received (hframed : ∀ p ∈ packetsOf turns, p.Framed)
    (hrun : runs step turns {} = .ok w) :
    (packetFramer.decode w.accepted).rejected = false ∧
      (packetFramer.decode w.accepted).items <+: packetsOf turns ∧
      (w.writeBuffer.bytes = [] → (packetFramer.decode w.accepted).items = packetsOf turns) := by
  obtain ⟨hinv, hoffered⟩ := runs_offered Inv.init hrun
  have hall : packetFramer.decode w.offered = ⟨packetsOf turns, false, []⟩ := by
    have hnext : packetFramer.next = fdConnectionRead := rfl
    rw [hoffered]
    apply packetFramer.decode_flatMap
    · rw [hnext, fdConnectionRead_short (by decide)]
    · intro p hp b
      rw [hnext, fdConnectionRead_packet (hframed p hp)]
  obtain ⟨hrejected, hitems⟩ := packetFramer.decode_of_front hinv.front (by rw [hall])
  rw [hall] at hitems
  refine ⟨hrejected, hitems, fun hempty => ?_⟩
  rw [← List.append_nil w.accepted, ← hempty, ← hinv.offered, hall]

/-- The second of two packets is cut off, and its rest is written with the third. -/
theorem packets_received_late : ∃ w,
    runs step [.write (packetOf A_OKAY 1 2) (.takes 24), .write (packetOf A_OKAY 1 2) (.takes 10),
      .write (packetOf A_CLSE 1 2) (.takes 20)] {} = .ok w ∧
      (packetFramer.decode w.accepted).items = [packetOf A_OKAY 1 2, packetOf A_OKAY 1 2] ∧
      (packetFramer.decode w.accepted).rejected = false := by
  have htest : returns (runs step [.write (packetOf A_OKAY 1 2) (.takes 24),
      .write (packetOf A_OKAY 1 2) (.takes 10), .write (packetOf A_CLSE 1 2) (.takes 20)] {})
      (fun w => (packetFramer.decode w.accepted).items =
        [packetOf A_OKAY 1 2, packetOf A_OKAY 1 2]) = true := by decide +kernel
  obtain ⟨w, hrun, hw⟩ := returns_iff.mp htest
  refine ⟨w, hrun, of_decide_eq_true hw, (packets_received ?_ hrun).1⟩
  simp [packetsOf, Turn.written, APacket.Framed, packetOf]

end FdWriter

end Adb
