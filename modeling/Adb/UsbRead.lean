import Adb.UsbScan

/-!
# Reading packets from a USB device

`UsbReadMessage`, `UsbReadPayload` and `remote_read` of `transport_usb.cpp` on the host. The reads
are made with a buffer whose size is a multiple of the packet size that was registered with the
device; that this size makes sense is only asserted here.
-/

namespace Adb.Usb

open Lib

inductive Abort
  /-- `CHECK_GE(usb_packet_size, sizeof(*msg))` -/
  | packetTooSmall
  /-- `CHECK_LT(usb_packet_size, 4096ULL)` -/
  | packetTooLarge
  /-- `len % usb_packet_size` -/
  | divisionByZero
  /-- `CHECK_GE(capacity_, new_size)` of `Block::resize` -/
  | overCapacity
deriving DecidableEq, Repr

structure Handle where
  maxPacketSize : ℕ
  /-- What `usb_read` gets for the message into a buffer of the given size; `none` if it fails. -/
  message : ℕ → Option Bytes
  /-- What it gets for the payload. -/
  payload : ℕ → Option Bytes

def usbReadMessage (h : Handle) : Except Abort (Option AMessage) :=
  if h.maxPacketSize < AMessage.size then throw .packetTooSmall
  else if 4096 ≤ h.maxPacketSize then throw .packetTooLarge
  else
    match h.message h.maxPacketSize with
    | some buffer =>
      pure (if buffer.length = AMessage.size then some (AMessage.ofBytes buffer) else none)
    | none => pure none

def roundUp (len packetSize : ℕ) : ℕ :=
  if len % packetSize ≠ 0 then len + (packetSize - len % packetSize) else len

def resize (capacity : ℕ) (data : Bytes) : Except Abort (Option Bytes) :=
  if capacity < data.length then throw .overCapacity else pure (some data)

def usbReadPayload (h : Handle) (dataLength : ℕ) : Except Abort (Option Bytes) :=
  if maxPayload < dataLength then pure none
  else if h.maxPacketSize = 0 then throw .divisionByZero
  else
    match h.payload (roundUp dataLength h.maxPacketSize) with
    | some data =>
      if data.length = dataLength then resize (roundUp dataLength h.maxPacketSize) data
      else pure none
    | none => pure none

def readPacket (h : Handle) (msg : AMessage) : Except Abort (Option APacket) := do
  if msg.dataLength.toNat = 0 then pure (some { msg := msg })
  else
    let payload ← usbReadPayload h msg.dataLength.toNat
    pure (payload.map fun data => { msg := msg, payload := data })

def remoteRead (h : Handle) : Except Abort (Option APacket) := do
  let msg ← usbReadMessage h
  match msg with
  | some msg => readPacket h msg
  | none => pure none

/-- The packet sizes that reading a message is prepared for. -/
def PacketSizeOk (size : ℕ) : Prop := AMessage.size ≤ size ∧ size < 4096

instance (size : ℕ) : Decidable (PacketSizeOk size) :=
  inferInstanceAs (Decidable (_ ∧ _))

variable {h : Handle} {mem : ℕ → UInt8} {n fuel p dataLength : ℕ} {d : Device}

lemma le_roundUp (len packetSize : ℕ) : len ≤ roundUp len packetSize := by
  unfold roundUp
  split <;> omega

lemma usbReadMessage_aborts (h : Handle) :
    Sat (usbReadMessage h) (fun _ => PacketSizeOk h.maxPacketSize)
      (fun _ => ¬ PacketSizeOk h.maxPacketSize) := by
  apply Sat.ite
  · intro hsmall hok
    exact absurd hok.1 (Nat.not_le_of_lt hsmall)
  intro hsmall
  apply Sat.ite
  · intro hlarge hok
    exact absurd hok.2 (Nat.not_lt_of_le hlarge)
  intro hlarge
  have hok : PacketSizeOk h.maxPacketSize := ⟨Nat.le_of_not_lt hsmall, Nat.lt_of_not_le hlarge⟩
  cases hread : h.message h.maxPacketSize <;> exact hok

lemma usbReadPayload_returns (hsize : 0 < h.maxPacketSize) :
    Sat (usbReadPayload h dataLength) (fun _ => True) (fun _ => False) := by
  apply Sat.ite
  · intro _
    exact trivial
  intro _
  rw [if_neg (Nat.ne_of_gt hsize)]
  cases hread : h.payload (roundUp dataLength h.maxPacketSize) with
  | none => exact trivial
  | some data =>
    apply Sat.ite
    · intro hlength
      have hle := le_roundUp dataLength h.maxPacketSize
      rw [resize, if_neg (by omega)]
      exact trivial
    · intro _
      exact trivial

lemma remoteRead_aborts (h : Handle) :
    Sat (remoteRead h) (fun _ => PacketSizeOk h.maxPacketSize)
      (fun _ => ¬ PacketSizeOk h.maxPacketSize) := by
  apply (usbReadMessage_aborts h).bind
  intro msg hok
  have hsize : 0 < h.maxPacketSize := Nat.lt_of_lt_of_le (by decide) hok.1
  cases msg with
  | none => exact hok
  | some msg =>
    apply Sat.ite
    · intro _
      exact hok
    intro _
    apply Sat.bind ((usbReadPayload_returns hsize).mono (fun _ h => h) fun _ h => h.elim)
    intro payload _
    exact hok

/-! ## The packet size of a registered device -/

lemma scan_maxPacketSize (hscan : (scan n fuel p).run mem = some (some d)) :
    d.maxPacketSize = (field16 (d.endpoint + 4)).run mem := by
  induction fuel generalizing p with
  | zero => cases hscan
  | succ fuel ih =>
    rw [scan] at hscan
    by_cases hp : p < n
    · rw [if_pos hp, Probe.run_bind] at hscan
      -- which bytes are read does not matter here: there may be any number of them
      have hwithin : Within mem (n + 25) p := ⟨by omega, fun _ _ => ⟨by omega, fun _ => by omega⟩⟩
      have hstep := (scanStep_spec (n := n) (by omega) (by omega) hwithin).2
      cases hrun : (scanStep n p).run mem with
      | next q =>
        rw [hrun] at hscan
        exact ih hscan
      | stop =>
        rw [hrun] at hscan
        cases hscan
      | register d' =>
        rw [hrun] at hscan hstep
        cases hscan
        exact hstep
    · rw [if_neg hp] at hscan
      cases hscan

lemma findUsbDevice_maxPacketSize (hfind : (findUsbDevice n fuel).run mem = some (some d)) :
    d.maxPacketSize = (field16 (d.endpoint + 4)).run mem := by
  rw [findUsbDevice, Probe.run_bind] at hfind
  cases hok : (headers n).run mem with
  | true =>
    rw [hok] at hfind
    exact scan_maxPacketSize hfind
  | false =>
    rw [hok] at hfind
    cases hfind

def NeverAborts (size : ℕ) : Prop :=
  ∀ message payload, ∃ packet, remoteRead ⟨size, message, payload⟩ = .ok packet

lemma neverAborts_iff (size : ℕ) : NeverAborts size ↔ PacketSizeOk size := by
  constructor
  · intro hnever
    obtain ⟨packet, hread⟩ := hnever (fun _ => none) (fun _ => none)
    have hsat := remoteRead_aborts ⟨size, fun _ => none, fun _ => none⟩
    rw [hread] at hsat
    exact hsat
  · intro hok message payload
    have hsat := remoteRead_aborts ⟨size, message, payload⟩
    cases hread : remoteRead ⟨size, message, payload⟩ with
    | ok packet => exact ⟨packet, rfl⟩
    | error e =>
      rw [hread] at hsat
      exact absurd hok hsat

/-- A registered device does not abort the server exactly if the field `wMaxPacketSize` of its first
endpoint is one of the sizes that reading is prepared for. -/
theorem registered_neverAborts_iff (mem : ℕ → UInt8) (n fuel : ℕ) (d : Device)
    (hfind : (findUsbDevice n fuel).run mem = some (some d)) :
    PacketSizeOk d.maxPacketSize ∧ NeverAborts d.maxPacketSize ↔
      PacketSizeOk ((field16 (d.endpoint + 4)).run mem) := by
  rw [neverAborts_iff, findUsbDevice_maxPacketSize hfind, and_self]

/-- A device node with an interface of ADB, whose endpoints have packets of `size` bytes. -/
def adbNode (size : UInt8) : ℕ → UInt8 :=
  node ([9, 4, 0, 0, 2, 0xff, 0x42, 1, 0] ++ [7, 5, 0x81, 2, size, 0, 0] ++
    [7, 5, 0x02, 2, size, 0, 0])

def adbDevice (size : UInt8) : Device where
  epIn := 0x81
  epOut := 0x02
  interface := 0
  serialIndex := 0
  zeroMask := UInt32.ofNat size.toNat - 1
  maxPacketSize := size.toNat
  endpoint := 36

theorem registered_neverAborts_64 : PacketSizeOk 64 ∧ NeverAborts 64 :=
  (registered_neverAborts_iff (adbNode 64) 50 1 (adbDevice 64) (by decide)).mpr (by decide)

/-- Packets of eight bytes are accepted by the scan, and abort the server at its first read. -/
theorem registered_aborts :
    (findUsbDevice 50 1).run (adbNode 8) = some (some (adbDevice 8)) ∧
      ¬ PacketSizeOk (adbDevice 8).maxPacketSize ∧
      remoteRead ⟨(adbDevice 8).maxPacketSize, fun _ => none, fun _ => none⟩ =
        .error .packetTooSmall := by
  decide

end Adb.Usb
