import Adb.Lib.Tiling
import Adb.Packet

/-!
# Asynchronous transfers on the device

`usb_ffs_do_aio` of `daemon/usb.cpp`, up to the submission: the ranges of memory that are prepared
for a transfer of `len` bytes at `data`.
-/

namespace Adb.UsbFfs

open Lib List

def bulkSize : ℕ := 16384

def numBufs : ℕ := 4 * maxPayload / bulkSize + 1

structure Transfer where
  packetSize : ℕ
  readsZeroPackets : Bool
  read : Bool
deriving DecidableEq, Repr

structure Prepared where
  ranges : List Range := []
  curData : ℕ
  len : ℕ
  zeroPacket : Bool := false
deriving DecidableEq, Repr

variable (t : Transfer)

def prepare (ioSize : ℕ) (s : Prepared) : Prepared :=
  let bufLen := min s.len ioSize
  { ranges := s.ranges ++ [⟨s.curData, bufLen⟩]
    curData := s.curData + bufLen
    len := s.len - bufLen
    zeroPacket :=
      -- the host sends a zero packet after a transfer that fills its last packet
      if s.len - bufLen = 0 ∧ bufLen % t.packetSize = 0 ∧ t.read then t.readsZeroPackets
      else s.zeroPacket }

def prepareAll (ioSize : ℕ) : ℕ → Prepared → Prepared
  | 0, s => s
  | rounds + 1, s => prepareAll ioSize rounds (prepare t ioSize s)

structure Aio where
  data : List Range
  zero : Option Range
deriving DecidableEq, Repr

def Aio.ranges (a : Aio) : List Range := a.data ++ a.zero.toList

def bufCount (ioSize len : ℕ) : ℕ := len / ioSize + if len % ioSize = 0 then 0 else 1

def doAio (ioSize data len : ℕ) : Aio :=
  let s := prepareAll t ioSize (bufCount ioSize len) { curData := data, len := len }
  { data := s.ranges
    zero := if s.zeroPacket then some ⟨s.curData, t.packetSize⟩ else none }

/-- `usb_ffs_aio_read` and `usb_ffs_aio_write`, for a handle as `usb_init` creates it. -/
def usbFfsDoAio (data len : ℕ) : Aio := doAio t bulkSize data len

structure Aio.Sound (a : Aio) (data len : ℕ) : Prop where
  consecutive : Tiles data a.data (data + len)
  disjoint : a.data.Pairwise Range.Disjoint
  covers : ∀ i, (∃ r ∈ a.data, r.Has i) ↔ data ≤ i ∧ i < data + len
  fits : a.ranges.length ≤ numBufs
  within : ∀ r ∈ a.ranges, data ≤ r.start ∧ r.stop ≤ data + len

/-! ## The loop -/

variable {t} {ioSize data len : ℕ} {s : Prepared}

lemma bufCount_le (hlen : 0 < len) (hle : len ≤ ioSize) : bufCount ioSize len = 1 := by
  unfold bufCount
  rcases Nat.lt_or_eq_of_le hle with hlt | heq
  · rw [Nat.div_eq_of_lt hlt, Nat.mod_eq_of_lt hlt, if_neg (by omega)]
  · rw [heq, Nat.div_self (by omega), Nat.mod_self, if_pos rfl]

lemma bufCount_gt (hio : 0 < ioSize) (hlt : ioSize < len) :
    bufCount ioSize len = bufCount ioSize (len - ioSize) + 1 := by
  unfold bufCount
  rw [Nat.div_eq_sub_div hio (by omega), Nat.mod_eq_sub_mod (by omega)]
  omega

def lastLen (ioSize len : ℕ) : ℕ := (len - 1) % ioSize + 1

lemma lastLen_le (hlen : 0 < len) (hle : len ≤ ioSize) : lastLen ioSize len = len := by
  unfold lastLen
  rw [Nat.mod_eq_of_lt (by omega)]
  omega

lemma lastLen_gt (hlt : ioSize < len) : lastLen ioSize len = lastLen ioSize (len - ioSize) := by
  have hcomm : len - 1 - ioSize = len - ioSize - 1 := by omega
  unfold lastLen
  rw [Nat.mod_eq_sub_mod (by omega), hcomm]

def ZeroPacket (t : Transfer) (ioSize len : ℕ) : Prop :=
  t.read = true ∧ t.readsZeroPackets = true ∧ lastLen ioSize len % t.packetSize = 0

/-- The loop appends ranges that tile what is left, one each round. -/
structure Looped (t : Transfer) (ioSize : ℕ) (s s' : Prepared) : Prop where
  ranges : ∃ rs, s'.ranges = s.ranges ++ rs ∧ Tiles s.curData rs (s.curData + s.len) ∧
    rs.length = bufCount ioSize s.len
  curData : s'.curData = s.curData + s.len
  zeroPacket : s.zeroPacket = false → (s'.zeroPacket = true ↔ ZeroPacket t ioSize s.len)

lemma prepare_last (hlen : 0 < s.len) (hle : s.len ≤ ioSize) :
    Looped t ioSize s (prepare t ioSize s) := by
  have hmin : min s.len ioSize = s.len := Nat.min_eq_left hle
  refine ⟨⟨[⟨s.curData, s.len⟩], ?_, ⟨rfl, rfl⟩, (bufCount_le hlen hle).symm⟩, ?_, ?_⟩
  · simp only [prepare, hmin]
  · simp only [prepare, hmin]
  intro hfalse
  simp only [prepare, hmin, Nat.sub_self, true_and, hfalse]
  unfold ZeroPacket
  rw [lastLen_le hlen hle]
  split
  · next hfills => simp [hfills]
  next hfills =>
  simp only [Bool.false_eq_true, false_iff]
  intro hzero
  exact hfills ⟨hzero.2.2, hzero.1⟩

lemma prepare_more (hlt : ioSize < s.len) :
    prepare t ioSize s =
      { ranges := s.ranges ++ [⟨s.curData, ioSize⟩]
        curData := s.curData + ioSize
        len := s.len - ioSize
        zeroPacket := s.zeroPacket } := by
  have hmin : min s.len ioSize = ioSize := Nat.min_eq_right (by omega)
  have hrest : s.len - ioSize ≠ 0 := by omega
  simp [prepare, hmin, hrest]

lemma prepareAll_looped (hio : 0 < ioSize) (hlen : 0 < s.len) (rounds : ℕ)
    (hrounds : bufCount ioSize s.len = rounds) :
    Looped t ioSize s (prepareAll t ioSize rounds s) := by
  induction rounds generalizing s with
  | zero =>
    by_cases hle : s.len ≤ ioSize
    · rw [bufCount_le hlen hle] at hrounds
      omega
    · rw [bufCount_gt hio (by omega)] at hrounds
      omega
  | succ rounds ih =>
    by_cases hle : s.len ≤ ioSize
    · rw [bufCount_le hlen hle] at hrounds
      have hzero : rounds = 0 := by omega
      subst hzero
      exact prepare_last hlen hle
    · have hlt : ioSize < s.len := by omega
      rw [bufCount_gt hio hlt] at hrounds
      rw [prepareAll, prepare_more hlt]
      obtain ⟨⟨rs, hranges, htiles, hcount⟩, hcur, hzero⟩ := ih
        (s := ⟨s.ranges ++ [⟨s.curData, ioSize⟩], s.curData + ioSize, s.len - ioSize, s.zeroPacket⟩)
        (Nat.sub_pos_of_lt hlt) (Nat.succ.inj hrounds)
      have hend : s.curData + ioSize + (s.len - ioSize) = s.curData + s.len := by omega
      rw [hend] at htiles hcur
      refine ⟨⟨⟨s.curData, ioSize⟩ :: rs, ?_, ⟨rfl, htiles⟩, ?_⟩, hcur, ?_⟩
      · rw [hranges, append_assoc]
        rfl
      · rw [length_cons, hcount, bufCount_gt hio hlt]
      · intro hfalse
        rw [hzero hfalse, ZeroPacket, ZeroPacket, lastLen_gt hlt]

lemma doAio_tiles (t : Transfer) (hio : 0 < ioSize) (hlen : 0 < len) :
    Tiles data (doAio t ioSize data len).data (data + len) ∧
      (doAio t ioSize data len).data.length = bufCount ioSize len := by
  obtain ⟨rs, hranges, htiles, hcount⟩ :=
    (prepareAll_looped (t := t) (s := { curData := data, len := len }) hio hlen _ rfl).ranges
  have hdata : (doAio t ioSize data len).data = rs := hranges
  rw [hdata]
  exact ⟨htiles, hcount⟩

lemma doAio_zero (t : Transfer) (hio : 0 < ioSize) (hlen : 0 < len) :
    (doAio t ioSize data len).zero = some ⟨data + len, t.packetSize⟩ ∧ ZeroPacket t ioSize len ∨
      (doAio t ioSize data len).zero = none ∧ ¬ ZeroPacket t ioSize len := by
  have hloop := prepareAll_looped (t := t) (s := { curData := data, len := len }) hio hlen _ rfl
  have hcur : _ = data + len := hloop.curData
  have hzero := hloop.zeroPacket rfl
  rw [doAio, hcur]
  split
  · next htrue => exact .inl ⟨rfl, hzero.mp htrue⟩
  · next hfalse => exact .inr ⟨rfl, fun h => hfalse (hzero.mpr h)⟩

lemma bufCount_bulkSize (hlen : len ≤ maxPayload) : bufCount bulkSize len + 1 ≤ numBufs := by
  have hdiv : len / 16384 ≤ maxPayload / 16384 := Nat.div_le_div_right hlen
  have hmax : maxPayload / 16384 = 64 := by decide
  have hnum : numBufs = 257 := by decide
  unfold bufCount bulkSize
  split <;> omega

/-- The ranges are sound exactly if no zero packet is expected: the range that is prepared for it
lies behind the caller's buffer. -/
theorem usbFfsDoAio_sound_iff (t : Transfer) (data len : ℕ) (hpacket : 1 ≤ t.packetSize)
    (hlen : 1 ≤ len) (hmax : len ≤ maxPayload) :
    (usbFfsDoAio t data len).Sound data len ↔ ¬ (t.read = true ∧ t.readsZeroPackets = true ∧
        ((len - 1) % bulkSize + 1) % t.packetSize = 0) := by
  have hbulk : 0 < bulkSize := by decide
  obtain ⟨htiles, hcount⟩ := doAio_tiles t hbulk hlen
  have hnum := bufCount_bulkSize hmax
  constructor
  · intro hsound hzero
    rcases doAio_zero t hbulk hlen with ⟨hsome, -⟩ | ⟨-, hnot⟩
    · have hmem : ⟨data + len, t.packetSize⟩ ∈ (usbFfsDoAio t data len).ranges := by
        rw [Aio.ranges, usbFfsDoAio, hsome]
        exact mem_append_right _ (.head _)
      have hstop : data + len + t.packetSize ≤ data + len := (hsound.within _ hmem).2
      omega
    · exact hnot hzero
  · intro hnot
    have hnone : (usbFfsDoAio t data len).zero = none := by
      rcases doAio_zero t hbulk hlen with ⟨-, hzero⟩ | ⟨hnone, -⟩
      · exact absurd hzero hnot
      · exact hnone
    have hranges : (usbFfsDoAio t data len).ranges = (usbFfsDoAio t data len).data := by
      rw [Aio.ranges, hnone, Option.toList_none, List.append_nil]
    refine ⟨htiles, htiles.disjoint, fun i => htiles.has_iff, ?_, ?_⟩
    · rw [hranges, usbFfsDoAio, hcount]
      omega
    intro r hr
    rw [hranges] at hr
    exact htiles.bounds hr

/-- A transfer that ends within a packet. -/
theorem usbFfsDoAio_sound_24 : (usbFfsDoAio ⟨512, true, true⟩ 0 24).Sound 0 24 :=
  (usbFfsDoAio_sound_iff ⟨512, true, true⟩ 0 24 (by decide) (by decide) (by decide)).mpr (by decide)

/-- A payload of one packet is read with room for two. -/
theorem usbFfsDoAio_past_the_buffer :
    usbFfsDoAio ⟨512, true, true⟩ 0 512 = ⟨[⟨0, 512⟩], some ⟨512, 512⟩⟩ ∧
      ¬ (usbFfsDoAio ⟨512, true, true⟩ 0 512).Sound 0 512 := by
  have haio : usbFfsDoAio ⟨512, true, true⟩ 0 512 = ⟨[⟨0, 512⟩], some ⟨512, 512⟩⟩ := by decide
  refine ⟨haio, ?_⟩
  intro hsound
  have hstop := hsound.within ⟨512, 512⟩ (by rw [haio]; decide)
  exact absurd hstop.2 (by decide)

end Adb.UsbFfs
