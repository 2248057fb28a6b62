import Adb.Lib.Probe
import Adb.Wire

/-!
# The scan of USB descriptors

`find_usb_device` of `client/usb_linux.cpp`, for one device node. `devdesc` has 4096 bytes, of which
`read` has filled the first `n`; the scan is a computation that reads bytes of `devdesc`, so that
both what it finds and which bytes it has looked at can be asked for.
-/

namespace Adb.Usb

open Lib List

def USB_DT_DEVICE : UInt8 := 1
def USB_DT_CONFIG : UInt8 := 2
def USB_DT_INTERFACE : UInt8 := 4
def USB_DT_ENDPOINT : UInt8 := 5
def USB_DT_SS_ENDPOINT_COMP : UInt8 := 0x30
def USB_DT_DEVICE_SIZE : ℕ := 18
def USB_DT_CONFIG_SIZE : ℕ := 9
def USB_DT_INTERFACE_SIZE : UInt8 := 9
def USB_DT_ENDPOINT_SIZE : ℕ := 7
def USB_DT_SS_EP_COMP_SIZE : ℕ := 6
def USB_ENDPOINT_XFER_BULK : UInt8 := 2
def USB_ENDPOINT_DIR_MASK : UInt8 := 0x80
def ADB_CLASS : UInt8 := 0xff
def ADB_SUBCLASS : UInt8 := 0x42
def ADB_PROTOCOL : UInt8 := 0x1

structure Device where
  epIn : UInt8
  epOut : UInt8
  interface : UInt8
  serialIndex : UInt8
  zeroMask : UInt32
  maxPacketSize : ℕ
  /-- where the descriptor of the first endpoint begins -/
  endpoint : ℕ
deriving DecidableEq, Repr

def isAdbInterface (usbClass usbSubclass usbProtocol : UInt8) : Bool :=
  usbClass = ADB_CLASS && usbSubclass = ADB_SUBCLASS && usbProtocol = ADB_PROTOCOL

abbrev byte (i : ℕ) : Probe UInt8 UInt8 := .cell i

def field16 (i : ℕ) : Probe UInt8 ℕ := do
  let low ← byte i
  let high ← byte (i + 1)
  pure (low.toNat + 256 * high.toNat)

def skipCompanion (n : ℕ) (p : ℕ) : Probe UInt8 ℕ := do
  if p + 2 ≤ n then
    let length ← byte p
    if length.toNat = USB_DT_SS_EP_COMP_SIZE then
      let type ← byte (p + 1)
      pure (if type = USB_DT_SS_ENDPOINT_COMP then p + USB_DT_SS_EP_COMP_SIZE else p)
    else pure p
  else pure p

/-- `ep->bLength == USB_DT_ENDPOINT_SIZE && ep->bDescriptorType == USB_DT_ENDPOINT`. -/
def isEndpoint (ep : ℕ) : Probe UInt8 Bool := do
  let length ← byte ep
  if length.toNat = USB_DT_ENDPOINT_SIZE then
    let type ← byte (ep + 1)
    pure (type = USB_DT_ENDPOINT)
  else pure false

def isBulk (ep : ℕ) : Probe UInt8 Bool := do
  let attributes ← byte (ep + 3)
  pure (attributes = USB_ENDPOINT_XFER_BULK)

inductive Step
  | next (p : ℕ)
  | stop
  | register (d : Device)
deriving DecidableEq, Repr

def packetSize (protocol : UInt8) (ep1 : ℕ) : Probe UInt8 ℕ :=
  if protocol = ADB_PROTOCOL then field16 (ep1 + 4) else pure 0

def register (p ep1 ep2 : ℕ) : Probe UInt8 Step := do
  let protocol ← byte (p + 7)
  let size ← packetSize protocol ep1
  let address1 ← byte (ep1 + 2)
  let address2 ← byte (ep2 + 2)
  let inFirst := address1 &&& USB_ENDPOINT_DIR_MASK ≠ 0
  let interface ← byte (p + 2)
  let serialIndex ← byte 16
  pure (.register
    { epIn := if inFirst then address1 else address2
      epOut := if inFirst then address2 else address1
      interface := interface
      serialIndex := serialIndex
      zeroMask := if protocol = ADB_PROTOCOL then UInt32.ofNat size - 1 else 0
      maxPacketSize := size
      endpoint := ep1 })

/-- The two endpoints of the interface at `p` are looked for, up to `q`. -/
def endpoints (n : ℕ) (p ep1 ep2 q : ℕ) : Probe UInt8 Step := do
  if q > n then pure .stop
  else if !(← isEndpoint ep1) then pure .stop
  else if !(← isEndpoint ep2) then pure .stop
  else if !(← isBulk ep1) then pure (.next q)
  else if !(← isBulk ep2) then pure (.next q)
  else register p ep1 ep2

def adbInterface (n : ℕ) (p : ℕ) : Probe UInt8 Step := do
  let ep1 := p + USB_DT_INTERFACE_SIZE.toNat
  let ep2 ← skipCompanion n (ep1 + USB_DT_ENDPOINT_SIZE)
  let q ← skipCompanion n (ep2 + USB_DT_ENDPOINT_SIZE)
  endpoints n p ep1 ep2 q

def interfaceDescriptor (n : ℕ) (p : ℕ) (length : UInt8) : Probe UInt8 Step := do
  if length ≠ USB_DT_INTERFACE_SIZE then pure .stop
  else
    let numEndpoints ← byte (p + 4)
    if numEndpoints = 2 then
      let usbClass ← byte (p + 5)
      let usbSubclass ← byte (p + 6)
      let usbProtocol ← byte (p + 7)
      if isAdbInterface usbClass usbSubclass usbProtocol then adbInterface n p
      else pure (.next (p + length.toNat))
    else pure (.next (p + length.toNat))

def scanStep (n : ℕ) (p : ℕ) : Probe UInt8 Step := do
  let length ← byte p
  let type ← byte (p + 1)
  if type = USB_DT_INTERFACE then interfaceDescriptor n p length
  else pure (.next (p + length.toNat))

/-- `while (bufptr < bufend)`, for `fuel` rounds at most: the device that was registered, or `none`
if the loop has not ended by then. -/
def scan (n : ℕ) : ℕ → ℕ → Probe UInt8 (Option (Option Device))
  | 0, _ => pure none
  | fuel + 1, p => do
    if p < n then
      match ← scanStep n p with
      | .next q => scan n fuel q
      | .stop => pure (some none)
      | .register d => pure (some (some d))
    else pure (some none)

def headers (n : ℕ) : Probe UInt8 Bool := do
  if n < USB_DT_DEVICE_SIZE + USB_DT_CONFIG_SIZE then pure false
  else
    let length ← byte 0
    if length.toNat ≠ USB_DT_DEVICE_SIZE then pure false
    else if (← byte 1) ≠ USB_DT_DEVICE then pure false
    else if (← byte 18).toNat ≠ USB_DT_CONFIG_SIZE then pure false
    else if (← byte 19) ≠ USB_DT_CONFIG then pure false
    else pure true

def findUsbDevice (n fuel : ℕ) : Probe UInt8 (Option (Option Device)) := do
  if ← headers n then scan n fuel (USB_DT_DEVICE_SIZE + USB_DT_CONFIG_SIZE)
  else pure (some none)

/-! ## What one round reads -/

variable {mem : ℕ → UInt8} {m n fuel p q ep : ℕ}

/-- What is looked at of the descriptor at `p` is among the first `m` bytes. -/
structure Within (mem : ℕ → UInt8) (m p : ℕ) : Prop where
  header : p + 1 < m
  interface : mem (p + 1) = USB_DT_INTERFACE → mem p = USB_DT_INTERFACE_SIZE →
    p + 4 < m ∧ (mem (p + 4) = 2 → p + 7 < m)

lemma skipCompanion_spec (mem : ℕ → UInt8) (hm : n ≤ m) :
    (skipCompanion n p).Spec mem m (p ≤ ·) := by
  apply Probe.Spec.ite
  · intro hle
    apply Probe.Spec.read (by omega)
    apply Probe.Spec.ite
    · intro _
      apply Probe.Spec.read (by omega)
      apply Probe.Spec.pure
      split <;> omega
    · intro _
      exact .pure (Nat.le_refl p)
  · intro _
    exact .pure (Nat.le_refl p)

lemma isEndpoint_spec (mem : ℕ → UInt8) (hep : ep + 1 < m) :
    (isEndpoint ep).Spec mem m fun _ => True := by
  apply Probe.Spec.read (by omega)
  apply Probe.Spec.ite
  · intro _
    exact .read hep (.pure trivial)
  · intro _
    exact .pure trivial

lemma isBulk_spec (mem : ℕ → UInt8) (hep : ep + 3 < m) :
    (isBulk ep).Spec mem m fun _ => True := .read hep (.pure trivial)

lemma field16_spec (mem : ℕ → UInt8) {i : ℕ} (hi : i + 1 < m) :
    (field16 i).Spec mem m (· = (field16 i).run mem) :=
  .read (by omega) (.read hi (.pure rfl))

/-- What a round comes to: the cursor moves on, by the length of a descriptor that is not looked at
more closely; or a device is registered, with the packet size of its first endpoint. -/
def StepOk (mem : ℕ → UInt8) (p : ℕ) : Step → Prop
  | .next q => p < q ∨ mem (p + 1) ≠ USB_DT_INTERFACE ∧ q = p + (mem p).toNat
  | .stop => True
  | .register d => d.maxPacketSize = (field16 (d.endpoint + 4)).run mem

lemma register_spec {ep1 ep2 : ℕ} (hm : 16 < m) (hp : p + 7 < m)
    (hprotocol : mem (p + 7) = ADB_PROTOCOL) (hep1 : ep1 + 5 < m) (hep2 : ep2 + 2 < m) :
    (register p ep1 ep2).Spec mem m (StepOk mem p) := by
  apply Probe.Spec.read hp
  apply Probe.Spec.bind (Q := fun size => size = (field16 (ep1 + 4)).run mem)
  · rw [packetSize, if_pos hprotocol]
    exact field16_spec mem (by omega)
  intro size hsize
  apply Probe.Spec.read (by omega)
  apply Probe.Spec.read (by omega)
  apply Probe.Spec.read (by omega)
  apply Probe.Spec.read hm
  exact .pure hsize

lemma endpoints_spec {ep1 ep2 : ℕ} (hm : 16 < m) (hnm : n ≤ m) (hp : p + 7 < m)
    (hprotocol : mem (p + 7) = ADB_PROTOCOL) (hep1 : p < ep1)
    (hep2 : ep1 + USB_DT_ENDPOINT_SIZE ≤ ep2) (hq : ep2 + USB_DT_ENDPOINT_SIZE ≤ q) :
    (endpoints n p ep1 ep2 q).Spec mem m (StepOk mem p) := by
  have hsize : USB_DT_ENDPOINT_SIZE = 7 := rfl
  rw [hsize] at hep2 hq
  apply Probe.Spec.ite
  · intro _
    exact .pure trivial
  intro hend
  apply (isEndpoint_spec mem (by omega)).bind
  intro _ _
  apply Probe.Spec.ite
  · intro _
    exact .pure trivial
  intro _
  apply (isEndpoint_spec mem (by omega)).bind
  intro _ _
  apply Probe.Spec.ite
  · intro _
    exact .pure trivial
  intro _
  apply (isBulk_spec mem (by omega)).bind
  intro _ _
  apply Probe.Spec.ite
  · intro _
    exact .pure (.inl (by omega))
  intro _
  apply (isBulk_spec mem (by omega)).bind
  intro _ _
  apply Probe.Spec.ite
  · intro _
    exact .pure (.inl (by omega))
  intro _
  exact register_spec hm hp hprotocol (by omega) (by omega)

lemma adbInterface_spec (hm : 16 < m) (hnm : n ≤ m) (hp : p + 7 < m)
    (hprotocol : mem (p + 7) = ADB_PROTOCOL) : (adbInterface n p).Spec mem m (StepOk mem p) := by
  have hsize : USB_DT_INTERFACE_SIZE.toNat = 9 := rfl
  apply (skipCompanion_spec mem hnm).bind
  intro ep2 hep2
  apply (skipCompanion_spec mem hnm).bind
  intro q hq
  exact endpoints_spec hm hnm hp hprotocol (by omega) hep2 hq

lemma scanStep_spec (hm : 16 < m) (hnm : n ≤ m) (h : Within mem m p) :
    (scanStep n p).Spec mem m (StepOk mem p) := by
  have hheader := h.header
  apply Probe.Spec.read (by omega)
  apply Probe.Spec.read hheader
  apply Probe.Spec.ite
  · intro htype
    apply Probe.Spec.ite
    · intro _
      exact .pure trivial
    intro hlength
    have hlength : mem p = USB_DT_INTERFACE_SIZE := Classical.not_not.mp hlength
    have hmore : p < p + (mem p).toNat := by
      rw [hlength]
      exact Nat.lt_add_of_pos_right (by decide)
    obtain ⟨hfour, hseven⟩ := h.interface htype hlength
    apply Probe.Spec.read hfour
    apply Probe.Spec.ite
    · intro htwo
      have hseven := hseven htwo
      apply Probe.Spec.read (by omega)
      apply Probe.Spec.read (by omega)
      apply Probe.Spec.read hseven
      apply Probe.Spec.ite
      · intro hadb
        simp only [isAdbInterface, Bool.and_eq_true, decide_eq_true_eq] at hadb
        exact adbInterface_spec hm hnm hseven hadb.2
      · intro _
        exact .pure (.inl hmore)
    · intro _
      exact .pure (.inl hmore)
  · intro htype
    exact .pure (.inr ⟨htype, rfl⟩)

lemma within_of_reads (h : ∀ i ∈ (scanStep n p).reads mem, i < n) : Within mem n p := by
  have hreads : (scanStep n p).reads mem = p :: (p + 1) ::
      (if mem (p + 1) = USB_DT_INTERFACE then interfaceDescriptor n p (mem p)
        else pure (.next (p + (mem p).toNat))).reads mem := rfl
  rw [hreads] at h
  refine ⟨h (p + 1) (by simp), ?_⟩
  intro htype hlength
  rw [if_pos htype, interfaceDescriptor, if_neg (by simp [hlength])] at h
  refine ⟨h (p + 4) (by simp), ?_⟩
  intro htwo
  apply h (p + 7)
  apply mem_cons_of_mem
  apply mem_cons_of_mem
  rw [Probe.reads_bind, Probe.run_cell, if_pos htwo]
  simp

/-! ## The loop -/

/-- The descriptor at `p` can be looked at, and it has a length if it is skipped. -/
structure Good (mem : ℕ → UInt8) (n p : ℕ) : Prop extends Within mem n p where
  length : mem (p + 1) ≠ USB_DT_INTERFACE → mem p ≠ 0

/-- The loop comes to `q` right after `p`. -/
def Follows (mem : ℕ → UInt8) (n p q : ℕ) : Prop := p < n ∧ (scanStep n p).run mem = .next q

def Visited (mem : ℕ → UInt8) (n : ℕ) : ℕ → Prop :=
  Relation.ReflTransGen (Follows mem n) (USB_DT_DEVICE_SIZE + USB_DT_CONFIG_SIZE)

lemma Good.next (h : Good mem n p) (hn : 16 < n) (hstep : (scanStep n p).run mem = .next q) :
    p < q := by
  have hok := (scanStep_spec hn (Nat.le_refl n) h.toWithin).2
  rw [hstep] at hok
  rcases hok with hlt | ⟨htype, hq⟩
  · exact hlt
  have hpos : 0 < (mem p).toNat := by
    apply Nat.pos_of_ne_zero
    intro hzero
    exact h.length htype (UInt8.toNat.inj hzero)
  omega

lemma run_scan_next (hpq : Follows mem n p q) :
    (scan n (fuel + 1) p).run mem = (scan n fuel q).run mem := by
  rw [scan, if_pos hpq.1, Probe.run_bind, hpq.2]

lemma reads_scan (hp : p < n) {i : ℕ} (hi : i ∈ (scanStep n p).reads mem) :
    i ∈ (scan n (fuel + 1) p).reads mem := by
  rw [scan, if_pos hp, Probe.reads_bind]
  exact mem_append_left _ hi

lemma reads_scan_next (hpq : Follows mem n p q) {i : ℕ} (hi : i ∈ (scan n fuel q).reads mem) :
    i ∈ (scan n (fuel + 1) p).reads mem := by
  rw [scan, if_pos hpq.1, Probe.reads_bind, hpq.2]
  exact mem_append_right _ hi

lemma run_scan_stuck (hp : Follows mem n p p) : (scan n fuel p).run mem = none := by
  induction fuel with
  | zero => rfl
  | succ fuel ih => rw [run_scan_next hp, ih]

/-- The loop at `p` ends, and has read no more than there is. -/
def Ends (mem : ℕ → UInt8) (n p : ℕ) : Prop :=
  ∃ fuel, (scan n fuel p).Spec mem n fun r => r.isSome = true

lemma Ends.next (h : Ends mem n p) (hpq : Follows mem n p q) : Ends mem n q := by
  obtain ⟨fuel, hreads, hrun⟩ := h
  cases fuel with
  | zero => cases hrun
  | succ fuel =>
    rw [run_scan_next hpq] at hrun
    exact ⟨fuel, fun i hi => hreads i (reads_scan_next hpq hi), hrun⟩

lemma Ends.good (h : Ends mem n p) (hp : p < n) : Good mem n p := by
  obtain ⟨fuel, hreads, hrun⟩ := h
  cases fuel with
  | zero => cases hrun
  | succ fuel =>
    refine ⟨within_of_reads fun i hi => hreads i (reads_scan hp hi), ?_⟩
    intro htype hzero
    have hstuck : Follows mem n p p := by
      refine ⟨hp, ?_⟩
      rw [scanStep, Probe.run_bind, Probe.run_bind, Probe.run_cell, Probe.run_cell, if_neg htype,
        Probe.run_pure, hzero]
      rfl
    rw [run_scan_stuck hstuck] at hrun
    cases hrun

lemma ends_of_good (hn : 16 < n) {p : ℕ}
    (hgood : ∀ q, Relation.ReflTransGen (Follows mem n) p q → q < n → Good mem n q) :
    Ends mem n p := by
  -- the cursor moves on, and what is left before `n` gets less
  induction hleft : n - p using Nat.strong_induction_on generalizing p with
  | _ left ih =>
  by_cases hp : p < n
  · have hspec := scanStep_spec hn (Nat.le_refl n) (hgood p .refl hp).toWithin
    cases hstep : (scanStep n p).run mem with
    | next q =>
      have hpq : Follows mem n p q := ⟨hp, hstep⟩
      have hlt := (hgood p .refl hp).next hn hstep
      obtain ⟨fuel, hreads, hrun⟩ := ih (n - q) (by omega) (fun r hr => hgood r (.head hpq hr)) rfl
      refine ⟨fuel + 1, ?_, by rwa [run_scan_next hpq]⟩
      intro i hi
      rw [scan, if_pos hp, Probe.reads_bind, hstep] at hi
      exact (mem_append.mp hi).elim (hspec.1 i) (hreads i)
    | stop =>
      refine ⟨1, ?_, by rw [scan, if_pos hp, Probe.run_bind, hstep]; rfl⟩
      intro i hi
      rw [scan, if_pos hp, Probe.reads_bind, hstep] at hi
      exact hspec.1 i (by simpa using hi)
    | register d =>
      refine ⟨1, ?_, by rw [scan, if_pos hp, Probe.run_bind, hstep]; rfl⟩
      intro i hi
      rw [scan, if_pos hp, Probe.reads_bind, hstep] at hi
      exact hspec.1 i (by simpa using hi)
  · refine ⟨1, ?_⟩
    rw [scan, if_neg hp]
    exact .pure rfl

/-! ## The whole scan -/

/-- The scan of a device node ends, and has looked only at bytes that were read from it. -/
def Safe (mem : ℕ → UInt8) (n : ℕ) : Prop :=
  ∃ fuel, (findUsbDevice n fuel).Spec mem n fun r => r.isSome = true

lemma headers_spec (mem : ℕ → UInt8) (n : ℕ) :
    (headers n).Spec mem n fun ok => ok = true → 26 < n := by
  apply Probe.Spec.ite
  · intro _
    exact .pure nofun
  intro hsize
  have hn : 26 < n := by
    rw [USB_DT_DEVICE_SIZE, USB_DT_CONFIG_SIZE] at hsize
    omega
  apply Probe.Spec.read (by omega)
  apply Probe.Spec.ite
  · intro _
    exact .pure nofun
  intro _
  apply Probe.Spec.read (by omega)
  apply Probe.Spec.ite
  · intro _
    exact .pure nofun
  intro _
  apply Probe.Spec.read (by omega)
  apply Probe.Spec.ite
  · intro _
    exact .pure nofun
  intro _
  apply Probe.Spec.read (by omega)
  apply Probe.Spec.ite
  · intro _
    exact .pure nofun
  intro _
  exact .pure fun _ => hn

lemma Safe.ends (h : Safe mem n) (hok : (headers n).run mem = true) :
    Ends mem n (USB_DT_DEVICE_SIZE + USB_DT_CONFIG_SIZE) := by
  obtain ⟨fuel, hreads, hrun⟩ := h
  rw [findUsbDevice, Probe.run_bind, hok, if_pos rfl] at hrun
  rw [findUsbDevice, Probe.reads_bind, hok, if_pos rfl] at hreads
  exact ⟨fuel, fun i hi => hreads i (mem_append_right _ hi), hrun⟩

/-- The scan is safe exactly if the descriptors it comes to are all there as far as they are looked
at, and none of those that are skipped has length zero. -/
theorem findUsbDevice_safe_iff (mem : ℕ → UInt8) (n : ℕ) :
    Safe mem n ↔ ((headers n).run mem = true → ∀ p, Visited mem n p → p < n → Good mem n p) := by
  have hheaders := headers_spec mem n
  constructor
  · intro hsafe hok p hp hlt
    have hends : Ends mem n p := by
      induction hp with
      | refl => exact hsafe.ends hok
      | tail _ hpq ih => exact (ih hpq.1).next hpq
    exact hends.good hlt
  · intro hgood
    cases hok : (headers n).run mem with
    | true =>
      have hn := hheaders.2 hok
      obtain ⟨fuel, hends⟩ := ends_of_good (by omega) (hgood hok)
      refine ⟨fuel, Probe.Spec.bind (Q := fun ok => ok = true) ⟨hheaders.1, hok⟩ ?_⟩
      intro ok htrue
      rwa [if_pos htrue]
    | false =>
      refine ⟨0, Probe.Spec.bind (Q := fun ok => ok = false) ⟨hheaders.1, hok⟩ ?_⟩
      intro ok hfalse
      rw [hfalse]
      exact .pure rfl

def node (rest : Bytes) : ℕ → UInt8 := fun i =>
  ([18, 1] ++ List.replicate 16 0 ++ [9, 2] ++ List.replicate 7 0 ++ rest).getD i 0

/-- With a descriptor of length zero the scan never ends, and a single byte at the end makes it
look at the one after it. -/
theorem findUsbDevice_unsafe : ¬ Safe (node [0, 36]) 29 ∧ ¬ Safe (node [9]) 28 := by
  constructor
  · intro hsafe
    have hgood := (hsafe.ends (by decide)).good (by decide)
    exact hgood.length (by decide) (by decide)
  · intro hsafe
    have hgood := (hsafe.ends (by decide)).good (by decide)
    exact absurd hgood.header (by decide)

end Adb.Usb
