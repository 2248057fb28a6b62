import Adb.Lib.Numeral
import Adb.SmartSocket
import Mathlib.Data.List.TakeWhile

/-!
# Strings with a length in front of them

`SendProtocolString` and `ReadProtocolString` of `adb_io.cpp`. The length is printed with `%04x` and
read from exactly four characters, and the limit is that of a packet, so that the two sides agree
only about strings of less than 64 KiB.
-/

namespace Adb

open Lib List

def isSpace (c : UInt8) : Bool := c = 32 || (9 ≤ c && c ≤ 13)

def skipHexPrefix (s : Bytes) : Bytes :=
  match s with
  | 48 :: x :: c :: rest =>
    if (x = 120 || x = 88) && (hexDigit c).isSome then c :: rest else s
  | _ => s

/-- `strtoul(s, nullptr, 16)`, for an `s` of a few characters. -/
def strtoul16 (s : Bytes) : ℕ :=
  let t := s.dropWhile isSpace
  let negative := t.head? = some 45
  let u := if negative || t.head? = some 43 then t.tail else t
  let n := readNumeral hexDigit 16 0 ((skipHexPrefix u).takeWhile fun c => (hexDigit c).isSome)
  if negative then (2 ^ 64 - n) % 2 ^ 64 else n

/-- `ReadFdExactly(fd, buf, n)` on an fd that gives `input` and then nothing more: what is read, and
what is left. -/
def readFdExactly (n : ℕ) (input : Bytes) : Option (Bytes × Bytes) :=
  if n ≤ input.length then some (input.take n, input.drop n) else none

/-- `SendProtocolString(fd, s)`: what is written to the fd, or `none` if the string is too long. The
characters come through `%.*s`, which ends with the first null. -/
def sendProtocolString (s : Bytes) : Option Bytes :=
  let length := (UInt32.ofNat s.length).toNat
  if length > maxPayload - 4 then none
  else some (Sockets.hex4 length ++ cString (s.take length))

def readProtocolString (input : Bytes) : Except Bytes (Bytes × Bytes) :=
  match readFdExactly 4 input with
  | none => .error (ascii "protocol fault (couldn't read status length)")
  | some (buf, input) =>
    match readFdExactly (strtoul16 buf) input with
    | none => .error (ascii "protocol fault (couldn't read status message)")
    | some r => .ok r

/-- The sizes with which `ReadProtocolString` calls `ReadFdExactly`; the string is resized to the
second. -/
def protocolStringSizes (input : Bytes) : List ℕ :=
  match readFdExactly 4 input with
  | none => [4]
  | some (buf, _) => [4, strtoul16 buf]

/-- What is read of `bytes` is `s`, and no byte more is consumed. -/
def RoundTrips (s bytes : Bytes) : Prop :=
  ∀ rest, readProtocolString (bytes ++ rest) = .ok (s, rest)

variable {s t text bytes rest : Bytes} {n : ℕ}

/-! ## The length -/

lemma reads_hexDigit : Reads hexDigit 16 := by
  unfold Reads
  decide

variable {c : UInt8}

lemma hexDigit_cases {d : ℕ} (h : hexDigit c = some d) :
    48 ≤ c.toNat ∧ c.toNat ≤ 57 ∧ d = c.toNat - 48 ∨
      97 ≤ c.toNat ∧ c.toNat ≤ 102 ∧ d = c.toNat - 97 + 10 ∨
      65 ≤ c.toNat ∧ c.toNat ≤ 70 ∧ d = c.toNat - 65 + 10 := by
  unfold hexDigit at h
  split at h
  · next hc =>
    cases h
    exact .inl ⟨hc.1, hc.2, rfl⟩
  split at h
  · next hc =>
    cases h
    exact .inr (.inl ⟨hc.1, hc.2, rfl⟩)
  split at h
  · next hc =>
    cases h
    exact .inr (.inr ⟨hc.1, hc.2, rfl⟩)
  · cases h

lemma hexDigit_lt {d : ℕ} (h : hexDigit c = some d) : d < 16 := by
  have hcases := hexDigit_cases h
  omega

lemma hexDigit_plain (h : (hexDigit c).isSome = true) :
    isSpace c = false ∧ c ≠ 45 ∧ c ≠ 43 ∧ c ≠ 120 ∧ c ≠ 88 := by
  obtain ⟨d, hd⟩ := Option.isSome_iff_exists.mp h
  have hcases := hexDigit_cases hd
  have hne : ∀ k : UInt8, ¬ (48 ≤ k.toNat ∧ k.toNat ≤ 57 ∨ 97 ≤ k.toNat ∧ k.toNat ≤ 102 ∨
      65 ≤ k.toNat ∧ k.toNat ≤ 70) → c ≠ k := by
    intro k hk heq
    subst heq
    omega
  refine ⟨?_, hne 45 (by decide), hne 43 (by decide), hne 120 (by decide), hne 88 (by decide)⟩
  have h13 : ¬ c ≤ 13 := by
    intro hle
    have hle : c.toNat ≤ 13 := hle
    omega
  simp [isSpace, hne 32 (by decide), h13]

lemma strtoul16_of_digits (h : ∀ c ∈ s, (hexDigit c).isSome = true) :
    strtoul16 s = readNumeral hexDigit 16 0 s := by
  have hspace : s.dropWhile isSpace = s := by
    cases s with
    | nil => rfl
    | cons c rest => exact dropWhile_cons_of_neg (by simp [(hexDigit_plain (h c (by simp))).1])
  have hhead : ∀ k ∈ [(45 : UInt8), 43], s.head? ≠ some k := by
    intro k hk heq
    have hplain := hexDigit_plain (h k (mem_of_head? heq))
    simp only [mem_cons, not_mem_nil, or_false] at hk
    rcases hk with rfl | rfl
    · exact hplain.2.1 rfl
    · exact hplain.2.2.1 rfl
  have hx : skipHexPrefix s = s := by
    unfold skipHexPrefix
    split
    · next x c rest =>
      have hplain := hexDigit_plain (h x (by simp))
      rw [if_neg]
      simp [hplain.2.2.2.1, hplain.2.2.2.2]
    · rfl
  have hall : s.takeWhile (fun c => (hexDigit c).isSome) = s := takeWhile_eq_self_iff.mpr h
  simp [strtoul16, hspace, hhead 45 (by simp), hhead 43 (by simp), hx, hall]

lemma isSome_of_mem_hex4 (n : ℕ) : ∀ c ∈ Sockets.hex4 n, (hexDigit c).isSome = true := by
  intro c hc
  rcases mem_append.mp hc with hc | hc
  · rw [eq_of_mem_replicate hc]
    rfl
  · exact isSome_of_mem_numeral (by omega) reads_hexDigit c hc

lemma readNumeral_hex4 : readNumeral hexDigit 16 0 (Sockets.hex4 n) = n := by
  have hzeros : ∀ k, readNumeral hexDigit 16 0 (List.replicate k 48) = 0 := by
    intro k
    induction k with
    | zero => rfl
    | succ k ih => exact ih
  show readNumeral hexDigit 16 0 (List.replicate _ 48 ++ numeral 16 n) = n
  rw [readNumeral_append, hzeros]
  exact readNumeral_numeral (by omega) reads_hexDigit

lemma length_hex4 (n : ℕ) : 4 ≤ (Sockets.hex4 n).length ∧
    ((Sockets.hex4 n).length = 4 ↔ n ≤ 0xffff) := by
  have hle := length_numeral_le_iff (b := 16) (n := n) (k := 4) (by omega) (by omega)
  have hlen : (Sockets.hex4 n).length = 4 - (numeral 16 n).length + (numeral 16 n).length := by
    show (List.replicate (4 - (numeral 16 n).length) 48 ++ numeral 16 n).length = _
    rw [length_append, length_replicate]
  omega

lemma strtoul16_lt (h : ∀ c ∈ s, (hexDigit c).isSome = true) (hlen : s.length = 4) :
    strtoul16 s ≤ 0xffff := by
  have hlt := readNumeral_lt (n := 0) (s := s) (fun c _ d => hexDigit_lt (c := c) (d := d))
    (by omega : 0 < 16)
  rw [strtoul16_of_digits h]
  rw [hlen] at hlt
  omega

/-! ## The string -/

lemma readFdExactly_append (h : s.length = n) : readFdExactly n (s ++ t) = some (s, t) := by
  subst h
  rw [readFdExactly, if_pos (by simp)]
  simp

lemma readProtocolString_append (hs : s.length = 4) (ht : t.length = strtoul16 s) :
    readProtocolString (s ++ t ++ rest) = .ok (t, rest) := by
  rw [readProtocolString, append_assoc, readFdExactly_append hs]
  simp only [readFdExactly_append ht]

lemma length_of_readProtocolString (hs : s.length = 4)
    (h : readProtocolString (s ++ t) = .ok (text, rest)) :
    text.length = strtoul16 s ∧ text ++ rest = t := by
  rw [readProtocolString, readFdExactly_append hs] at h
  dsimp only at h
  unfold readFdExactly at h
  split at h
  · cases h
  next heq =>
  split at heq
  · next hle =>
    cases heq
    cases h
    exact ⟨length_take_of_le hle, take_append_drop ..⟩
  · cases heq

/-- Exactly four hexadecimal digits are a header that cannot be misread: with any other, enough bytes
that follow are taken for a string. -/
theorem header_checked_iff (a b c d : UInt8) :
    (∀ t, (∀ text rest, readProtocolString ([a, b, c, d] ++ t) = .ok (text, rest) →
        (∀ x ∈ [a, b, c, d], (hexDigit x).isSome = true) ∧
          text.length = readNumeral hexDigit 16 0 [a, b, c, d] ∧ t = text ++ rest) ∧
      ∀ n ∈ protocolStringSizes ([a, b, c, d] ++ t), n ≤ 0xffff) ↔
    ∀ x ∈ [a, b, c, d], (hexDigit x).isSome = true := by
  constructor
  · intro h
    have hread : readProtocolString ([a, b, c, d] ++ List.replicate (strtoul16 [a, b, c, d]) 0 ++ []) =
        .ok (_, []) := readProtocolString_append rfl length_replicate
    rw [List.append_nil] at hread
    exact ((h _).1 _ _ hread).1
  · intro h t
    constructor
    · intro text rest hread
      obtain ⟨hlen, happend⟩ := length_of_readProtocolString rfl hread
      exact ⟨h, strtoul16_of_digits h ▸ hlen, happend.symm⟩
    intro n hn
    have hle := strtoul16_lt h rfl
    rw [protocolStringSizes, readFdExactly_append (n := 4) rfl] at hn
    rcases mem_pair.mp hn with rfl | rfl
    · decide
    · exact hle

/-- A sign and three digits; and a negative number, which is a length of nearly 2^64 bytes. -/
theorem header_unchecked :
    readProtocolString (ascii "+001x") = .ok (ascii "x", []) ∧
      protocolStringSizes (ascii "-001") = [4, 2 ^ 64 - 1] := by
  decide

lemma RoundTrips.short (hdigits : ∀ c ∈ s, (hexDigit c).isSome = true) (hs : s.length = 4)
    (h : RoundTrips text (s ++ t)) : text.length ≤ 0xffff ∧ text.length = strtoul16 s ∧
      text <+: t := by
  have hread : readProtocolString (s ++ t) = .ok (text, []) := by
    have := h []
    rwa [List.append_nil] at this
  obtain ⟨hlen, happend⟩ := length_of_readProtocolString hs hread
  have hle := strtoul16_lt hdigits hs
  exact ⟨by omega, hlen, [], happend⟩

lemma strtoul16_hex4 : strtoul16 (Sockets.hex4 n) = n := by
  rw [strtoul16_of_digits (isSome_of_mem_hex4 n), readNumeral_hex4]

lemma toNat_length (h : s.length ≤ 0xffff) : (UInt32.ofNat s.length).toNat = s.length :=
  UInt32.toNat_ofNat_of_lt' (by
    show s.length < 4294967296
    omega)

lemma cString_eq_self (h : 0 ∉ s) : cString s = s := by
  rw [cString, takeWhile_eq_self_iff]
  intro c hc
  apply decide_eq_true
  intro hzero
  exact h (hzero ▸ hc)

lemma sendProtocolString_roundTrips_iff (hsend : sendProtocolString s = some bytes) :
    RoundTrips s bytes ↔ s.length ≤ 0xffff ∧ 0 ∉ s := by
  unfold sendProtocolString at hsend
  dsimp only at hsend
  split at hsend
  · cases hsend
  have hbytes := Option.some.inj hsend
  constructor
  · intro h
    -- whatever was printed, four digits of it are read
    have hsplit := take_append_drop 4 (Sockets.hex4 (UInt32.ofNat s.length).toNat)
    rw [← hbytes, ← hsplit, append_assoc] at h
    have hlen := (length_hex4 (UInt32.ofNat s.length).toNat).1
    have hdigits : ∀ c ∈ (Sockets.hex4 (UInt32.ofNat s.length).toNat).take 4,
        (hexDigit c).isSome = true :=
      fun c hc => isSome_of_mem_hex4 _ c (mem_of_mem_take hc)
    obtain ⟨hshort, -, hprefix⟩ := h.short hdigits (length_take_of_le hlen)
    refine ⟨hshort, ?_⟩
    -- so that nothing but the characters follows, and they are all there
    have hnat := toNat_length hshort
    rw [hnat] at hprefix
    rw [drop_of_length_le (by rw [((length_hex4 s.length).2).mpr hshort]), nil_append,
      take_length] at hprefix
    intro hzero
    have hmem : (0 : UInt8) ∈ cString s := hprefix.subset hzero
    have := mem_takeWhile_imp hmem
    simp at this
  · intro ⟨hshort, hzero⟩ rest
    have hnat := toNat_length hshort
    rw [← hbytes, hnat, take_length, cString_eq_self hzero]
    exact readProtocolString_append ((length_hex4 s.length).2.mpr hshort) strtoul16_hex4.symm

lemma trackerFrame_roundTrips_iff :
    RoundTrips text (Sockets.trackerFrame text) ↔ text.length ≤ 0xffff := by
  unfold Sockets.trackerFrame
  constructor
  · intro h
    have hlen := (length_hex4 (UInt32.ofNat text.length).toNat).1
    have hdigits : ∀ c ∈ (Sockets.hex4 (UInt32.ofNat text.length).toNat).take 4,
        (hexDigit c).isSome = true :=
      fun c hc => isSome_of_mem_hex4 _ c (mem_of_mem_take hc)
    exact (h.short hdigits (length_take_of_le hlen)).1
  · intro hshort rest
    have hlen := (length_hex4 text.length).2.mpr hshort
    rw [toNat_length hshort, take_of_length_le (by rw [hlen])]
    exact readProtocolString_append hlen strtoul16_hex4.symm

/-- `SendProtocolString` and `ReadProtocolString` agree exactly about strings of less than 64 KiB
without a null, and the frames of a device tracker exactly about lists of less than 64 KiB. -/
theorem protocolString_roundTrips_iff (s : Bytes) :
    (∀ bytes, sendProtocolString s = some bytes →
      (RoundTrips s bytes ↔ s.length ≤ 0xffff ∧ 0 ∉ s)) ∧
    (RoundTrips s (Sockets.trackerFrame s) ↔ s.length ≤ 0xffff) :=
  ⟨fun _ => sendProtocolString_roundTrips_iff, trackerFrame_roundTrips_iff⟩

/-- A serial number. -/
theorem protocolString_roundTrips_serial :
    sendProtocolString (ascii "emulator-5554") = some (ascii "000demulator-5554") ∧
      RoundTrips (ascii "emulator-5554") (ascii "000demulator-5554") := by
  have hsend : sendProtocolString (ascii "emulator-5554") = some (ascii "000demulator-5554") := by
    decide
  exact ⟨hsend, ((protocolString_roundTrips_iff _).1 _ hsend).mpr (by decide)⟩

/-- 64 KiB are announced as 4 KiB, and a null is the end of a string. -/
theorem protocolString_not_roundTrips :
    (∃ bytes, sendProtocolString (List.replicate 65536 97) = some bytes ∧
      ¬ RoundTrips (List.replicate 65536 97) bytes) ∧
    ∃ bytes, sendProtocolString [97, 0, 98] = some bytes ∧ ¬ RoundTrips [97, 0, 98] bytes := by
  constructor
  · have hsend : sendProtocolString (List.replicate 65536 97) = some (ascii "10000" ++
        cString ((List.replicate 65536 97).take 65536)) := by
      rw [sendProtocolString, length_replicate]
      rfl
    refine ⟨_, hsend, ?_⟩
    rw [sendProtocolString_roundTrips_iff hsend, length_replicate]
    omega
  · have hsend : sendProtocolString [97, 0, 98] = some (ascii "0003a") := by decide
    refine ⟨_, hsend, ?_⟩
    rw [sendProtocolString_roundTrips_iff hsend]
    simp

end Adb
