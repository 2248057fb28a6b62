import Mathlib.Data.Nat.Notation
import Mathlib.Tactic.Ring

/-!
# Little-endian words
-/

namespace Adb.Lib

open List

/-- The lowest `k` bytes of a number, the lowest first. -/
def leBytes : ℕ → ℕ → List UInt8
  | 0, _ => []
  | k + 1, n => UInt8.ofNat n :: leBytes k (n / 256)

def leValue : List UInt8 → ℕ
  | [] => 0
  | b :: rest => b.toNat + 256 * leValue rest

@[simp] lemma length_leBytes (k n : ℕ) : (leBytes k n).length = k := by
  induction k generalizing n with
  | zero => rfl
  | succ k ih => simp [leBytes, ih]

lemma leValue_leBytes {k n : ℕ} (h : n < 256 ^ k) : leValue (leBytes k n) = n := by
  induction k generalizing n with
  | zero =>
    have hzero : n = 0 := by simpa using h
    rw [hzero]
    rfl
  | succ k ih =>
    have hdiv : n / 256 < 256 ^ k := by
      rw [Nat.div_lt_iff_lt_mul (by omega)]
      calc n < 256 ^ (k + 1) := h
        _ = 256 ^ k * 256 := by ring
    have hlow : (UInt8.ofNat n).toNat = n % 256 := by simp
    rw [leBytes, leValue, ih hdiv, hlow]
    omega

lemma leBytes_leValue (l : List UInt8) : leBytes l.length (leValue l) = l := by
  induction l with
  | nil => rfl
  | cons b rest ih =>
    have hb : b.toNat < 256 := b.toNat_lt
    have hlow : UInt8.ofNat (b.toNat + 256 * leValue rest) = b := by
      apply UInt8.toNat.inj
      rw [UInt8.toNat_ofNat']
      omega
    have hhigh : (b.toNat + 256 * leValue rest) / 256 = leValue rest := by omega
    rw [length_cons, leBytes, leValue, hlow, hhigh, ih]

lemma leValue_lt (l : List UInt8) : leValue l < 256 ^ l.length := by
  induction l with
  | nil => exact Nat.one_pos
  | cons b rest ih =>
    have hb : b.toNat < 256 := b.toNat_lt
    rw [leValue, length_cons, Nat.pow_succ]
    omega

def le32 (n : UInt32) : List UInt8 := leBytes 4 n.toNat

def word32 (bytes : List UInt8) : UInt32 := UInt32.ofNat (leValue (bytes.take 4))

@[simp] lemma length_le32 {n : UInt32} : (le32 n).length = 4 := length_leBytes 4 _

lemma word32_append (n : UInt32) (rest : List UInt8) : word32 (le32 n ++ rest) = n := by
  have hlt : n.toNat < 256 ^ 4 := n.toNat_lt
  rw [word32, take_left' length_le32, le32, leValue_leBytes hlt]
  simp

lemma le32_word32 {bytes : List UInt8} (h : 4 ≤ bytes.length) :
    le32 (word32 bytes) = bytes.take 4 := by
  have hlen : (bytes.take 4).length = 4 := length_take_of_le h
  have hlt := leValue_lt (bytes.take 4)
  rw [hlen] at hlt
  have hvalue : (word32 bytes).toNat = leValue (bytes.take 4) := UInt32.toNat_ofNat_of_lt' hlt
  rw [le32, hvalue]
  nth_rewrite 1 [← hlen]
  exact leBytes_leValue _

end Adb.Lib
