import Mathlib.Data.Nat.Digits.Defs

/-!
# Numerals

Numbers as `printf` writes them, and what a reader makes of the characters.
-/

namespace Adb.Lib

open List

def digit (d : ℕ) : UInt8 := (Nat.digitChar d).toNat.toUInt8

def numeral (b n : ℕ) : List UInt8 := (Nat.toDigits b n).map fun c => c.toNat.toUInt8

def readNumeral (val : UInt8 → Option ℕ) (b n : ℕ) (s : List UInt8) : ℕ :=
  s.foldl (fun n c => n * b + (val c).getD 0) n

/-- The reader knows the digits of base `b`. -/
def Reads (val : UInt8 → Option ℕ) (b : ℕ) : Prop := ∀ d < b, val (digit d) = some d

variable {val : UInt8 → Option ℕ} {b n m k : ℕ} {s t : List UInt8} {c : UInt8}

lemma numeral_eq (hb : 1 < b) :
    numeral b n = if n < b then [digit n] else numeral b (n / b) ++ [digit (n % b)] := by
  unfold numeral
  rw [Nat.toDigits_eq_if hb]
  split
  · rfl
  · rw [map_append]
    rfl

/-- An induction that follows `numeral_eq`. -/
lemma numeral_induction (hb : 1 < b) {P : ℕ → Prop} (hlt : ∀ n < b, P n)
    (hle : ∀ n, b ≤ n → P (n / b) → P n) : P n := by
  induction n using Nat.strongRecOn with
  | ind n ih =>
    by_cases hn : n < b
    · exact hlt n hn
    · have hpos : 0 < n := by omega
      exact hle n (by omega) (ih (n / b) (Nat.div_lt_self hpos hb))

lemma readNumeral_append :
    readNumeral val b n (s ++ t) = readNumeral val b (readNumeral val b n s) t :=
  foldl_append

/-- What is written is read back. -/
lemma readNumeral_numeral (hb : 1 < b) (h : Reads val b) :
    readNumeral val b 0 (numeral b n) = n := by
  induction n using numeral_induction hb with
  | hlt n hn =>
    rw [numeral_eq hb, if_pos hn]
    simp [readNumeral, h n hn]
  | hle n hn ih =>
    have hmod : n % b < b := Nat.mod_lt n (by omega)
    have hdiv := Nat.div_add_mod' n b
    rw [numeral_eq hb, if_neg (by omega), readNumeral_append, ih]
    simpa [readNumeral, h (n % b) hmod] using hdiv

lemma isSome_of_mem_numeral (hb : 1 < b) (h : Reads val b) :
    ∀ c ∈ numeral b n, (val c).isSome = true := by
  induction n using numeral_induction hb with
  | hlt n hn =>
    intro c hc
    rw [numeral_eq hb, if_pos hn] at hc
    rw [mem_singleton.mp hc, h n hn]
    rfl
  | hle n hn ih =>
    intro c hc
    rw [numeral_eq hb, if_neg (by omega)] at hc
    rcases mem_append.mp hc with hc | hc
    · exact ih c hc
    · rw [mem_singleton.mp hc, h (n % b) (Nat.mod_lt n (by omega))]
      rfl

lemma length_numeral_le_iff (hb : 1 < b) (hk : 0 < k) : (numeral b n).length ≤ k ↔ n < b ^ k := by
  rw [numeral, length_map]
  exact Nat.length_toDigits_le_iff hb hk

lemma readNumeral_lt (hval : ∀ c ∈ s, ∀ d, val c = some d → d < b) (hb : 0 < b) :
    readNumeral val b n s < (n + 1) * b ^ s.length := by
  induction s generalizing n with
  | nil => simp [readNumeral]
  | cons c rest ih =>
    have hd : (val c).getD 0 < b := by
      cases hc : val c with
      | none => exact hb
      | some d => exact hval c (by simp) d hc
    have hrest := ih (n := n * b + (val c).getD 0) fun c hc => hval c (by simp [hc])
    calc readNumeral val b n (c :: rest) < (n * b + (val c).getD 0 + 1) * b ^ rest.length := hrest
      _ ≤ ((n + 1) * b) * b ^ rest.length := by
          apply Nat.mul_le_mul_right
          rw [Nat.add_mul, Nat.one_mul]
          omega
      _ = (n + 1) * b ^ (c :: rest).length := by
          rw [length_cons, Nat.pow_succ, Nat.mul_assoc, Nat.mul_comm b]

end Adb.Lib
