import Mathlib.Data.List.Basic

/-!
# The words of a command line

How a POSIX shell splits a line that is one simple command. A line with an unquoted character that
may mean anything else to the shell, or with a quotation that does not end, has no words.
-/

namespace Adb.Lib

open List

/-- Letters, digits and `-./_`: they stand for themselves. -/
def ordinary (c : UInt8) : Bool :=
  45 ≤ c && c ≤ 57 || 65 ≤ c && c ≤ 90 || c = 95 || 97 ≤ c && c ≤ 122

inductive Quoting
  | bare
  /-- between two `'` -/
  | quoted
  /-- after a `\` -/
  | escaped
deriving DecidableEq, Repr

/-- The words of the rest of a line, with the word `w` that has been begun. -/
def lexWords : Quoting → Option (List UInt8) → List UInt8 → Option (List (List UInt8))
  | q, w, [] => if q = .bare then some w.toList else none
  | .quoted, w, c :: cs =>
    if c = 39 then lexWords .bare w cs else lexWords .quoted (some (w.getD [] ++ [c])) cs
  | .escaped, w, c :: cs => if c = 10 then none else lexWords .bare (some (w.getD [] ++ [c])) cs
  | .bare, w, c :: cs =>
    if c = 32 then (lexWords .bare none cs).map (w.toList ++ ·)
    else if c = 39 then lexWords .quoted (some (w.getD [])) cs
    else if c = 92 then lexWords .escaped w cs
    else if ordinary c then lexWords .bare (some (w.getD [] ++ [c])) cs
    else none

def shellWords (line : List UInt8) : Option (List (List UInt8)) := lexWords .bare none line

/-- Every `'` of a quoted word ends the quotation, is escaped, and begins the next. -/
lemma lexWords_quoted (s w cs : List UInt8) :
    lexWords .quoted (some w)
        (s.flatMap (fun c => if c = 39 then [39, 92, 39, 39] else [c]) ++ 39 :: cs) =
      lexWords .bare (some (w ++ s)) cs := by
  induction s generalizing w with
  | nil => simp [lexWords]
  | cons c s ih =>
    have hrest := ih (w ++ [c])
    rw [append_assoc] at hrest
    by_cases hc : c = 39
    · subst hc
      simpa [lexWords] using hrest
    · simpa [lexWords, hc] using hrest

end Adb.Lib
