import Mathlib.Algebra.GroupWithZero.Nat
import Mathlib.Data.List.Basic

/-!
# Totals over the elements in a given condition

Bookkeeping code often keeps a number that should equal the total of some measure
over those elements of a list that are in a certain condition. `tally` is that total,
and the lemmas say how it moves when an element is added, removed or replaced.
-/

namespace WebRtc.Lib

variable {α : Type*} {p : α → Bool} {w : α → Nat} {l : List α} {a b : α}

def tally (p : α → Bool) (w : α → Nat) (l : List α) : Nat := ((l.filter p).map w).sum

def share (p : α → Bool) (w : α → Nat) (a : α) : Nat := if p a then w a else 0

lemma share_of_not (h : p a = false) : share p w a = 0 := by simp [share, h]

lemma share_of (h : p a = true) : share p w a = w a := by simp [share, h]

lemma tally_cons : tally p w (a :: l) = share p w a + tally p w l := by
  by_cases h : p a <;> simp [tally, share, h]

lemma tally_snoc : tally p w (l ++ [a]) = tally p w l + share p w a := by
  by_cases h : p a <;> simp [tally, share, h]

lemma tally_set {n : Nat} (h : l[n]? = some a) :
    tally p w (l.set n b) + share p w a = tally p w l + share p w b := by
  induction l generalizing n with
  | nil => simp at h
  | cons c l ih =>
    cases n with
    | zero =>
      obtain rfl : c = a := by simpa using h
      simp only [List.set_cons_zero, tally_cons]
      omega
    | succ n =>
      have hrec := ih (n := n) (by simpa using h)
      simp only [List.set_cons_succ, tally_cons]
      omega

lemma tally_one_eq_zero : tally p (fun _ => 1) l = 0 ↔ ∀ a ∈ l, p a = false := by
  simp [tally]

end WebRtc.Lib
