import Mathlib.Data.Int.ModEq

/-!
# 32-bit integers

A program that keeps a number in an `int` keeps it modulo `2 ^ 32`, between `-2 ^ 31` and
`2 ^ 31 - 1`. A sum may be taken exactly and be narrowed once at its end.
-/

namespace WebRtc.Lib

/-- The value that is kept of `x` in an `int` of 32 bits. -/
def asInt (x : Int) : Int := x.bmod (2 ^ 32)

variable {x y : Int}

/-- A value in the range of the type is kept. -/
lemma asInt_of_range (hlow : -2 ^ 31 ≤ x) (hhigh : x < 2 ^ 31) : asInt x = x :=
  Int.bmod_eq_of_le (by omega) (by omega)

lemma asInt_nat {n : Nat} (h : n < 2 ^ 31) : asInt n = n := asInt_of_range (by omega) (by omega)

/-- Parts that are narrowed one by one add up right as long as their sum is in range. -/
lemma sum_asInt {α : Type*} (w : α → Nat) : ∀ {l : List α}, (l.map w).sum < 2 ^ 31 →
    (l.map fun a => asInt (w a)).sum = (l.map w).sum
  | [], _ => rfl
  | a :: l, h => by
    rw [List.map_cons, List.sum_cons] at h
    rw [List.map_cons, List.sum_cons, List.map_cons, List.sum_cons, asInt_nat (by omega),
      sum_asInt w (by omega)]
    push_cast
    rfl

/-- Narrowing a part of a sum first changes nothing. -/
lemma asInt_asInt_add : asInt (asInt x + y) = asInt (x + y) := by
  simp [asInt]

/-- A value that is too large wraps to a smaller one. -/
lemma asInt_le (hlow : -2 ^ 31 ≤ x) : asInt x ≤ x := by
  unfold asInt
  have hle := Int.bmod_lt (x := x) (m := 2 ^ 32) (by decide)
  by_cases hhigh : x < 2 ^ 31
  · exact Int.le_of_eq (asInt_of_range hlow hhigh)
  · omega

end WebRtc.Lib
