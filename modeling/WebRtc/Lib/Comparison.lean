import Mathlib.Algebra.Order.Ring.Int

/-!
# Lib — comparisons that rank

A comparison answers with a sign: positive if its first argument is better, negative if the
second one is, zero if neither. It ranks if exchanging the arguments exchanges the sign and
"at least as good" is transitive. Comparing by a key ranks, so does a second comparison
asked where a first one is undecided, and what ranks is a strict weak order.
-/

namespace WebRtc.Lib

variable {α β : Type*}

structure Ranks (f : α → α → Int) : Prop where
  swap : ∀ a b, f a b < 0 ↔ 0 < f b a
  trans : ∀ a b c, 0 ≤ f a b → 0 ≤ f b c → 0 ≤ f a c

/-- Prefers the larger key. -/
def prefer [LinearOrder β] (key : α → β) (a b : α) : Int :=
  if key b < key a then 1 else if key a < key b then -1 else 0

/-- Asks `g` where `f` is undecided. -/
def thenBy (f g : α → α → Int) (a b : α) : Int := if f a b ≠ 0 then f a b else g a b

lemma undecided_ranks : Ranks fun _ _ : α => 0 := ⟨by simp, by simp⟩

lemma thenBy_nonneg {f g : α → α → Int} {a b : α} :
    0 ≤ thenBy f g a b ↔ 0 ≤ f a b ∧ (f a b = 0 → 0 ≤ g a b) := by
  unfold thenBy
  split_ifs <;> omega

lemma thenBy_eq_zero {f g : α → α → Int} {a b : α} (h : thenBy f g a b = 0) :
    f a b = 0 ∧ g a b = 0 := by
  unfold thenBy at h
  split_ifs at h <;> omega

section

variable [LinearOrder β] {key : α → β} {a b : α}

lemma prefer_neg : prefer key a b < 0 ↔ key a < key b := by
  rcases lt_trichotomy (key a) (key b) with h | h | h <;> simp [prefer, h, not_lt_of_gt]

lemma prefer_pos : 0 < prefer key a b ↔ key b < key a := by
  rcases lt_trichotomy (key a) (key b) with h | h | h <;> simp [prefer, h, not_lt_of_gt]

lemma prefer_eq_zero (h : prefer key a b = 0) : key a = key b := by
  have h1 := prefer_neg.not.mp h.not_lt
  have h2 := prefer_pos.not.mp h.not_gt
  exact le_antisymm (le_of_not_gt h2) (le_of_not_gt h1)

lemma prefer_ranks (key : α → β) : Ranks (prefer key) where
  swap a b := prefer_neg.trans prefer_pos.symm
  trans a b c hab hbc := by
    rw [← not_lt, prefer_neg, not_lt] at hab hbc ⊢
    exact hbc.trans hab

end

namespace Ranks

variable {f g : α → α → Int}

lemma total (h : Ranks f) (a b : α) : 0 ≤ f a b ∨ 0 ≤ f b a := by
  have := h.swap a b
  omega

lemma eq_zero_comm (h : Ranks f) {a b : α} (hab : f a b = 0) : f b a = 0 := by
  have := h.swap a b
  have := h.swap b a
  omega

/-- Of three values at least as good one after the other, a tie of the outer two is a tie
of all. -/
lemma eq_zero_of_trans (h : Ranks f) {a b c : α} (hab : 0 ≤ f a b) (hbc : 0 ≤ f b c)
    (hac : f a c = 0) : f a b = 0 ∧ f b c = 0 := by
  have hca := (h.eq_zero_comm hac).ge
  have hba := h.trans b c a hbc hca
  have hcb := h.trans c a b hca hab
  have := h.swap b a
  have := h.swap c b
  omega

lemma thenBy (hf : Ranks f) (hg : Ranks g) : Ranks (thenBy f g) where
  swap a b := by
    have := hf.swap a b
    have := hf.swap b a
    have := hg.swap a b
    unfold Lib.thenBy
    split_ifs <;> omega
  trans a b c hab hbc := by
    rw [thenBy_nonneg] at hab hbc ⊢
    refine ⟨hf.trans a b c hab.1 hbc.1, fun hac => ?_⟩
    obtain ⟨hab0, hbc0⟩ := hf.eq_zero_of_trans hab.1 hbc.1 hac
    exact hg.trans a b c (hab.2 hab0) (hbc.2 hbc0)

lemma isStrictWeakOrder (h : Ranks f) : IsStrictWeakOrder α fun a b => 0 < f a b where
  irrefl a ha := by
    have := h.swap a a
    omega
  trans a b c hab hbc := by
    have := h.trans a b c hab.le hbc.le
    have := mt (h.eq_zero_of_trans hab.le hbc.le) (by omega)
    omega
  incomp_trans a b c hab hbc := by
    simp only [← h.swap, not_lt] at hab hbc ⊢
    exact ⟨h.trans c b a hbc.1 hab.1, h.trans a b c hab.2 hbc.2⟩

end Ranks

end WebRtc.Lib
