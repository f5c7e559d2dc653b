import Mathlib.Data.List.Basic
import Mathlib.Data.List.Pairwise
import Mathlib.Data.List.TakeWhile
import Mathlib.Tactic.Linarith

/-!
# Sorted lists of separated integer ranges

A set of integers kept as a list of inclusive ranges. In a `Separated` list every range is non-empty
and at least one integer is missing between a range and the next. `splitAtFirst` is what a
lower-bound search in such a list returns.
-/

namespace WebRtc.Lib

open List

/-- The integers from `first` to `last`, both included. -/
@[ext]
structure Range where
  first : Int
  last : Int
deriving DecidableEq

namespace Range

def Has (r : Range) (x : Int) : Prop := r.first ≤ x ∧ x ≤ r.last

instance (r : Range) (x : Int) : Decidable (r.Has x) := inferInstanceAs (Decidable (_ ∧ _))

end Range

def Covers (l : List Range) (x : Int) : Prop := ∃ r ∈ l, r.Has x

/-- Non-empty ranges in increasing order, no two of them adjacent. -/
structure Separated (l : List Range) : Prop where
  le : ∀ r ∈ l, r.first ≤ r.last
  gap : l.Pairwise fun a b => a.last + 1 < b.first

/-! ## Covering -/

variable {x : Int} {r : Range}

@[simp] lemma covers_nil : Covers [] x ↔ False := by simp [Covers]

variable {l : List Range}

@[simp] lemma covers_cons :
    Covers (r :: l) x ↔ r.Has x ∨ Covers l x := by simp [Covers]

@[simp] lemma covers_append {l' : List Range} :
    Covers (l ++ l') x ↔ Covers l x ∨ Covers l' x := by
  simp only [Covers, mem_append]
  constructor
  · rintro ⟨r, hr | hr, hx⟩
    · exact .inl ⟨r, hr, hx⟩
    · exact .inr ⟨r, hr, hx⟩
  rintro (⟨r, hr, hx⟩ | ⟨r, hr, hx⟩)
  · exact ⟨r, .inl hr, hx⟩
  · exact ⟨r, .inr hr, hx⟩

lemma not_covers_of_above (h : ∀ r ∈ l, x < r.first) : ¬ Covers l x := by
  rintro ⟨r, hr, hlo, -⟩
  have := h r hr
  omega

lemma not_covers_of_below (h : ∀ r ∈ l, r.last < x) : ¬ Covers l x := by
  rintro ⟨r, hr, -, hhi⟩
  have := h r hr
  omega

/-! ## Separated lists -/

lemma separated_nil : Separated [] := ⟨by simp, Pairwise.nil⟩

lemma separated_cons :
    Separated (r :: l) ↔ r.first ≤ r.last ∧ (∀ b ∈ l, r.last + 1 < b.first) ∧ Separated l := by
  constructor
  · rintro ⟨hle, hgap⟩
    rw [pairwise_cons] at hgap
    exact ⟨hle r mem_cons_self, hgap.1, fun b hb => hle b (mem_cons_of_mem _ hb), hgap.2⟩
  rintro ⟨hr, hb, hl⟩
  refine ⟨?_, pairwise_cons.mpr ⟨hb, hl.gap⟩⟩
  exact forall_mem_cons.mpr ⟨hr, hl.le⟩

lemma separated_append {l' : List Range} :
    Separated (l ++ l') ↔
      Separated l ∧ Separated l' ∧ ∀ a ∈ l, ∀ b ∈ l', a.last + 1 < b.first := by
  constructor
  · rintro ⟨hle, hgap⟩
    rw [pairwise_append] at hgap
    exact ⟨⟨fun r hr => hle r (mem_append_left _ hr), hgap.1⟩,
      ⟨fun r hr => hle r (mem_append_right _ hr), hgap.2.1⟩, hgap.2.2⟩
  rintro ⟨hl, hl', hx⟩
  refine ⟨?_, pairwise_append.mpr ⟨hl.gap, hl'.gap, hx⟩⟩
  exact forall_mem_append.mpr ⟨hl.le, hl'.le⟩

lemma separated_between {before after : List Range}
    (hbef : Separated before) (haft : Separated after)
    (hcross : ∀ a ∈ before, ∀ b ∈ after, a.last + 1 < b.first)
    (hr : r.first ≤ r.last) (hlo : ∀ a ∈ before, a.last + 1 < r.first)
    (hhi : ∀ b ∈ after, r.last + 1 < b.first) : Separated (before ++ r :: after) := by
  refine separated_append.mpr ⟨hbef, separated_cons.mpr ⟨hr, hhi, haft⟩, ?_⟩
  intro a ha b hb
  rcases mem_cons.mp hb with rfl | hb
  · exact hlo a ha
  · exact hcross a ha b hb

/-! ## Lower-bound search -/

def splitAtFirst {α : Type*} (p : α → Bool) (l : List α) : List α × List α :=
  (l.takeWhile p, l.dropWhile p)

lemma splitAtFirst_spec {α : Type*} {p : α → Prop} [DecidablePred p] {l before rest : List α}
    (h : splitAtFirst (fun x => decide (p x)) l = (before, rest)) :
    l = before ++ rest ∧ (∀ x ∈ before, p x) ∧ ∀ x ∈ rest.head?, ¬ p x := by
  obtain ⟨rfl, rfl⟩ := Prod.mk.inj h
  refine ⟨takeWhile_append_dropWhile.symm, fun x hx => ?_, fun x hx => ?_⟩
  · simpa using mem_takeWhile_imp hx
  have hnot := head?_dropWhile_not (fun x => decide (p x)) l
  rw [show (l.dropWhile fun x => decide (p x)).head? = some x from hx] at hnot
  simpa using hnot

end WebRtc.Lib
