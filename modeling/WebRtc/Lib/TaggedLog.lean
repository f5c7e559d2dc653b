import Mathlib.Data.List.Basic
import Mathlib.Data.List.TakeWhile

/-!
# Logs of items that belong to blocks

`Locally P log` says that each entry of a log satisfies `P` against the entries before it. Each
entry may belong to a block (`id`) and have a position in it (`pos`). In a log that is `InOrder`
the entries of a block appear in the order of their positions; in a `Contiguous` log they are also
neighbours.
-/

namespace WebRtc.Lib

open List

variable {α ι : Type*}

/-- Every entry satisfies `P` against the entries before it. -/
def Locally (P : List α → α → Prop) (log : List α) : Prop :=
  ∀ (k : Nat) (x : α), log[k]? = some x → P (log.take k) x

lemma locally_nil (P : List α → α → Prop) : Locally P [] := fun k x h => by simp at h

variable {x : α}

lemma locally_snoc {P : List α → α → Prop} {log : List α} :
    Locally P (log ++ [x]) ↔ Locally P log ∧ P log x := by
  constructor
  · intro h
    refine ⟨fun k y hk => ?_, ?_⟩
    · have hlt : k < log.length := (List.getElem?_eq_some_iff.mp hk).1
      have := h k y (by rw [getElem?_append_left hlt, hk])
      rwa [take_append_of_le_length (by omega)] at this
    · have := h log.length x (by simp)
      rwa [take_left] at this
  rintro ⟨hlog, hx⟩ k y hk
  by_cases hlt : k < log.length
  · rw [getElem?_append_left hlt] at hk
    rw [take_append_of_le_length (by omega)]
    exact hlog k y hk
  rw [getElem?_append_right (by omega)] at hk
  have hk0 : k - log.length = 0 := by
    have := (List.getElem?_eq_some_iff.mp hk).1
    simp only [length_singleton] at this
    omega
  have hkeq : k = log.length := by omega
  subst hkeq
  have hxy : x = y := by simpa using hk
  rw [take_left, ← hxy]
  exact hx

section Blocks

variable [DecidableEq ι] (id : α → ι) (pos : α → Nat)

def blockOf (log : List α) (b : ι) : List α := log.filter fun x => id x = b

/-- The position of an entry counts the entries of its block before it. -/
def InOrder (before : List α) (x : α) : Prop := pos x = (blockOf id before (id x)).length

/-- An entry that is not the first of its block follows an entry of the same block. -/
def Contiguous (before : List α) (x : α) : Prop :=
  pos x ≠ 0 → ∃ y, before.getLast? = some y ∧ id y = id x

def startOf (log : List α) (b : ι) : Nat := log.findIdx fun x => id x = b

variable {id pos} {log : List α} {b : ι}

lemma filter_getElem?_of_getElem? (p : α → Bool) {k : Nat} (hk : log[k]? = some x)
    (hp : p x = true) : (log.filter p)[((log.take k).filter p).length]? = some x := by
  obtain ⟨hlt, hget⟩ := List.getElem?_eq_some_iff.mp hk
  have hsplit : log = log.take k ++ x :: log.drop (k + 1) := by
    rw [← hget, getElem_cons_drop, take_append_drop]
  conv_lhs => rw [hsplit]
  rw [filter_append, filter_cons_of_pos hp, take_left' (by simp; omega),
    getElem?_append_right le_rfl, Nat.sub_self]
  rfl

lemma exists_getElem?_of_filter (p : α → Bool) {j : Nat} (hj : (log.filter p)[j]? = some x) :
    ∃ k, log[k]? = some x ∧ ((log.take k).filter p).length = j := by
  induction log generalizing j with
  | nil => simp at hj
  | cons a rest ih =>
    by_cases hp : p a = true
    · rw [filter_cons_of_pos hp] at hj
      cases j with
      | zero => exact ⟨0, by simpa using hj, by simp⟩
      | succ j =>
        obtain ⟨k, hk, hlen⟩ := ih hj
        exact ⟨k + 1, by simpa using hk, by simp [filter_cons_of_pos hp, hlen]⟩
    · rw [filter_cons_of_neg hp] at hj
      obtain ⟨k, hk, hlen⟩ := ih hj
      exact ⟨k + 1, by simpa using hk, by simp [filter_cons_of_neg hp, hlen]⟩

lemma blockOf_getElem? (h : Locally (InOrder id pos) log) {k : Nat}
    (hk : log[k]? = some x) : (blockOf id log (id x))[pos x]? = some x := by
  have hpos : pos x = (blockOf id (log.take k) (id x)).length := h k x hk
  rw [hpos]
  exact filter_getElem?_of_getElem? _ hk (by simp)

lemma exists_of_blockOf (h : Locally (InOrder id pos) log) {j : Nat}
    (hj : (blockOf id log b)[j]? = some x) :
    ∃ k : Nat, log[k]? = some x ∧ id x = b ∧ pos x = j := by
  obtain ⟨k, hk, hlen⟩ := exists_getElem?_of_filter _ hj
  have hid : id x = b := by
    have hmem := mem_of_getElem? hj
    simpa using (mem_filter.mp hmem).2
  refine ⟨k, hk, hid, ?_⟩
  rw [h k x hk, hid]
  exact hlen

/-- **Contiguous blocks.** An entry sits at the start of its block plus its position. -/
lemma index_eq_start_add (h : Locally (InOrder id pos) log)
    (hc : Locally (Contiguous id pos) log) :
    ∀ (p k : Nat) (x : α), log[k]? = some x → pos x = p → k = startOf id log (id x) + p := by
  intro p
  induction p with
  | zero =>
    intro k x hk hp
    obtain ⟨hlt, hget⟩ := List.getElem?_eq_some_iff.mp hk
    have hnone : blockOf id (log.take k) (id x) = [] :=
      eq_nil_of_length_eq_zero ((h k x hk).symm.trans hp)
    rw [Nat.add_zero, startOf, eq_comm, findIdx_eq hlt]
    refine ⟨by simp [hget], fun j hj => ?_⟩
    by_contra hcon
    have hmem : log[j] ∈ blockOf id (log.take k) (id x) := by
      refine mem_filter.mpr ⟨?_, by simpa using hcon⟩
      exact mem_take_iff_getElem.mpr ⟨j, by omega, rfl⟩
    rw [hnone] at hmem
    exact not_mem_nil hmem
  | succ p ih =>
    intro k x hk hp
    obtain ⟨y, hy, hid⟩ := hc k x hk (by omega)
    obtain ⟨hlt, -⟩ := List.getElem?_eq_some_iff.mp hk
    -- the entry before `x` is the previous one of its block
    have hk0 : k ≠ 0 := by
      rintro rfl
      simp at hy
    have hy' : log[k - 1]? = some y := by
      rw [getLast?_eq_getElem?, length_take, Nat.min_eq_left (by omega),
        getElem?_take_of_lt (by omega)] at hy
      exact hy
    have hposy : pos y = p := by
      have hx := h k x hk
      have hy2 := h (k - 1) y hy'
      have htake : log.take k = log.take (k - 1) ++ [y] := by
        conv_lhs => rw [show k = k - 1 + 1 by omega]
        rw [take_add_one, hy']
        rfl
      rw [InOrder, htake, blockOf, filter_append, length_append] at hx
      rw [InOrder, hid, blockOf] at hy2
      simp only [hid, decide_true, filter_cons_of_pos, filter_nil, length_singleton] at hx
      omega
    have := ih (k - 1) y hy' hposy
    rw [hid] at this
    omega

end Blocks

end WebRtc.Lib
