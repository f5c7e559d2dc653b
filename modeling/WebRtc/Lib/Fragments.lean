import Mathlib.Data.List.Perm.Subperm
import Mathlib.Data.List.Nodup
import WebRtc.Lib.OrdMap

/-!
# Reassembly buffers for numbered messages in fragments

Message `i` is the list `frags i` of fragments, and its `j`-th fragment is stored under `key i j`
(`Layout`). `Holds` says that a buffer contains exactly the received fragments of the messages from
`n` on; the rules say how storing a fragment, taking out message `n` and passing over it keep that.
-/

namespace WebRtc.Lib

open OrdMap List

universe u v

/-- Which fragments make up which message, and under which keys they are stored. -/
structure Layout (κ : Type u) (α : Type v) [LinearOrder κ] where
  frags : Nat → List α
  key : Nat → Nat → κ
  key_mono : ∀ i j j', j < j' → j' < (frags i).length → key i j < key i j'

variable {κ : Type u} {α : Type v} [LinearOrder κ] {j : Nat}

namespace Layout

variable (L : Layout κ α)

lemma key_lt_iff {i j' : Nat} (hj : j < (L.frags i).length) (hj' : j' < (L.frags i).length) :
    L.key i j < L.key i j' ↔ j < j' := by
  constructor
  · intro h
    by_contra hcon
    rcases Nat.lt_or_eq_of_le (not_lt.mp hcon) with hlt | rfl
    · exact absurd h (not_lt.mpr (le_of_lt (L.key_mono i j' j hlt hj)))
    · exact absurd h (lt_irrefl _)
  · exact fun h => L.key_mono i j j' h hj'

lemma key_inj {i j' : Nat} (hj : j < (L.frags i).length) (hj' : j' < (L.frags i).length)
    (h : L.key i j = L.key i j') : j = j' := by
  rcases Nat.lt_trichotomy j j' with hlt | heq | hgt
  · exact absurd h (ne_of_lt ((L.key_lt_iff hj hj').mpr hlt))
  · exact heq
  · exact absurd h.symm (ne_of_lt ((L.key_lt_iff hj' hj).mpr hgt))

def whole (i : Nat) : OrdMap κ α where
  entries := (L.frags i).zipIdx.map fun p => (L.key i p.2, p.1)
  sorted := by
    rw [pairwise_map, pairwise_iff_getElem]
    intro a b ha hb hab
    simp only [getElem_zipIdx, Nat.zero_add]
    rw [length_zipIdx] at hb
    exact L.key_mono i a b hab hb

lemma mem_whole {i : Nat} {p : κ × α} :
    p ∈ L.whole i ↔ ∃ j a, (L.frags i)[j]? = some a ∧ p = (L.key i j, a) := by
  rw [mem_def, whole, mem_map]
  constructor
  · rintro ⟨⟨a, j⟩, hmem, rfl⟩
    exact ⟨j, a, mem_zipIdx_iff_getElem?.mp hmem, rfl⟩
  rintro ⟨j, a, hj, rfl⟩
  exact ⟨(a, j), mem_zipIdx_iff_getElem?.mpr hj, rfl⟩

@[simp] lemma whole_values (i : Nat) : (L.whole i).entries.map Prod.snd = L.frags i := by
  rw [whole, map_map]
  exact zipIdx_map_fst 0 (L.frags i)

@[simp] lemma whole_size (i : Nat) : (L.whole i).size = (L.frags i).length := by
  rw [size, whole, length_map, length_zipIdx]

end Layout

/-! ## The fragments of one message -/

def Stores (L : Layout κ α) (i : Nat) (R : Nat → Prop) (chunks : OrdMap κ α) : Prop :=
  ∀ p, p ∈ chunks ↔ ∃ j a, R j ∧ (L.frags i)[j]? = some a ∧ p = (L.key i j, a)

variable {L : Layout κ α} {i : Nat} {R : Nat → Prop} {chunks : OrdMap κ α}

section

variable (h : Stores L i R chunks)

include h

lemma Stores.eq_whole (hall : ∀ j < (L.frags i).length, R j) : chunks = L.whole i := by
  apply ext_mem
  intro p
  rw [h p, L.mem_whole]
  constructor
  · rintro ⟨j, a, -, ha, hp⟩
    exact ⟨j, a, ha, hp⟩
  rintro ⟨j, a, ha, hp⟩
  exact ⟨j, a, hall j (List.getElem?_eq_some_iff.mp ha).1, ha, hp⟩

lemma Stores.size_le : chunks.keys ⊆ (L.whole i).keys := by
  intro k hk
  obtain ⟨p, hp, rfl⟩ := mem_map.mp hk
  obtain ⟨j, a, -, ha, rfl⟩ := (h p).mp hp
  exact mem_map.mpr ⟨_, L.mem_whole.mpr ⟨j, a, ha, rfl⟩, rfl⟩

lemma Stores.all_of_size
    (hsize : (L.frags i).length ≤ chunks.size) : ∀ j < (L.frags i).length, R j := by
  have hperm : chunks.keys.Perm (L.whole i).keys := by
    refine (Nodup.subperm chunks.keys_nodup h.size_le).perm_of_length_le ?_
    rw [OrdMap.keys, OrdMap.keys, length_map, length_map]
    exact le_trans (le_of_eq (L.whole_size i)) hsize
  intro j hj
  have hmem : L.key i j ∈ (L.whole i).keys :=
    mem_map.mpr ⟨_, L.mem_whole.mpr ⟨j, _, getElem?_eq_getElem hj, rfl⟩, rfl⟩
  obtain ⟨p, hp, hkey⟩ := mem_map.mp (hperm.mem_iff.mpr hmem)
  obtain ⟨j', a, hR, ha, rfl⟩ := (h p).mp hp
  have hj' := (List.getElem?_eq_some_iff.mp ha).1
  rw [L.key_inj hj hj' hkey.symm]
  exact hR

lemma Stores.size_ge {b : Nat} (hb : b ≤ (L.frags i).length)
    (hR : ∀ j < b, R j) : b ≤ chunks.size := by
  have hnd : ((range b).map (L.key i)).Nodup := by
    refine Nodup.map_on (fun j hj j' hj' heq => ?_) nodup_range
    rw [mem_range] at hj hj'
    exact L.key_inj (by omega) (by omega) heq
  have hsub : (range b).map (L.key i) ⊆ chunks.keys := by
    intro k hk
    obtain ⟨j, hj, rfl⟩ := mem_map.mp hk
    rw [mem_range] at hj
    have hget := getElem?_eq_getElem (l := L.frags i) (i := j) (by omega)
    exact mem_map.mpr ⟨_, (h _).mpr ⟨j, _, hR j hj, hget, rfl⟩, rfl⟩
  have hlen := (Nodup.subperm hnd hsub).length_le
  rwa [length_map, length_range, OrdMap.keys, length_map] at hlen

lemma Stores.emplace {a : α} (ha : (L.frags i)[j]? = some a) (hnew : ¬ R j) :
    chunks.emplace (L.key i j) a = (chunks.insert (L.key i j) a, true) ∧
      Stores L i (fun j' => R j' ∨ j' = j) (chunks.insert (L.key i j) a) := by
  have hj := (List.getElem?_eq_some_iff.mp ha).1
  have hfresh : ∀ v, (L.key i j, v) ∉ chunks := by
    intro v hv
    obtain ⟨j', a', hR, ha', hp⟩ := (h _).mp hv
    have hj' := (List.getElem?_eq_some_iff.mp ha').1
    rw [L.key_inj hj hj' (Prod.mk.inj hp).1] at hnew
    exact hnew hR
  refine ⟨emplace_of_not_mem hfresh a, fun p => ?_⟩
  rw [mem_insert, h p]
  constructor
  · rintro (rfl | ⟨-, j', a', hR, ha', hp⟩)
    · exact ⟨j, a, .inr rfl, ha, rfl⟩
    · exact ⟨j', a', .inl hR, ha', hp⟩
  rintro ⟨j', a', hR | rfl, ha', rfl⟩
  · refine .inr ⟨?_, j', a', hR, ha', rfl⟩
    intro hkey
    have hj' := (List.getElem?_eq_some_iff.mp ha').1
    rw [L.key_inj hj' hj hkey] at hR
    exact hnew hR
  · rw [ha] at ha'
    rw [Option.some.inj ha']
    exact .inl rfl

end

/-! ## The buffer -/

/-- The buffer contains exactly the received fragments of the messages from `n` on, and
no message without fragments. -/
structure Holds (L : Layout κ α) (n : Nat) (R : Nat → Nat → Prop)
    (m : OrdMap Int (OrdMap κ α)) : Prop where
  only : ∀ q chunks, (q, chunks) ∈ m →
    ∃ i : Nat, q = i ∧ n ≤ i ∧ (∃ j, R i j) ∧ Stores L i (R i) chunks
  all : ∀ i j, n ≤ i → R i j → ∃ chunks, ((i : Int), chunks) ∈ m

namespace Holds

variable {n : Nat} {R : Nat → Nat → Prop} {m : OrdMap Int (OrdMap κ α)}

lemma empty : Holds L 0 (fun _ _ => False) (OrdMap.empty : OrdMap Int (OrdMap κ α)) :=
  ⟨fun _ _ h => absurd h not_mem_empty, fun _ _ _ h => h.elim⟩

section

variable (h : Holds L n R m)

include h

lemma stores {i : Nat} (hmem : ((i : Int), chunks) ∈ m) : Stores L i (R i) chunks := by
  obtain ⟨i', hi, -, -, hs⟩ := h.only _ _ hmem
  rw [Int.natCast_inj.mp hi]
  exact hs

lemma front_of_received (hR : R n j) :
    ∃ chunks, m.front? = some ((n : Int), chunks) ∧ Stores L n (R n) chunks := by
  obtain ⟨chunks, hmem⟩ := h.all n j le_rfl hR
  refine ⟨chunks, front?_eq_some.mpr ⟨hmem, fun q hq => ?_⟩, h.stores hmem⟩
  obtain ⟨i, hi, hle, -, -⟩ := h.only q.1 q.2 hq
  rw [hi]
  exact Int.ofNat_le.mpr hle

lemma eq_empty (hnone : ∀ i j, n ≤ i → ¬ R i j) : m = OrdMap.empty := by
  apply ext_mem
  intro p
  constructor
  · intro hp
    obtain ⟨i, -, hle, ⟨j, hR⟩, -⟩ := h.only p.1 p.2 hp
    exact absurd hR (hnone i j hle)
  · exact fun hp => absurd hp not_mem_empty

lemma congr {R' : Nat → Nat → Prop} (hR : ∀ i j, n ≤ i → (R' i j ↔ R i j)) : Holds L n R' m := by
  refine ⟨fun q chunks hmem => ?_, fun i j hle hR' => h.all i j hle ((hR i j hle).mp hR')⟩
  obtain ⟨i, hi, hle, ⟨j, hj⟩, hs⟩ := h.only q chunks hmem
  refine ⟨i, hi, hle, ⟨j, (hR i j hle).mpr hj⟩, fun p => ?_⟩
  rw [hs p]
  simp only [hR i _ hle]

lemma emplace {i : Nat} {a : α} (hi : n ≤ i) (ha : (L.frags i)[j]? = some a) (hnew : ¬ R i j) :
    (m.emplaceNested (i : Int) (L.key i j) a).2 = true ∧
      Holds L n (fun i' j' => R i' j' ∨ (i' = i ∧ j' = j))
        (m.emplaceNested (i : Int) (L.key i j) a).1 := by
  -- what is stored for message `i` so far, possibly nothing
  have hstor : Stores L i (R i) ((m.find? (i : Int)).getD OrdMap.empty) := by
    cases hf : m.find? (i : Int) with
    | some chunks => exact h.stores (find?_eq_some.mp hf)
    | none =>
      intro p
      constructor
      · exact fun hp => absurd hp not_mem_empty
      rintro ⟨j', a', hR, -, -⟩
      obtain ⟨chunks, hmem⟩ := h.all i j' hi hR
      exact absurd hmem (find?_eq_none.mp hf chunks)
  obtain ⟨hemp, hst⟩ := hstor.emplace ha hnew
  rw [emplaceNested, hemp]
  refine ⟨rfl, fun q chunks hmem => ?_, fun i' j' hle hR => ?_⟩
  · rcases mem_insert.mp hmem with heq | ⟨hne, hmem⟩
    · obtain ⟨rfl, rfl⟩ := Prod.mk.inj heq
      refine ⟨i, rfl, hi, ⟨j, .inr ⟨rfl, rfl⟩⟩, fun p => ?_⟩
      rw [hst p]
      simp only [true_and]
    obtain ⟨i', hi', hle, ⟨j', hR⟩, hs⟩ := h.only q chunks hmem
    have hii : i' ≠ i := by
      rintro rfl
      exact hne hi'
    refine ⟨i', hi', hle, ⟨j', .inl hR⟩, fun p => ?_⟩
    rw [hs p]
    simp only [hii, false_and, or_false]
  · by_cases hii : i' = i
    · subst hii
      exact ⟨_, mem_insert.mpr (.inl rfl)⟩
    rcases hR with hR | ⟨rfl, -⟩
    · obtain ⟨chunks, hmem⟩ := h.all i' j' hle hR
      refine ⟨chunks, mem_insert.mpr (.inr ⟨?_, hmem⟩)⟩
      exact fun heq => hii (Int.natCast_inj.mp heq)
    · exact absurd rfl hii

lemma erase : Holds L (n + 1) R (m.erase (n : Int)) := by
  refine ⟨fun q chunks hmem => ?_, fun i j hle hR => ?_⟩
  · obtain ⟨hmem, hne⟩ := mem_erase.mp hmem
    obtain ⟨i, hi, hle, hR, hs⟩ := h.only q chunks hmem
    refine ⟨i, hi, ?_, hR, hs⟩
    omega
  · obtain ⟨chunks, hmem⟩ := h.all i j (by omega) hR
    refine ⟨chunks, mem_erase.mpr ⟨hmem, ?_⟩⟩
    intro heq
    omega

lemma pass (hnone : ∀ j, ¬ R n j) : Holds L (n + 1) R m := by
  refine ⟨fun q chunks hmem => ?_, fun i j hle hR => h.all i j (by omega) hR⟩
  obtain ⟨i, hi, hle, ⟨j, hR⟩, hs⟩ := h.only q chunks hmem
  refine ⟨i, hi, ?_, ⟨j, hR⟩, hs⟩
  have : i ≠ n := by
    rintro rfl
    exact hnone j hR
  omega

end

end Holds

end WebRtc.Lib
