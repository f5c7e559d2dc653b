import WebRtc.Lib.OrdMap
import Mathlib.Algebra.BigOperators.Group.Finset.Basic
import Mathlib.Tactic.Ring

/-!
# The weight of an ordered map

`weight f m` is the total of `f` over the values of `m`. Storage that keeps a running
count of what it holds is described by how the weight moves with each operation.
-/

namespace WebRtc.Lib.OrdMap

open List

variable {κ κ' α : Type*} [LinearOrder κ] [LinearOrder κ'] {f : α → Nat}

def weight (f : α → Nat) (m : OrdMap κ α) : Nat := (m.entries.map fun e => f e.2).sum

def weightAt (f : α → Nat) (m : OrdMap κ α) (k : κ) : Nat := ((m.find? k).map f).getD 0

variable {m : OrdMap κ α}

variable {k : κ} {β : Type*}

lemma weightAt_of_mem {v : α} (h : (k, v) ∈ m) : weightAt f m k = f v := by
  rw [weightAt, find?_eq_some.mpr h]
  rfl

lemma weightAt_of_not_mem (h : m.contains k = false) : weightAt f m k = 0 := by
  rw [weightAt, find?_eq_none.mpr (contains_eq_false.mp h)]
  rfl

lemma weight_filterKeys_add (m : OrdMap κ α) (p q : κ → Bool) (hq : ∀ k, q k = !p k) :
    weight f (m.filterKeys p) + weight f (m.filterKeys q) = weight f m := by
  simp only [weight, filterKeys, hq]
  induction m.entries with
  | nil => rfl
  | cons e l ih => cases hp : p e.1 <;> simp [hp] <;> omega

lemma weight_eraseTo_add (m : OrdMap κ α) (k : κ) :
    weight f (m.eraseTo k) + weight f (m.takeTo k) = weight f m :=
  weight_filterKeys_add m _ _ fun x => by simp [← not_le]

/-- The weight is a sum over any keys that include those of the map; a missing value weighs nothing. -/
lemma weight_eq_sum {s : Finset κ} (hs : m.keys.toFinset ⊆ s) :
    weight f m = ∑ k ∈ s, weightAt f m k := by
  have hents : weight f m = (m.keys.map (weightAt f m)).sum := by
    rw [weight, keys, map_map]
    exact congrArg sum (map_congr_left fun e he => (weightAt_of_mem he).symm)
  rw [hents, ← sum_toFinset _ m.keys_nodup]
  refine Finset.sum_subset hs fun k _ hk => weightAt_of_not_mem ?_
  simpa [mem_keys] using hk

lemma weight_add_of_weightAt_ne {m' : OrdMap κ α}
    (h : ∀ k', k' ≠ k → weightAt f m k' = weightAt f m' k') :
    weight f m + weightAt f m' k = weight f m' + weightAt f m k := by
  obtain ⟨s, hk, hm, hm'⟩ : ∃ s : Finset κ, k ∈ s ∧ m.keys.toFinset ⊆ s ∧ m'.keys.toFinset ⊆ s :=
    ⟨{k} ∪ (m.keys.toFinset ∪ m'.keys.toFinset), by simp, by grind, by grind⟩
  have hrest : ∑ k' ∈ s.erase k, weightAt f m k' = ∑ k' ∈ s.erase k, weightAt f m' k' :=
    Finset.sum_congr rfl fun k' hk' => h k' (Finset.ne_of_mem_erase hk')
  rw [weight_eq_sum hm, weight_eq_sum hm', ← Finset.add_sum_erase s (weightAt f m) hk, hrest,
    ← Finset.add_sum_erase s (weightAt f m') hk]
  ring

lemma weight_eq_of_weightAt {m' : OrdMap κ α} (h : ∀ k, weightAt f m k = weightAt f m' k) :
    weight f m = weight f m' := by
  rw [weight_eq_sum Finset.subset_union_left (s := m.keys.toFinset ∪ m'.keys.toFinset),
    weight_eq_sum (m := m') Finset.subset_union_right]
  exact Finset.sum_congr rfl fun k _ => h k

lemma weight_erase_add (m : OrdMap κ α) (k : κ) :
    weight f (m.erase k) + weightAt f m k = weight f m := by
  rw [weight_add_of_weightAt_ne fun k' hk' => by rw [weightAt, weightAt, find?_erase_ne _ hk'],
    weightAt_of_not_mem (contains_eq_false.mpr fun v => by simp), Nat.add_zero]

lemma weight_insert_add (m : OrdMap κ α) (k : κ) (v : α) :
    weight f (m.insert k v) + weightAt f m k = weight f m + f v := by
  rw [weight_add_of_weightAt_ne fun k' hk' => by rw [weightAt, weightAt, find?_insert_ne _ _ hk'],
    weightAt_of_mem (mem_insert.mpr (.inl rfl))]

lemma weight_insert_of_not_mem {v : α} (h : m.contains k = false) :
    weight f (m.insert k v) = weight f m + f v := by
  rw [← weight_insert_add m k v, weightAt_of_not_mem h, Nat.add_zero]

lemma weight_insert_getD {d : α} (hd : f d = 0) (m : OrdMap κ α) (k : κ) (v : α) :
    weight f (m.insert k v) + f ((m.find? k).getD d) = weight f m + f v := by
  rw [← weight_insert_add m k v, weightAt]
  cases m.find? k with
  | none => rw [Option.getD_none, hd, Option.map_none, Option.getD_none]
  | some w => rfl

lemma weight_mapVal_add {g : β → Nat} {d : α → Nat} (m : OrdMap κ α) (h : κ → α → β)
    (hfg : ∀ k v, g (h k v) + d v = f v) : weight g (m.mapVal h) + weight d m = weight f m := by
  simp only [weight, mapVal, map_map]
  induction m.entries with
  | nil => rfl
  | cons e l ih =>
    have he := hfg e.1 e.2
    simp only [map_cons, Function.comp_apply, sum_cons] at ih ⊢
    omega

lemma weight_mapVal {g : β → Nat} (m : OrdMap κ α) (h : κ → α → β)
    (hfg : ∀ k v, g (h k v) = f v) : weight g (m.mapVal h) = weight f m := by
  simp [weight, mapVal, hfg, Function.comp_def]

lemma weight_emplaceNested (m : OrdMap κ (OrdMap κ' α)) (k : κ) (k' : κ') (v : α) :
    weight (weight f) (m.emplaceNested k k' v).1 =
      weight (weight f) m + if (m.emplaceNested k k' v).2 then f v else 0 := by
  have hins := fun inner => weight_insert_getD (f := weight f) (d := empty) rfl m k inner
  unfold emplaceNested emplace
  by_cases hc : ((m.find? k).getD empty).contains k' = true
  · have hkeep := hins ((m.find? k).getD empty)
    simp only [hc, if_true, Bool.false_eq_true, if_false]
    omega
  have hadd : weight f (((m.find? k).getD empty).insert k' v) =
      weight f ((m.find? k).getD empty) + f v := weight_insert_of_not_mem (by simpa using hc)
  have hnew := hins (((m.find? k).getD empty).insert k' v)
  simp only [hc, Bool.false_eq_true, if_false, if_true]
  omega

def values (m : OrdMap κ α) : List α := m.entries.map Prod.snd

lemma values_eq_nil_of_isEmpty (h : m.isEmpty = true) : m.values = [] := by
  rw [values, List.isEmpty_iff.mp h, map_nil]

lemma flatMap_values_eq_nil {elements : α → List β}
    (h : ∀ p ∈ m.entries, elements p.2 = []) : m.values.flatMap elements = [] := by
  rw [flatMap_eq_nil_iff]
  intro v hv
  obtain ⟨p, hp, rfl⟩ := mem_map.mp hv
  exact h p hp

lemma weight_eq_values (m : OrdMap κ α) : weight f m = (m.values.map f).sum := by
  rw [values, map_map]
  rfl

lemma weight_eq_flatMap {g : β → Nat} {elements : α → List β}
    (hf : ∀ v, f v = ((elements v).map g).sum) (m : OrdMap κ α) :
    weight f m = ((m.values.flatMap elements).map g).sum := by
  rw [weight_eq_values]
  induction m.values with
  | nil => rfl
  | cons v vs ih => rw [map_cons, sum_cons, hf, ih, flatMap_cons, map_append, sum_append]

end WebRtc.Lib.OrdMap
