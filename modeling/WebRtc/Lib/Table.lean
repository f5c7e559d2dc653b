import Mathlib.Algebra.GroupWithZero.Nat
import Mathlib.Algebra.Group.Int.Defs
import Mathlib.Data.List.AList
import Mathlib.Data.Finset.Card

/-!
# Tables

Maps in which only the entries matter, with the operations of `std::map` that Mathlib's `AList` does
not have. `All` says that every entry satisfies a predicate; each operation has its rule for it.
-/

namespace WebRtc.Lib

open List AList

abbrev Table (κ α : Type) := AList fun _ : κ => α

namespace Table

variable {κ α : Type}

def size (t : Table κ α) : Nat := t.entries.length

lemma size_eq_keys (t : Table κ α) : t.size = t.keys.length := (length_map _).symm

def total (t : Table κ α) (f : α → Nat) : Nat := (t.entries.map fun e => f e.2).sum

lemma size_eq_total (t : Table κ α) : t.size = t.total fun _ => 1 := by
  simp [size, total]

def removeByValue [DecidableEq α] (t : Table κ α) (v : α) : Table κ α :=
  ⟨t.entries.filter fun e => e.2 ≠ v, t.nodupKeys.sublist filter_sublist⟩

lemma removeByValue_of_unused [DecidableEq α] {t : Table κ α} {v : α}
    (h : (t.entries.any fun e => e.2 = v) = false) : t.removeByValue v = t := by
  refine ext (filter_eq_self.mpr fun e he => ?_)
  simpa using any_eq_false.mp h e he

variable [DecidableEq κ]

def emplace (t : Table κ α) (k : κ) (v : α) : Table κ α := if k ∈ t then t else t.insert k v

lemma insert_emplace (t : Table κ α) (k : κ) (v v' : α) : (t.emplace k v).insert k v' = t.insert k v' := by
  unfold emplace
  split
  · rfl
  · exact insert_insert ..

def All (t : Table κ α) (P : κ → α → Prop) : Prop := ∀ k v, t.lookup k = some v → P k v

section All

variable {t : Table κ α} {k : κ} {v : α} {P Q : κ → α → Prop}

lemma All.mono (h : t.All P) (hPQ : ∀ k v, P k v → Q k v) : t.All Q :=
  fun k v hv => hPQ k v (h k v hv)

lemma All.insert (h : t.All P) (hnew : P k v) : Table.All (t.insert k v) P := by
  intro k' v' hv'
  by_cases hk : k' = k
  · rw [hk, lookup_insert] at hv'
    rwa [hk, ← Option.some.inj hv']
  rw [lookup_insert_ne hk] at hv'
  exact h k' v' hv'

lemma All.emplace (h : t.All P) (hnew : P k v) : (t.emplace k v).All P := by
  unfold Table.emplace
  split
  · exact h
  · exact h.insert hnew

lemma All.foldl_emplace {ks : List κ} (h : t.All P) (hnew : ∀ k ∈ ks, P k v) :
    Table.All (ks.foldl (fun t k => t.emplace k v) t) P := by
  induction ks generalizing t with
  | nil => exact h
  | cons k ks ih =>
    obtain ⟨hk, hks⟩ := forall_mem_cons.mp hnew
    exact ih (h.emplace hk) hks

lemma All.removeByValue [DecidableEq α] (h : t.All P) (hPQ : ∀ k v', v' ≠ v → P k v' → Q k v') :
    (t.removeByValue v).All Q := by
  intro k v' hv'
  obtain ⟨hmem, hne⟩ := mem_filter.mp (mem_lookup_iff.mp hv')
  exact hPQ k v' (by simpa using hne) (h k v' (mem_lookup_iff.mpr hmem))

end All

lemma size_insert_le (t : Table κ α) (k : κ) (v : α) : Table.size (t.insert k v) ≤ t.size + 1 := by
  rw [size_eq_keys, size_eq_keys, keys_insert, length_cons]
  exact Nat.succ_le_succ (length_erase_le ..)

lemma size_insert_of_notMem {t : Table κ α} {k : κ} (h : k ∉ t) (v : α) :
    Table.size (t.insert k v) = t.size + 1 := by
  rw [size, entries_insert_of_notMem h]
  rfl

lemma size_foldl_emplace {ks : List κ} (hnd : ks.Nodup) (v : α) {t : Table κ α}
    (hnew : ∀ k ∈ ks, k ∉ t) : Table.size (ks.foldl (fun t k => t.emplace k v) t) = t.size + ks.length := by
  induction ks generalizing t with
  | nil => rfl
  | cons k ks ih =>
    obtain ⟨hk, hnd⟩ := nodup_cons.mp hnd
    have hkt : k ∉ t := hnew k mem_cons_self
    have hrest : ∀ k' ∈ ks, k' ∉ t.emplace k v := by
      intro k' hk' hmem
      rw [emplace, if_neg hkt, mem_insert] at hmem
      rcases hmem with rfl | hmem
      · exact hk hk'
      · exact hnew k' (mem_cons_of_mem _ hk') hmem
    rw [foldl_cons, ih hnd hrest, emplace, if_neg hkt, size_insert_of_notMem hkt, length_cons]
    omega

lemma size_emplace_le (t : Table κ α) (k : κ) (v : α) : (t.emplace k v).size ≤ t.size + 1 := by
  unfold emplace
  split
  · exact Nat.le_succ _
  · exact size_insert_le t k v

lemma size_foldl_emplace_le (ks : List κ) (v : α) (t : Table κ α) :
    Table.size (ks.foldl (fun t k => t.emplace k v) t) ≤ t.size + ks.length := by
  induction ks generalizing t with
  | nil => exact le_rfl
  | cons k ks ih =>
    have hstep := size_emplace_le t k v
    have hrest := ih (t.emplace k v)
    simp only [foldl_cons, length_cons]
    omega

lemma total_erase (t : Table κ α) (f : α → Nat) (k : κ) :
    Table.total (t.erase k) f + (t.lookup k).elim 0 f = t.total f := by
  obtain ⟨entries, hnd⟩ := t
  show ((entries.kerase k).map fun e => f e.2).sum + (entries.dlookup k).elim 0 f =
    (entries.map fun e => f e.2).sum
  clear hnd
  induction entries with
  | nil => rfl
  | cons e entries ih =>
    obtain ⟨k', v⟩ := e
    by_cases hk : k = k'
    · subst hk
      have herase : kerase k (⟨k, v⟩ :: entries) = entries := kerase_cons_eq rfl
      rw [herase, dlookup_cons_eq]
      exact Nat.add_comm ..
    · have herase : kerase k (⟨k', v⟩ :: entries) = ⟨k', v⟩ :: entries.kerase k := kerase_cons_ne hk
      rw [herase, dlookup_cons_ne entries ⟨k', v⟩ hk, map_cons, map_cons,
        sum_cons, sum_cons, Nat.add_assoc, ih]

lemma total_insert (t : Table κ α) (f : α → Nat) (k : κ) (v : α) :
    Table.total (t.insert k v) f + (t.lookup k).elim 0 f = t.total f + f v := by
  have herase := total_erase t f k
  have hinsr : total (t.insert k v) f = f v + total (t.erase k) f := rfl
  omega

lemma size_le_card {t : Table κ α} {s : Finset κ} (h : ∀ k ∈ t, k ∈ s) : t.size ≤ s.card := by
  rw [size_eq_keys, ← toFinset_card_of_nodup t.keys_nodup]
  exact Finset.card_le_card fun k hk => h k (mem_toFinset.mp hk)

end Table

end WebRtc.Lib
