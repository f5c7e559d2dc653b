import Mathlib.Data.List.Basic
import Mathlib.Data.List.Pairwise
import Mathlib.Data.Prod.Lex
import Mathlib.Tactic.Linarith

/-!
# Ordered maps as sorted association lists

An executable ordered map: a list of key/value pairs whose keys strictly increase, with the order
as a field. Each operation has one lemma that says which pairs it leaves in the map, and by
`OrdMap.ext_mem` these determine it. `OrdSet` is the map to `Unit`.
-/

namespace WebRtc.Lib

open List

universe u v

/-- A finite map with strictly increasing keys. -/
@[ext]
structure OrdMap (κ : Type u) (α : Type v) [LinearOrder κ] where
  entries : List (κ × α)
  sorted : entries.Pairwise fun a b => a.1 < b.1

namespace OrdMap

variable {κ : Type u} {α : Type v} [LinearOrder κ] {m : OrdMap κ α} {k : κ} {v : α} {p : κ × α}

instance [DecidableEq α] : DecidableEq (OrdMap κ α) := fun m m' =>
  decidable_of_iff (m.entries = m'.entries) ⟨OrdMap.ext, fun h => h ▸ rfl⟩

instance : Membership (κ × α) (OrdMap κ α) := ⟨fun m p => p ∈ m.entries⟩

lemma mem_def : p ∈ m ↔ p ∈ m.entries := Iff.rfl

/-! ## Operations -/

def empty : OrdMap κ α := ⟨[], Pairwise.nil⟩

def find? (m : OrdMap κ α) (k : κ) : Option α :=
  (m.entries.find? fun p => p.1 = k).map Prod.snd

def contains (m : OrdMap κ α) (k : κ) : Bool := (m.find? k).isSome

def size (m : OrdMap κ α) : Nat := m.entries.length

def isEmpty (m : OrdMap κ α) : Bool := m.entries.isEmpty

def front? (m : OrdMap κ α) : Option (κ × α) := m.entries.head?

def back? (m : OrdMap κ α) : Option (κ × α) := m.entries.getLast?

def keys (m : OrdMap κ α) : List κ := m.entries.map Prod.fst

def insertEntry (k : κ) (v : α) : List (κ × α) → List (κ × α)
  | [] => [(k, v)]
  | p :: rest =>
    if k < p.1 then (k, v) :: p :: rest
    else if k = p.1 then (k, v) :: rest
    else p :: insertEntry k v rest

lemma mem_insertEntry {l : List (κ × α)} (hl : l.Pairwise fun a b => a.1 < b.1) :
    p ∈ insertEntry k v l ↔ p = (k, v) ∨ (p.1 ≠ k ∧ p ∈ l) := by
  induction l with
  | nil => simp [insertEntry]
  | cons q rest ih =>
    rw [pairwise_cons] at hl
    obtain ⟨hq, hrest⟩ := hl
    rw [insertEntry]
    split_ifs with hlt heq
    · -- the new key goes in front of every other
      have hne : ∀ x ∈ q :: rest, x.1 ≠ k := by
        exact forall_mem_cons.mpr ⟨ne_of_gt hlt, fun x hx => ne_of_gt (lt_trans hlt (hq x hx))⟩
      constructor
      · intro hp
        rcases mem_cons.mp hp with hp | hp
        · exact .inl hp
        · exact .inr ⟨hne p hp, hp⟩
      · rintro (rfl | ⟨-, hp⟩)
        · exact mem_cons_self ..
        · exact mem_cons_of_mem _ hp
    · -- the new entry takes the place of `q`
      constructor
      · intro hp
        rcases mem_cons.mp hp with hp | hp
        · exact .inl hp
        refine .inr ⟨?_, mem_cons_of_mem _ hp⟩
        have := hq p hp
        rw [← heq] at this
        exact ne_of_gt this
      · rintro (rfl | ⟨hne, hp⟩)
        · exact mem_cons_self ..
        rcases mem_cons.mp hp with rfl | hp
        · exact absurd heq.symm hne
        · exact mem_cons_of_mem _ hp
    · rw [mem_cons, ih hrest, mem_cons]
      constructor
      · rintro (rfl | hp | ⟨hne, hp⟩)
        · exact .inr ⟨fun h => heq h.symm, .inl rfl⟩
        · exact .inl hp
        · exact .inr ⟨hne, .inr hp⟩
      rintro (hp | ⟨hne, hp | hp⟩)
      · exact .inr (.inl hp)
      · exact .inl hp
      · exact .inr (.inr ⟨hne, hp⟩)

lemma insertEntry_sorted {l : List (κ × α)} (hl : l.Pairwise fun a b => a.1 < b.1) :
    (insertEntry k v l).Pairwise fun a b => a.1 < b.1 := by
  induction l with
  | nil => simp [insertEntry]
  | cons q rest ih =>
    have hcons := hl
    rw [pairwise_cons] at hl
    obtain ⟨hq, hrest⟩ := hl
    rw [insertEntry]
    split_ifs with hlt heq
    · rw [pairwise_cons]
      refine ⟨?_, hcons⟩
      exact forall_mem_cons.mpr ⟨hlt, fun x hx => lt_trans hlt (hq x hx)⟩
    · rw [pairwise_cons]
      refine ⟨fun x hx => ?_, hrest⟩
      rw [heq]
      exact hq x hx
    rw [pairwise_cons]
    refine ⟨?_, ih hrest⟩
    intro x hx
    rcases (mem_insertEntry hrest).mp hx with rfl | ⟨-, hx⟩
    · exact lt_of_le_of_ne (not_lt.mp hlt) (fun h => heq h.symm)
    · exact hq x hx

def insert (m : OrdMap κ α) (k : κ) (v : α) : OrdMap κ α :=
  ⟨insertEntry k v m.entries, insertEntry_sorted m.sorted⟩

/-- Stores `v` under `k` only when `k` has no value yet; the flag tells
whether it was stored. -/
def emplace (m : OrdMap κ α) (k : κ) (v : α) : OrdMap κ α × Bool :=
  if m.contains k then (m, false) else (m.insert k v, true)

/-- Stores `v` under `k'` in the map stored under `k`, which is created when it is missing. -/
def emplaceNested {κ' : Type*} [LinearOrder κ'] (m : OrdMap κ (OrdMap κ' α)) (k : κ) (k' : κ')
    (v : α) : OrdMap κ (OrdMap κ' α) × Bool :=
  let (inner, inserted) := ((m.find? k).getD empty).emplace k' v
  (m.insert k inner, inserted)

def filterKeys (m : OrdMap κ α) (p : κ → Bool) : OrdMap κ α :=
  ⟨m.entries.filter fun e => p e.1, m.sorted.filter _⟩

def erase (m : OrdMap κ α) (k : κ) : OrdMap κ α := m.filterKeys fun x => x ≠ k

def eraseTo (m : OrdMap κ α) (k : κ) : OrdMap κ α := m.filterKeys fun x => k < x

def takeTo (m : OrdMap κ α) (k : κ) : OrdMap κ α := m.filterKeys fun x => x ≤ k

def mapVal {β : Type*} (m : OrdMap κ α) (f : κ → α → β) : OrdMap κ β :=
  ⟨m.entries.map fun e => (e.1, f e.1 e.2), by
    rw [pairwise_map]
    exact m.sorted⟩

/-! ## Which pairs an operation leaves in the map -/

lemma mem_unique {v' : α} (h : (k, v) ∈ m) (h' : (k, v') ∈ m) : v = v' := by
  by_contra hne
  have hpair := m.sorted
  rcases mem_iff_getElem.mp h with ⟨i, hi, hiEq⟩
  rcases mem_iff_getElem.mp h' with ⟨j, hj, hjEq⟩
  have hlt := pairwise_iff_getElem.mp hpair
  rcases Nat.lt_trichotomy i j with hij | hij | hij
  · have := hlt i j hi hj hij
    rw [hiEq, hjEq] at this
    exact lt_irrefl _ this
  · subst hij
    rw [hiEq] at hjEq
    exact hne (Prod.mk.inj hjEq).2
  have := hlt j i hj hi hij
  rw [hiEq, hjEq] at this
  exact lt_irrefl _ this

lemma find?_eq_some : m.find? k = some v ↔ (k, v) ∈ m := by
  unfold find?
  constructor
  · intro h
    rw [Option.map_eq_some_iff] at h
    obtain ⟨p, hp, hv⟩ := h
    have hk : p.1 = k := by simpa using find?_some hp
    have hmem := mem_of_find?_eq_some hp
    rw [mem_def, ← hk, ← hv]
    exact hmem
  intro h
  rw [Option.map_eq_some_iff]
  cases hf : m.entries.find? fun p => p.1 = k with
  | none =>
    rw [find?_eq_none] at hf
    exact absurd (by simp) (hf (k, v) h)
  | some p =>
    have hk : p.1 = k := by simpa using find?_some hf
    have hmem : (k, p.2) ∈ m := by
      rw [mem_def, ← hk]
      exact mem_of_find?_eq_some hf
    exact ⟨p, rfl, mem_unique hmem h⟩

lemma find?_eq_none : m.find? k = none ↔ ∀ v, (k, v) ∉ m := by
  constructor
  · intro h v hv
    rw [find?_eq_some.mpr hv] at h
    exact Option.some_ne_none _ h
  intro h
  cases hf : m.find? k with
  | none => rfl
  | some v => exact absurd (find?_eq_some.mp hf) (h v)

lemma contains_iff : m.contains k = true ↔ ∃ v, (k, v) ∈ m := by
  rw [contains, Option.isSome_iff_exists]
  simp only [find?_eq_some]

lemma contains_eq_false : m.contains k = false ↔ ∀ v, (k, v) ∉ m := by
  rw [contains, Option.isSome_eq_false_iff, Option.isNone_iff_eq_none, find?_eq_none]

@[simp] lemma not_mem_empty : p ∉ (empty : OrdMap κ α) := not_mem_nil

@[simp] lemma mem_insert :
    p ∈ m.insert k v ↔ p = (k, v) ∨ (p.1 ≠ k ∧ p ∈ m) := mem_insertEntry m.sorted

@[simp] lemma mem_filterKeys {f : κ → Bool} : p ∈ m.filterKeys f ↔ p ∈ m ∧ f p.1 = true := by
  rw [mem_def, filterKeys, mem_filter, mem_def]

@[simp] lemma mem_erase : p ∈ m.erase k ↔ p ∈ m ∧ p.1 ≠ k := by
  simp [erase]

@[simp] lemma contains_empty : (empty : OrdMap κ α).contains k = false := rfl

lemma contains_insert (m : OrdMap κ α) (k k' : κ) (v : α) :
    (m.insert k v).contains k' = true ↔ k' = k ∨ m.contains k' = true := by
  simp only [contains_iff, mem_insert, Prod.mk.injEq]
  constructor
  · rintro ⟨v', h | h⟩
    · exact .inl h.1
    · exact .inr ⟨v', h.2⟩
  rintro (rfl | ⟨v', h⟩)
  · exact ⟨v, .inl ⟨rfl, rfl⟩⟩
  by_cases hk : k' = k
  · exact ⟨v, .inl ⟨hk, rfl⟩⟩
  · exact ⟨v', .inr ⟨hk, h⟩⟩

lemma contains_erase (m : OrdMap κ α) (k k' : κ) :
    (m.erase k).contains k' = true ↔ k' ≠ k ∧ m.contains k' = true := by
  simp only [contains_iff, mem_erase]
  exact ⟨fun ⟨v, h, hne⟩ => ⟨hne, v, h⟩, fun ⟨hne, v, h⟩ => ⟨v, h, hne⟩⟩

variable {k' : κ} {β : Type*}

lemma contains_erase_ne (m : OrdMap κ α) (h : k' ≠ k) :
    (m.erase k).contains k' = m.contains k' := by
  rw [Bool.eq_iff_iff, contains_erase]
  exact ⟨And.right, And.intro h⟩

lemma contains_erase_self (k : κ) : (m.erase k).contains k = false := by
  rw [← Bool.not_eq_true, contains_erase]
  simp

lemma mem_keys : k ∈ m.keys ↔ m.contains k = true := by
  rw [contains_iff, keys, mem_map]
  exact ⟨fun ⟨p, hp, hk⟩ => ⟨p.2, hk ▸ hp⟩, fun ⟨v, hv⟩ => ⟨(k, v), hv, rfl⟩⟩

lemma isEmpty_iff : m.isEmpty = true ↔ ∀ k, m.contains k = false := by
  simp only [isEmpty, List.isEmpty_iff, contains_eq_false, mem_def, eq_nil_iff_forall_not_mem,
    Prod.forall]

lemma ext_mem {m' : OrdMap κ α} (h : ∀ p, p ∈ m ↔ p ∈ m') : m = m' := by
  have hAux : ∀ (l l' : List (κ × α)),
      l.Pairwise (fun a b => a.1 < b.1) → l'.Pairwise (fun a b => a.1 < b.1) →
      (∀ p, p ∈ l ↔ p ∈ l') → l = l' := by
    intro l
    induction l with
    | nil =>
      intro l' _ _ hmem
      exact (eq_nil_iff_forall_not_mem.mpr fun p hp => by
        simpa using (hmem p).mpr hp).symm
    | cons a rest ih =>
      intro l' hl hl' hmem
      cases l' with
      | nil => simpa using (hmem a).mp mem_cons_self
      | cons b rest' =>
        rw [pairwise_cons] at hl hl'
        -- each head is the least key, so the heads agree
        have hab : a = b := by
          rcases mem_cons.mp ((hmem a).mp mem_cons_self) with hab | ha
          · exact hab
          rcases mem_cons.mp ((hmem b).mpr mem_cons_self) with hba | hb
          · exact hba.symm
          · exact absurd (hl.1 b hb) (not_lt.mpr (le_of_lt (hl'.1 a ha)))
        subst hab
        congr 1
        apply ih rest' hl.2 hl'.2
        intro p
        have hp := hmem p
        rw [mem_cons, mem_cons] at hp
        constructor
        · intro hpr
          rcases hp.mp (.inr hpr) with rfl | h'
          · exact absurd (hl.1 p hpr) (lt_irrefl _)
          · exact h'
        intro hpr
        rcases hp.mpr (.inr hpr) with rfl | h'
        · exact absurd (hl'.1 p hpr) (lt_irrefl _)
        · exact h'
  exact OrdMap.ext (hAux _ _ m.sorted m'.sorted h)

@[simp] lemma find?_empty : (empty : OrdMap κ α).find? k = none := rfl

@[simp] lemma find?_insert_self (k : κ) (v : α) :
    (m.insert k v).find? k = some v := find?_eq_some.mpr (mem_insert.mpr (.inl rfl))

lemma find?_insert_ne (m : OrdMap κ α) (v : α) (h : k' ≠ k) :
    (m.insert k v).find? k' = m.find? k' := by
  have hiff : ∀ x, (m.insert k v).find? k' = some x ↔ m.find? k' = some x := by
    intro x
    rw [find?_eq_some, find?_eq_some, mem_insert]
    constructor
    · rintro (heq | ⟨-, hx⟩)
      · exact absurd (Prod.mk.inj heq).1 h
      · exact hx
    · exact fun hx => .inr ⟨h, hx⟩
  exact Option.ext hiff

lemma find?_erase_ne (m : OrdMap κ α) (h : k' ≠ k) :
    (m.erase k).find? k' = m.find? k' := by
  refine Option.ext fun x => ?_
  rw [find?_eq_some, find?_eq_some, mem_erase, and_iff_left h]

lemma find?_filterKeys (p : κ → Bool) (k : κ) :
    (m.filterKeys p).find? k = if p k then m.find? k else none := by
  refine Option.ext fun x => ?_
  rw [find?_eq_some, mem_filterKeys]
  split
  · next h => rw [find?_eq_some, and_iff_left h]
  · next h => simp [h]

lemma find?_mapVal (f : κ → α → β) (k : κ) :
    (m.mapVal f).find? k = (m.find? k).map (f k) := by
  apply Option.ext
  intro x
  rw [find?_eq_some, mem_def, mapVal, mem_map, Option.map_eq_some_iff]
  constructor
  · rintro ⟨e, he, heq⟩
    obtain ⟨rfl, rfl⟩ := Prod.mk.inj heq
    exact ⟨e.2, find?_eq_some.mpr he, rfl⟩
  · rintro ⟨v, hv, rfl⟩
    exact ⟨(k, v), find?_eq_some.mp hv, rfl⟩

/-! ## Least entry -/

lemma front?_eq_none : m.front? = none ↔ ∀ p, p ∉ m := by
  rw [front?, head?_eq_none_iff, eq_nil_iff_forall_not_mem]
  exact Iff.rfl

lemma front?_eq_some : m.front? = some p ↔ p ∈ m ∧ ∀ q ∈ m, p.1 ≤ q.1 := by
  cases hm : m.entries with
  | nil =>
    simp only [front?, mem_def, hm]
    simp
  | cons a rest =>
    have hs := m.sorted
    rw [hm, pairwise_cons] at hs
    simp only [front?, mem_def, hm, head?_cons, Option.some.injEq]
    constructor
    · rintro rfl
      refine ⟨mem_cons_self .., fun q hq => ?_⟩
      rcases mem_cons.mp hq with rfl | hq
      · exact le_rfl
      · exact le_of_lt (hs.1 q hq)
    · rintro ⟨hp, hmin⟩
      rcases mem_cons.mp hp with rfl | hp
      · rfl
      · exact absurd (hs.1 p hp) (not_lt.mpr (hmin a mem_cons_self))

lemma back?_eq_some : m.back? = some p ↔ p ∈ m ∧ ∀ q ∈ m, q.1 ≤ p.1 := by
  rcases eq_nil_or_concat m.entries with hm | ⟨init, a, hm⟩
  · simp only [back?, mem_def, hm]
    simp
  rw [concat_eq_append] at hm
  have hs := m.sorted
  rw [hm, pairwise_append] at hs
  have hlt : ∀ q ∈ init, q.1 < a.1 := fun q hq => hs.2.2 q hq a (mem_singleton_self a)
  simp only [back?, mem_def, hm, getLast?_concat, Option.some.injEq, mem_append, mem_singleton]
  constructor
  · rintro rfl
    refine ⟨.inr rfl, fun q hq => ?_⟩
    rcases hq with hq | rfl
    · exact le_of_lt (hlt q hq)
    · exact le_rfl
  · rintro ⟨hp | rfl, hmax⟩
    · exact absurd (hlt p hp) (not_lt.mpr (hmax a (.inr rfl)))
    · rfl

lemma front?_isSome (h : p ∈ m) : ∃ q, m.front? = some q := by
  cases hf : m.front? with
  | none => exact absurd h (front?_eq_none.mp hf p)
  | some q => exact ⟨q, rfl⟩

lemma keys_nodup (m : OrdMap κ α) : m.keys.Nodup := by
  rw [keys, Nodup, pairwise_map]
  exact m.sorted.imp ne_of_lt

lemma size_erase_lt (h : (k, v) ∈ m) : (m.erase k).size < m.size :=
  length_filter_lt_length_iff_exists.mpr ⟨(k, v), h, by simp⟩

lemma emplace_of_not_mem (h : ∀ v, (k, v) ∉ m) (v : α) :
    m.emplace k v = (m.insert k v, true) := by
  rw [emplace, contains_eq_false.mpr h]
  rfl

/-- Emplacing the items of a list one after the other: what is there stays, and of the items with
one key the first is kept. -/
lemma find?_foldl_emplace (key : β → κ) (val : β → α) (l : List β) (m : OrdMap κ α) (k : κ) :
    (l.foldl (fun m b => (m.emplace (key b) (val b)).1) m).find? k =
      (m.find? k).or ((l.find? fun b => key b = k).map val) := by
  induction l generalizing m with
  | nil => simp
  | cons b l ih =>
    rw [foldl_cons, ih]
    unfold emplace
    by_cases hk : key b = k
    · subst hk
      cases hb : m.find? (key b) with
      | none => simp [contains, hb]
      | some v => simp [contains, hb]
    have hfind : (if m.contains (key b) then (m, false) else (m.insert (key b) (val b), true)).1.find? k =
        m.find? k := by
      split
      · rfl
      · exact find?_insert_ne m _ (Ne.symm hk)
    rw [hfind, find?_cons_of_neg (by simpa using hk)]

lemma mem_foldl_emplace {key : β → κ} {val : β → α} {l : List β} (h : p ∈ l.foldl (fun m b => (m.emplace (key b) (val b)).1) m) :
    p ∈ m ∨ ∃ b ∈ l, p.2 = val b := by
  have hfind := find?_eq_some.mpr (show (p.1, p.2) ∈ _ from h)
  rw [find?_foldl_emplace, Option.or_eq_some_iff] at hfind
  rcases hfind with hfind | ⟨-, hfind⟩
  · exact .inl (find?_eq_some.mp hfind)
  obtain ⟨b, hb, hval⟩ := Option.map_eq_some_iff.mp hfind
  exact .inr ⟨b, mem_of_find?_eq_some hb, hval.symm⟩

end OrdMap

end WebRtc.Lib
