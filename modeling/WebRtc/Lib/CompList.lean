import Mathlib.Data.List.Pairwise
import Mathlib.Data.List.TakeWhile
import Mathlib.Order.Lattice

/-!
# Ordered containers with a caller's comparator

`std::map` and `std::set` with a comparison of the caller's choice, as the list of their elements
in iteration order. Nothing is assumed about the comparison: sequence-number comparators are total
orders only on windows of half the number space. A search is the scan for its boundary; where the
elements are ordered there is only one.
-/

namespace WebRtc.Lib.CompList

open List

variable {ε κ : Type*} (lt : κ → κ → Bool) (key : ε → κ)

def below (k : κ) (l : List ε) : List ε := l.takeWhile fun e => lt (key e) k

def fromLower (k : κ) (l : List ε) : List ε := l.dropWhile fun e => lt (key e) k

def upTo (k : κ) (l : List ε) : List ε := l.takeWhile fun e => !lt k (key e)

def fromUpper (k : κ) (l : List ε) : List ε := l.dropWhile fun e => !lt k (key e)

/-- `emplace` / `insert`: an element with an equivalent key stays. -/
def emplace (e : ε) (l : List ε) : List ε :=
  match fromLower lt key (key e) l with
  | [] => below lt key (key e) l ++ [e]
  | found :: rest =>
    if lt (key e) (key found) then below lt key (key e) l ++ e :: found :: rest else l

def erase (k : κ) (l : List ε) : List ε :=
  match fromLower lt key k l with
  | [] => l
  | found :: rest => if lt k (key found) then l else below lt key k l ++ rest

/-! ## Membership -/

variable {lt key} {k : κ} {l : List ε} {e x : ε}

lemma below_append_fromLower : below lt key k l ++ fromLower lt key k l = l :=
  takeWhile_append_dropWhile

lemma upTo_append_fromUpper : upTo lt key k l ++ fromUpper lt key k l = l :=
  takeWhile_append_dropWhile

lemma mem_of_mem_below (h : x ∈ below lt key k l) : x ∈ l :=
  takeWhile_subset _ h

lemma mem_of_mem_fromLower (h : x ∈ fromLower lt key k l) : x ∈ l :=
  dropWhile_subset _ h

lemma mem_of_mem_upTo (h : x ∈ upTo lt key k l) : x ∈ l :=
  takeWhile_subset _ h

lemma mem_of_mem_fromUpper (h : x ∈ fromUpper lt key k l) : x ∈ l :=
  dropWhile_subset _ h

lemma mem_of_mem_replace
    (h : x ∈ (upTo lt key k l).dropLast ++ e :: fromUpper lt key k l) : x = e ∨ x ∈ l := by
  rcases mem_append.mp h with h | h
  · exact .inr (mem_of_mem_upTo (dropLast_subset _ h))
  · exact (mem_cons.mp h).imp_right mem_of_mem_fromUpper

lemma mem_of_mem_emplace (h : x ∈ emplace lt key e l) : x = e ∨ x ∈ l := by
  unfold emplace at h
  split at h
  · rcases mem_append.mp h with h | h
    · exact .inr (mem_of_mem_below h)
    · exact .inl (mem_singleton.mp h)
  next found rest heq =>
  split at h
  · rcases mem_append.mp h with h | h
    · exact .inr (mem_of_mem_below h)
    rcases mem_cons.mp h with h | h
    · exact .inl h
    rw [← heq] at h
    exact .inr (mem_of_mem_fromLower h)
  · exact .inr h

lemma mem_emplace_of_mem (h : x ∈ l) : x ∈ emplace lt key e l := by
  have hsplit : below lt key (key e) l ++ fromLower lt key (key e) l = l := below_append_fromLower
  rw [← hsplit] at h
  unfold emplace
  split
  · next heq =>
    rw [heq, append_nil] at h
    exact mem_append_left _ h
  next found rest heq =>
  split
  · rw [heq] at h
    rcases mem_append.mp h with h | h
    · exact mem_append_left _ h
    · exact mem_append_right _ (mem_cons_of_mem _ h)
  · rw [hsplit] at h
    exact h

/-! ## Renaming the keys -/

section Map

variable {ε' κ' : Type*} {lt' : κ' → κ' → Bool} {key' : ε' → κ'} {g : ε → ε'} {k' : κ'} {e' : ε'}

variable {p' : ε' → Bool} {p : ε → Bool}

lemma takeWhile_map_congr (h : ∀ x ∈ l, p' (g x) = p x) :
    (l.map g).takeWhile p' = (l.takeWhile p).map g := by
  induction l with
  | nil => rfl
  | cons y l ih =>
    have ih := ih fun x hx => h x (mem_cons_of_mem _ hx)
    rw [map_cons, takeWhile_cons, takeWhile_cons, h y mem_cons_self]
    split
    · rw [ih, map_cons]
    · rfl

lemma dropWhile_map_congr (h : ∀ x ∈ l, p' (g x) = p x) :
    (l.map g).dropWhile p' = (l.dropWhile p).map g := by
  induction l with
  | nil => rfl
  | cons y l ih =>
    have ih := ih fun x hx => h x (mem_cons_of_mem _ hx)
    rw [map_cons, dropWhile_cons, dropWhile_cons, h y mem_cons_self]
    split
    · exact ih
    · rfl

lemma below_map (h : ∀ x ∈ l, lt' (key' (g x)) k' = lt (key x) k) :
    below lt' key' k' (l.map g) = (below lt key k l).map g :=
  takeWhile_map_congr h

lemma fromLower_map (h : ∀ x ∈ l, lt' (key' (g x)) k' = lt (key x) k) :
    fromLower lt' key' k' (l.map g) = (fromLower lt key k l).map g :=
  dropWhile_map_congr h

lemma upTo_map (h : ∀ x ∈ l, lt' k' (key' (g x)) = lt k (key x)) :
    upTo lt' key' k' (l.map g) = (upTo lt key k l).map g :=
  takeWhile_map_congr fun x hx => congrArg (!·) (h x hx)

lemma fromUpper_map (h : ∀ x ∈ l, lt' k' (key' (g x)) = lt k (key x)) :
    fromUpper lt' key' k' (l.map g) = (fromUpper lt key k l).map g :=
  dropWhile_map_congr fun x hx => congrArg (!·) (h x hx)

lemma emplace_map (hl : ∀ x ∈ l, lt' (key' (g x)) (key' (g e)) = lt (key x) (key e))
    (hr : ∀ x ∈ l, lt' (key' (g e)) (key' (g x)) = lt (key e) (key x)) :
    emplace lt' key' (g e) (l.map g) = (emplace lt key e l).map g := by
  unfold emplace
  rw [fromLower_map hl, below_map hl]
  cases hfrom : fromLower lt key (key e) l with
  | nil => simp
  | cons found rest =>
    have hfound : found ∈ l := mem_of_mem_fromLower (hfrom ▸ mem_cons_self ..)
    simp only [map_cons, hr found hfound]
    split <;> simp

lemma erase_map (hl : ∀ x ∈ l, lt' (key' (g x)) k' = lt (key x) k)
    (hr : ∀ x ∈ l, lt' k' (key' (g x)) = lt k (key x)) :
    erase lt' key' k' (l.map g) = (erase lt key k l).map g := by
  unfold erase
  rw [fromLower_map hl, below_map hl]
  cases hfrom : fromLower lt key k l with
  | nil => simp
  | cons found rest =>
    simp only [map_cons, hr found (mem_of_mem_fromLower (hfrom ▸ mem_cons_self ..))]
    split <;> simp

end Map

/-! ## Elements that are in order -/

section Sorted

variable {κ : Type*} [LinearOrder κ] {key : ε → κ} {k : κ}

abbrev ltOf (κ : Type*) [LinearOrder κ] (a b : κ) : Bool := decide (a < b)

lemma key_lt_of_mem_below (h : x ∈ below (ltOf κ) key k l) : key x < k :=
  of_decide_eq_true (mem_takeWhile_imp (p := fun e => decide (key e < k)) h)

lemma le_key_of_mem_fromLower (hl : l.Pairwise fun a b => key a < key b)
    (h : x ∈ fromLower (ltOf κ) key k l) : k ≤ key x := by
  induction l with
  | nil => simp [fromLower] at h
  | cons y l ih =>
    rw [pairwise_cons] at hl
    rw [fromLower, dropWhile_cons] at h
    by_cases hy : key y < k
    · rw [if_pos (decide_eq_true hy)] at h
      exact ih hl.2 h
    rw [if_neg (by simpa using hy)] at h
    rcases mem_cons.mp h with rfl | h
    · exact not_lt.mp hy
    · exact (not_lt.mp hy).trans (hl.1 x h).le

lemma mem_fromLower_of_le (hx : x ∈ l) (hk : k ≤ key x) : x ∈ fromLower (ltOf κ) key k l := by
  have hsplit : below (ltOf κ) key k l ++ fromLower (ltOf κ) key k l = l := below_append_fromLower
  rw [← hsplit] at hx
  rcases mem_append.mp hx with hx | hx
  · exact absurd (key_lt_of_mem_below hx) (not_lt.mpr hk)
  · exact hx

lemma emplace_sorted (hl : l.Pairwise fun a b => key a < key b) :
    (emplace (ltOf κ) key e l).Pairwise fun a b => key a < key b := by
  have hsplit : below (ltOf κ) key (key e) l ++ fromLower (ltOf κ) key (key e) l = l :=
    below_append_fromLower
  have hpts := hl
  rw [← hsplit, pairwise_append] at hpts
  unfold emplace
  split
  · rw [pairwise_append]
    refine ⟨hpts.1, pairwise_singleton _ _, ?_⟩
    intro a ha b hb
    rw [mem_singleton.mp hb]
    exact key_lt_of_mem_below ha
  next found rest heq =>
  rw [heq] at hpts
  split
  · next hlt =>
    have hlt := of_decide_eq_true hlt
    rw [pairwise_append, pairwise_cons]
    have haft : ∀ b ∈ found :: rest, key e < key b := by
      exact forall_mem_cons.mpr ⟨hlt, fun b hb => hlt.trans ((pairwise_cons.mp hpts.2.1).1 b hb)⟩
    refine ⟨hpts.1, ⟨haft, hpts.2.1⟩, ?_⟩
    intro a ha b hb
    rcases mem_cons.mp hb with rfl | hb
    · exact key_lt_of_mem_below ha
    · exact hpts.2.2 a ha b hb
  · exact hl

lemma mem_emplace_self (hl : ∀ y ∈ l, key y = key e → y = e) : e ∈ emplace (ltOf κ) key e l := by
  unfold emplace
  split
  · simp
  next found rest heq =>
  split
  · simp
  next hlt =>
  -- The search stopped at an element that is neither below nor above.
  have hmem : found ∈ l := mem_of_mem_fromLower (heq ▸ mem_cons_self ..)
  have hge : ¬ key found < key e := by
    have := head?_dropWhile_not (fun e' => decide (key e' < key e)) l
    have hhead : (l.dropWhile fun e' => decide (key e' < key e)).head? = some found :=
      congrArg head? heq
    rw [hhead] at this
    simpa using this
  have hle : ¬ key e < key found := by simpa using hlt
  rw [← hl found hmem (le_antisymm (not_lt.mp hle) (not_lt.mp hge))]
  exact hmem

lemma emplace_of_forall_lt (h : ∀ y ∈ l, key y < key e) :
    emplace (ltOf κ) key e l = l ++ [e] := by
  have hfrom : fromLower (ltOf κ) key (key e) l = [] :=
    dropWhile_eq_nil_iff.mpr fun y hy => decide_eq_true (h y hy)
  have hbel : below (ltOf κ) key (key e) l = l :=
    takeWhile_eq_self_iff.mpr fun y hy => decide_eq_true (h y hy)
  rw [emplace, hfrom, hbel]

lemma emplace_append_singleton {z : ε} (h : key e < key z) :
    emplace (ltOf κ) key e (l ++ [z]) = emplace (ltOf κ) key e l ++ [z] := by
  have hz : ¬ key z < key e := not_lt.mpr h.le
  have hfrom : fromLower (ltOf κ) key (key e) (l ++ [z])
      = fromLower (ltOf κ) key (key e) l ++ [z] := by
    unfold fromLower
    rw [dropWhile_append]
    cases hl : l.dropWhile fun e' => decide (key e' < key e) with
    | nil => simp [hz]
    | cons y l' => simp
  have hbel : below (ltOf κ) key (key e) (l ++ [z]) = below (ltOf κ) key (key e) l := by
    unfold below
    rw [takeWhile_append]
    split
    · next hlen =>
      rw [takeWhile_cons_of_neg (by simpa using hz), append_nil]
      exact ((takeWhile_sublist _).eq_of_length hlen).symm
    · rfl
  unfold emplace
  rw [hfrom, hbel]
  cases fromLower (ltOf κ) key (key e) l with
  | nil => simp [h]
  | cons found rest =>
    rw [cons_append]
    dsimp only
    split <;> simp

lemma upTo_of_forall_le (h : ∀ y ∈ l, key y ≤ k) : upTo (ltOf κ) key k l = l :=
  takeWhile_eq_self_iff.mpr fun y hy => by simpa using h y hy

lemma fromUpper_of_forall_le (h : ∀ y ∈ l, key y ≤ k) : fromUpper (ltOf κ) key k l = [] :=
  dropWhile_eq_nil_iff.mpr fun y hy => by simpa using h y hy

lemma upTo_append_singleton {z : ε} (h : k < key z) :
    upTo (ltOf κ) key k (l ++ [z]) = upTo (ltOf κ) key k l := by
  unfold upTo
  rw [takeWhile_append]
  split
  · next hlen =>
    rw [takeWhile_cons_of_neg (by simpa using h), append_nil]
    exact ((takeWhile_sublist _).eq_of_length hlen).symm
  · rfl

lemma fromUpper_append_singleton {z : ε} (h : k < key z) :
    fromUpper (ltOf κ) key k (l ++ [z]) = fromUpper (ltOf κ) key k l ++ [z] := by
  unfold fromUpper
  rw [dropWhile_append]
  cases hl : l.dropWhile fun e => !decide (k < key e) with
  | nil => simp [h]
  | cons y l' => simp

end Sorted

end WebRtc.Lib.CompList
