import WebRtc.Lib.CompList
import WebRtc.Numerics.SeqNum

/-!
# WebRTC — sequence numbers with any modulus

The functions of `Numerics.SeqNum` for both kinds of the template argument `M`: a modulus that
is given, and `0` for all numbers of the `w`-bit type. A number is its value here.

Main result: `unwrapper_and_order_faithful`.
-/

namespace WebRtc.Numerics.Modulus

open Lib CompList

section

variable (w M a b : Nat)

def modulus : Nat := if M = 0 then 2 ^ w else M

def forwardDiff : Nat :=
  if M = 0 then (Numerics.forwardDiff (BitVec.ofNat w a) (BitVec.ofNat w b)).toNat
  else if a ≤ b then b - a else M - (a - b)

def reverseDiff : Nat := if b ≤ a then a - b else M - (b - a)

def minDiff : Nat := min (forwardDiff w M a b) (reverseDiff M a b)

def aheadOrAt : Bool :=
  if M = 0 then Numerics.aheadOrAt (BitVec.ofNat w a) (BitVec.ofNat w b)
  -- At half of an even modulus the greater value counts as ahead.
  else if M % 2 = 0 ∧ minDiff w M a b = M / 2 then decide (b < a)
  else decide (forwardDiff w M b a ≤ M / 2)

/-- `AheadOf<T, M>`, which is `AscendingSeqNumComp`. -/
def aheadOf : Bool := a != b && aheadOrAt w M a b

def descendingSeqNumComp : Bool := aheadOf w M b a

def delta : Int :=
  if aheadOrAt w M b a then forwardDiff w M a b else forwardDiff w M a b - modulus w M

end

structure SeqNumUnwrapper where
  lastUnwrapped : Int := 0
  lastValue : Option Nat := none

variable (w M : Nat)

def SeqNumUnwrapper.unwrap (u : SeqNumUnwrapper) (value : Nat) : SeqNumUnwrapper :=
  match u.lastValue with
  | none => ⟨value, some value⟩
  | some last => ⟨u.lastUnwrapped + delta w M last value, some value⟩

def SeqNumUnwrapper.unwrapAll : SeqNumUnwrapper → List Nat → List Int
  | _, [] => []
  | u, value :: values =>
    (u.unwrap w M value).lastUnwrapped :: unwrapAll (u.unwrap w M value) values

def residue (x : Int) : Nat := (x % modulus w M).toNat

def Close (y x : Int) : Prop := 2 * |x - y| < modulus w M

/-! ## Distances and comparisons -/

variable {w M} {x y : Int}

lemma residue_eq : (residue w M x : Int) = x % modulus w M := by
  have hpos : 0 < modulus w M := by
    rw [modulus]
    split
    · positivity
    · omega
  exact Int.toNat_of_nonneg (Int.emod_nonneg _ (by omega))

lemma ofNat_residue : BitVec.ofNat w (residue w 0 x) = wrap w x := by
  rw [← BitVec.ofInt_natCast, residue_eq, ← wrap, wrap_eq_wrap_iff, modulus, if_pos rfl]
  simp

lemma Close.sub_emod (h : Close w M y x) :
    (x - y) % modulus w M = if y ≤ x then x - y else x - y + modulus w M := by
  rw [Close] at h
  have hlt := abs_lt.mp (show |x - y| < modulus w M by omega)
  exact sub_emod_of_lt hlt.1 hlt.2

lemma forwardDiff_residue :
    (forwardDiff w M (residue w M y) (residue w M x) : Int) = (x - y) % modulus w M := by
  by_cases hM : M = 0
  · subst hM
    rw [forwardDiff, if_pos rfl, ofNat_residue, ofNat_residue, Numerics.forwardDiff,
      wrap_sub_toNat, modulus, if_pos rfl]
    push_cast
    rfl
  have hm : modulus w M = M := if_neg hM
  have hx := @residue_eq w M x
  have hy := @residue_eq w M y
  rw [forwardDiff, if_neg hM, Int.sub_emod, ← hx, ← hy, hm]
  rw [hm] at hx hy
  have := Int.emod_lt_of_pos x (show (0 : Int) < M by omega)
  have := Int.emod_lt_of_pos y (show (0 : Int) < M by omega)
  -- Both numbers are below `M`, so one turn brings their difference into range.
  rw [sub_emod_of_lt (by omega) (by omega)]
  split <;> split <;> omega

lemma aheadOrAt_residue (hw : 0 < w) (h : Close w M y x) :
    aheadOrAt w M (residue w M x) (residue w M y) = decide (y ≤ x) := by
  by_cases hM : M = 0
  · subst hM
    have hpow : ((2 ^ w : Nat) : Int) = 2 * 2 ^ (w - 1) := by
      rw [← Int.pow_succ', Nat.sub_add_cancel hw]
      push_cast
      rfl
    rw [Close, modulus, if_pos rfl] at h
    have habs := abs_lt.mp (show |x - y| < 2 ^ (w - 1) by omega)
    rw [aheadOrAt, if_pos rfl, ofNat_residue, ofNat_residue]
    exact aheadOrAt_wrap habs.1 habs.2 hw
  have h' : Close w M x y := by rwa [Close, abs_sub_comm]
  have hm : modulus w M = M := if_neg hM
  have hfd := @forwardDiff_residue w M x y
  have hbd := @forwardDiff_residue w M y x
  rw [h.sub_emod, hm] at hfd
  rw [h'.sub_emod, hm] at hbd
  rw [Close, hm] at h
  have habs := abs_lt.mp (show |x - y| < |x - y| + 1 by omega)
  have hrd : reverseDiff M (residue w M x) (residue w M y)
      = forwardDiff w M (residue w M y) (residue w M x) := by
    rw [reverseDiff, forwardDiff, if_neg hM]
  -- The distance is not half the modulus, so there is no tie.
  rw [aheadOrAt, if_neg hM, if_neg (by rw [minDiff, hrd]; split at hfd <;> split at hbd <;> omega)]
  exact decide_eq_decide.mpr (by split at hfd <;> omega)

lemma delta_residue (hw : 0 < w) (h : Close w M y x) :
    delta w M (residue w M y) (residue w M x) = x - y := by
  rw [delta, aheadOrAt_residue hw h, forwardDiff_residue, h.sub_emod]
  simp only [decide_eq_true_eq]
  split <;> omega

lemma aheadOf_residue (hw : 0 < w) (h : Close w M y x) :
    aheadOf w M (residue w M x) (residue w M y) = decide (y < x) := by
  rw [aheadOf, aheadOrAt_residue hw h]
  refine bne_and_decide_le ⟨fun heq => ?_, fun heq => by rw [heq]⟩
  have hfd := @forwardDiff_residue w M x y
  rw [← heq, forwardDiff_residue, h.sub_emod, sub_self, Int.zero_emod] at hfd
  have habs := abs_lt.mp (show |x - y| < |x - y| + 1 by omega)
  rw [Close] at h
  split at hfd <;> omega

lemma unwrapAll_residues (hw : 0 < w) {c : Int} (xs : List Int) :
    ∀ {u : SeqNumUnwrapper} {x : Int}, u.lastValue = some (residue w M x) →
      u.lastUnwrapped = x + c → (x :: xs).IsChain (Close w M) →
      u.unwrapAll w M (xs.map (residue w M)) = xs.map (· + c) := by
  -- On the values to come: each becomes the last value, and `c` stays.
  induction xs with
  | nil => exact fun _ _ _ => rfl
  | cons y xs ih =>
    intro u x hv hu hxs
    rw [List.isChain_cons_cons] at hxs
    have hunwrap : u.unwrap w M (residue w M y) = ⟨y + c, some (residue w M y)⟩ := by
      rw [SeqNumUnwrapper.unwrap, hv, hu]
      dsimp only
      rw [delta_residue hw hxs.1]
      congr 1
      omega
    rw [List.map_cons, SeqNumUnwrapper.unwrapAll, hunwrap, ih rfl rfl hxs.2, List.map_cons]

/-! ## Ordered containers -/

/-- On `S` a container with the comparison `comp` is the image of one with `lt`. -/
def OrderedLike (r : Int → Nat) (S : Set Int) (comp : Nat → Nat → Bool) (lt : Int → Int → Bool) :
    Prop :=
  ∀ l : List Int, (∀ x ∈ l, x ∈ S) → ∀ x ∈ S,
    emplace comp id (r x) (l.map r) = (emplace lt id x l).map r ∧
    erase comp id (r x) (l.map r) = (erase lt id x l).map r ∧
    below comp id (r x) (l.map r) = (below lt id x l).map r ∧
    upTo comp id (r x) (l.map r) = (upTo lt id x l).map r

lemma orderedLike {r : Int → Nat} {S : Set Int} {comp : Nat → Nat → Bool}
    {lt : Int → Int → Bool} (h : ∀ x ∈ S, ∀ y ∈ S, comp (r x) (r y) = lt x y) :
    OrderedLike r S comp lt := by
  intro l hl x hx
  have hlo : ∀ y ∈ l, comp (r y) (r x) = lt y x := fun y hy => h y (hl y hy) x hx
  have hup : ∀ y ∈ l, comp (r x) (r y) = lt x y := fun y hy => h x hx y (hl y hy)
  exact ⟨emplace_map hlo hup, erase_map hlo hup, below_map hlo, upTo_map hup⟩

/-- **Unwrapping and comparing are faithful.** For every modulus, integers each less than half
of it away from the one before are recovered from their numbers up to a constant. On a set of
integers that spans at most half the modulus less one, the numbers are ordered as the integers,
and containers of them are ordered sets. -/
theorem unwrapper_and_order_faithful (w M : Nat) (hw : 0 < w) :
    (∀ xs : List Int, xs.IsChain (Close w M) →
      ∃ c, SeqNumUnwrapper.unwrapAll w M {} (xs.map (residue w M)) = xs.map (· + c)) ∧
    ∀ S : Set Int, (∀ x ∈ S, ∀ y ∈ S, |x - y| ≤ (modulus w M : Int) / 2 - 1) →
      S.InjOn (residue w M) ∧
      (∀ x ∈ S, ∀ y ∈ S, (aheadOf w M (residue w M x) (residue w M y) = true ↔ y < x)) ∧
      OrderedLike (residue w M) S (descendingSeqNumComp w M) (ltOf Int) ∧
      OrderedLike (residue w M) S (aheadOf w M) fun x y => decide (y < x) := by
  constructor
  · intro xs hxs
    cases xs with
    | nil => exact ⟨0, rfl⟩
    | cons x xs =>
      -- The first value is returned as it is, which fixes the constant.
      have hfirst : (residue w M x : Int) = x + (residue w M x - x) := by omega
      refine ⟨residue w M x - x, ?_⟩
      rw [List.map_cons, SeqNumUnwrapper.unwrapAll, List.map_cons]
      exact congrArg₂ _ hfirst (unwrapAll_residues hw xs rfl hfirst hxs)
  · intro S hS
    have hcmp : ∀ x ∈ S, ∀ y ∈ S, aheadOf w M (residue w M x) (residue w M y) = decide (y < x) := by
      intro x hx y hy
      have := hS x hx y hy
      exact aheadOf_residue hw (by rw [Close]; omega)
    refine ⟨?_, fun x hx y hy => by rw [hcmp x hx y hy, decide_eq_true_eq],
      orderedLike fun x hx y hy => hcmp y hy x hx, orderedLike hcmp⟩
    -- Neither of two integers with one number is ahead of the other.
    intro x hx y hy heq
    have hxy := hcmp x hx y hy
    have hyx := hcmp y hy x hx
    rw [heq, aheadOf, bne_self_eq_false, Bool.false_and, eq_comm, decide_eq_false_iff_not] at hxy hyx
    omega

theorem unwrapper_and_order_faithful_uint16 :
    ∃ c, SeqNumUnwrapper.unwrapAll 16 0 {} ([65535, 65536].map (residue 16 0))
      = [65535, 65536].map (· + c) :=
  (unwrapper_and_order_faithful 16 0 (by decide)).1 _ (.cons_cons (by rw [Close]; decide) (.singleton _))

end WebRtc.Numerics.Modulus
