import Mathlib.Data.BitVec
import Mathlib.Tactic.Linarith
import Mathlib.Tactic.Ring

/-!
# WebRTC — sequence number unwrapping

The model of `rtc_base/numerics` (`mod_ops.h`, `sequence_number_util.h`,
`sequence_number_unwrapper.h`) and of dcSCTP's `UnwrappedSequenceNumber`. The integer that an
unwrapper remembers is congruent to the wire number it remembers (`SeqNumUnwrapper.synced`), so
that unwrapping never changes the wire number (`wrap_peekUnwrap`), and a number less than half the
number space away from the last one is recovered exactly (`peekUnwrap_wrap`).
-/

namespace WebRtc.Numerics

variable {w : Nat}

/-- Wire numbers compare by their raw value, as `StrongAlias` has it. -/
instance rawOrder : LinearOrder (BitVec w) where
  le_refl _ := BitVec.le_refl _
  le_trans _ _ _ := BitVec.le_trans
  le_antisymm _ _ := BitVec.le_antisymm
  le_total := BitVec.le_total
  lt_iff_le_not_ge a b := by
    rw [BitVec.le_def, BitVec.le_def, BitVec.lt_def]
    omega
  toDecidableLE := inferInstance
  toDecidableEq := inferInstance
  toDecidableLT := inferInstance

def wrap (w : Nat) (x : Int) : BitVec w := BitVec.ofInt w x

def forwardDiff (a b : BitVec w) : BitVec w := b - a

/-- `AheadOrAt(a, b)` for `M = 0`. At a distance of exactly half the number
space the larger number counts as the later one. -/
def aheadOrAt (a b : BitVec w) : Bool :=
  -- For 16 bits the source subtracts in `int`. There `a - b` is half the space
  -- only when `b < a`; when it is minus half the space, the comparison below
  -- is false, which is what `b < a` is as well.
  if (a - b).toNat = 2 ^ (w - 1) then decide (b.toNat < a.toNat)
  else decide ((forwardDiff b a).toNat < 2 ^ (w - 1))

def aheadOf (a b : BitVec w) : Bool := a != b && aheadOrAt a b

def delta (last new : BitVec w) : Int :=
  if aheadOrAt new last then (forwardDiff last new).toNat
  else (forwardDiff last new).toNat - 2 ^ w

/-- `SeqNumUnwrapper<T>`. The last field ties its two members together. -/
structure SeqNumUnwrapper (w : Nat) where
  lastUnwrapped : Int := 0
  lastValue : Option (BitVec w) := none
  synced : ∀ v, lastValue = some v → wrap w lastUnwrapped = v
deriving DecidableEq

namespace SeqNumUnwrapper

def init (w : Nat) : SeqNumUnwrapper w := ⟨0, none, by simp⟩

/-- `PeekUnwrap`: the first number is taken as it is. -/
def peekUnwrap (u : SeqNumUnwrapper w) (value : BitVec w) : Int :=
  match u.lastValue with
  | none => value.toNat
  | some last => u.lastUnwrapped + delta last value

end SeqNumUnwrapper

/-! ## Wrapping -/

lemma toNat_wrap (x : Int) : ((wrap w x).toNat : Int) = x % 2 ^ w := by
  rw [wrap, BitVec.toNat_ofInt]
  push_cast
  omega

lemma wrap_eq_wrap_iff {x y : Int} : wrap w x = wrap w y ↔ x % 2 ^ w = y % 2 ^ w := by
  rw [← BitVec.toNat_inj, ← toNat_wrap, ← toNat_wrap]
  exact Int.natCast_inj.symm

lemma wrap_toNat (v : BitVec w) : wrap w v.toNat = v := by
  rw [wrap, BitVec.ofInt_natCast, BitVec.ofNat_toNat, BitVec.setWidth_eq]

lemma wrap_sub_toNat (x y : Int) : ((wrap w x - wrap w y).toNat : Int) = (x - y) % 2 ^ w := by
  have hx : wrap w x = wrap w (x - y) + wrap w y := by
    rw [wrap, wrap, wrap, ← BitVec.ofInt_add, sub_add_cancel]
  rw [hx, BitVec.add_sub_cancel, toNat_wrap]

lemma wrap_add_one (x : Int) : wrap w (x + 1) = wrap w x + 1 := by
  rw [wrap, wrap, BitVec.ofInt_add]
  rfl

lemma eq_of_wrap_eq {x y : Int} (h : wrap w x = wrap w y)
    (hlo : -2 ^ w < x - y) (hhi : x - y < 2 ^ w) : x = y := by
  rw [wrap_eq_wrap_iff, ← Int.emod_emod_of_dvd x (dvd_refl _)] at h
  obtain ⟨c, hc⟩ : (2 : Int) ^ w ∣ x - y := by
    rw [← Int.emod_eq_emod_iff_emod_sub_eq_zero.trans Int.dvd_iff_emod_eq_zero.symm]
    simpa using h
  have hc1 : c < 1 := by nlinarith
  have hc2 : -1 < c := by nlinarith
  have : c = 0 := by omega
  rw [this] at hc
  omega

/-! ## Distances -/

lemma wrap_add_delta (x : Int) (v : BitVec w) : wrap w (x + delta (wrap w x) v) = v := by
  have hfd : wrap w (x + ((v - wrap w x).toNat : Int)) = v := by
    rw [wrap, BitVec.ofInt_add, BitVec.ofInt_natCast, BitVec.ofNat_toNat,
      BitVec.setWidth_eq, wrap, add_comm, BitVec.sub_add_cancel]
  unfold delta forwardDiff
  split
  · exact hfd
  have hmod : (x + (((v - wrap w x).toNat : Int) - 2 ^ w)) % 2 ^ w
      = (x + ((v - wrap w x).toNat : Int)) % 2 ^ w := by
    rw [← Int.add_sub_assoc, Int.sub_emod_right]
  exact (wrap_eq_wrap_iff.mpr hmod).trans hfd

lemma sub_emod_of_lt {x y m : Int} (hlo : -m < x - y) (hhi : x - y < m) :
    (x - y) % m = if y ≤ x then x - y else x - y + m := by
  split
  · exact Int.emod_eq_of_lt (by omega) (by omega)
  · rw [← Int.add_emod_right, Int.emod_eq_of_lt] <;> omega

lemma bne_and_decide_le {ν : Type} [DecidableEq ν] {a b : ν} {x y : Int} (h : a = b ↔ x = y) :
    (a != b && decide (y ≤ x)) = decide (y < x) := by
  rw [Bool.eq_iff_iff, Bool.and_eq_true, bne_iff_ne, ne_eq, h, decide_eq_true_eq, decide_eq_true_eq]
  omega

section Near

variable {x y : Int} (hlo : -2 ^ (w - 1) < x - y) (hhi : x - y < 2 ^ (w - 1)) (hw : 0 < w)
include hlo hhi hw

lemma near_bounds : -2 ^ w < x - y ∧ x - y < 2 ^ w ∧ (2 : Int) ^ w = 2 * 2 ^ (w - 1) := by
  have hpow : (2 : Int) ^ w = 2 * 2 ^ (w - 1) := by rw [← Int.pow_succ', Nat.sub_add_cancel hw]
  omega

lemma aheadOrAt_wrap : aheadOrAt (wrap w x) (wrap w y) = decide (y ≤ x) := by
  obtain ⟨hlo', hhi', hpow⟩ := near_bounds hlo hhi hw
  have hcast : ((2 ^ (w - 1) : Nat) : Int) = 2 ^ (w - 1) := by push_cast; ring
  have hfd := wrap_sub_toNat (w := w) x y
  rw [sub_emod_of_lt hlo' hhi'] at hfd
  rw [aheadOrAt, forwardDiff, if_neg (by split at hfd <;> omega)]
  exact decide_eq_decide.mpr (by split at hfd <;> omega)

lemma aheadOf_wrap : aheadOf (wrap w x) (wrap w y) = decide (y < x) := by
  obtain ⟨hlo', hhi', -⟩ := near_bounds hlo hhi hw
  rw [aheadOf, aheadOrAt_wrap hlo hhi hw]
  exact bne_and_decide_le ⟨fun h => eq_of_wrap_eq h hlo' hhi', fun h => by rw [h]⟩

lemma delta_wrap : delta (wrap w y) (wrap w x) = x - y := by
  obtain ⟨hlo', hhi', -⟩ := near_bounds hlo hhi hw
  rw [delta, aheadOrAt_wrap hlo hhi hw, forwardDiff, wrap_sub_toNat, sub_emod_of_lt hlo' hhi']
  simp only [decide_eq_true_eq]
  split
  · rfl
  · exact Int.add_sub_cancel ..

end Near

lemma delta_bounds (a b : BitVec w) (hw : 0 < w) :
    -2 ^ (w - 1) ≤ delta a b ∧ delta a b ≤ 2 ^ (w - 1) := by
  obtain ⟨n, rfl⟩ : ∃ n, w = n + 1 := ⟨w - 1, by omega⟩
  have hcast : ((2 ^ n : Nat) : Int) = 2 ^ n := by push_cast; ring
  unfold delta aheadOrAt forwardDiff
  simp only [Nat.add_sub_cancel]
  by_cases hTie : (b - a).toNat = 2 ^ n
  · rw [if_pos hTie]
    split <;> omega
  rw [if_neg hTie]
  simp only [decide_eq_true_eq]
  split <;> omega

/-! ## The unwrapper -/

namespace SeqNumUnwrapper

lemma wrap_peekUnwrap (u : SeqNumUnwrapper w) (v : BitVec w) : wrap w (u.peekUnwrap v) = v := by
  unfold peekUnwrap
  cases h : u.lastValue with
  | none => exact wrap_toNat v
  | some last =>
    rw [← u.synced last h]
    exact wrap_add_delta _ _

def unwrap (u : SeqNumUnwrapper w) (value : BitVec w) : Int × SeqNumUnwrapper w :=
  (u.peekUnwrap value,
    { lastUnwrapped := u.peekUnwrap value
      lastValue := some value
      synced := by
        rintro v ⟨rfl⟩
        exact u.wrap_peekUnwrap value })

@[simp] lemma unwrap_fst (u : SeqNumUnwrapper w) (v : BitVec w) :
    (u.unwrap v).1 = u.peekUnwrap v := rfl

def Recovers (u : SeqNumUnwrapper w) (x : Int) : Prop := u.peekUnwrap (wrap w x) = x

instance (u : SeqNumUnwrapper w) (x : Int) : Decidable (u.Recovers x) :=
  inferInstanceAs (Decidable (_ = _))

/-- The unwrapper has seen a number, and `x` is less than half the number space
away from it: the condition under which `UnwrappedSequenceNumber` promises to
keep the order of the numbers. -/
def Near (u : SeqNumUnwrapper w) (x : Int) : Prop :=
  u.lastValue.isSome ∧ -2 ^ (w - 1) < x - u.lastUnwrapped ∧ x - u.lastUnwrapped < 2 ^ (w - 1)

instance (u : SeqNumUnwrapper w) (x : Int) : Decidable (u.Near x) :=
  inferInstanceAs (Decidable (_ ∧ _))

/-- **Half the number space is enough.** A number less than half the space away
from the last one is recovered. -/
lemma peekUnwrap_wrap {u : SeqNumUnwrapper w} {x : Int} (h : u.Near x) (hw : 0 < w) :
    u.peekUnwrap (wrap w x) = x := by
  obtain ⟨hsome, hlo, hhi⟩ := h
  obtain ⟨last, hlast⟩ := Option.isSome_iff_exists.mp hsome
  unfold peekUnwrap
  rw [hlast]
  simp only
  rw [← u.synced last hlast, delta_wrap hlo hhi hw]
  omega

lemma peekUnwrap_bounds {u : SeqNumUnwrapper w} (h : u.lastValue.isSome) (v : BitVec w)
    (hw : 0 < w) :
    u.lastUnwrapped - 2 ^ (w - 1) ≤ u.peekUnwrap v ∧
      u.peekUnwrap v ≤ u.lastUnwrapped + 2 ^ (w - 1) := by
  obtain ⟨last, hlast⟩ := Option.isSome_iff_exists.mp h
  unfold peekUnwrap
  rw [hlast]
  have := delta_bounds last v hw
  constructor <;> simp only <;> omega

end SeqNumUnwrapper

/-- `UnwrappedSequenceNumber::Difference`: the distance of two unwrapped numbers,
narrowed to the underlying unsigned type. -/
def difference (w : Nat) (a b : Int) : Nat := (a - b).natAbs % 2 ^ w

end WebRtc.Numerics
