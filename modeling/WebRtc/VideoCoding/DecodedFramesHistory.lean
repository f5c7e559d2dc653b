import Mathlib.Data.Int.ModEq
import WebRtc.Lib.Run
import WebRtc.Numerics.SeqNum

/-!
# WebRTC — the history of decoded frames

The model of `modules/video_coding/utility/decoded_frames_history.cc`, which remembers for the last
`windowSize` frame ids whether the frame was decoded, in a ring. `FrameIdToIndex` takes the
remainder of the id as an unsigned 64-bit number, which is that of the id itself for ids that are
not negative, and for all ids if the window size divides `2 ^ 64` (`Regular`). It divides by the size
and returns an `int`: a history has a window that is not empty and whose indices an `int` can hold.
-/

namespace WebRtc.VideoCoding

open List

structure DecodedFramesHistory where
  windowSize : Nat
  windowSize_pos : 0 < windowSize := by decide
  windowSize_lt : windowSize < 2 ^ 31 := by decide
  buffer : Nat → Bool := fun _ => false
  lastFrameId : Option Int := none
  lastDecodedFrame : Option Int := none
  lastDecodedFrameTimestamp : Option (BitVec 32) := none

def fillFalse (first last : Nat) (buffer : Nat → Bool) : Nat → Bool :=
  fun i => if first ≤ i ∧ i < last then false else buffer i

namespace DecodedFramesHistory

/-- `FrameIdToIndex`. The signed id is converted to the unsigned type of the size; the remainder is
below `windowSize` and so is not negative as an `int`. -/
def frameIdToIndex (h : DecodedFramesHistory) (frameId : Int) : Nat :=
  (frameId % 2 ^ 64).toNat % h.windowSize

def insertDecoded (h : DecodedFramesHistory) (frameId : Int) (timestamp : BitVec 32) :
    DecodedFramesHistory :=
  let newIndex := h.frameIdToIndex frameId
  -- Clears expired values from the ring.
  let buffer :=
    match h.lastFrameId with
    | none => h.buffer
    | some last =>
      let lastIndex := h.frameIdToIndex last
      if (h.windowSize : Int) ≤ frameId - last then fillFalse 0 h.windowSize h.buffer
      else if lastIndex < newIndex then fillFalse (lastIndex + 1) newIndex h.buffer
      else fillFalse 0 newIndex (fillFalse (lastIndex + 1) h.windowSize h.buffer)
  { h with
    lastDecodedFrame := some frameId
    lastDecodedFrameTimestamp := some timestamp
    buffer := Function.update buffer newIndex true
    lastFrameId := some frameId }

def wasDecoded (h : DecodedFramesHistory) (frameId : Int) : Bool :=
  match h.lastFrameId with
  | none => false
  | some last =>
    if frameId ≤ last - h.windowSize then false
    else if last < frameId then false
    else h.buffer (h.frameIdToIndex frameId)

def clear (h : DecodedFramesHistory) : DecodedFramesHistory :=
  { h with
    lastDecodedFrameTimestamp := none
    lastDecodedFrame := none
    buffer := fun _ => false
    lastFrameId := none }

/-! ## Indices -/

/-- The index of the id is its remainder, and the 64-bit arithmetic of the history does
not overflow. -/
def Regular (size : Nat) (n : Int) : Prop :=
  (0 ≤ n ∧ n < 2 ^ 63) ∨ (size ∣ 2 ^ 64 ∧ -2 ^ 62 ≤ n ∧ n < 2 ^ 62)

instance (size : Nat) (n : Int) : Decidable (Regular size n) := by
  unfold Regular
  infer_instance

variable {h : DecodedFramesHistory} {decoded : List Int} {n : Int}

lemma frameIdToIndex_eq (hn : Regular h.windowSize n) :
    (h.frameIdToIndex n : Int) = n % h.windowSize := by
  unfold frameIdToIndex
  have hpos : 0 ≤ n % 2 ^ 64 := Int.emod_nonneg _ (by decide)
  rw [Int.natCast_mod, Int.toNat_of_nonneg hpos]
  rcases hn with ⟨hge, hlt⟩ | ⟨hdvd, -⟩
  · rw [Int.emod_eq_of_lt hge (by omega)]
  · exact Int.emod_emod_of_dvd n (by exact_mod_cast hdvd)

lemma sub_emod_eq (size n d : Int) (hd : 0 ≤ d) (hlt : d < size) :
    (n - d) % size = if d ≤ n % size then n % size - d else n % size - d + size := by
  have hpos : 0 ≤ n % size := Int.emod_nonneg n (by omega)
  have hsmall : n % size < size := Int.emod_lt_of_pos n (by omega)
  rw [Int.sub_emod, Int.emod_eq_of_lt hd hlt]
  exact Numerics.sub_emod_of_lt (by omega) (by omega)

/-! ## Agreement with the decoded frames -/

/-- The history remembers the frames `decoded`, oldest first, as far as the window goes. -/
structure Agrees (h : DecodedFramesHistory) (decoded : List Int) : Prop where
  increasing : decoded.Pairwise (· < ·)
  regular : ∀ n ∈ decoded, Regular h.windowSize n
  lastFrameId : h.lastFrameId = decoded.getLast?
  lastDecoded : h.lastDecodedFrame = decoded.getLast?
  empty : decoded = [] → ∀ i, h.buffer i = false
  window : ∀ last ∈ decoded.getLast?, ∀ n, last - h.windowSize < n → n ≤ last →
    (h.buffer (n % h.windowSize).toNat = true ↔ n ∈ decoded)

lemma agrees_clear (h : DecodedFramesHistory) : h.clear.Agrees [] :=
  ⟨.nil, fun _ hn => absurd hn not_mem_nil, rfl, rfl, fun _ _ => rfl,
    fun _ hl => absurd hl nofun⟩

lemma Agrees.le_last (ha : h.Agrees decoded) {last : Int} (hlast : last ∈ decoded.getLast?)
    (hn : n ∈ decoded) : n ≤ last := by
  obtain ⟨init, rfl⟩ := getLast?_eq_some_iff.mp hlast
  rcases mem_append.mp hn with hn | hn
  · exact Int.le_of_lt ((pairwise_append.mp ha.increasing).2.2 n hn last mem_cons_self)
  · exact Int.le_of_eq (mem_singleton.mp hn)

lemma Agrees.wasDecoded_iff (ha : h.Agrees decoded) (hn : Regular h.windowSize n) :
    h.wasDecoded n = true ↔ n ∈ decoded ∧ ∀ last ∈ decoded.getLast?, last - h.windowSize < n := by
  unfold wasDecoded
  rw [ha.lastFrameId]
  cases hlast : decoded.getLast? with
  | none =>
    rw [getLast?_eq_none_iff.mp hlast]
    simp
  | some last =>
    have hindex : h.frameIdToIndex n = (n % h.windowSize).toNat := by
      rw [← frameIdToIndex_eq hn, Int.toNat_natCast]
    dsimp only
    split
    · next hold =>
      refine ⟨nofun, fun hmem => ?_⟩
      have := hmem.2 last rfl
      omega
    split
    · next hnew =>
      refine ⟨nofun, fun hmem => ?_⟩
      have := ha.le_last hlast hmem.1
      omega
    next hold hnew =>
    rw [hindex, ha.window last hlast n (by omega) (by omega)]
    refine ⟨fun hmem => ⟨hmem, ?_⟩, And.left⟩
    rintro _ ⟨⟩
    omega

lemma fillFalse_eq_true_iff {first last : Nat} {buffer : Nat → Bool} {i : Nat} :
    fillFalse first last buffer i = true ↔ ¬ (first ≤ i ∧ i < last) ∧ buffer i = true := by
  unfold fillFalse
  split <;> simp_all

lemma Agrees.cleared (ha : h.Agrees decoded) (hn : Regular h.windowSize n)
    (hnew : ∀ d ∈ decoded, d < n) {m : Int} (hlow : n - h.windowSize < m) (hlt : m < n) :
    (match h.lastFrameId with
      | none => h.buffer
      | some last =>
        if (h.windowSize : Int) ≤ n - last then fillFalse 0 h.windowSize h.buffer
        else if h.frameIdToIndex last < h.frameIdToIndex n then
          fillFalse (h.frameIdToIndex last + 1) (h.frameIdToIndex n) h.buffer
        else fillFalse 0 (h.frameIdToIndex n)
          (fillFalse (h.frameIdToIndex last + 1) h.windowSize h.buffer))
      (m % h.windowSize).toNat = true ↔ m ∈ decoded := by
  have hni := frameIdToIndex_eq hn
  have hbound : 0 ≤ n % (h.windowSize : Int) ∧ n % (h.windowSize : Int) < h.windowSize :=
    ⟨Int.emod_nonneg n (by omega), Int.emod_lt_of_pos n (by omega)⟩
  have hmi := sub_emod_eq h.windowSize n (n - m) (by omega) (by omega)
  rw [Int.sub_sub_self] at hmi
  rw [ha.lastFrameId]
  cases hlast : decoded.getLast? with
  | none =>
    have hnil := getLast?_eq_none_iff.mp hlast
    rw [hnil]
    dsimp only
    rw [ha.empty hnil]
    simp
  | some last =>
    have hle : ∀ d ∈ decoded, d ≤ last := fun d hd => ha.le_last hlast hd
    have hmem : last ∈ decoded := mem_of_getLast? hlast
    have hlast_lt : last < n := hnew last hmem
    have hli := frameIdToIndex_eq (ha.regular last hmem)
    dsimp only
    split
    · -- The whole ring has expired.
      refine ⟨fun htrue => ?_, fun hm => ?_⟩
      · rw [fillFalse_eq_true_iff] at htrue
        omega
      have := hle m hm
      omega
    next hjump =>
    have hli' := sub_emod_eq h.windowSize n (n - last) (by omega) (by omega)
    rw [Int.sub_sub_self] at hli'
    have hkept : m ≤ last → (h.buffer (m % h.windowSize).toNat = true ↔ m ∈ decoded) :=
      fun hm => ha.window last hlast m (by omega) hm
    have hgone : last < m → m ∉ decoded := fun hm hmem => by have := hle m hmem; omega
    -- The cleared indices are those of the ids after `last` and before `n`.
    rcases Int.lt_or_le last m with hm | hm
    · refine iff_of_false ?_ (hgone hm)
      split <;> simp only [fillFalse_eq_true_iff] <;> omega
    rw [← hkept hm]
    split <;> simp only [fillFalse_eq_true_iff] <;> constructor
    · exact And.right
    · exact fun htrue => ⟨by omega, htrue⟩
    · exact fun htrue => htrue.2.2
    · exact fun htrue => ⟨by omega, by omega, htrue⟩

lemma Agrees.insertDecoded (ha : h.Agrees decoded) (hn : Regular h.windowSize n)
    (hnew : ∀ d ∈ decoded, d < n) (timestamp : BitVec 32) :
    (h.insertDecoded n timestamp).Agrees (decoded ++ [n]) := by
  constructor
  case increasing =>
    rw [pairwise_append]
    refine ⟨ha.increasing, pairwise_singleton _ _, fun d hd m hm => ?_⟩
    rw [mem_singleton.mp hm]
    exact hnew d hd
  case regular =>
    exact forall_mem_append.mpr ⟨ha.regular, forall_mem_singleton.mpr hn⟩
  case lastFrameId => rw [getLast?_concat]; rfl
  case lastDecoded => rw [getLast?_concat]; rfl
  case empty => exact fun hemp => absurd hemp (by simp)
  case window =>
    intro last hlast m hlow hhigh
    rw [getLast?_concat] at hlast
    obtain rfl : n = last := Option.some.inj hlast
    change n - (h.windowSize : Int) < m at hlow
    have hni := frameIdToIndex_eq hn
    unfold DecodedFramesHistory.insertDecoded
    dsimp only
    rcases Int.lt_or_eq_of_le hhigh with hlt | rfl
    · have hmi := sub_emod_eq h.windowSize n (n - m) (by omega) (by omega)
      rw [Int.sub_sub_self] at hmi
      have hne : (m % (h.windowSize : Int)).toNat ≠ h.frameIdToIndex n := by
        split at hmi <;> omega
      rw [Function.update_of_ne hne, ha.cleared hn hnew hlow hlt, mem_append, mem_singleton]
      exact ⟨.inl, fun hmem => hmem.resolve_right (Int.ne_of_lt hlt)⟩
    · rw [← hni, Int.toNat_natCast, Function.update_self]
      simp

lemma Agrees.insertAll (frames : List (Int × BitVec 32)) : ∀ {h : DecodedFramesHistory}
    {decoded : List Int}, h.Agrees decoded → (decoded ++ frames.map Prod.fst).Pairwise (· < ·) →
      (∀ f ∈ frames, Regular h.windowSize f.1) →
      (Lib.run (fun h f => h.insertDecoded f.1 f.2) h frames).Agrees (decoded ++ frames.map Prod.fst) ∧
        (Lib.run (fun h f => h.insertDecoded f.1 f.2) h frames).windowSize = h.windowSize := by
  induction frames with
  | nil =>
    intro h decoded ha _ _
    exact ⟨by simpa using ha, rfl⟩
  | cons f frames ih =>
    intro h decoded ha hinc hreg
    obtain ⟨hf, hreg⟩ := forall_mem_cons.mp hreg
    have hnew : ∀ d ∈ decoded, d < f.1 := fun d hd =>
      (pairwise_append.mp hinc).2.2 d hd f.1 mem_cons_self
    have hsplit : decoded ++ (f :: frames).map Prod.fst = decoded ++ [f.1] ++ frames.map Prod.fst := by
      simp
    rw [hsplit] at hinc ⊢
    exact ih (ha.insertDecoded hf hnew f.2) hinc hreg

end DecodedFramesHistory

end WebRtc.VideoCoding
