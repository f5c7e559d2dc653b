import WebRtc.Dcsctp.Packet.Chunks

/-!
# dcSCTP — cleaning a SACK

What `ChunkValidators::Clean` makes of the gap-ack-blocks. The merge loop keeps the set
of offsets, but one-element blocks are filtered out before it, and a block right after
the cumulative ack is kept: `clean_sound_iff` says when neither matters.
-/

namespace WebRtc.Dcsctp

open List

def GapAckBlock.Has (b : GapAckBlock) (x : Nat) : Prop := b.start.toNat ≤ x ∧ x ≤ b.end_.toNat

namespace ChunkValidators

variable {m l : List GapAckBlock} {b : GapAckBlock}

lemma validateFrom_iff {p : BitVec 16} : validateFrom p l = true ↔
    (∀ b ∈ l, b.start ≤ b.end_ ∧ p.toNat + 1 < b.start.toNat) ∧
      l.Pairwise fun a b => a.end_.toNat + 1 < b.start.toNat := by
  induction l generalizing p with
  | nil => simp [validateFrom]
  | cons b l ih =>
    simp only [validateFrom, forall_mem_cons, pairwise_cons, BitVec.le_def]
    split_ifs with hend hstart
    · simp only [false_iff, BitVec.lt_def] at hend ⊢
      omega
    · simp only [false_iff]
      omega
    rw [ih]
    -- Past the head, a start above its end is above what came before the head too.
    rw [BitVec.lt_def] at hend
    constructor
    · rintro ⟨hl, hp⟩
      exact ⟨⟨by omega, fun c hc => ⟨(hl c hc).1, by have := (hl c hc).2; omega⟩⟩,
        fun c hc => (hl c hc).2, hp⟩
    · rintro ⟨⟨-, hl⟩, hb, hp⟩
      exact ⟨fun c hc => ⟨(hl c hc).1, hb c hc⟩, hp⟩

lemma validate_iff {sack : SackChunk} : validate sack = true ↔
    (∀ b ∈ sack.gapAckBlocks, b.start ≤ b.end_ ∧ 1 < b.start.toNat) ∧
      sack.gapAckBlocks.Pairwise fun a b => a.end_.toNat + 1 < b.start.toNat := by
  rw [validate, Bool.or_eq_true, validateFrom_iff, List.isEmpty_iff]
  exact or_iff_right_of_imp fun h => by simp [h]

/-- `m`, with its last block first, is what the blocks `l` have been merged to. -/
structure Merged (m l : List GapAckBlock) : Prop where
  ends : ∀ b ∈ m, b.start ≤ b.end_
  apart : m.Pairwise fun a b => b.end_.toNat + 1 < a.start.toNat
  covers : ∀ x, (∃ b ∈ m, b.Has x) ↔ ∃ b ∈ l, b.Has x

lemma Merged.mergeBlock (h : Merged m l) (hb : b.start ≤ b.end_)
    (hle : ∀ c ∈ m, c.start ≤ b.start) :
    Merged (mergeBlock m b) (b :: l) ∧ ∀ c ∈ ChunkValidators.mergeBlock m b, c.start ≤ b.start := by
  obtain ⟨hends, hapart, hcov⟩ := h
  cases m with
  | nil =>
    have hone : mergeBlock [] b = [b] := rfl
    rw [hone]
    exact ⟨⟨by simpa, by simp, fun x => by simp [← hcov]⟩, by simp⟩
  | cons last done =>
    have hlast := hends last mem_cons_self
    have hfirst := hle last mem_cons_self
    rw [BitVec.le_def] at hb hlast hfirst
    unfold mergeBlock
    dsimp only
    split_ifs with hnear
    · have hmax : (max last.end_ b.end_).toNat = max last.end_.toNat b.end_.toNat := by
        simp only [max_def, BitVec.le_def]
        split_ifs <;> rfl
      refine ⟨⟨?_, pairwise_cons.mpr (pairwise_cons.mp hapart), fun x => ?_⟩,
        forall_mem_cons.mpr (forall_mem_cons.mp hle)⟩
      · refine forall_mem_cons.mpr ⟨?_, (forall_mem_cons.mp hends).2⟩
        show last.start ≤ _
        rw [BitVec.le_def, hmax]
        omega
      -- The two blocks overlap or touch, so nothing between them is added.
      · rw [exists_mem_cons_iff, exists_mem_cons_iff, ← hcov, exists_mem_cons_iff, ← or_assoc]
        refine or_congr_left ?_
        simp only [GapAckBlock.Has, hmax]
        omega
    · refine ⟨⟨forall_mem_cons.mpr ⟨hb, hends⟩, pairwise_cons.mpr ⟨?_, hapart⟩, fun x => ?_⟩,
        forall_mem_cons.mpr ⟨le_rfl, hle⟩⟩
      · refine forall_mem_cons.mpr ⟨by omega, fun d hd => ?_⟩
        have := (pairwise_cons.mp hapart).1 d hd
        omega
      · rw [exists_mem_cons_iff, hcov, exists_mem_cons_iff]

lemma Merged.foldl (h : Merged m l) {s : List GapAckBlock} (hs : ∀ b ∈ s, b.start ≤ b.end_)
    (hsort : s.Pairwise fun a b => a.start ≤ b.start) (hle : ∀ c ∈ m, ∀ b ∈ s, c.start ≤ b.start) :
    Merged (s.foldl ChunkValidators.mergeBlock m) (s.reverse ++ l) := by
  induction s generalizing m l with
  | nil => exact h
  | cons b s ih =>
    obtain ⟨hb, hs⟩ := forall_mem_cons.mp hs
    obtain ⟨hbs, hsort⟩ := pairwise_cons.mp hsort
    obtain ⟨hm, hmb⟩ := h.mergeBlock hb fun c hc => hle c hc b mem_cons_self
    simpa using ih hm hs hsort fun c hc d hd => BitVec.le_trans (hmb c hc) (hbs d hd)

lemma clean_merged {sack : SackChunk} (h : ¬ validate sack = true) :
    ∃ m, clean sack = { sack with gapAckBlocks := m.reverse } ∧
      Merged m (sack.gapAckBlocks.filter fun b => decide (b.start < b.end_)) := by
  generalize hsane : sack.gapAckBlocks.filter (fun b => decide (b.start < b.end_)) = sane
  let sorted := sane.mergeSort fun a b => decide (a.start ≤ b.start)
  have hmem : ∀ b, b ∈ sorted ↔ b ∈ sane := fun b => mem_mergeSort
  have hmerged : Merged (sorted.foldl mergeBlock []) (sorted.reverse ++ []) := by
    refine Merged.foldl ⟨by simp, by simp, by simp⟩ (fun b hb => ?_) ?_ (by simp)
    · have := (hmem b).mp hb
      rw [← hsane, mem_filter, decide_eq_true_eq] at this
      exact BitVec.le_of_lt this.2
    have hsort : sorted.Pairwise fun a b => decide (a.start ≤ b.start) = true := pairwise_mergeSort
      (fun a b c => by simpa using BitVec.le_trans) (fun a b => by simpa using BitVec.le_total ..) sane
    simpa using hsort
  refine ⟨sorted.foldl mergeBlock [], ?_, hmerged.ends, hmerged.apart, fun x => ?_⟩
  · simp only [clean, if_neg h, hsane]
    split_ifs with hlen
    · -- With at most one block left, sorting and merging do nothing.
      obtain _ | ⟨b, _ | ⟨c, rest⟩⟩ := sane
      · simp [sorted]
      · simp [sorted, mergeBlock]
      · simp at hlen
    · rfl
  · rw [hmerged.covers]
    simp [hmem]

def CleansSoundly (sack : SackChunk) : Prop :=
  validate (clean sack) = true ∧
    (∀ x, 2 ≤ x →
      ((∃ b ∈ (clean sack).gapAckBlocks, b.Has x) ↔ ∃ b ∈ sack.gapAckBlocks, b.Has x)) ∧
    { clean sack with gapAckBlocks := sack.gapAckBlocks } = sack ∧
    (validate sack = true → clean sack = sack)

/-- **Cleaning.** The result is valid and covers the same offsets from 2 on just when the
SACK was valid, or no longer block starts below 2 and each one-element block lies in one. -/
theorem clean_sound_iff (sack : SackChunk) : CleansSoundly sack ↔ validate sack = true ∨
    (∀ b ∈ sack.gapAckBlocks, b.start < b.end_ → 2 ≤ b.start.toNat) ∧
      ∀ b ∈ sack.gapAckBlocks, b.start = b.end_ → 2 ≤ b.start.toNat →
        ∃ c ∈ sack.gapAckBlocks, c.start < c.end_ ∧ c.Has b.start.toNat := by
  by_cases h : validate sack = true
  · have hcln : clean sack = sack := if_pos h
    exact iff_of_true ⟨by rwa [hcln], by simp [hcln], by rw [hcln], fun _ => hcln⟩ (.inl h)
  obtain ⟨m, hcln, hm⟩ := clean_merged h
  have hcov : ∀ x, (∃ b ∈ m.reverse, b.Has x) ↔
      ∃ b ∈ sack.gapAckBlocks, b.start < b.end_ ∧ b.Has x := fun x => by
    simpa [and_assoc] using hm.covers x
  rw [CleansSoundly, hcln, validate_iff, or_iff_right h]
  constructor
  · rintro ⟨⟨hv, -⟩, hx, -⟩
    refine ⟨fun b hb hlt => ?_, fun b hb heq hpos => ?_⟩
    · obtain ⟨c, hc, hle, -⟩ := (hcov _).mpr ⟨b, hb, hlt, le_rfl, BitVec.le_of_lt hlt⟩
      exact (hv c hc).2.trans_le hle
    · exact (hcov _).mp ((hx _ hpos).mpr ⟨b, hb, le_rfl, (congrArg BitVec.toNat heq).le⟩)
  rintro ⟨hlong, hsingle⟩
  refine ⟨⟨fun b hb => ?_, pairwise_reverse.mpr hm.apart⟩, fun x hx => ?_, rfl, fun hv => absurd hv h⟩
  · have hend := hm.ends b (mem_reverse.mp hb)
    obtain ⟨c, hc, hlt, hle, -⟩ := (hcov _).mp ⟨b, hb, le_rfl, hend⟩
    exact ⟨hend, (hlong c hc hlt).trans hle⟩
  rw [hcov]
  refine ⟨fun ⟨b, hb, _, hhas⟩ => ⟨b, hb, hhas⟩, fun ⟨b, hb, hhas⟩ => ?_⟩
  by_cases hlt : b.start < b.end_
  · exact ⟨b, hb, hlt, hhas⟩
  -- The block has no other offset than `x`.
  obtain ⟨hlo, hhi⟩ := hhas
  rw [BitVec.lt_def] at hlt
  obtain rfl : b.start.toNat = x := by omega
  exact hsingle b hb (BitVec.eq_of_toNat_eq (by omega)) hx

/-- Two one-element blocks, and nothing is left of them. -/
theorem clean_drops_singles : ¬ CleansSoundly ⟨0, 0, [⟨4, 4⟩, ⟨2, 2⟩], Lib.OrdMap.empty⟩ := by
  rintro ⟨-, hx, -⟩
  obtain ⟨b, hb, -⟩ := (hx 2 le_rfl).mpr ⟨⟨2, 2⟩, by decide, by decide, by decide⟩
  have hnone : (clean ⟨0, 0, [⟨4, 4⟩, ⟨2, 2⟩], Lib.OrdMap.empty⟩).gapAckBlocks = [] := by decide
  rw [hnone] at hb
  simp at hb

end ChunkValidators

end WebRtc.Dcsctp
