import WebRtc.Lib.Run
import WebRtc.VideoCoding.UnwrappedRefFinder

/-!
# WebRTC — padding and the continuity of a stream

The finder keeps, for the newest group of pictures, the last number of its last frame advanced by
the padding behind it, and hands off the frame that starts right after. Two things can go wrong: a
padding packet far ahead of the key of its group becomes the key itself, and padding is forgotten
once padding more than 100 numbers newer comes in. Apart from these, and from inputs in which a
number is used twice, the finder is right, by the invariant `Tracked`.

It speaks of the newest group and of a *barrier*, the key frame that the group began with. Padding
never has the number of a frame, so an older group that is advanced over padding stops in front of
the barrier.
-/

namespace WebRtc.VideoCoding

open Numerics Lib WebRtc.VideoCoding.Numbering CompList List Gop Sublist

def SeqNumFrame.Covers (f : SeqNumFrame Int) (n : Int) : Prop :=
  f.firstSeqNum ≤ n ∧ n ≤ f.lastSeqNum

structure History where
  padding : List Int := []
  frames : List (SeqNumFrame Int) := []
  -- The last sequence numbers of the frames.
  handedOff : List Int := []
deriving DecidableEq

namespace History

def Used (h : History) (n : Int) : Prop := n ∈ h.padding ∨ ∃ f ∈ h.frames, f.Covers n

structure Orderly (h : History) : Prop where
  ranges : ∀ f ∈ h.frames, f.firstSeqNum ≤ f.lastSeqNum
  disjoint : ∀ f ∈ h.frames, ∀ f' ∈ h.frames, f ≠ f' → ∀ n, f.Covers n → ¬ f'.Covers n
  padding : ∀ f ∈ h.frames, ∀ n ∈ h.padding, ¬ f.Covers n

def handing (h : History) (res : List (HandedOff Int)) : History :=
  { h with handedOff := h.handedOff ++ res.map fun r => r.frame.lastSeqNum }

end History

/-- The newest group is where the stream is, and the stash has the padding that
is still to come. `k` is the barrier, the key frame that the group began with. -/
structure Tracking (h : History) (k : SeqNumFrame Int) (older : List (Gop Int)) (newest : Gop Int)
    (stash : List Int) : Prop where
  sorted : (older ++ [newest]).Pairwise fun a b => a.key < b.key
  stashSorted : stash.Pairwise (· < ·)
  stashed : ∀ n ∈ stash, n ∈ h.padding
  barrier : k ∈ h.frames ∧ k.frameType = .key
  atKey : k.lastSeqNum ≤ newest.key
  atLast : k.lastSeqNum ≤ newest.lastPictureId
  below : ∀ e ∈ older, e.lastWithPadding < k.lastSeqNum
  covered : ∀ n, k.lastSeqNum < n → n ≤ newest.lastWithPadding → h.Used n
  key_le : newest.key ≤ newest.lastWithPadding
  last_le : newest.lastPictureId ≤ newest.lastWithPadding
  between : ∀ n, newest.lastPictureId < n → n ≤ newest.lastWithPadding → n ∈ h.padding
  pending : ∀ n ∈ h.padding, newest.lastWithPadding < n → n ∈ stash
  handed : newest.lastPictureId ∈ h.handedOff ∧ ∀ n ∈ h.handedOff, n ≤ newest.lastPictureId
  span : ∀ e ∈ older, newest.key - 10000 ≤ e.key

structure Tracked (h : History) (k : SeqNumFrame Int) (older : List (Gop Int)) (newest : Gop Int)
    (stash : List Int) : Prop extends Tracking h k older newest stash where
  stopped : newest.lastWithPadding + 1 ∉ stash

namespace GopTracker

/-- The invariant of the groups and the padding. Before the first key frame
there is no group, and all padding is waiting. -/
def Grouped (h : History) (t : GopTracker Int) : Prop :=
  (t.lastSeqNumGop = [] ∧ h.handedOff = [] ∧ t.stashedPadding.Pairwise (· < ·) ∧
      ∀ n, n ∈ t.stashedPadding ↔ n ∈ h.padding) ∨
    ∃ k older newest, t.lastSeqNumGop = older ++ [newest] ∧
      Tracked h k older newest t.stashedPadding

structure Tracks (h : History) (t : GopTracker Int) : Prop where
  groups : t.Grouped h
  frames : ∀ f ∈ t.stashedFrames, f ∈ h.frames ∧ f.frameType = .delta

/-! ## Advancing over padding -/

lemma unwrapped_before_eq : unwrapped.before = ltOf Int := rfl

lemma absorb_spec (l : List Int) :
    ∀ last : Int, l.Pairwise (· < ·) → (∀ n ∈ l, last < n) →
      last ≤ (absorb unwrapped last l).1 ∧
      (∀ n, last < n → n ≤ (absorb unwrapped last l).1 → n ∈ l) ∧
      (absorb unwrapped last l).2.Sublist l ∧
      (∀ n ∈ l, n ∈ (absorb unwrapped last l).2 ∨ n ≤ (absorb unwrapped last l).1) ∧
      ∀ n ∈ (absorb unwrapped last l).2, (absorb unwrapped last l).1 + 1 < n := by
  induction l with
  | nil =>
    intro last _ _
    simp only [absorb]
    refine ⟨le_rfl, ?_, refl _, by simp, by simp⟩
    intro n hlo hhi
    omega
  | cons p ps ih =>
    intro last hsort habv
    rw [pairwise_cons] at hsort
    rw [absorb, unwrapped_plus]
    by_cases hp : p = last + 1
    · rw [if_pos hp]
      obtain ⟨hle, hmem, hsub, hsplit, hrest⟩ := ih p hsort.2 hsort.1
      refine ⟨by omega, ?_, hsub.cons _, ?_, hrest⟩
      · intro n hlo hhi
        by_cases hn : n = p
        · exact hn ▸ mem_cons_self ..
        · exact mem_cons_of_mem _ (hmem n (by omega) hhi)
      exact forall_mem_cons.mpr ⟨.inr hle, hsplit⟩
    rw [if_neg hp]
    have hgap : last + 1 < p := by
      have := habv p mem_cons_self
      omega
    refine ⟨le_rfl, ?_, refl _, fun n hn => .inl hn, ?_⟩
    · intro n hlo hhi
      omega
    exact forall_mem_cons.mpr ⟨hgap, fun n hn => hgap.trans (hsort.1 n hn)⟩

/-- What advancing a group does: it takes the padding up to its new number out
of the stash, nothing else, and stops where there is no padding. -/
structure Advances (g g' : Gop Int) (stash stash' : List Int) : Prop where
  key : g'.key = g.key
  last : g'.lastPictureId = g.lastPictureId
  le : g.lastWithPadding ≤ g'.lastWithPadding
  taken : ∀ n, g.lastWithPadding < n → n ≤ g'.lastWithPadding → n ∈ stash
  sorted : stash'.Pairwise (· < ·)
  subset : ∀ n ∈ stash', n ∈ stash
  kept : ∀ n ∈ stash, n ∈ stash' ∨ n ≤ g'.lastWithPadding
  stopped : g'.lastWithPadding + 1 ∉ stash'

lemma advance_spec (g : Gop Int) {stash : List Int} (hsort : stash.Pairwise (· < ·)) :
    Advances g (advance unwrapped g stash).1 stash (advance unwrapped g stash).2 := by
  have hmap : stash.Pairwise fun a b => id a < id b := hsort
  have hsplit : below unwrapped.before id (g.lastWithPadding + 1) stash ++
      fromLower unwrapped.before id (g.lastWithPadding + 1) stash = stash :=
    below_append_fromLower
  have hbel : ∀ n ∈ below unwrapped.before id (g.lastWithPadding + 1) stash,
      n ≤ g.lastWithPadding := by
    intro n hn
    have hlt : id n < g.lastWithPadding + 1 := key_lt_of_mem_below hn
    exact Int.lt_add_one_iff.mp hlt
  have habv : ∀ n ∈ fromLower unwrapped.before id (g.lastWithPadding + 1) stash,
      g.lastWithPadding < n :=
    fun n hn => le_key_of_mem_fromLower hmap hn
  have hpts := hsort
  rw [← hsplit, pairwise_append] at hpts
  obtain ⟨hle, hmem, hsub, hkept, hrest⟩ :=
    absorb_spec _ g.lastWithPadding hpts.2.1 habv
  have hadv : advance unwrapped g stash =
      ({ g with lastWithPadding := (absorb unwrapped g.lastWithPadding
        (fromLower unwrapped.before id (g.lastWithPadding + 1) stash)).1 },
        below unwrapped.before id (g.lastWithPadding + 1) stash ++
          (absorb unwrapped g.lastWithPadding
            (fromLower unwrapped.before id (g.lastWithPadding + 1) stash)).2) := rfl
  rw [hadv]
  generalize absorb unwrapped g.lastWithPadding
    (fromLower unwrapped.before id (g.lastWithPadding + 1) stash) = r
    at hle hmem hsub hkept hrest
  refine ⟨rfl, rfl, hle, ?_, ?_, ?_, ?_, ?_⟩
  · intro n hlo hhi
    exact mem_of_mem_fromLower (hmem n hlo hhi)
  · rw [pairwise_append]
    exact ⟨hpts.1, hpts.2.1.sublist hsub, fun a ha b hb => hpts.2.2 a ha b (hsub.subset hb)⟩
  · exact forall_mem_append.mpr
      ⟨fun _ hn => mem_of_mem_below hn, fun _ hn => mem_of_mem_fromLower (hsub.subset hn)⟩
  · intro n hn
    rw [← hsplit] at hn
    rcases mem_append.mp hn with hn | hn
    · exact .inl (mem_append_left _ hn)
    rcases hkept n hn with hn | hn
    · exact .inl (mem_append_right _ hn)
    · exact .inr hn
  intro hn
  rcases mem_append.mp hn with hn | hn
  · have := hbel _ hn
    dsimp only at this hle
    omega
  have := hrest _ hn
  dsimp only at this
  omega

/-! ## The groups that a number belongs to -/

section Select

variable {older : List (Gop Int)} {newest : Gop Int} {n : Int}

lemma key_le_of_sorted (h : (older ++ [newest]).Pairwise fun a b => a.key < b.key)
    (hn : newest.key ≤ n) : ∀ g ∈ older ++ [newest], g.key ≤ n := by
  rw [pairwise_append] at h
  refine forall_mem_append.mpr ⟨fun g hg => ?_, forall_mem_singleton.mpr hn⟩
  exact (h.2.2 g hg newest (mem_singleton.mpr rfl)).le.trans hn

lemma update_newest {t : GopTracker Int} (ht : t.lastSeqNumGop = older ++ [newest])
    (hsort : (older ++ [newest]).Pairwise fun a b => a.key < b.key) (hn : newest.key ≤ n) :
    updateLastPictureIdWithPadding unwrapped n t =
      { t with
        stashedPadding := (advance unwrapped newest t.stashedPadding).2
        lastSeqNumGop :=
          if 10000 < (n - newest.key).toNat then
            [{ (advance unwrapped newest t.stashedPadding).1 with key := n }]
          else older ++ [(advance unwrapped newest t.stashedPadding).1] } := by
  have hle := key_le_of_sorted hsort hn
  unfold updateLastPictureIdWithPadding
  rw [ht, unwrapped_before_eq, upTo_of_forall_le hle, fromUpper_of_forall_le hle]
  simp only [getLast?_append, getLast?_singleton, Option.some_or, dropLast_concat,
    unwrapped_forwardDiff]
  rfl

/-- The groups in front of the newest after one of them has been changed,
without a change of its key. -/
def Edits (older older' : List (Gop Int)) (changed : Gop Int → Prop) : Prop :=
  older'.map key = older.map key ∧ ∀ e ∈ older', e ∈ older ∨ changed e

lemma Edits.sorted {older' : List (Gop Int)} {changed : Gop Int → Prop}
    (h : Edits older older' changed)
    (hsort : (older ++ [newest]).Pairwise fun a b => a.key < b.key) :
    (older' ++ [newest]).Pairwise fun a b => a.key < b.key := by
  have hkeys : (older' ++ [newest]).map key = (older ++ [newest]).map key := by
    rw [map_append, map_append, h.1]
  have hmap : ((older ++ [newest]).map key).Pairwise (· < ·) := pairwise_map.mpr hsort
  rw [← hkeys] at hmap
  exact pairwise_map.mp hmap

lemma edits_replace {g g' : Gop Int}
    (hlast : (upTo unwrapped.before key n older).getLast? = some g) (hkey : g'.key = g.key) :
    Edits older ((upTo unwrapped.before key n older).dropLast ++
      g' :: fromUpper unwrapped.before key n older) (· = g') := by
  have hsplit : upTo unwrapped.before key n older ++
      fromUpper unwrapped.before key n older = older := upTo_append_fromUpper
  have hfr := dropLast_append_getLast? g hlast
  constructor
  · conv_rhs => rw [← hsplit, ← hfr]
    simp [hkey]
  · exact fun e he => (mem_of_mem_replace he).symm

lemma update_older {t : GopTracker Int} (ht : t.lastSeqNumGop = older ++ [newest])
    (hspan : ∀ e ∈ older, newest.key - 10000 ≤ e.key) (hn : n < newest.key) :
    updateLastPictureIdWithPadding unwrapped n t = t ∨
      ∃ e ∈ older, ∃ older', Edits older older' (· = (advance unwrapped e t.stashedPadding).1) ∧
        updateLastPictureIdWithPadding unwrapped n t =
          { t with
            stashedPadding := (advance unwrapped e t.stashedPadding).2
            lastSeqNumGop := older' ++ [newest] } := by
  unfold updateLastPictureIdWithPadding
  rw [ht, unwrapped_before_eq, upTo_append_singleton hn,
    fromUpper_append_singleton hn, ← unwrapped_before_eq]
  dsimp only
  cases hlast : (upTo unwrapped.before key n older).getLast? with
  | none => exact .inl rfl
  | some e =>
    have he := (getLast?_upTo_key_le hlast).1
    have hnear : ¬ 10000 < (n - e.key).toNat := by
      have := hspan e he
      omega
    refine .inr ⟨e, he, _, edits_replace hlast rfl, ?_⟩
    dsimp only
    have hfar : ¬ 10000 < unwrapped.forwardDiff (advance unwrapped e t.stashedPadding).1.key n :=
      hnear
    rw [if_neg hfar]
    simp

end Select

end GopTracker

/-! ## What keeps the invariant -/

section Invariant

open GopTracker

variable {h : History} {k : SeqNumFrame Int} {older : List (Gop Int)} {newest : Gop Int} {n : Int}
  {stash stash' : List Int}

lemma Tracking.advance {newest' : Gop Int} (ht : Tracking h k older newest stash)
    (ha : Advances newest newest' stash stash') : Tracked h k older newest' stash' := by
  have hkey := ha.key
  have hlast := ha.last
  have hle := ha.le
  have htk : ∀ n, newest.lastWithPadding < n → n ≤ newest'.lastWithPadding → n ∈ h.padding :=
    fun n hlo hhi => ht.stashed n (ha.taken n hlo hhi)
  refine ⟨⟨?_, ha.sorted, fun n hn => ht.stashed n (ha.subset n hn), ht.barrier, ?_, ?_, ht.below,
    ?_, ?_, ?_, ?_, ?_, ?_, ?_⟩, ha.stopped⟩
  · have hkeys : (older ++ [newest']).map key = (older ++ [newest]).map key := by
      simp [hkey]
    have hsort : ((older ++ [newest]).map key).Pairwise (· < ·) :=
      pairwise_map.mpr ht.sorted
    rw [← hkeys] at hsort
    exact pairwise_map.mp hsort
  · exact hkey ▸ ht.atKey
  · exact hlast ▸ ht.atLast
  · intro n hlo hhi
    by_cases hn : n ≤ newest.lastWithPadding
    · exact ht.covered n hlo hn
    · exact .inl (htk n (by omega) hhi)
  · rw [hkey]
    exact ht.key_le.trans hle
  · rw [hlast]
    exact ht.last_le.trans hle
  · intro n hlo hhi
    rw [hlast] at hlo
    by_cases hn : n ≤ newest.lastWithPadding
    · exact ht.between n hlo hn
    · exact htk n (by omega) hhi
  · intro n hn hlt
    rcases ha.kept n (ht.pending n hn (by omega)) with hmem | hmem
    · exact hmem
    · omega
  · rw [hlast]
    exact ht.handed
  · rw [hkey]
    exact ht.span

lemma Tracked.rekey (ht : Tracked h k older newest stash) (hlo : newest.key ≤ n)
    (hhi : n ≤ newest.lastWithPadding) : Tracked h k [] { newest with key := n } stash where
  toTracking :=
    { ht.toTracking with
      sorted := pairwise_singleton _ _
      atKey := ht.atKey.trans hlo
      below := by simp
      key_le := hhi
      span := by simp }
  stopped := ht.stopped

variable {older' : List (Gop Int)}

lemma Tracked.sublist (ht : Tracked h k older newest stash)
    (hsub : older'.Sublist older) : Tracked h k older' newest stash where
  toTracking :=
    { ht.toTracking with
      sorted := ht.sorted.sublist (hsub.append (refl _))
      below := fun e he => ht.below e (hsub.subset he)
      span := fun e he => ht.span e (hsub.subset he) }
  stopped := ht.stopped

/-- Older groups may be changed as long as they stay below the barrier, and the
stash may lose what the newest group does not wait for. -/
lemma Tracked.edit {changed : Gop Int → Prop}
    (ht : Tracked h k older newest stash) (hed : Edits older older' changed)
    (hlow : ∀ e, changed e → e.lastWithPadding < k.lastSeqNum)
    (hsort : stash'.Pairwise (· < ·)) (hsub : ∀ n ∈ stash', n ∈ stash)
    (hkept : ∀ n ∈ stash, newest.lastWithPadding < n → n ∈ stash') :
    Tracked h k older' newest stash' where
  toTracking :=
    { ht.toTracking with
      sorted := hed.sorted ht.sorted
      stashSorted := hsort
      stashed := fun n hn => ht.stashed n (hsub n hn)
      below := by
        intro e he
        rcases hed.2 e he with he | he
        · exact ht.below e he
        · exact hlow e he
      pending := fun n hn hlt => hkept n (ht.pending n hn hlt) hlt
      span := by
        intro e he
        have hkey : e.key ∈ older.map key := hed.1 ▸ mem_map_of_mem he
        obtain ⟨e', he', heq⟩ := mem_map.mp hkey
        rw [← heq]
        exact ht.span e' he' }
  stopped := fun hn => ht.stopped (hsub _ hn)

lemma Tracked.advance_older {e e' : Gop Int} (hord : h.Orderly)
    (ht : Tracked h k older newest stash) (he : e ∈ older) (hed : Edits older older' (· = e'))
    (ha : Advances e e' stash stash') : Tracked h k older' newest stash' := by
  have hbel : e'.lastWithPadding < k.lastSeqNum := by
    by_contra hge
    have hmem := ht.stashed _ (ha.taken k.lastSeqNum (ht.below e he) (by omega))
    exact hord.padding k ht.barrier.1 _ hmem ⟨hord.ranges k ht.barrier.1, le_rfl⟩
  refine ht.edit hed ?_ ha.sorted ha.subset ?_
  · rintro _ rfl
    exact hbel
  intro n hn hlt
  have := ht.last_le
  have := ht.atLast
  rcases ha.kept n hn with hmem | hmem
  · exact hmem
  · omega

lemma Tracked.handOlder (ht : Tracked h k older newest stash) (hn : n ≤ newest.lastPictureId) :
    Tracked { h with handedOff := h.handedOff ++ [n] } k older newest stash where
  toTracking :=
    { ht.toTracking with
      handed := by
        refine ⟨mem_append_left _ ht.handed.1, ?_⟩
        exact forall_mem_append.mpr ⟨ht.handed.2, forall_mem_singleton.mpr hn⟩ }
  stopped := ht.stopped

lemma Tracked.mono (ht : Tracked h k older newest stash) (f : SeqNumFrame Int) :
    Tracked { h with frames := f :: h.frames } k older newest stash where
  toTracking :=
    { ht.toTracking with
      barrier := ⟨mem_cons_of_mem _ ht.barrier.1, ht.barrier.2⟩
      covered := fun n hlo hhi => (ht.covered n hlo hhi).imp_right
        fun ⟨f', hf', hn⟩ => ⟨f', mem_cons_of_mem _ hf', hn⟩ }
  stopped := ht.stopped

end Invariant

namespace GopTracker

variable {h : History} {k : SeqNumFrame Int} {older : List (Gop Int)} {newest : Gop Int} {n : Int}

/-- `UpdateLastPictureIdWithPadding` for a number that the newest group either
reaches or is not far behind of. -/
lemma update_newest_tracks {t : GopTracker Int} (ht : t.lastSeqNumGop = older ++ [newest])
    (h' : Tracking h k older newest t.stashedPadding) (hn : newest.key ≤ n)
    (hreach : n ≤ newest.key + 10000 ∨
      n ≤ (advance unwrapped newest t.stashedPadding).1.lastWithPadding) :
    ∃ older' newest', (updateLastPictureIdWithPadding unwrapped n t).lastSeqNumGop
        = older' ++ [newest'] ∧
      Tracked h k older' newest' (updateLastPictureIdWithPadding unwrapped n t).stashedPadding := by
  have hadv := h'.advance (advance_spec newest h'.stashSorted)
  rw [update_newest ht h'.sorted hn]
  by_cases hfar : 10000 < (n - newest.key).toNat
  · rw [if_pos hfar]
    have hhi : n ≤ (advance unwrapped newest t.stashedPadding).1.lastWithPadding := by omega
    exact ⟨[], _, rfl, hadv.rekey hn hhi⟩
  · rw [if_neg hfar]
    exact ⟨older, _, rfl, hadv⟩

lemma update_older_tracks {t : GopTracker Int} (hord : h.Orderly)
    (ht : t.lastSeqNumGop = older ++ [newest]) (h' : Tracked h k older newest t.stashedPadding)
    (hn : n < newest.key) :
    ∃ older', (updateLastPictureIdWithPadding unwrapped n t).lastSeqNumGop = older' ++ [newest] ∧
      Tracked h k older' newest (updateLastPictureIdWithPadding unwrapped n t).stashedPadding := by
  rcases update_older ht h'.span hn with hsame | ⟨e, he, older', hed, heq⟩
  · rw [hsame]
    exact ⟨older, ht, h'⟩
  rw [heq]
  exact ⟨older', rfl, h'.advance_older hord he hed (advance_spec e h'.stashSorted)⟩

/-! ## One attempt at a frame -/

/-- Cleaning up keeps the newest group, and when that is not old itself, only
groups that are not old. -/
lemma cleanGops_spec (hsort : (older ++ [newest]).Pairwise fun a b => a.key < b.key) :
    ∃ older', cleanGops unwrapped n (older ++ [newest]) = older' ++ [newest] ∧
      older'.Sublist older ∧ (n - 100 ≤ newest.key → ∀ e ∈ older', n - 100 ≤ e.key) := by
  have hlen : (older ++ [newest]).length - 1 = older.length := by simp
  have hsplit : below unwrapped.before key (n + -100) (older ++ [newest]) ++
      fromLower unwrapped.before key (n + -100) (older ++ [newest])
        = older ++ [newest] := below_append_fromLower
  refine ⟨older.drop (min (below unwrapped.before key (n + -100)
    (older ++ [newest])).length older.length), ?_, drop_sublist _ _, ?_⟩
  · rw [cleanGops, hlen, drop_append_of_le_length (min_le_right _ _)]
    rfl
  intro hnewest e he
  have hbel : (below unwrapped.before key (n + -100)
      (older ++ [newest])).length ≤ older.length := by
    by_contra hgt
    -- Otherwise the scan would have passed the newest group.
    have hlength := congrArg length hsplit
    rw [length_append, length_append, length_singleton] at hlength
    have hnil : fromLower unwrapped.before key (n + -100) (older ++ [newest]) = [] :=
      length_eq_zero_iff.mp (by omega)
    have hmem : newest ∈ below unwrapped.before key (n + -100)
        (older ++ [newest]) := by
      rw [hnil, append_nil] at hsplit
      have : newest ∈ older ++ [newest] := by simp
      rw [← hsplit] at this
      exact this
    have : newest.key < n + -100 := key_lt_of_mem_below hmem
    omega
  rw [min_eq_left hbel] at he
  have hdrop : e ∈ fromLower unwrapped.before key (n + -100)
      (older ++ [newest]) := by
    have heq := congrArg (drop (below unwrapped.before key
      (n + -100) (older ++ [newest])).length) hsplit
    rw [drop_left, drop_append_of_le_length hbel] at heq
    rw [heq]
    exact mem_append_left _ he
  have := le_key_of_mem_fromLower hsort hdrop
  omega

def Attempted (h : History) (f : SeqNumFrame Int)
    (r : FrameDecision × Option Int × GopTracker Int) : Prop :=
  (r.1 = .handOff ↔ r.2.1.isSome) ∧
    r.2.2.Grouped
      (if r.1 = .handOff then { h with handedOff := h.handedOff ++ [f.lastSeqNum] } else h)

variable {t : GopTracker Int} {f : SeqNumFrame Int}

@[simp] lemma takeFrame_key (g : Gop Int) : (takeFrame unwrapped f g).key = g.key := by
  unfold takeFrame
  split <;> rfl

/-- A frame that belongs to the newest group and is a key frame or starts where
the group ends is handed off, and the group goes on from its end. -/
lemma handOff_newest (hent : enterFrame unwrapped f t.lastSeqNumGop ≠ [])
    (hcln : cleanGops unwrapped f.lastSeqNum (enterFrame unwrapped f t.lastSeqNumGop)
      = older ++ [newest])
    (hlast : newest.key ≤ f.lastSeqNum)
    (hnext : f.frameType = .delta → f.firstSeqNum = newest.lastWithPadding + 1)
    (h' : Tracking { h with handedOff := h.handedOff ++ [f.lastSeqNum] } k older
      (takeFrame unwrapped f newest) t.stashedPadding)
    (hend : f.lastSeqNum ≤ (takeFrame unwrapped f newest).lastWithPadding) :
    (manageFrameInternal unwrapped f t).1 = .handOff ∧
      Attempted h f (manageFrameInternal unwrapped f t) := by
  have hle : ∀ g ∈ older ++ [newest], g.key ≤ f.lastSeqNum := by
    have := key_le_of_sorted h'.sorted (n := f.lastSeqNum) (by simpa using hlast)
    exact forall_mem_append.mpr ⟨(forall_mem_append.mp this).1, forall_mem_singleton.mpr hlast⟩
  have hcont : ¬ (f.frameType = .delta ∧
      unwrapped.plus f.firstSeqNum (-1) ≠ newest.lastWithPadding) := by
    rintro ⟨hdelta, hne⟩
    have := hnext hdelta
    rw [unwrapped_plus] at hne
    omega
  have hintern : manageFrameInternal unwrapped f t = (.handOff, some newest.lastPictureId,
      updateLastPictureIdWithPadding unwrapped f.lastSeqNum
        { t with lastSeqNumGop := older ++ [takeFrame unwrapped f newest] }) := by
    unfold manageFrameInternal
    rw [if_neg hent, hcln]
    dsimp only
    rw [unwrapped_before_eq, upTo_of_forall_le hle, fromUpper_of_forall_le hle]
    simp only [getLast?_append, getLast?_singleton, Option.some_or, dropLast_concat]
    rw [if_neg hcont]
  have hgo := (advance_spec (takeFrame unwrapped f newest) h'.stashSorted).le
  have hstart : { t with lastSeqNumGop := older ++ [takeFrame unwrapped f newest] }.lastSeqNumGop
      = older ++ [takeFrame unwrapped f newest] := rfl
  obtain ⟨older', newest', hgops, htrk⟩ := update_newest_tracks hstart h'
    (n := f.lastSeqNum) (by simpa using hlast) (.inr (hend.trans hgo))
  rw [hintern]
  exact ⟨rfl, by simp, .inr ⟨k, older', newest', hgops, by simpa using htrk⟩⟩

/-- A frame that belongs to an older group, or to none, leaves the newest one
alone. -/
lemma attempt_older (hord : h.Orderly) (hent : enterFrame unwrapped f t.lastSeqNumGop ≠ [])
    (hcln : cleanGops unwrapped f.lastSeqNum (enterFrame unwrapped f t.lastSeqNumGop)
      = older ++ [newest])
    (h' : Tracked h k older newest t.stashedPadding) (hlast : f.lastSeqNum < newest.key)
    (hlow : ∀ e ∈ older, (f.frameType = .delta → f.firstSeqNum = e.lastWithPadding + 1) →
      f.lastSeqNum < k.lastSeqNum) :
    Attempted h f (manageFrameInternal unwrapped f t) := by
  unfold manageFrameInternal
  rw [if_neg hent, hcln]
  dsimp only
  rw [unwrapped_before_eq, upTo_append_singleton hlast,
    fromUpper_append_singleton hlast, ← unwrapped_before_eq]
  cases hgroup : (upTo unwrapped.before key f.lastSeqNum older).getLast? with
  | none => exact ⟨by simp, .inr ⟨k, older, newest, rfl, by simpa using h'⟩⟩
  | some e =>
    have he := (getLast?_upTo_key_le hgroup).1
    dsimp only
    by_cases hgap : f.frameType = .delta ∧ unwrapped.plus f.firstSeqNum (-1) ≠ e.lastWithPadding
    · rw [if_pos hgap]
      exact ⟨by simp, .inr ⟨k, older, newest, rfl, by simpa using h'⟩⟩
    rw [if_neg hgap]
    have hnext : f.frameType = .delta → f.firstSeqNum = e.lastWithPadding + 1 := by
      intro hdelta
      by_contra hne
      refine hgap ⟨hdelta, ?_⟩
      rw [unwrapped_plus]
      omega
    have hbel := hlow e he hnext
    have hed := edits_replace hgroup (takeFrame_key (f := f) e)
    have hedited := h'.edit hed
      (by
        rintro _ rfl
        unfold takeFrame
        split
        · exact hbel
        · exact h'.below e he)
      h'.stashSorted (fun n hn => hn) (fun n hn _ => hn)
    have hhand := hedited.handOlder (hbel.le.trans h'.atLast)
    have hord' : ({ h with handedOff := h.handedOff ++ [f.lastSeqNum] } : History).Orderly :=
      ⟨hord.ranges, hord.disjoint, hord.padding⟩
    obtain ⟨older', hgops, htrk⟩ := update_older_tracks hord'
      (t := { t with lastSeqNumGop := _ }) (append_assoc ..).symm hhand hlast
    exact ⟨by simp, .inr ⟨k, older', newest, hgops, by simpa using htrk⟩⟩

lemma tracking_takeFrame (hord : h.Orderly) (hf : f ∈ h.frames) {stash : List Int}
    (h' : Tracked h k older newest stash) (hlast : newest.key ≤ f.lastSeqNum)
    (hnext : f.firstSeqNum = newest.lastWithPadding + 1) :
    Tracking { h with handedOff := h.handedOff ++ [f.lastSeqNum] } k older
        (takeFrame unwrapped f newest) stash ∧
      f.lastSeqNum ≤ (takeFrame unwrapped f newest).lastWithPadding := by
  have hrange := hord.ranges f hf
  have hle := h'.last_le
  have htake : takeFrame unwrapped f newest = ⟨newest.key, f.lastSeqNum, f.lastSeqNum⟩ := by
    unfold takeFrame
    rw [if_pos (by simp; omega)]
  rw [htake]
  refine ⟨?_, le_rfl⟩
  have hsort : (older ++ [(⟨newest.key, f.lastSeqNum, f.lastSeqNum⟩ : Gop Int)]).Pairwise
      fun a b => a.key < b.key := by
    have := h'.sorted
    rw [pairwise_append] at this ⊢
    refine ⟨this.1, pairwise_singleton _ _, ?_⟩
    intro a ha b hb
    rw [mem_singleton.mp hb]
    exact this.2.2 a ha newest (mem_singleton.mpr rfl)
  exact
    { h'.toTracking with
      sorted := hsort
      atLast := by
        have := h'.atLast
        dsimp only
        omega
      covered := by
        intro n hlo hhi
        by_cases hn : n ≤ newest.lastWithPadding
        · exact h'.covered n hlo hn
        · exact .inr ⟨f, hf, by omega, hhi⟩
      key_le := hlast
      last_le := le_rfl
      between := by
        intro n hlo hhi
        dsimp only at hlo hhi
        omega
      pending := by
        intro n hn hlt
        dsimp only at hlt
        exact h'.pending n hn (by omega)
      handed := by
        refine ⟨mem_append_right _ (mem_singleton.mpr rfl), ?_⟩
        intro n hn
        rcases mem_append.mp hn with hn | hn
        · have := h'.handed.2 n hn
          dsimp only
          omega
        · exact (mem_singleton.mp hn).le }

lemma attempt_delta (hord : h.Orderly) (hf : f ∈ h.frames) (hdelta : f.frameType = .delta)
    (hg : t.Grouped h) : Attempted h f (manageFrameInternal unwrapped f t) := by
  have henter : enterFrame unwrapped f t.lastSeqNumGop = t.lastSeqNumGop := by
    rw [enterFrame, hdelta]
  rcases hg with ⟨hnil, hrest⟩ | ⟨k, older, newest, hgops, h'⟩
  · unfold manageFrameInternal
    rw [if_pos (by rw [henter, hnil])]
    exact ⟨by simp, .inl ⟨hnil, by simpa using hrest⟩⟩
  have hne : enterFrame unwrapped f t.lastSeqNumGop ≠ [] := by
    rw [henter, hgops]
    simp
  obtain ⟨older', hcln, hsub, -⟩ := cleanGops_spec (n := f.lastSeqNum) h'.sorted
  have h'' := h'.sublist hsub
  rw [← hgops, ← henter] at hcln
  by_cases hlast : newest.key ≤ f.lastSeqNum
  · by_cases hnext : f.firstSeqNum = newest.lastWithPadding + 1
    · obtain ⟨htk, hend⟩ := tracking_takeFrame hord hf h'' hlast hnext
      exact (handOff_newest hne hcln hlast (fun _ => hnext) htk hend).2
    -- The frame does not continue the group.
    have hle := key_le_of_sorted h''.sorted hlast
    have hgap : f.frameType = .delta ∧
        unwrapped.plus f.firstSeqNum (-1) ≠ newest.lastWithPadding := by
      refine ⟨hdelta, ?_⟩
      rw [unwrapped_plus]
      omega
    unfold manageFrameInternal
    rw [if_neg hne, hcln]
    dsimp only
    rw [unwrapped_before_eq, upTo_of_forall_le hle]
    simp only [getLast?_append, getLast?_singleton, Option.some_or]
    rw [if_pos hgap]
    exact ⟨by simp, .inr ⟨k, older', newest, rfl, by simpa using h''⟩⟩
  · refine attempt_older hord hne hcln h'' (by omega) ?_
    intro e he hnext
    -- The frame begins below the barrier and shares no packet with it.
    by_contra hge
    have hbel := h''.below e he
    have hk := h''.barrier
    refine hord.disjoint f hf k hk.1 ?_ k.lastSeqNum ?_ ⟨hord.ranges k hk.1, le_rfl⟩
    · intro heq
      rw [heq, hk.2] at hdelta
      cases hdelta
    · rw [SeqNumFrame.Covers, hnext hdelta]
      omega

def begun (f : SeqNumFrame Int) : Gop Int := ⟨f.lastSeqNum, f.lastSeqNum, f.lastSeqNum⟩

lemma enterFrame_key (hkey : f.frameType = .key) (gops : List (Gop Int)) :
    enterFrame unwrapped f gops = emplace unwrapped.before key (begun f) gops := by
  rw [enterFrame, hkey]
  rfl

lemma attempt_key_newest (hf : f ∈ h.frames) (hkey : f.frameType = .key)
    (hent : enterFrame unwrapped f t.lastSeqNumGop = older ++ [begun f])
    (hsort : (older ++ [begun f]).Pairwise fun a b => a.key < b.key)
    (hbel : ∀ e ∈ older, e.lastWithPadding < f.lastSeqNum)
    (hsta : t.stashedPadding.Pairwise (· < ·)) (hstashed : ∀ n ∈ t.stashedPadding, n ∈ h.padding)
    (hpend : ∀ n ∈ h.padding, f.lastSeqNum < n → n ∈ t.stashedPadding)
    (hhand : ∀ n ∈ h.handedOff, n ≤ f.lastSeqNum) :
    Attempted h f (manageFrameInternal unwrapped f t) := by
  have htake : takeFrame unwrapped f (begun f) = begun f := by simp [takeFrame, begun]
  obtain ⟨older', hcln, hsub, hyoung⟩ := cleanGops_spec (n := f.lastSeqNum) hsort
  rw [← hent] at hcln
  refine (handOff_newest (k := f) (by simp [hent]) hcln le_rfl ?_ ?_ ?_).2
  · intro hdelta
    rw [hkey] at hdelta
    cases hdelta
  · rw [htake]
    exact
      { sorted := hsort.sublist (hsub.append (refl _))
        stashSorted := hsta
        stashed := hstashed
        barrier := ⟨hf, hkey⟩
        atKey := le_rfl
        atLast := le_rfl
        below := fun e he => hbel e (hsub.subset he)
        covered := fun n hlo hhi => absurd hhi (not_le.mpr hlo)
        key_le := le_rfl
        last_le := le_rfl
        between := fun n hlo hhi => absurd hhi (not_le.mpr hlo)
        pending := hpend
        handed := by
          refine ⟨mem_append_right _ (mem_singleton.mpr rfl), ?_⟩
          exact forall_mem_append.mpr ⟨hhand, fun _ hn => (mem_singleton.mp hn).le⟩
        span := by
          intro e he
          have := hyoung (by simp [begun]) e he
          dsimp only [begun]
          omega }
  · rw [htake]
    exact le_rfl

lemma attempt_key_older (hord : h.Orderly) (hkey : f.frameType = .key)
    (hgops : t.lastSeqNumGop = older ++ [newest]) (h' : Tracked h k older newest t.stashedPadding)
    (hold : f.lastSeqNum < k.lastSeqNum) (hnear : newest.key - 10000 ≤ f.lastSeqNum) :
    Attempted h f (manageFrameInternal unwrapped f t) := by
  have hlt : f.lastSeqNum < newest.key := hold.trans_le h'.atKey
  have hent : enterFrame unwrapped f t.lastSeqNumGop
      = emplace unwrapped.before key (begun f) older ++ [newest] := by
    rw [enterFrame_key hkey, hgops]
    exact emplace_append_singleton hlt
  have hsort : (emplace unwrapped.before key (begun f) older ++ [newest]).Pairwise
      fun a b => a.key < b.key := by
    rw [← hent, enterFrame_key hkey, hgops]
    exact emplace_sorted h'.sorted
  have hins : Tracked h k (emplace unwrapped.before key (begun f) older) newest
      t.stashedPadding :=
    { h' with
      sorted := hsort
      below := by
        intro e he
        rcases mem_of_mem_emplace he with rfl | he
        · exact hold
        · exact h'.below e he
      span := by
        intro e he
        rcases mem_of_mem_emplace he with rfl | he
        · exact hnear
        · exact h'.span e he }
  obtain ⟨older', hcln, hsub, -⟩ := cleanGops_spec (n := f.lastSeqNum) hsort
  rw [← hent] at hcln
  exact attempt_older hord (by simp [hent]) hcln (hins.sublist hsub) hlt (fun _ _ _ => hold)

lemma attempt_key (hord : ({ h with frames := f :: h.frames } : History).Orderly)
    (hfresh : ∀ n, f.Covers n → ¬ h.Used n) (hkey : f.frameType = .key)
    (hnear : ∀ older newest, t.lastSeqNumGop = older ++ [newest] →
      newest.key - 10000 ≤ f.lastSeqNum)
    (hg : t.Grouped h) :
    Attempted { h with frames := f :: h.frames } f (manageFrameInternal unwrapped f t) := by
  have hunused := hfresh f.lastSeqNum ⟨hord.ranges f mem_cons_self, le_rfl⟩
  rcases hg with ⟨hnil, hnone, hsta, hall⟩ | ⟨k, older, newest, hgops, h'⟩
  · have hent : enterFrame unwrapped f t.lastSeqNumGop = [] ++ [begun f] := by
      rw [enterFrame_key hkey, hnil]
      rfl
    exact attempt_key_newest mem_cons_self hkey hent (pairwise_singleton _ _)
      (by simp) hsta (fun n hn => (hall n).mp hn) (fun n hn _ => (hall n).mpr hn)
      (by simp [hnone])
  have hkl := h'.key_le
  have hatKey := h'.atKey
  -- The numbers from the barrier to the end of the newest group are used.
  have hout : f.lastSeqNum < k.lastSeqNum ∨ newest.lastWithPadding < f.lastSeqNum := by
    by_contra hin
    refine hunused ?_
    by_cases heq : f.lastSeqNum = k.lastSeqNum
    · refine .inr ⟨k, h'.barrier.1, ?_⟩
      rw [heq]
      exact ⟨hord.ranges k (mem_cons_of_mem _ h'.barrier.1), le_rfl⟩
    · exact h'.covered _ (by omega) (by omega)
  rcases hout with hold | hnew
  · exact attempt_key_older hord hkey hgops (h'.mono f) hold (hnear older newest hgops)
  have hgt : ∀ g ∈ older ++ [newest], g.key < (begun f).key := by
    intro g hg
    have := key_le_of_sorted h'.sorted h'.key_le g hg
    dsimp only [begun]
    omega
  have hent : enterFrame unwrapped f t.lastSeqNumGop = (older ++ [newest]) ++ [begun f] := by
    rw [enterFrame_key hkey, hgops]
    exact emplace_of_forall_lt hgt
  have hsort : ((older ++ [newest]) ++ [begun f]).Pairwise fun a b => a.key < b.key := by
    rw [← hent, enterFrame_key hkey, hgops]
    exact emplace_sorted h'.sorted
  refine attempt_key_newest mem_cons_self hkey hent hsort ?_ h'.stashSorted
    h'.stashed (fun n hn hlt => h'.pending n hn (by omega)) ?_
  · intro e he
    rcases mem_append.mp he with he | he
    · have := h'.below e he
      omega
    rw [mem_singleton.mp he]
    exact hnew
  · intro n hn
    have := h'.handed.2 n hn
    have := h'.last_le
    omega

lemma manageFrameInternal_frames (f : SeqNumFrame Int) (t : GopTracker Int) :
    (manageFrameInternal unwrapped f t).2.2.stashedFrames = t.stashedFrames := by
  unfold manageFrameInternal updateLastPictureIdWithPadding
  dsimp only
  split
  · rfl
  split
  · rfl
  split
  · rfl
  · split <;> rfl

/-! ## The calls -/

lemma handing_append (res res' : List (HandedOff Int)) :
    (h.handing res).handing res' = h.handing (res ++ res') := by
  simp [History.handing]

lemma retryPass_tracks (hord : h.Orderly) (todo : List (SeqNumFrame Int)) :
    ∀ (t : GopTracker Int) (kept : List (SeqNumFrame Int)) (res : List (HandedOff Int)),
      t.Grouped (h.handing res) → (∀ f ∈ todo, f ∈ h.frames ∧ f.frameType = .delta) →
      (∀ f ∈ kept, f ∈ h.frames ∧ f.frameType = .delta) →
      (retryPass unwrapped todo t kept res).1.Grouped
          (h.handing (retryPass unwrapped todo t kept res).2.2) ∧
        ∀ f ∈ (retryPass unwrapped todo t kept res).2.1, f ∈ h.frames ∧ f.frameType = .delta := by
  induction todo with
  | nil =>
    intro t kept res ht _ hkept
    exact ⟨ht, hkept⟩
  | cons f todo ih =>
    intro t kept res ht htodo hkept
    obtain ⟨hf, hrest⟩ := forall_mem_cons.mp htodo
    have hord' : (h.handing res).Orderly := ⟨hord.ranges, hord.disjoint, hord.padding⟩
    obtain ⟨hiff, hgrp⟩ := attempt_delta hord' hf.1 hf.2 ht
    rw [retryPass]
    generalize manageFrameInternal unwrapped f t = r at hiff hgrp
    obtain ⟨decision, reference, t'⟩ := r
    cases decision with
    | stash =>
      refine ih t' (kept ++ [f]) res (by simpa using hgrp) hrest ?_
      exact forall_mem_append.mpr ⟨hkept, forall_mem_singleton.mpr hf⟩
    | drop => exact ih t' kept res (by simpa using hgrp) hrest hkept
    | handOff =>
      obtain ⟨reference, rfl⟩ := Option.isSome_iff_exists.mp (hiff.mp rfl)
      refine ih t' kept (res ++ [⟨f, reference⟩]) ?_ hrest hkept
      simpa [History.handing] using hgrp

lemma retryStashedFrames_tracks (hord : h.Orderly) (fuel : Nat) :
    ∀ (t : GopTracker Int) (res : List (HandedOff Int)), t.Tracks (h.handing res) →
      (retryStashedFrames unwrapped fuel t res).1.Tracks
        (h.handing (retryStashedFrames unwrapped fuel t res).2) := by
  induction fuel with
  | zero =>
    intro t res ht
    exact ht
  | succ fuel ih =>
    intro t res ht
    have hord' : (h.handing res).Orderly := ⟨hord.ranges, hord.disjoint, hord.padding⟩
    have hstart : t.Grouped ((h.handing res).handing []) := by
      rw [handing_append, append_nil]
      exact ht.groups
    obtain ⟨hgrp, hkept⟩ := retryPass_tracks hord' t.stashedFrames t [] [] hstart ht.frames nofun
    rw [handing_append] at hgrp
    rw [retryStashedFrames]
    generalize retryPass unwrapped t.stashedFrames t [] [] = r at hgrp hkept
    obtain ⟨t', kept, handed⟩ := r
    have hnext : Tracks (h.handing (res ++ handed)) { t' with stashedFrames := kept } := ⟨hgrp, hkept⟩
    dsimp only
    by_cases hnone : handed = []
    · rw [if_pos hnone]
      rw [hnone, append_nil] at hnext
      exact hnext
    · rw [if_neg hnone]
      exact ih _ _ hnext

/-- What is asked of a frame: its numbers are its own, and a key frame is not
far behind the newest group. -/
structure FrameOk (h : History) (t : GopTracker Int) (f : SeqNumFrame Int) : Prop where
  range : f.firstSeqNum ≤ f.lastSeqNum
  fresh : ∀ n, f.Covers n → ¬ h.Used n
  near : f.frameType = .key → ∀ newest, t.lastSeqNumGop.getLast? = some newest →
    newest.key - 10000 ≤ f.lastSeqNum

/-- What is asked of a padding packet: its number is not that of a frame; it is
not far ahead of the newest group, unless all that lies in between is padding;
and it makes the finder forget no padding that the stream has not reached. -/
structure PaddingOk (h : History) (t : GopTracker Int) (n : Int) : Prop where
  fresh : ∀ f ∈ h.frames, ¬ f.Covers n
  near : ∀ newest, t.lastSeqNumGop.getLast? = some newest → n ≤ newest.key + 10000 ∨
    ∀ m, newest.lastPictureId < m → m < n → m ∈ h.padding
  young : ∀ m ∈ t.stashedPadding, m < n - maxPaddingAge →
    ∃ newest, t.lastSeqNumGop.getLast? = some newest ∧ m ≤ newest.lastWithPadding

lemma FrameOk.orderly (hok : FrameOk h t f) (hord : h.Orderly) :
    ({ h with frames := f :: h.frames } : History).Orderly where
  ranges := by
    exact forall_mem_cons.mpr ⟨hok.range, hord.ranges⟩
  disjoint := by
    intro f1 hf1 f2 hf2 hne n hn1 hn2
    rcases mem_cons.mp hf1 with heq1 | hmem₁
    · rcases mem_cons.mp hf2 with heq2 | hmem₂
      · exact hne (heq1.trans heq2.symm)
      · exact hok.fresh n (heq1 ▸ hn1) (.inr ⟨f2, hmem₂, hn2⟩)
    rcases mem_cons.mp hf2 with heq2 | hmem₂
    · exact hok.fresh n (heq2 ▸ hn2) (.inr ⟨f1, hmem₁, hn1⟩)
    · exact hord.disjoint f1 hmem₁ f2 hmem₂ hne n hn1 hn2
  padding := by
    intro f' hf' n hn hcov
    rcases mem_cons.mp hf' with rfl | hf'
    · exact hok.fresh n hcov (.inl hn)
    · exact hord.padding f' hf' n hn hcov

lemma PaddingOk.orderly (hok : PaddingOk h t n) (hord : h.Orderly) :
    ({ h with padding := n :: h.padding } : History).Orderly where
  ranges := hord.ranges
  disjoint := hord.disjoint
  padding := by
    exact fun f hf => forall_mem_cons.mpr ⟨hok.fresh f hf, hord.padding f hf⟩

lemma Grouped.mono (hg : t.Grouped h) (f : SeqNumFrame Int) :
    t.Grouped { h with frames := f :: h.frames } := by
  rcases hg with hnil | ⟨k, older, newest, hgops, h'⟩
  · exact .inl hnil
  · exact .inr ⟨k, older, newest, hgops, h'.mono f⟩

lemma manageFrameInternal_tracks (hord : h.Orderly) (hok : FrameOk h t f) (hg : t.Grouped h) :
    Attempted { h with frames := f :: h.frames } f (manageFrameInternal unwrapped f t) := by
  have hord' := hok.orderly hord
  cases htype : f.frameType with
  | delta => exact attempt_delta hord' mem_cons_self htype (hg.mono f)
  | key =>
    refine attempt_key hord' hok.fresh htype ?_ hg
    intro older newest hgops
    exact hok.near htype newest (by simp [hgops])

lemma manageFrameInternal_key (hkey : f.frameType = .key) :
    (manageFrameInternal unwrapped f t).1 ≠ .stash := by
  have hne : enterFrame unwrapped f t.lastSeqNumGop ≠ [] := by
    rw [enterFrame_key hkey]
    unfold emplace
    split
    · simp
    next heq =>
    split
    · simp
    intro hnil
    rw [hnil] at heq
    simp [fromLower] at heq
  unfold manageFrameInternal
  rw [if_neg hne]
  dsimp only
  split
  · simp
  rw [if_neg (by simp [hkey])]
  simp

lemma manageFrame_tracks (hord : h.Orderly) (hok : FrameOk h t f) (ht : t.Tracks h) :
    (manageFrame unwrapped f t).1.Tracks
      (({ h with frames := f :: h.frames } : History).handing (manageFrame unwrapped f t).2) := by
  obtain ⟨hiff, hgrp⟩ := manageFrameInternal_tracks hord hok ht.groups
  have hfrs := manageFrameInternal_frames f t
  have hkey : f.frameType = .key → (manageFrameInternal unwrapped f t).1 ≠ .stash :=
    manageFrameInternal_key
  have hstashed : ∀ f' ∈ t.stashedFrames,
      f' ∈ f :: h.frames ∧ f'.frameType = .delta :=
    fun f' hf' => ⟨mem_cons_of_mem _ (ht.frames f' hf').1, (ht.frames f' hf').2⟩
  unfold manageFrame
  generalize manageFrameInternal unwrapped f t = r at hiff hgrp hfrs hkey
  obtain ⟨decision, reference, t'⟩ := r
  cases decision with
  | stash =>
    have hgrp' : t'.Grouped (({ h with frames := f :: h.frames } : History).handing []) := by
      simpa [History.handing] using hgrp
    refine ⟨hgrp', ?_⟩
    intro f' hf'
    rcases mem_cons.mp hf' with rfl | hf'
    · refine ⟨mem_cons_self .., ?_⟩
      cases htype : f'.frameType with
      | delta => rfl
      | key => exact absurd rfl (hkey htype)
    have hmem : f' ∈ t'.stashedFrames := by
      split at hf'
      · exact mem_of_mem_dropLast hf'
      · exact hf'
    exact hstashed f' (hfrs ▸ hmem)
  | drop => exact ⟨by simpa [History.handing] using hgrp, hfrs ▸ hstashed⟩
  | handOff =>
    obtain ⟨reference, rfl⟩ := Option.isSome_iff_exists.mp (hiff.mp rfl)
    refine retryStashedFrames_tracks (hok.orderly hord) _ t' [⟨f, reference⟩] ?_
    exact ⟨by simpa [History.handing] using hgrp, hfrs ▸ hstashed⟩

lemma mem_entered {stash : List Int} {m : Int} (hyoung : m ∈ stash → n - maxPaddingAge ≤ m) :
    m = n ∨ m ∈ stash →
      m ∈ emplace unwrapped.before id n
        (fromLower unwrapped.before id (unwrapped.plus n (-maxPaddingAge)) stash) := by
  rintro (rfl | hm)
  · exact mem_emplace_self fun y _ hy => hy
  have hage : n + -maxPaddingAge ≤ id m := by
    have := hyoung hm
    exact (by omega : n + -maxPaddingAge ≤ m)
  exact mem_emplace_of_mem (mem_fromLower_of_le hm hage)

/-- `UpdateLastPictureIdWithPadding` for a padding packet that has been entered
into the stash keeps the invariant. -/
lemma updateLastPictureIdWithPadding_tracks (hord : h.Orderly) (hok : PaddingOk h t n)
    (hg : t.Grouped h) :
    (updateLastPictureIdWithPadding unwrapped n
      { t with
        stashedPadding := emplace unwrapped.before id n
          (fromLower unwrapped.before id (unwrapped.plus n (-maxPaddingAge))
            t.stashedPadding) }).Grouped { h with padding := n :: h.padding } := by
  have hback : ∀ m ∈ emplace unwrapped.before id n
      (fromLower unwrapped.before id (unwrapped.plus n (-maxPaddingAge))
        t.stashedPadding), m = n ∨ m ∈ t.stashedPadding := fun m hm =>
    (mem_of_mem_emplace hm).imp_right mem_of_mem_fromLower
  have hforth := fun m (hm : m ∈ t.stashedPadding → n - maxPaddingAge ≤ m) =>
    mem_entered (n := n) hm
  have hsort : t.stashedPadding.Pairwise (· < ·) → (emplace unwrapped.before id n
      (fromLower unwrapped.before id (unwrapped.plus n (-maxPaddingAge))
        t.stashedPadding)).Pairwise (· < ·) := by
    intro hs
    have hs' : t.stashedPadding.Pairwise fun a b => id a < id b := hs
    exact emplace_sorted (hs'.sublist (dropWhile_sublist _))
  generalize emplace unwrapped.before id n _ = stash at hback hforth hsort
  rcases hg with ⟨hnil, hnone, hsta, hall⟩ | ⟨k, older, newest, hgops, h'⟩
  · -- There is no group to advance, and nothing may be forgotten.
    have hup : updateLastPictureIdWithPadding unwrapped n { t with stashedPadding := stash }
        = { t with stashedPadding := stash } := by
      rw [hnil]
      rfl
    rw [hup]
    refine .inl ⟨hnil, hnone, hsort hsta, ?_⟩
    intro m
    rw [mem_cons]
    constructor
    · intro hm
      exact (hback m hm).imp_right (hall m).mp
    intro hm
    refine hforth m ?_ (hm.imp_right (hall m).mpr)
    intro hmem
    by_contra hlt
    obtain ⟨newest, hnewest, -⟩ := hok.young m hmem (by omega)
    rw [hnil] at hnewest
    cases hnewest
  · have hlast : t.lastSeqNumGop.getLast? = some newest := by simp [hgops]
    have htrack : Tracking { h with padding := n :: h.padding } k older newest stash :=
      { h'.toTracking with
        stashSorted := hsort h'.stashSorted
        stashed := fun m hm => mem_cons.mpr ((hback m hm).imp_right (h'.stashed m))
        covered := fun m hlo hhi => (h'.covered m hlo hhi).imp_left (mem_cons_of_mem _)
        between := fun m hlo hhi => mem_cons_of_mem _ (h'.between m hlo hhi)
        pending := by
          intro m hm hlt
          refine hforth m ?_ ((mem_cons.mp hm).imp_right fun hm => h'.pending m hm hlt)
          intro hmem
          by_contra hold
          obtain ⟨newest', hnewest', hle⟩ := hok.young m hmem (by omega)
          obtain rfl := Option.some.inj (hlast.symm.trans hnewest')
          omega }
    have hord' := hok.orderly hord
    by_cases hn : newest.key ≤ n
    · have hreach : n ≤ newest.key + 10000 ∨ n ≤ (advance unwrapped newest stash).1.lastWithPadding := by
        refine (hok.near newest hlast).imp_right ?_
        intro hbetween
        have hadv := htrack.advance (advance_spec newest htrack.stashSorted)
        have hsame := (advance_spec newest htrack.stashSorted).last
        have hle := hadv.last_le
        by_contra hlt
        refine hadv.stopped (hadv.pending _ ?_ (by omega))
        by_cases heq : (advance unwrapped newest stash).1.lastWithPadding + 1 = n
        · rw [heq]
          exact mem_cons_self ..
        · exact mem_cons_of_mem _ (hbetween _ (by omega) (by omega))
      obtain ⟨older', newest', hgops', htrk⟩ := update_newest_tracks
        (t := { t with stashedPadding := stash }) hgops htrack hn hreach
      exact .inr ⟨k, older', newest', hgops', htrk⟩
    · have hkl := h'.key_le
      have htrk : Tracked { h with padding := n :: h.padding } k older newest stash := by
        refine ⟨htrack, ?_⟩
        intro hmem
        rcases hback _ hmem with heq | hmem
        · omega
        · exact h'.stopped hmem
      obtain ⟨older', hgops', htrk'⟩ := update_older_tracks hord'
        (t := { t with stashedPadding := stash }) hgops htrk (not_le.mp hn)
      exact .inr ⟨k, older', newest, hgops', htrk'⟩

lemma updateLastPictureIdWithPadding_frames (t : GopTracker Int) :
    (updateLastPictureIdWithPadding unwrapped n t).stashedFrames = t.stashedFrames := by
  unfold updateLastPictureIdWithPadding
  dsimp only
  split <;> rfl

lemma paddingReceived_tracks (hord : h.Orderly) (hok : PaddingOk h t n) (ht : t.Tracks h) :
    (paddingReceived unwrapped n t).1.Tracks
      (({ h with padding := n :: h.padding } : History).handing
        (paddingReceived unwrapped n t).2) := by
  have hgrp := updateLastPictureIdWithPadding_tracks hord hok ht.groups
  refine retryStashedFrames_tracks (hok.orderly hord) _ _ [] ⟨?_, ?_⟩
  · simpa [History.handing] using hgrp
  rw [updateLastPictureIdWithPadding_frames]
  exact ht.frames

end GopTracker

end WebRtc.VideoCoding
