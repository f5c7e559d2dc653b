import WebRtc.Dcsctp.Rx.DataTracker
import WebRtc.Lib.Run

/-!
# dcSCTP — what a SACK reports

Runs of a `DataTracker` over any DATA and FORWARD-TSN arrivals, next to the history of what really
arrived. The tracker itself never claims too much (`run_accounted`); the SACK it sends does when an
offset does not fit into 16 bits (`selectiveAck_sound_iff`). Nor does it claim too little
(`duplicate_detection`). `synchronised_of_recent` says which FORWARD-TSNs leave the TSNs to come
within reach of the unwrapper.
-/

namespace WebRtc.Dcsctp

open Lib Numerics DataTracker List

inductive TrackerEvent where
  /-- A DATA chunk arrives; it is observed when `IsTSNValid` accepts it. -/
  | data (tsn : TSN) (immediateAck : Bool)
  | forwardTsn (newCumulativeTsn : TSN)
  | selectiveAck (aRwnd : Nat)
  | shouldSendAck (alsoIfDelayed : Bool)
  | packetEnd
  | delayedAckTimerExpiry
  | forceImmediateSack

/-- A TSN that arrived, and the position it was unwrapped to. -/
structure Arrival where
  tsn : TSN
  position : Int
deriving DecidableEq

structure TrackerRun where
  tracker : DataTracker
  observed : List Arrival
  forwarded : List Arrival

namespace TrackerRun

variable (peerInitialTsn : TSN)

def init : TrackerRun := ⟨DataTracker.new peerInitialTsn, [], []⟩

def step (s : TrackerRun) : TrackerEvent → TrackerRun
  | .data tsn immediateAck =>
    if s.tracker.isTSNValid tsn then
      { s with
        tracker := (s.tracker.observe tsn immediateAck).2
        observed := ⟨tsn, s.tracker.tsnUnwrapper.peekUnwrap tsn⟩ :: s.observed }
    else s
  | .forwardTsn tsn =>
    { s with
      tracker := (s.tracker.handleForwardTsn tsn).2
      forwarded := ⟨tsn, s.tracker.tsnUnwrapper.peekUnwrap tsn⟩ :: s.forwarded }
  | .selectiveAck aRwnd => { s with tracker := (s.tracker.createSelectiveAck aRwnd).2 }
  | .shouldSendAck also => { s with tracker := (s.tracker.shouldSendAck also).2 }
  | .packetEnd => { s with tracker := s.tracker.observePacketEnd }
  | .delayedAckTimerExpiry => { s with tracker := s.tracker.handleDelayedAckTimerExpiry }
  | .forceImmediateSack => { s with tracker := s.tracker.forceImmediateSack }

def firstPosition : Int := (peerInitialTsn - 1).toNat + 1

/-- A chunk with the TSN of position `x` was observed there, or a FORWARD-TSN skipped it. -/
def Accounted (s : TrackerRun) (x : Int) : Prop :=
  (∃ a ∈ s.observed, a.position = x ∧ a.tsn = wrap 32 x) ∨ ∃ a ∈ s.forwarded, x ≤ a.position

/-- Everything a SACK reports as received is accounted for: all positions up to the
cumulative ack, and those inside the gap-ack-blocks, which count from it. -/
def SackSound (s : TrackerRun) (sack : SackChunk) : Prop :=
  sack.cumulativeTsnAck = wrap 32 s.tracker.lastCumulativeAckedTsn ∧
    (∀ x, firstPosition peerInitialTsn ≤ x → x ≤ s.tracker.lastCumulativeAckedTsn →
      s.Accounted x) ∧
    ∀ b ∈ sack.gapAckBlocks, ∀ k : Nat, b.start.toNat ≤ k → k ≤ b.end_.toNat →
      s.Accounted (s.tracker.lastCumulativeAckedTsn + k)

def OffsetsExact (t : DataTracker) (sack : SackChunk) : Prop :=
  sack.gapAckBlocks.map (fun b => ((b.start.toNat : Int), (b.end_.toNat : Int))) =
    (t.additionalTsnBlocks.take kMaxGapAckBlocksReported).map fun b =>
      (b.first - t.lastCumulativeAckedTsn, b.last - t.lastCumulativeAckedTsn)

/-! ## The tracker claims nothing that did not arrive -/

/-- The invariant of a run: beyond the positions before the first one, the tracker has
seen only what the history accounts for. -/
structure Inv (peerInitialTsn : TSN) (s : TrackerRun) : Prop where
  tracker : s.tracker.Inv
  first : firstPosition peerInitialTsn ≤ s.tracker.lastCumulativeAckedTsn + 1
  accounted : ∀ x, firstPosition peerInitialTsn ≤ x → s.tracker.Seen x → s.Accounted x

lemma inv_init : (init peerInitialTsn).Inv peerInitialTsn := by
  refine ⟨inv_new _, le_refl _, fun x hx hseen => ?_⟩
  rcases hseen with hle | hcov
  · have hcum : (init peerInitialTsn).tracker.lastCumulativeAckedTsn
    = (peerInitialTsn - 1).toNat := rfl
    rw [firstPosition] at hx
    omega
  · exact absurd hcov (by simp [init, new])

lemma step_cases (s : TrackerRun) (e : TrackerEvent) :
    (∃ tsn imm, e = .data tsn imm ∧ s.tracker.isTSNValid tsn = true) ∨
      (∃ tsn, e = .forwardTsn tsn) ∨
      ∃ t, SameTsns s.tracker t ∧ s.step e = { s with tracker := t } := by
  cases e with
  | data tsn imm =>
    by_cases hv : s.tracker.isTSNValid tsn = true
    · exact .inl ⟨tsn, imm, rfl, hv⟩
    · exact .inr (.inr ⟨_, .refl _, if_neg hv⟩)
  | forwardTsn tsn => exact .inr (.inl ⟨tsn, rfl⟩)
  | selectiveAck aRwnd => exact .inr (.inr ⟨_, sameTsns_createSelectiveAck _ aRwnd, rfl⟩)
  | shouldSendAck also => exact .inr (.inr ⟨_, sameTsns_shouldSendAck _ also, rfl⟩)
  | packetEnd => exact .inr (.inr ⟨_, sameTsns_observePacketEnd _, rfl⟩)
  | delayedAckTimerExpiry => exact .inr (.inr ⟨_, sameTsns_updateAckState _ _, rfl⟩)
  | forceImmediateSack => exact .inr (.inr ⟨s.tracker.forceImmediateSack, ⟨rfl, rfl, rfl⟩, rfl⟩)

variable {p : TSN} {s : TrackerRun} {t : DataTracker}

lemma Inv.of_sameTsns (h : s.Inv p)
    (hsame : SameTsns s.tracker t) : { s with tracker := t }.Inv p :=
  ⟨h.tracker.congr hsame, h.first.trans (le_of_eq (congrArg (· + 1) hsame.cum.symm)),
    fun x hx hseen => h.accounted x hx ((Seen.congr hsame).mp hseen)⟩

lemma inv_step (h : s.Inv p) (e : TrackerEvent) :
    (s.step e).Inv p := by
  obtain ⟨tsn, imm, rfl, hv⟩ | ⟨tsn, rfl⟩ | ⟨t, hsame, heq⟩ := s.step_cases e
  · rw [step, if_pos hv]
    obtain ⟨hinv, -, hseen, -, hcum⟩ := observe_spec h.tracker hv imm
    refine ⟨hinv, h.first.trans (Int.add_le_add_right hcum 1), fun x hx hs => ?_⟩
    rcases (hseen x).mp hs with hs | rfl
    · rcases h.accounted x hx hs with ⟨a, ha, hpos⟩ | hfwd
      · exact .inl ⟨a, mem_cons_of_mem _ ha, hpos⟩
      · exact .inr hfwd
    · exact .inl ⟨_, mem_cons_self .., rfl, (SeqNumUnwrapper.wrap_peekUnwrap _ _).symm⟩
  · obtain ⟨hinv, hseen, -, hcum⟩ := handleForwardTsn_spec h.tracker tsn
    refine ⟨hinv, h.first.trans (Int.add_le_add_right hcum 1), fun x hx hs => ?_⟩
    rcases (hseen x).mp hs with hs | hle
    · rcases h.accounted x hx hs with hobs | ⟨a, ha, hpos⟩
      · exact .inl hobs
      · exact .inr ⟨a, mem_cons_of_mem _ ha, hpos⟩
    · exact .inr ⟨_, mem_cons_self .., hle⟩
  · rw [heq]
    exact h.of_sameTsns hsame

/-- **Every run.** Whatever the tracker takes for received was observed or skipped. -/
lemma run_accounted (evs : List TrackerEvent) :
    (run step (init peerInitialTsn) evs).Inv peerInitialTsn :=
  run_induction (P := Inv peerInitialTsn) (fun _ e h => inv_step h e) evs (inv_init peerInitialTsn)

/-! ## What gets into the SACK -/

lemma offset_exact_iff {cum x : Int} (hlo : cum ≤ x)
    (hhi : x ≤ cum + kMaxAcceptedOutstandingFragments) :
    ((BitVec.ofNat 16 (difference 32 x cum)).toNat : Int) = x - cum ↔ x ≤ cum + 65535 := by
  have hdiff : difference 32 x cum = (x - cum).toNat := by
    simp only [difference, kMaxAcceptedOutstandingFragments] at hhi ⊢
    omega
  rw [hdiff, BitVec.toNat_ofNat]
  omega

lemma offsetsExact_iff (h : t.Inv) (aRwnd : Nat) :
    OffsetsExact t (t.createSelectiveAck aRwnd).1 ↔
      ∀ b ∈ t.additionalTsnBlocks.take kMaxGapAckBlocksReported,
        b.last ≤ t.lastCumulativeAckedTsn + 65535 := by
  rw [OffsetsExact, createSelectiveAck, createGapAckBlocks, map_map, map_inj_left]
  refine forall₂_congr fun b hb => ?_
  have hb' := mem_of_mem_take hb
  have habv := h.above b hb'
  have hnear := h.near b hb'
  have hle := h.separated.le b hb'
  simp only [Function.comp_apply, Prod.mk.injEq]
  rw [offset_exact_iff (by omega) (by omega), offset_exact_iff (by omega) hnear]
  omega

lemma covers_of_reported {aRwnd : Nat}
    (hexact : OffsetsExact t (t.createSelectiveAck aRwnd).1) {g : GapAckBlock}
    (hg : g ∈ (t.createSelectiveAck aRwnd).1.gapAckBlocks) {k : Nat}
    (hlo : g.start.toNat ≤ k) (hhi : k ≤ g.end_.toNat) :
    Covers t.additionalTsnBlocks (t.lastCumulativeAckedTsn + k) := by
  have hmem : ((g.start.toNat : Int), (g.end_.toNat : Int)) ∈
      (t.createSelectiveAck aRwnd).1.gapAckBlocks.map
        fun b => ((b.start.toNat : Int), (b.end_.toNat : Int)) :=
    mem_map.mpr ⟨g, hg, rfl⟩
  rw [hexact] at hmem
  obtain ⟨b, hb, hpair⟩ := mem_map.mp hmem
  obtain ⟨hfirst, hlast⟩ := Prod.mk.inj hpair
  exact ⟨b, mem_of_mem_take hb, by omega, by omega⟩

/-- **SACK soundness.** In every run, the SACK the tracker would send reports only what
was observed or skipped, with offsets unchanged by the narrowing to 16 bits, if and only
if no reported block ends more than 65535 above the cumulative ack. -/
theorem selectiveAck_sound_iff (peerInitialTsn : TSN) (evs : List TrackerEvent) (aRwnd : Nat) :
    let s := run step (init peerInitialTsn) evs
    let sack := (s.tracker.createSelectiveAck aRwnd).1
    (SackSound peerInitialTsn s sack ∧ OffsetsExact s.tracker sack) ↔
      ∀ b ∈ s.tracker.additionalTsnBlocks.take kMaxGapAckBlocksReported,
        b.last ≤ s.tracker.lastCumulativeAckedTsn + 65535 := by
  intro s sack
  have hinv : s.Inv peerInitialTsn := run_accounted peerInitialTsn evs
  constructor
  · rintro ⟨-, hexact⟩
    exact (offsetsExact_iff hinv.tracker aRwnd).mp hexact
  intro hnear
  have hexact := (offsetsExact_iff hinv.tracker aRwnd).mpr hnear
  refine ⟨⟨rfl, fun x hx hcum => hinv.accounted x hx (.inl hcum), ?_⟩, hexact⟩
  intro g hg k hlo hhi
  obtain ⟨b, hb, hbLo, hbHi⟩ := covers_of_reported hexact hg hlo hhi
  have habv := hinv.tracker.above b hb
  have hfirst := hinv.first
  exact hinv.accounted _ (by omega) (.inr ⟨b, hb, hbLo, hbHi⟩)

/-- A chunk 65537 above the cumulative ack is accepted, and the SACK reports TSN 2 instead. -/
theorem selectiveAck_unsound :
    let s := run step (init 1) [.data 65538 false]
    ¬ SackSound 1 s (s.tracker.createSelectiveAck 0).1 := by
  intro s hsound
  have hg : (⟨2, 2⟩ : GapAckBlock) ∈ (s.tracker.createSelectiveAck 0).1.gapAckBlocks := by decide
  have hacc := hsound.2.2 _ hg 2 (by decide) (by decide)
  rcases hacc with ⟨a, ha, hpos, -⟩ | ⟨a, ha, -⟩
  · have ha' : a = ⟨65538, 65538⟩ := by
      have : s.observed = [⟨65538, 65538⟩] := by decide
      rw [this] at ha
      simpa using ha
    rw [ha'] at hpos
    exact absurd hpos (by decide)
  · have : s.forwarded = [] := rfl
    rw [this] at ha
    simp at ha

/-! ## Duplicates -/

lemma seen_step (h : s.Inv p) (hseen : ∀ x, s.Accounted x → s.tracker.Seen x) (e : TrackerEvent) :
    ∀ x, (s.step e).Accounted x → (s.step e).tracker.Seen x := by
  intro x hx
  obtain ⟨tsn, imm, rfl, hv⟩ | ⟨tsn, rfl⟩ | ⟨t, hsame, heq⟩ := s.step_cases e
  · rw [step, if_pos hv] at hx ⊢
    refine ((observe_spec h.tracker hv imm).2.2.1 x).mpr ?_
    rcases hx with ⟨a, ha, hpos, htsn⟩ | hfwd
    · rcases mem_cons.mp ha with rfl | ha
      · exact .inr hpos.symm
      · exact .inl (hseen x (.inl ⟨a, ha, hpos, htsn⟩))
    · exact .inl (hseen x (.inr hfwd))
  · refine ((handleForwardTsn_spec h.tracker tsn).2.1 x).mpr ?_
    rcases hx with hobs | ⟨a, ha, hle⟩
    · exact .inl (hseen x (.inl hobs))
    rcases mem_cons.mp ha with rfl | ha
    · exact .inr hle
    · exact .inl (hseen x (.inr ⟨a, ha, hle⟩))
  · rw [heq] at hx ⊢
    exact (Seen.congr hsame).mpr (hseen x hx)

/-- In every run the tracker has seen what precedes the first TSN and what was observed
or skipped, and nothing else. -/
lemma run_seen_iff (evs : List TrackerEvent) (x : Int) :
    (run step (init peerInitialTsn) evs).tracker.Seen x ↔
      x < firstPosition peerInitialTsn ∨ (run step (init peerInitialTsn) evs).Accounted x := by
  -- Both directions are carried along: the step lemma of one needs the other's invariant.
  obtain ⟨hinv, hseen⟩ := run_induction
    (P := fun s => Inv peerInitialTsn s ∧ ∀ x, s.Accounted x → s.tracker.Seen x)
    (fun s e h => ⟨inv_step h.1 e, seen_step h.1 h.2 e⟩) evs (s := init peerInitialTsn)
    ⟨inv_init _, by rintro x (⟨a, ha, -⟩ | ⟨a, ha, -⟩) <;> exact absurd ha (by simp [init])⟩
  constructor
  · intro hx
    by_cases hfirst : x < firstPosition peerInitialTsn
    · exact .inl hfirst
    · exact .inr (hinv.accounted x (by omega) hx)
  rintro (hlt | hx)
  · have := hinv.first
    exact .inl (by omega)
  · exact hseen x hx

/-- **Duplicate detection.** In every run the blocks are sorted, disjoint, not adjacent
and at least two above the cumulative TSN; with what lies at or below that TSN they hold
just the positions observed or skipped, besides those before the first one; and `Observe`
returns whether its TSN is none of them. -/
theorem duplicate_detection (peerInitialTsn : TSN) (evs : List TrackerEvent) :
    let s := run step (init peerInitialTsn) evs
    let t := s.tracker
    Separated t.additionalTsnBlocks ∧
      (∀ b ∈ t.additionalTsnBlocks, t.lastCumulativeAckedTsn + 1 < b.first) ∧
      (∀ x, (x ≤ t.lastCumulativeAckedTsn ∨ Covers t.additionalTsnBlocks x) ↔
        x < firstPosition peerInitialTsn ∨ s.Accounted x) ∧
      ∀ tsn imm, t.isTSNValid tsn → ((t.observe tsn imm).1 = true ↔
        ¬ (t.tsnUnwrapper.peekUnwrap tsn < firstPosition peerInitialTsn ∨
          s.Accounted (t.tsnUnwrapper.peekUnwrap tsn))) := by
  intro s t
  have hinv : t.Inv := (run_accounted peerInitialTsn evs).tracker
  refine ⟨hinv.separated, hinv.above, run_seen_iff peerInitialTsn evs, ?_⟩
  intro tsn imm hv
  rw [← run_seen_iff peerInitialTsn evs]
  exact (observe_spec hinv hv imm).2.1

/-! ## Staying synchronised -/

/-- What `IsTSNValid` accepts above the cumulative ack is within reach of the unwrapper. -/
def Synchronised (t : DataTracker) : Prop :=
  t.lastCumulativeAckedTsn + kMaxAcceptedOutstandingFragments < t.tsnUnwrapper.lastUnwrapped + 2 ^ 31

lemma synchronised_of_seen {t' : DataTracker} {p : Int} (h : t.BlocksInv)
    (hlast : t'.tsnUnwrapper.lastUnwrapped = p)
    (hp : t.lastCumulativeAckedTsn + kMaxAcceptedOutstandingFragments < p + 2 ^ 31)
    (hseen : ∀ x, t'.Seen x → t.Seen x ∨ x ≤ p) : Synchronised t' := by
  rw [Synchronised, hlast]
  by_cases hcum : t'.lastCumulativeAckedTsn ≤ t.lastCumulativeAckedTsn
  · omega
  -- The cumulative ack moved, so the number right above it was passed by `p`.
  · have hmoved : t.lastCumulativeAckedTsn + 1 ≤ p :=
      (hseen _ (.inl (by omega))).resolve_left (not_seen_cum_succ h)
    rw [kMaxAcceptedOutstandingFragments] at hp ⊢
    rcases hseen _ (.inl le_rfl) with hold | hle
    · have := hold.le h
      rw [kMaxAcceptedOutstandingFragments] at this
      omega
    · omega

/-- A FORWARD-TSN that is not further behind the cumulative ack than the unwrapper can
follow back. -/
def Recent (s : TrackerRun) : TrackerEvent → Prop
  | .forwardTsn tsn => s.tracker.lastCumulativeAckedTsn + kMaxAcceptedOutstandingFragments <
      s.tracker.tsnUnwrapper.peekUnwrap tsn + 2 ^ 31
  | _ => True

lemma synchronised_step (h : s.Inv p) (hs : Synchronised s.tracker)
    (e : TrackerEvent) (he : s.Recent e) : Synchronised (s.step e).tracker := by
  obtain ⟨tsn, imm, rfl, hv⟩ | ⟨tsn, rfl⟩ | ⟨t, hsame, heq⟩ := s.step_cases e
  · obtain ⟨-, -, hseen, hunw, -⟩ := observe_spec h.tracker hv imm
    rw [step, if_pos hv]
    refine synchronised_of_seen h.tracker.toBlocksInv (congrArg (·.lastUnwrapped) hunw) ?_
      fun x hx => ((hseen x).mp hx).imp_right le_of_eq
    -- A valid TSN is near the cumulative ack or a whole cycle below it, out of reach.
    have hlo := (SeqNumUnwrapper.peekUnwrap_bounds h.tracker.started tsn (by omega)).1
    have hdiff := of_decide_eq_true hv
    simp only [Synchronised, difference, kMaxAcceptedOutstandingFragments] at hs hdiff ⊢
    show _ < s.tracker.tsnUnwrapper.peekUnwrap tsn + 2 ^ 31
    omega
  · obtain ⟨-, hseen, hunw, -⟩ := handleForwardTsn_spec h.tracker tsn
    exact synchronised_of_seen h.tracker.toBlocksInv (congrArg (·.lastUnwrapped) hunw) he
      fun x hx => (hseen x).mp hx
  · rwa [heq, Synchronised, hsame.cum, hsame.unwrapper]

/-- **Synchronisation.** In every run without FORWARD-TSNs from too far behind, each TSN
from 1 to 100000 past the cumulative ack is accepted and recognised as later. -/
theorem synchronised_of_recent (peerInitialTsn : TSN) (evs : List TrackerEvent)
    (hrecent : Along step Recent (init peerInitialTsn) evs) (k : Nat) (hpos : 1 ≤ k)
    (hk : k ≤ kMaxAcceptedOutstandingFragments) :
    let t := (run step (init peerInitialTsn) evs).tracker
    let tsn := wrap 32 (t.lastCumulativeAckedTsn + k)
    t.isTSNValid tsn ∧ t.isLaterThanCumulativeAckedTsn tsn := by
  intro t tsn
  obtain ⟨hinv, hsync⟩ : t.Inv ∧ Synchronised t := And.imp_left Inv.tracker <| run_induction_along
    (P := fun s => Inv peerInitialTsn s ∧ Synchronised s.tracker)
    (fun s e h he => ⟨inv_step h.1 e, synchronised_step h.1 h.2 e he⟩) evs (init peerInitialTsn)
    ⟨inv_init _, by
      show ((peerInitialTsn - 1).toNat : Int) + 100000 < (peerInitialTsn - 1).toNat + 2 ^ 31
      omega⟩ hrecent
  have hlast := hinv.last
  simp only [Synchronised, kMaxAcceptedOutstandingFragments] at hsync hlast hk
  have hpeek : t.tsnUnwrapper.peekUnwrap tsn = t.lastCumulativeAckedTsn + k :=
    SeqNumUnwrapper.peekUnwrap_wrap ⟨hinv.started, by omega, by omega⟩ (by omega)
  rw [isTSNValid, isLaterThanCumulativeAckedTsn, hpeek, difference, kMaxAcceptedOutstandingFragments]
  exact ⟨decide_eq_true (by omega), decide_eq_true (by omega)⟩

theorem synchronised_after_forwardTsn :
    let t := (run step (init 1) [.forwardTsn 5]).tracker
    t.isTSNValid (wrap 32 (t.lastCumulativeAckedTsn + 3)) ∧
      t.isLaterThanCumulativeAckedTsn (wrap 32 (t.lastCumulativeAckedTsn + 3)) :=
  synchronised_of_recent 1 [.forwardTsn 5] ⟨by show (_ : Int) < _; decide, trivial⟩ 3 (by decide)
    (by decide)

/-- Three stale FORWARD-TSNs, each `2 ^ 30` behind the one before, and the next TSN is
refused. -/
theorem unsynchronised_after_stale :
    let t := (run step (init 1)
      [.forwardTsn 0xC0000000, .forwardTsn 0x80000000, .forwardTsn 0x40000000]).tracker
    t.lastCumulativeAckedTsn = 0 ∧ t.isTSNValid 1 = false ∧
      t.isLaterThanCumulativeAckedTsn 1 = false := by
  decide

end TrackerRun

end WebRtc.Dcsctp
