import WebRtc.Dcsctp.Packet.Chunks
import WebRtc.Lib.Ranges

/-!
# dcSCTP — DataTracker

The model of `rx/data_tracker.{h,cc}`: which TSNs have been received, as a cumulative ack and a
sorted list of blocks above it, and the acknowledgement state machine around it. What the tracker
knows is the set `DataTracker.Seen`; each operation has one lemma that says what it does to that
set. By `DataTracker.Inv` nothing that was accepted lies more than
`kMaxAcceptedOutstandingFragments` above the cumulative ack.
-/

namespace WebRtc.Dcsctp

open Lib Numerics List SeqNumUnwrapper

/-! ## AdditionalTsnBlocks -/

namespace AdditionalTsnBlocks

/-- `AdditionalTsnBlocks::Add` on the sorted vector of blocks. The search finds the first
block that contains `tsn` or that ends right before it or above it. -/
def add (blocks : List Range) (tsn : Int) : List Range × Bool :=
  let (before, rest) := splitAtFirst (fun b => b.last + 1 < tsn) blocks
  match rest with
  | [] => (before ++ [⟨tsn, tsn⟩], true)
  | it :: after =>
    if it.first ≤ tsn ∧ tsn ≤ it.last then (blocks, false)
    else if it.last + 1 = tsn then
      match after with
      | next :: after' =>
        -- Expanding to the right may make the block adjacent to the next one.
        if tsn + 1 = next.first then (before ++ ⟨it.first, next.last⟩ :: after', true)
        else (before ++ ⟨it.first, tsn⟩ :: next :: after', true)
      | [] => (before ++ [⟨it.first, tsn⟩], true)
    else if it.first = tsn + 1 then (before ++ ⟨tsn, it.last⟩ :: after, true)
    else (before ++ ⟨tsn, tsn⟩ :: it :: after, true)

/-- `AdditionalTsnBlocks::EraseTo`. When `tsn` is the last TSN of a block, this leaves
the empty range `[tsn + 1, tsn]` in front; `HandleForwardTsn` removes it. -/
def eraseTo (blocks : List Range) (tsn : Int) : List Range :=
  match (splitAtFirst (fun b => b.last < tsn) blocks).2 with
  | [] => []
  | it :: after =>
    if it.first ≤ tsn then ⟨tsn + 1, it.last⟩ :: after else it :: after

variable {blocks : List Range}

/-- **`Add` inserts one TSN.** The blocks stay separated and cover `tsn` in addition;
the result tells whether they did not cover it before. -/
lemma add_spec (h : Separated blocks) (tsn : Int) :
    Separated (add blocks tsn).1 ∧
      (∀ x, Covers (add blocks tsn).1 x ↔ Covers blocks x ∨ x = tsn) ∧
      ((add blocks tsn).2 = true ↔ ¬ Covers blocks tsn) := by
  unfold add
  cases hsplit : splitAtFirst (fun b => decide (b.last + 1 < tsn)) blocks with
  | mk before rest =>
  cases rest with
  | nil =>
    -- `tsn` is above every block
    obtain ⟨rfl, hlo, -⟩ := splitAtFirst_spec hsplit
    rw [append_nil] at h ⊢
    refine ⟨separated_append.mpr ⟨h, ?_, ?_⟩, ?_, ?_⟩
    · exact separated_cons.mpr ⟨le_refl _, by simp, separated_nil⟩
    · simpa using hlo
    · intro x
      simp only [covers_append, covers_cons, covers_nil, Range.Has, or_false]
      constructor
      · rintro (hx | hx)
        · exact .inl hx
        · exact .inr (by omega)
      rintro (hx | rfl)
      · exact .inl hx
      · exact .inr ⟨le_refl _, le_refl _⟩
    · simp only [true_iff]
      exact not_covers_of_below fun b hb => by
        have := hlo b hb
        omega
  | cons it after =>
    -- everything before lies at least two below `tsn`, the block found does not
    obtain ⟨rfl, hlo, hit⟩ := splitAtFirst_spec hsplit
    have hit : tsn ≤ it.last + 1 := Int.not_lt.mp (hit it rfl)
    obtain ⟨hbef, hrest, hcross⟩ := separated_append.mp h
    obtain ⟨hle, hgap, haft⟩ := separated_cons.mp hrest
    have hcrossIt : ∀ a ∈ before, a.last + 1 < it.first :=
      fun a ha => hcross a ha it mem_cons_self
    have hcrossAfter : ∀ a ∈ before, ∀ b ∈ after, a.last + 1 < b.first :=
      fun a ha b hb => hcross a ha b (mem_cons_of_mem _ hb)
    have hnotBef : ¬ Covers before tsn := not_covers_of_below fun b hb => by
      have := hlo b hb
      omega
    have hnotAfter : ¬ Covers after tsn := not_covers_of_above fun b hb => by
      have := hgap b hb
      omega
    simp only
    split_ifs with hin hright hleft
    · have hcov : Covers (before ++ it :: after) tsn :=
        covers_append.mpr (.inr (covers_cons.mpr (.inl hin)))
      refine ⟨h, fun x => ⟨.inl, ?_⟩, fun hf => absurd hf (by simp), fun hn => absurd hcov hn⟩
      rintro (hx | rfl)
      · exact hx
      · exact hcov
    all_goals
      have hnew : ¬ Covers (before ++ it :: after) tsn := by
        rw [covers_append, covers_cons]
        rintro (hx | hx | hx)
        · exact hnotBef hx
        · exact hin hx
        · exact hnotAfter hx
    · -- expand to the right
      cases after with
      | nil =>
        refine ⟨separated_between hbef haft hcrossAfter (by simp only; omega) hcrossIt
          (by simp), fun x => ?_, by simpa using hnew⟩
        simp only [covers_append, covers_cons, Range.Has]
        grind
      | cons next after' =>
        obtain ⟨hnextLe, hnextGap, haft'⟩ := separated_cons.mp haft
        have hgapNext := hgap next mem_cons_self
        simp only
        split_ifs with hmerge
        · refine ⟨separated_between hbef haft' ?_ (by simp only; omega) hcrossIt hnextGap,
            fun x => ?_, by simpa using hnew⟩
          · exact fun a ha b hb => hcrossAfter a ha b (mem_cons_of_mem _ hb)
          simp only [covers_append, covers_cons, Range.Has]
          grind
        refine ⟨separated_between hbef haft hcrossAfter (by simp only; omega) hcrossIt ?_,
          fun x => ?_, by simpa using hnew⟩
        · intro b hb
          rcases mem_cons.mp hb with rfl | hb
          · simp only; omega
          have := hnextGap b hb
          simp only; omega
        · simp only [covers_append, covers_cons, Range.Has]
          grind
    · -- expand to the left
      refine ⟨separated_between hbef haft hcrossAfter (by simp only; omega) hlo hgap,
        fun x => ?_, by simpa using hnew⟩
      simp only [covers_append, covers_cons, Range.Has]
      grind
    · -- a block of its own
      have hbel : tsn + 1 < it.first := by
        by_contra hcon
        exact hin ⟨by omega, by omega⟩
      refine ⟨separated_between hbef hrest ?_ le_rfl hlo ?_, fun x => ?_, by simpa using hnew⟩
      · exact hcross
      · intro b hb
        rcases mem_cons.mp hb with rfl | hb
        · exact hbel
        have := hgap b hb
        simp only; omega
      · simp only [covers_append, covers_cons, Range.Has]
        grind

/-- The blocks right after the cumulative ack moved to `cum`: ordered with gaps, above
`cum`, and non-empty except for what `EraseTo` may leave of the first. -/
structure Above (cum : Int) (blocks : List Range) : Prop where
  gap : blocks.Pairwise fun a b => a.last + 1 < b.first
  first : ∀ b ∈ blocks, cum < b.first
  le : ∀ b ∈ blocks, b.first ≤ b.last ∨ (b.first = cum + 1 ∧ b.last = cum)

/-- **`EraseTo` removes the TSNs up to its argument**, and no others. -/
lemma eraseTo_spec (h : Separated blocks) (tsn : Int) :
    Above tsn (eraseTo blocks tsn) ∧
      ∀ x, Covers (eraseTo blocks tsn) x ↔ Covers blocks x ∧ tsn < x := by
  unfold eraseTo
  cases hsplit : splitAtFirst (fun b => decide (b.last < tsn)) blocks with
  | mk before rest =>
  obtain ⟨rfl, hlo, hit⟩ := splitAtFirst_spec hsplit
  have hnotBef : ∀ x, tsn < x → ¬ Covers before x := fun x hx =>
    not_covers_of_below fun b hb => by
      have := hlo b hb
      omega
  cases rest with
  | nil =>
    rw [append_nil]
    refine ⟨⟨List.Pairwise.nil, by simp, by simp⟩, fun x => ?_⟩
    simp only [covers_nil, false_iff, not_and]
    exact fun hx hlt => hnotBef x hlt hx
  | cons it after =>
    have hit : tsn ≤ it.last := Int.not_lt.mp (hit it rfl)
    obtain ⟨-, hrest, -⟩ := separated_append.mp h
    obtain ⟨hle, hgap, haft⟩ := separated_cons.mp hrest
    have hafterFirst : ∀ b ∈ after, tsn < b.first := fun b hb => by
      have := hgap b hb
      omega
    have hcovAfter : ∀ x, Covers after x → tsn < x := by
      rintro x ⟨b, hb, hx, -⟩
      have := hafterFirst b hb
      omega
    simp only
    split_ifs with hin
    · refine ⟨⟨pairwise_cons.mpr ⟨hgap, haft.gap⟩, ?_, ?_⟩, fun x => ?_⟩
      · exact forall_mem_cons.mpr ⟨Int.lt_succ tsn, hafterFirst⟩
      · refine forall_mem_cons.mpr ⟨?_, fun b hb => .inl (haft.le b hb)⟩
        rcases eq_or_lt_of_le hit with heq | hlt
        · exact .inr ⟨rfl, heq.symm⟩
        · exact .inl hlt
      · have := hnotBef x
        simp only [covers_append, covers_cons, Range.Has]
        grind
    · refine ⟨⟨hrest.gap, ?_, fun b hb => .inl (hrest.le b hb)⟩, fun x => ?_⟩
      · refine forall_mem_cons.mpr ⟨?_, hafterFirst⟩
        omega
      simp only [covers_append, covers_cons, Range.Has]
      grind

/-- The step that `Observe` and `HandleForwardTsn` share: a first block that continues
the cumulative ack is absorbed by it. -/
def advance (cum : Int) : List Range → Int × List Range
  | [] => (cum, [])
  | front :: rest => if front.first = cum + 1 then (front.last, rest) else (cum, front :: rest)

lemma advance_spec {cum : Int} (h : Above cum blocks) :
    cum ≤ (advance cum blocks).1 ∧ Separated (advance cum blocks).2 ∧
      (∀ b ∈ (advance cum blocks).2, (advance cum blocks).1 + 1 < b.first) ∧
      ∀ x, (x ≤ (advance cum blocks).1 ∨ Covers (advance cum blocks).2 x) ↔
        (x ≤ cum ∨ Covers blocks x) := by
  obtain ⟨hgap, hfirst, hle⟩ := h
  cases blocks with
  | nil => exact ⟨le_refl _, separated_nil, by simp [advance], by simp [advance]⟩
  | cons front rest =>
    rw [pairwise_cons] at hgap
    have hfr := hfirst front mem_cons_self
    have hfrontLe := hle front mem_cons_self
    have hrest : Separated rest := by
      refine ⟨fun b hb => ?_, hgap.2⟩
      have h1 := hgap.1 b hb
      have h2 := hle b (mem_cons_of_mem _ hb)
      omega
    simp only [advance]
    split_ifs with hnext
    · refine ⟨by omega, hrest, hgap.1, fun x => ?_⟩
      simp only [covers_cons, Range.Has]
      grind
    refine ⟨le_refl _, separated_cons.mpr ⟨by omega, hgap.1, hrest⟩, ?_, fun x => Iff.rfl⟩
    intro b hb
    rcases mem_cons.mp hb with rfl | hb
    · simp only
      omega
    have := hgap.1 b hb
    omega

end AdditionalTsnBlocks

open AdditionalTsnBlocks

/-! ## DataTracker -/

inductive AckState where
  | idle
  | becomingDelayed
  | delayed
  | immediate
deriving DecidableEq

/-- `DataTracker`. Of the delayed-ack timer it owns a reference to, only whether it
runs matters here. -/
structure DataTracker where
  seenPacket : Bool
  delayedAckTimerRunning : Bool
  ackState : AckState
  tsnUnwrapper : SeqNumUnwrapper 32
  lastCumulativeAckedTsn : Int
  additionalTsnBlocks : List Range
  duplicateTsns : OrdSet TSN
deriving DecidableEq

namespace DataTracker

def kMaxDuplicateTsnReported : Nat := 20

def kMaxGapAckBlocksReported : Nat := 20

def kMaxAcceptedOutstandingFragments : Nat := 100000

def new (peerInitialTsn : TSN) : DataTracker :=
  let (tsn, unwrapper) := (init 32).unwrap (peerInitialTsn - 1)
  { seenPacket := false
    delayedAckTimerRunning := false
    ackState := .idle
    tsnUnwrapper := unwrapper
    lastCumulativeAckedTsn := tsn
    additionalTsnBlocks := []
    duplicateTsns := OrdMap.empty }

def isTSNValid (t : DataTracker) (tsn : TSN) : Bool :=
  difference 32 (t.tsnUnwrapper.peekUnwrap tsn) t.lastCumulativeAckedTsn
    ≤ kMaxAcceptedOutstandingFragments

def updateAckState (t : DataTracker) (newState : AckState) : DataTracker :=
  if newState = t.ackState then t
  else
    { t with
      ackState := newState
      delayedAckTimerRunning :=
        if t.ackState = .delayed then false
        else if newState = .delayed then true
        else t.delayedAckTimerRunning }

def addDuplicate (t : DataTracker) (tsn : TSN) : DataTracker :=
  if t.duplicateTsns.size < kMaxDuplicateTsnReported then
    { t with duplicateTsns := t.duplicateTsns.insert tsn () }
  else t

def observeTsn (t : DataTracker) (tsn : Int) : Bool × DataTracker :=
  if tsn ≤ t.lastCumulativeAckedTsn then
    (true, (t.addDuplicate (wrap 32 tsn)).updateAckState .immediate)
  else if tsn = t.lastCumulativeAckedTsn + 1 then
    let (cum, blocks) := advance tsn t.additionalTsnBlocks
    (false, { t with lastCumulativeAckedTsn := cum, additionalTsnBlocks := blocks })
  else
    let (blocks, inserted) := add t.additionalTsnBlocks tsn
    let t := { t with additionalTsnBlocks := blocks }
    if inserted then (false, t) else (true, t.addDuplicate (wrap 32 tsn))

def delayAck (t : DataTracker) : DataTracker :=
  if t.ackState = .idle then t.updateAckState .becomingDelayed
  else if t.ackState = .delayed then t.updateAckState .immediate
  else t

def immediateIf (t : DataTracker) (c : Bool) : DataTracker :=
  if c then t.updateAckState .immediate else t

def observeAckState (t : DataTracker) (immediateAck : Bool) : DataTracker :=
  let t := t.immediateIf (!t.additionalTsnBlocks.isEmpty)
  let t := t.immediateIf immediateAck
  let t := if t.seenPacket then t else { t with seenPacket := true }.updateAckState .immediate
  t.delayAck

def observe (t : DataTracker) (tsn : TSN) (immediateAck : Bool) : Bool × DataTracker :=
  let (unwrappedTsn, unwrapper) := t.tsnUnwrapper.unwrap tsn
  let (isDuplicate, t) := { t with tsnUnwrapper := unwrapper }.observeTsn unwrappedTsn
  (!isDuplicate, t.observeAckState immediateAck)

def forwardTo (t : DataTracker) (tsn : Int) : Bool × DataTracker :=
  if tsn ≤ t.lastCumulativeAckedTsn then (false, t.updateAckState .immediate)
  else
    let (cum, blocks) := advance tsn
      (eraseTo t.additionalTsnBlocks tsn)
    (true, { t with lastCumulativeAckedTsn := cum, additionalTsnBlocks := blocks }.delayAck)

def handleForwardTsn (t : DataTracker) (newCumulativeAck : TSN) : Bool × DataTracker :=
  let (unwrappedTsn, unwrapper) := t.tsnUnwrapper.unwrap newCumulativeAck
  { t with tsnUnwrapper := unwrapper }.forwardTo unwrappedTsn

/-- `CreateGapAckBlocks`: the offsets are narrowed to 16 bits. -/
def createGapAckBlocks (t : DataTracker) : List GapAckBlock :=
  (t.additionalTsnBlocks.take kMaxGapAckBlocksReported).map fun b =>
    { start := BitVec.ofNat 16 (difference 32 b.first t.lastCumulativeAckedTsn)
      end_ := BitVec.ofNat 16 (difference 32 b.last t.lastCumulativeAckedTsn) }

def createSelectiveAck (t : DataTracker) (aRwnd : Nat) : SackChunk × DataTracker :=
  ({ cumulativeTsnAck := wrap 32 t.lastCumulativeAckedTsn
     aRwnd := BitVec.ofNat 32 aRwnd
     gapAckBlocks := t.createGapAckBlocks
     duplicateTsns := t.duplicateTsns },
   { t with duplicateTsns := OrdMap.empty })

def shouldSendAck (t : DataTracker) (alsoIfDelayed : Bool) : Bool × DataTracker :=
  if t.ackState = .immediate ∨
      (alsoIfDelayed = true ∧ (t.ackState = .becomingDelayed ∨ t.ackState = .delayed)) then
    (true, t.updateAckState .idle)
  else (false, t)

def isLaterThanCumulativeAckedTsn (t : DataTracker) (tsn : TSN) : Bool :=
  t.tsnUnwrapper.peekUnwrap tsn > t.lastCumulativeAckedTsn

def willIncreaseCumAckTsn (t : DataTracker) (tsn : TSN) : Bool :=
  t.tsnUnwrapper.peekUnwrap tsn = t.lastCumulativeAckedTsn + 1

/-- `ForceImmediateSack`: bypasses `UpdateAckState`, so the timer is left as it is. -/
def forceImmediateSack (t : DataTracker) : DataTracker := { t with ackState := .immediate }

def handleDelayedAckTimerExpiry (t : DataTracker) : DataTracker := t.updateAckState .immediate

def observePacketEnd (t : DataTracker) : DataTracker :=
  if t.ackState = .becomingDelayed then t.updateAckState .delayed else t

/-! ## What the acknowledgement state machine leaves alone -/

/-- The part of the tracker that says which TSNs were received. -/
structure SameTsns (t t' : DataTracker) : Prop where
  unwrapper : t'.tsnUnwrapper = t.tsnUnwrapper
  cum : t'.lastCumulativeAckedTsn = t.lastCumulativeAckedTsn
  blocks : t'.additionalTsnBlocks = t.additionalTsnBlocks

lemma SameTsns.refl (t : DataTracker) : SameTsns t t := ⟨rfl, rfl, rfl⟩

lemma SameTsns.trans {a b c : DataTracker} (h : SameTsns a b) (h' : SameTsns b c) :
    SameTsns a c :=
  ⟨h'.unwrapper.trans h.unwrapper, h'.cum.trans h.cum, h'.blocks.trans h.blocks⟩

lemma sameTsns_updateAckState (t : DataTracker) (s : AckState) :
    SameTsns t (t.updateAckState s) := by
  unfold updateAckState
  split <;> exact ⟨rfl, rfl, rfl⟩

lemma sameTsns_addDuplicate (t : DataTracker) (tsn : TSN) : SameTsns t (t.addDuplicate tsn) := by
  unfold addDuplicate
  split <;> exact ⟨rfl, rfl, rfl⟩

lemma sameTsns_delayAck (t : DataTracker) : SameTsns t t.delayAck := by
  unfold delayAck
  split_ifs
  · exact sameTsns_updateAckState t _
  · exact sameTsns_updateAckState t _
  · exact SameTsns.refl t

lemma sameTsns_immediateIf (t : DataTracker) (c : Bool) : SameTsns t (t.immediateIf c) := by
  unfold immediateIf
  split
  · exact sameTsns_updateAckState t _
  · exact SameTsns.refl t

lemma sameTsns_observeAckState (t : DataTracker) (imm : Bool) :
    SameTsns t (t.observeAckState imm) := by
  have hSeen : ∀ t : DataTracker, SameTsns t
      (if t.seenPacket then t else { t with seenPacket := true }.updateAckState .immediate) := by
    intro t
    split
    · exact SameTsns.refl t
    have h := sameTsns_updateAckState { t with seenPacket := true } .immediate
    exact ⟨h.unwrapper, h.cum, h.blocks⟩
  have h1 := sameTsns_immediateIf t (!t.additionalTsnBlocks.isEmpty)
  have h2 := h1.trans (sameTsns_immediateIf _ imm)
  exact (h2.trans (hSeen _)).trans (sameTsns_delayAck _)

/-! ## The set of received TSNs -/

/-- The TSNs the tracker takes for received (or skipped), as unwrapped numbers. -/
def Seen (t : DataTracker) (x : Int) : Prop :=
  x ≤ t.lastCumulativeAckedTsn ∨ Covers t.additionalTsnBlocks x

/-- The blocks lie above the cumulative ack with a gap, and no further above it than
what `IsTSNValid` accepts. -/
structure BlocksInv (t : DataTracker) : Prop where
  separated : Separated t.additionalTsnBlocks
  above : ∀ b ∈ t.additionalTsnBlocks, t.lastCumulativeAckedTsn + 1 < b.first
  near : ∀ b ∈ t.additionalTsnBlocks,
    b.last ≤ t.lastCumulativeAckedTsn + kMaxAcceptedOutstandingFragments

/-- Nor is the number unwrapped last. -/
structure Inv (t : DataTracker) : Prop extends BlocksInv t where
  started : t.tsnUnwrapper.lastValue.isSome
  last : t.tsnUnwrapper.lastUnwrapped
    ≤ t.lastCumulativeAckedTsn + kMaxAcceptedOutstandingFragments

variable {t : DataTracker}

variable {t' : DataTracker}

lemma Seen.congr (h : SameTsns t t') {x : Int} : t'.Seen x ↔ t.Seen x := by
  rw [Seen, Seen, h.cum, h.blocks]

lemma BlocksInv.congr (h : SameTsns t t') (hinv : t.BlocksInv) :
    t'.BlocksInv := by
  obtain ⟨h1, h2, h3⟩ := hinv
  refine ⟨?_, ?_, ?_⟩
  · rwa [h.blocks]
  · rwa [h.blocks, h.cum]
  · rwa [h.blocks, h.cum]

lemma Inv.congr (h : SameTsns t t') (hinv : t.Inv) : t'.Inv := by
  refine ⟨hinv.toBlocksInv.congr h, ?_, ?_⟩
  · rw [h.unwrapper]
    exact hinv.started
  rw [h.unwrapper, h.cum]
  exact hinv.last

lemma inv_new (peerTsn : TSN) : (new peerTsn).Inv :=
  ⟨⟨separated_nil, by simp [new], by simp [new]⟩, rfl,
    Int.le_add_of_nonneg_right (Int.natCast_nonneg _)⟩

lemma not_seen_cum_succ (h : t.BlocksInv) : ¬ t.Seen (t.lastCumulativeAckedTsn + 1) := by
  rintro (hx | hx)
  · omega
  · exact not_covers_of_above h.above hx

lemma Seen.le (h : t.BlocksInv) {x : Int} (hx : t.Seen x) :
    x ≤ t.lastCumulativeAckedTsn + kMaxAcceptedOutstandingFragments := by
  rcases hx with hx | ⟨b, hb, -, hhi⟩
  · have : (0 : Int) ≤ kMaxAcceptedOutstandingFragments := Int.natCast_nonneg _
    omega
  · exact le_trans hhi (h.near b hb)

/-- **Accepted TSNs are near.** `Difference` is computed modulo `2 ^ 32`, but a TSN that
is further above the cumulative ack than that cannot come out of the unwrapper. -/
lemma le_of_isTSNValid (h : t.Inv) {tsn : TSN} (hv : t.isTSNValid tsn = true) :
    t.tsnUnwrapper.peekUnwrap tsn
      ≤ t.lastCumulativeAckedTsn + kMaxAcceptedOutstandingFragments := by
  have hb := (peekUnwrap_bounds h.started tsn (by omega)).2
  have hlast := h.last
  have hdiff : difference 32 (t.tsnUnwrapper.peekUnwrap tsn) t.lastCumulativeAckedTsn
      ≤ kMaxAcceptedOutstandingFragments := of_decide_eq_true hv
  simp only [difference, kMaxAcceptedOutstandingFragments] at hdiff hlast ⊢
  omega

lemma BlocksInv.advance (h : t.BlocksInv) {tsn : Int} {blocks : List Range}
    (hle : t.lastCumulativeAckedTsn ≤ tsn) (habv : Above tsn blocks)
    (hseen : ∀ x, tsn < x → Covers blocks x → t.Seen x) :
    { t with
      lastCumulativeAckedTsn := (AdditionalTsnBlocks.advance tsn blocks).1
      additionalTsnBlocks := (AdditionalTsnBlocks.advance tsn blocks).2 }.BlocksInv := by
  obtain ⟨hcum, hsep, hgap, hcov⟩ := advance_spec habv
  refine ⟨hsep, hgap, fun b hb => ?_⟩
  have := hgap b hb
  have := hsep.le b hb
  rcases (hcov b.last).mp (.inr ⟨b, hb, this, le_refl _⟩) with hlast | hlast
  · omega
  · have := (hseen b.last (by omega) hlast).le h
    dsimp only
    omega

lemma observeTsn_spec (h : t.BlocksInv) {tsn : Int}
    (htsn : tsn ≤ t.lastCumulativeAckedTsn + kMaxAcceptedOutstandingFragments) :
    (t.observeTsn tsn).2.BlocksInv ∧
      ((t.observeTsn tsn).1 = true ↔ t.Seen tsn) ∧
      (∀ x, (t.observeTsn tsn).2.Seen x ↔ t.Seen x ∨ x = tsn) ∧
      (t.observeTsn tsn).2.tsnUnwrapper = t.tsnUnwrapper ∧
      t.lastCumulativeAckedTsn ≤ (t.observeTsn tsn).2.lastCumulativeAckedTsn := by
  unfold observeTsn
  split_ifs with hold hnext
  · -- at or below the cumulative ack
    have hsame : SameTsns t ((t.addDuplicate (wrap 32 tsn)).updateAckState .immediate) :=
      (sameTsns_addDuplicate t _).trans (sameTsns_updateAckState _ _)
    refine ⟨h.congr hsame, ?_, fun x => ?_, hsame.unwrapper, hsame.cum.ge⟩
    · simp only [true_iff]
      exact .inl hold
    rw [Seen.congr hsame]
    constructor
    · exact .inl
    rintro (hx | rfl)
    · exact hx
    · exact .inl hold
  · -- right above it
    have hAbove : Above tsn t.additionalTsnBlocks := by
      refine ⟨h.separated.gap, fun b hb => ?_, fun b hb => .inl (h.separated.le b hb)⟩
      rw [hnext]
      exact h.above b hb
    obtain ⟨hcum, -, -, hcov⟩ := advance_spec hAbove
    refine ⟨h.advance (by omega) hAbove fun _ _ => .inr, ?_, fun x => ?_, rfl, by dsimp only; omega⟩
    · simp only [false_iff, hnext]
      exact not_seen_cum_succ h
    · rw [Seen, hcov x, Seen]
      grind
  · -- above a gap
    obtain ⟨hsep, hcov, hins⟩ := add_spec h.separated tsn
    cases hadd : add t.additionalTsnBlocks tsn with
    | mk blocks inserted =>
    rw [hadd] at hsep hcov hins
    have hseen : ∀ x, (x ≤ t.lastCumulativeAckedTsn ∨ Covers blocks x) ↔ t.Seen x ∨ x = tsn := by
      intro x
      rw [hcov x, Seen]
      grind
    have hinv : { t with additionalTsnBlocks := blocks }.BlocksInv := by
      refine ⟨hsep, fun b hb => ?_, fun b hb => ?_⟩
      · have hfirst := (hcov b.first).mp ⟨b, hb, le_refl _, hsep.le b hb⟩
        rcases hfirst with ⟨b', hb', hlo, -⟩ | hfirst
        · have := h.above b' hb'
          simp only
          omega
        · simp only
          omega
      have hlast := (hcov b.last).mp ⟨b, hb, hsep.le b hb, le_refl _⟩
      rcases hlast with ⟨b', hb', -, hhi⟩ | hlast
      · have := h.near b' hb'
        simp only
        omega
      · simp only
        omega
    have hseenIff : t.Seen tsn ↔ Covers t.additionalTsnBlocks tsn := by
      exact or_iff_right hold
    cases inserted with
    | true =>
      refine ⟨hinv, ?_, hseen, rfl, le_refl _⟩
      simp only [if_true, Bool.false_eq_true, false_iff, hseenIff]
      exact hins.mp rfl
    | false =>
      have hsame := sameTsns_addDuplicate { t with additionalTsnBlocks := blocks } (wrap 32 tsn)
      refine ⟨hinv.congr hsame, ?_, fun x => ?_, hsame.unwrapper, hsame.cum.ge⟩
      · simp only [Bool.false_eq_true, if_false, true_iff, hseenIff]
        by_contra hcon
        exact absurd (hins.mpr hcon) (by simp)
      · exact (Seen.congr hsame).trans (hseen x)

/-- **`Observe` enters its TSN**, and returns whether it was seen for the first time. -/
lemma observe_spec (h : t.Inv) {tsn : TSN} (hv : t.isTSNValid tsn = true) (imm : Bool) :
    (t.observe tsn imm).2.Inv ∧
      ((t.observe tsn imm).1 = true ↔ ¬ t.Seen (t.tsnUnwrapper.peekUnwrap tsn)) ∧
      (∀ x, (t.observe tsn imm).2.Seen x ↔ t.Seen x ∨ x = t.tsnUnwrapper.peekUnwrap tsn) ∧
      (t.observe tsn imm).2.tsnUnwrapper = (t.tsnUnwrapper.unwrap tsn).2 ∧
      t.lastCumulativeAckedTsn ≤ (t.observe tsn imm).2.lastCumulativeAckedTsn := by
  have hle := le_of_isTSNValid h hv
  have h0 : { t with tsnUnwrapper := (t.tsnUnwrapper.unwrap tsn).2 }.BlocksInv :=
    ⟨h.separated, h.above, h.near⟩
  obtain ⟨hinv, hdup, hseen, hunw, hcum⟩ := observeTsn_spec h0 hle
  have hsame := sameTsns_observeAckState
    (observeTsn { t with tsnUnwrapper := (t.tsnUnwrapper.unwrap tsn).2 }
      (t.tsnUnwrapper.peekUnwrap tsn)).2 imm
  have hlast : (t.tsnUnwrapper.unwrap tsn).2.lastUnwrapped
      ≤ (t.observe tsn imm).2.lastCumulativeAckedTsn + kMaxAcceptedOutstandingFragments :=
    hle.trans (Int.add_le_add_right (hcum.trans (hsame.cum.ge)) _)
  have hunw' : (t.observe tsn imm).2.tsnUnwrapper = (t.tsnUnwrapper.unwrap tsn).2 :=
    hsame.unwrapper.trans hunw
  refine ⟨⟨hinv.congr hsame, by rw [hunw']; rfl, by rwa [hunw']⟩, ?_, fun x => (Seen.congr hsame).trans (hseen x),
    hunw', hcum.trans (hsame.cum.ge)⟩
  simp only [observe, unwrap_fst, Bool.not_eq_true', ← Bool.not_eq_true, hdup]
  exact Iff.rfl

lemma forwardTo_spec (h : t.BlocksInv) (tsn : Int) : (t.forwardTo tsn).2.BlocksInv ∧
    (∀ x, (t.forwardTo tsn).2.Seen x ↔ t.Seen x ∨ x ≤ tsn) ∧
    (t.forwardTo tsn).2.tsnUnwrapper = t.tsnUnwrapper ∧
    t.lastCumulativeAckedTsn ≤ (t.forwardTo tsn).2.lastCumulativeAckedTsn ∧
    tsn ≤ (t.forwardTo tsn).2.lastCumulativeAckedTsn := by
  unfold forwardTo
  split_ifs with hold
  · have hsame := sameTsns_updateAckState t .immediate
    refine ⟨h.congr hsame, fun x => ?_, hsame.unwrapper, hsame.cum.ge,
      hold.trans (hsame.cum.ge)⟩
    rw [Seen.congr hsame]
    constructor
    · exact .inl
    rintro (hx | hx)
    · exact hx
    · exact .inl (le_trans hx hold)
  obtain ⟨habv, hcovErase⟩ := eraseTo_spec h.separated tsn
  obtain ⟨hcum, -, -, hcov⟩ := advance_spec habv
  have hinv := h.advance (le_of_not_ge hold) habv fun x _ hc => .inr ((hcovErase x).mp hc).1
  have hsame := sameTsns_delayAck
    { t with
      lastCumulativeAckedTsn := (advance tsn (eraseTo t.additionalTsnBlocks tsn)).1
      additionalTsnBlocks := (advance tsn (eraseTo t.additionalTsnBlocks tsn)).2 }
  refine ⟨hinv.congr hsame, fun x => (Seen.congr hsame).trans ?_, hsame.unwrapper, ?_, ?_⟩
  · rw [Seen, hcov x, hcovErase x, Seen]
    grind
  · rw [hsame.cum]
    simp only
    omega
  · rw [hsame.cum]
    exact hcum

/-- **`HandleForwardTsn` skips everything up to its TSN**, whatever TSN that is. -/
lemma handleForwardTsn_spec (h : t.Inv) (tsn : TSN) : (t.handleForwardTsn tsn).2.Inv ∧
    (∀ x, (t.handleForwardTsn tsn).2.Seen x ↔ t.Seen x ∨ x ≤ t.tsnUnwrapper.peekUnwrap tsn) ∧
    (t.handleForwardTsn tsn).2.tsnUnwrapper = (t.tsnUnwrapper.unwrap tsn).2 ∧
    t.lastCumulativeAckedTsn ≤ (t.handleForwardTsn tsn).2.lastCumulativeAckedTsn := by
  have hMax : (0 : Int) ≤ kMaxAcceptedOutstandingFragments := Int.natCast_nonneg _
  have h0 : { t with tsnUnwrapper := (t.tsnUnwrapper.unwrap tsn).2 }.BlocksInv :=
    ⟨h.separated, h.above, h.near⟩
  obtain ⟨hinv, hseen, hunw, hcum, htsn⟩ := forwardTo_spec h0 (t.tsnUnwrapper.peekUnwrap tsn)
  have hunw' : (t.handleForwardTsn tsn).2.tsnUnwrapper = (t.tsnUnwrapper.unwrap tsn).2 := hunw
  have hlast : (t.tsnUnwrapper.unwrap tsn).2.lastUnwrapped
      ≤ (t.handleForwardTsn tsn).2.lastCumulativeAckedTsn + kMaxAcceptedOutstandingFragments :=
    htsn.trans (Int.le_add_of_nonneg_right hMax)
  exact ⟨⟨hinv, by rw [hunw']; rfl, by rwa [hunw']⟩, hseen, hunw', hcum⟩

lemma sameTsns_createSelectiveAck (t : DataTracker) (aRwnd : Nat) :
    SameTsns t (t.createSelectiveAck aRwnd).2 := ⟨rfl, rfl, rfl⟩

lemma sameTsns_shouldSendAck (t : DataTracker) (also : Bool) :
    SameTsns t (t.shouldSendAck also).2 := by
  unfold shouldSendAck
  split
  · exact sameTsns_updateAckState t _
  · exact SameTsns.refl t

lemma sameTsns_observePacketEnd (t : DataTracker) : SameTsns t t.observePacketEnd := by
  unfold observePacketEnd
  split
  · exact sameTsns_updateAckState t _
  · exact SameTsns.refl t

end DataTracker

end WebRtc.Dcsctp
