import WebRtc.Lib.MachineInt
import WebRtc.Lib.Run
import WebRtc.Numerics.SeqNum

/-!
# WebRTC — the loss figures of receiver reports

`StreamStatisticianImpl::UpdateCounters` and `MaybeAppendReportBlockAndReset`. A packet far from
the highest number is held back; when the next one follows it, the stream is taken to have
restarted. A restart resets the base of the expected packets but not the base of the lost ones, so
the fraction is right only if no more than the restart's own two packets had been lost since the
last report (`Harmless`). The three counters of lost packets are `int32_t`s. While one packet is
handled they are only added to, so they are narrowed at its end (`asInt`).
-/

namespace WebRtc.Rtp

open Numerics Lib

structure ReportBlock where
  fractionLost : BitVec 8
  cumulativeLost : Int
  extHighestSeqNum : BitVec 32
deriving DecidableEq

structure StreamStatistician where
  maxReorderingThreshold : Int
  cumulativeLoss : Int := 0
  cumulativeLossRtcpOffset : Int := 0
  transmittedPackets : Nat := 0
  lastReceiveTime : Option Int := none
  seqUnwrapper : SeqNumUnwrapper 16 := .init 16
  receivedSeqFirst : Int := -1
  receivedSeqMax : Int := -1
  receivedSeqOutOfOrder : Option (BitVec 16) := none
  lastReportCumulativeLoss : Int := 0
  lastReportSeqMax : Int := -1

namespace StreamStatistician

variable (s : StreamStatistician)

def checkGap (seq : BitVec 16) (sequenceNumber : Int) : Bool × StreamStatistician :=
  if s.maxReorderingThreshold < |sequenceNumber - s.receivedSeqMax| then
    (true, { s with receivedSeqOutOfOrder := some seq, cumulativeLoss := s.cumulativeLoss + 1 })
  else (decide (sequenceNumber ≤ s.receivedSeqMax), s)

/-- `UpdateOutOfOrder`, without the detection of retransmissions. -/
def updateOutOfOrder (seq : BitVec 16) (sequenceNumber : Int) : Bool × StreamStatistician :=
  match s.receivedSeqOutOfOrder with
  | none => s.checkGap seq sequenceNumber
  | some held =>
    let s := { s with cumulativeLoss := s.cumulativeLoss - 1, receivedSeqOutOfOrder := none }
    if seq = held + 1 then
      (false, { s with
        lastReportSeqMax := sequenceNumber - 2
        receivedSeqMax := sequenceNumber - 2 })
    else s.checkGap seq sequenceNumber

def narrowLoss : StreamStatistician := { s with cumulativeLoss := asInt s.cumulativeLoss }

def updateCounters (seq : BitVec 16) (now : Int) : StreamStatistician :=
  let s := { s with
    transmittedPackets := s.transmittedPackets + 1
    cumulativeLoss := s.cumulativeLoss - 1 }
  let sequenceNumber := s.seqUnwrapper.peekUnwrap seq
  let (outOfOrder, s) :=
    if s.lastReceiveTime.isNone then
      (false, { s with
        receivedSeqFirst := sequenceNumber
        lastReportSeqMax := sequenceNumber - 1
        receivedSeqMax := sequenceNumber - 1 })
    else s.updateOutOfOrder seq sequenceNumber
  if outOfOrder then s.narrowLoss
  else
    { s with
      cumulativeLoss := s.cumulativeLoss + (sequenceNumber - s.receivedSeqMax)
      receivedSeqMax := sequenceNumber
      seqUnwrapper := (s.seqUnwrapper.unwrap seq).2
      lastReceiveTime := some now }.narrowLoss

def expSinceLast : Int := s.receivedSeqMax - s.lastReportSeqMax

def lostSinceLast : Int := asInt (s.cumulativeLoss - s.lastReportCumulativeLoss)

/-- The argument of `SetFractionLost`: a product of `int`s, a division that truncates, and the
conversion to the field's eight bits. -/
def fractionLost : BitVec 8 :=
  if 0 < s.expSinceLast ∧ 0 < s.lostSinceLast then
    BitVec.ofInt 8 ((asInt (255 * s.lostSinceLast)).tdiv s.expSinceLast)
  else 0

def maybeAppendReportBlockAndReset (now : Int) : Option ReportBlock × StreamStatistician :=
  match s.lastReceiveTime with
  | none => (none, s)
  | some lastReceiveTime =>
    if 8000 ≤ now - lastReceiveTime then (none, s)
    else
      let lost := asInt (s.cumulativeLoss + s.cumulativeLossRtcpOffset)
      let offset := if lost < 0 then asInt (-s.cumulativeLoss) else s.cumulativeLossRtcpOffset
      (some ⟨s.fractionLost, min (max lost 0) 0x7fffff, BitVec.ofInt 32 s.receivedSeqMax⟩,
        { s with
          cumulativeLossRtcpOffset := offset
          lastReportCumulativeLoss := s.cumulativeLoss
          lastReportSeqMax := s.receivedSeqMax })

/-! ## One packet -/

def restarts (seq : BitVec 16) : Bool :=
  s.lastReceiveTime.isSome && s.receivedSeqOutOfOrder.any (seq == · + 1)

def pending : Int := if s.receivedSeqOutOfOrder.isSome then 1 else 0

variable {s} {s' : StreamStatistician} {seq : BitVec 16} {now : Int}

/-- What a packet does to the counters: it is the first one, it completes a restart, or it
moves the highest number forward by some amount, which may be nothing. -/
lemma updateCounters_cases (h : s.updateCounters seq now = s') :
    s'.lastReceiveTime.isSome ∧ s'.transmittedPackets = s.transmittedPackets + 1 ∧
    s'.lastReportCumulativeLoss = s.lastReportCumulativeLoss ∧
    (s.lastReceiveTime = none ∧ s'.pending = s.pending ∧ s'.cumulativeLoss = asInt s.cumulativeLoss ∧
        s'.receivedSeqMax = s'.receivedSeqFirst ∧ s'.expSinceLast = 1 ∨
      s.restarts seq ∧ s'.cumulativeLoss = asInt s.cumulativeLoss ∧ s'.expSinceLast = 2 ∨
      s.lastReceiveTime ≠ none ∧ s.receivedSeqMax ≤ s'.receivedSeqMax ∧
        s'.receivedSeqFirst = s.receivedSeqFirst ∧ s'.lastReportSeqMax = s.lastReportSeqMax ∧
        s'.cumulativeLoss = asInt (s.cumulativeLoss - 1 - s.pending + s'.pending +
          (s'.receivedSeqMax - s.receivedSeqMax))) := by
  subst h
  obtain ⟨limit, loss, offset, count, last, unwrapper, first, top, held, lastLoss, lastTop⟩ := s
  unfold updateCounters updateOutOfOrder checkGap pending expSinceLast restarts narrowLoss
  cases last with
  | none => simp
  | some last =>
    cases held with
    | none =>
      by_cases hgap : limit < |unwrapper.peekUnwrap seq - top|
      · simp [hgap]
      by_cases hle : unwrapper.peekUnwrap seq ≤ top
      · simp [hgap, hle]
      · simp [hgap, hle, (not_le.mp hle).le]
    | some held =>
      by_cases hseq : seq = held + 1#16
      · simp [hseq]
        exact .inl (congrArg asInt (by omega))
      by_cases hgap : limit < |unwrapper.peekUnwrap seq - top|
      · simp [hseq, hgap]
      by_cases hle : unwrapper.peekUnwrap seq ≤ top
      · simp [hseq, hgap, hle]
      · simp [hseq, hgap, hle, (not_le.mp hle).le]

/-! ## Runs -/

inductive Event where
  | packet (seq : BitVec 16) (now : Int)
  | report (now : Int)

def step (s : StreamStatistician) : Event → StreamStatistician
  | .packet seq now => s.updateCounters seq now
  | .report now => (s.maybeAppendReportBlockAndReset now).2

def Continues (s : StreamStatistician) : Event → Prop
  | .packet seq _ => s.restarts seq = false
  | .report _ => True

/-- A restart is completed only with at most two packets lost since the last report, and no packet
arrives when the duplicates since then have taken the lost packets to the end of the `int32_t`. -/
def Harmless (s : StreamStatistician) : Event → Prop
  | .packet seq _ => (s.restarts seq = true → s.lostSinceLast ≤ 2) ∧ -2 ^ 31 + 2 ≤ s.lostSinceLast
  | .report _ => True

instance Harmless.decidable (s : StreamStatistician) : ∀ e, Decidable (s.Harmless e)
  | .packet seq _ => inferInstanceAs (Decidable
      ((s.restarts seq = true → s.lostSinceLast ≤ 2) ∧ -2 ^ 31 + 2 ≤ s.lostSinceLast))
  | .report _ => isTrue trivial

lemma report_cases (s : StreamStatistician) (now : Int) :
    (s.maybeAppendReportBlockAndReset now).2 = s ∨
    ∃ offset, (s.maybeAppendReportBlockAndReset now).2 = { s with
      cumulativeLossRtcpOffset := offset
      lastReportCumulativeLoss := s.cumulativeLoss
      lastReportSeqMax := s.receivedSeqMax } := by
  unfold maybeAppendReportBlockAndReset
  split
  · exact .inl rfl
  split
  · exact .inl rfl
  · exact .inr ⟨_, rfl⟩

/-- Nothing has been counted before the first packet, and no fewer than no packets are expected. -/
structure Counted (s : StreamStatistician) : Prop where
  fresh : s.lastReceiveTime = none → s.cumulativeLoss = 0 ∧ s.lastReportCumulativeLoss = 0 ∧
    s.transmittedPackets = 0 ∧ s.pending = 0
  expected : 0 ≤ s.expSinceLast

lemma Counted.step (h : Counted s) (e : Event) : Counted (s.step e) := by
  cases e with
  | packet seq now =>
    show Counted (s.updateCounters seq now)
    generalize hs : s.updateCounters seq now = s'
    obtain ⟨hsome, -, -, hcse⟩ := updateCounters_cases hs
    have hexp := h.expected
    unfold expSinceLast at hexp hcse
    refine ⟨fun hnone => ?_, show 0 ≤ s'.receivedSeqMax - s'.lastReportSeqMax by omega⟩
    rw [hnone] at hsome
    cases hsome
  | report now =>
    show Counted (s.maybeAppendReportBlockAndReset now).2
    obtain heq | ⟨offset, heq⟩ := report_cases s now
    · rwa [heq]
    rw [heq]
    refine ⟨fun hnone => ?_, (sub_self _).ge⟩
    obtain ⟨hloss, -, hrest⟩ := h.fresh hnone
    exact ⟨hloss, hloss, hrest⟩

/-- The packets expected so far less those received; one that is held back is not received yet. -/
def balance (s : StreamStatistician) : Int :=
  s.receivedSeqMax - s.receivedSeqFirst + 1 - (s.transmittedPackets - s.pending)

def Balanced (s : StreamStatistician) : Prop :=
  s.lastReceiveTime ≠ none → s.cumulativeLoss = asInt s.balance

lemma Balanced.step {e : Event} (hc : Counted s) (h : Balanced s) (hok : s.Continues e) :
    Balanced (s.step e) := by
  cases e with
  | packet seq now =>
    have hok : s.restarts seq = false := hok
    show Balanced (s.updateCounters seq now)
    generalize hs : s.updateCounters seq now = s'
    obtain ⟨-, hcount, -, hcases⟩ := updateCounters_cases hs
    intro _
    obtain ⟨hnone, hpending, hloss, hmax, -⟩ | ⟨hrestart, -⟩ | ⟨hsome, -, hfirst, -, hloss⟩ := hcases
    · obtain ⟨hzero, -, hreceived, hpending₀⟩ := hc.fresh hnone
      rw [hloss, hzero, balance]
      exact congrArg asInt (by omega)
    · exact absurd (hok.symm.trans hrestart) Bool.false_ne_true
    -- the old loss is the old balance up to a multiple of `2 ^ 32`
    have hsum : s.cumulativeLoss - 1 - s.pending + s'.pending + (s'.receivedSeqMax - s.receivedSeqMax) =
        asInt s.balance + (s'.pending - s.pending - 1 + (s'.receivedSeqMax - s.receivedSeqMax)) := by
      rw [← h hsome]
      ring
    rw [hloss, hsum, asInt_asInt_add]
    unfold balance
    exact congrArg asInt (by omega)
  | report now =>
    show Balanced (s.maybeAppendReportBlockAndReset now).2
    obtain heq | ⟨offset, heq⟩ := report_cases s now
    · rwa [heq]
    rw [heq]
    exact h

lemma lost_le_step {e : Event} (hc : Counted s) (h : s.lostSinceLast ≤ s.expSinceLast)
    (hok : s.Harmless e) : (s.step e).lostSinceLast ≤ (s.step e).expSinceLast := by
  cases e with
  | packet seq now =>
    show (s.updateCounters seq now).lostSinceLast ≤ (s.updateCounters seq now).expSinceLast
    generalize hs : s.updateCounters seq now = s'
    obtain ⟨-, -, hlast, hcases⟩ := updateCounters_cases hs
    have hpending : 0 ≤ s.pending ∧ s.pending ≤ 1 ∧ 0 ≤ s'.pending ∧ s'.pending ≤ 1 := by
      unfold pending
      refine ⟨?_, ?_, ?_, ?_⟩ <;> split <;> decide
    obtain ⟨hrestarts, hlow⟩ : (s.restarts seq = true → s.lostSinceLast ≤ 2) ∧
      -2 ^ 31 + 2 ≤ s.lostSinceLast := hok
    -- what is lost after the packet, if the loss has changed by `change`
    have hlost (change : Int) (h : s'.cumulativeLoss = asInt (s.cumulativeLoss + change)) :
        s'.lostSinceLast = asInt (s.lostSinceLast + change) := by
      unfold lostSinceLast
      rw [h, hlast, sub_eq_add_neg, asInt_asInt_add, asInt_asInt_add]
      exact congrArg asInt (by ring)
    obtain ⟨hnone, -, hloss, -, hexp⟩ | ⟨hrestart, hloss, hexp⟩ | ⟨-, hmax, -, hbase, hloss⟩ := hcases
    · obtain ⟨hzero, hlastZero, -⟩ := hc.fresh hnone
      have hnothing : s'.lostSinceLast = 0 := by
        rw [lostSinceLast, hloss, hlast, hzero, hlastZero]
        rfl
      omega
    · rw [hlost 0 (by rw [hloss, add_zero]), add_zero, asInt_of_range (by omega)
        (by have := hrestarts hrestart; omega), hexp]
      exact hrestarts hrestart
    · have hchange : s'.lostSinceLast = asInt (s.lostSinceLast +
          (s'.pending - s.pending - 1 + (s'.receivedSeqMax - s.receivedSeqMax))) :=
        hlost _ (by rw [hloss]; exact congrArg asInt (by ring))
      have hle := asInt_le (x := s.lostSinceLast +
        (s'.pending - s.pending - 1 + (s'.receivedSeqMax - s.receivedSeqMax))) (by omega)
      unfold expSinceLast at h ⊢
      omega
  | report now =>
    show (s.maybeAppendReportBlockAndReset now).2.lostSinceLast ≤
      (s.maybeAppendReportBlockAndReset now).2.expSinceLast
    obtain heq | ⟨offset, heq⟩ := report_cases s now
    · rwa [heq]
    rw [heq]
    show asInt (s.cumulativeLoss - s.cumulativeLoss) ≤ s.receivedSeqMax - s.receivedSeqMax
    rw [sub_self, sub_self]
    decide

/-- The fraction is the exact one when no more packets are lost than expected and the product
fits the `int`. -/
lemma fractionLost_eq (hexp : 0 ≤ s.expSinceLast) (hle : s.lostSinceLast ≤ s.expSinceLast)
    (hfits : 255 * s.lostSinceLast < 2 ^ 31) :
    ∃ lost, 0 ≤ lost ∧ lost ≤ s.expSinceLast ∧
      (s.fractionLost.toNat : Int) = 255 * lost / s.expSinceLast := by
  unfold fractionLost
  split
  next hpos =>
    refine ⟨s.lostSinceLast, hpos.2.le, hle, ?_⟩
    have hdiv : 255 * s.lostSinceLast / s.expSinceLast ≤ 255 :=
      Int.ediv_le_of_le_mul hpos.1 (by omega)
    have hnonneg : 0 ≤ 255 * s.lostSinceLast / s.expSinceLast :=
      Int.ediv_nonneg (by omega) hexp
    rw [asInt_of_range (by omega) (by omega), Int.tdiv_eq_ediv_of_nonneg (by omega),
      BitVec.toNat_ofInt]
    omega
  next => exact ⟨0, le_rfl, hexp, by simp⟩

def init (maxReorderingThreshold : Int) : StreamStatistician := { maxReorderingThreshold }

lemma counted_init (limit : Int) : Counted (init limit) := ⟨fun _ => ⟨rfl, rfl, rfl, rfl⟩, le_rfl⟩

/-- In every run no negative number of packets is expected; while there is no restart and the balance
fits the `int32_t`, the cumulative loss is the balance; and while every event is harmless, each
report that can be requested has the floor of 255 times lost over expected as its fraction. -/
theorem loss_figures_of_harmless (limit : Int) (evs : List Event) :
    0 ≤ (run step (init limit) evs).expSinceLast ∧
    (Along step Continues (init limit) evs → (run step (init limit) evs).lastReceiveTime ≠ none →
      -2 ^ 31 ≤ (run step (init limit) evs).balance → (run step (init limit) evs).balance < 2 ^ 31 →
      (run step (init limit) evs).cumulativeLoss = (run step (init limit) evs).balance) ∧
    (Along step Harmless (init limit) evs →
      255 * (run step (init limit) evs).lostSinceLast < 2 ^ 31 →
      ∀ now block, ((run step (init limit) evs).maybeAppendReportBlockAndReset now).1 = some block →
        ∃ lost, 0 ≤ lost ∧ lost ≤ (run step (init limit) evs).expSinceLast ∧
          (block.fractionLost.toNat : Int) =
            255 * lost / (run step (init limit) evs).expSinceLast) := by
  have hcounted : Counted (run step (init limit) evs) :=
    run_induction (fun _ e h => h.step e) evs (counted_init limit)
  refine ⟨hcounted.expected, fun hok hsome hlow hhigh => ?_, fun hok hfits now block hblock => ?_⟩
  · refine ((run_induction_along (P := fun s => Counted s ∧ Balanced s)
      (fun s e h hok => ⟨h.1.step e, h.2.step h.1 hok⟩) evs _
      ⟨counted_init limit, fun h => absurd rfl h⟩ hok).2 hsome).trans ?_
    exact asInt_of_range hlow hhigh
  have hle := (run_induction_along (P := fun s => Counted s ∧ s.lostSinceLast ≤ s.expSinceLast)
    (fun s e h hok => ⟨h.1.step e, lost_le_step h.1 h.2 hok⟩) evs _
    ⟨counted_init limit, le_rfl⟩ hok).2
  have hfraction : block.fractionLost = (run step (init limit) evs).fractionLost := by
    unfold maybeAppendReportBlockAndReset at hblock
    grind
  rw [hfraction]
  exact fractionLost_eq hcounted.expected hle hfits

theorem loss_figures_at_restart :
    ((run step (init 50) [.packet 0 0, .packet 3 0, .packet 1000 0, .packet 1001 0]
      |>.maybeAppendReportBlockAndReset 0).1.map (·.fractionLost)) = some 255 ∧
    ∃ lost, 0 ≤ lost ∧ lost ≤ (2 : Int) ∧ (255 : Int) = 255 * lost / 2 :=
  ⟨by decide +kernel, (loss_figures_of_harmless 50
    [.packet 0 0, .packet 3 0, .packet 1000 0, .packet 1001 0]).2.2 (by decide +kernel)
    (by decide +kernel) 0 ⟨255, 2, 1001⟩ (by decide +kernel)⟩

/-- Thirty-nine packets are lost, then the stream restarts: the report says 108 of 255 with two
packets expected. -/
theorem fraction_wraps_at_restart :
    ((run step (init 50) [.packet 0 0, .packet 40 0, .packet 1000 0, .packet 1001 0]
      |>.maybeAppendReportBlockAndReset 0).1.map (·.fractionLost)) = some 108 ∧
    (run step (init 50) [.packet 0 0, .packet 40 0, .packet 1000 0, .packet 1001 0]).expSinceLast
      = 2 ∧
    ∀ lost : Int, 0 ≤ lost → lost ≤ 2 → 255 * lost / 2 ≠ 108 :=
  ⟨by decide +kernel, by decide +kernel, fun lost h0 h2 => by omega⟩

end StreamStatistician

end WebRtc.Rtp
