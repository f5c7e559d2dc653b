import WebRtc.CongestionControl.TransportFeedbackAdapter
import WebRtc.Lib.Run

/-!
# WebRTC — the receiver's side of congestion control feedback

`CongestionControlFeedbackTracker` for one SSRC. A report goes through the numbers from the one
after the last report to the newest packet, but stops after 16384 of them while
`last_sequence_number_in_feedback_` is set to the newest packet all the same. It is complete when
every packet is within that many numbers (`InReach`).
-/

namespace WebRtc.CongestionControl

open Numerics Lib List

/-- The fields of `RtpPacketReceived` that the tracker reads, all of one SSRC. -/
structure RtpPacketReceived where
  sequenceNumber : BitVec 16
  arrivalTime : Int
  ecn : EcnMarking
deriving DecidableEq

structure TrackedPacket where
  unwrapped : Int
  arrivalTime : Int
  ecn : EcnMarking
deriving DecidableEq

structure FeedbackTracker where
  lastInFeedback : Option Int := none
  unwrapper : SeqNumUnwrapper 16 := .init 16
  packets : List TrackedPacket := []

def TrackedPacket.key (p : TrackedPacket) : Lex (Int × Int) := toLex (p.unwrapped, p.arrivalTime)

lemma unwrapped_le_of_key_le {a b : TrackedPacket} (h : a.key ≤ b.key) :
    a.unwrapped ≤ b.unwrapped :=
  (Prod.Lex.toLex_le_toLex.mp h).elim le_of_lt fun h => h.1.le

def TrackedPacket.onWire (p : TrackedPacket) : RtpPacketReceived :=
  ⟨wrap 16 p.unwrapped, p.arrivalTime, p.ecn⟩

def maxPacketsPerSsrc : Nat := 16384

namespace FeedbackTracker

def receivedPacket (t : FeedbackTracker) (packet : RtpPacketReceived) : FeedbackTracker :=
  if maxPacketsPerSsrc < t.packets.length then t
  else
    let n := t.unwrapper.peekUnwrap packet.sequenceNumber
    { unwrapper := (t.unwrapper.unwrap packet.sequenceNumber).2
      lastInFeedback := t.lastInFeedback.map fun last => if n < last + 1 then n - 1 else last
      packets := t.packets ++ [⟨n, packet.arrivalTime, packet.ecn⟩] }

section Report

variable (ssrc : BitVec 32) (feedbackTime : Int)

/-- The entry for a number, given the packets with this number in the order of arrival. -/
def reported (n : Int) : List TrackedPacket → PacketInfo
  | [] => { ssrc, sequenceNumber := wrap 16 n }
  | p :: copies =>
    { ssrc
      sequenceNumber := wrap 16 n
      arrivalTimeOffset := some (feedbackTime - p.arrivalTime)
      ecn := if copies.any (·.ecn == .ce) then .ce else p.ecn }

def report : Nat → Int → List TrackedPacket → List PacketInfo
  | 0, _, _ => []
  | count + 1, n, ps =>
    reported ssrc feedbackTime n (ps.takeWhile (·.unwrapped == n)) ::
      report count (n + 1) (ps.dropWhile (·.unwrapped == n))

def addPacketsToFeedback (t : FeedbackTracker) : List PacketInfo × FeedbackTracker :=
  match t.packets.insertionSort (·.key ≤ ·.key) with
  | [] => ([], t)
  | front :: rest =>
    let back := rest.getLastD front
    let last := t.lastInFeedback.getD (front.unwrapped - 1)
    (report ssrc feedbackTime (min (back.unwrapped - last) maxPacketsPerSsrc).toNat (last + 1)
        (front :: rest),
      { t with lastInFeedback := some back.unwrapped, packets := [] })

/-! ## The loop -/

variable {ps : List TrackedPacket} {n : Int}

lemma span_sorted (hs : ps.Pairwise fun a b => a.unwrapped ≤ b.unwrapped)
    (hn : ∀ p ∈ ps, n ≤ p.unwrapped) :
    ps.takeWhile (·.unwrapped == n) = ps.filter (·.unwrapped == n) ∧
    ∀ p ∈ ps.dropWhile (·.unwrapped == n), n + 1 ≤ p.unwrapped := by
  induction ps with
  | nil => simp
  | cons p ps ih =>
    rw [pairwise_cons] at hs
    by_cases hp : p.unwrapped = n
    · simpa [hp] using ih hs.2 fun q hq => hn q (mem_cons_of_mem p hq)
    have hlt : ∀ q ∈ p :: ps, n + 1 ≤ q.unwrapped := by
      have hfirst := hn p mem_cons_self
      simp only [forall_mem_cons]
      exact ⟨by omega, fun q hq => by have := hs.1 q hq; omega⟩
    have hnil : (p :: ps).filter (·.unwrapped == n) = [] := by
      refine filter_eq_nil_iff.mpr fun q hq => ?_
      have := hlt q hq
      simp
      omega
    rw [hnil]
    simpa [hp] using hlt

lemma filter_dropWhile {k : Int} (hk : k ≠ n) :
    (ps.dropWhile (·.unwrapped == n)).filter (·.unwrapped == k) =
      ps.filter (·.unwrapped == k) := by
  induction ps with
  | nil => rfl
  | cons p ps ih =>
    by_cases hp : p.unwrapped = n
    · simp [hp, ih, hk.symm]
    · simp [hp]

lemma report_eq (count : Nat) (hs : ps.Pairwise fun a b => a.unwrapped ≤ b.unwrapped)
    (hn : ∀ p ∈ ps, n ≤ p.unwrapped) :
    report ssrc feedbackTime count n ps = (range count).map fun i : Nat =>
      reported ssrc feedbackTime (n + i) (ps.filter (·.unwrapped == n + i)) := by
  induction count generalizing n ps with
  | zero => rfl
  | succ count ih =>
    obtain ⟨htake, hdrop⟩ := span_sorted hs hn
    rw [report, range_succ_eq_map, map_cons, map_map, htake,
      ih (hs.sublist (dropWhile_sublist _)) hdrop]
    simp only [Nat.cast_zero, add_zero, cons.injEq, true_and]
    refine map_congr_left fun i _ => ?_
    have hi : n + 1 + i = n + (i + 1 : Nat) := by omega
    rw [Function.comp_apply, filter_dropWhile (by omega), hi]

lemma sequenceNumber_reported (ps : List TrackedPacket) :
    (reported ssrc feedbackTime n ps).sequenceNumber = wrap 16 n := by
  cases ps <;> rfl

structure Complete (received : List RtpPacketReceived) (out : List PacketInfo) : Prop where
  consecutive : ∃ first : Int,
    out.map (·.sequenceNumber) = (range out.length).map fun i : Nat => wrap 16 (first + i)
  nodup : (out.map (·.sequenceNumber)).Nodup
  covered : ∀ p ∈ received, ∃ info ∈ out, info.sequenceNumber = p.sequenceNumber ∧
    (∃ q ∈ received, q.sequenceNumber = p.sequenceNumber ∧
      info.arrivalTimeOffset = some (feedbackTime - q.arrivalTime) ∧
      ∀ r ∈ received, r.sequenceNumber = p.sequenceNumber → q.arrivalTime ≤ r.arrivalTime) ∧
    ((∃ r ∈ received, r.sequenceNumber = p.sequenceNumber ∧ r.ecn = .ce) → info.ecn = .ce)
  genuine : ∀ info ∈ out, info.arrivalTimeOffset ≠ none →
    ∃ p ∈ received, p.sequenceNumber = info.sequenceNumber

lemma complete_of_bounds {received : List RtpPacketReceived} {count : Nat}
    (hrecv : ∀ r, r ∈ received ↔ ∃ p ∈ ps, p.onWire = r)
    (hs : ps.Pairwise fun a b => a.key ≤ b.key) (hcount : count ≤ maxPacketsPerSsrc)
    (hb : ∀ p ∈ ps, n ≤ p.unwrapped ∧ p.unwrapped < n + count) :
    Complete feedbackTime received (report ssrc feedbackTime count n ps) := by
  have hle : count ≤ 16384 := hcount
  rw [report_eq ssrc feedbackTime count (hs.imp unwrapped_le_of_key_le) fun p hp => (hb p hp).1]
  constructor
  case consecutive =>
    refine ⟨n, ?_⟩
    rw [map_map, length_map, length_range]
    exact map_congr_left fun i _ => sequenceNumber_reported ..
  case nodup =>
    rw [map_map]
    refine Nodup.map_on (fun i hi j hj hij => ?_) nodup_range
    -- the report is too short for its numbers to wrap around
    rw [mem_range] at hi hj
    simp only [Function.comp_apply, sequenceNumber_reported] at hij
    have := eq_of_wrap_eq hij (by omega) (by omega)
    omega
  case covered =>
    intro p hp
    obtain ⟨q, hq, rfl⟩ := (hrecv p).mp hp
    have hq' := hb q hq
    have hi : n + ((q.unwrapped - n).toNat : Int) = q.unwrapped := by omega
    refine ⟨_, mem_map.mpr ⟨(q.unwrapped - n).toNat, mem_range.mpr (by omega), rfl⟩, ?_⟩
    rw [hi]
    refine ⟨sequenceNumber_reported .., ?_⟩
    -- the packets received under this number are those with the same unwrapped number
    have hsame : ∀ r ∈ received, r.sequenceNumber = q.onWire.sequenceNumber →
        ∃ r' ∈ ps.filter (·.unwrapped == q.unwrapped), r'.onWire = r := by
      intro r hr hseq
      obtain ⟨r', hr', rfl⟩ := (hrecv r).mp hr
      have := hb r' hr'
      have := eq_of_wrap_eq hseq (by omega) (by omega)
      exact ⟨r', mem_filter.mpr ⟨hr', by simpa using this⟩, rfl⟩
    have hsort := hs.filter fun a => a.unwrapped == q.unwrapped
    cases hf : ps.filter (·.unwrapped == q.unwrapped) with
    | nil => exact absurd (mem_filter.mpr ⟨hq, by simp⟩) (hf ▸ not_mem_nil)
    | cons first copies =>
      rw [hf, pairwise_cons] at hsort
      have hnum : ∀ r ∈ first :: copies, r ∈ ps ∧ r.unwrapped = q.unwrapped := by
        intro r hr
        rw [← hf, mem_filter, beq_iff_eq] at hr
        exact hr
      have hfirst := hnum first mem_cons_self
      refine ⟨⟨first.onWire, (hrecv _).mpr ⟨first, hfirst.1, rfl⟩,
        congrArg (wrap 16) hfirst.2, rfl, fun r hr hseq => ?_⟩, fun ⟨r, hr, hseq, hce⟩ => ?_⟩
      · obtain ⟨r', hr', rfl⟩ := hsame r hr hseq
        rw [hf] at hr'
        rcases mem_cons.mp hr' with rfl | hin
        · exact le_rfl
        have hlex := Prod.Lex.toLex_le_toLex.mp (hsort.1 r' hin)
        rw [hfirst.2, (hnum r' hr').2] at hlex
        exact (hlex.resolve_left (lt_irrefl _)).2
      obtain ⟨r', hr', rfl⟩ := hsame r hr hseq
      rw [hf] at hr'
      show (if copies.any (·.ecn == .ce) then EcnMarking.ce else first.ecn) = .ce
      split
      · rfl
      next hany =>
        rcases mem_cons.mp hr' with rfl | hin
        · exact hce
        · exact (hany (any_eq_true.mpr ⟨r', hin, decide_eq_true (show r'.ecn = .ce from hce)⟩)).elim
  case genuine =>
    intro info hinfo hsome
    obtain ⟨i, -, rfl⟩ := mem_map.mp hinfo
    cases hf : ps.filter (·.unwrapped == n + i) with
    | nil =>
      rw [hf] at hsome
      exact absurd rfl hsome
    | cons first copies =>
      have hfirst := mem_filter.mp (hf ▸ mem_cons_self : first ∈ ps.filter (·.unwrapped == n + i))
      exact ⟨_, (hrecv _).mpr ⟨first, hfirst.1, rfl⟩, congrArg (wrap 16) (by simpa using hfirst.2)⟩

end Report

/-! ## Runs -/

def InReach (t : FeedbackTracker) : Prop :=
  ∀ p ∈ t.packets, ∀ q ∈ t.packets,
    p.unwrapped ≤ t.lastInFeedback.getD (q.unwrapped - 1) + maxPacketsPerSsrc

inductive Event where
  | packet (packet : RtpPacketReceived)
  | report (feedbackTime : Int)

structure Traced where
  tracker : FeedbackTracker := {}
  received : List RtpPacketReceived := []

def step (ssrc : BitVec 32) (s : Traced) : Event → Traced
  | .packet p => ⟨s.tracker.receivedPacket p, s.received ++ [p]⟩
  | .report feedbackTime => ⟨(addPacketsToFeedback ssrc feedbackTime s.tracker).2, []⟩

def Spaced (s : Traced) : Event → Prop
  | .packet _ => s.received.length < maxPacketsPerSsrc
  | .report _ => True

structure Keeps (s : Traced) : Prop where
  listed : s.tracker.packets.map (·.onWire) = s.received
  after : ∀ last, s.tracker.lastInFeedback = some last →
    ∀ p ∈ s.tracker.packets, last < p.unwrapped

lemma Keeps.step {ssrc : BitVec 32} {s : Traced} {e : Event} (h : Keeps s) (hok : Spaced s e) :
    Keeps (step ssrc s e) := by
  cases e with
  | packet p =>
    have hlen : ¬ maxPacketsPerSsrc < s.tracker.packets.length := by
      have hok : s.received.length < maxPacketsPerSsrc := hok
      rw [← h.listed, length_map] at hok
      exact hok.not_gt
    show Keeps ⟨s.tracker.receivedPacket p, _⟩
    rw [receivedPacket, if_neg hlen]
    refine ⟨?_, fun last hlast q hq => ?_⟩
    · show map _ (_ ++ [_]) = _
      rw [map_append, h.listed, map_singleton, TrackedPacket.onWire,
        SeqNumUnwrapper.wrap_peekUnwrap]
    obtain ⟨old, hold, rfl⟩ := Option.map_eq_some_iff.mp hlast
    have hq := (mem_append.mp hq).imp (h.after old hold q) mem_singleton.mp
    split
    · rcases hq with hq | rfl
      · omega
      · exact Int.sub_one_lt_of_le le_rfl
    rcases hq with hq | rfl
    · exact hq
    show _ < s.tracker.unwrapper.peekUnwrap p.sequenceNumber
    omega
  | report feedbackTime =>
    show Keeps ⟨(addPacketsToFeedback ssrc feedbackTime s.tracker).2, []⟩
    unfold addPacketsToFeedback
    split
    next hnil =>
      have hnil : s.tracker.packets = [] :=
        (hnil ▸ perm_insertionSort _ _ : [].Perm s.tracker.packets).symm.eq_nil
      exact ⟨by rw [hnil]; rfl, fun _ _ p hp => absurd hp (hnil ▸ not_mem_nil)⟩
    next => exact ⟨rfl, fun _ _ p hp => absurd hp not_mem_nil⟩

lemma le_getLastD {front : TrackedPacket} {rest : List TrackedPacket}
    (hs : (front :: rest).Pairwise fun a b => a.key ≤ b.key) :
    ∀ p ∈ front :: rest, p.key ≤ (rest.getLastD front).key := by
  induction rest generalizing front with
  | nil => simp
  | cons q rest ih =>
    rw [pairwise_cons] at hs
    have hlast := ih hs.2
    rw [getLastD_cons, forall_mem_cons]
    exact ⟨(hs.1 q mem_cons_self).trans (hlast q mem_cons_self), hlast⟩

/-- **A report is complete when all packets received since the last one are in its reach.** -/
theorem complete_of_inReach (ssrc : BitVec 32) (feedbackTime : Int) (evs : List Event)
    (hspaced : Along (step ssrc) Spaced {} evs)
    (hreach : InReach (run (step ssrc) {} evs).tracker) :
    Complete feedbackTime (run (step ssrc) {} evs).received
      (addPacketsToFeedback ssrc feedbackTime (run (step ssrc) {} evs).tracker).1 := by
  have hkeeps : Keeps (run (step ssrc) {} evs) :=
    run_induction_along (fun _ _ h hok => h.step hok) evs _
      ⟨rfl, fun _ _ p hp => absurd hp not_mem_nil⟩ hspaced
  generalize run (step ssrc) {} evs = s at hkeeps hreach ⊢
  have hperm := perm_insertionSort (·.key ≤ ·.key) s.tracker.packets
  have hs := pairwise_insertionSort (fun a b : TrackedPacket => a.key ≤ b.key) s.tracker.packets
  have hrecv : ∀ r, r ∈ s.received ↔
      ∃ p ∈ s.tracker.packets.insertionSort (·.key ≤ ·.key), p.onWire = r := by
    intro r
    simp only [← hkeeps.listed, mem_map, hperm.mem_iff]
  unfold addPacketsToFeedback
  generalize s.tracker.packets.insertionSort (·.key ≤ ·.key) = ps at *
  cases ps with
  | nil =>
    have hnone : ∀ r, r ∉ s.received := fun r hr => by simpa using (hrecv r).mp hr
    exact ⟨⟨0, rfl⟩, nodup_nil, fun p hp => absurd hp (hnone p), fun _ h => absurd h not_mem_nil⟩
  | cons front rest =>
    -- the report begins before the oldest packet
    have hlow : ∀ p ∈ front :: rest,
        s.tracker.lastInFeedback.getD (front.unwrapped - 1) < p.unwrapped := by
      intro p hp
      cases hlast : s.tracker.lastInFeedback with
      | some last => exact hkeeps.after last hlast p (hperm.mem_iff.mp hp)
      | none =>
        have hfr : front.unwrapped ≤ p.unwrapped := by
          rcases mem_cons.mp hp with rfl | hp
          · exact le_rfl
          · exact unwrapped_le_of_key_le ((pairwise_cons.mp hs).1 p hp)
        exact Int.sub_one_lt_of_le hfr
    have htop := hreach _ (hperm.mem_iff.mp getLastD_mem_cons) front
      (hperm.mem_iff.mp mem_cons_self)
    refine complete_of_bounds ssrc feedbackTime hrecv hs (by omega) fun p hp => ?_
    have h1 := hlow p hp
    have h2 := unwrapped_le_of_key_le (le_getLastD hs p hp)
    omega

theorem complete_of_late_copy :
    Complete 10 [⟨6, 1, .notEct⟩, ⟨5, 3, .ce⟩, ⟨5, 2, .notEct⟩] (addPacketsToFeedback 1 10 (run
      (step 1) {} [.packet ⟨6, 1, .notEct⟩, .packet ⟨5, 3, .ce⟩, .packet ⟨5, 2, .notEct⟩]).tracker).1 :=
  complete_of_inReach 1 10 [.packet ⟨6, 1, .notEct⟩, .packet ⟨5, 3, .ce⟩, .packet ⟨5, 2, .notEct⟩]
    (by simp [Along, Spaced, step, maxPacketsPerSsrc]) (by unfold InReach; decide +kernel)

/-- After a jump of 20000 the newest packet is in no report. -/
theorem incomplete_after_jump :
    ¬ Complete 10 [⟨0, 1, .notEct⟩, ⟨20000, 2, .notEct⟩] (addPacketsToFeedback 1 10 (run
      (step 1) {} [.packet ⟨0, 1, .notEct⟩, .packet ⟨20000, 2, .notEct⟩]).tracker).1 := by
  intro h
  obtain ⟨info, hinfo, hseq, -⟩ := h.covered ⟨20000, 2, .notEct⟩ (by simp)
  rw [addPacketsToFeedback, show insertionSort _ _ =
    [(⟨0, 1, .notEct⟩ : TrackedPacket), ⟨20000, 2, .notEct⟩] from by decide +kernel] at hinfo
  change info ∈ report 1 10 16384 0 _ at hinfo
  rw [report_eq _ _ _ (by simp) (by simp), mem_map] at hinfo
  obtain ⟨i, hi, rfl⟩ := hinfo
  rw [mem_range] at hi
  rw [sequenceNumber_reported] at hseq
  have := eq_of_wrap_eq (hseq.trans (show _ = wrap 16 20000 from rfl)) (by omega) (by omega)
  omega

end FeedbackTracker

end WebRtc.CongestionControl
