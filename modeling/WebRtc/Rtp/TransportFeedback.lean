import WebRtc.Lib.Run
import WebRtc.Numerics.SeqNum

/-!
# WebRTC — arrival times in transport-wide feedback

The building side of `rtcp::TransportFeedback`, with the status chunks that decide whether a packet
still fits, and the reading side. Each delta is rounded to ticks on its own, against a running
timestamp that is advanced by the rounded amount, so the errors never add up (`deltaFull_error`).
-/

namespace WebRtc.Rtp

open Numerics Lib List

def deltaTick : Int := 250

def baseTimeTick : Int := deltaTick * 2 ^ 8

def timeWrapPeriod : Int := baseTimeTick * 2 ^ 24

/-! ## Status chunks -/

/-- `TransportFeedback::LastChunk`: the delta sizes of the open chunk, 0 for a missing packet.
`all_same_` and `has_large_delta_` are functions of them. -/
abbrev LastChunk := List Nat

namespace LastChunk

def canAdd (c : LastChunk) (deltaSize : Nat) : Bool :=
  c.length < 7 || (c.length < 14 && !c.contains 2 && deltaSize != 2)
    || (c.length < 0x1fff && c.all (· == deltaSize))

/-- `Emit`, without the encoded value. A two bit chunk takes the first seven sizes. -/
def emit (c : LastChunk) : LastChunk :=
  if c.all (· == c.headD 0) || c.length == 14 then [] else c.drop 7

def fill : Nat → LastChunk → Nat × LastChunk
  | 0, c => (0, c)
  | n + 1, c => if c.canAdd 0 then fill n (c ++ [0]) else (n + 1, c)

lemma fill_le (n : Nat) (c : LastChunk) : (c.fill n).1 ≤ n := by
  induction n generalizing c with
  | zero => exact le_rfl
  | succ n ih =>
    unfold fill
    split
    · exact (ih _).trans n.le_succ
    · exact le_rfl

end LastChunk

/-- `num_seq_no_`, `last_chunk_` and `size_bytes_`. -/
structure StatusChunks where
  numSeqNo : Nat := 0
  lastChunk : LastChunk := []
  sizeBytes : Nat := 20
deriving DecidableEq

namespace StatusChunks

variable {c c' : StatusChunks}

def maxSizeBytes : Nat := 2 ^ 16 * 4

/-- `AddDeltaSize`; `none` is `false`, and then nothing has changed. -/
def addDeltaSize (c : StatusChunks) (deltaSize : Nat) : Option StatusChunks :=
  let addChunkSize := if c.lastChunk.isEmpty then 2 else 0
  if c.numSeqNo = 0xffff ∨ maxSizeBytes < c.sizeBytes + deltaSize + addChunkSize then none
  else if c.lastChunk.canAdd deltaSize then
    some ⟨c.numSeqNo + 1, c.lastChunk ++ [deltaSize], c.sizeBytes + addChunkSize⟩
  else if maxSizeBytes < c.sizeBytes + deltaSize + 2 then none
  else some ⟨c.numSeqNo + 1, c.lastChunk.emit ++ [deltaSize], c.sizeBytes + 2⟩

/-- `AddMissingPackets`. When the size limit stops it, the open chunk stays filled up. -/
def addMissingPackets (c : StatusChunks) (numMissing : Nat) : Bool × StatusChunks :=
  let newNumSeqNo := c.numSeqNo + numMissing
  if 0xffff < newNumSeqNo then (false, c)
  else
    let (left, chunk) :=
      if c.lastChunk.isEmpty then (numMissing, []) else c.lastChunk.fill numMissing
    if left = 0 ∧ !c.lastChunk.isEmpty then (true, ⟨newNumSeqNo, chunk, c.sizeBytes⟩)
    else
      let bytes := 2 * (left / 0x1fff + if 0 < left % 0x1fff then 1 else 0)
      if maxSizeBytes < c.sizeBytes + bytes then
        (false, ⟨newNumSeqNo - left, LastChunk.emit chunk, c.sizeBytes⟩)
      else (true, ⟨newNumSeqNo, replicate (left % 0x1fff) 0, c.sizeBytes + bytes⟩)

lemma addDeltaSize_num {d : Nat} (h : c.addDeltaSize d = some c') :
    c'.numSeqNo = c.numSeqNo + 1 := by
  unfold addDeltaSize at h
  grind

lemma addMissingPackets_num (n : Nat) :
    c.numSeqNo ≤ (c.addMissingPackets n).2.numSeqNo ∧
    ((c.addMissingPackets n).1 = true → (c.addMissingPackets n).2.numSeqNo = c.numSeqNo + n) := by
  have hfill := c.lastChunk.fill_le n
  unfold addMissingPackets
  grind

end StatusChunks

/-! ## Building the feedback -/

structure ReceivedPacket where
  sequenceNumber : BitVec 16
  deltaTicks : Int
deriving DecidableEq

/-- `rtcp::TransportFeedback`, with the timestamps included as by default. -/
structure TransportFeedback where
  baseSeqNo : BitVec 16 := 0
  baseTimeTicks : Int := 0
  lastTimestamp : Int := timeWrapPeriod
  receivedPackets : List ReceivedPacket := []
  chunks : StatusChunks := {}
deriving DecidableEq

namespace TransportFeedback

variable (f : TransportFeedback)

/-- `BaseTime`: a wrap period is added so that earlier packets have a time as well. -/
def baseTime : Int := timeWrapPeriod + f.baseTimeTicks * baseTimeTick

/-- `SetBase` on a feedback without packets. Timestamps are not negative. -/
def setBase (baseSequence : BitVec 16) (refTimestamp : Int) : TransportFeedback :=
  let f : TransportFeedback :=
    { baseSeqNo := baseSequence
      baseTimeTicks := refTimestamp % timeWrapPeriod / baseTimeTick }
  { f with lastTimestamp := f.baseTime }

def roundUpTo (d resolution : Int) : Int := (d + resolution - 1) / resolution * resolution

/-- `delta_full` of `AddReceivedPacket` in ticks; its division truncates. -/
def deltaFull (lastTimestamp timestamp : Int) : Int :=
  let timestamp :=
    if timestamp < lastTimestamp then
      timestamp + roundUpTo (lastTimestamp - timestamp) timeWrapPeriod
    else timestamp
  let full := (timestamp - lastTimestamp) % timeWrapPeriod
  if timeWrapPeriod / 2 < full then (full - timeWrapPeriod - deltaTick / 2).tdiv deltaTick
  else (full + deltaTick / 2).tdiv deltaTick

/-- `AddReceivedPacket`. A packet can be refused after its gap has been recorded. -/
def addReceivedPacket (sequenceNumber : BitVec 16) (timestamp : Int) :
    Bool × TransportFeedback :=
  let delta := deltaFull f.lastTimestamp timestamp
  if delta < -2 ^ 15 ∨ 2 ^ 15 ≤ delta then (false, f)
  else
    let nextSeqNo := f.baseSeqNo + BitVec.ofNat 16 f.chunks.numSeqNo
    if sequenceNumber ≠ nextSeqNo ∧ !aheadOf sequenceNumber (nextSeqNo - 1) then (false, f)
    else
      let (ok, chunks) :=
        if sequenceNumber = nextSeqNo then (true, f.chunks)
        else f.chunks.addMissingPackets (sequenceNumber - nextSeqNo).toNat
      let deltaSize := if 0 ≤ delta ∧ delta ≤ 0xff then 1 else 2
      if !ok then (false, { f with chunks })
      else
        match chunks.addDeltaSize deltaSize with
        | none => (false, { f with chunks })
        | some chunks =>
          (true, { f with
            receivedPackets := f.receivedPackets ++ [⟨sequenceNumber, delta⟩]
            lastTimestamp := f.lastTimestamp + delta * deltaTick
            chunks := { chunks with sizeBytes := chunks.sizeBytes + deltaSize } })

/-! ## Reading the feedback -/

/-- The loop of `ForAllPackets`; `none` stands for `PlusInfinity`. -/
def walk : List (BitVec 16) → List ReceivedPacket → Int → List (BitVec 16 × Option Int)
  | [], _, _ => []
  | s :: ss, [], sum => (s, none) :: walk ss [] sum
  | s :: ss, r :: rs, sum =>
    if r.sequenceNumber = s then
      (s, some (sum + r.deltaTicks * deltaTick)) :: walk ss rs (sum + r.deltaTicks * deltaTick)
    else (s, none) :: walk ss (r :: rs) sum

def covered : List (BitVec 16) :=
  (range f.chunks.numSeqNo).map fun i => f.baseSeqNo + BitVec.ofNat 16 i

def forAllPackets : List (BitVec 16 × Option Int) :=
  walk f.covered f.receivedPackets 0

def reconstructed : List (BitVec 16 × Int) :=
  f.forAllPackets.filterMap fun call => call.2.map fun sum => (call.1, f.baseTime + sum)

def getBaseDelta (prevTimestamp : Int) : Int :=
  let delta := f.baseTime - prevTimestamp
  if |delta - timeWrapPeriod| < |delta| then delta - timeWrapPeriod
  else if |delta + timeWrapPeriod| < |delta| then delta + timeWrapPeriod
  else delta

/-- The two times are at most half a tick apart, modulo the wrap period. -/
def Near (time reconstructed : Int) : Prop :=
  ∃ k : Int, |reconstructed - time - k * timeWrapPeriod| ≤ deltaTick / 2

lemma deltaFull_error (last time : Int) : Near time (last + deltaFull last time * deltaTick) := by
  obtain ⟨m, hm⟩ : ∃ m : Int, (if time < last then time + roundUpTo (last - time) timeWrapPeriod
      else time) = time + m * timeWrapPeriod := by
    split
    · exact ⟨_, rfl⟩
    · exact ⟨0, by omega⟩
  unfold deltaFull Near
  simp only [hm]
  generalize hfull : (time + m * timeWrapPeriod - last) % timeWrapPeriod = full
  have hdiv := Int.mul_ediv_add_emod (time + m * timeWrapPeriod - last) timeWrapPeriod
  generalize (time + m * timeWrapPeriod - last) / timeWrapPeriod = q at hdiv
  simp only [show timeWrapPeriod = 1073741824000 from rfl, show deltaTick = 250 from rfl] at *
  -- a negative distance is rounded as its opposite
  split
  · refine ⟨m - q - 1, ?_⟩
    have hneg : full - 1073741824000 - 250 / 2 = -(1073741824125 - full) := by omega
    rw [hneg, Int.neg_tdiv, Int.tdiv_eq_ediv_of_nonneg (by omega), abs_le]
    omega
  · refine ⟨m - q, ?_⟩
    rw [Int.tdiv_eq_ediv_of_nonneg (by omega), abs_le]
    omega

def arrivals : Int → List ReceivedPacket → List (BitVec 16 × Int)
  | _, [] => []
  | start, r :: rs =>
    let time := start + r.deltaTicks * deltaTick
    (r.sequenceNumber, time) :: arrivals time rs

lemma walk_arrivals (base sum : Int) {ss : List (BitVec 16)} {rs : List ReceivedPacket}
    (h : (rs.map (·.sequenceNumber)).Sublist ss) :
    (walk ss rs sum).filterMap (fun call => call.2.map fun d => (call.1, base + d)) =
      arrivals (base + sum) rs := by
  induction ss generalizing rs sum with
  | nil =>
    rw [sublist_nil, map_eq_nil_iff] at h
    rw [h]
    rfl
  | cons s ss ih =>
    cases rs with
    | nil => exact ih sum (nil_sublist _)
    | cons r rs =>
      rw [walk, arrivals]
      split
      next heq =>
        rw [map_cons, heq, cons_sublist_cons] at h
        show (s, base + (sum + r.deltaTicks * deltaTick)) :: filterMap _ _ = _
        rw [ih _ h, heq, add_assoc]
      next hne =>
        refine (ih sum ?_).trans rfl
        cases h with
        | cons _ h => exact h
        | cons_cons => exact absurd rfl hne

/-! ## Runs -/

/-- A feedback under construction with the packets accepted so far and their true times. -/
structure Traced where
  feedback : TransportFeedback
  accepted : List (BitVec 16 × Int) := []

def step (s : Traced) (packet : BitVec 16 × Int) : Traced :=
  let r := s.feedback.addReceivedPacket packet.1 packet.2
  ⟨r.2, if r.1 then s.accepted ++ [packet] else s.accepted⟩

/-- What every call keeps. `last` says that the next delta starts from the running timestamp. -/
structure Steady (s : Traced) : Prop where
  listed : (s.feedback.receivedPackets.map (·.sequenceNumber)).Sublist s.feedback.covered
  last : ∀ rs, arrivals s.feedback.baseTime (s.feedback.receivedPackets ++ rs) =
    arrivals s.feedback.baseTime s.feedback.receivedPackets ++ arrivals s.feedback.lastTimestamp rs
  near : Forall₂ (fun p q => p.1 = q.1 ∧ Near p.2 q.2) s.accepted
    (arrivals s.feedback.baseTime s.feedback.receivedPackets)

lemma steady_setBase (base : BitVec 16) (refTime : Int) :
    Steady ⟨setBase base refTime, []⟩ where
  listed := nil_sublist _
  last _ := rfl
  near := .nil

/-- What a call can do: refuse, with more missing packets recorded at most, or append the packet. -/
lemma addReceivedPacket_cases (seq : BitVec 16) (time : Int) :
    (∃ chunks, f.chunks.numSeqNo ≤ chunks.numSeqNo ∧
      f.addReceivedPacket seq time = (false, { f with chunks })) ∨
    ∃ chunks n, f.chunks.numSeqNo ≤ n ∧ seq = f.baseSeqNo + BitVec.ofNat 16 n ∧
      chunks.numSeqNo = n + 1 ∧
      f.addReceivedPacket seq time =
        (true, { f with
          receivedPackets := f.receivedPackets ++ [⟨seq, deltaFull f.lastTimestamp time⟩]
          lastTimestamp := f.lastTimestamp + deltaFull f.lastTimestamp time * deltaTick
          chunks }) := by
  unfold addReceivedPacket
  generalize deltaFull f.lastTimestamp time = delta
  generalize hnext : f.baseSeqNo + BitVec.ofNat 16 f.chunks.numSeqNo = next
  have hseq : seq = f.baseSeqNo + BitVec.ofNat 16 (f.chunks.numSeqNo + (seq - next).toNat) := by
    rw [BitVec.ofNat_add, ← BitVec.add_assoc, hnext, BitVec.ofNat_toNat, BitVec.setWidth_eq,
      BitVec.add_comm, BitVec.sub_add_cancel]
  dsimp only
  split
  · exact .inl ⟨_, le_rfl, rfl⟩
  split
  · exact .inl ⟨_, le_rfl, rfl⟩
  generalize hadd : (if seq = next then (true, f.chunks)
    else f.chunks.addMissingPackets (seq - next).toNat) = r
  have hnum : f.chunks.numSeqNo ≤ r.2.numSeqNo ∧
      (r.1 = true → r.2.numSeqNo = f.chunks.numSeqNo + (seq - next).toNat) := by
    rw [← hadd]
    split
    next heq => simp [heq]
    next => exact StatusChunks.addMissingPackets_num _
  split
  · exact .inl ⟨_, hnum.1, rfl⟩
  next hok =>
    split
    · exact .inl ⟨_, hnum.1, rfl⟩
    next chunks hsize =>
      refine .inr ⟨_, _, Nat.le_add_right _ _, hseq, ?_, rfl⟩
      rw [StatusChunks.addDeltaSize_num hsize, hnum.2 (by simpa using hok)]

lemma Steady.step {s : Traced} (h : Steady s) (packet : BitVec 16 × Int) :
    Steady (step s packet) := by
  obtain ⟨seq, time⟩ := packet
  unfold TransportFeedback.step
  obtain ⟨chunks, hle, heq⟩ | ⟨chunks, n, hle, hseq, hnum, heq⟩ :=
    addReceivedPacket_cases s.feedback seq time
  · rw [heq]
    exact ⟨h.listed.trans ((range_sublist.mpr hle).map _), h.last, h.near⟩
  rw [heq]
  have hlast := h.last [⟨seq, deltaFull s.feedback.lastTimestamp time⟩]
  refine ⟨?_, fun rs => ?_, ?_⟩
  · show (map _ (_ ++ [_])).Sublist (map _ (range chunks.numSeqNo))
    rw [hnum, range_succ, map_append, map_append]
    refine (h.listed.trans ((range_sublist.mpr hle).map _)).append ?_
    show [seq].Sublist [_]
    rw [hseq]
  · show arrivals s.feedback.baseTime (_ ++ [_] ++ rs) =
      arrivals s.feedback.baseTime (_ ++ [_]) ++ _
    rw [hlast, append_assoc, h.last, append_assoc]
    rfl
  · show Forall₂ _ (s.accepted ++ [_]) (arrivals s.feedback.baseTime (_ ++ [_]))
    rw [hlast]
    exact rel_append h.near (.cons ⟨rfl, deltaFull_error _ _⟩ .nil)

lemma steady_run (base : BitVec 16) (refTime : Int) (packets : List (BitVec 16 × Int)) :
    Steady (run step ⟨setBase base refTime, []⟩ packets) :=
  run_induction (fun _ packet h => h.step packet) packets
    (steady_setBase base refTime)

def trueBaseTime (refTimestamp : Int) : Int := refTimestamp / baseTimeTick * baseTimeTick

lemma getBaseDelta_setBase {seq prevSeq : BitVec 16} {ref prevRef : Int}
    (h : |trueBaseTime ref - trueBaseTime prevRef| < timeWrapPeriod / 2) :
    (setBase seq ref).getBaseDelta (setBase prevSeq prevRef).baseTime =
      trueBaseTime ref - trueBaseTime prevRef := by
  unfold getBaseDelta setBase baseTime
  unfold trueBaseTime at *
  simp only [show timeWrapPeriod = 1073741824000 from rfl, show baseTimeTick = 64000 from rfl] at *
  grind

/-- Whatever packets are offered to a feedback, its receiver finds every accepted packet, in
order, at its arrival time up to half a tick; and consecutive base times less than half a wrap
period apart are told apart exactly. -/
theorem arrival_times_steady (baseSequence : BitVec 16) (refTimestamp : Int)
    (packets : List (BitVec 16 × Int)) :
    Forall₂ (fun p q => p.1 = q.1 ∧ Near p.2 q.2)
      (run step ⟨setBase baseSequence refTimestamp, []⟩ packets).accepted
      (run step ⟨setBase baseSequence refTimestamp, []⟩ packets).feedback.reconstructed ∧
    ∀ (seq prevSeq : BitVec 16) (ref prevRef : Int),
      |trueBaseTime ref - trueBaseTime prevRef| < timeWrapPeriod / 2 →
      (setBase seq ref).getBaseDelta (setBase prevSeq prevRef).baseTime =
        trueBaseTime ref - trueBaseTime prevRef := by
  have h := steady_run baseSequence refTimestamp packets
  refine ⟨?_, fun _ _ _ _ => getBaseDelta_setBase⟩
  rw [reconstructed, forAllPackets, walk_arrivals _ _ h.listed, add_zero]
  exact h.near

/-- The base time wraps between the two feedbacks, and the second packet came first. -/
theorem arrival_times_steady_at_wrap : ∃ s, s = run step ⟨setBase 65535 1073741823900, []⟩
      [(65535, 1073741823900), (0, 1073741800010)] ∧ s.accepted.length = 2 ∧
    Forall₂ (fun p q => p.1 = q.1 ∧ Near p.2 q.2) s.accepted s.feedback.reconstructed ∧
    (setBase 1 1073741824100).getBaseDelta (setBase 0 1073741823900).baseTime = 64000 := by
  obtain ⟨hnear, hdelta⟩ := arrival_times_steady 65535 1073741823900
    [(65535, 1073741823900), (0, 1073741800010)]
  exact ⟨_, rfl, by decide +kernel, hnear, hdelta 1 0 _ _ (by decide +kernel)⟩

end TransportFeedback

end WebRtc.Rtp
