import WebRtc.Dcsctp.Socket.Transitions
import WebRtc.Dcsctp.Tx.QueueOperations
import WebRtc.Dcsctp.Tx.QueueSimulation

/-!
# dcSCTP — the size of packets with data

`SendBufferedPackets` puts a COOKIE-ECHO, a SACK, a FORWARD-TSN and a RE-CONFIG into its first
packet without asking how much room is left; data is cut to what is left then. So the packets are
within the MTU exactly if the control chunks are, and `controlBytes` is their size.
-/

namespace WebRtc.Dcsctp

open Lib List RetransmissionQueue PacketBuilder DataTracker OutgoingStream

/-! ## Data fits -/

lemma roundUpTo4_le {n m : Nat} (hm : 4 ∣ m) (h : n ≤ m) : roundUpTo4 n ≤ m := by
  unfold roundUpTo4
  omega

lemma dvd_roundUpTo4 (n : Nat) : 4 ∣ roundUpTo4 n := by
  unfold roundUpTo4
  omega

lemma dvd_roundDownTo4 (n : Nat) : 4 ∣ roundDownTo4 n := by
  unfold roundDownTo4
  omega

lemma roundUpTo4_of_dvd {n : Nat} (h : 4 ∣ n) : roundUpTo4 n = n := by
  unfold roundUpTo4
  omega

namespace RetransmissionQueue

lemma dvd_headerSize (interleaving : Bool) : 4 ∣ headerSize interleaving := by
  cases interleaving <;> decide

lemma serializedSize_congr {q q' : RetransmissionQueue}
    (h : q'.dataChunkHeaderSize = q.dataChunkHeaderSize) (chunks : List (TSN × Data)) :
    q'.serializedSize chunks = q.serializedSize chunks := by
  unfold serializedSize getSerializedChunkSize
  rw [h]

variable (q : RetransmissionQueue)

lemma serializedSize_cons (tsn : TSN) (d : Data) (chunks : List (TSN × Data)) :
    q.serializedSize ((tsn, d) :: chunks) = q.getSerializedChunkSize d + q.serializedSize chunks := rfl

lemma serializedSize_append (chunks chunks' : List (TSN × Data)) :
    q.serializedSize (chunks ++ chunks') = q.serializedSize chunks + q.serializedSize chunks' := by
  simp [serializedSize]

lemma dvd_serializedSize (chunks : List (TSN × Data)) : 4 ∣ q.serializedSize chunks := by
  induction chunks with
  | nil => exact Nat.dvd_zero 4
  | cons c chunks ih =>
    exact Nat.dvd_add (dvd_roundUpTo4 _) ih

section SendQueue

variable {σ : Type} [SendQueue σ] [LawfulSendQueue σ]

/-- The payload is cut to the budget less a header. As both are multiples of four, padding does
not take a chunk beyond it. -/
lemma serializedSize_sendLoop (now : Timestamp) :
    ∀ (rounds maxBytes : Nat) (q : RetransmissionQueue) (s : σ), 4 ∣ q.dataChunkHeaderSize →
      4 ∣ maxBytes → q.serializedSize (sendLoop now rounds maxBytes q s).1 ≤ maxBytes
  | 0, maxBytes, q, s, _, _ => Nat.zero_le maxBytes
  | rounds + 1, maxBytes, q, s, hheader, hbudget => by
    unfold sendLoop
    split
    swap
    · exact Nat.zero_le maxBytes
    have hlaw := LawfulSendQueue.size_produce s now (maxBytes - q.dataChunkHeaderSize)
    generalize SendQueue.produce s now (maxBytes - q.dataChunkHeaderSize) = r at hlaw ⊢
    obtain ⟨_ | chunk, s1⟩ := r
    · exact Nat.zero_le maxBytes
    dsimp only
    have hsize : chunk.data.size ≤ maxBytes - q.dataChunkHeaderSize := hlaw chunk rfl
    have hfits : q.getSerializedChunkSize chunk.data ≤ maxBytes := roundUpTo4_le hbudget (by omega)
    have hone : ((q.takeFromRwnd chunk.data.size).insertChunk s1 now chunk).2.1.dataChunkHeaderSize =
        q.dataChunkHeaderSize := (sends_insertChunk q s1 now chunk le_rfl).header
    generalize (q.takeFromRwnd chunk.data.size).insertChunk s1 now chunk = r1 at hone ⊢
    obtain ⟨tsn, q1, s2⟩ := r1
    dsimp only at hone ⊢
    have hrest := serializedSize_sendLoop now rounds (maxBytes - q.getSerializedChunkSize chunk.data)
      q1 s2 (hone ▸ hheader) (Nat.dvd_sub hbudget (dvd_roundUpTo4 _))
    rw [serializedSize_congr hone] at hrest
    cases tsn with
    | none => exact hrest.trans (Nat.sub_le _ _)
    | some tsn =>
      rw [serializedSize_cons]
      omega

lemma serializedSize_getChunksToSend (s : σ) (now : Timestamp)
    (bytesRemainingInPacket : Nat) (hheader : 4 ∣ q.dataChunkHeaderSize) :
    q.serializedSize (q.getChunksToSend s now bytesRemainingInPacket).1 ≤ bytesRemainingInPacket := by
  have hbudget : 4 ∣ q.maxBytes bytesRemainingInPacket := dvd_roundDownTo4 _
  have hle : q.maxBytes bytesRemainingInPacket ≤ bytesRemainingInPacket :=
    (roundDownTo4_le _).trans (Nat.min_le_right _ _)
  refine le_trans ?_ hle
  unfold getChunksToSend OutstandingData.getChunksToBeRetransmitted
  generalize q.maxBytes bytesRemainingInPacket = budget at hbudget ⊢
  dsimp only
  obtain ⟨hag, hsum⟩ := sends_extract q .normal budget
  generalize q.outstandingData.extractChunksThatCanFit .normal budget = r at hag hsum ⊢
  obtain ⟨retransmitted, o1⟩ := r
  dsimp only at hag hsum ⊢
  have hadded := serializedSize_sendLoop now (budget - q.serializedSize retransmitted)
    (budget - q.serializedSize retransmitted) { q with outstandingData := o1 } s
    (hag.header ▸ hheader) (Nat.dvd_sub hbudget (dvd_serializedSize q retransmitted))
  rw [serializedSize_congr hag.header] at hadded
  rw [serializedSize_append]
  omega

end SendQueue

lemma serializedSize_getChunksForFastRetransmit (bytesInPacket : Nat) :
    q.serializedSize (q.getChunksForFastRetransmit bytesInPacket).1 ≤ bytesInPacket :=
  (sends_extract q .fast bytesInPacket).2

end RetransmissionQueue

/-! ## Packets -/

def paddedSize (chunks : List Chunk) : Nat := (chunks.map fun c => roundUpTo4 c.size).sum

lemma paddedSize_append (chunks chunks' : List Chunk) :
    paddedSize (chunks ++ chunks') = paddedSize chunks + paddedSize chunks' := by
  simp [paddedSize]

lemma paddedSize_singleton (c : Chunk) : paddedSize [c] = roundUpTo4 c.size := by
  simp [paddedSize]

def SctpPacket.size (p : SctpPacket) : Nat := SctpPacket.kHeaderSize + paddedSize p.chunks

/-- What the builder has taken of a packet, counting its header from the start. -/
def PacketBuilder.taken (b : PacketBuilder) : Nat := SctpPacket.kHeaderSize + paddedSize b.chunks

variable (b : PacketBuilder)

lemma PacketBuilder.bytesRemaining_eq :
    b.bytesRemaining = b.maxPacketSize - b.taken := by
  unfold bytesRemaining size taken paddedSize
  cases hchunks : b.chunks with
  | nil => simp
  | cons c cs => simp

lemma PacketBuilder.taken_add (c : Chunk) :
    (b.add c).taken = b.taken + roundUpTo4 c.size := by
  simp only [taken, add, paddedSize_append, paddedSize_singleton]
  omega

def PacketBuilder.addOption (b : PacketBuilder) : Option Chunk → PacketBuilder
  | none => b
  | some c => b.add c

lemma PacketBuilder.taken_addOption (c : Option Chunk) :
    (b.addOption c).taken = b.taken + paddedSize c.toList := by
  cases c with
  | none => rfl
  | some c =>
    rw [Option.toList_some, paddedSize_singleton]
    exact b.taken_add c

lemma PacketBuilder.maxPacketSize_addOption (c : Option Chunk) :
    (b.addOption c).maxPacketSize = b.maxPacketSize := by
  cases c <;> rfl

lemma PacketBuilder.taken_addAll (cs : List Chunk) :
    (b.addAll cs).taken = b.taken + paddedSize cs := by
  simp only [taken, addAll, paddedSize_append]
  omega

def Outside.SendsWithin (limit : Nat) (o o' : Outside) : Prop :=
  ∃ packets, o'.sent = o.sent ++ packets ∧ ∀ p ∈ packets, p.size ≤ limit

lemma Outside.SendsWithin.refl (limit : Nat) (o : Outside) : SendsWithin limit o o :=
  ⟨[], (append_nil _).symm, by simp⟩

lemma Outside.SendsWithin.trans {limit : Nat} {o o' o'' : Outside} (h : SendsWithin limit o o')
    (h' : SendsWithin limit o' o'') : SendsWithin limit o o'' := by
  obtain ⟨packets, hsent, hsize⟩ := h
  obtain ⟨packets', hsent', hsize'⟩ := h'
  refine ⟨packets ++ packets', by rw [hsent', hsent, append_assoc], ?_⟩
  exact forall_mem_append.mpr ⟨hsize, hsize'⟩

lemma Outside.sendsWithin_send {limit : Nat} (o : Outside) (b : PacketBuilder) (writeChecksum : Bool)
    (h : b.chunks ≠ [] → b.taken ≤ limit) : SendsWithin limit o (o.send b writeChecksum).2 := by
  unfold send
  cases hchunks : b.chunks with
  | nil => exact .refl limit o
  | cons c cs =>
    refine ⟨[⟨b.verificationTag, c :: cs, by simp, writeChecksum⟩], rfl, fun p hp => ?_⟩
    rw [mem_singleton] at hp
    subst hp
    have hle := h (by simp [hchunks])
    unfold taken at hle
    rwa [hchunks] at hle

/-- A packet with chunks is handed out with the size the builder has taken. -/
lemma Outside.sent_send (o : Outside) {b : PacketBuilder} (writeChecksum : Bool) (h : b.chunks ≠ []) :
    ∃ p, (o.send b writeChecksum).2.sent = o.sent ++ [p] ∧ p.size = b.taken := by
  unfold send
  cases hchunks : b.chunks with
  | nil => exact absurd hchunks h
  | cons c cs =>
    refine ⟨_, rfl, ?_⟩
    rw [taken, hchunks]
    rfl

variable (a : Association)

namespace Association

lemma paddedSize_dataChunks (h : a.tcb.Formatted) (imm : Bool) (chunks : List (TSN × Data)) :
    paddedSize (a.dataChunks imm chunks) = a.tcb.retransmissionQueue.serializedSize chunks := by
  unfold paddedSize dataChunks serializedSize
    getSerializedChunkSize
  rw [h, map_map]
  refine congrArg sum (map_congr_left fun c _ => ?_)
  cases a.tcb.capabilities.messageInterleaving <;> simp [Chunk.size, headerSize]

lemma dvd_header {a : Association} (h : a.tcb.Formatted) :
    4 ∣ a.tcb.retransmissionQueue.dataChunkHeaderSize := by
  rw [h]
  exact dvd_headerSize _

/-! ## Fast retransmission and the packets with data -/

/-- Adding data that fits into what remains keeps within the packet; without any, nothing is
sent unless there was a chunk before. -/
lemma taken_addAll_le {b : PacketBuilder} {cs : List Chunk}
    (hb : b.chunks ≠ [] → b.taken ≤ b.maxPacketSize) (hcs : paddedSize cs ≤ b.bytesRemaining)
    (hpos : cs ≠ [] → 0 < paddedSize cs) (hne : (b.addAll cs).chunks ≠ []) :
    (b.addAll cs).taken ≤ b.maxPacketSize := by
  rw [bytesRemaining_eq] at hcs
  rw [taken_addAll]
  by_cases hbn : b.chunks = []
  · have hcsn : cs ≠ [] := by simpa [addAll, hbn] using hne
    have := hpos hcsn
    omega
  · have := hb hbn
    omega

lemma dataChunks_pos (imm : Bool) (chunks : List (TSN × Data))
    (hne : a.dataChunks imm chunks ≠ []) :
    0 < paddedSize (a.dataChunks imm chunks) := by
  cases chunks with
  | nil => exact absurd rfl hne
  | cons c chunks =>
    simp only [dataChunks, map_cons, paddedSize, sum_cons]
    have hsize : 0 < roundUpTo4 (Chunk.size (if a.tcb.capabilities.messageInterleaving = true
        then .iData c.1 c.2 imm else .data c.1 c.2 imm)) := by
      refine lt_of_lt_of_le ?_ (le_roundUpTo4 _)
      split <;> simp [Chunk.size]
    omega

lemma maybeSendFastRetransmit_within (h : a.tcb.Formatted) :
    Outside.SendsWithin (roundDownTo4 a.tcb.options.mtu) a.outside
      a.maybeSendFastRetransmit.outside := by
  unfold maybeSendFastRetransmit
  split
  swap
  · exact .refl _ _
  have hfits := a.tcb.retransmissionQueue.serializedSize_getChunksForFastRetransmit
    a.packetBuilder.bytesRemaining
  rw [← a.paddedSize_dataChunks h false] at hfits
  exact Outside.sendsWithin_send _ _ _ fun hne =>
    taken_addAll_le (fun hb => absurd rfl hb) hfits (a.dataChunks_pos false _) hne

/-- What `sendDataPacket` sends: the builder with data chunks that fit into what remains of it. -/
lemma sendDataPacket_eq (h : a.tcb.Formatted) (b : PacketBuilder) (now : Timestamp) :
    ∃ (a' : Association) (cs : List Chunk) (writeChecksum : Bool), a'.outside = a.outside ∧
      a'.tcb.Formatted ∧ paddedSize cs ≤ b.bytesRemaining ∧ (cs ≠ [] → 0 < paddedSize cs) ∧
      (a.sendDataPacket b now).2 =
        { a' with outside := (a'.outside.send (b.addAll cs) writeChecksum).2 } := by
  have hfits := a.tcb.retransmissionQueue.serializedSize_getChunksToSend a.sendQueue now
    b.bytesRemaining (dvd_header h)
  have hheader := a.tcb.retransmissionQueue.header_getChunksToSend a.sendQueue now b.bytesRemaining
  unfold sendDataPacket
  generalize a.tcb.retransmissionQueue.getChunksToSend a.sendQueue now b.bytesRemaining = r
    at hfits hheader ⊢
  obtain ⟨chunks, rtx, sendQueue⟩ := r
  dsimp only at hfits hheader ⊢
  have hkept : ∀ a' : Association, a' = (if chunks.isEmpty = true then
      { a with tcb := { a.tcb with retransmissionQueue := rtx }, sendQueue }
      else restartHeartbeatTimer
        { a with tcb := { a.tcb with retransmissionQueue := rtx }, sendQueue }) →
      a'.outside = a.outside ∧ a'.tcb.capabilities = a.tcb.capabilities ∧
        a'.tcb.retransmissionQueue = rtx := by
    rintro a' rfl
    split
    · exact ⟨rfl, rfl, rfl⟩
    unfold restartHeartbeatTimer
    split <;> exact ⟨rfl, rfl, rfl⟩
  generalize (if chunks.isEmpty = true then
      { a with tcb := { a.tcb with retransmissionQueue := rtx }, sendQueue }
      else restartHeartbeatTimer
        { a with tcb := { a.tcb with retransmissionQueue := rtx }, sendQueue }) = a' at hkept ⊢
  obtain ⟨houtside, hsame, hrtx⟩ := hkept a' rfl
  have hformat : a'.tcb.Formatted := by
    unfold TransmissionControlBlock.Formatted at h ⊢
    rw [hrtx, hsame, hheader, h]
  refine ⟨a', _, _, houtside, hformat, ?_, a'.dataChunks_pos _ chunks, rfl⟩
  rw [a'.paddedSize_dataChunks hformat, hrtx, serializedSize_congr hheader]
  exact hfits

lemma sendDataPacket_within (h : a.tcb.Formatted) (b : PacketBuilder)
    (now : Timestamp) (hb : b.chunks ≠ [] → b.taken ≤ b.maxPacketSize) :
    Outside.SendsWithin b.maxPacketSize a.outside (a.sendDataPacket b now).2.outside ∧
      (a.sendDataPacket b now).2.tcb.Formatted := by
  obtain ⟨a', cs, writeChecksum, houtside, hformat, hfits, hpos, heq⟩ := a.sendDataPacket_eq h b now
  rw [heq, ← houtside]
  exact ⟨Outside.sendsWithin_send _ _ _ (taken_addAll_le hb hfits hpos), hformat⟩

/-- A packet that was begun is sent, with all that is in it. -/
lemma sendDataPacket_sends (h : a.tcb.Formatted) {b : PacketBuilder} (now : Timestamp)
    (hb : b.chunks ≠ []) :
    ∃ p, (a.sendDataPacket b now).2.outside.sent = a.outside.sent ++ [p] ∧ b.taken ≤ p.size ∧
      (a.sendDataPacket b now).2.tcb.Formatted := by
  obtain ⟨a', cs, writeChecksum, houtside, hformat, -, -, heq⟩ := a.sendDataPacket_eq h b now
  obtain ⟨p, hsent, hsize⟩ := a'.outside.sent_send (b := b.addAll cs) writeChecksum (by
    intro hnil
    exact hb (append_eq_nil_iff.mp hnil).1)
  refine ⟨p, ?_, ?_, ?_⟩
  · rw [heq, ← houtside]
    exact hsent
  · rw [hsize, taken_addAll]
    exact Nat.le_add_right _ _
  · rw [heq]
    exact hformat

lemma sendLoop_within (now : Timestamp) : ∀ (packets : Nat) (b : PacketBuilder) (a : Association),
    a.tcb.Formatted → (b.chunks ≠ [] → b.taken ≤ b.maxPacketSize) →
    Outside.SendsWithin b.maxPacketSize a.outside (sendLoop now packets b a).outside
  | 0, b, a, _, _ => .refl _ _
  | packets + 1, b, a, h, hb => by
    obtain ⟨hfirst, hfmt⟩ := a.sendDataPacket_within h b now hb
    unfold sendLoop
    generalize a.sendDataPacket b now = r at hfirst hfmt ⊢
    obtain ⟨sent, a'⟩ := r
    dsimp only at hfirst hfmt ⊢
    split
    · exact hfirst.trans
        (sendLoop_within now packets { b with chunks := [] } a' hfmt fun hne => absurd rfl hne)
    · exact hfirst

lemma sendLoop_sends {a : Association} (h : a.tcb.Formatted) {b : PacketBuilder} (now : Timestamp)
    (packets : Nat) (hb : b.chunks ≠ []) :
    ∃ p rest, (sendLoop now (packets + 1) b a).outside.sent = a.outside.sent ++ p :: rest ∧
      b.taken ≤ p.size := by
  obtain ⟨p, hsent, hsize, hformat⟩ := a.sendDataPacket_sends h now hb
  unfold sendLoop
  generalize a.sendDataPacket b now = r at hsent hformat ⊢
  obtain ⟨sent, a'⟩ := r
  dsimp only at hsent hformat ⊢
  split
  · obtain ⟨rest, hrest, -⟩ :=
      sendLoop_within now packets { b with chunks := [] } a' hformat fun hne => absurd rfl hne
    refine ⟨p, rest, ?_, hsize⟩
    rw [hrest, hsent, append_assoc]
    rfl
  · exact ⟨p, [], hsent, hsize⟩

end Association

/-! ## Control chunks -/

lemma RetransmissionQueue.header_shouldSendForwardTsn (q : RetransmissionQueue) (s : RRSendQueue)
    (now : Timestamp) :
    (q.shouldSendForwardTsn s now).2.1.dataChunkHeaderSize = q.dataChunkHeaderSize := by
  unfold shouldSendForwardTsn
  split
  · exact OutstandingData.expireLoop_induction _
      (P := fun p => p.1.dataChunkHeaderSize = q.dataChunkHeaderSize) now
      (fun o s _ i _ h => (OutstandingData.samePayload_abandonAllFor _ o i s).2.trans h)
      (fun _ h => h) _ _ s rfl
  · rfl

namespace Association

def cookieEchoBytes : Nat :=
  match a.tcb.cookieEchoChunk with
  | none => 0
  | some cookie => roundUpTo4 (4 + cookie.size)

/-- The size of the SACK that is due: of the blocks at most 20 are reported. -/
def sackBytes : Nat :=
  if (a.tcb.dataTracker.shouldSendAck true).1 then
    16 + 4 * min kMaxGapAckBlocksReported a.tcb.dataTracker.additionalTsnBlocks.length +
      4 * a.tcb.dataTracker.duplicateTsns.size
  else 0

/-- The size of the FORWARD-TSN that is due: it lists the streams of the chunks given up. -/
def forwardTsnBytes (now : Timestamp) : Nat :=
  if now < a.tcb.limitForwardTsnUntil then 0
  else
    match a.tcb.retransmissionQueue.shouldSendForwardTsn a.sendQueue now with
    | (false, _, _) => 0
    | (true, q, _) =>
      if a.tcb.capabilities.messageInterleaving then
        8 + 8 * q.outstandingData.createIForwardTsn.skippedStreams.length
      else 8 + 4 * q.outstandingData.createForwardTsn.skippedStreams.length

/-- The size of a RE-CONFIG that resets the streams that are ready, after messages may have been given
up for a FORWARD-TSN; there is none while a request is on its way. -/
def reConfigBytes (now : Timestamp) : Nat :=
  let sendQueue := (a.maybeSendForwardTsn a.packetBuilder now).2.sendQueue
  if a.tcb.streamResetHandler.currentRequest.isSome || !sendQueue.hasStreamsReadyToBeReset then 0
  else 4 + roundUpTo4 (16 + 2 * sendQueue.getStreamsReadyToBeReset.1.length)

def controlBytes (now : Timestamp) : Nat :=
  a.cookieEchoBytes + a.sackBytes + a.forwardTsnBytes now + a.reConfigBytes now

variable (b : PacketBuilder)

lemma paddedSize_cookieEcho :
    paddedSize (a.tcb.cookieEchoChunk.map Chunk.cookieEcho).toList = a.cookieEchoBytes := by
  unfold cookieEchoBytes
  cases a.tcb.cookieEchoChunk with
  | none => rfl
  | some cookie => exact paddedSize_singleton _

lemma paddedSize_selectiveAck :
    paddedSize ((a.selectiveAck true).1.map Chunk.sack).toList = a.sackBytes := by
  have hcounts : (a.tcb.dataTracker.shouldSendAck true).2.additionalTsnBlocks =
    a.tcb.dataTracker.additionalTsnBlocks ∧
      (a.tcb.dataTracker.shouldSendAck true).2.duplicateTsns = a.tcb.dataTracker.duplicateTsns := by
    unfold shouldSendAck updateAckState
    split
    · split <;> exact ⟨rfl, rfl⟩
    · exact ⟨rfl, rfl⟩
  unfold selectiveAck sackBytes
  generalize a.tcb.dataTracker.shouldSendAck true = r at hcounts ⊢
  obtain ⟨_ | _, t⟩ := r
  · rfl
  have hblocks : t.createGapAckBlocks.length =
      min kMaxGapAckBlocksReported a.tcb.dataTracker.additionalTsnBlocks.length := by
    rw [createGapAckBlocks, length_map, length_take, hcounts.1]
  show paddedSize [Chunk.sack (t.createSelectiveAck _).1] = _
  rw [paddedSize_singleton, Chunk.size, createSelectiveAck]
  rw [hblocks, hcounts.2, roundUpTo4_of_dvd (by omega), if_pos rfl]

lemma taken_maybeSendForwardTsn (now : Timestamp) :
    (a.maybeSendForwardTsn b now).1.taken = b.taken + a.forwardTsnBytes now ∧
      (a.maybeSendForwardTsn b now).1.maxPacketSize = b.maxPacketSize := by
  unfold maybeSendForwardTsn forwardTsnBytes
  split
  · exact ⟨rfl, rfl⟩
  generalize a.tcb.retransmissionQueue.shouldSendForwardTsn a.sendQueue now = r
  obtain ⟨_ | _, q, sendQueue⟩ := r
  · exact ⟨rfl, rfl⟩
  refine ⟨?_, rfl⟩
  rw [taken_add]
  dsimp only
  split <;> rw [Chunk.size, roundUpTo4_of_dvd (by omega)]

/-- The send queue does not depend on the packet, nor on the ack that was put into it. -/
lemma sendQueue_maybeSendForwardTsn (now : Timestamp) :
    ((a.selectiveAck true).2.maybeSendForwardTsn b now).2.sendQueue =
        (a.maybeSendForwardTsn a.packetBuilder now).2.sendQueue ∧
      ((a.selectiveAck true).2.maybeSendForwardTsn b now).2.tcb.streamResetHandler =
        a.tcb.streamResetHandler := by
  have hsame : (a.selectiveAck true).2 =
      { a with tcb := { a.tcb with dataTracker := (a.selectiveAck true).2.tcb.dataTracker } } := by
    unfold selectiveAck
    split <;> rfl
  rw [hsame]
  unfold maybeSendForwardTsn
  dsimp only
  split
  · exact ⟨rfl, rfl⟩
  generalize a.tcb.retransmissionQueue.shouldSendForwardTsn a.sendQueue now = r
  obtain ⟨_ | _, q, sendQueue⟩ := r <;> exact ⟨rfl, rfl⟩

lemma forwardTsnBytes_selectiveAck (now : Timestamp) :
    (a.selectiveAck true).2.forwardTsnBytes now = a.forwardTsnBytes now := by
  unfold selectiveAck
  split <;> rfl

lemma paddedSize_makeStreamResetRequest {a a' : Association} {now : Timestamp}
    (hqueue : a'.sendQueue = (a.maybeSendForwardTsn a.packetBuilder now).2.sendQueue)
    (hhandler : a'.tcb.streamResetHandler = a.tcb.streamResetHandler) :
    paddedSize a'.makeStreamResetRequest.1.toList = a.reConfigBytes now := by
  unfold reConfigBytes
  dsimp only
  rw [← hqueue, ← hhandler]
  show paddedSize (a'.tcb.streamResetHandler.makeStreamResetRequest a'.tcb.retransmissionQueue
    a'.sendQueue).1.toList = _
  unfold StreamResetHandler.makeStreamResetRequest
  show paddedSize (if a'.tcb.streamResetHandler.currentRequest.isSome ||
    !a'.sendQueue.hasStreamsReadyToBeReset then _ else _ : Option Chunk × _).1.toList = _
  split
  · rfl
  refine (paddedSize_singleton _).trans ?_
  show roundUpTo4 (4 + (roundUpTo4 (16 + 2 * a'.sendQueue.getStreamsReadyToBeReset.1.length) + 0)) = _
  exact roundUpTo4_of_dvd (Nat.dvd_add (by decide) (dvd_roundUpTo4 _))

lemma addControlChunks_eq (now : Timestamp) :
    a.addControlChunks b now =
      let b1 := b.addOption (a.tcb.cookieEchoChunk.map .cookieEcho)
      let b2 := b1.addOption ((a.selectiveAck true).1.map .sack)
      let p := (a.selectiveAck true).2.maybeSendForwardTsn b2 now
      (p.1.addOption p.2.makeStreamResetRequest.1, p.2.makeStreamResetRequest.2) := by
  unfold addControlChunks
  dsimp only
  cases a.tcb.cookieEchoChunk <;> cases (a.selectiveAck true).1 <;> split <;> rename_i heq <;>
    simp only [addOption, Option.map_none, Option.map_some, heq]

lemma addControlChunks_taken (now : Timestamp) :
    (a.addControlChunks b now).1.taken = b.taken + a.controlBytes now ∧
      (a.addControlChunks b now).1.maxPacketSize = b.maxPacketSize := by
  rw [addControlChunks_eq]
  dsimp only
  obtain ⟨htaken, hmax⟩ := (a.selectiveAck true).2.taken_maybeSendForwardTsn
    ((b.addOption (a.tcb.cookieEchoChunk.map .cookieEcho)).addOption
      ((a.selectiveAck true).1.map .sack)) now
  obtain ⟨hqueue, hhandler⟩ := a.sendQueue_maybeSendForwardTsn
    ((b.addOption (a.tcb.cookieEchoChunk.map .cookieEcho)).addOption
      ((a.selectiveAck true).1.map .sack)) now
  rw [maxPacketSize_addOption, hmax, maxPacketSize_addOption, maxPacketSize_addOption, taken_addOption,
    htaken, taken_addOption, taken_addOption, paddedSize_cookieEcho, paddedSize_selectiveAck,
    forwardTsnBytes_selectiveAck, paddedSize_makeStreamResetRequest hqueue hhandler]
  refine ⟨?_, rfl⟩
  unfold controlBytes
  omega

lemma maybeSendForwardTsn_formatted {a : Association} (h : a.tcb.Formatted) (now : Timestamp) :
    (a.maybeSendForwardTsn b now).2.tcb.Formatted := by
  have hheader := a.tcb.retransmissionQueue.header_shouldSendForwardTsn a.sendQueue now
  unfold maybeSendForwardTsn
  split
  · exact h
  split <;> rename_i heq <;> rw [heq] at hheader <;> exact hheader.trans h

lemma makeStreamResetRequest_formatted (h : a.tcb.Formatted) :
    a.makeStreamResetRequest.2.tcb.Formatted := by
  show (a.tcb.streamResetHandler.makeStreamResetRequest a.tcb.retransmissionQueue
    a.sendQueue).2.2.1.dataChunkHeaderSize = _
  unfold StreamResetHandler.makeStreamResetRequest
  split <;> exact h

lemma addControlChunks_kept (h : a.tcb.Formatted) (now : Timestamp) :
    (a.addControlChunks b now).2.tcb.Formatted ∧ (a.addControlChunks b now).2.outside = a.outside ∧
      (a.addControlChunks b now).2.tcb.options = a.tcb.options := by
  rw [addControlChunks_eq]
  have hsack : (a.selectiveAck true).2.tcb.Formatted ∧ (a.selectiveAck true).2.outside = a.outside ∧
      (a.selectiveAck true).2.tcb.options = a.tcb.options := by
    unfold selectiveAck
    split <;> exact ⟨h, rfl, rfl⟩
  obtain ⟨hformat, houtside, hoptions⟩ := hsack
  refine ⟨makeStreamResetRequest_formatted _ (maybeSendForwardTsn_formatted _ hformat now), ?_, ?_⟩
  · rw [← houtside]
    show (maybeSendForwardTsn _ _ now).2.outside = _
    unfold maybeSendForwardTsn
    split
    · rfl
    split <;> rfl
  · rw [← hoptions]
    show (maybeSendForwardTsn _ _ now).2.tcb.options = _
    unfold maybeSendForwardTsn
    split
    · rfl
    split <;> rfl

/-- **The control chunks decide.** The packets are as large as they may be at most exactly if the
first one is with its control chunks alone. -/
lemma sendBufferedPacketsWith_within_iff (h : a.tcb.Formatted) (now : Timestamp)
    (hroom : SctpPacket.kHeaderSize ≤ b.maxPacketSize) :
    Outside.SendsWithin b.maxPacketSize a.outside (a.sendBufferedPacketsWith b now).outside ↔
      a.tcb.options.maxBurst = 0 ∨ b.taken + a.controlBytes now ≤ b.maxPacketSize := by
  obtain ⟨htaken, hmax⟩ := a.addControlChunks_taken b now
  obtain ⟨hformat, houtside, hoptions⟩ := a.addControlChunks_kept b h now
  unfold sendBufferedPacketsWith
  split
  next hnone => exact ⟨fun _ => .inl hnone, fun _ => .refl _ _⟩
  next hsome =>
  generalize a.addControlChunks b now = r at htaken hmax hformat houtside hoptions ⊢
  obtain ⟨b', a'⟩ := r
  dsimp only at htaken hmax hformat houtside hoptions ⊢
  rw [← htaken, ← hmax, ← houtside, hoptions]
  constructor
  · rintro ⟨packets, hsent, hsizes⟩
    refine .inr ?_
    by_cases hchunks : b'.chunks = []
    · rw [taken, hchunks, hmax]
      exact hroom
    obtain ⟨n, hn⟩ := Nat.exists_eq_succ_of_ne_zero hsome
    obtain ⟨p, rest, hfirst, hsize⟩ := sendLoop_sends hformat now n hchunks
    rw [hn, Nat.succ_eq_add_one, hfirst] at hsent
    have hp : p ∈ packets := append_cancel_left hsent ▸ mem_cons_self
    exact hsize.trans (hsizes p hp)
  · intro hfits
    exact sendLoop_within now _ b' a' hformat fun _ => hfits.resolve_left hsome

end Association

/-! ## Runs -/

namespace DcSctpSocket

def FormatInv (s : DcSctpSocket) : Prop :=
  ∀ t, s.tcb = some t → t.retransmissionQueue.Booked ∧ t.Formatted

lemma move_formatInv {ok : DcSctpSocket → VerificationTag → Chunk → Prop} {s s' : DcSctpSocket}
    {calls : Option (List ReassemblyQueue.Operation)} (hmove : Move ok s s' calls) (h : FormatInv s) : FormatInv s' := by
  intro t' ht'
  rcases hmove.tcb_origin ht' with hfresh | ⟨t, ops, ht, hwork, -⟩
  · exact ⟨hfresh.books, hfresh.format⟩
  obtain ⟨hbooks, hfmt⟩ := h t ht
  exact ⟨hwork.books hbooks, hwork.format hbooks hfmt⟩

lemma formatted_run (options : DcSctpOptions) (random : Nat → Nat) (canSend : Nat → Bool)
    (evs : List Event) {t : TransmissionControlBlock}
    (ht : (run step (new options random canSend) evs).tcb = some t) : t.Formatted := by
  have hnew : FormatInv (new options random canSend) := fun t ht => (nomatch ht)
  exact (run_of_moves (fun _ _ _ => move_formatInv) evs hnew t ht).2

/-- In every state `a` of an association that a run sets up, with or without a COOKIE-ACK in the packet
before: no packet of `SendBufferedPackets` is larger than the MTU allows exactly if there is room in
a packet for the header and the control chunks. No packet of `MaybeSendFastRetransmit` is. -/
theorem packets_within_mtu (options : DcSctpOptions) (random : Nat → Nat) (canSend : Nat → Bool)
    (evs : List Event) (t : TransmissionControlBlock)
    (ht : (run step (new options random canSend) evs).tcb = some t) (a : Association)
    (hsame : a.tcb.capabilities = t.capabilities)
    (hheader : a.tcb.retransmissionQueue.dataChunkHeaderSize =
      t.retransmissionQueue.dataChunkHeaderSize)
    (hmtu : SctpPacket.kHeaderSize ≤ a.tcb.options.mtu) (cookieAck : Bool) (now : Timestamp) :
    (Outside.SendsWithin (roundDownTo4 a.tcb.options.mtu) a.outside
        (a.sendBufferedPacketsWith
          (if cookieAck then a.packetBuilder.add .cookieAck else a.packetBuilder) now).outside ↔
      a.tcb.options.maxBurst = 0 ∨
        SctpPacket.kHeaderSize + (if cookieAck then 4 else 0) + a.controlBytes now ≤
          roundDownTo4 a.tcb.options.mtu) ∧
      Outside.SendsWithin (roundDownTo4 a.tcb.options.mtu) a.outside
        a.maybeSendFastRetransmit.outside := by
  have hformat : a.tcb.Formatted := by
    have hrun := formatted_run options random canSend evs ht
    unfold TransmissionControlBlock.Formatted at hrun ⊢
    rw [hheader, hsame, hrun]
  have hroom : SctpPacket.kHeaderSize ≤ roundDownTo4 a.tcb.options.mtu := by
    unfold roundDownTo4 SctpPacket.kHeaderSize at *
    omega
  refine ⟨?_, a.maybeSendFastRetransmit_within hformat⟩
  cases cookieAck with
  | false => exact a.sendBufferedPacketsWith_within_iff a.packetBuilder hformat now hroom
  | true =>
    exact a.sendBufferedPacketsWith_within_iff (a.packetBuilder.add .cookieAck) hformat now hroom

def initAckWithCookie (size : Nat) : InitChunk :=
  { initiateTag := 2
    aRwnd := 100000
    nbrOutboundStreams := 65535
    nbrInboundStreams := 65535
    initialTsn := 10
    parameters :=
      { forwardTsnSupported := true
        supportedExtensions := some [.reConfig, .forwardTsn, .iData, .iForwardTsn]
        stateCookie := some ⟨size, none, by simp⟩ } }

def answered (size : Nat) : List Event := [(0, .connect), packetOf 1 (.initAck (initAckWithCookie size))]

/-- With a cookie of 44 bytes, the packets after the INIT-ACK are within the MTU. -/
theorem packets_within_mtu_small_cookie :
    ∃ a, (run step (new {} (fun _ => 0) fun _ => true) (answered 44)).association? = some a ∧
      Outside.SendsWithin 1188 a.outside (a.sendBufferedPackets 0).outside := by
  obtain ⟨s, hs⟩ : ∃ s, s = run step (new {} (fun _ => 0) fun _ => true) (answered 44) := ⟨_, rfl⟩
  have hvals : s.association?.map (fun a => (a.tcb.options.mtu, a.controlBytes 0)) =
      some (1191, 48) := by
    rw [hs]
    decide +kernel
  obtain ⟨a, ha, hvals⟩ := Option.map_eq_some_iff.mp hvals
  rw [Prod.mk.injEq] at hvals
  obtain ⟨hmtu, hcontrol⟩ := hvals
  have hlim : roundDownTo4 a.tcb.options.mtu = 1188 := by rw [hmtu]; rfl
  have hwi := (packets_within_mtu {} (fun _ => 0) (fun _ => true) (answered 44) a.tcb
    (hs ▸ association?_eq_some ha) a rfl rfl (by rw [hmtu]; decide) false 0).1.mpr
    (.inr (by rw [hcontrol, hlim]; decide))
  rw [hlim] at hwi
  exact ⟨a, hs ▸ ha, hwi⟩

def oneEach (streams : Nat) : Event :=
  (0, .sendMany ((range streams).map fun sid => ⟨sid, 51, [7]⟩) { maxRetransmissions := some 0 })

/-- A cookie of 1184 bytes is sent back in a packet of 1200 bytes, where the MTU allows 1188. With
message interleaving and an MTU of 128 bytes, giving up messages on 14 streams takes a packet
of 132 bytes. -/
theorem packets_beyond_mtu :
    (run step (new {} (fun _ => 0) fun _ => true) (answered 1184)).outside.sent.map SctpPacket.size =
        [44, 1200] ∧
      (run step (new { mtu := 128, enableMessageInterleaving := true } (fun _ => 0) fun _ => true)
        (answered 44 ++ [packetOf 1 .cookieAck, oneEach 14, (500000, .handleTimeout .t3Rtx)])).outside.sent.map
          SctpPacket.size = [44, 60, 108, 108, 108, 60, 132] := by
  decide +kernel

end DcSctpSocket

end WebRtc.Dcsctp
