import WebRtc.Dcsctp.Socket.DcSctpSocket
import WebRtc.Dcsctp.Tx.QueueBooks
import WebRtc.Dcsctp.Tx.ReceiverWindow
import WebRtc.Dcsctp.Rx.ChunkLedger

/-!
# dcSCTP — what the operations of a TCB leave alone

Sending, acknowledging and the timers touch neither the reassembly queue nor the COOKIE-ECHO nor
what was negotiated, and keep the books of the retransmission queue (`Acts`). The operations on
received data make calls of the reassembly queue (`TcbEvolves`).
-/

namespace WebRtc.Dcsctp

open Lib ReassemblyQueue List RetransmissionQueue

/-- The retransmission queue counts with the header of the chunks that were negotiated. -/
def TransmissionControlBlock.Formatted (t : TransmissionControlBlock) : Prop :=
  t.retransmissionQueue.dataChunkHeaderSize =
    headerSize t.capabilities.messageInterleaving

namespace Association

structure Acts (a a' : Association) : Prop where
  cookie : a'.tcb.cookieEchoChunk = a.tcb.cookieEchoChunk
  queue : a'.tcb.reassemblyQueue = a.tcb.reassemblyQueue
  books : a.tcb.retransmissionQueue.Booked → a'.tcb.retransmissionQueue.Booked
  same : a'.tcb.capabilities = a.tcb.capabilities
  format : a.tcb.retransmissionQueue.Booked → a.tcb.Formatted → a'.tcb.Formatted

variable (a : Association)

lemma Acts.refl : Acts a a := ⟨rfl, rfl, id, rfl, fun _ => id⟩

lemma Acts.trans {a a' a'' : Association} (h : Acts a a') (h' : Acts a' a'') : Acts a a'' :=
  ⟨h'.cookie.trans h.cookie, h'.queue.trans h.queue, fun hb => h'.books (h.books hb),
    h'.same.trans h.same, fun hb hf => h'.format (h.books hb) (h.format hb hf)⟩

variable (b : PacketBuilder)

lemma send_acts : Acts a (a.send b) := ⟨rfl, rfl, id, rfl, fun _ => id⟩

lemma incrementTxErrorCounter_acts : Acts a a.incrementTxErrorCounter.2 :=
  ⟨rfl, rfl, id, rfl, fun _ => id⟩

lemma selectiveAck_acts (also : Bool) : Acts a (a.selectiveAck also).2 := by
  unfold selectiveAck
  split <;> exact ⟨rfl, rfl, id, rfl, fun _ => id⟩

lemma maybeSendSack_acts : Acts a a.maybeSendSack := by
  have h := a.selectiveAck_acts false
  unfold maybeSendSack
  split <;> rename_i heq <;> rw [heq] at h
  · exact h
  · exact h.trans (send_acts _ _)

lemma onDelayedAckTimerExpiry_acts : Acts a a.onDelayedAckTimerExpiry := by
  obtain ⟨hcookie, hq, hbooks, hsame, hfmt⟩ := maybeSendSack_acts { a with
    tcb := { a.tcb with
      dataTracker :=
        { a.tcb.dataTracker with delayedAckTimerRunning := false }.handleDelayedAckTimerExpiry } }
  exact ⟨hcookie, hq, hbooks, hsame, hfmt⟩

variable (now : Timestamp)

lemma maybeSendForwardTsn_acts : Acts a (a.maybeSendForwardTsn b now).2 := by
  have hbooks (h : a.tcb.retransmissionQueue.Booked) := h.shouldSendForwardTsn a.sendQueue now
  unfold maybeSendForwardTsn
  split
  · exact .refl a
  split <;> rename_i heq <;> rw [heq] at hbooks <;>
    exact ⟨rfl, rfl, fun hb => (hbooks hb).1, rfl, fun hb => (hbooks hb).2.trans⟩

lemma makeStreamResetRequest_acts : Acts a a.makeStreamResetRequest.2 := by
  have hrtx : (a.tcb.streamResetHandler.makeStreamResetRequest a.tcb.retransmissionQueue
    a.sendQueue).2.2.1 = a.tcb.retransmissionQueue ∨
      (a.tcb.streamResetHandler.makeStreamResetRequest a.tcb.retransmissionQueue
        a.sendQueue).2.2.1 = (a.tcb.retransmissionQueue.beginResetStreams a.sendQueue).2.1 := by
    unfold StreamResetHandler.makeStreamResetRequest
    split
    · exact .inl rfl
    · exact .inr rfl
  refine ⟨rfl, rfl, fun h => ?_, rfl, fun _ h => ?_⟩
  · show (a.tcb.streamResetHandler.makeStreamResetRequest a.tcb.retransmissionQueue
      a.sendQueue).2.2.1.Booked
    rcases hrtx with hrtx | hrtx <;> rw [hrtx]
    · exact h
    · exact h.beginResetStreams a.sendQueue
  · show (a.tcb.streamResetHandler.makeStreamResetRequest a.tcb.retransmissionQueue
      a.sendQueue).2.2.1.dataChunkHeaderSize = _
    rcases hrtx with hrtx | hrtx <;> rw [hrtx] <;> exact h

/-- Fetching the chunks for fast retransmission needs the books only, and leaves none. -/
lemma maybeSendFastRetransmit_books (h : a.tcb.retransmissionQueue.outstandingData.Bookkeeping) :
    a.maybeSendFastRetransmit.tcb.retransmissionQueue.Booked := by
  unfold maybeSendFastRetransmit
  split
  · exact (booked_getChunksForFastRetransmit h _).1
  rename_i hnone
  simp only [OutstandingData.hasDataToBeFastRetransmitted, Bool.not_eq_true', Bool.not_eq_false]
    at hnone
  exact ⟨h, WebRtc.Lib.OrdMap.isEmpty_iff.mp hnone⟩

lemma maybeSendFastRetransmit_formatted (h : a.tcb.Formatted) :
    a.maybeSendFastRetransmit.tcb.Formatted := by
  unfold maybeSendFastRetransmit
  split
  · obtain ⟨again, hsnd⟩ := a.tcb.retransmissionQueue.sends_getChunksForFastRetransmit
      a.packetBuilder.bytesRemaining
    exact hsnd.header.trans h
  · exact h

lemma restartHeartbeatTimer_acts : Acts a a.restartHeartbeatTimer := by
  unfold restartHeartbeatTimer
  split <;> exact ⟨rfl, rfl, id, rfl, fun _ => id⟩

lemma addControlChunks_acts : Acts a (a.addControlChunks b now).2 := by
  have hsack := a.selectiveAck_acts true
  unfold addControlChunks
  dsimp only
  split <;>
    exact hsack.trans ((maybeSendForwardTsn_acts _ _ now).trans (makeStreamResetRequest_acts _))

lemma sendDataPacket_acts : Acts a (a.sendDataPacket b now).2 := by
  have hsend : Acts a { a with
      tcb := { a.tcb with
        retransmissionQueue :=
          (a.tcb.retransmissionQueue.getChunksToSend a.sendQueue now b.bytesRemaining).2.1 }
      sendQueue :=
        (a.tcb.retransmissionQueue.getChunksToSend a.sendQueue now b.bytesRemaining).2.2 } :=
    ⟨rfl, rfl, fun h => (h.getChunksToSend a.sendQueue now b.bytesRemaining).1, rfl, fun _ =>
      (header_getChunksToSend _ a.sendQueue now b.bytesRemaining).trans⟩
  unfold sendDataPacket
  dsimp only
  split
  · exact hsend.trans ⟨rfl, rfl, id, rfl, fun _ => id⟩
  · exact hsend.trans ((restartHeartbeatTimer_acts _).trans ⟨rfl, rfl, id, rfl, fun _ => id⟩)

lemma sendLoop_acts (now : Timestamp) : ∀ (packets : Nat) (b : PacketBuilder) (a : Association),
    Acts a (sendLoop now packets b a)
  | 0, _, a => .refl a
  | packets + 1, b, a => by
    have h := a.sendDataPacket_acts b now
    unfold sendLoop
    dsimp only
    split
    · exact h.trans (sendLoop_acts now packets _ _)
    · exact h

lemma sendBufferedPacketsWith_acts : Acts a (a.sendBufferedPacketsWith b now) := by
  unfold sendBufferedPacketsWith
  split
  · exact .refl a
  · exact (a.addControlChunks_acts b now).trans (sendLoop_acts now _ _ _)

lemma sendBufferedPackets_acts :
    Acts a (a.sendBufferedPackets now) := a.sendBufferedPacketsWith_acts _ now

lemma onRtxTimerExpiry_acts : Acts a (a.onRtxTimerExpiry now) := by
  have hcount := a.incrementTxErrorCounter_acts
  unfold onRtxTimerExpiry
  split
  · exact .refl a
  split <;> rename_i a' heq <;> rw [heq] at hcount
  · exact hcount
  have hexpire : Acts a' { a' with
      tcb := { a'.tcb with
        retransmissionQueue :=
          (a'.tcb.retransmissionQueue.handleT3RtxTimerExpiry a'.sendQueue).1 }
      sendQueue := (a'.tcb.retransmissionQueue.handleT3RtxTimerExpiry a'.sendQueue).2 } :=
    ⟨rfl, rfl, fun h => h.handleT3RtxTimerExpiry a'.sendQueue, rfl, fun h =>
      (h.header_handleT3RtxTimerExpiry a'.sendQueue).trans⟩
  exact hcount.trans (hexpire.trans (sendBufferedPackets_acts _ now))

lemma maybeSendResetStreamsRequest_acts : Acts a a.maybeSendResetStreamsRequest := by
  have h := a.makeStreamResetRequest_acts
  unfold maybeSendResetStreamsRequest
  split <;> rename_i heq <;> rw [heq] at h
  · exact h
  · exact h.trans ⟨rfl, rfl, id, rfl, fun _ => id⟩

lemma onReconfigTimerExpiry_acts : Acts a a.onReconfigTimerExpiry := by
  have hcount := a.incrementTxErrorCounter_acts
  unfold onReconfigTimerExpiry
  split
  · exact .refl a
  split
  · split <;> rename_i heq <;> rw [heq] at hcount
    · exact hcount
    · exact hcount.trans ⟨rfl, rfl, id, rfl, fun _ => id⟩
  · exact ⟨rfl, rfl, id, rfl, fun _ => id⟩

lemma handleHeartbeatAck_acts (info : HeartbeatInfo) :
    Acts a (a.handleHeartbeatAck now info) := by
  unfold handleHeartbeatAck
  split
  · exact ⟨rfl, rfl, id, rfl, fun _ => id⟩
  · exact ⟨rfl, rfl, id, rfl, fun _ => id⟩
  · split <;> exact ⟨rfl, rfl, id, rfl, fun _ => id⟩

lemma onIntervalTimerExpiry_acts (established : Bool) :
    Acts a (a.onIntervalTimerExpiry now established) := by
  unfold onIntervalTimerExpiry
  split
  · exact ⟨rfl, rfl, id, rfl, fun _ => id⟩
  · exact .refl a

lemma onTimeoutTimerExpiry_acts : Acts a a.onTimeoutTimerExpiry :=
  ⟨rfl, rfl, id, rfl, fun _ => id⟩

lemma finishPacket_acts : Acts a (DcSctpSocket.finishPacket a) := by
  obtain ⟨hcookie, hq, hbooks, hsame, hfmt⟩ := maybeSendSack_acts { a with
    tcb := { a.tcb with dataTracker := a.tcb.dataTracker.observePacketEnd } }
  exact ⟨hcookie, hq, hbooks, hsame, hfmt⟩

end Association

/-! ## The receiving side -/

variable (pullMode : Bool)

def ReassemblyQueue.Delivered (q : ReassemblyQueue) : Prop :=
  pullMode = true ∨ q.hasMessages = false

/-- What any operation on an existing TCB may do to it, where these calls are made of the
reassembly queue. -/
structure TcbEvolves (pullMode : Bool) (ops : List Operation) (t t' : TransmissionControlBlock) :
    Prop where
  queue : t'.reassemblyQueue = run perform t.reassemblyQueue ops
  same : t'.capabilities = t.capabilities
  delivered : t.reassemblyQueue.Delivered pullMode → t'.reassemblyQueue.Delivered pullMode
  books : t.retransmissionQueue.Booked → t'.retransmissionQueue.Booked
  format : t.retransmissionQueue.Booked → t.Formatted → t'.Formatted

lemma TcbEvolves.refl (t : TransmissionControlBlock) : TcbEvolves pullMode [] t t :=
  ⟨rfl, rfl, id, id, fun _ => id⟩

structure Works (pullMode : Bool) (ops : List Operation) (t t' : TransmissionControlBlock) : Prop
    extends TcbEvolves pullMode ops t t' where
  cookie : t'.cookieEchoChunk = t.cookieEchoChunk

lemma Works.refl (pull : Bool) (t : TransmissionControlBlock) : Works pull [] t t :=
  ⟨.refl pull t, rfl⟩

lemma Association.Acts.works {a a' : Association} (h : Acts a a') (pull : Bool) :
    Works pull [] a.tcb a'.tcb :=
  ⟨⟨h.queue, h.same, by rw [h.queue]; exact id, h.books, h.format⟩, h.cookie⟩

namespace ReassemblyQueue

lemma takeMessages_eq_run (rounds : Nat) (q : ReassemblyQueue)
    (h : rounds ≤ q.reassembledMessages.length) :
    (takeMessages rounds q).2 = run perform q (replicate rounds .getNextMessage) := by
  induction rounds generalizing q with
  | zero => rfl
  | succ rounds ih =>
    unfold takeMessages
    cases hmsgs : q.reassembledMessages with
    | nil => simp [hmsgs] at h
    | cons m rest =>
      have hrest := ih q.getNextMessage.2 (by simpa [getNextMessage, hmsgs] using h)
      rw [replicate_succ, run_cons]
      simp only [perform]
      rw [← hrest]
      simp only [getNextMessage, hmsgs]

lemma hasMessages_takeMessages : ∀ (rounds : Nat) (q : ReassemblyQueue),
    q.reassembledMessages.length ≤ rounds → (takeMessages rounds q).2.hasMessages = false
  | 0, q, h => by
    have hnil : q.reassembledMessages = [] := eq_nil_of_length_eq_zero (Nat.le_zero.mp h)
    simp [takeMessages, hasMessages, hnil]
  | rounds + 1, q, h => by
    unfold takeMessages
    cases hmsgs : q.reassembledMessages with
    | nil => simp [getNextMessage, hmsgs, hasMessages]
    | cons m rest =>
      simp only [getNextMessage, hmsgs]
      refine hasMessages_takeMessages rounds _ ?_
      rw [hmsgs, length_cons] at h
      exact Nat.le_of_succ_le_succ h

lemma delivered_getNextMessage {q : ReassemblyQueue} {pullMode : Bool}
    (h : q.Delivered pullMode) : q.getNextMessage.2.Delivered pullMode := by
  rcases h with hpull | hnone
  · exact .inl hpull
  refine .inr ?_
  simp only [hasMessages, Bool.not_eq_false', List.isEmpty_iff] at hnone
  simp [getNextMessage, hnone, hasMessages]

def deliveries (q : ReassemblyQueue) : List Operation :=
  if pullMode then [] else replicate q.reassembledMessages.length .getNextMessage

def thenDeliver (q : ReassemblyQueue) (ops : List Operation) :
    List Operation := ops ++ (run perform q ops).deliveries pullMode

lemma accepted_thenDeliver (q : ReassemblyQueue) (ops : List Operation) :
    accepted (q.thenDeliver pullMode ops) = accepted ops := by
  have hnone : accepted ((run perform q ops).deliveries pullMode) = [] := by
    unfold deliveries accepted
    split
    · rfl
    rw [flatMap_eq_nil_iff]
    intro op hop
    rw [eq_of_mem_replicate hop]
    rfl
  unfold thenDeliver
  rw [accepted_append, hnone, append_nil]

end ReassemblyQueue

/-- After calls of the reassembly queue, delivering settles what the client has to get. -/
lemma DcSctpSocket.maybeDeliverMessages_works {pull : Bool} {ops : List Operation}
    {t : TransmissionControlBlock} {a : Association}
    (hq : a.tcb.reassemblyQueue = run perform t.reassemblyQueue ops)
    (hsame : a.tcb.capabilities = t.capabilities)
    (hbooks : t.retransmissionQueue.Booked → a.tcb.retransmissionQueue.Booked)
    (hfmt : t.retransmissionQueue.Booked → t.Formatted → a.tcb.Formatted)
    (hcookie : a.tcb.cookieEchoChunk = t.cookieEchoChunk) :
    Works pull (t.reassemblyQueue.thenDeliver pull ops) t (maybeDeliverMessages pull a).tcb := by
  unfold maybeDeliverMessages thenDeliver deliveries
  cases pull with
  | true =>
    have hpull : ∀ q : ReassemblyQueue, q.Delivered true := fun _ => .inl rfl
    rw [if_pos rfl, if_pos rfl, append_nil]
    split <;> exact ⟨⟨hq, hsame, fun _ => hpull _, hbooks, hfmt⟩, hcookie⟩
  | false =>
    refine ⟨⟨?_, hsame, fun _ => .inr (hasMessages_takeMessages _ _ le_rfl), hbooks, hfmt⟩,
      hcookie⟩
    rw [if_neg (by simp), run_append, ← hq]
    exact takeMessages_eq_run _ _ le_rfl

namespace StreamResetHandler

def resetOps (h : StreamResetHandler) (t : DataTracker) (req : OutgoingSSNResetRequest) :
    List Operation :=
  let (requestSn, incomingUnwrapper) := h.incomingUnwrapper.unwrap req.requestSequenceNumber
  match { h with incomingUnwrapper }.validateReqSeqNbr requestSn with
  | some _ => []
  | none =>
    if t.isLaterThanCumulativeAckedTsn req.senderLastAssignedTsn then
      [.enterDeferredReset req.senderLastAssignedTsn req.streamIds]
    else [.resetStreamsAndLeaveDeferredReset req.streamIds]

section SendQueue

variable {σ : Type} [SendQueue σ]

def parameterOps (t : DataTracker) : Processed σ → List ReConfigParameter → List Operation
  | _, [] => []
  | p, .outgoingSSNResetRequest req :: rest =>
    p.handler.resetOps t req ++ parameterOps t (processParameter t p (.outgoingSSNResetRequest req)) rest
  | p, parameter :: rest => parameterOps t (processParameter t p parameter) rest

def reConfigOps (h : StreamResetHandler) (t : DataTracker) (q : ReassemblyQueue) (s : σ)
    (parameters : List ReConfigParameter) : List Operation :=
  if validate parameters then
    parameterOps t { handler := h, reassemblyQueue := q, sendQueue := s } parameters
  else []

lemma handleResetOutgoing_calls (h : StreamResetHandler) (t : DataTracker) (q : ReassemblyQueue)
    (req : OutgoingSSNResetRequest) :
    (h.handleResetOutgoing t q req).reassemblyQueue = run perform q (h.resetOps t req) ∧
      accepted (h.resetOps t req) = [] := by
  unfold handleResetOutgoing resetOps
  dsimp only
  cases validateReqSeqNbr _ _ with
  | some response => exact ⟨rfl, rfl⟩
  | none =>
    dsimp only
    split <;> exact ⟨rfl, rfl⟩

lemma foldl_processParameter_calls (t : DataTracker) (params : List ReConfigParameter)
    (p : Processed σ) :
    (params.foldl (processParameter t) p).reassemblyQueue =
        run perform p.reassemblyQueue (parameterOps t p params) ∧
      accepted (parameterOps t p params) = [] := by
  induction params generalizing p with
  | nil => exact ⟨rfl, rfl⟩
  | cons parameter rest ih =>
    obtain ⟨hq, haccepted⟩ := ih (processParameter t p parameter)
    rw [foldl_cons, hq]
    cases parameter with
    | outgoingSSNResetRequest req =>
      obtain ⟨hreset, hnone⟩ := handleResetOutgoing_calls p.handler t p.reassemblyQueue req
      rw [parameterOps, run_append, ← hreset, accepted_append, hnone, haccepted]
      exact ⟨rfl, rfl⟩
    | incomingSSNResetRequest requestSequenceNumber => exact ⟨rfl, haccepted⟩
    | reconfigurationResponse resp => exact ⟨rfl, haccepted⟩
    | unparsed type => cases type <;> exact ⟨rfl, haccepted⟩

lemma handleReConfig_calls (h : StreamResetHandler) (t : DataTracker) (q : ReassemblyQueue)
    (s : σ) (params : List ReConfigParameter) :
    (h.handleReConfig t q s params).reassemblyQueue =
        run perform q (h.reConfigOps t q s params) ∧
      accepted (h.reConfigOps t q s params) = [] := by
  unfold handleReConfig reConfigOps
  split
  · exact foldl_processParameter_calls t params _
  · exact ⟨rfl, rfl⟩

end SendQueue

end StreamResetHandler

/-- A RE-CONFIG chunk makes calls of the reassembly queue; nothing else of the TCB matters here. -/
lemma Association.handleReConfig_frame (a : Association) (params : List ReConfigParameter) :
    (a.handleReConfig params).tcb.reassemblyQueue = run perform a.tcb.reassemblyQueue
        (a.tcb.streamResetHandler.reConfigOps a.tcb.dataTracker a.tcb.reassemblyQueue a.sendQueue
          params) ∧
      (a.handleReConfig params).tcb.retransmissionQueue = a.tcb.retransmissionQueue ∧
      (a.handleReConfig params).tcb.capabilities = a.tcb.capabilities ∧
      (a.handleReConfig params).tcb.cookieEchoChunk = a.tcb.cookieEchoChunk := by
  have h := (a.tcb.streamResetHandler.handleReConfig_calls a.tcb.dataTracker a.tcb.reassemblyQueue
    a.sendQueue params).1
  unfold handleReConfig
  dsimp only
  split <;> exact ⟨h, rfl, rfl, rfl⟩

/-- A SACK lets neither the reassembly queue nor the COOKIE-ECHO change, and keeps the books. -/
lemma Association.handleSack_frame (a : Association) (now : Timestamp) (sack : SackChunk) :
    (a.handleSack now sack).2.tcb.reassemblyQueue = a.tcb.reassemblyQueue ∧
      (a.handleSack now sack).2.tcb.cookieEchoChunk = a.tcb.cookieEchoChunk ∧
      (a.handleSack now sack).2.tcb.capabilities = a.tcb.capabilities ∧
      (a.handleSack now sack).2.tcb.retransmissionQueue =
        (a.tcb.retransmissionQueue.handleSack a.sendQueue now sack).2.1 := by
  unfold handleSack
  dsimp only
  split <;> split <;> exact ⟨rfl, rfl, rfl, rfl⟩

end WebRtc.Dcsctp
