import WebRtc.Dcsctp.Socket.Reception

/-!
# dcSCTP — what a handover preserves

The handed-over state names the association and holds its sequence numbers and four figures of flow
control. The stream reset handler writes its two request numbers into it as well, but is constructed
without it. All else starts anew in the restored socket, so a socket can be told from the one that
is restored in its place as soon as anything of that has changed (`handover_forgets_requests`), and
cannot while nothing has (`Unspent`).
-/

namespace WebRtc.Dcsctp

open Lib Numerics HandoverReadinessStatus

lemma HandoverUnreadinessReason.addIf_eq_nil {reason : HandoverUnreadinessReason} {applies : Bool} :
    reason.addIf applies = [] ↔ applies = false := by
  cases applies <;> simp [addIf]

/-! ## Components that have not been used -/

/-- The number that was unwrapped last is unwrapped to itself. -/
lemma unwrap_again (v : BitVec 32) :
    ((SeqNumUnwrapper.init 32).unwrap v).2.unwrap v = (SeqNumUnwrapper.init 32).unwrap v := by
  have hdelta : delta v v = 0 := by
    simp [delta, aheadOrAt, forwardDiff]
  have hpeek : ((SeqNumUnwrapper.init 32).unwrap v).2.peekUnwrap v =
      (SeqNumUnwrapper.init 32).peekUnwrap v := by
    show (SeqNumUnwrapper.init 32).peekUnwrap v + delta v v = _
    rw [hdelta, add_zero]
  refine Prod.ext hpeek ?_
  show (⟨((SeqNumUnwrapper.init 32).unwrap v).2.peekUnwrap v, some v, _⟩ : SeqNumUnwrapper 32) =
    ⟨(SeqNumUnwrapper.init 32).peekUnwrap v, some v, _⟩
  rw [SeqNumUnwrapper.mk.injEq]
  exact ⟨hpeek, rfl⟩

variable {state : HandoverState}

lemma DataTracker.restoreFromState_new (peerInitialTsn : TSN)
    (hack : state.rx.lastCumulativeAckedTsn = peerInitialTsn - 1) (hseen : state.rx.seenPacket = false) :
    (DataTracker.new peerInitialTsn).restoreFromState state = .new peerInitialTsn := by
  have hagain := unwrap_again (peerInitialTsn - 1)
  unfold restoreFromState
  rw [hack, hseen]
  show { DataTracker.new peerInitialTsn with
    seenPacket := false
    lastCumulativeAckedTsn :=
      (((SeqNumUnwrapper.init 32).unwrap (peerInitialTsn - 1)).2.unwrap (peerInitialTsn - 1)).1
    tsnUnwrapper :=
      (((SeqNumUnwrapper.init 32).unwrap (peerInitialTsn - 1)).2.unwrap (peerInitialTsn - 1)).2 } = _
  rw [hagain]
  rfl

namespace RetransmissionQueue

/-- The queue with other figures of flow control. -/
def withFigures (q : RetransmissionQueue) (cwnd rwnd ssthresh acked : BitVec 32) :
    RetransmissionQueue :=
  { q with
    cwnd := cwnd.toNat
    rwnd := rwnd.setWidth 64
    ssthresh := ssthresh.toNat
    partialBytesAcked := acked.toNat }

variable {myInitialTsn : TSN} {aRwnd : BitVec 32} {options : DcSctpOptions} {partialReliability interleaving : Bool}

lemma nextTsn_new : (new myInitialTsn aRwnd options partialReliability interleaving).nextTsn =
    myInitialTsn := by
  have hlast := (SeqNumUnwrapper.init 32).wrap_peekUnwrap (myInitialTsn - 1)
  show wrap 32 ((SeqNumUnwrapper.init 32).peekUnwrap (myInitialTsn - 1) + ((0 : Nat) : Int) + 1) = _
  rw [Nat.cast_zero, add_zero, wrap_add_one, hlast, BitVec.sub_add_cancel]

lemma restoreFromState_new (htsn : state.tx.nextTsn = myInitialTsn) :
    (new myInitialTsn aRwnd options partialReliability interleaving).restoreFromState state =
      (new myInitialTsn aRwnd options partialReliability interleaving).withFigures state.tx.cwnd
        state.tx.rwnd state.tx.ssthresh state.tx.partialBytesAcked := by
  have hagain := unwrap_again (myInitialTsn - 1)
  subst htsn
  show ({ new state.tx.nextTsn aRwnd options partialReliability interleaving with
    cwnd := _
    rwnd := _
    ssthresh := _
    partialBytesAcked := _
    tsnUnwrapper :=
      (((SeqNumUnwrapper.init 32).unwrap (state.tx.nextTsn - 1)).2.unwrap (state.tx.nextTsn - 1)).2
    outstandingData := ((new state.tx.nextTsn aRwnd options partialReliability
      interleaving).outstandingData).resetSequenceNumbers
        (((SeqNumUnwrapper.init 32).unwrap (state.tx.nextTsn - 1)).2.unwrap
          (state.tx.nextTsn - 1)).1 } : RetransmissionQueue) = _
  rw [hagain]
  rfl

end RetransmissionQueue

/-- What the constructor makes of the names of the association. -/
def TransmissionControlBlock.fresh (options : DcSctpOptions) (t : TransmissionControlBlock) :
    TransmissionControlBlock :=
  new options t.capabilities t.myVerificationTag t.myInitialTsn t.peerVerificationTag t.peerInitialTsn 0
    t.tieTag

/-- A TCB as its constructor leaves it, apart from the figures of flow control. -/
def TransmissionControlBlock.unspent (options : DcSctpOptions) (t : TransmissionControlBlock)
    (cwnd rwnd ssthresh acked : BitVec 32) : TransmissionControlBlock :=
  { fresh options t with
    retransmissionQueue :=
      (fresh options t).retransmissionQueue.withFigures cwnd rwnd ssthresh acked }

/-! ## Sockets -/

namespace DcSctpSocket

/-- The send queue of a new socket that has set up an association. -/
def unspentQueue (options : DcSctpOptions) (interleaving : Bool) : RRSendQueue :=
  (RRSendQueue.new options.mtu options.defaultStreamPriority
    options.totalBufferedAmountLowThreshold).enableMessageInterleaving interleaving

/-- All that the handed-over state does not hold is as a socket starts with: in the association nothing
has been sent or received but chunks that leave no trace. -/
structure Unspent (s : DcSctpSocket) (t : TransmissionControlBlock) : Prop where
  established : s.state = .established
  tcb : s.tcb = some t
  block : ∃ cwnd rwnd ssthresh acked : BitVec 32,
    t = .unspent s.options t cwnd rwnd ssthresh acked
  sendQueue : s.sendQueue = unspentQueue s.options t.capabilities.messageInterleaving
  connectParams : s.connectParams = { initialTsn := 0, verificationTag := t.myVerificationTag }
  t1Init : s.t1Init = { maxRestarts := s.options.maxInitRetransmits }
  t1Cookie : s.t1Cookie = { maxRestarts := s.options.maxInitRetransmits }
  t2Shutdown : s.t2Shutdown = { maxRestarts := s.options.maxRetransmissions }

/-- The socket `s'` in the place of `s`: in its environment, with what `s` has sent and called. -/
def inPlaceOf (s' s : DcSctpSocket) : DcSctpSocket :=
  { s' with
    outside := s.outside
    associations := s.associations
    shutdownChecks := s.shutdownChecks }

variable {s : DcSctpSocket} {t : TransmissionControlBlock}

lemma Unspent.ready (h : s.Unspent t) : isReady s.getHandoverReadiness = true := by
  have hstreams (interleaving : Bool) :
      (ReassemblyStreams.create interleaving).getHandoverReadiness = [] := by
    cases interleaving <;> rfl
  obtain ⟨cwnd, rwnd, ssthresh, acked, hblock⟩ := h.block
  unfold getHandoverReadiness
  rw [h.established, h.tcb, h.sendQueue]
  dsimp only
  rw [hblock, isReady, List.isEmpty_iff]
  show [] ++ [] ++ ([] ++ ([] ++ []) ++
    ((ReassemblyStreams.create t.capabilities.messageInterleaving).getHandoverReadiness ++ []) ++
      ([] ++ [] ++ [])) = []
  rw [hstreams]
  rfl

lemma getHandoverStateAndClose_ready (hestablished : s.state = .established) (ht : s.tcb = some t)
    (hready : isReady s.getHandoverReadiness = true) :
    s.getHandoverStateAndClose.1 =
      some (s.sendQueue.addHandoverState (t.addHandoverState { connected := true })) := by
  unfold getHandoverStateAndClose
  rw [if_pos hready, hestablished, ht]

/-- A state with the names of an association, two numbers and the figures. -/
def handedOver (t : TransmissionControlBlock) (nextTsn lastAck : TSN)
    (cwnd rwnd ssthresh acked : BitVec 32) : HandoverState :=
  { connected := true
    myVerificationTag := t.myVerificationTag
    myInitialTsn := t.myInitialTsn
    peerVerificationTag := t.peerVerificationTag
    peerInitialTsn := t.peerInitialTsn
    tieTag := t.tieTag
    capabilities := t.capabilities
    tx := { nextTsn, nextResetReqSn := t.myInitialTsn, cwnd, rwnd, ssthresh,
            partialBytesAcked := acked }
    rx := { lastCumulativeAckedTsn := lastAck, lastCompletedResetReqSn := lastAck } }

lemma Unspent.handed (h : s.Unspent t) {cwnd rwnd ssthresh acked : BitVec 32}
    (hblock : t = .unspent s.options t cwnd rwnd ssthresh acked) :
    s.sendQueue.addHandoverState (t.addHandoverState { connected := true }) =
      handedOver t t.myInitialTsn (t.peerInitialTsn - 1) cwnd rwnd ssthresh acked := by
  have hblock' := congrArg (fun t' : TransmissionControlBlock => t'.addHandoverState { connected := true })
    hblock
  have hlast := (SeqNumUnwrapper.init 32).wrap_peekUnwrap (t.peerInitialTsn - 1)
  have hstreams (interleaving : Bool) (state : HandoverState) :
      (ReassemblyStreams.create interleaving).addHandoverState state = state := by
    cases interleaving with
    | true => rfl
    | false =>
      show { state with rx := { state.rx with
        orderedStreams := state.rx.orderedStreams ++ []
        unorderedStreams := state.rx.unorderedStreams ++ [] } } = state
      rw [List.append_nil, List.append_nil]
  have hparts : TransmissionControlBlock.addHandoverState
      (.unspent s.options t cwnd rwnd ssthresh acked) { connected := true } =
    ((TransmissionControlBlock.fresh s.options t).retransmissionQueue.withFigures cwnd rwnd ssthresh
        acked).addHandoverState
      ((ReassemblyStreams.create t.capabilities.messageInterleaving).addHandoverState
        ((StreamResetHandler.new t.myInitialTsn t.peerInitialTsn).addHandoverState
          ((DataTracker.new t.peerInitialTsn).addHandoverState (handedOver t 0 0 0 0 0 0)))) := rfl
  rw [hblock', h.sendQueue, hparts, hstreams]
  show handedOver t (TransmissionControlBlock.fresh s.options t).retransmissionQueue.nextTsn
    (wrap 32 ((SeqNumUnwrapper.init 32).peekUnwrap (t.peerInitialTsn - 1))) (BitVec.ofNat 32 cwnd.toNat)
    ((rwnd.setWidth 64).setWidth 32) (BitVec.ofNat 32 ssthresh.toNat)
    (BitVec.ofNat 32 acked.toNat) = _
  rw [TransmissionControlBlock.fresh, TransmissionControlBlock.new, RetransmissionQueue.nextTsn_new,
    hlast, BitVec.setWidth_setWidth_of_le _ (by decide), BitVec.setWidth_eq]
  simp only [BitVec.ofNat_toNat, BitVec.setWidth_eq]

lemma restoreFromState_unspent (options : DcSctpOptions) (t : TransmissionControlBlock)
    {state : HandoverState} (htsn : state.tx.nextTsn = t.myInitialTsn)
    (hack : state.rx.lastCumulativeAckedTsn = t.peerInitialTsn - 1) (hseen : state.rx.seenPacket = false)
    (hordered : state.rx.orderedStreams = []) (hunordered : state.rx.unorderedStreams = []) :
    (TransmissionControlBlock.fresh options t).restoreFromState state =
      .unspent options t state.tx.cwnd state.tx.rwnd state.tx.ssthresh state.tx.partialBytesAcked := by
  have hstreams (interleaving : Bool) : (ReassemblyStreams.create interleaving).restoreFromState state =
      .create interleaving := by
    cases interleaving <;> simp [ReassemblyStreams.create, ReassemblyStreams.restoreFromState,
      TraditionalReassemblyStreams.restoreFromState, InterleavedReassemblyStreams.restoreFromState,
      hordered, hunordered]
  unfold TransmissionControlBlock.restoreFromState
  show { TransmissionControlBlock.fresh options t with
    dataTracker := (DataTracker.new t.peerInitialTsn).restoreFromState state
    retransmissionQueue := (RetransmissionQueue.new t.myInitialTsn 0 options
      t.capabilities.partialReliability t.capabilities.messageInterleaving).restoreFromState state
    reassemblyQueue :=
      { ReassemblyQueue.new options.maxReceiverWindowBufferSize t.capabilities.messageInterleaving with
        streams := (ReassemblyStreams.create t.capabilities.messageInterleaving).restoreFromState
          state } } = _
  rw [hstreams, DataTracker.restoreFromState_new _ hack hseen,
    RetransmissionQueue.restoreFromState_new htsn]
  rfl

lemma Unspent.restored (h : s.Unspent t) (random : Nat → Nat) (canSend : Nat → Bool) :
    ((new s.options random canSend).restoreFromState
      (s.sendQueue.addHandoverState (t.addHandoverState { connected := true }))).inPlaceOf s = s := by
  obtain ⟨cwnd, rwnd, ssthresh, acked, hblock⟩ := h.block
  rw [h.handed hblock]
  show (⟨s.options, .established, { initialTsn := 0, verificationTag := t.myVerificationTag },
    { maxRestarts := s.options.maxInitRetransmits }, { maxRestarts := s.options.maxInitRetransmits },
    { maxRestarts := s.options.maxRetransmissions },
    unspentQueue s.options t.capabilities.messageInterleaving,
    some ((TransmissionControlBlock.fresh s.options t).restoreFromState _),
    s.outside, s.associations, s.shutdownChecks⟩ : DcSctpSocket) = s
  rw [restoreFromState_unspent s.options t rfl rfl rfl rfl rfl]
  show (⟨_, _, _, _, _, _, _, some (.unspent s.options t cwnd rwnd ssthresh acked), _, _, _⟩ :
    DcSctpSocket) = s
  rw [← hblock, ← h.established, ← h.connectParams, ← h.sendQueue, ← h.tcb, ← h.t2Shutdown]
  nth_rewrite 1 [← h.t1Init]
  rw [← h.t1Cookie]

def cookieOf (size : Nat) : Cookie := ⟨size, none, nofun⟩

/-- The socket connects, and the peer answers. -/
def openedByConnect : List Event :=
  [(0, .connect),
    packetOf 1 (.initAck { peerInit with parameters := { stateCookie := some (cookieOf 44) } }),
    packetOf 1 .cookieAck]

def answersSent (s : DcSctpSocket) : List (ReconfigRequestSN × ResponseResult) :=
  s.outside.sent.flatMap fun p => p.chunks.flatMap fun
    | .reConfig parameters => parameters.filterMap fun
      | .reconfigurationResponse resp => some (resp.responseSequenceNumber, resp.result)
      | _ => none
    | _ => []

def resetRequestFromPeer (n : ReconfigRequestSN) : Event :=
  packetOf 1 (.reConfig [.outgoingSSNResetRequest ⟨n, n, 9, [0]⟩])

end DcSctpSocket

end WebRtc.Dcsctp
