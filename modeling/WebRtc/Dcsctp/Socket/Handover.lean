import WebRtc.Dcsctp.Socket.DcSctpSocket

/-!
# dcSCTP — handover

A socket that is ready can be closed and continued by another one
(`public/dcsctp_handover_state.h`); the functions of the five components are collected here. A
readiness status is the list of the reasons that were added. `last_assembled_tsn` and
`last_completed_deferred_reset_req_sn`, which no component writes or reads, are left out.
-/

namespace WebRtc.Dcsctp

open Lib Numerics

inductive HandoverUnreadinessReason where
  | wrongConnectionState
  | sendQueueNotEmpty
  | pendingStreamResetRequest
  | dataTrackerTsnBlocksPending
  | pendingStreamReset
  | reassemblyQueueDeliveredTSNsGap
  | streamResetDeferred
  | orderedStreamHasUnassembledChunks
  | unorderedStreamHasUnassembledChunks
  | retransmissionQueueOutstandingData
  | retransmissionQueueFastRecovery
  | retransmissionQueueNotEmpty
deriving DecidableEq

abbrev HandoverReadinessStatus := List HandoverUnreadinessReason

def HandoverReadinessStatus.isReady (status : HandoverReadinessStatus) : Bool := status.isEmpty

def HandoverUnreadinessReason.addIf (reason : HandoverUnreadinessReason) (applies : Bool) :
    HandoverReadinessStatus := if applies then [reason] else []

structure HandoverState.OutgoingStream where
  id : StreamID
  nextSsn : BitVec 32
  nextUnorderedMid : BitVec 32
  nextOrderedMid : BitVec 32
  priority : Nat
deriving DecidableEq

structure HandoverState.Transmission where
  nextTsn : TSN := 0
  nextResetReqSn : ReconfigRequestSN := 0
  cwnd : BitVec 32 := 0
  rwnd : BitVec 32 := 0
  ssthresh : BitVec 32 := 0
  partialBytesAcked : BitVec 32 := 0
  streams : List HandoverState.OutgoingStream := []
deriving DecidableEq

structure HandoverState.OrderedStream where
  id : StreamID
  nextSsn : BitVec 32
deriving DecidableEq

structure HandoverState.Receive where
  seenPacket : Bool := false
  lastCumulativeAckedTsn : TSN := 0
  lastCompletedResetReqSn : ReconfigRequestSN := 0
  orderedStreams : List HandoverState.OrderedStream := []
  unorderedStreams : List StreamID := []
deriving DecidableEq

structure HandoverState where
  connected : Bool := false
  myVerificationTag : VerificationTag := 0
  myInitialTsn : TSN := 0
  peerVerificationTag : VerificationTag := 0
  peerInitialTsn : TSN := 0
  tieTag : TieTag := 0
  capabilities : Capabilities := {}
  tx : HandoverState.Transmission := {}
  rx : HandoverState.Receive := {}
deriving DecidableEq

open HandoverUnreadinessReason

/-! ## DataTracker -/

namespace DataTracker

def getHandoverReadiness (t : DataTracker) : HandoverReadinessStatus :=
  dataTrackerTsnBlocksPending.addIf (!t.additionalTsnBlocks.isEmpty)

def addHandoverState (t : DataTracker) (state : HandoverState) : HandoverState :=
  { state with rx := { state.rx with
      lastCumulativeAckedTsn := wrap 32 t.lastCumulativeAckedTsn
      seenPacket := t.seenPacket } }

def restoreFromState (t : DataTracker) (state : HandoverState) : DataTracker :=
  let (lastCumulativeAckedTsn, tsnUnwrapper) := t.tsnUnwrapper.unwrap state.rx.lastCumulativeAckedTsn
  { t with seenPacket := state.rx.seenPacket, lastCumulativeAckedTsn, tsnUnwrapper }

end DataTracker

/-! ## ReassemblyQueue -/

def OrderedStream.hasUnassembledChunks (s : OrderedStream) : Bool := !s.chunksBySsn.isEmpty

def UnorderedStream.hasUnassembledChunks (s : UnorderedStream) : Bool := !s.chunks.isEmpty

def InterleavedStream.hasUnassembledChunks (s : InterleavedStream) : Bool := !s.chunksByMid.isEmpty

namespace TraditionalReassemblyStreams

def getHandoverReadiness (t : TraditionalReassemblyStreams) : HandoverReadinessStatus :=
  orderedStreamHasUnassembledChunks.addIf
      (t.orderedStreams.entries.any fun e => e.2.hasUnassembledChunks) ++
    unorderedStreamHasUnassembledChunks.addIf
      (t.unorderedStreams.entries.any fun e => e.2.hasUnassembledChunks)

def addHandoverState (t : TraditionalReassemblyStreams) (state : HandoverState) : HandoverState :=
  { state with rx := { state.rx with
      orderedStreams := state.rx.orderedStreams ++
        t.orderedStreams.entries.map fun e => ⟨e.1, (wrap 16 e.2.nextSsn).setWidth 32⟩
      unorderedStreams := state.rx.unorderedStreams ++ t.unorderedStreams.keys } }

def restoreFromState (t : TraditionalReassemblyStreams) (state : HandoverState) :
    TraditionalReassemblyStreams :=
  { t with
    orderedStreams := state.rx.orderedStreams.foldl
      (fun m e => (m.emplace e.id (.new (e.nextSsn.setWidth 16))).1) t.orderedStreams
    unorderedStreams := state.rx.unorderedStreams.foldl
      (fun m sid => (m.emplace sid .empty).1) t.unorderedStreams }

end TraditionalReassemblyStreams

namespace InterleavedReassemblyStreams

def getHandoverReadiness (t : InterleavedReassemblyStreams) : HandoverReadinessStatus :=
  -- only the first stream that holds chunks is reported
  match t.streams.entries.find? fun e => e.2.hasUnassembledChunks with
  | none => []
  | some e =>
    if (ofLex e.1).1 then [.unorderedStreamHasUnassembledChunks]
    else [.orderedStreamHasUnassembledChunks]

def addHandoverState (t : InterleavedReassemblyStreams) (state : HandoverState) : HandoverState :=
  t.streams.entries.foldl (fun state e =>
    if (ofLex e.1).1 then
      { state with rx := { state.rx with
          unorderedStreams := state.rx.unorderedStreams ++ [(ofLex e.1).2] } }
    else
      { state with rx := { state.rx with
          orderedStreams := state.rx.orderedStreams ++ [⟨(ofLex e.1).2, wrap 32 e.2.nextMid⟩] } })
    state

def restoreFromState (t : InterleavedReassemblyStreams) (state : HandoverState) :
    InterleavedReassemblyStreams :=
  let ordered := state.rx.orderedStreams.foldl
    (fun m e => (m.emplace (fullStreamId false e.id) (.new false e.nextSsn)).1) t.streams
  ⟨state.rx.unorderedStreams.foldl
    (fun m sid => (m.emplace (fullStreamId true sid) (.new true 0)).1) ordered⟩

end InterleavedReassemblyStreams

namespace ReassemblyStreams

def getHandoverReadiness : ReassemblyStreams → HandoverReadinessStatus
  | .traditional t => t.getHandoverReadiness
  | .interleaved t => t.getHandoverReadiness

def addHandoverState (t : ReassemblyStreams) (state : HandoverState) : HandoverState :=
  match t with
  | .traditional t => t.addHandoverState state
  | .interleaved t => t.addHandoverState state

def restoreFromState (t : ReassemblyStreams) (state : HandoverState) : ReassemblyStreams :=
  match t with
  | .traditional t => .traditional (t.restoreFromState state)
  | .interleaved t => .interleaved (t.restoreFromState state)

end ReassemblyStreams

namespace ReassemblyQueue

def getHandoverReadiness (q : ReassemblyQueue) : HandoverReadinessStatus :=
  q.streams.getHandoverReadiness ++
    streamResetDeferred.addIf q.deferredResetStreams.isSome

def addHandoverState (q : ReassemblyQueue) (state : HandoverState) : HandoverState :=
  q.streams.addHandoverState state

def restoreFromState (q : ReassemblyQueue) (state : HandoverState) : ReassemblyQueue :=
  { q with streams := q.streams.restoreFromState state }

end ReassemblyQueue

/-! ## RetransmissionQueue -/

def OutstandingData.resetSequenceNumbers (o : OutstandingData) (lastCumulativeTsnAck : Int) :
    OutstandingData := { o with lastCumulativeTsnAck }

namespace RetransmissionQueue

def getHandoverReadiness (q : RetransmissionQueue) : HandoverReadinessStatus :=
  retransmissionQueueOutstandingData.addIf (!q.outstandingData.empty) ++
    retransmissionQueueFastRecovery.addIf q.fastRecoveryExitTsn.isSome ++
    retransmissionQueueNotEmpty.addIf
      q.outstandingData.hasDataToBeRetransmitted

def addHandoverState (q : RetransmissionQueue) (state : HandoverState) : HandoverState :=
  { state with tx := { state.tx with
      nextTsn := q.nextTsn
      rwnd := q.rwnd.setWidth 32
      cwnd := BitVec.ofNat 32 q.cwnd
      ssthresh := BitVec.ofNat 32 q.ssthresh
      partialBytesAcked := BitVec.ofNat 32 q.partialBytesAcked } }

def restoreFromState (q : RetransmissionQueue) (state : HandoverState) : RetransmissionQueue :=
  let (lastCumulativeTsnAck, tsnUnwrapper) := q.tsnUnwrapper.unwrap (state.tx.nextTsn - 1)
  { q with
    cwnd := state.tx.cwnd.toNat
    rwnd := state.tx.rwnd.setWidth 64
    ssthresh := state.tx.ssthresh.toNat
    partialBytesAcked := state.tx.partialBytesAcked.toNat
    tsnUnwrapper
    outstandingData := q.outstandingData.resetSequenceNumbers lastCumulativeTsnAck }

end RetransmissionQueue

/-! ## RRSendQueue -/

def OutgoingStream.handoverState (sid : StreamID) (s : OutgoingStream) : HandoverState.OutgoingStream :=
  { id := sid
    nextSsn := s.nextSsn.setWidth 32
    nextOrderedMid := s.nextOrderedMid
    nextUnorderedMid := s.nextUnorderedMid
    priority := s.schedulerStream.priority }

def OutgoingStream.restored (state : HandoverState.OutgoingStream) : OutgoingStream :=
  { OutgoingStream.new state.priority with
    nextUnorderedMid := state.nextUnorderedMid
    nextOrderedMid := state.nextOrderedMid
    nextSsn := state.nextSsn.setWidth 16 }

namespace RRSendQueue

def getHandoverReadiness (q : RRSendQueue) : HandoverReadinessStatus :=
  sendQueueNotEmpty.addIf (!q.isEmpty)

def addHandoverState (q : RRSendQueue) (state : HandoverState) : HandoverState :=
  { state with tx := { state.tx with
      streams := state.tx.streams ++ q.streams.entries.map fun e => e.2.handoverState e.1 } }

def restoreFromState (q : RRSendQueue) (state : HandoverState) : RRSendQueue :=
  { q with
    streams := state.tx.streams.foldl (fun m e => (m.emplace e.id (.restored e)).1) q.streams }

end RRSendQueue

/-! ## StreamResetHandler -/

namespace StreamResetHandler

def getHandoverReadiness (h : StreamResetHandler) (sendQueue : RRSendQueue) :
    HandoverReadinessStatus :=
  pendingStreamReset.addIf sendQueue.hasStreamsReadyToBeReset ++
    pendingStreamResetRequest.addIf h.currentRequest.isSome

/-- `AddHandoverState`. The constructor could take both numbers from a handed-over state, but
is not given one by the TCB. -/
def addHandoverState (h : StreamResetHandler) (state : HandoverState) : HandoverState :=
  { state with
    rx := { state.rx with lastCompletedResetReqSn := wrap 32 h.lastProcessedReqSeqNbr }
    tx := { state.tx with nextResetReqSn := h.nextOutgoingReqSeqNbr } }

end StreamResetHandler

/-! ## TransmissionControlBlock -/

namespace TransmissionControlBlock

def getHandoverReadiness (tcb : TransmissionControlBlock) (sendQueue : RRSendQueue) :
    HandoverReadinessStatus :=
  tcb.dataTracker.getHandoverReadiness ++ tcb.streamResetHandler.getHandoverReadiness sendQueue ++
    tcb.reassemblyQueue.getHandoverReadiness ++ tcb.retransmissionQueue.getHandoverReadiness

def addHandoverState (tcb : TransmissionControlBlock) (state : HandoverState) : HandoverState :=
  let state :=
    { state with
      capabilities := tcb.capabilities
      myVerificationTag := tcb.myVerificationTag
      peerVerificationTag := tcb.peerVerificationTag
      myInitialTsn := tcb.myInitialTsn
      peerInitialTsn := tcb.peerInitialTsn
      tieTag := tcb.tieTag }
  let state := tcb.dataTracker.addHandoverState state
  let state := tcb.streamResetHandler.addHandoverState state
  let state := tcb.reassemblyQueue.addHandoverState state
  tcb.retransmissionQueue.addHandoverState state

def restoreFromState (tcb : TransmissionControlBlock) (state : HandoverState) :
    TransmissionControlBlock :=
  { tcb with
    dataTracker := tcb.dataTracker.restoreFromState state
    retransmissionQueue := tcb.retransmissionQueue.restoreFromState state
    reassemblyQueue := tcb.reassemblyQueue.restoreFromState state }

end TransmissionControlBlock

/-! ## DcSctpSocket -/

namespace DcSctpSocket

def getHandoverReadiness (s : DcSctpSocket) : HandoverReadinessStatus :=
  wrongConnectionState.addIf
      (decide (s.state ≠ .closed ∧ s.state ≠ .established)) ++
    s.sendQueue.getHandoverReadiness ++
    match s.tcb with
    | none => []
    | some tcb => tcb.getHandoverReadiness s.sendQueue

def getHandoverStateAndClose (s : DcSctpSocket) : Option HandoverState × DcSctpSocket :=
  if HandoverReadinessStatus.isReady s.getHandoverReadiness then
    match s.state, s.tcb with
    | .established, some tcb =>
      (some (s.sendQueue.addHandoverState (tcb.addHandoverState { connected := true })),
        s.internalClose .noError "handover")
    | _, _ => (some {}, s)
  else (none, s)

def restoreFromState (s : DcSctpSocket) (state : HandoverState) : DcSctpSocket :=
  if s.state ≠ .closed then
    s.onError .unsupportedOperation "Only closed socket can be restored from state"
  else if state.connected then
    let s := { s with
      connectParams := { s.connectParams with verificationTag := state.myVerificationTag }
      sendQueue := s.sendQueue.restoreFromState state }
    let s := s.createTransmissionControlBlock state.capabilities state.myVerificationTag
      state.myInitialTsn state.peerVerificationTag state.peerInitialTsn 0 state.tieTag
    { s with
      tcb := s.tcb.map (TransmissionControlBlock.restoreFromState · state)
      state := .established }.callback .onConnected
  else s

end DcSctpSocket

end WebRtc.Dcsctp
