import WebRtc.Dcsctp.Tx.OutstandingData

/-!
# dcSCTP — RetransmissionQueue

The model of `tx/retransmission_queue.{h,cc}`. `rwnd_` keeps its machine width, since the source
decreases it without a check; `rwndWrapped` records that this went below zero. Of the T3-RTX timer,
only whether it runs matters here. What the source reports through `on_new_rtt_` and
`on_clear_retransmission_counter_` is returned.
-/

namespace WebRtc.Dcsctp

open Numerics SendQueue

structure RetransmissionQueue where
  options : DcSctpOptions
  partialReliability : Bool
  t3RtxRunning : Bool := false
  tsnUnwrapper : SeqNumUnwrapper 32
  cwnd : Nat
  rwnd : BitVec 64
  rwndWrapped : Bool := false
  ssthresh : Nat
  partialBytesAcked : Nat := 0
  fastRecoveryExitTsn : Option Int := none
  outstandingData : OutstandingData
  callbacks : List SendCallback := []

structure SackOutcome where
  handled : Bool
  newRtt : Option Int := none
  clearRetransmissionCounter : Bool := false
deriving DecidableEq

namespace RetransmissionQueue

def headerSize (useMessageInterleaving : Bool) : Nat := if useMessageInterleaving then 20 else 16

def new (myInitialTsn : TSN) (aRwnd : BitVec 32) (options : DcSctpOptions)
    (supportsPartialReliability useMessageInterleaving : Bool) : RetransmissionQueue :=
  let (last, tsnUnwrapper) := (SeqNumUnwrapper.init 32).unwrap (myInitialTsn - 1)
  { options
    partialReliability := supportsPartialReliability
    tsnUnwrapper
    cwnd := options.cwndMtusInitial * options.mtu
    rwnd := aRwnd.setWidth 64
    ssthresh := aRwnd.toNat
    outstandingData :=
      { dataChunkHeaderSize := headerSize useMessageInterleaving, lastCumulativeTsnAck := last } }

def dataChunkHeaderSize (q : RetransmissionQueue) : Nat := q.outstandingData.dataChunkHeaderSize

variable (q : RetransmissionQueue)

def getSerializedChunkSize (d : Data) : Nat :=
  roundUpTo4 (q.dataChunkHeaderSize + d.size)

def isInFastRecovery : Bool := q.fastRecoveryExitTsn.isSome

def unackedPacketBytes (q : RetransmissionQueue) : Nat := q.outstandingData.unackedPacketBytes

def unackedItems (q : RetransmissionQueue) : Nat := q.outstandingData.unackedItems

def nextTsn (q : RetransmissionQueue) : TSN := wrap 32 q.outstandingData.nextTsn

def lastAssignedTsn : TSN := wrap 32 (q.outstandingData.nextTsn - 1)

/-! ## Congestion control -/

def maybeExitFastRecovery (cumulativeTsnAck : Int) : RetransmissionQueue :=
  match q.fastRecoveryExitTsn with
  | none => q
  | some exit => if exit ≤ cumulativeTsnAck then { q with fastRecoveryExitTsn := none } else q

/-- `HandleIncreasedCumulativeTsnAck`: slow start, then congestion avoidance. -/
def handleIncreasedCumulativeTsnAck
    (unackedPacketBytes totalBytesAcked : Nat) : RetransmissionQueue :=
  let isFullyUtilized := decide (q.cwnd ≤ unackedPacketBytes + q.options.mtu)
  if q.cwnd ≤ q.ssthresh then
    if isFullyUtilized && !q.isInFastRecovery then
      { q with cwnd := q.cwnd + min totalBytesAcked q.options.mtu }
    else q
  else
    let partialBytesAcked := q.partialBytesAcked + totalBytesAcked
    if q.cwnd ≤ partialBytesAcked && isFullyUtilized then
      { q with partialBytesAcked := partialBytesAcked - q.cwnd, cwnd := q.cwnd + q.options.mtu }
    else { q with partialBytesAcked }

def handlePacketLoss : RetransmissionQueue :=
  if q.isInFastRecovery then q
  else
    let ssthresh := max (q.cwnd / 2) (q.options.cwndMtusMin * q.options.mtu)
    { q with
      ssthresh
      cwnd := ssthresh
      partialBytesAcked := 0
      fastRecoveryExitTsn := some q.outstandingData.highestOutstandingTsn }

def updateReceiverWindow (aRwnd : BitVec 32) : RetransmissionQueue :=
  { q with
    rwnd := if aRwnd.toNat ≤ q.outstandingData.unackedPayloadBytes then 0
      else BitVec.ofNat 64 (aRwnd.toNat - q.outstandingData.unackedPayloadBytes) }

def startT3RtxTimerIfOutstandingData : RetransmissionQueue :=
  if q.outstandingData.empty then q else { q with t3RtxRunning := true }

def lifecycleCallbacks (info : AckInfo) : List SendCallback :=
  info.ackedLifecycleIds.flatMap (fun id => [.onLifecycleMessageDelivered id, .onLifecycleEnd id]) ++
    info.abandonedLifecycleIds.flatMap
      (fun id => [.onLifecycleMessageExpired id true, .onLifecycleEnd id])

def isSackValid (sack : SackChunk) : Bool :=
  let cumulativeTsnAck := q.tsnUnwrapper.peekUnwrap sack.cumulativeTsnAck
  decide (q.outstandingData.lastCumulativeTsnAck ≤ cumulativeTsnAck) &&
    decide (cumulativeTsnAck ≤ q.outstandingData.highestOutstandingTsn)

/-! ## Sending -/

def takeFromRwnd (size : Nat) : RetransmissionQueue :=
  { q with
    rwnd := q.rwnd - BitVec.ofNat 64 size
    rwndWrapped := q.rwndWrapped || decide (q.rwnd.toNat < size) }

def serializedSize (chunks : List (TSN × Data)) : Nat :=
  (chunks.map fun c => q.getSerializedChunkSize c.2).sum

/-- How much a packet may hold: limited by the congestion window, by the receiver's window
(unless nothing is in flight) and by the room in the packet. -/
def maxBytes (bytesRemainingInPacket : Nat) : Nat :=
  let allowedByCwnd := q.cwnd - q.unackedPacketBytes
  let allowedByRwnd :=
    if q.unackedItems = 0 then q.options.mtu
    else roundUpTo4 (q.rwnd.toNat + q.dataChunkHeaderSize) % 2 ^ 64
  roundDownTo4 (min (min allowedByCwnd allowedByRwnd) bytesRemainingInPacket)

section SendQueue

variable {σ : Type} [SendQueue σ]

def handleSack (q : RetransmissionQueue) (s : σ) (now : Timestamp) (sack : SackChunk) :
    SackOutcome × RetransmissionQueue × σ :=
  if q.isSackValid sack then
    let oldLastCumulativeTsnAck := q.outstandingData.lastCumulativeTsnAck
    let oldUnackedPacketBytes := q.unackedPacketBytes
    let (cumulativeTsnAck, tsnUnwrapper) := q.tsnUnwrapper.unwrap sack.cumulativeTsnAck
    let newRtt :=
      if sack.gapAckBlocks.isEmpty then q.outstandingData.measureRtt now cumulativeTsnAck else none
    let q := { q with tsnUnwrapper }.maybeExitFastRecovery cumulativeTsnAck
    let (info, outstandingData, s) := q.outstandingData.handleSack discard cumulativeTsnAck
      sack.gapAckBlocks q.isInFastRecovery s
    let q := { q with outstandingData, callbacks := q.callbacks ++ lifecycleCallbacks info }
    let q := q.updateReceiverWindow sack.aRwnd
    let q :=
      if oldLastCumulativeTsnAck < cumulativeTsnAck then
        { q with t3RtxRunning := false }.handleIncreasedCumulativeTsnAck oldUnackedPacketBytes
          info.bytesAcked
      else q
    let q := if info.hasPacketLoss then q.handlePacketLoss else q
    (⟨true, newRtt, decide (0 < info.bytesAcked)⟩, q.startT3RtxTimerIfOutstandingData, s)
  else (⟨false, none, false⟩, q, s)

def handleT3RtxTimerExpiry (s : σ) : RetransmissionQueue × σ :=
  let (outstandingData, s) := q.outstandingData.nackAll discard s
  ({ q with
     ssthresh := max (q.cwnd / 2) (4 * q.options.mtu)
     cwnd := q.options.mtu
     partialBytesAcked := 0
     outstandingData },
   s)

/-- `GetChunksForFastRetransmit`. Sending the first outstanding chunk again restarts the
timer. -/
def getChunksForFastRetransmit (bytesInPacket : Nat) :
    List (TSN × Data) × RetransmissionQueue :=
  let (toBeSent, outstandingData) := q.outstandingData.getChunksToBeFastRetransmitted bytesInPacket
  (toBeSent, { q with outstandingData, t3RtxRunning := true })

/-- Where `GetChunksToSend` adds a chunk from the send queue to what is outstanding. Without
partial reliability, the chunk's limits do not apply. -/
def insertChunk (s : σ) (now : Timestamp) (chunk : DataToSend) :
    Option Int × RetransmissionQueue × σ :=
  let (tsn, outstandingData, s) := q.outstandingData.insert discard chunk.messageId
    chunk.data now
    (if q.partialReliability then chunk.maxRetransmissions else MaxRetransmits.noLimit)
    (if q.partialReliability then chunk.expiresAt else none) chunk.lifecycleId s
  let fullySent := tsn.isSome && decide (chunk.lifecycleId ≠ 0)
  (tsn,
   { q with
     outstandingData
     callbacks := q.callbacks ++
       if fullySent then [.onLifecycleMessageFullySent chunk.lifecycleId] else [] },
   s)

/-- The loop of `GetChunksToSend`. Every round takes some of `maxBytes`, so that there are at
most that many rounds. -/
def sendLoop (now : Timestamp) : (rounds maxBytes : Nat) → RetransmissionQueue → σ →
    List (TSN × Data) × RetransmissionQueue × σ
  | 0, _, q, s => ([], q, s)
  | rounds + 1, maxBytes, q, s =>
    if q.dataChunkHeaderSize < maxBytes then
      match produce s now (maxBytes - q.dataChunkHeaderSize) with
      | (none, s) => ([], q, s)
      | (some chunk, s) =>
        let maxBytes := maxBytes - q.getSerializedChunkSize chunk.data
        let (tsn, q, s) := (q.takeFromRwnd chunk.data.size).insertChunk s now chunk
        let (toBeSent, q, s) := sendLoop now rounds maxBytes q s
        match tsn with
        | none => (toBeSent, q, s)
        | some tsn => ((wrap 32 tsn, chunk.data) :: toBeSent, q, s)
    else ([], q, s)

def getChunksToSend (s : σ) (now : Timestamp)
    (bytesRemainingInPacket : Nat) : List (TSN × Data) × RetransmissionQueue × σ :=
  let maxBytes := q.maxBytes bytesRemainingInPacket
  let (retransmitted, outstandingData) := q.outstandingData.getChunksToBeRetransmitted maxBytes
  let maxBytes := maxBytes - q.serializedSize retransmitted
  let (added, q, s) := sendLoop now maxBytes maxBytes { q with outstandingData } s
  let toBeSent := retransmitted ++ added
  (toBeSent, if toBeSent.isEmpty then q else { q with t3RtxRunning := true }, s)

def shouldSendForwardTsn (q : RetransmissionQueue) (s : σ) (now : Timestamp) :
    Bool × RetransmissionQueue × σ :=
  if q.partialReliability then
    let (outstandingData, s) := q.outstandingData.expireOutstandingChunks discard now s
    (outstandingData.shouldSendForwardTsn, { q with outstandingData }, s)
  else (false, q, s)

def beginResetStreams (q : RetransmissionQueue) (s : σ) : List StreamID × RetransmissionQueue × σ :=
  let (streams, s) := getStreamsReadyToBeReset s
  (streams, { q with outstandingData := q.outstandingData.beginResetStreams }, s)

end SendQueue

end RetransmissionQueue

end WebRtc.Dcsctp
