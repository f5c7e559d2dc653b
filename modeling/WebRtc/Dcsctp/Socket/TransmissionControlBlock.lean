import WebRtc.Dcsctp.Socket.StreamResetHandler
import WebRtc.Dcsctp.Tx.RRSendQueue

/-!
# dcSCTP — TransmissionControlBlock

The model of `socket/transmission_control_block.{h,cc}`, of `socket/heartbeat_handler.cc` and of the
parts of `tx/retransmission_timeout.cc` and `tx/retransmission_error_counter.cc` that decide what is
sent. An `Association` is the block with the send queue and the outside. The retransmission timeout
only sets durations of timers; the smoothed round-trip time limits the rate of FORWARD-TSN.
-/

namespace WebRtc.Dcsctp

/-- `RetransmissionTimeout`, without the timeout: the smoothed RTT in microseconds. -/
structure RetransmissionTimeout where
  maxRtt : Int
  firstMeasurement : Bool := true
  srtt : Int
deriving DecidableEq

/-- `RetransmissionTimeout::ObserveRTT`. The source computes `(1 - 1/8) * srtt + 1/8 * rtt` in
floating point and rounds each product to the nearest microsecond. -/
def RetransmissionTimeout.observeRtt (r : RetransmissionTimeout) (rtt : Int) :
    RetransmissionTimeout :=
  if rtt < 0 ∨ r.maxRtt < rtt then r
  else if r.firstMeasurement then { r with srtt := rtt, firstMeasurement := false }
  else { r with srtt := (7 * r.srtt + 4) / 8 + (rtt + 4) / 8 }

structure TransmissionControlBlock where
  options : DcSctpOptions
  capabilities : Capabilities
  myVerificationTag : VerificationTag
  myInitialTsn : TSN
  peerVerificationTag : VerificationTag
  peerInitialTsn : TSN
  tieTag : TieTag
  limitForwardTsnUntil : Timestamp := 0
  rto : RetransmissionTimeout
  txErrorCounter : Nat := 0
  heartbeatIntervalRunning : Bool
  heartbeatTimeoutRunning : Bool := false
  dataTracker : DataTracker
  reassemblyQueue : ReassemblyQueue
  retransmissionQueue : RetransmissionQueue
  streamResetHandler : StreamResetHandler
  cookieEchoChunk : Option Cookie := none

/-- The constructor. That it tells the send queue about interleaving is left to the socket,
which owns the send queue. -/
def TransmissionControlBlock.new (options : DcSctpOptions) (capabilities : Capabilities)
    (myVerificationTag : VerificationTag) (myInitialTsn : TSN)
    (peerVerificationTag : VerificationTag) (peerInitialTsn : TSN) (aRwnd : BitVec 32)
    (tieTag : TieTag) : TransmissionControlBlock :=
  { options
    capabilities
    myVerificationTag
    myInitialTsn
    peerVerificationTag
    peerInitialTsn
    tieTag
    rto := { maxRtt := 1000 * options.rttMax, srtt := 1000 * options.rtoInitial }
    heartbeatIntervalRunning := decide (options.heartbeatInterval ≠ 0)
    dataTracker := .new peerInitialTsn
    reassemblyQueue :=
      .new options.maxReceiverWindowBufferSize capabilities.messageInterleaving
    retransmissionQueue := .new myInitialTsn aRwnd options capabilities.partialReliability
      capabilities.messageInterleaving
    streamResetHandler := .new myInitialTsn peerInitialTsn }

def TransmissionControlBlock.hasTooManyTxErrors (tcb : TransmissionControlBlock) : Bool :=
  match tcb.options.maxRetransmissions with
  | none => false
  | some limit => decide (limit < tcb.txErrorCounter)

def TransmissionControlBlock.setCookieEchoChunk (tcb : TransmissionControlBlock) (cookie : Cookie) :
    TransmissionControlBlock := { tcb with cookieEchoChunk := some cookie }

def TransmissionControlBlock.clearCookieEchoChunk (tcb : TransmissionControlBlock) :
    TransmissionControlBlock := { tcb with cookieEchoChunk := none }

structure Association where
  tcb : TransmissionControlBlock
  sendQueue : RRSendQueue
  outside : Outside

namespace Association

variable (a : Association)

def packetBuilder : PacketBuilder := .new a.tcb.peerVerificationTag a.tcb.options

def send (a : Association) (b : PacketBuilder) : Association :=
  { a with outside := (a.outside.send b (!a.tcb.capabilities.zeroChecksum)).2 }

def onError (a : Association) (error : ErrorKind) (message : String) : Association :=
  { a with outside := a.outside.onError error message }

def observeRtt (a : Association) (rtt : Int) : Association :=
  { a with tcb := { a.tcb with rto := a.tcb.rto.observeRtt rtt } }

def clearTxErrorCounter : Association :=
  { a with tcb := { a.tcb with txErrorCounter := 0 } }

def incrementTxErrorCounter : Bool × Association :=
  let tcb := { a.tcb with txErrorCounter := a.tcb.txErrorCounter + 1 }
  (!tcb.hasTooManyTxErrors, { a with tcb })

/-! ## Acknowledging -/

def selectiveAck (alsoIfDelayed : Bool) : Option SackChunk × Association :=
  match a.tcb.dataTracker.shouldSendAck alsoIfDelayed with
  | (false, dataTracker) => (none, { a with tcb := { a.tcb with dataTracker } })
  | (true, dataTracker) =>
    let (sack, dataTracker) :=
      dataTracker.createSelectiveAck a.tcb.reassemblyQueue.remainingBytes.toNat
    (some sack, { a with tcb := { a.tcb with dataTracker } })

def maybeSendSack : Association :=
  match a.selectiveAck false with
  | (none, a) => a
  | (some sack, a) => a.send (a.packetBuilder.add (.sack sack))

/-- `OnDelayedAckTimerExpiry`; the timer does not restart. -/
def onDelayedAckTimerExpiry : Association :=
  let dataTracker :=
    { a.tcb.dataTracker with delayedAckTimerRunning := false }.handleDelayedAckTimerExpiry
  { a with tcb := { a.tcb with dataTracker } }.maybeSendSack

/-! ## Sending -/

def dataChunks (immediateAck : Bool) (chunks : List (TSN × Data)) : List Chunk :=
  chunks.map fun c =>
    if a.tcb.capabilities.messageInterleaving then .iData c.1 c.2 immediateAck
    else .data c.1 c.2 immediateAck

def maybeSendForwardTsn (b : PacketBuilder) (now : Timestamp) :
    PacketBuilder × Association :=
  if now < a.tcb.limitForwardTsnUntil then (b, a)
  else
    match a.tcb.retransmissionQueue.shouldSendForwardTsn a.sendQueue now with
    | (false, retransmissionQueue, sendQueue) =>
      (b, { a with tcb := { a.tcb with retransmissionQueue }, sendQueue })
    | (true, retransmissionQueue, sendQueue) =>
      let chunk : Chunk :=
        if a.tcb.capabilities.messageInterleaving then
          .iForwardTsn retransmissionQueue.outstandingData.createIForwardTsn
        else .forwardTsn retransmissionQueue.outstandingData.createForwardTsn
      (b.add chunk,
        { a with
          tcb := { a.tcb with
            retransmissionQueue
            limitForwardTsnUntil := now + min 200000 a.tcb.rto.srtt }
          sendQueue })

def makeStreamResetRequest (a : Association) : Option Chunk × Association :=
  let (chunk, streamResetHandler, retransmissionQueue, sendQueue) :=
    a.tcb.streamResetHandler.makeStreamResetRequest a.tcb.retransmissionQueue a.sendQueue
  (chunk, { a with tcb := { a.tcb with streamResetHandler, retransmissionQueue }, sendQueue })

def maybeSendFastRetransmit : Association :=
  if a.tcb.retransmissionQueue.outstandingData.hasDataToBeFastRetransmitted then
    let b := a.packetBuilder
    let (chunks, retransmissionQueue) :=
      a.tcb.retransmissionQueue.getChunksForFastRetransmit b.bytesRemaining
    { a with tcb := { a.tcb with retransmissionQueue } }.send (b.addAll (a.dataChunks false chunks))
  else a

def restartHeartbeatTimer : Association :=
  if a.tcb.options.heartbeatInterval = 0 then a
  else { a with tcb := { a.tcb with heartbeatIntervalRunning := true } }

def addControlChunks (b : PacketBuilder) (now : Timestamp) :
    PacketBuilder × Association :=
  let b := match a.tcb.cookieEchoChunk with
    | none => b
    | some cookie => b.add (.cookieEcho cookie)
  let (sack, a) := a.selectiveAck true
  let b := match sack with
    | none => b
    | some sack => b.add (.sack sack)
  let (b, a) := a.maybeSendForwardTsn b now
  let (reconfig, a) := a.makeStreamResetRequest
  match reconfig with
  | none => (b, a)
  | some chunk => (b.add chunk, a)

def sendDataPacket (b : PacketBuilder) (now : Timestamp) : Bool × Association :=
  let (chunks, retransmissionQueue, sendQueue) :=
    a.tcb.retransmissionQueue.getChunksToSend a.sendQueue now b.bytesRemaining
  let a := { a with tcb := { a.tcb with retransmissionQueue }, sendQueue }
  let a := if chunks.isEmpty then a else a.restartHeartbeatTimer
  let setImmediateSackBit :=
    decide (a.tcb.retransmissionQueue.cwnd < a.tcb.options.immediateSackUnderCwndMtus * a.tcb.options.mtu)
  let writeChecksum := !a.tcb.capabilities.zeroChecksum || a.tcb.cookieEchoChunk.isSome
  let (sent, outside) := a.outside.send (b.addAll (a.dataChunks setImmediateSackBit chunks)) writeChecksum
  (sent, { a with outside })

/-- The loop of `SendBufferedPackets`. It ends when a packet could not be sent, and after the
first one while a COOKIE-ECHO is to be sent. -/
def sendLoop (now : Timestamp) : (packets : Nat) → PacketBuilder → Association → Association
  | 0, _, a => a
  | packets + 1, b, a =>
    let (sent, a) := a.sendDataPacket b now
    if sent && a.tcb.cookieEchoChunk.isNone then sendLoop now packets { b with chunks := [] } a
    else a

def sendBufferedPacketsWith (b : PacketBuilder) (now : Timestamp) : Association :=
  if a.tcb.options.maxBurst = 0 then a
  else
    let (b, a) := a.addControlChunks b now
    sendLoop now a.tcb.options.maxBurst b a

def sendBufferedPackets (now : Timestamp) : Association :=
  a.sendBufferedPacketsWith a.packetBuilder now

/-- `OnRtxTimerExpiry`. While the COOKIE-ECHO is unanswered, its own timer sends again. -/
def onRtxTimerExpiry (now : Timestamp) : Association :=
  if a.tcb.cookieEchoChunk.isSome then a
  else
    match a.incrementTxErrorCounter with
    | (false, a) => a
    | (true, a) =>
      let (retransmissionQueue, sendQueue) :=
        a.tcb.retransmissionQueue.handleT3RtxTimerExpiry a.sendQueue
      { a with tcb := { a.tcb with retransmissionQueue }, sendQueue }.sendBufferedPackets now

def handleSack (a : Association) (now : Timestamp) (sack : SackChunk) : Bool × Association :=
  let (outcome, retransmissionQueue, sendQueue) :=
    a.tcb.retransmissionQueue.handleSack a.sendQueue now sack
  let a := { a with tcb := { a.tcb with retransmissionQueue }, sendQueue }
  let a := match outcome.newRtt with
    | none => a
    | some rtt => a.observeRtt rtt
  (outcome.handled, if outcome.clearRetransmissionCounter then a.clearTxErrorCounter else a)

/-! ## Resetting streams -/

def maybeSendResetStreamsRequest : Association :=
  match a.makeStreamResetRequest with
  | (none, a) => a
  | (some chunk, a) => { a with outside := (a.outside.send (a.packetBuilder.add chunk)).2 }

def handleReConfig (a : Association) (parameters : List ReConfigParameter) : Association :=
  let p := a.tcb.streamResetHandler.handleReConfig a.tcb.dataTracker a.tcb.reassemblyQueue
    a.sendQueue parameters
  let a : Association :=
    { tcb := { a.tcb with streamResetHandler := p.handler, reassemblyQueue := p.reassemblyQueue }
      sendQueue := p.sendQueue
      outside := { a.outside with callbacks := a.outside.callbacks ++ p.callbacks } }
  if p.responses.isEmpty then a
  else a.send (a.packetBuilder.add (.reConfig (p.responses.map .reconfigurationResponse)))

def resendRequest (request : CurrentRequest) : Association :=
  let (chunk, streamResetHandler) := a.tcb.streamResetHandler.makeReconfigChunk request
  { a with tcb := { a.tcb with streamResetHandler } }.send (a.packetBuilder.add chunk)

/-- `OnReconfigTimerExpiry`. The timer only runs while there is a request. -/
def onReconfigTimerExpiry : Association :=
  match a.tcb.streamResetHandler.currentRequest with
  | none => a
  | some request =>
    if request.hasBeenSent then
      match a.incrementTxErrorCounter with
      | (false, a) => a
      | (true, a) => a.resendRequest request
    else a.resendRequest request

/-! ## Heartbeats -/

def handleHeartbeatRequest (info : HeartbeatInfo) : Association :=
  a.send (a.packetBuilder.add (.heartbeatAck info))

def handleHeartbeatAck (now : Timestamp) (info : HeartbeatInfo) : Association :=
  let a := { a with tcb := { a.tcb with heartbeatTimeoutRunning := false } }
  match info with
  | .missing =>
    a.onError .parseFailed "Failed to parse HEARTBEAT-ACK; No Heartbeat Info parameter"
  | .undecodable =>
    a.onError .parseFailed
      "Failed to parse HEARTBEAT-ACK; Failed to deserialized Heartbeat info parameter"
  | .createdAt time =>
    let a := if 0 < time ∧ time ≤ now then a.observeRtt (now - time) else a
    a.clearTxErrorCounter

/-- `OnIntervalTimerExpiry`. The time is sent to the nearest millisecond. -/
def onIntervalTimerExpiry (now : Timestamp) (isConnectionEstablished : Bool) :
    Association :=
  if isConnectionEstablished then
    let a := { a with tcb := { a.tcb with heartbeatTimeoutRunning := true } }
    a.send (a.packetBuilder.add (.heartbeatRequest (.createdAt ((now + 500) / 1000 * 1000))))
  else a

/-- `OnTimeoutTimerExpiry`; the timer does not restart. -/
def onTimeoutTimerExpiry : Association :=
  { a with tcb := { a.tcb with heartbeatTimeoutRunning := false } }.incrementTxErrorCounter.2

end Association

end WebRtc.Dcsctp
