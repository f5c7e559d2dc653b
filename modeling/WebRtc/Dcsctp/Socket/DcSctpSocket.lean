import WebRtc.Dcsctp.Socket.TransmissionControlBlock

/-!
# dcSCTP — DcSctpSocket

The model of `socket/dcsctp_socket.{h,cc}`. A received packet is what `SctpPacket::Parse` makes of
the bytes; metrics, logging and the packet observer are left out. Two fields are no members of the
source: `associations` counts the TCBs that were created, and `shutdownChecks` records what was
outstanding each time `MaybeSendShutdownOrAck` sent a SHUTDOWN or a SHUTDOWN-ACK.
-/

namespace WebRtc.Dcsctp

inductive SocketState where
  | closed
  | cookieWait
  | cookieEchoed
  | established
  | shutdownPending
  | shutdownSent
  | shutdownReceived
  | shutdownAckSent
deriving DecidableEq

def SocketState.isShutdown : SocketState → Bool
  | .shutdownPending | .shutdownSent | .shutdownReceived | .shutdownAckSent => true
  | _ => false

structure ConnectParameters where
  initialTsn : TSN := 0
  verificationTag : VerificationTag := 0
deriving DecidableEq

structure DcSctpSocket where
  options : DcSctpOptions
  state : SocketState := .closed
  connectParams : ConnectParameters := {}
  t1Init : Timer
  t1Cookie : Timer
  t2Shutdown : Timer
  sendQueue : RRSendQueue
  tcb : Option TransmissionControlBlock := none
  outside : Outside := {}
  associations : Nat := 0
  shutdownChecks : List OutstandingData := []

inductive SendStatus where
  | success
  | errorMessageEmpty
  | errorMessageTooLarge
  | errorResourceExhaustion
  | errorShuttingDown
deriving DecidableEq

inductive TimerId where
  | t1Init
  | t1Cookie
  | t2Shutdown
  | t3Rtx
  | delayedAck
  | reconfig
  | heartbeatInterval
  | heartbeatTimeout
deriving DecidableEq

def kMinVerificationTag : Nat := 1

def kMaxVerificationTag : Nat := 2 ^ 32 - 1

def kMinInitialTsn : Nat := 0

def kMaxInitialTsn : Nat := 2 ^ 32 - 1

def hex8 (n : Nat) : String :=
  let digits := String.ofList (Nat.toDigits 16 n)
  "".pushn '0' (8 - digits.length) ++ digits

def computeCapabilities (options : DcSctpOptions) (peer : InitChunk) : Capabilities :=
  let supports (t : ChunkType) : Bool := match peer.parameters.supportedExtensions with
    | none => false
    | some types => types.contains t
  { partialReliability := options.enablePartialReliability &&
      (peer.parameters.forwardTsnSupported || supports .forwardTsn)
    messageInterleaving := options.enableMessageInterleaving && supports .iData &&
      supports .iForwardTsn
    reconfig := supports .reConfig
    zeroChecksum := options.zeroChecksumMethod.isSome &&
      decide (peer.parameters.zeroChecksumAcceptable = options.zeroChecksumMethod)
    negotiatedMaximumIncomingStreams :=
      min options.announcedMaximumIncomingStreams peer.nbrOutboundStreams
    negotiatedMaximumOutgoingStreams :=
      min options.announcedMaximumOutgoingStreams peer.nbrInboundStreams }

def capabilityParameters (options : DcSctpOptions) (supportZeroChecksum : Bool) : InitParameters :=
  { forwardTsnSupported := options.enablePartialReliability
    supportedExtensions := some <|
      [.reConfig] ++ (if options.enablePartialReliability then [.forwardTsn] else []) ++
        if options.enableMessageInterleaving then [.iData, .iForwardTsn] else []
    zeroChecksumAcceptable := if supportZeroChecksum then options.zeroChecksumMethod else none }

def makeTieTag (o : Outside) : TieTag × Outside :=
  let (upper, o) := o.getRandomInt 0 (2 ^ 32 - 1)
  let (lower, o) := o.getRandomInt 1 (2 ^ 32 - 1)
  (upper * 2 ^ 32 + lower, o)

def ReassemblyQueue.hasMessages (q : ReassemblyQueue) : Bool := !q.reassembledMessages.isEmpty

def ReassemblyQueue.takeMessages : (rounds : Nat) → ReassemblyQueue →
    List DcSctpMessage × ReassemblyQueue
  | 0, q => ([], q)
  | rounds + 1, q =>
    match q.getNextMessage with
    | (none, q) => ([], q)
    | (some message, q) =>
      let (messages, q) := takeMessages rounds q
      (message :: messages, q)

namespace DcSctpSocket

def new (options : DcSctpOptions) (random : Nat → Nat) (canSend : Nat → Bool) : DcSctpSocket :=
  { options
    t1Init := { maxRestarts := options.maxInitRetransmits }
    t1Cookie := { maxRestarts := options.maxInitRetransmits }
    t2Shutdown := { maxRestarts := options.maxRetransmissions }
    sendQueue := .new options.mtu options.defaultStreamPriority
      options.totalBufferedAmountLowThreshold
    outside := { random, canSend } }

variable (s : DcSctpSocket)

def isConsistent : Bool :=
  (match s.tcb with
    | none => true
    | some tcb => s.options.enableReceivePullMode || !tcb.reassemblyQueue.hasMessages) &&
  match s.state with
  | .closed =>
    s.tcb.isNone && !s.t1Init.isRunning && !s.t1Cookie.isRunning && !s.t2Shutdown.isRunning
  | .cookieWait =>
    s.tcb.isNone && s.t1Init.isRunning && !s.t1Cookie.isRunning && !s.t2Shutdown.isRunning
  | .cookieEchoed =>
    !s.t1Init.isRunning && s.t1Cookie.isRunning && !s.t2Shutdown.isRunning &&
      match s.tcb with
      | none => false
      | some tcb => tcb.cookieEchoChunk.isSome
  | .established | .shutdownPending | .shutdownReceived =>
    s.tcb.isSome && !s.t1Init.isRunning && !s.t1Cookie.isRunning && !s.t2Shutdown.isRunning
  | .shutdownSent | .shutdownAckSent =>
    s.tcb.isSome && !s.t1Init.isRunning && !s.t1Cookie.isRunning && s.t2Shutdown.isRunning

def association? : Option Association :=
  s.tcb.map fun tcb => ⟨tcb, s.sendQueue, s.outside⟩

def setAssociation (a : Association) : DcSctpSocket :=
  { s with tcb := some a.tcb, sendQueue := a.sendQueue, outside := a.outside }

def withTcb (f : Association → Association) : DcSctpSocket :=
  match s.association? with
  | none => s
  | some a => s.setAssociation (f a)

def onError (s : DcSctpSocket) (error : ErrorKind) (message : String) : DcSctpSocket :=
  { s with outside := s.outside.onError error message }

def callback (s : DcSctpSocket) (c : SocketCallback) : DcSctpSocket :=
  { s with outside := s.outside.callback c }

def sendPacket (b : PacketBuilder) (writeChecksum : Bool := true) :
    DcSctpSocket :=
  { s with outside := (s.outside.send b writeChecksum).2 }

def sendToPeer (chunk : Chunk) : DcSctpSocket :=
  match s.association? with
  | none => s
  | some a => s.sendPacket (a.packetBuilder.add chunk)

/-! ## Opening and closing -/

def internalClose (error : ErrorKind) (message : String) : DcSctpSocket :=
  if s.state = .closed then s
  else
    { s with
      t1Init := s.t1Init.stop
      t1Cookie := s.t1Cookie.stop
      t2Shutdown := s.t2Shutdown.stop
      tcb := none
      state := .closed }.callback
        (if error = ErrorKind.noError then .onClosed else .onAborted error message)

def sendInit : DcSctpSocket :=
  s.sendPacket <| (PacketBuilder.new 0 s.options).add <| .init
    { initiateTag := s.connectParams.verificationTag
      aRwnd := BitVec.ofNat 32 s.options.maxReceiverWindowBufferSize
      nbrOutboundStreams := s.options.announcedMaximumOutgoingStreams
      nbrInboundStreams := s.options.announcedMaximumIncomingStreams
      initialTsn := s.connectParams.initialTsn
      parameters := capabilityParameters s.options s.options.zeroChecksumMethod.isSome }

def connect : DcSctpSocket :=
  if s.state = .closed then
    let (initialTsn, outside) := s.outside.getRandomInt kMinInitialTsn kMaxInitialTsn
    let (verificationTag, outside) := outside.getRandomInt kMinVerificationTag kMaxVerificationTag
    let s := { s with
      outside
      connectParams := { initialTsn := BitVec.ofNat 32 initialTsn, verificationTag } }
    { s.sendInit with t1Init := s.t1Init.start, state := .cookieWait }
  else s

def createTransmissionControlBlock (capabilities : Capabilities)
    (myVerificationTag : VerificationTag) (myInitialTsn : TSN)
    (peerVerificationTag : VerificationTag) (peerInitialTsn : TSN) (aRwnd : BitVec 32)
    (tieTag : TieTag) : DcSctpSocket :=
  { s with
    tcb := some (.new s.options capabilities myVerificationTag myInitialTsn peerVerificationTag
      peerInitialTsn aRwnd tieTag)
    sendQueue := s.sendQueue.enableMessageInterleaving capabilities.messageInterleaving
    associations := s.associations + 1 }

def sendShutdown : DcSctpSocket :=
  match s.tcb with
  | none => s
  | some tcb =>
    s.sendToPeer (.shutdown (WebRtc.Numerics.wrap 32 tcb.dataTracker.lastCumulativeAckedTsn))

def sendShutdownAck : DcSctpSocket :=
  { s.sendToPeer .shutdownAck with t2Shutdown := s.t2Shutdown.start }

def maybeSendShutdownOrAck : DcSctpSocket :=
  match s.tcb with
  | none => s
  | some tcb =>
    if tcb.retransmissionQueue.unackedItems ≠ 0 then s
    else
      let checked := s.shutdownChecks ++ [tcb.retransmissionQueue.outstandingData]
      match s.state with
      | .shutdownPending =>
        { s.sendShutdown with
          t2Shutdown := s.t2Shutdown.start
          state := .shutdownSent
          shutdownChecks := checked }
      | .shutdownReceived =>
        { s.sendShutdownAck with state := .shutdownAckSent, shutdownChecks := checked }
      | _ => s

def shutdown : DcSctpSocket :=
  if s.tcb.isSome then
    if s.state = .shutdownSent ∨ s.state = .shutdownAckSent then s
    else
      { s with
        state := .shutdownPending
        t1Init := s.t1Init.stop
        t1Cookie := s.t1Cookie.stop }.maybeSendShutdownOrAck
  else s.internalClose .noError ""

def close : DcSctpSocket :=
  if s.state = .closed then s
  else (s.sendToPeer (.abort true [.userInitiatedAbort "Close called"])).internalClose .noError ""

def closeConnectionBecauseOfTooManyTransmissionErrors : DcSctpSocket :=
  (s.sendToPeer (.abort true [.userInitiatedAbort "Too many retransmissions"])).internalClose
    .tooManyRetries "Too many retransmissions"

/-! ## Sending and receiving messages -/

def sendError (message : DcSctpMessage) :
    Option (SendStatus × ErrorKind × String) :=
  if message.payload.isEmpty then
    some (.errorMessageEmpty, .protocolViolation, "Unable to send empty message")
  else if s.options.maxMessageSize < message.payload.length then
    some (.errorMessageTooLarge, .protocolViolation, "Unable to send too large message")
  else if s.state.isShutdown then
    some (.errorShuttingDown, .wrongSequence,
      "Unable to send message as the socket is shutting down")
  else if s.options.maxSendBufferSize ≤ s.sendQueue.totalBufferedAmount.value ||
      s.options.perStreamSendQueueLimit ≤ s.sendQueue.bufferedAmount message.streamId then
    some (.errorResourceExhaustion, .resourceExhaustion,
      "Unable to send message as the send queue is full")
  else none

def internalSend (message : DcSctpMessage) (sendOptions : SendOptions) :
    SendStatus × DcSctpSocket :=
  match s.sendError message with
  | none => (.success, s)
  | some (status, error, text) =>
    let s := if sendOptions.lifecycleId ≠ 0 then s.callback (.onLifecycleEnd sendOptions.lifecycleId)
      else s
    (status, s.onError error text)

variable (now : Timestamp)

def enqueue (message : DcSctpMessage) (sendOptions : SendOptions) : SendStatus × DcSctpSocket :=
  match s.internalSend message sendOptions with
  | (.success, s) => (.success, { s with sendQueue := s.sendQueue.add now message sendOptions })
  | refused => refused

def send (message : DcSctpMessage) (sendOptions : SendOptions) : SendStatus × DcSctpSocket :=
  match s.enqueue now message sendOptions with
  | (.success, s) => (.success, s.withTcb fun a => a.sendBufferedPackets now)
  | refused => refused

def enqueueAll (now : Timestamp) (sendOptions : SendOptions) :
    List DcSctpMessage → DcSctpSocket → List SendStatus × DcSctpSocket
  | [], s => ([], s)
  | message :: messages, s =>
    let (status, s) := s.enqueue now message sendOptions
    let (statuses, s) := enqueueAll now sendOptions messages s
    (status :: statuses, s)

def sendMany (messages : List DcSctpMessage)
    (sendOptions : SendOptions) : List SendStatus × DcSctpSocket :=
  let (statuses, s) := enqueueAll now sendOptions messages s
  (statuses, s.withTcb fun a => a.sendBufferedPackets now)

def maybeDeliverMessages (pullMode : Bool) (a : Association) : Association :=
  if pullMode then
    if a.tcb.reassemblyQueue.hasMessages then { a with outside := a.outside.callback .onMessageReady }
    else a
  else
    let (messages, reassemblyQueue) :=
      a.tcb.reassemblyQueue.takeMessages a.tcb.reassemblyQueue.reassembledMessages.length
    { a with
      tcb := { a.tcb with reassemblyQueue }
      outside := { a.outside with
        callbacks := a.outside.callbacks ++ messages.map .onMessageReceived } }

def getNextMessage (s : DcSctpSocket) : Option DcSctpMessage × DcSctpSocket :=
  match s.tcb with
  | none => (none, s)
  | some tcb =>
    let (message, reassemblyQueue) := tcb.reassemblyQueue.getNextMessage
    (message, { s with tcb := some { tcb with reassemblyQueue } })

def resetStreams (s : DcSctpSocket) (outgoingStreams : List StreamID) : DcSctpSocket :=
  match s.association? with
  | none => s.onError .wrongSequence "Can't reset streams as the socket is not connected"
  | some a =>
    if a.tcb.capabilities.reconfig then
      s.setAssociation
        { a with sendQueue := StreamResetHandler.resetStreams a.sendQueue outgoingStreams
        }.maybeSendResetStreamsRequest
    else s.onError .unsupportedOperation "Can't reset streams as the peer doesn't support it"

/-! ## Timers -/

def onInitTimerExpiry : DcSctpSocket :=
  if s.t1Init.isRunning then s.sendInit
  else s.internalClose .tooManyRetries "No INIT_ACK received"

def onCookieTimerExpiry : DcSctpSocket :=
  if s.t1Cookie.isRunning then s.withTcb fun a => a.sendBufferedPackets now
  else s.internalClose .tooManyRetries "No COOKIE_ACK received"

def onShutdownTimerExpiry : DcSctpSocket :=
  if s.t2Shutdown.isRunning then s.sendShutdown
  else
    (s.sendToPeer
      (.abort true [.userInitiatedAbort "Too many retransmissions of SHUTDOWN"])).internalClose
      .tooManyRetries "No SHUTDOWN_ACK received"

def isRunning (s : DcSctpSocket) : TimerId → Bool
  | .t1Init => s.t1Init.isRunning
  | .t1Cookie => s.t1Cookie.isRunning
  | .t2Shutdown => s.t2Shutdown.isRunning
  | .t3Rtx => s.tcb.any fun tcb => tcb.retransmissionQueue.t3RtxRunning
  | .delayedAck => s.tcb.any fun tcb => tcb.dataTracker.delayedAckTimerRunning
  | .reconfig => s.tcb.any fun tcb => tcb.streamResetHandler.reconfigTimerRunning
  | .heartbeatInterval => s.tcb.any fun tcb => tcb.heartbeatIntervalRunning
  | .heartbeatTimeout => s.tcb.any fun tcb => tcb.heartbeatTimeoutRunning

def trigger (s : DcSctpSocket) (now : Timestamp) : TimerId → DcSctpSocket
  | .t1Init => { s with t1Init := s.t1Init.trigger }.onInitTimerExpiry
  | .t1Cookie => { s with t1Cookie := s.t1Cookie.trigger }.onCookieTimerExpiry now
  | .t2Shutdown => { s with t2Shutdown := s.t2Shutdown.trigger }.onShutdownTimerExpiry
  | .t3Rtx => s.withTcb fun a => a.onRtxTimerExpiry now
  | .delayedAck => s.withTcb Association.onDelayedAckTimerExpiry
  | .reconfig => s.withTcb Association.onReconfigTimerExpiry
  | .heartbeatInterval =>
    s.withTcb fun a => a.onIntervalTimerExpiry now (decide (s.state = .established))
  | .heartbeatTimeout => s.withTcb Association.onTimeoutTimerExpiry

/-- `HandleTimeout`. A timeout of a timer that has been stopped or restarted has no effect. -/
def handleTimeout (id : TimerId) : DcSctpSocket :=
  let s := if s.isRunning id then s.trigger now id else s
  if s.tcb.any TransmissionControlBlock.hasTooManyTxErrors then
    s.closeConnectionBecauseOfTooManyTransmissionErrors
  else s

/-! ## Validating packets -/

def myVerificationTag (s : DcSctpSocket) : VerificationTag :=
  match s.tcb with
  | none => 0
  | some tcb => tcb.myVerificationTag

/-- The tag check of ABORT and SHUTDOWN-COMPLETE: our own tag, or the peer's with the T bit. -/
def isReflectedTagValid (verificationTag : VerificationTag) (tBit : Bool) :
    Bool :=
  match s.tcb with
  | none => tBit
  | some tcb =>
    if tBit then verificationTag = tcb.peerVerificationTag
    else verificationTag = tcb.myVerificationTag

def invalidTagText (tag expected : VerificationTag) : String :=
  "Packet has invalid verification tag: " ++ hex8 tag ++ ", expected " ++ hex8 expected

def packetError (p : SctpPacket) : Option String :=
  let only (t : ChunkType) : Bool := decide (p.chunks.length = 1 ∧ p.firstType? = some t)
  let tBit := (p.chunks.head p.nonempty).tBit
  if p.verificationTag = 0 then
    if only .init then none
    else some ("Only a single INIT chunk can be present in packets sent on " ++
      "verification_tag = 0")
  else if only .abort then
    if s.isReflectedTagValid p.verificationTag tBit then none
    else some "ABORT chunk verification tag was wrong"
  else if p.firstType? = some .initAck then
    if p.verificationTag = s.connectParams.verificationTag then none
    else some (invalidTagText p.verificationTag s.connectParams.verificationTag)
  else if p.firstType? = some .cookieEcho then none
  else if only .shutdownComplete then
    if s.isReflectedTagValid p.verificationTag tBit then none
    else some "SHUTDOWN_COMPLETE chunk verification tag was wrong"
  else if p.verificationTag = s.myVerificationTag then none
  else some (invalidTagText p.verificationTag s.myVerificationTag)

def maybeSendShutdownOnPacketReceived (p : SctpPacket) : DcSctpSocket :=
  if s.state = .shutdownSent ∧ some ChunkType.data ∈ p.chunks.map Chunk.type? then
    { s.sendShutdown with t2Shutdown := s.t2Shutdown.start }
  else s

/-! ## Handlers of data -/

def ifHasTcb (handle : Association → DcSctpSocket) : DcSctpSocket :=
  match s.association? with
  | none =>
    s.onError .notConnected "Received unexpected commands on socket that is not connected"
  | some a => handle a

def handleDataCommon (a : Association) (tsn : TSN) (data : Data)
    (immediateAck : Bool) : DcSctpSocket :=
  let t := a.tcb.dataTracker
  let q := a.tcb.reassemblyQueue
  if data.payload.isEmpty then
    (s.sendToPeer (.error [.noUserData tsn])).onError .protocolViolation
      "Received DATA chunk with no user data"
  else if q.isFull then
    if q.hasMessages then s
    else
      (s.sendToPeer (.abort true [.outOfResource])).internalClose .resourceExhaustion
        "Reassembly Queue is exhausted"
  else if q.isAboveWatermark && !t.willIncreaseCumAckTsn tsn then
    s.setAssociation { a with tcb := { a.tcb with dataTracker := t.forceImmediateSack } }
  else if !t.isTSNValid tsn then s
  else
    match t.observe tsn immediateAck with
    | (false, dataTracker) => s.setAssociation { a with tcb := { a.tcb with dataTracker } }
    | (true, dataTracker) =>
      s.setAssociation <| maybeDeliverMessages s.options.enableReceivePullMode
        { a with tcb := { a.tcb with dataTracker, reassemblyQueue := q.add tsn data } }

def handleForwardTsnCommon (a : Association) (chunk : AnyForwardTsnChunk) :
    DcSctpSocket :=
  if a.tcb.capabilities.partialReliability then
    let (moved, dataTracker) := a.tcb.dataTracker.handleForwardTsn chunk.newCumulativeTsn
    let reassemblyQueue :=
      if moved then
        a.tcb.reassemblyQueue.handleForwardTsn chunk.newCumulativeTsn chunk.skippedStreams
      else a.tcb.reassemblyQueue
    s.setAssociation <| maybeDeliverMessages s.options.enableReceivePullMode
      { a with tcb := { a.tcb with dataTracker, reassemblyQueue } }
  else
    (s.sendToPeer (.abort true [.protocolViolation
      "I-FORWARD-TSN received, but not indicated during connection establishment"])).onError
      .protocolViolation "Received a FORWARD_TSN without announced peer support"

def handleSack (s : DcSctpSocket) (a : Association) (now : Timestamp) (chunk : SackChunk) :
    DcSctpSocket :=
  match a.handleSack now (ChunkValidators.clean chunk) with
  | (false, a) => s.setAssociation a
  | (true, a) =>
    (s.setAssociation a).maybeSendShutdownOrAck.withTcb fun a =>
      a.maybeSendFastRetransmit.sendBufferedPackets now

def handleReconfig (a : Association) (now : Timestamp)
    (parameters : List ReConfigParameter) : DcSctpSocket :=
  let a := (a.handleReConfig parameters).maybeSendResetStreamsRequest.sendBufferedPackets now
  s.setAssociation (maybeDeliverMessages s.options.enableReceivePullMode a)

/-! ## Handlers of the association's state -/

def drawTag (mine : VerificationTag) :
    (tries : Nat) → VerificationTag → Outside → VerificationTag × Outside
  | 0, tag, o => (tag, o)
  | tries + 1, _, o =>
    let (tag, o) := o.getRandomInt kMinVerificationTag kMaxVerificationTag
    if tag ≠ mine then (tag, o) else drawTag mine tries tag o

def initAckParameters :
    VerificationTag × TSN × TieTag × Outside :=
  match s.state, s.tcb with
  | .closed, _ =>
    let (tag, o) := s.outside.getRandomInt kMinVerificationTag kMaxVerificationTag
    let (tsn, o) := o.getRandomInt kMinInitialTsn kMaxInitialTsn
    (tag, BitVec.ofNat 32 tsn, 0, o)
  | .cookieWait, _ | .cookieEchoed, _ =>
    (s.connectParams.verificationTag, s.connectParams.initialTsn, 0, s.outside)
  | _, some tcb =>
    let (tag, o) := drawTag tcb.myVerificationTag 10 0 s.outside
    (tag, tcb.retransmissionQueue.nextTsn + 1000000, tcb.tieTag, o)
  -- the other states have a TCB
  | _, none => (0, 0, 0, s.outside)

def handleInit (chunk : InitChunk) : DcSctpSocket :=
  if chunk.initiateTag = 0 ∨ chunk.nbrOutboundStreams = 0 ∨ chunk.nbrInboundStreams = 0 then
    (s.sendPacket ((PacketBuilder.new 0 s.options).add
      (.abort false [.protocolViolation "INIT malformed"]))).internalClose .protocolViolation
      "Received invalid INIT"
  else if s.state = .shutdownAckSent then s.sendShutdownAck
  else
    let (myTag, myInitialTsn, tieTag, outside) := s.initAckParameters
    let capabilities := computeCapabilities s.options chunk
    let cookie : StateCookie :=
      ⟨chunk.initiateTag, myTag, chunk.initialTsn, myInitialTsn, chunk.aRwnd, tieTag, capabilities⟩
    { s with outside }.sendPacket
      ((PacketBuilder.new chunk.initiateTag s.options).add <| .initAck
        { initiateTag := myTag
          aRwnd := BitVec.ofNat 32 s.options.maxReceiverWindowBufferSize
          nbrOutboundStreams := s.options.announcedMaximumOutgoingStreams
          nbrInboundStreams := s.options.announcedMaximumIncomingStreams
          initialTsn := myInitialTsn
          parameters := { capabilityParameters s.options capabilities.zeroChecksum with
            stateCookie := some cookie.serialize } })
      (!capabilities.zeroChecksum)

def handleInitAck (chunk : InitChunk) : DcSctpSocket :=
  if s.state ≠ .cookieWait then s
  else
    match chunk.parameters.stateCookie with
    | none =>
      (s.sendPacket ((PacketBuilder.new s.connectParams.verificationTag s.options).add
        (.abort false [.protocolViolation "INIT-ACK malformed"]))).internalClose
        .protocolViolation "InitAck chunk doesn't contain a cookie"
    | some cookie =>
      let (tieTag, outside) := makeTieTag s.outside
      let s := { s with
        t1Init := s.t1Init.stop
        sendQueue := s.sendQueue.reset
        outside }.createTransmissionControlBlock (computeCapabilities s.options chunk)
          s.connectParams.verificationTag s.connectParams.initialTsn chunk.initiateTag
          chunk.initialTsn chunk.aRwnd tieTag
      let s := { s with state := .cookieEchoed }.withTcb fun a =>
        { a with tcb := a.tcb.setCookieEchoChunk cookie }.sendBufferedPackets now
      { s with t1Cookie := s.t1Cookie.start }

/-- What `HandleCookieEchoWithTCB` recognizes: the cases A to D of RFC 4960, section 5.2.4,
and the rest. -/
inductive CookieCase where
  | restarted
  | simultaneous
  | late
  | duplicate
  | other
deriving DecidableEq

def cookieCase (tcb : TransmissionControlBlock) (verificationTag : VerificationTag)
    (cookie : StateCookie) : CookieCase :=
  if verificationTag ≠ tcb.myVerificationTag ∧ tcb.peerVerificationTag ≠ cookie.peerTag ∧
      cookie.tieTag = tcb.tieTag then .restarted
  else if verificationTag = tcb.myVerificationTag ∧ tcb.peerVerificationTag ≠ cookie.peerTag then
    .simultaneous
  else if verificationTag ≠ tcb.myVerificationTag ∧ tcb.peerVerificationTag = cookie.peerTag ∧
      cookie.tieTag = 0 then .late
  else if verificationTag = tcb.myVerificationTag ∧ tcb.peerVerificationTag = cookie.peerTag then
    .duplicate
  else .other

def handleCookieEchoWithTcb (tcb : TransmissionControlBlock)
    (verificationTag : VerificationTag) (cookie : StateCookie) : Bool × DcSctpSocket :=
  match cookieCase tcb verificationTag cookie with
  | .restarted =>
    if s.state = .shutdownAckSent then
      (false, (s.sendPacket (((PacketBuilder.new cookie.peerTag s.options).add .shutdownAck).add
        (.error [.cookieReceivedWhileShuttingDown]))).onError .wrongSequence
        "Received COOKIE-ECHO while shutting down")
    else (true, { s with tcb := none }.callback .onConnectionRestarted)
  | .simultaneous => (true, { s with tcb := none })
  | .late => (false, s)
  | .duplicate => (true, s)
  | .other => (true, s)

def establish (cookie : StateCookie) : DcSctpSocket :=
  let s := { s with t1Init := s.t1Init.stop, t1Cookie := s.t1Cookie.stop }
  let s :=
    if s.state ≠ .established then
      { s with
        tcb := s.tcb.map TransmissionControlBlock.clearCookieEchoChunk
        state := .established }.callback .onConnected
    else s
  let s :=
    if s.tcb.isNone then
      let (tieTag, outside) := makeTieTag s.outside
      { s with sendQueue := s.sendQueue.reset, outside }.createTransmissionControlBlock
        cookie.capabilities cookie.myTag cookie.myInitialTsn cookie.peerTag cookie.peerInitialTsn
        cookie.aRwnd tieTag
    else s
  s.withTcb fun a => a.sendBufferedPacketsWith (a.packetBuilder.add .cookieAck) now

def handleCookieEcho (verificationTag : VerificationTag) (cookie : Cookie) : DcSctpSocket :=
  match cookie.deserialized with
  | none => s.onError .parseFailed "Failed to parse state cookie"
  | some cookie =>
    match s.tcb with
    | some tcb =>
      match s.handleCookieEchoWithTcb tcb verificationTag cookie with
      | (false, s) => s
      | (true, s) => s.establish now cookie
    | none =>
      if verificationTag ≠ cookie.myTag then
        s.onError .parseFailed ("Received CookieEcho with invalid verification tag: " ++
          hex8 verificationTag ++ ", expected " ++ hex8 cookie.myTag)
      else s.establish now cookie

def handleCookieAck : DcSctpSocket :=
  if s.state ≠ .cookieEchoed then s
  else
    ({ s with t1Cookie := s.t1Cookie.stop, state := .established }.withTcb fun a =>
      { a with tcb := a.tcb.clearCookieEchoChunk }.sendBufferedPackets now).callback
      .onConnected

def handleAbort (causes : List ErrorCause) : DcSctpSocket :=
  if s.tcb.isNone then s else s.internalClose .peerReported (errorCausesToString causes)

def handleError (causes : List ErrorCause) : DcSctpSocket :=
  if s.tcb.isNone then s
  else s.onError .peerReported ("Peer reported error: " ++ errorCausesToString causes)

def handleShutdown : DcSctpSocket :=
  match s.state with
  | .closed | .cookieWait | .cookieEchoed => s
  | .shutdownSent => { s.sendShutdownAck with state := .shutdownAckSent }
  | .shutdownAckSent | .shutdownReceived => s
  | .established | .shutdownPending => { s with state := .shutdownReceived }.maybeSendShutdownOrAck

def handleShutdownAck (verificationTag : VerificationTag) : DcSctpSocket :=
  if s.state = .shutdownSent ∨ s.state = .shutdownAckSent then
    (s.sendToPeer (.shutdownComplete false)).internalClose .noError ""
  else
    s.sendPacket ((PacketBuilder.new verificationTag s.options).add (.shutdownComplete true))

def handleShutdownComplete : DcSctpSocket :=
  if s.state = .shutdownAckSent then s.internalClose .noError "" else s

def handleUnrecognizedChunk (type : UnknownType) : Bool × DcSctpSocket :=
  let reportAsError := type.val.getLsbD 6
  let continueProcessing := type.val.getLsbD 7
  (continueProcessing,
    if reportAsError then
      (s.onError .parseFailed ("Received unknown chunk of type: " ++ type.val.toNat.repr ++
        " with report-error bit set")).sendToPeer (.error [.unrecognizedChunkType type.val])
    else s)

def dispatch (verificationTag : VerificationTag) :
    Chunk → Bool × DcSctpSocket
  | .data tsn data immediateAck =>
    (true, s.ifHasTcb fun a => s.handleDataCommon a tsn data immediateAck)
  | .iData tsn data immediateAck =>
    (true, s.ifHasTcb fun a => s.handleDataCommon a tsn data immediateAck)
  | .init chunk => (true, s.handleInit chunk)
  | .initAck chunk => (true, s.handleInitAck now chunk)
  | .sack chunk => (true, s.ifHasTcb fun a => s.handleSack a now chunk)
  | .heartbeatRequest info =>
    (true, s.ifHasTcb fun a => s.setAssociation (a.handleHeartbeatRequest info))
  | .heartbeatAck info =>
    (true, s.ifHasTcb fun a => s.setAssociation (a.handleHeartbeatAck now info))
  | .abort _ causes => (true, s.handleAbort causes)
  | .error causes => (true, s.handleError causes)
  | .cookieEcho cookie => (true, s.handleCookieEcho now verificationTag cookie)
  | .cookieAck => (true, s.handleCookieAck now)
  | .shutdown _ => (true, s.handleShutdown)
  | .shutdownAck => (true, s.handleShutdownAck verificationTag)
  | .shutdownComplete _ => (true, s.handleShutdownComplete)
  | .reConfig parameters => (true, s.ifHasTcb fun a => s.handleReconfig a now parameters)
  | .forwardTsn chunk => (true, s.ifHasTcb fun a => s.handleForwardTsnCommon a chunk)
  | .iForwardTsn chunk => (true, s.ifHasTcb fun a => s.handleForwardTsnCommon a chunk)
  | .malformed type _ =>
    (true, s.onError .parseFailed ("Failed to parse chunk of type: " ++ type.code.repr))
  | .unrecognized type => s.handleUnrecognizedChunk type

def dispatchAll (now : Timestamp) (verificationTag : VerificationTag) :
    List Chunk → DcSctpSocket → DcSctpSocket
  | [], s => s
  | c :: cs, s =>
    match s.dispatch now verificationTag c with
    | (true, s) => dispatchAll now verificationTag cs s
    | (false, s) => s

def finishPacket (a : Association) : Association :=
  { a with tcb := { a.tcb with dataTracker := a.tcb.dataTracker.observePacketEnd } }.maybeSendSack

/-- `ReceivePacket`; `none` is a packet that does not parse. -/
def receivePacket : Option SctpPacket → DcSctpSocket
  | none => s.onError .parseFailed "Failed to parse received SCTP packet"
  | some p =>
    match s.packetError p with
    | some text => s.onError .parseFailed text
    | none =>
      (dispatchAll now p.verificationTag p.chunks (s.maybeSendShutdownOnPacketReceived p)).withTcb
        finishPacket

/-! ## Runs -/

inductive Call where
  | connect
  | shutdown
  | close
  | send (message : DcSctpMessage) (sendOptions : SendOptions)
  | sendMany (messages : List DcSctpMessage) (sendOptions : SendOptions)
  | resetStreams (outgoingStreams : List StreamID)
  | getNextMessage
  | setMaxMessageSize (maxMessageSize : Nat)
  | setStreamPriority (streamId : StreamID) (priority : Nat)
  | setBufferedAmountLowThreshold (streamId : StreamID) (bytes : Nat)
  | handleTimeout (id : TimerId)
  | receivePacket (packet : Option SctpPacket)

abbrev Event := Timestamp × Call

def step (e : Event) : DcSctpSocket :=
  match e.2 with
  | .connect => s.connect
  | .shutdown => s.shutdown
  | .close => s.close
  | .send message sendOptions => (s.send e.1 message sendOptions).2
  | .sendMany messages sendOptions => (s.sendMany e.1 messages sendOptions).2
  | .resetStreams outgoingStreams => s.resetStreams outgoingStreams
  | .getNextMessage => s.getNextMessage.2
  | .setMaxMessageSize maxMessageSize => { s with options := { s.options with maxMessageSize } }
  | .setStreamPriority streamId priority =>
    { s with sendQueue := s.sendQueue.setStreamPriority streamId priority }
  | .setBufferedAmountLowThreshold streamId bytes =>
    { s with sendQueue := s.sendQueue.setBufferedAmountLowThreshold streamId bytes }
  | .handleTimeout id => s.handleTimeout e.1 id
  | .receivePacket packet => s.receivePacket e.1 packet

end DcSctpSocket

end WebRtc.Dcsctp
