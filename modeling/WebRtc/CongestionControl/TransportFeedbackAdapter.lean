import WebRtc.Pacing.PrioritizedPacketQueue

/-!
# WebRTC — the transport feedback adapter

The model of `modules/congestion_controller/rtp/transport_feedback_adapter.cc` as far as
congestion control feedback (RFC 8888) goes. Times are integers (microseconds), a time that is not
finite is `none`. What the source only logs is left out, and with it `last_send_time_` and
`last_untracked_send_time_`.
-/

namespace WebRtc.CongestionControl

open Lib Numerics Pacing

inductive AdapterType where
  | unknown | ethernet | wifi | cellular | vpn | loopback | any
  | cellular2G | cellular3G | cellular4G | cellular5G
deriving DecidableEq

structure RouteEndpoint where
  adapterType : AdapterType := .unknown
  adapterId : BitVec 16 := 0
  networkId : BitVec 16 := 0
  usesTurn : Bool := false
deriving DecidableEq

structure NetworkRoute where
  connected : Bool := false
  «local» : RouteEndpoint := {}
  remote : RouteEndpoint := {}
  lastSentPacketId : Int := -1
  packetOverhead : Int := 0
deriving DecidableEq

structure PacedPacketInfo where
  sendBitrate : Int := 0
  probeClusterId : Int := -1
  probeClusterMinProbes : Int := -1
  probeClusterMinBytes : Int := -1
  probeClusterBytesSent : Int := 0
deriving DecidableEq

structure SentPacket where
  sendTime : Option Int := none
  size : Int := 0
  priorUnackedData : Int := 0
  pacingInfo : PacedPacketInfo := {}
  audio : Bool := false
  sequenceNumber : Int
  dataInFlight : Int := 0
deriving DecidableEq

abbrev SsrcAndRtpSequencenumber := Lex (BitVec 32 × BitVec 16)

structure PacketFeedback where
  creationTime : Int
  sent : SentPacket
  networkRoute : NetworkRoute := {}
  ssrc : BitVec 32
  rtpSequenceNumber : BitVec 16
  isRetransmission : Bool := false
deriving DecidableEq

def PacketFeedback.key (packet : PacketFeedback) : SsrcAndRtpSequencenumber :=
  toLex (packet.ssrc, packet.rtpSequenceNumber)

/-! ## InFlightBytesTracker -/

/-- What `NetworkRouteComparator` compares, in the order in which it does. -/
def NetworkRoute.rank (r : NetworkRoute) :
    Lex (Nat × Lex (Nat × Lex (Nat × Lex (Nat × Lex (Bool × Lex (Bool × Bool)))))) :=
  toLex (r.local.networkId.toNat, toLex (r.remote.networkId.toNat,
    toLex (r.local.adapterId.toNat, toLex (r.remote.adapterId.toNat,
      toLex (r.local.usesTurn, toLex (r.remote.usesTurn, r.connected))))))

/-- `InFlightBytesTracker`: the bytes in flight on each route, under its rank. -/
abbrev InFlightBytesTracker :=
  OrdMap (Lex (Nat × Lex (Nat × Lex (Nat × Lex (Nat × Lex (Bool × Lex (Bool × Bool))))))) Int

def InFlightBytesTracker.addInFlightPacketBytes (t : InFlightBytesTracker)
    (packet : PacketFeedback) : InFlightBytesTracker :=
  t.insert packet.networkRoute.rank
    ((t.find? packet.networkRoute.rank).getD 0 + packet.sent.size)

def InFlightBytesTracker.removeInFlightPacketBytes (t : InFlightBytesTracker)
    (packet : PacketFeedback) : InFlightBytesTracker :=
  if packet.sent.sendTime.isNone then t
  else match t.find? packet.networkRoute.rank with
    | none => t
    | some bytes =>
      if bytes - packet.sent.size = 0 then t.erase packet.networkRoute.rank
      else t.insert packet.networkRoute.rank (bytes - packet.sent.size)

def InFlightBytesTracker.getOutstandingData (t : InFlightBytesTracker) (r : NetworkRoute) : Int :=
  (t.find? r.rank).getD 0

/-! ## The adapter -/

structure RtpPacketToSend where
  ssrc : BitVec 32
  sequenceNumber : BitVec 16
  transportSequenceNumber : Option Int
  packetType : RtpPacketMediaType := .video
  size : Nat := 0

structure SentPacketInfo where
  packetId : Int := -1
  sendTimeMs : Int := -1
  includedInFeedback : Bool := false
  includedInAllocation : Bool := false
  packetSizeBytes : Nat := 0

inductive EcnMarking where
  | notEct | ect1 | ect0 | ce
deriving DecidableEq

structure PacketInfo where
  ssrc : BitVec 32
  sequenceNumber : BitVec 16
  arrivalTimeOffset : Option Int := none
  ecn : EcnMarking := .notEct

def PacketInfo.key (info : PacketInfo) : SsrcAndRtpSequencenumber :=
  toLex (info.ssrc, info.sequenceNumber)

structure CongestionControlFeedback where
  packets : List PacketInfo
  reportTimestampCompactNtp : BitVec 32 := 0

structure PacketResult where
  sentPacket : SentPacket
  receiveTime : Option Int
  ecn : EcnMarking
  ssrc : BitVec 32
  rtpSequenceNumber : BitVec 16
  isRetransmission : Bool
deriving DecidableEq

structure TransportPacketsFeedback where
  feedbackTime : Int
  dataInFlight : Int
  transportSupportsEcn : Bool
  packetFeedbacks : List PacketResult
deriving DecidableEq

def sendTimeHistoryWindow : Int := 60000000

/-- `CompactNtpIntervalToTimeDelta`, in microseconds rounded to the nearest one. -/
def compactNtpIntervalToTimeDelta (interval : BitVec 32) : Int :=
  let value : Int := if interval.toNat > 0x80000000 then interval.toNat - 2 ^ 32
    else interval.toNat
  let dividend := value * 1000000
  if dividend < 0 then
    (if -(dividend.tmod 65536) > 32768 then dividend.tdiv 65536 - 1 else dividend.tdiv 65536)
  else (dividend + 32768) / 65536

structure TransportFeedbackAdapter where
  pendingUntrackedSize : Int := 0
  seqNumUnwrapper : SeqNumUnwrapper 16 := .init 16
  lastAckSeqNum : Int := -1
  inFlight : InFlightBytesTracker := .empty
  networkRoute : NetworkRoute := {}
  currentOffset : Option Int := none
  lastFeedbackCompactNtpTime : Option (BitVec 32) := none
  rtpToTransportSequenceNumber : OrdMap SsrcAndRtpSequencenumber Int := .empty
  history : OrdMap Int PacketFeedback := .empty

namespace TransportFeedbackAdapter

variable (s : TransportFeedbackAdapter)

def forget (number : Int) (packet : PacketFeedback) :
    TransportFeedbackAdapter :=
  { s with
    rtpToTransportSequenceNumber := s.rtpToTransportSequenceNumber.erase packet.key
    history := s.history.erase number }

/-- The loop of `AddPacket` that drops packets older than the window, oldest
number first. A round drops one packet, so the fuel of a round for each packet
is enough. -/
def cullOld (creationTime : Int) : Nat → TransportFeedbackAdapter → TransportFeedbackAdapter
  | 0, s => s
  | fuel + 1, s =>
    match s.history.front? with
    | none => s
    | some (number, packet) =>
      if creationTime - packet.creationTime > sendTimeHistoryWindow then
        let inFlight := if packet.sent.sequenceNumber > s.lastAckSeqNum then
          s.inFlight.removeInFlightPacketBytes packet else s.inFlight
        cullOld creationTime fuel ({ s with inFlight }.forget number packet)
      else s

def cull (creationTime : Int) : TransportFeedbackAdapter :=
  cullOld creationTime s.history.size s

def numberOf (packet : RtpPacketToSend) : Int :=
  s.seqNumUnwrapper.peekUnwrap (wrap 16 (packet.transportSequenceNumber.getD 0))

def feedbackOf (packet : RtpPacketToSend)
    (pacingInfo : PacedPacketInfo) (overheadBytes : Nat) (creationTime : Int) : PacketFeedback where
  creationTime := creationTime
  sent :=
    { sequenceNumber := s.numberOf packet
      size := ((packet.size + overheadBytes : Nat) : Int)
      audio := packet.packetType = .audio
      pacingInfo := pacingInfo }
  networkRoute := s.networkRoute
  ssrc := packet.ssrc
  rtpSequenceNumber := packet.sequenceNumber
  isRetransmission := packet.packetType = .retransmission

/-- `AddPacket`. Neither `emplace` replaces an entry that is already there. -/
def addPacket (packet : RtpPacketToSend)
    (pacingInfo : PacedPacketInfo) (overheadBytes : Nat) (creationTime : Int) :
    TransportFeedbackAdapter :=
  let feedback := s.feedbackOf packet pacingInfo overheadBytes creationTime
  let number := wrap 16 (packet.transportSequenceNumber.getD 0)
  let culled := s.cull creationTime
  { culled with
    seqNumUnwrapper := (s.seqNumUnwrapper.unwrap number).2
    rtpToTransportSequenceNumber :=
      (culled.rtpToTransportSequenceNumber.emplace feedback.key feedback.sent.sequenceNumber).1
    history := (culled.history.emplace feedback.sent.sequenceNumber feedback).1 }

def processSentPacket (sentPacket : SentPacketInfo) :
    Option SentPacket × TransportFeedbackAdapter :=
  if sentPacket.includedInFeedback ∨ sentPacket.packetId ≠ -1 then
    let (number, unwrapper) := s.seqNumUnwrapper.unwrap (wrap 16 sentPacket.packetId)
    let s := { s with seqNumUnwrapper := unwrapper }
    match s.history.find? number with
    | none => (none, s)
    | some packet =>
      let sent := { packet.sent with
        sendTime := some (sentPacket.sendTimeMs * 1000)
        priorUnackedData := packet.sent.priorUnackedData + s.pendingUntrackedSize }
      let s := { s with pendingUntrackedSize := 0 }
      if packet.sent.sendTime.isSome then
        (none, { s with history := s.history.insert number { packet with sent } })
      else
        let inFlight := if sent.sequenceNumber > s.lastAckSeqNum then
          s.inFlight.addInFlightPacketBytes { packet with sent } else s.inFlight
        let sent := { sent with dataInFlight := inFlight.getOutstandingData s.networkRoute }
        (some sent, { s with inFlight, history := s.history.insert number { packet with sent } })
  else if sentPacket.includedInAllocation then
    (none, { s with pendingUntrackedSize := s.pendingUntrackedSize + sentPacket.packetSizeBytes })
  else (none, s)

/-- The first part of `RetrievePacketFeedback`: packets up to the reported one
are no longer in flight. -/
def acknowledge (number : Int) : TransportFeedbackAdapter :=
  if number > s.lastAckSeqNum then
    { s with
      inFlight := ((s.history.eraseTo s.lastAckSeqNum).takeTo number).entries.foldl
        (fun inFlight e => InFlightBytesTracker.removeInFlightPacketBytes inFlight e.2) s.inFlight
      lastAckSeqNum := number }
  else s

def retrieveNumber (number : Int) (received : Bool) :
    Option PacketFeedback × TransportFeedbackAdapter :=
  let s := s.acknowledge number
  match s.history.find? number with
  | none => (none, s)
  | some packet =>
    if packet.sent.sendTime.isNone then (none, s)
    else (some packet, if received then s.forget number packet else s)

def retrievePacketFeedback (key : SsrcAndRtpSequencenumber)
    (received : Bool) : Option PacketFeedback × TransportFeedbackAdapter :=
  match s.rtpToTransportSequenceNumber.find? key with
  | none => (none, s)
  | some number => s.retrieveNumber number received

def packetResult (currentOffset : Int) (info : PacketInfo) (packet : PacketFeedback) :
    PacketResult where
  sentPacket := packet.sent
  receiveTime := info.arrivalTimeOffset.map (currentOffset - ·)
  ecn := info.ecn
  ssrc := packet.ssrc
  rtpSequenceNumber := packet.rtpSequenceNumber
  isRetransmission := packet.isRetransmission

/-- The loop of `ProcessCongestionControlFeedback` over the reported packets:
the results in the order of the reports and whether every received packet of
them had an ECN mark. -/
def processPackets (currentOffset : Int) :
    TransportFeedbackAdapter → List PacketInfo → List PacketResult × Bool × TransportFeedbackAdapter
  | s, [] => ([], true, s)
  | s, info :: infos =>
    let (found, s) := s.retrievePacketFeedback info.key info.arrivalTimeOffset.isSome
    let (results, supportsEcn, s') := processPackets currentOffset s infos
    match found with
    | none => (results, supportsEcn, s')
    | some packet =>
      if packet.networkRoute ≠ s.networkRoute then (results, supportsEcn, s')
      else (packetResult currentOffset info packet :: results,
        (supportsEcn && (info.arrivalTimeOffset.isNone || info.ecn != .notEct)), s')

def nextOffset (feedback : CongestionControlFeedback) (feedbackReceiveTime : Int) : Int :=
  let feedbackDelta := match s.lastFeedbackCompactNtpTime with
    | none => 0
    | some last => compactNtpIntervalToTimeDelta (feedback.reportTimestampCompactNtp - last)
  if feedbackDelta < 0 then feedbackReceiveTime
  else s.currentOffset.getD feedbackReceiveTime + feedbackDelta

def processCongestionControlFeedback
    (feedback : CongestionControlFeedback) (feedbackReceiveTime : Int) :
    Option TransportPacketsFeedback × TransportFeedbackAdapter :=
  if feedback.packets.isEmpty then (none, s)
  else
    let offset := s.nextOffset feedback feedbackReceiveTime
    let (results, supportsEcn, s) := processPackets offset
      { s with
        currentOffset := some offset
        lastFeedbackCompactNtpTime := some feedback.reportTimestampCompactNtp } feedback.packets
    if results.isEmpty then (none, s)
    else
      (some
        { feedbackTime := feedbackReceiveTime
          dataInFlight := s.inFlight.getOutstandingData s.networkRoute
          transportSupportsEcn := supportsEcn
          packetFeedbacks := results.mergeSort fun lhs rhs =>
            lhs.sentPacket.sequenceNumber ≤ rhs.sentPacket.sequenceNumber }, s)

def setNetworkRoute (networkRoute : NetworkRoute) :
    TransportFeedbackAdapter :=
  { s with networkRoute }

end TransportFeedbackAdapter

end WebRtc.CongestionControl
