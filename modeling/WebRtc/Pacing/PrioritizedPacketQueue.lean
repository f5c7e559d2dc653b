import WebRtc.Lib.OrdMap
import WebRtc.Numerics.SeqNum

/-!
# WebRTC — the pacer's packet queue

The model of `modules/pacing/prioritized_packet_queue.cc`. Times are integers (microseconds); a
time to live of `TimeDelta::PlusInfinity()` is `none`. The pointers to `StreamQueue`s are the SSRCs
that the queues are stored under, and the iterators into `enqueue_times_` are handles that are not
reused. The line that `PurgeOldPacketsAtPriorityLevel` logs for a packet is kept in `dropped`.
-/

namespace WebRtc.Pacing

open Lib Numerics Function

abbrev Ssrc := BitVec 32

/-- A priority level. A smaller number takes priority over a larger one. -/
abbrev PrioLevel := Fin 5

inductive RtpPacketMediaType where
  | audio | video | retransmission | forwardErrorCorrection | padding
deriving DecidableEq

inductive OriginalType where
  | audio | video
deriving DecidableEq

structure RtpPacketToSend where
  ssrc : Ssrc
  sequenceNumber : BitVec 16
  packetType : RtpPacketMediaType
  originalPacketType : Option OriginalType := none
  payloadSize : Nat := 0
  paddingSize : Nat := 0
  isKeyFrame : Bool := false
deriving DecidableEq

def getPriorityForType : RtpPacketMediaType → Option OriginalType → PrioLevel
  | .audio, _ => 0
  | .retransmission, originalType => if originalType = some .video then 2 else 1
  | .video, _ => 3
  | .forwardErrorCorrection, _ => 3
  | .padding, _ => 4

structure PacketQueueTTL where
  audioRetransmission : Option Int := none
  videoRetransmission : Option Int := none
  video : Option Int := none
deriving DecidableEq

def toTtlPerPrio (ttl : PacketQueueTTL) (level : PrioLevel) : Option Int :=
  if level = getPriorityForType .video none then ttl.video
  else if level = getPriorityForType .retransmission (some .video) then ttl.videoRetransmission
  else if level = getPriorityForType .retransmission (some .audio) then ttl.audioRetransmission
  else none

/-- `QueuedPacket`. The enqueue time has the pause time before it subtracted. -/
structure QueuedPacket where
  packet : RtpPacketToSend
  enqueueTime : Int
  handle : Nat
deriving DecidableEq

def RtpPacketToSend.packetSize (p : RtpPacketToSend) : Int := p.payloadSize + p.paddingSize

structure StreamQueue where
  packets : PrioLevel → List QueuedPacket
  lastEnqueueTime : Int
  numKeyframePackets : Int
deriving DecidableEq

namespace StreamQueue

def new (creationTime : Int) : StreamQueue := ⟨fun _ => [], creationTime, 0⟩

/-- `EnqueuePacket`; whether it was the first packet at the level is read off
the queue before. -/
def enqueuePacket (s : StreamQueue) (p : QueuedPacket) (level : PrioLevel) : StreamQueue :=
  { s with
    packets := update s.packets level (s.packets level ++ [p])
    numKeyframePackets := s.numKeyframePackets + if p.packet.isKeyFrame then 1 else 0 }

def dequeuePacket (s : StreamQueue) (p : QueuedPacket) (level : PrioLevel) : StreamQueue :=
  { s with
    packets := update s.packets level (s.packets level).tail
    numKeyframePackets := s.numKeyframePackets - if p.packet.isKeyFrame then 1 else 0 }

def hasPacketsAtPrio (s : StreamQueue) (level : PrioLevel) : Bool := !(s.packets level).isEmpty

def isEmpty (s : StreamQueue) : Bool := (List.finRange 5).all fun l => (s.packets l).isEmpty

end StreamQueue

/-- A packet that was purged, and the call that purged it. -/
structure DroppedPacket where
  packet : QueuedPacket
  level : PrioLevel
  now : Int
deriving DecidableEq

structure PrioritizedPacketQueue where
  prioritizeAudioRetransmission : Bool
  timeToLivePerPrio : PrioLevel → Option Int
  queueTimeSum : Int := 0
  pauseTimeSum : Int := 0
  sizePackets : Int := 0
  sizePacketsPerMediaType : RtpPacketMediaType → Int := fun _ => 0
  sizePayload : Int := 0
  lastUpdateTime : Int
  paused : Bool := false
  lastCullingTime : Int
  streams : OrdMap Ssrc StreamQueue := OrdMap.empty
  streamsByPrio : PrioLevel → List Ssrc := fun _ => []
  -- `-1` is `none`.
  topActivePrioLevel : Option PrioLevel := none
  enqueueTimes : List (Nat × Int) := []
  nextHandle : Nat := 0
  dropped : List DroppedPacket := []

namespace PrioritizedPacketQueue

def new (creationTime : Int) (prioritizeAudioRetransmission : Bool) (ttl : PacketQueueTTL) :
    PrioritizedPacketQueue where
  prioritizeAudioRetransmission
  timeToLivePerPrio := toTtlPerPrio ttl
  lastUpdateTime := creationTime
  lastCullingTime := creationTime

variable (q : PrioritizedPacketQueue)

def prioLevel (p : RtpPacketToSend) : PrioLevel :=
  getPriorityForType p.packetType
    (if q.prioritizeAudioRetransmission then p.originalPacketType else none)

def stream (ssrc : Ssrc) : StreamQueue := (q.streams.find? ssrc).getD (StreamQueue.new 0)

def setStream (ssrc : Ssrc) (s : StreamQueue) : PrioritizedPacketQueue :=
  { q with streams := q.streams.insert ssrc s }

def setStreamsByPrio (level : PrioLevel) (l : List Ssrc) : PrioritizedPacketQueue :=
  { q with streamsByPrio := update q.streamsByPrio level l }

def dequeuePacketInternal (p : QueuedPacket) : PrioritizedPacketQueue :=
  { q with
    sizePackets := q.sizePackets - 1
    sizePacketsPerMediaType := update q.sizePacketsPerMediaType p.packet.packetType
      (q.sizePacketsPerMediaType p.packet.packetType - 1)
    sizePayload := q.sizePayload - p.packet.packetSize
    queueTimeSum := q.queueTimeSum - (q.lastUpdateTime - p.enqueueTime - q.pauseTimeSum)
    enqueueTimes := q.enqueueTimes.filter fun e => e.1 ≠ p.handle }

def dequeueFront (ssrc : Ssrc) (level : PrioLevel) (p : QueuedPacket) : PrioritizedPacketQueue :=
  (q.setStream ssrc ((q.stream ssrc).dequeuePacket p level)).dequeuePacketInternal p

def purgeStream (level : PrioLevel) (now ttl : Int) (ssrc : Ssrc) :
    List QueuedPacket → PrioritizedPacketQueue → PrioritizedPacketQueue
  | [], q => q
  | p :: ps, q =>
    if now - p.enqueueTime > ttl then
      let q := q.dequeueFront ssrc level p
      purgeStream level now ttl ssrc ps { q with dropped := q.dropped ++ [⟨p, level, now⟩] }
    else q

def purgeStreams (level : PrioLevel) (now ttl : Int) :
    List Ssrc → PrioritizedPacketQueue → List Ssrc × PrioritizedPacketQueue
  | [], q => ([], q)
  | ssrc :: ssrcs, q =>
    let q := purgeStream level now ttl ssrc ((q.stream ssrc).packets level) q
    let (rest, q') := purgeStreams level now ttl ssrcs q
    (if (q.stream ssrc).hasPacketsAtPrio level then ssrc :: rest else rest, q')

def purgeOldPacketsAtPriorityLevel (level : PrioLevel) (now : Int) : PrioritizedPacketQueue :=
  match q.timeToLivePerPrio level with
  | none => q
  | some ttl =>
    let (ssrcs, q) := purgeStreams level now ttl (q.streamsByPrio level) q
    q.setStreamsByPrio level ssrcs

def findTopPrioLevel : List PrioLevel → PrioritizedPacketQueue → PrioritizedPacketQueue
  | [], q => q
  | level :: levels, q =>
    let q := q.purgeOldPacketsAtPriorityLevel level q.lastUpdateTime
    if q.streamsByPrio level ≠ [] then { q with topActivePrioLevel := some level }
    else findTopPrioLevel levels q

def maybeUpdateTopPrioLevel : PrioritizedPacketQueue :=
  match q.topActivePrioLevel with
  | some top => if q.streamsByPrio top ≠ [] then q else search
  | none => search
where
  search : PrioritizedPacketQueue :=
    let q := findTopPrioLevel (List.finRange 5) q
    if q.sizePackets = 0 then { q with topActivePrioLevel := none } else q

/-- `UpdateAverageQueueTime`, which is not called with a time before the last. -/
def updateAverageQueueTime (now : Int) : PrioritizedPacketQueue :=
  if now = q.lastUpdateTime then q
  else
    let delta := now - q.lastUpdateTime
    if q.paused then { q with pauseTimeSum := q.pauseTimeSum + delta, lastUpdateTime := now }
    else
      { q with queueTimeSum := q.queueTimeSum + delta * q.sizePackets, lastUpdateTime := now }

def setPauseState (paused : Bool) (now : Int) : PrioritizedPacketQueue :=
  { q.updateAverageQueueTime now with paused := paused }

/-- The culling at the end of `Push`: empty streams that were created more than
half a second ago go, at most every half second. -/
def cull (now : Int) : PrioritizedPacketQueue :=
  if now - q.lastCullingTime > 500000 then
    { q with
      streams := q.streams.filterKeys fun ssrc =>
        !((q.stream ssrc).isEmpty && decide ((q.stream ssrc).lastEnqueueTime + 500000 < now))
      lastCullingTime := now }
  else q

def raiseTopPrioLevel (level : PrioLevel) : PrioritizedPacketQueue :=
  match q.topActivePrioLevel with
  | some top => if level < top then { q with topActivePrioLevel := some level } else q
  | none => { q with topActivePrioLevel := some level }

def enqueue (enqueueTime : Int) (packet : RtpPacketToSend) (level : PrioLevel) (handle : Nat) :
    PrioritizedPacketQueue :=
  let s := q.stream packet.ssrc
  let queued : QueuedPacket := ⟨packet, enqueueTime - q.pauseTimeSum, handle⟩
  let q :=
    { q with
      sizePackets := q.sizePackets + 1
      sizePacketsPerMediaType := update q.sizePacketsPerMediaType packet.packetType
        (q.sizePacketsPerMediaType packet.packetType + 1)
      sizePayload := q.sizePayload + packet.packetSize }
  let q := q.setStream packet.ssrc (s.enqueuePacket queued level)
  let q :=
    if s.hasPacketsAtPrio level then q
    else q.setStreamsByPrio level (q.streamsByPrio level ++ [packet.ssrc])
  q.raiseTopPrioLevel level

def push (enqueueTime : Int) (packet : RtpPacketToSend) : PrioritizedPacketQueue :=
  let q :=
    if q.streams.contains packet.ssrc then q
    else q.setStream packet.ssrc (StreamQueue.new enqueueTime)
  let handle := q.nextHandle
  let q :=
    { q with enqueueTimes := q.enqueueTimes ++ [(handle, enqueueTime)], nextHandle := handle + 1 }
  let level := q.prioLevel packet
  let q := q.purgeOldPacketsAtPriorityLevel level enqueueTime
  let q := q.updateAverageQueueTime enqueueTime
  (q.enqueue enqueueTime packet level handle).cull enqueueTime

def pop : Option RtpPacketToSend × PrioritizedPacketQueue :=
  if q.sizePackets = 0 then (none, q)
  else
    match q.topActivePrioLevel with
    | none => (none, q)
    | some top =>
      match q.streamsByPrio top with
      | [] => (none, q)
      | ssrc :: rest =>
        match (q.stream ssrc).packets top with
        | [] => (none, q)
        | p :: _ =>
          let q := q.dequeueFront ssrc top p
          if (q.stream ssrc).hasPacketsAtPrio top then
            (some p.packet, q.setStreamsByPrio top (rest ++ [ssrc]))
          else (some p.packet, (q.setStreamsByPrio top rest).maybeUpdateTopPrioLevel)

/-- The loop of `RemovePacketsForSsrc` over the packets of one level, which have
been taken out of the stream already. -/
def dequeueAllInternal (ps : List QueuedPacket) : PrioritizedPacketQueue :=
  ps.foldl dequeuePacketInternal q

def removeAtLevels (ssrc : Ssrc) (packets : PrioLevel → List QueuedPacket) :
    List PrioLevel → PrioritizedPacketQueue → PrioritizedPacketQueue
  | [], q => q
  | level :: levels, q =>
    if packets level = [] then removeAtLevels ssrc packets levels q
    else
      let q := q.dequeueAllInternal (packets level)
      let ssrcs := q.streamsByPrio level
      removeAtLevels ssrc packets levels
        (q.setStreamsByPrio level
          (if ssrcs.length = 1 then ssrcs.tail else ssrcs.filter fun x => x ≠ ssrc))

def removePacketsForSsrc (ssrc : Ssrc) : PrioritizedPacketQueue :=
  (match q.streams.find? ssrc with
    | none => q
    | some s =>
      -- `DequeueAll` empties the stream at once.
      let emptied := { s with packets := fun _ => [], numKeyframePackets := 0 }
      removeAtLevels ssrc s.packets (List.finRange 5)
        (q.setStream ssrc emptied)).maybeUpdateTopPrioLevel

/-- `OldestEnqueueTime`; `MinusInfinity()` is `none`. -/
def oldestEnqueueTime : Option Int := q.enqueueTimes.head?.map Prod.snd

end PrioritizedPacketQueue

end WebRtc.Pacing
