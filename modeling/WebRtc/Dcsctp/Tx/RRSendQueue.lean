import WebRtc.Dcsctp.Tx.SendQueue

/-!
# dcSCTP — the send queue and its stream scheduler

`tx/rr_send_queue.cc` and `tx/stream_scheduler.cc`. An outgoing stream of the source
refers back to its parent queue and to the scheduler, so its methods are functions of
the whole queue and of a stream identifier here. Virtual times are exact rationals.
-/

namespace WebRtc.Dcsctp

open Lib

structure ThresholdWatcher where
  value : Nat := 0
  lowThreshold : Nat := 0
deriving DecidableEq

namespace ThresholdWatcher

def increase (w : ThresholdWatcher) (bytes : Nat) : ThresholdWatcher :=
  { w with value := w.value + bytes }

/-- The second component says whether `on_threshold_reached` is called. -/
def decrease (w : ThresholdWatcher) (bytes : Nat) : ThresholdWatcher × Bool :=
  ({ w with value := w.value - bytes },
    decide (w.lowThreshold < w.value ∧ w.value - bytes ≤ w.lowThreshold))

def setLowThreshold (w : ThresholdWatcher) (lowThreshold : Nat) : ThresholdWatcher × Bool :=
  ({ w with lowThreshold := lowThreshold },
    decide (w.lowThreshold < w.value ∧ w.value ≤ lowThreshold))

end ThresholdWatcher

structure MessageAttributes where
  unordered : Bool
  maxRetransmissions : MaxRetransmits
  expiresAt : Option Timestamp
  lifecycleId : LifecycleId
deriving DecidableEq

structure Item where
  messageId : OutgoingMessageId
  message : DcSctpMessage
  attributes : MessageAttributes
  remainingOffset : Nat
  remainingSize : Nat
  mid : Option MID
  ssn : Option SSN
  currentFsn : FSN
deriving DecidableEq

def Item.new (messageId : OutgoingMessageId) (message : DcSctpMessage)
    (attributes : MessageAttributes) : Item :=
  ⟨messageId, message, attributes, 0, message.payload.length, none, none, 0⟩

inductive PauseState where
  | notPaused
  | pending
  | paused
  | resetting
deriving DecidableEq

structure SchedulerStream where
  priority : Nat
  currentVirtualTime : ℚ := 0
  nextFinishTime : ℚ := 0

def SchedulerStream.inverseWeight (s : SchedulerStream) : ℚ :=
  1 / max (s.priority : ℚ) (1 / 1000000)

structure OutgoingStream where
  schedulerStream : SchedulerStream
  pauseState : PauseState := .notPaused
  nextUnorderedMid : MID := 0
  nextOrderedMid : MID := 0
  nextSsn : SSN := 0
  items : List Item := []
  bufferedAmount : ThresholdWatcher := {}

/-- `StreamScheduler`; an active stream is filed under its finish time and identifier. -/
structure StreamScheduler where
  maxPayloadBytes : Nat
  virtualTime : ℚ := 0
  currentStream : Option StreamID := none
  enableMessageInterleaving : Bool := false
  currentlySendingAMessage : Bool := false
  activeStreams : OrdSet (ℚ ×ₗ StreamID) := OrdMap.empty

/-- `RRSendQueue`; `callbacks` are the ones raised so far. -/
structure RRSendQueue where
  defaultPriority : Nat
  currentMessageId : OutgoingMessageId := 0
  scheduler : StreamScheduler
  totalBufferedAmount : ThresholdWatcher := {}
  streams : OrdMap StreamID OutgoingStream := OrdMap.empty
  callbacks : List SendCallback := []

variable (s : OutgoingStream)

variable (item : Item)

namespace OutgoingStream

def new (priority : Nat) : OutgoingStream := { schedulerStream := { priority := priority } }

def bytesToSendInNextMessage : Nat :=
  if s.pauseState = .paused ∨ s.pauseState = .resetting then 0
  else match s.items with
    | [] => 0
    | item :: _ => item.remainingSize

def isReadyToBeReset : Bool := s.pauseState = .paused

def isResetting : Bool := s.pauseState = .resetting

def allocateNumbers : OutgoingStream × Item :=
  let (s, item) :=
    if item.mid.isNone then
      if item.attributes.unordered then
        ({ s with nextUnorderedMid := s.nextUnorderedMid + 1 },
          { item with mid := some s.nextUnorderedMid })
      else
        ({ s with nextOrderedMid := s.nextOrderedMid + 1 },
          { item with mid := some s.nextOrderedMid })
    else (s, item)
  if item.attributes.unordered = false ∧ item.ssn.isNone then
    ({ s with nextSsn := s.nextSsn + 1 }, { item with ssn := some s.nextSsn })
  else (s, item)

end OutgoingStream

namespace Item

def chunkPayload (maxSize : Nat) : List UInt8 :=
  (item.message.payload.drop item.remainingOffset).take maxSize

/-- Whether the fragment begins where the payload does. The source compares pointers, and an
empty view has none. -/
def isBeginning (maxSize : Nat) : Bool :=
  if item.chunkPayload maxSize = [] then item.message.payload = [] else item.remainingOffset = 0

def isEnd (maxSize : Nat) : Bool :=
  if item.chunkPayload maxSize = [] then item.message.payload = []
  else item.remainingOffset + (item.chunkPayload maxSize).length = item.message.payload.length

def dataToSend (maxSize : Nat) : DataToSend where
  messageId := item.messageId
  data :=
    { streamId := item.message.streamId
      ssn := item.ssn.getD 0
      mid := item.mid.getD 0
      fsn := item.currentFsn
      ppid := item.message.ppid
      payload := item.chunkPayload maxSize
      isBeginning := item.isBeginning maxSize
      isEnd := item.isEnd maxSize
      isUnordered := item.attributes.unordered }
  maxRetransmissions := item.attributes.maxRetransmissions
  expiresAt := item.attributes.expiresAt
  lifecycleId := if item.isEnd maxSize then item.attributes.lifecycleId else 0

def advance (maxSize : Nat) : Item :=
  { item with
    currentFsn := item.currentFsn + 1
    remainingOffset := item.remainingOffset + (item.chunkPayload maxSize).length
    remainingSize := item.remainingSize - (item.chunkPayload maxSize).length }

end Item

namespace OutgoingStream

def sendFragment (maxSize : Nat) (item : Item) (rest : List Item) :
    DataToSend × OutgoingStream :=
  let (s, item) := s.allocateNumbers item
  (item.dataToSend maxSize,
    if item.isEnd maxSize then
      { s with
        items := rest
        pauseState := if s.pauseState = .pending then .paused else s.pauseState }
    else { s with items := item.advance maxSize :: rest })

end OutgoingStream

namespace RRSendQueue

/-- The queue of a socket; the scheduler keeps room for the packet header (12 bytes) and the
I-DATA header (20 bytes). -/
def new (mtu defaultPriority totalBufferedAmountLowThreshold : Nat) : RRSendQueue where
  defaultPriority := defaultPriority
  scheduler := { maxPayloadBytes := mtu - 12 - 20 }
  totalBufferedAmount := { lowThreshold := totalBufferedAmountLowThreshold }

variable (q : RRSendQueue)

variable (sid : StreamID)

/-- The stream, or what it would be created as. -/
def stream : OutgoingStream :=
  (q.streams.find? sid).getD (.new q.defaultPriority)

def setStream (s : OutgoingStream) : RRSendQueue :=
  { q with streams := q.streams.insert sid s }

def getOrCreateStreamInfo : RRSendQueue :=
  q.setStream sid (q.stream sid)

/-! ## The scheduler's view of a stream -/

def calculateFinishTime (s : SchedulerStream) (bytesToSendNext : Nat) : ℚ :=
  if q.scheduler.enableMessageInterleaving then
    s.currentVirtualTime + bytesToSendNext * s.inverseWeight
  else s.currentVirtualTime + 1

def makeActive (bytesToSendNext : Nat) : RRSendQueue :=
  let s := q.stream sid
  let started := { s.schedulerStream with currentVirtualTime := q.scheduler.virtualTime }
  let finish := q.calculateFinishTime started (min bytesToSendNext q.scheduler.maxPayloadBytes)
  { q.setStream sid { s with schedulerStream := { started with nextFinishTime := finish } } with
    scheduler := { q.scheduler with
      activeStreams := q.scheduler.activeStreams.insert (toLex (finish, sid)) () } }

def maybeMakeActive : RRSendQueue :=
  if (q.stream sid).bytesToSendInNextMessage = 0 then q
  else q.makeActive sid (q.stream sid).bytesToSendInNextMessage

def forceMarkInactive : RRSendQueue :=
  let s := q.stream sid
  q.setStream sid { s with schedulerStream := { s.schedulerStream with nextFinishTime := 0 } }

def makeInactive : RRSendQueue :=
  { q.forceMarkInactive sid with
    scheduler := { q.scheduler with
      activeStreams := q.scheduler.activeStreams.filterKeys fun k => (ofLex k).2 ≠ sid } }

def forceReschedule : RRSendQueue :=
  { q with scheduler := { q.scheduler with currentlySendingAMessage := false } }

/-! ## Outgoing streams -/

def decreaseBufferedAmount (bytes : Nat) : RRSendQueue :=
  let s := q.stream sid
  let (streamAmount, streamLow) := s.bufferedAmount.decrease bytes
  let (totalAmount, totalLow) := q.totalBufferedAmount.decrease bytes
  { q.setStream sid { s with bufferedAmount := streamAmount } with
    totalBufferedAmount := totalAmount
    callbacks := q.callbacks ++ (if streamLow then [.onBufferedAmountLow sid] else []) ++
      (if totalLow then [.onTotalBufferedAmountLow] else []) }

def increaseBufferedAmount (bytes : Nat) : RRSendQueue :=
  let s := q.stream sid
  { q.setStream sid { s with bufferedAmount := s.bufferedAmount.increase bytes } with
    totalBufferedAmount := q.totalBufferedAmount.increase bytes }

def setItems (items : List Item) : RRSendQueue :=
  q.setStream sid { q.stream sid with items := items }

def streamAdd (message : DcSctpMessage) (attributes : MessageAttributes) : RRSendQueue :=
  let wasActive := decide (0 < (q.stream sid).bytesToSendInNextMessage)
  let item := Item.new q.currentMessageId message attributes
  let q := q.increaseBufferedAmount sid message.payload.length
  let q := { q with currentMessageId := q.currentMessageId + 1 }
  let q := q.setItems sid ((q.stream sid).items ++ [item])
  if wasActive then q else q.maybeMakeActive sid

def handleMessageExpired (item : Item) : RRSendQueue :=
  let q := q.decreaseBufferedAmount sid item.remainingSize
  if item.attributes.lifecycleId ≠ 0 then
    { q with callbacks := q.callbacks ++
        [.onLifecycleMessageExpired item.attributes.lifecycleId false,
          .onLifecycleEnd item.attributes.lifecycleId] }
  else q

def produceItem (maxSize : Nat) (item : Item) (rest : List Item) : DataToSend × RRSendQueue :=
  let (data, s) := (q.stream sid).sendFragment maxSize item rest
  (data, (q.setStream sid s).decreaseBufferedAmount sid data.data.size)

/-- The loop of `OutgoingStream::Produce`: messages that expired before their first fragment
are dropped. -/
def produceLoop (now : Timestamp) (maxSize : Nat) (sid : StreamID) :
    List Item → RRSendQueue → Option DataToSend × RRSendQueue
  | [], q => (none, q)
  | item :: rest, q =>
    if item.mid.isNone ∧ isReached item.attributes.expiresAt now then
      produceLoop now maxSize sid rest ((q.handleMessageExpired sid item).setItems sid rest)
    else
      let (data, q) := q.produceItem sid maxSize item rest
      (some data, q)

def streamProduce (now : Timestamp) (maxSize : Nat) :
    Option DataToSend × RRSendQueue :=
  produceLoop now maxSize sid (q.stream sid).items q

def streamDiscard (messageId : OutgoingMessageId) :
    Bool × RRSendQueue :=
  match (q.stream sid).items with
  | [] => (false, q)
  | item :: rest =>
    if item.messageId = messageId then
      let q := ((q.handleMessageExpired sid item).setItems sid rest).forceReschedule
      if (q.stream sid).pauseState = .pending then
        (true, (q.setStream sid { q.stream sid with pauseState := .paused }).makeInactive sid)
      else if (q.stream sid).bytesToSendInNextMessage = 0 then (true, q.makeInactive sid)
      else (true, q)
    else (false, q)

/-- `OutgoingStream::Pause`: all messages that have not been sent in part are abandoned. -/
def streamPause : RRSendQueue :=
  if (q.stream sid).pauseState ≠ .notPaused then q
  else
    let items := (q.stream sid).items
    let kept := items.filter fun item => item.remainingOffset ≠ 0
    let q := (items.filter fun item => item.remainingOffset = 0).foldl
      (fun q item => q.handleMessageExpired sid item) q
    let pauseState := match kept with
      | [] => PauseState.paused
      | item :: _ => if item.remainingOffset = 0 then .paused else .pending
    let q := q.setStream sid { q.stream sid with items := kept, pauseState := pauseState }
    if items ≠ [] ∧ pauseState = .paused then q.makeInactive sid else q

def streamResume : RRSendQueue :=
  (q.setStream sid { q.stream sid with pauseState := .notPaused }).maybeMakeActive sid

/-- `OutgoingStream::Reset`: a message that was sent in part will be sent again. -/
def streamReset : RRSendQueue :=
  let s := q.stream sid
  let q := q.setStream sid
    { s with pauseState := .notPaused, nextOrderedMid := 0, nextUnorderedMid := 0, nextSsn := 0 }
  match s.items with
  | [] => q
  | item :: rest =>
    let q := q.increaseBufferedAmount sid (item.message.payload.length - item.remainingSize)
    let q := q.setItems sid
      ({ item with
          remainingOffset := 0, remainingSize := item.message.payload.length,
          mid := none, ssn := none, currentFsn := 0 } :: rest)
    if s.pauseState = .paused ∨ s.pauseState = .resetting then q.maybeMakeActive sid else q

/-! ## The scheduler -/

def schedulerStreamProduce (now : Timestamp) (maxSize : Nat) :
    Option DataToSend × RRSendQueue :=
  match q.streamProduce sid now maxSize with
  | (none, q) => (none, q)
  | (some data, q) =>
    let s := q.stream sid
    let time := q.calculateFinishTime s.schedulerStream data.data.size
    (some data, q.setStream sid
      { s with schedulerStream := { s.schedulerStream with currentVirtualTime := time } })

def reschedule (key : ℚ ×ₗ StreamID) : RRSendQueue :=
  { q.forceMarkInactive (ofLex key).2 with
    scheduler := { q.scheduler with
      currentStream := some (ofLex key).2
      activeStreams := q.scheduler.activeStreams.erase key } }

/-- The loop of `StreamScheduler::Produce`. The result is missing when the fuel runs out. -/
def schedulerLoop (now : Timestamp) (maxSize : Nat) (rescheduling : Bool) :
    Nat → RRSendQueue → Option (Option (StreamID × DataToSend)) × RRSendQueue
  | 0, q => (none, q)
  | fuel + 1, q =>
    match q.scheduler.activeStreams.front? with
    | none => (some none, q)
    | some (key, _) =>
      let q := if rescheduling then q.reschedule key else q
      match q.scheduler.currentStream with
      | none => (some none, q)
      | some sid =>
        match q.schedulerStreamProduce sid now maxSize with
        | (some data, q) => (some (some (sid, data)), q)
        | (none, q) => schedulerLoop now maxSize rescheduling fuel q

def noteProduced (rescheduling : Bool) (sid : StreamID) (data : Data) :
    RRSendQueue :=
  let q := { q with scheduler := { q.scheduler with
    currentlySendingAMessage := !data.isEnd
    virtualTime := (q.stream sid).schedulerStream.currentVirtualTime } }
  let bytesToSendNext := (q.stream sid).bytesToSendInNextMessage
  if rescheduling ∧ 0 < bytesToSendNext then q.makeActive sid bytesToSendNext
  else if !rescheduling ∧ bytesToSendNext = 0 then q.makeInactive sid
  else q

/-- Without message interleaving, a message is sent in full before another stream's turn. -/
def rescheduling : Bool :=
  q.scheduler.enableMessageInterleaving || !q.scheduler.currentlySendingAMessage

def produce (now : Timestamp) (maxSize : Nat) :
    Option DataToSend × RRSendQueue :=
  match schedulerLoop now maxSize q.rescheduling (q.scheduler.activeStreams.size + 1) q with
  | (some (some (sid, data)), q') => (some data, q'.noteProduced q.rescheduling sid data.data)
  | (_, q') => (none, q')

/-! ## The queue -/

/-- `RRSendQueue::Add`. A message is alive during its whole lifetime, hence the millisecond. -/
def add (now : Timestamp) (message : DcSctpMessage) (sendOptions : SendOptions) :
    RRSendQueue :=
  q.streamAdd message.streamId message
    { unordered := sendOptions.unordered
      maxRetransmissions := match sendOptions.maxRetransmissions with
        | some n => BitVec.ofNat 16 n
        | none => MaxRetransmits.noLimit
      expiresAt := sendOptions.lifetime.map fun lifetime => now + 1000 * lifetime + 1000
      lifecycleId := sendOptions.lifecycleId }

def isEmpty : Bool := q.totalBufferedAmount.value = 0

def discard (messageId : OutgoingMessageId) :
    Bool × RRSendQueue := (q.getOrCreateStreamInfo sid).streamDiscard sid messageId

def prepareResetStream : RRSendQueue :=
  (q.getOrCreateStreamInfo sid).streamPause sid

def hasStreamsReadyToBeReset : Bool :=
  q.streams.entries.any fun p => p.2.isReadyToBeReset

def getStreamsReadyToBeReset : List StreamID × RRSendQueue :=
  ((q.streams.entries.filter fun p => p.2.isReadyToBeReset).map Prod.fst,
    { q with streams := q.streams.mapVal fun _ s =>
        if s.isReadyToBeReset then { s with pauseState := .resetting } else s })

def forResetting (f : RRSendQueue → StreamID → RRSendQueue) (q : RRSendQueue) : RRSendQueue :=
  q.streams.keys.foldl (fun q sid => if (q.stream sid).isResetting then f q sid else q) q

def commitResetStreams : RRSendQueue := q.forResetting streamReset

def rollbackResetStreams : RRSendQueue := q.forResetting streamResume

def reset : RRSendQueue := (q.streams.keys.foldl streamReset q).forceReschedule

def bufferedAmount (q : RRSendQueue) (sid : StreamID) : Nat := (q.stream sid).bufferedAmount.value

def setBufferedAmountLowThreshold (bytes : Nat) :
    RRSendQueue :=
  let (amount, low) := (q.stream sid).bufferedAmount.setLowThreshold bytes
  { q.setStream sid { q.stream sid with bufferedAmount := amount } with
    callbacks := q.callbacks ++ if low then [.onBufferedAmountLow sid] else [] }

def setStreamPriority (priority : Nat) : RRSendQueue :=
  let s := q.stream sid
  q.setStream sid { s with schedulerStream := { s.schedulerStream with priority := priority } }

def enableMessageInterleaving (q : RRSendQueue) (enabled : Bool) : RRSendQueue :=
  { q with scheduler := { q.scheduler with enableMessageInterleaving := enabled } }

instance : SendQueue RRSendQueue where
  produce := produce
  discard := discard
  prepareResetStream := prepareResetStream
  hasStreamsReadyToBeReset := hasStreamsReadyToBeReset
  getStreamsReadyToBeReset := getStreamsReadyToBeReset
  commitResetStreams := commitResetStreams
  rollbackResetStreams := rollbackResetStreams

end RRSendQueue

end WebRtc.Dcsctp
