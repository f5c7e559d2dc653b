import WebRtc.Dcsctp.Packet.Chunks
import WebRtc.Dcsctp.Tx.SendQueue
import WebRtc.Lib.Tally

/-!
# dcSCTP — OutstandingData

The model of `tx/outstanding_data.{h,cc}`. An item is referred to by its unwrapped TSN. `fault`
records what the source leaves undefined: a TSN handed to `GetItem` that is not in the deque, a
counter that would be decreased below zero, or a deque that grows while `ExpireOutstandingChunks`
iterates over it, which `iteratorsLost` records on its own. The operations that may call the send queue take
`discard` and pass its state `σ` along.
-/

namespace WebRtc.Dcsctp

open Lib Numerics

/-! ## Items -/

inductive Lifecycle where
  | active
  | toBeRetransmitted
  | abandoned
deriving DecidableEq

inductive ItemAckState where
  | unacked
  | acked
  | nacked
deriving DecidableEq

inductive NackAction where
  | nothing
  | retransmit
  | abandon
deriving DecidableEq

structure OutstandingData.Item where
  messageId : OutgoingMessageId
  data : Data
  timeSent : Timestamp
  maxRetransmissions : MaxRetransmits
  expiresAt : Option Timestamp
  lifecycleId : LifecycleId
  lifecycle : Lifecycle := .active
  ackState : ItemAckState := .unacked
  nackCount : BitVec 8 := 0
  numRetransmissions : BitVec 16 := 0
deriving DecidableEq

structure AckInfo where
  bytesAcked : Nat := 0
  hasPacketLoss : Bool := false
  highestTsnAcked : Int
  ackedLifecycleIds : List LifecycleId := []
  abandonedLifecycleIds : List LifecycleId := []
deriving DecidableEq

structure OutstandingData where
  dataChunkHeaderSize : Nat
  lastCumulativeTsnAck : Int
  outstandingData : List OutstandingData.Item := []
  unackedPayloadBytes : Nat := 0
  unackedPacketBytes : Nat := 0
  unackedItems : Nat := 0
  toBeFastRetransmitted : OrdSet Int := OrdMap.empty
  toBeRetransmitted : OrdSet Int := OrdMap.empty
  streamResetBreakpointTsns : OrdSet Int := OrdMap.empty
  fault : Bool := false
  iteratorsLost : Bool := false
deriving DecidableEq

namespace OutstandingData

def kNumberOfNacksForRetransmission : BitVec 8 := 3

namespace Item

variable (i : Item)

def isOutstanding : Bool := i.ackState = .unacked

def isAcked : Bool := i.ackState = .acked

def isNacked : Bool := i.ackState = .nacked

def isAbandoned : Bool := i.lifecycle = .abandoned

def shouldBeRetransmitted : Bool := i.lifecycle = .toBeRetransmitted

def hasBeenRetransmitted : Bool := decide (0 < i.numRetransmissions)

def hasExpired (now : Timestamp) : Bool := isReached i.expiresAt now

def ack : Item :=
  { i with
    lifecycle := if i.isAbandoned then i.lifecycle else .active
    ackState := .acked }

def abandon : Item := { i with lifecycle := .abandoned }

def nack (retransmitNow : Bool) : Item × NackAction :=
  let i := { i with ackState := .nacked, nackCount := i.nackCount + 1 }
  if !i.shouldBeRetransmitted && !i.isAbandoned &&
      (retransmitNow || decide (kNumberOfNacksForRetransmission ≤ i.nackCount)) then
    if i.numRetransmissions < i.maxRetransmissions then
      ({ i with lifecycle := .toBeRetransmitted }, .retransmit)
    else (i.abandon, .abandon)
  else (i, .nothing)

def markAsRetransmitted : Item :=
  { i with
    lifecycle := .active
    ackState := .unacked
    nackCount := 0
    numRetransmissions := i.numRetransmissions + 1 }

def sameMessage (i other : Item) : Bool :=
  decide (other.data.streamId = i.data.streamId) && decide (other.messageId = i.messageId)

def unsentEnd : Item where
  messageId := i.messageId
  data := { i.data with payload := [], isBeginning := false, isEnd := true }
  timeSent := 0
  maxRetransmissions := 0
  expiresAt := none
  lifecycleId := 0

end Item

/-! ## Access -/

variable (o : OutstandingData)

def getSerializedChunkSize (d : Data) : Nat :=
  roundUpTo4 (o.dataChunkHeaderSize + d.size)

def empty : Bool := o.outstandingData.isEmpty

def hasDataToBeFastRetransmitted : Bool := !o.toBeFastRetransmitted.isEmpty

def hasDataToBeRetransmitted : Bool :=
  !o.toBeRetransmitted.isEmpty || !o.toBeFastRetransmitted.isEmpty

def highestOutstandingTsn : Int :=
  o.lastCumulativeTsnAck + o.outstandingData.length

def nextTsn : Int := o.highestOutstandingTsn + 1

def tsnRange (first last : Int) : List Int :=
  (List.range (last + 1 - first).toNat).map fun k : Nat => first + k

def tsns : List Int :=
  tsnRange (o.lastCumulativeTsnAck + 1) o.highestOutstandingTsn

def indexOf (tsn : Int) : Nat := (tsn - o.lastCumulativeTsnAck - 1).toNat

/-- `GetItem`, and nothing where its assertions do not hold. -/
def getItem (tsn : Int) : Option Item :=
  if o.lastCumulativeTsnAck < tsn then o.outstandingData[o.indexOf tsn]? else none

def setItem (tsn : Int) (i : Item) : OutstandingData :=
  { o with outstandingData := o.outstandingData.set (o.indexOf tsn) i }

def setFault : OutstandingData := { o with fault := true }

/-- An element was appended to the deque while it was iterated over. -/
def loseIterators : OutstandingData := { o with fault := true, iteratorsLost := true }

def enterFlight (d : Data) : OutstandingData :=
  { o with
    unackedPayloadBytes := o.unackedPayloadBytes + d.size
    unackedPacketBytes := o.unackedPacketBytes + o.getSerializedChunkSize d
    unackedItems := o.unackedItems + 1 }

def leaveFlight (d : Data) : OutstandingData :=
  { o with
    unackedPayloadBytes := o.unackedPayloadBytes - d.size
    unackedPacketBytes := o.unackedPacketBytes - o.getSerializedChunkSize d
    unackedItems := o.unackedItems - 1
    fault := o.fault || decide (o.unackedPayloadBytes < d.size) ||
      decide (o.unackedPacketBytes < o.getSerializedChunkSize d) || decide (o.unackedItems < 1) }

def settle (i : Item) : OutstandingData :=
  if i.isOutstanding then o.leaveFlight i.data else o

def inFlight (w : Item → Nat) (items : List Item) : Nat :=
  tally Item.isOutstanding w items

def isConsistent : Bool :=
  let marked := o.tsns.filter fun tsn => (o.getItem tsn).any Item.shouldBeRetransmitted
  decide (inFlight (fun i => i.data.size) o.outstandingData = o.unackedPayloadBytes) &&
  decide (inFlight (fun i => o.getSerializedChunkSize i.data) o.outstandingData =
    o.unackedPacketBytes) &&
  decide (inFlight (fun _ => 1) o.outstandingData = o.unackedItems) &&
  (marked.all fun tsn => o.toBeRetransmitted.contains tsn || o.toBeFastRetransmitted.contains tsn) &&
  ((o.toBeRetransmitted.keys ++ o.toBeFastRetransmitted.keys).all fun tsn => decide (tsn ∈ marked))

/-! ## Handling a SACK -/

def ackChunk (info : AckInfo) (tsn : Int) (i : Item) :
    OutstandingData × AckInfo :=
  if i.isAcked then (o, info)
  else
    let o := o.settle i
    let o := { o with
      toBeRetransmitted :=
        if i.shouldBeRetransmitted then o.toBeRetransmitted.erase tsn else o.toBeRetransmitted }
    (o.setItem tsn i.ack,
     { info with
       bytesAcked := info.bytesAcked + o.getSerializedChunkSize i.data
       highestTsnAcked := max info.highestTsnAcked tsn })

def noteLifecycle (info : AckInfo) (i : Item) : AckInfo :=
  if i.lifecycleId = 0 then info
  else if i.isAbandoned then
    { info with abandonedLifecycleIds := info.abandonedLifecycleIds ++ [i.lifecycleId] }
  else { info with ackedLifecycleIds := info.ackedLifecycleIds ++ [i.lifecycleId] }

def popFront : OutstandingData :=
  { o with
    outstandingData := o.outstandingData.tail
    lastCumulativeTsnAck := o.lastCumulativeTsnAck + 1 }

def removeAckedLoop (cumulativeTsnAck : Int) :
    Nat → OutstandingData → AckInfo → OutstandingData × AckInfo
  | 0, o, info => (o, info)
  | rounds + 1, o, info =>
    match o.outstandingData with
    | [] => (o, info)
    | i :: _ =>
      if o.lastCumulativeTsnAck < cumulativeTsnAck then
        let (o, info) := o.ackChunk info (o.lastCumulativeTsnAck + 1) i
        removeAckedLoop cumulativeTsnAck rounds o.popFront (noteLifecycle info i)
      else (o, info)

def removeAcked (cumulativeTsnAck : Int) (info : AckInfo) :
    OutstandingData × AckInfo :=
  let (o, info) := removeAckedLoop cumulativeTsnAck o.outstandingData.length o info
  ({ o with
     streamResetBreakpointTsns := o.streamResetBreakpointTsns.eraseTo (cumulativeTsnAck + 1) },
   info)

def ackInBlock (s : OutstandingData × AckInfo) (tsn : Int) : OutstandingData × AckInfo :=
  if s.1.lastCumulativeTsnAck < tsn && decide (tsn < s.1.nextTsn) then
    match s.1.getItem tsn with
    | none => (s.1.setFault, s.2)
    | some i => s.1.ackChunk s.2 tsn i
  else s

def ackGapBlocks (cumulativeTsnAck : Int) (blocks : List GapAckBlock)
    (info : AckInfo) : OutstandingData × AckInfo :=
  blocks.foldl
    (fun s b => (tsnRange (cumulativeTsnAck + b.start.toNat)
      (cumulativeTsnAck + b.end_.toNat)).foldl ackInBlock s)
    (o, info)

section Discard

variable {σ : Type} (discard : σ → StreamID → OutgoingMessageId → Bool × σ)

inductive Retransmission where
  | fast
  | normal
deriving DecidableEq

def mark (tsn : Int) : Retransmission → OutstandingData
  | .fast => { o with toBeFastRetransmitted := o.toBeFastRetransmitted.insert tsn () }
  | .normal => { o with toBeRetransmitted := o.toBeRetransmitted.insert tsn () }

def unmark (tsn : Int) : OutstandingData :=
  { o with
    toBeFastRetransmitted := o.toBeFastRetransmitted.erase tsn
    toBeRetransmitted := o.toBeRetransmitted.erase tsn }

def abandonIfSame (i : Item) (o : OutstandingData) (tsn : Int) : OutstandingData :=
  match o.getItem tsn with
  | none => o
  | some other =>
    if !other.isAbandoned && i.sameMessage other then
      let o := if other.shouldBeRetransmitted then o.unmark tsn else o
      o.setItem tsn other.abandon
    else o

def emplaceBack (i : Item) : OutstandingData :=
  { o with outstandingData := o.outstandingData ++ [i] }

def abandonAllFor (i : Item) (q : σ) : OutstandingData × σ :=
  let (discarded, q) := discard q i.data.streamId i.messageId
  let o := if discarded then o.emplaceBack i.unsentEnd.ack else o
  (o.tsns.foldl (abandonIfSame i) o, q)

def nackItem (tsn : Int) (retransmitNow doFastRetransmit : Bool) (o : OutstandingData) (q : σ) :
    Bool × OutstandingData × σ :=
  match o.getItem tsn with
  | none => (false, o.setFault, q)
  | some i =>
    let (i', action) := i.nack retransmitNow
    let o := (o.settle i).setItem tsn i'
    match action with
    | .nothing => (false, o, q)
    | .retransmit =>
      (true, o.mark tsn (if doFastRetransmit then .fast else .normal), q)
    | .abandon => (true, o.abandonAllFor discard i' q)

def nackMissing (isInFastRecovery : Bool) (s : Bool × OutstandingData × σ) (tsn : Int) :
    Bool × OutstandingData × σ :=
  let (lost, o, q) := nackItem discard tsn false (!isInFastRecovery) s.2.1 s.2.2
  (s.1 || lost, o, q)

def nackBefore (isInFastRecovery : Bool) (cumulativeTsnAck maxTsnToNack : Int) :
    (prevBlockLastAcked : Int) → List GapAckBlock → Bool × OutstandingData × σ →
      Bool × OutstandingData × σ
  | _, [], s => s
  | prev, b :: rest, s =>
    let curBlockFirstAcked := cumulativeTsnAck + b.start.toNat
    let missing := tsnRange (prev + 1) (min (curBlockFirstAcked - 1) maxTsnToNack)
    nackBefore isInFastRecovery cumulativeTsnAck maxTsnToNack (cumulativeTsnAck + b.end_.toNat)
      rest (missing.foldl (nackMissing discard isInFastRecovery) s)

def nackBetweenAckBlocks (cumulativeTsnAck : Int)
    (blocks : List GapAckBlock) (isInFastRecovery : Bool) (info : AckInfo) (q : σ) :
    OutstandingData × AckInfo × σ :=
  let maxTsnToNack :=
    if isInFastRecovery && decide (o.lastCumulativeTsnAck < cumulativeTsnAck) then
      cumulativeTsnAck + ((blocks.getLast?.map fun b => b.end_.toNat).getD 0 : Nat)
    else info.highestTsnAcked
  let (lost, o, q) := nackBefore discard isInFastRecovery cumulativeTsnAck maxTsnToNack
    cumulativeTsnAck blocks (info.hasPacketLoss, o, q)
  (o, { info with hasPacketLoss := lost }, q)

def handleSack (cumulativeTsnAck : Int) (blocks : List GapAckBlock)
    (isInFastRecovery : Bool) (q : σ) : AckInfo × OutstandingData × σ :=
  let info : AckInfo := { highestTsnAcked := cumulativeTsnAck }
  let (o, info) := o.removeAcked cumulativeTsnAck info
  let (o, info) := o.ackGapBlocks cumulativeTsnAck blocks info
  let (o, info, q) := o.nackBetweenAckBlocks discard cumulativeTsnAck blocks isInFastRecovery info q
  (info, o, q)

/-! ## Expiry, insertion and T3-RTX -/

/-- One round of `ExpireOutstandingChunks`. The loop of the source goes on with its iterators even
if `AbandonAllFor` has appended to the deque, which invalidates them. -/
def expireChunk (i : Item) (q : σ) : OutstandingData × σ :=
  let (o', q) := o.abandonAllFor discard i q
  (if o.outstandingData.length < o'.outstandingData.length then o'.loseIterators else o', q)

/-- The loop of `ExpireOutstandingChunks`, which stops at the first chunk that is
neither abandoned nor expired. -/
def expireLoop (now : Timestamp) : List Int → OutstandingData → σ → OutstandingData × σ
  | [], o, q => (o, q)
  | tsn :: rest, o, q =>
    match o.getItem tsn with
    | none => (o, q)
    | some i =>
      if i.isAbandoned then expireLoop now rest o q
      else if i.isNacked && i.hasExpired now then
        let (o, q) := o.expireChunk discard i q
        expireLoop now rest o q
      else (o, q)

def expireOutstandingChunks (now : Timestamp) (q : σ) :
    OutstandingData × σ := expireLoop discard now o.tsns o q

def insert (messageId : OutgoingMessageId) (d : Data) (timeSent : Timestamp)
    (maxRetransmissions : MaxRetransmits) (expiresAt : Option Timestamp)
    (lifecycleId : LifecycleId) (q : σ) : Option Int × OutstandingData × σ :=
  let tsn := o.nextTsn
  let i : Item := ⟨messageId, d, timeSent, maxRetransmissions, expiresAt, lifecycleId,
    .active, .unacked, 0, 0⟩
  let o := (o.enterFlight d).emplaceBack i
  if i.hasExpired timeSent then (none, o.abandonAllFor discard i q)
  else (some tsn, o, q)

def nackAll (q : σ) : OutstandingData × σ :=
  let tsnsToNack := o.tsns.filter fun tsn => !(o.getItem tsn).any Item.isAcked
  tsnsToNack.foldl (fun s tsn => (nackItem discard tsn true false s.1 s.2).2) (o, q)

end Discard

/-! ## Retransmission -/

def chunks : Retransmission → OrdSet Int
  | .fast => o.toBeFastRetransmitted
  | .normal => o.toBeRetransmitted

def eraseChunk (tsn : Int) : Retransmission → OutstandingData
  | .fast => { o with toBeFastRetransmitted := o.toBeFastRetransmitted.erase tsn }
  | .normal => { o with toBeRetransmitted := o.toBeRetransmitted.erase tsn }

def extractLoop (kind : Retransmission) :
    List Int → (maxSize : Nat) → OutstandingData → List (TSN × Data) × OutstandingData
  | [], _, o => ([], o)
  | tsn :: rest, maxSize, o =>
    match o.getItem tsn with
    | none => ([], o.setFault)
    | some i =>
      let serializedSize := o.getSerializedChunkSize i.data
      if serializedSize ≤ maxSize then
        let o := ((o.setItem tsn i.markAsRetransmitted).enterFlight i.data).eraseChunk tsn kind
        -- No point in continuing if the packet is full.
        if maxSize - serializedSize ≤ o.dataChunkHeaderSize then ([(wrap 32 tsn, i.data)], o)
        else
          let (result, o) := extractLoop kind rest (maxSize - serializedSize) o
          ((wrap 32 tsn, i.data) :: result, o)
      else if maxSize ≤ o.dataChunkHeaderSize then ([], o)
      else extractLoop kind rest maxSize o

def extractChunksThatCanFit (kind : Retransmission) (maxSize : Nat) :
    List (TSN × Data) × OutstandingData := extractLoop kind (o.chunks kind).keys maxSize o

/-- `GetChunksToBeFastRetransmitted`: what does not fit is left for normal retransmission. -/
def getChunksToBeFastRetransmitted (maxSize : Nat) :
    List (TSN × Data) × OutstandingData :=
  let (result, o) := o.extractChunksThatCanFit .fast maxSize
  (result,
   { o with
     toBeRetransmitted :=
       o.toBeFastRetransmitted.keys.foldl (fun s tsn => s.insert tsn ()) o.toBeRetransmitted
     toBeFastRetransmitted := OrdMap.empty })

def getChunksToBeRetransmitted (maxSize : Nat) :
    List (TSN × Data) × OutstandingData := o.extractChunksThatCanFit .normal maxSize

/-- `MeasureRTT`; an infinite time is a missing one. -/
def measureRtt (now : Timestamp) (tsn : Int) : Option Int :=
  if o.lastCumulativeTsnAck < tsn && decide (tsn < o.nextTsn) then
    match o.getItem tsn with
    | none => none
    | some i => if i.hasBeenRetransmitted then none else some (now - i.timeSent)
  else none

/-! ## Skipping abandoned chunks -/

def shouldSendForwardTsn : Bool :=
  match o.outstandingData with
  | [] => false
  | i :: _ => i.isAbandoned

/-- The items that a FORWARD-TSN skips: the abandoned ones at the front, up to the next
stream reset. The TSN is that of the first item. -/
def skippable (breakpoints : OrdSet Int) : (tsn : Int) → List Item → List Item
  | _, [] => []
  | tsn, i :: rest =>
    if breakpoints.contains tsn || !i.isAbandoned then []
    else i :: skippable breakpoints (tsn + 1) rest

def skipped : List Item :=
  skippable o.streamResetBreakpointTsns (o.lastCumulativeTsnAck + 1) o.outstandingData

/-- The running maximum of the source: a number is kept where it is larger than what the
map holds, which is zero for a key it does not hold. -/
def raise {κ : Type} [LinearOrder κ] {w : Nat} (m : OrdMap κ (BitVec w)) (key : κ)
    (n : BitVec w) : OrdMap κ (BitVec w) :=
  m.insert key (max ((m.find? key).getD 0) n)

def createForwardTsn : AnyForwardTsnChunk where
  newCumulativeTsn := wrap 32 (o.lastCumulativeTsnAck + o.skipped.length)
  skippedStreams :=
    let perStream : OrdMap StreamID SSN := o.skipped.foldl
      (fun m i => if i.data.isUnordered then m else raise m i.data.streamId i.data.ssn) OrdMap.empty
    perStream.entries.map fun e => ⟨e.1, e.2, false, 0⟩

def createIForwardTsn : AnyForwardTsnChunk where
  newCumulativeTsn := wrap 32 (o.lastCumulativeTsnAck + o.skipped.length)
  skippedStreams :=
    let perStream : OrdMap (Bool ×ₗ StreamID) MID := o.skipped.foldl
      (fun m i => raise m (toLex (i.data.isUnordered, i.data.streamId)) i.data.mid) OrdMap.empty
    perStream.entries.map fun e => ⟨(ofLex e.1).2, 0, (ofLex e.1).1, e.2⟩

def beginResetStreams : OutstandingData :=
  { o with streamResetBreakpointTsns := o.streamResetBreakpointTsns.insert o.nextTsn () }

end OutstandingData

end WebRtc.Dcsctp
