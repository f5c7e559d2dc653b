import WebRtc.Dcsctp.Rx.InterleavedReassemblyStreams

/-!
# dcSCTP — ReassemblyQueue

The model of `rx/reassembly_queue.{h,cc}`. `queued_bytes_` is a `size_t` and keeps its
64 bits, so that the subtractions of the source wrap as they do there, and an `int` that is added
to it is extended with its sign. The watermark
is computed in single precision, as `max_size_bytes * kHighWatermarkLimit` is.

A deferred action is a closure in the source; here it is the call it makes.
-/

namespace WebRtc.Dcsctp

open Lib Numerics

/-! ## The watermark -/

/-- The nearest number with a 24-bit significand, ties to even: the value of `n` as a
`float`. -/
def roundToFloat (n : Nat) : Nat :=
  let e := Nat.log2 n - 23
  let q := n / 2 ^ e
  let r := n % 2 ^ e
  if 2 ^ e < 2 * r ∨ (2 * r = 2 ^ e ∧ q % 2 = 1) then (q + 1) * 2 ^ e else q * 2 ^ e

/-- `kHighWatermarkLimit = 0.9` as a `float`, in units of `2 ^ -24`. -/
def kHighWatermarkLimit : Nat := 15099494

/-- `watermark_bytes_`: the product is a `float`, its conversion to `size_t` truncates. -/
def watermarkOf (maxSizeBytes : Nat) : Nat :=
  roundToFloat (roundToFloat maxSizeBytes * kHighWatermarkLimit) / 2 ^ 24

/-! ## ReassemblyStreams -/

inductive ReassemblyStreams where
  | traditional (streams : TraditionalReassemblyStreams)
  | interleaved (streams : InterleavedReassemblyStreams)
deriving DecidableEq

namespace ReassemblyStreams

def create (useMessageInterleaving : Bool) : ReassemblyStreams :=
  if useMessageInterleaving then .interleaved .empty else .traditional .empty

def add (t : ReassemblyStreams) (tsn : Int) (data : Data) : Reassembly ReassemblyStreams :=
  match t with
  | .traditional s =>
    let r := s.add tsn data
    ⟨r.bytes, r.messages, .traditional r.state⟩
  | .interleaved s =>
    let r := s.add data
    ⟨r.bytes, r.messages, .interleaved r.state⟩

def handleForwardTsn (t : ReassemblyStreams) (newCumulativeAckTsn : Int)
    (skippedStreams : List SkippedStream) : Reassembly ReassemblyStreams :=
  match t with
  | .traditional s =>
    let r := s.handleForwardTsn newCumulativeAckTsn skippedStreams
    ⟨r.bytes, r.messages, .traditional r.state⟩
  | .interleaved s =>
    let r := s.handleForwardTsn skippedStreams
    ⟨r.bytes, r.messages, .interleaved r.state⟩

def resetStreams (t : ReassemblyStreams) (streamIds : List StreamID) : ReassemblyStreams :=
  match t with
  | .traditional s => .traditional (s.resetStreams streamIds)
  | .interleaved s => .interleaved (s.resetStreams streamIds)

end ReassemblyStreams

/-! ## ReassemblyQueue -/

inductive DeferredAction where
  | add (tsn : TSN) (data : Data)
  | handleForwardTsn (newCumulativeTsn : TSN) (skippedStreams : List SkippedStream)
deriving DecidableEq

structure DeferredResetStreams where
  senderLastAssignedTsn : Int
  streams : List StreamID
  deferredActions : List DeferredAction
deriving DecidableEq

structure ReassemblyQueue where
  maxSizeBytes : Nat
  watermarkBytes : Nat
  tsnUnwrapper : SeqNumUnwrapper 32
  reassembledMessages : List DcSctpMessage
  deferredResetStreams : Option DeferredResetStreams
  queuedBytes : BitVec 64
  streams : ReassemblyStreams
deriving DecidableEq

namespace ReassemblyQueue

def new (maxSizeBytes : Nat) (useMessageInterleaving : Bool) : ReassemblyQueue :=
  { maxSizeBytes := maxSizeBytes
    watermarkBytes := watermarkOf maxSizeBytes
    tsnUnwrapper := SeqNumUnwrapper.init 32
    reassembledMessages := []
    deferredResetStreams := none
    queuedBytes := 0
    streams := ReassemblyStreams.create useMessageInterleaving }

def messageBytes (messages : List DcSctpMessage) : Nat := (messages.map fun m => m.payload.length).sum

variable (q : ReassemblyQueue)

/-- Takes over the outcome of an operation on the streams: `AddReassembledMessage` for every
message, and the change of the bytes held. -/
def apply (r : Reassembly ReassemblyStreams) (bytes : Int) :
    ReassemblyQueue :=
  { q with
    streams := r.state
    reassembledMessages := q.reassembledMessages ++ r.messages
    queuedBytes := q.queuedBytes + BitVec.ofInt 64 (messageBytes r.messages + bytes) }

def defers (tsn : Int) (streamId : StreamID) : Bool :=
  match q.deferredResetStreams with
  | none => false
  | some d => decide (d.senderLastAssignedTsn < tsn) && d.streams.contains streamId

def defer (action : DeferredAction) : ReassemblyQueue :=
  { q with
    deferredResetStreams := q.deferredResetStreams.map fun d =>
      { d with deferredActions := d.deferredActions ++ [action] } }

def add (q : ReassemblyQueue) (tsn : TSN) (data : Data) : ReassemblyQueue :=
  let (unwrappedTsn, unwrapper) := q.tsnUnwrapper.unwrap tsn
  let q := { q with tsnUnwrapper := unwrapper }
  if q.defers unwrappedTsn data.streamId then
    { q with queuedBytes := q.queuedBytes + BitVec.ofNat 64 data.size }.defer (.add tsn data)
  else
    let r := q.streams.add unwrappedTsn data
    q.apply r r.bytes

def handleForwardTsn (q : ReassemblyQueue) (newCumulativeTsn : TSN)
    (skippedStreams : List SkippedStream) : ReassemblyQueue :=
  let (tsn, unwrapper) := q.tsnUnwrapper.unwrap newCumulativeTsn
  let q := { q with tsnUnwrapper := unwrapper }
  match q.deferredResetStreams with
  | some d =>
    if d.senderLastAssignedTsn < tsn then
      q.defer (.handleForwardTsn newCumulativeTsn skippedStreams)
    else
      let r := q.streams.handleForwardTsn tsn skippedStreams
      q.apply r (-r.bytes)
  | none =>
    let r := q.streams.handleForwardTsn tsn skippedStreams
    q.apply r (-r.bytes)

def runAction : DeferredAction → ReassemblyQueue
  | .add tsn data =>
    { q with queuedBytes := q.queuedBytes - BitVec.ofNat 64 data.size }.add tsn data
  | .handleForwardTsn tsn skippedStreams => q.handleForwardTsn tsn skippedStreams

def resetStreamsAndLeaveDeferredReset (streamIds : List StreamID) :
    ReassemblyQueue :=
  let q := { q with streams := q.streams.resetStreams streamIds }
  match q.deferredResetStreams with
  | none => q
  | some d => d.deferredActions.foldl runAction { q with deferredResetStreams := none }

/-- `ReassemblyQueue::EnterDeferredReset`; without effect while a reset is deferred. -/
def enterDeferredReset (senderLastAssignedTsn : TSN) (streams : List StreamID) : ReassemblyQueue :=
  match q.deferredResetStreams with
  | some _ => q
  | none =>
    let (tsn, unwrapper) := q.tsnUnwrapper.unwrap senderLastAssignedTsn
    { q with
      tsnUnwrapper := unwrapper
      deferredResetStreams := some ⟨tsn, streams, []⟩ }

def getNextMessage : Option DcSctpMessage × ReassemblyQueue :=
  match q.reassembledMessages with
  | [] => (none, q)
  | m :: rest =>
    (some m,
      { q with
        reassembledMessages := rest
        queuedBytes := q.queuedBytes - BitVec.ofNat 64 m.payload.length })

def remainingBytes : BitVec 64 := BitVec.ofNat 64 q.watermarkBytes - q.queuedBytes

def isFull : Bool := q.queuedBytes.toNat ≥ q.maxSizeBytes

def isAboveWatermark : Bool := q.queuedBytes.toNat ≥ q.watermarkBytes

end ReassemblyQueue

end WebRtc.Dcsctp
