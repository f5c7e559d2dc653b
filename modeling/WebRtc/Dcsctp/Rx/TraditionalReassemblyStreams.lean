import WebRtc.Dcsctp.Packet.Chunks
import WebRtc.Lib.MachineInt

/-!
# dcSCTP — TraditionalReassemblyStreams

The model of `rx/traditional_reassembly_streams.{h,cc}`: reassembly of DATA chunks
(RFC 4960, no message interleaving). Assembled messages, which the source hands to
a callback, are returned in the order of the calls, next to the byte counts the
source returns. `Add` returns an `int`, and `std::accumulate` adds sizes up in one, so these
counts wrap from `2 ^ 31` bytes on (`asInt`).
-/

namespace WebRtc.Dcsctp

open Lib Numerics

abbrev ChunkMap := OrdMap Int Data

def chunkBytes {κ : Type} [LinearOrder κ] (chunks : OrdMap κ Data) : Nat :=
  (chunks.entries.map fun c => c.2.size).sum

/-- What `AssembleMessage` returns for `count` chunks with `bytes` bytes in all: a message of one
chunk is not added up in an `int`. -/
def assembledBytes (count bytes : Nat) : Int := if count = 1 then bytes else asInt bytes

/-- What adding or skipping data comes to: the messages assembled on the way, in order,
and the new state. -/
structure Reassembly (σ : Type) where
  bytes : Int
  messages : List DcSctpMessage
  state : σ

def assembleMessage {κ : Type} (first : Data) (chunks : List (κ × Data)) : DcSctpMessage :=
  { streamId := first.streamId
    ppid := first.ppid
    payload := chunks.flatMap fun c => c.2.payload }

/-- Whether the chunks stored for one message form all of it: the first chunk begins it, the
last one ends it, and `span` says they are as far apart as their number requires. -/
def isCompleteBy {κ : Type} [LinearOrder κ] (span : κ → κ → Nat) (chunks : OrdMap κ Data) : Bool :=
  match chunks.front?, chunks.back? with
  | some first, some last =>
    first.2.isBeginning && last.2.isEnd && span last.1 first.1 == chunks.size - 1
  | _, _ => false

def assembleSingle (data : Data) : DcSctpMessage := ⟨data.streamId, data.ppid, data.payload⟩

/-! ## UnorderedStream -/

structure UnorderedStream where
  chunks : ChunkMap
deriving DecidableEq

namespace UnorderedStream

def empty : UnorderedStream := ⟨OrdMap.empty⟩

/-- `FindBeginning`, walking backwards: the first argument holds the chunks from the
current one down, `acc` those already passed. -/
def findBeginning : List (Int × Data) → List (Int × Data) → Option (List (Int × Data))
  | [], _ => none
  | c :: prev, acc =>
    if c.2.isBeginning then some (c :: acc)
    else match prev with
      | [] => none
      | p :: _ => if p.1 + 1 ≠ c.1 then none else findBeginning prev (c :: acc)

def findEnd : List (Int × Data) → Option (List (Int × Data))
  | [] => none
  | c :: next =>
    if c.2.isEnd then some [c]
    else match next with
      | [] => none
      | n :: _ => if n.1 ≠ c.1 + 1 then none else (findEnd next).map (c :: ·)

def tryToAssembleMessage (s : UnorderedStream) (tsn : Int) : Reassembly UnorderedStream :=
  let upTo := (s.chunks.entries.filter fun c => c.1 ≤ tsn).reverse
  let from_ := s.chunks.entries.filter fun c => tsn ≤ c.1
  match findBeginning upTo [], findEnd from_ with
  | some (first :: start), some stop =>
    -- `start` ends with the chunk at `tsn`, which `stop` begins with
    let message := first :: start ++ stop.tail
    let last := (stop.getLast?.map Prod.fst).getD tsn
    { bytes := assembledBytes message.length (message.map fun c => c.2.size).sum
      messages := [assembleMessage first.2 message]
      state := ⟨s.chunks.filterKeys fun k => k < first.1 ∨ last < k⟩ }
  | _, _ => ⟨0, [], s⟩

def add (s : UnorderedStream) (tsn : Int) (data : Data) : Reassembly UnorderedStream :=
  if data.isBeginning && data.isEnd then ⟨0, [assembleSingle data], s⟩
  else
    match s.chunks.emplace tsn data with
    | (_, false) => ⟨0, [], s⟩
    | (chunks, true) =>
      let r := tryToAssembleMessage ⟨chunks⟩ tsn
      { r with bytes := asInt (data.size - r.bytes) }

def eraseTo (s : UnorderedStream) (tsn : Int) : Int × UnorderedStream :=
  (asInt (chunkBytes (s.chunks.takeTo tsn)), ⟨s.chunks.eraseTo tsn⟩)

end UnorderedStream

/-! ## OrderedStream -/

structure OrderedStream where
  chunksBySsn : OrdMap Int ChunkMap
  ssnUnwrapper : SeqNumUnwrapper 16
  nextSsn : Int
deriving DecidableEq

namespace OrderedStream

def new (nextSsn : SSN) : OrderedStream :=
  let (next, unwrapper) := (SeqNumUnwrapper.init 16).unwrap nextSsn
  ⟨OrdMap.empty, unwrapper, next⟩

def isComplete (chunks : ChunkMap) : Bool := isCompleteBy (difference 32) chunks

variable (s : OrderedStream)

/-- The chunks of the next message, if they form all of it, and what is left without them. -/
def tryToAssembleMessage : Option (ChunkMap × DcSctpMessage × OrderedStream) :=
  match s.chunksBySsn.front? with
  | none => none
  | some (ssn, chunks) =>
    if ssn ≠ s.nextSsn then none
    else if !isComplete chunks then none
    else
      chunks.front?.map fun first =>
        (chunks, assembleMessage first.2 chunks.entries,
          { s with chunksBySsn := s.chunksBySsn.erase ssn, nextSsn := s.nextSsn + 1 })

/-- The loop of `TryToAssembleMessages`. It stops as soon as no byte was assembled; each
round but the last takes an entry out of the map, which bounds their number. The source tests the
`int`, so there a message of several chunks and a multiple of `2 ^ 32` bytes ends the loop as well. -/
def assembleLoop : Nat → OrderedStream → Reassembly OrderedStream
  | 0, s => ⟨0, [], s⟩
  | rounds + 1, s =>
    match s.tryToAssembleMessage with
    | none => ⟨0, [], s⟩
    | some (chunks, message, s') =>
      if chunkBytes chunks = 0 then ⟨0, [message], s'⟩
      else
        let r := assembleLoop rounds s'
        ⟨assembledBytes chunks.size (chunkBytes chunks) + r.bytes, message :: r.messages, r.state⟩

def tryToAssembleMessages : Reassembly OrderedStream :=
  assembleLoop s.chunksBySsn.size s

def tryToAssembleMessagesFastpath (ssn tsn : Int) (data : Data) :
    Reassembly OrderedStream :=
  if data.isBeginning && data.isEnd then
    let r := { s with nextSsn := s.nextSsn + 1 }.tryToAssembleMessages
    ⟨data.size + r.bytes, assembleSingle data :: r.messages, r.state⟩
  else
    match s.chunksBySsn.emplaceNested ssn tsn data with
    -- Not actually assembled, but deduplicated.
    | (chunks, false) => ⟨data.size, [], { s with chunksBySsn := chunks }⟩
    | (chunks, true) => { s with chunksBySsn := chunks }.tryToAssembleMessages

def add (tsn : Int) (data : Data) : Reassembly OrderedStream :=
  let (ssn, unwrapper) := s.ssnUnwrapper.unwrap data.ssn
  let s := { s with ssnUnwrapper := unwrapper }
  if ssn = s.nextSsn then
    let r := s.tryToAssembleMessagesFastpath ssn tsn data
    { r with bytes := asInt (data.size - r.bytes) }
  else
    match s.chunksBySsn.emplaceNested ssn tsn data with
    | (chunks, inserted) =>
      ⟨if inserted then asInt data.size else 0, [], { s with chunksBySsn := chunks }⟩

def bytesBySsn (m : OrdMap Int ChunkMap) : Nat := (m.entries.map fun e => chunkBytes e.2).sum

def skipTo (ssn : SSN) : OrderedStream :=
  let (unwrappedSsn, unwrapper) := s.ssnUnwrapper.unwrap ssn
  { chunksBySsn := s.chunksBySsn.eraseTo unwrappedSsn
    ssnUnwrapper := unwrapper
    nextSsn := if unwrappedSsn ≥ s.nextSsn then unwrappedSsn + 1 else s.nextSsn }

def eraseTo (ssn : SSN) : Reassembly OrderedStream :=
  let removed := asInt (bytesBySsn (s.chunksBySsn.takeTo (s.ssnUnwrapper.peekUnwrap ssn)))
  let r := (s.skipTo ssn).tryToAssembleMessages
  { r with bytes := removed + r.bytes }

/-- `OrderedStream::Reset`: the chunks held are kept. -/
def reset : OrderedStream :=
  let (next, unwrapper) := (SeqNumUnwrapper.init 16).unwrap (0 : SSN)
  { s with ssnUnwrapper := unwrapper, nextSsn := next }

end OrderedStream

/-! ## TraditionalReassemblyStreams -/

structure TraditionalReassemblyStreams where
  unorderedStreams : OrdMap StreamID UnorderedStream
  orderedStreams : OrdMap StreamID OrderedStream
deriving DecidableEq

namespace TraditionalReassemblyStreams

def empty : TraditionalReassemblyStreams := ⟨OrdMap.empty, OrdMap.empty⟩

variable (t : TraditionalReassemblyStreams)

def ordered (sid : StreamID) : OrderedStream :=
  (t.orderedStreams.find? sid).getD (OrderedStream.new 0)

def unordered (sid : StreamID) : UnorderedStream :=
  (t.unorderedStreams.find? sid).getD UnorderedStream.empty

def add (t : TraditionalReassemblyStreams) (tsn : Int) (data : Data) :
    Reassembly TraditionalReassemblyStreams :=
  if data.isUnordered then
    let r := (t.unordered data.streamId).add tsn data
    ⟨r.bytes, r.messages,
      { t with unorderedStreams := t.unorderedStreams.insert data.streamId r.state }⟩
  else
    let r := (t.ordered data.streamId).add tsn data
    ⟨r.bytes, r.messages,
      { t with orderedStreams := t.orderedStreams.insert data.streamId r.state }⟩

def eraseSkipped (t : TraditionalReassemblyStreams) :
    List SkippedStream → Reassembly TraditionalReassemblyStreams
  | [] => ⟨0, [], t⟩
  | skipped :: rest =>
    let r := (t.ordered skipped.streamId).eraseTo skipped.ssn
    let t' := { t with orderedStreams := t.orderedStreams.insert skipped.streamId r.state }
    let r' := t'.eraseSkipped rest
    ⟨r.bytes + r'.bytes, r.messages ++ r'.messages, r'.state⟩

/-- `TraditionalReassemblyStreams::HandleForwardTsn`. The skipped streams cover only ordered
messages, so all unordered streams are searched by TSN. -/
def handleForwardTsn (newCumulativeAckTsn : Int)
    (skippedStreams : List SkippedStream) : Reassembly TraditionalReassemblyStreams :=
  let removed := (t.unorderedStreams.entries.map fun e => (e.2.eraseTo newCumulativeAckTsn).1).sum
  let unorderedStreams := t.unorderedStreams.mapVal fun _ s => (s.eraseTo newCumulativeAckTsn).2
  let r := eraseSkipped { t with unorderedStreams := unorderedStreams } skippedStreams
  { r with bytes := removed + r.bytes }

/-- `TraditionalReassemblyStreams::ResetStreams`; the empty list means all streams. -/
def resetStreams (streamIds : List StreamID) :
    TraditionalReassemblyStreams :=
  { t with
    orderedStreams := t.orderedStreams.mapVal fun sid s =>
      if streamIds.isEmpty || streamIds.contains sid then s.reset else s }

end TraditionalReassemblyStreams

end WebRtc.Dcsctp
