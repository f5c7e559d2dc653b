import WebRtc.Dcsctp.Rx.TraditionalReassemblyStreams

/-!
# dcSCTP — InterleavedReassemblyStreams

The model of `rx/interleaved_reassembly_streams.{h,cc}`: reassembly of I-DATA chunks
(RFC 8260). Chunks are kept by message identifier and fragment number; the TSN the
source stores next to each chunk is only logged and is left out.
-/

namespace WebRtc.Dcsctp

open Lib Numerics

abbrev FragmentMap := OrdMap FSN Data

/-- `FullStreamId`, with the lexicographic order. -/
abbrev FullStreamId := Bool ×ₗ StreamID

def fullStreamId (unordered : Bool) (streamId : StreamID) : FullStreamId := toLex (unordered, streamId)

/-- `operator<(FullStreamId a, FullStreamId b)` as the source has it. The second operand
tests `a.unordered < b.unordered` again instead of the reverse, so that an unordered
stream and an ordered one with a larger identifier are each less than the other. -/
def FullStreamId.Less (a b : FullStreamId) : Prop :=
  (ofLex a).1 < (ofLex b).1 ∨ (¬ (ofLex a).1 < (ofLex b).1 ∧ (ofLex a).2 < (ofLex b).2)

instance (a b : FullStreamId) : Decidable (FullStreamId.Less a b) :=
  inferInstanceAs (Decidable (_ ∨ _))

/-- The source's comparison agrees with the lexicographic order on a pair of keys. On keys
where it does not, `std::map` is used outside its contract. -/
def FullStreamId.Comparable (a b : FullStreamId) : Prop :=
  (FullStreamId.Less a b ↔ a < b) ∧ (FullStreamId.Less b a ↔ b < a)

instance (a b : FullStreamId) : Decidable (FullStreamId.Comparable a b) :=
  inferInstanceAs (Decidable (_ ∧ _))

structure InterleavedStream where
  unordered : Bool
  chunksByMid : OrdMap Int FragmentMap
  midUnwrapper : SeqNumUnwrapper 32
  nextMid : Int
deriving DecidableEq

namespace InterleavedStream

def new (unordered : Bool) (nextMid : MID) : InterleavedStream :=
  let (next, unwrapper) := (SeqNumUnwrapper.init 32).unwrap nextMid
  ⟨unordered, OrdMap.empty, unwrapper, next⟩

def isComplete (chunks : FragmentMap) : Bool :=
  isCompleteBy (fun last first => (last - first).toNat) chunks

variable (s : InterleavedStream)

/-- The chunks of the message, if they form all of it, and what is left without them. -/
def tryToAssembleMessage (mid : Int) :
    Option (FragmentMap × DcSctpMessage × InterleavedStream) :=
  match s.chunksByMid.find? mid with
  | none => none
  | some chunks =>
    if !isComplete chunks then none
    else
      chunks.front?.map fun first =>
        (chunks, assembleMessage first.2 chunks.entries,
          { s with chunksByMid := s.chunksByMid.erase mid })

/-- The loop of `TryToAssembleMessages`. A message without bytes ends it before the
expected MID moves on. -/
def assembleLoop : Nat → InterleavedStream → Reassembly InterleavedStream
  | 0, s => ⟨0, [], s⟩
  | rounds + 1, s =>
    match s.tryToAssembleMessage s.nextMid with
    | none => ⟨0, [], s⟩
    | some (chunks, message, s') =>
      if chunkBytes chunks = 0 then ⟨0, [message], s'⟩
      else
        let r := assembleLoop rounds { s' with nextMid := s'.nextMid + 1 }
        ⟨assembledBytes chunks.size (chunkBytes chunks) + r.bytes, message :: r.messages, r.state⟩

def tryToAssembleMessages : Reassembly InterleavedStream :=
  assembleLoop s.chunksByMid.size s

def afterInsert (mid : Int) (data : Data) : Reassembly InterleavedStream :=
  if s.unordered then
    match s.tryToAssembleMessage mid with
    | none => ⟨asInt data.size, [], s⟩
    | some (chunks, message, s') =>
      ⟨asInt (data.size - assembledBytes chunks.size (chunkBytes chunks)), [message], s'⟩
  else if mid = s.nextMid then
    let r := s.tryToAssembleMessages
    { r with bytes := asInt (data.size - r.bytes) }
  else ⟨asInt data.size, [], s⟩

def add (data : Data) : Reassembly InterleavedStream :=
  let (mid, unwrapper) := s.midUnwrapper.unwrap data.mid
  let s := { s with midUnwrapper := unwrapper }
  if s.unordered && data.isBeginning && data.isEnd then ⟨0, [assembleSingle data], s⟩
  else if !s.unordered && mid == s.nextMid && data.isBeginning && data.isEnd then
    let r := { s with nextMid := s.nextMid + 1 }.tryToAssembleMessages
    ⟨asInt (-r.bytes), assembleSingle data :: r.messages, r.state⟩
  else
    match s.chunksByMid.emplaceNested mid data.fsn data with
    | (chunks, false) => ⟨0, [], { s with chunksByMid := chunks }⟩
    | (chunks, true) => { s with chunksByMid := chunks }.afterInsert mid data

def skipTo (mid : MID) : InterleavedStream :=
  let (unwrappedMid, unwrapper) := s.midUnwrapper.unwrap mid
  { s with
    chunksByMid := s.chunksByMid.eraseTo unwrappedMid
    midUnwrapper := unwrapper
    nextMid := if !s.unordered ∧ unwrappedMid ≥ s.nextMid then unwrappedMid + 1 else s.nextMid }

def bytesByMid (m : OrdMap Int FragmentMap) : Nat :=
  (m.entries.map fun e => chunkBytes e.2).sum

/-- `Stream::EraseTo`, which adds up each message's sizes in an `int` of its own. -/
def eraseTo (mid : MID) : Reassembly InterleavedStream :=
  let removed :=
    ((s.chunksByMid.takeTo (s.midUnwrapper.peekUnwrap mid)).entries.map fun e => asInt (chunkBytes e.2)).sum
  if s.unordered then ⟨removed, [], s.skipTo mid⟩
  else
    let r := (s.skipTo mid).tryToAssembleMessages
    { r with bytes := removed + r.bytes }

/-- `Stream::Reset`: the chunks held are kept. -/
def reset : InterleavedStream :=
  let (next, unwrapper) := (SeqNumUnwrapper.init 32).unwrap (0 : MID)
  { s with midUnwrapper := unwrapper, nextMid := next }

end InterleavedStream

structure InterleavedReassemblyStreams where
  streams : OrdMap FullStreamId InterleavedStream
deriving DecidableEq

namespace InterleavedReassemblyStreams

def empty : InterleavedReassemblyStreams := ⟨OrdMap.empty⟩

variable (t : InterleavedReassemblyStreams)

def stream (unordered : Bool) (sid : StreamID) :
    InterleavedStream :=
  (t.streams.find? (fullStreamId unordered sid)).getD (InterleavedStream.new unordered 0)

def setStream (unordered : Bool) (sid : StreamID)
    (s : InterleavedStream) : InterleavedReassemblyStreams :=
  ⟨t.streams.insert (fullStreamId unordered sid) s⟩

def add (t : InterleavedReassemblyStreams) (data : Data) :
    Reassembly InterleavedReassemblyStreams :=
  let r := (t.stream data.isUnordered data.streamId).add data
  ⟨r.bytes, r.messages, t.setStream data.isUnordered data.streamId r.state⟩

def handleForwardTsn (t : InterleavedReassemblyStreams) :
    List SkippedStream → Reassembly InterleavedReassemblyStreams
  | [] => ⟨0, [], t⟩
  | skipped :: rest =>
    let r := (t.stream skipped.unordered skipped.streamId).eraseTo skipped.mid
    let r' := (t.setStream skipped.unordered skipped.streamId r.state).handleForwardTsn rest
    ⟨r.bytes + r'.bytes, r.messages ++ r'.messages, r'.state⟩

def resetStream (sid : StreamID) :
    InterleavedReassemblyStreams :=
  let t := t.setStream true sid (t.stream true sid).reset
  t.setStream false sid (t.stream false sid).reset

/-- `InterleavedReassemblyStreams::ResetStreams`; the empty list means all streams. -/
def resetStreams (streamIds : List StreamID) :
    InterleavedReassemblyStreams :=
  if streamIds.isEmpty then ⟨t.streams.mapVal fun _ s => s.reset⟩
  else streamIds.foldl resetStream t

end InterleavedReassemblyStreams

end WebRtc.Dcsctp
