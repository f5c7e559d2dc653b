import WebRtc.Dcsctp.Types

/-!
# dcSCTP — chunks about transmission

SACK, FORWARD-TSN and I-FORWARD-TSN as the data they carry, and
`packet/chunk_validators.cc`, which repairs a SACK whose gap-ack-blocks are out of
order or overlap.
-/

namespace WebRtc.Dcsctp

structure GapAckBlock where
  start : BitVec 16
  end_ : BitVec 16
deriving DecidableEq

structure SackChunk where
  cumulativeTsnAck : TSN
  aRwnd : BitVec 32
  gapAckBlocks : List GapAckBlock
  duplicateTsns : OrdSet TSN
deriving DecidableEq

/-- `AnyForwardTsnChunk::SkippedStream`; `ssn` is used by FORWARD-TSN, the others by
I-FORWARD-TSN. -/
structure SkippedStream where
  streamId : StreamID
  ssn : SSN
  unordered : Bool
  mid : MID
deriving DecidableEq

structure AnyForwardTsnChunk where
  newCumulativeTsn : TSN
  skippedStreams : List SkippedStream
deriving DecidableEq

namespace ChunkValidators

/-- The loop of `Validate(SackChunk)`: sorted, neither overlapping nor adjacent. -/
def validateFrom (prevEnd : BitVec 16) : List GapAckBlock → Bool
  | [] => true
  | b :: rest =>
    if b.end_ < b.start then false
    else if b.start.toNat ≤ prevEnd.toNat + 1 then false
    else validateFrom b.end_ rest

def validate (sack : SackChunk) : Bool :=
  sack.gapAckBlocks.isEmpty || validateFrom 0 sack.gapAckBlocks

/-- One round of the merge loop; `merged` is kept with its last block first. -/
def mergeBlock (merged : List GapAckBlock) (b : GapAckBlock) : List GapAckBlock :=
  match merged with
  | [] => [b]
  | last :: done =>
    if b.start.toNat ≤ last.end_.toNat + 1 then { last with end_ := max last.end_ b.end_ } :: done
    else b :: last :: done

def clean (sack : SackChunk) : SackChunk :=
  if validate sack then sack
  else
    let sane := sack.gapAckBlocks.filter fun b => decide (b.start < b.end_)
    if sane.length ≤ 1 then { sack with gapAckBlocks := sane }
    else
      let sorted := sane.mergeSort fun a b => decide (a.start ≤ b.start)
      { sack with gapAckBlocks := (sorted.foldl mergeBlock []).reverse }

end ChunkValidators

end WebRtc.Dcsctp
