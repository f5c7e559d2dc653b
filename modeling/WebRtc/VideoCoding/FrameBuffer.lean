import WebRtc.VideoCoding.DecodedFramesHistory

/-!
# WebRTC — the frame buffer

The model of `api/video/frame_buffer.cc`. The map from frame ids to frames is the list of its
frames, in the order of their ids; iterators that the source keeps are the frames that they point
to. `CurrentSize` and the other getters read one field each.
-/

namespace WebRtc.VideoCoding

open Numerics

def kMaxFrameReferences : Nat := 5

structure EncodedFrame where
  id : Int
  timestamp : BitVec 32
  references : List Int := []
  isLastSpatialLayer : Bool := true
  few : references.length ≤ kMaxFrameReferences := by decide
deriving DecidableEq

variable (f : EncodedFrame)

namespace EncodedFrame

def isKeyframe : Bool := f.references.isEmpty

def validReferences : Bool :=
  f.references.all (fun r => decide (r < f.id)) && decide f.references.Nodup

def getReferences : List Int := f.references.take kMaxFrameReferences

end EncodedFrame

structure FrameInfo where
  frame : EncodedFrame
  continuous : Bool := false
deriving DecidableEq

structure TemporalUnit where
  -- Both first and last are inclusive.
  firstFrame : EncodedFrame
  lastFrame : EncodedFrame
deriving DecidableEq

structure DecodabilityInfo where
  nextRtpTimestamp : BitVec 32
  lastRtpTimestamp : BitVec 32
deriving DecidableEq

structure FrameBuffer where
  legacyFrameIdJumpBehavior : Bool
  maxSize : Nat
  frames : List FrameInfo := []
  nextDecodableTemporalUnit : Option TemporalUnit := none
  decodableTemporalUnitsInfo : Option DecodabilityInfo := none
  lastContinuousFrameId : Option Int := none
  lastContinuousTemporalUnitFrameId : Option Int := none
  decodedFrameHistory : DecodedFramesHistory
  numContinuousTemporalUnits : Nat := 0
  numDroppedFrames : Nat := 0

namespace FrameBuffer

variable (b : FrameBuffer)

def clear : FrameBuffer :=
  { b with
    frames := []
    nextDecodableTemporalUnit := none
    decodableTemporalUnitsInfo := none
    lastContinuousFrameId := none
    lastContinuousTemporalUnitFrameId := none
    decodedFrameHistory := b.decodedFrameHistory.clear }

/-! ## Continuity -/

def isContinuous (history : DecodedFramesHistory) (frames : List FrameInfo)
    (f : EncodedFrame) : Bool :=
  f.getReferences.all fun r =>
    history.wasDecoded r ||
      (frames.find? fun it => decide (it.frame.id = r)).any FrameInfo.continuous

def raise (last : Option Int) (id : Int) : Option Int :=
  if last.all fun l => decide (l < id) then some id else last

def noteContinuous : FrameBuffer :=
  let b := { b with lastContinuousFrameId := raise b.lastContinuousFrameId f.id }
  if f.isLastSpatialLayer then
    { b with
      numContinuousTemporalUnits := b.numContinuousTemporalUnits + 1
      lastContinuousTemporalUnitFrameId := raise b.lastContinuousTemporalUnitFrameId f.id }
  else b

/-- The loop of `PropagateContinuity`; the frames before the iterator come first. -/
def propagateFrom : FrameBuffer → List FrameInfo → List FrameInfo → FrameBuffer
  | b, visited, [] => { b with frames := visited }
  | b, visited, it :: rest =>
    if !it.continuous && isContinuous b.decodedFrameHistory (visited ++ it :: rest) it.frame then
      propagateFrom (b.noteContinuous it.frame) (visited ++ [{ it with continuous := true }]) rest
    else propagateFrom b (visited ++ [it]) rest

def propagateContinuity (id : Int) : FrameBuffer :=
  propagateFrom b (b.frames.takeWhile fun it => decide (it.frame.id < id))
    (b.frames.dropWhile fun it => decide (it.frame.id < id))

/-! ## Decodable temporal units -/

def temporalUnitDecodable (history : DecodedFramesHistory) (unit : List FrameInfo) : Bool :=
  unit.all fun it => it.frame.getReferences.all fun r =>
    history.wasDecoded r || (unit.map fun it => it.frame.id).contains r

def extendUnit (unit : List FrameInfo) (it : FrameInfo) : List FrameInfo :=
  (if unit.head?.any fun first => first.frame.timestamp != it.frame.timestamp then [] else unit)
    ++ [it]

structure Scan where
  next : Option TemporalUnit := none
  lastDecodableTimestamp : BitVec 32 := 0

def Scan.add (s : Scan) (unit : List FrameInfo) (last : EncodedFrame) : Scan :=
  match unit.head? with
  | none => s
  | some first =>
    { next := some (s.next.getD ⟨first.frame, last⟩)
      lastDecodableTimestamp := first.frame.timestamp }

/-- The loop of `FindNextAndLastDecodableTemporalUnit`; `unit` holds the frames from
`first_frame_it` on. -/
def scanUnits (history : DecodedFramesHistory) (limit : Int) :
    List FrameInfo → List FrameInfo → Scan → Scan
  | [], _, s => s
  | it :: rest, unit, s =>
    if limit < it.frame.id then s
    else
      let unit := extendUnit unit it
      scanUnits history limit rest unit <|
        if it.frame.isLastSpatialLayer && temporalUnitDecodable history unit then
          s.add unit it.frame
        else s

def findNextAndLastDecodableTemporalUnit : FrameBuffer :=
  match b.lastContinuousTemporalUnitFrameId with
  | none => { b with nextDecodableTemporalUnit := none, decodableTemporalUnitsInfo := none }
  | some limit =>
    let s := scanUnits b.decodedFrameHistory limit b.frames [] {}
    { b with
      nextDecodableTemporalUnit := s.next
      decodableTemporalUnitsInfo := s.next.map fun u =>
        { nextRtpTimestamp := u.firstFrame.timestamp
          lastRtpTimestamp := s.lastDecodableTimestamp } }

/-! ## The calls -/

/-- A frame that is not after the last decoded one is refused, unless it begins the
stream anew. -/
def passDecoded : Option FrameBuffer :=
  if b.decodedFrameHistory.lastDecodedFrame.any fun last => decide (f.id ≤ last) then
    if b.legacyFrameIdJumpBehavior && f.isKeyframe &&
        b.decodedFrameHistory.lastDecodedFrameTimestamp.any fun t => aheadOf f.timestamp t then
      some b.clear
    else none
  else some b

def makeRoom : Option FrameBuffer :=
  if b.frames.length = b.maxSize then
    if f.isKeyframe then some b.clear else none
  else some b

def emplace : FrameBuffer :=
  { b with
    frames := (b.frames.takeWhile fun it => decide (it.frame.id < f.id)) ++
      { frame := f } :: b.frames.dropWhile fun it => decide (it.frame.id < f.id) }

def insertFrame : Bool × FrameBuffer :=
  if !f.validReferences then (false, b)
  else
    match b.passDecoded f with
    | none => (false, b)
    | some b =>
      match b.makeRoom f with
      | none => (false, b)
      | some b =>
        if b.frames.any fun it => decide (it.frame.id = f.id) then (false, b)
        else
          (true, ((b.emplace f).propagateContinuity f.id).findNextAndLastDecodableTemporalUnit)

/-- The frames through the end of the unit leave the buffer; `dropped` of them are not
handed out. -/
def eraseThrough (u : TemporalUnit) (dropped : Nat) : FrameBuffer :=
  { b with
    numDroppedFrames := b.numDroppedFrames + dropped
    frames := b.frames.dropWhile fun it => decide (it.frame.id ≤ u.lastFrame.id)
  }.findNextAndLastDecodableTemporalUnit

def extractNextDecodableTemporalUnit : List EncodedFrame × FrameBuffer :=
  match b.nextDecodableTemporalUnit with
  | none => ([], b)
  | some u =>
    let skipped := b.frames.takeWhile fun it => decide (it.frame.id < u.firstFrame.id)
    let frames := ((b.frames.dropWhile fun it => decide (it.frame.id < u.firstFrame.id)).takeWhile
      fun it => decide (it.frame.id ≤ u.lastFrame.id)).map FrameInfo.frame
    let history := frames.foldl (fun h f => h.insertDecoded f.id f.timestamp) b.decodedFrameHistory
    (frames, { b with decodedFrameHistory := history }.eraseThrough u skipped.length)

def dropNextDecodableTemporalUnit : FrameBuffer :=
  match b.nextDecodableTemporalUnit with
  | none => b
  | some u =>
    b.eraseThrough u
      (b.frames.takeWhile fun it => decide (it.frame.id ≤ u.lastFrame.id)).length

def new (maxSize maxDecodeHistory : Nat) (legacyFrameIdJumpBehavior : Bool)
    (hpos : 0 < maxDecodeHistory := by decide) (hlt : maxDecodeHistory < 2 ^ 31 := by decide) :
    FrameBuffer where
  legacyFrameIdJumpBehavior
  maxSize
  decodedFrameHistory := ⟨maxDecodeHistory, hpos, hlt, fun _ => false, none, none, none⟩

end FrameBuffer

end WebRtc.VideoCoding
