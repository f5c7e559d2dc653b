import WebRtc.Lib.CompList
import WebRtc.Lib.OrdMap
import WebRtc.Numerics.SeqNum

/-!
# WebRTC — VP9 references

The model of `modules/video_coding/rtp_vp9_ref_finder.cc`, which derives the references of a frame
from its position in a group of frames. Picture ids are 15 bits wide, so `ForwardDiff`, `AheadOf`
and `Subtract` with `M = 2 ^ 15` are those of `BitVec 15`. The finder's pointers into
`scalability_structures_` are indices, so that a structure that is overwritten changes for every
group that points to it.
-/

namespace WebRtc.VideoCoding

open Numerics Lib CompList

abbrev PictureId := BitVec 15

def aheadOfPictureId (a b : PictureId) : Bool := a != b && aheadOrAt a b

/-- `DescendingSeqNumComp<uint16_t, 1 << 15>`: `a` comes before `b` when `b` is
ahead of it. -/
def pictureIdBefore (a b : PictureId) : Bool := aheadOfPictureId b a

/-- `VideoFrameType`, without the empty frame, which has no frame object. -/
inductive VideoFrameType where
  | key | delta
deriving DecidableEq

/-- One position of `GofInfoVP9`: `temporal_idx[i]` and the first
`num_ref_pics[i]` entries of `pid_diff[i]`. -/
structure GofFrame where
  temporalIdx : Nat
  pidDiff : List (BitVec 8)
deriving DecidableEq, Inhabited

/-- `GofInfoVP9`. The list has `num_frames_in_gof` elements. -/
structure GofInfoVP9 where
  frames : List GofFrame
  pidStart : PictureId := 0
deriving DecidableEq, Inhabited

/-- `SetGofInfoVP9(kTemporalStructureMode1)`: one temporal layer. -/
def GofInfoVP9.mode1 : GofInfoVP9 := ⟨[⟨0, [1]⟩], 0⟩

structure RTPVideoHeaderVP9 where
  pictureId : BitVec 16
  temporalIdx : Nat
  spatialIdx : Nat
  flexibleMode : Bool
  -- `kNoTl0PicIdx` is `none`.
  tl0PicIdx : Option (BitVec 8)
  temporalUpSwitch : Bool := false
  interPicPredicted : Bool
  interLayerPredicted : Bool
  -- `num_ref_pics` and `pid_diff`, of flexible mode.
  pidDiff : List (BitVec 8) := []
  ssDataAvailable : Bool := false
  gof : GofInfoVP9 := ⟨[], 0⟩
deriving DecidableEq

structure RtpFrameObject where
  header : RTPVideoHeaderVP9
  firstSeqNum : BitVec 16 := 0
  id : Int := 0
  temporalIndex : Option Nat := none
  spatialIndex : Nat := 0
  -- The first `num_references` entries of `references`.
  references : List Int := []
deriving DecidableEq

namespace RtpFrameObject

/-- `frame_type()`. The depacketizer calls a VP9 frame a key frame when it is
predicted neither from an earlier picture nor from a lower layer. -/
def frameType (f : RtpFrameObject) : VideoFrameType :=
  if f.header.interPicPredicted || f.header.interLayerPredicted then .delta else .key

/-- `frame->Id()` before it is flattened, as the `uint16_t` it is passed on as. -/
def pictureId (f : RtpFrameObject) : PictureId := wrap 15 f.id

end RtpFrameObject

inductive FrameDecision where
  | stash | handOff | drop
deriving DecidableEq

/-- `RtpVp9RefFinder::GofInfo`; `gof` is an index into the structures. -/
structure GofInfo where
  gof : Nat
  lastPictureId : PictureId
deriving DecidableEq

def maxGofSaved : Nat := 50
def maxStashedFrames : Nat := 100
def maxTemporalLayers : Nat := 5
def maxSpatialLayers : Nat := 5
def maxVp9RefPics : Nat := 3
def maxVp9FramesInGof : Nat := 255
def maxFrameReferences : Nat := 5

structure RtpVp9RefFinder where
  stashedFrames : List (Int × RtpFrameObject) := []
  currentSsIdx : Nat := 0
  scalabilityStructures : Nat → GofInfoVP9 := fun _ => default
  gofInfo : OrdMap Int GofInfo := OrdMap.empty
  upSwitch : List (PictureId × Nat) := []
  missingFramesForLayer : Nat → List PictureId := fun _ => []
  unwrapper : SeqNumUnwrapper 15 := SeqNumUnwrapper.init 15
  tl0Unwrapper : SeqNumUnwrapper 8 := SeqNumUnwrapper.init 8

namespace GofInfoVP9

def gofIdx (g : GofInfoVP9) (p : PictureId) : Nat :=
  (forwardDiff g.pidStart p).toNat % g.frames.length

def frameAt (g : GofInfoVP9) (i : Nat) : GofFrame := g.frames.getD i default

def position (g : GofInfoVP9) (p : PictureId) : GofFrame := g.frameAt (g.gofIdx p)

def listed (g : GofInfoVP9) (p : PictureId) : List PictureId :=
  (g.position p).pidDiff.map fun d => p - d.setWidth 15

end GofInfoVP9

namespace RtpVp9RefFinder

variable (s : RtpVp9RefFinder)

def structureOf (info : GofInfo) : GofInfoVP9 := s.scalabilityStructures info.gof

def upSwitchInIntervalVp9 (pictureId : PictureId) (temporalIdx : Nat) (pidRef : PictureId) :
    Bool :=
  ((fromUpper pictureIdBefore Prod.fst pidRef s.upSwitch).takeWhile
    fun e => aheadOfPictureId pictureId e.1).any fun e => decide (e.2 < temporalIdx)

def missingRequiredFrameVp9 (pictureId : PictureId) (info : GofInfo) : Bool :=
  let gof := s.structureOf info
  let temporalIdx := (gof.position pictureId).temporalIdx
  decide (maxTemporalLayers ≤ temporalIdx) ||
    (gof.listed pictureId).any fun refPid =>
      (List.range temporalIdx).any fun l =>
        match fromLower pictureIdBefore id refPid (s.missingFramesForLayer l) with
        | [] => false
        | missing :: _ => aheadOfPictureId pictureId missing

def setMissing (l : Nat) (ids : List PictureId) : RtpVp9RefFinder :=
  { s with missingFramesForLayer := Function.update s.missingFramesForLayer l ids }

/-- The `while` loop of `FrameReceivedVp9`: `last` runs up to the picture id,
and every id on the way is missing in the layer that the structure has it in.
The picture id is `fuel` increments away. The second component is `false` when
the structure names a layer that is not supported. -/
def markMissing (gof : GofInfoVP9) :
    Nat → Nat → PictureId → RtpVp9RefFinder → RtpVp9RefFinder × Bool
  | 0, _, _, s => (s, true)
  | fuel + 1, gofIdx, last, s =>
    -- The index is counted on, not taken from `last` again: the two part when
    -- `last` passes `pid_start`.
    let gofIdx := (gofIdx + 1) % gof.frames.length
    let layer := (gof.frameAt gofIdx).temporalIdx
    if maxTemporalLayers ≤ layer then (s, false)
    else
      markMissing gof fuel gofIdx (last + 1)
        (s.setMissing layer
          (emplace pictureIdBefore id last (s.missingFramesForLayer layer)))

def frameReceivedVp9 (pictureId : PictureId) (key : Int) (info : GofInfo) : RtpVp9RefFinder :=
  let gof := s.structureOf info
  if aheadOfPictureId pictureId info.lastPictureId then
    let first := info.lastPictureId + 1
    match markMissing gof (forwardDiff first pictureId).toNat (gof.gofIdx info.lastPictureId)
      first s with
    | (s, false) => s
    | (s, true) =>
      { s with gofInfo := s.gofInfo.insert key { info with lastPictureId := pictureId } }
  else
    let layer := (gof.position pictureId).temporalIdx
    if maxTemporalLayers ≤ layer then s
    else
      s.setMissing layer
        (erase pictureIdBefore id pictureId (s.missingFramesForLayer layer))

def unwrapAll : SeqNumUnwrapper 15 → List PictureId → List Int × SeqNumUnwrapper 15
  | u, [] => ([], u)
  | u, p :: ps =>
    let (x, u) := u.unwrap p
    let (xs, u) := unwrapAll u ps
    (x :: xs, u)

variable (frame : RtpFrameObject)

def flattenFrameIdAndRefs (references : List PictureId)
    (interLayerPredicted : Bool) : RtpFrameObject × RtpVp9RefFinder :=
  let (unwrapped, u) := unwrapAll s.unwrapper references
  let refs := unwrapped.map fun x : Int => x * maxSpatialLayers + frame.spatialIndex
  let (picture, u) := u.unwrap frame.pictureId
  let id := picture * maxSpatialLayers + frame.spatialIndex
  let refs :=
    if interLayerPredicted && decide (refs.length + 1 ≤ maxFrameReferences) then refs ++ [id - 1]
    else refs
  ({ frame with id := id, references := refs }, { s with unwrapper := u })

/-- The loop of `ManageFrameGof` that populates `references`. `written` are the
entries written so far, and `num` is `num_references`, which the loop compares
its index with and decrements. -/
def populate (ignored : PictureId → Bool) (listed : List PictureId) :
    Nat → List PictureId → Nat → List PictureId
  | 0, written, num => written.take num
  | fuel + 1, written, num =>
    if written.length < num then
      match listed[written.length]? with
      | none => written.take num
      | some reference =>
        populate ignored listed fuel (written ++ [reference])
          (if ignored reference then num - 1 else num)
    else written.take num

/-- The references of a frame according to its structure, as the loop leaves
them. The index grows with each pass, so there are at most as many passes as
listed references. -/
def populateReferences (gof : GofInfoVP9) : List PictureId :=
  let listed := gof.listed frame.pictureId
  populate (s.upSwitchInIntervalVp9 frame.pictureId frame.header.temporalIdx) listed
    listed.length [] listed.length

def storeStructure (unwrappedTl0 : Int) : RtpVp9RefFinder :=
  let gof := if frame.header.gof.frames = [] then GofInfoVP9.mode1 else frame.header.gof
  let idx := (s.currentSsIdx + 1) % maxGofSaved
  { s with
    currentSsIdx := idx
    scalabilityStructures :=
      Function.update s.scalabilityStructures idx { gof with pidStart := frame.pictureId }
    gofInfo := (s.gofInfo.emplace unwrappedTl0 ⟨idx, frame.pictureId⟩).1 }

def acceptable (gof : GofInfoVP9) : Bool :=
  decide (gof.frames.length ≤ maxVp9FramesInGof) &&
    gof.frames.all fun f => decide (f.pidDiff.length ≤ maxVp9RefPics)

def findGof (unwrappedTl0 : Int) :
    RtpVp9RefFinder × Except FrameDecision GofInfo :=
  let header := frame.header
  if header.ssDataAvailable then
    if header.temporalIdx = 0 && !acceptable header.gof then (s, .error .drop)
    else
      let s := if header.temporalIdx = 0 then s.storeStructure frame unwrappedTl0 else s
      match s.gofInfo.find? unwrappedTl0 with
      | none => (s, .error .stash)
      | some info => (s, .ok info)
  else if frame.frameType = .key then (s, .error .drop)
  else
    let usePrevGof := header.temporalIdx = 0 && !header.interLayerPredicted
    match s.gofInfo.find? (if usePrevGof then unwrappedTl0 - 1 else unwrappedTl0) with
    | none => (s, .error .stash)
    | some info =>
      if header.temporalIdx = 0 then
        let s :=
          { s with gofInfo := (s.gofInfo.emplace unwrappedTl0 ⟨info.gof, frame.pictureId⟩).1 }
        match s.gofInfo.find? unwrappedTl0 with
        -- `emplace` leaves an entry under the key it is called with.
        | none => (s, .error .stash)
        | some info => (s, .ok info)
      else (s, .ok info)

/-- The up-switch map as `ManageFrameGof` leaves it: the frame is entered when
it is one, and entries more than fifty pictures old are dropped. -/
def updateUpSwitch : RtpVp9RefFinder :=
  let entered :=
    if frame.header.temporalUpSwitch then
      emplace pictureIdBefore Prod.fst (frame.pictureId, frame.header.temporalIdx)
        s.upSwitch
    else s.upSwitch
  { s with
    upSwitch := fromLower pictureIdBefore Prod.fst (frame.pictureId - 50) entered }

def manageFrameGof (unwrappedTl0 : Int) :
    FrameDecision × RtpFrameObject × RtpVp9RefFinder :=
  match s.findGof frame unwrappedTl0 with
  | (s, .error decision) => (decision, frame, s)
  | (s, .ok info) =>
    if frame.header.ssDataAvailable && decide (frame.frameType = .key) then
      let s := s.frameReceivedVp9 frame.pictureId unwrappedTl0 info
      let (frame, s) := s.flattenFrameIdAndRefs frame [] frame.header.interLayerPredicted
      (.handOff, frame, s)
    else
      let s := { s with gofInfo := s.gofInfo.filterKeys fun k => unwrappedTl0 - maxGofSaved ≤ k }
      let s := s.frameReceivedVp9 frame.pictureId unwrappedTl0 info
      if s.missingRequiredFrameVp9 frame.pictureId info then (.stash, frame, s)
      else
        let s := s.updateUpSwitch frame
        let gof := s.structureOf info
        if frame.header.interPicPredicted then
          if maxFrameReferences < (gof.listed frame.pictureId).length then (.drop, frame, s)
          else
            let (frame, s) := s.flattenFrameIdAndRefs frame (s.populateReferences frame gof)
              frame.header.interLayerPredicted
            (.handOff, frame, s)
        else
          let (frame, s) := s.flattenFrameIdAndRefs frame [] frame.header.interLayerPredicted
          (.handOff, frame, s)

def manageFrameFlexible :
    FrameDecision × RtpFrameObject × RtpVp9RefFinder :=
  if maxFrameReferences < frame.header.pidDiff.length then (.drop, frame, s)
  else
    let (frame, s) := s.flattenFrameIdAndRefs frame
      (frame.header.pidDiff.map fun d => frame.pictureId - d.setWidth 15)
      frame.header.interLayerPredicted
    (.handOff, frame, s)

/-- One pass of `RetryStashedFrames` over the frames in `todo`; `kept` are those
that stay stashed, `res` the frames handed off. -/
def retryPass : List (Int × RtpFrameObject) → RtpVp9RefFinder → List (Int × RtpFrameObject) →
    List RtpFrameObject → RtpVp9RefFinder × List (Int × RtpFrameObject) × List RtpFrameObject
  | [], s, kept, res => (s, kept, res)
  | (tl0, frame) :: todo, s, kept, res =>
    match s.manageFrameGof frame tl0 with
    | (.stash, frame, s) => retryPass todo s (kept ++ [(tl0, frame)]) res
    | (.handOff, frame, s) => retryPass todo s kept (res ++ [frame])
    | (.drop, _, s) => retryPass todo s kept res

/-- `RetryStashedFrames`: passes until one hands off nothing. Each further pass
has at least one frame less to look at. -/
def retryStashedFrames : Nat → RtpVp9RefFinder → List RtpFrameObject →
    RtpVp9RefFinder × List RtpFrameObject
  | 0, s, res => (s, res)
  | fuel + 1, s, res =>
    let (s, kept, handed) := retryPass s.stashedFrames s [] []
    let s := { s with stashedFrames := kept }
    if handed = [] then (s, res) else retryStashedFrames fuel s (res ++ handed)

def manageFrame : List RtpFrameObject × RtpVp9RefFinder :=
  let header := frame.header
  let frame :=
    { frame with
      temporalIndex := some header.temporalIdx
      spatialIndex := header.spatialIdx
      id := (header.pictureId.setWidth 15).toNat }
  if maxTemporalLayers ≤ header.temporalIdx ∨ maxSpatialLayers ≤ header.spatialIdx then ([], s)
  else
    let (decision, frame, s) :=
      if header.flexibleMode then s.manageFrameFlexible frame
      else
        match header.tl0PicIdx with
        | none => (.drop, frame, s)
        | some tl0PicIdx =>
          let (unwrappedTl0, u) := s.tl0Unwrapper.unwrap tl0PicIdx
          match ({ s with tl0Unwrapper := u }).manageFrameGof frame unwrappedTl0 with
          | (.stash, frame, s) =>
            let kept :=
              if maxStashedFrames < s.stashedFrames.length then s.stashedFrames.dropLast
              else s.stashedFrames
            (.stash, frame, { s with stashedFrames := (unwrappedTl0, frame) :: kept })
          | r => r
    match decision with
    | .stash | .drop => ([], s)
    | .handOff =>
      let (s, res) := retryStashedFrames (s.stashedFrames.length + 1) s [frame]
      (res, s)

end RtpVp9RefFinder

end WebRtc.VideoCoding
