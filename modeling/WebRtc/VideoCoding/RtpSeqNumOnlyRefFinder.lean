import WebRtc.VideoCoding.RtpVp9RefFinder

/-!
# WebRTC — references from sequence numbers alone

The model of `modules/video_coding/rtp_seq_num_only_ref_finder.cc`. All that the finder decides, it
decides by comparing sequence numbers, adding constants to them and measuring distances. These
operations are a parameter (`Numbering`), so that one text is the code on 16-bit numbers
(`Numbering.wire`) and the algorithm on the unwrapped numbers behind them (`Numbering.unwrapped`).
The unwrapper of the source only translates the numbers of the frames that are handed off.
-/

namespace WebRtc.VideoCoding

open Numerics Lib CompList

/-- The operations on sequence numbers: `AheadOf`, addition of a constant, and
`ForwardDiff`. -/
structure Numbering (ν : Type) where
  aheadOf : ν → ν → Bool
  plus : ν → Int → ν
  forwardDiff : ν → ν → Nat

namespace Numbering

def wire : Numbering (BitVec 16) where
  aheadOf a b := a != b && aheadOrAt a b
  plus a k := a + BitVec.ofInt 16 k
  forwardDiff a b := (Numerics.forwardDiff a b).toNat

/-- The same operations on numbers that do not wrap. -/
def unwrapped : Numbering Int where
  aheadOf a b := decide (b < a)
  plus a k := a + k
  forwardDiff a b := (b - a).toNat

def before {ν : Type} (N : Numbering ν) (a b : ν) : Bool := N.aheadOf b a

end Numbering

structure SeqNumFrame (ν : Type) where
  frameType : VideoFrameType
  firstSeqNum : ν
  lastSeqNum : ν
deriving DecidableEq

/-- An entry of `last_seq_num_gop_`: the key, and the last sequence number of
the group's last frame without and with the padding behind it. -/
structure Gop (ν : Type) where
  key : ν
  lastPictureId : ν
  lastWithPadding : ν
deriving DecidableEq

/-- A frame that is handed off, with the `last_picture_id_gop` it refers to. -/
structure HandedOff (ν : Type) where
  frame : SeqNumFrame ν
  reference : ν
deriving DecidableEq

structure GopTracker (ν : Type) where
  lastSeqNumGop : List (Gop ν) := []
  stashedPadding : List ν := []
  stashedFrames : List (SeqNumFrame ν) := []
deriving DecidableEq

def maxPaddingAge : Int := 100

namespace GopTracker

variable {ν : Type} [DecidableEq ν] (N : Numbering ν)

/-- The padding packets that follow `last` without a gap are taken out of the
stash, and `last` is advanced to the last of them. -/
def absorb (last : ν) : List ν → ν × List ν
  | [] => (last, [])
  | p :: ps => if p = N.plus last 1 then absorb p ps else (last, p :: ps)

def advance (gop : Gop ν) (stash : List ν) : Gop ν × List ν :=
  let next := N.plus gop.lastWithPadding 1
  let (last, rest) :=
    absorb N gop.lastWithPadding (fromLower N.before id next stash)
  ({ gop with lastWithPadding := last }, below N.before id next stash ++ rest)

def updateLastPictureIdWithPadding (seqNum : ν) (t : GopTracker ν) : GopTracker ν :=
  let front := upTo N.before Gop.key seqNum t.lastSeqNumGop
  match front.getLast? with
  -- The number belongs to a group that is not tracked any more.
  | none => t
  | some gop =>
    let (gop, stash) := advance N gop t.stashedPadding
    { t with
      stashedPadding := stash
      lastSeqNumGop :=
        if 10000 < N.forwardDiff gop.key seqNum then [{ gop with key := seqNum }]
        else front.dropLast ++ gop :: fromUpper N.before Gop.key seqNum t.lastSeqNumGop }

def cleanGops (seqNum : ν) (gops : List (Gop ν)) : List (Gop ν) :=
  gops.drop (min (below N.before Gop.key (N.plus seqNum (-100)) gops).length
    (gops.length - 1))

variable (frame : SeqNumFrame ν)

def enterFrame (gops : List (Gop ν)) : List (Gop ν) :=
  match frame.frameType with
  | .key =>
    emplace N.before Gop.key
      ⟨frame.lastSeqNum, frame.lastSeqNum, frame.lastSeqNum⟩ gops
  | .delta => gops

def takeFrame (gop : Gop ν) : Gop ν :=
  if N.aheadOf frame.lastSeqNum gop.lastPictureId then
    { gop with lastPictureId := frame.lastSeqNum, lastWithPadding := frame.lastSeqNum }
  else gop

/-- `ManageFrameInternal`. The second component is what the frame refers to. -/
def manageFrameInternal (t : GopTracker ν) :
    FrameDecision × Option ν × GopTracker ν :=
  let entered := enterFrame N frame t.lastSeqNumGop
  -- There has been no key frame yet.
  if entered = [] then (.stash, none, t)
  else
    let gops := cleanGops N frame.lastSeqNum entered
    let t := { t with lastSeqNumGop := gops }
    let front := upTo N.before Gop.key frame.lastSeqNum gops
    match front.getLast? with
    | none => (.drop, none, t)
    | some gop =>
      if frame.frameType = .delta ∧ N.plus frame.firstSeqNum (-1) ≠ gop.lastWithPadding then
        (.stash, none, t)
      else
        let gops :=
          front.dropLast ++ takeFrame N frame gop ::
            fromUpper N.before Gop.key frame.lastSeqNum gops
        (.handOff, some gop.lastPictureId,
          updateLastPictureIdWithPadding N frame.lastSeqNum { t with lastSeqNumGop := gops })

/-- One pass of `RetryStashedFrames` over the frames in `todo`; `kept` stay
stashed, `res` are handed off. -/
def retryPass : List (SeqNumFrame ν) → GopTracker ν → List (SeqNumFrame ν) →
    List (HandedOff ν) → GopTracker ν × List (SeqNumFrame ν) × List (HandedOff ν)
  | [], t, kept, res => (t, kept, res)
  | frame :: todo, t, kept, res =>
    match manageFrameInternal N frame t with
    | (.handOff, some reference, t) => retryPass todo t kept (res ++ [⟨frame, reference⟩])
    | (.stash, _, t) => retryPass todo t (kept ++ [frame]) res
    | (_, _, t) => retryPass todo t kept res

/-- `RetryStashedFrames`: passes until one hands off nothing. A pass that does
leaves fewer frames for the next one, so the stash bounds their number. -/
def retryStashedFrames : Nat → GopTracker ν → List (HandedOff ν) →
    GopTracker ν × List (HandedOff ν)
  | 0, t, res => (t, res)
  | fuel + 1, t, res =>
    let (t, kept, handed) := retryPass N t.stashedFrames t [] []
    let t := { t with stashedFrames := kept }
    if handed = [] then (t, res) else retryStashedFrames fuel t (res ++ handed)

def manageFrame (t : GopTracker ν) : GopTracker ν × List (HandedOff ν) :=
  match manageFrameInternal N frame t with
  | (.handOff, some reference, t) =>
    retryStashedFrames N (t.stashedFrames.length + 1) t [⟨frame, reference⟩]
  | (.stash, _, t) =>
    let kept :=
      if maxStashedFrames < t.stashedFrames.length then t.stashedFrames.dropLast
      else t.stashedFrames
    ({ t with stashedFrames := frame :: kept }, [])
  | (_, _, t) => (t, [])

def paddingReceived (seqNum : ν) (t : GopTracker ν) : GopTracker ν × List (HandedOff ν) :=
  let kept := fromLower N.before id (N.plus seqNum (-maxPaddingAge)) t.stashedPadding
  let t := { t with stashedPadding := emplace N.before id seqNum kept }
  let t := updateLastPictureIdWithPadding N seqNum t
  retryStashedFrames N (t.stashedFrames.length + 1) t []

end GopTracker

structure SeqNumOnlyFrame where
  frame : SeqNumFrame (BitVec 16)
  id : Int
  references : List Int
deriving DecidableEq

structure RtpSeqNumOnlyRefFinder where
  tracker : GopTracker (BitVec 16) := {}
  unwrapper : SeqNumUnwrapper 16 := SeqNumUnwrapper.init 16

namespace RtpSeqNumOnlyRefFinder

/-- Id and reference of the handed-off frames. A key frame unwraps the number
of its group as well, but counts no reference. -/
def finish : SeqNumUnwrapper 16 → List (HandedOff (BitVec 16)) →
    List SeqNumOnlyFrame × SeqNumUnwrapper 16
  | u, [] => ([], u)
  | u, h :: hs =>
    let (reference, u) := u.unwrap h.reference
    let (id, u) := u.unwrap h.frame.lastSeqNum
    let (frames, u) := finish u hs
    (⟨h.frame, id, if h.frame.frameType = .delta then [reference] else []⟩ :: frames, u)

def deliver (s : RtpSeqNumOnlyRefFinder)
    (r : GopTracker (BitVec 16) × List (HandedOff (BitVec 16))) :
    List SeqNumOnlyFrame × RtpSeqNumOnlyRefFinder :=
  let (frames, u) := finish s.unwrapper r.2
  (frames, ⟨r.1, u⟩)

def manageFrame (s : RtpSeqNumOnlyRefFinder) (frame : SeqNumFrame (BitVec 16)) :
    List SeqNumOnlyFrame × RtpSeqNumOnlyRefFinder :=
  s.deliver (s.tracker.manageFrame .wire frame)

def paddingReceived (s : RtpSeqNumOnlyRefFinder) (seqNum : BitVec 16) :
    List SeqNumOnlyFrame × RtpSeqNumOnlyRefFinder :=
  s.deliver (s.tracker.paddingReceived .wire seqNum)

end RtpSeqNumOnlyRefFinder

end WebRtc.VideoCoding
