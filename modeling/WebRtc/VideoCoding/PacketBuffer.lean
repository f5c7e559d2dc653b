import WebRtc.VideoCoding.RtpVp9RefFinder

/-!
# WebRTC — the packet buffer

The model of `modules/video_coding/packet_buffer.cc`. The ring is a function from indices to slots.
A packet carries its identity `id`; the source moves unique pointers. The packets that a call
returns are given frame by frame. `missing_packets_` and `received_padding_` are lists in the order
of the source's comparator.
-/

namespace WebRtc.VideoCoding

open Lib Numerics CompList

inductive VideoCodecType where
  | generic | vp8 | vp9 | av1 | h264 | h265
deriving DecidableEq

inductive NaluType where
  | sps | pps | idr | other
deriving DecidableEq

/-- `PacketBuffer::Packet` with the fields of its video header that the buffer uses. -/
structure Packet where
  id : Nat
  seqNum : BitVec 16
  timestamp : BitVec 32
  isFirst : Bool
  isLast : Bool
  codec : VideoCodecType
  -- Whether there is a generic descriptor.
  generic : Bool := false
  -- The NAL units of the H.264 header, where there is one.
  nalus : Option (List NaluType) := none
  frameType : VideoFrameType := .delta
  width : Int := 0
  height : Int := 0
  continuous : Bool := false
deriving DecidableEq

structure PacketBuffer where
  maxSize : Nat
  size : Nat
  slots : Nat → Option Packet := fun _ => none
  firstSeqNum : BitVec 16 := 0
  firstPacketReceived : Bool := false
  isClearedToFirstSeqNum : Bool := false
  newestInsertedSeqNum : Option (BitVec 16) := none
  missingPackets : List (BitVec 16) := []
  receivedPadding : List (BitVec 16) := []
  spsPpsIdrIsH264Keyframe : Bool := false

namespace PacketBuffer

def seqNumBefore (a b : BitVec 16) : Bool := aheadOf b a

variable (b : PacketBuffer)

variable (seqNum : BitVec 16)

def index : Nat := seqNum.toNat % b.size

def prevIndex (i : Nat) : Nat := if 0 < i then i - 1 else b.size - 1

def setSlot (i : Nat) (p : Option Packet) : PacketBuffer :=
  { b with slots := Function.update b.slots i p }

def clear : PacketBuffer :=
  { b with
    slots := fun _ => none
    firstPacketReceived := false
    isClearedToFirstSeqNum := false
    newestInsertedSeqNum := none
    missingPackets := []
    receivedPadding := [] }

/-- `ExpandBufferSize`; `none` where it returns false. -/
def expandBufferSize : Option PacketBuffer :=
  if b.size = b.maxSize then none
  else
    let newSize := min b.maxSize (2 * b.size)
    some { b with
      size := newSize
      slots := (List.range b.size).foldl
        (fun slots i =>
          match b.slots i with
          | none => slots
          | some p => Function.update slots (p.seqNum.toNat % newSize) (some p))
        fun _ => none }

/-- The loop in `InsertPacket` that expands the buffer until there is room. Each round
makes it larger, so there are fewer than `maxSize` rounds. -/
def expandFor (seqNum : BitVec 16) : Nat → PacketBuffer → PacketBuffer
  | 0, b => b
  | fuel + 1, b =>
    match b.expandBufferSize with
    | none => b
    | some b => if b.slots (b.index seqNum) ≠ none then expandFor seqNum fuel b else b

def potentialNewFrame : Bool :=
  match b.slots (b.index seqNum) with
  | none => false
  | some entry =>
    decide (entry.seqNum = seqNum) &&
      (entry.isFirst ||
        match b.slots (b.prevIndex (b.index seqNum)) with
        | none => false
        | some prev =>
          decide (prev.seqNum = entry.seqNum - 1) && decide (prev.timestamp = entry.timestamp)
            && prev.continuous)

def enterMissing (seqNum : BitVec 16) : Nat → BitVec 16 → List (BitVec 16) →
    BitVec 16 × List (BitVec 16)
  | 0, newest, missing => (newest, missing)
  | fuel + 1, newest, missing =>
    if aheadOf seqNum newest then
      enterMissing seqNum fuel (newest + 1) (emplace seqNumBefore id newest missing)
    else (newest, missing)

def updateMissingPackets : PacketBuffer :=
  let newest := b.newestInsertedSeqNum.getD seqNum
  if aheadOf seqNum newest then
    let old := seqNum - 1000
    let missing := fromLower seqNumBefore id old b.missingPackets
    let newest := (if aheadOf old newest then old else newest) + 1
    let (newest, missing) := enterMissing seqNum (forwardDiff newest seqNum).toNat newest missing
    { b with newestInsertedSeqNum := some newest, missingPackets := missing }
  else
    { b with
      newestInsertedSeqNum := some newest
      missingPackets := erase seqNumBefore id seqNum b.missingPackets }

/-! ## The search for the first packet of a frame -/

structure Search where
  startIndex : Nat
  startSeqNum : BitVec 16
  isH264Descriptor : Bool
  hasSps : Bool := false
  hasPps : Bool := false
  hasIdr : Bool := false
  isH264Keyframe : Bool := false
  idrWidth : Int := -1
  idrHeight : Int := -1
  fullFrameFound : Bool := false

/-- What the search notes of an H.264 packet; `none` where the packet has no H.264
header and `FindFrames` returns. -/
def noteNalus (p : Packet) (s : Search) : Option Search :=
  match p.nalus with
  | none => none
  | some nalus =>
    let hasSps := s.hasSps || nalus.contains .sps
    let hasPps := s.hasPps || nalus.contains .pps
    let hasIdr := s.hasIdr || nalus.contains .idr
    let s := { s with hasSps, hasPps, hasIdr }
    if hasIdr && (!b.spsPpsIdrIsH264Keyframe || (hasSps && hasPps)) then
      if 0 < p.width ∧ 0 < p.height then
        some { s with isH264Keyframe := true, idrWidth := p.width, idrHeight := p.height }
      else some { s with isH264Keyframe := true }
    else some s

/-- A descriptor is found on the packet: the frame is not one without. -/
def Search.seeGeneric (s : Search) (entry : Option Packet) : Search :=
  { s with isH264Descriptor := s.isH264Descriptor && !entry.any Packet.generic }

/-- The backward search for the first packet of the frame; the first argument is the
number of packets that may still be tested. -/
def searchStart (frameTimestamp : BitVec 32) : Nat → Search → Option Search
  | 0, s => some s
  | left + 1, s =>
    let entry := b.slots s.startIndex
    let s := s.seeGeneric entry
    if !s.isH264Descriptor && entry.all Packet.isFirst then
      some { s with fullFrameFound := entry.isSome }
    else
      match (if s.isH264Descriptor then entry.bind fun p => b.noteNalus p s else some s) with
      | none => none
      | some s =>
        if left = 0 then some s
        else
          let prev := b.prevIndex s.startIndex
          if s.isH264Descriptor && !(b.slots prev).any fun p => decide (p.timestamp = frameTimestamp)
          then some s
          else
            searchStart frameTimestamp left
              { s with startIndex := prev, startSeqNum := s.startSeqNum - 1 }

def markFrameType (s : Search) : PacketBuffer :=
  match b.slots (b.index s.startSeqNum) with
  | none => b
  | some p =>
    b.setSlot (b.index s.startSeqNum) <| some <|
      if s.isH264Keyframe then
        if 0 < s.idrWidth ∧ 0 < s.idrHeight then
          { p with frameType := .key, width := s.idrWidth, height := s.idrHeight }
        else { p with frameType := .key }
      else { p with frameType := .delta }

def takePackets (first last : BitVec 16) : Nat → BitVec 16 → PacketBuffer →
    List Packet × PacketBuffer
  | 0, _, b => ([], b)
  | n + 1, j, b =>
    match b.slots (b.index j) with
    | none => ([], b)
    | some p =>
      let (packets, b) := takePackets first last n (j + 1) (b.setSlot (b.index j) none)
      ({ p with isFirst := decide (j = first), isLast := decide (j = last) } :: packets, b)

def takeFrame (start first last : BitVec 16) : List Packet × PacketBuffer :=
  let (packets, b) := takePackets first last (last + 1 - first).toNat first b
  (packets,
    { b with
      missingPackets := fromUpper seqNumBefore id last b.missingPackets
      receivedPadding := below seqNumBefore id start b.receivedPadding
        ++ fromUpper seqNumBefore id last b.receivedPadding })

def frameOf (packets : List Packet) : List (List Packet) :=
  if packets.isEmpty then [] else [packets]

/-- The packet at `seqNum` completes a frame if the search finds its beginning. The
flag says that `FindFrames` goes on. -/
def completeFrame (start seqNum : BitVec 16) (last : Packet) :
    List (List Packet) × PacketBuffer × Bool :=
  let isH264Descriptor := decide (last.codec = .h264) && !last.generic
  match b.searchStart last.timestamp b.size ⟨b.index seqNum, seqNum, isH264Descriptor, false, false,
    false, false, -1, -1, false⟩ with
  | none => ([], b, false)
  | some s =>
    if s.isH264Descriptor then
      let b := b.markFrameType s
      if !s.isH264Keyframe && upTo seqNumBefore id s.startSeqNum b.missingPackets ≠ [] then
        ([], b, false)
      else
        let (frame, b) := b.takeFrame start s.startSeqNum seqNum
        (frameOf frame, b, true)
    else if s.fullFrameFound then
      let (frame, b) := b.takeFrame start s.startSeqNum seqNum
      (frameOf frame, b, true)
    else ([], b, true)

def findFramesFrom (start : BitVec 16) : Nat → BitVec 16 → PacketBuffer →
    List (List Packet) × PacketBuffer
  | 0, _, b => ([], b)
  | n + 1, seqNum, b =>
    if b.receivedPadding.contains seqNum then findFramesFrom start n (seqNum + 1) b
    else if !b.potentialNewFrame seqNum then ([], b)
    else
      match b.slots (b.index seqNum) with
      | none => ([], b)
      | some p =>
        let p := { p with continuous := true }
        let b := b.setSlot (b.index seqNum) (some p)
        if p.isLast then
          let (found, b, goesOn) := b.completeFrame start seqNum p
          if goesOn then
            let (frames, b) := findFramesFrom start n (seqNum + 1) b
            (found ++ frames, b)
          else (found, b)
        else findFramesFrom start n (seqNum + 1) b

def findFrames : List (List Packet) × PacketBuffer :=
  findFramesFrom seqNum b.size seqNum b

/-! ## The calls -/

structure InsertResult where
  frames : List (List Packet) := []
  bufferCleared : Bool := false
deriving DecidableEq

/-- The beginning of `InsertPacket`: where the stream begins; `none` where the packet is
old and ignored. -/
def noteFirst : Option PacketBuffer :=
  if !b.firstPacketReceived then
    some { b with firstSeqNum := seqNum, firstPacketReceived := true }
  else if aheadOf b.firstSeqNum seqNum then
    if b.isClearedToFirstSeqNum then none
    else if b.maxSize ≤ (forwardDiff b.firstSeqNum seqNum).toNat ∧
        b.maxSize / 2 ≤ (forwardDiff seqNum b.firstSeqNum).toNat then
      some { b.clear with firstPacketReceived := true, firstSeqNum := seqNum }
    else some { b with firstSeqNum := seqNum }
  else some b

def store (p : Packet) : InsertResult × PacketBuffer :=
  let b := b.setSlot (b.index p.seqNum) (some { p with continuous := false })
  let b := b.updateMissingPackets p.seqNum
  let b := { b with
    receivedPadding := fromLower seqNumBefore id
      (p.seqNum - BitVec.ofNat 16 (b.size / 4)) b.receivedPadding }
  let (frames, b) := b.findFrames p.seqNum
  ({ frames }, b)

def insertPacket (p : Packet) : InsertResult × PacketBuffer :=
  match b.noteFirst p.seqNum with
  | none => ({}, b)
  | some b =>
    match b.slots (b.index p.seqNum) with
    | none => b.store p
    | some stored =>
      if stored.seqNum = p.seqNum then ({}, b)
      else
        let b := expandFor p.seqNum b.maxSize b
        if b.slots (b.index p.seqNum) ≠ none then ({ bufferCleared := true }, b.clear)
        else b.store p

def insertPadding : InsertResult × PacketBuffer :=
  let b := b.updateMissingPackets seqNum
  let b := { b with
    receivedPadding := emplace seqNumBefore id seqNum b.receivedPadding }
  let (frames, b) := b.findFrames (seqNum + 1)
  ({ frames }, b)

def clearSlots (seqNum : BitVec 16) : Nat → BitVec 16 → PacketBuffer → PacketBuffer
  | 0, _, b => b
  | n + 1, first, b =>
    let stored := b.slots (b.index first)
    clearSlots seqNum n (first + 1)
      (if stored.any fun p => aheadOf seqNum p.seqNum then b.setSlot (b.index first) none else b)

def clearTo : PacketBuffer :=
  if aheadOf b.firstSeqNum seqNum then b
  else if !b.firstPacketReceived then b
  else
    let seqNum := seqNum + 1
    let iterations := min (forwardDiff b.firstSeqNum seqNum).toNat b.size
    let b := clearSlots seqNum iterations b.firstSeqNum b
    { b with
      firstSeqNum := seqNum
      isClearedToFirstSeqNum := true
      missingPackets := fromLower seqNumBefore id seqNum b.missingPackets
      receivedPadding := fromLower seqNumBefore id seqNum b.receivedPadding }

def new (startSize maxSize : Nat) (spsPpsIdrIsH264Keyframe : Bool) : PacketBuffer where
  maxSize
  size := startSize
  spsPpsIdrIsH264Keyframe

end PacketBuffer

end WebRtc.VideoCoding
