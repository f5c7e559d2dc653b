import Mathlib.Algebra.GroupWithZero.Nat
import Mathlib.Data.List.Basic
import WebRtc.Lib.ByteReader

/-!
# RTP — FlexFEC headers

`FlexfecHeaderWriter::FinalizeFecHeader` puts a K-bit in front of each part of a stream's
packet mask, which moves the bits behind it on; `FlexfecHeaderReader::ReadFecHeader` takes
the K-bits out again and stores the masks in their place. Both go over the packet with words
of 16, 32 and 64 bits, and so does the model.
-/

namespace WebRtc.Rtp.Flexfec

open List Lib Lib.Reader

/-- A mask of 2 or 6 bytes, as the words that `ReadBigEndian` makes of them. -/
inductive PacketMask where
  | lBitClear (part0 : BitVec 16)
  | lBitSet (part0 : BitVec 16) (part1 : BitVec 32)

def PacketMask.bytes : PacketMask → List UInt8
  | .lBitClear part0 => beBytes 2 part0.toNat
  | .lBitSet part0 part1 => beBytes 2 part0.toNat ++ beBytes 4 part1.toNat

structure ProtectedStream where
  seqNumBase : BitVec 16
  packetMask : PacketMask

structure ReceivedStream where
  seqNumBase : BitVec 16
  packetMaskOffset : Nat
  packetMaskSize : Nat

structure ReceivedFecPacket where
  protectedStreams : List ReceivedStream
  data : List UInt8
  fecHeaderSize : Nat
  protectionLength : Nat

/-! ## The writer -/

def minPacketMaskSize : PacketMask → Nat
  | .lBitClear part0 => if part0[0] then 6 else 2
  | .lBitSet _ part1 => if part1[1] || part1[0] then 14 else 6

/-- One bit of a word, where `b` holds. -/
def bitIf {w : Nat} (b : Bool) (i : Nat) : BitVec w := if b then BitVec.twoPow w i else 0

/-- The mask with its K-bits, which are the first bits of the first two words. -/
def maskField : PacketMask → List UInt8
  | .lBitClear part0 =>
    if part0[0] then
      beBytes 2 (part0 >>> 1 ||| BitVec.twoPow 16 15).toNat ++ beBytes 4 (BitVec.twoPow 32 30).toNat
    else beBytes 2 (part0 >>> 1).toNat
  | .lBitSet part0 part1 =>
    let bit46 := part1[1]
    let bit47 := part1[0]
    let part1 := part1 >>> 2 ||| bitIf part0[0] 30
    beBytes 2 (part0 >>> 1 ||| BitVec.twoPow 16 15).toNat ++
      if bit46 || bit47 then
        beBytes 4 (part1 ||| BitVec.twoPow 32 31).toNat ++
          beBytes 8 (bitIf bit46 63 ||| bitIf bit47 62 : BitVec 64).toNat
      else beBytes 4 part1.toNat

def streamHeader (s : ProtectedStream) : List UInt8 :=
  beBytes 2 s.seqNumBase.toNat ++ maskField s.packetMask

/-- The loop, from `write_at` on. -/
def writeStreams : List ProtectedStream → List UInt8 → List UInt8
  | [], data => data
  | s :: streams, data =>
    streamHeader s ++ writeStreams streams (data.drop (streamHeader s).length)

def finalizeFecHeader (streams : List ProtectedStream) (data : List UInt8) : List UInt8 :=
  (data.take 8).modifyHead (fun b => b &&& 0x7f &&& 0xbf) ++ writeStreams streams (data.drop 8)

/-! ## The reader -/

/-- The mask as it is stored in the packet, without K-bits. -/
def readMask : Reader (List UInt8) := do
  let part0 : BitVec 16 ← uint 2
  if part0.msb then
    let part1 : BitVec 32 ← uint 4
    let part0 := part0 <<< 1 ||| bitIf part1[30] 0
    if part1.msb then
      let part2 : BitVec 64 ← uint 8
      let part1 := part1 <<< 2 ||| (part2 >>> 62).setWidth 32
      pure (beBytes 2 part0.toNat ++ beBytes 4 part1.toNat ++ beBytes 8 (part2 <<< 2).toNat)
    else pure (beBytes 2 part0.toNat ++ beBytes 4 (part1 <<< 2).toNat)
  else pure (beBytes 2 (part0 <<< 1).toNat)

def readStreams : Nat → Nat → Reader (List ReceivedStream × List UInt8)
  | 0, _ => pure ([], [])
  | n + 1, byteIndex => do
    let seqNumBase : BitVec 16 ← uint 2
    let mask ← readMask
    let (streams, bytes) ← readStreams n (byteIndex + 2 + mask.length)
    pure (⟨seqNumBase, byteIndex + 2, mask.length⟩ :: streams,
      beBytes 2 seqNumBase.toNat ++ mask ++ bytes)

/-- `n` streams are registered. -/
def readFecHeader (n : Nat) (data : List UInt8) : Option ReceivedFecPacket :=
  if n = 0 ∨ data.length ≤ 10 then none
  else if data.headD 0 &&& 0x80 ≠ 0 ∨ data.headD 0 &&& 0x40 ≠ 0 then none
  else
    (readStreams n 8 (data.drop 8)).map fun ((streams, bytes), payload) =>
      { protectedStreams := streams, data := data.take 8 ++ (bytes ++ payload)
        fecHeaderSize := 8 + bytes.length
        protectionLength := data.length - (8 + bytes.length) }

/-! ## What is read is what was written -/

def PacketMask.padded (m : PacketMask) : List UInt8 :=
  m.bytes ++ replicate (minPacketMaskSize m - m.bytes.length) 0

lemma length_padded (m : PacketMask) : m.padded.length = minPacketMaskSize m := by
  cases m <;> simp only [PacketMask.padded, PacketMask.bytes, minPacketMaskSize] <;> split <;> simp

lemma length_maskField (m : PacketMask) : (maskField m).length = minPacketMaskSize m := by
  cases m <;> simp only [maskField, minPacketMaskSize] <;> split <;> simp

/-- Shifting left puts a word back in place: what was put in front of it is shifted out, and
its last bits are put behind it. -/
lemma shift_back {w k : Nat} (x front : BitVec w) (hfront : front <<< k = 0) :
    (x >>> k ||| front) <<< k ||| (x.setWidth k).setWidth w = x := by
  rw [BitVec.shiftLeft_or_distrib, hfront]
  ext i hi
  by_cases hik : i < k
  · simp [hik, BitVec.getLsbD_eq_getElem hi]
  · simp [hik, BitVec.getLsbD_eq_getElem hi, Nat.add_sub_cancel' (Nat.le_of_not_lt hik)]

section

variable (part0 : BitVec 16) (part1 : BitVec 32) (part2 : BitVec 64) (rest : List UInt8)

lemma readMask_two (h0 : part0.msb = false) :
    readMask (beBytes 2 part0.toNat ++ rest) = some (beBytes 2 (part0 <<< 1).toNat, rest) := by
  rw [readMask, bind_of_eq_some (uint_beBytes 2 part0 rest), h0]
  rfl

lemma readMask_six (h0 : part0.msb = true) (h1 : part1.msb = false) :
    readMask (beBytes 2 part0.toNat ++ (beBytes 4 part1.toNat ++ rest)) =
      some (beBytes 2 (part0 <<< 1 ||| bitIf part1[30] 0).toNat ++
        beBytes 4 (part1 <<< 2).toNat, rest) := by
  rw [readMask, bind_of_eq_some (uint_beBytes 2 part0 _), h0, if_pos rfl,
    bind_of_eq_some (uint_beBytes 4 part1 _), h1]
  rfl

lemma readMask_fourteen (h0 : part0.msb = true) (h1 : part1.msb = true) :
    readMask (beBytes 2 part0.toNat ++ (beBytes 4 part1.toNat ++ (beBytes 8 part2.toNat ++ rest))) =
      some (beBytes 2 (part0 <<< 1 ||| bitIf part1[30] 0).toNat ++
        beBytes 4 (part1 <<< 2 ||| (part2 >>> 62).setWidth 32).toNat ++
          beBytes 8 (part2 <<< 2).toNat, rest) := by
  rw [readMask, bind_of_eq_some (uint_beBytes 2 part0 _), h0, if_pos rfl,
    bind_of_eq_some (uint_beBytes 4 part1 _), h1, if_pos rfl,
    bind_of_eq_some (uint_beBytes 8 part2 _)]
  rfl

end

@[simp] lemma getElem_bitIf {w : Nat} (b : Bool) {i j : Nat} (hj : j < w) :
    (bitIf b i : BitVec w)[j] = (b && decide (j = i)) := by
  cases b <;> simp [bitIf]

lemma low_bit (x : BitVec 16) : (x.setWidth 1).setWidth 16 = bitIf x[0] 0 := by
  ext i hi
  rcases i with _ | i <;> simp

lemma low_bits (x : BitVec 32) : (x.setWidth 2).setWidth 32 =
    ((bitIf x[1] 63 ||| bitIf x[0] 62 : BitVec 64) >>> 62).setWidth 32 := by
  ext i hi
  rcases i with _ | _ | i
  · simp
  · simp
  · simp [BitVec.getLsbD_of_ge, show 64 ≤ 62 + (i + 1 + 1) by omega]

lemma part0_back (x front : BitVec 16) (hfront : front <<< 1 = 0) :
    (x >>> 1 ||| front) <<< 1 ||| bitIf x[0] 0 = x := by
  rw [← low_bit]
  exact shift_back x front hfront

lemma part1_back (x front : BitVec 32) (hfront : front <<< 2 = 0) : (x >>> 2 ||| front) <<< 2 |||
    ((bitIf x[1] 63 ||| bitIf x[0] 62 : BitVec 64) >>> 62).setWidth 32 = x := by
  rw [← low_bits]
  exact shift_back x front hfront

lemma readMask_lBitClear (part0 : BitVec 16) (rest : List UInt8) :
    readMask (maskField (.lBitClear part0) ++ rest) =
      some ((PacketMask.lBitClear part0).padded, rest) := by
  rw [maskField, PacketMask.padded, minPacketMaskSize, PacketMask.bytes, length_beBytes]
  cases hbit : part0[0] with
  | true =>
    have hback := part0_back part0 (BitVec.twoPow 16 15) rfl
    rw [hbit] at hback
    rw [if_pos rfl, if_pos rfl, append_assoc, readMask_six _ _ _ (by simp) (by decide),
      show (BitVec.twoPow 32 30)[30] = true from rfl, hback]
    rfl
  | false =>
    have hback : part0 >>> 1 <<< 1 = part0 := by
      simpa [bitIf, hbit] using part0_back part0 0 rfl
    rw [if_neg nofun, if_neg nofun, readMask_two _ _ (by simp), hback]
    rfl

lemma readMask_lBitSet (part0 : BitVec 16) (part1 : BitVec 32) (rest : List UInt8) :
    readMask (maskField (.lBitSet part0 part1) ++ rest) =
      some ((PacketMask.lBitSet part0 part1).padded, rest) := by
  have hpart0 := part0_back part0 (BitVec.twoPow 16 15) rfl
  have hbit : (part1 >>> 2 ||| bitIf part0[0] 30)[30] = part0[0] := by simp
  have hfront : (bitIf part0[0] 30 : BitVec 32) <<< 2 = 0 := by cases part0[0] <;> rfl
  rw [maskField, PacketMask.padded, minPacketMaskSize, PacketMask.bytes]
  by_cases hbits : (part1[1] || part1[0]) = true
  · have hpart1 := part1_back part1 (bitIf part0[0] 30 ||| BitVec.twoPow 32 31)
      (by rw [BitVec.shiftLeft_or_distrib, hfront]; rfl)
    have hbit' : (part1 >>> 2 ||| bitIf part0[0] 30 ||| BitVec.twoPow 32 31)[30] = part0[0] := by
      simp
    have hzero : (bitIf part1[1] 63 ||| bitIf part1[0] 62 : BitVec 64) <<< 2 = 0 := by
      cases part1[1] <;> cases part1[0] <;> rfl
    rw [if_pos hbits, if_pos hbits, append_assoc, append_assoc,
      readMask_fourteen _ _ _ _ (by simp) (by simp), hbit', hpart0, hzero, BitVec.or_assoc, hpart1]
    rfl
  · obtain ⟨h1, h0⟩ := Bool.or_eq_false_iff.mp (Bool.not_eq_true _ ▸ hbits)
    have hpart1 : (part1 >>> 2 ||| bitIf part0[0] 30) <<< 2 = part1 := by
      simpa [bitIf, h1, h0] using part1_back part1 (bitIf part0[0] 30) hfront
    have hmsb : (part1 >>> 2 ||| bitIf part0[0] 30).msb = false := by
      simp [BitVec.msb_eq_getLsbD_last]
    rw [if_neg hbits, if_neg hbits, append_assoc, readMask_six _ _ _ (by simp) hmsb, hbit, hpart0,
      hpart1]
    rfl

lemma readMask_maskField (m : PacketMask) (rest : List UInt8) :
    readMask (maskField m ++ rest) = some (m.padded, rest) := by
  cases m with
  | lBitClear part0 => exact readMask_lBitClear part0 rest
  | lBitSet part0 part1 => exact readMask_lBitSet part0 part1 rest

def restored (s : ProtectedStream) : List UInt8 :=
  beBytes 2 s.seqNumBase.toNat ++ s.packetMask.padded

/-- The stream as it was read has the base and the mask of `s`, which is in `data`. -/
structure Restores (data : List UInt8) (s : ProtectedStream) (r : ReceivedStream) : Prop where
  base : r.seqNumBase = s.seqNumBase
  size : r.packetMaskSize = minPacketMaskSize s.packetMask
  mask : (data.drop r.packetMaskOffset).take r.packetMaskSize = s.packetMask.bytes ++
    replicate (r.packetMaskSize - s.packetMask.bytes.length) 0

lemma readStreams_streamHeader (streams : List ProtectedStream) (before rest : List UInt8) :
    ∃ rs, readStreams streams.length before.length (streams.flatMap streamHeader ++ rest) =
        some ((rs, streams.flatMap restored), rest) ∧
      Forall₂ (Restores (before ++ (streams.flatMap restored ++ rest))) streams rs := by
  induction streams generalizing before with
  | nil => exact ⟨[], rfl, .nil⟩
  | cons s streams ih =>
    obtain ⟨rs, hread, hrs⟩ := ih (before ++ restored s)
    refine ⟨⟨s.seqNumBase, before.length + 2, s.packetMask.padded.length⟩ :: rs, ?_, .cons ?_ ?_⟩
    · rw [length_append, restored, length_append, length_beBytes, ← Nat.add_assoc] at hread
      rw [flatMap_cons, streamHeader, append_assoc, append_assoc, length_cons, readStreams,
        bind_of_eq_some (uint_beBytes 2 s.seqNumBase _), bind_of_eq_some (readMask_maskField ..),
        bind_of_eq_some hread]
      rfl
    · refine ⟨rfl, length_padded _, ?_⟩
      dsimp only
      rw [flatMap_cons, restored, append_assoc, append_assoc, ← append_assoc before,
        drop_left' (by simp), take_left, length_padded]
      rfl
    · rw [flatMap_cons, append_assoc, ← append_assoc before]
      exact hrs

lemma writeStreams_eq (streams : List ProtectedStream) (data : List UInt8) :
    writeStreams streams data =
      streams.flatMap streamHeader ++ data.drop (streams.flatMap streamHeader).length := by
  induction streams generalizing data with
  | nil => rfl
  | cons s streams ih => simp [writeStreams, ih]

def headerSize (streams : List ProtectedStream) : Nat :=
  8 + (streams.map fun s => 2 + minPacketMaskSize s.packetMask).sum

lemma length_streams (streams : List ProtectedStream) :
    8 + (streams.flatMap streamHeader).length = headerSize streams ∧
      8 + (streams.flatMap restored).length = headerSize streams := by
  simp [headerSize, streamHeader, restored, length_flatMap, length_maskField, length_padded]

lemma finalizeFecHeader_eq {data : List UInt8} (hdata : 8 ≤ data.length)
    (streams : List ProtectedStream) : ∃ front, front.length = 8 ∧
      front.headD 0 &&& 0x80 = 0 ∧ front.headD 0 &&& 0x40 = 0 ∧
      finalizeFecHeader streams data =
        front ++ (streams.flatMap streamHeader ++ data.drop (headerSize streams)) := by
  refine ⟨_, ?_, ?_, ?_, by rw [finalizeFecHeader, writeStreams_eq, drop_drop, (length_streams streams).1]⟩
  · rw [length_modifyHead, length_take, Nat.min_eq_left hdata]
  all_goals
    cases data with
    | nil => cases hdata
    | cons b data =>
      show b &&& 0x7f &&& 0xbf &&& _ = 0
      rw [UInt8.and_assoc, UInt8.and_assoc]
      exact UInt8.and_zero

lemma readFecHeader_eq {n : Nat} {front body bytes payload : List UInt8} {rs : List ReceivedStream}
    (hn : n ≠ 0) (hlen : front.length = 8) (hbody : 2 < body.length)
    (hr : front.headD 0 &&& 0x80 = 0) (hf : front.headD 0 &&& 0x40 = 0)
    (hread : readStreams n 8 body = some ((rs, bytes), payload)) :
    readFecHeader n (front ++ body) = some
      { protectedStreams := rs, data := front ++ (bytes ++ payload)
        fecHeaderSize := 8 + bytes.length
        protectionLength := (front ++ body).length - (8 + bytes.length) } := by
  have hhead : (front ++ body).headD 0 = front.headD 0 := by
    cases front with
    | nil => cases hlen
    | cons b _ => rfl
  have hlong : ¬(front ++ body).length ≤ 10 := by
    rw [length_append]
    omega
  rw [readFecHeader, if_neg (not_or.mpr ⟨hn, hlong⟩), hhead,
    if_neg (not_or.mpr ⟨not_not_intro hr, not_not_intro hf⟩), drop_left' hlen, take_left' hlen, hread]
  rfl

lemma two_le_minPacketMaskSize (m : PacketMask) : 2 ≤ minPacketMaskSize m := by
  cases m <;> simp only [minPacketMaskSize] <;> split <;> decide

/-- For any streams and any packet with room for their header and a payload, what was
written is read back: the base and the mask of each stream, the sizes, and the payload as it
was. -/
theorem flexfec_header_round_trip (streams : List ProtectedStream) (data : List UInt8)
    (hne : streams ≠ []) (hroom : headerSize streams < data.length) :
    ∃ r, readFecHeader streams.length (finalizeFecHeader streams data) = some r ∧
      Forall₂ (Restores r.data) streams r.protectedStreams ∧
      r.fecHeaderSize = headerSize streams ∧
      r.data.drop r.fecHeaderSize = data.drop (headerSize streams) := by
  obtain ⟨hheader, hrestored⟩ := length_streams streams
  have hdata : 8 ≤ data.length := by omega
  obtain ⟨front, hlen, hr, hf, hfinal⟩ := finalizeFecHeader_eq hdata streams
  obtain ⟨rs, hread, hrs⟩ := readStreams_streamHeader streams front (data.drop (headerSize streams))
  have hbody : 2 < (streams.flatMap streamHeader ++ data.drop (headerSize streams)).length := by
    cases streams with
    | nil => exact absurd rfl hne
    | cons s streams =>
      have := two_le_minPacketMaskSize s.packetMask
      simp [streamHeader, length_maskField]
      omega
  rw [hlen] at hread
  rw [hfinal]
  refine ⟨_, readFecHeader_eq (mt length_eq_zero_iff.mp hne) hlen hbody hr hf hread, hrs, hrestored, ?_⟩
  dsimp only
  rw [← append_assoc, drop_left' (by rw [length_append, hlen])]

def twoStreams : List ProtectedStream :=
  [⟨7, .lBitClear 0x8001⟩, ⟨9, .lBitSet 0x0001 0x80000003⟩]

theorem flexfec_header_round_trip_two_streams :
    ∃ r, readFecHeader 2 (finalizeFecHeader twoStreams (replicate 33 0xff)) = some r ∧
      r.fecHeaderSize = 32 ∧ r.data.drop 32 = [0xff] :=
  have ⟨r, hread, _, hsize, hdata⟩ :=
    flexfec_header_round_trip twoStreams (replicate 33 0xff) (by decide) (by decide)
  ⟨r, hread, hsize, by rwa [hsize] at hdata⟩

end WebRtc.Rtp.Flexfec
