import Mathlib.Algebra.Order.BigOperators.Group.List
import Mathlib.Tactic.Ring
import Mathlib.Tactic.Linarith
import WebRtc.Lib.MachineInt

/-!
# RTP — splitting a payload

The model of `RtpPacketizer::SplitAboutEqually` in `rtp_format.cc`. What the plan assigns to the
last `j` packets is `planned j`; the loop keeps between that and what the last packet may carry
(`LoopInv`), so that every packet gets a byte and the last one fits. The source computes in `int`:
the sums that can leave its range are narrowed (`asInt`), and its divisions truncate.
-/

namespace WebRtc.Rtp

open List Lib

structure PayloadSizeLimits where
  maxPayloadLen : Int := 1200
  firstPacketReductionLen : Int := 0
  lastPacketReductionLen : Int := 0
  -- For a packet that is first and last at the same time.
  singlePacketReductionLen : Int := 0
deriving DecidableEq

/-! ## The model -/

structure SplitState where
  numPacketsLeft : Int
  bytesPerPacket : Int
  remainingData : Int
  firstPacket : Bool
deriving DecidableEq

def currentPacketBytes (limits : PayloadSizeLimits) (bytesPerPacket : Int) (s : SplitState) : Int :=
  let bytes :=
    if s.firstPacket then
      if bytesPerPacket > limits.firstPacketReductionLen + 1 then
        bytesPerPacket - limits.firstPacketReductionLen
      else 1
    else bytesPerPacket
  let bytes := if bytes > s.remainingData then s.remainingData else bytes
  -- At least one byte is left for the last packet.
  if s.numPacketsLeft = 2 ∧ bytes = s.remainingData then bytes - 1 else bytes

def splitStep (limits : PayloadSizeLimits) (numLargerPackets : Int) (s : SplitState) :
    Int × SplitState :=
  -- The last `numLargerPackets` are one byte wider than the rest.
  let bytesPerPacket :=
    if s.numPacketsLeft = numLargerPackets then s.bytesPerPacket + 1 else s.bytesPerPacket
  let bytes := currentPacketBytes limits bytesPerPacket s
  (bytes,
    { numPacketsLeft := s.numPacketsLeft - 1
      bytesPerPacket
      remainingData := s.remainingData - bytes
      firstPacket := false })

/-- The loop, for at most `rounds` rounds; nothing is returned if it goes on after them. -/
def splitLoop (limits : PayloadSizeLimits) (numLargerPackets : Int) :
    (rounds : Nat) → SplitState → Option (List Int)
  | rounds, s =>
    if s.remainingData > 0 then
      match rounds with
      | 0 => none
      | rounds + 1 =>
        let (bytes, s) := splitStep limits numLargerPackets s
        (splitLoop limits numLargerPackets rounds s).map (bytes :: ·)
    else some []

def splitAboutEqually (payloadLen : Int) (limits : PayloadSizeLimits) : Option (List Int) :=
  if limits.maxPayloadLen ≥ asInt (limits.singlePacketReductionLen + payloadLen) then some [payloadLen]
  else if limits.maxPayloadLen - limits.firstPacketReductionLen < 1 ∨
      limits.maxPayloadLen - limits.lastPacketReductionLen < 1 then some []
  else
    let totalBytes :=
      asInt (payloadLen + limits.firstPacketReductionLen + limits.lastPacketReductionLen)
    let numPacketsLeft := (asInt (totalBytes + limits.maxPayloadLen - 1)).tdiv limits.maxPayloadLen
    let numPacketsLeft := if numPacketsLeft = 1 then 2 else numPacketsLeft
    if payloadLen < numPacketsLeft then some []
    else
      splitLoop limits (totalBytes.tmod numPacketsLeft) payloadLen.toNat
        { numPacketsLeft
          bytesPerPacket := totalBytes.tdiv numPacketsLeft
          remainingData := payloadLen
          firstPacket := true }

open SplitState

/-! ## What a split is -/

structure IsSplit (payloadLen : Int) (limits : PayloadSizeLimits) (parts : List Int) : Prop where
  pos : ∀ x ∈ parts, 1 ≤ x
  sum : parts.sum = payloadLen
  single : parts.length = 1 → ∀ x ∈ parts, x ≤ limits.maxPayloadLen - limits.singlePacketReductionLen
  first : 2 ≤ parts.length → ∀ x ∈ parts.head?, x ≤ limits.maxPayloadLen - limits.firstPacketReductionLen
  last : 2 ≤ parts.length → ∀ x ∈ parts.getLast?, x ≤ limits.maxPayloadLen - limits.lastPacketReductionLen
  others : 2 ≤ parts.length → ∀ x ∈ parts, x ≤ limits.maxPayloadLen

structure IsTail (limits : PayloadSizeLimits) (n : Nat) (sum : Int) (parts : List Int) : Prop where
  length : parts.length = n
  pos : ∀ x ∈ parts, 1 ≤ x
  sum : parts.sum = sum
  last : ∀ x ∈ parts.getLast?, x ≤ limits.maxPayloadLen - limits.lastPacketReductionLen
  others : ∀ x ∈ parts, x ≤ limits.maxPayloadLen

/-- What the plan assigns to the last `j` packets: each gets `b` bytes, and the last `k` get one
more. -/
def planned (b k : Int) : Nat → Int
  | 0 => 0
  | j + 1 => planned b k j + if (j + 1 : Int) ≤ k then b + 1 else b

variable {payloadLen : Int} {limits : PayloadSizeLimits} {b k : Int} {j : Nat}

lemma IsTail.cons {x sum : Int} {parts : List Int} (h : IsTail limits (j + 1) sum parts)
    (hpos : 1 ≤ x) (hle : x ≤ limits.maxPayloadLen) : IsTail limits (j + 2) (x + sum) (x :: parts) where
  length := by rw [length_cons, h.length]
  pos := forall_mem_cons.mpr ⟨hpos, h.pos⟩
  sum := by rw [sum_cons, h.sum]
  last := by
    obtain ⟨y, ys, rfl⟩ := exists_cons_of_length_eq_add_one h.length
    exact h.last
  others := forall_mem_cons.mpr ⟨hle, h.others⟩

/-! ## The plan -/

lemma planned_succ (b k : Int) (j : Nat) :
    planned b k (j + 1) = planned b k j + if (j + 1 : Int) ≤ k then b + 1 else b := rfl

lemma planned_eq (hk : 0 ≤ k) : ∀ j : Nat, planned b k j = j * b + min (j : Int) k
  | 0 => by simp [planned, hk]
  | j + 1 => by
    rw [planned_succ, planned_eq hk j, Nat.cast_succ, add_mul, one_mul]
    split <;> omega

/-- A plan for `n` packets: what `SplitAboutEqually` has computed when its loop starts. -/
structure Plan (payloadLen : Int) (limits : PayloadSizeLimits) (n : Nat) (b k : Int) : Prop where
  first_nonneg : 0 ≤ limits.firstPacketReductionLen
  first_lt : limits.firstPacketReductionLen < limits.maxPayloadLen
  last_nonneg : 0 ≤ limits.lastPacketReductionLen
  last_lt : limits.lastPacketReductionLen < limits.maxPayloadLen
  two_le : 2 ≤ n
  enough : (n : Int) ≤ payloadLen
  larger : 0 ≤ k ∧ k < n
  width_pos : 1 ≤ b
  width_le : b ≤ limits.maxPayloadLen ∧ (0 < k → b + 1 ≤ limits.maxPayloadLen)
  total : planned b k n =
    payloadLen + limits.firstPacketReductionLen + limits.lastPacketReductionLen
  needed : 3 ≤ n → ((n : Int) - 1) * limits.maxPayloadLen < planned b k n

namespace Plan

variable {n : Nat} (h : Plan payloadLen limits n b k)
include h

lemma planned_add_le (i : Nat) : ∀ d : Nat,
    planned b k (i + d) ≤ planned b k i + d * limits.maxPayloadLen ∧ planned b k i ≤ planned b k (i + d)
  | 0 => by simp
  | d + 1 => by
    obtain ⟨hle, hge⟩ := planned_add_le i d
    obtain ⟨hw, hw'⟩ := h.width_le
    have hpos := h.width_pos
    rw [← Nat.add_assoc, planned_succ, Nat.cast_succ, add_mul, one_mul]
    split <;> constructor <;> omega

/-- With three packets or more, those after the first get more than the last packet gives up, even
if the first packet carries less than its reduction. -/
lemma room (hn : 3 ≤ n) (hj : 2 ≤ j) :
    limits.lastPacketReductionLen + 2 ≤ planned b k j ∧
      limits.lastPacketReductionLen + 2 + (limits.firstPacketReductionLen + 1 - b) ≤ planned b k j := by
  obtain ⟨m, rfl⟩ : ∃ m, n = 2 + m + 1 := ⟨n - 3, by omega⟩
  have hneeded := h.needed hn
  have hlast := h.last_lt
  have hfirst := h.first_lt
  -- All but two packets carry at most the maximum, and of these the first gets `b`.
  have hgrowth := (h.planned_add_le 2 m).1
  have hfirstPacket : planned b k (2 + m + 1) = planned b k (2 + m) + b := by
    rw [planned_succ, if_neg]
    have := h.larger.2
    omega
  have hmono : planned b k 2 ≤ planned b k j := by
    have := (h.planned_add_le 2 (j - 2)).2
    rwa [Nat.add_sub_cancel' hj] at this
  have hw := h.width_le.1
  have hprod : (((2 + m + 1 : Nat) : Int) - 1) * limits.maxPayloadLen =
      2 * limits.maxPayloadLen + m * limits.maxPayloadLen := by
    push_cast
    ring
  omega

end Plan

def spareOf (limits : PayloadSizeLimits) (b : Int) : Int :=
  max 0 (limits.firstPacketReductionLen + 1 - b)

lemma Plan.room_spare {n : Nat} (h : Plan payloadLen limits n b k) (hn : 3 ≤ n) (hj : 2 ≤ j) :
    limits.lastPacketReductionLen + 2 + spareOf limits b ≤ planned b k j := by
  obtain ⟨hroom, hroom'⟩ := h.room hn hj
  unfold spareOf
  omega

/-! ## The loop after the first packet -/

/-- The variables of the loop when `j` packets are left and the first has been cut. `spare` is
what the first packet got beyond its plan. -/
structure LoopInv (limits : PayloadSizeLimits) (b k spare : Int) (j : Nat) (s : SplitState) : Prop where
  left : s.numPacketsLeft = j
  width : s.bytesPerPacket = if (j : Int) < k then b + 1 else b
  later : s.firstPacket = false
  pos : 1 ≤ s.remainingData
  upper : s.remainingData + limits.lastPacketReductionLen ≤ planned b k j ∨
    (j = 1 ∧ s.remainingData = 1)
  lower : 2 ≤ j → planned b k j ≤ s.remainingData + limits.lastPacketReductionLen + spare

/-- A round cuts a packet of at least one byte, of `most` at most, and leaves `j` packets. -/
structure Cuts (limits : PayloadSizeLimits) (b k : Int) (j : Nat) (most : Int) (s : SplitState)
    (r : Int × SplitState) : Prop where
  pos : 1 ≤ r.1
  le : r.1 ≤ most
  rest : r.2.remainingData = s.remainingData - r.1
  next : LoopInv limits b k (spareOf limits b) j r.2

variable {s : SplitState}

lemma splitLoop_stop {rounds : Nat}
    (h : s.remainingData = 0) : splitLoop limits k rounds s = some [] := by
  unfold splitLoop
  rw [if_neg (by omega)]

lemma splitLoop_step {rounds : Nat}
    (h : 0 < s.remainingData) : splitLoop limits k (rounds + 1) s =
      (splitLoop limits k rounds (splitStep limits k s).2).map ((splitStep limits k s).1 :: ·) := by
  rw [splitLoop, if_pos h]

variable {c m : Int} (total : Int)

lemma splitStep_eq
    (h : (if s.numPacketsLeft = k then s.bytesPerPacket + 1 else s.bytesPerPacket) = c) :
    splitStep limits k s = (currentPacketBytes limits c s,
      ⟨s.numPacketsLeft - 1, c, s.remainingData - currentPacketBytes limits c s, false⟩) := by
  rw [splitStep, h]

lemma currentPacketBytes_of_lt
    (hlat : s.firstPacket = false) (h : c < s.remainingData) : currentPacketBytes limits c s = c := by
  simp only [currentPacketBytes, hlat, Bool.false_eq_true, if_false]
  rw [if_neg (by omega : ¬c > s.remainingData), if_neg (by omega)]

lemma currentPacketBytes_of_le (hlat : s.firstPacket = false) (h : s.remainingData ≤ c) :
    currentPacketBytes limits c s =
      if s.numPacketsLeft = 2 then s.remainingData - 1 else s.remainingData := by
  have hmin : (if c > s.remainingData then s.remainingData else c) = s.remainingData := by
    split <;> omega
  simp only [currentPacketBytes, hlat, Bool.false_eq_true, if_false, hmin, and_true]

namespace LoopInv

lemma width_eq {spare : Int} (h : LoopInv limits b k spare j s) :
    (if s.numPacketsLeft = k then s.bytesPerPacket + 1 else s.bytesPerPacket) =
      if (j : Int) ≤ k then b + 1 else b := by
  rw [h.left, h.width]
  split <;> split <;> split <;> omega

/-- The packet before the last leaves at least one byte; earlier ones get what is planned. -/
lemma step {n : Nat} (h : LoopInv limits b k (spareOf limits b) (j + 2) s)
    (hp : Plan payloadLen limits n b k) (hn : 3 ≤ n) :
    Cuts limits b k (j + 1) limits.maxPayloadLen s (splitStep limits k s) := by
  have hb := hp.width_pos
  have hw := hp.width_le
  have hupper : s.remainingData + limits.lastPacketReductionLen ≤ planned b k (j + 2) := by
    rcases h.upper with hu | ⟨hj, -⟩
    · exact hu
    · omega
  have hlower := h.lower (by omega)
  have hroom₂ := hp.room_spare hn (show 2 ≤ j + 2 by omega)
  have hwidth := h.width_eq
  have hplan : planned b k (j + 2) = planned b k (j + 1) +
      if ((j + 2 : Nat) : Int) ≤ k then b + 1 else b := planned_succ b k (j + 1)
  have hnext : (if ((j + 2 : Nat) : Int) ≤ k then b + 1 else b) =
      if ((j + 1 : Nat) : Int) < k then b + 1 else b := by
    split <;> split <;> omega
  have hc : 1 ≤ (if ((j + 2 : Nat) : Int) ≤ k then b + 1 else b) ∧
      (if ((j + 2 : Nat) : Int) ≤ k then b + 1 else b) ≤ limits.maxPayloadLen := by
    split <;> omega
  generalize (if ((j + 2 : Nat) : Int) ≤ k then b + 1 else b) = c at hwidth hplan hnext hc
  rw [splitStep_eq hwidth]
  have hleft : s.numPacketsLeft - 1 = ((j + 1 : Nat) : Int) := by
    rw [h.left]
    push_cast
    ring
  by_cases hlt : c < s.remainingData
  · rw [currentPacketBytes_of_lt h.later hlt]
    refine ⟨hc.1, hc.2, rfl, hleft, hnext, rfl, ?_, .inl ?_, fun _ => ?_⟩ <;> dsimp only <;> omega
  -- Only the packet before the last can be too large for what is left.
  have hj : j = 0 := by
    by_contra hj
    have := hp.room_spare hn (show 2 ≤ j + 1 by omega)
    omega
  subst hj
  rw [currentPacketBytes_of_le h.later (by omega), if_pos (by rw [h.left]; rfl)]
  refine ⟨by omega, by omega, rfl, hleft, hnext, rfl, ?_, .inr ⟨rfl, ?_⟩, by omega⟩ <;> dsimp only <;>
    omega

lemma finish {n : Nat} {spare : Int} (h : LoopInv limits b k spare 1 s)
    (hp : Plan payloadLen limits n b k) :
    (splitStep limits k s).1 = s.remainingData ∧ (splitStep limits k s).2.remainingData = 0 ∧
      s.remainingData ≤ limits.maxPayloadLen - limits.lastPacketReductionLen ∧
      s.remainingData ≤ limits.maxPayloadLen := by
  have hb := hp.width_pos
  have hw := hp.width_le
  have hlast := hp.last_nonneg
  have hlast' := hp.last_lt
  have hupper := h.upper
  have hwidth := h.width_eq
  have hplan : planned b k 1 = if ((1 : Nat) : Int) ≤ k then b + 1 else b := by
    simp [planned]
  have hc : 1 ≤ (if ((1 : Nat) : Int) ≤ k then b + 1 else b) ∧
      (if ((1 : Nat) : Int) ≤ k then b + 1 else b) ≤ limits.maxPayloadLen := by
    split <;> omega
  generalize (if ((1 : Nat) : Int) ≤ k then b + 1 else b) = c at hwidth hplan hc
  rw [splitStep_eq hwidth, currentPacketBytes_of_le h.later (by omega), if_neg (by rw [h.left]; norm_num)]
  exact ⟨rfl, Int.sub_self _, by omega, by omega⟩

end LoopInv

lemma splitLoop_tail {n : Nat} (hp : Plan payloadLen limits n b k) :
    ∀ (j rounds : Nat) (s : SplitState), LoopInv limits b k (spareOf limits b) (j + 1) s →
      j + 1 < n → j + 1 ≤ rounds →
      ∃ parts, splitLoop limits k rounds s = some parts ∧ IsTail limits (j + 1) s.remainingData parts
  | _, 0, _, _, _, hrounds => by omega
  | 0, rounds + 1, s, hinv, _, _ => by
    obtain ⟨hsize, hrest, hfits, hmax⟩ := hinv.finish hp
    have hpos := hinv.pos
    refine ⟨[s.remainingData], ?_, rfl, ?_, by simp, ?_, ?_⟩
    · rw [splitLoop_step (by omega), splitLoop_stop hrest, hsize]
      rfl
    · simpa using hpos
    · simpa using hfits
    · simpa using hmax
  | j + 1, rounds + 1, s, hinv, hn, hrounds => by
    obtain ⟨hone, hmax, hrest, hnext⟩ := hinv.step hp (by omega)
    obtain ⟨parts, hpts, htail⟩ := splitLoop_tail hp j rounds _ hnext (by omega) (by omega)
    have hpos := hinv.pos
    have hcons := htail.cons hone hmax
    rw [hrest, add_sub_cancel] at hcons
    refine ⟨_, ?_, hcons⟩
    rw [splitLoop_step (by omega), hpts]
    rfl

/-! ## The first packet -/

def SplitState.start (payloadLen : Int) (n : Nat) (b : Int) : SplitState := ⟨n, b, payloadLen, true⟩

lemma Plan.firstStep {m : Nat} (h : Plan payloadLen limits (m + 2) b k) :
    Cuts limits b k (m + 1) (limits.maxPayloadLen - limits.firstPacketReductionLen)
      (.start payloadLen (m + 2) b) (splitStep limits k (.start payloadLen (m + 2) b)) := by
  have hlarger := h.larger
  have htot := h.total
  have henough := h.enough
  have hfirst := h.first_lt
  have hw := h.width_le.1
  have hplan : planned b k (m + 2) = planned b k (m + 1) + b := by
    rw [planned_succ, if_neg]
    omega
  have hwidth : (if (start payloadLen (m + 2) b).numPacketsLeft = k then
      (start payloadLen (m + 2) b).bytesPerPacket + 1
      else (start payloadLen (m + 2) b).bytesPerPacket) = b := by
    refine if_neg ?_
    simp only [start]
    omega
  rw [splitStep_eq hwidth]
  -- What the first packet is to get: its plan less the reduction, but one byte at least.
  obtain ⟨c, hc⟩ : ∃ c, c = if b > limits.firstPacketReductionLen + 1 then
      b - limits.firstPacketReductionLen else 1 := ⟨_, rfl⟩
  have hspare : c = b - limits.firstPacketReductionLen + spareOf limits b := by
    rw [hc, spareOf]
    split <;> omega
  have hcpos : 1 ≤ c ∧ c ≤ limits.maxPayloadLen - limits.firstPacketReductionLen := by
    rw [hc]
    split <;> omega
  have hleft : (start payloadLen (m + 2) b).numPacketsLeft - 1 = ((m + 1 : Nat) : Int) := by
    simp only [start]
    push_cast
    ring
  have hnext : b = if ((m + 1 : Nat) : Int) < k then b + 1 else b := by
    omega
  have hbytes : currentPacketBytes limits b (.start payloadLen (m + 2) b) =
      if c < payloadLen then c else payloadLen - 1 := by
    simp only [currentPacketBytes, start, if_true, ← hc]
    by_cases hlt : c < payloadLen
    · rw [if_neg (by omega : ¬c > payloadLen), if_neg (by omega), if_pos hlt]
    have hm : m = 0 := by
      by_contra hm
      have := h.room_spare (by omega) (show 2 ≤ m + 1 by omega)
      omega
    have hmin : (if c > payloadLen then payloadLen else c) = payloadLen := by
      split <;> omega
    rw [hmin, if_pos ⟨by rw [hm]; rfl, rfl⟩, if_neg hlt]
  rw [hbytes]
  split
  · refine ⟨hcpos.1, hcpos.2, rfl, hleft, hnext, rfl, ?_, .inl ?_, fun _ => ?_⟩ <;>
      simp only [start] <;> omega
  have hm : m = 0 := by
    by_contra hm
    have := h.room_spare (by omega) (show 2 ≤ m + 1 by omega)
    omega
  subst hm
  refine ⟨by omega, by omega, rfl, hleft, hnext, rfl, ?_, .inr ⟨rfl, ?_⟩, by omega⟩ <;>
    simp only [start] <;> omega

lemma Plan.splitLoop {n : Nat} (h : Plan payloadLen limits n b k) :
    ∃ parts, splitLoop limits k payloadLen.toNat (.start payloadLen n b) = some parts ∧
      IsSplit payloadLen limits parts ∧ parts.length = n := by
  obtain ⟨m, rfl⟩ : ∃ m, n = m + 2 := ⟨n - 2, by have := h.two_le; omega⟩
  obtain ⟨hone, hfirst, hrest, hinv⟩ := h.firstStep
  have henough := h.enough
  push_cast at henough
  obtain ⟨rounds, hrounds⟩ : ∃ rounds, payloadLen.toNat = rounds + 1 := ⟨payloadLen.toNat - 1, by omega⟩
  obtain ⟨parts, hpts, htail⟩ := splitLoop_tail h m rounds _ hinv (by omega) (by omega)
  have hfirst₀ := h.first_nonneg
  have hcons := htail.cons hone (by omega)
  rw [hrest, add_sub_cancel] at hcons
  refine ⟨_, ?_, ⟨hcons.pos, hcons.sum, fun hlen => ?_, fun _ x hx => ?_, fun _ => hcons.last,
    fun _ => hcons.others⟩, hcons.length⟩
  · rw [hrounds, splitLoop_step (by simp only [start]; omega), hpts]
    rfl
  · have := hcons.length
    omega
  rw [head?_cons, Option.mem_some_iff] at hx
  exact hx ▸ hfirst

/-! ## The number of packets -/

lemma IsSplit.total_le {parts : List Int}
    (h : IsSplit payloadLen limits parts) (hlen : 2 ≤ parts.length) :
    payloadLen + limits.firstPacketReductionLen + limits.lastPacketReductionLen ≤
      parts.length * limits.maxPayloadLen := by
  match parts, hlen, h with
  | x :: y :: rest, _, h =>
    have hx := h.first (by simp) x rfl
    obtain ⟨init, z, hz⟩ : ∃ init z, y :: rest = init ++ [z] :=
      ⟨_, _, (dropLast_concat_getLast (cons_ne_nil y rest)).symm⟩
    have hlast : z ≤ limits.maxPayloadLen - limits.lastPacketReductionLen := by
      refine h.last (by simp) z ?_
      rw [getLast?_cons_cons, hz]
      simp
    have hinit : init.sum ≤ init.length * limits.maxPayloadLen := by
      refine sum_le_card_nsmul _ _ fun w hw => h.others (by simp) w (mem_cons_of_mem x ?_)
      rw [hz]
      exact mem_append_left _ hw
    have hsum := h.sum
    have hlength : (x :: y :: rest).length = init.length + 2 := by
      rw [hz]
      simp
    rw [hz, sum_cons, sum_append, sum_singleton] at hsum
    rw [hlength]
    push_cast
    rw [add_mul]
    omega

lemma ceil_le {j : Int} (hm : 1 ≤ m) (h : total ≤ j * m) : (total + m - 1) / m ≤ j := by
  rw [Int.ediv_le_iff_le_mul (by omega)]
  omega

lemma le_ceil_mul (hm : 1 ≤ m) : total ≤ (total + m - 1) / m * m := by
  have hdiv := Int.emod_add_mul_ediv (total + m - 1) m
  have hlt := Int.emod_lt_of_pos (total + m - 1) (by omega : 0 < m)
  rw [mul_comm] at hdiv
  omega

lemma ceil_sub_one_mul_lt (hm : 1 ≤ m) : ((total + m - 1) / m - 1) * m < total := by
  have hdiv := Int.emod_add_mul_ediv (total + m - 1) m
  have hnonneg := Int.emod_nonneg (total + m - 1) (by omega : m ≠ 0)
  rw [mul_comm] at hdiv
  rw [sub_mul, one_mul]
  omega

lemma plan_of_even {total : Int} {n : Nat}
    (hf : 0 ≤ limits.firstPacketReductionLen ∧ limits.firstPacketReductionLen < limits.maxPayloadLen)
    (hl : 0 ≤ limits.lastPacketReductionLen ∧ limits.lastPacketReductionLen < limits.maxPayloadLen)
    (htot : total = payloadLen + limits.firstPacketReductionLen + limits.lastPacketReductionLen)
    (hn : 2 ≤ n) (henough : (n : Int) ≤ payloadLen) (hfits : total ≤ n * limits.maxPayloadLen)
    (hneeded : 3 ≤ n → ((n : Int) - 1) * limits.maxPayloadLen < total) :
    Plan payloadLen limits n (total / n) (total % n) := by
  have hpos : (0 : Int) < n := by omega
  have hdiv : (n : Int) * (total / n) + total % n = total := by
    rw [add_comm]
    exact Int.emod_add_mul_ediv total n
  have hk : 0 ≤ total % n ∧ total % n < n :=
    ⟨Int.emod_nonneg total (by omega), Int.emod_lt_of_pos total hpos⟩
  have hb : 1 ≤ total / n := by
    rw [Int.le_ediv_iff_mul_le hpos]
    omega
  have hplanned : planned (total / n) (total % n) n = total := by
    rw [planned_eq hk.1]
    omega
  generalize total / n = b at hdiv hb hplanned ⊢
  generalize total % n = k at hdiv hk hplanned ⊢
  refine ⟨hf.1, hf.2, hl.1, hl.2, hn, henough, hk, hb, ⟨?_, fun hk0 => ?_⟩, hplanned.trans htot, ?_⟩
  · exact le_of_mul_le_mul_left (by omega) hpos
  · exact lt_of_mul_lt_mul_left (by omega : (n : Int) * b < n * limits.maxPayloadLen) hpos.le
  · rwa [hplanned]

/-- The sums that `SplitAboutEqually` forms stay in the range of an `int`. -/
structure InRange (payloadLen : Int) (limits : PayloadSizeLimits) : Prop where
  single : limits.singlePacketReductionLen + payloadLen < 2 ^ 31
  total : payloadLen + limits.firstPacketReductionLen + limits.lastPacketReductionLen +
    limits.maxPayloadLen < 2 ^ 31

/-- `SplitAboutEqually` returns for every payload of at least one byte whose sums fit an `int`. A
result that is not empty is a split, of one part only where that fits the limit of a single packet,
and otherwise with the least possible number of parts. It is empty only if there is no split at
all. -/
theorem splitAboutEqually_spec (payloadLen : Int) (limits : PayloadSizeLimits) (hpayload : 1 ≤ payloadLen)
    (hmax : 1 ≤ limits.maxPayloadLen) (hs : 0 ≤ limits.singlePacketReductionLen)
    (hf : 0 ≤ limits.firstPacketReductionLen) (hl : 0 ≤ limits.lastPacketReductionLen)
    (hrange : InRange payloadLen limits) :
    ∃ parts, splitAboutEqually payloadLen limits = some parts ∧
      (parts ≠ [] → IsSplit payloadLen limits parts ∧
        (2 ≤ parts.length → ∀ others, IsSplit payloadLen limits others → 2 ≤ others.length →
          parts.length ≤ others.length)) ∧
      (parts = [] → ∀ others, ¬IsSplit payloadLen limits others) := by
  obtain ⟨hsingle, htotal⟩ := hrange
  unfold splitAboutEqually
  rw [asInt_of_range (by omega) hsingle]
  split
  · rename_i hone
    refine ⟨[payloadLen], rfl, fun _ => ⟨⟨by simpa using hpayload, by simp, ?_, ?_, ?_, ?_⟩, ?_⟩, by simp⟩
    · intro _ x hx
      rw [mem_singleton] at hx
      omega
    all_goals simp
  -- No split has one part, as the whole payload is too large for it.
  have hmany : ∀ others, IsSplit payloadLen limits others → 2 ≤ others.length := by
    intro others h
    match others, h with
    | [], h => exact absurd h.sum (by simp; omega)
    | [x], h =>
      have hx := h.single rfl x (mem_singleton_self x)
      have hsum := h.sum
      rw [sum_singleton] at hsum
      omega
    | _ :: _ :: _, _ => simp
  split
  · rename_i hsmall
    refine ⟨[], rfl, by simp, fun _ others h => ?_⟩
    have hlen := hmany others h
    obtain ⟨x, hx⟩ : ∃ x, others.head? = some x := by
      cases others with
      | nil => simp at hlen
      | cons x _ => exact ⟨x, rfl⟩
    obtain ⟨z, hz⟩ : ∃ z, others.getLast? = some z := by
      cases hz : others.getLast? with
      | none => simp [getLast?_eq_none_iff.mp hz] at hlen
      | some z => exact ⟨z, rfl⟩
    have hxfits := h.first hlen x hx
    have hzfits := h.last hlen z hz
    have hxpos := h.pos x (mem_of_mem_head? hx)
    have hzpos := h.pos z (mem_of_mem_getLast? hz)
    omega
  dsimp only
  obtain ⟨total, htot⟩ : ∃ total, total =
    payloadLen + limits.firstPacketReductionLen + limits.lastPacketReductionLen := ⟨_, rfl⟩
  rw [← htot] at htotal ⊢
  rw [asInt_of_range (x := total) (by omega) (by omega), asInt_of_range (by omega) (by omega),
    Int.tdiv_eq_ediv_of_nonneg (by omega), Int.tdiv_eq_ediv_of_nonneg (by omega),
    Int.tmod_eq_emod_of_nonneg (by omega)]
  have hceil : 1 ≤ (total + limits.maxPayloadLen - 1) / limits.maxPayloadLen := by
    rw [Int.le_ediv_iff_mul_le (by omega)]
    omega
  have hfits := le_ceil_mul total hmax
  have hneeded := ceil_sub_one_mul_lt total hmax
  have hleast := fun j => ceil_le (j := j) total hmax
  generalize (total + limits.maxPayloadLen - 1) / limits.maxPayloadLen = q at hceil hfits hneeded hleast ⊢
  obtain ⟨n, hn⟩ : ∃ n : Nat, (if q = 1 then 2 else q) = n :=
    ⟨(if q = 1 then 2 else q).toNat, by split <;> omega⟩
  rw [hn]
  have hn₂ : 2 ≤ n := by
    split at hn <;> omega
  have hnleast : ∀ others, IsSplit payloadLen limits others → n ≤ others.length := by
    intro others h
    have hlen := hmany others h
    have hq := hleast _ (htot ▸ h.total_le hlen)
    split at hn <;> omega
  split
  · rename_i hfew
    refine ⟨[], rfl, by simp, fun _ others h => ?_⟩
    have hlen := hnleast others h
    have hsum := card_nsmul_le_sum others 1 h.pos
    rw [h.sum, nsmul_one] at hsum
    omega
  rename_i hmanyBytes
  have hplan : Plan payloadLen limits n (total / n) (total % n) := by
    refine plan_of_even ⟨hf, by omega⟩ ⟨hl, by omega⟩ htot hn₂ (by omega) ?_ fun hn₃ => ?_
    · split at hn
      · rename_i hq
        rw [hq, one_mul] at hfits
        rw [← hn]
        omega
      · rwa [← hn]
    · rw [if_neg (by rintro rfl; simp at hn; omega)] at hn
      rwa [← hn]
  obtain ⟨parts, hpts, hsplit, hlength⟩ := hplan.splitLoop
  refine ⟨parts, hpts, fun _ => ⟨hsplit, fun _ others h _ => ?_⟩, ?_⟩
  · rw [hlength]
    exact hnleast others h
  rintro rfl
  simp at hlength
  omega

/-- Ten bytes in packets of five, with reductions of one and two bytes. -/
theorem splitAboutEqually_ten :
    ∃ parts, splitAboutEqually 10 ⟨5, 1, 2, 0⟩ = some parts ∧ IsSplit 10 ⟨5, 1, 2, 0⟩ parts := by
  obtain ⟨parts, hpts, hsplit, -⟩ := splitAboutEqually_spec 10 ⟨5, 1, 2, 0⟩ (by decide) (by decide)
    (by decide) (by decide) (by decide) ⟨by decide, by decide⟩
  have hvalue : splitAboutEqually 10 ⟨5, 1, 2, 0⟩ = some [3, 4, 3] := by decide
  obtain rfl : parts = [3, 4, 3] := Option.some.inj (hpts.symm.trans hvalue)
  exact ⟨[3, 4, 3], hvalue, (hsplit (by simp)).1⟩

/-- The largest payload that an `int` can count is put into one packet of half its size: the sum with
the reduction of a single packet has wrapped below zero. -/
theorem splitAboutEqually_wraps :
    splitAboutEqually 2147483647 ⟨1073741824, 0, 0, 1⟩ = some [2147483647] ∧
      ¬ IsSplit 2147483647 ⟨1073741824, 0, 0, 1⟩ [2147483647] := by
  refine ⟨by decide, fun h => ?_⟩
  have hfits := h.single rfl 2147483647 (mem_singleton_self _)
  exact absurd hfits (by decide)

end WebRtc.Rtp
