import WebRtc.VideoCoding.PacketBufferFrames

/-!
# WebRTC — runs of the packet buffer

The packet buffer under any sequence of its calls, with all packets that were inserted and all
frames that were handed out; a packet is identified by its place among the inserted ones. An inserted
packet has to fit into the ring that it meets (`Fits`); padding and clearing are unconditional.
-/

namespace WebRtc.VideoCoding

open Lib Numerics List Packet

namespace PacketBuffer

variable {b b' : PacketBuffer} {p : Packet}

/-! ## The calls -/

def Adds (b : PacketBuffer) (p : Packet) (b' : PacketBuffer) : Prop :=
  ∀ q', b'.Holds q' → q'.core = p.core ∨ ∃ q, b.Holds q ∧ q'.core = q.core

lemma Within.adds (h : Within b b') : b.Adds p b' := fun _ hq' => .inr (h.holds hq')

lemma Adds.of_holds {b0 : PacketBuffer} (h : b.Adds p b')
    (hsub : ∀ q, b.Holds q → ∃ q0, b0.Holds q0 ∧ q.core = q0.core) : b0.Adds p b' := by
  intro q' hq'
  refine (h q' hq').imp id ?_
  rintro ⟨q, hq, heq⟩
  obtain ⟨q0, hq0, heq0⟩ := hsub q hq
  exact ⟨q0, hq0, heq.trans heq0⟩

lemma receivedPadding_shrinks (b : PacketBuffer) (padding : List (BitVec 16)) :
    Shrinks b { b with receivedPadding := padding } := .of_slots_eq rfl rfl rfl

lemma store_handsOut (h : b.InOrder) (hfits : b.Fits p)
    (hfree : b.slots (b.index p.seqNum) = none) (hnew : ∀ q, b.Holds q → q.id ≠ p.id) :
    ∃ b1, b.Adds p b1 ∧ HandsOut b1 (b.store p).1.frames (b.store p).2 := by
  have hset := h.setPacket hfits hfree hnew
  have hmissing := updateMissingPackets_shrinks
    (b.setSlot (b.index p.seqNum) (some { p with continuous := false })) p.seqNum
  unfold store
  dsimp only
  generalize updateMissingPackets (b.setSlot (b.index p.seqNum)
    (some { p with continuous := false })) p.seqNum = b2 at hmissing ⊢
  have hlst := hmissing.trans (receivedPadding_shrinks b2 (CompList.fromLower seqNumBefore id
    (p.seqNum - BitVec.ofNat 16 (b2.size / 4)) b2.receivedPadding))
  refine ⟨_, ?_, findFramesFrom_handsOut (hlst.inOrder hset) p.seqNum _ p.seqNum⟩
  intro q' hq'
  obtain ⟨q, hq, heq⟩ := hlst.within.holds hq'
  obtain rfl | hq := holds_setSlot hq
  · exact .inl heq
  · exact .inr ⟨q, hq, heq⟩

lemma insertPacket_handsOut (h : b.InOrder) (hfits : b.Fits p)
    (hnew : ∀ q, b.Holds q → q.id ≠ p.id) :
    ∃ b1, b.Adds p b1 ∧ HandsOut b1 (b.insertPacket p).1.frames (b.insertPacket p).2 := by
  unfold insertPacket
  split
  · exact ⟨b, (Within.refl b).adds, .none h (.refl b)⟩
  next b1 hb1 =>
  have hshare := noteFirst_shrinks hb1
  have hwi := hshare.within
  have hin := hshare.inOrder h
  have hfits₁ := noteFirst_fits hb1 hfits
  have hnew₁ : ∀ q, b1.Holds q → q.id ≠ p.id := by
    intro q hq
    obtain ⟨q0, hq0, hid⟩ := hwi.holds_id hq
    exact hid ▸ hnew q0 hq0
  split
  · next hfree =>
    obtain ⟨b2, hadds, hout⟩ := store_handsOut hin hfits₁ hfree hnew₁
    exact ⟨b2, hadds.of_holds fun q => hwi.holds, hout⟩
  split
  · exact ⟨b1, hwi.adds, .none hin (.refl b1)⟩
  obtain ⟨hin2, hfits₂, hholds⟩ := expandFor_spec b1.maxSize hin hfits₁
  dsimp only
  generalize expandFor p.seqNum b1.maxSize b1 = b2 at hin2 hfits₂ hholds ⊢
  have hback : ∀ q, b2.Holds q → ∃ q0, b.Holds q0 ∧ q.core = q0.core :=
    fun q hq => hwi.holds (hholds q hq)
  split
  · have hclear := b2.clear_shrinks
    exact ⟨b2, fun q hq => .inr (hback q hq), .none (hclear.inOrder hin2) hclear.within⟩
  next hfree =>
  obtain ⟨b3, hadds, hout⟩ := store_handsOut hin2 hfits₂ (not_not.mp hfree)
    fun q hq => hnew₁ q (hholds q hq)
  exact ⟨b3, hadds.of_holds hback, hout⟩

lemma insertPadding_handsOut (h : b.InOrder) (seqNum : BitVec 16) :
    HandsOut b (b.insertPadding seqNum).1.frames (b.insertPadding seqNum).2 := by
  have hshare := (b.updateMissingPackets_shrinks seqNum).trans (receivedPadding_shrinks _
    (CompList.emplace seqNumBefore id seqNum (b.updateMissingPackets seqNum).receivedPadding))
  exact (findFramesFrom_handsOut (hshare.inOrder h) (seqNum + 1) _ (seqNum + 1)).of_within hshare.within

/-! ## Runs -/

structure Traced where
  buffer : PacketBuffer
  inserted : List Packet := []
  returned : List (List Packet) := []

inductive Call where
  | insertPacket (p : Packet)
  | insertPadding (seqNum : BitVec 16)
  | clearTo (seqNum : BitVec 16)
  | clear

namespace Traced

def numbered (s : Traced) (p : Packet) : Packet := { p with id := s.inserted.length }

def step (s : Traced) : Call → Traced
  | .insertPacket p =>
    let (result, buffer) := s.buffer.insertPacket (s.numbered p)
    { buffer
      inserted := s.inserted ++ [s.numbered p]
      returned := s.returned ++ result.frames }
  | .insertPadding seqNum =>
    let (result, buffer) := s.buffer.insertPadding seqNum
    { s with buffer, returned := s.returned ++ result.frames }
  | .clearTo seqNum => { s with buffer := s.buffer.clearTo seqNum }
  | .clear => { s with buffer := s.buffer.clear }

def CallFits (s : Traced) : Call → Prop
  | .insertPacket p => s.buffer.Fits (s.numbered p)
  | _ => True

def Inserted (s : Traced) (p : Packet) : Prop := ∃ o ∈ s.inserted, p = o.core

/-- Every frame consists of inserted packets that belong together, and no packet is
handed out twice. -/
def Sound (s : Traced) : Prop :=
  (∀ f ∈ s.returned, Genuine s.Inserted f) ∧ (s.returned.flatten.map Packet.id).Nodup

structure Good (s : Traced) : Prop where
  inOrder : s.buffer.InOrder
  ids : ∀ o ∈ s.inserted, o.id < s.inserted.length
  known : ∀ q, s.buffer.Holds q → s.Inserted q.core
  sound : s.Sound
  gone : ∀ p ∈ s.returned.flatten, ∀ q, s.buffer.Holds q → q.id ≠ p.id

lemma good_new {startSize maxSize : Nat} {j k : Nat} (hstart : startSize = 2 ^ j)
    (hmax : maxSize = 2 ^ k) (hle : startSize ≤ maxSize) (flag : Bool) :
    Good { buffer := new startSize maxSize flag } := by
  have hjk : j ≤ k := by
    rw [hstart, hmax] at hle
    exact (Nat.pow_le_pow_iff_right (by decide)).mp hle
  have hnone : ∀ i q, (new startSize maxSize flag).slots i = some q → False :=
    fun i q hq => absurd hq nofun
  constructor
  case inOrder =>
    exact ⟨⟨j, k, hstart, hmax, hjk⟩, fun i q hq => (hnone i q hq).elim,
      fun i q _ hq => (hnone i q hq).elim, fun q ⟨i, hq⟩ => (hnone i q hq).elim,
      fun i _ q _ hq => (hnone i q hq).elim⟩
  case ids => exact fun _ ho => absurd ho not_mem_nil
  case known => exact fun q ⟨i, hq⟩ => (hnone i q hq).elim
  case sound => exact ⟨fun _ hf => absurd hf not_mem_nil, .nil⟩
  case gone => exact fun _ hp => absurd hp not_mem_nil

variable {s : Traced}

lemma Good.id_lt (h : s.Good) {q : Packet} (hq : s.buffer.Holds q) :
    q.id < s.inserted.length := by
  obtain ⟨o, ho, heq⟩ := h.known q hq
  have hid : q.id = o.id := (same_of_core heq).id
  rw [hid]
  exact h.ids o ho

lemma Good.returned_id_lt (h : s.Good) {x : Packet} (hx : x ∈ s.returned.flatten) :
    x.id < s.inserted.length := by
  obtain ⟨f, hf, hxf⟩ := mem_flatten.mp hx
  obtain ⟨_, ⟨o, ho, rfl⟩, hid⟩ := (h.sound.1 f hf).id_mem hxf
  rw [← hid]
  exact h.ids o ho

variable {frames : List (List Packet)} {s' : Traced}

/-- A call brings the buffer to `b₁`, with inserted packets that were not handed out yet,
and then hands out frames. -/
lemma Good.handsOut (h : s.Good) {b1 : PacketBuffer} (hout : HandsOut b1 frames s'.buffer)
    (hret : s'.returned = s.returned ++ frames)
    (hids : ∀ o ∈ s'.inserted, o.id < s'.inserted.length) (hins : ∀ p, s.Inserted p → s'.Inserted p)
    (hkn : ∀ q, b1.Holds q → s'.Inserted q.core)
    (hgone : ∀ x ∈ s.returned.flatten, ∀ q, b1.Holds q → q.id ≠ x.id) : s'.Good := by
  constructor
  case inOrder => exact hout.inOrder
  case ids => exact hids
  case known =>
    intro q hq
    obtain ⟨q1, hq1, heq⟩ := hout.within.holds hq
    rw [heq]
    exact hkn q1 hq1
  case sound =>
    refine ⟨?_, ?_⟩
    · intro f hf
      rw [hret, mem_append] at hf
      rcases hf with hf | hf
      · exact (h.sound.1 f hf).mono hins
      refine (hout.genuine f hf).mono ?_
      rintro _ ⟨q, hq, rfl⟩
      exact hkn q hq
    rw [hret, flatten_append, map_append, nodup_append]
    refine ⟨h.sound.2, hout.nodup, ?_⟩
    intro i hi j hj hij
    obtain ⟨x, hx, rfl⟩ := mem_map.mp hi
    obtain ⟨y, hy, rfl⟩ := mem_map.mp hj
    obtain ⟨f, hf, hyf⟩ := mem_flatten.mp hy
    obtain ⟨_, ⟨q, hq, rfl⟩, hid⟩ := (hout.genuine f hf).id_mem hyf
    exact hgone x hx q hq (hid.trans hij.symm)
  case gone =>
    intro x hx q hq
    rw [hret, flatten_append, mem_append] at hx
    rcases hx with hx | hx
    · obtain ⟨q1, hq1, hid⟩ := hout.within.holds_id hq
      rw [← hid]
      exact hgone x hx q1 hq1
    · exact hout.gone x hx q hq

lemma Good.handsOut_stored (h : s.Good)
    (hout : HandsOut s.buffer frames s'.buffer) (hret : s'.returned = s.returned ++ frames)
    (hins : s'.inserted = s.inserted) : s'.Good := by
  have hsame : ∀ p, s.Inserted p → s'.Inserted p := by
    unfold Inserted
    rw [hins]
    exact fun _ => id
  refine h.handsOut hout hret ?_ hsame (fun q hq => hsame _ (h.known q hq)) h.gone
  rw [hins]
  exact h.ids

lemma Good.step (h : s.Good) (c : Call) (hc : s.CallFits c) : (s.step c).Good := by
  cases c with
  | insertPacket p =>
    have hnew : ∀ q, s.buffer.Holds q → q.id ≠ (s.numbered p).id :=
      fun q hq => Nat.ne_of_lt (h.id_lt hq)
    obtain ⟨b1, hadds, hout⟩ := insertPacket_handsOut h.inOrder hc hnew
    have hins : ∀ o, s.Inserted o → (s.step (.insertPacket p)).Inserted o := by
      rintro _ ⟨o, ho, rfl⟩
      exact ⟨o, mem_append_left _ ho, rfl⟩
    refine h.handsOut hout rfl ?_ hins ?_ ?_
    · intro o ho
      change o.id < (s.inserted ++ [s.numbered p]).length
      rw [length_append, length_singleton]
      rcases mem_append.mp ho with ho | ho
      · exact Nat.lt_succ_of_lt (h.ids o ho)
      rw [mem_singleton.mp ho]
      exact Nat.lt_succ_self _
    · intro q hq
      obtain heq | ⟨q0, hq0, heq⟩ := hadds q hq
      · exact ⟨s.numbered p, mem_append_right _ mem_cons_self, heq⟩
      rw [heq]
      exact hins _ (h.known q0 hq0)
    · intro x hx q hq
      obtain heq | ⟨q0, hq0, heq⟩ := hadds q hq
      · rw [(same_of_core heq).id]
        exact Nat.ne_of_gt (h.returned_id_lt hx)
      rw [(same_of_core heq).id]
      exact h.gone x hx q0 hq0
  | insertPadding seqNum =>
    exact h.handsOut_stored (insertPadding_handsOut h.inOrder seqNum) rfl rfl
  | clearTo seqNum =>
    have hshare := s.buffer.clearTo_shrinks seqNum
    exact h.handsOut_stored (.none (hshare.inOrder h.inOrder) hshare.within) (append_nil _).symm rfl
  | clear =>
    have hshare := s.buffer.clear_shrinks
    exact h.handsOut_stored (.none (hshare.inOrder h.inOrder) hshare.within) (append_nil _).symm rfl

/-- The frames that the packet buffer hands out are genuine, and no packet is handed out
twice, in every run in which each inserted packet fits into the ring. -/
theorem frames_genuine {startSize maxSize j k : Nat} (hstart : startSize = 2 ^ j)
    (hmax : maxSize = 2 ^ k) (hle : startSize ≤ maxSize) (flag : Bool) (calls : List Call)
    (hok : Along step CallFits { buffer := new startSize maxSize flag } calls) :
    (run step { buffer := new startSize maxSize flag } calls).Sound :=
  (run_induction_along (P := Good) (fun _ c hs hc => hs.step c hc) calls _
    (good_new hstart hmax hle flag) hok).sound

/-! ## Checking a run -/

def CheckedFits (a : BitVec 16) (s : Traced) : Call → Prop
  | .insertPacket p =>
    (s.buffer.slots (s.buffer.index p.seqNum) = none → ∀ i < s.buffer.size,
      ∀ q ∈ s.buffer.slots i, s.buffer.prevIndex i = s.buffer.index p.seqNum →
        q.continuous → q.isFirst) ∧
    ((p.seqNum - a).toNat + 1 < s.buffer.size ∧ (p.generic → p.isFirst)) ∧
    ∀ i < s.buffer.size, ∀ q ∈ s.buffer.slots i, q.timestamp = p.timestamp →
      (q.seqNum - a).toNat + 1 < s.buffer.size ∧ (q.generic → q.isFirst)
  | _ => True

instance (a : BitVec 16) (s : Traced) (c : Call) : Decidable (CheckedFits a s c) := by
  cases c <;> unfold CheckedFits <;> infer_instance

lemma Good.callFits (h : s.Good) {a : BitVec 16} {c : Call} (hc : CheckedFits a s c) :
    s.CallFits c := by
  cases c with
  | insertPacket p =>
    obtain ⟨hfr, hp, hgroup⟩ := hc
    have hlt : ∀ i q, s.buffer.slots i = some q → i < s.buffer.size := by
      intro i q hq
      rw [h.inOrder.stored i q hq]
      exact Nat.mod_lt _ h.inOrder.size_pos
    refine ⟨fun hfree i q hq => hfr hfree i (hlt i q hq) q hq, fun _ _ _ _ => ⟨a, ?_⟩⟩
    rintro r ⟨rfl | ⟨i, hr⟩, ht⟩
    · exact hp
    · exact hgroup i (hlt i r hr) r hr ht
  | _ => trivial

lemma Good.along (h : s.Good) {a : BitVec 16} {calls : List Call}
    (hok : Along Traced.step (CheckedFits a) s calls) : Along Traced.step CallFits s calls := by
  induction calls generalizing s with
  | nil => trivial
  | cons c calls ih =>
    have hc := h.callFits hok.1
    exact ⟨hc, ih (h.step c hc) hok.2⟩

def slice (codec : VideoCodecType) (seqNum : BitVec 16) (timestamp : BitVec 32)
    (isFirst isLast : Bool) : Packet :=
  { id := 0, seqNum, timestamp, isFirst, isLast, codec, nalus := some [.idr] }

/-- Two frames, one without and one with reliable first flags, a padding packet between
them and a packet that arrives late. -/
def ordinaryCalls : List Call :=
  [.insertPacket (slice .vp8 10 1 true false), .insertPacket (slice .vp8 12 1 false true),
    .insertPacket (slice .vp8 11 1 false false), .insertPadding 13, .clearTo 12,
    .insertPacket (slice .h264 14 2 true false), .insertPacket (slice .h264 15 2 false true)]

theorem ordinary_frames_genuine : (run step { buffer := new 8 16 false } ordinaryCalls).Sound ∧
    (run step { buffer := new 8 16 false } ordinaryCalls).returned.map (·.map seqNum) =
      [[10, 11, 12], [14, 15]] := by
  refine ⟨frames_genuine (j := 3) (k := 4) rfl rfl (by decide) false ordinaryCalls ?_, by
    decide +kernel⟩
  exact (good_new (j := 3) (k := 4) rfl rfl (by decide) false).along (a := 10) (by decide +kernel)

def reusedSlotCalls : List Call :=
  [.insertPacket (slice .vp8 0 1 true false), .insertPacket (slice .vp8 1 1 false false),
    .insertPacket (slice .vp8 2 1 false false), .clearTo 0,
    .insertPacket (slice .vp8 4 2 true false), .insertPacket (slice .vp8 3 1 false true)]

def filledRingCalls : List Call :=
  [.insertPacket (slice .h264 1 1 true false), .insertPacket (slice .h264 2 1 false false),
    .insertPacket (slice .h264 4 1 false false), .insertPacket (slice .h264 3 1 false true)]

def lateDescriptorCalls : List Call :=
  [.insertPacket (slice .h264 1 5 true false),
    .insertPacket { slice .h264 2 9 false false with generic := true },
    .insertPacket (slice .h264 3 9 true true)]

theorem frames_mixed :
    ¬ (run step { buffer := new 4 4 false } reusedSlotCalls).Sound ∧
    ¬ (run step { buffer := new 4 4 false } filledRingCalls).Sound ∧
    ¬ (run step { buffer := new 4 4 false } lateDescriptorCalls).Sound := by
  refine ⟨fun h => ?_, fun h => ?_, fun h => ?_⟩
  · have hall : ∀ f ∈ (run step { buffer := new 4 4 false } reusedSlotCalls).returned,
    (f.map seqNum).IsChain fun m n => n = m + 1 := fun f hf => (h.1 f hf).consecutive
    exact absurd hall (by decide +kernel)
  · have hall : ∀ f ∈ (run step { buffer := new 4 4 false } filledRingCalls).returned,
    (f.map seqNum).IsChain fun m n => n = m + 1 := fun f hf => (h.1 f hf).consecutive
    exact absurd hall (by decide +kernel)
  have hall : ∀ f ∈ (run step { buffer := new 4 4 false } lateDescriptorCalls).returned,
      ∀ p ∈ f, ∀ q ∈ f, p.timestamp = q.timestamp :=
    fun f hf p hp q hq => (h.1 f hf).timestamp_eq hp hq
  exact absurd hall (by decide +kernel)

end Traced

end PacketBuffer

end WebRtc.VideoCoding
