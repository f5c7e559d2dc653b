import WebRtc.VideoCoding.PacketBuffer

/-!
# WebRTC — the ring of the packet buffer

Each packet lies in the slot of its sequence number (`stored`); in front of a continuous packet
that does not begin a frame lies its predecessor, or nothing (`linked`); and the packets that share
a timestamp with an H.264 packet without a generic descriptor fit into the ring (`grouped`).
Storing a packet keeps that if the packet `Fits`: it does not take the slot in front of a
continuous packet whose predecessor is gone, and does not spread a timestamp over the whole ring.
-/

namespace WebRtc.VideoCoding

open Lib Numerics Packet Function Option

/-! ## Indices -/

variable {n : Nat}

lemma prev_mod_eq_iff (hn : 0 < n) (s r : Nat) :
    (if 0 < s % n then s % n - 1 else n - 1) = r % n ↔ r + 1 ≡ s [MOD n] := by
  have hs := Nat.mod_lt s hn
  have hr := Nat.mod_lt r hn
  have hsucc : (r + 1) % n = if r % n + 1 = n then 0 else r % n + 1 := by
    rw [Nat.add_mod]
    split
    · next hwrap =>
      by_cases hone : n = 1
      · subst hone
        omega
      · rw [Nat.mod_eq_of_lt (by omega : 1 < n), hwrap, Nat.mod_self]
    · next hlt =>
      rw [Nat.mod_eq_of_lt (by omega : 1 < n), Nat.mod_eq_of_lt (by omega)]
  unfold Nat.ModEq
  rw [hsucc]
  split <;> split <;> omega

lemma two_pow_dvd_or_lt (k : Nat) : 2 ^ k ∣ 2 ^ 16 ∨ 2 ^ 16 < 2 ^ k := by
  rcases Nat.lt_or_ge 16 k with hk | hk
  · exact .inr (Nat.pow_lt_pow_right (by decide) hk)
  · exact .inl (Nat.pow_dvd_pow 2 hk)

lemma toNat_pred_modEq (s : BitVec 16) : (s - 1).toNat + 1 ≡ s.toNat [MOD 2 ^ 16] := by
  unfold Nat.ModEq
  bv_omega

variable {r : BitVec 16} {k : Nat}

lemma pred_modEq {s : BitVec 16} (h : r.toNat + 1 ≡ s.toNat [MOD 2 ^ k]) :
    (s - 1).toNat ≡ r.toNat [MOD 2 ^ k] := by
  rcases two_pow_dvd_or_lt k with hdvd | hlt
  · have hpred := (toNat_pred_modEq s).of_dvd hdvd
    exact Nat.ModEq.add_right_cancel' 1 (hpred.trans h.symm)
  have heq : r.toNat + 1 = s.toNat :=
    h.eq_of_lt_of_lt (by have := r.isLt; omega) (by have := s.isLt; omega)
  have hpred : s - 1 = r := by bv_omega
  rw [hpred]

/-- Two numbers of a window that is shorter than the ring lie in neighbouring slots only
if one follows the other. -/
lemma eq_pred_of_window {s a : BitVec 16} (h : r.toNat + 1 ≡ s.toNat [MOD 2 ^ k])
    (hr : (r - a).toNat + 1 < 2 ^ k) (hs : (s - a).toNat + 1 < 2 ^ k) : r = s - 1 := by
  rcases two_pow_dvd_or_lt k with hdvd | hlt
  · -- Counted from the beginning of the window, the two numbers differ by one modulo
    -- the size of the ring, and both are smaller than the size.
    have hoffset : ∀ t : BitVec 16, (t - a).toNat + a.toNat ≡ t.toNat [MOD 2 ^ k] := by
      intro t
      refine Nat.ModEq.of_dvd hdvd ?_
      unfold Nat.ModEq
      bv_omega
    have hcount : (r - a).toNat + 1 ≡ (s - a).toNat [MOD 2 ^ k] := by
      refine Nat.ModEq.add_right_cancel' a.toNat ?_
      calc (r - a).toNat + 1 + a.toNat
          = (r - a).toNat + a.toNat + 1 := by omega
        _ ≡ r.toNat + 1 [MOD 2 ^ k] := (hoffset r).add_right 1
        _ ≡ s.toNat [MOD 2 ^ k] := h
        _ ≡ (s - a).toNat + a.toNat [MOD 2 ^ k] := (hoffset s).symm
    have heq : (r - a).toNat + 1 = (s - a).toNat := hcount.eq_of_lt_of_lt hr (by omega)
    bv_omega
  · have heq : r.toNat + 1 = s.toNat :=
      h.eq_of_lt_of_lt (by have := r.isLt; omega) (by have := s.isLt; omega)
    bv_omega

variable {q' : Packet}

namespace Packet

/-- An H.264 packet without a generic descriptor: the search for the beginning of its
frame looks at the timestamps only. -/
def legacy (p : Packet) : Bool := decide (p.codec = .h264) && !p.generic

/-- The packet without the frame type and the resolution, which the buffer may write. -/
def plain (p : Packet) : Packet := { p with frameType := .delta, width := 0, height := 0 }

/-- The packet without anything that the buffer writes while it is stored. -/
def core (p : Packet) : Packet := { p.plain with continuous := false }

lemma core_eq_of_plain {q : Packet} (h : q'.plain = q.plain) : q'.core = q.core := by
  unfold core
  rw [h]

lemma continuous_eq_of_plain {q : Packet} (h : q'.plain = q.plain) :
    q'.continuous = q.continuous := by
  simp only [plain, mk.injEq] at h
  exact h.2.2.2.2.2.2.2.2.2.2.2

structure Same (q q' : Packet) : Prop where
  id : q'.id = q.id
  seqNum : q'.seqNum = q.seqNum
  timestamp : q'.timestamp = q.timestamp
  isFirst : q'.isFirst = q.isFirst
  isLast : q'.isLast = q.isLast
  codec : q'.codec = q.codec
  generic : q'.generic = q.generic

lemma same_of_core {q : Packet} (h : q'.core = q.core) : Same q q' := by
  simp only [core, plain, mk.injEq] at h
  obtain ⟨hid, hseq, htime, hfirst, hlast, hcodec, hgen, -⟩ := h
  exact ⟨hid, hseq, htime, hfirst, hlast, hcodec, hgen⟩

lemma same_of_plain {q : Packet} (h : q'.plain = q.plain) : Same q q' :=
  same_of_core (core_eq_of_plain h)

lemma Same.legacy {q : Packet} (h : Same q q') : q'.legacy = q.legacy := by
  unfold Packet.legacy
  rw [h.codec, h.generic]

end Packet

namespace PacketBuffer

variable {b b' : PacketBuffer} {p : Packet}

lemma prevIndex_index_eq_iff (hsize : 0 < b.size) (s r : BitVec 16) :
    b.prevIndex (b.index s) = b.index r ↔ r.toNat + 1 ≡ s.toNat [MOD b.size] :=
  prev_mod_eq_iff hsize s.toNat r.toNat

@[simp] lemma setSlot_index (i : Nat) (p : Option Packet) (s : BitVec 16) :
    (b.setSlot i p).index s = b.index s := rfl

@[simp] lemma setSlot_prevIndex (i j : Nat) (p : Option Packet) :
    (b.setSlot i p).prevIndex j = b.prevIndex j := rfl

@[simp] lemma setSlot_slots (i : Nat) (p : Option Packet) :
    (b.setSlot i p).slots = update b.slots i p := rfl

/-! ## The invariant -/

/-- The packets `ps` lie in a window that is shorter than a ring of `size` slots, and a
generic descriptor is on first packets only. -/
def Compact (size : Nat) (ps : Packet → Prop) : Prop :=
  ∃ a : BitVec 16, ∀ r, ps r → (r.seqNum - a).toNat + 1 < size ∧ (r.generic → r.isFirst)

lemma Compact.mono {m : Nat} {ps qs : Packet → Prop} (h : Compact m ps) (hmn : m ≤ n)
    (hsub : ∀ r, qs r → ∃ r', ps r' ∧ r'.core = r.core) : Compact n qs := by
  obtain ⟨a, ha⟩ := h
  refine ⟨a, fun r hr => ?_⟩
  obtain ⟨r', hr', hrec⟩ := hsub r hr
  obtain ⟨hwin, hfirst⟩ := ha r' hr'
  have hsame := same_of_core hrec
  rw [hsame.seqNum] at hwin
  rw [hsame.generic, hsame.isFirst] at hfirst
  exact ⟨by omega, hfirst⟩

def Holds (b : PacketBuffer) (q : Packet) : Prop := ∃ i, b.slots i = some q

structure InOrder (b : PacketBuffer) : Prop where
  sizes : ∃ k m, b.size = 2 ^ k ∧ b.maxSize = 2 ^ m ∧ k ≤ m
  stored : ∀ i q, b.slots i = some q → i = b.index q.seqNum
  linked : ∀ i q r, b.slots i = some q → b.slots (b.prevIndex i) = some r →
    q.continuous → ¬ q.isFirst →
    r.seqNum = q.seqNum - 1 ∧ r.timestamp = q.timestamp ∧ r.continuous
  grouped : ∀ q, b.Holds q → q.legacy →
    Compact b.size fun r => b.Holds r ∧ r.timestamp = q.timestamp
  distinct : ∀ i j q r, b.slots i = some q → b.slots j = some r → q.id = r.id → i = j

structure Fits (b : PacketBuffer) (p : Packet) : Prop where
  -- Its slot is not free in front of a continuous packet whose predecessor is gone.
  front : b.slots (b.index p.seqNum) = none →
    ∀ i q, b.slots i = some q → b.prevIndex i = b.index p.seqNum → q.continuous → q.isFirst
  -- The packets of its timestamp stay in a window, if there is a legacy one.
  group : ∀ q, q = p ∨ b.Holds q → q.timestamp = p.timestamp → q.legacy →
    Compact b.size fun r => (r = p ∨ b.Holds r) ∧ r.timestamp = p.timestamp

variable {s : BitVec 16} {q : Packet} {i : Nat}

namespace InOrder

lemma size_pos (h : b.InOrder) : 0 < b.size := by
  obtain ⟨k, -, hk, -⟩ := h.sizes
  rw [hk]
  exact Nat.two_pow_pos k

lemma slots_of_holds (h : b.InOrder) (hq : b.Holds q) : b.slots (b.index q.seqNum) = some q := by
  obtain ⟨i, hi⟩ := hq
  rw [← h.stored i q hi]
  exact hi

lemma pred_of_compact (h : b.InOrder) {ps : Packet → Prop} (hps : Compact b.size ps)
    {r : Packet} (hq : b.slots i = some q) (hr : b.slots (b.prevIndex i) = some r)
    (hpq : ps q) (hpr : ps r) : r.seqNum = q.seqNum - 1 := by
  obtain ⟨a, ha⟩ := hps
  have hi := h.stored i q hq
  have hprev := h.stored _ r hr
  rw [hi, prevIndex_index_eq_iff h.size_pos] at hprev
  obtain ⟨k, -, hk, -⟩ := h.sizes
  rw [hk] at hprev ha
  exact eq_pred_of_window hprev (ha r hpr).1 (ha q hpq).1

end InOrder

/-! ## Taking packets out -/

structure Within (b b' : PacketBuffer) : Prop where
  size : b'.size = b.size
  maxSize : b'.maxSize = b.maxSize
  slots : ∀ i q', b'.slots i = some q' → ∃ q, b.slots i = some q ∧ q'.core = q.core

namespace Within

lemma refl (b : PacketBuffer) : Within b b := ⟨rfl, rfl, fun _ q hq => ⟨q, hq, rfl⟩⟩

lemma trans {b'' : PacketBuffer} (h : Within b b') (h' : Within b' b'') : Within b b'' := by
  refine ⟨h'.size.trans h.size, h'.maxSize.trans h.maxSize, fun i q'' hq'' => ?_⟩
  obtain ⟨q', hq', heq'⟩ := h'.slots i q'' hq''
  obtain ⟨q, hq, heq⟩ := h.slots i q' hq'
  exact ⟨q, hq, heq'.trans heq⟩

lemma index (h : Within b b') (s : BitVec 16) : b'.index s = b.index s := by
  unfold PacketBuffer.index
  rw [h.size]

lemma prevIndex (h : Within b b') (i : Nat) : b'.prevIndex i = b.prevIndex i := by
  unfold PacketBuffer.prevIndex
  rw [h.size]

lemma holds (h : Within b b') (hq' : b'.Holds q') :
    ∃ q, b.Holds q ∧ q'.core = q.core := by
  obtain ⟨i, hi⟩ := hq'
  obtain ⟨q, hq, heq⟩ := h.slots i q' hi
  exact ⟨q, ⟨i, hq⟩, heq⟩

lemma inOrder (hw : Within b b') (h : b.InOrder)
    (hlinked : ∀ i q r, b'.slots i = some q → b'.slots (b'.prevIndex i) = some r →
      q.continuous → ¬ q.isFirst →
      r.seqNum = q.seqNum - 1 ∧ r.timestamp = q.timestamp ∧ r.continuous) : b'.InOrder := by
  constructor
  case sizes => rw [hw.size, hw.maxSize]; exact h.sizes
  case stored =>
    intro i q' hq'
    obtain ⟨q, hq, heq⟩ := hw.slots i q' hq'
    rw [hw.index, (same_of_core heq).seqNum]
    exact h.stored i q hq
  case linked => exact hlinked
  case grouped =>
    intro q' hq' hlegacy
    obtain ⟨q, hq, hqe⟩ := hw.holds hq'
    have hqs := same_of_core hqe
    rw [hqs.legacy] at hlegacy
    refine (h.grouped q hq hlegacy).mono (Nat.le_of_eq hw.size.symm) ?_
    rintro r' ⟨hr', ht⟩
    obtain ⟨r, hr, hre⟩ := hw.holds hr'
    rw [(same_of_core hre).timestamp, hqs.timestamp] at ht
    exact ⟨r, ⟨hr, ht⟩, hre.symm⟩
  case distinct =>
    intro i j q' r' hq' hr' hid
    obtain ⟨q, hq, hqe⟩ := hw.slots i q' hq'
    obtain ⟨r, hr, hre⟩ := hw.slots j r' hr'
    rw [(same_of_core hqe).id, (same_of_core hre).id] at hid
    exact h.distinct i j q r hq hr hid

end Within

/-- Packets have left the ring or have got another video header, and nothing else. -/
structure Shrinks (b b' : PacketBuffer) : Prop where
  size : b'.size = b.size
  maxSize : b'.maxSize = b.maxSize
  slots : ∀ i q', b'.slots i = some q' → ∃ q, b.slots i = some q ∧ q'.plain = q.plain

namespace Shrinks

lemma of_slots_eq (hsize : b'.size = b.size) (hmax : b'.maxSize = b.maxSize)
    (hslt : b'.slots = b.slots) : Shrinks b b' :=
  ⟨hsize, hmax, fun _ q' hq' => ⟨q', hslt ▸ hq', rfl⟩⟩

lemma trans {b'' : PacketBuffer} (h : Shrinks b b') (h' : Shrinks b' b'') : Shrinks b b'' := by
  refine ⟨h'.size.trans h.size, h'.maxSize.trans h.maxSize, fun i q'' hq'' => ?_⟩
  obtain ⟨q', hq', heq'⟩ := h'.slots i q'' hq''
  obtain ⟨q, hq, heq⟩ := h.slots i q' hq'
  exact ⟨q, hq, heq'.trans heq⟩

lemma setSlot_none (b : PacketBuffer) (i : Nat) : Shrinks b (b.setSlot i none) := by
  refine ⟨rfl, rfl, fun j q hq => ?_⟩
  rw [setSlot_slots, update_apply] at hq
  split at hq
  · cases hq
  · exact ⟨q, hq, rfl⟩

lemma within (h : Shrinks b b') : Within b b' := by
  refine ⟨h.size, h.maxSize, fun i q' hq' => ?_⟩
  obtain ⟨q, hq, heq⟩ := h.slots i q' hq'
  exact ⟨q, hq, core_eq_of_plain heq⟩

lemma inOrder (hb : Shrinks b b') (h : b.InOrder) : b'.InOrder := by
  refine hb.within.inOrder h ?_
  intro i q' r' hq' hr' hcont hfirst
  obtain ⟨q, hq, hqe⟩ := hb.slots i q' hq'
  rw [hb.within.prevIndex] at hr'
  obtain ⟨r, hr, hre⟩ := hb.slots _ r' hr'
  have hqs := same_of_plain hqe
  have hrs := same_of_plain hre
  rw [hqs.isFirst] at hfirst
  rw [continuous_eq_of_plain hqe] at hcont
  rw [hqs.seqNum, hqs.timestamp, hrs.seqNum, hrs.timestamp, continuous_eq_of_plain hre]
  exact h.linked i q r hq hr hcont hfirst

end Shrinks

lemma clear_shrinks (b : PacketBuffer) : Shrinks b b.clear :=
  ⟨rfl, rfl, fun _ _ hq => absurd hq nofun⟩

lemma clearSlots_shrinks (seqNum : BitVec 16) (n : Nat) (first : BitVec 16)
    (b : PacketBuffer) : Shrinks b (clearSlots seqNum n first b) := by
  induction n generalizing first b with
  | zero => exact .of_slots_eq rfl rfl rfl
  | succ n ih =>
    unfold clearSlots
    dsimp only
    split
    · exact (Shrinks.setSlot_none b _).trans (ih (first + 1) _)
    · exact ih (first + 1) b

lemma clearTo_shrinks (b : PacketBuffer) (seqNum : BitVec 16) : Shrinks b (b.clearTo seqNum) := by
  unfold clearTo
  split
  · exact .of_slots_eq rfl rfl rfl
  split
  · exact .of_slots_eq rfl rfl rfl
  · exact (clearSlots_shrinks _ _ _ b).trans (.of_slots_eq rfl rfl rfl)

lemma updateMissingPackets_shrinks (b : PacketBuffer) (seqNum : BitVec 16) :
    Shrinks b (b.updateMissingPackets seqNum) := by
  unfold updateMissingPackets
  dsimp only
  split <;> exact .of_slots_eq rfl rfl rfl

lemma markFrameType_shrinks (b : PacketBuffer) (s : Search) : Shrinks b (b.markFrameType s) := by
  unfold markFrameType
  split
  · exact .of_slots_eq rfl rfl rfl
  next p hp =>
  refine ⟨rfl, rfl, fun i q hq => ?_⟩
  rw [setSlot_slots, update_apply] at hq
  split at hq
  · next hi =>
    refine ⟨p, hi ▸ hp, ?_⟩
    rw [← some.inj hq]
    split
    · split <;> rfl
    · rfl
  · exact ⟨q, hq, rfl⟩

/-! ## Marking a packet continuous -/

lemma potentialNewFrame_spec (h : b.potentialNewFrame s = true) :
    ∃ q, b.slots (b.index s) = some q ∧ q.seqNum = s ∧ (q.isFirst ∨
      ∃ r, b.slots (b.prevIndex (b.index s)) = some r ∧
        r.seqNum = q.seqNum - 1 ∧ r.timestamp = q.timestamp ∧ r.continuous) := by
  unfold potentialNewFrame at h
  split at h
  · cases h
  next q hq =>
  refine ⟨q, hq, ?_⟩
  rw [Bool.and_eq_true, decide_eq_true_eq, Bool.or_eq_true] at h
  refine ⟨h.1, h.2.imp id fun hprev => ?_⟩
  split at hprev
  · cases hprev
  next r hr =>
  rw [Bool.and_eq_true, Bool.and_eq_true, decide_eq_true_eq, decide_eq_true_eq] at hprev
  exact ⟨r, hr, hprev.1.1, hprev.1.2, hprev.2⟩

lemma setContinuous_within (hq : b.slots (b.index s) = some q) :
    Within b (b.setSlot (b.index s) (some { q with continuous := true })) := by
  refine ⟨rfl, rfl, fun i q' hq' => ?_⟩
  rw [setSlot_slots, update_apply] at hq'
  split at hq'
  · next hi =>
    refine ⟨q, hi ▸ hq, ?_⟩
    rw [← some.inj hq']
    rfl
  · exact ⟨q', hq', rfl⟩

lemma InOrder.setContinuous (h : b.InOrder)
    (hq : b.slots (b.index s) = some q) (hpot : b.potentialNewFrame s = true) :
    (b.setSlot (b.index s) (some { q with continuous := true })).InOrder := by
  obtain ⟨q0, hq0, -, hcse⟩ := potentialNewFrame_spec hpot
  obtain rfl : q = q0 := some.inj (hq.symm.trans hq0)
  refine (setContinuous_within hq).inOrder h ?_
  intro i x r hx hr hcont hfirst
  rw [setSlot_prevIndex, setSlot_slots] at hr
  rw [setSlot_slots] at hx
  -- The packet in front may be the marked one; it is continuous then in any case.
  have hr' : ∃ r', b.slots (b.prevIndex i) = some r' ∧ r.seqNum = r'.seqNum ∧
      r.timestamp = r'.timestamp ∧ (r'.continuous → r.continuous) := by
    rw [update_apply] at hr
    split at hr
    · next hi =>
      rw [← some.inj hr]
      exact ⟨q, hi ▸ hq, rfl, rfl, fun _ => rfl⟩
    · exact ⟨r, hr, rfl, rfl, id⟩
  obtain ⟨r', hr', hseq, htime, hcont'⟩ := hr'
  rw [hseq, htime]
  rw [update_apply] at hx
  split at hx
  · next hi =>
    subst hi
    rw [← some.inj hx] at hfirst ⊢
    obtain hf | ⟨r0, hr0, hlink⟩ := hcse
    · exact absurd hf hfirst
    obtain rfl : r' = r0 := some.inj (hr'.symm.trans hr0)
    exact ⟨hlink.1, hlink.2.1, hcont' hlink.2.2⟩
  · obtain ⟨hs, ht, hc⟩ := h.linked i x r' hx hr' hcont hfirst
    exact ⟨hs, ht, hcont' hc⟩

/-! ## Storing a packet -/

lemma holds_setSlot {x : Packet} (h : (b.setSlot i (some x)).Holds q) :
    q = x ∨ b.Holds q := by
  obtain ⟨j, hj⟩ := h
  rw [setSlot_slots, update_apply] at hj
  split at hj
  · exact .inl (some.inj hj).symm
  · exact .inr ⟨j, hj⟩

lemma InOrder.setPacket (h : b.InOrder) (hfits : b.Fits p)
    (hfree : b.slots (b.index p.seqNum) = none) (hnew : ∀ q, b.Holds q → q.id ≠ p.id) :
    (b.setSlot (b.index p.seqNum) (some { p with continuous := false })).InOrder := by
  have hback : ∀ r, (b.setSlot (b.index p.seqNum) (some { p with continuous := false })).Holds r →
      ∃ r', (r' = p ∨ b.Holds r') ∧ r'.core = r.core := by
    intro r hr
    obtain rfl | hr := holds_setSlot hr
    · exact ⟨p, .inl rfl, rfl⟩
    · exact ⟨r, .inr hr, rfl⟩
  constructor
  case sizes => exact h.sizes
  case stored =>
    intro i q hq
    rw [setSlot_slots, update_apply] at hq
    split at hq
    · next hi => rw [← some.inj hq]; exact hi
    · exact h.stored i q hq
  case linked =>
    intro i q r hq hr hcont hfirst
    rw [setSlot_prevIndex, setSlot_slots, update_apply] at hr
    rw [setSlot_slots, update_apply] at hq
    split at hq
    · -- The new packet is not continuous yet.
      rw [← some.inj hq] at hcont
      cases hcont
    split at hr
    · next hi => exact absurd (hfits.front hfree i q hq hi hcont) hfirst
    · exact h.linked i q r hq hr hcont hfirst
  case grouped =>
    intro q hq hlegacy
    obtain ⟨q', hq', hqe⟩ := hback q hq
    have hqs := same_of_core hqe
    have hleg' : q'.legacy := hqs.legacy ▸ hlegacy
    by_cases htime : q'.timestamp = p.timestamp
    · refine (hfits.group q' hq' htime hleg').mono le_rfl ?_
      rintro r ⟨hr, ht⟩
      obtain ⟨r', hr', hre⟩ := hback r hr
      have hrs := same_of_core hre
      exact ⟨r', ⟨hr', by rw [hrs.timestamp, ht, ← hqs.timestamp, htime]⟩, hre⟩
    obtain rfl | hq' := hq'
    · exact absurd rfl htime
    refine (h.grouped q' hq' hleg').mono le_rfl ?_
    rintro r ⟨hr, ht⟩
    obtain ⟨r', hr', hre⟩ := hback r hr
    have hrs := same_of_core hre
    have ht' : r'.timestamp = q'.timestamp := by rw [hrs.timestamp, ht, ← hqs.timestamp]
    obtain rfl | hr' := hr'
    · exact absurd ht'.symm htime
    · exact ⟨r', ⟨hr', ht'⟩, hre⟩
  case distinct =>
    intro i j q r hq hr hid
    rw [setSlot_slots, update_apply] at hq hr
    split at hq
    · next hi =>
      rw [← some.inj hq] at hid
      split at hr
      · next hj => rw [hi, hj]
      · exact absurd hid.symm (hnew r ⟨j, hr⟩)
    · split at hr
      · rw [← some.inj hr] at hid
        exact absurd hid (hnew q ⟨i, hq⟩)
      · exact h.distinct i j q r hq hr hid

lemma Fits.group_mono (h : b.Fits p) (hsize : b.size ≤ b'.size)
    (hsub : ∀ q, b'.Holds q → b.Holds q) (hq : q = p ∨ b'.Holds q)
    (ht : q.timestamp = p.timestamp) (hlegacy : q.legacy) :
    Compact b'.size fun r => (r = p ∨ b'.Holds r) ∧ r.timestamp = p.timestamp := by
  refine (h.group q (hq.imp id (hsub q)) ht hlegacy).mono hsize ?_
  rintro r ⟨hr, hrt⟩
  exact ⟨r, ⟨hr.imp id (hsub r), hrt⟩, rfl⟩

/-! ## Expanding the ring -/

def moved (b : PacketBuffer) (newSize n : Nat) : Nat → Option Packet :=
  (List.range n).foldl
    (fun slots i =>
      match b.slots i with
      | none => slots
      | some p => update slots (p.seqNum.toNat % newSize) (some p))
    fun _ => none

lemma moved_succ (newSize n : Nat) :
    b.moved newSize (n + 1) =
      match b.slots n with
      | none => b.moved newSize n
      | some p => update (b.moved newSize n) (p.seqNum.toNat % newSize) (some p) := by
  unfold moved
  rw [List.range_succ, List.foldl_append]
  rfl

lemma of_moved {newSize : Nat} (h : b.moved newSize n i = some q) :
    b.Holds q ∧ i = q.seqNum.toNat % newSize := by
  induction n with
  | zero => cases h
  | succ n ih =>
    rw [moved_succ] at h
    split at h
    · exact ih h
    next x hx =>
    rw [update_apply] at h
    split at h
    · next hi =>
      obtain rfl := some.inj h
      exact ⟨⟨n, hx⟩, hi⟩
    · exact ih h

lemma moved_of_slots (h : b.InOrder) {newSize : Nat} (hdvd : b.size ∣ newSize)
    (hi : i < n) (hq : b.slots i = some q) :
    b.moved newSize n (q.seqNum.toNat % newSize) = some q := by
  induction n with
  | zero => omega
  | succ n ih =>
    rw [moved_succ]
    split
    · next hn =>
      refine ih (Nat.lt_of_le_of_ne (Nat.le_of_lt_succ hi) ?_)
      rintro rfl
      rw [hn] at hq
      cases hq
    next x hx =>
    by_cases hmeet : q.seqNum.toNat % newSize = x.seqNum.toNat % newSize
    · have hsame : i = n := by
        rw [h.stored i q hq, h.stored n x hx]
        exact Nat.ModEq.of_dvd hdvd hmeet
      subst hsame
      rw [hmeet, update_self]
      exact hx.symm.trans hq
    · rw [update_of_ne hmeet]
      refine ih (Nat.lt_of_le_of_ne (Nat.le_of_lt_succ hi) ?_)
      rintro rfl
      rw [hx] at hq
      exact hmeet (by rw [some.inj hq])

structure Expands (b b' : PacketBuffer) : Prop where
  sizes : ∃ k m, b'.size = 2 ^ k ∧ b'.maxSize = 2 ^ m ∧ k ≤ m
  dvd : b.size ∣ b'.size
  holds : ∀ q, b'.Holds q ↔ b.Holds q
  stored : ∀ i q, b'.slots i = some q → i = b'.index q.seqNum

lemma expandBufferSize_spec (h : b.InOrder) (hb : b.expandBufferSize = some b') :
    Expands b b' := by
  obtain ⟨k, m, hk, hm, hkm⟩ := h.sizes
  unfold expandBufferSize at hb
  split at hb
  · cases hb
  next hne =>
  have hlt : k < m := by
    refine Nat.lt_of_le_of_ne hkm ?_
    rintro rfl
    exact hne (hk.trans hm.symm)
  have hdouble : 2 * 2 ^ k = 2 ^ (k + 1) := (Nat.pow_succ' ..).symm
  have hsize : min b.maxSize (2 * b.size) = 2 ^ (k + 1) := by
    rw [hk, hm, hdouble]
    exact Nat.min_eq_right (Nat.pow_le_pow_right (by decide) hlt)
  have hdvd : b.size ∣ min b.maxSize (2 * b.size) := by
    rw [hsize, hk]
    exact Nat.pow_dvd_pow 2 (Nat.le_succ k)
  obtain rfl := some.inj hb
  refine ⟨⟨k + 1, m, hsize, hm, hlt⟩, hdvd, fun q => ⟨?_, ?_⟩, ?_⟩
  · rintro ⟨i, hi⟩
    exact (of_moved hi).1
  · rintro ⟨i, hi⟩
    refine ⟨_, moved_of_slots h hdvd ?_ hi⟩
    rw [h.stored i q hi]
    exact Nat.mod_lt _ h.size_pos
  · intro i q hq
    exact (of_moved hq).2

namespace Expands

section

variable (he : Expands b b')

include he

lemma size_pos : 0 < b'.size := by
  obtain ⟨k, -, hk, -⟩ := he.sizes
  rw [hk]
  exact Nat.two_pow_pos k

lemma size_le : b.size ≤ b'.size := Nat.le_of_dvd he.size_pos he.dvd

lemma prevIndex (h : b.InOrder)
    (hprev : b'.prevIndex (b'.index s) = b'.index r) : b.prevIndex (b.index s) = b.index r := by
  rw [prevIndex_index_eq_iff he.size_pos] at hprev
  rw [prevIndex_index_eq_iff h.size_pos]
  exact hprev.of_dvd he.dvd

lemma inOrder (h : b.InOrder) : b'.InOrder := by
  constructor
  case sizes => exact he.sizes
  case stored => exact he.stored
  case linked =>
    intro i q r hq hr hcont hfirst
    have hqb := h.slots_of_holds ((he.holds q).mp ⟨i, hq⟩)
    have hrb := h.slots_of_holds ((he.holds r).mp ⟨_, hr⟩)
    have hprev := he.stored _ r hr
    rw [he.stored i q hq] at hprev
    rw [← he.prevIndex h hprev] at hrb
    exact h.linked _ q r hqb hrb hcont hfirst
  case grouped =>
    intro q hq hlegacy
    refine (h.grouped q ((he.holds q).mp hq) hlegacy).mono he.size_le ?_
    rintro r ⟨hr, ht⟩
    exact ⟨r, ⟨(he.holds r).mp hr, ht⟩, rfl⟩
  case distinct =>
    intro i j q r hq hr hid
    have hqb := h.slots_of_holds ((he.holds q).mp ⟨i, hq⟩)
    have hrb := h.slots_of_holds ((he.holds r).mp ⟨j, hr⟩)
    have hidx := h.distinct _ _ q r hqb hrb hid
    rw [hidx] at hqb
    rw [he.stored i q hq, he.stored j r hr, some.inj (hqb.symm.trans hrb)]

/-- The slot in front of a continuous packet is not freed by the expansion: its
predecessor is the packet that keeps the slot occupied. -/
lemma fits (h : b.InOrder) (hfits : b.Fits p) : b'.Fits p := by
  constructor
  case front =>
    intro hfree i q hq hprev hcont
    by_contra hfirst
    have hqb := h.slots_of_holds ((he.holds q).mp ⟨i, hq⟩)
    rw [he.stored i q hq] at hprev
    have hprevb := he.prevIndex h hprev
    cases hslot : b.slots (b.index p.seqNum) with
    | none => exact hfirst (hfits.front hslot _ q hqb hprevb hcont)
    | some r =>
      obtain ⟨hseq, -, -⟩ := h.linked _ q r hqb (hprevb ▸ hslot) hcont hfirst
      obtain ⟨j, hj⟩ := (he.holds r).mpr ⟨_, hslot⟩
      have hjr := he.stored j r hj
      obtain ⟨k, -, hk, -⟩ := he.sizes
      rw [prevIndex_index_eq_iff he.size_pos, hk] at hprev
      have hsame : b'.index r.seqNum = b'.index p.seqNum := by
        unfold PacketBuffer.index
        rw [hseq, hk]
        exact pred_modEq hprev
      rw [hjr, hsame, hfree] at hj
      cases hj
  case group =>
    intro q hq ht hlegacy
    exact hfits.group_mono he.size_le (fun q => (he.holds q).mp) hq ht hlegacy

end

end Expands

lemma expandFor_spec (fuel : Nat) (h : b.InOrder) (hfits : b.Fits p) :
    (expandFor p.seqNum fuel b).InOrder ∧ (expandFor p.seqNum fuel b).Fits p ∧
      ∀ q, (expandFor p.seqNum fuel b).Holds q → b.Holds q := by
  induction fuel generalizing b with
  | zero => exact ⟨h, hfits, fun _ => id⟩
  | succ fuel ih =>
    unfold expandFor
    split
    · exact ⟨h, hfits, fun _ => id⟩
    next b' hb' =>
    have he := expandBufferSize_spec h hb'
    have hsub : ∀ q, b'.Holds q → b.Holds q := fun q => (he.holds q).mp
    split
    · obtain ⟨hin, hfit, hholds⟩ := ih (he.inOrder h) (he.fits h hfits)
      exact ⟨hin, hfit, fun q hq => hsub q (hholds q hq)⟩
    · exact ⟨he.inOrder h, he.fits h hfits, hsub⟩

lemma noteFirst_spec (hb : b.noteFirst s = some b') :
    (b'.size = b.size ∧ b'.maxSize = b.maxSize) ∧
      (b'.slots = b.slots ∨ b'.slots = fun _ => none) := by
  unfold noteFirst at hb
  split at hb
  · obtain rfl := some.inj hb
    exact ⟨⟨rfl, rfl⟩, .inl rfl⟩
  split at hb
  · split at hb
    · cases hb
    split at hb <;> obtain rfl := some.inj hb
    · exact ⟨⟨rfl, rfl⟩, .inr rfl⟩
    · exact ⟨⟨rfl, rfl⟩, .inl rfl⟩
  · obtain rfl := some.inj hb
    exact ⟨⟨rfl, rfl⟩, .inl rfl⟩

lemma noteFirst_shrinks (hb : b.noteFirst s = some b') : Shrinks b b' := by
  obtain ⟨⟨hsize, hmax⟩, hslt⟩ := noteFirst_spec hb
  refine ⟨hsize, hmax, fun i q hq => ?_⟩
  obtain hslt | hslt := hslt <;> rw [hslt] at hq
  · exact ⟨q, hq, rfl⟩
  · cases hq

lemma noteFirst_fits (hb : b.noteFirst s = some b') (hfits : b.Fits p) : b'.Fits p := by
  obtain ⟨⟨hsize, -⟩, hslt⟩ := noteFirst_spec hb
  have hindex : ∀ s, b'.index s = b.index s := fun s => by unfold index; rw [hsize]
  have hprev : ∀ i, b'.prevIndex i = b.prevIndex i := fun i => by unfold prevIndex; rw [hsize]
  have hsub : ∀ q, b'.Holds q → b.Holds q := by
    rintro q ⟨i, hi⟩
    obtain hslt | hslt := hslt <;> rw [hslt] at hi
    · exact ⟨i, hi⟩
    · cases hi
  refine ⟨?_, fun q hq ht hlegacy =>
    hfits.group_mono (Nat.le_of_eq hsize.symm) hsub hq ht hlegacy⟩
  obtain hslt | hslt := hslt <;> rw [hslt]
  · simp only [hindex, hprev]
    exact hfits.front
  intro _ i q hq
  cases hq

end PacketBuffer

end WebRtc.VideoCoding
