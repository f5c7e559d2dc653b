import Mathlib.Data.List.Chain
import WebRtc.Lib.Run
import WebRtc.VideoCoding.PacketBufferRing

/-!
# WebRTC — the frames of the packet buffer

The backward search of `FindFrames` visits a run of stored packets that follow each other and share
a timestamp (`StoredRun`). It goes from slot to slot; that the slot in front holds the preceding
packet is the order of the ring (`InOrder`). A frame is `Genuine` that consists of inserted
packets, in sequence, of one timestamp, from a first to a last one.
-/

namespace WebRtc.VideoCoding

open Lib Numerics Packet Function List BitVec

/-- The packet without anything that the buffer writes, the flags of a packet that is
handed out included. -/
def Packet.unmarked (p : Packet) : Packet := { p.core with isFirst := false, isLast := false }

structure IsFrame (ps : List Packet) : Prop where
  nonempty : ps ≠ []
  consecutive : ps.IsChain fun p q => q.seqNum = p.seqNum + 1
  timestamp : ∀ p ∈ ps, ∀ q ∈ ps, p.timestamp = q.timestamp
  last : ∀ p ∈ ps.getLast?, p.isLast
  -- H.264 without a generic descriptor has no reliable first flags.
  first : (∀ p ∈ ps.head?, p.isFirst) ∨
    ((∀ p ∈ ps.getLast?, p.codec = .h264) ∧ ∀ p ∈ ps, p.generic = false)

def Genuine (source : Packet → Prop) (frame : List Packet) : Prop :=
  ∃ ps, IsFrame ps ∧ (∀ p ∈ ps, source p) ∧ frame.map unmarked = ps.map unmarked

variable {source : Packet → Prop} {frame : List Packet}

section

variable (h : Genuine source frame)

include h

lemma Genuine.mono {source' : Packet → Prop} (hsub : ∀ p, source p → source' p) : Genuine source' frame := by
  obtain ⟨ps, hps, hsource, hmap⟩ := h
  exact ⟨ps, hps, fun p hp => hsub p (hsource p hp), hmap⟩

lemma Genuine.id_mem {p : Packet} (hp : p ∈ frame) : ∃ q, source q ∧ q.id = p.id := by
  obtain ⟨ps, -, hsource, hmap⟩ := h
  have hmem : p.unmarked ∈ ps.map unmarked := hmap ▸ mem_map_of_mem hp
  obtain ⟨q, hq, heq⟩ := mem_map.mp hmem
  have hid : q.unmarked.id = p.unmarked.id := congrArg Packet.id heq
  exact ⟨q, hsource q hq, hid⟩

lemma Genuine.consecutive : (frame.map seqNum).IsChain fun m n => n = m + 1 := by
  obtain ⟨ps, hps, -, hmap⟩ := h
  have hseq := congrArg (map seqNum) hmap
  rw [map_map, map_map] at hseq
  change frame.map seqNum = ps.map seqNum at hseq
  rw [hseq, isChain_map]
  exact hps.consecutive

lemma Genuine.timestamp_eq {p q : Packet} (hp : p ∈ frame) (hq : q ∈ frame) :
    p.timestamp = q.timestamp := by
  obtain ⟨ps, hps, -, hmap⟩ := h
  have hback : ∀ x ∈ frame, ∃ y ∈ ps, y.timestamp = x.timestamp := by
    intro x hx
    obtain ⟨y, hy, heq⟩ := mem_map.mp (hmap ▸ mem_map_of_mem hx)
    have htime : y.unmarked.timestamp = x.unmarked.timestamp := congrArg timestamp heq
    exact ⟨y, hy, htime⟩
  obtain ⟨x, hx, hxt⟩ := hback p hp
  obtain ⟨y, hy, hyt⟩ := hback q hq
  rw [← hxt, ← hyt]
  exact hps.timestamp x hx y hy

end

namespace PacketBuffer

variable {b b' : PacketBuffer} {ts : BitVec 32} {a n : BitVec 16} {qs : List Packet}

/-! ## Runs of stored packets -/

lemma succ_add_ofNat (a : BitVec 16) (k : Nat) :
    a + 1 + BitVec.ofNat 16 k = a + BitVec.ofNat 16 (k + 1) := by
  rw [Nat.add_comm, ofNat_add, ← add_assoc]
  rfl

/-- The packets are stored one behind the other, from number `a` on, with timestamp
`ts`. -/
def StoredRun (b : PacketBuffer) (ts : BitVec 32) : BitVec 16 → List Packet → Prop
  | _, [] => True
  | a, q :: qs => b.slots (b.index a) = some q ∧ q.seqNum = a ∧ q.timestamp = ts ∧
    StoredRun b ts (a + 1) qs

variable {s : Search} {q : Packet}

namespace StoredRun

lemma mem (h : b.StoredRun ts a qs) (hq : q ∈ qs) : b.slots (b.index q.seqNum) = some q ∧
    q.timestamp = ts ∧ ∃ i < qs.length, q.seqNum = a + BitVec.ofNat 16 i := by
  induction qs generalizing a with
  | nil => cases hq
  | cons x qs ih =>
    obtain ⟨hx, hseq, htime, hrun⟩ := h
    rcases mem_cons.mp hq with rfl | hq
    · rw [hseq]
      exact ⟨hx, htime, 0, Nat.succ_pos _, (add_zero a).symm⟩
    · obtain ⟨hslot, htime, i, hi, heq⟩ := ih hrun hq
      exact ⟨hslot, htime, i + 1, Nat.succ_lt_succ hi, heq.trans (succ_add_ofNat a i)⟩

lemma seqNum_ne (h : b.StoredRun ts (a + 1) qs) (hlen : qs.length + 1 < 2 ^ 16)
    (hq : q ∈ qs) : q.seqNum ≠ a := by
  intro heq
  obtain ⟨-, -, i, hi, hi'⟩ := h.mem hq
  bv_omega

section

variable (h : b.StoredRun ts a qs)

include h

lemma isChain : qs.IsChain fun p q => q.seqNum = p.seqNum + 1 := by
  induction qs generalizing a with
  | nil => exact .nil
  | cons x qs ih =>
    obtain ⟨-, hseq, -, hrun⟩ := h
    cases qs with
    | nil => exact .singleton x
    | cons y qs =>
      refine .cons_cons ?_ (ih hrun)
      rw [hseq]
      exact hrun.2.1

lemma take (k : Nat) : b.StoredRun ts a (qs.take k) := by
  induction qs generalizing a k with
  | nil => rw [take_nil]; trivial
  | cons x qs ih =>
    cases k with
    | zero => trivial
    | succ k => exact ⟨h.1, h.2.1, h.2.2.1, ih h.2.2.2 k⟩

lemma getLast (hq : q ∈ qs.getLast?) : q.seqNum + 1 = a + BitVec.ofNat 16 qs.length := by
  induction qs generalizing a with
  | nil => cases hq
  | cons x qs ih =>
    obtain ⟨-, hseq, -, hrun⟩ := h
    cases qs with
    | nil =>
      have hqx : x = q := Option.some.inj hq
      rw [← hqx, hseq]
      rfl
    | cons y qs =>
      exact (ih hrun hq).trans (succ_add_ofNat a _)

lemma clearSlot {i : Nat} (hi : ∀ q ∈ qs, b.index q.seqNum ≠ i) :
    (b.setSlot i none).StoredRun ts a qs := by
  induction qs generalizing a with
  | nil => trivial
  | cons x qs ih =>
    obtain ⟨hx, hseq, htime, hrun⟩ := h
    refine ⟨?_, hseq, htime, ih hrun fun q hq => hi q (mem_cons_of_mem x hq)⟩
    rw [setSlot_index, setSlot_slots, update_of_ne]
    · exact hx
    rw [← hseq]
    exact hi x mem_cons_self

end

end StoredRun

lemma takePackets_spec (first last : BitVec 16) (h : b.StoredRun ts a qs)
    (hlen : qs.length < 2 ^ 16) :
    (takePackets first last qs.length a b).1.map unmarked = qs.map unmarked ∧
    Shrinks b (takePackets first last qs.length a b).2 ∧
    ∀ q ∈ qs, (takePackets first last qs.length a b).2.slots (b.index q.seqNum) = none := by
  induction qs generalizing a b with
  | nil => exact ⟨rfl, .of_slots_eq rfl rfl rfl, fun q hq => absurd hq not_mem_nil⟩
  | cons x qs ih =>
    obtain ⟨hx, hseq, -, hrun⟩ := h
    rw [length_cons] at hlen ⊢
    -- The other packets of the run lie in other slots: their numbers differ from `a`.
    have hoth2 : ∀ q ∈ qs, b.index q.seqNum ≠ b.index a := by
      intro q hq heq
      have hslot := (hrun.mem hq).1
      rw [heq, hx] at hslot
      exact hrun.seqNum_ne hlen hq (Option.some.inj hslot ▸ hseq)
    obtain ⟨hmap, hshare, hnone⟩ := ih (hrun.clearSlot hoth2) (by omega)
    unfold takePackets
    rw [hx]
    refine ⟨?_, (Shrinks.setSlot_none b _).trans hshare, ?_⟩
    · rw [map_cons, hmap, map_cons]
      rfl
    refine forall_mem_cons.mpr ⟨?_, hnone⟩
    rw [hseq]
    cases hslot : (takePackets first last qs.length (a + 1)
        (b.setSlot (b.index a) none)).2.slots (b.index a) with
    | none => rfl
    | some y =>
      obtain ⟨z, hz, -⟩ := hshare.slots _ y hslot
      rw [setSlot_slots, update_self] at hz
      cases hz

/-! ## The search -/

structure Found (b : PacketBuffer) (ts : BitVec 32) (n : BitVec 16) (s : Search)
    (qs : List Packet) : Prop where
  run : b.StoredRun ts s.startSeqNum qs
  count : s.startSeqNum + BitVec.ofNat 16 qs.length = n + 1
  first : (∀ q ∈ qs.head?, q.isFirst) ∨ (s.isH264Descriptor ∧ ∀ q ∈ qs, q.generic = false)
  last : ∀ q, b.slots (b.index n) = some q → q.isLast ∧ (s.isH264Descriptor → q.codec = .h264)

/-- The state of the search: it has visited `qs` and looks at the packet in front. -/
structure Seeking (b : PacketBuffer) (ts : BitVec 32) (n : BitVec 16) (s : Search)
    (qs : List Packet) : Prop where
  run : b.StoredRun ts (s.startSeqNum + 1) qs
  count : s.startSeqNum + 1 + BitVec.ofNat 16 qs.length = n + 1
  current : ∀ q, b.slots s.startIndex = some q →
    q.seqNum = s.startSeqNum ∧ q.timestamp = ts ∧ (s.isH264Descriptor = false → q.continuous)
  legacy : s.isH264Descriptor → b.slots s.startIndex ≠ none ∧ (∀ q ∈ qs, q.generic = false) ∧
    Compact b.size fun r => b.Holds r ∧ r.timestamp = ts
  full : s.fullFrameFound = false
  last : ∀ q, b.slots (b.index n) = some q → q.isLast ∧ (s.isH264Descriptor → q.codec = .h264)

lemma Seeking.cons (h : b.InOrder) (hs : b.Seeking ts n s qs)
    (hq : b.slots s.startIndex = some q) :
    b.StoredRun ts s.startSeqNum (q :: qs) ∧
      s.startSeqNum + BitVec.ofNat 16 (q :: qs).length = n + 1 := by
  obtain ⟨hseq, htime, -⟩ := hs.current q hq
  refine ⟨⟨?_, hseq, htime, hs.run⟩, ?_⟩
  · rw [← hseq, ← h.stored _ q hq]
    exact hq
  rw [length_cons, ← succ_add_ofNat]
  exact hs.count

variable {p : Packet} {s' : Search} {left : Nat}

lemma noteNalus_spec (h : b.noteNalus p s = some s') :
    s'.startIndex = s.startIndex ∧ s'.startSeqNum = s.startSeqNum ∧
      s'.isH264Descriptor = s.isH264Descriptor ∧ s'.fullFrameFound = s.fullFrameFound := by
  unfold noteNalus at h
  split at h
  · cases h
  dsimp only at h
  split at h
  · split at h <;> obtain rfl := Option.some.inj h <;> exact ⟨rfl, rfl, rfl, rfl⟩
  cases h
  exact ⟨rfl, rfl, rfl, rfl⟩

lemma seeGeneric_legacy (hdesc : s.isH264Descriptor = true)
    (hgen : q.generic = false) : s.seeGeneric (some q) = s := by
  cases s
  simp [Search.seeGeneric, hgen]

lemma searchStart_legacy (hq : b.slots s.startIndex = some q) (hdesc : s.isH264Descriptor = true)
    (hgen : q.generic = false) :
    b.searchStart ts (left + 1) s =
      match b.noteNalus q s with
      | none => none
      | some s =>
        if left = 0 then some s
        else if !(b.slots (b.prevIndex s.startIndex)).any fun p => decide (p.timestamp = ts) then
          some s
        else
          b.searchStart ts left { s with
              startIndex := b.prevIndex s.startIndex
              startSeqNum := s.startSeqNum - 1 } := by
  rw [searchStart]
  rw [hq, seeGeneric_legacy hdesc hgen]
  simp only [hdesc, Bool.not_true, Bool.false_and, Bool.false_eq_true, if_false, if_true,
    Option.bind_some]
  cases hnote : b.noteNalus q s with
  | none => rfl
  | some s1 =>
    dsimp only
    rw [(noteNalus_spec hnote).2.2.1, hdesc, Bool.true_and]

lemma searchStart_flagged (hq : b.slots s.startIndex = some q)
    (hdesc : (s.isH264Descriptor && !q.generic) = false) :
    b.searchStart ts (left + 1) s =
      if q.isFirst then some { s.seeGeneric (some q) with fullFrameFound := true }
      else if left = 0 then some (s.seeGeneric (some q))
      else
        b.searchStart ts left
          { s.seeGeneric (some q) with
            startIndex := b.prevIndex s.startIndex
            startSeqNum := s.startSeqNum - 1 } := by
  rw [searchStart]
  dsimp only
  have hsee : (s.seeGeneric (some q)).isH264Descriptor = false := by
    simpa [Search.seeGeneric] using hdesc
  rw [hq, hsee]
  cases hfirst : q.isFirst
  · simp only [Bool.not_false, Option.all_some, hfirst, Bool.and_false, Bool.false_eq_true, if_false,
      hsee, Bool.false_and]
    rfl
  · simp only [Bool.not_false, Option.all_some, hfirst, Bool.and_self, if_true, Option.isSome_some]

section

variable (h : b.InOrder) (hs : b.Seeking ts n s qs) (hq : b.slots s.startIndex = some q)
  (hi : s'.startIndex = b.prevIndex s.startIndex) (hn : s'.startSeqNum = s.startSeqNum - 1)
  (hf : s'.fullFrameFound = false)

include h hs hq hn

lemma Seeking.cons_pred : b.StoredRun ts (s'.startSeqNum + 1) (q :: qs) ∧
    s'.startSeqNum + 1 + BitVec.ofNat 16 (q :: qs).length = n + 1 := by
  rw [hn, BitVec.sub_add_cancel]
  exact hs.cons h hq

include hi hf

/-- The search goes on to the packet in front of an H.264 packet without a generic
descriptor: it has the same timestamp, and the window of the timestamp is shorter than
the ring. -/
lemma Seeking.next_legacy (hdesc : s.isH264Descriptor = true) (hgen : q.generic = false)
    (hd : s'.isH264Descriptor = s.isH264Descriptor) {r : Packet}
    (hr : b.slots (b.prevIndex s.startIndex) = some r) (hrt : r.timestamp = ts) :
    b.Seeking ts n s' (q :: qs) := by
  obtain ⟨hseq, htime, -⟩ := hs.current q hq
  obtain ⟨-, hqs, hcompact⟩ := hs.legacy hdesc
  obtain ⟨hrun, hcount⟩ := hs.cons_pred h hq hn
  refine ⟨hrun, hcount, ?current, ?legacy, hf, ?last⟩
  case current =>
    intro x hx
    rw [hi, hr] at hx
    cases hx
    refine ⟨?_, hrt, fun hfalse => absurd (hd ▸ hdesc) (by rw [hfalse]; decide)⟩
    rw [hn, ← hseq]
    exact h.pred_of_compact hcompact hq hr ⟨⟨_, hq⟩, htime⟩ ⟨⟨_, hr⟩, hrt⟩
  case legacy =>
    intro _
    refine ⟨by rw [hi, hr]; exact nofun, ?_, hcompact⟩
    exact forall_mem_cons.mpr ⟨hgen, hqs⟩
  case last => rw [hd]; exact hs.last

lemma Seeking.next_flagged (hdesc : s.isH264Descriptor = false) (hfirst : ¬ q.isFirst)
    (hd : s'.isH264Descriptor = false) : b.Seeking ts n s' (q :: qs) := by
  obtain ⟨hseq, htime, hcont⟩ := hs.current q hq
  obtain ⟨hrun, hcount⟩ := hs.cons_pred h hq hn
  refine ⟨hrun, hcount, ?current, ?legacy, hf, ?last⟩
  case current =>
    intro r hr
    rw [hi] at hr
    obtain ⟨hrs, hrt, hrc⟩ := h.linked _ q r hq hr (hcont hdesc) hfirst
    exact ⟨by rw [hrs, hseq, hn], by rw [hrt, htime], fun _ => hrc⟩
  case legacy => rw [hd]; exact nofun
  case last => rw [hd]; exact fun x hx => ⟨(hs.last x hx).1, nofun⟩

end

lemma searchStart_found (h : b.InOrder) (hleft : left ≠ 0)
    (hs : b.Seeking ts n s qs) (hres : b.searchStart ts left s = some s')
    (hfound : s'.isH264Descriptor ∨ s'.fullFrameFound) : ∃ qs', b.Found ts n s' qs' := by
  induction left generalizing s qs with
  | zero => exact absurd rfl hleft
  | succ left ih =>
    cases hq : b.slots s.startIndex with
    | none =>
      -- Only the flagged search can come to an empty slot, and it fails there.
      have hdesc : s.isH264Descriptor = false :=
        Bool.eq_false_iff.mpr fun hdesc => (hs.legacy hdesc).1 hq
      rw [searchStart, hq] at hres
      simp only [Search.seeGeneric, hdesc, Bool.false_and, Bool.not_false, Option.all_none,
        Bool.and_self, if_true, Option.isSome_none, Option.some.injEq] at hres
      subst hres
      simp at hfound
    | some q =>
      obtain ⟨hrun, hcount⟩ := hs.cons h hq
      cases hstep : s.isH264Descriptor && !q.generic with
      | true =>
        obtain ⟨hdesc, hgen⟩ : s.isH264Descriptor = true ∧ q.generic = false := by
          simpa using hstep
        have hnogeneric : ∀ x ∈ q :: qs, x.generic = false := by
          exact forall_mem_cons.mpr ⟨hgen, (hs.legacy hdesc).2.1⟩
        rw [searchStart_legacy hq hdesc hgen] at hres
        split at hres
        · cases hres
        next s1 hnote =>
        obtain ⟨hi1, hn1, hd1, hf1⟩ := noteNalus_spec hnote
        have hstop : b.Found ts n s1 (q :: qs) := by
          refine ⟨by rw [hn1]; exact hrun, by rw [hn1]; exact hcount, ?_, ?_⟩
          · exact .inr ⟨hd1.trans hdesc, hnogeneric⟩
          · rw [hd1]; exact hs.last
        split at hres
        · cases hres
          exact ⟨_, hstop⟩
        next hleft' =>
        split at hres
        · cases hres
          exact ⟨_, hstop⟩
        next hprev =>
        rw [Bool.not_eq_true', Bool.not_eq_false, Option.any_eq_true] at hprev
        obtain ⟨r, hr, hrt⟩ := hprev
        rw [hi1] at hr
        refine @ih (q :: qs) _ hleft' ?_ hres
        exact hs.next_legacy h hq (by rw [hi1]) (by rw [hn1]) (hf1.trans hs.full) hdesc hgen hd1 hr
          (of_decide_eq_true hrt)
      | false =>
        rw [searchStart_flagged hq hstep] at hres
        have hsee : (s.seeGeneric (some q)).isH264Descriptor = false := by
          simpa [Search.seeGeneric] using hstep
        split at hres
        · next hfirst =>
          cases hres
          refine ⟨q :: qs, hrun, hcount, .inl ?_, fun x hx => ⟨(hs.last x hx).1, ?_⟩⟩
          · intro x hx
            cases hx
            exact hfirst
          · intro hd
            exact absurd (hsee.symm.trans hd) (by decide)
        next hfirst =>
        -- A generic descriptor among packets without would be on a first packet.
        have hdesc : s.isH264Descriptor = false := by
          refine Bool.eq_false_iff.mpr fun hdesc => hfirst ?_
          obtain ⟨a, ha⟩ := (hs.legacy hdesc).2.2
          refine (ha q ⟨⟨_, hq⟩, (hs.current q hq).2.1⟩).2 ?_
          simpa [hdesc] using hstep
        split at hres
        · cases hres
          have hfull : (s.seeGeneric (some q)).fullFrameFound = false := hs.full
          rw [hsee, hfull] at hfound
          simp at hfound
        · next hleft' =>
          refine @ih (q :: qs) _ hleft' ?_ hres
          exact hs.next_flagged h hq rfl rfl hs.full hdesc hfirst hsee

/-! ## Handing out -/

def HoldsCore (b : PacketBuffer) (p : Packet) : Prop := ∃ q, b.Holds q ∧ p = q.core

structure HandsOut (b : PacketBuffer) (frames : List (List Packet)) (b' : PacketBuffer) : Prop where
  inOrder : b'.InOrder
  within : Within b b'
  genuine : ∀ f ∈ frames, Genuine b.HoldsCore f
  nodup : (frames.flatten.map Packet.id).Nodup
  gone : ∀ p ∈ frames.flatten, ∀ q, b'.Holds q → q.id ≠ p.id

lemma Within.holdsCore (h : Within b b') (hp : b'.HoldsCore p) : b.HoldsCore p := by
  obtain ⟨q', hq', rfl⟩ := hp
  obtain ⟨q, hq, heq⟩ := h.holds hq'
  exact ⟨q, hq, heq⟩

lemma Within.holds_id (h : Within b b') {q' : Packet} (hq' : b'.Holds q') :
    ∃ q, b.Holds q ∧ q.id = q'.id := by
  obtain ⟨q, hq, heq⟩ := h.holds hq'
  exact ⟨q, hq, (same_of_core heq).id.symm⟩

namespace HandsOut

lemma none (h : b'.InOrder) (hw : Within b b') : HandsOut b [] b' :=
  ⟨h, hw, fun _ hf => absurd hf not_mem_nil, .nil, fun _ hp => absurd hp not_mem_nil⟩

lemma of_within {b0 : PacketBuffer} {frames : List (List Packet)} (hw : Within b0 b)
    (h : HandsOut b frames b') : HandsOut b0 frames b' :=
  ⟨h.inOrder, hw.trans h.within, fun f hf => (h.genuine f hf).mono fun _ => hw.holdsCore, h.nodup,
    h.gone⟩

lemma append {b'' : PacketBuffer} {frames frames' : List (List Packet)}
    (h : HandsOut b frames b') (h' : HandsOut b' frames' b'') :
    HandsOut b (frames ++ frames') b'' := by
  constructor
  case inOrder => exact h'.inOrder
  case within => exact h.within.trans h'.within
  case genuine =>
    exact forall_mem_append.mpr
      ⟨h.genuine, fun f hf => (h'.genuine f hf).mono fun _ => h.within.holdsCore⟩
  case nodup =>
    rw [flatten_append, map_append, nodup_append]
    refine ⟨h.nodup, h'.nodup, ?_⟩
    -- What the second step hands out was still there after the first.
    intro i hi j hj hij
    obtain ⟨p, hp, rfl⟩ := mem_map.mp hi
    obtain ⟨q, hq, rfl⟩ := mem_map.mp hj
    obtain ⟨f, hf, hqf⟩ := mem_flatten.mp hq
    obtain ⟨x, ⟨y, hy, rfl⟩, hid⟩ := (h'.genuine f hf).id_mem hqf
    exact h.gone p hp y hy (hid.trans hij.symm)
  case gone =>
    intro p hp q hq
    rw [flatten_append, mem_append] at hp
    rcases hp with hp | hp
    · obtain ⟨q', hq', hid⟩ := h'.within.holds_id hq
      rw [← hid]
      exact h.gone p hp q' hq'
    · exact h'.gone p hp q hq

end HandsOut

lemma StoredRun.nodup_id (h : b.InOrder) (hrun : b.StoredRun ts a qs)
    (hlen : qs.length < 2 ^ 16) : (qs.map Packet.id).Nodup := by
  induction qs generalizing a with
  | nil => exact .nil
  | cons x qs ih =>
    obtain ⟨hx, hseq, -, htail⟩ := hrun
    rw [length_cons] at hlen
    rw [map_cons, nodup_cons]
    refine ⟨?_, ih htail (by omega)⟩
    intro hmem
    obtain ⟨y, hy, hid⟩ := mem_map.mp hmem
    have hslot := (htail.mem hy).1
    rw [h.distinct _ _ y x hslot hx hid, hx] at hslot
    exact htail.seqNum_ne hlen hy (Option.some.inj hslot ▸ hseq)

lemma Found.isFrame (hf : b.Found ts n s qs) {k : Nat} (hk : k ≠ 0)
    (hle : k ≤ qs.length) (hcount : s.startSeqNum + BitVec.ofNat 16 k = n + 1) :
    IsFrame ((qs.take k).map core) := by
  have hrun := hf.run.take k
  have hlen : (qs.take k).length = k := by rw [length_take]; omega
  -- The last of them lies in the slot of `n`.
  have hlast : ∀ q ∈ (qs.take k).getLast?,
      q.isLast ∧ (s.isH264Descriptor → q.codec = .h264) := by
    intro q hq
    have hseq := hrun.getLast hq
    have hseq' : q.seqNum = n := by bv_omega
    have hslot := (hrun.mem (mem_of_getLast? hq)).1
    rw [hseq'] at hslot
    exact hf.last q hslot
  constructor
  case nonempty =>
    rw [Ne, map_eq_nil_iff, ← length_eq_zero_iff, hlen]
    exact hk
  case consecutive => exact (isChain_map core).mpr hrun.isChain
  case timestamp =>
    intro p hp q hq
    obtain ⟨x, hx, rfl⟩ := mem_map.mp hp
    obtain ⟨y, hy, rfl⟩ := mem_map.mp hq
    exact (hrun.mem hx).2.1.trans (hrun.mem hy).2.1.symm
  case last =>
    intro p hp
    rw [getLast?_map] at hp
    obtain ⟨q, hq, rfl⟩ := Option.map_eq_some_iff.mp hp
    exact (hlast q hq).1
  case first =>
    refine hf.first.imp ?_ ?_
    · intro hfirst p hp
      rw [head?_map, head?_take, if_neg hk] at hp
      obtain ⟨q, hq, rfl⟩ := Option.map_eq_some_iff.mp hp
      exact hfirst q hq
    rintro ⟨hdesc, hgen⟩
    refine ⟨?_, ?_⟩
    · intro p hp
      rw [getLast?_map] at hp
      obtain ⟨q, hq, rfl⟩ := Option.map_eq_some_iff.mp hp
      exact (hlast q hq).2 hdesc
    · intro p hp
      obtain ⟨q, hq, rfl⟩ := mem_map.mp hp
      exact hgen q (mem_of_mem_take hq)

lemma StoredRun.handsOut (h : b.InOrder) (hrun : b.StoredRun ts a qs)
    (hlen : qs.length < 2 ^ 16) (hframe : IsFrame (qs.map core))
    (hmap : frame.map unmarked = qs.map unmarked) (hshare : Shrinks b b')
    (hnone : ∀ q ∈ qs, b'.slots (b.index q.seqNum) = none) : HandsOut b [frame] b' := by
  have hids : frame.map Packet.id = qs.map Packet.id := by
    have hboth := congrArg (map Packet.id) hmap
    rw [map_map, map_map] at hboth
    exact hboth
  constructor
  case inOrder => exact hshare.inOrder h
  case within => exact hshare.within
  case genuine =>
    intro f hf
    obtain rfl := mem_singleton.mp hf
    refine ⟨_, hframe, ?_, ?_⟩
    · intro p hp
      obtain ⟨q, hq, rfl⟩ := mem_map.mp hp
      exact ⟨q, ⟨_, (hrun.mem hq).1⟩, rfl⟩
    · rw [hmap, map_map]
      rfl
  case nodup =>
    rw [flatten_singleton, hids]
    exact hrun.nodup_id h hlen
  case gone =>
    intro p hp q' hq' hid
    rw [flatten_singleton] at hp
    obtain ⟨x, hx, hxp⟩ := mem_map.mp (hids ▸ mem_map_of_mem hp)
    obtain ⟨i, hi⟩ := hq'
    obtain ⟨q, hq, heq⟩ := hshare.slots i q' hi
    have hqid : q.id = x.id := by rw [← (same_of_plain heq).id, hid, hxp]
    rw [h.distinct i _ q x hq (hrun.mem hx).1 hqid] at hi
    exact absurd ((hnone x hx).symm.trans hi) nofun

lemma takeFrame_handsOut (h : b.InOrder) (hf : b.Found ts n s qs) (start : BitVec 16) :
    HandsOut b (frameOf (b.takeFrame start s.startSeqNum n).1)
      (b.takeFrame start s.startSeqNum n).2 := by
  -- The loop counts the packets modulo the range of the numbers.
  obtain ⟨k, hk, hcount, hle, hlt⟩ : ∃ k, (n + 1 - s.startSeqNum).toNat = k ∧
      s.startSeqNum + BitVec.ofNat 16 k = n + 1 ∧ k ≤ qs.length ∧ k < 2 ^ 16 := by
    have hdiff : n + 1 - s.startSeqNum = BitVec.ofNat 16 qs.length := by
      rw [← hf.count, add_comm, add_sub_cancel]
    refine ⟨_, rfl, ?_, ?_, isLt _⟩
    · rw [ofNat_toNat, setWidth_eq, add_comm, sub_add_cancel]
    rw [hdiff, toNat_ofNat]
    exact Nat.mod_le _ _
  have hrun := hf.run.take k
  have hlen : (qs.take k).length = k := by rw [length_take]; omega
  obtain ⟨hmap, hshare, hnone⟩ := takePackets_spec s.startSeqNum n hrun (by omega)
  unfold takeFrame
  rw [hlen] at hmap hshare hnone
  rw [hk]
  generalize takePackets s.startSeqNum n k s.startSeqNum b = taken at hmap hshare hnone ⊢
  obtain ⟨packets, b1⟩ := taken
  have hlst : Shrinks b1 { b1 with
      missingPackets := CompList.fromUpper seqNumBefore id n b1.missingPackets
      receivedPadding := CompList.below seqNumBefore id start b1.receivedPadding
        ++ CompList.fromUpper seqNumBefore id n b1.receivedPadding } := .of_slots_eq rfl rfl rfl
  have haft := hshare.trans hlst
  cases packets with
  | nil => exact .none (haft.inOrder h) haft.within
  | cons p ps =>
    have hzero : k ≠ 0 := by
      rintro rfl
      cases hmap
    exact hrun.handsOut h (by omega) (hf.isFrame hzero hle hcount) hmap haft hnone

lemma markFrameType_slots (s : Search) {i : Nat} (hq : b.slots i = some q) :
    ∃ q', (b.markFrameType s).slots i = some q' ∧ q'.core = q.core := by
  have hshare := (b.markFrameType_shrinks s).within
  cases hslot : (b.markFrameType s).slots i with
  | some q' =>
    obtain ⟨q0, hq0, heq⟩ := hshare.slots i q' hslot
    rw [hq] at hq0
    exact ⟨q', rfl, Option.some.inj hq0 ▸ heq⟩
  | none =>
    unfold markFrameType at hslot
    split at hslot
    · rw [hq] at hslot
      cases hslot
    rw [setSlot_slots, update_apply] at hslot
    split at hslot
    · cases hslot
    rw [hq] at hslot
    cases hslot

lemma StoredRun.rewritten (hrun : b.StoredRun ts a qs) (hsize : b'.size = b.size)
    (hslt : ∀ {i q}, b.slots i = some q → ∃ q', b'.slots i = some q' ∧ q'.core = q.core) :
    ∃ qs', b'.StoredRun ts a qs' ∧ qs'.map core = qs.map core := by
  induction qs generalizing a with
  | nil => exact ⟨[], trivial, rfl⟩
  | cons q qs ih =>
    obtain ⟨hq, hseq, htime, htail⟩ := hrun
    obtain ⟨qs', hrun', hmap⟩ := ih htail
    obtain ⟨q', hq', heq⟩ := hslt hq
    have hsame := same_of_core heq
    refine ⟨q' :: qs', ⟨?_, hsame.seqNum.trans hseq, hsame.timestamp.trans htime, hrun'⟩, ?_⟩
    · unfold index at hq' ⊢
      rw [hsize]
      exact hq'
    · rw [map_cons, map_cons, heq, hmap]

lemma Found.markFrameType (hf : b.Found ts n s qs) :
    ∃ qs', (b.markFrameType s).Found ts n s qs' := by
  have hshare := b.markFrameType_shrinks s
  obtain ⟨qs', hrun, hmap⟩ := hf.run.rewritten hshare.size (markFrameType_slots s)
  have hlen : qs'.length = qs.length := by
    have hboth := congrArg length hmap
    rw [length_map, length_map] at hboth
    exact hboth
  refine ⟨qs', hrun, hlen ▸ hf.count, hf.first.imp ?_ ?_, ?_⟩
  · intro hfirst q' hq'
    have hhead := congrArg head? hmap
    rw [head?_map, head?_map, hq'] at hhead
    obtain ⟨q, hq, heq⟩ := Option.map_eq_some_iff.mp hhead.symm
    rw [(same_of_core heq.symm).isFirst]
    exact hfirst q hq
  · rintro ⟨hdesc, hgen⟩
    refine ⟨hdesc, fun q' hq' => ?_⟩
    obtain ⟨q, hq, heq⟩ := mem_map.mp (hmap ▸ mem_map_of_mem hq')
    rw [(same_of_core heq.symm).generic]
    exact hgen q hq
  intro q' hq'
  obtain ⟨q, hq, heq⟩ := hshare.slots _ q' hq'
  rw [hshare.within.index] at hq
  have hsame := same_of_plain heq
  rw [hsame.isLast, hsame.codec]
  exact hf.last q hq

lemma seeking_last (h : b.InOrder) (hp : b.slots (b.index n) = some p)
    (hseq : p.seqNum = n) (hcont : p.continuous) (hlast : p.isLast) :
    b.Seeking p.timestamp n ⟨b.index n, n, decide (p.codec = .h264) && !p.generic, false, false,
      false, false, -1, -1, false⟩ [] := by
  have hslot : ∀ q, b.slots (b.index n) = some q → q = p :=
    fun q hq => Option.some.inj (hq.symm.trans hp)
  constructor
  case run => trivial
  case count => exact add_zero _
  case current =>
    intro q hq
    rw [hslot q hq]
    exact ⟨hseq, rfl, fun _ => hcont⟩
  case legacy =>
    intro hdesc
    refine ⟨by rw [hp]; exact nofun, fun q hq => absurd hq not_mem_nil, ?_⟩
    exact h.grouped p ⟨_, hp⟩ hdesc
  case full => rfl
  case last =>
    intro q hq
    rw [hslot q hq]
    refine ⟨hlast, fun hdesc => ?_⟩
    exact of_decide_eq_true (Bool.and_eq_true _ _ ▸ hdesc).1

lemma completeFrame_handsOut (h : b.InOrder) (hp : b.slots (b.index n) = some p)
    (hseq : p.seqNum = n) (hcont : p.continuous) (hlast : p.isLast) (start : BitVec 16) :
    HandsOut b (b.completeFrame start n p).1 (b.completeFrame start n p).2.1 := by
  have hunchanged : HandsOut b [] b := .none h (.refl b)
  unfold completeFrame
  dsimp only
  split
  · exact hunchanged
  next s hs =>
  have hfound := searchStart_found h (Nat.pos_iff_ne_zero.mp h.size_pos)
    (seeking_last h hp hseq hcont hlast) hs
  have hshare := b.markFrameType_shrinks s
  split
  · next hdesc =>
    obtain ⟨qs, hf⟩ := hfound (.inl hdesc)
    split
    · exact .none (hshare.inOrder h) hshare.within
    obtain ⟨qs', hf'⟩ := hf.markFrameType
    exact (takeFrame_handsOut (hshare.inOrder h) hf' start).of_within hshare.within
  · split
    · next hfull =>
      obtain ⟨qs, hf⟩ := hfound (.inr hfull)
      exact takeFrame_handsOut h hf start
    · exact hunchanged

lemma findFramesFrom_handsOut (h : b.InOrder) (start : BitVec 16) (left : Nat)
    (seqNum : BitVec 16) :
    HandsOut b (findFramesFrom start left seqNum b).1 (findFramesFrom start left seqNum b).2 := by
  induction left generalizing seqNum b with
  | zero => exact .none h (.refl b)
  | succ left ih =>
    unfold findFramesFrom
    split
    · exact ih h (seqNum + 1)
    split
    · exact .none h (.refl b)
    next hpot =>
    rw [Bool.not_eq_true', Bool.not_eq_false] at hpot
    obtain ⟨p, hp, hseq, -⟩ := potentialNewFrame_spec hpot
    rw [hp]
    dsimp only
    have hmark := h.setContinuous hp hpot
    have hwi := setContinuous_within hp
    split
    · next hlast =>
      have hslot : (b.setSlot (b.index seqNum) (some { p with continuous := true })).slots
          (b.index seqNum) = some { p with continuous := true } := by
        rw [setSlot_slots, update_self]
      have hframe := completeFrame_handsOut hmark hslot hseq rfl hlast start
      split
      · exact (hframe.append (ih hframe.inOrder (seqNum + 1))).of_within hwi
      · exact hframe.of_within hwi
    · exact (ih hmark (seqNum + 1)).of_within hwi

end PacketBuffer

end WebRtc.VideoCoding
