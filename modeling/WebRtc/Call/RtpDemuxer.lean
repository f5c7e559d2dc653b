import WebRtc.Lib.Run
import WebRtc.Lib.Table

/-!
# RTP demuxer

`call/rtp_demuxer.cc`: which sink a packet goes to, by five tables of rules and by what earlier
packets of its SSRC have told. `onRtpPacket_state` says what a packet can do, and everything about
runs goes through it. The bindings of SSRCs to sinks have a limit, the remembered MIDs and RSIDs
have none.
-/

namespace WebRtc.Call

open Lib Table List AList

abbrev Ssrc := BitVec 32

abbrev PayloadType := BitVec 8

abbrev Name := List UInt8

abbrev Sink := Nat

/-- `RtpDemuxerCriteria`; a MID or RSID that is empty is not a criterion. -/
structure RtpDemuxerCriteria where
  mid : Name := []
  rsid : Name := []
  ssrcs : List Ssrc := []
  payloadTypes : List PayloadType := []
deriving DecidableEq

structure RtpPacketReceived where
  ssrc : Ssrc
  payloadType : PayloadType
  mid : Option Name := none
  rsid : Option Name := none
  repairedRsid : Option Name := none
deriving DecidableEq

/-- The RSID of a packet; on a repair packet the one it repairs. -/
def RtpPacketReceived.streamId (packet : RtpPacketReceived) : Option Name :=
  packet.repairedRsid <|> packet.rsid

structure RtpDemuxer where
  useMid : Bool
  sinkByMid : Table Name Sink := ∅
  sinkBySsrc : Table Ssrc Sink := ∅
  sinksByPt : List (PayloadType × Sink) := []
  sinkByMidAndRsid : Table (Name × Name) Sink := ∅
  sinkByRsid : Table Name Sink := ∅
  knownMids : List Name := []
  midBySsrc : Table Ssrc Name := ∅
  rsidBySsrc : Table Ssrc Name := ∅

namespace RtpDemuxer

def new (useMid : Bool) : RtpDemuxer := { useMid := useMid }

def kMaxSsrcBindings : Nat := 1000

def refreshKnownMids (d : RtpDemuxer) : RtpDemuxer :=
  { d with knownMids := d.sinkByMid.keys ++ d.sinkByMidAndRsid.keys.map Prod.fst }

def criteriaWouldConflict (d : RtpDemuxer) (criteria : RtpDemuxerCriteria) : Bool :=
  decide (criteria.mid ≠ [] ∧
    if criteria.rsid = [] then criteria.mid ∈ d.knownMids
    else (criteria.mid, criteria.rsid) ∈ d.sinkByMidAndRsid ∨ criteria.mid ∈ d.sinkByMid) ||
  criteria.ssrcs.any fun ssrc => ssrc ∈ d.sinkBySsrc

def addIdRule (d : RtpDemuxer) (criteria : RtpDemuxerCriteria) (sink : Sink) : RtpDemuxer :=
  if criteria.mid ≠ [] then
    if criteria.rsid = [] then { d with sinkByMid := emplace d.sinkByMid criteria.mid sink }
    else { d with
      sinkByMidAndRsid := emplace d.sinkByMidAndRsid (criteria.mid, criteria.rsid) sink }
  else if criteria.rsid ≠ [] then
    { d with sinkByRsid := emplace d.sinkByRsid criteria.rsid sink }
  else d

def addSink (d : RtpDemuxer) (criteria : RtpDemuxerCriteria) (sink : Sink) : Bool × RtpDemuxer :=
  if d.criteriaWouldConflict criteria then (false, d)
  else
    let d := d.addIdRule criteria sink
    (true, refreshKnownMids { d with
      sinkBySsrc := criteria.ssrcs.foldl (fun t ssrc => emplace t ssrc sink) d.sinkBySsrc
      sinksByPt := d.sinksByPt ++ criteria.payloadTypes.map fun payloadType => (payloadType, sink) })

/-- `RemoveSink`; says whether there was anything to remove. -/
def removeSink (d : RtpDemuxer) (sink : Sink) : Bool × RtpDemuxer :=
  (d.sinkByMid.entries.any (·.2 = sink) || d.sinkBySsrc.entries.any (·.2 = sink) ||
    d.sinksByPt.any (·.2 = sink) || d.sinkByMidAndRsid.entries.any (·.2 = sink) ||
    d.sinkByRsid.entries.any (·.2 = sink),
  refreshKnownMids { d with
    sinkByMid := removeByValue d.sinkByMid sink
    sinkBySsrc := removeByValue d.sinkBySsrc sink
    sinksByPt := d.sinksByPt.filter fun e => e.2 ≠ sink
    sinkByMidAndRsid := removeByValue d.sinkByMidAndRsid sink
    sinkByRsid := removeByValue d.sinkByRsid sink })

def addSsrcSinkBinding (d : RtpDemuxer) (ssrc : Ssrc) (sink : Sink) : RtpDemuxer :=
  if size d.sinkBySsrc ≥ kMaxSsrcBindings then d
  else { d with sinkBySsrc := d.sinkBySsrc.insert ssrc sink }

def bound (d : RtpDemuxer) (ssrc : Ssrc) : Option Sink → Option Sink × RtpDemuxer
  | some sink => (some sink, d.addSsrcSinkBinding ssrc sink)
  | none => (none, d)

def resolveSinkByMid (d : RtpDemuxer) (mid : Name) (ssrc : Ssrc) : Option Sink × RtpDemuxer :=
  d.bound ssrc (d.sinkByMid.lookup mid)

def resolveSinkByMidRsid (d : RtpDemuxer) (mid rsid : Name) (ssrc : Ssrc) :
    Option Sink × RtpDemuxer :=
  d.bound ssrc (d.sinkByMidAndRsid.lookup (mid, rsid))

def resolveSinkByRsid (d : RtpDemuxer) (rsid : Name) (ssrc : Ssrc) : Option Sink × RtpDemuxer :=
  d.bound ssrc (d.sinkByRsid.lookup rsid)

/-- A payload type is a rule where one sink only has it. -/
def sinkByPayloadType (d : RtpDemuxer) (payloadType : PayloadType) : Option Sink :=
  match d.sinksByPt.filter fun e => e.1 = payloadType with
  | [e] => some e.2
  | _ => none

def resolveSinkByPayloadType (d : RtpDemuxer) (payloadType : PayloadType) (ssrc : Ssrc) :
    Option Sink × RtpDemuxer :=
  d.bound ssrc (d.sinkByPayloadType payloadType)

def latch (d : RtpDemuxer) (ssrc : Ssrc) (mid rsid : Option Name) : RtpDemuxer :=
  { d with
    midBySsrc := mid.elim d.midBySsrc fun mid => d.midBySsrc.insert ssrc mid
    rsidBySsrc := rsid.elim d.rsidBySsrc fun rsid => d.rsidBySsrc.insert ssrc rsid }

def resolveLatched (d : RtpDemuxer) (packet : RtpPacketReceived) : Option Sink × RtpDemuxer :=
  match d.midBySsrc.lookup packet.ssrc with
  | some mid =>
    match d.resolveSinkByMid mid packet.ssrc with
    | (some sink, d') => (some sink, d')
    | (none, _) =>
      match d.rsidBySsrc.lookup packet.ssrc with
      | some rsid => d.resolveSinkByMidRsid mid rsid packet.ssrc
      | none => (none, d)
  | none =>
    match (d.rsidBySsrc.lookup packet.ssrc).elim (none, d)
      fun rsid => d.resolveSinkByRsid rsid packet.ssrc with
    | (some sink, d') => (some sink, d')
    | (none, _) =>
      match d.sinkBySsrc.lookup packet.ssrc with
      | some sink => (some sink, d)
      | none => d.resolveSinkByPayloadType packet.payloadType packet.ssrc

def midOf (d : RtpDemuxer) (packet : RtpPacketReceived) : Option Name :=
  if d.useMid then packet.mid else none

def onRtpPacket (d : RtpDemuxer) (packet : RtpPacketReceived) : Option Sink × RtpDemuxer :=
  -- A packet with an unknown MID is dropped, whatever is known of its SSRC.
  if ∃ mid ∈ d.midOf packet, mid ∉ d.knownMids then (none, d)
  else resolveLatched (d.latch packet.ssrc (d.midOf packet) packet.streamId) packet

/-! ## What a packet does -/

def idRule (d : RtpDemuxer) (mid rsid : Option Name) : Option Sink :=
  match mid with
  | some mid => (d.sinkByMid.lookup mid).or (rsid.bind fun rsid => d.sinkByMidAndRsid.lookup (mid, rsid))
  | none => rsid.bind fun rsid => d.sinkByRsid.lookup rsid

variable {d : RtpDemuxer} {packet : RtpPacketReceived} {ssrc : Ssrc} {sink : Sink}

/-- A rule by MID and RSID decides; without a MID the SSRC and the payload type are left. -/
lemma resolveLatched_eq (packet : RtpPacketReceived) :
    d.resolveLatched packet =
      match d.idRule (d.midBySsrc.lookup packet.ssrc) (d.rsidBySsrc.lookup packet.ssrc) with
      | some sink => (some sink, d.addSsrcSinkBinding packet.ssrc sink)
      | none =>
        if (d.midBySsrc.lookup packet.ssrc).isSome then (none, d)
        else
          match d.sinkBySsrc.lookup packet.ssrc with
          | some sink => (some sink, d)
          | none => d.bound packet.ssrc (d.sinkByPayloadType packet.payloadType) := by
  unfold resolveLatched resolveSinkByMid resolveSinkByMidRsid resolveSinkByRsid idRule
  cases d.midBySsrc.lookup packet.ssrc with
  | some mid =>
    cases hmid : d.sinkByMid.lookup mid with
    | some sink => simp [bound, hmid]
    | none =>
      cases hrsid : d.rsidBySsrc.lookup packet.ssrc with
      | some rsid => cases hboth : d.sinkByMidAndRsid.lookup (mid, rsid) <;> simp [bound, hmid, hboth]
      | none => simp [bound, hmid]
  | none =>
    cases hrsid : d.rsidBySsrc.lookup packet.ssrc with
    | some rsid => cases hsink : d.sinkByRsid.lookup rsid <;> simp [bound, hsink, resolveSinkByPayloadType]
    | none => simp [resolveSinkByPayloadType]

inductive Resolves (d : RtpDemuxer) (packet : RtpPacketReceived) : Option Sink × RtpDemuxer → Prop
  | dropped : Resolves d packet (none, d)
  | rule {sink : Sink}
      (h : d.idRule (d.midBySsrc.lookup packet.ssrc) (d.rsidBySsrc.lookup packet.ssrc) = some sink) :
      Resolves d packet (some sink, d.addSsrcSinkBinding packet.ssrc sink)
  | ssrc {sink : Sink} (hmid : d.midBySsrc.lookup packet.ssrc = none)
      (hrule : d.idRule none (d.rsidBySsrc.lookup packet.ssrc) = none)
      (h : d.sinkBySsrc.lookup packet.ssrc = some sink) : Resolves d packet (some sink, d)
  | payloadType {sink : Sink} (hmid : d.midBySsrc.lookup packet.ssrc = none)
      (hrule : d.idRule none (d.rsidBySsrc.lookup packet.ssrc) = none)
      (hssrc : d.sinkBySsrc.lookup packet.ssrc = none)
      (h : d.sinkByPayloadType packet.payloadType = some sink) :
      Resolves d packet (some sink, d.addSsrcSinkBinding packet.ssrc sink)

lemma resolves (d : RtpDemuxer) (packet : RtpPacketReceived) :
    d.Resolves packet (d.resolveLatched packet) := by
  rw [resolveLatched_eq]
  cases hrule : d.idRule (d.midBySsrc.lookup packet.ssrc) (d.rsidBySsrc.lookup packet.ssrc) with
  | some sink => exact .rule hrule
  | none =>
    cases hmid : d.midBySsrc.lookup packet.ssrc with
    | some mid => exact .dropped
    | none =>
      rw [hmid] at hrule
      cases hssrc : d.sinkBySsrc.lookup packet.ssrc with
      | some sink => exact .ssrc hmid hrule hssrc
      | none =>
        cases hpt : d.sinkByPayloadType packet.payloadType with
        | some sink => exact .payloadType hmid hrule hssrc hpt
        | none => exact .dropped

/-- The packet is not dropped for its MID. -/
def MidKnown (d : RtpDemuxer) (packet : RtpPacketReceived) : Prop :=
  ∀ mid ∈ d.midOf packet, mid ∈ d.knownMids

instance : Decidable (d.MidKnown packet) := by unfold MidKnown; infer_instance

lemma onRtpPacket_of_known (h : d.MidKnown packet) : d.onRtpPacket packet =
    resolveLatched (d.latch packet.ssrc (d.midOf packet) packet.streamId) packet := by
  refine if_neg ?_
  rintro ⟨mid, hmid, hnot⟩
  exact hnot (h mid hmid)

lemma onRtpPacket_of_unknown (h : ¬ d.MidKnown packet) : d.onRtpPacket packet = (none, d) := by
  refine if_pos ?_
  simpa [MidKnown] using h

lemma addSsrcSinkBinding_eq (d : RtpDemuxer) (ssrc : Ssrc) (sink : Sink) :
    ∃ t, d.addSsrcSinkBinding ssrc sink = { d with sinkBySsrc := t } ∧
      (t = d.sinkBySsrc ∨ (size d.sinkBySsrc < kMaxSsrcBindings ∧ t = d.sinkBySsrc.insert ssrc sink)) := by
  unfold addSsrcSinkBinding
  split
  · exact ⟨_, rfl, .inl rfl⟩
  rename_i h
  exact ⟨_, rfl, .inr ⟨Nat.lt_of_not_le h, rfl⟩⟩

/-- **What a packet can do to the demuxer**: what it tells of its SSRC is remembered, and its
SSRC may be bound to the sink that gets it. -/
lemma onRtpPacket_state (d : RtpDemuxer) (packet : RtpPacketReceived) :
    (¬ d.MidKnown packet ∧ (d.onRtpPacket packet).2 = d) ∨ (d.MidKnown packet ∧ ∃ t,
      (d.onRtpPacket packet).2 =
        { d.latch packet.ssrc (d.midOf packet) packet.streamId with sinkBySsrc := t } ∧
      (t = d.sinkBySsrc ∨ ∃ sink, (d.onRtpPacket packet).1 = some sink ∧
        size d.sinkBySsrc < kMaxSsrcBindings ∧ t = d.sinkBySsrc.insert packet.ssrc sink)) := by
  by_cases hkn : d.MidKnown packet
  · refine .inr ⟨hkn, ?_⟩
    rw [onRtpPacket_of_known hkn]
    have h := resolves (d.latch packet.ssrc (d.midOf packet) packet.streamId) packet
    generalize resolveLatched (d.latch packet.ssrc (d.midOf packet) packet.streamId) packet = r at h ⊢
    have hbound (sink : Sink) := addSsrcSinkBinding_eq
      (d.latch packet.ssrc (d.midOf packet) packet.streamId) packet.ssrc sink
    cases h with
    | dropped | ssrc => exact ⟨_, rfl, .inl rfl⟩
    | @rule sink | @payloadType sink =>
      obtain ⟨t, heq, ht⟩ := hbound sink
      exact ⟨t, heq, ht.imp_right fun ht => ⟨sink, rfl, ht⟩⟩
  · rw [onRtpPacket_of_unknown hkn]
    exact .inl ⟨hkn, rfl⟩

/-! ## The size of what is learned -/

def learnedSize (d : RtpDemuxer) : Nat :=
  size d.sinkBySsrc + size d.midBySsrc + size d.rsidBySsrc

def Learns (d : RtpDemuxer) (packet : RtpPacketReceived) : Prop :=
  d.MidKnown packet ∧ (d.midOf packet ≠ none ∨ packet.streamId ≠ none)

def receive (d : RtpDemuxer) (packets : List RtpPacketReceived) : RtpDemuxer :=
  run (fun d packet => (d.onRtpPacket packet).2) d packets

def register (d : RtpDemuxer) (sinks : List (RtpDemuxerCriteria × Sink)) : RtpDemuxer :=
  run (fun d e => (d.addSink e.1 e.2).2) d sinks

structure Bounded (rules : RtpDemuxer) (n : Nat) (s : Finset Ssrc) (d : RtpDemuxer) : Prop where
  useMid : d.useMid = rules.useMid
  known : d.knownMids = rules.knownMids
  bound : size d.sinkBySsrc ≤ n
  mids : ∀ ssrc ∈ d.midBySsrc, ssrc ∈ s
  rsids : ∀ ssrc ∈ d.rsidBySsrc, ssrc ∈ s

lemma Bounded.onRtpPacket {rules : RtpDemuxer} {n : Nat} {s : Finset Ssrc} (h : Bounded rules n s d)
    (hn : kMaxSsrcBindings ≤ n) (hs : rules.Learns packet → packet.ssrc ∈ s) :
    Bounded rules n s (d.onRtpPacket packet).2 := by
  rcases onRtpPacket_state d packet with ⟨-, heq⟩ | ⟨hkn, t, heq, ht⟩
  · rw [heq]
    exact h
  have hid (hid : d.midOf packet ≠ none ∨ packet.streamId ≠ none) : packet.ssrc ∈ s := by
    refine hs ⟨?_, ?_⟩
    · rwa [MidKnown, midOf, ← h.useMid, ← h.known]
    · rwa [midOf, ← h.useMid]
  have hinsr {t : Table Ssrc Name} {name : Name} (ht : ∀ ssrc ∈ t, ssrc ∈ s) (hmem : packet.ssrc ∈ s) :
      ∀ ssrc ∈ t.insert packet.ssrc name, ssrc ∈ s := by
    intro ssrc hssrc
    rcases (mem_insert _).mp hssrc with rfl | hssrc
    · exact hmem
    · exact ht ssrc hssrc
  rw [heq]
  refine ⟨h.useMid, h.known, ?_, ?_, ?_⟩
  · rcases ht with rfl | ⟨sink, -, hlt, rfl⟩
    · exact h.bound
    have := size_insert_le d.sinkBySsrc packet.ssrc sink
    show size (d.sinkBySsrc.insert packet.ssrc sink) ≤ n
    omega
  · show ∀ ssrc ∈ (d.midOf packet).elim d.midBySsrc fun mid => d.midBySsrc.insert packet.ssrc mid, ssrc ∈ s
    cases hmid : d.midOf packet with
    | none => exact h.mids
    | some mid => exact hinsr h.mids (hid (.inl (by rw [hmid]; nofun)))
  · show ∀ ssrc ∈ packet.streamId.elim d.rsidBySsrc fun rsid => d.rsidBySsrc.insert packet.ssrc rsid, ssrc ∈ s
    cases hrsid : packet.streamId with
    | none => exact h.rsids
    | some rsid => exact hinsr h.rsids (hid (.inr (by rw [hrsid]; nofun)))

lemma addSink_learned (d : RtpDemuxer) (crit : RtpDemuxerCriteria) (sink : Sink) :
    size (d.addSink crit sink).2.sinkBySsrc ≤
      size d.sinkBySsrc + crit.ssrcs.length ∧
      (d.addSink crit sink).2.midBySsrc = d.midBySsrc ∧
      (d.addSink crit sink).2.rsidBySsrc = d.rsidBySsrc := by
  have hrule : (d.addIdRule crit sink).sinkBySsrc = d.sinkBySsrc ∧
      (d.addIdRule crit sink).midBySsrc = d.midBySsrc ∧
      (d.addIdRule crit sink).rsidBySsrc = d.rsidBySsrc := by
    unfold addIdRule
    split
    · split <;> exact ⟨rfl, rfl, rfl⟩
    · split <;> exact ⟨rfl, rfl, rfl⟩
  unfold addSink
  split
  · exact ⟨Nat.le_add_right .., rfl, rfl⟩
  refine ⟨?_, hrule.2⟩
  rw [← hrule.1]
  exact size_foldl_emplace_le crit.ssrcs sink _

lemma register_learned (sinks : List (RtpDemuxerCriteria × Sink)) (d : RtpDemuxer) :
    size (d.register sinks).sinkBySsrc ≤
      size d.sinkBySsrc + (sinks.map fun e => e.1.ssrcs.length).sum ∧
      (d.register sinks).midBySsrc = d.midBySsrc ∧ (d.register sinks).rsidBySsrc = d.rsidBySsrc := by
  induction sinks generalizing d with
  | nil => exact ⟨Nat.le_refl _, rfl, rfl⟩
  | cons e sinks ih =>
    obtain ⟨hsize, hmid, hrsid⟩ := addSink_learned d e.1 e.2
    obtain ⟨hsize', hmid', hrsid'⟩ := ih (d.addSink e.1 e.2).2
    refine ⟨?_, hmid'.trans hmid, hrsid'.trans hrsid⟩
    rw [map_cons, sum_cons]
    show size (((d.addSink e.1 e.2).2).register sinks).sinkBySsrc ≤ _
    omega

/-- What is learned is bounded by the limit, the SSRCs that are signalled and those whose packets carry
an RSID or a known MID. -/
lemma learnedSize_le_card (useMid : Bool) (sinks : List (RtpDemuxerCriteria × Sink))
    (packets : List RtpPacketReceived) (s : Finset Ssrc)
    (h : ∀ packet ∈ packets, ((new useMid).register sinks).Learns packet → packet.ssrc ∈ s) :
    (((new useMid).register sinks).receive packets).learnedSize ≤
      max kMaxSsrcBindings (sinks.map fun e => e.1.ssrcs.length).sum + 2 * s.card := by
  obtain ⟨hsize, hmid, hrsid⟩ := register_learned sinks (new useMid)
  have hstart : Bounded ((new useMid).register sinks)
      (max kMaxSsrcBindings (sinks.map fun e => e.1.ssrcs.length).sum) s
      ((new useMid).register sinks) := by
    refine ⟨rfl, rfl, ?_, ?_, ?_⟩
    · exact (hsize.trans (Nat.le_of_eq (Nat.zero_add _))).trans (Nat.le_max_right ..)
    · rw [hmid]
      exact fun ssrc hssrc => absurd hssrc (notMem_empty ssrc)
    rw [hrsid]
    exact fun ssrc hssrc => absurd hssrc (notMem_empty ssrc)
  have hend : Bounded ((new useMid).register sinks)
      (max kMaxSsrcBindings (sinks.map fun e => e.1.ssrcs.length).sum) s
      (((new useMid).register sinks).receive packets) :=
    run_induction_mem (fun d packet hpacket hd => hd.onRtpPacket (Nat.le_max_left ..) (h packet hpacket))
      hstart
  have hbound := hend.bound
  have hmids := size_le_card hend.mids
  have hrsids := size_le_card hend.rsids
  unfold learnedSize
  omega

/-- **What is learned is bounded by the criteria and the limit** while only packets of signalled SSRCs
carry an RSID or a known MID. -/
theorem learnedSize_le (useMid : Bool) (sinks : List (RtpDemuxerCriteria × Sink))
    (packets : List RtpPacketReceived)
    (h : ∀ packet ∈ packets, ((new useMid).register sinks).Learns packet →
      packet.ssrc ∈ sinks.flatMap fun e => e.1.ssrcs) :
    (((new useMid).register sinks).receive packets).learnedSize ≤
      max kMaxSsrcBindings (sinks.map fun e => e.1.ssrcs.length).sum +
        2 * (sinks.map fun e => e.1.ssrcs.length).sum := by
  have hle := learnedSize_le_card useMid sinks packets (sinks.flatMap fun e => e.1.ssrcs).toFinset
    fun packet hpacket hlearns => mem_toFinset.mpr (h packet hpacket hlearns)
  have hcard := (sinks.flatMap fun e => e.1.ssrcs).toFinset_card_le
  rw [length_flatMap] at hcard
  omega

/-- Packets of both SSRCs that are signalled, and one with a MID that is not known. -/
theorem learnedSize_le_of_signalled :
    (((new true).register [({ mid := [97], ssrcs := [7, 8] }, 1)]).receive
      [{ ssrc := 7, payloadType := 0, mid := some [97] }, { ssrc := 8, payloadType := 0, mid := some [97] },
        { ssrc := 9, payloadType := 0, mid := some [98] }]).learnedSize ≤ 1004 :=
  learnedSize_le true [({ mid := [97], ssrcs := [7, 8] }, 1)] _ (by
    simp only [Learns, MidKnown]
    decide +kernel)

def strayPacket (i : Nat) : RtpPacketReceived :=
  { ssrc := BitVec.ofNat 32 i, payloadType := 0, mid := some [97] }

def stray (d : RtpDemuxer) (n : Nat) : RtpDemuxer := d.receive ((range n).map strayPacket)

lemma stray_succ (n : Nat) :
    d.stray (n + 1) = ((d.stray n).onRtpPacket (strayPacket n)).2 := by
  rw [stray, range_succ, map_append, receive, run_append]
  rfl

lemma size_stray {n : Nat} (hn : n ≤ 2 ^ 32) (hmid : d.midBySsrc = ∅)
    (hkn : [97] ∈ d.knownMids) (huse : d.useMid = true) :
    size (d.stray n).midBySsrc = n ∧ [97] ∈ (d.stray n).knownMids ∧ (d.stray n).useMid = true ∧
      ∀ i, n ≤ i → i < 2 ^ 32 → BitVec.ofNat 32 i ∉ (d.stray n).midBySsrc := by
  induction n with
  | zero =>
    have hstart : d.stray 0 = d := rfl
    rw [hstart, hmid]
    exact ⟨rfl, hkn, huse, fun i _ _ => notMem_empty _⟩
  | succ n ih =>
    obtain ⟨hsize, hkn, huse, hfresh⟩ := ih (by omega)
    rw [stray_succ]
    generalize d.stray n = e at hsize hkn huse hfresh
    have hmidOf : e.midOf (strayPacket n) = some [97] := by rw [midOf, huse]; rfl
    have hlatch (t : Table Ssrc Name) (ht : t = e.midBySsrc.insert (BitVec.ofNat 32 n) [97]) :
        size t = n + 1 ∧ ∀ i, n + 1 ≤ i → i < 2 ^ 32 → BitVec.ofNat 32 i ∉ t := by
      rw [ht, size_insert_of_notMem (hfresh n le_rfl (by omega)), hsize]
      refine ⟨rfl, fun i hi hlt hmem => ?_⟩
      rcases (mem_insert _).mp hmem with heq | hmem
      · have hval := congrArg BitVec.toNat heq
        rw [BitVec.toNat_ofNat, BitVec.toNat_ofNat, Nat.mod_eq_of_lt hlt, Nat.mod_eq_of_lt (by omega)] at hval
        omega
      · exact hfresh i (by omega) hlt hmem
    rcases onRtpPacket_state e (strayPacket n) with ⟨hunknown, -⟩ | ⟨-, t, heq, -⟩
    · refine absurd ?_ hunknown
      rw [MidKnown, hmidOf]
      rintro mid ⟨⟩
      exact hkn
    · rw [heq, hmidOf]
      obtain ⟨hsize, hfresh⟩ := hlatch _ rfl
      exact ⟨hsize, hkn, huse, hfresh⟩

lemma le_learnedSize_stray {n : Nat} (hn : n ≤ 2 ^ 32) (hmid : d.midBySsrc = ∅)
    (hkn : [97] ∈ d.knownMids) (huse : d.useMid = true) : n ≤ (d.stray n).learnedSize := by
  have hsize := (size_stray hn hmid hkn huse).1
  unfold learnedSize
  omega

def withMidSink : RtpDemuxer := (new true).register [({ mid := [97] }, 1)]

/-- One rule for a MID, and an SSRC of its own for each packet: the demuxer remembers every SSRC
there is. -/
theorem learned_without_bound : 2 ^ 32 ≤ (withMidSink.stray (2 ^ 32)).learnedSize :=
  le_learnedSize_stray le_rfl (register_learned _ (new true)).2.1 (by decide +kernel)
    (by decide +kernel)

end RtpDemuxer

end WebRtc.Call
