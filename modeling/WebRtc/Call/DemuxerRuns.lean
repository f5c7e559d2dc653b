import WebRtc.Call.RtpDemuxer

/-!
# RTP demuxer — where packets go

A demuxer next to a record of the registered sinks and of where the last packet with a MID or RSID
of each SSRC went. A packet that carries no ids goes where the last one with ids went (`Follows`).
That needs a bound SSRC: a packet whose RSID fits no rule, routed by payload type with the bindings
at their limit, leaves nothing behind (`WithinLimit`).
-/

namespace WebRtc.Call

open Lib RtpDemuxer RtpPacketReceived Table List AList Function

inductive Event
  | addSink (criteria : RtpDemuxerCriteria) (sink : Sink)
  | removeSink (sink : Sink)
  | onRtpPacket (packet : RtpPacketReceived)

structure Traced where
  demuxer : RtpDemuxer
  registered : List (RtpDemuxerCriteria × Sink) := []
  /-- Where the last packet with a MID or RSID of an SSRC went, while the sinks stay the same. -/
  followed : Ssrc → Option Sink := fun _ => none

def RtpPacketReceived.CarriesId (packet : RtpPacketReceived) : Prop :=
  packet.mid ≠ none ∨ packet.streamId ≠ none

instance (packet : RtpPacketReceived) : Decidable packet.CarriesId := by
  unfold CarriesId
  infer_instance

namespace Traced

def start : Traced := { demuxer := .new true }

def step (t : Traced) : Event → Traced
  | .addSink criteria sink =>
    if (t.demuxer.addSink criteria sink).1 then
      { demuxer := (t.demuxer.addSink criteria sink).2, registered := t.registered ++ [(criteria, sink)] }
    else t
  | .removeSink sink =>
    { demuxer := (t.demuxer.removeSink sink).2
      registered := t.registered.filter fun e => e.2 ≠ sink
      followed := if (t.demuxer.removeSink sink).1 then fun _ => none else t.followed }
  | .onRtpPacket packet =>
    { t with
      demuxer := (t.demuxer.onRtpPacket packet).2
      followed :=
        if packet.CarriesId then
          update t.followed packet.ssrc (t.demuxer.onRtpPacket packet).1
        else t.followed }

/-- The SSRC of a packet that only its payload type finds a sink for can still be bound. -/
def WithinLimit (t : Traced) : Event → Prop
  | .onRtpPacket packet => packet.CarriesId → packet.mid = none →
      t.demuxer.midBySsrc.lookup packet.ssrc = none →
      (packet.streamId.bind fun rsid => t.demuxer.sinkByRsid.lookup rsid) = none →
      t.demuxer.sinkBySsrc.lookup packet.ssrc = none →
      t.demuxer.sinkByPayloadType packet.payloadType ≠ none →
      size t.demuxer.sinkBySsrc < kMaxSsrcBindings
  | _ => True

end Traced

/-! ## Following the packets with ids -/

namespace RtpDemuxer

variable {d : RtpDemuxer} {packet : RtpPacketReceived} {ssrc : Ssrc} {sink : Sink}

def Follows (d : RtpDemuxer) (ssrc : Ssrc) (sink : Sink) : Prop :=
  d.idRule (d.midBySsrc.lookup ssrc) (d.rsidBySsrc.lookup ssrc) = some sink ∨
    (d.midBySsrc.lookup ssrc = none ∧ d.idRule none (d.rsidBySsrc.lookup ssrc) = none ∧
      d.sinkBySsrc.lookup ssrc = some sink)

lemma follows_resolveLatched (h : (d.resolveLatched packet).1 = some sink)
    (hlim : d.midBySsrc.lookup packet.ssrc = none →
      d.idRule none (d.rsidBySsrc.lookup packet.ssrc) = none → d.sinkBySsrc.lookup packet.ssrc = none →
      d.sinkByPayloadType packet.payloadType ≠ none → size d.sinkBySsrc < kMaxSsrcBindings) :
    Follows (d.resolveLatched packet).2 packet.ssrc sink := by
  have hresol := d.resolves packet
  generalize d.resolveLatched packet = r at h hresol ⊢
  cases hresol with
  | dropped => cases h
  | rule hrule =>
    obtain rfl := Option.some.inj h
    obtain ⟨t, heq, -⟩ := addSsrcSinkBinding_eq d packet.ssrc _
    rw [heq]
    exact .inl hrule
  | ssrc hmid hrule hssrc =>
    obtain rfl := Option.some.inj h
    exact .inr ⟨hmid, hrule, hssrc⟩
  | payloadType hmid hrule hssrc hpt =>
    obtain rfl := Option.some.inj h
    have hsize := hlim hmid hrule hssrc (by rw [hpt]; nofun)
    rw [addSsrcSinkBinding, if_neg (Nat.not_le.mpr hsize)]
    exact .inr ⟨hmid, hrule, lookup_insert _⟩

lemma lookup_latch (d : RtpDemuxer) (ssrc : Ssrc) (mid rsid : Option Name) :
    (d.latch ssrc mid rsid).midBySsrc.lookup ssrc = mid.or (d.midBySsrc.lookup ssrc) ∧
      (d.latch ssrc mid rsid).rsidBySsrc.lookup ssrc = rsid.or (d.rsidBySsrc.lookup ssrc) := by
  constructor
  · cases mid <;> simp [latch]
  · cases rsid <;> simp [latch]

lemma onRtpPacket_of_no_ids (hmid : packet.mid = none) (hrsid : packet.streamId = none) :
    d.onRtpPacket packet = d.resolveLatched packet := by
  have hmidOf : d.midOf packet = none := by simp [midOf, hmid]
  have hkn : d.MidKnown packet := by
    rw [MidKnown, hmidOf]
    exact fun mid h => absurd h (Option.not_mem_none mid)
  rw [onRtpPacket_of_known hkn, hmidOf, hrsid]
  rfl

lemma onRtpPacket_of_follows (h : d.Follows packet.ssrc sink) (hmid : packet.mid = none)
    (hrsid : packet.streamId = none) : (d.onRtpPacket packet).1 = some sink := by
  rw [onRtpPacket_of_no_ids hmid hrsid, resolveLatched_eq]
  rcases h with h | ⟨hmid, hrule, hssrc⟩
  · rw [h]
  rw [hmid, hrule, hssrc]
  rfl

lemma Follows.congr {e : RtpDemuxer} (h : d.Follows ssrc sink)
    (hrules : ∀ mid rsid, e.idRule mid rsid = d.idRule mid rsid)
    (hmid : e.midBySsrc.lookup ssrc = d.midBySsrc.lookup ssrc)
    (hrsid : e.rsidBySsrc.lookup ssrc = d.rsidBySsrc.lookup ssrc)
    (hssrc : e.sinkBySsrc.lookup ssrc = d.sinkBySsrc.lookup ssrc) : e.Follows ssrc sink := by
  unfold Follows at h ⊢
  rwa [hrules, hrules, hmid, hrsid, hssrc]

lemma Follows.onRtpPacket_other (h : d.Follows ssrc sink) (hne : ssrc ≠ packet.ssrc) :
    (d.onRtpPacket packet).2.Follows ssrc sink := by
  have hlatch : (d.latch packet.ssrc (d.midOf packet) packet.streamId).Follows ssrc sink := by
    refine h.congr (fun _ _ => rfl) ?_ ?_ rfl
    · cases hmid : d.midOf packet with
      | none => simp [latch]
      | some mid => simp [latch, lookup_insert_ne hne]
    cases hrsid : packet.streamId with
    | none => simp [latch]
    | some rsid => simp [latch, lookup_insert_ne hne]
  rcases onRtpPacket_state d packet with ⟨-, heq⟩ | ⟨-, t, heq, ht⟩
  · rwa [heq]
  rw [heq]
  refine hlatch.congr (fun _ _ => rfl) rfl rfl ?_
  rcases ht with rfl | ⟨s, -, -, rfl⟩
  · rfl
  · exact lookup_insert_ne hne

lemma Follows.removeSink (h : d.Follows ssrc sink) {other : Sink}
    (hrem : (d.removeSink other).1 = false) : (d.removeSink other).2.Follows ssrc sink := by
  simp only [RtpDemuxer.removeSink, Bool.or_eq_false_iff] at hrem
  obtain ⟨⟨⟨⟨hmid, hssrc⟩, -⟩, hboth⟩, hrsid⟩ := hrem
  have heq := removeByValue_of_unused hssrc
  refine h.congr ?_ rfl rfl (congrArg (AList.lookup ssrc) heq)
  intro mid rsid
  simp [idRule, RtpDemuxer.removeSink, refreshKnownMids, removeByValue_of_unused hmid,
    removeByValue_of_unused hboth, removeByValue_of_unused hrsid]

lemma onRtpPacket_mid (huse : d.useMid = true) {mid : Name} (hmid : packet.mid = some mid) :
    (d.onRtpPacket packet).1 = if d.MidKnown packet then
      d.idRule (some mid) (packet.streamId.or (d.rsidBySsrc.lookup packet.ssrc)) else none := by
  split
  · rename_i hkn
    obtain ⟨hmidLatched, hrsidLatched⟩ := lookup_latch d packet.ssrc (d.midOf packet) packet.streamId
    have hmidOf : d.midOf packet = some mid := by simp [midOf, huse, hmid]
    have hrule (rsid : Option Name) : (d.latch packet.ssrc (some mid) packet.streamId).idRule
        ((some mid).or (d.midBySsrc.lookup packet.ssrc)) rsid = d.idRule (some mid) rsid := rfl
    rw [onRtpPacket_of_known hkn, resolveLatched_eq, hmidLatched, hrsidLatched, hmidOf, hrule]
    cases d.idRule (some mid) (packet.streamId.or (d.rsidBySsrc.lookup packet.ssrc)) <;> rfl
  · rename_i hkn
    rw [onRtpPacket_of_unknown hkn]

end RtpDemuxer

/-! ## Runs -/

namespace Traced

variable {t : Traced} {packet : RtpPacketReceived} {sink : Sink}

/-- **The tables hold registered sinks**, each under its own criteria. -/
structure Entries (d : RtpDemuxer) (registered : List (RtpDemuxerCriteria × Sink)) : Prop where
  byMid : All d.sinkByMid fun mid sink =>
                    ∃ c, (c, sink) ∈ registered ∧ c.mid = mid ∧ c.rsid = []
  byMidAndRsid : All d.sinkByMidAndRsid fun key sink =>
                    ∃ c, (c, sink) ∈ registered ∧ c.mid = key.1 ∧ c.rsid = key.2
  byRsid : All d.sinkByRsid fun _ sink => ∃ c, (c, sink) ∈ registered
  bySsrc : All d.sinkBySsrc fun _ sink => ∃ c, (c, sink) ∈ registered
  byPayloadType : ∀ e ∈ d.sinksByPt, ∃ c, (c, e.2) ∈ registered

section Entries

variable {d : RtpDemuxer} {registered : List (RtpDemuxerCriteria × Sink)} {criteria : RtpDemuxerCriteria}

section

variable (h : Entries d registered)

include h

lemma Entries.idRule {mid rsid : Option Name} (hrule : d.idRule mid rsid = some sink) :
    ∃ c, (c, sink) ∈ registered ∧ ∀ m ∈ mid, c.mid = m ∧ (c.rsid = [] ∨ some c.rsid = rsid) := by
  cases mid with
  | none =>
    obtain ⟨rsid, -, hsink⟩ := Option.bind_eq_some_iff.mp hrule
    obtain ⟨c, hc⟩ := h.byRsid rsid sink hsink
    exact ⟨c, hc, nofun⟩
  | some mid =>
    rcases Option.or_eq_some_iff.mp hrule with hsink | ⟨-, hsink⟩
    · obtain ⟨c, hc, hmid, hrsid⟩ := h.byMid mid sink hsink
      refine ⟨c, hc, ?_⟩
      rintro m ⟨⟩
      exact ⟨hmid, .inl hrsid⟩
    obtain ⟨rsid, rfl, hsink⟩ := Option.bind_eq_some_iff.mp hsink
    obtain ⟨c, hc, hmid, hrsid⟩ := h.byMidAndRsid (mid, rsid) sink hsink
    refine ⟨c, hc, ?_⟩
    rintro m ⟨⟩
    exact ⟨hmid, .inr (congrArg some hrsid)⟩

lemma Entries.sinkByPayloadType {payloadType : PayloadType}
    (hpt : d.sinkByPayloadType payloadType = some sink) : ∃ c, (c, sink) ∈ registered := by
  unfold RtpDemuxer.sinkByPayloadType at hpt
  split at hpt
  · rename_i e heq
    obtain rfl := Option.some.inj hpt
    refine h.byPayloadType e (mem_of_mem_filter (p := fun e => e.1 = payloadType) ?_)
    rw [heq]
    exact mem_singleton_self e
  · cases hpt

lemma Entries.latch (ssrc : Ssrc) (mid rsid : Option Name) :
    Entries (d.latch ssrc mid rsid) registered :=
  ⟨h.byMid, h.byMidAndRsid, h.byRsid, h.bySsrc, h.byPayloadType⟩

lemma Entries.onRtpPacket_registered
    (hsink : (d.onRtpPacket packet).1 = some sink) : ∃ c, (c, sink) ∈ registered := by
  by_cases hkn : d.MidKnown packet
  · rw [onRtpPacket_of_known hkn] at hsink
    have hlatch := h.latch packet.ssrc (d.midOf packet) packet.streamId
    have hresol := resolves (d.latch packet.ssrc (d.midOf packet) packet.streamId) packet
    generalize resolveLatched (d.latch packet.ssrc (d.midOf packet) packet.streamId) packet = r
      at hsink hresol
    cases hresol with
    | dropped => cases hsink
    | rule hrule =>
      obtain rfl := Option.some.inj hsink
      obtain ⟨c, hc, -⟩ := hlatch.idRule hrule
      exact ⟨c, hc⟩
    | ssrc _ _ hssrc =>
      obtain rfl := Option.some.inj hsink
      exact hlatch.bySsrc _ _ hssrc
    | payloadType _ _ _ hpt =>
      obtain rfl := Option.some.inj hsink
      exact hlatch.sinkByPayloadType hpt
  · rw [onRtpPacket_of_unknown hkn] at hsink
    cases hsink

lemma Entries.onRtpPacket (packet : RtpPacketReceived) :
    Entries (d.onRtpPacket packet).2 registered := by
  rcases onRtpPacket_state d packet with ⟨-, heq⟩ | ⟨-, t, heq, ht⟩
  · rwa [heq]
  rw [heq]
  refine ⟨h.byMid, h.byMidAndRsid, h.byRsid, ?_, h.byPayloadType⟩
  rcases ht with rfl | ⟨sink, hsink, -, rfl⟩
  · exact h.bySsrc
  · exact h.bySsrc.insert (h.onRtpPacket_registered hsink)

lemma Entries.mono {registered' : List (RtpDemuxerCriteria × Sink)}
    (hsub : registered ⊆ registered') : Entries d registered' := by
  refine ⟨h.byMid.mono ?_, h.byMidAndRsid.mono ?_, h.byRsid.mono ?_, h.bySsrc.mono ?_, ?_⟩
  · exact fun _ _ ⟨c, hc, hid⟩ => ⟨c, hsub hc, hid⟩
  · exact fun _ _ ⟨c, hc, hid⟩ => ⟨c, hsub hc, hid⟩
  · exact fun _ _ ⟨c, hc⟩ => ⟨c, hsub hc⟩
  · exact fun _ _ ⟨c, hc⟩ => ⟨c, hsub hc⟩
  intro e he
  obtain ⟨c, hc⟩ := h.byPayloadType e he
  exact ⟨c, hsub hc⟩

lemma Entries.addIdRule (hnew : (criteria, sink) ∈ registered) :
    Entries (d.addIdRule criteria sink) registered := by
  unfold RtpDemuxer.addIdRule
  split_ifs with hmid hrsid hrsid
  · exact ⟨h.byMid.emplace ⟨criteria, hnew, rfl, hrsid⟩, h.byMidAndRsid, h.byRsid, h.bySsrc, h.byPayloadType⟩
  · exact ⟨h.byMid, h.byMidAndRsid.emplace ⟨criteria, hnew, rfl, rfl⟩, h.byRsid, h.bySsrc, h.byPayloadType⟩
  · exact ⟨h.byMid, h.byMidAndRsid, h.byRsid.emplace ⟨criteria, hnew⟩, h.bySsrc, h.byPayloadType⟩
  · exact h

lemma Entries.addSink (hnew : (criteria, sink) ∈ registered) :
    Entries (d.addSink criteria sink).2 registered := by
  have hrule := h.addIdRule hnew
  unfold RtpDemuxer.addSink
  split
  · exact h
  refine ⟨hrule.byMid, hrule.byMidAndRsid, hrule.byRsid,
    hrule.bySsrc.foldl_emplace fun _ _ => ⟨criteria, hnew⟩, ?_⟩
  intro e he
  rcases mem_append.mp he with he | he
  · exact hrule.byPayloadType e he
  obtain ⟨payloadType, -, rfl⟩ := mem_map.mp he
  exact ⟨criteria, hnew⟩

lemma Entries.removeSink (sink : Sink) :
    Entries (d.removeSink sink).2 (registered.filter fun e => e.2 ≠ sink) := by
  have hkept {c : RtpDemuxerCriteria} {s : Sink} (hne : s ≠ sink) (hc : (c, s) ∈ registered) :
      (c, s) ∈ registered.filter fun e => e.2 ≠ sink := mem_filter.mpr ⟨hc, by simpa using hne⟩
  refine ⟨h.byMid.removeByValue ?_, h.byMidAndRsid.removeByValue ?_, h.byRsid.removeByValue ?_,
    h.bySsrc.removeByValue ?_, ?_⟩
  · exact fun _ _ hne ⟨c, hc, hid⟩ => ⟨c, hkept hne hc, hid⟩
  · exact fun _ _ hne ⟨c, hc, hid⟩ => ⟨c, hkept hne hc, hid⟩
  · exact fun _ _ hne ⟨c, hc⟩ => ⟨c, hkept hne hc⟩
  · exact fun _ _ hne ⟨c, hc⟩ => ⟨c, hkept hne hc⟩
  intro e he
  obtain ⟨he, hne⟩ := mem_filter.mp he
  obtain ⟨c, hc⟩ := h.byPayloadType e he
  exact ⟨c, hkept (by simpa using hne) hc⟩

end

end Entries

structure Sound (t : Traced) : Prop where
  useMid : t.demuxer.useMid = true
  entries : Entries t.demuxer t.registered
  follows : ∀ ssrc sink, t.followed ssrc = some sink → t.demuxer.Follows ssrc sink

lemma useMid_addSink (d : RtpDemuxer) (crit : RtpDemuxerCriteria) (sink : Sink) :
    (d.addSink crit sink).2.useMid = d.useMid := by
  unfold addSink addIdRule
  split_ifs <;> rfl

lemma useMid_onRtpPacket (d : RtpDemuxer) (packet : RtpPacketReceived) :
    (d.onRtpPacket packet).2.useMid = d.useMid := by
  rcases onRtpPacket_state d packet with ⟨-, heq⟩ | ⟨-, t, heq, -⟩
  · rw [heq]
  rw [heq]
  rfl

lemma Sound.follows_onRtpPacket (h : Sound t) (hlim : t.WithinLimit (.onRtpPacket packet))
    (hs : (if packet.CarriesId then
      update t.followed packet.ssrc (t.demuxer.onRtpPacket packet).1
        else t.followed) packet.ssrc = some sink) :
    (t.demuxer.onRtpPacket packet).2.Follows packet.ssrc sink := by
  by_cases hid : packet.CarriesId
  · rw [if_pos hid, update_self] at hs
    by_cases hkn : t.demuxer.MidKnown packet
    · obtain ⟨hmid, hrsid⟩ := lookup_latch t.demuxer packet.ssrc (t.demuxer.midOf packet) packet.streamId
      rw [onRtpPacket_of_known hkn] at hs ⊢
      refine follows_resolveLatched hs fun hnone hrule hssrc hpt => ?_
      rw [hmid, Option.or_eq_none_iff] at hnone
      have hpacket : packet.mid = none := by simpa [midOf, h.useMid] using hnone.1
      refine hlim hid hpacket hnone.2 ?_ hssrc hpt
      -- A packet without a MID that carries an id carries an RSID, which is the one looked up.
      rw [hrsid] at hrule
      cases hstr : packet.streamId with
      | none => exact absurd hid (by simp [CarriesId, hpacket, hstr])
      | some rsid =>
        rw [hstr] at hrule
        exact hrule
    · rw [onRtpPacket_of_unknown hkn] at hs
      cases hs
  · rw [if_neg hid] at hs
    obtain ⟨hmid, hrsid⟩ : packet.mid = none ∧ packet.streamId = none := by
      simpa [CarriesId] using hid
    have hfoll := h.follows packet.ssrc sink hs
    have hout := onRtpPacket_of_follows hfoll hmid hrsid
    rw [onRtpPacket_of_no_ids hmid hrsid] at hout ⊢
    refine follows_resolveLatched hout fun hnone hrule hssrc _ => ?_
    rcases hfoll with hsome | ⟨-, -, hsome⟩
    · rw [hnone, hrule] at hsome
      cases hsome
    rw [hssrc] at hsome
    cases hsome

lemma Sound.step (h : Sound t) (event : Event) (hlim : t.WithinLimit event) :
    Sound (t.step event) := by
  cases event with
  | addSink criteria sink =>
    rw [Traced.step]
    split
    · have hents := (h.entries.mono (subset_append_left _ [(criteria, sink)])).addSink
        (mem_append_right _ (mem_singleton_self _))
      exact ⟨(useMid_addSink ..).trans h.useMid, hents, nofun⟩
    · exact h
  | removeSink sink =>
    refine ⟨h.useMid, h.entries.removeSink sink, fun ssrc s hs => ?_⟩
    cases hrem : (t.demuxer.removeSink sink).1 with
    | true =>
      rw [Traced.step, hrem] at hs
      cases hs
    | false =>
      rw [Traced.step, hrem] at hs
      exact (h.follows ssrc s hs).removeSink hrem
  | onRtpPacket packet =>
    refine ⟨(useMid_onRtpPacket ..).trans h.useMid, h.entries.onRtpPacket packet, fun ssrc s hs => ?_⟩
    rw [Traced.step] at hs ⊢
    by_cases hne : ssrc = packet.ssrc
    · subst hne
      exact h.follows_onRtpPacket hlim hs
    refine (h.follows ssrc s ?_).onRtpPacket_other hne
    dsimp only at hs
    split at hs
    · rwa [update_of_ne hne] at hs
    · exact hs

lemma sound_start : Sound start := ⟨rfl, ⟨nofun, nofun, nofun, nofun, nofun⟩, nofun⟩

/-- **Where a packet goes**: with a MID to a sink of that MID, whatever the rules by SSRC and payload
type; in any case to a sink that is registered; and without ids after the packets with ids. -/
structure Routed (t : Traced) (packet : RtpPacketReceived) : Prop where
  mid : ∀ mid ∈ packet.mid, ∀ sink ∈ (t.demuxer.onRtpPacket packet).1,
    ∃ c, (c, sink) ∈ t.registered ∧ c.mid = mid ∧ (c.rsid = [] ∨
      some c.rsid = packet.streamId.or (t.demuxer.rsidBySsrc.lookup packet.ssrc))
  rules : packet.mid ≠ none → ∀ sinkBySsrc sinksByPt,
    (onRtpPacket { t.demuxer with sinkBySsrc := sinkBySsrc, sinksByPt := sinksByPt } packet).1 =
      (t.demuxer.onRtpPacket packet).1
  registered : ∀ sink ∈ (t.demuxer.onRtpPacket packet).1, ∃ c, (c, sink) ∈ t.registered
  follows : ¬ packet.CarriesId → ∀ sink ∈ t.followed packet.ssrc,
    (t.demuxer.onRtpPacket packet).1 = some sink

lemma Sound.routed (h : Sound t) (packet : RtpPacketReceived) : Routed t packet := by
  refine ⟨?_, ?_, ?_, ?_⟩
  · intro mid hmid sink hsink
    rw [onRtpPacket_mid h.useMid hmid] at hsink
    split at hsink
    · obtain ⟨c, hc, hid⟩ := h.entries.idRule hsink
      exact ⟨c, hc, hid mid rfl⟩
    · cases hsink
  · intro hmid sinkBySsrc sinksByPt
    obtain ⟨mid, hmid⟩ := Option.ne_none_iff_exists'.mp hmid
    exact (onRtpPacket_mid (d := { t.demuxer with sinkBySsrc := sinkBySsrc, sinksByPt := sinksByPt })
      h.useMid hmid).trans (onRtpPacket_mid h.useMid hmid).symm
  · intro sink hsink
    exact h.entries.onRtpPacket_registered hsink
  · intro hid sink hsink
    obtain ⟨hmid, hrsid⟩ : packet.mid = none ∧ packet.streamId = none := by
      simpa [CarriesId] using hid
    exact onRtpPacket_of_follows (h.follows packet.ssrc sink hsink) hmid hrsid

/-- **Packets are routed by their MIDs**, and those without ids follow them, in every run whose
SSRCs can be bound. -/
theorem routed_along (events : List Event) (h : Along step WithinLimit start events)
    (packet : RtpPacketReceived) : Routed (run step start events) packet :=
  (run_induction_along (P := Sound) (fun _ event hs hw => hs.step event hw) events start sound_start h).routed
    packet

/-- One sink for a MID, and a packet that leads the next ones of its SSRC to it. -/
theorem routed_of_latched_mid :
    Routed (run step start [.addSink { mid := [97] } 1,
      .onRtpPacket { ssrc := 7, payloadType := 0, mid := some [97] }]) { ssrc := 7, payloadType := 0 } :=
  routed_along [.addSink { mid := [97] } 1,
    .onRtpPacket { ssrc := 7, payloadType := 0, mid := some [97] }]
    ⟨trivial, fun _ hmid => (nomatch hmid), trivial⟩ { ssrc := 7, payloadType := 0 }

/-! ## Sinks that are removed -/

lemma Entries.step (h : Entries t.demuxer t.registered) (event : Event) :
    Entries (t.step event).demuxer (t.step event).registered := by
  cases event with
  | addSink criteria sink =>
    rw [Traced.step]
    split
    · exact (h.mono (subset_append_left _ [(criteria, sink)])).addSink
        (mem_append_right _ (mem_singleton_self _))
    · exact h
  | removeSink sink => exact h.removeSink sink
  | onRtpPacket packet => exact h.onRtpPacket packet

lemma entries_run (useMid : Bool) (events : List Event) :
    Entries (run step { demuxer := .new useMid } events).demuxer
      (run step { demuxer := .new useMid } events).registered :=
  run_induction (P := fun t : Traced => Entries t.demuxer t.registered)
    (fun _ event h => h.step event) events ⟨nofun, nofun, nofun, nofun, nofun⟩

lemma registered_step {event : Event} (hnew : ∀ c, event ≠ .addSink c sink)
    (h : ∀ c, (c, sink) ∉ t.registered) (c : RtpDemuxerCriteria) :
    (c, sink) ∉ (t.step event).registered := by
  cases event with
  | addSink criteria other =>
    rw [Traced.step]
    split
    · intro hmem
      rcases mem_append.mp hmem with hmem | hmem
      · exact h c hmem
      obtain ⟨rfl, rfl⟩ := Prod.mk.inj (mem_singleton.mp hmem)
      exact hnew c rfl
    · exact h c
  | removeSink other => exact fun hmem => h c (mem_of_mem_filter hmem)
  | onRtpPacket packet => exact h c

/-- **A sink that was removed gets no packet**, whatever was learned for it and whether or not
MIDs are in use, until it is added again: `RemoveSink` leaves no entry for it, and no packet brings
one back. -/
theorem removed_sink_gets_no_packet (useMid : Bool) (before after : List Event)
    (hafter : ∀ c, .addSink c sink ∉ after) (packet : RtpPacketReceived) :
    ((run step { demuxer := .new useMid } (before ++ .removeSink sink :: after)).demuxer.onRtpPacket
      packet).1 ≠ some sink := by
  have hnone : ∀ c, (c, sink) ∉ (run step { demuxer := .new useMid }
      (before ++ .removeSink sink :: after)).registered := by
    rw [run_append, run_cons]
    exact run_induction_mem (P := fun t : Traced => ∀ c, (c, sink) ∉ t.registered)
      (fun _ _ he h => registered_step (fun c heq => hafter c (heq ▸ he)) h)
      (fun c hmem => by simpa using (mem_filter.mp hmem).2)
  intro hsink
  obtain ⟨c, hc⟩ := (entries_run useMid _).onRtpPacket_registered hsink
  exact hnone c hc

/-- The SSRC was bound to the sink by a packet with its MID. -/
theorem removed_sink_gets_no_packet_of_bound :
    ((run step { demuxer := .new true } [.addSink { mid := [97] } 1,
      .onRtpPacket { ssrc := 7, payloadType := 0, mid := some [97] }, .removeSink 1]).demuxer.onRtpPacket
      { ssrc := 7, payloadType := 0 }).1 ≠ some 1 :=
  removed_sink_gets_no_packet true [.addSink { mid := [97] } 1,
    .onRtpPacket { ssrc := 7, payloadType := 0, mid := some [97] }] [] (fun _ => not_mem_nil) _

/-! ## At the limit -/

/-- Sinks for SSRCs and for the payload types 1 and 2, and a packet whose RSID no sink has. -/
def crowded (ssrcs : List Ssrc) (ssrc : Ssrc) : List Event :=
  [.addSink { ssrcs := ssrcs } 0, .addSink { payloadTypes := [1] } 1, .addSink { payloadTypes := [2] } 2,
    .onRtpPacket { ssrc := ssrc, payloadType := 1, rsid := some [9] }]

def crowdedDemuxer (sinkBySsrc : Table Ssrc Sink) : RtpDemuxer :=
  { new true with sinkBySsrc := sinkBySsrc, sinksByPt := [(1, 1), (2, 2)] }

lemma run_crowded (ssrcs : List Ssrc) (ssrc : Ssrc) :
    ∃ registered, run step start (crowded ssrcs ssrc) =
    step { demuxer := crowdedDemuxer (ssrcs.foldl (fun t ssrc => emplace t ssrc 0) ∅)
           registered := registered }
      (.onRtpPacket { ssrc := ssrc, payloadType := 1, rsid := some [9] }) := by
  have hnone : (new true).criteriaWouldConflict { ssrcs := ssrcs } = false := by
    simp [criteriaWouldConflict, new]
  have hadded : start.step (.addSink { ssrcs := ssrcs } 0) =
      { demuxer := { new true with
          sinkBySsrc := ssrcs.foldl (fun t ssrc => emplace t ssrc 0) ∅ }
        registered := [({ ssrcs := ssrcs }, 0)] } := by
    simp only [step, start, addSink, hnone]
    rfl
  rw [crowded, run_cons, hadded]
  exact ⟨_, rfl⟩

lemma not_routed_crowded {ssrcs : List Ssrc} {ssrc : Ssrc} (hnd : ssrcs.Nodup)
    (hlen : kMaxSsrcBindings ≤ ssrcs.length) (hnot : ssrc ∉ ssrcs) :
    ¬ Routed (run step start (crowded ssrcs ssrc)) { ssrc := ssrc, payloadType := 2 } := by
  intro h
  have hsize := size_foldl_emplace hnd (0 : Sink) fun ssrc _ => notMem_empty ssrc
  have hkeys : All (ssrcs.foldl (fun t ssrc => emplace t ssrc (0 : Sink)) ∅)
      fun ssrc _ => ssrc ∈ ssrcs := All.foldl_emplace nofun fun ssrc hssrc => hssrc
  have hlookup := Option.eq_none_iff_forall_ne_some.mpr fun sink hsink => hnot (hkeys ssrc sink hsink)
  have hfoll := h.follows (by simp [CarriesId, streamId]) 1
  obtain ⟨registered, heq⟩ := run_crowded ssrcs ssrc
  rw [heq] at hfoll
  generalize ssrcs.foldl (fun t ssrc => emplace t ssrc (0 : Sink)) ∅ = b at hsize hlookup hfoll
  have hfull : kMaxSsrcBindings ≤ size b := by
    rw [hsize]
    exact hlen.trans (Nat.le_add_left ..)
  have hlatch : lookup ssrc (singleton (β := fun _ => Name) ssrc [9]) = some [9] := by
    rw [← insert_empty, lookup_insert]
  simp [step, crowdedDemuxer, new, onRtpPacket, midOf, latch, resolveLatched, hlookup, hfull,
    hlatch, resolveSinkByRsid, resolveSinkByPayloadType, sinkByPayloadType, addSsrcSinkBinding, bound,
    CarriesId, streamId] at hfoll

/-- A thousand signalled SSRCs. -/
theorem not_routed_at_limit :
    ¬ Routed (run step start (crowded ((range 1000).map (BitVec.ofNat 32)) 5000))
      { ssrc := 5000, payloadType := 2 } := by
  have htoNat : ∀ n ∈ range 1000, (BitVec.ofNat 32 n).toNat = n := fun n hn => by
    rw [BitVec.toNat_ofNat, Nat.mod_eq_of_lt ((mem_range.mp hn).trans (by decide))]
  refine not_routed_crowded ?_ ?_ ?_
  · refine nodup_range.map_on fun n hn m hm heq => ?_
    rw [← htoNat n hn, ← htoNat m hm, heq]
  · rw [length_map, length_range]
    exact le_rfl
  intro hmem
  obtain ⟨n, hn, heq⟩ := mem_map.mp hmem
  have hn' : n = 5000 := (htoNat n hn).symm.trans (congrArg BitVec.toNat heq)
  exact absurd (mem_range.mp hn) (by omega)

end Traced

end WebRtc.Call
