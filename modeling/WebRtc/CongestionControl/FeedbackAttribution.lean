import WebRtc.CongestionControl.TransportFeedbackAdapter
import WebRtc.Lib.Run

/-!
# WebRTC — which transmission a feedback report is attributed to

A report names an SSRC and an RTP sequence number; it is meant for the newest transmission of that
packet whose receipt has not been reported. `emplace` leaves an entry in
`rtp_to_transport_sequence_number_` alone, so that while a packet of `history_` has the SSRC and
RTP sequence number of one that is added, reports are attributed to the older of the two. Without
that, the two maps mirror each other (`Traced.Filed`).
-/

namespace WebRtc.CongestionControl

open Lib Numerics OrdMap List

/-! ## The log -/

/-- A packet as `AddPacket` recorded it, and what became known of it. -/
structure Transmission where
  packet : PacketFeedback
  sendTime : Option Int := none
  received : Bool := false

def Transmission.isMeant (key : SsrcAndRtpSequencenumber) (t : Transmission) : Bool :=
  t.packet.key = key && !t.received

def updateFirst (p : Transmission → Bool) (f : Transmission → Transmission) :
    List Transmission → List Transmission
  | [] => []
  | t :: ts => if p t then f t :: ts else t :: updateFirst p f ts

def PacketFeedback.sentAt (packet : PacketFeedback) (sendTime : Option Int)
    (priorUnackedData dataInFlight : Int) : PacketFeedback :=
  { packet with sent := { packet.sent with sendTime, priorUnackedData, dataInFlight } }

def PacketFeedback.Describes (packet : PacketFeedback) (t : Transmission) : Prop :=
  ∃ prior inFlight, packet = t.packet.sentAt t.sendTime prior inFlight

def PacketResult.Describes (r : PacketResult) (t : Transmission) : Prop :=
  r.ssrc = t.packet.ssrc ∧ r.rtpSequenceNumber = t.packet.rtpSequenceNumber ∧
    r.isRetransmission = t.packet.isRetransmission ∧
    ∃ prior inFlight, r.sentPacket = (t.packet.sentAt t.sendTime prior inFlight).sent

structure Traced where
  adapter : TransportFeedbackAdapter := {}
  log : List Transmission := []

inductive Event where
  | addPacket (packet : RtpPacketToSend) (pacingInfo : PacedPacketInfo) (overheadBytes : Nat)
      (creationTime : Int)
  | sentPacket (sentPacket : SentPacketInfo)
  | feedback (feedback : CongestionControlFeedback) (receiveTime : Int)
  | networkRoute (route : NetworkRoute)

namespace Traced

def logReport (log : List Transmission) (info : PacketInfo) : List Transmission :=
  if info.arrivalTimeOffset.isSome then
    updateFirst (Transmission.isMeant info.key) (fun t => { t with received := true }) log
  else log

def report (s : Traced) (info : PacketInfo) : Traced where
  adapter := (s.adapter.retrievePacketFeedback info.key info.arrivalTimeOffset.isSome).2
  log := logReport s.log info

def logSent (s : Traced) (info : SentPacketInfo) : List Transmission :=
  if info.includedInFeedback ∨ info.packetId ≠ -1 then
    updateFirst
      (fun t => t.packet.sent.sequenceNumber =
        s.adapter.seqNumUnwrapper.peekUnwrap (wrap 16 info.packetId))
      (fun t => { t with sendTime := some (info.sendTimeMs * 1000) }) s.log
  else s.log

def step (s : Traced) : Event → Traced
  | .addPacket packet pacingInfo overheadBytes creationTime =>
    { adapter := s.adapter.addPacket packet pacingInfo overheadBytes creationTime
      log := { packet := s.adapter.feedbackOf packet pacingInfo overheadBytes creationTime }
        :: s.log }
  | .sentPacket info => { adapter := (s.adapter.processSentPacket info).2, log := s.logSent info }
  | .feedback feedback receiveTime =>
    { adapter := (s.adapter.processCongestionControlFeedback feedback receiveTime).2
      log := feedback.packets.foldl logReport s.log }
  | .networkRoute route => { s with adapter := s.adapter.setNetworkRoute route }

/-- A packet that is added is told apart from those that stay in the history by
its transport number and by its SSRC and RTP sequence number; a packet that is
reported on has been reported sent. -/
def Distinct (s : Traced) : Event → Prop
  | .addPacket packet _ _ creationTime =>
    ∀ e ∈ (s.adapter.cull creationTime).history.entries,
      e.2.key ≠ toLex (packet.ssrc, packet.sequenceNumber) ∧ e.1 ≠ s.adapter.numberOf packet
  | .feedback feedback _ =>
    ∀ e ∈ s.adapter.history.entries, ∀ info ∈ feedback.packets,
      e.2.key = info.key → e.2.sent.sendTime.isSome
  | _ => True

instance (s : Traced) : ∀ ev, Decidable (s.Distinct ev)
  | .addPacket .. => by unfold Distinct; infer_instance
  | .feedback .. => by unfold Distinct; infer_instance
  | .sentPacket .. | .networkRoute .. => isTrue trivial

end Traced

/-! ## The newest transmission of a packet -/

/-- The packet is the newest transmission with its key and the newest with its
transport number, and its receipt has not been reported. -/
def Newest (log : List Transmission) (packet : PacketFeedback) : Prop :=
  ∃ newer t older, log = newer ++ t :: older ∧ packet.Describes t ∧ t.received = false ∧
    ∀ x ∈ newer, x.packet.key ≠ packet.key ∧
      x.packet.sent.sequenceNumber ≠ packet.sent.sequenceNumber

variable {packet : PacketFeedback} {t : Transmission} {p : Transmission → Bool}

variable {f : Transmission → Transmission}

lemma updateFirst_append {newer older : List Transmission} (hnwr : ∀ x ∈ newer, p x = false)
    (ht : p t = true) : updateFirst p f (newer ++ t :: older) = newer ++ f t :: older := by
  induction newer with
  | nil => simp [updateFirst, ht]
  | cons x newer ih =>
    obtain ⟨hx, hnwr⟩ := forall_mem_cons.mp hnwr
    simp [updateFirst, hx, ih hnwr]

lemma updateFirst_other (f : Transmission → Transmission)
    (newer older : List Transmission) (ht : p t = false) :
    ∃ newer' older', updateFirst p f (newer ++ t :: older) = newer' ++ t :: older' ∧
      ∀ x ∈ newer', x ∈ newer ∨ ∃ y ∈ newer, x = f y := by
  induction newer with
  | nil => exact ⟨[], updateFirst p f older, by simp [updateFirst, ht], by simp⟩
  | cons x newer ih =>
    obtain ⟨newer', older', heq, hmem⟩ := ih
    by_cases hx : p x = true
    · refine ⟨f x :: newer, older, by simp [updateFirst, hx], ?_⟩
      simp only [mem_cons]
      rintro y (rfl | hy)
      · exact .inr ⟨x, .inl rfl, rfl⟩
      · exact .inl (.inr hy)
    refine ⟨x :: newer', older', by simp [updateFirst, hx, heq], ?_⟩
    simp only [mem_cons]
    rintro y (rfl | hy)
    · exact .inl (.inl rfl)
    rcases hmem y hy with hy | ⟨z, hz, rfl⟩
    · exact .inl (.inr hy)
    · exact .inr ⟨z, .inr hz, rfl⟩

lemma PacketFeedback.Describes.key (h : packet.Describes t) : t.packet.key = packet.key := by
  obtain ⟨_, _, rfl⟩ := h
  rfl

lemma PacketFeedback.Describes.number (h : packet.Describes t) :
    t.packet.sent.sequenceNumber = packet.sent.sequenceNumber := by
  obtain ⟨_, _, rfl⟩ := h
  rfl

lemma Newest.updateFirst {log : List Transmission} (hf : ∀ t, (f t).packet = t.packet)
    (hp : ∀ t, packet.Describes t → p t = false) (h : Newest log packet) :
    Newest (updateFirst p f log) packet := by
  obtain ⟨newer, t, older, rfl, hdesc, hrec, hnwr⟩ := h
  obtain ⟨newer', older', heq, hmem⟩ := updateFirst_other f newer older (hp t hdesc)
  refine ⟨newer', t, older', heq, hdesc, hrec, fun x hx => ?_⟩
  rcases hmem x hx with hx | ⟨y, hy, rfl⟩
  · exact hnwr x hx
  rw [hf]
  exact hnwr y hy

lemma Newest.meant {log : List Transmission} (h : Newest log packet) :
    ∃ t, log.find? (Transmission.isMeant packet.key) = some t ∧ packet.Describes t := by
  obtain ⟨newer, t, older, rfl, hdesc, hrec, hnwr⟩ := h
  refine ⟨t, ?_, hdesc⟩
  rw [find?_append, find?_eq_none.mpr, Option.none_or, find?_cons_of_pos]
  · simp [Transmission.isMeant, hdesc.key, hrec]
  intro x hx
  simp [Transmission.isMeant, (hnwr x hx).1]

namespace Traced

open TransportFeedbackAdapter

/-- The two maps mirror each other, and the history holds newest transmissions. -/
structure Filed (s : Traced) : Prop where
  mirror : ∀ key number, (key, number) ∈ s.adapter.rtpToTransportSequenceNumber ↔
    ∃ packet, (number, packet) ∈ s.adapter.history ∧ packet.key = key
  numbers : ∀ e ∈ s.adapter.history, e.2.sent.sequenceNumber = e.1
  newest : ∀ e ∈ s.adapter.history, Newest s.log e.2

/-! ## Forgetting and adding packets -/

variable {s : Traced} {infos : List PacketInfo} {e : Int × PacketFeedback}

lemma Filed.number_unique (h : s.Filed) {e' : Int × PacketFeedback}
    (he : e ∈ s.adapter.history) (he' : e' ∈ s.adapter.history) (hkey : e.2.key = e'.2.key) :
    e.1 = e'.1 :=
  mem_unique ((h.mirror _ _).mpr ⟨e.2, he, hkey⟩) ((h.mirror _ _).mpr ⟨e'.2, he', rfl⟩)

lemma Filed.forget (h : s.Filed) {number : Int} (hmem : (number, packet) ∈ s.adapter.history) :
    ({ s with adapter := s.adapter.forget number packet } : Traced).Filed where
  mirror key n := by
    simp only [TransportFeedbackAdapter.forget, mem_erase, h.mirror]
    constructor
    · rintro ⟨⟨p, hp, rfl⟩, hne⟩
      refine ⟨p, ⟨hp, fun heq => hne ?_⟩, rfl⟩
      obtain rfl : p = packet := mem_unique hp (heq ▸ hmem)
      rfl
    · rintro ⟨p, ⟨hp, hne⟩, rfl⟩
      exact ⟨⟨p, hp, rfl⟩, fun hkey => hne (h.number_unique hp hmem hkey)⟩
  numbers e he := h.numbers e (mem_erase.mp he).1
  newest e he := h.newest e (mem_erase.mp he).1

lemma Filed.of_maps {s' : Traced} (h : s.Filed)
    (hmap : s'.adapter.rtpToTransportSequenceNumber = s.adapter.rtpToTransportSequenceNumber)
    (hhistory : s'.adapter.history = s.adapter.history)
    (hnewest : ∀ e ∈ s.adapter.history, Newest s'.log e.2) : s'.Filed where
  mirror key n := by rw [hmap, hhistory]; exact h.mirror key n
  numbers e he := h.numbers e (hhistory ▸ he)
  newest e he := hnewest e (hhistory ▸ he)

lemma Filed.cullOld (created : Int) (fuel : Nat) (h : s.Filed) :
    ({ s with adapter := cullOld created fuel s.adapter } : Traced).Filed := by
  induction fuel generalizing s with
  | zero => exact h
  | succ fuel ih =>
    rw [cullOld]
    split
    · exact h
    next number packet hfr =>
    split
    · refine ih (s := ⟨_, s.log⟩) (Filed.forget (s := ⟨_, s.log⟩) ?_ ?_)
      · exact h.of_maps rfl rfl h.newest
      · exact (front?_eq_some.mp hfr).1
    · exact h

lemma Filed.addPacket (h : s.Filed) {packet : RtpPacketToSend}
    {pacingInfo : PacedPacketInfo} {overhead : Nat} {created : Int}
    (hok : s.Distinct (.addPacket packet pacingInfo overhead created)) :
    (s.step (.addPacket packet pacingInfo overhead created)).Filed := by
  have hc := h.cullOld created s.adapter.history.size
  set fb := s.adapter.feedbackOf packet pacingInfo overhead created with hfb
  have hnew : ∀ v, (fb.sent.sequenceNumber, v) ∉ (s.adapter.cull created).history :=
    fun v hv => (hok _ hv).2 rfl
  have hkey : ∀ n, (fb.key, n) ∉ (s.adapter.cull created).rtpToTransportSequenceNumber := by
    intro n hn
    obtain ⟨p, hp, hpk⟩ := (hc.mirror _ _).mp hn
    exact (hok _ hp).1 hpk
  have hhist : ∀ e, e ∈ (s.step (.addPacket packet pacingInfo overhead
      created)).adapter.history ↔ e = (fb.sent.sequenceNumber, fb) ∨
        e ∈ (s.adapter.cull created).history := by
    intro e
    show e ∈ ((s.adapter.cull created).history.emplace fb.sent.sequenceNumber fb).1 ↔ _
    rw [emplace_of_not_mem hnew, mem_insert]
    refine or_congr_right (and_iff_right_of_imp fun he hne => ?_)
    exact hnew e.2 (hne ▸ he)
  constructor
  · intro key n
    show (key, n) ∈ ((s.adapter.cull created).rtpToTransportSequenceNumber.emplace fb.key
      fb.sent.sequenceNumber).1 ↔ _
    rw [emplace_of_not_mem hkey, mem_insert]
    simp only [hhist, Prod.mk.injEq]
    constructor
    · rintro (⟨rfl, rfl⟩ | ⟨-, hmem⟩)
      · exact ⟨fb, .inl ⟨rfl, rfl⟩, rfl⟩
      obtain ⟨p, hp, hpk⟩ := (hc.mirror _ _).mp hmem
      exact ⟨p, .inr hp, hpk⟩
    rintro ⟨p, ⟨rfl, rfl⟩ | hp, rfl⟩
    · exact .inl ⟨rfl, rfl⟩
    have hmem := (hc.mirror _ _).mpr ⟨p, hp, rfl⟩
    exact .inr ⟨fun heq => hkey n (heq ▸ hmem), hmem⟩
  · intro e he
    rcases (hhist e).mp he with rfl | he
    · rfl
    · exact hc.numbers e he
  · intro e he
    rcases (hhist e).mp he with rfl | he
    · exact ⟨[], { packet := fb }, s.log, rfl, ⟨0, 0, rfl⟩, rfl, by simp⟩
    obtain ⟨newer, t, older, heq, hdesc, hrec, hnwr⟩ := hc.newest e he
    refine ⟨{ packet := fb } :: newer, t, older, congrArg _ heq, hdesc, hrec, ?_⟩
    simp only [mem_cons]
    rintro x (rfl | hx)
    · refine ⟨fun hk => (hok e he).1 hk.symm, fun hn => (hok e he).2 ?_⟩
      rw [← hc.numbers e he]
      exact hn.symm
    · exact hnwr x hx

/-! ## Sent packets -/

lemma Filed.replace {s' : Traced} (h : s.Filed) {number time prior inFlight : Int} (hmem : (number, packet) ∈ s.adapter.history)
    (hmap : s'.adapter.rtpToTransportSequenceNumber = s.adapter.rtpToTransportSequenceNumber)
    (hhistory : s'.adapter.history =
      s.adapter.history.insert number (packet.sentAt (some time) prior inFlight))
    (hlog : s'.log = updateFirst (fun t => t.packet.sent.sequenceNumber = number)
      (fun t => { t with sendTime := some time }) s.log) : s'.Filed := by
  constructor
  · intro key n
    rw [hmap, hhistory, h.mirror]
    simp only [mem_insert, Prod.mk.injEq]
    constructor
    · rintro ⟨p, hp, rfl⟩
      by_cases hn : n = number
      · obtain rfl : p = packet := mem_unique hp (hn ▸ hmem)
        exact ⟨_, .inl ⟨hn, rfl⟩, rfl⟩
      · exact ⟨p, .inr ⟨hn, hp⟩, rfl⟩
    · rintro ⟨p, ⟨rfl, rfl⟩ | ⟨-, hp⟩, rfl⟩
      · exact ⟨packet, hmem, rfl⟩
      · exact ⟨p, hp, rfl⟩
  · intro e he
    rcases mem_insert.mp (hhistory ▸ he) with rfl | ⟨-, he⟩
    · exact h.numbers (number, packet) hmem
    · exact h.numbers e he
  intro e he
  rw [hlog]
  rcases mem_insert.mp (hhistory ▸ he) with rfl | ⟨hne, he⟩
  · obtain ⟨newer, t, older, heq, hdesc, hrec, hnwr⟩ := h.newest _ hmem
    have hn : packet.sent.sequenceNumber = number := h.numbers _ hmem
    refine ⟨newer, { t with sendTime := some time }, older, ?_, ?_, hrec, ?_⟩
    · rw [heq]
      refine updateFirst_append (fun x hx => ?_) ?_
      · simpa [hn] using (hnwr x hx).2
      · simpa [hn] using hdesc.number
    · obtain ⟨_, _, rfl⟩ := hdesc
      exact ⟨prior, inFlight, rfl⟩
    · exact hnwr
  · refine (h.newest e he).updateFirst (fun _ => rfl) fun t hdesc => ?_
    simp only [decide_eq_false_iff_not, hdesc.number, h.numbers e he]
    exact hne

lemma Filed.sentPacket (h : s.Filed) (info : SentPacketInfo) :
    (s.step (.sentPacket info)).Filed := by
  by_cases hin : info.includedInFeedback ∨ info.packetId ≠ -1
  · have hlog : (s.step (.sentPacket info)).log = _ := if_pos hin
    have hada : (s.step (.sentPacket info)).adapter = _ := congrArg Prod.snd (if_pos hin)
    cases hfind : s.adapter.history.find?
      (s.adapter.seqNumUnwrapper.peekUnwrap (wrap 16 info.packetId)) with
    | none =>
      simp only [SeqNumUnwrapper.unwrap_fst, hfind] at hada
      -- It is not among those filed.
      refine h.of_maps (by rw [hada]) (by rw [hada]) fun e he => ?_
      rw [hlog]
      refine (h.newest e he).updateFirst (fun _ => rfl) fun t hdesc => ?_
      simp only [decide_eq_false_iff_not, hdesc.number, h.numbers e he]
      exact fun heq => find?_eq_none.mp hfind e.2 (heq ▸ he)
    | some packet =>
      have hmem := find?_eq_some.mp hfind
      simp only [SeqNumUnwrapper.unwrap_fst, hfind] at hada
      split at hada <;> exact h.replace hmem (by rw [hada]) (by rw [hada]; rfl) hlog
  · have hlog : (s.step (.sentPacket info)).log = s.log := if_neg hin
    have hada : (s.step (.sentPacket info)).adapter = _ := congrArg Prod.snd (if_neg hin)
    split at hada <;>
      exact h.of_maps (by rw [hada]) (by rw [hada]) (hlog ▸ h.newest)

/-! ## Reports -/

lemma acknowledge_maps (a : TransportFeedbackAdapter) (number : Int) :
    (a.acknowledge number).rtpToTransportSequenceNumber = a.rtpToTransportSequenceNumber ∧
      (a.acknowledge number).history = a.history ∧
      (a.acknowledge number).networkRoute = a.networkRoute := by
  unfold acknowledge
  split <;> exact ⟨rfl, rfl, rfl⟩

def AllSent (s : Traced) (infos : List PacketInfo) : Prop :=
  ∀ e ∈ s.adapter.history, ∀ info ∈ infos, e.2.key = info.key → e.2.sent.sendTime.isSome

lemma Filed.retrieve (h : s.Filed) (key : SsrcAndRtpSequencenumber) (received : Bool)
    (hsent : ∀ e ∈ s.adapter.history, e.2.key = key → e.2.sent.sendTime.isSome) :
    (∃ number packet, (number, packet) ∈ s.adapter.history ∧ packet.key = key ∧
      s.adapter.retrievePacketFeedback key received =
        (some packet, if received then (s.adapter.acknowledge number).forget number packet
          else s.adapter.acknowledge number)) ∨
    ((∀ e ∈ s.adapter.history, e.2.key ≠ key) ∧
      s.adapter.retrievePacketFeedback key received = (none, s.adapter)) := by
  cases hfind : s.adapter.rtpToTransportSequenceNumber.find? key with
  | none =>
    refine .inr ⟨fun e he hkey => ?_, by simp only [retrievePacketFeedback, hfind]⟩
    exact find?_eq_none.mp hfind e.1 ((h.mirror _ _).mpr ⟨e.2, he, hkey⟩)
  | some number =>
    obtain ⟨packet, hmem, hkey⟩ := (h.mirror _ _).mp (find?_eq_some.mp hfind)
    refine .inl ⟨number, packet, hmem, hkey, ?_⟩
    have hhist : (s.adapter.acknowledge number).history.find? number = some packet := by
      rw [(acknowledge_maps _ _).2.1]
      exact find?_eq_some.mpr hmem
    have hnone : packet.sent.sendTime.isNone = false := by
      simpa using hsent _ hmem hkey
    simp only [retrievePacketFeedback, hfind, retrieveNumber, hhist, hnone]
    simp

variable {info : PacketInfo}

lemma Filed.logReport (h : s.Filed) (hoth2 : ∀ e ∈ s.adapter.history, e.2.key ≠ info.key) :
    ({ s with log := logReport s.log info } : Traced).Filed := by
  refine h.of_maps rfl rfl fun e he => ?_
  unfold Traced.logReport
  split
  · refine (h.newest e he).updateFirst (fun _ => rfl) fun t hdesc => ?_
    simp [Transmission.isMeant, hdesc.key, hoth2 e he]
  · exact h.newest e he

lemma Filed.acknowledge (h : s.Filed) (number : Int) :
    ({ s with adapter := s.adapter.acknowledge number } : Traced).Filed :=
  h.of_maps (acknowledge_maps _ _).1 (acknowledge_maps _ _).2.1 h.newest

lemma Filed.report (h : s.Filed) (hsent : s.AllSent [info]) : (s.report info).Filed := by
  have hsent' := fun e he => hsent e he info (mem_singleton_self info)
  unfold Traced.report
  rcases h.retrieve info.key info.arrivalTimeOffset.isSome hsent' with
    ⟨number, packet, hmem, hkey, heq⟩ | ⟨hoth2, heq⟩
  · have hack := h.acknowledge number
    rw [← (acknowledge_maps s.adapter number).2.1] at hmem
    rw [heq]
    by_cases hrec : info.arrivalTimeOffset.isSome = true
    · rw [if_pos hrec]
      refine (hack.forget hmem).logReport fun e he hek => ?_
      obtain ⟨he, hne⟩ := mem_erase.mp he
      exact hne (hack.number_unique he hmem (hek.trans hkey.symm))
    rw [if_neg hrec]
    refine hack.of_maps rfl rfl fun e he => ?_
    rw [Traced.logReport, if_neg hrec]
    exact hack.newest e he
  · rw [heq]
    exact h.logReport hoth2

lemma Filed.report_history (h : s.Filed)
    (hsent : s.AllSent [info]) : (s.report info).adapter.networkRoute = s.adapter.networkRoute ∧
      ∀ e, e ∈ (s.report info).adapter.history ↔ e ∈ s.adapter.history ∧
        ¬ (info.arrivalTimeOffset.isSome ∧ e.2.key = info.key) := by
  have hsent' := fun e he => hsent e he info (mem_singleton_self info)
  unfold Traced.report
  rcases h.retrieve info.key info.arrivalTimeOffset.isSome hsent' with
    ⟨number, packet, hmem, hkey, heq⟩ | ⟨hoth2, heq⟩
  · obtain ⟨-, hhist, hroute⟩ := acknowledge_maps s.adapter number
    rw [heq]
    by_cases hrec : info.arrivalTimeOffset.isSome = true
    · simp only [hrec, if_true, TransportFeedbackAdapter.forget, hhist, hroute, mem_erase, true_and]
      refine fun e => and_congr_right fun he => not_congr ⟨fun hn => ?_, fun hk => ?_⟩
      · rw [← hkey, mem_unique (show (number, e.2) ∈ _ from hn ▸ he) hmem]
      · exact h.number_unique he hmem (hk.trans hkey.symm)
    · simp [hrec, hhist, hroute]
  · rw [heq]
    exact ⟨rfl, fun e => ⟨fun he => ⟨he, fun hk => hoth2 e he hk.2⟩, And.left⟩⟩

lemma AllSent.cons (h : s.Filed) (hsent : s.AllSent (info :: infos)) :
    s.AllSent [info] ∧ (s.report info).AllSent infos := by
  have hone : s.AllSent [info] := fun e he i hi =>
    hsent e he i (mem_cons.mpr (.inl (mem_singleton.mp hi)))
  refine ⟨hone, fun e he i hi => hsent e ?_ i (mem_cons_of_mem info hi)⟩
  exact (((h.report_history hone).2 e).mp he).1

/-! ## Feedback packets -/

lemma processPackets_adapter (offset : Int) (s : Traced) (infos : List PacketInfo) :
    (processPackets offset s.adapter infos).2.2 = (infos.foldl report s).adapter ∧
      (infos.foldl report s).log = infos.foldl Traced.logReport s.log := by
  induction infos generalizing s with
  | nil => exact ⟨rfl, rfl⟩
  | cons info infos ih =>
    refine ⟨?_, (ih (s.report info)).2⟩
    rw [foldl_cons, ← (ih (s.report info)).1, processPackets]
    dsimp only [report]
    split <;> [skip; split] <;> rfl

lemma Filed.reports (h : s.Filed) (hsent : s.AllSent infos) :
    (infos.foldl Traced.report s).Filed ∧
      ∀ e ∈ (infos.foldl Traced.report s).adapter.history, e ∈ s.adapter.history := by
  induction infos generalizing s with
  | nil => exact ⟨h, fun _ => id⟩
  | cons info infos ih =>
    obtain ⟨hone, hrest⟩ := AllSent.cons h hsent
    refine (ih (h.report hone) hrest).imp_right fun hhist e he => ?_
    exact (((h.report_history hone).2 e).mp (hhist e he)).1

variable {r : PacketResult} {offset : Int}

lemma mem_processPackets_cons :
    r ∈ (processPackets offset s.adapter (info :: infos)).1 ↔
      (∃ packet, (s.adapter.retrievePacketFeedback info.key info.arrivalTimeOffset.isSome).1 =
          some packet ∧ packet.networkRoute = (s.report info).adapter.networkRoute ∧
          r = packetResult offset info packet) ∨
        r ∈ (processPackets offset (s.report info).adapter infos).1 := by
  rw [processPackets]
  dsimp only [report]
  split
  · next hnone => simp [hnone]
  next packet hsome =>
  split
  · next hroute => simp [hsome, hroute]
  · next hroute => simp [hsome, not_not.mp hroute]

lemma Filed.results (h : s.Filed)
    (hsent : s.AllSent infos) (hr : r ∈ (processPackets offset s.adapter infos).1) :
    ∃ before info after t, infos = before ++ info :: after ∧
      (before.foldl Traced.logReport s.log).find? (Transmission.isMeant info.key) = some t ∧
      r.Describes t ∧ r.ecn = info.ecn ∧
      r.receiveTime = info.arrivalTimeOffset.map (offset - ·) := by
  induction infos generalizing s with
  | nil => cases hr
  | cons info infos ih =>
    obtain ⟨hone, hrest⟩ := AllSent.cons h hsent
    rcases mem_processPackets_cons.mp hr with ⟨packet, hfound, -, rfl⟩ | hr
    · rcases h.retrieve info.key info.arrivalTimeOffset.isSome
        (fun e he => hone e he info (mem_singleton_self info)) with
        ⟨number, packet', hmem, hkey, heq⟩ | ⟨-, heq⟩
      · obtain rfl : packet' = packet := by simpa [heq] using hfound
        obtain ⟨t, ht, prior, inFlight, hdesc⟩ := (h.newest _ hmem).meant
        refine ⟨[], info, infos, t, rfl, hkey ▸ ht, ?_, rfl, rfl⟩
        subst hdesc
        exact ⟨rfl, rfl, rfl, prior, inFlight, rfl⟩
      · simp [heq] at hfound
    · obtain ⟨before, i, after, t, rfl, ht⟩ := ih (h.report hone) hrest hr
      exact ⟨info :: before, i, after, t, rfl, ht⟩

lemma Filed.found (h : s.Filed) (offset : Int)
    (hsent : s.AllSent infos) (he : e ∈ s.adapter.history) (hinfo : info ∈ infos) (hkey : e.2.key = info.key)
    (hrec : info.arrivalTimeOffset.isSome) :
    e ∉ (infos.foldl Traced.report s).adapter.history ∧
      (e.2.networkRoute = s.adapter.networkRoute →
        ∃ r ∈ (processPackets offset s.adapter infos).1, r.sentPacket = e.2.sent ∧
          r.ssrc = e.2.ssrc ∧ r.rtpSequenceNumber = e.2.rtpSequenceNumber ∧
          r.receiveTime.isSome) := by
  induction infos generalizing s with
  | nil => cases hinfo
  | cons first infos ih =>
    obtain ⟨hone, hrest⟩ := AllSent.cons h hsent
    obtain ⟨hroute, hhist⟩ := h.report_history hone
    by_cases hfirst : first.arrivalTimeOffset.isSome = true ∧ e.2.key = first.key
    · refine ⟨fun hm => ?_, fun hr => ?_⟩
      · exact ((hhist e).mp (((h.report hone).reports hrest).2 e hm)).2 hfirst
      rcases h.retrieve first.key first.arrivalTimeOffset.isSome
          (fun e he => hone e he first (mem_singleton_self first)) with
        ⟨number, packet, hmem, hk, heq⟩ | ⟨hoth2, -⟩
      · have hn : e.1 = number := h.number_unique he hmem (hfirst.2.trans hk.symm)
        obtain rfl : e = (number, packet) := Prod.ext hn (mem_unique (hn ▸ he) hmem)
        refine ⟨packetResult offset first packet, ?_, rfl, rfl, rfl, ?_⟩
        swap
        · rw [packetResult, Option.isSome_map]
          exact hfirst.1
        exact mem_processPackets_cons.mpr (.inl ⟨packet, by rw [heq], hr.trans hroute.symm, rfl⟩)
      · exact absurd hfirst.2 (hoth2 e he)
    · have hinfo' : info ∈ infos := (mem_cons.mp hinfo).resolve_left
        fun heq => hfirst (heq ▸ ⟨hrec, hkey⟩)
      obtain ⟨hgone, hres⟩ := ih (h.report hone) hrest ((hhist e).mpr ⟨he, hfirst⟩) hinfo'
      refine ⟨hgone, fun hr => ?_⟩
      obtain ⟨r, hr, hdesc⟩ := hres (hr.trans hroute.symm)
      exact ⟨r, mem_processPackets_cons.mpr (.inr hr), hdesc⟩

def rebased (s : Traced) (feedback : CongestionControlFeedback) (receiveTime : Int) : Traced :=
  { s with adapter := { s.adapter with
      currentOffset := some (s.adapter.nextOffset feedback receiveTime)
      lastFeedbackCompactNtpTime := some feedback.reportTimestampCompactNtp } }

lemma feedback_eq (s : Traced) (feedback : CongestionControlFeedback) (recvTime : Int)
    (hne : feedback.packets ≠ []) :
    (s.step (.feedback feedback recvTime)).adapter =
        (feedback.packets.foldl report (s.rebased feedback recvTime)).adapter ∧
      ∀ r, (∃ msg, (s.adapter.processCongestionControlFeedback feedback recvTime).1 = some msg ∧
          r ∈ msg.packetFeedbacks) ↔
        r ∈ (processPackets (s.adapter.nextOffset feedback recvTime)
          (s.rebased feedback recvTime).adapter feedback.packets).1 := by
  have hemp : feedback.packets.isEmpty = false := by simpa using hne
  rw [← (processPackets_adapter (s.adapter.nextOffset feedback recvTime) _ _).1]
  simp only [step, processCongestionControlFeedback, hemp, rebased, Bool.false_eq_true, if_false]
  split
  · next hnil => exact ⟨rfl, fun r => by simp [isEmpty_iff.mp hnil]⟩
  · exact ⟨rfl, fun r => by simp [mem_mergeSort]⟩

lemma Filed.step {ev : Event} (h : s.Filed) (hok : s.Distinct ev) : (s.step ev).Filed := by
  cases ev with
  | addPacket packet pacingInfo overheadBytes creationTime => exact h.addPacket hok
  | sentPacket info => exact h.sentPacket info
  | feedback feedback receiveTime =>
    have hbase : (s.rebased feedback receiveTime).Filed := h.of_maps rfl rfl h.newest
    by_cases hne : feedback.packets = []
    · have heq : (s.step (.feedback feedback receiveTime)).adapter = s.adapter := by
        simp [Traced.step, processCongestionControlFeedback, hne]
      exact h.of_maps (by rw [heq]) (by rw [heq]) (by simpa [Traced.step, hne] using h.newest)
    have heq := (feedback_eq s feedback receiveTime hne).1
    refine (hbase.reports hok).1.of_maps (by rw [heq]) (by rw [heq]) fun e he => ?_
    have hnewest := (hbase.reports hok).1.newest e he
    rwa [(processPackets_adapter 0 (s.rebased feedback receiveTime) feedback.packets).2] at hnewest
  | networkRoute route => exact h.of_maps rfl rfl h.newest

lemma filed_init : ({} : Traced).Filed where
  mirror key number := by simp
  numbers e he := absurd he not_mem_empty
  newest e he := absurd he not_mem_empty

lemma run_filed {evs : List Event} (hok : Along step Distinct {} evs) : (run step {} evs).Filed :=
  run_induction_along (P := Filed) (fun _ _ h hok => h.step hok) evs _ filed_init hok

/-- In every run in which packets are told apart, each result that a feedback
packet leads to describes the newest transmission of the reported packet whose
receipt has not been reported, and a packet of the history whose receipt is
reported is found. -/
theorem run_feedback_attributed (evs : List Event) (feedback : CongestionControlFeedback)
    (receiveTime : Int) (hok : Along step Distinct {} (evs ++ [.feedback feedback receiveTime])) :
    (∀ msg, ((run step {} evs).adapter.processCongestionControlFeedback feedback
        receiveTime).1 = some msg → ∀ r ∈ msg.packetFeedbacks,
      ∃ before info after t, feedback.packets = before ++ info :: after ∧
        (before.foldl logReport (run step {} evs).log).find? (Transmission.isMeant info.key) =
          some t ∧ r.Describes t ∧ r.ecn = info.ecn ∧
        r.receiveTime.isSome = info.arrivalTimeOffset.isSome) ∧
    ∀ e ∈ (run step {} evs).adapter.history, ∀ info ∈ feedback.packets, e.2.key = info.key →
      info.arrivalTimeOffset.isSome →
      e ∉ (run step {} (evs ++ [.feedback feedback receiveTime])).adapter.history ∧
      (e.2.networkRoute = (run step {} evs).adapter.networkRoute →
        ∃ msg, ((run step {} evs).adapter.processCongestionControlFeedback feedback
            receiveTime).1 = some msg ∧
          ∃ r ∈ msg.packetFeedbacks, r.sentPacket = e.2.sent ∧ r.ssrc = e.2.ssrc ∧
            r.rtpSequenceNumber = e.2.rtpSequenceNumber ∧ r.receiveTime.isSome) := by
  obtain ⟨hrun, hlast, -⟩ := along_append.mp hok
  have h := run_filed hrun
  rw [run_append]
  set s := run step {} evs
  have hbase : (s.rebased feedback receiveTime).Filed := h.of_maps rfl rfl h.newest
  constructor
  · intro msg hmsg r hr
    by_cases hne : feedback.packets = []
    · simp [processCongestionControlFeedback, hne] at hmsg
    obtain ⟨before, info, after, t, hsplit, ht, hdesc, hecn, htime⟩ :=
      hbase.results hlast (((feedback_eq s feedback receiveTime hne).2 r).mp ⟨msg, hmsg, hr⟩)
    exact ⟨before, info, after, t, hsplit, ht, hdesc, hecn, by rw [htime, Option.isSome_map]⟩
  intro e he info hinfo hkey hrec
  have hne : feedback.packets ≠ [] := ne_nil_of_mem hinfo
  obtain ⟨hada, hres⟩ := feedback_eq s feedback receiveTime hne
  obtain ⟨hgone, hfound⟩ := hbase.found (s.adapter.nextOffset feedback receiveTime)
    hlast he hinfo hkey hrec
  refine ⟨fun hmem => hgone ?_, fun hroute => ?_⟩
  · rw [← hada]
    exact hmem
  obtain ⟨r, hr, hdesc⟩ := hfound hroute
  obtain ⟨msg, hmsg, hr⟩ := (hres r).mpr hr
  exact ⟨msg, hmsg, r, hr, hdesc⟩

/-- Audio packet 10 of SSRC 1 is sent, as transport number 0, and sent again as
transport number 1. -/
def resent (again : BitVec 16) : List Event :=
  [.addPacket { ssrc := 1, sequenceNumber := 10, transportSequenceNumber := some 0 } {} 0 0,
    .sentPacket { packetId := 0, sendTimeMs := 5 },
    .addPacket { ssrc := 1, sequenceNumber := again, transportSequenceNumber := some 1 } {} 0 20,
    .sentPacket { packetId := 1, sendTimeMs := 25 }]

def receipt : CongestionControlFeedback where
  packets := [{ ssrc := 1, sequenceNumber := 10, arrivalTimeOffset := some 0 }]

/-- The report is meant for transmission 1, but its result is that of transmission
0 with the send time of that one; afterwards transmission 1, still in the history, is not
found by a report of its receipt. -/
theorem resent_misattributed :
    ((run step {} (resent 10)).log.find? (Transmission.isMeant (toLex (1, 10)))).map
        (fun t => (t.packet.sent.sequenceNumber, t.sendTime)) = some (1, some 25000) ∧
      ((run step {} (resent 10)).adapter.processCongestionControlFeedback receipt 50).1.map
        (fun msg => msg.packetFeedbacks.map fun r =>
          (r.sentPacket.sequenceNumber, r.sentPacket.sendTime)) = some [(0, some 5000)] ∧
      (run step {} (resent 10 ++ [.feedback receipt 50])).adapter.history.keys = [1] ∧
      ((run step {} (resent 10 ++ [.feedback receipt 50])).adapter.processCongestionControlFeedback
        receipt 60).1 = none := by
  decide +kernel

/-- With another RTP sequence number the second packet is told apart from the
first, and each report leads to a result. -/
theorem run_feedback_attributed_distinct :
    ∃ msg, ((run step {} (resent 11)).adapter.processCongestionControlFeedback receipt 50).1 =
      some msg ∧ ∃ r ∈ msg.packetFeedbacks, r.sentPacket.sendTime = some 5000 := by
  have hok : Along step Distinct {} (resent 11 ++ [.feedback receipt 50]) := by decide +kernel
  obtain ⟨msg, hmsg, r, hr, hsent, -⟩ := ((run_feedback_attributed (resent 11) receipt 50 hok).2
    ((run step {} (resent 11)).adapter.history.entries.head (by decide +kernel))
    (head_mem _) _ mem_cons_self (by decide +kernel) (by decide +kernel)).2
      (by decide +kernel)
  exact ⟨msg, hmsg, r, hr, by rw [hsent]; decide +kernel⟩

end Traced
end WebRtc.CongestionControl
