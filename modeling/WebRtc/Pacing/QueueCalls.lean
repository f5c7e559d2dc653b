import WebRtc.Lib.Run
import WebRtc.Pacing.PrioritizedPacketQueue

/-!
# WebRTC — the calls of the pacer's queue

What the parts of a call leave alone. Purging and dequeuing change the
streams' packets, the accounts and the round-robin lists; the clock of the
queue, its limits and the handles stay (`Same`). Culling removes only streams
that have no packets (`packets_cull`).
-/

namespace WebRtc.Pacing

open Lib StreamQueue OrdMap

inductive Operation where
  | push (enqueueTime : Int) (packet : RtpPacketToSend)
  | pop
  | setPauseState (paused : Bool) (now : Int)
  | updateAverageQueueTime (now : Int)
  | removePacketsForSsrc (ssrc : Ssrc)
deriving DecidableEq

def Operation.time? : Operation → Option Int
  | .push t _ => some t
  | .setPauseState _ t => some t
  | .updateAverageQueueTime t => some t
  | .pop => none
  | .removePacketsForSsrc _ => none

namespace PrioritizedPacketQueue

def perform (q : PrioritizedPacketQueue) : Operation → PrioritizedPacketQueue
  | .push t p => q.push t p
  | .pop => q.pop.2
  | .setPauseState paused t => q.setPauseState paused t
  | .updateAverageQueueTime t => q.updateAverageQueueTime t
  | .removePacketsForSsrc ssrc => q.removePacketsForSsrc ssrc

def Timely (q : PrioritizedPacketQueue) (op : Operation) : Prop :=
  ∀ t, op.time? = some t → q.lastUpdateTime ≤ t

/-! ## Streams -/

variable (q : PrioritizedPacketQueue)

lemma stream_setStream (ssrc ssrc' : Ssrc) (s : StreamQueue) :
    (q.setStream ssrc s).stream ssrc' = if ssrc' = ssrc then s else q.stream ssrc' := by
  unfold stream setStream
  by_cases h : ssrc' = ssrc
  · rw [if_pos h, h, find?_insert_self, Option.getD_some]
  · rw [if_neg h, find?_insert_ne _ _ h]

lemma packets_dequeueFront (ssrc : Ssrc) (level : PrioLevel)
    (p : QueuedPacket) (ssrc' : Ssrc) (level' : PrioLevel) :
    ((q.dequeueFront ssrc level p).stream ssrc').packets level' =
      if ssrc' = ssrc ∧ level' = level then ((q.stream ssrc').packets level').tail
      else (q.stream ssrc').packets level' := by
  show ((q.setStream ssrc ((q.stream ssrc).dequeuePacket p level)).stream ssrc').packets level' = _
  rw [stream_setStream]
  by_cases hs : ssrc' = ssrc
  · subst hs
    by_cases hl : level' = level
    · subst hl
      simp [dequeuePacket]
    · simp [dequeuePacket, hl]
  · rw [if_neg hs, if_neg fun h => hs h.1]

lemma packets_of_find?_eq_none {q : PrioritizedPacketQueue} {ssrc : Ssrc}
    (h : q.streams.find? ssrc = none) (level : PrioLevel) : (q.stream ssrc).packets level = [] := by
  rw [stream, h]
  rfl

lemma packets_cull (now : Int) (ssrc : Ssrc) (level : PrioLevel) :
    ((q.cull now).stream ssrc).packets level = (q.stream ssrc).packets level := by
  unfold cull
  split
  · show (((q.streams.filterKeys _).find? ssrc).getD _).packets level = _
    rw [find?_filterKeys]
    split
    · rfl
    next hculled =>
    have hemp : (q.stream ssrc).isEmpty = true := by
      simp only [Bool.not_eq_true', Bool.not_eq_false, Bool.and_eq_true] at hculled
      exact hculled.1
    have := List.all_eq_true.mp hemp level (List.mem_finRange level)
    rw [List.isEmpty_iff] at this
    rw [this]
    rfl
  · rfl

variable (t : Int) (level : PrioLevel)

lemma packets_create (ssrc ssrc' : Ssrc) (level : PrioLevel) :
    ((if q.streams.contains ssrc then q else q.setStream ssrc (StreamQueue.new t)).stream
      ssrc').packets level = (q.stream ssrc').packets level := by
  split
  · rfl
  next h =>
  rw [stream_setStream]
  split
  · next heq =>
    subst heq
    rw [contains, Option.isSome_iff_ne_none, not_not] at h
    rw [packets_of_find?_eq_none h]
    rfl
  · rfl

lemma raiseTopPrioLevel_eq :
    q.raiseTopPrioLevel level =
      { q with topActivePrioLevel := (q.raiseTopPrioLevel level).topActivePrioLevel } := by
  unfold raiseTopPrioLevel
  split
  · split <;> rfl
  · rfl

lemma packets_enqueue (p : RtpPacketToSend)
    (level : PrioLevel) (handle : Nat) (ssrc' : Ssrc) (level' : PrioLevel) :
    ((q.enqueue t p level handle).stream ssrc').packets level' =
      if ssrc' = p.ssrc ∧ level' = level then
        (q.stream ssrc').packets level' ++ [⟨p, t - q.pauseTimeSum, handle⟩]
      else (q.stream ssrc').packets level' := by
  have hset : (q.enqueue t p level handle).streams = (q.setStream p.ssrc
      ((q.stream p.ssrc).enqueuePacket ⟨p, t - q.pauseTimeSum, handle⟩ level)).streams := by
    unfold enqueue
    rw [raiseTopPrioLevel_eq]
    split <;> rfl
  rw [stream, hset, ← stream, stream_setStream]
  by_cases hs : ssrc' = p.ssrc
  · rw [if_pos hs, hs]
    by_cases hl : level' = level
    · rw [if_pos ⟨rfl, hl⟩, hl]
      simp [enqueuePacket]
    rw [if_neg fun h => hl h.2]
    simp [enqueuePacket, hl]
  · rw [if_neg hs, if_neg fun h => hs h.1]

/-! ## What purging leaves alone -/

structure Same (q q' : PrioritizedPacketQueue) : Prop where
  prioritize : q'.prioritizeAudioRetransmission = q.prioritizeAudioRetransmission
  ttl : q'.timeToLivePerPrio = q.timeToLivePerPrio
  pauseTime : q'.pauseTimeSum = q.pauseTimeSum
  lastUpdate : q'.lastUpdateTime = q.lastUpdateTime
  paused : q'.paused = q.paused
  handle : q'.nextHandle = q.nextHandle

lemma Same.refl : Same q q := ⟨rfl, rfl, rfl, rfl, rfl, rfl⟩

lemma Same.trans {q1 q2 q3 : PrioritizedPacketQueue} (h : Same q1 q2) (h' : Same q2 q3) :
    Same q1 q3 :=
  ⟨h'.prioritize.trans h.prioritize, h'.ttl.trans h.ttl, h'.pauseTime.trans h.pauseTime,
    h'.lastUpdate.trans h.lastUpdate, h'.paused.trans h.paused, h'.handle.trans h.handle⟩

lemma purgeStream_same (now ttl : Int) (ssrc : Ssrc) (ps : List QueuedPacket) :
    ∀ q : PrioritizedPacketQueue, Same q (purgeStream level now ttl ssrc ps q) ∧
      (purgeStream level now ttl ssrc ps q).streamsByPrio = q.streamsByPrio ∧
      (purgeStream level now ttl ssrc ps q).topActivePrioLevel = q.topActivePrioLevel := by
  induction ps with
  | nil =>
    intro q
    exact ⟨.refl q, rfl, rfl⟩
  | cons p ps ih =>
    intro q
    rw [purgeStream]
    split
    · have hfr : Same q
        { q.dequeueFront ssrc level p with
          dropped := (q.dequeueFront ssrc level p).dropped ++ [⟨p, level, now⟩] } :=
        ⟨rfl, rfl, rfl, rfl, rfl, rfl⟩
      obtain ⟨hsame, hlst, htop⟩ := ih
        { q.dequeueFront ssrc level p with
          dropped := (q.dequeueFront ssrc level p).dropped ++ [⟨p, level, now⟩] }
      exact ⟨hfr.trans hsame, hlst, htop⟩
    · exact ⟨.refl q, rfl, rfl⟩

lemma purgeStreams_same (now ttl : Int) (ssrcs : List Ssrc) :
    ∀ q : PrioritizedPacketQueue, Same q (purgeStreams level now ttl ssrcs q).2 ∧
      (purgeStreams level now ttl ssrcs q).2.streamsByPrio = q.streamsByPrio ∧
      (purgeStreams level now ttl ssrcs q).2.topActivePrioLevel = q.topActivePrioLevel := by
  induction ssrcs with
  | nil =>
    intro q
    exact ⟨.refl q, rfl, rfl⟩
  | cons ssrc ssrcs ih =>
    intro q
    obtain ⟨hsame, hlst, htop⟩ := purgeStream_same level now ttl ssrc
      ((q.stream ssrc).packets level) q
    obtain ⟨hsame', hlst', htop'⟩ := ih
      (purgeStream level now ttl ssrc ((q.stream ssrc).packets level) q)
    exact ⟨hsame.trans hsame', hlst'.trans hlst, htop'.trans htop⟩

lemma purge_same (now : Int) :
    Same q (q.purgeOldPacketsAtPriorityLevel level now) ∧
      (q.purgeOldPacketsAtPriorityLevel level now).topActivePrioLevel = q.topActivePrioLevel := by
  unfold purgeOldPacketsAtPriorityLevel
  split
  · exact ⟨.refl q, rfl⟩
  next ttl _ =>
  obtain ⟨hsame, -, htop⟩ := purgeStreams_same level now ttl (q.streamsByPrio level) q
  exact ⟨hsame.trans ⟨rfl, rfl, rfl, rfl, rfl, rfl⟩, htop⟩

lemma dequeueAllInternal_same (ps : List QueuedPacket) : ∀ q : PrioritizedPacketQueue,
    Same q (q.dequeueAllInternal ps) ∧ (q.dequeueAllInternal ps).streams = q.streams ∧
      (q.dequeueAllInternal ps).dropped = q.dropped ∧
      (q.dequeueAllInternal ps).streamsByPrio = q.streamsByPrio ∧
      (q.dequeueAllInternal ps).topActivePrioLevel = q.topActivePrioLevel := by
  induction ps with
  | nil =>
    intro q
    exact ⟨.refl q, rfl, rfl, rfl, rfl⟩
  | cons p ps ih =>
    intro q
    obtain ⟨hsame, hrest⟩ := ih (q.dequeuePacketInternal p)
    have hfirst : Same q (q.dequeuePacketInternal p) := ⟨rfl, rfl, rfl, rfl, rfl, rfl⟩
    exact ⟨hfirst.trans hsame, hrest⟩

/-- The parts of a push before the packet is put into its queue: a stream for
the packet and an entry for its enqueue time. -/
def announce (q : PrioritizedPacketQueue) (t : Int) (p : RtpPacketToSend) :
    PrioritizedPacketQueue :=
  let q := if q.streams.contains p.ssrc then q else q.setStream p.ssrc (StreamQueue.new t)
  { q with
    enqueueTimes := q.enqueueTimes ++ [(q.nextHandle, t)]
    nextHandle := q.nextHandle + 1 }

lemma announce_eq (p : RtpPacketToSend) :
    q.announce t p =
      { q with
        streams := (q.announce t p).streams
        enqueueTimes := q.enqueueTimes ++ [(q.nextHandle, t)]
        nextHandle := q.nextHandle + 1 } := by
  unfold announce
  split <;> rfl

lemma packets_announce (p : RtpPacketToSend) (ssrc : Ssrc) (level : PrioLevel) :
    ((q.announce t p).stream ssrc).packets level = (q.stream ssrc).packets level :=
  packets_create q t p.ssrc ssrc level

lemma push_eq (p : RtpPacketToSend) :
    q.push t p =
      ((((q.announce t p).purgeOldPacketsAtPriorityLevel (q.prioLevel p) t).updateAverageQueueTime
        t).enqueue t p (q.prioLevel p) q.nextHandle).cull t := by
  unfold push announce prioLevel
  split <;> rfl

end PrioritizedPacketQueue

end WebRtc.Pacing
