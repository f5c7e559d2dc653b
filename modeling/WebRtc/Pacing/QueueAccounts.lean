import WebRtc.Pacing.PacketLedger
import WebRtc.Pacing.QueueCalls

/-!
# WebRTC — the pacer's queue keeps the ledger

The queue represents a ledger when its streams hold the ledger's packets (`Queues`) and its sums
and its list of enqueue times are those of the ledger's entries (`Accounts`). Purging looks only at
leading packets, and that is enough: a packet behind one that is not too old is not too old either.
-/

namespace WebRtc.Pacing

open Lib List Ledger LedgerEntry

def LedgerEntry.queued (e : LedgerEntry) : QueuedPacket := ⟨e.packet, e.unpausedTime, e.handle⟩

namespace PrioritizedPacketQueue

def Queues (q : PrioritizedPacketQueue) (L : Ledger) : Prop :=
  ∀ ssrc level, (q.stream ssrc).packets level = (L.entriesOf ssrc level).map queued

/-- The sums are those of the ledger. `pending` are enqueue times of packets
that are about to be put into their queue. -/
structure Accounts (q : PrioritizedPacketQueue) (L : Ledger) (pending : List (Nat × Int)) :
    Prop where
  size : q.sizePackets = L.entries.length
  perType : ∀ t, q.sizePacketsPerMediaType t
    = L.entries.countP fun e => decide (e.packet.packetType = t)
  payload : q.sizePayload = (L.entries.map fun e => e.packet.packetSize).sum
  queueTime : q.queueTimeSum = (L.entries.map L.waited).sum
  enqueueTimes : q.enqueueTimes = (L.entries.map fun e => (e.handle, e.pushTime)) ++ pending
  pendingNew : ∀ x ∈ pending, ∀ e ∈ L.entries, e.handle ≠ x.1

structure Agrees (q : PrioritizedPacketQueue) (L : Ledger) : Prop where
  prioritize : q.prioritizeAudioRetransmission = L.prioritize
  ttl : q.timeToLivePerPrio = L.ttl
  pauseTime : q.pauseTimeSum = L.pauseSum
  lastUpdate : q.lastUpdateTime = L.lastUpdate
  paused : q.paused = L.paused

variable {q : PrioritizedPacketQueue} {L : Ledger} {pending : List (Nat × Int)}

lemma Agrees.of_same {q' : PrioritizedPacketQueue} (h : Agrees q L) (hsame : Same q q') :
    Agrees q' L :=
  ⟨hsame.prioritize.trans h.prioritize, hsame.ttl.trans h.ttl, hsame.pauseTime.trans h.pauseTime,
    hsame.lastUpdate.trans h.lastUpdate, hsame.paused.trans h.paused⟩

lemma Agrees.keep (h : Agrees q L) (p : LedgerEntry → Bool) : Agrees q (L.keep p) :=
  ⟨h.prioritize, h.ttl, h.pauseTime, h.lastUpdate, h.paused⟩

/-! ## One packet leaves -/

variable {e : LedgerEntry} {rest : List LedgerEntry}

lemma entries_split (hord : L.Ordered) (he : e ∈ L.entries) :
    ∃ before after, L.entries = before ++ e :: after ∧
      (L.keep fun e' => decide (e'.handle ≠ e.handle)).entries = before ++ after := by
  obtain ⟨before, after, hsplit⟩ := append_of_mem he
  refine ⟨before, after, hsplit, ?_⟩
  have hhdl := hord.handles
  rw [hsplit, pairwise_append, pairwise_cons] at hhdl
  have hbef : before.filter (fun e' => decide (e'.handle ≠ e.handle)) = before :=
    filter_eq_self.mpr fun e' he' =>
      decide_eq_true (hhdl.2.2 e' he' e mem_cons_self).ne
  have haft : after.filter (fun e' => decide (e'.handle ≠ e.handle)) = after :=
    filter_eq_self.mpr fun e' he' => decide_eq_true (hhdl.2.1.1 e' he').ne'
  show L.entries.filter _ = _
  rw [hsplit, filter_append, hbef, filter_cons_of_neg (by simp), haft]

lemma Accounts.dequeue (h : Accounts q L pending) (hagr : Agrees q L) (hord : L.Ordered) (he : e ∈ L.entries) :
    Accounts (q.dequeuePacketInternal e.queued)
      (L.keep fun e' => decide (e'.handle ≠ e.handle)) pending := by
  obtain ⟨before, after, hsplit, hkept⟩ := entries_split hord he
  have hsize := h.size
  have hpayload := h.payload
  have htime := h.queueTime
  have hwaited : ∀ e', (L.keep fun e' => decide (e'.handle ≠ e.handle)).waited e' = L.waited e' :=
    fun _ => rfl
  refine ⟨?_, ?_, ?_, ?_, ?_, ?_⟩
  · show q.sizePackets - 1 = _
    rw [hsize, hkept, hsplit]
    simp
    omega
  · intro t
    show Function.update q.sizePacketsPerMediaType e.packet.packetType
      (q.sizePacketsPerMediaType e.packet.packetType - 1) t = _
    have htype := h.perType t
    rw [hsplit] at htype
    rw [hkept]
    by_cases ht : t = e.packet.packetType
    · subst ht
      rw [Function.update_self, htype]
      simp
      omega
    · rw [Function.update_of_ne ht, htype]
      simp [Ne.symm ht]
  · show q.sizePayload - e.packet.packetSize = _
    rw [hpayload, hkept, hsplit]
    simp
    omega
  · show q.queueTimeSum - (q.lastUpdateTime - e.unpausedTime - q.pauseTimeSum) = _
    have hown : q.lastUpdateTime - e.unpausedTime - q.pauseTimeSum = L.waited e := by
      rw [hagr.lastUpdate, hagr.pauseTime, unpausedTime, waited]
      omega
    rw [hown, htime, hkept, hsplit, funext hwaited]
    simp
    omega
  · show q.enqueueTimes.filter (fun x => decide (x.1 ≠ e.handle)) = _
    have hpend : pending.filter (fun x => decide (x.1 ≠ e.handle)) = pending :=
      filter_eq_self.mpr fun x hx => decide_eq_true (h.pendingNew x hx e he).symm
    rw [h.enqueueTimes, filter_append, hpend, filter_map]
    rfl
  · intro x hx e' he'
    exact h.pendingNew x hx e' (mem_of_mem_filter he')

variable {ssrc : Ssrc} {level : PrioLevel}

lemma filter_front (hord : L.Ordered) (hfr : L.entriesOf ssrc level = e :: rest) :
    (L.entriesOf ssrc level).filter (fun e' => decide (e'.handle ≠ e.handle)) = rest := by
  have hsort := (hord.entriesOf ssrc level).1
  rw [hfr, pairwise_cons] at hsort
  rw [hfr, filter_cons_of_neg (by simp)]
  exact filter_eq_self.mpr fun e' he' => decide_eq_true (hsort.1 e' he').ne'

lemma Queues.dequeueFront (h : q.Queues L) (hord : L.Ordered)
    (hfr : L.entriesOf ssrc level = e :: rest) :
    (q.dequeueFront ssrc level e.queued).Queues
      (L.keep fun e' => decide (e'.handle ≠ e.handle)) := by
  have hmem : e ∈ L.entriesOf ssrc level := hfr ▸ mem_cons_self ..
  obtain ⟨he, hof⟩ := mem_entriesOf.mp hmem
  intro ssrc' level'
  rw [packets_dequeueFront, entriesOf_keep, h ssrc' level']
  by_cases hsame : ssrc' = ssrc ∧ level' = level
  · obtain ⟨rfl, rfl⟩ := hsame
    rw [if_pos ⟨rfl, rfl⟩, filter_front hord hfr, hfr]
    rfl
  rw [if_neg hsame]
  congr 1
  symm
  refine filter_eq_self.mpr fun e' he' => decide_eq_true ?_
  intro heq
  obtain ⟨hmem', hof'⟩ := mem_entriesOf.mp he'
  obtain rfl := hord.eq_of_handle hmem' he heq
  exact hsame ⟨hof'.1.symm.trans hof.1, hof'.2.symm.trans hof.2⟩

structure Represents (q : PrioritizedPacketQueue) (L : Ledger) (pending : List (Nat × Int)) :
    Prop where
  queues : q.Queues L
  accounts : Accounts q L pending
  agrees : Agrees q L
  ordered : L.Ordered

lemma Represents.dequeueFront (h : Represents q L pending) (hfr : L.entriesOf ssrc level = e :: rest) :
    Represents (q.dequeueFront ssrc level e.queued)
      (L.keep fun e' => decide (e'.handle ≠ e.handle)) pending where
  queues := h.queues.dequeueFront h.ordered hfr
  accounts := by
    have he : e ∈ L.entries :=
      mem_of_mem_filter (hfr ▸ mem_cons_self .. : e ∈ L.entriesOf ssrc level)
    have hset : Accounts (q.setStream ssrc ((q.stream ssrc).dequeuePacket e.queued level)) L
        pending :=
      ⟨h.accounts.size, h.accounts.perType, h.accounts.payload, h.accounts.queueTime,
        h.accounts.enqueueTimes, h.accounts.pendingNew⟩
    exact hset.dequeue ⟨h.agrees.prioritize, h.agrees.ttl, h.agrees.pauseTime,
      h.agrees.lastUpdate, h.agrees.paused⟩ h.ordered he
  agrees := h.agrees.keep _ |>.of_same ⟨rfl, rfl, rfl, rfl, rfl, rfl⟩
  ordered := h.ordered.keep _

/-! ## Purging -/

def expired (ssrc : Ssrc) (level : PrioLevel) (now limit : Int) (e : LedgerEntry) : Bool :=
  e.ofStream ssrc level && decide (limit < now - e.unpausedTime)

lemma purgeStream_represents (ssrc : Ssrc) (level : PrioLevel) (now limit : Int)
    (es : List LedgerEntry) :
    ∀ (q : PrioritizedPacketQueue) (L : Ledger), Represents q L pending →
      L.entriesOf ssrc level = es →
      Represents (purgeStream level now limit ssrc (es.map queued) q)
        (L.keep fun e => !expired ssrc level now limit e) pending := by
  induction es with
  | nil =>
    intro q L h hes
    have hnone : ∀ e ∈ L.entries, (!expired ssrc level now limit e) = true := by
      intro e he
      have : e.ofStream ssrc level = false := by
        by_contra hof
        have hmem : e ∈ L.entriesOf ssrc level := mem_filter.mpr ⟨he, by simpa using hof⟩
        rw [hes] at hmem
        cases hmem
      simp [expired, this]
    rw [keep_eq_self hnone]
    exact h
  | cons e es ih =>
    intro q L h hes
    rw [map_cons, purgeStream]
    have hmem : e ∈ L.entriesOf ssrc level := hes ▸ mem_cons_self ..
    obtain ⟨he, hof⟩ := mem_filter.mp hmem
    by_cases hold : now - e.queued.enqueueTime > limit
    · rw [if_pos hold]
      have h' := h.dequeueFront hes
      have hrest : (L.keep fun e' => decide (e'.handle ≠ e.handle)).entriesOf ssrc level = es := by
        rw [entriesOf_keep, filter_front h.ordered hes]
      have hlogged : Represents { q.dequeueFront ssrc level e.queued with
          dropped := (q.dequeueFront ssrc level e.queued).dropped ++ [⟨e.queued, level, now⟩] }
          (L.keep fun e' => decide (e'.handle ≠ e.handle)) pending :=
        ⟨h'.queues, ⟨h'.accounts.size, h'.accounts.perType, h'.accounts.payload,
          h'.accounts.queueTime, h'.accounts.enqueueTimes, h'.accounts.pendingNew⟩,
          h'.agrees.of_same ⟨rfl, rfl, rfl, rfl, rfl, rfl⟩, h'.ordered⟩
      have hnext := ih _ _ hlogged hrest
      rw [keep_keep] at hnext
      refine (congrArg (Represents _ · pending) (keep_congr fun e' he' => ?_)).mp hnext
      by_cases heq : e'.handle = e.handle
      · obtain rfl := h.ordered.eq_of_handle he' he heq
        have hexp : expired ssrc level now limit e' = true := by
          simp only [expired, hof, Bool.true_and, decide_eq_true_eq]
          exact hold
        simp [hexp]
      · simp [heq]
    · rw [if_neg hold]
      -- Packets behind one that has not expired have not expired.
      have hnone : ∀ e' ∈ L.entries, (!expired ssrc level now limit e') = true := by
        intro e' he'
        by_cases hof' : e'.ofStream ssrc level = true
        · have hmem' : e' ∈ L.entriesOf ssrc level := mem_filter.mpr ⟨he', hof'⟩
          have htimes := (h.ordered.entriesOf ssrc level).2
          rw [hes, pairwise_cons] at htimes
          have hle : e.unpausedTime ≤ e'.unpausedTime := by
            rw [hes] at hmem'
            rcases mem_cons.mp hmem' with rfl | hmem'
            · exact le_rfl
            · exact htimes.1 e' hmem'
          have hfresh : ¬ limit < now - e'.unpausedTime := by
            have : ¬ limit < now - e.unpausedTime := hold
            omega
          simp [expired, hfresh]
        · simp [expired, hof']
      rw [keep_eq_self hnone]
      exact h

lemma purgeStreams_represents (level : PrioLevel) (now limit : Int) (ssrcs : List Ssrc) :
    ∀ (q : PrioritizedPacketQueue) (L : Ledger), Represents q L pending → ssrcs.Nodup →
      Represents (purgeStreams level now limit ssrcs q).2
          (L.keep fun e => !(decide (e.packet.ssrc ∈ ssrcs) &&
            expired e.packet.ssrc level now limit e)) pending ∧
        (purgeStreams level now limit ssrcs q).1 = ssrcs.filter fun ssrc =>
          !((L.keep fun e => !expired ssrc level now limit e).entriesOf ssrc level).isEmpty := by
  induction ssrcs with
  | nil =>
    intro q L h _
    rw [keep_eq_self (by simp)]
    exact ⟨h, rfl⟩
  | cons ssrc ssrcs ih =>
    intro q L h hnd
    rw [nodup_cons] at hnd
    have hfirst := purgeStream_represents ssrc level now limit _ q L h rfl
    rw [← h.queues ssrc level] at hfirst
    obtain ⟨hrest, hlist⟩ := ih _ _ hfirst hnd.2
    rw [purgeStreams]
    refine ⟨?_, ?_⟩
    · rw [keep_keep] at hrest
      refine (congrArg (Represents _ · pending) (keep_congr fun e _ => ?_)).mp hrest
      by_cases hs : e.packet.ssrc = ssrc
      · simp [hs, hnd.1]
      · simp [expired, ofStream, hs]
    have htail : ssrcs.filter (fun ssrc' =>
        !(((L.keep fun e => !expired ssrc level now limit e).keep fun e =>
          !expired ssrc' level now limit e).entriesOf ssrc' level).isEmpty)
        = ssrcs.filter fun ssrc' =>
          !((L.keep fun e => !expired ssrc' level now limit e).entriesOf ssrc' level).isEmpty := by
      refine filter_congr fun ssrc' hmem => ?_
      have hne : ssrc' ≠ ssrc := fun heq => hnd.1 (heq ▸ hmem)
      rw [keep_keep, entriesOf_keep, entriesOf_keep]
      refine congrArg (fun l => !isEmpty l) (filter_congr fun e he => ?_)
      have hof := (mem_entriesOf.mp he).2
      simp [expired, ofStream, hof.1, hne]
    dsimp only
    rw [StreamQueue.hasPacketsAtPrio, hfirst.queues ssrc level, isEmpty_map, hlist, htail, filter_cons]

end PrioritizedPacketQueue

end WebRtc.Pacing
