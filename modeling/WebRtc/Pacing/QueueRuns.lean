import WebRtc.Pacing.QueueMirror

/-!
# WebRTC — the pacer's queue refines the ledger

`Ledger.step` is what a call does to the ledger. After every run of calls that
do not go back in time the queue is as the ledger says (`Mirrors.run`), so that
what `Pop` returns and what the counters say can be read off the packets that
are still queued.
-/

namespace WebRtc.Pacing

open Lib List Ledger LedgerEntry

def Ledger.step (L : Ledger) : Operation → Ledger
  | .push t p => L.push t p
  | .pop => L.pop
  | .setPauseState paused t => { L.update t with paused := paused }
  | .updateAverageQueueTime t => L.update t
  | .removePacketsForSsrc ssrc => L.remove ssrc

namespace PrioritizedPacketQueue

variable {q : PrioritizedPacketQueue} {L : Ledger}

lemma mirrors_new (created : Int) (prioritize : Bool) (ttl : PacketQueueTTL) :
    Mirrors (new created prioritize ttl) (Ledger.new created prioritize ttl) where
  rep := by
    refine ⟨fun _ _ => rfl, ⟨rfl, fun _ => rfl, rfl, rfl, rfl, by simp⟩,
      ⟨rfl, rfl, rfl, rfl, rfl⟩, ⟨.nil, .nil, ?_⟩⟩
    intro e he
    cases he
  turns := by
    refine ⟨fun _ => .nil, fun level ssrc => ?_, ?_⟩
    · exact ⟨fun hmem => absurd hmem not_mem_nil, fun hne => absurd rfl hne⟩
    intro level ssrc hmem
    cases hmem
  top := (best_eq_none.mpr rfl).symm
  handle := rfl

lemma Mirrors.step (h : Mirrors q L) {op : Operation} (htimely : Timely q op) :
    Mirrors (q.perform op) (L.step op) := by
  have htime : ∀ t, op.time? = some t → L.lastUpdate ≤ t := by
    intro t ht
    rw [← h.rep.agrees.lastUpdate]
    exact htimely t ht
  cases op with
  | push t p => exact h.push p (htime t rfl)
  | pop => exact h.pop.2
  | setPauseState paused t => exact (h.update (htime t rfl)).setPaused paused
  | updateAverageQueueTime t => exact h.update (htime t rfl)
  | removePacketsForSsrc ssrc => exact h.remove ssrc

lemma Mirrors.run (ops : List Operation) : ∀ {q : PrioritizedPacketQueue} {L : Ledger},
    Mirrors q L → Along perform Timely q ops →
      Mirrors (Lib.run perform q ops) (Lib.run Ledger.step L ops) := by
  induction ops with
  | nil =>
    intro q L h _
    exact h
  | cons op ops ih =>
    intro q L h halong
    exact ih (h.step halong.1) halong.2

/-! ## What the ledger says -/

/-- The packet that is next: no packet has a better level, no other stream with
packets at its level has waited longer, and no packet of its stream and level
was pushed before it. -/
structure IsNext (L : Ledger) (e : LedgerEntry) : Prop where
  mem : e ∈ L.entries
  bestLevel : ∀ e' ∈ L.entries, e.level ≤ e'.level
  turn : ∀ e' ∈ L.entries, e'.level = e.level → e'.packet.ssrc ≠ e.packet.ssrc →
    L.stamp e.level e.packet.ssrc < L.stamp e.level e'.packet.ssrc
  fifo : ∀ e' ∈ L.entries, e'.level = e.level → e'.packet.ssrc = e.packet.ssrc →
    e.handle ≤ e'.handle

lemma Mirrors.next_cases (h : Mirrors q L) :
    L.next = none ∧ L.entries = [] ∨ ∃ e, L.next = some e ∧ IsNext L e := by
  cases hbest : L.best with
  | none =>
    refine .inl ⟨?_, best_eq_none.mp hbest⟩
    rw [Ledger.next, hbest, Option.bind_none]
  | some top =>
    obtain ⟨hhas, hbet⟩ := best_eq_some.mp hbest
    obtain ⟨ssrc, rest, hlist⟩ := exists_cons_of_ne_nil ((h.turns.has top).mpr hhas)
    obtain ⟨e, es, hfr⟩ := exists_cons_of_ne_nil
      ((h.turns.mem top ssrc).mp (hlist ▸ mem_cons_self ..))
    refine .inr ⟨e, next_of_turns h.turns hbest hlist hfr, ?_⟩
    obtain ⟨hmem, hs, hl⟩ := mem_entriesOf.mp (hfr ▸ mem_cons_self .. : e ∈ L.entriesOf ssrc top)
    subst hs hl
    refine ⟨hmem, ?_, ?_, ?_⟩
    · intro e' he'
      by_contra hlt
      have hnone := hbet e'.level (not_le.mp hlt)
      rw [has, any_eq_false] at hnone
      exact hnone e' he' (decide_eq_true rfl)
    · intro e' he' hl' hs'
      have hsort := h.turns.sorted e.level
      have hwaits := (h.turns.mem e.level e'.packet.ssrc).mpr
        (ne_nil_of_mem (mem_entriesOf.mpr ⟨he', rfl, hl'⟩))
      rw [hlist] at hsort hwaits
      exact (pairwise_cons.mp hsort).1 _ ((mem_cons.mp hwaits).resolve_left hs')
    intro e' he' hl' hs'
    have hhdl := (h.rep.ordered.entriesOf e.packet.ssrc e.level).1
    have hmem' := mem_entriesOf.mpr ⟨he', hs', hl'⟩
    rw [hfr] at hhdl hmem'
    rcases mem_cons.mp hmem' with rfl | hmem'
    · exact le_rfl
    · exact ((pairwise_cons.mp hhdl).1 e' hmem').le

lemma Mirrors.oldestEnqueueTime (h : Mirrors q L) :
    q.oldestEnqueueTime = (L.entries.map pushTime).min? := by
  have hsort : (L.entries.map pushTime).Pairwise (· ≤ ·) :=
    pairwise_map.mpr (h.rep.ordered.times.imp fun htimes => htimes.1)
  have hhead : q.oldestEnqueueTime = (L.entries.map pushTime).head? := by
    rw [PrioritizedPacketQueue.oldestEnqueueTime, h.rep.accounts.enqueueTimes, append_nil,
      head?_map, head?_map, Option.map_map]
    rfl
  rw [hhead]
  cases htimes : L.entries.map pushTime with
  | nil => rfl
  | cons t ts =>
    rw [htimes, pairwise_cons] at hsort
    symm
    refine min?_eq_some_iff.mpr ⟨mem_cons_self .., fun t' ht' => ?_⟩
    rcases mem_cons.mp ht' with rfl | ht'
    · exact le_rfl
    · exact hsort.1 t' ht'

/-- `Pop` returns nothing exactly when nothing is queued, and otherwise the
packet that is next; sizes, counts, oldest enqueue time and the sum of the queue
times are those of the packets that are queued. -/
structure OrderAndAccounts (q : PrioritizedPacketQueue) (L : Ledger) : Prop where
  nothing : q.pop.1 = none ↔ L.entries = []
  next : ∀ p, q.pop.1 = some p → ∃ e, e.packet = p ∧ IsNext L e
  size : q.sizePackets = L.entries.length
  payload : q.sizePayload = (L.entries.map fun e => e.packet.packetSize).sum
  perMediaType : ∀ t, q.sizePacketsPerMediaType t
    = L.entries.countP fun e => decide (e.packet.packetType = t)
  oldest : q.oldestEnqueueTime = (L.entries.map pushTime).min?
  queueTimeSum : q.queueTimeSum = (L.entries.map L.waited).sum

lemma Mirrors.orderAndAccounts (h : Mirrors q L) : OrderAndAccounts q L := by
  refine ⟨?_, ?_, h.rep.accounts.size, h.rep.accounts.payload, h.rep.accounts.perType,
    h.oldestEnqueueTime, h.rep.accounts.queueTime⟩
  · rw [h.pop.1, Option.map_eq_none_iff]
    rcases h.next_cases with ⟨hnone, hemp⟩ | ⟨e, hnext, hfirst⟩
    · exact ⟨fun _ => hemp, fun _ => hnone⟩
    rw [hnext]
    refine ⟨fun hnone => (Option.some_ne_none e hnone).elim, fun hemp => ?_⟩
    have hmem := hfirst.mem
    rw [hemp] at hmem
    cases hmem
  · intro p hp
    rw [h.pop.1] at hp
    rcases h.next_cases with ⟨hnone, -⟩ | ⟨e, hnext, hfirst⟩
    · rw [hnone] at hp
      cases hp
    rw [hnext] at hp
    exact ⟨e, Option.some.inj hp, hfirst⟩

/-- After every run of calls the queue has the packets that the ledger has,
hands them out in the order of their levels, turns and pushes, and counts them
right. -/
theorem queue_order_and_accounts (creationTime : Int) (prioritize : Bool) (ttl : PacketQueueTTL)
    {ops : List Operation} (h : Along perform Timely (new creationTime prioritize ttl) ops) :
    OrderAndAccounts (Lib.run perform (new creationTime prioritize ttl) ops)
      (Lib.run Ledger.step (Ledger.new creationTime prioritize ttl) ops) :=
  (Mirrors.run ops (mirrors_new creationTime prioritize ttl) h).orderAndAccounts

/-- Two streams take turns: the packet of the second goes before the second
packet of the first. -/
theorem streams_take_turns :
    OrderAndAccounts
      (Lib.run perform (new 0 false {})
        [.push 0 ⟨1, 1, .video, none, 100, 0, false⟩, .push 1 ⟨1, 2, .video, none, 100, 0, false⟩,
          .push 2 ⟨2, 7, .video, none, 50, 0, false⟩, .pop])
      (Lib.run Ledger.step (Ledger.new 0 false {})
        [.push 0 ⟨1, 1, .video, none, 100, 0, false⟩, .push 1 ⟨1, 2, .video, none, 100, 0, false⟩,
          .push 2 ⟨2, 7, .video, none, 50, 0, false⟩, .pop]) ∧
    (Lib.run perform (new 0 false {})
      [.push 0 ⟨1, 1, .video, none, 100, 0, false⟩, .push 1 ⟨1, 2, .video, none, 100, 0, false⟩,
        .push 2 ⟨2, 7, .video, none, 50, 0, false⟩, .pop]).pop.1
      = some ⟨2, 7, .video, none, 50, 0, false⟩ := by
  refine ⟨queue_order_and_accounts 0 false {} ⟨?_, ?_, ?_, ?_, trivial⟩, by decide +kernel⟩
  · rintro t ⟨⟩
    decide +kernel
  · rintro t ⟨⟩
    decide +kernel
  · rintro t ⟨⟩
    decide +kernel
  · rintro t ⟨⟩

end PrioritizedPacketQueue

end WebRtc.Pacing
