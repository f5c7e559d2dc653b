import WebRtc.Pacing.QueueOrder

/-!
# WebRTC — every call of the pacer's queue keeps the ledger

One lemma per call. A push goes through four states of the queue, and in each of them the queue
still represents a ledger; only the enqueue time of the new packet is ahead of its entry until the
packet is in its queue.
-/

namespace WebRtc.Pacing

open Lib Ledger LedgerEntry List Function

variable {es : List LedgerEntry} {e : LedgerEntry}

namespace Ledger

variable {L : Ledger}

/-- Settling only drops entries. -/
lemma settle_eq_keep (levels : List PrioLevel) : ∀ L, ∃ p, settle levels L = L.keep p := by
  induction levels with
  | nil =>
    intro L
    exact ⟨fun _ => true, (keep_eq_self fun _ _ => rfl).symm⟩
  | cons level levels ih =>
    intro L
    rw [settle]
    split
    · exact ⟨_, rfl⟩
    obtain ⟨p, hp⟩ := ih (L.purge level L.lastUpdate)
    rw [hp, purge, keep_keep]
    exact ⟨_, rfl⟩

lemma settleAfter_eq_keep (L : Ledger) (top : Option PrioLevel) :
    ∃ p, L.settleAfter top = L.keep p := by
  cases top with
  | none => exact settle_eq_keep _ L
  | some level =>
    rw [settleAfter]
    split
    · exact ⟨fun _ => true, (keep_eq_self fun _ _ => rfl).symm⟩
    · exact settle_eq_keep _ L

lemma pushed_settleAfter (top : Option PrioLevel) :
    (L.settleAfter top).pushed = L.pushed := by
  obtain ⟨p, hp⟩ := L.settleAfter_eq_keep top
  rw [hp]
  rfl

lemma entriesOf_without (hord : L.Ordered) {ssrc : Ssrc} {level : PrioLevel}
    (hfr : L.entriesOf ssrc level = e :: es) (ssrc' : Ssrc) (level' : PrioLevel) :
    (L.keep fun e' => decide (e'.handle ≠ e.handle)).entriesOf ssrc' level' =
      if ssrc' = ssrc ∧ level' = level then es else L.entriesOf ssrc' level' := by
  rw [entriesOf_keep]
  by_cases hsame : ssrc' = ssrc ∧ level' = level
  · rw [if_pos hsame, hsame.1, hsame.2, PrioritizedPacketQueue.filter_front hord hfr]
  rw [if_neg hsame]
  refine filter_eq_self.mpr fun e' he' => decide_eq_true fun heq => hsame ?_
  obtain ⟨hmem', hs', hl'⟩ := mem_entriesOf.mp he'
  obtain ⟨hmem, hs, hl⟩ := mem_entriesOf.mp (hfr ▸ mem_cons_self .. : e ∈ L.entriesOf ssrc level)
  obtain rfl := hord.eq_of_handle hmem' hmem heq
  exact ⟨hs'.symm.trans hs, hl'.symm.trans hl⟩

end Ledger

namespace PrioritizedPacketQueue

variable {q : PrioritizedPacketQueue} {L : Ledger}

lemma maybeUpdateTopPrioLevel_mirrors (h : Represents q L []) (ht : Turns q L)
    (hbet : Better q.topActivePrioLevel L) (hhndl : q.nextHandle = L.pushed) :
    Mirrors q.maybeUpdateTopPrioLevel (L.settleAfter q.topActivePrioLevel) := by
  obtain ⟨hrep, htrn, hsame, htop⟩ := maybeUpdateTopPrioLevel_settles h ht hbet
  exact ⟨hrep, htrn, htop, by rw [hsame.handle, hhndl, pushed_settleAfter]⟩

/-! ## Pop -/

variable {ssrc : Ssrc} {L' : Ledger} {t : Int} {p : RtpPacketToSend}

variable {rest : List Ssrc} {top : PrioLevel}

lemma pop_eq {p : QueuedPacket}
    {ps : List QueuedPacket} (hne : q.sizePackets ≠ 0) (htop : q.topActivePrioLevel = some top)
    (hlist : q.streamsByPrio top = ssrc :: rest) (hpkts : (q.stream ssrc).packets top = p :: ps) :
    q.pop = (some p.packet,
      if ps = [] then
        ((q.dequeueFront ssrc top p).setStreamsByPrio top rest).maybeUpdateTopPrioLevel
      else (q.dequeueFront ssrc top p).setStreamsByPrio top (rest ++ [ssrc])) := by
  have hhas : ((q.dequeueFront ssrc top p).stream ssrc).hasPacketsAtPrio top = !ps.isEmpty := by
    rw [StreamQueue.hasPacketsAtPrio, packets_dequeueFront, if_pos ⟨rfl, rfl⟩, hpkts]
    rfl
  unfold pop
  rw [if_neg hne, htop]
  dsimp only
  rw [hlist]
  dsimp only
  rw [hpkts]
  dsimp only
  rw [hhas]
  cases ps with
  | nil => rfl
  | cons p' ps => rfl

variable {q' : PrioritizedPacketQueue}

/-- The list of the level after the turn of the stream at its front: the stream
goes to the end while it has packets left. -/
lemma Turns.served (h : Turns q L) (hord : L.Ordered) (hlist : q.streamsByPrio top = ssrc :: rest)
    (hfr : L.entriesOf ssrc top = e :: es)
    (hq : q'.streamsByPrio = Function.update q.streamsByPrio top
      (if es = [] then rest else rest ++ [ssrc])) :
    Turns q' ((L.keep fun e' => decide (e'.handle ≠ e.handle)).startWaiting top ssrc) := by
  have hnd := h.nodup top
  have hsort := h.sorted top
  have hold := h.mem top
  rw [hlist] at hnd hsort hold
  rw [nodup_cons] at hnd
  rw [pairwise_cons] at hsort
  have hself : q'.streamsByPrio top = if es = [] then rest else rest ++ [ssrc] := by
    rw [hq, update_self]
  have hoth : ∀ l, l ≠ top → q'.streamsByPrio l = q.streamsByPrio l := by
    intro l hl
    rw [hq, update_of_ne hl]
  have hrest : ∀ x ∈ rest, x ∈ q.streamsByPrio top ∧ x ≠ ssrc := by
    intro x hx
    rw [hlist]
    exact ⟨mem_cons_of_mem _ hx, fun heq => hnd.1 (heq ▸ hx)⟩
  have hin : ∀ x, x ∈ q'.streamsByPrio top ↔ x = ssrc ∧ es ≠ [] ∨ x ≠ ssrc ∧ x ∈ rest := by
    intro x
    rw [hself]
    by_cases hx : x = ssrc
    · subst hx
      by_cases hes : es = [] <;> simp [hes, hnd.1]
    · by_cases hes : es = [] <;> simp [hes, hx]
  refine h.startWaiting hrest hsort.2 rfl rfl ?_ hoth ?_
  · rw [hself]
    split
    · exact .inr rfl
    · exact .inl rfl
  intro l x
  show x ∈ q'.streamsByPrio l ↔
    (L.keep fun e' => decide (e'.handle ≠ e.handle)).entriesOf x l ≠ []
  rw [entriesOf_without hord hfr]
  by_cases hl : l = top
  · subst hl
    rw [hin]
    by_cases hx : x = ssrc
    · rw [if_pos ⟨hx, rfl⟩]
      simp [hx]
    rw [if_neg fun h => hx h.1, ← hold x, mem_cons]
    simp [hx]
  · rw [if_neg fun h => hl h.2, hoth l hl]
    exact h.mem l x

/-- A pop takes the packet that is next in the ledger. -/
lemma Mirrors.pop (h : Mirrors q L) : q.pop.1 = L.next.map packet ∧ Mirrors q.pop.2 L.pop := by
  unfold Ledger.pop
  cases hbest : L.best with
  | none =>
    have hzero : q.sizePackets = 0 := by
      rw [h.rep.accounts.size, best_eq_none.mp hbest]
      rfl
    have hnext : L.next = none := by rw [Ledger.next, hbest, Option.bind_none]
    rw [PrioritizedPacketQueue.pop, if_pos hzero, hnext]
    exact ⟨rfl, h⟩
  | some top =>
    obtain ⟨hhas, hbet⟩ := best_eq_some.mp hbest
    have hne : q.sizePackets ≠ 0 := by
      rw [h.rep.accounts.size]
      intro hzero
      rw [best_eq_none.mpr (length_eq_zero_iff.mp (by omega))] at hbest
      cases hbest
    have htop : q.topActivePrioLevel = some top := h.top.trans hbest
    cases hlist : q.streamsByPrio top with
    | nil => exact absurd hlist ((h.turns.has top).mpr hhas)
    | cons ssrc rest =>
      cases hfr : L.entriesOf ssrc top with
      | nil => exact absurd hfr ((h.turns.mem top ssrc).mp (hlist ▸ mem_cons_self ..))
      | cons e es =>
        have hpkts : (q.stream ssrc).packets top = e.queued :: es.map queued := by
          rw [h.rep.queues, hfr]
          rfl
        obtain ⟨-, hes, hel⟩ := mem_entriesOf.mp (hfr ▸ mem_cons_self .. : e ∈ L.entriesOf ssrc top)
        rw [pop_eq hne htop hlist hpkts, next_of_turns h.turns hbest hlist hfr]
        dsimp only
        rw [hes, hel]
        refine ⟨rfl, ?_⟩
        have hrep := (h.rep.dequeueFront hfr).startWaiting top ssrc
        have hbet' : ∀ l < top, ((L.keep fun e' => decide (e'.handle ≠ e.handle)).startWaiting
            top ssrc).has l = false := fun l hl => has_keep (hbet l hl)
        cases es with
        | nil =>
          -- The stream leaves the list, and the level may have run empty.
          rw [map_nil, if_pos rfl, ← htop]
          refine maybeUpdateTopPrioLevel_mirrors (hrep.of_lists rfl)
            (h.turns.served h.rep.ordered hlist hfr rfl) ?_ h.handle
          intro level hlvl
          obtain rfl : top = level := Option.some.inj (htop.symm.trans hlvl)
          exact hbet'
        | cons e' es =>
          have hstill : ((L.keep fun e' => decide (e'.handle ≠ e.handle)).startWaiting top
              ssrc).has top = true := by
            refine has_iff.mpr ⟨ssrc, ?_⟩
            show (L.keep fun e' => decide (e'.handle ≠ e.handle)).entriesOf ssrc top ≠ []
            rw [entriesOf_without h.rep.ordered hfr, if_pos ⟨rfl, rfl⟩]
            exact cons_ne_nil _ _
          rw [map_cons, if_neg (cons_ne_nil _ _), settleAfter, if_pos hstill]
          refine ⟨hrep.of_lists rfl, h.turns.served h.rep.ordered hlist hfr rfl, ?_, h.handle⟩
          exact htop.trans (best_eq_some.mpr ⟨hstill, hbet'⟩).symm

/-! ## Time passes -/

lemma Turns.congr (h : Turns q L)
    (hlst : q'.streamsByPrio = q.streamsByPrio) (hents : L'.entries = L.entries)
    (hstamp : L'.stamp = L.stamp) (hclock : L'.clock = L.clock) : Turns q' L' := by
  have hof : ∀ x l, L'.entriesOf x l = L.entriesOf x l := by
    intro x l
    rw [entriesOf, entriesOf, hents]
  refine ⟨?_, ?_, ?_⟩
  · rw [hlst, hstamp]
    exact h.sorted
  · intro l x
    rw [hlst, hof]
    exact h.mem l x
  · rw [hlst, hstamp, hclock]
    exact h.past

lemma sum_waited_add {d : Int} (hents : L'.entries = L.entries)
    (hwaited : ∀ e, L'.waited e = L.waited e + d) :
    (L.entries.map L.waited).sum + d * L.entries.length = (L'.entries.map L'.waited).sum := by
  rw [hents, funext hwaited]
  induction L.entries with
  | nil => simp
  | cons e es ih =>
    simp only [map_cons, sum_cons, length_cons, ← ih]
    push_cast
    ring

/-- While the queue is paused, its packets do not age; otherwise each of them
has waited for the time that has passed. -/
lemma Represents.update {pending : List (Nat × Int)} (h : Represents q L pending) {now : Int}
    (hnow : L.lastUpdate ≤ now) :
    Represents (q.updateAverageQueueTime now) (L.update now) pending := by
  have hacc := h.accounts
  have hagr := h.agrees
  unfold updateAverageQueueTime
  by_cases heq : now = q.lastUpdateTime
  · rw [if_pos heq]
    have hsame : L.update now = L := by
      unfold Ledger.update
      rw [heq, hagr.lastUpdate]
      split <;> simp
    rw [hsame]
    exact h
  rw [if_neg heq]
  unfold Ledger.update
  by_cases hpau : L.paused = true
  · rw [if_pos (hagr.paused.trans hpau), if_pos hpau]
    refine ⟨h.queues, ⟨hacc.size, hacc.perType, hacc.payload, ?_, hacc.enqueueTimes,
      hacc.pendingNew⟩, ⟨hagr.prioritize, hagr.ttl, ?_, rfl, hagr.paused⟩,
      ⟨h.ordered.handles, h.ordered.times, ?_⟩⟩
    · show q.queueTimeSum = _
      rw [hacc.queueTime, ← add_zero (sum _), ← zero_mul (L.entries.length : Int)]
      refine sum_waited_add rfl fun e => ?_
      simp only [waited]
      omega
    · show q.pauseTimeSum + (now - q.lastUpdateTime) = L.pauseSum + (now - L.lastUpdate)
      rw [hagr.pauseTime, hagr.lastUpdate]
    intro e he
    obtain ⟨hhndl, htime, hunpaused⟩ := h.ordered.past e he
    refine ⟨hhndl, htime.trans hnow, ?_⟩
    show e.unpausedTime ≤ now - (L.pauseSum + (now - L.lastUpdate))
    omega
  · rw [if_neg fun h => hpau (hagr.paused.symm.trans h), if_neg hpau]
    refine ⟨h.queues, ⟨hacc.size, hacc.perType, hacc.payload, ?_, hacc.enqueueTimes,
      hacc.pendingNew⟩, ⟨hagr.prioritize, hagr.ttl, hagr.pauseTime, rfl, hagr.paused⟩,
      ⟨h.ordered.handles, h.ordered.times, ?_⟩⟩
    · show q.queueTimeSum + (now - q.lastUpdateTime) * q.sizePackets = _
      rw [hacc.queueTime, hacc.size, hagr.lastUpdate]
      refine sum_waited_add rfl fun e => ?_
      simp only [waited]
      omega
    intro e he
    obtain ⟨hhndl, htime, hunpaused⟩ := h.ordered.past e he
    refine ⟨hhndl, htime.trans hnow, ?_⟩
    show e.unpausedTime ≤ now - L.pauseSum
    omega

lemma update_lists (q : PrioritizedPacketQueue) (now : Int) :
    (q.updateAverageQueueTime now).streamsByPrio = q.streamsByPrio ∧
      (q.updateAverageQueueTime now).topActivePrioLevel = q.topActivePrioLevel ∧
      (q.updateAverageQueueTime now).nextHandle = q.nextHandle := by
  unfold updateAverageQueueTime
  split
  · exact ⟨rfl, rfl, rfl⟩
  dsimp only
  split <;> exact ⟨rfl, rfl, rfl⟩

lemma ledger_update_eq (now : Int) :
    L.update now = { L with pauseSum := (L.update now).pauseSum, lastUpdate := now } := by
  unfold Ledger.update
  split <;> rfl

lemma Turns.update (h : Turns q L) (now : Int) :
    Turns (q.updateAverageQueueTime now) (L.update now) := by
  rw [ledger_update_eq]
  exact h.congr (update_lists q now).1 rfl rfl rfl

lemma Mirrors.update (h : Mirrors q L) {now : Int} (hnow : L.lastUpdate ≤ now) :
    Mirrors (q.updateAverageQueueTime now) (L.update now) := by
  obtain ⟨-, htop, hhndl⟩ := update_lists q now
  refine ⟨h.rep.update hnow, h.turns.update now, ?_, ?_⟩
  · rw [htop, h.top, ledger_update_eq]
    rfl
  · rw [hhndl, h.handle, ledger_update_eq]

lemma Mirrors.setPaused (h : Mirrors q L) (paused : Bool) :
    Mirrors { q with paused := paused } { L with paused := paused } where
  rep := ⟨h.rep.queues, ⟨h.rep.accounts.size, h.rep.accounts.perType, h.rep.accounts.payload,
    h.rep.accounts.queueTime, h.rep.accounts.enqueueTimes, h.rep.accounts.pendingNew⟩,
    ⟨h.rep.agrees.prioritize, h.rep.agrees.ttl, h.rep.agrees.pauseTime, h.rep.agrees.lastUpdate,
      rfl⟩, ⟨h.rep.ordered.handles, h.rep.ordered.times, h.rep.ordered.past⟩⟩
  turns := h.turns.congr rfl rfl rfl rfl
  top := h.top
  handle := h.handle

/-! ## Push -/

/-- The top level once a packet of `level` has come. -/
def raised (top : Option PrioLevel) (level : PrioLevel) : Option PrioLevel :=
  match top with
  | some top => if level < top then some level else some top
  | none => some level

lemma raiseTopPrioLevel_eq_raised (level : PrioLevel) :
    q.raiseTopPrioLevel level =
      { q with topActivePrioLevel := raised q.topActivePrioLevel level } := by
  unfold raiseTopPrioLevel raised
  cases htop : q.topActivePrioLevel with
  | none => rfl
  | some top =>
    dsimp only
    split
    · rfl
    · rw [← htop]

lemma enqueue_eq (t : Int) (p : RtpPacketToSend)
    (level : PrioLevel) (handle : Nat) :
    q.enqueue t p level handle =
      { q with
        streams := (q.enqueue t p level handle).streams
        sizePackets := q.sizePackets + 1
        sizePacketsPerMediaType := Function.update q.sizePacketsPerMediaType p.packetType
          (q.sizePacketsPerMediaType p.packetType + 1)
        sizePayload := q.sizePayload + p.packetSize
        streamsByPrio := if (q.stream p.ssrc).hasPacketsAtPrio level then q.streamsByPrio
          else Function.update q.streamsByPrio level (q.streamsByPrio level ++ [p.ssrc])
        topActivePrioLevel := raised q.topActivePrioLevel level } := by
  unfold enqueue
  rw [raiseTopPrioLevel_eq_raised]
  split <;> rfl

lemma entriesOf_append (t : Int) (p : RtpPacketToSend) (ssrc : Ssrc)
    (level : PrioLevel) :
    (L.append t p).entriesOf ssrc level = if ssrc = p.ssrc ∧ level = L.levelOf p then
      L.entriesOf ssrc level ++ [⟨p, L.levelOf p, t, L.pauseSum, L.pushed⟩]
      else L.entriesOf ssrc level := by
  show (L.entries ++ [_]).filter _ = _
  rw [filter_append]
  by_cases hsame : ssrc = p.ssrc ∧ level = L.levelOf p
  · rw [if_pos hsame, filter_cons_of_pos (by simp [ofStream, hsame])]
    rfl
  rw [if_neg hsame, filter_cons_of_neg, filter_nil, append_nil]
  · rfl
  intro hof
  simp only [ofStream, Bool.and_eq_true, decide_eq_true_eq] at hof
  exact hsame ⟨hof.1.symm, hof.2.symm⟩

lemma Represents.enqueue (h : Represents q L [(L.pushed, t)]) (hnow : L.lastUpdate = t) :
    Represents (q.enqueue t p (L.levelOf p) L.pushed) (L.append t p) [] := by
  have hacc := h.accounts
  have hagr := h.agrees
  have hzero : (L.append t p).waited ⟨p, L.levelOf p, t, L.pauseSum, L.pushed⟩ = 0 := by
    show L.lastUpdate - t - (L.pauseSum - L.pauseSum) = 0
    omega
  refine ⟨?_, ⟨?_, ?_, ?_, ?_, ?_, by simp⟩, ?_, ⟨?_, ?_, ?_⟩⟩
  · intro ssrc level
    rw [packets_enqueue, entriesOf_append, h.queues ssrc level, hagr.pauseTime]
    split
    · rw [map_append]
      rfl
    · rfl
  · rw [enqueue_eq]
    show q.sizePackets + 1 = ((L.entries ++ [_]).length : Int)
    rw [hacc.size, length_append]
    rfl
  · intro type
    rw [enqueue_eq]
    show Function.update q.sizePacketsPerMediaType p.packetType
      (q.sizePacketsPerMediaType p.packetType + 1) type = ((L.entries ++ [_]).countP _ : Int)
    by_cases htype : type = p.packetType
    · subst htype
      rw [update_self, hacc.perType]
      simp
    · rw [update_of_ne htype, hacc.perType]
      simp [Ne.symm htype]
  · rw [enqueue_eq]
    show q.sizePayload + p.packetSize = ((L.entries ++ [_]).map _).sum
    rw [hacc.payload, map_append, sum_append]
    simp
  · rw [enqueue_eq]
    show q.queueTimeSum = ((L.entries ++ [_]).map (L.append t p).waited).sum
    rw [map_append, sum_append, map_singleton, sum_singleton, hzero, add_zero]
    exact hacc.queueTime
  · rw [enqueue_eq]
    show q.enqueueTimes = (L.entries ++ [_]).map _ ++ []
    rw [hacc.enqueueTimes, map_append, append_nil]
    rfl
  · rw [enqueue_eq]
    exact ⟨hagr.prioritize, hagr.ttl, hagr.pauseTime, hagr.lastUpdate, hagr.paused⟩
  · show (L.entries ++ [_]).Pairwise _
    rw [pairwise_append]
    refine ⟨h.ordered.handles, pairwise_singleton _ _, ?_⟩
    intro e he e' he'
    rw [mem_singleton.mp he']
    exact (h.ordered.past e he).1
  · show (L.entries ++ [_]).Pairwise _
    rw [pairwise_append]
    refine ⟨h.ordered.times, pairwise_singleton _ _, ?_⟩
    intro e he e' he'
    obtain ⟨-, htime, hunpaused⟩ := h.ordered.past e he
    rw [mem_singleton.mp he', ← hnow]
    exact ⟨htime, hunpaused⟩
  · intro e he
    show e.handle < L.pushed + 1 ∧ e.pushTime ≤ L.lastUpdate ∧
      e.unpausedTime ≤ L.lastUpdate - L.pauseSum
    rcases mem_append.mp he with he | he
    · obtain ⟨hhndl, htime⟩ := h.ordered.past e he
      exact ⟨hhndl.trans (Nat.lt_succ_self _), htime⟩
    rw [mem_singleton.mp he, hnow]
    exact ⟨Nat.lt_succ_self _, le_rfl, le_rfl⟩

variable {level : PrioLevel}

lemma Represents.enqueueTurn {handle : Nat}
    (h : Represents q L [(handle, t)]) (hnow : L.lastUpdate = t) (hhndl : L.pushed = handle)
    (hlvl : L.levelOf p = level) :
    Represents (q.enqueue t p level handle)
      ((if L.entriesOf p.ssrc (L.levelOf p) = [] then L.startWaiting (L.levelOf p) p.ssrc
        else L).append t p) [] := by
  subst hhndl hlvl
  split
  · exact (h.startWaiting (L.levelOf p) p.ssrc).enqueue hnow
  · exact h.enqueue hnow

lemma raised_best (hself : L'.has level = true)
    (hoth : ∀ l, l ≠ level → L'.has l = L.has l) : raised L.best level = L'.best := by
  symm
  cases hbest : L.best with
  | none =>
    refine best_eq_some.mpr ⟨hself, fun l hl => ?_⟩
    rw [hoth l hl.ne, has, best_eq_none.mp hbest]
    rfl
  | some top =>
    obtain ⟨hhas, hbet⟩ := best_eq_some.mp hbest
    rw [raised]
    split
    · next hlt =>
      refine best_eq_some.mpr ⟨hself, fun l hl => ?_⟩
      rw [hoth l hl.ne]
      exact hbet l (hl.trans hlt)
    next hle =>
    have hne : ∀ l < top, l ≠ level := by
      rintro l hl rfl
      exact hle hl
    refine best_eq_some.mpr ⟨?_, fun l hl => ?_⟩
    · by_cases heq : top = level
      · rw [heq]
        exact hself
      rw [hoth top heq]
      exact hhas
    · rw [hoth l (hne l hl)]
      exact hbet l hl

lemma Turns.enqueue {handle : Nat}
    (h : Turns q L) (hqs : q.Queues L) (hlvl : L.levelOf p = level) :
    Turns (q.enqueue t p level handle)
      ((if L.entriesOf p.ssrc (L.levelOf p) = [] then L.startWaiting (L.levelOf p) p.ssrc
        else L).append t p) := by
  subst hlvl
  have hhas : (q.stream p.ssrc).hasPacketsAtPrio (L.levelOf p)
      = !(L.entriesOf p.ssrc (L.levelOf p)).isEmpty := by
    rw [StreamQueue.hasPacketsAtPrio, hqs, isEmpty_map]
  have hlst : (q.enqueue t p (L.levelOf p) handle).streamsByPrio =
      if (q.stream p.ssrc).hasPacketsAtPrio (L.levelOf p) then q.streamsByPrio
      else Function.update q.streamsByPrio (L.levelOf p)
        (q.streamsByPrio (L.levelOf p) ++ [p.ssrc]) := by
    rw [enqueue_eq]
  have hof : ∀ l x, (L.append t p).entriesOf x l ≠ [] ↔
      (x = p.ssrc ∧ l = L.levelOf p) ∨ L.entriesOf x l ≠ [] := by
    intro l x
    rw [entriesOf_append]
    split
    · next hsame => simp [hsame]
    · next hsame => simp [hsame]
  by_cases hemp : L.entriesOf p.ssrc (L.levelOf p) = []
  · have hnot : p.ssrc ∉ q.streamsByPrio (L.levelOf p) :=
      fun hmem => (h.mem _ _).mp hmem hemp
    rw [hhas, hemp, isEmpty_nil, Bool.not_true, if_neg Bool.false_ne_true] at hlst
    rw [if_pos hemp]
    have hold : ∀ x ∈ q.streamsByPrio (L.levelOf p),
        x ∈ q.streamsByPrio (L.levelOf p) ∧ x ≠ p.ssrc := by
      rintro x hx
      exact ⟨hx, fun heq => hnot (heq ▸ hx)⟩
    refine h.startWaiting hold (h.sorted _) rfl rfl (.inl ?_) ?_ ?_
    · rw [hlst, update_self]
    · intro l hl
      rw [hlst, update_of_ne hl]
    intro l x
    show _ ↔ (L.append t p).entriesOf x l ≠ []
    rw [hof, hlst]
    by_cases hl : l = L.levelOf p
    · rw [hl, update_self, mem_append, mem_singleton, h.mem]
      simp [or_comm]
    rw [update_of_ne hl, h.mem]
    simp [hl]
  · have hfalse : (L.entriesOf p.ssrc (L.levelOf p)).isEmpty = false := by simpa using hemp
    rw [hhas, hfalse, Bool.not_false, if_pos rfl] at hlst
    rw [if_neg hemp]
    refine ⟨hlst ▸ h.sorted, ?_, hlst ▸ h.past⟩
    intro l x
    rw [hof, hlst, h.mem]
    constructor
    · exact .inr
    rintro (⟨rfl, rfl⟩ | hne)
    · exact hemp
    · exact hne

lemma has_append (L : Ledger) (t : Int) (p : RtpPacketToSend) (level : PrioLevel) :
    (L.append t p).has level = (L.has level || decide (L.levelOf p = level)) := by
  show (L.entries ++ [_]).any _ = _
  simp [has]

lemma has_purge_of_ne {l : PrioLevel} (now : Int) (hl : l ≠ level) :
    (L.purge level now).has l = L.has l := by
  rw [Bool.eq_iff_iff, has, has, any_eq_true, any_eq_true]
  constructor
  · rintro ⟨e, he, heq⟩
    exact ⟨e, mem_of_mem_filter he, heq⟩
  rintro ⟨e, he, heq⟩
  refine ⟨e, mem_filter.mpr ⟨he, ?_⟩, heq⟩
  have hne : e.level ≠ level := fun h => hl ((of_decide_eq_true heq).symm.trans h)
  simp [hne]

lemma has_push (t : Int) (p : RtpPacketToSend) (level : PrioLevel) :
    (L.push t p).has level =
      ((L.purge (L.levelOf p) t).has level || decide (L.levelOf p = level)) := by
  unfold Ledger.push
  rw [ledger_update_eq]
  dsimp only
  split
  · exact has_append _ t p level
  · exact has_append _ t p level

lemma pushed_push (t : Int) (p : RtpPacketToSend) :
    (L.push t p).pushed = L.pushed + 1 := by
  unfold Ledger.push
  rw [ledger_update_eq]
  dsimp only
  split <;> rfl

lemma cull_eq (now : Int) :
    q.cull now = { q with
      streams := (q.cull now).streams, lastCullingTime := (q.cull now).lastCullingTime } := by
  unfold cull
  split <;> rfl

lemma Mirrors.cull (h : Mirrors q L) (now : Int) : Mirrors (q.cull now) L := by
  have hqs : (q.cull now).Queues L :=
    fun ssrc level => (packets_cull q now ssrc level).trans (h.rep.queues ssrc level)
  rw [cull_eq] at hqs ⊢
  exact ⟨⟨hqs, ⟨h.rep.accounts.size, h.rep.accounts.perType, h.rep.accounts.payload,
    h.rep.accounts.queueTime, h.rep.accounts.enqueueTimes, h.rep.accounts.pendingNew⟩,
    h.rep.agrees.of_same ⟨rfl, rfl, rfl, rfl, rfl, rfl⟩, h.rep.ordered⟩,
    h.turns.congr rfl rfl rfl rfl, h.top, h.handle⟩

lemma Mirrors.announce (h : Mirrors q L) (t : Int) (p : RtpPacketToSend) :
    Represents (q.announce t p) L [(L.pushed, t)] ∧ Turns (q.announce t p) L := by
  have hacc := h.rep.accounts
  have hqs : (q.announce t p).Queues L :=
    fun ssrc level => (packets_announce q t p ssrc level).trans (h.rep.queues ssrc level)
  rw [announce_eq] at hqs ⊢
  refine ⟨⟨hqs, ⟨hacc.size, hacc.perType, hacc.payload, hacc.queueTime, ?_, ?_⟩,
    ⟨h.rep.agrees.prioritize, h.rep.agrees.ttl, h.rep.agrees.pauseTime, h.rep.agrees.lastUpdate,
      h.rep.agrees.paused⟩, h.rep.ordered⟩, h.turns.congr rfl rfl rfl rfl⟩
  · show q.enqueueTimes ++ [(q.nextHandle, t)] = _
    rw [hacc.enqueueTimes, append_nil, h.handle]
  intro x hx e he
  rw [mem_singleton.mp hx]
  exact (h.rep.ordered.past e he).1.ne

lemma Mirrors.push (h : Mirrors q L) (p : RtpPacketToSend) (ht : L.lastUpdate ≤ t) :
    Mirrors (q.push t p) (L.push t p) := by
  have hlvl : q.prioLevel p = L.levelOf p := by
    rw [prioLevel, h.rep.agrees.prioritize]
    rfl
  obtain ⟨hannounced, hannouncedTurns⟩ := h.announce t p
  obtain ⟨hpurged, hpurgedTurns⟩ := purge_represents hannounced hannouncedTurns (L.levelOf p) t
  have hlate : (L.purge (L.levelOf p) t).lastUpdate ≤ t := ht
  have htimed := hpurged.update hlate
  have htimedTurns := hpurgedTurns.update t
  obtain ⟨hlast, hlevelOf, hpushed⟩ : ((L.purge (L.levelOf p) t).update t).lastUpdate = t ∧
      ((L.purge (L.levelOf p) t).update t).levelOf p = L.levelOf p ∧
      ((L.purge (L.levelOf p) t).update t).pushed = L.pushed := by
    rw [ledger_update_eq]
    exact ⟨rfl, rfl, rfl⟩
  -- The cached level is still that of the queue before.
  obtain ⟨hsame, hpurgedTop⟩ := purge_same (q.announce t p) (L.levelOf p) t
  obtain ⟨-, htimedTop, htimedHandle⟩ := update_lists
    ((q.announce t p).purgeOldPacketsAtPriorityLevel (L.levelOf p) t) t
  rw [push_eq, hlvl, h.handle]
  refine Mirrors.cull ⟨?_, ?_, ?_, ?_⟩ t
  · exact htimed.enqueueTurn hlast hpushed hlevelOf
  · exact htimedTurns.enqueue htimed.queues hlevelOf
  · rw [enqueue_eq]
    show raised _ _ = _
    rw [htimedTop, hpurgedTop, announce_eq]
    show raised q.topActivePrioLevel _ = _
    rw [h.top]
    refine raised_best ?_ fun l hl => ?_
    · rw [has_push]
      simp
    rw [has_push, has_purge_of_ne t hl]
    simp [Ne.symm hl]
  · rw [enqueue_eq]
    show (((q.announce t p).purgeOldPacketsAtPriorityLevel (L.levelOf p)
      t).updateAverageQueueTime t).nextHandle = _
    rw [htimedHandle, hsame.handle, announce_eq, pushed_push]
    show q.nextHandle + 1 = _
    rw [h.handle]

/-! ## RemovePacketsForSsrc -/

lemma Accounts.dequeueAll (es : List LedgerEntry) :
    ∀ (q : PrioritizedPacketQueue) (L : Ledger), Accounts q L [] → Agrees q L → L.Ordered →
      (∀ e ∈ es, e ∈ L.entries) → es.Nodup →
      Accounts (q.dequeueAllInternal (es.map queued)) (L.keep fun e => decide (e ∉ es)) [] := by
  induction es with
  | nil =>
    intro q L h _ _ _ _
    rw [keep_eq_self (by simp)]
    exact h
  | cons e es ih =>
    intro q L h hagr hord hmem hnd
    rw [nodup_cons] at hnd
    obtain ⟨he, hmem⟩ := forall_mem_cons.mp hmem
    have hfirst := h.dequeue hagr hord he
    have hmem' : ∀ x ∈ es, x ∈ (L.keep fun e' => decide (e'.handle ≠ e.handle)).entries := by
      intro x hx
      have hxmem := hmem x hx
      refine mem_filter.mpr ⟨hxmem, decide_eq_true fun heq => ?_⟩
      obtain rfl := hord.eq_of_handle hxmem he heq
      exact hnd.1 hx
    have hrest := ih _ _ hfirst (hagr.keep _ |>.of_same ⟨rfl, rfl, rfl, rfl, rfl, rfl⟩)
      (hord.keep _) hmem' hnd.2
    rw [keep_keep] at hrest
    refine (congrArg (Accounts _ · []) (keep_congr fun x hx => ?_)).mp hrest
    have hiff : x.handle = e.handle ↔ x = e :=
      ⟨hord.eq_of_handle hx he, fun heq => heq ▸ rfl⟩
    simp [hiff]

lemma Accounts.dequeueLevel (h : Accounts q L []) (hagr : Agrees q L) (hord : L.Ordered)
    (ssrc : Ssrc) (level : PrioLevel) :
    Accounts (q.dequeueAllInternal ((L.entriesOf ssrc level).map queued))
      (L.keep fun e => !e.ofStream ssrc level) [] := by
  have hnd : (L.entriesOf ssrc level).Nodup :=
    (hord.entriesOf ssrc level).1.imp fun hlt heq => absurd (heq ▸ hlt) (lt_irrefl _)
  have hall := Accounts.dequeueAll (L.entriesOf ssrc level) q L h hagr hord
    (fun e he => mem_of_mem_filter he) hnd
  refine (congrArg (Accounts _ · []) (keep_congr fun e he => ?_)).mp hall
  have hiff : e ∈ L.entriesOf ssrc level ↔ e.ofStream ssrc level = true :=
    ⟨fun hmem => (mem_filter.mp hmem).2, fun hof => mem_filter.mpr ⟨he, hof⟩⟩
  simp [hiff]

lemma leave_list {ssrcs : List Ssrc} (h : ssrc ∈ ssrcs) :
    (if ssrcs.length = 1 then ssrcs.tail else ssrcs.filter fun x => x ≠ ssrc)
      = ssrcs.filter fun x => x ≠ ssrc := by
  split
  · next hone =>
    obtain ⟨x, rfl⟩ := length_eq_one_iff.mp hone
    obtain rfl := mem_singleton.mp h
    simp
  · rfl

lemma removeLevel_spec {packets : PrioLevel → List QueuedPacket}
    (levels : List PrioLevel) (h : Accounts q L []) (hagr : Agrees q L) (hord : L.Ordered)
    (hpkts : packets level = (L.entriesOf ssrc level).map queued)
    (hmem : ssrc ∈ q.streamsByPrio level ↔ L.entriesOf ssrc level ≠ []) :
    ∃ q', removeAtLevels ssrc packets (level :: levels) q = removeAtLevels ssrc packets levels q' ∧
      Accounts q' (L.keep fun e => !e.ofStream ssrc level) [] ∧ Same q q' ∧ q'.streams = q.streams ∧
      q'.topActivePrioLevel = q.topActivePrioLevel ∧ q'.streamsByPrio =
        Function.update q.streamsByPrio level ((q.streamsByPrio level).filter fun x => x ≠ ssrc) := by
  rw [removeAtLevels]
  by_cases hemp : L.entriesOf ssrc level = []
  · -- Nothing at this level: the stream is not in its list either.
    have hlist : ((q.streamsByPrio level).filter fun x => x ≠ ssrc) = q.streamsByPrio level := by
      refine filter_eq_self.mpr fun x hx => decide_eq_true ?_
      rintro rfl
      exact hmem.mp hx hemp
    rw [if_pos (by rw [hpkts, hemp]; rfl), hlist, update_eq_self, keep_eq_self]
    · exact ⟨q, rfl, h, .refl q, rfl, rfl, rfl⟩
    intro e he
    rw [Bool.not_eq_true', ← Bool.not_eq_true]
    exact fun hof => ne_nil_of_mem (mem_filter.mpr ⟨he, hof⟩) hemp
  rw [if_neg (by rw [hpkts]; simpa using hemp), hpkts]
  dsimp only
  obtain ⟨hsame, hstrs, -, hlst, htop⟩ := dequeueAllInternal_same
    ((L.entriesOf ssrc level).map queued) q
  have hacc := h.dequeueLevel hagr hord ssrc level
  rw [hlst, leave_list (hmem.mpr hemp)]
  refine ⟨_, rfl, ⟨hacc.size, hacc.perType, hacc.payload, hacc.queueTime, hacc.enqueueTimes,
    hacc.pendingNew⟩, hsame.trans ⟨rfl, rfl, rfl, rfl, rfl, rfl⟩, hstrs, htop, ?_⟩
  rw [← hlst]
  rfl

lemma removeAtLevels_spec (ssrc : Ssrc) (packets : PrioLevel → List QueuedPacket)
    (levels : List PrioLevel) :
    ∀ (q : PrioritizedPacketQueue) (L : Ledger), Accounts q L [] → Agrees q L → L.Ordered →
      levels.Nodup →
      (∀ l ∈ levels, packets l = (L.entriesOf ssrc l).map queued ∧
        (ssrc ∈ q.streamsByPrio l ↔ L.entriesOf ssrc l ≠ [])) →
      Accounts (removeAtLevels ssrc packets levels q)
          (L.keep fun e => !(decide (e.packet.ssrc = ssrc) && decide (e.level ∈ levels))) [] ∧
        Same q (removeAtLevels ssrc packets levels q) ∧
        (removeAtLevels ssrc packets levels q).streams = q.streams ∧
        (removeAtLevels ssrc packets levels q).topActivePrioLevel = q.topActivePrioLevel ∧
        ∀ l, (removeAtLevels ssrc packets levels q).streamsByPrio l =
          if l ∈ levels then (q.streamsByPrio l).filter fun x => x ≠ ssrc
          else q.streamsByPrio l := by
  induction levels with
  | nil =>
    intro q L h _ _ _ _
    rw [keep_eq_self (by simp)]
    exact ⟨h, .refl q, rfl, rfl, fun l => by simp [removeAtLevels]⟩
  | cons level levels ih =>
    intro q L h hagr hord hnd hlevels
    rw [nodup_cons] at hnd
    obtain ⟨hpkts, hmem⟩ := hlevels level mem_cons_self
    obtain ⟨q', heq, hacc', hsame', hstrs', htop', hlst'⟩ :=
      removeLevel_spec levels h hagr hord hpkts hmem
    obtain ⟨hacc, hsame, hstrs, htop, hlst⟩ := ih q' (L.keep fun e => !e.ofStream ssrc level) hacc'
      ((hagr.keep _).of_same hsame') (hord.keep _) hnd.2 (by
        intro l hl
        have hne : l ≠ level := fun heq => hnd.1 (heq ▸ hl)
        have hof : (L.keep fun e => !e.ofStream ssrc level).entriesOf ssrc l = L.entriesOf ssrc l := by
          rw [entriesOf_keep]
          refine filter_eq_self.mpr fun e he => ?_
          simp [ofStream, (mem_entriesOf.mp he).2.2, hne]
        rw [hof, hlst', update_of_ne hne]
        exact hlevels l (mem_cons_of_mem _ hl))
    rw [keep_keep] at hacc
    rw [heq]
    refine ⟨(congrArg (Accounts _ · []) (keep_congr fun e _ => ?_)).mp hacc, hsame'.trans hsame,
      hstrs.trans hstrs', htop.trans htop', fun l => ?_⟩
    · by_cases hs : e.packet.ssrc = ssrc <;> simp [ofStream, hs]
    rw [hlst, hlst']
    by_cases hl : l = level
    · subst hl
      rw [if_neg hnd.1, if_pos mem_cons_self, update_self]
    rw [update_of_ne hl]
    simp [hl]

lemma Mirrors.remove (h : Mirrors q L) (ssrc : Ssrc) :
    Mirrors (q.removePacketsForSsrc ssrc) (L.remove ssrc) := by
  have hbet : ∀ p : LedgerEntry → Bool, Better q.topActivePrioLevel (L.keep p) := by
    intro p level hlvl l hl
    rw [h.top] at hlvl
    exact has_keep ((best_eq_some.mp hlvl).2 l hl)
  unfold removePacketsForSsrc Ledger.remove
  rw [← h.top]
  cases hfind : q.streams.find? ssrc with
  | none =>
    -- There are no packets of the stream in the ledger.
    have hkeep : (L.keep fun e => decide (e.packet.ssrc ≠ ssrc)) = L := by
      refine keep_eq_self fun e he => decide_eq_true fun hs => ?_
      have hne := ne_nil_of_mem (mem_entriesOf.mpr ⟨he, hs, rfl⟩ : e ∈ L.entriesOf ssrc e.level)
      have hpkts := h.rep.queues ssrc e.level
      rw [packets_of_find?_eq_none hfind, eq_comm, map_eq_nil_iff] at hpkts
      exact hne hpkts
    have hself := hbet fun e => decide (e.packet.ssrc ≠ ssrc)
    rw [hkeep] at hself ⊢
    exact maybeUpdateTopPrioLevel_mirrors h.rep h.turns hself h.handle
  | some s =>
    have hstr : q.stream ssrc = s := by rw [stream, hfind, Option.getD_some]
    obtain ⟨hacc, hsame, hstrs, htop, hlst⟩ := removeAtLevels_spec ssrc s.packets (finRange 5)
      (q.setStream ssrc { s with packets := fun _ => [], numKeyframePackets := 0 }) L
      ⟨h.rep.accounts.size, h.rep.accounts.perType, h.rep.accounts.payload,
        h.rep.accounts.queueTime, h.rep.accounts.enqueueTimes, h.rep.accounts.pendingNew⟩
      (h.rep.agrees.of_same ⟨rfl, rfl, rfl, rfl, rfl, rfl⟩) h.rep.ordered (nodup_finRange 5)
      fun l _ => ⟨hstr ▸ h.rep.queues ssrc l, h.turns.mem l ssrc⟩
    have hcongr : (L.keep fun e => !(decide (e.packet.ssrc = ssrc) &&
        decide (e.level ∈ finRange 5))) = L.keep fun e => decide (e.packet.ssrc ≠ ssrc) := by
      refine keep_congr fun e _ => ?_
      simp
    rw [hcongr] at hacc
    have hof : ∀ x l, (L.keep fun e => decide (e.packet.ssrc ≠ ssrc)).entriesOf x l =
        if x = ssrc then [] else L.entriesOf x l := by
      intro x l
      rw [entriesOf_keep]
      split
      · next hx =>
        refine filter_eq_nil_iff.mpr fun e he => ?_
        simp [(mem_entriesOf.mp he).2.1, hx]
      next hx =>
      refine filter_eq_self.mpr fun e he => ?_
      simp [(mem_entriesOf.mp he).2.1, hx]
    rw [show q.topActivePrioLevel = _ from htop.symm]
    refine maybeUpdateTopPrioLevel_mirrors ⟨?_, hacc, ?_, h.rep.ordered.keep _⟩ ?_ ?_ ?_
    · intro x l
      rw [stream, hstrs, ← stream, stream_setStream, hof]
      split
      · rfl
      · exact h.rep.queues x l
    · have hset : Same q (q.setStream ssrc
      { s with packets := fun _ => [], numKeyframePackets := 0 }) :=
        ⟨rfl, rfl, rfl, rfl, rfl, rfl⟩
      exact (h.rep.agrees.keep _).of_same (hset.trans hsame)
    · refine h.turns.filter fun l => ?_
      rw [hlst, if_pos (mem_finRange l)]
      refine filter_congr fun x hx => ?_
      have hne := (h.turns.mem l x).mp hx
      rw [hof]
      split
      · next heq => simp [heq]
      · next heq => simpa [heq] using hne
    · rw [htop]
      exact hbet _
    · exact hsame.handle.trans h.handle

end PrioritizedPacketQueue

end WebRtc.Pacing
