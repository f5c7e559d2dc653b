import WebRtc.Pacing.QueueCalls

/-!
# WebRTC — how long a packet lives in the pacer's queue

The age of a packet is measured from the enqueue time that is stored with it, and what is stored is
the time of the push *minus* the time for which the queue had been paused until then. So a packet
that is pushed after pauses of a second starts its life a second old. Without pauses before a push
every packet that was purged had lived longer than it was allowed to (`Lived`).
-/

namespace WebRtc.Pacing

open Lib List

namespace PrioritizedPacketQueue

variable {q : PrioritizedPacketQueue}

/-! ## The invariant -/

def Timed (pushes : List Int) (p : QueuedPacket) : Prop :=
  pushes[p.handle]? = some p.enqueueTime

def Lived (ttl : PrioLevel → Option Int) (pushes : List Int) (d : DroppedPacket) : Prop :=
  ∃ pushed limit, pushes[d.packet.handle]? = some pushed ∧ ttl d.level = some limit ∧
    limit < d.now - pushed

/-- The invariant of a run; `pushes` are the times of the pushes so far. -/
structure LivesOut (pushes : List Int) (q : PrioritizedPacketQueue) : Prop where
  queued : ∀ ssrc level, q.timeToLivePerPrio level ≠ none →
    ∀ p ∈ (q.stream ssrc).packets level, Timed pushes p
  dropped : ∀ d ∈ q.dropped, Lived q.timeToLivePerPrio pushes d
  handle : q.nextHandle = pushes.length

variable {pushes : List Int}

lemma LivesOut.of_eq {q' : PrioritizedPacketQueue} (h : LivesOut pushes q)
    (hstr : ∀ ssrc level, (q'.stream ssrc).packets level = (q.stream ssrc).packets level)
    (hdrop : q'.dropped = q.dropped) (httl : q'.timeToLivePerPrio = q.timeToLivePerPrio)
    (hhndl : q'.nextHandle = q.nextHandle) : LivesOut pushes q' where
  queued := fun ssrc level hlvl p hp =>
    h.queued ssrc level (httl ▸ hlvl) p (hstr ssrc level ▸ hp)
  dropped := by
    rw [hdrop, httl]
    exact h.dropped
  handle := hhndl.trans h.handle

lemma LivesOut.dequeueFront (h : LivesOut pushes q) (ssrc : Ssrc)
    (level : PrioLevel) (p : QueuedPacket) : LivesOut pushes (q.dequeueFront ssrc level p) where
  queued := by
    intro ssrc' level' hlvl p' hp'
    rw [packets_dequeueFront] at hp'
    split at hp'
    · exact h.queued ssrc' level' hlvl p' (mem_of_mem_tail hp')
    · exact h.queued ssrc' level' hlvl p' hp'
  dropped := h.dropped
  handle := h.handle

variable {level : PrioLevel} {now ttl : Int}

lemma purgeStream_livesOut {ssrc : Ssrc} (ps : List QueuedPacket) :
    ∀ q : PrioritizedPacketQueue, LivesOut pushes q → q.timeToLivePerPrio level = some ttl →
      (∀ p ∈ ps, Timed pushes p) → LivesOut pushes (purgeStream level now ttl ssrc ps q) := by
  induction ps with
  | nil =>
    intro q h _ _
    exact h
  | cons p ps ih =>
    intro q h httl hps
    rw [purgeStream]
    split
    · next hold =>
      obtain ⟨hp, hps⟩ := forall_mem_cons.mp hps
      have hnext := h.dequeueFront ssrc level p
      refine ih _ ⟨hnext.queued, ?_, hnext.handle⟩ httl hps
      exact forall_mem_append.mpr
        ⟨h.dropped, forall_mem_singleton.mpr ⟨p.enqueueTime, ttl, hp, httl, hold⟩⟩
    · exact h

lemma purgeStreams_livesOut (ssrcs : List Ssrc) :
    ∀ q : PrioritizedPacketQueue, LivesOut pushes q → q.timeToLivePerPrio level = some ttl →
      LivesOut pushes (purgeStreams level now ttl ssrcs q).2 := by
  induction ssrcs with
  | nil =>
    intro q h _
    exact h
  | cons ssrc ssrcs ih =>
    intro q h httl
    refine ih _ (purgeStream_livesOut _ q h httl (h.queued ssrc level (by simp [httl]))) ?_
    rw [(purgeStream_same level now ttl ssrc _ q).1.ttl]
    exact httl

lemma LivesOut.purge (h : LivesOut pushes q) (level : PrioLevel)
    (now : Int) : LivesOut pushes (q.purgeOldPacketsAtPriorityLevel level now) := by
  unfold purgeOldPacketsAtPriorityLevel
  split
  · exact h
  next ttl httl =>
  exact (purgeStreams_livesOut _ q h httl).of_eq (fun _ _ => rfl) rfl rfl rfl

lemma findTopPrioLevel_livesOut (levels : List PrioLevel) :
    ∀ q : PrioritizedPacketQueue, LivesOut pushes q → LivesOut pushes (findTopPrioLevel levels q) := by
  induction levels with
  | nil =>
    intro q h
    exact h
  | cons level levels ih =>
    intro q h
    rw [findTopPrioLevel]
    have h' := h.purge level q.lastUpdateTime
    split
    · exact h'.of_eq (fun _ _ => rfl) rfl rfl rfl
    · exact ih _ h'

lemma LivesOut.maybeUpdateTopPrioLevel (h : LivesOut pushes q) :
    LivesOut pushes q.maybeUpdateTopPrioLevel := by
  have hsearch : LivesOut pushes (maybeUpdateTopPrioLevel.search q) := by
    unfold maybeUpdateTopPrioLevel.search
    have h' := findTopPrioLevel_livesOut (finRange 5) q h
    dsimp only
    split
    · exact h'.of_eq (fun _ _ => rfl) rfl rfl rfl
    · exact h'
  unfold PrioritizedPacketQueue.maybeUpdateTopPrioLevel
  split
  · split
    · exact h
    · exact hsearch
  · exact hsearch

lemma LivesOut.updateAverageQueueTime (h : LivesOut pushes q) (now : Int) :
    LivesOut pushes (q.updateAverageQueueTime now) := by
  unfold PrioritizedPacketQueue.updateAverageQueueTime
  split
  · exact h
  · split <;> exact h.of_eq (fun _ _ => rfl) rfl rfl rfl

lemma LivesOut.pop (h : LivesOut pushes q) : LivesOut pushes q.pop.2 := by
  unfold PrioritizedPacketQueue.pop
  split
  · exact h
  split
  · exact h
  next top _ =>
  split
  · exact h
  next ssrc rest _ =>
  split
  · exact h
  next p ps _ =>
  have h' := h.dequeueFront ssrc top p
  dsimp only
  split
  · exact h'.of_eq (fun _ _ => rfl) rfl rfl rfl
  have hlist : LivesOut pushes ((q.dequeueFront ssrc top p).setStreamsByPrio top rest) :=
    h'.of_eq (fun _ _ => rfl) rfl rfl rfl
  exact hlist.maybeUpdateTopPrioLevel

lemma removeAtLevels_livesOut (ssrc : Ssrc)
    (packets : PrioLevel → List QueuedPacket) (levels : List PrioLevel) :
    ∀ q : PrioritizedPacketQueue, LivesOut pushes q →
      LivesOut pushes (removeAtLevels ssrc packets levels q) := by
  induction levels with
  | nil =>
    intro q h
    exact h
  | cons level levels ih =>
    intro q h
    rw [removeAtLevels]
    split
    · exact ih q h
    obtain ⟨hsame, hstrs, hdrop, -⟩ := dequeueAllInternal_same (packets level) q
    refine ih _ (h.of_eq ?_ hdrop hsame.ttl hsame.handle)
    intro ssrc' level'
    show (((q.dequeueAllInternal (packets level)).streams.find? ssrc').getD _).packets level' = _
    rw [hstrs]
    rfl

lemma LivesOut.removePacketsForSsrc (h : LivesOut pushes q) (ssrc : Ssrc) :
    LivesOut pushes (q.removePacketsForSsrc ssrc) := by
  refine LivesOut.maybeUpdateTopPrioLevel ?_
  split
  · exact h
  refine removeAtLevels_livesOut _ _ _ _ ⟨?_, h.dropped, h.handle⟩
  intro ssrc' level hlvl p hp
  rw [stream_setStream] at hp
  split at hp
  · cases hp
  · exact h.queued ssrc' level hlvl p hp

def PauseFree (q : PrioritizedPacketQueue) (t : Int) : Prop :=
  q.pauseTimeSum = 0 ∧ (q.paused = true → t = q.lastUpdateTime)

lemma pauseTimeSum_update {t : Int} (h : q.PauseFree t) :
    (q.updateAverageQueueTime t).pauseTimeSum = 0 := by
  unfold updateAverageQueueTime
  split
  · exact h.1
  next hne =>
  split
  · next hpau => exact absurd (h.2 hpau) hne
  · exact h.1

lemma Timed.append {p : QueuedPacket} (h : Timed pushes p) (t : Int) :
    Timed (pushes ++ [t]) p := by
  unfold Timed at h ⊢
  rw [getElem?_append_left (List.getElem?_eq_some_iff.mp h).1]
  exact h

lemma Lived.append {ttl : PrioLevel → Option Int} {d : DroppedPacket}
    (h : Lived ttl pushes d) (t : Int) : Lived ttl (pushes ++ [t]) d := by
  obtain ⟨pushed, limit, hpushed, hlim, hlt⟩ := h
  refine ⟨pushed, limit, ?_, hlim, hlt⟩
  rw [getElem?_append_left (List.getElem?_eq_some_iff.mp hpushed).1]
  exact hpushed

lemma enqueue_same (q : PrioritizedPacketQueue) (t : Int) (p : RtpPacketToSend)
    (level : PrioLevel) (handle : Nat) :
    (q.enqueue t p level handle).dropped = q.dropped ∧
      (q.enqueue t p level handle).timeToLivePerPrio = q.timeToLivePerPrio ∧
      (q.enqueue t p level handle).nextHandle = q.nextHandle := by
  unfold enqueue
  rw [raiseTopPrioLevel_eq]
  split <;> exact ⟨rfl, rfl, rfl⟩

lemma cull_same (q : PrioritizedPacketQueue) (t : Int) :
    (q.cull t).dropped = q.dropped ∧ (q.cull t).timeToLivePerPrio = q.timeToLivePerPrio ∧
      (q.cull t).nextHandle = q.nextHandle := by
  unfold cull
  split <;> exact ⟨rfl, rfl, rfl⟩

lemma LivesOut.push (h : LivesOut pushes q) {t : Int} {p : RtpPacketToSend}
    (hok : q.PauseFree t ∨ q.timeToLivePerPrio (q.prioLevel p) = none) :
    LivesOut (pushes ++ [t]) (q.push t p) := by
  rw [push_eq]
  have heq := q.announce_eq t p
  have hannounced : LivesOut (pushes ++ [t]) (q.announce t p) := by
    refine ⟨?_, ?_, ?_⟩
    · intro ssrc level hlvl p' hp'
      rw [packets_announce] at hp'
      rw [heq] at hlvl
      exact (h.queued ssrc level hlvl p' hp').append t
    · rw [heq]
      exact fun d hd => (h.dropped d hd).append t
    · rw [heq, length_append, length_singleton, ← h.handle]
  have hupd := (hannounced.purge (q.prioLevel p) t).updateAverageQueueTime t
  obtain ⟨hsame, -⟩ := purge_same (q.announce t p) (q.prioLevel p) t
  -- The clock is that of the queue before, so the pause time at the push is, too.
  have hpse : ((q.announce t p).purgeOldPacketsAtPriorityLevel (q.prioLevel p) t).PauseFree t ∨
      q.timeToLivePerPrio (q.prioLevel p) = none := by
    refine hok.imp_left ?_
    rintro ⟨hsum, hpau⟩
    refine ⟨?_, ?_⟩
    · rw [hsame.pauseTime, heq]
      exact hsum
    rw [hsame.paused, hsame.lastUpdate, heq]
    exact hpau
  have httl : ((q.announce t p).purgeOldPacketsAtPriorityLevel (q.prioLevel p) t).timeToLivePerPrio
      = q.timeToLivePerPrio := by
    rw [hsame.ttl, heq]
  generalize (q.announce t p).purgeOldPacketsAtPriorityLevel (q.prioLevel p) t = q1
    at hupd hpse httl
  have httl' : (q1.updateAverageQueueTime t).timeToLivePerPrio = q.timeToLivePerPrio := by
    rw [← httl]
    unfold PrioritizedPacketQueue.updateAverageQueueTime
    split
    · rfl
    dsimp only
    split <;> rfl
  have hzero : (q1.updateAverageQueueTime t).pauseTimeSum = 0 ∨
      q.timeToLivePerPrio (q.prioLevel p) = none := hpse.imp_left pauseTimeSum_update
  generalize q1.updateAverageQueueTime t = q2 at hupd httl' hzero
  obtain ⟨hdrop, httl'', hhndl⟩ := enqueue_same q2 t p (q.prioLevel p) q.nextHandle
  refine LivesOut.of_eq (q := q2.enqueue t p (q.prioLevel p) q.nextHandle) ?_
    (fun ssrc level => packets_cull _ t ssrc level) (cull_same _ t).1 (cull_same _ t).2.1
    (cull_same _ t).2.2
  refine ⟨?_, ?_, ?_⟩
  · intro ssrc level hlvl p' hp'
    rw [httl''] at hlvl
    rw [packets_enqueue] at hp'
    split at hp'
    · next hat =>
      rcases mem_append.mp hp' with hp' | hp'
      · exact hupd.queued ssrc level hlvl p' hp'
      rw [mem_singleton.mp hp']
      rw [httl', hat.2] at hlvl
      rcases hzero with hzero | hnone
      · unfold Timed
        rw [hzero, sub_zero, h.handle]
        simp
      · exact absurd hnone hlvl
    · exact hupd.queued ssrc level hlvl p' hp'
  · rw [hdrop, httl'']
    exact hupd.dropped
  · rw [hhndl]
    exact hupd.handle

/-! ## Runs -/

structure Clocked where
  queue : PrioritizedPacketQueue
  pushes : List Int

def Clocked.step (c : Clocked) (op : Operation) : Clocked where
  queue := c.queue.perform op
  pushes :=
    match op with
    | .push t _ => c.pushes ++ [t]
    | _ => c.pushes

/-- The call does not go back in time, and a packet with a limited life is not
pushed after the queue has been paused. -/
def Clocked.Unpaused (c : Clocked) (op : Operation) : Prop :=
  c.queue.Timely op ∧
    match op with
    | .push t p =>
      c.queue.PauseFree t ∨ c.queue.timeToLivePerPrio (c.queue.prioLevel p) = none
    | _ => True

lemma Clocked.step_livesOut {c : Clocked} {op : Operation} (h : LivesOut c.pushes c.queue)
    (hok : c.Unpaused op) : LivesOut (c.step op).pushes (c.step op).queue := by
  cases op with
  | push t p => exact h.push hok.2
  | pop => exact h.pop
  | setPauseState paused t =>
    exact (h.updateAverageQueueTime t).of_eq (fun _ _ => rfl) rfl rfl rfl
  | updateAverageQueueTime t => exact h.updateAverageQueueTime t
  | removePacketsForSsrc ssrc => exact h.removePacketsForSsrc ssrc

/-- In every run without a push after a pause, a packet is purged only after
it has been in the queue for longer than the time to live of its level. -/
theorem purged_only_when_too_old (creationTime : Int) (prioritize : Bool) (ttl : PacketQueueTTL)
    {ops : List Operation}
    (hops : Along Clocked.step Clocked.Unpaused ⟨new creationTime prioritize ttl, []⟩ ops) :
    ∀ d ∈ (run Clocked.step ⟨new creationTime prioritize ttl, []⟩ ops).queue.dropped,
      Lived (run Clocked.step ⟨new creationTime prioritize ttl, []⟩ ops).queue.timeToLivePerPrio
        (run Clocked.step ⟨new creationTime prioritize ttl, []⟩ ops).pushes d := by
  have hstart : LivesOut [] (new creationTime prioritize ttl) := by
    refine ⟨?_, ?_, rfl⟩
    · intro ssrc level _ p hp
      cases hp
    intro d hd
    cases hd
  exact (run_induction_along (P := fun c : Clocked => LivesOut c.pushes c.queue)
    (fun c op hc hok => Clocked.step_livesOut hc hok) ops _ hstart hops).dropped

def videoPacket (sequenceNumber : BitVec 16) : RtpPacketToSend :=
  { ssrc := 1, sequenceNumber, packetType := .video, payloadSize := 1000 }

/-- A packet is pushed at 0 and one at 501, when the time to live is 500. -/
theorem purged_only_when_too_old_after_501 :
    ∃ c, (run Clocked.step ⟨new 0 false { video := some 500 }, []⟩
        [.push 0 (videoPacket 1), .push 501 (videoPacket 2)]) = c ∧
      c.queue.dropped.map (fun d => (d.packet.handle, d.now)) = [(0, 501)] ∧
      ∀ d ∈ c.queue.dropped, Lived c.queue.timeToLivePerPrio c.pushes d := by
  refine ⟨_, rfl, by decide +kernel, purged_only_when_too_old 0 false { video := some 500 } ?_⟩
  refine ⟨⟨?_, .inl ⟨rfl, ?_⟩⟩, ⟨?_, .inl ⟨?_, ?_⟩⟩, trivial⟩
  · intro t ht
    cases ht
    decide
  · intro h
    cases h
  · intro t ht
    cases ht
    decide +kernel
  · decide +kernel
  · intro h
    exact absurd h (by decide +kernel)

/-- The queue is paused from 0 to 1000. A packet that is pushed at 1000 is
purged by the push at 1001, at the age of 1, when the time to live is 500. -/
theorem pause_shortens_life : ∃ c, c = run Clocked.step ⟨new 0 false { video := some 500 }, []⟩
      [.setPauseState true 0, .setPauseState false 1000, .push 1000 (videoPacket 1),
        .push 1001 (videoPacket 2)] ∧
    ∃ d ∈ c.queue.dropped, ¬ Lived c.queue.timeToLivePerPrio c.pushes d := by
  refine ⟨_, rfl, ?_⟩
  generalize hc : run Clocked.step _ _ = c
  have hdropped : c.queue.dropped.map (fun d => (c.pushes[d.packet.handle]?,
      c.queue.timeToLivePerPrio d.level, d.now)) = [(some 1000, some 500, 1001)] := by
    rw [← hc]
    decide +kernel
  obtain ⟨d, hd, hvalues⟩ := map_eq_singleton_iff.mp hdropped
  refine ⟨d, hd ▸ mem_cons_self, ?_⟩
  rintro ⟨pushed, limit, hpushed, hlimit, hold⟩
  simp only [hpushed, hlimit, Prod.mk.injEq, Option.some.injEq] at hvalues
  omega

end PrioritizedPacketQueue

end WebRtc.Pacing
