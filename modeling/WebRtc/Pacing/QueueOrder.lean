import WebRtc.Pacing.QueueAccounts

/-!
# WebRTC — the order of the pacer's queue

The round-robin lists are the streams that have packets at the level, by the time for which they
have waited (`Turns`), and the cached top level is the best level that has packets. Together with
the accounts this is `Mirrors`. Between the parts of a call only `Better` is left of it.
-/

namespace WebRtc.Pacing

open Lib Ledger List LedgerEntry

namespace PrioritizedPacketQueue

structure Turns (q : PrioritizedPacketQueue) (L : Ledger) : Prop where
  sorted : ∀ level, (q.streamsByPrio level).Pairwise fun a b => L.stamp level a < L.stamp level b
  mem : ∀ level ssrc, ssrc ∈ q.streamsByPrio level ↔ L.entriesOf ssrc level ≠ []
  past : ∀ level, ∀ ssrc ∈ q.streamsByPrio level, L.stamp level ssrc < L.clock

/-- No level above the cached top level has packets. -/
def Better (top : Option PrioLevel) (L : Ledger) : Prop :=
  ∀ level, top = some level → ∀ l < level, L.has l = false

variable {q : PrioritizedPacketQueue} {L : Ledger} {pending : List (Nat × Int)}

lemma Turns.has (h : Turns q L) (level : PrioLevel) :
    q.streamsByPrio level ≠ [] ↔ L.has level = true := by
  rw [has_iff]
  constructor
  · intro hne
    obtain ⟨ssrc, hmem⟩ := exists_mem_of_ne_nil _ hne
    exact ⟨ssrc, (h.mem level ssrc).mp hmem⟩
  · rintro ⟨ssrc, hne⟩
    exact ne_nil_of_mem ((h.mem level ssrc).mpr hne)

lemma Turns.nodup (h : Turns q L) (level : PrioLevel) : (q.streamsByPrio level).Nodup :=
  (h.sorted level).imp fun hlt heq => absurd (heq ▸ hlt) (lt_irrefl _)

variable {q' : PrioritizedPacketQueue}

lemma Turns.filter {p : LedgerEntry → Bool} (h : Turns q L)
    (hlist : ∀ level, (q'.streamsByPrio level) = (q.streamsByPrio level).filter fun ssrc =>
      !((L.keep p).entriesOf ssrc level).isEmpty) : Turns q' (L.keep p) where
  sorted := fun level => hlist level ▸ (h.sorted level).sublist filter_sublist
  mem := by
    intro level ssrc
    rw [hlist, mem_filter, h.mem]
    constructor
    · rintro ⟨-, hne⟩
      simpa using hne
    intro hne
    refine ⟨?_, by simpa using hne⟩
    rw [entriesOf_keep] at hne
    intro hnil
    rw [hnil] at hne
    exact hne rfl
  past := by
    intro level ssrc hmem
    rw [hlist] at hmem
    exact h.past level ssrc (mem_of_mem_filter hmem)

/-! ## Purging -/

lemma Represents.of_lists (h : Represents q L pending) (heq : q' = { q with
      streamsByPrio := q'.streamsByPrio, topActivePrioLevel := q'.topActivePrioLevel }) :
    Represents q' L pending := by
  rw [heq]
  exact ⟨h.queues, ⟨h.accounts.size, h.accounts.perType, h.accounts.payload,
    h.accounts.queueTime, h.accounts.enqueueTimes, h.accounts.pendingNew⟩,
    h.agrees.of_same ⟨rfl, rfl, rfl, rfl, rfl, rfl⟩, h.ordered⟩

/-- `PurgeOldPacketsAtPriorityLevel` drops the packets of the level that are too
old, and the streams that have none left. -/
lemma purge_represents (h : Represents q L pending) (ht : Turns q L) (level : PrioLevel)
    (now : Int) :
    Represents (q.purgeOldPacketsAtPriorityLevel level now) (L.purge level now) pending ∧
      Turns (q.purgeOldPacketsAtPriorityLevel level now) (L.purge level now) := by
  unfold purgeOldPacketsAtPriorityLevel
  cases hlim : q.timeToLivePerPrio level with
  | none =>
    rw [h.agrees.ttl] at hlim
    have hkeep : L.purge level now = L := by
      refine keep_eq_self fun e _ => ?_
      by_cases hl : e.level = level
      · simp [tooOld, hl, hlim]
      · simp [hl]
    rw [hkeep]
    exact ⟨h, ht⟩
  | some limit =>
    rw [h.agrees.ttl] at hlim
    obtain ⟨hpurged, hlist⟩ := purgeStreams_represents level now limit (q.streamsByPrio level) q L h
      (ht.nodup level)
    obtain ⟨-, hlst, -⟩ := purgeStreams_same level now limit (q.streamsByPrio level) q
    have hledger : (L.keep fun e => !(decide (e.packet.ssrc ∈ q.streamsByPrio level) &&
        expired e.packet.ssrc level now limit e)) = L.purge level now := by
      refine keep_congr fun e he => ?_
      by_cases hl : e.level = level
      · have hmem : e.packet.ssrc ∈ q.streamsByPrio level :=
          (ht.mem level _).mpr (ne_nil_of_mem (mem_entriesOf.mpr ⟨he, rfl, hl⟩))
        simp [hmem, expired, ofStream, hl, tooOld, hlim]
      · simp [expired, ofStream, hl]
    rw [hledger] at hpurged
    refine ⟨hpurged.of_lists rfl, ht.filter ?_⟩
    intro level'
    show Function.update (purgeStreams level now limit (q.streamsByPrio level) q).2.streamsByPrio
      level (purgeStreams level now limit (q.streamsByPrio level) q).1 level' = _
    by_cases hl : level' = level
    · subst hl
      rw [Function.update_self, hlist]
      refine filter_congr fun ssrc _ => ?_
      have hsame : (L.keep fun e => !expired ssrc level' now limit e).entriesOf ssrc level'
          = (L.purge level' now).entriesOf ssrc level' := by
        rw [purge, entriesOf_keep, entriesOf_keep]
        refine filter_congr fun e he => ?_
        obtain ⟨-, hs, hl⟩ := mem_entriesOf.mp he
        simp [expired, ofStream, hs, hl, tooOld, hlim]
      rw [hsame]
      rfl
    rw [Function.update_of_ne hl, hlst]
    symm
    refine filter_eq_self.mpr fun ssrc hmem => ?_
    have hsame : (L.purge level now).entriesOf ssrc level' = L.entriesOf ssrc level' := by
      rw [purge, entriesOf_keep]
      refine filter_eq_self.mpr fun e he => ?_
      obtain ⟨-, -, hl'⟩ := mem_entriesOf.mp he
      simp [hl', hl]
    have hne := (ht.mem level' ssrc).mp hmem
    show (!((L.purge level now).entriesOf ssrc level').isEmpty) = true
    rw [hsame]
    simpa using hne

/-! ## The top level -/

/-- The loop of `MaybeUpdateTopPrioLevel` settles the ledger and finds its best
level, where there is one. The levels in `before` have been passed. -/
lemma findTopPrioLevel_settles (levels : List PrioLevel) :
    ∀ (before : List PrioLevel) (q : PrioritizedPacketQueue) (L : Ledger),
      before ++ levels = finRange 5 → (∀ l ∈ before, L.has l = false) →
      Represents q L pending → Turns q L →
      Represents (findTopPrioLevel levels q) (settle levels L) pending ∧
        Turns (findTopPrioLevel levels q) (settle levels L) ∧
        Same q (findTopPrioLevel levels q) ∧
        ∀ best, (settle levels L).best = some best →
          (findTopPrioLevel levels q).topActivePrioLevel = some best := by
  induction levels with
  | nil =>
    intro before q L hall hbef h ht
    refine ⟨h, ht, .refl q, ?_⟩
    intro best hbest
    rw [append_nil] at hall
    have hhas := (best_eq_some.mp hbest).1
    rw [settle, hbef best (hall ▸ mem_finRange best)] at hhas
    cases hhas
  | cons level levels ih =>
    intro before q L hall hbef h ht
    obtain ⟨hrep, htrn⟩ := purge_represents h ht level q.lastUpdateTime
    obtain ⟨hsame, -⟩ := purge_same q level q.lastUpdateTime
    rw [findTopPrioLevel, settle]
    rw [h.agrees.lastUpdate] at hrep htrn hsame ⊢
    have hbef' : ∀ l ∈ before, (L.purge level L.lastUpdate).has l = false :=
      fun l hl => has_keep (hbef l hl)
    by_cases hhas : (L.purge level L.lastUpdate).has level = true
    · rw [if_pos ((htrn.has level).mpr hhas), if_pos hhas]
      refine ⟨hrep.of_lists rfl, ⟨htrn.sorted, htrn.mem, htrn.past⟩,
        hsame.trans ⟨rfl, rfl, rfl, rfl, rfl, rfl⟩, ?_⟩
      intro best hbest
      have hlvl : (L.purge level L.lastUpdate).best = some level := by
        refine best_eq_some.mpr ⟨hhas, ?_⟩
        intro l hl
        -- A better level stands before this one in the list of all levels.
        have hmem := mem_finRange l
        have hsort : (finRange 5).Pairwise (· < ·) := pairwise_lt_finRange 5
        rw [← hall] at hmem hsort
        rw [pairwise_append, pairwise_cons] at hsort
        rcases mem_append.mp hmem with hmem | hmem
        · exact hbef' l hmem
        rcases mem_cons.mp hmem with rfl | hmem
        · exact absurd hl (lt_irrefl _)
        · exact absurd hl (not_lt.mpr (hsort.2.1.1 l hmem).le)
      exact hlvl.symm.trans hbest
    · rw [if_neg fun hne => hhas ((htrn.has level).mp hne), if_neg hhas]
      obtain ⟨hrep', htrn', hsame', htop⟩ := ih (before ++ [level]) _ _ (by simpa using hall)
        (by
          refine forall_mem_append.mpr ⟨hbef', forall_mem_singleton.mpr ?_⟩
          simpa using hhas) hrep htrn
      exact ⟨hrep', htrn', hsame.trans hsame', htop⟩

lemma maybeUpdateTopPrioLevel_settles (h : Represents q L []) (ht : Turns q L)
    (hbet : Better q.topActivePrioLevel L) :
    Represents q.maybeUpdateTopPrioLevel (L.settleAfter q.topActivePrioLevel) [] ∧
      Turns q.maybeUpdateTopPrioLevel (L.settleAfter q.topActivePrioLevel) ∧
      Same q q.maybeUpdateTopPrioLevel ∧
      q.maybeUpdateTopPrioLevel.topActivePrioLevel
        = (L.settleAfter q.topActivePrioLevel).best := by
  obtain ⟨hrep, htrn, hsame, htop⟩ := findTopPrioLevel_settles (finRange 5) [] q L rfl
    (by simp) h ht
  have hsearch : Represents (maybeUpdateTopPrioLevel.search q)
    (settle (finRange 5) L) [] ∧
      Turns (maybeUpdateTopPrioLevel.search q) (settle (finRange 5) L) ∧
      Same q (maybeUpdateTopPrioLevel.search q) ∧
      (maybeUpdateTopPrioLevel.search q).topActivePrioLevel
        = (settle (finRange 5) L).best := by
    unfold maybeUpdateTopPrioLevel.search
    by_cases hemp : (settle (finRange 5) L).entries = []
    · have hzero : (findTopPrioLevel (finRange 5) q).sizePackets = 0 := by
        rw [hrep.accounts.size, hemp]
        rfl
      rw [if_pos hzero]
      exact ⟨hrep.of_lists rfl, ⟨htrn.sorted, htrn.mem, htrn.past⟩,
        hsame.trans ⟨rfl, rfl, rfl, rfl, rfl, rfl⟩, (best_eq_none.mpr hemp).symm⟩
    have hne : (findTopPrioLevel (finRange 5) q).sizePackets ≠ 0 := by
      rw [hrep.accounts.size]
      simpa using hemp
    rw [if_neg hne]
    refine ⟨hrep, htrn, hsame, ?_⟩
    cases hbest : (settle (finRange 5) L).best with
    | none => exact absurd (best_eq_none.mp hbest) hemp
    | some best => exact htop best hbest
  unfold maybeUpdateTopPrioLevel settleAfter
  cases hcached : q.topActivePrioLevel with
  | none => exact hsearch
  | some top =>
    dsimp only
    by_cases hhas : L.has top = true
    · rw [if_pos ((ht.has top).mpr hhas), if_pos hhas]
      refine ⟨h, ht, .refl q, ?_⟩
      rw [hcached]
      exact (best_eq_some.mpr ⟨hhas, hbet top hcached⟩).symm
    · rw [if_neg fun hne => hhas ((ht.has top).mp hne), if_neg hhas]
      exact hsearch

/-! ## The calls -/

structure Mirrors (q : PrioritizedPacketQueue) (L : Ledger) : Prop where
  rep : Represents q L []
  turns : Turns q L
  top : q.topActivePrioLevel = L.best
  handle : q.nextHandle = L.pushed

lemma Represents.startWaiting (h : Represents q L pending) (level : PrioLevel) (ssrc : Ssrc) :
    Represents q (L.startWaiting level ssrc) pending :=
  ⟨h.queues, ⟨h.accounts.size, h.accounts.perType, h.accounts.payload, h.accounts.queueTime,
    h.accounts.enqueueTimes, h.accounts.pendingNew⟩,
    ⟨h.agrees.prioritize, h.agrees.ttl, h.agrees.pauseTime, h.agrees.lastUpdate, h.agrees.paused⟩,
    ⟨h.ordered.handles, h.ordered.times, h.ordered.past⟩⟩

lemma stamp_startWaiting (level : PrioLevel) (ssrc : Ssrc) (level' : PrioLevel)
    (ssrc' : Ssrc) :
    (L.startWaiting level ssrc).stamp level' ssrc' =
      if level' = level ∧ ssrc' = ssrc then L.clock else L.stamp level' ssrc' := by
  unfold startWaiting
  by_cases hl : level' = level
  · subst hl
    by_cases hs : ssrc' = ssrc
    · subst hs
      simp
    · simp [hs]
  · simp [hl]

variable {rest : List Ssrc} {ssrc : Ssrc}

lemma Turns.startWaiting {L' : Ledger} (h : Turns q L) {level : PrioLevel}
    (hrest : ∀ x ∈ rest, x ∈ q.streamsByPrio level ∧ x ≠ ssrc)
    (hsort : rest.Pairwise fun a b => L.stamp level a < L.stamp level b)
    (hstamp : L'.stamp = (L.startWaiting level ssrc).stamp) (hclock : L'.clock = L.clock + 1)
    (hlist : q'.streamsByPrio level = rest ++ [ssrc] ∨ q'.streamsByPrio level = rest)
    (hoth : ∀ l, l ≠ level → q'.streamsByPrio l = q.streamsByPrio l)
    (hmem : ∀ l x, x ∈ q'.streamsByPrio l ↔ L'.entriesOf x l ≠ []) : Turns q' L' := by
  have hold : ∀ x ∈ rest, L'.stamp level x = L.stamp level x := by
    intro x hx
    rw [hstamp, stamp_startWaiting, if_neg fun h => (hrest x hx).2 h.2]
  have hnew : L'.stamp level ssrc = L.clock := by
    rw [hstamp, stamp_startWaiting, if_pos ⟨rfl, rfl⟩]
  have hbel : ∀ x ∈ rest, L'.stamp level x < L.clock := by
    intro x hx
    rw [hold x hx]
    exact h.past level x (hrest x hx).1
  have hpairs : rest.Pairwise fun a b => L'.stamp level a < L'.stamp level b :=
    hsort.imp_of_mem fun ha hb hlt => by rw [hold _ ha, hold _ hb]; exact hlt
  refine ⟨?_, hmem, ?_⟩
  · intro l
    by_cases hl : l = level
    · subst hl
      rcases hlist with hlist | hlist
      · rw [hlist, pairwise_append]
        refine ⟨hpairs, pairwise_singleton _ _, ?_⟩
        intro a ha b hb
        rw [mem_singleton.mp hb, hnew]
        exact hbel a ha
      · rw [hlist]
        exact hpairs
    · rw [hoth l hl]
      refine (h.sorted l).imp fun hlt => ?_
      rw [hstamp, stamp_startWaiting, stamp_startWaiting, if_neg fun h => hl h.1,
        if_neg fun h => hl h.1]
      exact hlt
  · intro l x hx
    rw [hclock]
    by_cases hl : l = level
    · subst hl
      have hx' : x ∈ rest ∨ x = ssrc := by
        rcases hlist with hlist | hlist
        · rw [hlist] at hx
          exact (mem_append.mp hx).imp_right mem_singleton.mp
        rw [hlist] at hx
        exact .inl hx
      rcases hx' with hx' | rfl
      · exact (hbel x hx').trans (Nat.lt_succ_self _)
      rw [hnew]
      exact Nat.lt_succ_self _
    · rw [hoth l hl] at hx
      rw [hstamp, stamp_startWaiting, if_neg fun h => hl h.1]
      exact (h.past l x hx).trans (Nat.lt_succ_self _)

/-- The packet that is next in the ledger is the front packet of the stream at
the front of the list of the best level. -/
lemma next_of_turns (ht : Turns q L) {top : PrioLevel} (htop : L.best = some top)
    (hlist : q.streamsByPrio top = ssrc :: rest) {e : LedgerEntry}
    {es : List LedgerEntry} (hfr : L.entriesOf ssrc top = e :: es) : L.next = some e := by
  have hsort := ht.sorted top
  rw [hlist, pairwise_cons] at hsort
  have hturn : ∀ x ∈ L.entries, L.isTurnOf top x = x.ofStream ssrc top := by
    intro x hx
    rw [Bool.eq_iff_iff]
    simp only [isTurnOf, ofStream, Bool.and_eq_true, decide_eq_true_eq,
      all_eq_true, Bool.or_eq_true, Bool.not_eq_true', decide_eq_false_iff_not]
    have hwaits : ∀ y ∈ L.entries, y.level = top → y.packet.ssrc = ssrc ∨
        L.stamp top ssrc < L.stamp top y.packet.ssrc := by
      intro y hy hl
      have hmem := (ht.mem top y.packet.ssrc).mpr (ne_nil_of_mem (mem_entriesOf.mpr ⟨hy, rfl, hl⟩))
      rw [hlist] at hmem
      rcases mem_cons.mp hmem with heq | hmem
      · exact .inl heq
      · exact .inr (hsort.1 _ hmem)
    constructor
    · rintro ⟨hl, hall⟩
      refine ⟨?_, hl⟩
      rcases hwaits x hx hl with heq | hlt
      · exact heq
      -- The front packet of the list has waited longer.
      obtain ⟨he, hes, hel⟩ := mem_entriesOf.mp (hfr ▸ mem_cons_self .. : e ∈ L.entriesOf ssrc top)
      rcases hall e he with hne | hle
      · exact absurd hel hne
      rw [hes] at hle
      omega
    · rintro ⟨hs, hl⟩
      refine ⟨hl, fun y hy => ?_⟩
      by_cases hly : y.level = top
      · rcases hwaits y hy hly with heq | hlt
        · exact .inr (by rw [hs, heq])
        · exact .inr (by rw [hs]; omega)
      · exact .inl hly
  unfold Ledger.next
  rw [htop, Option.bind_some, ← head?_filter, filter_congr hturn]
  show (L.entriesOf ssrc top).head? = some e
  rw [hfr]
  rfl

end PrioritizedPacketQueue

end WebRtc.Pacing
