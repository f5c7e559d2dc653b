import WebRtc.Pacing.PrioritizedPacketQueue

/-!
# WebRTC — the pacer's queue as a list of packets

What the queue is for, without its data structures: the packets that have been pushed and have not
left again, in the order of their pushes. The packet to send next is one of the best level that has
packets. At a level the streams take turns: the one that has waited longest goes next, since it was
served there last or got a packet there after having had none (`stamp`). Within a stream and a
level packets are sent in the order in which they were pushed.

A packet is too old when the time since its push *plus the pause time before its push* exceeds the
time to live of its level.
-/

namespace WebRtc.Pacing

open List

structure LedgerEntry where
  packet : RtpPacketToSend
  level : PrioLevel
  pushTime : Int
  pausedBefore : Int
  -- How many packets had been pushed before it.
  handle : Nat
deriving DecidableEq

def LedgerEntry.unpausedTime (e : LedgerEntry) : Int := e.pushTime - e.pausedBefore

def LedgerEntry.ofStream (ssrc : Ssrc) (level : PrioLevel) (e : LedgerEntry) : Bool :=
  decide (e.packet.ssrc = ssrc) && decide (e.level = level)

structure Ledger where
  prioritize : Bool
  ttl : PrioLevel → Option Int
  entries : List LedgerEntry := []
  stamp : PrioLevel → Ssrc → Nat := fun _ _ => 0
  clock : Nat := 0
  pushed : Nat := 0
  lastUpdate : Int
  paused : Bool := false
  pauseSum : Int := 0

namespace Ledger

variable (L : Ledger)

def new (creationTime : Int) (prioritize : Bool) (ttl : PacketQueueTTL) : Ledger where
  prioritize
  ttl := toTtlPerPrio ttl
  lastUpdate := creationTime

def entriesOf (ssrc : Ssrc) (level : PrioLevel) : List LedgerEntry :=
  L.entries.filter (LedgerEntry.ofStream ssrc level)

def has (level : PrioLevel) : Bool := L.entries.any fun e => decide (e.level = level)

def best : Option PrioLevel := (finRange 5).find? L.has

def waited (e : LedgerEntry) : Int := L.lastUpdate - e.pushTime - (L.pauseSum - e.pausedBefore)

def keep (p : LedgerEntry → Bool) : Ledger := { L with entries := L.entries.filter p }

def tooOld (now : Int) (e : LedgerEntry) : Bool :=
  match L.ttl e.level with
  | none => false
  | some limit => decide (limit < now - e.unpausedTime)

def purge (level : PrioLevel) (now : Int) : Ledger :=
  L.keep fun e => !(decide (e.level = level) && L.tooOld now e)

/-- The levels are purged one after the other up to the first that has packets
left. -/
def settle : List PrioLevel → Ledger → Ledger
  | [], L => L
  | level :: levels, L =>
    let L := L.purge level L.lastUpdate
    if L.has level then L else settle levels L

/-- Settling is due when the level that was on top has no packets. -/
def settleAfter (top : Option PrioLevel) : Ledger :=
  match top with
  | some level => if L.has level then L else settle (finRange 5) L
  | none => settle (finRange 5) L

def update (now : Int) : Ledger :=
  if L.paused then { L with pauseSum := L.pauseSum + (now - L.lastUpdate), lastUpdate := now }
  else { L with lastUpdate := now }

def startWaiting (level : PrioLevel) (ssrc : Ssrc) : Ledger :=
  { L with
    stamp := Function.update L.stamp level (Function.update (L.stamp level) ssrc L.clock)
    clock := L.clock + 1 }

def levelOf (p : RtpPacketToSend) : PrioLevel :=
  getPriorityForType p.packetType (if L.prioritize then p.originalPacketType else none)

def append (now : Int) (p : RtpPacketToSend) : Ledger :=
  { L with
    entries := L.entries ++ [⟨p, L.levelOf p, now, L.pauseSum, L.pushed⟩]
    pushed := L.pushed + 1 }

def push (now : Int) (p : RtpPacketToSend) : Ledger :=
  let L := (L.purge (L.levelOf p) now).update now
  (if L.entriesOf p.ssrc (L.levelOf p) = [] then L.startWaiting (L.levelOf p) p.ssrc
    else L).append now p

/-- The packet's stream has waited longest of those with packets at the level. -/
def isTurnOf (level : PrioLevel) (e : LedgerEntry) : Bool :=
  decide (e.level = level) && L.entries.all fun e' =>
    !decide (e'.level = level) ||
      decide (L.stamp level e.packet.ssrc ≤ L.stamp level e'.packet.ssrc)

def next : Option LedgerEntry := L.best.bind fun level => L.entries.find? (L.isTurnOf level)

def pop : Ledger :=
  match L.next with
  | none => L
  | some e =>
    ((L.keep fun e' => decide (e'.handle ≠ e.handle)).startWaiting e.level
      e.packet.ssrc).settleAfter (some e.level)

def remove (ssrc : Ssrc) : Ledger :=
  (L.keep fun e => decide (e.packet.ssrc ≠ ssrc)).settleAfter L.best

/-! ## The order of the entries -/

structure Ordered : Prop where
  handles : L.entries.Pairwise fun a b => a.handle < b.handle
  times : L.entries.Pairwise fun a b =>
    a.pushTime ≤ b.pushTime ∧ a.unpausedTime ≤ b.unpausedTime
  past : ∀ e ∈ L.entries, e.handle < L.pushed ∧ e.pushTime ≤ L.lastUpdate ∧
    e.unpausedTime ≤ L.lastUpdate - L.pauseSum

variable {L}

lemma Ordered.keep (h : L.Ordered) (p : LedgerEntry → Bool) : (L.keep p).Ordered where
  handles := h.handles.sublist filter_sublist
  times := h.times.sublist filter_sublist
  past := fun e he => h.past e (mem_of_mem_filter he)

lemma Ordered.eq_of_handle (h : L.Ordered) {e e' : LedgerEntry} (he : e ∈ L.entries)
    (he' : e' ∈ L.entries) (heq : e.handle = e'.handle) : e = e' := by
  have hnd : (L.entries.map LedgerEntry.handle).Nodup :=
    (pairwise_map.mpr h.handles).imp fun hlt => hlt.ne
  exact inj_on_of_nodup_map hnd he he' heq

lemma Ordered.entriesOf (h : L.Ordered) (ssrc : Ssrc) (level : PrioLevel) :
    (L.entriesOf ssrc level).Pairwise (fun a b => a.handle < b.handle) ∧
      (L.entriesOf ssrc level).Pairwise fun a b => a.unpausedTime ≤ b.unpausedTime :=
  ⟨h.handles.sublist filter_sublist,
    (h.times.imp fun hab => hab.2).sublist filter_sublist⟩

variable {level : PrioLevel}

lemma mem_entriesOf {ssrc : Ssrc} {e : LedgerEntry} :
    e ∈ L.entriesOf ssrc level ↔ e ∈ L.entries ∧ e.packet.ssrc = ssrc ∧ e.level = level := by
  simp [entriesOf, LedgerEntry.ofStream]

lemma entriesOf_keep (p : LedgerEntry → Bool) (ssrc : Ssrc) (level : PrioLevel) :
    (L.keep p).entriesOf ssrc level = (L.entriesOf ssrc level).filter p := by
  unfold entriesOf keep
  rw [filter_filter, filter_filter]
  simp only [Bool.and_comm]

lemma keep_keep (p p' : LedgerEntry → Bool) :
    (L.keep p).keep p' = L.keep fun e => p e && p' e := by
  unfold keep
  rw [filter_filter]
  simp only [Bool.and_comm]

variable {p : LedgerEntry → Bool}

lemma keep_congr {p' : LedgerEntry → Bool} (h : ∀ e ∈ L.entries, p e = p' e) :
    L.keep p = L.keep p' := by
  unfold keep
  rw [filter_congr h]

lemma keep_eq_self (h : ∀ e ∈ L.entries, p e = true) : L.keep p = L := by
  unfold keep
  rw [filter_eq_self.mpr h]

lemma has_iff : L.has level = true ↔ ∃ ssrc, L.entriesOf ssrc level ≠ [] := by
  rw [has, any_eq_true]
  constructor
  · rintro ⟨e, he, hl⟩
    exact ⟨e.packet.ssrc, ne_nil_of_mem (mem_entriesOf.mpr ⟨he, rfl, of_decide_eq_true hl⟩)⟩
  rintro ⟨ssrc, hne⟩
  obtain ⟨e, he⟩ := exists_mem_of_ne_nil _ hne
  obtain ⟨hmem, -, hl⟩ := mem_entriesOf.mp he
  exact ⟨e, hmem, decide_eq_true hl⟩

lemma has_keep (h : L.has level = false) :
    (L.keep p).has level = false := by
  rw [has, any_eq_false] at h ⊢
  exact fun e he => h e (mem_of_mem_filter he)

lemma best_eq_some : L.best = some level ↔ L.has level = true ∧ ∀ l < level, L.has l = false := by
  unfold best
  have hsort : (finRange 5).Pairwise (· < ·) := pairwise_lt_finRange 5
  have hall : ∀ l : PrioLevel, l ∈ finRange 5 := mem_finRange
  constructor
  · intro h
    refine ⟨find?_some h, ?_⟩
    obtain ⟨-, before, after, hsplit, hnot⟩ := find?_eq_some_iff_append.mp h
    intro l hl
    rw [hsplit, pairwise_append, pairwise_cons] at hsort
    have hmem := hall l
    rw [hsplit] at hmem
    rcases mem_append.mp hmem with hmem | hmem
    · simpa using hnot l hmem
    rcases mem_cons.mp hmem with rfl | hmem
    · exact absurd hl (lt_irrefl _)
    · exact absurd hl (not_lt.mpr (hsort.2.1.1 l hmem).le)
  rintro ⟨hhas, hnot⟩
  cases hfind : (finRange 5).find? L.has with
  | none => exact absurd hhas (by simpa using find?_eq_none.mp hfind level (hall level))
  | some l =>
    obtain ⟨hl, before, after, hsplit, hbef⟩ := find?_eq_some_iff_append.mp hfind
    rcases lt_trichotomy l level with hlt | rfl | hlt
    · rw [hnot l hlt] at hl
      cases hl
    · rfl
    rw [hsplit, pairwise_append, pairwise_cons] at hsort
    have hmem := hall level
    rw [hsplit] at hmem
    rcases mem_append.mp hmem with hmem | hmem
    · have := hbef level hmem
      rw [hhas] at this
      cases this
    rcases mem_cons.mp hmem with rfl | hmem
    · exact absurd hlt (lt_irrefl _)
    · exact absurd hlt (not_lt.mpr (hsort.2.1.1 level hmem).le)

lemma best_eq_none : L.best = none ↔ L.entries = [] := by
  unfold best
  rw [find?_eq_none]
  constructor
  · intro h
    by_contra hne
    obtain ⟨e, he⟩ := exists_mem_of_ne_nil _ hne
    refine h e.level (mem_finRange _) ?_
    exact any_eq_true.mpr ⟨e, he, decide_eq_true rfl⟩
  · intro h l _
    simp [has, h]

end Ledger

end WebRtc.Pacing
