import WebRtc.Dcsctp.System.AssignedTsns
import WebRtc.Lib.TaggedLog

/-!
# dcSCTP — the TSNs of a message

Without message interleaving, a message is sent to its end before another one is begun (`InTurn`),
so that its chunks have consecutive TSNs (`OneRange`). That needs that an abandoned message is not
taken for another one: `RRSendQueue::Discard` knows messages by 32-bit ids, and `DistinctIds` is an
invariant only as long as `Add` does not give out an id that is still in use on the stream.
-/

namespace WebRtc.Dcsctp

open Lib RRSendQueue TracedQueue OutgoingStream OutstandingData List Option Function

/-! ## Logs of chunks -/

/-- A chunk begins a message exactly if the chunk before it ended one, and goes on with the same
message otherwise. -/
structure Continues (before : List Given) (g : Given) : Prop where
  beginning : g.isBeginning = true ↔ ∀ y ∈ before.getLast?, y.isEnd = true
  same : ∀ y ∈ before.getLast?, y.isEnd = false → g.message = y.message

def PartOf (given : List Given) (n k : Nat) : Prop := ∃ g, given[k]? = some g ∧ g.message = n

/-- **The chunks of a message** have consecutive TSNs. The first one, and no other, begins the
message; the last one, and no other, ends it, unless it was given the last TSN so far. -/
structure OneRange (given : List Given) (n : Nat) : Prop where
  range : ∀ k₁ k k₂, k₁ ≤ k → k ≤ k₂ → PartOf given n k₁ → PartOf given n k₂ → PartOf given n k
  beginning : ∀ k g, given[k]? = some g → g.message = n →
    (g.isBeginning = true ↔ ∀ k' < k, ¬ PartOf given n k')
  ending : ∀ k g, given[k]? = some g → g.message = n → g.isEnd = true →
    ∀ k' > k, ¬ PartOf given n k'
  closed : ∀ k g, given[k]? = some g → g.message = n → k + 1 < given.length →
    (∀ k' > k, ¬ PartOf given n k') → g.isEnd = true

variable {g g' : Given} {k : Nat}

lemma ends_before {given : List Given}
    (hends : given.Pairwise fun g g' => g.isEnd = true → g'.message ≠ g.message) {k' : Nat}
    (hk : given[k]? = some g) (hk' : given[k']? = some g') (hlt : k < k')
    (hend : g.isEnd = true) : g'.message ≠ g.message := by
  obtain ⟨hl, rfl⟩ := List.getElem?_eq_some_iff.mp hk
  obtain ⟨hl', rfl⟩ := List.getElem?_eq_some_iff.mp hk'
  exact pairwise_iff_getElem.mp hends k k' hl hl' hlt hend

section Logs

variable {given : List Given} (hchn : Locally Continues given)
  (hends : given.Pairwise fun g g' => g.isEnd = true → g'.message ≠ g.message)
include hchn

lemma continues_succ (hk : given[k]? = some g) (hk' : given[k + 1]? = some g') :
    (g'.isBeginning = true ↔ g.isEnd = true) ∧ (g.isEnd = false → g'.message = g.message) := by
  have hlast : (given.take (k + 1)).getLast? = some g := by
    rw [take_add_one, hk]
    simp
  have hc := hchn (k + 1) g' hk'
  refine ⟨?_, ?_⟩
  · rw [hc.beginning, hlast]
    simp
  intro hend
  exact hc.same g hlast hend

lemma message_eq_of_open {k1 : Nat} {g1 : Given} (h1 : given[k1]? = some g1) :
    ∀ (d : Nat) (g : Given), given[k1 + d]? = some g →
      (∀ k' g', k1 ≤ k' → k' < k1 + d → given[k']? = some g' → g'.message = g1.message →
        g'.isEnd = false) → g.message = g1.message := by
  intro d
  induction d with
  | zero =>
    intro g hg _
    rw [Nat.add_zero, h1] at hg
    rw [some.inj hg]
  | succ d ih =>
    intro g hg hopen
    have hlt : k1 + d < given.length := by
      have := (List.getElem?_eq_some_iff.mp hg).1
      omega
    have hprev := getElem?_eq_getElem hlt
    have hmsg := ih _ hprev fun k' g' hle hlt' => hopen k' g' hle (by omega)
    rw [(continues_succ hchn hprev hg).2 (hopen _ _ (by omega) (by omega) hprev hmsg), hmsg]

include hends

lemma message_eq_between {n k1 k2 : Nat} {g1 g2 : Given} (h1 : given[k1]? = some g1)
    (h2 : given[k2]? = some g2) (hn1 : g1.message = n) (hn2 : g2.message = n) :
    ∀ (d : Nat) (g : Given), k1 + d ≤ k2 → given[k1 + d]? = some g → g.message = n := by
  subst hn1
  intro d g hle hg
  refine message_eq_of_open hchn h1 d g hg fun k' g' _ hlt hg' hmsg => ?_
  -- the message was not ended, since a chunk of it follows
  by_contra hend
  exact ends_before hends hg' h2 (by omega) (by simpa using hend) (hn2.trans hmsg.symm)

lemma oneRange (n : Nat) : OneRange given n := by
  have hrange : ∀ k1 k k2, k1 ≤ k → k ≤ k2 → PartOf given n k1 → PartOf given n k2 →
      PartOf given n k := by
    rintro k1 k k2 hle hle' ⟨g1, h1, hn1⟩ ⟨g2, h2, hn2⟩
    have hlt : k < given.length := by
      have := (List.getElem?_eq_some_iff.mp h2).1
      omega
    obtain ⟨d, rfl⟩ := Nat.exists_eq_add_of_le hle
    have hk := getElem?_eq_getElem hlt
    exact ⟨_, hk, message_eq_between hchn hends h1 h2 hn1 hn2 d _ hle' hk⟩
  refine ⟨hrange, ?_, ?_, ?_⟩
  · intro k g hk hn
    cases k with
    | zero =>
      refine iff_of_true ?_ fun k' hlt => absurd hlt (Nat.not_lt_zero k')
      rw [(hchn 0 g hk).beginning]
      simp
    | succ k =>
      have hlt : k < given.length := by
        have := (List.getElem?_eq_some_iff.mp hk).1
        omega
      have hprev := getElem?_eq_getElem hlt
      obtain ⟨hbegin, hsame⟩ := continues_succ hchn hprev hk
      rw [hbegin]
      constructor
      · intro hend k' hk' hpart
        obtain ⟨g', hg', hmid⟩ := hrange k' k (k + 1) (by omega) (by omega) hpart ⟨g, hk, hn⟩
        rw [hprev] at hg'
        obtain rfl := some.inj hg'
        exact ends_before hends hprev hk (by omega) hend (hn.trans hmid.symm)
      · intro hnone
        by_contra hend
        exact hnone k (by omega) ⟨_, hprev, (hsame (by simpa using hend)).symm.trans hn⟩
  · rintro k g hk hn hend k' hlt ⟨g', hk', hmsg⟩
    exact ends_before hends hk hk' hlt hend (hmsg.trans hn.symm)
  · intro k g hk hn hlen hlast
    by_contra hend
    have hnext := getElem?_eq_getElem hlen
    exact hlast (k + 1) (by omega)
      ⟨_, hnext, ((continues_succ hchn hk hnext).2 (by simpa using hend)).trans hn⟩

end Logs

/-! ## Message ids -/

/-- **Message ids tell messages apart**, among those of a stream that are enqueued or outstanding. -/
structure DistinctIds (v : View) : Prop where
  chunks : ∀ c ∈ v.chunks, ∀ n ∈ v.queue.numbers c.1.data.streamId,
    BitVec.ofNat 32 n = c.1.messageId → n = c.2.message
  enqueued : ∀ sid, (v.queue.numbers sid).Pairwise fun n m => BitVec.ofNat 32 n ≠ BitVec.ofNat 32 m

variable {t' : TracedQueue}

section Moves

variable {v v' : View} {start : Int}

lemma TracedQueue.Change.sublist {t : TracedQueue} (h : Change t t')
    (hmsgs : t'.messages = t.messages) (sid : StreamID) :
    (t'.numbers sid).Sublist (t.numbers sid) := by
  cases h with
  | still _ _ numbers =>
    rw [numbers]
  | drop _ _ _ _ _ _ _ _ numbers =>
    rw [numbers]
    exact drop_sublist _ _
  | enqueue message sendOptions _ _ _ _ _ _ _ messages =>
    rw [hmsgs] at messages
    simp at messages
  | pause _ _ _ _ _ _ _ _ _ _ numbers =>
    rw [numbers]
    exact take_sublist _ _

lemma Move.sublist (h : Move v v') (hmsgs : v'.queue.messages = v.queue.messages)
    (sid : StreamID) : (v'.queue.numbers sid).Sublist (v.queue.numbers sid) := by
  cases h with
  | change h => exact h.sublist hmsgs sid
  | adjust _ _ _ queue | pop _ _ _ _ queue | abandon _ _ _ _ _ _ queue => rw [queue]
  | send sid maxSize item rest d i h | discard i _ item rest h =>
    rw [h.numbers]
    exact drop_sublist _ _

lemma DistinctIds.eq_of_mem (h : DistinctIds v) {sid : StreamID} {n m : Nat}
    (hn : n ∈ v.queue.numbers sid) (hm : m ∈ v.queue.numbers sid)
    (hid : BitVec.ofNat 32 n = BitVec.ofNat 32 m) : n = m := by
  by_contra hne
  have hsymm : Std.Symm fun n m : Nat => BitVec.ofNat 32 n ≠ BitVec.ofNat 32 m := ⟨fun _ _ => Ne.symm⟩
  exact (h.enqueued sid).forall hn hm hne hid

lemma DistinctIds.move (h : DistinctIds v) (ht : Traced start v) (hm : Move v v')
    (hmsgs : v'.queue.messages = v.queue.messages) : DistinctIds v' := by
  refine ⟨?_, ?_⟩
  · intro c hc n hn hid
    have hn' := (hm.sublist hmsgs _).subset hn
    rcases hm.chunks ht.numbered ht.assigned.length c hc with ⟨i, hi, hlat⟩ | ⟨⟨sid, hmem⟩, hshw⟩
    · rw [hlat.same.data] at hn'
      rw [hlat.same.messageId] at hid
      exact h.chunks _ hi n hn' hid
    · rw [hshw.stream_eq ht.numbered hmem] at hmem
      exact h.eq_of_mem hn' hmem (hid.trans hshw.messageId)
  · intro sid
    exact (h.enqueued sid).sublist (hm.sublist hmsgs sid)

end Moves

/-! ## One message at a time -/

def InProgress (t : TracedQueue) (sid : StreamID) (n : Nat) : Prop :=
  ∃ item rest ns, (t.queue.stream sid).items = item :: rest ∧ item.mid ≠ none ∧ t.numbers sid = n :: ns

/-- **One message at a time**: a message is in progress exactly if the last chunk did not end
one, and then it is the message of that chunk and it is its stream's turn. -/
structure InTurn (v : View) : Prop where
  interleaving : v.queue.queue.scheduler.enableMessageInterleaving = false
  chain : Locally Continues v.queue.given
  last : ∀ sid n, InProgress v.queue sid n →
    ∃ g ∈ v.queue.given.getLast?, g.isEnd = false ∧ g.message = n
  turn : ∀ g ∈ v.queue.given.getLast?, g.isEnd = false →
    v.queue.queue.rescheduling = false ∧
      ∃ sid n, v.queue.queue.scheduler.currentStream = some sid ∧ InProgress v.queue sid n

section Turns

variable {v v' : View} {start : Int} {sid : StreamID} {rest : List Item}

variable {t : TracedQueue} {n : Nat} {item : Item}

lemma inProgress_congr (hitm : (t'.queue.stream sid).items = (t.queue.stream sid).items)
    (hnums : t'.numbers sid = t.numbers sid) (n : Nat) : InProgress t' sid n ↔ InProgress t sid n := by
  unfold InProgress
  rw [hitm, hnums]

lemma not_inProgress
    (h : ∀ i ∈ (t.queue.stream sid).items, i.mid = none) : ¬ InProgress t sid n := by
  rintro ⟨item, rest, ns, hitm, hmid, -⟩
  exact hmid (h item (by rw [hitm]; exact mem_cons_self))

lemma TracedQueue.Numbered.rest_unbegun (hn : Numbered t) (hitm : (t.queue.stream sid).items = item :: rest) :
    ∀ i ∈ rest, i.mid = none := by
  intro i hi
  exact (hn.contents.items sid).rest i (by rw [hitm]; exact hi)

lemma TracedQueue.Change.inProgress (hc : Change t t') (hn : Numbered t)
    (sid : StreamID) (n : Nat) : InProgress t' sid n ↔ InProgress t sid n := by
  have hedited : ∀ {sid' : StreamID} {contents : OutgoingStream} {adjust : Nat → Nat}
      {reports : List SendCallback}, Edited sid' contents adjust reports t.queue t'.queue →
      sid ≠ sid' → t'.numbers sid = t.numbers sid → (InProgress t' sid n ↔ InProgress t sid n) := by
    intro sid' contents adjust reports hedit hs hnum
    exact inProgress_congr (core_eq (hedit.others sid hs).1).1 hnum n
  cases hc with
  | still _ still numbers => exact inProgress_congr (still.items sid) (by rw [numbers]) n
  | drop sid' item rest items unsent edited _ _ numbers =>
    have hnum := hn.numbers_follow edited (k := 1) (by rw [items]; rfl) numbers
    by_cases hs : sid = sid'
    · subst hs
      have hrest := hn.rest_unbegun items
      refine iff_of_false (not_inProgress ?_) (not_inProgress ?_)
      · rw [(core_eq edited.core).1]
        exact hrest
      rw [items]
      exact forall_mem_cons.mpr ⟨unsent, hrest⟩
    · exact hedited edited hs (hnum.2 sid hs)
  | enqueue message sendOptions attributes _ _ edited _ _ numbers =>
    by_cases hs : sid = message.streamId
    · subst hs
      have hitm := (core_eq edited.core).1
      have hnum : t'.numbers message.streamId = t.numbers message.streamId ++ [t.messages.length] := by
        rw [numbers, update_self]
      cases hold : (t.queue.stream message.streamId).items with
      | nil =>
        refine iff_of_false (not_inProgress ?_) (not_inProgress ?_)
        · rw [hitm, items_withItems, hold]
          rintro i hi
          rw [mem_singleton.mp hi]
          rfl
        · rw [hold]
          simp
      | cons item rest =>
        obtain ⟨m, ns, hns, -⟩ := hn.head hold
        unfold InProgress
        rw [hitm, items_withItems, hold, hnum, hns]
        simp
    · exact hedited edited hs (by rw [numbers, update_of_ne hs])
  | pause sid' kept dropped _ items begun unsent edited _ _ numbers =>
    have hlen : ∀ sid, t'.numbers sid = (t.numbers sid).take (t'.queue.stream sid).items.length := by
      intro sid
      rw [numbers]
      rfl
    by_cases hs : sid = sid'
    · subst hs
      have hitm := (core_eq edited.core).1
      cases kept with
      | nil =>
        refine iff_of_false (not_inProgress ?_) (not_inProgress ?_)
        · rw [hitm]
          simp
        rw [items]
        exact unsent
      | cons item kept =>
        obtain ⟨m, ns, hns, -⟩ := hn.head items
        unfold InProgress
        rw [hlen, hitm, items, hns]
        simp
    · have hitm := (core_eq (edited.others sid hs).1).1
      refine hedited edited hs ?_
      rw [hlen, hitm, ← hn.length_numbers, take_length]

lemma InTurn.change (h : InTurn v) (hn : Numbered v.queue) (hc : Change v.queue v'.queue) :
    InTurn v' := by
  have hprogress := hc.inProgress hn
  have hgiv := hc.record.1
  have hturn : SameTurn v.queue.queue v'.queue.queue ∧
      v'.queue.queue.scheduler.enableMessageInterleaving =
        v.queue.queue.scheduler.enableMessageInterleaving := by
    cases hc with
    | still _ still => exact ⟨still.turn, still.interleaving⟩
    | drop _ _ _ _ _ edited _ turn | enqueue _ _ _ _ _ edited _ turn
    | pause _ _ _ _ _ _ _ edited _ turn => exact ⟨turn, edited.interleaving⟩
  refine ⟨hturn.2.trans h.interleaving, by rw [hgiv]; exact h.chain, ?_, ?_⟩
  · intro sid n hp
    rw [hgiv]
    exact h.last sid n ((hprogress sid n).mp hp)
  intro g hg hend
  rw [hgiv] at hg
  obtain ⟨hres, sid, n, hcur, hp⟩ := h.turn g hg hend
  refine ⟨?_, sid, n, (hturn.1.current hres).trans hcur, (hprogress sid n).mpr hp⟩
  rw [rescheduling, hturn.2, hturn.1.sending]
  exact hres

lemma InTurn.continues_of_inProgress (h : InTurn v)
    (hp : InProgress v.queue sid n) (hn : g.message = n) (hbegin : g.isBeginning = false) :
    Continues v.queue.given g := by
  obtain ⟨y, hy, hend, hmsg⟩ := h.last sid n hp
  have hy' : v.queue.given.getLast? = some y := hy
  refine ⟨?_, ?_⟩
  · rw [hbegin, hy']
    simp [hend]
  intro z hz _
  rw [hy'] at hz
  rw [← some.inj hz, hmsg, hn]

lemma InTurn.unique (h : InTurn v) (hn : Numbered v.queue) {sid' : StreamID} {n' : Nat}
    (hp : InProgress v.queue sid n) (hp' : InProgress v.queue sid' n') : sid' = sid := by
  by_contra hs
  obtain ⟨y, hy, -, hmsg⟩ := h.last sid n hp
  obtain ⟨y', hy', -, hmsg'⟩ := h.last sid' n' hp'
  rw [hy] at hy'
  obtain ⟨-, -, ns, -, -, hns⟩ := hp
  obtain ⟨-, -, ns', -, -, hns'⟩ := hp'
  refine hn.ne_of_stream_ne hs (by rw [hns]; exact mem_cons_self)
    (by rw [hns']; exact mem_cons_self) ?_
  rw [← hmsg, ← hmsg', some.inj hy']

lemma InTurn.ended_of_begin (h : InTurn v)
    (hitm : (v.queue.queue.stream sid).items = item :: rest) (hmid : item.mid = none)
    (hturn : v.queue.queue.rescheduling = false → v.queue.queue.scheduler.currentStream = some sid) :
    ∀ y ∈ v.queue.given.getLast?, y.isEnd = true := by
  intro y hy
  by_contra hend
  obtain ⟨hres, sid', n, hcur, item', rest', ns, hitm', hmid', -⟩ := h.turn y hy (by simpa using hend)
  obtain rfl : sid' = sid := some.inj (hcur.symm.trans (hturn hres))
  rw [hitm] at hitm'
  obtain ⟨rfl, -⟩ := cons.inj hitm'
  exact hmid' hmid

lemma InTurn.send (h : InTurn v) (hn : Numbered v.queue) {maxSize : Nat} {d : DataToSend} (hs : SendsChunk sid maxSize item rest d v.queue v'.queue) :
    InTurn v' := by
  have hfrag := hs.sends.fragment hn.contents hs.size
  obtain ⟨n, ns, hns, hcarry, -⟩ := hn.head hs.sends.items
  have hgiv := hs.given
  rw [hns, headD_cons] at hgiv
  have hleft := (core_eq hs.sends.edited.core).1
  have hlen : ((v.queue.queue.stream sid).sendFragment maxSize item rest).2.items.length +
      (if d.data.isEnd = true then 1 else 0) = (v.queue.queue.stream sid).items.length := by
    rw [← hleft, hs.sends.items]
    cases hend : d.data.isEnd with
    | true => simp [(hfrag.done hend).2.1]
    | false =>
      obtain ⟨item', hitem', -⟩ := hfrag.more hend
      simp [hitem']
  obtain ⟨hnum, hoth⟩ := hn.numbers_follow hs.sends.edited hlen hs.numbers
  have hmine : item.mid ≠ none → InProgress v.queue sid n := by
    intro hmid
    exact ⟨item, rest, ns, hs.sends.items, hmid, hns⟩
  have hcontinues : Continues v.queue.given ⟨n, d.data.payload, d.data.isBeginning, d.data.isEnd⟩ := by
    cases hmid : item.mid with
    | none =>
      have hended := h.ended_of_begin hs.sends.items hmid hs.sends.turn
      refine ⟨iff_of_true ?_ hended, ?_⟩
      · rw [hfrag.beginning, hmid]
        rfl
      intro y hy hopen
      rw [hended y hy] at hopen
      simp at hopen
    | some mid =>
      refine h.continues_of_inProgress (hmine (by simp [hmid])) rfl ?_
      rw [hfrag.beginning, hmid]
      rfl
  -- no message is in progress on another stream
  have hoth2 : ∀ sid' n', sid' ≠ sid → ¬ InProgress v'.queue sid' n' := by
    intro sid' n' hne hp
    rw [inProgress_congr (core_eq (hs.sends.edited.others sid' hne).1).1 (hoth sid' hne)] at hp
    cases hmid : item.mid with
    | none =>
      obtain ⟨y, hy, hopen, -⟩ := h.last sid' n' hp
      rw [h.ended_of_begin hs.sends.items hmid hs.sends.turn y hy] at hopen
      simp at hopen
    | some mid => exact hne (h.unique hn (hmine (by simp [hmid])) hp)
  have hlast : v'.queue.given.getLast? =
      some ⟨n, d.data.payload, d.data.isBeginning, d.data.isEnd⟩ := by
    rw [hgiv]
    simp
  refine ⟨hs.sends.edited.interleaving.trans h.interleaving, ?_, ?_, ?_⟩
  · rw [hgiv]
    exact locally_snoc.mpr ⟨h.chain, hcontinues⟩
  · intro sid' n' hp
    refine ⟨_, hlast, ?_⟩
    obtain rfl : sid' = sid := by
      by_contra hne
      exact hoth2 sid' n' hne hp
    obtain ⟨item1, rest1, ns1, hitems1, hmid1, hns1⟩ := hp
    cases hend : d.data.isEnd with
    | true =>
      rw [(hfrag.done hend).2.1] at hitems1
      exact absurd (hn.rest_unbegun hs.sends.items item1 (by rw [hitems1]; exact mem_cons_self)) hmid1
    | false =>
      refine ⟨rfl, ?_⟩
      rw [hnum, hend, hns] at hns1
      exact (cons.inj hns1).1
  · intro g hg hopen
    obtain rfl := some.inj (hlast.symm.trans hg)
    obtain ⟨item', hitem', -, hsome, -⟩ := hfrag.more hopen
    refine ⟨?_, sid, n, hs.sends.current, item', rest, ns, hitem', ?_, ?_⟩
    · rw [rescheduling, hs.sends.edited.interleaving, h.interleaving, hs.sends.sending]
      have : d.data.isEnd = false := hopen
      simp [this]
    · exact isSome_iff_ne_none.mp hsome
    have : d.data.isEnd = false := hopen
    rw [hnum, this, hns]
    rfl

lemma Assigned.chunk_of_mem (h : Assigned start v) {i : OutstandingData.Item} (hi : i ∈ v.items) :
    ∃ g, (i, g) ∈ v.chunks := by
  obtain ⟨k, hk, rfl⟩ := getElem_of_mem hi
  have hk' : k < v.outstanding.length := by rwa [length_outstanding h.length]
  refine ⟨v.outstanding[k], mem_of_getElem? (i := k) ?_⟩
  rw [View.chunks, getElem?_zip_eq_some]
  exact ⟨getElem?_eq_getElem hk, getElem?_eq_getElem hk'⟩

lemma InTurn.discard (h : InTurn v) (hids : DistinctIds v) (ht : Traced start v)
    {i : OutstandingData.Item} (hi : i ∈ v.items)
    (hd : Discards i.data.streamId item rest v.queue v'.queue) (hid : item.messageId = i.messageId) :
    InTurn v' := by
  have hn := ht.numbered
  obtain ⟨n, ns, hns, hcarry, -⟩ := hn.head hd.items
  obtain ⟨g, hg⟩ := ht.assigned.chunk_of_mem hi
  have hsame : n = g.message := hids.chunks _ hg n (by rw [hns]; exact mem_cons_self)
    (hcarry.messageId.symm.trans hid)
  have hmid : item.mid ≠ none := by
    intro hnone
    exact hcarry.fresh hnone g (mem_given_of_chunk (c := (i, g)) hg) hsame.symm
  have hmine : InProgress v.queue i.data.streamId n := ⟨item, rest, ns, hd.items, hmid, hns⟩
  have hgiv := hd.given
  rw [hns, headD_cons] at hgiv
  obtain ⟨-, hoth⟩ := hn.numbers_follow hd.edited (k := 1) (by rw [hd.items]; rfl) hd.numbers
  refine ⟨hd.edited.interleaving.trans h.interleaving, ?_, ?_, ?_⟩
  · rw [hgiv]
    exact locally_snoc.mpr ⟨h.chain, h.continues_of_inProgress hmine rfl rfl⟩
  · intro sid' n' hp
    by_cases hs : sid' = i.data.streamId
    · subst hs
      refine absurd hp (not_inProgress ?_)
      rw [(core_eq hd.edited.core).1]
      exact hn.rest_unbegun hd.items
    · rw [inProgress_congr (core_eq (hd.edited.others sid' hs).1).1 (hoth sid' hs)] at hp
      exact absurd (h.unique hn hmine hp) hs
  · intro y hy hopen
    rw [hgiv] at hy
    simp only [getLast?_append, getLast?_singleton, some_or, mem_def] at hy
    rw [← some.inj hy] at hopen
    simp at hopen

lemma InTurn.move (h : InTurn v) (hids : DistinctIds v) (ht : Traced start v) (hm : Move v v') :
    InTurn v' := by
  have hkept : v'.queue = v.queue → InTurn v' := by
    intro hq
    obtain ⟨h1, h2, h3, h4⟩ := h
    rw [← hq] at h1 h2 h3 h4
    exact ⟨h1, h2, h3, h4⟩
  cases hm with
  | change hc => exact h.change ht.numbered hc
  | adjust _ _ _ queue | pop _ _ _ _ queue | abandon _ _ _ _ _ _ queue => exact hkept queue
  | send sid maxSize item rest d i hs => exact h.send ht.numbered hs
  | discard i hi item rest hd messageId => exact h.discard hids ht hi hd messageId

end Turns

/-! ## Runs -/

def SendSide.FreshId (s : SendSide) (sid : StreamID) : Prop :=
  (∀ i ∈ s.rtx.outstandingData.outstandingData, i.data.streamId = sid →
    i.messageId ≠ s.queue.queue.currentMessageId) ∧
  ∀ item ∈ (s.queue.queue.stream sid).items, item.messageId ≠ s.queue.queue.currentMessageId

instance (s : SendSide) (sid : StreamID) : Decidable (s.FreshId sid) :=
  inferInstanceAs (Decidable (_ ∧ _))

/-- The event is defined in the source, and a message that is added gets an id that is not in use. -/
def SendSide.EventOk (s : SendSide) : SendEvent → Prop
  | .add _ message _ => message.payload ≠ [] ∧ s.FreshId message.streamId
  | e => s.InPlace e

instance (s : SendSide) : ∀ e, Decidable (s.EventOk e)
  | .add _ _ _ => inferInstanceAs (Decidable (_ ∧ _))
  | .setStreamPriority .. | .prepareResetStream _ | .beginResetStreams | .commitResetStreams
  | .rollbackResetStreams | .getChunksToSend .. | .handleSack .. | .handleT3RtxTimerExpiry =>
    isTrue trivial
  | .shouldSendForwardTsn now => inferInstanceAs (Decidable (s.InPlace (.shouldSendForwardTsn now)))

lemma Moves.messages_eq {v v' v'' : View} (h : Moves v v') (h' : Move v' v'')
    (hmsgs : v''.queue.messages = v.queue.messages) : v'.queue.messages = v.queue.messages := by
  have hlen := h'.record.1.length_le
  rw [hmsgs] at hlen
  exact ((Moves.messages h).eq_of_length_le hlen).symm

lemma Moves.induction_of_messages {P : View → Prop} {v v' : View} {start : Int}
    (hstep : ∀ v v', Traced start v → Move v v' → v'.queue.messages = v.queue.messages → P v → P v')
    (hm : Moves v v') (ht : Traced start v) (hv : P v)
    (hmsgs : v'.queue.messages = v.queue.messages) : Traced start v' ∧ P v' := by
  induction hm with
  | refl => exact ⟨ht, hv⟩
  | tail hmv hmove ih =>
    have hsame := Moves.messages_eq hmv hmove hmsgs
    obtain ⟨ht1, hv1⟩ := ih hsame
    exact ⟨ht1.move hmove, hstep _ _ ht1 hmove (hmsgs.trans hsame.symm) hv1⟩

namespace SendSide

structure Sequential (start : Int) (s : SendSide) : Prop where
  ready : s.Ready
  traced : Traced start s.view
  turns : InTurn s.view
  ids : DistinctIds s.view

variable {s : SendSide}

lemma distinctIds_add {start : Int} (h : Sequential start s) (now : Timestamp)
    (message : DcSctpMessage) (opts : SendOptions) (hfresh : s.FreshId message.streamId) :
    DistinctIds (s.step (.add now message opts)).view := by
  have hn : Numbered s.queue := h.traced.numbered
  have hnums : ∀ sid, (s.step (.add now message opts)).view.queue.numbers sid =
      if sid = message.streamId then s.queue.numbers sid ++ [s.queue.messages.length]
      else s.queue.numbers sid := by
    intro sid
    show update s.queue.numbers _ _ sid = _
    by_cases hs : sid = message.streamId
    · subst hs
      rw [update_self, if_pos rfl]
    · rw [update_of_ne hs, if_neg hs]
  -- the new number, by its id
  have hnew : ∀ n ∈ s.queue.numbers message.streamId,
      BitVec.ofNat 32 n ≠ BitVec.ofNat 32 s.queue.messages.length := by
    intro n hmem
    obtain ⟨k, hk, rfl⟩ := getElem_of_mem hmem
    have hk' : k < (s.queue.queue.stream message.streamId).items.length := by
      rwa [← hn.length_numbers]
    have hcarry := (forall₂_iff_get.mp (hn.carried message.streamId)).2 k hk' hk
    have hne := hfresh.2 _ (getElem_mem hk')
    rw [hn.nextId] at hne
    intro heq
    exact hne (hcarry.messageId.trans heq)
  refine ⟨?_, ?_⟩
  · intro c hc n hmem hid
    have hc' : c ∈ s.view.chunks := hc
    rw [hnums] at hmem
    split at hmem
    · next hsid =>
      rcases mem_append.mp hmem with hmem | hmem
      · exact h.ids.chunks c hc' n hmem hid
      rw [mem_singleton.mp hmem, ← hn.nextId] at hid
      exact absurd hid.symm (hfresh.1 c.1 (of_mem_zip hc').1 hsid)
    · exact h.ids.chunks c hc' n hmem hid
  intro sid
  rw [hnums]
  split
  · next hsid =>
    subst hsid
    refine pairwise_append.mpr ⟨h.ids.enqueued _, pairwise_singleton .., ?_⟩
    intro n hmem m hm
    rw [mem_singleton.mp hm]
    exact hnew n hmem
  · exact h.ids.enqueued sid

lemma Sequential.step {start : Int} (h : Sequential start s) (e : SendEvent)
    (hok : s.EventOk e) : Sequential start (s.step e) := by
  have hrest : e.Ok → added e = [] → Sequential start (s.step e) := by
    intro hok' hadded
    obtain ⟨hmv, hready⟩ := step_moves h.ready hok'
    have hmsgs : (s.step e).view.queue.messages = s.view.queue.messages := by
      have := (step_plain s e).2
      rw [hadded, append_nil] at this
      exact this
    obtain ⟨htraced, htrn, hids⟩ := Moves.induction_of_messages
      (P := fun v => InTurn v ∧ DistinctIds v)
      (fun v v' ht hm hmsg hv => ⟨hv.1.move hv.2 ht hm, hv.2.move ht hm hmsg⟩) hmv h.traced
      ⟨h.turns, h.ids⟩ hmsgs
    exact ⟨hready, htraced, htrn, hids⟩
  cases e with
  | add now message sendOptions =>
    have hc : Change s.queue (s.queue.add now message sendOptions) :=
      change_add s.queue now hok.1 sendOptions
    have hm : Move s.view (s.step (.add now message sendOptions)).view := .change hc rfl rfl rfl
    exact ⟨(step_moves (e := .add now message sendOptions) h.ready hok.1).2, h.traced.move hm, h.turns.change h.traced.numbered hc,
      distinctIds_add h now message sendOptions hok.2⟩
  | setStreamPriority | prepareResetStream | beginResetStreams | commitResetStreams
  | rollbackResetStreams | getChunksToSend | handleSack | handleT3RtxTimerExpiry
  | shouldSendForwardTsn => exact hrest trivial rfl

lemma sequential_new (myTsn : TSN) (aRwnd : BitVec 32) (options : DcSctpOptions)
    (partialRel : Bool) :
    Sequential (new myTsn aRwnd options partialRel false).startTsn
      (new myTsn aRwnd options partialRel false) := by
  refine ⟨ready_new .., traced_new .., ⟨rfl, locally_nil _, ?_, ?_⟩, ⟨?_, fun _ => .nil⟩⟩
  · rintro sid n ⟨item, rest, ns, -, -, hns⟩
    exact absurd hns (by simp [view, RetransmissionQueue.view, OutstandingData.view, new])
  · intro g hg
    exact absurd hg (by simp [view, RetransmissionQueue.view, OutstandingData.view, new])
  intro c hc
  exact (nomatch hc)

/-- **TSNs of messages.** The `k`-th chunk has the TSN `start + 1 + k`. The chunks of each message
have consecutive TSNs and together are what was sent of the message; TSNs with no end between them
are of one message; only the message that is still being sent may lack its end. -/
structure TsnRanges (start : Int) (s : SendSide) : Prop where
  next : s.rtx.outstandingData.nextTsn = start + 1 + s.queue.given.length
  items : ∀ tsn i, s.rtx.outstandingData.getItem tsn = some i →
    ∃ g, s.queue.given[(tsn - start - 1).toNat]? = some g ∧ Shows s.queue.messages i g
  sent : ∀ g ∈ s.queue.given, ∃ message o, s.queue.messages[g.message]? = some (message, o) ∧
    s.queue.sent g.message <+: message.payload
  ranges : ∀ n, OneRange s.queue.given n
  joined : ∀ (k d : Nat) (g g' : Given), s.queue.given[k]? = some g → s.queue.given[k + d]? = some g' →
    (∀ j x, k ≤ j → j < k + d → s.queue.given[j]? = some x → x.isEnd = false) →
    g'.message = g.message
  open_ : ∀ g ∈ s.queue.given.getLast?, g.isEnd = false → ∃ sid n ns,
    s.queue.numbers sid = n :: ns ∧ g.message = n

lemma Sequential.tsnRanges {start : Int} (h : Sequential start s) : TsnRanges start s := by
  have hassigned := h.traced.assigned
  have hlen := length_outstanding hassigned.length
  have hack : s.rtx.outstandingData.lastCumulativeTsnAck = start + s.view.acked.length := hassigned.ack
  have hsplit : s.queue.given = s.view.acked ++ s.view.outstanding := given_split s.view
  refine ⟨?_, ?_, ?_, ?_, ?_, ?_⟩
  · rw [nextTsn, highestOutstandingTsn, hack, hsplit, length_append, hlen]
    show start + _ + (s.view.items.length : Int) + 1 = _
    push_cast
    ring
  · intro tsn i hi
    obtain ⟨hlt, hget⟩ := getItem_eq_some.mp hi
    have hindex : (tsn - start - 1).toNat = s.view.acked.length + s.rtx.outstandingData.indexOf tsn := by
      rw [indexOf]
      omega
    have hk : s.rtx.outstandingData.indexOf tsn < s.view.outstanding.length := by
      rw [hlen]
      exact (List.getElem?_eq_some_iff.mp hget).1
    have hout := getElem?_eq_getElem hk
    refine ⟨s.view.outstanding[s.rtx.outstandingData.indexOf tsn], ?_, ?_⟩
    · rw [hindex, hsplit, getElem?_append_right (Nat.le_add_right _ _), Nat.add_sub_cancel_left]
      exact hout
    refine hassigned.shows (i, _) (mem_of_getElem? (i := s.rtx.outstandingData.indexOf tsn) ?_)
    rw [View.chunks, getElem?_zip_eq_some]
    exact ⟨hget, hout⟩
  · intro g hg
    obtain ⟨message, o, hm, hprefix, -⟩ := h.traced.numbered.parts g hg
    exact ⟨message, o, hm, hprefix⟩
  · exact oneRange h.turns.chain hassigned.ends
  · intro k d g g' hk hk' hopen
    exact message_eq_of_open h.turns.chain hk d g' hk' fun k' g hle hlt hg _ => hopen k' g hle hlt hg
  · intro g hg hend
    obtain ⟨-, sid, n, -, hp⟩ := h.turns.turn g hg hend
    obtain ⟨y, hy, -, hmsg⟩ := h.turns.last sid n hp
    obtain ⟨-, -, ns, -, -, hns⟩ := hp
    obtain rfl : y = g := some.inj (hy.symm.trans hg)
    exact ⟨sid, n, ns, hns, hmsg⟩

/-- A message of 300 bytes that must not be sent again is abandoned after its first fragment, with
another message waiting on the next stream. -/
def abandonHalfSent : List SendEvent :=
  [.add 0 ⟨1, 51, replicate 300 0⟩ { maxRetransmissions := some 0 },
   .add 0 ⟨2, 51, [1]⟩ {},
   .getChunksToSend 0 100,
   .handleT3RtxTimerExpiry,
   .getChunksToSend 0 100]

lemma given_discard {t : TracedQueue} {sid : StreamID} (messageId : OutgoingMessageId) {item : Item}
    {rest : List Item} (hitm : (t.queue.stream sid).items = item :: rest)
    (hid : item.messageId = messageId) : (t.discard sid messageId).2.given =
      t.given ++ [⟨(t.numbers sid).headD 0, [], false, true⟩] := by
  have hcreat := (core_eq ((quiet_getOrCreateStreamInfo t.queue sid).contents sid)).1
  have hfound := (edited_streamDiscard (hcreat.trans hitm) hid).1
  unfold TracedQueue.discard RRSendQueue.discard
  generalize (t.queue.getOrCreateStreamInfo sid).streamDiscard sid messageId = r at hfound
  obtain ⟨found, q⟩ := r
  subst hfound
  rfl

def sendOne : List SendEvent :=
  [.add 0 ⟨1, 51, [1]⟩ { maxRetransmissions := some 0 }, .getChunksToSend 0 1191]

/-- Then `count` messages are added on stream 2 and another one on stream 1, and the chunk is lost. -/
def reuseId (count : Nat) : List SendEvent :=
  sendOne ++ (replicate count (.add 0 ⟨2, 51, [2]⟩ {}) ++
    [.add 0 ⟨1, 51, [3]⟩ {}, .handleT3RtxTimerExpiry])

def oneChunk : OutstandingData.Item where
  messageId := 0
  data := ⟨1, 0, 0, 0, 51, [1], true, true, false⟩
  timeSent := 0
  maxRetransmissions := 0
  expiresAt := none
  lifecycleId := 0

structure OneOutstanding (count : Nat) (s : SendSide) : Prop where
  ready : s.Ready
  items : s.rtx.outstandingData.outstandingData = [oneChunk]
  ack : s.rtx.outstandingData.lastCumulativeTsnAck = 0
  given : s.queue.given = [⟨0, [1], true, true⟩]
  numbers : s.queue.numbers 1 = []
  messages : s.queue.messages.length = count
  stream : (s.queue.queue.stream 1).items = []

lemma oneOutstanding_sendOne : OneOutstanding 1 (run step (new 1 100000 {} true false) sendOne) := by
  refine ⟨(run_moves (ready_new 1 100000 {} true false) ?_).2, ?_, ?_, ?_, ?_, ?_, ?_⟩
  · simp [sendOne, SendEvent.Ok]
  all_goals decide +kernel

lemma OneOutstanding.add {count : Nat} (h : OneOutstanding count s) :
    OneOutstanding (count + 1) (s.step (.add 0 ⟨2, 51, [2]⟩ {})) := by
  refine ⟨(step_moves (e := .add 0 ⟨2, 51, [2]⟩ {}) h.ready (cons_ne_nil _ _)).2, h.items, h.ack,
    h.given, ?_, ?_, ?_⟩
  · show update s.queue.numbers 2 (s.queue.numbers 2 ++ [s.queue.messages.length]) 1 = []
    rw [update_of_ne (by decide), h.numbers]
  · show (s.queue.messages ++ [_]).length = count + 1
    rw [length_append, h.messages, length_singleton]
  obtain ⟨hedit, -⟩ := edited_streamAdd s.queue.queue 2 ⟨2, 51, [2]⟩ _
  exact (core_eq (hedit.others 1 (by decide)).1).1.trans h.stream

lemma OneOutstanding.adds (more : Nat) : ∀ {count : Nat} {s : SendSide}, OneOutstanding count s →
    OneOutstanding (count + more) (run step s (replicate more (.add 0 ⟨2, 51, [2]⟩ {}))) := by
  induction more with
  | zero =>
    intro count s h
    exact h
  | succ more ih =>
    intro count s h
    rw [replicate_succ, run_cons, ← Nat.add_assoc, Nat.add_right_comm]
    exact ih h.add

lemma nackAll_oneChunk {o : OutstandingData} (hitm : o.outstandingData = [oneChunk])
    (hcum : o.lastCumulativeTsnAck = 0) (t : TracedQueue) :
    (o.nackAll TracedQueue.discard t).2 = (t.discard 1 0).2 := by
  obtain ⟨_, cum, items, _, _, _, _, _, _, _⟩ := o
  subst hitm hcum
  rfl

lemma OneOutstanding.lose (h : OneOutstanding (2 ^ 32) s) :
    ((s.step (.add 0 ⟨1, 51, [3]⟩ {})).step .handleT3RtxTimerExpiry).queue.given =
      [⟨0, [1], true, true⟩, ⟨2 ^ 32, [], false, true⟩] := by
  have hid : s.queue.queue.currentMessageId = 0 := by
    rw [h.ready.live.numbered.nextId, h.messages]
    decide
  have hitm : ((s.step (.add 0 ⟨1, 51, [3]⟩ {})).queue.queue.stream 1).items =
      [Item.new 0 ⟨1, 51, [3]⟩ ⟨false, MaxRetransmits.noLimit, none, 0⟩] := by
    have hcore := (edited_streamAdd s.queue.queue 1 ⟨1, 51, [3]⟩
      ⟨false, MaxRetransmits.noLimit, none, 0⟩).1.core
    rw [hid, h.stream] at hcore
    exact (core_eq hcore).1
  have hnums : (s.step (.add 0 ⟨1, 51, [3]⟩ {})).queue.numbers 1 = [2 ^ 32] := by
    show update s.queue.numbers 1 (s.queue.numbers 1 ++ [s.queue.messages.length]) 1 = _
    rw [update_self, h.numbers, h.messages]
    rfl
  have hlose : ((s.step (.add 0 ⟨1, 51, [3]⟩ {})).step .handleT3RtxTimerExpiry).queue =
      ((s.step (.add 0 ⟨1, 51, [3]⟩ {})).queue.discard 1 0).2 := nackAll_oneChunk h.items h.ack _
  rw [hlose, given_discard 0 hitm rfl, hnums]
  show s.queue.given ++ _ = _
  rw [h.given]
  rfl

lemma given_reuseId (count : Nat) (hcount : 1 + count = 2 ^ 32) :
    (run step (new 1 100000 {} true false) (reuseId count)).queue.given =
      [⟨0, [1], true, true⟩, ⟨2 ^ 32, [], false, true⟩] := by
  have hadds := oneOutstanding_sendOne.adds count
  rw [hcount] at hadds
  rw [reuseId, run_append, run_append]
  exact hadds.lose

end SendSide

end WebRtc.Dcsctp
