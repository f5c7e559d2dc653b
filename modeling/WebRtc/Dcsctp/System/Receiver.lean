import WebRtc.Dcsctp.Rx.ReassemblyQueue
import WebRtc.Dcsctp.Rx.SackSoundness
import WebRtc.Dcsctp.System.SentLog

/-!
# dcSCTP — a receiver fed from a sender's log

A `DataTracker` that filters duplicates and a `ReassemblyQueue`. Chunk `k` of the sender's log
carries the TSN `wireTsn initialTsn k`. By the invariant `Receives` the tracker has seen exactly the
chunks received, and every ordered stream is in step with them.
-/

namespace WebRtc.Dcsctp

open Lib Numerics TrackerRun TraditionalReassemblyStreams SeqNumUnwrapper ReassemblyQueue DataTracker SentChunk List

def wireTsn (initialTsn : TSN) (k : Nat) : TSN := initialTsn + BitVec.ofNat 32 k

/-- A receiver: every chunk goes to `DataTracker::Observe` when `IsTSNValid` accepts it, and
to `ReassemblyQueue::Add` when it is seen for the first time. -/
structure Receiver where
  tracker : DataTracker
  queue : ReassemblyQueue

namespace Receiver

def new (initialTsn : TSN) (maxSizeBytes : Nat) (useMessageInterleaving : Bool) : Receiver :=
  ⟨DataTracker.new initialTsn, ReassemblyQueue.new maxSizeBytes useMessageInterleaving⟩

def accepts (r : Receiver) (tsn : TSN) : Bool :=
  r.tracker.isTSNValid tsn && (r.tracker.observe tsn false).1

def receive (r : Receiver) (tsn : TSN) (data : Data) : Receiver :=
  if r.tracker.isTSNValid tsn then
    { tracker := (r.tracker.observe tsn false).2
      queue := if (r.tracker.observe tsn false).1 then r.queue.add tsn data else r.queue }
  else r

end Receiver

/-! ## The tracker -/

/-- The tracker has seen the chunks `R` of the log, the first of which is at position
`first`, and everything before. -/
structure TrackerFollows (first : Int) (R : Nat → Prop) (t : DataTracker) : Prop where
  inv : t.Inv
  seen : ∀ k : Nat, t.Seen (first + k) ↔ R k
  below : first ≤ t.lastCumulativeAckedTsn + 1

lemma wrap_firstPosition (initialTsn : TSN) (k : Nat) :
    wrap 32 (firstPosition initialTsn + k) = wireTsn initialTsn k := by
  have h1 : wrap 32 (((initialTsn - 1).toNat : Int) + 1) = initialTsn := by
    rw [wrap_add_one, wrap_toNat, BitVec.sub_add_cancel]
  rw [firstPosition, wireTsn]
  rw [wrap, BitVec.ofInt_add, BitVec.ofInt_natCast]
  rw [wrap] at h1
  rw [h1]

lemma trackerFollows_new (tsn0 : TSN) :
    TrackerFollows (firstPosition tsn0) (fun _ => False) (DataTracker.new tsn0) := by
  refine ⟨inv_new _, fun k => ?_, le_refl _⟩
  simp only [iff_false]
  rintro (hle | hcov)
  · have hcum : (new tsn0).lastCumulativeAckedTsn = (tsn0 - 1).toNat := rfl
    rw [firstPosition] at hle
    omega
  · exact absurd hcov (by simp [DataTracker.new])

variable {first : Int} {R : Nat → Prop} {t : DataTracker} {k : Nat}

lemma TrackerFollows.received_of_le (h : TrackerFollows first R t)
    (hk : first + k ≤ t.lastCumulativeAckedTsn) : R k := (h.seen k).mp (.inl hk)

lemma TrackerFollows.le_of_received (h : TrackerFollows first R t) (hk : R k) :
    first + k ≤ t.lastCumulativeAckedTsn + 100000 := ((h.seen k).mpr hk).le h.inv.toBlocksInv

lemma TrackerFollows.observe (h : TrackerFollows first R t) {tsn : TSN}
    (hpos : t.tsnUnwrapper.peekUnwrap tsn = first + k) (hv : t.isTSNValid tsn = true) (imm : Bool) :
    ((t.observe tsn imm).1 = true ↔ ¬ R k) ∧
      TrackerFollows first (fun k' => R k' ∨ k' = k) (t.observe tsn imm).2 ∧
      (¬ R k → t.lastCumulativeAckedTsn < first + k) ∧
      first + k ≤ t.lastCumulativeAckedTsn + 100000 := by
  obtain ⟨hinv, hnew, hseen, -, hcum⟩ := observe_spec h.inv hv imm
  have hle := le_of_isTSNValid h.inv hv
  rw [hpos] at hnew hseen hle
  refine ⟨hnew.trans (not_congr (h.seen k)), ⟨hinv, fun k' => ?_, ?_⟩, fun hR => ?_, hle⟩
  · rw [hseen, h.seen]
    constructor
    · rintro (hR | heq)
      · exact .inl hR
      · exact .inr (by omega)
    rintro (hR | rfl)
    · exact .inl hR
    · exact .inr rfl
  · have := h.below
    omega
  · by_contra hcon
    exact hR (h.received_of_le (not_lt.mp hcon))

/-! ## The fragments received of one stream -/

def receivedOf (log : List SentChunk) (sid : StreamID) (epoch : Nat) (R : Nat → Prop) :
    Nat → Nat → Prop := fun i j =>
  j < (blockOf key log ⟨false, sid, epoch, i⟩).length ∧
    R (startOf key log ⟨false, sid, epoch, i⟩ + j)

def SentChunk.On (x : SentChunk) (sid : StreamID) (epoch : Nat) : Prop :=
  x.data.isUnordered = false ∧ x.data.streamId = sid ∧ x.epoch = epoch

instance (x : SentChunk) (sid : StreamID) (epoch : Nat) : Decidable (x.On sid epoch) :=
  inferInstanceAs (Decidable (_ ∧ _))

variable {x : SentChunk}

section ReceivedOf

variable {base : Int} {log : List SentChunk} {sid : StreamID} {epoch : Nat}

lemma length_frags (base : Int) (i : Nat) : ((dataLayout base log sid epoch).frags i).length =
    (blockOf key log ⟨false, sid, epoch, i⟩).length := length_map _

lemma chunk_at (h : Conforming log) {i j : Nat}
    (hj : j < (blockOf key log ⟨false, sid, epoch, i⟩).length) :
    ∃ x, log[startOf key log ⟨false, sid, epoch, i⟩ + j]? = some x ∧
      x.On sid epoch ∧ x.number = i ∧ x.fragment = j := by
  rw [← length_frags 0] at hj
  obtain ⟨k, x, hk, -, hfrag, hnum, hord, hsid, hep, hidx⟩ :=
    log_of_dataLayout h (getElem?_eq_getElem hj)
  exact ⟨x, hidx ▸ hk, ⟨hord, hsid, hep⟩, hnum, hfrag⟩

lemma receivedOf_on (h : Conforming log) (hk : log[k]? = some x) (hon : x.On sid epoch) :
    receivedOf log sid epoch (fun k' => R k' ∨ k' = k) =
      Receive (receivedOf log sid epoch R) x.number x.fragment := by
  obtain ⟨hfrag, hkey⟩ := dataLayout_of_log 0 h hk hon.1 hon.2.1 hon.2.2
  have hlt := (List.getElem?_eq_some_iff.mp hfrag).1
  rw [length_frags] at hlt
  simp only [dataLayout] at hkey
  funext i j
  apply propext
  constructor
  · rintro ⟨hj, hR | heq⟩
    · exact .inl ⟨hj, hR⟩
    obtain ⟨x', hx', -, hnum, hfr⟩ := chunk_at h hj
    rw [heq, hk] at hx'
    cases hx'
    exact .inr ⟨hnum.symm, hfr.symm⟩
  · rintro (⟨hj, hR⟩ | ⟨rfl, rfl⟩)
    · exact ⟨hj, .inl hR⟩
    · exact ⟨hlt, .inr (by omega)⟩

lemma receivedOf_off (h : Conforming log) (hk : log[k]? = some x) (hoff : ¬ x.On sid epoch) :
    receivedOf log sid epoch (fun k' => R k' ∨ k' = k) = receivedOf log sid epoch R := by
  funext i j
  apply propext
  constructor
  · rintro ⟨hj, hR | heq⟩
    · exact ⟨hj, hR⟩
    obtain ⟨x', hx', hon, -, -⟩ := chunk_at h hj
    rw [heq, hk] at hx'
    cases hx'
    exact absurd hon hoff
  · rintro ⟨hj, hR⟩
    exact ⟨hj, .inl hR⟩

/-- The tracker accepts nothing further ahead than its window, so that of a message whose
last fragment has arrived only few fragments can be missing. -/
lemma fewMissing_of_follows (hfol : TrackerFollows first R t) :
    FewMissing (dataLayout base log sid epoch) (receivedOf log sid epoch R) := by
  intro i j chunks hs hR hlast
  have hle := hfol.le_of_received hR.2
  have hsize := hs.size_ge (b := (j + 1) - 100000) (by omega) fun j' hj' => by
    refine ⟨by have := hR.1; omega, hfol.received_of_le ?_⟩
    omega
  omega

end ReceivedOf

/-! ## One ordered stream -/

/-- An ordered stream is in step with the received chunks: it has handed over the messages
before the expected one, and remembers the number of the message it saw last. -/
structure StreamFollows (base : Int) (log : List SentChunk) (sid : StreamID) (epoch : Nat)
    (R : Nat → Prop) (last : Nat) (handed : List DcSctpMessage) (s : OrderedStream) : Prop where
  started : s.ssnUnwrapper.lastValue.isSome
  last_eq : s.ssnUnwrapper.lastUnwrapped = last
  tracks : ∃ n, s.Follows (dataLayout base log sid epoch) n (receivedOf log sid epoch R) ∧
    handed = messagesBetween (dataLayout base log sid epoch) 0 n ∧
    (Short (dataLayout base log sid epoch) →
      ¬ Done (dataLayout base log sid epoch) (receivedOf log sid epoch R) n)

section Stream

variable {base : Int} {log : List SentChunk} {sid : StreamID} {epoch last : Nat}
  {handed : List DcSctpMessage} {s : OrderedStream}

lemma messagesBetween_append {κ : Type} [LinearOrder κ] {L : Layout κ Data} {a b c : Nat}
    (hab : a ≤ b) (hbc : b ≤ c) :
    messagesBetween L a b ++ messagesBetween L b c = messagesBetween L a c := by
  unfold messagesBetween
  rw [← map_append]
  congr 1
  have hb : b = a + (b - a) := by omega
  conv_lhs => rw [hb]
  rw [show a + (b - a) - a = b - a by omega, range'_append_1]
  congr 1
  omega

lemma streamFollows_new (hnone : ∀ i j, ¬ receivedOf log sid epoch R i j) :
    StreamFollows base log sid epoch R 0 [] (OrderedStream.new 0) := by
  have hR : receivedOf log sid epoch R = fun _ _ => False := by
    funext i j
    exact propext ⟨fun h => hnone i j h, False.elim⟩
  refine ⟨rfl, rfl, 0, ?_, by simp, fun _ hdone => ?_⟩
  · rw [hR]
    exact ⟨rfl, Holds.empty, fun i hi => absurd hi (Nat.not_lt_zero i), fun i j h => h.elim⟩
  · exact hnone 0 0 (hdone.2 0 hdone.1.length_pos)

lemma StreamFollows.add (hlog : Conforming log)
    (h : StreamFollows base log sid epoch R last handed s)
    (hk : log[k]? = some x) (hon : x.On sid epoch) (hnew : ¬ R k)
    (hfew : FewMissing (dataLayout base log sid epoch)
      (receivedOf log sid epoch fun k' => R k' ∨ k' = k))
    (hnear : s.ssnUnwrapper.Near x.number) :
    StreamFollows base log sid epoch (fun k' => R k' ∨ k' = k) x.number
      (handed ++ (s.add (base + k) x.data).messages) (s.add (base + k) x.data).state := by
  obtain ⟨hstarted, hlast, n, hf, rfl, hstop⟩ := h
  obtain ⟨hfrag, hkey⟩ := dataLayout_of_log base hlog hk hon.1 hon.2.1 hon.2.2
  have hfresh : ¬ receivedOf log sid epoch R x.number x.fragment := by
    rintro ⟨-, hR⟩
    simp only [dataLayout] at hkey
    exact hnew (by convert hR using 1; omega)
  have hssn : s.ssnUnwrapper.peekUnwrap x.data.ssn = x.number := by
    rw [(hlog k x hk).ssn hon.1, ← BitVec.ofInt_natCast]
    exact peekUnwrap_wrap hnear (by omega)
  rw [receivedOf_on hlog hk hon] at hfew
  obtain ⟨n', hle, hf', hmsgs, hunw, hstop'⟩ := OrderedStream.add_follows
    (dataLayout_wellFormed base hlog) dataLayout_spans hfrag hfresh hfew hf hssn
  rw [hkey] at hf' hmsgs hunw
  refine ⟨by rw [hunw]; rfl, by rw [hunw]; exact hssn, ?_⟩
  rw [receivedOf_on hlog hk hon]
  refine ⟨n', hf', ?_, fun hshort => ?_⟩
  · rw [hmsgs, messagesBetween_append (Nat.zero_le n) hle]
  · exact hstop' hshort (hstop hshort)

lemma StreamFollows.off (hlog : Conforming log)
    (h : StreamFollows base log sid epoch R last handed s)
    (hk : log[k]? = some x) (hoff : ¬ x.On sid epoch) :
    StreamFollows base log sid epoch (fun k' => R k' ∨ k' = k) last handed s := by
  obtain ⟨hstarted, hlast, htracks⟩ := h
  refine ⟨hstarted, hlast, ?_⟩
  rw [receivedOf_off hlog hk hoff]
  exact htracks

end Stream

/-! ## The reassembly queue -/

lemma TraditionalReassemblyStreams.add_ordered_self (t : TraditionalReassemblyStreams)
    (tsn : Int) {d : Data} (hord : d.isUnordered = false) :
    (t.add tsn d).state.ordered d.streamId = ((t.ordered d.streamId).add tsn d).state ∧
      (t.add tsn d).messages = ((t.ordered d.streamId).add tsn d).messages := by
  simp [add, ordered, hord]

lemma TraditionalReassemblyStreams.add_ordered_other (t : TraditionalReassemblyStreams)
    (tsn : Int) {d : Data} {sid : StreamID} (h : d.isUnordered = true ∨ d.streamId ≠ sid) :
    (t.add tsn d).state.ordered sid = t.ordered sid := by
  unfold add
  by_cases hu : d.isUnordered = true
  · rw [if_pos hu]
    rfl
  rw [if_neg hu]
  have hne : sid ≠ d.streamId := (h.resolve_left hu).symm
  simp [ordered, OrdMap.find?_insert_ne _ _ hne]

lemma ReassemblyQueue.add_direct {q : ReassemblyQueue} (h : q.deferredResetStreams = none)
    (tsn : TSN) (d : Data) :
    (q.add tsn d).streams = (q.streams.add (q.tsnUnwrapper.peekUnwrap tsn) d).state ∧
      (q.add tsn d).reassembledMessages = q.reassembledMessages ++
        (q.streams.add (q.tsnUnwrapper.peekUnwrap tsn) d).messages ∧
      (q.add tsn d).tsnUnwrapper = (q.tsnUnwrapper.unwrap tsn).2 ∧
      (q.add tsn d).deferredResetStreams = none := by
  simp [add, defers, h, apply]

/-- The queue's own TSN unwrapper has seen nothing yet, or a received chunk that the
cumulative ack has not left far behind. -/
def QueuePosition (first base : Int) (R : Nat → Prop) (t : DataTracker)
    (u : SeqNumUnwrapper 32) : Prop :=
  (u.lastValue = none ∧ ∀ k, ¬ R k) ∨
    ∃ k, R k ∧ u.lastValue.isSome ∧ u.lastUnwrapped = base + k ∧
      t.lastCumulativeAckedTsn ≤ first + k + 100000

/-- **The receiver is in step with the log.** `R` are the chunks received, `last` and `handed`
the last message number and the messages handed over, for each ordered stream. -/
structure Receives (initialTsn : TSN) (log : List SentChunk) (R : Nat → Prop)
    (last : StreamID → Nat) (handed : StreamID → List DcSctpMessage) (r : Receiver) : Prop where
  tracker : TrackerFollows (firstPosition initialTsn) R r.tracker
  direct : r.queue.deferredResetStreams = none
  queue : ∃ base streams, r.queue.streams = .traditional streams ∧
    (∀ k : Nat, wrap 32 (base + k) = wireTsn initialTsn k) ∧
    QueuePosition (firstPosition initialTsn) base R r.tracker r.queue.tsnUnwrapper ∧
    ∀ sid, StreamFollows base log sid 0 R (last sid) (handed sid) (streams.ordered sid)

lemma receives_new (tsn0 : TSN) (log : List SentChunk) (maxSize : Nat) :
    Receives tsn0 log (fun _ => False) (fun _ => 0) (fun _ => [])
      (Receiver.new tsn0 maxSize false) := by
  refine ⟨trackerFollows_new tsn0, rfl, firstPosition tsn0, .empty, rfl,
    wrap_firstPosition tsn0, .inl ⟨rfl, fun _ h => h⟩, fun sid => ?_⟩
  exact streamFollows_new fun i j h => h.2

lemma StreamFollows.rebase {base base' : Int} {log : List SentChunk} {sid : StreamID}
    {epoch last : Nat} {handed : List DcSctpMessage} {s : OrderedStream} (hnone : ∀ k, ¬ R k)
    (h : StreamFollows base log sid epoch R last handed s) :
    StreamFollows base' log sid epoch R last handed s := by
  obtain ⟨hstarted, hlast, n, hf, hhand, -⟩ := h
  have hR : ∀ i j, ¬ receivedOf log sid epoch R i j := fun i j hij => hnone _ hij.2
  refine ⟨hstarted, hlast, n, ⟨hf.next_eq, ?_, ?_, fun i j hij => absurd hij (hR i j)⟩, hhand,
    fun _ hdone => hR n 0 (hdone.2 0 hdone.1.length_pos)⟩
  · have hemp := hf.holds.eq_empty fun i j _ => hR i j
    rw [hemp]
    exact ⟨fun q c hmem => absurd hmem OrdMap.not_mem_empty, fun i j _ hij => absurd hij (hR i j)⟩
  intro i hi
  have hdone := hf.done i hi
  exact absurd (hdone.2 0 hdone.1.length_pos) (hR i 0)

/-! ## One arrival -/

lemma wrap_shift {base : Int} (h : wrap 32 (base + k) = wrap 32 (first + k)) (k' : Nat) :
    wrap 32 (base + k') = wrap 32 (first + k') := by
  rw [wrap_eq_wrap_iff] at h ⊢
  omega

lemma TrackerFollows.cum_le {t' : DataTracker}
    (h : TrackerFollows first R t) (h' : TrackerFollows first (fun k' => R k' ∨ k' = k) t')
    (hk : t.lastCumulativeAckedTsn < first + k) :
    t'.lastCumulativeAckedTsn ≤ first + k + 100000 := by
  by_cases hlt : t'.lastCumulativeAckedTsn < first
  · omega
  obtain ⟨c, hc⟩ : ∃ c : Nat, t'.lastCumulativeAckedTsn = first + c :=
    ⟨(t'.lastCumulativeAckedTsn - first).toNat, by omega⟩
  rcases h'.received_of_le (k := c) (by omega) with hR | rfl
  · have := h.le_of_received hR
    omega
  · omega

/-- Where the queue unwraps the TSN of an accepted chunk to, possibly after fixing the base. -/
lemma QueuePosition.unwrap {tsn0 : TSN} {base : Int} {u : SeqNumUnwrapper 32}
    (htr : TrackerFollows (firstPosition tsn0) R t)
    (hwire : ∀ k : Nat, wrap 32 (base + k) = wireTsn tsn0 k)
    (hq : QueuePosition (firstPosition tsn0) base R t u)
    (hlo : t.lastCumulativeAckedTsn < firstPosition tsn0 + k)
    (hhi : firstPosition tsn0 + k ≤ t.lastCumulativeAckedTsn + 100000) :
    ∃ base', (∀ k : Nat, wrap 32 (base' + k) = wireTsn tsn0 k) ∧
      u.peekUnwrap (wireTsn tsn0 k) = base' + k ∧ (base' = base ∨ ∀ k, ¬ R k) := by
  rcases hq with ⟨hnone, hR⟩ | ⟨kl, hkl, hsome, hlast, hcum⟩
  · have hpeek : u.peekUnwrap (wireTsn tsn0 k) = (wireTsn tsn0 k).toNat := by
      unfold peekUnwrap
      rw [hnone]
    refine ⟨(wireTsn tsn0 k).toNat - k, fun k' => ?_, by rw [hpeek]; omega, .inr hR⟩
    rw [← hwire k']
    refine wrap_shift (k := k) ?_ k'
    rw [hwire k, Int.sub_add_cancel, wrap_toNat]
  refine ⟨base, hwire, ?_, .inl rfl⟩
  rw [← hwire k]
  have hle := htr.le_of_received hkl
  refine peekUnwrap_wrap ⟨hsome, ?_, ?_⟩ (by omega)
  · rw [hlast]
    omega
  rw [hlast]
  omega

def lastAfter (last : StreamID → Nat) (x : SentChunk) : StreamID → Nat := fun sid =>
  if x.data.isUnordered = false ∧ x.data.streamId = sid then x.number else last sid

def handedAfter (handed : StreamID → List DcSctpMessage) (x : SentChunk)
    (messages : List DcSctpMessage) : StreamID → List DcSctpMessage := fun sid =>
  if x.data.isUnordered = false ∧ x.data.streamId = sid then handed sid ++ messages else handed sid

variable {initialTsn : TSN} {log : List SentChunk} {last : StreamID → Nat}
  {handed : StreamID → List DcSctpMessage} {r : Receiver}

lemma peekUnwrap_wireTsn {u : SeqNumUnwrapper 32} (h : u.Near (firstPosition initialTsn + k)) :
    u.peekUnwrap (wireTsn initialTsn k) = firstPosition initialTsn + k := by
  rw [← wrap_firstPosition]
  exact peekUnwrap_wrap h (by omega)

lemma Receives.receive_accepted (hlog : Conforming log) (hep : ∀ x ∈ log, x.epoch = 0)
    (h : Receives initialTsn log R last handed r) (hk : log[k]? = some x)
    (htsn : r.tracker.tsnUnwrapper.Near (firstPosition initialTsn + k))
    (hacc : r.accepts (wireTsn initialTsn k) = true) (hnear : x.data.isUnordered = false →
      (x.number : Int) - last x.data.streamId < 2 ^ 15 ∧
        (last x.data.streamId : Int) - x.number < 2 ^ 15) :
    ∃ messages, (r.receive (wireTsn initialTsn k) x.data).queue.reassembledMessages =
        r.queue.reassembledMessages ++ messages ∧
      Receives initialTsn log (fun k' => R k' ∨ k' = k) (lastAfter last x)
        (handedAfter handed x messages) (r.receive (wireTsn initialTsn k) x.data) := by
  obtain ⟨htr, hdirect, base, streams, hstrs, hwire, hqpos, hstr⟩ := h
  have hpos := peekUnwrap_wireTsn htsn
  obtain ⟨hv, hobs⟩ := Bool.and_eq_true_iff.mp hacc
  obtain ⟨hnew, htr', hlo, hhi⟩ := htr.observe hpos hv false
  have hRk : ¬ R k := hnew.mp hobs
  obtain ⟨base', hwire', hpeek, hbase⟩ := hqpos.unwrap htr hwire (hlo hRk) hhi
  have hstr' : ∀ sid, StreamFollows base' log sid 0 R (last sid) (handed sid)
      (streams.ordered sid) := by
    intro sid
    rcases hbase with rfl | hnone
    · exact hstr sid
    · exact (hstr sid).rebase hnone
  obtain ⟨hqs, hqm, hqu, hqd⟩ := add_direct hdirect (wireTsn initialTsn k) x.data
  have hrec : r.receive (wireTsn initialTsn k) x.data =
      ⟨(r.tracker.observe (wireTsn initialTsn k) false).2,
        r.queue.add (wireTsn initialTsn k) x.data⟩ := by
    simp [Receiver.receive, hv, hobs]
  rw [hrec]
  rw [hstrs, hpeek] at hqs hqm
  refine ⟨(streams.add (base' + k) x.data).messages, hqm, htr', hqd, base',
    (streams.add (base' + k) x.data).state, hqs, hwire', ?_, fun sid => ?_⟩
  · refine .inr ⟨k, .inr rfl, ?_, ?_, htr.cum_le htr' (hlo hRk)⟩
    · rw [hqu]
      rfl
    rw [hqu]
    exact hpeek
  by_cases hon : x.data.isUnordered = false ∧ x.data.streamId = sid
  · obtain ⟨hord, rfl⟩ := hon
    obtain ⟨hst, hms⟩ := streams.add_ordered_self (base' + k) hord
    have hOn : x.On x.data.streamId 0 := ⟨hord, rfl, hep x (mem_of_getElem? hk)⟩
    have hs := hstr' x.data.streamId
    have hnr : (streams.ordered x.data.streamId).ssnUnwrapper.Near x.number := by
      refine ⟨hs.started, ?_, ?_⟩ <;> rw [hs.last_eq] <;> have := hnear hord <;> simp <;> omega
    have := hs.add hlog hk hOn hRk (fewMissing_of_follows htr') hnr
    simp only [lastAfter, handedAfter, hord, and_self, if_true]
    rw [hst, hms]
    exact this
  · have hoff : ¬ x.On sid 0 := fun h => hon ⟨h.1, h.2.1⟩
    have hoth2 : x.data.isUnordered = true ∨ x.data.streamId ≠ sid := by
      by_contra hcon
      rw [not_or, not_not, Bool.not_eq_true] at hcon
      exact hon hcon
    simp only [lastAfter, handedAfter, hon, if_false]
    rw [streams.add_ordered_other (base' + k) hoth2]
    exact (hstr' sid).off hlog hk hoff

lemma TrackerFollows.cum_eq {t' : DataTracker} (h : TrackerFollows first R t)
    (h' : TrackerFollows first R t') :
    t'.lastCumulativeAckedTsn = t.lastCumulativeAckedTsn := by
  -- the chunk right above the cumulative ack was not received, the ones below were
  have hle : ∀ {a b : DataTracker}, TrackerFollows first R a → TrackerFollows first R b →
      b.lastCumulativeAckedTsn ≤ a.lastCumulativeAckedTsn := by
    intro a b ha hb
    by_contra hlt
    obtain ⟨c, hc⟩ : ∃ c : Nat, a.lastCumulativeAckedTsn + 1 = first + c :=
      ⟨(a.lastCumulativeAckedTsn + 1 - first).toNat, by have := ha.below; omega⟩
    have hR : R c := hb.received_of_le (by omega)
    have hseen := (ha.seen c).mpr hR
    rw [← hc] at hseen
    exact not_seen_cum_succ ha.inv.toBlocksInv hseen
  exact le_antisymm (hle h h') (hle h' h)

/-- **A chunk that is not passed on**: rejected by `IsTSNValid`, or a duplicate. -/
lemma Receives.receive_dropped (h : Receives initialTsn log R last handed r)
    (htsn : r.tracker.tsnUnwrapper.Near (firstPosition initialTsn + k))
    (hacc : r.accepts (wireTsn initialTsn k) = false) (d : Data) :
    (r.receive (wireTsn initialTsn k) d).queue = r.queue ∧
      Receives initialTsn log R last handed (r.receive (wireTsn initialTsn k) d) := by
  unfold Receiver.receive
  by_cases hv : r.tracker.isTSNValid (wireTsn initialTsn k) = true
  · have hobs : (r.tracker.observe (wireTsn initialTsn k) false).1 = false := by
      simpa [Receiver.accepts, hv] using hacc
    rw [if_pos hv, hobs]
    obtain ⟨htr, hdirect, base, streams, hstrs, hwire, hqpos, hstr⟩ := h
    obtain ⟨hnew, htr', -⟩ := htr.observe (peekUnwrap_wireTsn htsn) hv false
    have hRk : R k := by
      by_contra hR
      rw [hnew.mpr hR] at hobs
      simp at hobs
    have hsame : (fun k' => R k' ∨ k' = k) = R := by
      funext k'
      apply propext
      constructor
      · rintro (hR | rfl)
        · exact hR
        · exact hRk
      · exact .inl
    rw [hsame] at htr'
    refine ⟨rfl, htr', hdirect, base, streams, hstrs, hwire, ?_, hstr⟩
    unfold QueuePosition
    rw [htr.cum_eq htr']
    exact hqpos
  · rw [if_neg hv]
    exact ⟨rfl, h⟩

end WebRtc.Dcsctp
