import WebRtc.Dcsctp.Tx.RRSendQueue

/-!
# dcSCTP — what the send queue's operations do to its streams

Every operation of `RRSendQueue` works on one stream (`Touches`), and most of them leave its numbers
and messages alone (`core`). The scheduler's active streams are those with something to send
(`Filed`), except for the stream whose turn it is (`Unfiled`).
-/

namespace WebRtc.Dcsctp

open Lib OutgoingStream

variable (s : OutgoingStream)

/-- The stream without its buffered amount and its times, which do not influence what it
sends. -/
def OutgoingStream.core : OutgoingStream :=
  { s with schedulerStream := { priority := 0 }, bufferedAmount := {} }

lemma OutgoingStream.core_eq {s s' : OutgoingStream} (h : s'.core = s.core) :
    s'.items = s.items ∧ s'.pauseState = s.pauseState ∧ s'.nextSsn = s.nextSsn ∧
      s'.nextOrderedMid = s.nextOrderedMid ∧ s'.nextUnorderedMid = s.nextUnorderedMid := by
  simp only [core, mk.injEq, true_and, and_true] at h
  exact ⟨h.2.2.2.2, h.1, h.2.2.2.1, h.2.2.1, h.2.1⟩

lemma OutgoingStream.bytesToSendInNextMessage_core :
    s.core.bytesToSendInNextMessage = s.bytesToSendInNextMessage := rfl

def OutgoingStream.partialKind : Option Bool :=
  match s.items with
  | [] => none
  | item :: _ => if item.mid.isSome then some item.attributes.unordered else none

/-- A paused stream has sent its messages in full, one that is about to be paused has not. -/
structure PauseOk (s : OutgoingStream) : Prop where
  paused : s.pauseState = .paused ∨ s.pauseState = .resetting → s.partialKind = none
  pending : s.pauseState = .pending → s.partialKind ≠ none

def OutgoingStream.Awake : Prop :=
  s.pauseState ≠ .paused ∧ s.pauseState ≠ .resetting

lemma OutgoingStream.awake_of_bytes {s : OutgoingStream}
    (h : 0 < s.bytesToSendInNextMessage) : s.Awake := by
  unfold bytesToSendInNextMessage at h
  split at h
  · exact absurd h (lt_irrefl 0)
  · next hn => exact not_or.mp hn

lemma PauseOk.awake {s : OutgoingStream} (h : PauseOk s) (hpart : s.partialKind ≠ none) :
    s.Awake := ⟨fun hc => hpart (h.paused (.inl hc)), fun hc => hpart (h.paused (.inr hc))⟩

namespace RRSendQueue

variable {q q' q'' : RRSendQueue} {sid : StreamID}

@[simp] lemma stream_setStream_self (q : RRSendQueue) (sid : StreamID) (s : OutgoingStream) :
    (q.setStream sid s).stream sid = s := by
  simp [stream, setStream]

lemma stream_setStream_ne (q : RRSendQueue) {sid' : StreamID} (s : OutgoingStream)
    (h : sid' ≠ sid) : (q.setStream sid s).stream sid' = q.stream sid' := by
  simp [stream, setStream, OrdMap.find?_insert_ne _ _ h]

@[simp] lemma scheduler_setStream (sid : StreamID) (s : OutgoingStream) :
    (q.setStream sid s).scheduler = q.scheduler := rfl

def ActiveAt (q : RRSendQueue) (sid : StreamID) (t : ℚ) : Prop :=
  (toLex (t, sid), ()) ∈ q.scheduler.activeStreams

/-! ## The other streams -/

/-- `q'` differs from `q` at stream `sid` only; it is nobody else's turn. -/
structure Touches (sid : StreamID) (q q' : RRSendQueue) : Prop where
  stream : ∀ sid', sid' ≠ sid → q'.stream sid' = q.stream sid'
  active : ∀ sid', sid' ≠ sid → ∀ t, q'.ActiveAt sid' t ↔ q.ActiveAt sid' t
  interleaving : q'.scheduler.enableMessageInterleaving = q.scheduler.enableMessageInterleaving
  current : q'.scheduler.currentStream = q.scheduler.currentStream
  sending : q'.scheduler.currentlySendingAMessage = q.scheduler.currentlySendingAMessage

namespace Touches

lemma refl (sid : StreamID) (q : RRSendQueue) : Touches sid q q :=
  ⟨fun _ _ => rfl, fun _ _ _ => Iff.rfl, rfl, rfl, rfl⟩

lemma trans (h : Touches sid q q') (h' : Touches sid q' q'') : Touches sid q q'' :=
  ⟨fun sid' hne => (h'.stream sid' hne).trans (h.stream sid' hne),
    fun sid' hne t => (h'.active sid' hne t).trans (h.active sid' hne t),
    h'.interleaving.trans h.interleaving, h'.current.trans h.current, h'.sending.trans h.sending⟩

end Touches

lemma touches_setStream (q : RRSendQueue) (sid : StreamID) (s : OutgoingStream) :
    Touches sid q (q.setStream sid s) :=
  ⟨fun _ hne => stream_setStream_ne q s hne, fun _ _ _ => Iff.rfl, rfl, rfl, rfl⟩

lemma touches_of_stream {s : OutgoingStream} (hstr : ∀ sid', q'.stream sid' =
    (q.setStream sid s).stream sid') (hsched : q'.scheduler = q.scheduler) : Touches sid q q' :=
  ⟨fun sid' hne => (hstr sid').trans (stream_setStream_ne q s hne),
    fun _ _ _ => by rw [ActiveAt, ActiveAt, hsched], by rw [hsched], by rw [hsched], by rw [hsched]⟩

section Operations

variable (q) (sid)

variable (bytes : Nat)

lemma touches_decreaseBufferedAmount :
    Touches sid q (q.decreaseBufferedAmount sid bytes) := touches_of_stream (fun _ => rfl) rfl

lemma touches_increaseBufferedAmount :
    Touches sid q (q.increaseBufferedAmount sid bytes) := touches_of_stream (fun _ => rfl) rfl

lemma touches_setItems (items : List Item) :
    Touches sid q (q.setItems sid items) := touches_setStream q sid _

variable (item : Item)

lemma touches_handleMessageExpired :
    Touches sid q (q.handleMessageExpired sid item) := by
  unfold handleMessageExpired
  split <;> exact touches_of_stream (fun _ => rfl) rfl

lemma touches_makeActive : Touches sid q (q.makeActive sid bytes) := by
  refine ⟨fun sid' hne => stream_setStream_ne q _ hne, fun sid' hne t => ?_, rfl, rfl, rfl⟩
  have hkey : ∀ t', toLex (t, sid') ≠ toLex (t', sid) := fun t' h =>
    hne (congrArg (fun k : ℚ ×ₗ StreamID => (ofLex k).2) h)
  simp [ActiveAt, makeActive, hkey]

lemma touches_maybeMakeActive : Touches sid q (q.maybeMakeActive sid) := by
  unfold maybeMakeActive
  split
  · exact Touches.refl sid q
  · exact touches_makeActive q sid _

lemma touches_makeInactive : Touches sid q (q.makeInactive sid) := by
  refine ⟨fun sid' hne => stream_setStream_ne q _ hne, fun sid' hne t => ?_, rfl, rfl, rfl⟩
  simp [ActiveAt, makeInactive, hne]

/-! ## The numbers and messages of the stream -/

lemma stream_decreaseBufferedAmount : (q.decreaseBufferedAmount sid bytes).stream sid =
    { q.stream sid with
      bufferedAmount := ((q.stream sid).bufferedAmount.decrease bytes).1 } :=
  stream_setStream_self q sid _

lemma stream_increaseBufferedAmount : (q.increaseBufferedAmount sid bytes).stream sid =
    { q.stream sid with bufferedAmount := (q.stream sid).bufferedAmount.increase bytes } :=
  stream_setStream_self q sid _

lemma core_decreaseBufferedAmount :
    ((q.decreaseBufferedAmount sid bytes).stream sid).core = (q.stream sid).core := by
  rw [stream_decreaseBufferedAmount]
  rfl

lemma core_handleMessageExpired :
    ((q.handleMessageExpired sid item).stream sid).core = (q.stream sid).core := by
  unfold handleMessageExpired
  split <;> exact core_decreaseBufferedAmount q sid _

lemma core_makeActive : ((q.makeActive sid bytes).stream sid).core = (q.stream sid).core := by
  refine (congrArg core (stream_setStream_self q sid _)).trans ?_
  rfl

lemma core_makeInactive : ((q.makeInactive sid).stream sid).core = (q.stream sid).core := by
  refine (congrArg core (stream_setStream_self q sid _)).trans ?_
  rfl

lemma scheduler_handleMessageExpired :
    (q.handleMessageExpired sid item).scheduler = q.scheduler := by
  unfold handleMessageExpired
  split <;> rfl

lemma schedulerStream_handleMessageExpired :
    ((q.handleMessageExpired sid item).stream sid).schedulerStream =
      (q.stream sid).schedulerStream := by
  have h : ((q.decreaseBufferedAmount sid item.remainingSize).stream sid).schedulerStream =
      (q.stream sid).schedulerStream := by
    rw [stream_decreaseBufferedAmount]
  unfold handleMessageExpired
  split <;> exact h

end Operations

/-! ## Active streams -/

/-- A stream is filed as active if and only if it has something to send, under its own
finish time. -/
def Filed (q : RRSendQueue) (sid : StreamID) : Prop :=
  ∀ t, q.ActiveAt sid t ↔
    0 < (q.stream sid).bytesToSendInNextMessage ∧ t = (q.stream sid).schedulerStream.nextFinishTime

def Unfiled (q : RRSendQueue) (sid : StreamID) : Prop := ∀ t, ¬ q.ActiveAt sid t

lemma Filed.of_touches {sid' : StreamID} (h : q.Filed sid') (ht : Touches sid q q')
    (hne : sid' ≠ sid) : q'.Filed sid' := by
  intro t
  rw [ht.active sid' hne, ht.stream sid' hne]
  exact h t

lemma filed_iff_unfiled (h : (q.stream sid).bytesToSendInNextMessage = 0) :
    q.Filed sid ↔ q.Unfiled sid := by
  simp [Filed, Unfiled, h]

lemma filed_makeActive (h : q.Unfiled sid) {bytes : Nat}
    (hb : 0 < (q.stream sid).bytesToSendInNextMessage) : (q.makeActive sid bytes).Filed sid := by
  intro t
  have hbytes : ((q.makeActive sid bytes).stream sid).bytesToSendInNextMessage =
      (q.stream sid).bytesToSendInNextMessage := by
    rw [← bytesToSendInNextMessage_core, core_makeActive, bytesToSendInNextMessage_core]
  rw [hbytes]
  have hstr : (q.makeActive sid bytes).stream sid = _ := stream_setStream_self q sid _
  rw [hstr]
  have hold : (toLex (t, sid), ()) ∉ q.scheduler.activeStreams := h t
  simp [ActiveAt, makeActive, hold, hb]

lemma filed_maybeMakeActive (h : q.Unfiled sid) : (q.maybeMakeActive sid).Filed sid := by
  unfold maybeMakeActive
  split
  · next hb => exact (filed_iff_unfiled hb).mpr h
  · next hb => exact filed_makeActive h (Nat.pos_of_ne_zero hb)

lemma unfiled_makeInactive (q : RRSendQueue) (sid : StreamID) :
    (q.makeInactive sid).Unfiled sid := by
  intro t
  simp [ActiveAt, makeInactive]

lemma unfiled_reschedule {key : ℚ ×ₗ StreamID} (h : q.Filed (ofLex key).2)
    (hkey : (key, ()) ∈ q.scheduler.activeStreams) :
    (q.reschedule key).Unfiled (ofLex key).2 := by
  intro t ht
  have htime : ∀ t', q.ActiveAt (ofLex key).2 t' →
      t' = (q.stream (ofLex key).2).schedulerStream.nextFinishTime := fun t' h' => ((h t').mp h').2
  have hmem : (toLex (t, (ofLex key).2), ()) ∈ q.scheduler.activeStreams ∧
      toLex (t, (ofLex key).2) ≠ key := by
    simpa [ActiveAt, reschedule] using ht
  refine hmem.2 ?_
  rw [htime t hmem.1, ← htime (ofLex key).1 hkey]
  rfl

lemma reschedule_spec (q : RRSendQueue) (key : ℚ ×ₗ StreamID) :
    (∀ sid, sid ≠ (ofLex key).2 → (q.reschedule key).stream sid = q.stream sid ∧
      ∀ t, (q.reschedule key).ActiveAt sid t ↔ q.ActiveAt sid t) ∧
    ((q.reschedule key).stream (ofLex key).2).core = (q.stream (ofLex key).2).core := by
  refine ⟨fun sid hne => ⟨stream_setStream_ne q _ hne, fun t => ?_⟩, ?_⟩
  · have hkey : toLex (t, sid) ≠ key := fun h =>
      hne (congrArg (fun k : ℚ ×ₗ StreamID => (ofLex k).2) h)
    simp [ActiveAt, reschedule, hkey]
  have h : (q.reschedule key).stream (ofLex key).2 = _ := stream_setStream_self q _ _
  rw [h]
  rfl

lemma sendFragment_keeps (maxSize : Nat) (item : Item) (rest : List Item) :
    (s.sendFragment maxSize item rest).2.schedulerStream = s.schedulerStream ∧
      (s.sendFragment maxSize item rest).2.bufferedAmount = s.bufferedAmount := by
  simp only [sendFragment, allocateNumbers]
  split_ifs <;> exact ⟨rfl, rfl⟩

lemma core_noteProduced (q : RRSendQueue) (resched : Bool) (sid : StreamID) (d : Data) :
    (∀ sid', ((q.noteProduced resched sid d).stream sid').core = (q.stream sid').core) ∧
      (q.noteProduced resched sid d).scheduler.enableMessageInterleaving =
        q.scheduler.enableMessageInterleaving ∧
      (q.noteProduced resched sid d).scheduler.currentStream = q.scheduler.currentStream ∧
      (q.noteProduced resched sid d).scheduler.currentlySendingAMessage = !d.isEnd := by
  obtain ⟨q1, hq1⟩ : ∃ q1 : RRSendQueue, q1 = { q with scheduler := { q.scheduler with
    currentlySendingAMessage := !d.isEnd
    virtualTime := (q.stream sid).schedulerStream.currentVirtualTime } } := ⟨_, rfl⟩
  obtain ⟨ht, hc⟩ : Touches sid q1 (q.noteProduced resched sid d) ∧
      ((q.noteProduced resched sid d).stream sid).core = (q1.stream sid).core := by
    unfold noteProduced
    rw [← hq1]
    dsimp only
    split_ifs
    · exact ⟨touches_makeActive q1 sid _, core_makeActive q1 sid _⟩
    · exact ⟨touches_makeInactive q1 sid, core_makeInactive q1 sid⟩
    · exact ⟨Touches.refl sid q1, rfl⟩
  subst hq1
  refine ⟨fun sid' => ?_, ht.interleaving, ht.current, ht.sending⟩
  by_cases h : sid' = sid
  · rw [h]
    exact hc
  rw [ht.stream sid' h]
  rfl

lemma filed_noteProduced {resched : Bool} {d : Data} (hoth : ∀ sid', sid' ≠ sid → q.Filed sid')
    (hturn : if resched then q.Unfiled sid
      else ∀ t, q.ActiveAt sid t ↔ t = (q.stream sid).schedulerStream.nextFinishTime) (sid' : StreamID) :
    (q.noteProduced resched sid d).Filed sid' := by
  unfold noteProduced
  generalize hq1 : ({ q with scheduler := { q.scheduler with
    currentlySendingAMessage := !d.isEnd
    virtualTime := (q.stream sid).schedulerStream.currentVirtualTime } } : RRSendQueue) = q1
  have hothers1 : ∀ sid', sid' ≠ sid → q1.Filed sid' := by
    rw [← hq1]
    exact hoth
  have hturn1 : if resched then q1.Unfiled sid
      else ∀ t, q1.ActiveAt sid t ↔ t = (q1.stream sid).schedulerStream.nextFinishTime := by
    rw [← hq1]
    exact hturn
  dsimp only
  split_ifs with hmore hdone
  · rw [hmore.1, if_pos rfl] at hturn1
    by_cases hs : sid' = sid
    · subst hs
      exact filed_makeActive hturn1 hmore.2
    · exact (hothers1 sid' hs).of_touches (touches_makeActive q1 sid _) hs
  · by_cases hs : sid' = sid
    · subst hs
      refine (filed_iff_unfiled ?_).mpr (unfiled_makeInactive q1 sid')
      rw [← bytesToSendInNextMessage_core, core_makeInactive]
      exact hdone.2
    · exact (hothers1 sid' hs).of_touches (touches_makeInactive q1 sid) hs
  by_cases hs : sid' = sid
  · subst hs
    cases resched with
    | true =>
      exact (filed_iff_unfiled (by simpa using hmore)).mpr (by simpa using hturn1)
    | false =>
      have hbytes : 0 < (q1.stream sid').bytesToSendInNextMessage := by
        simp only [Bool.not_false, true_and] at hdone
        omega
      intro t
      rw [and_iff_right hbytes]
      exact hturn1 t
  · exact hothers1 sid' hs

lemma bytes_append {s : OutgoingStream} {item : Item} (h : 0 < s.bytesToSendInNextMessage) :
    { s with items := s.items ++ [item] }.bytesToSendInNextMessage =
      s.bytesToSendInNextMessage := by
  have hawake := awake_of_bytes h
  unfold bytesToSendInNextMessage at h ⊢
  rw [if_neg (not_or.mpr hawake)] at h ⊢
  rw [if_neg (not_or.mpr hawake)]
  cases hitm : s.items with
  | nil =>
    rw [hitm] at h
    exact absurd h (lt_irrefl 0)
  | cons item rest => rfl

lemma partialKind_append {s : OutgoingStream} {item : Item} (hnew : item.mid = none) :
    { s with items := s.items ++ [item] }.partialKind = s.partialKind := by
  unfold partialKind
  cases s.items with
  | nil => simp [hnew]
  | cons item rest => rfl

/-! ## The size of a fragment -/

lemma size_produceLoop (now : Timestamp) (maxSize : Nat) (sid : StreamID) :
    ∀ (items : List Item) (q : RRSendQueue), ∀ d ∈ (produceLoop now maxSize sid items q).1,
      d.data.size ≤ maxSize
  | [], q => by simp [produceLoop]
  | item :: rest, q => by
    unfold produceLoop
    split
    · exact size_produceLoop now maxSize sid rest _
    rintro d ⟨⟩
    simp [Item.dataToSend, Item.chunkPayload, Data.size]

lemma size_schedulerStreamProduce (q : RRSendQueue) (sid : StreamID) (now : Timestamp)
    (maxSize : Nat) : ∀ d ∈ (q.schedulerStreamProduce sid now maxSize).1, d.data.size ≤ maxSize := by
  have hsize := size_produceLoop now maxSize sid (q.stream sid).items q
  unfold schedulerStreamProduce streamProduce
  split
  · simp
  rename_i hprod
  rw [hprod] at hsize
  exact hsize

lemma size_schedulerLoop (now : Timestamp) (maxSize : Nat) (resched : Bool) :
    ∀ (fuel : Nat) (q : RRSendQueue) (sid : StreamID) (d : DataToSend),
      (schedulerLoop now maxSize resched fuel q).1 = some (some (sid, d)) → d.data.size ≤ maxSize
  | 0, q, sid, d, h => by simp [schedulerLoop] at h
  | fuel + 1, q, sid, d, h => by
    unfold schedulerLoop at h
    split at h
    · simp at h
    dsimp only at h
    split at h
    · simp at h
    rename_i sid' _
    split at h
    · rename_i data q' hprod
      obtain ⟨-, rfl⟩ : sid' = sid ∧ data = d := by simpa using h
      have hsize := size_schedulerStreamProduce _ sid' now maxSize data (by rw [hprod]; rfl)
      exact hsize
    · exact size_schedulerLoop now maxSize resched fuel _ sid d h

instance : LawfulSendQueue RRSendQueue where
  size_produce q now maxSize d hd := by
    have hd : d ∈ (q.produce now maxSize).1 := hd
    unfold produce at hd
    split at hd
    · rename_i sid data q' hloop
      obtain rfl : data = d := by simpa using hd
      exact size_schedulerLoop now maxSize q.rescheduling _ q sid data (by rw [hloop])
    · simp at hd

end RRSendQueue

end WebRtc.Dcsctp
