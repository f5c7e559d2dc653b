import WebRtc.Dcsctp.Tx.QueueEdits

/-!
# dcSCTP — the send queue's operations as changes of its contents

One lemma per operation of `RRSendQueue` says which changes (`Edit`, `Sends`) it makes, and
one that it keeps the set of active streams in step (`Filed`). `Sound` is both together.
-/

namespace WebRtc.Dcsctp

open Lib OutgoingStream List Item

namespace RRSendQueue

variable {q q' q'' q1 : RRSendQueue} {sid : StreamID}

/-! ## Scheduling -/

/-- `q'` differs from `q` in times, thresholds and active streams only. -/
structure Quiet (q q' : RRSendQueue) : Prop where
  contents : ∀ sid, (q'.stream sid).core = (q.stream sid).core
  amounts : ∀ sid, q'.bufferedAmount sid = q.bufferedAmount sid
  total : q'.totalBufferedAmount.value = q.totalBufferedAmount.value
  reported : q'.lifecycleReports = q.lifecycleReports
  messageId : q'.currentMessageId = q.currentMessageId
  interleaving : q'.scheduler.enableMessageInterleaving = q.scheduler.enableMessageInterleaving
  sending : q'.scheduler.currentlySendingAMessage = q.scheduler.currentlySendingAMessage
  current : q'.scheduler.currentStream = q.scheduler.currentStream

variable {reports : List SendCallback} {rest : List Item} {s : OutgoingStream}

namespace Quiet

lemma refl (q : RRSendQueue) : Quiet q q :=
  ⟨fun _ => rfl, fun _ => rfl, rfl, rfl, rfl, rfl, rfl, rfl⟩

lemma sameTurn (h : Quiet q q') : SameTurn q q' := ⟨h.sending, fun _ => h.current⟩

lemma still (h : Quiet q q') : Still q q' :=
  ⟨fun sid => (core_eq (h.contents sid)).1, h.messageId, h.reported, h.interleaving,
    h.sameTurn⟩

lemma expiry (h : Quiet q q') : Expiry q q' :=
  .keep h.contents h.amounts h.total h.reported h.messageId h.interleaving h.sameTurn

lemma of_stream (sid : StreamID) (hcore : s.core = (q.stream sid).core)
    (hamt : s.bufferedAmount.value = q.bufferedAmount sid)
    (hstr : ∀ sid', q'.stream sid' = (q.setStream sid s).stream sid')
    (htot : q'.totalBufferedAmount = q.totalBufferedAmount)
    (hrepd : q'.lifecycleReports = q.lifecycleReports)
    (hid : q'.currentMessageId = q.currentMessageId)
    (hint : q'.scheduler.enableMessageInterleaving = q.scheduler.enableMessageInterleaving)
    (hsdg : q'.scheduler.currentlySendingAMessage = q.scheduler.currentlySendingAMessage)
    (hcrt : q'.scheduler.currentStream = q.scheduler.currentStream) : Quiet q q' := by
  refine ⟨fun sid' => ?_, fun sid' => ?_, by rw [htot], hrepd, hid, hint, hsdg, hcrt⟩ <;>
    by_cases hs : sid' = sid
  · subst hs
    rw [hstr, stream_setStream_self, hcore]
  · rw [hstr, stream_setStream_ne q s hs]
  · subst hs
    rw [bufferedAmount, hstr, stream_setStream_self, hamt]
  · rw [bufferedAmount, hstr, stream_setStream_ne q s hs]
    rfl

end Quiet

variable {contents : OutgoingStream}

lemma Edited.quiet {adjust : Nat → Nat}
    (h : Edited sid contents adjust reports q q1) (hq : Quiet q1 q') :
    Edited sid contents adjust reports q q' :=
  ⟨fun sid' hs => ⟨(hq.contents sid').trans (h.others sid' hs).1,
      (hq.amounts sid').trans (h.others sid' hs).2⟩,
    (hq.contents sid).trans h.core, (hq.amounts sid).trans h.amount, hq.total.trans h.total,
    hq.reported.trans h.reported, hq.interleaving.trans h.interleaving⟩

lemma Edited.of_stream {adjust : Nat → Nat} (hcore : s.core = contents.core)
    (hamt : s.bufferedAmount.value = adjust (q.bufferedAmount sid))
    (hstr : ∀ sid', q'.stream sid' = (q.setStream sid s).stream sid')
    (htot : q'.totalBufferedAmount.value = adjust q.totalBufferedAmount.value)
    (hrepd : q'.lifecycleReports = q.lifecycleReports ++ reports)
    (hint : q'.scheduler.enableMessageInterleaving = q.scheduler.enableMessageInterleaving) :
    Edited sid contents adjust reports q q' := by
  refine ⟨fun sid' hs => ?_, ?_, ?_, htot, hrepd, hint⟩
  · rw [bufferedAmount, hstr, stream_setStream_ne q s hs]
    exact ⟨rfl, rfl⟩
  · rw [hstr, stream_setStream_self, hcore]
  · rw [bufferedAmount, hstr, stream_setStream_self, hamt]

section Operations

variable (q) (sid)

lemma quiet_makeActive (bytes : Nat) : Quiet q (q.makeActive sid bytes) := by
  refine Quiet.of_stream sid ?_ ?_ (fun _ => rfl) rfl rfl rfl rfl rfl rfl <;> rfl

lemma quiet_maybeMakeActive : Quiet q (q.maybeMakeActive sid) := by
  unfold maybeMakeActive
  split
  · exact Quiet.refl q
  · exact quiet_makeActive q sid _

lemma quiet_makeInactive : Quiet q (q.makeInactive sid) := by
  refine Quiet.of_stream sid ?_ ?_ (fun _ => rfl) rfl rfl rfl rfl rfl rfl <;> rfl

lemma quiet_getOrCreateStreamInfo : Quiet q (q.getOrCreateStreamInfo sid) :=
  Quiet.of_stream sid rfl rfl (fun _ => rfl) rfl rfl rfl rfl rfl rfl

lemma quiet_setStreamPriority (priority : Nat) : Quiet q (q.setStreamPriority sid priority) := by
  refine Quiet.of_stream sid ?_ ?_ (fun _ => rfl) rfl rfl rfl rfl rfl rfl <;> rfl

/-! ## Amounts and reports -/

lemma lifecycleReports_decreaseBufferedAmount (bytes : Nat) :
    (q.decreaseBufferedAmount sid bytes).lifecycleReports = q.lifecycleReports := by
  simp only [lifecycleReports, decreaseBufferedAmount, filter_append]
  split_ifs <;> simp [SendCallback.isLifecycle]

lemma lifecycleReports_handleMessageExpired (item : Item) :
    (q.handleMessageExpired sid item).lifecycleReports =
      q.lifecycleReports ++ item.expiryReports := by
  have hdec := lifecycleReports_decreaseBufferedAmount q sid item.remainingSize
  unfold handleMessageExpired expiryReports
  split
  · rw [← hdec]
    simp [lifecycleReports, SendCallback.isLifecycle]
  · rw [append_nil, ← hdec]

lemma stream_handleMessageExpired (item : Item)
    (sid' : StreamID) : (q.handleMessageExpired sid item).stream sid' =
      (q.setStream sid { q.stream sid with bufferedAmount :=
        ((q.stream sid).bufferedAmount.decrease item.remainingSize).1 }).stream sid' := by
  unfold handleMessageExpired
  split <;> rfl

lemma total_handleMessageExpired (item : Item) :
    (q.handleMessageExpired sid item).totalBufferedAmount.value =
      q.totalBufferedAmount.value - item.remainingSize := by
  unfold handleMessageExpired
  split <;> rfl

lemma messageId_handleMessageExpired (item : Item) :
    (q.handleMessageExpired sid item).currentMessageId = q.currentMessageId := by
  unfold handleMessageExpired
  split <;> rfl

end Operations

lemma bytesToSendInNextMessage_congr {s' : OutgoingStream} (h : s'.core = s.core) :
    s'.bytesToSendInNextMessage = s.bytesToSendInNextMessage := by
  rw [← bytesToSendInNextMessage_core, h, bytesToSendInNextMessage_core]

lemma Filed.of_same (h : q.Filed sid) (hact : q'.scheduler.activeStreams = q.scheduler.activeStreams)
    (hfinish : (q'.stream sid).schedulerStream.nextFinishTime =
      (q.stream sid).schedulerStream.nextFinishTime)
    (hbytes : 0 < (q'.stream sid).bytesToSendInNextMessage ↔
      0 < (q.stream sid).bytesToSendInNextMessage) : q'.Filed sid := by
  intro t
  rw [ActiveAt, hact, hfinish, hbytes]
  exact h t

structure Rewritten (sid : StreamID) (contents : OutgoingStream) (adjust : Nat → Nat)
    (reports : List SendCallback) (q q' : RRSendQueue) : Prop
    extends Edited sid contents adjust reports q q' where
  streams : ∀ sid', sid' ≠ sid → q'.stream sid' = q.stream sid'
  finish : (q'.stream sid).schedulerStream.nextFinishTime =
    (q.stream sid).schedulerStream.nextFinishTime
  active : q'.scheduler.activeStreams = q.scheduler.activeStreams

namespace Rewritten

variable {contents contents' : OutgoingStream} {adjust adjust' : Nat → Nat}
  {reports reports' : List SendCallback}

lemma of_stream (hcore : s.core = contents.core)
    (hamt : s.bufferedAmount.value = adjust (q.bufferedAmount sid))
    (hfinish : s.schedulerStream.nextFinishTime = (q.stream sid).schedulerStream.nextFinishTime)
    (hstr : ∀ sid', q'.stream sid' = (q.setStream sid s).stream sid')
    (htot : q'.totalBufferedAmount.value = adjust q.totalBufferedAmount.value)
    (hrepd : q'.lifecycleReports = q.lifecycleReports ++ reports)
    (hint : q'.scheduler.enableMessageInterleaving = q.scheduler.enableMessageInterleaving)
    (hact : q'.scheduler.activeStreams = q.scheduler.activeStreams) :
    Rewritten sid contents adjust reports q q' :=
  ⟨Edited.of_stream hcore hamt hstr htot hrepd hint,
    fun sid' hs => (hstr sid').trans (stream_setStream_ne q s hs),
    by rw [hstr, stream_setStream_self, hfinish], hact⟩

lemma refl (q : RRSendQueue) : Rewritten sid (q.stream sid) id [] q q :=
  ⟨⟨fun _ _ => ⟨rfl, rfl⟩, rfl, rfl, rfl, (append_nil _).symm, rfl⟩, fun _ _ => rfl, rfl, rfl⟩

lemma trans (h : Rewritten sid contents adjust reports q q1)
    (h' : Rewritten sid contents' adjust' reports' q1 q') :
    Rewritten sid contents' (fun n => adjust' (adjust n)) (reports ++ reports') q q' := by
  refine ⟨⟨fun sid' hs => ?_, h'.core, ?_, ?_, ?_, h'.interleaving.trans h.interleaving⟩,
    fun sid' hs => (h'.streams sid' hs).trans (h.streams sid' hs), h'.finish.trans h.finish,
    h'.active.trans h.active⟩
  · exact ⟨(h'.others sid' hs).1.trans (h.others sid' hs).1,
      (h'.others sid' hs).2.trans (h.others sid' hs).2⟩
  · rw [h'.amount, h.amount]
  · rw [h'.total, h.total]
  · rw [h'.reported, h.reported, append_assoc]

section

variable (h : Rewritten sid contents adjust reports q q')

include h

section

variable (hf : ∀ sid, q.Filed sid)

include hf

lemma filed_ne {sid' : StreamID} (hs : sid' ≠ sid) : q'.Filed sid' :=
  (hf sid').of_same h.active (by rw [h.streams sid' hs]) (by rw [h.streams sid' hs])

lemma filed
    (hbytes : 0 < contents.bytesToSendInNextMessage ↔ 0 < (q.stream sid).bytesToSendInNextMessage)
    (sid' : StreamID) : q'.Filed sid' := by
  by_cases hs : sid' = sid
  · subst hs
    refine (hf sid').of_same h.active h.finish ?_
    rw [bytesToSendInNextMessage_congr h.core]
    exact hbytes
  · exact h.filed_ne hf hs

lemma filed_maybeMakeActive (hbytes : (q.stream sid).bytesToSendInNextMessage = 0)
    (sid' : StreamID) : (q'.maybeMakeActive sid).Filed sid' := by
  by_cases hs : sid' = sid
  · subst hs
    refine RRSendQueue.filed_maybeMakeActive fun t => ?_
    rw [ActiveAt, h.active]
    exact (filed_iff_unfiled hbytes).mp (hf sid') t
  · exact (h.filed_ne hf hs).of_touches (touches_maybeMakeActive q' sid) hs

lemma filed_makeInactive (hbytes : contents.bytesToSendInNextMessage = 0)
    (sid' : StreamID) : (q'.makeInactive sid).Filed sid' := by
  by_cases hs : sid' = sid
  · subst hs
    refine (filed_iff_unfiled ?_).mpr (unfiled_makeInactive q' sid')
    rw [bytesToSendInNextMessage_congr ((core_makeInactive q' sid').trans h.core)]
    exact hbytes
  · exact (h.filed_ne hf hs).of_touches (touches_makeInactive q' sid) hs

end

end

end Rewritten

lemma rewritten_handleMessageExpired (q : RRSendQueue) (sid : StreamID) (item : Item) :
    Rewritten sid (q.stream sid) (· - item.remainingSize) item.expiryReports q
      (q.handleMessageExpired sid item) :=
  .of_stream (s := { q.stream sid with bufferedAmount :=
      ((q.stream sid).bufferedAmount.decrease item.remainingSize).1 }) rfl rfl rfl
    (stream_handleMessageExpired q sid item) (total_handleMessageExpired q sid item)
    (lifecycleReports_handleMessageExpired q sid item)
    (by rw [scheduler_handleMessageExpired]) (by rw [scheduler_handleMessageExpired])

lemma rewritten_increaseBufferedAmount (q : RRSendQueue) (sid : StreamID) (bytes : Nat) :
    Rewritten sid (q.stream sid) (· + bytes) [] q (q.increaseBufferedAmount sid bytes) :=
  .of_stream (s := { q.stream sid with bufferedAmount := (q.stream sid).bufferedAmount.increase bytes })
    rfl rfl rfl (fun _ => rfl) rfl (append_nil _).symm rfl rfl

lemma Rewritten.setStream {adjust : Nat → Nat} (h : Rewritten sid contents adjust reports q q1)
    (contents' : OutgoingStream)
    (hcore : s.core = contents'.core) (hamt : s.bufferedAmount = (q1.stream sid).bufferedAmount)
    (hfinish : s.schedulerStream = (q1.stream sid).schedulerStream) :
    Rewritten sid contents' adjust reports q (q1.setStream sid s) := by
  have hset : Rewritten sid contents' id [] q1 (q1.setStream sid s) :=
    .of_stream hcore (by rw [hamt]; rfl) (by rw [hfinish]) (fun _ => rfl) rfl
      (append_nil _).symm rfl rfl
  simpa using h.trans hset

/-! ## Enqueueing -/

lemma streamAdd_eq (q : RRSendQueue) (sid : StreamID) (message : DcSctpMessage)
    (attrs : MessageAttributes) : ∃ q1 : RRSendQueue,
      q.streamAdd sid message attrs =
        (if 0 < (q.stream sid).bytesToSendInNextMessage then q1 else q1.maybeMakeActive sid) ∧
      q1.scheduler = q.scheduler ∧ q1.currentMessageId = q.currentMessageId + 1 ∧
      Rewritten sid ((q.stream sid).withItems
        ((q.stream sid).items ++ [Item.new q.currentMessageId message attrs]))
        (· + message.payload.length) [] q q1 := by
  have hinc := stream_increaseBufferedAmount q sid message.payload.length
  have htouch := touches_increaseBufferedAmount q sid message.payload.length
  generalize hq1 : q.increaseBufferedAmount sid message.payload.length = q1 at hinc htouch
  have hsched : q1.scheduler = q.scheduler := by rw [← hq1]; rfl
  have hrw : Rewritten sid (q.stream sid) (· + message.payload.length) [] q q1 := by
    rw [← hq1]
    exact rewritten_increaseBufferedAmount q sid _
  have hitm : (q1.stream sid).items = (q.stream sid).items := by rw [hinc]
  refine ⟨({ q1 with currentMessageId := q1.currentMessageId + 1 } : RRSendQueue).setItems sid
    ((q1.stream sid).items ++ [Item.new q.currentMessageId message attrs]), ?_, hsched, ?_, ?_⟩
  · simp only [streamAdd, decide_eq_true_eq, hq1]
    rfl
  · rw [← hq1]
    rfl
  have hset := hrw.setStream ((q.stream sid).withItems
      ((q.stream sid).items ++ [Item.new q.currentMessageId message attrs]))
    (s := { q1.stream sid with
      items := (q1.stream sid).items ++ [Item.new q.currentMessageId message attrs] })
    (by rw [hitm, hinc]; rfl) rfl rfl
  exact ⟨⟨hset.others, hset.core, hset.amount, hset.total, hset.reported, hset.interleaving⟩,
    hset.streams, hset.finish, hset.active⟩

lemma edited_streamAdd (q : RRSendQueue) (sid : StreamID) (message : DcSctpMessage)
    (attrs : MessageAttributes) :
    Edited sid ((q.stream sid).withItems
      ((q.stream sid).items ++ [Item.new q.currentMessageId message attrs]))
      (· + message.payload.length) [] q (q.streamAdd sid message attrs) ∧
    (q.streamAdd sid message attrs).currentMessageId = q.currentMessageId + 1 ∧
    SameTurn q (q.streamAdd sid message attrs) := by
  obtain ⟨q1, heq, hsched, hid, hedit⟩ := streamAdd_eq q sid message attrs
  have hqui : Quiet q1 (q.streamAdd sid message attrs) := by
    rw [heq]
    split
    · exact Quiet.refl q1
    · exact quiet_maybeMakeActive q1 sid
  refine ⟨hedit.toEdited.quiet hqui, hqui.messageId.trans hid, ?_, fun _ => ?_⟩
  · rw [hqui.sending, hsched]
  · rw [hqui.current, hsched]

lemma edit_streamAdd (q : RRSendQueue) (sid : StreamID) {message : DcSctpMessage}
    (hpay : message.payload ≠ []) (attrs : MessageAttributes) :
    Edit q (q.streamAdd sid message attrs) := by
  obtain ⟨hedit, hid, hturn⟩ := edited_streamAdd q sid message attrs
  exact .enqueue sid message attrs hpay hedit hid hturn

lemma filed_streamAdd (h : ∀ sid, q.Filed sid) (sid : StreamID) (message : DcSctpMessage)
    (attrs : MessageAttributes) (sid' : StreamID) :
    (q.streamAdd sid message attrs).Filed sid' := by
  obtain ⟨q1, heq, -, -, hedit⟩ := streamAdd_eq q sid message attrs
  rw [heq]
  split
  · next hb => exact hedit.filed h (Iff.of_eq (congrArg (0 < ·) (bytes_append hb))) sid'
  · next hb => exact hedit.filed_maybeMakeActive h (by omega) sid'

/-! ## Producing -/

lemma rewritten_takeOut (q : RRSendQueue) (sid : StreamID) (item : Item) (rest : List Item) :
    Rewritten sid ((q.stream sid).withItems rest) (· - item.remainingSize) item.expiryReports q
      ((q.handleMessageExpired sid item).setItems sid rest) := by
  refine (rewritten_handleMessageExpired q sid item).setStream _ ?_ rfl rfl
  rw [stream_handleMessageExpired, stream_setStream_self]
  rfl

variable {item : Item}

lemma expiry_dropFirst (hitm : (q.stream sid).items = item :: rest)
    (hmid : item.mid = none) (hlimited : item.attributes.expiresAt ≠ none) :
    Expiry q ((q.handleMessageExpired sid item).setItems sid rest) := by
  have hsched := scheduler_handleMessageExpired q sid item
  refine .drop sid item rest hitm hmid (rewritten_takeOut q sid item rest).toEdited
    (messageId_handleMessageExpired q sid item) ⟨?_, fun _ => ?_⟩ hlimited
  · exact congrArg StreamScheduler.currentlySendingAMessage hsched
  · exact congrArg StreamScheduler.currentStream hsched

/-- The outcome of `OutgoingStream::Produce`: messages may expire, and then a fragment of the
first one left is taken, if there is one. -/
structure Produced (sid : StreamID) (maxSize : Nat) (q : RRSendQueue) (data : Option DataToSend)
    (q' : RRSendQueue) : Prop where
  scheduler : q'.scheduler = q.scheduler
  others : ∀ sid', sid' ≠ sid → q'.stream sid' = q.stream sid'
  finish : (q'.stream sid).schedulerStream.nextFinishTime =
    (q.stream sid).schedulerStream.nextFinishTime
  idle : data = none → Expiries q q' ∧ (q'.stream sid).items = [] ∧
    (q.stream sid).partialKind = none
  taken : ∀ d, data = some d → ∃ q1 item rest, Expiries q q1 ∧ q1.scheduler = q.scheduler ∧
    (q1.stream sid).pauseState = (q.stream sid).pauseState ∧
    (q1.stream sid).items = item :: rest ∧
    d = ((q1.stream sid).sendFragment maxSize item rest).1 ∧
    q'.currentMessageId = q1.currentMessageId ∧
    Edited sid ((q1.stream sid).sendFragment maxSize item rest).2 (· - d.data.size) [] q1 q'

variable (now : Timestamp)

lemma produced_produceLoop (maxSize : Nat) (items : List Item) :
    ∀ q : RRSendQueue, (q.stream sid).items = items →
      Produced sid maxSize q (produceLoop now maxSize sid items q).1
        (produceLoop now maxSize sid items q).2 := by
  induction items with
  | nil =>
    intro q hitm
    refine ⟨rfl, fun _ _ => rfl, rfl, fun _ => ⟨.refl, hitm, ?_⟩, fun d hd => ?_⟩
    · rw [partialKind, hitm]
    · simp [produceLoop] at hd
  | cons item rest ih =>
    intro q hitm
    unfold produceLoop
    split
    · next hexp =>
      -- the message has expired before its first fragment
      have hmid : item.mid = none := by simpa using hexp.1
      have hdrop := expiry_dropFirst hitm hmid fun hnone => by simp [hnone, isReached] at hexp
      generalize hq1 : (q.handleMessageExpired sid item).setItems sid rest = q1 at hdrop
      have hstr : q1.stream sid =
          { (q.handleMessageExpired sid item).stream sid with items := rest } := by
        rw [← hq1, setItems, stream_setStream_self]
      have hpse : (q1.stream sid).pauseState = (q.stream sid).pauseState := by
        rw [hstr]
        exact (core_eq (core_handleMessageExpired q sid item)).2.1
      have hsched : q1.scheduler = q.scheduler := by
        rw [← hq1]
        exact scheduler_handleMessageExpired q sid item
      obtain ⟨hs, hoth, hfinish, hidle, htk⟩ := ih q1 (by rw [hstr])
      refine ⟨hs.trans hsched, fun sid' hne => ?_, ?_, fun hnone => ?_, fun d hd => ?_⟩
      · rw [hoth sid' hne, ← hq1]
        exact ((touches_handleMessageExpired q sid item).trans
          (touches_setItems _ sid rest)).stream sid' hne
      · rw [hfinish, hstr]
        exact congrArg _ (schedulerStream_handleMessageExpired q sid item)
      · obtain ⟨hexp, hnil, -⟩ := hidle hnone
        refine ⟨.head hdrop hexp, hnil, ?_⟩
        rw [partialKind, hitm]
        simp [hmid]
      · obtain ⟨q2, item', rest', hexp, hs2, hpause2, hrest⟩ := htk d hd
        exact ⟨q2, item', rest', .head hdrop hexp, hs2.trans hsched, hpause2.trans hpse, hrest⟩
    · -- its next fragment is sent
      generalize hsend : (q.stream sid).sendFragment maxSize item rest = r
      simp only [produceItem, hsend]
      have htouch := (touches_setStream q sid r.2).trans
        (touches_decreaseBufferedAmount (q.setStream sid r.2) sid r.1.data.size)
      have hstr : ((q.setStream sid r.2).decreaseBufferedAmount sid r.1.data.size).stream sid =
          { r.2 with bufferedAmount := (r.2.bufferedAmount.decrease r.1.data.size).1 } := by
        rw [stream_decreaseBufferedAmount, stream_setStream_self]
      have hamt : r.2.bufferedAmount = (q.stream sid).bufferedAmount := by
        rw [← hsend]
        exact (sendFragment_keeps _ _ _ _).2
      refine ⟨rfl, htouch.stream, ?_, fun hnone => absurd hnone (by simp), fun d hd => ?_⟩
      · rw [hstr, ← hsend]
        exact congrArg _ (sendFragment_keeps _ _ _ _).1
      cases hd
      refine ⟨q, item, rest, .refl, rfl, rfl, hitm, by rw [hsend], rfl, ?_⟩
      rw [hsend]
      refine ⟨fun sid' hs => ?_, ?_, ?_, rfl, ?_, rfl⟩
      · rw [bufferedAmount, htouch.stream sid' hs]
        exact ⟨rfl, rfl⟩
      · rw [hstr]
        rfl
      · rw [bufferedAmount, hstr]
        simp only [ThresholdWatcher.decrease, hamt]
        rfl
      · rw [lifecycleReports_decreaseBufferedAmount, append_nil]
        rfl

lemma produced_schedulerStreamProduce (q : RRSendQueue) (sid : StreamID) (now : Timestamp)
    (maxSize : Nat) : Produced sid maxSize q (q.schedulerStreamProduce sid now maxSize).1
      (q.schedulerStreamProduce sid now maxSize).2 := by
  have hloop : Produced sid maxSize q (q.streamProduce sid now maxSize).1
      (q.streamProduce sid now maxSize).2 := produced_produceLoop now maxSize _ q rfl
  unfold schedulerStreamProduce
  generalize q.streamProduce sid now maxSize = r at hloop
  obtain ⟨data, q1⟩ := r
  cases data with
  | none => exact hloop
  | some d =>
    refine ⟨hloop.scheduler, fun sid' hne => ?_, ?_, fun hc => absurd hc (by simp), fun d' hd => ?_⟩
    · rw [stream_setStream_ne q1 _ hne]
      exact hloop.others sid' hne
    · rw [stream_setStream_self]
      exact hloop.finish
    obtain ⟨q2, item, rest, h1, h2, h3, h4, h5, h6, hedit⟩ := hloop.taken d' hd
    refine ⟨q2, item, rest, h1, h2, h3, h4, h5, h6, hedit.quiet ?_⟩
    refine Quiet.of_stream sid ?_ ?_ (fun _ => rfl) rfl rfl rfl rfl rfl rfl <;> rfl

/-- The outcome of the scheduler's loop. The stream that produced is no longer filed as active
when the scheduler has picked it, and filed as before when it went on with it. -/
structure LoopResult (maxSize : Nat) (q : RRSendQueue) (rescheduling : Bool)
    (r : Option (Option (StreamID × DataToSend))) (q' : RRSendQueue) : Prop where
  idle : (∀ p, r ≠ some (some p)) → Expiries q q' ∧ ∀ sid, q'.Filed sid
  taken : ∀ sid d, r = some (some (sid, d)) →
    (∃ q1 item rest, Expiries q q1 ∧ Takes sid maxSize item rest d q1 q') ∧
    (∀ sid', sid' ≠ sid → q'.Filed sid') ∧
    if rescheduling then q'.Unfiled sid
    else ∀ t, q'.ActiveAt sid t ↔ t = (q'.stream sid).schedulerStream.nextFinishTime

lemma Filed.of_produced {data : Option DataToSend} {maxSize : Nat} {sid' : StreamID}
    (h : q.Filed sid') (hp : Produced sid maxSize q data q') (hne : sid' ≠ sid) : q'.Filed sid' :=
  h.of_same (by rw [hp.scheduler]) (by rw [hp.others sid' hne]) (by rw [hp.others sid' hne])

lemma expiry_reschedule (hr : q.rescheduling = true) (key : ℚ ×ₗ StreamID) :
    Expiry q (q.reschedule key) := by
  have hq : Quiet q (q.forceMarkInactive (ofLex key).2) := by
    refine Quiet.of_stream (ofLex key).2 ?_ ?_ (fun _ => rfl) rfl rfl rfl rfl rfl rfl <;> rfl
  exact .keep hq.contents hq.amounts hq.total hq.reported hq.messageId hq.interleaving
    ⟨rfl, fun hc => by rw [hr] at hc; exact absurd hc (by simp)⟩

lemma bytes_pos_of_items (h : ItemsOk s) (hawake : s.Awake) (hne : s.items ≠ []) :
    0 < s.bytesToSendInNextMessage := by
  rw [bytesToSendInNextMessage, if_neg (not_or.mpr hawake)]
  cases hitm : s.items with
  | nil => exact absurd hitm hne
  | cons item rest => exact (h.cons hitm).1.left

lemma bytes_eq_zero_of_nil (h : s.items = []) : s.bytesToSendInNextMessage = 0 := by
  rw [bytesToSendInNextMessage, h]
  exact ite_self 0

/-- **The loop when it picks the stream.** Streams whose messages have all expired drop out; each
round leaves one active stream less. -/
lemma schedulerLoop_picks (maxSize : Nat) (fuel : Nat) : ∀ q : RRSendQueue,
    q.rescheduling = true → (∀ sid, q.Filed sid) →
    LoopResult maxSize q true (schedulerLoop now maxSize true fuel q).1
      (schedulerLoop now maxSize true fuel q).2 ∧
    (q.scheduler.activeStreams.size < fuel → (schedulerLoop now maxSize true fuel q).1 ≠ none) := by
  induction fuel with
  | zero =>
    intro q _ hf
    exact ⟨⟨fun _ => ⟨.refl, hf⟩, fun _ _ hd => by simp [schedulerLoop] at hd⟩, by simp⟩
  | succ fuel ih =>
    intro q hresch hfil
    unfold schedulerLoop
    cases hfr : q.scheduler.activeStreams.front? with
    | none => exact ⟨⟨fun _ => ⟨.refl, hfil⟩, fun _ _ hd => by simp at hd⟩, by simp⟩
    | some entry =>
      obtain ⟨key, ⟨⟩⟩ := entry
      have hmem := (OrdMap.front?_eq_some.mp hfr).1
      obtain ⟨hoth2, hself⟩ := reschedule_spec q key
      have hunfiled := unfiled_reschedule (hfil (ofLex key).2) hmem
      have hkeep := expiry_reschedule hresch key
      have hresch1 : (q.reschedule key).rescheduling = true := hresch
      have hawake : ((q.reschedule key).stream (ofLex key).2).Awake := by
        rw [Awake, (core_eq hself).2.1]
        exact awake_of_bytes ((hfil (ofLex key).2 (ofLex key).1).mp hmem).1
      have hturn : (q.reschedule key).scheduler.currentStream = some (ofLex key).2 := rfl
      have hsize : (q.reschedule key).scheduler.activeStreams.size < q.scheduler.activeStreams.size :=
        OrdMap.size_erase_lt hmem
      simp only [if_true]
      generalize q.reschedule key = q1 at hoth2 hself hunfiled hkeep hresch1 hawake hturn hsize
      generalize (ofLex key).2 = sid at hoth2 hself hunfiled hawake hturn
      have hfiled1 : ∀ sid', sid' ≠ sid → q1.Filed sid' := by
        intro sid' h t
        rw [(hoth2 sid' h).2, (hoth2 sid' h).1]
        exact hfil sid' t
      have hout := produced_schedulerStreamProduce q1 sid now maxSize
      rw [hturn]
      dsimp only
      generalize q1.schedulerStreamProduce sid now maxSize = r at hout
      obtain ⟨data, q2⟩ := r
      have hunfiled2 : q2.Unfiled sid := fun t => by
        rw [ActiveAt, hout.scheduler]
        exact hunfiled t
      cases data with
      | none =>
        obtain ⟨hexp, hnil, -⟩ := hout.idle rfl
        have hfiled2 : ∀ sid', q2.Filed sid' := fun sid' => by
          by_cases h : sid' = sid
          · exact h ▸ (filed_iff_unfiled (bytes_eq_zero_of_nil hnil)).mpr hunfiled2
          · exact (hfiled1 sid' h).of_produced hout h
        have hresch2 : q2.rescheduling = true := by
          rw [rescheduling, hout.scheduler]
          exact hresch1
        obtain ⟨⟨hidle, htk⟩, hdone⟩ := ih q2 hresch2 hfiled2
        refine ⟨⟨fun hr => ?_, fun sid' d hd => ?_⟩, fun hlt => hdone ?_⟩
        · obtain ⟨hexp', hf⟩ := hidle hr
          exact ⟨.head hkeep (hexp.trans hexp'), hf⟩
        · obtain ⟨⟨q3, item, rest, hexp', htakes⟩, hrest⟩ := htk sid' d hd
          exact ⟨⟨q3, item, rest, .head hkeep (hexp.trans hexp'), htakes⟩, hrest⟩
        rw [hout.scheduler]
        omega
      | some d =>
        refine ⟨⟨fun hr => absurd rfl (hr _), fun sid' d' hd => ?_⟩, fun _ => by simp⟩
        obtain ⟨rfl, rfl⟩ : sid = sid' ∧ d = d' := by simpa using hd
        obtain ⟨q3, item, rest, hexp, hsched, hpse, hitm, hdata, hid, hedit⟩ := hout.taken d rfl
        refine ⟨⟨q3, item, rest, .head hkeep hexp, ⟨hitm, hdata, ?_, hedit, hid, fun hc => ?_, ?_⟩⟩,
          fun sid' h => (hfiled1 sid' h).of_produced hout h, hunfiled2⟩
        · rw [Awake, hpse]
          exact hawake
        · rw [rescheduling, hsched] at hc
          exact absurd (hresch1.symm.trans hc) (by simp)
        rw [hout.scheduler]
        exact hturn

lemma ContentsOk.bytes_pos (h : ContentsOk q) (hpart : (q.stream sid).partialKind ≠ none) :
    0 < (q.stream sid).bytesToSendInNextMessage := by
  refine bytes_pos_of_items (h.items sid) ((h.items sid).pause.awake hpart) fun hnil => hpart ?_
  rw [partialKind, hnil]

lemma schedulerLoop_goes_on (maxSize fuel : Nat) (h : ContentsOk q)
    (hfil : ∀ sid, q.Filed sid) (hturn : q.scheduler.currentStream = some sid)
    (hpart : (q.stream sid).partialKind ≠ none) :
    LoopResult maxSize q false (schedulerLoop now maxSize false (fuel + 1) q).1
      (schedulerLoop now maxSize false (fuel + 1) q).2 ∧
    (schedulerLoop now maxSize false (fuel + 1) q).1 ≠ none := by
  have hawake := (h.items sid).pause.awake hpart
  have hbytes := h.bytes_pos hpart
  obtain ⟨entry, hfr⟩ := OrdMap.front?_isSome ((hfil sid _).mpr ⟨hbytes, rfl⟩)
  have hout := produced_schedulerStreamProduce q sid now maxSize
  unfold schedulerLoop
  simp only [hfr, Bool.false_eq_true, if_false, hturn]
  generalize q.schedulerStreamProduce sid now maxSize = r at hout
  obtain ⟨data, q1⟩ := r
  cases data with
  | none => exact absurd (hout.idle rfl).2.2 hpart
  | some d =>
    refine ⟨⟨fun hr => absurd rfl (hr _), fun sid' d' hd => ?_⟩, by simp⟩
    obtain ⟨rfl, rfl⟩ : sid = sid' ∧ d = d' := by simpa using hd
    obtain ⟨q3, item, rest, hexp, hsched, hpse, hitm, hdata, hid, hedit⟩ := hout.taken d rfl
    refine ⟨⟨q3, item, rest, hexp, ⟨hitm, hdata, ?_, hedit, hid, fun _ => ?_, ?_⟩⟩,
      fun sid' h => (hfil sid').of_produced hout h, ?_⟩
    · rw [Awake, hpse]
      exact hawake
    · rw [hsched]
      exact hturn
    · rw [hout.scheduler]
      exact hturn
    simp only [Bool.false_eq_true, if_false]
    intro t
    rw [ActiveAt, hout.scheduler, hout.finish]
    exact (hfil sid t).trans (and_iff_right hbytes)

/-- **`StreamScheduler::Produce` ends**, with the outcome described above. -/
lemma schedulerLoop_ends (maxSize : Nat) (h : ContentsOk q) (hfil : ∀ sid, q.Filed sid) :
    LoopResult maxSize q q.rescheduling
      (schedulerLoop now maxSize q.rescheduling (q.scheduler.activeStreams.size + 1) q).1
      (schedulerLoop now maxSize q.rescheduling (q.scheduler.activeStreams.size + 1) q).2 ∧
    (schedulerLoop now maxSize q.rescheduling (q.scheduler.activeStreams.size + 1) q).1 ≠ none := by
  cases hr : q.rescheduling with
  | true =>
    obtain ⟨hres, hdone⟩ := schedulerLoop_picks now maxSize _ q hr hfil
    exact ⟨hres, hdone (Nat.lt_succ_self _)⟩
  | false =>
    obtain ⟨sid, hcur, hpart⟩ := h.turn hr
    exact schedulerLoop_goes_on now maxSize _ h hfil hcur hpart

lemma Takes.noteProduced {maxSize : Nat} {d : DataToSend}
    (h : Takes sid maxSize item rest d q q1) (resched : Bool) :
    Sends sid maxSize item rest d q (q1.noteProduced resched sid d.data) := by
  obtain ⟨hcore, hint, hcur, hsdg⟩ := core_noteProduced q1 resched sid d.data
  have hqui : Quiet { q1 with scheduler := { q1.scheduler with
      currentlySendingAMessage := !d.data.isEnd
      virtualTime := (q1.stream sid).schedulerStream.currentVirtualTime } }
      (q1.noteProduced resched sid d.data) := by
    unfold RRSendQueue.noteProduced
    dsimp only
    split_ifs
    · exact quiet_makeActive _ sid _
    · exact quiet_makeInactive _ sid
    · exact Quiet.refl _
  obtain ⟨hoth, hself, hamt, htot, hrep, hinter⟩ := h.edited
  refine ⟨⟨h.items, h.data, h.awake, ⟨fun sid' hs => ?_, (hcore sid).trans hself, ?_, ?_, ?_, ?_⟩, ?_,
    h.turn, hcur.trans h.current⟩, hsdg⟩
  · exact ⟨(hcore sid').trans (hoth sid' hs).1, (hqui.amounts sid').trans (hoth sid' hs).2⟩
  · exact (hqui.amounts sid).trans hamt
  · exact hqui.total.trans htot
  · exact hqui.reported.trans hrep
  · exact hint.trans hinter
  · exact hqui.messageId.trans h.messageId

lemma produce_outcome (maxSize : Nat) (h : ContentsOk q) (hfil : ∀ sid, q.Filed sid) :
    (∀ sid, (q.produce now maxSize).2.Filed sid) ∧
    ((q.produce now maxSize).1 = none → Expiries q (q.produce now maxSize).2) ∧
    ∀ d, (q.produce now maxSize).1 = some d → ∃ q1 sid item rest, Expiries q q1 ∧
      Sends sid maxSize item rest d q1 (q.produce now maxSize).2 := by
  obtain ⟨⟨hidle, htk⟩, -⟩ := schedulerLoop_ends now maxSize h hfil
  unfold produce
  generalize schedulerLoop now maxSize q.rescheduling (q.scheduler.activeStreams.size + 1) q = r
    at hidle htk
  obtain ⟨r, q1⟩ := r
  rcases r with - | - | ⟨sid, d⟩
  · obtain ⟨hexp, hf⟩ := hidle (by simp)
    exact ⟨hf, fun _ => hexp, fun d hd => absurd hd (by simp)⟩
  · obtain ⟨hexp, hf⟩ := hidle (by simp)
    exact ⟨hf, fun _ => hexp, fun d hd => absurd hd (by simp)⟩
  obtain ⟨⟨q2, item, rest, hexp, htakes⟩, hoth, hfiling⟩ := htk sid d rfl
  refine ⟨filed_noteProduced hoth hfiling, fun hc => absurd hc (by simp), fun d' hd => ?_⟩
  obtain rfl : d = d' := by simpa using hd
  exact ⟨q2, sid, item, rest, hexp, htakes.noteProduced q.rescheduling⟩

/-! ## Discarding -/

variable {messageId : OutgoingMessageId}

/-- `OutgoingStream::Discard` when it finds the message: the stream is paused if it waited for
the end of the message, and made inactive if nothing is left to send. -/
lemma streamDiscard_eq
    (hitm : (q.stream sid).items = item :: rest) (hid : item.messageId = messageId) :
    ∃ q1, Rewritten sid (((q.stream sid).withItems rest).withPause
        (if (q.stream sid).pauseState = .pending then .paused else (q.stream sid).pauseState))
        (· - item.remainingSize) item.expiryReports q q1 ∧
      q1.scheduler = q.forceReschedule.scheduler ∧ q1.currentMessageId = q.currentMessageId ∧
      q.streamDiscard sid messageId = (true,
        if (q1.stream sid).bytesToSendInNextMessage = 0 then q1.makeInactive sid else q1) := by
  have hedit := rewritten_takeOut q sid item rest
  have hsched := scheduler_handleMessageExpired q sid item
  have hmid : ((q.handleMessageExpired sid item).setItems sid rest).currentMessageId =
      q.currentMessageId := messageId_handleMessageExpired q sid item
  have hdiscard : q.streamDiscard sid messageId =
      (let q := ((q.handleMessageExpired sid item).setItems sid rest).forceReschedule
      if (q.stream sid).pauseState = .pending then
        (true, (q.setStream sid { q.stream sid with pauseState := .paused }).makeInactive sid)
      else if (q.stream sid).bytesToSendInNextMessage = 0 then (true, q.makeInactive sid)
      else (true, q)) := by
    rw [streamDiscard, hitm]
    simp only [hid, if_true]
  have hsched' : ((q.handleMessageExpired sid item).setItems sid rest).forceReschedule.scheduler =
      q.forceReschedule.scheduler := by
    simp only [forceReschedule, setItems, scheduler_setStream, hsched]
  generalize (q.handleMessageExpired sid item).setItems sid rest = q1 at *
  have hpse := (core_eq hedit.core).2.1
  rw [pauseState_withItems] at hpse
  have hforced : q1.forceReschedule.stream sid = q1.stream sid := rfl
  have hedit' : Rewritten sid ((q.stream sid).withItems rest) (· - item.remainingSize)
      item.expiryReports q q1.forceReschedule :=
    ⟨⟨hedit.others, hedit.core, hedit.amount, hedit.total, hedit.reported, hedit.interleaving⟩,
      hedit.streams, hedit.finish, hedit.active⟩
  by_cases hpend : (q.stream sid).pauseState = .pending
  · refine ⟨q1.forceReschedule.setStream sid { q1.stream sid with pauseState := .paused }, ?_, hsched',
      hmid, ?_⟩
    · refine hedit'.setStream _ ?_ rfl rfl
      have hcore := hedit.core
      simp only [core, withItems, withPause, OutgoingStream.mk.injEq, if_pos hpend] at hcore ⊢
      exact ⟨trivial, trivial, hcore.2.2⟩
    · rw [hdiscard]
      simp only [hforced, hpse, hpend, if_true, stream_setStream_self]
      simp [bytesToSendInNextMessage]
  · refine ⟨q1.forceReschedule, ?_, hsched', hmid, ?_⟩
    · rw [if_neg hpend]
      exact hedit'
    rw [hdiscard]
    simp only [hforced, hpse, hpend, if_false]
    split <;> rfl

lemma streamDiscard_cases (q : RRSendQueue) (sid : StreamID) (messageId : OutgoingMessageId) :
    q.streamDiscard sid messageId = (false, q) ∧
        (∀ item rest, (q.stream sid).items = item :: rest → item.messageId ≠ messageId) ∨
      ∃ item rest, (q.stream sid).items = item :: rest ∧ item.messageId = messageId := by
  unfold streamDiscard
  cases hitm : (q.stream sid).items with
  | nil => exact .inl ⟨rfl, by simp⟩
  | cons item rest =>
    by_cases hid : item.messageId = messageId
    · exact .inr ⟨item, rest, rfl, hid⟩
    refine .inl ⟨if_neg hid, fun item' rest' heq => ?_⟩
    rw [← (cons.inj heq).1]
    exact hid

lemma edited_streamDiscard
    (hitm : (q.stream sid).items = item :: rest) (hid : item.messageId = messageId) :
    (q.streamDiscard sid messageId).1 = true ∧
    Edited sid (((q.stream sid).withItems rest).withPause
      (if (q.stream sid).pauseState = .pending then .paused else (q.stream sid).pauseState))
      (· - item.remainingSize) item.expiryReports q (q.streamDiscard sid messageId).2 ∧
    (q.streamDiscard sid messageId).2.currentMessageId = q.currentMessageId ∧
    (q.streamDiscard sid messageId).2.scheduler.currentlySendingAMessage = false ∧
    (q.streamDiscard sid messageId).2.scheduler.currentStream = q.scheduler.currentStream := by
  obtain ⟨q1, hedit, hsched, hmid, heq⟩ := streamDiscard_eq hitm hid
  have hqui : Quiet q1 (q.streamDiscard sid messageId).2 := by
    rw [heq]
    split
    · exact quiet_makeInactive q1 sid
    · exact Quiet.refl q1
  refine ⟨by rw [heq], hedit.toEdited.quiet hqui, hqui.messageId.trans hmid, ?_, ?_⟩
  · rw [hqui.sending, hsched]
    rfl
  rw [hqui.current, hsched]
  rfl

lemma edit_streamDiscard (q : RRSendQueue) (sid : StreamID) (mid : OutgoingMessageId) :
    Edit q (q.streamDiscard sid mid).2 := by
  rcases q.streamDiscard_cases sid mid with ⟨heq, -⟩ | ⟨item, rest, hitm, hid⟩
  · rw [heq]
    exact .expiry (Quiet.refl q).expiry
  obtain ⟨-, hedit, hmid, hsdg, hcrt⟩ := edited_streamDiscard hitm hid
  exact .discard sid item rest hitm hedit hmid hsdg hcrt

lemma filed_streamDiscard (h : ∀ sid, q.Filed sid) (hok : ItemsOk (q.stream sid))
    (mid : OutgoingMessageId) (sid' : StreamID) :
    (q.streamDiscard sid mid).2.Filed sid' := by
  rcases q.streamDiscard_cases sid mid with ⟨heq, -⟩ | ⟨item, rest, hitm, hid⟩
  · rw [heq]
    exact h sid'
  obtain ⟨q1, hedit, hsched, hmid, heq⟩ := streamDiscard_eq hitm hid
  have hbytes := bytesToSendInNextMessage_congr hedit.core
  rw [heq]
  split
  · next hb => exact hedit.filed_makeInactive h (hbytes.symm.trans hb) sid'
  next hb =>
  -- the stream was awake before, and the message that was discarded was not empty
  have hpos : 0 < (q1.stream sid).bytesToSendInNextMessage := Nat.pos_of_ne_zero hb
  rw [hbytes] at hpos
  refine hedit.filed h (iff_of_true hpos ?_) sid'
  have hawake := awake_of_bytes hpos
  refine bytes_pos_of_items hok ⟨fun hc => ?_, fun hc => ?_⟩ (by simp [hitm]) <;>
    simp [Awake, hc] at hawake

/-! ## Pausing -/

lemma rewritten_expireAll (sid : StreamID) (items : List Item) : ∀ q : RRSendQueue,
    Rewritten sid (q.stream sid) (· - owed items) (items.flatMap expiryReports) q
      (items.foldl (fun q item => q.handleMessageExpired sid item) q) ∧
    (items.foldl (fun q item => q.handleMessageExpired sid item) q).scheduler = q.scheduler ∧
    (items.foldl (fun q item => q.handleMessageExpired sid item) q).currentMessageId =
      q.currentMessageId := by
  induction items with
  | nil =>
    intro q
    exact ⟨.refl q, rfl, rfl⟩
  | cons item items ih =>
    intro q
    obtain ⟨hrest, hsched, hid⟩ := ih (q.handleMessageExpired sid item)
    refine ⟨?_, hsched.trans (scheduler_handleMessageExpired q sid item),
      hid.trans (messageId_handleMessageExpired q sid item)⟩
    have hall := (rewritten_handleMessageExpired q sid item).trans hrest
    refine ⟨⟨hall.others, ?_, ?_, ?_, ?_, hall.interleaving⟩, hall.streams, hall.finish, hall.active⟩
    · exact hall.core.trans (core_handleMessageExpired q sid item)
    · exact hall.amount.trans (Nat.sub_sub _ _ _)
    · exact hall.total.trans (Nat.sub_sub _ _ _)
    · exact hall.reported

lemma streamPause_eq (hok : ItemsOk (q.stream sid)) (hrun : (q.stream sid).pauseState = .notPaused) :
    ∃ kept dropped q1, (q.stream sid).items = kept ++ dropped ∧ (∀ i ∈ kept, i.mid ≠ none) ∧
      (∀ i ∈ dropped, i.mid = none) ∧
      Rewritten sid (((q.stream sid).withItems kept).withPause
        (if kept = [] then .paused else .pending)) (· - owed dropped)
        (dropped.flatMap expiryReports) q q1 ∧
      q1.scheduler = q.scheduler ∧ q1.currentMessageId = q.currentMessageId ∧
      q.streamPause sid =
        if (q.stream sid).items ≠ [] ∧ kept = [] then q1.makeInactive sid else q1 := by
  obtain ⟨hitm, hbgn, huns⟩ := hok.pauseSplit
  have hdef : q.streamPause sid = _ := if_neg (not_not.mpr hrun)
  rw [hdef]
  dsimp only
  have hoffset : ∀ i ∈ (q.stream sid).items.filter (fun item => item.remainingOffset ≠ 0),
      i.remainingOffset ≠ 0 := fun i hi => of_decide_eq_true (mem_filter.mp hi).2
  generalize (q.stream sid).items.filter (fun item => item.remainingOffset = 0) = dropped at *
  generalize (q.stream sid).items.filter (fun item => item.remainingOffset ≠ 0) = kept at *
  obtain ⟨hexp, hsched, hid⟩ := rewritten_expireAll sid dropped q
  generalize dropped.foldl (fun q item => q.handleMessageExpired sid item) q = qe at hexp hsched hid
  refine ⟨kept, dropped, qe.setStream sid { qe.stream sid with
    items := kept, pauseState := if kept = [] then PauseState.paused else .pending },
    hitm, hbgn, huns, ?_, hsched, hid, ?_⟩
  · refine hexp.setStream _ ?_ rfl rfl
    have hcore := hexp.core
    simp only [core, withItems, withPause, OutgoingStream.mk.injEq] at hcore ⊢
    exact ⟨trivial, trivial, hcore.2.2.1, hcore.2.2.2.1, hcore.2.2.2.2.1, trivial, trivial⟩
  · cases kept with
    | nil => simp
    | cons item rest => simp [hoffset item mem_cons_self]

lemma edited_streamPause (hok : ItemsOk (q.stream sid))
    (hrun : (q.stream sid).pauseState = .notPaused) :
    ∃ kept dropped, (q.stream sid).items = kept ++ dropped ∧ (∀ i ∈ kept, i.mid ≠ none) ∧
      (∀ i ∈ dropped, i.mid = none) ∧
      Edited sid (((q.stream sid).withItems kept).withPause (if kept = [] then .paused else .pending))
        (· - owed dropped) (dropped.flatMap expiryReports) q (q.streamPause sid) ∧
      (q.streamPause sid).currentMessageId = q.currentMessageId ∧ SameTurn q (q.streamPause sid) := by
  obtain ⟨kept, dropped, q1, hitm, hbgn, huns, hrw, hsched, hid, heq⟩ := streamPause_eq hok hrun
  have hqui : Quiet q1 (q.streamPause sid) := by
    rw [heq]
    split
    · exact quiet_makeInactive q1 sid
    · exact Quiet.refl q1
  refine ⟨kept, dropped, hitm, hbgn, huns, hrw.toEdited.quiet hqui, hqui.messageId.trans hid,
    ?_, fun _ => ?_⟩
  · rw [hqui.sending, hsched]
  · rw [hqui.current, hsched]

lemma edit_streamPause (hok : ItemsOk (q.stream sid)) : Edit q (q.streamPause sid) := by
  by_cases hrun : (q.stream sid).pauseState = .notPaused
  · obtain ⟨kept, dropped, hitm, hbgn, huns, hedit, hid, hturn⟩ := edited_streamPause hok hrun
    exact .pause sid kept dropped hrun hitm hbgn huns hedit hid hturn
  rw [streamPause, if_pos hrun]
  exact .expiry (Quiet.refl q).expiry

lemma filed_streamPause (h : ∀ sid, q.Filed sid) (hok : ItemsOk (q.stream sid)) (sid' : StreamID) :
    (q.streamPause sid).Filed sid' := by
  by_cases hrun : (q.stream sid).pauseState = .notPaused
  · obtain ⟨kept, dropped, q1, hitm, hbgn, huns, hrw, -, -, heq⟩ := streamPause_eq hok hrun
    rw [heq]
    split
    · next hc => exact hrw.filed_makeInactive h (bytes_eq_zero_of_nil hc.2) sid'
    next hc =>
    rw [not_and_or, not_not] at hc
    refine hrw.filed h ?_ sid'
    by_cases hkept : kept = []
    · rw [bytes_eq_zero_of_nil (hc.resolve_right (not_not.mpr hkept)), bytes_eq_zero_of_nil]
      exact hkept
    -- the message in progress stays, and with it the stream's activity
    have hne : (q.stream sid).items ≠ [] := by simp [hitm, hkept]
    have hok' : ItemsOk (((q.stream sid).withItems kept).withPause
        (if kept = [] then .paused else .pending)) := by
      refine (hok.dropUnsent hitm huns).1.repause (fun hp => ?_) fun _ => ?_
      · simp [hkept] at hp
      obtain ⟨item, rest, rfl⟩ := exists_cons_of_ne_nil hkept
      rw [ne_eq, partialKind_eq_none_iff]
      exact fun hall => hbgn item mem_cons_self (hall item rfl)
    refine iff_of_true (bytes_pos_of_items hok' ?_ hkept) (bytes_pos_of_items hok ?_ hne)
    · simp [Awake, hkept]
    · simp [Awake, hrun]
  · rw [streamPause, if_pos hrun]
    exact h sid'

end RRSendQueue

end WebRtc.Dcsctp
