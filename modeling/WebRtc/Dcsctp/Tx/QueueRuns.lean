import WebRtc.Dcsctp.Tx.QueueOperations
import WebRtc.Lib.Run

/-!
# dcSCTP — runs of the send queue

Resetting streams, and then what holds of a send queue after any operations: its amounts
are those of its messages, its active streams are those with something to send, and
`Produce` ends.
-/

namespace WebRtc.Dcsctp

open Lib OutgoingStream List

variable {s : OutgoingStream}

namespace RRSendQueue

variable {q q' q'' q1 : RRSendQueue} {sid : StreamID}

/-! ## Resetting streams -/

lemma bytes_eq_zero_of_resetting (h : s.pauseState = .resetting) :
    s.bytesToSendInNextMessage = 0 := by
  simp [bytesToSendInNextMessage, h]

lemma stream_getStreamsReadyToBeReset (sid : StreamID) :
    q.getStreamsReadyToBeReset.2.stream sid = (q.stream sid).withPause
      (if (q.stream sid).pauseState = .paused then .resetting else (q.stream sid).pauseState) := by
  rcases hf : q.streams.find? sid with - | s
  · simp [getStreamsReadyToBeReset, stream, OrdMap.find?_mapVal, hf, OutgoingStream.new,
      withPause]
  by_cases hp : s.pauseState = .paused <;>
    simp [getStreamsReadyToBeReset, stream, OrdMap.find?_mapVal, hf,
      isReadyToBeReset, withPause, hp]

lemma edit_getStreamsReadyToBeReset (q : RRSendQueue) :
    Edit q q.getStreamsReadyToBeReset.2 ∧ Still q q.getStreamsReadyToBeReset.2 := by
  refine ⟨.beginReset (fun sid => ?_) (fun sid => ?_) rfl rfl rfl rfl ⟨rfl, fun _ => rfl⟩,
    fun sid => ?_, rfl, rfl, rfl, rfl, fun _ => rfl⟩
  · rw [stream_getStreamsReadyToBeReset]
  · rw [bufferedAmount, stream_getStreamsReadyToBeReset]
    rfl
  rw [stream_getStreamsReadyToBeReset]
  rfl

lemma filed_getStreamsReadyToBeReset (h : ∀ sid, q.Filed sid) (sid : StreamID) :
    q.getStreamsReadyToBeReset.2.Filed sid := by
  refine (h sid).of_same rfl ?_ ?_
  · rw [stream_getStreamsReadyToBeReset]
    rfl
  rw [stream_getStreamsReadyToBeReset, bytesToSendInNextMessage,
    bytesToSendInNextMessage]
  by_cases hp : (q.stream sid).pauseState = .paused <;> simp [hp]

lemma forResetting_induction {f : RRSendQueue → StreamID → RRSendQueue} {P : RRSendQueue → Prop}
    (hf : ∀ q sid, P q → (q.stream sid).pauseState = .resetting → P (f q sid)) (h : P q) :
    P (q.forResetting f) := by
  refine run_induction (fun q sid hq => ?_) _ h
  split
  · next hr => exact hf q sid hq (of_decide_eq_true hr)
  · exact hq

lemma rewritten_resume (q : RRSendQueue) (sid : StreamID) :
    Rewritten sid ((q.stream sid).withPause .notPaused) id [] q
      (q.setStream sid { q.stream sid with pauseState := .notPaused }) :=
  .of_stream (s := (q.stream sid).withPause .notPaused) rfl rfl rfl (fun _ => rfl) rfl
    (append_nil _).symm rfl rfl

lemma edited_streamResume (q : RRSendQueue) (sid : StreamID) :
    Edited sid ((q.stream sid).withPause .notPaused) id [] q (q.streamResume sid) ∧
      (q.streamResume sid).currentMessageId = q.currentMessageId ∧ SameTurn q (q.streamResume sid) := by
  have hqui := quiet_maybeMakeActive (q.setStream sid { q.stream sid with pauseState := .notPaused }) sid
  exact ⟨(rewritten_resume q sid).toEdited.quiet hqui, hqui.messageId, hqui.sending,
    fun _ => hqui.current⟩

lemma edit_streamResume (hr : (q.stream sid).pauseState = .resetting) :
    Edit q (q.streamResume sid) ∧ Still q (q.streamResume sid) := by
  obtain ⟨hedit, hid, hturn⟩ := edited_streamResume q sid
  exact ⟨.resume sid hr hedit hid hturn, hedit.still rfl hid hturn⟩

lemma filed_streamResume (h : ∀ sid, q.Filed sid) (hr : (q.stream sid).pauseState = .resetting)
    (sid' : StreamID) : (q.streamResume sid).Filed sid' :=
  (rewritten_resume q sid).filed_maybeMakeActive h (bytes_eq_zero_of_resetting hr) sid'

end RRSendQueue

def Item.rewind (item : Item) : Item :=
  { item with
    remainingOffset := 0, remainingSize := item.message.payload.length,
    mid := none, ssn := none, currentFsn := 0 }

def rewindFirst : List Item → List Item
  | [] => []
  | item :: rest => item.rewind :: rest

def resent : List Item → Nat
  | [] => 0
  | item :: _ => item.message.payload.length - item.remainingSize

lemma Item.Sized.rewind {item : Item} (h : item.Sized) : item.rewind.Sized := by
  have htot := h.total
  have hleft := h.left
  refine ⟨Nat.zero_add _, ?_, fun hc => absurd hc (by simp [Item.rewind]), fun _ => ⟨rfl, rfl, rfl⟩⟩
  change 0 < item.message.payload.length
  omega

lemma Item.Sized.rewind_eq {item : Item} (h : item.Sized) (hmid : item.mid = none) :
    item.rewind = item ∧ item.message.payload.length - item.remainingSize = 0 := by
  obtain ⟨hoff, hssn, hfsn⟩ := h.fresh hmid
  have htot := h.total
  rw [hoff, Nat.zero_add] at htot
  obtain ⟨messageId, message, attributes, offset, size, mid, ssn, fsn⟩ := item
  simp only at hmid hoff hssn hfsn htot
  subst hmid hoff hssn hfsn htot
  exact ⟨rfl, Nat.sub_self _⟩

lemma ItemsOk.restarted (h : ItemsOk s) :
    ItemsOk (s.restarted.withItems (rewindFirst s.items)) := by
  have hnone : (s.restarted.withItems (rewindFirst s.items)).partialKind = none := by
    rw [partialKind_eq_none_iff]
    cases hitm : s.items with
    | nil => simp [rewindFirst]
    | cons item rest => simp [rewindFirst, Item.rewind]
  refine ⟨fun i hi => ?_, fun i hi => ?_, ⟨fun _ => hnone, fun hc => ?_⟩⟩
  · have hsz := h.sized
    cases hitm : s.items with
    | nil => simp [rewindFirst, hitm] at hi
    | cons item rest =>
      rw [hitm] at hi hsz
      rcases mem_cons.mp hi with rfl | hi
      · exact (hsz item mem_cons_self).rewind
      · exact hsz i (mem_cons_of_mem _ hi)
  · have hrest := h.rest
    cases hitm : s.items with
    | nil => simp [rewindFirst, hitm] at hi
    | cons item rest =>
      rw [hitm] at hi hrest
      exact hrest i hi
  · simp at hc

lemma ItemsOk.owed_rewindFirst (h : ItemsOk s) :
    owed s.items + resent s.items = owed (rewindFirst s.items) := by
  cases hitm : s.items with
  | nil => rfl
  | cons item rest =>
    have htot := (h.cons hitm).1.total
    simp only [rewindFirst, owed_cons, resent, Item.rewind]
    omega

namespace RRSendQueue

variable {q q' q'' q1 : RRSendQueue} {sid : StreamID}

lemma streamReset_eq (q : RRSendQueue) (sid : StreamID) : ∃ q1 : RRSendQueue,
    Rewritten sid ((q.stream sid).restarted.withItems (rewindFirst (q.stream sid).items))
      (· + resent (q.stream sid).items) [] q q1 ∧
    q1.scheduler = q.scheduler ∧ q1.currentMessageId = q.currentMessageId ∧
    q.streamReset sid =
      if (q.stream sid).pauseState = .paused ∨ (q.stream sid).pauseState = .resetting then
        q1.maybeMakeActive sid
      else q1 := by
  have hset : Rewritten sid (q.stream sid).restarted id [] q (q.setStream sid (q.stream sid).restarted) :=
    .of_stream rfl rfl rfl (fun _ => rfl) rfl (append_nil _).symm rfl rfl
  cases hitm : (q.stream sid).items with
  | nil =>
    have hdef : q.streamReset sid = q.setStream sid (q.stream sid).restarted := by
      simp only [streamReset, hitm]
      simp only [restarted, hitm]
    refine ⟨q.setStream sid (q.stream sid).restarted, ?_, rfl, rfl, ?_⟩
    · have hnil : (q.stream sid).restarted.withItems (rewindFirst []) = (q.stream sid).restarted := by
        simp [restarted, withItems, rewindFirst, hitm]
      rw [hnil]
      exact hset
    have hbytes : ((q.setStream sid (q.stream sid).restarted).stream sid).bytesToSendInNextMessage = 0 := by
      rw [stream_setStream_self]
      exact bytes_eq_zero_of_nil hitm
    rw [hdef, maybeMakeActive, if_pos hbytes, ite_self]
  | cons item rest =>
    have hdef : q.streamReset sid =
        (let q1 := ((q.setStream sid (q.stream sid).restarted).increaseBufferedAmount sid
          (item.message.payload.length - item.remainingSize)).setItems sid (item.rewind :: rest)
        if (q.stream sid).pauseState = .paused ∨ (q.stream sid).pauseState = .resetting then
          q1.maybeMakeActive sid
        else q1) := by
      simp only [streamReset, hitm]
      simp only [restarted, hitm, Item.rewind]
    refine ⟨((q.setStream sid (q.stream sid).restarted).increaseBufferedAmount sid
      (item.message.payload.length - item.remainingSize)).setItems sid (item.rewind :: rest),
      ?_, rfl, rfl, hdef⟩
    have hinc := hset.trans (rewritten_increaseBufferedAmount
      (q.setStream sid (q.stream sid).restarted) sid (item.message.payload.length - item.remainingSize))
    refine hinc.setStream _ ?_ rfl rfl
    rw [stream_increaseBufferedAmount, stream_setStream_self]
    rfl

lemma quiet_streamReset {q1 : RRSendQueue} (heq : q.streamReset sid =
    if (q.stream sid).pauseState = .paused ∨ (q.stream sid).pauseState = .resetting then
      q1.maybeMakeActive sid
    else q1) : Quiet q1 (q.streamReset sid) := by
  rw [heq]
  split
  · exact quiet_maybeMakeActive q1 sid
  · exact Quiet.refl q1

/-- A stream that is being reset has no message in progress, so that its messages stay as they
are. -/
lemma edit_streamReset (hok : ItemsOk (q.stream sid)) (hr : (q.stream sid).pauseState = .resetting) :
    Edit q (q.streamReset sid) ∧ Still q (q.streamReset sid) := by
  obtain ⟨q1, hrw, hsched, hid, heq⟩ := streamReset_eq q sid
  have hqui := quiet_streamReset heq
  have hsame : rewindFirst (q.stream sid).items = (q.stream sid).items ∧
      resent (q.stream sid).items = 0 := by
    have huntouched := hok.untouched (hok.pause.paused (.inr hr))
    cases hitm : (q.stream sid).items with
    | nil => exact ⟨rfl, rfl⟩
    | cons item rest =>
      have hmem : item ∈ (q.stream sid).items := by rw [hitm]; exact mem_cons_self
      obtain ⟨h1, h2⟩ := (hok.sized item hmem).rewind_eq (huntouched item hmem)
      exact ⟨by rw [rewindFirst, h1], h2⟩
  rw [hsame.1, hsame.2] at hrw
  have hedit : Edited sid (q.stream sid).restarted id [] q (q.streamReset sid) :=
    hrw.toEdited.quiet hqui
  have hturn : SameTurn q (q.streamReset sid) :=
    ⟨by rw [hqui.sending, hsched], fun _ => by rw [hqui.current, hsched]⟩
  exact ⟨.restart sid hr hedit (hqui.messageId.trans hid) hturn,
    hedit.still rfl (hqui.messageId.trans hid) hturn⟩

lemma filed_streamReset (h : ∀ sid, q.Filed sid) (hok : ItemsOk (q.stream sid)) (sid' : StreamID) :
    (q.streamReset sid).Filed sid' := by
  obtain ⟨q1, hrw, -, -, heq⟩ := streamReset_eq q sid
  rw [heq]
  split
  · next hp =>
    refine hrw.filed_maybeMakeActive h ?_ sid'
    rw [bytesToSendInNextMessage, if_pos hp]
  next hp =>
  refine hrw.filed h ?_ sid'
  by_cases hnil : (q.stream sid).items = []
  · rw [bytes_eq_zero_of_nil hnil, bytes_eq_zero_of_nil]
    rw [items_withItems, hnil]
    rfl
  refine iff_of_true (bytes_pos_of_items hok.restarted ?_ ?_)
    (bytes_pos_of_items hok (not_or.mp hp) hnil)
  · simp [Awake]
  obtain ⟨item, rest, hitm⟩ := exists_cons_of_ne_nil hnil
  rw [items_withItems, hitm]
  exact cons_ne_nil _ _

lemma Accounted.streamReset (h : Accounted q) (sid : StreamID) : Accounted (q.streamReset sid) := by
  obtain ⟨q1, hrw, -, -, heq⟩ := streamReset_eq q sid
  refine h.edited (hrw.toEdited.quiet (quiet_streamReset heq)) (h.items sid).restarted ?_ ?_
  · rw [h.amounts, items_withItems]
    exact (h.items sid).owed_rewindFirst
  · omega

/-! ## Runs -/

structure Sound (q : RRSendQueue) : Prop where
  contents : ContentsOk q
  filed : ∀ sid, q.Filed sid

section

variable (h : Sound q)

include h

lemma Sound.add (now : Timestamp) {message : DcSctpMessage}
    (hpay : message.payload ≠ []) (opts : SendOptions) :
    Sound (q.add now message opts) :=
  ⟨h.contents.edit (edit_streamAdd q _ hpay _), filed_streamAdd h.filed _ message _⟩

lemma Sound.produce (now : Timestamp) {maxSize : Nat} (hmax : 1 ≤ maxSize) :
    Sound (q.produce now maxSize).2 := by
  obtain ⟨hfil, hnone, hsome⟩ := produce_outcome now maxSize h.contents h.filed
  refine ⟨?_, hfil⟩
  cases hp : (q.produce now maxSize).1 with
  | none => exact h.contents.expiries (hnone hp)
  | some d =>
    obtain ⟨q1, sid, item, rest, hexp, hsnd⟩ := hsome d hp
    exact (h.contents.expiries hexp).sends hsnd hmax

lemma Sound.getOrCreateStreamInfo (sid : StreamID) : Sound (q.getOrCreateStreamInfo sid) := by
  have hstr : ∀ sid', (q.getOrCreateStreamInfo sid).stream sid' = q.stream sid' := by
    intro sid'
    by_cases hs : sid' = sid
    · rw [hs, RRSendQueue.getOrCreateStreamInfo, stream_setStream_self]
    · exact stream_setStream_ne q _ hs
  refine ⟨h.contents.expiry (quiet_getOrCreateStreamInfo q sid).expiry, fun sid' => ?_⟩
  exact (h.filed sid').of_same rfl (by rw [hstr]) (by rw [hstr])

lemma Sound.discard (sid : StreamID) (mid : OutgoingMessageId) :
    Sound (q.discard sid mid).2 :=
  have hc := h.getOrCreateStreamInfo sid
  ⟨hc.contents.edit (edit_streamDiscard _ sid mid),
    filed_streamDiscard hc.filed (hc.contents.items sid) mid⟩

lemma Sound.prepareResetStream (sid : StreamID) : Sound (q.prepareResetStream sid) :=
  have hc := h.getOrCreateStreamInfo sid
  ⟨hc.contents.edit (edit_streamPause (hc.contents.items sid)),
    filed_streamPause hc.filed (hc.contents.items sid)⟩

lemma Sound.getStreamsReadyToBeReset : Sound q.getStreamsReadyToBeReset.2 :=
  ⟨h.contents.edit (edit_getStreamsReadyToBeReset q).1, filed_getStreamsReadyToBeReset h.filed⟩

lemma Sound.commitResetStreams : Sound q.commitResetStreams :=
  forResetting_induction (fun _ _ hq hr => ⟨hq.contents.edit (edit_streamReset (hq.contents.items _) hr).1,
    filed_streamReset hq.filed (hq.contents.items _)⟩) h

lemma Sound.rollbackResetStreams : Sound q.rollbackResetStreams :=
  forResetting_induction (fun _ _ hq hr => ⟨hq.contents.edit (edit_streamResume hr).1,
    filed_streamResume hq.filed hr⟩) h

lemma Sound.reset : Sound q.reset := by
  have hall : Accounted (q.streams.keys.foldl streamReset q) ∧
      ∀ sid, (q.streams.keys.foldl streamReset q).Filed sid :=
    run_induction (P := fun q => Accounted q ∧ ∀ sid, q.Filed sid)
      (fun q sid hq => ⟨hq.1.streamReset sid, filed_streamReset hq.2 (hq.1.items sid)⟩) _
      ⟨h.contents.toAccounted, h.filed⟩
  refine ⟨⟨⟨hall.1.items, hall.1.amounts, hall.1.total⟩, fun hr => ?_⟩, hall.2⟩
  simp [RRSendQueue.reset, rescheduling, forceReschedule] at hr

lemma Sound.setStreamPriority (sid : StreamID) (priority : Nat) :
    Sound (q.setStreamPriority sid priority) := by
  have hrw : Rewritten sid (q.stream sid) id [] q (q.setStreamPriority sid priority) := by
    refine .of_stream ?_ ?_ ?_ (fun _ => rfl) rfl (append_nil _).symm rfl rfl <;> rfl
  exact ⟨h.contents.expiry (quiet_setStreamPriority q sid priority).expiry, hrw.filed h.filed Iff.rfl⟩

end

inductive Operation where
  | add (now : Timestamp) (message : DcSctpMessage) (sendOptions : SendOptions)
  | produce (now : Timestamp) (maxSize : Nat)
  | discard (sid : StreamID) (messageId : OutgoingMessageId)
  | prepareResetStream (sid : StreamID)
  | getStreamsReadyToBeReset
  | commitResetStreams
  | rollbackResetStreams
  | reset
  | setStreamPriority (sid : StreamID) (priority : Nat)

def perform (q : RRSendQueue) : Operation → RRSendQueue
  | .add now message sendOptions => q.add now message sendOptions
  | .produce now maxSize => (q.produce now maxSize).2
  | .discard sid messageId => (q.discard sid messageId).2
  | .prepareResetStream sid => q.prepareResetStream sid
  | .getStreamsReadyToBeReset => q.getStreamsReadyToBeReset.2
  | .commitResetStreams => q.commitResetStreams
  | .rollbackResetStreams => q.rollbackResetStreams
  | .reset => q.reset
  | .setStreamPriority sid priority => q.setStreamPriority sid priority

/-- `Add` requires a message with a payload (the source checks it), and `Produce` is asked for at
least a byte. -/
def Operation.Ok : Operation → Prop
  | .add _ message _ => message.payload ≠ []
  | .produce _ maxSize => 1 ≤ maxSize
  | _ => True

lemma Sound.perform (h : Sound q) : ∀ {op : Operation}, op.Ok → Sound (q.perform op)
  | .add now _ sendOptions, hok => h.add now hok sendOptions
  | .produce now _, hok => h.produce now hok
  | .discard sid messageId, _ => h.discard sid messageId
  | .prepareResetStream sid, _ => h.prepareResetStream sid
  | .getStreamsReadyToBeReset, _ => h.getStreamsReadyToBeReset
  | .commitResetStreams, _ => h.commitResetStreams
  | .rollbackResetStreams, _ => h.rollbackResetStreams
  | .reset, _ => h.reset
  | .setStreamPriority sid priority, _ => h.setStreamPriority sid priority

lemma sound_new (mtu prio thr : Nat) (inter : Bool) :
    Sound ((new mtu prio thr).enableMessageInterleaving inter) := by
  refine ⟨⟨⟨fun sid => ⟨fun i hi => absurd hi (by simp [stream, new, enableMessageInterleaving,
      OutgoingStream.new]), fun i hi => absurd hi (by simp [stream, new, enableMessageInterleaving,
      OutgoingStream.new]), ⟨fun _ => rfl, fun hc => ?_⟩⟩, fun sid => rfl, rfl⟩, fun hr => ?_⟩,
    fun sid t => ?_⟩
  · simp [stream, new, enableMessageInterleaving, OutgoingStream.new] at hc
  · simp [rescheduling, new, enableMessageInterleaving] at hr
  simp [ActiveAt, stream, new, enableMessageInterleaving, OutgoingStream.new,
    bytesToSendInNextMessage]

structure Consistent (q : RRSendQueue) : Prop where
  /-- The total is the sum of the streams' buffered amounts. -/
  total : q.totalBufferedAmount.value = OrdMap.weight (fun s => s.bufferedAmount.value) q.streams
  /-- A stream's buffered amount is the sum of what is left of its messages. -/
  amounts : ∀ sid, q.bufferedAmount sid = ((q.stream sid).items.map Item.remainingSize).sum
  /-- The active streams are those with something to send. -/
  active : ∀ sid, (∃ t, q.ActiveAt sid t) ↔ 0 < (q.stream sid).bytesToSendInNextMessage
  /-- A stream is active once. -/
  once : ∀ sid t t', q.ActiveAt sid t → q.ActiveAt sid t' → t = t'
  /-- The loop of `Produce` ends. -/
  ends : ∀ now maxSize,
    (schedulerLoop now maxSize q.rescheduling (q.scheduler.activeStreams.size + 1) q).1 ≠ none

lemma Sound.consistent (h : Sound q) : Consistent q := by
  refine ⟨h.contents.total, h.contents.amounts, fun sid => ⟨?_, fun hb => ?_⟩, fun sid t t' ht ht' => ?_,
    fun now maxSize => (schedulerLoop_ends now maxSize h.contents h.filed).2⟩
  · rintro ⟨t, ht⟩
    exact ((h.filed sid t).mp ht).1
  · exact ⟨_, (h.filed sid _).mpr ⟨hb, rfl⟩⟩
  · rw [((h.filed sid t).mp ht).2, ((h.filed sid t').mp ht').2]

/-- **A send queue is consistent after any operations**, with and without message interleaving. -/
theorem consistent_run (mtu defaultPriority threshold : Nat) (interleaving : Bool)
    (ops : List Operation) (hops : ∀ op ∈ ops, op.Ok) :
    Consistent (run perform
      ((new mtu defaultPriority threshold).enableMessageInterleaving interleaving) ops) :=
  (run_induction_mem (P := Sound) (fun _ op hop h => h.perform (hops op hop))
    (sound_new mtu defaultPriority threshold interleaving)).consistent

/-- A message is sent in part and put back by a reset, another one is discarded. -/
theorem consistent_run_produce_reset_discard :
    Consistent (run perform ((new 1200 256 0).enableMessageInterleaving false)
      [.add 0 ⟨1, 50, [1, 2, 3]⟩ {}, .add 0 ⟨1, 50, [4]⟩ {}, .produce 0 2, .reset, .produce 0 2,
        .discard 1 0, .produce 0 2]) :=
  consistent_run 1200 256 0 false _ (by simp [Operation.Ok])

end RRSendQueue

end WebRtc.Dcsctp
