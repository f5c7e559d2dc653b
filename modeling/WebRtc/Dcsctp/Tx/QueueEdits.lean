import WebRtc.Dcsctp.Tx.OutgoingStreams
import WebRtc.Lib.Weight

/-!
# dcSCTP — what the send queue's operations do to its contents

`Edit` lists the changes that the operations make to the messages, numbers, pause states, amounts
and reports of a send queue, one stream at a time, and `Sends` describes a fragment that is sent;
every operation but `Reset` is a chain of these. Invariants are proved against the two relations.
That the scheduler's set of active streams stays in step is one `filed_*` lemma per operation.
-/

namespace WebRtc.Dcsctp

open Lib OutgoingStream List OrdMap Item

def SendCallback.isLifecycle : SendCallback → Bool
  | .onBufferedAmountLow _ | .onTotalBufferedAmountLow => false
  | _ => true

def Item.expiryReports (item : Item) : List SendCallback :=
  if item.attributes.lifecycleId ≠ 0 then
    [.onLifecycleMessageExpired item.attributes.lifecycleId false,
      .onLifecycleEnd item.attributes.lifecycleId]
  else []

def owed (items : List Item) : Nat := (items.map remainingSize).sum

@[simp] lemma owed_nil : owed [] = 0 := rfl

@[simp] lemma owed_cons (item : Item) (items : List Item) :
    owed (item :: items) = item.remainingSize + owed items := rfl

@[simp] lemma owed_append (items items' : List Item) :
    owed (items ++ items') = owed items + owed items' := by
  simp [owed]

namespace OutgoingStream

def withItems (s : OutgoingStream) (items : List Item) : OutgoingStream := { s with items := items }

def withPause (s : OutgoingStream) (p : PauseState) : OutgoingStream := { s with pauseState := p }

def restarted (s : OutgoingStream) : OutgoingStream :=
  { s with pauseState := .notPaused, nextOrderedMid := 0, nextUnorderedMid := 0, nextSsn := 0 }

variable (s : OutgoingStream) (items : List Item) (p : PauseState)

@[simp] lemma items_withItems : (s.withItems items).items = items := rfl

@[simp] lemma pauseState_withItems : (s.withItems items).pauseState = s.pauseState := rfl

@[simp] lemma items_withPause : (s.withPause p).items = s.items := rfl

@[simp] lemma pauseState_withPause : (s.withPause p).pauseState = p := rfl

@[simp] lemma partialKind_withPause : (s.withPause p).partialKind = s.partialKind := rfl

@[simp] lemma pauseState_restarted : s.restarted.pauseState = .notPaused := rfl

end OutgoingStream

namespace RRSendQueue

def lifecycleReports (q : RRSendQueue) : List SendCallback := q.callbacks.filter SendCallback.isLifecycle

/-! ## Changes -/

/-- Stream `sid` becomes `contents`, apart from times and amounts; its buffered amount and the
total change alike, and `reports` are raised. -/
structure Edited (sid : StreamID) (contents : OutgoingStream) (adjust : Nat → Nat)
    (reports : List SendCallback) (q q' : RRSendQueue) : Prop where
  others : ∀ sid', sid' ≠ sid → (q'.stream sid').core = (q.stream sid').core ∧
    q'.bufferedAmount sid' = q.bufferedAmount sid'
  core : (q'.stream sid).core = contents.core
  amount : q'.bufferedAmount sid = adjust (q.bufferedAmount sid)
  total : q'.totalBufferedAmount.value = adjust q.totalBufferedAmount.value
  reported : q'.lifecycleReports = q.lifecycleReports ++ reports
  interleaving : q'.scheduler.enableMessageInterleaving = q.scheduler.enableMessageInterleaving

/-- It is the same stream's turn, in the middle of the same message. -/
structure SameTurn (q q' : RRSendQueue) : Prop where
  sending : q'.scheduler.currentlySendingAMessage = q.scheduler.currentlySendingAMessage
  current : q.rescheduling = false → q'.scheduler.currentStream = q.scheduler.currentStream

structure Takes (sid : StreamID) (maxSize : Nat) (item : Item) (rest : List Item) (d : DataToSend)
    (q q' : RRSendQueue) : Prop where
  items : (q.stream sid).items = item :: rest
  data : d = ((q.stream sid).sendFragment maxSize item rest).1
  awake : (q.stream sid).Awake
  edited : Edited sid ((q.stream sid).sendFragment maxSize item rest).2 (· - d.data.size) [] q q'
  messageId : q'.currentMessageId = q.currentMessageId
  turn : q.rescheduling = false → q.scheduler.currentStream = some sid
  current : q'.scheduler.currentStream = some sid

structure Sends (sid : StreamID) (maxSize : Nat) (item : Item) (rest : List Item) (d : DataToSend)
    (q q' : RRSendQueue) : Prop extends Takes sid maxSize item rest d q q' where
  sending : q'.scheduler.currentlySendingAMessage = !d.data.isEnd

inductive Expiry (q q' : RRSendQueue) : Prop
  /-- Only times, thresholds and turns change. -/
  | keep (contents : ∀ sid, (q'.stream sid).core = (q.stream sid).core)
      (amounts : ∀ sid, q'.bufferedAmount sid = q.bufferedAmount sid)
      (total : q'.totalBufferedAmount.value = q.totalBufferedAmount.value)
      (reported : q'.lifecycleReports = q.lifecycleReports)
      (messageId : q'.currentMessageId = q.currentMessageId)
      (interleaving : q'.scheduler.enableMessageInterleaving = q.scheduler.enableMessageInterleaving)
      (turn : SameTurn q q')
  /-- The first message, of which nothing was sent, expires. -/
  | drop (sid : StreamID) (item : Item) (rest : List Item)
      (items : (q.stream sid).items = item :: rest) (unsent : item.mid = none)
      (edited : Edited sid ((q.stream sid).withItems rest) (· - item.remainingSize)
        item.expiryReports q q')
      (messageId : q'.currentMessageId = q.currentMessageId) (turn : SameTurn q q')
      (limited : item.attributes.expiresAt ≠ none)

/-- **One change of a send queue** other than sending. -/
inductive Edit (q q' : RRSendQueue) : Prop
  | expiry (h : Expiry q q')
  /-- A message is enqueued. -/
  | enqueue (sid : StreamID) (message : DcSctpMessage) (attributes : MessageAttributes)
      (nonempty : message.payload ≠ [])
      (edited : Edited sid ((q.stream sid).withItems
        ((q.stream sid).items ++ [Item.new q.currentMessageId message attributes]))
        (· + message.payload.length) [] q q')
      (messageId : q'.currentMessageId = q.currentMessageId + 1) (turn : SameTurn q q')
  /-- The rest of the first message is discarded. -/
  | discard (sid : StreamID) (item : Item) (rest : List Item)
      (items : (q.stream sid).items = item :: rest)
      (edited : Edited sid (((q.stream sid).withItems rest).withPause
        (if (q.stream sid).pauseState = .pending then .paused else (q.stream sid).pauseState))
        (· - item.remainingSize) item.expiryReports q q')
      (messageId : q'.currentMessageId = q.currentMessageId)
      (sending : q'.scheduler.currentlySendingAMessage = false)
      (current : q'.scheduler.currentStream = q.scheduler.currentStream)
  /-- The messages of which nothing was sent expire, and the stream is paused once its message
  in progress has been sent. -/
  | pause (sid : StreamID) (kept dropped : List Item)
      (running : (q.stream sid).pauseState = .notPaused)
      (items : (q.stream sid).items = kept ++ dropped) (begun : ∀ i ∈ kept, i.mid ≠ none)
      (unsent : ∀ i ∈ dropped, i.mid = none)
      (edited : Edited sid (((q.stream sid).withItems kept).withPause
        (if kept = [] then .paused else .pending)) (· - owed dropped)
        (dropped.flatMap expiryReports) q q')
      (messageId : q'.currentMessageId = q.currentMessageId) (turn : SameTurn q q')
  /-- The paused streams are about to be reset. -/
  | beginReset (contents : ∀ sid, (q'.stream sid).core = ((q.stream sid).withPause
    (if (q.stream sid).pauseState = .paused then .resetting else (q.stream sid).pauseState)).core)
      (amounts : ∀ sid, q'.bufferedAmount sid = q.bufferedAmount sid)
      (total : q'.totalBufferedAmount.value = q.totalBufferedAmount.value)
      (reported : q'.lifecycleReports = q.lifecycleReports)
      (messageId : q'.currentMessageId = q.currentMessageId)
      (interleaving : q'.scheduler.enableMessageInterleaving = q.scheduler.enableMessageInterleaving)
      (turn : SameTurn q q')
  /-- A stream was not reset. -/
  | resume (sid : StreamID) (resetting : (q.stream sid).pauseState = .resetting)
      (edited : Edited sid ((q.stream sid).withPause .notPaused) id [] q q')
      (messageId : q'.currentMessageId = q.currentMessageId) (turn : SameTurn q q')
  /-- A stream was reset: its numbers start again. -/
  | restart (sid : StreamID) (resetting : (q.stream sid).pauseState = .resetting)
      (edited : Edited sid (q.stream sid).restarted id [] q q')
      (messageId : q'.currentMessageId = q.currentMessageId) (turn : SameTurn q q')

abbrev Expiries : RRSendQueue → RRSendQueue → Prop := Relation.ReflTransGen Expiry

structure Still (q q' : RRSendQueue) : Prop where
  items : ∀ sid, (q'.stream sid).items = (q.stream sid).items
  messageId : q'.currentMessageId = q.currentMessageId
  reported : q'.lifecycleReports = q.lifecycleReports
  interleaving : q'.scheduler.enableMessageInterleaving = q.scheduler.enableMessageInterleaving
  turn : SameTurn q q'

lemma Edited.still {q q' : RRSendQueue} {sid : StreamID} {inner : OutgoingStream}
    (h : Edited sid inner id [] q q') (hitm : inner.items = (q.stream sid).items)
    (hid : q'.currentMessageId = q.currentMessageId) (hturn : SameTurn q q') : Still q q' := by
  refine ⟨fun sid' => ?_, hid, by rw [h.reported, append_nil], h.interleaving, hturn⟩
  by_cases hs : sid' = sid
  · rw [hs, (core_eq h.core).1, hitm]
  · exact (core_eq (h.others sid' hs).1).1

/-! ## What holds of the contents -/

end RRSendQueue

/-- An enqueued message knows how much of it is left, which is not nothing; one without a number
has not been touched. -/
structure Item.Sized (item : Item) : Prop where
  total : item.remainingOffset + item.remainingSize = item.message.payload.length
  left : 0 < item.remainingSize
  begun : item.mid.isSome → 0 < item.remainingOffset
  fresh : item.mid = none → item.remainingOffset = 0 ∧ item.ssn = none ∧ item.currentFsn = 0

/-- Only the first message of a stream can have been sent in part, and not while the stream is
paused. -/
structure ItemsOk (s : OutgoingStream) : Prop where
  sized : ∀ item ∈ s.items, item.Sized
  rest : ∀ item ∈ s.items.tail, item.mid = none
  pause : PauseOk s

variable {s : OutgoingStream}

lemma ItemsOk.cons {item : Item} {rest : List Item} (h : ItemsOk s) (hitm : s.items = item :: rest) :
    item.Sized ∧ (∀ i ∈ rest, i.Sized) ∧ ∀ i ∈ rest, i.mid = none := by
  have hsz := h.sized
  have hrest := h.rest
  rw [hitm] at hsz hrest
  exact ⟨hsz item mem_cons_self, (forall_mem_cons.mp hsz).2, hrest⟩

lemma ItemsOk.congr {s' : OutgoingStream} (h : ItemsOk s) (hcore : s'.core = s.core) :
    ItemsOk s' := by
  obtain ⟨hitm, hpse, -⟩ := core_eq hcore
  refine ⟨?_, ?_, ⟨?_, ?_⟩⟩
  · rw [hitm]
    exact h.sized
  · rw [hitm]
    exact h.rest
  · rw [hpse, partialKind, hitm]
    exact h.pause.paused
  rw [hpse, partialKind, hitm]
  exact h.pause.pending

lemma partialKind_eq_none_iff :
    s.partialKind = none ↔ ∀ i, s.items.head? = some i → i.mid = none := by
  unfold partialKind
  cases s.items with
  | nil => simp
  | cons item rest => cases hm : item.mid <;> simp [hm]

variable {item : Item} {rest : List Item}

section

variable (h : ItemsOk s)

include h

lemma ItemsOk.untouched (hp : s.partialKind = none) : ∀ item ∈ s.items, item.mid = none := by
  intro item hitem
  cases hitm : s.items with
  | nil => simp [hitm] at hitem
  | cons first rest =>
    rw [hitm] at hitem
    rcases mem_cons.mp hitem with rfl | hmem
    · exact partialKind_eq_none_iff.mp hp item (by rw [hitm]; rfl)
    · exact h.rest item (by rw [hitm]; exact hmem)

lemma ItemsOk.sublist {kept : List Item}
    (hsub : ∀ i ∈ kept, i ∈ s.items) (htail : ∀ i ∈ kept.tail, i.mid = none)
    (hpart : (s.withItems kept).partialKind = s.partialKind) : ItemsOk (s.withItems kept) := by
  refine ⟨fun i hi => h.sized i (hsub i hi), htail, ⟨fun hc => ?_, fun hc => ?_⟩⟩
  · rw [hpart]
    exact h.pause.paused hc
  rw [hpart]
  exact h.pause.pending hc

lemma ItemsOk.dropFirst (hitm : s.items = item :: rest) (hmid : item.mid = none) :
    ItemsOk (s.withItems rest) ∧ (s.withItems rest).partialKind = s.partialKind := by
  obtain ⟨-, -, hrest⟩ := h.cons hitm
  have hpart : (s.withItems rest).partialKind = s.partialKind := by
    rw [partialKind_eq_none_iff.mpr fun i hi => hrest i (mem_of_mem_head? hi),
      partialKind_eq_none_iff.mpr]
    rw [hitm]
    rintro i ⟨⟩
    exact hmid
  exact ⟨h.sublist (fun i hi => by rw [hitm]; exact mem_cons_of_mem _ hi)
    (fun i hi => hrest i (mem_of_mem_tail hi)) hpart, hpart⟩

lemma ItemsOk.dropUnsent {kept dropped : List Item}
    (hitm : s.items = kept ++ dropped) (huns : ∀ i ∈ dropped, i.mid = none) :
    ItemsOk (s.withItems kept) ∧ (s.withItems kept).partialKind = s.partialKind := by
  have hpart : (s.withItems kept).partialKind = s.partialKind := by
    cases kept with
    | nil =>
      rw [partialKind_eq_none_iff.mpr (by simp), partialKind_eq_none_iff.mpr]
      rw [hitm]
      exact fun i hi => huns i (mem_of_mem_head? hi)
    | cons item kept => simp [partialKind, withItems, hitm]
  refine ⟨h.sublist (fun i hi => by rw [hitm]; exact mem_append_left _ hi) (fun i hi => ?_) hpart,
    hpart⟩
  cases kept with
  | nil => simp at hi
  | cons item kept => exact h.rest i (by rw [hitm]; exact mem_append_left _ hi)

lemma ItemsOk.remainingOffset_eq_zero_iff
    (hitem : item ∈ s.items) : item.remainingOffset = 0 ↔ item.mid = none := by
  have hsz := h.sized item hitem
  refine ⟨fun h0 => ?_, fun hm => (hsz.fresh hm).1⟩
  by_contra hne
  have := hsz.begun (Option.isSome_iff_ne_none.mpr hne)
  omega

lemma ItemsOk.pauseSplit :
    s.items = (s.items.filter fun item => item.remainingOffset ≠ 0) ++
        s.items.filter (fun item => item.remainingOffset = 0) ∧
      (∀ i ∈ s.items.filter (fun item => item.remainingOffset ≠ 0), i.mid ≠ none) ∧
      ∀ i ∈ s.items.filter (fun item => item.remainingOffset = 0), i.mid = none := by
  refine ⟨?_, fun i hi hm => ?_, fun i hi => ?_⟩
  · cases hitm : s.items with
    | nil => rfl
    | cons item rest =>
      -- nothing was sent of the messages behind the first
      have hrest : ∀ i ∈ rest, i.remainingOffset = 0 := fun i hi =>
        (h.remainingOffset_eq_zero_iff (by rw [hitm]; exact mem_cons_of_mem _ hi)).mpr
          (h.rest i (by rw [hitm]; exact hi))
      have hkept : rest.filter (fun item => item.remainingOffset ≠ 0) = [] :=
        filter_eq_nil_iff.mpr fun i hi => by simp [hrest i hi]
      have hdrop : rest.filter (fun item => item.remainingOffset = 0) = rest :=
        filter_eq_self.mpr fun i hi => by simp [hrest i hi]
      by_cases h0 : item.remainingOffset = 0
      · rw [filter_cons_of_neg (by simp [h0]), hkept, filter_cons_of_pos (by simp [h0]), hdrop]
        rfl
      rw [filter_cons_of_pos (by simp [h0]), hkept, filter_cons_of_neg (by simp [h0]), hdrop]
      rfl
  · obtain ⟨hmem, h0⟩ := mem_filter.mp hi
    exact of_decide_eq_true h0 ((h.remainingOffset_eq_zero_iff hmem).mpr hm)
  · obtain ⟨hmem, h0⟩ := mem_filter.mp hi
    exact (h.remainingOffset_eq_zero_iff hmem).mp (of_decide_eq_true h0)

lemma ItemsOk.repause {p : PauseState}
    (hpau : p = .paused ∨ p = .resetting → s.partialKind = none)
    (hpend : p = .pending → s.partialKind ≠ none) : ItemsOk (s.withPause p) :=
  ⟨h.sized, h.rest, ⟨hpau, hpend⟩⟩

end

namespace RRSendQueue

variable {q q' q'' : RRSendQueue} {sid : StreamID}

/-- The buffered amounts are those of the messages. -/
structure Accounted (q : RRSendQueue) : Prop where
  items : ∀ sid, ItemsOk (q.stream sid)
  amounts : ∀ sid, q.bufferedAmount sid = owed (q.stream sid).items
  total : q.totalBufferedAmount.value =
    weight (fun s => s.bufferedAmount.value) q.streams

/-- **The contents are sound**: also, a message in progress is at the front of the current
stream. -/
structure ContentsOk (q : RRSendQueue) : Prop extends Accounted q where
  turn : q.rescheduling = false → ∃ sid, q.scheduler.currentStream = some sid ∧
    (q.stream sid).partialKind ≠ none

lemma weightAt_streams (sid : StreamID) :
    weightAt (fun s => s.bufferedAmount.value) q.streams sid = q.bufferedAmount sid := by
  unfold weightAt bufferedAmount stream
  cases q.streams.find? sid <;> rfl

lemma weight_add_bufferedAmount
    (h : ∀ sid', sid' ≠ sid → q'.bufferedAmount sid' = q.bufferedAmount sid') :
    weight (fun s => s.bufferedAmount.value) q'.streams + q.bufferedAmount sid =
      weight (fun s => s.bufferedAmount.value) q.streams + q'.bufferedAmount sid := by
  have hat : ∀ sid', sid' ≠ sid →
      weightAt (fun s => s.bufferedAmount.value) q'.streams sid' =
        weightAt (fun s => s.bufferedAmount.value) q.streams sid' := by
    intro sid' hs
    rw [weightAt_streams, weightAt_streams, h sid' hs]
  simpa only [weightAt_streams] using weight_add_of_weightAt_ne hat

lemma weight_eq_of_amounts (h : ∀ sid, q'.bufferedAmount sid = q.bufferedAmount sid) :
    weight (fun s => s.bufferedAmount.value) q'.streams =
      weight (fun s => s.bufferedAmount.value) q.streams :=
  weight_eq_of_weightAt fun sid => by rw [weightAt_streams, weightAt_streams, h]

lemma Accounted.amount_le_total (h : Accounted q) (sid : StreamID) :
    q.bufferedAmount sid ≤ q.totalBufferedAmount.value := by
  have := weight_erase_add (f := fun s : OutgoingStream => s.bufferedAmount.value) q.streams sid
  rw [weightAt_streams, ← h.total] at this
  omega

variable {reports : List SendCallback} {contents : OutgoingStream} {adjust : Nat → Nat}

section

variable (he : Edited sid contents adjust reports q q') (hitm : ItemsOk contents)
  (howed : adjust (q.bufferedAmount sid) = owed contents.items)
  (htot : adjust q.totalBufferedAmount.value + q.bufferedAmount sid =
    q.totalBufferedAmount.value + adjust (q.bufferedAmount sid))

include he hitm howed htot

lemma Accounted.edited (h : Accounted q) : Accounted q' := by
  refine ⟨fun sid' => ?_, fun sid' => ?_, ?_⟩
  · by_cases hs : sid' = sid
    · rw [hs]
      exact hitm.congr he.core
    · exact (h.items sid').congr (he.others sid' hs).1
  · by_cases hs : sid' = sid
    · rw [hs, he.amount, howed, (core_eq he.core).1]
    · rw [(he.others sid' hs).2, h.amounts, (core_eq (he.others sid' hs).1).1]
  have hsum := weight_add_bufferedAmount fun sid' hs => (he.others sid' hs).2
  rw [he.amount, ← h.total] at hsum
  rw [he.total]
  omega

lemma ContentsOk.edited (h : ContentsOk q)
    (hturn : q'.rescheduling = false → ∃ sid', q'.scheduler.currentStream = some sid' ∧
      (q'.stream sid').partialKind ≠ none) : ContentsOk q' :=
  ⟨h.toAccounted.edited he hitm howed htot, hturn⟩

end

lemma partialKind_congr {s' : OutgoingStream} (h : s'.core = s.core) :
    s'.partialKind = s.partialKind := by
  rw [partialKind, partialKind, (core_eq h).1]

lemma SameTurn.rescheduling (h : SameTurn q q')
    (hint : q'.scheduler.enableMessageInterleaving = q.scheduler.enableMessageInterleaving) :
    q'.rescheduling = q.rescheduling := by
  rw [RRSendQueue.rescheduling, RRSendQueue.rescheduling, hint, h.sending]

section

variable (h : ContentsOk q)

include h

lemma ContentsOk.turn_of_same (ht : SameTurn q q')
    (hint : q'.scheduler.enableMessageInterleaving = q.scheduler.enableMessageInterleaving)
    (hpart : ∀ sid, (q.stream sid).partialKind ≠ none → (q'.stream sid).partialKind ≠ none)
    (hr : q'.rescheduling = false) : ∃ sid, q'.scheduler.currentStream = some sid ∧
      (q'.stream sid).partialKind ≠ none := by
  rw [ht.rescheduling hint] at hr
  obtain ⟨sid, hcur, hp⟩ := h.turn hr
  exact ⟨sid, (ht.current hr).trans hcur, hpart sid hp⟩

lemma ContentsOk.turn_of_edited (ht : SameTurn q q')
    (he : Edited sid contents adjust reports q q')
    (hpart : (q.stream sid).partialKind ≠ none → contents.partialKind ≠ none)
    (hr : q'.rescheduling = false) : ∃ sid, q'.scheduler.currentStream = some sid ∧
      (q'.stream sid).partialKind ≠ none := by
  refine h.turn_of_same ht he.interleaving (fun sid' hp => ?_) hr
  by_cases hs : sid' = sid
  · subst hs
    rw [partialKind_congr he.core]
    exact hpart hp
  · rwa [partialKind_congr (he.others sid' hs).1]

lemma ContentsOk.expiry (he : Expiry q q') : ContentsOk q' := by
  cases he with
  | keep contents amounts total reported messageId interleaving turn =>
    refine ⟨⟨fun sid => (h.items sid).congr (contents sid), fun sid => ?_, ?_⟩, fun hr => ?_⟩
    · rw [amounts, h.amounts, (core_eq (contents sid)).1]
    · rw [total, h.total, weight_eq_of_amounts amounts]
    refine h.turn_of_same turn interleaving (fun sid hp => ?_) hr
    rwa [partialKind_congr (contents sid)]
  | drop sid item rest items unsent edited messageId turn =>
    obtain ⟨hok, hpart⟩ := (h.items sid).dropFirst items unsent
    have hsum := h.amounts sid
    rw [items, owed_cons] at hsum
    have hle := h.amount_le_total sid
    refine h.edited edited hok ?_ ?_ (h.turn_of_edited turn edited fun hp => by rwa [hpart])
    · rw [items_withItems]
      omega
    · omega

lemma ContentsOk.expiries (he : Expiries q q') : ContentsOk q' := by
  induction he with
  | refl => exact h
  | tail _ he ih => exact ih.expiry he

lemma ContentsOk.edit (he : Edit q q') : ContentsOk q' := by
  cases he with
  | expiry he => exact h.expiry he
  | enqueue sid message attributes nonempty edited messageId turn =>
    have hlen : 0 < message.payload.length := length_pos_iff.mpr nonempty
    have hpart : ((q.stream sid).withItems ((q.stream sid).items ++
        [Item.new q.currentMessageId message attributes])).partialKind = (q.stream sid).partialKind :=
      partialKind_append rfl
    have hok := h.items sid
    refine h.edited edited ⟨?_, fun i hi => ?_, ⟨fun hc => ?_, fun hc => ?_⟩⟩ ?_ ?_
      (h.turn_of_edited turn edited fun hp => by rwa [hpart])
    · refine forall_mem_append.mpr ⟨hok.sized, forall_mem_singleton.mpr ?_⟩
      exact ⟨by simp [Item.new], hlen, fun hc => absurd hc (by simp [Item.new]),
        fun _ => ⟨rfl, rfl, rfl⟩⟩
    · cases hitm : (q.stream sid).items with
      | nil => simp [hitm, withItems] at hi
      | cons first rest =>
        rw [hitm] at hi
        rcases mem_append.mp hi with hi | hi
        · exact hok.rest i (by rw [hitm]; exact hi)
        rw [mem_singleton.mp hi]
        rfl
    · rw [hpart]
      exact hok.pause.paused hc
    · rw [hpart]
      exact hok.pause.pending hc
    · simp [h.amounts, Item.new, withItems]
    · omega
  | discard sid item rest items edited messageId sending current =>
    have hok := h.items sid
    obtain ⟨-, hsz, hrest⟩ := hok.cons items
    have hpart : ((q.stream sid).withItems rest).partialKind = none :=
      partialKind_eq_none_iff.mpr fun i hi => hrest i (mem_of_mem_head? hi)
    have hsum := h.amounts sid
    rw [items, owed_cons] at hsum
    have hle := h.amount_le_total sid
    refine h.edited edited ⟨hsz, fun i hi => ?_, ⟨fun _ => hpart, fun hc => ?_⟩⟩ ?_ ?_ fun hr => ?_
    · exact hrest i (mem_of_mem_tail hi)
    · rw [pauseState_withPause] at hc
      split at hc
      · simp at hc
      · next hne => exact absurd hc hne
    · change q.bufferedAmount sid - item.remainingSize = owed rest
      omega
    · omega
    · simp [rescheduling, sending] at hr
  | pause sid kept dropped running items begun unsent edited messageId turn =>
    obtain ⟨hok, hpart⟩ := (h.items sid).dropUnsent items unsent
    have hnone : kept = [] ↔ ((q.stream sid).withItems kept).partialKind = none := by
      rw [partialKind_eq_none_iff]
      cases kept with
      | nil => simp
      | cons item kept => simpa using begun item mem_cons_self
    have hsum := h.amounts sid
    rw [items, owed_append] at hsum
    have hle := h.amount_le_total sid
    refine h.edited edited (hok.repause (fun hc => ?_) fun hc => ?_) ?_ ?_
      (h.turn_of_edited turn edited fun hp => by rwa [← hpart] at hp)
    · rw [← hnone]
      by_contra hne
      simp [hne] at hc
    · rw [ne_eq, ← hnone]
      intro hnil
      simp [hnil] at hc
    · change q.bufferedAmount sid - owed dropped = owed kept
      omega
    · omega
  | beginReset contents amounts total reported messageId interleaving turn =>
    have hpart : ∀ sid, (q'.stream sid).partialKind = (q.stream sid).partialKind :=
      fun sid => (partialKind_congr (contents sid)).trans (partialKind_withPause _ _)
    refine ⟨⟨fun sid => ItemsOk.congr ((h.items sid).repause (fun hc => ?_) fun hc => ?_) (contents sid),
      fun sid => ?_, ?_⟩, fun hr => ?_⟩
    · refine (h.items sid).pause.paused ?_
      split at hc
      · next hp => exact .inl hp
      · exact hc
    · split at hc
      · simp at hc
      · exact (h.items sid).pause.pending hc
    · rw [amounts, h.amounts, (core_eq (contents sid)).1, items_withPause]
    · rw [total, h.total, weight_eq_of_amounts amounts]
    · refine h.turn_of_same turn interleaving (fun sid hp => ?_) hr
      rwa [hpart]
  | resume sid resetting edited messageId turn =>
    exact h.edited edited ((h.items sid).repause (by simp) (by simp)) (h.amounts sid) rfl
      (h.turn_of_edited turn edited id)
  | restart sid resetting edited messageId turn =>
    refine h.edited edited ?_ (h.amounts sid) rfl (h.turn_of_edited turn edited id)
    exact ⟨(h.items sid).sized, (h.items sid).rest, ⟨by simp, by simp⟩⟩

end

end RRSendQueue

/-! ## Fragments -/

/-- What `OutgoingStream::Produce` makes of the first message: the fragment `d`, and the stream
`s'` with what is left of the message. -/
structure Fragment (s : OutgoingStream) (item : Item) (rest : List Item) (d : DataToSend)
    (s' : OutgoingStream) : Prop where
  messageId : d.messageId = item.messageId
  streamId : d.data.streamId = item.message.streamId
  unordered : d.data.isUnordered = item.attributes.unordered
  nonempty : d.data.payload ≠ []
  payload : item.message.payload.take item.remainingOffset ++ d.data.payload =
    item.message.payload.take (item.remainingOffset + d.data.size)
  beginning : d.data.isBeginning = item.mid.isNone
  lifecycle : d.lifecycleId = if d.data.isEnd then item.attributes.lifecycleId else 0
  done : d.data.isEnd = true → d.data.size = item.remainingSize ∧ s'.items = rest ∧
    s'.pauseState = if s.pauseState = .pending then .paused else s.pauseState
  more : d.data.isEnd = false → ∃ item', s'.items = item' :: rest ∧ item'.Sized ∧
    item'.mid.isSome ∧ item'.remainingSize + d.data.size = item.remainingSize ∧
    item'.remainingOffset = item.remainingOffset + d.data.size ∧
    item'.messageId = item.messageId ∧ item'.message = item.message ∧
    item'.attributes = item.attributes ∧ s'.pauseState = s.pauseState

lemma allocateNumbers_spec (s : OutgoingStream) (item : Item) :
    (∃ mid ssn, (s.allocateNumbers item).2 = { item with mid := some mid, ssn := ssn }) ∧
      (s.allocateNumbers item).1.pauseState = s.pauseState := by
  obtain ⟨messageId, message, attributes, offset, size, mid, ssn, fsn⟩ := item
  unfold allocateNumbers
  cases hu : attributes.unordered <;> cases mid <;> cases ssn <;> simp [hu]

variable {maxSize : Nat}

lemma Item.Sized.chunkPayload_ne_nil (h : item.Sized)
    (hmax : 1 ≤ maxSize) : item.chunkPayload maxSize ≠ [] := by
  have htot := h.total
  have hleft := h.left
  rw [ne_eq, ← length_eq_zero_iff, chunkPayload, length_take, length_drop]
  omega

lemma fragment_sendFragment (h : item.Sized) (hmax : 1 ≤ maxSize)
    (s : OutgoingStream) (rest : List Item) :
    Fragment s item rest (s.sendFragment maxSize item rest).1 (s.sendFragment maxSize item rest).2 := by
  obtain ⟨⟨mid, ssn, hitem⟩, hpse⟩ := allocateNumbers_spec s item
  unfold sendFragment
  generalize s.allocateNumbers item = r at hitem hpse
  obtain ⟨s1, item1⟩ := r
  dsimp only at hitem hpse ⊢
  have htot := h.total
  have hne : item1.chunkPayload maxSize ≠ [] := by
    rw [hitem]
    exact h.chunkPayload_ne_nil hmax
  have hlen : (item1.chunkPayload maxSize).length ≤ item.remainingSize := by
    rw [hitem, chunkPayload, length_take, length_drop]
    simp only
    omega
  have hpos : 0 < (item1.chunkPayload maxSize).length := length_pos_iff.mpr hne
  have hend : item1.isEnd maxSize = true ↔ item.remainingOffset + (item1.chunkPayload maxSize).length =
      item.message.payload.length := by
    rw [isEnd, if_neg hne, decide_eq_true_iff, hitem]
  have hbegin : item1.isBeginning maxSize = item.mid.isNone := by
    rw [isBeginning, if_neg hne, Bool.eq_iff_iff, decide_eq_true_iff, Option.isNone_iff_eq_none,
      hitem]
    refine ⟨fun h0 => ?_, fun hm => (h.fresh hm).1⟩
    by_contra hm
    have := h.begun (Option.isSome_iff_ne_none.mpr hm)
    simp only at h0
    omega
  have hpayload : item.message.payload.take item.remainingOffset ++ item1.chunkPayload maxSize =
      item.message.payload.take (item.remainingOffset + (item1.chunkPayload maxSize).length) := by
    rw [take_add, hitem, chunkPayload, length_take, ← take_take, take_of_length_le le_rfl]
  refine ⟨?_, ?_, ?_, hne, hpayload, hbegin, ?_, fun hd => ?_, fun hd => ?_⟩
  · rw [dataToSend, hitem]
  · rw [dataToSend, hitem]
  · rw [dataToSend, hitem]
  · rw [dataToSend, hitem]
  · have hd : item1.isEnd maxSize = true := hd
    have hfull := hend.mp hd
    refine ⟨?_, ?_, ?_⟩
    · change (item1.chunkPayload maxSize).length = item.remainingSize
      omega
    · rw [if_pos hd]
    · rw [if_pos hd, ← hpse]
  have hd : item1.isEnd maxSize = false := hd
  have hpart : item.remainingOffset + (item1.chunkPayload maxSize).length ≠
      item.message.payload.length := fun hc => by
    rw [hend.mpr hc] at hd
    simp at hd
  rw [hd]
  refine ⟨item1.advance maxSize, rfl, ⟨?_, ?_, fun _ => ?_, fun hc => ?_⟩, ?_, ?_, ?_, ?_, ?_, ?_, ?_⟩
  · rw [advance]
    generalize (item1.chunkPayload maxSize).length = n at *
    rw [hitem]
    simp only
    omega
  · rw [advance]
    generalize (item1.chunkPayload maxSize).length = n at *
    rw [hitem]
    simp only
    omega
  · rw [advance]
    simp only
    omega
  · rw [advance, hitem] at hc
    simp at hc
  · rw [advance, hitem]
    rfl
  · change (item1.advance maxSize).remainingSize + (item1.chunkPayload maxSize).length = _
    rw [advance]
    generalize (item1.chunkPayload maxSize).length = n at *
    rw [hitem]
    simp only
    omega
  · change (item1.advance maxSize).remainingOffset = _ + (item1.chunkPayload maxSize).length
    rw [advance]
    generalize (item1.chunkPayload maxSize).length = n at *
    rw [hitem]
  · rw [advance, hitem]
  · rw [advance, hitem]
  · rw [advance, hitem]
  · exact hpse

namespace RRSendQueue

variable {q q' q'' : RRSendQueue} {sid : StreamID}

lemma Sends.fragment {d : DataToSend}
    (h : ContentsOk q) (hs : Sends sid maxSize item rest d q q') (hmax : 1 ≤ maxSize) :
    Fragment (q.stream sid) item rest d (q'.stream sid) := by
  have hsz := ((h.items sid).cons hs.items).1
  obtain ⟨hitm, hpse, -⟩ := core_eq hs.edited.core
  obtain ⟨h1, h2, h3, h4, h5, h6, h7, h8, h9⟩ := fragment_sendFragment hsz hmax (q.stream sid) rest
  rw [← hs.data] at h1 h2 h3 h4 h5 h6 h7 h8 h9
  refine ⟨h1, h2, h3, h4, h5, h6, h7, ?_, ?_⟩
  · rw [hitm, hpse]
    exact h8
  rw [hitm, hpse]
  exact h9

lemma ContentsOk.sends {d : DataToSend}
    (h : ContentsOk q) (hs : Sends sid maxSize item rest d q q') (hmax : 1 ≤ maxSize) :
    ContentsOk q' := by
  have hok := h.items sid
  obtain ⟨hsz, hszs, hrest⟩ := hok.cons hs.items
  have hfrag := fragment_sendFragment hsz hmax (q.stream sid) rest
  rw [← hs.data] at hfrag
  have hsum := h.amounts sid
  rw [hs.items, owed_cons] at hsum
  have hle := h.amount_le_total sid
  have hpart := partialKind_congr hs.edited.core
  cases hend : d.data.isEnd with
  | true =>
    obtain ⟨hsize, hitm, hpse⟩ := hfrag.done hend
    have hnone : ((q.stream sid).sendFragment maxSize item rest).2.partialKind = none := by
      rw [partialKind_eq_none_iff, hitm]
      exact fun i hi => hrest i (mem_of_mem_head? hi)
    refine h.edited hs.edited ⟨?_, ?_, ⟨fun _ => hnone, fun hc => ?_⟩⟩ ?_ ?_ fun hr => ?_
    · rw [hitm]
      exact hszs
    · rw [hitm]
      exact fun i hi => hrest i (mem_of_mem_tail hi)
    · rw [hpse] at hc
      split at hc
      · simp at hc
      · next hne => exact absurd hc hne
    · rw [hitm, hsize]
      omega
    · rw [hsize]
      omega
    · simp [rescheduling, hs.sending, hend] at hr
  | false =>
    obtain ⟨item', hitm, hsz', hsome, hsize, -, -, -, -, hpse⟩ := hfrag.more hend
    have hsent : ((q.stream sid).sendFragment maxSize item rest).2.partialKind ≠ none := by
      rw [ne_eq, partialKind_eq_none_iff, hitm]
      exact fun hc => absurd (hc item' rfl) (Option.isSome_iff_ne_none.mp hsome)
    refine h.edited hs.edited ⟨?_, ?_, ⟨fun hc => ?_, fun _ => hsent⟩⟩ ?_ ?_ fun _ => ?_
    · rw [hitm]
      exact forall_mem_cons.mpr ⟨hsz', hszs⟩
    · rw [hitm]
      exact hrest
    · rw [hpse] at hc
      exact absurd hc (not_or.mpr hs.awake)
    · rw [hitm, owed_cons]
      omega
    · omega
    · exact ⟨sid, hs.current, by rwa [hpart]⟩

end RRSendQueue

end WebRtc.Dcsctp
