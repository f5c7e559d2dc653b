import WebRtc.Dcsctp.Tx.Bookkeeping
import WebRtc.Dcsctp.Tx.RetransmissionQueue

/-!
# dcSCTP — the books of a retransmission queue

`Bookkeeping` is carried to `RetransmissionQueue`. A SACK needs the set of chunks for fast
retransmission to be empty, and may fill it; every other operation keeps it empty (`Booked`), and
`GetChunksForFastRetransmit` empties it.
-/

namespace WebRtc.Dcsctp

open Lib OutstandingData

namespace OutstandingData

def FastFree (o : OutstandingData) : Prop := ∀ t, o.toBeFastRetransmitted.contains t = false

lemma fastFree_abandonIfSame {o : OutstandingData} (h : o.FastFree) (i : Item) (tsn : Int) :
    (abandonIfSame i o tsn).FastFree := by
  unfold abandonIfSame
  split
  · exact h
  split
  · dsimp only
    split
    · intro t
      show (o.toBeFastRetransmitted.erase tsn).contains t = false
      rw [← Bool.not_eq_true, OrdMap.contains_erase, h t]
      simp
    · exact h
  · exact h

section Discard

variable {σ : Type} (discard : σ → StreamID → OutgoingMessageId → Bool × σ) {o : OutstandingData}

lemma fastFree_abandonAllFor (h : o.FastFree) (i : Item) (q : σ) :
    (o.abandonAllFor discard i q).1.FastFree := by
  refine run_induction (P := FastFree) (fun o' tsn h' => fastFree_abandonIfSame h' i tsn) _ ?_
  split <;> exact h

lemma fastFree_settle (h : o.FastFree) (i : Item) : (o.settle i).FastFree := by
  unfold settle
  split <;> exact h

lemma fastFree_nackItem (h : o.FastFree) (tsn : Int) (atOnce : Bool)
    (q : σ) : (nackItem discard tsn atOnce false o q).2.1.FastFree := by
  unfold nackItem
  split
  · exact h
  rename_i i _
  dsimp only
  have hset : ((o.settle i).setItem tsn (i.nack atOnce).1).FastFree := fastFree_settle h i
  split
  · exact hset
  · exact hset
  · exact fastFree_abandonAllFor discard hset _ q

lemma fastFree_nackAll (h : o.FastFree) (q : σ) : (o.nackAll discard q).1.FastFree :=
  run_induction (P := fun s : OutstandingData × σ => s.1.FastFree)
    (fun s tsn hs => fastFree_nackItem discard hs tsn true s.2) _ h

lemma fastFree_expireLoop (now : Timestamp) (tsns : List Int) (o : OutstandingData) (q : σ)
    (h : o.FastFree) : (expireLoop discard now tsns o q).1.FastFree :=
  expireLoop_induction discard (P := fun s => s.1.FastFree) now
    (fun _ q _ i _ h => fastFree_abandonAllFor discard h i q) (fun _ h => h) tsns o q h

lemma fastFree_insert (h : o.FastFree) (mid : OutgoingMessageId)
    (d : Data) (sent : Timestamp) (maxRtx : MaxRetransmits)
    (expiry : Option Timestamp) (life : LifecycleId) (q : σ) :
    (o.insert discard mid d sent maxRtx expiry life q).2.1.FastFree := by
  have hin : ((o.enterFlight d).emplaceBack ⟨mid, d, sent, maxRtx, expiry,
      life, .active, .unacked, 0, 0⟩).FastFree := h
  unfold insert
  dsimp only
  split
  · exact fastFree_abandonAllFor discard hin _ q
  · exact hin

end Discard

lemma fastFree_extractLoop : ∀ (tsns : List Int) (maxSize : Nat) (o : OutstandingData),
    o.FastFree → (extractLoop .normal tsns maxSize o).2.FastFree
  | [], _, _, h => h
  | tsn :: rest, maxSize, o, h => by
    unfold extractLoop
    split
    · exact h
    dsimp only
    split
    · split
      · exact h
      · exact fastFree_extractLoop rest _ _ h
    split
    · exact h
    · exact fastFree_extractLoop rest _ _ h

end OutstandingData

namespace RetransmissionQueue

/-- The books are right and nothing waits for fast retransmission. -/
structure Booked (q : RetransmissionQueue) : Prop where
  books : q.outstandingData.Bookkeeping
  fast : q.outstandingData.FastFree

lemma booked_new (myTsn : TSN) (aRwnd : BitVec 32) (options : DcSctpOptions)
    (partialRel inter : Bool) :
    (new myTsn aRwnd options partialRel inter).Booked :=
  ⟨bookkeeping_init _ _, fun _ => rfl⟩

section SendQueue

variable {σ : Type} [SendQueue σ]

variable {q : RetransmissionQueue}

lemma Booked.insertChunk (h : q.Booked) (s : σ) (now : Timestamp) (chunk : DataToSend) :
    ((q.takeFromRwnd chunk.data.size).insertChunk s now chunk).2.1.Booked ∧
      ((q.takeFromRwnd chunk.data.size).insertChunk s now chunk).2.1.outstandingData.iteratorsLost =
        q.outstandingData.iteratorsLost := by
  obtain ⟨hbooks, hlost⟩ := insert_spec SendQueue.discard h.books chunk.messageId chunk.data now
    (if q.partialReliability then chunk.maxRetransmissions else MaxRetransmits.noLimit)
    (if q.partialReliability then chunk.expiresAt else none) chunk.lifecycleId s
  exact ⟨⟨hbooks, fastFree_insert (o := q.outstandingData) _ h.fast chunk.messageId chunk.data now _ _
    chunk.lifecycleId s⟩, hlost⟩

lemma Booked.sendLoop (now : Timestamp) : ∀ (rounds limit : Nat) (q : RetransmissionQueue) (s : σ),
    q.Booked → (sendLoop now rounds limit q s).2.1.Booked ∧
      (sendLoop now rounds limit q s).2.1.outstandingData.iteratorsLost = q.outstandingData.iteratorsLost
  | 0, _, _, _, h => ⟨h, rfl⟩
  | rounds + 1, limit, q, s, h => by
    unfold RetransmissionQueue.sendLoop
    split
    swap
    · exact ⟨h, rfl⟩
    split
    · exact ⟨h, rfl⟩
    rename_i chunk s' _
    obtain ⟨hins, hlost⟩ := h.insertChunk s' now chunk
    generalize (q.takeFromRwnd chunk.data.size).insertChunk s' now chunk = r at hins hlost ⊢
    obtain ⟨tsn, q', s''⟩ := r
    obtain ⟨hrest, hlostRest⟩ := Booked.sendLoop now rounds
      (limit - q.getSerializedChunkSize chunk.data) q' s'' hins
    cases tsn <;> exact ⟨hrest, hlostRest.trans hlost⟩

section

variable (h : q.Booked)

include h

variable (s : σ)

lemma Booked.getChunksToSend (now : Timestamp) (room : Nat) :
    (q.getChunksToSend s now room).2.1.Booked ∧
      (q.getChunksToSend s now room).2.1.outstandingData.iteratorsLost =
        q.outstandingData.iteratorsLost := by
  unfold RetransmissionQueue.getChunksToSend
  dsimp only
  obtain ⟨hbooks, hext, -⟩ := extractChunksThatCanFit_spec h.books .normal (q.maxBytes room)
  have hag : ({ q with outstandingData := (q.outstandingData.getChunksToBeRetransmitted
      (q.maxBytes room)).2 } : RetransmissionQueue).Booked :=
    ⟨hbooks, fastFree_extractLoop _ _ _ h.fast⟩
  obtain ⟨hsend, hlost⟩ := Booked.sendLoop now
    (q.maxBytes room - q.serializedSize
      (q.outstandingData.getChunksToBeRetransmitted (q.maxBytes room)).1)
    (q.maxBytes room - q.serializedSize
      (q.outstandingData.getChunksToBeRetransmitted (q.maxBytes room)).1) _ s hag
  split
  · exact ⟨hsend, hlost.trans hext.lost⟩
  · exact ⟨⟨hsend.books, hsend.fast⟩, hlost.trans hext.lost⟩

lemma Booked.shouldSendForwardTsn (now : Timestamp) :
    (q.shouldSendForwardTsn s now).2.1.Booked ∧
      (q.shouldSendForwardTsn s now).2.1.dataChunkHeaderSize = q.dataChunkHeaderSize := by
  unfold RetransmissionQueue.shouldSendForwardTsn
  split
  · obtain ⟨hbooks, hext⟩ := expireOutstandingChunks_spec _ h.books now s
    exact ⟨⟨hbooks, fastFree_expireLoop _ now _ _ s h.fast⟩, hext.header⟩
  · exact ⟨h, rfl⟩

lemma Booked.beginResetStreams : (q.beginResetStreams s).2.1.Booked := by
  obtain ⟨⟨⟨h1, h2, h3, h4⟩, hmrk⟩, hfast⟩ := h
  exact ⟨⟨⟨h1, h2, h3, h4⟩, hmrk⟩, hfast⟩

lemma Booked.handleT3RtxTimerExpiry : (q.handleT3RtxTimerExpiry s).1.Booked :=
  ⟨(nackAll_spec _ h.books s).1, fastFree_nackAll _ h.fast s⟩

lemma Booked.header_handleT3RtxTimerExpiry :
    (q.handleT3RtxTimerExpiry s).1.dataChunkHeaderSize = q.dataChunkHeaderSize :=
  (nackAll_spec _ h.books s).2.header

end

end SendQueue

lemma booked_getChunksForFastRetransmit {q : RetransmissionQueue}
    (h : q.outstandingData.Bookkeeping) (used : Nat) :
    (q.getChunksForFastRetransmit used).2.Booked ∧
      (q.getChunksForFastRetransmit used).2.outstandingData.iteratorsLost =
        q.outstandingData.iteratorsLost := by
  obtain ⟨hbooks, hemp, hlost⟩ := getChunksToBeFastRetransmitted_spec h used
  refine ⟨⟨hbooks, fun t => ?_⟩, hlost⟩
  show ((q.outstandingData.getChunksToBeFastRetransmitted used).2.toBeFastRetransmitted).contains
    t = false
  rw [hemp, OrdMap.contains_empty]

/-! ## SACK -/

variable (q : RetransmissionQueue)

@[simp] lemma books_maybeExitFastRecovery (cum : Int) :
    (q.maybeExitFastRecovery cum).outstandingData = q.outstandingData ∧
      (q.maybeExitFastRecovery cum).callbacks = q.callbacks := by
  unfold maybeExitFastRecovery
  split
  · exact ⟨rfl, rfl⟩
  · split <;> exact ⟨rfl, rfl⟩

@[simp] lemma books_handleIncreasedCumulativeTsnAck (unacked acked : Nat) :
    (q.handleIncreasedCumulativeTsnAck unacked acked).outstandingData = q.outstandingData ∧
      (q.handleIncreasedCumulativeTsnAck unacked acked).callbacks = q.callbacks := by
  unfold handleIncreasedCumulativeTsnAck
  dsimp only
  split <;> split <;> exact ⟨rfl, rfl⟩

@[simp] lemma books_handlePacketLoss :
    q.handlePacketLoss.outstandingData = q.outstandingData ∧
      q.handlePacketLoss.callbacks = q.callbacks := by
  unfold handlePacketLoss
  split <;> exact ⟨rfl, rfl⟩

@[simp] lemma books_startT3 :
    q.startT3RtxTimerIfOutstandingData.outstandingData = q.outstandingData ∧
      q.startT3RtxTimerIfOutstandingData.callbacks = q.callbacks := by
  unfold startT3RtxTimerIfOutstandingData
  split <;> exact ⟨rfl, rfl⟩

lemma books_handleSack {σ : Type} [SendQueue σ] {q : RetransmissionQueue}
    {sack : SackChunk} (hvalid : q.isSackValid sack = true) (s : σ) (now : Timestamp) :
    ∃ recovering,
      let r := q.outstandingData.handleSack SendQueue.discard
        (q.tsnUnwrapper.peekUnwrap sack.cumulativeTsnAck) sack.gapAckBlocks recovering s
      (q.handleSack s now sack).2.1.outstandingData = r.2.1 ∧
        (q.handleSack s now sack).2.1.callbacks = q.callbacks ++ lifecycleCallbacks r.1 ∧
        (q.handleSack s now sack).2.2 = r.2.2 := by
  refine ⟨({ q with tsnUnwrapper := (q.tsnUnwrapper.unwrap sack.cumulativeTsnAck).2 }.maybeExitFastRecovery
    (q.tsnUnwrapper.peekUnwrap sack.cumulativeTsnAck)).isInFastRecovery, ?_⟩
  unfold handleSack
  rw [if_pos hvalid]
  rw [(books_startT3 _).1, (books_startT3 _).2]
  split <;> split <;>
    simp only [books_handlePacketLoss, books_handleIncreasedCumulativeTsnAck,
      updateReceiverWindow, books_maybeExitFastRecovery] <;> exact ⟨rfl, rfl, rfl⟩

lemma Booked.handleSack {σ : Type} [SendQueue σ] {q : RetransmissionQueue} (h : q.Booked) (s : σ)
    (now : Timestamp) (sack : SackChunk) :
    (q.handleSack s now sack).2.1.outstandingData.Bookkeeping ∧
      (q.handleSack s now sack).2.1.dataChunkHeaderSize = q.dataChunkHeaderSize ∧
      (q.handleSack s now sack).2.1.outstandingData.iteratorsLost = q.outstandingData.iteratorsLost := by
  by_cases hvalid : q.isSackValid sack = true
  · obtain ⟨recovering, heq, -, -⟩ := books_handleSack hvalid s now
    unfold dataChunkHeaderSize
    rw [heq]
    simp only [isSackValid, Bool.and_eq_true, decide_eq_true_eq] at hvalid
    have hspec := handleSack_spec SendQueue.discard h.books h.fast hvalid.1 hvalid.2
      sack.gapAckBlocks recovering s
    exact ⟨hspec.books, hspec.header, hspec.lost⟩
  · unfold RetransmissionQueue.handleSack
    rw [if_neg hvalid]
    exact ⟨h.books, rfl, rfl⟩

lemma handleSack_of_not_handled {σ : Type} [SendQueue σ] {q : RetransmissionQueue} {s : σ}
    {now : Timestamp} {sack : SackChunk} (h : (q.handleSack s now sack).1.handled = false) :
    (q.handleSack s now sack).2.1 = q := by
  unfold handleSack at h ⊢
  split
  · rw [if_pos ‹_›] at h
    simp at h
  · rfl

end RetransmissionQueue

end WebRtc.Dcsctp
