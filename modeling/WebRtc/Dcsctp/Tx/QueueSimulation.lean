import WebRtc.Dcsctp.Tx.RetransmissionQueue
import WebRtc.Lib.Run

/-!
# dcSCTP — send queues that a retransmission queue cannot tell apart

If two send queues answer alike as long as their states are related, then so does the retransmission
queue with the one and with the other, and their states stay related. A record that is kept next to
a send queue is an instance: it cannot change what is sent.
-/

namespace WebRtc.Dcsctp

open Lib OutstandingData SendQueue

def Agree {α σ τ : Type} (R : σ → τ → Prop) (x : α × σ) (y : α × τ) : Prop := x.1 = y.1 ∧ R x.2 y.2

lemma foldl_agree {α β σ τ : Type} {R : σ → τ → Prop} {f : α × σ → β → α × σ} {f' : α × τ → β → α × τ}
    (hf : ∀ x y b, Agree R x y → Agree R (f x b) (f' y b)) (l : List β) :
    ∀ {x : α × σ} {y : α × τ}, Agree R x y → Agree R (l.foldl f x) (l.foldl f' y) := by
  induction l with
  | nil =>
    intro x y h
    exact h
  | cons b l ih =>
    intro x y h
    exact ih (hf x y b h)

namespace OutstandingData

section Discard

variable {σ τ : Type} {R : σ → τ → Prop} {discard : σ → StreamID → OutgoingMessageId → Bool × σ}
  {discard' : τ → StreamID → OutgoingMessageId → Bool × τ}
  (hd : ∀ s s' sid messageId, R s s' → Agree R (discard s sid messageId) (discard' s' sid messageId))
include hd

variable (o : OutstandingData) {s : σ} {s' : τ}

lemma abandonAllFor_agree (i : Item) (h : R s s') :
    Agree R (o.abandonAllFor discard i s) (o.abandonAllFor discard' i s') := by
  obtain ⟨h1, h2⟩ := hd s s' i.data.streamId i.messageId h
  refine ⟨?_, h2⟩
  show List.foldl _ _ _ = List.foldl _ _ _
  rw [h1]

lemma nackItem_agree (tsn : Int) (atOnce doFast : Bool) (o : OutstandingData) (h : R s s') :
    Agree (Agree R) (nackItem discard tsn atOnce doFast o s)
      (nackItem discard' tsn atOnce doFast o s') := by
  unfold nackItem
  cases o.getItem tsn with
  | none => exact ⟨rfl, rfl, h⟩
  | some i =>
    dsimp only
    cases (i.nack atOnce).2 with
    | nothing => exact ⟨rfl, rfl, h⟩
    | retransmit => exact ⟨rfl, rfl, h⟩
    | abandon => exact ⟨rfl, abandonAllFor_agree hd _ _ h⟩

lemma nackMissing_agree (fast : Bool) (x : Bool × OutstandingData × σ)
    (y : Bool × OutstandingData × τ) (tsn : Int) (h : Agree (Agree R) x y) :
    Agree (Agree R) (nackMissing discard fast x tsn) (nackMissing discard' fast y tsn) := by
  obtain ⟨lost, o, s⟩ := x
  obtain ⟨lost', o', s'⟩ := y
  obtain ⟨h1, h2, h3⟩ := h
  subst h1 h2
  obtain ⟨hlost, hrest⟩ := nackItem_agree hd tsn false (!fast) o h3
  exact ⟨congrArg (lost || ·) hlost, hrest⟩

lemma nackBefore_agree (fast : Bool) (cum maxTsn : Int) :
    ∀ (blocks : List GapAckBlock) (prev : Int) (x : Bool × OutstandingData × σ)
      (y : Bool × OutstandingData × τ), Agree (Agree R) x y →
      Agree (Agree R) (nackBefore discard fast cum maxTsn prev blocks x)
        (nackBefore discard' fast cum maxTsn prev blocks y)
  | [], _, _, _, h => h
  | b :: rest, prev, x, y, h => by
    unfold nackBefore
    exact nackBefore_agree fast cum maxTsn rest _ _ _ (foldl_agree (nackMissing_agree hd fast) _ h)

lemma handleSack_agree (cum : Int) (blocks : List GapAckBlock)
    (fast : Bool) (h : R s s') :
    Agree (Agree R) (o.handleSack discard cum blocks fast s)
      (o.handleSack discard' cum blocks fast s') := by
  unfold handleSack nackBetweenAckBlocks
  dsimp only
  generalize (o.removeAcked cum { highestTsnAcked := cum }).1.ackGapBlocks cum blocks
    (o.removeAcked cum { highestTsnAcked := cum }).2 = acked
  obtain ⟨h1, h2, h3⟩ := nackBefore_agree hd fast cum
    (if fast && decide (acked.1.lastCumulativeTsnAck < cum) then
      cum + ((blocks.getLast?.map fun b => b.end_.toNat).getD 0 : Nat)
    else acked.2.highestTsnAcked) blocks cum (acked.2.hasPacketLoss, acked.1, s)
    (acked.2.hasPacketLoss, acked.1, s') ⟨rfl, rfl, h⟩
  exact ⟨congrArg (fun lost => { acked.2 with hasPacketLoss := lost }) h1, h2, h3⟩

lemma expireLoop_agree (now : Timestamp) : ∀ (tsns : List Int) (o : OutstandingData) (s : σ) (s' : τ),
    R s s' → Agree R (expireLoop discard now tsns o s) (expireLoop discard' now tsns o s')
  | [], _, _, _, h => ⟨rfl, h⟩
  | tsn :: rest, o, s, s', h => by
    unfold expireLoop
    cases o.getItem tsn with
    | none => exact ⟨rfl, h⟩
    | some i =>
      dsimp only
      split
      · exact expireLoop_agree now rest o s s' h
      split
      · obtain ⟨h1, h2⟩ := abandonAllFor_agree hd o i h
        unfold expireChunk
        dsimp only
        rw [h1]
        exact expireLoop_agree now rest _ _ _ h2
      · exact ⟨rfl, h⟩

lemma insert_agree (mid : OutgoingMessageId) (d : Data)
    (sent : Timestamp) (maxRtx : MaxRetransmits) (expiry : Option Timestamp)
    (life : LifecycleId) (h : R s s') :
    Agree (Agree R) (o.insert discard mid d sent maxRtx expiry life s)
      (o.insert discard' mid d sent maxRtx expiry life s') := by
  unfold insert
  dsimp only
  split
  · exact ⟨rfl, abandonAllFor_agree hd _ _ h⟩
  · exact ⟨rfl, rfl, h⟩

lemma nackAll_agree (h : R s s') :
    Agree R (o.nackAll discard s) (o.nackAll discard' s') := by
  refine foldl_agree (fun x y tsn hxy => ?_) _ ⟨rfl, h⟩
  obtain ⟨o1, s1⟩ := x
  obtain ⟨o2, s2⟩ := y
  obtain ⟨h1, h2⟩ := hxy
  subst h1
  exact (nackItem_agree hd tsn true false o1 h2).2

end Discard

end OutstandingData

/-- The two send queues give the same answers in related states, and the states stay related. -/
structure SendQueue.Simulates {σ τ : Type} [SendQueue σ] [SendQueue τ] (R : σ → τ → Prop) : Prop where
  produce : ∀ s s' now maxSize, R s s' → Agree R (produce s now maxSize)
    (produce s' now maxSize)
  discard : ∀ s s' sid messageId, R s s' → Agree R (discard s sid messageId)
    (discard s' sid messageId)

namespace RetransmissionQueue

section SendQueue

variable {σ τ : Type} [SendQueue σ] [SendQueue τ] {R : σ → τ → Prop} (hR : Simulates R)
include hR

variable (q : RetransmissionQueue) {s : σ} {s' : τ}

lemma insertChunk_agree (h : R s s') (now : Timestamp) (chunk : DataToSend) :
    Agree (Agree R) (q.insertChunk s now chunk) (q.insertChunk s' now chunk) := by
  obtain ⟨h1, h2, h3⟩ := insert_agree hR.discard q.outstandingData chunk.messageId
    chunk.data now (if q.partialReliability then chunk.maxRetransmissions else MaxRetransmits.noLimit)
    (if q.partialReliability then chunk.expiresAt else none) chunk.lifecycleId h
  unfold insertChunk
  refine ⟨h1, ?_, h3⟩
  dsimp only
  rw [h1, h2]

lemma sendLoop_agree (now : Timestamp) : ∀ (rounds limit : Nat) (q : RetransmissionQueue) (s : σ)
    (s' : τ), R s s' → Agree (Agree R) (sendLoop now rounds limit q s)
      (sendLoop now rounds limit q s')
  | 0, _, _, _, _, h => ⟨rfl, rfl, h⟩
  | rounds + 1, limit, q, s, s', h => by
    unfold sendLoop
    split
    swap
    · exact ⟨rfl, rfl, h⟩
    obtain ⟨h1, h2⟩ := hR.produce s s' now (limit - q.dataChunkHeaderSize) h
    generalize produce s now (limit - q.dataChunkHeaderSize) = p at h1 h2
    generalize produce s' now (limit - q.dataChunkHeaderSize) = p' at h1 h2
    obtain ⟨chunk, s1⟩ := p
    obtain ⟨chunk', s1'⟩ := p'
    dsimp only at h1 h2
    subst h1
    cases chunk with
    | none => exact ⟨rfl, rfl, h2⟩
    | some d =>
      dsimp only
      obtain ⟨h3, h4, h5⟩ := insertChunk_agree hR (q.takeFromRwnd d.data.size) h2 now d
      generalize (q.takeFromRwnd d.data.size).insertChunk s1 now d = p at h3 h4 h5
      generalize (q.takeFromRwnd d.data.size).insertChunk s1' now d = p' at h3 h4 h5
      obtain ⟨tsn, q2, s2⟩ := p
      obtain ⟨tsn', q2', s2'⟩ := p'
      dsimp only at h3 h4 h5
      subst h3 h4
      obtain ⟨h6, h7⟩ := sendLoop_agree now rounds (limit - q.getSerializedChunkSize d.data) q2 s2
        s2' h5
      cases tsn with
      | none => exact ⟨h6, h7⟩
      | some tsn => exact ⟨congrArg (List.cons _) h6, h7⟩

lemma getChunksToSend_agree (h : R s s') (now : Timestamp) (room : Nat) :
    Agree (Agree R) (q.getChunksToSend s now room) (q.getChunksToSend s' now room) := by
  unfold getChunksToSend
  dsimp only
  generalize q.outstandingData.getChunksToBeRetransmitted (q.maxBytes room) = again
  obtain ⟨h1, h2, h3⟩ := sendLoop_agree hR now (q.maxBytes room - q.serializedSize again.1)
    (q.maxBytes room - q.serializedSize again.1)
    { q with outstandingData := again.2 } s s' h
  rw [h1, h2]
  exact ⟨rfl, rfl, h3⟩

lemma handleSack_agree (q : RetransmissionQueue) (h : R s s') (now : Timestamp)
    (sack : SackChunk) : Agree (Agree R) (q.handleSack s now sack) (q.handleSack s' now sack) := by
  unfold handleSack
  split
  swap
  · exact ⟨rfl, rfl, h⟩
  dsimp only
  generalize ({ q with tsnUnwrapper := _ } : RetransmissionQueue).maybeExitFastRecovery _ = q1
  obtain ⟨h1, h2, h3⟩ := OutstandingData.handleSack_agree hR.discard q1.outstandingData
    (q.tsnUnwrapper.unwrap sack.cumulativeTsnAck).1 sack.gapAckBlocks q1.isInFastRecovery h
  rw [h1, h2]
  exact ⟨rfl, rfl, h3⟩

lemma handleT3RtxTimerExpiry_agree (h : R s s') :
    Agree R (q.handleT3RtxTimerExpiry s) (q.handleT3RtxTimerExpiry s') := by
  obtain ⟨h1, h2⟩ := nackAll_agree hR.discard q.outstandingData h
  unfold handleT3RtxTimerExpiry
  refine ⟨?_, h2⟩
  dsimp only
  rw [h1]

lemma shouldSendForwardTsn_agree (h : R s s') (now : Timestamp) :
    Agree (Agree R) (q.shouldSendForwardTsn s now) (q.shouldSendForwardTsn s' now) := by
  unfold shouldSendForwardTsn
  split
  swap
  · exact ⟨rfl, rfl, h⟩
  obtain ⟨h1, h2⟩ := expireLoop_agree hR.discard now q.outstandingData.tsns q.outstandingData s s' h
  unfold expireOutstandingChunks
  dsimp only
  rw [h1]
  exact ⟨rfl, rfl, h2⟩

end SendQueue

end RetransmissionQueue

end WebRtc.Dcsctp
