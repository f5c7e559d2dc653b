import WebRtc.Dcsctp.Tx.RetransmissionQueue
import WebRtc.Dcsctp.Tx.OutgoingStreams
import WebRtc.Lib.Run

/-!
# dcSCTP — the receiver's window at the sender

`rwnd_` is what is left of the receiver's window. A chunk is cut to fit a budget of bytes with its
header, and the window is kept as long as no call has a larger budget than it (`withinWindow_run`).
The budget may be larger: when nothing is in flight the MTU takes the window's place, the window is
rounded up to a multiple of four, and what is retransmitted is not taken from it. The first two let
`rwnd_` wrap, which ends flow control until the next SACK.
-/

namespace WebRtc.Dcsctp

open Lib RetransmissionQueue

lemma le_roundUpTo4 (n : Nat) : n ≤ roundUpTo4 n := by
  unfold roundUpTo4
  omega

lemma roundDownTo4_le (n : Nat) : roundDownTo4 n ≤ n := by
  unfold roundDownTo4
  omega

lemma roundDownTo4_mono {m n : Nat} (h : m ≤ n) : roundDownTo4 m ≤ roundDownTo4 n := by
  unfold roundDownTo4
  omega

def payloadBytes (chunks : List (TSN × Data)) : Nat := (chunks.map fun c => c.2.size).sum

/-! ## Payload put in flight -/

namespace OutstandingData

lemma extractLoop_payload (kind : Retransmission) :
    ∀ (tsns : List Int) (maxSize : Nat) (o : OutstandingData),
      (extractLoop kind tsns maxSize o).2.unackedPayloadBytes =
          o.unackedPayloadBytes + payloadBytes (extractLoop kind tsns maxSize o).1 ∧
        (extractLoop kind tsns maxSize o).2.dataChunkHeaderSize = o.dataChunkHeaderSize ∧
        ((extractLoop kind tsns maxSize o).1.map fun c => o.getSerializedChunkSize c.2).sum ≤ maxSize
  | [], maxSize, o => by simp [extractLoop, payloadBytes]
  | tsn :: rest, maxSize, o => by
    unfold extractLoop
    split
    · simp [setFault, payloadBytes]
    rename_i i hi
    dsimp only
    split
    · rename_i hfits
      have ho1 : ∀ o1, o1 = ((o.setItem tsn i.markAsRetransmitted).enterFlight i.data).eraseChunk
          tsn kind → o1.unackedPayloadBytes = o.unackedPayloadBytes + i.data.size ∧
            o1.dataChunkHeaderSize = o.dataChunkHeaderSize := by
        rintro o1 rfl
        cases kind <;> exact ⟨rfl, rfl⟩
      generalize ((o.setItem tsn i.markAsRetransmitted).enterFlight i.data).eraseChunk tsn kind = o1
        at ho1 ⊢
      obtain ⟨hpayload, hheader⟩ := ho1 o1 rfl
      split
      · simp [payloadBytes, hpayload, hheader, hfits]
      obtain ⟨hrec, hheader2, hsum⟩ :=
        extractLoop_payload kind rest (maxSize - o.getSerializedChunkSize i.data) o1
      simp only [getSerializedChunkSize, hheader] at hsum hfits
      simp only [payloadBytes, List.map_cons, List.sum_cons, getSerializedChunkSize] at hrec ⊢
      exact ⟨by rw [hrec, hpayload]; omega, hheader2.trans hheader, by omega⟩
    · split
      · simp [payloadBytes]
      · exact extractLoop_payload kind rest maxSize o

/-- The two operations neither put payload in flight nor take it out. -/
def SamePayload (o o' : OutstandingData) : Prop :=
  o'.unackedPayloadBytes = o.unackedPayloadBytes ∧ o'.dataChunkHeaderSize = o.dataChunkHeaderSize

lemma samePayload_abandonIfSame (i : Item) (o : OutstandingData) (tsn : Int) :
    SamePayload o (abandonIfSame i o tsn) := by
  unfold abandonIfSame
  split
  · exact ⟨rfl, rfl⟩
  split
  · dsimp only
    split <;> exact ⟨rfl, rfl⟩
  · exact ⟨rfl, rfl⟩

section Discard

variable {σ : Type} (discard : σ → StreamID → OutgoingMessageId → Bool × σ)

lemma samePayload_abandonAllFor (o : OutstandingData) (i : Item) (q : σ) :
    SamePayload o (o.abandonAllFor discard i q).1 := by
  refine run_induction (P := SamePayload o) (fun o' tsn h => ?_) _ ?_
  · have hstep := samePayload_abandonIfSame i o' tsn
    exact ⟨hstep.1.trans h.1, hstep.2.trans h.2⟩
  · split <;> exact ⟨rfl, rfl⟩

lemma insert_payload (o : OutstandingData) (mid : OutgoingMessageId) (d : Data)
    (sent : Timestamp) (maxRtx : MaxRetransmits) (expiry : Option Timestamp)
    (life : LifecycleId) (q : σ) :
    SamePayload (o.enterFlight d) (o.insert discard mid d sent maxRtx expiry life q).2.1 := by
  unfold insert
  dsimp only
  split
  · exact samePayload_abandonAllFor discard _ _ q
  · exact ⟨rfl, rfl⟩

end Discard

end OutstandingData

namespace RetransmissionQueue

lemma takeFromRwnd_of_le {q : RetransmissionQueue} {size : Nat} (h : size ≤ q.rwnd.toNat) :
    (q.takeFromRwnd size).rwnd.toNat + size = q.rwnd.toNat ∧
      (q.takeFromRwnd size).rwndWrapped = q.rwndWrapped := by
  have hlt : size < 2 ^ 64 := lt_of_le_of_lt h q.rwnd.isLt
  have hle : BitVec.ofNat 64 size ≤ q.rwnd := by
    rw [BitVec.le_def, BitVec.toNat_ofNat, Nat.mod_eq_of_lt hlt]
    exact h
  constructor
  · simp only [takeFromRwnd, BitVec.toNat_sub_of_le hle, BitVec.toNat_ofNat, Nat.mod_eq_of_lt hlt]
    omega
  · simp [takeFromRwnd, Nat.not_lt.mpr h]

/-- A call that puts payload in flight: `again` bytes that were sent before and `fresh` bytes
from the send queue, together at most the budget less one header. What is fresh is taken
from the window. -/
structure Sends (q q' : RetransmissionQueue) (budget again fresh : Nat) : Prop where
  header : q'.dataChunkHeaderSize = q.dataChunkHeaderSize
  inFlight : q'.outstandingData.unackedPayloadBytes =
    q.outstandingData.unackedPayloadBytes + again + fresh
  fits : again + fresh = 0 ∨ again + fresh + q.dataChunkHeaderSize ≤ budget
  window : fresh ≤ q.rwnd.toNat →
    q'.rwnd.toNat + fresh = q.rwnd.toNat ∧ q'.rwndWrapped = q.rwndWrapped

variable (q : RetransmissionQueue)

lemma Sends.none (budget : Nat) : Sends q q budget 0 0 :=
  ⟨rfl, rfl, .inl rfl, fun _ => ⟨rfl, rfl⟩⟩

lemma payloadBytes_le (chunks : List (TSN × Data)) :
    payloadBytes chunks = 0 ∨
      payloadBytes chunks + q.dataChunkHeaderSize ≤ q.serializedSize chunks := by
  induction chunks with
  | nil => exact .inl rfl
  | cons c chunks ih =>
    have hser : q.dataChunkHeaderSize + c.2.size ≤ q.getSerializedChunkSize c.2 := le_roundUpTo4 _
    simp only [payloadBytes, serializedSize, List.map_cons, List.sum_cons] at ih ⊢
    omega

lemma sends_extract (kind : OutstandingData.Retransmission) (budget : Nat) :
    Sends q { q with outstandingData := (q.outstandingData.extractChunksThatCanFit kind budget).2 }
        (q.serializedSize (q.outstandingData.extractChunksThatCanFit kind budget).1)
        (payloadBytes (q.outstandingData.extractChunksThatCanFit kind budget).1) 0 ∧
      q.serializedSize (q.outstandingData.extractChunksThatCanFit kind budget).1 ≤ budget := by
  obtain ⟨hpayload, hheader, hsum⟩ := OutstandingData.extractLoop_payload kind
    (q.outstandingData.chunks kind).keys budget q.outstandingData
  exact ⟨⟨hheader, hpayload, payloadBytes_le q _, fun _ => ⟨rfl, rfl⟩⟩, hsum⟩

section SendQueue

variable {σ : Type} [SendQueue σ]

lemma sends_insertChunk (s : σ) (now : Timestamp) (chunk : DataToSend)
    {budget : Nat} (hsize : chunk.data.size + q.dataChunkHeaderSize ≤ budget) :
    Sends q ((q.takeFromRwnd chunk.data.size).insertChunk s now chunk).2.1 budget 0
      chunk.data.size := by
  obtain ⟨hpayload, hheader⟩ := OutstandingData.insert_payload SendQueue.discard q.outstandingData
    chunk.messageId chunk.data now
    (if q.partialReliability then chunk.maxRetransmissions else MaxRetransmits.noLimit)
    (if q.partialReliability then chunk.expiresAt else none) chunk.lifecycleId s
  exact ⟨hheader, hpayload, .inr (by omega), takeFromRwnd_of_le⟩

variable [LawfulSendQueue σ]

lemma sends_sendLoop (now : Timestamp) : ∀ (rounds limit : Nat) (q : RetransmissionQueue) (s : σ),
    ∃ fresh, Sends q (sendLoop now rounds limit q s).2.1 limit 0 fresh
  | 0, limit, q, s => ⟨0, Sends.none q limit⟩
  | rounds + 1, limit, q, s => by
    unfold sendLoop
    split
    swap
    · exact ⟨0, Sends.none q limit⟩
    have hlaw := LawfulSendQueue.size_produce s now (limit - q.dataChunkHeaderSize)
    generalize SendQueue.produce s now (limit - q.dataChunkHeaderSize) = r at hlaw ⊢
    obtain ⟨_ | chunk, s1⟩ := r
    · exact ⟨0, Sends.none q limit⟩
    dsimp only
    have hsize : chunk.data.size ≤ limit - q.dataChunkHeaderSize := hlaw chunk rfl
    have hone : Sends q ((q.takeFromRwnd chunk.data.size).insertChunk s1 now chunk).2.1 limit 0
      chunk.data.size := sends_insertChunk q s1 now chunk (by omega)
    generalize (q.takeFromRwnd chunk.data.size).insertChunk s1 now chunk = r1 at hone ⊢
    obtain ⟨tsn, q1, s2⟩ := r1
    dsimp only at hone ⊢
    obtain ⟨fresh, hrest⟩ :=
      sends_sendLoop now rounds (limit - q.getSerializedChunkSize chunk.data) q1 s2
    generalize sendLoop now rounds (limit - q.getSerializedChunkSize chunk.data) q1 s2 = r2
      at hrest ⊢
    have hser : q.dataChunkHeaderSize + chunk.data.size ≤ q.getSerializedChunkSize chunk.data :=
      le_roundUpTo4 _
    refine ⟨chunk.data.size + fresh, ?_⟩
    have hsnd : Sends q r2.2.1 limit 0 (chunk.data.size + fresh) := by
      refine ⟨hrest.header.trans hone.header, ?_, ?_, fun hle => ?_⟩
      · rw [hrest.inFlight, hone.inFlight]
        omega
      · have hfits := hrest.fits
        omega
      obtain ⟨hw1, hf1⟩ := hone.window (by omega)
      obtain ⟨hw2, hf2⟩ := hrest.window (by omega)
      exact ⟨by omega, hf2.trans hf1⟩
    cases tsn <;> exact hsnd

lemma sends_getChunksToSend (s : σ) (now : Timestamp) (room : Nat) :
    ∃ again fresh, Sends q (q.getChunksToSend s now room).2.1 (q.maxBytes room) again fresh := by
  unfold getChunksToSend
  generalize q.maxBytes room = budget
  dsimp only
  have hag := sends_extract q .normal budget
  unfold OutstandingData.getChunksToBeRetransmitted
  generalize q.outstandingData.extractChunksThatCanFit .normal budget = r at hag ⊢
  obtain ⟨retransmitted, o1⟩ := r
  dsimp only at hag ⊢
  obtain ⟨hfirst, hsum⟩ := hag
  obtain ⟨fresh, hrest⟩ := sends_sendLoop now (budget - q.serializedSize retransmitted)
    (budget - q.serializedSize retransmitted) { q with outstandingData := o1 } s
  generalize sendLoop now (budget - q.serializedSize retransmitted)
    (budget - q.serializedSize retransmitted) { q with outstandingData := o1 } s = r2 at hrest ⊢
  have hsnd : Sends q r2.2.1 budget (payloadBytes retransmitted) fresh := by
    refine ⟨hrest.header.trans hfirst.header, ?_, ?_, hrest.window⟩
    · rw [hrest.inFlight]
      exact congrArg (fun n => n + 0 + fresh) hfirst.inFlight
    have hfits := hrest.fits
    have hheader : { q with outstandingData := o1 }.dataChunkHeaderSize = q.dataChunkHeaderSize :=
      hfirst.header
    have := hfirst.fits
    omega
  refine ⟨payloadBytes retransmitted, fresh, ?_⟩
  split
  · exact hsnd
  · exact ⟨hsnd.header, hsnd.inFlight, hsnd.fits, hsnd.window⟩

lemma header_getChunksToSend (s : σ) (now : Timestamp) (room : Nat) :
    (q.getChunksToSend s now room).2.1.dataChunkHeaderSize =
      q.dataChunkHeaderSize := by
  obtain ⟨again, fresh, hsnd⟩ := sends_getChunksToSend q s now room
  exact hsnd.header

end SendQueue

lemma sends_getChunksForFastRetransmit (used : Nat) :
    ∃ again, Sends q (q.getChunksForFastRetransmit used).2 used again 0 := by
  obtain ⟨hsnd, hsum⟩ := sends_extract q .fast used
  refine ⟨_, hsnd.header, hsnd.inFlight, ?_, hsnd.window⟩
  have := hsnd.fits
  omega

lemma handleSack_keeps {σ : Type} [SendQueue σ] (s : σ) (now : Timestamp) (sack : SackChunk) :
    (q.handleSack s now sack).2.1.rwndWrapped = q.rwndWrapped ∧
      ((q.handleSack s now sack).1.handled = false → (q.handleSack s now sack).2.1 = q) := by
  have hexit : ∀ (q : RetransmissionQueue) (cum : Int),
      (q.maybeExitFastRecovery cum).rwndWrapped = q.rwndWrapped := by
    intro q cum
    unfold maybeExitFastRecovery
    split
    · rfl
    · split <;> rfl
  have hgrow : ∀ (q : RetransmissionQueue) (unacked acked : Nat),
      (q.handleIncreasedCumulativeTsnAck unacked acked).rwndWrapped = q.rwndWrapped := by
    intro q unacked acked
    unfold handleIncreasedCumulativeTsnAck
    dsimp only
    split <;> split <;> rfl
  have hloss : ∀ q : RetransmissionQueue, q.handlePacketLoss.rwndWrapped = q.rwndWrapped := by
    intro q
    unfold handlePacketLoss
    split <;> rfl
  have hstart : ∀ q : RetransmissionQueue,
      q.startT3RtxTimerIfOutstandingData.rwndWrapped = q.rwndWrapped := by
    intro q
    unfold startT3RtxTimerIfOutstandingData
    split <;> rfl
  unfold handleSack
  split
  · refine ⟨?_, fun h => absurd h (by simp)⟩
    rw [hstart]
    split <;> split <;> simp only [hloss, hgrow, updateReceiverWindow, hexit]
  · exact ⟨rfl, fun _ => rfl⟩

end RetransmissionQueue

/-! ## Runs -/

/-- A retransmission queue at work: `window` is what the last SACK left of the receiver's
window (at first, the window of the handshake), `putInFlight` the payload put in flight since. -/
structure Flow (σ : Type) where
  queue : RetransmissionQueue
  sendQueue : σ
  window : Nat
  putInFlight : Nat := 0

namespace Flow

/-- What can happen to it. The send queue may be used in any way in between. -/
inductive Event (σ : Type) where
  | useSendQueue (f : σ → σ)
  | handleSack (now : Timestamp) (sack : SackChunk)
  | handleT3RtxTimerExpiry
  | getChunksForFastRetransmit (bytesInPacket : Nat)
  | getChunksToSend (now : Timestamp) (bytesRemainingInPacket : Nat)
  | shouldSendForwardTsn (now : Timestamp)
  | beginResetStreams

variable {σ : Type}

def sending (s : Flow σ) (queue : RetransmissionQueue) (sendQueue : σ) : Flow σ where
  queue
  sendQueue
  window := s.window
  putInFlight := s.putInFlight +
    (queue.outstandingData.unackedPayloadBytes - s.queue.outstandingData.unackedPayloadBytes)

def room (s : Flow σ) : Nat := s.window - s.putInFlight + s.queue.dataChunkHeaderSize

/-- Something else than the rule for the receiver's window keeps a call within that window, or
the rule does: it is not suspended because nothing is in flight, and the window needs no
rounding. -/
def Ok (s : Flow σ) : Event σ → Prop
  | .getChunksForFastRetransmit bytesInPacket => bytesInPacket ≤ s.room
  | .getChunksToSend _ bytesRemainingInPacket =>
    roundDownTo4 bytesRemainingInPacket ≤ s.room ∨
      roundDownTo4 (s.queue.cwnd - s.queue.unackedPacketBytes) ≤ s.room ∨
      (s.queue.unackedItems = 0 ∧ roundDownTo4 s.queue.options.mtu ≤ s.room) ∨
      (s.queue.unackedItems ≠ 0 ∧
        roundUpTo4 (s.queue.rwnd.toNat + s.queue.dataChunkHeaderSize) ≤ s.room)
  | _ => True

instance (s : Flow σ) (e : Event σ) : Decidable (s.Ok e) := by
  cases e <;> unfold Ok <;> infer_instance

/-- No more was put in flight than the window allowed, and `rwnd_` has not wrapped. -/
structure WithinWindow (s : Flow σ) : Prop where
  unwrapped : s.queue.rwndWrapped = false
  within : s.putInFlight ≤ s.window
  rest : s.window ≤ s.putInFlight + s.queue.rwnd.toNat

variable {s : Flow σ}

lemma maxBytes_le_room {now : Timestamp} {bytes : Nat}
    (h : s.Ok (.getChunksToSend now bytes)) : s.queue.maxBytes bytes ≤ s.room := by
  unfold maxBytes
  rcases h with h | h | ⟨hitm, h⟩ | ⟨hitm, h⟩
  · exact (roundDownTo4_mono (min_le_right _ _)).trans h
  · exact (roundDownTo4_mono ((min_le_left _ _).trans (min_le_left _ _))).trans h
  · rw [if_pos hitm]
    exact (roundDownTo4_mono ((min_le_left _ _).trans (min_le_right _ _))).trans h
  rw [if_neg hitm]
  refine (roundDownTo4_mono ((min_le_left _ _).trans (min_le_right _ _))).trans ?_
  exact (roundDownTo4_le _).trans ((Nat.mod_le _ _).trans h)

lemma WithinWindow.sending (h : WithinWindow s) {queue : RetransmissionQueue}
    {sendQueue : σ} {budget again fresh : Nat} (hbudget : budget ≤ s.room)
    (hsnd : s.queue.Sends queue budget again fresh) : WithinWindow (s.sending queue sendQueue) := by
  have hadded : again + fresh ≤ s.window - s.putInFlight := by
    have := hsnd.fits
    unfold room at hbudget
    omega
  have hwi := h.within
  have hrest := h.rest
  obtain ⟨hwin, hwrapped⟩ := hsnd.window (by omega)
  have hinFlight := hsnd.inFlight
  refine ⟨hwrapped.trans h.unwrapped, ?_, ?_⟩ <;> simp only [Flow.sending] <;> omega

section SendQueue

variable [SendQueue σ]

def step (s : Flow σ) : Event σ → Flow σ
  | .useSendQueue f => { s with sendQueue := f s.sendQueue }
  | .handleSack now sack =>
    match s.queue.handleSack s.sendQueue now sack with
    | (outcome, queue, sendQueue) =>
      if outcome.handled then ⟨queue, sendQueue, queue.rwnd.toNat, 0⟩ else { s with queue, sendQueue }
  | .handleT3RtxTimerExpiry =>
    match s.queue.handleT3RtxTimerExpiry s.sendQueue with
    | (queue, sendQueue) => { s with queue, sendQueue }
  | .getChunksForFastRetransmit bytesInPacket =>
    s.sending (s.queue.getChunksForFastRetransmit bytesInPacket).2 s.sendQueue
  | .getChunksToSend now bytesRemainingInPacket =>
    match s.queue.getChunksToSend s.sendQueue now bytesRemainingInPacket with
    | (_, queue, sendQueue) => s.sending queue sendQueue
  | .shouldSendForwardTsn now =>
    match s.queue.shouldSendForwardTsn s.sendQueue now with
    | (_, queue, sendQueue) => { s with queue, sendQueue }
  | .beginResetStreams =>
    match s.queue.beginResetStreams s.sendQueue with
    | (_, queue, sendQueue) => { s with queue, sendQueue }

lemma step_handleSack (h : WithinWindow s) (now : Timestamp) (sack : SackChunk) :
    WithinWindow (s.step (.handleSack now sack)) := by
  obtain ⟨hwrapped, hdrop⟩ := handleSack_keeps s.queue s.sendQueue now sack
  simp only [step]
  split
  · exact ⟨hwrapped.trans h.unwrapped, Nat.zero_le _, by simp⟩
  rename_i hnot
  rw [hdrop (by simpa using hnot)]
  exact ⟨h.unwrapped, h.within, h.rest⟩

variable [LawfulSendQueue σ]

lemma withinWindow_step {e : Event σ} (h : WithinWindow s) (hok : s.Ok e) :
    WithinWindow (s.step e) := by
  cases e with
  | useSendQueue f | handleT3RtxTimerExpiry | beginResetStreams =>
    exact ⟨h.unwrapped, h.within, h.rest⟩
  | handleSack now sack => exact step_handleSack h now sack
  | getChunksForFastRetransmit bytesInPacket =>
    obtain ⟨again, hsnd⟩ := s.queue.sends_getChunksForFastRetransmit bytesInPacket
    exact h.sending hok hsnd
  | getChunksToSend now bytesRemainingInPacket =>
    obtain ⟨again, fresh, hsnd⟩ :=
      s.queue.sends_getChunksToSend s.sendQueue now bytesRemainingInPacket
    exact h.sending (maxBytes_le_room hok) hsnd
  | shouldSendForwardTsn now =>
    simp only [step, shouldSendForwardTsn]
    split <;> exact ⟨h.unwrapped, h.within, h.rest⟩

lemma withinWindow_run (h : WithinWindow s) {events : List (Event σ)}
    (hok : Along step Ok s events) : WithinWindow (run step s events) :=
  run_induction_along (fun _ _ h hok => withinWindow_step h hok) events s h hok

end SendQueue

def init (myInitialTsn : TSN) (aRwnd : BitVec 32) (options : DcSctpOptions)
    (partialReliability useMessageInterleaving : Bool) (sendQueue : σ) : Flow σ where
  queue := .new myInitialTsn aRwnd options partialReliability useMessageInterleaving
  sendQueue
  window := aRwnd.toNat

lemma withinWindow_init (myTsn : TSN) (aRwnd : BitVec 32) (options : DcSctpOptions)
    (partialRel inter : Bool) (sendQueue : σ) :
    WithinWindow (init myTsn aRwnd options partialRel inter sendQueue) := by
  refine ⟨rfl, Nat.zero_le _, ?_⟩
  simp only [init, new, BitVec.toNat_setWidth]
  omega

/-- In every run in which each call that sends keeps to the window by one of the ways of `Ok`,
`rwnd_` never wraps and what is put in flight after a SACK is within the window it left. -/
theorem sending_within_window (myInitialTsn : TSN) (aRwnd : BitVec 32) (options : DcSctpOptions)
    (partialReliability useMessageInterleaving : Bool) (sendQueue : RRSendQueue)
    (events : List (Event RRSendQueue))
    (hok : Along step Ok
      (init myInitialTsn aRwnd options partialReliability useMessageInterleaving sendQueue) events) :
    let s := run step
      (init myInitialTsn aRwnd options partialReliability useMessageInterleaving sendQueue) events
    s.queue.rwndWrapped = false ∧ s.putInFlight ≤ s.window ∧
      s.window ≤ s.putInFlight + s.queue.rwnd.toNat := by
  have h := withinWindow_run
    (withinWindow_init myInitialTsn aRwnd options partialReliability useMessageInterleaving sendQueue)
    hok
  exact ⟨h.unwrapped, h.within, h.rest⟩

/-- A message on stream 1 is sent in packets of 100 bytes. The SACK for the first advertises the
given window. -/
def sackThenSend (aRwnd : BitVec 32) : List (Event RRSendQueue) :=
  [.useSendQueue fun q => q.add 0 ⟨1, 51, List.replicate 300 0⟩ {},
   .getChunksToSend 0 100,
   .handleSack 0 ⟨1, aRwnd, [], .empty⟩,
   .getChunksToSend 0 100,
   .getChunksToSend 0 100]

theorem sending_within_window_of_200 :
    Along step Ok (init 1 1000 {} true false (RRSendQueue.new 1191 256 0)) (sackThenSend 200) ∧
    (run step (init 1 1000 {} true false (RRSendQueue.new 1191 256 0))
      (sackThenSend 200)).queue.rwndWrapped = false := by
  have hok : Along step Ok (init 1 1000 {} true false (RRSendQueue.new 1191 256 0))
      (sackThenSend 200) := by decide +kernel
  exact ⟨hok, (sending_within_window 1 1000 {} true false _ _ hok).1⟩

/-- A SACK closes the window while nothing is in flight. The next packet is sent regardless and
makes `rwnd_` wrap, and so is the one after it, with the first still in flight. -/
theorem rwnd_wraps_of_closed_window :
    let s := run step (init 1 1000 {} true false (RRSendQueue.new 1191 256 0)) (sackThenSend 0)
    s.queue.rwndWrapped = true ∧ s.queue.rwnd.toNat = 2 ^ 64 - 168 ∧ s.window = 0 ∧
      s.putInFlight = 168 ∧ s.queue.unackedItems = 2 := by decide +kernel

end Flow

end WebRtc.Dcsctp
