import WebRtc.Dcsctp.Types

/-!
# dcSCTP — the send queue's interface

`tx/send_queue.h`. The retransmission queue only knows a send queue through this
interface; `SendQueue σ` says that the states `σ` implement it.
-/

namespace WebRtc.Dcsctp

/-- Wall-clock time in microseconds. An infinite time is a missing one. -/
abbrev Timestamp := Int

abbrev MaxRetransmits := BitVec 16

def MaxRetransmits.noLimit : MaxRetransmits := BitVec.allOnes 16

def isReached (at_ : Option Timestamp) (now : Timestamp) : Bool :=
  match at_ with
  | none => false
  | some t => decide (t ≤ now)

structure SendOptions where
  unordered : Bool := false
  lifetime : Option Int := none
  maxRetransmissions : Option Nat := none
  lifecycleId : LifecycleId := 0
deriving DecidableEq

structure DataToSend where
  messageId : OutgoingMessageId
  data : Data
  maxRetransmissions : MaxRetransmits := MaxRetransmits.noLimit
  expiresAt : Option Timestamp := none
  lifecycleId : LifecycleId := 0
deriving DecidableEq

inductive SendCallback where
  | onBufferedAmountLow (streamId : StreamID)
  | onTotalBufferedAmountLow
  | onLifecycleMessageFullySent (lifecycleId : LifecycleId)
  | onLifecycleMessageExpired (lifecycleId : LifecycleId) (maybeDelivered : Bool)
  | onLifecycleMessageDelivered (lifecycleId : LifecycleId)
  | onLifecycleEnd (lifecycleId : LifecycleId)
deriving DecidableEq

/-- `SendQueue`: what the retransmission queue asks of a send queue. -/
class SendQueue (σ : Type) where
  produce : σ → Timestamp → Nat → Option DataToSend × σ
  discard : σ → StreamID → OutgoingMessageId → Bool × σ
  prepareResetStream : σ → StreamID → σ
  hasStreamsReadyToBeReset : σ → Bool
  getStreamsReadyToBeReset : σ → List StreamID × σ
  commitResetStreams : σ → σ
  rollbackResetStreams : σ → σ

/-- What the interface promises: a chunk is no larger than asked for. -/
class LawfulSendQueue (σ : Type) [SendQueue σ] : Prop where
  size_produce : ∀ (s : σ) (now : Timestamp) (maxSize : Nat),
    ∀ d ∈ (SendQueue.produce s now maxSize).1, d.data.size ≤ maxSize

end WebRtc.Dcsctp
