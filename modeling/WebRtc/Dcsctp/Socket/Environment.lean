import WebRtc.Dcsctp.Packet.SctpPacket

/-!
# dcSCTP — what surrounds a socket

`Outside` is the log of a socket's effects together with the answers it gets: the random numbers,
and whether a packet could be sent. Times are inputs of the calls. Of a timer (`timer/timer.{h,cc}`)
only whether it runs and how often it has expired matters; when it expires is left to the run.
-/

namespace WebRtc.Dcsctp

inductive ErrorKind where
  | noError
  | tooManyRetries
  | notConnected
  | parseFailed
  | wrongSequence
  | peerReported
  | protocolViolation
  | resourceExhaustion
  | unsupportedOperation
deriving DecidableEq

/-- `DcSctpSocketCallbacks`, as far as they carry something to the client. Those of the send
queue are `SendCallback`. -/
inductive SocketCallback where
  | onError (error : ErrorKind) (message : String)
  | onAborted (error : ErrorKind) (message : String)
  | onConnected
  | onClosed
  | onConnectionRestarted
  | onStreamsResetFailed (outgoingStreams : List StreamID) (reason : String)
  | onStreamsResetPerformed (outgoingStreams : List StreamID)
  | onIncomingStreamsReset (incomingStreams : List StreamID)
  | onMessageReceived (message : DcSctpMessage)
  | onMessageReady
  | onLifecycleEnd (lifecycleId : LifecycleId)
deriving DecidableEq

/-! ## Timers -/

structure Timer where
  maxRestarts : Option Nat
  isRunning : Bool := false
  expirationCount : Nat := 0
deriving DecidableEq

namespace Timer

def start (t : Timer) : Timer := { t with isRunning := true, expirationCount := 0 }

def stop (t : Timer) : Timer :=
  if t.isRunning then { t with isRunning := false, expirationCount := 0 } else t

/-- `Timer::Trigger` up to the call of `on_expired_`: the timer keeps running unless it has
expired too often. -/
def trigger (t : Timer) : Timer :=
  { t with
    expirationCount := t.expirationCount + 1
    isRunning := match t.maxRestarts with
      | none => true
      | some limit => decide (t.expirationCount + 1 ≤ limit) }

@[simp] lemma isRunning_start (t : Timer) : t.start.isRunning = true := rfl

@[simp] lemma isRunning_stop (t : Timer) : t.stop.isRunning = false := by
  unfold stop
  split
  · rfl
  · simpa using ‹¬ t.isRunning = true›

end Timer

/-! ## Effects -/

/-- The effects of a socket, in order, and what the client and the network answer. -/
structure Outside where
  random : Nat → Nat := fun _ => 0
  randomUsed : Nat := 0
  canSend : Nat → Bool := fun _ => true
  sent : List SctpPacket := []
  callbacks : List SocketCallback := []

namespace Outside

def callback (o : Outside) (c : SocketCallback) : Outside := { o with callbacks := o.callbacks ++ [c] }

def onError (o : Outside) (error : ErrorKind) (message : String) : Outside :=
  o.callback (.onError error message)

def getRandomInt (o : Outside) (low high : Nat) : Nat × Outside :=
  (low + o.random o.randomUsed % (high - low), { o with randomUsed := o.randomUsed + 1 })

/-- `PacketSender::Send`. A builder without chunks sends nothing. `sent` also records a packet
that the network refused. -/
def send (o : Outside) (b : PacketBuilder) (writeChecksum : Bool := true) : Bool × Outside :=
  match b.chunks with
  | [] => (false, o)
  | c :: cs =>
    (o.canSend o.sent.length,
      { o with sent := o.sent ++ [⟨b.verificationTag, c :: cs, by simp, writeChecksum⟩] })

end Outside

end WebRtc.Dcsctp
