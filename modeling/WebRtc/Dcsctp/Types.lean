import WebRtc.Lib.OrdMap
import WebRtc.Numerics.SeqNum

/-!
# dcSCTP — shared types

The strong aliases of `common/internal_types.h` and `public/types.h`, and the
`Data` record of `packet/data.h`. Numbers on which the code does modular
arithmetic keep their width. Identifiers that are only compared (streams,
PPIDs, tags, lifecycle ids) are natural numbers.
-/

namespace WebRtc.Dcsctp

open Lib Numerics

/-- Transmission Sequence Number. -/
abbrev TSN := BitVec 32

/-- Stream Sequence Number. -/
abbrev SSN := BitVec 16

/-- Message Identifier. -/
abbrev MID := BitVec 32

/-- Fragment Sequence Number. -/
abbrev FSN := BitVec 32

/-- Reconfiguration Request Sequence Number. -/
abbrev ReconfigRequestSN := BitVec 32

/-- Correlates outgoing chunks with the message they were carved from. -/
abbrev OutgoingMessageId := BitVec 32

abbrev StreamID := Nat

/-- Payload Protocol Identifier. -/
abbrev PPID := Nat

abbrev VerificationTag := Nat

abbrev TieTag := Nat

/-- `LifecycleId`; the source's unset value is `0`. -/
abbrev LifecycleId := Nat

/-- A set with the iteration order of `std::set`. -/
abbrev OrdSet (κ : Type) [LinearOrder κ] := OrdMap κ Unit

structure Data where
  streamId : StreamID
  ssn : SSN
  mid : MID
  fsn : FSN
  ppid : PPID
  payload : List UInt8
  isBeginning : Bool
  isEnd : Bool
  isUnordered : Bool
deriving DecidableEq

def Data.size (d : Data) : Nat := d.payload.length

structure DcSctpMessage where
  streamId : StreamID
  ppid : PPID
  payload : List UInt8
deriving DecidableEq

def roundUpTo4 (n : Nat) : Nat := (n + 3) / 4 * 4

def roundDownTo4 (n : Nat) : Nat := n / 4 * 4

/-- `DcSctpOptions`, with the source's defaults; durations are in milliseconds. Ports,
checksum verification and the durations that only arm timers are left out. -/
structure DcSctpOptions where
  mtu : Nat := 1191
  maxMessageSize : Nat := 256 * 1024
  defaultStreamPriority : Nat := 256
  maxReceiverWindowBufferSize : Nat := 5 * 1024 * 1024
  enableReceivePullMode : Bool := false
  maxSendBufferSize : Nat := 2000000
  perStreamSendQueueLimit : Nat := 2000000
  totalBufferedAmountLowThreshold : Nat := 1800000
  rttMax : Int := 60000
  rtoInitial : Int := 500
  heartbeatInterval : Int := 30000
  cwndMtusInitial : Nat := 10
  cwndMtusMin : Nat := 4
  immediateSackUnderCwndMtus : Nat := 10
  maxBurst : Nat := 4
  maxRetransmissions : Option Nat := some 10
  maxInitRetransmits : Option Nat := some 8
  enablePartialReliability : Bool := true
  enableMessageInterleaving : Bool := false
  announcedMaximumIncomingStreams : Nat := 65535
  announcedMaximumOutgoingStreams : Nat := 65535
  zeroChecksumMethod : Option Nat := none
deriving DecidableEq

end WebRtc.Dcsctp
