import WebRtc.Dcsctp.Packet.Chunks
import WebRtc.Dcsctp.Tx.SendQueue

/-!
# dcSCTP — chunks and packets

The chunks that a socket sends and handles, as the data their `Parse` functions
produce, and `SctpPacket` with its builder. A chunk that `Parse` refuses is kept as
`malformed` with the two things the socket still reads of it, its type and its T bit.
-/

namespace WebRtc.Dcsctp

/-! ## Chunk types -/

inductive ChunkType where
  | data
  | init
  | initAck
  | sack
  | heartbeatRequest
  | heartbeatAck
  | abort
  | shutdown
  | shutdownAck
  | error
  | cookieEcho
  | cookieAck
  | shutdownComplete
  | iData
  | reConfig
  | forwardTsn
  | iForwardTsn
deriving DecidableEq

def ChunkType.code : ChunkType → Nat
  | .data => 0
  | .init => 1
  | .initAck => 2
  | .sack => 3
  | .heartbeatRequest => 4
  | .heartbeatAck => 5
  | .abort => 6
  | .shutdown => 7
  | .shutdownAck => 8
  | .error => 9
  | .cookieEcho => 10
  | .cookieAck => 11
  | .shutdownComplete => 14
  | .iData => 64
  | .reConfig => 130
  | .forwardTsn => 192
  | .iForwardTsn => 194

/-- A type byte without a handler. -/
abbrev UnknownType := { t : BitVec 8 // ∀ k : ChunkType, k.code ≠ t.toNat }

/-! ## Error causes -/

/-- The error causes this implementation sends; any other is known by its text. -/
inductive ErrorCause where
  | unrecognizedChunkType (type : BitVec 8)
  | noUserData (tsn : TSN)
  | outOfResource
  | cookieReceivedWhileShuttingDown
  | userInitiatedAbort (reason : String)
  | protocolViolation (additionalInformation : String)
  | other (text : String)
deriving DecidableEq

def ErrorCause.toString : ErrorCause → String
  | .unrecognizedChunkType type => "Unrecognized Chunk Type, chunk_type=" ++ type.toNat.repr
  | .noUserData tsn => "No User Data, tsn=" ++ tsn.toNat.repr
  | .outOfResource => "Out Of Resource"
  | .cookieReceivedWhileShuttingDown => "Cookie Received While Shutting Down"
  | .userInitiatedAbort reason => "User-Initiated Abort, reason=" ++ reason
  | .protocolViolation information => "Protocol Violation, additional_information=" ++ information
  | .other text => text

/-- The serialized size. The chunk that was not recognized, and what another cause carries, are not
kept. -/
def ErrorCause.size : ErrorCause → Nat
  | .noUserData _ => 8
  | .userInitiatedAbort text | .protocolViolation text => 4 + text.utf8ByteSize
  | .unrecognizedChunkType _ | .outOfResource | .cookieReceivedWhileShuttingDown | .other _ => 4

def errorCausesToString (causes : List ErrorCause) : String :=
  String.intercalate "\n" (causes.map ErrorCause.toString)

/-! ## Setting up an association -/

structure Capabilities where
  partialReliability : Bool := false
  messageInterleaving : Bool := false
  reconfig : Bool := false
  zeroChecksum : Bool := false
  negotiatedMaximumIncomingStreams : Nat := 0
  negotiatedMaximumOutgoingStreams : Nat := 0
deriving DecidableEq

structure StateCookie where
  peerTag : VerificationTag
  myTag : VerificationTag
  peerInitialTsn : TSN
  myInitialTsn : TSN
  aRwnd : BitVec 32
  tieTag : TieTag
  capabilities : Capabilities
deriving DecidableEq

def kCookieSize : Nat := 44

/-- The bytes of a cookie: how many there are, and what `StateCookie::Deserialize` makes of
them, which accepts one size only. -/
structure Cookie where
  size : Nat
  deserialized : Option StateCookie
  size_eq : deserialized.isSome → size = kCookieSize
deriving DecidableEq

def StateCookie.serialize (cookie : StateCookie) : Cookie := ⟨kCookieSize, some cookie, fun _ => rfl⟩

structure InitParameters where
  forwardTsnSupported : Bool := false
  supportedExtensions : Option (List ChunkType) := none
  zeroChecksumAcceptable : Option Nat := none
  stateCookie : Option Cookie := none
deriving DecidableEq

def InitParameters.size (p : InitParameters) : Nat :=
  (if p.forwardTsnSupported then 4 else 0) +
    (p.supportedExtensions.elim 0 fun types => roundUpTo4 (4 + types.length)) +
    (if p.zeroChecksumAcceptable.isSome then 8 else 0) +
    p.stateCookie.elim 0 fun cookie => roundUpTo4 (4 + cookie.size)

structure InitChunk where
  initiateTag : VerificationTag
  aRwnd : BitVec 32
  nbrOutboundStreams : Nat
  nbrInboundStreams : Nat
  initialTsn : TSN
  parameters : InitParameters
deriving DecidableEq

/-! ## Re-configuration -/

inductive ResponseResult where
  | successNothingToDo
  | successPerformed
  | denied
  | errorWrongSSN
  | errorRequestAlreadyInProgress
  | errorBadSequenceNumber
  | inProgress
deriving DecidableEq

def ResponseResult.toString : ResponseResult → String
  | .successNothingToDo => "Success: nothing to do"
  | .successPerformed => "Success: performed"
  | .denied => "Denied"
  | .errorWrongSSN => "Error: wrong ssn"
  | .errorRequestAlreadyInProgress => "Error: request already in progress"
  | .errorBadSequenceNumber => "Error: bad sequence number"
  | .inProgress => "In progress"

structure OutgoingSSNResetRequest where
  requestSequenceNumber : ReconfigRequestSN
  responseSequenceNumber : ReconfigRequestSN
  senderLastAssignedTsn : TSN
  streamIds : List StreamID
deriving DecidableEq

structure ReconfigurationResponse where
  responseSequenceNumber : ReconfigRequestSN
  result : ResponseResult
deriving DecidableEq

inductive ReConfigParameterType where
  | outgoingSSNResetRequest
  | incomingSSNResetRequest
  | ssnTsnResetRequest
  | addOutgoingStreamsRequest
  | addIncomingStreamsRequest
  | reconfigurationResponse
  | other
deriving DecidableEq

/-- A parameter of a RE-CONFIG chunk. `unparsed` stands for one of a type that is never
parsed, and for one that its `Parse` function refuses. -/
inductive ReConfigParameter where
  | outgoingSSNResetRequest (req : OutgoingSSNResetRequest)
  | incomingSSNResetRequest (requestSequenceNumber : ReconfigRequestSN)
  | reconfigurationResponse (resp : ReconfigurationResponse)
  | unparsed (type : ReConfigParameterType)
deriving DecidableEq

def ReConfigParameter.type : ReConfigParameter → ReConfigParameterType
  | .outgoingSSNResetRequest _ => .outgoingSSNResetRequest
  | .incomingSSNResetRequest _ => .incomingSSNResetRequest
  | .reconfigurationResponse _ => .reconfigurationResponse
  | .unparsed type => type

def ReConfigParameter.size : ReConfigParameter → Nat
  | .outgoingSSNResetRequest req => 16 + 2 * req.streamIds.length
  | .incomingSSNResetRequest _ => 8
  | .reconfigurationResponse _ => 12
  | .unparsed _ => 4

/-! ## Chunks -/

/-- What `HeartbeatAckChunk::info` and `HeartbeatInfo::Deserialize` make of the parameters of
a HEARTBEAT or HEARTBEAT-ACK. -/
inductive HeartbeatInfo where
  | missing
  | undecodable
  | createdAt (time : Timestamp)
deriving DecidableEq

/-- The size of the parameter: a header and the 64-bit time. Another content is not kept. -/
def HeartbeatInfo.size : HeartbeatInfo → Nat
  | .missing => 0
  | .undecodable => 4
  | .createdAt _ => 12

inductive Chunk where
  | data (tsn : TSN) (data : Data) (immediateAck : Bool)
  | iData (tsn : TSN) (data : Data) (immediateAck : Bool)
  | init (chunk : InitChunk)
  | initAck (chunk : InitChunk)
  | sack (chunk : SackChunk)
  | heartbeatRequest (info : HeartbeatInfo)
  | heartbeatAck (info : HeartbeatInfo)
  | abort (filledInVerificationTag : Bool) (causes : List ErrorCause)
  | shutdown (cumulativeTsnAck : TSN)
  | shutdownAck
  | error (causes : List ErrorCause)
  | cookieEcho (cookie : Cookie)
  | cookieAck
  | shutdownComplete (tagReflected : Bool)
  | reConfig (parameters : List ReConfigParameter)
  | forwardTsn (chunk : AnyForwardTsnChunk)
  | iForwardTsn (chunk : AnyForwardTsnChunk)
  | malformed (type : ChunkType) (tBit : Bool)
  | unrecognized (type : UnknownType)
deriving DecidableEq

namespace Chunk

/-- `ChunkDescriptor::type`, as far as there is a handler for it. -/
def type? : Chunk → Option ChunkType
  | .data .. => some .data
  | .iData .. => some .iData
  | .init _ => some .init
  | .initAck _ => some .initAck
  | .sack _ => some .sack
  | .heartbeatRequest _ => some .heartbeatRequest
  | .heartbeatAck _ => some .heartbeatAck
  | .abort .. => some .abort
  | .shutdown _ => some .shutdown
  | .shutdownAck => some .shutdownAck
  | .error _ => some .error
  | .cookieEcho _ => some .cookieEcho
  | .cookieAck => some .cookieAck
  | .shutdownComplete _ => some .shutdownComplete
  | .reConfig _ => some .reConfig
  | .forwardTsn _ => some .forwardTsn
  | .iForwardTsn _ => some .iForwardTsn
  | .malformed type _ => some type
  | .unrecognized _ => none

def tBit : Chunk → Bool
  | .abort filledInVerificationTag _ => !filledInVerificationTag
  | .shutdownComplete tagReflected => tagReflected
  | .malformed _ t => t
  | _ => false

/-- The serialized size, with the parameters and causes inside padded. What a chunk was parsed from
is not kept, so one that is malformed or unrecognized counts with its header. -/
def size : Chunk → Nat
  | .data _ d _ => 16 + d.size
  | .iData _ d _ => 20 + d.size
  | .init c | .initAck c => 20 + c.parameters.size
  | .sack c => 16 + 4 * c.gapAckBlocks.length + 4 * c.duplicateTsns.size
  | .heartbeatRequest info | .heartbeatAck info => 4 + info.size
  | .abort _ causes | .error causes => 4 + (causes.map fun c => roundUpTo4 c.size).sum
  | .cookieEcho cookie => 4 + cookie.size
  | .reConfig parameters => 4 + (parameters.map fun p => roundUpTo4 p.size).sum
  | .forwardTsn c => 8 + 4 * c.skippedStreams.length
  | .iForwardTsn c => 8 + 8 * c.skippedStreams.length
  | .shutdown _ => 8
  | .shutdownAck | .cookieAck | .shutdownComplete _ | .malformed .. | .unrecognized _ => 4

end Chunk

/-! ## Packets -/

/-- `SctpPacket`. `Parse` accepts no packet without chunks, and none is sent. `writeChecksum`
tells whether a packet that is sent carries its checksum; a received one has been checked. -/
structure SctpPacket where
  verificationTag : VerificationTag
  chunks : List Chunk
  nonempty : chunks ≠ []
  writeChecksum : Bool := true
deriving DecidableEq

def SctpPacket.firstType? (p : SctpPacket) : Option ChunkType := (p.chunks.head p.nonempty).type?

def SctpPacket.kHeaderSize : Nat := 12

structure PacketBuilder where
  verificationTag : VerificationTag
  maxPacketSize : Nat
  chunks : List Chunk := []

namespace PacketBuilder

def new (verificationTag : VerificationTag) (options : DcSctpOptions) : PacketBuilder :=
  ⟨verificationTag, roundDownTo4 options.mtu, []⟩

def add (b : PacketBuilder) (c : Chunk) : PacketBuilder := { b with chunks := b.chunks ++ [c] }

def addAll (b : PacketBuilder) (cs : List Chunk) : PacketBuilder := { b with chunks := b.chunks ++ cs }

def size (b : PacketBuilder) : Nat :=
  if b.chunks.isEmpty then 0
  else SctpPacket.kHeaderSize + (b.chunks.map fun c => roundUpTo4 c.size).sum

def bytesRemaining (b : PacketBuilder) : Nat :=
  if b.chunks.isEmpty then b.maxPacketSize - SctpPacket.kHeaderSize else b.maxPacketSize - b.size

end PacketBuilder

end WebRtc.Dcsctp
