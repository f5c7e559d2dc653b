import WebRtc.Lib.ByteReader

/-!
# WebRTC — STUN messages

The model of `api/transport/stun.cc`: `StunMessage::Read` for STUN, TURN and ICE messages, the
accessors, and the check of the MESSAGE-INTEGRITY attribute. Each attribute that `Read` passes
leaves a `Slot` that says where it was read from; `attrs_` are the slots that hold an attribute.
HMAC-SHA1 is a parameter.
-/

namespace WebRtc.Stun

open Lib Reader

abbrev AttributeType := BitVec 16

inductive MessageClass where
  | stun | turn | ice
deriving DecidableEq

inductive ValueType where
  | unknown | address | xorAddress | uint32 | uint64 | byteString | errorCode | uint16List
deriving DecidableEq

def kHeaderSize : Nat := 20
def kAttributeHeaderSize : Nat := 4
def kTransactionIdLength : Nat := 12

/-- `kStunMagicCookie` in network byte order. -/
def kMagicCookie : List UInt8 := [0x21, 0x12, 0xA4, 0x42]

def attrMessageIntegrity : AttributeType := 0x0008
def attrFingerprint : AttributeType := 0x8028
def attrGoogMessageIntegrity32 : AttributeType := 0xC060
def kMessageIntegritySize : Nat := 20
def kMessageIntegrity32Size : Nat := 4

variable (type : AttributeType)

def stunValueType : ValueType :=
  match type.toNat with
  | 0x0001 => .address
  | 0x0006 => .byteString
  | 0x0008 => .byteString
  | 0x0009 => .errorCode
  | 0x000A => .uint16List
  | 0x0014 => .byteString
  | 0x0015 => .byteString
  | 0x0020 => .xorAddress
  | 0x8022 => .byteString
  | 0x8023 => .address
  | 0x8028 => .uint32
  | 0xFF00 => .uint32
  | 0xC058 => .byteString
  | 0xC059 => .uint16List
  | 0xC05C => .byteString
  | 0xC05D => .uint64
  | _ => .unknown

def turnValueType : ValueType :=
  match type.toNat with
  | 0x000C => .uint32
  | 0x000D => .uint32
  | 0x0012 => .xorAddress
  | 0x0013 => .byteString
  | 0x0016 => .xorAddress
  | 0x0018 => .byteString
  | 0x0019 => .uint32
  | 0x001A => .byteString
  | 0x0022 => .byteString
  | _ => stunValueType type

def iceValueType : ValueType :=
  match type.toNat with
  | 0x0024 => .uint32
  | 0xC057 => .uint32
  | 0xC001 => .uint32
  | 0x0025 => .byteString
  | 0x8029 => .uint64
  | 0x802A => .uint64
  | _ => stunValueType type

def MessageClass.getAttributeValueType : MessageClass → AttributeType → ValueType
  | .stun => stunValueType
  | .turn => turnValueType
  | .ice => iceValueType

def designatedExpertRange : Bool :=
  (decide (0x4000 ≤ type.toNat) && decide (type.toNat ≤ 0x7FFF)) || decide (0xC000 ≤ type.toNat)

/-- The kind of attribute that `CreateAttribute` creates; `unknown` where it
creates none. -/
def createAttribute (c : MessageClass) (type : AttributeType) : ValueType :=
  match c.getAttributeValueType type with
  | .unknown => if designatedExpertRange type then .byteString else .unknown
  | v => v

/-! ## Attributes -/

inductive IPAddress where
  | unspecified
  | v4 (bytes : List UInt8)
  | v6 (bytes : List UInt8)
deriving DecidableEq

def IPAddress.attributeLength : IPAddress → Nat
  | .unspecified => 0
  | .v4 _ => 8
  | .v6 _ => 20

inductive AttributeValue where
  | address (ip : IPAddress) (port : BitVec 16)
  | xorAddress (ip : IPAddress) (port : BitVec 16)
  | uint32 (bits : BitVec 32)
  | uint64 (bits : BitVec 64)
  | byteString (bytes : List UInt8)
  | errorCode (errorClass number : Nat) (reason : List UInt8)
  | uint16List (types : List (BitVec 16))
deriving DecidableEq

structure StunAttribute where
  type : AttributeType
  length : Nat
  value : AttributeValue
deriving DecidableEq

def paddedLength (n : Nat) : Nat := if n % 4 ≠ 0 then n + (4 - n % 4) else n

/-- `ConsumePadding`: where there is less left than the padding, nothing is
consumed. -/
def consumePadding (length : Nat) : Reader Unit := fun buf =>
  some ((), if length % 4 ≠ 0 ∧ 4 - length % 4 ≤ buf.length then buf.drop (4 - length % 4) else buf)

def consume (n : Nat) : Reader Unit := do
  let _ ← bytes n
  pure ()

def readUInt8 : Reader (BitVec 8) := uint 1
def readUInt16 : Reader (BitVec 16) := uint 2
def readUInt32 : Reader (BitVec 32) := uint 4
def readUInt64 : Reader (BitVec 64) := uint 8

def readAddress (length : Nat) : Reader (IPAddress × BitVec 16) := do
  let _ ← readUInt8
  let family ← readUInt8
  let port ← readUInt16
  if family = 1 then
    if length ≠ 8 then failure
    else do
      let ip ← bytes 4
      pure (.v4 ip, port)
  else if family = 2 then
    if length ≠ 20 then failure
    else do
      let ip ← bytes 16
      pure (.v6 ip, port)
  else failure

def getXoredIP (transactionId : List UInt8) : IPAddress → IPAddress
  | .unspecified => .unspecified
  | .v4 ip => .v4 (List.zipWith (· ^^^ ·) ip kMagicCookie)
  | .v6 ip =>
    if transactionId.length = kTransactionIdLength then
      .v6 (List.zipWith (· ^^^ ·) ip (kMagicCookie ++ transactionId))
    else .unspecified

def readErrorCode (length : Nat) : Reader AttributeValue :=
  if length < 4 then failure
  else do
    let val ← readUInt32
    let reason ← bytes (length - 4)
    pure (.errorCode (val.toNat / 256 % 8) (val.toNat % 256) reason)

def readUInt16List (length : Nat) : Reader AttributeValue :=
  if length % 2 ≠ 0 then failure
  else do
    let types ← many readUInt16 (length / 2)
    pure (.uint16List types)

/-- `Read` of the attribute that `CreateAttribute` created. The attributes of
fixed size have their own length and do not know the declared one. -/
def readAttribute (transactionId : List UInt8) (type : AttributeType) (length : Nat) :
    ValueType → Reader (Option StunAttribute)
  | .unknown => failure
  | .address => do
    let (ip, port) ← readAddress length
    pure (some ⟨type, ip.attributeLength, .address ip port⟩)
  | .xorAddress => do
    let (ip, port) ← readAddress length
    let ip := getXoredIP transactionId ip
    pure (some ⟨type, ip.attributeLength, .xorAddress ip (port ^^^ 0x2112)⟩)
  | .uint32 => do
    let bits ← readUInt32
    pure (some ⟨type, 4, .uint32 bits⟩)
  | .uint64 => do
    let bits ← readUInt64
    pure (some ⟨type, 8, .uint64 bits⟩)
  | .byteString => do
    let bytes ← bytes length
    consumePadding length
    pure (some ⟨type, length, .byteString bytes⟩)
  | .errorCode => do
    let value ← readErrorCode length
    consumePadding length
    pure (some ⟨type, length, value⟩)
  | .uint16List => do
    let value ← readUInt16List length
    consumePadding length
    pure (some ⟨type, length, value⟩)

def roundedLength (length : BitVec 16) : BitVec 16 :=
  if length % 4 ≠ 0 then length + (4 - length % 4) else length

def readBody (c : MessageClass) (transactionId : List UInt8) (type : AttributeType)
    (length : BitVec 16) : Reader (Option StunAttribute) :=
  match createAttribute c type with
  | .unknown => do
    consume (roundedLength length).toNat
    pure none
  | v => readAttribute transactionId type length.toNat v

/-! ## Messages -/

/-- An attribute that `Read` has passed: where it begins and ends, what its
header says, and what was kept of it. -/
structure Slot where
  start : Nat
  stop : Nat
  type : AttributeType
  length : BitVec 16
  attr : Option StunAttribute
deriving DecidableEq

structure StunMessage where
  msgClass : MessageClass
  type : BitVec 16
  length : BitVec 16
  transactionId : List UInt8
  slots : List Slot
  buffer : List UInt8
deriving DecidableEq

def readAttributes (c : MessageClass) (transactionId : List UInt8) (size : Nat) :
    Nat → List UInt8 → Option (List Slot)
  | 0, _ => none
  | fuel + 1, buf =>
    if buf = [] then some []
    else do
      let (type, buf₁) ← readUInt16 buf
      let (length, buf₂) ← readUInt16 buf₁
      let (attr, rest) ← readBody c transactionId type length buf₂
      let slots ← readAttributes c transactionId size fuel rest
      pure (⟨size - buf.length, size - rest.length, type, length, attr⟩ :: slots)

/-- `StunMessage::Read`. Each round of the loop takes the four bytes of a header,
so there are fewer rounds than bytes. -/
def read (c : MessageClass) (data : List UInt8) : Option StunMessage := do
  let (type, buf) ← readUInt16 data
  if type &&& 0x8000 ≠ 0 then none
  else do
    let (length, buf) ← readUInt16 buf
    let (magicCookie, buf) ← bytes 4 buf
    let (id, buf) ← bytes kTransactionIdLength buf
    let transactionId := if magicCookie ≠ kMagicCookie then magicCookie ++ id else id
    if length.toNat ≠ buf.length then none
    else do
      let slots ← readAttributes c transactionId data.length (buf.length + 1) buf
      pure ⟨c, type, length, transactionId, slots, data⟩

def StunMessage.getAttribute (m : StunMessage) (type : AttributeType) : Option StunAttribute :=
  (m.slots.filterMap Slot.attr).find? fun a => decide (a.type = type)

/-! ## MESSAGE-INTEGRITY -/

def getBE16 (data : List UInt8) (pos : Nat) : BitVec 16 :=
  BitVec.ofNat 16 (beNat ((data.drop pos).take 2))

/-- The loop of `ValidateMessageIntegrityOfType`: the positions of the attributes
it looks at, and that of the attribute to check when there is one that is
sane. -/
def findIntegrity (miType : AttributeType) (miSize : Nat) (data : List UInt8) :
    Nat → Nat → List Nat × Option Nat
  | 0, _ => ([], none)
  | fuel + 1, pos =>
    if pos + 4 ≤ data.length then
      let attrType := getBE16 data pos
      let attrLength := (getBE16 data (pos + 2)).toNat
      if attrType = miType then
        if attrLength ≠ miSize ∨ data.length < pos + 4 + attrLength then ([pos], none)
        else ([pos], some pos)
      else
        let (visited, found) := findIntegrity miType miSize data fuel (pos + 4 + paddedLength attrLength)
        (pos :: visited, found)
    else ([], none)

def setBE16 (data : List UInt8) (pos : Nat) (n : BitVec 16) : List UInt8 :=
  data.take pos ++ [UInt8.ofNat (n.toNat / 256), UInt8.ofNat (n.toNat % 256)] ++ data.drop (pos + 2)

/-- The bytes that the HMAC covers, for an attribute to check at `pos`. -/
def integrityInput (miSize : Nat) (data : List UInt8) (pos : Nat) : List UInt8 :=
  let temp := data.take pos
  if pos + kAttributeHeaderSize + miSize < data.length then
    setBE16 temp 2 (BitVec.ofNat 16 (pos + kAttributeHeaderSize + miSize - kHeaderSize))
  else temp

/-- `ComputeHmac` with SHA-1: key and data give the digest. -/
abbrev Hmac := List UInt8 → List UInt8 → List UInt8

def validateMessageIntegrityOfType (hmac : Hmac) (miType : AttributeType) (miSize : Nat)
    (data password : List UInt8) : Bool :=
  if data.length % 4 ≠ 0 ∨ data.length < kHeaderSize then false
  else if data.length ≠ (getBE16 data 2).toNat + kHeaderSize then false
  else
    match (findIntegrity miType miSize data data.length kHeaderSize).2 with
    | none => false
    | some pos =>
      let digest := hmac password (integrityInput miSize data pos)
      if digest.length ≠ kMessageIntegritySize then false
      else decide ((data.drop (pos + kAttributeHeaderSize)).take miSize = digest.take miSize)

inductive IntegrityStatus where
  | noIntegrity | integrityOk | integrityBad
deriving DecidableEq

def StunMessage.integrityAttribute (m : StunMessage) : Option (AttributeType × Nat) :=
  if (m.getAttribute attrMessageIntegrity).isSome then
    some (attrMessageIntegrity, kMessageIntegritySize)
  else if (m.getAttribute attrGoogMessageIntegrity32).isSome then
    some (attrGoogMessageIntegrity32, kMessageIntegrity32Size)
  else none

def StunMessage.validateMessageIntegrity (hmac : Hmac) (m : StunMessage) (password : List UInt8) :
    IntegrityStatus :=
  match m.integrityAttribute with
  | none => .noIntegrity
  | some (miType, miSize) =>
    if validateMessageIntegrityOfType hmac miType miSize m.buffer password then .integrityOk
    else .integrityBad

end WebRtc.Stun
