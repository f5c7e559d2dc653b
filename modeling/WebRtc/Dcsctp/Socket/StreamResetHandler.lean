import WebRtc.Dcsctp.Rx.DataTracker
import WebRtc.Dcsctp.Rx.ReassemblyQueue
import WebRtc.Dcsctp.Socket.Environment
import WebRtc.Dcsctp.Tx.RetransmissionQueue

/-!
# dcSCTP — StreamResetHandler

The model of `socket/stream_reset_handler.{h,cc}` (RFC 6525). The handler's collaborators are
arguments: the data tracker and the reassembly queue in the receiver's role, the retransmission
queue and the send queue in the sender's. The callbacks and chunks it produces are returned.
-/

namespace WebRtc.Dcsctp

open Numerics SendQueue

structure CurrentRequest where
  reqSeqNbr : Option ReconfigRequestSN
  senderLastAssignedTsn : TSN
  streams : List StreamID
deriving DecidableEq

def CurrentRequest.hasBeenSent (r : CurrentRequest) : Bool := r.reqSeqNbr.isSome

/-- `StreamResetHandler`. Of the reconfig timer, which restarts itself, only whether it runs
matters. -/
structure StreamResetHandler where
  incomingUnwrapper : SeqNumUnwrapper 32
  reconfigTimerRunning : Bool := false
  nextOutgoingReqSeqNbr : ReconfigRequestSN
  currentRequest : Option CurrentRequest := none
  lastProcessedReqSeqNbr : Int
  lastProcessedReqResult : ResponseResult := .successNothingToDo
deriving DecidableEq

namespace StreamResetHandler

def new (myInitialTsn peerInitialTsn : TSN) : StreamResetHandler :=
  let (last, incomingUnwrapper) := (SeqNumUnwrapper.init 32).unwrap (peerInitialTsn - 1)
  { incomingUnwrapper
    nextOutgoingReqSeqNbr := myInitialTsn
    lastProcessedReqSeqNbr := last }

/-! ## The receiver's role -/

def validateReqSeqNbr (h : StreamResetHandler) (reqSeqNbr : Int) : Option ReconfigurationResponse :=
  if reqSeqNbr = h.lastProcessedReqSeqNbr then
    some ⟨wrap 32 reqSeqNbr, h.lastProcessedReqResult⟩
  else if reqSeqNbr ≠ h.lastProcessedReqSeqNbr + 1 then
    some ⟨wrap 32 reqSeqNbr, .errorBadSequenceNumber⟩
  else none

structure Received where
  responses : List ReconfigurationResponse
  callbacks : List SocketCallback
  handler : StreamResetHandler
  reassemblyQueue : ReassemblyQueue

def handleResetOutgoing (h : StreamResetHandler) (t : DataTracker) (q : ReassemblyQueue)
    (req : OutgoingSSNResetRequest) : Received :=
  let (requestSn, incomingUnwrapper) := h.incomingUnwrapper.unwrap req.requestSequenceNumber
  let h := { h with incomingUnwrapper }
  match h.validateReqSeqNbr requestSn with
  | some response => ⟨[response], [], h, q⟩
  | none =>
    if t.isLaterThanCumulativeAckedTsn req.senderLastAssignedTsn then
      { responses := [⟨req.requestSequenceNumber, .inProgress⟩]
        callbacks := []
        handler :=
          { h with lastProcessedReqSeqNbr := requestSn, lastProcessedReqResult := .inProgress }
        reassemblyQueue := q.enterDeferredReset req.senderLastAssignedTsn req.streamIds }
    else
      { responses := [⟨req.requestSequenceNumber, .successPerformed⟩]
        callbacks := [.onIncomingStreamsReset req.streamIds]
        handler :=
          { h with lastProcessedReqSeqNbr := requestSn, lastProcessedReqResult := .successPerformed }
        reassemblyQueue := q.resetStreamsAndLeaveDeferredReset req.streamIds }

/-- `HandleResetIncoming`, which resets nothing and keeps the remembered result. -/
def handleResetIncoming (h : StreamResetHandler) (requestSequenceNumber : ReconfigRequestSN) :
    ReconfigurationResponse × StreamResetHandler :=
  let (requestSn, incomingUnwrapper) := h.incomingUnwrapper.unwrap requestSequenceNumber
  let h := { h with incomingUnwrapper }
  match h.validateReqSeqNbr requestSn with
  | some response => (response, h)
  | none =>
    (⟨requestSequenceNumber, .successNothingToDo⟩, { h with lastProcessedReqSeqNbr := requestSn })

/-! ## The sender's role -/

section SendQueue

variable {σ : Type} [SendQueue σ]

def handleResponse (h : StreamResetHandler) (s : σ) (resp : ReconfigurationResponse) :
    List SocketCallback × StreamResetHandler × σ :=
  match h.currentRequest with
  | none => ([], h, s)
  | some request =>
    if request.reqSeqNbr = some resp.responseSequenceNumber then
      match resp.result with
      | .successNothingToDo | .successPerformed =>
        ([.onStreamsResetPerformed request.streams],
          { h with reconfigTimerRunning := false, currentRequest := none },
          commitResetStreams s)
      | .inProgress =>
        -- The request will be sent again with a new number.
        ([], { h with
               reconfigTimerRunning := true
               currentRequest := some { request with reqSeqNbr := none } }, s)
      | .errorRequestAlreadyInProgress | .denied | .errorWrongSSN | .errorBadSequenceNumber =>
        ([.onStreamsResetFailed request.streams resp.result.toString],
          { h with reconfigTimerRunning := false, currentRequest := none },
          rollbackResetStreams s)
    else ([], h, s)

/-- `MakeReconfigChunk`, for the current request. One that has not been sent gets the next
number; one that timed out keeps its own. -/
def makeReconfigChunk (h : StreamResetHandler) (request : CurrentRequest) :
    Chunk × StreamResetHandler :=
  match request.reqSeqNbr with
  | some n =>
    (.reConfig [.outgoingSSNResetRequest ⟨n, n, request.senderLastAssignedTsn, request.streams⟩], h)
  | none =>
    let n := h.nextOutgoingReqSeqNbr
    (.reConfig [.outgoingSSNResetRequest ⟨n, n, request.senderLastAssignedTsn, request.streams⟩],
      { h with
        nextOutgoingReqSeqNbr := n + 1
        currentRequest := some { request with reqSeqNbr := some n } })

def makeStreamResetRequest (h : StreamResetHandler) (q : RetransmissionQueue) (s : σ) :
    Option Chunk × StreamResetHandler × RetransmissionQueue × σ :=
  if h.currentRequest.isSome || !hasStreamsReadyToBeReset s then (none, h, q, s)
  else
    let lastAssignedTsn := q.lastAssignedTsn
    let (streams, q, s) := q.beginResetStreams s
    let (chunk, h) := { h with reconfigTimerRunning := true }.makeReconfigChunk
      ⟨none, lastAssignedTsn, streams⟩
    (some chunk, h, q, s)

def resetStreams (s : σ) (outgoingStreams : List StreamID) : σ :=
  outgoingStreams.foldl prepareResetStream s

/-! ## RE-CONFIG chunks -/

def isAllowedPair : ReConfigParameterType → ReConfigParameterType → Bool
  | .outgoingSSNResetRequest, .incomingSSNResetRequest => true
  | .addOutgoingStreamsRequest, .addIncomingStreamsRequest => true
  | .reconfigurationResponse, .outgoingSSNResetRequest => true
  | .reconfigurationResponse, .reconfigurationResponse => true
  | _, _ => false

def validate (parameters : List ReConfigParameter) : Bool :=
  match parameters.map ReConfigParameter.type with
  | [t] => t ≠ .other
  | [t, t'] => isAllowedPair t t' || isAllowedPair t' t
  | _ => false

structure Processed (σ : Type) where
  responses : List ReconfigurationResponse := []
  callbacks : List SocketCallback := []
  handler : StreamResetHandler
  reassemblyQueue : ReassemblyQueue
  sendQueue : σ

def Processed.parseFailed (p : Processed σ) (message : String) : Processed σ :=
  { p with callbacks := p.callbacks ++ [.onError .parseFailed message] }

def processParameter (t : DataTracker) (p : Processed σ) : ReConfigParameter → Processed σ
  | .outgoingSSNResetRequest req =>
    let r := p.handler.handleResetOutgoing t p.reassemblyQueue req
    { p with
      responses := p.responses ++ r.responses
      callbacks := p.callbacks ++ r.callbacks
      handler := r.handler
      reassemblyQueue := r.reassemblyQueue }
  | .incomingSSNResetRequest requestSequenceNumber =>
    let (response, handler) := p.handler.handleResetIncoming requestSequenceNumber
    { p with responses := p.responses ++ [response], handler }
  | .reconfigurationResponse resp =>
    let (callbacks, handler, sendQueue) := p.handler.handleResponse p.sendQueue resp
    { p with callbacks := p.callbacks ++ callbacks, handler, sendQueue }
  | .unparsed .outgoingSSNResetRequest => p.parseFailed "Failed to parse Outgoing Reset command"
  | .unparsed .incomingSSNResetRequest => p.parseFailed "Failed to parse Incoming Reset command"
  | .unparsed .reconfigurationResponse =>
    p.parseFailed "Failed to parse Reconfiguration Response command"
  | .unparsed _ => p

/-- `Process` and the reporting of `HandleReConfig`; the answers are sent in one chunk. -/
def handleReConfig (h : StreamResetHandler) (t : DataTracker) (q : ReassemblyQueue) (s : σ)
    (parameters : List ReConfigParameter) : Processed σ :=
  let p : Processed σ := { handler := h, reassemblyQueue := q, sendQueue := s }
  if validate parameters then parameters.foldl (processParameter t) p
  else { p with callbacks := [.onError .parseFailed "Failed to parse RE-CONFIG command"] }

end SendQueue

end StreamResetHandler

end WebRtc.Dcsctp
