import WebRtc.Dcsctp.Socket.StreamResetHandler
import WebRtc.Lib.Run

/-!
# dcSCTP — requests that arrive again

A request that arrives again is answered with the result that the handler remembers.
`HandleResetOutgoing` remembers its result; `HandleResetIncoming` does not, so that its request is
answered with the result of an older one the second time.
-/

namespace WebRtc.Dcsctp

open Lib Numerics SeqNumUnwrapper

inductive ResetRequest where
  | outgoing (req : OutgoingSSNResetRequest)
  | incoming (requestSequenceNumber : ReconfigRequestSN)
deriving DecidableEq

namespace ResetRequest

def number : ResetRequest → ReconfigRequestSN
  | .outgoing req => req.requestSequenceNumber
  | .incoming n => n

def isOutgoing : ResetRequest → Bool
  | .outgoing _ => true
  | .incoming _ => false

end ResetRequest

namespace StreamResetHandler

def handleRequest (h : StreamResetHandler) (t : DataTracker) (q : ReassemblyQueue) :
    ResetRequest → Received
  | .outgoing req => h.handleResetOutgoing t q req
  | .incoming n =>
    let (response, handler) := h.handleResetIncoming n
    ⟨[response], [], handler, q⟩

def isNext (h : StreamResetHandler) (n : ReconfigRequestSN) : Bool :=
  decide (h.incomingUnwrapper.peekUnwrap n = h.lastProcessedReqSeqNbr + 1)

/-- A handler with the requests it has processed and the results it sent for them. -/
structure History where
  handler : StreamResetHandler
  processed : List (ResetRequest × ResponseResult) := []

/-- A request with the data tracker and the reassembly queue it meets. -/
abbrev Arrival := DataTracker × ReassemblyQueue × ResetRequest

def History.step (s : History) (e : Arrival) : History :=
  let r := s.handler.handleRequest e.1 e.2.1 e.2.2
  { handler := r.handler
    processed :=
      if s.handler.isNext e.2.2.number then
        s.processed ++ r.responses.map fun response => (e.2.2, response.result)
      else s.processed }

/-! ## One request -/

lemma wrap_ne_wrap_add_one (x : Int) : wrap 32 (x + 1) ≠ wrap 32 x := by
  intro h
  have := eq_of_wrap_eq h (by omega) (by omega)
  omega

variable {h : StreamResetHandler}

lemma validateReqSeqNbr_eq_none {n : Int}
    (hn : n = h.lastProcessedReqSeqNbr + 1) : h.validateReqSeqNbr n = none := by
  unfold validateReqSeqNbr
  rw [if_neg (by omega), if_neg (not_not.mpr hn)]

lemma handleRequest_of_not_next (t : DataTracker) (q : ReassemblyQueue)
    {r : ResetRequest} (hr : h.isNext r.number = false) :
    ∃ u, h.handleRequest t q r =
      ⟨[⟨r.number, if h.incomingUnwrapper.peekUnwrap r.number = h.lastProcessedReqSeqNbr then
          h.lastProcessedReqResult else .errorBadSequenceNumber⟩], [],
        { h with incomingUnwrapper := u }, q⟩ := by
  have hnot : h.incomingUnwrapper.peekUnwrap r.number ≠ h.lastProcessedReqSeqNbr + 1 := by
    simpa [isNext] using hr
  refine ⟨(h.incomingUnwrapper.unwrap r.number).2, ?_⟩
  have hvalid : validateReqSeqNbr { h with incomingUnwrapper := (h.incomingUnwrapper.unwrap r.number).2 }
      (h.incomingUnwrapper.peekUnwrap r.number) =
      some ⟨r.number, if h.incomingUnwrapper.peekUnwrap r.number = h.lastProcessedReqSeqNbr then
        h.lastProcessedReqResult else .errorBadSequenceNumber⟩ := by
    unfold validateReqSeqNbr
    rw [h.incomingUnwrapper.wrap_peekUnwrap]
    split
    · rfl
    · rfl
  cases r with
  | outgoing req =>
    simp only [ResetRequest.number] at hvalid ⊢
    simp only [handleRequest, handleResetOutgoing, unwrap_fst, hvalid]
  | incoming n =>
    simp only [ResetRequest.number] at hvalid ⊢
    simp only [handleRequest, handleResetIncoming, unwrap_fst, hvalid]

lemma handleRequest_of_next (t : DataTracker) (q : ReassemblyQueue)
    {r : ResetRequest} (hr : h.isNext r.number = true) :
    ∃ result, (h.handleRequest t q r).responses = [⟨r.number, result⟩] ∧
      result ≠ .errorBadSequenceNumber ∧
      (h.handleRequest t q r).handler.lastProcessedReqSeqNbr =
        h.incomingUnwrapper.peekUnwrap r.number ∧
      if r.isOutgoing then
        (h.handleRequest t q r).handler.lastProcessedReqResult = result ∧ result ≠ .successNothingToDo
      else (h.handleRequest t q r).handler.lastProcessedReqResult = h.lastProcessedReqResult ∧
          result = .successNothingToDo := by
  have hnext : h.incomingUnwrapper.peekUnwrap r.number = h.lastProcessedReqSeqNbr + 1 := by
    simpa [isNext] using hr
  cases r with
  | outgoing req =>
    simp only [ResetRequest.number] at hnext
    have hvalid := validateReqSeqNbr_eq_none
      (h := { h with incomingUnwrapper := (h.incomingUnwrapper.unwrap req.requestSequenceNumber).2 }) hnext
    simp only [handleRequest, handleResetOutgoing, unwrap_fst, hvalid]
    split
    · exact ⟨.inProgress, rfl, by simp, rfl, rfl, by simp⟩
    · exact ⟨.successPerformed, rfl, by simp, rfl, rfl, by simp⟩
  | incoming n =>
    simp only [ResetRequest.number] at hnext
    have hvalid := validateReqSeqNbr_eq_none
      (h := { h with incomingUnwrapper := (h.incomingUnwrapper.unwrap n).2 }) hnext
    simp only [handleRequest, handleResetIncoming, unwrap_fst, hvalid]
    exact ⟨.successNothingToDo, rfl, by simp, by simp [ResetRequest.isOutgoing, ResetRequest.number]⟩

/-! ## Runs -/

structure Remembers (s : History) : Prop where
  number : ∀ p, s.processed.getLast? = some p →
    wrap 32 s.handler.lastProcessedReqSeqNbr = p.1.number ∧ p.2 ≠ .errorBadSequenceNumber
  result : ∀ p, s.processed.getLast? = some p → p.1.isOutgoing = true →
    s.handler.lastProcessedReqResult = p.2
  nothing : ∀ p, s.processed.getLast? = some p → p.1.isOutgoing = false → p.2 = .successNothingToDo
  initial : s.handler.lastProcessedReqResult = .successNothingToDo ↔
    ∀ p ∈ s.processed, p.1.isOutgoing = false

lemma remembers_new (myTsn peerTsn : TSN) :
    Remembers { handler := new myTsn peerTsn } :=
  ⟨by simp, by simp, by simp, by simp [new]⟩

lemma remembers_step {s : History} (h : Remembers s) (e : Arrival) : Remembers (s.step e) := by
  obtain ⟨t, q, r⟩ := e
  cases hnext : s.handler.isNext r.number with
  | false =>
    obtain ⟨u, hr⟩ := handleRequest_of_not_next t q hnext
    have hstep : s.step (t, q, r) = { s with handler := { s.handler with incomingUnwrapper := u } } := by
      simp only [History.step, hnext, hr, Bool.false_eq_true, if_false]
    rw [hstep]
    exact ⟨h.number, h.result, h.nothing, h.initial⟩
  | true =>
    obtain ⟨result, hresponses, hbad, hlast, hkind⟩ := handleRequest_of_next t q hnext
    have hstep : s.step (t, q, r) =
        { handler := (s.handler.handleRequest t q r).handler
          processed := s.processed ++ [(r, result)] } := by
      simp only [History.step, hnext, hresponses, if_true, List.map_cons, List.map_nil]
    rw [hstep]
    have hlatest {p : ResetRequest × ResponseResult}
        (hp : (s.processed ++ [(r, result)]).getLast? = some p) : p = (r, result) := by
      simpa using hp.symm
    cases hout : r.isOutgoing with
    | true =>
      rw [hout, if_pos rfl] at hkind
      refine ⟨fun p hp => ?_, fun p hp _ => ?_, fun p hp hp' => ?_, ?_⟩
      · rw [hlatest hp]
        exact ⟨by rw [hlast, s.handler.incomingUnwrapper.wrap_peekUnwrap], hbad⟩
      · rw [hlatest hp]
        exact hkind.1
      · rw [hlatest hp] at hp'
        simp [hout] at hp'
      dsimp only
      rw [hkind.1]
      refine ⟨fun hres => absurd hres hkind.2, fun hall => ?_⟩
      have hr := hall (r, result) (by simp)
      simp [hout] at hr
    | false =>
      rw [hout, if_neg (by simp)] at hkind
      refine ⟨fun p hp => ?_, fun p hp hp' => ?_, fun p hp _ => ?_, ?_⟩
      · rw [hlatest hp]
        exact ⟨by rw [hlast, s.handler.incomingUnwrapper.wrap_peekUnwrap], hbad⟩
      · rw [hlatest hp] at hp'
        simp [hout] at hp'
      · rw [hlatest hp]
        exact hkind.2
      dsimp only
      rw [hkind.1, h.initial]
      simp [hout, or_imp, forall_and]

/-- When a request with the number of the last processed one arrives, it leaves the receive streams
alone and gets the result sent the first time exactly if the handler recognizes the number and the
last request was an outgoing one, or none of them was. -/
theorem repeated_request_same_answer_iff (myInitialTsn peerInitialTsn : TSN) (arrivals : List Arrival)
    (s : History) (hs : s = run History.step { handler := new myInitialTsn peerInitialTsn } arrivals)
    (first : ResetRequest) (result : ResponseResult)
    (hlast : s.processed.getLast? = some (first, result)) (t : DataTracker) (q : ReassemblyQueue)
    (again : ResetRequest) (hnumber : again.number = first.number) :
    ((s.handler.handleRequest t q again).responses = [⟨first.number, result⟩] ∧
      (s.handler.handleRequest t q again).reassemblyQueue = q) ↔
    (s.handler.incomingUnwrapper.Recovers s.handler.lastProcessedReqSeqNbr ∧
      (first.isOutgoing = true ∨ ∀ p ∈ s.processed, p.1.isOutgoing = false)) := by
  have hinv : Remembers s := by
    rw [hs]
    exact run_induction (P := Remembers) (fun _ e h => remembers_step h e) arrivals
      (remembers_new myInitialTsn peerInitialTsn)
  obtain ⟨hwire, hbad⟩ := hinv.number _ hlast
  have hag : again.number = wrap 32 s.handler.lastProcessedReqSeqNbr := hnumber.trans hwire.symm
  -- The next request has another wire number.
  have hnot : s.handler.isNext again.number = false := by
    rw [isNext, decide_eq_false_iff_not]
    intro hnext
    refine wrap_ne_wrap_add_one s.handler.lastProcessedReqSeqNbr ?_
    rw [← hnext, s.handler.incomingUnwrapper.wrap_peekUnwrap, hag]
  have hres : s.handler.lastProcessedReqResult = result ↔
      (first.isOutgoing = true ∨ ∀ p ∈ s.processed, p.1.isOutgoing = false) := by
    cases hout : first.isOutgoing with
    | true => simpa using hinv.result _ hlast hout
    | false =>
      have hnothing : result = .successNothingToDo := hinv.nothing _ hlast hout
      rw [hnothing, hinv.initial]
      simp
  obtain ⟨u, hr⟩ := handleRequest_of_not_next t q hnot
  rw [hr, ← hres]
  rw [← hnumber, hag]
  unfold Recovers
  split
  · rename_i hrecov
    simp [hrecov]
  rename_i hrecov
  simp [hrecov, Ne.symm hbad]

def arrival (r : ResetRequest) : Arrival := (.new 100, .new 1000 false, r)

def resetStream1 (n : ReconfigRequestSN) : ResetRequest := .outgoing ⟨n, n, 99, [1]⟩

/-- An outgoing request that was performed is answered as performed again. -/
theorem repeated_outgoing_request :
    ((run History.step { handler := new 0 100 } [arrival (resetStream1 100)]).handler.handleRequest
      (.new 100) (.new 1000 false) (resetStream1 100)).responses = [⟨100, .successPerformed⟩] :=
  ((repeated_request_same_answer_iff 0 100 [arrival (resetStream1 100)] _ rfl (resetStream1 100)
    .successPerformed (by decide +kernel) (.new 100) (.new 1000 false) (resetStream1 100) rfl).mpr
    (by decide +kernel)).1

/-- An incoming request after an outgoing one: "nothing to do" at first, and "performed" when it
arrives again. -/
theorem repeated_incoming_request_differs : (run History.step { handler := new 0 100 }
    [arrival (resetStream1 100), arrival (.incoming 101)]).processed =
    [(resetStream1 100, .successPerformed), (.incoming 101, .successNothingToDo)] ∧
      ((run History.step { handler := new 0 100 }
        [arrival (resetStream1 100), arrival (.incoming 101)]).handler.handleRequest
        (.new 100) (.new 1000 false) (.incoming 101)).responses = [⟨101, .successPerformed⟩] := by
  decide +kernel

end StreamResetHandler

end WebRtc.Dcsctp
