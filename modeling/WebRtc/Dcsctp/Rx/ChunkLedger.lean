import WebRtc.Dcsctp.Rx.ByteAccounting

/-!
# dcSCTP — what becomes of a chunk

Every chunk given to a reassembly queue is in one of four places: it is held until it can be
assembled, it is part of exactly one assembled message, it was skipped by a FORWARD-TSN, or it was
refused because its place was taken (`ledger_balances`).
-/

namespace WebRtc.Dcsctp

open Lib Numerics ReassemblyStreams ReassemblyQueue List DeferredAction

def DeferredAction.chunks : DeferredAction → List Data
  | .add _ data => [data]
  | .handleForwardTsn .. => []

namespace ReassemblyQueue

def deferredChunks (q : ReassemblyQueue) : List Data :=
  match q.deferredResetStreams with
  | none => []
  | some d => d.deferredActions.flatMap chunks

def held (q : ReassemblyQueue) : List Data := q.streams.held ++ q.deferredChunks

def addDiscards (q : ReassemblyQueue) (tsn : TSN) (data : Data) : List Data :=
  if q.defers (q.tsnUnwrapper.peekUnwrap tsn) data.streamId then []
  else if q.streams.refuses (q.tsnUnwrapper.peekUnwrap tsn) data then [data] else []

def forwardDiscards (q : ReassemblyQueue) (tsn : TSN) (skippedStreams : List SkippedStream) :
    List Data :=
  match q.deferredResetStreams with
  | some d =>
    if d.senderLastAssignedTsn < q.tsnUnwrapper.peekUnwrap tsn then []
    else q.streams.skipped (q.tsnUnwrapper.peekUnwrap tsn) skippedStreams
  | none => q.streams.skipped (q.tsnUnwrapper.peekUnwrap tsn) skippedStreams

def actionDiscards (q : ReassemblyQueue) : DeferredAction → List Data
  | .add tsn data => q.addDiscards tsn data
  | .handleForwardTsn tsn skippedStreams => q.forwardDiscards tsn skippedStreams

def actionsDiscard : ReassemblyQueue → List DeferredAction → List Data
  | _, [] => []
  | q, action :: rest => q.actionDiscards action ++ (q.runAction action).actionsDiscard rest

def discardedBy (q : ReassemblyQueue) : Operation → List Data
  | .add tsn data => q.addDiscards tsn data
  | .handleForwardTsn tsn skippedStreams => q.forwardDiscards tsn skippedStreams
  | .resetStreamsAndLeaveDeferredReset streamIds =>
    match q.deferredResetStreams with
    | none => []
    | some d => actionsDiscard
        { q with streams := q.streams.resetStreams streamIds, deferredResetStreams := none }
        d.deferredActions
  | .enterDeferredReset .. => []
  | .getNextMessage => []

def takenBy (q : ReassemblyQueue) : Operation → List DcSctpMessage
  | .getNextMessage => q.getNextMessage.1.toList
  | _ => []

def taken : ReassemblyQueue → List Operation → List DcSctpMessage
  | _, [] => []
  | q, op :: ops => q.takenBy op ++ (q.perform op).taken ops

def discarded : ReassemblyQueue → List Operation → List Data
  | _, [] => []
  | q, op :: ops => q.discardedBy op ++ (q.perform op).discarded ops

/-- From `q` to `q'`, with the chunks `added` and those in `waiting` actions: every chunk is
accounted for, and the messages assembled are queued up behind those that were there. -/
def Balanced (q q' : ReassemblyQueue) (added dropped : List Data) (out : List DcSctpMessage) : Prop :=
  ∃ groups : List (List Data), (∀ g ∈ groups, g ≠ []) ∧
    q.reassembledMessages ++ groups.map assembled = out ++ q'.reassembledMessages ∧
    ∀ f, total f q.held + total f added = total f q'.held + total f groups.flatten + total f dropped

lemma Balanced.refl (q : ReassemblyQueue) : Balanced q q [] [] [] :=
  ⟨[], by simp, by simp, fun f => by simp⟩

variable {q : ReassemblyQueue} {dropped added : List Data}

lemma Balanced.trans {q' q'' : ReassemblyQueue} {added' dropped' : List Data}
    {out out' : List DcSctpMessage} (h : Balanced q q' added dropped out)
    (h' : Balanced q' q'' added' dropped' out') :
    Balanced q q'' (added ++ added') (dropped ++ dropped') (out ++ out') := by
  obtain ⟨groups, hne, hm, htot⟩ := h
  obtain ⟨groups', hne', hm', htot'⟩ := h'
  refine ⟨groups ++ groups', ?_, ?_, ?_⟩
  · exact forall_mem_append.mpr ⟨hne, hne'⟩
  · rw [map_append, ← append_assoc, hm, append_assoc, hm', append_assoc]
  intro f
  have h1 := htot f
  have h2 := htot' f
  rw [flatten_append, total_append, total_append, total_append]
  omega

lemma Balanced.apply {u : SeqNumUnwrapper 32} {r : Reassembly ReassemblyStreams}
    {bytes released : Int} (h : r.Conserves heldWeight
      (fun f => q.streams.heldWeight f + total f added) dropped released) :
    Balanced q (apply { q with tsnUnwrapper := u } r bytes) added dropped [] := by
  obtain ⟨groups, hne, hm, -, htot⟩ := h
  refine ⟨groups, hne, ?_, ?_⟩
  · show _ = q.reassembledMessages ++ r.messages
    rw [hm]
  intro f
  have hrest := htot f
  have hheld : total f (ReassemblyQueue.apply { q with tsnUnwrapper := u } r bytes).held =
      total f r.state.held + total f q.deferredChunks := total_append ..
  simp only [heldWeight_eq] at hrest
  rw [hheld, held, total_append]
  omega

lemma Balanced.defer {d : DeferredResetStreams} {u : SeqNumUnwrapper 32}
    (bytes : BitVec 64) (hd : q.deferredResetStreams = some d) (action : DeferredAction) :
    Balanced q (defer { q with tsnUnwrapper := u, queuedBytes := bytes } action) action.chunks [] [] := by
  refine ⟨[], by simp, by simp [ReassemblyQueue.defer], ?_⟩
  intro f
  simp [held, ReassemblyQueue.defer, deferredChunks, hd]
  omega

lemma add_balanced (q : ReassemblyQueue) (tsn : TSN) (data : Data) :
    Balanced q (q.add tsn data) [data] (q.addDiscards tsn data) [] := by
  have hsame : defers { q with tsnUnwrapper := (q.tsnUnwrapper.unwrap tsn).2 }
      (q.tsnUnwrapper.unwrap tsn).1 data.streamId =
      q.defers (q.tsnUnwrapper.peekUnwrap tsn) data.streamId := rfl
  unfold add addDiscards
  dsimp only
  by_cases hdef : q.defers (q.tsnUnwrapper.peekUnwrap tsn) data.streamId = true
  · obtain ⟨d, hd⟩ := isSome_of_defers hdef
    rw [if_pos hdef, if_pos (hsame.trans hdef)]
    exact Balanced.defer _ hd (.add tsn data)
  · rw [if_neg hdef, if_neg (hsame ▸ hdef)]
    exact Balanced.apply ((q.streams.add_conserves _ data).of_eq rfl rfl (fun f => by simp) fun _ _ _ => rfl)

lemma handleForwardTsn_balanced (q : ReassemblyQueue) (tsn : TSN) (skips : List SkippedStream) :
    Balanced q (q.handleForwardTsn tsn skips) [] (q.forwardDiscards tsn skips) [] := by
  have hhan : ∀ bytes, Balanced q
      (apply { q with tsnUnwrapper := (q.tsnUnwrapper.unwrap tsn).2 }
        (q.streams.handleForwardTsn (q.tsnUnwrapper.unwrap tsn).1 skips) bytes)
      [] (q.streams.skipped (q.tsnUnwrapper.peekUnwrap tsn) skips) [] := by
    intro bytes
    exact Balanced.apply ((q.streams.handleForwardTsn_conserves _ skips).of_eq rfl rfl
      (fun f => by simp) fun _ _ _ => rfl)
  unfold handleForwardTsn forwardDiscards
  have hdefer : ∀ d, q.deferredResetStreams = some d → Balanced q
      (defer { q with tsnUnwrapper := (q.tsnUnwrapper.unwrap tsn).2 }
        (.handleForwardTsn tsn skips)) [] [] [] :=
    fun d hd => Balanced.defer q.queuedBytes hd (.handleForwardTsn tsn skips)
  cases hd : q.deferredResetStreams with
  | none =>
    rw [hd] at hhan
    exact hhan _
  | some d =>
    have hdefer := hdefer d hd
    rw [hd] at hhan hdefer
    dsimp only
    have hsame : d.senderLastAssignedTsn < (q.tsnUnwrapper.unwrap tsn).1 ↔
        d.senderLastAssignedTsn < q.tsnUnwrapper.peekUnwrap tsn := Iff.rfl
    by_cases hlat : d.senderLastAssignedTsn < q.tsnUnwrapper.peekUnwrap tsn
    · rw [if_pos hlat, if_pos (hsame.mpr hlat)]
      exact hdefer
    rw [if_neg hlat, if_neg (mt hsame.mp hlat)]
    exact hhan _

lemma runAction_balanced (q : ReassemblyQueue) (action : DeferredAction) :
    Balanced q (q.runAction action) action.chunks (q.actionDiscards action) [] := by
  cases action with
  | add tsn data =>
    exact add_balanced { q with queuedBytes := q.queuedBytes - BitVec.ofNat 64 data.size } tsn data
  | handleForwardTsn tsn skippedStreams => exact q.handleForwardTsn_balanced tsn skippedStreams

lemma foldl_runAction_balanced (actions : List DeferredAction) (q : ReassemblyQueue) :
    Balanced q (actions.foldl runAction q) (actions.flatMap chunks)
      (q.actionsDiscard actions) [] := by
  induction actions generalizing q with
  | nil => exact .refl q
  | cons action rest ih => exact (q.runAction_balanced action).trans (ih (q.runAction action))

lemma resetStreamsAndLeaveDeferredReset_balanced (q : ReassemblyQueue) (sids : List StreamID) :
    Balanced q (q.resetStreamsAndLeaveDeferredReset sids) []
      (q.discardedBy (.resetStreamsAndLeaveDeferredReset sids)) [] := by
  have hstrs : ∀ f, total f (q.streams.resetStreams sids).held = total f q.streams.held := by
    intro f
    rw [← heldWeight_eq, heldWeight_resetStreams, heldWeight_eq]
  unfold resetStreamsAndLeaveDeferredReset discardedBy
  cases hd : q.deferredResetStreams with
  | none =>
    refine ⟨[], by simp, by simp, ?_⟩
    intro f
    simp [held, deferredChunks, hd, hstrs f]
  | some d =>
    obtain ⟨groups, hne, hm, htot⟩ := foldl_runAction_balanced d.deferredActions
      { q with streams := q.streams.resetStreams sids, deferredResetStreams := none }
    refine ⟨groups, hne, hm, ?_⟩
    intro f
    have hrest := htot f
    have hbef : total f q.held = total f (held { q with
        streams := q.streams.resetStreams sids, deferredResetStreams := none }) +
        total f (d.deferredActions.flatMap chunks) := by
      simp [held, deferredChunks, hd, hstrs f]
    rw [total_nil, hbef]
    exact hrest

lemma perform_balanced (q : ReassemblyQueue) (op : Operation) :
    Balanced q (q.perform op) op.accepted (q.discardedBy op) (q.takenBy op) := by
  cases op with
  | add tsn data => exact q.add_balanced tsn data
  | handleForwardTsn tsn skippedStreams => exact q.handleForwardTsn_balanced tsn skippedStreams
  | enterDeferredReset tsn streams =>
    show Balanced q (q.enterDeferredReset tsn streams) [] [] []
    unfold enterDeferredReset
    cases hd : q.deferredResetStreams with
    | some d => exact .refl q
    | none => exact ⟨[], by simp, by simp, fun f => by simp [held, deferredChunks, hd]⟩
  | resetStreamsAndLeaveDeferredReset streamIds =>
    exact q.resetStreamsAndLeaveDeferredReset_balanced streamIds
  | getNextMessage =>
    show Balanced q q.getNextMessage.2 [] [] q.getNextMessage.1.toList
    unfold getNextMessage
    cases hm : q.reassembledMessages with
    | nil => exact .refl q
    | cons m rest => exact ⟨[], by simp, by simp [hm], fun f => by simp [held, deferredChunks]⟩

lemma run_balanced (ops : List Operation) (q : ReassemblyQueue) :
    Balanced q (run perform q ops) (accepted ops) (q.discarded ops) (q.taken ops) := by
  induction ops generalizing q with
  | nil => exact .refl q
  | cons op ops ih => exact (q.perform_balanced op).trans (ih (q.perform op))

structure Blank (q : ReassemblyQueue) : Prop where
  held : q.held = []
  messages : q.reassembledMessages = []

lemma blank_new (maxSize : Nat) (inter : Bool) :
    (new maxSize inter).Blank := by
  cases inter <;> exact ⟨rfl, rfl⟩

lemma ledger_balances (h : q.Blank) (ops : List Operation) :
    ∃ groups : List (List Data), (∀ g ∈ groups, g ≠ []) ∧
      q.taken ops ++ (run perform q ops).reassembledMessages = groups.map assembled ∧
      (accepted ops).Perm (groups.flatten ++ (run perform q ops).held ++ q.discarded ops) := by
  obtain ⟨groups, hne, hm, htot⟩ := run_balanced ops q
  rw [h.messages, nil_append] at hm
  refine ⟨groups, hne, hm.symm, perm_of_total ?_⟩
  intro f
  have hrest := htot f
  rw [h.held, total_nil] at hrest
  rw [total_append, total_append]
  omega

end ReassemblyQueue

end WebRtc.Dcsctp
