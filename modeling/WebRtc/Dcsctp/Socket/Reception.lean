import WebRtc.Dcsctp.Socket.Transitions
import WebRtc.Dcsctp.Socket.Handover

/-!
# dcSCTP — what a socket does to its reassembly queue

The calls that a socket makes of its reassembly queue, recorded from the moment the association
began. In every run the queue is what the recorded calls make of the one with which the association
began (`recorded_run`); the other functions of the socket leave the queue alone.
-/

namespace WebRtc.Dcsctp

open Lib ReassemblyQueue List OrdMap ReassemblyStreams

/-! ## The kind of streams -/

namespace ReassemblyStreams

def isInterleaved : ReassemblyStreams → Bool
  | .traditional _ => false
  | .interleaved _ => true

variable (t : ReassemblyStreams)

@[simp] lemma isInterleaved_add (tsn : Int) (data : Data) :
    (t.add tsn data).state.isInterleaved = t.isInterleaved := by
  cases t <;> rfl

@[simp] lemma isInterleaved_handleForwardTsn (tsn : Int) (skips : List SkippedStream) :
    (t.handleForwardTsn tsn skips).state.isInterleaved = t.isInterleaved := by
  cases t <;> rfl

@[simp] lemma isInterleaved_resetStreams (sids : List StreamID) :
    (t.resetStreams sids).isInterleaved = t.isInterleaved := by
  cases t <;> rfl

@[simp] lemma isInterleaved_restoreFromState (state : HandoverState) :
    (t.restoreFromState state).isInterleaved = t.isInterleaved := by
  cases t <;> rfl

@[simp] lemma isInterleaved_create (useMessageInterleaving : Bool) :
    (create useMessageInterleaving).isInterleaved = useMessageInterleaving := by
  cases useMessageInterleaving <;> rfl

end ReassemblyStreams

namespace ReassemblyQueue

variable (q : ReassemblyQueue)

lemma isInterleaved_add (tsn : TSN) (data : Data) :
    (q.add tsn data).streams.isInterleaved = q.streams.isInterleaved := by
  unfold add
  dsimp only
  split
  · rfl
  · simp [apply]

lemma isInterleaved_handleForwardTsn (tsn : TSN) (skips : List SkippedStream) :
    (q.handleForwardTsn tsn skips).streams.isInterleaved = q.streams.isInterleaved := by
  unfold handleForwardTsn
  dsimp only
  split
  · split
    · rfl
    · simp [apply]
  · simp [apply]

lemma isInterleaved_runAction (action : DeferredAction) :
    (q.runAction action).streams.isInterleaved = q.streams.isInterleaved := by
  cases action with
  | add tsn data => exact isInterleaved_add _ tsn data
  | handleForwardTsn tsn skippedStreams => exact q.isInterleaved_handleForwardTsn tsn skippedStreams

lemma isInterleaved_perform (op : Operation) :
    (q.perform op).streams.isInterleaved = q.streams.isInterleaved := by
  cases op with
  | add tsn data => exact q.isInterleaved_add tsn data
  | handleForwardTsn tsn skippedStreams => exact q.isInterleaved_handleForwardTsn tsn skippedStreams
  | enterDeferredReset tsn streams =>
    show (q.enterDeferredReset tsn streams).streams.isInterleaved = _
    unfold enterDeferredReset
    split <;> rfl
  | resetStreamsAndLeaveDeferredReset streamIds =>
    show (q.resetStreamsAndLeaveDeferredReset streamIds).streams.isInterleaved = _
    unfold resetStreamsAndLeaveDeferredReset
    dsimp only
    split
    · simp
    have hstep : ∀ q' action, q'.streams.isInterleaved = q.streams.isInterleaved →
        (runAction q' action).streams.isInterleaved = q.streams.isInterleaved :=
      fun q' action hq' => (q'.isInterleaved_runAction action).trans hq'
    exact run_induction hstep _ (by simp)
  | getNextMessage =>
    show q.getNextMessage.2.streams.isInterleaved = _
    unfold getNextMessage
    split <;> rfl

end ReassemblyQueue

/-! ## The record -/

namespace DcSctpSocket

/-- The queue with which an association began, and the calls made of it since. -/
structure Record where
  base : ReassemblyQueue
  ops : List Operation

namespace Record

def start (s : DcSctpSocket) : Record :=
  ⟨(s.tcb.map TransmissionControlBlock.reassemblyQueue).getD (.new 0 false), []⟩

def push (r : Record) (calls : List Operation) : Record := { r with ops := r.ops ++ calls }

/-- The record after a step from `s` to `s'`: a new association has a new one. -/
def after (r : Record) (s s' : DcSctpSocket) (calls : List Operation) : Record :=
  if s'.associations = s.associations then r.push calls else start s'

end Record

def recordAfterAll (now : Timestamp) (verificationTag : VerificationTag) :
    List Chunk → DcSctpSocket → Record → Record
  | [], _, r => r
  | c :: cs, s, r =>
    let r := r.after s (s.dispatch now verificationTag c).2 (s.chunkOps c)
    match s.dispatch now verificationTag c with
    | (true, s) => recordAfterAll now verificationTag cs s r
    | (false, _) => r

def recordAfter (s : DcSctpSocket) (r : Record) (e : Event) : Record :=
  match e.2 with
  | .getNextMessage => if s.tcb.isSome then r.push [.getNextMessage] else r
  | .receivePacket (some p) =>
    match s.packetError p with
    | some _ => r
    | none =>
      recordAfterAll e.1 p.verificationTag p.chunks (s.maybeSendShutdownOnPacketReceived p) r
  | _ => r

def recordingStep (sr : DcSctpSocket × Record) (e : Event) : DcSctpSocket × Record :=
  (sr.1.step e, sr.1.recordAfter sr.2 e)

def record (s : DcSctpSocket) (evs : List Event) : Record := (run recordingStep (s, .start s) evs).2

lemma fst_run_recordingStep (evs : List Event) (s : DcSctpSocket) (r : Record) :
    (run recordingStep (s, r) evs).1 = run step s evs := by
  induction evs generalizing s r with
  | nil => rfl
  | cons e evs ih => exact ih _ _

/-! ## Runs -/

/-- The queue is what the recorded calls make of the one with which the association began, which
had no chunks; and no chunk without data was handed to it. -/
structure Recorded (s : DcSctpSocket) (r : Record) : Prop where
  queue : ∀ t, s.tcb = some t → t.reassemblyQueue = run perform r.base r.ops
  kind : ∀ t, s.tcb = some t → t.reassemblyQueue.streams.isInterleaved =
    t.capabilities.messageInterleaving
  blank : r.base.Blank
  payloads : ∀ d ∈ accepted r.ops, d.payload ≠ []

variable {ok : DcSctpSocket → VerificationTag → Chunk → Prop} {s s' : DcSctpSocket} {r : Record}
  {ops : List Operation}

lemma Recorded.move (h : s.Recorded r) (hpayloads : ∀ d ∈ accepted ops, d.payload ≠ [])
    (hmove : Move ok s s' (some ops)) : s'.Recorded (r.push ops) := by
  obtain ⟨-, htcb⟩ := hmove.works_on
  refine ⟨?_, ?_, h.blank, ?_⟩
  · intro t' ht'
    obtain ⟨t, ht, hevol, -⟩ := htcb t' ht'
    rw [hevol.queue, h.queue t ht]
    exact (run_append perform r.base r.ops ops).symm
  · intro t' ht'
    obtain ⟨t, ht, hevol, -⟩ := htcb t' ht'
    rw [hevol.same, ← h.kind t ht, hevol.queue]
    have hstep : ∀ q op, q.streams.isInterleaved = t.reassemblyQueue.streams.isInterleaved →
        (perform q op).streams.isInterleaved = t.reassemblyQueue.streams.isInterleaved :=
      fun q op hq => (isInterleaved_perform q op).trans hq
    exact run_induction (P := fun q : ReassemblyQueue => q.streams.isInterleaved = _) hstep ops rfl
  · intro d hd
    rw [Record.push, accepted_append] at hd
    rcases mem_append.mp hd with hd | hd
    · exact h.payloads d hd
    · exact hpayloads d hd

lemma Recorded.moves (h : s.Recorded r) (hmv : Moves ok s s') :
    s'.Recorded r ∧ s'.associations = s.associations := by
  induction hmv with
  | refl => exact ⟨h, rfl⟩
  | tail _ hmove ih =>
    have hpush := ih.1.move (by simp [accepted]) hmove
    rw [show r.push [] = r by simp [Record.push]] at hpush
    exact ⟨hpush, hmove.works_on.1.trans ih.2⟩

lemma recorded_of_begins (hmove : Move ok s s' none) : s'.Recorded (.start s') := by
  obtain ⟨-, t, ht, hfresh⟩ := hmove.begins
  have hself (P : TransmissionControlBlock → Prop) (h : P t) : ∀ t', s'.tcb = some t' → P t' :=
    fun t' ht' => Option.some.inj (ht.symm.trans ht') ▸ h
  have hstart : Record.start s' = ⟨t.reassemblyQueue, []⟩ := by simp [Record.start, ht]
  rw [hstart]
  refine ⟨hself _ rfl, hself _ ?_, ?_, by simp [accepted]⟩
  · rw [hfresh.queue]
    cases t.capabilities.messageInterleaving <;> rfl
  rw [hfresh.queue]
  exact blank_new _ _

lemma Recorded.handles (h : s.Recorded r) (hpayloads : ∀ d ∈ accepted ops, d.payload ≠ [])
    (hhdl : Handles ok s s' ops) : s'.Recorded (r.after s s' ops) := by
  unfold Record.after
  cases hhdl with
  | calls hmove =>
    have hsame : s'.associations = s.associations := hmove.works_on.1
    rw [if_pos hsame]
    exact h.move hpayloads hmove
  | silent hmv =>
    obtain ⟨hrec, hsame⟩ := h.moves hmv
    rw [if_pos hsame, show r.push [] = r by simp [Record.push]]
    exact hrec
  | begins hmove =>
    have hnew : s'.associations ≠ s.associations := by
      have : s'.associations = s.associations + 1 := hmove.begins.1
      omega
    rw [if_neg hnew]
    exact recorded_of_begins hmove

lemma payload_of_acceptsData {t : TransmissionControlBlock} {tsn : TSN} {data : Data}
    {imm : Bool} (h : acceptsData t tsn data imm = true) : data.payload ≠ [] := by
  simp only [acceptsData, Bool.and_eq_true, Bool.not_eq_true', isEmpty_eq_false_iff] at h
  exact h.1.1.1.1

lemma payload_of_mem_chunkOps (s : DcSctpSocket) (c : Chunk) :
    ∀ d ∈ accepted (s.chunkOps c), d.payload ≠ [] := by
  intro d hd
  unfold chunkOps at hd
  cases ha : s.association? with
  | none => simp [ha, accepted] at hd
  | some a =>
    rw [ha] at hd
    cases c with
    | data tsn data immediateAck | iData tsn data immediateAck =>
      simp only [associationOps] at hd
      split at hd
      · rename_i haccepts
        rw [accepted_thenDeliver] at hd
        obtain rfl : d = data := by simpa [accepted, Operation.accepted] using hd
        exact payload_of_acceptsData haccepts
      · simp [accepted] at hd
    | forwardTsn chunk | iForwardTsn chunk =>
      simp only [associationOps] at hd
      split at hd
      · rw [accepted_thenDeliver] at hd
        split at hd <;> simp [accepted, Operation.accepted] at hd
      · simp [accepted] at hd
    | reConfig parameters =>
      simp only [associationOps] at hd
      rw [accepted_thenDeliver, (StreamResetHandler.handleReConfig_calls _ _ _ _ _).2] at hd
      simp at hd
    | _ => simp [associationOps, accepted] at hd

lemma recorded_dispatchAll (now : Timestamp) (tag : VerificationTag) (cs : List Chunk)
    (h : s.Recorded r) :
    (dispatchAll now tag cs s).Recorded (recordAfterAll now tag cs s r) := by
  induction cs generalizing s r with
  | nil => exact h
  | cons c cs ih =>
    have hhdl : Handles (fun _ _ _ => True) s (s.dispatch now tag c).2 (s.chunkOps c) :=
      dispatch_handles trivial now
    have hrec := h.handles (s.payload_of_mem_chunkOps c) hhdl
    unfold dispatchAll recordAfterAll
    cases hdispatch : s.dispatch now tag c with
    | mk continues s' =>
      rw [hdispatch] at hrec
      cases continues with
      | true => exact ih hrec
      | false => exact hrec

lemma recorded_step (h : s.Recorded r) (e : Event) :
    (s.step e).Recorded (s.recordAfter r e) := by
  have hkeep {s s' : DcSctpSocket} {r : Record} (h : s.Recorded r)
      (hmv : Moves (fun _ _ _ => True) s s') : s'.Recorded r := (h.moves hmv).1
  obtain ⟨now, call⟩ := e
  cases call with
  | connect => exact hkeep h s.connect_moves
  | shutdown => exact hkeep h s.shutdown_moves
  | close => exact hkeep h s.close_moves
  | send message sendOptions => exact hkeep h (s.send_moves now message sendOptions)
  | sendMany messages sendOptions => exact hkeep h (s.sendMany_moves now messages sendOptions)
  | resetStreams outgoingStreams => exact hkeep h (s.resetStreams_moves outgoingStreams)
  | getNextMessage =>
    show s.getNextMessage.2.Recorded (if s.tcb.isSome then r.push [.getNextMessage] else r)
    have hsame : s.getNextMessage.2.associations = s.associations := by
      unfold getNextMessage
      split <;> rfl
    have hhdl : Handles (fun _ _ _ => True) s s.getNextMessage.2 _ := s.getNextMessage_handles
    have hrec := h.handles (by split <;> simp [accepted, Operation.accepted]) hhdl
    rw [Record.after, if_pos hsame] at hrec
    split
    · rwa [if_pos ‹_›] at hrec
    · rwa [if_neg ‹_›, show r.push [] = r by simp [Record.push]] at hrec
  | setMaxMessageSize maxMessageSize | setStreamPriority streamId priority
  | setBufferedAmountLowThreshold streamId bytes => exact hkeep h (.single (.of_eq rfl rfl))
  | handleTimeout id => exact hkeep h (s.handleTimeout_moves now id)
  | receivePacket packet =>
    cases packet with
    | none => exact hkeep h (.single (onError_move s _ _))
    | some p =>
      show (s.receivePacket now (some p)).Recorded (match s.packetError p with
        | some _ => r
        | none => recordAfterAll now p.verificationTag p.chunks
            (s.maybeSendShutdownOnPacketReceived p) r)
      unfold receivePacket
      dsimp only
      cases s.packetError p with
      | some text => exact hkeep h (.single (onError_move s _ _))
      | none =>
        exact hkeep (recorded_dispatchAll now p.verificationTag p.chunks
          (hkeep h (s.maybeSendShutdownOnPacketReceived_moves p)))
          (.single (withTcb_move _ Association.finishPacket_acts))

lemma recorded_run (h : s.Recorded (.start s)) (evs : List Event) :
    (run step s evs).Recorded (s.record evs) := by
  have hrun : (run recordingStep (s, .start s) evs).1.Recorded
      (run recordingStep (s, .start s) evs).2 :=
    run_induction (P := fun sr : DcSctpSocket × Record => sr.1.Recorded sr.2)
      (fun sr e hr => recorded_step hr e) evs h
  rwa [fst_run_recordingStep] at hrun

/-- A socket before anything happened to it: new, or restored as soon as it was created. -/
def Initial (options : DcSctpOptions) (random : Nat → Nat) (canSend : Nat → Bool) (s : DcSctpSocket) :
    Prop :=
  s = new options random canSend ∨ ∃ state, s = (new options random canSend).restoreFromState state

lemma blank_restoreFromState (maxSize : Nat) (inter : Bool) (state : HandoverState) :
    ((ReassemblyQueue.new maxSize inter).restoreFromState state).Blank := by
  refine ⟨?_, rfl⟩
  show (ReassemblyStreams.restoreFromState (.create inter) state).held ++ [] = []
  rw [append_nil]
  cases inter with
  | false =>
    show flatMap _ (values _) ++ flatMap _ (values _) = []
    rw [append_eq_nil_iff, flatMap_eq_nil_iff, flatMap_eq_nil_iff]
    constructor
    · intro s hs
      obtain ⟨p, hp, rfl⟩ := mem_map.mp hs
      rcases mem_foldl_emplace hp with hp | ⟨sid, -, hp⟩
      · cases hp
      rw [hp]
      rfl
    intro s hs
    obtain ⟨p, hp, rfl⟩ := mem_map.mp hs
    rcases mem_foldl_emplace hp with hp | ⟨e, -, hp⟩
    · cases hp
    rw [hp]
    rfl
  | true =>
    show flatMap _ (values _) = []
    rw [flatMap_eq_nil_iff]
    intro s hs
    obtain ⟨p, hp, rfl⟩ := mem_map.mp hs
    rcases mem_foldl_emplace hp with hp | ⟨sid, -, hp⟩
    · rcases mem_foldl_emplace hp with hp | ⟨e, -, hp⟩
      · cases hp
      rw [hp]
      rfl
    · rw [hp]
      rfl

variable {options : DcSctpOptions} {canSend : Nat → Bool} {random : Nat → Nat}

lemma tcb_restoreFromState_new {state : HandoverState} {t : TransmissionControlBlock}
    (ht : ((new options random canSend).restoreFromState state).tcb = some t) :
    t.capabilities = state.capabilities ∧
      t.reassemblyQueue = (ReassemblyQueue.new options.maxReceiverWindowBufferSize
        state.capabilities.messageInterleaving).restoreFromState state := by
  unfold restoreFromState at ht
  rw [if_neg (by simp [new])] at ht
  split at ht
  · cases ht
    exact ⟨rfl, rfl⟩
  · cases ht

lemma Initial.recorded (h : s.Initial options random canSend) : s.Recorded (.start s) := by
  rcases h with rfl | ⟨state, rfl⟩
  · refine ⟨?_, ?_, blank_new 0 false, by simp [Record.start, accepted]⟩ <;>
      (intro t ht; cases ht)
  refine ⟨?_, ?_, ?_, by simp [Record.start, accepted]⟩
  · intro t ht
    simp [Record.start, ht]
  · intro t ht
    obtain ⟨hcaps, hq⟩ := tcb_restoreFromState_new ht
    rw [hcaps, hq]
    exact (isInterleaved_restoreFromState _ _).trans (isInterleaved_create _)
  cases ht : ((new options random canSend).restoreFromState state).tcb with
  | none =>
    rw [Record.start, ht]
    exact blank_new 0 false
  | some t =>
    rw [Record.start, ht, Option.map_some, Option.getD_some, (tcb_restoreFromState_new ht).2]
    exact blank_restoreFromState _ _ _

end DcSctpSocket

end WebRtc.Dcsctp
