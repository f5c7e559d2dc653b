import WebRtc.Dcsctp.Socket.AssociationFrame

/-!
# dcSCTP — the transitions of a socket

`Move` says what one step of `DcSctpSocket` can do to its state, its timers and its TCB; every
invariant over runs is proved by its cases, since each event is a sequence of moves (`step_reaches`).
Two moves depend on the chunk that is handled, so `Move` carries the condition that chunks meet in
the state in which they are dispatched (`EventOk`).
-/

namespace WebRtc.Dcsctp

open Lib ReassemblyQueue Association ChunkValidators RetransmissionQueue Option

namespace DcSctpSocket

structure Control where
  pullMode : Bool
  window : Nat
  state : SocketState
  t1Init : Bool
  t1Cookie : Bool
  t2Shutdown : Bool
  associations : Nat
  shutdownChecks : List OutstandingData

def control (s : DcSctpSocket) : Control :=
  { pullMode := s.options.enableReceivePullMode
    window := s.options.maxReceiverWindowBufferSize
    state := s.state
    t1Init := s.t1Init.isRunning
    t1Cookie := s.t1Cookie.isRunning
    t2Shutdown := s.t2Shutdown.isRunning
    associations := s.associations
    shutdownChecks := s.shutdownChecks }

structure FreshTcb (c : Control) (t : TransmissionControlBlock) : Prop where
  queue : t.reassemblyQueue = .new c.window t.capabilities.messageInterleaving
  delivered : t.reassemblyQueue.Delivered c.pullMode
  books : t.retransmissionQueue.Booked
  format : t.Formatted

def acceptsData (tcb : TransmissionControlBlock) (tsn : TSN) (data : Data) (immediateAck : Bool) :
    Bool :=
  !data.payload.isEmpty && !tcb.reassemblyQueue.isFull &&
    !(tcb.reassemblyQueue.isAboveWatermark && !tcb.dataTracker.willIncreaseCumAckTsn tsn) &&
    tcb.dataTracker.isTSNValid tsn && (tcb.dataTracker.observe tsn immediateAck).1

def storedBy (tcb : TransmissionControlBlock) : Chunk → Option Data
  | .data tsn data immediateAck | .iData tsn data immediateAck =>
    if acceptsData tcb tsn data immediateAck then some data else none
  | _ => none

/-- What a step can do, where `ok` holds of the chunks that are handled, and the calls it makes of
the reassembly queue, unless that is the one of a new association. -/
inductive Move (ok : DcSctpSocket → VerificationTag → Chunk → Prop) (s s' : DcSctpSocket) :
    Option (List Operation) → Prop
  -- Anything but receiving data or changing the state.
  | works {ops : List Operation} (hops : accepted ops = []) (hcontrol : s'.control = s.control)
      (htcb : Option.Rel (Works s.control.pullMode ops) s.tcb s'.tcb) : Move ok s s' (some ops)
  -- `ReassemblyQueue::Add`.
  | stores {ops : List Operation} {tag : VerificationTag} {c : Chunk} {data : Data}
      {t t' : TransmissionControlBlock} (hops : accepted ops = [data]) (hok : ok s tag c) (hcontrol : s'.control = s.control) (ht : s.tcb = some t)
      (hdata : storedBy t c = some data) (ht' : s'.tcb = some t')
      (htcb : Works s.control.pullMode ops t t') : Move ok s s' (some ops)
  -- A timer of a closed socket expires for the last time.
  | expires {t1Init t1Cookie t2Shutdown : Bool} (hstate : s.state = .closed)
      (hcontrol : s'.control =
        { s.control with
          t1Init := s.control.t1Init && t1Init
          t1Cookie := s.control.t1Cookie && t1Cookie
          t2Shutdown := s.control.t2Shutdown && t2Shutdown })
      (htcb : s'.tcb = s.tcb) : Move ok s s' (some [])
  | closes
      (hcontrol : s'.control =
        { s.control with state := .closed, t1Init := false, t1Cookie := false, t2Shutdown := false })
      (htcb : s'.tcb = none) : Move ok s s' (some [])
  | connects (hstate : s.state = .closed)
      (hcontrol : s'.control = { s.control with state := .cookieWait, t1Init := true })
      (htcb : s'.tcb = s.tcb) : Move ok s s' (some [])
  | echoesCookie {t' : TransmissionControlBlock} (hstate : s.state = .cookieWait)
      (hcontrol : s'.control =
        { s.control with
          state := .cookieEchoed, t1Init := false, t1Cookie := true
          associations := s.control.associations + 1 })
      (htcb : s'.tcb = some t') (hfresh : FreshTcb s.control t')
      (hcookie : t'.cookieEchoChunk.isSome = true) : Move ok s s' none
  | receivesCookieAck (hstate : s.state = .cookieEchoed)
      (hcontrol : s'.control = { s.control with state := .established, t1Cookie := false })
      (htcb : Option.Rel (TcbEvolves s.control.pullMode []) s.tcb s'.tcb) : Move ok s s' (some [])
  -- A COOKIE-ECHO is accepted; the association stays.
  | staysEstablished {tag : VerificationTag} {cookie : Cookie} {c : StateCookie}
      {t t' : TransmissionControlBlock}
      (hok : ok s tag (.cookieEcho cookie)) (hc : cookie.deserialized = some c) (ht : s.tcb = some t)
      (hcase : cookieCase t tag c = .duplicate ∨ cookieCase t tag c = .other)
      (hcontrol : s'.control =
        { s.control with state := .established, t1Init := false, t1Cookie := false })
      (ht' : s'.tcb = some t') (htcb : TcbEvolves s.control.pullMode [] t t') : Move ok s s' (some [])
  -- A COOKIE-ECHO is accepted; there is a new association.
  | establishes {tag : VerificationTag} {cookie : Cookie} {c : StateCookie}
      {t' : TransmissionControlBlock}
      (hok : ok s tag (.cookieEcho cookie)) (hc : cookie.deserialized = some c)
      (hcase : ∀ t, s.tcb = some t →
        (cookieCase t tag c = .restarted ∧ s.state ≠ .shutdownAckSent) ∨
          cookieCase t tag c = .simultaneous)
      (hcontrol : s'.control =
        { s.control with
          state := .established, t1Init := false, t1Cookie := false
          associations := s.control.associations + 1 })
      (htcb : s'.tcb = some t') (hfresh : FreshTcb s.control t') : Move ok s s' none
  | startsShutdown (hstate : s.state ≠ .shutdownSent ∧ s.state ≠ .shutdownAckSent)
      (hcontrol : s'.control =
        { s.control with state := .shutdownPending, t1Init := false, t1Cookie := false })
      (hsome : s.tcb.isSome = true) (htcb : s'.tcb = s.tcb) : Move ok s s' (some [])
  | receivesShutdown (hstate : s.state = .established ∨ s.state = .shutdownPending)
      (hcontrol : s'.control = { s.control with state := .shutdownReceived })
      (htcb : s'.tcb = s.tcb) : Move ok s s' (some [])
  -- `MaybeSendShutdownOrAck` found nothing unacked.
  | passesCheck {o : OutstandingData} {t t' : TransmissionControlBlock} {state : SocketState}
      (hstate : (s.state = .shutdownPending ∧ state = .shutdownSent) ∨
        (s.state = .shutdownReceived ∧ state = .shutdownAckSent))
      (hcontrol : s'.control =
        { s.control with
          state, t2Shutdown := true, shutdownChecks := s.control.shutdownChecks ++ [o] })
      (hnone : o.unackedItems = 0) (hbooks : t.retransmissionQueue.Booked → o.Bookkeeping)
      (ht : s.tcb = some t) (ht' : s'.tcb = some t') (htcb : Works s.control.pullMode [] t t') :
      Move ok s s' (some [])
  -- A SHUTDOWN crosses ours.
  | crossesShutdown (hstate : s.state = .shutdownSent)
      (hcontrol : s'.control = { s.control with state := .shutdownAckSent, t2Shutdown := true })
      (htcb : s'.tcb = s.tcb) : Move ok s s' (some [])
  | rearmsShutdownTimer (hstate : s.state = .shutdownSent ∨ s.state = .shutdownAckSent)
      (hcontrol : s'.control = { s.control with t2Shutdown := true })
      (htcb : s'.tcb = s.tcb) : Move ok s s' (some [])

/-- A sequence of moves that make no call of the reassembly queue. -/
abbrev Moves (ok : DcSctpSocket → VerificationTag → Chunk → Prop) :
    DcSctpSocket → DcSctpSocket → Prop := Relation.ReflTransGen fun s s' => Move ok s s' (some [])

/-- A move that makes these calls, or moves that make none, or a new association. -/
inductive Handles (ok : DcSctpSocket → VerificationTag → Chunk → Prop) (s s' : DcSctpSocket) :
    List Operation → Prop
  | calls {ops : List Operation} (h : Move ok s s' (some ops)) : Handles ok s s' ops
  | silent (h : Moves ok s s') : Handles ok s s' []
  | begins (h : Move ok s s' none) : Handles ok s s' []

abbrev Reaches (ok : DcSctpSocket → VerificationTag → Chunk → Prop) :
    DcSctpSocket → DcSctpSocket → Prop :=
  Relation.ReflTransGen fun s s' => ∃ calls, Move ok s s' calls

section Origin

variable {ok : DcSctpSocket → VerificationTag → Chunk → Prop} {s s' : DcSctpSocket}
  {calls : Option (List Operation)} {ops : List Operation}

lemma Reaches.induction {P : DcSctpSocket → Prop}
    (hmove : ∀ s s' calls, Move ok s s' calls → P s → P s') (h : Reaches ok s s') (hs : P s) :
    P s' := by
  induction h with
  | refl => exact hs
  | tail _ hlast ih => exact hmove _ _ _ hlast.choose_spec ih

lemma Moves.reaches (h : Moves ok s s') : Reaches ok s s' :=
  Relation.ReflTransGen.mono (fun _ _ hmove => ⟨_, hmove⟩) _ _ h

lemma Handles.reaches (h : Handles ok s s' ops) : Reaches ok s s' := by
  cases h with
  | calls h | begins h => exact .single ⟨_, h⟩
  | silent h => exact h.reaches

lemma Move.works_on (hmove : Move ok s s' (some ops)) :
    s'.control.associations = s.control.associations ∧ ∀ t', s'.tcb = some t' →
      ∃ t, s.tcb = some t ∧ TcbEvolves s.control.pullMode ops t t' ∧
        (accepted ops = [] ∨
          ∃ tag c data, ok s tag c ∧ storedBy t c = some data ∧ accepted ops = [data]) := by
  have hrel {ops : List Operation} {R : TransmissionControlBlock → TransmissionControlBlock → Prop}
      (hR : ∀ t t', R t t' → TcbEvolves s.control.pullMode ops t t') (hops : accepted ops = [])
      (h : Option.Rel R s.tcb s'.tcb) (t' : TransmissionControlBlock) (ht' : s'.tcb = some t') :
      ∃ t, s.tcb = some t ∧ TcbEvolves s.control.pullMode ops t t' ∧
        (accepted ops = [] ∨
          ∃ tag c data, ok s tag c ∧ storedBy t c = some data ∧ accepted ops = [data]) := by
    rw [ht'] at h
    generalize s.tcb = o at h
    cases h with
    | some hr => exact ⟨_, rfl, hR _ _ hr, .inl hops⟩
  have hsame (h : s'.tcb = s.tcb) := hrel (R := Eq)
    (by rintro t _ rfl; exact .refl _ t) rfl (by rw [h]; cases s.tcb <;> constructor; rfl)
  cases hmove with
  | works hops hcontrol htcb =>
    exact ⟨by rw [hcontrol], hrel (fun _ _ hw => hw.toTcbEvolves) hops htcb⟩
  | stores hops hok hcontrol ht hdata ht' htcb =>
    refine ⟨by rw [hcontrol], fun t1 ht1 => ?_⟩
    obtain rfl := some.inj (ht1.symm.trans ht')
    exact ⟨_, ht, htcb.toTcbEvolves, .inr ⟨_, _, _, hok, hdata, hops⟩⟩
  | expires hstate hcontrol htcb | connects hstate hcontrol htcb =>
    exact ⟨by rw [hcontrol], hsame htcb⟩
  | closes hcontrol htcb =>
    exact ⟨by rw [hcontrol], fun _ ht' => absurd (ht'.symm.trans htcb) (by simp)⟩
  | receivesCookieAck hstate hcontrol htcb =>
    exact ⟨by rw [hcontrol], hrel (fun _ _ he => he) rfl htcb⟩
  | staysEstablished hok hc ht hcase hcontrol ht' htcb =>
    refine ⟨by rw [hcontrol], fun t1 ht1 => ?_⟩
    obtain rfl := some.inj (ht1.symm.trans ht')
    exact ⟨_, ht, htcb, .inl rfl⟩
  | startsShutdown hstate hcontrol hsome htcb | receivesShutdown hstate hcontrol htcb
  | crossesShutdown hstate hcontrol htcb | rearmsShutdownTimer hstate hcontrol htcb =>
    exact ⟨by rw [hcontrol], hsame htcb⟩
  | passesCheck hstate hcontrol hnone hbooks ht ht' htcb =>
    refine ⟨by rw [hcontrol], fun t1 ht1 => ?_⟩
    obtain rfl := some.inj (ht1.symm.trans ht')
    exact ⟨_, ht, htcb.toTcbEvolves, .inl rfl⟩

lemma Move.begins (hmove : Move ok s s' none) :
    s'.control.associations = s.control.associations + 1 ∧
      ∃ t', s'.tcb = some t' ∧ FreshTcb s.control t' := by
  cases hmove with
  | echoesCookie hstate hcontrol htcb hfresh hcookie
  | establishes hok hc hcase hcontrol htcb hfresh => exact ⟨by rw [hcontrol], _, htcb, hfresh⟩

/-- Where the TCB after a move comes from: it is new, or the old one after some work on it, which
may store the data of a chunk. -/
lemma Move.tcb_origin (hmove : Move ok s s' calls) {t' : TransmissionControlBlock}
    (ht' : s'.tcb = some t') :
    FreshTcb s.control t' ∨
      ∃ t ops, s.tcb = some t ∧ TcbEvolves s.control.pullMode ops t t' ∧
        (accepted ops = [] ∨
          ∃ tag c data, ok s tag c ∧ storedBy t c = some data ∧ accepted ops = [data]) := by
  cases calls with
  | none =>
    obtain ⟨-, t1, ht1, hfresh⟩ := hmove.begins
    exact .inl (some.inj (ht'.symm.trans ht1) ▸ hfresh)
  | some ops =>
    obtain ⟨t, ht⟩ := hmove.works_on.2 t' ht'
    exact .inr ⟨t, ops, ht⟩

lemma Move.settings (hmove : Move ok s s' calls) :
    s'.control.pullMode = s.control.pullMode ∧ s'.control.window = s.control.window := by
  cases hmove <;> simp only [*, and_self]

lemma Move.shutdownChecks (hmove : Move ok s s' calls) :
    s'.control.shutdownChecks = s.control.shutdownChecks ∨
      ∃ o t, s.tcb = some t ∧ s'.control.shutdownChecks = s.control.shutdownChecks ++ [o] ∧
        o.unackedItems = 0 ∧ (t.retransmissionQueue.Booked → o.Bookkeeping) := by
  cases hmove
  case passesCheck hstate hcontrol hnone hbooks ht ht1 htcb =>
    exact .inr ⟨_, _, ht, by rw [hcontrol], hnone, hbooks⟩
  all_goals exact .inl (by simp only [*])

end Origin

/-! ## Functions that change neither the control nor the TCB -/

section Frame

variable (s : DcSctpSocket)

@[simp] lemma control_callback (c : SocketCallback) : (s.callback c).control = s.control := rfl

@[simp] lemma tcb_callback (c : SocketCallback) : (s.callback c).tcb = s.tcb := rfl

@[simp] lemma control_sendInit : s.sendInit.control = s.control := rfl

@[simp] lemma control_setAssociation (a : Association) : (s.setAssociation a).control = s.control :=
  rfl

@[simp] lemma tcb_setAssociation (a : Association) : (s.setAssociation a).tcb = some a.tcb := rfl

@[simp] lemma control_sendToPeer (c : Chunk) : (s.sendToPeer c).control = s.control := by
  unfold sendToPeer
  split <;> rfl

@[simp] lemma tcb_sendToPeer (c : Chunk) : (s.sendToPeer c).tcb = s.tcb := by
  unfold sendToPeer
  split <;> rfl

@[simp] lemma control_sendShutdown : s.sendShutdown.control = s.control := by
  unfold sendShutdown
  split
  · rfl
  · exact control_sendToPeer _ _

@[simp] lemma tcb_sendShutdown : s.sendShutdown.tcb = s.tcb := by
  unfold sendShutdown
  split
  · rfl
  · exact tcb_sendToPeer _ _

@[simp] lemma control_withTcb (f : Association → Association) : (s.withTcb f).control = s.control := by
  unfold withTcb
  split <;> rfl

end Frame

/-! ## The moves of each function -/

section Functions

variable {ok : DcSctpSocket → VerificationTag → Chunk → Prop} (s : DcSctpSocket)

lemma rel_works_refl (pull : Bool) : ∀ t : Option TransmissionControlBlock,
    Option.Rel (Works pull []) t t
  | none => .none
  | some t => .some (.refl pull t)

lemma Move.of_eq {s s' : DcSctpSocket} (hcontrol : s'.control = s.control) (htcb : s'.tcb = s.tcb) :
    Move ok s s' (some []) := .works rfl hcontrol (htcb ▸ rel_works_refl _ _)

variable {a : Association} {tag : VerificationTag} {t : TransmissionControlBlock}

lemma setAssociation_move {s : DcSctpSocket}
    {ops : List Operation} (hops : accepted ops = []) (ht : s.tcb = some t)
    (h : Works s.control.pullMode ops t a.tcb) : Move ok s (s.setAssociation a) (some ops) := by
  refine .works hops (control_setAssociation s a) ?_
  rw [ht, tcb_setAssociation]
  exact .some h

lemma association?_eq_some {s : DcSctpSocket} (h : s.association? = some a) :
    s.tcb = some a.tcb := by
  obtain ⟨t, ht, rfl⟩ := map_eq_some_iff.mp h
  exact ht

lemma withTcb_move {f : Association → Association}
    (h : ∀ a, Acts a (f a)) : Move ok s (s.withTcb f) (some []) := by
  unfold withTcb
  split
  · exact .of_eq rfl rfl
  rename_i a ha
  exact setAssociation_move rfl (association?_eq_some ha) ((h a).works _)

variable (f : Association → Association) {c : Chunk} {cookie : Cookie}

lemma tcb_withTcb
    (ht : s.tcb = some t) : (s.withTcb f).tcb = some (f ⟨t, s.sendQueue, s.outside⟩).tcb := by
  simp [withTcb, association?, ht]

lemma internalClose_moves (e : ErrorKind) (m : String) : Moves ok s (s.internalClose e m) := by
  unfold internalClose
  split
  · exact .refl
  refine .single (.closes ?_ rfl)
  rw [control_callback]
  simp [control]

lemma Move.internalClose {s s' : DcSctpSocket} (h : Move ok s s' (some [])) (e : ErrorKind) (m : String) :
    Moves ok s (s'.internalClose e m) := .trans (.single h) (internalClose_moves s' e m)

lemma sendToPeer_move (c : Chunk) : Move ok s (s.sendToPeer c) (some []) :=
  .of_eq (by simp) (by simp)

lemma sendPacket_move (b : PacketBuilder) (w : Bool) :
    Move ok s (s.sendPacket b w) (some []) := .of_eq rfl rfl

lemma onError_move (e : ErrorKind) (m : String) : Move ok s (s.onError e m) (some []) :=
  .of_eq rfl rfl

lemma connect_moves : Moves ok s s.connect := by
  unfold connect
  split
  · rename_i hstate
    exact .single (.connects hstate rfl rfl)
  · exact .refl

lemma control_sendShutdownAck :
    s.sendShutdownAck.control = { s.control with t2Shutdown := true } := by
  have h := control_sendToPeer s .shutdownAck
  simp only [control, Control.mk.injEq] at h
  simp [sendShutdownAck, control, h]

@[simp] lemma tcb_sendShutdownAck : s.sendShutdownAck.tcb = s.tcb :=
  tcb_sendToPeer s _

lemma maybeSendShutdownOrAck_control :
    s.maybeSendShutdownOrAck.tcb = s.tcb ∧
      (s.maybeSendShutdownOrAck.control = s.control ∨
        ∃ t state, s.tcb = some t ∧ t.retransmissionQueue.outstandingData.unackedItems = 0 ∧
          ((s.state = .shutdownPending ∧ state = .shutdownSent) ∨
            (s.state = .shutdownReceived ∧ state = .shutdownAckSent)) ∧
          s.maybeSendShutdownOrAck.control =
            { s.control with
              state, t2Shutdown := true
              shutdownChecks :=
                s.control.shutdownChecks ++ [t.retransmissionQueue.outstandingData] }) := by
  unfold maybeSendShutdownOrAck
  split
  · exact ⟨rfl, .inl rfl⟩
  rename_i t ht
  split
  · exact ⟨rfl, .inl rfl⟩
  rename_i hunack
  have hunack : t.retransmissionQueue.outstandingData.unackedItems = 0 := not_not.mp hunack
  split
  · rename_i hstate
    have h := control_sendShutdown s
    simp only [control, Control.mk.injEq] at h
    refine ⟨tcb_sendShutdown s, .inr ⟨t, .shutdownSent, ht, hunack, .inl ⟨hstate, rfl⟩, ?_⟩⟩
    simp [control, h]
  · rename_i hstate
    have h := control_sendShutdownAck s
    simp only [control, Control.mk.injEq] at h
    refine ⟨tcb_sendShutdownAck s, .inr ⟨t, .shutdownAckSent, ht, hunack, .inr ⟨hstate, rfl⟩, ?_⟩⟩
    simp [control, h]
  · exact ⟨rfl, .inl rfl⟩

lemma maybeSendShutdownOrAck_move : Move ok s s.maybeSendShutdownOrAck (some []) := by
  obtain ⟨htcb, hcontrol | ⟨t, state, ht, hunack, hstate, hcontrol⟩⟩ :=
    s.maybeSendShutdownOrAck_control
  · exact .of_eq hcontrol htcb
  · exact .passesCheck hstate hcontrol hunack (fun h => h.books) ht (htcb.trans ht) (.refl _ t)

lemma shutdown_moves : Moves ok s s.shutdown := by
  unfold shutdown
  split
  · rename_i hsome
    split
    · exact .refl
    rename_i hstate
    rw [not_or] at hstate
    have hstart : Move ok s
        { s with state := .shutdownPending, t1Init := s.t1Init.stop, t1Cookie := s.t1Cookie.stop } (some []) :=
      .startsShutdown hstate (by simp [control]) hsome rfl
    exact .tail (.single hstart) (maybeSendShutdownOrAck_move _)
  · exact internalClose_moves s _ _

lemma close_moves : Moves ok s s.close := by
  unfold close
  split
  · exact .refl
  · exact (sendToPeer_move s _).internalClose _ _

lemma closeConnection_moves : Moves ok s s.closeConnectionBecauseOfTooManyTransmissionErrors :=
  (sendToPeer_move s _).internalClose _ _

variable (now : Timestamp)

lemma enqueue_frame (message : DcSctpMessage) (opts : SendOptions) :
    (s.enqueue now message opts).2.control = s.control ∧
      (s.enqueue now message opts).2.tcb = s.tcb := by
  have h : (s.internalSend message opts).2.control = s.control ∧
      (s.internalSend message opts).2.tcb = s.tcb := by
    unfold internalSend
    split
    · exact ⟨rfl, rfl⟩
    dsimp only
    split <;> exact ⟨rfl, rfl⟩
  unfold enqueue
  split
  · rename_i heq
    rw [heq] at h
    exact h
  · exact h

lemma enqueueAll_frame (now : Timestamp) (opts : SendOptions) :
    ∀ (msgs : List DcSctpMessage) (s : DcSctpSocket),
      (enqueueAll now opts msgs s).2.control = s.control ∧
        (enqueueAll now opts msgs s).2.tcb = s.tcb
  | [], _ => ⟨rfl, rfl⟩
  | message :: msgs, s => by
    obtain ⟨hcontrol, htcb⟩ := s.enqueue_frame now message opts
    obtain ⟨hctl', htcb'⟩ :=
      enqueueAll_frame now opts msgs (s.enqueue now message opts).2
    exact ⟨hctl'.trans hcontrol, htcb'.trans htcb⟩

lemma send_moves (message : DcSctpMessage)
    (opts : SendOptions) : Moves ok s (s.send now message opts).2 := by
  obtain ⟨hcontrol, htcb⟩ := s.enqueue_frame now message opts
  unfold send
  split
  · rename_i heq
    rw [heq] at hcontrol htcb
    exact .tail (.single (.of_eq hcontrol htcb))
      (withTcb_move _ fun a => a.sendBufferedPackets_acts now)
  · exact .single (.of_eq hcontrol htcb)

lemma sendMany_moves (msgs : List DcSctpMessage)
    (opts : SendOptions) : Moves ok s (s.sendMany now msgs opts).2 := by
  obtain ⟨hcontrol, htcb⟩ := enqueueAll_frame now opts msgs s
  exact .tail (.single (.of_eq hcontrol htcb))
    (withTcb_move _ fun a => a.sendBufferedPackets_acts now)

lemma getNextMessage_handles :
    Handles ok s s.getNextMessage.2 (if s.tcb.isSome then [.getNextMessage] else []) := by
  unfold getNextMessage
  cases ht : s.tcb with
  | none => exact .silent .refl
  | some t =>
    refine .calls (.works rfl rfl ?_)
    rw [ht]
    exact .some ⟨⟨rfl, rfl, delivered_getNextMessage, id, fun _ => id⟩, rfl⟩

lemma resetStreams_moves (outgoingStreams : List StreamID) :
    Moves ok s (s.resetStreams outgoingStreams) := by
  unfold resetStreams
  split
  · exact .single (onError_move s _ _)
  rename_i a ha
  split
  · refine .single (setAssociation_move rfl (association?_eq_some ha) ?_)
    have h := maybeSendResetStreamsRequest_acts
      { a with sendQueue := StreamResetHandler.resetStreams a.sendQueue outgoingStreams }
    exact h.works _
  · exact .single (onError_move s _ _)

/-! ## Timers -/

/-- The last expiry of a timer, which then is no longer running, closes the socket. -/
lemma expire_moves {s s1 : DcSctpSocket} (t1Init t1Cookie t2Shutdown : Bool)
    (hcontrol : s1.control =
      { s.control with
        t1Init := s.control.t1Init && t1Init
        t1Cookie := s.control.t1Cookie && t1Cookie
        t2Shutdown := s.control.t2Shutdown && t2Shutdown })
    (htcb : s1.tcb = s.tcb) (e : ErrorKind) (m : String) : Moves ok s (s1.internalClose e m) := by
  have hctl' := hcontrol
  simp only [control, Control.mk.injEq] at hctl'
  obtain ⟨hpull, hwin, hstate, -, -, -, hassoc, hchecks⟩ := hctl'
  unfold internalClose
  split
  · rename_i hclosed
    exact .single (.expires (hstate.symm.trans hclosed) hcontrol htcb)
  refine .single (.closes ?_ rfl)
  rw [control_callback]
  simp [control, hpull, hwin, hassoc, hchecks]

lemma trigger_moves (id : TimerId)
    (hrunn : s.isRunning id = true) : Moves ok s (s.trigger now id) := by
  cases id with
  | t1Init =>
    simp only [isRunning] at hrunn
    unfold trigger onInitTimerExpiry
    dsimp only
    split <;> rename_i hag
    · refine .single (.of_eq ?_ rfl)
      rw [control_sendInit]
      simp [control, hag, hrunn]
    refine expire_moves false true true ?_ ?_ _ _
    · simpa [control] using hag
    · rfl
  | t1Cookie =>
    simp only [isRunning] at hrunn
    unfold trigger onCookieTimerExpiry
    dsimp only
    split <;> rename_i hag
    · have hrestart : Move ok s { s with t1Cookie := s.t1Cookie.trigger } (some []) :=
        .of_eq (by simp [control, hag, hrunn]) rfl
      exact .tail (.single hrestart) (withTcb_move _ fun a => a.sendBufferedPackets_acts now)
    refine expire_moves true false true ?_ ?_ _ _
    · simpa [control] using hag
    · rfl
  | t2Shutdown =>
    simp only [isRunning] at hrunn
    unfold trigger onShutdownTimerExpiry
    dsimp only
    split <;> rename_i hag
    · refine .single (.of_eq ?_ (tcb_sendShutdown _))
      rw [control_sendShutdown]
      simp [control, hag, hrunn]
    refine expire_moves true true false ?_ ?_ _ _
    · rw [control_sendToPeer]
      simpa [control] using hag
    · rw [tcb_sendToPeer]
  | t3Rtx => exact .single (withTcb_move s fun a => a.onRtxTimerExpiry_acts now)
  | delayedAck => exact .single (withTcb_move s onDelayedAckTimerExpiry_acts)
  | reconfig => exact .single (withTcb_move s onReconfigTimerExpiry_acts)
  | heartbeatInterval =>
    exact .single (withTcb_move s fun a => a.onIntervalTimerExpiry_acts now _)
  | heartbeatTimeout => exact .single (withTcb_move s onTimeoutTimerExpiry_acts)

lemma handleTimeout_moves (id : TimerId) : Moves ok s (s.handleTimeout now id) := by
  have htrigger : Moves ok s (if s.isRunning id then s.trigger now id else s) := by
    split
    · exact s.trigger_moves now id ‹_›
    · exact .refl
  unfold handleTimeout
  dsimp only
  generalize (if s.isRunning id then s.trigger now id else s) = s1 at htrigger ⊢
  split
  · exact htrigger.trans s1.closeConnection_moves
  · exact htrigger

/-! ## Chunks -/

def associationOps (pullMode : Bool) (a : Association) : Chunk → List Operation
  | .data tsn data immediateAck | .iData tsn data immediateAck =>
    if acceptsData a.tcb tsn data immediateAck then
      a.tcb.reassemblyQueue.thenDeliver pullMode [.add tsn data]
    else []
  | .forwardTsn chunk | .iForwardTsn chunk =>
    if a.tcb.capabilities.partialReliability then
      a.tcb.reassemblyQueue.thenDeliver pullMode
        (if (a.tcb.dataTracker.handleForwardTsn chunk.newCumulativeTsn).1 then
          [.handleForwardTsn chunk.newCumulativeTsn chunk.skippedStreams]
        else [])
    else []
  | .reConfig parameters =>
    a.tcb.reassemblyQueue.thenDeliver pullMode
      (a.tcb.streamResetHandler.reConfigOps a.tcb.dataTracker a.tcb.reassemblyQueue a.sendQueue
        parameters)
  | _ => []

def chunkOps (s : DcSctpSocket) (c : Chunk) : List Operation :=
  match s.association? with
  | none => []
  | some a => associationOps s.options.enableReceivePullMode a c

variable {s}

lemma ifHasTcb_handles {handle : Association → DcSctpSocket}
    (h : ∀ a, s.association? = some a →
      Handles ok s (handle a) (associationOps s.options.enableReceivePullMode a c)) :
    Handles ok s (s.ifHasTcb handle) (s.chunkOps c) := by
  unfold ifHasTcb chunkOps
  cases ha : s.association? with
  | none => exact .calls (onError_move s _ _)
  | some a => exact h a ha

lemma handleDataCommon_handles (hok : ok s tag c) (ha : s.association? = some a) (tsn : TSN) (data : Data)
    (imm : Bool)
    (hc : storedBy a.tcb c = if acceptsData a.tcb tsn data imm then some data else none) :
    Handles ok s (s.handleDataCommon a tsn data imm) (if acceptsData a.tcb tsn data imm then
        a.tcb.reassemblyQueue.thenDeliver s.options.enableReceivePullMode [.add tsn data]
      else []) := by
  have ht := association?_eq_some ha
  have hrefused {s' : DcSctpSocket} (h : acceptsData a.tcb tsn data imm = false)
      (hmv : Moves ok s s') : Handles ok s s' (if acceptsData a.tcb tsn data imm then
        a.tcb.reassemblyQueue.thenDeliver s.options.enableReceivePullMode [.add tsn data] else []) := by
    rw [h]
    exact .silent hmv
  unfold handleDataCommon
  dsimp only
  split
  · rename_i hemp
    exact hrefused (by simp [acceptsData, hemp])
      (.tail (.single (sendToPeer_move s _)) (onError_move _ _ _))
  rename_i hnonempty
  split
  · rename_i hfull
    refine hrefused (by simp [acceptsData, hfull]) ?_
    split
    · exact .refl
    · exact (sendToPeer_move s _).internalClose _ _
  rename_i hnotfull
  split
  · rename_i habv
    exact hrefused (by simp [acceptsData, habv])
      (.single (setAssociation_move rfl ht ⟨⟨rfl, rfl, id, id, fun _ => id⟩, rfl⟩))
  rename_i hbel
  split
  · rename_i hinvalid
    exact hrefused (by simp_all [acceptsData]) .refl
  rename_i hvalid
  split
  · rename_i dataTracker hobserve
    exact hrefused (by simp [acceptsData, hobserve])
      (.single (setAssociation_move rfl ht ⟨⟨rfl, rfl, id, id, fun _ => id⟩, rfl⟩))
  rename_i dataTracker hobserve
  have haccepts : acceptsData a.tcb tsn data imm = true := by
    simp only [acceptsData, hobserve, Bool.and_true, Bool.and_eq_true, Bool.not_eq_true', Bool.not_eq_true]
      at hnonempty hnotfull hbel hvalid ⊢
    refine ⟨⟨⟨hnonempty, hnotfull⟩, ?_⟩, Bool.eq_true_of_not_eq_false hvalid⟩
    rw [← Bool.not_eq_true, Bool.and_eq_true, Bool.not_eq_true']
    exact hbel
  rw [if_pos haccepts] at hc ⊢
  refine .calls (.stores (accepted_thenDeliver ..) hok (control_setAssociation s _) ht hc
    (tcb_setAssociation s _) ?_)
  exact maybeDeliverMessages_works rfl rfl id (fun _ => id) rfl

lemma handleForwardTsnCommon_handles (ha : s.association? = some a) (chunk : AnyForwardTsnChunk) :
    Handles ok s (s.handleForwardTsnCommon a chunk) (if a.tcb.capabilities.partialReliability then
        a.tcb.reassemblyQueue.thenDeliver s.options.enableReceivePullMode
          (if (a.tcb.dataTracker.handleForwardTsn chunk.newCumulativeTsn).1 then
            [.handleForwardTsn chunk.newCumulativeTsn chunk.skippedStreams]
          else [])
      else []) := by
  unfold handleForwardTsnCommon
  split
  · dsimp only
    refine .calls (setAssociation_move ?_ (association?_eq_some ha)
      (maybeDeliverMessages_works ?_ rfl id (fun _ => id) rfl))
    · rw [accepted_thenDeliver]
      split <;> rfl
    dsimp only
    split <;> rfl
  · exact .silent (.tail (.single (sendToPeer_move s _)) (onError_move _ _ _))

lemma handleReconfig_handles (ha : s.association? = some a)
    (now : Timestamp) (params : List ReConfigParameter) :
    Handles ok s (s.handleReconfig a now params)
      (a.tcb.reassemblyQueue.thenDeliver s.options.enableReceivePullMode
        (a.tcb.streamResetHandler.reConfigOps a.tcb.dataTracker a.tcb.reassemblyQueue a.sendQueue
          params)) := by
  obtain ⟨hq, hrtx, hsame, hcookie⟩ := a.handleReConfig_frame params
  have hsend := (maybeSendResetStreamsRequest_acts (a.handleReConfig params)).trans
    (sendBufferedPackets_acts _ now)
  refine .calls (setAssociation_move ?_ (association?_eq_some ha)
    (maybeDeliverMessages_works (hsend.queue.trans hq) (hsend.same.trans hsame) ?_ ?_
      (hsend.cookie.trans hcookie)))
  · rw [accepted_thenDeliver]
    exact (StreamResetHandler.handleReConfig_calls _ _ _ _ _).2
  · intro h
    exact hsend.books (hrtx ▸ h)
  intro hbooks hfmt
  refine hsend.format (hrtx ▸ hbooks) ?_
  unfold TransmissionControlBlock.Formatted at hfmt ⊢
  rw [hrtx, hsame]
  exact hfmt

/-- The check after a SACK looks at the outstanding data the SACK left; the chunks for fast
retransmission are sent afterwards. -/
lemma handleSack_moves (ha : s.association? = some a)
    (now : Timestamp) (chunk : SackChunk) : Moves ok s (s.handleSack a now chunk) := by
  have ht := association?_eq_some ha
  obtain ⟨hq, hcookie, hsame, hrtx⟩ := a.handleSack_frame now (clean chunk)
  have hbooks (h : a.tcb.retransmissionQueue.Booked) :
      (a.handleSack now (clean chunk)).2.tcb.retransmissionQueue.outstandingData.Bookkeeping := by
    rw [hrtx]
    exact (h.handleSack a.sendQueue now (clean chunk)).1
  have hfmt (h : a.tcb.retransmissionQueue.Booked) (hf : a.tcb.Formatted) :
      (a.handleSack now (clean chunk)).2.tcb.Formatted := by
    unfold TransmissionControlBlock.Formatted at hf ⊢
    rw [hrtx, hsame, (h.handleSack a.sendQueue now (clean chunk)).2.1]
    exact hf
  unfold handleSack
  split
  · rename_i a' hunhandled
    have hkept : a'.tcb.retransmissionQueue = a.tcb.retransmissionQueue := by
      rw [hunhandled] at hrtx
      refine hrtx.trans (handleSack_of_not_handled ?_)
      exact congrArg Prod.fst hunhandled
    rw [hunhandled] at hq hcookie hsame hfmt
    refine .single (setAssociation_move rfl ht ⟨⟨hq, hsame, ?_, ?_, hfmt⟩, hcookie⟩)
    · rw [hq]
      exact id
    rw [hkept]
    exact id
  rename_i a' hhan
  rw [hhan] at hq hcookie hsame hbooks hfmt
  obtain ⟨htcb, hcontrol⟩ := (s.setAssociation a').maybeSendShutdownOrAck_control
  obtain ⟨s1, hs1⟩ : ∃ s1, s1 = (s.setAssociation a').maybeSendShutdownOrAck := ⟨_, rfl⟩
  rw [← hs1] at htcb hcontrol ⊢
  have hfinal := tcb_withTcb s1 (fun a => a.maybeSendFastRetransmit.sendBufferedPackets now) htcb
  have hwks : Works s.control.pullMode [] a.tcb
      ((maybeSendFastRetransmit ⟨a'.tcb, s1.sendQueue, s1.outside⟩).sendBufferedPackets now).tcb := by
    have hacts := sendBufferedPackets_acts
      (maybeSendFastRetransmit ⟨a'.tcb, s1.sendQueue, s1.outside⟩) now
    have hfast : (maybeSendFastRetransmit ⟨a'.tcb, s1.sendQueue, s1.outside⟩).tcb.reassemblyQueue
      = a'.tcb.reassemblyQueue ∧
        (maybeSendFastRetransmit ⟨a'.tcb, s1.sendQueue, s1.outside⟩).tcb.cookieEchoChunk
          = a'.tcb.cookieEchoChunk ∧
        (maybeSendFastRetransmit ⟨a'.tcb, s1.sendQueue, s1.outside⟩).tcb.capabilities
          = a'.tcb.capabilities := by
      unfold maybeSendFastRetransmit
      split <;> exact ⟨rfl, rfl, rfl⟩
    have hfastBooks (h : a.tcb.retransmissionQueue.Booked) :=
      maybeSendFastRetransmit_books ⟨a'.tcb, s1.sendQueue, s1.outside⟩ (hbooks h)
    have hkept := (hacts.queue.trans hfast.1).trans hq
    refine ⟨⟨hkept, (hacts.same.trans hfast.2.2).trans hsame, ?_, fun h => hacts.books (hfastBooks h),
      fun h hf => ?_⟩, (hacts.cookie.trans hfast.2.1).trans hcookie⟩
    · rw [hkept]
      exact id
    · exact hacts.format (hfastBooks h) (maybeSendFastRetransmit_formatted _ (hfmt h hf))
  rcases hcontrol with hcontrol | ⟨t, state, ht1, hunack, hstate, hcontrol⟩
  · refine .single (.works rfl (by rw [control_withTcb, hcontrol, control_setAssociation]) ?_)
    rw [ht, hfinal]
    exact .some hwks
  rw [tcb_setAssociation, some.injEq] at ht1
  subst ht1
  exact .single (.passesCheck hstate ((control_withTcb _ _).trans hcontrol) hunack hbooks ht hfinal
    hwks)

variable (s)

lemma handleInit_moves (chunk : InitChunk) : Moves ok s (s.handleInit chunk) := by
  unfold handleInit
  split
  · exact (sendPacket_move s _ _).internalClose _ _
  split
  · rename_i hstate
    exact .single (.rearmsShutdownTimer (.inr hstate) s.control_sendShutdownAck s.tcb_sendShutdownAck)
  · exact .single (.of_eq rfl rfl)

lemma freshTcb_new (capabilities : Capabilities) (myTag : VerificationTag)
    (myTsn : TSN) (peerTag : VerificationTag) (peerTsn : TSN) (aRwnd : BitVec 32)
    (tieTag : TieTag) :
    FreshTcb s.control (.new s.options capabilities myTag myTsn peerTag peerTsn aRwnd
      tieTag) :=
  ⟨rfl, .inr rfl, booked_new _ _ _ _ _, rfl⟩

lemma FreshTcb.acts {c : Control} {a' : Association}
    (h : FreshTcb c t) (hq : a.tcb.reassemblyQueue = t.reassemblyQueue)
    (hrtx : a.tcb.retransmissionQueue = t.retransmissionQueue)
    (hsame : a.tcb.capabilities = t.capabilities) (hacts : Acts a a') :
    FreshTcb c a'.tcb := by
  obtain ⟨hfresh, hdlv, hbooked, hfmt⟩ := h
  unfold TransmissionControlBlock.Formatted at hfmt
  rw [← hrtx] at hbooked hfmt
  rw [← hsame] at hfmt
  refine ⟨?_, ?_, hacts.books hbooked, hacts.format hbooked hfmt⟩
  · rw [hacts.queue, hq, hacts.same, hsame]
    exact hfresh
  rw [hacts.queue, hq]
  exact hdlv

lemma control_withTcb_startCookieTimer :
    ({ s.withTcb f with t1Cookie := (s.withTcb f).t1Cookie.start } : DcSctpSocket).control =
      { s.control with t1Cookie := true } := by
  show { (s.withTcb f).control with t1Cookie := true } = _
  rw [control_withTcb]

lemma handleInitAck_handles (chunk : InitChunk) :
    Handles ok s (s.handleInitAck now chunk) [] := by
  unfold handleInitAck
  split
  · exact .silent .refl
  rename_i hstate
  have hstate := not_not.mp hstate
  split
  · exact .silent ((sendPacket_move s _ _).internalClose _ _)
  rename_i cookie hcookie
  have hacts := sendBufferedPackets_acts
  have hfresh := freshTcb_new s (computeCapabilities s.options chunk) s.connectParams.verificationTag
    s.connectParams.initialTsn chunk.initiateTag chunk.initialTsn chunk.aRwnd (makeTieTag s.outside).1
  refine .begins (.echoesCookie hstate ((control_withTcb_startCookieTimer _ _).trans ?_)
    (tcb_withTcb _ _ rfl) (hfresh.acts rfl rfl rfl (hacts _ now)) ?_)
  · simp [control, createTransmissionControlBlock]
  rw [(hacts _ now).cookie]
  rfl

section Establish

variable {s s1 : DcSctpSocket} {c : StateCookie} (hok : ok s tag (.cookieEcho cookie))
  (hc : cookie.deserialized = some c)
  (hnew : s1.tcb = none → ∀ t, s.tcb = some t →
    (cookieCase t tag c = .restarted ∧ s.state ≠ .shutdownAckSent) ∨
      cookieCase t tag c = .simultaneous)

include hok hc hnew

/-- The end of `HandleCookieEcho`: with a TCB in place it is kept, and without one it is
created. -/
lemma completeEstablish_handles (hcontrol : s1.control =
      { s.control with state := .established, t1Init := false, t1Cookie := false })
    (hkept : ∀ t1, s1.tcb = some t1 → ∃ t, s.tcb = some t ∧
      (cookieCase t tag c = .duplicate ∨ cookieCase t tag c = .other) ∧
      t1.reassemblyQueue = t.reassemblyQueue ∧ t1.retransmissionQueue = t.retransmissionQueue ∧
      t1.capabilities = t.capabilities) (tieTag : TieTag) (outside : Outside) (now : Timestamp) :
    Handles ok s
      ((if s1.tcb.isNone then
          { s1 with sendQueue := s1.sendQueue.reset, outside }.createTransmissionControlBlock
            c.capabilities c.myTag c.myInitialTsn c.peerTag c.peerInitialTsn c.aRwnd tieTag
        else s1).withTcb fun a => a.sendBufferedPacketsWith (a.packetBuilder.add .cookieAck) now) [] := by
  cases ht1 : s1.tcb with
  | none =>
    have hcrea := hcontrol
    simp only [control, Control.mk.injEq] at hcrea
    obtain ⟨hpull, hwin, hstate, hinit, hcookieTimer, ht2, hassoc, hchecks⟩ := hcrea
    have hfresh : FreshTcb s.control (.new s1.options c.capabilities c.myTag c.myInitialTsn c.peerTag
        c.peerInitialTsn c.aRwnd tieTag) := by
      have h := freshTcb_new s1 c.capabilities c.myTag c.myInitialTsn c.peerTag c.peerInitialTsn
        c.aRwnd tieTag
      rw [hcontrol] at h
      exact ⟨h.queue, h.delivered, h.books, h.format⟩
    have hacts := fun a : Association =>
      a.sendBufferedPacketsWith_acts (a.packetBuilder.add .cookieAck) now
    refine .begins (.establishes hok hc (hnew ht1) ?_ (tcb_withTcb _ _ rfl)
      (hfresh.acts rfl rfl rfl (hacts _)))
    rw [control_withTcb]
    simp [createTransmissionControlBlock, control, *]
  | some t1 =>
    obtain ⟨t, ht, hcase, hq, hrtx, hsame⟩ := hkept t1 ht1
    have hwks := (sendBufferedPacketsWith_acts ⟨t1, s1.sendQueue, s1.outside⟩
      ((packetBuilder ⟨t1, s1.sendQueue, s1.outside⟩).add .cookieAck) now).works
      s.control.pullMode
    refine .calls (.staysEstablished hok hc ht hcase ((control_withTcb _ _).trans hcontrol)
      (tcb_withTcb _ _ ht1) ⟨hwks.queue.trans hq, hwks.same.trans hsame, ?_, ?_, ?_⟩)
    · rw [← hq]
      exact hwks.delivered
    · rw [← hrtx]
      exact hwks.books
    unfold TransmissionControlBlock.Formatted
    rw [← hrtx, ← hsame]
    exact hwks.format

lemma establish_handles (hcontrol : s1.control = s.control)
    (hkept : ∀ t, s1.tcb = some t → s.tcb = some t ∧
      (cookieCase t tag c = .duplicate ∨ cookieCase t tag c = .other)) (now : Timestamp) :
    Handles ok s (s1.establish now c) [] := by
  have hctl' := hcontrol
  simp only [control, Control.mk.injEq] at hctl'
  obtain ⟨hpull, hwin, hstate, -, -, ht2, hassoc, hchecks⟩ := hctl'
  unfold establish
  dsimp only
  split
  · refine completeEstablish_handles hok hc (fun hnone => hnew ?_) ?_ (fun t1 ht1 => ?_) _ _ now
    · exact map_eq_none_iff.mp hnone
    · rw [control_callback]
      simp [control, *]
    · obtain ⟨t, ht, rfl⟩ := map_eq_some_iff.mp ht1
      obtain ⟨ht, hcase⟩ := hkept t ht
      exact ⟨t, ht, hcase, rfl, rfl, rfl⟩
  rename_i hestab
  have hestab : s1.state = .established := not_not.mp hestab
  refine completeEstablish_handles hok hc ?_ ?_ (fun t ht => ?_) _ _ now
  · exact hnew
  · simp [control, ← hestab, *]
  · obtain ⟨ht, hcase⟩ := hkept t ht
    exact ⟨t, ht, hcase, rfl, rfl, rfl⟩

end Establish

lemma handleCookieEcho_handles {s : DcSctpSocket}
    (hok : ok s tag (.cookieEcho cookie)) (now : Timestamp) :
    Handles ok s (s.handleCookieEcho now tag cookie) [] := by
  unfold handleCookieEcho
  split
  · exact .calls (onError_move s _ _)
  rename_i c hc
  split
  · rename_i t ht
    have hself (P : TransmissionControlBlock → Prop) (h : P t) : ∀ t', s.tcb = some t' → P t' := by
      intro t' ht'
      rw [ht, some.injEq] at ht'
      exact ht' ▸ h
    unfold handleCookieEchoWithTcb
    cases hcase : cookieCase t tag c with
    | restarted =>
      by_cases hstate : s.state = .shutdownAckSent
      · simp only [hstate, if_true]
        exact .calls (.of_eq rfl rfl)
      simp only [hstate, if_false]
      refine establish_handles hok hc (fun _ => ?_) ?_ (fun t ht => ?_) now
      · exact hself _ (.inl ⟨hcase, hstate⟩)
      · rfl
      · cases ht
    | simultaneous =>
      refine establish_handles hok hc (fun _ => ?_) ?_ (fun t ht => ?_) now
      · exact hself _ (.inr hcase)
      · rfl
      · cases ht
    | late => exact .silent .refl
    | duplicate | other =>
      have hkept := hself (fun t => cookieCase t tag c = .duplicate ∨ cookieCase t tag c = .other)
        (by simp [hcase])
      exact establish_handles hok hc (fun h => absurd (ht.symm.trans h) (by simp)) rfl
        (fun t ht => ⟨ht, hkept t ht⟩) now
  · rename_i hnone
    split
    · exact .calls (onError_move s _ _)
    exact establish_handles hok hc (fun _ _ h => absurd (hnone.symm.trans h) (by simp)) rfl
      (fun _ h => absurd (hnone.symm.trans h) (by simp)) now

lemma handleCookieAck_moves : Moves ok s (s.handleCookieAck now) := by
  unfold handleCookieAck
  split
  · exact .refl
  rename_i hstate
  refine .single (.receivesCookieAck (not_not.mp hstate) ?_ ?_)
  · rw [control_callback, control_withTcb]
    simp [control]
  rw [tcb_callback]
  cases ht : s.tcb with
  | none => exact .none
  | some t =>
    have hacts := sendBufferedPackets_acts ⟨t.clearCookieEchoChunk, s.sendQueue, s.outside⟩ now
    have hwks := hacts.works s.control.pullMode
    exact .some ⟨hwks.queue, hwks.same, hwks.delivered, hwks.books, hwks.format⟩

lemma handleShutdown_moves : Moves ok s s.handleShutdown := by
  have hreceive (h : s.state = .established ∨ s.state = .shutdownPending) :
      Moves ok s { s with state := .shutdownReceived }.maybeSendShutdownOrAck := by
    have hmove : Move ok s { s with state := .shutdownReceived } (some []) := .receivesShutdown h rfl rfl
    exact .tail (.single hmove) (maybeSendShutdownOrAck_move _)
  unfold handleShutdown
  split
  · exact .refl
  · exact .refl
  · exact .refl
  · rename_i hstate
    refine .single (.crossesShutdown hstate ?_ s.tcb_sendShutdownAck)
    have h := s.control_sendShutdownAck
    simp only [control, Control.mk.injEq] at h
    simp [control, h]
  · exact .refl
  · exact .refl
  · exact hreceive (.inl ‹_›)
  · exact hreceive (.inr ‹_›)

lemma handleShutdownAck_moves (tag : VerificationTag) : Moves ok s (s.handleShutdownAck tag) := by
  unfold handleShutdownAck
  split
  · exact (sendToPeer_move s _).internalClose _ _
  · exact .single (sendPacket_move s _ _)

lemma handleUnrecognizedChunk_moves (type : UnknownType) :
    Moves ok s (s.handleUnrecognizedChunk type).2 := by
  unfold handleUnrecognizedChunk
  dsimp only
  split
  · exact .tail (.single (onError_move s _ _)) (sendToPeer_move _ _)
  · exact .refl

/-- A chunk that meets the condition is handled by moves that make the calls of `chunkOps`. -/
lemma dispatch_handles {s : DcSctpSocket} (hok : ok s tag c)
    (now : Timestamp) : Handles ok s (s.dispatch now tag c).2 (s.chunkOps c) := by
  have hnone {c : Chunk} {s' : DcSctpSocket} (hops : ∀ pullMode a, associationOps pullMode a c = [])
      (h : Handles ok s s' []) : Handles ok s s' (s.chunkOps c) := by
    unfold chunkOps
    split
    · exact h
    rw [hops]
    exact h
  cases c with
  | data tsn data immediateAck | iData tsn data immediateAck =>
    exact ifHasTcb_handles fun a ha => handleDataCommon_handles hok ha tsn data immediateAck rfl
  | forwardTsn chunk | iForwardTsn chunk =>
    exact ifHasTcb_handles fun a ha => handleForwardTsnCommon_handles ha chunk
  | reConfig parameters => exact ifHasTcb_handles fun a ha => handleReconfig_handles ha now parameters
  | sack chunk => exact ifHasTcb_handles fun a ha => .silent (handleSack_moves ha now chunk)
  | heartbeatRequest info =>
    exact ifHasTcb_handles fun a ha => .calls <| setAssociation_move rfl (association?_eq_some ha) <|
      (a.send_acts _).works _
  | heartbeatAck info =>
    exact ifHasTcb_handles fun a ha => .calls <| setAssociation_move rfl (association?_eq_some ha) <|
      (a.handleHeartbeatAck_acts now info).works _
  | init chunk => exact hnone (fun _ _ => rfl) (.silent (s.handleInit_moves chunk))
  | initAck chunk => exact hnone (fun _ _ => rfl) (s.handleInitAck_handles now chunk)
  | abort tBit causes =>
    refine hnone (fun _ _ => rfl) (.silent ?_)
    simp only [dispatch, handleAbort]
    split
    · exact .refl
    · exact s.internalClose_moves _ _
  | error causes =>
    refine hnone (fun _ _ => rfl) (.silent ?_)
    simp only [dispatch, handleError]
    split
    · exact .refl
    · exact .single (onError_move s _ _)
  | cookieEcho cookie => exact hnone (fun _ _ => rfl) (handleCookieEcho_handles hok now)
  | cookieAck => exact hnone (fun _ _ => rfl) (.silent (s.handleCookieAck_moves now))
  | shutdown tsn => exact hnone (fun _ _ => rfl) (.silent s.handleShutdown_moves)
  | shutdownAck => exact hnone (fun _ _ => rfl) (.silent (s.handleShutdownAck_moves tag))
  | shutdownComplete tBit =>
    refine hnone (fun _ _ => rfl) (.silent ?_)
    simp only [dispatch, handleShutdownComplete]
    split
    · exact s.internalClose_moves _ _
    · exact .refl
  | malformed type => exact hnone (fun _ _ => rfl) (.silent (.single (onError_move s _ _)))
  | unrecognized type => exact hnone (fun _ _ => rfl) (.silent (s.handleUnrecognizedChunk_moves type))

end Functions

/-! ## Runs -/

def ChunksOk (ok : DcSctpSocket → VerificationTag → Chunk → Prop) (now : Timestamp)
    (tag : VerificationTag) : List Chunk → DcSctpSocket → Prop
  | [], _ => True
  | c :: cs, s => ok s tag c ∧
    ((s.dispatch now tag c).1 = true → ChunksOk ok now tag cs (s.dispatch now tag c).2)

def EventOk (ok : DcSctpSocket → VerificationTag → Chunk → Prop) (s : DcSctpSocket) (e : Event) :
    Prop :=
  match e.2 with
  | .receivePacket (some p) => s.packetError p = none →
    ChunksOk ok e.1 p.verificationTag p.chunks (s.maybeSendShutdownOnPacketReceived p)
  | _ => True

instance ChunksOk.decidable (ok : DcSctpSocket → VerificationTag → Chunk → Prop)
    [∀ s tag c, Decidable (ok s tag c)] (now : Timestamp) (tag : VerificationTag) :
    ∀ (cs : List Chunk) (s : DcSctpSocket), Decidable (ChunksOk ok now tag cs s)
  | [], _ => isTrue trivial
  | c :: cs, s =>
    have := ChunksOk.decidable ok now tag cs (s.dispatch now tag c).2
    inferInstanceAs (Decidable (_ ∧ _))

instance EventOk.decidable (ok : DcSctpSocket → VerificationTag → Chunk → Prop)
    [∀ s tag c, Decidable (ok s tag c)] (s : DcSctpSocket) (e : Event) :
    Decidable (EventOk ok s e) := by
  unfold EventOk
  split <;> infer_instance

lemma eventOk_of_forall {ok : DcSctpSocket → VerificationTag → Chunk → Prop}
    (h : ∀ s tag c, ok s tag c) (s : DcSctpSocket) (e : Event) : EventOk ok s e := by
  have hchunks (now : Timestamp) (tag : VerificationTag) :
      ∀ (cs : List Chunk) (s : DcSctpSocket), ChunksOk ok now tag cs s := by
    intro cs
    induction cs with
    | nil => exact fun _ => trivial
    | cons c cs ih => exact fun s => ⟨h s tag c, fun _ => ih _⟩
  unfold EventOk
  split
  · exact fun _ => hchunks _ _ _ _
  · trivial

variable {ok : DcSctpSocket → VerificationTag → Chunk → Prop}

lemma dispatchAll_reaches (now : Timestamp) (tag : VerificationTag) :
    ∀ (cs : List Chunk) (s : DcSctpSocket), ChunksOk ok now tag cs s →
      Reaches ok s (dispatchAll now tag cs s)
  | [], _, _ => .refl
  | c :: cs, s, ⟨hc, hcs⟩ => by
    have hmove := (dispatch_handles hc now).reaches
    unfold dispatchAll
    split <;> rename_i heq <;> rw [heq] at hmove hcs
    · exact hmove.trans (dispatchAll_reaches now tag cs _ (hcs rfl))
    · exact hmove

lemma maybeSendShutdownOnPacketReceived_moves (s : DcSctpSocket) (p : SctpPacket) :
    Moves ok s (s.maybeSendShutdownOnPacketReceived p) := by
  unfold maybeSendShutdownOnPacketReceived
  split
  · rename_i hsent
    refine .single (.rearmsShutdownTimer (.inl hsent.1) ?_ s.tcb_sendShutdown)
    have h := s.control_sendShutdown
    simp only [control, Control.mk.injEq] at h
    simp [control, h]
  · exact .refl

lemma receivePacket_reaches {s : DcSctpSocket} {now : Timestamp} {packet : Option SctpPacket}
    (hok : EventOk ok s (now, .receivePacket packet)) : Reaches ok s (s.receivePacket now packet) := by
  unfold receivePacket
  split
  · exact .single ⟨some [], onError_move s _ _⟩
  rename_i p
  split
  · exact .single ⟨some [], onError_move s _ _⟩
  rename_i hvalid
  have hchunks := dispatchAll_reaches now p.verificationTag p.chunks _ (hok hvalid)
  exact .tail ((s.maybeSendShutdownOnPacketReceived_moves p).reaches.trans hchunks)
    ⟨some [], withTcb_move _ finishPacket_acts⟩

lemma step_reaches {s : DcSctpSocket} {e : Event} (hok : EventOk ok s e) :
    Reaches ok s (s.step e) := by
  obtain ⟨now, call⟩ := e
  cases call with
  | connect => exact s.connect_moves.reaches
  | shutdown => exact s.shutdown_moves.reaches
  | close => exact s.close_moves.reaches
  | send message sendOptions => exact (s.send_moves now message sendOptions).reaches
  | sendMany messages sendOptions => exact (s.sendMany_moves now messages sendOptions).reaches
  | resetStreams outgoingStreams => exact (s.resetStreams_moves outgoingStreams).reaches
  | getNextMessage => exact s.getNextMessage_handles.reaches
  | setMaxMessageSize maxMessageSize | setStreamPriority streamId priority
  | setBufferedAmountLowThreshold streamId bytes => exact .single ⟨some [], .of_eq rfl rfl⟩
  | handleTimeout id => exact (s.handleTimeout_moves now id).reaches
  | receivePacket packet => exact receivePacket_reaches hok

lemma run_of_moves {P : DcSctpSocket → Prop} {s : DcSctpSocket}
    (hmove : ∀ s s' calls, Move (fun _ _ _ => True) s s' calls → P s → P s') (evs : List Event)
    (hs : P s) : P (run step s evs) :=
  run_induction (fun s e h =>
    (step_reaches (eventOk_of_forall (fun _ _ _ => trivial) s e)).induction hmove h) evs hs

lemma run_reaches : ∀ (evs : List Event) (s : DcSctpSocket), Along step (EventOk ok) s evs →
    Reaches ok s (run step s evs)
  | [], _, _ => .refl
  | e :: evs, s, ⟨he, hevs⟩ => (step_reaches he).trans (run_reaches evs (s.step e) hevs)

/-! ## A connection opened by the peer -/

def peerInit : InitChunk :=
  { initiateTag := 2
    aRwnd := 100000
    nbrOutboundStreams := 1
    nbrInboundStreams := 1
    initialTsn := 10
    parameters := {} }

/-- The cookie that a closed socket answers `peerInit` with, if its random numbers are the
smallest ones. -/
def peerCookie : StateCookie :=
  { peerTag := 2
    myTag := 1
    peerInitialTsn := 10
    myInitialTsn := 0
    aRwnd := 100000
    tieTag := 0
    capabilities :=
      { negotiatedMaximumIncomingStreams := 1, negotiatedMaximumOutgoingStreams := 1 } }

def packetOf (tag : VerificationTag) (c : Chunk) : Event :=
  (0, .receivePacket (some ⟨tag, [c], by simp, true⟩))

def cookieEchoFromPeer : Event := packetOf 1 (.cookieEcho peerCookie.serialize)

def openedByPeer : List Event := [packetOf 0 (.init peerInit), cookieEchoFromPeer]

end DcSctpSocket

end WebRtc.Dcsctp
