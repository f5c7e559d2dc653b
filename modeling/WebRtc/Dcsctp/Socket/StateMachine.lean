import WebRtc.Dcsctp.Socket.Transitions

/-!
# dcSCTP — the state machine of a socket

`IsConsistent` ties the state to the TCB and to the timers T1 and T2. Every move keeps it but one:
`HandleCookieEcho` establishes the association in whatever state the socket is in, and leaves T2
running. In the shutdown states a COOKIE-ECHO therefore has to be one that is discarded, or one that
replaces the TCB while T2 is not running.
-/

namespace WebRtc.Dcsctp

open Lib

namespace DcSctpSocket

def copesWith : SocketState → CookieCase → Bool
  | .shutdownPending, c | .shutdownReceived, c => c ≠ .duplicate ∧ c ≠ .other
  | .shutdownSent, c => c = .late
  | .shutdownAckSent, c => c = .restarted ∨ c = .late
  | _, _ => true

def CookieInOrder (s : DcSctpSocket) (tag : VerificationTag) : Chunk → Prop
  | .cookieEcho cookie => ∀ c ∈ cookie.deserialized, ∀ t ∈ s.tcb,
      copesWith s.state (cookieCase t tag c) = true
  | _ => True

instance (s : DcSctpSocket) (tag : VerificationTag) (c : Chunk) : Decidable (CookieInOrder s tag c) := by
  unfold CookieInOrder
  split <;> infer_instance

/-- `IsConsistent`, apart from the messages that wait in the reassembly queue. -/
def MachineOk (c : Control) (tcb : Option TransmissionControlBlock) : Prop :=
  match c.state with
  | .closed => tcb = none ∧ c.t1Init = false ∧ c.t1Cookie = false ∧ c.t2Shutdown = false
  | .cookieWait => tcb = none ∧ c.t1Init = true ∧ c.t1Cookie = false ∧ c.t2Shutdown = false
  | .cookieEchoed => (∃ t, tcb = some t ∧ t.cookieEchoChunk.isSome = true) ∧
    c.t1Init = false ∧ c.t1Cookie = true ∧ c.t2Shutdown = false
  | .established | .shutdownPending | .shutdownReceived =>
    tcb.isSome = true ∧ c.t1Init = false ∧ c.t1Cookie = false ∧ c.t2Shutdown = false
  | .shutdownSent | .shutdownAckSent =>
    tcb.isSome = true ∧ c.t1Init = false ∧ c.t1Cookie = false ∧ c.t2Shutdown = true

structure Consistent (s : DcSctpSocket) : Prop where
  machine : MachineOk s.control s.tcb
  delivered : ∀ t, s.tcb = some t → t.reassemblyQueue.Delivered s.control.pullMode

lemma isConsistent_iff (s : DcSctpSocket) : s.isConsistent = true ↔ Consistent s := by
  have hcons : Consistent s ↔
      (∀ t, s.tcb = some t → t.reassemblyQueue.Delivered s.control.pullMode) ∧
        MachineOk s.control s.tcb := ⟨fun h => ⟨h.delivered, h.machine⟩, fun h => ⟨h.2, h.1⟩⟩
  unfold isConsistent
  rw [Bool.and_eq_true, hcons]
  refine and_congr ?_ ?_
  · cases s.tcb <;> simp [ReassemblyQueue.Delivered, control]
  unfold MachineOk control
  cases s.state <;> cases s.tcb <;> simp [and_assoc, and_comm]

lemma consistent_new (options : DcSctpOptions) (random : Nat → Nat) (canSend : Nat → Bool) :
    Consistent (new options random canSend) :=
  ⟨⟨rfl, rfl, rfl, rfl⟩, fun t ht => by cases ht⟩

/-! ## One move -/

variable {o' o : Option TransmissionControlBlock}

lemma MachineOk.works {c : Control} {pull : Bool} {ops : List ReassemblyQueue.Operation}
    (h : MachineOk c o) (hrel : Option.Rel (Works pull ops) o o') : MachineOk c o' := by
  cases hrel with
  | none => exact h
  | some hwks =>
    unfold MachineOk at h ⊢
    cases hstate : c.state <;> rw [hstate] at h <;> simp only at h ⊢
    case cookieEchoed =>
      obtain ⟨⟨t, ht, hcookie⟩, htimers⟩ := h
      cases ht
      exact ⟨⟨_, rfl, hwks.cookie ▸ hcookie⟩, htimers⟩
    case closed => exact absurd h.1 (by simp)
    case cookieWait => exact absurd h.1 (by simp)
    all_goals exact ⟨rfl, h.2⟩

variable {R : TransmissionControlBlock → TransmissionControlBlock → Prop}

lemma isSome_of_rel (hrel : Option.Rel R o o') : o'.isSome = o.isSome := by
  cases hrel <;> rfl

lemma delivered_of_rel {pullMode : Bool} (hR : ∀ t t', R t t' →
    t.reassemblyQueue.Delivered pullMode → t'.reassemblyQueue.Delivered pullMode)
    (hrel : Option.Rel R o o') (h : ∀ t, o = some t → t.reassemblyQueue.Delivered pullMode) :
    ∀ t, o' = some t → t.reassemblyQueue.Delivered pullMode := by
  rintro t' rfl
  cases hrel with
  | some hr => exact hR _ _ hr (h _ rfl)

variable {s s' : DcSctpSocket}

lemma Consistent.machine_at (h : Consistent s) {state : SocketState}
    (hstate : s.state = state) : MachineOk { s.control with state } s.tcb := by
  have hmach := h.machine
  subst hstate
  exact hmach

/-- T2 only runs in the two states in which a SHUTDOWN or SHUTDOWN-ACK has been sent. -/
lemma Consistent.t2Shutdown_eq_false (h : Consistent s)
    (hstate : s.state ≠ .shutdownSent ∧ s.state ≠ .shutdownAckSent) : s.control.t2Shutdown = false := by
  cases hs : s.state with
  | shutdownSent => exact absurd hs hstate.1
  | shutdownAckSent => exact absurd hs hstate.2
  | _ => exact (h.machine_at hs).2.2.2

lemma Consistent.isSome_tcb (h : Consistent s)
    (hstate : s.state = .shutdownSent ∨ s.state = .shutdownAckSent) : s.tcb.isSome = true := by
  rcases hstate with hstate | hstate <;> exact (h.machine_at hstate).1

variable {t : TransmissionControlBlock} {tag : VerificationTag} {cookie : Cookie} {c : StateCookie}

/-- A cookie that is accepted although there is a TCB is in order only before T2 runs. -/
lemma CookieInOrder.not_sent (hok : CookieInOrder s tag (.cookieEcho cookie))
    (hc : cookie.deserialized = some c) (ht : s.tcb = some t) (hlate : cookieCase t tag c ≠ .late)
    (hrestarted : cookieCase t tag c = .restarted → s.state ≠ .shutdownAckSent) :
    s.state ≠ .shutdownSent ∧ s.state ≠ .shutdownAckSent := by
  have hcopes := hok c hc t ht
  constructor <;> intro hstate <;> rw [hstate] at hcopes
  · exact hlate (of_decide_eq_true hcopes)
  rcases of_decide_eq_true hcopes with hcase | hcase
  · exact hrestarted hcase hstate
  · exact hlate hcase

variable {calls : Option (List ReassemblyQueue.Operation)}

lemma move_consistent
    (hmove : Move CookieInOrder s s' calls) (h : Consistent s) : Consistent s' := by
  have hdlv := h.delivered
  cases hmove with
  | works hops hcontrol htcb =>
    refine ⟨?_, ?_⟩ <;> rw [hcontrol]
    · exact h.machine.works htcb
    · exact delivered_of_rel (fun _ _ hw => hw.delivered) htcb hdlv
  | stores hops hok hcontrol ht hdata ht' htcb =>
    refine ⟨?_, ?_⟩ <;> rw [hcontrol, ht']
    · have hmach := h.machine
      rw [ht] at hmach
      exact hmach.works (.some htcb)
    · rintro t ⟨⟩
      exact htcb.delivered (hdlv _ ht)
  | expires hstate hcontrol htcb =>
    obtain ⟨hnone, hinit, hcookie, hshut⟩ := h.machine_at hstate
    refine ⟨?_, ?_⟩ <;> rw [hcontrol, htcb]
    · have hclosed : s.control.state = .closed := hstate
      simp_all [MachineOk]
    · exact hdlv
  | closes hcontrol htcb =>
    refine ⟨?_, ?_⟩ <;> rw [hcontrol, htcb]
    · exact ⟨rfl, rfl, rfl, rfl⟩
    · exact fun _ ht => by cases ht
  | connects hstate hcontrol htcb =>
    obtain ⟨hnone, -, hcookie, hshut⟩ := h.machine_at hstate
    refine ⟨?_, ?_⟩ <;> rw [hcontrol, htcb]
    · exact ⟨hnone, rfl, hcookie, hshut⟩
    · exact hdlv
  | echoesCookie hstate hcontrol htcb hfresh hcookie =>
    obtain ⟨-, -, -, hshut⟩ := h.machine_at hstate
    refine ⟨?_, ?_⟩ <;> rw [hcontrol, htcb]
    · exact ⟨⟨_, rfl, hcookie⟩, rfl, rfl, hshut⟩
    rintro t ⟨⟩
    exact hfresh.delivered
  | receivesCookieAck hstate hcontrol htcb =>
    obtain ⟨⟨t, ht, -⟩, hinit, -, hshut⟩ := h.machine_at hstate
    refine ⟨?_, ?_⟩ <;> rw [hcontrol]
    · exact ⟨by simp [isSome_of_rel htcb, ht], hinit, rfl, hshut⟩
    · exact delivered_of_rel (fun _ _ he => he.delivered) htcb hdlv
  | staysEstablished hok hc ht hcase hcontrol ht' htcb =>
    have hstate := CookieInOrder.not_sent hok hc ht
      (by rcases hcase with hcase | hcase <;> simp [hcase])
      (by rcases hcase with hcase | hcase <;> simp [hcase])
    refine ⟨?_, ?_⟩ <;> rw [hcontrol, ht']
    · exact ⟨rfl, rfl, rfl, h.t2Shutdown_eq_false hstate⟩
    rintro t ⟨⟩
    exact htcb.delivered (hdlv _ ht)
  | establishes hok hc hcase hcontrol htcb hfresh =>
    have hstate : s.state ≠ .shutdownSent ∧ s.state ≠ .shutdownAckSent := by
      cases ht : s.tcb with
      | none =>
        rw [← not_or]
        intro hsent
        have hsome := h.isSome_tcb hsent
        simp [ht] at hsome
      | some t =>
        rcases hcase t ht with ⟨hrestarted, hnot⟩ | hsimultaneous
        · exact CookieInOrder.not_sent hok hc ht (by simp [hrestarted]) (fun _ => hnot)
        · exact CookieInOrder.not_sent hok hc ht (by simp [hsimultaneous]) (by simp [hsimultaneous])
    refine ⟨?_, ?_⟩ <;> rw [hcontrol, htcb]
    · exact ⟨rfl, rfl, rfl, h.t2Shutdown_eq_false hstate⟩
    rintro t ⟨⟩
    exact hfresh.delivered
  | startsShutdown hstate hcontrol hsome htcb =>
    refine ⟨?_, ?_⟩ <;> rw [hcontrol, htcb]
    · exact ⟨hsome, rfl, rfl, h.t2Shutdown_eq_false hstate⟩
    · exact hdlv
  | receivesShutdown hstate hcontrol htcb =>
    refine ⟨?_, ?_⟩ <;> rw [hcontrol, htcb]
    · rcases hstate with hstate | hstate
      · have hmach := h.machine_at hstate
        exact hmach
      have hmach := h.machine_at hstate
      exact hmach
    · exact hdlv
  | passesCheck hstate hcontrol hnone hbooks ht ht' htcb =>
    refine ⟨?_, ?_⟩ <;> rw [hcontrol, ht']
    · rcases hstate with ⟨hstate, rfl⟩ | ⟨hstate, rfl⟩ <;>
      · obtain ⟨-, hinit, hcookie, -⟩ := h.machine_at hstate
        exact ⟨rfl, hinit, hcookie, rfl⟩
    · rintro t ⟨⟩
      exact htcb.delivered (hdlv _ ht)
  | crossesShutdown hstate hcontrol htcb =>
    obtain ⟨hsome, hinit, hcookie, -⟩ := h.machine_at hstate
    refine ⟨?_, ?_⟩ <;> rw [hcontrol, htcb]
    · exact ⟨hsome, hinit, hcookie, rfl⟩
    · exact hdlv
  | rearmsShutdownTimer hstate hcontrol htcb =>
    refine ⟨?_, ?_⟩ <;> rw [hcontrol, htcb]
    · rcases hstate with hstate | hstate <;>
      · obtain ⟨hsome, hinit, hcookie, -⟩ := h.machine_at hstate
        have hstate : s.control.state = _ := hstate
        simp_all [MachineOk]
    · exact hdlv

/-! ## The way back -/

/-- The socket is neither established nor about to be, unless it has set up another association
than the first `n`. -/
def NotBack (n : Nat) (c : Control) : Prop :=
  n < c.associations ∨ (n = c.associations ∧ c.state ≠ .established ∧ c.state ≠ .cookieEchoed)

lemma notBack_of_isShutdown (h : s.state.isShutdown = true) :
    NotBack s.associations s.control := by
  have hstate : s.state ≠ .established ∧ s.state ≠ .cookieEchoed := by
    constructor <;> intro hs <;> simp [hs, SocketState.isShutdown] at h
  exact .inr ⟨rfl, hstate⟩

lemma NotBack.to {n : Nat} {c c' : Control} (h : NotBack n c)
    (hassoc : c'.associations = c.associations)
    (hstate : c'.state ≠ .established ∧ c'.state ≠ .cookieEchoed) : NotBack n c' := by
  rcases h with h | ⟨h, -⟩
  · exact .inl (hassoc ▸ h)
  · exact .inr ⟨h.trans hassoc.symm, hstate⟩

/-- A kept TCB is established again only from the states that were on the way there. -/
lemma not_staysEstablished (h : Consistent s)
    (hok : CookieInOrder s tag (.cookieEcho cookie)) (hc : cookie.deserialized = some c)
    (ht : s.tcb = some t) (hcase : cookieCase t tag c = .duplicate ∨ cookieCase t tag c = .other)
    (hstate : s.state ≠ .established ∧ s.state ≠ .cookieEchoed) : False := by
  have hcopes := hok c hc t ht
  cases hs : s.state with
  | closed | cookieWait => exact absurd (ht.symm.trans (h.machine_at hs).1) (by simp)
  | cookieEchoed => exact hstate.2 hs
  | established => exact hstate.1 hs
  | _ => rcases hcase with hcase | hcase <;> simp [hs, hcase, copesWith] at hcopes

lemma move_notBack {n : Nat} (hmove : Move CookieInOrder s s' calls)
    (hcons : Consistent s) (h : NotBack n s.control) : NotBack n s'.control := by
  cases hmove with
  | works hops hcontrol htcb | stores hops hok hcontrol ht hdata ht' htcb
  | expires hstate hcontrol htcb | rearmsShutdownTimer hstate hcontrol htcb => exact hcontrol ▸ h
  | closes hcontrol htcb | connects hstate hcontrol htcb
  | startsShutdown hstate hcontrol hsome htcb | receivesShutdown hstate hcontrol htcb =>
    exact h.to (hcontrol ▸ rfl) (by simp [hcontrol])
  | echoesCookie hstate hcontrol htcb hfresh hcookie
  | establishes hok hc hcase hcontrol htcb hfresh =>
    rw [hcontrol]
    rcases h with h | ⟨h, -⟩
    · exact .inl (Nat.lt_succ_of_lt h)
    · exact .inl (Nat.lt_succ_of_le h.le)
  | receivesCookieAck hstate hcontrol htcb =>
    rcases h with h | ⟨-, -, h⟩
    · exact .inl (hcontrol ▸ h)
    · exact absurd hstate h
  | staysEstablished hok hc ht hcase hcontrol ht' htcb =>
    rcases h with h | ⟨-, h⟩
    · exact .inl (hcontrol ▸ h)
    · exact (not_staysEstablished hcons hok hc ht hcase h).elim
  | passesCheck hstate hcontrol hnone hbooks ht ht' htcb =>
    refine h.to (hcontrol ▸ rfl) ?_
    rw [hcontrol]
    rcases hstate with ⟨-, rfl⟩ | ⟨-, rfl⟩ <;> simp
  | crossesShutdown hstate hcontrol htcb => exact h.to (hcontrol ▸ rfl) (by simp [hcontrol])

/-! ## Runs -/

lemma reaches_consistent (h : Reaches CookieInOrder s s')
    (hs : Consistent s) : Consistent s' := h.induction (fun _ _ _ => move_consistent) hs

/-- While every COOKIE-ECHO is one the socket copes with, the socket is consistent after every
event, and after a shutdown has begun it is established only with another association. -/
theorem consistent_while_cookies_in_order (options : DcSctpOptions) (random : Nat → Nat)
    (canSend : Nat → Bool) (evs evs' : List Event)
    (hok : Along step (EventOk CookieInOrder) (new options random canSend) (evs ++ evs')) :
    (run step (new options random canSend) evs).isConsistent = true ∧
      ((run step (new options random canSend) evs).state.isShutdown = true →
        (run step (new options random canSend) (evs ++ evs')).state = .established →
        (run step (new options random canSend) evs).associations <
          (run step (new options random canSend) (evs ++ evs')).associations) := by
  obtain ⟨hevs, hevs'⟩ := along_append.mp hok
  rw [run_append]
  obtain ⟨s, hs⟩ : ∃ s, s = run step (new options random canSend) evs := ⟨_, rfl⟩
  rw [← hs] at hevs' ⊢
  have hcons : Consistent s :=
    hs ▸ reaches_consistent (run_reaches evs _ hevs) (consistent_new options random canSend)
  refine ⟨(isConsistent_iff s).mpr hcons, fun hshut hestab => ?_⟩
  have hlat := (run_reaches evs' s hevs').induction
    (P := fun s' => Consistent s' ∧ NotBack s.associations s'.control)
    (fun _ _ _ hmove h => ⟨move_consistent hmove h.1, move_notBack hmove h.1 h.2⟩)
    ⟨hcons, notBack_of_isShutdown hshut⟩
  rcases hlat.2 with hnew | ⟨-, hnot, -⟩
  · exact hnew
  · exact absurd hestab hnot

/-- A shutdown that the peer acknowledges, and a second association. -/
theorem consistent_while_reconnecting :
    (run step (new {} (fun _ => 0) fun _ => true) (openedByPeer ++ [(0, .shutdown)])).isConsistent =
        true ∧
      (run step (new {} (fun _ => 0) fun _ => true)
        (openedByPeer ++ [(0, .shutdown)])).associations <
      (run step (new {} (fun _ => 0) fun _ => true)
        ((openedByPeer ++ [(0, .shutdown)]) ++ packetOf 1 .shutdownAck :: openedByPeer)).associations := by
  have h := consistent_while_cookies_in_order {} (fun _ => 0) (fun _ => true)
    (openedByPeer ++ [(0, .shutdown)]) (packetOf 1 .shutdownAck :: openedByPeer) (by decide +kernel)
  exact ⟨h.1, h.2 (by decide +kernel) (by decide +kernel)⟩

/-- A duplicate of the COOKIE-ECHO after `Shutdown`: the socket is established again, with the same
association and T2 running. -/
theorem inconsistent_after_late_cookie :
    (run step (new {} (fun _ => 0) fun _ => true) (openedByPeer ++ [(0, .shutdown)])).state =
        .shutdownSent ∧
      (run step (new {} (fun _ => 0) fun _ => true)
        (openedByPeer ++ [(0, .shutdown), cookieEchoFromPeer])).state = .established ∧
      (run step (new {} (fun _ => 0) fun _ => true)
        (openedByPeer ++ [(0, .shutdown), cookieEchoFromPeer])).associations = 1 ∧
      (run step (new {} (fun _ => 0) fun _ => true)
        (openedByPeer ++ [(0, .shutdown), cookieEchoFromPeer])).isConsistent = false := by
  decide +kernel

/-! ## Whatever the peer sends -/

/-- What `IsConsistent` asks of the TCB and of T1. -/
def Backed (c : Control) (tcb : Option TransmissionControlBlock) : Prop :=
  (tcb.isSome = true ↔ c.state ≠ .closed ∧ c.state ≠ .cookieWait) ∧
    (c.t1Init = true ↔ c.state = .cookieWait) ∧ (c.t1Cookie = true ↔ c.state = .cookieEchoed)

lemma move_backed {ok : DcSctpSocket → VerificationTag → Chunk → Prop} (hmove : Move ok s s' calls)
    (h : Backed s.control s.tcb) : Backed s'.control s'.tcb := by
  have heq : s.control.state = s.state := rfl
  unfold Backed at h ⊢
  cases hmove with
  | works hops hc htcb => rwa [hc, isSome_of_rel htcb]
  | receivesCookieAck hstate hc htcb =>
    rw [hc, isSome_of_rel htcb]
    simp_all
  | receivesShutdown hstate hc htcb => rcases hstate with hstate | hstate <;> simp_all
  | passesCheck hstate hc hnone hbooks ht ht' htcb =>
    rcases hstate with ⟨hstate, rfl⟩ | ⟨hstate, rfl⟩ <;> simp_all
  -- the others say what becomes of the TCB, or leave it
  | _ => simp_all

/-- **The TCB and T1 fit the state, whatever the peer sends.** -/
theorem backed_whatever_arrives (options : DcSctpOptions) (random : Nat → Nat)
    (canSend : Nat → Bool) (evs : List Event) :
    let s := run step (new options random canSend) evs
    Backed s.control s.tcb :=
  run_of_moves (P := fun s => Backed s.control s.tcb) (fun _ _ _ => move_backed) evs
    (by simp [Backed, new, control])

end DcSctpSocket

end WebRtc.Dcsctp
