import WebRtc.Dcsctp.Socket.Transitions

/-!
# dcSCTP — data outstanding when a shutdown goes on

`MaybeSendShutdownOrAck` waits until `unacked_items()` is zero. A chunk that the peer has reported
missing does not count any more, but is not acknowledged either. So the check lets the shutdown go
on with all data settled exactly if there are no nacked chunks left.
-/

namespace WebRtc.Dcsctp

open Lib

namespace OutstandingData

/-- The peer has the chunk, or the sender has given it up. -/
def Settled (o : OutstandingData) (tsn : Int) : Prop :=
  tsn ≤ o.lastCumulativeTsnAck ∨
    ∃ i, o.getItem tsn = some i ∧ (i.isAcked = true ∨ i.isAbandoned = true)

instance (o : OutstandingData) (tsn : Int) : Decidable (o.Settled tsn) :=
  decidable_of_iff (tsn ≤ o.lastCumulativeTsnAck ∨
    (o.getItem tsn).any (fun i => i.isAcked || i.isAbandoned) = true) (by
      unfold Settled
      cases o.getItem tsn <;> simp)

lemma settled_iff_of_unackedItems_eq_zero {o : OutstandingData} (hbooks : o.Bookkeeping)
    (hnone : o.unackedItems = 0) :
    (∀ tsn, tsn < o.nextTsn → o.Settled tsn) ↔
      ∀ tsn i, o.getItem tsn = some i → i.isNacked = true → i.isAbandoned = true := by
  have hflight : ∀ i ∈ o.outstandingData, i.isOutstanding = false := by
    have htally : inFlight (fun _ => 1) o.outstandingData = 0 := hbooks.counts.number.symm.trans hnone
    exact tally_one_eq_zero.mp htally
  constructor
  · intro h tsn i hi hnacked
    obtain ⟨hlow, hhigh⟩ := getItem_isSome.mp ⟨i, hi⟩
    rcases h tsn hhigh with hcum | ⟨j, hj, hj'⟩
    · omega
    obtain rfl : i = j := Option.some.inj (hi.symm.trans hj)
    rcases hj' with hacked | habandoned
    · simp_all [Item.isAcked, Item.isNacked]
    · exact habandoned
  intro h tsn htsn
  by_cases hcum : tsn ≤ o.lastCumulativeTsnAck
  · exact .inl hcum
  obtain ⟨i, hi⟩ := getItem_isSome.mpr ⟨lt_of_not_ge hcum, htsn⟩
  refine .inr ⟨i, hi, ?_⟩
  have houtstanding := hflight i (mem_of_getItem hi)
  cases hstate : i.ackState with
  | unacked => simp [Item.isOutstanding, hstate] at houtstanding
  | acked => exact .inl (by simp [Item.isAcked, hstate])
  | nacked => exact .inr (h tsn i hi (by simp [Item.isNacked, hstate]))

end OutstandingData

namespace DcSctpSocket

structure BooksInv (s : DcSctpSocket) : Prop where
  booked : ∀ t, s.tcb = some t → t.retransmissionQueue.Booked
  checked : ∀ o ∈ s.control.shutdownChecks, o.Bookkeeping ∧ o.unackedItems = 0

lemma move_booksInv {ok : DcSctpSocket → VerificationTag → Chunk → Prop} {s s' : DcSctpSocket}
    {calls : Option (List ReassemblyQueue.Operation)} (hmove : Move ok s s' calls) (h : BooksInv s) : BooksInv s' := by
  refine ⟨fun t' ht' => ?_, fun o ho => ?_⟩
  · rcases hmove.tcb_origin ht' with hfresh | ⟨t, ops, ht, hwork, -⟩
    · exact hfresh.books
    · exact hwork.books (h.booked t ht)
  rcases hmove.shutdownChecks with hsame | ⟨o', t, ht, hnew, hnone, hbooks⟩
  · exact h.checked o (hsame ▸ ho)
  rw [hnew, List.mem_append, List.mem_singleton] at ho
  rcases ho with ho | rfl
  · exact h.checked o ho
  · exact ⟨hbooks (h.booked t ht), hnone⟩

lemma booksInv_run (options : DcSctpOptions) (random : Nat → Nat) (canSend : Nat → Bool)
    (evs : List Event) : BooksInv (run step (new options random canSend) evs) :=
  run_of_moves (fun _ _ _ => move_booksInv) evs
    ⟨fun _ ht => (nomatch ht), fun _ ho => (nomatch ho)⟩

/-- Whenever the check lets a shutdown go on, every chunk that has a TSN is acknowledged or
abandoned exactly if none is nacked without being abandoned. -/
theorem shutdown_data_settled_iff (options : DcSctpOptions) (random : Nat → Nat)
    (canSend : Nat → Bool) (evs : List Event) (o : OutstandingData)
    (ho : o ∈ (run step (new options random canSend) evs).shutdownChecks) :
    (∀ tsn, tsn < o.nextTsn → o.Settled tsn) ↔
      ∀ tsn i, o.getItem tsn = some i → i.isNacked = true → i.isAbandoned = true := by
  obtain ⟨hbooks, hnone⟩ := (booksInv_run options random canSend evs).checked o ho
  exact OutstandingData.settled_iff_of_unackedItems_eq_zero hbooks hnone

def oneByte : Call := .send ⟨0, 51, [7]⟩ {}

def secondChunkOnly : Event :=
  packetOf 1 (.sack ⟨0xffffffff, 100000, [⟨2, 2⟩], OrdMap.empty⟩)

def bothChunks : Event := packetOf 1 (.sack ⟨1, 100000, [], OrdMap.empty⟩)

/-- `Shutdown` waits for two chunks, which the peer then acknowledges. -/
theorem shutdown_data_settled_after_ack :
    ∃ o ∈ (run step (new {} (fun _ => 0) fun _ => true)
        (openedByPeer ++ [(0, oneByte), (0, oneByte), (0, .shutdown), bothChunks])).shutdownChecks,
      ∀ tsn, tsn < o.nextTsn → o.Settled tsn := by
  obtain ⟨o, ho, hnil⟩ : ∃ o ∈ (run step (new {} (fun _ => 0) fun _ => true)
      (openedByPeer ++ [(0, oneByte), (0, oneByte), (0, .shutdown), bothChunks])).shutdownChecks,
      o.outstandingData = [] := by
    decide +kernel
  refine ⟨o, ho, (shutdown_data_settled_iff {} (fun _ => 0) (fun _ => true) _ o ho).mpr ?_⟩
  intro tsn i hi
  exact absurd (OutstandingData.mem_of_getItem hi) (by simp [hnil])

/-- The peer has the second chunk only, and the SHUTDOWN is sent although the first one is not
acknowledged. -/
theorem shutdown_before_data_settled : (run step (new {} (fun _ => 0) fun _ => true)
    (openedByPeer ++ [(0, oneByte), (0, oneByte), (0, .shutdown)])).state = .shutdownPending ∧
      (run step (new {} (fun _ => 0) fun _ => true)
        (openedByPeer ++ [(0, oneByte), (0, oneByte), (0, .shutdown), secondChunkOnly])).state =
        .shutdownSent ∧
      ∃ o ∈ (run step (new {} (fun _ => 0) fun _ => true)
          (openedByPeer ++ [(0, oneByte), (0, oneByte), (0, .shutdown), secondChunkOnly])).shutdownChecks,
        ∃ tsn ∈ o.tsns, ¬ o.Settled tsn := by
  decide +kernel

/-- **The books stay right whatever the peer sends.** After any calls, timeouts and packets, unless
`ExpireOutstandingChunks` has used an iterator that was no longer valid: the checks of
`OutstandingData::IsConsistent` hold, no TSN that was looked up was missing, no counter was
decreased below zero, and nothing is left behind for fast retransmission. -/
theorem books_right_whatever_arrives (options : DcSctpOptions) (random : Nat → Nat)
    (canSend : Nat → Bool) (evs : List Event) (t : TransmissionControlBlock)
    (ht : (run step (new options random canSend) evs).tcb = some t) :
    let o := t.retransmissionQueue.outstandingData
    o.iteratorsLost = false →
      o.isConsistent = true ∧ o.fault = false ∧
        ∀ tsn, o.toBeFastRetransmitted.contains tsn = false := by
  intro o hkept
  have hbooked := (booksInv_run options random canSend evs).booked t ht
  exact ⟨hbooked.books.isConsistent, hbooked.books.counts.sound.trans hkept, hbooked.fast⟩

theorem books_right_after_gap : ∃ t, (run step (new {} (fun _ => 0) fun _ => true)
    (openedByPeer ++ [(0, oneByte), (0, oneByte), secondChunkOnly])).tcb = some t ∧
      t.retransmissionQueue.outstandingData.isConsistent = true := by
  have htcb : (run step (new {} (fun _ => 0) fun _ => true)
      (openedByPeer ++ [(0, oneByte), (0, oneByte), secondChunkOnly])).tcb.any
        (fun t => !t.retransmissionQueue.outstandingData.iteratorsLost) = true := by
    decide +kernel
  obtain ⟨t, ht, hkept⟩ := Option.any_eq_true _ _ |>.mp htcb
  exact ⟨t, ht, (books_right_whatever_arrives {} (fun _ => 0) (fun _ => true) _ t ht
    (by simpa using hkept)).1⟩

end DcSctpSocket

end WebRtc.Dcsctp
