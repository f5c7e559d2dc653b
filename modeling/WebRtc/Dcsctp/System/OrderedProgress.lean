import WebRtc.Dcsctp.System.Receiver

/-!
# dcSCTP — ordered streams do not stall

A receiver is fed chunks of a conforming sender's log in any order, with any loss and duplication.
By `NotStalled` no ordered stream stays behind the cumulative ack. It holds as long as the SSN of
every chunk that is passed on is less than half the SSN space away from the one before it on the
stream, and fails otherwise: the accepted window of 100000 TSNs is wider than the SSN space.
-/

namespace WebRtc.Dcsctp

open Lib Numerics Receives List

/-- A receiver with its history: the chunks it passed on, the number of the last message
seen on each ordered stream, and what was handed over for it. -/
structure Reception where
  receiver : Receiver
  received : List Nat
  last : StreamID → Nat
  handed : StreamID → List DcSctpMessage

namespace Reception

def init (initialTsn : TSN) (maxSizeBytes : Nat) : Reception :=
  ⟨Receiver.new initialTsn maxSizeBytes false, [], fun _ => 0, fun _ => []⟩

def arrive (initialTsn : TSN) (s : Reception) (k : Nat) (x : SentChunk) : Reception :=
  let receiver := s.receiver.receive (wireTsn initialTsn k) x.data
  if s.receiver.accepts (wireTsn initialTsn k) then
    let messages := receiver.queue.reassembledMessages.drop
      s.receiver.queue.reassembledMessages.length
    { receiver := receiver
      received := k :: s.received
      last := lastAfter s.last x
      handed := handedAfter s.handed x messages }
  else { s with receiver := receiver }

def step (initialTsn : TSN) (log : List SentChunk) (s : Reception) (k : Nat) : Reception :=
  match log[k]? with
  | none => s
  | some x => s.arrive initialTsn k x

lemma step_eq_arrive {tsn0 : TSN} {log : List SentChunk} {k : Nat} {x : SentChunk}
    (hk : log[k]? = some x) (s : Reception) : step tsn0 log s k = s.arrive tsn0 k x := by
  rw [step, hk]

/-- The numbers of an arriving chunk are near enough to be unwrapped: its TSN to the last one
the tracker observed, and, if the chunk is passed on, its message to the last one of its
stream. -/
def NearChunk (initialTsn : TSN) (s : Reception) (k : Nat) (x : SentChunk) : Prop :=
  s.receiver.tracker.tsnUnwrapper.Near (TrackerRun.firstPosition initialTsn + k) ∧
    (s.receiver.accepts (wireTsn initialTsn k) = true → x.data.isUnordered = false →
      (x.number : Int) - s.last x.data.streamId < 2 ^ 15 ∧
        (s.last x.data.streamId : Int) - x.number < 2 ^ 15)

instance (initialTsn : TSN) (s : Reception) (k : Nat) (x : SentChunk) :
    Decidable (NearChunk initialTsn s k x) := inferInstanceAs (Decidable (_ ∧ _))

def NearStep (initialTsn : TSN) (log : List SentChunk) (s : Reception) (k : Nat) : Prop :=
  ∀ x, log[k]? = some x → NearChunk initialTsn s k x

instance (initialTsn : TSN) (log : List SentChunk) (s : Reception) (k : Nat) :
    Decidable (NearStep initialTsn log s k) :=
  match hk : log[k]? with
  | none => isTrue fun x hx => absurd (hk.symm.trans hx) (by simp)
  | some x => decidable_of_iff (NearChunk initialTsn s k x)
      ⟨fun h y hy => Option.some.inj (hk.symm.trans hy) ▸ h, fun h => h x hk⟩

/-- When the cumulative ack has reached the last fragment of a message, the messages of its
stream up to that one have been handed over, in order. -/
def NotStalled (initialTsn : TSN) (log : List SentChunk) (s : Reception) : Prop :=
  ∀ (k : Nat) (x : SentChunk), log[k]? = some x → x.data.isUnordered = false →
    x.data.isEnd = true →
    TrackerRun.firstPosition initialTsn + k ≤ s.receiver.tracker.lastCumulativeAckedTsn →
    messagesBetween (dataLayout 0 log x.data.streamId 0) 0 (x.number + 1)
      <+: s.handed x.data.streamId

def Inv (initialTsn : TSN) (log : List SentChunk) (s : Reception) : Prop :=
  Receives initialTsn log (· ∈ s.received) s.last s.handed s.receiver

variable {initialTsn : TSN} {log : List SentChunk}

lemma inv_init (maxSize : Nat) : (init initialTsn maxSize).Inv initialTsn log := by
  have h := receives_new initialTsn log maxSize
  have hR : (fun k => k ∈ (init initialTsn maxSize).received) = fun _ => False := by
    funext k
    simp [init]
  rw [Inv, hR]
  exact h

lemma inv_step (hlog : Conforming log) (hep : ∀ x ∈ log, x.epoch = 0) (s : Reception) (k : Nat)
    (h : s.Inv initialTsn log) (hnear : NearStep initialTsn log s k) :
    (step initialTsn log s k).Inv initialTsn log := by
  unfold step
  cases hk : log[k]? with
  | none => exact h
  | some x =>
    obtain ⟨htsn, hssn⟩ := hnear x hk
    unfold arrive
    by_cases hacc : s.receiver.accepts (wireTsn initialTsn k) = true
    · obtain ⟨messages, hm, hrec⟩ := receive_accepted hlog hep h hk htsn hacc (hssn hacc)
      simp only [hacc, if_true]
      have hR : (fun k' => k' ∈ k :: s.received) = fun k' => k' ∈ s.received ∨ k' = k := by
        funext k'
        rw [mem_cons, or_comm]
      rw [Inv, hR, hm, drop_left]
      exact hrec
    · rw [Bool.not_eq_true] at hacc
      obtain ⟨-, hrec⟩ := receive_dropped h htsn hacc x.data
      simp only [hacc]
      exact hrec

lemma handed_arrive (hlog : Conforming log) (hep : ∀ x ∈ log, x.epoch = 0) {s : Reception} {k : Nat}
    {x : SentChunk} (h : s.Inv initialTsn log) (hk : log[k]? = some x)
    (hnear : NearChunk initialTsn s k x) :
    ∃ messages, (s.arrive initialTsn k x).receiver.queue.reassembledMessages =
        s.receiver.queue.reassembledMessages ++ messages ∧
      ((s.arrive initialTsn k x).handed = handedAfter s.handed x messages ∨
        (messages = [] ∧ (s.arrive initialTsn k x).handed = s.handed)) := by
  obtain ⟨htsn, hssn⟩ := hnear
  unfold arrive
  by_cases hacc : s.receiver.accepts (wireTsn initialTsn k) = true
  · obtain ⟨messages, hm, -⟩ := receive_accepted hlog hep h hk htsn hacc (hssn hacc)
    refine ⟨messages, ?_, .inl ?_⟩ <;> simp only [hacc, if_true]
    · exact hm
    · rw [hm, drop_left]
  rw [Bool.not_eq_true] at hacc
  obtain ⟨hq, -⟩ := receive_dropped h htsn hacc x.data
  refine ⟨[], ?_, .inr ⟨rfl, ?_⟩⟩ <;> simp only [hacc, Bool.false_eq_true, if_false]
  rw [hq, append_nil]

lemma notStalled_of_inv (hlog : Conforming log) (hep : ∀ x ∈ log, x.epoch = 0)
    (hshort : ∀ sid, Short (dataLayout 0 log sid 0)) {s : Reception} (h : s.Inv initialTsn log) :
    NotStalled initialTsn log s := by
  intro k x hk hord hend hcum
  obtain ⟨base, streams, -, -, -, hstr⟩ := h.queue
  obtain ⟨-, -, n, hf, hhand, hstop⟩ := hstr x.data.streamId
  have hlt : x.number < n := by
    by_contra hcon
    -- the expected message is complete: everything up to `k` has been received
    obtain ⟨hended, hbef⟩ := sent_before base hlog hk hord rfl
      (hep x (mem_of_getElem? hk)) hend (not_lt.mp hcon)
    refine hstop (hshort x.data.streamId) ⟨hended, fun j hj => ⟨?_, ?_⟩⟩
    · rwa [length_frags] at hj
    have := hbef j hj
    exact h.tracker.received_of_le (by omega)
  rw [hhand]
  exact ⟨messagesBetween (dataLayout 0 log x.data.streamId 0) (x.number + 1) n,
    messagesBetween_append (Nat.zero_le _) (by omega)⟩

lemma short_of_length (hlen : log.length ≤ 2 ^ 32) (base : Int) (sid : StreamID) :
    Short (dataLayout base log sid 0) := by
  intro i
  rw [length_frags]
  exact (length_filter_le _ _).trans hlen

def farPayload (k : Nat) : List UInt8 := if k = 65536 then [1] else [0]

end Reception

end WebRtc.Dcsctp
