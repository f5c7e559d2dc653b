import WebRtc.Dcsctp.Rx.ReassemblyQueue
import WebRtc.Dcsctp.Tx.OutstandingData

/-!
# dcSCTP — skipping abandoned messages

The sender announces, for every stream, the largest number among the messages it skips; the receiver
moves its expected number behind it. The sender compares the numbers as they are on the wire, so
where the skipped messages cross the wrap-around it announces one that is not the last, and the
receiver waits for a message that never comes.
-/

namespace WebRtc.Dcsctp

open Lib Numerics List OrdMap InterleavedStream ReassemblyQueue InterleavedReassemblyStreams SkippedStream

/-! ## Numbers in send order -/

variable {w : Nat}

/-- The chunks carry these numbers in send order: every chunk is of the same message as the one
before it or of the next, from message `first` up to message `last`. -/
def InSendOrder (last : Int) : (first : Int) → List (BitVec w) → Prop
  | _, [] => False
  | first, [n] => n = wrap w first ∧ first = last
  | first, n :: rest =>
    n = wrap w first ∧ (InSendOrder last first rest ∨ InSendOrder last (first + 1) rest)

instance InSendOrder.decidable (last : Int) :
    ∀ (first : Int) (numbers : List (BitVec w)), Decidable (InSendOrder last first numbers)
  | _, [] => isFalse id
  | first, [n] => inferInstanceAs (Decidable (n = wrap w first ∧ first = last))
  | first, n :: m :: rest =>
    have := InSendOrder.decidable last first (m :: rest)
    have := InSendOrder.decidable last (first + 1) (m :: rest)
    inferInstanceAs (Decidable (n = wrap w first ∧ (InSendOrder last first (m :: rest) ∨ _)))

lemma InSendOrder.last_mem {last : Int} : ∀ {first : Int} {numbers : List (BitVec w)},
    InSendOrder last first numbers → wrap w last ∈ numbers
  | _, [n], ⟨hn, hlast⟩ => by simp [hn, hlast]
  | _, _ :: _ :: _, ⟨_, .inl h⟩ | _, _ :: _ :: _, ⟨_, .inr h⟩ => mem_cons_of_mem _ h.last_mem

def largest (numbers : List (BitVec w)) : BitVec w := numbers.foldl max 0

lemma foldl_max_mem (numbers : List (BitVec w)) (n : BitVec w) :
    numbers.foldl max n = n ∨ numbers.foldl max n ∈ numbers := by
  induction numbers generalizing n with
  | nil => exact .inl rfl
  | cons m rest ih =>
    rcases ih (max n m) with h | h
    · rcases max_choice n m with hmax | hmax
      · exact .inl (by rw [foldl_cons, h, hmax])
      · exact .inr (by rw [foldl_cons, h, hmax]; exact mem_cons_self ..)
    · exact .inr (mem_cons_of_mem _ h)

lemma le_foldl_max (numbers : List (BitVec w)) (n : BitVec w) :
    n ≤ numbers.foldl max n ∧ ∀ m ∈ numbers, m ≤ numbers.foldl max n := by
  induction numbers generalizing n with
  | nil => exact ⟨le_refl n, fun _ h => by cases h⟩
  | cons k rest ih =>
    obtain ⟨hfirst, hrest⟩ := ih (max n k)
    refine ⟨(le_max_left n k).trans hfirst, ?_⟩
    exact forall_mem_cons.mpr ⟨(le_max_right n k).trans hfirst, hrest⟩

variable {numbers : List (BitVec w)}

lemma le_largest {n : BitVec w} (h : n ∈ numbers) : n ≤ largest numbers :=
  (le_foldl_max numbers 0).2 n h

lemma largest_mem {n : BitVec w} (h : n ∈ numbers) : largest numbers ∈ numbers := by
  rcases foldl_max_mem numbers 0 with hzero | hmem
  · have hn : n = largest numbers := le_antisymm (le_largest h) (by
      rw [largest, hzero]
      exact Nat.zero_le _)
    exact hn ▸ h
  · exact hmem

/-! ## One stream -/

def skip (u : SeqNumUnwrapper w) (next : Int) (n : BitVec w) : Int :=
  if u.peekUnwrap n ≥ next then u.peekUnwrap n + 1 else next

/-- The largest number is the last one, which the receiver recognizes; or the receiver is past all
of them and does not take the largest for a later one. -/
def Announceable (u : SeqNumUnwrapper w) (next last : Int) (numbers : List (BitVec w)) : Prop :=
  ((∀ n ∈ numbers, n ≤ wrap w last) ∧ u.Recovers last) ∨
    (next = last + 1 ∧ ∀ n ∈ numbers, (∀ m ∈ numbers, m ≤ n) → u.peekUnwrap n ≤ last)

-- The instances are given, since the ones found by search would run through all bit vectors.
instance (u : SeqNumUnwrapper w) (next last : Int) (numbers : List (BitVec w)) :
    Decidable (Announceable u next last numbers) :=
  have hle (n : BitVec w) : Decidable (∀ m ∈ numbers, m ≤ n) := decidableBAll (· ≤ n) numbers
  have := decidableBAll (fun n => (∀ m ∈ numbers, m ≤ n) → u.peekUnwrap n ≤ last) numbers
  have := hle (wrap w last)
  inferInstanceAs (Decidable ((_ ∧ _) ∨ (_ ∧ _)))

lemma skip_eq_iff {u : SeqNumUnwrapper w} {next first last : Int}
    (hord : InSendOrder last first numbers) (hnext : next ≤ last + 1) :
    skip u next (largest numbers) = last + 1 ↔ Announceable u next last numbers := by
  have hlast := hord.last_mem
  unfold skip Announceable SeqNumUnwrapper.Recovers
  constructor
  · intro h
    by_cases hge : u.peekUnwrap (largest numbers) ≥ next
    · rw [if_pos hge] at h
      -- The announced number is unwrapped to the last one, so it is its wire number.
      have hpeek : u.peekUnwrap (largest numbers) = last := by omega
      have hwire : largest numbers = wrap w last := by
        rw [← hpeek, u.wrap_peekUnwrap]
      exact .inl ⟨fun n hn => hwire ▸ le_largest hn, hwire ▸ hpeek⟩
    · rw [if_neg hge] at h
      refine .inr ⟨h, fun n hn hmax => ?_⟩
      have hn : n = largest numbers := le_antisymm (le_largest hn) (hmax _ (largest_mem hn))
      rw [hn]
      omega
  · rintro (⟨hmax, hrecov⟩ | ⟨hdone, hbel⟩)
    · have hwire : largest numbers = wrap w last :=
        le_antisymm (hmax _ (largest_mem hlast)) (le_largest hlast)
      rw [hwire, hrecov]
      split <;> omega
    · have hpeek := hbel _ (largest_mem hlast) fun m hm => le_largest hm
      rw [if_neg (by omega), hdone]

/-! ## The announced numbers -/

namespace OutstandingData

def raiseAll {κ : Type} [LinearOrder κ] (m : OrdMap κ (BitVec w)) (l : List (κ × BitVec w)) :
    OrdMap κ (BitVec w) :=
  l.foldl (fun m e => raise m e.1 e.2) m

def numbersOf {κ : Type} [DecidableEq κ] (k : κ) (l : List (κ × BitVec w)) : List (BitVec w) :=
  (l.filter fun e => e.1 = k).map Prod.snd

lemma find?_raiseAll {κ : Type} [LinearOrder κ] (k : κ) (l : List (κ × BitVec w))
    (m : OrdMap κ (BitVec w)) :
    (raiseAll m l).find? k =
      if numbersOf k l = [] then m.find? k
      else some ((numbersOf k l).foldl max ((m.find? k).getD 0)) := by
  induction l generalizing m with
  | nil => simp [raiseAll, numbersOf]
  | cons e rest ih =>
    have hstep : raiseAll m (e :: rest) = raiseAll (raise m e.1 e.2) rest := rfl
    rw [hstep, ih]
    by_cases he : e.1 = k
    · have hcons : numbersOf k (e :: rest) = e.2 :: numbersOf k rest := by simp [numbersOf, he]
      have hfind : (raise m e.1 e.2).find? k = some (max ((m.find? k).getD 0) e.2) := by
        rw [raise, he, find?_insert_self]
      rw [hcons, hfind, if_neg (cons_ne_nil _ _)]
      split
      · rename_i hnil
        rw [hnil]
        rfl
      · rfl
    · have hcons : numbersOf k (e :: rest) = numbersOf k rest := by simp [numbersOf, he]
      have hfind : (raise m e.1 e.2).find? k = m.find? k := by
        rw [raise, find?_insert_ne _ _ (Ne.symm he)]
      rw [hcons, hfind]

lemma mem_raiseAll {κ : Type} [LinearOrder κ] {k : κ} {l : List (κ × BitVec w)}
    (h : numbersOf k l ≠ []) : (k, largest (numbersOf k l)) ∈ raiseAll OrdMap.empty l := by
  rw [← find?_eq_some, find?_raiseAll, if_neg h]
  rfl

variable (o : OutstandingData)

def skippedSsns : List (StreamID × SSN) :=
  (o.skipped.filter fun i => !i.data.isUnordered).map fun i => (i.data.streamId, i.data.ssn)

def skippedMids : List (FullStreamId × MID) :=
  o.skipped.map fun i => (fullStreamId i.data.isUnordered i.data.streamId, i.data.mid)

lemma skippedStreams_createForwardTsn :
    o.createForwardTsn.skippedStreams =
      (raiseAll OrdMap.empty o.skippedSsns).entries.map fun e => ⟨e.1, e.2, false, 0⟩ := by
  unfold createForwardTsn skippedSsns raiseAll
  rw [foldl_map, foldl_filter]
  dsimp only
  congr 3
  funext m i
  cases i.data.isUnordered <;> rfl

lemma skippedStreams_createIForwardTsn :
    o.createIForwardTsn.skippedStreams =
      (raiseAll OrdMap.empty o.skippedMids).entries.map fun e =>
        ⟨(ofLex e.1).2, 0, (ofLex e.1).1, e.2⟩ := by
  unfold createIForwardTsn skippedMids raiseAll
  rw [foldl_map]
  rfl

end OutstandingData

/-! ## The receiver -/

variable {sid sid' : StreamID} {e : SkippedStream}

namespace TraditionalReassemblyStreams

lemma ordered_insert_self (t : TraditionalReassemblyStreams) (sid : StreamID) (s : OrderedStream) :
    ordered { t with orderedStreams := t.orderedStreams.insert sid s } sid = s := by
  simp [ordered]

lemma ordered_insert_ne (t : TraditionalReassemblyStreams) (s : OrderedStream) (h : sid' ≠ sid) :
    ordered { t with orderedStreams := t.orderedStreams.insert sid s } sid' = t.ordered sid' := by
  simp [ordered, find?_insert_ne _ _ h]

lemma ordered_eraseSkipped_of_not_mem :
    ∀ (skipped : List SkippedStream) (t : TraditionalReassemblyStreams),
      sid ∉ skipped.map streamId → (t.eraseSkipped skipped).state.ordered sid = t.ordered sid
  | [], _, _ => rfl
  | e :: rest, t, h => by
    rw [map_cons, mem_cons, not_or] at h
    unfold eraseSkipped
    rw [ordered_eraseSkipped_of_not_mem rest _ h.2, ordered_insert_ne _ _ h.1]

lemma ordered_eraseSkipped :
    ∀ (skipped : List SkippedStream) (t : TraditionalReassemblyStreams),
      (skipped.map streamId).Nodup → e ∈ skipped →
      (t.eraseSkipped skipped).state.ordered e.streamId =
        ((t.ordered e.streamId).eraseTo e.ssn).state
  | [], _, _, h => by cases h
  | e' :: rest, t, hnd, h => by
    rw [map_cons, nodup_cons] at hnd
    unfold eraseSkipped
    rcases mem_cons.mp h with rfl | hmem
    · rw [ordered_eraseSkipped_of_not_mem rest _ hnd.1, ordered_insert_self]
    have hne : e.streamId ≠ e'.streamId := by
      rintro heq
      exact hnd.1 (heq ▸ mem_map_of_mem hmem)
    rw [ordered_eraseSkipped rest _ hnd.2 hmem, ordered_insert_ne _ _ hne]

end TraditionalReassemblyStreams

namespace InterleavedReassemblyStreams

def skippedKey (e : SkippedStream) : FullStreamId := fullStreamId e.unordered e.streamId

lemma stream_setStream_self (t : InterleavedReassemblyStreams) (u : Bool) (sid : StreamID)
    (s : InterleavedStream) : (t.setStream u sid s).stream u sid = s := by
  simp [stream, setStream]

lemma stream_setStream_ne (t : InterleavedReassemblyStreams) {u u' : Bool}
    (s : InterleavedStream) (h : fullStreamId u' sid' ≠ fullStreamId u sid) :
    (t.setStream u sid s).stream u' sid' = t.stream u' sid' := by
  simp [stream, setStream, find?_insert_ne _ _ h]

lemma stream_handleForwardTsn_of_not_mem {u : Bool} :
    ∀ (skipped : List SkippedStream) (t : InterleavedReassemblyStreams),
      fullStreamId u sid ∉ skipped.map skippedKey →
      (t.handleForwardTsn skipped).state.stream u sid = t.stream u sid
  | [], _, _ => rfl
  | e :: rest, t, h => by
    rw [map_cons, mem_cons, not_or] at h
    unfold handleForwardTsn
    rw [stream_handleForwardTsn_of_not_mem rest _ h.2, stream_setStream_ne _ _ h.1]

lemma stream_handleForwardTsn :
    ∀ (skipped : List SkippedStream) (t : InterleavedReassemblyStreams),
      (skipped.map skippedKey).Nodup → e ∈ skipped →
      (t.handleForwardTsn skipped).state.stream e.unordered e.streamId =
        ((t.stream e.unordered e.streamId).eraseTo e.mid).state
  | [], _, _, h => by cases h
  | e' :: rest, t, hnd, h => by
    rw [map_cons, nodup_cons] at hnd
    unfold handleForwardTsn
    rcases mem_cons.mp h with rfl | hmem
    · rw [stream_handleForwardTsn_of_not_mem rest _ hnd.1, stream_setStream_self]
    have hne : fullStreamId e.unordered e.streamId ≠ fullStreamId e'.unordered e'.streamId := by
      intro heq
      have hkey : skippedKey e = skippedKey e' := heq
      exact hnd.1 (hkey ▸ mem_map_of_mem hmem)
    rw [stream_handleForwardTsn rest _ hnd.2 hmem, stream_setStream_ne _ _ hne]

end InterleavedReassemblyStreams

namespace ReassemblyQueue

def defersForwardTsn (q : ReassemblyQueue) (newCumulativeTsn : TSN) : Bool :=
  match q.deferredResetStreams with
  | none => false
  | some d => decide (d.senderLastAssignedTsn < q.tsnUnwrapper.peekUnwrap newCumulativeTsn)

lemma streams_handleForwardTsn {q : ReassemblyQueue} {chunk : AnyForwardTsnChunk}
    (h : q.defersForwardTsn chunk.newCumulativeTsn = false) :
    (q.handleForwardTsn chunk.newCumulativeTsn chunk.skippedStreams).streams =
      (q.streams.handleForwardTsn (q.tsnUnwrapper.peekUnwrap chunk.newCumulativeTsn)
        chunk.skippedStreams).state := by
  unfold handleForwardTsn
  dsimp only
  split
  · rename_i d hd
    have hle : ¬ d.senderLastAssignedTsn < (q.tsnUnwrapper.unwrap chunk.newCumulativeTsn).1 := by
      simpa [defersForwardTsn, show q.deferredResetStreams = some d from hd] using h
    rw [if_neg hle]
    rfl
  · rfl

end ReassemblyQueue

/-! ## Both ends -/

namespace OutstandingData

/-- The streams of a FORWARD-TSN are distinct, and one with skipped messages is announced with the
largest of their numbers. -/
lemma mem_createForwardTsn {o : OutstandingData} (h : numbersOf sid o.skippedSsns ≠ []) :
    (o.createForwardTsn.skippedStreams.map streamId).Nodup ∧
      ⟨sid, largest (numbersOf sid o.skippedSsns), false, 0⟩ ∈ o.createForwardTsn.skippedStreams := by
  rw [skippedStreams_createForwardTsn, map_map]
  exact ⟨keys_nodup _, mem_map_of_mem (mem_raiseAll h)⟩

lemma mem_createIForwardTsn {o : OutstandingData} {u : Bool}
    (h : numbersOf (fullStreamId u sid) o.skippedMids ≠ []) :
    (o.createIForwardTsn.skippedStreams.map skippedKey).Nodup ∧
      ⟨sid, 0, u, largest (numbersOf (fullStreamId u sid) o.skippedMids)⟩ ∈
        o.createIForwardTsn.skippedStreams := by
  rw [skippedStreams_createIForwardTsn, map_map]
  exact ⟨keys_nodup _, mem_map_of_mem (mem_raiseAll h)⟩

end OutstandingData

lemma InSendOrder.ne_nil {last first : Int}
    (h : InSendOrder last first numbers) : numbers ≠ [] := ne_nil_of_mem h.last_mem

open OutstandingData in
/-- A receiver that has nothing left before message `first` of a stream, and has got at most to
message `last`, applies the chunk that skips the messages from `first` to `last`. The stream goes
on behind `last` exactly if the numbers are announceable to it. For interleaved streams the table
has to be one that `FullStreamId` orders. -/
theorem forwardTsn_goes_on_behind_last_iff (o : OutstandingData) (q : ReassemblyQueue)
    (sid : StreamID) (first last : Int) :
    (∀ t, q.streams = .traditional t →
      q.defersForwardTsn o.createForwardTsn.newCumulativeTsn = false →
      InSendOrder last first (numbersOf sid o.skippedSsns) →
      first ≤ (t.ordered sid).nextSsn ∧ (t.ordered sid).nextSsn ≤ last + 1 →
      ∃ t' ssn, ⟨sid, ssn, false, 0⟩ ∈ o.createForwardTsn.skippedStreams ∧
        (q.handleForwardTsn o.createForwardTsn.newCumulativeTsn
          o.createForwardTsn.skippedStreams).streams = .traditional t' ∧
        t'.ordered sid = ((t.ordered sid).skipTo ssn).tryToAssembleMessages.state ∧
        (((t.ordered sid).skipTo ssn).nextSsn = last + 1 ↔
          Announceable (t.ordered sid).ssnUnwrapper (t.ordered sid).nextSsn last
            (numbersOf sid o.skippedSsns))) ∧
    (∀ t, q.streams = .interleaved t → (t.stream false sid).unordered = false →
      (∀ a ∈ t.streams.keys ++ o.skippedMids.map Prod.fst,
        ∀ b ∈ t.streams.keys ++ o.skippedMids.map Prod.fst, FullStreamId.Comparable a b) →
      q.defersForwardTsn o.createIForwardTsn.newCumulativeTsn = false →
      InSendOrder last first (numbersOf (fullStreamId false sid) o.skippedMids) →
      first ≤ (t.stream false sid).nextMid ∧ (t.stream false sid).nextMid ≤ last + 1 →
      ∃ t' mid, ⟨sid, 0, false, mid⟩ ∈ o.createIForwardTsn.skippedStreams ∧
        (q.handleForwardTsn o.createIForwardTsn.newCumulativeTsn
          o.createIForwardTsn.skippedStreams).streams = .interleaved t' ∧
        t'.stream false sid = ((t.stream false sid).skipTo mid).tryToAssembleMessages.state ∧
        (((t.stream false sid).skipTo mid).nextMid = last + 1 ↔
          Announceable (t.stream false sid).midUnwrapper (t.stream false sid).nextMid last
            (numbersOf (fullStreamId false sid) o.skippedMids))) := by
  constructor
  · intro t ht hdef hord hnext
    obtain ⟨hnd, hmem⟩ := mem_createForwardTsn hord.ne_nil
    refine ⟨(t.handleForwardTsn (q.tsnUnwrapper.peekUnwrap o.createForwardTsn.newCumulativeTsn)
      o.createForwardTsn.skippedStreams).state, largest (numbersOf sid o.skippedSsns), hmem, ?_, ?_,
      skip_eq_iff hord hnext.2⟩
    · rw [streams_handleForwardTsn hdef, ht]
      rfl
    · refine (TraditionalReassemblyStreams.ordered_eraseSkipped _ _ hnd hmem).trans ?_
      unfold OrderedStream.eraseTo
      rfl
  intro t ht hkind _ hdef hord hnext
  obtain ⟨hnd, hmem⟩ := mem_createIForwardTsn hord.ne_nil
  refine ⟨(t.handleForwardTsn o.createIForwardTsn.skippedStreams).state,
    largest (numbersOf (fullStreamId false sid) o.skippedMids), hmem, ?_, ?_, ?_⟩
  · rw [streams_handleForwardTsn hdef, ht]
    rfl
  · have hstr := stream_handleForwardTsn _ t hnd hmem
    rw [hstr, InterleavedStream.eraseTo, hkind]
    rfl
  · have hskip := skip_eq_iff (u := (t.stream false sid).midUnwrapper) hord hnext.2
    simpa [skipTo, skip, hkind] using hskip

def abandonedChunk (number : Nat) : OutstandingData.Item :=
  { messageId := 0
    data :=
      { streamId := 1, ssn := BitVec.ofNat 16 number, mid := BitVec.ofNat 32 number, fsn := 0
        ppid := 51, payload := [7], isBeginning := true, isEnd := true, isUnordered := false }
    timeSent := 0
    maxRetransmissions := 0
    expiresAt := none
    lifecycleId := 0
    lifecycle := .abandoned
    ackState := .nacked }

def givenUp (number number' : Nat) : OutstandingData :=
  { dataChunkHeaderSize := 16
    lastCumulativeTsnAck := 99
    outstandingData := [abandonedChunk number, abandonedChunk number'] }

def deliveredSsn (number : Nat) : TraditionalReassemblyStreams :=
  ⟨OrdMap.empty, OrdMap.empty.insert 1
    { OrderedStream.new (BitVec.ofNat 16 number) with nextSsn := number + 1 }⟩

def deliveredMid (number : Nat) : InterleavedReassemblyStreams :=
  ⟨OrdMap.empty.insert (fullStreamId false 1)
    { new false (BitVec.ofNat 32 number) with nextMid := number + 1 }⟩

def receiverWith (streams : ReassemblyStreams) : ReassemblyQueue :=
  { new 1000 false with streams }

/-- Messages 3 and 4 are skipped. -/
theorem forwardTsn_skips_two : (∃ ssn, (((deliveredSsn 2).ordered 1).skipTo ssn).nextSsn = 4 + 1) ∧
    ∃ mid, (((deliveredMid 2).stream false 1).skipTo mid).nextMid = 4 + 1 := by
  constructor
  · have hstrs : (receiverWith (.traditional (deliveredSsn 2))).streams =
    .traditional (deliveredSsn 2) := rfl
    obtain ⟨t', ssn, -, -, -, hgoes⟩ :=
      (forwardTsn_goes_on_behind_last_iff (givenUp 3 4) (receiverWith (.traditional (deliveredSsn 2)))
        1 3 4).1 _ hstrs (by decide +kernel) (by decide +kernel) (by decide +kernel)
    exact ⟨ssn, hgoes.mpr (by decide +kernel)⟩
  have hstrs : (receiverWith (.interleaved (deliveredMid 2))).streams =
      .interleaved (deliveredMid 2) := rfl
  obtain ⟨t', mid, -, -, -, hgoes⟩ :=
    (forwardTsn_goes_on_behind_last_iff (givenUp 3 4) (receiverWith (.interleaved (deliveredMid 2)))
      1 3 4).2 _ hstrs (by decide +kernel) (by decide +kernel) (by decide +kernel)
      (by decide +kernel) (by decide +kernel)
  exact ⟨mid, hgoes.mpr (by decide +kernel)⟩

def ReassemblyQueue.expectedOnStream1 (q : ReassemblyQueue) : Int :=
  match q.streams with
  | .traditional t => (t.ordered 1).nextSsn
  | .interleaved t => (t.stream false 1).nextMid

/-- The skipped messages have the SSNs 65535 and 0, and 65535 is announced: the stream then expects
the second of them. The same happens at the end of the MIDs. -/
theorem forwardTsn_strands_at_wrap :
    InSendOrder 65536 65535 (OutstandingData.numbersOf 1 (givenUp 65535 65536).skippedSsns) ∧
      ((receiverWith (.traditional (deliveredSsn 65534))).handleForwardTsn
        (givenUp 65535 65536).createForwardTsn.newCumulativeTsn
        (givenUp 65535 65536).createForwardTsn.skippedStreams).expectedOnStream1 = 65536 ∧
      ((receiverWith (.interleaved (deliveredMid (2 ^ 32 - 2)))).handleForwardTsn
        (givenUp (2 ^ 32 - 1) (2 ^ 32)).createIForwardTsn.newCumulativeTsn
        (givenUp (2 ^ 32 - 1) (2 ^ 32)).createIForwardTsn.skippedStreams).expectedOnStream1 =
        2 ^ 32 := by
  decide +kernel

end WebRtc.Dcsctp
