import WebRtc.Dcsctp.System.SentLog
import WebRtc.Dcsctp.Tx.QueueRuns

/-!
# dcSCTP — a send queue and the log of what it produced

Every chunk that `RRSendQueue::Produce` returns is appended to a log, with the message and fragment
it stands for. `StreamSends` ties a stream of ordered messages without a lifetime to that log. By
`SenderInv` at most one message is sent in part, the one the log ends with, so that the log conforms.
-/

namespace WebRtc.Dcsctp

open Lib OutgoingStream List SentChunk Function Item Option

/-- A produced chunk as an entry of the log: one that begins a message gets the next number of
its stream, any other belongs to the message begun last. -/
def tagChunk (log : List SentChunk) (epoch : Nat) (d : Data) : SentChunk :=
  let begun := begunOn log d.isUnordered d.streamId epoch
  let number := if d.isBeginning then begun else begun - 1
  { data := d
    epoch := epoch
    number := number
    fragment :=
      (blockOf SentChunk.key log ⟨d.isUnordered, d.streamId, epoch, number⟩).length }

def orderedKey (sid : StreamID) (i : Nat) : MessageKey := ⟨false, sid, 0, i⟩

def joined (log : List SentChunk) (key : MessageKey) : List UInt8 :=
  (blockOf SentChunk.key log key).flatMap fun x => x.data.payload

def OutgoingStream.sentOfFirst (s : OutgoingStream) : Nat :=
  (s.items.head?.map remainingOffset).getD 0

/-- **A stream and the log.** Of the messages `sent` to the stream the first `k` are in the log
in full, and then as much of the next one as the stream has sent. -/
structure StreamSends (log : List SentChunk) (sid : StreamID) (sent : List DcSctpMessage)
    (s : OutgoingStream) (k : Nat) : Prop where
  plain : ∀ item ∈ s.items, item.attributes.unordered = false ∧ item.attributes.expiresAt = none
  bound : k ≤ sent.length
  waiting : sent.drop k = s.items.map message
  begun : begunOn log false sid 0 = k + if s.partialKind = none then 0 else 1
  nextSsn : s.nextSsn = BitVec.ofNat 16 (begunOn log false sid 0)
  ssn : ∀ item, s.items.head? = some item → item.ssn = item.mid.map fun _ => BitVec.ofNat 16 k
  bytes : ∀ i m, sent[i]? = some m → joined log (orderedKey sid i) =
    m.payload.take (if i < k then m.payload.length else if i = k then s.sentOfFirst else 0)
  chunks : ∀ i, ∀ x ∈ blockOf SentChunk.key log (orderedKey sid i),
    i < begunOn log false sid 0 ∧ (x.data.isEnd = true → i < k) ∧
    ∃ m, sent[i]? = some m ∧ x.data.ppid = m.ppid

/-! ## The log -/

section Log

variable {log : List SentChunk} {x : SentChunk}

lemma blockOf_snoc_self (x : SentChunk) :
    blockOf SentChunk.key (log ++ [x]) x.key = blockOf SentChunk.key log x.key ++ [x] := by
  simp [blockOf]

lemma blockOf_snoc_ne (log : List SentChunk) {key : MessageKey} (h : x.key ≠ key) :
    blockOf SentChunk.key (log ++ [x]) key = blockOf SentChunk.key log key := by
  simp [blockOf, h]

lemma joined_snoc_self (x : SentChunk) :
    joined (log ++ [x]) x.key = joined log x.key ++ x.data.payload := by
  simp [joined, blockOf_snoc_self]

lemma begunOn_snoc (x : SentChunk) (u : Bool) (sid : StreamID)
    (epoch : Nat) : begunOn (log ++ [x]) u sid epoch = begunOn log u sid epoch +
      if x.fragment = 0 ∧ x.data.isUnordered = u ∧ x.data.streamId = sid ∧ x.epoch = epoch
      then 1 else 0 := by
  unfold begunOn
  rw [filter_append, length_append]
  by_cases h : x.fragment = 0 ∧ x.data.isUnordered = u ∧ x.data.streamId = sid ∧ x.epoch = epoch
  · simp [h]
  rw [if_neg h, filter_cons_of_neg (by simpa using h)]
  rfl

end Log

/-! ## One stream -/

section Streams

variable {log : List SentChunk} {sid : StreamID} {sent : List DcSctpMessage} {k maxSize : Nat}
  {item : Item} {rest : List Item} {s s' : OutgoingStream} {x : SentChunk}

lemma StreamSends.congr (h : StreamSends log sid sent s k) (hcore : s'.core = s.core) :
    StreamSends log sid sent s' k := by
  obtain ⟨hitm, -, hssn, -⟩ := core_eq hcore
  obtain ⟨h1, hbound, h2, h3, h4, h5, h6, h7⟩ := h
  refine ⟨?_, hbound, ?_, ?_, hssn.trans h4, ?_, ?_, h7⟩ <;>
    simp only [partialKind, sentOfFirst, hitm] at *
  all_goals assumption

lemma StreamSends.other (h : StreamSends log sid sent s k) (hx : x.data.streamId ≠ sid) :
    StreamSends (log ++ [x]) sid sent s k := by
  have hkey : ∀ i, x.key ≠ orderedKey sid i := fun i heq => hx (congrArg MessageKey.streamId heq)
  have hbgn : begunOn (log ++ [x]) false sid 0 = begunOn log false sid 0 := by
    rw [begunOn_snoc, if_neg fun hc => hx hc.2.2.1]
    rfl
  refine ⟨h.plain, h.bound, h.waiting, hbgn.trans h.begun, hbgn ▸ h.nextSsn, h.ssn, fun i => ?_,
    fun i => ?_⟩
  · rw [joined, blockOf_snoc_ne log (hkey i)]
    exact h.bytes i
  rw [hbgn, blockOf_snoc_ne log (hkey i)]
  exact h.chunks i

lemma sendFragment_ordered {n : SSN} (s : OutgoingStream) (maxSize : Nat) (rest : List Item)
    (hord : item.attributes.unordered = false) (hssn : item.ssn = item.mid.map fun _ => n) :
    (s.sendFragment maxSize item rest).1.data.ppid = item.message.ppid ∧
      (s.sendFragment maxSize item rest).1.data.ssn = (if item.mid.isNone then s.nextSsn else n) ∧
      (s.sendFragment maxSize item rest).2.nextSsn =
        (if item.mid.isNone then s.nextSsn + 1 else s.nextSsn) ∧
      ((s.sendFragment maxSize item rest).1.data.isEnd = false →
        ∀ i, (s.sendFragment maxSize item rest).2.items.head? = some i →
          i.ssn = some (s.sendFragment maxSize item rest).1.data.ssn ∧
          i.attributes = item.attributes) := by
  obtain ⟨hmsg, hattr, hssn1, hnext⟩ : (s.allocateNumbers item).2.message = item.message ∧
      (s.allocateNumbers item).2.attributes = item.attributes ∧
      (s.allocateNumbers item).2.ssn = some (if item.mid.isNone then s.nextSsn else n) ∧
      (s.allocateNumbers item).1.nextSsn =
        if item.mid.isNone then s.nextSsn + 1 else s.nextSsn := by
    obtain ⟨messageId, message, attributes, offset, size, mid, ssn, fsn⟩ := item
    dsimp only at hord hssn
    subst hssn
    cases mid <;> simp [allocateNumbers, hord]
  unfold sendFragment
  generalize s.allocateNumbers item = r at hmsg hattr hssn1 hnext
  obtain ⟨s1, item1⟩ := r
  dsimp only at hmsg hattr hssn1 hnext
  refine ⟨by simp [dataToSend, hmsg], by simp [dataToSend, hssn1], ?_, fun hend i hi => ?_⟩
  · dsimp only
    split <;> exact hnext
  have hend : item1.isEnd maxSize = false := hend
  simp only [hend, Bool.false_eq_true, if_false, head?_cons, some.injEq] at hi
  subst hi
  exact ⟨by simp [advance, dataToSend, hssn1], hattr⟩

/-- A chunk that a stream sends, as an entry of the log: a fragment of message `k`. -/
structure SendsOf (log : List SentChunk) (sid : StreamID) (k : Nat) (s : OutgoingStream)
    (x : SentChunk) : Prop where
  key : x.key = orderedKey sid k
  inOrder : x.fragment = (blockOf SentChunk.key log (orderedKey sid k)).length
  first : x.fragment = 0 ↔ s.partialKind = none
  beginning : x.data.isBeginning = true ↔ x.fragment = 0
  payload : x.data.payload ≠ []
  ssn : x.data.ssn = BitVec.ofNat 16 k
  begun : begunOn (log ++ [x]) false sid 0 = k + 1

lemma SendsOf.other (h : SendsOf log sid k s x) {i : Nat} (hi : i ≠ k) :
    blockOf SentChunk.key (log ++ [x]) (orderedKey sid i) =
      blockOf SentChunk.key log (orderedKey sid i) :=
  blockOf_snoc_ne log fun heq => hi (congrArg MessageKey.number (heq.symm.trans h.key))

section

variable (h : StreamSends log sid sent s k)

include h

lemma StreamSends.front (hitm : s.items = item :: rest) :
    sent[k]? = some item.message ∧ (s.partialKind = none ↔ item.mid = none) := by
  constructor
  · have := congrArg head? h.waiting
    rwa [hitm, map_cons, head?_cons, head?_drop] at this
  rw [partialKind_eq_none_iff, hitm]
  simp

/-- The bytes in the log once it has the first `last` of message `k`: the message
is still the first one, or it is complete and the next one has not been begun. -/
lemma StreamSends.bytes_snoc (hx : SendsOf log sid k s x) (hmsg : sent[k]? = some item.message)
    {last k' offset : Nat}
    (hself : joined (log ++ [x]) (orderedKey sid k) = item.message.payload.take last)
    (hk : k' = k ∧ offset = last ∨ k' = k + 1 ∧ offset = 0 ∧ last = item.message.payload.length) :
    ∀ i m, sent[i]? = some m → joined (log ++ [x]) (orderedKey sid i) =
      m.payload.take (if i < k' then m.payload.length else if i = k' then offset else 0) := by
  intro i m hm
  by_cases hi : i = k
  · subst hi
    obtain rfl : item.message = m := some.inj (hmsg.symm.trans hm)
    refine hself.trans (congrArg (item.message.payload.take ·) ?_)
    split_ifs <;> omega
  · rw [joined, hx.other hi]
    refine (h.bytes i m hm).trans (congrArg (m.payload.take ·) ?_)
    split_ifs <;> omega

lemma StreamSends.chunks_snoc (hx : SendsOf log sid k s x) (hmsg : sent[k]? = some item.message)
    (hppid : x.data.ppid = item.message.ppid) {k' : Nat} (hend : x.data.isEnd = true → k < k')
    (hle : k ≤ k') (i : Nat) : ∀ y ∈ blockOf SentChunk.key (log ++ [x]) (orderedKey sid i),
      i < begunOn (log ++ [x]) false sid 0 ∧ (y.data.isEnd = true → i < k') ∧
      ∃ m, sent[i]? = some m ∧ y.data.ppid = m.ppid := by
  intro y hy
  rw [hx.begun]
  have hold : ∀ y ∈ blockOf key log (orderedKey sid i), i < k + 1 ∧
      (y.data.isEnd = true → i < k') ∧ ∃ m, sent[i]? = some m ∧ y.data.ppid = m.ppid := by
    intro y hy
    obtain ⟨hi, hyend, hm⟩ := h.chunks i y hy
    rw [h.begun] at hi
    exact ⟨by split at hi <;> omega, fun he => lt_of_lt_of_le (hyend he) hle, hm⟩
  by_cases hi : i = k
  · rw [hi, ← hx.key, blockOf_snoc_self, hx.key, ← hi] at hy
    rcases mem_append.mp hy with hy | hy
    · exact hold y hy
    rw [mem_singleton.mp hy]
    exact ⟨by omega, fun he => hi ▸ hend he, item.message, hi ▸ hmsg, hppid⟩
  · rw [hx.other hi] at hy
    exact hold y hy

lemma StreamSends.enqueue (hmid : item.mid = none)
    (hssn : item.ssn = none) (hoff : item.remainingOffset = 0)
    (hplain : item.attributes.unordered = false ∧ item.attributes.expiresAt = none) :
    StreamSends log sid (sent ++ [item.message]) (s.withItems (s.items ++ [item])) k := by
  have hpart : (s.withItems (s.items ++ [item])).partialKind = s.partialKind :=
    RRSendQueue.partialKind_append hmid
  have hfirst : (s.withItems (s.items ++ [item])).sentOfFirst = s.sentOfFirst := by
    simp only [sentOfFirst, items_withItems]
    cases s.items <;> simp [hoff]
  refine ⟨forall_mem_append.mpr ⟨h.plain, forall_mem_singleton.mpr hplain⟩, ?_, ?_,
    hpart ▸ h.begun, h.nextSsn, fun i hi => ?_, fun i m hm => ?_, fun i x hx => ?_⟩
  · rw [length_append]
    exact h.bound.trans (Nat.le_add_right _ _)
  · rw [drop_append_of_le_length h.bound, h.waiting]
    simp
  · rw [items_withItems] at hi
    cases hitm : s.items with
    | nil =>
      obtain rfl : item = i := by simpa [hitm] using hi
      rw [hmid, hssn]
      rfl
    | cons first rest => exact h.ssn i (by simpa [hitm] using hi)
  · rw [hfirst]
    rcases Nat.lt_or_ge i sent.length with hlt | hge
    · rw [getElem?_append_left hlt] at hm
      exact h.bytes i m hm
    -- nothing of a new message is in the log
    have hnil : joined log (orderedKey sid i) = [] := by
      rw [joined, flatMap_eq_nil_iff]
      intro x hx
      obtain ⟨-, -, m', hm', -⟩ := h.chunks i x hx
      rw [getElem?_eq_none hge] at hm'
      cases hm'
    have hzero : i = k → s.sentOfFirst = 0 := by
      rintro rfl
      have hitm := h.waiting
      rw [drop_eq_nil_of_le hge, eq_comm, map_eq_nil_iff] at hitm
      simp [sentOfFirst, hitm]
    rw [hnil, if_neg (by have := h.bound; omega)]
    by_cases hk : i = k
    · rw [if_pos hk, hzero hk, take_zero]
    · rw [if_neg hk, take_zero]
  · obtain ⟨hlt, hend, m, hm, hppid⟩ := h.chunks i x hx
    exact ⟨hlt, hend, m, by rw [getElem?_append_left (List.getElem?_eq_some_iff.mp hm).1, hm],
      hppid⟩

variable (hok : ItemsOk s) (hsent : ∀ m ∈ sent, m.streamId = sid) (hitm : s.items = item :: rest)
  (hmax : 1 ≤ maxSize) (hx : x = tagChunk log 0 (s.sendFragment maxSize item rest).1.data)

include hok hsent hitm hmax hx

lemma StreamSends.tagged : SendsOf log sid k s x := by
  have hmem : item ∈ s.items := by rw [hitm]; exact mem_cons_self
  have hsz := hok.sized item hmem
  have hfrag := fragment_sendFragment hsz hmax s rest
  obtain ⟨-, hssn, -⟩ := sendFragment_ordered s maxSize rest (h.plain item hmem).1
    (h.ssn item (by rw [hitm]; rfl))
  obtain ⟨hmsg, hpart⟩ := h.front hitm
  have hsid : (s.sendFragment maxSize item rest).1.data.streamId = sid :=
    hfrag.streamId.trans (hsent _ (mem_of_getElem? hmsg))
  have hu : (s.sendFragment maxSize item rest).1.data.isUnordered = false :=
    hfrag.unordered.trans (h.plain item hmem).1
  have hbgn := h.begun
  have hnum : x.number = k := by
    rw [hx]
    simp only [tagChunk, hu, hsid, hbgn, hfrag.beginning]
    by_cases hmid : item.mid = none
    · simp [hmid, hpart]
    · simp [hmid, hpart]
  have hkey : x.key = orderedKey sid k := by
    rw [key, hnum, hx]
    simp only [tagChunk, hu, hsid]
    rfl
  have hord : x.fragment = (blockOf key log (orderedKey sid k)).length := by
    rw [← hkey, hx]
    rfl
  have hdata : x.data = (s.sendFragment maxSize item rest).1.data := by rw [hx]; rfl
  -- nothing of the message is in the log exactly when it has not been begun
  have hfirst : x.fragment = 0 ↔ s.partialKind = none := by
    rw [hord, length_eq_zero_iff, hpart]
    constructor
    · intro hnil
      by_contra hmid
      have hbytes := h.bytes k item.message hmsg
      rw [joined, hnil, if_neg (lt_irrefl k), if_pos rfl, sentOfFirst, hitm] at hbytes
      have hlen := congrArg length hbytes
      simp only [flatMap_nil, length_nil, head?_cons, map_some, getD_some, length_take] at hlen
      have := hsz.begun (isSome_iff_ne_none.mpr hmid)
      have := hsz.total
      omega
    · intro hmid
      rw [if_pos (hpart.mpr hmid), Nat.add_zero] at hbgn
      exact eq_nil_iff_forall_not_mem.mpr fun y hy =>
        absurd (h.chunks k y hy).1 (by rw [hbgn]; exact lt_irrefl k)
  refine ⟨hkey, hord, hfirst, ?_, by rw [hdata]; exact hfrag.nonempty, ?_, ?_⟩
  · rw [hfirst, hpart, hdata, hfrag.beginning, isNone_iff_eq_none]
  · rw [hdata, hssn, h.nextSsn, hbgn]
    by_cases hmid : item.mid = none
    · simp [hmid, hpart.mpr hmid]
    · simp [hmid]
  rw [begunOn_snoc, hbgn]
  have hkeys : x.data.isUnordered = false ∧ x.data.streamId = sid ∧ x.epoch = 0 := by
    rw [hdata, hx]
    exact ⟨hu, hsid, rfl⟩
  by_cases hp : s.partialKind = none
  · rw [if_pos hp, if_pos ⟨hfirst.mpr hp, hkeys⟩]
  · rw [if_neg hp, if_neg fun hc => hp (hfirst.mp hc.1)]

lemma StreamSends.send : StreamSends (log ++ [x]) sid sent (s.sendFragment maxSize item rest).2
      (if x.data.isEnd then k + 1 else k) := by
  have htag := h.tagged hok hsent hitm hmax hx
  have hmem : item ∈ s.items := by rw [hitm]; exact mem_cons_self
  obtain ⟨hsz, hszs, hrest⟩ := hok.cons hitm
  obtain ⟨-, -, -, -, hpayload, -, -, hdone, hadv⟩ := fragment_sendFragment hsz hmax s rest
  obtain ⟨hppid, -, hnext, hmore⟩ := sendFragment_ordered s maxSize rest
    (h.plain item hmem).1 (h.ssn item (by rw [hitm]; rfl))
  have hdata : x.data = (s.sendFragment maxSize item rest).1.data := by rw [hx]; rfl
  rw [← hdata] at hpayload hdone hadv hppid hmore
  have hplain : ∀ i ∈ rest, i.attributes.unordered = false ∧ i.attributes.expiresAt = none :=
    fun i hi => h.plain i (by rw [hitm]; exact mem_cons_of_mem _ hi)
  have hwait : sent.drop k = item.message :: rest.map message := by rw [h.waiting, hitm]; rfl
  obtain ⟨hmsg, hpart⟩ := h.front hitm
  have hnext' : (s.sendFragment maxSize item rest).2.nextSsn = BitVec.ofNat 16 (k + 1) := by
    rw [hnext, h.nextSsn, h.begun]
    by_cases hmid : item.mid = none
    · simp [hmid, hpart.mpr hmid, BitVec.ofNat_add]
    · simp [hmid, hpart]
  -- the log has the message up to the end of the fragment
  have hself : joined (log ++ [x]) (orderedKey sid k) =
      item.message.payload.take (item.remainingOffset + x.data.size) := by
    rw [← htag.key, joined_snoc_self, htag.key, h.bytes k _ hmsg, if_neg (lt_irrefl k), if_pos rfl,
      sentOfFirst, hitm]
    exact hpayload
  cases hend : x.data.isEnd with
  | true =>
    obtain ⟨hsize, hitm', -⟩ := hdone hend
    have hnone : (s.sendFragment maxSize item rest).2.partialKind = none := by
      rw [partialKind_eq_none_iff, hitm']
      exact fun i hi => hrest i (mem_of_mem_head? hi)
    rw [if_pos rfl]
    refine ⟨by rw [hitm']; exact hplain, (List.getElem?_eq_some_iff.mp hmsg).1, ?_,
      by rw [htag.begun, if_pos hnone],
      by rw [htag.begun, hnext'], fun i hi => ?_, h.bytes_snoc htag hmsg hself (.inr ⟨rfl, ?_, ?_⟩),
      h.chunks_snoc htag hmsg hppid (fun _ => Nat.lt_succ_self k) (Nat.le_succ k)⟩
    · rw [hitm', ← drop_drop, hwait]
      rfl
    · rw [hitm'] at hi
      have hi := mem_of_mem_head? hi
      rw [hrest i hi, ((hszs i hi).fresh (hrest i hi)).2.1]
      rfl
    · rw [sentOfFirst, hitm']
      cases hr : rest with
      | nil => rfl
      | cons i rest' =>
        have hi : i ∈ rest := by rw [hr]; exact mem_cons_self
        exact ((hszs i hi).fresh (hrest i hi)).1
    · rw [hsize]
      exact hsz.total
  | false =>
    obtain ⟨item', hitm', -, hsome, -, hoff, -, hmsg', hattr, -⟩ := hadv hend
    have hsome' : (s.sendFragment maxSize item rest).2.partialKind ≠ none := by
      rw [ne_eq, partialKind_eq_none_iff, hitm']
      exact fun hc => absurd (hc item' rfl) (isSome_iff_ne_none.mp hsome)
    rw [if_neg Bool.false_ne_true]
    refine ⟨?_, h.bound, by rw [h.waiting, hitm', hitm, map_cons, map_cons, hmsg'],
      by rw [htag.begun, if_neg hsome'], by rw [htag.begun, hnext'], fun i hi => ?_,
      h.bytes_snoc htag hmsg hself (.inl ⟨rfl, ?_⟩),
      h.chunks_snoc htag hmsg hppid (fun hc => absurd (hend.symm.trans hc) (by simp)) le_rfl⟩
    · rw [hitm']
      refine forall_mem_cons.mpr ⟨?_, hplain⟩
      rw [hattr]
      exact h.plain item hmem
    · obtain ⟨mid, hmid⟩ := isSome_iff_exists.mp hsome
      have hssn := (hmore hend i hi).1
      rw [hitm'] at hi
      obtain rfl : item' = i := some.inj hi
      rw [hssn, hmid, htag.ssn]
      rfl
    · rw [sentOfFirst, hitm']
      exact hoff

end

end Streams

/-! ## The queue -/

/-- **The invariant of a send queue** without message interleaving: every stream is in step with
the log, and a message sent in part is the one the log ends with. -/
structure SenderInv (log : List SentChunk) (sent : StreamID → List DcSctpMessage)
    (q : RRSendQueue) : Prop where
  contents : RRSendQueue.ContentsOk q
  off : q.scheduler.enableMessageInterleaving = false
  messages : ∀ sid, ∀ m ∈ sent sid, m.streamId = sid
  streams : ∀ sid, ∃ k, StreamSends log sid (sent sid) (q.stream sid) k
  ordered : ∀ y ∈ log, y.data.isUnordered = false ∧ y.epoch = 0
  conforming : Conforming log
  only : ∀ sid, (q.stream sid).partialKind ≠ none →
    q.scheduler.currentlySendingAMessage = true ∧ q.scheduler.currentStream = some sid
  start : log = [] → q.scheduler.currentlySendingAMessage = false
  last : ∀ y, log.getLast? = some y →
    y.data.isEnd = (!q.scheduler.currentlySendingAMessage) ∧
    begunOn log false y.data.streamId 0 = y.number + 1 ∧
    (y.data.isEnd = false → q.scheduler.currentStream = some y.data.streamId)

section Queue

variable {log : List SentChunk} {sent : StreamID → List DcSctpMessage} {q q' : RRSendQueue}
  {sid : StreamID} {maxSize : Nat} {item : Item} {rest : List Item} {d : DataToSend}

open RRSendQueue

section

variable (h : SenderInv log sent q)

include h

lemma SenderInv.rescheduling : q.rescheduling = !q.scheduler.currentlySendingAMessage := by
  rw [RRSendQueue.rescheduling, h.off, Bool.false_or]

lemma SenderInv.of_turn {sent' : StreamID → List DcSctpMessage}
    (hcontents : ContentsOk q') (hturn : SameTurn q q')
    (hint : q'.scheduler.enableMessageInterleaving = q.scheduler.enableMessageInterleaving)
    (hpart : ∀ sid, (q'.stream sid).partialKind = (q.stream sid).partialKind)
    (hmsgs : ∀ sid, ∀ m ∈ sent' sid, m.streamId = sid)
    (hstrs : ∀ sid, ∃ k, StreamSends log sid (sent' sid) (q'.stream sid) k) :
    SenderInv log sent' q' := by
  have hcrt : q.scheduler.currentlySendingAMessage = true →
      q'.scheduler.currentStream = q.scheduler.currentStream := fun hs =>
    hturn.current (by rw [h.rescheduling, hs]; rfl)
  refine ⟨hcontents, hint.trans h.off, hmsgs, hstrs, h.ordered, h.conforming, fun sid hp => ?_,
    fun hl => hturn.sending.trans (h.start hl), fun y hy => ?_⟩
  · rw [hpart] at hp
    obtain ⟨hs, hcur⟩ := h.only sid hp
    exact ⟨hturn.sending.trans hs, (hcrt hs).trans hcur⟩
  obtain ⟨hend, hnum, hcur⟩ := h.last y hy
  rw [hturn.sending]
  refine ⟨hend, hnum, fun hne => (hcrt ?_).trans (hcur hne)⟩
  simpa [hne] using hend

lemma SenderInv.expiries (he : Expiries q q') : SenderInv log sent q' := by
  obtain ⟨hcore, hturn, hint⟩ :
      (∀ sid, (q'.stream sid).core = (q.stream sid).core) ∧ SameTurn q q' ∧
      q'.scheduler.enableMessageInterleaving = q.scheduler.enableMessageInterleaving := by
    induction he with
    | refl => exact ⟨fun _ => rfl, ⟨rfl, fun _ => rfl⟩, rfl⟩
    | @tail q1 q2 _ he ih =>
      obtain ⟨hcore, hturn, hint⟩ := ih
      cases he with
      | keep contents _ _ _ _ interleaving turn =>
        refine ⟨fun sid => (contents sid).trans (hcore sid), ⟨turn.sending.trans hturn.sending,
          fun hr => ?_⟩, interleaving.trans hint⟩
        exact (turn.current (hturn.rescheduling hint ▸ hr)).trans (hturn.current hr)
      | drop sid item rest items _ _ _ _ limited =>
        obtain ⟨k, hk⟩ := h.streams sid
        refine absurd (hk.plain item ?_).2 limited
        rw [← (core_eq (hcore sid)).1, items]
        exact mem_cons_self
  refine h.of_turn (h.contents.expiries he) hturn hint (fun sid => partialKind_congr (hcore sid))
    h.messages fun sid => ?_
  obtain ⟨k, hk⟩ := h.streams sid
  exact ⟨k, hk.congr (hcore sid)⟩

/-- **A fragment is sent.** It goes on with the message that the log ends with, or begins one
when that is complete. -/
lemma SenderInv.sends (hs : Sends sid maxSize item rest d q q')
    (hmax : 1 ≤ maxSize) : SenderInv (log ++ [tagChunk log 0 d.data]) sent q' := by
  generalize hx : tagChunk log 0 d.data = x
  obtain ⟨k, hk⟩ := h.streams sid
  have hok := h.contents.items sid
  rw [hs.data] at hx
  have htag := hk.tagged hok (h.messages sid) hs.items hmax hx.symm
  have hsend := hk.send hok (h.messages sid) hs.items hmax hx.symm
  have hend : x.data.isEnd = d.data.isEnd := by rw [← hx, hs.data]; rfl
  obtain ⟨hu, hsid, hep, hnum⟩ :
      x.data.isUnordered = false ∧ x.data.streamId = sid ∧ x.epoch = 0 ∧ x.number = k := by
    simpa [key, orderedKey] using htag.key
  -- while a message is sent in part, it is the turn of its stream
  have hturn : q.scheduler.currentlySendingAMessage = true →
      q.scheduler.currentStream = some sid ∧ (q.stream sid).partialKind ≠ none := by
    intro hsdg
    have hr : q.rescheduling = false := by rw [h.rescheduling, hsdg]; rfl
    obtain ⟨sid', hcur, hpart⟩ := h.contents.turn hr
    obtain rfl : sid' = sid := some.inj (hcur.symm.trans (hs.turn hr))
    exact ⟨hcur, hpart⟩
  have hfirst : x.fragment = 0 ↔ q.scheduler.currentlySendingAMessage = false := by
    rw [htag.first]
    constructor
    · intro hp
      by_contra hc
      exact (hturn (by simpa using hc)).2 hp
    intro hsdg
    by_contra hp
    exact Bool.false_ne_true (hsdg.symm.trans (h.only sid hp).1)
  have hstep : ConformingStep log x := by
    refine ⟨?_, fun hne => ?_, fun y hy => ?_, fun hzero => ?_, htag.beginning, htag.payload,
      fun _ => by rw [hnum]; exact htag.ssn⟩
    · rw [InOrder, htag.key]
      exact htag.inOrder
    · have hsdg : q.scheduler.currentlySendingAMessage = true := by
        simpa using fun hc => hne (hfirst.mpr hc)
      obtain ⟨y, hy⟩ : ∃ y, log.getLast? = some y := by
        cases hlast : log.getLast? with
        | none =>
          rw [h.start (getLast?_eq_none_iff.mp hlast)] at hsdg
          exact absurd hsdg Bool.false_ne_true
        | some y => exact ⟨y, rfl⟩
      obtain ⟨hyend, hynum, hycur⟩ := h.last y hy
      obtain ⟨hyu, hyep⟩ := h.ordered y (mem_of_getLast? hy)
      have hysid : y.data.streamId = sid := some.inj
        ((hycur (by rw [hyend, hsdg]; rfl)).symm.trans (hturn hsdg).1)
      rw [hysid, hk.begun, if_neg (hturn hsdg).2] at hynum
      refine ⟨y, hy, ?_⟩
      rw [htag.key, key, hyu, hysid, hyep, orderedKey]
      congr 1
      omega
    · rw [(h.last y hy).1, hfirst, Bool.not_eq_true']
    · rw [hnum, hu, hsid, hep, hk.begun, if_pos (htag.first.mp hzero), Nat.add_zero]
  have hcore := hs.edited.core
  refine ⟨h.contents.sends hs hmax, hs.edited.interleaving.trans h.off, h.messages,
    fun sid' => ?_, forall_mem_append.mpr ⟨h.ordered, forall_mem_singleton.mpr ⟨hu, hep⟩⟩,
    locally_snoc.mpr ⟨h.conforming, hstep⟩, fun sid' hp => ?_,
    fun hl => absurd hl (by simp), fun y hy => ?_⟩
  · by_cases hne : sid' = sid
    · subst hne
      exact ⟨_, hsend.congr hcore⟩
    obtain ⟨k', hk'⟩ := h.streams sid'
    exact ⟨k', (hk'.congr (hs.edited.others sid' hne).1).other fun hc => hne (hc.symm.trans hsid)⟩
  · rw [hs.sending, hs.current]
    by_cases hne : sid' = sid
    · subst hne
      refine ⟨?_, rfl⟩
      by_contra hc
      have hdone : d.data.isEnd = true := by simpa using hc
      rw [hend, hdone, if_pos rfl] at hsend
      have hbgn := hsend.begun
      rw [htag.begun] at hbgn
      rw [partialKind_congr hcore] at hp
      rw [if_neg hp] at hbgn
      omega
    · rw [partialKind_congr (hs.edited.others sid' hne).1] at hp
      obtain ⟨hsdg, hcur⟩ := h.only sid' hp
      exact absurd (some.inj (hcur.symm.trans (hturn hsdg).1)) hne
  · obtain rfl : x = y := by simpa using hy
    rw [hs.sending, hend, Bool.not_not, hsid, htag.begun, hnum]
    exact ⟨rfl, rfl, fun _ => hs.current⟩

lemma SenderInv.produce (hfil : ∀ sid, q.Filed sid) (now : Timestamp) (hmax : 1 ≤ maxSize) :
    ((q.produce now maxSize).1 = none → SenderInv log sent (q.produce now maxSize).2) ∧
      ∀ d, (q.produce now maxSize).1 = some d →
        SenderInv (log ++ [tagChunk log 0 d.data]) sent (q.produce now maxSize).2 := by
  obtain ⟨-, hidle, hsome⟩ := produce_outcome now maxSize h.contents hfil
  refine ⟨fun hd => h.expiries (hidle hd), fun d hd => ?_⟩
  obtain ⟨q1, sid, item, rest, hexp, hsnd⟩ := hsome d hd
  exact (h.expiries hexp).sends hsnd hmax

lemma SenderInv.add (now : Timestamp) {message : DcSctpMessage} (hpay : message.payload ≠ []) :
    SenderInv log (update sent message.streamId (sent message.streamId ++ [message]))
      (q.add now message {}) := by
  obtain ⟨item, hmid, hssn, hoff, hmsg, hplain, hedit, hturn, hcontents⟩ :
      ∃ item : Item, item.mid = none ∧ item.ssn = none ∧ item.remainingOffset = 0 ∧
        item.message = message ∧
        (item.attributes.unordered = false ∧ item.attributes.expiresAt = none) ∧
        Edited message.streamId ((q.stream message.streamId).withItems
          ((q.stream message.streamId).items ++ [item])) (· + message.payload.length) [] q
          (q.add now message {}) ∧ SameTurn q (q.add now message {}) ∧
        ContentsOk (q.add now message {}) :=
    ⟨_, rfl, rfl, rfl, rfl, ⟨rfl, rfl⟩, (edited_streamAdd q message.streamId message _).1,
      (edited_streamAdd q message.streamId message _).2.2,
      h.contents.edit (edit_streamAdd q message.streamId hpay _)⟩
  have hpart : ∀ sid, ((q.add now message {}).stream sid).partialKind =
      (q.stream sid).partialKind := by
    intro sid
    by_cases hs : sid = message.streamId
    · rw [hs, partialKind_congr hedit.core]
      exact partialKind_append hmid
    · exact partialKind_congr (hedit.others sid hs).1
  refine h.of_turn hcontents hturn hedit.interleaving hpart (fun sid m hm => ?_) fun sid => ?_
  · by_cases hs : sid = message.streamId
    · subst hs
      rw [update_self] at hm
      rcases mem_append.mp hm with hm | hm
      · exact h.messages _ m hm
      · rw [mem_singleton.mp hm]
    · rw [update_of_ne hs] at hm
      exact h.messages sid m hm
  · obtain ⟨k, hk⟩ := h.streams sid
    by_cases hs : sid = message.streamId
    · subst hs
      rw [update_self]
      exact ⟨k, (hmsg ▸ hk.enqueue hmid hssn hoff hplain).congr hedit.core⟩
    · rw [update_of_ne hs]
      exact ⟨k, hk.congr (hedit.others sid hs).1⟩

end

lemma senderInv_new (mtu prio thr : Nat) :
    SenderInv [] (fun _ => []) (RRSendQueue.new mtu prio thr) := by
  refine ⟨(sound_new mtu prio thr false).contents, rfl, by simp,
    fun sid => ⟨0, ?_⟩, by simp, locally_nil _, fun sid hp => absurd rfl hp, fun _ => rfl, by simp⟩
  refine ⟨fun item hitem => absurd hitem not_mem_nil, le_refl 0, rfl, rfl, rfl,
    fun item hitem => ?_, fun i m hm => by simp at hm, fun i x hx => absurd hx not_mem_nil⟩
  cases hitem

end Queue

end WebRtc.Dcsctp
