import WebRtc.Dcsctp.System.AssignedTsns

/-!
# dcSCTP — lifecycle events

A message's lifecycle id is in one place at a time: in the send queue while it is not sent in full,
then in the outstanding chunk that ends it, and in the end in the report `OnLifecycleEnd`. `Tokens`
counts the three together, and every move keeps the count. `OnLifecycleMessageDelivered` is raised
when the last chunk is forgotten without having been abandoned; by `Resigned`, no other was.
-/

namespace WebRtc.Dcsctp

open Lib RRSendQueue TracedQueue SendCallback OutstandingData.Item OutgoingStream List View OrdMap

namespace SendCallback

def ends (id : LifecycleId) : SendCallback → Bool
  | .onLifecycleEnd id' => decide (id' = id)
  | _ => false

def settles (id : LifecycleId) : SendCallback → Bool
  | .onLifecycleMessageExpired id' _ | .onLifecycleMessageDelivered id' => decide (id' = id)
  | _ => false

end SendCallback

variable {inner : OutgoingStream} {adjust : Nat → Nat} {sid : StreamID}

section Counting

variable {id : LifecycleId}

def Item.hasId (id : LifecycleId) (item : Item) : Bool := decide (item.attributes.lifecycleId = id)

def OutstandingData.Item.hasId (id : LifecycleId) (i : OutstandingData.Item) : Bool :=
  decide (i.lifecycleId = id)

lemma countP_expiryReports (hid : id ≠ 0) (item : Item) :
    item.expiryReports.countP (ends id) = [item].countP (Item.hasId id) ∧
      item.expiryReports.countP (settles id) = [item].countP (Item.hasId id) := by
  unfold Item.expiryReports
  by_cases h0 : item.attributes.lifecycleId = 0
  · simp [h0, hid.symm, Item.hasId]
  by_cases hi : item.attributes.lifecycleId = id <;>
    simp [h0, hi, hid, ends, settles, Item.hasId]

lemma countP_endReports (hid : id ≠ 0) (i : OutstandingData.Item) :
    i.endReports.countP (ends id) = [i].countP (hasId id) ∧
      i.endReports.countP (settles id) = [i].countP (hasId id) := by
  unfold endReports
  by_cases h0 : i.lifecycleId = 0
  · simp [h0, hid.symm, hasId]
  by_cases hi : i.lifecycleId = id <;> cases i.isAbandoned <;>
    simp [h0, hi, hid, ends, settles, hasId]

lemma countP_flatMap_expiryReports (hid : id ≠ 0) (items : List Item) :
    (items.flatMap Item.expiryReports).countP (ends id) = items.countP (Item.hasId id) ∧
      (items.flatMap Item.expiryReports).countP (settles id) =
        items.countP (Item.hasId id) := by
  induction items with
  | nil => exact ⟨rfl, rfl⟩
  | cons item items ih =>
    obtain ⟨h1, h2⟩ := countP_expiryReports hid item
    rw [flatMap_cons, countP_append, countP_append, h1, h2, ih.1, ih.2, ← countP_append]
    exact ⟨rfl, rfl⟩

lemma delivered_notMem_expiryReports (id : LifecycleId) (item : Item) :
    onLifecycleMessageDelivered id ∉ item.expiryReports := by
  unfold Item.expiryReports
  split <;> simp

def RRSendQueue.enqueuedWith (q : RRSendQueue) (id : LifecycleId) : Nat :=
  weight (fun s => s.items.countP (Item.hasId id)) q.streams

lemma weightAt_enqueued (q : RRSendQueue) (sid : StreamID) :
    weightAt (fun s => s.items.countP (Item.hasId id)) q.streams sid =
      (q.stream sid).items.countP (Item.hasId id) := by
  unfold weightAt stream
  cases q.streams.find? sid <;> rfl

variable {q' q : RRSendQueue}

lemma enqueuedWith_still (h : ∀ sid, (q'.stream sid).items = (q.stream sid).items) :
    q'.enqueuedWith id = q.enqueuedWith id := by
  refine weight_eq_of_weightAt ?_
  intro sid
  rw [weightAt_enqueued, weightAt_enqueued, h]

lemma enqueuedWith_edited (id : LifecycleId) {reports : List SendCallback}
    (h : Edited sid inner adjust reports q q') :
    q'.enqueuedWith id + (q.stream sid).items.countP (Item.hasId id) =
      q.enqueuedWith id + inner.items.countP (Item.hasId id) := by
  have hoth : ∀ sid', sid' ≠ sid →
      weightAt (fun s => s.items.countP (Item.hasId id)) q'.streams sid' =
        weightAt (fun s => s.items.countP (Item.hasId id)) q.streams sid' := by
    intro sid' hs
    rw [weightAt_enqueued, weightAt_enqueued, (core_eq (h.others sid' hs).1).1]
  have hsum := weight_add_of_weightAt_ne hoth
  rw [weightAt_enqueued, weightAt_enqueued, (core_eq h.core).1] at hsum
  exact hsum

lemma countP_sameChunk {R : OutstandingData.Item → OutstandingData.Item → Prop}
    (hR : ∀ i i', R i i' → i'.lifecycleId = i.lifecycleId) {items items' : List OutstandingData.Item}
    (h : Forall₂ R items items') :
    items'.countP (hasId id) = items.countP (hasId id) := by
  induction h with
  | nil => rfl
  | @cons i i' _ _ hr _ ih =>
    have hsame : i'.hasId id = i.hasId id := by
      unfold hasId
      rw [hR i i' hr]
    rw [countP_cons, countP_cons, hsame, ih]

end Counting

/-! ## Where an id is -/

def View.allReports (v : View) : List SendCallback := v.queue.queue.lifecycleReports ++ v.reports

def View.tokens (v : View) (id : LifecycleId) : Nat :=
  v.queue.queue.enqueuedWith id + v.items.countP (hasId id) +
    v.allReports.countP (ends id)

def View.given (v : View) (id : LifecycleId) : Nat :=
  v.queue.messages.countP fun m => decide (m.2.lifecycleId = id)

/-- **Every message that was given the id has it in one place**, and what is reported to have
ended is reported as delivered or expired. -/
structure Tokens (id : LifecycleId) (v : View) : Prop where
  total : v.tokens id = v.given id
  once : v.allReports.countP (settles id) = v.allReports.countP (ends id)
  queue : ∀ id', onLifecycleMessageDelivered id' ∉ v.queue.queue.lifecycleReports

section

variable {v v' : View} {id : LifecycleId}

lemma Tokens.of_counts (h : Tokens id v) (reports : List SendCallback)
    (hrep : v'.allReports.Perm (v.allReports ++ reports))
    (hset : reports.countP (settles id) = reports.countP (ends id))
    (hq : ∀ id', onLifecycleMessageDelivered id' ∉ v'.queue.queue.lifecycleReports)
    (htot : v'.queue.queue.enqueuedWith id + v'.items.countP (hasId id) +
        reports.countP (ends id) + v.given id =
      v.queue.queue.enqueuedWith id + v.items.countP (hasId id) + v'.given id) :
    Tokens id v' := by
  refine ⟨?_, ?_, hq⟩
  · have := h.total
    unfold tokens at this ⊢
    rw [hrep.countP_eq, countP_append]
    omega
  · rw [hrep.countP_eq, hrep.countP_eq, countP_append, countP_append, h.once, hset]

lemma Tokens.edited (h : Tokens id v) {reports : List SendCallback}
    (hedit : Edited sid inner adjust reports v.queue.queue v'.queue.queue)
    (hrtx : v'.reports = v.reports) (hset : reports.countP (settles id) = reports.countP (ends id))
    (hexp : ∀ id', onLifecycleMessageDelivered id' ∉ reports)
    (htot : inner.items.countP (Item.hasId id) + v'.items.countP (hasId id) +
        reports.countP (ends id) + v.given id =
      (v.queue.queue.stream sid).items.countP (Item.hasId id) +
        v.items.countP (hasId id) + v'.given id) : Tokens id v' := by
  have hsum := enqueuedWith_edited id hedit
  refine h.of_counts reports ?_ hset ?_ (by omega)
  · unfold allReports
    rw [hedit.reported, hrtx, append_assoc, append_assoc]
    exact perm_append_comm.append_left _
  intro id'
  rw [hedit.reported, mem_append, not_or]
  exact ⟨h.queue id', hexp id'⟩

lemma Tokens.change (hid : id ≠ 0) (h : Tokens id v) (hc : Change v.queue v'.queue)
    (hitm : v'.items = v.items) (hrep : v'.reports = v.reports) : Tokens id v' := by
  cases hc with
  | still edit still _ messages =>
    refine h.of_counts [] ?_ rfl ?_ ?_
    · unfold allReports
      rw [still.reported, hrep, append_nil]
    · rw [still.reported]
      exact h.queue
    rw [enqueuedWith_still still.items, hitm, View.given, View.given, messages]
    rfl
  | drop sid item rest items unsent edited _ _ _ messages =>
    obtain ⟨hends, hset⟩ := countP_expiryReports hid item
    refine h.edited edited hrep (hset.trans hends.symm)
      (fun id' => delivered_notMem_expiryReports id' item) ?_
    rw [hends, hitm, items, items_withItems, View.given, View.given, messages,
      countP_singleton, countP_cons]
    omega
  | enqueue message sendOptions attributes _ lifecycle edited _ _ _ messages =>
    refine h.edited edited hrep rfl (fun _ => not_mem_nil) ?_
    have hnew : (Item.new v.queue.queue.currentMessageId message attributes).hasId id =
        decide ((message, sendOptions).2.lifecycleId = id) := by
      rw [← lifecycle]
      rfl
    rw [hitm, items_withItems, View.given, View.given, messages, countP_append,
      countP_append, countP_singleton, countP_singleton, hnew, countP_nil]
    omega
  | pause sid kept dropped _ items _ _ edited _ _ _ messages =>
    obtain ⟨hends, hset⟩ := countP_flatMap_expiryReports hid dropped
    refine h.edited edited hrep (hset.trans hends.symm) ?_ ?_
    · intro id' hmem
      obtain ⟨item, -, hitem⟩ := mem_flatMap.mp hmem
      exact delivered_notMem_expiryReports id' item hitem
    rw [hends, hitm, items, items_withPause, items_withItems,
      View.given, View.given, messages, countP_append]
    omega

lemma Tokens.move (hid : id ≠ 0) (h : Tokens id v) (hn : Numbered v.queue) (hm : Move v v') :
    Tokens id v' := by
  -- the items are the same chunks, and the queue stays
  have hkept : ∀ {R : OutstandingData.Item → OutstandingData.Item → Prop},
      (∀ i i', R i i' → SameChunk i i') → Forall₂ R v.items v'.items →
      v'.reports = v.reports → v'.queue = v.queue → Tokens id v' := by
    intro R hR hitm hrep hq
    refine h.of_counts [] ?_ rfl ?_ ?_
    · unfold allReports
      rw [hq, hrep, append_nil]
    · rw [hq]
      exact h.queue
    rw [countP_sameChunk (fun i i' hr => (hR i i' hr).lifecycleId) hitm, View.given, View.given, hq]
    rfl
  cases hm with
  | change hc _ items reports => exact h.change hid hc items reports
  | adjust items _ reports queue => exact hkept (fun _ _ hr => hr.1) items reports queue
  | pop i items _ reports queue =>
    obtain ⟨hends, hset⟩ := countP_endReports hid i
    refine h.of_counts i.endReports ?_ (hset.trans hends.symm) ?_ ?_
    · unfold allReports
      rw [queue, append_assoc]
      exact reports.append_left _
    · rw [queue]
      exact h.queue
    · rw [hends, items, queue, View.given, View.given, queue, countP_singleton, countP_cons]
      omega
  | send sid maxSize item rest d i hs messageId data lifecycleId _ items _ reports =>
    refine h.edited hs.sends.edited reports rfl (fun _ => not_mem_nil) ?_
    have hfrag := hs.sends.fragment hn.contents hs.size
    have hleft := (core_eq hs.sends.edited.core).1
    rw [← hleft, items, hs.sends.items, View.given, View.given, hs.messages, countP_append,
      countP_singleton, countP_cons, countP_nil]
    have hch : i.hasId id = (d.data.isEnd && item.hasId id) := by
      unfold hasId Item.hasId
      rw [lifecycleId, hfrag.lifecycle]
      cases d.data.isEnd <;> simp [hid.symm]
    cases hend : d.data.isEnd with
    | true =>
      rw [(hfrag.done hend).2.1, hch, hend, Bool.true_and]
      omega
    | false =>
      obtain ⟨item', hitem', -, -, -, -, -, -, hattributes, -⟩ := hfrag.more hend
      have hsame : item'.hasId id = item.hasId id := by
        unfold Item.hasId
        rw [hattributes]
      rw [hitem', hch, hend, countP_cons, hsame]
      simp only [Bool.false_and, Bool.false_eq_true, if_false]
      omega
  | abandon i _ _ items _ reports queue => exact hkept (fun _ _ hr => hr.same) items reports queue
  | discard i _ item rest hd _ items _ reports =>
    obtain ⟨hends, hset⟩ := countP_expiryReports hid item
    refine h.edited hd.edited reports (hset.trans hends.symm)
      (fun id' => delivered_notMem_expiryReports id' item) ?_
    have hplaceholder : i.unsentEnd.ack.hasId id = false := by
      simp [hasId, OutstandingData.Item.ack, unsentEnd, hid.symm]
    rw [hends, hd.items, items_withPause, items_withItems, View.given,
      View.given, hd.messages, countP_sameChunk (fun _ _ hr => hr.same.lifecycleId) items,
      countP_append, countP_singleton, countP_singleton, countP_cons, hplaceholder]
    simp only [Bool.false_eq_true, if_false]
    omega

end

/-! ## Delivered messages -/

structure Acknowledged (id : LifecycleId) (n : Nat) (v : View) : Prop where
  message : ∃ message o, v.queue.messages[n]? = some (message, o) ∧ o.lifecycleId = id ∧
    v.queue.sent n = message.payload
  finished : Finished n v

def DeliveredInFull (id : LifecycleId) (v : View) : Prop :=
  onLifecycleMessageDelivered id ∈ v.reports → ∃ n, Acknowledged id n v

section

variable {v v' : View} {id : LifecycleId} {start : Int} {n : Nat} {α : Type*} {a : α}

lemma getElem?_of_prefix {l l' : List α} (h : l <+: l') (hn : l[n]? = some a) :
    l'[n]? = some a := by
  obtain ⟨more, rfl⟩ := h
  rw [getElem?_append_left (List.getElem?_eq_some_iff.mp hn).1, hn]

lemma Acknowledged.move (h : Acknowledged id n v) (ht : Traced start v) (hm : Move v v') :
    Acknowledged id n v' := by
  obtain ⟨message, o, hmsg, ho, hsent⟩ := h.message
  refine ⟨⟨message, o, getElem?_of_prefix hm.record.1 hmsg, ho, ?_⟩,
    h.finished.move (fun _ _ _ hf => hf) ht.numbered ht.assigned.length hm⟩
  rcases hm.given ht.numbered with hg | ⟨g, sid, hg, hmem⟩
  · rw [sent, hg]
    exact hsent
  -- the new chunk is of another message
  have hne : g.message ≠ n := by
    rintro rfl
    exact h.finished.gone sid hmem
  rw [sent, hg]
  exact (sent_give_ne v.queue hne).trans hsent

lemma acknowledged_of_pop (hid : id ≠ 0) (ht : Traced start v) {i : OutstandingData.Item}
    (hitm : v.items = i :: v'.items) (hq : v'.queue = v.queue) (hi : i.lifecycleId = id) :
    ∃ n, Acknowledged id n v' := by
  have hg : v'.queue.given = v.queue.given := by rw [hq]
  obtain ⟨g, hout, hacked⟩ := split_pop ht.assigned.length hg (by rw [hitm]; rfl)
  have hch : (i, g) ∈ v.chunks := by
    rw [chunks, hitm, hout]
    exact mem_cons_self
  have hgiv : g ∈ v.queue.given := mem_given_of_chunk (c := (i, g)) hch
  obtain ⟨message, o, hmsg, -, hlife⟩ := (ht.assigned.shows _ hch).message
  have hend : g.isEnd = true ∧ g.payload ≠ [] := by
    by_contra hne
    rw [if_neg hne, hi] at hlife
    exact hid hlife
  rw [if_pos hend, hi] at hlife
  refine ⟨g.message, ⟨message, o, ?_, hlife.symm, ?_⟩, ?_, ?_, ?_⟩
  · rw [hq]
    exact hmsg
  · obtain ⟨message', o', hmsg', -, hwhole⟩ := ht.numbered.parts g hgiv
    rw [hmsg] at hmsg'
    obtain ⟨rfl, -⟩ := Prod.mk.inj (Option.some.inj hmsg')
    rw [hq]
    exact hwhole hend.1 hend.2
  · rw [hq]
    exact ht.numbered.known hgiv
  · intro sid hmem
    rw [hq] at hmem
    have := ht.numbered.unended hmem g hgiv rfl
    rw [hend.1] at this
    simp at this
  -- chunks that follow the end of a message are of other messages
  intro c hc heq
  have hends := ht.assigned.ends
  rw [given_split v, hout, pairwise_append] at hends
  exact (pairwise_cons.mp hends.2.1).1 c.2 (of_mem_zip hc).2 hend.1 heq

lemma Move.delivered (hm : Move v v') (hd : onLifecycleMessageDelivered id ∈ v'.reports) :
    onLifecycleMessageDelivered id ∈ v.reports ∨
      ∃ i, v.items = i :: v'.items ∧ v'.queue = v.queue ∧ i.lifecycleId = id ∧
        i.isAbandoned = false := by
  cases hm with
  | change _ _ _ reports | adjust _ _ reports _ | send _ _ _ _ _ _ _ _ _ _ _ _ _ reports
  | abandon _ _ _ _ _ reports _ | discard _ _ _ _ _ _ _ _ reports => exact .inl (reports ▸ hd)
  | pop i items _ reports queue =>
    rcases mem_append.mp (reports.mem_iff.mp hd) with hold | hnew
    · exact .inl hold
    refine .inr ⟨i, items, queue, ?_⟩
    unfold endReports at hnew
    split at hnew
    · simp at hnew
    cases hab : i.isAbandoned <;> simp [hab] at hnew
    exact ⟨hnew.symm, rfl⟩

lemma DeliveredInFull.move (hid : id ≠ 0) (h : DeliveredInFull id v) (ht : Traced start v)
    (hm : Move v v') : DeliveredInFull id v' := by
  intro hd
  rcases hm.delivered hd with hold | ⟨i, hitm, hq, hi, -⟩
  · obtain ⟨n, hn⟩ := h hold
    exact ⟨n, hn.move ht hm⟩
  · exact acknowledged_of_pop hid ht hitm hq hi

lemma index_unique_of_countP {p : α → Bool} {l : List α} (h : l.countP p ≤ 1) {m : Nat}
    {b : α} (hn : l[n]? = some a) (hm : l[m]? = some b) (ha : p a = true) (hb : p b = true) :
    n = m := by
  induction l generalizing n m with
  | nil => simp at hn
  | cons x l ih =>
    -- an element behind the first would be a second one
    have hrest : ∀ {k : Nat} {c : α}, l[k]? = some c → p c = true → 0 < l.countP p := by
      intro k c hk hc
      exact countP_pos_iff.mpr ⟨c, mem_of_getElem? hk, hc⟩
    rw [countP_cons] at h
    cases n with
    | zero =>
      cases m with
      | zero => rfl
      | succ m =>
        obtain rfl : x = a := by simpa using hn
        have := hrest (by simpa using hm) hb
        rw [if_pos ha] at h
        omega
    | succ n =>
      cases m with
      | zero =>
        obtain rfl : x = b := by simpa using hm
        have := hrest (by simpa using hn) ha
        rw [if_pos hb] at h
        omega
      | succ m =>
        exact congrArg (· + 1) (ih (by omega) (by simpa using hn) (by simpa using hm))

lemma GivenUp.undelivered (hid : id ≠ 0) (hm : Moves v v') (ht : Traced start v) (hg : GivenUp n v)
    {message : DcSctpMessage} {o : SendOptions} (hn : v.queue.messages[n]? = some (message, o))
    (ho : o.lifecycleId = id) (hnot : onLifecycleMessageDelivered id ∉ v.reports)
    (hunique : v'.given id ≤ 1) :
    Traced start v' ∧ GivenUp n v' ∧ v'.queue.messages[n]? = some (message, o) ∧
      onLifecycleMessageDelivered id ∉ v'.reports := by
  induction hm with
  | refl => exact ⟨ht, hg, hn, hnot⟩
  | @tail v1 v2 _ hmove ih =>
    have hle : v1.given id ≤ v2.given id := hmove.record.1.sublist.countP_le
    obtain ⟨ht1, hg1, hn1, hnot1⟩ := ih (by omega)
    refine ⟨ht1.move hmove, hg1.move (fun _ _ hl => hl.abandoned) ht1.numbered ht1.assigned.length hmove,
      getElem?_of_prefix hmove.record.1 hn1, ?_⟩
    intro hd
    rcases hmove.delivered hd with hold | ⟨i, hitm, hq, hi, hact⟩
    · exact hnot1 hold
    -- the chunk is of a message with the same id, hence of this one, and is abandoned
    have hg2 : v2.queue.given = v1.queue.given := by rw [hq]
    obtain ⟨g, hout, -⟩ := split_pop ht1.assigned.length hg2 (by rw [hitm]; rfl)
    have hch : (i, g) ∈ v1.chunks := by
      rw [chunks, hitm, hout]
      exact mem_cons_self
    obtain ⟨message', o', hmsg', -, hlife⟩ := (ht1.assigned.shows _ hch).message
    have hsame : o'.lifecycleId = id := by
      rw [hi] at hlife
      split at hlife
      · exact hlife.symm
      · exact absurd hlife hid
    have heq : g.message = n := index_unique_of_countP (le_trans hle hunique) hmsg' hn1
      (by simp [hsame]) (by simp [ho])
    have := hg1.left _ hch heq
    rw [hact] at this
    simp at this

end

/-! ## Runs -/

def Abandoned (n : Nat) (v : View) : Prop := ∃ c ∈ v.chunks, c.2.message = n ∧ c.1.isAbandoned = true

/-- All of the message, which was added with the id, was given TSNs, and all these TSNs have been
acknowledged. -/
structure AckedInFull (start : Int) (id : LifecycleId) (n : Nat) (v : View) : Prop where
  sent : ∃ message o, v.queue.messages[n]? = some (message, o) ∧ o.lifecycleId = id ∧
    v.queue.sent n = message.payload
  acked : ∀ (k : Nat) (g : Given), v.queue.given[k]? = some g → g.message = n →
    start + 1 + k ≤ v.cumulativeAck

lemma Acknowledged.ackedInFull {start : Int} {n : Nat} {id : LifecycleId} {v : View}
    (h : Acknowledged id n v) (ha : Assigned start v) : AckedInFull start id n v := by
  refine ⟨h.message, ?_⟩
  intro k g hk heq
  by_contra hlt
  -- a chunk beyond the cumulative ack would be outstanding
  have hle : v.acked.length ≤ k := by
    have := ha.ack
    omega
  rw [given_split v, getElem?_append_right hle] at hk
  obtain ⟨hlen, hget⟩ := List.getElem?_eq_some_iff.mp hk
  have hitem : k - v.acked.length < v.items.length := by rwa [← length_outstanding ha.length]
  refine h.finished.left (v.items[k - v.acked.length], g) ?_ heq
  have hzip : (v.items.zip v.outstanding)[k - v.acked.length]? =
      some (v.items[k - v.acked.length], g) := by
    rw [getElem?_zip_eq_some]
    exact ⟨getElem?_eq_getElem hitem, hk⟩
  exact mem_of_getElem? hzip

namespace SendSide

def reports (s : SendSide) : List SendCallback := s.queue.queue.callbacks ++ s.rtx.callbacks

lemma countP_reports (s : SendSide) {p : SendCallback → Bool}
    (hp : ∀ c, p c = true → c.isLifecycle = true ∧ c.isOutcome = true) :
    s.reports.countP p = s.view.allReports.countP p := by
  have hfilter : ∀ (l : List SendCallback) (f : SendCallback → Bool), (∀ c, p c = true → f c = true) →
      (l.filter f).countP p = l.countP p := by
    intro l f hf
    rw [countP_filter]
    refine countP_congr ?_
    intro c _
    cases hc : p c with
    | false => simp
    | true => simp [hf c hc]
  show countP p (_ ++ _) = countP p (filter _ _ ++ filter _ _)
  rw [countP_append, countP_append]
  exact (congrArg₂ (· + ·) (hfilter _ _ fun c hc => (hp c hc).1)
    (hfilter _ _ fun c hc => (hp c hc).2)).symm

lemma tokens_new (myTsn : TSN) (aRwnd : BitVec 32) (options : DcSctpOptions)
    (partialRel inter : Bool) (id : LifecycleId) :
    Tokens id (new myTsn aRwnd options partialRel inter).view :=
  ⟨rfl, rfl, fun _ => not_mem_nil⟩

lemma tokens_run (myTsn : TSN) (aRwnd : BitVec 32) (options : DcSctpOptions)
    (partialRel inter : Bool) {events : List SendEvent} (hok : ∀ e ∈ events, e.Ok)
    {id : LifecycleId} (hid : id ≠ 0) {s : SendSide}
    (hs : s = run step (new myTsn aRwnd options partialRel inter) events) :
    s.Ready ∧ Traced (new myTsn aRwnd options partialRel inter).startTsn s.view ∧
      Tokens id s.view ∧ DeliveredInFull id s.view ∧
      s.view.given id = (events.flatMap added).countP fun m => decide (m.2.lifecycleId = id) := by
  obtain ⟨hready, htraced, htokens, hdlv⟩ := run_invariant
    (P := fun v => Tokens id v ∧ DeliveredInFull id v)
    (fun v v' ht hm hv => ⟨hv.1.move hid ht.numbered hm, hv.2.move hid ht hm⟩)
    (ready_new myTsn aRwnd options partialRel inter) (traced_new ..)
    ⟨tokens_new .., fun hd => (nomatch hd)⟩ hok
  subst hs
  refine ⟨hready, htraced, htokens, hdlv, ?_⟩
  show countP _ (run step _ events).queue.messages = _
  rw [(run_plain events _).2]
  rfl

/-- What is reported about an id in a run from `s`: its end at most once, not both its delivery and
its expiry, and its delivery only if the message with this id was acknowledged in full and no chunk
of it was ever abandoned. -/
structure LifecycleOk (s : SendSide) (events : List SendEvent) (id : LifecycleId) : Prop where
  once : (run step s events).reports.count (.onLifecycleEnd id) ≤ 1
  exclusive : .onLifecycleMessageDelivered id ∈ (run step s events).reports →
    ∀ maybeDelivered, .onLifecycleMessageExpired id maybeDelivered ∉
      (run step s events).reports
  delivered : .onLifecycleMessageDelivered id ∈ (run step s events).reports →
    ∃ n, AckedInFull s.startTsn id n (run step s events).view ∧
      ∀ earlier, earlier <+: events → ¬ Abandoned n (run step s earlier).view

lemma countP_ends_le {id : LifecycleId} {v : View} (h : Tokens id v) (hunique : v.given id ≤ 1) :
    v.allReports.countP (ends id) ≤ 1 := by
  have := h.total
  unfold tokens at this
  omega

lemma delivered_mem_view {id : LifecycleId} {s : SendSide} (h : Tokens id s.view)
    (hd : onLifecycleMessageDelivered id ∈ s.reports) :
    onLifecycleMessageDelivered id ∈ s.view.reports := by
  rcases mem_append.mp hd with hq | hr
  · exact absurd (mem_filter.mpr ⟨hq, rfl⟩) (h.queue id)
  · exact mem_filter.mpr ⟨hr, rfl⟩

/-- The message with id 7 is acknowledged. The one with id 8 is lost and must not be sent again, and
its chunk is skipped. -/
def deliverAndAbandon : List SendEvent :=
  [.add 0 ⟨1, 51, replicate 100 0⟩ { lifecycleId := 7 },
   .add 0 ⟨2, 51, [1]⟩ { maxRetransmissions := some 0, lifecycleId := 8 },
   .getChunksToSend 0 1191,
   .handleSack 0 ⟨1, 1000, [], .empty⟩ 1191,
   .handleT3RtxTimerExpiry,
   .handleSack 0 ⟨2, 1000, [], .empty⟩ 1191]

/-- A message of 300 bytes with a lifetime of ten milliseconds is given TSNs in part, its first
fragment is lost, and the lifetime passes before the rest is sent. -/
def expireHalfSent : List SendEvent :=
  [.add 0 ⟨1, 51, replicate 300 0⟩ { lifetime := some 10, lifecycleId := 7 },
   .getChunksToSend 0 100,
   .handleT3RtxTimerExpiry,
   .shouldSendForwardTsn 20000]

end SendSide

/-! ## Messages that are given up -/

lemma GivenUp.given_kept {v v' : View} {start : Int} {n : Nat} (hm : Moves v v') (ht : Traced start v)
    (hg : GivenUp n v) : GivenUp n v' ∧
      v'.queue.given.filter (fun g => g.message = n) = v.queue.given.filter fun g => g.message = n := by
  refine (Moves.induction (P := fun v' => GivenUp n v' ∧ v'.queue.given.filter (fun g => g.message = n) =
    v.queue.given.filter fun g => g.message = n) ?_ hm ht ⟨hg, rfl⟩).2
  rintro v1 v2 ht1 hmove ⟨hg1, hsame⟩
  refine ⟨hg1.move (fun _ _ hl => hl.abandoned) ht1.numbered ht1.assigned.length hmove, ?_⟩
  rw [← hsame]
  rcases hmove.given ht1.numbered with hgiv | ⟨g, sid, hgiv, hmem⟩
  · rw [hgiv]
  have hne : g.message ≠ n := fun heq => hg1.gone sid (heq ▸ hmem)
  simp [hgiv, hne]

namespace SendSide

/-- **Partial reliability is all or nothing.** Once a chunk of a message is abandoned, nothing of
the message is in the send queue, no further chunk of it is given a TSN, and what is outstanding of
it is abandoned, for the rest of the run, as long as the run is defined. -/
theorem abandoned_for_good (myInitialTsn : TSN) (aRwnd : BitVec 32) (options : DcSctpOptions)
    (partialReliability interleaving : Bool) {earlier later : List SendEvent}
    (hdefined : Along step Defined (new myInitialTsn aRwnd options partialReliability interleaving)
      (earlier ++ later)) {i : OutstandingData.Item} {g : Given}
    (hchunk : (i, g) ∈ (run step (new myInitialTsn aRwnd options partialReliability interleaving)
      earlier).view.chunks) (hab : i.isAbandoned = true) :
    let v := (run step (new myInitialTsn aRwnd options partialReliability interleaving) earlier).view
    let v' := (run step (new myInitialTsn aRwnd options partialReliability interleaving)
      (earlier ++ later)).view
    (∀ sid, g.message ∉ v'.queue.numbers sid) ∧
      v'.queue.given.filter (fun g' => g'.message = g.message) =
        v.queue.given.filter (fun g' => g'.message = g.message) ∧
      ∀ c ∈ v'.chunks, c.2.message = g.message → c.1.isAbandoned = true := by
  intro v v'
  have hok := Along.ok hdefined
  obtain ⟨hready, htraced, -⟩ := run_invariant (P := fun _ => True) (fun _ _ _ _ _ => trivial)
    (ready_new myInitialTsn aRwnd options partialReliability interleaving) (traced_new ..) trivial
    fun e he => hok e (mem_append_left later he)
  obtain ⟨hmv, -⟩ := run_moves hready fun e he => hok e (mem_append_right earlier he)
  rw [← run_append] at hmv
  obtain ⟨hover, hkept⟩ := GivenUp.given_kept hmv htraced (htraced.resigned _ hchunk hab)
  exact ⟨hover.gone, hkept, hover.left⟩

theorem abandoned_for_good_deliverAndAbandon :
    ∃ c ∈ (run step (new 1 100000 {} true false) (deliverAndAbandon.take 5)).view.chunks,
      c.2.message = 1 ∧ ∀ sid, c.2.message ∉ (run step (new 1 100000 {} true false)
        (deliverAndAbandon.take 5 ++ deliverAndAbandon.drop 5)).view.queue.numbers sid := by
  obtain ⟨c, hc, hn, hab⟩ : ∃ c ∈ (run step (new 1 100000 {} true false)
      (deliverAndAbandon.take 5)).view.chunks, c.2.message = 1 ∧ c.1.isAbandoned = true := by
    decide +kernel
  exact ⟨c, hc, hn, (abandoned_for_good 1 100000 {} true false
    (by decide +kernel) hc hab).1⟩

end SendSide

end WebRtc.Dcsctp
