import WebRtc.Dcsctp.System.Transmission

/-!
# dcSCTP — the chunks behind the TSNs

TSNs are given in the order of the record `TracedQueue.given`, so that the outstanding chunks are
its last part and everything before is acknowledged (`Assigned`). With that, an outstanding item
has a message that it is part of, also where message ids repeat; once a chunk is abandoned, its
message is given up (`Resigned`).
-/

namespace WebRtc.Dcsctp

open Lib RRSendQueue TracedQueue OutstandingData.Item List View

lemma mem_zip_of_forall₂ {α β γ : Type*} {R : α → β → Prop} {l : List α} {l' : List β}
    (h : Forall₂ R l l') {m : List γ} {b : β} {c : γ} (hm : (b, c) ∈ l'.zip m) :
    ∃ a, (a, c) ∈ l.zip m ∧ R a b := by
  induction h generalizing m with
  | nil => simp at hm
  | cons hR _ ih =>
    cases m with
    | nil => simp at hm
    | cons x m =>
      rcases mem_cons.mp hm with heq | hm
      · obtain ⟨rfl, rfl⟩ := Prod.mk.inj heq
        exact ⟨_, mem_cons_self, hR⟩
      obtain ⟨a, ha, hR'⟩ := ih hm
      exact ⟨a, mem_cons_of_mem _ ha, hR'⟩

namespace View

def acked (v : View) : List Given :=
  v.queue.given.take (v.queue.given.length - v.items.length)

def outstanding (v : View) : List Given :=
  v.queue.given.drop (v.queue.given.length - v.items.length)

def chunks (v : View) : List (OutstandingData.Item × Given) := v.items.zip v.outstanding

end View

/-- The item is the chunk `g` of one of the messages. Only the chunk that ends a message has its
lifecycle id; a placeholder has none. -/
structure Shows (messages : List (DcSctpMessage × SendOptions)) (i : OutstandingData.Item) (g : Given) :
    Prop where
  messageId : i.messageId = BitVec.ofNat 32 g.message
  payload : i.data.payload = g.payload
  isBeginning : i.data.isBeginning = g.isBeginning
  isEnd : i.data.isEnd = g.isEnd
  message : ∃ message o, messages[g.message]? = some (message, o) ∧
    i.data.streamId = message.streamId ∧
    i.lifecycleId = if g.isEnd = true ∧ g.payload ≠ [] then o.lifecycleId else 0

variable {msgs : List (DcSctpMessage × SendOptions)}

lemma Shows.mono {messages' : List (DcSctpMessage × SendOptions)} {i : OutstandingData.Item}
    {g : Given} (h : Shows msgs i g) (hle : msgs <+: messages') : Shows messages' i g := by
  obtain ⟨message, o, hm, hrest⟩ := h.message
  obtain ⟨more, rfl⟩ := hle
  exact ⟨h.messageId, h.payload, h.isBeginning, h.isEnd, message, o,
    by rw [getElem?_append_left (List.getElem?_eq_some_iff.mp hm).1, hm], hrest⟩

lemma Shows.sameChunk {i i' : OutstandingData.Item}
    {g : Given} (h : Shows msgs i g) (hs : SameChunk i i') :
    Shows msgs i' g := by
  obtain ⟨hid, hpay, hbeg, hend, hmsg⟩ := h
  refine ⟨?_, ?_, ?_, ?_, ?_⟩
  · rw [hs.messageId, hid]
  · rw [hs.data, hpay]
  · rw [hs.data, hbeg]
  · rw [hs.data, hend]
  rw [hs.data, hs.lifecycleId]
  exact hmsg

/-- **TSNs and chunks.** The chunk that was given the first TSN comes after `start`. -/
structure Assigned (start : Int) (v : View) : Prop where
  length : v.items.length ≤ v.queue.given.length
  ack : v.cumulativeAck = start + v.acked.length
  shows : ∀ c ∈ v.chunks, Shows v.queue.messages c.1 c.2
  ends : v.queue.given.Pairwise fun g g' => g.isEnd = true → g'.message ≠ g.message

section Lists

variable {v v' : View}

lemma length_outstanding (h : v.items.length ≤ v.queue.given.length) :
    v.outstanding.length = v.items.length := by
  rw [outstanding, length_drop]
  omega

lemma split_kept (hg : v'.queue.given = v.queue.given) (hl : v'.items.length = v.items.length) :
    v'.outstanding = v.outstanding ∧ v'.acked = v.acked := by
  simp only [outstanding, acked, hg, hl, and_self]

lemma split_append {g : Given} (h : v.items.length ≤ v.queue.given.length)
    (hg : v'.queue.given = v.queue.given ++ [g]) (hl : v'.items.length = v.items.length + 1) :
    v'.outstanding = v.outstanding ++ [g] ∧ v'.acked = v.acked := by
  have hk : v'.queue.given.length - v'.items.length = v.queue.given.length - v.items.length := by
    rw [hg, hl, length_append, length_singleton]
    omega
  unfold outstanding acked
  rw [hk, hg, drop_append_of_le_length (by omega), take_append_of_le_length (by omega)]
  exact ⟨rfl, rfl⟩

lemma split_pop (h : v.items.length ≤ v.queue.given.length) (hg : v'.queue.given = v.queue.given)
    (hl : v.items.length = v'.items.length + 1) :
    ∃ g, v.outstanding = g :: v'.outstanding ∧ v'.acked = v.acked ++ [g] := by
  have hk : v'.queue.given.length - v'.items.length = v.queue.given.length - v.items.length + 1 := by
    rw [hg]
    omega
  have hlt : v.queue.given.length - v.items.length < v.queue.given.length := by omega
  refine ⟨v.queue.given[v.queue.given.length - v.items.length], ?_, ?_⟩
  · unfold outstanding
    rw [hk, hg, drop_eq_getElem_cons hlt]
  unfold acked
  rw [hk, hg, take_succ_eq_append_getElem hlt]

lemma given_split (v : View) : v.queue.given = v.acked ++ v.outstanding :=
  (take_append_drop _ _).symm

lemma mem_given_of_chunk {c : OutstandingData.Item × Given} (hc : c ∈ v.chunks) :
    c.2 ∈ v.queue.given := by
  rw [given_split]
  exact mem_append_right _ (of_mem_zip hc).2

end Lists

/-! ## What a move does to the record -/

section Moves

variable {v v' : View} {start : Int} {t : TracedQueue} {sid : StreamID} {i x : OutstandingData.Item}

variable {t' : TracedQueue} {item : Item} {rest : List Item} {n : Nat} {g : Given}

lemma TracedQueue.Change.record (h : Change t t') :
    t'.given = t.given ∧ t.messages <+: t'.messages ∧
      ∀ sid, ∀ n ∈ t'.numbers sid, n ∈ t.numbers sid ∨ n = t.messages.length := by
  cases h with
  | still _ _ numbers messages given =>
    refine ⟨given, by rw [messages], fun sid n hn => .inl ?_⟩
    rwa [numbers] at hn
  | drop sid item rest _ _ _ _ _ numbers messages given =>
    refine ⟨given, by rw [messages], fun sid n hn => .inl ?_⟩
    rw [numbers] at hn
    exact mem_of_mem_drop hn
  | enqueue message sendOptions _ _ _ _ _ _ numbers messages given =>
    refine ⟨given, by rw [messages]; exact prefix_append .., fun sid n hn => ?_⟩
    rw [numbers] at hn
    by_cases hs : sid = message.streamId
    · subst hs
      rw [Function.update_self] at hn
      rcases mem_append.mp hn with hn | hn
      · exact .inl hn
      · exact .inr (mem_singleton.mp hn)
    · rw [Function.update_of_ne hs] at hn
      exact .inl hn
  | pause sid kept dropped _ _ _ _ _ _ _ numbers messages given =>
    refine ⟨given, by rw [messages], fun sid n hn => .inl ?_⟩
    rw [numbers] at hn
    exact mem_of_mem_take hn

lemma Move.record (h : Move v v') : v.queue.messages <+: v'.queue.messages ∧
    ∀ sid, ∀ n ∈ v'.queue.numbers sid, n ∈ v.queue.numbers sid ∨ n = v.queue.messages.length := by
  cases h with
  | change h => exact h.record.2
  | adjust _ _ _ queue | pop _ _ _ _ queue | abandon _ _ _ _ _ _ queue =>
    rw [queue]
    exact ⟨prefix_refl _, fun _ _ => .inl⟩
  | send sid maxSize item rest d i h | discard i sid item rest h =>
    refine ⟨by rw [h.messages], fun sid n hn => ?_⟩
    rw [h.numbers] at hn
    exact .inl (mem_of_mem_drop hn)

lemma Moves.messages (hm : Moves v v') : v.queue.messages <+: v'.queue.messages := by
  induction hm with
  | refl => exact prefix_refl _
  | tail _ hmove ih => exact ih.trans hmove.record.1

lemma TracedQueue.Numbered.headD_mem (hn : Numbered t) (hitm : (t.queue.stream sid).items = item :: rest) :
    (t.numbers sid).headD 0 ∈ t.numbers sid := by
  obtain ⟨n, ns, hns, -⟩ := hn.head hitm
  rw [hns]
  exact mem_cons_self

lemma Move.given (h : Move v v') (hn : Numbered v.queue) : v'.queue.given = v.queue.given ∨
    ∃ g sid, v'.queue.given = v.queue.given ++ [g] ∧ g.message ∈ v.queue.numbers sid := by
  cases h with
  | change h => exact .inl h.record.1
  | adjust _ _ _ queue | pop _ _ _ _ queue | abandon _ _ _ _ _ _ queue =>
    exact .inl (by rw [queue])
  | send sid maxSize item rest d i h => exact .inr ⟨_, sid, h.given, hn.headD_mem h.sends.items⟩
  | discard i _ item rest h => exact .inr ⟨_, _, h.given, hn.headD_mem h.items⟩

lemma TracedQueue.Numbered.unended (hn : Numbered t)
    (hmem : n ∈ t.numbers sid) : ∀ g ∈ t.given, g.message = n → g.isEnd = false := by
  obtain ⟨k, hk, rfl⟩ := getElem_of_mem hmem
  have hk' : k < (t.queue.stream sid).items.length := by rwa [← hn.length_numbers]
  exact ((forall₂_iff_get.mp (hn.carried sid)).2 k hk' hk).unended

lemma TracedQueue.SendsChunk.shows {maxSize : Nat} {d : DataToSend} (h : SendsChunk sid maxSize item rest d t t') (hn : Numbered t) (hid : i.messageId = d.messageId) (hdata : i.data = d.data)
    (hlife : i.lifecycleId = d.lifecycleId) :
    Shows t.messages i ⟨(t.numbers sid).headD 0, d.data.payload, d.data.isBeginning, d.data.isEnd⟩ := by
  obtain ⟨n, ns, hns, hcarry, -⟩ := hn.head h.sends.items
  have hfrag := h.sends.fragment hn.contents h.size
  obtain ⟨o, hmsg, ho⟩ := hcarry.message
  rw [hns, headD_cons]
  refine ⟨?_, by rw [hdata], by rw [hdata], by rw [hdata], item.message, o, hmsg, ?_, ?_⟩
  · rw [hid, hfrag.messageId, hcarry.messageId]
  · rw [hdata, hfrag.streamId]
  rw [hlife, hfrag.lifecycle, ho]
  simp only [hfrag.nonempty, ne_eq, not_false_eq_true, and_true]

lemma TracedQueue.Discards.shows (h : Discards i.data.streamId item rest t t') (hn : Numbered t)
    (hid : item.messageId = i.messageId) :
    Shows t.messages i.unsentEnd.ack ⟨(t.numbers i.data.streamId).headD 0, [], false, true⟩ := by
  obtain ⟨n, ns, hns, hcarry, -⟩ := hn.head h.items
  obtain ⟨o, hmsg, -⟩ := hcarry.message
  rw [hns, headD_cons]
  refine ⟨?_, rfl, rfl, rfl, item.message, o, hmsg, ?_, ?_⟩
  · exact hid.symm.trans hcarry.messageId
  · exact hcarry.streamId.symm
  rw [if_neg (fun hc => hc.2 rfl)]
  rfl

structure Later (i i' : OutstandingData.Item) : Prop where
  same : SameChunk i i'
  abandoned : i.isAbandoned = true → i'.isAbandoned = true

lemma Move.chunks (h : Move v v') (hn : Numbered v.queue)
    (hlen : v.items.length ≤ v.queue.given.length) : ∀ c' ∈ v'.chunks,
      (∃ i, (i, c'.2) ∈ v.chunks ∧ Later i c'.1) ∨
      (∃ sid, c'.2.message ∈ v.queue.numbers sid) ∧ Shows v.queue.messages c'.1 c'.2 := by
  have hkept : ∀ {R : OutstandingData.Item → OutstandingData.Item → Prop},
      (∀ i i', R i i' → Later i i') → v'.queue.given = v.queue.given →
      Forall₂ R v.items v'.items → ∀ c' ∈ v'.chunks,
        ∃ i, (i, c'.2) ∈ v.chunks ∧ Later i c'.1 := by
    intro R hR hg hitm c' hc'
    rw [View.chunks, (split_kept hg hitm.length_eq.symm).1] at hc'
    obtain ⟨i, hi, hr⟩ := mem_zip_of_forall₂ hitm hc'
    exact ⟨i, hi, hR i c'.1 hr⟩
  cases h with
  | change h _ items =>
    intro c' hc'
    refine .inl (hkept (R := Eq) ?_ h.record.1 (by rw [items]; exact forall₂_eq_eq_eq ▸ rfl) c' hc')
    rintro i _ rfl
    exact ⟨.refl i, id⟩
  | adjust items _ _ queue =>
    intro c' hc'
    refine .inl (hkept ?_ (by rw [queue]) items c' hc')
    intro i i' hi
    exact ⟨hi.1, fun hab => hi.2.trans hab⟩
  | pop i items _ _ queue =>
    intro c' hc'
    have hg : v'.queue.given = v.queue.given := by rw [queue]
    obtain ⟨g, hout, -⟩ := split_pop hlen hg (by rw [items]; rfl)
    refine .inl ⟨c'.1, ?_, .refl _, id⟩
    rw [View.chunks, items, hout]
    exact mem_cons_of_mem _ hc'
  | send sid maxSize item rest d i h messageId data lifecycleId _ items =>
    intro c' hc'
    have hout := (split_append hlen h.given (by rw [items, length_append]; rfl)).1
    rw [View.chunks, items, hout, zip_append (length_outstanding hlen).symm] at hc'
    rcases mem_append.mp hc' with hc' | hc'
    · exact .inl ⟨c'.1, hc', .refl _, id⟩
    obtain rfl := mem_singleton.mp hc'
    exact .inr ⟨⟨sid, hn.headD_mem h.sends.items⟩, h.shows hn messageId data lifecycleId⟩
  | abandon i _ _ items _ _ queue =>
    intro c' hc'
    refine .inl (hkept ?_ (by rw [queue]) items c' hc')
    intro x x' hx
    exact ⟨hx.same, fun hab => by rw [hx.abandoned, hab, Bool.true_or]⟩
  | discard i _ item rest h messageId items =>
    intro c' hc'
    have hout := (split_append hlen h.given (by rw [← items.length_eq, length_append]; rfl)).1
    rw [View.chunks, hout] at hc'
    obtain ⟨x, hx, hab⟩ := mem_zip_of_forall₂ items hc'
    rw [zip_append (length_outstanding hlen).symm] at hx
    rcases mem_append.mp hx with hx | hx
    · exact .inl ⟨x, hx, hab.same, fun h => by rw [hab.abandoned, h, Bool.true_or]⟩
    obtain ⟨rfl, hg⟩ := Prod.mk.inj (mem_singleton.mp hx)
    rw [hg]
    exact .inr ⟨⟨_, hn.headD_mem h.items⟩, (h.shows hn messageId).sameChunk hab.same⟩

lemma Assigned.move (h : Assigned start v) (hn : Numbered v.queue) (hm : Move v v') :
    Assigned start v' := by
  have hlen := h.length
  have hshw : ∀ c ∈ v'.chunks, Shows v'.queue.messages c.1 c.2 := by
    intro c hc
    rcases hm.chunks hn hlen c hc with ⟨i, hi, hlat⟩ | ⟨-, hs⟩
    · exact ((h.shows _ hi).sameChunk hlat.same).mono hm.record.1
    · exact hs.mono hm.record.1
  have hends : v'.queue.given.Pairwise fun g g' => g.isEnd = true → g'.message ≠ g.message := by
    rcases hm.given hn with hg | ⟨g, sid, hg, hmem⟩
    · rw [hg]
      exact h.ends
    rw [hg]
    refine pairwise_append.mpr ⟨h.ends, pairwise_singleton .., ?_⟩
    intro g0 hg0 g1 hg1 hend heq
    rw [mem_singleton.mp hg1] at heq
    have := hn.unended hmem g0 hg0 heq.symm
    simp [this] at hend
  -- only the lengths of the two parts are left
  have hkept : v'.queue.given = v.queue.given → v'.items.length = v.items.length →
      v'.cumulativeAck = v.cumulativeAck → Assigned start v' := by
    intro hg hl hcum
    refine ⟨by rw [hg, hl]; exact hlen, ?_, hshw, hends⟩
    rw [hcum, (split_kept hg hl).2]
    exact h.ack
  have happend : ∀ g, v'.queue.given = v.queue.given ++ [g] → v'.items.length = v.items.length + 1 →
      v'.cumulativeAck = v.cumulativeAck → Assigned start v' := by
    intro g hg hl hcum
    refine ⟨?_, ?_, hshw, hends⟩
    · rw [hg, hl, length_append, length_singleton]
      omega
    rw [hcum, (split_append hlen hg hl).2]
    exact h.ack
  cases hm with
  | change h cum items => exact hkept h.record.1 (by rw [items]) cum
  | adjust items cum _ queue | abandon i _ _ items cum _ queue =>
    exact hkept (by rw [queue]) items.length_eq.symm cum
  | pop i items cum _ queue =>
    have hg : v'.queue.given = v.queue.given := by rw [queue]
    have hl : v.items.length = v'.items.length + 1 := by
      rw [items]
      rfl
    obtain ⟨g, -, hacked⟩ := split_pop hlen hg hl
    refine ⟨by rw [hg]; omega, ?_, hshw, hends⟩
    rw [cum, hacked, h.ack, length_append, length_singleton]
    push_cast
    ring
  | send sid maxSize item rest d i h _ _ _ _ items cum =>
    exact happend _ h.given (by rw [items, length_append]; rfl) cum
  | discard i _ item rest h _ items cum =>
    exact happend _ h.given (by rw [← items.length_eq, length_append]; rfl) cum

/-- The message has left the send queue for good, and what is outstanding of it is `p`. -/
structure Over (p : OutstandingData.Item → Prop) (n : Nat) (v : View) : Prop where
  known : n < v.queue.messages.length
  gone : ∀ sid, n ∉ v.queue.numbers sid
  left : ∀ c ∈ v.chunks, c.2.message = n → p c.1

lemma Over.move {p : OutstandingData.Item → Prop} (hp : ∀ i i', Later i i' → p i → p i')
    (h : Over p n v) (hn : Numbered v.queue) (hlen : v.items.length ≤ v.queue.given.length)
    (hm : Move v v') : Over p n v' := by
  refine ⟨lt_of_lt_of_le h.known hm.record.1.length_le, ?_, ?_⟩
  · intro sid hmem
    rcases hm.record.2 sid n hmem with hold | hnew
    · exact h.gone sid hold
    · exact absurd h.known (by omega)
  intro c hc heq
  rcases hm.chunks hn hlen c hc with ⟨i, hi, hlat⟩ | ⟨⟨sid, hmem⟩, -⟩
  · exact hp i c.1 hlat (h.left _ hi heq)
  rw [heq] at hmem
  exact absurd hmem (h.gone sid)

/-- The message has been given up: none of it is enqueued, and what is outstanding is abandoned. -/
abbrev GivenUp : Nat → View → Prop := Over fun i => i.isAbandoned = true

abbrev Finished : Nat → View → Prop := Over fun _ => False

def Resigned (v : View) : Prop := ∀ c ∈ v.chunks, c.1.isAbandoned = true → GivenUp c.2.message v

lemma TracedQueue.Numbered.head_of_given (hn : Numbered t)
    (hmem : n ∈ t.numbers sid) (hg : g ∈ t.given) (heq : g.message = n) :
    ∃ item rest ns, (t.queue.stream sid).items = item :: rest ∧ t.numbers sid = n :: ns ∧
      Carries t sid item n := by
  obtain ⟨k, hk, hnk⟩ := getElem_of_mem hmem
  have hk' : k < (t.queue.stream sid).items.length := by rwa [← hn.length_numbers]
  have hcarry := (forall₂_iff_get.mp (hn.carried sid)).2 k hk' hk
  simp only [get_eq_getElem, hnk] at hcarry
  have hmid : (t.queue.stream sid).items[k].mid ≠ none := fun hm => hcarry.fresh hm g hg heq
  cases k with
  | zero =>
    refine ⟨_, (t.queue.stream sid).items.tail, (t.numbers sid).tail, ?_, ?_, hcarry⟩
    · rw [getElem_zero, cons_head_tail]
    · rw [← hnk, getElem_zero, cons_head_tail]
  | succ k =>
    -- nothing has been sent of the messages behind the first
    refine absurd ((hn.contents.items sid).rest _ ?_) hmid
    rw [mem_iff_getElem]
    exact ⟨k, by rw [length_tail]; omega, getElem_tail _⟩

lemma sameMessage_of_shows
    {y : OutstandingData.Item} {g' : Given} (hx : Shows msgs x g) (hy : Shows msgs y g')
    (heq : g'.message = g.message) : i.sameMessage y = i.sameMessage x := by
  obtain ⟨m, o, hm, hsid, -⟩ := hx.message
  obtain ⟨m', o', hm', hsid', -⟩ := hy.message
  rw [heq, hm] at hm'
  obtain ⟨rfl, -⟩ := Prod.mk.inj (Option.some.inj hm')
  simp only [sameMessage, hsid, hsid', hx.messageId, hy.messageId, heq]

lemma Shows.stream_eq (hn : Numbered t)
    (hx : Shows t.messages x g) (hmem : g.message ∈ t.numbers sid) :
    sid = x.data.streamId := by
  obtain ⟨m, o, hm, hsid, -⟩ := hx.message
  obtain ⟨m', o', hm', hsid'⟩ := hn.stream_of_mem hmem
  rw [hm] at hm'
  obtain ⟨rfl, -⟩ := Prod.mk.inj (Option.some.inj hm')
  exact hsid'.symm.trans hsid.symm

/-- Where the message of `i` is abandoned, the messages of its chunks are given up, if they are no
longer enqueued. With message ids that repeat, there may be several. -/
lemma givenUp_of_abandons {before : List (OutstandingData.Item × Given)}
    (hbef : ∀ c ∈ v'.chunks, ∃ x, (x, c.2) ∈ before ∧ Abandons i x c.1)
    (hshw : ∀ c ∈ before, Shows v'.queue.messages c.1 c.2)
    (hx : (x, g) ∈ before) (hsame : i.sameMessage x = true)
    (hgone : ∀ sid, g.message ∉ v'.queue.numbers sid) : GivenUp g.message v' := by
  refine ⟨?_, hgone, ?_⟩
  · obtain ⟨m, o, hm, -⟩ := (hshw _ hx).message
    exact (List.getElem?_eq_some_iff.mp hm).1
  intro c hc heq
  obtain ⟨y, hy, hay⟩ := hbef c hc
  rw [hay.abandoned, sameMessage_of_shows (hshw _ hx) (hshw _ hy) heq, hsame, Bool.or_true]

/-- A message of which an abandoned chunk is outstanding can only be enqueued at the front of the
stream, under the id of the abandoned message. -/
lemma TracedQueue.Numbered.head_of_sameMessage (hn : Numbered t) (hx : Shows t.messages x g) (hsame : i.sameMessage x = true)
    (hg : g ∈ t.given) (hmem : g.message ∈ t.numbers sid) :
    sid = i.data.streamId ∧ ∃ item rest ns, (t.queue.stream sid).items = item :: rest ∧
      t.numbers sid = g.message :: ns ∧ item.messageId = i.messageId := by
  simp only [sameMessage, Bool.and_eq_true, decide_eq_true_eq] at hsame
  obtain ⟨item, rest, ns, hitm, hns, hcarry⟩ := hn.head_of_given hmem hg rfl
  refine ⟨(hx.stream_eq hn hmem).trans hsame.1, item, rest, ns, hitm, hns, ?_⟩
  rw [hcarry.messageId, ← hx.messageId, hsame.2]

lemma Resigned.move (h : Resigned v) (ha : Assigned start v) (hn : Numbered v.queue)
    (hm : Move v v') : Resigned v' := by
  have hlen := ha.length
  -- a chunk that was abandoned before
  have hold : ∀ (i : OutstandingData.Item) (g : Given), (i, g) ∈ v.chunks → i.isAbandoned = true →
      GivenUp g.message v' := by
    intro i g hmem hab
    exact (h _ hmem hab).move (fun _ _ hl => hl.abandoned) hn hlen hm
  intro c hc hab
  have hm' := hm
  cases hm with
  | change hchange _ items =>
    refine hold c.1 c.2 ?_ hab
    rwa [chunks, items, (split_kept hchange.record.1 (by rw [items])).1] at hc
  | adjust items _ _ queue =>
    rw [chunks, (split_kept (by rw [queue]) items.length_eq.symm).1] at hc
    obtain ⟨i, hi, -, heq⟩ := mem_zip_of_forall₂ items hc
    exact hold i c.2 hi (heq.symm.trans hab)
  | pop i items _ _ queue =>
    refine hold c.1 c.2 ?_ hab
    have hg : v'.queue.given = v.queue.given := by rw [queue]
    obtain ⟨g, hout, -⟩ := split_pop hlen hg (by rw [items]; rfl)
    rw [chunks, items, hout]
    exact mem_cons_of_mem _ hc
  | send sid maxSize item rest d i hs _ _ _ active items =>
    have hout := (split_append hlen hs.given (by rw [items, length_append]; rfl)).1
    rw [chunks, items, hout, zip_append (length_outstanding hlen).symm] at hc
    rcases mem_append.mp hc with hc | hc
    · exact hold c.1 c.2 hc hab
    rw [mem_singleton.mp hc, active] at hab
    exact absurd hab Bool.false_ne_true
  | abandon i _ miss items _ _ queue =>
    have hg : v'.queue.given = v.queue.given := by rw [queue]
    have hbef : ∀ c ∈ v'.chunks, ∃ x, (x, c.2) ∈ v.chunks ∧
        Abandons i x c.1 := by
      intro c hc
      rw [chunks, (split_kept hg items.length_eq.symm).1] at hc
      exact mem_zip_of_forall₂ items hc
    obtain ⟨x, hx, hax⟩ := hbef c hc
    cases hxab : x.isAbandoned with
    | true => exact hold x c.2 hx hxab
    | false =>
      have hsame : i.sameMessage x = true := by
        rw [← hab, hax.abandoned, hxab, Bool.false_or]
      refine givenUp_of_abandons hbef (by rw [queue]; exact ha.shows) hx hsame ?_
      intro sid hmem
      rw [queue] at hmem
      obtain ⟨rfl, item, rest, ns, hitm, -, hid⟩ := hn.head_of_sameMessage (ha.shows _ hx) hsame
        (mem_given_of_chunk (c := (x, c.2)) hx) hmem
      exact miss item rest hitm hid
  | discard i _ item rest hd messageId items =>
    have hout := (split_append hlen hd.given (by rw [← items.length_eq, length_append]; rfl)).1
    have hbef : ∀ c ∈ v'.chunks, ∃ x, (x, c.2) ∈ v.chunks ++ [(i.unsentEnd.ack,
        ⟨(v.queue.numbers i.data.streamId).headD 0, [], false, true⟩)] ∧
        Abandons i x c.1 := by
      intro c hc
      rw [chunks, hout] at hc
      obtain ⟨x, hx, hax⟩ := mem_zip_of_forall₂ items hc
      rw [zip_append (length_outstanding hlen).symm] at hx
      exact ⟨x, hx, hax⟩
    have hshw : ∀ c ∈ v.chunks ++ [(i.unsentEnd.ack,
        ⟨(v.queue.numbers i.data.streamId).headD 0, [], false, true⟩)],
        Shows v.queue.messages c.1 c.2 := by
      exact forall_mem_append.mpr ⟨ha.shows, forall_mem_singleton.mpr (hd.shows hn messageId)⟩
    have hnums := hn.numbers_follow hd.edited (k := 1) (by rw [hd.items]; rfl) hd.numbers
    obtain ⟨n, ns, hns, -, -, hlt⟩ := hn.head hd.items
    obtain ⟨x, hx, hax⟩ := hbef c hc
    rw [← hd.messages] at hshw
    rcases mem_append.mp hx with hmem | hmem
    · cases hxab : x.isAbandoned with
      | true => exact hold x c.2 hmem hxab
      | false =>
        have hsame : i.sameMessage x = true := by
          rw [← hab, hax.abandoned, hxab, Bool.false_or]
        refine givenUp_of_abandons hbef hshw hx hsame ?_
        intro sid hin
        have hin' := (hm'.record.2 sid _ hin).resolve_right
          (Nat.ne_of_lt (hn.known (mem_given_of_chunk (c := (x, c.2)) hmem)))
        obtain ⟨rfl, -, -, ns', -, hns', -⟩ := hn.head_of_sameMessage (ha.shows _ hmem) hsame
          (mem_given_of_chunk (c := (x, c.2)) hmem) hin'
        rw [hns] at hns'
        obtain ⟨rfl, rfl⟩ := cons.inj hns'
        rw [hnums.1, hns] at hin
        exact absurd (hlt _ hin) (lt_irrefl _)
    · obtain ⟨rfl, hg⟩ := Prod.mk.inj (mem_singleton.mp hmem)
      have hsame : i.sameMessage i.unsentEnd.ack = true := by
        simp [sameMessage, OutstandingData.Item.ack, unsentEnd]
      refine givenUp_of_abandons hbef hshw hx hsame ?_
      intro sid hin
      rw [hg, hns] at hin
      by_cases hs : sid = i.data.streamId
      · rw [hs, hnums.1, hns] at hin
        exact absurd (hlt _ hin) (lt_irrefl _)
      rw [hnums.2 sid hs] at hin
      exact hn.ne_of_stream_ne hs (by rw [hns]; exact mem_cons_self) hin rfl

structure Traced (start : Int) (v : View) : Prop where
  numbered : Numbered v.queue
  assigned : Assigned start v
  resigned : Resigned v

lemma Traced.move (h : Traced start v) (hm : Move v v') : Traced start v' :=
  ⟨hm.numbered h.numbered, h.assigned.move h.numbered hm, h.resigned.move h.assigned h.numbered hm⟩

lemma Moves.induction {P : View → Prop} (hstep : ∀ v v', Traced start v → Move v v' → P v → P v')
    (hm : Moves v v') (ht : Traced start v) (hv : P v) : Traced start v' ∧ P v' := by
  induction hm with
  | refl => exact ⟨ht, hv⟩
  | tail _ hmove ih => exact ⟨ih.1.move hmove, hstep _ _ ih.1 hmove ih.2⟩

end Moves

namespace SendSide

def startTsn (s : SendSide) : Int := s.rtx.outstandingData.lastCumulativeTsnAck

lemma traced_new (myTsn : TSN) (aRwnd : BitVec 32) (options : DcSctpOptions)
    (partialRel inter : Bool) :
    Traced (new myTsn aRwnd options partialRel inter).startTsn
      (new myTsn aRwnd options partialRel inter).view :=
  ⟨(ready_new myTsn aRwnd options partialRel inter).live.numbered, ⟨le_refl _,
    (add_zero _).symm, fun _ hc => (nomatch hc), .nil⟩, fun _ hc => (nomatch hc)⟩

lemma run_invariant {start : Int} {P : View → Prop}
    (hstep : ∀ v v', Traced start v → Move v v' → P v → P v') {s : SendSide} (hready : s.Ready)
    (htraced : Traced start s.view) (hs : P s.view) {events : List SendEvent}
    (hok : ∀ e ∈ events, e.Ok) :
    (run step s events).Ready ∧ Traced start (run step s events).view ∧
      P (run step s events).view := by
  refine run_induction_mem (P := fun s : SendSide => s.Ready ∧ Traced start s.view ∧ P s.view) ?_
    ⟨hready, htraced, hs⟩
  intro s e he hs
  obtain ⟨hmv, hrdy'⟩ := step_moves hs.1 (hok e he)
  exact ⟨hrdy', Moves.induction hstep hmv hs.2.1 hs.2.2⟩

/-- **TSNs are given in the order of sending**, without a gap and once only: the next TSN counts the
chunks that have left the send queue, and what is outstanding under a TSN, however often it was lost
and sent again, is the chunk that left the send queue in that place. -/
theorem tsns_in_send_order (myInitialTsn : TSN) (aRwnd : BitVec 32) (options : DcSctpOptions)
    (partialReliability interleaving : Bool) {events : List SendEvent} (hok : ∀ e ∈ events, e.Ok) :
    let s₀ := new myInitialTsn aRwnd options partialReliability interleaving
    let s := run step s₀ events
    s.rtx.outstandingData.nextTsn = s₀.startTsn + s.queue.given.length + 1 ∧
      ∀ tsn i, s.rtx.outstandingData.getItem tsn = some i →
        ∃ g, s.queue.given[(tsn - s₀.startTsn - 1).toNat]? = some g ∧ Shows s.queue.messages i g := by
  intro s₀ s
  obtain ⟨-, ⟨-, hasg, -⟩, -⟩ := run_invariant (P := fun _ => True) (fun _ _ _ _ _ => trivial)
    (ready_new myInitialTsn aRwnd options partialReliability interleaving) (traced_new ..) trivial hok
  have hlen := length_outstanding hasg.length
  have hack : s.rtx.outstandingData.lastCumulativeTsnAck = s₀.startTsn + s.view.acked.length := hasg.ack
  have hgiven : s.queue.given = s.view.acked ++ s.view.outstanding := given_split s.view
  have hitems : s.view.outstanding.length = s.rtx.outstandingData.outstandingData.length := hlen
  constructor
  · rw [OutstandingData.nextTsn, OutstandingData.highestOutstandingTsn, hack, hgiven, length_append,
      hitems]
    push_cast
    ring
  intro tsn i hi
  obtain ⟨hlt, hi⟩ := OutstandingData.getItem_eq_some.mp hi
  obtain ⟨hidx, rfl⟩ := List.getElem?_eq_some_iff.mp hi
  have hplace : (tsn - s₀.startTsn - 1).toNat =
      s.view.acked.length + s.rtx.outstandingData.indexOf tsn := by
    rw [OutstandingData.indexOf]
    omega
  have hout : s.rtx.outstandingData.indexOf tsn < s.view.outstanding.length := hitems ▸ hidx
  have hmem : (s.rtx.outstandingData.outstandingData[s.rtx.outstandingData.indexOf tsn],
      s.view.outstanding[s.rtx.outstandingData.indexOf tsn]) ∈ s.view.chunks :=
    mem_iff_getElem.mpr ⟨_, by rw [chunks, length_zip]; exact lt_min hidx hout, getElem_zip⟩
  refine ⟨_, ?_, hasg.shows _ hmem⟩
  rw [hgiven, hplace, getElem?_append_right (Nat.le_add_right ..), Nat.add_sub_cancel_left,
    getElem?_eq_getElem hout]

theorem tsns_in_send_order_two_chunks :
    (run step (new 1 100000 {} true false) [.add 0 ⟨1, 51, [1]⟩ {}, .add 0 ⟨2, 51, [2]⟩ {},
      .getChunksToSend 0 1191, .handleT3RtxTimerExpiry]).rtx.outstandingData.nextTsn = 3 := by
  rw [(tsns_in_send_order 1 100000 {} true false (by simp [SendEvent.Ok])).1]
  decide +kernel

end SendSide

end WebRtc.Dcsctp
