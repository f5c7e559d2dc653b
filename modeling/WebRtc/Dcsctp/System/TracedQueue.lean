import WebRtc.Dcsctp.Tx.QueueRuns

/-!
# dcSCTP — a send queue that remembers what it was given

A send queue next to a record of the messages it was given and of the chunks that it has handed
out, in the order of their TSNs. The record never influences the queue; `Numbered` says that it is
right, and every operation keeps it so.
-/

namespace WebRtc.Dcsctp

open Lib RRSendQueue OutgoingStream List Function SendQueue

lemma forall₂_imp_mem {α β : Type*} {R S : α → β → Prop} {l : List α} {l' : List β}
    (h : Forall₂ R l l') (himp : ∀ a ∈ l, ∀ b ∈ l', R a b → S a b) : Forall₂ S l l' := by
  rw [forall₂_iff_zip] at h ⊢
  exact ⟨h.1, fun hab => himp _ (of_mem_zip hab).1 _ (of_mem_zip hab).2 (h.2 hab)⟩

/-- A chunk that was given a TSN: the message it is part of, counted in the order of `Add`, and
what is visible of it. -/
structure Given where
  message : Nat
  payload : List UInt8
  isBeginning : Bool
  isEnd : Bool
deriving DecidableEq

/-- A send queue, the messages it was given, which of them are enqueued on each stream, and the
chunks that were given TSNs. -/
structure TracedQueue where
  queue : RRSendQueue
  messages : List (DcSctpMessage × SendOptions) := []
  numbers : StreamID → List Nat := fun _ => []
  given : List Given := []

namespace TracedQueue

/-- The queue is now `q`; what it no longer holds has left at the front of its stream. -/
def follow (t : TracedQueue) (q : RRSendQueue) : TracedQueue :=
  { t with
    queue := q
    numbers := fun sid =>
      (t.numbers sid).drop ((t.numbers sid).length - (q.stream sid).items.length) }

/-- The queue is now `q`; what it no longer holds has left at the back of its stream. -/
def cut (t : TracedQueue) (q : RRSendQueue) : TracedQueue :=
  { t with queue := q, numbers := fun sid => (t.numbers sid).take (q.stream sid).items.length }

def give (t : TracedQueue) (g : Given) : TracedQueue := { t with given := t.given ++ [g] }

/-- The message that a chunk was taken from, once the queue is `q`: the last one to leave its
stream if the chunk ends it, the first one left if not. -/
def numberOf (t : TracedQueue) (q : RRSendQueue) (d : Data) : Nat :=
  let gone := (t.numbers d.streamId).length - (q.stream d.streamId).items.length
  (t.numbers d.streamId).getD (if d.isEnd then gone - 1 else gone) 0

def add (t : TracedQueue) (now : Timestamp) (message : DcSctpMessage) (sendOptions : SendOptions) :
    TracedQueue :=
  { t with
    queue := t.queue.add now message sendOptions
    messages := t.messages ++ [(message, sendOptions)]
    numbers := update t.numbers message.streamId
      (t.numbers message.streamId ++ [t.messages.length]) }

def produce (t : TracedQueue) (now : Timestamp) (maxSize : Nat) : Option DataToSend × TracedQueue :=
  match t.queue.produce now maxSize with
  | (none, q) => (none, t.follow q)
  | (some d, q) =>
    (some d, (t.follow q).give
      ⟨t.numberOf q d.data, d.data.payload, d.data.isBeginning, d.data.isEnd⟩)

def discard (t : TracedQueue) (sid : StreamID) (messageId : OutgoingMessageId) : Bool × TracedQueue :=
  match t.queue.discard sid messageId with
  | (false, q) => (false, t.follow q)
  | (true, q) => (true, (t.follow q).give ⟨(t.numbers sid).headD 0, [], false, true⟩)

instance : SendQueue TracedQueue where
  produce := produce
  discard := discard
  prepareResetStream t sid := t.cut (t.queue.prepareResetStream sid)
  hasStreamsReadyToBeReset t := t.queue.hasStreamsReadyToBeReset
  getStreamsReadyToBeReset t :=
    (t.queue.getStreamsReadyToBeReset.1, { t with queue := t.queue.getStreamsReadyToBeReset.2 })
  commitResetStreams t := { t with queue := t.queue.commitResetStreams }
  rollbackResetStreams t := { t with queue := t.queue.rollbackResetStreams }

def sent (t : TracedQueue) (n : Nat) : List UInt8 :=
  (t.given.filter fun g => g.message = n).flatMap Given.payload

variable {t t' : TracedQueue} {sid : StreamID}

lemma sent_give_self (t : TracedQueue) (g : Given) :
    (t.give g).sent g.message = t.sent g.message ++ g.payload := by
  simp [sent, give]

variable {item : Item} {rest : List Item} {g : Given}

variable {n maxSize : Nat} {q : RRSendQueue}

lemma sent_give_ne (t : TracedQueue) (h : g.message ≠ n) :
    (t.give g).sent n = t.sent n := by
  simp [sent, give, h]

/-! ## The record is right -/

/-- `item`, on stream `sid`, is what is left of the `n`-th message. -/
structure Carries (t : TracedQueue) (sid : StreamID) (item : Item) (n : Nat) : Prop where
  message : ∃ o, t.messages[n]? = some (item.message, o) ∧
    o.lifecycleId = item.attributes.lifecycleId
  streamId : item.message.streamId = sid
  messageId : item.messageId = BitVec.ofNat 32 n
  fresh : item.mid = none → ∀ g ∈ t.given, g.message ≠ n
  unended : ∀ g ∈ t.given, g.message = n → g.isEnd = false
  sent : t.sent n = item.message.payload.take item.remainingOffset

/-- **The record is right**: every message in the queue has its number, and every chunk is part
of the message it is recorded for. -/
structure Numbered (t : TracedQueue) : Prop where
  contents : ContentsOk t.queue
  nextId : t.queue.currentMessageId = BitVec.ofNat 32 t.messages.length
  carried : ∀ sid, Forall₂ (Carries t sid) (t.queue.stream sid).items (t.numbers sid)
  sorted : ∀ sid, (t.numbers sid).Pairwise (· < ·)
  parts : ∀ g ∈ t.given, ∃ message o, t.messages[g.message]? = some (message, o) ∧
    t.sent g.message <+: message.payload ∧
    (g.isEnd = true → g.payload ≠ [] → t.sent g.message = message.payload)

lemma Numbered.length_numbers (h : Numbered t) (sid : StreamID) :
    (t.numbers sid).length = (t.queue.stream sid).items.length := (h.carried sid).length_eq.symm

lemma Numbered.known (h : Numbered t) (hg : g ∈ t.given) : g.message < t.messages.length := by
  obtain ⟨m, o, hm, -⟩ := h.parts g hg
  exact (List.getElem?_eq_some_iff.mp hm).1

lemma Numbered.head (h : Numbered t)
    (hitm : (t.queue.stream sid).items = item :: rest) : ∃ n ns, t.numbers sid = n :: ns ∧
      Carries t sid item n ∧ Forall₂ (Carries t sid) rest ns ∧ ∀ m ∈ ns, n < m := by
  have hcarried := h.carried sid
  have hsort := h.sorted sid
  rw [hitm] at hcarried
  obtain ⟨n, ns, hn, hns, heq⟩ := forall₂_cons_left_iff.mp hcarried
  rw [heq] at hsort
  exact ⟨n, ns, heq, hn, hns, (pairwise_cons.mp hsort).1⟩

lemma Numbered.stream_of_mem (h : Numbered t) (hn : n ∈ t.numbers sid) :
    ∃ message o, t.messages[n]? = some (message, o) ∧ message.streamId = sid := by
  obtain ⟨k, hk, rfl⟩ := getElem_of_mem hn
  have hk' : k < (t.queue.stream sid).items.length := by rwa [← h.length_numbers]
  have hc := (forall₂_iff_get.mp (h.carried sid)).2 k hk' hk
  obtain ⟨o, ho, -⟩ := hc.message
  exact ⟨_, o, ho, hc.streamId⟩

lemma Numbered.ne_of_stream_ne (h : Numbered t) {sid' : StreamID} (hs : sid' ≠ sid) {n' : Nat}
    (hn : n ∈ t.numbers sid) (hn' : n' ∈ t.numbers sid') : n ≠ n' := by
  rintro rfl
  obtain ⟨m, o, hm, hsid⟩ := h.stream_of_mem hn
  obtain ⟨m', o', hm', hsid'⟩ := h.stream_of_mem hn'
  rw [hm] at hm'
  obtain ⟨rfl, -⟩ := Prod.mk.inj (Option.some.inj hm')
  exact hs (hsid'.symm.trans hsid)

lemma Carries.give (h : Carries t sid item n)
    (hne : g.message ≠ n) : Carries (t.give g) sid item n := by
  refine ⟨h.message, h.streamId, h.messageId, fun hm => ?_, fun x hx hxn => ?_, ?_⟩
  · exact forall_mem_append.mpr ⟨h.fresh hm, forall_mem_singleton.mpr hne⟩
  · rcases mem_append.mp hx with hx | hx
    · exact h.unended x hx hxn
    rw [mem_singleton.mp hx] at hxn
    exact absurd hxn hne
  · rw [sent_give_ne t hne]
    exact h.sent

lemma Carries.congr (h : Carries t sid item n)
    (hmsgs : t'.messages = t.messages) (hgiv : t'.given = t.given) :
    Carries t' sid item n := by
  refine ⟨?_, h.streamId, h.messageId, ?_, ?_, ?_⟩
  · rw [hmsgs]
    exact h.message
  · rw [hgiv]
    exact h.fresh
  · rw [hgiv]
    exact h.unended
  rw [TracedQueue.sent, hgiv]
  exact h.sent

lemma Numbered.parts_congr (h : Numbered t) (hmsgs : t'.messages = t.messages)
    (hgiv : t'.given = t.given) : ∀ g ∈ t'.given, ∃ message o,
      t'.messages[g.message]? = some (message, o) ∧ t'.sent g.message <+: message.payload ∧
        (g.isEnd = true → g.payload ≠ [] → t'.sent g.message = message.payload) := by
  simp only [sent, hgiv, hmsgs]
  exact h.parts

/-! ## Changes -/

/-- **One change of the queue** in which no chunk is given a TSN. -/
inductive Change (t t' : TracedQueue) : Prop
  | still (edit : Edit t.queue t'.queue) (still : Still t.queue t'.queue)
      (numbers : t'.numbers = t.numbers) (messages : t'.messages = t.messages)
      (given : t'.given = t.given)
  /-- The first message of a stream expires. -/
  | drop (sid : StreamID) (item : Item) (rest : List Item)
      (items : (t.queue.stream sid).items = item :: rest) (unsent : item.mid = none)
      (edited : Edited sid ((t.queue.stream sid).withItems rest) (· - item.remainingSize)
        item.expiryReports t.queue t'.queue)
      (messageId : t'.queue.currentMessageId = t.queue.currentMessageId)
      (turn : SameTurn t.queue t'.queue)
      (numbers : t'.numbers = (t.follow t'.queue).numbers) (messages : t'.messages = t.messages)
      (given : t'.given = t.given) (limited : item.attributes.expiresAt ≠ none)
  /-- A message is enqueued. -/
  | enqueue (message : DcSctpMessage) (sendOptions : SendOptions) (attributes : MessageAttributes)
      (nonempty : message.payload ≠ []) (lifecycle : attributes.lifecycleId = sendOptions.lifecycleId)
      (edited : Edited message.streamId ((t.queue.stream message.streamId).withItems
        ((t.queue.stream message.streamId).items ++
          [Item.new t.queue.currentMessageId message attributes]))
        (· + message.payload.length) [] t.queue t'.queue)
      (messageId : t'.queue.currentMessageId = t.queue.currentMessageId + 1)
      (turn : SameTurn t.queue t'.queue)
      (numbers : t'.numbers = update t.numbers message.streamId
        (t.numbers message.streamId ++ [t.messages.length]))
      (messages : t'.messages = t.messages ++ [(message, sendOptions)])
      (given : t'.given = t.given)
  /-- The messages of which nothing was sent expire, when a stream is paused. -/
  | pause (sid : StreamID) (kept dropped : List Item)
      (running : (t.queue.stream sid).pauseState = .notPaused)
      (items : (t.queue.stream sid).items = kept ++ dropped) (begun : ∀ i ∈ kept, i.mid ≠ none)
      (unsent : ∀ i ∈ dropped, i.mid = none)
      (edited : Edited sid (((t.queue.stream sid).withItems kept).withPause
        (if kept = [] then .paused else .pending)) (· - owed dropped)
        (dropped.flatMap Item.expiryReports) t.queue t'.queue)
      (messageId : t'.queue.currentMessageId = t.queue.currentMessageId)
      (turn : SameTurn t.queue t'.queue)
      (numbers : t'.numbers = (t.cut t'.queue).numbers) (messages : t'.messages = t.messages)
      (given : t'.given = t.given)

structure Discards (sid : StreamID) (item : Item) (rest : List Item) (t t' : TracedQueue) : Prop where
  items : (t.queue.stream sid).items = item :: rest
  edited : Edited sid (((t.queue.stream sid).withItems rest).withPause
    (if (t.queue.stream sid).pauseState = .pending then .paused
      else (t.queue.stream sid).pauseState))
    (· - item.remainingSize) item.expiryReports t.queue t'.queue
  messageId : t'.queue.currentMessageId = t.queue.currentMessageId
  sending : t'.queue.scheduler.currentlySendingAMessage = false
  current : t'.queue.scheduler.currentStream = t.queue.scheduler.currentStream
  numbers : t'.numbers = (t.follow t'.queue).numbers
  messages : t'.messages = t.messages
  given : t'.given = t.given ++ [⟨(t.numbers sid).headD 0, [], false, true⟩]

structure SendsChunk (sid : StreamID) (maxSize : Nat) (item : Item) (rest : List Item) (d : DataToSend)
    (t t' : TracedQueue) : Prop where
  sends : Sends sid maxSize item rest d t.queue t'.queue
  size : 1 ≤ maxSize
  numbers : t'.numbers = (t.follow t'.queue).numbers
  messages : t'.messages = t.messages
  given : t'.given = t.given ++
    [⟨(t.numbers sid).headD 0, d.data.payload, d.data.isBeginning, d.data.isEnd⟩]

lemma Discards.edit (h : Discards sid item rest t t') : Edit t.queue t'.queue :=
  .discard sid item rest h.items h.edited h.messageId h.sending h.current

variable {reports : List SendCallback} {inner : OutgoingStream} {adjust : Nat → Nat} {k : Nat}

lemma Numbered.numbers_follow (h : Numbered t)
    (he : Edited sid inner adjust reports t.queue t'.queue)
    (hlen : inner.items.length + k = (t.queue.stream sid).items.length)
    (hnums : t'.numbers = (t.follow t'.queue).numbers) :
    t'.numbers sid = (t.numbers sid).drop k ∧ ∀ sid', sid' ≠ sid → t'.numbers sid' = t.numbers sid' := by
  refine ⟨?_, fun sid' hs => ?_⟩
  · have hlength := h.length_numbers sid
    rw [hnums]
    simp only [follow, (core_eq he.core).1]
    congr 1
    omega
  · rw [hnums]
    simp only [follow, (core_eq (he.others sid' hs).1).1, h.length_numbers, Nat.sub_self, drop_zero]

lemma Numbered.of_sublist (h : Numbered t) (hcontents : ContentsOk t'.queue)
    (hid : t'.queue.currentMessageId = t.queue.currentMessageId) (hmsgs : t'.messages = t.messages)
    (hsub : ∀ sid, (t'.numbers sid).Sublist (t.numbers sid))
    (hcarried : ∀ sid, Forall₂ (Carries t' sid) (t'.queue.stream sid).items (t'.numbers sid))
    (hpts : ∀ g ∈ t'.given, ∃ message o, t'.messages[g.message]? = some (message, o) ∧
      t'.sent g.message <+: message.payload ∧
        (g.isEnd = true → g.payload ≠ [] → t'.sent g.message = message.payload)) : Numbered t' :=
  ⟨hcontents, by rw [hid, hmsgs]; exact h.nextId, hcarried,
    fun sid => (h.sorted sid).sublist (hsub sid), hpts⟩

lemma Numbered.carried_of_edited (h : Numbered t)
    (he : Edited sid inner adjust reports t.queue t'.queue)
    (hnums : ∀ sid', sid' ≠ sid → t'.numbers sid' = t.numbers sid')
    (hself : Forall₂ (Carries t' sid) inner.items (t'.numbers sid))
    (hoth2 : ∀ sid', sid' ≠ sid → ∀ item, ∀ n ∈ t.numbers sid', Carries t sid' item n →
      Carries t' sid' item n) (sid' : StreamID) :
    Forall₂ (Carries t' sid') (t'.queue.stream sid').items (t'.numbers sid') := by
  by_cases hs : sid' = sid
  · rw [hs, (core_eq he.core).1]
    exact hself
  rw [hnums sid' hs, (core_eq (he.others sid' hs).1).1]
  exact forall₂_imp_mem (h.carried sid') fun item _ n hn => hoth2 sid' hs item n hn

lemma sublist_of_drop (hself : t'.numbers sid = (t.numbers sid).drop k)
    (hoth2 : ∀ sid', sid' ≠ sid → t'.numbers sid' = t.numbers sid') (sid' : StreamID) :
    (t'.numbers sid').Sublist (t.numbers sid') := by
  by_cases hs : sid' = sid
  · rw [hs, hself]
    exact drop_sublist k _
  · rw [hoth2 sid' hs]

lemma Numbered.change (h : Numbered t) (hc : Change t t') : Numbered t' := by
  cases hc with
  | still edit still numbers messages given =>
    refine h.of_sublist (h.contents.edit edit) still.messageId messages (fun sid => by rw [numbers])
      (fun sid => ?_) (h.parts_congr messages given)
    rw [still.items, numbers]
    exact (h.carried sid).imp fun _ _ hc => hc.congr messages given
  | drop sid item rest items unsent edited messageId turn numbers messages given limited =>
    obtain ⟨n, ns, hns, -, hrest, -⟩ := h.head items
    obtain ⟨hself, hoth2⟩ := h.numbers_follow (k := 1) edited (by rw [items]; rfl) numbers
    refine h.of_sublist (h.contents.expiry (.drop sid item rest items unsent edited messageId turn limited))
      messageId messages (sublist_of_drop hself hoth2)
      (h.carried_of_edited edited hoth2 ?_ fun _ _ _ _ _ hc => hc.congr messages given)
      (h.parts_congr messages given)
    rw [hself, hns]
    exact hrest.imp fun _ _ hc => hc.congr messages given
  | enqueue message sendOptions attributes nonempty lifecycle edited messageId turn numbers messages given =>
    have hkeep : ∀ sid item n, Carries t sid item n → Carries t' sid item n := by
      intro sid item n hc
      obtain ⟨o, ho, hlife⟩ := hc.message
      refine ⟨⟨o, ?_, hlife⟩, hc.streamId, hc.messageId, ?_, ?_, ?_⟩
      · rw [messages, getElem?_append_left (List.getElem?_eq_some_iff.mp ho).1]
        exact ho
      · rw [given]
        exact hc.fresh
      · rw [given]
        exact hc.unended
      rw [sent, given]
      exact hc.sent
    have hnew : ∀ g ∈ t.given, g.message ≠ t.messages.length := fun g hg => (h.known hg).ne
    refine ⟨h.contents.edit (.enqueue message.streamId message attributes nonempty edited messageId turn),
      ?_, h.carried_of_edited edited (fun sid' hs => by rw [numbers, update_of_ne hs]) ?_
        (fun sid' _ item n _ => hkeep sid' item n), fun sid => ?_, fun g hg => ?_⟩
    · rw [messageId, messages, h.nextId, length_append]
      simp [BitVec.ofNat_add]
    · rw [numbers, update_self]
      refine rel_append ((h.carried _).imp (hkeep _)) (.cons ⟨⟨sendOptions, ?_, ?_⟩, rfl, ?_, ?_, ?_, ?_⟩ .nil)
      · rw [messages, getElem?_concat_length]
        rfl
      · exact lifecycle.symm
      · exact h.nextId
      · rw [given]
        exact fun _ => hnew
      · rw [given]
        exact fun g hg hc => absurd hc (hnew g hg)
      rw [sent, given, filter_eq_nil_iff.mpr fun g hg => by simpa using hnew g hg]
      rfl
    · by_cases hs : sid = message.streamId
      · rw [hs, numbers, update_self]
        refine pairwise_append.mpr ⟨h.sorted _, pairwise_singleton _ _, fun n hn m hm => ?_⟩
        obtain ⟨_, _, hget, -⟩ := h.stream_of_mem hn
        rw [mem_singleton.mp hm]
        exact (List.getElem?_eq_some_iff.mp hget).1
      · rw [numbers, update_of_ne hs]
        exact h.sorted sid
    · rw [given] at hg
      obtain ⟨m, o, hget, hpts⟩ := h.parts g hg
      refine ⟨m, o, ?_, ?_⟩
      · rw [messages, getElem?_append_left (List.getElem?_eq_some_iff.mp hget).1]
        exact hget
      simp only [TracedQueue.sent, given]
      exact hpts
  | pause sid kept dropped running items begun unsent edited messageId turn numbers messages given =>
    have hself : t'.numbers sid = (t.numbers sid).take kept.length := by
      rw [numbers]
      simp only [cut, (core_eq edited.core).1]
      rfl
    have hoth2 : ∀ sid', sid' ≠ sid → t'.numbers sid' = t.numbers sid' := fun sid' hs => by
      rw [numbers]
      simp only [cut, (core_eq (edited.others sid' hs).1).1, ← h.length_numbers, take_length]
    refine h.of_sublist (h.contents.edit (.pause sid kept dropped running items begun unsent edited
      messageId turn)) messageId messages (fun sid' => ?_)
      (h.carried_of_edited edited hoth2 ?_ fun _ _ _ _ _ hc => hc.congr messages given)
      (h.parts_congr messages given)
    · by_cases hs : sid' = sid
      · rw [hs, hself]
        exact take_sublist _ _
      · rw [hoth2 sid' hs]
    have htake := forall₂_take kept.length (h.carried sid)
    rw [items, take_left] at htake
    rw [hself]
    exact htake.imp fun _ _ hc => hc.congr messages given

/-- What is enqueued on other streams, or behind the first message, does not depend on a chunk of
that message. -/
lemma Numbered.carries_give (h : Numbered t) (hn : n ∈ t.numbers sid)
    (hg : g.message = n) (hgiv : t'.given = t.given ++ [g]) (hmsgs : t'.messages = t.messages)
    {sid' : StreamID} {m : Nat} (hne : sid' ≠ sid ∨ m ≠ n) (hm : m ∈ t.numbers sid')
    (hc : Carries t sid' item m) : Carries t' sid' item m := by
  have hgm : g.message ≠ m := by
    rw [hg]
    rcases hne with hs | hne
    · exact h.ne_of_stream_ne hs hn hm
    · exact hne.symm
  exact (hc.give hgm).congr hmsgs hgiv

lemma Numbered.parts_give (h : Numbered t) {message : DcSctpMessage} {o : SendOptions}
    (hgiv : t'.given = t.given ++ [g]) (hmsgs : t'.messages = t.messages)
    (hget : t.messages[g.message]? = some (message, o))
    (hsent : t.sent g.message ++ g.payload <+: message.payload)
    (hend : g.isEnd = true → g.payload ≠ [] → t.sent g.message ++ g.payload = message.payload)
    (hopen : ∀ x ∈ t.given, x.message = g.message → x.isEnd = false) : ∀ x ∈ t'.given, ∃ message o,
      t'.messages[x.message]? = some (message, o) ∧ t'.sent x.message <+: message.payload ∧
        (x.isEnd = true → x.payload ≠ [] → t'.sent x.message = message.payload) := by
  have hself : t'.sent g.message = t.sent g.message ++ g.payload := by
    rw [← sent_give_self, sent, sent, hgiv]
    rfl
  have hne : ∀ n, g.message ≠ n → t'.sent n = t.sent n := fun n hn => by
    rw [← sent_give_ne t hn, sent, sent, hgiv]
    rfl
  intro x hx
  rw [hgiv] at hx
  rw [hmsgs]
  by_cases hxg : x.message = g.message
  · refine ⟨message, o, by rw [hxg]; exact hget, by rw [hxg, hself]; exact hsent, fun he hp => ?_⟩
    rcases mem_append.mp hx with hx | hx
    · rw [hopen x hx hxg] at he
      simp at he
    obtain rfl := mem_singleton.mp hx
    rw [hself]
    exact hend he hp
  · rcases mem_append.mp hx with hx | hx
    · obtain ⟨m, o', hm, hpts⟩ := h.parts x hx
      refine ⟨m, o', hm, ?_⟩
      rw [hne _ (Ne.symm hxg)]
      exact hpts
    · exact absurd (congrArg Given.message (mem_singleton.mp hx)) hxg

lemma Numbered.discards (h : Numbered t) (hd : Discards sid item rest t t') : Numbered t' := by
  obtain ⟨n, ns, hns, hn, hrest, hlt⟩ := h.head hd.items
  obtain ⟨hself, hoth2⟩ := h.numbers_follow (k := 1) hd.edited (by rw [hd.items]; rfl) hd.numbers
  have hmem : n ∈ t.numbers sid := by rw [hns]; exact mem_cons_self
  have hgiv := hd.given
  rw [hns] at hgiv
  obtain ⟨o, hget, -⟩ := hn.message
  refine h.of_sublist (h.contents.edit hd.edit) hd.messageId hd.messages (sublist_of_drop hself hoth2)
    (h.carried_of_edited hd.edited hoth2 ?_ fun sid' hs item m hm hc => ?_)
    (h.parts_give hgiv hd.messages hget ?_ (fun _ hc => absurd rfl hc) hn.unended)
  · rw [hself, hns]
    exact forall₂_imp_mem hrest fun i _ m hm hc => h.carries_give hmem rfl hgiv hd.messages
      (.inr (hlt m hm).ne') (by rw [hns]; exact mem_cons_of_mem _ hm) hc
  · exact h.carries_give hmem rfl hgiv hd.messages (.inl hs) hm hc
  rw [append_nil]
  change t.sent n <+: _
  rw [hn.sent]
  exact take_prefix _ _

lemma Numbered.sends {d : DataToSend}
    (h : Numbered t) (hs : SendsChunk sid maxSize item rest d t t') : Numbered t' := by
  obtain ⟨n, ns, hns, hn, hrest, hlt⟩ := h.head hs.sends.items
  have hfrag := hs.sends.fragment h.contents hs.size
  have hsz := ((h.contents.items sid).cons hs.sends.items).1
  have hmem : n ∈ t.numbers sid := by rw [hns]; exact mem_cons_self
  have hgiv := hs.given
  rw [hns] at hgiv
  obtain ⟨o, hget, hlife⟩ := hn.message
  have hsent : t.sent n ++ d.data.payload =
      item.message.payload.take (item.remainingOffset + d.data.size) := by
    rw [hn.sent]
    exact hfrag.payload
  have htot := hsz.total
  have hpts := h.parts_give hgiv hs.messages hget (by
      change t.sent n ++ d.data.payload <+: _
      rw [hsent]
      exact take_prefix _ _) (fun he _ => by
      change t.sent n ++ d.data.payload = _
      rw [hsent, (hfrag.done he).1, take_of_length_le (by omega)]) hn.unended
  have hcarry : ∀ sid', sid' ≠ sid → ∀ item, ∀ m ∈ t.numbers sid', Carries t sid' item m →
      Carries t' sid' item m := fun sid' hs' item m hm hc =>
    h.carries_give hmem rfl hgiv hs.messages (.inl hs') hm hc
  have hbehind : Forall₂ (Carries t' sid) rest ns :=
    forall₂_imp_mem hrest fun i _ m hm hc => h.carries_give hmem rfl hgiv hs.messages
      (.inr (hlt m hm).ne') (by rw [hns]; exact mem_cons_of_mem _ hm) hc
  -- the stream's first items may change, the messages behind keep their numbers
  have hnext : ∀ {k : Nat} {left : List Item}, (t'.queue.stream sid).items = left →
      left.length + k = rest.length + 1 → Forall₂ (Carries t' sid) left ((n :: ns).drop k) →
      Numbered t' := by
    intro k left hleft hlen hcar
    rw [(core_eq hs.sends.edited.core).1] at hleft
    obtain ⟨hself, hoth2⟩ := h.numbers_follow hs.sends.edited
      (by rw [hleft, hs.sends.items]; exact hlen) hs.numbers
    refine h.of_sublist (h.contents.sends hs.sends hs.size) hs.sends.messageId hs.messages
      (sublist_of_drop hself hoth2) (h.carried_of_edited hs.sends.edited hoth2 ?_ hcarry) hpts
    rw [hself, hns, hleft]
    exact hcar
  cases hend : d.data.isEnd with
  | true =>
    obtain ⟨-, hleft, -⟩ := hfrag.done hend
    exact hnext (k := 1) hleft rfl hbehind
  | false =>
    obtain ⟨item', hleft, hsz', hsome, -, hoffset, hid, hmsg, hattr, -⟩ := hfrag.more hend
    refine hnext (k := 0) hleft rfl (.cons ⟨⟨o, ?_, ?_⟩, ?_, ?_, fun hc => ?_, fun g hg hgn => ?_, ?_⟩ hbehind)
    · rw [hs.messages, hmsg]
      exact hget
    · rw [hattr]
      exact hlife
    · rw [hmsg]
      exact hn.streamId
    · rw [hid]
      exact hn.messageId
    · rw [hc] at hsome
      simp at hsome
    · rw [hgiv] at hg
      rcases mem_append.mp hg with hg | hg
      · exact hn.unended g hg hgn
      rw [mem_singleton.mp hg]
      exact hend
    · have hsent' : t'.sent n = t.sent n ++ d.data.payload := by
        rw [sent, hgiv]
        exact sent_give_self t ⟨n, d.data.payload, d.data.isBeginning, d.data.isEnd⟩
      rw [hsent', hsent, hmsg, hoffset]

/-! ## The operations -/

abbrev Changes : TracedQueue → TracedQueue → Prop := Relation.ReflTransGen Change

lemma Numbered.changes (h : Numbered t) (hc : Changes t t') : Numbered t' := by
  induction hc with
  | refl => exact h
  | tail _ hc ih => exact ih.change hc

lemma change_still (hedit : Edit t.queue q) (hstill : Still t.queue q) :
    Change t { t with queue := q } := .still hedit hstill rfl rfl rfl

lemma change_add (t : TracedQueue) (now : Timestamp) {message : DcSctpMessage}
    (hpay : message.payload ≠ []) (opts : SendOptions) :
    Change t (t.add now message opts) := by
  obtain ⟨hedit, hid, hturn⟩ := edited_streamAdd t.queue message.streamId message _
  exact .enqueue message opts _ hpay rfl hedit hid hturn rfl rfl rfl

lemma change_getOrCreateStreamInfo (t : TracedQueue) (sid : StreamID) :
    Change t { t with queue := t.queue.getOrCreateStreamInfo sid } :=
  have hqui := quiet_getOrCreateStreamInfo t.queue sid
  change_still (.expiry hqui.expiry) hqui.still

lemma Numbered.cut_eq (h : Numbered t) : t.cut t.queue = t := by
  have hnums : (t.cut t.queue).numbers = t.numbers := by
    funext sid
    simp only [cut, ← h.length_numbers, take_length]
  calc t.cut t.queue = { t with numbers := (t.cut t.queue).numbers } := rfl
    _ = t := by rw [hnums]

lemma Numbered.follow_eq (h : Numbered t) : t.follow t.queue = t := by
  have hnums : (t.follow t.queue).numbers = t.numbers := by
    funext sid
    simp only [follow, ← h.length_numbers, Nat.sub_self, drop_zero]
  calc t.follow t.queue = { t with numbers := (t.follow t.queue).numbers } := rfl
    _ = t := by rw [hnums]

lemma Numbered.changes_prepareResetStream (h : Numbered t) (sid : StreamID) :
    Changes t (prepareResetStream t sid) := by
  change Changes t (t.cut (t.queue.prepareResetStream sid))
  have hcreat := change_getOrCreateStreamInfo t sid
  have h1 := h.change hcreat
  refine .head hcreat ?_
  unfold RRSendQueue.prepareResetStream
  generalize t.queue.getOrCreateStreamInfo sid = q1 at h1
  by_cases hrun : (q1.stream sid).pauseState = .notPaused
  · obtain ⟨kept, dropped, hitm, hbgn, huns, hedit, hid, hturn⟩ :=
      edited_streamPause (h1.contents.items sid) hrun
    exact .single (.pause sid kept dropped hrun hitm hbgn huns hedit hid hturn rfl rfl rfl)
  have heq : q1.streamPause sid = q1 := by rw [streamPause, if_pos hrun]
  rw [heq]
  exact Eq.subst (motive := Changes { t with queue := q1 }) h1.cut_eq.symm .refl

lemma Numbered.changes_getStreamsReadyToBeReset (t : TracedQueue) :
    Changes t (getStreamsReadyToBeReset t).2 :=
  have hedit := edit_getStreamsReadyToBeReset t.queue
  .single (change_still hedit.1 hedit.2)

lemma Numbered.changes_forResetting (h : Numbered t) {f : RRSendQueue → StreamID → RRSendQueue}
    (hf : ∀ q sid, ContentsOk q → (q.stream sid).pauseState = .resetting →
      Edit q (f q sid) ∧ Still q (f q sid)) :
    Changes t { t with queue := t.queue.forResetting f } := by
  have hall : Changes t { t with queue := t.queue.forResetting f } ∧
      ContentsOk (t.queue.forResetting f) := by
    refine forResetting_induction (P := fun q => Changes t { t with queue := q } ∧ ContentsOk q)
      (fun q sid hq hr => ?_) ⟨.refl, h.contents⟩
    obtain ⟨hedit, hstill⟩ := hf q sid hq.2 hr
    exact ⟨hq.1.tail (.still hedit hstill rfl rfl rfl), hq.2.edit hedit⟩
  exact hall.1

lemma Numbered.changes_commitResetStreams (h : Numbered t) : Changes t (commitResetStreams t) :=
  h.changes_forResetting fun _ _ hq hr => edit_streamReset (hq.items _) hr

lemma Numbered.changes_rollbackResetStreams (h : Numbered t) :
    Changes t (rollbackResetStreams t) :=
  h.changes_forResetting fun _ _ _ hr => edit_streamResume hr

/-- **`Discard`** finds nothing, or discards the first message of the stream. -/
lemma Numbered.discard_cases (h : Numbered t) (sid : StreamID) (messageId : OutgoingMessageId) :
    (t.discard sid messageId).1 = false ∧ Changes t (t.discard sid messageId).2 ∧
        (∀ item rest, ((t.discard sid messageId).2.queue.stream sid).items = item :: rest →
          item.messageId ≠ messageId) ∨
      (t.discard sid messageId).1 = true ∧ ∃ t1 item rest, Changes t t1 ∧
        item.messageId = messageId ∧ Discards sid item rest t1 (t.discard sid messageId).2 := by
  have hcreat := change_getOrCreateStreamInfo t sid
  have h1 := h.change hcreat
  unfold discard RRSendQueue.discard
  generalize t.queue.getOrCreateStreamInfo sid = q1 at h1 hcreat
  rcases q1.streamDiscard_cases sid messageId with ⟨heq, hmiss⟩ | ⟨item, rest, hitm, hid⟩
  · rw [heq]
    refine .inl ⟨rfl, .head hcreat ?_, hmiss⟩
    exact Eq.subst (motive := Changes { t with queue := q1 }) h1.follow_eq.symm .refl
  obtain ⟨htrue, hedit, hmid, hsdg, hcrt⟩ := edited_streamDiscard hitm hid
  generalize q1.streamDiscard sid messageId = r at htrue hedit hmid hsdg hcrt
  obtain ⟨b, q2⟩ := r
  subst htrue
  exact .inr ⟨rfl, { t with queue := q1 }, item, rest, .single hcreat, hid,
    ⟨hitm, hedit, hmid, hsdg, hcrt, rfl, rfl, rfl⟩⟩

lemma follow_follow {q' : RRSendQueue}
    (h : ∀ sid, (q'.stream sid).items.length ≤ (q.stream sid).items.length)
    (hle : ∀ sid, (q.stream sid).items.length ≤ (t.numbers sid).length) :
    (t.follow q).follow q' = t.follow q' := by
  have hnums : ((t.follow q).follow q').numbers = (t.follow q').numbers := by
    funext sid
    have := h sid
    have := hle sid
    simp only [follow, drop_drop, length_drop]
    congr 1
    omega
  calc (t.follow q).follow q' = { t.follow q' with numbers := ((t.follow q).follow q').numbers } := rfl
    _ = t.follow q' := by rw [hnums]

lemma Numbered.changes_expiries (h : Numbered t) (he : Expiries t.queue q) :
    Changes t (t.follow q) ∧
      ∀ sid, (q.stream sid).items.length ≤ (t.queue.stream sid).items.length := by
  induction he with
  | refl =>
    refine ⟨?_, fun _ => le_refl _⟩
    rw [h.follow_eq]
  | @tail q1 q2 _ he ih =>
    obtain ⟨hchg, hlen⟩ := ih
    have hlen2 : ∀ sid, (q2.stream sid).items.length ≤ (q1.stream sid).items.length := by
      intro sid
      cases he with
      | keep contents => rw [(core_eq (contents sid)).1]
      | drop sid' item rest items _ edited =>
        by_cases hs : sid = sid'
        · rw [hs, (core_eq edited.core).1, items]
          exact Nat.le_succ _
        · rw [(core_eq (edited.others sid hs).1).1]
    have hff : ((t.follow q1).follow q2) = t.follow q2 :=
      follow_follow hlen2 fun sid => by rw [h.length_numbers]; exact hlen sid
    refine ⟨hchg.tail ?_, fun sid => (hlen2 sid).trans (hlen sid)⟩
    cases he with
    | keep contents amounts total reported messageId interleaving turn =>
      refine .still (.expiry (.keep contents amounts total reported messageId interleaving turn))
        ⟨fun sid => (core_eq (contents sid)).1, messageId, reported, interleaving, turn⟩
        ?_ rfl rfl
      funext sid
      simp only [follow, (core_eq (contents sid)).1]
    | drop sid item rest items unsent edited messageId turn limited =>
      refine .drop sid item rest items unsent edited messageId turn ?_ rfl rfl limited
      rw [← hff]
      rfl

/-- **`Produce`.** Messages may expire, and then some stream sends a fragment. -/
lemma Numbered.produce_cases (h : Numbered t) (hfil : ∀ sid, t.queue.Filed sid) (now : Timestamp) (hmax : 1 ≤ maxSize) :
    ((t.produce now maxSize).1 = none → Changes t (t.produce now maxSize).2) ∧
    ∀ d, (t.produce now maxSize).1 = some d → ∃ t1 sid item rest, Changes t t1 ∧
      SendsChunk sid maxSize item rest d t1 (t.produce now maxSize).2 := by
  obtain ⟨-, hnone, hsome⟩ := produce_outcome now maxSize h.contents hfil
  unfold produce
  generalize t.queue.produce now maxSize = r at hnone hsome
  obtain ⟨data, q⟩ := r
  cases data with
  | none => exact ⟨fun _ => (h.changes_expiries (hnone rfl)).1, fun d hd => absurd hd (by simp)⟩
  | some d =>
    refine ⟨fun hc => absurd hc (by simp), fun d' hd => ?_⟩
    obtain rfl : d = d' := by simpa using hd
    obtain ⟨q1, sid, item, rest, hexp, hsnd⟩ := hsome d rfl
    obtain ⟨hchg, hlen⟩ := h.changes_expiries hexp
    have h1 := h.changes hchg
    have hfrag := hsnd.fragment h1.contents hmax
    obtain ⟨n, ns, hns, hn, -⟩ := h1.head hsnd.items
    have hsid : d.data.streamId = sid := hfrag.streamId.trans hn.streamId
    have hlen1 : (q.stream sid).items.length + (if d.data.isEnd then 1 else 0) =
        (q1.stream sid).items.length := by
      rw [hsnd.items]
      cases hend : d.data.isEnd with
      | true => simp [(hfrag.done hend).2.1]
      | false =>
        obtain ⟨item', hleft, -⟩ := hfrag.more hend
        simp [hleft]
    have hlen2 : ∀ sid', (q.stream sid').items.length ≤ (q1.stream sid').items.length := by
      intro sid'
      by_cases hs : sid' = sid
      · rw [hs]
        omega
      · rw [(core_eq (hsnd.edited.others sid' hs).1).1]
    have hff : (t.follow q1).follow q = t.follow q :=
      follow_follow hlen2 fun sid' => by rw [h.length_numbers]; exact hlen sid'
    have hnumber : t.numberOf q d.data = ((t.follow q1).numbers sid).headD 0 := by
      simp only [numberOf, hsid, follow, headD_eq_head?_getD, head?_drop, getD_eq_getElem?_getD]
      congr 2
      cases hend : d.data.isEnd <;> simp only [hend] at hlen1 ⊢ <;> simp at hlen1 ⊢ <;> omega
    have hnums : (t.follow q).numbers = ((t.follow q1).follow q).numbers := by rw [hff]
    exact ⟨t.follow q1, sid, item, rest, hchg, ⟨hsnd, hmax, hnums, rfl,
      congrArg (fun n => t.given ++ [⟨n, d.data.payload, d.data.isBeginning, d.data.isEnd⟩]) hnumber⟩⟩

/-! ## Between operations -/

structure Live (t : TracedQueue) : Prop where
  numbered : Numbered t
  filed : ∀ sid, t.queue.Filed sid

lemma Live.sound (h : Live t) : Sound t.queue := ⟨h.numbered.contents, h.filed⟩

lemma Live.of_changes (h : Live t) (hc : Changes t t') (hs : Sound t'.queue) : Live t' :=
  ⟨h.numbered.changes hc, hs.filed⟩

lemma queue_discard (sid : StreamID) (mid : OutgoingMessageId) :
    (t.discard sid mid).2.queue = (t.queue.discard sid mid).2 := by
  unfold discard
  generalize t.queue.discard sid mid = r
  obtain ⟨b, q⟩ := r
  cases b <;> rfl

lemma queue_produce (now : Timestamp) (maxSize : Nat) :
    (t.produce now maxSize).2.queue = (t.queue.produce now maxSize).2 := by
  unfold produce
  generalize t.queue.produce now maxSize = r
  obtain ⟨d, q⟩ := r
  cases d <;> rfl

lemma Live.discard (h : Live t) (sid : StreamID) (mid : OutgoingMessageId) :
    Live (t.discard sid mid).2 := by
  refine ⟨?_, by rw [queue_discard]; exact (h.sound.discard sid mid).filed⟩
  rcases h.numbered.discard_cases sid mid with ⟨-, hc, -⟩ | ⟨-, t1, item, rest, hc, -, hd⟩
  · exact h.numbered.changes hc
  · exact (h.numbered.changes hc).discards hd

lemma Live.produce (h : Live t) (now : Timestamp) (hmax : 1 ≤ maxSize) :
    Live (t.produce now maxSize).2 := by
  refine ⟨?_, by rw [queue_produce]; exact (h.sound.produce now hmax).filed⟩
  obtain ⟨hnone, hsome⟩ := h.numbered.produce_cases h.filed now hmax
  cases hd : (t.produce now maxSize).1 with
  | none => exact h.numbered.changes (hnone hd)
  | some d =>
    obtain ⟨t1, sid, item, rest, hc, hs⟩ := hsome d hd
    exact (h.numbered.changes hc).sends hs

end TracedQueue

end WebRtc.Dcsctp
