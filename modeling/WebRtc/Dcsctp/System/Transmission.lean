import WebRtc.Dcsctp.System.TracedQueue
import WebRtc.Dcsctp.Tx.QueueBooks
import WebRtc.Dcsctp.Tx.QueueSimulation

/-!
# dcSCTP — the sending side as a whole

A retransmission queue and the send queue behind it. `Move` lists what can happen to the outstanding
chunks, the send queue and the reports about messages (`View`); every operation of the two queues is
a chain of moves, and invariants are proved against the moves.
-/

namespace WebRtc.Dcsctp

open Lib RetransmissionQueue TracedQueue List SendCallback Function Item

def SendCallback.isOutcome : SendCallback → Bool
  | .onLifecycleMessageExpired .. | .onLifecycleMessageDelivered _ | .onLifecycleEnd _ => true
  | _ => false

variable (i : Item) {i' : Item}

namespace OutstandingData

namespace Item

/-- The two items are the same chunk, which may have got further. -/
structure SameChunk (i i' : Item) : Prop where
  messageId : i'.messageId = i.messageId
  data : i'.data = i.data
  lifecycleId : i'.lifecycleId = i.lifecycleId

lemma SameChunk.refl : SameChunk i i := ⟨rfl, rfl, rfl⟩

lemma SameChunk.trans {i i'' : Item} (h : SameChunk i i') (h' : SameChunk i' i'') :
    SameChunk i i'' :=
  ⟨h'.messageId.trans h.messageId, h'.data.trans h.data, h'.lifecycleId.trans h.lifecycleId⟩

def endReports : List SendCallback :=
  if i.lifecycleId = 0 then []
  else if i.isAbandoned then
    [.onLifecycleMessageExpired i.lifecycleId true, .onLifecycleEnd i.lifecycleId]
  else [.onLifecycleMessageDelivered i.lifecycleId, .onLifecycleEnd i.lifecycleId]

/-- `x'` is the chunk `x` once the message of `i` has been abandoned. -/
structure Abandons (i x x' : Item) : Prop where
  same : SameChunk x x'
  abandoned : x'.isAbandoned = (x.isAbandoned || i.sameMessage x)

lemma nack_cases (atOnce : Bool) :
    SameChunk i (i.nack atOnce).1 ∧
      if (i.nack atOnce).2 = .abandon then (i.nack atOnce).1.isAbandoned = true
      else (i.nack atOnce).1.isAbandoned = i.isAbandoned := by
  unfold nack
  dsimp only
  split
  · rename_i hlost
    have hnot : i.isAbandoned = false := by
      have := (Bool.and_eq_true_iff.mp (Bool.and_eq_true_iff.mp hlost).1).2
      simpa [isAbandoned] using this
    split
    · refine ⟨⟨rfl, rfl, rfl⟩, ?_⟩
      rw [if_neg (by simp), hnot]
      rfl
    · exact ⟨⟨rfl, rfl, rfl⟩, by simp [abandon, isAbandoned]⟩
  · exact ⟨⟨rfl, rfl, rfl⟩, by simp [isAbandoned]⟩

end Item

end OutstandingData

/-- What is outstanding, what has been reported about it, and the send queue. -/
structure View where
  cumulativeAck : Int
  items : List OutstandingData.Item
  reports : List SendCallback
  queue : TracedQueue

inductive Move (v v' : View) : Prop
  /-- The send queue changes. -/
  | change (h : Change v.queue v'.queue) (cumulativeAck : v'.cumulativeAck = v.cumulativeAck)
      (items : v'.items = v.items) (reports : v'.reports = v.reports)
  /-- Chunks are acknowledged, missed or sent again. -/
  | adjust (items : Forall₂ (fun i i' => OutstandingData.Item.SameChunk i i' ∧ i'.isAbandoned = i.isAbandoned)
    v.items v'.items)
      (cumulativeAck : v'.cumulativeAck = v.cumulativeAck) (reports : v'.reports = v.reports)
      (queue : v'.queue = v.queue)
  /-- The first chunk has been acknowledged, with everything before it, and is forgotten. -/
  | pop (i : OutstandingData.Item) (items : v.items = i :: v'.items)
      (cumulativeAck : v'.cumulativeAck = v.cumulativeAck + 1)
      (reports : v'.reports.Perm (v.reports ++ i.endReports)) (queue : v'.queue = v.queue)
  /-- A chunk is sent. -/
  | send (sid : StreamID) (maxSize : Nat) (item : Item) (rest : List Item) (d : DataToSend)
      (i : OutstandingData.Item) (h : SendsChunk sid maxSize item rest d v.queue v'.queue)
      (messageId : i.messageId = d.messageId) (data : i.data = d.data)
      (lifecycleId : i.lifecycleId = d.lifecycleId) (active : i.isAbandoned = false)
      (items : v'.items = v.items ++ [i]) (cumulativeAck : v'.cumulativeAck = v.cumulativeAck)
      (reports : v'.reports = v.reports)
  /-- A message that has been sent in full is abandoned. -/
  | abandon (i : OutstandingData.Item) (mem : i ∈ v.items)
      (miss : ∀ item rest, (v.queue.queue.stream i.data.streamId).items = item :: rest →
        item.messageId ≠ i.messageId)
      (items : Forall₂ (OutstandingData.Item.Abandons i) v.items v'.items)
      (cumulativeAck : v'.cumulativeAck = v.cumulativeAck) (reports : v'.reports = v.reports)
      (queue : v'.queue = v.queue)
  /-- A message is abandoned and what has not been sent of it is discarded. -/
  | discard (i : OutstandingData.Item) (mem : i ∈ v.items) (item : Item) (rest : List Item)
      (h : Discards i.data.streamId item rest v.queue v'.queue)
      (messageId : item.messageId = i.messageId)
      (items : Forall₂ (OutstandingData.Item.Abandons i) (v.items ++ [i.unsentEnd.ack]) v'.items)
      (cumulativeAck : v'.cumulativeAck = v.cumulativeAck) (reports : v'.reports = v.reports)

abbrev Moves : View → View → Prop := Relation.ReflTransGen Move

def OutstandingData.view (o : OutstandingData) (reports : List SendCallback) (t : TracedQueue) : View :=
  ⟨o.lastCumulativeTsnAck, o.outstandingData, reports, t⟩

open TracedQueue

variable {t' : TracedQueue}

lemma moves_changes {t : TracedQueue} (h : Changes t t') (cum : Int)
    (items : List OutstandingData.Item) (r : List SendCallback) :
    Moves ⟨cum, items, r, t⟩ ⟨cum, items, r, t'⟩ := by
  induction h with
  | refl => exact .refl
  | tail _ hc ih => exact ih.tail (.change hc rfl rfl rfl)

lemma Move.numbered {v v' : View} (h : Move v v') (hn : Numbered v.queue) : Numbered v'.queue := by
  cases h with
  | change h => exact hn.change h
  | adjust _ _ _ queue | pop _ _ _ _ queue | abandon _ _ _ _ _ _ queue => rwa [queue]
  | send sid maxSize item rest d i h => exact hn.sends h
  | discard i _ item rest h => exact hn.discards h

variable {rest : List Dcsctp.Item} {item : Dcsctp.Item} {sid : StreamID} {d : DataToSend} {maxSize : Nat}

namespace OutstandingData

variable {o o' : OutstandingData} {t : TracedQueue} {r : List SendCallback}

/-! ## Acknowledging -/

lemma forall₂_set {R : Item → Item → Prop} (hrefl : ∀ i, R i i) {items : List Item} {k : Nat}
    {i : Item} (hget : items[k]? = some i) (hR : R i i') : Forall₂ R items (items.set k i') := by
  induction items generalizing k with
  | nil => simp at hget
  | cons x items ih =>
    cases k with
    | zero =>
      obtain rfl : x = i := by simpa using hget
      exact .cons hR (forall₂_same.mpr fun a _ => hrefl a)
    | succ k => exact .cons (hrefl x) (ih (by simpa using hget))

lemma move_setItem {tsn : Int} {i : Item} (hget : o.getItem tsn = some i)
    (hsame : Item.SameChunk i i') (hab : i'.isAbandoned = i.isAbandoned)
    (hitm : o'.outstandingData = (o.setItem tsn i').outstandingData)
    (hcum : o'.lastCumulativeTsnAck = o.lastCumulativeTsnAck) :
    Move (o.view r t) (o'.view r t) := by
  refine .adjust ?_ hcum rfl rfl
  change Forall₂ _ o.outstandingData o'.outstandingData
  rw [hitm]
  exact forall₂_set (R := fun i i' => Item.SameChunk i i' ∧ i'.isAbandoned = i.isAbandoned)
    (fun a => ⟨.refl a, rfl⟩) (getItem_eq_some.mp hget).2 ⟨hsame, hab⟩

lemma sameChunk_ack : Item.SameChunk i i.ack ∧ i.ack.isAbandoned = i.isAbandoned := by
  refine ⟨⟨rfl, rfl, rfl⟩, ?_⟩
  cases h : i.lifecycle <;> simp [Item.ack, Item.isAbandoned, h]

lemma ackChunk_moves (info : AckInfo) {tsn : Int} {i : Item} (hget : o.getItem tsn = some i) :
    Moves (o.view r t) ((o.ackChunk info tsn i).1.view r t) ∧
      (o.ackChunk info tsn i).2.ackedLifecycleIds = info.ackedLifecycleIds ∧
      (o.ackChunk info tsn i).2.abandonedLifecycleIds = info.abandonedLifecycleIds := by
  unfold ackChunk
  split
  · exact ⟨.refl, rfl, rfl⟩
  refine ⟨.single (move_setItem hget (sameChunk_ack i).1 (sameChunk_ack i).2 ?_ ?_), rfl, rfl⟩
  · simp [setItem, indexOf]
  · exact (settle_others o i).2.2.2.1

lemma lifecycleCallbacks_noteLifecycle (info : AckInfo) (i : Item) :
    (lifecycleCallbacks (noteLifecycle info i)).Perm (lifecycleCallbacks info ++ i.endReports) := by
  unfold noteLifecycle Item.endReports
  split
  · rw [append_nil]
  split
  · simp [lifecycleCallbacks]
  simp only [lifecycleCallbacks, flatMap_append, flatMap_singleton, append_assoc]
  exact Perm.append_left _ perm_append_comm

lemma popFront_ackChunk {i : Item} {rest : List Item} (hitm : o.outstandingData = i :: rest)
    (info : AckInfo) :
    ((o.ackChunk info (o.lastCumulativeTsnAck + 1) i).1.popFront).outstandingData = rest ∧
      ((o.ackChunk info (o.lastCumulativeTsnAck + 1) i).1.popFront).lastCumulativeTsnAck =
        o.lastCumulativeTsnAck + 1 := by
  unfold ackChunk popFront
  split
  · exact ⟨by simp [hitm], rfl⟩
  · simp [setItem, indexOf, hitm]

lemma removeAckedLoop_moves (cum : Int) : ∀ (rounds : Nat) (o : OutstandingData) (info : AckInfo),
    Moves (o.view (r ++ lifecycleCallbacks info) t) ((removeAckedLoop cum rounds o info).1.view
        (r ++ lifecycleCallbacks (removeAckedLoop cum rounds o info).2) t)
  | 0, o, info => .refl
  | rounds + 1, o, info => by
    unfold removeAckedLoop
    cases hitm : o.outstandingData with
    | nil => exact .refl
    | cons i rest =>
      dsimp only
      split
      swap
      · exact .refl
      have hget : o.getItem (o.lastCumulativeTsnAck + 1) = some i :=
        getItem_first.mpr (by rw [hitm]; rfl)
      obtain ⟨hrest, hcum⟩ := popFront_ackChunk hitm info
      obtain ⟨-, h1, h2⟩ := ackChunk_moves (r := r) (t := t) info hget
      refine Relation.ReflTransGen.head (b := (o.ackChunk info (o.lastCumulativeTsnAck + 1) i).1.popFront.view
        (r ++ lifecycleCallbacks
          (noteLifecycle (o.ackChunk info (o.lastCumulativeTsnAck + 1) i).2 i)) t)
        (.pop i ?_ hcum ?_ rfl) (removeAckedLoop_moves cum rounds _ _)
      · change o.outstandingData = i :: _
        rw [hitm, ← hrest]
        rfl
      have hsame : lifecycleCallbacks (o.ackChunk info (o.lastCumulativeTsnAck + 1) i).2 =
          lifecycleCallbacks info := by
        simp only [lifecycleCallbacks, h1, h2]
      have hperm := lifecycleCallbacks_noteLifecycle
        (o.ackChunk info (o.lastCumulativeTsnAck + 1) i).2 i
      rw [hsame] at hperm
      change (r ++ _).Perm ((r ++ _) ++ _)
      rw [append_assoc]
      exact hperm.append_left r

lemma ackGapBlocks_moves (cum : Int) (blocks : List GapAckBlock) (info : AckInfo) :
    Moves (o.view r t) ((o.ackGapBlocks cum blocks info).1.view r t) ∧
      lifecycleCallbacks (o.ackGapBlocks cum blocks info).2 =
        lifecycleCallbacks info := by
  let P : OutstandingData × AckInfo → Prop := fun s => Moves (o.view r t) (s.1.view r t) ∧
    lifecycleCallbacks s.2 = lifecycleCallbacks info
  refine run_induction (P := P) (fun s b hs => run_induction (P := P) (fun s tsn hs => ?_) _ hs) blocks
    ⟨.refl, rfl⟩
  unfold ackInBlock
  split
  · cases hget : s.1.getItem tsn with
    | none => exact hs
    | some i =>
      obtain ⟨hmv, h1, h2⟩ := ackChunk_moves (r := r) (t := t) s.2 hget
      refine ⟨hs.1.trans hmv, ?_⟩
      rw [← hs.2]
      simp only [lifecycleCallbacks, h1, h2]
  · exact hs

/-! ## Abandoning -/

def markAbandoned (i x : Item) : Item :=
  if !x.isAbandoned && i.sameMessage x then x.abandon else x

lemma abandons_markAbandoned (i x : Item) : Item.Abandons i x (markAbandoned i x) := by
  unfold markAbandoned
  split
  · next h =>
    refine ⟨⟨rfl, rfl, rfl⟩, ?_⟩
    rw [(Bool.and_eq_true_iff.mp h).2, Bool.or_true]
    rfl
  · next h =>
    refine ⟨.refl x, ?_⟩
    cases hx : x.isAbandoned <;> simp_all

lemma markAbandoned_markAbandoned (i x : Item) :
    markAbandoned i (markAbandoned i x) = markAbandoned i x := by
  unfold markAbandoned
  split
  · rfl
  · rfl

lemma getItem_abandonIfSame (o : OutstandingData) (tsn : Int) : (abandonIfSame i o tsn).getItem =
    update o.getItem tsn ((o.getItem tsn).map (markAbandoned i)) ∧
      (abandonIfSame i o tsn).lastCumulativeTsnAck = o.lastCumulativeTsnAck := by
  unfold abandonIfSame markAbandoned
  cases hget : o.getItem tsn with
  | none =>
    refine ⟨?_, rfl⟩
    dsimp only
    rw [Option.map_none, ← hget, update_eq_self]
  | some other =>
    dsimp only
    rw [Option.map_some]
    split
    · next h =>
      have hset : ∀ o1 : OutstandingData, o1.outstandingData = o.outstandingData →
          o1.lastCumulativeTsnAck = o.lastCumulativeTsnAck →
          (o1.setItem tsn other.abandon).getItem =
              update o.getItem tsn (some other.abandon) ∧
            (o1.setItem tsn other.abandon).lastCumulativeTsnAck = o.lastCumulativeTsnAck := by
        intro o1 hitm hcum
        have hcongr := getItem_congr hitm hcum
        rw [getItem_setItem (by rw [hcongr]; exact hget), hcongr]
        exact ⟨rfl, hcum⟩
      split
      · exact hset _ rfl rfl
      · exact hset _ rfl rfl
    · refine ⟨?_, rfl⟩
      rw [← hget, update_eq_self]

lemma getItem_foldl_abandonIfSame (tsns : List Int) : ∀ o : OutstandingData,
    (∀ t, (tsns.foldl (abandonIfSame i) o).getItem t =
      (o.getItem t).map fun x => if t ∈ tsns then markAbandoned i x else x) ∧
    (tsns.foldl (abandonIfSame i) o).lastCumulativeTsnAck = o.lastCumulativeTsnAck := by
  induction tsns with
  | nil =>
    intro o
    exact ⟨fun t => by simp, rfl⟩
  | cons tsn tsns ih =>
    intro o
    obtain ⟨hget, hcum⟩ := getItem_abandonIfSame i o tsn
    obtain ⟨ih1, ih2⟩ := ih (abandonIfSame i o tsn)
    refine ⟨fun t => ?_, ih2.trans hcum⟩
    rw [foldl_cons, ih1, hget]
    by_cases ht : t = tsn
    · subst ht
      cases o.getItem t with
      | none => simp
      | some x => by_cases hm : t ∈ tsns <;> simp [hm, markAbandoned_markAbandoned]
    · rw [update_of_ne ht]
      simp [ht]

lemma outstandingData_abandonAll (o : OutstandingData) :
    (o.tsns.foldl (abandonIfSame i) o).outstandingData = o.outstandingData.map (markAbandoned i) ∧
      (o.tsns.foldl (abandonIfSame i) o).lastCumulativeTsnAck = o.lastCumulativeTsnAck := by
  obtain ⟨hget, hcum⟩ := getItem_foldl_abandonIfSame i o.tsns o
  refine ⟨ext_getElem? fun k => ?_, hcum⟩
  have hitem : ∀ o' : OutstandingData, o'.lastCumulativeTsnAck = o.lastCumulativeTsnAck →
      o'.getItem (o.lastCumulativeTsnAck + 1 + k) = o'.outstandingData[k]? := by
    intro o' hcum'
    have hindex : o'.indexOf (o.lastCumulativeTsnAck + 1 + k) = k := by
      rw [indexOf, hcum']
      omega
    rw [getItem, if_pos (by rw [hcum']; omega), hindex]
  rw [← hitem _ hcum, hget, getElem?_map, ← hitem o rfl]
  cases hx : o.getItem (o.lastCumulativeTsnAck + 1 + k) with
  | none => rfl
  | some x =>
    rw [Option.map_some, Option.map_some, if_pos (mem_tsns.mpr ⟨x, hx⟩)]

structure Underway (i a b : Item) : Prop where
  same : Item.SameChunk a b
  abandoned : b.isAbandoned = a.isAbandoned ∨ b.isAbandoned = true ∧ i.sameMessage a = true

lemma Underway.refl (i a : Item) : Underway i a a := ⟨.refl a, .inl rfl⟩

lemma Underway.abandons {i a b : Item} (hi : Item.SameChunk i i') (h : Underway i a b) :
    Item.Abandons i a (markAbandoned i' b) := by
  have hmark := abandons_markAbandoned i' b
  have hsame : i'.sameMessage b = i.sameMessage a := by
    simp only [Item.sameMessage, h.same.data, h.same.messageId, hi.data, hi.messageId]
  refine ⟨h.same.trans hmark.same, ?_⟩
  rw [hmark.abandoned, hsame]
  rcases h.abandoned with heq | ⟨heq, hi⟩
  · rw [heq]
  · rw [heq, hi, Bool.true_or, Bool.or_true]

/-- **`AbandonAllFor`.** The items may differ from `items`, for which the step is made, in that
the message has been abandoned in part. -/
lemma abandonAllFor_moves {items : List Item} {i : Item} (hi : i ∈ items)
    (hsame : Item.SameChunk i i') (hitm : Forall₂ (Underway i) items o.outstandingData)
    (hlive : Live t) :
    Moves ⟨o.lastCumulativeTsnAck, items, r, t⟩ ((o.abandonAllFor TracedQueue.discard i' t).1.view r
        (o.abandonAllFor TracedQueue.discard i' t).2) ∧
      Live (o.abandonAllFor TracedQueue.discard i' t).2 := by
  have hlive' := hlive.discard i'.data.streamId i'.messageId
  have hcse := hlive.numbered.discard_cases i'.data.streamId i'.messageId
  have hend : i'.unsentEnd = i.unsentEnd := by
    simp only [Item.unsentEnd, hsame.data, hsame.messageId]
  unfold abandonAllFor
  generalize t.discard i'.data.streamId i'.messageId = s at hlive' hcse
  obtain ⟨discarded, t'⟩ := s
  refine ⟨?_, hlive'⟩
  rw [hsame.data, hsame.messageId] at hcse
  rcases hcse with ⟨rfl, hchg, hmiss⟩ | ⟨rfl, t1, item, rest, hchg, hid, hdisc⟩
  · obtain ⟨hfinal, hcum⟩ := outstandingData_abandonAll i' o
    refine (moves_changes hchg _ items r).tail (.abandon i hi hmiss ?_ hcum rfl rfl)
    change Forall₂ _ items (o.tsns.foldl (abandonIfSame i') o).outstandingData
    rw [hfinal, forall₂_map_right_iff]
    exact hitm.imp fun _ _ h => h.abandons hsame
  obtain ⟨hfinal, hcum⟩ := outstandingData_abandonAll i' (o.emplaceBack i'.unsentEnd.ack)
  refine (moves_changes hchg _ items r).tail (.discard i hi item rest hdisc hid ?_ hcum rfl)
  change Forall₂ _ (items ++ [i.unsentEnd.ack])
    ((o.emplaceBack i'.unsentEnd.ack).tsns.foldl (abandonIfSame i')
      (o.emplaceBack i'.unsentEnd.ack)).outstandingData
  rw [hfinal, forall₂_map_right_iff, emplaceBack, hend]
  refine rel_append (hitm.imp fun _ _ h => h.abandons hsame) (.cons ?_ .nil)
  exact (Underway.refl i _).abandons hsame

lemma nackItem_moves (tsn : Int) (atOnce doFast : Bool) (o : OutstandingData) (hlive : Live t) :
    Moves (o.view r t) ((nackItem TracedQueue.discard tsn atOnce doFast o t).2.1.view r
      (nackItem TracedQueue.discard tsn atOnce doFast o t).2.2) ∧
      Live (nackItem TracedQueue.discard tsn atOnce doFast o t).2.2 := by
  unfold nackItem
  cases hget : o.getItem tsn with
  | none => exact ⟨.refl, hlive⟩
  | some i =>
    obtain ⟨hsame, hab⟩ := Item.nack_cases i atOnce
    dsimp only
    generalize i.nack atOnce = nacked at hsame hab
    obtain ⟨i', action⟩ := nacked
    cases action with
    | nothing =>
      refine ⟨.single (move_setItem hget hsame hab ?_ ?_), hlive⟩
      · simp [setItem, indexOf]
      · simp [setItem]
    | retransmit =>
      refine ⟨.single (move_setItem hget hsame hab ?_ ?_), hlive⟩
      · cases doFast <;> simp [mark, setItem, indexOf]
      · cases doFast <;> simp [mark, setItem]
    | abandon =>
      have hmem := mem_of_getItem hget
      have hfirst := abandonAllFor_moves (o := (o.settle i).setItem tsn i') (r := r) hmem hsame (by
        have hmine : Underway i i i' := ⟨hsame, .inr ⟨hab, by simp [Item.sameMessage]⟩⟩
        have hset := forall₂_set (R := Underway i) (Underway.refl i) (getItem_eq_some.mp hget).2 hmine
        simpa [setItem, indexOf] using hset) hlive
      have hcum : ((o.settle i).setItem tsn i').lastCumulativeTsnAck = o.lastCumulativeTsnAck := by
        simp [setItem]
      rw [hcum] at hfirst
      exact hfirst

lemma nackBefore_moves (fast : Bool) (cum maxTsn : Int) :
    ∀ (blocks : List GapAckBlock) (prev : Int) (s : Bool × OutstandingData × TracedQueue),
      Moves (o.view r t) (s.2.1.view r s.2.2) ∧ Live s.2.2 →
      Moves (o.view r t) ((nackBefore TracedQueue.discard fast cum maxTsn prev blocks
        s).2.1.view r (nackBefore TracedQueue.discard fast cum maxTsn prev blocks
        s).2.2) ∧
      Live (nackBefore TracedQueue.discard fast cum maxTsn prev blocks s).2.2
  | [], _, _, hs => hs
  | b :: rest, prev, s, hs => by
    refine nackBefore_moves fast cum maxTsn rest _ _ ?_
    refine run_induction (P := fun s : Bool × OutstandingData × TracedQueue =>
      Moves (o.view r t) (s.2.1.view r s.2.2) ∧ Live s.2.2) (fun s tsn hs => ?_) _ hs
    obtain ⟨hmv, hlive⟩ := nackItem_moves (r := r) tsn false (!fast) s.2.1 hs.2
    exact ⟨hs.1.trans hmv, hlive⟩

lemma handleSack_moves (o : OutstandingData) (cum : Int) (blocks : List GapAckBlock)
    (fast : Bool) (hlive : Live t) :
    Moves (o.view r t) ((o.handleSack TracedQueue.discard cum blocks fast t).2.1.view
      (r ++ lifecycleCallbacks
        (o.handleSack TracedQueue.discard cum blocks fast t).1)
      (o.handleSack TracedQueue.discard cum blocks fast t).2.2) ∧
      Live (o.handleSack TracedQueue.discard cum blocks fast t).2.2 := by
  unfold handleSack removeAcked nackBetweenAckBlocks
  dsimp only
  have hrem := removeAckedLoop_moves (r := r) (t := t) cum o.outstandingData.length o
    { highestTsnAcked := cum }
  generalize removeAckedLoop cum o.outstandingData.length o { highestTsnAcked := cum } = s at hrem
  obtain ⟨o1, info1⟩ := s
  have hacked := ackGapBlocks_moves (o := { o1 with
    streamResetBreakpointTsns := o1.streamResetBreakpointTsns.eraseTo (cum + 1) })
    (r := r ++ lifecycleCallbacks info1) (t := t) cum blocks info1
  generalize ackGapBlocks _ cum blocks info1 = s at hacked
  obtain ⟨o2, info2⟩ := s
  have hstart : Moves (o.view r t) (o2.view (r ++ lifecycleCallbacks info2) t) := by
    rw [hacked.2]
    have hnil : r ++ lifecycleCallbacks { highestTsnAcked := cum } = r :=
      append_nil r
    rw [hnil] at hrem
    exact hrem.trans hacked.1
  obtain ⟨hmv, hlive'⟩ := nackBefore_moves (o := o2)
    (r := r ++ lifecycleCallbacks info2) (t := t) fast cum
    (if fast && decide (o2.lastCumulativeTsnAck < cum) then
      cum + ((blocks.getLast?.map fun b => b.end_.toNat).getD 0 : Nat)
    else info2.highestTsnAcked) blocks cum (info2.hasPacketLoss, o2, t) ⟨.refl, hlive⟩
  exact ⟨hstart.trans hmv, hlive'⟩

lemma expireLoop_moves (now : Timestamp) (tsns : List Int) (o : OutstandingData) (t : TracedQueue)
    (hlive : Live t) : Moves (o.view r t) ((expireLoop TracedQueue.discard now tsns o t).1.view r
      (expireLoop TracedQueue.discard now tsns o t).2) ∧
      Live (expireLoop TracedQueue.discard now tsns o t).2 := by
  refine expireLoop_induction _ (P := fun s => Moves (o.view r t) (s.1.view r s.2) ∧ Live s.2) now ?_
    (fun _ h => h) tsns o t ⟨.refl, hlive⟩
  intro o' t' tsn i hget h
  obtain ⟨hmv, hlive'⟩ := abandonAllFor_moves (o := o') (r := r) (mem_of_getItem hget) (.refl i)
    (forall₂_same.mpr fun a _ => Underway.refl i a) h.2
  exact ⟨h.1.trans hmv, hlive'⟩

lemma nackAll_moves (o : OutstandingData) (hlive : Live t) :
    Moves (o.view r t) ((o.nackAll TracedQueue.discard t).1.view r (o.nackAll TracedQueue.discard t).2) ∧
      Live (o.nackAll TracedQueue.discard t).2 := by
  refine run_induction (P := fun s : OutstandingData × TracedQueue =>
    Moves (o.view r t) (s.1.view r s.2) ∧ Live s.2) (fun s tsn hs => ?_) _ ⟨.refl, hlive⟩
  obtain ⟨hmv, hlive'⟩ := nackItem_moves (r := r) tsn true false s.1 hs.2
  exact ⟨hs.1.trans hmv, hlive'⟩

/-! ## Sending -/

lemma insert_moves (o : OutstandingData)
    (hsnd : SendsChunk sid maxSize item rest d t t') (hlive : Live t') (now : Timestamp)
    (maxRtx : MaxRetransmits) (expiry : Option Timestamp) :
    Moves (o.view r t) ((o.insert TracedQueue.discard d.messageId d.data now maxRtx expiry
      d.lifecycleId t').2.1.view r (o.insert TracedQueue.discard d.messageId d.data now
        maxRtx expiry d.lifecycleId t').2.2) ∧
      Live (o.insert TracedQueue.discard d.messageId d.data now maxRtx expiry
        d.lifecycleId t').2.2 := by
  unfold insert
  dsimp only
  generalize hi : (⟨d.messageId, d.data, now, maxRtx, expiry, d.lifecycleId, .active,
    .unacked, 0, 0⟩ : Item) = i
  have hsend : Move (o.view r t) (((o.enterFlight d.data).emplaceBack i).view r t') := by
    rw [← hi]
    exact .send sid maxSize item rest d _ hsnd rfl rfl rfl rfl rfl rfl rfl
  split
  · obtain ⟨hmv, hlive'⟩ := abandonAllFor_moves (o := (o.enterFlight d.data).emplaceBack i) (r := r)
      (i := i) (mem_append_right _ mem_cons_self) (.refl i)
      (forall₂_same.mpr fun a _ => Underway.refl i a) hlive
    exact ⟨.head hsend hmv, hlive'⟩
  · exact ⟨.single hsend, hlive⟩

lemma extractLoop_moves (kind : Retransmission) : ∀ (tsns : List Int) (maxSize : Nat)
    (o : OutstandingData), (∀ tsn ∈ tsns, ∀ i, o.getItem tsn = some i → i.isAbandoned = false) →
    Moves (o.view r t) ((extractLoop kind tsns maxSize o).2.view r t)
  | [], _, _, _ => .refl
  | tsn :: rest, maxSize, o, hact => by
    unfold extractLoop
    cases hget : o.getItem tsn with
    | none => exact .refl
    | some i =>
      dsimp only
      have hmark : ∀ o' : OutstandingData,
          o'.outstandingData = (o.setItem tsn i.markAsRetransmitted).outstandingData →
          o'.lastCumulativeTsnAck = o.lastCumulativeTsnAck → Move (o.view r t) (o'.view r t) ∧
          ∀ t' ∈ rest, ∀ x, o'.getItem t' = some x → x.isAbandoned = false := by
        intro o' hitm hcum
        have hsame : Item.SameChunk i i.markAsRetransmitted := ⟨rfl, rfl, rfl⟩
        refine ⟨move_setItem hget hsame ?_ hitm hcum, fun t' ht' x hx => ?_⟩
        · rw [hact tsn mem_cons_self i hget]
          rfl
        have hcongr : o'.getItem = (o.setItem tsn i.markAsRetransmitted).getItem :=
          getItem_congr hitm hcum
        rw [hcongr, getItem_setItem hget] at hx
        by_cases heq : t' = tsn
        · rw [heq, update_self] at hx
          rw [← Option.some.inj hx]
          rfl
        · rw [update_of_ne heq] at hx
          exact hact t' (mem_cons_of_mem _ ht') x hx
      obtain ⟨hmove, hrest⟩ := hmark (((o.setItem tsn i.markAsRetransmitted).enterFlight
        i.data).eraseChunk tsn kind) (by cases kind <;> rfl) (by cases kind <;> rfl)
      split
      · split
        · exact .single hmove
        · exact .head hmove (extractLoop_moves kind rest _ _ hrest)
      split
      · exact .refl
      exact extractLoop_moves kind rest maxSize o fun t' ht' =>
        hact t' (mem_cons_of_mem _ ht')

lemma Bookkeeping.active_of_marked (h : Bookkeeping o) (kind : Retransmission) :
    ∀ tsn ∈ (o.chunks kind).keys, ∀ i, o.getItem tsn = some i → i.isAbandoned = false := by
  intro tsn htsn i hi
  have hmarked : o.toBeFastRetransmitted.contains tsn = true ∨ o.toBeRetransmitted.contains tsn = true := by
    cases kind with
    | fast => exact .inl (OrdMap.mem_keys.mp htsn)
    | normal => exact .inr (OrdMap.mem_keys.mp htsn)
  obtain ⟨i', hi', hto⟩ := (h.marks.exact tsn).mp hmarked
  cases hl : i.lifecycle <;> simp_all [Item.shouldBeRetransmitted, Item.isAbandoned]

end OutstandingData

namespace RetransmissionQueue

open OutstandingData

variable {t : TracedQueue}

def view (q : RetransmissionQueue) (t : TracedQueue) : View :=
  q.outstandingData.view (q.callbacks.filter isOutcome) t

lemma filter_fullySent (sent : Bool) (id : LifecycleId) :
    (if sent then [onLifecycleMessageFullySent id] else []).filter
      isOutcome = [] := by
  cases sent <;> rfl

variable (q : RetransmissionQueue)

lemma insertChunk_moves
    (hsnd : SendsChunk sid maxSize item rest d t t') (hlive : Live t') (now : Timestamp) :
    Moves (q.view t) ((q.insertChunk t' now d).2.1.view (q.insertChunk t' now d).2.2) ∧
      Live (q.insertChunk t' now d).2.2 := by
  obtain ⟨hmv, hlive'⟩ := insert_moves (r := q.callbacks.filter isOutcome)
    q.outstandingData hsnd hlive now
    (if q.partialReliability then d.maxRetransmissions else MaxRetransmits.noLimit)
    (if q.partialReliability then d.expiresAt else none)
  refine ⟨?_, hlive'⟩
  have hrep : (q.insertChunk t' now d).2.1.callbacks.filter isOutcome =
      q.callbacks.filter isOutcome := by
    unfold insertChunk
    rw [filter_append]
    exact (congrArg _ (filter_fullySent _ d.lifecycleId)).trans (append_nil _)
  unfold view
  rw [hrep]
  exact hmv

lemma sendLoop_moves (now : Timestamp) :
    ∀ (rounds limit : Nat) (q : RetransmissionQueue) (t : TracedQueue), Live t →
    Moves (q.view t) ((sendLoop now rounds limit q t).2.1.view
      (sendLoop now rounds limit q t).2.2) ∧ Live (sendLoop now rounds limit q t).2.2
  | 0, _, _, _, hlive => ⟨.refl, hlive⟩
  | rounds + 1, limit, q, t, hlive => by
    unfold sendLoop
    split
    swap
    · exact ⟨.refl, hlive⟩
    next hroom =>
    have hmax : 1 ≤ limit - q.dataChunkHeaderSize := by omega
    obtain ⟨hnone, hsome⟩ := hlive.numbered.produce_cases hlive.filed now hmax
    have hlive1 := hlive.produce now hmax
    have hproduce : SendQueue.produce t now (limit - q.dataChunkHeaderSize) =
      t.produce now (limit - q.dataChunkHeaderSize) := rfl
    rw [hproduce]
    generalize t.produce now (limit - q.dataChunkHeaderSize) = p at hnone hsome hlive1
    obtain ⟨chunk, t1⟩ := p
    cases chunk with
    | none => exact ⟨moves_changes (hnone rfl) .., hlive1⟩
    | some d =>
      obtain ⟨t0, sid, item, rest, hchg, hsnd⟩ := hsome d rfl
      dsimp only
      obtain ⟨hinsr, hlive2⟩ := insertChunk_moves (q.takeFromRwnd d.data.size) hsnd hlive1 now
      generalize (q.takeFromRwnd d.data.size).insertChunk t1 now d = p at hinsr hlive2
      obtain ⟨tsn, q2, t2⟩ := p
      obtain ⟨hrest, hlive3⟩ := sendLoop_moves now rounds
        (limit - q.getSerializedChunkSize d.data) q2 t2 hlive2
      have hall : Moves (q.view t) _ := (moves_changes hchg ..).trans (hinsr.trans hrest)
      cases tsn with
      | none => exact ⟨hall, hlive3⟩
      | some tsn => exact ⟨hall, hlive3⟩

lemma getChunksToSend_moves {q : RetransmissionQueue} (h : q.Booked) (hlive : Live t)
    (now : Timestamp) (room : Nat) :
    Moves (q.view t) ((q.getChunksToSend t now room).2.1.view
      (q.getChunksToSend t now room).2.2) ∧
      Live (q.getChunksToSend t now room).2.2 := by
  have hag := extractLoop_moves (r := q.callbacks.filter isOutcome) (t := t) .normal _
    (q.maxBytes room) _ (h.books.active_of_marked .normal)
  unfold getChunksToSend getChunksToBeRetransmitted extractChunksThatCanFit
  dsimp only
  generalize extractLoop .normal (q.outstandingData.chunks .normal).keys
    (q.maxBytes room) q.outstandingData = again at hag
  obtain ⟨retransmitted, o⟩ := again
  obtain ⟨hsend, hlive'⟩ := sendLoop_moves now (q.maxBytes room - q.serializedSize retransmitted)
    (q.maxBytes room - q.serializedSize retransmitted)
    { q with outstandingData := o } t hlive
  refine ⟨?_, hlive'⟩
  have hall : Moves (q.view t) _ := hag.trans hsend
  split <;> exact hall

lemma getChunksForFastRetransmit_moves {q : RetransmissionQueue}
    (h : q.outstandingData.Bookkeeping) (used : Nat) :
    Moves (q.view t) ((q.getChunksForFastRetransmit used).2.view t) :=
  extractLoop_moves (r := q.callbacks.filter isOutcome) (t := t) .fast _ used _
    (h.active_of_marked .fast)

lemma filter_lifecycleCallbacks (info : AckInfo) :
    (lifecycleCallbacks info).filter isOutcome = lifecycleCallbacks info := by
  refine filter_eq_self.mpr fun c hc => ?_
  simp only [lifecycleCallbacks, mem_append, mem_flatMap, mem_cons, not_mem_nil, or_false] at hc
  rcases hc with ⟨id, -, rfl | rfl⟩ | ⟨id, -, rfl | rfl⟩ <;> rfl

lemma handleSack_moves (hlive : Live t) (now : Timestamp) (sack : SackChunk) :
    Moves (q.view t) ((q.handleSack t now sack).2.1.view (q.handleSack t now sack).2.2) ∧
      Live (q.handleSack t now sack).2.2 := by
  by_cases hvalid : q.isSackValid sack = true
  · obtain ⟨recovering, ho, hc, hs⟩ := books_handleSack hvalid t now
    unfold view
    rw [ho, hc, hs, filter_append, filter_lifecycleCallbacks]
    exact OutstandingData.handleSack_moves q.outstandingData _ _ _ hlive
  have heq : q.handleSack t now sack = (⟨false, none, false⟩, q, t) := by
    unfold handleSack
    rw [if_neg hvalid]
  rw [heq]
  exact ⟨.refl, hlive⟩

lemma shouldSendForwardTsn_moves (hlive : Live t) (now : Timestamp) :
    Moves (q.view t) ((q.shouldSendForwardTsn t now).2.1.view (q.shouldSendForwardTsn t now).2.2) ∧
      Live (q.shouldSendForwardTsn t now).2.2 := by
  unfold shouldSendForwardTsn
  split
  · exact expireLoop_moves now _ q.outstandingData t hlive
  · exact ⟨.refl, hlive⟩

end RetransmissionQueue

/-! ## Runs -/

structure SendSide where
  rtx : RetransmissionQueue
  queue : TracedQueue

/-- What is done to the two queues. `RRSendQueue::Produce` and `Discard` are called by the
retransmission queue only. When a SACK has been handled, the chunks for fast retransmission are
fetched if there are any, as the transmission control block does. -/
inductive SendEvent where
  | add (now : Timestamp) (message : DcSctpMessage) (sendOptions : SendOptions)
  | setStreamPriority (streamId : StreamID) (priority : Nat)
  | prepareResetStream (streamId : StreamID)
  | beginResetStreams
  | commitResetStreams
  | rollbackResetStreams
  | getChunksToSend (now : Timestamp) (bytesRemainingInPacket : Nat)
  | handleSack (now : Timestamp) (sack : SackChunk) (bytesInPacket : Nat)
  | handleT3RtxTimerExpiry
  | shouldSendForwardTsn (now : Timestamp)

/-- `RRSendQueue::Add` asserts that the message is not empty. -/
def SendEvent.Ok : SendEvent → Prop
  | .add _ message _ => message.payload ≠ []
  | _ => True

instance (e : SendEvent) : Decidable e.Ok := by
  cases e <;> unfold SendEvent.Ok <;> infer_instance

namespace SendSide

/-- The expiry of lifetimes appends nothing to the deque that it iterates over. -/
def InPlace (s : SendSide) : SendEvent → Prop
  | .shouldSendForwardTsn now =>
    (s.rtx.shouldSendForwardTsn s.queue now).2.1.outstandingData.outstandingData.length =
      s.rtx.outstandingData.outstandingData.length
  | _ => True

instance (s : SendSide) : ∀ e, Decidable (s.InPlace e)
  | .shouldSendForwardTsn _ => inferInstanceAs (Decidable (_ = _))
  | .add .. | .setStreamPriority .. | .prepareResetStream _ | .beginResetStreams | .commitResetStreams
  | .rollbackResetStreams | .getChunksToSend .. | .handleSack .. | .handleT3RtxTimerExpiry =>
    isTrue trivial

/-- What is defined in the source: `RRSendQueue::Add` gets a message, and no iterator is used that
has become invalid. -/
def Defined (s : SendSide) (e : SendEvent) : Prop := e.Ok ∧ s.InPlace e

instance (s : SendSide) (e : SendEvent) : Decidable (s.Defined e) :=
  inferInstanceAs (Decidable (_ ∧ _))

def new (myInitialTsn : TSN) (aRwnd : BitVec 32) (options : DcSctpOptions)
    (partialReliability interleaving : Bool) : SendSide where
  rtx := .new myInitialTsn aRwnd options partialReliability interleaving
  queue := { queue := (RRSendQueue.new options.mtu options.defaultStreamPriority
    options.totalBufferedAmountLowThreshold).enableMessageInterleaving interleaving }

def step (s : SendSide) : SendEvent → SendSide
  | .add now message sendOptions => { s with queue := s.queue.add now message sendOptions }
  | .setStreamPriority streamId priority =>
    { s with queue := { s.queue with queue := s.queue.queue.setStreamPriority streamId priority } }
  | .prepareResetStream streamId => { s with queue := SendQueue.prepareResetStream s.queue streamId }
  | .beginResetStreams =>
    let (_, rtx, queue) := s.rtx.beginResetStreams s.queue
    ⟨rtx, queue⟩
  | .commitResetStreams => { s with queue := SendQueue.commitResetStreams s.queue }
  | .rollbackResetStreams => { s with queue := SendQueue.rollbackResetStreams s.queue }
  | .getChunksToSend now bytesRemainingInPacket =>
    let (_, rtx, queue) := s.rtx.getChunksToSend s.queue now bytesRemainingInPacket
    ⟨rtx, queue⟩
  | .handleSack now sack bytesInPacket =>
    let (_, rtx, queue) := s.rtx.handleSack s.queue now sack
    if rtx.outstandingData.hasDataToBeFastRetransmitted then
      ⟨(rtx.getChunksForFastRetransmit bytesInPacket).2, queue⟩
    else ⟨rtx, queue⟩
  | .handleT3RtxTimerExpiry =>
    let (rtx, queue) := s.rtx.handleT3RtxTimerExpiry s.queue
    ⟨rtx, queue⟩
  | .shouldSendForwardTsn now =>
    let (_, rtx, queue) := s.rtx.shouldSendForwardTsn s.queue now
    ⟨rtx, queue⟩

def plainStep (s : RetransmissionQueue × RRSendQueue) : SendEvent → RetransmissionQueue × RRSendQueue
  | .add now message sendOptions => (s.1, s.2.add now message sendOptions)
  | .setStreamPriority streamId priority => (s.1, s.2.setStreamPriority streamId priority)
  | .prepareResetStream streamId => (s.1, s.2.prepareResetStream streamId)
  | .beginResetStreams => (s.1.beginResetStreams s.2).2
  | .commitResetStreams => (s.1, s.2.commitResetStreams)
  | .rollbackResetStreams => (s.1, s.2.rollbackResetStreams)
  | .getChunksToSend now bytesRemainingInPacket => (s.1.getChunksToSend s.2 now bytesRemainingInPacket).2
  | .handleSack now sack bytesInPacket =>
    let (_, rtx, queue) := s.1.handleSack s.2 now sack
    if rtx.outstandingData.hasDataToBeFastRetransmitted then
      ((rtx.getChunksForFastRetransmit bytesInPacket).2, queue)
    else (rtx, queue)
  | .handleT3RtxTimerExpiry => s.1.handleT3RtxTimerExpiry s.2
  | .shouldSendForwardTsn now => (s.1.shouldSendForwardTsn s.2 now).2

def plain (s : SendSide) : RetransmissionQueue × RRSendQueue := (s.rtx, s.queue.queue)

def added : SendEvent → List (DcSctpMessage × SendOptions)
  | .add _ message sendOptions => [(message, sendOptions)]
  | _ => []

def Follows (messages : List (DcSctpMessage × SendOptions)) (t : TracedQueue) (q : RRSendQueue) : Prop :=
  t.queue = q ∧ t.messages = messages

lemma simulates_follows (msgs : List (DcSctpMessage × SendOptions)) :
    SendQueue.Simulates (Follows msgs) := by
  refine ⟨?_, ?_⟩
  · rintro t _ now maxSize ⟨rfl, hm⟩
    show Agree _ (t.produce now maxSize) (t.queue.produce now maxSize)
    unfold produce
    generalize t.queue.produce now maxSize = p
    obtain ⟨d, q⟩ := p
    cases d with
    | none | some d => exact ⟨rfl, rfl, hm⟩
  rintro t _ sid messageId ⟨rfl, hm⟩
  show Agree _ (t.discard sid messageId) (t.queue.discard sid messageId)
  unfold TracedQueue.discard
  generalize t.queue.discard sid messageId = p
  obtain ⟨b, q⟩ := p
  cases b with
  | false | true => exact ⟨rfl, rfl, hm⟩

/-- **The record does not change what the queues do**, and only `Add` adds a message to it. -/
lemma step_plain (s : SendSide) (e : SendEvent) : (s.step e).plain = plainStep s.plain e ∧
    (s.step e).queue.messages = s.queue.messages ++ added e := by
  have hsim := simulates_follows s.queue.messages
  have hnow : Follows s.queue.messages s.queue s.queue.queue := ⟨rfl, rfl⟩
  have hsame : s.queue.messages ++ [] = s.queue.messages := append_nil _
  cases e with
  | add now message sendOptions => exact ⟨rfl, rfl⟩
  | setStreamPriority streamId priority | prepareResetStream streamId | beginResetStreams
  | commitResetStreams | rollbackResetStreams => exact ⟨rfl, hsame.symm⟩
  | getChunksToSend now bytesRemainingInPacket =>
    obtain ⟨-, h1, h2, h3⟩ := getChunksToSend_agree hsim s.rtx hnow now bytesRemainingInPacket
    exact ⟨Prod.ext h1 h2, h3.trans hsame.symm⟩
  | handleSack now sack bytesInPacket =>
    obtain ⟨-, h1, h2, h3⟩ := handleSack_agree hsim s.rtx hnow now sack
    simp only [step, plainStep, plain, ← h1, ← h2]
    split
    · exact ⟨rfl, h3.trans hsame.symm⟩
    · exact ⟨rfl, h3.trans hsame.symm⟩
  | handleT3RtxTimerExpiry =>
    obtain ⟨h1, h2, h3⟩ := handleT3RtxTimerExpiry_agree hsim s.rtx hnow
    exact ⟨Prod.ext h1 h2, h3.trans hsame.symm⟩
  | shouldSendForwardTsn now =>
    obtain ⟨-, h1, h2, h3⟩ := shouldSendForwardTsn_agree hsim s.rtx hnow now
    exact ⟨Prod.ext h1 h2, h3.trans hsame.symm⟩

lemma run_plain (events : List SendEvent) : ∀ s : SendSide,
    (run step s events).plain = run plainStep s.plain events ∧
      (run step s events).queue.messages = s.queue.messages ++ events.flatMap added := by
  induction events with
  | nil =>
    intro s
    exact ⟨rfl, (append_nil _).symm⟩
  | cons e events ih =>
    intro s
    obtain ⟨hplain, hmsgs⟩ := step_plain s e
    rw [run_cons, run_cons, (ih (s.step e)).1, (ih (s.step e)).2, hplain, hmsgs,
      flatMap_cons, append_assoc]
    exact ⟨rfl, rfl⟩

def view (s : SendSide) : View := s.rtx.view s.queue

structure Ready (s : SendSide) : Prop where
  booked : s.rtx.Booked
  live : Live s.queue

lemma live_new (mtu prio thr : Nat) (inter : Bool) :
    Live ⟨(RRSendQueue.new mtu prio thr).enableMessageInterleaving inter, [],
      fun _ => [], []⟩ := by
  have hsound := RRSendQueue.sound_new mtu prio thr inter
  exact ⟨⟨hsound.contents, rfl, fun _ => .nil, fun _ => .nil, fun _ hg => absurd hg not_mem_nil⟩,
    hsound.filed⟩

lemma ready_new (myTsn : TSN) (aRwnd : BitVec 32) (options : DcSctpOptions)
    (partialRel inter : Bool) :
    Ready (new myTsn aRwnd options partialRel inter) :=
  ⟨booked_new .., live_new ..⟩

variable {s : SendSide}

lemma Ready.changes (h : s.Ready) {t : TracedQueue} (hc : Changes s.queue t)
    (hs : RRSendQueue.Sound t.queue) :
    Moves s.view (SendSide.view ⟨s.rtx, t⟩) ∧ Ready ⟨s.rtx, t⟩ :=
  ⟨moves_changes hc .., h.booked, h.live.of_changes hc hs⟩

lemma step_moves (h : s.Ready) {e : SendEvent} (hok : e.Ok) :
    Moves s.view (s.step e).view ∧ (s.step e).Ready := by
  cases e with
  | add now message sendOptions =>
    exact h.changes (.single (change_add s.queue now hok sendOptions))
      (h.live.sound.add now hok sendOptions)
  | setStreamPriority streamId priority =>
    have hqui := RRSendQueue.quiet_setStreamPriority s.queue.queue streamId priority
    exact h.changes (.single (change_still (.expiry hqui.expiry) hqui.still))
      (h.live.sound.setStreamPriority streamId priority)
  | prepareResetStream streamId =>
    exact h.changes (h.live.numbered.changes_prepareResetStream streamId)
      (h.live.sound.prepareResetStream streamId)
  | beginResetStreams =>
    have hc := Numbered.changes_getStreamsReadyToBeReset s.queue
    exact ⟨moves_changes hc .., h.booked.beginResetStreams s.queue,
      h.live.of_changes hc h.live.sound.getStreamsReadyToBeReset⟩
  | commitResetStreams =>
    exact h.changes h.live.numbered.changes_commitResetStreams h.live.sound.commitResetStreams
  | rollbackResetStreams =>
    exact h.changes h.live.numbered.changes_rollbackResetStreams h.live.sound.rollbackResetStreams
  | getChunksToSend now bytesRemainingInPacket =>
    obtain ⟨hmv, hlive⟩ := getChunksToSend_moves h.booked h.live now bytesRemainingInPacket
    exact ⟨hmv, (h.booked.getChunksToSend s.queue now bytesRemainingInPacket).1, hlive⟩
  | handleSack now sack bytesInPacket =>
    obtain ⟨hmv, hlive⟩ := handleSack_moves s.rtx h.live now sack
    obtain ⟨hbooks, -⟩ := h.booked.handleSack s.queue now sack
    unfold step
    dsimp only
    split
    · exact ⟨hmv.trans (getChunksForFastRetransmit_moves hbooks bytesInPacket),
        (booked_getChunksForFastRetransmit hbooks bytesInPacket).1, hlive⟩
    next hnone =>
    refine ⟨hmv, ⟨hbooks, OrdMap.isEmpty_iff.mp ?_⟩, hlive⟩
    simpa [OutstandingData.hasDataToBeFastRetransmitted] using hnone
  | handleT3RtxTimerExpiry =>
    obtain ⟨hmv, hlive⟩ := OutstandingData.nackAll_moves
      (r := s.rtx.callbacks.filter isOutcome) s.rtx.outstandingData h.live
    exact ⟨hmv, h.booked.handleT3RtxTimerExpiry s.queue, hlive⟩
  | shouldSendForwardTsn now =>
    obtain ⟨hmv, hlive⟩ := shouldSendForwardTsn_moves s.rtx h.live now
    exact ⟨hmv, (h.booked.shouldSendForwardTsn s.queue now).1, hlive⟩

lemma lost_step (h : s.Ready) {e : SendEvent} (hplace : s.InPlace e) :
    (s.step e).rtx.outstandingData.iteratorsLost = s.rtx.outstandingData.iteratorsLost := by
  cases e with
  | add | setStreamPriority | prepareResetStream | beginResetStreams | commitResetStreams
  | rollbackResetStreams => rfl
  | getChunksToSend now bytesRemainingInPacket =>
    exact (h.booked.getChunksToSend s.queue now bytesRemainingInPacket).2
  | handleSack now sack bytesInPacket =>
    obtain ⟨hbooks, -, hlost⟩ := h.booked.handleSack s.queue now sack
    unfold step
    dsimp only
    split
    · exact (booked_getChunksForFastRetransmit hbooks bytesInPacket).2.trans hlost
    · exact hlost
  | handleT3RtxTimerExpiry => exact (OutstandingData.nackAll_spec _ h.booked.books s.queue).2.lost
  | shouldSendForwardTsn now =>
    unfold InPlace at hplace
    unfold step
    unfold RetransmissionQueue.shouldSendForwardTsn at hplace ⊢
    dsimp only at hplace ⊢
    split at hplace
    · rw [if_pos ‹_›]
      exact (OutstandingData.expireLoop_inPlace _ now _ _ s.queue h.booked.books).2 hplace
    · rw [if_neg ‹_›]

lemma Along.ok {events : List SendEvent} (h : Along step Defined s events) : ∀ e ∈ events, e.Ok := by
  induction events generalizing s with
  | nil => simp
  | cons e events ih => exact List.forall_mem_cons.mpr ⟨h.1.1, ih h.2⟩

/-- In a run of defined events the model meets nothing that the source leaves undefined. -/
lemma fault_run (h : s.Ready) (hsound : s.rtx.outstandingData.iteratorsLost = false)
    {events : List SendEvent} (hok : Along step Defined s events) :
    (run step s events).rtx.outstandingData.fault = false := by
  obtain ⟨hready, hlost⟩ := run_induction_along
    (P := fun s : SendSide => s.Ready ∧ s.rtx.outstandingData.iteratorsLost = false)
    (fun s e h hok => ⟨(step_moves h.1 hok.1).2, (lost_step h.1 hok.2).trans h.2⟩) events s
    ⟨h, hsound⟩ hok
  exact hready.booked.books.counts.sound.trans hlost

lemma run_moves (h : s.Ready) {events : List SendEvent} (hok : ∀ e ∈ events, e.Ok) :
    Moves s.view (run step s events).view ∧ (run step s events).Ready := by
  refine run_induction_mem (P := fun s' : SendSide => Moves s.view s'.view ∧ s'.Ready) ?_ ⟨.refl, h⟩
  intro s' e he hs
  obtain ⟨hmv, hready⟩ := step_moves hs.2 (hok e he)
  exact ⟨hs.1.trans hmv, hready⟩

end SendSide

end WebRtc.Dcsctp
