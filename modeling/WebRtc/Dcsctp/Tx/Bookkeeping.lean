import WebRtc.Dcsctp.Tx.OutstandingData
import WebRtc.Lib.Run

/-!
# dcSCTP — the bookkeeping of OutstandingData

`Counts` says that the counters are the totals over the items in flight, `Marks` that the sets hold
the TSNs of the items marked for retransmission, each in one of them. Every operation is made of a
few moves (an item is added, replaced or removed), with one lemma for each.
-/

namespace WebRtc.Dcsctp

open Lib Numerics OrdMap Function MaxRetransmits

namespace OutstandingData

/-! ## The deque by TSN -/

variable {i : Item} {o : OutstandingData} {tsn : Int}

lemma getItem_eq_some :
    o.getItem tsn = some i ↔
      o.lastCumulativeTsnAck < tsn ∧ o.outstandingData[o.indexOf tsn]? = some i := by
  simp [getItem]

lemma getItem_isSome :
    (∃ i, o.getItem tsn = some i) ↔ o.lastCumulativeTsnAck < tsn ∧ tsn < o.nextTsn := by
  simp only [getItem_eq_some, exists_and_left, nextTsn, highestOutstandingTsn, indexOf]
  constructor
  · rintro ⟨hlt, i, hi⟩
    have hlen := (List.getElem?_eq_some_iff.mp hi).1
    exact ⟨hlt, by omega⟩
  · rintro ⟨hlt, hnext⟩
    exact ⟨hlt, _, List.getElem?_eq_getElem (by omega)⟩

lemma mem_of_getItem (h : o.getItem tsn = some i) :
    i ∈ o.outstandingData := List.mem_of_getElem? (getItem_eq_some.mp h).2

lemma mem_tsnRange {first last : Int} : tsn ∈ tsnRange first last ↔ first ≤ tsn ∧ tsn ≤ last := by
  simp only [tsnRange, List.mem_map, List.mem_range]
  constructor
  · rintro ⟨k, hk, rfl⟩
    omega
  rintro ⟨hfirst, hlast⟩
  exact ⟨(tsn - first).toNat, by omega, by omega⟩

lemma mem_tsns : tsn ∈ o.tsns ↔ ∃ i, o.getItem tsn = some i := by
  rw [getItem_isSome, tsns, mem_tsnRange, nextTsn]
  omega

lemma getItem_setItem (h : o.getItem tsn = some i)
    (i' : Item) : (o.setItem tsn i').getItem = Function.update o.getItem tsn (some i') := by
  obtain ⟨hlt, hi⟩ := getItem_eq_some.mp h
  have hlen := (List.getElem?_eq_some_iff.mp hi).1
  funext t
  by_cases ht : t = tsn
  · subst ht
    rw [update_self, getItem_eq_some]
    exact ⟨hlt, List.getElem?_set_self hlen⟩
  rw [update_of_ne ht]
  by_cases hlast : o.lastCumulativeTsnAck < t
  · have hne : o.indexOf tsn ≠ o.indexOf t := by
      simp only [indexOf]
      omega
    have hidx : (o.setItem tsn i').indexOf t = o.indexOf t := rfl
    rw [getItem, getItem, if_pos hlast, hidx]
    exact (if_pos hlast).trans (List.getElem?_set_ne hne)
  · exact (if_neg hlast).trans (if_neg hlast).symm

lemma getItem_emplaceBack (o : OutstandingData) (i : Item) :
    (o.emplaceBack i).getItem = Function.update o.getItem o.nextTsn (some i) := by
  funext t
  by_cases ht : t = o.nextTsn
  · subst ht
    rw [update_self, getItem_eq_some]
    have hidx : (o.emplaceBack i).indexOf o.nextTsn = o.outstandingData.length := by
      simp only [emplaceBack, indexOf, nextTsn, highestOutstandingTsn]
      omega
    refine ⟨by simp only [emplaceBack, nextTsn, highestOutstandingTsn]; omega, ?_⟩
    rw [hidx]
    simp [emplaceBack]
  rw [update_of_ne ht]
  by_cases hlast : o.lastCumulativeTsnAck < t
  · have hidx : (o.emplaceBack i).indexOf t = o.indexOf t := rfl
    have hne : o.indexOf t ≠ o.outstandingData.length := by
      simp only [indexOf, nextTsn, highestOutstandingTsn] at ht ⊢
      omega
    rw [getItem, getItem, if_pos hlast, hidx]
    refine (if_pos hlast).trans ?_
    simp only [emplaceBack, List.getElem?_append]
    split
    · rfl
    rw [List.getElem?_eq_none (by simp only [List.length_singleton]; omega),
      List.getElem?_eq_none (by omega)]
  · exact (if_neg hlast).trans (if_neg hlast).symm

lemma getItem_popFront :
    o.popFront.getItem = Function.update o.getItem (o.lastCumulativeTsnAck + 1) none := by
  funext t
  by_cases ht : t = o.lastCumulativeTsnAck + 1
  · subst ht
    rw [update_self]
    exact if_neg (by simp [popFront])
  rw [update_of_ne ht]
  by_cases hlast : o.lastCumulativeTsnAck < t
  · have hidx : o.indexOf t = o.popFront.indexOf t + 1 := by
      simp only [indexOf, popFront]
      omega
    rw [getItem, getItem, if_pos hlast, hidx]
    refine (if_pos (by simp only [popFront]; omega)).trans ?_
    simp [popFront]
  · rw [getItem, getItem, if_neg hlast]
    exact if_neg (by simp only [popFront]; omega)

/-! ## The counters -/

/-- The counters of `o` are the totals over the items in flight among `items`. -/
structure Counts (o : OutstandingData) (items : List Item) : Prop where
  payload : o.unackedPayloadBytes = inFlight (fun i => i.data.size) items
  packet : o.unackedPacketBytes = inFlight (fun i => o.getSerializedChunkSize i.data) items
  number : o.unackedItems = inFlight (fun _ => 1) items
  sound : o.fault = o.iteratorsLost

variable {items : List Item}

lemma Counts.snoc (h : Counts o items)
    (hi : i.isOutstanding = false) : Counts o (items ++ [i]) := by
  have hshare : ∀ w, share Item.isOutstanding w i = 0 := fun w => share_of_not hi
  refine ⟨?_, ?_, ?_, h.sound⟩ <;> simp only [inFlight, tally_snoc, hshare, Nat.add_zero]
  · exact h.payload
  · exact h.packet
  · exact h.number

lemma Counts.tail
    (h : Counts o (i :: items)) (hi : i.isOutstanding = false) : Counts o items := by
  have hshare : ∀ w, share Item.isOutstanding w i = 0 := fun w => share_of_not hi
  obtain ⟨h1, h2, h3, h4⟩ := h
  simp only [inFlight, tally_cons, hshare, Nat.zero_add] at h1 h2 h3
  exact ⟨h1, h2, h3, h4⟩

lemma Counts.enterFlight_snoc (h : Counts o items) (hi : i.isOutstanding = true) :
    Counts (o.enterFlight i.data) (items ++ [i]) := by
  refine ⟨?_, ?_, ?_, h.sound⟩
  · simp only [inFlight, tally_snoc, share_of hi, enterFlight, h.payload]
  · simp only [inFlight, tally_snoc, share_of hi, enterFlight, h.packet, getSerializedChunkSize]
  · simp only [inFlight, tally_snoc, share_of hi, enterFlight, h.number]

lemma Counts.set (h : Counts o items) {n : Nat} (hi : items[n]? = some i)
    (i' : Item) (hsame : i'.isOutstanding = i.isOutstanding) (hdata : i'.data = i.data) :
    Counts o (items.set n i') := by
  have hset (w : Item → Nat) (hw : w i' = w i) : inFlight w (items.set n i') = inFlight w items := by
    have := tally_set (p := Item.isOutstanding) (w := w) (b := i') hi
    simp only [share, hsame, hw] at this
    exact Nat.add_right_cancel this
  refine ⟨?_, ?_, ?_, h.sound⟩
  · rw [hset _ (by simp only [hdata]), h.payload]
  · rw [hset _ (by simp only [hdata]), h.packet]
  · rw [hset _ rfl, h.number]

lemma Counts.settle (h : Counts o items) {n : Nat} (hi : items[n]? = some i)
    (i' : Item) (hi' : i'.isOutstanding = false) : Counts (o.settle i) (items.set n i') := by
  have hset : ∀ w, inFlight w (items.set n i') + share Item.isOutstanding w i =
      inFlight w items := by
    intro w
    have := tally_set (p := Item.isOutstanding) (w := w) (b := i') hi
    rwa [share_of_not hi', Nat.add_zero] at this
  unfold OutstandingData.settle
  by_cases hout : i.isOutstanding = true
  · have h1 := hset fun i => i.data.size
    have h2 := hset fun i => o.getSerializedChunkSize i.data
    have h3 := hset fun _ => 1
    simp only [share_of hout, ← h.payload, ← h.packet, ← h.number] at h1 h2 h3
    rw [if_pos hout]
    refine ⟨?_, ?_, ?_, ?_⟩
    · show o.unackedPayloadBytes - i.data.size = _
      omega
    · show o.unackedPacketBytes - o.getSerializedChunkSize i.data =
        inFlight (fun i => o.getSerializedChunkSize i.data) (items.set n i')
      omega
    · show o.unackedItems - 1 = _
      omega
    -- no counter is smaller than what it loses, so no fault is added
    simp [leaveFlight, h.sound, ← h1, ← h2, ← h3]
  · rw [Bool.not_eq_true] at hout
    rw [if_neg (by simp [hout])]
    have hz : ∀ w, inFlight w (items.set n i') = inFlight w items := by
      intro w
      have := hset w
      rwa [share_of_not hout, Nat.add_zero] at this
    exact ⟨by rw [hz, h.payload], by rw [hz, h.packet], by rw [hz, h.number], h.sound⟩

lemma Counts.enterFlight_set (h : Counts o items)
    {n : Nat} (hi : items[n]? = some i) (i' : Item) (hout : i.isOutstanding = false)
    (hi' : i'.isOutstanding = true) (hdata : i'.data = i.data) :
    Counts (o.enterFlight i.data) (items.set n i') := by
  have hset : ∀ w, inFlight w (items.set n i') = inFlight w items + w i' := by
    intro w
    have := tally_set (p := Item.isOutstanding) (w := w) (b := i') hi
    rwa [share_of_not hout, share_of hi', Nat.add_zero] at this
  refine ⟨?_, ?_, ?_, h.sound⟩
  · rw [hset, hdata, ← h.payload]
    rfl
  · rw [hset, hdata]
    exact congrArg (· + o.getSerializedChunkSize i.data) h.packet
  rw [hset, ← h.number]
  rfl

/-! ## The two sets -/

/-- The sets hold the TSNs of the items that are marked for retransmission, each in
one of them, and only items that were nacked are marked. -/
structure Marks (fast normal : OrdSet Int) (item : Int → Option Item) : Prop where
  exact : ∀ tsn, fast.contains tsn = true ∨ normal.contains tsn = true ↔
    ∃ i, item tsn = some i ∧ i.shouldBeRetransmitted = true
  disjoint : ∀ tsn, fast.contains tsn = true → normal.contains tsn = false
  nacked : ∀ tsn i, item tsn = some i → i.shouldBeRetransmitted = true → i.isNacked = true

lemma Marks.update {fast normal fast' normal' : OrdSet Int} {item : Int → Option Item}
    (h : Marks fast normal item) (tsn : Int) (i : Option Item)
    (hfast : ∀ t, t ≠ tsn → fast'.contains t = fast.contains t)
    (hnormal : ∀ t, t ≠ tsn → normal'.contains t = normal.contains t)
    (hexact : fast'.contains tsn = true ∨ normal'.contains tsn = true ↔
      ∃ j, i = some j ∧ j.shouldBeRetransmitted = true)
    (hdisj : fast'.contains tsn = true → normal'.contains tsn = false)
    (hnacked : ∀ j, i = some j → j.shouldBeRetransmitted = true → j.isNacked = true) :
    Marks fast' normal' (Function.update item tsn i) := by
  refine ⟨fun t => ?_, fun t => ?_, fun t => ?_⟩ <;> by_cases ht : t = tsn
  · subst ht
    rwa [update_self]
  · rw [update_of_ne ht, hfast t ht, hnormal t ht]
    exact h.exact t
  · subst ht
    exact hdisj
  · rw [hfast t ht, hnormal t ht]
    exact h.disjoint t
  · subst ht
    rw [update_self]
    exact hnacked
  · rw [update_of_ne ht]
    exact h.nacked t

section Unmarked

variable {fast normal : OrdSet Int} {item : Int → Option Item} (h : Marks fast normal item)
include h

lemma Marks.not_marked (hi : ∀ i, item tsn = some i → i.shouldBeRetransmitted = false) :
    fast.contains tsn = false ∧ normal.contains tsn = false := by
  rw [← Bool.not_eq_true, ← Bool.not_eq_true, ← not_or, h.exact tsn]
  rintro ⟨i, hi', hm⟩
  simp [hi i hi'] at hm

lemma Marks.unmarked (tsn : Int) (i' : Option Item)
    (hi : ∀ i, item tsn = some i → i.shouldBeRetransmitted = false)
    (hi' : ∀ i, i' = some i → i.shouldBeRetransmitted = false) :
    Marks fast normal (Function.update item tsn i') := by
  refine h.update tsn i' (fun _ _ => rfl) (fun _ _ => rfl) ?_ ?_ ?_
  · simp only [h.not_marked hi, Bool.false_eq_true, or_self, false_iff]
    rintro ⟨i, hi'', hm⟩
    simp [hi' i hi''] at hm
  · simp [h.not_marked hi]
  · intro j hj hm
    simp [hi' j hj] at hm

end Unmarked

structure Bookkeeping (o : OutstandingData) : Prop where
  counts : Counts o o.outstandingData
  marks : Marks o.toBeFastRetransmitted o.toBeRetransmitted o.getItem

/-! ## What happens to one item -/

namespace Item

variable (i : Item)

@[simp] lemma shouldBeRetransmitted_ack : i.ack.shouldBeRetransmitted = false := by
  cases h : i.lifecycle <;> simp [ack, shouldBeRetransmitted, isAbandoned, h]

lemma isOutstanding_of_isNacked {i : Item} (h : i.isNacked = true) : i.isOutstanding = false := by
  cases hs : i.ackState <;> simp_all [isNacked, isOutstanding]

lemma shouldBeRetransmitted_of_isAbandoned {i : Item} (h : i.isAbandoned = true) :
    i.shouldBeRetransmitted = false := by
  cases hs : i.lifecycle <;> simp_all [isAbandoned, shouldBeRetransmitted]

inductive Nacked (i : Item) : Item → NackAction → Prop where
  | nothing (i' : Item) (hout : i'.isNacked = true) (hdata : i'.data = i.data)
      (hmark : i'.shouldBeRetransmitted = i.shouldBeRetransmitted) : Nacked i i' .nothing
  | retransmit (i' : Item) (hout : i'.isNacked = true) (hdata : i'.data = i.data)
      (hunmarked : i.shouldBeRetransmitted = false) (hmark : i'.shouldBeRetransmitted = true) :
      Nacked i i' .retransmit
  | abandon (i' : Item) (hout : i'.isNacked = true) (hdata : i'.data = i.data)
      (hunmarked : i.shouldBeRetransmitted = false) (hmark : i'.isAbandoned = true) :
      Nacked i i' .abandon

lemma nack_spec (atOnce : Bool) :
    Nacked i (i.nack atOnce).1 (i.nack atOnce).2 := by
  unfold nack
  dsimp only
  split
  · rename_i hlost
    have hunmarked : i.shouldBeRetransmitted = false := by
      have := (Bool.and_eq_true_iff.mp (Bool.and_eq_true_iff.mp hlost).1).1
      simpa [shouldBeRetransmitted] using this
    split
    · exact .retransmit _ rfl rfl hunmarked rfl
    · exact .abandon _ rfl rfl hunmarked rfl
  · exact .nothing _ rfl rfl rfl

end Item

/-! ## What operations leave alone -/

structure Extends (o o' : OutstandingData) : Prop where
  header : o'.dataChunkHeaderSize = o.dataChunkHeaderSize
  lost : o'.iteratorsLost = o.iteratorsLost
  last : o'.lastCumulativeTsnAck = o.lastCumulativeTsnAck
  data : ∀ tsn i, o.getItem tsn = some i → ∃ i', o'.getItem tsn = some i' ∧ i'.data = i.data

variable {o' : OutstandingData}

namespace Extends

lemma refl (o : OutstandingData) : Extends o o := ⟨rfl, rfl, rfl, fun _ i h => ⟨i, h, rfl⟩⟩

lemma trans {a b c : OutstandingData} (h : Extends a b) (h' : Extends b c) : Extends a c := by
  refine ⟨h'.header.trans h.header, h'.lost.trans h.lost, h'.last.trans h.last, fun tsn i hi => ?_⟩
  obtain ⟨i1, h1, hd1⟩ := h.data tsn i hi
  obtain ⟨i2, h2, hd2⟩ := h'.data tsn i1 h1
  exact ⟨i2, h2, hd2.trans hd1⟩

lemma of_update {o : OutstandingData} {i' : Item}
    (hheader : o'.dataChunkHeaderSize = o.dataChunkHeaderSize)
    (hlost : o'.iteratorsLost = o.iteratorsLost)
    (hlast : o'.lastCumulativeTsnAck = o.lastCumulativeTsnAck)
    (hitem : o'.getItem = Function.update o.getItem tsn (some i'))
    (hdata : ∀ i, o.getItem tsn = some i → i'.data = i.data) : Extends o o' := by
  refine ⟨hheader, hlost, hlast, fun t i hi => ?_⟩
  rw [hitem]
  by_cases ht : t = tsn
  · subst ht
    exact ⟨i', by rw [update_self], hdata i hi⟩
  · exact ⟨i, by rw [update_of_ne ht, hi], rfl⟩

lemma of_replace {o : OutstandingData} {i' : Item} (hi : o.getItem tsn = some i)
    (hheader : o'.dataChunkHeaderSize = o.dataChunkHeaderSize)
    (hlost : o'.iteratorsLost = o.iteratorsLost)
    (hlast : o'.lastCumulativeTsnAck = o.lastCumulativeTsnAck)
    (hitem : o'.getItem = Function.update o.getItem tsn (some i')) (hdata : i'.data = i.data) :
    Extends o o' :=
  of_update hheader hlost hlast hitem fun _ hj => by cases hi.symm.trans hj; exact hdata

lemma isSome {o : OutstandingData} (h : Extends o o')
    (hi : ∃ i, o.getItem tsn = some i) : ∃ i, o'.getItem tsn = some i := by
  obtain ⟨i, hi⟩ := hi
  obtain ⟨i', hi', -⟩ := h.data tsn i hi
  exact ⟨i', hi'⟩

end Extends

/-! ## Acknowledging -/

lemma getItem_congr (hitm : o'.outstandingData = o.outstandingData)
    (hlast : o'.lastCumulativeTsnAck = o.lastCumulativeTsnAck) : o'.getItem = o.getItem := by
  funext tsn
  simp only [getItem, indexOf, hitm, hlast]

lemma Bookkeeping.replace (hi : o.getItem tsn = some i) (o1 : OutstandingData) (i' : Item)
    (hitm : o1.outstandingData = o.outstandingData)
    (hlast : o1.lastCumulativeTsnAck = o.lastCumulativeTsnAck)
    (hcount : Counts o1 (o.outstandingData.set (o.indexOf tsn) i'))
    (hmrk : Marks o1.toBeFastRetransmitted o1.toBeRetransmitted
      (Function.update o.getItem tsn (some i'))) :
    Bookkeeping (o1.setItem tsn i') ∧
      (o1.setItem tsn i').getItem = Function.update o.getItem tsn (some i') := by
  have hset : (o1.setItem tsn i').outstandingData = o.outstandingData.set (o.indexOf tsn) i' := by
    simp only [setItem, indexOf, hitm, hlast]
  have hget : (o1.setItem tsn i').getItem = update o.getItem tsn (some i') := by
    rw [← getItem_setItem hi i']
    exact getItem_congr hset hlast
  refine ⟨⟨?_, hget ▸ hmrk⟩, hget⟩
  rw [hset]
  exact ⟨hcount.payload, hcount.packet, hcount.number, hcount.sound⟩

@[simp] lemma settle_others (o : OutstandingData) (i : Item) :
    (o.settle i).toBeFastRetransmitted = o.toBeFastRetransmitted ∧
      (o.settle i).toBeRetransmitted = o.toBeRetransmitted ∧
      (o.settle i).outstandingData = o.outstandingData ∧
      (o.settle i).lastCumulativeTsnAck = o.lastCumulativeTsnAck ∧
      (o.settle i).dataChunkHeaderSize = o.dataChunkHeaderSize ∧
      (o.settle i).iteratorsLost = o.iteratorsLost := by
  unfold settle
  split <;> exact ⟨rfl, rfl, rfl, rfl, rfl, rfl⟩

lemma Bookkeeping.settle (h : Bookkeeping o)
    (hi : o.getItem tsn = some i) (i' : Item) (hi' : i'.isOutstanding = false)
    (fast normal : OrdSet Int) (hmrk : Marks fast normal (Function.update o.getItem tsn (some i'))) :
    Bookkeeping ({ o.settle i with
        toBeFastRetransmitted := fast, toBeRetransmitted := normal }.setItem tsn i') ∧
      ({ o.settle i with
        toBeFastRetransmitted := fast, toBeRetransmitted := normal }.setItem tsn i').getItem =
          Function.update o.getItem tsn (some i') := by
  obtain ⟨h1, h2, h3, h4⟩ := h.counts.settle (getItem_eq_some.mp hi).2 i' hi'
  exact Bookkeeping.replace hi _ i' (by simp) (by simp) ⟨h1, h2, h3, h4⟩ hmrk

structure AckedAt (o o' : OutstandingData) (tsn : Int) : Prop where
  books : Bookkeeping o'
  fast : o'.toBeFastRetransmitted = o.toBeFastRetransmitted
  header : o'.dataChunkHeaderSize = o.dataChunkHeaderSize
  lost : o'.iteratorsLost = o.iteratorsLost
  last : o'.lastCumulativeTsnAck = o.lastCumulativeTsnAck
  highest : o'.highestOutstandingTsn = o.highestOutstandingTsn
  item : ∃ i i', o.getItem tsn = some i ∧ i'.data = i.data ∧ i'.isAcked = true ∧
    o'.getItem = Function.update o.getItem tsn (some i')

lemma AckedAt.extends (h : AckedAt o o' tsn) : Extends o o' := by
  obtain ⟨i, i', hi, hdata, -, hget⟩ := h.item
  exact .of_replace hi h.header h.lost h.last hget hdata

lemma ackChunk_spec (h : Bookkeeping o)
    (hi : o.getItem tsn = some i) (hfast : o.toBeFastRetransmitted.contains tsn = false)
    (info : AckInfo) : AckedAt o (o.ackChunk info tsn i).1 tsn := by
  unfold ackChunk
  split
  · rename_i hacked
    exact ⟨h, rfl, rfl, rfl, rfl, rfl, i, i, hi, rfl, hacked, by rw [← hi, update_eq_self]⟩
  -- without a mark, the TSN is in neither set
  have hnormal : ∀ t, (if i.shouldBeRetransmitted then o.toBeRetransmitted.erase tsn
      else o.toBeRetransmitted).contains t = true ↔
        t ≠ tsn ∧ o.toBeRetransmitted.contains t = true := by
    intro t
    split
    · exact contains_erase _ _ _
    rename_i hnot
    refine ⟨fun ht => ⟨?_, ht⟩, And.right⟩
    rintro rfl
    rw [(h.marks.not_marked fun j hj => by rw [hi] at hj; simpa [← Option.some.inj hj] using hnot).2]
      at ht
    exact Bool.false_ne_true ht
  obtain ⟨hbooks, hget⟩ := h.settle hi i.ack rfl o.toBeFastRetransmitted
    (if i.shouldBeRetransmitted then o.toBeRetransmitted.erase tsn else o.toBeRetransmitted) (by
      refine h.marks.update tsn (some i.ack) (fun t _ => rfl) (fun t ht => ?_) ?_ ?_ ?_
      · rw [Bool.eq_iff_iff, hnormal]
        exact ⟨And.right, And.intro ht⟩
      · simp [hfast, hnormal]
      · simp [hfast]
      rintro j ⟨⟩
      simp)
  simp only [settle_others] at hbooks hget ⊢
  exact ⟨hbooks, rfl, by simp [setItem], by simp [setItem], by simp [setItem],
    by simp [highestOutstandingTsn, setItem], i, i.ack, hi, rfl, rfl, hget⟩

lemma getItem_first :
    o.getItem (o.lastCumulativeTsnAck + 1) = some i ↔ o.outstandingData.head? = some i := by
  rw [getItem_eq_some, indexOf, show (o.lastCumulativeTsnAck + 1 - o.lastCumulativeTsnAck - 1).toNat = 0
    by omega, List.head?_eq_getElem?]
  exact and_iff_right (by omega)

lemma Bookkeeping.popFront (h : Bookkeeping o)
    (hi : o.getItem (o.lastCumulativeTsnAck + 1) = some i) (hacked : i.isAcked = true) :
    Bookkeeping o.popFront := by
  have hout : i.isOutstanding = false ∧ i.isNacked = false := by
    cases hs : i.ackState <;> simp_all [Item.isAcked, Item.isOutstanding, Item.isNacked]
  constructor
  · have hcount := h.counts
    rw [← List.cons_head?_tail (getItem_first.mp hi)] at hcount
    obtain ⟨h1, h2, h3, h4⟩ := hcount.tail hout.1
    exact ⟨h1, h2, h3, h4⟩
  rw [getItem_popFront]
  refine h.marks.unmarked _ none (fun j hj => ?_) (by simp)
  rw [hi] at hj
  cases hj
  by_contra hm
  have := h.marks.nacked _ i hi (by simpa using hm)
  rw [hout.2] at this
  exact Bool.false_ne_true this

structure RemovedTo (o o' : OutstandingData) (cumulativeTsnAck : Int) : Prop where
  books : Bookkeeping o'
  fast : o'.toBeFastRetransmitted = o.toBeFastRetransmitted
  header : o'.dataChunkHeaderSize = o.dataChunkHeaderSize
  lost : o'.iteratorsLost = o.iteratorsLost
  last : o'.lastCumulativeTsnAck = cumulativeTsnAck
  highest : o'.highestOutstandingTsn = o.highestOutstandingTsn

lemma highestTsnAcked_ackChunk (info : AckInfo) (tsn : Int) (i : Item) :
    (o.ackChunk info tsn i).2.highestTsnAcked =
      if i.isAcked then info.highestTsnAcked else max info.highestTsnAcked tsn := by
  unfold ackChunk
  split <;> rfl

@[simp] lemma highestTsnAcked_noteLifecycle (info : AckInfo) (i : Item) :
    (noteLifecycle info i).highestTsnAcked = info.highestTsnAcked := by
  unfold noteLifecycle
  split
  · rfl
  · split <;> rfl

lemma removeAckedLoop_spec (cum : Int) : ∀ (rounds : Nat) (o : OutstandingData) (info : AckInfo),
    Bookkeeping o → (∀ t, o.toBeFastRetransmitted.contains t = false) →
    o.lastCumulativeTsnAck ≤ cum → cum ≤ o.highestOutstandingTsn →
    cum ≤ o.lastCumulativeTsnAck + rounds → info.highestTsnAcked = cum →
    RemovedTo o (removeAckedLoop cum rounds o info).1 cum ∧
      (removeAckedLoop cum rounds o info).2.highestTsnAcked = cum
  | 0, o, info, h, _, hlo, _, hrounds, hinfo => by
    have hcum : o.lastCumulativeTsnAck = cum := by simp only [Nat.cast_zero] at hrounds; omega
    exact ⟨⟨h, rfl, rfl, rfl, hcum, rfl⟩, hinfo⟩
  | rounds + 1, o, info, h, hfast, hlo, hhi, hrounds, hinfo => by
    unfold removeAckedLoop
    split
    · rename_i hnil
      have hcum : o.lastCumulativeTsnAck = cum := by
        simp only [highestOutstandingTsn, hnil, List.length_nil, Nat.cast_zero] at hhi
        omega
      exact ⟨⟨h, rfl, rfl, rfl, hcum, rfl⟩, hinfo⟩
    rename_i i rest hitm
    split
    · rename_i hlt
      have hfirst : o.getItem (o.lastCumulativeTsnAck + 1) = some i :=
        getItem_first.mpr (by rw [hitm]; rfl)
      have hack := ackChunk_spec h hfirst (hfast _) info
      have hinfo1 : (o.ackChunk info (o.lastCumulativeTsnAck + 1) i).2.highestTsnAcked = cum := by
        rw [highestTsnAcked_ackChunk, hinfo]
        split <;> omega
      generalize o.ackChunk info (o.lastCumulativeTsnAck + 1) i = s at hack hinfo1 ⊢
      obtain ⟨o1, info1⟩ := s
      dsimp only at hack hinfo1 ⊢
      obtain ⟨-, i', -, -, hacked, hget⟩ := hack.item
      have hfirst1 : o1.getItem (o1.lastCumulativeTsnAck + 1) = some i' := by
        rw [hget, hack.last, update_self]
      have hhighest1 : o1.popFront.highestOutstandingTsn = o.highestOutstandingTsn := by
        have hne : 0 < o1.outstandingData.length :=
          List.length_pos_of_mem (mem_of_getItem hfirst1)
        rw [← hack.highest]
        simp only [highestOutstandingTsn, popFront, List.length_tail]
        omega
      obtain ⟨hrec, hinfo2⟩ := removeAckedLoop_spec cum rounds o1.popFront (noteLifecycle info1 i)
        (hack.books.popFront hfirst1 hacked) (fun t => by
          have := congrArg (fun s => contains s t) hack.fast
          exact this.trans (hfast t))
        (by simp only [popFront, hack.last]; omega) (by omega)
        (by simp only [popFront, hack.last]; push_cast at hrounds; omega)
        (by rw [highestTsnAcked_noteLifecycle, hinfo1])
      exact ⟨⟨hrec.books, hrec.fast.trans hack.fast, hrec.header.trans hack.header,
        hrec.lost.trans hack.lost, hrec.last, hrec.highest.trans hhighest1⟩, hinfo2⟩
    · rename_i hge
      have hcum : o.lastCumulativeTsnAck = cum := by omega
      exact ⟨⟨h, rfl, rfl, rfl, hcum, rfl⟩, hinfo⟩

lemma removeAcked_spec {cum : Int} (info : AckInfo) (h : Bookkeeping o)
    (hfast : ∀ t, o.toBeFastRetransmitted.contains t = false)
    (hlo : o.lastCumulativeTsnAck ≤ cum) (hhi : cum ≤ o.highestOutstandingTsn)
    (hinfo : info.highestTsnAcked = cum) :
    RemovedTo o (o.removeAcked cum info).1 cum ∧ (o.removeAcked cum info).2.highestTsnAcked = cum := by
  obtain ⟨hrem, hinfo'⟩ := removeAckedLoop_spec cum o.outstandingData.length o info h hfast hlo hhi hhi hinfo
  unfold removeAcked
  generalize removeAckedLoop cum o.outstandingData.length o info = s at hrem hinfo' ⊢
  obtain ⟨⟨h1, h2, h3, h4⟩, hmrk⟩ := hrem.books
  exact ⟨⟨⟨⟨h1, h2, h3, h4⟩, hmrk⟩, hrem.fast, hrem.header, hrem.lost, hrem.last, hrem.highest⟩, hinfo'⟩

structure GapsAcked (o o' : OutstandingData) (info : AckInfo) : Prop where
  books : Bookkeeping o'
  fast : o'.toBeFastRetransmitted = o.toBeFastRetransmitted
  ext : Extends o o'
  highest : o'.highestOutstandingTsn = o.highestOutstandingTsn
  info : info.highestTsnAcked ≤ o'.highestOutstandingTsn

lemma ackInBlock_spec (hfast : ∀ t, o.toBeFastRetransmitted.contains t = false)
    {s : OutstandingData × AckInfo} (h : GapsAcked o s.1 s.2) (tsn : Int) :
    GapsAcked o (ackInBlock s tsn).1 (ackInBlock s tsn).2 := by
  unfold ackInBlock
  split
  · rename_i hin
    obtain ⟨hlo, hhi⟩ : s.1.lastCumulativeTsnAck < tsn ∧ tsn < s.1.nextTsn := by simpa using hin
    obtain ⟨i, hi⟩ := getItem_isSome.mpr ⟨hlo, hhi⟩
    rw [hi]
    have hack := ackChunk_spec h.books hi (by rw [h.fast]; exact hfast tsn) s.2
    refine ⟨hack.books, hack.fast.trans h.fast, h.ext.trans hack.extends,
      hack.highest.trans h.highest, ?_⟩
    rw [highestTsnAcked_ackChunk, hack.highest]
    have := h.info
    rw [nextTsn] at hhi
    split <;> omega
  · exact h

lemma ackGapBlocks_spec (cum : Int) (info : AckInfo) (h : Bookkeeping o)
    (hfast : ∀ t, o.toBeFastRetransmitted.contains t = false)
    (hinfo : info.highestTsnAcked ≤ o.highestOutstandingTsn) (blocks : List GapAckBlock) :
    GapsAcked o (o.ackGapBlocks cum blocks info).1 (o.ackGapBlocks cum blocks info).2 := by
  refine run_induction (P := fun s : OutstandingData × AckInfo => GapsAcked o s.1 s.2) ?_ blocks
    ⟨h, rfl, Extends.refl o, rfl, hinfo⟩
  intro s b hs
  exact run_induction (P := fun s : OutstandingData × AckInfo => GapsAcked o s.1 s.2)
    (fun s tsn hs => ackInBlock_spec hfast hs tsn) _ hs

/-! ## Adding and abandoning -/

lemma Extends.emplaceBack (o : OutstandingData) (i : Item) : Extends o (o.emplaceBack i) := by
  refine Extends.of_update rfl rfl rfl (getItem_emplaceBack o i) fun j hj => ?_
  have := (getItem_isSome.mp ⟨j, hj⟩).2
  omega

lemma Marks.emplaceBack (h : Marks o.toBeFastRetransmitted o.toBeRetransmitted o.getItem)
    (hi : i.shouldBeRetransmitted = false) :
    Marks o.toBeFastRetransmitted o.toBeRetransmitted (o.emplaceBack i).getItem := by
  rw [getItem_emplaceBack]
  refine h.unmarked _ _ (fun j hj => ?_) (fun j hj => by rwa [← Option.some.inj hj])
  have := (getItem_isSome.mp ⟨j, hj⟩).2
  omega

lemma Bookkeeping.emplaceBack (h : Bookkeeping o)
    (hout : i.isOutstanding = false) (hmark : i.shouldBeRetransmitted = false) :
    Bookkeeping (o.emplaceBack i) := by
  obtain ⟨h1, h2, h3, h4⟩ := h.counts.snoc hout
  exact ⟨⟨h1, h2, h3, h4⟩, h.marks.emplaceBack hmark⟩

lemma Bookkeeping.enterFlight (h : Bookkeeping o)
    (hout : i.isOutstanding = true) (hmark : i.shouldBeRetransmitted = false) :
    Bookkeeping ((o.enterFlight i.data).emplaceBack i) := by
  obtain ⟨h1, h2, h3, h4⟩ := h.counts.enterFlight_snoc hout
  exact ⟨⟨h1, h2, h3, h4⟩, h.marks.emplaceBack hmark⟩

lemma Marks.unmark (h : Marks o.toBeFastRetransmitted o.toBeRetransmitted o.getItem) (tsn : Int)
    (hi : i.shouldBeRetransmitted = false) :
    Marks (o.unmark tsn).toBeFastRetransmitted (o.unmark tsn).toBeRetransmitted
      (Function.update o.getItem tsn (some i)) := by
  refine h.update tsn _ (fun _ => contains_erase_ne _) (fun _ => contains_erase_ne _) ?_ ?_ ?_
  · simp only [OutstandingData.unmark, contains_erase_self, Bool.false_eq_true, or_self, Option.some.injEq,
      exists_eq_left', hi]
  · simp [OutstandingData.unmark, contains_erase_self]
  rintro j ⟨⟩ hm
  simp [hi] at hm

lemma abandonIfSame_spec (h : Bookkeeping o) (i : Item) (tsn : Int) :
    Bookkeeping (abandonIfSame i o tsn) ∧ Extends o (abandonIfSame i o tsn) := by
  unfold abandonIfSame
  split
  · exact ⟨h, Extends.refl o⟩
  rename_i other hoth2
  split
  · have hcount := h.counts.set (getItem_eq_some.mp hoth2).2 other.abandon rfl rfl
    split
    · obtain ⟨hbooks, hget⟩ := Bookkeeping.replace hoth2 (o.unmark tsn) other.abandon rfl rfl
        ⟨hcount.payload, hcount.packet, hcount.number, hcount.sound⟩ (h.marks.unmark tsn rfl)
      exact ⟨hbooks, .of_replace hoth2 rfl rfl rfl hget rfl⟩
    rename_i hnot
    obtain ⟨hbooks, hget⟩ := Bookkeeping.replace hoth2 o other.abandon rfl rfl hcount
      (h.marks.unmarked tsn _
        (fun j hj => by rw [hoth2] at hj; simpa [← Option.some.inj hj] using hnot)
        (by rintro j ⟨⟩; rfl))
    exact ⟨hbooks, .of_replace hoth2 rfl rfl rfl hget rfl⟩
  · exact ⟨h, Extends.refl o⟩

section Discard

variable {σ : Type} (discard : σ → StreamID → OutgoingMessageId → Bool × σ)

variable {o : OutstandingData}

lemma abandonAllFor_spec (h : Bookkeeping o) (i : Item) (q : σ) :
    Bookkeeping (o.abandonAllFor discard i q).1 ∧ Extends o (o.abandonAllFor discard i q).1 := by
  unfold abandonAllFor
  dsimp only
  generalize ho1 : (if (discard q i.data.streamId i.messageId).1 then o.emplaceBack i.unsentEnd.ack
    else o) = o1
  have h1 : Bookkeeping o1 ∧ Extends o o1 := by
    subst ho1
    split
    · exact ⟨h.emplaceBack rfl (Item.shouldBeRetransmitted_ack _), Extends.emplaceBack o _⟩
    · exact ⟨h, Extends.refl o⟩
  refine run_induction (P := fun o' => Bookkeeping o' ∧ Extends o o') ?_ o1.tsns h1
  intro o' tsn ho'
  obtain ⟨hbooks, hext⟩ := abandonIfSame_spec ho'.1 i tsn
  exact ⟨hbooks, ho'.2.trans hext⟩

lemma Marks.mark (h : Marks o.toBeFastRetransmitted o.toBeRetransmitted o.getItem) {i i' : Item}
    (hi : o.getItem tsn = some i) (hun : i.shouldBeRetransmitted = false)
    (hmark : i'.shouldBeRetransmitted = true) (hout : i'.isNacked = true) (kind : Retransmission) :
    Marks (o.mark tsn kind).toBeFastRetransmitted (o.mark tsn kind).toBeRetransmitted
      (Function.update o.getItem tsn (some i')) := by
  have hfree : ∀ j, o.getItem tsn = some j → j.shouldBeRetransmitted = false := by
    intro j hj
    rw [hi] at hj
    rwa [← Option.some.inj hj]
  have hins (s : OrdSet Int) (t : Int) (ht : t ≠ tsn) : (s.insert tsn ()).contains t = s.contains t := by
    rw [Bool.eq_iff_iff, contains_insert]
    exact or_iff_right ht
  have hself (s : OrdSet Int) : (s.insert tsn ()).contains tsn = true :=
    (contains_insert s tsn tsn ()).mpr (.inl rfl)
  cases kind with
  | fast =>
    refine h.update tsn (some i') (hins _) (fun _ _ => rfl) ?_ (fun _ => (h.not_marked hfree).2)
      (by rintro j ⟨⟩ _; exact hout)
    simp [OutstandingData.mark, hself, hmark]
  | normal =>
    refine h.update tsn (some i') (fun _ _ => rfl) (hins _) ?_ ?_ (by rintro j ⟨⟩ _; exact hout)
    · simp [OutstandingData.mark, hself, hmark]
    · simp [OutstandingData.mark, h.not_marked hfree]

lemma nackItem_spec (h : Bookkeeping o)
    (hin : ∃ i, o.getItem tsn = some i) (atOnce doFast : Bool) (q : σ) :
    Bookkeeping (nackItem discard tsn atOnce doFast o q).2.1 ∧
      Extends o (nackItem discard tsn atOnce doFast o q).2.1 := by
  obtain ⟨i, hi⟩ := hin
  unfold nackItem
  rw [hi]
  dsimp only
  have hnack := i.nack_spec atOnce
  generalize i.nack atOnce = r at hnack ⊢
  obtain ⟨i', action⟩ := r
  -- the sets stay, or change to `fast` and `normal`
  have hsettle : i'.isNacked = true → i'.data = i.data → ∀ fast normal,
      Marks fast normal (update o.getItem tsn (some i')) → Bookkeeping ({ o.settle i with
          toBeFastRetransmitted := fast, toBeRetransmitted := normal }.setItem tsn i') ∧
        Extends o ({ o.settle i with
          toBeFastRetransmitted := fast, toBeRetransmitted := normal }.setItem tsn i') := by
    intro hout hdata fast normal hmrk
    obtain ⟨hbooks, hget⟩ := h.settle hi i' (Item.isOutstanding_of_isNacked hout) fast normal hmrk
    exact ⟨hbooks, .of_replace hi (by simp [setItem]) (by simp [setItem]) (by simp [setItem]) hget hdata⟩
  cases hnack with
  | nothing hout hdata hmark =>
    refine hsettle hout hdata (o.settle i).toBeFastRetransmitted (o.settle i).toBeRetransmitted ?_
    simp only [settle_others]
    refine h.marks.update tsn (some i') (fun _ _ => rfl) (fun _ _ => rfl) ?_
      (h.marks.disjoint tsn) (by rintro j ⟨⟩ _; exact hout)
    rw [h.marks.exact tsn, hi]
    simp only [Option.some.injEq, exists_eq_left', hmark]
  | retransmit hout hdata hun hmark =>
    generalize (if doFast then Retransmission.fast else .normal) = kind
    have hcomm : ((o.settle i).setItem tsn i').mark tsn kind = { o.settle i with
        toBeFastRetransmitted := (o.mark tsn kind).toBeFastRetransmitted
        toBeRetransmitted := (o.mark tsn kind).toBeRetransmitted }.setItem tsn i' := by
      cases kind <;> simp [mark, setItem, indexOf]
    rw [hcomm]
    exact hsettle hout hdata _ _ (h.marks.mark hi hun hmark hout kind)
  | abandon hout hdata hun hmark =>
    obtain ⟨hbooks, hext⟩ := hsettle hout hdata (o.settle i).toBeFastRetransmitted
      (o.settle i).toBeRetransmitted (by
        simp only [settle_others]
        refine h.marks.unmarked tsn (some i') (fun j hj => ?_) (by
          rintro j ⟨⟩
          exact Item.shouldBeRetransmitted_of_isAbandoned hmark)
        cases hi.symm.trans hj
        exact hun)
    obtain ⟨hbooks2, hext2⟩ := abandonAllFor_spec discard hbooks i' q
    exact ⟨hbooks2, hext.trans hext2⟩

lemma nackBefore_spec (cum maxTsn : Int) (fast : Bool)
    (hcum : o.lastCumulativeTsnAck ≤ cum) (hmax : maxTsn ≤ o.highestOutstandingTsn) :
    ∀ (blocks : List GapAckBlock) (prev : Int) (s : Bool × OutstandingData × σ), cum ≤ prev →
      Bookkeeping s.2.1 ∧ Extends o s.2.1 →
      Bookkeeping (nackBefore discard fast cum maxTsn prev blocks s).2.1 ∧
        Extends o (nackBefore discard fast cum maxTsn prev blocks s).2.1
  | [], _, _, _, h => h
  | b :: rest, prev, s, hprev, h => by
    refine nackBefore_spec cum maxTsn fast hcum hmax rest _ _ (by omega) ?_
    refine run_induction_mem (P := fun s : Bool × OutstandingData × σ =>
      Bookkeeping s.2.1 ∧ Extends o s.2.1) (fun s tsn htsn hs => ?_) h
    rw [mem_tsnRange] at htsn
    have hin : ∃ i, o.getItem tsn = some i := getItem_isSome.mpr (by rw [nextTsn]; omega)
    obtain ⟨hbooks, hext⟩ := nackItem_spec discard hs.1 (hs.2.isSome hin) false (!fast) s.2.2
    exact ⟨hbooks, hs.2.trans hext⟩

structure Sacked (o o' : OutstandingData) : Prop where
  books : Bookkeeping o'
  header : o'.dataChunkHeaderSize = o.dataChunkHeaderSize
  lost : o'.iteratorsLost = o.iteratorsLost

/-- Nothing is nacked above the highest TSN that the SACK newly acknowledges, and that
is in the deque. -/
lemma handleSack_spec {cum : Int} (h : Bookkeeping o)
    (hfast : ∀ t, o.toBeFastRetransmitted.contains t = false)
    (hlo : o.lastCumulativeTsnAck ≤ cum) (hhi : cum ≤ o.highestOutstandingTsn)
    (blocks : List GapAckBlock) (isInFastRecovery : Bool) (q : σ) :
    Sacked o (o.handleSack discard cum blocks isInFastRecovery q).2.1 := by
  obtain ⟨hrem, hinfo⟩ := removeAcked_spec { highestTsnAcked := cum } h hfast hlo hhi rfl
  unfold handleSack
  dsimp only
  generalize o.removeAcked cum { highestTsnAcked := cum } = s1 at hrem hinfo ⊢
  obtain ⟨o1, info1⟩ := s1
  have hfast1 : ∀ t, o1.toBeFastRetransmitted.contains t = false := by rwa [hrem.fast]
  have hgaps := ackGapBlocks_spec cum info1 hrem.books hfast1
    (by rw [hinfo, hrem.highest]; exact hhi) blocks
  generalize o1.ackGapBlocks cum blocks info1 = s2 at hgaps ⊢
  obtain ⟨o2, info2⟩ := s2
  have hlast2 : o2.lastCumulativeTsnAck = cum := hgaps.ext.last.trans hrem.last
  have hnack := nackBefore_spec discard cum info2.highestTsnAcked isInFastRecovery hlast2.le hgaps.info
    blocks cum (info2.hasPacketLoss, o2, q) le_rfl ⟨hgaps.books, Extends.refl o2⟩
  unfold nackBetweenAckBlocks
  -- the cumulative ack was reached, so the fast recovery branch is not taken
  rw [hlast2, decide_eq_false (lt_irrefl cum), Bool.and_false, if_neg Bool.false_ne_true]
  exact ⟨hnack.1, hnack.2.header.trans (hgaps.ext.header.trans hrem.header),
    hnack.2.lost.trans (hgaps.ext.lost.trans hrem.lost)⟩

/-! ## Expiry, insertion and T3-RTX -/

lemma expireLoop_induction {P : OutstandingData × σ → Prop} (now : Timestamp)
    (hstep : ∀ o q tsn i, o.getItem tsn = some i → P (o, q) → P (o.abandonAllFor discard i q))
    (hlose : ∀ s, P s → P (s.1.loseIterators, s.2)) :
    ∀ (tsns : List Int) (o : OutstandingData) (q : σ), P (o, q) → P (expireLoop discard now tsns o q)
  | [], _, _, h => h
  | tsn :: rest, o, q, h => by
    unfold expireLoop
    cases hi : o.getItem tsn with
    | none => exact h
    | some i =>
      dsimp only
      split
      · exact expireLoop_induction now hstep hlose rest o q h
      split
      · refine expireLoop_induction now hstep hlose rest _ _ ?_
        have hone := hstep o q tsn i hi h
        unfold expireChunk
        dsimp only
        split
        · exact hlose _ hone
        · exact hone
      · exact h

/-- Expiry keeps what is in the deque, whether or not it lost the iterators on the way. -/
lemma expireOutstandingChunks_spec (h : Bookkeeping o) (now : Timestamp) (q : σ) :
    Bookkeeping (o.expireOutstandingChunks discard now q).1 ∧
      Extends { o with iteratorsLost := (o.expireOutstandingChunks discard now q).1.iteratorsLost }
        (o.expireOutstandingChunks discard now q).1 := by
  refine expireLoop_induction discard (P := fun s => Bookkeeping s.1 ∧
    Extends { o with iteratorsLost := s.1.iteratorsLost } s.1) now ?_ ?_ o.tsns o q ⟨h, Extends.refl o⟩
  · intro o' q tsn i _ h'
    obtain ⟨hbooks, hext⟩ := abandonAllFor_spec discard h'.1 i q
    rw [hext.lost]
    exact ⟨hbooks, h'.2.trans hext⟩
  · rintro s ⟨⟨⟨h1, h2, h3, -⟩, hmarks⟩, hext⟩
    exact ⟨⟨⟨h1, h2, h3, rfl⟩, hmarks⟩, hext.header, rfl, hext.last, hext.data⟩

lemma length_abandonIfSame (i : Item) (o : OutstandingData) (tsn : Int) :
    (abandonIfSame i o tsn).outstandingData.length = o.outstandingData.length := by
  unfold abandonIfSame
  split
  · rfl
  split
  · split <;> simp [setItem, unmark]
  · rfl

lemma length_le_abandonAllFor (o : OutstandingData) (i : Item) (q : σ) :
    o.outstandingData.length ≤ (o.abandonAllFor discard i q).1.outstandingData.length := by
  unfold abandonAllFor
  refine run_induction (P := fun o' : OutstandingData =>
    o.outstandingData.length ≤ o'.outstandingData.length)
    (fun o' tsn h => (length_abandonIfSame i o' tsn).symm ▸ h) _ ?_
  split <;> simp [emplaceBack]

/-- The iterators are lost only if the loop appends to the deque. -/
lemma expireLoop_inPlace (now : Timestamp) : ∀ (tsns : List Int) (o : OutstandingData) (q : σ),
    Bookkeeping o →
    o.outstandingData.length ≤ (expireLoop discard now tsns o q).1.outstandingData.length ∧
      ((expireLoop discard now tsns o q).1.outstandingData.length = o.outstandingData.length →
        (expireLoop discard now tsns o q).1.iteratorsLost = o.iteratorsLost)
  | [], _, _, _ => ⟨le_rfl, fun _ => rfl⟩
  | tsn :: rest, o, q, h => by
    unfold expireLoop
    split
    · exact ⟨le_rfl, fun _ => rfl⟩
    rename_i i hi
    split
    · exact expireLoop_inPlace now rest o q h
    split
    swap
    · exact ⟨le_rfl, fun _ => rfl⟩
    obtain ⟨hbooks, hext⟩ := abandonAllFor_spec discard h i q
    have hgrows := length_le_abandonAllFor discard o i q
    unfold expireChunk
    dsimp only
    generalize o.abandonAllFor discard i q = s at hbooks hext hgrows ⊢
    split
    · rename_i hgrown
      have hlost : Bookkeeping s.1.loseIterators := by
        obtain ⟨⟨h1, h2, h3, -⟩, hmarks⟩ := hbooks
        exact ⟨⟨h1, h2, h3, rfl⟩, hmarks⟩
      have hle := (expireLoop_inPlace now rest s.1.loseIterators s.2 hlost).1
      have hsame : s.1.loseIterators.outstandingData = s.1.outstandingData := rfl
      rw [hsame] at hle
      exact ⟨by omega, fun heq => by omega⟩
    · obtain ⟨hle, hkept⟩ := expireLoop_inPlace now rest s.1 s.2 hbooks
      exact ⟨by omega, fun heq => (hkept (by omega)).trans hext.lost⟩

lemma insert_spec (h : Bookkeeping o) (mid : OutgoingMessageId)
    (d : Data) (sent : Timestamp) (maxRtx : MaxRetransmits)
    (expiry : Option Timestamp) (life : LifecycleId) (q : σ) :
    Bookkeeping (o.insert discard mid d sent maxRtx expiry life q).2.1 ∧
      (o.insert discard mid d sent maxRtx expiry life q).2.1.iteratorsLost = o.iteratorsLost := by
  unfold insert
  dsimp only
  generalize hi : (⟨mid, d, sent, maxRtx, expiry, life, .active,
    .unacked, 0, 0⟩ : Item) = i
  have hd : d = i.data := by rw [← hi]
  have hbooks := h.enterFlight (i := i) (by rw [← hi]; rfl) (by rw [← hi]; rfl)
  rw [hd]
  split
  · obtain ⟨hbooks, hext⟩ := abandonAllFor_spec discard hbooks i q
    exact ⟨hbooks, hext.lost⟩
  · exact ⟨hbooks, rfl⟩

lemma nackAll_spec (h : Bookkeeping o) (q : σ) :
    Bookkeeping (o.nackAll discard q).1 ∧ Extends o (o.nackAll discard q).1 := by
  refine run_induction_mem (P := fun s : OutstandingData × σ => Bookkeeping s.1 ∧ Extends o s.1)
    (fun s tsn htsn hs => ?_) ⟨h, Extends.refl o⟩
  have hin := mem_tsns.mp (List.mem_filter.mp htsn).1
  obtain ⟨hbooks, hext⟩ := nackItem_spec discard hs.1 (hs.2.isSome hin) true false s.2
  exact ⟨hbooks, hs.2.trans hext⟩

end Discard

/-! ## Retransmission -/

lemma contains_eraseChunk (tsn t : Int) (kind : Retransmission) :
    ((o.eraseChunk tsn kind).chunks kind).contains t = true ↔
      t ≠ tsn ∧ (o.chunks kind).contains t = true := by
  cases kind <;> exact contains_erase _ _ _

lemma Marks.eraseChunk (h : Marks o.toBeFastRetransmitted o.toBeRetransmitted o.getItem)
    {kind : Retransmission} (hin : (o.chunks kind).contains tsn = true)
    (hi : i.shouldBeRetransmitted = false) :
    Marks (o.eraseChunk tsn kind).toBeFastRetransmitted (o.eraseChunk tsn kind).toBeRetransmitted
      (Function.update o.getItem tsn (some i)) := by
  have hnot : ∀ j, some i = some j → j.shouldBeRetransmitted = true → j.isNacked = true := by
    rintro j ⟨⟩ hm
    simp [hi] at hm
  cases kind with
  | fast =>
    have hoth2 := h.disjoint tsn hin
    refine h.update tsn _ (fun _ => contains_erase_ne _) (fun _ _ => rfl) ?_ ?_ hnot
    · simp [OutstandingData.eraseChunk, contains_erase_self, hoth2, hi]
    · simp [OutstandingData.eraseChunk, contains_erase_self]
  | normal =>
    have hoth2 : o.toBeFastRetransmitted.contains tsn = false := by
      by_contra hc
      have := h.disjoint tsn (by simpa using hc)
      exact Bool.false_ne_true (this.symm.trans hin)
    refine h.update tsn _ (fun _ _ => rfl) (fun _ => contains_erase_ne _) ?_ ?_ hnot
    · simp [OutstandingData.eraseChunk, contains_erase_self, hoth2, hi]
    · simp [OutstandingData.eraseChunk, hoth2]

lemma Bookkeeping.resend (h : Bookkeeping o)
    {kind : Retransmission} (hin : (o.chunks kind).contains tsn = true)
    (hi : o.getItem tsn = some i) (hnacked : i.isNacked = true) :
    Bookkeeping (((o.setItem tsn i.markAsRetransmitted).enterFlight i.data).eraseChunk tsn kind) ∧
      Extends o
        (((o.setItem tsn i.markAsRetransmitted).enterFlight i.data).eraseChunk tsn kind) := by
  have hcomm : ((o.setItem tsn i.markAsRetransmitted).enterFlight i.data).eraseChunk tsn kind =
      ((o.enterFlight i.data).eraseChunk tsn kind).setItem tsn i.markAsRetransmitted := by
    cases kind <;> rfl
  have hcount := h.counts.enterFlight_set (getItem_eq_some.mp hi).2 i.markAsRetransmitted
    (Item.isOutstanding_of_isNacked hnacked) rfl rfl
  have hmrk := h.marks.eraseChunk hin (i := i.markAsRetransmitted) rfl
  rw [hcomm]
  obtain ⟨hbooks, hget⟩ := Bookkeeping.replace hi ((o.enterFlight i.data).eraseChunk tsn kind)
    i.markAsRetransmitted (by cases kind <;> rfl) (by cases kind <;> rfl)
    (by cases kind <;> exact ⟨hcount.payload, hcount.packet, hcount.number, hcount.sound⟩)
    (by cases kind <;> exact hmrk)
  exact ⟨hbooks, .of_replace hi (by cases kind <;> rfl) (by cases kind <;> rfl) (by cases kind <;> rfl) hget rfl⟩

def Resent (o : OutstandingData) (result : List (TSN × Data)) : Prop :=
  ∀ c ∈ result, ∃ tsn i, o.getItem tsn = some i ∧ c = (wrap 32 tsn, i.data)

lemma extractLoop_spec (kind : Retransmission) :
    ∀ (tsns : List Int) (maxSize : Nat) (o : OutstandingData), Bookkeeping o → tsns.Nodup →
      (∀ t ∈ tsns, (o.chunks kind).contains t = true) →
      Bookkeeping (extractLoop kind tsns maxSize o).2 ∧
        Extends o (extractLoop kind tsns maxSize o).2 ∧
        Resent (extractLoop kind tsns maxSize o).2 (extractLoop kind tsns maxSize o).1
  | [], _, o, h, _, _ => ⟨h, Extends.refl o, by simp [extractLoop, Resent]⟩
  | tsn :: rest, maxSize, o, h, hnd, hin => by
    obtain ⟨hset, hin⟩ := List.forall_mem_cons.mp hin
    obtain ⟨i, hi, hmark⟩ := (h.marks.exact tsn).mp (by
      cases kind with
      | fast => exact .inl hset
      | normal => exact .inr hset)
    obtain ⟨hbooks, hext⟩ := h.resend hset hi (h.marks.nacked tsn i hi hmark)
    rw [List.nodup_cons] at hnd
    unfold extractLoop
    rw [hi]
    dsimp only
    split
    · have hrest : ∀ t ∈ rest, ((((o.setItem tsn i.markAsRetransmitted).enterFlight i.data).eraseChunk
      tsn kind).chunks kind).contains t = true := by
        intro t ht
        rw [contains_eraseChunk]
        refine ⟨fun heq => hnd.1 (heq ▸ ht), ?_⟩
        have := hin t ht
        cases kind <;> exact this
      generalize ((o.setItem tsn i.markAsRetransmitted).enterFlight i.data).eraseChunk tsn kind = o1
        at hbooks hext hrest ⊢
      split
      · refine ⟨hbooks, hext, fun c hc => ?_⟩
        obtain ⟨i', hi', hdata⟩ := hext.data tsn i hi
        exact ⟨tsn, i', hi', by rw [hdata]; exact List.mem_singleton.mp hc⟩
      obtain ⟨hbooks2, hext2, hresent⟩ :=
        extractLoop_spec kind rest (maxSize - o.getSerializedChunkSize i.data) o1 hbooks hnd.2 hrest
      refine ⟨hbooks2, hext.trans hext2, fun c hc => ?_⟩
      rcases List.mem_cons.mp hc with rfl | hc
      · obtain ⟨i', hi', hdata⟩ := (hext.trans hext2).data tsn i hi
        exact ⟨tsn, i', hi', by rw [hdata]⟩
      · exact hresent c hc
    · split
      · exact ⟨h, Extends.refl o, by simp [Resent]⟩
      exact extractLoop_spec kind rest maxSize o h hnd.2 hin

lemma extractChunksThatCanFit_spec (h : Bookkeeping o) (kind : Retransmission) (maxSize : Nat) :
    Bookkeeping (o.extractChunksThatCanFit kind maxSize).2 ∧
      Extends o (o.extractChunksThatCanFit kind maxSize).2 ∧
      Resent (o.extractChunksThatCanFit kind maxSize).2 (o.extractChunksThatCanFit kind maxSize).1 :=
  extractLoop_spec kind _ maxSize o h (keys_nodup _) fun _ => mem_keys.mp

lemma contains_foldl_insert (tsns : List Int) (s : OrdSet Int) (t : Int) :
    (tsns.foldl (fun s tsn => s.insert tsn ()) s).contains t = true ↔
      t ∈ tsns ∨ s.contains t = true := by
  induction tsns generalizing s with
  | nil => simp
  | cons tsn tsns ih =>
    rw [List.foldl_cons, ih, contains_insert, List.mem_cons]
    tauto

lemma getChunksToBeFastRetransmitted_spec (h : Bookkeeping o) (maxSize : Nat) :
    Bookkeeping (o.getChunksToBeFastRetransmitted maxSize).2 ∧
      (o.getChunksToBeFastRetransmitted maxSize).2.toBeFastRetransmitted = OrdMap.empty ∧
      (o.getChunksToBeFastRetransmitted maxSize).2.iteratorsLost = o.iteratorsLost := by
  obtain ⟨hbooks, hext, -⟩ := extractChunksThatCanFit_spec h .fast maxSize
  unfold getChunksToBeFastRetransmitted
  generalize o.extractChunksThatCanFit .fast maxSize = r at hbooks hext ⊢
  obtain ⟨result, o1⟩ := r
  obtain ⟨⟨h1, h2, h3, h4⟩, hmrk⟩ := hbooks
  refine ⟨⟨⟨h1, h2, h3, h4⟩, ?_, ?_, hmrk.nacked⟩, rfl, hext.lost⟩
  · intro t
    rw [contains_foldl_insert, mem_keys]
    simp only [contains_empty, Bool.false_eq_true, false_or]
    exact hmrk.exact t
  · simp

/-! ## Runs -/

lemma Bookkeeping.isConsistent (h : Bookkeeping o) : o.isConsistent = true := by
  have hmarked : ∀ t, t ∈ o.tsns.filter (fun tsn => (o.getItem tsn).any Item.shouldBeRetransmitted) ↔
      o.toBeFastRetransmitted.contains t = true ∨ o.toBeRetransmitted.contains t = true := by
    intro t
    rw [h.marks.exact t, List.mem_filter, mem_tsns, Option.any_eq_true]
    exact ⟨And.right, fun ⟨i, hi, hm⟩ => ⟨⟨i, hi⟩, i, hi, hm⟩⟩
  have hcount := h.counts
  simp only [OutstandingData.isConsistent, hcount.payload, hcount.packet, hcount.number, decide_true,
    Bool.true_and, Bool.and_eq_true, List.all_eq_true, List.mem_append, mem_keys, hmarked,
    Bool.or_eq_true, decide_eq_true_eq]
  exact ⟨fun t => Or.symm, fun t => Or.symm⟩

inductive Call where
  | insert (messageId : OutgoingMessageId) (data : Data) (timeSent : Timestamp)
      (maxRetransmissions : MaxRetransmits) (expiresAt : Option Timestamp) (lifecycleId : LifecycleId)
  | handleSack (cumulativeTsnAck : Int) (blocks : List GapAckBlock) (isInFastRecovery : Bool)
  | getChunksToBeFastRetransmitted (maxSize : Nat)
  | getChunksToBeRetransmitted (maxSize : Nat)
  | nackAll
  | expireOutstandingChunks (now : Timestamp)
  | beginResetStreams

def Call.step {σ : Type} (discard : σ → StreamID → OutgoingMessageId → Bool × σ)
    (s : OutstandingData × σ) : Call → OutstandingData × σ
  | .insert messageId data timeSent maxRetransmissions expiresAt lifecycleId =>
    (s.1.insert discard messageId data timeSent maxRetransmissions expiresAt lifecycleId s.2).2
  | .handleSack cumulativeTsnAck blocks isInFastRecovery =>
    (s.1.handleSack discard cumulativeTsnAck blocks isInFastRecovery s.2).2
  | .getChunksToBeFastRetransmitted maxSize => ((s.1.getChunksToBeFastRetransmitted maxSize).2, s.2)
  | .getChunksToBeRetransmitted maxSize => ((s.1.getChunksToBeRetransmitted maxSize).2, s.2)
  | .nackAll => s.1.nackAll discard s.2
  | .expireOutstandingChunks now => s.1.expireOutstandingChunks discard now s.2
  | .beginResetStreams => (s.1.beginResetStreams, s.2)

/-- What the caller sees to: a SACK acknowledges what was sent and not less than before, and what
the last one marked for fast retransmission has been fetched since. What it cannot see to: expiry
appends nothing to the deque that it iterates over. -/
def Call.Ok {σ : Type} (discard : σ → StreamID → OutgoingMessageId → Bool × σ)
    (s : OutstandingData × σ) : Call → Prop
  | .handleSack cumulativeTsnAck _ _ =>
    s.1.lastCumulativeTsnAck ≤ cumulativeTsnAck ∧ cumulativeTsnAck ≤ s.1.highestOutstandingTsn ∧
      s.1.toBeFastRetransmitted.isEmpty = true
  | .expireOutstandingChunks now =>
    (s.1.expireOutstandingChunks discard now s.2).1.outstandingData.length = s.1.outstandingData.length
  | _ => True

instance {σ : Type} (discard : σ → StreamID → OutgoingMessageId → Bool × σ)
    (s : OutstandingData × σ) (c : Call) : Decidable (c.Ok discard s) := by
  cases c <;> unfold Call.Ok <;> infer_instance

lemma bookkeeping_init (dataChunkHeaderSize : Nat) (lastCumulativeTsnAck : Int) :
    Bookkeeping { dataChunkHeaderSize, lastCumulativeTsnAck } := by
  refine ⟨⟨rfl, rfl, rfl, rfl⟩, fun t => ?_, by simp, fun t i hi => ?_⟩
  · simp [getItem]
  · simp [getItem] at hi

/-- A call that meets its conditions keeps the books, and the iterators if it has any. -/
lemma bookkeeping_step {σ : Type} (discard : σ → StreamID → OutgoingMessageId → Bool × σ)
    {s : OutstandingData × σ} {c : Call} (h : Bookkeeping s.1) (hok : c.Ok discard s) :
    Bookkeeping (c.step discard s).1 ∧ (c.step discard s).1.iteratorsLost = s.1.iteratorsLost := by
  cases c with
  | insert messageId data timeSent maxRetransmissions expiresAt lifecycleId =>
    exact insert_spec discard h ..
  | handleSack cumulativeTsnAck blocks isInFastRecovery =>
    obtain ⟨hlo, hhi, hfast⟩ := hok
    have hsacked := handleSack_spec discard h (isEmpty_iff.mp hfast) hlo hhi blocks isInFastRecovery s.2
    exact ⟨hsacked.books, hsacked.lost⟩
  | getChunksToBeFastRetransmitted maxSize =>
    obtain ⟨hbooks, -, hlost⟩ := getChunksToBeFastRetransmitted_spec h maxSize
    exact ⟨hbooks, hlost⟩
  | getChunksToBeRetransmitted maxSize =>
    obtain ⟨hbooks, hext, -⟩ := extractChunksThatCanFit_spec h .normal maxSize
    exact ⟨hbooks, hext.lost⟩
  | nackAll =>
    obtain ⟨hbooks, hext⟩ := nackAll_spec discard h s.2
    exact ⟨hbooks, hext.lost⟩
  | expireOutstandingChunks now =>
    exact ⟨(expireOutstandingChunks_spec discard h now s.2).1,
      (expireLoop_inPlace discard now _ s.1 s.2 h).2 hok⟩
  | beginResetStreams =>
    obtain ⟨⟨h1, h2, h3, h4⟩, hmrk⟩ := h
    exact ⟨⟨⟨h1, h2, h3, h4⟩, hmrk⟩, rfl⟩

/-- Six chunks, of which the first may not be sent again: three SACKs in a row report it
and the third chunk as missing, and then the timer expires. -/
def lossyCalls : List Call :=
  let chunk (k : Nat) : Data := ⟨1, 0, 0, 0, 51, List.replicate (10 + k) 0, true, true, false⟩
  let sack (last : BitVec 16) : Call := .handleSack 0 [⟨2, 2⟩, ⟨4, last⟩] false
  [.insert 0 (chunk 0) 0 0 none 0, .insert 1 (chunk 1) 0 noLimit none 0,
   .insert 2 (chunk 2) 0 noLimit none 0, .insert 3 (chunk 3) 0 noLimit none 0,
   .insert 4 (chunk 4) 0 noLimit none 0, .insert 5 (chunk 5) 0 noLimit none 0,
   sack 4, sack 5, sack 6, .getChunksToBeFastRetransmitted 40, .handleSack 1 [] true, .nackAll,
   .getChunksToBeRetransmitted 100, .beginResetStreams, .expireOutstandingChunks 1]

end OutstandingData

end WebRtc.Dcsctp
