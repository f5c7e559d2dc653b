import WebRtc.Dcsctp.System.OrderedProgress
import WebRtc.Dcsctp.System.SingleMessages

/-!
# dcSCTP — ordered messages arrive in order

One direction of an association without message interleaving: messages are added to an
`RRSendQueue`, chunks get consecutive TSNs, and a network that may lose, duplicate and reorder them
hands them to a receiver. What the application has taken from a stream is a prefix of what was
added to it (`delivered_in_order`), as long as the first number is near to the start of the stream
and each near to the last (`misdelivered_of_far_start`).
-/

namespace WebRtc.Dcsctp

open Lib Numerics RRSendQueue Reception List SentChunk

/-- The two parties, with the chunks sent, the messages added per stream and the messages
taken by the application. -/
structure Transfer where
  queue : RRSendQueue
  log : List SentChunk
  sent : StreamID → List DcSctpMessage
  reception : Reception
  taken : List DcSctpMessage

namespace Transfer

open Reception (farPayload)

inductive Event where
  | add (now : Timestamp) (message : DcSctpMessage)
  | produce (now : Timestamp) (maxSize : Nat)
  | arrive (k : Nat)
  | getNextMessage

def init (initialTsn : TSN) (queue : RRSendQueue) (maxSizeBytes : Nat) : Transfer :=
  ⟨queue, [], fun _ => [], Reception.init initialTsn maxSizeBytes, []⟩

def take (s : Transfer) : Transfer :=
  match s.reception.receiver.queue.getNextMessage with
  | (none, _) => s
  | (some m, queue) =>
    { s with
      reception := { s.reception with receiver := { s.reception.receiver with queue := queue } }
      taken := s.taken ++ [m] }

def step (initialTsn : TSN) (s : Transfer) : Event → Transfer
  | .add now message =>
    { s with
      queue := s.queue.add now message {}
      sent := Function.update s.sent message.streamId (s.sent message.streamId ++ [message]) }
  | .produce now maxSize =>
    match s.queue.produce now maxSize with
    | (none, queue) => { s with queue := queue }
    | (some d, queue) => { s with queue := queue, log := s.log ++ [tagChunk s.log 0 d.data] }
  | .arrive k => { s with reception := s.reception.step initialTsn s.log k }
  | .getNextMessage => s.take

def Ok (initialTsn : TSN) (s : Transfer) : Event → Prop
  | .add _ message => message.payload ≠ []
  | .produce _ maxSize => 1 ≤ maxSize
  | .arrive k => Reception.NearStep initialTsn s.log s.reception k
  | .getNextMessage => True

instance (initialTsn : TSN) (s : Transfer) : ∀ e, Decidable (Ok initialTsn s e)
  | .add _ message => inferInstanceAs (Decidable (message.payload ≠ []))
  | .produce _ maxSize => inferInstanceAs (Decidable (1 ≤ maxSize))
  | .arrive k => inferInstanceAs (Decidable (Reception.NearStep initialTsn s.log s.reception k))
  | .getNextMessage => isTrue trivial

/-! ## The sender -/

structure SenderSide (s : Transfer) : Prop where
  inv : SenderInv s.log s.sent s.queue
  filed : ∀ sid, s.queue.Filed sid

lemma senderSide_init (tsn0 : TSN) (mtu prio thr maxSize : Nat) :
    SenderSide (init tsn0 (new mtu prio thr) maxSize) :=
  ⟨senderInv_new mtu prio thr,
    (sound_new mtu prio thr false).filed⟩

variable {initialTsn : TSN} {s : Transfer}

lemma SenderSide.produce (h : SenderSide s) (now : Timestamp) {maxSize : Nat}
    (hmax : 1 ≤ maxSize) : SenderSide (s.step initialTsn (.produce now maxSize)) := by
  obtain ⟨hnone, hsome⟩ := h.inv.produce h.filed now hmax
  have hfil := (produce_outcome now maxSize h.inv.contents h.filed).1
  simp only [step]
  generalize s.queue.produce now maxSize = r at hnone hsome hfil
  obtain ⟨data, q⟩ := r
  cases data with
  | none => exact ⟨hnone rfl, hfil⟩
  | some d => exact ⟨hsome d rfl, hfil⟩

lemma log_step (s : Transfer) (e : Event) : s.log <+: (s.step initialTsn e).log := by
  cases e with
  | add now message | arrive k => exact prefix_refl _
  | produce now maxSize =>
    simp only [step]
    split
    · exact prefix_refl _
    · exact prefix_append _ _
  | getNextMessage =>
    simp only [step, take]
    split <;> exact prefix_refl _

lemma log_run (evs : List Event) (s : Transfer) :
    s.log <+: (run (step initialTsn) s evs).log := by
  induction evs generalizing s with
  | nil => exact prefix_refl _
  | cons e evs ih => exact (log_step s e).trans (ih _)

lemma senderSide_run (evs : List Event) (s : Transfer) (h : SenderSide s)
    (hok : Along (step initialTsn) (Ok initialTsn) s evs) :
    SenderSide (run (step initialTsn) s evs) := by
  refine run_induction_along (fun s e h hok => ?_) evs s h hok
  cases e with
  | add now message =>
    exact ⟨h.inv.add now hok, filed_streamAdd h.filed message.streamId message _⟩
  | produce now maxSize => exact h.produce now hok
  | arrive k => exact ⟨h.inv, h.filed⟩
  | getNextMessage =>
    simp only [step, take]
    split <;> exact ⟨h.inv, h.filed⟩

/-! ## The receiver -/

lemma streamId_of_mem_handed {L : List SentChunk} (hL : Conforming L) {r : Reception}
    (h : r.Inv initialTsn L) {sid : StreamID} {m : DcSctpMessage} (hm : m ∈ r.handed sid) :
    m.streamId = sid := by
  obtain ⟨base, streams, -, -, -, hstr⟩ := h.queue
  obtain ⟨-, -, n, hf, hhand, -⟩ := hstr sid
  rw [hhand] at hm
  obtain ⟨i, hi, rfl⟩ := mem_map.mp hm
  have hpos := (hf.done i (by have := mem_range'_1.mp hi; omega)).1.length_pos
  obtain ⟨k, x, -, hd, -, -, -, hsid, -⟩ := log_of_dataLayout hL (getElem?_eq_getElem hpos)
  rw [messageOf, head?_eq_getElem?, getElem?_eq_getElem hpos]
  rw [← hd]
  exact hsid

/-- The receiver's side of the invariant, against the final log `L`: what was taken and what
can be taken is what was handed over. -/
structure ReceiverSide (initialTsn : TSN) (L : List SentChunk) (s : Transfer) : Prop where
  inv : s.reception.Inv initialTsn L
  taken : ∀ sid, (s.taken ++ s.reception.receiver.queue.reassembledMessages).filter
    (fun m => m.streamId = sid) = s.reception.handed sid

lemma receiverSide_init (queue : RRSendQueue) (maxSize : Nat) (L : List SentChunk) :
    ReceiverSide initialTsn L (init initialTsn queue maxSize) :=
  ⟨inv_init maxSize, fun _ => rfl⟩

variable {L : List SentChunk}

lemma filter_handedAfter {handed : StreamID → List DcSctpMessage} {msgs : List DcSctpMessage}
    {x : SentChunk} (hord : x.data.isUnordered = false)
    (hnew : ∀ sid, ∀ m ∈ handedAfter handed x msgs sid, m.streamId = sid)
    {available : List DcSctpMessage}
    (hold : ∀ sid, available.filter (fun m => m.streamId = sid) = handed sid) (sid : StreamID) :
    (available ++ msgs).filter (fun m => m.streamId = sid) = handedAfter handed x msgs sid := by
  have hall : ∀ m ∈ msgs, m.streamId = x.data.streamId := fun m hm =>
    hnew x.data.streamId m (by simp [handedAfter, hord, hm])
  rw [filter_append, hold, handedAfter]
  by_cases hs : x.data.streamId = sid
  · rw [if_pos ⟨hord, hs⟩, filter_eq_self.mpr]
    exact fun m hm => by simp [hall m hm, hs]
  rw [if_neg fun hc => hs hc.2, filter_eq_nil_iff.mpr, append_nil]
  exact fun m hm => by simp [hall m hm, hs]

lemma ReceiverSide.arrive (h : ReceiverSide initialTsn L s) (hL : Conforming L)
    (hep : ∀ x ∈ L, x.epoch = 0) (hord : ∀ x ∈ L, x.data.isUnordered = false)
    (hpre : s.log <+: L) {k : Nat} (hnear : Reception.NearStep initialTsn s.log s.reception k) :
    ReceiverSide initialTsn L (s.step initialTsn (.arrive k)) := by
  cases hk : s.log[k]? with
  | none =>
    have hsame : s.step initialTsn (.arrive k) = s := by
      simp only [step, Reception.step, hk]
    rw [hsame]
    exact h
  | some x =>
    have hkL : L[k]? = some x := by
      obtain ⟨tail, rfl⟩ := hpre
      rw [getElem?_append_left (List.getElem?_eq_some_iff.mp hk).1, hk]
    have hstep : (s.step initialTsn (.arrive k)).reception =
        s.reception.step initialTsn L k := by
      simp only [step, Reception.step, hk, hkL]
    have hnearL : Reception.NearStep initialTsn L s.reception k := fun y hy =>
      hnear y (by rw [hk, ← hkL, hy])
    have hinv := inv_step hL hep s.reception k h.inv hnearL
    have hinv' : (s.reception.arrive initialTsn k x).Inv initialTsn L := by
      rw [← step_eq_arrive hkL]
      exact hinv
    obtain ⟨messages, hm, hhand⟩ := handed_arrive hL hep h.inv hkL (hnear x hk)
    refine ⟨by rw [hstep]; exact hinv, fun sid => ?_⟩
    rw [hstep, step_eq_arrive hkL, hm, ← append_assoc]
    rcases hhand with hnew | ⟨rfl, hsame⟩
    · rw [hnew]
      refine filter_handedAfter (hord x (mem_of_getElem? hkL)) (fun sid' m hmem => ?_) h.taken sid
      exact streamId_of_mem_handed hL hinv' (hnew ▸ hmem)
    · rw [hsame, append_nil]
      exact h.taken sid

lemma ReceiverSide.take (h : ReceiverSide initialTsn L s) : ReceiverSide initialTsn L s.take := by
  obtain ⟨⟨htrkr, hdirect, hq⟩, htk⟩ := h
  unfold Transfer.take ReassemblyQueue.getNextMessage
  cases hm : s.reception.receiver.queue.reassembledMessages with
  | nil => exact ⟨⟨htrkr, hdirect, hq⟩, htk⟩
  | cons m rest =>
    refine ⟨⟨htrkr, hdirect, hq⟩, fun sid => ?_⟩
    rw [← htk sid, hm, append_assoc]
    rfl

/-- **Every run of the receiver**, against any log that the log of the run leads to. -/
lemma receiverSide_run (hL : Conforming L) (hep : ∀ x ∈ L, x.epoch = 0)
    (hord : ∀ x ∈ L, x.data.isUnordered = false) (evs : List Event) :
    ∀ s : Transfer, ReceiverSide initialTsn L s → (run (step initialTsn) s evs).log <+: L →
      Along (step initialTsn) (Ok initialTsn) s evs →
      ReceiverSide initialTsn L (run (step initialTsn) s evs) := by
  induction evs with
  | nil => exact fun s h _ _ => h
  | cons e evs ih =>
    intro s h hpre hok
    refine ih (s.step initialTsn e) ?_ hpre hok.2
    have hstep := hok.1
    cases e with
    | add now message => exact ⟨h.inv, h.taken⟩
    | produce now maxSize =>
      simp only [step]
      split <;> exact ⟨h.inv, h.taken⟩
    | arrive k => exact h.arrive hL hep hord ((log_run (.arrive k :: evs) s).trans hpre) hstep
    | getNextMessage => exact h.take

/-! ## The two sides together -/

lemma SenderSide.messageOf_frags (h : SenderSide s) {base : Int} {sid : StreamID} {i : Nat}
    (hended : Ended (dataLayout base s.log sid 0) i) :
    (s.sent sid)[i]? = some (messageOf ((dataLayout base s.log sid 0).frags i)) := by
  have hpos := hended.length_pos
  obtain ⟨j, d, hj, hend⟩ := hended
  obtain ⟨l, x, hl, rfl, -, rfl, hord, hsid, hep, -⟩ := log_of_dataLayout h.inv.conforming hj
  have hx : x ∈ blockOf key s.log (orderedKey sid x.number) :=
    mem_filter.mpr ⟨mem_of_getElem? hl, by
      simp [key, orderedKey, hord, hsid, hep]⟩
  obtain ⟨k, hk⟩ := h.inv.streams sid
  obtain ⟨-, hdone, m, hm, -⟩ := hk.chunks x.number x hx
  have hpay := hk.bytes x.number m hm
  rw [if_pos (hdone hend), take_length] at hpay
  have hmsid : m.streamId = sid := h.inv.messages sid m (mem_of_getElem? hm)
  rw [hm]
  congr 1
  -- the first fragment carries the message's stream and PPID
  obtain ⟨l0, x0, hl0, hd0, -, hnum0, hord0, hsid0, hep0, -⟩ :=
    log_of_dataLayout h.inv.conforming (getElem?_eq_getElem hpos)
  have hx0 : x0 ∈ blockOf key s.log (orderedKey sid x.number) :=
    mem_filter.mpr ⟨mem_of_getElem? hl0, by
      simp [key, orderedKey, hord0, hsid0, hep0, hnum0]⟩
  obtain ⟨-, -, m0, hm0, hppid⟩ := hk.chunks x.number x0 hx0
  obtain rfl : m = m0 := Option.some.inj (hm.symm.trans hm0)
  have hfrags : ((dataLayout base s.log sid 0).frags x.number).flatMap Data.payload = m.payload := by
    rw [← hpay, joined, dataLayout, flatMap_map]
    rfl
  rw [messageOf, hfrags, head?_eq_getElem?, getElem?_eq_getElem hpos, ← hd0]
  simp only [Option.map_some, Option.getD_some, hsid0, hppid, ← hmsid]

/-- **Ordered delivery.** In every run whose events meet their conditions, whatever is lost,
duplicated and reordered, the messages taken from a stream are a prefix of those added to it,
with the same payload and PPID. -/
theorem delivered_in_order (initialTsn : TSN) (mtu defaultPriority threshold maxSizeBytes : Nat)
    (evs : List Event) (sid : StreamID) {s : Transfer}
    (hs : s = run (step initialTsn)
      (init initialTsn (new mtu defaultPriority threshold) maxSizeBytes) evs)
    (hok : Along (step initialTsn) (Ok initialTsn)
      (init initialTsn (new mtu defaultPriority threshold) maxSizeBytes) evs) :
    s.taken.filter (fun m => m.streamId = sid) <+: s.sent sid := by
  have hsend := senderSide_run evs _
    (senderSide_init initialTsn mtu defaultPriority threshold maxSizeBytes) hok
  rw [← hs] at hsend
  have hrecv := receiverSide_run hsend.inv.conforming (fun x hx => (hsend.inv.ordered x hx).2)
    (fun x hx => (hsend.inv.ordered x hx).1) evs _ (receiverSide_init _ maxSizeBytes s.log)
    (by rw [← hs]) hok
  rw [← hs] at hrecv
  obtain ⟨base, streams, -, -, -, hstr⟩ := hrecv.inv.queue
  obtain ⟨-, -, n, hf, hhand, -⟩ := hstr sid
  have hpre : s.reception.handed sid <+: s.sent sid := by
    rw [hhand]
    refine prefix_iff_getElem?.mpr fun i hi => ?_
    have hlt : i < n := by simpa [messagesBetween] using hi
    rw [hsend.messageOf_frags (hf.done i hlt).1]
    simp [messagesBetween]
  calc s.taken.filter (fun m => m.streamId = sid)
      <+: (s.taken ++ s.reception.receiver.queue.reassembledMessages).filter
        (fun m => m.streamId = sid) := by
        rw [filter_append]
        exact prefix_append _ _
    _ = s.reception.handed sid := hrecv.taken sid
    _ <+: s.sent sid := hpre

/-- Two messages, the first in two chunks, whose three chunks arrive in reverse, one twice. -/
def reversed : List Event :=
  [.add 0 ⟨1, 51, [1, 2, 3]⟩, .add 0 ⟨1, 53, [4]⟩, .produce 0 2, .produce 0 2, .produce 0 2,
    .arrive 2, .arrive 1, .arrive 1, .arrive 0, .getNextMessage, .getNextMessage]

theorem delivered_in_order_reversed : (run (step 7) (init 7 (new 1200 256 0) 1000) reversed).taken =
    [⟨1, 51, [1, 2, 3]⟩, ⟨1, 53, [4]⟩] ∧
      (run (step 7) (init 7 (new 1200 256 0) 1000) reversed).taken.filter
          (fun m => m.streamId = 1) <+:
        (run (step 7) (init 7 (new 1200 256 0) 1000) reversed).sent 1 :=
  ⟨by decide +kernel, delivered_in_order 7 1200 256 0 1000 reversed 1 rfl (by decide +kernel)⟩

/-! ## Nearness of neighbours is not enough -/

def sendSingles (payload : Nat → List UInt8) (count : Nat) : List Event :=
  (range count).flatMap fun k => [.add 0 ⟨1, 0, payload k⟩, .produce 0 100]

lemma run_sendSingles {payload : Nat → List UInt8} (hpay : ∀ k, ∃ b, payload k = [b])
    (count : Nat)
    (hs : s = run (step 1) (init 1 (new 1200 256 0) 1000) (sendSingles payload count)) :
    s.queue.Idle count ∧ s.log = singleLog 1 payload count ∧
      s.sent 1 = (range count).map (fun k => ⟨1, 0, payload k⟩) ∧
      s.reception = Reception.init 1 1000 ∧ s.taken = [] := by
  induction count generalizing s with
  | zero =>
    rw [hs]
    exact ⟨.inl ⟨rfl, rfl⟩, rfl, rfl, rfl, rfl⟩
  | succ count ih =>
    obtain ⟨hidle, hlog, hsent, hrec, htk⟩ := ih rfl
    rw [sendSingles, range_succ, flatMap_append, run_append] at hs
    change s = run (step 1) (run (step 1) _ (sendSingles payload count)) _ at hs
    generalize run (step 1) (init 1 (new 1200 256 0) 1000) (sendSingles payload count) = s0
      at hs hidle hlog hsent hrec htk
    obtain ⟨b, hb⟩ := hpay count
    obtain ⟨d, hd, hdata, hidle'⟩ := hidle.send b
    rw [← hb] at hd hidle'
    have hrun : s = { s0 with
        queue := ((s0.queue.add 0 ⟨1, 0, payload count⟩ {}).produce 0 100).2
        sent := Function.update s0.sent 1 (s0.sent 1 ++ [⟨1, 0, payload count⟩])
        log := s0.log ++ [tagChunk s0.log 0 d.data] } := by
      rw [hs]
      simp only [flatMap_cons, flatMap_nil, append_nil, run_cons, run_nil, step]
      generalize (s0.queue.add 0 ⟨1, 0, payload count⟩ {}).produce 0 100 = r at hd
      obtain ⟨data, q⟩ := r
      obtain rfl : data = some d := hd
      rfl
    have hch : d.data = (singleChunk 1 payload count).data := by
      rw [hdata, singleChunk, singleChunk, hb]
    rw [hrun]
    refine ⟨hidle', ?_, ?_, hrec, htk⟩
    · simp only
      rw [hlog, hch, tagChunk_singleLog, singleLog_succ]
    simp only
    rw [Function.update_self, hsent, range_succ, map_append]
    rfl

def arrivals (evs : List Event) : List Nat :=
  evs.filterMap fun
    | .arrive k => some k
    | _ => none

def NeighboursNear (log : List SentChunk) (ks : List Nat) : Prop :=
  ks.IsChain fun k k' => ∀ x x', log[k]? = some x → log[k']? = some x' →
    (x.number : Int) - x'.number < 2 ^ 15 ∧ (x'.number : Int) - x.number < 2 ^ 15

def Valid : Event → Prop
  | .add _ message => message.payload ≠ []
  | .produce _ maxSize => 1 ≤ maxSize
  | _ => True

def farStart (count : Nat) : List Event :=
  sendSingles farPayload count ++ [.arrive 65536, .getNextMessage]

lemma farPayload_eq (k : Nat) : ∃ b, farPayload k = [b] := by
  unfold farPayload
  split <;> exact ⟨_, rfl⟩

lemma valid_farStart (count : Nat) : ∀ e ∈ farStart count, Valid e := by
  intro e he
  rcases mem_append.mp he with he | he
  · obtain ⟨k, -, hk⟩ := mem_flatMap.mp he
    rcases mem_cons.mp hk with rfl | hk
    · obtain ⟨b, hb⟩ := farPayload_eq k
      exact hb ▸ cons_ne_nil b []
    rw [mem_singleton.mp hk]
    exact (by decide : 1 ≤ 100)
  · rcases mem_cons.mp he with rfl | he
    · trivial
    rw [mem_singleton.mp he]
    trivial

lemma arrivals_farStart (count : Nat) : arrivals (farStart count) = [65536] := by
  rw [arrivals, farStart, filterMap_append, filterMap_eq_nil_iff.mpr]
  · rfl
  intro e he
  obtain ⟨k, -, hk⟩ := mem_flatMap.mp he
  rcases mem_cons.mp hk with rfl | hk
  · rfl
  · rw [mem_singleton.mp hk]

lemma taken_farStart {count : Nat} (hcount : 65536 < count)
    (hs : s = run (step 1) (init 1 (new 1200 256 0) 1000) (farStart count)) :
    s.taken = [⟨1, 0, [1]⟩] ∧ (s.sent 1)[0]? = some ⟨1, 0, [0]⟩ := by
  obtain ⟨-, hlog, hsent, hrec, htk⟩ :=
    run_sendSingles farPayload_eq count rfl
  rw [farStart, run_append] at hs
  generalize run (step 1) (init 1 (new 1200 256 0) 1000) (sendSingles farPayload count)
    = s0 at hs hlog hsent hrec htk
  have hk : s0.log[65536]? = some (singleChunk 1 farPayload 65536) := by
    rw [hlog]
    exact singleLog_getElem? 1 farPayload hcount
  have hmsg : ((Reception.init 1 1000).arrive 1 65536
      (singleChunk 1 farPayload 65536)).receiver.queue.reassembledMessages = [⟨1, 0, [1]⟩] := by
    decide +kernel
  have hfinal : s.taken = [⟨1, 0, [1]⟩] ∧ s.sent = s0.sent := by
    rw [hs]
    simp only [run_cons, run_nil, step, take, step_eq_arrive hk, hrec,
      ReassemblyQueue.getNextMessage, hmsg, htk, nil_append, and_self]
  refine ⟨hfinal.1, ?_⟩
  rw [hfinal.2, hsent, getElem?_map, getElem?_range (by omega)]
  rfl

/-- **The first chunk has no neighbour.** Chunks handled one after the other are near, because
there is only one, and yet what is taken is not a prefix of what was added. -/
theorem misdelivered_of_far_start : (∀ e ∈ farStart 65537, Valid e) ∧
    NeighboursNear (run (step 1) (init 1 (new 1200 256 0) 1000) (farStart 65537)).log
      (arrivals (farStart 65537)) ∧
    ¬ (run (step 1) (init 1 (new 1200 256 0) 1000) (farStart 65537)).taken.filter
        (fun m => m.streamId = 1) <+:
      (run (step 1) (init 1 (new 1200 256 0) 1000) (farStart 65537)).sent 1 := by
  refine ⟨valid_farStart _, ?_, fun hpre => ?_⟩
  · rw [arrivals_farStart]
    exact List.IsChain.singleton _
  obtain ⟨htk, hsent⟩ := taken_farStart (by omega : 65536 < 65537) rfl
  rw [htk] at hpre
  obtain ⟨rest, hrest⟩ := hpre
  rw [← hrest] at hsent
  simp at hsent

end Transfer

end WebRtc.Dcsctp
