import WebRtc.Dcsctp.Rx.StreamLedger

/-!
# dcSCTP — the bytes a reassembly queue holds

`queued_bytes_` is kept up to date by signed changes that every operation on the streams returns.
That each returns exactly the change it makes, as long as an `int` counts it, is part of `Conserves`.
So `queued_bytes_` is the number of bytes held while these stay below `2 ^ 31`
(`queuedBytes_eq_heldBytes`), and no operation but `Add` makes the queue hold more.
-/

namespace WebRtc.Dcsctp

open Lib ReassemblyQueue DeferredAction

/-! ## The streams -/

def OrderedStream.heldBytes (s : OrderedStream) : Nat := bytesBySsn s.chunksBySsn

def UnorderedStream.heldBytes (s : UnorderedStream) : Nat := chunkBytes s.chunks

def TraditionalReassemblyStreams.heldBytes (t : TraditionalReassemblyStreams) : Nat :=
  t.unorderedStreams.weight UnorderedStream.heldBytes + t.orderedStreams.weight OrderedStream.heldBytes

def InterleavedStream.heldBytes (s : InterleavedStream) : Nat := bytesByMid s.chunksByMid

def InterleavedReassemblyStreams.heldBytes (t : InterleavedReassemblyStreams) : Nat :=
  t.streams.weight InterleavedStream.heldBytes

namespace ReassemblyStreams

def heldBytes : ReassemblyStreams → Nat
  | .traditional s => s.heldBytes
  | .interleaved s => s.heldBytes

variable (t : ReassemblyStreams)

lemma heldBytes_eq : t.heldBytes = t.heldWeight Data.size := by
  cases t <;> rfl

lemma add_stores (tsn : Int) (data : Data) :
    (t.heldBytes + data.size < 2 ^ 31 →
      (t.add tsn data).bytes = (t.add tsn data).state.heldBytes - t.heldBytes) ∧
      (t.add tsn data).state.heldBytes + messageBytes (t.add tsn data).messages ≤
        t.heldBytes + data.size := by
  obtain ⟨hbytes, htotal⟩ := (t.add_conserves tsn data).bytes_released
  simp only [heldBytes_eq]
  exact ⟨fun hsmall => by have := hbytes hsmall; omega, htotal⟩

lemma handleForwardTsn_releases (tsn : Int) (skipped : List SkippedStream) :
    (t.heldBytes < 2 ^ 31 → (t.handleForwardTsn tsn skipped).bytes =
        t.heldBytes - (t.handleForwardTsn tsn skipped).state.heldBytes) ∧
      (t.handleForwardTsn tsn skipped).state.heldBytes +
        messageBytes (t.handleForwardTsn tsn skipped).messages ≤ t.heldBytes := by
  simp only [heldBytes_eq]
  exact (t.handleForwardTsn_conserves tsn skipped).bytes_released

@[simp] lemma heldBytes_resetStreams (sids : List StreamID) :
    (t.resetStreams sids).heldBytes = t.heldBytes := by
  rw [heldBytes_eq, heldWeight_resetStreams, heldBytes_eq]

@[simp] lemma heldBytes_create (inter : Bool) : (create inter).heldBytes = 0 := by
  cases inter <;> rfl

end ReassemblyStreams

/-! ## The queue -/

def DeferredAction.bytes : DeferredAction → Nat
  | .add _ data => data.size
  | .handleForwardTsn .. => 0

lemma ofNat_eq_add_ofInt {a b : Nat} {x : Int} (h : (b : Int) = a + x) :
    BitVec.ofNat 64 b = BitVec.ofNat 64 a + BitVec.ofInt 64 x := by
  rw [← BitVec.ofInt_natCast, h, BitVec.ofInt_add, BitVec.ofInt_natCast]

namespace ReassemblyQueue

def actionBytes (actions : List DeferredAction) : Nat := (actions.map bytes).sum

def deferredBytes (q : ReassemblyQueue) : Nat :=
  match q.deferredResetStreams with
  | none => 0
  | some d => actionBytes d.deferredActions

def heldBytes (q : ReassemblyQueue) : Nat :=
  q.streams.heldBytes + q.deferredBytes + messageBytes q.reassembledMessages

/-- `queued_bytes_` is the number of bytes held, and of `extra` ones about to be added again. -/
def AccountedWith (extra : Nat) (q : ReassemblyQueue) : Prop :=
  q.queuedBytes = BitVec.ofNat 64 (q.heldBytes + extra)

def Accounted (q : ReassemblyQueue) : Prop := q.AccountedWith 0

/-- What an operation may do to the queue: keep the accounts, as long as an `int` counts the bytes,
and hold at most `growth` more. -/
structure Evolves (growth : Nat) (q q' : ReassemblyQueue) : Prop where
  watermark : q'.watermarkBytes = q.watermarkBytes
  accounted : q.heldBytes + growth < 2 ^ 31 → ∀ extra, q.AccountedWith extra → q'.AccountedWith extra
  held : q'.heldBytes ≤ q.heldBytes + growth

lemma Evolves.refl (q : ReassemblyQueue) : Evolves 0 q q := ⟨rfl, fun _ _ h => h, le_refl _⟩

variable {q : ReassemblyQueue}

variable {q' : ReassemblyQueue} {growth : Nat}

lemma Evolves.trans {m n : Nat} {q'' : ReassemblyQueue} (h : Evolves m q q')
    (h' : Evolves n q' q'') : Evolves (m + n) q q'' := by
  have h1 := h.held
  have h2 := h'.held
  exact ⟨h'.watermark.trans h.watermark, fun hsmall extra he =>
    h'.accounted (by omega) extra (h.accounted (by omega) extra he), by omega⟩

lemma accounted_new (maxSize : Nat) (inter : Bool) :
    (new maxSize inter).Accounted := by
  simp [Accounted, AccountedWith, new, heldBytes, deferredBytes]

lemma heldBytes_new (maxSize : Nat) (inter : Bool) :
    (new maxSize inter).heldBytes = 0 := by
  simp [new, heldBytes, deferredBytes]

lemma apply_evolves {r : Reassembly ReassemblyStreams} {bytes : Int}
    (hbytes : q.streams.heldBytes + growth < 2 ^ 31 →
      bytes = r.state.heldBytes - q.streams.heldBytes)
    (htot : r.state.heldBytes + messageBytes r.messages ≤ q.streams.heldBytes + growth) :
    Evolves growth q (q.apply r bytes) := by
  have hheld : (q.apply r bytes).heldBytes =
      r.state.heldBytes + q.deferredBytes +
        (messageBytes q.reassembledMessages + messageBytes r.messages) := by
    simp [heldBytes, apply, deferredBytes]
  refine ⟨rfl, fun hsmall extra hq => ?_, ?_⟩
  · show q.queuedBytes + BitVec.ofInt 64 (messageBytes r.messages + bytes) = _
    rw [hq, hheld]
    refine (ofNat_eq_add_ofInt ?_).symm
    unfold heldBytes at hsmall ⊢
    have hexact := hbytes (by omega)
    omega
  · rw [hheld]
    unfold heldBytes
    omega

lemma deferredBytes_of_some {d : DeferredResetStreams}
    (h : q.deferredResetStreams = some d) : q.deferredBytes = actionBytes d.deferredActions := by
  simp [deferredBytes, h]

lemma defer_evolves {d : DeferredResetStreams}
    (hd : q.deferredResetStreams = some d) (action : DeferredAction) :
    Evolves action.bytes q
      ({ q with queuedBytes := q.queuedBytes + BitVec.ofNat 64 action.bytes }.defer action) := by
  have hheld : ({ q with queuedBytes := q.queuedBytes + BitVec.ofNat 64 action.bytes }.defer
      action).heldBytes = q.heldBytes + action.bytes := by
    simp [heldBytes, defer, deferredBytes, hd, actionBytes]
    omega
  refine ⟨rfl, fun _ extra hq => ?_, hheld.le⟩
  unfold AccountedWith at hq ⊢
  rw [hheld]
  show q.queuedBytes + BitVec.ofNat 64 action.bytes = _
  rw [hq, ← BitVec.ofNat_add]
  congr 1
  omega

lemma Evolves.of_unwrapper {u : WebRtc.Numerics.SeqNumUnwrapper 32} (h : Evolves growth { q with tsnUnwrapper := u } q') : Evolves growth q q' :=
  ⟨h.watermark, h.accounted, h.held⟩

lemma isSome_of_defers {tsn : Int} {sid : StreamID} (h : q.defers tsn sid = true) :
    ∃ d, q.deferredResetStreams = some d := by
  cases hd : q.deferredResetStreams with
  | none => simp [defers, hd] at h
  | some d => exact ⟨d, rfl⟩

lemma add_evolves (q : ReassemblyQueue) (tsn : TSN) (data : Data) :
    Evolves data.size q (q.add tsn data) := by
  unfold add
  dsimp only
  split
  case isTrue hdef =>
    obtain ⟨d, hd⟩ := isSome_of_defers hdef
    exact (defer_evolves (q := { q with tsnUnwrapper := (q.tsnUnwrapper.unwrap tsn).2 }) hd
      (.add tsn data)).of_unwrapper
  case isFalse =>
    have hstor := q.streams.add_stores (q.tsnUnwrapper.unwrap tsn).1 data
    exact (apply_evolves (q := { q with tsnUnwrapper := (q.tsnUnwrapper.unwrap tsn).2 })
      hstor.1 hstor.2).of_unwrapper

lemma handleForwardTsn_evolves (q : ReassemblyQueue) (tsn : TSN) (skipped : List SkippedStream) :
    Evolves 0 q (q.handleForwardTsn tsn skipped) := by
  have hrel := q.streams.handleForwardTsn_releases (q.tsnUnwrapper.unwrap tsn).1 skipped
  have hhan : Evolves 0 q
      (apply { q with tsnUnwrapper := (q.tsnUnwrapper.unwrap tsn).2 }
        (q.streams.handleForwardTsn (q.tsnUnwrapper.unwrap tsn).1 skipped)
        (-(q.streams.handleForwardTsn (q.tsnUnwrapper.unwrap tsn).1 skipped).bytes)) :=
    (apply_evolves (q := { q with tsnUnwrapper := (q.tsnUnwrapper.unwrap tsn).2 })
      (fun hsmall => by rw [hrel.1 hsmall, neg_sub]) hrel.2).of_unwrapper
  unfold handleForwardTsn
  dsimp only
  split
  case h_1 d hd =>
    split
    · have hdefer := defer_evolves hd (.handleForwardTsn tsn skipped)
      refine ⟨rfl, fun hsmall extra hq => ?_, hdefer.held⟩
      have h := hdefer.accounted hsmall extra hq
      simpa [AccountedWith, bytes, defer, heldBytes, deferredBytes] using h
    · exact hhan
  case h_2 => exact hhan

lemma foldl_runAction_evolves (actions : List DeferredAction) (q : ReassemblyQueue) :
    (actions.foldl runAction q).watermarkBytes = q.watermarkBytes ∧
      (q.heldBytes + actionBytes actions < 2 ^ 31 → ∀ extra, q.AccountedWith (actionBytes actions + extra) →
        (actions.foldl runAction q).AccountedWith extra) ∧
      (actions.foldl runAction q).heldBytes ≤ q.heldBytes + actionBytes actions := by
  induction actions generalizing q with
  | nil => exact ⟨rfl, fun _ extra h => by simpa [actionBytes] using h, by simp⟩
  | cons action rest ih =>
    have hbytes : actionBytes (action :: rest) = action.bytes + actionBytes rest := by
      simp [actionBytes]
    obtain ⟨hwatermark, hacc, hheld⟩ := ih (q.runAction action)
    cases action with
    | add tsn data =>
      have hadd := add_evolves { q with queuedBytes := q.queuedBytes - BitVec.ofNat 64 data.size }
        tsn data
      have h : (q.runAction (.add tsn data)).heldBytes ≤ q.heldBytes + data.size := hadd.held
      have hsize : bytes (.add tsn data) = data.size := rfl
      refine ⟨hwatermark.trans hadd.watermark, fun hsmall extra hq => hacc (by omega) extra ?_, ?_⟩
      · refine hadd.accounted (show q.heldBytes + data.size < 2 ^ 31 by omega) _ ?_
        show q.queuedBytes - BitVec.ofNat 64 data.size = BitVec.ofNat 64 (q.heldBytes + _)
        rw [hq, hbytes, show q.heldBytes + (bytes (.add tsn data) + actionBytes rest +
          extra) = q.heldBytes + (actionBytes rest + extra) + data.size from by
            show q.heldBytes + (data.size + actionBytes rest + extra) = _
            omega, BitVec.ofNat_add, BitVec.add_sub_cancel]
      · rw [List.foldl_cons]
        omega
    | handleForwardTsn tsn skipped =>
      have hfwd := handleForwardTsn_evolves q tsn skipped
      have h : (q.runAction (.handleForwardTsn tsn skipped)).heldBytes ≤ q.heldBytes + 0 :=
        hfwd.held
      refine ⟨hwatermark.trans hfwd.watermark, fun hsmall extra hq => hacc (by omega) extra ?_, ?_⟩
      · refine hfwd.accounted (by omega) _ ?_
        simpa [hbytes, bytes] using hq
      rw [List.foldl_cons]
      omega

lemma resetStreamsAndLeaveDeferredReset_evolves (q : ReassemblyQueue) (sids : List StreamID) :
    Evolves 0 q (q.resetStreamsAndLeaveDeferredReset sids) := by
  unfold resetStreamsAndLeaveDeferredReset
  dsimp only
  split
  case h_1 hnone =>
    refine ⟨rfl, fun _ extra hq => ?_, ?_⟩
    · simpa [AccountedWith, heldBytes, deferredBytes, hnone] using hq
    · simp [heldBytes, deferredBytes]
  case h_2 d hd =>
    obtain ⟨hwatermark, hacc, hheld⟩ := foldl_runAction_evolves d.deferredActions
      { q with streams := q.streams.resetStreams sids, deferredResetStreams := none }
    have hq : q.heldBytes = heldBytes
        { q with streams := q.streams.resetStreams sids, deferredResetStreams := none } +
        actionBytes d.deferredActions := by
      rw [heldBytes, deferredBytes_of_some hd]
      simp [heldBytes, deferredBytes]
      omega
    refine ⟨hwatermark, fun hsmall extra haq => hacc (by omega) extra ?_, by omega⟩
    unfold AccountedWith at haq ⊢
    rw [hq, add_assoc] at haq
    exact haq

lemma enterDeferredReset_evolves (q : ReassemblyQueue) (tsn : TSN) (streams : List StreamID) :
    Evolves 0 q (q.enterDeferredReset tsn streams) := by
  unfold enterDeferredReset
  split
  case h_1 => exact .refl q
  case h_2 hnone =>
    refine ⟨rfl, fun _ extra hq => ?_, ?_⟩
    · simpa [AccountedWith, heldBytes, deferredBytes, hnone, actionBytes] using hq
    · simp [heldBytes, deferredBytes, actionBytes]

lemma getNextMessage_evolves (q : ReassemblyQueue) : Evolves 0 q q.getNextMessage.2 := by
  unfold getNextMessage
  split
  case h_1 => exact .refl q
  case h_2 m rest hmsgs =>
    refine ⟨rfl, fun _ extra hq => ?_, ?_⟩
    · unfold AccountedWith at hq ⊢
      show q.queuedBytes - BitVec.ofNat 64 m.payload.length =
        BitVec.ofNat 64 (q.streams.heldBytes + q.deferredBytes + messageBytes rest + extra)
      rw [hq, show q.heldBytes + extra = q.streams.heldBytes + q.deferredBytes + messageBytes rest +
        extra + m.payload.length from by
          rw [heldBytes, hmsgs, messageBytes_cons]
          omega, BitVec.ofNat_add, BitVec.add_sub_cancel]
    · show q.streams.heldBytes + q.deferredBytes + messageBytes rest ≤ q.heldBytes + 0
      rw [heldBytes, hmsgs, messageBytes_cons]
      omega

/-! ## What is left below the watermark -/

structure BelowWatermark (q : ReassemblyQueue) : Prop where
  accounted : q.Accounted
  held : q.heldBytes ≤ q.watermarkBytes
  fits : q.watermarkBytes < 2 ^ 31

lemma BelowWatermark.toNat_queuedBytes (h : q.BelowWatermark) :
    q.queuedBytes.toNat = q.heldBytes := by
  have hacc : q.queuedBytes = BitVec.ofNat 64 q.heldBytes := h.accounted
  rw [hacc, BitVec.toNat_ofNat]
  have hheld := h.held
  have hfits := h.fits
  exact Nat.mod_eq_of_lt (by omega)

lemma BelowWatermark.toNat_remainingBytes (h : q.BelowWatermark) :
    q.remainingBytes.toNat = q.watermarkBytes - q.queuedBytes.toNat := by
  have hqueued := h.toNat_queuedBytes
  have hheld := h.held
  have hfits := h.fits
  have hwide : q.watermarkBytes % 2 ^ 64 = q.watermarkBytes := Nat.mod_eq_of_lt (by omega)
  rw [remainingBytes, BitVec.toNat_sub_of_le]
  · rw [BitVec.toNat_ofNat, hwide]
  rw [BitVec.le_def, BitVec.toNat_ofNat, hwide]
  omega

lemma BelowWatermark.evolves (h : q.BelowWatermark)
    (he : Evolves growth q q') (hgrowth : q.queuedBytes.toNat + growth ≤ q.watermarkBytes) :
    q'.BelowWatermark := by
  have hheld := he.held
  have hqueued := h.toNat_queuedBytes
  have hwatermark := he.watermark
  have hfits := h.fits
  exact ⟨he.accounted (by omega) 0 h.accounted, by omega, by omega⟩

lemma BelowWatermark.evolves_zero (h : q.BelowWatermark)
    (he : Evolves 0 q q') : q'.BelowWatermark := by
  refine h.evolves he ?_
  have hqueued := h.toNat_queuedBytes
  have hheld := h.held
  omega

/-! ## Runs -/

inductive Operation where
  | add (tsn : TSN) (data : Data)
  | handleForwardTsn (newCumulativeTsn : TSN) (skippedStreams : List SkippedStream)
  | enterDeferredReset (senderLastAssignedTsn : TSN) (streams : List StreamID)
  | resetStreamsAndLeaveDeferredReset (streamIds : List StreamID)
  | getNextMessage

def perform (q : ReassemblyQueue) : Operation → ReassemblyQueue
  | .add tsn data => q.add tsn data
  | .handleForwardTsn newCumulativeTsn skippedStreams => q.handleForwardTsn newCumulativeTsn skippedStreams
  | .enterDeferredReset senderLastAssignedTsn streams => q.enterDeferredReset senderLastAssignedTsn streams
  | .resetStreamsAndLeaveDeferredReset streamIds => q.resetStreamsAndLeaveDeferredReset streamIds
  | .getNextMessage => q.getNextMessage.2

def Operation.accepted : Operation → List Data
  | .add _ data => [data]
  | _ => []

def accepted (ops : List Operation) : List Data := ops.flatMap Operation.accepted

lemma accepted_append (ops ops' : List Operation) :
    accepted (ops ++ ops') = accepted ops ++ accepted ops' := List.flatMap_append ..

lemma evolves_perform (q : ReassemblyQueue) (op : Operation) :
    Evolves (total Data.size op.accepted) q (q.perform op) := by
  cases op with
  | add tsn data => exact q.add_evolves tsn data
  | handleForwardTsn tsn skipped => exact q.handleForwardTsn_evolves tsn skipped
  | enterDeferredReset tsn streams => exact q.enterDeferredReset_evolves tsn streams
  | resetStreamsAndLeaveDeferredReset streamIds =>
    exact q.resetStreamsAndLeaveDeferredReset_evolves streamIds
  | getNextMessage => exact q.getNextMessage_evolves

lemma evolves_run (ops : List Operation) (q : ReassemblyQueue) :
    Evolves (total Data.size (accepted ops)) q (run perform q ops) := by
  induction ops generalizing q with
  | nil => exact .refl q
  | cons op ops ih =>
    have h := (q.evolves_perform op).trans (ih (q.perform op))
    rwa [← total_append] at h

/-- The bytes held before the operation and those of the chunk that it adds are fewer than `2 ^ 31`. -/
def CountedByInt (q : ReassemblyQueue) (op : Operation) : Prop :=
  q.heldBytes + total Data.size op.accepted < 2 ^ 31

instance (q : ReassemblyQueue) (op : Operation) : Decidable (q.CountedByInt op) := Nat.decLt ..

/-- The first fragment of an unordered message, with `n` bytes. -/
def firstFragment (n : Nat) : Data where
  streamId := 1
  ssn := 0
  mid := 0
  fsn := 0
  ppid := 51
  payload := List.replicate n 0
  isBeginning := true
  isEnd := false
  isUnordered := true

/-- A fragment that does not end its message is stored in an empty stream. -/
lemma unordered_add_fragment (tsn : Int) {d : Data} (hend : d.isEnd = false) :
    UnorderedStream.empty.add tsn d = ⟨asInt d.size, [], ⟨OrdMap.empty.insert tsn d⟩⟩ := by
  have hentries : (OrdMap.empty.insert tsn d).entries = [(tsn, d)] := rfl
  simp [UnorderedStream.add, hend, OrdMap.emplace, UnorderedStream.empty,
    UnorderedStream.tryToAssembleMessage, hentries, UnorderedStream.findEnd]

/-- A first fragment of any size is held, and counted as `Add` returns it. -/
lemma add_firstFragment (n : Nat) :
    ((new 1000 false).add 10 (firstFragment n)).heldBytes = n ∧
      ((new 1000 false).add 10 (firstFragment n)).queuedBytes = BitVec.ofInt 64 (asInt n) := by
  have hsize : (firstFragment n).size = n := List.length_replicate
  obtain ⟨tsn, htsn⟩ : ∃ tsn, ((new 1000 false).tsnUnwrapper.unwrap 10).1 = tsn := ⟨_, rfl⟩
  have hadd : (new 1000 false).streams.add tsn (firstFragment n) =
      ⟨asInt n, [], .traditional ⟨OrdMap.empty.insert 1 ⟨OrdMap.empty.insert tsn (firstFragment n)⟩,
        OrdMap.empty⟩⟩ := by
    have hone := unordered_add_fragment tsn (d := firstFragment n) rfl
    rw [hsize] at hone
    show (⟨(UnorderedStream.empty.add tsn (firstFragment n)).bytes,
      (UnorderedStream.empty.add tsn (firstFragment n)).messages, .traditional
        ⟨OrdMap.empty.insert 1 (UnorderedStream.empty.add tsn (firstFragment n)).state,
          OrdMap.empty⟩⟩ : Reassembly ReassemblyStreams) = _
    rw [hone]
  have hqueue : (new 1000 false).add 10 (firstFragment n) =
      apply { new 1000 false with tsnUnwrapper := ((new 1000 false).tsnUnwrapper.unwrap 10).2 }
        ((new 1000 false).streams.add tsn (firstFragment n))
        ((new 1000 false).streams.add tsn (firstFragment n)).bytes := by
    rw [← htsn]
    rfl
  rw [hqueue, hadd]
  constructor
  · exact hsize
  · simp [apply, new]

end ReassemblyQueue

end WebRtc.Dcsctp
