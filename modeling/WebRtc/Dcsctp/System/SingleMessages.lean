import WebRtc.Dcsctp.System.Sender

/-!
# dcSCTP — messages of one byte

A send queue whose only stream is 1 sends such a message as the chunk that the numbers of the
stream ask for, and has nothing to send again. This gives senders whose log is known chunk by
chunk.
-/

namespace WebRtc.Dcsctp

open Lib OrdMap MaxRetransmits

namespace RRSendQueue

def onlyStream (n : Nat) (time : ℚ) : OutgoingStream where
  schedulerStream := ⟨256, time, 0⟩
  nextOrderedMid := BitVec.ofNat 32 n
  nextSsn := BitVec.ofNat 16 n

def withMessage (n : Nat) (b : UInt8) (time finish : ℚ) : OutgoingStream :=
  { onlyStream n time with
    schedulerStream := ⟨256, time, finish⟩
    items := [Item.new n ⟨1, 0, [b]⟩ ⟨false, noLimit, none, 0⟩] }

def only (s : OutgoingStream) (active : OrdSet (ℚ ×ₗ StreamID)) (current : Option StreamID) (size : Nat)
    (id : OutgoingMessageId) (time : ℚ) (callbacks : List SendCallback) : RRSendQueue where
  defaultPriority := 256
  currentMessageId := id
  scheduler :=
    { maxPayloadBytes := 1168, virtualTime := time, currentStream := current, activeStreams := active }
  totalBufferedAmount := { value := size }
  streams := empty.insert 1 { s with bufferedAmount := { value := size } }
  callbacks := callbacks

lemma produce_only {q : RRSendQueue} {n : Nat} {b : UInt8} {time : ℚ} {current : Option StreamID}
    {callbacks : List SendCallback} (hq : q = only (withMessage n b time (time + 1))
      (empty.insert (toLex (time + 1, 1)) ()) current 1 (n + 1) time callbacks) :
    q.produce 0 100 =
      (some ⟨n, (singleChunk 1 (fun _ => [b]) n).data, noLimit, none, 0⟩,
        only (onlyStream (n + 1) (time + 1)) empty (some 1) 0 (n + 1) (time + 1)
          (callbacks ++ [.onBufferedAmountLow 1] ++ [.onTotalBufferedAmountLow])) := by
  have hemp : ((empty : OrdSet (ℚ ×ₗ StreamID)).insert (toLex (time + 1, 1)) ()).erase
      (toLex (time + 1, 1)) = empty := by
    refine ext_mem fun p => ?_
    simp only [mem_erase, mem_insert, not_mem_empty, and_false, or_false, iff_false]
    exact fun h => h.2 (congrArg Prod.fst h.1)
  have hturn : q.reschedule (toLex (time + 1, 1)) =
      only (withMessage n b time 0) empty (some 1) 1 (n + 1) time callbacks := by
    rw [hq, reschedule]
    simp only [only, hemp]
    rfl
  have hnums : onlyStream (n + 1) (time + 1) = { onlyStream n (time + 1) with
      nextOrderedMid := BitVec.ofNat 32 n + 1, nextSsn := BitVec.ofNat 16 n + 1 } := by
    simp [onlyStream, BitVec.ofNat_add]
  have hsnd : (only (withMessage n b time 0) empty (some 1) 1 (n + 1) time
      callbacks).schedulerStreamProduce 1 0 100 =
        (some ⟨n, (singleChunk 1 (fun _ => [b]) n).data, noLimit, none, 0⟩,
          only (onlyStream (n + 1) (time + 1)) empty (some 1) 0 (n + 1) time
            (callbacks ++ [.onBufferedAmountLow 1] ++ [.onTotalBufferedAmountLow])) := by
    rw [hnums]
    rfl
  have hres : q.rescheduling = true := by rw [hq]; rfl
  have hfr : q.scheduler.activeStreams.front? = some (toLex (time + 1, 1), ()) := by rw [hq]; rfl
  have hcrt : (only (withMessage n b time 0) empty (some 1) 1 (n + 1) time
      callbacks).scheduler.currentStream = some 1 := rfl
  simp only [produce, hres, schedulerLoop, hfr, if_true, hturn, hcrt, hsnd]
  rfl

def Idle (q : RRSendQueue) (n : Nat) : Prop :=
  (n = 0 ∧ q = new 1200 256 0) ∨
    ∃ time callbacks, q = only (onlyStream n time) empty (some 1) 0 n time callbacks

lemma Idle.send {q : RRSendQueue} {n : Nat} (h : q.Idle n) (b : UInt8) :
    ∃ d, ((q.add 0 ⟨1, 0, [b]⟩ {}).produce 0 100).1 = some d ∧
      d.data = (singleChunk 1 (fun _ => [b]) n).data ∧
      ((q.add 0 ⟨1, 0, [b]⟩ {}).produce 0 100).2.Idle (n + 1) := by
  have hadd : ∃ time current callbacks, q.add 0 ⟨1, 0, [b]⟩ {} =
      only (withMessage n b time (time + 1)) (empty.insert (toLex (time + 1, 1)) ()) current 1
        (n + 1) time callbacks := by
    rcases h with ⟨rfl, rfl⟩ | ⟨time, callbacks, rfl⟩
    · exact ⟨0, none, [], rfl⟩
    · exact ⟨time, some 1, callbacks, rfl⟩
  obtain ⟨time, current, callbacks, hadd⟩ := hadd
  rw [produce_only hadd, ← Nat.cast_succ]
  exact ⟨_, rfl, rfl, .inr ⟨_, _, rfl⟩⟩

end RRSendQueue

lemma tagChunk_singleLog (sid : StreamID) (payload : Nat → List UInt8) (k : Nat) :
    tagChunk (singleLog sid payload k) 0 (singleChunk sid payload k).data =
      singleChunk sid payload k := by
  have hbgn := begunOn_singleLog sid payload k
  have hblock := blockOf_singleLog sid payload k
  simp only [tagChunk, singleChunk, if_true, hbgn, hblock, List.length_nil]

lemma singleLog_succ (sid : StreamID) (payload : Nat → List UInt8) (k : Nat) :
    singleLog sid payload (k + 1) = singleLog sid payload k ++ [singleChunk sid payload k] := by
  rw [singleLog, List.range_succ, List.map_append]
  rfl

end WebRtc.Dcsctp
