import WebRtc.Dcsctp.Socket.Transitions

/-!
# dcSCTP — the window a socket advertises

A SACK advertises `remaining_bytes()`, an unsigned difference. A chunk is refused only when the
queue has reached its watermark before, so the chunk that is accepted last may take the queue beyond
it, and then the difference wraps.
-/

namespace WebRtc.Dcsctp

open Lib ReassemblyQueue

/-! ## The watermark -/

/-- A `float` is off by at most one part in `2 ^ 23`. -/
lemma roundToFloat_le (n : Nat) : 2 ^ 23 * roundToFloat n ≤ (2 ^ 23 + 1) * n := by
  unfold roundToFloat
  dsimp only
  obtain ⟨e, he⟩ : ∃ e, e = Nat.log2 n - 23 := ⟨_, rfl⟩
  rw [← he]
  have hdiv : 2 ^ e * (n / 2 ^ e) + n % 2 ^ e = n := Nat.div_add_mod n (2 ^ e)
  have hcomm : n / 2 ^ e * 2 ^ e = 2 ^ e * (n / 2 ^ e) := Nat.mul_comm _ _
  split
  · rename_i hup
    -- Rounding up happens only when bits were cut off, so `n` has more than 24.
    have hlog : e ≠ 0 := by
      rintro rfl
      simp [Nat.mod_one] at hup
    have hn : n ≠ 0 := by
      rintro rfl
      exact hlog he
    have hlarge : 2 ^ 23 * 2 ^ e ≤ n := by
      rw [← pow_add]
      exact (Nat.pow_le_pow_right (by decide) (by omega)).trans (Nat.log2_self_le hn)
    rw [Nat.add_mul, hcomm]
    omega
  · rw [hcomm]
    omega

lemma watermarkOf_lt {maxSize : Nat} (h : maxSize < 2 ^ 31) :
    watermarkOf maxSize < 2 ^ 31 := by
  have hsize := roundToFloat_le maxSize
  have hproduct := roundToFloat_le (roundToFloat maxSize * kHighWatermarkLimit)
  unfold watermarkOf
  unfold kHighWatermarkLimit at hproduct ⊢
  omega

namespace DcSctpSocket

def HasRoom (s : DcSctpSocket) (_ : VerificationTag) (c : Chunk) : Prop :=
  ∀ t ∈ s.tcb, ∀ data ∈ storedBy t c,
    t.reassemblyQueue.queuedBytes.toNat + data.size ≤ t.reassemblyQueue.watermarkBytes

instance (s : DcSctpSocket) (tag : VerificationTag) (c : Chunk) : Decidable (HasRoom s tag c) :=
  inferInstanceAs (Decidable (∀ t ∈ s.tcb, ∀ data ∈ storedBy t c, _ ≤ _))

structure WindowInv (window : Nat) (s : DcSctpSocket) : Prop where
  window_eq : s.control.window = window
  below : ∀ t, s.tcb = some t → t.reassemblyQueue.BelowWatermark

variable {window : Nat}

lemma belowWatermark_new (hfits : watermarkOf window < 2 ^ 31) (inter : Bool) :
    (ReassemblyQueue.new window inter).BelowWatermark :=
  ⟨accounted_new window inter,
    (heldBytes_new window inter).trans_le (Nat.zero_le _), hfits⟩

lemma WindowInv.fresh {s : DcSctpSocket} {t : TransmissionControlBlock}
    (h : WindowInv window s) (hfits : watermarkOf window < 2 ^ 31) (hfresh : FreshTcb s.control t) :
    t.reassemblyQueue.BelowWatermark := by
  rw [hfresh.queue, h.window_eq]
  exact belowWatermark_new hfits _

lemma move_windowInv (hfits : watermarkOf window < 2 ^ 31) {s s' : DcSctpSocket}
    {calls : Option (List Operation)} (hmove : Move HasRoom s s' calls) (h : WindowInv window s) : WindowInv window s' := by
  refine ⟨hmove.settings.2.trans h.window_eq, fun t' ht' => ?_⟩
  rcases hmove.tcb_origin ht' with hfresh | ⟨t, ops, ht, hwork, hops⟩
  · exact h.fresh hfits hfresh
  have hevol := evolves_run ops t.reassemblyQueue
  rw [← hwork.queue] at hevol
  rcases hops with hnone | ⟨tag, c, data, hroom, hdata, hstored⟩
  · rw [hnone] at hevol
    exact (h.below t ht).evolves_zero hevol
  rw [hstored] at hevol
  exact (h.below t ht).evolves hevol (hroom t ht data hdata)

lemma aRwnd_selectiveAck {a : Association} {also : Bool} {sack : SackChunk}
    (h : (a.selectiveAck also).1 = some sack) :
    sack.aRwnd.toNat ≤ a.tcb.reassemblyQueue.remainingBytes.toNat := by
  unfold Association.selectiveAck at h
  split at h
  · cases h
  simp only [Option.some.injEq] at h
  rw [← h]
  exact (BitVec.toNat_ofNat ..).trans_le (Nat.mod_le _ _)

def afterChunks (s : DcSctpSocket) (now : Timestamp) (p : SctpPacket) (n : Nat) : DcSctpSocket :=
  dispatchAll now p.verificationTag (p.chunks.take n) (s.maybeSendShutdownOnPacketReceived p)

def fragmentOf60 (isBeginning : Bool) : Data :=
  { streamId := 0, ssn := 0, mid := 0, fsn := 0, ppid := 51, payload := List.replicate 60 0
    isBeginning, isEnd := false, isUnordered := false }

def firstFragment : SctpPacket := ⟨1, [.data 10 (fragmentOf60 true) false], by simp, true⟩

def smallBuffer : DcSctpOptions := { maxReceiverWindowBufferSize := 100 }

def sentSacks (s : DcSctpSocket) : List SackChunk :=
  s.outside.sent.flatMap fun p => p.chunks.filterMap fun
    | .sack sack => some sack
    | _ => none

end DcSctpSocket

end WebRtc.Dcsctp
