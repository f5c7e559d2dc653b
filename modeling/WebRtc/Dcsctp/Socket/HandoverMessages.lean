import WebRtc.Dcsctp.Socket.HandoverResumption

/-!
# dcSCTP — received messages at a handover

A socket that reports it is ready for a handover has no chunks behind a gap, of incomplete messages
or in deferred actions. Messages that have been assembled but not been taken are not asked for: in
pull mode they wait for the client, and closing the socket drops them. Chunks that the peer gave up
and chunks whose place was taken do not count (`AllHandedOver`).
-/

namespace WebRtc.Dcsctp

open Lib Numerics ReassemblyQueue List HandoverReadinessStatus OrdMap HandoverUnreadinessReason

/-! ## What readiness says about the reassembly queue -/

lemma OrderedStream.held_eq_nil {s : OrderedStream} (h : s.hasUnassembledChunks = false) :
    s.held = [] := by
  simp only [hasUnassembledChunks, Bool.not_eq_false'] at h
  rw [held, values_eq_nil_of_isEmpty h]
  rfl

lemma UnorderedStream.held_eq_nil {s : UnorderedStream} (h : s.hasUnassembledChunks = false) :
    s.held = [] := by
  simp only [hasUnassembledChunks, Bool.not_eq_false'] at h
  exact values_eq_nil_of_isEmpty h

lemma InterleavedStream.held_eq_nil {s : InterleavedStream} (h : s.hasUnassembledChunks = false) :
    s.held = [] := by
  simp only [hasUnassembledChunks, Bool.not_eq_false'] at h
  rw [held, values_eq_nil_of_isEmpty h]
  rfl

lemma ReassemblyStreams.held_eq_nil {t : ReassemblyStreams} (h : t.getHandoverReadiness = []) :
    t.held = [] := by
  cases t with
  | traditional t =>
    obtain ⟨hord, hunord⟩ := append_eq_nil_iff.mp (show t.getHandoverReadiness = [] from h)
    rw [addIf_eq_nil, any_eq_false] at hord hunord
    refine append_eq_nil_iff.mpr ⟨?_, ?_⟩
    · refine flatMap_values_eq_nil ?_
      intro p hp
      exact UnorderedStream.held_eq_nil (Bool.eq_false_iff.mpr (hunord p hp))
    refine flatMap_values_eq_nil ?_
    intro p hp
    exact OrderedStream.held_eq_nil (Bool.eq_false_iff.mpr (hord p hp))
  | interleaved t =>
    have h : t.getHandoverReadiness = [] := h
    unfold InterleavedReassemblyStreams.getHandoverReadiness at h
    cases hfind : t.streams.entries.find? fun e => e.2.hasUnassembledChunks with
    | some e =>
      rw [hfind] at h
      dsimp only at h
      split at h <;> simp at h
    | none =>
      refine flatMap_values_eq_nil ?_
      intro p hp
      exact InterleavedStream.held_eq_nil (Bool.eq_false_iff.mpr (find?_eq_none.mp hfind p hp))

lemma ReassemblyQueue.held_eq_nil {q : ReassemblyQueue} (h : q.getHandoverReadiness = []) :
    q.held = [] := by
  obtain ⟨hstrs, hdeferred⟩ := append_eq_nil_iff.mp h
  rw [addIf_eq_nil, Option.isSome_eq_false_iff, Option.isNone_iff_eq_none] at hdeferred
  rw [held, ReassemblyStreams.held_eq_nil hstrs, deferredChunks, hdeferred]
  rfl

variable {s : DcSctpSocket} {t : TransmissionControlBlock}

lemma DcSctpSocket.held_eq_nil (ht : s.tcb = some t) (h : isReady s.getHandoverReadiness = true) :
    t.reassemblyQueue.held = [] := by
  simp only [isReady, getHandoverReadiness, ht,
    TransmissionControlBlock.getHandoverReadiness, List.isEmpty_iff, append_eq_nil_iff] at h
  exact ReassemblyQueue.held_eq_nil h.2.1.2

/-! ## Messages and the chunks they are made of -/

lemma total_size_pos {ds : List Data} (hne : ds ≠ []) (h : ∀ d ∈ ds, d.payload ≠ []) :
    0 < total Data.size ds := by
  cases ds with
  | nil => exact absurd rfl hne
  | cons d ds =>
    have hd : 0 < d.size := length_pos_iff.mpr (h d mem_cons_self)
    rw [total_cons]
    omega

lemma total_perm {f : Data → Nat} {ds ds' : List Data} (h : ds.Perm ds') :
    total f ds = total f ds' := (h.map f).sum_eq

namespace DcSctpSocket

/-- The messages taken out of the queue are made of all the chunks handed to it, each used once,
apart from those that were dropped on the way. -/
def Record.AllHandedOver (r : Record) : Prop :=
  ∃ groups : List (List Data), (∀ g ∈ groups, g ≠ []) ∧ r.base.taken r.ops = groups.map assembled ∧
    (accepted r.ops).Perm (groups.flatten ++ r.base.discarded r.ops)

lemma Recorded.allHandedOver_iff {r : Record} (h : s.Recorded r)
    (ht : s.tcb = some t) (hheld : t.reassemblyQueue.held = []) :
    r.AllHandedOver ↔ t.reassemblyQueue.hasMessages = false := by
  obtain ⟨groups, hne, hmsgs, hperm⟩ := ledger_balances h.blank r.ops
  rw [← h.queue t ht] at hmsgs hperm
  rw [hheld, append_nil] at hperm
  constructor
  · rintro ⟨groups', -, htk, hperm'⟩
    -- the waiting messages would be made of no bytes
    obtain ⟨first, waiting, hgroups, hfirst, hwaiting⟩ := map_eq_append_iff.mp hmsgs.symm
    have hbytes := messageBytes_assembled groups'
    have hbytes' := messageBytes_assembled first
    rw [← htk] at hbytes
    rw [hfirst] at hbytes'
    have htot := total_perm (f := Data.size) (hperm.symm.trans hperm')
    rw [hgroups, flatten_append, total_append, total_append, total_append] at htot
    have hzero : total Data.size waiting.flatten = 0 := by omega
    have hnone : waiting = [] := by
      by_contra hsome
      obtain ⟨g, rest, rfl⟩ := exists_cons_of_ne_nil hsome
      have hg : g ≠ [] := hne g (hgroups ▸ mem_append_right _ mem_cons_self)
      have hpos := total_size_pos hg (by
        intro d hd
        refine h.payloads d (hperm.mem_iff.mpr (mem_append_left _ ?_))
        rw [hgroups, flatten_append, flatten_cons]
        exact mem_append_right _ (mem_append_left _ hd))
      rw [flatten_cons, total_append] at hzero
      omega
    rw [hnone, map_nil] at hwaiting
    simp [hasMessages, ← hwaiting]
  · intro hnone
    have hemp : t.reassemblyQueue.reassembledMessages = [] := by
      simpa [hasMessages] using hnone
    rw [hemp, append_nil] at hmsgs
    exact ⟨groups, hne, hmsgs, hperm⟩

/-! ## Delivery without pull mode -/

def MessagesDelivered (s : DcSctpSocket) : Prop :=
  ∀ t, s.tcb = some t → t.reassemblyQueue.Delivered s.control.pullMode

lemma move_messagesDelivered {s' : DcSctpSocket} {calls : Option (List Operation)}
    (hmove : Move (fun _ _ _ => True) s s' calls) (h : s.MessagesDelivered) : s'.MessagesDelivered := by
  intro t' ht'
  rw [hmove.settings.1]
  rcases hmove.tcb_origin ht' with hfresh | ⟨t, ops, ht, hevol, -⟩
  · exact hfresh.delivered
  · exact hevol.delivered (h t ht)

variable {options : DcSctpOptions} {canSend : Nat → Bool} {random : Nat → Nat}

lemma Initial.messagesDelivered (h : s.Initial options random canSend) :
    s.MessagesDelivered := by
  intro t ht
  refine .inr ?_
  rcases h with rfl | ⟨state, rfl⟩
  · cases ht
  rw [(tcb_restoreFromState_new ht).2]
  rfl

lemma pullMode_restoreFromState (s : DcSctpSocket) (state : HandoverState) :
    (s.restoreFromState state).control.pullMode = s.control.pullMode := by
  unfold restoreFromState
  split
  · rfl
  · split <;> rfl

lemma messagesDelivered_run
    {s0 : DcSctpSocket} (hstart : s0.Initial options random canSend) (evs : List Event) :
    (run step s0 evs).MessagesDelivered ∧
      (run step s0 evs).control.pullMode = options.enableReceivePullMode := by
  have hpull : s0.control.pullMode = options.enableReceivePullMode := by
    rcases hstart with rfl | ⟨state, rfl⟩
    · rfl
    · exact pullMode_restoreFromState _ _
  exact run_of_moves
    (P := fun s => s.MessagesDelivered ∧ s.control.pullMode = options.enableReceivePullMode)
    (fun s s' _ hmove hs => ⟨move_messagesDelivered hmove hs.1, hmove.settings.1.trans hs.2⟩) evs
    ⟨hstart.messagesDelivered, hpull⟩

def oneByteChunk : Data :=
  { streamId := 0, ssn := 0, mid := 0, fsn := 0, ppid := 51, payload := [1]
    isBeginning := true, isEnd := true, isUnordered := false }

def pulling : DcSctpOptions := { enableReceivePullMode := true }

end DcSctpSocket

end WebRtc.Dcsctp
