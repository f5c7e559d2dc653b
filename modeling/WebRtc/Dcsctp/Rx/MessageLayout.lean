import Mathlib.Algebra.Order.BigOperators.Group.List
import WebRtc.Dcsctp.Rx.InterleavedReassemblyStreams
import WebRtc.Lib.Fragments

/-!
# dcSCTP — what an ordered stream is expected to hold and to deliver

The abstract side of reassembly: the messages of an ordered stream, each a list of fragments
(`Layout`), and the set `R` of fragments received so far. `Tracks` ties the expected number and the
buffer of a stream to them, for both implementations.
-/

namespace WebRtc.Dcsctp

open Lib Numerics List OrdMap

variable {κ : Type} [LinearOrder κ]

def messageOf (frags : List Data) : DcSctpMessage :=
  { streamId := (frags.head?.map Data.streamId).getD 0
    ppid := (frags.head?.map Data.ppid).getD 0
    payload := frags.flatMap Data.payload }

/-- The flags of the fragments: the first one begins the message, only the last one may
end it (while a message is still being sent, none does), and none is empty. -/
structure WellFormed (L : Layout κ Data) : Prop where
  beginning : ∀ (i j : Nat) (d : Data), (L.frags i)[j]? = some d → (d.isBeginning = true ↔ j = 0)
  ending : ∀ (i j : Nat) (d : Data), (L.frags i)[j]? = some d → d.isEnd = true → j + 1 = (L.frags i).length
  nonempty : ∀ (i j : Nat) (d : Data), (L.frags i)[j]? = some d → d.payload ≠ []

def Ended (L : Layout κ Data) (i : Nat) : Prop :=
  ∃ (j : Nat) (d : Data), (L.frags i)[j]? = some d ∧ d.isEnd = true

def Done (L : Layout κ Data) (R : Nat → Nat → Prop) (i : Nat) : Prop :=
  Ended L i ∧ ∀ j < (L.frags i).length, R i j

/-- The state of an ordered stream that expects message `n`, given what was received. -/
structure Tracks (L : Layout κ Data) (n : Nat) (R : Nat → Nat → Prop) (next : Int)
    (m : OrdMap Int (OrdMap κ Data)) : Prop where
  next_eq : next = n
  holds : Holds L n R m
  done : ∀ i < n, Done L R i
  valid : ∀ i j, R i j → j < (L.frags i).length

def Receive (R : Nat → Nat → Prop) (i j : Nat) : Nat → Nat → Prop :=
  fun i' j' => R i' j' ∨ (i' = i ∧ j' = j)

/-- `span` measures the distance of fragments of one message modulo `2 ^ 32`. -/
def Spans (L : Layout κ Data) (span : κ → κ → Nat) : Prop :=
  ∀ i j j', j ≤ j' → j' < (L.frags i).length → span (L.key i j') (L.key i j) = (j' - j) % 2 ^ 32

/-- Once the last fragment of a message is stored, fewer than `2 ^ 32` are missing. -/
def FewMissing (L : Layout κ Data) (R : Nat → Nat → Prop) : Prop :=
  ∀ i j chunks, Stores L i (R i) chunks → R i j → j + 1 = (L.frags i).length →
    (L.frags i).length < chunks.size + 2 ^ 32

def Short (L : Layout κ Data) : Prop := ∀ i, (L.frags i).length ≤ 2 ^ 32

variable {L : Layout κ Data} {span : κ → κ → Nat} {R : Nat → Nat → Prop}

/-! ## Complete messages -/

variable {i : Nat}

lemma Ended.length_pos (h : Ended L i) : 0 < (L.frags i).length := by
  obtain ⟨j, d, hj, -⟩ := h
  exact Nat.zero_lt_of_lt (List.getElem?_eq_some_iff.mp hj).1

/-- **The completeness test is sound.** It passes only for messages received completely. -/
lemma done_of_isCompleteBy (hL : WellFormed L) (hspan : Spans L span) (hfew : FewMissing L R) {chunks : OrdMap κ Data} (hs : Stores L i (R i) chunks)
    (h : isCompleteBy span chunks = true) : Done L R i ∧ chunks = L.whole i := by
  unfold isCompleteBy at h
  cases hf : chunks.front? with
  | none => simp [hf] at h
  | some first =>
  cases hb : chunks.back? with
  | none => simp [hf, hb] at h
  | some last =>
  simp only [hf, hb, Bool.and_eq_true, beq_iff_eq] at h
  obtain ⟨⟨hbeg, hend⟩, hdist⟩ := h
  obtain ⟨hfmem, -⟩ := front?_eq_some.mp hf
  obtain ⟨j, d, -, hd, rfl⟩ := (hs first).mp hfmem
  obtain ⟨hlmem, -⟩ := back?_eq_some.mp hb
  obtain ⟨j', d', hR', hd', rfl⟩ := (hs last).mp hlmem
  have hj0 : j = 0 := (hL.beginning i j d hd).mp hbeg
  have hj' : j' + 1 = (L.frags i).length := hL.ending i j' d' hd' hend
  have hpos : 0 < chunks.size := length_pos_of_mem hfmem
  have hmissing := hfew i j' chunks hs hR' hj'
  rw [hj0, hspan i 0 j' (Nat.zero_le _) (by omega)] at hdist
  have hsize : (L.frags i).length ≤ chunks.size := by omega
  have hall := hs.all_of_size hsize
  exact ⟨⟨⟨j', d', hd', hend⟩, hall⟩, hs.eq_whole hall⟩

/-- **The completeness test is complete**, for messages of at most `2 ^ 32` fragments. -/
lemma isCompleteBy_of_done (hL : WellFormed L) (hspan : Spans L span) (hshort : Short L) (h : Ended L i) : isCompleteBy span (L.whole i) = true := by
  obtain ⟨j', d', hd', hend⟩ := h
  have hlen := hL.ending i j' d' hd' hend
  have hlast : (L.whole i).back? = some (L.key i j', d') := by
    rw [back?_eq_some, L.mem_whole]
    refine ⟨⟨j', d', hd', rfl⟩, fun q hq => ?_⟩
    obtain ⟨k, a, ha, rfl⟩ := L.mem_whole.mp hq
    have hk := (List.getElem?_eq_some_iff.mp ha).1
    rcases Nat.lt_or_eq_of_le (show k ≤ j' by omega) with hlt | rfl
    · exact le_of_lt (L.key_mono i k j' hlt (by omega))
    · exact le_rfl
  obtain ⟨d, hd⟩ : ∃ d, (L.frags i)[0]? = some d :=
    ⟨_, getElem?_eq_getElem (by omega)⟩
  have hfirst : (L.whole i).front? = some (L.key i 0, d) := by
    rw [front?_eq_some, L.mem_whole]
    refine ⟨⟨0, d, hd, rfl⟩, fun q hq => ?_⟩
    obtain ⟨k, a, ha, rfl⟩ := L.mem_whole.mp hq
    have hk := (List.getElem?_eq_some_iff.mp ha).1
    rcases Nat.eq_zero_or_pos k with rfl | hpos
    · exact le_rfl
    · exact le_of_lt (L.key_mono i 0 k hpos hk)
  have hle := hshort i
  simp only [isCompleteBy, hfirst, hlast, Bool.and_eq_true, beq_iff_eq, L.whole_size, hend,
    (hL.beginning i 0 d hd).mpr rfl, and_self, true_and]
  rw [hspan i 0 j' (Nat.zero_le _) (by omega)]
  omega

lemma assembleMessage_whole {first : κ × Data} (hf : (L.whole i).front? = some first) :
    assembleMessage first.2 (L.whole i).entries = messageOf (L.frags i) := by
  have hhead : (L.frags i).head? = some first.2 := by
    rw [← L.whole_values i, head?_map]
    rw [front?] at hf
    rw [hf]
    rfl
  have hpay : ((L.whole i).entries.flatMap fun c => c.2.payload) = (L.frags i).flatMap Data.payload := by
    rw [← L.whole_values i, flatMap_map]
  rw [assembleMessage, messageOf, hhead, hpay]
  rfl

lemma chunkBytes_whole_ne_zero (hL : WellFormed L) (hpos : 0 < (L.frags i).length) :
    chunkBytes (L.whole i) ≠ 0 := by
  obtain ⟨d, hd⟩ : ∃ d, (L.frags i)[0]? = some d := ⟨_, getElem?_eq_getElem hpos⟩
  have hmem : (L.key i 0, d) ∈ (L.whole i).entries := L.mem_whole.mpr ⟨0, d, hd, rfl⟩
  have hsize : 0 < d.size := length_pos_of_ne_nil (hL.nonempty i 0 d hd)
  have hle : d.size ≤ ((L.whole i).entries.map fun c => c.2.size).sum :=
    single_le_sum (fun _ _ => Nat.zero_le _) _ (mem_map.mpr ⟨_, hmem, rfl⟩)
  rw [chunkBytes]
  omega

end WebRtc.Dcsctp
