import WebRtc.Dcsctp.Rx.MessageLayout

/-!
# dcSCTP — ordered streams deliver their messages in order

`OrderedStream` (DATA) and the ordered `InterleavedStream` (I-DATA) against the abstract side of
`MessageLayout`. A new fragment leads to a state that tracks the larger set of fragments, and what
is handed over are the messages from the old expected number up to the new one (`add_tracks`).
-/

namespace WebRtc.Dcsctp

open Lib Numerics List OrdMap

def messagesBetween {κ : Type} [LinearOrder κ] (L : Layout κ Data) (n n' : Nat) :
    List DcSctpMessage :=
  (range' n (n' - n)).map fun i => messageOf (L.frags i)

section Shared

variable {κ : Type} [LinearOrder κ] {L : Layout κ Data} {R : Nat → Nat → Prop} {n : Nat}
  {next : Int} {m : OrdMap Int (OrdMap κ Data)}

@[simp] lemma messagesBetween_self : messagesBetween L n n = [] := by
  simp [messagesBetween]

lemma messagesBetween_succ {n n' : Nat} (h : n < n') :
    messagesBetween L n n' = messageOf (L.frags n) :: messagesBetween L (n + 1) n' := by
  unfold messagesBetween
  rw [show n' - n = (n' - (n + 1)) + 1 by omega, range'_succ, map_cons]

lemma Tracks.take (h : Tracks L n R next m) (hdone : Done L R n) :
    Tracks L (n + 1) R (next + 1) (m.erase next) := by
  refine ⟨by rw [h.next_eq]; rfl, ?_, fun i hi => ?_, h.valid⟩
  · rw [h.next_eq]
    exact h.holds.erase
  rcases Nat.lt_or_eq_of_le (Nat.lt_succ_iff.mp hi) with hlt | rfl
  · exact h.done i hlt
  · exact hdone

variable {i j : Nat} {d : Data}

lemma Tracks.le_of_new (h : Tracks L n R next m)
    (hd : (L.frags i)[j]? = some d) (hnew : ¬ R i j) : n ≤ i := by
  by_contra hlt
  exact hnew ((h.done i (not_le.mp hlt)).2 j (List.getElem?_eq_some_iff.mp hd).1)

lemma Done.mono {R' : Nat → Nat → Prop} (hR : ∀ i j, R i j → R' i j)
    (h : Done L R i) : Done L R' i := ⟨h.1, fun j hj => hR i j (h.2 j hj)⟩

lemma valid_receive (hv : ∀ i j, R i j → j < (L.frags i).length) (hd : (L.frags i)[j]? = some d) :
    ∀ i' j', Receive R i j i' j' → j' < (L.frags i').length := by
  rintro i' j' (hR | ⟨rfl, rfl⟩)
  · exact hv i' j' hR
  · exact (List.getElem?_eq_some_iff.mp hd).1

lemma Tracks.store (h : Tracks L n R next m) (hd : (L.frags i)[j]? = some d) (hnew : ¬ R i j) :
    (m.emplaceNested (i : Int) (L.key i j) d).2 = true ∧
      Tracks L n (Receive R i j) next (m.emplaceNested (i : Int) (L.key i j) d).1 := by
  obtain ⟨hins, hholds⟩ := h.holds.emplace (h.le_of_new hd hnew) hd hnew
  exact ⟨hins, h.next_eq, hholds, fun i' hi' => (h.done i' hi').mono fun _ _ => .inl,
    valid_receive h.valid hd⟩

lemma Tracks.passSingle (h : Tracks L n R next m) (hL : WellFormed L)
    (hd : (L.frags n)[j]? = some d) (hnew : ¬ R n j) (hbeg : d.isBeginning = true)
    (hend : d.isEnd = true) :
    Tracks L (n + 1) (Receive R n j) (next + 1) m ∧ messageOf (L.frags n) = assembleSingle d := by
  have hj : j = 0 := (hL.beginning n j d hd).mp hbeg
  have hlen := hL.ending n j d hd hend
  subst hj
  have hnone : ∀ j', ¬ R n j' := by
    intro j' hR
    have := h.valid n j' hR
    have hj' : j' = 0 := by omega
    exact hnew (hj' ▸ hR)
  have hfrags : L.frags n = [d] := by
    obtain ⟨a, ha⟩ := length_eq_one_iff.mp hlen.symm
    rw [ha] at hd ⊢
    simpa using hd
  refine ⟨⟨by rw [h.next_eq]; rfl, ?_, fun i hi => ?_, valid_receive h.valid hd⟩, ?_⟩
  · refine (h.holds.pass hnone).congr fun i' j' hle => ?_
    constructor
    · rintro (hR | ⟨rfl, -⟩)
      · exact hR
      · omega
    · exact .inl
  · rcases Nat.lt_or_eq_of_le (Nat.lt_succ_iff.mp hi) with hlt | rfl
    · exact (h.done i hlt).mono fun _ _ => .inl
    refine ⟨⟨0, d, hd, hend⟩, fun j' hj' => ?_⟩
    exact .inr ⟨rfl, by omega⟩
  · rw [hfrags]
    simp [messageOf, assembleSingle]

end Shared

/-! ## DATA -/

namespace OrderedStream

variable {L : Layout Int Data} {R : Nat → Nat → Prop} {n : Nat} {s : OrderedStream}

def Follows (L : Layout Int Data) (n : Nat) (R : Nat → Nat → Prop) (s : OrderedStream) : Prop :=
  Tracks L n R s.nextSsn s.chunksBySsn

section

variable (hL : WellFormed L)

include hL

section

variable (hspan : Spans L (difference 32))

include hspan

lemma tryToAssembleMessage_some
    (hfew : FewMissing L R) (h : s.Follows L n R) {chunks : ChunkMap} {msg : DcSctpMessage}
    {s' : OrderedStream} (hr : s.tryToAssembleMessage = some (chunks, msg, s')) :
    chunkBytes chunks ≠ 0 ∧ msg = messageOf (L.frags n) ∧ s'.Follows L (n + 1) R ∧
      s'.ssnUnwrapper = s.ssnUnwrapper ∧ s'.chunksBySsn.size < s.chunksBySsn.size := by
  unfold tryToAssembleMessage at hr
  cases hf : s.chunksBySsn.front? with
  | none => simp [hf] at hr
  | some front =>
  obtain ⟨ssn, chunks⟩ := front
  simp only [hf] at hr
  by_cases hne : ssn ≠ s.nextSsn
  · simp [hne] at hr
  rw [not_not] at hne
  rw [if_neg (not_not.mpr hne)] at hr
  by_cases hc : isComplete chunks = true
  · simp only [hc, Bool.not_true, Bool.false_eq_true, if_false, Option.map_eq_some_iff] at hr
    obtain ⟨first, hfirst, hr⟩ := hr
    obtain ⟨rfl, rfl, rfl⟩ := by simpa only [Prod.mk.injEq] using hr
    have hmem := (front?_eq_some.mp hf).1
    have hssn : ssn = n := hne.trans h.next_eq
    have hstor : Stores L n (R n) chunks := h.holds.stores (hssn ▸ hmem)
    obtain ⟨hdone, rfl⟩ := done_of_isCompleteBy hL hspan hfew hstor hc
    refine ⟨chunkBytes_whole_ne_zero hL hdone.1.length_pos, assembleMessage_whole hfirst, ?_, rfl, ?_⟩
    · rw [hne]
      exact Tracks.take h hdone
    · exact size_erase_lt hmem
  · simp [hc] at hr

lemma tryToAssembleMessage_of_done (hshort : Short L) (h : s.Follows L n R) (hdone : Done L R n) :
    s.tryToAssembleMessage ≠ none := by
  obtain ⟨chunks, hfr, hstor⟩ := h.holds.front_of_received (hdone.2 0 hdone.1.length_pos)
  have hwhole := hstor.eq_whole hdone.2
  subst hwhole
  have hcompl : isComplete (L.whole n) = true := isCompleteBy_of_done hL hspan hshort hdone.1
  obtain ⟨d, hd⟩ : ∃ d, (L.frags n)[0]? = some d :=
    ⟨_, getElem?_eq_getElem hdone.1.length_pos⟩
  obtain ⟨first, hfirst⟩ := front?_isSome (L.mem_whole.mpr ⟨0, d, hd, rfl⟩)
  unfold tryToAssembleMessage
  rw [hfr]
  simp [h.next_eq, hcompl, hfirst]

/-- **The assembly loop.** It hands over the messages from the expected one on, as long as
they are done. -/
lemma assembleLoop_follows
    (hfew : FewMissing L R) : ∀ (rounds : Nat) (n : Nat) (s : OrderedStream), s.Follows L n R →
      s.chunksBySsn.size ≤ rounds →
      ∃ n', n ≤ n' ∧ (assembleLoop rounds s).state.Follows L n' R ∧
        (assembleLoop rounds s).messages = messagesBetween L n n' ∧
        (assembleLoop rounds s).state.ssnUnwrapper = s.ssnUnwrapper ∧
        (Short L → ¬ Done L R n') := by
  intro rounds
  induction rounds with
  | zero =>
    intro n s h hsize
    refine ⟨n, le_rfl, h, by simp [assembleLoop], rfl, fun hshort hdone => ?_⟩
    -- without entries in the buffer nothing of message `n` was received
    obtain ⟨chunks, hfr, -⟩ := h.holds.front_of_received (hdone.2 0 hdone.1.length_pos)
    have hpos := length_pos_of_mem (front?_eq_some.mp hfr).1
    rw [size] at hsize
    omega
  | succ rounds ih =>
    intro n s h hsize
    rw [assembleLoop]
    cases hr : s.tryToAssembleMessage with
    | none =>
      exact ⟨n, le_rfl, h, by simp, rfl,
        fun hshort hdone => tryToAssembleMessage_of_done hL hspan hshort h hdone hr⟩
    | some r =>
      obtain ⟨chunks, msg, s'⟩ := r
      obtain ⟨hbytes, rfl, hs', hunw, hlt⟩ := tryToAssembleMessage_some hL hspan hfew h hr
      obtain ⟨n', hle, hf, hmsgs, hunw', hstop⟩ := ih (n + 1) s' hs' (by omega)
      simp only [hbytes, if_false]
      refine ⟨n', by omega, hf, ?_, hunw'.trans hunw, hstop⟩
      rw [hmsgs, ← messagesBetween_succ (by omega)]

lemma tryToAssembleMessages_follows (hfew : FewMissing L R) (h : s.Follows L n R) :
    ∃ n', n ≤ n' ∧ s.tryToAssembleMessages.state.Follows L n' R ∧
      s.tryToAssembleMessages.messages = messagesBetween L n n' ∧
      s.tryToAssembleMessages.state.ssnUnwrapper = s.ssnUnwrapper ∧ (Short L → ¬ Done L R n') :=
  assembleLoop_follows hL hspan hfew _ n s h le_rfl

/-- **`Add` follows the arrivals.** A new fragment whose SSN is unwrapped to the number of
its message keeps the stream in step, and hands over the next messages in order. Where no
message was ready before, none is left ready. -/
lemma add_follows {i j : Nat} {d : Data}
    (hd : (L.frags i)[j]? = some d) (hnew : ¬ R i j) (hfew : FewMissing L (Receive R i j))
    (h : s.Follows L n R) (hssn : s.ssnUnwrapper.peekUnwrap d.ssn = i) :
    ∃ n', n ≤ n' ∧ (s.add (L.key i j) d).state.Follows L n' (Receive R i j) ∧
      (s.add (L.key i j) d).messages = messagesBetween L n n' ∧
      (s.add (L.key i j) d).state.ssnUnwrapper = (s.ssnUnwrapper.unwrap d.ssn).2 ∧
      (Short L → ¬ Done L R n → ¬ Done L (Receive R i j) n') := by
  obtain ⟨hins, hstore⟩ := Tracks.store h hd hnew
  cases he : s.chunksBySsn.emplaceNested (i : Int) (L.key i j) d with
  | mk chunks inserted =>
  rw [he] at hins hstore
  subst hins
  unfold add
  simp only [SeqNumUnwrapper.unwrap_fst, hssn]
  by_cases hi : (i : Int) = s.nextSsn
  · have hin : i = n := Int.natCast_inj.mp (hi.trans h.next_eq)
    subst hin
    rw [if_pos hi, tryToAssembleMessagesFastpath]
    by_cases hone : (d.isBeginning && d.isEnd) = true
    · obtain ⟨hbeg, hend⟩ := Bool.and_eq_true_iff.mp hone
      obtain ⟨hpass, hmsg⟩ := Tracks.passSingle h hL hd hnew hbeg hend
      obtain ⟨n', hle, hf, hmsgs, hunw, hstop⟩ := tryToAssembleMessages_follows
        (s := { s with ssnUnwrapper := (s.ssnUnwrapper.unwrap d.ssn).2, nextSsn := s.nextSsn + 1 })
        hL hspan hfew hpass
      rw [if_pos hone]
      refine ⟨n', by omega, hf, ?_, hunw, fun hshort _ => hstop hshort⟩
      rw [messagesBetween_succ (by omega), ← hmsgs, hmsg]
    · rw [if_neg hone, he]
      obtain ⟨n', hle, hf, hmsgs, hunw, hstop⟩ := tryToAssembleMessages_follows
        (s := { s with ssnUnwrapper := (s.ssnUnwrapper.unwrap d.ssn).2, chunksBySsn := chunks })
        hL hspan hfew hstore
      exact ⟨n', hle, hf, hmsgs, hunw, fun hshort _ => hstop hshort⟩
  · rw [if_neg hi, he]
    refine ⟨n, le_rfl, hstore, by simp, rfl, fun _ hnot hdone => hnot ⟨hdone.1, fun j' hj' => ?_⟩⟩
    -- the fragment belongs to another message than the expected one
    rcases hdone.2 j' hj' with hR | ⟨hni, -⟩
    · exact hR
    · exact absurd (by rw [h.next_eq, hni]) hi

end

end

end OrderedStream

end WebRtc.Dcsctp
