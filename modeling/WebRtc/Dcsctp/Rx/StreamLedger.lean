import WebRtc.Dcsctp.Rx.ReassemblyQueue
import WebRtc.Lib.Run
import WebRtc.Lib.Weight

/-!
# dcSCTP — what becomes of the chunks of a stream

The chunks that an operation on the streams has at hand are held afterwards, or part of a message
that it assembled, or discarded (`Conserves`). They are counted by weights: an equation between
totals that holds for every weight is one between the multisets of chunks (`perm_of_total`), and
the weight `Data.size` counts bytes.
-/

namespace WebRtc.Dcsctp

open Lib Numerics ReassemblyQueue OrdMap Reassembly List UnorderedStream Data

@[simp] lemma messageBytes_nil : messageBytes [] = 0 := rfl

@[simp] lemma messageBytes_cons (m : DcSctpMessage) (ms : List DcSctpMessage) :
    messageBytes (m :: ms) = m.payload.length + messageBytes ms := by
  simp [messageBytes]

@[simp] lemma messageBytes_append (ms ms' : List DcSctpMessage) :
    messageBytes (ms ++ ms') = messageBytes ms + messageBytes ms' := by
  simp [messageBytes]

/-! ## Counting chunks -/

def total (f : Data → Nat) (chunks : List Data) : Nat := (chunks.map f).sum

section Total

variable (f : Data → Nat)

@[simp] lemma total_nil : total f [] = 0 := rfl

@[simp] lemma total_cons (d : Data) (ds : List Data) : total f (d :: ds) = f d + total f ds := by
  simp [total]

@[simp] lemma total_append (ds ds' : List Data) : total f (ds ++ ds') = total f ds + total f ds' := by
  simp [total]

end Total

lemma perm_of_total {ds ds' : List Data} (h : ∀ f, total f ds = total f ds') : ds.Perm ds' := by
  have hcount : ∀ (d : Data) (l : List Data), total (fun x => if x = d then 1 else 0) l = l.count d := by
    intro d l
    induction l with
    | nil => rfl
    | cons x l ih =>
      rw [total_cons, ih, count_cons]
      by_cases hx : x = d <;> simp [hx, Nat.add_comm]
  rw [perm_iff_count]
  intro d
  rw [← hcount, ← hcount, h]

def assembled : List Data → DcSctpMessage
  | [] => ⟨0, 0, []⟩
  | first :: rest => ⟨first.streamId, first.ppid, (first :: rest).flatMap fun d => d.payload⟩

lemma assembled_single (d : Data) : assembleSingle d = assembled [d] := by
  simp [assembleSingle, assembled]

lemma assembled_of_head {κ : Type} {first : κ × Data} {chunks : List (κ × Data)}
    (h : chunks.head? = some first) :
    assembleMessage first.2 chunks = assembled (chunks.map Prod.snd) := by
  obtain ⟨rest, rfl⟩ := head?_eq_some_iff.mp h
  simp [assembleMessage, assembled, flatMap_map]

lemma messageBytes_assembled (groups : List (List Data)) :
    messageBytes (groups.map assembled) = total size groups.flatten := by
  induction groups with
  | nil => rfl
  | cons g groups ih =>
    have hg : (assembled g).payload.length = total size g := by
      cases g with
      | nil => rfl
      | cons d g => simp [assembled, total, length_flatMap]; rfl
    rw [map_cons, messageBytes_cons, ih, hg, flatten_cons, total_append]

section Nested

variable {κ : Type} [LinearOrder κ] (m : OrdMap Int (OrdMap κ Data)) (k : Int)

lemma group_of_mem {chunks : OrdMap κ Data} {first : κ × Data} (hmem : (k, chunks) ∈ m)
    (hfirst : chunks.entries.head? = some first) :
    ∃ g, g ≠ [] ∧ assembleMessage first.2 chunks.entries = assembled g ∧
      chunks.weight size = total size g ∧
      ∀ f, m.weight (weight f) = (m.erase k).weight (weight f) + total f g := by
  refine ⟨chunks.values, ?_, assembled_of_head hfirst, weight_eq_values _, ?_⟩
  · obtain ⟨rest, hrest⟩ := head?_eq_some_iff.mp hfirst
    simp [values, hrest]
  intro f
  have herase := weight_erase_add (f := weight f) m k
  rw [weightAt_of_mem hmem, weight_eq_values (f := f) chunks] at herase
  exact herase.symm

lemma weight_stored (k' : κ) (data : Data) (f : Data → Nat) :
    m.weight (weight f) + f data = (m.emplaceNested k k' data).1.weight (weight f) +
      total f (if !(m.emplaceNested k k' data).2 then [data] else []) := by
  rw [weight_emplaceNested]
  cases (m.emplaceNested k k' data).2 <;> simp

lemma weight_dropped (f : Data → Nat) : m.weight (weight f) =
    (m.eraseTo k).weight (weight f) + total f ((m.takeTo k).values.flatMap values) := by
  rw [total, ← weight_eq_flatMap weight_eq_values]
  exact (weight_eraseTo_add (f := weight f) m k).symm

end Nested

section Conserves

variable {σ : Type} {held : (Data → Nat) → σ → Nat} {before before' : (Data → Nat) → Nat}
  {discarded discarded' g : List Data} {released released' bytes : Int}
  {messages messages' : List DcSctpMessage} {s s' : σ} {r r' : Reassembly σ}

/-- What became of the chunks an operation had at hand: they are held, or in the messages it
assembled, or discarded. The bytes that are not held any more are `released`, as long as an `int`
counts them. -/
def Reassembly.Conserves (held : (Data → Nat) → σ → Nat) (before : (Data → Nat) → Nat)
    (discarded : List Data) (released : Int) (r : Reassembly σ) : Prop :=
  ∃ groups : List (List Data), (∀ g ∈ groups, g ≠ []) ∧ r.messages = groups.map assembled ∧
    (before size < 2 ^ 31 → released = total size groups.flatten + total size discarded) ∧
    ∀ f, before f = held f r.state + total f groups.flatten + total f discarded

lemma Reassembly.conserves_nothing
    (hreleased : before size < 2 ^ 31 → released = total size discarded)
    (h : ∀ f, before f = held f s + total f discarded) :
    (⟨bytes, [], s⟩ : Reassembly σ).Conserves held before discarded released := by
  refine ⟨[], by simp, rfl, by simpa using hreleased, ?_⟩
  intro f
  simpa using h f

lemma Reassembly.conserves_same (bytes : Int) (s : σ) :
    (⟨bytes, [], s⟩ : Reassembly σ).Conserves held (fun f => held f s) [] 0 :=
  conserves_nothing (fun _ => rfl) fun _ => rfl

lemma Reassembly.Conserves.cons {bytes' : Int}
    (h : (⟨bytes, messages, s⟩ : Reassembly σ).Conserves held before discarded released) (hg : g ≠ [])
    (hbef : ∀ f, before' f = before f + total f g)
    (hreleased : before' size < 2 ^ 31 → 0 ≤ released → released + total size g ≤ before' size →
      released' = total size g + released) :
    (⟨bytes', assembled g :: messages, s⟩ : Reassembly σ).Conserves held before' discarded released' := by
  obtain ⟨groups, hne, hmsgs, hbytes, htot⟩ := h
  refine ⟨g :: groups, ?_, by rw [map_cons, ← hmsgs], ?_, ?_⟩
  · exact forall_mem_cons.mpr ⟨hg, hne⟩
  · intro hsmall
    have hsize := hbef size
    have hall := htot size
    have hexact := hbytes (by omega)
    dsimp only at hall
    rw [hreleased hsmall (by omega) (by omega), hexact, flatten_cons, total_append]
    omega
  intro f
  have := htot f
  rw [hbef, flatten_cons, total_append]
  dsimp only at this ⊢
  omega

lemma Reassembly.Conserves.of_eq (h : r.Conserves held before discarded released)
    (hmsgs : r'.messages = r.messages) (hstate : r'.state = r.state)
    (hbef : ∀ f, before' f = before f)
    (hreleased : before' size < 2 ^ 31 → 0 ≤ released → released ≤ before' size → released' = released) :
    r'.Conserves held before' discarded released' := by
  obtain ⟨groups, hne, hm, hbytes, htot⟩ := h
  refine ⟨groups, hne, hmsgs.trans hm, fun hsmall => ?_, ?_⟩
  · have hsize := hbef size
    have hall := htot size
    have hexact := hbytes (by omega)
    rw [hreleased hsmall (by omega) (by omega), hexact]
  intro f
  rw [hbef, hstate]
  exact htot f

/-- An operation on one component of a larger state, whose other parts stay as they are. -/
lemma Reassembly.Conserves.lift {τ : Type} {held' : (Data → Nat) → τ → Nat} {t : τ}
    (h : r.Conserves held before discarded released) (hpart : before size ≤ before' size)
    (hlift : ∀ f, held' f t + before f = before' f + held f r.state) :
    (⟨bytes, r.messages, t⟩ : Reassembly τ).Conserves held' before' discarded released := by
  obtain ⟨groups, hne, hm, hbytes, htot⟩ := h
  refine ⟨groups, hne, hm, fun hsmall => hbytes (by omega), ?_⟩
  intro f
  have h1 := htot f
  have h2 := hlift f
  dsimp only
  omega

lemma Reassembly.Conserves.append {bytes' bytes'' : Int}
    (h : (⟨bytes, messages, s⟩ : Reassembly σ).Conserves held before discarded released)
    (h' : (⟨bytes', messages', s'⟩ : Reassembly σ).Conserves held (fun f => held f s) discarded'
      released') :
    (⟨bytes'', messages ++ messages', s'⟩ : Reassembly σ).Conserves held before
      (discarded ++ discarded') (released + released') := by
  obtain ⟨groups, hne, hm, hbytes, htot⟩ := h
  obtain ⟨groups', hne', hm', hbytes', htot'⟩ := h'
  refine ⟨groups ++ groups', ?_, ?_, ?_, ?_⟩
  · exact forall_mem_append.mpr ⟨hne, hne'⟩
  · dsimp only at hm hm' ⊢
    rw [hm, hm', map_append]
  · intro hsmall
    have hsize := htot size
    dsimp only at hsize
    have h1 := hbytes hsmall
    have h2 := hbytes' (show held size s < 2 ^ 31 by omega)
    rw [flatten_append, total_append, total_append]
    omega
  intro f
  have h1 := htot f
  have h2 := htot' f
  rw [flatten_append, total_append, total_append]
  dsimp only at h1 h2 ⊢
  omega

lemma Reassembly.Conserves.skip {dropped : List Data} (h : r.Conserves held before discarded released)
    (hmsgs : r'.messages = r.messages) (hstate : r'.state = r.state)
    (hbef : ∀ f, before' f = before f + total f dropped)
    (hreleased : before' size < 2 ^ 31 → total size dropped ≤ before' size →
      released' = total size dropped + released) :
    r'.Conserves held before' (dropped ++ discarded) released' := by
  obtain ⟨groups, hne, hm, hbytes, htot⟩ := h
  refine ⟨groups, hne, hmsgs.trans hm, fun hsmall => ?_, ?_⟩
  · have hsize := hbef size
    have hexact := hbytes (by omega)
    rw [hreleased hsmall (by omega), hexact, total_append]
    omega
  intro f
  have := htot f
  rw [hbef, hstate, total_append]
  omega

lemma Reassembly.Conserves.bytes_released (h : r.Conserves held before discarded released) :
    (before size < 2 ^ 31 → released = before size - held size r.state) ∧
      held size r.state + messageBytes r.messages ≤ before size := by
  obtain ⟨groups, -, hm, hbytes, htot⟩ := h
  have := htot size
  rw [hm, messageBytes_assembled]
  omega

/-- Up to `2 ^ 31` bytes the size of a message is added up right. -/
lemma assembledBytes_eq {bytes : Nat} (h : bytes < 2 ^ 31) (count : Nat) :
    assembledBytes count bytes = bytes := by
  unfold assembledBytes
  split
  · rfl
  · exact asInt_nat h

lemma released_unless (inserted : Bool) {data : Data} (h : data.size < 2 ^ 31) :
    (data.size : Int) - (if inserted then asInt data.size else 0) =
      total size (if !inserted then [data] else []) := by
  cases inserted <;> simp [asInt_nat h]

/-- What `Add` returns, as long as no more is assembled than was held. -/
lemma sub_asInt_sub {size : Nat} {bytes : Int} (hsize : size < 2 ^ 31) (hpos : 0 ≤ bytes)
    (hle : bytes < 2 ^ 31) : (size : Int) - asInt (size - bytes) = bytes := by
  rw [asInt_of_range (by omega) (by omega)]
  omega

end Conserves

/-! ## Ordered streams -/

namespace OrderedStream

variable (s : OrderedStream)

def held : List Data := s.chunksBySsn.values.flatMap values

def heldWeight (f : Data → Nat) (s : OrderedStream) : Nat := s.chunksBySsn.weight (weight f)

lemma heldWeight_eq (f : Data → Nat) (s : OrderedStream) : s.heldWeight f = total f s.held :=
  weight_eq_flatMap weight_eq_values _

def refuses (tsn : Int) (data : Data) : Bool :=
  let ssn := s.ssnUnwrapper.peekUnwrap data.ssn
  !(decide (ssn = s.nextSsn) && data.isBeginning && data.isEnd) &&
    !(s.chunksBySsn.emplaceNested ssn tsn data).2

def erased (ssn : SSN) : List Data :=
  (s.chunksBySsn.takeTo (s.ssnUnwrapper.peekUnwrap ssn)).values.flatMap values

lemma tryToAssembleMessage_group {s s' : OrderedStream} {chunks : ChunkMap} {m : DcSctpMessage}
    (h : s.tryToAssembleMessage = some (chunks, m, s')) :
    ∃ g, g ≠ [] ∧ m = assembled g ∧ chunkBytes chunks = total size g ∧
      ∀ f, s.heldWeight f = s'.heldWeight f + total f g := by
  unfold tryToAssembleMessage at h
  cases hfr : s.chunksBySsn.front? with
  | none => simp [hfr] at h
  | some p =>
    obtain ⟨ssn, chunks⟩ := p
    simp only [hfr, ne_eq, ite_not, Bool.not_eq_true', Option.ite_none_right_eq_some,
      Option.ite_none_left_eq_some, Option.map_eq_some_iff, Prod.mk.injEq] at h
    obtain ⟨-, -, first, hfirst, rfl, rfl, rfl⟩ := h
    exact group_of_mem s.chunksBySsn ssn (front?_eq_some.mp hfr).1 hfirst

lemma assembleLoop_conserves (rounds : Nat) (s : OrderedStream) :
    (assembleLoop rounds s).Conserves heldWeight (fun f => s.heldWeight f) []
      (assembleLoop rounds s).bytes := by
  induction rounds generalizing s with
  | zero => exact conserves_same _ s
  | succ rounds ih =>
    unfold assembleLoop
    cases hm : s.tryToAssembleMessage with
    | none => exact conserves_same _ s
    | some r =>
      obtain ⟨chunks, m, s'⟩ := r
      obtain ⟨g, hg, rfl, hsize, hheld⟩ := tryToAssembleMessage_group hm
      dsimp only
      rw [hsize]
      split
      · rename_i hzero
        exact (conserves_same 0 s').cons hg hheld (by simp [hzero])
      · exact (ih s').cons hg hheld fun hsmall hpos hle => by rw [assembledBytes_eq (by omega)]

lemma tryToAssembleMessages_conserves :
    s.tryToAssembleMessages.Conserves heldWeight (fun f => s.heldWeight f) []
      s.tryToAssembleMessages.bytes :=
  assembleLoop_conserves _ s

lemma add_conserves (tsn : Int) (data : Data) :
    (s.add tsn data).Conserves heldWeight (fun f => s.heldWeight f + f data)
      (if s.refuses tsn data then [data] else []) (data.size - (s.add tsn data).bytes) := by
  have hnest := weight_stored s.chunksBySsn (s.ssnUnwrapper.peekUnwrap data.ssn) tsn data
  generalize hdisc : (if s.refuses tsn data then [data] else []) = discarded
  unfold add
  dsimp only
  split
  · rename_i hnext
    have hnext : s.ssnUnwrapper.peekUnwrap data.ssn = s.nextSsn := hnext
    unfold tryToAssembleMessagesFastpath
    by_cases hone : (data.isBeginning && data.isEnd) = true
    · have href : s.refuses tsn data = false := by
        simp only [refuses, hnext, decide_true, Bool.true_and, hone, Bool.not_true, Bool.false_and]
      rw [href] at hdisc
      subst hdisc
      rw [if_pos hone, assembled_single]
      have hrest := tryToAssembleMessages_conserves
        { s with ssnUnwrapper := (s.ssnUnwrapper.unwrap data.ssn).2, nextSsn := s.nextSsn + 1 }
      refine hrest.cons (g := [data]) (by simp) (fun f => by simp [heldWeight]) ?_
      intro hsmall hpos hle
      simp only [total_cons, total_nil, Nat.add_zero] at hle ⊢
      exact sub_asInt_sub (by omega) (by omega) (by omega)
    have href : s.refuses tsn data =
        !(s.chunksBySsn.emplaceNested (s.ssnUnwrapper.peekUnwrap data.ssn) tsn data).2 := by
      simp only [refuses, hnext, decide_true, Bool.true_and, Bool.eq_false_iff.mpr hone, Bool.not_false]
    rw [href] at hdisc
    subst hdisc
    rw [if_neg hone]
    dsimp only [SeqNumUnwrapper.unwrap_fst]
    generalize s.chunksBySsn.emplaceNested (s.ssnUnwrapper.peekUnwrap data.ssn) tsn data = r at hnest ⊢
    obtain ⟨chunks, inserted⟩ := r
    cases inserted with
    | false => exact conserves_nothing (by simp [asInt]) hnest
    | true =>
      refine (tryToAssembleMessages_conserves _).of_eq rfl rfl (fun f => hnest f) fun hsmall hpos hle => ?_
      dsimp only
      exact sub_asInt_sub (by omega) hpos (by omega)
  · rename_i hoth2
    have hoth2 : s.ssnUnwrapper.peekUnwrap data.ssn ≠ s.nextSsn := hoth2
    have href : s.refuses tsn data =
        !(s.chunksBySsn.emplaceNested (s.ssnUnwrapper.peekUnwrap data.ssn) tsn data).2 := by
      simp [refuses, hoth2]
    rw [href] at hdisc
    subst hdisc
    exact conserves_nothing (fun hsmall => released_unless _ (by omega)) hnest

lemma eraseTo_conserves (ssn : SSN) :
    (s.eraseTo ssn).Conserves heldWeight (fun f => s.heldWeight f) (s.erased ssn)
      (s.eraseTo ssn).bytes := by
  have hrem : bytesBySsn (s.chunksBySsn.takeTo (s.ssnUnwrapper.peekUnwrap ssn)) =
      total size (s.erased ssn) := weight_eq_flatMap weight_eq_values _
  rw [← append_nil (s.erased ssn)]
  have hskip : ∀ f, s.heldWeight f = (s.skipTo ssn).heldWeight f + total f (s.erased ssn) :=
    weight_dropped s.chunksBySsn _
  unfold eraseTo
  dsimp only
  refine (tryToAssembleMessages_conserves (s.skipTo ssn)).skip rfl rfl hskip fun hsmall hle => ?_
  rw [hrem, asInt_nat (by omega)]

@[simp] lemma heldWeight_reset (f : Data → Nat) (s : OrderedStream) :
    s.reset.heldWeight f = s.heldWeight f := rfl

end OrderedStream

/-! ## Unordered streams -/

namespace UnorderedStream

variable (s : UnorderedStream)

def held : List Data := s.chunks.values

def heldWeight (f : Data → Nat) (s : UnorderedStream) : Nat := s.chunks.weight f

lemma heldWeight_eq (f : Data → Nat) (s : UnorderedStream) : s.heldWeight f = total f s.held :=
  weight_eq_values _

def refuses (tsn : Int) (data : Data) : Bool :=
  !(data.isBeginning && data.isEnd) && s.chunks.contains tsn

def erased (tsn : Int) (s : UnorderedStream) : List Data := (s.chunks.takeTo tsn).values

private abbrev Sorted (l : List (Int × Data)) : Prop := l.Pairwise fun a b => a.1 < b.1

lemma findBeginning_eq {l acc r : List (Int × Data)} (h : findBeginning l acc = some r) :
    ∃ passed rest, l = passed ++ rest ∧ r = passed.reverse ++ acc := by
  induction l generalizing acc with
  | nil => simp [findBeginning] at h
  | cons c prev ih =>
    unfold findBeginning at h
    split at h
    · cases h
      exact ⟨[c], prev, rfl, rfl⟩
    cases prev with
    | nil => simp at h
    | cons p prev =>
      simp only [ne_eq, ite_not, Option.ite_none_right_eq_some] at h
      obtain ⟨passed, rest, hl, hr⟩ := ih h.2
      exact ⟨c :: passed, rest, by rw [hl, cons_append], by simp [hr]⟩

lemma findEnd_eq {l r : List (Int × Data)} (h : findEnd l = some r) :
    ∃ rest, l = r ++ rest ∧ r ≠ [] := by
  induction l generalizing r with
  | nil => simp [findEnd] at h
  | cons c next ih =>
    unfold findEnd at h
    split at h
    · cases h
      exact ⟨next, rfl, by simp⟩
    cases next with
    | nil => simp at h
    | cons n next =>
      simp only [ne_eq, ite_not, Option.ite_none_right_eq_some, Option.map_eq_some_iff] at h
      obtain ⟨-, r', hr', rfl⟩ := h
      obtain ⟨rest, hl, -⟩ := ih hr'
      exact ⟨rest, by rw [hl, cons_append], by simp⟩

lemma filter_at {A B : List (Int × Data)} {c : Int × Data} (h : Sorted (A ++ c :: B)) :
    (A ++ c :: B).filter (fun e => e.1 ≤ c.1) = A ++ [c] ∧
      (A ++ c :: B).filter (fun e => c.1 ≤ e.1) = c :: B := by
  obtain ⟨-, hB, hAB⟩ := pairwise_append.mp h
  have hBlt : ∀ e ∈ B, c.1 < e.1 := fun e he => rel_of_pairwise_cons hB he
  have hAlt : ∀ e ∈ A, e.1 < c.1 := fun e he => hAB e he c mem_cons_self
  constructor
  · rw [filter_append, filter_cons_of_pos (by simp),
      filter_eq_self.mpr fun e he => by simpa using (hAlt e he).le,
      filter_eq_nil_iff.mpr fun e he => by simpa using hBlt e he]
  rw [filter_append, filter_cons_of_pos (by simp),
    filter_eq_nil_iff.mpr fun e he => by simpa using hAlt e he,
    filter_eq_self.mpr fun e he => by simpa using (hBlt e he).le, nil_append]

/-- Removing the keys from the first to the last element of a stretch removes the stretch. -/
lemma filter_outside {front stretch back : List (Int × Data)} {first last : Int × Data}
    (h : Sorted (front ++ (stretch ++ back))) (hfirst : stretch.head? = some first)
    (hlast : stretch.getLast? = some last) :
    (front ++ (stretch ++ back)).filter (fun e => decide (e.1 < first.1 ∨ last.1 < e.1)) =
      front ++ back := by
  obtain ⟨-, hrest, hfr⟩ := pairwise_append.mp h
  obtain ⟨hstretch, -, hback⟩ := pairwise_append.mp hrest
  have hfirstMem : first ∈ stretch := mem_of_mem_head? hfirst
  have hlastMem : last ∈ stretch := mem_of_getLast? hlast
  have hge : ∀ e ∈ stretch, first.1 ≤ e.1 := by
    intro e he
    obtain ⟨rest, rfl⟩ := head?_eq_some_iff.mp hfirst
    rcases mem_cons.mp he with rfl | he
    · exact le_rfl
    · exact (rel_of_pairwise_cons hstretch he).le
  have hle : ∀ e ∈ stretch, e.1 ≤ last.1 := by
    intro e he
    obtain ⟨init, rfl⟩ := getLast?_eq_some_iff.mp hlast
    rcases mem_append.mp he with he | he
    · exact ((pairwise_append.mp hstretch).2.2 e he last (by simp)).le
    · rw [mem_singleton.mp he]
  rw [filter_append, filter_append,
    filter_eq_self.mpr fun e he => by
      simpa using .inl (hfr e he first (mem_append_left _ hfirstMem)),
    filter_eq_nil_iff.mpr fun e he => by
      have h1 := hge e he
      have h2 := hle e he
      simp only [decide_eq_true_eq, not_or, not_lt]
      exact ⟨h1, h2⟩,
    filter_eq_self.mpr fun e he => by simpa using .inr (hback last hlastMem e he),
    nil_append]

lemma tryToAssembleMessage_cases {s : UnorderedStream} {tsn : Int} {data : Data}
    (hmem : (tsn, data) ∈ s.chunks) :
    s.tryToAssembleMessage tsn = ⟨0, [], s⟩ ∨
      ∃ (front stretch back : List (Int × Data)) (first : Int × Data) (kept : ChunkMap),
        s.chunks.entries = front ++ (stretch ++ back) ∧ kept.entries = front ++ back ∧
        stretch.head? = some first ∧
        s.tryToAssembleMessage tsn =
          ⟨assembledBytes stretch.length (stretch.map fun c => c.2.size).sum,
            [assembleMessage first.2 stretch], ⟨kept⟩⟩ := by
  unfold tryToAssembleMessage
  dsimp only
  split
  case h_2 => exact .inl rfl
  case h_1 first start stop hbegin hend =>
    right
    -- the chunks are `front ++ first :: start ++ stop.tail ++ back`
    obtain ⟨A, B, hents⟩ := append_of_mem hmem
    have hsort : Sorted (A ++ (tsn, data) :: B) := hents ▸ s.chunks.sorted
    obtain ⟨hupTo, hfrom⟩ := filter_at hsort
    simp only [hents] at hbegin hend
    rw [hupTo] at hbegin
    rw [hfrom] at hend
    obtain ⟨passed, rest, hpassed, hstart⟩ := findBeginning_eq hbegin
    obtain ⟨back, hstop, hne⟩ := findEnd_eq hend
    obtain ⟨c, tail, rfl⟩ := exists_cons_of_ne_nil hne
    obtain ⟨hc, hB⟩ : (tsn, data) = c ∧ B = tail ++ back := by simpa using hstop
    have hfr : A ++ [(tsn, data)] = rest.reverse ++ (first :: start) := by
      have hrev := congrArg reverse hpassed
      rw [reverse_reverse, reverse_append] at hrev
      rw [hrev, hstart, append_nil]
    have hall : s.chunks.entries = rest.reverse ++ ((first :: start ++ tail) ++ back) := by
      calc s.chunks.entries = (A ++ [(tsn, data)]) ++ B := by rw [hents]; simp
        _ = _ := by rw [hfr, hB]; simp
    have hlast : (first :: start ++ tail).getLast? = (c :: tail).getLast? := by
      rcases eq_nil_or_concat tail with rfl | ⟨init, e, rfl⟩
      · rw [append_nil, ← hc]
        have hl := congrArg getLast? hfr
        rw [getLast?_append_cons, getLast?_append_cons] at hl
        exact hl.symm
      · rw [concat_eq_append, ← append_assoc, ← cons_append, getLast?_concat, getLast?_concat]
    obtain ⟨last, hlastEq⟩ : ∃ last, (c :: tail).getLast? = some last :=
      ⟨_, getLast?_eq_some_getLast (by simp)⟩
    have hkeep : (s.chunks.filterKeys fun k => decide (k < first.1 ∨ last.1 < k)).entries =
        rest.reverse ++ back := by
      show s.chunks.entries.filter _ = _
      rw [hall]
      exact filter_outside (hall ▸ s.chunks.sorted) rfl (hlast.trans hlastEq)
    simp only [hlastEq, Option.map_some, Option.getD_some, tail_cons]
    exact ⟨rest.reverse, first :: start ++ tail, back, first, _, hall, hkeep, rfl, rfl⟩

lemma tryToAssembleMessage_conserves {s : UnorderedStream} {tsn : Int} {data : Data}
    (hmem : (tsn, data) ∈ s.chunks) :
    (s.tryToAssembleMessage tsn).Conserves heldWeight (fun f => s.heldWeight f) []
      (s.tryToAssembleMessage tsn).bytes := by
  rcases tryToAssembleMessage_cases hmem with
    hnone | ⟨front, stretch, back, first, kept, hall, hkept, hfirst, hsome⟩
  · rw [hnone]
    exact conserves_same _ s
  rw [hsome, assembled_of_head hfirst]
  have hsize : (stretch.map fun c => c.2.size).sum = total size (stretch.map Prod.snd) := by
    simp [total, Function.comp_def]
  refine (conserves_same 0 (⟨kept⟩ : UnorderedStream)).cons ?_ ?_ fun hsmall _ hle => by
    rw [hsize, assembledBytes_eq (by omega), add_zero]
  · obtain ⟨rest, rfl⟩ := head?_eq_some_iff.mp hfirst
    simp
  intro f
  unfold heldWeight weight total
  rw [hall, hkept]
  simp only [map_append, sum_append, map_map, Function.comp_def]
  omega

lemma add_conserves (tsn : Int) (data : Data) :
    (s.add tsn data).Conserves heldWeight (fun f => s.heldWeight f + f data)
      (if s.refuses tsn data then [data] else []) (data.size - (s.add tsn data).bytes) := by
  unfold add refuses
  by_cases hone : (data.isBeginning && data.isEnd) = true
  · rw [if_pos hone, hone, assembled_single]
    exact (conserves_same 0 s).cons (g := [data]) (by simp) (fun f => by simp) (by simp)
  rw [if_neg hone, Bool.eq_false_iff.mpr hone, Bool.not_false, Bool.true_and]
  unfold emplace
  cases hc : s.chunks.contains tsn with
  | true => exact conserves_nothing (by simp) fun f => by simp
  | false =>
    exact (tryToAssembleMessage_conserves (s := ⟨s.chunks.insert tsn data⟩)
      (mem_insert.mpr (.inl rfl))).of_eq rfl rfl
      (fun f => (weight_insert_of_not_mem hc).symm)
      fun hsmall hpos hle => sub_asInt_sub (by omega) hpos (by omega)

lemma heldWeight_eraseTo (tsn : Int) (f : Data → Nat) :
    (s.eraseTo tsn).2.heldWeight f + total f (s.erased tsn) = s.heldWeight f := by
  have hsplit := weight_eraseTo_add (f := f) s.chunks tsn
  rw [weight_eq_values (f := f) (s.chunks.takeTo tsn)] at hsplit
  exact hsplit

end UnorderedStream

/-! ## Streams without interleaving -/

namespace TraditionalReassemblyStreams

def held (t : TraditionalReassemblyStreams) : List Data :=
  t.unorderedStreams.values.flatMap UnorderedStream.held ++
    t.orderedStreams.values.flatMap OrderedStream.held

def heldWeight (f : Data → Nat) (t : TraditionalReassemblyStreams) : Nat :=
  t.unorderedStreams.weight (UnorderedStream.heldWeight f) +
    t.orderedStreams.weight (OrderedStream.heldWeight f)

variable (f : Data → Nat) (t : TraditionalReassemblyStreams)

lemma heldWeight_eq : t.heldWeight f = total f t.held := by
  rw [held, total_append]
  exact congrArg₂ (· + ·) (weight_eq_flatMap (UnorderedStream.heldWeight_eq f) _)
    (weight_eq_flatMap (OrderedStream.heldWeight_eq f) _)

def refuses (t : TraditionalReassemblyStreams) (tsn : Int) (data : Data) : Bool :=
  if data.isUnordered then (t.unordered data.streamId).refuses tsn data
  else (t.ordered data.streamId).refuses tsn data

def erasedSkipped (t : TraditionalReassemblyStreams) : List SkippedStream → List Data
  | [] => []
  | skipped :: rest =>
    let s := t.ordered skipped.streamId
    let t' := { t with
      orderedStreams := t.orderedStreams.insert skipped.streamId (s.eraseTo skipped.ssn).state }
    s.erased skipped.ssn ++ t'.erasedSkipped rest

def skipped (t : TraditionalReassemblyStreams) (newCumulativeAckTsn : Int)
    (skippedStreams : List SkippedStream) : List Data :=
  t.unorderedStreams.values.flatMap (erased newCumulativeAckTsn) ++
    erasedSkipped { t with
      unorderedStreams := t.unorderedStreams.mapVal fun _ s => (s.eraseTo newCumulativeAckTsn).2 }
      skippedStreams

lemma heldWeight_setOrdered (sid : StreamID) (s : OrderedStream) :
    heldWeight f { t with orderedStreams := t.orderedStreams.insert sid s } +
        (t.ordered sid).heldWeight f = t.heldWeight f + s.heldWeight f := by
  have hset := weight_insert_getD (f := OrderedStream.heldWeight f) (d := .new 0) rfl t.orderedStreams sid s
  unfold heldWeight ordered
  dsimp only
  omega

lemma heldWeight_ordered_le (sid : StreamID) : (t.ordered sid).heldWeight f ≤ t.heldWeight f := by
  have hset := t.heldWeight_setOrdered f sid (.new 0)
  have hzero : (OrderedStream.new 0).heldWeight f = 0 := rfl
  omega

lemma heldWeight_setUnordered (sid : StreamID) (s : UnorderedStream) :
    heldWeight f { t with unorderedStreams := t.unorderedStreams.insert sid s } +
        (t.unordered sid).heldWeight f = t.heldWeight f + s.heldWeight f := by
  have hset := weight_insert_getD (f := UnorderedStream.heldWeight f) (d := .empty) rfl
    t.unorderedStreams sid s
  unfold heldWeight unordered
  dsimp only
  omega

lemma heldWeight_unordered_le (sid : StreamID) : (t.unordered sid).heldWeight f ≤ t.heldWeight f := by
  have hset := t.heldWeight_setUnordered f sid .empty
  have hzero : UnorderedStream.empty.heldWeight f = 0 := rfl
  omega

lemma add_conserves (tsn : Int) (data : Data) :
    (t.add tsn data).Conserves heldWeight (fun f => t.heldWeight f + f data)
      (if t.refuses tsn data then [data] else []) (data.size - (t.add tsn data).bytes) := by
  unfold add refuses
  cases data.isUnordered with
  | true =>
    refine ((t.unordered data.streamId).add_conserves tsn data).lift
      (Nat.add_le_add_right (t.heldWeight_unordered_le size _) _) ?_
    intro f
    have hset := t.heldWeight_setUnordered f data.streamId
      ((t.unordered data.streamId).add tsn data).state
    omega
  | false =>
    refine ((t.ordered data.streamId).add_conserves tsn data).lift
      (Nat.add_le_add_right (t.heldWeight_ordered_le size _) _) ?_
    intro f
    have hset := t.heldWeight_setOrdered f data.streamId ((t.ordered data.streamId).add tsn data).state
    omega

lemma eraseSkipped_conserves (skips : List SkippedStream) (t : TraditionalReassemblyStreams) :
    (t.eraseSkipped skips).Conserves heldWeight (fun f => t.heldWeight f)
      (t.erasedSkipped skips) (t.eraseSkipped skips).bytes := by
  induction skips generalizing t with
  | nil => exact conserves_same _ t
  | cons k rest ih =>
    refine .append (show (⟨0, _, _⟩ : Reassembly _).Conserves _ _ _ _ from
      ((t.ordered k.streamId).eraseTo_conserves k.ssn).lift (t.heldWeight_ordered_le size _) ?_) (ih _)
    intro f
    exact t.heldWeight_setOrdered f k.streamId ((t.ordered k.streamId).eraseTo k.ssn).state

lemma handleForwardTsn_conserves (tsn : Int) (skips : List SkippedStream) :
    (t.handleForwardTsn tsn skips).Conserves heldWeight (fun f => t.heldWeight f)
      (t.skipped tsn skips) (t.handleForwardTsn tsn skips).bytes := by
  have herased : ∀ f, weight (fun s => total f (erased tsn s)) t.unorderedStreams =
      total f (t.unorderedStreams.values.flatMap (erased tsn)) :=
    fun f => weight_eq_flatMap (fun _ => rfl) _
  refine (eraseSkipped_conserves skips
    { t with unorderedStreams := t.unorderedStreams.mapVal fun _ s => (s.eraseTo tsn).2 }).skip
    rfl rfl ?_ fun hsmall hle => ?_
  · intro f
    have hmap := weight_mapVal_add (f := UnorderedStream.heldWeight f) t.unorderedStreams
      (fun _ s => (s.eraseTo tsn).2) fun _ s => s.heldWeight_eraseTo tsn f
    have := herased f
    unfold heldWeight
    dsimp only
    omega
  rw [← herased] at hle ⊢
  have hone : ∀ e : StreamID × UnorderedStream,
      (e.2.eraseTo tsn).1 = asInt (total size (erased tsn e.2)) := by
    intro e
    have hbytes : chunkBytes (e.2.chunks.takeTo tsn) = total size (erased tsn e.2) := weight_eq_values _
    rw [UnorderedStream.eraseTo, hbytes]
  have hsum : (t.unorderedStreams.entries.map fun e => (e.2.eraseTo tsn).1).sum =
      weight (fun s => total size (erased tsn s)) t.unorderedStreams := by
    simp only [hone]
    exact sum_asInt (fun e : StreamID × UnorderedStream => total size (erased tsn e.2))
      (lt_of_le_of_lt hle hsmall)
  unfold handleForwardTsn
  dsimp only
  rw [hsum]

lemma heldWeight_resetStreams (sids : List StreamID) : (t.resetStreams sids).heldWeight f = t.heldWeight f := by
  unfold heldWeight resetStreams
  rw [weight_mapVal]
  intro sid s
  split
  · exact s.heldWeight_reset f
  · rfl

end TraditionalReassemblyStreams

/-! ## Interleaved streams -/

namespace InterleavedStream

variable (s : InterleavedStream)

def held : List Data := s.chunksByMid.values.flatMap values

def heldWeight (f : Data → Nat) (s : InterleavedStream) : Nat := s.chunksByMid.weight (weight f)

lemma heldWeight_eq (f : Data → Nat) (s : InterleavedStream) : s.heldWeight f = total f s.held :=
  weight_eq_flatMap weight_eq_values _

def refuses (data : Data) : Bool :=
  let mid := s.midUnwrapper.peekUnwrap data.mid
  !((s.unordered || mid == s.nextMid) && (data.isBeginning && data.isEnd)) &&
    !(s.chunksByMid.emplaceNested mid data.fsn data).2

def erased (mid : MID) : List Data :=
  (s.chunksByMid.takeTo (s.midUnwrapper.peekUnwrap mid)).values.flatMap values

lemma tryToAssembleMessage_group {s s' : InterleavedStream} {mid : Int} {chunks : FragmentMap}
    {m : DcSctpMessage} (h : s.tryToAssembleMessage mid = some (chunks, m, s')) :
    ∃ g, g ≠ [] ∧ m = assembled g ∧ chunkBytes chunks = total size g ∧
      ∀ f, s.heldWeight f = s'.heldWeight f + total f g := by
  unfold tryToAssembleMessage at h
  cases hfind : s.chunksByMid.find? mid with
  | none => simp [hfind] at h
  | some chunks =>
    simp only [hfind, Bool.not_eq_true', Option.ite_none_left_eq_some, Option.map_eq_some_iff,
      Prod.mk.injEq] at h
    obtain ⟨-, first, hfirst, rfl, rfl, rfl⟩ := h
    exact group_of_mem s.chunksByMid mid (find?_eq_some.mp hfind) hfirst

lemma assembleLoop_conserves (rounds : Nat) (s : InterleavedStream) :
    (assembleLoop rounds s).Conserves heldWeight (fun f => s.heldWeight f) []
      (assembleLoop rounds s).bytes := by
  induction rounds generalizing s with
  | zero => exact conserves_same _ s
  | succ rounds ih =>
    unfold assembleLoop
    cases hm : s.tryToAssembleMessage s.nextMid with
    | none => exact conserves_same _ s
    | some r =>
      obtain ⟨chunks, m, s'⟩ := r
      obtain ⟨g, hg, rfl, hsize, hheld⟩ := tryToAssembleMessage_group hm
      dsimp only
      rw [hsize]
      split
      · rename_i hzero
        exact (conserves_same 0 s').cons hg hheld (by simp [hzero])
      · exact (ih { s' with nextMid := s'.nextMid + 1 }).cons hg hheld fun hsmall hpos hle => by
          rw [assembledBytes_eq (by omega)]

lemma tryToAssembleMessages_conserves :
    s.tryToAssembleMessages.Conserves heldWeight (fun f => s.heldWeight f) []
      s.tryToAssembleMessages.bytes :=
  assembleLoop_conserves _ s

lemma afterInsert_conserves (mid : Int) {data : Data} (hdata : data.size ≤ s.heldWeight size) :
    (s.afterInsert mid data).Conserves heldWeight (fun f => s.heldWeight f) []
      (data.size - (s.afterInsert mid data).bytes) := by
  have hnone : (⟨asInt data.size, [], s⟩ : Reassembly InterleavedStream).Conserves heldWeight
      (fun f => s.heldWeight f) [] (data.size - asInt data.size) :=
    conserves_nothing (fun hsmall => by simp [asInt_nat (show data.size < 2 ^ 31 by omega)])
      fun f => by simp
  unfold afterInsert
  split
  · cases hm : s.tryToAssembleMessage mid with
    | none =>
      dsimp only
      exact hnone
    | some r =>
      obtain ⟨chunks, m, s'⟩ := r
      obtain ⟨g, hg, rfl, hsize, hheld⟩ := tryToAssembleMessage_group hm
      refine (conserves_same 0 s').cons hg hheld fun hsmall _ hle => ?_
      dsimp only
      rw [hsize, assembledBytes_eq (by omega), sub_asInt_sub (by omega) (by omega) (by omega), add_zero]
  split
  · refine s.tryToAssembleMessages_conserves.of_eq rfl rfl (fun _ => rfl) fun hsmall hpos hle => ?_
    dsimp only
    exact sub_asInt_sub (by omega) hpos (by omega)
  · dsimp only
    exact hnone

lemma add_conserves (data : Data) :
    (s.add data).Conserves heldWeight (fun f => s.heldWeight f + f data)
      (if s.refuses data then [data] else []) (data.size - (s.add data).bytes) := by
  have hnest := weight_stored s.chunksByMid (s.midUnwrapper.peekUnwrap data.mid) data.fsn data
  generalize hdisc : (if s.refuses data then [data] else []) = discarded
  unfold add
  dsimp only
  split
  · rename_i hone
    have href : s.refuses data = false := by
      simp only [Bool.and_eq_true] at hone
      simp [refuses, hone]
    rw [href] at hdisc
    subst hdisc
    rw [assembled_single]
    refine (conserves_same 0 { s with midUnwrapper := (s.midUnwrapper.unwrap data.mid).2 }).cons
      (g := [data]) (by simp) ?_ ?_
    · intro f
      rfl
    · simp
  rename_i hunord
  split
  · rename_i hone
    have href : s.refuses data = false := by
      simp only [Bool.and_eq_true, SeqNumUnwrapper.unwrap_fst] at hone
      simp [refuses, hone]
    rw [href] at hdisc
    subst hdisc
    rw [assembled_single]
    have hrest := tryToAssembleMessages_conserves
      { s with midUnwrapper := (s.midUnwrapper.unwrap data.mid).2, nextMid := s.nextMid + 1 }
    refine hrest.cons (g := [data]) (by simp) (fun f => by simp [heldWeight]) ?_
    intro hsmall hpos hle
    simp only [total_cons, total_nil, Nat.add_zero] at hle ⊢
    rw [asInt_of_range (by omega) (by omega), sub_neg_eq_add]
  rename_i hord
  rw [SeqNumUnwrapper.unwrap_fst] at hord ⊢
  have href : s.refuses data =
      !(s.chunksByMid.emplaceNested (s.midUnwrapper.peekUnwrap data.mid) data.fsn data).2 := by
    have hslow : ((s.unordered || s.midUnwrapper.peekUnwrap data.mid == s.nextMid) &&
        (data.isBeginning && data.isEnd)) = false := by
      revert hunord hord
      generalize (s.midUnwrapper.peekUnwrap data.mid == s.nextMid) = expected
      cases s.unordered <;> cases expected <;> simp
    unfold refuses
    dsimp only
    rw [hslow, Bool.not_false, Bool.true_and]
  rw [href] at hdisc
  subst hdisc
  generalize s.chunksByMid.emplaceNested (s.midUnwrapper.peekUnwrap data.mid) data.fsn data = r
    at hnest ⊢
  obtain ⟨chunks, inserted⟩ := r
  cases inserted with
  | false => exact conserves_nothing (by simp) hnest
  | true =>
    have hdata : data.size ≤ chunks.weight (weight size) := by
      have := hnest size
      simp only [Bool.not_true, Bool.false_eq_true, if_false, total_nil] at this
      omega
    exact (afterInsert_conserves _ _ hdata).of_eq rfl rfl (fun f => hnest f) fun _ _ _ => rfl

lemma eraseTo_conserves (mid : MID) :
    (s.eraseTo mid).Conserves heldWeight (fun f => s.heldWeight f) (s.erased mid)
      (s.eraseTo mid).bytes := by
  have hrem : bytesByMid (s.chunksByMid.takeTo (s.midUnwrapper.peekUnwrap mid)) =
      total size (s.erased mid) := weight_eq_flatMap weight_eq_values _
  have hsum (hsmall : total size (s.erased mid) < 2 ^ 31) :
      ((s.chunksByMid.takeTo (s.midUnwrapper.peekUnwrap mid)).entries.map
        fun e => asInt (chunkBytes e.2)).sum = total size (s.erased mid) := by
    rw [← hrem] at hsmall ⊢
    exact sum_asInt (fun e : Int × FragmentMap => chunkBytes e.2) hsmall
  have hskip : ∀ f, s.heldWeight f = (s.skipTo mid).heldWeight f + total f (s.erased mid) :=
    weight_dropped s.chunksByMid _
  have hle := hskip size
  unfold eraseTo
  dsimp only
  split
  · exact conserves_nothing (fun hsmall => hsum (by omega)) hskip
  rw [← append_nil (s.erased mid)]
  exact (tryToAssembleMessages_conserves (s.skipTo mid)).skip rfl rfl hskip
    fun hsmall _ => by rw [hsum (by omega)]

@[simp] lemma heldWeight_reset (f : Data → Nat) (s : InterleavedStream) :
    s.reset.heldWeight f = s.heldWeight f := rfl

end InterleavedStream

namespace InterleavedReassemblyStreams

def held (t : InterleavedReassemblyStreams) : List Data :=
  t.streams.values.flatMap InterleavedStream.held

def heldWeight (f : Data → Nat) (t : InterleavedReassemblyStreams) : Nat :=
  t.streams.weight (InterleavedStream.heldWeight f)

variable (f : Data → Nat) (t : InterleavedReassemblyStreams)

lemma heldWeight_eq : t.heldWeight f = total f t.held :=
  weight_eq_flatMap (InterleavedStream.heldWeight_eq f) _

def refuses (t : InterleavedReassemblyStreams) (data : Data) : Bool :=
  (t.stream data.isUnordered data.streamId).refuses data

def skipped (t : InterleavedReassemblyStreams) : List SkippedStream → List Data
  | [] => []
  | k :: rest =>
    let s := t.stream k.unordered k.streamId
    s.erased k.mid ++ (t.setStream k.unordered k.streamId (s.eraseTo k.mid).state).skipped rest

lemma heldWeight_setStream (unord : Bool) (sid : StreamID) (s : InterleavedStream) :
    (t.setStream unord sid s).heldWeight f + (t.stream unord sid).heldWeight f =
      t.heldWeight f + s.heldWeight f :=
  weight_insert_getD (f := InterleavedStream.heldWeight f) (d := .new unord 0) rfl t.streams
    (fullStreamId unord sid) s

lemma heldWeight_stream_le (unord : Bool) (sid : StreamID) :
    (t.stream unord sid).heldWeight f ≤ t.heldWeight f := by
  have hset := t.heldWeight_setStream f unord sid (.new unord 0)
  have hzero : (InterleavedStream.new unord 0).heldWeight f = 0 := rfl
  omega

lemma add_conserves (data : Data) :
    (t.add data).Conserves heldWeight (fun f => t.heldWeight f + f data)
      (if t.refuses data then [data] else []) (data.size - (t.add data).bytes) := by
  refine ((t.stream data.isUnordered data.streamId).add_conserves data).lift
    (Nat.add_le_add_right (t.heldWeight_stream_le size _ _) _) ?_
  intro f
  have hset := t.heldWeight_setStream f data.isUnordered data.streamId
    ((t.stream data.isUnordered data.streamId).add data).state
  omega

lemma handleForwardTsn_conserves (skips : List SkippedStream) (t : InterleavedReassemblyStreams) :
    (t.handleForwardTsn skips).Conserves heldWeight (fun f => t.heldWeight f)
      (t.skipped skips) (t.handleForwardTsn skips).bytes := by
  induction skips generalizing t with
  | nil => exact conserves_same _ t
  | cons k rest ih =>
    refine .append (show (⟨0, _, _⟩ : Reassembly _).Conserves _ _ _ _ from
      ((t.stream k.unordered k.streamId).eraseTo_conserves k.mid).lift
        (t.heldWeight_stream_le size _ _) ?_) (ih _)
    intro f
    exact t.heldWeight_setStream f k.unordered k.streamId _

lemma heldWeight_resetStream (sid : StreamID) :
    (t.resetStream sid).heldWeight f = t.heldWeight f := by
  have h1 := t.heldWeight_setStream f true sid (t.stream true sid).reset
  have h2 := (t.setStream true sid (t.stream true sid).reset).heldWeight_setStream f false sid
    ((t.setStream true sid (t.stream true sid).reset).stream false sid).reset
  simp only [InterleavedStream.heldWeight_reset] at h1 h2
  unfold resetStream
  dsimp only
  omega

lemma heldWeight_resetStreams (sids : List StreamID) : (t.resetStreams sids).heldWeight f = t.heldWeight f := by
  unfold resetStreams
  split
  · exact weight_mapVal _ _ fun _ s => s.heldWeight_reset f
  have hstep : ∀ (t' : InterleavedReassemblyStreams) sid, t'.heldWeight f = t.heldWeight f →
      (t'.resetStream sid).heldWeight f = t.heldWeight f :=
    fun t' sid ht' => (t'.heldWeight_resetStream f sid).trans ht'
  exact run_induction (P := fun t' : InterleavedReassemblyStreams => t'.heldWeight f = _) hstep
    sids rfl

end InterleavedReassemblyStreams

namespace ReassemblyStreams

def held : ReassemblyStreams → List Data
  | .traditional s => s.held
  | .interleaved s => s.held

def heldWeight (f : Data → Nat) : ReassemblyStreams → Nat
  | .traditional s => s.heldWeight f
  | .interleaved s => s.heldWeight f

lemma heldWeight_eq (f : Data → Nat) (t : ReassemblyStreams) : t.heldWeight f = total f t.held := by
  cases t with
  | traditional s | interleaved s => exact s.heldWeight_eq f

def refuses (t : ReassemblyStreams) (tsn : Int) (data : Data) : Bool :=
  match t with
  | .traditional s => s.refuses tsn data
  | .interleaved s => s.refuses data

def skipped (t : ReassemblyStreams) (newCumulativeAckTsn : Int) (skippedStreams : List SkippedStream) :
    List Data :=
  match t with
  | .traditional s => s.skipped newCumulativeAckTsn skippedStreams
  | .interleaved s => s.skipped skippedStreams

lemma add_conserves (t : ReassemblyStreams) (tsn : Int) (data : Data) :
    (t.add tsn data).Conserves heldWeight (fun f => t.heldWeight f + f data)
      (if t.refuses tsn data then [data] else []) (data.size - (t.add tsn data).bytes) := by
  cases t with
  | traditional s => exact (s.add_conserves tsn data).lift le_rfl fun f => Nat.add_comm ..
  | interleaved s => exact (s.add_conserves data).lift le_rfl fun f => Nat.add_comm ..

lemma handleForwardTsn_conserves (t : ReassemblyStreams) (tsn : Int)
    (skips : List SkippedStream) :
    (t.handleForwardTsn tsn skips).Conserves heldWeight (fun f => t.heldWeight f)
      (t.skipped tsn skips) (t.handleForwardTsn tsn skips).bytes := by
  cases t with
  | traditional s => exact (s.handleForwardTsn_conserves tsn skips).lift le_rfl fun f => Nat.add_comm ..
  | interleaved s => exact (s.handleForwardTsn_conserves skips).lift le_rfl fun f => Nat.add_comm ..

@[simp] lemma heldWeight_resetStreams (f : Data → Nat) (t : ReassemblyStreams)
    (sids : List StreamID) : (t.resetStreams sids).heldWeight f = t.heldWeight f := by
  cases t with
  | traditional s | interleaved s => exact s.heldWeight_resetStreams f sids

end ReassemblyStreams

end WebRtc.Dcsctp
