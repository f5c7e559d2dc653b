import Mathlib.Data.List.Infix

/-!
# Common video — H.264 byte streams

`WriteRbsp` puts the byte 3 behind two zeros that a byte up to 3 would follow, and `ParseRbsp`
takes it out again. What was written can then stand behind a start sequence in a stream:
`FindNaluIndices`, which steps over three bytes at a time where it can, finds the start sequences
that a scan of every position finds (`findNaluIndices_exact`), and in a stream of escaped units
these are the ones that separate them (`annexB_round_trip`).
-/

namespace WebRtc.CommonVideo.H264

open List

/-! ## Escaping -/

/-- The loop, from a byte on that follows `zeros` zeros. -/
def writeRbspFrom : Nat → List UInt8 → List UInt8
  | _, [] => []
  | zeros, byte :: bytes =>
    let escape := byte ≤ 3 ∧ 2 ≤ zeros
    let zeros := if escape then 0 else zeros
    (if escape then [3] else []) ++
      byte :: writeRbspFrom (if byte = 0 then zeros + 1 else 0) bytes

/-- The bytes that are appended to the destination. -/
def writeRbsp (bytes : List UInt8) : List UInt8 := writeRbspFrom 0 bytes

def parseRbsp : List UInt8 → List UInt8
  | a :: b :: c :: data =>
    if a = 0 ∧ b = 0 ∧ c = 3 then a :: b :: parseRbsp data else a :: parseRbsp (b :: c :: data)
  -- fewer than three bytes are left
  | data => data

variable {x : UInt8} {data bytes buffer : List UInt8} {i j : Nat}

lemma parseRbsp_cons (hx : x ≠ 0) (data : List UInt8) :
    parseRbsp (x :: data) = x :: parseRbsp data := by
  match data with
  | [] | [_] => rfl
  | b :: c :: data => rw [parseRbsp, if_neg fun h => hx h.1]

lemma parseRbsp_zero_cons (hx : x ≠ 0) (data : List UInt8) :
    parseRbsp (0 :: x :: data) = 0 :: parseRbsp (x :: data) := by
  cases data with
  | nil => rfl
  | cons c data => rw [parseRbsp, if_neg fun h => hx h.2.1]

/-- The parser gives the bytes back, and two zeros and a byte up to 2 are nowhere in the data. -/
structure Escapes (data bytes : List UInt8) : Prop where
  parse : parseRbsp data = bytes
  clean : ∀ y : UInt8, y ≤ 2 → ¬[0, 0, y] <:+: data

namespace Escapes

lemma cons (h : Escapes data bytes) (hx : x ≠ 0) : Escapes (x :: data) (x :: bytes) := by
  refine ⟨by rw [parseRbsp_cons hx, h.parse], fun y hy hin => ?_⟩
  rcases infix_cons_iff.mp hin with hpre | hin
  · exact hx (cons_prefix_cons.mp hpre).1.symm
  · exact h.clean y hy hin

lemma zero_cons (h : Escapes (x :: data) bytes) (hx : x ≠ 0) :
    Escapes (0 :: x :: data) (0 :: bytes) := by
  refine ⟨by rw [parseRbsp_zero_cons hx, h.parse], fun y hy hin => ?_⟩
  rcases infix_cons_iff.mp hin with hpre | hin
  · exact hx (cons_prefix_cons.mp (cons_prefix_cons.mp hpre).2).1.symm
  · exact h.clean y hy hin

/-- Behind two zeros the data may go on with a byte above 2. -/
lemma clean_zero_zero_cons (h : Escapes (0 :: x :: data) bytes) (hx : ¬x ≤ 2) :
    ∀ y : UInt8, y ≤ 2 → ¬[0, 0, y] <:+: 0 :: 0 :: x :: data := by
  intro y hy hin
  rcases infix_cons_iff.mp hin with hpre | hin
  · simp only [cons_prefix_cons, true_and] at hpre
    exact hx (hpre.1 ▸ hy)
  · exact h.clean y hy hin

lemma escape (h : Escapes (x :: data) bytes) : Escapes (0 :: 0 :: 3 :: x :: data) (0 :: 0 :: bytes) := by
  refine ⟨?_, clean_zero_zero_cons ((h.cons (x := 3) (by decide)).zero_cons (by decide)) (by decide)⟩
  rw [parseRbsp, if_pos ⟨rfl, rfl, rfl⟩, h.parse]

lemma zero_zero_cons (h : Escapes data bytes) (hx : ¬x ≤ 3) :
    Escapes (0 :: 0 :: x :: data) (0 :: 0 :: x :: bytes) := by
  have h0 : x ≠ 0 := by rintro rfl; exact hx (by decide)
  have h3 : x ≠ 3 := by rintro rfl; exact hx (by decide)
  have hone := (h.cons h0).zero_cons h0
  refine ⟨?_, clean_zero_zero_cons hone fun h2 => hx (UInt8.le_trans h2 (by decide))⟩
  rw [parseRbsp, if_neg fun h => h3 h.2.2, hone.parse]

/-- The zeros that are counted stand in front of what is written next. -/
lemma of_writeRbspFrom (zeros : Nat) (hz : zeros ≤ 2) (bytes : List UInt8) :
    Escapes (replicate zeros 0 ++ writeRbspFrom zeros bytes) (replicate zeros 0 ++ bytes) := by
  induction bytes generalizing zeros with
  | nil =>
    refine ⟨?_, fun y _ hin => ?_⟩
    · match zeros, hz with
      | 0, _ | 1, _ | 2, _ => rfl
    · have := hin.length_le
      simp [writeRbspFrom] at this
      omega
  | cons x bytes ih =>
    by_cases hx : x = 0
    · subst hx
      match zeros, hz with
      -- a zero is one more of those that the next byte finds
      | 0, _ => exact ih 1 (by omega)
      | 1, _ => exact ih 2 le_rfl
      | 2, _ => exact (ih 1 (by omega)).escape
    · have hrest := (ih 0 (by omega)).cons hx
      match zeros, hz with
      | 0, _ => simpa [writeRbspFrom, hx] using hrest
      | 1, _ => simpa [writeRbspFrom, hx] using hrest.zero_cons hx
      | 2, _ =>
        by_cases hesc : x ≤ 3
        · simpa [writeRbspFrom, hx, hesc] using hrest.escape
        · simpa [writeRbspFrom, hx, hesc] using (ih 0 (by omega)).zero_zero_cons hesc

end Escapes

/-- Whatever the bytes are, they are read back from what was written, which has no start sequence
in it. -/
theorem rbsp_round_trip (bytes : List UInt8) :
    parseRbsp (writeRbsp bytes) = bytes ∧
      ∀ x : UInt8, x ≤ 2 → ¬[0, 0, x] <:+: writeRbsp bytes :=
  have h := Escapes.of_writeRbspFrom 0 (by omega) bytes
  ⟨h.parse, h.clean⟩

/-! ## Start sequences -/

structure NaluIndex where
  startOffset : Nat
  payloadStartOffset : Nat
  -- a difference of `size_t`s, which wraps in the source where it is negative here
  payloadSize : Int

/-- The offset of a start sequence of three bytes, or of four where a zero is in front of it. -/
def startOffset (buffer : List UInt8) (i : Nat) : Nat :=
  if 0 < i ∧ buffer.getD (i - 1) 0 = 0 then i - 1 else i

/-- Update the length of the last entry, if any. The last entry is in front here. -/
def updateLength (stop : Nat) : List NaluIndex → List NaluIndex
  | [] => []
  | index :: sequences =>
    { index with payloadSize := (stop : Int) - index.payloadStartOffset } :: sequences

/-- The loop, from `i` on. -/
def findFrom (buffer : List UInt8) (i : Nat) (sequences : List NaluIndex) : List NaluIndex :=
  if i < buffer.length - 3 then
    if 1 < buffer.getD (i + 2) 0 then findFrom buffer (i + 3) sequences
    else if buffer.getD (i + 2) 0 = 1 then
      if buffer.getD (i + 1) 0 = 0 ∧ buffer.getD i 0 = 0 then
        findFrom buffer (i + 3)
          (⟨startOffset buffer i, i + 3, 0⟩ :: updateLength (startOffset buffer i) sequences)
      else findFrom buffer (i + 3) sequences
    else findFrom buffer (i + 1) sequences
  else sequences
termination_by buffer.length - i

def findNaluIndices (buffer : List UInt8) : List NaluIndex :=
  if buffer.length < 3 then [] else (updateLength buffer.length (findFrom buffer 0 [])).reverse

/-- The start sequences that a byte follows, looked for at every position. -/
def scan : Nat → List UInt8 → List Nat
  | i, a :: b :: c :: d :: data =>
    if a = 0 ∧ b = 0 ∧ c = 1 then i :: scan (i + 1) (b :: c :: d :: data)
    else scan (i + 1) (b :: c :: d :: data)
  | _, _ => []

/-- Where the unit in front of the given start sequences ends. -/
def stopOf (buffer : List UInt8) : List Nat → Nat
  | [] => buffer.length
  | i :: _ => startOffset buffer i

def indices (buffer : List UInt8) : List Nat → List NaluIndex
  | [] => []
  | i :: is =>
    ⟨startOffset buffer i, i + 3, (stopOf buffer is : Int) - (i + 3 : Nat)⟩ :: indices buffer is

lemma scan_of_no_start (i : Nat) (h : ¬[0, 0, 1] <+: x :: data) :
    scan i (x :: data) = scan (i + 1) data := by
  match data with
  | [] | [_] | [_, _] => rfl
  | b :: c :: d :: data =>
    rw [scan, if_neg]
    rintro ⟨rfl, rfl, rfl⟩
    exact h ⟨d :: data, rfl⟩

lemma scan_cons (i : Nat) (hx : x ≠ 0) : scan i (x :: data) = scan (i + 1) data :=
  scan_of_no_start i fun hpre => hx (cons_prefix_cons.mp hpre).1.symm

lemma scan_cons_cons (i : Nat) (b : UInt8) (hx : x ≠ 0) :
    scan i (b :: x :: data) = scan (i + 2) data := by
  rw [scan_of_no_start, scan_cons (i + 1) hx]
  exact fun hpre => hx (cons_prefix_cons.mp (cons_prefix_cons.mp hpre).2).1.symm

/-- The bytes that the loop looks at. -/
lemma drop_eq_cons (h : i < buffer.length - 3) :
    ∃ d data, buffer.drop i = buffer.getD i 0 :: buffer.getD (i + 1) 0 ::
      buffer.getD (i + 2) 0 :: d :: data ∧ buffer.drop (i + 3) = d :: data := by
  refine ⟨buffer.getD (i + 3) 0, buffer.drop (i + 4), ?_, ?_⟩
  · simp only [getD_eq_getElem?_getD]
    rw [drop_eq_getElem_cons (by omega), drop_eq_getElem_cons (by omega),
      drop_eq_getElem_cons (by omega), drop_eq_getElem_cons (by omega)]
    simp [show i < buffer.length by omega, show i + 1 < buffer.length by omega,
      show i + 2 < buffer.length by omega, show i + 3 < buffer.length by omega]
  · rw [drop_eq_getElem_cons (by omega)]
    simp [show i + 3 < buffer.length by omega]

lemma scan_of_length_le (i : Nat) (h : data.length ≤ 3) : scan i data = [] := by
  match data, h with
  | [], _ | [_], _ | [_, _], _ | [_, _, _], _ => rfl

/-- No start sequence starts at one of the next two positions where the third byte is not zero. -/
lemma scan_drop (h : i < buffer.length - 3)
    (hc : buffer.getD (i + 2) 0 ≠ 0) : scan i (buffer.drop i) =
      if buffer.getD i 0 = 0 ∧ buffer.getD (i + 1) 0 = 0 ∧ buffer.getD (i + 2) 0 = 1 then
        i :: scan (i + 3) (buffer.drop (i + 3))
      else scan (i + 3) (buffer.drop (i + 3)) := by
  obtain ⟨d, data, hdrop, hdrop3⟩ := drop_eq_cons h
  rw [hdrop, hdrop3, scan, scan_cons_cons (i + 1) _ hc]

lemma updateLength_findFrom (buffer : List UInt8) (i : Nat) (sequences : List NaluIndex) :
    (updateLength buffer.length (findFrom buffer i sequences)).reverse =
      (updateLength (stopOf buffer (scan i (buffer.drop i))) sequences).reverse ++
        indices buffer (scan i (buffer.drop i)) := by
  fun_induction findFrom buffer i sequences with
  | case1 i sequences h hc ih =>
    have h0 : buffer.getD (i + 2) 0 ≠ 0 := fun h0 => by rw [h0] at hc; exact absurd hc (by decide)
    have h1 : buffer.getD (i + 2) 0 ≠ 1 := fun h1 => by rw [h1] at hc; exact absurd hc (by decide)
    rw [ih, scan_drop h h0, if_neg fun hcode => h1 hcode.2.2]
  | case2 i sequences h _ hc hcode ih =>
    rw [ih, scan_drop h (by rw [hc]; decide), if_pos ⟨hcode.2, hcode.1, hc⟩]
    simp [updateLength, indices, stopOf]
  | case3 i sequences h _ hc hcode ih =>
    rw [ih, scan_drop h (by rw [hc]; decide), if_neg fun h => hcode ⟨h.2.1, h.1⟩]
  | case4 i sequences h _ hc ih =>
    obtain ⟨d, data, hdrop, -⟩ := drop_eq_cons h
    have htail : buffer.drop (i + 1) = (buffer.drop i).tail := by rw [tail_drop]
    rw [ih, htail, hdrop, scan, if_neg fun h => hc h.2.2]
    rfl
  | case5 i sequences h =>
    rw [scan_of_length_le i (by rw [length_drop]; omega), indices, append_nil]
    rfl

lemma findNaluIndices_eq_scan (buffer : List UInt8) :
    findNaluIndices buffer = indices buffer (scan 0 buffer) := by
  unfold findNaluIndices
  split
  · rw [scan_of_length_le 0 (by omega)]
    rfl
  · rw [updateLength_findFrom, drop_zero]
    rfl

/-- The payload is a part of the buffer, with a size that has not wrapped. -/
def NaluIndex.Inside (buffer : List UInt8) (index : NaluIndex) : Prop :=
  0 ≤ index.payloadSize ∧ index.payloadStartOffset + index.payloadSize ≤ buffer.length

lemma mem_scan (h : j ∈ scan i data) : i ≤ j ∧ j + 3 < i + data.length := by
  fun_induction scan i data with
  | case1 i a b c d data _ ih =>
    rcases mem_cons.mp h with rfl | h
    · simp
    · have := ih h
      simp only [length_cons] at this ⊢
      omega
  | case2 i a b c d data _ ih =>
    have := ih h
    simp only [length_cons] at this ⊢
    omega
  | case3 => cases h

/-- A zero in front of the next start sequence is not the byte 1 that the unit begins behind. -/
lemma le_stopOf (hone : buffer.getD (i - 1) 0 = 1) (hi : i ≤ buffer.length) :
    i ≤ stopOf buffer (scan i (buffer.drop i)) ∧
      stopOf buffer (scan i (buffer.drop i)) ≤ buffer.length := by
  cases hscan : scan i (buffer.drop i) with
  | nil => exact ⟨hi, le_rfl⟩
  | cons j js =>
    have hj : j ∈ scan i (buffer.drop i) := hscan ▸ mem_cons_self
    have hj := mem_scan hj
    rw [length_drop] at hj
    rw [stopOf, startOffset]
    split
    · rename_i hzero
      have hne : j ≠ i := by
        rintro rfl
        rw [hone] at hzero
        exact absurd hzero.2 (by decide)
      omega
    · omega

lemma inside_of_mem_indices (hdata : buffer.drop i = data) :
    ∀ index ∈ indices buffer (scan i data), index.Inside buffer := by
  fun_induction scan i data with
  | case1 i a b c d data hcode ih =>
    obtain ⟨rfl, rfl, rfl⟩ := hcode
    have hlen := congrArg length hdata
    have hdrop : buffer.drop (i + 3) = d :: data := by rw [← drop_drop, hdata]; rfl
    have hone : buffer.getD (i + 2) 0 = 1 := by
      rw [getD_eq_getElem?_getD, ← getElem?_drop, hdata]
      rfl
    simp only [length_drop, length_cons] at hlen
    have hstop := le_stopOf (i := i + 3) hone (by omega)
    rw [hdrop, ← scan_cons_cons (i + 1) 0 (by decide : (1 : UInt8) ≠ 0)] at hstop
    refine forall_mem_cons.mpr ⟨⟨?_, ?_⟩, ih (by rw [← drop_drop, hdata]; rfl)⟩ <;> dsimp only <;> omega
  | case2 i a b c d data _ ih => exact ih (by rw [← drop_drop, hdata]; rfl)
  | case3 => nofun

/-- For every buffer, the scan in steps of three finds what the scan of every position finds, the
offsets and sizes follow from where the start sequences are, and the payloads are parts of the
buffer. -/
theorem findNaluIndices_exact (buffer : List UInt8) :
    findNaluIndices buffer = indices buffer (scan 0 buffer) ∧
      ∀ index ∈ findNaluIndices buffer, index.Inside buffer :=
  ⟨findNaluIndices_eq_scan buffer, by
    rw [findNaluIndices_eq_scan]
    exact inside_of_mem_indices rfl⟩

/-! ## Streams of units -/

/-- The payloads that the indices stand for. -/
def payloads (buffer : List UInt8) : List (List UInt8) :=
  (findNaluIndices buffer).map fun index =>
    (buffer.drop index.payloadStartOffset).take index.payloadSize.toNat

/-- A unit that is to be sent: its first byte has a type in it, and the stop bit is in the last
byte of what follows. -/
structure NalUnit where
  longStartSequence : Bool
  header : UInt8
  rbsp : List UInt8
  header_ne_zero : header ≠ 0
  stopped : rbsp.getLast? ≠ some 0

namespace NalUnit

def startSequence (n : NalUnit) : List UInt8 :=
  if n.longStartSequence then [0, 0, 0, 1] else [0, 0, 1]

def payload (n : NalUnit) : List UInt8 := n.header :: writeRbsp n.rbsp

/-- The units one after another, each behind its start sequence. -/
def annexB (units : List NalUnit) : List UInt8 := units.flatMap fun n => n.startSequence ++ n.payload

lemma annexB_cons (n : NalUnit) (units : List NalUnit) :
    annexB (n :: units) = n.startSequence ++ (n.payload ++ annexB units) := by
  rw [annexB, flatMap_cons, append_assoc]
  rfl

lemma getLast?_writeRbspFrom (zeros : Nat) (bytes : List UInt8) :
    (writeRbspFrom zeros bytes).getLast? = bytes.getLast? := by
  induction bytes generalizing zeros with
  | nil => rfl
  | cons x bytes ih => simp [writeRbspFrom, getLast?_append, getLast?_cons, ih]

variable (n : NalUnit)

lemma clean_payload : ¬[0, 0, 1] <:+: n.payload :=
  ((Escapes.of_writeRbspFrom 0 (by omega) n.rbsp).cons n.header_ne_zero).clean 1 (by decide)

lemma getLast?_payload : n.payload.getLast? ≠ some 0 := by
  have hlast := n.stopped
  rw [payload, writeRbsp, getLast?_cons, getLast?_writeRbspFrom]
  cases hrbsp : n.rbsp.getLast? with
  | none => simpa using n.header_ne_zero
  | some x => rwa [hrbsp] at hlast

/-- Nothing starts inside of bytes with no start sequence in them that do not end with a zero. -/
lemma scan_append {u : List UInt8} (hclean : ¬[0, 0, 1] <:+: u) (hlast : u.getLast? ≠ some 0)
    (i : Nat) (rest : List UInt8) : scan i (u ++ rest) = scan (i + u.length) rest := by
  induction u generalizing i with
  | nil => rfl
  | cons a u ih =>
    have htail : u.getLast? ≠ some 0 := by
      cases u with
      | nil => simp
      | cons b u => simpa using hlast
    rw [length_cons, Nat.add_comm _ 1, ← Nat.add_assoc, cons_append,
      ← ih (fun hin => hclean (hin.trans (suffix_cons a u).isInfix)) htail]
    refine scan_of_no_start i fun hpre => ?_
    by_cases hlen : 3 ≤ (a :: u).length
    · exact hclean (prefix_of_prefix_length_le hpre (prefix_append (a :: u) rest) hlen).isInfix
    · -- a start sequence that ends behind these bytes has one of its zeros as their last
      rcases u with _ | ⟨b, _ | ⟨c, u⟩⟩
      · exact hlast (by simp [(cons_prefix_cons.mp hpre).1])
      · exact htail (by simp [(cons_prefix_cons.mp (cons_prefix_cons.mp hpre).2).1])
      · exact hlen (by simp)

lemma scan_unit (i : Nat) (rest : List UInt8) :
    scan i (n.startSequence ++ (n.payload ++ rest)) =
      (i + n.startSequence.length - 3) ::
        scan (i + n.startSequence.length + n.payload.length) rest := by
  have hpayload := fun i => scan_append n.clean_payload n.getLast?_payload i rest
  have hcode : ∀ i, scan i (0 :: 0 :: 1 :: (n.payload ++ rest)) =
      i :: scan (i + 3 + n.payload.length) rest := by
    intro i
    rw [← hpayload, payload, cons_append, scan, if_pos ⟨rfl, rfl, rfl⟩,
      scan_cons_cons (i + 1) _ (by decide)]
  unfold startSequence
  split
  · -- the first of four bytes is no start sequence of three
    show scan i (0 :: 0 :: 0 :: 1 :: (n.payload ++ rest)) = _
    rw [scan_of_no_start i (by simp), hcode]
    rfl
  · exact hcode i

/-- The offset of the next start sequence, with a zero in front of its three bytes or not, is
where the bytes in front of it end. -/
lemma stopOf_scan (front : List UInt8) (hfront : front.getLast? ≠ some 0) (units : List NalUnit) :
    stopOf (front ++ annexB units) (scan front.length (annexB units)) = front.length := by
  cases units with
  | nil => simp [annexB, scan, stopOf]
  | cons n units =>
    rw [annexB_cons, scan_unit, stopOf, startOffset, startSequence]
    split
    · simp
    · rw [if_neg]
      · rfl
      rintro ⟨hpos, hzero⟩
      rw [getLast?_eq_getElem?] at hfront
      simp only [length_cons, length_nil, Nat.add_sub_cancel] at hpos hzero
      rw [getD_eq_getElem?_getD, getElem?_append_left (by omega), getElem?_eq_getElem (by omega)] at hzero
      exact hfront (by rw [getElem?_eq_getElem (by omega)]; exact congrArg some hzero)

lemma payloads_from (front : List UInt8) (hfront : front.getLast? ≠ some 0) (units : List NalUnit) :
    (indices (front ++ annexB units) (scan front.length (annexB units))).map (fun index =>
      ((front ++ annexB units).drop index.payloadStartOffset).take index.payloadSize.toNat) =
      units.map payload := by
  induction units generalizing front with
  | nil => rfl
  | cons n units ih =>
    have hlast : (front ++ (n.startSequence ++ n.payload)).getLast? ≠ some 0 := by
      have := n.getLast?_payload
      rw [← append_assoc, getLast?_append]
      cases hp : n.payload.getLast? with
      | none => simp [payload] at hp
      | some x => rwa [hp] at this
    have hthree : 3 ≤ n.startSequence.length := by
      unfold startSequence
      split <;> decide
    have hnext := ih _ hlast
    have hstop := stopOf_scan _ hlast units
    have hsplit : front ++ annexB (n :: units) =
        front ++ (n.startSequence ++ n.payload) ++ annexB units := by
      rw [annexB_cons, append_assoc, append_assoc]
    have hscan : scan front.length (annexB (n :: units)) =
        (front.length + n.startSequence.length - 3) ::
          scan (front ++ (n.startSequence ++ n.payload)).length (annexB units) := by
      rw [annexB_cons, scan_unit, length_append, length_append, Nat.add_assoc]
    rw [hscan, hsplit, indices, map_cons, map_cons, hnext, hstop]
    congr 1
    have hsize : (((front ++ n.startSequence ++ n.payload).length : Int) -
        (front ++ n.startSequence).length).toNat = n.payload.length := by
      rw [length_append]
      omega
    rw [Nat.sub_add_cancel (by omega), ← length_append, ← append_assoc front, append_assoc _ n.payload,
      drop_left]
    dsimp only
    rw [hsize, take_left]

end NalUnit

open NalUnit

/-- The units of a stream are found and read back, whatever they are and whichever of the two start
sequences each of them has. -/
theorem annexB_round_trip (units : List NalUnit) :
    (payloads (annexB units)).map (fun u => (u.head?, parseRbsp u.tail)) =
      units.map fun n => (some n.header, n.rbsp) := by
  rw [payloads, findNaluIndices_eq_scan]
  have h := payloads_from [] (by simp) units
  rw [length_nil, nil_append] at h
  rw [h, map_map]
  refine map_congr_left fun n _ => ?_
  exact congrArg (Prod.mk _) (Escapes.of_writeRbspFrom 0 (by omega) n.rbsp).parse

/-- Two units, of which the first contains a start sequence and the second what escapes one. -/
theorem annexB_round_trip_two_units :
    (payloads (annexB [⟨true, 0x67, [0, 0, 1, 0x80], by decide, by decide⟩,
      ⟨false, 0x65, [0, 0, 3, 1], by decide, by decide⟩])).map (fun u => (u.head?, parseRbsp u.tail)) =
        [(some 0x67, [0, 0, 1, 0x80]), (some 0x65, [0, 0, 3, 1])] :=
  annexB_round_trip _

end WebRtc.CommonVideo.H264
