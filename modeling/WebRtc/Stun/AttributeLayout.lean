import WebRtc.Stun.Message

/-!
# WebRTC — where the attributes of a STUN message begin and end

The check of the integrity goes by the declared lengths (`layout`); `Read` goes by what the reader
of each attribute takes (`bodySize`). The two agree where the reader takes the padded declared
length (`Header.Regular`): attributes of fixed size ignore the declared length, and the length of a
skipped attribute is rounded up in sixteen bits.
-/

namespace WebRtc.Stun

open Lib Reader.Reads List Option

/-! ## What the readers take -/

variable (n length : Nat) {buf rest : List UInt8} {pos : Nat}

lemma paddedLength_lt : paddedLength n < n + 4 := by
  unfold paddedLength
  split <;> omega

lemma paddedLength_mod : paddedLength n % 4 = 0 := by
  unfold paddedLength
  split <;> omega

/-- The bytes that `Read` takes for the value of an attribute, where there are
enough. -/
def bodySize (c : MessageClass) (type : AttributeType) (length : BitVec 16) : Nat :=
  match createAttribute c type with
  | .unknown => (roundedLength length).toNat
  | .uint32 => 4
  | .uint64 => 8
  | .address => length.toNat
  | .xorAddress => length.toNat
  | .byteString => paddedLength length.toNat
  | .errorCode => paddedLength length.toNat
  | .uint16List => paddedLength length.toNat

/-- A reader that takes `n` bytes and their padding; at the end of the buffer the
padding may be missing. -/
lemma padded_spec {α β : Type} {p : Reader α} {n : Nat} (hp : Reader.Reads p n) {f : α → β} {b : β}
    (h : (do let a ← p; consumePadding n; pure (f a)) buf = some (b, rest)) :
    paddedLength n ≤ buf.length ∧ rest = buf.drop (paddedLength n) ∧
        (∀ tail, (do let a ← p; consumePadding n; pure (f a)) (buf.take (paddedLength n) ++ tail)
          = some (b, tail)) ∨
      n ≤ buf.length ∧ buf.length < paddedLength n ∧ rest = buf.drop n := by
  obtain ⟨a, mid, hpa, hpad⟩ := Reader.bind_eq_some.mp h
  obtain ⟨hn, rfl, hlocal⟩ := hp buf a mid hpa
  have hrest : (f a, if n % 4 ≠ 0 ∧ 4 - n % 4 ≤ (buf.drop n).length
      then (buf.drop n).drop (4 - n % 4) else buf.drop n) = (b, rest) := some.inj hpad
  obtain ⟨rfl, rfl⟩ := Prod.mk.inj hrest
  rw [length_drop]
  by_cases hmod : n % 4 = 0
  · -- Nothing to pad.
    have hpadded : paddedLength n = n := by rw [paddedLength, if_neg (by omega)]
    rw [hpadded, if_neg fun hc => hc.1 hmod]
    refine .inl ⟨hn, rfl, fun tail => Reader.bind_eq_some.mpr ⟨a, tail, hlocal tail, ?_⟩⟩
    show some (f a, if n % 4 ≠ 0 ∧ 4 - n % 4 ≤ tail.length then tail.drop (4 - n % 4) else tail) = _
    rw [if_neg fun hc => hc.1 hmod]
  have hpadded : paddedLength n = n + (4 - n % 4) := by rw [paddedLength, if_pos hmod]
  by_cases hroom : 4 - n % 4 ≤ buf.length - n
  · rw [hpadded, if_pos ⟨hmod, hroom⟩]
    refine .inl ⟨by omega, drop_drop, fun tail => ?_⟩
    have hlen : ((buf.drop n).take (4 - n % 4)).length = 4 - n % 4 :=
      length_take_of_le (by rw [length_drop]; exact hroom)
    rw [take_add, append_assoc]
    refine Reader.bind_eq_some.mpr ⟨a, _, hlocal _, ?_⟩
    show some (f a, if n % 4 ≠ 0 ∧
      4 - n % 4 ≤ ((buf.drop n).take (4 - n % 4) ++ tail).length then _ else _) = _
    rw [if_pos ⟨hmod, by rw [length_append, hlen]; omega⟩, drop_left' hlen]
  · rw [hpadded, if_neg fun hc => hroom hc.2]
    exact .inr ⟨hn, by omega, rfl⟩

lemma readAddress_length {length : Nat} {a : IPAddress × BitVec 16}
    (h : readAddress length buf = some (a, rest)) : length = 8 ∨ length = 20 := by
  obtain ⟨_, _, _, h⟩ := Reader.bind_eq_some.mp h
  obtain ⟨_, _, _, h⟩ := Reader.bind_eq_some.mp h
  obtain ⟨_, _, _, h⟩ := Reader.bind_eq_some.mp h
  by_contra hne
  rw [not_or] at hne
  rw [if_pos hne.1, if_pos hne.2] at h
  split at h
  · cases h
  · split at h <;> cases h

lemma readAddress_reads : Reader.Reads (readAddress length) length := by
  have hport := uint 2
  have hbyte := uint 1
  intro buf a rest h
  rcases readAddress_length h with rfl | rfl
  · refine hbyte.bind (k := 7) (fun _ => hbyte.bind (k := 6) fun _ => hport.bind (k := 4) fun _ => ?_)
      buf a rest h
    refine .ite (fun _ => ?_) fun _ => .ite (fun _ => ?_) fun _ => .failure 4
    · exact .ite (fun h => absurd rfl h) fun _ => (bytes 4).map _
    · exact .ite (fun _ => .failure 4) fun h => absurd (by decide) h
  refine hbyte.bind (k := 19) (fun _ => hbyte.bind (k := 18) fun _ =>
    hport.bind (k := 16) fun _ => ?_) buf a rest h
  refine .ite (fun _ => ?_) fun _ => .ite (fun _ => ?_) fun _ => .failure 16
  · exact .ite (fun _ => .failure 16) fun h => absurd (by decide) h
  · exact .ite (fun h => absurd rfl h) fun _ => (bytes 16).map _

lemma readErrorCode_reads : Reader.Reads (readErrorCode length) length := by
  refine .ite (fun _ => .failure length) fun h => ?_
  have hsum : length = 4 + (length - 4) := by omega
  rw [hsum]
  refine (uint 4).bind fun _ => ?_
  rw [← hsum]
  exact (bytes (length - 4)).map _

lemma readUInt16List_reads : Reader.Reads (readUInt16List length) length := by
  refine .ite (fun _ => .failure length) fun h => ?_
  have hsum : length = length / 2 * 2 := by omega
  rw [hsum, Nat.mul_div_cancel _ (by decide)]
  exact ((uint 2).many (length / 2)).map _

variable {c : MessageClass} {tid data : List UInt8} {slots : List Slot}

/-- What `Read` takes of the bytes behind the header of an attribute. Only at the
end of the buffer may the padding be missing. -/
lemma readBody_spec {type : AttributeType} {length : BitVec 16} {attr : Option StunAttribute}
    (h : readBody c tid type length buf = some (attr, rest)) :
    bodySize c type length ≤ buf.length ∧ rest = buf.drop (bodySize c type length) ∧
        (∀ tail, readBody c tid type length (buf.take (bodySize c type length) ++ tail)
          = some (attr, tail)) ∨
      length.toNat ≤ buf.length ∧ buf.length < bodySize c type length ∧
        bodySize c type length = paddedLength length.toNat ∧ rest = buf.drop length.toNat := by
  unfold readBody bodySize at *
  cases hv : createAttribute c type with
  | unknown =>
    rw [hv] at h
    exact .inl (((bytes _).map _).map _ buf attr rest h)
  | address | xorAddress =>
    rw [hv] at h
    exact .inl ((readAddress_reads _).map _ buf attr rest h)
  | uint32 =>
    rw [hv] at h
    exact .inl ((uint 4).map _ buf attr rest h)
  | uint64 =>
    rw [hv] at h
    exact .inl ((uint 8).map _ buf attr rest h)
  | byteString =>
    rw [hv] at h
    exact (padded_spec (bytes _) h).imp_right fun ⟨hn, hlt, hrest⟩ =>
      ⟨hn, hlt, rfl, hrest⟩
  | errorCode =>
    rw [hv] at h
    exact (padded_spec (readErrorCode_reads _) h).imp_right fun ⟨hn, hlt, hrest⟩ =>
      ⟨hn, hlt, rfl, hrest⟩
  | uint16List =>
    rw [hv] at h
    exact (padded_spec (readUInt16List_reads _) h).imp_right fun ⟨hn, hlt, hrest⟩ =>
      ⟨hn, hlt, rfl, hrest⟩

/-! ## The slots that Read leaves -/

/-- The slots lie one behind the other over the bytes from `pos` to the end, and
each is what `Read` makes of the bytes there. -/
inductive Chain (c : MessageClass) (tid data : List UInt8) : Nat → List Slot → Prop where
  | nil : Chain c tid data data.length []
  | cons {pos : Nat} {s : Slot} {slots : List Slot} (start : s.start = pos)
      (room : pos + 4 ≤ s.stop) (inside : s.stop ≤ data.length)
      (type : s.type = getBE16 data pos) (length : s.length = getBE16 data (pos + 2))
      (body : readBody c tid s.type s.length (data.drop (pos + 4))
        = some (s.attr, data.drop s.stop))
      (rest : Chain c tid data s.stop slots) : Chain c tid data pos (s :: slots)

lemma readUInt16_spec {v : BitVec 16} (h : readUInt16 buf = some (v, rest)) :
    2 ≤ buf.length ∧ v = getBE16 buf 0 ∧ rest = buf.drop 2 := by
  obtain ⟨hlen, hrest, -⟩ := uint 2 buf v rest h
  refine ⟨hlen, ?_, hrest⟩
  obtain ⟨bs, mid, hbytes, hval⟩ := Reader.bind_eq_some.mp h
  rw [Reader.bytes, if_pos hlen] at hbytes
  cases hbytes
  exact (congrArg Prod.fst (some.inj hval)).symm

lemma getBE16_drop (pos k : Nat) :
    getBE16 (data.drop pos) k = getBE16 data (pos + k) := by
  rw [getBE16, getBE16, drop_drop]

lemma readAttributes_chain (fuel : Nat) :
    ∀ (pos : Nat) (slots : List Slot), pos ≤ data.length →
      readAttributes c tid data.length fuel (data.drop pos) = some slots →
      Chain c tid data pos slots := by
  induction fuel with
  | zero =>
    intro pos slots _ h
    cases h
  | succ fuel ih =>
    intro pos slots hpos h
    rw [readAttributes] at h
    by_cases hnil : data.drop pos = []
    · rw [if_pos hnil] at h
      cases h
      obtain rfl : pos = data.length := by
        have := drop_eq_nil_iff.mp hnil
        omega
      exact .nil
    rw [if_neg hnil] at h
    simp only [bind_eq_bind, bind_eq_some_iff, Prod.exists] at h
    obtain ⟨type, buf1, htype, length, buf2, hlength, attr, rest, hbody, slots', hslt, hs⟩ := h
    cases hs
    obtain ⟨hlen, rfl, rfl⟩ := readUInt16_spec htype
    obtain ⟨hlen', rfl, rfl⟩ := readUInt16_spec hlength
    rw [drop_drop, drop_drop] at hbody
    rw [drop_drop, length_drop] at hlen'
    -- What is left is an end of the data.
    obtain ⟨k, rfl, hk⟩ : ∃ k, rest = data.drop (pos + 4 + k) ∧ pos + 4 + k ≤ data.length := by
      rcases readBody_spec hbody with ⟨hk, hrest, -⟩ | ⟨hk, -, -, hrest⟩
      all_goals
        rw [length_drop] at hk
        exact ⟨_, hrest.trans drop_drop, by omega⟩
    have hstart : data.length - (data.drop pos).length = pos := by
      rw [length_drop]
      omega
    have hstop : data.length - (data.drop (pos + 4 + k)).length = pos + 4 + k := by
      rw [length_drop]
      omega
    rw [hstart, hstop]
    have hchn := ih _ _ hk hslt
    simp only [getBE16_drop, Nat.add_zero] at hbody ⊢
    exact .cons rfl (Nat.le_add_right ..) hk rfl rfl hbody hchn

lemma Chain.stop_cases {s : Slot} (h : Chain c tid data pos (s :: slots)) :
    s.stop = pos + 4 + bodySize c s.type s.length ∨
      s.stop = pos + 4 + s.length.toNat ∧ s.stop = data.length ∧ slots = [] ∧
        s.stop < pos + 4 + paddedLength s.length.toNat ∧
        bodySize c s.type s.length = paddedLength s.length.toNat := by
  cases h with
  | cons start room inside type length body rest =>
    have hend : ∀ k, data.drop s.stop = (data.drop (pos + 4)).drop k →
        pos + 4 + k ≤ data.length → s.stop = pos + 4 + k := by
      intro k hk hle
      have hlen := congrArg List.length hk
      simp only [length_drop] at hlen
      omega
    rcases readBody_spec body with ⟨hk, hrest, -⟩ | ⟨hk, hlt, hsize, hrest⟩
    · rw [length_drop] at hk
      exact .inl (hend _ hrest (by omega))
    rw [length_drop] at hk hlt
    have hstop := hend _ hrest (by omega)
    have hpad := paddedLength_lt s.length.toNat
    -- There is no room for the header of another attribute.
    obtain ⟨hlast, hnil⟩ : s.stop = data.length ∧ slots = [] := by
      generalize s.stop = stop at rest hstop
      cases rest with
      | nil => exact ⟨rfl, rfl⟩
      | cons _ room' inside' _ _ _ _ => omega
    exact .inr ⟨hstop, hlast, hnil, by omega, hsize⟩

def transactionIdOf (data : List UInt8) : List UInt8 :=
  let magicCookie := (data.drop 4).take 4
  let id := (data.drop 8).take kTransactionIdLength
  if magicCookie ≠ kMagicCookie then magicCookie ++ id else id

lemma bytes_spec {n : Nat} {bs : List UInt8} (h : Reader.bytes n buf = some (bs, rest)) :
    n ≤ buf.length ∧ bs = buf.take n ∧ rest = buf.drop n := by
  obtain ⟨hlen, hrest, -⟩ := bytes n buf bs rest h
  rw [Reader.bytes, if_pos hlen] at h
  exact ⟨hlen, (congrArg Prod.fst (some.inj h)).symm, hrest⟩

lemma read_chain {m : StunMessage} (h : read c data = some m) :
    Chain c m.transactionId data kHeaderSize m.slots ∧ m.buffer = data ∧
      m.transactionId = transactionIdOf data := by
  unfold read at h
  simp only [bind_eq_bind, bind_eq_some_iff, Prod.exists] at h
  obtain ⟨type, buf1, htype, h⟩ := h
  split at h
  · cases h
  simp only [bind_eq_some_iff, Prod.exists] at h
  obtain ⟨length, buf2, hlen, cookie, buf3, hcookie, id, buf4, hid, h⟩ := h
  split at h
  · cases h
  simp only [bind_eq_some_iff] at h
  obtain ⟨slots, hslt, hm⟩ := h
  cases hm
  obtain ⟨h1, rfl, rfl⟩ := readUInt16_spec htype
  obtain ⟨h2, rfl, rfl⟩ := readUInt16_spec hlen
  obtain ⟨h3, rfl, rfl⟩ := bytes_spec hcookie
  obtain ⟨h4, rfl, rfl⟩ := bytes_spec hid
  simp only [drop_drop, length_drop] at h4 hslt
  have hle : 20 ≤ data.length := by
    unfold kTransactionIdLength at h4
    omega
  refine ⟨?_, rfl, ?_⟩
  · simp only [drop_drop]
    exact readAttributes_chain _ 20 slots hle hslt
  simp only [drop_drop]
  rfl

/-! ## Declared lengths -/

structure Header where
  start : Nat
  type : AttributeType
  length : BitVec 16
deriving DecidableEq

def headerAt (data : List UInt8) (pos : Nat) : Header :=
  ⟨pos, getBE16 data pos, getBE16 data (pos + 2)⟩

def Slot.header (s : Slot) : Header := ⟨s.start, s.type, s.length⟩

def layout (data : List UInt8) : Nat → Nat → List Header
  | 0, _ => []
  | fuel + 1, pos =>
    if pos + 4 ≤ data.length then
      headerAt data pos :: layout data fuel (pos + 4 + paddedLength (headerAt data pos).length.toNat)
    else []

/-- The bytes from `pos` on are exactly tiled by attributes with these headers, of
four bytes and the padded declared length each. -/
def Tiles (data : List UInt8) : Nat → List Header → Prop
  | pos, [] => pos = data.length
  | pos, h :: hs =>
    h = headerAt data pos ∧ pos + 4 + paddedLength h.length.toNat ≤ data.length ∧
      Tiles data (pos + 4 + paddedLength h.length.toNat) hs

instance Tiles.decidable (data : List UInt8) : ∀ pos hs, Decidable (Tiles data pos hs)
  | pos, [] => inferInstanceAs (Decidable (pos = data.length))
  | _, _ :: hs =>
    @instDecidableAnd _ _ inferInstance
      (@instDecidableAnd _ _ inferInstance (Tiles.decidable data _ hs))

def upToType (t : AttributeType) : List Header → List Header
  | [] => []
  | h :: hs => if h.type = t then [h] else h :: upToType t hs

def regularLength : ValueType → Nat → Bool
  | .unknown, n => decide (n ≤ 65532)
  | .uint32, n => decide (paddedLength n = 4)
  | .uint64, n => decide (paddedLength n = 8)
  | _, _ => true

def Header.Regular (c : MessageClass) (h : Header) : Prop :=
  regularLength (createAttribute c h.type) h.length.toNat = true

instance (c : MessageClass) (h : Header) : Decidable (h.Regular c) :=
  inferInstanceAs (Decidable (_ = true))

lemma findIntegrity_visits (t : AttributeType) (size : Nat) (data : List UInt8) (fuel : Nat) :
    ∀ pos, (findIntegrity t size data fuel pos).1
      = (upToType t (layout data fuel pos)).map Header.start := by
  induction fuel with
  | zero =>
    intro pos
    rfl
  | succ fuel ih =>
    intro pos
    rw [findIntegrity, layout]
    by_cases hroom : pos + 4 ≤ data.length
    · rw [if_pos hroom, if_pos hroom, upToType]
      dsimp only
      by_cases htype : getBE16 data pos = t
      · rw [if_pos htype, if_pos (show (headerAt data pos).type = t from htype)]
        split <;> rfl
      rw [if_neg htype, if_neg (show ¬ (headerAt data pos).type = t from htype), ih]
      rfl
    · rw [if_neg hroom, if_neg hroom]
      rfl

lemma Tiles.layout_eq (hs : List Header) :
    ∀ {pos fuel : Nat}, Tiles data pos hs → data.length < pos + 4 * fuel → layout data fuel pos = hs := by
  induction hs with
  | nil =>
    intro pos fuel h hfuel
    obtain rfl : pos = data.length := h
    cases fuel with
    | zero => rfl
    | succ fuel => rw [layout, if_neg (by omega)]
  | cons hd hs ih =>
    rintro pos fuel ⟨rfl, hroom, hrest⟩ hfuel
    cases fuel with
    | zero => omega
    | succ fuel => rw [layout, if_pos (by omega), ih hrest (by omega)]

lemma Tiles.mod_four (hs : List Header) :
    ∀ {pos : Nat}, Tiles data pos hs → pos % 4 = 0 → data.length % 4 = 0 := by
  induction hs with
  | nil =>
    intro pos h hpos
    obtain rfl : pos = data.length := h
    exact hpos
  | cons hd hs ih =>
    rintro pos ⟨-, -, hrest⟩ hpos
    have hpad := paddedLength_mod hd.length.toNat
    exact ih hrest (by omega)

/-! ## Read and the declared lengths -/

lemma roundedLength_eq_iff (length : BitVec 16) :
    (roundedLength length).toNat = paddedLength length.toNat ↔ length.toNat ≤ 65532 := by
  have hmod : (length % 4).toNat = length.toNat % 4 := by simp
  have hzero : length % 4 ≠ 0 ↔ length.toNat % 4 ≠ 0 := by
    rw [Ne, ← BitVec.toNat_inj, hmod]
    rfl
  unfold roundedLength paddedLength
  by_cases h : length.toNat % 4 ≠ 0
  · rw [if_pos (hzero.mpr h), if_pos h, BitVec.toNat_add, BitVec.toNat_sub, hmod]
    have : (4 : BitVec 16).toNat = 4 := rfl
    omega
  · rw [if_neg fun hc => h (hzero.mp hc), if_neg h]
    omega

lemma regular_iff {h : Header}
    {attr : Option StunAttribute} (hbody : readBody c tid h.type h.length buf = some (attr, rest)) :
    h.Regular c ↔ bodySize c h.type h.length = paddedLength h.length.toNat := by
  have haddress : ∀ {a : IPAddress × BitVec 16} {buf rest : List UInt8},
      readAddress h.length.toNat buf = some (a, rest) →
      h.length.toNat = paddedLength h.length.toNat := by
    intro a buf rest hread
    rcases readAddress_length hread with hlen | hlen <;> rw [hlen] <;> rfl
  unfold Header.Regular bodySize
  unfold readBody at hbody
  cases hv : createAttribute c h.type with
  | unknown => exact decide_eq_true_iff.trans (roundedLength_eq_iff h.length).symm
  | uint32 | uint64 => exact decide_eq_true_iff.trans eq_comm
  | address | xorAddress =>
    rw [hv] at hbody
    obtain ⟨a, mid, hread, -⟩ := Reader.bind_eq_some.mp hbody
    exact iff_of_true rfl (haddress hread)
  | byteString | errorCode | uint16List => exact iff_of_true rfl rfl

lemma Chain.start_eq {pos' : Nat} (h : Chain c tid data pos slots)
    (htiles : Tiles data pos' (slots.map Slot.header)) : pos = pos' := by
  cases h with
  | nil => exact Eq.symm htiles
  | cons start _ _ _ _ _ _ => exact start.symm.trans (congrArg Header.start htiles.1)

lemma Chain.regular
    (h : Chain c tid data pos slots) (htiles : Tiles data pos (slots.map Slot.header)) :
    ∀ hd ∈ slots.map Slot.header, hd.Regular c := by
  induction h with
  | nil => exact fun hd hmem => absurd hmem not_mem_nil
  | @cons pos s slots start room inside type length body rest ih =>
    obtain ⟨-, hroom, htail⟩ := htiles
    have hpad : s.stop = pos + 4 + paddedLength s.length.toNat := rest.start_eq htail
    refine forall_mem_cons.mpr ⟨?_, ih (hpad ▸ htail)⟩
    refine (regular_iff (h := s.header) body).mpr ?_
    show bodySize c s.type s.length = paddedLength s.length.toNat
    rcases (Chain.cons start room inside type length body rest).stop_cases with hstop | hcut
    · omega
    · exact hcut.2.2.2.2

lemma Chain.tiles (h : Chain c tid data pos slots) (hdata : data.length % 4 = 0) :
    ∀ fuel, pos % 4 = 0 → data.length < pos + 4 * fuel →
      (∀ hd ∈ layout data fuel pos, hd.Regular c) → Tiles data pos (slots.map Slot.header) := by
  induction h with
  | nil =>
    intro _ _ _ _
    rfl
  | @cons pos s slots start room inside type length body rest ih =>
    intro fuel hpos hfuel hreg
    have hhead : s.header = headerAt data pos := by
      rw [Slot.header, headerAt, start, type, length]
    cases fuel with
    | zero => omega
    | succ fuel =>
      rw [layout, if_pos (by omega), forall_mem_cons, ← hhead] at hreg
      have hsize : bodySize c s.type s.length = paddedLength s.length.toNat :=
        (regular_iff (h := s.header) body).mp hreg.1
      have hpad := paddedLength_mod s.length.toNat
      have hlt := paddedLength_lt s.length.toNat
      have hstop : s.stop = pos + 4 + paddedLength s.length.toNat := by
        rcases (Chain.cons start room inside type length body rest).stop_cases with hstop | hcut
        · rw [hstop, hsize]
        -- The message would end between two multiples of four.
        omega
      refine ⟨hhead, ?_, ?_⟩
      · show pos + 4 + paddedLength s.length.toNat ≤ data.length
        omega
      show Tiles data (pos + 4 + paddedLength s.length.toNat) (slots.map Slot.header)
      rw [← hstop]
      refine ih fuel (by omega) (by omega) ?_
      rw [hstop]
      exact hreg.2

/-- The message is tiled by attributes of four bytes and the padded declared length,
these are the attributes that `Read` has passed, and they are the ones that the
check of the integrity goes by, whichever attribute it looks for. -/
def FollowsLengths (data : List UInt8) (m : StunMessage) : Prop :=
  Tiles data kHeaderSize (m.slots.map Slot.header) ∧
    ∀ miType miSize, (findIntegrity miType miSize data data.length kHeaderSize).1
      = (upToType miType (m.slots.map Slot.header)).map Header.start

/-- A message that `Read` accepts follows its declared lengths exactly when it is a
multiple of four bytes long and, by the declared lengths, no attribute of fixed
size has another size and none that is skipped has a length that the rounding
wraps. -/
theorem read_follows_lengths_iff {c : MessageClass} {data : List UInt8} {m : StunMessage}
    (h : read c data = some m) :
    FollowsLengths data m ↔
      data.length % 4 = 0 ∧ ∀ hd ∈ layout data data.length kHeaderSize, hd.Regular c := by
  obtain ⟨hchn, -⟩ := read_chain h
  have hfuel : data.length < kHeaderSize + 4 * data.length := by
    unfold kHeaderSize
    omega
  constructor
  · rintro ⟨htiles, -⟩
    rw [htiles.layout_eq _ hfuel]
    exact ⟨htiles.mod_four _ rfl, hchn.regular htiles⟩
  rintro ⟨hmod, hreg⟩
  have htiles := hchn.tiles hmod data.length rfl hfuel hreg
  refine ⟨htiles, fun miType miSize => ?_⟩
  rw [findIntegrity_visits, htiles.layout_eq _ hfuel]

def sampleMessage (body : List UInt8) : List UInt8 :=
  [0x00, 0x01, 0x00, UInt8.ofNat body.length] ++ kMagicCookie ++ replicate 12 7 ++ body

/-- USERNAME with one byte and its padding, and FINGERPRINT. -/
theorem username_fingerprint_follows_lengths :
    ∃ m, read .stun (sampleMessage [0x00, 0x06, 0x00, 0x01, 0x61, 0, 0, 0,
        0x80, 0x28, 0x00, 0x04, 1, 2, 3, 4]) = some m ∧ m.slots.length = 2 ∧
      FollowsLengths (sampleMessage [0x00, 0x06, 0x00, 0x01, 0x61, 0, 0, 0,
        0x80, 0x28, 0x00, 0x04, 1, 2, 3, 4]) m := by
  exact ⟨_, rfl, by decide +kernel, (read_follows_lengths_iff (c := .stun) rfl).mpr (by decide +kernel)⟩

/-- Three messages that are accepted although their declared lengths do not add up:
an unknown attribute of 65535 bytes without any, a FINGERPRINT of eight bytes
whose last four are taken for an empty USERNAME, and a USERNAME whose padding is
missing. -/
theorem declared_lengths_ignored :
    (∃ m, read .stun (sampleMessage [0x00, 0x02, 0xFF, 0xFF]) = some m ∧
      ¬ FollowsLengths (sampleMessage [0x00, 0x02, 0xFF, 0xFF]) m) ∧
    (∃ m, read .stun (sampleMessage [0x80, 0x28, 0x00, 0x08, 1, 2, 3, 4, 0x00, 0x06, 0x00, 0x00])
        = some m ∧ (m.getAttribute 0x0006).isSome = true ∧
      ¬ FollowsLengths
        (sampleMessage [0x80, 0x28, 0x00, 0x08, 1, 2, 3, 4, 0x00, 0x06, 0x00, 0x00]) m) ∧
    (∃ m, read .stun (sampleMessage [0x00, 0x06, 0x00, 0x01, 0x61]) = some m ∧
      ¬ FollowsLengths (sampleMessage [0x00, 0x06, 0x00, 0x01, 0x61]) m) := by
  refine ⟨⟨_, rfl, fun h => ?_⟩, ⟨_, rfl, by decide +kernel, fun h => ?_⟩, ⟨_, rfl, fun h => ?_⟩⟩
  · exact absurd h.1 (by decide +kernel)
  · exact absurd h.1 (by decide +kernel)
  · exact absurd h.1 (by decide +kernel)

end WebRtc.Stun
