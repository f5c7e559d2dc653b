import WebRtc.Stun.AttributeLayout

/-!
# WebRTC — what the integrity of a STUN message covers

The HMAC covers the bytes before the attribute that is checked. `Read` keeps attributes wherever they
stand, so one behind the checked attribute is returned by the accessors when there is none of its
type before. `NothingNewBehind` excludes exactly that; messages that agree up to the checked
attribute then give the same view (`Chain.takeWhile_agree`).
-/

namespace WebRtc.Stun

open Lib List Option Slot

/-! ## Chains of messages of whole words -/

section Chains

variable {c : MessageClass} {tid data : List UInt8} {pos : Nat} {s : Slot} {slots : List Slot}

lemma roundedLength_mod (length : BitVec 16) : (roundedLength length).toNat % 4 = 0 := by
  have hmod : (length % 4).toNat = length.toNat % 4 := by simp
  unfold roundedLength
  split
  · rw [BitVec.toNat_add, BitVec.toNat_sub, hmod]
    have : (4 : BitVec 16).toNat = 4 := rfl
    omega
  next h =>
  rw [not_not] at h
  rw [← hmod, h]
  rfl

variable {attr : Option StunAttribute}

variable {type : AttributeType} {rest buf : List UInt8} {length : BitVec 16}

lemma bodySize_mod (h : readBody c tid type length buf = some (attr, rest)) :
    bodySize c type length % 4 = 0 := by
  by_cases hreg : Header.Regular c ⟨0, type, length⟩
  · rw [(regular_iff (h := ⟨0, type, length⟩) h).mp hreg]
    exact paddedLength_mod _
  -- Only these sizes are not the padded length.
  · unfold Header.Regular at hreg
    unfold bodySize
    cases hv : createAttribute c type with
    | unknown => exact roundedLength_mod length
    | uint32 => exact (by decide : 4 % 4 = 0)
    | uint64 => exact (by decide : 8 % 4 = 0)
    | _ => exact absurd (by rw [hv]; rfl) hreg

lemma Chain.stop_eq (h : Chain c tid data pos (s :: slots)) (hdata : data.length % 4 = 0)
    (hpos : pos % 4 = 0) :
    s.stop = pos + 4 + bodySize c s.type s.length ∧ s.stop % 4 = 0 := by
  have hstop := h.stop_cases
  cases h with
  | cons _ _ _ _ _ body _ =>
    have hmod := bodySize_mod body
    have hpad := paddedLength_lt s.length.toNat
    omega

lemma Chain.behind (h : Chain c tid data pos slots) :
    ∀ s ∈ slots, pos ≤ s.start ∧ s.start + 4 ≤ s.stop := by
  induction h with
  | nil => exact fun s hs => absurd hs not_mem_nil
  | cons start room _ _ _ _ _ ih =>
    intro s hs
    rcases mem_cons.mp hs with rfl | hs
    · omega
    have := ih s hs
    omega

lemma Chain.slot_spec (h : Chain c tid data pos slots) (hdata : data.length % 4 = 0) :
    pos % 4 = 0 → ∀ s ∈ slots, s.type = getBE16 data s.start ∧
      s.length = getBE16 data (s.start + 2) ∧
      s.stop = s.start + 4 + bodySize c s.type s.length := by
  induction h with
  | nil => exact fun _ s hs => absurd hs not_mem_nil
  | @cons pos s slots start room inside type length body rest ih =>
    intro hpos s' hs'
    obtain ⟨hstop, hmod⟩ := (Chain.cons start room inside type length body rest).stop_eq hdata hpos
    rcases mem_cons.mp hs' with rfl | hs'
    · subst start
      exact ⟨type, length, hstop⟩
    · exact ih hmod s' hs'

lemma Chain.pairwise (h : Chain c tid data pos slots) :
    slots.Pairwise fun a b => a.stop ≤ b.start := by
  induction h with
  | nil => exact .nil
  | cons _ _ _ _ _ _ rest ih => exact .cons (fun b hb => (rest.behind b hb).1) ih

lemma readAttribute_type {length : Nat} {v : ValueType}
    (h : readAttribute tid type length v buf = some (attr, rest)) :
    ∃ a, attr = some a ∧ a.type = type := by
  cases v with
  | unknown => cases h
  | address | xorAddress | uint32 | uint64 | byteString | errorCode | uint16List =>
    obtain ⟨x, mid, -, hx⟩ := Reader.bind_eq_some.mp h
    cases hx
    exact ⟨_, rfl, rfl⟩

lemma readBody_attr (h : readBody c tid type length buf = some (attr, rest)) :
    if createAttribute c type = .unknown then attr = none else ∃ a, attr = some a ∧ a.type = type := by
  unfold readBody at h
  generalize createAttribute c type = v at h ⊢
  by_cases hv : v = .unknown
  · subst hv
    obtain ⟨x, mid, -, hx⟩ := Reader.bind_eq_some.mp h
    cases hx
    rfl
  rw [if_neg hv]
  have hread : readAttribute tid type length.toNat v buf = some (attr, rest) := by
    cases v with
    | unknown => exact absurd rfl hv
    | _ => exact h
  exact readAttribute_type hread

end Chains

/-! ## Messages that agree on their first bytes -/

section Agreement

variable {c : MessageClass} {tid data data' : List UInt8} {pos n : Nat} {s : Slot}
  {slots slots' : List Slot}

def SameBytes (pos n : Nat) (data data' : List UInt8) : Prop :=
  (data.drop pos).take (n - pos) = (data'.drop pos).take (n - pos)

lemma SameBytes.sub {pos' n' : Nat} (h : SameBytes pos n data data') (hpos : pos ≤ pos')
    (hn : n' ≤ n) : SameBytes pos' n' data data' := by
  have hcut := congrArg (fun l => (l.drop (pos' - pos)).take (n' - pos')) h
  simp only [drop_take, drop_drop, take_take] at hcut
  rwa [show pos + (pos' - pos) = pos' by omega,
    show min (n' - pos') (n - pos - (pos' - pos)) = n' - pos' by omega] at hcut

lemma SameBytes.getBE16 (h : SameBytes pos n data data') {k : Nat} (hk : pos ≤ k)
    (hn : k + 2 ≤ n) : getBE16 data k = getBE16 data' k := by
  have hsub := h.sub hk hn
  unfold SameBytes at hsub
  rw [Nat.add_sub_cancel_left] at hsub
  rw [Stun.getBE16, Stun.getBE16, hsub]

lemma Chain.head_agree (h : Chain c tid data pos (s :: slots)) (h' : Chain c tid data' pos slots')
    (hsame : SameBytes pos n data data') (hdata : data.length % 4 = 0) (hpos : pos % 4 = 0)
    (hs : s.stop ≤ n) (hn : n ≤ data'.length) : ∃ rest, slots' = s :: rest := by
  have hstop := (h.stop_eq hdata hpos).1
  cases h with
  | cons start room inside type length body rest =>
    cases h' with
    | nil => omega
    | @cons _ s' slots' start' room' inside' type' length' body' rest' =>
      have htype : s'.type = s.type := by
        rw [type, type', hsame.getBE16 (Nat.le_refl _) (by omega)]
      have hlength : s'.length = s.length := by
        rw [length, length', hsame.getBE16 (by omega) (by omega)]
      rw [htype, hlength] at body'
      -- The bytes of the body are the same, and the reader looks at no others.
      have hlocal : readBody c tid s.type s.length (data'.drop (pos + 4))
          = some (s.attr, data'.drop s.stop) := by
        have hsplit : data'.drop (pos + 4) = (data.drop (pos + 4)).take (bodySize c s.type s.length)
            ++ data'.drop s.stop := by
          have hbody : SameBytes (pos + 4) s.stop data data' := hsame.sub (by omega) hs
          have hrest : data'.drop s.stop
              = (data'.drop (pos + 4)).drop (bodySize c s.type s.length) := by
            rw [drop_drop, hstop]
          unfold SameBytes at hbody
          rw [show s.stop - (pos + 4) = bodySize c s.type s.length by omega] at hbody
          rw [hbody, hrest, take_append_drop]
        rw [hsplit]
        rcases readBody_spec body with ⟨-, -, hlocal⟩ | ⟨-, hlt, -⟩
        · exact hlocal _
        rw [length_drop] at hlt
        omega
      rw [hlocal] at body'
      have hpair := Prod.mk.inj (some.inj body')
      have hend : s.stop = s'.stop := by
        have hlen := congrArg List.length hpair.2
        simp only [length_drop] at hlen
        omega
      refine ⟨slots', ?_⟩
      have hslot : s' = s := by
        cases s
        cases s'
        simp only [mk.injEq] at *
        exact ⟨start'.trans start.symm, hend.symm, htype, hlength, hpair.1.symm⟩
      rw [hslot]

lemma Chain.takeWhile_agree (h : Chain c tid data pos slots) :
    ∀ {slots'}, Chain c tid data' pos slots' → SameBytes pos n data data' →
      data.length % 4 = 0 → data'.length % 4 = 0 → pos % 4 = 0 →
      n ≤ data.length → n ≤ data'.length →
      slots.takeWhile (fun s => decide (s.stop ≤ n)) = slots'.takeWhile fun s => decide (s.stop ≤ n) := by
  induction h with
  | nil =>
    intro slots' h' _ _ _ _ hn _
    cases slots' with
    | nil => rfl
    | cons s' rest' =>
      have hbehind := h'.behind s' mem_cons_self
      rw [takeWhile_cons_of_neg (by simp; omega)]
      rfl
  | @cons pos s slots start room inside type length body rest ih =>
    intro slots' h' hsame hdata hdata' hpos hn hn'
    have h := Chain.cons start room inside type length body rest
    by_cases hs : s.stop ≤ n
    · obtain ⟨rest', rfl⟩ := h.head_agree h' hsame hdata hpos hs hn'
      have hmod := (h.stop_eq hdata hpos).2
      rw [takeWhile_cons_of_pos (by simpa using hs), takeWhile_cons_of_pos (by simpa using hs)]
      cases h' with
      | cons _ _ _ _ _ _ htail =>
        rw [ih htail (hsame.sub (by omega) (Nat.le_refl _)) hdata hdata' hmod hn hn']
    rw [takeWhile_cons_of_neg (by simpa using hs)]
    cases slots' with
    | nil => rfl
    | cons s' rest' =>
      by_cases hs' : s'.stop ≤ n
      · obtain ⟨_, heq⟩ := h'.head_agree h hsame.symm hdata' hpos hs' hn
        rw [(cons.inj heq).1] at hs
        exact absurd hs' hs
      · rw [takeWhile_cons_of_neg (by simpa using hs')]

end Agreement

/-! ## What the accessors return -/

def Slot.holds (t : AttributeType) (s : Slot) : Bool := s.attr.any fun a => decide (a.type = t)

def StunMessage.slotOf (m : StunMessage) (t : AttributeType) : Option Slot :=
  m.slots.find? (holds t)

lemma getAttribute_eq (m : StunMessage) (t : AttributeType) :
    m.getAttribute t = (m.slotOf t).bind attr := by
  unfold StunMessage.getAttribute StunMessage.slotOf
  induction m.slots with
  | nil => rfl
  | cons s slots ih =>
    rw [find?_cons]
    cases hattr : s.attr with
    | none =>
      rw [filterMap_cons_none hattr, ih]
      simp [holds, hattr]
    | some a =>
      rw [filterMap_cons_some hattr, find?_cons]
      by_cases ht : a.type = t
      · simp [holds, hattr, ht]
      simp only [holds, hattr, any_some, ht, decide_false]
      exact ih

def Slot.CoveredBy (p : Nat) (s : Slot) : Prop := s.stop ≤ p ∨ s.start = p

/-- Every attribute other than FINGERPRINT that the accessors return was read from
before the attribute at `p`, or is that attribute. -/
def OnlyCovered (m : StunMessage) (p : Nat) : Prop :=
  ∀ t, t ≠ attrFingerprint → ∀ a, m.getAttribute t = some a →
    ∃ s, m.slotOf t = some s ∧ s.attr = some a ∧ s.CoveredBy p

def StunMessage.checkedPosition (m : StunMessage) : Option Nat :=
  m.integrityAttribute.bind fun mi =>
    (findIntegrity mi.1 mi.2 m.buffer m.buffer.length kHeaderSize).2

/-- The extent of an attribute, by what `Read` takes for attributes of its type. -/
structure Extent where
  start : Nat
  stop : Nat
  type : AttributeType
deriving DecidableEq

def Extent.CoveredBy (p : Nat) (x : Extent) : Prop := x.stop ≤ p ∨ x.start = p

instance (p : Nat) (x : Extent) : Decidable (x.CoveredBy p) :=
  inferInstanceAs (Decidable (_ ∨ _))

def extents (c : MessageClass) (data : List UInt8) : Nat → Nat → List Extent
  | 0, _ => []
  | fuel + 1, pos =>
    if pos + 4 ≤ data.length then
      let stop := pos + 4 + bodySize c (getBE16 data pos) (getBE16 data (pos + 2))
      ⟨pos, stop, getBE16 data pos⟩ :: extents c data fuel stop
    else []

/-- Attributes of a known type other than FINGERPRINT that do not lie before the
attribute at `p` repeat the type of one that does. -/
def NothingNewBehind (c : MessageClass) (data : List UInt8) (p : Nat) : Prop :=
  ∀ x ∈ extents c data data.length kHeaderSize, createAttribute c x.type ≠ .unknown →
    x.type ≠ attrFingerprint → x.CoveredBy p ∨
      ∃ y ∈ extents c data data.length kHeaderSize, y.type = x.type ∧ y.CoveredBy p

instance (c : MessageClass) (data : List UInt8) (p : Nat) : Decidable (NothingNewBehind c data p) :=
  inferInstanceAs (Decidable (∀ x ∈ _, _))

def Slot.extent (s : Slot) : Extent := ⟨s.start, s.stop, s.type⟩

variable {p : Nat}

section View

variable {c : MessageClass} {tid data : List UInt8} {pos : Nat} {slots : List Slot}

lemma Chain.extents_eq (h : Chain c tid data pos slots) (hdata : data.length % 4 = 0) :
    ∀ fuel, pos % 4 = 0 → data.length < pos + 4 * fuel →
      extents c data fuel pos = slots.map extent := by
  induction h with
  | nil =>
    intro fuel _ _
    cases fuel with
    | zero => rfl
    | succ fuel => rw [extents, if_neg (by omega)]; rfl
  | @cons pos s slots start room inside type length body rest ih =>
    intro fuel hpos hfuel
    obtain ⟨hstop, hmod⟩ := (Chain.cons start room inside type length body rest).stop_eq hdata hpos
    cases fuel with
    | zero => omega
    | succ fuel =>
      rw [extents, if_pos (by omega)]
      dsimp only
      rw [← type, ← length, ← hstop, ih fuel hmod (by omega), map_cons, extent, start]

lemma Chain.holds_iff (h : Chain c tid data pos slots) (t : AttributeType) :
    ∀ s ∈ slots, s.holds t = true ↔ s.type = t ∧ createAttribute c s.type ≠ .unknown := by
  induction h with
  | nil => exact fun s hs => absurd hs not_mem_nil
  | @cons pos s slots start room inside type length body rest ih =>
    intro s' hs'
    rcases mem_cons.mp hs' with rfl | hs'
    · have hattr := readBody_attr body
      by_cases hv : createAttribute c s'.type = .unknown
      · rw [if_pos hv] at hattr
        simp [holds, hattr, hv]
      rw [if_neg hv] at hattr
      obtain ⟨a, ha, hat⟩ := hattr
      simp [holds, ha, hat, hv]
    · exact ih s' hs'

lemma onlyCovered_iff {m : StunMessage}
    (h : Chain c tid data kHeaderSize m.slots) (hdata : data.length % 4 = 0) :
    OnlyCovered m p ↔ NothingNewBehind c data p := by
  have hextents : extents c data data.length kHeaderSize = m.slots.map extent :=
    h.extents_eq hdata _ rfl (by unfold kHeaderSize; omega)
  unfold NothingNewBehind
  rw [hextents]
  constructor
  · intro hcovered x hx hkn hfp
    obtain ⟨s, hs, rfl⟩ := mem_map.mp hx
    have hholds := (h.holds_iff s.type s hs).mpr ⟨rfl, hkn⟩
    obtain ⟨s', hfind⟩ : ∃ s', m.slotOf s.type = some s' := by
      have := find?_isSome.mpr ⟨s, hs, hholds⟩
      exact isSome_iff_exists.mp this
    have hs' := mem_of_find?_eq_some hfind
    have hholds' := find?_some hfind
    obtain ⟨a, ha⟩ : ∃ a, s'.attr = some a := by
      cases hattr : s'.attr with
      | none => simp [holds, hattr] at hholds'
      | some a => exact ⟨a, rfl⟩
    obtain ⟨s'', hfind', -, hcov⟩ := hcovered s.type hfp a (by
      rw [getAttribute_eq, hfind, bind_some, ha])
    obtain rfl : s' = s'' := some.inj (hfind.symm.trans hfind')
    exact .inr ⟨s'.extent, mem_map_of_mem hs', ((h.holds_iff s.type s' hs').mp hholds').1, hcov⟩
  · intro hnew t ht a ha
    rw [getAttribute_eq, bind_eq_some_iff] at ha
    obtain ⟨s, hfind, hattr⟩ := ha
    refine ⟨s, hfind, hattr, ?_⟩
    have hs := mem_of_find?_eq_some hfind
    obtain ⟨rfl, hkn⟩ := (h.holds_iff t s hs).mp (find?_some hfind)
    rcases hnew s.extent (mem_map_of_mem hs) hkn ht with hcov | ⟨y, hy, htype, hcov⟩
    · exact hcov
    -- The slot found is the first of its type, so it is not behind the covered one.
    obtain ⟨s', hs', rfl⟩ := mem_map.mp hy
    have htype' : s'.type = s.type := htype
    have hholds' := (h.holds_iff s.type s' hs').mpr ⟨htype', by rw [htype']; exact hkn⟩
    obtain ⟨-, before, after, hsplit, hnot⟩ := find?_eq_some_iff_append.mp hfind
    have hpairs := h.pairwise
    have hbehind := h.behind s' hs'
    rw [hsplit] at hs' hpairs
    rcases mem_append.mp hs' with hin | hin
    · have := hnot s' hin
      simp [hholds'] at this
    rcases mem_cons.mp hin with rfl | hin
    · exact hcov
    have hle := (pairwise_cons.mp (pairwise_append.mp hpairs).2.1).1 s' hin
    have hcov' : s'.stop ≤ p ∨ s'.start = p := hcov
    exact .inl (by omega)

lemma find?_takeWhile {q : Slot → Bool} {n : Nat} (slots : List Slot) :
    slots.Pairwise (fun a b => a.stop ≤ b.start) → (∀ s ∈ slots, s.start ≤ s.stop) →
      (∀ s, slots.find? q = some s → s.stop ≤ n) →
      slots.find? q = (slots.takeWhile fun s => decide (s.stop ≤ n)).find? q := by
  induction slots with
  | nil => exact fun _ _ _ => rfl
  | cons s slots ih =>
    intro hpairs hsane hfound
    rw [pairwise_cons] at hpairs
    rw [forall_mem_cons] at hsane
    by_cases hq : q s = true
    · rw [find?_cons_of_pos hq] at hfound ⊢
      rw [takeWhile_cons_of_pos (by simpa using hfound s rfl), find?_cons_of_pos hq]
    rw [find?_cons_of_neg hq] at hfound ⊢
    by_cases hs : s.stop ≤ n
    · rw [takeWhile_cons_of_pos (by simpa using hs), find?_cons_of_neg hq]
      exact ih hpairs.2 hsane.2 hfound
    rw [takeWhile_cons_of_neg (by simpa using hs), find?_nil]
    cases hfind : slots.find? q with
    | none => rfl
    | some s' =>
      have hmem := mem_of_find?_eq_some hfind
      have := hpairs.1 s' hmem
      have := hsane.2 s' hmem
      have := hfound s' hfind
      omega

end View

/-! ## The attribute that is checked -/

variable {c : MessageClass} {data : List UInt8}

lemma findIntegrity_found {miType : AttributeType} {miSize : Nat}
    (fuel : Nat) : ∀ {pos : Nat}, (findIntegrity miType miSize data fuel pos).2 = some p →
      pos ≤ p ∧ getBE16 data p = miType ∧ (getBE16 data (p + 2)).toNat = miSize ∧
        p + 4 + miSize ≤ data.length := by
  induction fuel with
  | zero =>
    intro pos h
    cases h
  | succ fuel ih =>
    intro pos h
    rw [findIntegrity] at h
    by_cases hroom : pos + 4 ≤ data.length
    · rw [if_pos hroom] at h
      by_cases htype : getBE16 data pos = miType
      · rw [if_pos htype] at h
        split at h
        · cases h
        next hsane =>
        rw [not_or, not_not] at hsane
        cases h
        exact ⟨Nat.le_refl _, htype, hsane.1, by omega⟩
      · rw [if_neg htype] at h
        obtain ⟨hle, hrest⟩ := ih h
        exact ⟨by omega, hrest⟩
    · rw [if_neg hroom] at h
      cases h

structure Checked (c : MessageClass) (data : List UInt8) (m : StunMessage) (p size : Nat) : Prop where
  chain : Chain c m.transactionId data kHeaderSize m.slots
  words : data.length % 4 = 0
  position : m.checkedPosition = some p
  behind : kHeaderSize ≤ p
  inside : p + 4 + size ≤ data.length
  kind : createAttribute c (getBE16 data p) = .byteString
  declared : (getBE16 data (p + 2)).toNat = size
  whole : size % 4 = 0

variable {m : StunMessage}

lemma checked_of_integrityOk {hmac : Hmac} {password : List UInt8} (h : read c data = some m)
    (hok : m.validateMessageIntegrity hmac password = .integrityOk) :
    ∃ p size, Checked c data m p size := by
  obtain ⟨hchn, hbuffer, -⟩ := read_chain h
  unfold StunMessage.validateMessageIntegrity at hok
  cases hmi : m.integrityAttribute with
  | none =>
    rw [hmi] at hok
    cases hok
  | some mi =>
    obtain ⟨miType, miSize⟩ := mi
    rw [hmi] at hok
    dsimp only at hok
    have hvalid : validateMessageIntegrityOfType hmac miType miSize data password = true := by
      by_contra hbad
      rw [hbuffer, if_neg hbad] at hok
      cases hok
    unfold validateMessageIntegrityOfType at hvalid
    split at hvalid
    · cases hvalid
    next hwords =>
    split at hvalid
    · cases hvalid
    split at hvalid
    · cases hvalid
    next p hfound =>
    obtain ⟨hle, htype, hlen, hinside⟩ := findIntegrity_found _ hfound
    have hpos : m.checkedPosition = some p := by
      rw [StunMessage.checkedPosition, hmi, bind_some, hbuffer]
      exact hfound
    -- Only two types are checked, and both are byte strings in every class.
    have hkind : createAttribute c miType = .byteString ∧ miSize % 4 = 0 := by
      unfold StunMessage.integrityAttribute at hmi
      split at hmi
      · cases hmi
        cases c <;> exact ⟨by decide, by decide⟩
      split at hmi
      · cases hmi
        cases c <;> exact ⟨by decide, by decide⟩
      · cases hmi
    exact ⟨p, miSize, hchn, by omega, hpos, hle, hinside, htype ▸ hkind.1, hlen, hkind.2⟩

lemma Checked.stop_le {size : Nat}
    (h : Checked c data m p size) {s : Slot} (hs : s ∈ m.slots) (hcov : s.CoveredBy p) :
    s.stop ≤ p + 4 + size := by
  rcases hcov with hcov | rfl
  · omega
  obtain ⟨htype, hlen, hstop⟩ := h.chain.slot_spec h.words rfl s hs
  have hsize : bodySize c s.type s.length = size := by
    rw [bodySize, htype, h.kind]
    show paddedLength s.length.toNat = size
    rw [hlen, h.declared, paddedLength, if_neg (not_not.mpr h.whole)]
  omega

def AgreeUpTo (n : Nat) (data data' : List UInt8) : Prop :=
  data.take 2 = data'.take 2 ∧ SameBytes 4 n data data'

lemma transactionId_agree {data' : List UInt8} {m' : StunMessage}
    (h : read c data = some m) (h' : read c data' = some m') {n : Nat} (hn : 20 ≤ n)
    (hsame : SameBytes 4 n data data') : m.transactionId = m'.transactionId := by
  have hcookie : SameBytes 4 8 data data' := hsame.sub (Nat.le_refl _) (by omega)
  have hid : SameBytes 8 20 data data' := hsame.sub (by omega) hn
  rw [(read_chain h).2.2, (read_chain h').2.2, transactionIdOf, transactionIdOf]
  dsimp only [kTransactionIdLength]
  rw [hcookie, hid]

lemma OnlyCovered.getAttribute_eq_takeWhile {size : Nat} (h : Checked c data m p size) (hcov : OnlyCovered m p)
    {t : AttributeType} (ht : t ≠ attrFingerprint) :
    m.getAttribute t = ((m.slots.takeWhile fun s => decide (s.stop ≤ p + 4 + size)).find?
      (holds t)).bind attr := by
  rw [getAttribute_eq]
  congr 1
  refine find?_takeWhile m.slots h.chain.pairwise (fun s hs => ?_) fun s hfind => ?_
  · have := h.chain.behind s hs
    omega
  have hholds := find?_some hfind
  obtain ⟨a, ha⟩ : ∃ a, s.attr = some a := by
    cases hattr : s.attr with
    | none => simp [holds, hattr] at hholds
    | some a => exact ⟨a, rfl⟩
  obtain ⟨s', hfind', -, hcovered⟩ := hcov t ht a (by
    rw [getAttribute_eq, StunMessage.slotOf, hfind, bind_some, ha])
  obtain rfl : s = s' := some.inj (hfind.symm.trans hfind')
  exact h.stop_le (mem_of_find?_eq_some hfind) hcovered

/-- Of a message that was read and has passed the check, the accessors return only
what the check covers, FINGERPRINT apart, exactly when no attribute behind the
checked one is of a new type; and two such messages that agree up to and including
the checked attribute give the same view. -/
theorem covered_view_iff (hmac : Hmac) {c : MessageClass} {data password : List UInt8}
    {m : StunMessage} (h : read c data = some m)
    (hok : m.validateMessageIntegrity hmac password = .integrityOk) :
    ∃ p size, m.checkedPosition = some p ∧ (getBE16 data (p + 2)).toNat = size ∧
      (OnlyCovered m p ↔ NothingNewBehind c data p) ∧
      ∀ data' m', read c data' = some m' →
        m'.validateMessageIntegrity hmac password = .integrityOk → m'.checkedPosition = some p →
        AgreeUpTo (p + 4 + size) data data' → NothingNewBehind c data p →
        NothingNewBehind c data' p →
        ∀ t, t ≠ attrFingerprint → m.getAttribute t = m'.getAttribute t := by
  obtain ⟨p, size, hchk⟩ := checked_of_integrityOk h hok
  refine ⟨p, size, hchk.position, hchk.declared, onlyCovered_iff hchk.chain hchk.words, ?_⟩
  intro data' m' h' hok' hpos hagree hnew hnew' t ht
  obtain ⟨p', size', hchk'⟩ := checked_of_integrityOk h' hok'
  obtain rfl : p = p' := some.inj (hpos.symm.trans hchk'.position)
  have hbehind : 20 ≤ p := hchk.behind
  obtain rfl : size = size' := by
    rw [← hchk.declared, ← hchk'.declared, hagree.2.getBE16 (by omega) (by omega)]
  have htid := transactionId_agree h h' (by omega) hagree.2
  have hchn' := hchk'.chain
  rw [← htid] at hchn'
  have hcovered := (onlyCovered_iff hchk.chain hchk.words).mpr hnew
  have hcov' := (onlyCovered_iff hchk'.chain hchk'.words).mpr hnew'
  rw [hcovered.getAttribute_eq_takeWhile hchk ht, hcov'.getAttribute_eq_takeWhile hchk' ht,
    hchk.chain.takeWhile_agree hchn' (hagree.2.sub (by unfold kHeaderSize; omega) (Nat.le_refl _))
      hchk.words hchk'.words rfl hchk.inside hchk'.inside]

def zeroHmac : Hmac := fun _ _ => replicate 20 0

/-- USERNAME, MESSAGE-INTEGRITY and FINGERPRINT: nothing new is behind the check. -/
theorem username_is_covered :
    ∃ m, read .stun (sampleMessage ([0x00, 0x06, 0x00, 0x01, 0x61, 0, 0, 0, 0x00, 0x08, 0x00, 0x14]
        ++ replicate 20 0 ++ [0x80, 0x28, 0x00, 0x04, 1, 2, 3, 4])) = some m ∧
      m.checkedPosition = some 28 ∧ OnlyCovered m 28 := by
  obtain ⟨m, hm⟩ : ∃ m, read .stun (sampleMessage ([0x00, 0x06, 0x00, 0x01, 0x61, 0, 0, 0,
      0x00, 0x08, 0x00, 0x14] ++ replicate 20 0 ++ [0x80, 0x28, 0x00, 0x04, 1, 2, 3, 4]))
      = some m := isSome_iff_exists.mp (by decide +kernel)
  have hfacts : (read .stun (sampleMessage ([0x00, 0x06, 0x00, 0x01, 0x61, 0, 0, 0,
      0x00, 0x08, 0x00, 0x14] ++ replicate 20 0 ++ [0x80, 0x28, 0x00, 0x04, 1, 2, 3, 4]))).map
      (fun m => (m.validateMessageIntegrity zeroHmac [], m.checkedPosition))
      = some (.integrityOk, some 28) := by decide +kernel
  rw [hm] at hfacts
  obtain ⟨hok, hpos⟩ := Prod.mk.inj (some.inj hfacts)
  obtain ⟨p, size, hp, -, hiff, -⟩ := covered_view_iff zeroHmac hm hok
  obtain rfl : p = 28 := some.inj (hp.symm.trans hpos)
  exact ⟨m, hm, hpos, hiff.mpr (by decide +kernel)⟩

/-- A USERNAME appended behind MESSAGE-INTEGRITY is returned by the accessors, although
the HMAC is of the same bytes as without it. -/
theorem appended_username_exposed :
    ∃ m m', read .stun (sampleMessage ([0x00, 0x08, 0x00, 0x14] ++ replicate 20 0)) = some m ∧
      read .stun (sampleMessage ([0x00, 0x08, 0x00, 0x14] ++ replicate 20 0
        ++ [0x00, 0x06, 0x00, 0x01, 0x61, 0, 0, 0])) = some m' ∧
      m.validateMessageIntegrity zeroHmac [] = .integrityOk ∧
      m'.validateMessageIntegrity zeroHmac [] = .integrityOk ∧
      m.checkedPosition = some 20 ∧ m'.checkedPosition = some 20 ∧
      integrityInput 20 m.buffer 20 = integrityInput 20 m'.buffer 20 ∧
      m.getAttribute 0x0006 = none ∧
      m'.getAttribute 0x0006 = some ⟨0x0006, 1, .byteString [0x61]⟩ ∧
      (∃ s, m'.slotOf 0x0006 = some s ∧ ¬ s.CoveredBy 20) := by
  refine ⟨_, _, rfl, rfl, by decide +kernel, by decide +kernel, by decide +kernel,
    by decide +kernel, by decide +kernel, by decide +kernel, by decide +kernel, _, rfl, ?_⟩
  unfold CoveredBy
  decide +kernel

end WebRtc.Stun
