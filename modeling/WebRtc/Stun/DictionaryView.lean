import WebRtc.Lib.Run
import WebRtc.Lib.Table
import WebRtc.Stun.Message

/-!
# WebRTC — the view of a STUN dictionary

`StunDictionaryView` in `stun_dictionary.cc`: a peer sends deltas, and the view limits what it stores
for the peer. `ApplyDelta` predicts the new size in one loop and applies the attributes in another.
The two agree for a delta that names each key once and has a version above zero, which is what
`operator[]` enters for a new key (`Ok`).
-/

namespace WebRtc.Stun

open Lib StunAttribute Table List AList Reader

/-! ## Parsing -/

inductive RTCErrorType where
  | invalidParameter | resourceExhausted
deriving DecidableEq

structure RTCError where
  type : RTCErrorType
  message : String := ""
deriving DecidableEq

namespace DictionaryView

def kVersionKey : AttributeType := 0xFFFF
def kDeltaMagic : BitVec 16 := 0x7788
def kDeltaVersion : BitVec 16 := 1
def attrGoogDeltaAck : AttributeType := 0xC05D

def getStunAttributeValueType (valueType : BitVec 16) : ValueType :=
  match valueType.toNat with
  | 1 => .address
  | 2 => .xorAddress
  | 3 => .uint32
  | 4 => .uint64
  | 5 => .byteString
  | 6 => .errorCode
  | 7 => .uint16List
  | _ => .unknown

def createdLength (length : BitVec 16) : ValueType → BitVec 16
  | .uint32 => 4
  | .uint64 => 8
  | _ => length

/-- `Read` of an attribute without an owner: `GetXoredIP` then returns no address. -/
def readWithoutOwner (type : AttributeType) (length : BitVec 16) (v : ValueType) :
    Reader StunAttribute := do
  match ← readAttribute [] type length.toNat v with
  | some ⟨type, _, .xorAddress _ port⟩ =>
    pure ⟨type, IPAddress.unspecified.attributeLength, .xorAddress .unspecified port⟩
  | some attr => pure attr
  | none => failure

/-- A reader that says what it failed to do. -/
abbrev Parser (α : Type) := StateT (List UInt8) (Except RTCError) α

def fail {α : Type} (message : String) : Parser α := fun _ => .error ⟨.invalidParameter, message⟩

def orFail {α : Type} (p : Reader α) (message : String) : Parser α := fun buf =>
  match p buf with
  | some result => .ok result
  | none => fail message buf

def parseAttribute : Parser StunAttribute := do
  let key ← orFail readUInt16 "Failed to read attribute key"
  let length ← orFail readUInt16 "Failed to read attribute length"
  let valueType ← orFail readUInt16 "Failed to read value type"
  let valueType := getStunAttributeValueType valueType
  if valueType = .unknown then fail "Failed to create attribute"
  else if createdLength length valueType ≠ length then fail "Inconsistent attribute length"
  else orFail (readWithoutOwner key length valueType) "Failed to read attribute content"

/-- The loop of `ParseDelta`. A round takes at least the six bytes of a header, so that there are fewer
rounds than bytes. -/
def parseAttributes : Nat → Parser (List StunAttribute)
  | 0 => pure []
  | fuel + 1 => do
    if (← get).isEmpty then pure []
    else do
      let attr ← parseAttribute
      let attrs ← parseAttributes fuel
      pure (attr :: attrs)

def takeVersion : List StunAttribute → Parser (BitVec 64 × List StunAttribute)
  | [] => fail "Empty delta!"
  | ⟨type, _, .uint64 version⟩ :: attrs =>
    if type ≠ kVersionKey then fail "Missing version!" else pure (version, attrs)
  | _ => fail "Missing version!"

def deltaParser (size : Nat) : Parser (BitVec 64 × List StunAttribute) := do
  let magic ← orFail readUInt16 "Failed to read magic number"
  if magic ≠ kDeltaMagic then fail "Invalid magic number"
  else do
    let version ← orFail readUInt16 "Failed to read version"
    if version ≠ kDeltaVersion then fail "Unsupported delta version"
    else parseAttributes size >>= takeVersion

def parseDelta (delta : List UInt8) : Except RTCError (BitVec 64 × List StunAttribute) :=
  (deltaParser delta.length delta).map Prod.fst

end DictionaryView

/-! ## The view -/

structure StunDictionaryView where
  attrs : Table AttributeType StunAttribute := ∅
  versionPerKey : Table AttributeType (BitVec 64) := ∅
  maxBytesStored : Int := 16384
  maxBytesStored_lt : maxBytesStored < 2 ^ 31 := by decide
  bytesStored : Int := 0

namespace StunDictionaryView

open DictionaryView

variable (view : StunDictionaryView)

def getLength (key : AttributeType) : Nat :=
  (view.attrs.lookup key).elim 0 length

def fresh (version : BitVec 64) (key : AttributeType) : Bool :=
  (view.versionPerKey.lookup key).all (· < version)

/-- The first loop of `ApplyDelta`; `none` where it returns an error. The sum of `size_t` values is
narrowed to an `int`. -/
def newBytesStored (view : StunDictionaryView) (version : BitVec 64) :
    List StunAttribute → Int → Option Int
  | [], n => some n
  | attr :: attrs, n =>
    if view.fresh version attr.type then
      let newLength := attr.length + if attr.type ∈ view.versionPerKey then 0 else 8
      let n := Int.bmod (n + newLength - view.getLength attr.type) (2 ^ 32)
      if n ≤ 0 then none else view.newBytesStored version attrs n
    else view.newBytesStored version attrs n

/-- The attribute enters the view, with the version of its delta; an empty byte string erases the key. -/
def update (version : BitVec 64) (attr : StunAttribute) :
    StunDictionaryView :=
  { view with
    versionPerKey := view.versionPerKey.insert attr.type version
    attrs := match attr.value, attr.length with
      | .byteString _, 0 => view.attrs.erase attr.type
      | _, _ => view.attrs.insert attr.type attr }

def applyAttribute (version : BitVec 64) (state : StunDictionaryView × List AttributeType)
    (attr : StunAttribute) : StunDictionaryView × List AttributeType :=
  let old := (state.1.versionPerKey.lookup attr.type).getD 0
  -- `operator[]` enters the key
  let view := { state.1 with versionPerKey := state.1.versionPerKey.emplace attr.type 0 }
  if old < version then (view.update version attr, state.2 ++ [attr.type]) else (view, state.2)

def applyDelta (delta : List UInt8) :
    Except RTCError (StunAttribute × List AttributeType) × StunDictionaryView :=
  match parseDelta delta with
  | .error e => (.error e, view)
  | .ok (version, attrs) =>
    match view.newBytesStored version attrs view.bytesStored with
    | none => (.error ⟨.invalidParameter, ""⟩, view)
    | some n =>
      if view.maxBytesStored < n then (.error ⟨.resourceExhausted, ""⟩, view)
      else
        let applied := attrs.foldl (applyAttribute version) (view, [])
        (.ok (⟨attrGoogDeltaAck, 8, .uint64 version⟩, applied.2), { applied.1 with bytesStored := n })

def contents : Nat :=
  8 * view.versionPerKey.size + view.attrs.total length

structure Accounted (view : StunDictionaryView) : Prop where
  stored : view.bytesStored = view.contents
  bound : view.bytesStored ≤ view.maxBytesStored

end StunDictionaryView

namespace DictionaryView

open StunDictionaryView

/-! ## Lengths of parsed attributes -/

variable {buf rest delta : List UInt8}

lemma bind_eq_ok {α β : Type} {p : Parser α} {f : α → Parser β}
    {b : β × List UInt8} (h : (p >>= f) buf = .ok b) :
    ∃ a mid, p buf = .ok (a, mid) ∧ f a mid = .ok b := by
  have hbind : (p >>= f) buf = (p buf).bind fun x => f x.1 x.2 := rfl
  rw [hbind] at h
  cases hp : p buf with
  | error e => rw [hp] at h; cases h
  | ok a => exact ⟨a.1, a.2, rfl, by rw [hp] at h; exact h⟩

lemma orFail_eq_ok {α : Type} {p : Reader α} {message : String}
    {a : α × List UInt8} (h : orFail p message buf = .ok a) : p buf = some a := by
  unfold orFail at h
  split at h
  · rename_i hp
    rw [hp, Except.ok.inj h]
  · cases h

lemma attributeLength_lt (ip : IPAddress) : ip.attributeLength < 2 ^ 16 := by
  cases ip <;> exact Nat.lt_of_sub_eq_succ rfl

lemma readAttribute_length {tid : List UInt8} {type : AttributeType} {length : Nat}
    {v : ValueType} {attr : StunAttribute} (hlen : length < 2 ^ 16)
    (h : readAttribute tid type length v buf = some (some attr, rest)) : attr.length < 2 ^ 16 := by
  cases v with
  | unknown => cases h
  | address | xorAddress =>
    obtain ⟨x, mid, -, hx⟩ := bind_eq_some.mp h
    cases hx
    exact attributeLength_lt _
  | uint32 | uint64 =>
    obtain ⟨x, mid, -, hx⟩ := bind_eq_some.mp h
    cases hx
    exact Nat.lt_of_sub_eq_succ rfl
  | byteString | errorCode | uint16List =>
    obtain ⟨x, mid, -, hx⟩ := bind_eq_some.mp h
    cases hx
    exact hlen

lemma parseAttribute_length {attr : StunAttribute}
    (h : parseAttribute buf = .ok (attr, rest)) : attr.length < 2 ^ 16 := by
  obtain ⟨key, buf, -, h⟩ := bind_eq_ok h
  obtain ⟨length, buf, -, h⟩ := bind_eq_ok h
  obtain ⟨valueType, buf, -, h⟩ := bind_eq_ok h
  dsimp only at h
  split at h
  · cases h
  split at h
  · cases h
  obtain ⟨a, mid, ha, hattr⟩ := bind_eq_some.mp (orFail_eq_ok h)
  split at hattr
  · cases hattr
    exact attributeLength_lt .unspecified
  · cases hattr
    exact readAttribute_length length.isLt ha
  · cases hattr

variable {attrs : List StunAttribute}

lemma parseAttributes_length (fuel : Nat)
    (h : parseAttributes fuel buf = .ok (attrs, rest)) : ∀ a ∈ attrs, a.length < 2 ^ 16 := by
  induction fuel generalizing buf attrs with
  | zero =>
    cases h
    exact fun a ha => absurd ha not_mem_nil
  | succ fuel ih =>
    obtain ⟨buf', mid, hget, h⟩ := bind_eq_ok h
    split at h
    · cases h
      exact fun a ha => absurd ha not_mem_nil
    obtain ⟨attr, mid, hattr, h⟩ := bind_eq_ok h
    obtain ⟨others, last, hoth, h⟩ := bind_eq_ok h
    cases h
    exact forall_mem_cons.mpr ⟨parseAttribute_length hattr, ih hoth⟩

lemma parseDelta_length {version : BitVec 64}
    (h : parseDelta delta = .ok (version, attrs)) : ∀ a ∈ attrs, a.length < 2 ^ 16 := by
  unfold parseDelta at h
  cases hprs : deltaParser delta.length delta with
  | error e => rw [hprs] at h; cases h
  | ok result =>
    rw [hprs] at h
    obtain ⟨magic, buf, -, hprs⟩ := bind_eq_ok hprs
    split at hprs
    · cases hprs
    obtain ⟨format, buf, -, hprs⟩ := bind_eq_ok hprs
    split at hprs
    · cases hprs
    obtain ⟨all, rest, hall, hprs⟩ := bind_eq_ok hprs
    have hlen := parseAttributes_length _ hall
    unfold takeVersion at hprs
    split at hprs
    · cases hprs
    · split at hprs
      · cases hprs
      cases hprs
      cases h
      exact fun a ha => hlen a (mem_cons_of_mem _ ha)
    · cases hprs

/-! ## The two loops -/

def Ok (_ : StunDictionaryView) (delta : List UInt8) : Prop :=
  ∀ parsed ∈ (parseDelta delta).toOption, 0 < parsed.1 ∧ (parsed.2.map type).Nodup

def step (view : StunDictionaryView) (delta : List UInt8) : StunDictionaryView := (view.applyDelta delta).2

variable {view : StunDictionaryView} {version : BitVec 64} {attr : StunAttribute} {key : AttributeType}

lemma applyAttribute_view (hversion : 0 < version) (keys : List AttributeType) :
    (applyAttribute version (view, keys) attr).1 =
      if view.fresh version attr.type then view.update version attr else view := by
  unfold applyAttribute fresh
  cases hold : view.versionPerKey.lookup attr.type with
  | none =>
    rw [Option.getD_none, if_pos hversion, Option.all_none, if_pos rfl]
    simp only [update, insert_emplace]
  | some old =>
    have hmem : attr.type ∈ view.versionPerKey := lookup_isSome.mp (by rw [hold]; rfl)
    simp only [emplace, if_pos hmem, Option.getD_some, Option.all_some, decide_eq_true_eq]
    split <;> rfl

lemma contents_update (view : StunDictionaryView) (version : BitVec 64) (attr : StunAttribute) :
    (view.update version attr).contents + view.getLength attr.type =
      view.contents + attr.length + if attr.type ∈ view.versionPerKey then 0 else 8 := by
  have hversions : size (view.versionPerKey.insert attr.type version) =
      view.versionPerKey.size + if attr.type ∈ view.versionPerKey then 0 else 1 := by
    have htot := total_insert view.versionPerKey (fun _ => 1) attr.type version
    rw [← size_eq_total, ← size_eq_total] at htot
    split
    · rename_i hmem
      obtain ⟨old, hold⟩ := Option.isSome_iff_exists.mp (lookup_isSome.mpr hmem)
      rw [hold] at htot
      exact Nat.succ.inj htot
    · rename_i hmem
      rwa [lookup_eq_none.mpr hmem] at htot
  have hattrs : (view.update version attr).attrs.total length + view.getLength attr.type =
      view.attrs.total length + attr.length := by
    unfold update
    split
    · rename_i hlen
      rw [hlen]
      exact total_erase ..
    · exact total_insert ..
  show 8 * size (view.versionPerKey.insert attr.type version) +
    (view.update version attr).attrs.total length + view.getLength attr.type = _
  rw [hversions, contents]
  split <;> omega

def SameAt (view view' : StunDictionaryView) (key : AttributeType) : Prop :=
  view.versionPerKey.lookup key = view'.versionPerKey.lookup key ∧
    view.attrs.lookup key = view'.attrs.lookup key

lemma sameAt_update (hne : key ≠ attr.type) : SameAt (view.update version attr) view key := by
  refine ⟨lookup_insert_ne hne, ?_⟩
  unfold update
  split
  · exact lookup_erase_ne hne
  · exact lookup_insert_ne hne

lemma bmod_eq_self {x : Int} (h0 : 0 ≤ x) (hx : x < 2 ^ 32) (hpos : 0 < x.bmod (2 ^ 32)) :
    x.bmod (2 ^ 32) = x := by
  simp only [Int.bmod] at hpos ⊢
  split at hpos
  · rw [if_pos ‹_›]
    omega
  · omega

/-- The first loop predicts what the second one stores, from any view that has the entries of the
original one for the keys to come. -/
lemma newBytesStored_spec (hversion : 0 < version) (keys : List AttributeType) {cur : StunDictionaryView} {n m : Int}
    (hnd : (attrs.map type).Nodup) (hlen : ∀ a ∈ attrs, a.length < 2 ^ 16)
    (hsame : ∀ a ∈ attrs, SameAt cur view a.type) (hn : n = cur.contents) (hlt : n < 2 ^ 31)
    (h : view.newBytesStored version attrs n = some m) :
    m = (attrs.foldl (applyAttribute version) (cur, keys)).1.contents := by
  induction attrs generalizing cur keys n with
  | nil =>
    cases h
    exact hn
  | cons attr attrs ih =>
    obtain ⟨hattr, hnd⟩ := nodup_cons.mp hnd
    obtain ⟨hattrLength, hlen⟩ := forall_mem_cons.mp hlen
    obtain ⟨⟨hversions, hlookup⟩, hsame⟩ := forall_mem_cons.mp hsame
    have hne : ∀ a ∈ attrs, a.type ≠ attr.type :=
      fun a ha heq => hattr (heq ▸ mem_map_of_mem ha)
    have hfresh : cur.fresh version attr.type = view.fresh version attr.type := by
      rw [fresh, fresh, hversions]
    rw [foldl_cons, ← Prod.mk.eta (p := applyAttribute version (cur, keys) attr),
      applyAttribute_view hversion, hfresh]
    rw [newBytesStored] at h
    have hup := contents_update cur version attr
    have hmem : attr.type ∈ cur.versionPerKey ↔ attr.type ∈ view.versionPerKey := by
      rw [← lookup_isSome, ← lookup_isSome, hversions]
    have hold : cur.getLength attr.type = view.getLength attr.type := by
      rw [getLength, getLength, hlookup]
    rw [if_congr hmem rfl rfl, hold] at hup
    have hnew : (if attr.type ∈ view.versionPerKey then 0 else 8) ≤ 8 := by split <;> decide
    generalize (if attr.type ∈ view.versionPerKey then 0 else 8) = new at h hup hnew
    dsimp only at h
    split at h
    · rename_i hview
      rw [if_pos hview]
      split at h
      · cases h
      rename_i hpos
      have heq := bmod_eq_self (by omega) (by omega) (not_le.mp hpos)
      refine ih _ hnd hlen ?_ ?_ (Int.bmod_lt (by decide)) h
      · intro a ha
        obtain ⟨hv, hl⟩ := sameAt_update (hne a ha)
        exact ⟨hv.trans (hsame a ha).1, hl.trans (hsame a ha).2⟩
      · omega
    · rename_i hview
      rw [if_neg hview]
      exact ih _ hnd hlen hsame hn hlt h

/-! ## Runs -/

lemma maxBytesStored_foldl (attrs : List StunAttribute)
    (state : StunDictionaryView × List AttributeType) :
    (attrs.foldl (applyAttribute version) state).1.maxBytesStored = state.1.maxBytesStored := by
  induction attrs generalizing state with
  | nil => rfl
  | cons attr attrs ih =>
    rw [foldl_cons, ih, applyAttribute]
    split <;> rfl

lemma accounted_step (h : view.Accounted) (hok : Ok view delta) :
    (step view delta).Accounted := by
  unfold step applyDelta
  split
  · exact h
  rename_i version attrs hprs
  obtain ⟨hversion, hnd⟩ := hok (version, attrs) (by rw [hprs]; rfl)
  split
  · exact h
  rename_i n hn
  split
  · exact h
  rename_i hmax
  have hlt : view.bytesStored < 2 ^ 31 := h.bound.trans_lt view.maxBytesStored_lt
  have hstored := newBytesStored_spec hversion [] hnd (parseDelta_length hprs)
    (fun _ _ => ⟨rfl, rfl⟩) h.stored hlt hn
  exact ⟨hstored, (not_lt.mp hmax).trans_eq (maxBytesStored_foldl attrs (view, [])).symm⟩

lemma applyDelta_error (view : StunDictionaryView) {e : RTCError}
    (h : (view.applyDelta delta).1 = .error e) : step view delta = view := by
  unfold applyDelta at h
  unfold step applyDelta
  split at h
  · rfl
  split at h
  · rfl
  split at h
  · rw [if_pos ‹_›]
  · cases h

def withLimit (max : Int) (hlt : max < 2 ^ 31) : StunDictionaryView :=
  { maxBytesStored := max, maxBytesStored_lt := hlt }

/-- Deltas of positive version that name each key once keep the account right and within the limit; a
delta that is refused changes nothing. -/
theorem accounted_along {max : Int} (h0 : 0 ≤ max) (hlt : max < 2 ^ 31) {deltas : List (List UInt8)}
    (hok : Along step Ok (withLimit max hlt) deltas) :
    (run step (withLimit max hlt) deltas).Accounted ∧
      ∀ delta e, ((run step (withLimit max hlt) deltas).applyDelta delta).1 = .error e →
        step (run step (withLimit max hlt) deltas) delta = run step (withLimit max hlt) deltas :=
  ⟨run_induction_along (fun _ _ hs hok => accounted_step hs hok) deltas _ ⟨rfl, h0⟩ hok,
    fun _ _ => applyDelta_error _⟩

def byteStrings (version : UInt8) (attrs : List (UInt8 × List UInt8)) : List UInt8 :=
  [0x77, 0x88, 0, 1, 0xFF, 0xFF, 0, 8, 0, 4, 0, 0, 0, 0, 0, 0, 0, version] ++
    attrs.flatMap fun a => [0, a.1, 0, .ofNat a.2.length, 0, 5] ++ a.2

/-- The second delta replaces one of the two keys. -/
theorem accounted_of_two_deltas :
    (run step (withLimit 16384 (by decide)) [byteStrings 1 [(1, [2, 3, 4, 5]), (2, [6])],
      byteStrings 2 [(1, [7, 8])]]).Accounted := by
  have hok : Along step Ok (withLimit 16384 (by decide)) [byteStrings 1 [(1, [2, 3, 4, 5]), (2, [6])],
      byteStrings 2 [(1, [7, 8])]] :=
    ⟨by unfold Ok; decide +kernel, by unfold Ok; decide +kernel, trivial⟩
  exact (accounted_along (by decide) (by decide) hok).1

/-- A key that is named twice gives its old bytes back twice, and the view goes beyond its limit. A delta
of version zero is counted and not stored. -/
theorem exceeds_limit_of_repeated_key :
    30 < (run step (withLimit 30 (by decide)) [byteStrings 1 [(1, .replicate 20 0)],
      byteStrings 2 [(1, .replicate 12 0), (1, .replicate 12 0)],
      byteStrings 3 [(2, .replicate 8 0)]]).contents ∧
    ¬ (run step (withLimit 30 (by decide)) [byteStrings 0 [(1, [2, 3, 4, 5])]]).Accounted :=
  ⟨by decide +kernel, fun h => absurd h.stored (by decide +kernel)⟩

end DictionaryView

end WebRtc.Stun
