import WebRtc.Lib.Run
import WebRtc.Lib.Table
import WebRtc.Numerics.SeqNum
import WebRtc.Stun.Message

/-!
# WebRTC — the writer of a STUN dictionary

`StunDictionaryWriter` in `stun_dictionary.cc`: changes are pending until the peer has acknowledged
them, and a key that is deleted leaves a tombstone until then. `ApplyDeltaAck` reads the entries that
`remove_if` leaves behind the ones it keeps; these are the last of the vector, not the acknowledged
ones. `Ok` says when the deletions among them are the same.
-/

namespace WebRtc.Stun

open Lib List AList

/-! ## The model -/

/-- An attribute on the heap; `address` tells it from others with the same contents. -/
structure Allocated where
  address : Nat
  attr : StunAttribute
deriving DecidableEq

def Allocated.type (a : Allocated) : AttributeType := a.attr.type

structure StunDictionaryWriter where
  disabled : Bool := false
  version : Nat := 1
  dictionary : Option (Table AttributeType Allocated) := some ∅
  pending : List (Nat × Allocated) := []
  tombstones : Table AttributeType Allocated := ∅

namespace StunDictionaryWriter

variable (w : StunDictionaryWriter)

/-- `Delete`. The maps narrow the key to 16 bits, the comparison with `type()` does not. -/
def delete (key : Int) : StunDictionaryWriter :=
  if w.disabled then w
  else if w.dictionary.any fun attrs => BitVec.ofInt 16 key ∉ attrs then w
  else
    let tombstone := ⟨w.version + 1, BitVec.ofInt 16 key, 0, .byteString []⟩
    { w with
      version := w.version + 1
      pending := (w.pending.filter fun p => (p.2.type.toNat : Int) ≠ key) ++ [(w.version + 1, tombstone)]
      tombstones := w.tombstones.insert (BitVec.ofInt 16 key) tombstone
      dictionary := w.dictionary.map fun attrs => attrs.erase (BitVec.ofInt 16 key) }

def set (attr : StunAttribute) : StunDictionaryWriter :=
  if w.disabled then w
  else
    { w with
      version := w.version + 1
      pending := (w.pending.filter fun p => p.2.type ≠ attr.type) ++
        [(w.version + 1, ⟨w.version + 1, attr⟩)]
      tombstones := w.tombstones.erase attr.type
      dictionary := w.dictionary.map fun attrs => attrs.insert attr.type ⟨w.version + 1, attr⟩ }

/-- `CreateDelta`, before it is serialized: the version and the attributes. -/
def createDelta : Option (Nat × List StunAttribute) :=
  if w.disabled then none
  else w.pending.getLast?.map fun last => (last.1, w.pending.map fun p => p.2.attr)

/-- The entries behind those that `remove_if` keeps: it moves entries to the front and leaves these
as they were. -/
def removed (acked : Nat) : List (Nat × Allocated) :=
  w.pending.drop (w.pending.countP fun p => acked < p.1)

def applyDeltaAck (acked : Nat) : StunDictionaryWriter :=
  { w with
    pending := w.pending.filter fun p => acked < p.1
    tombstones := (w.removed acked).foldl (fun t p => t.erase p.2.type) w.tombstones }

def stored (key : AttributeType) : Option Allocated :=
  w.dictionary.bind fun attrs => attrs.lookup key

end StunDictionaryWriter

/-! ## Runs -/

namespace DictionaryWriter

structure Change where
  version : Nat
  key : AttributeType
  deletion : Bool

structure Traced where
  writer : StunDictionaryWriter
  changes : List Change := []

inductive Event where
  | set (attr : StunAttribute)
  | delete (key : Int)
  | createDelta
  | applyDeltaAck (acked : Nat)

namespace Traced

def changed (s : Traced) (w : StunDictionaryWriter) (key : AttributeType) (deletion : Bool) : Traced :=
  ⟨w, if w.version = s.writer.version then s.changes else ⟨w.version, key, deletion⟩ :: s.changes⟩

def step (s : Traced) : Event → Traced
  | .set attr => s.changed (s.writer.set attr) attr.type false
  | .delete key => s.changed (s.writer.delete key) (BitVec.ofInt 16 key) true
  | .createDelta => s
  | .applyDeltaAck acked => { s with writer := s.writer.applyDeltaAck acked }

def start (attrs : Table AttributeType Allocated) : Traced := ⟨{ dictionary := some attrs }, []⟩

def lastChange (s : Traced) (key : AttributeType) : Option Change := s.changes.find? fun c => c.key = key

def Deletes (s : Traced) (p : Nat × Allocated) : Prop :=
  ∃ c, s.lastChange p.2.type = some c ∧ c.version = p.1 ∧ c.deletion = true

structure Keeps (s : Traced) : Prop where
  held : ∀ p ∈ s.writer.pending, s.writer.stored p.2.type = some p.2 ∨
    s.writer.tombstones.lookup p.2.type = some p.2
  single : (s.writer.pending.map fun p => p.2.type).Nodup
  latest : ∀ p ∈ s.writer.pending, ∃ c, s.lastChange p.2.type = some c ∧ c.version = p.1
  tombstones : ∀ key, key ∈ s.writer.tombstones ↔ ∃ p ∈ s.writer.pending, p.2.type = key ∧ s.Deletes p

structure Inv (s : Traced) : Prop extends s.Keeps where
  enabled : s.writer.disabled = false
  dictionary : s.writer.dictionary.isSome

/-- Keys have 16 bits, and the deletions that an ack is for are those that `remove_if` leaves at the
end. -/
def Ok (s : Traced) : Event → Prop
  | .delete key => ((BitVec.ofInt 16 key).toNat : Int) = key
  | .applyDeltaAck acked => ∀ p ∈ s.writer.pending, p.2.type ∈ s.writer.tombstones →
      (p.1 ≤ acked ↔ p ∈ s.writer.removed acked)
  | _ => True

instance (s : Traced) : ∀ e, Decidable (s.Ok e)
  | .set _ => isTrue trivial
  | .delete key => inferInstanceAs (Decidable (((BitVec.ofInt 16 key).toNat : Int) = key))
  | .createDelta => isTrue trivial
  | .applyDeltaAck acked => inferInstanceAs (Decidable (∀ p ∈ s.writer.pending,
      p.2.type ∈ s.writer.tombstones → (p.1 ≤ acked ↔ p ∈ s.writer.removed acked)))

variable {s : Traced}

/-! ## Changes -/

lemma lastChange_cons_ne {w : StunDictionaryWriter} {c : Change} {key : AttributeType}
    (h : key ≠ c.key) : lastChange ⟨w, c :: s.changes⟩ key = s.lastChange key :=
  find?_cons_of_neg (by simpa using h.symm)

lemma Inv.change (h : s.Inv) {w : StunDictionaryWriter} {c : Change} {a : Allocated}
    (henabled : w.disabled = false) (hdictionary : w.dictionary.isSome) (ha : a.type = c.key)
    (hpend : w.pending = (s.writer.pending.filter fun p => p.2.type ≠ c.key) ++ [(c.version, a)])
    (hoth : ∀ key ≠ c.key, w.tombstones.lookup key = s.writer.tombstones.lookup key ∧
      w.stored key = s.writer.stored key)
    (htomb : w.tombstones.lookup c.key = if c.deletion then some a else none)
    (hstored : c.deletion = false → w.stored c.key = some a) : Inv ⟨w, c :: s.changes⟩ := by
  have hself : lastChange ⟨w, c :: s.changes⟩ a.type = some c :=
    find?_cons_of_pos (decide_eq_true ha.symm)
  have hmem : ∀ p, p ∈ w.pending ↔ (p ∈ s.writer.pending ∧ p.2.type ≠ c.key) ∨ p = (c.version, a) := by
    intro p
    rw [hpend, mem_append, mem_filter, mem_singleton, decide_eq_true_iff]
  refine ⟨⟨fun p hp => ?_, ?_, fun p hp => ?_, fun key => ?_⟩, henabled, hdictionary⟩
  · rcases (hmem p).mp hp with ⟨hp, hne⟩ | rfl
    · rw [(hoth _ hne).1, (hoth _ hne).2]
      exact h.held p hp
    show w.stored a.type = some a ∨ w.tombstones.lookup a.type = some a
    rw [ha, htomb]
    split
    · exact .inr rfl
    · next hset => exact .inl (hstored (Bool.eq_false_iff.mpr hset))
  · show (w.pending.map fun p => p.2.type).Nodup
    rw [hpend, map_append, map_singleton, ha, nodup_append_comm, singleton_append, nodup_cons]
    refine ⟨fun hc => ?_, h.single.sublist (filter_sublist.map _)⟩
    obtain ⟨p, hp, hkey⟩ := mem_map.mp hc
    exact of_decide_eq_true (mem_filter.mp hp).2 hkey
  · rcases (hmem p).mp hp with ⟨hp, hne⟩ | rfl
    · exact (lastChange_cons_ne hne).symm ▸ h.latest p hp
    · exact ⟨c, hself, rfl⟩
  rw [← lookup_isSome]
  by_cases hne : key = c.key
  · rw [hne, htomb]
    constructor
    · intro hsome
      refine ⟨(c.version, a), (hmem _).mpr (.inr rfl), ha, c, hself, rfl, ?_⟩
      by_contra hset
      rw [if_neg hset] at hsome
      cases hsome
    rintro ⟨p, hp, hkey, c', hc', -, hdeletion⟩
    rcases (hmem p).mp hp with ⟨-, hne⟩ | rfl
    · exact absurd hkey hne
    rw [if_pos (Option.some.inj (hself.symm.trans hc') ▸ hdeletion)]
    rfl
  · rw [(hoth key hne).1, lookup_isSome, h.tombstones]
    refine exists_congr fun p => ?_
    constructor
    · rintro ⟨hp, rfl, hc⟩
      exact ⟨(hmem p).mpr (.inl ⟨hp, hne⟩), rfl, by rwa [Deletes, lastChange_cons_ne hne]⟩
    rintro ⟨hp, rfl, hc⟩
    rw [Deletes, lastChange_cons_ne hne] at hc
    rcases (hmem p).mp hp with ⟨hp, -⟩ | rfl
    · exact ⟨hp, rfl, hc⟩
    · exact absurd ha hne

lemma Inv.set (h : s.Inv) (attr : StunAttribute) : (s.step (.set attr)).Inv := by
  obtain ⟨attrs, hattrs⟩ := Option.isSome_iff_exists.mp h.dictionary
  have hset : s.step (.set attr) = ⟨s.writer.set attr, ⟨s.writer.version + 1, attr.type, false⟩ ::
      s.changes⟩ := by
    simp [step, changed, StunDictionaryWriter.set, h.enabled]
  rw [hset]
  refine h.change (a := ⟨s.writer.version + 1, attr⟩) ?_ ?_ rfl ?_ (fun key hne => ?_) ?_ fun _ => ?_ <;>
    simp only [StunDictionaryWriter.set, StunDictionaryWriter.stored, h.enabled, hattrs]
  · rfl
  · rfl
  · rfl
  · exact ⟨lookup_erase_ne hne, lookup_insert_ne hne⟩
  · exact lookup_erase ..
  · exact lookup_insert _

lemma Inv.delete (h : s.Inv) {key : Int} (hkey : ((BitVec.ofInt 16 key).toNat : Int) = key) :
    (s.step (.delete key)).Inv := by
  obtain ⟨attrs, hattrs⟩ := Option.isSome_iff_exists.mp h.dictionary
  by_cases hmem : BitVec.ofInt 16 key ∈ attrs
  swap
  · have hsame : s.step (.delete key) = s := by
      simp [step, changed, StunDictionaryWriter.delete, h.enabled, hattrs, hmem]
    rwa [hsame]
  have hcompare : ∀ p : Nat × Allocated, decide ((p.2.type.toNat : Int) ≠ key) =
      decide (p.2.type ≠ BitVec.ofInt 16 key) := fun p => by
    rw [decide_eq_decide, not_iff_not, ← BitVec.toNat_inj]
    omega
  have hdelete : s.step (.delete key) = ⟨s.writer.delete key,
      ⟨s.writer.version + 1, BitVec.ofInt 16 key, true⟩ :: s.changes⟩ := by
    simp [step, changed, StunDictionaryWriter.delete, h.enabled, hattrs, hmem]
  rw [hdelete]
  refine h.change (a := ⟨s.writer.version + 1, BitVec.ofInt 16 key, 0, .byteString []⟩)
    ?_ ?_ rfl ?_ (fun key hne => ?_) ?_ nofun <;>
    simp only [StunDictionaryWriter.delete, StunDictionaryWriter.stored, h.enabled, hattrs, hmem,
      hcompare, Option.any_some, not_true, decide_false]
  · rfl
  · rfl
  · rfl
  · exact ⟨lookup_insert_ne hne, lookup_erase_ne hne⟩
  · exact lookup_insert _

/-! ## Acknowledgements -/

lemma lookup_foldl_erase (key : AttributeType) : ∀ (l : List (Nat × Allocated))
    (t : Table AttributeType Allocated), (l.foldl (fun t p => t.erase p.2.type) t).lookup key =
      if key ∈ l.map (fun p => p.2.type) then none else t.lookup key
  | [], t => rfl
  | p :: l, t => by
    rw [foldl_cons, lookup_foldl_erase key l, map_cons]
    by_cases hp : key = p.2.type
    · rw [if_pos (mem_cons.mpr (.inl hp)), hp, lookup_erase, ite_self]
    rw [lookup_erase_ne hp]
    exact if_congr (by rw [mem_cons, or_iff_right hp]) rfl rfl

lemma Inv.applyDeltaAck (h : s.Inv) {acked : Nat} (hok : s.Ok (.applyDeltaAck acked)) :
    (s.step (.applyDeltaAck acked)).Inv := by
  have hlookup : ∀ key, (s.writer.applyDeltaAck acked).tombstones.lookup key = _ :=
    fun key => lookup_foldl_erase key (s.writer.removed acked) s.writer.tombstones
  -- A key has one entry, so its tombstone is erased if and only if that entry is removed.
  have hkept : ∀ p ∈ s.writer.pending, p.2.type ∈ s.writer.tombstones →
      (p.2.type ∉ (s.writer.removed acked).map (fun p => p.2.type) ↔ acked < p.1) := by
    intro p hp htomb
    rw [← Nat.not_le, hok p hp htomb, not_iff_not]
    refine ⟨fun hmem => ?_, fun hmem => mem_map_of_mem hmem⟩
    obtain ⟨q, hq, htype⟩ := mem_map.mp hmem
    exact inj_on_of_nodup_map h.single (mem_of_mem_drop hq) hp htype ▸ hq
  have hpend : ∀ p, p ∈ (s.writer.applyDeltaAck acked).pending ↔ p ∈ s.writer.pending ∧ acked < p.1 :=
    fun p => by rw [StunDictionaryWriter.applyDeltaAck, mem_filter, decide_eq_true_iff]
  refine ⟨⟨fun p hp => ?_, h.single.sublist (filter_sublist.map _),
    fun p hp => h.latest p ((hpend p).mp hp).1, fun key => ?_⟩, h.enabled, h.dictionary⟩
  · obtain ⟨hp, hlate⟩ := (hpend p).mp hp
    refine (h.held p hp).imp_right fun htomb => ?_
    have hmem := lookup_isSome.mp (Option.isSome_iff_exists.mpr ⟨_, htomb⟩)
    exact (hlookup _).trans ((if_neg ((hkept p hp hmem).mpr hlate)).trans htomb)
  show key ∈ (s.writer.applyDeltaAck acked).tombstones ↔
    ∃ p ∈ (s.writer.applyDeltaAck acked).pending, p.2.type = key ∧ s.Deletes p
  rw [← lookup_isSome, hlookup]
  constructor
  · intro hsome
    split at hsome
    · cases hsome
    next hnot =>
    have hmem := lookup_isSome.mp hsome
    obtain ⟨p, hp, rfl, hc⟩ := (h.tombstones key).mp hmem
    exact ⟨p, (hpend p).mpr ⟨hp, (hkept p hp hmem).mp hnot⟩, rfl, hc⟩
  · rintro ⟨p, hp, rfl, hc⟩
    obtain ⟨hp, hlate⟩ := (hpend p).mp hp
    have hmem := (h.tombstones p.2.type).mpr ⟨p, hp, rfl, hc⟩
    rw [if_neg ((hkept p hp hmem).mpr hlate)]
    exact lookup_isSome.mpr hmem

lemma Inv.step {e : Event} (h : s.Inv) (hok : s.Ok e) : (s.step e).Inv := by
  cases e with
  | set attr => exact h.set attr
  | delete key => exact h.delete hok
  | createDelta => exact h
  | applyDeltaAck acked => exact h.applyDeltaAck hok

/-- In every run whose steps meet their condition, the writer keeps what it has to send. -/
theorem keeps_along (attrs : Table AttributeType Allocated) (evs : List Event)
    (hok : Along step Ok (start attrs) evs) : (run step (start attrs) evs).Keeps := by
  have hstart : (start attrs).Inv :=
    ⟨⟨nofun, nodup_nil, nofun, fun key => iff_of_false nofun nofun⟩, rfl, rfl⟩
  exact (run_induction_along (fun _ _ h hok => h.step hok) evs _ hstart hok).toKeeps

def setSetDelete : List Event :=
  [.set ⟨1, 4, .uint32 7⟩, .set ⟨2, 4, .uint32 7⟩, .delete 2, .createDelta]

/-- Both changes are acknowledged. -/
theorem keeps_of_both_acked : (run step (start ∅) (setSetDelete ++ [.applyDeltaAck 4])).Keeps :=
  keeps_along ∅ _ (by decide +kernel)

/-- Only the first change is acknowledged, and the tombstone of the second is gone. -/
theorem not_keeps_of_first_acked :
    ¬ (run step (start ∅) (setSetDelete ++ [.applyDeltaAck 2])).Keeps := by
  intro h
  have hheld := h.held (4, ⟨4, 2, 0, .byteString []⟩) (by decide +kernel)
  revert hheld
  decide +kernel

end Traced

end DictionaryWriter

end WebRtc.Stun
