import WebRtc.Lib.OrdMap
import WebRtc.Lib.Run

/-!
# WebRTC — the transports of the media sections

`JsepTransportCollection` owns each transport under the mid it was registered
with; `mid_to_transport_` and its copy of the last commit refer to transports by
pointer. `RegisterTransport` frees what its mid named before, even if one of the
mappings still refers to it; when none does, nothing ever dangles.
-/

namespace WebRtc.Pc

open Lib OrdMap Function List

abbrev JsepTransport := Nat

/-- `JsepTransportCollection`, with what its map-change callback was last told for
each mid and with the mapping of the last commit. -/
structure JsepTransportCollection (Mid : Type) [LinearOrder Mid] where
  byName : OrdMap Mid JsepTransport := empty
  mids : OrdMap Mid JsepTransport := empty
  stable : OrdMap Mid JsepTransport := empty
  announced : Mid → Option JsepTransport := fun _ => none
  committed : OrdMap Mid JsepTransport := empty

namespace JsepTransportCollection

variable {Mid : Type} [LinearOrder Mid] (c : JsepTransportCollection Mid) (mid : Mid)
  (t : JsepTransport)

/-- A mapping, current or committed, refers to `t`. -/
def inUse : Bool := c.mids.entries.any (·.2 == t) || c.stable.entries.any (·.2 == t)

def keep (p : JsepTransport → Bool) : JsepTransportCollection Mid :=
  { c with byName := c.byName.filterKeys fun name => (c.byName.find? name).any p }

def maybeDestroy : JsepTransportCollection Mid := c.keep fun t' => t' ≠ t || c.inUse t

def destroyUnused : JsepTransportCollection Mid := c.keep c.inUse

def setTransportForMid : JsepTransportCollection Mid :=
  let changed :=
    { c with mids := c.mids.insert mid t, announced := update c.announced mid (some t) }
  match c.mids.find? mid with
  | none => changed
  | some old => if old = t then c else changed.maybeDestroy old

def registerTransport : JsepTransportCollection Mid :=
  let changed := c.setTransportForMid mid t
  { changed with byName := changed.byName.insert mid t }

def removeTransportForMid : JsepTransportCollection Mid :=
  let told := { c with announced := update c.announced mid none }
  match c.mids.find? mid with
  | none => told
  | some old => { told with mids := c.mids.erase mid }.maybeDestroy old

/-- The callbacks of a rollback: mids that go, then mids that change back. -/
def rollbackCalls : List (Mid × Option JsepTransport) :=
  (c.mids.entries.filter fun kv => !c.stable.contains kv.1).map (fun kv => (kv.1, none)) ++
    (c.stable.entries.filter fun kv => c.mids.find? kv.1 ≠ some kv.2).map fun kv =>
      (kv.1, some kv.2)

def announce (a : Mid → Option JsepTransport) (call : Mid × Option JsepTransport) :
    Mid → Option JsepTransport := update a call.1 call.2

/-- `RollbackTransports`, when every callback succeeds. -/
def rollbackTransports : JsepTransportCollection Mid :=
  { c with mids := c.stable, announced := c.rollbackCalls.foldl announce c.announced }.destroyUnused

def commitTransports : JsepTransportCollection Mid :=
  { c with stable := c.mids, committed := c.mids }.destroyUnused

/-- No mapping but that of `mid` itself refers to what is registered under `mid`. -/
def Replaceable : Prop :=
  ∀ old ∈ c.byName.entries, old.1 = mid →
    (∀ p ∈ c.mids.entries, p.2 = old.2 → p.1 = mid) ∧ ∀ p ∈ c.stable.entries, p.2 ≠ old.2

/-- `t` is registered, or about to be. -/
def Owned (new : Option JsepTransport) : Prop :=
  some t = new ∨ ∃ p ∈ c.byName.entries, p.2 = t

/-- Nothing dangles, nothing is owned in vain, and what was announced is what is mapped. -/
structure Sound (new : Option JsepTransport) : Prop where
  mids : ∀ p ∈ c.mids, c.Owned p.2 new
  stable : ∀ p ∈ c.stable, c.Owned p.2 new
  used : ∀ p ∈ c.byName, c.inUse p.2 = true
  announced : c.announced = c.mids.find?
  committed : c.stable = c.committed

variable {c mid t} {c' : JsepTransportCollection Mid} {new : Option JsepTransport}
  {p : Mid × JsepTransport}

lemma inUse_iff : c.inUse t = true ↔ (∃ p ∈ c.mids, p.2 = t) ∨ ∃ p ∈ c.stable, p.2 = t := by
  simp only [inUse, Bool.or_eq_true, any_eq_true, beq_iff_eq]
  rfl

lemma mem_keep {f : JsepTransport → Bool} :
    p ∈ (c.keep f).byName ↔ p ∈ c.byName ∧ f p.2 = true := by
  refine mem_filterKeys.trans (and_congr_right fun hp => ?_)
  rw [find?_eq_some.mpr hp, Option.any_some]

lemma Sound.of_names (hnames : ∀ p, p ∈ c'.byName ↔ p ∈ c.byName ∧ c'.inUse p.2 = true)
    (hmids : ∀ p ∈ c'.mids, c.Owned p.2 new) (hstable : ∀ p ∈ c'.stable, c.Owned p.2 new)
    (hann : c'.announced = c'.mids.find?) (hcom : c'.stable = c'.committed) : c'.Sound new := by
  have howned (t) (ht : c'.inUse t = true) (ho : c.Owned t new) : c'.Owned t new :=
    ho.imp_right fun ⟨q, hq, hqt⟩ => ⟨q, (hnames q).mpr ⟨hq, hqt ▸ ht⟩, hqt⟩
  exact ⟨fun p hp => howned _ (inUse_iff.mpr (.inl ⟨p, hp, rfl⟩)) (hmids p hp),
    fun p hp => howned _ (inUse_iff.mpr (.inr ⟨p, hp, rfl⟩)) (hstable p hp),
    fun p hp => ((hnames p).mp hp).2, hann, hcom⟩

lemma Sound.used_of_rest (h : c.Sound new) (hmids : ∀ q ∈ c.mids, q.1 ≠ mid → q ∈ c'.mids)
    (hstable : c'.stable = c.stable) (hp : p ∈ c.byName) (hmid : (mid, p.2) ∉ c.mids) :
    c'.inUse p.2 = true := by
  rw [inUse_iff, hstable]
  refine (inUse_iff.mp (h.used p hp)).imp_left fun ⟨q, hq, hqt⟩ => ⟨q, hmids q hq fun heq => ?_, hqt⟩
  exact hmid (heq ▸ hqt ▸ hq)

lemma Sound.of_maybeDestroy {old : JsepTransport} (h : c.Sound new)
    (hold : (mid, old) ∈ c.mids) (hnames : c'.byName = c.byName)
    (hstable : c'.stable = c.stable) (hcom : c'.committed = c.committed)
    (hrest : ∀ q ∈ c.mids, q.1 ≠ mid → q ∈ c'.mids) (hmids : ∀ p ∈ c'.mids, c.Owned p.2 new)
    (hann : c'.announced = c'.mids.find?) : (c'.maybeDestroy old).Sound new := by
  refine .of_names (fun p => mem_keep.trans ?_) hmids (hstable ▸ h.stable) hann
    (hstable.trans (h.committed.trans hcom.symm))
  rw [hnames]
  refine and_congr_right fun hp => ?_
  by_cases heq : p.2 = old
  · simp only [heq, ne_eq, not_true, decide_false, Bool.false_or]
    rfl
  refine iff_of_true (by simp [heq]) (h.used_of_rest hrest hstable hp fun hmem => heq ?_)
  exact mem_unique hmem hold

/-- Mapping to a transport that is owned is safe. -/
lemma Sound.set (h : c.Sound new) (ht : c.Owned t new) :
    (c.setTransportForMid mid t).Sound new := by
  have hrest : ∀ q ∈ c.mids, q.1 ≠ mid → q ∈ c.mids.insert mid t :=
    fun q hq hne => mem_insert.mpr (.inr ⟨hne, hq⟩)
  have hmids : ∀ p ∈ c.mids.insert mid t, c.Owned p.2 new := by
    intro p hp
    rcases mem_insert.mp hp with rfl | ⟨-, hp⟩
    · exact ht
    · exact h.mids p hp
  have hann : update c.announced mid (some t) = (c.mids.insert mid t).find? := by
    rw [h.announced, update_eq_iff, find?_insert_self]
    exact ⟨rfl, fun _ hm => (find?_insert_ne _ _ hm).symm⟩
  unfold setTransportForMid
  split
  next hnone =>
    refine .of_names (fun p => (and_iff_left_of_imp fun hp => ?_).symm) hmids h.stable hann
      h.committed
    exact h.used_of_rest hrest rfl hp (find?_eq_none.mp hnone _)
  next old hsome =>
    split
    · exact h
    · exact h.of_maybeDestroy (find?_eq_some.mp hsome) rfl rfl rfl hrest hmids hann

lemma Sound.remove (h : c.Sound new) : (c.removeTransportForMid mid).Sound new := by
  have hann : update c.announced mid none = (c.mids.erase mid).find? := by
    rw [h.announced, update_eq_iff, eq_comm, OrdMap.find?_eq_none]
    exact ⟨fun v hv => (mem_erase.mp hv).2 rfl, fun _ hm => (find?_erase_ne _ hm).symm⟩
  unfold removeTransportForMid
  split
  next hnone =>
    have hsame : update c.announced mid none = c.announced := by
      rw [update_eq_self_iff, h.announced, hnone]
    exact ⟨h.mids, h.stable, h.used, hsame.trans h.announced, h.committed⟩
  next old hsome =>
    exact h.of_maybeDestroy (find?_eq_some.mp hsome) rfl rfl rfl
      (fun q hq hne => mem_erase.mpr ⟨hq, hne⟩) (fun p hp => h.mids p (mem_erase.mp hp).1) hann

lemma setTransportForMid_frame : (c.setTransportForMid mid t).stable = c.stable ∧
    (mid, t) ∈ (c.setTransportForMid mid t).mids ∧
    (∀ p ∈ (c.setTransportForMid mid t).mids, p.1 ≠ mid → p ∈ c.mids) ∧
    ∀ p ∈ (c.setTransportForMid mid t).byName, p ∈ c.byName := by
  have hinsr : (mid, t) ∈ c.mids.insert mid t ∧
      ∀ p ∈ c.mids.insert mid t, p.1 ≠ mid → p ∈ c.mids :=
    ⟨mem_insert.mpr (.inl rfl), fun p hp hne => ((mem_insert.mp hp).resolve_left (by grind)).2⟩
  unfold setTransportForMid
  split
  · exact ⟨rfl, hinsr.1, hinsr.2, fun _ => id⟩
  next old hsome =>
    split
    next heq => exact ⟨rfl, find?_eq_some.mp (heq ▸ hsome), fun _ hp _ => hp, fun _ => id⟩
    · exact ⟨rfl, hinsr.1, hinsr.2, fun _ hp => (mem_keep.mp hp).1⟩

lemma Sound.register (h : c.Sound none) (hrep : c.Replaceable mid) :
    (c.registerTransport mid t).Sound none := by
  have hset : (c.setTransportForMid mid t).Sound (some t) :=
    Sound.set ⟨fun p hp => .inr ((h.mids p hp).resolve_left nofun),
      fun p hp => .inr ((h.stable p hp).resolve_left nofun), h.used, h.announced, h.committed⟩
      (.inl rfl)
  obtain ⟨hstable, hself, hoth, hnames⟩ := @setTransportForMid_frame Mid _ c mid t
  -- only what `mid` named before is freed by the assignment
  have howned (t') (ht : (c.setTransportForMid mid t).Owned t' (some t))
      (hkept : (mid, t') ∈ c.byName → t' = t) : (c.registerTransport mid t).Owned t' none := by
    by_cases heq : t' = t
    · exact .inr ⟨(mid, t), mem_insert.mpr (.inl rfl), heq.symm⟩
    obtain ⟨q, hq, rfl⟩ := ht.resolve_left fun h => heq (Option.some.inj h)
    refine .inr ⟨q, mem_insert.mpr (.inr ⟨fun hqm => heq (hkept ?_), hq⟩), rfl⟩
    exact hqm ▸ hnames q hq
  constructor
  case mids =>
    refine fun p hp => howned _ (hset.mids p hp) fun hmem => ?_
    have hmid : p.1 = mid := by
      by_contra hne
      exact hne ((hrep _ hmem rfl).1 p (hoth p hp hne) rfl)
    exact mem_unique (show (mid, p.2) ∈ _ from hmid ▸ hp) hself
  case stable =>
    refine fun p hp => howned _ (hset.stable p hp) fun hmem => ?_
    exact absurd rfl ((hrep _ hmem rfl).2 p (hstable ▸ hp))
  case used =>
    intro p hp
    rcases mem_insert.mp hp with rfl | ⟨-, hp⟩
    · exact inUse_iff.mpr (.inl ⟨_, hself, rfl⟩)
    · exact hset.used p hp
  case announced => exact hset.announced
  case committed => exact hset.committed

/-- Callbacks that say what `g` says, for every mid where the last word was another one. -/
lemma foldl_update_eq {g : Mid → Option JsepTransport}
    {calls : List (Mid × Option JsepTransport)} {a : Mid → Option JsepTransport}
    (hcalls : ∀ call ∈ calls, call.2 = g call.1)
    (hrest : ∀ mid, a mid ≠ g mid → ∃ call ∈ calls, call.1 = mid) :
    calls.foldl announce a = g := by
  induction calls generalizing a with
  | nil => exact funext fun mid => by_contra fun hne => by simpa using hrest mid hne
  | cons call calls ih =>
    obtain ⟨hcall, hcalls⟩ := forall_mem_cons.mp hcalls
    refine ih hcalls fun mid hne => ?_
    by_cases hm : mid = call.1
    · exact absurd (by rw [announce, hm, update_self, hcall]) hne
    rw [announce, update_of_ne hm] at hne
    obtain ⟨last, hlast, rfl⟩ := hrest mid hne
    exact ⟨last, (mem_cons.mp hlast).resolve_left fun heq => hm (heq ▸ rfl), rfl⟩

lemma announced_rollback (h : c.announced = c.mids.find?) :
    c.rollbackTransports.announced = c.stable.find? := by
  refine foldl_update_eq (fun call hcall => ?_) fun mid hne => ?_
  · rcases mem_append.mp hcall with hcall | hcall
    · obtain ⟨kv, hkv, rfl⟩ := mem_map.mp hcall
      have hnew := (mem_filter.mp hkv).2
      rw [Bool.not_eq_true', OrdMap.contains, Option.isSome_eq_false_iff] at hnew
      exact (Option.isNone_iff_eq_none.mp hnew).symm
    · obtain ⟨kv, hkv, rfl⟩ := mem_map.mp hcall
      exact (find?_eq_some.mpr (mem_filter.mp hkv).1).symm
  rw [h] at hne
  cases hs : c.stable.find? mid with
  | none =>
    obtain ⟨v, hv⟩ := Option.ne_none_iff_exists'.mp (hs ▸ hne)
    refine ⟨(mid, none), mem_append_left _ (mem_map.mpr ⟨(mid, v), ?_, rfl⟩), rfl⟩
    exact mem_filter.mpr ⟨find?_eq_some.mp hv, by simp [OrdMap.contains, hs]⟩
  | some v =>
    refine ⟨(mid, some v), mem_append_right _ (mem_map.mpr ⟨(mid, v), ?_, rfl⟩), rfl⟩
    exact mem_filter.mpr ⟨find?_eq_some.mp hs, decide_eq_true (hs ▸ hne)⟩

/-! ## Runs -/

inductive Event (Mid : Type) where
  | register (mid : Mid) (t : JsepTransport)
  | set (mid : Mid) (t : JsepTransport)
  | remove (mid : Mid)
  | commit
  | rollback

def step (c : JsepTransportCollection Mid) : Event Mid → JsepTransportCollection Mid
  | .register mid t => c.registerTransport mid t
  | .set mid t => c.setTransportForMid mid t
  | .remove mid => c.removeTransportForMid mid
  | .commit => c.commitTransports
  | .rollback => c.rollbackTransports

/-- Only owned transports are mapped to, only what nothing else refers to is registered again. -/
def Allowed (c : JsepTransportCollection Mid) : Event Mid → Prop
  | .register mid _ => c.Replaceable mid
  | .set _ t => c.Owned t none
  | _ => True

lemma Sound.step {e : Event Mid} (h : c.Sound none) (hok : Allowed c e) :
    (step c e).Sound none := by
  cases e with
  | register mid t => exact h.register hok
  | set mid t => exact h.set hok
  | remove mid => exact h.remove
  | commit => exact .of_names (fun _ => mem_keep) h.mids h.mids h.announced rfl
  | rollback =>
    exact .of_names (fun _ => mem_keep) h.stable h.stable (announced_rollback h.announced) h.committed

/-- **Nothing dangles while only what nothing else refers to is registered again**, and
a rollback goes back to the mapping of the last commit. -/
theorem sound_of_replaceable (evs : List (Event Mid)) (hok : Along step Allowed {} evs) :
    (run step {} evs).Sound none ∧
      (run step {} evs).rollbackTransports.mids = (run step {} evs).committed := by
  have h : (run step {} evs).Sound none :=
    run_induction_along (fun _ _ => Sound.step) evs _ ⟨nofun, nofun, nofun, rfl, rfl⟩ hok
  exact ⟨h, h.committed⟩

/-- A transport is registered again before anything else refers to it, bundled with, and unbundled. -/
theorem sound_after_unbundling :
    (run step {} [.register 0 1, .register 0 2, .commit, .set 5 2, .register 5 3]).Sound none ∧
      (run step {} [.register 0 1, .register 0 2, .commit, .set 5 2,
        .register 5 3]).rollbackTransports.mids = (insert empty 0 2 : OrdMap Nat _) :=
  sound_of_replaceable [.register 0 1, .register 0 2, .commit, .set 5 2, .register 5 3]
    (by simp only [Along, Allowed, Replaceable, Owned]; decide)

/-- The transport that the last commit mapped to is freed by a second registration. -/
theorem dangling_after_second_registration :
    ¬ (run step {} [.register (0 : Nat) 1, .commit, .register 0 2]).Sound none :=
  fun h => absurd (h.stable (0, 1) (mem_def.mpr (by decide))) (by unfold Owned; decide)

end JsepTransportCollection

end WebRtc.Pc
