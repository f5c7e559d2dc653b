import Mathlib.Data.List.Sort
import WebRtc.Lib.Run
import WebRtc.P2p.BasicIceController

/-!
# P2P — the rotation of pings

`BasicIceController` keeps its connections in two sets. Rule 4 chooses an unpinged connection,
and only when none of these is pingable does it treat all as unpinged again. So a connection
that stays pingable is not passed over for two rounds.
-/

namespace WebRtc.P2p

open List Lib

/-- `connections_` and the two sets, which are iterated in the order of the addresses. -/
structure PingSets where
  connections : List Nat := []
  pinged : List Nat := []
  unpinged : List Nat := []

/-- What a call of `FindNextPingableConnection` meets: the choice of rules 1 to 3, which do not
read the sets, `IsPingable`, and what `MorePingable` reads. -/
structure PingCall where
  earlier : Option Nat
  isPingable : Nat → Bool
  prioritizeMostLikelyCandidatePairs : Bool
  connection : Nat → Connection

inductive PingEvent
  | add (c : Nat)
  | destroyed (c : Nat)
  | find (call : PingCall)
  | mark (c : Option Nat)

namespace PingSets

def insertIn (c : Nat) (l : List Nat) : List Nat :=
  if c ∈ l then l else l.orderedInsert (· ≤ ·) c

section

variable (s : PingSets)

def addConnection (c : Nat) : PingSets :=
  { s with connections := s.connections ++ [c], unpinged := insertIn c s.unpinged }

def onConnectionDestroyed (c : Nat) : PingSets :=
  ⟨s.connections.erase c, s.pinged.erase c, s.unpinged.erase c⟩

def markConnectionPinged : Option Nat → PingSets
  | none => s
  | some c =>
    if c ∈ s.pinged then s
    else { s with pinged := insertIn c s.pinged, unpinged := s.unpinged.erase c }

/-- Everything is treated as unpinged when no unpinged connection is pingable. -/
def refill (call : PingCall) : PingSets :=
  if s.unpinged.any call.isPingable then s
  else { s with pinged := [], unpinged := (s.unpinged ++ s.pinged).insertionSort (· ≤ ·) }

def mostPingable (call : PingCall) : Option Nat :=
  let seen c := { call.connection c with id := c }
  let t : BasicIceController :=
    ⟨call.prioritizeMostLikelyCandidatePairs, s.connections.map seen⟩
  (t.maxElement ((s.unpinged.filter call.isPingable).map seen)).map Connection.id

/-- `FindNextPingableConnection`; it aborts before rule 4 unless `SizesAgree`. -/
def findNextPingableConnection (call : PingCall) : PingSets × Option Nat :=
  match call.earlier with
  | some c => (s, some c)
  | none => (s.refill call, (s.refill call).mostPingable call)

def SizesAgree : Prop := s.connections.length = s.pinged.length + s.unpinged.length

def Partitioned : Prop := s.connections.Nodup ∧ s.connections ~ s.pinged ++ s.unpinged

end

def step (s : PingSets) : PingEvent → PingSets
  | .add c => s.addConnection c
  | .destroyed c => s.onConnectionDestroyed c
  | .find call => (s.findNextPingableConnection call).1
  | .mark c => s.markConnectionPinged c

def allowed (s : PingSets) : PingEvent → Bool
  | .add c => c ∉ s.connections
  | .destroyed c => c ∈ s.connections
  | .find _ => true
  | .mark c => c.all (· ∈ s.connections)

def Rule4 (s : PingSets) (call : PingCall) (c : Nat) : Prop :=
  call.earlier = none ∧ (s.findNextPingableConnection call).2 = some c

/-- `a` and `b` stay present, and a call meets `a` pingable. -/
def Stays (a b : Nat) : PingEvent → Prop
  | .destroyed c => a ≠ c ∧ b ≠ c
  | .find call => call.isPingable a
  | _ => True

/-! ## The partition -/

variable {s : PingSets} {e : PingEvent} {call : PingCall} {a b c : Nat} {l : List Nat}

lemma perm_insertIn (h : c ∉ l) : insertIn c l ~ c :: l := by
  rw [insertIn, if_neg h]
  exact perm_orderedInsert _ c l

lemma Partitioned.not_mem (h : s.Partitioned) (hu : c ∈ s.unpinged) : c ∉ s.pinged := by
  intro hp
  exact (nodup_append.mp (h.2.nodup_iff.mp h.1)).2.2 c hp c hu rfl

lemma Partitioned.refill (h : s.Partitioned) : (s.refill call).Partitioned := by
  unfold PingSets.refill
  split
  · exact h
  · exact ⟨h.1, h.2.trans (perm_append_comm.trans (perm_insertionSort _ _).symm)⟩

lemma Partitioned.step (h : s.Partitioned) (hok : s.allowed e) : (s.step e).Partitioned := by
  obtain ⟨hn, hp⟩ := h
  cases e with
  | add c =>
    have hc : c ∉ s.connections := of_decide_eq_true hok
    have hu : c ∉ s.unpinged := fun hu => hc (hp.mem_iff.mpr (mem_append_right _ hu))
    refine ⟨nodup_middle.mpr (by simpa using ⟨hc, hn⟩), (perm_append_singleton c _).trans ?_⟩
    exact ((hp.cons c).trans perm_middle.symm).trans ((perm_insertIn hu).symm.append_left _)
  | destroyed c =>
    refine ⟨hn.erase c, (hp.erase c).trans (.of_eq ?_)⟩
    have hdisj := (nodup_append.mp (hp.nodup_iff.mp hn)).2.2
    change _ = s.pinged.erase c ++ s.unpinged.erase c
    rw [erase_append]
    split
    · next hc => rw [erase_of_not_mem (fun hu => hdisj c hc c hu rfl)]
    · next hc => rw [erase_of_not_mem hc]
  | find call =>
    simp only [PingSets.step, findNextPingableConnection]
    split
    · exact ⟨hn, hp⟩
    · exact Partitioned.refill ⟨hn, hp⟩
  | mark c =>
    cases c with
    | none => exact ⟨hn, hp⟩
    | some c =>
      simp only [PingSets.step, markConnectionPinged]
      split
      · exact ⟨hn, hp⟩
      · next hc =>
        have hu := (mem_append.mp (hp.mem_iff.mp (of_decide_eq_true hok))).resolve_left hc
        refine ⟨hn, hp.trans (((perm_cons_erase hu).append_left _).trans ?_)⟩
        exact perm_middle.trans ((perm_insertIn hc).symm.append_right _)

/-! ## The rotation -/

lemma Rule4.mem (h : s.Rule4 call c) : c ∈ (s.step (.find call)).unpinged := by
  obtain ⟨hearlier, h⟩ := h
  simp only [findNextPingableConnection, hearlier, mostPingable, Option.map_eq_some_iff] at h
  obtain ⟨m, hm, rfl⟩ := h
  obtain ⟨x, hx, rfl⟩ := mem_map.mp (BasicIceController.mem_of_maxElement hm)
  simpa [PingSets.step, findNextPingableConnection, hearlier] using mem_of_mem_filter hx

lemma mem_insertIn : a ∈ insertIn c l ↔ a = c ∨ a ∈ l := by
  unfold insertIn
  split
  · next hc => simp only [iff_or_self]; rintro rfl; exact hc
  · exact mem_orderedInsert _

/-- Of two connections, `a` stays unpinged or becomes so, and else `b` stays pinged. -/
def Keeps (a b : Nat) (s s' : PingSets) : Prop :=
  (a ∈ s.unpinged → a ∈ s'.unpinged ∧ (b ∈ s.pinged → b ∈ s'.pinged)) ∧
    (a ∈ s.pinged → a ∈ s'.unpinged ∨ a ∈ s'.pinged ∧ (b ∈ s.pinged → b ∈ s'.pinged))

lemma Keeps.of_mem {s' : PingSets} (hu : a ∈ s.unpinged → a ∈ s'.unpinged)
    (ha : a ∈ s.pinged → a ∈ s'.pinged) (hb : b ∈ s.pinged → b ∈ s'.pinged) : Keeps a b s s' :=
  ⟨fun h => ⟨hu h, hb⟩, fun h => .inr ⟨ha h, hb⟩⟩

lemma Keeps.trans {s' s'' : PingSets} (h : Keeps a b s s') (h' : Keeps a b s' s'') :
    Keeps a b s s'' := by
  refine ⟨fun hu => ?_, fun hp => ?_⟩
  · obtain ⟨hu', hb⟩ := h.1 hu
    exact ⟨(h'.1 hu').1, (h'.1 hu').2 ∘ hb⟩
  · obtain hu' | ⟨hp', hb⟩ := h.2 hp
    · exact .inl (h'.1 hu').1
    · exact (h'.2 hp').imp_right fun h => ⟨h.1, h.2 ∘ hb⟩

lemma step_keeps (h : Stays a b e) (hmark : e ≠ .mark (some a)) : Keeps a b s (s.step e) := by
  cases e with
  | add c => exact .of_mem (fun hu => mem_insertIn.mpr (.inr hu)) id id
  | destroyed c =>
    obtain ⟨hac, hbc⟩ := h
    exact .of_mem (mem_erase_of_ne hac).mpr (mem_erase_of_ne hac).mpr (mem_erase_of_ne hbc).mpr
  | find call =>
    simp only [PingSets.step, findNextPingableConnection]
    split
    · exact .of_mem id id id
    unfold refill
    split
    · exact .of_mem id id id
    · next hnone =>
      refine ⟨fun hu => absurd (any_eq_true.mpr ⟨a, hu, h⟩) hnone, fun hp => .inl ?_⟩
      exact (mem_insertionSort _).mpr (mem_append_right _ hp)
  | mark c =>
    cases c with
    | none => exact .of_mem id id id
    | some c =>
      have hac : a ≠ c := fun heq => hmark (heq ▸ rfl)
      have hins x (hx : x ∈ s.pinged) : x ∈ insertIn c s.pinged := mem_insertIn.mpr (.inr hx)
      simp only [PingSets.step, markConnectionPinged]
      split
      · exact .of_mem id id id
      · exact .of_mem (mem_erase_of_ne hac).mpr (hins a) (hins b)

lemma run_keeps {evs : List PingEvent} (h : ∀ e ∈ evs, Stays a b e ∧ e ≠ .mark (some a)) :
    Keeps a b s (run step s evs) := by
  induction evs generalizing s with
  | nil => exact .of_mem id id id
  | cons e evs ih =>
    obtain ⟨he, h⟩ := forall_mem_cons.mp h
    exact (step_keeps he.1 he.2).trans (ih h)

lemma exists_pinged {evs : List PingEvent} (h : ∀ e ∈ evs, Stays a b e ∧ e ≠ .mark (some a))
    (hb : .mark (some b) ∈ evs) :
    ∃ s', Keeps a b s s' ∧ b ∈ s'.pinged ∧ Keeps a b s' (run step s evs) := by
  obtain ⟨x, y, rfl⟩ := append_of_mem hb
  rw [append_cons] at h ⊢
  refine ⟨_, run_keeps (forall_mem_append.mp h).1, ?_, ?_⟩
  · rw [run_append]
    simp only [run_cons, run_nil, PingSets.step, markConnectionPinged]
    split
    · assumption
    · exact mem_insertIn.mpr (.inl rfl)
  · rw [run_append _ _ _ y]
    exact run_keeps (forall_mem_append.mp h).2

lemma partitioned_run {evs : List PingEvent} (hs : s.Partitioned)
    (h : Along step (fun s e => s.allowed e) s evs) : (run step s evs).Partitioned :=
  run_induction_along (fun _ _ hs hok => hs.step hok) evs s hs h

/-- **Ping rotation.** After every run the sets partition the connections. From there, of
three choices of `b` by rule 4 with `b` marked after each, the first and the third have a mark
of `a` between them, if both stay present and every call meets `a` pingable. -/
theorem ping_rotation {evs : List PingEvent} (h : Along step (fun s e => s.allowed e) {} evs) :
    let s := run step {} evs
    s.Partitioned ∧ s.SizesAgree ∧ ∀ a ∈ s.connections, ∀ b c₁ m₁ c₂ m₂ c₃,
      Along step (fun s e => s.allowed e) s (.find c₁ :: m₁ ++ .find c₂ :: m₂) →
      (∀ e ∈ .find c₁ :: m₁ ++ .find c₂ :: m₂ ++ [.find c₃], Stays a b e) →
      s.Rule4 c₁ b → .mark (some b) ∈ m₁ →
      (run step s (.find c₁ :: m₁)).Rule4 c₂ b → .mark (some b) ∈ m₂ →
      (run step s (.find c₁ :: m₁ ++ .find c₂ :: m₂)).Rule4 c₃ b → .mark (some a) ∈ m₁ ++ m₂ := by
  intro s
  have hs : s.Partitioned := partitioned_run ⟨nodup_nil, .refl _⟩ h
  refine ⟨hs, hs.2.length_eq.trans length_append, ?_⟩
  intro a ha b c₁ m₁ c₂ m₂ c₃ hok hstays _ hb₁ h₂ hb₂ h₃
  by_contra hmark
  have hpass : ∀ e ∈ .find c₁ :: m₁ ++ .find c₂ :: m₂ ++ [.find c₃],
      Stays a b e ∧ e ≠ .mark (some a) := by
    intro e he
    refine ⟨hstays e he, ?_⟩
    rintro rfl
    exact hmark (by simpa using he)
  obtain ⟨hpass, hpass₃⟩ := forall_mem_append.mp hpass
  obtain ⟨hpass₁, hpass₂⟩ := forall_mem_append.mp hpass
  obtain ⟨hfind₂, hpass₂⟩ := forall_mem_cons.mp hpass₂
  rw [run_append, run_cons] at h₃
  obtain ⟨hok₁, hfind, hok₂⟩ := along_append.mp hok
  have hs₂ := (partitioned_run hs hok₁).step hfind
  have hs₃ := (partitioned_run hs₂ hok₂).step (e := .find c₃) rfl
  -- Before the second choice all were treated as unpinged, or `a` was not pinged at all.
  obtain ⟨s₁, hk, hb, hk'⟩ := exists_pinged hpass₁ (mem_cons_of_mem _ hb₁)
  have hk₂ := hk'.trans (step_keeps hfind₂.1 hfind₂.2)
  have ha₂ : a ∈ ((run step s (.find c₁ :: m₁)).step (.find c₂)).unpinged := by
    have hpinged (hp : a ∈ s₁.pinged) := (hk₂.2 hp).resolve_right fun h =>
      hs₂.not_mem h₂.mem (h.2 hb)
    obtain hp | hu := mem_append.mp (hs.2.mem_iff.mp ha)
    · exact (hk.2 hp).elim (fun hu => (hk₂.1 hu).1) fun h => hpinged h.1
    · exact (hk₂.1 (hk.1 hu).1).1
  -- A third choice needs that again after `b` is marked, which `a` prevents.
  obtain ⟨s₃, hk, hb, hk'⟩ := exists_pinged hpass₂ hb₂
  have hfind₃ := hpass₃ _ mem_cons_self
  have hk₃ := hk'.trans (step_keeps hfind₃.1 hfind₃.2)
  exact hs₃.not_mem h₃.mem ((hk₃.1 (hk.1 ha₂).1).2 hb)

theorem ping_rotation_two_connections :
    let call : PingCall := ⟨none, fun _ => true, false, fun _ => ⟨0, false, false, "", 0⟩⟩
    let round : List PingEvent := [.mark (some 1), .find call, .mark (some 0)]
    (run step {} [.add 1, .add 0]).SizesAgree ∧ .mark (some 0) ∈ round ++ round := by
  intro call round
  have h := @ping_rotation [.add 1, .add 0] (by decide)
  refine ⟨h.2.1, h.2.2 0 (by decide) 1 call round call round call (by decide) ?_ ⟨rfl, by decide⟩
    mem_cons_self ⟨rfl, by decide⟩ mem_cons_self ⟨rfl, by decide⟩⟩
  simp [round, Stays, call]

end PingSets

end WebRtc.P2p
