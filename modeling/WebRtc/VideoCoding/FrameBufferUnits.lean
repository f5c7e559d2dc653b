import WebRtc.VideoCoding.FrameBuffer

/-!
# WebRTC — continuity and temporal units

`PropagateContinuity` leaves no frame unmarked whose references are decoded or continuous, and keeps
the id of the last continuous temporal unit above every marked last frame (`Tracked`).
`FindNextAndLastDecodableTemporalUnit` looks at the units up to this id only; it finds the first
decodable one of the whole buffer, because a decodable unit is continuous.
-/

namespace WebRtc.VideoCoding

open Numerics List FrameInfo EncodedFrame

@[simp] lemma EncodedFrame.getReferences_eq (f : EncodedFrame) :
    f.getReferences = f.references := take_of_length_le f.few

lemma EncodedFrame.reference_lt {f : EncodedFrame} (h : f.validReferences = true) {r : Int}
    (hr : r ∈ f.references) : r < f.id := by
  unfold validReferences at h
  rw [Bool.and_eq_true, all_eq_true] at h
  exact of_decide_eq_true (h.1 r hr)

namespace FrameBuffer

variable {b : FrameBuffer} {history : DecodedFramesHistory} {frames : List FrameInfo}

def Ascending (frames : List FrameInfo) : Prop :=
  frames.Pairwise fun it it' => it.frame.id < it'.frame.id

lemma Ascending.eq_of_id (h : Ascending frames) {it it' : FrameInfo} (hit : it ∈ frames)
    (hit' : it' ∈ frames) (hid : it.frame.id = it'.frame.id) : it = it' := by
  have hnd : (frames.map fun it => it.frame.id).Nodup := by
    rw [Nodup, pairwise_map]
    exact h.imp Int.ne_of_lt
  exact inj_on_of_nodup_map hnd hit hit' hid

lemma Ascending.of_map_frame {frames' : List FrameInfo} (h : Ascending frames)
    (hmap : frames'.map frame = frames.map frame) : Ascending frames' := by
  have hfrs : (frames.map frame).Pairwise fun f g => f.id < g.id :=
    pairwise_map.mpr h
  rw [← hmap] at hfrs
  exact (pairwise_map (f := frame)).mp hfrs

/-! ## Continuity -/

def Reachable (history : DecodedFramesHistory) (frames : List FrameInfo) (f : EncodedFrame) :
    Prop :=
  ∀ r ∈ f.references, history.wasDecoded r = true ∨
    ∃ it ∈ frames, it.frame.id = r ∧ it.continuous

def Complete (history : DecodedFramesHistory) (frames : List FrameInfo) : Prop :=
  ∀ it ∈ frames, Reachable history frames it.frame → it.continuous

def Tracked (b : FrameBuffer) (frames : List FrameInfo) : Prop :=
  ∀ it ∈ frames, it.continuous → it.frame.isLastSpatialLayer →
    ∃ l ∈ b.lastContinuousTemporalUnitFrameId, it.frame.id ≤ l

lemma find_continuous_iff (h : Ascending frames) (r : Int) :
    (frames.find? fun it => decide (it.frame.id = r)).any continuous = true ↔
      ∃ it ∈ frames, it.frame.id = r ∧ it.continuous := by
  rw [Option.any_eq_true]
  constructor
  · rintro ⟨it, hfind, hcont⟩
    have hid := find?_some hfind
    exact ⟨it, mem_of_find?_eq_some hfind, of_decide_eq_true hid, hcont⟩
  rintro ⟨it, hit, hid, hcont⟩
  cases hfind : frames.find? fun it => decide (it.frame.id = r) with
  | none =>
    have hnone := find?_eq_none.mp hfind it hit
    exact absurd (decide_eq_true hid) hnone
  | some it' =>
    have hid' : it'.frame.id = r := of_decide_eq_true (find?_some hfind :)
    have heq := h.eq_of_id (mem_of_find?_eq_some hfind) hit (hid'.trans hid.symm)
    exact ⟨it', rfl, heq ▸ hcont⟩

lemma isContinuous_iff (h : Ascending frames) (f : EncodedFrame) :
    isContinuous history frames f = true ↔ Reachable history frames f := by
  unfold isContinuous Reachable
  rw [all_eq_true, getReferences_eq]
  refine forall₂_congr fun r _ => ?_
  rw [Bool.or_eq_true, find_continuous_iff h]

lemma le_raise {last : Option Int} (id : Int) : ∃ l ∈ raise last id, id ≤ l := by
  unfold raise
  cases last with
  | none => exact ⟨id, rfl, Int.le_refl id⟩
  | some l =>
    by_cases hl : l < id
    · exact ⟨id, by simp [hl], Int.le_refl id⟩
    · exact ⟨l, by simp [hl], by omega⟩

lemma le_raise_of_le {last : Option Int} {n l : Int} (hl : l ∈ last) (hn : n ≤ l) (id : Int) :
    ∃ l ∈ raise last id, n ≤ l := by
  obtain rfl : last = some l := hl
  unfold raise
  by_cases hlt : l < id
  · exact ⟨id, by simp [hlt], by omega⟩
  · exact ⟨l, by simp [hlt], hn⟩

@[simp] lemma noteContinuous_history (f : EncodedFrame) :
    (b.noteContinuous f).decodedFrameHistory = b.decodedFrameHistory := by
  unfold noteContinuous
  split <;> rfl

lemma Tracked.noteContinuous (h : b.Tracked frames) (f : EncodedFrame) :
    (b.noteContinuous f).Tracked frames := by
  intro it hit hcont hlast
  obtain ⟨l, hl, hle⟩ := h it hit hcont hlast
  unfold FrameBuffer.noteContinuous
  split
  · exact le_raise_of_le hl hle f.id
  · exact ⟨l, hl, hle⟩

variable {f : EncodedFrame} {pre' unit' post : List FrameInfo} {u : TemporalUnit} {s : Scan}

lemma le_noteContinuous (hlast : f.isLastSpatialLayer = true) :
    ∃ l ∈ (b.noteContinuous f).lastContinuousTemporalUnitFrameId, f.id ≤ l := by
  unfold noteContinuous
  rw [if_pos hlast]
  exact le_raise f.id

variable {visited rest : List FrameInfo}

lemma Reachable.of_concat {x : FrameInfo}
    (h : Reachable history (visited ++ [x]) f) (hvalid : f.validReferences = true)
    (hle : f.id ≤ x.frame.id) : Reachable history visited f := by
  intro r hr
  refine (h r hr).imp id ?_
  rintro ⟨it, hit, hid, hcont⟩
  rcases mem_append.mp hit with hit | hit
  · exact ⟨it, hit, hid, hcont⟩
  rw [mem_singleton.mp hit] at hid
  have hlt := reference_lt hvalid hr
  omega

lemma Reachable.append (h : Reachable history visited f) (rest : List FrameInfo) :
    Reachable history (visited ++ rest) f := by
  intro r hr
  refine (h r hr).imp id ?_
  rintro ⟨it, hit, hid, hcont⟩
  exact ⟨it, mem_append_left rest hit, hid, hcont⟩

lemma Complete.concat {x : FrameInfo}
    (h : Complete history visited) (hasc : Ascending (visited ++ [x]))
    (hvalid : ∀ it ∈ visited ++ [x], it.frame.validReferences = true)
    (hx : Reachable history visited x.frame → x.continuous) : Complete history (visited ++ [x]) := by
  intro it hit hreach
  have hval := hvalid it hit
  rcases mem_append.mp hit with hit | hit
  · have hlt := (pairwise_append.mp hasc).2.2 it hit x mem_cons_self
    exact h it hit (hreach.of_concat hval (Int.le_of_lt hlt))
  obtain rfl := mem_singleton.mp hit
  exact hx (hreach.of_concat hval le_rfl)

structure Propagated (b : FrameBuffer) (frames : List FrameInfo) (b' : FrameBuffer) : Prop where
  frames : b'.frames.map frame = frames.map frame
  history : b'.decodedFrameHistory = b.decodedFrameHistory
  complete : Complete b.decodedFrameHistory b'.frames
  tracked : b'.Tracked b'.frames

lemma propagateFrom_spec (hasc : Ascending (visited ++ rest))
    (hvalid : ∀ it ∈ visited ++ rest, it.frame.validReferences = true)
    (hcompl : Complete b.decodedFrameHistory visited) (htrk : b.Tracked (visited ++ rest)) :
    Propagated b (visited ++ rest) (propagateFrom b visited rest) := by
  induction rest generalizing b visited with
  | nil =>
    rw [append_nil] at *
    exact ⟨rfl, rfl, hcompl, htrk⟩
  | cons it rest ih =>
    -- The visited frames grow by `x`, which is `it` up to its flag.
    have key : ∀ (b1 : FrameBuffer) (x : FrameInfo), x.frame = it.frame →
        b1.decodedFrameHistory = b.decodedFrameHistory → b1.Tracked (visited ++ x :: rest) →
        (Reachable b.decodedFrameHistory visited it.frame → x.continuous) →
        Propagated b (visited ++ it :: rest) (propagateFrom b1 (visited ++ [x]) rest) := by
      intro b1 x hframe hhist htr hx
      have hmap : ((visited ++ [x]) ++ rest).map frame =
          (visited ++ it :: rest).map frame := by simp [hframe]
      have hasc' := hasc.of_map_frame hmap
      have hval' : ∀ y ∈ (visited ++ [x]) ++ rest, y.frame.validReferences = true := by
        intro y hy
        obtain ⟨z, hz, heq⟩ := mem_map.mp (hmap ▸ mem_map_of_mem (f := frame) hy)
        rw [← heq]
        exact hvalid z hz
      have hcompl' : Complete b1.decodedFrameHistory (visited ++ [x]) := by
        rw [hhist]
        exact hcompl.concat (pairwise_append.mp hasc').1
          (fun y hy => hval' y (mem_append_left rest hy)) (hframe ▸ hx)
      have hrest := ih hasc' hval' hcompl' (by simpa using htr)
      exact ⟨hrest.frames.trans hmap, hrest.history.trans hhist, hhist ▸ hrest.complete,
        hrest.tracked⟩
    rw [propagateFrom]
    split
    · next hcond =>
      refine key _ _ rfl (noteContinuous_history _) ?_ fun _ => rfl
      intro y hy hcont hlast
      rcases mem_append.mp hy with hy | hy
      · exact htrk.noteContinuous _ y (mem_append_left _ hy) hcont hlast
      rcases mem_cons.mp hy with rfl | hy
      · exact le_noteContinuous hlast
      · exact htrk.noteContinuous _ y (mem_append_right _ (mem_cons_of_mem it hy)) hcont hlast
    · next hcond =>
      refine key b it rfl rfl htrk fun hreach => ?_
      have hcont : isContinuous b.decodedFrameHistory (visited ++ it :: rest) it.frame = true :=
        (isContinuous_iff hasc it.frame).mpr (hreach.append _)
      rw [hcont, Bool.and_true, Bool.not_eq_true', Bool.not_eq_false] at hcond
      exact hcond

/-! ## Temporal units -/

/-- The frames `unit` that follow `pre` share a timestamp which the frame before does
not have. -/
structure SameTime (pre unit : List FrameInfo) : Prop where
  nonempty : unit ≠ []
  timestamp : ∀ it ∈ unit, ∀ it' ∈ unit, it.frame.timestamp = it'.frame.timestamp
  start : ∀ it ∈ pre.getLast?, ∀ it' ∈ unit, it.frame.timestamp ≠ it'.frame.timestamp

structure IsTemporalUnit (frames pre unit post : List FrameInfo) : Prop where
  split : frames = pre ++ unit ++ post
  sameTime : SameTime pre unit
  last : ∀ it ∈ unit.getLast?, it.frame.isLastSpatialLayer

def OutsideDecoded (history : DecodedFramesHistory) (unit : List FrameInfo) : Prop :=
  ∀ it ∈ unit, ∀ r ∈ it.frame.references, history.wasDecoded r = true ∨
    ∃ it' ∈ unit, it'.frame.id = r

lemma temporalUnitDecodable_iff (unit : List FrameInfo) :
    temporalUnitDecodable history unit = true ↔ OutsideDecoded history unit := by
  unfold temporalUnitDecodable OutsideDecoded
  simp only [all_eq_true, getReferences_eq, Bool.or_eq_true, contains_iff_mem, mem_map]

variable {pre unit : List FrameInfo}

lemma SameTime.not_inside {c : List FrameInfo} (h : SameTime pre unit)
    (h' : SameTime pre' unit') (hpre : pre' = pre ++ c) (hunit : unit = c ++ rest)
    (hsub : ∀ it ∈ unit', it ∈ rest) : c = [] := by
  by_contra hne
  obtain ⟨x, hx⟩ := exists_mem_of_ne_nil _ h'.nonempty
  have hlast : c.getLast hne ∈ pre'.getLast? := by
    rw [hpre, getLast?_append, getLast?_eq_some_getLast hne]
    rfl
  refine h'.start _ hlast x hx (h.timestamp _ ?_ _ ?_)
  · rw [hunit]
    exact mem_append_left _ (getLast_mem hne)
  rw [hunit]
  exact mem_append_right _ (hsub x hx)

lemma SameTime.unique (h : SameTime pre unit)
    (h' : SameTime pre' unit') (heq : pre ++ unit = pre' ++ unit') : unit = unit' := by
  rcases append_eq_append_iff.mp heq with ⟨c, hp, hu⟩ | ⟨c, hp, hu⟩
  · have hc := h.not_inside h' hp hu fun _ => id
    subst hc
    exact hu
  have hc := h'.not_inside h hp hu fun _ => id
  subst hc
  exact hu.symm

lemma SameTime.extend (h : unit = [] ∧ pre = [] ∨ SameTime pre unit) (it : FrameInfo) :
    ∃ pre', pre' ++ extendUnit unit it = pre ++ unit ++ [it] ∧ SameTime pre' (extendUnit unit it) := by
  unfold extendUnit
  rcases h with ⟨rfl, rfl⟩ | h
  · refine ⟨[], rfl, ⟨nofun, ?_, nofun⟩⟩
    intro x hx y hy
    rw [mem_singleton.mp hx, mem_singleton.mp hy]
  obtain ⟨first, tail, rfl⟩ := exists_cons_of_ne_nil h.nonempty
  by_cases hnew : first.frame.timestamp = it.frame.timestamp
  · refine ⟨pre, by simp [hnew], ?_⟩
    have hall : ∀ x ∈ (first :: tail) ++ [it], x.frame.timestamp = it.frame.timestamp := by
      intro x hx
      rcases mem_append.mp hx with hx | hx
      · rw [← hnew]
        exact h.timestamp x hx first mem_cons_self
      · rw [mem_singleton.mp hx]
    have hunit : (if (first :: tail).head?.any fun f => f.frame.timestamp != it.frame.timestamp
        then [] else first :: tail) ++ [it] = (first :: tail) ++ [it] := by simp [hnew]
    rw [hunit]
    refine ⟨by simp, fun x hx y hy => (hall x hx).trans (hall y hy).symm, ?_⟩
    intro x hx y hy
    rw [hall y hy, ← hnew]
    exact h.start x hx first mem_cons_self
  · refine ⟨pre ++ first :: tail, by simp [hnew], ?_⟩
    have hunit : (if (first :: tail).head?.any fun f => f.frame.timestamp != it.frame.timestamp
        then [] else first :: tail) ++ [it] = [it] := by simp [hnew]
    rw [hunit]
    refine ⟨nofun, ?_, ?_⟩
    · intro x hx y hy
      rw [mem_singleton.mp hx, mem_singleton.mp hy]
    intro x hx y hy
    rw [mem_singleton.mp hy]
    rw [getLast?_append_of_ne_nil _ (by simp)] at hx
    rw [h.timestamp x (mem_of_getLast? hx) first mem_cons_self]
    exact hnew

/-- The next decodable temporal unit of the frames, with its place in the buffer. -/
structure IsNext (history : DecodedFramesHistory) (frames : List FrameInfo) (u : TemporalUnit)
    (pre unit post : List FrameInfo) : Prop where
  isUnit : IsTemporalUnit frames pre unit post
  decodable : OutsideDecoded history unit
  first : unit.head?.map frame = some u.firstFrame
  last : unit.getLast?.map frame = some u.lastFrame
  -- No decodable unit ends earlier.
  least : ∀ pre' unit' post', IsTemporalUnit frames pre' unit' post' →
    OutsideDecoded history unit' → (pre ++ unit).length ≤ (pre' ++ unit').length

lemma IsNext.ids_le {post' : List FrameInfo}
    (h : IsNext history frames u pre unit post) (hasc : Ascending frames)
    (h' : IsTemporalUnit frames pre' unit' post') (hdec : OutsideDecoded history unit') :
    (∀ it ∈ unit.head?, ∀ it' ∈ unit', it.frame.id ≤ it'.frame.id) ∧
      ∀ it ∈ unit, ∀ it' ∈ unit'.getLast?, it.frame.id ≤ it'.frame.id := by
  obtain ⟨c, hc⟩ : ∃ c, pre' ++ unit' = pre ++ (unit ++ c) := by
    have hlen := h.least pre' unit' post' h' hdec
    rcases append_eq_append_iff.mp (h.isUnit.split.symm.trans h'.split) with
      ⟨c, hc, -⟩ | ⟨c, hc, -⟩
    · exact ⟨c, by rw [hc, append_assoc]⟩
    rw [hc, length_append] at hlen
    have hnil : c = [] := length_eq_zero_iff.mp (by omega)
    subst hnil
    rw [append_nil] at hc
    exact ⟨[], by rw [append_nil, hc]⟩
  rw [h'.split] at hasc
  have hasc' := (pairwise_append.mp hasc).1
  constructor
  · intro first hfirst it' hit'
    -- The next unit does not begin inside the other one.
    obtain ⟨d, hd, hascd⟩ : ∃ d, d ++ unit' = unit ++ c ∧ Ascending (d ++ unit') := by
      rcases append_eq_append_iff.mp hc with ⟨d, hp, hu⟩ | ⟨d, hp, hu⟩
      · have hnil := h'.sameTime.not_inside h.isUnit.sameTime hp hu
          fun it hit => mem_append_left c hit
        subst hnil
        exact ⟨[], hu, (pairwise_append.mp hasc').2.1⟩
      · rw [hp, append_assoc] at hasc'
        exact ⟨d, hu.symm, (pairwise_append.mp hasc').2.1⟩
    obtain ⟨tail, rfl⟩ := head?_eq_some_iff.mp hfirst
    have hmem : it' ∈ d ++ unit' := mem_append_right d hit'
    rw [hd, cons_append] at hmem hascd
    rcases mem_cons.mp hmem with rfl | hmem
    · exact le_rfl
    · exact Int.le_of_lt ((pairwise_cons.mp hascd).1 it' hmem)
  · intro it hit last hlast
    have hmem : it ∈ pre' ++ unit' := by
      rw [hc]
      exact mem_append_right pre (mem_append_left c hit)
    have hlast' : (pre' ++ unit').getLast? = some last := by
      rw [getLast?_append_of_ne_nil _ h'.sameTime.nonempty]
      exact hlast
    obtain ⟨init, hinit⟩ := getLast?_eq_some_iff.mp hlast'
    rw [hinit] at hmem hasc'
    rcases mem_append.mp hmem with hmem | hmem
    · exact Int.le_of_lt ((pairwise_append.mp hasc').2.2 it hmem last mem_cons_self)
    · rw [mem_singleton.mp hmem]

def FindsNext (history : DecodedFramesHistory) (frames : List FrameInfo) :
    Option TemporalUnit → Prop
  | none => ∀ pre unit post, IsTemporalUnit frames pre unit post → ¬ OutsideDecoded history unit
  | some u => ∃ pre unit post, IsNext history frames u pre unit post

lemma Scan.add_next {last : EncodedFrame}
    (h : s.next = some u) : (s.add unit last).next = some u := by
  unfold Scan.add
  split
  · exact h
  rw [h]
  rfl

lemma scanUnits_next {limit : Int}
    (h : s.next = some u) : (scanUnits history limit rest unit s).next = some u := by
  induction rest generalizing unit s with
  | nil => exact h
  | cons it rest ih =>
    unfold scanUnits
    split
    · exact h
    dsimp only
    split
    · exact ih (Scan.add_next h)
    · exact ih h

lemma IsTemporalUnit.ends_after {it : FrameInfo}
    (h : IsTemporalUnit frames pre unit post) (hsplit : frames = visited ++ it :: rest)
    (hlt : visited.length < (pre ++ unit).length) :
    ∃ c, pre ++ unit = visited ++ it :: c ∧ rest = c ++ post := by
  rcases append_eq_append_iff.mp (hsplit.symm.trans h.split) with ⟨c, hc, hrest⟩ | ⟨c, hc, -⟩
  · cases c with
    | nil =>
      rw [hc, append_nil] at hlt
      omega
    | cons x c =>
      obtain ⟨rfl, htail⟩ := cons.inj hrest
      exact ⟨c, hc, htail⟩
  · rw [hc, length_append] at hlt
    omega

lemma getLast?_extendUnit (unit : List FrameInfo) (it : FrameInfo) :
    (extendUnit unit it).getLast? = some it := getLast?_concat

/-- The loop finds the first decodable unit that ends after the frames `pre ++ unit`,
given that all decodable units end up to the limit. -/
lemma scanUnits_spec {limit : Int} (hasc : Ascending frames)
    (hlim : ∀ pre unit post, IsTemporalUnit frames pre unit post → OutsideDecoded history unit →
      ∀ it ∈ unit.getLast?, it.frame.id ≤ limit) (hsplit : frames = pre ++ unit ++ rest)
    (hunit : unit = [] ∧ pre = [] ∨ SameTime pre unit) (hs : s.next = none)
    (hlat : ∀ pre' unit' post', IsTemporalUnit frames pre' unit' post' →
      OutsideDecoded history unit' → (pre ++ unit).length < (pre' ++ unit').length) :
    FindsNext history frames (scanUnits history limit rest unit s).next := by
  induction rest generalizing pre unit s with
  | nil =>
    unfold scanUnits
    rw [hs]
    intro pre' unit' post' hu hdec
    have hlt := hlat pre' unit' post' hu hdec
    have hlen := congrArg length (hsplit.symm.trans hu.split)
    simp only [append_nil, length_append] at hlen hlt
    omega
  | cons it rest ih =>
    unfold scanUnits
    by_cases hbreak : limit < it.frame.id
    · rw [if_pos hbreak]
      -- The decodable units end with an id up to the limit, hence before `it`.
      rw [hs]
      intro pre' unit' post' hu hdec
      have hlt := hlat pre' unit' post' hu hdec
      obtain ⟨last, hlast⟩ : ∃ last, unit'.getLast? = some last :=
        ⟨_, getLast?_eq_some_getLast hu.sameTime.nonempty⟩
      have hle := hlim pre' unit' post' hu hdec last hlast
      obtain ⟨c, hc, hrest⟩ := hu.ends_after hsplit hlt
      have hmem : last ∈ (it :: c).getLast? := by
        have hboth := congrArg getLast? hc
        rw [getLast?_append_of_ne_nil _ hu.sameTime.nonempty, hlast,
          getLast?_append_of_ne_nil _ (by simp)] at hboth
        exact hboth.symm
      rcases mem_cons.mp (mem_of_getLast? hmem) with rfl | hin
      · omega
      rw [hsplit] at hasc
      have htail := (pairwise_append.mp hasc).2.1
      rw [hrest] at htail
      have := (pairwise_cons.mp htail).1 last (mem_append_left post' hin)
      omega
    · rw [if_neg hbreak]
      obtain ⟨pre1, hpre₁, hsame⟩ := SameTime.extend hunit it
      have hsplit₁ : frames = pre1 ++ extendUnit unit it ++ rest := by
        rw [hsplit, hpre₁]
        simp
      have hlength : (pre1 ++ extendUnit unit it).length = (pre ++ unit).length + 1 := by
        rw [hpre₁, length_append, length_singleton]
      dsimp only
      split
      · next hcond =>
        rw [Bool.and_eq_true, temporalUnitDecodable_iff] at hcond
        obtain ⟨first, tail, hcons⟩ := exists_cons_of_ne_nil hsame.nonempty
        have hnext : (s.add (extendUnit unit it) it.frame).next = some ⟨first.frame, it.frame⟩ := by
          unfold Scan.add
          rw [hcons, head?_cons, hs]
          rfl
        rw [scanUnits_next hnext]
        refine ⟨pre1, extendUnit unit it, rest, ⟨hsplit₁, hsame, ?_⟩, hcond.2, ?_, ?_, ?_⟩
        · intro last hlast
          rw [getLast?_extendUnit] at hlast
          rw [← Option.some.inj hlast]
          exact hcond.1
        · rw [hcons]
          rfl
        · rw [getLast?_extendUnit]
          rfl
        · intro pre' unit' post' hu hdec
          have := hlat pre' unit' post' hu hdec
          omega
      · next hcond =>
        refine ih hsplit₁ (.inr hsame) hs fun pre' unit' post' hu hdec => ?_
        refine Nat.lt_of_le_of_ne (by have := hlat pre' unit' post' hu hdec; omega) ?_
        -- The unit that ends with `it` is the current one, and it is not decodable.
        intro hends
        have hprefix : pre1 ++ extendUnit unit it = pre' ++ unit' :=
          (append_inj (hsplit₁.symm.trans hu.split) hends).1
        obtain rfl := hsame.unique hu.sameTime hprefix
        refine hcond ?_
        rw [Bool.and_eq_true, temporalUnitDecodable_iff]
        exact ⟨hu.last it (getLast?_extendUnit unit it), hdec⟩

lemma OutsideDecoded.continuous
    (hdec : OutsideDecoded history unit) (hsplit : frames = pre ++ unit ++ post)
    (hasc : Ascending frames) (hvalid : ∀ it ∈ frames, it.frame.validReferences = true)
    (hcompl : Complete history frames) : ∀ it ∈ unit, it.continuous := by
  have hsub : ∀ it ∈ unit, it ∈ frames := fun it hit => by
    rw [hsplit]
    exact mem_append_left post (mem_append_right pre hit)
  have hunit : Ascending unit := by
    rw [hsplit] at hasc
    exact (pairwise_append.mp (pairwise_append.mp hasc).1).2.1
  -- The references inside the unit point to the frames before.
  have hfrom : ∀ rest visited, unit = visited ++ rest → (∀ it ∈ visited, it.continuous) →
      ∀ it ∈ rest, it.continuous := by
    intro rest
    induction rest with
    | nil => exact fun _ _ _ it hit => absurd hit not_mem_nil
    | cons x rest ih =>
      intro visited heq hvisited
      have hx : x ∈ unit := heq ▸ mem_append_right _ mem_cons_self
      have hcont : x.continuous := by
        refine hcompl x (hsub x hx) fun r hr => ?_
        refine (hdec x hx r hr).imp id ?_
        rintro ⟨it, hit, hid⟩
        refine ⟨it, hsub it hit, hid, ?_⟩
        have hlt := reference_lt (hvalid x (hsub x hx)) hr
        rw [heq] at hit hunit
        rcases mem_append.mp hit with hit | hit
        · exact hvisited it hit
        rcases mem_cons.mp hit with rfl | hit
        · omega
        have := (pairwise_cons.mp (pairwise_append.mp hunit).2.1).1 it hit
        omega
      intro it hit
      rcases mem_cons.mp hit with rfl | hit
      · exact hcont
      refine ih (visited ++ [x]) (by rw [heq]; simp) ?_ it hit
      exact forall_mem_append.mpr ⟨hvisited, forall_mem_singleton.mpr hcont⟩
  exact hfrom unit [] rfl fun it hit => absurd hit not_mem_nil

lemma findNext_spec (hasc : Ascending b.frames)
    (hvalid : ∀ it ∈ b.frames, it.frame.validReferences = true)
    (hcompl : Complete b.decodedFrameHistory b.frames) (htrk : b.Tracked b.frames) :
    FindsNext b.decodedFrameHistory b.frames
        b.findNextAndLastDecodableTemporalUnit.nextDecodableTemporalUnit ∧
      b.findNextAndLastDecodableTemporalUnit.decodableTemporalUnitsInfo.isSome =
        b.findNextAndLastDecodableTemporalUnit.nextDecodableTemporalUnit.isSome := by
  -- The last frame of a decodable unit is continuous, so it is tracked.
  have hlim : ∀ pre unit post, IsTemporalUnit b.frames pre unit post →
      OutsideDecoded b.decodedFrameHistory unit → ∀ it ∈ unit.getLast?,
        ∃ l ∈ b.lastContinuousTemporalUnitFrameId, it.frame.id ≤ l := by
    intro pre unit post hu hdec it hit
    have hmem := mem_of_getLast? hit
    refine htrk it ?_ (hdec.continuous hu.split hasc hvalid hcompl it hmem) (hu.last it hit)
    rw [hu.split]
    exact mem_append_left post (mem_append_right pre hmem)
  unfold findNextAndLastDecodableTemporalUnit
  cases hlast : b.lastContinuousTemporalUnitFrameId with
  | none =>
    refine ⟨?_, rfl⟩
    intro pre unit post hu hdec
    obtain ⟨l, hl, -⟩ := hlim pre unit post hu hdec _
      (getLast?_eq_some_getLast hu.sameTime.nonempty)
    rw [hlast] at hl
    cases hl
  | some limit =>
    refine ⟨?_, Option.isSome_map⟩
    have hsplit : b.frames = [] ++ [] ++ b.frames := rfl
    refine scanUnits_spec hasc ?_ hsplit (.inl ⟨rfl, rfl⟩) rfl ?_
    · intro pre unit post hu hdec it hit
      obtain ⟨l, hl, hle⟩ := hlim pre unit post hu hdec it hit
      rw [hlast] at hl
      rw [Option.some.inj hl]
      exact hle
    · intro pre unit post hu _
      rw [append_nil, length_append]
      have := length_pos_iff.mpr hu.sameTime.nonempty
      exact Nat.lt_of_lt_of_le this (Nat.le_add_left _ _)

end FrameBuffer

end WebRtc.VideoCoding
