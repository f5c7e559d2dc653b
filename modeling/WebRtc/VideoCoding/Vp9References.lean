import WebRtc.VideoCoding.RtpVp9RefFinder

/-!
# WebRTC — which references a VP9 frame keeps

The loop of `ManageFrameGof` counts `num_references` down for a reference to be left out, but has
already written it, so what it leaves is always a front part of the listed references
(`populate_eq_take`): the loop is right exactly when no reference but the last precedes an
up-switch (`populate_eq_filter_iff`). Flattening loses nothing, because the unwrapped picture ids
have the picture ids as their low 15 bits (`unwrapAll_injective`).
-/

namespace WebRtc.VideoCoding

open Numerics Lib List

namespace RtpFrameObject

/-- The references of a flattened frame to pictures of its own spatial layer.
The one reference of another layer is to the layer below. -/
def interPictureReferences (f : RtpFrameObject) : List Int :=
  f.references.filter fun r => (f.id - r) % maxSpatialLayers = 0

end RtpFrameObject

namespace RtpVp9RefFinder

/-! ## The loop -/

variable (ignored : PictureId → Bool)

/-- Whatever the loop leaves in the frame is a front part of the listed
references, and it is no shorter than a part that was passed while the count
still covered it. -/
lemma populate_eq_take {m : Nat} (rest : List PictureId) :
    ∀ (written : List PictureId) (num : Nat), m ≤ written.length → m ≤ num →
      num ≤ (written ++ rest).length →
      ∃ n, m ≤ n ∧
        populate ignored (written ++ rest) rest.length written num
          = (written ++ rest).take n := by
  induction rest with
  | nil =>
    intro written num _ hnum hle
    exact ⟨num, hnum, by simp [populate]⟩
  | cons r rest ih =>
    intro written num hm hnum hle
    rw [length_cons, populate]
    by_cases hlt : written.length < num
    · have hget : (written ++ r :: rest)[written.length]? = some r := by simp
      have hsplit : written ++ r :: rest = (written ++ [r]) ++ rest := by simp
      rw [if_pos hlt, hget]
      rw [hsplit] at hle ⊢
      refine ih (written ++ [r]) _ ?_ ?_ ?_
      · rw [length_append]
        omega
      · split <;> omega
      · split <;> omega
    · rw [if_neg hlt]
      refine ⟨num, hnum, ?_⟩
      rw [take_append_of_le_length (by omega)]

/-- The loop leaves the references that are not to be ignored exactly when none
but the last one is to be ignored. Stated for the loop on its way, with nothing
ignored so far. -/
lemma populate_eq_filter_iff (rest : List PictureId) :
    ∀ written : List PictureId, (∀ r ∈ written, ignored r = false) →
      (populate ignored (written ++ rest) rest.length written (written ++ rest).length
          = written ++ rest.filter (fun r => !ignored r)
        ↔ ∀ r ∈ rest.dropLast, ignored r = false) := by
  induction rest with
  | nil =>
    intro written _
    simp [populate]
  | cons r rest ih =>
    intro written hwritten
    have hsplit : written ++ r :: rest = (written ++ [r]) ++ rest := by simp
    have hget : (written ++ r :: rest)[written.length]? = some r := by simp
    have hlt : written.length < (written ++ r :: rest).length := by simp
    rw [length_cons, populate, if_pos hlt, hget]
    dsimp only
    cases hr : ignored r with
    | false =>
      have hnext : ∀ x ∈ written ++ [r], ignored x = false := by
        exact forall_mem_append.mpr ⟨hwritten, forall_mem_singleton.mpr hr⟩
      have hdrop : (∀ x ∈ (r :: rest).dropLast, ignored x = false) ↔
          ∀ x ∈ rest.dropLast, ignored x = false := by
        cases rest with
        | nil => simp
        | cons r' rest => simp [hr]
      rw [hdrop, ← ih (written ++ [r]) hnext, hsplit]
      simp [hr]
    | true =>
      cases rest with
      | nil =>
        -- Only the last entry is counted out, and it is the one that goes.
        simp [populate, hr]
      | cons r' rest =>
        -- The reference stays: the count still covers it.
        have hfalse : ¬ ∀ x ∈ (r :: r' :: rest).dropLast, ignored x = false := by
          intro h
          have := h r (by simp)
          rw [hr] at this
          cases this
        rw [iff_false_right hfalse, hsplit]
        obtain ⟨n, hn, htake⟩ := populate_eq_take ignored
          (m := (written ++ [r]).length) (r' :: rest) (written ++ [r])
          (((written ++ [r]) ++ r' :: rest).length - 1) le_rfl (by simp) (by simp)
        intro heq
        have hmem : r ∈ ((written ++ [r]) ++ r' :: rest).take n := by
          rw [take_append, take_of_length_le hn]
          simp
        rw [if_pos rfl, htake] at heq
        rw [heq] at hmem
        rcases mem_append.mp hmem with hmem | hmem
        · rw [hwritten r hmem] at hr
          cases hr
        have := (mem_filter.mp hmem).2
        rw [hr] at this
        cases this

/-! ## Flattening -/

lemma wrap_unwrapAll (refs : List PictureId) :
    ∀ u : SeqNumUnwrapper 15, (unwrapAll u refs).1.map (wrap 15) = refs := by
  induction refs with
  | nil =>
    intro u
    rfl
  | cons r refs ih =>
    intro u
    show wrap 15 (u.peekUnwrap r) :: (unwrapAll (u.unwrap r).2 refs).1.map (wrap 15) = r :: refs
    rw [SeqNumUnwrapper.wrap_peekUnwrap, ih]

variable {refs' refs : List PictureId}

lemma unwrapAll_injective {u : SeqNumUnwrapper 15}
    (h : (unwrapAll u refs).1 = (unwrapAll u refs').1) : refs = refs' := by
  rw [← wrap_unwrapAll refs u, h, wrap_unwrapAll]

variable (s : RtpVp9RefFinder)

variable (frame : RtpFrameObject)

/-- Picture ids as they are flattened for a frame: unwrapped one after the
other, and spread over the spatial layers. -/
def flattened (refs : List PictureId) : List Int :=
  (unwrapAll s.unwrapper refs).1.map fun x : Int => x * maxSpatialLayers + frame.spatialIndex

lemma flattened_inj {s : RtpVp9RefFinder} {frame : RtpFrameObject} :
    s.flattened frame refs = s.flattened frame refs' ↔ refs = refs' := by
  constructor
  · intro h
    have hinj : Function.Injective fun x : Int => x * maxSpatialLayers + frame.spatialIndex := by
      intro x y hxy
      simp only [maxSpatialLayers] at hxy
      omega
    exact unwrapAll_injective (hinj.list_map h)
  · intro h
    rw [h]

/-- The references of the frame's own layer are the flattened ones: the
reference to the layer below is off by one. -/
lemma interPictureReferences_flatten (refs : List PictureId) (interLayer : Bool) :
    (s.flattenFrameIdAndRefs frame refs interLayer).1.interPictureReferences
      = s.flattened frame refs := by
  unfold flattenFrameIdAndRefs RtpFrameObject.interPictureReferences flattened
  generalize unwrapAll s.unwrapper refs = unwrapped
  obtain ⟨unwrapped, u⟩ := unwrapped
  dsimp only
  have hown : ∀ picture : Int, ∀ r ∈ unwrapped.map fun x : Int => x * maxSpatialLayers + frame.spatialIndex,
      (picture * maxSpatialLayers + frame.spatialIndex - r) % maxSpatialLayers = 0 := by
    intro picture r hr
    obtain ⟨x, _, rfl⟩ := mem_map.mp hr
    simp only [maxSpatialLayers]
    omega
  have hkeep := fun picture =>
    filter_eq_self.mpr fun r hr => decide_eq_true (hown picture r hr)
  have hbel : ∀ picture : Int,
      [picture * maxSpatialLayers + frame.spatialIndex - 1].filter
        (fun r => (picture * maxSpatialLayers + frame.spatialIndex - r) % maxSpatialLayers = 0)
        = [] := by
    intro picture
    simp [maxSpatialLayers]
  split
  · rw [filter_append, hkeep, hbel, append_nil]
  · exact hkeep _

/-! ## What the steps before the loop leave alone -/

structure SameForReferences (s s' : RtpVp9RefFinder) : Prop where
  structures : s'.scalabilityStructures = s.scalabilityStructures
  upSwitch : s'.upSwitch = s.upSwitch
  unwrapper : s'.unwrapper = s.unwrapper

lemma SameForReferences.trans {s1 s2 s3 : RtpVp9RefFinder} (h : SameForReferences s1 s2)
    (h' : SameForReferences s2 s3) : SameForReferences s1 s3 where
  structures := h'.structures.trans h.structures
  upSwitch := h'.upSwitch.trans h.upSwitch
  unwrapper := h'.unwrapper.trans h.unwrapper

lemma markMissing_same (gof : GofInfoVP9) (fuel : Nat) :
    ∀ (i : Nat) (last : PictureId) (s : RtpVp9RefFinder),
      SameForReferences s (markMissing gof fuel i last s).1 := by
  induction fuel with
  | zero =>
    intro i last s
    exact ⟨rfl, rfl, rfl⟩
  | succ fuel ih =>
    intro i last s
    rw [markMissing]
    split
    · exact ⟨rfl, rfl, rfl⟩
    refine SameForReferences.trans ?_ (ih _ _ _)
    exact ⟨rfl, rfl, rfl⟩

lemma frameReceivedVp9_same (p : PictureId) (key : Int) (info : GofInfo) :
    SameForReferences s (s.frameReceivedVp9 p key info) := by
  unfold frameReceivedVp9
  dsimp only
  split
  · have hmark := markMissing_same (s.structureOf info)
      (forwardDiff (info.lastPictureId + 1) p).toNat
      ((s.structureOf info).gofIdx info.lastPictureId) (info.lastPictureId + 1) s
    split
    · next heq =>
      rw [heq] at hmark
      exact hmark
    next heq =>
    rw [heq] at hmark
    exact ⟨hmark.structures, hmark.upSwitch, hmark.unwrapper⟩
  · split <;> exact ⟨rfl, rfl, rfl⟩

lemma findGof_keeps (tl0 : Int) : (s.findGof frame tl0).1.upSwitch = s.upSwitch ∧
    (s.findGof frame tl0).1.unwrapper = s.unwrapper := by
  unfold findGof
  dsimp only
  split
  · split
    · exact ⟨rfl, rfl⟩
    by_cases htl : frame.header.temporalIdx = 0
    · simp only [htl, if_true]
      split <;> exact ⟨rfl, rfl⟩
    simp only [htl, if_false]
    split <;> exact ⟨rfl, rfl⟩
  split
  · exact ⟨rfl, rfl⟩
  split
  · exact ⟨rfl, rfl⟩
  split
  · split <;> exact ⟨rfl, rfl⟩
  · exact ⟨rfl, rfl⟩

/-! ## The frame that is handed off -/

def gofOf (tl0 : Int) : Option GofInfoVP9 :=
  match s.findGof frame tl0 with
  | (s, .ok info) => some (s.structureOf info)
  | (_, .error _) => none

/-- Whether a reference of a frame precedes an up-switch, by the up-switch map
that the frame itself has been entered in. -/
def precedesUpSwitch (r : PictureId) : Bool :=
  (s.updateUpSwitch frame).upSwitchInIntervalVp9 frame.pictureId frame.header.temporalIdx r

lemma manageFrameGof_handOff {s s' : RtpVp9RefFinder} {frame handed : RtpFrameObject} {tl0 : Int}
    {gof : GofInfoVP9} (hgof : s.gofOf frame tl0 = some gof)
    (hpredicted : frame.header.interPicPredicted = true)
    (h : s.manageFrameGof frame tl0 = (.handOff, handed, s')) :
    handed.interPictureReferences = s.flattened frame
      (populate (s.precedesUpSwitch frame) (gof.listed frame.pictureId)
        (gof.listed frame.pictureId).length [] (gof.listed frame.pictureId).length) := by
  have hdelta : frame.frameType = .delta := by simp [RtpFrameObject.frameType, hpredicted]
  obtain ⟨hswitch, hunwrap⟩ := s.findGof_keeps frame tl0
  unfold manageFrameGof at h
  unfold gofOf at hgof
  generalize s.findGof frame tl0 = found at h hgof hswitch hunwrap
  obtain ⟨s1, result⟩ := found
  cases result with
  | error => cases hgof
  | ok info =>
    cases hgof
    dsimp only at hswitch hunwrap
    simp only [hdelta, reduceCtorEq, decide_false, Bool.and_false, Bool.false_eq_true, if_false,
      hpredicted, if_true] at h
    have hrecv := frameReceivedVp9_same
      { s1 with gofInfo := s1.gofInfo.filterKeys fun k => tl0 - maxGofSaved ≤ k }
      frame.pictureId tl0 info
    generalize frameReceivedVp9 _ frame.pictureId tl0 info = s2 at h hrecv
    split at h
    · cases h
    split at h
    · cases h
    have hstruct : (s2.updateUpSwitch frame).structureOf info = s1.structureOf info :=
      congrFun hrecv.structures info.gof
    have hup : ∀ r, (s2.updateUpSwitch frame).upSwitchInIntervalVp9 frame.pictureId
        frame.header.temporalIdx r = s.precedesUpSwitch frame r := by
      intro r
      simp only [precedesUpSwitch, upSwitchInIntervalVp9, updateUpSwitch, hrecv.upSwitch, hswitch]
    have hhand := interPictureReferences_flatten (s2.updateUpSwitch frame) frame
      ((s2.updateUpSwitch frame).populateReferences frame
        ((s2.updateUpSwitch frame).structureOf info)) frame.header.interLayerPredicted
    have hfirst : handed = _ := (congrArg (fun r => r.2.1) h).symm
    rw [hfirst]
    refine hhand.trans ?_
    have hflat : ∀ refs, (s2.updateUpSwitch frame).flattened frame refs
        = s.flattened frame refs := by
      intro refs
      have hu : (s2.updateUpSwitch frame).unwrapper = s.unwrapper :=
        hrecv.unwrapper.trans hunwrap
      rw [flattened, flattened, hu]
    rw [hflat, populateReferences, hstruct, funext hup]

/-- A predicted frame that is handed off has exactly those references of its
structure that do not precede an up-switch, in order, if and only if no listed
reference but the last one precedes an up-switch. -/
theorem manageFrameGof_references_iff {s s' : RtpVp9RefFinder} {frame handed : RtpFrameObject}
    {tl0 : Int} {gof : GofInfoVP9} (hgof : s.gofOf frame tl0 = some gof)
    (hpredicted : frame.header.interPicPredicted = true)
    (h : s.manageFrameGof frame tl0 = (.handOff, handed, s')) :
    handed.interPictureReferences = s.flattened frame
        ((gof.listed frame.pictureId).filter fun r => !s.precedesUpSwitch frame r) ↔
      ∀ r ∈ (gof.listed frame.pictureId).dropLast, s.precedesUpSwitch frame r = false := by
  rw [manageFrameGof_handOff hgof hpredicted h, flattened_inj]
  exact populate_eq_filter_iff _ (gof.listed frame.pictureId) [] (by simp)

/-- Two temporal layers, with the pictures that a frame of the upper one refers to, counted back. -/
def twoLayers (upper : List Nat) : GofInfoVP9 := ⟨[⟨0, [2]⟩, ⟨1, upper⟩], 0⟩

def layerFrame (upper : List Nat) (pictureId : BitVec 16) (temporalIdx : Nat) (tl0PicIdx : BitVec 8)
    (upSwitch predicted : Bool) : RtpFrameObject where
  header :=
    { pictureId, temporalIdx, spatialIdx := 0, flexibleMode := false,
      tl0PicIdx := some tl0PicIdx, temporalUpSwitch := upSwitch,
      interPicPredicted := predicted, interLayerPredicted := false,
      ssDataAvailable := !predicted, gof := twoLayers upper }

/-- The finder after the key frame with picture id 0 and the base layer frame
with picture id 2, which is an up-switch. -/
def afterBaseLayer (upper : List Nat) : RtpVp9RefFinder :=
  ((({} : RtpVp9RefFinder).manageFrame (layerFrame upper 0 0 0 false false)).2.manageFrame
    (layerFrame upper 2 0 1 true true)).2

def upperFrame (upper : List Nat) : RtpFrameObject := { layerFrame upper 3 1 1 false true with id := 3 }

/-- Of the references 2 and 1 of the frame, the last one precedes the up-switch 2 and is left out. -/
theorem manageFrameGof_references_after_upSwitch :
    (afterBaseLayer [1, 2]).precedesUpSwitch (upperFrame [1, 2]) 1 = true ∧
    ((afterBaseLayer [1, 2]).manageFrameGof (upperFrame [1, 2]) 1).2.1.interPictureReferences
      = (afterBaseLayer [1, 2]).flattened (upperFrame [1, 2])
        (((twoLayers [1, 2]).listed 3).filter fun r =>
          !(afterBaseLayer [1, 2]).precedesUpSwitch (upperFrame [1, 2]) r) := by
  refine ⟨by decide +kernel, ?_⟩
  have hhand : ((afterBaseLayer [1, 2]).manageFrameGof (upperFrame [1, 2]) 1).1 = .handOff := by
    decide +kernel
  have hgof : (afterBaseLayer [1, 2]).gofOf (upperFrame [1, 2]) 1 = some (twoLayers [1, 2]) := by
    decide +kernel
  have hres : ∀ r : FrameDecision × RtpFrameObject × RtpVp9RefFinder, r.1 = .handOff →
      r = (.handOff, r.2.1, r.2.2) := by
    rintro ⟨_, _, _⟩ rfl
    rfl
  have hiff := manageFrameGof_references_iff hgof (by decide) (hres _ hhand)
  -- One reference at a time: the ids themselves are too many to go through.
  have hnone : ((twoLayers [1, 2]).listed 3).dropLast.all
      (fun r => !(afterBaseLayer [1, 2]).precedesUpSwitch (upperFrame [1, 2]) r) = true := by
    decide +kernel
  exact hiff.mpr fun r hr => by simpa using all_eq_true.mp hnone r hr

/-- Of the references 1 and 2 of the frame, the first precedes the up-switch 2.
The frame is handed off with the reference 1, and without the reference 2. -/
theorem upSwitch_loses_other_reference :
    ((afterBaseLayer [2, 1]).manageFrameGof (upperFrame [2, 1]) 1).1 = .handOff ∧
      (afterBaseLayer [2, 1]).gofOf (upperFrame [2, 1]) 1 = some (twoLayers [2, 1]) ∧
      ((twoLayers [2, 1]).listed 3).filter (fun r =>
        !(afterBaseLayer [2, 1]).precedesUpSwitch (upperFrame [2, 1]) r) = [2] ∧
      (afterBaseLayer [2, 1]).flattened (upperFrame [2, 1]) [2] = [2 * 5] ∧
      ((afterBaseLayer [2, 1]).manageFrameGof (upperFrame [2, 1]) 1).2.1.interPictureReferences
        = [1 * 5] := by
  decide +kernel

end RtpVp9RefFinder

end WebRtc.VideoCoding
