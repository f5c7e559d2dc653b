import WebRtc.Lib.Run
import WebRtc.VideoCoding.FrameBufferUnits

/-!
# WebRTC — runs of the frame buffer

The frame buffer under any sequence of its calls. `InsertFrame` is unconditional apart from the
frame ids, which the history must be able to tell apart (`DecodedFramesHistory.Regular`). By `Inv`
the history agrees with the extracted frames, the stored ones are newer, the continuity flags are
complete, and the next decodable unit is the first one there is.
-/

namespace WebRtc.VideoCoding

open Lib DecodedFramesHistory FrameBuffer List FrameInfo

lemma takeWhile_dropWhile_append {α : Type*} (p : α → Bool) (l l' : List α)
    (hl : ∀ x ∈ l, p x = true) (hl' : ∀ x ∈ l', p x = false) :
    (l ++ l').takeWhile p = l ∧ (l ++ l').dropWhile p = l' := by
  rw [takeWhile_append_of_pos hl, dropWhile_append_of_pos hl]
  cases l' with
  | nil => exact ⟨by simp, rfl⟩
  | cons x l' =>
    have hx := hl' x mem_cons_self
    rw [takeWhile_cons_of_neg (by simp [hx]), dropWhile_cons_of_neg (by simp [hx])]
    exact ⟨append_nil l, rfl⟩

namespace FrameBuffer

variable {b : FrameBuffer} {decoded : List Int}

/-- The frame buffer between two calls; `decoded` are the ids of the frames that were
extracted since it was cleared. -/
structure Inv (b : FrameBuffer) (decoded : List Int) : Prop where
  history : b.decodedFrameHistory.Agrees decoded
  ascending : Ascending b.frames
  valid : ∀ it ∈ b.frames, it.frame.validReferences = true
  regular : ∀ it ∈ b.frames, Regular b.decodedFrameHistory.windowSize it.frame.id ∧
    ∀ r ∈ it.frame.references, Regular b.decodedFrameHistory.windowSize r
  newer : ∀ d ∈ decoded, ∀ it ∈ b.frames, d < it.frame.id
  complete : Complete b.decodedFrameHistory b.frames
  tracked : b.Tracked b.frames
  found : FindsNext b.decodedFrameHistory b.frames b.nextDecodableTemporalUnit ∧
    b.decodableTemporalUnitsInfo.isSome = b.nextDecodableTemporalUnit.isSome

lemma inv_of_empty (hhist : b.decodedFrameHistory.Agrees decoded) (hfrs : b.frames = [])
    (hnext : b.nextDecodableTemporalUnit = none) (hinfo : b.decodableTemporalUnitsInfo = none) :
    b.Inv decoded := by
  have hnone : ∀ it, it ∉ b.frames := fun it hit => absurd (hfrs ▸ hit) not_mem_nil
  constructor
  case history => exact hhist
  case ascending => rw [hfrs]; exact .nil
  case valid => exact fun it hit => absurd hit (hnone it)
  case regular => exact fun it hit => absurd hit (hnone it)
  case newer => exact fun _ _ it hit => absurd hit (hnone it)
  case complete => exact fun it hit => absurd hit (hnone it)
  case tracked => exact fun it hit => absurd hit (hnone it)
  case found =>
    rw [hnext, hinfo]
    refine ⟨fun pre unit post hu => ?_, rfl⟩
    have hsplit := hu.split
    rw [hfrs] at hsplit
    have hunit : unit = [] := by
      have := congrArg length hsplit
      simp only [length_nil, length_append] at this
      exact length_eq_zero_iff.mp (by omega)
    exact absurd hunit hu.sameTime.nonempty

lemma inv_clear (b : FrameBuffer) : b.clear.Inv [] :=
  inv_of_empty (agrees_clear _) rfl rfl rfl

lemma inv_find (hhist : b.decodedFrameHistory.Agrees decoded) (hasc : Ascending b.frames)
    (hvalid : ∀ it ∈ b.frames, it.frame.validReferences = true)
    (hreg : ∀ it ∈ b.frames, Regular b.decodedFrameHistory.windowSize it.frame.id ∧
      ∀ r ∈ it.frame.references, Regular b.decodedFrameHistory.windowSize r)
    (hnwr : ∀ d ∈ decoded, ∀ it ∈ b.frames, d < it.frame.id)
    (hcompl : Complete b.decodedFrameHistory b.frames) (htrk : b.Tracked b.frames) :
    b.findNextAndLastDecodableTemporalUnit.Inv decoded := by
  have hfound := findNext_spec hasc hvalid hcompl htrk
  obtain ⟨hfrs, hhistory, hlast⟩ : b.findNextAndLastDecodableTemporalUnit.frames = b.frames ∧
      b.findNextAndLastDecodableTemporalUnit.decodedFrameHistory = b.decodedFrameHistory ∧
      b.findNextAndLastDecodableTemporalUnit.lastContinuousTemporalUnitFrameId =
        b.lastContinuousTemporalUnitFrameId := by
    unfold findNextAndLastDecodableTemporalUnit
    split <;> exact ⟨rfl, rfl, rfl⟩
  constructor
  case history => rw [hhistory]; exact hhist
  case ascending => rw [hfrs]; exact hasc
  case valid => rw [hfrs]; exact hvalid
  case regular => rw [hfrs, hhistory]; exact hreg
  case newer => rw [hfrs]; exact hnwr
  case complete => rw [hfrs, hhistory]; exact hcompl
  case tracked => unfold Tracked; rw [hfrs, hlast]; exact htrk
  case found => rw [hfrs, hhistory]; exact hfound

/-! ## Inserting a frame -/

variable {f : EncodedFrame}

lemma Ascending.split {frames : List FrameInfo} (h : Ascending frames) (n : Int) :
    ∃ older newer, frames = older ++ newer ∧ (∀ it ∈ older, it.frame.id < n) ∧
      ∀ it ∈ newer, n ≤ it.frame.id := by
  induction frames with
  | nil => exact ⟨[], [], rfl, fun _ hit => absurd hit not_mem_nil,
      fun _ hit => absurd hit not_mem_nil⟩
  | cons x frames ih =>
    obtain ⟨hx, htail⟩ := pairwise_cons.mp h
    by_cases hlt : x.frame.id < n
    · obtain ⟨older, newer, hsplit, holder, hnwr⟩ := ih htail
      exact ⟨x :: older, newer, by rw [hsplit]; rfl, forall_mem_cons.mpr ⟨hlt, holder⟩, hnwr⟩
    refine ⟨[], x :: frames, rfl, fun _ hit => absurd hit not_mem_nil, ?_⟩
    intro it hit
    rcases mem_cons.mp hit with rfl | hit
    · exact Int.not_lt.mp hlt
    have := hx it hit
    omega

lemma Inv.emplace (h : b.Inv decoded) (hvalid : f.validReferences = true)
    (hreg : Regular b.decodedFrameHistory.windowSize f.id ∧
      ∀ r ∈ f.references, Regular b.decodedFrameHistory.windowSize r)
    (hnwr : ∀ d ∈ decoded, d < f.id) (hfresh : ∀ it ∈ b.frames, it.frame.id ≠ f.id) :
    ((b.emplace f).propagateContinuity f.id).findNextAndLastDecodableTemporalUnit.Inv decoded := by
  obtain ⟨older, newer, hsplit, holder, hlat⟩ := h.ascending.split f.id
  have hlat' : ∀ it ∈ newer, f.id < it.frame.id := by
    intro it hit
    have hne := hfresh it (hsplit ▸ mem_append_right older hit)
    have hle := hlat it hit
    omega
  -- Insertion and propagation split the frames at the same place.
  obtain ⟨htake, hdrop⟩ := takeWhile_dropWhile_append
    (fun it : FrameInfo => decide (it.frame.id < f.id)) older newer
    (fun it hit => decide_eq_true (holder it hit))
    (fun it hit => decide_eq_false (Int.not_lt.mpr (hlat it hit)))
  obtain ⟨htake', hdrop'⟩ := takeWhile_dropWhile_append
    (fun it : FrameInfo => decide (it.frame.id < f.id)) older ({ frame := f } :: newer)
    (fun it hit => decide_eq_true (holder it hit))
    (forall_mem_cons.mpr ⟨decide_eq_false (Int.lt_irrefl _),
      fun it hit => decide_eq_false (Int.not_lt.mpr (hlat it hit))⟩)
  have hfrs : (b.emplace f).frames = older ++ { frame := f } :: newer := by
    unfold FrameBuffer.emplace
    rw [hsplit, htake, hdrop]
  -- What holds of the stored frames and of the new one holds of all.
  have hall : ∀ {P : FrameInfo → Prop}, P { frame := f } → (∀ it ∈ b.frames, P it) →
      ∀ it ∈ older ++ { frame := f } :: newer, P it := by
    intro P hf hP
    obtain ⟨hold, hnew⟩ := forall_mem_append.mp (hsplit ▸ hP)
    exact forall_mem_append.mpr ⟨hold, forall_mem_cons.mpr ⟨hf, hnew⟩⟩
  have hasc : Ascending (older ++ { frame := f } :: newer) := by
    have hasc := h.ascending
    rw [hsplit] at hasc
    obtain ⟨hold, hnew, hcross⟩ := pairwise_append.mp hasc
    refine pairwise_append.mpr ⟨hold, pairwise_cons.mpr ⟨hlat', hnew⟩, ?_⟩
    exact fun it hit => forall_mem_cons.mpr ⟨holder it hit, hcross it hit⟩
  have hcompleteOld : Complete (b.emplace f).decodedFrameHistory older := by
    intro it hit hreach
    refine h.complete it (hsplit ▸ mem_append_left newer hit) ?_
    rw [hsplit]
    exact hreach.append newer
  have htrk : (b.emplace f).Tracked (older ++ { frame := f } :: newer) :=
    hall nofun h.tracked
  have hprop := propagateFrom_spec hasc (hall hvalid h.valid) hcompleteOld htrk
  have hpropagate : (b.emplace f).propagateContinuity f.id =
      propagateFrom (b.emplace f) older ({ frame := f } :: newer) := by
    unfold propagateContinuity
    rw [hfrs, htake', hdrop']
  rw [hpropagate]
  generalize propagateFrom (b.emplace f) older ({ frame := f } :: newer) = b' at hprop
  have hhistory : b'.decodedFrameHistory = b.decodedFrameHistory := hprop.history
  -- The propagation changes flags only.
  have hflags : ∀ {P : EncodedFrame → Prop}, P f → (∀ it ∈ b.frames, P it.frame) →
      ∀ it ∈ b'.frames, P it.frame := by
    intro P hf hP it hit
    have hmem : it.frame ∈ (older ++ { frame := f } :: newer).map frame :=
      hprop.frames ▸ mem_map_of_mem hit
    obtain ⟨it', hit', heq⟩ := mem_map.mp hmem
    rw [← heq]
    exact hall (P := fun it => P it.frame) hf hP it' hit'
  refine inv_find (hhistory ▸ h.history) (hasc.of_map_frame hprop.frames)
    (hflags (P := fun g => g.validReferences = true) hvalid h.valid) ?_ ?_
    (by rw [hhistory]; exact hprop.complete) hprop.tracked
  · rw [hhistory]
    exact hflags (P := fun g => Regular b.decodedFrameHistory.windowSize g.id ∧
      ∀ r ∈ g.references, Regular b.decodedFrameHistory.windowSize r) hreg h.regular
  · intro d hd
    exact hflags (P := fun g => d < g.id) (hnwr d hd) (h.newer d hd)

def Meets (b : FrameBuffer) (decoded : List Int) (f : EncodedFrame) (b' : FrameBuffer) : Prop :=
  b' = b ∧ (∀ d ∈ decoded, d < f.id) ∨
    b'.Inv [] ∧ b'.decodedFrameHistory.windowSize = b.decodedFrameHistory.windowSize

variable {b' : FrameBuffer}

lemma passDecoded_meets (h : b.Inv decoded) (hb : b.passDecoded f = some b') :
    Meets b decoded f b' := by
  unfold passDecoded at hb
  rw [h.history.lastDecoded] at hb
  split at hb
  · split at hb
    · cases hb
      exact .inr ⟨inv_clear b, rfl⟩
    · cases hb
  next hlast =>
  refine .inl ⟨(Option.some.inj hb).symm, fun d hd => ?_⟩
  cases hl : decoded.getLast? with
  | none =>
    rw [getLast?_eq_none_iff.mp hl] at hd
    cases hd
  | some last =>
    rw [hl, Option.any_some, decide_eq_true_eq] at hlast
    have := h.history.le_last hl hd
    omega

lemma Meets.makeRoom {b1 : FrameBuffer} (h : Meets b decoded f b1)
    (hb : b1.makeRoom f = some b') : Meets b decoded f b' := by
  unfold FrameBuffer.makeRoom at hb
  split at hb
  · split at hb
    · cases hb
      refine .inr ⟨inv_clear b1, ?_⟩
      rcases h with ⟨rfl, -⟩ | ⟨-, hwin⟩
      · rfl
      · exact hwin
    · cases hb
  · exact Option.some.inj hb ▸ h

lemma Meets.inv (hmeets : Meets b decoded f b') (h : b.Inv decoded) :
    ∃ decoded', (decoded' = decoded ∨ decoded' = []) ∧ b'.Inv decoded' ∧
      (∀ d ∈ decoded', d < f.id) ∧
      b'.decodedFrameHistory.windowSize = b.decodedFrameHistory.windowSize := by
  rcases hmeets with ⟨rfl, hlt⟩ | ⟨hinv, hwin⟩
  · exact ⟨decoded, .inl rfl, h, hlt, rfl⟩
  · exact ⟨[], .inr rfl, hinv, fun d hd => absurd hd not_mem_nil, hwin⟩

lemma Inv.insertFrame (h : b.Inv decoded) (hreg : Regular b.decodedFrameHistory.windowSize f.id ∧
    ∀ r ∈ f.references, Regular b.decodedFrameHistory.windowSize r) :
    ∃ decoded', (decoded' = decoded ∨ decoded' = []) ∧ (b.insertFrame f).2.Inv decoded' := by
  have hkept : ∃ decoded', (decoded' = decoded ∨ decoded' = []) ∧ b.Inv decoded' :=
    ⟨decoded, .inl rfl, h⟩
  unfold FrameBuffer.insertFrame
  split
  · exact hkept
  next hvalid =>
  rw [Bool.not_eq_true', Bool.not_eq_false] at hvalid
  split
  · exact hkept
  next b1 hb1 =>
  have hpass := passDecoded_meets h hb1
  split
  · obtain ⟨decoded', hcse, hinv, -, -⟩ := hpass.inv h
    exact ⟨decoded', hcse, hinv⟩
  next b2 hb2 =>
  obtain ⟨decoded', hcse, hinv, hlt, hwin⟩ := (hpass.makeRoom hb2).inv h
  split
  · exact ⟨decoded', hcse, hinv⟩
  next hfresh =>
  have hfre' : ∀ it ∈ b2.frames, it.frame.id ≠ f.id := fun it hit heq =>
    hfresh (any_eq_true.mpr ⟨it, hit, decide_eq_true heq⟩)
  exact ⟨decoded', hcse, hinv.emplace hvalid (hwin ▸ hreg) hlt hfre'⟩

/-! ## Extracting and dropping -/

variable {history : DecodedFramesHistory}

lemma IsNext.parts {frames pre unit post : List FrameInfo}
    {u : TemporalUnit} (hasc : Ascending frames) (h : IsNext history frames u pre unit post) :
    (frames.dropWhile fun it => decide (it.frame.id < u.firstFrame.id)) = unit ++ post ∧
      ((unit ++ post).takeWhile fun it => decide (it.frame.id ≤ u.lastFrame.id)) = unit ∧
      (frames.dropWhile fun it => decide (it.frame.id ≤ u.lastFrame.id)) = post := by
  obtain ⟨first, hfirst, hfirst'⟩ := Option.map_eq_some_iff.mp h.first
  obtain ⟨last, hlast, hlast'⟩ := Option.map_eq_some_iff.mp h.last
  rw [h.isUnit.split] at hasc
  obtain ⟨hpreUnit, hpost, hbef⟩ := pairwise_append.mp hasc
  obtain ⟨-, hunit, hpre⟩ := pairwise_append.mp hpreUnit
  have hfirstMem : first ∈ unit := mem_of_mem_head? hfirst
  have hlastMem : last ∈ unit := mem_of_getLast? hlast
  have hge : ∀ it ∈ unit, first.frame.id ≤ it.frame.id := by
    intro it hit
    obtain ⟨tail, rfl⟩ : ∃ tail, unit = first :: tail := head?_eq_some_iff.mp hfirst
    rcases mem_cons.mp hit with rfl | hit
    · exact le_rfl
    · exact Int.le_of_lt ((pairwise_cons.mp hunit).1 it hit)
  have hle : ∀ it ∈ unit, it.frame.id ≤ last.frame.id := by
    intro it hit
    obtain ⟨init, rfl⟩ := getLast?_eq_some_iff.mp hlast
    rcases mem_append.mp hit with hit | hit
    · exact Int.le_of_lt ((pairwise_append.mp hunit).2.2 it hit last mem_cons_self)
    · rw [mem_singleton.mp hit]
  have haft : ∀ it ∈ post, last.frame.id < it.frame.id :=
    fun it hit => hbef last (mem_append_right pre hlastMem) it hit
  rw [← hfirst', ← hlast', h.isUnit.split]
  refine ⟨?_, ?_, ?_⟩
  · rw [append_assoc]
    refine (takeWhile_dropWhile_append _ pre (unit ++ post) ?_ ?_).2
    · exact fun it hit => decide_eq_true (hpre it hit first hfirstMem)
    intro it hit
    refine decide_eq_false (Int.not_lt.mpr ?_)
    rcases mem_append.mp hit with hit | hit
    · exact hge it hit
    · exact Int.le_trans (hge last hlastMem) (Int.le_of_lt (haft it hit))
  · refine (takeWhile_dropWhile_append _ unit post ?_ ?_).1
    · exact fun it hit => decide_eq_true (hle it hit)
    · exact fun it hit => decide_eq_false (Int.not_le.mpr (haft it hit))
  · refine (takeWhile_dropWhile_append _ (pre ++ unit) post ?_ ?_).2
    · intro it hit
      refine decide_eq_true ?_
      rcases mem_append.mp hit with hit | hit
      · exact Int.le_of_lt (hpre it hit last hlastMem)
      · exact hle it hit
    · exact fun it hit => decide_eq_false (Int.not_le.mpr (haft it hit))

lemma agrees_foldl (fs : List EncodedFrame)
    (ha : history.Agrees decoded) (hasc : fs.Pairwise fun f g => f.id < g.id)
    (hreg : ∀ f ∈ fs, Regular history.windowSize f.id) (hnwr : ∀ d ∈ decoded, ∀ f ∈ fs, d < f.id) :
    (fs.foldl (fun h f => h.insertDecoded f.id f.timestamp) history).Agrees
      (decoded ++ fs.map EncodedFrame.id) := by
  induction fs generalizing history decoded with
  | nil => rw [map_nil, append_nil]; exact ha
  | cons f fs ih =>
    obtain ⟨hf, htail⟩ := pairwise_cons.mp hasc
    obtain ⟨hregf, hreg⟩ := forall_mem_cons.mp hreg
    have hstep := ha.insertDecoded hregf (fun d hd => hnwr d hd f mem_cons_self) f.timestamp
    rw [foldl_cons, map_cons, ← singleton_append, ← append_assoc]
    refine ih hstep htail hreg ?_
    intro d hd g hg
    rcases mem_append.mp hd with hd | hd
    · exact hnwr d hd g (mem_cons_of_mem f hg)
    rw [mem_singleton.mp hd]
    exact hf g hg

lemma foldl_windowSize (fs : List EncodedFrame) (history : DecodedFramesHistory) :
    (fs.foldl (fun h f => h.insertDecoded f.id f.timestamp) history).windowSize =
      history.windowSize := by
  induction fs generalizing history with
  | nil => rfl
  | cons f fs ih => exact ih _

variable {u : TemporalUnit} {pre unit post : List FrameInfo}

/-- The frames behind the unit stay, with a history that knows no more frames than the
old one and the unit. -/
lemma Inv.eraseThrough (h : b.Inv decoded)
    (hnext : IsNext b.decodedFrameHistory b.frames u pre unit post) {decoded' : List Int} (ha : history.Agrees decoded')
    (hwin : history.windowSize = b.decodedFrameHistory.windowSize)
    (hnwr : ∀ d ∈ decoded', ∀ it ∈ post, d < it.frame.id)
    (hkn : ∀ r, Regular b.decodedFrameHistory.windowSize r → history.wasDecoded r = true →
      b.decodedFrameHistory.wasDecoded r = true ∨ ∃ it ∈ unit, it.frame.id = r) (dropped : Nat) :
    ({ b with decodedFrameHistory := history }.eraseThrough u dropped).Inv decoded' := by
  have hsplit := hnext.isUnit.split
  have hsub : ∀ it ∈ post, it ∈ b.frames := fun it hit => by
    rw [hsplit]
    exact mem_append_right _ hit
  have hcont := hnext.decodable.continuous hsplit h.ascending h.valid h.complete
  unfold FrameBuffer.eraseThrough
  have hfrs := (hnext.parts h.ascending).2.2
  rw [hfrs]
  refine inv_find ha ?_ (fun it hit => h.valid it (hsub it hit)) ?_ hnwr ?_
    (fun it hit => h.tracked it (hsub it hit))
  · have hasc := h.ascending
    rw [hsplit] at hasc
    exact (pairwise_append.mp hasc).2.1
  · rw [hwin]
    exact fun it hit => h.regular it (hsub it hit)
  intro it hit hreach
  refine h.complete it (hsub it hit) fun r hr => ?_
  rcases hreach r hr with hdec | ⟨it', hit', hid, hc⟩
  · rcases hkn r ((h.regular it (hsub it hit)).2 r hr) hdec with hold | ⟨it', hit', hid⟩
    · exact .inl hold
    refine .inr ⟨it', ?_, hid, hcont it' hit'⟩
    rw [hsplit]
    exact mem_append_left post (mem_append_right pre hit')
  · exact .inr ⟨it', hsub it' hit', hid, hc⟩

lemma Inv.dropNext (h : b.Inv decoded) : b.dropNextDecodableTemporalUnit.Inv decoded := by
  unfold dropNextDecodableTemporalUnit
  cases hu : b.nextDecodableTemporalUnit with
  | none => exact h
  | some u =>
    have hfound := h.found.1
    rw [hu] at hfound
    obtain ⟨pre, unit, post, hnext⟩ := hfound
    refine h.eraseThrough hnext h.history rfl ?_ (fun r _ hdec => .inl hdec) _
    intro d hd it hit
    refine h.newer d hd it ?_
    rw [hnext.isUnit.split]
    exact mem_append_right _ hit

lemma extract_frames (h : b.Inv decoded) (hu : b.nextDecodableTemporalUnit = some u)
    (hnext : IsNext b.decodedFrameHistory b.frames u pre unit post) :
    b.extractNextDecodableTemporalUnit.1 = unit.map frame := by
  obtain ⟨hdrop, htake, -⟩ := hnext.parts h.ascending
  unfold extractNextDecodableTemporalUnit
  rw [hu]
  dsimp only
  rw [hdrop, htake]

lemma Inv.extract (h : b.Inv decoded) (hu : b.nextDecodableTemporalUnit = some u)
    (hnext : IsNext b.decodedFrameHistory b.frames u pre unit post) :
    b.extractNextDecodableTemporalUnit.2.Inv (decoded ++ unit.map fun it => it.frame.id) := by
  obtain ⟨hdrop, htake, -⟩ := hnext.parts h.ascending
  have hsplit := hnext.isUnit.split
  have hmem : ∀ it ∈ unit, it ∈ b.frames := fun it hit => by
    rw [hsplit]
    exact mem_append_left post (mem_append_right pre hit)
  have hasc := h.ascending
  rw [hsplit] at hasc
  obtain ⟨hpreUnit, -, hcross⟩ := pairwise_append.mp hasc
  have hagr := agrees_foldl (unit.map frame) h.history
    (pairwise_map.mpr (pairwise_append.mp hpreUnit).2.1)
    (by
      intro f hf
      obtain ⟨it, hit, rfl⟩ := mem_map.mp hf
      exact (h.regular it (hmem it hit)).1)
    (by
      intro d hd f hf
      obtain ⟨it, hit, rfl⟩ := mem_map.mp hf
      exact h.newer d hd it (hmem it hit))
  rw [map_map] at hagr
  have hwin := foldl_windowSize (unit.map frame) b.decodedFrameHistory
  unfold extractNextDecodableTemporalUnit
  rw [hu]
  dsimp only
  rw [hdrop, htake]
  refine h.eraseThrough hnext hagr hwin ?_ ?_ _
  · intro d hd it hit
    rcases mem_append.mp hd with hd | hd
    · refine h.newer d hd it ?_
      rw [hsplit]
      exact mem_append_right _ hit
    · obtain ⟨it', hit', rfl⟩ := mem_map.mp hd
      exact hcross it' (mem_append_right pre hit') it hit
  intro r hr hdec
  rw [hagr.wasDecoded_iff (hwin ▸ hr), hwin] at hdec
  obtain ⟨hin, hlow⟩ := hdec
  rcases mem_append.mp hin with hin | hin
  · -- A frame that was decoded before is still in the window of the old history.
    refine .inl ((h.history.wasDecoded_iff hr).mpr ⟨hin, fun last hlast => ?_⟩)
    have hne : decoded ++ unit.map (EncodedFrame.id ∘ frame) ≠ [] :=
      append_ne_nil_of_left_ne_nil (ne_nil_of_mem hin) _
    have hl := getLast?_eq_some_getLast hne
    have hle := hagr.le_last hl (mem_append_left _ (mem_of_getLast? hlast))
    have := hlow _ hl
    omega
  · obtain ⟨it, hit, rfl⟩ := mem_map.mp hin
    exact .inr ⟨it, hit, rfl⟩

/-! ## Runs -/

/-- A frame buffer with the frames that were extracted since it was last cleared. -/
structure Traced where
  buffer : FrameBuffer
  extracted : List EncodedFrame := []

inductive Call where
  | insertFrame (f : EncodedFrame)
  | extractNextDecodableTemporalUnit
  | dropNextDecodableTemporalUnit

namespace Traced

def step (s : Traced) : Call → Traced
  | .insertFrame f =>
    let buffer := (s.buffer.insertFrame f).2
    -- The history is empty after a clear, and only then or before the first extraction.
    { buffer
      extracted := if buffer.decodedFrameHistory.lastDecodedFrame = none then [] else s.extracted }
  | .extractNextDecodableTemporalUnit =>
    let (frames, buffer) := s.buffer.extractNextDecodableTemporalUnit
    { buffer, extracted := s.extracted ++ frames }
  | .dropNextDecodableTemporalUnit =>
    { s with buffer := s.buffer.dropNextDecodableTemporalUnit }

/-- The history can tell the ids of an inserted frame and of its references apart. -/
def RegularIds (s : Traced) : Call → Prop
  | .insertFrame f =>
    Regular s.buffer.decodedFrameHistory.windowSize f.id ∧
      ∀ r ∈ f.references, Regular s.buffer.decodedFrameHistory.windowSize r
  | _ => True

instance (s : Traced) (c : Call) : Decidable (RegularIds s c) := by
  cases c <;> unfold RegularIds <;> infer_instance

structure Promises (s : Traced) : Prop where
  -- The references of an extracted frame were extracted before it.
  references : ∀ before f after, s.extracted = before ++ f :: after →
    ∀ r ∈ f.references, ∃ g ∈ before, g.id = r
  increasing : (s.extracted.map EncodedFrame.id).Pairwise (· < ·)
  -- If there is a decodable unit, the next one to be extracted is the one with the
  -- smallest ids.
  next : ∀ pre unit post, IsTemporalUnit s.buffer.frames pre unit post →
    OutsideDecoded s.buffer.decodedFrameHistory unit →
    s.buffer.decodableTemporalUnitsInfo.isSome ∧
      ∃ pre' unit' post', IsTemporalUnit s.buffer.frames pre' unit' post' ∧
        OutsideDecoded s.buffer.decodedFrameHistory unit' ∧
        s.buffer.extractNextDecodableTemporalUnit.1 = unit'.map frame ∧
        (∀ it ∈ unit'.head?, ∀ it' ∈ unit, it.frame.id ≤ it'.frame.id) ∧
        ∀ it ∈ unit', ∀ it' ∈ unit.getLast?, it.frame.id ≤ it'.frame.id

structure Good (s : Traced) : Prop where
  inv : s.buffer.Inv (s.extracted.map EncodedFrame.id)
  references : ∀ f ∈ s.extracted, ∀ r ∈ f.references, r < f.id ∧ ∃ g ∈ s.extracted, g.id = r

variable {s : Traced}

lemma good_new (maxSize maxDecodeHistory : Nat) (legacy : Bool) (hpos : 0 < maxDecodeHistory)
    (hlt : maxDecodeHistory < 2 ^ 31) :
    Good { buffer := new maxSize maxDecodeHistory legacy hpos hlt } := by
  refine ⟨inv_of_empty ?_ rfl rfl rfl, fun _ hf => absurd hf not_mem_nil⟩
  exact ⟨.nil, fun _ hn => absurd hn not_mem_nil, rfl, rfl, fun _ _ => rfl,
    fun _ hl => absurd hl nofun⟩

lemma Good.step (h : s.Good) (c : Call) (hc : s.RegularIds c) : (s.step c).Good := by
  cases c with
  | insertFrame f =>
    obtain ⟨decoded', hcse, hinv⟩ := h.inv.insertFrame hc
    have hlast := hinv.history.lastDecoded
    by_cases hnone : (s.buffer.insertFrame f).2.decodedFrameHistory.lastDecodedFrame = none
    · have hextr : (s.step (.insertFrame f)).extracted = [] := if_pos hnone
      have hdecoded : decoded' = [] := getLast?_eq_none_iff.mp (hlast.symm.trans hnone)
      subst hdecoded
      refine ⟨?_, ?_⟩
      · rw [hextr]
        exact hinv
      rw [hextr]
      exact fun _ hf => absurd hf not_mem_nil
    have hextr : (s.step (.insertFrame f)).extracted = s.extracted := if_neg hnone
    have hdecoded : decoded' = s.extracted.map EncodedFrame.id := by
      refine hcse.resolve_right ?_
      rintro rfl
      exact hnone hlast
    subst hdecoded
    refine ⟨?_, ?_⟩
    · rw [hextr]
      exact hinv
    rw [hextr]
    exact h.references
  | extractNextDecodableTemporalUnit =>
    cases hu : s.buffer.nextDecodableTemporalUnit with
    | none =>
      have hsame : s.step .extractNextDecodableTemporalUnit = s := by
        unfold Traced.step extractNextDecodableTemporalUnit
        rw [hu]
        dsimp only
        rw [append_nil]
      rw [hsame]
      exact h
    | some u =>
      have hfound := h.inv.found.1
      rw [hu] at hfound
      obtain ⟨pre, unit, post, hnext⟩ := hfound
      have hfrs := extract_frames h.inv hu hnext
      have hinv := h.inv.extract hu hnext
      have hextr : (s.step .extractNextDecodableTemporalUnit).extracted =
          s.extracted ++ unit.map frame := by
        rw [← hfrs]
        rfl
      refine ⟨?_, ?_⟩
      · rw [hextr, map_append, map_map]
        exact hinv
      rw [hextr]
      intro f hf r hr
      rcases mem_append.mp hf with hf | hf
      · obtain ⟨hlt, g, hg, hid⟩ := h.references f hf r hr
        exact ⟨hlt, g, mem_append_left _ hg, hid⟩
      obtain ⟨it, hit, rfl⟩ := mem_map.mp hf
      have hmem : it ∈ s.buffer.frames := by
        rw [hnext.isUnit.split]
        exact mem_append_left post (mem_append_right pre hit)
      refine ⟨EncodedFrame.reference_lt (h.inv.valid it hmem) hr, ?_⟩
      rcases hnext.decodable it hit r hr with hdec | ⟨it', hit', hid⟩
      · have hreg := (h.inv.regular it hmem).2 r hr
        obtain ⟨hin, -⟩ := (h.inv.history.wasDecoded_iff hreg).mp hdec
        obtain ⟨g, hg, hid⟩ := mem_map.mp hin
        exact ⟨g, mem_append_left _ hg, hid⟩
      · exact ⟨it'.frame, mem_append_right _ (mem_map_of_mem hit'), hid⟩
  | dropNextDecodableTemporalUnit => exact ⟨h.inv.dropNext, h.references⟩

lemma Good.promises (h : s.Good) : s.Promises := by
  have hinc := h.inv.history.increasing
  constructor
  case references =>
    intro before f after hsplit r hr
    have hf : f ∈ s.extracted := hsplit ▸ mem_append_right before mem_cons_self
    obtain ⟨hlt, g, hg, hid⟩ := h.references f hf r hr
    rw [hsplit] at hg hinc
    rcases mem_append.mp hg with hg | hg
    · exact ⟨g, hg, hid⟩
    -- The frames from `f` on have larger ids.
    rw [map_append, map_cons] at hinc
    have htail := (pairwise_cons.mp (pairwise_append.mp hinc).2.1).1
    rcases mem_cons.mp hg with rfl | hg
    · omega
    have := htail g.id (mem_map_of_mem hg)
    omega
  case increasing => exact hinc
  case next =>
    intro pre unit post hunit hdec
    obtain ⟨hfound, hinfo⟩ := h.inv.found
    cases hu : s.buffer.nextDecodableTemporalUnit with
    | none =>
      rw [hu] at hfound
      exact absurd hdec (hfound pre unit post hunit)
    | some u =>
      rw [hu] at hfound hinfo
      refine ⟨hinfo, ?_⟩
      obtain ⟨pre', unit', post', hnext⟩ := hfound
      exact ⟨pre', unit', post', hnext.isUnit, hnext.decodable, extract_frames h.inv hu hnext,
        hnext.ids_le h.inv.ascending hunit hdec⟩

/-- A key frame of two spatial layers, two units that arrive in the wrong order, the
first of which is dropped, and a unit that refers to the key frame only. -/
def layeredCalls : List Call :=
  [.insertFrame { id := 1, timestamp := 10, isLastSpatialLayer := false },
    .insertFrame { id := 2, timestamp := 10, references := [1] },
    .insertFrame { id := 4, timestamp := 30, references := [2, 3] },
    .insertFrame { id := 3, timestamp := 20, references := [2] },
    .extractNextDecodableTemporalUnit, .dropNextDecodableTemporalUnit,
    .insertFrame { id := 5, timestamp := 40, references := [1, 2] },
    .extractNextDecodableTemporalUnit]

/-- Three units, the last of which refers to a frame that never came. -/
def negativeIdCalls : List Call :=
  [.insertFrame { id := -2, timestamp := 1 }, .extractNextDecodableTemporalUnit,
    .insertFrame { id := 0, timestamp := 2 }, .extractNextDecodableTemporalUnit,
    .insertFrame { id := 1, timestamp := 3, references := [-1] },
    .extractNextDecodableTemporalUnit]

end Traced

end FrameBuffer

end WebRtc.VideoCoding
