import WebRtc.VideoCoding.RtpSeqNumOnlyRefFinder

/-!
# WebRTC — the finder on unwrapped numbers

As long as the numbers that the finder holds and is given lie in one window of less than half the
number space, the finder on 16-bit numbers is the image under `wrap` of the algorithm on the
numbers behind them. The window leaves 100 numbers below and one above, for the ages that the
finder computes and for the number after the last one.
-/

namespace WebRtc.VideoCoding

open Numerics Lib CompList List GopTracker

/-! ## The operations -/

namespace Numbering

lemma wire_aheadOf {x y : Int} (hlo : -2 ^ 15 < x - y) (hhi : x - y < 2 ^ 15) :
    wire.aheadOf (wrap 16 x) (wrap 16 y) = unwrapped.aheadOf x y :=
  aheadOf_wrap hlo hhi (by decide)

lemma wire_forwardDiff {x y : Int} (hlo : x ≤ y) (hhi : y - x < 2 ^ 15) :
    wire.forwardDiff (wrap 16 x) (wrap 16 y) = unwrapped.forwardDiff x y := by
  have hsub := wrap_sub_toNat (w := 16) y x
  show (wrap 16 y - wrap 16 x).toNat = (y - x).toNat
  omega

lemma wire_plus (x k : Int) : wire.plus (wrap 16 x) k = wrap 16 (unwrapped.plus x k) :=
  (BitVec.ofInt_add x k).symm

@[simp] lemma unwrapped_plus (x k : Int) : unwrapped.plus x k = x + k := rfl

@[simp] lemma unwrapped_aheadOf (x y : Int) : unwrapped.aheadOf x y = decide (y < x) := rfl

@[simp] lemma unwrapped_before (x y : Int) : unwrapped.before x y = decide (x < y) := rfl

@[simp] lemma unwrapped_forwardDiff (x y : Int) : unwrapped.forwardDiff x y = (y - x).toNat := rfl

end Numbering

/-! ## Images and windows -/

def SeqNumFrame.map {ν ν' : Type} (φ : ν → ν') (f : SeqNumFrame ν) : SeqNumFrame ν' :=
  ⟨f.frameType, φ f.firstSeqNum, φ f.lastSeqNum⟩

def Gop.map {ν ν' : Type} (φ : ν → ν') (g : Gop ν) : Gop ν' :=
  ⟨φ g.key, φ g.lastPictureId, φ g.lastWithPadding⟩

def HandedOff.map {ν ν' : Type} (φ : ν → ν') (h : HandedOff ν) : HandedOff ν' :=
  ⟨h.frame.map φ, φ h.reference⟩

def GopTracker.map {ν ν' : Type} (φ : ν → ν') (t : GopTracker ν) : GopTracker ν' :=
  ⟨t.lastSeqNumGop.map (Gop.map φ), t.stashedPadding.map φ,
    t.stashedFrames.map (SeqNumFrame.map φ)⟩

abbrev onWire : Int → BitVec 16 := wrap 16

def Held (lo x : Int) : Prop := lo + 100 ≤ x ∧ x + 1 < lo + 2 ^ 15

instance (lo x : Int) : Decidable (Held lo x) := inferInstanceAs (Decidable (_ ∧ _))

def Gop.Within (lo : Int) (g : Gop Int) : Prop :=
  Held lo g.key ∧ Held lo g.lastPictureId ∧ Held lo g.lastWithPadding

def SeqNumFrame.Within (lo : Int) (f : SeqNumFrame Int) : Prop :=
  Held lo f.firstSeqNum ∧ Held lo f.lastSeqNum

structure GopTracker.Within (lo : Int) (t : GopTracker Int) : Prop where
  gops : ∀ g ∈ t.lastSeqNumGop, g.Within lo
  padding : ∀ n ∈ t.stashedPadding, Held lo n
  frames : ∀ f ∈ t.stashedFrames, f.Within lo

namespace GopTracker

open WebRtc.VideoCoding.Numbering

variable {lo : Int}

variable {x y n : Int} {g : Gop Int}

lemma before_onWire {a b : Int} (hx : Held lo x) (hy : Held lo y) (ha : -100 ≤ a ∧ a ≤ 1)
    (hb : -100 ≤ b ∧ b ≤ 1) :
    wire.before (onWire (x + a)) (onWire (y + b)) = unwrapped.before (x + a) (y + b) := by
  unfold Held at hx hy
  exact wire_aheadOf (by omega) (by omega)

lemma before_onWire_held (hx : Held lo x) (hy : Held lo y) :
    wire.before (onWire x) (onWire y) = unwrapped.before x y := by
  simpa using before_onWire (a := 0) (b := 0) hx hy (by omega) (by omega)

lemma onWire_inj {b : Int} (hx : Held lo x) (hy : Held lo y) (hb : -100 ≤ b ∧ b ≤ 1) :
    onWire x = onWire (y + b) ↔ x = y + b := by
  constructor
  · intro h
    unfold Held at hx hy
    exact eq_of_wrap_eq h (by omega) (by omega)
  · intro h
    rw [h]

/-! ## Each function is the image of the one on unwrapped numbers -/

lemma absorb_onWire (stash : List Int) :
    ∀ last : Int, Held lo last → (∀ n ∈ stash, Held lo n) →
      absorb wire (onWire last) (stash.map onWire)
        = (onWire (absorb unwrapped last stash).1, (absorb unwrapped last stash).2.map onWire) ∧
      Held lo (absorb unwrapped last stash).1 ∧
      ∀ n ∈ (absorb unwrapped last stash).2, Held lo n := by
  induction stash with
  | nil =>
    intro last hlast _
    exact ⟨rfl, hlast, by simp [absorb]⟩
  | cons p ps ih =>
    intro last hlast hsta
    obtain ⟨hp, hps⟩ := forall_mem_cons.mp hsta
    have heq : onWire p = wire.plus (onWire last) 1 ↔ p = last + 1 := by
      rw [wire_plus]
      exact onWire_inj hp hlast (by omega)
    rw [map_cons, absorb, absorb]
    by_cases h : p = last + 1
    · rw [if_pos (heq.mpr h), unwrapped_plus, if_pos h]
      exact ih p hp hps
    rw [if_neg fun h' => h (heq.mp h'), unwrapped_plus, if_neg h]
    exact ⟨rfl, hlast, hsta⟩

lemma advance_onWire {stash : List Int} (hg : g.Within lo) (hsta : ∀ n ∈ stash, Held lo n) :
    advance wire (g.map onWire) (stash.map onWire)
        = ((advance unwrapped g stash).1.map onWire, (advance unwrapped g stash).2.map onWire) ∧
      (advance unwrapped g stash).1.Within lo ∧ ∀ n ∈ (advance unwrapped g stash).2, Held lo n := by
  have hcmp : ∀ n ∈ stash, wire.before (id (onWire n)) (wire.plus (onWire g.lastWithPadding) 1)
      = unwrapped.before (id n) (unwrapped.plus g.lastWithPadding 1) := by
    intro n hn
    rw [wire_plus]
    simpa using before_onWire (a := 0) (b := 1) (hsta n hn) hg.2.2 (by omega) (by omega)
  obtain ⟨habs, hlast, hrest⟩ := absorb_onWire
    (fromLower unwrapped.before id (unwrapped.plus g.lastWithPadding 1) stash)
    g.lastWithPadding hg.2.2 fun n hn => hsta n (mem_of_mem_fromLower hn)
  refine ⟨?_, ⟨hg.1, hg.2.1, hlast⟩, ?_⟩
  · unfold advance
    dsimp only [Gop.map]
    rw [fromLower_map hcmp, below_map hcmp, habs, map_append]
  exact forall_mem_append.mpr ⟨fun n hn => hsta n (mem_of_mem_below hn), hrest⟩

variable {gops : List (Gop Int)} {f : SeqNumFrame Int} {t : GopTracker Int}

lemma groups_onWire (hgops : ∀ g ∈ gops, g.Within lo) (hn : Held lo n) :
    upTo wire.before Gop.key (onWire n) (gops.map (Gop.map onWire))
        = (upTo unwrapped.before Gop.key n gops).map (Gop.map onWire) ∧
      fromUpper wire.before Gop.key (onWire n) (gops.map (Gop.map onWire))
        = (fromUpper unwrapped.before Gop.key n gops).map (Gop.map onWire) := by
  have hcmp : ∀ g ∈ gops, wire.before (onWire n) (g.map onWire).key = unwrapped.before n g.key :=
    fun g hg => before_onWire_held hn (hgops g hg).1
  exact ⟨upTo_map hcmp, fromUpper_map hcmp⟩

lemma getLast?_upTo_key_le (h : (upTo unwrapped.before Gop.key n gops).getLast? = some g) :
    g ∈ gops ∧ g.key ≤ n := by
  have hmem := mem_of_getLast? h
  refine ⟨mem_of_mem_upTo hmem, ?_⟩
  have := mem_takeWhile_imp hmem
  simpa using this

lemma updateLastPictureIdWithPadding_onWire (ht : t.Within lo) (hn : Held lo n) :
    updateLastPictureIdWithPadding wire (onWire n) (t.map onWire)
        = (updateLastPictureIdWithPadding unwrapped n t).map onWire ∧
      (updateLastPictureIdWithPadding unwrapped n t).Within lo := by
  obtain ⟨hfr, hback⟩ := groups_onWire ht.gops hn
  unfold updateLastPictureIdWithPadding
  dsimp only [map]
  rw [hfr, hback, getLast?_map]
  cases hlast : (upTo unwrapped.before Gop.key n t.lastSeqNumGop).getLast? with
  | none => exact ⟨rfl, ht⟩
  | some g =>
    obtain ⟨hmem, hkey⟩ := getLast?_upTo_key_le hlast
    obtain ⟨hadv, hgop, hsta⟩ := advance_onWire (ht.gops g hmem) ht.padding
    have hdiff : wire.forwardDiff (onWire g.key) (onWire n) = unwrapped.forwardDiff g.key n := by
      have hgk := (ht.gops g hmem).1
      unfold Held at hgk hn
      exact wire_forwardDiff hkey (by omega)
    simp only [Option.map_some, hadv]
    refine ⟨?_, ?_, hsta, ht.frames⟩
    · have hfar : wire.forwardDiff ((advance unwrapped g t.stashedPadding).1.map onWire).key
        (onWire n) = unwrapped.forwardDiff (advance unwrapped g t.stashedPadding).1.key n := hdiff
      rw [hfar]
      split
      · rfl
      · simp [map_dropLast]
    intro g' hg'
    split at hg'
    · rw [mem_singleton.mp hg']
      exact ⟨hn, hgop.2⟩
    rcases mem_of_mem_replace hg' with rfl | hg'
    · exact hgop
    · exact ht.gops g' hg'

lemma enterFrame_onWire (hgops : ∀ g ∈ gops, g.Within lo) (hf : f.Within lo) :
    enterFrame wire (f.map onWire) (gops.map (Gop.map onWire))
        = (enterFrame unwrapped f gops).map (Gop.map onWire) ∧
      ∀ g ∈ enterFrame unwrapped f gops, g.Within lo := by
  unfold enterFrame
  dsimp only [SeqNumFrame.map]
  cases f.frameType with
  | delta => exact ⟨rfl, hgops⟩
  | key =>
    refine ⟨?_, ?_⟩
    · exact emplace_map (g := Gop.map onWire)
        (e := (⟨f.lastSeqNum, f.lastSeqNum, f.lastSeqNum⟩ : Gop Int))
        (fun g hg => before_onWire_held (hgops g hg).1 hf.2)
        (fun g hg => before_onWire_held hf.2 (hgops g hg).1)
    intro g hg
    rcases mem_of_mem_emplace hg with rfl | hg
    · exact ⟨hf.2, hf.2, hf.2⟩
    · exact hgops g hg

lemma cleanGops_onWire (hgops : ∀ g ∈ gops, g.Within lo) (hn : Held lo n) :
    cleanGops wire (onWire n) (gops.map (Gop.map onWire))
      = (cleanGops unwrapped n gops).map (Gop.map onWire) := by
  have hcmp : ∀ g ∈ gops, wire.before (g.map onWire).key (wire.plus (onWire n) (-100))
      = unwrapped.before g.key (unwrapped.plus n (-100)) := by
    intro g hg
    rw [wire_plus]
    simpa [Gop.map] using before_onWire (a := 0) (b := -100) (hgops g hg).1 hn (by omega) (by omega)
  unfold cleanGops
  rw [below_map hcmp]
  simp [map_drop]

lemma takeFrame_onWire (hg : g.Within lo) (hf : f.Within lo) :
    takeFrame wire (f.map onWire) (g.map onWire) = (takeFrame unwrapped f g).map onWire ∧
      (takeFrame unwrapped f g).Within lo := by
  have hahead : wire.aheadOf (f.map onWire).lastSeqNum (g.map onWire).lastPictureId
      = unwrapped.aheadOf f.lastSeqNum g.lastPictureId := before_onWire_held hg.2.1 hf.2
  unfold takeFrame
  rw [hahead]
  split
  · exact ⟨rfl, hg.1, hf.2, hf.2⟩
  · exact ⟨rfl, hg⟩

def internalOnWire (r : FrameDecision × Option Int × GopTracker Int) :
    FrameDecision × Option (BitVec 16) × GopTracker (BitVec 16) :=
  (r.1, r.2.1.map onWire, r.2.2.map onWire)

lemma manageFrameInternal_onWire (ht : t.Within lo) (hf : f.Within lo) :
    manageFrameInternal wire (f.map onWire) (t.map onWire)
        = internalOnWire (manageFrameInternal unwrapped f t) ∧
      (manageFrameInternal unwrapped f t).2.2.Within lo := by
  obtain ⟨henter, hent⟩ := enterFrame_onWire ht.gops hf
  unfold manageFrameInternal
  dsimp only [map]
  rw [henter]
  by_cases hemp : enterFrame unwrapped f t.lastSeqNumGop = []
  · rw [if_pos (by rw [hemp]; rfl), if_pos hemp]
    exact ⟨rfl, ht⟩
  rw [if_neg (by simpa using hemp), if_neg hemp]
  have hcln : ∀ g ∈ cleanGops unwrapped f.lastSeqNum (enterFrame unwrapped f t.lastSeqNumGop),
      g.Within lo := fun g hg => hent g (mem_of_mem_drop hg)
  have hmap := cleanGops_onWire hent hf.2
  generalize cleanGops unwrapped f.lastSeqNum (enterFrame unwrapped f t.lastSeqNumGop) = gops
    at hcln hmap
  have hwi : Within lo { t with lastSeqNumGop := gops } := ⟨hcln, ht.padding, ht.frames⟩
  obtain ⟨hfr, hback⟩ := groups_onWire hcln hf.2
  dsimp only [SeqNumFrame.map] at hmap ⊢
  rw [hmap, hfr, hback, getLast?_map]
  cases hlast : (upTo unwrapped.before Gop.key f.lastSeqNum gops).getLast? with
  | none => exact ⟨rfl, hwi⟩
  | some g =>
    have hg := hcln g (getLast?_upTo_key_le hlast).1
    have hprev : wire.plus (onWire f.firstSeqNum) (-1) ≠ (g.map onWire).lastWithPadding ↔
        unwrapped.plus f.firstSeqNum (-1) ≠ g.lastWithPadding := by
      rw [wire_plus]
      exact not_congr ((eq_comm.trans (onWire_inj hg.2.2 hf.1 (by omega))).trans eq_comm)
    simp only [Option.map_some, hprev]
    split
    · exact ⟨rfl, hwi⟩
    obtain ⟨htake, htk⟩ := takeFrame_onWire hg hf
    have hnext : Within lo { t with
        lastSeqNumGop :=
          (upTo unwrapped.before Gop.key f.lastSeqNum gops).dropLast ++
            takeFrame unwrapped f g ::
              fromUpper unwrapped.before Gop.key f.lastSeqNum gops } := by
      refine ⟨?_, ht.padding, ht.frames⟩
      intro g' hg'
      rcases mem_of_mem_replace hg' with rfl | hg'
      · exact htk
      · exact hcln g' hg'
    obtain ⟨hup, hupd⟩ := updateLastPictureIdWithPadding_onWire hnext hf.2
    refine ⟨?_, hupd⟩
    have htake' : takeFrame wire ⟨f.frameType, onWire f.firstSeqNum, onWire f.lastSeqNum⟩
        (g.map onWire) = (takeFrame unwrapped f g).map onWire := htake
    rw [internalOnWire, ← hup, htake']
    simp [map, Gop.map, map_dropLast]

def passOnWire (r : GopTracker Int × List (SeqNumFrame Int) × List (HandedOff Int)) :
    GopTracker (BitVec 16) × List (SeqNumFrame (BitVec 16)) × List (HandedOff (BitVec 16)) :=
  (r.1.map onWire, r.2.1.map (SeqNumFrame.map onWire), r.2.2.map (HandedOff.map onWire))

lemma retryPass_onWire (todo : List (SeqNumFrame Int)) :
    ∀ (t : GopTracker Int) (kept : List (SeqNumFrame Int)) (res : List (HandedOff Int)),
      t.Within lo → (∀ f ∈ todo, f.Within lo) → (∀ f ∈ kept, f.Within lo) →
      retryPass wire (todo.map (SeqNumFrame.map onWire)) (t.map onWire)
          (kept.map (SeqNumFrame.map onWire)) (res.map (HandedOff.map onWire))
          = passOnWire (retryPass unwrapped todo t kept res) ∧
        (retryPass unwrapped todo t kept res).1.Within lo ∧
        ∀ f ∈ (retryPass unwrapped todo t kept res).2.1, f.Within lo := by
  induction todo with
  | nil =>
    intro t kept res ht _ hkept
    exact ⟨rfl, ht, hkept⟩
  | cons f todo ih =>
    intro t kept res ht htodo hkept
    obtain ⟨hf, hrest⟩ := forall_mem_cons.mp htodo
    obtain ⟨hintern, haft⟩ := manageFrameInternal_onWire ht hf
    rw [map_cons, retryPass, retryPass, hintern]
    generalize manageFrameInternal unwrapped f t = r at haft
    obtain ⟨decision, reference, t'⟩ := r
    cases decision with
    | stash =>
      have hkept' : ∀ f' ∈ kept ++ [f], f'.Within lo := by
        exact forall_mem_append.mpr ⟨hkept, forall_mem_singleton.mpr hf⟩
      simpa [internalOnWire] using ih t' (kept ++ [f]) res haft hrest hkept'
    | drop => exact ih t' kept res haft hrest hkept
    | handOff =>
      cases reference with
      | none => exact ih t' kept res haft hrest hkept
      | some reference =>
        have hnext := ih t' kept (res ++ [⟨f, reference⟩]) haft hrest hkept
        rw [map_append] at hnext
        exact hnext

def resultOnWire (r : GopTracker Int × List (HandedOff Int)) :
    GopTracker (BitVec 16) × List (HandedOff (BitVec 16)) :=
  (r.1.map onWire, r.2.map (HandedOff.map onWire))

lemma retryStashedFrames_onWire (fuel : Nat) :
    ∀ (t : GopTracker Int) (res : List (HandedOff Int)), t.Within lo →
      retryStashedFrames wire fuel (t.map onWire) (res.map (HandedOff.map onWire))
          = resultOnWire (retryStashedFrames unwrapped fuel t res) := by
  induction fuel with
  | zero =>
    intro t res _
    rfl
  | succ fuel ih =>
    intro t res ht
    obtain ⟨hpass, haft, hkept⟩ :=
      retryPass_onWire t.stashedFrames t [] [] ht ht.frames (by simp)
    rw [retryStashedFrames, retryStashedFrames]
    have hpass' : retryPass wire (t.map onWire).stashedFrames (t.map onWire) [] []
        = passOnWire (retryPass unwrapped t.stashedFrames t [] []) := hpass
    rw [hpass']
    generalize retryPass unwrapped t.stashedFrames t [] [] = r at haft hkept
    obtain ⟨t', kept, handed⟩ := r
    have ht' : Within lo { t' with stashedFrames := kept } :=
      ⟨haft.gops, haft.padding, hkept⟩
    by_cases hnone : handed = []
    · subst hnone
      rfl
    have hsome : handed.map (HandedOff.map onWire) ≠ [] := by simpa using hnone
    dsimp only [passOnWire]
    rw [if_neg hnone, if_neg hsome, ← map_append]
    exact ih _ _ ht'

lemma manageFrame_onWire (ht : t.Within lo) (hf : f.Within lo) :
    manageFrame wire (f.map onWire) (t.map onWire) = resultOnWire (manageFrame unwrapped f t) := by
  obtain ⟨hintern, haft⟩ := manageFrameInternal_onWire ht hf
  unfold manageFrame
  rw [hintern]
  generalize manageFrameInternal unwrapped f t = r at haft
  obtain ⟨decision, reference, t'⟩ := r
  cases decision with
  | stash =>
    simp only [internalOnWire, resultOnWire, map, length_map]
    split <;> simp [map_dropLast]
  | drop => rfl
  | handOff =>
    cases reference with
    | none => rfl
    | some reference =>
      have hretry := retryStashedFrames_onWire (t'.stashedFrames.length + 1) t'
        [⟨f, reference⟩] haft
      simpa [internalOnWire, HandedOff.map, map] using hretry

lemma paddingReceived_onWire (ht : t.Within lo) (hn : Held lo n) :
    paddingReceived wire (onWire n) (t.map onWire)
      = resultOnWire (paddingReceived unwrapped n t) := by
  have hcmp : ∀ m ∈ t.stashedPadding,
      wire.before (id (onWire m)) (wire.plus (onWire n) (-maxPaddingAge))
        = unwrapped.before (id m) (unwrapped.plus n (-maxPaddingAge)) := by
    intro m hm
    rw [wire_plus]
    simpa [maxPaddingAge] using
      before_onWire (a := 0) (b := -100) (ht.padding m hm) hn (by omega) (by omega)
  have hkept : ∀ m ∈ fromLower unwrapped.before id
      (unwrapped.plus n (-maxPaddingAge)) t.stashedPadding, Held lo m :=
    fun m hm => ht.padding m (mem_of_mem_fromLower hm)
  have hbel : ∀ m ∈ fromLower unwrapped.before id
      (unwrapped.plus n (-maxPaddingAge)) t.stashedPadding,
      wire.before (id (onWire m)) (id (onWire n)) = unwrapped.before (id m) (id n) :=
    fun m hm => before_onWire_held (hkept m hm) hn
  have habv : ∀ m ∈ fromLower unwrapped.before id
      (unwrapped.plus n (-maxPaddingAge)) t.stashedPadding,
      wire.before (id (onWire n)) (id (onWire m)) = unwrapped.before (id n) (id m) :=
    fun m hm => before_onWire_held hn (hkept m hm)
  have hsta := emplace_map hbel habv
  have hent : Within lo { t with
      stashedPadding := emplace unwrapped.before id n
        (fromLower unwrapped.before id (unwrapped.plus n (-maxPaddingAge))
          t.stashedPadding) } := by
    refine ⟨ht.gops, ?_, ht.frames⟩
    intro m hm
    rcases mem_of_mem_emplace hm with rfl | hm
    · exact hn
    · exact hkept m hm
  obtain ⟨hup, hupd⟩ := updateLastPictureIdWithPadding_onWire hent hn
  unfold paddingReceived
  dsimp only
  generalize updateLastPictureIdWithPadding unwrapped n _ = t' at hup hupd ⊢
  have hstart : updateLastPictureIdWithPadding wire (onWire n)
      { t.map onWire with
        stashedPadding := emplace wire.before id (onWire n)
          (fromLower wire.before id (wire.plus (onWire n) (-maxPaddingAge))
            (t.map onWire).stashedPadding) } = t'.map onWire := by
    rw [← hup]
    dsimp only [map]
    rw [fromLower_map hcmp, hsta]
  have hretry := retryStashedFrames_onWire (t'.stashedFrames.length + 1) t' [] hupd
  rw [hstart]
  simpa [map] using hretry

end GopTracker

end WebRtc.VideoCoding
