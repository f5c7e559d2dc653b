import Mathlib.Data.Finset.SDiff
import WebRtc.Lib.Run

/-!
# WebRTC — frame dependencies

From the buffers that a frame uses, `FrameDependenciesCalculator` finds the frames that it has to
wait for. A frame that another one of them uses directly is left out. The frames that are left
still lead to all others, since each leads to what it uses itself.

Main result: `dependencies_keep_reachability`.
-/

namespace WebRtc.VideoCoding

open Lib List Relation

structure CodecBufferUsage where
  id : Nat
  referenced : Bool
  updated : Bool

structure BufferUsage where
  frameId : Option Int := none
  dependencies : Finset Int := ∅

/-- `buffers_`. A buffer that is not there yet has never been updated. -/
abbrev FrameDependenciesCalculator := Nat → BufferUsage

structure UsingFrame where
  id : Int
  buffersUsage : List CodecBufferUsage

def UsingFrame.updates (f : UsingFrame) (b : Nat) : Bool :=
  f.buffersUsage.any fun u => u.updated && u.id == b

namespace FrameDependenciesCalculator

def collect (buffers : FrameDependenciesCalculator) :
    List CodecBufferUsage → Finset Int × Finset Int
  | [] => (∅, ∅)
  | usage :: usages =>
    let (direct, indirect) := collect buffers usages
    if usage.referenced then
      match (buffers usage.id).frameId with
      -- The buffer was never updated.
      | none => (direct, indirect)
      | some id => (insert id direct, (buffers usage.id).dependencies ∪ indirect)
    else (direct, indirect)

def fromBuffersUsage (buffers : FrameDependenciesCalculator) (f : UsingFrame) :
    Finset Int × FrameDependenciesCalculator :=
  let found := collect buffers f.buffersUsage
  (found.1 \ found.2, fun b => if f.updates b then ⟨f.id, found.1⟩ else buffers b)

/-! ## Frames that lead to others -/

variable {frames : List UsingFrame} {f : UsingFrame} {d : Int}

def after (frames : List UsingFrame) : FrameDependenciesCalculator :=
  run (fun buffers f => (buffers.fromBuffersUsage f).2) (fun _ => {}) frames

def dependencies (frames : List UsingFrame) (f : UsingFrame) : Finset Int :=
  ((after frames).fromBuffersUsage f).1

def DependsOn (frames : List UsingFrame) (a d : Int) : Prop :=
  ∃ before f, before ++ [f] <+: frames ∧ f.id = a ∧ d ∈ dependencies before f

def lastUpdate (frames : List UsingFrame) (b : Nat) : Option Int :=
  (frames.reverse.find? (·.updates b)).map UsingFrame.id

def Uses (frames : List UsingFrame) (f : UsingFrame) (d : Int) : Prop :=
  ∃ u ∈ f.buffersUsage, u.referenced = true ∧ lastUpdate frames u.id = some d

lemma transGen_snoc {a : Int} (h : TransGen (DependsOn frames) a d) :
    TransGen (DependsOn (frames ++ [f])) a d := by
  refine TransGen.mono ?_ a d h
  rintro a d ⟨before, g, hpre, hg⟩
  exact ⟨before, g, hpre.trans (prefix_append ..), hg⟩

lemma mem_collect {buffers : FrameDependenciesCalculator} (usages : List CodecBufferUsage) :
    (∀ d, d ∈ (collect buffers usages).1 ↔
      ∃ u ∈ usages, u.referenced = true ∧ (buffers u.id).frameId = some d) ∧
    ∀ d ∈ (collect buffers usages).2, ∃ id ∈ (collect buffers usages).1, ∃ b,
      (buffers b).frameId = some id ∧ d ∈ (buffers b).dependencies := by
  induction usages with
  | nil => simp [collect]
  | cons u usages ih =>
    obtain ⟨hdir, hind⟩ := ih
    rw [collect]
    cases href : u.referenced with
    | false => exact ⟨by simpa [href] using hdir, hind⟩
    | true =>
      cases hid : (buffers u.id).frameId with
      | none => exact ⟨by simpa [href, hid] using hdir, hind⟩
      | some id =>
        simp only [if_true, Finset.mem_insert, Finset.mem_union]
        refine ⟨fun d => by simp [href, hid, hdir, @eq_comm _ d id], ?_⟩
        rintro d (hd | hd)
        · exact ⟨id, .inl rfl, u.id, hid, hd⟩
        · obtain ⟨id', hid', hb⟩ := hind d hd
          exact ⟨id', .inr hid', hb⟩

/-- What holds between calls: each buffer knows who updated it last, and what that frame used
can be reached from it. -/
structure Sound (frames : List UsingFrame) : Prop where
  updated : ∀ b, (after frames b).frameId = lastUpdate frames b
  known : ∀ b id, (after frames b).frameId = some id → (∃ g ∈ frames, g.id = id) ∧
    ∀ d ∈ (after frames b).dependencies, d < id ∧ TransGen (DependsOn frames) id d

section

variable (h : Sound frames) (hf : ∀ g ∈ frames, g.id < f.id)

include h hf

lemma Sound.reach (d : Int) (hd : d ∈ (collect (after frames) f.buffersUsage).1) :
    d < f.id ∧ TransGen (DependsOn (frames ++ [f])) f.id d := by
  obtain ⟨u, -, -, hid⟩ := ((mem_collect _).1 _).mp hd
  obtain ⟨⟨g, hg, rfl⟩, -⟩ := h.known _ _ hid
  refine ⟨hf g hg, ?_⟩
  by_cases hind : g.id ∈ (collect (after frames) f.buffersUsage).2
  · -- It is left out because of a later one, from which it can be reached.
    obtain ⟨id, hdir, b, hb, hdep⟩ := (mem_collect _).2 _ hind
    obtain ⟨hlt, hpath⟩ := (h.known b id hb).2 _ hdep
    exact (Sound.reach id hdir).2.trans (transGen_snoc hpath)
  · exact .single ⟨frames, f, prefix_rfl, rfl, Finset.mem_sdiff.mpr ⟨hd, hind⟩⟩
termination_by (f.id - d).toNat
decreasing_by
  have := hf g hg
  omega

lemma Sound.snoc : Sound (frames ++ [f]) := by
  have hstep : after (frames ++ [f]) = ((after frames).fromBuffersUsage f).2 := run_append ..
  constructor
  · intro b
    rw [hstep, lastUpdate, reverse_concat, find?_cons]
    dsimp only [fromBuffersUsage]
    cases f.updates b with
    | true => rfl
    | false => exact h.updated b
  · intro b id hb
    rw [hstep, fromBuffersUsage] at hb ⊢
    cases hup : f.updates b with
    | true =>
      simp only [hup, if_true, Option.some.injEq] at hb ⊢
      subst hb
      exact ⟨⟨f, by simp, rfl⟩, h.reach hf⟩
    | false =>
      simp only [hup, Bool.false_eq_true, if_false] at hb ⊢
      obtain ⟨⟨g, hg, hid⟩, hdep⟩ := h.known b id hb
      refine ⟨⟨g, mem_append_left _ hg, hid⟩, fun d hd => ?_⟩
      exact (hdep d hd).imp_right transGen_snoc

end

lemma sound_after (frames : List UsingFrame) (h : frames.Pairwise fun a b => a.id < b.id) :
    Sound frames := by
  induction frames using List.reverseRecOn with
  | nil => exact ⟨fun _ => rfl, nofun⟩
  | append_singleton frames f ih =>
    obtain ⟨hinc, -, hlt⟩ := pairwise_append.mp h
    exact (ih hinc).snoc fun g hg => hlt g hg f mem_cons_self

/-- **Reduced dependencies keep reachability.** What is returned for a frame are frames that it
uses, and every frame that it uses can be reached through what is returned for it and for earlier
ones. So a receiver that has decoded, with each frame, what was returned for it, has what the
frame uses once it has what was returned for the frame. -/
theorem dependencies_keep_reachability (frames : List UsingFrame) (f : UsingFrame)
    (hinc : (frames ++ [f]).Pairwise fun a b => a.id < b.id) :
    (∀ d ∈ dependencies frames f, Uses frames f d) ∧
    (∀ d, Uses frames f d → TransGen (DependsOn (frames ++ [f])) f.id d) ∧
    ∀ decoded : Set Int, (∀ a ∈ decoded, ∀ d, DependsOn (frames ++ [f]) a d → d ∈ decoded) →
      (∀ d, DependsOn (frames ++ [f]) f.id d → d ∈ decoded) → ∀ d, Uses frames f d → d ∈ decoded := by
  obtain ⟨hfrs, -, hlt⟩ := pairwise_append.mp hinc
  have h := sound_after frames hfrs
  have huses : ∀ d, Uses frames f d ↔ d ∈ (collect (after frames) f.buffersUsage).1 := by
    intro d
    simp only [(mem_collect _).1, Uses, h.updated]
  have hreach : ∀ d, Uses frames f d → TransGen (DependsOn (frames ++ [f])) f.id d := fun d hd =>
    (h.reach (fun g hg => hlt g hg f mem_cons_self) d ((huses d).mp hd)).2
  refine ⟨fun d hd => (huses d).mpr (Finset.mem_sdiff.mp hd).1, hreach, ?_⟩
  intro decoded hclosed hdeps d hd
  -- Along the path from the frame to `d`.
  have hpath := hreach d hd
  clear hd
  induction hpath with
  | single hdep => exact hdeps _ hdep
  | tail _ hdep ih => exact hclosed _ ih _ hdep

/-- The third frame uses both others. The first one is left out, as the second depends on it. -/
theorem dependencies_keep_reachability_three_frames :
    dependencies [⟨1, [⟨0, false, true⟩]⟩, ⟨2, [⟨0, true, false⟩, ⟨1, false, true⟩]⟩]
        ⟨3, [⟨0, true, false⟩, ⟨1, true, false⟩]⟩ = {2} ∧
      TransGen (DependsOn [⟨1, [⟨0, false, true⟩]⟩, ⟨2, [⟨0, true, false⟩, ⟨1, false, true⟩]⟩,
        ⟨3, [⟨0, true, false⟩, ⟨1, true, false⟩]⟩]) 3 1 :=
  ⟨by decide, (dependencies_keep_reachability
    [⟨1, [⟨0, false, true⟩]⟩, ⟨2, [⟨0, true, false⟩, ⟨1, false, true⟩]⟩]
    ⟨3, [⟨0, true, false⟩, ⟨1, true, false⟩]⟩ (by simp)).2.1 1 ⟨_, mem_cons_self, rfl, rfl⟩⟩

end FrameDependenciesCalculator

end WebRtc.VideoCoding
