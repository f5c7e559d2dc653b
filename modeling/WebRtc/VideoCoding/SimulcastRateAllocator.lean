import Mathlib.Algebra.GroupWithZero.Nat
import Mathlib.Data.List.Sort
import Mathlib.Data.List.TakeWhile
import WebRtc.Lib.Run

/-!
# Video coding — the rates of simulcast streams

`SimulcastRateAllocator::DistributeAllocationToSimulcastLayers` gives the streams their target
rates in the order of their maximum rates, and what is then left to the last one that got
something. Streams that were off need a minimum scaled by a hysteresis factor, here any rate
from the minimum on. Over any sequence of calls the first active stream stays on.
-/

namespace WebRtc.VideoCoding

open List Lib

/-- Rates of the configuration are in kbit/s. -/
structure SimulcastStream where
  maxBitrate : Nat := 0
  targetBitrate : Nat := 0
  minBitrate : Nat := 0
  active : Bool := false

structure VideoCodec where
  maxBitrate : Nat
  minBitrate : Nat
  active : Bool
  simulcastStream : List SimulcastStream

/-- Rates of the streams' lowest temporal layers, in bit/s. -/
structure VideoBitrateAllocation where
  bitrates : Nat → Option Nat := fun _ => none
  sum : Nat := 0
  bwLimited : Bool := false

/-- `SetBitrate`, whose argument is narrowed to 32 bits. -/
def VideoBitrateAllocation.setBitrate (a : VideoBitrateAllocation) (i bps : Nat) :
    VideoBitrateAllocation :=
  let sum := a.sum - (a.bitrates i).getD 0 + bps % 2 ^ 32
  if 2 ^ 32 ≤ sum then a
  else { a with bitrates := Function.update a.bitrates i (some (bps % 2 ^ 32)), sum }

namespace VideoCodec

variable (c : VideoCodec)

def stream (i : Nat) : SimulcastStream := c.simulcastStream.getD i {}

def isActive (i : Nat) : Bool := (c.stream i).active

def minRate (i : Nat) : Nat := 1000 * (c.stream i).minBitrate

def targetRate (i : Nat) : Nat := 1000 * (c.stream i).targetBitrate

def maxRate (i : Nat) : Nat := 1000 * (c.stream i).maxBitrate

def layers : List Nat :=
  (range c.simulcastStream.length).insertionSort fun i j => c.maxRate i ≤ c.maxRate j

def activeLayers : List Nat := c.layers.filter c.isActive

def capped (rate : Nat) : Nat := if c.maxBitrate = 0 then rate else min rate (1000 * c.maxBitrate)

end VideoCodec

structure Distribution where
  allocation : VideoBitrateAllocation := {}
  enabled : Nat → Bool
  left : Nat
  leftStable : Nat
  top : Nat

namespace Distribution

variable (c : VideoCodec) (first : Bool) (scaled : Nat → Nat)

def serve (i : Nat) (d : Distribution) : Distribution :=
  let rate := min d.left (c.targetRate i)
  { allocation := d.allocation.setBitrate i rate
    enabled := Function.update d.enabled i true
    left := d.left - rate
    leftStable := d.leftStable - min d.leftStable (c.targetRate i)
    top := i }

/-- `min_bitrate`: a stream that was off needs more, except in the first call. -/
def minBitrate (d : Distribution) (i : Nat) : Nat :=
  if !first && !d.enabled i then min (scaled i) (c.targetRate i) else c.minRate i

def loop : List Nat → Distribution → Distribution
  | [], d => d
  | i :: rest, d =>
    if c.isActive i then
      if d.leftStable < minBitrate c first scaled d i then
        { d with
          allocation := { d.allocation with bwLimited := true }
          enabled := fun j => if j ∈ i :: rest then false else d.enabled j }
      else loop rest (d.serve c i)
    else loop rest { d with enabled := Function.update d.enabled i false }

def topUp (d : Distribution) : VideoBitrateAllocation :=
  if 0 < d.left then
    let initial := (d.allocation.bitrates d.top).getD 0
    d.allocation.setBitrate d.top (initial + min d.left (c.maxRate d.top - initial))
  else d.allocation

end Distribution

/-- `DistributeAllocationToSimulcastLayers`; `enabled` is `stream_enabled_`, or nothing while
that is empty. -/
def distributeAllocationToSimulcastLayers (c : VideoCodec) (scaled : Nat → Nat)
    (total stable : Nat) (enabled : Option (Nat → Bool)) :
    VideoBitrateAllocation × Option (Nat → Bool) :=
  if c.simulcastStream = [] then
    (if c.active then ({} : VideoBitrateAllocation).setBitrate 0
      (max (1000 * c.minBitrate) (c.capped total)) else {}, enabled)
  else
    match c.layers.dropWhile fun i => !c.isActive i with
    | [] => ({}, enabled)
    | i :: rest =>
      let d := Distribution.loop c enabled.isNone scaled (i :: rest)
        { enabled := enabled.getD fun _ => false
          left := max (c.capped total) (c.minRate i)
          leftStable := max (c.capped stable) (c.minRate i)
          top := c.layers.length - (rest.length + 1) }
      (d.topUp c, some d.enabled)

namespace Distribution

variable {c : VideoCodec} {first : Bool} {scaled : Nat → Nat} {d : Distribution} {i : Nat}

lemma setBitrate_eq {a : VideoBitrateAllocation} {bps : Nat}
    (h : a.sum - (a.bitrates i).getD 0 + bps < 2 ^ 32) : a.setBitrate i bps =
      { a with bitrates := Function.update a.bitrates i (some bps)
               sum := a.sum - (a.bitrates i).getD 0 + bps } := by
  have hbps : bps % 2 ^ 32 = bps := Nat.mod_eq_of_lt (by omega)
  simp only [VideoBitrateAllocation.setBitrate, hbps]
  exact if_neg (by omega)

/-- The top stream has its target rate, or at least its minimum where nothing is left. -/
def TopOk (c : VideoCodec) (d : Distribution) : Prop :=
  ∃ r, d.allocation.bitrates d.top = some r ∧ c.minRate d.top ≤ r ∧ r ≤ c.targetRate d.top ∧
    r ≤ d.allocation.sum ∧ (r = c.targetRate d.top ∨ d.left = 0)

structure Serves (c : VideoCodec) (l : List Nat) (d e : Distribution) (given : List Nat) :
    Prop where
  isPrefix : given <+: l.filter c.isActive
  others : ∀ i ∉ given, e.allocation.bitrates i = d.allocation.bitrates i
  full : ∀ i ∈ d.top :: given, i ≠ e.top → e.allocation.bitrates i = some (c.targetRate i)
  last : (d.top :: given).getLast? = some e.top
  topOk : TopOk c e
  total : e.allocation.sum + e.left = d.allocation.sum + d.left
  enabled : ∀ i ∉ l, e.enabled i = d.enabled i

lemma serve_topOk (hfree : d.allocation.bitrates i = none)
    (hsum : d.allocation.sum + d.left < 2 ^ 32) (hmin : c.minRate i ≤ d.left)
    (htarget : c.minRate i ≤ c.targetRate i) :
    TopOk c (d.serve c i) ∧ (d.serve c i).allocation.sum + (d.serve c i).left =
      d.allocation.sum + d.left ∧ ∀ j ≠ i,
        (d.serve c i).allocation.bitrates j = d.allocation.bitrates j := by
  have hset := @setBitrate_eq i d.allocation (min d.left (c.targetRate i))
    (by rw [hfree, Option.getD_none]; omega)
  rw [hfree, Option.getD_none] at hset
  simp only [serve, hset, TopOk, Function.update_self]
  refine ⟨⟨_, rfl, ?_⟩, ?_, fun j hj => Function.update_of_ne hj _ _⟩ <;> omega

lemma minRate_le (htarget : c.minRate i ≤ c.targetRate i)
    (hscaled : c.minRate i ≤ scaled i) : c.minRate i ≤ minBitrate c first scaled d i := by
  unfold minBitrate
  split
  · exact le_min hscaled htarget
  · exact le_rfl

lemma loop_serves (hmin : ∀ i, c.isActive i → 0 < c.minRate i)
    (htarget : ∀ i, c.minRate i ≤ c.targetRate i) (hscaled : ∀ i, c.minRate i ≤ scaled i)
    {l : List Nat} (hl : l.Nodup) (htop : TopOk c d) (hnew : d.top ∉ l)
    (hfree : ∀ i ∈ l, d.allocation.bitrates i = none)
    (hsum : d.allocation.sum + d.left < 2 ^ 32) (hstable : d.leftStable = d.left) :
    ∃ given, Serves c l d (loop c first scaled l d) given := by
  induction l generalizing d with
  | nil => exact ⟨[], prefix_rfl, fun _ _ => rfl, by simp [loop], rfl, htop, rfl, fun _ _ => rfl⟩
  | cons i l ih =>
    obtain ⟨hi, hl⟩ := nodup_cons.mp hl
    obtain ⟨hdi, hdl⟩ := not_or.mp (mem_cons.not.mp hnew)
    unfold loop
    split
    case isFalse hoff =>
      obtain ⟨given, h⟩ := @ih { d with enabled := Function.update d.enabled i false } hl htop hdl
        (fun j hj => hfree j (mem_cons_of_mem i hj)) hsum hstable
      refine ⟨given, ?_, h.others, h.full, h.last, h.topOk, h.total, fun j hj => ?_⟩
      · rw [filter_cons_of_neg hoff]
        exact h.isPrefix
      · obtain ⟨hji, hjl⟩ := not_or.mp (mem_cons.not.mp hj)
        exact (h.enabled j hjl).trans (Function.update_of_ne hji _ _)
    case isTrue hon =>
      split
      case isTrue =>
        refine ⟨[], nil_prefix, fun _ _ => rfl, by simp, rfl, htop, rfl, fun j hj => if_neg hj⟩
      case isFalse hroom =>
        have hleft : c.minRate i ≤ d.left :=
          (minRate_le (htarget i) (hscaled i)).trans (hstable ▸ not_lt.mp hroom)
        obtain ⟨htop', htotal, hsame⟩ :=
          serve_topOk (hfree i mem_cons_self) hsum hleft (htarget i)
        obtain ⟨given, h⟩ := @ih (d.serve c i) hl htop' hi
          (fun j hj => (hsame j fun heq => hi (heq ▸ hj)).trans (hfree j (mem_cons_of_mem i hj)))
          (htotal ▸ hsum) (by simp only [serve, hstable])
        have hgiven : ∀ j ∈ given, j ∈ l := fun j hj => mem_of_mem_filter (h.isPrefix.subset hj)
        refine ⟨i :: given, ?_, fun j hj => ?_, fun j hj hne => ?_, ?_, h.topOk,
          h.total.trans htotal, fun j hj => ?_⟩
        · rw [filter_cons_of_pos hon]
          exact (prefix_cons_inj i).mpr h.isPrefix
        · obtain ⟨hji, hjg⟩ := not_or.mp (mem_cons.not.mp hj)
          exact (h.others j hjg).trans (hsame j hji)
        · obtain rfl | hj := mem_cons.mp hj
          · -- The stream before was served in full, since something was left for this one.
            obtain ⟨r, hr, -, -, -, hfull⟩ := htop
            have hpos := hmin i hon
            rw [h.others _ (fun hmem => hdl (hgiven _ hmem)), hsame _ hdi, hr,
              hfull.resolve_right (by omega)]
          · exact h.full j hj hne
        · rw [getLast?_cons_cons]
          exact h.last
        · obtain ⟨hji, hjl⟩ := not_or.mp (mem_cons.not.mp hj)
          exact (h.enabled j hjl).trans (Function.update_of_ne hji _ _)

lemma topUp_spec (htop : TopOk c d) (hmax : c.targetRate d.top ≤ c.maxRate d.top)
    (hsum : d.allocation.sum + d.left < 2 ^ 32) :
    (∃ r, (d.topUp c).bitrates d.top = some r ∧ c.minRate d.top ≤ r ∧ r ≤ c.maxRate d.top) ∧
      (d.topUp c).sum ≤ d.allocation.sum + d.left ∧
      ∀ i ≠ d.top, (d.topUp c).bitrates i = d.allocation.bitrates i := by
  obtain ⟨r, hr, hmin, htarget, hle, hfull⟩ := htop
  unfold topUp
  split
  · rw [setBitrate_eq (by rw [hr, Option.getD_some]; omega), hr, Option.getD_some]
    refine ⟨⟨_, Function.update_self .., ?_⟩, ?_, fun i hi => Function.update_of_ne hi _ _⟩
    · omega
    · simp only
      omega
  · exact ⟨⟨r, hr, hmin, htarget.trans hmax⟩, Nat.le_add_right _ _, fun _ _ => rfl⟩

end Distribution

namespace VideoCodec

structure Valid (c : VideoCodec) : Prop where
  streams : c.simulcastStream ≠ []
  min_pos : ∀ i, c.isActive i → 0 < c.minRate i
  min_le : ∀ i, c.minRate i ≤ c.targetRate i
  le_max : ∀ i, c.targetRate i ≤ c.maxRate i

/-- The capped total, or the minimum of the first active stream. -/
def limit (c : VideoCodec) (total : Nat) : Nat :=
  max (c.capped total) ((c.activeLayers.head?.map c.minRate).getD 0)

/-- The streams `given` have rates: the first active ones, within their limits and all but the
last at their target. -/
structure Respects (c : VideoCodec) (total : Nat) (a : VideoBitrateAllocation)
    (given : List Nat) : Prop where
  isPrefix : given <+: c.activeLayers
  first : ∀ i ∈ c.activeLayers.head?, i ∈ given
  others : ∀ i ∉ given, a.bitrates i = none
  limits : ∀ i ∈ given, ∃ r, a.bitrates i = some r ∧ c.minRate i ≤ r ∧ r ≤ c.maxRate i ∧
    (given.getLast? ≠ some i → r = c.targetRate i)
  sum : a.sum ≤ c.limit total

def FirstOn (c : VideoCodec) (enabled : Option (Nat → Bool)) : Prop :=
  ∀ f ∈ enabled, ∀ i ∈ c.activeLayers.head?, f i

end VideoCodec

namespace Distribution

lemma Serves.respects {l given : List Nat} {e : Distribution} {total : Nat} (hc : c.Valid)
    (h : Serves c l d e given) (hactive : c.activeLayers = d.top :: l.filter c.isActive)
    (hfree : ∀ i ≠ d.top, d.allocation.bitrates i = none) (htotal : c.limit total < 2 ^ 32)
    (hlimit : d.allocation.sum + d.left = c.limit total) :
    c.Respects total (e.topUp c) (d.top :: given) := by
  obtain ⟨⟨r, hr, hmin, hmax⟩, hsum, hsame⟩ :=
    topUp_spec h.topOk (hc.le_max _) (by rwa [h.total, hlimit])
  refine ⟨?_, by simp [hactive], fun i hi => ?_, fun i hi => ?_, ?_⟩
  · rw [hactive]
    exact (prefix_cons_inj _).mpr h.isPrefix
  · obtain ⟨hne, hgiven⟩ := not_or.mp (mem_cons.not.mp hi)
    have htop : i ≠ e.top := fun heq => hi (heq ▸ mem_of_getLast? h.last)
    rw [hsame i htop, h.others i hgiven, hfree i hne]
  · by_cases htop : i = e.top
    · exact ⟨r, htop ▸ hr, htop ▸ hmin, htop ▸ hmax, fun hne => absurd (htop ▸ h.last) hne⟩
    · exact ⟨_, (hsame i htop).trans (h.full i hi htop), hc.min_le i, hc.le_max i, fun _ => rfl⟩
  · rwa [h.total, hlimit] at hsum

lemma filter_of_dropWhile {p : Nat → Bool} {l rest : List Nat}
    (h : l.dropWhile (fun j => !p j) = i :: rest) : p i ∧ l.filter p = i :: rest.filter p := by
  induction l with
  | nil => cases h
  | cons j l ih =>
    by_cases hj : p j
    · simp only [dropWhile_cons, hj] at h
      cases h
      exact ⟨hj, filter_cons_of_pos hj⟩
    · simp only [dropWhile_cons, hj] at h
      rw [filter_cons_of_neg hj]
      exact ih h

lemma distribute_respects (hc : c.Valid) (hscaled : ∀ i, c.minRate i ≤ scaled i) {total : Nat}
    (htotal : c.limit total < 2 ^ 32) {enabled : Option (Nat → Bool)} (hon : c.FirstOn enabled) :
    let r := distributeAllocationToSimulcastLayers c scaled total total enabled
    (∃ given, c.Respects total r.1 given) ∧ c.FirstOn r.2 := by
  unfold distributeAllocationToSimulcastLayers
  rw [if_neg hc.streams]
  split
  case h_1 hnone =>
    have hactive : c.activeLayers = [] := filter_eq_nil_iff.mpr fun i hi => by
      simpa using dropWhile_eq_nil_iff.mp hnone i hi
    exact ⟨⟨[], nil_prefix, by simp [hactive], by simp, by simp, Nat.zero_le _⟩, hon⟩
  case h_2 i rest hsome =>
    obtain ⟨hi, hactive⟩ := filter_of_dropWhile hsome
    have hhead : c.activeLayers.head? = some i := by rw [VideoCodec.activeLayers, hactive, head?_cons]
    have hlimit : max (c.capped total) (c.minRate i) = c.limit total := by
      rw [VideoCodec.limit, hhead, Option.map_some, Option.getD_some]
    obtain ⟨hir, hnodup⟩ := nodup_cons.mp
      (((perm_insertionSort _ _).nodup_iff.mpr nodup_range).sublist (hsome ▸ dropWhile_sublist _))
    simp only [hlimit]
    obtain ⟨d, hd⟩ : ∃ d, Distribution.mk {} (enabled.getD fun _ => false) (c.limit total)
      (c.limit total) (c.layers.length - (rest.length + 1)) = d := ⟨_, rfl⟩
    have hmin : minBitrate c enabled.isNone scaled d i = c.minRate i := by
      subst hd
      cases enabled with
      | none => rfl
      | some f => simp [minBitrate, hon f rfl i hhead]
    obtain ⟨hzero, hleft, hstable⟩ : d.allocation = {} ∧ d.left = c.limit total ∧
        d.leftStable = d.left := hd ▸ ⟨rfl, rfl, rfl⟩
    have hge : c.minRate i ≤ d.left := by
      rw [hleft, ← hlimit]
      exact le_max_right _ _
    rw [hd, loop, if_pos hi, hmin, hstable, if_neg (not_lt.mpr hge)]
    have hsum : d.allocation.sum + d.left = c.limit total := by rw [hzero, hleft, Nat.zero_add]
    obtain ⟨htop, hsum', hsame⟩ := serve_topOk (by rw [hzero]) (hsum ▸ htotal) hge (hc.min_le i)
    have hfree : ∀ j ≠ i, (d.serve c i).allocation.bitrates j = none := fun j hj => by
      rw [hsame j hj, hzero]
    obtain ⟨given, h⟩ := @loop_serves c enabled.isNone _ _ hc.min_pos hc.min_le hscaled _ hnodup
      htop hir (fun j hj => hfree j fun heq => hir (heq ▸ hj)) (hsum' ▸ hsum ▸ htotal)
      (by simp only [serve, hstable])
    refine ⟨⟨_, h.respects hc hactive hfree htotal (hsum'.trans hsum)⟩, ?_⟩
    rintro f hf j hj
    obtain rfl := Option.some.inj (hhead.symm.trans hj)
    cases hf
    rw [h.enabled i hir]
    exact Function.update_self ..

end Distribution

namespace VideoCodec

/-- A call of `Allocate`: the total rate, which is also the stable one, and the scaled minima. -/
def allocate (c : VideoCodec) (enabled : Option (Nat → Bool)) (call : Nat × (Nat → Nat)) :
    VideoBitrateAllocation × Option (Nat → Bool) :=
  distributeAllocationToSimulcastLayers c call.2 call.1 call.1 enabled

def enabledAfter (c : VideoCodec) (calls : List (Nat × (Nat → Nat))) : Option (Nat → Bool) :=
  run (fun enabled call => (c.allocate enabled call).2) none calls

lemma layers_pairwise (c : VideoCodec) :
    c.layers.Pairwise fun i j => c.maxRate i ≤ c.maxRate j := by
  have : Std.Total fun i j => c.maxRate i ≤ c.maxRate j := ⟨fun _ _ => le_total _ _⟩
  have : IsTrans Nat fun i j => c.maxRate i ≤ c.maxRate j := ⟨fun _ _ _ => le_trans⟩
  exact pairwise_insertionSort _ _

/-- **Simulcast rates over time.** In every sequence of calls the last one respects the limits,
with the streams in the order of their maximum rates. -/
theorem allocate_respects_limits {c : VideoCodec} (hc : c.Valid) (calls : List (Nat × (Nat → Nat)))
    (call : Nat × (Nat → Nat))
    (h : ∀ k ∈ call :: calls, c.limit k.1 < 2 ^ 32 ∧ ∀ i, c.minRate i ≤ k.2 i) :
    (c.layers ~ range c.simulcastStream.length ∧
      c.layers.Pairwise fun i j => c.maxRate i ≤ c.maxRate j) ∧
    ∃ given, c.Respects call.1 (c.allocate (c.enabledAfter calls) call).1 given := by
  obtain ⟨hcall, h⟩ := forall_mem_cons.mp h
  have hon : c.FirstOn (c.enabledAfter calls) :=
    run_induction_mem (fun e k hk he =>
      (Distribution.distribute_respects hc (h k hk).2 (h k hk).1 he).2) (by simp [FirstOn])
  exact ⟨⟨perm_insertionSort _ _, c.layers_pairwise⟩,
    (Distribution.distribute_respects hc hcall.2 hcall.1 hon).1⟩

/-- Two streams, of which the second call switches the larger one on. -/
theorem allocate_respects_limits_two_streams :
    let c : VideoCodec := ⟨0, 0, true, [⟨900, 500, 300, true⟩, ⟨200, 150, 50, true⟩]⟩
    ∃ given, c.Respects 600000
      (c.allocate (c.enabledAfter [(100000, c.targetRate)]) (600000, c.targetRate)).1 given := by
  intro c
  have hc : c.Valid := by
    refine ⟨by decide, ?_, ?_, ?_⟩ <;> rintro (_ | _ | i) <;>
      simp [c, isActive, minRate, targetRate, maxRate, stream]
  refine (allocate_respects_limits hc [(100000, c.targetRate)] (600000, c.targetRate) ?_).2
  simpa using ⟨⟨by decide, hc.min_le⟩, by decide, hc.min_le⟩

/-- Without minima the streams behind the one that takes the rest are given nothing. -/
theorem zero_minimum_exceeds_limits :
    let c : VideoCodec :=
      ⟨0, 0, true, [⟨100, 0, 0, true⟩, ⟨100, 100, 0, true⟩, ⟨200, 200, 0, true⟩]⟩
    ¬ ∃ given, c.Respects 50000 (c.allocate none (50000, c.minRate)).1 given := by
  rintro c ⟨given, h⟩
  have hmem₁ : 1 ∈ given := by_contra fun hnot => absurd (h.others 1 hnot) (by decide)
  have hmem₂ : 2 ∈ given := by_contra fun hnot => absurd (h.others 2 hnot) (by decide)
  obtain ⟨r, hr, -, -, hlast⟩ := h.limits 1 hmem₁
  obtain ⟨r', hr', -, -, hlast'⟩ := h.limits 2 hmem₂
  by_cases hne : given.getLast? = some 1
  · rw [hlast' (by rw [hne]; decide)] at hr'
    exact absurd hr' (by decide)
  · rw [hlast hne] at hr
    exact absurd hr (by decide)

end VideoCodec

end WebRtc.VideoCoding
