import WebRtc.VideoCoding.PaddingContinuity

/-!
# WebRTC — runs of the sequence-number reference finder

Calls of the finder come with the unwrapped numbers behind their 16-bit ones. `Observed` follows the
algorithm on the unwrapped numbers together with the history of the calls; the finder itself is its
image (`finder_run`).
-/

namespace WebRtc.VideoCoding

open Numerics Lib WebRtc.VideoCoding.Numbering GopTracker

inductive RefFinderCall where
  | frame (f : SeqNumFrame Int)
  | padding (seqNum : Int)

def RefFinderCall.Within (lo : Int) : RefFinderCall → Prop
  | .frame f => f.Within lo
  | .padding n => Held lo n

def RtpSeqNumOnlyRefFinder.step (s : RtpSeqNumOnlyRefFinder) :
    RefFinderCall → RtpSeqNumOnlyRefFinder
  | .frame f => (s.manageFrame (f.map onWire)).2
  | .padding n => (s.paddingReceived (onWire n)).2

/-- The algorithm on unwrapped numbers, and what it has been given and has
handed off so far. -/
structure Observed where
  tracker : GopTracker Int := {}
  history : History := {}
deriving DecidableEq

variable {c : RefFinderCall} {o : Observed}

namespace Observed

def step (o : Observed) : RefFinderCall → Observed
  | .frame f =>
    let r := o.tracker.manageFrame unwrapped f
    ⟨r.1, ({ o.history with frames := f :: o.history.frames }).handing r.2⟩
  | .padding n =>
    let r := o.tracker.paddingReceived unwrapped n
    ⟨r.1, ({ o.history with padding := n :: o.history.padding }).handing r.2⟩

/-- What is asked of a call: its numbers and those held by the finder lie within
half the number space, and it is in order as a frame or as padding. -/
def Orderly (o : Observed) (c : RefFinderCall) : Prop :=
  (∃ lo, o.tracker.Within lo ∧ c.Within lo) ∧
    match c with
    | .frame f => FrameOk o.history o.tracker f
    | .padding n => PaddingOk o.history o.tracker n

structure Sound (o : Observed) : Prop where
  orderly : o.history.Orderly
  tracks : o.tracker.Tracks o.history

lemma sound_init : ({} : Observed).Sound := by
  refine ⟨⟨by simp, by simp, by simp⟩, ⟨.inl ⟨rfl, rfl, List.Pairwise.nil, by simp⟩, by simp⟩⟩

lemma Sound.step (h : o.Sound) (hok : o.Orderly c) :
    (o.step c).Sound := by
  cases c with
  | frame f =>
    have hord := hok.2.orderly h.orderly
    exact ⟨⟨hord.ranges, hord.disjoint, hord.padding⟩, manageFrame_tracks h.orderly hok.2 h.tracks⟩
  | padding n =>
    have hord := hok.2.orderly h.orderly
    exact ⟨⟨hord.ranges, hord.disjoint, hord.padding⟩,
      paddingReceived_tracks h.orderly hok.2 h.tracks⟩

lemma observed_run {calls : List RefFinderCall} (h : Along step Orderly {} calls) :
    (run step {} calls).Sound :=
  run_induction_along (P := Sound) (fun _ _ hs hok => Sound.step hs hok) calls {} sound_init h

end Observed

open Observed

/-- The numbers of the call and those that are held lie within half the number space. -/
def Observed.Near (o : Observed) (c : RefFinderCall) : Prop := ∃ lo, o.tracker.Within lo ∧ c.Within lo

def RtpSeqNumOnlyRefFinder.handsOff (s : RtpSeqNumOnlyRefFinder) :
    RefFinderCall → List (HandedOff (BitVec 16))
  | .frame f => (s.tracker.manageFrame wire (f.map onWire)).2
  | .padding n => (s.tracker.paddingReceived wire (onWire n)).2

def Observed.handsOff (o : Observed) : RefFinderCall → List (HandedOff Int)
  | .frame f => (o.tracker.manageFrame unwrapped f).2
  | .padding n => (o.tracker.paddingReceived unwrapped n).2

lemma finder_call {s : RtpSeqNumOnlyRefFinder} (hs : s.tracker = o.tracker.map onWire)
    (hnear : o.Near c) : (s.step c).tracker = (o.step c).tracker.map onWire ∧
      s.handsOff c = (o.handsOff c).map (HandedOff.map onWire) := by
  obtain ⟨lo, hwi, hc⟩ := hnear
  cases c with
  | frame f =>
    have hcall := manageFrame_onWire hwi hc
    rw [← hs] at hcall
    exact ⟨congrArg Prod.fst hcall, congrArg Prod.snd hcall⟩
  | padding n =>
    have hcall := paddingReceived_onWire hwi hc
    rw [← hs] at hcall
    exact ⟨congrArg Prod.fst hcall, congrArg Prod.snd hcall⟩

lemma finder_run {ok : Observed → RefFinderCall → Prop} (hnear : ∀ o c, ok o c → o.Near c)
    (calls : List RefFinderCall) : ∀ (s : RtpSeqNumOnlyRefFinder) (o : Observed),
      s.tracker = o.tracker.map onWire → Along step ok o calls →
      (run RtpSeqNumOnlyRefFinder.step s calls).tracker
        = (run step o calls).tracker.map onWire := by
  induction calls with
  | nil =>
    intro s o hs _
    exact hs
  | cons c calls ih =>
    intro s o hs hok
    exact ih _ _ (finder_call hs (hnear o c hok.1)).1 hok.2

/-! ## The frame that continues the stream -/

/-- The frame follows the last frame that was handed off, with nothing but
received padding in between. -/
def History.ContinuedBy (h : History) (f : SeqNumFrame Int) : Prop :=
  ∃ last ∈ h.handedOff, (∀ n ∈ h.handedOff, n ≤ last) ∧ last < f.firstSeqNum ∧
    ∀ n, last < n → n < f.firstSeqNum → n ∈ h.padding

variable {f : SeqNumFrame Int} {h : History}

lemma firstSeqNum_of_continuedBy {k : SeqNumFrame Int} {older : List (Gop Int)}
    {newest : Gop Int} {stash : List Int}
    (ht : Tracked h k older newest stash) (hrange : f.firstSeqNum ≤ f.lastSeqNum)
    (hfresh : ∀ n, f.Covers n → ¬ h.Used n) (hcont : h.ContinuedBy f) :
    f.firstSeqNum = newest.lastWithPadding + 1 := by
  obtain ⟨last, hlast, hmax, hlt, hbetween⟩ := hcont
  have heq : last = newest.lastPictureId :=
    le_antisymm (ht.handed.2 last hlast) (hmax _ ht.handed.1)
  have hle := ht.last_le
  -- The group has not gone past the frame: the frame's number is not padding.
  have hnot : newest.lastWithPadding < f.firstSeqNum := by
    by_contra hge
    exact hfresh f.firstSeqNum ⟨le_rfl, hrange⟩ (.inl (ht.between _ (by omega) (by omega)))
  -- Nor has it stopped before: the next number would be padding in the stash.
  by_contra hne
  exact ht.stopped (ht.pending _ (hbetween _ (by omega) (by omega)) (by omega))

lemma handOff_of_continuedBy {t : GopTracker Int}
    (hord : h.Orderly) (ht : t.Tracks h) (hok : FrameOk h t f) (hdelta : f.frameType = .delta)
    (hcont : h.ContinuedBy f) : (manageFrameInternal unwrapped f t).1 = .handOff := by
  rcases ht.groups with ⟨-, hnone, -⟩ | ⟨k, older, newest, hgops, htrk⟩
  · obtain ⟨last, hlast, -⟩ := hcont
    rw [hnone] at hlast
    cases hlast
  have hfirst := firstSeqNum_of_continuedBy htrk hok.range hok.fresh hcont
  have hrange := hok.range
  have hkey := htrk.key_le
  have henter : enterFrame unwrapped f t.lastSeqNumGop = t.lastSeqNumGop := by
    rw [enterFrame, hdelta]
  obtain ⟨older', hcln, hsub, -⟩ := cleanGops_spec (n := f.lastSeqNum) htrk.sorted
  rw [← hgops, ← henter] at hcln
  obtain ⟨htk, hend⟩ := tracking_takeFrame (hok.orderly hord) List.mem_cons_self
    ((htrk.mono f).sublist hsub) (by omega) hfirst
  have hne : enterFrame unwrapped f t.lastSeqNumGop ≠ [] := by
    rw [henter, hgops]
    simp
  exact (handOff_newest hne hcln (by omega) (fun _ => hfirst) htk hend).1

lemma head?_retryStashedFrames (fuel : Nat) :
    ∀ (t : GopTracker Int) (res : List (HandedOff Int)), res ≠ [] →
      (retryStashedFrames unwrapped fuel t res).2.head? = res.head? := by
  induction fuel with
  | zero =>
    intro t res _
    rfl
  | succ fuel ih =>
    intro t res hres
    rw [retryStashedFrames]
    dsimp only
    split
    · rfl
    · rw [ih _ _ (by simp [hres]), List.head?_append_of_ne_nil _ hres]

/-- In every run of orderly calls, a delta frame that follows the last frame
that was handed off, with nothing but received padding in between, is handed
off by the call that brings it. -/
theorem manageFrame_hands_off_continuing_frame {calls : List RefFinderCall}
    (hcalls : Along step Orderly {} calls) {f : SeqNumFrame Int}
    (hok : (run step {} calls).Orderly (.frame f)) (hdelta : f.frameType = .delta)
    (hcont : (run step {} calls).history.ContinuedBy f) :
    ((run RtpSeqNumOnlyRefFinder.step {} calls).manageFrame (f.map onWire)).1.head?.map
      SeqNumOnlyFrame.frame = some (f.map onWire) := by
  have hsound := observed_run hcalls
  have hrun := finder_run (fun _ _ hok => hok.1) calls {} {} rfl hcalls
  generalize run RtpSeqNumOnlyRefFinder.step {} calls = s at hrun
  generalize run step {} calls = o at hsound hrun hok hcont
  obtain ⟨lo, hwi, hf⟩ := hok.1
  have hhand := handOff_of_continuedBy hsound.orderly hsound.tracks hok.2 hdelta hcont
  obtain ⟨hiff, -⟩ := manageFrameInternal_tracks hsound.orderly hok.2 hsound.tracks.groups
  obtain ⟨reference, href⟩ := Option.isSome_iff_exists.mp (hiff.mp hhand)
  have hhead : (o.tracker.manageFrame unwrapped f).2.head? = some ⟨f, reference⟩ := by
    unfold manageFrame
    generalize manageFrameInternal unwrapped f o.tracker = r at hhand href
    obtain ⟨decision, reference', t⟩ := r
    subst hhand href
    exact head?_retryStashedFrames _ t [⟨f, reference⟩] (by simp)
  have hwire : (s.tracker.manageFrame wire (f.map onWire)).2
      = (o.tracker.manageFrame unwrapped f).2.map (HandedOff.map onWire) := by
    rw [hrun, manageFrame_onWire hwi hf]
    rfl
  show (RtpSeqNumOnlyRefFinder.finish s.unwrapper
    (s.tracker.manageFrame wire (f.map onWire)).2).1.head?.map SeqNumOnlyFrame.frame = _
  rw [hwire]
  generalize (o.tracker.manageFrame unwrapped f).2 = res at hhead
  cases res with
  | nil => cases hhead
  | cons r res =>
    cases hhead
    rfl

def keyThenPadding (n : Int) : List RefFinderCall := [.frame ⟨.key, 0, 0⟩, .padding n]

theorem delta_after_padding_handed_off :
    ((run RtpSeqNumOnlyRefFinder.step {} (keyThenPadding 1)).manageFrame ⟨.delta, 2, 3⟩).1.head?.map
      SeqNumOnlyFrame.frame = some ⟨.delta, 2, 3⟩ := by
  have hkey : step {} (.frame ⟨.key, 0, 0⟩)
      = ⟨⟨[⟨0, 0, 0⟩], [], []⟩, ⟨[], [⟨.key, 0, 0⟩], [0]⟩⟩ := by decide +kernel
  have hrun : run step {} (keyThenPadding 1)
      = ⟨⟨[⟨0, 0, 1⟩], [], []⟩, ⟨[1], [⟨.key, 0, 0⟩], [0]⟩⟩ := by decide +kernel
  have hcalls : Along step Orderly {} (keyThenPadding 1) := by
    refine ⟨⟨⟨-1000, ⟨by simp, by simp, by simp⟩, by decide, by decide⟩, ⟨le_rfl, ?_, by simp⟩⟩, ?_⟩
    · rintro n - (hn | ⟨f, hf, -⟩)
      · cases hn
      · cases hf
    rw [hkey]
    refine ⟨⟨⟨-1000, ⟨?_, by simp, by simp⟩, (by decide : Held (-1000) 1)⟩, ⟨?_, ?_, by simp⟩⟩,
      trivial⟩
    · simp [Gop.Within, Held]
    · simp [SeqNumFrame.Covers]
    · simp
  refine manageFrame_hands_off_continuing_frame hcalls (f := ⟨.delta, 2, 3⟩) ?_ rfl ?_
  · rw [hrun]
    refine ⟨⟨-1000, ⟨?_, by simp, by simp⟩, by decide, by decide⟩, ⟨by decide, ?_, by simp⟩⟩
    · simp [Gop.Within, Held]
    intro n hn
    simp only [SeqNumFrame.Covers] at hn
    simp [History.Used, SeqNumFrame.Covers]
    omega
  · rw [hrun]
    refine ⟨0, by simp, by simp, by decide, ?_⟩
    intro n hlo hhi
    dsimp only at hlo hhi
    simp only [List.mem_singleton]
    omega

/-- After a key frame with number 0 the padding packet 10001 comes in, and then
the frame with number 1, which directly follows the key frame. The padding has
become the key of the group, and the frame is dropped for want of one. -/
theorem far_padding_drops_next_frame :
    (run step {} (keyThenPadding 10001)).history.ContinuedBy ⟨.delta, 1, 1⟩ ∧
      ((run RtpSeqNumOnlyRefFinder.step {} (keyThenPadding 10001)).tracker.manageFrameInternal wire
        ⟨.delta, 1, 1⟩).1 = .drop ∧
      ((run RtpSeqNumOnlyRefFinder.step {} (keyThenPadding 10001)).manageFrame
        ⟨.delta, 1, 1⟩).1 = [] := by
  have hhistory : (run step {} (keyThenPadding 10001)).history
      = ⟨[10001], [⟨.key, 0, 0⟩], [0]⟩ := by decide +kernel
  refine ⟨?_, by decide +kernel, by decide +kernel⟩
  rw [hhistory]
  refine ⟨0, by simp, by simp, by decide, ?_⟩
  intro n hlo hhi
  dsimp only at hlo hhi
  omega

/-! ## The finder and the algorithm on unwrapped numbers -/

def RtpSeqNumOnlyRefFinder.returns (s : RtpSeqNumOnlyRefFinder) : RefFinderCall → List SeqNumOnlyFrame
  | .frame f => (s.manageFrame (f.map onWire)).1
  | .padding n => (s.paddingReceived (onWire n)).1

/-- A returned frame with its id and references as they are on the wire. -/
def SeqNumOnlyFrame.onWire (f : SeqNumOnlyFrame) : SeqNumFrame (BitVec 16) × BitVec 16 × List (BitVec 16) :=
  (f.frame, wrap 16 f.id, f.references.map (wrap 16))

def HandedOff.expected (h : HandedOff (BitVec 16)) :
    SeqNumFrame (BitVec 16) × BitVec 16 × List (BitVec 16) :=
  (h.frame, h.frame.lastSeqNum, if h.frame.frameType = .delta then [h.reference] else [])

/-- The last unwrapping keeps the numbers that go on the wire. -/
lemma finish_onWire (u : SeqNumUnwrapper 16) (hs : List (HandedOff (BitVec 16))) :
    (RtpSeqNumOnlyRefFinder.finish u hs).1.map SeqNumOnlyFrame.onWire = hs.map HandedOff.expected := by
  induction hs generalizing u with
  | nil => rfl
  | cons h hs ih =>
    rw [RtpSeqNumOnlyRefFinder.finish, List.map_cons, List.map_cons, ih]
    refine congrArg (· :: _) ?_
    unfold SeqNumOnlyFrame.onWire HandedOff.expected
    split <;> simp [SeqNumUnwrapper.wrap_peekUnwrap]

/-- **The finder refines the algorithm on numbers that do not wrap**: in every run whose numbers
stay near those held, across any number of wraps, each call hands off the same frames, in the same
order and with the same references, and returns them with these as ids and references. -/
theorem finder_refines_unwrapped {calls : List RefFinderCall} (h : Along Observed.step Near {} calls)
    {c : RefFinderCall} (hc : (run Observed.step {} calls).Near c) :
    (run RtpSeqNumOnlyRefFinder.step {} calls).handsOff c =
      ((run Observed.step {} calls).handsOff c).map (HandedOff.map onWire) ∧
    ((run RtpSeqNumOnlyRefFinder.step {} calls).returns c).map SeqNumOnlyFrame.onWire =
      ((run Observed.step {} calls).handsOff c).map fun h => (h.map onWire).expected := by
  have hrun := finder_run (fun _ _ hnear => hnear) calls {} {} rfl h
  have hcall := (finder_call hrun hc).2
  refine ⟨hcall, ?_⟩
  have hreturns : ((run RtpSeqNumOnlyRefFinder.step {} calls).returns c).map SeqNumOnlyFrame.onWire =
      ((run RtpSeqNumOnlyRefFinder.step {} calls).handsOff c).map HandedOff.expected := by
    cases c <;> exact finish_onWire _ _
  rw [hreturns, hcall, List.map_map]
  rfl

/-- The delta frame 65536, which is sent as 0, comes in while 65535 is the picture it refers to. -/
theorem finder_refines_unwrapped_over_the_wrap :
    (run RtpSeqNumOnlyRefFinder.step {} [.frame ⟨.key, 65534, 65535⟩]).handsOff
        (.frame ⟨.delta, 65536, 65536⟩) = [⟨⟨.delta, 0, 0⟩, 65535⟩] ∧
    ((run RtpSeqNumOnlyRefFinder.step {} [.frame ⟨.key, 65534, 65535⟩]).returns
      (.frame ⟨.delta, 65536, 65536⟩)).map SeqNumOnlyFrame.onWire = [(⟨.delta, 0, 0⟩, 0, [65535])] := by
  have hrun : run Observed.step {} [.frame ⟨.key, 65534, 65535⟩] =
      ⟨⟨[⟨65535, 65535, 65535⟩], [], []⟩, ⟨[], [⟨.key, 65534, 65535⟩], [65535]⟩⟩ := by decide +kernel
  have hcalls : Along Observed.step Near {} [.frame ⟨.key, 65534, 65535⟩] :=
    ⟨⟨65000, ⟨by simp, by simp, by simp⟩, by decide, by decide⟩, trivial⟩
  obtain ⟨hhanded, hreturned⟩ := finder_refines_unwrapped hcalls (c := .frame ⟨.delta, 65536, 65536⟩) (by
    rw [hrun]
    exact ⟨65000, ⟨by simp [Gop.Within, Held], by simp, by simp⟩, by decide, by decide⟩)
  rw [hhanded, hreturned, hrun]
  decide +kernel

end WebRtc.VideoCoding
