import Mathlib.Data.List.Basic
import Mathlib.Data.Prod.Lex

/-!
# P2P — which connection is pinged next

Rule 4 of `BasicIceController::FindNextPingableConnection`: the largest of the pingable
connections in the order of `MorePingable`. That it is an order fails for UDP relays
(`proper_iff`), since `MostLikelyToWork` tests `udp2 && udp1` in its last branch.
-/

namespace WebRtc.P2p

open List

/-- `Connection`, as far as the choice reads it. `id` stands for the object's address. -/
structure Connection where
  id : Nat
  localIsRelay : Bool
  remoteIsRelay : Bool
  relayProtocol : String
  lastPingSent : Int
deriving DecidableEq

structure BasicIceController where
  prioritizeMostLikelyCandidatePairs : Bool
  connections : List Connection

namespace BasicIceController

def isRelayRelay (c : Connection) : Bool := c.localIsRelay && c.remoteIsRelay

def isUdp (c : Connection) : Bool := c.relayProtocol == "udp"

def mostLikelyToWork (c d : Connection) : Option Connection :=
  if isRelayRelay c && !isRelayRelay d then some c
  else if isRelayRelay d && !isRelayRelay c then some d
  else if isRelayRelay c && isRelayRelay d then
    if isUdp c && !isUdp d then some c
    else if isUdp d && isUdp c then some d
    else none
  else none

def leastRecentlyPinged (c d : Connection) : Option Connection :=
  if c.lastPingSent < d.lastPingSent then some c
  else if d.lastPingSent < c.lastPingSent then some d
  else none

variable (t : BasicIceController)

def longerWaiting (c d : Connection) : Option Connection :=
  (leastRecentlyPinged c d).or (t.connections.find? fun e => e == c || e == d)

def morePingable (c d : Connection) : Option Connection :=
  (if t.prioritizeMostLikelyCandidatePairs then mostLikelyToWork c d else none).or
    (t.longerWaiting c d)

def less (c d : Connection) : Bool := c != d && t.morePingable c d == some d

/-- `max_element` over the pingable connections, in the order the set is iterated in. -/
def maxElement : List Connection → Option Connection
  | [] => none
  | c :: rest => some (rest.foldl (fun best e => if t.less best e then e else best) c)

/-! ## The preference -/

def waiting (c : Connection) : ℤ ×ₗ ℕ := toLex (c.lastPingSent, t.connections.idxOf c)

/-- With the option on, relays before others and UDP relays before other relays. -/
def preference (c : Connection) : ℕ ×ₗ ℤ ×ₗ ℕ :=
  toLex (if t.prioritizeMostLikelyCandidatePairs then
    if isRelayRelay c then if isUdp c then 0 else 1 else 2 else 0, t.waiting c)

/-- Among the connections that satisfy `p`, the argument order does not matter, the
comparison is that of `preference`, and none is preferred to the one chosen, however the
set is iterated. -/
def Proper (p : Connection → Bool) : Prop :=
  let s := t.connections.filter p
  (∀ c ∈ s, ∀ d ∈ s, c ≠ d → t.morePingable c d = t.morePingable d c) ∧
    (∀ c ∈ s, ∀ d ∈ s, t.less c d ↔ t.preference d < t.preference c) ∧
    ∀ l, (∀ c, c ∈ l ↔ c ∈ s) → ∀ m ∈ t.maxElement l, ∀ c ∈ s, t.preference m ≤ t.preference c

variable {t} {c d : Connection}

lemma waiting_ne (hc : c ∈ t.connections) (h : c ≠ d) : t.waiting c ≠ t.waiting d := by
  intro heq
  have := (Prod.ext_iff.mp (toLex.injective heq)).2
  exact h ((idxOf_inj hc).mp this)

lemma find?_either {l : List Connection} (hc : c ∈ l) (h : c ≠ d) :
    l.find? (fun e => e == c || e == d) = some (if l.idxOf c < l.idxOf d then c else d) := by
  induction l with
  | nil => simp at hc
  | cons e l ih =>
    rw [find?_cons, idxOf_cons, idxOf_cons]
    by_cases hec : e = c
    · have hcd : (c == d) = false := beq_eq_false_iff_ne.mpr h
      simp [hec, hcd]
    by_cases hed : e = d
    · simp [hed]
    have h1 : (e == c) = false := beq_eq_false_iff_ne.mpr hec
    have h2 : (e == d) = false := beq_eq_false_iff_ne.mpr hed
    simp [h1, h2, ih ((mem_cons.mp hc).resolve_left (Ne.symm hec))]

lemma longerWaiting_eq (hc : c ∈ t.connections) (h : c ≠ d) :
    t.longerWaiting c d = some (if t.waiting c < t.waiting d then c else d) := by
  simp only [longerWaiting, leastRecentlyPinged, waiting, Prod.Lex.toLex_lt_toLex, find?_either hc h]
  rcases lt_trichotomy c.lastPingSent d.lastPingSent with hlt | heq | hgt
  · simp [hlt]
  · simp [heq]
  · simp [hgt, hgt.not_gt, hgt.ne']

lemma maxElement_foldl {s l : List Connection} {best : Connection}
    (hless : ∀ c ∈ s, ∀ d ∈ s, t.less c d ↔ t.preference d < t.preference c)
    (hbest : best ∈ s) (hl : ∀ c ∈ l, c ∈ s) : ∀ c ∈ best :: l,
      t.preference (l.foldl (fun best e => if t.less best e then e else best) best) ≤
        t.preference c := by
  induction l generalizing best with
  | nil => simp
  | cons e l ih =>
    obtain ⟨he, hl⟩ := forall_mem_cons.mp hl
    rw [forall_mem_cons, foldl_cons]
    split_ifs with h
    · have hlt := (hless best hbest e he).mp h
      have hle := ih he hl
      exact ⟨(hle e mem_cons_self).trans hlt.le, hle⟩
    · have hge := le_of_not_gt (mt (hless best hbest e he).mpr h)
      obtain ⟨hb, hle⟩ := forall_mem_cons.mp (ih hbest hl)
      exact ⟨hb, forall_mem_cons.mpr ⟨hb.trans hge, hle⟩⟩

lemma mem_of_maxElement {l : List Connection} (h : c ∈ t.maxElement l) : c ∈ l := by
  cases l with
  | nil => cases h
  | cons d l =>
    cases h
    induction l generalizing d with
    | nil => exact mem_cons_self
    | cons e l ih =>
      rw [foldl_cons]
      split
      · exact mem_cons_of_mem d (ih e)
      · exact mem_cons.mpr ((mem_cons.mp (ih d)).imp_right (mem_cons_of_mem e))

/-- No relay waits longer than a UDP relay. -/
def UdpRelaysFirst (t : BasicIceController) (p : Connection → Bool) : Prop :=
  t.prioritizeMostLikelyCandidatePairs → ∀ c ∈ t.connections.filter p, ∀ d ∈ t.connections.filter p,
    c ≠ d → isRelayRelay c → isRelayRelay d → isUdp d → t.waiting d < t.waiting c

lemma morePingable_eq {p : Connection → Bool} (hudp : t.UdpRelaysFirst p)
    (hc : c ∈ t.connections.filter p) (hd : d ∈ t.connections.filter p) (h : c ≠ d) :
    t.morePingable c d = some (if t.preference c < t.preference d then c else d) := by
  have hcd := fun hon => hudp hon c hc d hd h
  have hdc := fun hon => hudp hon d hd c hc h.symm
  simp only [morePingable, preference, Prod.Lex.toLex_lt_toLex,
    longerWaiting_eq (mem_of_mem_filter hc) h, mostLikelyToWork]
  generalize t.waiting c = wc at hcd hdc ⊢
  generalize t.waiting d = wd at hcd hdc ⊢
  generalize isRelayRelay c = rc, isRelayRelay d = rd, isUdp c = uc, isUdp d = ud,
    t.prioritizeMostLikelyCandidatePairs = on at hcd hdc ⊢
  cases on
  · simp
  cases rc <;> cases rd <;> cases uc <;> cases ud <;> simp at hcd hdc ⊢
  -- What is left are pairs whose second one goes over UDP.
  all_goals exact fun hlt => absurd hlt hcd.not_gt

/-- **The choice of a ping.** It is a proper preference just when no relay-relay connection
waits longer than one that goes over UDP. -/
theorem proper_iff (t : BasicIceController) (p : Connection → Bool) :
    t.Proper p ↔ t.UdpRelaysFirst p := by
  constructor
  · rintro ⟨hsymm, -, -⟩ hon c hc d hd h hrc hrd hud
    have hcd := hsymm c hc d hd h
    have hw := waiting_ne (mem_of_mem_filter hc) h
    simp only [morePingable, hon, mostLikelyToWork, hrc, hrd, hud,
      longerWaiting_eq (mem_of_mem_filter hc) h] at hcd
    cases huc : isUdp c with
    | true => simp [huc, h.symm] at hcd
    | false =>
      by_contra hnot
      have hlt : t.waiting c < t.waiting d := lt_of_le_of_ne (le_of_not_gt hnot) hw
      simp [huc, hlt, h] at hcd
  · intro hudp
    have hmore := fun c hc d hd h => @morePingable_eq t c d p hudp hc hd h
    have hcmp : ∀ c ∈ t.connections.filter p, ∀ d, c ≠ d →
        t.preference c < t.preference d ∨ t.preference d < t.preference c := fun c hc d h =>
      lt_or_gt_of_ne fun heq => waiting_ne (mem_of_mem_filter hc) h
        (Prod.ext_iff.mp (toLex.injective heq)).2
    have hless : ∀ c ∈ t.connections.filter p, ∀ d ∈ t.connections.filter p,
        (t.less c d ↔ t.preference d < t.preference c) := by
      intro c hc d hd
      by_cases h : c = d
      · simp [less, h]
      rcases hcmp c hc d h with hlt | hgt
      · simp [less, hmore c hc d hd h, h, hlt, hlt.not_gt]
      · simp [less, hmore c hc d hd h, h, hgt, hgt.not_gt]
    refine ⟨fun c hc d hd h => ?_, hless, fun l hl m hm c hc => ?_⟩
    · rw [hmore c hc d hd h, hmore d hd c hc h.symm]
      rcases hcmp c hc d h with hlt | hgt
      · simp [hlt, hlt.not_gt]
      · simp [hgt, hgt.not_gt]
    · cases l with
      | nil => exact absurd ((hl c).mpr hc) (by simp)
      | cons e l =>
        obtain ⟨he, hl'⟩ := forall_mem_cons.mp fun c hc => (hl c).mp hc
        cases hm
        exact maxElement_foldl hless he hl' c ((hl c).mpr hc)

/-- Two UDP relays that have not been pinged: each call prefers its second argument. -/
theorem udp_relays_depend_on_order :
    let c : Connection := ⟨0, true, true, "udp", 0⟩
    let d : Connection := ⟨1, true, true, "udp", 0⟩
    ¬ (⟨true, [c, d]⟩ : BasicIceController).Proper fun _ => true := by
  intro c d hproper
  exact absurd (hproper.1 c (by decide) d (by decide) (by decide)) (by decide)

end BasicIceController

end WebRtc.P2p
