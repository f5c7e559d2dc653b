import Mathlib.Algebra.GroupWithZero.Nat
import Mathlib.Data.List.Sort
import WebRtc.Lib.Comparison
import WebRtc.P2p.BasicIceController

/-!
# P2P — ranking, switching and pruning of connections

`BasicIceController::SortAndSwitchConnection` sorts the connections by a chain of comparisons and
proposes to switch to the first one; `PruneConnections` names the connections that another one of
their network makes superfluous. The chain is built with `prefer` and `thenBy`, so that it ranks.
-/

namespace WebRtc.P2p

open List Lib

/-- In the order of the enumerators, better states first. -/
inductive WriteState where
  | writable | writeUnreliable | writeInit | writeTimeout
deriving DecidableEq

def WriteState.value : WriteState → Nat
  | .writable => 0
  | .writeUnreliable => 1
  | .writeInit => 2
  | .writeTimeout => 3

inductive AdapterType where
  | unknown | ethernet | wifi | cellular | vpn | loopback | any
  | cellular2G | cellular3G | cellular4G | cellular5G
deriving DecidableEq

inductive VpnPreference where
  | default | onlyUseVpn | neverUseVpn | preferVpn | avoidVpn
deriving DecidableEq

inductive IceRole where
  | controlling | controlled | unknown
deriving DecidableEq

/-- `id` stands for the object's address, `ipIsAny` for `IPIsAny(GetBestIP())`. -/
structure Network where
  id : Nat
  type : AdapterType
  ipIsAny : Bool
deriving DecidableEq

def Network.isVpn (n : Network) : Bool := n.type = .vpn

/-- A `Connection` with what ranking and pruning read. `pruned` is the answer of
`is_connection_pruned_func_`, `networkCost` that of `ComputeNetworkCost`. -/
structure CandidatePair extends Connection where
  network : Network
  remoteIsPrflx : Bool
  writeState : WriteState
  receiving : Bool
  receivingUnchangedSince : Int
  connected : Bool
  remoteNomination : Nat
  lastDataReceived : Int
  lastPingReceived : Int
  networkCost : Nat
  priority : Nat
  generation : Nat
  remoteGeneration : Nat
  pruned : Bool
  rtt : Int
  generation_lt : remoteGeneration + generation < 2 ^ 31
deriving DecidableEq

namespace CandidatePair

def writable (c : CandidatePair) : Bool := c.writeState = .writable

def weak (c : CandidatePair) : Bool := !(c.writable && c.receiving && c.connected)

end CandidatePair

structure RankingConfig where
  role : IceRole
  networkPreference : Option AdapterType
  vpnPreference : VpnPreference
  presumeWritableWhenFullyRelayed : Bool
  receivingSwitchingDelay : Option Int
  initialSelectDampening : Option Int
  initialSelectDampeningPingReceived : Option Int

namespace RankingConfig

variable (t : RankingConfig)

def presumedWritable (c : CandidatePair) : Bool :=
  c.writeState = .writeInit && t.presumeWritableWhenFullyRelayed && c.localIsRelay &&
    (c.remoteIsRelay || c.remoteIsPrflx)

def readyToSend (c : CandidatePair) : Bool :=
  c.writable || c.writeState = .writeUnreliable || t.presumedWritable c

def compareWriteStates : CandidatePair → CandidatePair → Int :=
  thenBy (prefer fun c => c.writable || t.presumedWritable c)
    (prefer fun c => -(c.writeState.value : Int))

/-- Paired with whether `missed_receiving_unchanged_threshold` is set. -/
def compareConnectionStates (threshold : Option Int) (a b : CandidatePair) : Int × Bool :=
  let cmp := t.compareWriteStates a b
  if cmp ≠ 0 then (cmp, false)
  else if a.receiving && !b.receiving then (1, false)
  else
    let behind := !a.receiving && b.receiving
    if behind && threshold.all fun x =>
        a.receivingUnchangedSince ≤ x && b.receivingUnchangedSince ≤ x then (-1, false)
    else (if a.writable && b.writable then prefer CandidatePair.connected a b else 0, behind)

def compareByVpn : CandidatePair → CandidatePair → Int :=
  match t.vpnPreference with
  | .default => fun _ _ => 0
  | .onlyUseVpn | .preferVpn => prefer fun c => c.network.isVpn
  | .neverUseVpn | .avoidVpn => prefer fun c => !c.network.isVpn

def compareCandidatePairNetworks : CandidatePair → CandidatePair → Int :=
  thenBy (prefer fun c => t.networkPreference == some c.network.type)
    (thenBy t.compareByVpn (prefer fun c => -(c.networkCost : Int)))

/-- The difference of the unsigned sums, read as an `int`. -/
def compareGenerations (a b : CandidatePair) : Int :=
  (((a.remoteGeneration + a.generation : Nat) : Int) -
    ((b.remoteGeneration + b.generation : Nat) : Int)).bmod (2 ^ 32)

def compareConnectionCandidates : CandidatePair → CandidatePair → Int :=
  thenBy t.compareCandidatePairNetworks (thenBy (prefer CandidatePair.priority)
    (thenBy compareGenerations (prefer fun c => !c.pruned)))

def compareNominations : CandidatePair → CandidatePair → Int :=
  if t.role = .controlled then
    thenBy (prefer CandidatePair.remoteNomination) (prefer CandidatePair.lastDataReceived)
  else fun _ _ => 0

def compareConnections (threshold : Option Int) (a b : CandidatePair) : Int × Bool :=
  let (cmp, missed) := t.compareConnectionStates threshold a b
  if cmp ≠ 0 then (cmp, missed)
  else (thenBy t.compareNominations t.compareConnectionCandidates a b, missed)

def better (a b : CandidatePair) : Bool :=
  let cmp := (t.compareConnections none a b).1
  if cmp ≠ 0 then 0 < cmp else a.rtt < b.rtt

def sort : List CandidatePair → List CandidatePair := insertionSort fun a b => !t.better b a

end RankingConfig

/-- `recheckDelay` is the delay of the `recheck_event`. -/
structure SwitchResult where
  connection : Option CandidatePair
  recheckDelay : Option Int

structure SwitchController where
  config : RankingConfig
  selected : Option CandidatePair
  connections : List CandidatePair
  initialSelectTimestampMs : Int

namespace SwitchController

variable (t : SwitchController)

/-- Paired with the new `initial_select_timestamp_ms_`. -/
def handleInitialSelectDampening (now : Int) (new : CandidatePair) : SwitchResult × Int :=
  let dampening := t.config.initialSelectDampening
  let pingReceived := t.config.initialSelectDampeningPingReceived
  if dampening.isNone && pingReceived.isNone then
    (⟨some new, none⟩, t.initialSelectTimestampMs)
  else
    let maxDelay := ((if 0 < new.lastPingReceived then pingReceived else none).or dampening).getD 0
    let startWait := if t.initialSelectTimestampMs = 0 then now else t.initialSelectTimestampMs
    if startWait + maxDelay ≤ now then (⟨some new, none⟩, 0)
    else (⟨none, some ((dampening.toList ++ pingReceived.toList).foldl min maxDelay)⟩, startWait)

def shouldSwitchFrom (now : Int) (selected new : CandidatePair) : SwitchResult :=
  if t.config.compareCandidatePairNetworks new selected = -1 && !new.receiving then ⟨none, none⟩
  else
    let delay := t.config.receivingSwitchingDelay.getD 1000
    let (cmp, missed) := t.config.compareConnections (some (now - delay)) selected new
    let recheck := if missed && delay ≠ 0 then some delay else none
    if cmp < 0 then ⟨some new, none⟩
    else if 0 < cmp then ⟨none, recheck⟩
    -- Everything else being equal, the round trip must improve by `kMinImprovement`.
    else if new.rtt ≤ selected.rtt - 10 then ⟨some new, none⟩
    else ⟨none, recheck⟩

def shouldSwitchConnection (now : Int) (new : Option CandidatePair) : SwitchResult × Int :=
  match new with
  | none => (⟨none, none⟩, t.initialSelectTimestampMs)
  | some new =>
    if !t.config.readyToSend new || t.selected = some new then
      (⟨none, none⟩, t.initialSelectTimestampMs)
    else
      match t.selected with
      | none => t.handleInitialSelectDampening now new
      | some selected => (t.shouldSwitchFrom now selected new, t.initialSelectTimestampMs)

def setSelectedConnection (c : CandidatePair) : SwitchController := { t with selected := some c }

def sortAndSwitchConnection (now : Int) : SwitchResult × SwitchController :=
  let sorted := t.config.sort t.connections
  let (result, timestamp) := t.shouldSwitchConnection now sorted.head?
  (result, { t with connections := sorted, initialSelectTimestampMs := timestamp })

/-- The map, with `insert` keeping an entry that is there. -/
def getBestConnectionByNetwork : Network → Option CandidatePair :=
  t.connections.foldl
    (fun best c n => if n = c.network then (best n).or (some c) else best n)
    fun n => t.selected.filter (·.network = n)

def bestFor (c : CandidatePair) : Option CandidatePair :=
  if c.network.ipIsAny then t.selected else t.getBestConnectionByNetwork c.network

def pruneConnections : List CandidatePair :=
  t.connections.filter fun c => (t.bestFor c).any fun best =>
    c ≠ best && !best.weak && 0 ≤ t.config.compareConnectionCandidates best c

end SwitchController

/-! ## The order -/

namespace RankingConfig

variable (t : RankingConfig)

lemma compareByVpn_ranks : Ranks t.compareByVpn := by
  unfold compareByVpn
  cases t.vpnPreference with
  | default => exact undecided_ranks
  | onlyUseVpn | neverUseVpn | preferVpn | avoidVpn => exact prefer_ranks _

lemma compareNominations_ranks : Ranks t.compareNominations := by
  unfold compareNominations
  split
  · exact (prefer_ranks _).thenBy (prefer_ranks _)
  · exact undecided_ranks

lemma compareGenerations_eq (a b : CandidatePair) : compareGenerations a b =
    ((a.remoteGeneration + a.generation : Nat) : Int) - (b.remoteGeneration + b.generation : Nat) := by
  have := a.generation_lt
  have := b.generation_lt
  exact Int.bmod_eq_of_le (by omega) (by omega)

lemma compareGenerations_ranks : Ranks compareGenerations where
  swap a b := by
    rw [compareGenerations_eq, compareGenerations_eq]
    omega
  trans a b c := by
    rw [compareGenerations_eq, compareGenerations_eq, compareGenerations_eq]
    omega

lemma compareConnectionCandidates_ranks : Ranks t.compareConnectionCandidates :=
  ((prefer_ranks _).thenBy (t.compareByVpn_ranks.thenBy (prefer_ranks _))).thenBy
    ((prefer_ranks _).thenBy (compareGenerations_ranks.thenBy (prefer_ranks _)))

def compareStatesByKey : CandidatePair → CandidatePair → Int :=
  thenBy t.compareWriteStates
    (thenBy (prefer CandidatePair.receiving) (prefer fun c => c.writable && c.connected))

lemma compareStatesByKey_ranks : Ranks t.compareStatesByKey :=
  ((prefer_ranks _).thenBy (prefer_ranks _)).thenBy ((prefer_ranks _).thenBy (prefer_ranks _))

lemma writable_eq (c : CandidatePair) : c.writable = decide (c.writeState.value = 0) := by
  unfold CandidatePair.writable
  cases c.writeState <;> rfl

lemma compareConnectionStates_none (a b : CandidatePair) :
    (t.compareConnectionStates none a b).1 = t.compareStatesByKey a b := by
  unfold compareConnectionStates compareStatesByKey
  by_cases h0 : t.compareWriteStates a b = 0
  · -- The write states are equal, so both connections are writable if one is.
    have hw : a.writable = b.writable := by
      have hval := prefer_eq_zero (thenBy_eq_zero h0).2
      rw [writable_eq, writable_eq, Int.ofNat_inj.mp (neg_inj.mp hval)]
    simp only [h0, hw, thenBy, prefer]
    cases a.receiving <;> cases b.receiving <;> cases b.writable <;> simp [Bool.lt_iff]
  · simp [h0, thenBy]

lemma compareConnections_none (a b : CandidatePair) : (t.compareConnections none a b).1 =
    thenBy t.compareStatesByKey (thenBy t.compareNominations t.compareConnectionCandidates) a b := by
  rcases hstates : t.compareConnectionStates none a b with ⟨cmp, missed⟩
  have hcmp : cmp = t.compareStatesByKey a b := by
    rw [← compareConnectionStates_none, hstates]
  simp only [compareConnections, hstates, hcmp]
  conv_rhs => rw [thenBy]
  split <;> rfl

/-- The whole chain, of which `better` is the strict part. -/
def rank : CandidatePair → CandidatePair → Int :=
  thenBy (thenBy t.compareStatesByKey (thenBy t.compareNominations t.compareConnectionCandidates))
    (prefer fun c => -c.rtt)

lemma rank_ranks : Ranks t.rank :=
  (t.compareStatesByKey_ranks.thenBy
    (t.compareNominations_ranks.thenBy t.compareConnectionCandidates_ranks)).thenBy (prefer_ranks _)

lemma better_iff {a b : CandidatePair} : t.better a b ↔ 0 < t.rank a b := by
  rw [better, rank, thenBy, compareConnections_none]
  split
  · exact decide_eq_true_iff
  · rw [prefer_pos, decide_eq_true_iff, neg_lt_neg_iff]

lemma not_better_iff {a b : CandidatePair} : (!t.better b a) = true ↔ 0 ≤ t.rank a b := by
  rw [Bool.not_eq_true', ← Bool.not_eq_true, better_iff, ← t.rank_ranks.swap, not_lt]

lemma better_isStrictWeakOrder : IsStrictWeakOrder CandidatePair fun a b => t.better a b := by
  simp only [better_iff]
  exact t.rank_ranks.isStrictWeakOrder

lemma sort_pairwise (l : List CandidatePair) : (t.sort l).Pairwise fun a b => !t.better b a := by
  have : Std.Total fun a b : CandidatePair => (!t.better b a) = true := by
    simp only [not_better_iff]
    exact ⟨t.rank_ranks.total⟩
  have : IsTrans CandidatePair fun a b => (!t.better b a) = true := by
    simp only [not_better_iff]
    exact ⟨t.rank_ranks.trans⟩
  exact pairwise_insertionSort _ l

lemma sort_sort (l : List CandidatePair) : t.sort (t.sort l) = t.sort l :=
  (t.sort_pairwise l).insertionSort_eq

lemma not_better_head {l : List CandidatePair} {top c : CandidatePair}
    (htop : (t.sort l).head? = some top) (hc : c ∈ t.sort l) : ¬t.better c top := by
  have hirrefl := t.better_isStrictWeakOrder.irrefl c
  obtain ⟨rest, hrest⟩ := head?_eq_some_iff.mp htop
  have hpair := t.sort_pairwise l
  rw [hrest] at hc hpair
  rcases mem_cons.mp hc with rfl | hc
  · simpa using hirrefl
  · simpa using rel_of_pairwise_cons hpair hc

end RankingConfig

/-! ## Switching and pruning -/

namespace SwitchController

variable {t : SwitchController} {c d : CandidatePair}

lemma eq_of_dampening {now : Int} (h : (t.handleInitialSelectDampening now d).1.connection = some c) :
    d = c := by
  unfold handleInitialSelectDampening at h
  grind

lemma eq_of_shouldSwitchFrom {now : Int} {s : CandidatePair}
    (h : (t.shouldSwitchFrom now s d).connection = some c) : d = c := by
  unfold shouldSwitchFrom at h
  grind

lemma eq_of_shouldSwitchConnection {now : Int} {new : Option CandidatePair}
    (h : (t.shouldSwitchConnection now new).1.connection = some c) : new = some c := by
  unfold shouldSwitchConnection at h
  grind [eq_of_dampening, eq_of_shouldSwitchFrom]

lemma shouldSwitchConnection_selected (h : t.selected = some c) (now : Int) :
    (t.shouldSwitchConnection now (some c)).1.connection = none := by
  simp [shouldSwitchConnection, h]

lemma settled_after_switch {now now' : Int}
    (h : (t.sortAndSwitchConnection now).1.connection = some c) :
    (((t.sortAndSwitchConnection now).2.setSelectedConnection c).sortAndSwitchConnection
      now').1.connection = none := by
  have htop := eq_of_shouldSwitchConnection h
  simp only [sortAndSwitchConnection, setSelectedConnection, RankingConfig.sort_sort, htop]
  exact shouldSwitchConnection_selected rfl now'

lemma foldl_insert (l : List CandidatePair) (best : Network → Option CandidatePair) (n : Network) :
    l.foldl (fun best c n => if n = c.network then (best n).or (some c) else best n) best n =
      (best n).or (l.find? (·.network = n)) := by
  induction l generalizing best with
  | nil => simp
  | cons c l ih =>
    rw [foldl_cons, ih, find?_cons]
    by_cases h : n = c.network
    · simp [h]
    · simp [h, Ne.symm h]

lemma getBest_eq (n : Network) : t.getBestConnectionByNetwork n =
    (t.selected.filter (·.network = n)).or (t.connections.find? (·.network = n)) :=
  foldl_insert t.connections _ n

lemma bestFor_selected (h : t.selected = some c) : t.bestFor c = some c := by
  simp [bestFor, getBest_eq, h]

/-- Both alternatives of `bestFor` are their own best. -/
lemma bestFor_spec (hsel : ∀ c ∈ t.selected, c ∈ t.connections) (h : t.bestFor c = some d) :
    d ∈ t.connections ∧ t.bestFor d = some d ∧ (c.network.ipIsAny = false → d.network = c.network) := by
  unfold bestFor at h
  split at h
  · rename_i hany
    exact ⟨hsel d h, bestFor_selected h, by simp [hany]⟩
  rename_i hany
  have hbest := h
  rw [getBest_eq, Option.or_eq_some_iff] at h
  rcases h with h | ⟨-, h⟩
  · obtain ⟨hd, hn⟩ := Option.filter_eq_some_iff.mp h
    exact ⟨hsel d hd, bestFor_selected hd, fun _ => by simpa using hn⟩
  · have hn : d.network = c.network := by simpa using find?_some h
    refine ⟨mem_of_find?_eq_some h, ?_, fun _ => hn⟩
    rw [bestFor, hn, if_neg hany, hbest]

lemma exists_bestFor (hc : c ∈ t.connections) (hany : c.network.ipIsAny = false) :
    ∃ d, t.bestFor c = some d := by
  have hfind : (t.connections.find? (·.network = c.network)).isSome :=
    find?_isSome.mpr ⟨c, hc, by simp⟩
  rw [bestFor, hany, getBest_eq]
  exact Option.isSome_iff_exists.mp (by simp [hfind])

lemma not_mem_prune (h : t.bestFor c = some c) : c ∉ t.pruneConnections := by
  simp [pruneConnections, h]

lemma mem_prune (h : c ∈ t.pruneConnections) :
    ∃ d, t.bestFor c = some d ∧ 0 ≤ t.config.compareConnectionCandidates d c := by
  obtain ⟨d, hd, hcmp⟩ := (Option.any_eq_true ..).mp (mem_filter.mp h).2
  exact ⟨d, hd, by simpa using (Bool.and_eq_true_iff.mp hcmp).2⟩

/-- Sorting uses a strict weak order, puts a connection first that no other is better than,
and settles: once a proposed connection is selected, no other is proposed. Pruning spares
the selected connection and one connection of every network bound to an address, and for
what it names it leaves a connection that is at least as good. -/
theorem ranking_and_pruning (t : SwitchController) :
    (IsStrictWeakOrder CandidatePair fun a b => t.config.better a b) ∧
    (∀ top, (t.config.sort t.connections).head? = some top →
      ∀ c ∈ t.connections, ¬t.config.better c top) ∧
    (∀ now now' c, (t.sortAndSwitchConnection now).1.connection = some c →
      (((t.sortAndSwitchConnection now).2.setSelectedConnection c).sortAndSwitchConnection
        now').1.connection = none) ∧
    ((∀ c ∈ t.selected, c ∈ t.connections) →
      (∀ c ∈ t.selected, c ∉ t.pruneConnections) ∧
      (∀ c ∈ t.connections, c.network.ipIsAny = false →
        ∃ d ∈ t.connections, d.network = c.network ∧ d ∉ t.pruneConnections) ∧
      ∀ c ∈ t.pruneConnections, ∃ d ∈ t.connections, d ∉ t.pruneConnections ∧
        0 ≤ t.config.compareConnectionCandidates d c) := by
  refine ⟨t.config.better_isStrictWeakOrder, fun top htop c hc => ?_,
    fun now now' c => settled_after_switch, fun hsel => ⟨fun c hc => ?_, fun c hc hany => ?_,
      fun c hc => ?_⟩⟩
  · exact t.config.not_better_head htop ((perm_insertionSort _ _).mem_iff.mpr hc)
  · exact not_mem_prune (bestFor_selected hc)
  · obtain ⟨d, hd⟩ := exists_bestFor hc hany
    obtain ⟨hmem, hself, hn⟩ := bestFor_spec hsel hd
    exact ⟨d, hmem, hn hany, not_mem_prune hself⟩
  · obtain ⟨d, hd, hcmp⟩ := mem_prune hc
    obtain ⟨hmem, hself, -⟩ := bestFor_spec hsel hd
    exact ⟨d, hmem, not_mem_prune hself, hcmp⟩

def samplePair (id priority : Nat) : CandidatePair :=
  { id, priority, localIsRelay := false, remoteIsRelay := false, relayProtocol := ""
    lastPingSent := 0, network := ⟨0, .wifi, false⟩, remoteIsPrflx := false
    writeState := .writable, receiving := true, receivingUnchangedSince := 0
    connected := true, remoteNomination := 0, lastDataReceived := 0, lastPingReceived := 0
    networkCost := 0, generation := 0, remoteGeneration := 0, pruned := false
    rtt := 50, generation_lt := by decide }

def twoConnections : SwitchController :=
  { config := ⟨.controlling, none, .default, false, none, none, none⟩
    selected := samplePair 0 1, connections := [samplePair 0 1, samplePair 1 2]
    initialSelectTimestampMs := 0 }

/-- The second connection is proposed; once it is selected, it stays and the first one is
pruned. -/
theorem ranking_and_pruning_two_connections :
    let (result, t) := twoConnections.sortAndSwitchConnection 0
    let t := t.setSelectedConnection (samplePair 1 2)
    result.connection = some (samplePair 1 2) ∧ t.pruneConnections = [samplePair 0 1] ∧
      (t.sortAndSwitchConnection 5).1.connection = none :=
  ⟨by decide, by decide, (ranking_and_pruning twoConnections).2.2.1 0 5 _ (by decide)⟩

end SwitchController

end WebRtc.P2p
