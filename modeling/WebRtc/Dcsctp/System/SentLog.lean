import WebRtc.Dcsctp.Rx.OrderedStreams
import WebRtc.Lib.TaggedLog

/-!
# dcSCTP — the chunks a sender has put on the wire

The log of everything a sender has sent, in TSN order, with the message and fragment that each
chunk stands for. `ConformingStep` says what a sender without message interleaving may append; for
such a log `dataLayout` describes the messages of an ordered stream.
-/

namespace WebRtc.Dcsctp

open Lib Numerics List

structure MessageKey where
  unordered : Bool
  streamId : StreamID
  epoch : Nat
  number : Nat
deriving DecidableEq

structure SentChunk where
  data : Data
  epoch : Nat
  number : Nat
  fragment : Nat
deriving DecidableEq

namespace SentChunk

def key (x : SentChunk) : MessageKey := ⟨x.data.isUnordered, x.data.streamId, x.epoch, x.number⟩

end SentChunk

open SentChunk

def begunOn (log : List SentChunk) (unordered : Bool) (sid : StreamID) (epoch : Nat) : Nat :=
  (log.filter fun y => y.fragment = 0 ∧ y.data.isUnordered = unordered ∧
    y.data.streamId = sid ∧ y.epoch = epoch).length

/-- What a sender without interleaving may append: the next fragment of the message it is
in, or the first fragment of a new message, which gets the next number of its stream. -/
structure ConformingStep (before : List SentChunk) (x : SentChunk) : Prop where
  inOrder : InOrder key fragment before x
  contiguous : Contiguous key fragment before x
  ended : ∀ y, before.getLast? = some y → (y.data.isEnd = true ↔ x.fragment = 0)
  number : x.fragment = 0 →
    x.number = begunOn before x.data.isUnordered x.data.streamId x.epoch
  beginning : x.data.isBeginning = true ↔ x.fragment = 0
  payload : x.data.payload ≠ []
  ssn : x.data.isUnordered = false → x.data.ssn = BitVec.ofNat 16 x.number

def Conforming (log : List SentChunk) : Prop := Locally ConformingStep log

namespace Conforming

variable {log : List SentChunk}

lemma inOrder (h : Conforming log) : Locally (InOrder key fragment) log :=
  fun k x hk => (h k x hk).inOrder

lemma contiguous (h : Conforming log) : Locally (Contiguous key fragment) log :=
  fun k x hk => (h k x hk).contiguous

end Conforming

/-! ## The layout of an ordered stream -/

/-- The messages of one epoch of an ordered stream, keyed by TSN; `base` is the unwrapped
TSN of the first chunk of the log. -/
def dataLayout (base : Int) (log : List SentChunk) (sid : StreamID) (epoch : Nat) :
    Layout Int Data where
  frags i := (blockOf key log ⟨false, sid, epoch, i⟩).map data
  key i j := base + startOf key log ⟨false, sid, epoch, i⟩ + j
  key_mono i j j' hj _ := by omega

variable {k : Nat}

section Layout

variable {base : Int} {log : List SentChunk} {sid : StreamID} {epoch : Nat} {x : SentChunk}

lemma getLast?_take_of_getElem? (hk : log[k]? = some x) :
    (log.take (k + 1)).getLast? = some x := by
  rw [take_add_one, hk]
  simp

lemma dataLayout_of_log (base : Int) (h : Conforming log) (hk : log[k]? = some x)
    (hord : x.data.isUnordered = false) (hsid : x.data.streamId = sid) (hep : x.epoch = epoch) :
    ((dataLayout base log sid epoch).frags x.number)[x.fragment]? = some x.data ∧
      (dataLayout base log sid epoch).key x.number x.fragment = base + k := by
  have hkey : x.key = ⟨false, sid, epoch, x.number⟩ := by
    simp [key, hord, hsid, hep]
  refine ⟨?_, ?_⟩
  · have hb := blockOf_getElem? h.inOrder hk
    rw [hkey] at hb
    simp [dataLayout, hb]
  have hidx := index_eq_start_add h.inOrder h.contiguous x.fragment k x hk rfl
  rw [hkey] at hidx
  simp only [dataLayout]
  omega

lemma log_of_dataLayout (h : Conforming log) {i j : Nat} {d : Data}
    (hd : ((dataLayout base log sid epoch).frags i)[j]? = some d) :
    ∃ (k : Nat) (x : SentChunk), log[k]? = some x ∧ x.data = d ∧ x.fragment = j ∧ x.number = i ∧
      x.data.isUnordered = false ∧ x.data.streamId = sid ∧ x.epoch = epoch ∧
      k = startOf key log ⟨false, sid, epoch, i⟩ + j := by
  simp only [dataLayout, getElem?_map, Option.map_eq_some_iff] at hd
  obtain ⟨x, hx, rfl⟩ := hd
  obtain ⟨k, hk, hid, hpos⟩ := exists_of_blockOf h.inOrder hx
  have hidx := index_eq_start_add h.inOrder h.contiguous j k x hk hpos
  rw [hid] at hidx
  simp only [key, MessageKey.mk.injEq] at hid
  exact ⟨k, x, hk, rfl, hpos, hid.2.2.2, hid.1, hid.2.1, hid.2.2.1, hidx⟩

lemma dataLayout_wellFormed (base : Int) (h : Conforming log) :
    WellFormed (dataLayout base log sid epoch) := by
  refine ⟨fun i j d hd => ?_, fun i j d hd hend => ?_, fun i j d hd => ?_⟩
  · obtain ⟨k, x, hk, rfl, rfl, -⟩ := log_of_dataLayout h hd
    exact (h k x hk).beginning
  · obtain ⟨k, x, hk, rfl, rfl, rfl, hord, hsid, hep, hidx⟩ := log_of_dataLayout h hd
    have hlt := (List.getElem?_eq_some_iff.mp hd).1
    by_contra hne
    -- a further fragment would come right behind the end of the message
    have hnext : x.fragment + 1 < ((dataLayout base log sid epoch).frags x.number).length := by
      omega
    obtain ⟨k', x', hk', -, hfrag', -, -, -, -, hidx'⟩ :=
      log_of_dataLayout h (getElem?_eq_getElem hnext)
    have hkk : k' = k + 1 := by omega
    subst hkk
    have := ((h (k + 1) x' hk').ended x (getLast?_take_of_getElem? hk)).mp hend
    omega
  · obtain ⟨k, x, hk, rfl, -⟩ := log_of_dataLayout h hd
    exact (h k x hk).payload

lemma dataLayout_spans : Spans (dataLayout base log sid epoch) (difference 32) := by
  intro i j j' hj _
  simp only [dataLayout, difference]
  congr 1
  omega

lemma exists_earlier_begin (h : Conforming log)
    (hk : log[k]? = some x) (hfrag : x.fragment = 0) {n : Nat} (hn : n < x.number) :
    ∃ (k' : Nat) (y : SentChunk), k' < k ∧ log[k']? = some y ∧ y.fragment = 0 ∧ y.number = n ∧
      y.data.isUnordered = x.data.isUnordered ∧ y.data.streamId = x.data.streamId ∧
      y.epoch = x.epoch := by
  have hnum := (h k x hk).number hfrag
  rw [hnum] at hn
  obtain ⟨k', hk', hlen⟩ := exists_getElem?_of_filter _ (getElem?_eq_getElem hn)
  have hmem := getElem_mem hn
  generalize hy : ((log.take k).filter _)[n] = y at hk' hmem
  obtain ⟨-, hp⟩ := mem_filter.mp hmem
  obtain ⟨hfrag', hun, hsid', hep⟩ := of_decide_eq_true hp
  have hlt : k' < k := by
    have := (List.getElem?_eq_some_iff.mp hk').1
    rw [length_take] at this
    omega
  rw [getElem?_take_of_lt hlt] at hk'
  refine ⟨k', y, hlt, hk', hfrag', ?_, hun, hsid', hep⟩
  rw [(h k' y hk').number hfrag', begunOn, hun, hsid', hep]
  rwa [take_take, Nat.min_eq_left (le_of_lt hlt)] at hlen

/-- **Messages are sent one after the other.** When the last fragment of a message is in the
log at `k`, every message of its stream up to it has been sent to its end, with all its
fragments at or before `k`. -/
lemma sent_before (base : Int) (h : Conforming log) (hk : log[k]? = some x)
    (hord : x.data.isUnordered = false) (hsid : x.data.streamId = sid) (hep : x.epoch = epoch)
    (hend : x.data.isEnd = true) {n : Nat} (hn : n ≤ x.number) :
    Ended (dataLayout base log sid epoch) n ∧
      ∀ j < ((dataLayout base log sid epoch).frags n).length,
        startOf key log ⟨false, sid, epoch, n⟩ + j ≤ k := by
  obtain ⟨hfrag, hkey⟩ := dataLayout_of_log base h hk hord hsid hep
  simp only [dataLayout] at hkey
  rcases Nat.lt_or_eq_of_le hn with hlt | rfl
  · -- an earlier message: it lies before the first fragment of this one
    have hlt0 : 0 < ((dataLayout base log sid epoch).frags x.number).length :=
      Nat.zero_lt_of_lt (List.getElem?_eq_some_iff.mp hfrag).1
    obtain ⟨k0, x0, hk0, -, hfrag0, hnum0, hord0, hsid0, hep0, hidx0⟩ :=
      log_of_dataLayout h (getElem?_eq_getElem hlt0)
    obtain ⟨k1, y, hk1, hy, hfragy, hnumy, hordy, hsidy, hepy⟩ :=
      exists_earlier_begin h hk0 hfrag0 (hnum0 ▸ hlt)
    rw [hord0] at hordy
    rw [hsid0] at hsidy
    rw [hep0] at hepy
    obtain ⟨hfy, hky⟩ := dataLayout_of_log base h hy hordy hsidy hepy
    simp only [dataLayout, hnumy, hfragy] at hky
    rw [hnumy, hfragy] at hfy
    have hpos := (List.getElem?_eq_some_iff.mp hfy).1
    have hbef : ∀ j < ((dataLayout base log sid epoch).frags n).length,
        startOf key log ⟨false, sid, epoch, n⟩ + j < k0 := by
      intro j hj
      by_contra hcon
      -- otherwise the fragment at `k0` would belong to message `n` as well
      obtain ⟨j', hj'⟩ : ∃ j', k0 = startOf key log ⟨false, sid, epoch, n⟩ + j' :=
        ⟨k0 - startOf key log ⟨false, sid, epoch, n⟩, by omega⟩
      have hlt' : j' < ((dataLayout base log sid epoch).frags n).length := by omega
      obtain ⟨k2, z, hz, -, -, hnumz, -, -, -, hidxz⟩ :=
        log_of_dataLayout h (getElem?_eq_getElem hlt')
      have hkk : k2 = k0 := by omega
      rw [hkk, hk0] at hz
      cases hz
      omega
    refine ⟨?_, fun j hj => by have := hbef j hj; omega⟩
    -- the last fragment of message `n` is followed by the beginning of another message
    obtain ⟨l, hl⟩ : ∃ l, l + 1 = ((dataLayout base log sid epoch).frags n).length :=
      ⟨_, Nat.sub_add_cancel hpos⟩
    have hlget := getElem?_eq_getElem (l := (dataLayout base log sid epoch).frags n) (i := l)
      (by omega)
    obtain ⟨k3, z, hz, hzd, hzf, hznum, hzord, hzsid, hzep, hzidx⟩ := log_of_dataLayout h hlget
    refine ⟨l, _, hlget, ?_⟩
    rw [← hzd]
    have hk3 : k3 < k0 := by
      have := hbef l (by omega)
      omega
    have hlog0 := (List.getElem?_eq_some_iff.mp hk0).1
    obtain ⟨w, hw⟩ : ∃ w, log[k3 + 1]? = some w := ⟨_, getElem?_eq_getElem (by omega)⟩
    have hlastz := getLast?_take_of_getElem? hz
    refine ((h (k3 + 1) w hw).ended z hlastz).mpr ?_
    by_contra hwf
    obtain ⟨z', hz', hkeyz⟩ := (h (k3 + 1) w hw).contiguous hwf
    rw [hlastz] at hz'
    cases hz'
    simp only [key, MessageKey.mk.injEq] at hkeyz
    obtain ⟨hwfrag, hwkey⟩ := dataLayout_of_log base h hw
      (hkeyz.1.symm.trans hzord) (hkeyz.2.1.symm.trans hzsid) (hkeyz.2.2.1.symm.trans hzep)
    rw [← hkeyz.2.2.2, hznum] at hwfrag hwkey
    have hwlt := (List.getElem?_eq_some_iff.mp hwfrag).1
    simp only [dataLayout] at hwkey
    omega
  · have hlen := (dataLayout_wellFormed base h).ending x.number x.fragment x.data hfrag hend
    exact ⟨⟨x.fragment, x.data, hfrag, hend⟩, fun j hj => by omega⟩

end Layout

/-! ## A stream of messages in one chunk each -/

def singleChunk (sid : StreamID) (payload : Nat → List UInt8) (k : Nat) : SentChunk where
  data := ⟨sid, BitVec.ofNat 16 k, BitVec.ofNat 32 k, 0, 0, payload k, true, true, false⟩
  epoch := 0
  number := k
  fragment := 0

def singleLog (sid : StreamID) (payload : Nat → List UInt8) (count : Nat) : List SentChunk :=
  (range count).map (singleChunk sid payload)

lemma singleLog_getElem? (sid : StreamID) (payload : Nat → List UInt8) {count : Nat}
    (hk : k < count) : (singleLog sid payload count)[k]? = some (singleChunk sid payload k) := by
  simp [singleLog, getElem?_range hk]

lemma begunOn_singleLog (sid : StreamID) (payload : Nat → List UInt8) (k : Nat) :
    begunOn (singleLog sid payload k) false sid 0 = k := by
  rw [begunOn, filter_eq_self.mpr]
  · simp [singleLog]
  intro y hy
  obtain ⟨i, -, rfl⟩ := mem_map.mp hy
  simp [singleChunk]

lemma blockOf_singleLog (sid : StreamID) (payload : Nat → List UInt8) (k : Nat) :
    blockOf key (singleLog sid payload k) ⟨false, sid, 0, k⟩ = [] := by
  refine filter_eq_nil_iff.mpr fun y hy => ?_
  obtain ⟨i, hi, rfl⟩ := mem_map.mp hy
  have := mem_range.mp hi
  simp only [key, singleChunk, MessageKey.mk.injEq, decide_eq_true_eq]
  omega

lemma singleLog_conforming (sid : StreamID) {payload : Nat → List UInt8}
    (hpay : ∀ k, payload k ≠ []) (count : Nat) : Conforming (singleLog sid payload count) := by
  intro k x hk
  have hlt : k < count := by simpa [singleLog] using (List.getElem?_eq_some_iff.mp hk).1
  rw [singleLog_getElem? sid payload hlt] at hk
  cases hk
  have htake : (singleLog sid payload count).take k = singleLog sid payload k := by
    rw [singleLog, singleLog, ← map_take, take_range, Nat.min_eq_left (le_of_lt hlt)]
  rw [htake]
  refine ⟨?_, fun h => absurd rfl h, fun y hy => ?_, fun _ => ?_, by simp [singleChunk], hpay k,
    fun _ => rfl⟩
  · have hnil : blockOf key (singleLog sid payload k) (singleChunk sid payload k).key = [] :=
      blockOf_singleLog sid payload k
    rw [InOrder, hnil]
    rfl
  · obtain ⟨i, -, rfl⟩ := mem_map.mp (mem_of_getLast? hy)
    simp [singleChunk]
  · exact (begunOn_singleLog sid payload k).symm

lemma singleLog_frags (sid : StreamID) {payload : Nat → List UInt8} (hpay : ∀ k, payload k ≠ [])
    {count : Nat} (hk : k < count) (base : Int) :
    (dataLayout base (singleLog sid payload count) sid 0).frags k =
      [(singleChunk sid payload k).data] := by
  have hlog := singleLog_conforming sid hpay count
  have hfrag : ((dataLayout base (singleLog sid payload count) sid 0).frags k)[0]? =
      some (singleChunk sid payload k).data :=
    (dataLayout_of_log base hlog (singleLog_getElem? sid payload hk) rfl rfl rfl).1
  have hlen := (dataLayout_wellFormed base hlog).ending _ _ _ hfrag rfl
  obtain ⟨d, hd⟩ := length_eq_one_iff.mp hlen.symm
  rw [hd] at hfrag ⊢
  exact congrArg (fun d => [d]) (Option.some.inj hfrag)

end WebRtc.Dcsctp
