import Mathlib.Algebra.GroupWithZero.Nat
import Mathlib.Data.List.Basic

/-!
# Readers of bytes

A reader takes bytes from the front of a buffer, or fails. `Reads p n` says that `p` takes exactly
`n` bytes when it succeeds and that its result depends on these bytes only. Readers compose
(`Reads.bind`), and the number of bytes adds up.
-/

namespace WebRtc.Lib

open List

abbrev Reader (α : Type) := StateT (List UInt8) Option α

/-- The number that the bytes write with the most significant byte first. -/
def beNat (bytes : List UInt8) : Nat := bytes.foldl (fun n b => n * 256 + b.toNat) 0

/-- `n` bytes, the most significant one first. -/
def beBytes : Nat → Nat → List UInt8
  | 0, _ => []
  | n + 1, v => beBytes n (v / 256) ++ [UInt8.ofNat v]

@[simp] lemma length_beBytes (n v : Nat) : (beBytes n v).length = n := by
  induction n generalizing v with
  | zero => rfl
  | succ n ih => simp [beBytes, ih]

lemma beNat_beBytes (n v : Nat) : beNat (beBytes n v) = v % 256 ^ n := by
  induction n generalizing v with
  | zero => simp [beBytes, beNat, Nat.mod_one]
  | succ n ih =>
    have hfront := ih (v / 256)
    unfold beNat at hfront ⊢
    rw [beBytes, foldl_append, hfront, Nat.pow_succ', Nat.mod_mul]
    simp [UInt8.toNat_ofNat']
    omega

namespace Reader

variable {α β : Type}

def bytes (n : Nat) : Reader (List UInt8) := fun buf =>
  if n ≤ buf.length then some (buf.take n, buf.drop n) else none

def uint (n : Nat) : Reader (BitVec (8 * n)) := do
  let bs ← bytes n
  pure (BitVec.ofNat (8 * n) (beNat bs))

def many (p : Reader α) : Nat → Reader (List α)
  | 0 => pure []
  | n + 1 => do
    let a ← p
    let as ← many p n
    pure (a :: as)

/-- `p` takes `n` bytes and looks at nothing else. -/
def Reads (p : Reader α) (n : Nat) : Prop :=
  ∀ buf a rest, p buf = some (a, rest) →
    n ≤ buf.length ∧ rest = buf.drop n ∧ ∀ tail, p (buf.take n ++ tail) = some (a, tail)

lemma Reads.pure (a : α) : Reads (pure a) 0 := by
  intro buf b rest h
  obtain ⟨rfl, rfl⟩ : a = b ∧ buf = rest := by
    have h' := Option.some.inj h
    exact ⟨congrArg Prod.fst h', congrArg Prod.snd h'⟩
  exact ⟨Nat.zero_le _, rfl, fun tail => rfl⟩

variable (n : Nat) {p : Reader α}

lemma Reads.failure : Reads (failure : Reader α) n := by
  intro buf a rest h
  cases h

lemma Reads.bytes : Reads (bytes n) n := by
  intro buf a rest h
  unfold Reader.bytes at h ⊢
  by_cases hlen : n ≤ buf.length
  · rw [if_pos hlen] at h
    cases h
    refine ⟨hlen, rfl, fun tail => ?_⟩
    have htake : (buf.take n).length = n := length_take_of_le hlen
    rw [if_pos (by rw [length_append, htake]; omega), take_left' htake, drop_left' htake]
  · rw [if_neg hlen] at h
    cases h

lemma bind_eq_some {f : α → Reader β} {buf rest : List UInt8} {b : β} :
    (p >>= f) buf = some (b, rest) ↔ ∃ a mid, p buf = some (a, mid) ∧ f a mid = some (b, rest) := by
  show (p buf).bind (fun x => f x.1 x.2) = some (b, rest) ↔ _
  rw [Option.bind_eq_some_iff]
  constructor
  · rintro ⟨⟨a, mid⟩, hp, hf⟩
    exact ⟨a, mid, hp, hf⟩
  rintro ⟨a, mid, hp, hf⟩
  exact ⟨(a, mid), hp, hf⟩

lemma bind_of_eq_some {f : α → Reader β} {buf mid : List UInt8} {a : α}
    (h : p buf = some (a, mid)) : (p >>= f) buf = f a mid := by
  show (p buf).bind (fun x => f x.1 x.2) = _
  rw [h]
  rfl

lemma uint_beBytes (w : BitVec (8 * n)) (rest : List UInt8) :
    uint n (beBytes n w.toNat ++ rest) = some (w, rest) := by
  have hbytes : bytes n (beBytes n w.toNat ++ rest) = some (beBytes n w.toNat, rest) := by
    simp [bytes]
  have hval : beNat (beBytes n w.toNat) = w.toNat := by
    have := w.isLt
    rw [Nat.pow_mul] at this
    rw [beNat_beBytes, Nat.mod_eq_of_lt this]
  rw [uint, bind_of_eq_some hbytes, hval, BitVec.ofNat_toNat, BitVec.setWidth_eq]
  rfl

lemma Reads.bind {f : α → Reader β} {n k : Nat} (hp : Reads p n)
    (hf : ∀ a, Reads (f a) k) : Reads (p >>= f) (n + k) := by
  intro buf b rest h
  obtain ⟨a, mid, hpa, hfa⟩ := bind_eq_some.mp h
  obtain ⟨hn, rfl, hlocal⟩ := hp buf a mid hpa
  obtain ⟨hk, rfl, hlocal'⟩ := hf a _ b rest hfa
  rw [length_drop] at hk
  refine ⟨by omega, drop_drop, fun tail => bind_eq_some.mpr ⟨a, _, ?_, hlocal' tail⟩⟩
  rw [take_add, append_assoc]
  exact hlocal _

lemma Reads.ite {p' : Reader α} {c : Prop} [Decidable c] {n : Nat} (hp : c → Reads p n)
    (hp' : ¬ c → Reads p' n) : Reads (if c then p else p') n := by
  split
  · next hc => exact hp hc
  · next hc => exact hp' hc

lemma Reads.map {n : Nat} (f : α → β) (hp : Reads p n) :
    Reads (p >>= fun a => Pure.pure (f a)) n := hp.bind (k := 0) fun a => Reads.pure (f a)

lemma Reads.uint : Reads (uint n) n := (Reads.bytes n).map _

lemma Reads.many {k : Nat} (hp : Reads p k) : ∀ n, Reads (many p n) (n * k)
  | 0 => by
    rw [Nat.zero_mul]
    exact Reads.pure []
  | n + 1 => by
    rw [Nat.succ_mul, Nat.add_comm (n * k) k]
    exact hp.bind fun a => (Reads.many hp n).map fun as => a :: as

end Reader

end WebRtc.Lib
