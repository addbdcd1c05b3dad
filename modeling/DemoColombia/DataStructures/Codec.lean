import Mathlib.Algebra.Ring.Nat
import Mathlib.Data.List.Basic
import Mathlib.Logic.Equiv.Defs

/-! # Writers and readers of bytes that belong together

A `Codec α` writes the values of `α` it is good for and reads them back, whatever follows them; and
what it reads was written by it, byte for byte. So a stream of values written one after the other
can be taken apart in one way only.

* `littleEndian k` — the naturals below `256 ^ k`, in `k` bytes.
* `Codec.map` — along an equivalence; `Codec.replicate n` — a list of `n` values. -/

namespace DemoColombia

variable {α β : Type*}

/-- A writer and a reader that belong together. -/
structure Codec (α : Type*) where
  write : α → List UInt8
  /-- A value from the front of the bytes, and what is left of them. -/
  read : List UInt8 → Option (α × List UInt8)
  /-- The values the writer is good for. -/
  Valid : α → Prop
  read_write : ∀ a rest, Valid a → read (write a ++ rest) = some (a, rest)
  write_of_read : ∀ {bytes a rest}, read bytes = some (a, rest) → Valid a ∧ bytes = write a ++ rest

/-! ## Numbers -/

/-- The lowest `k` bytes of a number, the lowest first. -/
def leBytes : ℕ → ℕ → List UInt8
  | 0, _ => []
  | k + 1, n => .ofNat n :: leBytes k (n / 256)

/-- The number some bytes stand for, the lowest first. -/
def ofLeBytes : List UInt8 → ℕ
  | [] => 0
  | b :: bytes => b.toNat + 256 * ofLeBytes bytes

@[simp] theorem length_leBytes (k n : ℕ) : (leBytes k n).length = k := by
  induction k generalizing n with
  | zero => rfl
  | succ k ih => rw [leBytes, List.length_cons, ih]

theorem ofLeBytes_leBytes {k n : ℕ} (h : n < 256 ^ k) : ofLeBytes (leBytes k n) = n := by
  induction k generalizing n with
  | zero => exact (Nat.lt_one_iff.mp (by simpa using h)).symm
  | succ k ih =>
    have hdiv : n / 256 < 256 ^ k := by
      rw [Nat.pow_succ] at h
      exact Nat.div_lt_of_lt_mul (Nat.mul_comm _ _ ▸ h)
    have hlow : (UInt8.ofNat n).toNat = n % 256 := rfl
    rw [leBytes, ofLeBytes, ih hdiv, hlow]
    omega

theorem ofLeBytes_lt (bytes : List UInt8) : ofLeBytes bytes < 256 ^ bytes.length := by
  induction bytes with
  | nil => exact Nat.one_pos
  | cons b bytes ih =>
    have hb : b.toNat < 256 := b.toNat_lt
    rw [ofLeBytes, List.length_cons, Nat.pow_succ]
    omega

theorem leBytes_ofLeBytes (bytes : List UInt8) :
    leBytes bytes.length (ofLeBytes bytes) = bytes := by
  induction bytes with
  | nil => rfl
  | cons b bytes ih =>
    have hb : b.toNat < 256 := b.toNat_lt
    have hlow : UInt8.ofNat (b.toNat + 256 * ofLeBytes bytes) = b := by
      apply UInt8.toNat_inj.mp
      rw [UInt8.toNat_ofNat']
      omega
    have hdiv : (b.toNat + 256 * ofLeBytes bytes) / 256 = ofLeBytes bytes := by omega
    rw [List.length_cons, leBytes, ofLeBytes, hlow, hdiv, ih]

/-- The numbers of `k` bytes. -/
def littleEndian (k : ℕ) : Codec ℕ where
  write n := leBytes k n
  read bytes :=
    if bytes.length < k then none else some (ofLeBytes (bytes.take k), bytes.drop k)
  Valid n := n < 256 ^ k
  read_write n rest h := by
    have hlength := length_leBytes k n
    rw [if_neg (by rw [List.length_append]; omega), List.take_left' hlength,
      List.drop_left' hlength, ofLeBytes_leBytes h]
  write_of_read {bytes n rest} h := by
    split at h
    · cases h
    · rename_i hlength
      cases h
      have htake : (bytes.take k).length = k := by
        rw [List.length_take]
        omega
      refine ⟨?_, ?_⟩
      · have hlt := ofLeBytes_lt (bytes.take k)
        rwa [htake] at hlt
      · have hbytes := leBytes_ofLeBytes (bytes.take k)
        rw [htake] at hbytes
        rw [hbytes, List.take_append_drop]

namespace Codec

/-! ## Combinations -/

/-- The values of another type, one for each. -/
def map (c : Codec α) (e : β ≃ α) : Codec β where
  write b := c.write (e b)
  read bytes := (c.read bytes).map fun r => (e.symm r.1, r.2)
  Valid b := c.Valid (e b)
  read_write b rest h := by rw [c.read_write _ rest h, Option.map_some, e.symm_apply_apply]
  write_of_read {bytes b rest} h := by
    obtain ⟨⟨a, rest'⟩, hread, heq⟩ := Option.map_eq_some_iff.mp h
    cases heq
    rw [e.apply_symm_apply]
    exact c.write_of_read hread

/-- The read loop for `n` values. -/
def readList (read : List UInt8 → Option (α × List UInt8)) :
    ℕ → List UInt8 → Option (List α × List UInt8)
  | 0, bytes => some ([], bytes)
  | n + 1, bytes => do
    let (a, bytes) ← read bytes
    let (l, bytes) ← readList read n bytes
    return (a :: l, bytes)

/-- A list of `n` values. -/
def replicate (c : Codec α) (n : ℕ) : Codec (List α) where
  write l := l.flatMap c.write
  read := readList c.read n
  Valid l := l.length = n ∧ ∀ a ∈ l, c.Valid a
  read_write l rest h := by
    obtain ⟨rfl, hl⟩ := h
    induction l with
    | nil => rfl
    | cons a l ih =>
      obtain ⟨ha, hl⟩ := List.forall_mem_cons.mp hl
      have htail := ih hl
      simp only [List.flatMap_cons, List.append_assoc, List.length_cons, readList,
        c.read_write a _ ha, Option.bind_eq_bind, Option.bind_some, htail]
      rfl
  write_of_read {bytes l rest} h := by
    induction n generalizing bytes l with
    | zero =>
      cases h
      exact ⟨⟨rfl, nofun⟩, rfl⟩
    | succ n ih =>
      obtain ⟨⟨a, bytes'⟩, hread, h⟩ := Option.bind_eq_some_iff.mp h
      obtain ⟨⟨l', rest'⟩, hlist, h⟩ := Option.bind_eq_some_iff.mp h
      cases h
      obtain ⟨ha, rfl⟩ := c.write_of_read hread
      obtain ⟨⟨rfl, hl⟩, rfl⟩ := ih hlist
      exact ⟨⟨rfl, List.forall_mem_cons.mpr ⟨ha, hl⟩⟩, by rw [List.flatMap_cons, List.append_assoc]⟩

end Codec

/-- The values of a type that counts up to `256 ^ k`. -/
def unsigned (k : ℕ) (toNat : β → ℕ) (ofNat : ℕ → β) (hlt : ∀ b, toNat b < 256 ^ k)
    (hofNat : ∀ b, ofNat (toNat b) = b) (htoNat : ∀ n < 256 ^ k, toNat (ofNat n) = n) :
    Codec β where
  write b := leBytes k (toNat b)
  read bytes := ((littleEndian k).read bytes).map fun r => (ofNat r.1, r.2)
  Valid _ := True
  read_write b rest _ := by
    have hread := (littleEndian k).read_write (toNat b) rest (hlt b)
    rw [show leBytes k (toNat b) = (littleEndian k).write (toNat b) from rfl, hread,
      Option.map_some, hofNat]
  write_of_read {bytes b rest} h := by
    obtain ⟨⟨n, rest'⟩, hread, heq⟩ := Option.map_eq_some_iff.mp h
    cases heq
    obtain ⟨hn, rfl⟩ := (littleEndian k).write_of_read hread
    rw [htoNat n hn]
    exact ⟨trivial, rfl⟩

/-- Thirty-two bits. -/
def uint32 : Codec UInt32 :=
  unsigned 4 UInt32.toNat UInt32.ofNat UInt32.toNat_lt (fun _ => UInt32.ofNat_toNat)
    fun _ h => UInt32.toNat_ofNat_of_lt h

/-- Sixty-four bits. -/
def uint64 : Codec UInt64 :=
  unsigned 8 UInt64.toNat UInt64.ofNat UInt64.toNat_lt (fun _ => UInt64.ofNat_toNat)
    fun _ h => UInt64.toNat_ofNat_of_lt h

end DemoColombia
