import Mathlib.Data.List.Nodup
import Mathlib.Logic.Function.Basic

/-! # A heap of blocks and who owns them

`alloc` makes a new block, `free` gives one back; a block is never reused, and the heap remembers
the block of every `free`. Some holders `i : ι` have a pointer `ptr i` each, null or not.

* `Heap.Sound` — no block was freed twice, and none is still allocated after its `free`.
* `Heap.Owned` — every allocated block is pointed to by exactly one holder, and no pointer dangles.
* `Heap.Owned.alloc`, `.free`, `.move` — the operations that keep it so: a null holder gets a new
  block, a holder frees its block and is null, a holder hands its pointer over. -/

namespace DemoColombia

variable {α ι : Type*}

/-- A heap with contents of type `α`. -/
structure Heap (α : Type*) where
  /-- The contents of every block made so far, none once it is freed. -/
  blocks : List (Option α)
  /-- The block of each call of `free`, in order. -/
  freed : List ℕ
  deriving DecidableEq

namespace Heap

/-- No block has been made. -/
def empty : Heap α := ⟨[], []⟩

/-- The contents of an allocated block. -/
def read (h : Heap α) (b : ℕ) : Option α := (h.blocks[b]?).join

/-- The block the next `alloc` makes. -/
def fresh (h : Heap α) : ℕ := h.blocks.length

/-- Make the block `h.fresh`. -/
def alloc (h : Heap α) (a : α) : Heap α := { h with blocks := h.blocks ++ [some a] }

/-- Give a block back. -/
def free (h : Heap α) (b : ℕ) : Heap α := ⟨h.blocks.set b none, h.freed ++ [b]⟩

/-- The block has been made and not yet freed. -/
def Allocated (h : Heap α) (b : ℕ) : Prop := (h.read b).isSome

instance (h : Heap α) : DecidablePred h.Allocated :=
  fun b => inferInstanceAs (Decidable ((h.read b).isSome = true))

variable {h : Heap α} {b c : ℕ} {a : α}

@[simp] theorem freed_alloc (h : Heap α) (a : α) : (h.alloc a).freed = h.freed := rfl

@[simp] theorem freed_free (h : Heap α) (b : ℕ) : (h.free b).freed = h.freed ++ [b] := rfl

@[simp] theorem fresh_alloc (h : Heap α) (a : α) : (h.alloc a).fresh = h.fresh + 1 :=
  List.length_append

@[simp] theorem fresh_free (h : Heap α) (b : ℕ) : (h.free b).fresh = h.fresh := List.length_set

@[simp] theorem read_empty (b : ℕ) : (empty : Heap α).read b = none := rfl

@[simp] theorem read_alloc_fresh (h : Heap α) (a : α) : (h.alloc a).read h.fresh = some a := by
  simp [read, alloc, fresh]

theorem lt_fresh_of_allocated (hb : h.Allocated b) : b < h.fresh := by
  by_contra hge
  rw [Allocated, read, List.getElem?_eq_none (Nat.le_of_not_lt hge)] at hb
  cases hb

theorem not_allocated_fresh (h : Heap α) : ¬ h.Allocated h.fresh :=
  fun hfresh => Nat.lt_irrefl _ (lt_fresh_of_allocated hfresh)

/-- A new block changes no other. -/
theorem read_alloc_of_ne (hne : b ≠ h.fresh) : (h.alloc a).read b = h.read b := by
  rw [read, read, alloc]
  rcases Nat.lt_or_gt_of_ne hne with hlt | hgt
  · rw [List.getElem?_append_left hlt]
  · rw [List.getElem?_eq_none, List.getElem?_eq_none (Nat.le_of_lt hgt)]
    rw [List.length_append]
    exact hgt

@[simp] theorem read_free_self (h : Heap α) (b : ℕ) : (h.free b).read b = none := by
  rw [read, free, List.getElem?_set_self']
  cases h.blocks[b]? <;> rfl

/-- A `free` changes no other block. -/
theorem read_free_of_ne (hne : c ≠ b) : (h.free b).read c = h.read c := by
  rw [read, free, List.getElem?_set_ne hne.symm, read]

theorem allocated_alloc : (h.alloc a).Allocated b ↔ h.Allocated b ∨ b = h.fresh := by
  by_cases hb : b = h.fresh
  · subst hb
    exact iff_of_true (by rw [Allocated, read_alloc_fresh]; rfl) (.inr rfl)
  · rw [Allocated, read_alloc_of_ne hb]
    exact (or_iff_left hb).symm

theorem allocated_free : (h.free b).Allocated c ↔ h.Allocated c ∧ c ≠ b := by
  by_cases hc : c = b
  · subst hc
    exact iff_of_false (by rw [Allocated, read_free_self]; nofun) fun hn => hn.2 rfl
  · rw [Allocated, read_free_of_ne hc]
    exact (and_iff_left hc).symm

/-! ## No block is freed twice -/

/-- Every block was freed at most once, and is not allocated any more. -/
structure Sound (h : Heap α) : Prop where
  nodup : h.freed.Nodup
  dead : ∀ b ∈ h.freed, b < h.fresh ∧ ¬ h.Allocated b

theorem Sound.empty : Sound (empty : Heap α) := ⟨List.nodup_nil, nofun⟩

theorem Sound.alloc (hs : h.Sound) (a : α) : (h.alloc a).Sound where
  nodup := hs.nodup
  dead b hb := by
    obtain ⟨hlt, hdead⟩ := hs.dead b hb
    refine ⟨by rw [fresh_alloc]; exact Nat.lt_succ_of_lt hlt, fun hb' => ?_⟩
    -- an old block is not the new one
    rcases allocated_alloc.mp hb' with hb' | rfl
    · exact hdead hb'
    · exact Nat.lt_irrefl _ hlt

/-- Freeing an allocated block is sound. -/
theorem Sound.free (hs : h.Sound) (hb : h.Allocated b) : (h.free b).Sound where
  nodup := by
    rw [freed_free, ← List.concat_eq_append, List.nodup_concat]
    exact ⟨fun hmem => (hs.dead b hmem).2 hb, hs.nodup⟩
  dead c hc := by
    rw [fresh_free, allocated_free]
    rcases List.mem_append.mp hc with hc | hc
    · exact ⟨(hs.dead c hc).1, fun hn => (hs.dead c hc).2 hn.1⟩
    · obtain rfl := List.mem_singleton.mp hc
      exact ⟨lt_fresh_of_allocated hb, fun hn => hn.2 rfl⟩

/-! ## Ownership -/

/-- Every allocated block has exactly one holder, and every pointer that is not null points to an
allocated block. -/
structure Owned (h : Heap α) (ptr : ι → Option ℕ) : Prop where
  allocated : ∀ i b, ptr i = some b → h.Allocated b
  unique : ∀ i j b, ptr i = some b → ptr j = some b → i = j
  owned : ∀ b, h.Allocated b → ∃ i, ptr i = some b

theorem Owned.empty : Owned (empty : Heap α) (fun _ : ι => none) := ⟨nofun, nofun, nofun⟩

/-- Exactly one holder. -/
theorem Owned.existsUnique {ptr : ι → Option ℕ} (ho : h.Owned ptr) (hb : h.Allocated b) :
    ∃! i, ptr i = some b := by
  obtain ⟨i, hi⟩ := ho.owned b hb
  exact ⟨i, hi, fun j hj => ho.unique j i b hj hi⟩

/-- Without pointers nothing is allocated. -/
theorem Owned.not_allocated {ptr : ι → Option ℕ} (ho : h.Owned ptr) (hnull : ∀ i, ptr i = none) :
    ¬ h.Allocated b := by
  intro hb
  obtain ⟨i, hi⟩ := ho.owned b hb
  rw [hnull i] at hi
  cases hi

variable [DecidableEq ι] {ptr : ι → Option ℕ} {i j : ι}

/-- A null holder gets the new block. -/
theorem Owned.alloc (ho : h.Owned ptr) (hi : ptr i = none) (a : α) :
    (h.alloc a).Owned (Function.update ptr i (some h.fresh)) := by
  -- the other pointers are older than the new block
  have hold : ∀ j b, j ≠ i → Function.update ptr i (some h.fresh) j = some b →
      ptr j = some b ∧ b ≠ h.fresh := by
    intro j b hj hb
    rw [Function.update_of_ne hj] at hb
    exact ⟨hb, fun heq => h.not_allocated_fresh (heq ▸ ho.allocated j b hb)⟩
  have hnew : ∀ b, Function.update ptr i (some h.fresh) i = some b → b = h.fresh := by
    intro b hb
    rw [Function.update_self] at hb
    exact (Option.some.inj hb).symm
  refine ⟨fun j b hb => ?_, fun j k b hj hk => ?_, fun b hb => ?_⟩
  · rw [allocated_alloc]
    by_cases hji : j = i
    · exact .inr (hnew b (hji ▸ hb))
    · exact .inl (ho.allocated j b (hold j b hji hb).1)
  · by_cases hji : j = i <;> by_cases hki : k = i
    · rw [hji, hki]
    · exact absurd (hnew b (hji ▸ hj)) (hold k b hki hk).2
    · exact absurd (hnew b (hki ▸ hk)) (hold j b hji hj).2
    · exact ho.unique j k b (hold j b hji hj).1 (hold k b hki hk).1
  · rcases allocated_alloc.mp hb with hb | rfl
    · obtain ⟨j, hj⟩ := ho.owned b hb
      have hji : j ≠ i := by
        rintro rfl
        rw [hi] at hj
        cases hj
      exact ⟨j, by rw [Function.update_of_ne hji, hj]⟩
    · exact ⟨i, Function.update_self i _ ptr⟩

/-- A holder frees its block and is null from then on. -/
theorem Owned.free (ho : h.Owned ptr) (hi : ptr i = some b) :
    (h.free b).Owned (Function.update ptr i none) := by
  have hother : ∀ j c, Function.update ptr i none j = some c → j ≠ i ∧ ptr j = some c := by
    intro j c hc
    have hji : j ≠ i := by
      rintro rfl
      rw [Function.update_self] at hc
      cases hc
    exact ⟨hji, by rwa [Function.update_of_ne hji] at hc⟩
  refine ⟨fun j c hc => ?_, fun j k c hj hk => ?_, fun c hc => ?_⟩
  · obtain ⟨hji, hc⟩ := hother j c hc
    refine allocated_free.mpr ⟨ho.allocated j c hc, ?_⟩
    rintro rfl
    exact hji (ho.unique j i c hc hi)
  · exact ho.unique j k c (hother j c hj).2 (hother k c hk).2
  · obtain ⟨hc, hne⟩ := allocated_free.mp hc
    obtain ⟨j, hj⟩ := ho.owned c hc
    have hji : j ≠ i := by
      rintro rfl
      exact hne (Option.some.inj (hj.symm.trans hi))
    exact ⟨j, by rw [Function.update_of_ne hji, hj]⟩

/-- A holder hands its pointer, null or not, over to a null one. -/
theorem Owned.move (ho : h.Owned ptr) (hi : ptr i = none) (hij : j ≠ i) :
    h.Owned (Function.update (Function.update ptr i (ptr j)) j none) := by
  -- the block of `j` has moved to `i`, the other blocks have stayed
  have hmoved : ∀ k, Function.update (Function.update ptr i (ptr j)) j none k
      = if k = j then none else if k = i then ptr j else ptr k := by
    intro k
    rw [Function.update_apply, Function.update_apply]
  refine ⟨fun k b hb => ?_, fun k l b hk hl => ?_, fun b hb => ?_⟩
  · rw [hmoved] at hb
    split at hb
    · cases hb
    · split at hb
      · exact ho.allocated j b hb
      · exact ho.allocated k b hb
  · rw [hmoved] at hk hl
    split at hk
    · cases hk
    · split at hl
      · cases hl
      · split at hk <;> split at hl
        · rw [‹k = i›, ‹l = i›]
        · exact absurd (ho.unique j l b hk hl).symm ‹l ≠ j›
        · exact absurd (ho.unique k j b hk hl) ‹k ≠ j›
        · exact ho.unique k l b hk hl
  · obtain ⟨k, hk⟩ := ho.owned b hb
    by_cases hkj : k = j
    · exact ⟨i, by rw [hmoved, if_neg (Ne.symm hij), if_pos rfl, ← hkj, hk]⟩
    · have hki : k ≠ i := by
        rintro rfl
        rw [hi] at hk
        cases hk
      exact ⟨k, by rw [hmoved, if_neg hkj, if_neg hki, hk]⟩

end Heap

end DemoColombia
