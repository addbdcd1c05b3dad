import DemoColombia.Detector.Floats
import DemoColombia.Detector.YoloLayer
import DemoColombia.TransitionSystems.Kernels
import Mathlib.Data.List.Nodup
import Mathlib.Tactic.Ring

/-! # Running the plugin layer (`YoloLayer::enqueue`, `yoloForward.cu`, `_nc.cu`, `_v2.cu`)

For every tensor and every image of the batch one kernel is launched, with a thread for each anchor
box of each grid cell. A thread reads its values from the tensor, and stores a box, a score and a
class at a slot it computes from its position. The slots are naturals, which a store cuts to an
`int`; sizes and the indices of what is read are cut to 32 bits where the source does so. A thread
may read outside the arrays of the anchors and of the mask, where anything may lie.

* `slots_exact_iff` — the threads of a tensor store to each slot of its part exactly once iff its
  grid is a square or a single row: the row is multiplied by `gridSizeY`.
* `enqueue_outputs` — then, in any interleaving, the output buffers hold the decoded cells, image
  after image, tensor after tensor, in the order of box, row and column. -/

namespace DemoColombia.Detector

open Fp

variable {α : Type}

/-! ## The slots of a launch -/

/-- What a launch gets for one tensor of one image. -/
structure Grid (α : Type) where
  input : ℕ → Fp α
  netWidth : ℕ
  netHeight : ℕ
  gridSizeX : ℕ
  gridSizeY : ℕ
  numOutputClasses : ℕ
  numBBoxes : ℕ
  lastInputSize : ℕ
  scaleXY : Fp α
  anchors : ℤ → Fp α
  mask : ℕ → Int32

/-- The slot a thread stores to, before it is cut to an `int`. -/
def Grid.count (g : Grid α) (x_id y_id z_id : ℕ) : ℕ :=
  z_id * g.gridSizeX * g.gridSizeY + y_id * g.gridSizeY + x_id + g.lastInputSize

/-- The threads that pass the guard of the kernels, of a launch in blocks of 16 by 16 by 4. -/
def Grid.threads (g : Grid α) : List (ℕ × ℕ × ℕ) :=
  (launchIds (g.numBBoxes / 4 + 1) 4).flatMap fun z =>
    (launchIds (g.gridSizeY / 16 + 1) 16).flatMap fun y =>
      ((launchIds (g.gridSizeX / 16 + 1) 16).filter fun x =>
        !(g.gridSizeX ≤ x || g.gridSizeY ≤ y || g.numBBoxes ≤ z)).map fun x => (x, y, z)

/-- The threads that pass the guard: box by box, and row by row. -/
theorem Grid.threads_eq (g : Grid α) :
    g.threads = (List.range g.numBBoxes).flatMap fun z => (List.range g.gridSizeY).flatMap fun y =>
      (List.range g.gridSizeX).map fun x => (x, y, z) := by
  have hx : g.gridSizeX ≤ (g.gridSizeX / 16 + 1) * 16 := by omega
  have hy : g.gridSizeY ≤ (g.gridSizeY / 16 + 1) * 16 := by omega
  have hz : g.numBBoxes ≤ (g.numBBoxes / 4 + 1) * 4 := by omega
  have hrow : ∀ y z, ((launchIds (g.gridSizeX / 16 + 1) 16).filter fun x =>
        !(g.gridSizeX ≤ x || g.gridSizeY ≤ y || g.numBBoxes ≤ z)).map (fun x => (x, y, z))
      = if z < g.numBBoxes then
          if y < g.gridSizeY then (List.range g.gridSizeX).map fun x => (x, y, z) else []
        else [] := by
    intro y z
    rw [← filter_lt_launchIds hx]
    by_cases hz : z < g.numBBoxes
    · by_cases hy : y < g.gridSizeY
      · simp [hz, hy, ← decide_not]
      · simp [hz, hy, not_lt.mp hy]
    · simp [hz, not_lt.mp hz]
  have hcolumn : ∀ z, ((launchIds (g.gridSizeY / 16 + 1) 16).flatMap fun y =>
        if z < g.numBBoxes then
          if y < g.gridSizeY then (List.range g.gridSizeX).map fun x => (x, y, z) else []
        else [])
      = if z < g.numBBoxes then
          (List.range g.gridSizeY).flatMap fun y => (List.range g.gridSizeX).map fun x => (x, y, z)
        else [] := by
    intro z
    split
    · exact flatMap_launchIds hy _
    · simp
  simp only [Grid.threads, hrow, hcolumn]
  exact flatMap_launchIds hz _

/-- The slots the threads of a launch store to, in the order of `threads`. -/
def Grid.slots (g : Grid α) : List ℕ := g.threads.map fun (x, y, z) => g.count x y z

/-- The part of the buffers that belongs to a tensor. -/
def Grid.part (g : Grid α) : List ℕ :=
  List.range' g.lastInputSize (g.numBBoxes * g.gridSizeY * g.gridSizeX)

/-- Where rows are as long as columns, or there is one row, the slots follow each other. -/
theorem Grid.slots_eq_part {g : Grid α} (h : g.gridSizeX = g.gridSizeY ∨ g.gridSizeY = 1) :
    g.slots = g.part := by
  have hrows : ∀ z, ((List.range g.gridSizeY).flatMap fun y =>
        (List.range g.gridSizeX).map fun x => g.count x y z)
      = (List.range (g.gridSizeY * g.gridSizeX)).map fun i =>
          g.lastInputSize + (z * (g.gridSizeY * g.gridSizeX) + i) := by
    intro z
    rw [← launchIds_eq, launchIds, List.map_flatMap]
    refine List.flatMap_congr fun y hy => ?_
    rw [List.map_map]
    refine List.map_congr_left fun x _ => ?_
    have hrow : y * g.gridSizeY = y * g.gridSizeX := by
      rcases h with h | h
      · rw [h]
      · have : y = 0 := by rw [h, List.mem_range] at hy; omega
        rw [this, Nat.zero_mul, Nat.zero_mul]
    show z * g.gridSizeX * g.gridSizeY + y * g.gridSizeY + x + g.lastInputSize = _
    rw [hrow, Nat.mul_assoc, Nat.mul_comm g.gridSizeX]
    show _ = g.lastInputSize + (z * (g.gridSizeY * g.gridSizeX) + (y * g.gridSizeX + x))
    omega
  calc g.slots
      = (List.range g.numBBoxes).flatMap fun z =>
          (List.range (g.gridSizeY * g.gridSizeX)).map fun i =>
            g.lastInputSize + (z * (g.gridSizeY * g.gridSizeX) + i) := by
        rw [Grid.slots, Grid.threads_eq, List.map_flatMap]
        refine List.flatMap_congr fun z _ => ?_
        rw [List.map_flatMap, ← hrows]
        exact List.flatMap_congr fun y _ => List.map_map
    _ = (launchIds g.numBBoxes (g.gridSizeY * g.gridSizeX)).map (g.lastInputSize + ·) := by
        rw [launchIds, List.map_flatMap]
        exact List.flatMap_congr fun z _ => List.map_map.symm
    _ = g.part := by
        rw [launchIds_eq, Grid.part, Nat.mul_assoc, List.range'_eq_map_range]

/-- The threads of a launch. -/
theorem Grid.mem_threads {g : Grid α} {x y z : ℕ} :
    (x, y, z) ∈ g.threads ↔ x < g.gridSizeX ∧ y < g.gridSizeY ∧ z < g.numBBoxes := by
  simp only [Grid.threads_eq, List.mem_flatMap, List.mem_map, List.mem_range, Prod.mk.injEq]
  constructor
  · rintro ⟨z', hz, y', hy, x', hx, rfl, rfl, rfl⟩
    exact ⟨hx, hy, hz⟩
  · rintro ⟨hx, hy, hz⟩
    exact ⟨z, hz, y, hy, x, hx, rfl, rfl, rfl⟩

/-- **When the threads of a launch share the work.** They store to each slot of the part of their
tensor exactly once if and only if the grid is a square or a single row. -/
theorem slots_exact_iff (g : Grid α) (hx : 0 < g.gridSizeX) (hy : 0 < g.gridSizeY)
    (hz : 0 < g.numBBoxes) :
    g.slots.Perm g.part ↔ g.gridSizeX = g.gridSizeY ∨ g.gridSizeY = 1 := by
  refine ⟨fun hperm => ?_, fun h => .of_eq (Grid.slots_eq_part h)⟩
  by_contra hshape
  obtain ⟨hne, hone⟩ := not_or.mp hshape
  rcases lt_or_gt_of_ne hne with hlt | hgt
  · -- more rows than columns: the last thread stores behind the part of the tensor
    have hmem : (g.gridSizeX - 1, g.gridSizeY - 1, g.numBBoxes - 1) ∈ g.threads :=
      Grid.mem_threads.mpr ⟨by omega, by omega, by omega⟩
    have hslot := hperm.mem_iff.mp (List.mem_map_of_mem hmem)
    obtain ⟨b, hb⟩ := Nat.exists_eq_add_one.mpr hz
    obtain ⟨c, hc⟩ := Nat.exists_eq_add_one.mpr hy
    simp only [Grid.part, List.mem_range'_1, Grid.count, hb, hc, Nat.add_sub_cancel] at hslot hlt
    have hrows : c * g.gridSizeX ≤ c * c := Nat.mul_le_mul_left c (Nat.lt_succ_iff.mp hlt)
    have hpart : (b + 1) * (c + 1) * g.gridSizeX
        = b * g.gridSizeX * (c + 1) + (c * g.gridSizeX + g.gridSizeX) := by
      ring
    have hlast : c * (c + 1) = c * c + c := Nat.mul_succ c c
    omega
  · -- fewer: the first thread of the second row stores where one of the first row does
    have hfirst : (g.gridSizeY, 0, 0) ∈ g.threads := Grid.mem_threads.mpr ⟨hgt, hy, hz⟩
    have hsecond : (0, 1, 0) ∈ g.threads := Grid.mem_threads.mpr ⟨hx, by omega, hz⟩
    have hnodup : g.slots.Nodup := hperm.nodup_iff.mpr List.nodup_range'
    have heq := List.inj_on_of_nodup_map hnodup hfirst hsecond
      (by simp only [Grid.count]; omega)
    simp at heq

/-- Three rows of two columns, a box in each cell. -/
def tallGrid : Grid ℚ where
  input _ := .nan
  netWidth := 64
  netHeight := 96
  gridSizeX := 2
  gridSizeY := 3
  numOutputClasses := 1
  numBBoxes := 1
  lastInputSize := 0
  scaleXY := .nan
  anchors _ := .nan
  mask _ := 0

/-- There the work is not shared. -/
theorem slots_exact_iff_tall : ¬ tallGrid.slots.Perm tallGrid.part := by
  intro hperm
  have hshape := (slots_exact_iff tallGrid (by decide) (by decide) (by decide)).mp hperm
  revert hshape
  decide

/-! ## What a thread stores -/

/-- What a thread stores. -/
structure Decoded (α : Type) where
  xc : Fp α
  yc : Fp α
  w : Fp α
  h : Fp α
  score : Fp α
  cls : Fp α
  deriving DecidableEq

/-- A float of one of the output buffers, or one in front of it. -/
inductive Cell
  | boxes (i : ℤ)
  | scores (i : ℤ)
  | classes (i : ℤ)
  deriving DecidableEq

/-- The stores of a thread, for the image `batch`: the buffers of an image begin after those of the
images before it. `batch * 4` is a product of 32 bits. -/
def stores (outputSize batch : ℕ) (count : Int32) (d : Decoded α) :
    List (Cell × (Fp α → Fp α)) :=
  let boxes : ℕ := batch * 4 % 2 ^ 32 * outputSize
  let scores : ℕ := batch * 1 * outputSize
  let classes : ℕ := batch * 1 * outputSize
  [(.boxes (boxes + (count * 4 + 0).toInt), fun _ => d.xc),
    (.boxes (boxes + (count * 4 + 1).toInt), fun _ => d.yc),
    (.boxes (boxes + (count * 4 + 2).toInt), fun _ => d.w),
    (.boxes (boxes + (count * 4 + 3).toInt), fun _ => d.h),
    (.scores (scores + count.toInt), fun _ => d.score),
    (.classes (classes + count.toInt), fun _ => d.cls)]

/-- The launch of a kernel, `kernel` being its body; `count` is an `int`. -/
def launchKernel (kernel : Grid α → ℕ → ℕ → ℕ → Decoded α) (outputSize batch : ℕ) (g : Grid α) :
    List (List (Cell × (Fp α → Fp α))) :=
  g.threads.map fun (x, y, z) =>
    stores outputSize batch (Int32.ofNat (g.count x y z)) (kernel g x y z)

/-- The stores to a slot that is cut nowhere. -/
def slotStores (outputSize batch count : ℕ) (d : Decoded α) : List (Cell × (Fp α → Fp α)) :=
  [(.boxes ↑(batch * 4 * outputSize + (count * 4 + 0)), fun _ => d.xc),
    (.boxes ↑(batch * 4 * outputSize + (count * 4 + 1)), fun _ => d.yc),
    (.boxes ↑(batch * 4 * outputSize + (count * 4 + 2)), fun _ => d.w),
    (.boxes ↑(batch * 4 * outputSize + (count * 4 + 3)), fun _ => d.h),
    (.scores ↑(batch * outputSize + count), fun _ => d.score),
    (.classes ↑(batch * outputSize + count), fun _ => d.cls)]

/-- A natural that an `int` holds. -/
theorem toInt_ofNat_mul_add {count k : ℕ} (h : count * 4 + k < 2 ^ 31) :
    (Int32.ofNat count * 4 + Int32.ofNat k).toInt = ((count * 4 + k : ℕ) : ℤ) := by
  have hmul : Int32.ofNat count * 4 = Int32.ofNat (count * 4) := (Int32.ofNat_mul count 4).symm
  rw [hmul, ← Int32.ofNat_add, Int32.toInt_ofNat_of_lt h]

/-- **Below `2 ^ 29` slots and `2 ^ 30` images nothing is cut.** -/
theorem stores_ofNat (n : ℕ) {b count : ℕ} (d : Decoded α) (hb : b < 2 ^ 30)
    (hcount : count < 2 ^ 29) :
    stores n b (Int32.ofNat count) d = slotStores n b count d := by
  have hbatch : b * 4 % 2 ^ 32 = b * 4 := Nat.mod_eq_of_lt (by omega)
  have hslot : (Int32.ofNat count).toInt = count := Int32.toInt_ofNat_of_lt (by omega)
  have hindex : ∀ k < 4, ((b * 4 * n : ℕ) : ℤ) + (Int32.ofNat count * 4 + Int32.ofNat k).toInt
      = ((b * 4 * n + (count * 4 + k) : ℕ) : ℤ) := by
    intro k hk
    rw [toInt_ofNat_mul_add (by omega), ← Nat.cast_add]
  have hzero := hindex 0 (by omega)
  have hone := hindex 1 (by omega)
  have htwo := hindex 2 (by omega)
  have hthree := hindex 3 (by omega)
  simp only [stores, slotStores, hbatch, hslot, Nat.mul_one, ← Nat.cast_add (b * n)]
  rw [← hzero, ← hone, ← htwo, ← hthree]
  rfl

/-- Slots of images are different places of a buffer. -/
theorem slot_injective {n b b' count count' : ℕ} (h : count < n) (h' : count' < n)
    (heq : b * n + count = b' * n + count') : b = b' ∧ count = count' := by
  have hn : 0 < n := by omega
  have hb := congrArg (· / n) heq
  have hcount := congrArg (· % n) heq
  simp only [Nat.mul_comm _ n, Nat.mul_add_div hn, Nat.div_eq_of_lt h, Nat.div_eq_of_lt h',
    Nat.mul_add_mod, Nat.mod_eq_of_lt h, Nat.mod_eq_of_lt h', Nat.add_zero] at hb hcount
  exact ⟨hb, hcount⟩

/-- The cells a thread stores to. -/
theorem cell_of_mem_slotStores {n b count : ℕ} {d : Decoded α} {w : Cell × (Fp α → Fp α)}
    (hw : w ∈ slotStores n b count d) :
    (∃ k < 4, w.1 = .boxes ↑(b * 4 * n + (count * 4 + k))) ∨ w.1 = .scores ↑(b * n + count) ∨
      w.1 = .classes ↑(b * n + count) := by
  simp only [slotStores, List.mem_cons, List.not_mem_nil, or_false] at hw
  rcases hw with rfl | rfl | rfl | rfl | rfl | rfl
  · exact .inl ⟨0, by omega, rfl⟩
  · exact .inl ⟨1, by omega, rfl⟩
  · exact .inl ⟨2, by omega, rfl⟩
  · exact .inl ⟨3, by omega, rfl⟩
  · exact .inr (.inl rfl)
  · exact .inr (.inr rfl)

/-- Stores to different slots are stores to different cells. -/
theorem slotStores_ne {n b b' count count' : ℕ} {d d' : Decoded α} (h : count < n)
    (h' : count' < n) (hne : b = b' → count ≠ count') :
    ∀ w ∈ slotStores n b count d, ∀ w' ∈ slotStores n b' count' d', w.1 ≠ w'.1 := by
  intro w hw w' hw' heq
  have hslot : b * n + count ≠ b' * n + count' := fun heq =>
    hne (slot_injective h h' heq).1 (slot_injective h h' heq).2
  have hassoc : b * 4 * n = 4 * (b * n) := by ring
  have hassoc' : b' * 4 * n = 4 * (b' * n) := by ring
  rcases cell_of_mem_slotStores hw with ⟨k, hk, hw⟩ | hw | hw <;>
    rcases cell_of_mem_slotStores hw' with ⟨k', hk', hw'⟩ | hw' | hw' <;>
    simp only [hw, hw', Cell.boxes.injEq, Cell.scores.injEq, Cell.classes.injEq, Nat.cast_inj,
      reduceCtorEq] at heq
  · omega
  · exact hslot heq
  · exact hslot heq

/-- What the buffers hold at a slot of an image. -/
def readSlot (m : Cell → Fp α) (outputSize batch count : ℕ) : Decoded α where
  xc := m (.boxes ↑(batch * 4 * outputSize + (count * 4 + 0)))
  yc := m (.boxes ↑(batch * 4 * outputSize + (count * 4 + 1)))
  w := m (.boxes ↑(batch * 4 * outputSize + (count * 4 + 2)))
  h := m (.boxes ↑(batch * 4 * outputSize + (count * 4 + 3)))
  score := m (.scores ↑(batch * outputSize + count))
  cls := m (.classes ↑(batch * outputSize + count))

/-- A thread alone leaves what it stores. -/
theorem readSlot_slotStores (n b count : ℕ) (d : Decoded α) (m : Cell → Fp α) :
    readSlot ((slotStores n b count d).foldl store m) n b count = d := by
  simp [readSlot, slotStores, store]

/-- A slot is the cells of its thread. -/
theorem readSlot_congr {n b count : ℕ} {d : Decoded α} {m m' : Cell → Fp α}
    (h : ∀ w ∈ slotStores n b count d, m w.1 = m' w.1) :
    readSlot m n b count = readSlot m' n b count := by
  simp only [slotStores, List.forall_mem_cons] at h
  obtain ⟨hxc, hyc, hw, hh, hscore, hcls, -⟩ := h
  rw [readSlot, readSlot, hxc, hyc, hw, hh, hscore, hcls]

/-- The outputs of the layer for an image, slot by slot. -/
def readImage (m : Cell → Fp α) (outputSize batch : ℕ) : List (Decoded α) :=
  (List.range outputSize).map (readSlot m outputSize batch)

/-- An image is given by its slots. -/
theorem readImage_eq {m : Cell → Fp α} {outputSize batch : ℕ} {image : List (Decoded α)}
    (hlength : image.length = outputSize)
    (hslot : ∀ count d, image[count]? = some d → readSlot m outputSize batch count = d) :
    readImage m outputSize batch = image := by
  refine List.ext_getElem ?_ fun count hleft hright => ?_
  · rw [readImage, List.length_map, List.length_range, hlength]
  · simp only [readImage, List.getElem_map, List.getElem_range]
    exact hslot count _ (List.getElem?_eq_getElem hright)

/-! ## One thread -/

variable [LinearOrder α] [Zero α]

/-- `bbindex + numGridCells * (z_id * (5 + numOutputClasses) + k)`, a `uint`. -/
def Grid.inputIndex (g : Grid α) (x y z k : ℕ) : ℕ :=
  (y * g.gridSizeX + x + g.gridSizeX * g.gridSizeY * (z * (5 + g.numOutputClasses) + k)) % 2 ^ 32

/-- The `k`-th value of a box of a cell. -/
def Grid.at (g : Grid α) (x y z k : ℕ) : Fp α := g.input (g.inputIndex x y z k)

/-- The loop over the classes: the greatest probability above zero, and the first class with it. -/
def bestClass (prob : ℕ → Fp α) (numOutputClasses : ℕ) : Fp α × Int32 :=
  (List.range numOutputClasses).foldl (fun best i =>
    if best.1.lt (prob i) then (prob i, Int32.ofNat i) else best) (num 0, -1)

variable (ar : Arith α)

/-- `sigmoidGPU`. -/
def sigmoidGPU (x : Fp α) : Fp α := ar.div (ar.lit 1) (ar.add (ar.lit 1) (ar.expf (ar.neg x)))

/-- The score and the class, and the box with them. -/
def Decoded.of (prob : ℕ → Fp α) (numOutputClasses : ℕ) (objectness xc yc w h : Fp α) :
    Decoded α :=
  let best := bestClass prob numOutputClasses
  ⟨xc, yc, w, h, ar.mul best.1 objectness, ar.ofInt best.2⟩

/-- The body of `gpuYoloLayer`. -/
def gpuYoloLayer (g : Grid α) (x_id y_id z_id : ℕ) : Decoded α :=
  let input := g.at x_id y_id z_id
  let alpha := g.scaleXY
  let beta := ar.mul (ar.lit (-1 / 2)) (ar.sub g.scaleXY (ar.lit 1))
  let xc := ar.div (ar.mul (ar.add (ar.add (ar.mul (sigmoidGPU ar (input 0)) alpha) beta)
    (num (ar.ofUint x_id))) (num (ar.ofUint g.netWidth))) (num (ar.ofUint g.gridSizeX))
  let yc := ar.div (ar.mul (ar.add (ar.add (ar.mul (sigmoidGPU ar (input 1)) alpha) beta)
    (num (ar.ofUint y_id))) (num (ar.ofUint g.netHeight))) (num (ar.ofUint g.gridSizeY))
  let w := ar.mul (ar.expf (input 2)) (g.anchors (g.mask z_id * 2).toInt)
  let h := ar.mul (ar.expf (input 3)) (g.anchors (g.mask z_id * 2 + 1).toInt)
  let objectness := sigmoidGPU ar (input 4)
  .of ar (fun i => sigmoidGPU ar (input (5 + i))) g.numOutputClasses objectness xc yc w h

/-- The body of `gpuYoloLayer_nc`. -/
def gpuYoloLayer_nc (g : Grid α) (x_id y_id z_id : ℕ) : Decoded α :=
  let input := g.at x_id y_id z_id
  let alpha := g.scaleXY
  let beta := ar.mul (ar.lit (-1 / 2)) (ar.sub g.scaleXY (ar.lit 1))
  let xc := ar.div (ar.mul (ar.add (ar.add (ar.mul (input 0) alpha) beta)
    (num (ar.ofUint x_id))) (num (ar.ofUint g.netWidth))) (num (ar.ofUint g.gridSizeX))
  let yc := ar.div (ar.mul (ar.add (ar.add (ar.mul (input 1) alpha) beta)
    (num (ar.ofUint y_id))) (num (ar.ofUint g.netHeight))) (num (ar.ofUint g.gridSizeY))
  let w := ar.mul (ar.powf (ar.mul (input 2) (ar.lit 2)) (ar.lit 2))
    (g.anchors (g.mask z_id * 2).toInt)
  let h := ar.mul (ar.powf (ar.mul (input 3) (ar.lit 2)) (ar.lit 2))
    (g.anchors (g.mask z_id * 2 + 1).toInt)
  let objectness := input 4
  .of ar (fun i => input (5 + i)) g.numOutputClasses objectness xc yc w h

/-- `softmaxGPU` on the values of the classes: the value it leaves for each. The maximum is taken
over the values cut to integers. -/
def softmaxGPU (input : ℕ → Fp α) (numOutputClasses : ℕ) (temp : Fp α) (i : ℕ) : Fp α :=
  let largest := (List.range numOutputClasses).foldl (fun largest i =>
    let val := ar.ofInt (ar.toInt (input i))
    if largest.lt val then val else largest) ar.negInf
  let e := fun i => ar.expf (ar.sub (ar.div (input i) temp) (ar.div largest temp))
  let sum := (List.range numOutputClasses).foldl (fun sum i => ar.add sum (e i)) (num 0)
  ar.div (e i) sum

/-- The body of `gpuRegionLayer`. -/
def gpuRegionLayer (g : Grid α) (x_id y_id z_id : ℕ) : Decoded α :=
  let input := g.at x_id y_id z_id
  let xc := ar.div (ar.mul (ar.add (sigmoidGPU ar (input 0)) (num (ar.ofUint x_id)))
    (num (ar.ofUint g.netWidth))) (num (ar.ofUint g.gridSizeX))
  let yc := ar.div (ar.mul (ar.add (sigmoidGPU ar (input 1)) (num (ar.ofUint y_id)))
    (num (ar.ofUint g.netHeight))) (num (ar.ofUint g.gridSizeY))
  let w := ar.div (ar.mul (ar.mul (ar.expf (input 2)) (g.anchors ((z_id * 2 % 2 ^ 32 : ℕ))))
    (num (ar.ofUint g.netWidth))) (num (ar.ofUint g.gridSizeX))
  let h := ar.div (ar.mul (ar.mul (ar.expf (input 3)) (g.anchors (((z_id * 2 + 1) % 2 ^ 32 : ℕ))))
    (num (ar.ofUint g.netHeight))) (num (ar.ofUint g.gridSizeY))
  let objectness := sigmoidGPU ar (input 4)
  let softmax := softmaxGPU ar (fun i => input (5 + i)) g.numOutputClasses (ar.lit 1)
  .of ar softmax g.numOutputClasses objectness xc yc w h

/-! ## The layer -/

/-- The memory of the device, as the launches for a tensor find it: the input of the layer, and, at
the launch for an image, what lies around the copies of the anchors and of the mask. -/
structure Device (α : Type) where
  input : ℕ → Fp α
  around_anchors : ℕ → ℤ → Fp α
  around_mask : ℕ → ℤ → Int32

/-- Reading a host vector that was copied to the device, and what lies around the copy. -/
def devicePtr {β : Type} (around : ℤ → β) (l : List β) (i : ℤ) : β :=
  if 0 ≤ i then (l[i.toNat]?).getD (around i) else around i

/-- The kernel `enqueue` chooses for a tensor. -/
def YoloLayer.kernel (l : YoloLayer (Fp α)) (t : TensorInfo (Fp α)) :
    Grid α → ℕ → ℕ → ℕ → Decoded α :=
  if 0 < t.mask.length then
    if l.m_NewCoords ≠ 0 then gpuYoloLayer_nc ar else gpuYoloLayer ar
  else gpuRegionLayer ar

/-- `inputSize`, a product of 32 bits. -/
def YoloLayer.inputSize (l : YoloLayer (Fp α)) (t : TensorInfo (Fp α)) : ℕ :=
  (t.numBBoxes * (4 + 1 + l.m_NumClasses) * t.gridSizeY * t.gridSizeX).toNat

/-- How far a tensor moves `lastInputSize`, a product of 32 bits. -/
def TensorInfo.outputs (t : TensorInfo (Fp α)) : ℕ :=
  (t.numBBoxes * t.gridSizeY * t.gridSizeX).toNat

/-- What the launch for a tensor and an image gets. -/
def YoloLayer.grid (l : YoloLayer (Fp α)) (t : TensorInfo (Fp α)) (device : Device α)
    (lastInputSize batch : ℕ) : Grid α where
  input i := device.input (batch * l.inputSize t + i)
  netWidth := l.m_NetWidth.toNat
  netHeight := l.m_NetHeight.toNat
  gridSizeX := t.gridSizeX.toNat
  gridSizeY := t.gridSizeY.toNat
  numOutputClasses := l.m_NumClasses.toNat
  numBBoxes := t.numBBoxes.toNat
  lastInputSize := lastInputSize
  scaleXY := t.scaleXY
  anchors := devicePtr (device.around_anchors batch) t.anchors
  mask i := devicePtr (device.around_mask batch) t.mask i

/-- The loop of `enqueue`: the launches, in the order of the stream. -/
def YoloLayer.enqueueLoop (l : YoloLayer (Fp α)) (batchSize : ℕ) :
    List (TensorInfo (Fp α) × Device α) → ℕ → List (List (List (Cell × (Fp α → Fp α))))
  | [], _ => []
  | (t, device) :: rest, lastInputSize =>
    ((List.range batchSize).map fun batch =>
        launchKernel (l.kernel ar t) l.m_OutputSize.toNat batch
          (l.grid t device lastInputSize batch))
      ++ l.enqueueLoop batchSize rest (lastInputSize + t.outputs)

/-- `YoloLayer::enqueue`: what it may leave in the output buffers. -/
def YoloLayer.Enqueue (l : YoloLayer (Fp α)) (batchSize : ℕ) (inputs : List (Device α))
    (m m' : Cell → Fp α) : Prop :=
  Launches (l.enqueueLoop ar batchSize (l.m_YoloTensors.zip inputs) 0) m m'

/-! ## All launches -/

/-- What the kernels make of a tensor of an image: box by box, row by row. -/
def YoloLayer.decodeCells (l : YoloLayer (Fp α)) (t : TensorInfo (Fp α)) (device : Device α)
    (batch : ℕ) : List (Decoded α) :=
  (List.range t.numBBoxes.toNat).flatMap fun z => (List.range t.gridSizeY.toNat).flatMap fun y =>
    (List.range t.gridSizeX.toNat).map fun x => l.kernel ar t (l.grid t device 0 batch) x y z

/-- What they make of an image. -/
def YoloLayer.decodeImage (l : YoloLayer (Fp α)) (tensors : List (TensorInfo (Fp α) × Device α))
    (batch : ℕ) : List (Decoded α) :=
  tensors.flatMap fun (t, device) => l.decodeCells ar t device batch

/-- The stores of all launches: the image, what is stored, and the slot. -/
def YoloLayer.jobs (l : YoloLayer (Fp α)) (batchSize : ℕ) :
    List (TensorInfo (Fp α) × Device α) → ℕ → List (ℕ × Decoded α × ℕ)
  | [], _ => []
  | (t, device) :: rest, lastInputSize =>
    (List.range batchSize).flatMap (fun batch =>
        ((l.decodeCells ar t device batch).zipIdx lastInputSize).map (batch, ·))
      ++ l.jobs batchSize rest (lastInputSize + t.outputs)

/-- A grid for which the slots of a launch follow each other. -/
def TensorInfo.Square (t : TensorInfo (Fp α)) : Prop :=
  t.gridSizeX = t.gridSizeY ∨ t.gridSizeY = 1

instance (t : TensorInfo (Fp α)) : Decidable t.Square := inferInstanceAs (Decidable (_ ∨ _))

/-- The boxes of a tensor are fewer than `2 ^ 32`. -/
def TensorInfo.Countable (t : TensorInfo (Fp α)) : Prop :=
  t.numBBoxes.toNat * t.gridSizeY.toNat * t.gridSizeX.toNat < 2 ^ 32

instance (t : TensorInfo (Fp α)) : Decidable t.Countable := inferInstanceAs (Decidable (_ < _))

/-- **A layer whose launches fit together.** -/
structure YoloLayer.Regular (l : YoloLayer (Fp α)) : Prop where
  /-- Every grid is a square or a single row. -/
  square : ∀ t ∈ l.m_YoloTensors, t.Square
  countable : ∀ t ∈ l.m_YoloTensors, t.Countable
  /-- The output size is the number of all boxes. -/
  size : l.m_OutputSize.toNat = (l.m_YoloTensors.map TensorInfo.outputs).sum
  /-- An `int` numbers the values of the boxes. -/
  fits : 4 * l.m_OutputSize.toNat ≤ 2 ^ 31

instance (l : YoloLayer (Fp α)) : Decidable l.Regular :=
  decidable_of_iff ((∀ t ∈ l.m_YoloTensors, t.Square) ∧ (∀ t ∈ l.m_YoloTensors, t.Countable) ∧
      l.m_OutputSize.toNat = (l.m_YoloTensors.map TensorInfo.outputs).sum ∧
      4 * l.m_OutputSize.toNat ≤ 2 ^ 31)
    ⟨fun h => ⟨h.1, h.2.1, h.2.2.1, h.2.2.2⟩, fun h => ⟨h.square, h.countable, h.size, h.fits⟩⟩

variable {ar} {l : YoloLayer (Fp α)} {t : TensorInfo (Fp α)} {device : Device α}
  {tensors : List (TensorInfo (Fp α) × Device α)} {batchSize batch lastInputSize : ℕ}

omit [LinearOrder α] [Zero α] in
/-- The number of the boxes is exact. -/
theorem TensorInfo.Countable.outputs_eq (h : t.Countable) :
    t.outputs = t.numBBoxes.toNat * t.gridSizeY.toNat * t.gridSizeX.toNat := by
  rw [TensorInfo.outputs, UInt32.toNat_mul, UInt32.toNat_mul, Nat.mod_mul_mod]
  exact Nat.mod_eq_of_lt h

theorem length_decodeCells : (l.decodeCells ar t device batch).length
    = t.numBBoxes.toNat * t.gridSizeY.toNat * t.gridSizeX.toNat := by
  simp [YoloLayer.decodeCells, List.length_flatMap, Nat.mul_assoc]

/-- The kernels do not read `lastInputSize` but for the slot. -/
theorem kernel_grid (lastInputSize : ℕ) :
    l.kernel ar t (l.grid t device lastInputSize batch)
      = l.kernel ar t (l.grid t device 0 batch) := by
  unfold YoloLayer.kernel
  split
  · split
    · rfl
    · rfl
  · rfl

/-- The stores of the launch for a tensor and an image. -/
theorem launchKernel_eq (ht : t.Square) (outputSize : ℕ) :
    launchKernel (l.kernel ar t) outputSize batch (l.grid t device lastInputSize batch)
      = ((l.decodeCells ar t device batch).zipIdx lastInputSize).map fun (d, count) =>
          stores outputSize batch (Int32.ofNat count) d := by
  have hshape : (l.grid t device lastInputSize batch).gridSizeX
        = (l.grid t device lastInputSize batch).gridSizeY ∨
      (l.grid t device lastInputSize batch).gridSizeY = 1 := by
    rcases ht with h | h
    · exact .inl (congrArg UInt32.toNat h)
    · exact .inr (congrArg UInt32.toNat h)
  have hcells : l.decodeCells ar t device batch
      = (l.grid t device lastInputSize batch).threads.map fun (x, y, z) =>
          l.kernel ar t (l.grid t device lastInputSize batch) x y z := by
    rw [Grid.threads_eq, kernel_grid, List.map_flatMap]
    refine List.flatMap_congr fun z _ => ?_
    rw [List.map_flatMap]
    refine List.flatMap_congr fun y _ => ?_
    rw [List.map_map]
    rfl
  have hslots := Grid.slots_eq_part hshape
  rw [List.zipIdx_eq_zip_range', length_decodeCells]
  have hpart : List.range' lastInputSize
        (t.numBBoxes.toNat * t.gridSizeY.toNat * t.gridSizeX.toNat)
      = (l.grid t device lastInputSize batch).part := rfl
  rw [hpart, ← hslots, hcells, Grid.slots, List.zip_map', List.map_map]
  rfl

/-- The stores of the loop. -/
theorem enqueueLoop_flatten (h : ∀ p ∈ tensors, p.1.Square) :
    (l.enqueueLoop ar batchSize tensors lastInputSize).flatten
      = (l.jobs ar batchSize tensors lastInputSize).map fun (b, d, count) =>
          stores l.m_OutputSize.toNat b (Int32.ofNat count) d := by
  induction tensors generalizing lastInputSize with
  | nil => rfl
  | cons p tensors ih =>
    obtain ⟨t, device⟩ := p
    obtain ⟨ht, hrest⟩ := List.forall_mem_cons.mp h
    rw [YoloLayer.enqueueLoop, YoloLayer.jobs, List.flatten_append, List.map_append, ih hrest,
      List.map_flatMap, ← List.flatMap_def]
    congr 1
    refine List.flatMap_congr fun b _ => ?_
    rw [launchKernel_eq ht, List.map_map]
    rfl

/-- An image gets what the kernels make of it, one after the other. -/
theorem mem_jobs (hcountable : ∀ p ∈ tensors, p.1.Countable) {b count : ℕ} {d : Decoded α} :
    (b, d, count) ∈ l.jobs ar batchSize tensors lastInputSize ↔
      b < batchSize ∧ (d, count) ∈ (l.decodeImage ar tensors b).zipIdx lastInputSize := by
  induction tensors generalizing lastInputSize with
  | nil => simp [YoloLayer.jobs, YoloLayer.decodeImage]
  | cons p tensors ih =>
    obtain ⟨t, device⟩ := p
    have himage : l.decodeImage ar ((t, device) :: tensors) b
        = l.decodeCells ar t device b ++ l.decodeImage ar tensors b := rfl
    obtain ⟨ht, hrest⟩ := List.forall_mem_cons.mp hcountable
    rw [YoloLayer.jobs, List.mem_append, ih hrest, himage, List.zipIdx_append, length_decodeCells,
      ← ht.outputs_eq, List.mem_append]
    simp only [List.mem_flatMap, List.mem_map, List.mem_range, Prod.mk.injEq]
    constructor
    · rintro (⟨b', hb, p, hp, rfl, rfl⟩ | ⟨hb, hp⟩)
      · exact ⟨hb, .inl hp⟩
      · exact ⟨hb, .inr hp⟩
    · rintro ⟨hb, hp | hp⟩
      · exact .inl ⟨b, hb, _, hp, rfl, rfl⟩
      · exact .inr ⟨hb, hp⟩

/-- No slot of an image is stored to twice. -/
theorem pairwise_jobs (hcountable : ∀ p ∈ tensors, p.1.Countable) :
    (l.jobs ar batchSize tensors lastInputSize).Pairwise fun j j' =>
      j.1 = j'.1 → j.2.2 ≠ j'.2.2 := by
  induction tensors generalizing lastInputSize with
  | nil => exact .nil
  | cons p tensors ih =>
    obtain ⟨t, device⟩ := p
    obtain ⟨ht, hrest⟩ := List.forall_mem_cons.mp hcountable
    rw [YoloLayer.jobs]
    refine List.pairwise_append.mpr ⟨?_, ih hrest, ?_⟩
    · rw [List.pairwise_flatMap]
      refine ⟨fun b _ => ?_, ?_⟩
      · rw [List.pairwise_map]
        have hnodup :
            (((l.decodeCells ar t device b).zipIdx lastInputSize).map Prod.snd).Nodup := by
          rw [List.zipIdx_map_snd]
          exact List.nodup_range'
        exact (List.pairwise_map.mp hnodup).imp fun hne (_ : b = b) => hne
      · refine List.nodup_range.imp fun hne => ?_
        intro j hj j' hj' heq
        obtain ⟨_, _, rfl⟩ := List.mem_map.mp hj
        obtain ⟨_, _, rfl⟩ := List.mem_map.mp hj'
        exact absurd heq hne
    · intro j hj j' hj' _
      obtain ⟨b, -, hj⟩ := List.mem_flatMap.mp hj
      obtain ⟨⟨d, count⟩, hp, rfl⟩ := List.mem_map.mp hj
      obtain ⟨-, hp'⟩ := (mem_jobs hrest).mp hj'
      have hlow := (List.mem_zipIdx hp).2.1
      have hhigh := (List.mem_zipIdx hp').1
      rw [length_decodeCells, ← ht.outputs_eq] at hlow
      exact (lt_of_lt_of_le hlow hhigh).ne

/-- Every image gets all boxes. -/
theorem length_decodeImage (h : l.Regular) {inputs : List (Device α)}
    (hinputs : inputs.length = l.m_YoloTensors.length) (b : ℕ) :
    (l.decodeImage ar (l.m_YoloTensors.zip inputs) b).length = l.m_OutputSize.toNat := by
  have hfst : (l.m_YoloTensors.zip inputs).map (fun p => p.1.outputs)
      = l.m_YoloTensors.map TensorInfo.outputs := by
    calc (l.m_YoloTensors.zip inputs).map (fun p => p.1.outputs)
        = ((l.m_YoloTensors.zip inputs).map Prod.fst).map TensorInfo.outputs := by
          rw [List.map_map]
          rfl
      _ = l.m_YoloTensors.map TensorInfo.outputs := by rw [List.map_fst_zip hinputs.ge]
  rw [YoloLayer.decodeImage, List.length_flatMap, h.size, ← hfst]
  refine congrArg List.sum (List.map_congr_left fun p hp => ?_)
  rw [length_decodeCells, (h.countable p.1 (List.of_mem_zip hp).1).outputs_eq]

/-- Whatever the interleaving, a slot of an image holds the box at its place: it has a thread of its
own. -/
theorem readSlot_enqueue {inputs : List (Device α)} {m m' : Cell → Fp α} (hregular : l.Regular)
    (hinputs : inputs.length = l.m_YoloTensors.length) (hbatches : batchSize ≤ 2 ^ 30)
    (h : l.Enqueue ar batchSize inputs m m') (hbatch : batch < batchSize) {count : ℕ}
    {d : Decoded α}
    (hd : (l.decodeImage ar (l.m_YoloTensors.zip inputs) batch)[count]? = some d) :
    readSlot m' l.m_OutputSize.toNat batch count = d := by
  have hcountable : ∀ p ∈ l.m_YoloTensors.zip inputs, p.1.Countable := fun p hp =>
    hregular.countable p.1 (List.of_mem_zip hp).1
  have hjobs : ∀ j ∈ l.jobs ar batchSize (l.m_YoloTensors.zip inputs) 0,
      j.1 < batchSize ∧ j.2.2 < l.m_OutputSize.toNat := by
    intro j hj
    obtain ⟨hb, hj⟩ := (mem_jobs hcountable).mp hj
    have hlt := (List.mem_zipIdx hj).2.1
    rw [length_decodeImage hregular hinputs, Nat.zero_add] at hlt
    exact ⟨hb, hlt⟩
  have hfits := hregular.fits
  have hstores : (l.enqueueLoop ar batchSize (l.m_YoloTensors.zip inputs) 0).flatten
      = (l.jobs ar batchSize (l.m_YoloTensors.zip inputs) 0).map fun (b, d, count) =>
          slotStores l.m_OutputSize.toNat b count d := by
    rw [enqueueLoop_flatten fun p hp => hregular.square p.1 (List.of_mem_zip hp).1]
    refine List.map_congr_left fun (b, d, count) hj => ?_
    obtain ⟨hb, hcount⟩ : b < batchSize ∧ count < l.m_OutputSize.toNat := hjobs _ hj
    exact stores_ofNat _ _ (by omega) (by omega)
  have hown : OwnCells (l.enqueueLoop ar batchSize (l.m_YoloTensors.zip inputs) 0).flatten := by
    rw [hstores, OwnCells, List.pairwise_map]
    exact (pairwise_jobs hcountable).imp_of_mem fun hj hj' hne =>
      slotStores_ne (hjobs _ hj).2 (hjobs _ hj').2 hne
  have hjob : (batch, d, count) ∈ l.jobs ar batchSize (l.m_YoloTensors.zip inputs) 0 :=
    (mem_jobs hcountable).mpr ⟨hbatch, List.mem_zipIdx_iff_getElem?.mpr hd⟩
  have hthread : slotStores l.m_OutputSize.toNat batch count d
      ∈ (l.enqueueLoop ar batchSize (l.m_YoloTensors.zip inputs) 0).flatten := by
    rw [hstores]
    exact List.mem_map_of_mem hjob
  rw [readSlot_congr fun w hw => h.outcome.apply_of_mem hown hthread hw, readSlot_slotStores]

/-- **The outputs of the layer.** If the grid of every tensor is a square or a single row, the
output size is the number of all boxes, and the boxes can be numbered by an `int`, then whatever the
interleaving of the threads of every launch and whatever lies around the arrays, the buffers of each
image of the batch hold what the kernels make of it: tensor after tensor, box after box, row after
row. -/
theorem enqueue_outputs {inputs : List (Device α)} {m m' : Cell → Fp α} (hregular : l.Regular)
    (hinputs : inputs.length = l.m_YoloTensors.length) (hbatches : batchSize ≤ 2 ^ 30)
    (h : l.Enqueue ar batchSize inputs m m') (hbatch : batch < batchSize) :
    readImage m' l.m_OutputSize.toNat batch
      = l.decodeImage ar (l.m_YoloTensors.zip inputs) batch :=
  readImage_eq (length_decodeImage hregular hinputs batch) fun _ _ hd =>
    readSlot_enqueue hregular hinputs hbatches h hbatch hd

/-- Exact arithmetic, with an exponential that is one everywhere. -/
def flatArith : Arith ℚ := Arith.rational (fun _ => num 1) fun a _ => a

/-- A layer of two tensors and two classes: one of two cells, with a mask, and one of a single cell,
without. -/
def twoTensors : YoloLayer (Fp ℚ) where
  m_Namespace := ""
  m_NetWidth := 32
  m_NetHeight := 32
  m_NumClasses := 2
  m_NewCoords := 1
  m_YoloTensors := [⟨"yolo", 2, 1, 1, num 1, [num 10, num 20], [0]⟩,
    ⟨"region", 1, 1, 1, num 1, [num (1 / 2), num (1 / 4)], []⟩]
  m_OutputSize := 3

/-- What the network says of the two cells, in the one image and in the other. -/
def twoCellsInput : List ℚ :=
  [1 / 2, 0, 1 / 2, 1 / 2, 1, 1, 1, 1, 1 / 2, 1, 1 / 4, 0, 1 / 2, 0,
    1, 1, 1, 1, 1, 1, 1, 1, 1, 1 / 4, 1, 0, 0, 1]

/-- What it says of the single cell. -/
def singleCellInput : List ℚ := [0, 0, 0, 0, 0, 2, 1, 1, 1, 1, 1, 1, 0, 3]

/-- The two inputs, with nothing but NaN around the arrays. -/
def twoInputs : List (Device ℚ) :=
  [⟨fun i => num (twoCellsInput.getD i 0), fun _ _ => nan, fun _ _ => 0⟩,
    ⟨fun i => num (singleCellInput.getD i 0), fun _ _ => nan, fun _ _ => 0⟩]

/-- What is decoded of the first image; no class of its second cell is likely. -/
def firstImage : List (Decoded ℚ) :=
  [⟨num 8, num 16, num 20, num 40, num (1 / 4), num 1⟩,
    ⟨num 16, num 16, num 20, num 40, num 0, num (-1)⟩,
    ⟨num 16, num 16, num 16, num 8, num (1 / 4), num 0⟩]

/-- What is decoded of the second. -/
def secondImage : List (Decoded ℚ) :=
  [⟨num 16, num 32, num 20, num 40, num 1, num 0⟩,
    ⟨num 32, num 32, num 20, num 40, num (1 / 4), num 1⟩,
    ⟨num 16, num 16, num 16, num 8, num (1 / 4), num 0⟩]

/-- The layer leaves both in its buffers, in any interleaving. -/
theorem enqueue_outputs_two :
    (∃ m', twoTensors.Enqueue flatArith 2 twoInputs (fun _ => nan) m') ∧
      ∀ m', twoTensors.Enqueue flatArith 2 twoInputs (fun _ => nan) m' →
        readImage m' 3 0 = firstImage ∧ readImage m' 3 1 = secondImage := by
  refine ⟨⟨_, Launches.sequential _ _⟩, fun m' hrun => ⟨?_, ?_⟩⟩
  · exact (enqueue_outputs (by decide) rfl (by decide) hrun Nat.two_pos).trans
      (by decide +kernel : _ = firstImage)
  · exact (enqueue_outputs (by decide) rfl (by decide) hrun Nat.one_lt_two).trans
      (by decide +kernel : _ = secondImage)

end DemoColombia.Detector
