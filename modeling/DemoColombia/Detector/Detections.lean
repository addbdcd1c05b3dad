import DemoColombia.Detector.Boxes
import DemoColombia.Detector.YoloForward

/-! # From the network's tensors to the objects of a frame

The plugin layer decodes the tensors of a batch, and the parser reads the part of the buffers that
belongs to a frame. A cell none of whose classes has a probability above zero is stored with the
class −1, and the parser takes the class for an index into the thresholds.

* `bestClass_spec` — the class of a cell: the first of the greatest probability, or −1.
* `detections_of_image` — the parser makes of a frame, cell by cell, what the kernels decoded; it
  reads outside the thresholds iff some cell has no class of a probability above zero. -/

namespace DemoColombia.Detector

open Fp

variable {α : Type} [LinearOrder α] [Zero α]

/-! ## The class of a cell -/

/-- **The class of a cell** is the first of those with the greatest probability, if that is above
zero, and else −1. -/
theorem bestClass_spec (prob : ℕ → Fp α) (n : ℕ) :
    ∃ x, (bestClass prob n).1 = num x ∧ (∀ j < n, (num x).lt (prob j) = false) ∧
      ((x = 0 ∧ (bestClass prob n).2 = -1) ∨
        (0 < x ∧ ∃ i < n, (bestClass prob n).2 = Int32.ofNat i ∧ prob i = num x ∧
          ∀ j < i, prob j ≠ num x)) := by
  induction n with
  | zero => exact ⟨0, rfl, by simp, .inl ⟨rfl, rfl⟩⟩
  | succ n ih =>
    obtain ⟨x, hx, hmax, hindex⟩ := ih
    have hstep : bestClass prob (n + 1)
        = if (bestClass prob n).1.lt (prob n) then (prob n, Int32.ofNat n)
          else bestClass prob n := by
      rw [bestClass, List.range_succ, List.foldl_append]
      rfl
    rw [hstep, hx]
    cases hlt : (num x).lt (prob n) with
    | false =>
      refine ⟨x, hx, fun j hj => ?_, hindex.imp_right fun ⟨hpos, i, hi, hrest⟩ =>
        ⟨hpos, i, hi.trans n.lt_succ_self, hrest⟩⟩
      rcases Nat.lt_succ_iff_lt_or_eq.mp hj with hj | rfl
      · exact hmax j hj
      · exact hlt
    | true =>
      obtain ⟨_, y, hx', hy, hxy⟩ := eq_num_of_lt hlt
      obtain rfl := num.inj hx'
      have hnonneg : 0 ≤ x := hindex.elim (fun h => h.1.ge) fun h => h.1.le
      refine ⟨y, hy, fun j hj => ?_, .inr ⟨hnonneg.trans_lt hxy, n, n.lt_succ_self, rfl, hy,
        fun j hj heq => ?_⟩⟩
      · rcases Nat.lt_succ_iff_lt_or_eq.mp hj with hj | rfl
        · exact lt_eq_false_of_lt (hmax j hj) hxy
        · rw [hy, lt_num, decide_eq_false_iff_not]
          exact lt_irrefl y
      · have hle := hmax j hj
        rw [heq, lt_num, decide_eq_false_iff_not] at hle
        exact hle hxy

/-- The class has a threshold if and only if some probability is above zero. -/
theorem isSome_thresholdAt_bestClass {prob : ℕ → Fp α} {n : ℕ} {thresholds : List (Fp α)}
    (hn : n < 2 ^ 31) (hthresholds : thresholds.length = n) :
    (thresholdAt thresholds (bestClass prob n).2).isSome ↔
      ∃ i < n, (num 0).lt (prob i) = true := by
  obtain ⟨x, -, hmax, ⟨rfl, hindex⟩ | ⟨hpos, i, hi, hindex, hprob, -⟩⟩ := bestClass_spec prob n
  · rw [hindex]
    refine iff_of_false (by simp [thresholdAt]) ?_
    rintro ⟨i, hi, hlt⟩
    exact Bool.false_ne_true ((hmax i hi).symm.trans hlt)
  · have htoInt : (Int32.ofNat i).toInt = i := Int32.toInt_ofNat_of_lt (by omega)
    have hnonneg : ¬ Int32.ofNat i < 0 := by
      rw [Int32.lt_iff_toInt_lt, htoInt, Int32.toInt_zero]
      omega
    rw [hindex, thresholdAt, if_neg hnonneg, htoInt]
    refine iff_of_true ?_ ⟨i, hi, ?_⟩
    · rw [Int.toNat_natCast, List.getElem?_eq_getElem (hthresholds ▸ hi)]
      rfl
    · rw [hprob]
      exact decide_eq_true hpos

/-! ## The frame -/

variable (ar : Arith α)

/-- What the parser is given of the output buffers for an image of the batch. -/
def frameLayers (m : Cell → Fp α) {outputSize : ℕ} (fits : 4 * outputSize ≤ 2 ^ 31) (batch : ℕ) :
    List (NvDsInferLayerInfo α) :=
  [⟨fun i => m (.boxes ↑(batch * 4 * outputSize + i)), outputSize, fits⟩,
    ⟨fun i => m (.scores ↑(batch * outputSize + i)), outputSize, fits⟩,
    ⟨fun i => m (.classes ↑(batch * outputSize + i)), outputSize, fits⟩]

/-- The box of a cell, as the parser reads it. -/
def Decoded.box (d : Decoded α) : ℕ → Fp α
  | 0 => d.xc
  | 1 => d.yc
  | 2 => d.w
  | _ => d.h

/-- What the parser makes of a cell. -/
def Decoded.objects [One α] (params : ParseParams α) (d : Decoded α) :
    List (NvDsInferParseObjectInfo α) :=
  proposal ar (fun _ => yoloCorners ar d.box 0) (fun _ => d.score) (fun _ => d.cls) params.width
    params.height params.perClassPreclusterThreshold 0

/-- What the kernel of a tensor takes for the probability of a class. -/
def YoloLayer.classProb (l : YoloLayer (Fp α)) (t : TensorInfo (Fp α)) (device : Device α)
    (batch x y z i : ℕ) : Fp α :=
  let cell := (l.grid t device 0 batch).at x y z
  if 0 < t.mask.length then
    if l.m_NewCoords ≠ 0 then cell (5 + i) else sigmoidGPU ar (cell (5 + i))
  else softmaxGPU ar (fun i => cell (5 + i)) l.m_NumClasses.toNat (ar.lit 1) i

/-- Every cell of an image has a class of a probability above zero. -/
def YoloLayer.Likely (l : YoloLayer (Fp α)) (tensors : List (TensorInfo (Fp α) × Device α))
    (batch : ℕ) : Prop :=
  ∀ p ∈ tensors, ∀ z < p.1.numBBoxes.toNat, ∀ y < p.1.gridSizeY.toNat,
    ∀ x < p.1.gridSizeX.toNat, ∃ i < l.m_NumClasses.toNat,
      (num 0).lt (l.classProb ar p.1 p.2 batch x y z i) = true

instance (l : YoloLayer (Fp α)) (tensors : List (TensorInfo (Fp α) × Device α)) (batch : ℕ) :
    Decidable (l.Likely ar tensors batch) :=
  inferInstanceAs (Decidable (∀ p ∈ tensors, ∀ z < p.1.numBBoxes.toNat,
    ∀ y < p.1.gridSizeY.toNat, ∀ x < p.1.gridSizeX.toNat, ∃ i < l.m_NumClasses.toNat,
      (num 0).lt (l.classProb ar p.1 p.2 batch x y z i) = true))

/-- Class numbers are exact in floats. -/
structure ExactClasses (n : ℕ) : Prop where
  none : ar.toInt (ar.ofInt (-1)) = -1
  class_of : ∀ i < n, ar.toInt (ar.ofInt (Int32.ofNat i)) = Int32.ofNat i

variable {ar} {l : YoloLayer (Fp α)} {t : TensorInfo (Fp α)} {device : Device α}
  {tensors : List (TensorInfo (Fp α) × Device α)} {batchSize batch : ℕ}
  {params : ParseParams α}

/-- The class a kernel stores. -/
theorem cls_kernel (x y z : ℕ) :
    (l.kernel ar t (l.grid t device 0 batch) x y z).cls
      = ar.ofInt (bestClass (l.classProb ar t device batch x y z) l.m_NumClasses.toNat).2 := by
  unfold YoloLayer.kernel YoloLayer.classProb
  split
  · split
    · rfl
    · rfl
  · rfl

/-- The class the parser reads. -/
theorem toInt_ofInt_bestClass {n : ℕ} (hexact : ExactClasses ar n) (prob : ℕ → Fp α) :
    ar.toInt (ar.ofInt (bestClass prob n).2) = (bestClass prob n).2 := by
  obtain ⟨x, -, -, ⟨-, hindex⟩ | ⟨-, i, hi, hindex, -⟩⟩ := bestClass_spec prob n
  · rw [hindex, hexact.none]
  · rw [hindex, hexact.class_of i hi]

/-- Every decoded cell has a class with a threshold if and only if it has a likely class. -/
theorem forall_isSome_thresholdAt_iff (hexact : ExactClasses ar l.m_NumClasses.toNat)
    (hclasses : l.m_NumClasses.toNat < 2 ^ 31)
    (hthresholds : params.perClassPreclusterThreshold.length = l.m_NumClasses.toNat) :
    (∀ d ∈ l.decodeImage ar tensors batch,
        (thresholdAt params.perClassPreclusterThreshold (ar.toInt d.cls)).isSome) ↔
      l.Likely ar tensors batch := by
  have hcell : ∀ (p : TensorInfo (Fp α) × Device α) x y z,
      (thresholdAt params.perClassPreclusterThreshold
        (ar.toInt (l.kernel ar p.1 (l.grid p.1 p.2 0 batch) x y z).cls)).isSome ↔
        ∃ i < l.m_NumClasses.toNat, (num 0).lt (l.classProb ar p.1 p.2 batch x y z i) = true := by
    intro p x y z
    rw [cls_kernel, toInt_ofInt_bestClass hexact, isSome_thresholdAt_bestClass hclasses hthresholds]
  simp only [YoloLayer.decodeImage, YoloLayer.decodeCells, List.mem_flatMap, List.mem_map,
    List.mem_range, YoloLayer.Likely, ← hcell]
  constructor
  · exact fun h p hp z hz y hy x hx => h _ ⟨p, hp, z, hz, y, hy, x, hx, rfl⟩
  · rintro h d ⟨p, hp, z, hz, y, hy, x, hx, rfl⟩
    exact h p hp z hz y hy x hx

/-- The parser makes of a slot what it makes of the cell stored there. -/
theorem flatMap_frameLayers [One α] (m : Cell → Fp α) (outputSize : ℕ) :
    (List.range outputSize).flatMap (proposal ar
        (yoloCorners ar fun i => m (.boxes ↑(batch * 4 * outputSize + i)))
        (fun i => m (.scores ↑(batch * outputSize + i)))
        (fun i => m (.classes ↑(batch * outputSize + i))) params.width params.height
        params.perClassPreclusterThreshold)
      = (readImage m outputSize batch).flatMap (Decoded.objects ar params) := by
  rw [readImage, List.flatMap_map]
  rfl

/-- **The objects of an image.** For a layer whose grids are squares or single rows and whose output
size is the number of all boxes, one threshold for each class, and class numbers that are exact in
floats: after any interleaving of the threads of every launch, the parser makes of each image of the
batch, cell by cell, what the kernels decoded; it stays inside the thresholds if and only if every
cell has a class of a probability above zero. -/
theorem detections_of_image [One α] {inputs : List (Device α)} {m m' : Cell → Fp α}
    {objectList objects : List (NvDsInferParseObjectInfo α)} (hregular : l.Regular)
    (hinputs : inputs.length = l.m_YoloTensors.length) (hbatches : batchSize ≤ 2 ^ 30)
    (hexact : ExactClasses ar l.m_NumClasses.toNat) (hclasses : l.m_NumClasses.toNat < 2 ^ 31)
    (hthresholds : params.perClassPreclusterThreshold.length = l.m_NumClasses.toNat)
    (hrun : l.Enqueue ar batchSize inputs m m') (hbatch : batch < batchSize) :
    NvDsInferParseYolo ar (frameLayers m' hregular.fits batch) params objectList
        = some (true, objects) ↔
      l.Likely ar (l.m_YoloTensors.zip inputs) batch ∧
        objects = (l.decodeImage ar (l.m_YoloTensors.zip inputs) batch).flatMap
          (Decoded.objects ar params) := by
  have himage := readImage_eq (length_decodeImage hregular hinputs batch)
    fun _ _ hd => readSlot_enqueue hregular hinputs hbatches hrun hbatch hd
  have hparse : NvDsInferParseYolo ar (frameLayers m' hregular.fits batch) params objectList
        = some (true, objects) ↔
      decodeTensor ar
        (yoloCorners ar fun i => m' (.boxes ↑(batch * 4 * l.m_OutputSize.toNat + i)))
        (fun i => m' (.scores ↑(batch * l.m_OutputSize.toNat + i)))
        (fun i => m' (.classes ↑(batch * l.m_OutputSize.toNat + i))) l.m_OutputSize.toNat
        params.width params.height params.perClassPreclusterThreshold = some objects := by
    refine Option.map_eq_some_iff.trans ⟨?_, fun h => ⟨objects, h, rfl⟩⟩
    rintro ⟨objects', hobjects, heq⟩
    obtain rfl : objects' = objects := congrArg Prod.snd heq
    exact hobjects
  rw [hparse, decodeTensor_eq_some_iff, flatMap_frameLayers, himage,
    ← forall_isSome_thresholdAt_iff hexact hclasses hthresholds, ← himage, readImage]
  simp only [List.forall_mem_map, List.mem_range]
  rfl

/-- The two classes are exact. -/
theorem exactClasses_flatArith : ExactClasses flatArith 2 := ⟨by decide +kernel, by decide +kernel⟩

theorem regular_twoTensors : twoTensors.Regular := by decide

/-- A frame of thirty-two by thirty-two, and a threshold for each class. -/
def evenFrame : ParseParams ℚ := ⟨32, 32, [num (1 / 2), num (1 / 4)]⟩

/-- Of the first image the parser makes nothing: it reads outside the thresholds. Of the second it
makes the boxes of two cells, cut to the frame; the third cell scores too low. -/
theorem detections_of_image_two :
    (∃ m', twoTensors.Enqueue flatArith 2 twoInputs (fun _ => nan) m') ∧
      ∀ m', twoTensors.Enqueue flatArith 2 twoInputs (fun _ => nan) m' →
        (∀ objects, NvDsInferParseYolo flatArith (frameLayers m' regular_twoTensors.fits 0)
          evenFrame [] ≠ some (true, objects)) ∧
        NvDsInferParseYolo flatArith (frameLayers m' regular_twoTensors.fits 1) evenFrame []
          = some (true, [⟨0, num 6, num 12, num 20, num 20, num 1⟩,
              ⟨1, num 22, num 12, num 10, num 20, num (1 / 4)⟩]) := by
  refine ⟨⟨_, Launches.sequential _ _⟩, fun m' hrun => ⟨fun objects hparse => ?_, ?_⟩⟩
  · have hlikely := ((detections_of_image regular_twoTensors rfl (by decide) exactClasses_flatArith
      (by decide) rfl hrun Nat.two_pos).mp hparse).1
    revert hlikely
    decide +kernel
  · exact (detections_of_image regular_twoTensors rfl (by decide) exactClasses_flatArith
      (by decide) rfl hrun Nat.one_lt_two).mpr ⟨by decide +kernel, by decide +kernel⟩

end DemoColombia.Detector
