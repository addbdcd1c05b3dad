import DemoColombia.DataStructures.Lists
import DemoColombia.Detector.Floats

/-! # From output tensors to boxes, on the CPU (`nvdsparsebbox_Yolo.cpp`)

The three output layers hold a box, a score and a class for each of `outputSize` candidates. A
candidate below the threshold of its class is passed over, and so is a box that, cut to the frame,
is less than a pixel wide or high. Two decoders differ in how they read a box.

* `decodeTensor_eq_some_iff` — the loop as a `flatMap`, and when it stays inside the thresholds.
* `parsed_objects` — the objects are the boxes of all candidates, cut to the frame, that pass the
  tests; each lies between two edges of the frame, whatever the tensors hold. -/

namespace DemoColombia.Detector

open Fp

variable {α : Type*} [LinearOrder α] [Zero α] [One α]

/-- `NvDsInferParseObjectInfo`. -/
structure NvDsInferParseObjectInfo (α : Type*) where
  classId : UInt32
  left : Fp α
  top : Fp α
  width : Fp α
  height : Fp α
  detectionConfidence : Fp α
  deriving DecidableEq

/-- `NvDsInferLayerInfo`: the buffer, and the first dimension. The parsers number the values of the
boxes by an `int`. -/
structure NvDsInferLayerInfo (α : Type*) where
  buffer : ℕ → Fp α
  d0 : ℕ
  fits : 4 * d0 ≤ 2 ^ 31 := by decide

/-- What the parsers read of the network and of the detection parameters. -/
structure ParseParams (α : Type*) where
  width : ℕ
  height : ℕ
  perClassPreclusterThreshold : List (Fp α)

/-- The corners of a candidate's box. -/
structure Corners (α : Type*) where
  x1 : Fp α
  y1 : Fp α
  x2 : Fp α
  y2 : Fp α

variable (ar : Arith α)

/-- `convertBBox`, with the confidence and the class `addBBoxProposal` fills in. -/
def convertBBox (c : Corners α) (netW netH : ℕ) (maxIndex : Int32) (maxProb : Fp α) :
    NvDsInferParseObjectInfo α :=
  let x1 := clamp c.x1 (num 0) (num (ar.ofUint netW))
  let y1 := clamp c.y1 (num 0) (num (ar.ofUint netH))
  let x2 := clamp c.x2 (num 0) (num (ar.ofUint netW))
  let y2 := clamp c.y2 (num 0) (num (ar.ofUint netH))
  { classId := maxIndex.toUInt32
    left := x1
    top := y1
    width := clamp (ar.sub x2 x1) (num 0) (num (ar.ofUint netW))
    height := clamp (ar.sub y2 y1) (num 0) (num (ar.ofUint netH))
    detectionConfidence := maxProb }

/-- `addBBoxProposal`. -/
def addBBoxProposal (c : Corners α) (netW netH : ℕ) (maxIndex : Int32) (maxProb : Fp α)
    (binfo : List (NvDsInferParseObjectInfo α)) : List (NvDsInferParseObjectInfo α) :=
  let bbi := convertBBox ar c netW netH maxIndex maxProb
  if bbi.width.lt (num 1) || bbi.height.lt (num 1) then binfo else binfo ++ [bbi]

/-- `preclusterThreshold[maxIndex]`; `none` outside the vector. -/
def thresholdAt (preclusterThreshold : List (Fp α)) (maxIndex : Int32) : Option (Fp α) :=
  if maxIndex < 0 then none else preclusterThreshold[maxIndex.toInt.toNat]?

/-- The loop of both decoders, over how they read the box of a candidate; `none` where it reads
outside the thresholds. -/
def decodeTensor (corners : ℕ → Corners α) (scores classes : ℕ → Fp α) (outputSize netW netH : ℕ)
    (preclusterThreshold : List (Fp α)) : Option (List (NvDsInferParseObjectInfo α)) :=
  (List.range outputSize).foldlM (fun binfo b =>
    let maxProb := scores b
    let maxIndex := ar.toInt (classes b)
    (thresholdAt preclusterThreshold maxIndex).map fun threshold =>
      if maxProb.lt threshold then binfo
      else addBBoxProposal ar (corners b) netW netH maxIndex maxProb binfo) []

/-- A box given by its centre and its size. -/
def yoloCorners (boxes : ℕ → Fp α) (b : ℕ) : Corners α :=
  let bxc := boxes (b * 4 + 0)
  let byc := boxes (b * 4 + 1)
  let bw := boxes (b * 4 + 2)
  let bh := boxes (b * 4 + 3)
  let bx1 := ar.sub bxc (ar.div bw (num (ar.ofUint 2)))
  let by1 := ar.sub byc (ar.div bh (num (ar.ofUint 2)))
  ⟨bx1, by1, ar.add bx1 bw, ar.add by1 bh⟩

/-- A box given by its corners. -/
def yoloECorners (boxes : ℕ → Fp α) (b : ℕ) : Corners α :=
  ⟨boxes (b * 4 + 0), boxes (b * 4 + 1), boxes (b * 4 + 2), boxes (b * 4 + 3)⟩

/-- `decodeTensorYolo`. -/
def decodeTensorYolo (boxes : ℕ → Fp α) :=
  decodeTensor ar (yoloCorners ar boxes)

/-- `decodeTensorYoloE`. -/
def decodeTensorYoloE (boxes : ℕ → Fp α) :=
  decodeTensor ar (yoloECorners boxes)

/-- The body both parsers share: the returned flag and the object list after it; `none` where a
layer or a threshold is read that is not there. -/
def parseCustom (corners : (ℕ → Fp α) → ℕ → Corners α)
    (outputLayersInfo : List (NvDsInferLayerInfo α)) (params : ParseParams α)
    (objectList : List (NvDsInferParseObjectInfo α)) :
    Option (Bool × List (NvDsInferParseObjectInfo α)) :=
  match outputLayersInfo with
  | [] => some (false, objectList)
  | boxes :: scores :: classes :: _ =>
    (decodeTensor ar (corners boxes.buffer) scores.buffer classes.buffer boxes.d0 params.width
      params.height params.perClassPreclusterThreshold).map (true, ·)
  | _ => none

/-- `NvDsInferParseYolo`. -/
def NvDsInferParseYolo :=
  parseCustom ar (yoloCorners ar)

/-- `NvDsInferParseYoloE`. -/
def NvDsInferParseYoloE :=
  parseCustom ar (@yoloECorners α)

/-! ## The loop as a whole -/

/-- What a candidate contributes. -/
def proposal (corners : ℕ → Corners α) (scores classes : ℕ → Fp α) (netW netH : ℕ)
    (preclusterThreshold : List (Fp α)) (b : ℕ) : List (NvDsInferParseObjectInfo α) :=
  match thresholdAt preclusterThreshold (ar.toInt (classes b)) with
  | none => []
  | some threshold =>
    if (scores b).lt threshold then []
    else addBBoxProposal ar (corners b) netW netH (ar.toInt (classes b)) (scores b) []

variable {ar} {corners : ℕ → Corners α} {scores classes : ℕ → Fp α} {netW netH : ℕ}
  {thresholds : List (Fp α)} {outputSize : ℕ} {objects : List (NvDsInferParseObjectInfo α)}

theorem addBBoxProposal_eq_append (c : Corners α) (netW netH : ℕ) (maxIndex : Int32)
    (maxProb : Fp α) (binfo : List (NvDsInferParseObjectInfo α)) :
    addBBoxProposal ar c netW netH maxIndex maxProb binfo
      = binfo ++ addBBoxProposal ar c netW netH maxIndex maxProb [] := by
  simp only [addBBoxProposal]
  split
  · rw [List.append_nil]
  · rw [List.nil_append]

/-- One turn of the loop appends what its candidate contributes. -/
theorem decodeTensor_body (binfo : List (NvDsInferParseObjectInfo α)) (b : ℕ) :
    ((thresholdAt thresholds (ar.toInt (classes b))).map fun threshold =>
        if (scores b).lt threshold then binfo
        else addBBoxProposal ar (corners b) netW netH (ar.toInt (classes b)) (scores b) binfo)
      = ((thresholdAt thresholds (ar.toInt (classes b))).map fun _ =>
        proposal ar corners scores classes netW netH thresholds b).map (binfo ++ ·) := by
  cases hthreshold : thresholdAt thresholds (ar.toInt (classes b)) with
  | none => rfl
  | some threshold =>
    simp only [Option.map_some, proposal, hthreshold]
    split
    · rw [List.append_nil]
    · rw [addBBoxProposal_eq_append]

/-- **The loop collects the proposals in order**, if every class has a threshold; else it reads
outside the thresholds. -/
theorem decodeTensor_eq_some_iff :
    decodeTensor ar corners scores classes outputSize netW netH thresholds = some objects ↔
      (∀ b < outputSize, (thresholdAt thresholds (ar.toInt (classes b))).isSome) ∧
        objects = (List.range outputSize).flatMap
          (proposal ar corners scores classes netW netH thresholds) := by
  have hbody := funext fun binfo => funext fun b =>
    @decodeTensor_body α _ _ _ ar corners scores classes netW netH thresholds binfo b
  rw [decodeTensor, hbody, foldlM_append_eq_some_iff, List.nil_append]
  simp only [Option.isSome_map, List.mem_range]
  refine and_congr_right fun hsome => ?_
  have hflat : (List.range outputSize).flatMap (fun b =>
        ((thresholdAt thresholds (ar.toInt (classes b))).map fun _ =>
          proposal ar corners scores classes netW netH thresholds b).getD [])
      = (List.range outputSize).flatMap
        (proposal ar corners scores classes netW netH thresholds) := by
    refine List.flatMap_congr fun b hb => ?_
    obtain ⟨threshold, hthreshold⟩ :=
      Option.isSome_iff_exists.mp (hsome b (List.mem_range.mp hb))
    rw [hthreshold]
    rfl
  rw [hflat]

/-! ## The tests -/

/-- The box of a candidate, cut to the frame, with its score and its class. -/
def candidateBox (ar : Arith α) (corners : ℕ → Corners α) (scores classes : ℕ → Fp α)
    (netW netH b : ℕ) : NvDsInferParseObjectInfo α :=
  convertBBox ar (corners b) netW netH (ar.toInt (classes b)) (scores b)

/-- The tests of the two parsers: the class of a box has a threshold, the score is not below it, and
the box is not less than a pixel wide or high. -/
def qualifies (thresholds : List (Fp α)) (o : NvDsInferParseObjectInfo α) : Bool :=
  match thresholdAt thresholds o.classId.toInt32 with
  | none => false
  | some threshold =>
    !o.detectionConfidence.lt threshold && !(o.width.lt (num 1) || o.height.lt (num 1))

theorem qualifies_candidateBox (b : ℕ) {threshold : Fp α}
    (h : thresholdAt thresholds (ar.toInt (classes b)) = some threshold) :
    qualifies thresholds (candidateBox ar corners scores classes netW netH b)
      = (!(scores b).lt threshold &&
        !((candidateBox ar corners scores classes netW netH b).width.lt (num 1)
          || (candidateBox ar corners scores classes netW netH b).height.lt (num 1))) := by
  have hclassId : (candidateBox ar corners scores classes netW netH b).classId.toInt32
      = ar.toInt (classes b) := rfl
  rw [qualifies, hclassId, h]
  rfl

/-- **A candidate contributes its box, if that passes the tests.** -/
theorem proposal_eq_filter (b : ℕ) :
    proposal ar corners scores classes netW netH thresholds b
      = [candidateBox ar corners scores classes netW netH b].filter (qualifies thresholds) := by
  cases h : thresholdAt thresholds (ar.toInt (classes b)) with
  | none =>
    have hclassId : (candidateBox ar corners scores classes netW netH b).classId.toInt32
        = ar.toInt (classes b) := rfl
    simp [proposal, qualifies, h, hclassId]
  | some threshold =>
    rw [List.filter_cons, qualifies_candidateBox b h, proposal, h]
    simp only [addBBoxProposal, candidateBox]
    cases (scores b).lt threshold with
    | true => rfl
    | false =>
      rw [if_neg Bool.false_ne_true]
      split <;> rename_i hsize
      · simp [hsize]
      · simp [(Bool.not_eq_true _).mp hsize]

/-- All boxes that pass the tests. -/
theorem flatMap_proposal :
    (List.range outputSize).flatMap (proposal ar corners scores classes netW netH thresholds)
      = ((List.range outputSize).map
          (candidateBox ar corners scores classes netW netH)).filter (qualifies thresholds) := by
  rw [List.map_eq_flatMap, List.filter_flatMap]
  exact List.flatMap_congr fun b _ => proposal_eq_filter b

/-! ## What every object is like -/

/-- A side of an object, from its near edge on: both its edges lie in the frame, which is `n` long,
and its length, at least a pixel, is at most the difference of the edges as it is computed. -/
def SideInFrame (ar : Arith α) (n : ℕ) (near length : Fp α) : Prop :=
  ∃ x y d w, near = num x ∧ 0 ≤ x ∧ x ≤ ar.ofUint n ∧ 0 ≤ y ∧ y ≤ ar.ofUint n ∧
    ar.sub (num y) (num x) = num d ∧ length = num w ∧ 1 ≤ w ∧ w ≤ d

/-- An object inside the frame, at least a pixel wide and high. -/
structure InsideFrame (ar : Arith α) (netW netH : ℕ) (o : NvDsInferParseObjectInfo α) : Prop where
  horizontal : SideInFrame ar netW o.left o.width
  vertical : SideInFrame ar netH o.top o.height

/-- Without rounding the far edge is the near one and the length. -/
theorem SideInFrame.exact {K : Type*} [AddCommGroup K] [LinearOrder K] [IsOrderedAddMonoid K]
    [One K] {ar : Arith K} {n : ℕ} {near length : Fp K}
    (hsub : ∀ x y, ar.sub (num y) (num x) = num (y - x)) (h : SideInFrame ar n near length) :
    ∃ x w, near = num x ∧ length = num w ∧ 0 ≤ x ∧ 1 ≤ w ∧ x + w ≤ ar.ofUint n := by
  obtain ⟨x, y, d, w, hx, hlow, -, -, hhigh, hd, hw, hone, hle⟩ := h
  rw [hsub] at hd
  cases hd
  refine ⟨x, w, hx, hw, hlow, hone, le_trans ?_ hhigh⟩
  calc x + w ≤ x + (y - x) := by gcongr
    _ = y := add_sub_cancel x y

/-- A clamped length that is not less than one. -/
theorem sideInFrame_clamp [ZeroLEOneClass α] [NeZero (1 : α)] (a b : Fp α) (n : ℕ)
    (h : (clamp (ar.sub (clamp b (num 0) (num (ar.ofUint n))) (clamp a (num 0) (num (ar.ofUint n))))
      (num 0) (num (ar.ofUint n))).lt (num 1) = false) :
    SideInFrame ar n (clamp a (num 0) (num (ar.ofUint n)))
      (clamp (ar.sub (clamp b (num 0) (num (ar.ofUint n))) (clamp a (num 0) (num (ar.ofUint n))))
        (num 0) (num (ar.ofUint n))) := by
  obtain ⟨x, hx, hx₀, hxn⟩ := clamp_eq_num a (ar.ofUint_nonneg n)
  obtain ⟨y, hy, hy₀, hyn⟩ := clamp_eq_num b (ar.ofUint_nonneg n)
  rw [hx, hy] at h ⊢
  cases hd : ar.sub (num y) (num x) with
  | nan =>
    -- a NaN is cut to zero, which is less than a pixel
    rw [hd, clamp_nan (ar.ofUint_nonneg n), lt_num, decide_eq_false_iff_not] at h
    exact absurd zero_lt_one h
  | num d =>
    rw [hd, clamp_num, lt_num, decide_eq_false_iff_not, not_lt, le_min_iff] at h
    rw [clamp_num]
    -- the difference is positive, so it is cut at the size of the frame at most
    have hpos : max 0 d = d := max_eq_right (le_of_not_gt fun hneg => by
      rw [max_eq_left hneg.le] at h
      exact absurd h.2 (not_le.mpr zero_lt_one))
    rw [hpos] at h ⊢
    exact ⟨x, y, d, _, rfl, hx₀, hxn, hy₀, hyn, hd, rfl, le_min h.1 h.2, min_le_right _ _⟩

/-- A box that passes the tests lies inside the frame. -/
theorem insideFrame_of_qualifies [ZeroLEOneClass α] [NeZero (1 : α)] {b : ℕ}
    (h : qualifies thresholds (candidateBox ar corners scores classes netW netH b) = true) :
    InsideFrame ar netW netH (candidateBox ar corners scores classes netW netH b) := by
  unfold qualifies at h
  split at h
  · cases h
  · simp only [Bool.and_eq_true, Bool.not_eq_true', Bool.or_eq_false_iff] at h
    exact ⟨sideInFrame_clamp _ _ _ h.2.1, sideInFrame_clamp _ _ _ h.2.2⟩

/-! ## The two parsers -/

/-- What a parse of three layers makes: every class has a threshold, and the objects are the boxes
of all candidates that pass the tests, in order. -/
structure Parsed (ar : Arith α) (read : (ℕ → Fp α) → ℕ → Corners α)
    (boxes scores classes : NvDsInferLayerInfo α) (params : ParseParams α)
    (objects : List (NvDsInferParseObjectInfo α)) : Prop where
  thresholds : ∀ b < boxes.d0,
    (thresholdAt params.perClassPreclusterThreshold (ar.toInt (classes.buffer b))).isSome
  objects_eq : objects = ((List.range boxes.d0).map (candidateBox ar (read boxes.buffer)
    scores.buffer classes.buffer params.width params.height)).filter
      (qualifies params.perClassPreclusterThreshold)

/-- Each of the objects is inside the frame. -/
theorem Parsed.inside [ZeroLEOneClass α] [NeZero (1 : α)] {read : (ℕ → Fp α) → ℕ → Corners α}
    {boxes scores classes : NvDsInferLayerInfo α} {params : ParseParams α}
    (h : Parsed ar read boxes scores classes params objects) :
    ∀ o ∈ objects, InsideFrame ar params.width params.height o := by
  intro o ho
  rw [h.objects_eq] at ho
  obtain ⟨hmem, hqualifies⟩ := List.mem_filter.mp ho
  obtain ⟨b, -, rfl⟩ := List.mem_map.mp hmem
  exact insideFrame_of_qualifies hqualifies

theorem parseCustom_eq_some_iff {read : (ℕ → Fp α) → ℕ → Corners α}
    {layers : List (NvDsInferLayerInfo α)} {params : ParseParams α}
    {objectList : List (NvDsInferParseObjectInfo α)} :
    parseCustom ar read layers params objectList = some (true, objects) ↔
      ∃ boxes scores classes rest, layers = boxes :: scores :: classes :: rest ∧
        Parsed ar read boxes scores classes params objects := by
  have hparsed : ∀ boxes scores classes : NvDsInferLayerInfo α,
      (decodeTensor ar (read boxes.buffer) scores.buffer classes.buffer boxes.d0 params.width
          params.height params.perClassPreclusterThreshold).map (true, ·) = some (true, objects) ↔
        Parsed ar read boxes scores classes params objects := by
    intro boxes scores classes
    rw [Option.map_eq_some_iff]
    simp only [Prod.mk.injEq, true_and, exists_eq_right, decodeTensor_eq_some_iff, flatMap_proposal]
    exact ⟨fun h => ⟨h.1, h.2⟩, fun h => ⟨h.thresholds, h.objects_eq⟩⟩
  constructor
  · intro h
    unfold parseCustom at h
    split at h
    · cases h
    · rename_i boxes scores classes rest
      exact ⟨boxes, scores, classes, rest, rfl, (hparsed _ _ _).mp h⟩
    · cases h
  · rintro ⟨boxes, scores, classes, rest, rfl, h⟩
    exact (hparsed _ _ _).mpr h

/-- Exact arithmetic; the parsers take neither exponentials nor powers. -/
def exactArith : Arith ℚ := Arith.rational id fun a _ => a

/-- Layers with four candidates in a frame of eight by eight: one in its middle, one that scores
low, one that sticks out on the right, and one that is outside. -/
def fourCandidates : List (NvDsInferLayerInfo ℚ) :=
  [⟨fun i => num ([4, 4, 4, 4, 4, 4, 2, 2, 7, 4, 4, 4, 20, 4, 4, 4].getD i 0), 4, by decide⟩,
    ⟨fun i => num ([1 / 2, 1 / 8, 1 / 3, 1].getD i 0), 4, by decide⟩,
    ⟨fun _ => num 0, 4, by decide⟩]

/-- A frame of eight by eight, and a threshold of a quarter. -/
def smallFrame : ParseParams ℚ := ⟨8, 8, [num (1 / 4)]⟩

/-- The first is returned, and the third as far as it is in the frame. -/
def twoObjects : List (NvDsInferParseObjectInfo ℚ) :=
  [⟨0, num 2, num 2, num 4, num 4, num (1 / 2)⟩, ⟨0, num 5, num 2, num 3, num 4, num (1 / 3)⟩]

end DemoColombia.Detector
