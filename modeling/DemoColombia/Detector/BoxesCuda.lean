import DemoColombia.Detector.Boxes
import DemoColombia.TransitionSystems.Kernels

/-! # From output tensors to boxes, on the GPU (`nvdsparsebbox_Yolo_cuda.cu`)

One thread for each candidate. A thread compares with the least of all thresholds, leaves a
confidence of zero where the score is below it, and otherwise stores the box field by field; it
leaves nothing out, so the list has an entry for every candidate. Numbers of candidates and indices
are naturals: what a layer holds is numbered by an `int` (`NvDsInferLayerInfo.fits`).

* `decoded_cuda` — what the launch leaves, in any interleaving of the stores.
* `cuda_agrees` — the list of the CPU is the list of the GPU without the entries that fail the tests
  the GPU does not make. -/

namespace DemoColombia.Detector

open Fp

variable {α : Type*} [LinearOrder α] [Zero α]

/-- `*std::min_element`; `none` where it dereferences the end. -/
def min_element : List (Fp α) → Option (Fp α)
  | [] => none
  | t :: ts => some (ts.foldl (fun smallest t => if t.lt smallest then t else smallest) t)

variable (ar : Arith α)

/-- The body of both kernels, over how they read the box of a candidate. -/
def decodeThread (corners : ℕ → Corners α) (scores classes : ℕ → Fp α) (outputSize netW netH : ℕ)
    (minPreclusterThreshold : Fp α) (x_id : ℕ) :
    List (ℕ × (NvDsInferParseObjectInfo α → NvDsInferParseObjectInfo α)) :=
  if outputSize ≤ x_id then []
  else
    let maxProb := scores x_id
    let maxIndex := ar.toInt (classes x_id)
    if maxProb.lt minPreclusterThreshold then
      [(x_id, fun o => { o with detectionConfidence := num 0 })]
    else
      let c := corners x_id
      let x0 := fminf (num (ar.ofUint netW)) (fmaxf (num 0) c.x1)
      let y0 := fminf (num (ar.ofUint netH)) (fmaxf (num 0) c.y1)
      let x1 := fminf (num (ar.ofUint netW)) (fmaxf (num 0) c.x2)
      let y1 := fminf (num (ar.ofUint netH)) (fmaxf (num 0) c.y2)
      [(x_id, fun o => { o with left := x0 }),
        (x_id, fun o => { o with top := y0 }),
        (x_id, fun o => { o with
          width := fminf (num (ar.ofUint netW)) (fmaxf (num 0) (ar.sub x1 x0)) }),
        (x_id, fun o => { o with
          height := fminf (num (ar.ofUint netH)) (fmaxf (num 0) (ar.sub y1 y0)) }),
        (x_id, fun o => { o with detectionConfidence := maxProb }),
        (x_id, fun o => { o with classId := maxIndex.toUInt32 })]

/-- `((outputSize - 1) / threads_per_block) + 1`, with the division of the language. -/
def number_of_blocks (outputSize : ℕ) : ℕ := (((outputSize : ℤ) - 1).tdiv 1024 + 1).toNat

/-- The threads of the launch. -/
def decodeThreads (corners : ℕ → Corners α) (scores classes : ℕ → Fp α)
    (outputSize netW netH : ℕ) (minPreclusterThreshold : Fp α) :
    List (List (ℕ × (NvDsInferParseObjectInfo α → NvDsInferParseObjectInfo α))) :=
  (launchIds (number_of_blocks outputSize) 1024).map
    (decodeThread ar corners scores classes outputSize netW netH minPreclusterThreshold)

/-- An element of the new device vector. -/
def valueInit : NvDsInferParseObjectInfo α := ⟨0, num 0, num 0, num 0, num 0, num 0⟩

/-- The body both parsers share: what they may return. -/
def ParseCustomCuda (corners : (ℕ → Fp α) → ℕ → Corners α)
    (outputLayersInfo : List (NvDsInferLayerInfo α)) (params : ParseParams α)
    (objectList : List (NvDsInferParseObjectInfo α)) (ok : Bool)
    (result : List (NvDsInferParseObjectInfo α)) : Prop :=
  match outputLayersInfo with
  | [] => ok = false ∧ result = objectList
  | boxes :: scores :: classes :: _ => ok = true ∧
    ∃ minPreclusterThreshold, min_element params.perClassPreclusterThreshold
        = some minPreclusterThreshold ∧
      ∃ objects, Outcome (decodeThreads ar (corners boxes.buffer) scores.buffer classes.buffer
          boxes.d0 params.width params.height minPreclusterThreshold) (fun _ => valueInit) objects ∧
        result = (List.range boxes.d0).map objects
  -- a layer is read that is not there
  | _ => False

/-- `NvDsInferParseYoloCuda`. -/
def NvDsInferParseYoloCuda :=
  ParseCustomCuda ar (yoloCorners ar)

/-- `NvDsInferParseYoloECuda`. -/
def NvDsInferParseYoloECuda :=
  ParseCustomCuda ar (@yoloECorners α)

/-! ## The launch -/

variable {ar} {corners : ℕ → Corners α} {scores classes : ℕ → Fp α} {outputSize netW netH : ℕ}
  {minThreshold : Fp α}

/-- The blocks are enough. -/
theorem le_number_of_blocks (n : ℕ) : n ≤ number_of_blocks n * 1024 := by
  unfold number_of_blocks
  cases n with
  | zero => exact Nat.zero_le _
  | succ n =>
    have hsub : ((n + 1 : ℕ) : ℤ) - 1 = (n : ℤ) := by omega
    rw [hsub, Int.tdiv_eq_ediv_of_nonneg (by omega)]
    omega

/-- A thread stores to the entry with its own number. -/
theorem fst_of_mem_decodeThread {x_id : ℕ}
    {w : ℕ × (NvDsInferParseObjectInfo α → NvDsInferParseObjectInfo α)}
    (hw : w ∈ decodeThread ar corners scores classes outputSize netW netH minThreshold x_id) :
    w.1 = x_id := by
  unfold decodeThread at hw
  split at hw
  · cases hw
  · simp only at hw
    split at hw
    · rw [List.mem_singleton.mp hw]
    · simp only [List.mem_cons, List.not_mem_nil, or_false] at hw
      rcases hw with rfl | rfl | rfl | rfl | rfl | rfl <;> rfl

theorem ownCells_decodeThreads :
    OwnCells (decodeThreads ar corners scores classes outputSize netW netH minThreshold) := by
  refine List.pairwise_map.mpr ?_
  rw [launchIds_eq]
  refine List.nodup_range.imp fun hne w hw w' hw' => ?_
  rw [fst_of_mem_decodeThread hw, fst_of_mem_decodeThread hw']
  exact hne

/-- The entry of a candidate, whatever the order of the stores. -/
def entryCuda (ar : Arith α) (corners : ℕ → Corners α) (scores classes : ℕ → Fp α)
    (netW netH : ℕ) (minThreshold : Fp α) (b : ℕ) : NvDsInferParseObjectInfo α :=
  if (scores b).lt minThreshold then valueInit
  else candidateBox ar corners scores classes netW netH b

/-- What a thread alone makes of its entry. -/
theorem foldl_store_decodeThread {b : ℕ} (hb : b < outputSize) :
    (decodeThread ar corners scores classes outputSize netW netH minThreshold b).foldl store
        (fun _ => valueInit) b
      = entryCuda ar corners scores classes netW netH minThreshold b := by
  unfold decodeThread entryCuda
  rw [if_neg (not_le.mpr hb)]
  simp only
  split
  · simp only [List.foldl_cons, List.foldl_nil, store, Function.update_self, valueInit]
  · simp only [List.foldl_cons, List.foldl_nil, store, Function.update_self, candidateBox,
      convertBBox,      fminf_fmaxf_eq_clamp _ (ar.ofUint_nonneg _)]

/-- **The launch has one outcome.** -/
theorem decoded_cuda {objects : ℕ → NvDsInferParseObjectInfo α}
    (h : Outcome (decodeThreads ar corners scores classes outputSize netW netH minThreshold)
      (fun _ => valueInit) objects) {b : ℕ} (hb : b < outputSize) :
    objects b = entryCuda ar corners scores classes netW netH minThreshold b := by
  have hmem : decodeThread ar corners scores classes outputSize netW netH minThreshold b
      ∈ decodeThreads ar corners scores classes outputSize netW netH minThreshold := by
    refine List.mem_map.mpr ⟨b, ?_, rfl⟩
    rw [launchIds_eq, List.mem_range]
    exact hb.trans_le (le_number_of_blocks outputSize)
  -- the thread stores something
  obtain ⟨w, hw⟩ : ∃ w, w ∈ decodeThread ar corners scores classes outputSize netW netH
      minThreshold b := by
    unfold decodeThread
    rw [if_neg (not_le.mpr hb)]
    simp only
    split
    · exact ⟨_, List.mem_cons_self⟩
    · exact ⟨_, List.mem_cons_self⟩
  have happly := h.apply_of_mem ownCells_decodeThreads hmem hw
  rwa [fst_of_mem_decodeThread hw, foldl_store_decodeThread hb] at happly

/-! ## Agreement with the CPU -/

omit [Zero α] in
/-- The least of some numbers is not above any of them. -/
theorem min_element_le {thresholds : List (Fp α)} (hnum : nan ∉ thresholds) {m : Fp α}
    (h : min_element thresholds = some m) :
    ∃ y, m = num y ∧ ∀ t ∈ thresholds, ∃ x, t = num x ∧ y ≤ x := by
  cases thresholds with
  | nil => cases h
  | cons t ts =>
    obtain rfl := Option.some.inj h
    -- the least so far, kept along the loop
    have hloop : ∀ (ts : List (Fp α)) (x : α), nan ∉ ts →
        ∃ y, ts.foldl (fun smallest t => if t.lt smallest then t else smallest) (num x) = num y ∧
          y ≤ x ∧ ∀ t ∈ ts, ∃ z, t = num z ∧ y ≤ z := by
      intro ts
      induction ts with
      | nil => exact fun x _ => ⟨x, rfl, le_rfl, nofun⟩
      | cons t ts ih =>
        intro x hnan
        rw [List.mem_cons, not_or] at hnan
        cases t with
        | nan => exact absurd rfl hnan.1
        | num z =>
          rw [List.foldl_cons, lt_num]
          rcases lt_or_ge z x with hlt | hge
          · obtain ⟨y, hy, hyz, hts⟩ := ih z hnan.2
            rw [if_pos (decide_eq_true hlt)]
            exact ⟨y, hy, hyz.trans hlt.le, List.forall_mem_cons.mpr ⟨⟨z, rfl, hyz⟩, hts⟩⟩
          · obtain ⟨y, hy, hyx, hts⟩ := ih x hnan.2
            rw [if_neg (by simpa using hge)]
            exact ⟨y, hy, hyx, List.forall_mem_cons.mpr ⟨⟨z, rfl, hyx.trans hge⟩, hts⟩⟩
    rw [List.mem_cons, not_or] at hnum
    cases t with
    | nan => exact absurd rfl hnum.1
    | num x =>
      obtain ⟨y, hy, hyx, hts⟩ := hloop ts x hnum.2
      exact ⟨y, hy, List.forall_mem_cons.mpr ⟨⟨x, rfl, hyx⟩, hts⟩⟩

variable [One α]

omit [LinearOrder α] [Zero α] [One α] in
theorem mem_of_thresholdAt {thresholds : List (Fp α)} {i : Int32} {t : Fp α}
    (h : thresholdAt thresholds i = some t) : t ∈ thresholds := by
  unfold thresholdAt at h
  split at h
  · cases h
  · exact List.mem_of_getElem? h

/-- **Entry by entry**: what the CPU proposes is what passes its tests of the GPU's entry. -/
theorem filter_entryCuda [ZeroLEOneClass α] [NeZero (1 : α)] {thresholds : List (Fp α)}
    (hnum : nan ∉ thresholds) (hmin : min_element thresholds = some minThreshold) {b : ℕ}
    (hclass : (thresholdAt thresholds (ar.toInt (classes b))).isSome) :
    [entryCuda ar corners scores classes netW netH minThreshold b].filter (qualifies thresholds)
      = proposal ar corners scores classes netW netH thresholds b := by
  obtain ⟨t, ht⟩ := Option.isSome_iff_exists.mp hclass
  obtain ⟨y, rfl, hle⟩ := min_element_le hnum hmin
  obtain ⟨x, rfl, hyx⟩ := hle t (mem_of_thresholdAt ht)
  unfold entryCuda
  split
  · -- below the least threshold, so below its own
    rename_i hlow
    obtain ⟨z, y', hz, hy', hlt⟩ := eq_num_of_lt hlow
    cases hy'
    have hscore : (scores b).lt (num x) = true := by
      rw [hz, lt_num]
      exact decide_eq_true (hlt.trans_le hyx)
    have hempty : qualifies thresholds (valueInit : NvDsInferParseObjectInfo α) = false := by
      unfold qualifies
      split
      · rfl
      · simp [valueInit]
    rw [proposal, ht, List.filter_cons, hempty]
    simp only [hscore]
    rfl
  · exact (proposal_eq_filter b).symm

/-- The lists of two parsers that read the boxes alike. -/
theorem filter_cuda [ZeroLEOneClass α] [NeZero (1 : α)] {read : (ℕ → Fp α) → ℕ → Corners α}
    {layers : List (NvDsInferLayerInfo α)} {params : ParseParams α}
    {objectList cpu gpu : List (NvDsInferParseObjectInfo α)} {ok : Bool}
    (hnum : nan ∉ params.perClassPreclusterThreshold)
    (hcpu : parseCustom ar read layers params objectList = some (true, cpu))
    (hgpu : ParseCustomCuda ar read layers params objectList ok gpu) :
    ok = true ∧ gpu.filter (qualifies params.perClassPreclusterThreshold) = cpu := by
  unfold parseCustom at hcpu
  split at hcpu
  · cases hcpu
  · rename_i boxes scores classes rest
    obtain ⟨rfl, m, hmin, objects, houtcome, rfl⟩ := hgpu
    obtain ⟨objects', hobjects, heq⟩ := Option.map_eq_some_iff.mp hcpu
    obtain rfl : objects' = cpu := congrArg Prod.snd heq
    obtain ⟨hclasses, rfl⟩ := decodeTensor_eq_some_iff.mp hobjects
    refine ⟨rfl, ?_⟩
    -- both lists entry by entry
    have hentries : (List.range boxes.d0).map objects = (List.range boxes.d0).map
        (entryCuda ar (read boxes.buffer) scores.buffer classes.buffer params.width params.height
          m) := List.map_congr_left fun b hb => decoded_cuda houtcome (List.mem_range.mp hb)
    rw [hentries, List.map_eq_flatMap, List.filter_flatMap]
    exact List.flatMap_congr fun b hb =>
      filter_entryCuda hnum hmin (hclasses b (List.mem_range.mp hb))
  · cases hcpu

end DemoColombia.Detector
