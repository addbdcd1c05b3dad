import DemoColombia.Perception.Probe

/-! # How many entries an object leaves

The push of the probe stands at the end of the loop over the user metas, not behind it. So an object
of a sampled frame leaves one entry for each of its user metas: none if it has none, and an entry
with the labels read so far for every meta before the last.

* `pushed_probe_objects` — the entries of a call, object by object.
* `one_entry_each_iff` — exactly when a call pushes one complete `ObjInfo` for each object. -/

namespace DemoColombia.Perception

/-! ## The objects of a batch -/

/-- The ROI labels of a user meta. -/
def UserMeta.roiLabels : UserMeta → List String
  | .analytics roiStatus => roiStatus
  | .reid _ | .other => []

/-- All the ROI labels of all the analytics metas of an object. -/
def ObjectMeta.roiLabels (obj_meta : ObjectMeta) : List String :=
  obj_meta.obj_user_meta_list.flatMap UserMeta.roiLabels

/-- The non-null objects of the non-null frames of a buffer, in order, each with its frame. -/
def Buffer.objects (buf : Buffer) : List (FrameMeta × ObjectMeta) :=
  match buf.batch_meta with
  | none => []
  | some batch_meta =>
    batch_meta.frame_meta_list.reduceOption.flatMap fun frame_meta =>
      frame_meta.obj_meta_list.reduceOption.map fun obj_meta => (frame_meta, obj_meta)

/-- The frame number is a multiple of the interval. -/
def FrameMeta.Multiple (frame_interval : Int32) (frame_meta : FrameMeta) : Prop :=
  frame_interval.toInt ∣ frame_meta.frame_num.toInt

instance (frame_interval : Int32) : DecidablePred (FrameMeta.Multiple frame_interval) :=
  fun frame_meta => inferInstanceAs (Decidable (frame_interval.toInt ∣ frame_meta.frame_num.toInt))

/-- The frame and the object of an entry. -/
def Entry.object (e : Entry) : FrameMeta × ObjectMeta := (e.frame_meta, e.obj_meta)

/-- A call pushes exactly one `ObjInfo` for each object of the frames whose number is a multiple of
the interval, in order, and it carries all the labels of the object. -/
structure OneEntryEach (ctx : AppCtx) (now : Int64) (buf : Buffer) : Prop where
  objects : (pushed (nvanalytics_src_pad_buffer_probe ctx now buf)).map Entry.object
    = buf.objects.filter fun o => o.1.Multiple ctx.frame_interval
  labels : ∀ e ∈ pushed (nvanalytics_src_pad_buffer_probe ctx now buf),
    ∃ acc : Accumulated, acc.roi_list = e.obj_meta.roiLabels ∧
      e.obj_info = makeObjInfo ctx now e.frame_meta e.obj_meta acc

variable {ctx : AppCtx} {now : Int64} {pReidTensor : Option ReidTensorBatch}
  {frame_meta : FrameMeta} {obj_meta : ObjectMeta} {buf : Buffer}

theorem Buffer.mem_objects : (frame_meta, obj_meta) ∈ buf.objects ↔
    ∃ batch_meta, buf.batch_meta = some batch_meta ∧ some frame_meta ∈ batch_meta.frame_meta_list ∧
      some obj_meta ∈ frame_meta.obj_meta_list := by
  unfold Buffer.objects
  cases buf.batch_meta with
  | none => simp
  | some batch_meta =>
    simp only [List.mem_flatMap, List.mem_map, List.reduceOption_mem_iff, Prod.mk.injEq,
      Option.some.injEq, exists_eq_left']
    constructor
    · rintro ⟨f, hf, o, ho, rfl, rfl⟩
      exact ⟨hf, ho⟩
    · rintro ⟨hf, ho⟩
      exact ⟨frame_meta, hf, obj_meta, ho, rfl, rfl⟩

/-- A user meta adds its labels. -/
theorem roi_list_read (acc : Accumulated) (user_meta : UserMeta) :
    (acc.read pReidTensor user_meta).roi_list = acc.roi_list ++ user_meta.roiLabels := by
  cases user_meta with
  | analytics roiStatus => rfl
  | reid reidInd =>
    -- a row of the tensor changes the embedding only
    rw [UserMeta.roiLabels, List.append_nil]
    unfold Accumulated.read
    dsimp only
    split
    · split <;> rfl
    · rfl
  | other => exact (List.append_nil _).symm

/-- **An object leaves one entry for each of its user metas** on a sampled frame, none on others. -/
theorem pushed_userMetaLoop_objects (acc : Accumulated) (metas : List UserMeta) :
    (pushed (userMetaLoop ctx now pReidTensor frame_meta obj_meta acc metas)).map Entry.object
      = List.replicate (if sampled ctx.frame_interval frame_meta then metas.length else 0)
          (frame_meta, obj_meta) := by
  by_cases hsampled : sampled ctx.frame_interval frame_meta = true
  · rw [if_pos hsampled]
    induction metas generalizing acc with
    | nil => rfl
    | cons user_meta metas ih =>
      rw [pushed_userMetaLoop_cons hsampled, List.map_cons, ih, List.length_cons,
        List.replicate_succ]
      rfl
  · rw [if_neg hsampled, userMetaLoop_of_not_sampled (by simpa using hsampled)]
    rfl

/-- **The entries of a call, object by object.** -/
theorem pushed_probe_objects (ctx : AppCtx) (now : Int64) (buf : Buffer) :
    (pushed (nvanalytics_src_pad_buffer_probe ctx now buf)).map Entry.object
      = buf.objects.flatMap fun o => List.replicate (if sampled ctx.frame_interval o.1 then
          o.2.obj_user_meta_list.length else 0) o := by
  cases hbatch : buf.batch_meta with
  | none => rw [pushed_probe_of_none hbatch, Buffer.objects, hbatch]; rfl
  | some batch_meta =>
    rw [pushed_probe_of_batch hbatch, Buffer.objects, hbatch, List.map_flatMap]
    dsimp only
    rw [List.flatMap_assoc]
    refine List.flatMap_congr fun frame_meta _ => ?_
    rw [pushed_objectLoop, List.map_flatMap, List.flatMap_map]
    exact List.flatMap_congr fun obj_meta _ => pushed_userMetaLoop_objects _ _

/-! ## One complete entry each -/

/-- With one user meta, the entry carries all the labels of the object. -/
theorem labels_of_single {user_meta : UserMeta} (hmeta : obj_meta.obj_user_meta_list = [user_meta])
    (hsampled : sampled ctx.frame_interval frame_meta = true) {e : Entry}
    (he : e ∈ pushed (userMetaLoop ctx now pReidTensor frame_meta obj_meta .init
      obj_meta.obj_user_meta_list)) :
    ∃ acc : Accumulated, acc.roi_list = e.obj_meta.roiLabels ∧
      e.obj_info = makeObjInfo ctx now e.frame_meta e.obj_meta acc := by
  rw [hmeta, pushed_userMetaLoop_cons hsampled] at he
  obtain rfl : e = _ := List.mem_singleton.mp he
  refine ⟨_, ?_, rfl⟩
  rw [roi_list_read, ObjectMeta.roiLabels, hmeta]
  exact (List.append_nil _).symm

/-- On a frame number that is not negative the unsigned test is divisibility. -/
theorem sampled_iff_multiple (hinterval : 0 < ctx.frame_interval)
    (hnum : 0 ≤ frame_meta.frame_num) :
    sampled ctx.frame_interval frame_meta = true ↔ frame_meta.Multiple ctx.frame_interval := by
  have hinterval' : 0 ≤ ctx.frame_interval := Int32.le_of_lt hinterval
  have hnum' : 0 ≤ frame_meta.frame_num.toInt := Int32.le_iff_toInt_le.mp hnum
  have hpos : 0 ≤ ctx.frame_interval.toInt := Int32.le_iff_toInt_le.mp hinterval'
  rw [sampled, decide_eq_true_eq, FrameMeta.Multiple, ← UInt32.toNat_inj, UInt32.toNat_mod,
    Int32.toNat_toUInt32_of_le hnum, Int32.toNat_toUInt32_of_le hinterval']
  show frame_meta.frame_num.toInt.toNat % ctx.frame_interval.toInt.toNat = 0 ↔ _
  rw [← Nat.dvd_iff_mod_eq_zero, ← Int.natCast_dvd_natCast, Int.toNat_of_nonneg hnum',
    Int.toNat_of_nonneg hpos]

/-- **When a call pushes one complete `ObjInfo` for each object.** For every buffer and interval:
exactly when, on the frames whose number is a multiple of the interval, the unsigned test of the
probe succeeds and every object has exactly one user meta, and on the other frames the test fails
wherever an object has a user meta. -/
theorem one_entry_each_iff (ctx : AppCtx) (now : Int64) (buf : Buffer) :
    OneEntryEach ctx now buf ↔
      ∀ o ∈ buf.objects,
        if o.1.Multiple ctx.frame_interval then
          sampled ctx.frame_interval o.1 = true ∧ o.2.obj_user_meta_list.length = 1
        else sampled ctx.frame_interval o.1 = true → o.2.obj_user_meta_list = [] := by
  have hobjects : (pushed (nvanalytics_src_pad_buffer_probe ctx now buf)).map Entry.object
        = buf.objects.filter (fun o => o.1.Multiple ctx.frame_interval) ↔
      ∀ o ∈ buf.objects, (if sampled ctx.frame_interval o.1 then o.2.obj_user_meta_list.length
        else 0) = if o.1.Multiple ctx.frame_interval then 1 else 0 := by
    rw [pushed_probe_objects, filter_eq_flatMap_replicate, flatMap_replicate_inj]
  have hcondition : ∀ o : FrameMeta × ObjectMeta,
      ((if sampled ctx.frame_interval o.1 then o.2.obj_user_meta_list.length else 0)
          = if o.1.Multiple ctx.frame_interval then 1 else 0) ↔
        if o.1.Multiple ctx.frame_interval then
          sampled ctx.frame_interval o.1 = true ∧ o.2.obj_user_meta_list.length = 1
        else sampled ctx.frame_interval o.1 = true → o.2.obj_user_meta_list = [] := by
    intro o
    split <;> split <;> simp_all
  constructor
  · intro h o ho
    exact (hcondition o).mp (hobjects.mp h.objects o ho)
  · intro h
    refine ⟨hobjects.mpr fun o ho => (hcondition o).mpr (h o ho), fun e he => ?_⟩
    obtain ⟨tensor, frame_meta, obj_meta, hobject, he⟩ := mem_pushed_probe.mp he
    have hsampled := hobject.frame_sampled
    obtain ⟨batch_meta, hbatch, hframe, hobj, -, -⟩ := hobject
    have ho := h _ (Buffer.mem_objects.mpr ⟨batch_meta, hbatch, hframe, hobj⟩)
    split at ho
    · obtain ⟨user_meta, hmeta⟩ := List.length_eq_one_iff.mp ho.2
      exact labels_of_single hmeta hsampled he
    · -- an object without user metas has left no entry
      rw [show obj_meta.obj_user_meta_list = [] from ho hsampled] at he
      cases he

/-- **Two messages for one object.** Its analytics meta and its re-id meta each push an entry. -/
theorem two_metas_two_entries :
    ¬ ∀ (ctx : AppCtx) (now : Int64) (buf : Buffer), 0 < ctx.frame_interval →
      OneEntryEach ctx now buf := by
  intro hall
  have hobjects := (hall .sample 0 (.sample 0 [.sample 7 [.analytics ["door"], .reid 0]])
    (by decide)).objects
  have hlength := congrArg List.length hobjects
  rw [List.length_map] at hlength
  revert hlength
  decide +kernel

end DemoColombia.Perception
