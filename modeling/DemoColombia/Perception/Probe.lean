import DemoColombia.DataStructures.Lists
import DemoColombia.Perception.ObjInfo

/-! # The probe (`nvanalytics_src_pad_buffer_probe`)

One call of the probe walks the frames of a batch, the objects of each frame and the user metas of
each object, and leaves behind a list of actions in program order: a stream's frame counter is
incremented, a task is posted to the pool, an entry is pushed on `obj_list`. The list pointers of
the metadata may be null (`none`); the push stands inside the loop over the user metas, so an object
leaves one entry for each of them, built from what the metas up to it have accumulated. -/

namespace DemoColombia.Perception

/-! ## The metadata the probe reads -/

/-- A user meta of an object. -/
inductive UserMeta
  /-- `NVDS_USER_OBJ_META_NVDSANALYTICS`: the labels of the ROIs the object is in. -/
  | analytics (roiStatus : List String)
  /-- `NVDS_TRACKER_OBJ_REID_META`: the row of the object in the tensor of the batch. -/
  | reid (reidInd : Int32)
  /-- Any other meta type. -/
  | other
  deriving DecidableEq

/-- `NvOSD_RectParams`. -/
structure RectParams where
  top : ℚ
  left : ℚ
  width : ℚ
  height : ℚ
  deriving DecidableEq

/-- `NvDsObjectMeta`. -/
structure ObjectMeta where
  object_id : UInt64
  class_id : Int32
  confidence : ℚ
  rect_params : RectParams
  obj_user_meta_list : List UserMeta
  deriving DecidableEq

/-- `NvDsFrameMeta`. -/
structure FrameMeta where
  pad_index : UInt32
  batch_id : UInt32
  frame_num : Int32
  obj_meta_list : List (Option ObjectMeta)
  deriving DecidableEq

/-- `NvDsReidTensorBatch`. -/
structure ReidTensorBatch where
  numFilled : UInt32
  featureSize : UInt32
  ptr_host : FloatPtr

/-- A user meta of the batch. -/
inductive BatchUserMeta
  /-- `NVDS_TRACKER_BATCH_REID_META`. -/
  | reid (tensor : Option ReidTensorBatch)
  | other

/-- `NvDsBatchMeta`. -/
structure BatchMeta where
  batch_user_meta_list : List (Option BatchUserMeta)
  frame_meta_list : List (Option FrameMeta)

/-- The buffer of a probe call: its batch meta, and for each batch id the address the surface is
mapped at (`none` where `gst_buffer_map` fails). -/
structure Buffer where
  batch_meta : Option BatchMeta
  mappedAddr : UInt32 → Option ℕ

/-- An entry of the `sources` list. -/
structure Source where
  pad_index : Int32
  camera_id : String
  description : String

/-- What the probe reads of the application context. -/
structure AppCtx where
  frame_interval : Int32
  output_directory : String
  sources : List Source
  save_frames : Bool
  redis_ttl : ℤ

/-- A context with two cameras that samples every frame, for concrete runs. -/
def AppCtx.sample : AppCtx :=
  ⟨1, "out", [⟨0, "entrance", ""⟩, ⟨1, "exit", ""⟩], false, 60⟩

/-- An object with some user metas, for concrete runs. -/
def ObjectMeta.sample (object_id : UInt64) (metas : List UserMeta) : ObjectMeta :=
  ⟨object_id, 0, 1 / 2, ⟨0, 0, 8, 16⟩, metas⟩

/-- A batch of one frame of a pad, its surface mapped at address `0`, for concrete runs. -/
def Buffer.sample (pad_index : UInt32) (objects : List ObjectMeta) : Buffer :=
  ⟨some ⟨[], [some ⟨pad_index, 0, 0, objects.map some⟩]⟩, fun _ => some 0⟩

/-! ## What a call leaves behind -/

/-- A task posted to the thread pool, with the arguments bound to it. -/
inductive PoolTask
  | saveFrameTask (frame : Mat) (dir : String) (pad_index : Int32) (frame_num : Int32)
  | send2redisTask (ttl : ℤ) (frame_info : FrameInfo)
  deriving DecidableEq

/-- An `ObjInfo` pushed on `obj_list`, with the metas it was built from. -/
structure Entry where
  frame_meta : FrameMeta
  obj_meta : ObjectMeta
  obj_info : ObjInfo
  deriving DecidableEq

/-- The actions of a probe call; a posted task comes with the frame it was posted for. -/
inductive ProbeAction
  | countFrame (pad_index : UInt32)
  | post (frame_meta : FrameMeta) (task : PoolTask)
  | push (entry : Entry)

/-- The entry an action pushes. -/
def ProbeAction.entry? : ProbeAction → Option Entry
  | .push entry => some entry
  | _ => none

/-- The entries pushed by some actions, in order. -/
def pushed (actions : List ProbeAction) : List Entry := actions.filterMap ProbeAction.entry?

/-- The task an action posts, with its frame. -/
def ProbeAction.task? : ProbeAction → Option (FrameMeta × PoolTask)
  | .post frame_meta task => some (frame_meta, task)
  | _ => none

/-- The tasks posted by some actions, in order. -/
def posted (actions : List ProbeAction) : List (FrameMeta × PoolTask) :=
  actions.filterMap ProbeAction.task?

/-! ## The call -/

/-- The tensor of the batch: the last one among the batch user metas. -/
def findReidTensor (batch_user_meta_list : List (Option BatchUserMeta)) : Option ReidTensorBatch :=
  batch_user_meta_list.foldl (fun pReidTensor user_meta => match user_meta with
    -- the search goes on after a hit, so a later tensor (or a null one) replaces an earlier
    | some (.reid tensor) => tensor
    | _ => pReidTensor) none

/-- The camera id and the description of a pad: those of the first source with its index. -/
def findCamera (sources : List Source) (pad_index : UInt32) : String × String :=
  match sources.find? fun source => source.pad_index.toUInt32 = pad_index with
  | some source => (source.camera_id, source.description)
  | none => ("", "")

/-- `frame_number % frame_interval == 0`, a test on unsigned numbers. -/
def sampled (frame_interval : Int32) (frame_meta : FrameMeta) : Bool :=
  frame_meta.frame_num.toUInt32 % frame_interval.toUInt32 = 0

/-- The conversion of a float to an int: towards zero. -/
def toInt (x : ℚ) : Int32 := Int32.ofInt (x.num.tdiv x.den)

/-- What the loop over the user metas of an object accumulates. -/
structure Accumulated where
  roi_list : List String
  numElements : UInt32
  embeddings_data : Option FloatPtr

/-- Before the first user meta. -/
def Accumulated.init : Accumulated := ⟨[], 0, none⟩

/-- What one user meta adds on a sampled frame. -/
def Accumulated.read (pReidTensor : Option ReidTensorBatch) (acc : Accumulated) :
    UserMeta → Accumulated
  | .analytics roiStatus => { acc with roi_list := acc.roi_list ++ roiStatus }
  | .reid reidInd => match pReidTensor with
    | some tensor =>
      if 0 < tensor.numFilled ∧ 0 ≤ reidInd then
        { acc with
          numElements := tensor.featureSize
          -- the offset is a product of unsigned ints
          embeddings_data := some fun i =>
            tensor.ptr_host ((reidInd.toUInt32 * tensor.featureSize).toNat + i) }
      else acc
    | none => acc
  | .other => acc

/-- The `ObjInfo` of an object with what has been accumulated; `now` counts nanoseconds. -/
def makeObjInfo (ctx : AppCtx) (now : Int64) (frame_meta : FrameMeta) (obj_meta : ObjectMeta)
    (acc : Accumulated) : ObjInfo :=
  ObjInfo.new (findCamera ctx.sources frame_meta.pad_index).1
    (findCamera ctx.sources frame_meta.pad_index).2
    frame_meta.pad_index.toInt32 frame_meta.frame_num obj_meta.class_id obj_meta.object_id.toUInt32
    obj_meta.confidence (toInt obj_meta.rect_params.top) (toInt obj_meta.rect_params.left)
    (toInt obj_meta.rect_params.width) (toInt obj_meta.rect_params.height)
    acc.numElements acc.embeddings_data acc.roi_list now.toUInt64

/-- The loop over the user metas of an object. -/
def userMetaLoop (ctx : AppCtx) (now : Int64) (pReidTensor : Option ReidTensorBatch)
    (frame_meta : FrameMeta) (obj_meta : ObjectMeta) :
    Accumulated → List UserMeta → List ProbeAction
  | _, [] => []
  | acc, user_meta :: l_user_meta =>
    -- the push is the last statement of the loop body: it comes after every meta, of any type
    if sampled ctx.frame_interval frame_meta then
      .push ⟨frame_meta, obj_meta,
          makeObjInfo ctx now frame_meta obj_meta (acc.read pReidTensor user_meta)⟩
        :: userMetaLoop ctx now pReidTensor frame_meta obj_meta (acc.read pReidTensor user_meta)
            l_user_meta
    else userMetaLoop ctx now pReidTensor frame_meta obj_meta acc l_user_meta

/-- The loop over the objects of a frame. -/
def objectLoop (ctx : AppCtx) (now : Int64) (pReidTensor : Option ReidTensorBatch)
    (frame_meta : FrameMeta) : List ProbeAction :=
  frame_meta.obj_meta_list.flatMap fun
    | some obj_meta => userMetaLoop ctx now pReidTensor frame_meta obj_meta .init
        obj_meta.obj_user_meta_list
    | none => []

/-- The tasks that get the picture of a frame: a file when frames are saved and the surface is
mapped, a Redis entry when the frame is sampled. -/
def frameTasks (ctx : AppCtx) (now : Int64) (sourceFrame : Mat) (frame_meta : FrameMeta) :
    List ProbeAction :=
  -- posted where the header is built, for every frame
  (if ctx.save_frames ∧ sourceFrame.data.isSome then
      [.post frame_meta (.saveFrameTask sourceFrame ctx.output_directory
        frame_meta.pad_index.toInt32 frame_meta.frame_num)]
    else []) ++
  [.countFrame frame_meta.pad_index] ++
  -- posted even with an empty header
  if sampled ctx.frame_interval frame_meta then
    [.post frame_meta (.send2redisTask ctx.redis_ttl ⟨now.toUInt64,
      (findCamera ctx.sources frame_meta.pad_index).1, frame_meta.frame_num, sourceFrame⟩)]
  else []

/-- `nvanalytics_src_pad_buffer_probe`: the loop over the frames of the batch. -/
def nvanalytics_src_pad_buffer_probe (ctx : AppCtx) (now : Int64) (buf : Buffer) :
    List ProbeAction :=
  match buf.batch_meta with
  | none => []
  | some batch_meta =>
    -- a null frame meta is skipped
    batch_meta.frame_meta_list.flatMap fun
      | some frame_meta =>
        frameTasks ctx now ⟨buf.mappedAddr frame_meta.batch_id⟩ frame_meta ++
          objectLoop ctx now (findReidTensor batch_meta.batch_user_meta_list) frame_meta
      | none => []

/-! ## The entries a call pushes -/

@[simp] theorem pushed_append (as bs : List ProbeAction) :
    pushed (as ++ bs) = pushed as ++ pushed bs :=
  List.filterMap_append

/-- The frame path pushes nothing. -/
@[simp] theorem pushed_frameTasks (ctx : AppCtx) (now : Int64) (sourceFrame : Mat)
    (frame_meta : FrameMeta) : pushed (frameTasks ctx now sourceFrame frame_meta) = [] := by
  unfold frameTasks pushed
  split <;> split <;> simp [ProbeAction.entry?]

/-- The objects a call reads on sampled frames, with their frames and the tensor of the batch. -/
def SampledObject (ctx : AppCtx) (buf : Buffer) (pReidTensor : Option ReidTensorBatch)
    (frame_meta : FrameMeta) (obj_meta : ObjectMeta) : Prop :=
  ∃ batch_meta, buf.batch_meta = some batch_meta ∧ some frame_meta ∈ batch_meta.frame_meta_list ∧
    some obj_meta ∈ frame_meta.obj_meta_list ∧ sampled ctx.frame_interval frame_meta ∧
    pReidTensor = findReidTensor batch_meta.batch_user_meta_list

variable {ctx : AppCtx} {now : Int64} {pReidTensor : Option ReidTensorBatch}
  {frame_meta : FrameMeta} {obj_meta : ObjectMeta}

theorem SampledObject.frame_sampled {buf : Buffer}
    (h : SampledObject ctx buf pReidTensor frame_meta obj_meta) :
    sampled ctx.frame_interval frame_meta = true := by
  obtain ⟨batch_meta, -, -, -, hsampled, -⟩ := h
  exact hsampled

/-- A frame that is not sampled leaves no entries. -/
theorem userMetaLoop_of_not_sampled (h : sampled ctx.frame_interval frame_meta = false)
    (acc : Accumulated) (metas : List UserMeta) :
    userMetaLoop ctx now pReidTensor frame_meta obj_meta acc metas = [] := by
  induction metas generalizing acc with
  | nil => rfl
  | cons user_meta metas ih => simpa [userMetaLoop, h] using ih acc

/-- On a sampled frame every user meta pushes an entry. -/
theorem pushed_userMetaLoop_cons (h : sampled ctx.frame_interval frame_meta = true)
    (acc : Accumulated) (user_meta : UserMeta) (metas : List UserMeta) :
    pushed (userMetaLoop ctx now pReidTensor frame_meta obj_meta acc (user_meta :: metas))
      = ⟨frame_meta, obj_meta,
            makeObjInfo ctx now frame_meta obj_meta (acc.read pReidTensor user_meta)⟩
        :: pushed (userMetaLoop ctx now pReidTensor frame_meta obj_meta
            (acc.read pReidTensor user_meta) metas) := by
  rw [userMetaLoop, if_pos h]
  rfl

/-- A loop over a list of pointers pushes what its body pushes for those that are not null. -/
theorem pushed_flatMap {α : Type} (f : Option α → List ProbeAction) (hnone : f none = [])
    (l : List (Option α)) :
    pushed (l.flatMap f) = l.reduceOption.flatMap fun a => pushed (f (some a)) := by
  rw [flatMap_reduceOption f hnone, pushed, List.filterMap_flatMap]
  rfl

/-- The entries of the objects of a frame. -/
theorem pushed_objectLoop : pushed (objectLoop ctx now pReidTensor frame_meta)
    = frame_meta.obj_meta_list.reduceOption.flatMap fun obj_meta =>
        pushed (userMetaLoop ctx now pReidTensor frame_meta obj_meta .init
          obj_meta.obj_user_meta_list) :=
  pushed_flatMap _ rfl _

theorem mem_pushed_objectLoop {e : Entry} :
    e ∈ pushed (objectLoop ctx now pReidTensor frame_meta) ↔
      ∃ obj_meta, some obj_meta ∈ frame_meta.obj_meta_list ∧
        e ∈ pushed (userMetaLoop ctx now pReidTensor frame_meta obj_meta .init
          obj_meta.obj_user_meta_list) := by
  simp only [pushed_objectLoop, List.mem_flatMap, List.reduceOption_mem_iff]

theorem pushed_probe_of_none {buf : Buffer} (h : buf.batch_meta = none) :
    pushed (nvanalytics_src_pad_buffer_probe ctx now buf) = [] := by
  rw [nvanalytics_src_pad_buffer_probe, h]
  rfl

/-- The entries of the frames of a batch. -/
theorem pushed_probe_of_batch {buf : Buffer} {batch_meta : BatchMeta}
    (h : buf.batch_meta = some batch_meta) :
    pushed (nvanalytics_src_pad_buffer_probe ctx now buf)
      = batch_meta.frame_meta_list.reduceOption.flatMap fun frame_meta =>
          pushed (objectLoop ctx now (findReidTensor batch_meta.batch_user_meta_list)
            frame_meta) := by
  rw [nvanalytics_src_pad_buffer_probe, h]
  dsimp only
  rw [pushed_flatMap _ rfl]
  refine List.flatMap_congr fun frame_meta _ => ?_
  -- the frame path pushes nothing
  rw [pushed_append, pushed_frameTasks, List.nil_append]

/-- **The entries of a call** are those of the user-meta loops of its sampled objects. -/
theorem mem_pushed_probe {buf : Buffer} {e : Entry} :
    e ∈ pushed (nvanalytics_src_pad_buffer_probe ctx now buf) ↔
      ∃ pReidTensor frame_meta obj_meta, SampledObject ctx buf pReidTensor frame_meta obj_meta ∧
        e ∈ pushed (userMetaLoop ctx now pReidTensor frame_meta obj_meta .init
          obj_meta.obj_user_meta_list) := by
  unfold SampledObject
  cases hbatch : buf.batch_meta with
  | none => simp [pushed_probe_of_none hbatch]
  | some batch_meta =>
    rw [pushed_probe_of_batch hbatch]
    simp only [List.mem_flatMap, List.reduceOption_mem_iff, mem_pushed_objectLoop]
    constructor
    · -- an entry exists only if its frame was sampled
      rintro ⟨frame_meta, hf, obj_meta, ho, he⟩
      have hsampled : sampled ctx.frame_interval frame_meta = true := by
        by_contra hnot
        rw [userMetaLoop_of_not_sampled (by simpa using hnot)] at he
        simp [pushed] at he
      exact ⟨_, frame_meta, obj_meta, ⟨batch_meta, rfl, hf, ho, hsampled, rfl⟩, he⟩
    · rintro ⟨tensor, frame_meta, obj_meta, ⟨batch_meta', hbatch', hf, ho, -, rfl⟩, he⟩
      cases hbatch'
      exact ⟨frame_meta, hf, obj_meta, ho, he⟩

/-- A user meta only adds labels. -/
theorem roi_list_prefix_read (acc : Accumulated) (user_meta : UserMeta) :
    acc.roi_list <+: (acc.read pReidTensor user_meta).roi_list := by
  unfold Accumulated.read
  split
  · exact List.prefix_append _ _
  · -- a row of the tensor changes the embedding only
    split
    · split <;> exact List.prefix_rfl
    · exact List.prefix_rfl
  · exact List.prefix_rfl

/-- Every entry carries its metas and the fields the constructor call gives it, with at least the
labels accumulated before. -/
theorem entry_eq_of_mem {acc : Accumulated} {metas : List UserMeta} {e : Entry}
    (he : e ∈ pushed (userMetaLoop ctx now pReidTensor frame_meta obj_meta acc metas)) :
    ∃ acc', acc.roi_list <+: acc'.roi_list ∧
      e = ⟨frame_meta, obj_meta, makeObjInfo ctx now frame_meta obj_meta acc'⟩ := by
  induction metas generalizing acc with
  | nil => simp [userMetaLoop, pushed] at he
  | cons user_meta metas ih =>
    by_cases hsampled : sampled ctx.frame_interval frame_meta = true
    · rw [pushed_userMetaLoop_cons hsampled] at he
      -- the entry of this meta, or one of a later meta with what this one has added
      rcases List.mem_cons.mp he with rfl | he
      · exact ⟨_, roi_list_prefix_read acc user_meta, rfl⟩
      · obtain ⟨acc', hprefix, heq⟩ := ih he
        exact ⟨acc', (roi_list_prefix_read acc user_meta).trans hprefix, heq⟩
    · rw [userMetaLoop_of_not_sampled (by simpa using hsampled)] at he
      simp [pushed] at he

end DemoColombia.Perception
