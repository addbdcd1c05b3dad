import DemoColombia.Perception.Entries
import DemoColombia.Perception.RedisKeys

/-! # Joining a detection with its frame

The frame path and the object path of the probe test the frame number and search the sources list
separately. `located` lists the actions of a call with the position of the frame they belong to, so
that two frames with the same metadata stay apart.

* `detections_join_frames` — every detection is published with the key and the timestamp of the one
  picture of its frame; the frames that get a picture are those whose number, as an unsigned one, is
  a multiple of the interval.
* `negative_frame_posted` — a negative frame number need not be a multiple itself. -/

namespace DemoColombia.Perception

/-- The body of the loop over the frames. -/
def frameBody (ctx : AppCtx) (now : Int64) (buf : Buffer) (pReidTensor : Option ReidTensorBatch) :
    Option FrameMeta → List ProbeAction
  | some frame_meta => frameTasks ctx now ⟨buf.mappedAddr frame_meta.batch_id⟩ frame_meta ++
      objectLoop ctx now pReidTensor frame_meta
  | none => []

/-- The actions of a call, each with the position of its frame in the batch. -/
def located (ctx : AppCtx) (now : Int64) (buf : Buffer) : List (ℕ × ProbeAction) :=
  match buf.batch_meta with
  | none => []
  | some batch_meta =>
    labelled (frameBody ctx now buf (findReidTensor batch_meta.batch_user_meta_list))
      batch_meta.frame_meta_list

/-- The frame an action posts to Redis. -/
def ProbeAction.redisFrame? : ProbeAction → Option FrameInfo
  | .post _ (.send2redisTask _ frame_info) => some frame_info
  | _ => none

/-- The frames posted to Redis for the frame at position `i`. -/
def redisFrames (ctx : AppCtx) (now : Int64) (buf : Buffer) (i : ℕ) : List FrameInfo :=
  (located ctx now buf).filterMap fun a => if a.1 = i then a.2.redisFrame? else none

/-- The frame at position `i` of the batch. -/
def Buffer.frame? (buf : Buffer) (i : ℕ) : Option FrameMeta :=
  buf.batch_meta.bind fun batch_meta => (batch_meta.frame_meta_list[i]?).join

/-- The message of a detection leads to a stored frame. -/
structure Joins (obj_info : ObjInfo) (frame_info : FrameInfo) : Prop where
  /-- The key is made of the camera id and the frame number in the message. -/
  key : ∃ camera_id frame_num,
    (set_mqtt_message obj_info).member? "camera_id" = some (.string camera_id) ∧
      (set_mqtt_message obj_info).member? "frame_num" = some (.int frame_num) ∧
      (KeyFits frame_info.camera_id_ frame_info.frame_num_ →
        redis_key frame_info.camera_id_ frame_info.frame_num_
          = (camera_id ++ "_" ++ toString frame_num).toUTF8.toList)
  timestamp : frame_info.ts_nanoseconds_ = obj_info.ts_nanoseconds_ ∧
    (set_mqtt_message obj_info).member? "@timestamp"
      = some (.int frame_info.ts_nanoseconds_.toInt64.toInt)

/-- Each `ObjInfo` a call pushes belongs to a frame of the batch for which the call has posted
exactly one `send2redisTask`, and its message leads to that frame. -/
def DetectionsJoined (ctx : AppCtx) (now : Int64) (buf : Buffer) : Prop :=
  ∀ i entry, (i, .push entry) ∈ located ctx now buf →
    buf.frame? i = some entry.frame_meta ∧
      ∃ frame_info, redisFrames ctx now buf i = [frame_info] ∧ Joins entry.obj_info frame_info

variable {ctx : AppCtx} {now : Int64} {buf : Buffer} {pReidTensor : Option ReidTensorBatch}
  {frame_meta : FrameMeta}

/-- Without the positions they are the actions of the call. -/
theorem map_snd_located (ctx : AppCtx) (now : Int64) (buf : Buffer) :
    (located ctx now buf).map Prod.snd = nvanalytics_src_pad_buffer_probe ctx now buf := by
  unfold located nvanalytics_src_pad_buffer_probe
  cases buf.batch_meta with
  | none => rfl
  | some batch_meta =>
    dsimp only
    rw [map_snd_labelled]
    refine List.flatMap_congr fun frame_meta _ => ?_
    cases frame_meta <;> rfl

/-- The frame posted for a sampled frame. -/
def frameInfo (ctx : AppCtx) (now : Int64) (buf : Buffer) (frame_meta : FrameMeta) : FrameInfo where
  ts_nanoseconds_ := now.toUInt64
  camera_id_ := (findCamera ctx.sources frame_meta.pad_index).1
  frame_num_ := frame_meta.frame_num
  frame_ := ⟨buf.mappedAddr frame_meta.batch_id⟩

/-- The objects of a frame post nothing. -/
theorem redisFrames_objectLoop (ctx : AppCtx) (now : Int64) (pReidTensor : Option ReidTensorBatch)
    (frame_meta : FrameMeta) :
    (objectLoop ctx now pReidTensor frame_meta).filterMap ProbeAction.redisFrame? = [] := by
  rw [List.filterMap_eq_nil_iff]
  intro a ha
  cases a with
  | post f task =>
    have hposted : (f, task) ∈ posted (objectLoop ctx now pReidTensor frame_meta) :=
      List.mem_filterMap.mpr ⟨_, ha, rfl⟩
    rw [posted_objectLoop] at hposted
    cases hposted
  | countFrame | push => rfl

/-- **One picture for a sampled frame**, none for another. -/
theorem redisFrames_frameBody :
    (frameBody ctx now buf pReidTensor (some frame_meta)).filterMap ProbeAction.redisFrame?
      = if sampled ctx.frame_interval frame_meta then [frameInfo ctx now buf frame_meta]
        else [] := by
  rw [frameBody, List.filterMap_append, redisFrames_objectLoop, List.append_nil, frameTasks,
    List.filterMap_append, List.filterMap_append]
  -- the saved file, the counter and the Redis entry
  split <;> split <;> rfl

theorem redisFrames_eq (ctx : AppCtx) (now : Int64) (buf : Buffer) (i : ℕ) :
    redisFrames ctx now buf i = (buf.frame? i).toList.flatMap fun frame_meta =>
      if sampled ctx.frame_interval frame_meta then [frameInfo ctx now buf frame_meta] else [] := by
  unfold redisFrames located Buffer.frame?
  cases buf.batch_meta with
  | none => rfl
  | some batch_meta =>
    dsimp only [Option.bind_some]
    rw [filterMap_labelled]
    cases batch_meta.frame_meta_list[i]? with
    | none => rfl
    | some l_frame =>
      cases l_frame with
      | none => rfl
      | some frame_meta =>
        simpa using redisFrames_frameBody

/-- A detection pushed at position `i` comes from the frame there, which is sampled. -/
theorem mem_located_push {i : ℕ} {entry : Entry} (h : (i, .push entry) ∈ located ctx now buf) :
    buf.frame? i = some entry.frame_meta ∧ sampled ctx.frame_interval entry.frame_meta = true ∧
      ∃ acc, entry.obj_info = makeObjInfo ctx now entry.frame_meta entry.obj_meta acc := by
  unfold located at h
  unfold Buffer.frame?
  cases hbatch : buf.batch_meta with
  | none =>
    rw [hbatch] at h
    cases h
  | some batch_meta =>
    rw [hbatch] at h
    obtain ⟨l_frame, hframe, hmem⟩ := mem_labelled.mp h
    cases l_frame with
    | none => cases hmem
    | some frame_meta =>
      -- the frame path pushes nothing, so the entry is one of the loop over the objects
      have hpushed : entry ∈ pushed (objectLoop ctx now
          (findReidTensor batch_meta.batch_user_meta_list) frame_meta) := by
        have hmem' : entry ∈ pushed (frameBody ctx now buf
            (findReidTensor batch_meta.batch_user_meta_list) (some frame_meta)) :=
          List.mem_filterMap.mpr ⟨_, hmem, rfl⟩
        rwa [frameBody, pushed_append, pushed_frameTasks, List.nil_append] at hmem'
      obtain ⟨obj_meta, -, he⟩ := mem_pushed_objectLoop.mp hpushed
      have hsampled : sampled ctx.frame_interval frame_meta = true := by
        by_contra hnot
        rw [userMetaLoop_of_not_sampled (by simpa using hnot)] at he
        cases he
      obtain ⟨acc, -, rfl⟩ := entry_eq_of_mem he
      exact ⟨by simp [hframe], hsampled, acc, rfl⟩

/-- The two paths agree on the camera, the number and the time. -/
theorem joins_makeObjInfo (obj_meta : ObjectMeta) (acc : Accumulated) :
    Joins (makeObjInfo ctx now frame_meta obj_meta acc) (frameInfo ctx now buf frame_meta) where
  key := ⟨_, _, member?_camera_id _, member?_frame_num _, redis_key_of_fits⟩
  timestamp := ⟨rfl, member?_timestamp _⟩

/-- A sampled frame has an unsigned number that is a multiple of the interval. -/
theorem dvd_of_sampled (hinterval : 0 < ctx.frame_interval)
    (h : sampled ctx.frame_interval frame_meta = true) :
    ctx.frame_interval.toInt ∣ frame_meta.frame_num.toUInt32.toNat := by
  have hinterval' : 0 ≤ ctx.frame_interval := Int32.le_of_lt hinterval
  have hpos : 0 ≤ ctx.frame_interval.toInt := Int32.le_iff_toInt_le.mp hinterval'
  rw [sampled, decide_eq_true_eq, ← UInt32.toNat_inj, UInt32.toNat_mod,
    Int32.toNat_toUInt32_of_le hinterval'] at h
  have hdvd : ((ctx.frame_interval.toInt.toNat : ℕ) : ℤ) ∣ frame_meta.frame_num.toUInt32.toNat :=
    Int.natCast_dvd_natCast.mpr (Nat.dvd_of_mod_eq_zero h)
  rwa [Int.toNat_of_nonneg hpos] at hdvd

/-- **Every detection can be joined with its frame.** For every batch, sources list and positive
interval: each `ObjInfo` a call pushes belongs to a frame for which the call has posted exactly one
`send2redisTask`, and its message carries the timestamp of that task and the camera id and frame
number that make its key (if that fits the buffer). Every frame posted has a number that, as the
unsigned number the probe tests, is a multiple of the interval; a number that is not negative is a
multiple itself. -/
theorem detections_join_frames (ctx : AppCtx) (now : Int64) (buf : Buffer)
    (hinterval : 0 < ctx.frame_interval) :
    (located ctx now buf).map Prod.snd = nvanalytics_src_pad_buffer_probe ctx now buf ∧
      DetectionsJoined ctx now buf ∧
      ∀ i, ∀ frame_info ∈ redisFrames ctx now buf i,
        ctx.frame_interval.toInt ∣ frame_info.frame_num_.toUInt32.toNat ∧
          (0 ≤ frame_info.frame_num_ →
            ctx.frame_interval.toInt ∣ frame_info.frame_num_.toInt) := by
  refine ⟨map_snd_located ctx now buf, ?_, ?_⟩
  · intro i entry h
    obtain ⟨hframe, hsampled, acc, hobj⟩ := mem_located_push h
    refine ⟨hframe, frameInfo ctx now buf entry.frame_meta, ?_, ?_⟩
    · rw [redisFrames_eq, hframe]
      simp [hsampled]
    · rw [hobj]
      exact joins_makeObjInfo entry.obj_meta acc
  · intro i frame_info h
    rw [redisFrames_eq, List.mem_flatMap] at h
    obtain ⟨frame_meta, -, h⟩ := h
    split at h
    · rename_i hsampled
      obtain rfl := List.mem_singleton.mp h
      exact ⟨dvd_of_sampled hinterval hsampled, fun hnum =>
        (sampled_iff_multiple hinterval hnum).mp hsampled⟩
    · cases h

/-- One frame with one object: its message leads to the picture `entrance_0`. -/
theorem detections_join_frames_entrance :
    ∃ frame_info,
      redisFrames .sample 0 (.sample 0 [.sample 7 [.reid 0]]) 0 = [frame_info] ∧
        Joins (makeObjInfo .sample 0 ⟨0, 0, 0, [some (.sample 7 [.reid 0])]⟩ (.sample 7 [.reid 0])
          .init) frame_info :=
  ((detections_join_frames .sample 0 (.sample 0 [.sample 7 [.reid 0]]) (by decide)).2.1 0
    ⟨⟨0, 0, 0, [some (.sample 7 [.reid 0])]⟩, .sample 7 [.reid 0], _⟩
    (mem_labelled.mpr ⟨_, rfl, .tail _ (.tail _ (.head _))⟩)).2

/-- **A negative frame number.** `-1` is tested as `4294967295`, a multiple of the interval `3`, so
the frame is posted although its number is none. -/
theorem negative_frame_posted :
    ¬ ∀ (ctx : AppCtx) (now : Int64) (buf : Buffer), 0 < ctx.frame_interval →
      DetectionsJoined ctx now buf ∧
        ∀ i, ∀ frame_info ∈ redisFrames ctx now buf i,
          ctx.frame_interval.toInt ∣ frame_info.frame_num_.toInt := by
  intro hall
  have hposted := (hall { AppCtx.sample with frame_interval := 3 } 0
    ⟨some ⟨[], [some ⟨0, 0, -1, []⟩]⟩, fun _ => some 0⟩ (by decide)).2 0
  rw [redisFrames_eq] at hposted
  exact absurd (hposted _ (List.mem_singleton_self _)) (by decide)

end DemoColombia.Perception
