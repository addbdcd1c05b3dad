import DemoColombia.DataStructures.Printf
import DemoColombia.Perception.Probe
import DemoColombia.TransitionSystems.Runs

/-! # The pictures the pool writes

A `cv::Mat` built over a mapped surface shares its memory, and so does every copy made of it on the
way to the pool: the tasks read the pixels when they run. A picture is the one its frame showed only
if the surface has not been overwritten in between (`pictures_faithful`); nothing in the code
prevents that (`picture_of_another_frame`).

`FrameStore` is the memory of the surfaces, the tasks that wait in the pool, each with the frame as
the probe handled it, and the pictures written so far. Tasks run in any order and may fail. -/

namespace DemoColombia.Perception

/-! ## Names -/

/-- The Redis key of a frame: `%s_%d`. -/
def redis_key (camera_id : String) (frame_num : Int32) : List UInt8 :=
  g_snprintf 1024 (c_str camera_id ++ "_" ++ toString frame_num.toInt)

/-- The file of a frame: `%s/source%02d/frame_%07d.jpg`. -/
def frame_filename (dir : String) (pad_index frame_num : Int32) : List UInt8 :=
  g_snprintf 1024 (c_str dir ++ "/source" ++ zeroPadded 2 pad_index.toInt ++ "/frame_"
    ++ zeroPadded 7 frame_num.toInt ++ ".jpg")

/-- Where a picture is written. -/
inductive Place
  | redis (key : List UInt8)
  | file (filename : List UInt8)
  deriving DecidableEq

/-- The header of the frame bound to a task. -/
def PoolTask.frame : PoolTask → Mat
  | .saveFrameTask frame _ _ _ => frame
  | .send2redisTask _ frame_info => frame_info.frame_

/-- Where a task writes its picture. -/
def PoolTask.place : PoolTask → Place
  | .saveFrameTask _ dir pad_index frame_num => .file (frame_filename dir pad_index frame_num)
  | .send2redisTask _ frame_info => .redis (redis_key frame_info.camera_id_ frame_info.frame_num_)

/-! ## The system -/

variable {Pixels : Type*}

/-- A frame as the probe handled it; no pixels where its surface was not mapped. -/
structure Handled (Pixels : Type*) where
  camera_id : String
  directory : String
  pad_index : Int32
  frame_num : Int32
  pixels : Option Pixels

/-- A task in the pool, with the frame it was posted for. -/
structure Pending (Pixels : Type*) where
  task : PoolTask
  handled : Handled Pixels

/-- A written picture, with the frame its task was posted for. -/
structure Picture (Pixels : Type*) where
  place : Place
  pixels : Pixels
  handled : Handled Pixels

/-- The surfaces, the pool and what has been written. -/
structure FrameStore (Pixels : Type*) where
  /-- The pixels at each address. -/
  memory : ℕ → Pixels
  pool : List (Pending Pixels)
  written : List (Picture Pixels)

/-- What happens next. -/
inductive FrameLabel (Pixels : Type*)
  /-- A call of the probe. -/
  | probe (ctx : AppCtx) (now : Int64) (buf : Buffer)
  /-- A later batch reuses a surface. -/
  | overwrite (addr : ℕ) (pixels : Pixels)
  /-- A task of the pool runs; it may fail on the way. -/
  | run (i : ℕ) (succeeds : Bool)

/-- A frame of a probe call as it is handled. -/
def handle (ctx : AppCtx) (buf : Buffer) (memory : ℕ → Pixels) (frame_meta : FrameMeta) :
    Handled Pixels where
  camera_id := (findCamera ctx.sources frame_meta.pad_index).1
  directory := ctx.output_directory
  pad_index := frame_meta.pad_index.toInt32
  frame_num := frame_meta.frame_num
  pixels := (buf.mappedAddr frame_meta.batch_id).map memory

namespace FrameStore

/-- Nothing posted, nothing written. -/
def init (memory : ℕ → Pixels) : FrameStore Pixels := ⟨memory, [], []⟩

/-- What a task writes: the pixels its header refers to now; converting an empty header raises. -/
def picture (memory : ℕ → Pixels) (p : Pending Pixels) : Option (Picture Pixels) :=
  p.task.frame.data.map fun addr => ⟨p.task.place, memory addr, p.handled⟩

/-- One step. -/
def next (s : FrameStore Pixels) : FrameLabel Pixels → Option (FrameStore Pixels)
  | .probe ctx now buf =>
    some { s with
      pool := s.pool ++ (posted (nvanalytics_src_pad_buffer_probe ctx now buf)).map fun t =>
        ⟨t.2, handle ctx buf s.memory t.1⟩ }
  | .overwrite addr pixels => some { s with memory := Function.update s.memory addr pixels }
  -- the task is gone whether it writes or throws
  | .run i succeeds => s.pool[i]?.map fun p =>
    { s with
      pool := s.pool.eraseIdx i
      written := s.written ++ if succeeds then (picture s.memory p).toList else [] }

/-- An overwrite changes no pixels a task in the pool refers to. -/
def NotInUse (s : FrameStore Pixels) : FrameLabel Pixels → Prop
  | .overwrite addr pixels =>
    ∀ p ∈ s.pool, p.task.frame.data = some addr → s.memory addr = pixels
  | _ => True

end FrameStore

/-- The picture is written under a name of its frame. -/
def Place.NameOf (place : Place) (h : Handled Pixels) : Prop :=
  place = .redis (redis_key h.camera_id h.frame_num) ∨
    place = .file (frame_filename h.directory h.pad_index h.frame_num)

/-- The picture shows what its frame showed when the probe handled it. -/
def Picture.Faithful (w : Picture Pixels) : Prop :=
  w.handled.pixels = some w.pixels ∧ w.place.NameOf w.handled

/-! ## What the probe posts -/

theorem posted_append (as bs : List ProbeAction) : posted (as ++ bs) = posted as ++ posted bs :=
  List.filterMap_append

/-- The loop over the user metas posts nothing. -/
theorem posted_userMetaLoop (ctx : AppCtx) (now : Int64) (pReidTensor : Option ReidTensorBatch)
    (frame_meta : FrameMeta) (obj_meta : ObjectMeta) (acc : Accumulated) (metas : List UserMeta) :
    posted (userMetaLoop ctx now pReidTensor frame_meta obj_meta acc metas) = [] := by
  induction metas generalizing acc with
  | nil => rfl
  | cons user_meta metas ih =>
    rw [userMetaLoop]
    split
    · exact ih _
    · exact ih acc

theorem posted_objectLoop (ctx : AppCtx) (now : Int64) (pReidTensor : Option ReidTensorBatch)
    (frame_meta : FrameMeta) : posted (objectLoop ctx now pReidTensor frame_meta) = [] := by
  rw [objectLoop, posted, List.filterMap_flatMap, List.flatMap_eq_nil_iff]
  intro o _
  cases o with
  | none => rfl
  | some obj_meta => exact posted_userMetaLoop ctx now pReidTensor frame_meta obj_meta _ _

/-- The tasks of a frame carry its header and write under its names. -/
theorem posted_frameTasks {ctx : AppCtx} {now : Int64} {sourceFrame : Mat} {frame_meta : FrameMeta}
    {t : FrameMeta × PoolTask} (ht : t ∈ posted (frameTasks ctx now sourceFrame frame_meta)) :
    t.1 = frame_meta ∧ t.2.frame = sourceFrame ∧
      (t.2.place = .redis (redis_key (findCamera ctx.sources frame_meta.pad_index).1
          frame_meta.frame_num) ∨
        t.2.place = .file (frame_filename ctx.output_directory frame_meta.pad_index.toInt32
          frame_meta.frame_num)) := by
  rw [frameTasks, posted_append, posted_append, List.mem_append, List.mem_append] at ht
  -- the file of a saved frame, the counter, the Redis entry of a sampled frame
  rcases ht with (ht | ht) | ht
  · split at ht
    · obtain rfl := List.mem_singleton.mp ht
      exact ⟨rfl, rfl, .inr rfl⟩
    · cases ht
  · cases ht
  · split at ht
    · obtain rfl := List.mem_singleton.mp ht
      exact ⟨rfl, rfl, .inl rfl⟩
    · cases ht

/-- **Every posted task** carries the header of its frame's surface and a name of its frame. -/
theorem posted_probe {ctx : AppCtx} {now : Int64} {buf : Buffer} {t : FrameMeta × PoolTask}
    (ht : t ∈ posted (nvanalytics_src_pad_buffer_probe ctx now buf)) (memory : ℕ → Pixels) :
    t.2.frame = ⟨buf.mappedAddr t.1.batch_id⟩ ∧ t.2.place.NameOf (handle ctx buf memory t.1) := by
  unfold nvanalytics_src_pad_buffer_probe at ht
  split at ht
  · cases ht
  · rw [posted, List.filterMap_flatMap, List.mem_flatMap] at ht
    obtain ⟨f, -, ht⟩ := ht
    cases f with
    | none => cases ht
    | some frame_meta =>
      change t ∈ posted
        (frameTasks ctx now ⟨buf.mappedAddr frame_meta.batch_id⟩ frame_meta ++ _) at ht
      -- the objects of the frame post nothing
      rw [posted_append, posted_objectLoop, List.append_nil] at ht
      obtain ⟨rfl, hframe, hplace⟩ := posted_frameTasks ht
      exact ⟨hframe, hplace⟩

/-! ## Pictures and reuse -/

namespace FrameStore

variable {s s' : FrameStore Pixels}

/-- The waiting tasks still refer to what the probe saw, and the pictures written are faithful. -/
structure Inv (s : FrameStore Pixels) : Prop where
  named : ∀ p ∈ s.pool, p.task.place.NameOf p.handled
  fresh : ∀ p ∈ s.pool, p.handled.pixels = p.task.frame.data.map s.memory
  faithful : ∀ w ∈ s.written, w.Faithful

theorem Inv.init (memory : ℕ → Pixels) : Inv (init memory) := ⟨nofun, nofun, nofun⟩

/-- A task whose surface still shows what the probe saw writes a faithful picture. -/
theorem Inv.picture_faithful (h : Inv s) {p : Pending Pixels} (hp : p ∈ s.pool) {w : Picture Pixels}
    (hw : w ∈ picture s.memory p) : w.Faithful := by
  obtain ⟨addr, haddr, rfl⟩ := Option.map_eq_some_iff.mp hw
  exact ⟨by rw [h.fresh p hp, haddr]; rfl, h.named p hp⟩

/-- **Every step that reuses no surface in use preserves the invariant.** -/
theorem Inv.step {l : FrameLabel Pixels} (h : Inv s) (hok : NotInUse s l)
    (hnext : s.next l = some s') : Inv s' := by
  cases l with
  | probe ctx now buf =>
    cases hnext
    -- a task that was waiting, or one of the call, whose header points at what the call sees
    refine ⟨fun p hp => ?_, fun p hp => ?_, h.faithful⟩
    · rcases List.mem_append.mp hp with hp | hp
      · exact h.named p hp
      · obtain ⟨t, ht, rfl⟩ := List.mem_map.mp hp
        exact (posted_probe ht s.memory).2
    · rcases List.mem_append.mp hp with hp | hp
      · exact h.fresh p hp
      · obtain ⟨t, ht, rfl⟩ := List.mem_map.mp hp
        show (buf.mappedAddr t.1.batch_id).map s.memory = t.2.frame.data.map s.memory
        rw [(posted_probe ht s.memory).1]
  | overwrite addr pixels =>
    cases hnext
    refine ⟨h.named, fun p hp => ?_, h.faithful⟩
    rw [h.fresh p hp]
    cases hdata : p.task.frame.data with
    | none => rfl
    | some a =>
      -- the address is another one, or the new pixels are the old ones
      by_cases ha : a = addr
      · have hsame := hok p hp (by rw [hdata, ha])
        simp [ha, hsame]
      · simp [Function.update_of_ne ha]
  | run i succeeds =>
    obtain ⟨p, hp, rfl⟩ := Option.map_eq_some_iff.mp hnext
    have hmem : p ∈ s.pool := List.mem_of_getElem? hp
    refine ⟨fun q hq => h.named q (List.mem_of_mem_eraseIdx hq),
      fun q hq => h.fresh q (List.mem_of_mem_eraseIdx hq), fun w hw => ?_⟩
    -- written before, or by the task that runs now
    rcases List.mem_append.mp hw with hw | hw
    · exact h.faithful w hw
    · split at hw
      · exact h.picture_faithful hmem (Option.mem_toList.mp hw)
      · cases hw

/-- The invariant holds along every run that reuses no surface in use. -/
theorem Inv.of_reachableBy {memory : ℕ → Pixels}
    (h : ReachableBy next NotInUse (FrameStore.init memory) s) : Inv s :=
  h.invariant (P := Inv) (Inv.init memory) fun _ _ _ hinv hok hnext => hinv.step hok hnext

end FrameStore

/-- **Pictures are faithful as long as no surface in use is overwritten.** In every run of probe
calls, overwrites and task executions in which an overwrite changes no pixels that a task in the
pool still refers to, every picture written shows what its frame showed when the probe handled it,
and stands under a name of that frame. -/
theorem pictures_faithful {memory : ℕ → Pixels} {s : FrameStore Pixels}
    (h : ReachableBy FrameStore.next FrameStore.NotInUse (FrameStore.init memory) s) :
    ∀ w ∈ s.written, w.Faithful :=
  (FrameStore.Inv.of_reachableBy h).faithful

/-- The condition is exact: a surface in use that is given other pixels can make the pool write them
as the picture of the earlier frame. -/
theorem unfaithful_of_reuse {memory : ℕ → Pixels} {s : FrameStore Pixels}
    (h : ReachableBy FrameStore.next FrameStore.NotInUse (FrameStore.init memory) s) (addr : ℕ)
    (pixels : Pixels) (hreuse : ¬ FrameStore.NotInUse s (.overwrite addr pixels)) :
    ∃ s' s'' i, s.next (.overwrite addr pixels) = some s' ∧ s'.next (.run i true) = some s'' ∧
      ∃ w ∈ s''.written, ¬ w.Faithful := by
  have hinv := FrameStore.Inv.of_reachableBy h
  simp only [FrameStore.NotInUse, not_forall] at hreuse
  -- the task `p` still refers to the address; it runs right after the overwrite
  obtain ⟨p, hp, hdata, hne⟩ := hreuse
  obtain ⟨i, hi⟩ := List.getElem?_of_mem hp
  refine ⟨_, _, i, rfl, by rw [FrameStore.next, hi]; rfl, ⟨p.task.place, pixels, p.handled⟩, ?_, ?_⟩
  · simp [FrameStore.picture, hdata]
  · rintro ⟨hpixels, -⟩
    rw [hinv.fresh p hp, hdata] at hpixels
    exact hne (Option.some.inj hpixels)

/-- One sampled frame posts one task, with the header of its surface. -/
theorem posted_sample :
    posted (nvanalytics_src_pad_buffer_probe AppCtx.sample 0 (Buffer.sample 0 []))
      = [(⟨0, 0, 0, []⟩, .send2redisTask 60 ⟨0, "entrance", 0, ⟨some 0⟩⟩)] := by
  decide +kernel

/-- The pool after a probe call on one frame whose surface shows `10`. -/
theorem reachableBy_probe_sample :
    ReachableBy FrameStore.next FrameStore.NotInUse (FrameStore.init fun _ => 10)
      ⟨fun _ => 10, [⟨.send2redisTask 60 ⟨0, "entrance", 0, ⟨some 0⟩⟩,
        ⟨"entrance", "out", 0, 0, some 10⟩⟩], []⟩ :=
  .step (i := FrameLabel.probe .sample 0 (.sample 0 [])) .refl trivial (by
    rw [FrameStore.next, posted_sample]
    rfl)

/-- A faithful picture: the frame is handled while its surface shows `10`, the task runs, and only
then the surface is overwritten. -/
theorem pictures_faithful_in_time :
    ∃ s : FrameStore ℕ,
      ReachableBy FrameStore.next FrameStore.NotInUse (FrameStore.init fun _ => 10) s ∧
      (∃ w ∈ s.written, w.pixels = 10 ∧ w.place = .redis (redis_key "entrance" 0)) ∧
      s.memory 0 = 20 ∧ ∀ w ∈ s.written, w.Faithful := by
  have hrun := ReachableBy.step (i := FrameLabel.run 0 true) reachableBy_probe_sample trivial rfl
  have hover := ReachableBy.step (i := FrameLabel.overwrite 0 20) hrun (fun _ hp => nomatch hp) rfl
  exact ⟨_, hover, ⟨_, List.mem_singleton_self _, rfl, rfl⟩, rfl, pictures_faithful hover⟩

/-- **The picture of another frame.** A frame is handled while its surface shows `10`; a later batch
gives the surface the pixels `20`; then the task of the first frame runs and writes them under the
key of the first. -/
theorem picture_of_another_frame :
    ¬ ∀ (memory : ℕ → ℕ) (s : FrameStore ℕ),
      Reachable FrameStore.next (FrameStore.init memory) s → ∀ w ∈ s.written, w.Faithful := by
  intro hall
  obtain ⟨s', s'', i, hover, hrun, w, hw, hnot⟩ :=
    unfaithful_of_reuse reachableBy_probe_sample 0 20 (by
      intro hok
      exact absurd (hok _ (List.mem_singleton_self _) rfl) (by decide))
  have hreach := (reachableBy_probe_sample.reachable.step trivial hover).step trivial hrun
  exact hnot (hall _ _ hreach w hw)

end DemoColombia.Perception
