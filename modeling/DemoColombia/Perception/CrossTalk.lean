import DemoColombia.Perception.Entries

/-! # No cross-talk between objects

The ROI list and the embedding are collected by the loop over the user metas of one object and start
afresh for the next. An entry is built from the metas read up to it (`pushed_userMetaLoop_inits`),
so every entry of an object shows a part of that object's own metas, and the last one all of them
(`no_cross_talk`). -/

namespace DemoColombia.Perception

/-! ## Rows of the tensor -/

/-- As many floats as a row has, from an offset of the tensor on. -/
def ReidTensorBatch.floats (tensor : ReidTensorBatch) (offset : ℕ) : List ℚ :=
  (List.range tensor.featureSize.toNat).map fun i => tensor.ptr_host (offset + i)

/-- The row with the number `k`. -/
def ReidTensorBatch.row (tensor : ReidTensorBatch) (k : ℕ) : List ℚ :=
  tensor.floats (k * tensor.featureSize.toNat)

/-- Where the row selected by an index begins: the offset is a product of unsigned ints. -/
def ReidTensorBatch.offset (tensor : ReidTensorBatch) (reidInd : Int32) : ℕ :=
  (reidInd.toUInt32 * tensor.featureSize).toNat

/-- As long as the product does not wrap around, the index is the number of the row. -/
theorem ReidTensorBatch.offset_eq (tensor : ReidTensorBatch) {reidInd : Int32} (h : 0 ≤ reidInd)
    (hfits : reidInd.toInt.toNat * tensor.featureSize.toNat < 2 ^ 32) :
    tensor.offset reidInd = reidInd.toInt.toNat * tensor.featureSize.toNat := by
  rw [offset, UInt32.toNat_mul, Int32.toNat_toUInt32_of_le h]
  exact Nat.mod_eq_of_lt hfits

/-- The row a user meta selects: that of a re-id meta with an index that is not negative, if there
is a filled tensor. -/
def UserMeta.selected? (pReidTensor : Option ReidTensorBatch) :
    UserMeta → Option (ReidTensorBatch × Int32)
  | .reid reidInd => match pReidTensor with
    | some tensor => if 0 < tensor.numFilled ∧ 0 ≤ reidInd then some (tensor, reidInd) else none
    | none => none
  | .analytics _ | .other => none

/-- The rows selected by the re-id metas of an object, in order. -/
def ObjectMeta.selected (pReidTensor : Option ReidTensorBatch) (obj_meta : ObjectMeta) :
    List (ReidTensorBatch × Int32) :=
  obj_meta.obj_user_meta_list.filterMap (UserMeta.selected? pReidTensor)

/-- The object carries no embedding. -/
def ObjInfo.NoEmbedding (obj_info : ObjInfo) : Prop :=
  obj_info.embeddings_size_ = 0 ∧ obj_info.embeddings_ = none

/-- The object carries the row selected by an index. -/
structure ObjInfo.Carries (obj_info : ObjInfo) (tensor : ReidTensorBatch) (reidInd : Int32) :
    Prop where
  size : obj_info.embeddings_size_ = tensor.featureSize
  values : obj_info.embeddings_ = some (tensor.floats (tensor.offset reidInd))
  row : reidInd.toInt.toNat * tensor.featureSize.toNat < 2 ^ 32 →
    obj_info.embeddings_ = some (tensor.row reidInd.toInt.toNat)

/-- The embedding is the row selected last, if there is one. -/
def ObjInfo.Embeds (obj_info : ObjInfo) : Option (ReidTensorBatch × Int32) → Prop
  | none => obj_info.NoEmbedding
  | some (tensor, reidInd) => obj_info.Carries tensor reidInd

/-- Only the size and the floats matter. -/
theorem ObjInfo.Embeds.congr {obj_info obj_info' : ObjInfo}
    {selected : Option (ReidTensorBatch × Int32)} (h : obj_info.Embeds selected)
    (hsize : obj_info'.embeddings_size_ = obj_info.embeddings_size_)
    (hvalues : obj_info'.embeddings_ = obj_info.embeddings_) : obj_info'.Embeds selected := by
  cases selected with
  | none => exact ⟨hsize.trans h.1, hvalues.trans h.2⟩
  | some selected =>
    exact ⟨hsize.trans h.size, hvalues.trans h.values, fun hfits => hvalues.trans (h.row hfits)⟩

/-! ## What the metas up to one have accumulated -/

variable {ctx : AppCtx} {now : Int64} {pReidTensor : Option ReidTensorBatch}
  {frame_meta : FrameMeta} {obj_meta : ObjectMeta} {buf : Buffer}

/-- What some user metas of an object accumulate. -/
def Accumulated.after (pReidTensor : Option ReidTensorBatch) (metas : List UserMeta) :
    Accumulated :=
  metas.foldl (fun acc user_meta => acc.read pReidTensor user_meta) .init

/-- The labels accumulated are those of the metas, in order. -/
theorem roi_list_after (metas : List UserMeta) :
    (Accumulated.after pReidTensor metas).roi_list = metas.flatMap UserMeta.roiLabels := by
  suffices h : ∀ acc : Accumulated,
      (metas.foldl (fun acc user_meta => acc.read pReidTensor user_meta) acc).roi_list
        = acc.roi_list ++ metas.flatMap UserMeta.roiLabels from h .init
  induction metas with
  | nil => intro acc; exact (List.append_nil _).symm
  | cons user_meta metas ih =>
    intro acc
    rw [List.foldl_cons, ih, roi_list_read, List.append_assoc, List.flatMap_cons]

/-- A meta that selects no row leaves the embedding as it is. -/
theorem embedding_read_of_none {user_meta : UserMeta}
    (h : user_meta.selected? pReidTensor = none) (acc : Accumulated) :
    (acc.read pReidTensor user_meta).numElements = acc.numElements ∧
      (acc.read pReidTensor user_meta).embeddings_data = acc.embeddings_data := by
  unfold UserMeta.selected? at h
  unfold Accumulated.read
  cases user_meta with
  | analytics roiStatus => exact ⟨rfl, rfl⟩
  | reid reidInd =>
    cases pReidTensor with
    | none => exact ⟨rfl, rfl⟩
    | some tensor =>
      dsimp only at h ⊢
      split at h
      · cases h
      · rename_i hnot
        rw [if_neg hnot]
        exact ⟨rfl, rfl⟩
  | other => exact ⟨rfl, rfl⟩

/-- A meta that selects a row replaces the embedding. -/
theorem embedding_read_of_some {user_meta : UserMeta} {tensor : ReidTensorBatch} {reidInd : Int32}
    (h : user_meta.selected? pReidTensor = some (tensor, reidInd)) (acc : Accumulated) :
    0 ≤ reidInd ∧ (acc.read pReidTensor user_meta).numElements = tensor.featureSize ∧
      (acc.read pReidTensor user_meta).embeddings_data
        = some fun i => tensor.ptr_host (tensor.offset reidInd + i) := by
  unfold UserMeta.selected? at h
  unfold Accumulated.read
  cases user_meta with
  | analytics | other => cases h
  | reid reidInd' =>
    cases pReidTensor with
    | none => cases h
    | some tensor' =>
      dsimp only at h ⊢
      split at h
      · rename_i husable
        cases h
        rw [if_pos husable]
        exact ⟨husable.2, rfl, rfl⟩
      · cases h

/-- **The embedding is the row selected last** among the metas read so far. The induction adds a
meta at the end. -/
theorem embeds_after (ctx : AppCtx) (now : Int64) (pReidTensor : Option ReidTensorBatch)
    (frame_meta : FrameMeta) (obj_meta : ObjectMeta) (metas : List UserMeta) :
    (makeObjInfo ctx now frame_meta obj_meta (.after pReidTensor metas)).Embeds
      (metas.filterMap (UserMeta.selected? pReidTensor)).getLast? := by
  induction metas using List.reverseRecOn with
  | nil => exact ⟨rfl, rfl⟩
  | append_singleton metas user_meta ih =>
    have hafter : Accumulated.after pReidTensor (metas ++ [user_meta])
        = (Accumulated.after pReidTensor metas).read pReidTensor user_meta := by
      rw [Accumulated.after, List.foldl_append]
      rfl
    rw [hafter, List.filterMap_append]
    cases hselected : user_meta.selected? pReidTensor with
    | none =>
      obtain ⟨hsize, hdata⟩ := embedding_read_of_none hselected (.after pReidTensor metas)
      rw [List.filterMap_cons_none hselected, List.filterMap_nil, List.append_nil]
      refine ih.congr hsize ?_
      simp only [makeObjInfo, ObjInfo.new, hsize, hdata]
    | some selected =>
      obtain ⟨tensor, reidInd⟩ := selected
      obtain ⟨hnonneg, hsize, hdata⟩ :=
        embedding_read_of_some hselected (.after pReidTensor metas)
      rw [List.filterMap_cons_some hselected, List.filterMap_nil, List.getLast?_concat]
      have hvalues : (makeObjInfo ctx now frame_meta obj_meta
          ((Accumulated.after pReidTensor metas).read pReidTensor user_meta)).embeddings_
            = some (tensor.floats (tensor.offset reidInd)) := by
        simp only [makeObjInfo, ObjInfo.new, hsize, hdata]
        rfl
      refine ⟨hsize, hvalues, fun hfits => ?_⟩
      rw [hvalues, tensor.offset_eq hnonneg hfits]
      rfl

/-! ## The entries of an object -/

/-- **An object of a sampled frame leaves one entry for each nonempty prefix of its user metas**, in
order, built from what that prefix accumulates. -/
theorem pushed_userMetaLoop_inits (h : sampled ctx.frame_interval frame_meta = true)
    (acc : Accumulated) (metas : List UserMeta) :
    pushed (userMetaLoop ctx now pReidTensor frame_meta obj_meta acc metas)
      = metas.inits.tail.map fun read => ⟨frame_meta, obj_meta,
          makeObjInfo ctx now frame_meta obj_meta
            (read.foldl (fun acc user_meta => acc.read pReidTensor user_meta) acc)⟩ := by
  induction metas generalizing acc with
  | nil => rfl
  | cons user_meta metas ih =>
    have hinits : metas.inits = [] :: metas.inits.tail := by cases metas <;> rfl
    rw [pushed_userMetaLoop_cons h, ih, List.inits_cons, List.tail_cons, hinits, List.map_cons,
      List.map_cons, List.map_map]
    rfl

/-- The entries the probe pushes for an object, which depend on nothing else in the batch but the
tensor. -/
def objectEntries (ctx : AppCtx) (now : Int64) (pReidTensor : Option ReidTensorBatch)
    (o : FrameMeta × ObjectMeta) : List Entry :=
  pushed (userMetaLoop ctx now pReidTensor o.1 o.2 .init o.2.obj_user_meta_list)

/-- The tensor of a buffer. -/
def Buffer.tensor (buf : Buffer) : Option ReidTensorBatch :=
  buf.batch_meta.bind fun batch_meta => findReidTensor batch_meta.batch_user_meta_list

/-- **The entries of a call are those of its objects, one object after the other.** -/
theorem pushed_probe_eq (ctx : AppCtx) (now : Int64) (buf : Buffer) :
    pushed (nvanalytics_src_pad_buffer_probe ctx now buf)
      = buf.objects.flatMap (objectEntries ctx now buf.tensor) := by
  unfold Buffer.tensor
  cases hbatch : buf.batch_meta with
  | none =>
    rw [pushed_probe_of_none hbatch, Buffer.objects, hbatch]
    rfl
  | some batch_meta =>
    rw [pushed_probe_of_batch hbatch, Buffer.objects, hbatch]
    dsimp only [Option.bind_some]
    rw [List.flatMap_assoc]
    refine List.flatMap_congr fun frame_meta _ => ?_
    rw [pushed_objectLoop, List.flatMap_map]
    rfl

/-- Some entries show an object's own metas, and the last one all of them. -/
structure OwnEntries (pReidTensor : Option ReidTensorBatch) (o : FrameMeta × ObjectMeta)
    (entries : List Entry) : Prop where
  length : entries.length = o.2.obj_user_meta_list.length
  object : ∀ e ∈ entries, e.object = o
  roi : ∀ e ∈ entries, e.obj_info.roi_ <+: o.2.roiLabels
  embedding : ∀ e ∈ entries, e.obj_info.NoEmbedding ∨
    ∃ selected ∈ o.2.selected pReidTensor, e.obj_info.Carries selected.1 selected.2
  last : ∃ e, entries.getLast? = some e ∧ e.obj_info.roi_ = o.2.roiLabels ∧
    e.obj_info.Embeds (o.2.selected pReidTensor).getLast?

theorem ownEntries_objectEntries {o : FrameMeta × ObjectMeta}
    (hsampled : sampled ctx.frame_interval o.1 = true) (hmetas : o.2.obj_user_meta_list ≠ []) :
    OwnEntries pReidTensor o (objectEntries ctx now pReidTensor o) := by
  have hentries : objectEntries ctx now pReidTensor o
      = o.2.obj_user_meta_list.inits.tail.map fun read =>
          ⟨o.1, o.2, makeObjInfo ctx now o.1 o.2 (.after pReidTensor read)⟩ :=
    pushed_userMetaLoop_inits hsampled _ _
  have hmem : ∀ e ∈ objectEntries ctx now pReidTensor o, ∃ read,
      read <+: o.2.obj_user_meta_list ∧
        e = ⟨o.1, o.2, makeObjInfo ctx now o.1 o.2 (.after pReidTensor read)⟩ := by
    intro e he
    rw [hentries, List.mem_map] at he
    obtain ⟨read, hread, rfl⟩ := he
    exact ⟨read, (List.mem_inits _ _).mp (List.mem_of_mem_tail hread), rfl⟩
  refine ⟨?_, ?_, ?_, ?_, ?_⟩
  · rw [hentries, List.length_map, List.length_tail, List.length_inits, Nat.add_sub_cancel]
  · intro e he
    obtain ⟨read, -, rfl⟩ := hmem e he
    rfl
  · intro e he
    obtain ⟨read, ⟨rest, hrest⟩, rfl⟩ := hmem e he
    show (Accumulated.after pReidTensor read).roi_list <+: _
    rw [roi_list_after, ObjectMeta.roiLabels, ← hrest, List.flatMap_append]
    exact List.prefix_append _ _
  · intro e he
    obtain ⟨read, hread, rfl⟩ := hmem e he
    have hembeds := embeds_after ctx now pReidTensor o.1 o.2 read
    cases hlast : (read.filterMap (UserMeta.selected? pReidTensor)).getLast? with
    | none =>
      rw [hlast] at hembeds
      exact .inl hembeds
    | some selected =>
      rw [hlast] at hembeds
      refine .inr ⟨selected, ?_, hembeds⟩
      exact (List.IsPrefix.filterMap _ hread).subset (List.mem_of_getLast? hlast)
  · -- the longest prefix is the whole list
    refine ⟨⟨o.1, o.2, makeObjInfo ctx now o.1 o.2 (.after pReidTensor o.2.obj_user_meta_list)⟩,
      ?_, roi_list_after _, embeds_after _ _ _ _ _ _⟩
    rw [hentries, List.getLast?_map, getLast?_tail_inits hmetas]
    rfl

/-- **No cross-talk, and the last entry is complete.** For every batch and every object `o` of it
with a user meta on a sampled frame: the entries pushed for `o` stand next to each other, between
those of the objects before and after it. Each shows the ROI labels of a prefix of the metas of `o`
and either no embedding or a row selected by a re-id meta of `o`; the last one shows all its labels
and the row selected by its last usable re-id meta. -/
theorem no_cross_talk (ctx : AppCtx) (now : Int64) (buf : Buffer)
    {before after : List (FrameMeta × ObjectMeta)} {o : FrameMeta × ObjectMeta}
    (hobjects : buf.objects = before ++ o :: after)
    (hsampled : sampled ctx.frame_interval o.1 = true) (hmetas : o.2.obj_user_meta_list ≠ []) :
    pushed (nvanalytics_src_pad_buffer_probe ctx now buf)
        = before.flatMap (objectEntries ctx now buf.tensor) ++
          objectEntries ctx now buf.tensor o ++
          after.flatMap (objectEntries ctx now buf.tensor) ∧
      OwnEntries buf.tensor o (objectEntries ctx now buf.tensor o) := by
  refine ⟨?_, ownEntries_objectEntries hsampled hmetas⟩
  rw [pushed_probe_eq, hobjects, List.flatMap_append, List.flatMap_cons, List.append_assoc]

/-- A filled tensor with rows of two floats. -/
def ReidTensorBatch.sample : ReidTensorBatch := ⟨2, 2, fun i => i⟩

/-- A batch with that tensor and a frame of two objects. -/
def Buffer.sampleTensor (first second : ObjectMeta) : Buffer :=
  ⟨some ⟨[some (.reid (some .sample))], [some ⟨0, 0, 0, [some first, some second]⟩]⟩, fun _ => none⟩

/-- The last entry of the second of two objects: its label and its row, none of the first one's. -/
theorem no_cross_talk_second :
    ∃ e, (objectEntries .sample 0 (some .sample)
        (⟨0, 0, 0, [some (.sample 7 [.analytics ["door"], .reid 0]),
          some (.sample 8 [.analytics ["hall"], .reid 1])]⟩,
        .sample 8 [.analytics ["hall"], .reid 1])).getLast? = some e ∧
      e.obj_info.roi_ = ["hall"] ∧
      e.obj_info.embeddings_ = some (ReidTensorBatch.sample.row 1) := by
  have hobjects : (Buffer.sampleTensor (.sample 7 [.analytics ["door"], .reid 0])
      (.sample 8 [.analytics ["hall"], .reid 1])).objects = [(_, _)] ++ (_, _) :: [] := rfl
  have hown := (no_cross_talk .sample 0 _ hobjects rfl (by decide)).2
  obtain ⟨e, he, hroi, hembeds⟩ := hown.last
  exact ⟨e, he, hroi, hembeds.row (by decide)⟩

end DemoColombia.Perception
