import DemoColombia.DataStructures.Heap
import DemoColombia.Perception.ObjInfo
import DemoColombia.TransitionSystems.Runs

/-! # `ObjInfo` owns its embedding

`Raw.ObjInfo` is `g2f::ObjInfo` as it lies in memory: `embeddings_` is a pointer, and the four
special members of the class allocate, hand over or free the buffer behind it. `Memory.next` runs
one of them on the object at an address, or overwrites the memory of the tracker.

* `nextValues` — the same steps on objects that hold their embedding by value, as the probe and the
  sender are modelled; `view_next` connects the two levels.
* `obj_info_owns_embedding` — over every sequence of steps each buffer has exactly one owner, none
  is freed twice or left behind, and every object shows the values its origin had. -/

namespace DemoColombia.Perception

namespace Raw

/-- `g2f::ObjInfo` in memory; `embeddings_` is the block of its buffer, `none` for a null pointer.
-/
structure ObjInfo where
  camera_id_ : String
  description_ : String
  muxer_pad_index_ : Int32
  frame_num_ : Int32
  class_id_ : Int32
  object_id_ : UInt32
  confidence_ : ℚ
  bbox_top_ : Int32
  bbox_left_ : Int32
  bbox_width_ : Int32
  bbox_height_ : Int32
  embeddings_size_ : UInt32
  embeddings_ : Option ℕ
  roi_ : List String
  ts_nanoseconds_ : UInt64
  deriving DecidableEq

end Raw

/-- A float pointer that is not null: into the memory of the tracker, or into a buffer. -/
inductive FloatAddr
  | tracker (addr : ℕ)
  | buffer (block offset : ℕ)
  deriving DecidableEq

/-- The arguments of the constructor. -/
structure ConstructorArgs where
  camera_id : String
  description : String
  muxer_pad_index : Int32
  frame_num : Int32
  class_id : Int32
  object_id : UInt32
  confidence : ℚ
  bbox_top : Int32
  bbox_left : Int32
  bbox_width : Int32
  bbox_height : Int32
  embeddings_size : UInt32
  embeddings : Option FloatAddr
  roi : List String
  ts_nanoseconds : UInt64
  deriving DecidableEq

/-- What the members of the class work on. -/
structure Memory where
  /-- The memory of the tracker. -/
  tracker : ℕ → ℚ
  /-- The buffers made with `new float[]`. -/
  heap : Heap (List ℚ)
  /-- The live object at each address. -/
  objects : ℕ → Option Raw.ObjInfo

/-- One step of the program, as far as `ObjInfo` is concerned. -/
inductive MemoryLabel
  | construct (this : ℕ) (args : ConstructorArgs)
  | copy (this obj : ℕ)
  | move (this obj : ℕ)
  | destroy (this : ℕ)
  /-- The tracker reuses its memory. -/
  | overwrite (tracker : ℕ → ℚ)

namespace Memory

/-- No buffer and no object. -/
def init (tracker : ℕ → ℚ) : Memory := ⟨tracker, .empty, fun _ => none⟩

/-- The float at an address; a buffer that is not there reads as zeros. -/
def load (m : Memory) : FloatAddr → ℕ → ℚ
  | .tracker addr, i => m.tracker (addr + i)
  | .buffer block offset, i => ((m.heap.read block).getD []).getD (offset + i) 0

/-- What `memcpy` of `size` floats reads. -/
def floats (m : Memory) (addr : FloatAddr) (size : UInt32) : List ℚ :=
  (List.range size.toNat).map (m.load addr)

/-- `new float[size]` and `memcpy` from a pointer that is not null; nothing for a null pointer. -/
def newBuffer (m : Memory) (size : UInt32) : Option FloatAddr → Heap (List ℚ)
  | some addr => m.heap.alloc (m.floats addr size)
  | none => m.heap

/-- The pointer to that buffer. -/
def newPointer (m : Memory) : Option FloatAddr → Option ℕ
  | some _ => some m.heap.fresh
  | none => none

/-- The constructor. -/
def construct (m : Memory) (this : ℕ) (args : ConstructorArgs) : Memory where
  tracker := m.tracker
  heap := m.newBuffer args.embeddings_size args.embeddings
  objects := Function.update m.objects this <| some {
    ts_nanoseconds_ := args.ts_nanoseconds
    camera_id_ := args.camera_id
    description_ := args.description
    muxer_pad_index_ := args.muxer_pad_index
    frame_num_ := args.frame_num
    class_id_ := args.class_id
    object_id_ := args.object_id
    confidence_ := args.confidence
    bbox_top_ := args.bbox_top
    bbox_left_ := args.bbox_left
    bbox_height_ := args.bbox_height
    bbox_width_ := args.bbox_width
    embeddings_size_ := args.embeddings_size
    embeddings_ := m.newPointer args.embeddings
    roi_ := args.roi }

/-- The copy constructor: a buffer of its own with the values of the other. -/
def copy (m : Memory) (this : ℕ) (obj : Raw.ObjInfo) : Memory where
  tracker := m.tracker
  heap := m.newBuffer obj.embeddings_size_ (obj.embeddings_.map (.buffer · 0))
  objects := Function.update m.objects this <| some {
    ts_nanoseconds_ := obj.ts_nanoseconds_
    camera_id_ := obj.camera_id_
    description_ := obj.description_
    muxer_pad_index_ := obj.muxer_pad_index_
    frame_num_ := obj.frame_num_
    class_id_ := obj.class_id_
    object_id_ := obj.object_id_
    confidence_ := obj.confidence_
    bbox_top_ := obj.bbox_top_
    bbox_left_ := obj.bbox_left_
    bbox_height_ := obj.bbox_height_
    bbox_width_ := obj.bbox_width_
    embeddings_size_ := obj.embeddings_size_
    embeddings_ := m.newPointer (obj.embeddings_.map (.buffer · 0))
    roi_ := obj.roi_ }

/-- The move constructor: the buffer of the other, whose pointer becomes null. Nothing else of the
other changes, not even the size. -/
def move (m : Memory) (this src : ℕ) (obj : Raw.ObjInfo) : Memory where
  tracker := m.tracker
  heap := m.heap
  objects := Function.update (Function.update m.objects this <| some {
    ts_nanoseconds_ := obj.ts_nanoseconds_
    camera_id_ := obj.camera_id_
    description_ := obj.description_
    muxer_pad_index_ := obj.muxer_pad_index_
    frame_num_ := obj.frame_num_
    class_id_ := obj.class_id_
    object_id_ := obj.object_id_
    confidence_ := obj.confidence_
    bbox_top_ := obj.bbox_top_
    bbox_left_ := obj.bbox_left_
    bbox_height_ := obj.bbox_height_
    bbox_width_ := obj.bbox_width_
    embeddings_size_ := obj.embeddings_size_
    embeddings_ := obj.embeddings_
    roi_ := obj.roi_ }) src (some { obj with embeddings_ := none })

/-- The destructor: `delete[]` unless the pointer is null. -/
def destroy (m : Memory) (this : ℕ) (obj : Raw.ObjInfo) : Memory where
  tracker := m.tracker
  heap := match obj.embeddings_ with
    | some block => m.heap.free block
    | none => m.heap
  objects := Function.update m.objects this none

/-- One step. An object is made where none lives, from one that lives; only a live one is destroyed.
-/
def next (m : Memory) : MemoryLabel → Option Memory
  | .construct this args => match m.objects this with
    | none => some (m.construct this args)
    | some _ => none
  | .copy this obj => match m.objects this, m.objects obj with
    | none, some other => some (m.copy this other)
    | _, _ => none
  | .move this obj => match m.objects this, m.objects obj with
    | none, some other => some (m.move this obj other)
    | _, _ => none
  | .destroy this => (m.objects this).map (m.destroy this)
  | .overwrite tracker => some { m with tracker := tracker }

/-! ## The objects by value -/

/-- An object with the values behind its pointer. -/
def viewObject (heap : Heap (List ℚ)) (obj : Raw.ObjInfo) : ObjInfo where
  camera_id_ := obj.camera_id_
  description_ := obj.description_
  muxer_pad_index_ := obj.muxer_pad_index_
  frame_num_ := obj.frame_num_
  class_id_ := obj.class_id_
  object_id_ := obj.object_id_
  confidence_ := obj.confidence_
  bbox_top_ := obj.bbox_top_
  bbox_left_ := obj.bbox_left_
  bbox_width_ := obj.bbox_width_
  bbox_height_ := obj.bbox_height_
  embeddings_size_ := obj.embeddings_size_
  embeddings_ := obj.embeddings_.bind heap.read
  roi_ := obj.roi_
  ts_nanoseconds_ := obj.ts_nanoseconds_

/-- What is seen at each address. -/
def view (m : Memory) (this : ℕ) : Option ObjInfo := (m.objects this).map (viewObject m.heap)

/-- The same step on objects by value; `m` is the memory a constructor reads its source from. -/
def nextValues (m : Memory) (values : ℕ → Option ObjInfo) : MemoryLabel → ℕ → Option ObjInfo
  | .construct this args => Function.update values this <| some <|
      ObjInfo.new args.camera_id args.description args.muxer_pad_index args.frame_num args.class_id
        args.object_id args.confidence args.bbox_top args.bbox_left args.bbox_width args.bbox_height
        args.embeddings_size (args.embeddings.map m.load) args.roi args.ts_nanoseconds
  | .copy this obj => Function.update values this (values obj)
  -- the other shows no embedding any more
  | .move this obj => Function.update (Function.update values this (values obj)) obj <|
      (values obj).map fun other => { other with embeddings_ := none }
  | .destroy this => Function.update values this none
  | .overwrite _ => values

/-! ## Owners -/

/-- The pointer of the object at an address; null where none lives. -/
def pointer (m : Memory) (this : ℕ) : Option ℕ := (m.objects this).bind Raw.ObjInfo.embeddings_

/-- Who owns what, and how large the buffers are. -/
structure Inv (m : Memory) : Prop where
  sound : m.heap.Sound
  owned : m.heap.Owned m.pointer
  size : ∀ this obj block, m.objects this = some obj → obj.embeddings_ = some block →
    ∃ values, m.heap.read block = some values ∧ values.length = obj.embeddings_size_.toNat

variable {m m' : Memory} {this : ℕ} {obj : Raw.ObjInfo}

theorem Inv.init (tracker : ℕ → ℚ) : Inv (init tracker) := ⟨.empty, .empty, nofun⟩

/-- Placing an object changes the pointer at its address only. -/
theorem pointer_update (tracker : ℕ → ℚ) (heap : Heap (List ℚ)) (objects : ℕ → Option Raw.ObjInfo)
    (this : ℕ) (o : Option Raw.ObjInfo) :
    pointer ⟨tracker, heap, Function.update objects this o⟩
      = Function.update (pointer ⟨tracker, heap, objects⟩) this
          (o.bind Raw.ObjInfo.embeddings_) := by
  funext i
  by_cases hi : i = this
  · subst hi
    simp [pointer]
  · simp [pointer, hi]

theorem pointer_of_none (h : m.objects this = none) : m.pointer this = none := by
  rw [pointer, h]
  rfl

theorem pointer_of_some (h : m.objects this = some obj) : m.pointer this = obj.embeddings_ := by
  rw [pointer, h]
  rfl

/-- A live pointer is older than the next buffer. -/
theorem Inv.ne_fresh (h : Inv m) {block : ℕ} (hobj : m.objects this = some obj)
    (hblock : obj.embeddings_ = some block) : block ≠ m.heap.fresh := by
  have halloc := h.owned.allocated this block (by rw [pointer_of_some hobj, hblock])
  rintro rfl
  exact m.heap.not_allocated_fresh halloc

/-- A new buffer changes no buffer an object points to. -/
theorem Inv.read_newBuffer (h : Inv m) (size : UInt32) (source : Option FloatAddr) {block : ℕ}
    (hobj : m.objects this = some obj) (hblock : obj.embeddings_ = some block) :
    (m.newBuffer size source).read block = m.heap.read block := by
  cases source with
  | none => rfl
  | some addr => exact Heap.read_alloc_of_ne (h.ne_fresh hobj hblock)

/-- **The two constructors that allocate.** They place an object where none lives, with a buffer of
its own. -/
theorem Inv.make (h : Inv m) (hfree : m.objects this = none) {size : UInt32}
    {source : Option FloatAddr} (hsize : obj.embeddings_size_ = size)
    (hpointer : obj.embeddings_ = m.newPointer source) :
    Inv ⟨m.tracker, m.newBuffer size source, Function.update m.objects this (some obj)⟩ where
  sound := by
    cases source with
    | none => exact h.sound
    | some addr => exact h.sound.alloc _
  owned := by
    rw [pointer_update, Option.bind_some, hpointer]
    cases source with
    | none =>
      -- a null pointer where there was none
      have hnull : Function.update m.pointer this (m.newPointer none) = m.pointer := by
        rw [newPointer, ← pointer_of_none hfree, Function.update_eq_self]
      rw [newBuffer, hnull]
      exact h.owned
    | some addr => exact h.owned.alloc (pointer_of_none hfree) _
  size := by
    intro i o block hi hblock
    by_cases hthis : i = this
    · subst hthis
      obtain rfl : obj = o := by simpa using hi
      rw [hpointer] at hblock
      cases source with
      | none => cases hblock
      | some addr =>
        cases hblock
        exact ⟨_, Heap.read_alloc_fresh _ _, by simp [floats, hsize]⟩
    · have hi' : m.objects i = some o := by simpa [hthis] using hi
      rw [h.read_newBuffer _ _ hi' hblock]
      exact h.size i o block hi' hblock

/-- **The move constructor** hands the pointer over. -/
theorem Inv.move {src : ℕ} (h : Inv m) (hfree : m.objects this = none)
    (hobj : m.objects src = some obj) : Inv (m.move this src obj) := by
  have hne : src ≠ this := by
    rintro rfl
    rw [hfree] at hobj
    cases hobj
  have hpointer : (m.move this src obj).pointer
      = Function.update (Function.update m.pointer this (m.pointer src)) src none := by
    rw [Memory.move, pointer_update, pointer_update, pointer_of_some hobj]
    rfl
  refine ⟨h.sound, ?_, ?_⟩
  · rw [hpointer]
    exact h.owned.move (pointer_of_none hfree) hne
  · intro i o block hi hblock
    have hi' : Function.update (Function.update m.objects this (some obj)) src
        (some { obj with embeddings_ := none }) i = some o := hi
    -- the moved-from object points to nothing, the new one to the buffer it had
    by_cases hfrom : i = src
    · subst hfrom
      rw [Function.update_self] at hi'
      cases hi'
      cases hblock
    · rw [Function.update_of_ne hfrom] at hi'
      by_cases hthis : i = this
      · subst hthis
        rw [Function.update_self] at hi'
        cases hi'
        exact h.size src obj block hobj hblock
      · rw [Function.update_of_ne hthis] at hi'
        exact h.size i o block hi' hblock

/-- The buffer a destructor frees is nobody else's. -/
theorem Inv.read_destroy (h : Inv m) (hobj : m.objects this = some obj) {i block : ℕ}
    {o : Raw.ObjInfo} (hi : m.objects i = some o) (hne : i ≠ this)
    (hblock : o.embeddings_ = some block) :
    (m.destroy this obj).heap.read block = m.heap.read block := by
  unfold destroy
  cases hembeddings : obj.embeddings_ with
  | none => rfl
  | some freed =>
    refine Heap.read_free_of_ne ?_
    rintro rfl
    refine hne (h.owned.unique i this block ?_ ?_)
    · rw [pointer_of_some hi, hblock]
    · rw [pointer_of_some hobj, hembeddings]

/-- **The destructor** frees the buffer the object owns, if it owns one. -/
theorem Inv.destroy (h : Inv m) (hobj : m.objects this = some obj) : Inv (m.destroy this obj) where
  sound := by
    unfold Memory.destroy
    cases hembeddings : obj.embeddings_ with
    | none => exact h.sound
    | some block =>
      exact h.sound.free (h.owned.allocated this block (by rw [pointer_of_some hobj, hembeddings]))
  owned := by
    have hpointer : (m.destroy this obj).pointer = Function.update m.pointer this none :=
      pointer_update _ _ _ _ _
    rw [hpointer]
    unfold Memory.destroy
    cases hembeddings : obj.embeddings_ with
    | none =>
      have hnull : Function.update m.pointer this none = m.pointer := by
        rw [← hembeddings, ← pointer_of_some hobj, Function.update_eq_self]
      rw [hnull]
      exact h.owned
    | some block => exact h.owned.free (by rw [pointer_of_some hobj, hembeddings])
  size := by
    intro i o block hi hblock
    have hi' : Function.update m.objects this none i = some o := hi
    by_cases hthis : i = this
    · subst hthis
      rw [Function.update_self] at hi'
      cases hi'
    · rw [Function.update_of_ne hthis] at hi'
      rw [h.read_destroy hobj hi' hthis hblock]
      exact h.size i o block hi' hblock

/-! ## Every step -/

/-- What one step can do. -/
inductive Moves (m : Memory) : MemoryLabel → Memory → Prop
  | construct {this : ℕ} {args : ConstructorArgs} (hfree : m.objects this = none) :
      Moves m (.construct this args) (m.construct this args)
  | copy {this src : ℕ} {obj : Raw.ObjInfo} (hfree : m.objects this = none)
      (hobj : m.objects src = some obj) : Moves m (.copy this src) (m.copy this obj)
  | move {this src : ℕ} {obj : Raw.ObjInfo} (hfree : m.objects this = none)
      (hobj : m.objects src = some obj) : Moves m (.move this src) (m.move this src obj)
  | destroy {this : ℕ} {obj : Raw.ObjInfo} (hobj : m.objects this = some obj) :
      Moves m (.destroy this) (m.destroy this obj)
  | overwrite {tracker : ℕ → ℚ} : Moves m (.overwrite tracker) { m with tracker := tracker }

theorem moves_of_next {l : MemoryLabel} (h : m.next l = some m') : Moves m l m' := by
  cases l with
  | construct this args =>
    simp only [next] at h
    split at h <;> cases h
    exact .construct ‹_›
  | copy this src =>
    simp only [next] at h
    split at h <;> cases h
    exact .copy ‹_› ‹_›
  | move this src =>
    simp only [next] at h
    split at h <;> cases h
    exact .move ‹_› ‹_›
  | destroy this =>
    obtain ⟨obj, hobj, rfl⟩ := Option.map_eq_some_iff.mp h
    exact .destroy hobj
  | overwrite tracker =>
    cases h
    exact .overwrite

/-- **Every step keeps the buffers owned.** -/
theorem Inv.moves {l : MemoryLabel} (h : Inv m) (hmoves : Moves m l m') : Inv m' := by
  cases hmoves with
  | construct hfree => exact h.make hfree rfl rfl
  | copy hfree hobj => exact h.make hfree rfl rfl
  | move hfree hobj => exact h.move hfree hobj
  | destroy hobj => exact h.destroy hobj
  | overwrite => exact ⟨h.sound, h.owned, h.size⟩

/-! ## What is seen -/

/-- Only the buffer behind the pointer matters. -/
theorem viewObject_congr {heap heap' : Heap (List ℚ)}
    (h : ∀ block, obj.embeddings_ = some block → heap'.read block = heap.read block) :
    viewObject heap' obj = viewObject heap obj := by
  unfold viewObject
  cases hembeddings : obj.embeddings_ with
  | none => rfl
  | some block =>
    simp only [Option.bind_some, h block hembeddings]

/-- A whole buffer is copied. -/
theorem floats_buffer {block : ℕ} {values : List ℚ} {size : UInt32}
    (hread : m.heap.read block = some values) (hsize : values.length = size.toNat) :
    m.floats (.buffer block 0) size = values := by
  refine List.ext_getElem (by rw [floats, List.length_map, List.length_range, hsize]) ?_
  intro i hi hi'
  simp [floats, load, hread, hi']

/-- **Placing an object** where the buffers of the others are kept: it is seen at its address, and
elsewhere nothing changes. -/
theorem view_update (objects : ℕ → Option Raw.ObjInfo) {tracker : ℕ → ℚ} {heap : Heap (List ℚ)}
    (this : ℕ) (o : Option Raw.ObjInfo)
    (hread : ∀ i other block, i ≠ this → objects i = some other →
      other.embeddings_ = some block → heap.read block = m.heap.read block) :
    view ⟨tracker, heap, Function.update objects this o⟩
      = Function.update (fun i => (objects i).map (viewObject m.heap)) this
          (o.map (viewObject heap)) := by
  funext i
  by_cases hi : i = this
  · subst hi
    simp [view]
  · rw [Function.update_of_ne hi]
    show (Function.update objects this o i).map (viewObject heap) = _
    rw [Function.update_of_ne hi]
    cases hobj : objects i with
    | none => rfl
    | some other =>
      exact congrArg some (viewObject_congr fun block hblock => hread i other block hi hobj hblock)

/-- The buffer made from a source holds what the source shows. -/
theorem bind_newPointer (size : UInt32) (source : Option FloatAddr) :
    (m.newPointer source).bind (m.newBuffer size source).read
      = source.map fun addr => m.floats addr size := by
  cases source with
  | none => rfl
  | some addr => exact Heap.read_alloc_fresh _ _

/-- **Refinement**: a step on the memory is the step on the objects by value. -/
theorem view_next {l : MemoryLabel} (h : Inv m) (hmoves : Moves m l m') :
    m'.view = nextValues m m.view l := by
  cases hmoves with
  | @construct this args hfree =>
    rw [construct, view_update (m := m) _ _ _ fun i other block _ hi hblock =>
      h.read_newBuffer _ _ hi hblock]
    refine congrArg (Function.update m.view this) (congrArg some ?_)
    simp only [viewObject, bind_newPointer, ObjInfo.new, Option.map_map]
    rfl
  | @copy this src obj hfree hobj =>
    rw [copy, view_update (m := m) _ _ _ fun i other block _ hi hblock =>
      h.read_newBuffer _ _ hi hblock]
    refine congrArg (Function.update m.view this) ?_
    -- the copy has all the fields of the other, and its floats in a buffer of its own
    have hvalues : (obj.embeddings_.map fun block => FloatAddr.buffer block 0).map
        (fun addr => m.floats addr obj.embeddings_size_) = obj.embeddings_.bind m.heap.read := by
      cases hblock : obj.embeddings_ with
      | none => rfl
      | some block =>
        obtain ⟨values, hread, hsize⟩ := h.size src obj block hobj hblock
        rw [Option.map_some, Option.map_some, floats_buffer hread hsize, Option.bind_some, hread]
    rw [view, hobj, Option.map_some, Option.map_some, viewObject, viewObject]
    simp only [bind_newPointer, hvalues]
  | @move this src obj hfree hobj =>
    have hother : m.view src = some (viewObject m.heap obj) := by rw [view, hobj, Option.map_some]
    -- the new object is seen as the other was, and the other without its embedding
    have hnew : view ⟨m.tracker, m.heap, Function.update m.objects this (some obj)⟩
        = Function.update m.view this (m.view src) := by
      rw [view_update (m := m) _ _ _ fun _ _ _ _ _ _ => rfl, hother]
      rfl
    rw [nextValues, ← hnew, hother]
    exact view_update (m := m) _ _ _ fun _ _ _ _ _ _ => rfl
  | @destroy this obj hobj =>
    exact view_update (m := m) _ _ _ fun i other block hne hi hblock =>
      h.read_destroy hobj hi hne hblock
  | overwrite => rfl

end Memory

/-- The memory, and what each object shows if it has kept what its origin showed when it was made.
-/
structure Traced where
  memory : Memory
  origin : ℕ → Option ObjInfo

namespace Traced

/-- No object. -/
def init (tracker : ℕ → ℚ) : Traced := ⟨.init tracker, fun _ => none⟩

/-- One step. -/
def next (s : Traced) (l : MemoryLabel) : Option Traced :=
  (s.memory.next l).map fun memory => ⟨memory, s.memory.nextValues s.origin l⟩

/-- Along every run the buffers are owned and the objects show what their origins showed. -/
theorem inv_of_reachable {tracker : ℕ → ℚ} {s : Traced} (h : Reachable next (init tracker) s) :
    s.memory.Inv ∧ s.memory.view = s.origin := by
  refine h.invariant (P := fun s => s.memory.Inv ∧ s.memory.view = s.origin)
    ⟨Memory.Inv.init tracker, rfl⟩ ?_
  rintro s l s' ⟨hinv, hview⟩ - hnext
  obtain ⟨memory, hmemory, rfl⟩ := Option.map_eq_some_iff.mp hnext
  have hmoves := Memory.moves_of_next hmemory
  refine ⟨hinv.moves hmoves, ?_⟩
  show memory.view = s.memory.nextValues s.origin l
  rw [Memory.view_next hinv hmoves, hview]

end Traced

/-- **`ObjInfo` owns its embedding.** After every sequence of constructions from any pointer,
copies, moves, destructions (moved-from objects included) and overwrites of the tracker's memory:
every allocated buffer is pointed to by exactly one live object, no buffer was freed twice, none is
left once no object lives, and every object shows the values its origin showed when it was made. -/
theorem obj_info_owns_embedding {tracker : ℕ → ℚ} {s : Traced}
    (h : Reachable Traced.next (Traced.init tracker) s) :
    (∀ block, s.memory.heap.Allocated block → ∃! this, ∃ obj, s.memory.objects this = some obj ∧
        obj.embeddings_ = some block) ∧
      s.memory.heap.freed.Nodup ∧
      ((∀ this, s.memory.objects this = none) → ∀ block, ¬ s.memory.heap.Allocated block) ∧
      ∀ this, s.memory.view this = s.origin this := by
  obtain ⟨hinv, hview⟩ := Traced.inv_of_reachable h
  refine ⟨fun block hblock => ?_, hinv.sound.nodup, fun hnone block => ?_, congrFun hview⟩
  · simpa only [Memory.pointer, Option.bind_eq_some_iff] using hinv.owned.existsUnique hblock
  · exact hinv.owned.not_allocated fun this => Memory.pointer_of_none (hnone this)

/-- An object made from the tracker's memory is moved, the new one copied, the moved-from one
destroyed, and the memory overwritten: the copy still shows the first values. -/
theorem obj_info_owns_embedding_copy :
    ∃ s, Reachable Traced.next (Traced.init fun _ => 1) s ∧ s.memory.tracker 0 = 0 ∧
      (s.memory.view 2).bind ObjInfo.embeddings_ = some [1, 1] := by
  have hexec : exec Traced.next (Traced.init fun _ => 1)
      [.construct 0 ⟨"entrance", "", 0, 30, 0, 7, 0, 0, 0, 0, 0, 2, some (.tracker 0), [], 0⟩,
        .move 1 0, .copy 2 1, .destroy 0, .overwrite fun _ => 0] = some _ := rfl
  have hreach := reachable_of_exec hexec
  refine ⟨_, hreach, rfl, ?_⟩
  rw [(obj_info_owns_embedding hreach).2.2.2 2]
  rfl

end DemoColombia.Perception
