import DemoColombia.DataStructures.Json
import Mathlib.Data.List.TakeWhile

/-! # What the perception side queues and publishes (`ObjInfo.hpp`, `set_mqtt_message`)

The record of one detection, its constructor, and the JSON tree it is published as. The fields have
the widths of the source, so the conversions at the constructor call are visible: a guint pad index
becomes an int, the tracker's 64-bit id an unsigned int. Floats and doubles are rationals: no record
here has a NaN or an infinity, on whose text `json.loads` would raise. -/

namespace DemoColombia.Perception

/-- The text a C string function sees: everything before the first NUL. -/
def c_str (s : String) : String := String.ofList (s.toList.takeWhile (· ≠ '\x00'))

/-- A C string is the whole text iff no NUL ends it early. -/
theorem c_str_eq_self {s : String} : c_str s = s ↔ '\x00' ∉ s.toList := by
  rw [c_str, ← String.toList_inj, String.toList_ofList, List.takeWhile_eq_self_iff]
  constructor
  · intro h hmem
    simpa using h _ hmem
  · intro h c hc
    have hne : c ≠ '\x00' := fun heq => h (heq ▸ hc)
    simpa using hne

/-- A float buffer read through a pointer: the values from its address on. -/
abbrev FloatPtr := ℕ → ℚ

/-- `g2f::ObjInfo`. `embeddings_` is the buffer the object owns, `none` for a null pointer. -/
structure ObjInfo where
  camera_id_ : String
  description_ : String
  muxer_pad_index_ : Int32
  frame_num_ : Int32
  class_id_ : Int32
  object_id_ : UInt32
  confidence_ : ℚ
  bbox_top_ : Int32
  bbox_left_ : Int32
  bbox_width_ : Int32
  bbox_height_ : Int32
  embeddings_size_ : UInt32
  embeddings_ : Option (List ℚ)
  roi_ : List String
  ts_nanoseconds_ : UInt64
  deriving DecidableEq

/-- The constructor of `g2f::ObjInfo`: it copies `embeddings_size` values when the pointer is not
null. -/
def ObjInfo.new (camera_id description : String) (muxer_pad_index frame_num class_id : Int32)
    (object_id : UInt32) (confidence : ℚ) (bbox_top bbox_left bbox_width bbox_height : Int32)
    (embeddings_size : UInt32) (embeddings : Option FloatPtr) (roi : List String)
    (ts_nanoseconds : UInt64) : ObjInfo where
  camera_id_ := camera_id
  description_ := description
  muxer_pad_index_ := muxer_pad_index
  frame_num_ := frame_num
  class_id_ := class_id
  object_id_ := object_id
  confidence_ := confidence
  bbox_top_ := bbox_top
  bbox_left_ := bbox_left
  bbox_width_ := bbox_width
  bbox_height_ := bbox_height
  embeddings_size_ := embeddings_size
  embeddings_ := embeddings.map fun values => (List.range embeddings_size.toNat).map values
  roi_ := roi
  ts_nanoseconds_ := ts_nanoseconds

/-- A detection in the ROIs `roi`, for concrete runs. -/
def ObjInfo.sample (object_id : UInt32) (roi : List String) : ObjInfo :=
  ObjInfo.new "entrance" "" 0 30 0 object_id (1 / 2) 0 0 8 16 0 none roi 0

/-- A `cv::Mat` header: the address of the pixels it was built over, none when it is empty. Every
copy of a header refers to the same pixels. -/
structure Mat where
  data : Option ℕ
  deriving DecidableEq

/-- `g2f::FrameInfo`; its constructors copy the header of the frame. -/
structure FrameInfo where
  ts_nanoseconds_ : UInt64
  camera_id_ : String
  frame_num_ : Int32
  frame_ : Mat
  deriving DecidableEq

/-- The members `set_mqtt_message` gives the message object, in order. -/
def messageMembers (obj_info : ObjInfo) : List (String × Json) :=
  [("version", .string "1.0"),
    ("type", .string "global_reid"),
    ("@timestamp", .int obj_info.ts_nanoseconds_.toInt64.toInt),
    ("camera_id", .string (c_str obj_info.camera_id_)),
    ("pad_index", .int obj_info.muxer_pad_index_.toInt),
    ("description", .string (c_str obj_info.description_)),
    ("class_id", .int obj_info.class_id_.toInt),
    ("object_id", .int obj_info.object_id_.toNat),
    ("frame_num", .int obj_info.frame_num_.toInt),
    ("confidence", .double obj_info.confidence_),
    ("bbox_top", .int obj_info.bbox_top_.toInt),
    ("bbox_left", .int obj_info.bbox_left_.toInt),
    ("bbox_width", .int obj_info.bbox_width_.toInt),
    ("bbox_height", .int obj_info.bbox_height_.toInt),
    ("embeddings", .array ((obj_info.embeddings_.getD []).map .double)),
    ("roi", .array (obj_info.roi_.map fun roi => .string (c_str roi)))]

/-- `set_mqtt_message` up to the printing of the tree. -/
def set_mqtt_message (obj_info : ObjInfo) : Json := .object (messageMembers obj_info)

/-- **The message object is flat**, whatever the detection. -/
theorem flatObject_messageMembers (obj_info : ObjInfo) :
    Json.FlatObject (messageMembers obj_info) where
  nodup := by
    have hkeys : (messageMembers obj_info).map Prod.fst
        = ["version", "type", "@timestamp", "camera_id", "pad_index", "description", "class_id",
          "object_id", "frame_num", "confidence", "bbox_top", "bbox_left", "bbox_width",
          "bbox_height", "embeddings", "roi"] := rfl
    rw [hkeys]
    decide
  flat := by
    simp only [messageMembers, List.forall_mem_cons, List.not_mem_nil, false_implies, implies_true,
      and_true]
    refine ⟨.inl trivial, .inl trivial, .inl trivial, .inl trivial, .inl trivial, .inl trivial,
      .inl trivial, .inl trivial, .inl trivial, .inl trivial, .inl trivial, .inl trivial,
      .inl trivial, .inl trivial, .inr ⟨_, rfl, ?_⟩, .inr ⟨_, rfl, ?_⟩⟩
    · intro e he
      obtain ⟨x, -, rfl⟩ := List.mem_map.mp he
      trivial
    · intro e he
      obtain ⟨roi, -, rfl⟩ := List.mem_map.mp he
      trivial

/-- The message carries the camera id up to its first NUL. -/
theorem member?_camera_id (obj_info : ObjInfo) :
    (set_mqtt_message obj_info).member? "camera_id" = some (.string (c_str obj_info.camera_id_)) :=
  Json.member?_of_mem (flatObject_messageMembers obj_info).nodup (by simp [messageMembers])

/-- The message carries the frame number as an integer. -/
theorem member?_frame_num (obj_info : ObjInfo) :
    (set_mqtt_message obj_info).member? "frame_num" = some (.int obj_info.frame_num_.toInt) :=
  Json.member?_of_mem (flatObject_messageMembers obj_info).nodup (by simp [messageMembers])

/-- The message carries the timestamp as a signed integer. -/
theorem member?_timestamp (obj_info : ObjInfo) :
    (set_mqtt_message obj_info).member? "@timestamp"
      = some (.int obj_info.ts_nanoseconds_.toInt64.toInt) :=
  Json.member?_of_mem (flatObject_messageMembers obj_info).nodup (by simp [messageMembers])

/-- The message carries the object id as an integer. -/
theorem member?_object_id (obj_info : ObjInfo) :
    (set_mqtt_message obj_info).member? "object_id" = some (.int obj_info.object_id_.toNat) :=
  Json.member?_of_mem (flatObject_messageMembers obj_info).nodup (by simp [messageMembers])

end DemoColombia.Perception
