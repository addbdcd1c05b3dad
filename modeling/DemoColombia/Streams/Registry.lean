import DemoColombia.DataStructures.Printf
import DemoColombia.Perception.ObjInfo
import Mathlib.Logic.Function.Basic

/-! # The registry of the streams (`Pipeline.hpp`, `Pipeline.cpp`)

`streams_` records what is known about each source, `pipeline_` contains the source bins and
`streammux_` holds one request pad for each of them. `add_source` and `delete_source` change all
three; the results of the GStreamer calls they make are parameters (`GstResults`).

The source bins of `pipeline_` and the request pads of `streammux_` are kept by pad. A slot of
`streams_` that `add_source` never wrote holds indeterminate values in the source; here it is
`none`. The int counters are integers without overflow, which needs 2³¹ frames between two ticks. -/

namespace DemoColombia.Streams

open Perception (c_str)

/-! ## Data -/

/-- `StreamResetStates`. -/
inductive StreamResetStates
  | NONE
  | CHANGE_STATE_TO_NULL
  | CHECK_FOR_STATE_NULL
  | INITIALITING
  | READY
  | DELETE_STREAM
  | WAITING
  | ADD_STREAM
  deriving DecidableEq

/-- The element of a source bin that reads the uri; only `nvurisrcbin` is given a `source-id`. -/
inductive UriDecodeBin
  | nvurisrcbin (source_id : ℕ)
  | uridecodebin
  deriving DecidableEq

/-- A source bin. The address is its identity: two bins may share everything else. -/
structure SourceBin where
  address : ℕ
  name : List UInt8
  uri : String
  uri_decode_bin : UriDecodeBin
  deriving DecidableEq

/-- `StreamSourceInfo`; a null `source_bin` is `none`. -/
structure StreamSourceInfo where
  uri : String
  camera_id : String
  pad_index : ℕ
  description : String
  frameCount : ℤ
  noFrameCount : ℤ
  source_bin : Option SourceBin
  reset : StreamResetStates
  deriving DecidableEq

/-- The array `streams_`. A slot that has been written holds its own index as `pad_index`. -/
@[ext] structure StreamArray where
  slot : ℕ → Option StreamSourceInfo
  pad_index_eq : ∀ i stream, slot i = some stream → stream.pad_index = i

namespace StreamArray

/-- No slot written. -/
def empty : StreamArray := ⟨fun _ => none, nofun⟩

/-- Write the slot of `stream`. -/
def write (streams : StreamArray) (stream : StreamSourceInfo) : StreamArray where
  slot := Function.update streams.slot stream.pad_index (some stream)
  pad_index_eq i s h := by
    rcases eq_or_ne i stream.pad_index with rfl | hi
    · rw [Function.update_self] at h
      rw [← Option.some.inj h]
    · rw [Function.update_of_ne hi] at h
      exact streams.pad_index_eq i s h

/-- Assign fields other than `pad_index` of a slot. -/
def modify (streams : StreamArray) (i : ℕ) (f : StreamSourceInfo → StreamSourceInfo)
    (hf : ∀ s, (f s).pad_index = s.pad_index := by intro s; rfl) : StreamArray where
  slot := Function.update streams.slot i ((streams.slot i).map f)
  pad_index_eq j s h := by
    rcases eq_or_ne j i with rfl | hj
    · rw [Function.update_self] at h
      obtain ⟨stream, hstream, rfl⟩ := Option.map_eq_some_iff.mp h
      rw [hf, streams.pad_index_eq j stream hstream]
    · rw [Function.update_of_ne hj] at h
      exact streams.pad_index_eq j s h

@[simp] theorem empty_slot (i : ℕ) : empty.slot i = none := rfl

@[simp] theorem write_slot_self (streams : StreamArray) (stream : StreamSourceInfo) :
    (streams.write stream).slot stream.pad_index = some stream :=
  Function.update_self _ _ _

theorem write_slot_of_ne (streams : StreamArray) {stream : StreamSourceInfo} {j : ℕ}
    (hj : j ≠ stream.pad_index) : (streams.write stream).slot j = streams.slot j :=
  Function.update_of_ne hj _ _

@[simp] theorem modify_slot_self (streams : StreamArray) (i : ℕ)
    (f : StreamSourceInfo → StreamSourceInfo) (hf) :
    (streams.modify i f hf).slot i = (streams.slot i).map f :=
  Function.update_self _ _ _

theorem modify_slot_of_ne (streams : StreamArray) {i j : ℕ} (hj : j ≠ i)
    (f : StreamSourceInfo → StreamSourceInfo) (hf) :
    (streams.modify i f hf).slot j = streams.slot j :=
  Function.update_of_ne hj _ _

end StreamArray

/-- The calls the tick loop makes. -/
inductive SourceCall
  | delete_source
  | add_source
  deriving DecidableEq

/-- What one tick of `check_performance` did for a stream: the frames it had counted, the call it
made, and the slot when it was done. -/
structure TickRecord where
  frames : ℤ
  call : Option SourceCall
  after : StreamSourceInfo
  deriving DecidableEq

/-- `Pipeline`. The log is no part of the source: it keeps what every tick did for each stream. -/
structure Pipeline where
  num_sources_ : ℕ
  streams_ : StreamArray
  /-- The source bins in `pipeline_`, by the pad they were made for. -/
  bins : ℕ → List SourceBin
  /-- Whether `streammux_` has the request pad `sink_<i>`. -/
  sinks : ℕ → Bool
  log : ℕ → List TickRecord

/-- `GstStateChangeReturn`. -/
inductive GstStateChangeReturn
  | FAILURE
  | SUCCESS
  | ASYNC
  | NO_PREROLL
  deriving DecidableEq

/-- The results of the GStreamer calls that one call of `add_source` or `delete_source` makes. -/
structure GstResults where
  /-- `create_source_bin` gets its elements and its ghost pad. -/
  create : Bool
  /-- `gst_bin_add` accepts the bin. -/
  bin_add : Bool
  /-- `gst_element_request_pad_simple` returns a pad of the muxer. -/
  request_pad : Bool
  /-- `gst_pad_link` returns `GST_PAD_LINK_OK`. -/
  pad_link : Bool
  /-- The result of `gst_element_set_state`. -/
  set_state : GstStateChangeReturn
  /-- An asynchronous change to PLAYING comes to an end, so that `gst_element_get_state`, which has
  no time limit, returns. -/
  settles : Bool
  deriving DecidableEq

/-! ## Operations -/

/-- The name of a source bin: `source-bin-%02d` in a buffer of fifteen bytes. -/
def source_bin_name (index : ℕ) : List UInt8 :=
  g_snprintf 15 ("source-bin-" ++ zeroPadded 2 index)

/-- The bin `create_source_bin` builds for the source `index`. -/
def SourceBin.new (address index : ℕ) (uri : String) (use_nvurisrcbin : Bool) : SourceBin where
  address := address
  name := source_bin_name index
  uri := c_str uri
  uri_decode_bin := if use_nvurisrcbin then .nvurisrcbin index else .uridecodebin

/-- `create_source_bin`: the bin, allocated at `address`, or NULL. -/
def create_source_bin (gst : GstResults) (address index : ℕ) (uri : String)
    (use_nvurisrcbin : Bool) : Option SourceBin :=
  if gst.create then some (.new address index uri use_nvurisrcbin) else none

/-- The parameters `add_source` saves for a stream. -/
def StreamSourceInfo.new (uri camera_id : String) (pad_index : ℕ) (description : String)
    (source_bin : SourceBin) : StreamSourceInfo where
  uri := uri
  camera_id := camera_id
  pad_index := pad_index
  description := description
  frameCount := 0
  noFrameCount := 0
  source_bin := some source_bin
  reset := .NONE

/-- An address that none of `used` occupies. -/
def freshAddress (used : List ℕ) : ℕ := used.foldr max 0 + 1

namespace Pipeline

/-- `Pipeline::Pipeline`. -/
def new : Pipeline := ⟨0, .empty, fun _ => [], fun _ => false, fun _ => []⟩

/-- The addresses of the source bins that were made for pad `i` and can still be reached. -/
def addresses (p : Pipeline) (i : ℕ) : List ℕ :=
  (((p.streams_.slot i).bind StreamSourceInfo.source_bin).toList ++ p.bins i).map SourceBin.address

/-- `gst_bin_add` on `pipeline_`; a refused bin is left out, and the caller does not ask. -/
def gst_bin_add (gst : GstResults) (i : ℕ) (source_bin : SourceBin) (p : Pipeline) : Pipeline :=
  if gst.bin_add then { p with bins := Function.update p.bins i (p.bins i ++ [source_bin]) } else p

/-- `connect_muxer_src_pads`: the pad that was requested is not given back when the link fails. -/
def connect_muxer_src_pads (gst : GstResults) (pad_index : ℕ) (p : Pipeline) : Pipeline × Bool :=
  if gst.request_pad then
    ({ p with sinks := Function.update p.sinks pad_index true }, gst.pad_link)
  else (p, false)

/-- `Pipeline::add_source`. -/
def add_source (gst : GstResults) (uri camera_id : String) (pad_index : ℕ) (description : String)
    (use_nvurisrcbin readding : Bool) (p : Pipeline) : Pipeline :=
  match create_source_bin gst (freshAddress (p.addresses pad_index))
      (if readding then pad_index else p.num_sources_) uri use_nvurisrcbin with
  | none => p
  | some source_bin =>
    let p := { p with
      streams_ := p.streams_.write (.new uri camera_id pad_index description source_bin) }
    let p := p.gst_bin_add gst pad_index source_bin
    let (p, connected) := p.connect_muxer_src_pads gst pad_index
    if !connected then p
    -- a re-added source is set to PLAYING, whatever comes of it
    else if readding then p
    else { p with num_sources_ := p.num_sources_ + 1 }

/-- `Pipeline::delete_source`, on a copy of the record. -/
def delete_source (gst : GstResults) (stream : StreamSourceInfo) (p : Pipeline) : Pipeline :=
  match gst.set_state with
  | .SUCCESS | .ASYNC =>
    { p with
      sinks := Function.update p.sinks stream.pad_index false
      bins := Function.update p.bins stream.pad_index
        ((p.bins stream.pad_index).filter fun b => some b ≠ stream.source_bin) }
  | .FAILURE | .NO_PREROLL => p

/-! ## What `add_source` does -/

section AddSource

variable (p : Pipeline) {gst : GstResults} (uri camera_id : String) (pad_index : ℕ)
  (description : String) (use_nvurisrcbin readding : Bool)

/-- The bin `add_source` makes. -/
def newSourceBin : SourceBin :=
  .new (freshAddress (p.addresses pad_index)) (if readding then pad_index else p.num_sources_) uri
    use_nvurisrcbin

/-- Without a source bin nothing happens. -/
theorem add_source_of_not_create (h : gst.create = false) :
    p.add_source gst uri camera_id pad_index description use_nvurisrcbin readding = p := by
  simp [add_source, create_source_bin, h]

/-- With one, the slot is written at once, and each later call changes what it changes by itself. -/
theorem add_source_of_create (h : gst.create = true) :
    p.add_source gst uri camera_id pad_index description use_nvurisrcbin readding =
      let source_bin := p.newSourceBin uri pad_index use_nvurisrcbin readding
      { num_sources_ := if gst.request_pad && gst.pad_link && !readding then p.num_sources_ + 1
          else p.num_sources_
        streams_ := p.streams_.write (.new uri camera_id pad_index description source_bin)
        bins := if gst.bin_add then
            Function.update p.bins pad_index (p.bins pad_index ++ [source_bin])
          else p.bins
        sinks := if gst.request_pad then Function.update p.sinks pad_index true else p.sinks
        log := p.log } := by
  simp only [add_source, create_source_bin, if_pos h, gst_bin_add, connect_muxer_src_pads,
    newSourceBin]
  -- the bin added or not, the pad requested or not, linked or not
  cases gst.bin_add <;> cases gst.request_pad <;> cases gst.pad_link <;> cases readding <;> rfl

end AddSource

end Pipeline

/-! ## A failed `add_source` -/

/-- One of the calls that `add_source` makes before it counts the source fails. -/
def GstResults.AddFails (gst : GstResults) : Prop :=
  gst.create = false ∨ gst.bin_add = false ∨ gst.request_pad = false ∨ gst.pad_link = false

/-- The registry and the bins in the pipeline are the same. -/
def Pipeline.SameRegistry (p q : Pipeline) : Prop :=
  p.num_sources_ = q.num_sources_ ∧ p.streams_ = q.streams_ ∧ p.bins = q.bins

theorem freshAddress_notMem (used : List ℕ) : freshAddress used ∉ used := by
  intro hmem
  have hle : ∀ (l : List ℕ), ∀ a ∈ l, a ≤ l.foldr max 0 := by
    intro l
    induction l with
    | nil => exact fun _ ha => absurd ha (List.not_mem_nil)
    | cons b l ih =>
      intro a ha
      rcases List.mem_cons.mp ha with rfl | ha
      · exact le_max_left _ _
      · exact (ih a ha).trans (le_max_right _ _)
  have hself := hle used _ hmem
  unfold freshAddress at hself
  omega

/-- A new bin is not the one the slot holds. -/
theorem Pipeline.source_bin_ne_newSourceBin (p : Pipeline) (uri : String) (pad_index : ℕ)
    (use_nvurisrcbin readding : Bool) {stream : StreamSourceInfo}
    (h : p.streams_.slot pad_index = some stream) :
    stream.source_bin ≠ some (p.newSourceBin uri pad_index use_nvurisrcbin readding) := by
  intro hbin
  have hmem : freshAddress (p.addresses pad_index) ∈ p.addresses pad_index := by
    refine List.mem_map.mpr ⟨p.newSourceBin uri pad_index use_nvurisrcbin readding, ?_, rfl⟩
    simp [h, hbin]
  exact freshAddress_notMem _ hmem

/-- **`add_source` changes nothing iff `create_source_bin` fails.** For every registry, all
parameters, a first add and a re-add, and all results of the GStreamer calls: in particular, of the
ways in which the call can fail only the first one leaves no trace. -/
theorem add_source_unchanged_iff (p : Pipeline) (gst : GstResults) (uri camera_id : String)
    (pad_index : ℕ) (description : String) (use_nvurisrcbin readding : Bool) :
    (p.add_source gst uri camera_id pad_index description use_nvurisrcbin readding).SameRegistry p ↔
      gst.create = false := by
  constructor
  · rintro ⟨-, hstreams, -⟩
    by_contra hcreate
    have hcreate : gst.create = true := by simpa using hcreate
    rw [Pipeline.add_source_of_create _ _ _ _ _ _ _ hcreate] at hstreams
    have hslot := congrFun (congrArg StreamArray.slot hstreams) pad_index
    have hwrite := p.streams_.write_slot_self (.new uri camera_id pad_index description
      (p.newSourceBin uri pad_index use_nvurisrcbin readding))
    exact p.source_bin_ne_newSourceBin uri pad_index use_nvurisrcbin readding
      (hslot.symm.trans hwrite) rfl
  · intro hcreate
    rw [Pipeline.add_source_of_not_create _ _ _ _ _ _ _ hcreate]
    exact ⟨rfl, rfl, rfl⟩

/-- A first add whose pad link fails: the bin stays in the pipeline. -/
theorem failed_link_leaves_bin :
    ¬ ∀ (p : Pipeline) (gst : GstResults) (uri camera_id : String) (pad_index : ℕ)
      (description : String) (use_nvurisrcbin readding : Bool), gst.AddFails →
        (p.add_source gst uri camera_id pad_index description use_nvurisrcbin
          readding).SameRegistry p := by
  intro hall
  obtain ⟨-, -, hbins⟩ := hall Pipeline.new ⟨true, true, true, false, .SUCCESS, true⟩
    "rtsp://camera" "camera" 0 "" true false (.inr (.inr (.inr rfl)))
  have hlength := congrArg List.length (congrFun hbins 0)
  revert hlength
  decide

end DemoColombia.Streams
