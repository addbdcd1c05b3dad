import DemoColombia.Streams.Registry
import DemoColombia.TransitionSystems.Components
import DemoColombia.TransitionSystems.Runs

/-! # The tick of the stream monitor (`check_performance`)

Once a second `check_performance` looks at every stream, counts the ticks without frames and takes
a stream that stays silent through a reset: delete the source, wait, add it again.

* `Pipeline.check_performance` — the loop as the source has it, over the whole registry.
* `Stream`, `Stream.tick` — one stream on its own: its slot, its bins, its muxer pad and its log.
* `stream_check_performance` — a tick of the monitor is a tick of every stream it visits; nothing a
  stream does is seen by another.
* `Pipeline.stream_invariant` — the induction over runs of ticks and frames, for one stream. -/

namespace DemoColombia.Streams

/-! ## The code -/

namespace Pipeline

/-- Assign fields of `streams_[i]`. -/
def assign (i : ℕ) (f : StreamSourceInfo → StreamSourceInfo) (p : Pipeline)
    (hf : ∀ s, (f s).pad_index = s.pad_index := by intro s; rfl) : Pipeline :=
  { p with streams_ := p.streams_.modify i f hf }

/-- Note what the tick did for stream `i`. -/
def record (i : ℕ) (frames : ℤ) (call : Option SourceCall) (p : Pipeline) : Pipeline :=
  match p.streams_.slot i with
  | none => p
  | some after => { p with log := Function.update p.log i (p.log i ++ [⟨frames, call, after⟩]) }

/-- The `switch` over the reset state of a stream without frames for more than 20 ticks. -/
def resetStream (gst : GstResults) (i : ℕ) (stream : StreamSourceInfo) (p : Pipeline) :
    Pipeline × Option SourceCall :=
  match stream.reset with
  | .NONE | .DELETE_STREAM =>
    -- the result of the deletion is not looked at
    ((p.delete_source gst stream).assign i fun s => { s with reset := .WAITING },
      some .delete_source)
  | .WAITING =>
    if 30 ≤ stream.noFrameCount then (p.assign i fun s => { s with reset := .ADD_STREAM }, none)
    else (p, none)
  | .ADD_STREAM =>
    ((p.assign i fun s => { s with source_bin := none }).add_source gst stream.uri stream.camera_id
      stream.pad_index stream.description true true, some .add_source)
  | .CHANGE_STATE_TO_NULL | .CHECK_FOR_STATE_NULL | .INITIALITING | .READY => (p, none)

/-- Count the ticks without frames of a stream that has a source bin, and act on them. -/
def monitorStream (gst : GstResults) (i : ℕ) (stream : StreamSourceInfo) (p : Pipeline) :
    Pipeline × Option SourceCall :=
  if stream.source_bin ≠ none then
    if stream.frameCount = 0 then
      let stream := { stream with noFrameCount := stream.noFrameCount + 1 }
      let p := p.assign i fun s => { s with noFrameCount := stream.noFrameCount }
      if 20 < stream.noFrameCount then p.resetStream gst i stream else (p, none)
    else (p.assign i fun s => { s with noFrameCount := 0 }, none)
  else (p, none)

/-- The body of the loop of `check_performance`. -/
def checkStream (gst : GstResults) (i : ℕ) (p : Pipeline) : Pipeline :=
  match p.streams_.slot i with
  | none => p
  | some stream =>
    let (p, call) := p.monitorStream gst i stream
    (p.assign i fun s => { s with frameCount := 0 }).record i stream.frameCount call

/-- `check_performance`. -/
def check_performance (gst : ℕ → GstResults) (p : Pipeline) : Pipeline :=
  (List.range p.num_sources_).foldl (fun p i => p.checkStream (gst i) i) p

/-- The probe counts a frame of a pad. -/
def countFrame (pad : ℕ) (p : Pipeline) : Pipeline :=
  p.assign pad fun s => { s with frameCount := s.frameCount + 1 }

end Pipeline

/-! ## One stream -/

/-- The call that the next tick makes for a stream. -/
def callDue (stream : StreamSourceInfo) : Option SourceCall :=
  if stream.source_bin ≠ none ∧ stream.frameCount = 0 ∧ 20 ≤ stream.noFrameCount then
    match stream.reset with
    | .NONE | .DELETE_STREAM => some .delete_source
    | .ADD_STREAM => some .add_source
    | .WAITING | .CHANGE_STATE_TO_NULL | .CHECK_FOR_STATE_NULL | .INITIALITING | .READY => none
  else none

theorem callDue_eq_delete_source {stream : StreamSourceInfo} :
    callDue stream = some .delete_source ↔ stream.source_bin ≠ none ∧ stream.frameCount = 0 ∧
      20 ≤ stream.noFrameCount ∧ (stream.reset = .NONE ∨ stream.reset = .DELETE_STREAM) := by
  unfold callDue
  cases stream.reset <;> simp

theorem callDue_eq_add_source {stream : StreamSourceInfo} :
    callDue stream = some .add_source ↔ stream.source_bin ≠ none ∧ stream.frameCount = 0 ∧
      20 ≤ stream.noFrameCount ∧ stream.reset = .ADD_STREAM := by
  unfold callDue
  cases stream.reset <;> simp

/-- The slot after a tick, before the call that is due. -/
def StreamSourceInfo.counted (stream : StreamSourceInfo) : StreamSourceInfo :=
  { stream with
    frameCount := 0
    noFrameCount :=
      if stream.source_bin = none then stream.noFrameCount
      else if stream.frameCount = 0 then stream.noFrameCount + 1 else 0
    reset :=
      if stream.source_bin ≠ none ∧ stream.frameCount = 0 ∧ 29 ≤ stream.noFrameCount
        ∧ stream.reset = .WAITING then .ADD_STREAM else stream.reset }

/-- The counting part of a tick moves the reset state from WAITING to ADD_STREAM, or not at all. -/
theorem counted_reset (stream : StreamSourceInfo) :
    stream.counted.reset = stream.reset ∨
      stream.reset = .WAITING ∧ stream.counted.reset = .ADD_STREAM := by
  by_cases hdue : stream.source_bin ≠ none ∧ stream.frameCount = 0 ∧ 29 ≤ stream.noFrameCount
      ∧ stream.reset = .WAITING
  · exact .inr ⟨hdue.2.2.2, if_pos hdue⟩
  · exact .inl (if_neg hdue)

theorem counted_noFrameCount_of_silent {stream : StreamSourceInfo} (hbin : stream.source_bin ≠ none)
    (hframes : stream.frameCount = 0) :
    stream.counted.noFrameCount = stream.noFrameCount + 1 := by
  rw [StreamSourceInfo.counted, if_neg hbin, if_pos hframes]

theorem counted_noFrameCount_of_frames {stream : StreamSourceInfo} (hbin : stream.source_bin ≠ none)
    (hframes : stream.frameCount ≠ 0) : stream.counted.noFrameCount = 0 := by
  rw [StreamSourceInfo.counted, if_neg hbin, if_neg hframes]

/-- The slot after the source has been added again. -/
def StreamSourceInfo.renewed (stream : StreamSourceInfo) (source_bin : SourceBin) :
    StreamSourceInfo :=
  { stream with frameCount := 0, noFrameCount := 0, source_bin := some source_bin, reset := .NONE }

/-- Whether the state change makes `delete_source` go on: the pad is released, the bin removed. -/
def GstStateChangeReturn.removes : GstStateChangeReturn → Bool
  | .SUCCESS | .ASYNC => true
  | .FAILURE | .NO_PREROLL => false

/-- What belongs to one stream. -/
@[ext] structure Stream where
  info : Option StreamSourceInfo
  bins : List SourceBin
  sink : Bool
  log : List TickRecord
  deriving DecidableEq

namespace Stream

/-- After a tick without a call. -/
def counted (stream : StreamSourceInfo) (s : Stream) : Stream :=
  { s with
    info := some stream.counted
    log := s.log ++ [⟨stream.frameCount, none, stream.counted⟩] }

/-- After a tick that deletes the source. -/
def deleted (gst : GstResults) (stream : StreamSourceInfo) (s : Stream) : Stream :=
  let after := { stream.counted with reset := .WAITING }
  { info := some after
    bins := if gst.set_state.removes then s.bins.filter fun b => some b ≠ stream.source_bin
      else s.bins
    sink := !gst.set_state.removes && s.sink
    log := s.log ++ [⟨stream.frameCount, some .delete_source, after⟩] }

/-- After a tick that tries to add the source again. -/
def readded (gst : GstResults) (pad : ℕ) (stream : StreamSourceInfo) (s : Stream) : Stream :=
  match create_source_bin gst (freshAddress (s.bins.map SourceBin.address)) pad stream.uri true with
  | none =>
    let after := { stream.counted with source_bin := none }
    { s with
      info := some after
      log := s.log ++ [⟨stream.frameCount, some .add_source, after⟩] }
  | some source_bin =>
    let after := stream.renewed source_bin
    { info := some after
      bins := if gst.bin_add then s.bins ++ [source_bin] else s.bins
      sink := gst.request_pad || s.sink
      log := s.log ++ [⟨stream.frameCount, some .add_source, after⟩] }

/-- One tick. -/
def tick (gst : GstResults) (pad : ℕ) (s : Stream) : Stream :=
  match s.info with
  | none => s
  | some stream =>
    match callDue stream with
    | none => s.counted stream
    | some .delete_source => s.deleted gst stream
    | some .add_source => s.readded gst pad stream

section

variable {gst : GstResults} {pad : ℕ} {s : Stream} {stream : StreamSourceInfo}

theorem tick_of_none (h : s.info = none) : s.tick gst pad = s := by
  rw [tick, h]

theorem tick_counted (h : s.info = some stream) (hdue : callDue stream = none) :
    s.tick gst pad = s.counted stream := by
  simp only [tick, h, hdue]

theorem tick_deleted (h : s.info = some stream) (hdue : callDue stream = some .delete_source) :
    s.tick gst pad = s.deleted gst stream := by
  simp only [tick, h, hdue]

theorem tick_readded (h : s.info = some stream) (hdue : callDue stream = some .add_source) :
    s.tick gst pad = s.readded gst pad stream := by
  simp only [tick, h, hdue]

/-- **The three things a tick can do** for a stream that is there. -/
@[elab_as_elim]
theorem tick_cases {motive : Stream → Prop} (h : s.info = some stream)
    (counted : callDue stream = none → motive (s.counted stream))
    (deleted : callDue stream = some .delete_source → motive (s.deleted gst stream))
    (readded : callDue stream = some .add_source → motive (s.readded gst pad stream)) :
    motive (s.tick gst pad) := by
  cases hdue : callDue stream with
  | none =>
    rw [tick_counted h hdue]
    exact counted hdue
  | some call =>
    cases call with
    | delete_source =>
      rw [tick_deleted h hdue]
      exact deleted hdue
    | add_source =>
      rw [tick_readded h hdue]
      exact readded hdue

end

/-- A frame. -/
def countFrame (s : Stream) : Stream :=
  { s with info := s.info.map fun stream => { stream with frameCount := stream.frameCount + 1 } }

theorem info_countFrame {s : Stream} {stream : StreamSourceInfo} (h : s.info = some stream) :
    s.countFrame.info = some { stream with frameCount := stream.frameCount + 1 } := by
  rw [countFrame, h]
  rfl

end Stream

/-- The part of the state that belongs to stream `i`. -/
def Pipeline.stream (p : Pipeline) (i : ℕ) : Stream :=
  ⟨p.streams_.slot i, p.bins i, p.sinks i, p.log i⟩

/-! ## A tick of the monitor is a tick of each stream -/

namespace Pipeline

variable (p : Pipeline) {i j : ℕ} (gst : GstResults)

@[simp] theorem stream_info : (p.stream i).info = p.streams_.slot i := rfl

@[simp] theorem stream_bins : (p.stream i).bins = p.bins i := rfl

@[simp] theorem stream_sink : (p.stream i).sink = p.sinks i := rfl

@[simp] theorem stream_log : (p.stream i).log = p.log i := rfl

@[simp] theorem assign_bins (f : StreamSourceInfo → StreamSourceInfo) (hf) :
    (p.assign i f hf).bins = p.bins := rfl

@[simp] theorem assign_sinks (f : StreamSourceInfo → StreamSourceInfo) (hf) :
    (p.assign i f hf).sinks = p.sinks := rfl

@[simp] theorem assign_log (f : StreamSourceInfo → StreamSourceInfo) (hf) :
    (p.assign i f hf).log = p.log := rfl

theorem pad_index_of_slot {stream : StreamSourceInfo} (h : p.streams_.slot i = some stream) :
    stream.pad_index = i :=
  p.streams_.pad_index_eq i stream h

theorem stream_assign_self (f : StreamSourceInfo → StreamSourceInfo) (hf) :
    (p.assign i f hf).stream i = { p.stream i with info := (p.streams_.slot i).map f } := by
  rw [stream, assign, StreamArray.modify_slot_self]
  rfl

theorem stream_assign_of_ne (hj : j ≠ i) (f : StreamSourceInfo → StreamSourceInfo) (hf) :
    (p.assign i f hf).stream j = p.stream j := by
  rw [stream, assign, StreamArray.modify_slot_of_ne _ hj]
  rfl

theorem stream_record_self (frames : ℤ) (call : Option SourceCall) {after : StreamSourceInfo}
    (h : p.streams_.slot i = some after) :
    (p.record i frames call).stream i
      = { p.stream i with log := p.log i ++ [⟨frames, call, after⟩] } := by
  simp [record, stream, h]

theorem stream_record_of_ne (hj : j ≠ i) (frames : ℤ) (call : Option SourceCall) :
    (p.record i frames call).stream j = p.stream j := by
  unfold record
  split
  · rfl
  · simp [stream, Function.update_of_ne hj]

theorem stream_delete_source_self {copy : StreamSourceInfo} (hpad : copy.pad_index = i) :
    (p.delete_source gst copy).stream i = { p.stream i with
      bins := if gst.set_state.removes then (p.bins i).filter fun b => some b ≠ copy.source_bin
        else p.bins i
      sink := !gst.set_state.removes && p.sinks i } := by
  subst hpad
  rw [delete_source]
  cases gst.set_state <;> simp [stream, GstStateChangeReturn.removes]

theorem stream_delete_source_of_ne {copy : StreamSourceInfo} (hj : j ≠ copy.pad_index) :
    (p.delete_source gst copy).stream j = p.stream j := by
  rw [delete_source]
  cases gst.set_state <;> simp [stream, Function.update_of_ne hj]

@[simp] theorem delete_source_streams_ (copy : StreamSourceInfo) :
    (p.delete_source gst copy).streams_ = p.streams_ := by
  rw [delete_source]
  cases gst.set_state <;> rfl

@[simp] theorem delete_source_log (copy : StreamSourceInfo) :
    (p.delete_source gst copy).log = p.log := by
  rw [delete_source]
  cases gst.set_state <;> rfl

theorem stream_add_source_of_ne (uri camera_id : String) {pad_index : ℕ} (hj : j ≠ pad_index)
    (description : String) (use_nvurisrcbin readding : Bool) :
    (p.add_source gst uri camera_id pad_index description use_nvurisrcbin readding).stream j
      = p.stream j := by
  cases hcreate : gst.create with
  | false => rw [add_source_of_not_create _ _ _ _ _ _ _ hcreate]
  | true =>
    rw [add_source_of_create _ _ _ _ _ _ _ hcreate]
    simp only [stream]
    rw [StreamArray.write_slot_of_ne _ hj]
    split <;> split <;> simp [Function.update_of_ne hj]

theorem stream_add_source_self (uri camera_id : String) (i : ℕ) (description : String)
    (use_nvurisrcbin readding : Bool) (h : gst.create = true) :
    (p.add_source gst uri camera_id i description use_nvurisrcbin readding).stream i =
      let source_bin := p.newSourceBin uri i use_nvurisrcbin readding
      { info := some (.new uri camera_id i description source_bin)
        bins := if gst.bin_add then p.bins i ++ [source_bin] else p.bins i
        sink := gst.request_pad || p.sinks i
        log := p.log i } := by
  rw [add_source_of_create _ _ _ _ _ _ _ h]
  simp only [stream]
  have hslot := p.streams_.write_slot_self
    (.new uri camera_id i description (p.newSourceBin uri i use_nvurisrcbin readding))
  cases gst.bin_add <;> cases gst.request_pad <;>
    simp only [Function.update_self, Bool.true_or, Bool.false_or, if_true, Bool.false_eq_true,
      if_false] <;> congr

theorem stream_resetStream_of_ne {copy : StreamSourceInfo} (hpad : copy.pad_index = i)
    (hj : j ≠ i) : (p.resetStream gst i copy).1.stream j = p.stream j := by
  subst hpad
  unfold resetStream
  split
  · rw [stream_assign_of_ne _ hj, stream_delete_source_of_ne _ _ hj]
  · rw [stream_assign_of_ne _ hj, stream_delete_source_of_ne _ _ hj]
  · split
    · exact stream_assign_of_ne _ hj _ _
    · rfl
  · rw [stream_add_source_of_ne _ _ _ _ hj, stream_assign_of_ne _ hj]
  all_goals rfl

theorem stream_monitorStream_of_ne {copy : StreamSourceInfo} (hpad : copy.pad_index = i)
    (hj : j ≠ i) : (p.monitorStream gst i copy).1.stream j = p.stream j := by
  simp only [monitorStream]
  split_ifs
  · refine (stream_resetStream_of_ne _ _ ?_ hj).trans (stream_assign_of_ne _ hj _ _)
    exact hpad
  · exact stream_assign_of_ne _ hj _ _
  · exact stream_assign_of_ne _ hj _ _
  · rfl

/-- What the tick does for one stream leaves the others as they are. -/
theorem stream_checkStream_of_ne (hj : j ≠ i) : (p.checkStream gst i).stream j = p.stream j := by
  unfold checkStream
  split
  · rfl
  · rename_i info hslot
    rw [stream_record_of_ne _ hj, stream_assign_of_ne _ hj]
    exact stream_monitorStream_of_ne _ _ (p.pad_index_of_slot hslot) hj

theorem slot_assign_self {info : StreamSourceInfo} (h : p.streams_.slot i = some info)
    (f : StreamSourceInfo → StreamSourceInfo) (hf) :
    (p.assign i f hf).streams_.slot i = some (f info) := by
  rw [assign, StreamArray.modify_slot_self, h]
  rfl

/-- The end of the loop body: the frame counter is cleared, and what happened is noted. -/
theorem stream_checkStream_of_monitorStream {info after : StreamSourceInfo} {q : Pipeline}
    {call : Option SourceCall} (hslot : p.streams_.slot i = some info)
    (hm : p.monitorStream gst i info = (q, call)) (hq : q.streams_.slot i = some after) :
    (p.checkStream gst i).stream i = { q.stream i with
      info := some { after with frameCount := 0 }
      log := q.log i ++ [⟨info.frameCount, call, { after with frameCount := 0 }⟩] } := by
  simp only [checkStream, hslot, hm]
  rw [stream_record_self _ _ _ (q.slot_assign_self hq _ _), stream_assign_self, hq]
  rfl

section Overdue

variable {info : StreamSourceInfo} (hslot : p.streams_.slot i = some info)
  (hbin : info.source_bin ≠ none) (hframes : info.frameCount = 0) (hcount : 20 ≤ info.noFrameCount)

include hbin hframes hcount in
/-- A stream that has been silent for too long goes through the `switch`, on a copy and a registry
in which the count has gone up. -/
theorem monitorStream_of_overdue :
    p.monitorStream gst i info
      = (p.assign i fun s => { s with noFrameCount := info.noFrameCount + 1 }).resetStream gst i
          { info with noFrameCount := info.noFrameCount + 1 } := by
  have hlt : 20 < info.noFrameCount + 1 := by omega
  simp [monitorStream, hbin, hframes, hlt]

include hslot hbin hframes hcount

/-- The tick that deletes the source. -/
theorem stream_checkStream_of_delete_source
    (hreset : info.reset = .NONE ∨ info.reset = .DELETE_STREAM) :
    (p.checkStream gst i).stream i = (p.stream i).deleted gst info := by
  let copy : StreamSourceInfo := { info with noFrameCount := info.noFrameCount + 1 }
  let q := p.assign i fun s => { s with noFrameCount := info.noFrameCount + 1 }
  have hpad : info.pad_index = i := p.pad_index_of_slot hslot
  have hcopy : copy.pad_index = i := hpad
  have hq : (q.delete_source gst copy).streams_.slot i = some copy := by
    rw [delete_source_streams_]
    exact p.slot_assign_self hslot _ _
  have hm : p.monitorStream gst i info
      = ((q.delete_source gst copy).assign i fun s => { s with reset := .WAITING },
        some .delete_source) := by
    rw [monitorStream_of_overdue _ _ hbin hframes hcount]
    rcases hreset with hreset | hreset <;> simp [resetStream, hreset, q, copy]
  rw [stream_checkStream_of_monitorStream _ _ hslot hm (slot_assign_self _ hq _ _),
    stream_assign_self, stream_delete_source_self _ _ hcopy]
  simp [Stream.deleted, StreamSourceInfo.counted, hbin, hframes, q, copy]

/-- The tick of a stream that waits for its re-add. -/
theorem stream_checkStream_of_waiting (hreset : info.reset = .WAITING) :
    (p.checkStream gst i).stream i = (p.stream i).counted info := by
  let q := p.assign i fun s => { s with noFrameCount := info.noFrameCount + 1 }
  have hq : q.streams_.slot i = some { info with noFrameCount := info.noFrameCount + 1 } :=
    p.slot_assign_self hslot _ _
  have hm := p.monitorStream_of_overdue gst (i := i) hbin hframes hcount
  by_cases hlong : 29 ≤ info.noFrameCount
  · have hle : 30 ≤ info.noFrameCount + 1 := by omega
    have hr : p.monitorStream gst i info
        = (q.assign i fun s => { s with reset := .ADD_STREAM }, none) := by
      simp [hm, resetStream, hreset, hle, q]
    rw [stream_checkStream_of_monitorStream _ _ hslot hr (q.slot_assign_self hq _ _),
      stream_assign_self]
    simp [Stream.counted, StreamSourceInfo.counted, hbin, hframes, hreset, hlong, q]
  · have hle : ¬ 30 ≤ info.noFrameCount + 1 := by omega
    have hr : p.monitorStream gst i info = (q, none) := by
      simp [hm, resetStream, hreset, hle, q]
    rw [stream_checkStream_of_monitorStream _ _ hslot hr hq]
    simp [Stream.counted, StreamSourceInfo.counted, hbin, hframes, hreset, hlong, q]

/-- The tick that tries to add a stream again. -/
theorem stream_checkStream_of_add_source (hreset : info.reset = .ADD_STREAM) :
    (p.checkStream gst i).stream i = (p.stream i).readded gst i info := by
  have hpad := p.pad_index_of_slot hslot
  -- the registry in which `add_source` is called: the count has gone up, the pointer is cleared
  let q := (p.assign i fun s => { s with noFrameCount := info.noFrameCount + 1 }).assign i fun s =>
    { s with source_bin := none }
  have hq : q.streams_.slot i
      = some { info with noFrameCount := info.noFrameCount + 1, source_bin := none } :=
    slot_assign_self _ (p.slot_assign_self hslot _ _) _ _
  have hm : p.monitorStream gst i info
      = (q.add_source gst info.uri info.camera_id i info.description true true,
        some .add_source) := by
    rw [monitorStream_of_overdue _ _ hbin hframes hcount]
    simp [resetStream, hreset, hpad, q]
  have haddr : q.addresses i = (p.bins i).map SourceBin.address := by
    simp [addresses, hq, q]
  cases hcreate : gst.create with
  | false =>
    rw [add_source_of_not_create _ _ _ _ _ _ _ hcreate] at hm
    rw [stream_checkStream_of_monitorStream _ _ hslot hm hq]
    simp [Stream.readded, create_source_bin, hcreate, StreamSourceInfo.counted, hframes, hbin,
      hreset, q]
  | true =>
    have hadd := stream_add_source_self q gst info.uri info.camera_id i info.description true true
      hcreate
    rw [stream_checkStream_of_monitorStream _ _ hslot hm (congrArg Stream.info hadd), hadd,
      Stream.readded, create_source_bin, if_pos hcreate]
    -- the log is the one `add_source` was called with
    rw [show (q.add_source gst info.uri info.camera_id i info.description true true).log i = p.log i
      from congrArg Stream.log hadd]
    simp [newSourceBin, haddr, StreamSourceInfo.new, StreamSourceInfo.renewed, hpad, q]

/-- The tick of a stream that has been silent for too long, one reset state after the other. -/
theorem stream_checkStream_of_overdue :
    (p.checkStream gst i).stream i = (p.stream i).tick gst i := by
  have hinfo : (p.stream i).info = some info := hslot
  cases hreset : info.reset with
  | NONE | DELETE_STREAM =>
    have hdue : callDue info = some .delete_source := by
      simp [callDue, hreset, hbin, hframes, hcount]
    rw [Stream.tick_deleted hinfo hdue]
    exact stream_checkStream_of_delete_source _ _ hslot hbin hframes hcount (by simp [hreset])
  | WAITING =>
    rw [Stream.tick_counted hinfo (by simp [callDue, hreset])]
    exact stream_checkStream_of_waiting _ _ hslot hbin hframes hcount hreset
  | ADD_STREAM =>
    have hdue : callDue info = some .add_source := by
      simp [callDue, hreset, hbin, hframes, hcount]
    rw [Stream.tick_readded hinfo hdue]
    exact stream_checkStream_of_add_source _ _ hslot hbin hframes hcount hreset
  | CHANGE_STATE_TO_NULL | CHECK_FOR_STATE_NULL | INITIALITING | READY =>
    -- the cases that only break
    have hr : p.monitorStream gst i info
        = (p.assign i fun s => { s with noFrameCount := info.noFrameCount + 1 }, none) := by
      rw [monitorStream_of_overdue _ _ hbin hframes hcount]
      simp [resetStream, hreset]
    rw [Stream.tick_counted hinfo (by simp [callDue, hreset]),
      stream_checkStream_of_monitorStream _ _ hslot hr (p.slot_assign_self hslot _ _),
      stream_assign_self]
    simp [Stream.counted, StreamSourceInfo.counted, hbin, hframes, hreset]

end Overdue

/-- **What the tick does for one stream** is a tick of that stream. -/
theorem stream_checkStream_self :
    (p.checkStream gst i).stream i = (p.stream i).tick gst i := by
  cases hslot : p.streams_.slot i with
  | none =>
    rw [Stream.tick_of_none (s := p.stream i) hslot, checkStream, hslot]
  | some info =>
    have hinfo : (p.stream i).info = some info := hslot
    by_cases hbin : info.source_bin = none
    · have hm : p.monitorStream gst i info = (p, none) := by simp [monitorStream, hbin]
      have hdue : callDue info = none := by simp [callDue, hbin]
      rw [stream_checkStream_of_monitorStream _ _ hslot hm hslot, Stream.tick_counted hinfo hdue]
      simp [Stream.counted, StreamSourceInfo.counted, hbin, stream]
    by_cases hframes : info.frameCount = 0
    · by_cases hcount : 20 ≤ info.noFrameCount
      · exact stream_checkStream_of_overdue _ _ hslot hbin hframes hcount
      · have hm : p.monitorStream gst i info
            = (p.assign i fun s => { s with noFrameCount := info.noFrameCount + 1 }, none) := by
          have hle : ¬ 20 < info.noFrameCount + 1 := by omega
          simp [monitorStream, hbin, hframes, hle]
        have hdue : callDue info = none := by simp [callDue, hcount]
        have hwait : ¬ 29 ≤ info.noFrameCount := by omega
        rw [stream_checkStream_of_monitorStream _ _ hslot hm (p.slot_assign_self hslot _ _),
          Stream.tick_counted hinfo hdue, stream_assign_self]
        simp [Stream.counted, StreamSourceInfo.counted, hbin, hframes, hwait]
    · have hm : p.monitorStream gst i info
          = (p.assign i fun s => { s with noFrameCount := 0 }, none) := by
        simp [monitorStream, hbin, hframes]
      have hdue : callDue info = none := by simp [callDue, hframes]
      rw [stream_checkStream_of_monitorStream _ _ hslot hm (p.slot_assign_self hslot _ _),
        Stream.tick_counted hinfo hdue, stream_assign_self]
      simp [Stream.counted, StreamSourceInfo.counted, hbin, hframes]

/-- The loop body for the streams of `l`, one after the other, is a tick of each of them. -/
theorem stream_foldl_checkStream (gst : ℕ → GstResults) {l : List ℕ} (hl : l.Nodup) :
    (l.foldl (fun p i => p.checkStream (gst i) i) p).stream i
      = if i ∈ l then (p.stream i).tick (gst i) i else p.stream i := by
  have other : ∀ (q : Pipeline) i j, j ≠ i → (q.checkStream (gst i) i).stream j = q.stream j :=
    fun q _ _ hj => q.stream_checkStream_of_ne _ hj
  split
  · rename_i hi
    exact foldl_view_of_mem (R := fun i s s' => s' = s.tick (gst i) i) other
      (fun q i => q.stream_checkStream_self _) hl hi p
  · rename_i hi
    exact foldl_view_of_notMem other hi p

/-- **A tick of the monitor** is a tick of each stream below `num_sources_`. -/
theorem stream_check_performance (gst : ℕ → GstResults) :
    (p.check_performance gst).stream i
      = if i < p.num_sources_ then (p.stream i).tick (gst i) i else p.stream i := by
  rw [check_performance, stream_foldl_checkStream _ _ List.nodup_range]
  simp only [List.mem_range]

/-- A re-add does not count as a new source. -/
theorem num_sources_add_source (uri camera_id : String) (pad_index : ℕ) (description : String)
    (use_nvurisrcbin : Bool) :
    (p.add_source gst uri camera_id pad_index description use_nvurisrcbin true).num_sources_
      = p.num_sources_ := by
  cases hcreate : gst.create with
  | false => rw [add_source_of_not_create _ _ _ _ _ _ _ hcreate]
  | true =>
    rw [add_source_of_create _ _ _ _ _ _ _ hcreate]
    simp

theorem num_sources_delete_source (copy : StreamSourceInfo) :
    (p.delete_source gst copy).num_sources_ = p.num_sources_ := by
  rw [delete_source]
  cases gst.set_state <;> rfl

theorem num_sources_assign (f : StreamSourceInfo → StreamSourceInfo) (hf) :
    (p.assign i f hf).num_sources_ = p.num_sources_ := rfl

theorem num_sources_record (frames : ℤ) (call : Option SourceCall) :
    (p.record i frames call).num_sources_ = p.num_sources_ := by
  unfold record
  split <;> rfl

theorem num_sources_resetStream (copy : StreamSourceInfo) :
    (p.resetStream gst i copy).1.num_sources_ = p.num_sources_ := by
  unfold resetStream
  split
  · rw [num_sources_assign, num_sources_delete_source]
  · rw [num_sources_assign, num_sources_delete_source]
  · split <;> rfl
  · rw [num_sources_add_source, num_sources_assign]
  all_goals rfl

theorem num_sources_checkStream : (p.checkStream gst i).num_sources_ = p.num_sources_ := by
  unfold checkStream
  split
  · rfl
  · simp only [monitorStream, num_sources_record, num_sources_assign]
    split_ifs
    · rw [num_sources_resetStream, num_sources_assign]
    all_goals rfl

theorem num_sources_foldl_checkStream (gst : ℕ → GstResults) (l : List ℕ) :
    (l.foldl (fun p i => p.checkStream (gst i) i) p).num_sources_ = p.num_sources_ :=
  List.foldlRecOn (motive := fun q : Pipeline => q.num_sources_ = p.num_sources_) _ _ rfl
    fun q hq i _ => by rw [num_sources_checkStream, hq]

theorem num_sources_check_performance (gst : ℕ → GstResults) :
    (p.check_performance gst).num_sources_ = p.num_sources_ :=
  p.num_sources_foldl_checkStream gst _

theorem stream_countFrame (pad : ℕ) :
    (p.countFrame pad).stream i = if i = pad then (p.stream i).countFrame else p.stream i := by
  split
  · rename_i hi
    subst hi
    exact p.stream_assign_self _ _
  · rename_i hi
    exact p.stream_assign_of_ne hi _ _

/-! ## Runs -/

end Pipeline

/-- What the streams live through. -/
inductive Event
  /-- The probe sees a frame of a pad. -/
  | frame (pad : ℕ)
  /-- A call of `check_performance`; `gst i` are the results of the GStreamer calls made for stream
  `i`. -/
  | tick (gst : ℕ → GstResults)

/-- `add_source` gets as far as waiting for the end of the change to PLAYING, and waits for ever. -/
def GstResults.blocks (gst : GstResults) : Bool :=
  gst.create && gst.request_pad && gst.pad_link && gst.set_state = .ASYNC && !gst.settles

/-- The tick does not return from the re-add of stream `i`. -/
def Pipeline.Stuck (p : Pipeline) (gst : ℕ → GstResults) (i : ℕ) : Prop :=
  (p.streams_.slot i).bind callDue = some .add_source ∧ (gst i).blocks

instance (p : Pipeline) (gst : ℕ → GstResults) (i : ℕ) : Decidable (p.Stuck gst i) :=
  inferInstanceAs (Decidable (_ ∧ _))

namespace Pipeline

/-- One step; a tick that never returns leads nowhere. -/
def next (p : Pipeline) : Event → Option Pipeline
  | .frame pad => some (p.countFrame pad)
  | .tick gst =>
    if ∃ i < p.num_sources_, p.Stuck gst i then none else some (p.check_performance gst)

theorem next_tick_eq_some {p p' : Pipeline} {gst : ℕ → GstResults} :
    p.next (.tick gst) = some p' ↔
      (¬ ∃ i < p.num_sources_, p.Stuck gst i) ∧ p' = p.check_performance gst := by
  rw [next]
  split <;> simp_all [eq_comm]

/-- A tick that comes to an end is a tick of each stream below `num_sources_`. -/
theorem stream_next_tick {p p' : Pipeline} {gst : ℕ → GstResults} (h : p.next (.tick gst) = some p')
    {i : ℕ} (hi : i < p.num_sources_) : p'.stream i = (p.stream i).tick (gst i) i := by
  rw [(next_tick_eq_some.mp h).2, stream_check_performance, if_pos hi]

theorem num_sources_next {p p' : Pipeline} {e : Event} (h : p.next e = some p') :
    p'.num_sources_ = p.num_sources_ := by
  cases e with
  | frame pad =>
    obtain rfl : p.countFrame pad = p' := Option.some.inj h
    rfl
  | tick gst =>
    rw [(next_tick_eq_some.mp h).2, num_sources_check_performance]

theorem num_sources_reachable {ok : Pipeline → Event → Prop} {p₀ p : Pipeline}
    (h : ReachableBy next ok p₀ p) : p.num_sources_ = p₀.num_sources_ :=
  h.invariant (P := fun q => q.num_sources_ = p₀.num_sources_) rfl fun _ _ _ hq _ hnext =>
    (num_sources_next hnext).trans hq

/-- **Induction over runs for one stream**: what its frames and its ticks preserve holds of it in
every state of a run. -/
theorem stream_invariant {ok : Pipeline → Event → Prop} {p₀ p : Pipeline} {i : ℕ}
    {P : Stream → Prop} (h : ReachableBy next ok p₀ p) (hi : i < p₀.num_sources_)
    (init : P (p₀.stream i)) (frame : ∀ s, P s → P s.countFrame)
    (tick : ∀ q gst, q.num_sources_ = p₀.num_sources_ → ok q (.tick gst) → P (q.stream i) →
      P ((q.stream i).tick (gst i) i)) : P (p.stream i) := by
  have hboth : p.num_sources_ = p₀.num_sources_ ∧ P (p.stream i) := by
    refine h.invariant (P := fun q => q.num_sources_ = p₀.num_sources_ ∧ P (q.stream i)) ⟨rfl, init⟩
      fun q e q' hq hok hnext => ⟨(num_sources_next hnext).trans hq.1, ?_⟩
    cases e with
    | frame pad =>
      obtain rfl : q.countFrame pad = q' := Option.some.inj hnext
      rw [stream_countFrame]
      split
      · exact frame _ hq.2
      · exact hq.2
    | tick gst =>
      rw [stream_next_tick hnext (hq.1 ▸ hi)]
      exact tick q gst hq.1 hok hq.2
  exact hboth.2

end Pipeline

end DemoColombia.Streams
