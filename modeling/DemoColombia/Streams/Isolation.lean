import DemoColombia.Streams.Startup

/-! # The main loop, and what one stream can do to the others

`main` runs one GLib main loop. Its thread calls `check_performance` every second and `bus_call` for
every bus message; frames are counted by the streaming threads. Two things that one stream can do
reach the others: an ERROR message, whatever its text, makes `bus_call` quit the loop, and a re-add
whose source never settles keeps the thread in `gst_element_get_state`.

* `handle` — one event of the program, `MainLoop.run` a run.
* `streams_isolated` — in a run in which stream `i` does neither, the registry, the bins and the
  calls of every other stream are, tick by tick, those of the run without stream `i`.
* `ticks_end_of_haltedBy` — after an ERROR message no stream is ever looked at again. -/

namespace DemoColombia.Streams

/-! ## The code -/

/-- `GstMessageType`, as far as `bus_call` tells the types apart. -/
inductive GstMessageType
  | WARNING
  | ERROR
  | ELEMENT
  | other
  deriving DecidableEq

/-- `GstMessage`: `src` is the stream whose source element posted it, `none` for an element that
belongs to no stream; `text` is the message of its `GError`. -/
structure GstMessage where
  type : GstMessageType
  src : Option ℕ
  text : String
  deriving DecidableEq

/-- The message that `bus_call` declares as expected. -/
def attempts_error : String :=
  "Reconnection attempts exceeded for all sources or EOS received"

/-- Where the thread of `main` is. -/
inductive MainThread
  /-- In `g_main_loop_run`. -/
  | iterating
  /-- In a tick that waits for ever. -/
  | blocked
  /-- `g_main_loop_run` has returned, the program is cleaning up. -/
  | returned
  deriving DecidableEq

/-- The program after its start. -/
structure MainLoop where
  pipeline : Pipeline
  /-- The flag of the `GMainLoop`, which `g_main_loop_quit` clears. -/
  is_running : Bool
  thread : MainThread

/-- `bus_call`. -/
def bus_call (msg : GstMessage) (m : MainLoop) : MainLoop :=
  match msg.type with
  -- the text is printed, and never compared with `attempts_error`
  | .ERROR => { m with is_running := false }
  | .WARNING | .ELEMENT | .other => m

/-- The first stream whose re-add keeps the tick from returning. -/
def Pipeline.blockedAt (p : Pipeline) (gst : ℕ → GstResults) : Option ℕ :=
  (List.range p.num_sources_).find? fun i => p.Stuck gst i

/-- The timer calls `check_performance`, which may get no further than a re-add. -/
def MainLoop.check (gst : ℕ → GstResults) (m : MainLoop) : MainLoop :=
  match m.pipeline.blockedAt gst with
  | none => { m with pipeline := m.pipeline.check_performance gst }
  | some i =>
    { m with
      pipeline := (List.range (i + 1)).foldl (fun p i => p.checkStream (gst i) i) m.pipeline
      thread := .blocked }

/-- What the program lives through. -/
inductive LoopEvent
  /-- The probe sees a frame of a pad. -/
  | frame (pad : ℕ)
  /-- The loop starts another iteration: only now does it look at its flag. -/
  | iterate
  /-- The timer is dispatched. -/
  | tick (gst : ℕ → GstResults)
  /-- The bus watch is dispatched. -/
  | message (msg : GstMessage)

/-- One event. Sources are dispatched by the thread of `main` alone. -/
def handle (m : MainLoop) : LoopEvent → MainLoop
  | .frame pad => { m with pipeline := m.pipeline.countFrame pad }
  | .iterate => if m.thread = .iterating ∧ ¬ m.is_running then { m with thread := .returned } else m
  | .tick gst => if m.thread = .iterating then m.check gst else m
  | .message msg => if m.thread = .iterating then bus_call msg m else m

/-- A run of the program. -/
def MainLoop.run (m : MainLoop) (es : List LoopEvent) : MainLoop := es.foldl handle m

/-- A tick that comes to an end is a step of the registry. -/
theorem next_tick_of_blockedAt {p : Pipeline} {gst : ℕ → GstResults} :
    p.next (.tick gst)
      = if p.blockedAt gst = none then some (p.check_performance gst) else none := by
  have hblocked : p.blockedAt gst = none ↔ ¬ ∃ i < p.num_sources_, p.Stuck gst i := by
    simp [Pipeline.blockedAt]
  rw [Pipeline.next]
  by_cases hstuck : ∃ i < p.num_sources_, p.Stuck gst i
  · rw [if_pos hstuck, if_neg (fun h => hblocked.mp h hstuck)]
  · rw [if_neg hstuck, if_pos (hblocked.mpr hstuck)]

/-! ## One stream taken away -/

/-- The events of stream `i`. -/
def LoopEvent.OfStream (i : ℕ) : LoopEvent → Prop
  | .frame pad => pad = i
  | .message msg => msg.src = some i
  | .iterate | .tick _ => False

/-- Stream `i` stops the loop: its ERROR message makes it quit, or its re-add never returns. -/
def MainLoop.HaltedBy (i : ℕ) (m : MainLoop) : LoopEvent → Prop
  | .message msg =>
    m.thread = .iterating ∧ m.is_running = true ∧ msg.type = .ERROR ∧ msg.src = some i
  | .tick gst => m.thread = .iterating ∧ m.pipeline.blockedAt gst = some i
  | .frame _ | .iterate => False

instance (i : ℕ) : DecidablePred (LoopEvent.OfStream i)
  | .frame pad => inferInstanceAs (Decidable (pad = i))
  | .message msg => inferInstanceAs (Decidable (msg.src = some i))
  | .iterate | .tick _ => isFalse id

instance (i : ℕ) (m : MainLoop) : DecidablePred (m.HaltedBy i)
  | .message _ | .tick _ => inferInstanceAs (Decidable (_ ∧ _))
  | .frame _ | .iterate => isFalse id

/-- The array without the slot `i`. -/
def StreamArray.erase (streams : StreamArray) (i : ℕ) : StreamArray where
  slot := Function.update streams.slot i none
  pad_index_eq j s h := by
    rcases eq_or_ne j i with rfl | hj
    · rw [Function.update_self] at h
      cases h
    · rw [Function.update_of_ne hj] at h
      exact streams.pad_index_eq j s h

/-- The program without stream `i`: its slot is not written, its bin and its pad are not there. -/
def MainLoop.without (i : ℕ) (m : MainLoop) : MainLoop :=
  { m with
    pipeline :=
      { num_sources_ := m.pipeline.num_sources_
        streams_ := m.pipeline.streams_.erase i
        bins := Function.update m.pipeline.bins i []
        sinks := Function.update m.pipeline.sinks i false
        log := Function.update m.pipeline.log i [] } }

/-- Two programs that differ in stream `i` only, which the second one does not have. -/
structure ApartFrom (i : ℕ) (m m' : MainLoop) : Prop where
  thread : m.thread = m'.thread
  is_running : m.is_running = m'.is_running
  num_sources_ : m.pipeline.num_sources_ = m'.pipeline.num_sources_
  others : ∀ j, j ≠ i → m.pipeline.stream j = m'.pipeline.stream j
  absent : m'.pipeline.streams_.slot i = none

variable {m m' : MainLoop} {i j : ℕ} {gst : ℕ → GstResults}

theorem apartFrom_without (i : ℕ) (m : MainLoop) : ApartFrom i m (m.without i) := by
  refine ⟨rfl, rfl, rfl, fun j hj => ?_, Function.update_self _ _ _⟩
  simp only [Pipeline.stream, MainLoop.without, StreamArray.erase, Function.update_of_ne hj]

namespace ApartFrom

/-- The other streams are stuck in both or in neither. -/
theorem stuck_iff (h : ApartFrom i m m') (hj : j ≠ i) :
    m.pipeline.Stuck gst j ↔ m'.pipeline.Stuck gst j := by
  have hslot : m.pipeline.streams_.slot j = m'.pipeline.streams_.slot j :=
    congrArg Stream.info (h.others j hj)
  rw [Pipeline.Stuck, Pipeline.Stuck, hslot]

/-- A stream that is not there does not block. -/
theorem not_stuck (h : ApartFrom i m m') : ¬ m'.pipeline.Stuck gst i := by
  rintro ⟨hdue, -⟩
  rw [h.absent] at hdue
  cases hdue

/-- **Without stream `i` the tick gets as far as with it**, unless it is stream `i` that blocks. -/
theorem blockedAt_eq (h : ApartFrom i m m') (hi : m.pipeline.blockedAt gst ≠ some i) :
    m'.pipeline.blockedAt gst = m.pipeline.blockedAt gst := by
  cases hblocked : m.pipeline.blockedAt gst with
  | none =>
    simp only [Pipeline.blockedAt, List.find?_range_eq_none, Bool.not_eq_true',
      decide_eq_false_iff_not] at hblocked ⊢
    intro k hk hstuck
    have hki : k ≠ i := fun heq => h.not_stuck (heq ▸ hstuck)
    exact hblocked k (h.num_sources_ ▸ hk) ((h.stuck_iff hki).mpr hstuck)
  | some k =>
    have hki : k ≠ i := fun heq => hi (heq ▸ hblocked)
    simp only [Pipeline.blockedAt, List.find?_range_eq_some, decide_eq_true_eq, List.mem_range,
      Bool.not_eq_true', decide_eq_false_iff_not] at hblocked ⊢
    obtain ⟨hstuck, hk, hbefore⟩ := hblocked
    refine ⟨(h.stuck_iff hki).mp hstuck, h.num_sources_ ▸ hk, fun l hl hstuck' => ?_⟩
    have hli : l ≠ i := fun heq => h.not_stuck (heq ▸ hstuck')
    exact hbefore l hl ((h.stuck_iff hli).mpr hstuck')

/-- The loop body for the streams of `l` leaves two programs apart from stream `i`. -/
theorem foldl_checkStream (h : ApartFrom i m m') (gst : ℕ → GstResults) {l : List ℕ}
    (hl : l.Nodup) :
    (∀ j, j ≠ i → (l.foldl (fun p i => p.checkStream (gst i) i) m.pipeline).stream j
        = (l.foldl (fun p i => p.checkStream (gst i) i) m'.pipeline).stream j) ∧
      (l.foldl (fun p i => p.checkStream (gst i) i) m'.pipeline).streams_.slot i = none := by
  refine ⟨fun j hj => ?_, ?_⟩
  · rw [Pipeline.stream_foldl_checkStream _ _ hl, Pipeline.stream_foldl_checkStream _ _ hl,
      h.others j hj]
  · have hinfo : (m'.pipeline.stream i).info = none := h.absent
    rw [← Pipeline.stream_info, Pipeline.stream_foldl_checkStream _ _ hl]
    split
    · rw [Stream.tick_of_none hinfo, hinfo]
    · exact hinfo

/-- **A tick of both**, unless stream `i` blocks it. -/
theorem check (h : ApartFrom i m m') (hi : m.pipeline.blockedAt gst ≠ some i) :
    ApartFrom i (m.check gst) (m'.check gst) := by
  unfold MainLoop.check
  rw [h.blockedAt_eq hi]
  cases m.pipeline.blockedAt gst with
  | none =>
    obtain ⟨hothers, habsent⟩ :=
      h.foldl_checkStream gst (List.nodup_range (n := m.pipeline.num_sources_))
    refine ⟨h.thread, h.is_running, ?_, fun j hj => ?_, ?_⟩
    · simp only [Pipeline.num_sources_check_performance, h.num_sources_]
    · simp only [Pipeline.check_performance, ← h.num_sources_, hothers j hj]
    · simpa only [Pipeline.check_performance, ← h.num_sources_] using habsent
  | some k =>
    obtain ⟨hothers, habsent⟩ := h.foldl_checkStream gst (List.nodup_range (n := k + 1))
    refine ⟨rfl, h.is_running, ?_, hothers, habsent⟩
    simp only [Pipeline.num_sources_foldl_checkStream, h.num_sources_]

/-- A frame of stream `i` is seen by stream `i` only. -/
theorem countFrame (h : ApartFrom i m m') :
    ApartFrom i { m with pipeline := m.pipeline.countFrame i } m' := by
  refine ⟨h.thread, h.is_running, h.num_sources_, fun j hj => ?_, h.absent⟩
  rw [Pipeline.stream_countFrame, if_neg hj, h.others j hj]

/-- An event of stream `i` changes nothing for the others, unless it stops the loop. -/
theorem own_event (h : ApartFrom i m m') {e : LoopEvent} (hi : ¬ m.HaltedBy i e)
    (he : e.OfStream i) : ApartFrom i (handle m e) m' := by
  cases e with
  | frame pad =>
    obtain rfl : pad = i := he
    exact h.countFrame
  | message msg =>
    rw [handle]
    split
    · rename_i hthread
      rw [bus_call]
      split
      · rename_i htype
        -- the ERROR comes when the loop has been told to quit already
        have hquit : m.is_running = false := by
          by_contra hrunning
          exact hi ⟨hthread, by simpa using hrunning, htype, he⟩
        exact { h with is_running := hquit.symm.trans h.is_running }
      all_goals exact h
    · exact h
  | iterate => cases he
  | tick gst => cases he

/-- **Any other event is handled alike.** -/
theorem other_event (h : ApartFrom i m m') {e : LoopEvent} (hi : ¬ m.HaltedBy i e)
    (he : ¬ e.OfStream i) : ApartFrom i (handle m e) (handle m' e) := by
  cases e with
  | frame pad =>
    have hpad : i ≠ pad := fun heq => he heq.symm
    refine ⟨h.thread, h.is_running, h.num_sources_, fun j hj => ?_, ?_⟩
    · simp only [handle, Pipeline.stream_countFrame, h.others j hj]
    · have hstream := m'.pipeline.stream_countFrame (i := i) pad
      rw [if_neg hpad] at hstream
      exact (congrArg Stream.info hstream).trans h.absent
  | iterate =>
    simp only [handle, ← h.thread, ← h.is_running]
    split
    · exact ⟨rfl, rfl, h.num_sources_, h.others, h.absent⟩
    · exact h
  | tick gst =>
    simp only [handle, ← h.thread]
    split
    · rename_i hthread
      exact h.check fun hblocked => hi ⟨hthread, hblocked⟩
    · exact h
  | message msg =>
    simp only [handle, ← h.thread, bus_call]
    split
    · split
      · exact ⟨rfl, rfl, h.num_sources_, h.others, h.absent⟩
      all_goals exact h
    · exact h

end ApartFrom

/-- **Streams are isolated as long as none stops the loop.** Take any state of the program, any two
streams `i` and `j`, and any run of ticks, frames and bus messages in which no ERROR message of
stream `i` makes the loop quit and no re-add of stream `i` keeps a tick from returning. Then stream
`j` (its slot, its bin and its pad, and the record of every tick: the frames counted, the call made,
the slot after it) is what it is in the run without stream `i` and its events. -/
theorem streams_isolated (m : MainLoop) (es : List LoopEvent) {i j : ℕ} (hij : j ≠ i)
    (h : Along handle (fun m e => ¬ m.HaltedBy i e) m es) :
    (m.run es).pipeline.stream j
      = ((m.without i).run (es.filter fun e => ¬ e.OfStream i)).pipeline.stream j := by
  have hapart : ApartFrom i (m.run es) ((m.without i).run (es.filter fun e => ¬ e.OfStream i)) :=
    foldl_filter_rel (f := handle) (g := handle) (R := ApartFrom i)
      (fun _ _ _ hmm hi he => hmm.own_event hi he) (fun _ _ _ hmm hi he => hmm.other_event hi he)
      h (apartFrom_without i m)
  exact hapart.others j hij

/-- Two cameras. -/
def MainLoop.sample : MainLoop := ⟨startup true [.sample 0, .sample 1], true, .iterating⟩

/-- Camera `0` posts a warning, stays silent for 31 ticks and is taken through a reset, camera `1`
has frames. -/
theorem streams_isolated_cameras :
    let es := LoopEvent.message ⟨.WARNING, some 0, "no data"⟩ ::
      (List.replicate 31 [.frame 1, .iterate, .tick fun _ => .success]).flatten
    (MainLoop.sample.run es).pipeline.stream 1
      = ((MainLoop.sample.without 0).run (es.filter fun e => ¬ e.OfStream 0)).pipeline.stream 1 :=
  streams_isolated .sample _ (by decide) (by decide +kernel)

/-! ## One stream stops the others -/

/-- A thread that has left the loop, or never gets back to it, handles nothing. -/
theorem handle_of_not_iterating (h : m.thread ≠ .iterating) (e : LoopEvent) :
    (handle m e).thread = m.thread ∧ (handle m e).pipeline.log = m.pipeline.log := by
  cases e with
  | frame pad => exact ⟨rfl, rfl⟩
  | iterate => rw [handle, if_neg fun hboth => h hboth.1]; exact ⟨rfl, rfl⟩
  | tick gst => rw [handle, if_neg h]; exact ⟨rfl, rfl⟩
  | message msg => rw [handle, if_neg h]; exact ⟨rfl, rfl⟩

/-- So no tick looks at a stream again. -/
theorem log_run_of_not_iterating (h : m.thread ≠ .iterating) (es : List LoopEvent) :
    (m.run es).pipeline.log = m.pipeline.log := by
  induction es generalizing m with
  | nil => rfl
  | cons e es ih =>
    obtain ⟨hthread, hlog⟩ := handle_of_not_iterating h e
    rw [MainLoop.run, List.foldl_cons, ← MainLoop.run, ih (hthread ▸ h), hlog]

/-- **A stream that stops the loop ends the ticks of all streams**: from the next iteration on, none
is looked at again, whatever else happens. -/
theorem ticks_end_of_haltedBy {e : LoopEvent} (h : m.HaltedBy i e) (es : List LoopEvent) :
    (m.run (e :: .iterate :: es)).pipeline.log = (handle m e).pipeline.log := by
  have hleft : (handle (handle m e) .iterate).thread ≠ .iterating ∧
      (handle (handle m e) .iterate).pipeline.log = (handle m e).pipeline.log := by
    cases e with
    | message msg =>
      obtain ⟨hthread, -, htype, -⟩ := h
      simp [handle, bus_call, hthread, htype]
    | tick gst =>
      obtain ⟨hthread, hblocked⟩ := h
      simp [handle, MainLoop.check, hthread, hblocked]
    | frame pad => exact h.elim
    | iterate => exact h.elim
  rw [MainLoop.run, List.foldl_cons, List.foldl_cons, ← MainLoop.run,
    log_run_of_not_iterating hleft.1, hleft.2]

/-- Every tick adds a record to the log of a registered stream. -/
theorem Stream.length_log_tick {s : Stream} (h : s.info.isSome) (gst : GstResults) (pad : ℕ) :
    (s.tick gst pad).log.length = s.log.length + 1 := by
  obtain ⟨stream, hinfo⟩ := Option.isSome_iff_exists.mp h
  refine Stream.tick_cases hinfo (fun _ => List.length_append) (fun _ => List.length_append)
    fun _ => ?_
  unfold Stream.readded
  split <;> exact List.length_append

/-- **The condition is exact**: an ERROR message of stream `i` that makes the loop quit takes the
next tick from every other stream. -/
theorem not_isolated_of_error {msg : GstMessage} (h : m.HaltedBy i (.message msg)) (hij : j ≠ i)
    (hj : j < m.pipeline.num_sources_) (hslot : (m.pipeline.streams_.slot j).isSome) :
    let es := [LoopEvent.message msg, .iterate, .tick fun _ => .success]
    (m.run es).pipeline.stream j
      ≠ ((m.without i).run (es.filter fun e => ¬ e.OfStream i)).pipeline.stream j := by
  intro es heq
  obtain ⟨hthread, hrunning, -, hsrc⟩ := id h
  have hwith : ((m.run es).pipeline.stream j).log = (m.pipeline.stream j).log := by
    have hlog : (m.run es).pipeline.log = m.pipeline.log := by
      rw [ticks_end_of_haltedBy h, handle, if_pos hthread, bus_call]
      split <;> rfl
    exact congrFun hlog j
  -- without the message the tick is made, and no re-add blocks it
  have hwithout : ((m.without i).run [.iterate, .tick fun _ => .success]).pipeline.stream j
      = (m.pipeline.stream j).tick .success j := by
    have hthread' : (m.without i).thread = .iterating := hthread
    have hrunning' : (m.without i).is_running = true := hrunning
    have hnum : j < (m.without i).pipeline.num_sources_ := hj
    have hblocked : (m.without i).pipeline.blockedAt (fun _ => .success) = none := by
      simp [Pipeline.blockedAt, Pipeline.Stuck, GstResults.blocks, GstResults.success]
    simp only [MainLoop.run, List.foldl_cons, List.foldl_nil, handle, hthread', hrunning',
      MainLoop.check, hblocked, Pipeline.stream_check_performance, hnum, if_true, not_true_eq_false,
      and_false, if_false, ← (apartFrom_without i m).others j hij]
  have hfilter : es.filter (fun e => ¬ e.OfStream i) = [.iterate, .tick fun _ => .success] := by
    simp [es, LoopEvent.OfStream, hsrc]
  rw [hfilter, hwithout] at heq
  have hlength := Stream.length_log_tick (s := m.pipeline.stream j) hslot .success j
  rw [← heq, hwith] at hlength
  omega

/-- **One camera stops the others.** The source of camera `0` posts the ERROR message that
`bus_call` declares as expected; the tick after it no longer comes for camera `1`. -/
theorem expected_error_ends_ticks :
    ¬ ∀ (m : MainLoop) (es : List LoopEvent) (i j : ℕ), j ≠ i →
      (m.run es).pipeline.stream j
        = ((m.without i).run (es.filter fun e => ¬ e.OfStream i)).pipeline.stream j := by
  intro hall
  have hhalted : MainLoop.sample.HaltedBy 0 (.message ⟨.ERROR, some 0, attempts_error⟩) :=
    ⟨rfl, rfl, rfl, rfl⟩
  exact not_isolated_of_error hhalted (by decide : 1 ≠ 0) (by decide) (by decide)
    (hall .sample _ 0 1 (by decide))

end DemoColombia.Streams
