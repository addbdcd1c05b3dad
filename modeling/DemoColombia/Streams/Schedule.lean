import DemoColombia.Streams.Startup
import Mathlib.Data.List.Chain

/-! # The reset schedule of a stream

`check_performance` drives the reset of a stream with two counters, a state and a pointer that
`add_source` overwrites. The log of a stream tells what came out of it: which ticks were without
frames and which calls were made (`reset_schedule`).

`Phase` relates the slot to the log. While the stream plays, the log ends with as many silent ticks
as `noFrameCount` says; while it waits, the log ends with the deletion and ticks without calls, at
least as many as the count is above 21; once it is due, there are at least nine of them. -/

namespace DemoColombia.Streams

/-! ## Logs -/

/-- Ticks without frames in which no call is made. -/
def Silent (w : List TickRecord) : Prop := ∀ r ∈ w, r.frames = 0 ∧ r.call = none

/-- Ticks in which no call is made. -/
def CallFree (w : List TickRecord) : Prop := ∀ r ∈ w, r.call = none

/-- The calls made for a stream, in order. -/
def calls (log : List TickRecord) : List SourceCall := log.filterMap TickRecord.call

/-- A deletion, a re-add, a deletion, and so on. -/
def Alternates (cs : List SourceCall) : Prop :=
  cs.IsChain (· ≠ ·) ∧ cs.head? ≠ some .add_source

/-- The log ends with at least `k` ticks without calls after a deletion. -/
def DeletedSince (k : ℤ) (log : List TickRecord) : Prop :=
  ∃ before d w, log = before ++ d :: w ∧ d.call = some .delete_source ∧ CallFree w ∧ k ≤ w.length

/-- The log ends with `k` silent ticks. -/
def SilentSince (k : ℤ) (log : List TickRecord) : Prop :=
  ∃ before w, log = before ++ w ∧ (w.length : ℤ) = k ∧ Silent w

/-- When a call may be made: a deletion at the end of 21 silent ticks, a re-add ten ticks or more
after the deletion. -/
def Permitted (before : List TickRecord) (r : TickRecord) : Prop :=
  (r.call = some .delete_source → r.frames = 0 ∧ SilentSince 20 before) ∧
    (r.call = some .add_source → DeletedSince 9 before)

variable {log : List TickRecord} {r : TickRecord} {k : ℤ}

theorem calls_concat : calls (log ++ [r]) = calls log ++ r.call.toList := by
  rw [calls, List.filterMap_append]
  cases hcall : r.call <;> simp [hcall, calls]

/-- The call of a tick is the one that is due. -/
theorem Stream.calls_tick (s : Stream) (gst : GstResults) (pad : ℕ) :
    calls (s.tick gst pad).log = calls s.log ++ (s.info.bind callDue).toList := by
  cases hinfo : s.info with
  | none => simp [Stream.tick_of_none hinfo]
  | some stream =>
    rw [Option.bind_some]
    refine Stream.tick_cases hinfo (fun hdue => ?_) (fun hdue => ?_) fun hdue => ?_
    · rw [hdue]
      exact calls_concat
    · rw [hdue]
      exact calls_concat
    · rw [hdue]
      unfold Stream.readded
      split <;> exact calls_concat

theorem calls_of_callFree {w : List TickRecord} (h : CallFree w) : calls w = [] :=
  List.filterMap_eq_nil_iff.mpr h

theorem SilentSince.concat (h : SilentSince k log) (hframes : r.frames = 0)
    (hcall : r.call = none) : SilentSince (k + 1) (log ++ [r]) := by
  obtain ⟨before, w, rfl, hlength, hw⟩ := h
  refine ⟨before, w ++ [r], by rw [List.append_assoc], by simp [hlength], fun s hs => ?_⟩
  rcases List.mem_append.mp hs with hs | hs
  · exact hw s hs
  · obtain rfl := List.mem_singleton.mp hs
    exact ⟨hframes, hcall⟩

theorem silentSince_zero : SilentSince 0 log :=
  ⟨log, [], (List.append_nil _).symm, rfl, fun _ ht => absurd ht List.not_mem_nil⟩

theorem DeletedSince.concat (h : DeletedSince k log) (hcall : r.call = none) :
    DeletedSince (k + 1) (log ++ [r]) := by
  obtain ⟨before, d, w, rfl, hd, hw, hlength⟩ := h
  refine ⟨before, d, w ++ [r], by rw [List.append_assoc, List.cons_append], hd, fun s hs => ?_, ?_⟩
  · rcases List.mem_append.mp hs with hs | hs
    · exact hw s hs
    · obtain rfl := List.mem_singleton.mp hs
      exact hcall
  · rw [List.length_append, List.length_singleton]
    omega

theorem DeletedSince.mono {k' : ℤ} (h : DeletedSince k log) (hk : k' ≤ k) :
    DeletedSince k' log := by
  obtain ⟨before, d, w, hlog, hd, hw, hlength⟩ := h
  exact ⟨before, d, w, hlog, hd, hw, by omega⟩

/-- The deletion is the last call. -/
theorem DeletedSince.getLast? (h : DeletedSince k log) :
    (calls log).getLast? = some .delete_source := by
  obtain ⟨before, d, w, rfl, hd, hw, -⟩ := h
  have hw' : calls w = [] := calls_of_callFree hw
  rw [calls] at hw' ⊢
  rw [List.filterMap_append, List.filterMap_cons, hd, hw']
  simp

theorem Alternates.concat {cs : List SourceCall} {c : SourceCall} (h : Alternates cs)
    (hlast : cs.getLast? ≠ some c) (hfirst : c = .add_source → cs ≠ []) :
    Alternates (cs ++ [c]) := by
  refine ⟨List.isChain_append.mpr ⟨h.1, List.isChain_singleton c, ?_⟩, ?_⟩
  · rintro x hx y hy rfl
    rw [List.head?_cons, Option.mem_some_iff] at hy
    exact hlast (hy ▸ hx)
  · cases cs with
    | nil => exact fun hc => hfirst (Option.some.inj hc) rfl
    | cons d cs => exact h.2

/-! ## The phases of a stream -/

/-- How the slot of a stream is related to its log. -/
inductive Phase (stream : StreamSourceInfo) (log : List TickRecord) : Prop
  /-- The source is in place. -/
  | playing (reset : stream.reset = .NONE) (bin : stream.source_bin ≠ none)
      (low : 0 ≤ stream.noFrameCount) (high : stream.noFrameCount ≤ 20)
      (last : (calls log).getLast? ≠ some .delete_source)
      (silent : SilentSince stream.noFrameCount log)
  /-- The source has been deleted. -/
  | waiting (reset : stream.reset = .WAITING) (bin : stream.source_bin ≠ none)
      (low : 0 ≤ stream.noFrameCount) (high : stream.noFrameCount ≤ 29)
      (deleted : DeletedSince (stream.noFrameCount - 21) log)
  /-- The source is to be added again. -/
  | due (reset : stream.reset = .ADD_STREAM) (bin : stream.source_bin ≠ none)
      (low : 0 ≤ stream.noFrameCount) (high : stream.noFrameCount ≤ 30)
      (deleted : DeletedSince 9 log)
  /-- The source could not be created again; nothing happens any more. -/
  | lost (reset : stream.reset = .ADD_STREAM) (bin : stream.source_bin = none)
      (low : 0 ≤ stream.noFrameCount) (high : stream.noFrameCount ≤ 31)

namespace Phase

variable {stream : StreamSourceInfo}

/-- A tick without a call. -/
theorem counted (h : Phase stream log) (hdue : callDue stream = none) :
    Phase stream.counted (log ++ [⟨stream.frameCount, none, stream.counted⟩]) := by
  have hcalls : ∀ after, calls (log ++ [⟨stream.frameCount, none, after⟩]) = calls log := by
    intro after
    rw [calls_concat]
    exact List.append_nil _
  cases h with
  | playing reset bin low high last silent =>
    by_cases hframes : stream.frameCount = 0
    · -- one more silent tick, and not yet 21 of them
      have hlt : stream.noFrameCount < 20 := by
        by_contra hge
        have := callDue_eq_delete_source.mpr ⟨bin, hframes, by omega, .inl reset⟩
        rw [hdue] at this
        cases this
      have hcount := counted_noFrameCount_of_silent bin hframes
      refine .playing (by simp [StreamSourceInfo.counted, reset]) bin (by omega) (by omega) ?_ ?_
      · rwa [hcalls]
      · rw [hcount]
        exact silent.concat hframes rfl
    · have hcount := counted_noFrameCount_of_frames bin hframes
      refine .playing (by simp [StreamSourceInfo.counted, reset]) bin (by omega) (by omega) ?_ ?_
      · rwa [hcalls]
      · rw [hcount]
        exact silentSince_zero
  | waiting reset bin low high deleted =>
    have hdeleted := deleted.concat (r := ⟨stream.frameCount, none, stream.counted⟩) rfl
    by_cases hframes : stream.frameCount = 0
    · have hcount := counted_noFrameCount_of_silent bin hframes
      by_cases hlong : 29 ≤ stream.noFrameCount
      · exact .due (by simp [StreamSourceInfo.counted, reset, bin, hframes, hlong]) bin (by omega)
          (by omega) (hdeleted.mono (by omega))
      · exact .waiting (by simp [StreamSourceInfo.counted, reset, hlong]) bin (by omega)
          (by omega) (hdeleted.mono (by omega))
    · have hcount := counted_noFrameCount_of_frames bin hframes
      exact .waiting (by simp [StreamSourceInfo.counted, reset, hframes]) bin (by omega) (by omega)
        (hdeleted.mono (by omega))
  | due reset bin low high deleted =>
    have hdeleted := deleted.concat (r := ⟨stream.frameCount, none, stream.counted⟩) rfl
    refine .due (by simp [StreamSourceInfo.counted, reset]) bin ?_ ?_ (hdeleted.mono (by omega))
    · simp only [StreamSourceInfo.counted]
      split_ifs <;> omega
    · -- with thirty silent ticks the call would be due
      have hlt : stream.frameCount = 0 → stream.noFrameCount < 20 := by
        intro hframes
        by_contra hge
        have := callDue_eq_add_source.mpr ⟨bin, hframes, by omega, reset⟩
        rw [hdue] at this
        cases this
      simp only [StreamSourceInfo.counted]
      split_ifs <;> omega
  | lost reset bin low high =>
    refine .lost (by simp [StreamSourceInfo.counted, reset]) bin ?_ ?_ <;>
      simpa [StreamSourceInfo.counted, bin]

/-- A tick that deletes the source. -/
theorem deleted (h : Phase stream log) (hdue : callDue stream = some .delete_source) :
    (stream.frameCount = 0 ∧ SilentSince 20 log) ∧
      (calls log).getLast? ≠ some .delete_source ∧
      Phase { stream.counted with reset := .WAITING } (log ++
        [⟨stream.frameCount, some .delete_source, { stream.counted with reset := .WAITING }⟩]) := by
  obtain ⟨bin, hframes, hcount, hreset⟩ := callDue_eq_delete_source.mp hdue
  cases h with
  | playing reset _ low high last silent =>
    have htwenty : stream.noFrameCount = 20 := by omega
    have hcounted : stream.counted.noFrameCount = 21 := by
      rw [counted_noFrameCount_of_silent bin hframes, htwenty]
      rfl
    refine ⟨⟨hframes, htwenty ▸ silent⟩, last, .waiting rfl bin ?_ ?_ ?_⟩
    · simp [hcounted]
    · simp [hcounted]
    · exact ⟨log, _, [], rfl, rfl, fun t ht => absurd ht List.not_mem_nil, by simp [hcounted]⟩
  | waiting reset => simp [reset] at hreset
  | due reset => simp [reset] at hreset
  | lost reset => simp [reset] at hreset

/-- A tick that tries to add the source again, with success or without. -/
theorem readded (h : Phase stream log) (hdue : callDue stream = some .add_source)
    (hcall : r.call = some .add_source) : DeletedSince 9 log ∧
      (∀ source_bin, Phase (stream.renewed source_bin) (log ++ [r])) ∧
      Phase { stream.counted with source_bin := none } (log ++ [r]) := by
  obtain ⟨bin, hframes, hcount, hreset⟩ := callDue_eq_add_source.mp hdue
  cases h with
  | due reset _ low high deleted =>
    refine ⟨deleted, fun source_bin => ?_, ?_⟩
    · refine .playing rfl (Option.some_ne_none _) (le_refl _) ?_ ?_ silentSince_zero
      · simp [StreamSourceInfo.renewed]
      · rw [calls_concat, hcall]
        simp
    · refine .lost (by simp [StreamSourceInfo.counted, reset]) rfl ?_ ?_ <;>
        simp only [StreamSourceInfo.counted, bin, hframes, if_true, if_false] <;> omega
  | playing reset => simp [reset] at hreset
  | waiting reset => simp [reset] at hreset
  | lost _ bin' => exact absurd bin' bin

/-- The phase does not depend on the frames of the current tick. -/
theorem countFrame (h : Phase stream log) :
    Phase { stream with frameCount := stream.frameCount + 1 } log := by
  cases h with
  | playing reset bin low high last silent => exact .playing reset bin low high last silent
  | waiting reset bin low high deleted => exact .waiting reset bin low high deleted
  | due reset bin low high deleted => exact .due reset bin low high deleted
  | lost reset bin low high => exact .lost reset bin low high

theorem reset_eq (h : Phase stream log) :
    stream.reset = .NONE ∨ stream.reset = .WAITING ∨ stream.reset = .ADD_STREAM := by
  cases h with
  | playing reset => exact .inl reset
  | waiting reset => exact .inr (.inl reset)
  | due reset | lost reset => exact .inr (.inr reset)

theorem noFrameCount_le (h : Phase stream log) :
    0 ≤ stream.noFrameCount ∧ stream.noFrameCount ≤ 31 := by
  cases h <;> omega

end Phase

/-- The slot and the log of a stream are related, and every call in the log was permitted. -/
structure Scheduled (s : Stream) : Prop where
  phase : ∃ stream, s.info = some stream ∧ Phase stream s.log
  permitted : Throughout Permitted s.log
  alternates : Alternates (calls s.log)

/-- A new record without a call. -/
theorem permitted_of_no_call (hcall : r.call = none) : Permitted log r := by
  refine ⟨fun h => ?_, fun h => ?_⟩ <;> rw [hcall] at h <;> cases h

namespace Scheduled

variable {s : Stream}

/-- One more record in the log. -/
theorem push (h : Scheduled s) {after : StreamSourceInfo} {bins : List SourceBin} {sink : Bool}
    (hphase : Phase after (s.log ++ [r])) (hpermitted : Permitted s.log r)
    (halternates : Alternates (calls s.log ++ r.call.toList)) :
    Scheduled ⟨some after, bins, sink, s.log ++ [r]⟩ := by
  refine ⟨⟨after, rfl, hphase⟩, throughout_concat.mpr ⟨h.permitted, hpermitted⟩, ?_⟩
  rwa [calls_concat]

/-- **A tick keeps the schedule.** -/
theorem tick (h : Scheduled s) (gst : GstResults) (pad : ℕ) : Scheduled (s.tick gst pad) := by
  obtain ⟨stream, hinfo, hphase⟩ := h.phase
  refine Stream.tick_cases hinfo (fun hdue => ?_) (fun hdue => ?_) fun hdue => ?_
  · refine h.push (hphase.counted hdue) (permitted_of_no_call rfl) ?_
    simpa using h.alternates
  · obtain ⟨hsilent, hlast, hphase'⟩ := hphase.deleted hdue
    refine h.push hphase' ⟨fun _ => hsilent, fun hcall => ?_⟩ ?_
    · cases hcall
    · exact h.alternates.concat hlast fun hc => by cases hc
  · have hdeleted : DeletedSince 9 s.log := (hphase.readded (r := ⟨0, _, stream⟩) hdue rfl).1
    have hlast : (calls s.log).getLast? = some .delete_source := hdeleted.getLast?
    -- the last call is a deletion, so a re-add may follow
    have halternates : Alternates (calls s.log ++ [.add_source]) := by
      refine h.alternates.concat (by simp [hlast]) fun _ hnil => ?_
      rw [hnil] at hlast
      cases hlast
    have hpermitted : ∀ after, Permitted s.log ⟨stream.frameCount, some .add_source, after⟩ :=
      fun after => ⟨fun hcall => (by cases hcall), fun _ => hdeleted⟩
    unfold Stream.readded
    split
    · exact h.push (hphase.readded hdue rfl).2.2 (hpermitted _) halternates
    · exact h.push ((hphase.readded hdue rfl).2.1 _) (hpermitted _) halternates

theorem countFrame (h : Scheduled s) : Scheduled s.countFrame := by
  obtain ⟨stream, hinfo, hphase⟩ := h.phase
  exact ⟨⟨_, Stream.info_countFrame hinfo, hphase.countFrame⟩, h.permitted, h.alternates⟩

/-- A stream starts on schedule. -/
theorem registered (use_nvurisrcbin : Bool) (position : ℕ) (source : Source) :
    Scheduled (.registered use_nvurisrcbin position source) := by
  have hzero : (0 : ℤ) ≤ 20 := by decide
  refine ⟨⟨_, rfl, ?_⟩, .nil _, List.isChain_nil, fun hfirst => by cases hfirst⟩
  exact .playing rfl (Option.some_ne_none _) (le_refl _) hzero (fun hlast => by cases hlast)
    silentSince_zero

end Scheduled

/-- What the schedule promises about a slot and the log of its stream. -/
structure OnSchedule (stream : StreamSourceInfo) (log : List TickRecord) : Prop where
  reset : stream.reset = .NONE ∨ stream.reset = .WAITING ∨ stream.reset = .ADD_STREAM
  noFrameCount : 0 ≤ stream.noFrameCount ∧ stream.noFrameCount ≤ 31
  /-- The calls are a deletion, a re-add, a deletion, and so on. -/
  alternates : (calls log).IsChain (· ≠ ·) ∧ (calls log).head? ≠ some .add_source
  /-- A deletion ends 21 ticks without frames, all after the last call. -/
  delete_source : ∀ before r after, log = before ++ r :: after → r.call = some .delete_source →
    r.frames = 0 ∧ ∃ earlier w, before = earlier ++ w ∧ w.length = 20 ∧
      ∀ t ∈ w, t.frames = 0 ∧ t.call = none
  /-- A re-add follows a deletion, with nine ticks or more in between. -/
  add_source : ∀ before r after, log = before ++ r :: after → r.call = some .add_source →
    ∃ earlier d w, before = earlier ++ d :: w ∧ d.call = some .delete_source ∧
      (∀ t ∈ w, t.call = none) ∧ 9 ≤ w.length

/-- **The reset schedule.** Take any sources at the pads `0..n-1`, in any order, registered by
`add_source`, and any run of ticks and frames with any results of the GStreamer calls. In every
state of the run every stream is on schedule: its state and its counter stay in bounds, deletions
and re-adds alternate, a deletion ends 21 silent ticks since the registration or the last re-add,
and a re-add comes ten ticks or more after the deletion it follows. -/
theorem reset_schedule {use_nvurisrcbin : Bool} {sources : List Source} {n : ℕ}
    (hpads : (sources.map Source.pad_index).Perm (List.range n)) {p : Pipeline}
    (h : Reachable Pipeline.next (startup use_nvurisrcbin sources) p) {i : ℕ} (hi : i < n) :
    ∃ stream, p.streams_.slot i = some stream ∧ OnSchedule stream (p.log i) := by
  have hscheduled : Scheduled (p.stream i) := by
    obtain ⟨position, source, -, -, hstart⟩ := exists_registered hpads hi
    refine Pipeline.stream_invariant h ((num_sources_of_perm _ hpads).symm ▸ hi) ?_
      (fun s hs => hs.countFrame) fun q gst _ _ hq => hq.tick (gst i) i
    rw [hstart]
    exact .registered use_nvurisrcbin position source
  obtain ⟨stream, hinfo, hphase⟩ := hscheduled.phase
  refine ⟨stream, hinfo, hphase.reset_eq, hphase.noFrameCount_le, hscheduled.alternates,
    fun before r after hlog hcall => ?_, fun before r after hlog hcall => ?_⟩
  · obtain ⟨hframes, earlier, w, hbefore, hlength, hw⟩ :=
      (hscheduled.permitted before r after hlog).1 hcall
    exact ⟨hframes, earlier, w, hbefore, by omega, hw⟩
  · obtain ⟨earlier, d, w, hbefore, hd, hw, hlength⟩ :=
      (hscheduled.permitted before r after hlog).2 hcall
    exact ⟨earlier, d, w, hbefore, hd, hw, by omega⟩

/-- One camera that stays silent for 31 ticks: it is deleted on the 21st and added again on the
31st, with exactly nine ticks in between. -/
theorem reset_schedule_cycle :
    ∃ p : Pipeline, calls (p.log 0) = [.delete_source, .add_source] ∧
      ∃ stream, p.streams_.slot 0 = some stream ∧ OnSchedule stream (p.log 0) := by
  have hrun : ((exec Pipeline.next (startup true [.sample 0])
      (List.replicate 31 (.tick fun _ => .success))).map fun p => calls (p.log 0))
      = some [.delete_source, .add_source] := by
    decide +kernel
  obtain ⟨p, hexec, hcalls⟩ := Option.map_eq_some_iff.mp hrun
  exact ⟨p, hcalls, reset_schedule (n := 1) (by decide) (reachable_of_exec hexec) (by decide)⟩

end DemoColombia.Streams
