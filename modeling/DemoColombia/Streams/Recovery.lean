import DemoColombia.Streams.Schedule

/-! # No stream is given up

Before a re-add `check_performance` clears `source_bin`, and it looks only at streams whose
`source_bin` is not null. As long as `create_source_bin` succeeds on every re-add no stream is given
up (`streams_recover`): the pointer is never null between ticks, and a stream that stays silent is
added again within 31 ticks, whatever the other calls came to. A re-add without a bin ends the
monitoring of its stream for good (`abandoned_forever`).

`patience` is the number of silent ticks that a stream takes until its next re-add; each silent tick
uses one of them up. -/

namespace DemoColombia.Streams

/-- The silent ticks until the next re-add is attempted, the one that makes it included. -/
def StreamSourceInfo.patience (stream : StreamSourceInfo) : ℤ :=
  match stream.reset with
  | .ADD_STREAM => max 1 (21 - stream.noFrameCount)
  | _ => 31 - stream.noFrameCount

/-- Ticks without frames in which the source is not added again. -/
def Unattended (w : List TickRecord) : Prop := ∀ r ∈ w, r.frames = 0 ∧ r.call ≠ some .add_source

/-- `create_source_bin` succeeds on every re-add that the tick makes. -/
def Pipeline.Recreates (p : Pipeline) : Event → Prop
  | .frame _ => True
  | .tick gst => ∀ i < p.num_sources_, ∀ stream ∈ p.streams_.slot i,
      callDue stream = some .add_source → (gst i).create = true

instance (p : Pipeline) : DecidablePred p.Recreates
  | .frame _ => isTrue trivial
  | .tick _ =>
    inferInstanceAs (Decidable (∀ i < p.num_sources_, ∀ stream ∈ p.streams_.slot i, _ → _))

/-- The ticks at the end of the log, this one included, are at most thirty if they are without
frames and re-adds. -/
def AtMostThirty (before : List TickRecord) (r : TickRecord) : Prop :=
  ∀ earlier w, before ++ [r] = earlier ++ w → Unattended w → w.length ≤ 30

/-- The stream has a source bin, and the silent ticks at the end of its log leave it patience. -/
def Stream.Recovers (s : Stream) : Prop :=
  Throughout AtMostThirty s.log ∧
    ∃ stream, s.info = some stream ∧ stream.source_bin ≠ none ∧
      ∀ earlier w, s.log = earlier ++ w → Unattended w → w.length + stream.patience ≤ 31

variable {s : Stream} {stream : StreamSourceInfo} {gst : GstResults} {pad : ℕ}
  {log : List TickRecord}

/-- There is at least one silent tick to go. -/
theorem Phase.patience_pos (h : Phase stream log) : 1 ≤ stream.patience := by
  cases h with
  | playing reset | waiting reset =>
    simp only [StreamSourceInfo.patience, reset]
    omega
  | due reset | lost reset =>
    simp only [StreamSourceInfo.patience, reset]
    omega

theorem Phase.patience_le (h : Phase stream log) : stream.patience ≤ 31 := by
  cases h with
  | playing reset | waiting reset | due reset | lost reset =>
    simp only [StreamSourceInfo.patience, reset]
    omega

/-- **A silent tick without a re-add uses up patience**, whether it deletes the source or not. -/
theorem Phase.patience_counted (h : Phase stream log) (bin : stream.source_bin ≠ none)
    (hframes : stream.frameCount = 0) (hdue : callDue stream ≠ some .add_source) :
    stream.counted.patience + 1 ≤ stream.patience ∧
      (callDue stream = some .delete_source →
        { stream.counted with reset := .WAITING }.patience + 1 ≤ stream.patience) := by
  have hcount := counted_noFrameCount_of_silent bin hframes
  cases h with
  | playing reset _ low high =>
    have hreset : stream.counted.reset = .NONE := by simp [StreamSourceInfo.counted, reset]
    simp only [StreamSourceInfo.patience, hreset, reset, hcount]
    omega
  | waiting reset _ low high =>
    refine ⟨?_, fun hdelete => ?_⟩
    · by_cases hlong : 29 ≤ stream.noFrameCount
      · have hreset : stream.counted.reset = .ADD_STREAM := by
          simp [StreamSourceInfo.counted, reset, bin, hframes, hlong]
        simp only [StreamSourceInfo.patience, hreset, reset, hcount]
        omega
      · have hreset : stream.counted.reset = .WAITING := by
          simp [StreamSourceInfo.counted, reset, hlong]
        simp only [StreamSourceInfo.patience, hreset, reset, hcount]
        omega
    · have := (callDue_eq_delete_source.mp hdelete).2.2.2
      simp [reset] at this
  | due reset _ low high =>
    -- the call is not due, so the count is below 20
    have hlt : stream.noFrameCount < 20 := by
      by_contra hge
      exact hdue (callDue_eq_add_source.mpr ⟨bin, hframes, by omega, reset⟩)
    have hreset : stream.counted.reset = .ADD_STREAM := by
      simp [StreamSourceInfo.counted, reset]
    refine ⟨?_, fun hdelete => ?_⟩
    · simp only [StreamSourceInfo.patience, hreset, reset, hcount]
      omega
    · have := (callDue_eq_delete_source.mp hdelete).2.2.2
      simp [reset] at this
  | lost _ bin' => exact absurd bin' bin

namespace Stream.Recovers

/-- One more record in the log: it uses up patience, or it starts the count afresh. -/
theorem push (hthirty : Throughout AtMostThirty s.log)
    (hlog : ∀ earlier w, s.log = earlier ++ w → Unattended w → w.length + stream.patience ≤ 31)
    {after : StreamSourceInfo} {r : TickRecord} {bins : List SourceBin} {sink : Bool}
    (hphase : Phase after (s.log ++ [r])) (hbin : after.source_bin ≠ none)
    (huse : r.frames = 0 → r.call ≠ some .add_source → after.patience + 1 ≤ stream.patience) :
    Stream.Recovers ⟨some after, bins, sink, s.log ++ [r]⟩ := by
  have hpatience : ∀ earlier w, s.log ++ [r] = earlier ++ w → Unattended w →
      w.length + after.patience ≤ 31 := by
    intro earlier w happend hw
    rcases List.eq_nil_or_concat w with rfl | ⟨w, t, rfl⟩
    · simpa using hphase.patience_le
    · rw [List.concat_eq_append, ← List.append_assoc] at happend
      obtain ⟨hearlier, hr⟩ := List.append_inj' happend rfl
      obtain rfl : r = t := List.singleton_inj.mp hr
      have hlast := hw r (by simp)
      have hbefore := hlog earlier w hearlier fun t ht => hw t (by simp [ht])
      have hstep := huse hlast.1 hlast.2
      rw [List.concat_eq_append, List.length_append, List.length_singleton]
      omega
  refine ⟨throughout_concat.mpr ⟨hthirty, fun earlier w happend hw => ?_⟩, after, rfl, hbin,
    hpatience⟩
  -- one tick is always left
  have hleft := hpatience earlier w happend hw
  have hpos := hphase.patience_pos
  omega

/-- **A tick keeps the stream recovering** if a re-add gets its bin. -/
theorem tick (h : s.Recovers) (hscheduled : Scheduled s) (gst : GstResults) (pad : ℕ)
    (hok : ∀ stream, s.info = some stream → callDue stream = some .add_source →
      gst.create = true) : (s.tick gst pad).Recovers := by
  obtain ⟨hthirty, stream, hinfo, hbin, hlog⟩ := h
  obtain ⟨stream', hinfo', hphase⟩ := hscheduled.phase
  obtain rfl : stream = stream' := Option.some.inj (hinfo.symm.trans hinfo')
  obtain ⟨after, hafter, hphase'⟩ := (hscheduled.tick gst pad).phase
  revert hafter hphase'
  refine Stream.tick_cases hinfo (fun hdue => ?_) (fun hdue => ?_) fun hdue => ?_
  · intro hafter hphase'
    obtain rfl := Option.some.inj hafter
    refine push hthirty hlog hphase' hbin fun hframes _ => ?_
    exact (hphase.patience_counted hbin hframes (by simp [hdue])).1
  · intro hafter hphase'
    obtain rfl := Option.some.inj hafter
    refine push hthirty hlog hphase' hbin fun hframes _ => ?_
    exact (hphase.patience_counted hbin hframes (by simp [hdue])).2 hdue
  · have hcreate := hok stream hinfo hdue
    simp only [Stream.readded, create_source_bin, hcreate, if_true]
    intro hafter hphase'
    obtain rfl := Option.some.inj hafter
    refine push hthirty hlog hphase' (Option.some_ne_none _) fun _ hcall => ?_
    exact absurd rfl hcall

theorem countFrame (h : s.Recovers) : s.countFrame.Recovers := by
  obtain ⟨hthirty, stream, hinfo, hbin, hlog⟩ := h
  exact ⟨hthirty, _, Stream.info_countFrame hinfo, hbin, hlog⟩

theorem registered (use_nvurisrcbin : Bool) (position : ℕ) (source : Source) :
    (Stream.registered use_nvurisrcbin position source).Recovers := by
  refine ⟨.nil _, _, rfl, Option.some_ne_none _, fun earlier w hlog _ => ?_⟩
  obtain ⟨-, rfl⟩ := List.append_eq_nil_iff.mp hlog.symm
  exact le_refl (31 : ℤ)

end Stream.Recovers

/-- **No stream is given up while the bins can be made.** Take any sources at the pads `0..n-1`, in
any order, and any run of ticks and frames in which `create_source_bin` succeeds on every re-add,
whatever the other GStreamer calls come to. In every state of the run every stream has a source bin,
and any 31 consecutive ticks without frames of the stream contain a re-add. -/
theorem streams_recover {use_nvurisrcbin : Bool} {sources : List Source} {n : ℕ}
    (hpads : (sources.map Source.pad_index).Perm (List.range n)) {p : Pipeline}
    (h : ReachableBy Pipeline.next Pipeline.Recreates (startup use_nvurisrcbin sources) p) {i : ℕ}
    (hi : i < n) :
    (∃ stream, p.streams_.slot i = some stream ∧ stream.source_bin ≠ none) ∧
      ∀ earlier w later, p.log i = earlier ++ w ++ later → w.length = 31 →
        (∀ r ∈ w, r.frames = 0) → ∃ r ∈ w, r.call = some .add_source := by
  have hn := num_sources_of_perm use_nvurisrcbin hpads
  have hboth : Scheduled (p.stream i) ∧ (p.stream i).Recovers := by
    obtain ⟨position, source, -, -, hstart⟩ := exists_registered hpads hi
    refine Pipeline.stream_invariant (P := fun s => Scheduled s ∧ s.Recovers) h (hn.symm ▸ hi) ?_
      (fun s hs => ⟨hs.1.countFrame, hs.2.countFrame⟩) fun q gst hq hok hs => ?_
    · rw [hstart]
      exact ⟨.registered _ position source, .registered _ position source⟩
    · have hlt : i < q.num_sources_ := by omega
      exact ⟨hs.1.tick (gst i) i, hs.2.tick hs.1 (gst i) i (hok i hlt)⟩
  obtain ⟨-, hthirty, stream, hinfo, hbin, -⟩ := hboth
  refine ⟨⟨stream, hinfo, hbin⟩, fun earlier w later hlog hlength hframes => ?_⟩
  by_contra hnone
  have hunattended : Unattended w := fun r hr => ⟨hframes r hr, fun hcall => hnone ⟨r, hr, hcall⟩⟩
  -- the last tick of the window would be the 31st without a re-add
  obtain ⟨w', r, rfl⟩ : ∃ w' r, w = w' ++ [r] := by
    rcases List.eq_nil_or_concat w with rfl | ⟨w', r, rfl⟩
    · cases hlength
    · exact ⟨w', r, List.concat_eq_append⟩
  have hle := hthirty (earlier ++ w') r later (by simpa using hlog) earlier (w' ++ [r])
    (List.append_assoc _ _ _) hunattended
  omega

/-- A stream without a source bin keeps none, and no call is made for it. -/
theorem Stream.abandoned_tick (hinfo : s.info = some stream) (hbin : stream.source_bin = none) :
    s.tick gst pad = s.counted stream :=
  Stream.tick_counted hinfo (by simp [callDue, hbin])

/-- **The condition is exact**: after the first re-add whose `create_source_bin` fails the stream
has no source bin in any later state, and no call is made for it again. -/
theorem abandoned_forever {p p' p'' : Pipeline} {gst : ℕ → GstResults} {i : ℕ}
    (hi : i < p.num_sources_) (hslot : p.streams_.slot i = some stream)
    (hdue : callDue stream = some .add_source) (hcreate : (gst i).create = false)
    (hnext : p.next (.tick gst) = some p') (h : Reachable Pipeline.next p' p'') :
    (∃ after, p''.streams_.slot i = some after ∧ after.source_bin = none) ∧
      calls (p''.log i) = calls (p'.log i) := by
  have hi' : i < p'.num_sources_ := by rwa [Pipeline.num_sources_next hnext]
  have hlost : (p'.stream i).info = some { stream.counted with source_bin := none } := by
    rw [Pipeline.stream_next_tick hnext hi, Stream.tick_readded hslot hdue]
    simp [Stream.readded, create_source_bin, hcreate]
  refine Pipeline.stream_invariant (P := fun s => (∃ after, s.info = some after ∧
    after.source_bin = none) ∧ calls s.log = calls (p'.log i)) h hi' ⟨⟨_, hlost, rfl⟩, rfl⟩ ?_ ?_
  · rintro s ⟨⟨after, hafter, hbin⟩, hcalls⟩
    exact ⟨⟨_, Stream.info_countFrame hafter, hbin⟩, hcalls⟩
  · rintro q gst' - - ⟨⟨after, hafter, hbin⟩, hcalls⟩
    rw [Stream.abandoned_tick hafter hbin]
    refine ⟨⟨after.counted, rfl, hbin⟩, ?_⟩
    show calls (q.log i ++ _) = _
    rw [calls_concat]
    exact (List.append_nil _).trans hcalls

/-- One silent camera that is taken through a reset while the muxer link fails. -/
theorem streams_recover_unlinked :
    ∃ p : Pipeline, calls (p.log 0) = [.delete_source, .add_source] ∧
      (∃ stream, p.streams_.slot 0 = some stream ∧ stream.source_bin ≠ none) ∧
      ∀ earlier w later, p.log 0 = earlier ++ w ++ later → w.length = 31 →
        (∀ r ∈ w, r.frames = 0) → ∃ r ∈ w, r.call = some .add_source := by
  have hrun : ((exec (guarded Pipeline.next Pipeline.Recreates) (startup true [.sample 0])
      (List.replicate 31 (.tick fun _ => ⟨true, true, true, false, .SUCCESS, true⟩))).map
        fun p => calls (p.log 0)) = some [.delete_source, .add_source] := by
    decide +kernel
  obtain ⟨p, hexec, hcalls⟩ := Option.map_eq_some_iff.mp hrun
  exact ⟨p, hcalls,
    streams_recover (n := 1) (by decide) (reachableBy_of_exec_guarded hexec) (by decide)⟩

/-- **A camera that is given up.** One camera stays silent for 31 ticks; on the last one
`create_source_bin` returns NULL, and the registry is left without a source bin. -/
theorem camera_abandoned :
    ¬ ∀ (use_nvurisrcbin : Bool) (sources : List Source) (n : ℕ) (p : Pipeline),
      (sources.map Source.pad_index).Perm (List.range n) →
      Reachable Pipeline.next (startup use_nvurisrcbin sources) p → ∀ i < n,
        ∃ stream, p.streams_.slot i = some stream ∧ stream.source_bin ≠ none := by
  intro hall
  have hrun : ((exec Pipeline.next (startup true [.sample 0])
      (List.replicate 31 (.tick fun _ => ⟨false, true, true, true, .SUCCESS, true⟩))).map
        fun p => (p.streams_.slot 0).bind StreamSourceInfo.source_bin) = some none := by
    decide +kernel
  obtain ⟨p, hexec, hp⟩ := Option.map_eq_some_iff.mp hrun
  obtain ⟨stream, hslot, hbin⟩ :=
    hall true [.sample 0] 1 p (by decide) (reachable_of_exec hexec) 0 (by decide)
  rw [hslot] at hp
  exact hbin hp

end DemoColombia.Streams
