import DemoColombia.Streams.Schedule

/-! # The registry and the source bins of the pipeline

`check_performance` moves a stream through its reset states whatever `delete_source` and
`add_source` came to. The registry agrees with what `pipeline_` contains as long as every deletion
removes the bin and every bin that is made again is accepted (`source_bins_agree`); a call that
fails to do so makes them disagree at once (`Stream.agrees_tick_iff`). -/

namespace DemoColombia.Streams

/-- What the registry says about a stream is true of the pipeline and of the muxer. -/
structure Agrees (stream : StreamSourceInfo) (bins : List SourceBin) (sink : Bool) : Prop where
  one : bins.length ≤ 1
  /-- In state NONE the bin in the pipeline is the one the registry points to. -/
  inPlace : stream.reset = .NONE → ∃ b, stream.source_bin = some b ∧ bins = [b]
  /-- In between there is no bin and the pad is released. -/
  removed : stream.reset = .WAITING ∨ stream.reset = .ADD_STREAM → bins = [] ∧ sink = false

/-- The call that is due does its work: a deletion removes the bin, and a bin that is made again is
accepted. -/
def CleanCall (stream : StreamSourceInfo) (gst : GstResults) : Prop :=
  (callDue stream = some .delete_source → gst.set_state.removes = true) ∧
    (callDue stream = some .add_source → gst.create = true → gst.bin_add = true)

/-- Every call that the tick makes does its work. -/
def Pipeline.Clean (p : Pipeline) : Event → Prop
  | .frame _ => True
  | .tick gst => ∀ i < p.num_sources_, ∀ stream ∈ p.streams_.slot i, CleanCall stream (gst i)

instance (stream : StreamSourceInfo) (gst : GstResults) : Decidable (CleanCall stream gst) :=
  inferInstanceAs (Decidable (_ ∧ _))

instance (p : Pipeline) : DecidablePred p.Clean
  | .frame _ => isTrue trivial
  | .tick _ =>
    inferInstanceAs (Decidable (∀ i < p.num_sources_, ∀ stream ∈ p.streams_.slot i, _))

/-- A stream whose registry entry is true. -/
def Stream.Agrees (s : Stream) : Prop :=
  ∃ stream, s.info = some stream ∧
    (stream.reset = .NONE ∨ stream.reset = .WAITING ∨ stream.reset = .ADD_STREAM) ∧
    Streams.Agrees stream s.bins s.sink

/-- Every GStreamer call that the tick makes succeeds. -/
def Pipeline.Succeeds (p : Pipeline) : Event → Prop
  | .frame _ => True
  | .tick gst => ∀ i < p.num_sources_, ∀ stream ∈ p.streams_.slot i,
      (callDue stream = some .delete_source → (gst i).set_state.removes = true) ∧
        (callDue stream = some .add_source → (gst i).create = true ∧ (gst i).bin_add = true ∧
          (gst i).request_pad = true ∧ (gst i).pad_link = true ∧ (gst i).set_state ≠ .FAILURE)

instance (p : Pipeline) : DecidablePred p.Succeeds
  | .frame _ => isTrue trivial
  | .tick _ =>
    inferInstanceAs (Decidable (∀ i < p.num_sources_, ∀ stream ∈ p.streams_.slot i, _ ∧ _))

/-- A tick whose calls all succeed. -/
def Event.quietTick : Event := .tick fun _ => .success

theorem Pipeline.succeeds_quietTick (p : Pipeline) : p.Succeeds .quietTick := by
  intro i _ stream _
  exact ⟨fun _ => rfl, fun _ => ⟨rfl, rfl, rfl, rfl, fun h => by cases h⟩⟩

/-- It comes to an end. -/
theorem Pipeline.next_quietTick (p : Pipeline) :
    p.next .quietTick = some (p.check_performance fun _ => .success) := by
  refine Pipeline.next_tick_eq_some.mpr ⟨?_, rfl⟩
  rintro ⟨i, -, -, hblocks⟩
  cases hblocks

/-- Calls that succeed do their work. -/
theorem Pipeline.Succeeds.clean {p : Pipeline} {e : Event} (h : p.Succeeds e) : p.Clean e := by
  cases e with
  | frame pad => trivial
  | tick gst =>
    intro i hi stream hslot
    exact ⟨(h i hi stream hslot).1, fun hdue _ => ((h i hi stream hslot).2 hdue).2.1⟩

variable {s : Stream} {stream : StreamSourceInfo} {gst : GstResults} {pad : ℕ}

/-- In state NONE nothing is said about the muxer. -/
theorem Agrees.of_none {b : SourceBin} {sink : Bool} (hreset : stream.reset = .NONE)
    (hbin : stream.source_bin = some b) : Agrees stream [b] sink := by
  refine ⟨le_refl 1, fun _ => ⟨b, hbin, rfl⟩, fun h => ?_⟩
  rcases h with h | h <;> rw [hreset] at h <;> cases h

/-- Without a bin and a pad the state must not be NONE. -/
theorem Agrees.of_removed (hreset : stream.reset ≠ .NONE) : Agrees stream [] false :=
  ⟨Nat.zero_le 1, fun h => absurd h hreset, fun _ => ⟨rfl, rfl⟩⟩

/-- The counting part of a tick keeps the agreement. -/
theorem Agrees.counted {bins : List SourceBin} {sink : Bool} (h : Agrees stream bins sink) :
    Agrees stream.counted bins sink := by
  rcases counted_reset stream with hsame | ⟨hwaiting, hadd⟩
  · exact ⟨h.one, fun hnone => h.inPlace (hsame ▸ hnone), fun hgone => h.removed (hsame ▸ hgone)⟩
  · obtain ⟨rfl, rfl⟩ := h.removed (.inl hwaiting)
    exact .of_removed (by simp [hadd])

/-- A tick without a call. -/
theorem Stream.Agrees.counted (h : Streams.Agrees stream s.bins s.sink)
    (hreset : stream.reset = .NONE ∨ stream.reset = .WAITING ∨ stream.reset = .ADD_STREAM) :
    (s.counted stream).Agrees := by
  refine ⟨_, rfl, ?_, h.counted⟩
  rcases counted_reset stream with hsame | ⟨-, hadd⟩
  · rwa [hsame]
  · exact .inr (.inr hadd)

/-- A deletion of the bin in place: the agreement is kept iff the bin is removed. -/
theorem Stream.agrees_deleted_iff {b : SourceBin} (hb : stream.source_bin = some b)
    (hbins : s.bins = [b]) : (s.deleted gst stream).Agrees ↔ gst.set_state.removes = true := by
  cases hremoves : gst.set_state.removes with
  | true =>
    refine iff_of_true ⟨_, rfl, .inr (.inl rfl), ?_⟩ rfl
    have hgone : (s.deleted gst stream).bins = [] ∧ (s.deleted gst stream).sink = false := by
      simp [Stream.deleted, hremoves, hbins, hb]
    rw [hgone.1, hgone.2]
    exact .of_removed (by simp)
  | false =>
    refine iff_of_false ?_ Bool.false_ne_true
    rintro ⟨after, hafter, -, hgone⟩
    -- the stream waits while its bin is still there
    obtain rfl := Option.some.inj hafter
    have hempty := (hgone.removed (.inl rfl)).1
    simp [Stream.deleted, hremoves, hbins] at hempty

/-- A re-add where there is no bin: the agreement is kept iff a bin that was made is accepted. -/
theorem Stream.agrees_readded_iff (hreset : stream.reset = .ADD_STREAM) (hbins : s.bins = [])
    (hsink : s.sink = false) : (s.readded gst pad stream).Agrees ↔
      (gst.create = true → gst.bin_add = true) := by
  cases hcreate : gst.create with
  | false =>
    refine iff_of_true ?_ fun h => by cases h
    have hcounted : stream.counted.reset = .ADD_STREAM := by
      rcases counted_reset stream with hsame | ⟨-, hadd⟩
      · rw [hsame, hreset]
      · exact hadd
    simp only [Stream.readded, create_source_bin, hcreate, Bool.false_eq_true, if_false]
    refine ⟨_, rfl, .inr (.inr hcounted), ?_⟩
    rw [hbins, hsink]
    exact .of_removed (by simp [hcounted])
  | true =>
    simp only [Stream.readded, create_source_bin, hcreate, if_true, hbins, forall_const]
    cases hadd : gst.bin_add with
    | true => exact iff_of_true ⟨_, rfl, .inl rfl, .of_none rfl rfl⟩ rfl
    | false =>
      refine iff_of_false ?_ Bool.false_ne_true
      rintro ⟨after, hafter, -, hgone⟩
      -- the registry says NONE, but the bin was refused
      obtain rfl := Option.some.inj hafter
      obtain ⟨b, -, hb⟩ := hgone.inPlace rfl
      cases hb

/-- **A tick keeps the agreement iff the call it makes does its work.** -/
theorem Stream.agrees_tick_iff (h : s.Agrees) (hinfo : s.info = some stream) :
    (s.tick gst pad).Agrees ↔ CleanCall stream gst := by
  obtain ⟨stream', hinfo', hreset, hagrees⟩ := h
  obtain rfl : stream = stream' := Option.some.inj (hinfo.symm.trans hinfo')
  refine Stream.tick_cases hinfo (fun hdue => ?_) (fun hdue => ?_) fun hdue => ?_
  · exact iff_of_true (.counted hagrees hreset) (by simp [CleanCall, hdue])
  · -- a deletion starts from NONE, with the bin in place
    have hnone : stream.reset = .NONE := by
      rcases (callDue_eq_delete_source.mp hdue).2.2.2 with h | h
      · exact h
      · simp [h] at hreset
    obtain ⟨b, hb, hbins⟩ := hagrees.inPlace hnone
    rw [Stream.agrees_deleted_iff hb hbins]
    simp [CleanCall, hdue]
  · have hadd : stream.reset = .ADD_STREAM := (callDue_eq_add_source.mp hdue).2.2.2
    obtain ⟨hbins, hsink⟩ := hagrees.removed (.inr hadd)
    rw [Stream.agrees_readded_iff hadd hbins hsink]
    simp [CleanCall, hdue]

/-- A frame changes nothing the agreement is about. -/
theorem Stream.Agrees.countFrame (h : s.Agrees) : s.countFrame.Agrees := by
  obtain ⟨stream, hinfo, hreset, hagrees⟩ := h
  exact ⟨_, Stream.info_countFrame hinfo, hreset, hagrees.one, hagrees.inPlace, hagrees.removed⟩

theorem Stream.Agrees.registered (use_nvurisrcbin : Bool) (position : ℕ) (source : Source) :
    (Stream.registered use_nvurisrcbin position source).Agrees :=
  ⟨_, rfl, .inl rfl, .of_none rfl rfl⟩

/-- Along a run whose calls do their work a registry entry stays true. -/
theorem Pipeline.agrees_of_reachable {p₀ p : Pipeline} {i : ℕ}
    (h : ReachableBy Pipeline.next Pipeline.Clean p₀ p) (hi : i < p₀.num_sources_)
    (hstart : (p₀.stream i).Agrees) : (p.stream i).Agrees := by
  refine Pipeline.stream_invariant h hi hstart (fun s hs => hs.countFrame)
    fun q gst hq hclean hagrees => ?_
  obtain ⟨stream, hinfo, -⟩ := id hagrees
  have hlt : i < q.num_sources_ := by omega
  exact (Stream.agrees_tick_iff hagrees hinfo).mpr (hclean i hlt stream hinfo)

/-- **Registry and pipeline agree as long as the calls do their work.** Take any sources at the
pads `0..n-1`, in any order, and any run of ticks and frames in which every deletion removes the
bin and every bin that is made again is accepted by `gst_bin_add`. In every state of the run, for
every pad: at most one source bin is in the pipeline; in state NONE it is the one the registry
points to; in the states WAITING and ADD_STREAM there is none and the muxer pad is released. -/
theorem source_bins_agree {use_nvurisrcbin : Bool} {sources : List Source} {n : ℕ}
    (hpads : (sources.map Source.pad_index).Perm (List.range n)) {p : Pipeline}
    (h : ReachableBy Pipeline.next Pipeline.Clean (startup use_nvurisrcbin sources) p) {i : ℕ}
    (hi : i < n) :
    ∃ stream, p.streams_.slot i = some stream ∧ Agrees stream (p.bins i) (p.sinks i) := by
  have hn := num_sources_of_perm use_nvurisrcbin hpads
  obtain ⟨position, source, -, -, hstart⟩ := exists_registered hpads hi
  obtain ⟨stream, hinfo, -, hagrees⟩ :=
    Pipeline.agrees_of_reachable h (hn.symm ▸ hi) (hstart ▸ .registered _ position source)
  exact ⟨stream, hinfo, hagrees⟩

/-- The condition is exact: the first call that does not do its work makes a registry entry false.
-/
theorem not_agrees_of_not_clean {p p' : Pipeline} {e : Event}
    (hagrees : ∀ i < p.num_sources_, (p.stream i).Agrees) (hbad : ¬ p.Clean e)
    (hnext : p.next e = some p') : ∃ i < p'.num_sources_, ¬ (p'.stream i).Agrees := by
  cases e with
  | frame pad => exact absurd trivial hbad
  | tick gst =>
    obtain rfl := (Pipeline.next_tick_eq_some.mp hnext).2
    simp only [Pipeline.Clean, not_forall] at hbad
    obtain ⟨i, hi, stream, hinfo, hbad⟩ := hbad
    refine ⟨i, by rwa [p.num_sources_check_performance], ?_⟩
    rw [p.stream_check_performance, if_pos hi]
    exact mt (Stream.agrees_tick_iff (hagrees i hi) hinfo).mp hbad

/-- One silent camera whose source is deleted (asynchronously) and added again. -/
theorem source_bins_agree_cycle :
    ∃ p : Pipeline, calls (p.log 0) = [.delete_source, .add_source] ∧
      ∃ stream, p.streams_.slot 0 = some stream ∧ Agrees stream (p.bins 0) (p.sinks 0) := by
  have hrun : ((exec (guarded Pipeline.next Pipeline.Clean) (startup true [.sample 0])
      (List.replicate 31 (.tick fun _ => ⟨true, true, true, true, .ASYNC, true⟩))).map
        fun p => calls (p.log 0)) = some [.delete_source, .add_source] := by
    decide +kernel
  obtain ⟨p, hexec, hcalls⟩ := Option.map_eq_some_iff.mp hrun
  exact ⟨p, hcalls,
    source_bins_agree (n := 1) (by decide) (reachableBy_of_exec_guarded hexec) (by decide)⟩

/-- **A deletion that fails leaves the bin.** One camera stays silent for 21 ticks and
`gst_element_set_state` answers FAILURE: the stream is WAITING with its bin in the pipeline. -/
theorem bin_left_in_pipeline :
    ¬ ∀ (use_nvurisrcbin : Bool) (sources : List Source) (n : ℕ) (p : Pipeline),
      (sources.map Source.pad_index).Perm (List.range n) →
      Reachable Pipeline.next (startup use_nvurisrcbin sources) p → ∀ i < n,
        ∃ stream, p.streams_.slot i = some stream ∧ Agrees stream (p.bins i) (p.sinks i) := by
  intro hall
  have hrun : ((exec Pipeline.next (startup true [.sample 0])
      (List.replicate 21 (.tick fun _ => ⟨true, true, true, true, .FAILURE, true⟩))).map
        fun p => ((p.streams_.slot 0).map StreamSourceInfo.reset, (p.bins 0).length))
      = some (some .WAITING, 1) := by
    decide +kernel
  obtain ⟨p, hexec, hp⟩ := Option.map_eq_some_iff.mp hrun
  obtain ⟨hreset, hbins⟩ := Prod.mk.inj hp
  obtain ⟨stream, hslot, hagrees⟩ :=
    hall true [.sample 0] 1 p (by decide) (reachable_of_exec hexec) 0 (by decide)
  rw [hslot] at hreset
  rw [(hagrees.removed (.inl (Option.some.inj hreset))).1] at hbins
  cases hbins

end DemoColombia.Streams
