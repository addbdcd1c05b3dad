import DemoColombia.Streams.SourceBins

/-! # What a re-add restores

A re-add takes the uri, the camera, the pad and the description from the registry, but the kind of
the source element from a constant and the index of the source from the pad; the first add took them
from the command line and from the running count. So the registry always comes back as it was, and
the source bin does exactly when the program runs with `use_nvurisrcbin` and the stream stands at
its own pad number in the sources list (`readding_restores_iff`). -/

namespace DemoColombia.Streams

/-- Two bins were created for the same source: the same name, uri, kind of element and source id. -/
def SameSource (b b' : SourceBin) : Prop :=
  b.name = b'.name ∧ b.uri = b'.uri ∧ b.uri_decode_bin = b'.uri_decode_bin

/-- The registry still knows the entry: its uri, camera, pad and description. -/
def StreamSourceInfo.Knows (stream : StreamSourceInfo) (source : Source) : Prop :=
  stream.uri = source.uri ∧ stream.camera_id = source.camera_id ∧
    stream.pad_index = source.pad_index ∧ stream.description = source.description

variable {s : Stream} {stream : StreamSourceInfo} {source : Source} {gst : GstResults}
  {position pad : ℕ}

/-- No tick changes the parameters of a stream. -/
theorem Stream.knows_tick (h : ∃ stream, s.info = some stream ∧ stream.Knows source) :
    ∃ stream, (s.tick gst pad).info = some stream ∧ stream.Knows source := by
  obtain ⟨stream, hinfo, hknows⟩ := h
  refine Stream.tick_cases hinfo (fun _ => ⟨_, rfl, hknows⟩) (fun _ => ⟨_, rfl, hknows⟩) fun _ => ?_
  unfold Stream.readded
  split
  · exact ⟨_, rfl, hknows⟩
  · exact ⟨_, rfl, hknows⟩

theorem Stream.knows_countFrame (h : ∃ stream, s.info = some stream ∧ stream.Knows source) :
    ∃ stream, s.countFrame.info = some stream ∧ stream.Knows source := by
  obtain ⟨stream, hinfo, hknows⟩ := h
  exact ⟨_, Stream.info_countFrame hinfo, hknows⟩

/-- A known slot after a successful re-add is the one `add_source` writes for the entry. -/
theorem StreamSourceInfo.Knows.renewed (h : stream.Knows source) (b : SourceBin) :
    stream.renewed b = .new source.uri source.camera_id source.pad_index source.description b := by
  obtain ⟨huri, hcamera, hpad, hdescription⟩ := h
  simp [StreamSourceInfo.renewed, StreamSourceInfo.new, huri, hcamera, hpad, hdescription]

/-- The bin of a re-add and the first bin of the entry. -/
theorem sameSource_firstBin_iff {address : ℕ} {use_nvurisrcbin : Bool} :
    SameSource (.new address source.pad_index source.uri true)
        (source.firstBin use_nvurisrcbin position) ↔
      use_nvurisrcbin = true ∧ source.pad_index = position := by
  cases use_nvurisrcbin with
  | false => simp [SameSource, Source.firstBin, SourceBin.new]
  | true =>
    simp only [SameSource, Source.firstBin, SourceBin.new, if_true, true_and,
      UriDecodeBin.nvurisrcbin.injEq]
    exact ⟨fun h => h.2, fun h => ⟨by rw [h], h⟩⟩

/-- The call that a tick makes for a stream is the one that is due. -/
theorem Pipeline.callDue_of_calls {p p' : Pipeline} {gst : ℕ → GstResults} {i : ℕ}
    {call : SourceCall} (hnext : p.next (.tick gst) = some p')
    (hcalls : calls (p'.log i) = calls (p.log i) ++ [call]) :
    i < p.num_sources_ ∧ ∃ stream, p.streams_.slot i = some stream ∧
      callDue stream = some call := by
  have hstream := (Pipeline.next_tick_eq_some.mp hnext).2 ▸ p.stream_check_performance (i := i) gst
  have hlog : p'.log i = (p'.stream i).log := rfl
  rw [hlog, hstream] at hcalls
  split at hcalls
  · rename_i hi
    rw [Stream.calls_tick] at hcalls
    have hcalls := List.append_cancel_left hcalls
    have hdue : (p.streams_.slot i).bind callDue = some call := by
      cases hbind : (p.streams_.slot i).bind callDue with
      | none => simp [hbind] at hcalls
      | some c => simpa [hbind] using hcalls
    exact ⟨hi, Option.bind_eq_some_iff.mp hdue⟩
  · -- a stream that is not visited makes no call
    simp at hcalls

/-- The state of an entry's stream after a successful re-add. -/
theorem Stream.readded_of_succeeds (pad : ℕ) (hagrees : s.Agrees) (hinfo : s.info = some stream)
    (hknows : stream.Knows source) (hdue : callDue stream = some .add_source)
    (hcreate : gst.create = true) (hadd : gst.bin_add = true) :
    let b := SourceBin.new (freshAddress []) pad source.uri true
    (s.readded gst pad stream).info
        = some (.new source.uri source.camera_id source.pad_index source.description b) ∧
      (s.readded gst pad stream).bins = [b] := by
  obtain ⟨stream', hinfo', -, hagrees⟩ := hagrees
  obtain rfl : stream = stream' := Option.some.inj (hinfo.symm.trans hinfo')
  have hbins : s.bins = [] := (hagrees.removed (.inr (callDue_eq_add_source.mp hdue).2.2.2)).1
  simp only [Stream.readded, create_source_bin, hcreate, hadd, if_true, hbins, hknows.1]
  exact ⟨congrArg some (hknows.renewed _), rfl⟩

/-- **What a re-add restores.** Take any sources at distinct pads and either value of
`use_nvurisrcbin`, and any run of ticks and frames in which every GStreamer call succeeds. When a
tick adds the stream of an entry again, the registry holds the parameters of the entry with the
counters at 0 and reset NONE, and the bin that is now the only one of the pad was created like the
first one iff `use_nvurisrcbin` is set and the pad is the position of the entry in the list. -/
theorem readding_restores_iff {use_nvurisrcbin : Bool} {sources : List Source}
    (hnodup : (sources.map Source.pad_index).Nodup) {p p' : Pipeline} {gst : ℕ → GstResults}
    (h : ReachableBy Pipeline.next Pipeline.Succeeds (startup use_nvurisrcbin sources) p)
    (hsucceeds : p.Succeeds (.tick gst)) (hnext : p.next (.tick gst) = some p')
    (hentry : sources[position]? = some source)
    (hcalls : calls (p'.log source.pad_index) = calls (p.log source.pad_index) ++ [.add_source]) :
    ∃ b, p'.streams_.slot source.pad_index
          = some (.new source.uri source.camera_id source.pad_index source.description b) ∧
        p'.bins source.pad_index = [b] ∧
        (SameSource b (source.firstBin use_nvurisrcbin position) ↔
          use_nvurisrcbin = true ∧ source.pad_index = position) := by
  obtain ⟨hi, stream, hslot, hdue⟩ := Pipeline.callDue_of_calls hnext hcalls
  have hstart : (startup use_nvurisrcbin sources).stream source.pad_index
      = .registered use_nvurisrcbin position source := stream_startup hnodup hentry
  have hi₀ : source.pad_index < (startup use_nvurisrcbin sources).num_sources_ := by
    rwa [← Pipeline.num_sources_reachable h]
  have hagrees : (p.stream source.pad_index).Agrees :=
    Pipeline.agrees_of_reachable (h.mono fun _ _ hok => hok.clean) hi₀
      (hstart ▸ .registered _ position source)
  have hknows : ∃ stream, (p.stream source.pad_index).info = some stream ∧ stream.Knows source := by
    refine Pipeline.stream_invariant
      (P := fun s => ∃ stream, s.info = some stream ∧ stream.Knows source) h hi₀ ?_
      (fun _ => Stream.knows_countFrame) fun _ _ _ _ => Stream.knows_tick
    rw [hstart]
    exact ⟨_, rfl, rfl, rfl, rfl, rfl⟩
  obtain ⟨stream', hslot', hknows⟩ := hknows
  obtain rfl : stream = stream' := Option.some.inj (hslot.symm.trans hslot')
  obtain ⟨hcreate, hadd, -⟩ := (hsucceeds _ hi stream hslot).2 hdue
  have hstream : p'.stream source.pad_index
      = (p.stream source.pad_index).readded (gst source.pad_index) source.pad_index stream := by
    rw [Pipeline.stream_next_tick hnext hi, Stream.tick_readded hslot hdue]
  obtain ⟨hinfo, hbins⟩ :=
    Stream.readded_of_succeeds source.pad_index hagrees hslot hknows hdue hcreate hadd
  exact ⟨_, (congrArg Stream.info hstream).trans hinfo, (congrArg Stream.bins hstream).trans hbins,
    sameSource_firstBin_iff⟩

/-- One silent camera: thirty ticks, and the one that adds it again. -/
theorem readd_sample (use_nvurisrcbin : Bool) :
    ∃ p p' : Pipeline,
      ReachableBy Pipeline.next Pipeline.Succeeds (startup use_nvurisrcbin [.sample 0]) p ∧
        p.Succeeds .quietTick ∧ p.next .quietTick = some p' ∧
        calls (p'.log 0) = calls (p.log 0) ++ [.add_source] := by
  have hrun : ((exec (guarded Pipeline.next Pipeline.Succeeds)
      (startup use_nvurisrcbin [.sample 0]) (List.replicate 30 .quietTick)).bind fun p =>
        (guarded Pipeline.next Pipeline.Succeeds p .quietTick).map fun p' =>
          (calls (p.log 0), calls (p'.log 0)))
      = some ([.delete_source], [.delete_source, .add_source]) := by
    cases use_nvurisrcbin <;> decide +kernel
  obtain ⟨p, hexec, hrest⟩ := Option.bind_eq_some_iff.mp hrun
  obtain ⟨p', hlast, hcalls⟩ := Option.map_eq_some_iff.mp hrest
  obtain ⟨hbefore, hafter⟩ := Prod.mk.inj hcalls
  obtain ⟨hok, hnext⟩ := guarded_eq_some.mp hlast
  exact ⟨p, p', reachableBy_of_exec_guarded hexec, hok, hnext, by rw [hafter, hbefore]; rfl⟩

/-- The camera run with `use_nvurisrcbin` comes back as it was. -/
theorem readding_restores_camera :
    ∃ (p' : Pipeline) (b : SourceBin),
      p'.streams_.slot 0 = some (.new "rtsp://camera" "camera" 0 "" b) ∧ p'.bins 0 = [b] ∧
        (SameSource b ((Source.sample 0).firstBin true 0) ↔ true = true ∧ 0 = 0) := by
  obtain ⟨p, p', hreach, hok, hnext, hcalls⟩ := readd_sample true
  have hentry : [Source.sample 0][0]? = some (.sample 0) := rfl
  obtain ⟨b, hb⟩ := readding_restores_iff (by decide) hreach hok hnext hentry hcalls
  exact ⟨p', b, hb⟩

/-- **Another source element.** Without the command-line flag the camera was read by `uridecodebin`;
after the re-add it is read by `nvurisrcbin`. -/
theorem camera_changes_element :
    ¬ ∀ (use_nvurisrcbin : Bool) (sources : List Source) (position : ℕ) (source : Source)
      (p p' : Pipeline) (gst : ℕ → GstResults), (sources.map Source.pad_index).Nodup →
      ReachableBy Pipeline.next Pipeline.Succeeds (startup use_nvurisrcbin sources) p →
      p.Succeeds (.tick gst) → p.next (.tick gst) = some p' → sources[position]? = some source →
      calls (p'.log source.pad_index) = calls (p.log source.pad_index) ++ [.add_source] →
      ∃ b, p'.streams_.slot source.pad_index
            = some (.new source.uri source.camera_id source.pad_index source.description b) ∧
          p'.bins source.pad_index = [b] ∧
          SameSource b (source.firstBin use_nvurisrcbin position) := by
  intro hall
  have hrun : ((exec (guarded Pipeline.next Pipeline.Succeeds) (startup false [.sample 0])
      (List.replicate 30 .quietTick)).bind fun p =>
        (guarded Pipeline.next Pipeline.Succeeds p .quietTick).map fun p' =>
          (calls (p.log 0), calls (p'.log 0), (p'.bins 0).map SourceBin.uri_decode_bin))
      = some ([.delete_source], [.delete_source, .add_source], [.nvurisrcbin 0]) := by
    decide +kernel
  obtain ⟨p, hexec, hrest⟩ := Option.bind_eq_some_iff.mp hrun
  obtain ⟨p', hlast, hcalls⟩ := Option.map_eq_some_iff.mp hrest
  obtain ⟨hbefore, hcalls⟩ := Prod.mk.inj hcalls
  obtain ⟨hafter, helement⟩ := Prod.mk.inj hcalls
  obtain ⟨hok, hnext⟩ := guarded_eq_some.mp hlast
  obtain ⟨b, -, hbins, -, -, hsame⟩ := hall false [.sample 0] 0 (.sample 0) p p' _ (by decide)
    (reachableBy_of_exec_guarded hexec) hok hnext rfl (by
      show calls (p'.log 0) = calls (p.log 0) ++ _
      rw [hafter, hbefore]
      rfl)
  have hbins : p'.bins 0 = [b] := hbins
  rw [hbins] at helement
  have helement : b.uri_decode_bin = .nvurisrcbin 0 := List.singleton_inj.mp helement
  rw [helement] at hsame
  cases hsame

end DemoColombia.Streams
