import DemoColombia.Streams.Readding
import DemoColombia.Streams.Recovery

/-! # The names of the source bins

A bin is named after the position of its entry when the program starts, and after its pad when it is
made again. The two numberings agree when the entries stand in the order of their pads; otherwise
some stream that is added again takes the name of a bin that is still in the pipeline. And names are
cut after fourteen bytes, so `source-bin-1000` is `source-bin-100` again. These are the only ways in
which names collide (`names_distinct_iff`). -/

namespace DemoColombia.Streams

/-- The names of the source bins that are in the pipeline. -/
def Pipeline.names (p : Pipeline) : List (List UInt8) :=
  (List.range p.num_sources_).flatMap fun i => (p.bins i).map SourceBin.name

/-! ## Names and numbers -/

/-- The text of a name with up to three digits fits the buffer. -/
theorem length_source_bin_name_le {i : ℕ} (hi : i < 1000) :
    ("source-bin-" ++ zeroPadded 2 i).toUTF8.toList.length ≤ 15 - 1 := by
  have hascii : ∀ c ∈ ("source-bin-" ++ zeroPadded 2 i).toList, c.utf8Size = 1 := by
    intro c hc
    rw [String.toList_append, List.mem_append] at hc
    rcases hc with hc | hc
    · have hall : ("source-bin-".toList.all fun c => c.utf8Size == 1) = true := by decide
      exact eq_of_beq (List.all_eq_true.mp hall c hc)
    · exact utf8Size_of_mem_zeroPadded hc
  have hdigits : (toString i).length ≤ 3 := (Nat.length_repr_le_iff (by decide)).mpr hi
  have hprefix : "source-bin-".length = 11 := by decide
  rw [length_toUTF8 hascii, String.length_append, length_zeroPadded, hprefix]
  omega

/-- Below a thousand a name tells the number. -/
theorem source_bin_name_inj {i j : ℕ} (hi : i < 1000) (hj : j < 1000) :
    source_bin_name i = source_bin_name j ↔ i = j := by
  rw [source_bin_name, source_bin_name,
    g_snprintf_inj (length_source_bin_name_le hi) (length_source_bin_name_le hj),
    String.append_right_inj, zeroPadded_inj]

/-- The fifteenth byte is cut off. -/
theorem source_bin_name_thousand : source_bin_name 1000 = source_bin_name 100 := by
  decide +kernel

/-! ## Collisions -/

/-- The names are distinct iff no pad has two bins and no two pads have bins of the same name. -/
theorem Pipeline.nodup_names_iff {p : Pipeline} : p.names.Nodup ↔
    (∀ i < p.num_sources_, ((p.bins i).map SourceBin.name).Nodup) ∧
      ∀ i < p.num_sources_, ∀ j < p.num_sources_, i ≠ j →
        ∀ b ∈ p.bins i, ∀ b' ∈ p.bins j, b.name ≠ b'.name := by
  have hsymm : Std.Symm (Function.onFun List.Disjoint fun i => (p.bins i).map SourceBin.name) :=
    ⟨fun _ _ h _ hb ha => h ha hb⟩
  rw [names, List.nodup_flatMap]
  simp only [List.mem_range]
  refine and_congr_right fun _ => ⟨fun hpairwise i hi j hj hij b hb b' hb' hname => ?_, fun h => ?_⟩
  · have hdisjoint := hpairwise.forall (List.mem_range.mpr hi) (List.mem_range.mpr hj) hij
    exact hdisjoint (List.mem_map_of_mem hb) (hname ▸ List.mem_map_of_mem hb')
  · refine (List.nodup_range.imp_of_mem fun hi hj hij => ?_)
    intro name hi' hj'
    obtain ⟨b, hb, rfl⟩ := List.mem_map.mp hi'
    obtain ⟨b', hb', hname⟩ := List.mem_map.mp hj'
    exact h _ (List.mem_range.mp hi) _ (List.mem_range.mp hj) hij b hb b' hb' hname.symm

/-! ## Entries in order -/

variable {s : Stream} {stream : StreamSourceInfo} {gst : GstResults} {pad : ℕ}

/-- Every bin of the stream is named after its pad. -/
def Stream.Named (pad : ℕ) (s : Stream) : Prop := ∀ b ∈ s.bins, b.name = source_bin_name pad

/-- A bin that is made again is named after its pad. -/
theorem Stream.Named.tick (h : s.Named pad) : (s.tick gst pad).Named pad := by
  cases hinfo : s.info with
  | none => rwa [Stream.tick_of_none hinfo]
  | some stream =>
    refine Stream.tick_cases hinfo (fun _ => h) (fun _ b hb => ?_) fun _ b hb => ?_
    · simp only [Stream.deleted] at hb
      split at hb
      · exact h b (List.mem_of_mem_filter hb)
      · exact h b hb
    · cases hcreate : gst.create with
      | false =>
        simp only [Stream.readded, create_source_bin, hcreate, Bool.false_eq_true, if_false] at hb
        exact h b hb
      | true =>
        simp only [Stream.readded, create_source_bin, hcreate, if_true] at hb
        split at hb
        · rcases List.mem_append.mp hb with hb | hb
          · exact h b hb
          · rw [List.mem_singleton.mp hb]
            rfl
        · exact h b hb

/-- With the entries in the order of their pads, an entry stands at the position of its pad. -/
theorem pad_index_of_order {sources : List Source} {n position : ℕ} {source : Source}
    (horder : sources.map Source.pad_index = List.range n)
    (h : sources[position]? = some source) : source.pad_index = position := by
  have hpad : (sources.map Source.pad_index)[position]? = some source.pad_index := by
    rw [List.getElem?_map, h]
    rfl
  rw [horder] at hpad
  obtain ⟨hlt, heq⟩ := List.getElem?_eq_some_iff.mp hpad
  rwa [List.getElem_range, eq_comm] at heq

/-- **In order, and at most a thousand: no collision.** -/
theorem nodup_names_of_order {use_nvurisrcbin : Bool} {sources : List Source} {n : ℕ}
    (horder : sources.map Source.pad_index = List.range n) (hn : n ≤ 1000) {p : Pipeline}
    (h : ReachableBy Pipeline.next Pipeline.Clean (startup use_nvurisrcbin sources) p) :
    p.names.Nodup := by
  have hpads : (sources.map Source.pad_index).Perm (List.range n) := horder ▸ .refl _
  have hnum : p.num_sources_ = n := by
    rw [Pipeline.num_sources_reachable h, num_sources_of_perm _ hpads]
  have hnamed : ∀ i < n, (p.stream i).Named i := by
    intro i hi
    obtain ⟨position, source, hposition, rfl, hstart⟩ := exists_registered hpads hi
    refine Pipeline.stream_invariant h ((num_sources_of_perm _ hpads).symm ▸ hi) ?_
      (fun s hs => hs) fun q gst _ _ hq => hq.tick
    rw [hstart]
    intro b hb
    rw [List.mem_singleton.mp hb, pad_index_of_order horder hposition]
    rfl
  refine Pipeline.nodup_names_iff.mpr ⟨fun i hi => ?_, fun i hi j hj hij b hb b' hb' hname => ?_⟩
  · -- at most one bin for a pad
    obtain ⟨stream, -, hagrees⟩ := source_bins_agree hpads h (hnum ▸ hi)
    have hone := hagrees.one
    match hbins : p.bins i, hone with
    | [], _ => exact List.nodup_nil
    | [b], _ => exact List.nodup_singleton _
  · rw [hnamed i (hnum ▸ hi) b hb, hnamed j (hnum ▸ hj) b' hb',
      source_bin_name_inj (by omega) (by omega)] at hname
    exact hij hname

/-! ## Entries out of order -/

/-- A stream that has counted a frame and whose only bin is `b`. -/
def Stream.Busy (b : SourceBin) (s : Stream) : Prop :=
  ∃ stream, s.info = some stream ∧ 0 < stream.frameCount ∧ s.bins = [b]

/-- A stream that has frames is left alone. -/
theorem Stream.Busy.bins_tick {b : SourceBin} (h : s.Busy b) :
    (∃ stream, (s.tick gst pad).info = some stream ∧ stream.frameCount = 0) ∧
      (s.tick gst pad).bins = [b] := by
  obtain ⟨stream, hinfo, hframes, hbins⟩ := h
  have hdue : callDue stream = none := by
    have hne : stream.frameCount ≠ 0 := by omega
    simp [callDue, hne]
  rw [Stream.tick_counted hinfo hdue]
  exact ⟨⟨_, rfl, rfl⟩, hbins⟩

/-- A tick and a frame keep it busy. -/
theorem Stream.Busy.round {b : SourceBin} (h : s.Busy b) :
    (s.tick gst pad).countFrame.Busy b := by
  obtain ⟨⟨stream, hinfo, hframes⟩, hbins⟩ := h.bins_tick
  exact ⟨_, Stream.info_countFrame hinfo, by simp [hframes], hbins⟩

/-- A stream that has counted no frames, on schedule and with a source bin. -/
def Stream.Idle (s : Stream) : Prop :=
  Scheduled s ∧ ∃ stream, s.info = some stream ∧ stream.source_bin ≠ none ∧ stream.frameCount = 0

/-- **A silent tick brings an idle stream closer to its re-add.** -/
theorem Stream.Idle.tick (h : s.Idle) (hinfo : s.info = some stream)
    (hdue : callDue stream ≠ some .add_source) : (s.tick gst pad).Idle ∧
      ∃ after, (s.tick gst pad).info = some after ∧ after.patience + 1 ≤ stream.patience := by
  obtain ⟨hscheduled, stream', hinfo', hbin, hframes⟩ := h
  obtain rfl : stream = stream' := Option.some.inj (hinfo.symm.trans hinfo')
  obtain ⟨stream', hinfo', hphase⟩ := hscheduled.phase
  obtain rfl : stream = stream' := Option.some.inj (hinfo.symm.trans hinfo')
  obtain ⟨hcounted, hdeleted⟩ := hphase.patience_counted hbin hframes hdue
  -- nothing is called, or the source is deleted
  have hafter : ∃ after, (s.tick gst pad).info = some after ∧ after.source_bin ≠ none ∧
      after.frameCount = 0 ∧ after.patience + 1 ≤ stream.patience := by
    refine Stream.tick_cases hinfo (fun _ => ?_) (fun hcall => ?_) fun hcall => ?_
    · exact ⟨_, rfl, hbin, rfl, hcounted⟩
    · exact ⟨_, rfl, hbin, rfl, hdeleted hcall⟩
    · exact absurd hcall hdue
  obtain ⟨after, hinfo, hbin, hframes, hless⟩ := hafter
  exact ⟨⟨hscheduled.tick gst pad, after, hinfo, hbin, hframes⟩, after, hinfo, hless⟩

/-- While one stream is kept busy, an idle one gets to the tick that adds it again. -/
theorem reach_readd (m : ℕ) : ∀ (p : Pipeline) (stream : StreamSourceInfo) {i j : ℕ}
    {b : SourceBin}, i < p.num_sources_ → j < p.num_sources_ → i ≠ j → (p.stream i).Idle →
    p.streams_.slot i = some stream → stream.patience ≤ m → (p.stream j).Busy b →
    ∃ p' after, ReachableBy Pipeline.next Pipeline.Succeeds p p' ∧
      p'.streams_.slot i = some after ∧ callDue after = some .add_source ∧
      (p'.stream j).Busy b := by
  induction m with
  | zero =>
    intro p stream i j b _ _ _ hidle hslot hpatience _
    obtain ⟨stream', hinfo, hphase⟩ := hidle.1.phase
    obtain rfl : stream = stream' := Option.some.inj (hslot.symm.trans hinfo)
    have hpos := hphase.patience_pos
    omega
  | succ m ih =>
    intro p stream i j b hi hj hij hidle hslot hpatience hbusy
    by_cases hdue : callDue stream = some .add_source
    · exact ⟨p, stream, .refl, hslot, hdue, hbusy⟩
    -- one tick and one frame of the busy stream
    let p₁ := p.check_performance fun _ => .success
    let p₂ := p₁.countFrame j
    have hnum : p₂.num_sources_ = p.num_sources_ := p.num_sources_check_performance _
    have hstep : ReachableBy Pipeline.next Pipeline.Succeeds p p₂ :=
      (ReachableBy.refl.step p.succeeds_quietTick p.next_quietTick).step
        (i := Event.frame j) trivial rfl
    have hstream₂ : p₂.stream i = (p.stream i).tick .success i := by
      rw [Pipeline.stream_countFrame, if_neg hij, p.stream_check_performance, if_pos hi]
    have hbusy₂ : (p₂.stream j).Busy b := by
      rw [Pipeline.stream_countFrame, if_pos rfl, p.stream_check_performance, if_pos hj]
      exact hbusy.round
    obtain ⟨hidle₂, after, hafter, hless⟩ := hidle.tick hslot hdue
    rw [← hstream₂] at hidle₂ hafter
    obtain ⟨p', last, hreach, hlast⟩ :=
      ih p₂ after (hnum ▸ hi) (hnum ▸ hj) hij hidle₂ hafter (by omega) hbusy₂
    exact ⟨p', last, hstep.trans hreach, hlast⟩

/-- A bin that has just been made again is named after its pad. -/
theorem Stream.mem_bins_readded (s : Stream) (pad : ℕ) (stream : StreamSourceInfo)
    (hcreate : gst.create = true) (hadd : gst.bin_add = true) :
    ∃ b ∈ (s.readded gst pad stream).bins, b.name = source_bin_name pad := by
  simp only [Stream.readded, create_source_bin, hcreate, hadd, if_true]
  exact ⟨_, List.mem_append_right _ (List.mem_singleton_self _), rfl⟩

/-- **An entry that does not stand at the position of its pad makes a collision**: once its stream
has been added again it has the name of the first bin of the entry at that position. -/
theorem collision_of_displaced (use_nvurisrcbin : Bool) {sources : List Source} {n : ℕ}
    (hpads : (sources.map Source.pad_index).Perm (List.range n)) {position : ℕ} {source : Source}
    (hentry : sources[position]? = some source) (hne : source.pad_index ≠ position) :
    ∃ p, ReachableBy Pipeline.next Pipeline.Succeeds (startup use_nvurisrcbin sources) p ∧
      ¬ p.names.Nodup := by
  have hnodup : (sources.map Source.pad_index).Nodup := hpads.nodup_iff.mpr List.nodup_range
  -- the entry at the position that has the number of the pad
  have hi : source.pad_index < n :=
    List.mem_range.mp (hpads.mem_iff.mp (List.mem_map_of_mem (List.mem_of_getElem? hentry)))
  obtain ⟨other, hother, hj⟩ := exists_entry hpads hi
  have hij : source.pad_index ≠ other.pad_index := fun heq =>
    hne (position_inj hnodup hentry hother heq).symm
  have hnum : (startup use_nvurisrcbin sources).num_sources_ = n := num_sources_of_perm _ hpads
  let p₀ := (startup use_nvurisrcbin sources).countFrame other.pad_index
  have hidle : p₀.stream source.pad_index = .registered use_nvurisrcbin position source := by
    rw [Pipeline.stream_countFrame, if_neg hij, stream_startup hnodup hentry]
  have hbusy : (p₀.stream other.pad_index).Busy
      (other.firstBin use_nvurisrcbin source.pad_index) := by
    rw [Pipeline.stream_countFrame, if_pos rfl, stream_startup hnodup hother]
    exact ⟨_, rfl, one_pos, rfl⟩
  obtain ⟨p, stream, hreach, hslot, hdue, hbusy'⟩ := reach_readd 31 p₀ _ (hnum ▸ hi) (hnum ▸ hj) hij
    (hidle ▸ ⟨.registered _ position source, _, rfl, Option.some_ne_none _, rfl⟩)
    (congrArg Stream.info hidle) (le_refl _) hbusy
  -- the tick that adds it again
  have hnum₀ : p.num_sources_ = n := (Pipeline.num_sources_reachable hreach).trans hnum
  let p' := p.check_performance fun _ => .success
  have hnum' : p'.num_sources_ = n := (p.num_sources_check_performance _).trans hnum₀
  have hstart : ReachableBy Pipeline.next Pipeline.Succeeds (startup use_nvurisrcbin sources) p₀ :=
    ReachableBy.refl.step (i := Event.frame other.pad_index) trivial rfl
  refine ⟨p', (hstart.trans hreach).step p.succeeds_quietTick p.next_quietTick, fun hnames => ?_⟩
  have hreadded : p'.stream source.pad_index
      = (p.stream source.pad_index).readded .success source.pad_index stream := by
    rw [p.stream_check_performance, if_pos (hnum₀ ▸ hi), Stream.tick_readded hslot hdue]
  have hkept : p'.stream other.pad_index
      = (p.stream other.pad_index).tick .success other.pad_index := by
    rw [p.stream_check_performance, if_pos (hnum₀ ▸ hj)]
  obtain ⟨b, hb, hname⟩ : ∃ b ∈ p'.bins source.pad_index,
      b.name = source_bin_name source.pad_index := by
    rw [← p'.stream_bins, hreadded]
    exact Stream.mem_bins_readded _ _ _ rfl rfl
  have hbins : p'.bins other.pad_index = [other.firstBin use_nvurisrcbin source.pad_index] := by
    rw [← p'.stream_bins, hkept]
    exact hbusy'.bins_tick.2
  exact (Pipeline.nodup_names_iff.mp hnames).2 _ (hnum' ▸ hi) _ (hnum' ▸ hj) hij b hb _
    (hbins ▸ List.mem_singleton_self _) hname

/-! ## When names collide -/

/-- With more than a thousand entries two first bins share a name. -/
theorem collision_of_thousand (use_nvurisrcbin : Bool) {sources : List Source} {n : ℕ}
    (hpads : (sources.map Source.pad_index).Perm (List.range n)) (hn : 1000 < n) :
    ¬ (startup use_nvurisrcbin sources).names.Nodup := by
  have hnodup : (sources.map Source.pad_index).Nodup := hpads.nodup_iff.mpr List.nodup_range
  have hnum : (startup use_nvurisrcbin sources).num_sources_ = n := num_sources_of_perm _ hpads
  have hbin : ∀ {position : ℕ} {source : Source}, sources[position]? = some source →
      source.firstBin use_nvurisrcbin position ∈
        (startup use_nvurisrcbin sources).bins source.pad_index := by
    intro position source hentry
    rw [← Pipeline.stream_bins, stream_startup hnodup hentry]
    exact List.mem_singleton_self _
  obtain ⟨first, hfirst, hi⟩ := exists_entry hpads (by omega : 100 < n)
  obtain ⟨second, hsecond, hj⟩ := exists_entry hpads hn
  have hij : second.pad_index ≠ first.pad_index := by
    intro heq
    have hposition := position_inj hnodup hsecond hfirst heq
    omega
  intro hnames
  exact (Pipeline.nodup_names_iff.mp hnames).2 _ (hnum ▸ hj) _ (hnum ▸ hi) hij _ (hbin hsecond) _
    (hbin hfirst) source_bin_name_thousand

/-- **Names are distinct iff the entries stand in the order of their pads and there are at most a
thousand.** Take any sources at the pads `0..n-1`, in any order. The names of the source bins that
are in the pipeline at the same time are pairwise distinct in every run of ticks and frames whose
GStreamer calls succeed, iff the sources are listed by pad and `n ≤ 1000`. -/
theorem names_distinct_iff (use_nvurisrcbin : Bool) {sources : List Source} {n : ℕ}
    (hpads : (sources.map Source.pad_index).Perm (List.range n)) :
    (∀ p, ReachableBy Pipeline.next Pipeline.Succeeds (startup use_nvurisrcbin sources) p →
        p.names.Nodup) ↔
      sources.map Source.pad_index = List.range n ∧ n ≤ 1000 := by
  constructor
  · intro hdistinct
    refine ⟨List.ext_getElem (by rw [hpads.length_eq]) fun position hposition hposition' => ?_, ?_⟩
    · -- an entry at another position would make a collision
      rw [List.getElem_map, List.getElem_range]
      by_contra hne
      rw [List.length_map] at hposition
      have hentry : sources[position]? = some _ := List.getElem?_eq_getElem hposition
      obtain ⟨p, hreach, hcollision⟩ := collision_of_displaced use_nvurisrcbin hpads hentry hne
      exact hcollision (hdistinct p hreach)
    · by_contra hn
      exact collision_of_thousand use_nvurisrcbin hpads (by omega) (hdistinct _ .refl)
  · rintro ⟨horder, hn⟩ p h
    exact nodup_names_of_order horder hn (h.mono fun _ _ hok => hok.clean)

/-- Two cameras listed in the order of their pads. -/
theorem names_distinct_two :
    (∀ p, ReachableBy Pipeline.next Pipeline.Succeeds (startup true [.sample 0, .sample 1]) p →
        p.names.Nodup) ↔
      [Source.sample 0, Source.sample 1].map Source.pad_index = List.range 2 ∧ 2 ≤ 1000 :=
  names_distinct_iff true (.refl _)

/-- **Two cameras in the other order.** Pad `1` is listed first, so its first bin is
`source-bin-00` and that of pad `0` is `source-bin-01`; once the stream of pad `1` has been added
again, both bins are called `source-bin-01`. -/
theorem two_cameras_share_name :
    ¬ ∀ (use_nvurisrcbin : Bool) (sources : List Source) (n : ℕ),
      (sources.map Source.pad_index).Perm (List.range n) →
      ∀ p, ReachableBy Pipeline.next Pipeline.Succeeds (startup use_nvurisrcbin sources) p →
        p.names.Nodup := by
  intro hall
  have hpads : ([Source.sample 1, Source.sample 0].map Source.pad_index).Perm (List.range 2) := by
    decide
  have hentry : [Source.sample 1, Source.sample 0][0]? = some (.sample 1) := rfl
  obtain ⟨p, hreach, hcollision⟩ := collision_of_displaced true hpads hentry (by decide)
  exact hcollision (hall true _ 2 hpads p hreach)

end DemoColombia.Streams
