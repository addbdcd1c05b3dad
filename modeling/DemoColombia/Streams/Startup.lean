import DemoColombia.Perception.Frames
import DemoColombia.Streams.CheckPerformance
import Mathlib.Data.List.Induction

/-! # The start of the program

`main` prepares one output directory for each entry of the sources list and calls `add_source` for
each entry, in the order of the list. An entry is known by four numbers: its position in the list
(the name of its first source bin), its `pad_index` (its slot), the index of the tick loop that
visits it and the number of its directory.

* `stream_startup` — what `main` leaves in a slot when every GStreamer call succeeds.
* `liesIn_frame_path_iff` — a saved frame is put into the directory of its pad exactly when the path
  up to the file name fits the buffer it is formatted in.
* `enumerations_cover_iff` — the tick loop and the directories cover the registered pads exactly
  when every `pad_index` is smaller than the number of entries and its path fits. -/

namespace DemoColombia.Streams

open Perception (c_str c_str_eq_self frame_filename)

/-! ## Registering the sources -/

/-- An entry of the sources file. -/
structure Source where
  uri : String
  camera_id : String
  pad_index : ℕ
  description : String
  deriving DecidableEq

/-- Every GStreamer call succeeds. -/
def GstResults.success : GstResults := ⟨true, true, true, true, .SUCCESS, true⟩

/-- The first `add_source` call for an entry. -/
def Pipeline.register (use_nvurisrcbin : Bool) (p : Pipeline) (source : Source) : Pipeline :=
  p.add_source .success source.uri source.camera_id source.pad_index source.description
    use_nvurisrcbin false

/-- The registry after the start-up calls of `main` have succeeded. -/
def startup (use_nvurisrcbin : Bool) (sources : List Source) : Pipeline :=
  sources.foldl (Pipeline.register use_nvurisrcbin) .new

/-- The part of a pad that no entry uses. -/
def Stream.unregistered : Stream := ⟨none, [], false, []⟩

/-- The first source bin of the entry at `position` of the list. -/
def Source.firstBin (use_nvurisrcbin : Bool) (position : ℕ) (source : Source) : SourceBin :=
  .new (freshAddress []) position source.uri use_nvurisrcbin

/-- The stream of the entry at `position` of the list, as `main` registers it. -/
def Stream.registered (use_nvurisrcbin : Bool) (position : ℕ) (source : Source) : Stream where
  info := some (.new source.uri source.camera_id source.pad_index source.description
    (source.firstBin use_nvurisrcbin position))
  bins := [source.firstBin use_nvurisrcbin position]
  sink := true
  log := []

variable {use_nvurisrcbin : Bool} {sources : List Source} {source : Source} {i position : ℕ}

theorem startup_concat : startup use_nvurisrcbin (sources ++ [source])
    = (startup use_nvurisrcbin sources).register use_nvurisrcbin source := by
  rw [startup, List.foldl_append]
  rfl

/-- The running count is the number of entries. -/
theorem num_sources_startup : (startup use_nvurisrcbin sources).num_sources_ = sources.length := by
  induction sources using List.reverseRecOn with
  | nil => rfl
  | append_singleton sources source ih =>
    rw [startup_concat, Pipeline.register, Pipeline.add_source_of_create _ _ _ _ _ _ _ rfl,
      List.length_append, ← ih]
    rfl

theorem stream_startup_of_notMem (h : i ∉ sources.map Source.pad_index) :
    (startup use_nvurisrcbin sources).stream i = .unregistered := by
  induction sources using List.reverseRecOn with
  | nil => rfl
  | append_singleton sources source ih =>
    rw [List.map_append, List.mem_append, not_or] at h
    have hne : i ≠ source.pad_index := fun heq => h.2 (by simp [heq])
    rw [startup_concat, Pipeline.register, Pipeline.stream_add_source_of_ne _ _ _ _ hne, ih h.1]

/-- **Each entry is registered at its pad**, under the number of its position. -/
theorem stream_startup (hnodup : (sources.map Source.pad_index).Nodup)
    (h : sources[position]? = some source) :
    (startup use_nvurisrcbin sources).stream source.pad_index
      = .registered use_nvurisrcbin position source := by
  induction sources using List.reverseRecOn with
  | nil => cases h
  | append_singleton sources last ih =>
    rw [List.map_append, List.map_singleton, List.nodup_append_comm] at hnodup
    obtain ⟨hlast, hnodup⟩ := List.nodup_cons.mp hnodup
    rw [startup_concat, Pipeline.register]
    rcases Nat.lt_or_ge position sources.length with hlt | hge
    · -- an earlier entry: the last one has another pad
      rw [List.getElem?_append_left hlt] at h
      have hne : source.pad_index ≠ last.pad_index := fun heq =>
        hlast (heq ▸ List.mem_map_of_mem (List.mem_of_getElem? h))
      rw [Pipeline.stream_add_source_of_ne _ _ _ _ hne, ih hnodup h]
    · -- the last entry, at a pad nothing was written to
      obtain ⟨hpos, rfl⟩ : position = sources.length ∧ last = source := by
        rw [List.getElem?_append_right hge, List.getElem?_singleton] at h
        split at h
        · exact ⟨by omega, Option.some.inj h⟩
        · cases h
      have hempty : (startup use_nvurisrcbin sources).stream last.pad_index = .unregistered :=
        stream_startup_of_notMem hlast
      have hinfo : (startup use_nvurisrcbin sources).streams_.slot last.pad_index = none :=
        congrArg Stream.info hempty
      have hbins : (startup use_nvurisrcbin sources).bins last.pad_index = [] :=
        congrArg Stream.bins hempty
      have hlog : (startup use_nvurisrcbin sources).log last.pad_index = [] :=
        congrArg Stream.log hempty
      rw [Pipeline.stream_add_source_self _ _ _ _ _ _ _ _ rfl, hbins, hlog]
      simp [Stream.registered, Source.firstBin, Pipeline.newSourceBin, Pipeline.addresses, hinfo,
        hbins, num_sources_startup, hpos, GstResults.success]

/-- With the pads `0..n-1` in some order there are `n` entries. -/
theorem num_sources_of_perm (use_nvurisrcbin : Bool) {n : ℕ}
    (hpads : (sources.map Source.pad_index).Perm (List.range n)) :
    (startup use_nvurisrcbin sources).num_sources_ = n := by
  rw [num_sources_startup, ← List.length_map Source.pad_index, hpads.length_eq, List.length_range]

/-- With the pads `0..n-1` in some order there is an entry at every position below `n`. -/
theorem exists_entry {n : ℕ} (hpads : (sources.map Source.pad_index).Perm (List.range n))
    (hposition : position < n) :
    ∃ source, sources[position]? = some source ∧ source.pad_index < n := by
  have hlt : position < sources.length := by
    rwa [← List.length_map Source.pad_index, hpads.length_eq, List.length_range]
  have hentry : sources[position]? = some sources[position] := List.getElem?_eq_getElem hlt
  refine ⟨_, hentry, List.mem_range.mp (hpads.mem_iff.mp ?_)⟩
  exact List.mem_map_of_mem (List.mem_of_getElem? hentry)

/-- Distinct pads: the pad of an entry tells its position. -/
theorem position_inj (hnodup : (sources.map Source.pad_index).Nodup) {position' : ℕ}
    {source' : Source} (h : sources[position]? = some source)
    (h' : sources[position']? = some source') (hpad : source.pad_index = source'.pad_index) :
    position = position' := by
  have hlt : position < (sources.map Source.pad_index).length := by
    rw [List.length_map]
    exact (List.getElem?_eq_some_iff.mp h).1
  apply (List.getElem?_inj hlt hnodup).mp
  rw [List.getElem?_map, List.getElem?_map, h, h', Option.map_some, Option.map_some, hpad]

/-- With the pads `0..n-1` in some order every slot below `n` holds an entry. -/
theorem exists_registered {n : ℕ} (hpads : (sources.map Source.pad_index).Perm (List.range n))
    (hi : i < n) : ∃ position source, sources[position]? = some source ∧ source.pad_index = i ∧
      (startup use_nvurisrcbin sources).stream i
        = .registered use_nvurisrcbin position source := by
  have hmem : i ∈ sources.map Source.pad_index := hpads.mem_iff.mpr (List.mem_range.mpr hi)
  obtain ⟨source, hsource, rfl⟩ := List.mem_map.mp hmem
  obtain ⟨position, hposition⟩ := List.getElem?_of_mem hsource
  have hnodup : (sources.map Source.pad_index).Nodup := hpads.nodup_iff.mpr List.nodup_range
  exact ⟨position, source, hposition, rfl, stream_startup hnodup hposition⟩

/-- A pad is registered iff an entry has it. -/
theorem slot_startup_isSome (hnodup : (sources.map Source.pad_index).Nodup) :
    ((startup use_nvurisrcbin sources).streams_.slot i).isSome ↔
      i ∈ sources.map Source.pad_index := by
  constructor
  · intro hsome
    by_contra hmem
    have hinfo : (startup use_nvurisrcbin sources).streams_.slot i = none :=
      congrArg Stream.info (stream_startup_of_notMem hmem)
    rw [hinfo] at hsome
    cases hsome
  · intro hmem
    obtain ⟨source, hsource, rfl⟩ := List.mem_map.mp hmem
    obtain ⟨position, hposition⟩ := List.getElem?_of_mem hsource
    have hstream : (startup use_nvurisrcbin sources).stream source.pad_index
        = .registered use_nvurisrcbin position source := stream_startup hnodup hposition
    rw [← Pipeline.stream_info, hstream]
    rfl

/-! ## The output directories -/

/-- Which calls of `std::filesystem` go through; the others throw. -/
structure FileSystem where
  remove_all : Bool
  create_directories : ℕ → Bool

/-- The directory of source `i`, padded by hand. -/
def sourceDirectory (output_dir : String) (i : ℕ) : String :=
  if i < 10 then output_dir ++ "/source0" ++ toString i else output_dir ++ "/source" ++ toString i

/-- The loop of `prepareOutputDirectory`: its result and the directories made before an exception.
-/
def createDirectories (fs : FileSystem) (output_dir : String) : List ℕ → Bool × List String
  | [] => (true, [])
  | i :: is =>
    if fs.create_directories i then
      let (result, created) := createDirectories fs output_dir is
      (result, sourceDirectory output_dir i :: created)
    else (false, [])

/-- `prepareOutputDirectory`. -/
def prepareOutputDirectory (fs : FileSystem) (output_dir : String) (num_sources : ℕ) :
    Bool × List String :=
  if fs.remove_all then createDirectories fs output_dir (List.range num_sources) else (false, [])

/-- The directory in the text that `saveFrameTask` formats: `%s/source%02d`. -/
def frameDirectory (output_dir : String) (pad_index : ℤ) : String :=
  c_str output_dir ++ "/source" ++ zeroPadded 2 pad_index

/-- The file name that `saveFrameTask` formats, in its buffer. -/
def frame_path (output_dir : String) (pad_index : ℤ) (frame_num : Int32) : List UInt8 :=
  g_snprintf 1024 (frameDirectory output_dir pad_index ++ "/frame_"
    ++ zeroPadded 7 frame_num.toInt ++ ".jpg")

/-- A path lies in a directory: behind it stand a slash and a name without one. -/
def LiesIn (path : List UInt8) (dir : String) : Prop :=
  ∃ name, path = dir.toUTF8.toList ++ '/'.val.toUInt8 :: name ∧ '/'.val.toUInt8 ∉ name

/-- The pad of the task is an `int`. -/
theorem frame_filename_eq (output_dir : String) (pad_index frame_num : Int32) :
    frame_filename output_dir pad_index frame_num
      = frame_path output_dir pad_index.toInt frame_num := rfl

theorem createDirectories_of_result {fs : FileSystem} {output_dir : String} {is : List ℕ}
    (h : (createDirectories fs output_dir is).1 = true) :
    (createDirectories fs output_dir is).2 = is.map (sourceDirectory output_dir) := by
  induction is with
  | nil => rfl
  | cons i is ih =>
    rw [createDirectories] at h ⊢
    split at h
    · rename_i hok
      rw [if_pos hok, List.map_cons]
      simp only [ih h]
    · cases h

/-- After a successful call there is one directory for each number below `num_sources`. -/
theorem mem_prepareOutputDirectory {fs : FileSystem} {output_dir dir : String} {num_sources : ℕ}
    (h : (prepareOutputDirectory fs output_dir num_sources).1 = true) :
    dir ∈ (prepareOutputDirectory fs output_dir num_sources).2 ↔
      ∃ i < num_sources, dir = sourceDirectory output_dir i := by
  rw [prepareOutputDirectory] at h ⊢
  split at h
  · rename_i hok
    rw [if_pos hok, createDirectories_of_result h]
    simp [eq_comm]
  · cases h

/-- The padding by hand is that of `%02d`. -/
theorem sourceDirectory_eq (output_dir : String) (i : ℕ) :
    sourceDirectory output_dir i = output_dir ++ "/source" ++ zeroPadded 2 i := by
  rw [zeroPadded_two, sourceDirectory]
  split
  · rw [show "/source0" = "/source" ++ "0" from rfl]
    simp only [String.append_assoc]
  · rfl

theorem digit_ne_slash {c : Char} (h : c.isDigit = true) :
    c.utf8Size = 1 ∧ c.val.toUInt8 ≠ '/'.val.toUInt8 := by
  simp only [Char.isDigit, Bool.and_eq_true, decide_eq_true_eq] at h
  obtain ⟨hlow, hhigh⟩ := h
  refine ⟨Char.utf8Size_eq_one_iff.mpr (Nat.le_trans hhigh (by decide)), fun heq => ?_⟩
  have hlow' : 48 ≤ c.val.toNat := UInt32.le_iff_toNat_le.mp hlow
  have hhigh' : c.val.toNat ≤ 57 := UInt32.le_iff_toNat_le.mp hhigh
  have hnat : c.val.toNat % 256 = 47 := by
    rw [← UInt32.toNat_toUInt8, heq]
    rfl
  omega

/-- A padded number is made of digits and a sign. -/
theorem slash_notMem_zeroPadded {width : ℕ} (n : ℤ) :
    '/'.val.toUInt8 ∉ (zeroPadded width n).toUTF8.toList := by
  refine notMem_toUTF8 fun c hc => ?_
  rw [zeroPadded, String.toList_append, String.toList_append, List.mem_append, List.mem_append,
    String.toList_ofList] at hc
  rcases hc with (hsign | hzero) | hdigit
  · split at hsign
    · rw [List.mem_singleton.mp hsign]
      decide
    · cases hsign
  · rw [List.eq_of_mem_replicate hzero]
    decide
  · rw [Nat.toString_eq_repr, Nat.toList_repr] at hdigit
    exact digit_ne_slash (Nat.isDigit_of_mem_toDigits (by decide) (by decide) hdigit)

/-- What `saveFrameTask` formats behind the directory and its slash. -/
def frameName (frame_num : Int32) : String := "frame_" ++ zeroPadded 7 frame_num.toInt ++ ".jpg"

theorem slash_notMem_frameName (frame_num : Int32) :
    '/'.val.toUInt8 ∉ (frameName frame_num).toUTF8.toList := by
  rw [frameName, toList_toUTF8_append, toList_toUTF8_append, List.mem_append, List.mem_append]
  rintro ((hframe | hnumber) | hjpg)
  · exact notMem_toUTF8 (List.forall_iff_forall_mem.mp (by decide)) hframe
  · exact slash_notMem_zeroPadded _ hnumber
  · exact notMem_toUTF8 (List.forall_iff_forall_mem.mp (by decide)) hjpg

/-- The path before it is cut. -/
theorem frame_path_eq (output_dir : String) (i : ℤ) (frame_num : Int32) :
    frame_path output_dir i frame_num
      = ((frameDirectory output_dir i).toUTF8.toList
          ++ '/'.val.toUInt8 :: (frameName frame_num).toUTF8.toList).take 1023 := by
  have htext : frameDirectory output_dir i ++ "/frame_" ++ zeroPadded 7 frame_num.toInt ++ ".jpg"
      = frameDirectory output_dir i ++ ("/" ++ frameName frame_num) := by
    rw [frameName, show "/frame_" = "/" ++ "frame_" from rfl]
    simp only [String.append_assoc]
  have hslash : "/".toUTF8.toList = ['/'.val.toUInt8] := by
    rw [toList_toUTF8]
    decide
  rw [frame_path, htext, g_snprintf, toList_toUTF8_append, toList_toUTF8_append, hslash,
    List.singleton_append]

/-- Where one text begins with another behind parts without a separator, the parts agree. -/
theorem eq_of_prefix {α : Type*} {s : α} {l m x y : List α} (h : l ++ s :: x <+: m ++ s :: y)
    (hl : s ∉ l) (hm : s ∉ m) : l = m := by
  induction l generalizing m with
  | nil =>
    cases m with
    | nil => rfl
    | cons b m => exact absurd ((List.cons_prefix_cons.mp h).1 ▸ List.mem_cons_self) hm
  | cons a l ih =>
    cases m with
    | nil => exact absurd ((List.cons_prefix_cons.mp h).1 ▸ List.mem_cons_self) hl
    | cons b m =>
      obtain ⟨rfl, htail⟩ := List.cons_prefix_cons.mp h
      rw [ih htail (fun hs => hl (List.mem_cons_of_mem _ hs))
        fun hs => hm (List.mem_cons_of_mem _ hs)]

/-- The bytes of a directory made by hand. -/
theorem length_sourceDirectory (output_dir : String) (i : ℕ) :
    (sourceDirectory output_dir i).toUTF8.toList.length
      = output_dir.toUTF8.toList.length + 7 + max 2 (toString i).length := by
  have hsource : "/source".toUTF8.toList.length = 7 :=
    length_toUTF8 (List.forall_iff_forall_mem.mp (by decide))
  rw [sourceDirectory_eq, toList_toUTF8_append, toList_toUTF8_append, List.length_append,
    List.length_append, hsource, length_toUTF8 fun c hc => utf8Size_of_mem_zeroPadded hc,
    length_zeroPadded]

/-- **Where a saved frame is put**: into a directory made by hand iff it is that of its pad, no NUL
ends the C string of the path early, and the buffer holds the directory and a slash. -/
theorem liesIn_frame_path_iff {output_dir : String} {i j : ℕ} {frame_num : Int32} :
    LiesIn (frame_path output_dir i frame_num) (sourceDirectory output_dir j) ↔
      '\x00' ∉ output_dir.toList ∧ i = j ∧
        output_dir.toUTF8.toList.length + 7 + max 2 (toString i).length < 1023 := by
  rw [← length_sourceDirectory]
  constructor
  · rintro ⟨name, hpath, -⟩
    have hprefix := List.take_prefix 1023 ((frameDirectory output_dir i).toUTF8.toList
      ++ '/'.val.toUInt8 :: (frameName frame_num).toUTF8.toList)
    rw [← frame_path_eq, hpath, sourceDirectory_eq, frameDirectory, toList_toUTF8_append,
      toList_toUTF8_append, toList_toUTF8_append, toList_toUTF8_append, List.append_assoc,
      List.append_assoc, List.append_assoc, List.append_assoc] at hprefix
    have hnul : '\x00' ∉ output_dir.toList := by
      intro hnul
      -- behind the common part the directory goes on with the NUL, and the path with a slash
      obtain ⟨start, rest, hsplit, hstart⟩ := List.eq_append_cons_of_mem hnul
      have hcut : (c_str output_dir).toList = start := by
        rw [c_str, String.toList_ofList, hsplit, List.takeWhile_append_of_pos, List.takeWhile_cons]
        · simp
        · intro c hc
          have hne : c ≠ '\x00' := fun heq => hstart (heq ▸ hc)
          simpa using hne
      rw [toList_toUTF8 output_dir, toList_toUTF8 (c_str output_dir), hcut, hsplit,
        toList_toUTF8 "/source", List.flatMap_append, List.append_assoc,
        List.prefix_append_right_inj, List.flatMap_cons] at hprefix
      have hsource : "/source".toList.flatMap String.utf8EncodeChar
          = 47 :: "source".toList.flatMap String.utf8EncodeChar := by decide
      rw [show String.utf8EncodeChar '\x00' = [0] by decide, hsource] at hprefix
      exact absurd (List.cons_prefix_cons.mp hprefix).1 (by decide)
    rw [c_str_eq_self.mpr hnul, List.prefix_append_right_inj, List.prefix_append_right_inj]
      at hprefix
    have hpad := eq_of_prefix hprefix (slash_notMem_zeroPadded _) (slash_notMem_zeroPadded _)
    obtain rfl : i = j := (zeroPadded_inj.mp (toList_toUTF8_inj.mp hpad)).symm
    have hlength := congrArg List.length hpath
    rw [frame_path_eq, List.length_take, List.length_append, List.length_append, List.length_cons,
      List.length_cons] at hlength
    exact ⟨hnul, rfl, by omega⟩
  · rintro ⟨hnul, rfl, hlt⟩
    have hdir : frameDirectory output_dir i = sourceDirectory output_dir i := by
      rw [sourceDirectory_eq, frameDirectory, c_str_eq_self.mpr hnul]
    rw [frame_path_eq, hdir]
    refine ⟨(frameName frame_num).toUTF8.toList.take
      (1022 - (sourceDirectory output_dir i).toUTF8.toList.length), ?_, fun hmem =>
        slash_notMem_frameName frame_num (List.mem_of_mem_take hmem)⟩
    rw [List.take_append, List.take_of_length_le (by omega)]
    congr 1
    rw [show 1023 - _ = 1022 - (sourceDirectory output_dir i).toUTF8.toList.length + 1 by omega,
      List.take_succ_cons]

/-! ## The enumerations -/

/-- Distinct pads below the number of entries are all the numbers below it, in some order. -/
theorem perm_range_of_lt (hnodup : (sources.map Source.pad_index).Nodup)
    (hlt : ∀ source ∈ sources, source.pad_index < sources.length) :
    (sources.map Source.pad_index).Perm (List.range sources.length) := by
  have hsubset : sources.map Source.pad_index ⊆ List.range sources.length := by
    intro i hi
    obtain ⟨source, hsource, rfl⟩ := List.mem_map.mp hi
    exact List.mem_range.mpr (hlt source hsource)
  exact (List.subperm_of_subset hnodup hsubset).perm_of_length_le (by simp)

/-- **The enumerations of the sources cover the registered pads iff every `pad_index` is smaller
than the number of entries and its path fits.** For every list of entries with distinct pads, whose
start-up calls succeed: the tick loop visits exactly the registered slots, and every frame of a
registered pad is saved in one of the output directories, iff no pad reaches the number of entries,
the path of every pad up to the file name fits the buffer of 1024 bytes (and no NUL ends the path of
the output directory early). -/
theorem enumerations_cover_iff (use_nvurisrcbin : Bool) (sources : List Source)
    (hnodup : (sources.map Source.pad_index).Nodup) (fs : FileSystem) (output_dir : String)
    (hprepared : (prepareOutputDirectory fs output_dir sources.length).1 = true) :
    ((∀ i, i < (startup use_nvurisrcbin sources).num_sources_ ↔
          ((startup use_nvurisrcbin sources).streams_.slot i).isSome) ∧
        ∀ i, ((startup use_nvurisrcbin sources).streams_.slot i).isSome → ∀ frame_num,
          ∃ dir ∈ (prepareOutputDirectory fs output_dir sources.length).2,
            LiesIn (frame_path output_dir i frame_num) dir) ↔
      (∀ source ∈ sources, source.pad_index < sources.length ∧
          output_dir.toUTF8.toList.length + 7 + max 2 (toString source.pad_index).length < 1023) ∧
        ('\x00' ∉ output_dir.toList ∨ sources = []) := by
  have hlies : ∀ (i : ℕ) frame_num,
      (∃ dir ∈ (prepareOutputDirectory fs output_dir sources.length).2,
        LiesIn (frame_path output_dir i frame_num) dir) ↔
      i < sources.length ∧ '\x00' ∉ output_dir.toList ∧
        output_dir.toUTF8.toList.length + 7 + max 2 (toString i).length < 1023 := by
    intro i frame_num
    constructor
    · rintro ⟨dir, hdir, hlies⟩
      obtain ⟨j, hj, rfl⟩ := (mem_prepareOutputDirectory hprepared).mp hdir
      obtain ⟨hnul, rfl, hfits⟩ := liesIn_frame_path_iff.mp hlies
      exact ⟨hj, hnul, hfits⟩
    · rintro ⟨hi, hnul, hfits⟩
      exact ⟨_, (mem_prepareOutputDirectory hprepared).mpr ⟨i, hi, rfl⟩,
        liesIn_frame_path_iff.mpr ⟨hnul, rfl, hfits⟩⟩
  simp only [num_sources_startup, slot_startup_isSome hnodup, hlies]
  constructor
  · rintro ⟨hvisited, hdirs⟩
    refine ⟨fun source hsource => ?_, ?_⟩
    · obtain ⟨hlt, -, hfits⟩ := hdirs source.pad_index (List.mem_map_of_mem hsource) 0
      exact ⟨hlt, hfits⟩
    · cases sources with
      | nil => exact .inr rfl
      | cons source sources => exact .inl (hdirs source.pad_index (by simp) 0).2.1
  · rintro ⟨hdense, hnul⟩
    have hmem : ∀ i, i < sources.length ↔ i ∈ sources.map Source.pad_index := fun i => by
      rw [(perm_range_of_lt hnodup fun source hsource => (hdense source hsource).1).mem_iff,
        List.mem_range]
    refine ⟨hmem, fun i hi frame_num => ⟨(hmem i).mpr hi, ?_, ?_⟩⟩
    · rcases hnul with hnul | rfl
      · exact hnul
      · cases hi
    · obtain ⟨source, hsource, rfl⟩ := List.mem_map.mp hi
      exact (hdense source hsource).2

/-- An entry with the given pad, for concrete runs. -/
def Source.sample (pad_index : ℕ) : Source := ⟨"rtsp://camera", "camera", pad_index, ""⟩

/-- Two entries in the other order. -/
theorem enumerations_cover_two :
    ((∀ i, i < (startup false [.sample 1, .sample 0]).num_sources_ ↔
          ((startup false [.sample 1, .sample 0]).streams_.slot i).isSome) ∧
        ∀ i, ((startup false [.sample 1, .sample 0]).streams_.slot i).isSome → ∀ frame_num,
          ∃ dir ∈ (prepareOutputDirectory ⟨true, fun _ => true⟩ "out" 2).2,
            LiesIn (frame_path "out" i frame_num) dir) ↔
      (∀ source ∈ [Source.sample 1, Source.sample 0], source.pad_index < 2 ∧
          "out".toUTF8.toList.length + 7 + max 2 (toString source.pad_index).length < 1023) ∧
        ('\x00' ∉ "out".toList ∨ [Source.sample 1, Source.sample 0] = []) :=
  enumerations_cover_iff false [.sample 1, .sample 0] (by decide) ⟨true, fun _ => true⟩ "out"
    (by decide)

/-- One entry with `pad_index: 1`: the tick loop reads slot `0`, which holds nothing, and the
directory of pad `1` is not made. -/
theorem single_source_at_pad_one :
    ¬ ∀ (use_nvurisrcbin : Bool) (sources : List Source) (fs : FileSystem) (output_dir : String),
      (sources.map Source.pad_index).Nodup →
      (prepareOutputDirectory fs output_dir sources.length).1 = true →
      (∀ i, i < (startup use_nvurisrcbin sources).num_sources_ ↔
          ((startup use_nvurisrcbin sources).streams_.slot i).isSome) ∧
        ∀ i, ((startup use_nvurisrcbin sources).streams_.slot i).isSome → ∀ frame_num,
          ∃ dir ∈ (prepareOutputDirectory fs output_dir sources.length).2,
            LiesIn (frame_path output_dir i frame_num) dir := by
  intro h
  obtain ⟨hvisited, -⟩ :=
    h false [.sample 1] ⟨true, fun _ => true⟩ "out" (by decide) (by decide)
  have hslot : ((startup false [.sample 1]).streams_.slot 0).isSome := (hvisited 0).mp (by decide)
  revert hslot
  decide

end DemoColombia.Streams
