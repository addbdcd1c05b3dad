import DemoColombia.DataStructures.Dict
import DemoColombia.DataStructures.Texts
import DemoColombia.Detector.YoloLayer
import Mathlib.Data.List.ReduceOption

/-! # Reading a Darknet model (`yolo.cpp`, `utils.cpp`)

A model is a configuration, a text of sections with `key=value` lines, and a file of weights. The
layers of the network are built from the blocks the configuration is read into.

* `parseConfigFile_written` — sections come back from any layout of their lines: blank and comment
  lines, tabs in front, blanks around names and values. The first value of a key counts.
* `loadWeights_eq_some_iff` — the weights are read iff the file is a header and some whole floats,
  or shorter than the header.

A `char` is a `Char`; the log texts and the existence of the files are not modelled. -/

namespace DemoColombia.Detector

open Texts

/-! ## Texts (`utils.cpp`) -/

/-- `isspace` of the C locale. -/
def isspace (c : Char) : Bool :=
  c = ' ' || c = '\t' || c = '\n' || c = '\x0b' || c = '\x0c' || c = '\r'

def leftTrim (s : List Char) : List Char := s.dropWhile isspace

def rightTrim (s : List Char) : List Char := s.rdropWhile isspace

def trim (s : List Char) : List Char := rightTrim (leftTrim s)

/-- `getline` until it fails. -/
def getlines (text : List Char) : List (List Char) := pieces '\n' text

/-! ## The configuration -/

/-- The `std::map` of a section. -/
abbrev Block : Type := Dict String String

/-- `insert` of a map: a key that is there keeps its value. -/
def Block.insert (block : Block) (key value : String) : Block :=
  if (block.get? key).isSome then block else block.set key value

/-- The variables of the loop of `parseConfigFile`. -/
structure CfgReader where
  blocks : List Block
  block : Block
  deriving DecidableEq

/-- What the loop makes of a trimmed line; `front` is asked of it, so it must not be empty. -/
def CfgReader.readTrimmed (r : CfgReader) : List Char → Option CfgReader
  | [] => none
  | c :: rest =>
    if c = '[' then
      let r := if r.block.entries = [] then r else ⟨r.blocks ++ [r.block], .empty⟩
      -- `substr(1, size - 2)`: whatever the last character is
      some { r with block := Block.insert r.block "type" (.ofList (trim rest.dropLast)) }
    else
      let line := c :: rest
      let key := trim (line.takeWhile (· ≠ '='))
      -- without an equals sign, `substr(-1 + 1)` is all of the line again
      let value := trim (if '=' ∈ line then (line.dropWhile (· ≠ '=')).tail else line)
      some { r with block := Block.insert r.block (.ofList key) (.ofList value) }

/-- One round of the loop of `parseConfigFile`. -/
def CfgReader.readLine (r : CfgReader) (line : List Char) : Option CfgReader :=
  if line = [] ∨ line.head? = some ' ' ∨ line.head? = some '#' then some r
  else r.readTrimmed (trim line)

/-- `Yolo::parseConfigFile`. -/
def parseConfigFile (text : List Char) : Option (List Block) := do
  let r ← (getlines text).foldlM CfgReader.readLine ⟨[], .empty⟩
  return r.blocks ++ [r.block]

/-! ### What is written -/

/-- A section of a configuration. -/
structure Section where
  type : String
  entries : List (String × String)

/-- The keys of a section with their values; its type comes first. -/
def Section.values (s : Section) : List (String × String) := ("type", s.type) :: s.entries

/-- What a line says. -/
inductive Item
  | header (type : String)
  | entry (key value : String)

/-- The lines of a section. -/
def Section.items (s : Section) : List Item :=
  .header s.type :: s.entries.map fun e => .entry e.1 e.2

/-- Blanks. -/
def Blank (s : List Char) : Prop := ∀ c ∈ s, isspace c = true

/-- The ways to write an item on a line, or nothing. -/
inductive Lays : Option Item → List Char → Prop
  | empty : Lays none []
  | space (rest : List Char) : Lays none (' ' :: rest)
  | comment (rest : List Char) : Lays none ('#' :: rest)
  | header {type : String} {l a b r : List Char} (hl : Blank l) (hspace : l.head? ≠ some ' ')
      (htype : Bare isspace type.toList) (ha : Blank a) (hb : Blank b) (hr : Blank r) :
      Lays (some (.header type)) (l ++ ('[' :: (a ++ type.toList ++ b) ++ [']']) ++ r)
  | entry {key value : String} {l a b r : List Char} (hl : Blank l) (hspace : l.head? ≠ some ' ')
      (hkey : Bare isspace key.toList) (hne : key.toList ≠ []) (hequals : '=' ∉ key.toList)
      (hbracket : key.toList.head? ≠ some '[') (hcomment : key.toList.head? ≠ some '#')
      (ha : Blank a) (hb : Blank b) (hvalue : Bare isspace value.toList) (hr : Blank r) :
      Lays (some (.entry key value)) (l ++ (key.toList ++ a ++ '=' :: (b ++ value.toList)) ++ r)

/-- The sections laid out in the lines of a text; the end of the last line may be missing. -/
def Written (sections : List Section) (text : List Char) : Prop :=
  ∃ (items : List (Option Item)) (lines : List (List Char)) (last : List Char),
    (∀ line ∈ lines ++ [last], '\n' ∉ line) ∧ text = join '\n' lines ++ last ∧
    List.Forall₂ Lays items (lines ++ [last]) ∧
    items.reduceOption = sections.flatMap Section.items

/-- A block has the first value of each key of the section. -/
def Section.Is (s : Section) (block : Block) : Prop := ∀ key, block.get? key = s.values.lookup key

/-! ### Reading it -/

theorem trim_pad {l s r : List Char} (hl : Blank l) (hs : Bare isspace s) (hr : Blank r) :
    trim (l ++ s ++ r) = s :=
  strip_pad hl hs hr

/-- A line that is neither empty nor indented with a space nor a comment is trimmed. -/
theorem readLine_pad {l s r : List Char} (hl : Blank l) (hspace : l.head? ≠ some ' ')
    (hs : Bare isspace s) (hne : s ≠ []) (hcomment : s.head? ≠ some '#') (hr : Blank r)
    (reader : CfgReader) : reader.readLine (l ++ s ++ r) = reader.readTrimmed s := by
  have hskip : ¬ (l ++ s ++ r = [] ∨ (l ++ s ++ r).head? = some ' '
      ∨ (l ++ s ++ r).head? = some '#') := by
    obtain ⟨c, s, rfl⟩ := List.exists_cons_of_ne_nil hne
    cases l with
    | nil =>
      have hc : c ≠ ' ' := by
        rintro rfl
        exact absurd (hs.head ' ' rfl) (by decide)
      simpa [hc] using hcomment
    | cons d l =>
      have hd : d ≠ '#' := by
        rintro rfl
        exact absurd (hl '#' List.mem_cons_self) (by decide)
      simpa [hd] using hspace
  rw [CfgReader.readLine, if_neg hskip, trim_pad hl hs hr]

/-- What an item does to the variables of the loop. -/
def CfgReader.item (r : CfgReader) : Item → CfgReader
  | .header type =>
    { blocks := if r.block.entries = [] then r.blocks else r.blocks ++ [r.block]
      block := Dict.empty.set "type" type }
  | .entry key value => { r with block := Block.insert r.block key value }

theorem readTrimmed_header {type : String} {a b : List Char} (ha : Blank a)
    (htype : Bare isspace type.toList) (hb : Blank b) (r : CfgReader) :
    r.readTrimmed ('[' :: (a ++ type.toList ++ b) ++ [']']) = some (r.item (.header type)) := by
  have hdrop : (a ++ type.toList ++ b ++ [']']).dropLast = a ++ type.toList ++ b :=
    List.dropLast_concat
  rw [List.cons_append, CfgReader.readTrimmed, if_pos rfl, hdrop, trim_pad ha htype hb,
    String.ofList_toList, CfgReader.item]
  split
  · rename_i hempty
    have hblock : r.block = Dict.empty := Dict.eq_iff.mpr hempty
    dsimp only
    rw [hblock]
    rfl
  · rfl

theorem readTrimmed_entry {key value : String} {a tail : List Char}
    (hkey : Bare isspace key.toList) (hne : key.toList ≠ []) (hequals : '=' ∉ key.toList)
    (hbracket : key.toList.head? ≠ some '[') (ha : Blank a) (htail : trim tail = value.toList)
    (r : CfgReader) :
    r.readTrimmed (key.toList ++ a ++ '=' :: tail) = some (r.item (.entry key value)) := by
  obtain ⟨c, rest, hcons⟩ := List.exists_cons_of_ne_nil hne
  have hname : ∀ d ∈ key.toList ++ a, decide (d ≠ '=') = true := by
    intro d hd
    refine decide_eq_true fun heq => ?_
    subst heq
    rcases List.mem_append.mp hd with hd | hd
    · exact hequals hd
    · exact absurd (ha _ hd) (by decide)
  have htake : (key.toList ++ a ++ '=' :: tail).takeWhile (· ≠ '=') = key.toList ++ a := by
    rw [List.takeWhile_append_of_pos hname]
    simp
  have hdrop : ((key.toList ++ a ++ '=' :: tail).dropWhile (· ≠ '=')).tail = tail := by
    rw [List.dropWhile_append_of_pos hname]
    simp
  have hmem : '=' ∈ key.toList ++ a ++ '=' :: tail := by simp
  have htrim : trim (key.toList ++ a) = key.toList := by
    simpa using trim_pad (l := []) (by simp [Blank]) hkey ha
  have hline : key.toList ++ a ++ '=' :: tail = c :: (rest ++ a ++ '=' :: tail) := by
    rw [hcons]
    rfl
  have hc : c ≠ '[' := by
    rintro rfl
    exact hbracket (by rw [hcons]; rfl)
  rw [hline, CfgReader.readTrimmed, if_neg hc, ← hline]
  dsimp only
  rw [htake, if_pos hmem, hdrop, htrim, htail, String.ofList_toList, String.ofList_toList]
  rfl

/-- **One line.** -/
theorem readLine_lays {item : Option Item} {line : List Char} (h : Lays item line)
    (r : CfgReader) : r.readLine line = some (item.elim r r.item) := by
  cases h with
  | empty => rfl
  | space rest => rfl
  | comment rest => rfl
  | header hl hspace htype ha hb hr =>
    rw [readLine_pad hl hspace _ _ _ hr, readTrimmed_header ha htype hb]
    · rfl
    · refine ⟨fun c hc => ?_, fun c hc => ?_⟩
      · cases hc
        decide
      · rw [List.getLast?_concat] at hc
        cases hc
        decide
    · simp
    · simp
  | @entry key value l a b r hl hspace hkey hne hequals hbracket hcomment ha hb hvalue hr =>
    have hhead : ∀ tail : List Char,
        (key.toList ++ a ++ '=' :: tail).head? = key.toList.head? := by
      intro tail
      obtain ⟨c, rest, hcons⟩ := List.exists_cons_of_ne_nil hne
      rw [hcons]
      rfl
    have hstart : ∀ tail : List Char, ∀ c ∈ (key.toList ++ a ++ '=' :: tail).head?,
        isspace c = false := by
      intro tail c hc
      exact hkey.head c (by rwa [hhead] at hc)
    by_cases hempty : value.toList = []
    · -- nothing behind the sign: the blanks there are trimmed with the line
      have hline : l ++ (key.toList ++ a ++ '=' :: (b ++ value.toList)) ++ r
          = l ++ (key.toList ++ a ++ '=' :: []) ++ (b ++ r) := by
        simp [hempty]
      rw [hline, readLine_pad hl hspace ⟨hstart _, by simp; decide⟩ (by simp)
        (by rwa [hhead]) (by simpa [Blank, or_imp, forall_and] using ⟨hb, hr⟩),
        readTrimmed_entry hkey hne hequals hbracket ha (by rw [hempty]; rfl)]
      rfl
    · have hend : ∀ c ∈ (key.toList ++ a ++ '=' :: (b ++ value.toList)).getLast?,
          isspace c = false := by
        intro c hc
        refine hvalue.last c ?_
        have hlast : (key.toList ++ a ++ '=' :: (b ++ value.toList)).getLast?
            = value.toList.getLast? := by
          rw [← List.singleton_append, ← List.append_assoc, ← List.append_assoc,
            List.getLast?_append_of_ne_nil _ hempty]
        rwa [hlast] at hc
      have htail : trim (b ++ value.toList) = value.toList := by
        simpa using trim_pad (r := []) hb hvalue (by simp [Blank])
      rw [readLine_pad hl hspace ⟨hstart _, hend⟩ (by simp) (by rwa [hhead]) hr,
        readTrimmed_entry hkey hne hequals hbracket ha htail]
      rfl

/-- **All lines.** -/
theorem foldlM_readLine {items : List (Option Item)} {lines : List (List Char)}
    (h : List.Forall₂ Lays items lines) (r : CfgReader) :
    lines.foldlM CfgReader.readLine r = some (items.reduceOption.foldl CfgReader.item r) := by
  induction h generalizing r with
  | nil => rfl
  | @cons item line items lines hline _ ih =>
    rw [List.foldlM_cons, readLine_lays hline, Option.bind_eq_bind, Option.bind_some, ih]
    cases item with
    | none => rfl
    | some item => rw [List.reduceOption_cons_of_some]; rfl

/-- **The lines of a text.** An empty last line is not read, which makes no difference. -/
theorem foldlM_getlines {lines : List (List Char)} {last : List Char}
    (h : ∀ line ∈ lines ++ [last], '\n' ∉ line) (r : CfgReader) :
    (getlines (join '\n' lines ++ last)).foldlM CfgReader.readLine r
      = (lines ++ [last]).foldlM CfgReader.readLine r := by
  obtain ⟨hlines, hlast⟩ := List.forall_mem_append.mp h
  rw [getlines, pieces_join hlines (hlast last (List.mem_singleton_self last))]
  by_cases hempty : last = []
  · have hskip : ∀ r : CfgReader, [[]].foldlM CfgReader.readLine r = some r := fun _ => rfl
    rw [if_pos hempty, hempty, List.append_nil, List.foldlM_append]
    simp only [hskip]
    exact (bind_pure _).symm
  · rw [if_neg hempty]

/-- The block a section is read into. -/
def Section.block (s : Section) : Block :=
  s.entries.foldl (fun block e => Block.insert block e.1 e.2) (Dict.empty.set "type" s.type)

theorem Block.get?_insert (block : Block) (key value k : String) :
    (Block.insert block key value).get? k
      = (block.get? k).or (if k = key then some value else none) := by
  rw [Block.insert]
  split
  · rename_i hkey
    by_cases hk : k = key
    · obtain ⟨v, hv⟩ := Option.isSome_iff_exists.mp hkey
      rw [hk, hv, Option.some_or]
    · rw [if_neg hk, Option.or_none]
  · rename_i hkey
    rw [Dict.get?_set]
    by_cases hk : k = key
    · rw [if_pos hk, if_pos hk, hk, Option.not_isSome_iff_eq_none.mp hkey, Option.none_or]
    · rw [if_neg hk, if_neg hk, Option.or_none]

/-- The first value counts. -/
theorem get?_foldl_insert (entries : List (String × String)) (block : Block) (k : String) :
    (entries.foldl (fun block e => Block.insert block e.1 e.2) block).get? k
      = (block.get? k).or (entries.lookup k) := by
  induction entries generalizing block with
  | nil => rw [List.foldl_nil, List.lookup_nil, Option.or_none]
  | cons e entries ih =>
    obtain ⟨key, value⟩ := e
    rw [List.foldl_cons, ih, Block.get?_insert, Option.or_assoc, List.lookup_cons]
    by_cases hk : k = key
    · simp [hk]
    · simp [hk, beq_false_of_ne hk]

theorem Section.is_block (s : Section) : s.Is s.block := by
  intro key
  rw [Section.block, get?_foldl_insert, Dict.get?_set, Section.values, List.lookup_cons]
  by_cases hk : key = "type"
  · simp [hk]
  · simp [hk, beq_false_of_ne hk]

theorem Section.block_entries_ne_nil (s : Section) : s.block.entries ≠ [] := by
  intro hnil
  have htype := s.is_block "type"
  rw [Dict.get?, hnil, Section.values, List.lookup_cons] at htype
  simp at htype

theorem foldl_items (s : Section) (r : CfgReader) :
    s.items.foldl CfgReader.item r
      = ⟨if r.block.entries = [] then r.blocks else r.blocks ++ [r.block], s.block⟩ := by
  have hentries : ∀ (entries : List (String × String)) (r : CfgReader),
      (entries.map fun e => Item.entry e.1 e.2).foldl CfgReader.item r
        = { r with
            block := entries.foldl (fun block e => Block.insert block e.1 e.2) r.block } := by
    intro entries
    induction entries with
    | nil => exact fun _ => rfl
    | cons e entries ih =>
      intro r
      rw [List.map_cons, List.foldl_cons, ih]
      rfl
  rw [Section.items, List.foldl_cons, hentries]
  rfl

/-- The blocks when the end is reached. -/
theorem blocks_foldl_items {sections : List Section} (hne : sections ≠ []) (r : CfgReader) :
    ((sections.flatMap Section.items).foldl CfgReader.item r).blocks
        ++ [((sections.flatMap Section.items).foldl CfgReader.item r).block]
      = (if r.block.entries = [] then r.blocks else r.blocks ++ [r.block])
        ++ sections.map Section.block := by
  induction sections generalizing r with
  | nil => exact absurd rfl hne
  | cons s sections ih =>
    rw [List.flatMap_cons, List.foldl_append, foldl_items]
    by_cases hnil : sections = []
    · rw [hnil]
      rfl
    · rw [ih hnil, if_neg s.block_entries_ne_nil, List.map_cons, List.append_assoc,
        List.singleton_append]

/-- What `strtol` and `strtoul` find in front of a text, in base ten: whether there is a minus
sign, and the number. -/
def strtol (s : List Char) : Option (Bool × ℕ) :=
  let s := leftTrim s
  let digits :=
    (if s.head? = some '-' ∨ s.head? = some '+' then s.tail else s).takeWhile Char.isDigit
  if digits = [] then none
  else some (s.head? = some '-', Nat.ofDigitChars 10 digits 0)

/-- `std::stoul`; `none` where it throws. -/
def stoul (s : List Char) : Option UInt64 := do
  let (negative, n) ← strtol s
  if n < 2 ^ 64 then some (if negative then -.ofNat n else .ofNat n) else none

/-- `std::stoi`; `none` where it throws. -/
def stoi (s : List Char) : Option Int32 := do
  let (negative, n) ← strtol s
  let v : ℤ := if negative then -n else n
  if -2 ^ 31 ≤ v ∧ v < 2 ^ 31 then some (.ofInt v) else none

/-- The loop over a list of numbers. -/
def readNumbers {β : Type} (read : List Char → Option β) (s : String) : Option (List β) :=
  (pieces ',' s.toList).mapM fun part => read (trim part)

variable {F : Type} [One F] (stof : List Char → Option F)

/-- The tensor `parseConfigBlocks` makes of a detection block; `none` where an assertion fails or a
number cannot be read. -/
def TensorInfo.ofBlock (block : Block) : Option (TensorInfo F) := do
  let num ← block.get? "num"
  let anchors ← readNumbers stof (← block.get? "anchors")
  let mask ←
    match block.get? "mask" with
    | some mask => readNumbers (fun s => (stoul s).map fun n => n.toUInt32.toInt32) mask
    | none => some []
  let scaleXY ←
    match block.get? "scale_x_y" with
    | some s => stof s.toList
    | none => some 1
  let numBBoxes ←
    if mask.length > 0 then some (UInt32.ofNat mask.length)
    else (stoul (trim num.toList)).map UInt64.toUInt32
  return ⟨"", 0, 0, numBBoxes, scaleXY, anchors, mask⟩

/-- The fields of `Yolo` that `parseConfigBlocks` sets. -/
structure YoloFields (F : Type) where
  m_InputC : UInt32
  m_InputH : UInt32
  m_InputW : UInt32
  m_InputSize : UInt64
  m_NumClasses : UInt32
  m_LetterBox : UInt32
  m_NewCoords : UInt32
  m_YoloCount : UInt32
  m_YoloTensors : List (TensorInfo F)
  deriving DecidableEq

/-- What the constructor of `Yolo` sets them to. -/
def YoloFields.new : YoloFields F := ⟨0, 0, 0, 0, 0, 0, 0, 0, []⟩

/-- An option of a block, where the block has it. -/
def optional (block : Block) (key : String) (old : UInt32) : Option UInt32 :=
  match block.get? key with
  | some s => (stoul s.toList).map UInt64.toUInt32
  | none => some old

/-- Whether a block is one of detections. -/
def Block.isDetection (block : Block) : Bool :=
  block.get? "type" = some "region" || block.get? "type" = some "yolo"

/-- One round of the loop of `parseConfigBlocks`; `none` where it throws. -/
def YoloFields.readBlock (y : YoloFields F) (block : Block) : Option (YoloFields F) := do
  let type ← block.get? "type"
  if type = "net" then
    let height ← stoul (← block.get? "height").toList
    let width ← stoul (← block.get? "width").toList
    let channels ← stoul (← block.get? "channels").toList
    let (m_InputH, m_InputW, m_InputC) := (height.toUInt32, width.toUInt32, channels.toUInt32)
    let m_LetterBox ← optional block "letter_box" y.m_LetterBox
    return { y with
      m_InputH, m_InputW, m_InputC, m_LetterBox
      m_InputSize := (m_InputC * m_InputH * m_InputW).toUInt64 }
  else if type = "region" ∨ type = "yolo" then
    let classes ← stoul (← block.get? "classes").toList
    let m_NewCoords ← optional block "new_coords" y.m_NewCoords
    let outputTensor ← TensorInfo.ofBlock stof block
    return { y with
      m_YoloCount := y.m_YoloCount + 1
      m_NumClasses := classes.toUInt32
      m_NewCoords
      m_YoloTensors := y.m_YoloTensors ++ [outputTensor] }
  else
    return y

/-- `Yolo::parseConfigBlocks`. -/
def parseConfigBlocks (m_ConfigBlocks : List Block) (y : YoloFields F) : Option (YoloFields F) :=
  m_ConfigBlocks.foldlM (YoloFields.readBlock stof) y

variable {stof}

/-- One block adds the tensor it makes if it is one of detections, and none if it is not. -/
theorem readBlock_tensors {y y' : YoloFields F} {block : Block}
    (h : y.readBlock stof block = some y') :
    (block.isDetection = true ∧ ∃ t, TensorInfo.ofBlock stof block = some t ∧
        y'.m_YoloTensors = y.m_YoloTensors ++ [t] ∧ y'.m_YoloCount = y.m_YoloCount + 1) ∨
      (block.isDetection = false ∧ y'.m_YoloTensors = y.m_YoloTensors ∧
        y'.m_YoloCount = y.m_YoloCount) := by
  obtain ⟨type, htype, h⟩ := Option.bind_eq_some_iff.mp h
  by_cases hnet : type = "net"
  · rw [if_pos hnet] at h
    simp only [Option.bind_eq_bind, Option.bind_eq_some_iff] at h
    obtain ⟨_, -, _, -, _, -, _, -, _, -, _, -, _, -, h⟩ := h
    cases h
    exact .inr ⟨by simp [Block.isDetection, htype, hnet], rfl, rfl⟩
  · rw [if_neg hnet] at h
    by_cases hdetection : type = "region" ∨ type = "yolo"
    · rw [if_pos hdetection] at h
      simp only [Option.bind_eq_bind, Option.bind_eq_some_iff] at h
      obtain ⟨_, -, _, -, _, -, t, ht, h⟩ := h
      cases h
      exact .inl ⟨by simpa [Block.isDetection, htype] using hdetection, t, ht, rfl, rfl⟩
    · rw [if_neg hdetection] at h
      cases h
      exact .inr ⟨by simpa [Block.isDetection, htype] using hdetection, rfl, rfl⟩

/-- The tensors of a configuration: one for each block of detections, in their order. -/
theorem parseConfigBlocks_tensors {blocks : List Block} {y y' : YoloFields F}
    (h : parseConfigBlocks stof blocks y = some y') :
    ∃ tensors, y'.m_YoloTensors = y.m_YoloTensors ++ tensors ∧
      List.Forall₂ (fun block t => TensorInfo.ofBlock stof block = some t)
        (blocks.filter Block.isDetection) tensors ∧
      y'.m_YoloCount = y.m_YoloCount + .ofNat tensors.length := by
  induction blocks generalizing y with
  | nil =>
    cases h
    exact ⟨[], (List.append_nil _).symm, .nil, (UInt32.add_zero _).symm⟩
  | cons block blocks ih =>
    obtain ⟨y₁, hblock, h⟩ := Option.bind_eq_some_iff.mp h
    obtain ⟨tensors, htensors, hall, hcount⟩ := ih h
    rcases readBlock_tensors hblock with ⟨hdetection, t, ht, hy, hc⟩ | ⟨hdetection, hy, hc⟩
    · refine ⟨t :: tensors, ?_, ?_, ?_⟩
      · rw [htensors, hy, List.append_assoc, List.singleton_append]
      · rw [List.filter_cons_of_pos hdetection]
        exact .cons ht hall
      · rw [hcount, hc, List.length_cons, UInt32.ofNat_add, UInt32.add_assoc,
          UInt32.add_comm 1]
        rfl
    · refine ⟨tensors, by rw [htensors, hy], ?_, by rw [hcount, hc]⟩
      rwa [List.filter_cons_of_neg (by rw [hdetection]; exact Bool.false_ne_true)]

/-! ## The weights -/

section Weights

variable {F : Type} (bits : F ≃ UInt32)

/-- The loop of `loadWeights`; `none` where the rest is not a whole float. -/
def readFloats : List UInt8 → Option (List F)
  | b₀ :: b₁ :: b₂ :: b₃ :: file =>
    let floatWeight := bits.symm (.ofNat (ofLeBytes [b₀, b₁, b₂, b₃]))
    if file = [] then some [floatWeight]
    else (readFloats file).map (floatWeight :: ·)
  | _ => none

/-- Whether `find` finds a text in another. -/
def contains (s pattern : String) : Bool := s.toList.tails.any pattern.toList.isPrefixOf

/-- How much of the file belongs to the header, by the name of the model. -/
def headerSize (modelName : String) : ℕ :=
  if contains modelName "yolov2" ∧ ¬ contains modelName "yolov2-tiny" then 4 * 4 else 4 * 5

/-- `loadWeights`; `none` where an assertion fails. -/
def loadWeights (weightsFilePath modelName : String) (file : List UInt8) : Option (List F) :=
  if contains weightsFilePath ".weights" then
    -- `ignore` that comes to the end early sets `eof`, and the loop is not entered
    if file.length < headerSize modelName then some []
    else readFloats bits (file.drop (headerSize modelName))
  else none

theorem read_cons (b₀ b₁ b₂ b₃ : UInt8) (file : List UInt8) :
    (float32 bits).read (b₀ :: b₁ :: b₂ :: b₃ :: file)
      = some (bits.symm (.ofNat (ofLeBytes [b₀, b₁, b₂, b₃])), file) := by
  simp [float32, uint32, Codec.map, unsigned, littleEndian]

/-- The loop reads some whole floats, and at least one. -/
theorem readFloats_eq_some_iff {file : List UInt8} {weights : List F} :
    readFloats bits file = some weights ↔
      weights ≠ [] ∧ file = weights.flatMap (float32 bits).write := by
  constructor
  · intro h
    induction file using readFloats.induct bits generalizing weights with
    | case1 b₀ b₁ b₂ b₃ =>
      cases h
      obtain ⟨-, hwrite⟩ := (float32 bits).write_of_read (read_cons bits b₀ b₁ b₂ b₃ [])
      rw [List.append_nil] at hwrite
      exact ⟨List.cons_ne_nil _ _, by rw [List.flatMap_singleton, ← hwrite]⟩
    | case2 b₀ b₁ b₂ b₃ file hfile ih =>
      rw [readFloats, if_neg hfile] at h
      obtain ⟨rest, hrest, rfl⟩ := Option.map_eq_some_iff.mp h
      obtain ⟨-, hwrite⟩ := (float32 bits).write_of_read (read_cons bits b₀ b₁ b₂ b₃ file)
      refine ⟨List.cons_ne_nil _ _, ?_⟩
      rw [List.flatMap_cons, hwrite, ← (ih hrest).2]
    | case3 file hfile =>
      rw [readFloats] at h
      · cases h
      · exact hfile
  · rintro ⟨hne, rfl⟩
    induction weights with
    | nil => exact absurd rfl hne
    | cons w weights ih =>
      have hread := (float32 bits).read_write w (weights.flatMap (float32 bits).write) trivial
      rw [List.flatMap_cons]
      obtain ⟨b₀, b₁, b₂, b₃, hw⟩ : ∃ b₀ b₁ b₂ b₃, (float32 bits).write w = [b₀, b₁, b₂, b₃] :=
        ⟨_, _, _, _, rfl⟩
      rw [hw] at hread ⊢
      simp only [List.cons_append, List.nil_append] at hread ⊢
      rw [read_cons, Option.some.injEq, Prod.mk.injEq] at hread
      rw [readFloats, hread.1]
      by_cases hnil : weights = []
      · rw [hnil]
        rfl
      · have hrest : weights.flatMap (float32 bits).write ≠ [] := by
          obtain ⟨v, weights, rfl⟩ := List.exists_cons_of_ne_nil hnil
          exact List.cons_ne_nil _ _
        rw [if_neg hrest, ih hnil]
        rfl

/-- **Which files are read.** The weights are those whose bytes follow the header, if it is followed
by at least one and by nothing less than a whole float; a file shorter than the header has none. -/
theorem loadWeights_eq_some_iff {weightsFilePath modelName : String} {file : List UInt8}
    {weights : List F} (hpath : contains weightsFilePath ".weights" = true) :
    loadWeights bits weightsFilePath modelName file = some weights ↔
      (file.length < headerSize modelName ∧ weights = []) ∨
        ∃ header, header.length = headerSize modelName ∧ weights ≠ [] ∧
          file = header ++ weights.flatMap (float32 bits).write := by
  rw [loadWeights, if_pos hpath]
  by_cases hshort : file.length < headerSize modelName
  · rw [if_pos hshort, Option.some.injEq]
    constructor
    · rintro rfl
      exact .inl ⟨hshort, rfl⟩
    · rintro (⟨-, rfl⟩ | ⟨header, hheader, -, rfl⟩)
      · rfl
      · rw [List.length_append] at hshort
        omega
  · rw [if_neg hshort, readFloats_eq_some_iff]
    constructor
    · rintro ⟨hne, hfile⟩
      refine .inr ⟨file.take (headerSize modelName), ?_, hne, ?_⟩
      · rw [List.length_take]
        omega
      · rw [← hfile, List.take_append_drop]
    · rintro (⟨hlt, -⟩ | ⟨header, hheader, hne, rfl⟩)
      · exact absurd hlt hshort
      · exact ⟨hne, List.drop_left' hheader⟩

/-- Two floats behind sixteen bytes, for a model of the second version; and none of a file that ends
within the second. -/
theorem loadWeights_eq_some_iff_two :
    loadWeights (Equiv.refl UInt32) "a.weights" "yolov2-voc"
        (List.replicate 16 7 ++ [1, 0, 0, 0, 0, 1, 0, 0]) = some [1, 256] ∧
      ∀ weights, loadWeights (Equiv.refl UInt32) "a.weights" "yolov2-voc"
        (List.replicate 16 7 ++ [1, 0, 0, 0, 0, 1]) ≠ some weights := by
  have hpath : contains "a.weights" ".weights" = true := by decide
  have hheader : headerSize "yolov2-voc" = 16 := by decide
  refine ⟨(loadWeights_eq_some_iff (Equiv.refl UInt32) hpath).mpr
    (.inr ⟨List.replicate 16 7, by decide, by decide, by decide⟩), fun weights h => ?_⟩
  rcases (loadWeights_eq_some_iff (Equiv.refl UInt32) hpath).mp h with ⟨hlt, -⟩ | ⟨header, hlength,
    -, hfile⟩
  · rw [hheader] at hlt
    exact absurd hlt (by decide)
  · -- what follows the header is as long as four bytes for each weight
    have hwrites := length_flatMap_write (c := float32 (Equiv.refl UInt32))
      (fun _ => length_leBytes 4 _) weights
    have hsize := congrArg List.length hfile
    rw [@List.length_append _ header, hlength, hheader, hwrites] at hsize
    have hbytes : (List.replicate 16 7 ++ [1, 0, 0, 0, 0, 1] : List UInt8).length = 22 := rfl
    omega

end Weights

end DemoColombia.Detector
