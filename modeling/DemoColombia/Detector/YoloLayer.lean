import DemoColombia.DataStructures.Codec
import Mathlib.Algebra.BigOperators.Group.List.Basic
import Mathlib.Algebra.Ring.Nat

/-! # The plugin layer and its serialized form (`yoloPlugins.cpp`)

TensorRT stores the plugin with the engine as the bytes `serialize` writes, into a buffer of
`getSerializationSize` bytes, and builds it again from them. The counts are written as 32-bit
numbers; the names of the blobs and the namespace are not written at all.

* `deserialize_serialize` — a layer whose counts fit comes back, but for its names, and the buffer
  has exactly the size that was asked for.
* `serialize_deserialize` — what is read was written: no two byte strings are read as one layer. -/

namespace DemoColombia.Detector

variable {F : Type}

/-- `TensorInfo`. -/
structure TensorInfo (F : Type) where
  blobName : String
  gridSizeX : UInt32
  gridSizeY : UInt32
  numBBoxes : UInt32
  scaleXY : F
  anchors : List F
  mask : List Int32
  deriving DecidableEq

/-- `YoloLayer`. -/
structure YoloLayer (F : Type) where
  m_Namespace : String
  m_NetWidth : UInt32
  m_NetHeight : UInt32
  m_NumClasses : UInt32
  m_NewCoords : UInt32
  m_YoloTensors : List (TensorInfo F)
  m_OutputSize : UInt64
  deriving DecidableEq

/-- An `int` as its bits. -/
def int32Bits : Int32 ≃ UInt32 := ⟨Int32.toUInt32, UInt32.toInt32, fun _ => rfl, fun _ => rfl⟩

/-- An `int` in memory. -/
def int32 : Codec Int32 := uint32.map int32Bits

variable (bits : F ≃ UInt32)

/-- A `float` in memory, `bits` being its representation. -/
def float32 : Codec F := uint32.map bits

/-! ## Writing -/

/-- What the loop of `serialize` writes for a tensor. -/
def TensorInfo.serialize (t : TensorInfo F) : List UInt8 :=
  let anchorsSize := UInt32.ofNat t.anchors.length
  let maskSize := UInt32.ofNat t.mask.length
  uint32.write t.gridSizeX ++ uint32.write t.gridSizeY ++ uint32.write t.numBBoxes
    ++ (float32 bits).write t.scaleXY
    ++ uint32.write anchorsSize ++ (t.anchors.take anchorsSize.toNat).flatMap (float32 bits).write
    ++ uint32.write maskSize ++ (t.mask.take maskSize.toNat).flatMap int32.write

/-- `YoloLayer::serialize`. -/
def YoloLayer.serialize (l : YoloLayer F) : List UInt8 :=
  let yoloTensorsSize := UInt32.ofNat l.m_YoloTensors.length
  uint32.write l.m_NetWidth ++ uint32.write l.m_NetHeight ++ uint32.write l.m_NumClasses
    ++ uint32.write l.m_NewCoords ++ uint64.write l.m_OutputSize ++ uint32.write yoloTensorsSize
    ++ (l.m_YoloTensors.take yoloTensorsSize.toNat).flatMap (TensorInfo.serialize bits)

/-- What the loop of `getSerializationSize` adds for a tensor. -/
def TensorInfo.getSerializationSize (t : TensorInfo F) : ℕ :=
  4 + 4 + 4 + 4 + (4 + 4 * t.anchors.length) + (4 + 4 * t.mask.length)

/-- `YoloLayer::getSerializationSize`. -/
def YoloLayer.getSerializationSize (l : YoloLayer F) : ℕ :=
  let yoloTensorsSize := UInt32.ofNat l.m_YoloTensors.length
  4 + 4 + 4 + 4 + 8 + 4
    + ((l.m_YoloTensors.take yoloTensorsSize.toNat).map TensorInfo.getSerializationSize).sum

/-! ## Reading -/

/-- What the loop of the reading constructor makes of the bytes; `none` where it reads past the end
of the buffer. -/
def TensorInfo.read (bytes : List UInt8) : Option (TensorInfo F × List UInt8) := do
  let (gridSizeX, bytes) ← uint32.read bytes
  let (gridSizeY, bytes) ← uint32.read bytes
  let (numBBoxes, bytes) ← uint32.read bytes
  let (scaleXY, bytes) ← (float32 bits).read bytes
  let (anchorsSize, bytes) ← uint32.read bytes
  let (anchors, bytes) ← Codec.readList (float32 bits).read anchorsSize.toNat bytes
  let (maskSize, bytes) ← uint32.read bytes
  let (mask, bytes) ← Codec.readList int32.read maskSize.toNat bytes
  return (⟨"", gridSizeX, gridSizeY, numBBoxes, scaleXY, anchors, mask⟩, bytes)

/-- The constructor of `YoloLayer` from serialized data; it does not look at the length. -/
def YoloLayer.deserialize (bytes : List UInt8) : Option (YoloLayer F × List UInt8) := do
  let (m_NetWidth, bytes) ← uint32.read bytes
  let (m_NetHeight, bytes) ← uint32.read bytes
  let (m_NumClasses, bytes) ← uint32.read bytes
  let (m_NewCoords, bytes) ← uint32.read bytes
  let (m_OutputSize, bytes) ← uint64.read bytes
  let (yoloTensorsSize, bytes) ← uint32.read bytes
  let (m_YoloTensors, bytes) ←
    Codec.readList (TensorInfo.read bits) yoloTensorsSize.toNat bytes
  return (⟨"", m_NetWidth, m_NetHeight, m_NumClasses, m_NewCoords, m_YoloTensors, m_OutputSize⟩,
    bytes)

/-! ## The two together -/

/-- The counts of a tensor fit their 32 bits. -/
structure TensorInfo.Fits (t : TensorInfo F) : Prop where
  anchors : t.anchors.length < 2 ^ 32
  mask : t.mask.length < 2 ^ 32

/-- The counts of a layer fit their 32 bits. -/
structure YoloLayer.Fits (l : YoloLayer F) : Prop where
  tensors : l.m_YoloTensors.length < 2 ^ 32
  each : ∀ t ∈ l.m_YoloTensors, t.Fits

/-- A tensor without the name of its blob. -/
def TensorInfo.nameless (t : TensorInfo F) : TensorInfo F := { t with blobName := "" }

/-- A layer without its names. -/
def YoloLayer.nameless (l : YoloLayer F) : YoloLayer F :=
  { l with m_Namespace := "", m_YoloTensors := l.m_YoloTensors.map TensorInfo.nameless }

variable {bits}

/-- A count that fits is written as it is. -/
theorem toNat_ofNat_length {α : Type*} {l : List α} (h : l.length < 2 ^ 32) :
    (UInt32.ofNat l.length).toNat = l.length :=
  UInt32.toNat_ofNat_of_lt h

/-- A counted list comes back. -/
theorem readList_flatMap {α : Type*} (c : Codec α) (hc : ∀ a, c.Valid a) {l : List α}
    (h : l.length < 2 ^ 32) (rest : List UInt8) :
    Codec.readList c.read (UInt32.ofNat l.length).toNat
        ((l.take (UInt32.ofNat l.length).toNat).flatMap c.write ++ rest) = some (l, rest) := by
  rw [toNat_ofNat_length h, List.take_length]
  exact (c.replicate l.length).read_write l rest ⟨rfl, fun a _ => hc a⟩

/-- A counted list was written with its count. -/
theorem write_of_readList {α : Type} (c : Codec α) {n : UInt32} {bytes rest : List UInt8}
    {l : List α} (h : Codec.readList c.read n.toNat bytes = some (l, rest)) :
    l.length < 2 ^ 32 ∧ UInt32.ofNat l.length = n ∧ (∀ a ∈ l, c.Valid a) ∧
      bytes = (l.take n.toNat).flatMap c.write ++ rest := by
  obtain ⟨⟨hlength, hvalid⟩, hbytes⟩ := (c.replicate n.toNat).write_of_read h
  refine ⟨hlength ▸ n.toNat_lt, by rw [hlength, UInt32.ofNat_toNat], hvalid, ?_⟩
  rw [List.take_of_length_le (Nat.le_of_eq hlength)]
  exact hbytes

/-- The tensors as the two loops write and read them. -/
def tensorCodec (bits : F ≃ UInt32) : Codec (TensorInfo F) where
  write := TensorInfo.serialize bits
  read := TensorInfo.read bits
  Valid t := t.Fits ∧ t.blobName = ""
  read_write t rest h := by
    obtain ⟨⟨hanchors, hmask⟩, hname⟩ := h
    simp only [TensorInfo.serialize, TensorInfo.read, List.append_assoc,
      uint32.read_write _ _ trivial, (float32 bits).read_write _ _ trivial,
      readList_flatMap (float32 bits) (fun _ => trivial) hanchors,
      readList_flatMap int32 (fun _ => trivial) hmask, Option.bind_eq_bind, Option.bind_some]
    rw [← hname]
    rfl
  write_of_read {bytes t rest} h := by
    obtain ⟨⟨gridSizeX, bytes₁⟩, h₁, h⟩ := Option.bind_eq_some_iff.mp h
    obtain ⟨⟨gridSizeY, bytes₂⟩, h₂, h⟩ := Option.bind_eq_some_iff.mp h
    obtain ⟨⟨numBBoxes, bytes₃⟩, h₃, h⟩ := Option.bind_eq_some_iff.mp h
    obtain ⟨⟨scaleXY, bytes₄⟩, h₄, h⟩ := Option.bind_eq_some_iff.mp h
    obtain ⟨⟨anchorsSize, bytes₅⟩, h₅, h⟩ := Option.bind_eq_some_iff.mp h
    obtain ⟨⟨anchors, bytes₆⟩, h₆, h⟩ := Option.bind_eq_some_iff.mp h
    obtain ⟨⟨maskSize, bytes₇⟩, h₇, h⟩ := Option.bind_eq_some_iff.mp h
    obtain ⟨⟨mask, bytes₈⟩, h₈, h⟩ := Option.bind_eq_some_iff.mp h
    cases h
    obtain ⟨-, rfl⟩ := uint32.write_of_read h₁
    obtain ⟨-, rfl⟩ := uint32.write_of_read h₂
    obtain ⟨-, rfl⟩ := uint32.write_of_read h₃
    obtain ⟨-, rfl⟩ := (float32 bits).write_of_read h₄
    obtain ⟨-, rfl⟩ := uint32.write_of_read h₅
    obtain ⟨hanchors, hanchorsSize, -, rfl⟩ := write_of_readList (float32 bits) h₆
    obtain ⟨-, rfl⟩ := uint32.write_of_read h₇
    obtain ⟨hmask, hmaskSize, -, rfl⟩ := write_of_readList int32 h₈
    refine ⟨⟨⟨hanchors, hmask⟩, rfl⟩, ?_⟩
    simp only [TensorInfo.serialize, hanchorsSize, hmaskSize, List.append_assoc]

/-- The layers as `serialize` and the reading constructor see them. -/
def layerCodec (bits : F ≃ UInt32) : Codec (YoloLayer F) where
  write := YoloLayer.serialize bits
  read := YoloLayer.deserialize bits
  Valid l := l.Fits ∧ l.m_Namespace = "" ∧ ∀ t ∈ l.m_YoloTensors, t.blobName = ""
  read_write l rest h := by
    obtain ⟨⟨htensors, hfits⟩, hname, hnames⟩ := h
    have hlist : Codec.readList (TensorInfo.read bits) (UInt32.ofNat l.m_YoloTensors.length).toNat
        ((l.m_YoloTensors.take (UInt32.ofNat l.m_YoloTensors.length).toNat).flatMap
          (TensorInfo.serialize bits) ++ rest) = some (l.m_YoloTensors, rest) := by
      rw [toNat_ofNat_length htensors, List.take_length]
      exact ((tensorCodec bits).replicate _).read_write l.m_YoloTensors rest
        ⟨rfl, fun t ht => ⟨hfits t ht, hnames t ht⟩⟩
    simp only [YoloLayer.serialize, YoloLayer.deserialize, List.append_assoc,
      uint32.read_write _ _ trivial, uint64.read_write _ _ trivial, hlist, Option.bind_eq_bind,
      Option.bind_some]
    rw [← hname]
    rfl
  write_of_read {bytes l rest} h := by
    obtain ⟨⟨m_NetWidth, bytes₁⟩, h₁, h⟩ := Option.bind_eq_some_iff.mp h
    obtain ⟨⟨m_NetHeight, bytes₂⟩, h₂, h⟩ := Option.bind_eq_some_iff.mp h
    obtain ⟨⟨m_NumClasses, bytes₃⟩, h₃, h⟩ := Option.bind_eq_some_iff.mp h
    obtain ⟨⟨m_NewCoords, bytes₄⟩, h₄, h⟩ := Option.bind_eq_some_iff.mp h
    obtain ⟨⟨m_OutputSize, bytes₅⟩, h₅, h⟩ := Option.bind_eq_some_iff.mp h
    obtain ⟨⟨yoloTensorsSize, bytes₆⟩, h₆, h⟩ := Option.bind_eq_some_iff.mp h
    obtain ⟨⟨m_YoloTensors, bytes₇⟩, h₇, h⟩ := Option.bind_eq_some_iff.mp h
    cases h
    obtain ⟨-, rfl⟩ := uint32.write_of_read h₁
    obtain ⟨-, rfl⟩ := uint32.write_of_read h₂
    obtain ⟨-, rfl⟩ := uint32.write_of_read h₃
    obtain ⟨-, rfl⟩ := uint32.write_of_read h₄
    obtain ⟨-, rfl⟩ := uint64.write_of_read h₅
    obtain ⟨-, rfl⟩ := uint32.write_of_read h₆
    obtain ⟨htensors, hsize, hvalid, rfl⟩ := write_of_readList (tensorCodec bits) h₇
    refine ⟨⟨⟨htensors, fun t ht => (hvalid t ht).1⟩, rfl, fun t ht => (hvalid t ht).2⟩, ?_⟩
    simp only [YoloLayer.serialize, hsize, List.append_assoc, tensorCodec]

/-- Names are not written. -/
theorem YoloLayer.serialize_nameless (l : YoloLayer F) :
    l.nameless.serialize bits = l.serialize bits := by
  simp only [YoloLayer.serialize, YoloLayer.nameless, List.length_map, ← List.map_take,
    List.flatMap_map]
  rfl

/-- A layer whose counts fit is one the codec is good for, once its names are gone. -/
theorem YoloLayer.Fits.valid {l : YoloLayer F} (h : l.Fits) :
    (layerCodec bits).Valid l.nameless := by
  refine ⟨⟨?_, ?_⟩, rfl, ?_⟩
  · rw [YoloLayer.nameless, List.length_map]
    exact h.tensors
  · intro t ht
    obtain ⟨u, hu, rfl⟩ := List.mem_map.mp ht
    exact ⟨(h.each u hu).anchors, (h.each u hu).mask⟩
  · intro t ht
    obtain ⟨u, -, rfl⟩ := List.mem_map.mp ht
    rfl

/-! ## The size -/

/-- Values of four bytes. -/
theorem length_flatMap_write {α : Type} {c : Codec α} (hc : ∀ a, (c.write a).length = 4)
    (l : List α) : (l.flatMap c.write).length = 4 * l.length := by
  induction l with
  | nil => rfl
  | cons a l ih =>
    rw [List.flatMap_cons, List.length_append, ih, hc, List.length_cons]
    omega

theorem length_write_uint32 (x : UInt32) : (uint32.write x).length = 4 := length_leBytes 4 _

theorem length_write_uint64 (x : UInt64) : (uint64.write x).length = 8 := length_leBytes 8 _

theorem TensorInfo.length_serialize {t : TensorInfo F} (h : t.Fits) :
    (t.serialize bits).length = t.getSerializationSize := by
  have hanchors := @length_flatMap_write F (float32 bits) (fun a => length_write_uint32 _) t.anchors
  have hmask := @length_flatMap_write Int32 int32 (fun a => length_write_uint32 _) t.mask
  have hscale : ((float32 bits).write t.scaleXY).length = 4 := length_write_uint32 _
  simp only [TensorInfo.serialize, TensorInfo.getSerializationSize, toNat_ofNat_length h.anchors,
    toNat_ofNat_length h.mask, List.take_length, List.length_append, length_write_uint32, hanchors,
    hmask, hscale]
  omega

/-- **The buffer is filled exactly.** -/
theorem YoloLayer.length_serialize {l : YoloLayer F} (h : l.Fits) :
    (l.serialize bits).length = l.getSerializationSize := by
  simp only [YoloLayer.serialize, YoloLayer.getSerializationSize, toNat_ofNat_length h.tensors,
    List.take_length, List.length_append, length_write_uint32, length_write_uint64,
    List.length_flatMap]
  congr 2
  exact List.map_congr_left fun t ht => TensorInfo.length_serialize (h.each t ht)

/-- **A layer comes back from its serialized form.** For every layer with fewer than `2 ^ 32`
tensors, anchors and masks, whatever bytes follow: `serialize` fills a buffer of
`getSerializationSize` bytes exactly, and the reading constructor makes the layer of it again, up to
the names it does not write. -/
theorem deserialize_serialize (bits : F ≃ UInt32) (l : YoloLayer F) (rest : List UInt8)
    (h : l.Fits) :
    (l.serialize bits).length = l.getSerializationSize ∧
      YoloLayer.deserialize bits (l.serialize bits ++ rest) = some (l.nameless, rest) := by
  refine ⟨YoloLayer.length_serialize h, ?_⟩
  rw [← YoloLayer.serialize_nameless]
  exact (layerCodec bits).read_write l.nameless rest h.valid

/-- A layer of one tensor, its floats given by their bits. -/
def oneTensor : YoloLayer UInt32 :=
  ⟨"ns", 416, 416, 80, 0, [⟨"yolo_16", 13, 13, 3, 0x3f800000, [10, 14, 23, 27], [0, -1]⟩], 507⟩

theorem fits_oneTensor : oneTensor.Fits :=
  ⟨by decide, List.forall_mem_cons.mpr ⟨⟨by decide, by decide⟩, nofun⟩⟩

/-- Its seventy-six bytes, and the layer back from them. -/
theorem deserialize_serialize_one :
    (oneTensor.serialize (Equiv.refl _)).length = 76 ∧
      YoloLayer.deserialize (Equiv.refl _) (oneTensor.serialize (Equiv.refl _) ++ [])
        = some (oneTensor.nameless, []) := by
  obtain ⟨hsize, hback⟩ := deserialize_serialize (Equiv.refl _) oneTensor [] fits_oneTensor
  exact ⟨hsize, hback⟩

/-- **What is read was written.** If the reading constructor makes a layer of some bytes without
reading past their end, then they begin with exactly what `serialize` writes for that layer, and the
bytes it has read are as many as `getSerializationSize` says. -/
theorem serialize_deserialize (bits : F ≃ UInt32) {bytes rest : List UInt8} {l : YoloLayer F}
    (h : YoloLayer.deserialize bits bytes = some (l, rest)) :
    bytes = l.serialize bits ++ rest ∧
      bytes.length = l.getSerializationSize + rest.length := by
  obtain ⟨⟨hfits, -⟩, hbytes⟩ := (layerCodec bits).write_of_read h
  have hbytes' : bytes = l.serialize bits ++ rest := hbytes
  refine ⟨hbytes', ?_⟩
  rw [hbytes', List.length_append, YoloLayer.length_serialize hfits]

/-- Seventy-six bytes and one more. -/
def oneTensorBytes : List UInt8 :=
  [0xa0, 1, 0, 0, 0xa0, 1, 0, 0, 80, 0, 0, 0, 0, 0, 0, 0, 0xfb, 1, 0, 0, 0, 0, 0, 0, 1, 0, 0, 0,
    13, 0, 0, 0, 13, 0, 0, 0, 3, 0, 0, 0, 0, 0, 0x80, 0x3f,
    4, 0, 0, 0, 10, 0, 0, 0, 14, 0, 0, 0, 23, 0, 0, 0, 27, 0, 0, 0,
    2, 0, 0, 0, 0, 0, 0, 0, 0xff, 0xff, 0xff, 0xff, 7]

/-- They are those of the layer of one tensor, which is read from them. -/
theorem serialize_deserialize_one :
    oneTensorBytes = oneTensor.nameless.serialize (Equiv.refl _) ++ [7] ∧
      oneTensorBytes.length = oneTensor.nameless.getSerializationSize + 1 :=
  serialize_deserialize (Equiv.refl _)
    (by decide +kernel : YoloLayer.deserialize (Equiv.refl UInt32) oneTensorBytes
      = some (oneTensor.nameless, [7]))

end DemoColombia.Detector
