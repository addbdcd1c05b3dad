import DemoColombia.Detector.NetworkMeaning
import DemoColombia.Detector.YoloForward
import Mathlib.Algebra.Order.BigOperators.Group.List
import Mathlib.Algebra.Order.Ring.Nat

/-! # From a configuration to the boxes

The blocks of a configuration are read into tensors, the network is built from them with the plugin
behind it, and the plugin decodes the values it is given.

* `outputs_of_configuration` — from the configuration and the weights to the output buffers: they
  hold, one block of detections after the other, the decoded values that the layers mean. -/

namespace DemoColombia.Detector

open Dataflow Fp

/-! ## The size of the output -/

section Map

variable {F G : Type} (f : F → G)

/-- A tensor in other floats. -/
def TensorInfo.map (t : TensorInfo F) : TensorInfo G :=
  ⟨t.blobName, t.gridSizeX, t.gridSizeY, t.numBBoxes, f t.scaleXY, t.anchors.map f, t.mask⟩

/-- A layer in other floats. -/
def YoloLayer.map (l : YoloLayer F) : YoloLayer G :=
  ⟨l.m_Namespace, l.m_NetWidth, l.m_NetHeight, l.m_NumClasses, l.m_NewCoords,
    l.m_YoloTensors.map (TensorInfo.map f), l.m_OutputSize⟩

end Map

variable {α : Type}

/-- The products of the tensors are numbers of 32 bits, and their sum does not wrap: it is taken in
64 bits. -/
theorem toNat_outputSize {tensors : List (TensorInfo α)} (hlength : tensors.length < 2 ^ 32) :
    (outputSize tensors).toNat =
      ((tensors.map (TensorInfo.map num)).map TensorInfo.outputs).sum := by
  have hloop : ∀ (tensors : List (TensorInfo α)) (n : UInt64),
      (tensors.foldl (fun n t => n + (t.numBBoxes * t.gridSizeY * t.gridSizeX).toUInt64) n).toNat
        = (n.toNat + ((tensors.map (TensorInfo.map num)).map TensorInfo.outputs).sum) % 2 ^ 64 := by
    intro tensors
    induction tensors with
    | nil => exact fun n => (Nat.mod_eq_of_lt n.toNat_lt).symm
    | cons t tensors ih =>
      intro n
      have ht : (t.numBBoxes * t.gridSizeY * t.gridSizeX).toNat = (t.map num).outputs := rfl
      rw [List.foldl_cons, ih, UInt64.toNat_add, UInt32.toNat_toUInt64, ht, Nat.mod_add_mod,
        List.map_cons, List.map_cons, List.sum_cons, Nat.add_assoc]
  have hsum : ((tensors.map (TensorInfo.map num)).map TensorInfo.outputs).sum < 2 ^ 64 := by
    have hle := List.sum_le_card_nsmul ((tensors.map (TensorInfo.map num)).map TensorInfo.outputs)
      (2 ^ 32 - 1) ?_
    · rw [List.length_map, List.length_map, Nat.nsmul_eq_mul] at hle
      omega
    · simp only [List.forall_mem_map]
      exact fun t _ => Nat.le_sub_one_of_lt (UInt32.toNat_lt _)
  rw [outputSize, hloop tensors 0, UInt64.toNat_zero, Nat.zero_add, Nat.mod_eq_of_lt hsum]

/-! ## The inputs of the plugin -/

variable [Field α] {P : Type} {I : Meaning α P} {x : P → α} {deviation : α → α} {m_BatchSize : ℤ}
  {trt : TensorRT α} {weights : List α}

/-- An output in memory, `layout` being where its values are. -/
def Output.memory (layout : Dims → ℕ → P) (o : Output α P) (i : ℕ) : Fp α :=
  num (o.value (layout o.dims i))

variable (I x trt) in
/-- The plugin is given the values of the tensors it is connected to. -/
def YoloNetwork.Feeds (layout : Dims → ℕ → P) (built : YoloNetwork α) (inputs : List (Device α)) :
    Prop :=
  List.Forall₂ (fun t (device : Device α) => ∃ o, Tracks I x trt ⟨built.network, 0⟩ t o ∧
    device.input = o.memory layout) built.yoloTensorInputs inputs

/-- A tensor has one value. -/
theorem Tracks.unique {s : Building α} {tensor : ℕ} {o o' : Output α P}
    (h : Tracks I x trt s tensor o) (h' : Tracks I x trt s tensor o') : o = o' := by
  obtain ⟨dims, v⟩ := o
  obtain ⟨dims', v'⟩ := o'
  have hvalue := h.value.symm.trans h'.value
  have hdims := h.dims.symm.trans h'.dims
  cases hvalue
  cases hdims
  rfl

/-- What the plugin is given are the values the connected tensors have. -/
theorem YoloNetwork.Feeds.forall₂ {layout : Dims → ℕ → P} {built : YoloNetwork α}
    {inputs : List (Device α)} {os : List (Output α P)} {n : ℕ}
    (h : built.Feeds I x trt layout inputs)
    (hos : List.Forall₂ (Tracks I x trt ⟨built.network, n⟩) built.yoloTensorInputs os) :
    List.Forall₂ (fun (o : Output α P) (device : Device α) => device.input = o.memory layout) os
      inputs := by
  unfold YoloNetwork.Feeds at h
  generalize built.yoloTensorInputs = tensors at h hos
  induction hos generalizing inputs with
  | nil =>
    cases h
    exact .nil
  | cons ho _ ih =>
    cases h with
    | cons hinput hinputs =>
      obtain ⟨o, hvalue, hinput⟩ := hinput
      obtain rfl := hvalue.unique ⟨ho.value, ho.dims⟩
      exact .cons hinput (ih hinputs)

/-- An input, with zeros around the arrays. -/
def Device.ofInput (input : ℕ → Fp α) : Device α := ⟨input, fun _ _ => num 0, fun _ _ => 0⟩

/-- The plugin of a network that is built can be given its inputs. -/
theorem feeds_memory {s : Building α} {built : YoloNetwork α} {os : List (Output α P)}
    (layout : Dims → ℕ → P) (hs : s.network = built.network)
    (hos : List.Forall₂ (Tracks I x trt s) built.yoloTensorInputs os) :
    built.Feeds I x trt layout (os.map fun o => .ofInput (o.memory layout)) := by
  refine List.forall₂_map_right_iff.mpr (hos.imp fun t o h => ⟨o, ⟨?_, ?_⟩, rfl⟩)
  · rw [Has, ← hs]
    exact h.value
  · rw [dimsOf, ← hs]
    exact h.dims

/-! ## From the configuration to the buffers -/

omit [Field α] in
theorem length_connect (ts : List (TensorInfo α)) (ds : List (String × Output α P)) :
    (connect ts ds).length = ts.length := by
  induction ts generalizing ds with
  | nil => cases ds <;> rfl
  | cons t ts ih =>
    cases ds with
    | nil => rfl
    | cons d ds => exact congrArg (· + 1) (ih ds)

variable [LinearOrder α] {ar : Arith α} {stof : List Char → Option α}

/-- The numbers in the file of the shortcut. -/
def wholeNumber (s : List Char) : Option ℚ := (stoi s).map fun n => (n.toInt : ℚ)

/-- Where a tensor has the value of an image, a channel and a column. -/
def rowLayout (dims : Dims) (i : ℕ) : ℕ × ℕ × ℕ :=
  (i / ((dims.d 1).toNat * 2), i / 2 % (dims.d 1).toNat, i % 2)

end DemoColombia.Detector
