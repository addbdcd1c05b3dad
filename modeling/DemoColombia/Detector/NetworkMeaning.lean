import DemoColombia.Detector.Network
import Mathlib.Algebra.Field.Basic
import Mathlib.Data.List.GetD
import Mathlib.Tactic.Ring

/-! # What the network that is built computes

The blocks of a configuration say what a Darknet network computes (`Means`): each layer has a value
given by those of earlier layers and by its part of the weights, which the file has in the order of
the layers. The layers of TensorRT have values of their own (`Op.value`).

* `buildYoloNetwork_means` — the network that is built gives every layer of the configuration the
  value that it means, and each weight of the file belongs to exactly one layer.

Arithmetic is exact here. Convolutions and the layers that move values around have any meaning, the
same on both sides. -/

namespace DemoColombia.Detector

open Dataflow Prog

/-! ## The layers of TensorRT -/

/-- What a layer of the network comes to: the values of a tensor at the positions of an image, or
some sizes. -/
inductive Val (F P : Type)
  | tensor (v : P → F)
  | sizes (l : List ℤ)

/-- A meaning of the operations. -/
structure Meaning (F P : Type) where
  channel : P → ℕ
  pow : F → F → F
  activation : ActivationType → Option ℚ → Option ℚ → F → F
  convolution : ConvShape → Weights F → Weights F → (P → F) → P → F
  deconvolution : ConvShape → Weights F → Weights F → (P → F) → P → F
  slice : List ℤ → List ℤ → List ℤ → (P → F) → P → F
  concatenation : ℤ → List (P → F) → P → F
  pooling : PoolingType → List ℤ → List ℤ → List ℤ → Option (List ℤ) → Option (List ℤ) →
    (P → F) → P → F
  resize : List ℤ → (P → F) → P → F
  shuffle : List ℤ → Option (List ℕ) → (P → F) → P → F

variable {F P : Type} [Field F] (I : Meaning F P) (x : P → F)

/-- The tensor of a value. -/
def Val.tensor? : Val F P → Option (P → F)
  | .tensor v => some v
  | .sizes _ => none

/-- What a layer makes of its inputs, `x` being the image. -/
def Op.value : Op F → List (Val F P) → Option (Val F P)
  | .input _, [] => some (.tensor x)
  | .convolution shape kernel bias, [.tensor v] =>
    some (.tensor (I.convolution shape kernel bias v))
  | .deconvolution shape kernel bias, [.tensor v] =>
    some (.tensor (I.deconvolution shape kernel bias v))
  | .scale shiftWt scaleWt powerWt, [.tensor v] =>
    some (.tensor fun p =>
      I.pow (v p * scaleWt.values.getD (I.channel p) 0 + shiftWt.values.getD (I.channel p) 0)
        (powerWt.values.getD (I.channel p) 1))
  | .constant _ weights, [] => some (.tensor fun p => weights.values.getD (I.channel p) 0)
  | .sizes values, [] => some (.sizes values)
  | .activation type alpha beta, [.tensor v] =>
    some (.tensor fun p => I.activation type alpha beta (v p))
  | .elementWise .kSUM, [.tensor v, .tensor w] => some (.tensor fun p => v p + w p)
  | .elementWise .kPROD, [.tensor v, .tensor w] => some (.tensor fun p => v p * w p)
  | .elementWise .kPROD, [.sizes l, .sizes m] => some (.sizes (List.zipWith (· * ·) l m))
  | .slice start size stride, [.tensor v] => some (.tensor (I.slice start size stride v))
  | .slice start _ stride, [.tensor v, .sizes size] =>
    some (.tensor (I.slice start size stride v))
  | .concatenation axis, vs => (vs.mapM Val.tensor?).map fun vs => .tensor (I.concatenation axis vs)
  | .pooling type windowSize stride padding prePadding postPadding, [.tensor v] =>
    some (.tensor (I.pooling type windowSize stride padding prePadding postPadding v))
  | .resize scales, [.tensor v] => some (.tensor (I.resize scales v))
  | .shuffle reshape transpose, [.tensor v] => some (.tensor (I.shuffle reshape transpose v))
  | _, _ => none

/-- The same, of a layer with its name. -/
def Layer.value (layer : Layer F) (vs : List (Val F P)) : Option (Val F P) := layer.op.value I x vs

/-! ## The layers of Darknet -/

/-- The output of a layer, with its dimensions. -/
structure Output (F P : Type) where
  dims : Dims
  value : P → F

/-- The activations; other names are none. -/
def Meaning.activate (activation : String) (y : F) : F :=
  if activation = "linear" then y
  else if activation = "relu" then I.activation .kRELU none none y
  else if activation = "sigmoid" ∨ activation = "logistic" then I.activation .kSIGMOID none none y
  else if activation = "tanh" then I.activation .kTANH none none y
  else if activation = "leaky" then I.activation .kLEAKY_RELU (some (1 / 10)) none y
  else if activation = "softplus" then I.activation .kSOFTPLUS none none y
  else if activation = "mish" then
    y * I.activation .kTANH none none (I.activation .kSOFTPLUS none none y)
  else if activation = "silu" ∨ activation = "swish" then y * I.activation .kSIGMOID none none y
  else if activation = "hardsigmoid" then
    I.activation .kHARD_SIGMOID (some (1 / 6)) (some (1 / 2)) y
  else if activation = "hardswish" then
    y * I.activation .kHARD_SIGMOID (some (1 / 6)) (some (1 / 2)) y
  else 0

/-- The part of the weights file with the parameters of a normalization. -/
structure Statistics (F : Type) where
  biases : List F
  scales : List F
  mean : List F
  variance : List F

/-- The four parts, one after the other. -/
def Statistics.toList (st : Statistics F) : List F :=
  st.biases ++ st.scales ++ st.mean ++ st.variance

/-- A normalization of `n` channels. -/
structure Statistics.For (st : Statistics F) (n : ℤ) : Prop where
  biases : st.biases.length = n.toNat
  scales : st.scales.length = n.toNat
  mean : st.mean.length = n.toNat
  variance : st.variance.length = n.toNat

/-- The normalization of a value in a channel. -/
def Statistics.normalize (deviation : F → F) (st : Statistics F) (c : ℕ) (y : F) : F :=
  st.scales.getD c 0 * (y - st.mean.getD c 0) / deviation (st.variance.getD c 0)
    + st.biases.getD c 0

/-- The sizes of a part of a tensor, where the batch may be of any size. -/
def batched (m_BatchSize : ℤ) (dims : Dims) (size : List ℤ) : List ℤ :=
  if dims.d 0 = -1 then m_BatchSize :: size.tail else size

/-- What a route joins its inputs to. -/
inductive Joins (block : Block) : List (Output F P) → Output F P → Prop
  | one (o : Output F P) : Joins block [o] o
  | many {o o' : Output F P} {os : List (Output F P)} {axis : ℤ} {dims : Dims}
      (haxis : routeAxis block o.dims = some axis) :
      Joins block (o :: o' :: os)
        ⟨dims, I.concatenation axis ((o :: o' :: os).map Output.value)⟩

variable (deviation : F → F) (m_BatchSize : ℤ)

/-- **What a layer means**: its value, from that of the layer before it, those of all before it, and
its part of the weights. -/
inductive Means (previous : Output F P) (outputs : List (Output F P)) (block : Block) :
    List F → (P → F) → Prop
  | convolution {c : ConvParams} {activation : String} {channels size : ℤ}
      {convBias convWt : List F}
      (htype : block.get? "type" = some "convolutional")
      (hc : convolutionalParams block = some c) (hplain : c.batchNormalize = false)
      (hactivation : block.get? "activation" = some activation)
      (hchannels : getNumChannels previous.dims = some channels)
      (hsize : c.shape.size channels = some size)
      (hbias : convBias.length = if c.bias ≠ 0 then c.shape.filters.toNat else 0)
      (hkernel : convWt.length = size.toNat) :
      Means previous outputs block (convBias ++ convWt) fun p =>
        I.activate activation (I.convolution c.shape ⟨size, convWt⟩ ⟨c.bias, convBias⟩
          previous.value p)
  | normalized {c : ConvParams} {activation : String} {channels size : ℤ} {convBias convWt : List F}
      {st : Statistics F} (htype : block.get? "type" = some "convolutional")
      (hc : convolutionalParams block = some c) (hnormalized : c.batchNormalize = true)
      (hactivation : block.get? "activation" = some activation)
      (hchannels : getNumChannels previous.dims = some channels)
      (hsize : c.shape.size channels = some size) (hst : st.For c.shape.filters)
      (hbias : convBias.length = if c.bias ≠ 0 then c.shape.filters.toNat else 0)
      (hkernel : convWt.length = size.toNat) :
      Means previous outputs block (st.toList ++ convBias ++ convWt) fun p =>
        I.activate activation (st.normalize deviation (I.channel p)
          (I.convolution c.shape ⟨size, convWt⟩ ⟨c.bias, convBias⟩ previous.value p))
  | deconvolution {c : ConvParams} {channels size : ℤ} {convBias convWt : List F}
      (htype : block.get? "type" = some "deconvolutional")
      (hc : deconvolutionalParams block = some c)
      (hchannels : getNumChannels previous.dims = some channels)
      (hsize : c.shape.size channels = some size)
      (hbias : convBias.length = if c.bias ≠ 0 then c.shape.filters.toNat else 0)
      (hkernel : convWt.length = size.toNat) :
      Means previous outputs block (convBias ++ convWt)
        (I.deconvolution c.shape ⟨size, convWt⟩ ⟨c.bias, convBias⟩ previous.value)
  | batchnorm {filters : ℤ} {activation : String} {st : Statistics F}
      (htype : block.get? "type" = some "batchnorm")
      (hfilters : number block "filters" = some filters)
      (hactivation : block.get? "activation" = some activation) (hst : st.For filters) :
      Means previous outputs block st.toList fun p =>
        I.activate activation (st.normalize deviation (I.channel p) (previous.value p))
  | implicit {type : String} {filters : ℤ} {values : List F}
      (htype : block.get? "type" = some type)
      (himplicit : type = "implicit" ∨ type = "implicit_add" ∨ type = "implicit_mul")
      (hfilters : number block "filters" = some filters)
      (hvalues : values.length = filters.toNat) :
      Means previous outputs block values fun p => values.getD (I.channel p) 0
  | shift_channels {n : ℤ} {other : Output F P}
      (htype : block.get? "type" = some "shift_channels")
      (hfrom : number block "from" = some n) (hother : routeInput outputs n = some other) :
      Means previous outputs block [] fun p => previous.value p + other.value p
  | control_channels {n : ℤ} {other : Output F P}
      (htype : block.get? "type" = some "control_channels")
      (hfrom : number block "from" = some n) (hother : routeInput outputs n = some other) :
      Means previous outputs block [] fun p => previous.value p * other.value p
  | shortcut {n : ℤ} {other : Output F P} (htype : block.get? "type" = some "shortcut")
      (hfrom : number block "from" = some n) (hother : routeInput outputs n = some other)
      (hsame : dimsToString previous.dims = dimsToString other.dims) :
      Means previous outputs block [] fun p =>
        I.activate (activationOf block) (previous.value p + other.value p)
  | shortcut_cut {n : ℤ} {other : Output F P} (htype : block.get? "type" = some "shortcut")
      (hfrom : number block "from" = some n) (hother : routeInput outputs n = some other)
      (hdiffer : dimsToString previous.dims ≠ dimsToString other.dims) :
      Means previous outputs block [] fun p =>
        I.activate (activationOf block) (previous.value p
          + I.slice [0, 0, 0, 0] (batched m_BatchSize other.dims previous.dims.toList) [1, 1, 1, 1]
            other.value p)
  | sam {n : ℤ} {other : Output F P} (htype : block.get? "type" = some "sam")
      (hfrom : number block "from" = some n) (hother : routeInput outputs n = some other) :
      Means previous outputs block [] fun p =>
        I.activate (activationOf block) (previous.value p * other.value p)
  | route {layers : String} {idx : List ℤ} {os : List (Output F P)} {o : Output F P}
      (htype : block.get? "type" = some "route") (hlayers : block.get? "layers" = some layers)
      (hidx : idxLayers layers.toList = some idx) (hos : idx.mapM (routeInput outputs) = some os)
      (hall : block.get? "groups" = none) (hjoins : Joins I block os o) :
      Means previous outputs block [] o.value
  | route_group {layers : String} {idx : List ℤ} {os : List (Output F P)} {o : Output F P}
      {start size : List ℤ}
      (htype : block.get? "type" = some "route") (hlayers : block.get? "layers" = some layers)
      (hidx : idxLayers layers.toList = some idx) (hos : idx.mapM (routeInput outputs) = some os)
      (hjoins : Joins I block os o) (hgroup : groupSlice block o.dims = some (start, size)) :
      Means previous outputs block []
        (I.slice start (batched m_BatchSize o.dims size) [1, 1, 1, 1] o.value)
  | upsample {stride : ℤ} (htype : block.get? "type" = some "upsample")
      (hstride : number block "stride" = some stride) :
      Means previous outputs block [] (I.resize [1, 1, stride, stride] previous.value)
  | pooling {type : PoolingType} {windowSize stride padding : List ℤ}
      {prePadding postPadding : Option (List ℤ)}
      (hop : poolingOp (F := F) block previous.dims
        = some (.pooling type windowSize stride padding prePadding postPadding)) :
      Means previous outputs block []
        (I.pooling type windowSize stride padding prePadding postPadding previous.value)
  | reorg {stride : ℤ} (htype : block.get? "type" = some "reorg")
      (hstride : numberOr block "stride" 1 = some stride) :
      Means previous outputs block []
        ((reorgShuffles previous.dims stride).foldl (fun v s => I.shuffle s.1 s.2 v) previous.value)
  | detection (hdetection : block.isDetection = true) :
      Means previous outputs block [] previous.value

/-- **What a configuration means**: the layers one after the other, each with its part of the
weights. The first layer is given the image. -/
inductive Runs (image : Output F P) : List Block → List (List F) → List (Output F P) → Prop
  | nil : Runs image [] [] []
  | layer {blocks : List Block} {parts : List (List F)} {outputs : List (Output F P)}
      {block : Block} {part : List F} {o : Output F P} (h : Runs image blocks parts outputs)
      (hmeans : Means I deviation m_BatchSize (outputs.getLastD image) outputs block part o.value) :
      Runs image (blocks ++ [block]) (parts ++ [part]) (outputs ++ [o])

/-! ## Building a layer -/

/-- Arithmetic without rounding. -/
def FloatOps.exact : FloatOps F := ⟨(· - ·), (· * ·), (· / ·), deviation⟩

variable {I x deviation m_BatchSize} {trt : TensorRT F} {weights : List F}

variable (I x) in
/-- A tensor of the network has a value. -/
def Has (s : Building F) (tensor : ℕ) (v : Val F P) : Prop :=
  value (Layer.value I x) s.network tensor = some v

theorem Has.mono {s s' : Building F} {part : List F} {tensor : ℕ} {v : Val F P}
    (h : Has I x s tensor v) (hmoves : Moves weights s s' part) : Has I x s' tensor v := by
  obtain ⟨new, hnew⟩ := hmoves.grows
  rw [Has, ← hnew]
  exact value_append h new

variable (weights) in
/-- **Adding a layer.** -/
theorem ends_addLayer {s : Building F} {name : String} {op : Op F} {inputs : List ℕ}
    {vs : List (Val F P)} {v : Val F P}
    (hinputs : List.Forall₂ (fun i v => Has I x s i v) inputs vs) (hv : op.value I x vs = some v) :
    (addLayer trt name op inputs).Ends s fun t s' => Moves weights s s' [] ∧ Has I x s' t v := by
  intro t s' hrun
  rw [addLayer] at hrun
  split at hrun
  · cases hrun
    exact ⟨⟨List.prefix_append _ _, rfl, rfl⟩, (value_concat hinputs).trans hv⟩
  · cases hrun

variable (weights) in
/-- **Adding an activation.** -/
theorem ends_activationLayer {s : Building F} {layerIdx : ℕ} {activation : String} {input : ℕ}
    {v : P → F} (hin : Has I x s input (.tensor v)) :
    (activationLayer trt layerIdx activation input).Ends s fun t s' =>
      Moves weights s s' [] ∧ Has I x s' t (.tensor fun p => I.activate activation (v p)) := by
  have hone : List.Forall₂ (fun i v => Has I x s i v) [input] [.tensor v] := .cons hin .nil
  unfold activationLayer Meaning.activate
  by_cases h : activation = "linear"
  · simp only [if_pos h]
    exact ends_pure ⟨Moves.refl s, hin⟩
  simp only [if_neg h]
  by_cases h : activation = "relu"
  · simp only [if_pos h]
    exact ends_addLayer weights hone rfl
  simp only [if_neg h]
  by_cases h : activation = "sigmoid" ∨ activation = "logistic"
  · simp only [if_pos h]
    exact ends_addLayer weights hone rfl
  simp only [if_neg h]
  by_cases h : activation = "tanh"
  · simp only [if_pos h]
    exact ends_addLayer weights hone rfl
  simp only [if_neg h]
  by_cases h : activation = "leaky"
  · simp only [if_pos h]
    exact ends_addLayer weights hone rfl
  simp only [if_neg h]
  by_cases h : activation = "softplus"
  · simp only [if_pos h]
    exact ends_addLayer weights hone rfl
  simp only [if_neg h]
  by_cases h : activation = "mish"
  · simp only [if_pos h]
    refine ends_bind ((ends_addLayer weights hone rfl).mono ?_)
    rintro softplus s₁ ⟨hm₁, hsoftplus⟩
    refine ends_bind ((ends_addLayer weights (.cons hsoftplus .nil) rfl).mono ?_)
    rintro tanh s₂ ⟨hm₂, htanh⟩
    have hin₂ := (hin.mono hm₁).mono hm₂
    exact (ends_addLayer weights (.cons hin₂ (.cons htanh .nil)) rfl).mono
      fun t s' h => ⟨(hm₁.then hm₂).then h.1, h.2⟩
  simp only [if_neg h]
  by_cases h : activation = "silu" ∨ activation = "swish"
  · simp only [if_pos h]
    refine ends_bind ((ends_addLayer weights hone rfl).mono ?_)
    rintro gate s₁ ⟨hm₁, hgate⟩
    exact (ends_addLayer weights (.cons (hin.mono hm₁) (.cons hgate .nil)) rfl).mono
      fun t s' h => ⟨hm₁.then h.1, h.2⟩
  simp only [if_neg h]
  by_cases h : activation = "hardsigmoid"
  · simp only [if_pos h]
    exact ends_addLayer weights hone rfl
  simp only [if_neg h]
  by_cases h : activation = "hardswish"
  · simp only [if_pos h]
    refine ends_bind ((ends_addLayer weights hone rfl).mono ?_)
    rintro gate s₁ ⟨hm₁, hgate⟩
    exact (ends_addLayer weights (.cons (hin.mono hm₁) (.cons hgate .nil)) rfl).mono
      fun t s' h => ⟨hm₁.then h.1, h.2⟩
  simp only [if_neg h]
  exact ends_lift fun a h => by cases h

/-! ## The layers with weights -/

theorem getD_zipWith {α β γ : Type} (f : α → β → γ) {l : List α} {m : List β}
    (h : l.length = m.length) {c : ℕ} (hc : c < l.length) (a : α) (b : β) (d : γ) :
    (List.zipWith f l m).getD c d = f (l.getD c a) (m.getD c b) := by
  have hm : c < m.length := h ▸ hc
  rw [List.getD_eq_getElem _ _ (by rw [List.length_zipWith]; omega), List.getElem_zipWith,
    List.getD_eq_getElem _ _ hc, List.getD_eq_getElem _ _ hm]

/-- **Folding a normalization**: the scale layer computes it. -/
theorem scale_value (hpow : ∀ y, I.pow y 1 = y) {st : Statistics F} {n : ℤ} (hst : st.For n)
    (v : P → F) :
    (BatchNorm.scale (.exact deviation)
        ⟨st.biases, st.scales, st.mean, st.variance.map deviation⟩ n).value I x [.tensor v]
      = some (.tensor fun p => st.normalize deviation (I.channel p) (v p)) := by
  obtain ⟨hbiases, hscales, hmean, hvariance⟩ := hst
  have hvar : (st.variance.map deviation).length = n.toNat := by rw [List.length_map, hvariance]
  refine congrArg (fun w => some (Val.tensor w)) (funext fun p => ?_)
  have hpower : (List.replicate n.toNat (1 : F)).getD (I.channel p) 1 = 1 := by
    rw [List.getD_eq_getElem?_getD, List.getElem?_replicate]
    split <;> rfl
  show I.pow _ ((List.replicate n.toNat (1 : F)).getD (I.channel p) 1) = _
  rw [hpower, hpow]
  dsimp only [FloatOps.exact]
  have hquotient : (List.zipWith (· / ·) (List.zipWith (· * ·) st.mean st.scales)
      (st.variance.map deviation)).length = n.toNat := by
    simp only [List.length_zipWith, hmean, hscales, hvar, min_self]
  by_cases hc : I.channel p < n.toNat
  · rw [getD_zipWith _ (hscales.trans hvar.symm) (by rwa [hscales]) 0 0,
      getD_zipWith _ (hbiases.trans hquotient.symm) (by rwa [hbiases]) 0 0,
      getD_zipWith _ (by rw [List.length_zipWith, hmean, hscales, hvar, min_self])
        (by rwa [List.length_zipWith, hmean, hscales, min_self]) 0 0,
      getD_zipWith _ (hmean.trans hscales.symm) (by rwa [hmean]) 0 0, Statistics.normalize]
    have hdeviation : (st.variance.map deviation).getD (I.channel p) 0
        = deviation (st.variance.getD (I.channel p) 0) := by
      rw [List.getD_eq_getElem _ _ (by rwa [hvar]), List.getElem_map,
        List.getD_eq_getElem _ _ (by rwa [hvariance])]
    rw [hdeviation]
    ring
  · -- a channel that the layer does not have
    have hnone : ∀ l : List F, l.length = n.toNat → l.getD (I.channel p) 0 = 0 := by
      intro l hl
      exact List.getD_eq_default _ _ (by omega)
    rw [Statistics.normalize, hnone _ hbiases, hnone _ hscales,
      hnone _ (by rw [List.length_zipWith, hscales, hvar, min_self]),
      hnone _ (by rw [List.length_zipWith, hbiases, hquotient, min_self])]
    ring

theorem ends_readBatchNorm {s : Building F} {n : ℤ} {Q : BatchNorm F → Building F → Prop}
    (h : ∀ (st : Statistics F) s', st.For n → Moves weights s s' st.toList →
      Q ⟨st.biases, st.scales, st.mean, st.variance.map deviation⟩ s') :
    (readBatchNorm (.exact deviation) weights n).Ends s Q := by
  unfold readBatchNorm
  refine ends_bind (ends_readWeights fun biases s₁ hbiases hm₁ => ?_)
  refine ends_bind (ends_readWeights fun scales s₂ hscales hm₂ => ?_)
  refine ends_bind (ends_readWeights fun mean s₃ hmean hm₃ => ?_)
  refine ends_bind (ends_readWeights fun variance s₄ hvariance hm₄ => ?_)
  exact ends_pure (h ⟨biases, scales, mean, variance⟩ s₄ ⟨hbiases, hscales, hmean, hvariance⟩
    (((hm₁.trans hm₂).trans hm₃).trans hm₄))

variable (I x deviation m_BatchSize weights) in
/-- A tensor has a value that a block means, and its part of the weights has been read. -/
def Meets (previous : Output F P) (outputs : List (Output F P)) (block : Block) (s : Building F)
    (tensor : ℕ) (s' : Building F) : Prop :=
  ∃ part v, Means I deviation m_BatchSize previous outputs block part v ∧
    Moves weights s s' part ∧ Has I x s' tensor (.tensor v)

variable {previous : Output F P} {outputs : List (Output F P)} {block : Block} {s : Building F}
  {layerIdx input : ℕ}

theorem ends_convolutionalLayer (hpow : ∀ y, I.pow y 1 = y) {channels : ℤ}
    (hkind : block.get? "type" = some "conv" ∨ block.get? "type" = some "convolutional")
    (hin : Has I x s input (.tensor previous.value))
    (hchannels : getNumChannels previous.dims = some channels) :
    (convolutionalLayer trt (.exact deviation) weights layerIdx block channels input).Ends s
      (Meets I x deviation m_BatchSize weights previous outputs block s) := by
  unfold convolutionalLayer
  refine ends_bind (ends_assert fun hassert => ?_)
  have htype : block.get? "type" = some "convolutional" := by
    rcases hkind with hkind | hkind
    · rw [hkind] at hassert
      exact absurd hassert (by decide)
    · exact hkind
  refine ends_bind (ends_lift fun c hc => ?_)
  refine ends_bind (ends_lift fun activation hactivation => ?_)
  refine ends_bind (ends_lift fun size hsize => ?_)
  split
  · rename_i hplain
    refine ends_bind (ends_readBias fun convBias s₁ hbias hm₁ => ?_)
    refine ends_bind (ends_readWeights fun convWt s₂ hkernel hm₂ => ?_)
    have hm := hm₁.trans hm₂
    refine ends_bind ((ends_addLayer weights (.cons (hin.mono hm) .nil) rfl).mono ?_)
    rintro conv s₃ ⟨hm₃, hconv⟩
    refine (ends_activationLayer weights hconv).mono ?_
    rintro t s' ⟨hm₄, ht⟩
    exact ⟨_, _, .convolution htype hc hplain hactivation hchannels hsize hbias hkernel,
      (hm.then hm₃).then hm₄, ht⟩
  · rename_i hnormalized
    refine ends_bind (ends_readBatchNorm fun st s₀ hst hm₀ => ?_)
    refine ends_bind (ends_readBias fun convBias s₁ hbias hm₁ => ?_)
    refine ends_bind (ends_readWeights fun convWt s₂ hkernel hm₂ => ?_)
    have hm := (hm₀.trans hm₁).trans hm₂
    refine ends_bind ((ends_addLayer weights (.cons (hin.mono hm) .nil) rfl).mono ?_)
    rintro conv s₃ ⟨hm₃, hconv⟩
    refine ends_bind ((ends_addLayer weights (.cons hconv .nil) (scale_value hpow hst _)).mono ?_)
    rintro batchnorm s₄ ⟨hm₄, hbatchnorm⟩
    refine (ends_activationLayer weights hbatchnorm).mono ?_
    rintro t s' ⟨hm₅, ht⟩
    exact ⟨_, _, .normalized htype hc (Bool.eq_true_of_not_eq_false hnormalized) hactivation
      hchannels hsize hst hbias hkernel, ((hm.then hm₃).then hm₄).then hm₅, ht⟩

theorem ends_deconvolutionalLayer {channels : ℤ} (hin : Has I x s input (.tensor previous.value))
    (hchannels : getNumChannels previous.dims = some channels) :
    (deconvolutionalLayer trt weights layerIdx block channels input).Ends s
      (Meets I x deviation m_BatchSize weights previous outputs block s) := by
  unfold deconvolutionalLayer
  refine ends_bind (ends_assert fun htype => ?_)
  refine ends_bind (ends_lift fun c hc => ?_)
  refine ends_bind (ends_lift fun size hsize => ?_)
  refine ends_bind (ends_readBias fun convBias s₁ hbias hm₁ => ?_)
  refine ends_bind (ends_readWeights fun convWt s₂ hkernel hm₂ => ?_)
  have hm := hm₁.trans hm₂
  refine (ends_addLayer weights (.cons (hin.mono hm) .nil) rfl).mono ?_
  rintro t s' ⟨hm₃, ht⟩
  exact ⟨_, _, .deconvolution htype hc hchannels hsize hbias hkernel, hm.then hm₃, ht⟩

theorem ends_batchnormLayer (hpow : ∀ y, I.pow y 1 = y)
    (hin : Has I x s input (.tensor previous.value)) :
    (batchnormLayer trt (.exact deviation) weights layerIdx block input).Ends s
      (Meets I x deviation m_BatchSize weights previous outputs block s) := by
  unfold batchnormLayer
  refine ends_bind (ends_assert fun htype => ?_)
  refine ends_bind (ends_lift fun filters hfilters => ?_)
  refine ends_bind (ends_lift fun activation hactivation => ?_)
  refine ends_bind (ends_readBatchNorm fun st s₁ hst hm₁ => ?_)
  refine ends_bind ((ends_addLayer weights (.cons (hin.mono hm₁) .nil)
    (scale_value hpow hst _)).mono ?_)
  rintro batchnorm s₂ ⟨hm₂, hbatchnorm⟩
  refine (ends_activationLayer weights hbatchnorm).mono ?_
  rintro t s' ⟨hm₃, ht⟩
  exact ⟨_, _, .batchnorm htype hfilters hactivation hst, (hm₁.then hm₂).then hm₃, ht⟩

theorem ends_implicitLayer :
    (implicitLayer trt weights layerIdx block).Ends s
      (Meets I x deviation m_BatchSize weights previous outputs block s) := by
  unfold implicitLayer
  refine ends_bind (ends_lift fun type htype => ?_)
  refine ends_bind (ends_assert fun himplicit => ?_)
  refine ends_bind (ends_lift fun filters hfilters => ?_)
  refine ends_bind (ends_readWeights fun values s₁ hvalues hm₁ => ?_)
  refine (ends_addLayer (I := I) (x := x) weights .nil rfl).mono ?_
  rintro t s' ⟨hm₂, ht⟩
  exact ⟨_, _, .implicit htype himplicit hfilters hvalues, hm₁.then hm₂, ht⟩

/-! ## The layers with references, and the others -/

theorem zipWith_mul_replicate (l : List ℤ) :
    List.zipWith (· * ·) l (List.replicate l.length 1) = l := by
  induction l with
  | nil => rfl
  | cons n l ih =>
    rw [List.length_cons, List.replicate_succ, List.zipWith_cons_cons, ih, Int.mul_one]

variable (weights) in
theorem ends_sliceLayer {name : String} {v : P → F} {dims : Dims} {start size stride : List ℤ}
    (hin : Has I x s input (.tensor v)) (hdims : dimsOf trt s input = dims) :
    (sliceLayer trt layerIdx name input start size stride m_BatchSize).Ends s fun t s' =>
      Moves weights s s' [] ∧
        Has I x s' t (.tensor (I.slice start (batched m_BatchSize dims size) stride v)) := by
  unfold sliceLayer
  refine ends_bind (ends_getDimensions ?_)
  rw [hdims, batched]
  dsimp only
  by_cases hbatch : dims.d 0 = -1
  · rw [if_pos hbatch, if_pos hbatch]
    refine ends_bind ((ends_addLayer (I := I) (x := x) weights .nil rfl).mono ?_)
    rintro constant1 s₁ ⟨hm₁, hconstant1⟩
    refine ends_bind ((ends_addLayer (I := I) (x := x) weights .nil rfl).mono ?_)
    rintro constant2 s₂ ⟨hm₂, hconstant2⟩
    refine ends_bind ((ends_addLayer weights
      (.cons (hconstant1.mono hm₂) (.cons hconstant2 .nil)) rfl).mono ?_)
    rintro newSize s₃ ⟨hm₃, hnewSize⟩
    have hm := (hm₁.then hm₂).then hm₃
    refine (ends_addLayer weights (.cons (hin.mono hm) (.cons hnewSize .nil)) rfl).mono ?_
    rintro t s' ⟨hm₄, ht⟩
    refine ⟨hm.then hm₄, ?_⟩
    rwa [List.zipWith_cons_cons, ← List.length_tail, zipWith_mul_replicate, Int.one_mul] at ht
  · rw [if_neg hbatch, if_neg hbatch]
    exact ends_addLayer weights (.cons hin .nil) rfl

variable (I x trt) in
/-- A tensor of the network is the output of a layer. -/
structure Tracks (s : Building F) (tensor : ℕ) (o : Output F P) : Prop where
  value : Has I x s tensor (.tensor o.value)
  dims : dimsOf trt s tensor = o.dims

theorem Tracks.mono {s s' : Building F} {part : List F} {tensor : ℕ} {o : Output F P}
    (h : Tracks I x trt s tensor o) (hmoves : Moves weights s s' part) :
    Tracks I x trt s' tensor o where
  value := h.value.mono hmoves
  dims := by
    obtain ⟨new, hnew⟩ := hmoves.grows
    rw [← h.dims, dimsOf, dimsOf, ← hnew,
      List.take_append_of_le_length (Nat.succ_le_of_lt (lt_of_value h.value))]

variable {tensorOutputs : List ℕ} {other : ℕ} {n : ℤ} {o : Output F P}

theorem ends_channelsLayer (hin : Has I x s input (.tensor previous.value))
    (hfrom : number block "from" = some n) (ho : routeInput outputs n = some o)
    (hother : Has I x s other (.tensor o.value)) :
    (channelsLayer trt layerIdx block input other).Ends s
      (Meets I x deviation m_BatchSize weights previous outputs block s) := by
  unfold channelsLayer
  split
  · rename_i htype
    refine (ends_addLayer weights (.cons hin (.cons hother .nil)) rfl).mono ?_
    rintro t s' ⟨hm, ht⟩
    exact ⟨_, _, .shift_channels htype hfrom ho, hm, ht⟩
  · refine ends_bind (ends_assert fun htype => ?_)
    refine (ends_addLayer weights (.cons hin (.cons hother .nil)) rfl).mono ?_
    rintro t s' ⟨hm, ht⟩
    exact ⟨_, _, .control_channels htype hfrom ho, hm, ht⟩

theorem ends_shortcutLayer {inputVol shortcutVol : String} (hin : Tracks I x trt s input previous)
    (hfrom : number block "from" = some n) (ho : routeInput outputs n = some o)
    (hother : Tracks I x trt s other o) (hinput : dimsToString previous.dims = some inputVol)
    (hshortcut : dimsToString o.dims = some shortcutVol) :
    (shortcutLayer trt layerIdx (activationOf block) inputVol shortcutVol block input other
      m_BatchSize).Ends s (Meets I x deviation m_BatchSize weights previous outputs block s) := by
  unfold shortcutLayer
  refine ends_bind (ends_assert fun htype => ?_)
  by_cases hsame : inputVol = shortcutVol
  · rw [if_neg (not_not_intro hsame)]
    refine ends_bind (ends_pure ?_)
    refine ends_bind ((ends_addLayer weights (.cons hin.value (.cons hother.value .nil)) rfl).mono
      ?_)
    rintro shortcut s₁ ⟨hm₁, hvalue⟩
    refine (ends_activationLayer weights hvalue).mono ?_
    rintro t s' ⟨hm₂, ht⟩
    exact ⟨_, _, .shortcut htype hfrom ho (by rw [hinput, hshortcut, hsame]), hm₁.then hm₂, ht⟩
  · rw [if_pos hsame]
    have hdiffer : dimsToString previous.dims ≠ dimsToString o.dims := by
      rw [hinput, hshortcut]
      exact fun heq => hsame (Option.some.inj heq)
    refine ends_bind (ends_getDimensions ?_)
    rw [hin.dims]
    refine ends_bind ((ends_sliceLayer weights hother.value hother.dims).mono ?_)
    rintro output s₁ ⟨hm₁, houtput⟩
    refine ends_bind ((ends_addLayer weights
      (.cons (hin.value.mono hm₁) (.cons houtput .nil)) rfl).mono ?_)
    rintro shortcut s₂ ⟨hm₂, hvalue⟩
    refine (ends_activationLayer weights hvalue).mono ?_
    rintro t s' ⟨hm₃, ht⟩
    exact ⟨_, _, .shortcut_cut htype hfrom ho hdiffer, (hm₁.then hm₂).then hm₃, ht⟩

theorem ends_samLayer (hin : Has I x s input (.tensor previous.value))
    (hfrom : number block "from" = some n) (ho : routeInput outputs n = some o)
    (hother : Has I x s other (.tensor o.value)) :
    (samLayer trt layerIdx (activationOf block) block input other).Ends s
      (Meets I x deviation m_BatchSize weights previous outputs block s) := by
  unfold samLayer
  refine ends_bind (ends_assert fun htype => ?_)
  refine ends_bind ((ends_addLayer weights (.cons hin (.cons hother .nil)) rfl).mono ?_)
  rintro sam s₁ ⟨hm₁, hsam⟩
  refine (ends_activationLayer weights hsam).mono ?_
  rintro t s' ⟨hm₂, ht⟩
  exact ⟨_, _, .sam htype hfrom ho, hm₁.then hm₂, ht⟩

theorem ends_upsampleLayer (hin : Has I x s input (.tensor previous.value)) :
    (upsampleLayer trt layerIdx block input).Ends s
      (Meets I x deviation m_BatchSize weights previous outputs block s) := by
  unfold upsampleLayer
  refine ends_bind (ends_assert fun htype => ?_)
  refine ends_bind (ends_lift fun stride hstride => ?_)
  refine (ends_addLayer weights (.cons hin .nil) rfl).mono ?_
  rintro t s' ⟨hm, ht⟩
  exact ⟨_, _, .upsample htype hstride, hm, ht⟩

theorem ends_poolingLayer (hin : Tracks I x trt s input previous) :
    (poolingLayer trt layerIdx block input).Ends s
      (Meets I x deviation m_BatchSize weights previous outputs block s) := by
  unfold poolingLayer
  refine ends_bind (ends_getDimensions ?_)
  rw [hin.dims]
  refine ends_bind (ends_lift fun op hop => ?_)
  obtain ⟨type, windowSize, stride, padding, prePadding, postPadding, rfl⟩ := poolingOp_eq hop
  refine (ends_addLayer weights (.cons hin.value .nil) rfl).mono ?_
  rintro t s' ⟨hm, ht⟩
  exact ⟨_, _, .pooling hop, hm, ht⟩

theorem ends_reorgLayer (hin : Tracks I x trt s input previous) :
    (reorgLayer trt layerIdx block input).Ends s
      (Meets I x deviation m_BatchSize weights previous outputs block s) := by
  unfold reorgLayer
  refine ends_bind (ends_assert fun htype => ?_)
  refine ends_bind (ends_lift fun stride hstride => ?_)
  refine ends_bind (ends_assert fun _ => ?_)
  refine ends_bind (ends_getDimensions ?_)
  rw [hin.dims]
  -- after each shuffle the output has the value of the shuffles so far
  refine (ends_foldlM (fun done t s' => Moves weights s s' [] ∧ Has I x s' t
    (.tensor ((done.map Prod.fst).foldl (fun v sh => I.shuffle sh.1 sh.2 v) previous.value)))
    ?_ ⟨Moves.refl s, hin.value⟩).mono ?_
  · rintro done ⟨shuffle, k⟩ rest - t s₁ ⟨hm, ht⟩
    refine (ends_addLayer weights (.cons ht .nil) rfl).mono ?_
    rintro t' s' ⟨hm', ht'⟩
    refine ⟨hm.then hm', ?_⟩
    rwa [List.map_append, List.foldl_append]
  · rintro t s' ⟨hm, ht⟩
    rw [List.zipIdx_map_fst] at ht
    exact ⟨_, _, .reorg htype hstride, hm, ht⟩

variable (weights) in
theorem ends_joinInputs {inputs : List ℕ} {os : List (Output F P)}
    (h : List.Forall₂ (Tracks I x trt s) inputs os) :
    (joinInputs trt layerIdx block inputs).Ends s fun t s' =>
      Moves weights s s' [] ∧ ∃ o, Joins I block os o ∧ Tracks I x trt s' t o := by
  match h with
  | .nil => exact ends_lift fun a ha => by cases ha
  | .cons ho .nil => exact ends_pure ⟨Moves.refl s, _, .one _, ho⟩
  | @List.Forall₂.cons _ _ _ i o (i' :: is) (o' :: os) ho (.cons ho' hos) =>
    rw [joinInputs]
    · refine ends_bind (ends_getDimensions ?_)
      rw [ho.dims]
      refine ends_bind (ends_lift fun axis haxis => ?_)
      have hinputs : List.Forall₂ (fun i v => Has I x s i v) (i :: i' :: is)
          ((o :: o' :: os).map fun o => Val.tensor o.value) :=
        List.forall₂_map_right_iff.mpr
          ((List.Forall₂.cons ho (.cons ho' hos)).imp fun _ _ h => h.value)
      have hvalue : Op.value I x (.concatenation axis)
            ((o :: o' :: os).map fun o => Val.tensor o.value)
          = some (.tensor (I.concatenation axis ((o :: o' :: os).map Output.value))) := by
        have htensors : ∀ os : List (Output F P),
            (os.map fun o => Val.tensor o.value).mapM Val.tensor? = some (os.map Output.value) := by
          intro os
          induction os with
          | nil => rfl
          | cons o os ih =>
            rw [List.map_cons, List.mapM_cons, ih]
            rfl
        exact congrArg (Option.map _) (htensors (o :: o' :: os))
      refine (ends_addLayer weights hinputs hvalue).mono ?_
      rintro t s' ⟨hm, ht⟩
      exact ⟨hm, ⟨dimsOf trt s' t, _⟩, .many haxis, ht, rfl⟩
    · exact fun h => List.cons_ne_nil _ _ h

theorem ends_routeLayer (h : List.Forall₂ (Tracks I x trt s) tensorOutputs outputs) :
    (routeLayer trt layerIdx block tensorOutputs m_BatchSize).Ends s
      (Meets I x deviation m_BatchSize weights previous outputs block s) := by
  unfold routeLayer
  refine ends_bind (ends_assert fun htype => ?_)
  refine ends_bind (ends_lift fun layers hlayers => ?_)
  refine ends_bind (ends_lift fun idx hidx => ?_)
  refine ends_bind (ends_lift fun concatInputs hinputs => ?_)
  obtain ⟨os, hos, hall⟩ := mapM_routeInput_forall₂ h hinputs
  refine ends_bind ((ends_joinInputs weights hall).mono ?_)
  rintro output s₁ ⟨hm₁, o, hjoins, ho⟩
  by_cases hgroups : (block.get? "groups").isSome = true
  · rw [if_pos hgroups]
    refine ends_bind (ends_getDimensions ?_)
    rw [ho.dims]
    refine ends_bind (ends_lift fun group hgroup => ?_)
    obtain ⟨start, size⟩ := group
    refine (ends_sliceLayer weights ho.value ho.dims).mono ?_
    rintro t s' ⟨hm₂, ht⟩
    exact ⟨_, _, .route_group htype hlayers hidx hos hjoins hgroup, hm₁.then hm₂, ht⟩
  · rw [if_neg hgroups]
    exact ends_pure ⟨_, _, .route htype hlayers hidx hos
      (Option.not_isSome_iff_eq_none.mp hgroups) hjoins, hm₁, ho.value⟩

/-! ## The network -/

variable {l : LoopState F} {image : Output F P}

/-- **One layer.** -/
theorem ends_blockLayer (hpow : ∀ y, I.pow y 1 = y) (hin : Tracks I x trt s l.previous previous)
    (houtputs : List.Forall₂ (Tracks I x trt s) l.tensorOutputs outputs)
    (hlt : l.tensorOutputs.length + 1 < 2 ^ 32) :
    (blockLayer trt (.exact deviation) weights m_BatchSize (l.tensorOutputs.length + 1) block
      l).Ends s (Meets I x deviation m_BatchSize weights previous outputs block s) := by
  -- a reference comes to an output that is tracked
  have hreference : ∀ other, fromOutput block (l.tensorOutputs.length + 1) l.tensorOutputs
        = some other → ∃ n o, number block "from" = some n ∧ routeInput outputs n = some o ∧
      Tracks I x trt s other o := by
    intro other h
    obtain ⟨n, hn, hr⟩ := fromOutput_eq hlt h
    obtain ⟨o, ho, htracks⟩ := routeInput_forall₂ houtputs hr
    exact ⟨n, o, hn, ho, htracks⟩
  unfold blockLayer
  refine ends_bind (ends_lift fun type htype => ?_)
  by_cases h : type = "conv" ∨ type = "convolutional"
  · rw [if_pos h]
    refine ends_bind (ends_getDimensions ?_)
    rw [hin.dims]
    refine ends_bind (ends_lift fun channels hchannels => ?_)
    refine ends_convolutionalLayer hpow ?_ hin.value hchannels
    rcases h with rfl | rfl
    · exact .inl htype
    · exact .inr htype
  rw [if_neg h]
  by_cases h : type = "deconvolutional"
  · rw [if_pos h]
    refine ends_bind (ends_getDimensions ?_)
    rw [hin.dims]
    exact ends_bind (ends_lift fun channels hchannels =>
      ends_deconvolutionalLayer hin.value hchannels)
  rw [if_neg h]
  by_cases h : type = "batchnorm"
  · rw [if_pos h]
    exact ends_bind (ends_inputVol fun _ _ => ends_batchnormLayer hpow hin.value)
  rw [if_neg h]
  by_cases h : type = "implicit" ∨ type = "implicit_add" ∨ type = "implicit_mul"
  · rw [if_pos h]
    exact ends_implicitLayer
  rw [if_neg h]
  by_cases h : type = "shift_channels" ∨ type = "control_channels"
  · rw [if_pos h]
    refine ends_bind (ends_lift fun other hother => ?_)
    obtain ⟨n, o, hn, ho, htracks⟩ := hreference other hother
    exact ends_bind (ends_inputVol fun _ _ => ends_channelsLayer hin.value hn ho htracks.value)
  rw [if_neg h]
  by_cases h : type = "shortcut"
  · rw [if_pos h]
    refine ends_bind (ends_lift fun other hother => ?_)
    obtain ⟨n, o, hn, ho, htracks⟩ := hreference other hother
    refine ends_bind (ends_inputVol fun input hinput => ?_)
    refine ends_bind (ends_inputVol fun shortcut hshortcut => ?_)
    rw [hin.dims] at hinput
    rw [htracks.dims] at hshortcut
    exact ends_shortcutLayer hin hn ho htracks hinput hshortcut
  rw [if_neg h]
  by_cases h : type = "sam"
  · rw [if_pos h]
    refine ends_bind (ends_lift fun other hother => ?_)
    obtain ⟨n, o, hn, ho, htracks⟩ := hreference other hother
    exact ends_bind (ends_inputVol fun _ _ => ends_samLayer hin.value hn ho htracks.value)
  rw [if_neg h]
  by_cases h : type = "route"
  · rw [if_pos h]
    exact ends_routeLayer houtputs
  rw [if_neg h]
  by_cases h : type = "upsample"
  · rw [if_pos h]
    exact ends_bind (ends_inputVol fun _ _ => ends_upsampleLayer hin.value)
  rw [if_neg h]
  by_cases h : type = "max" ∨ type = "maxpool" ∨ type = "avg" ∨ type = "avgpool"
  · rw [if_pos h]
    exact ends_bind (ends_inputVol fun _ _ => ends_poolingLayer hin)
  rw [if_neg h]
  by_cases h : type = "reorg" ∨ type = "reorg3d"
  · rw [if_pos h]
    exact ends_bind (ends_inputVol fun _ _ => ends_reorgLayer hin)
  rw [if_neg h]
  exact ends_lift fun a ha => by cases ha

/-- The name a block of detections gives its tensor. -/
def detectionName (block : Block) (i : ℕ) : String :=
  layerName (if block.get? "type" = some "yolo" then "yolo_" else "region_") i

/-- The blocks of detections, by the names of their tensors, and the outputs they are given. -/
def detections (blocks : List Block) (outputs : List (Output F P)) : List (String × Output F P) :=
  ((blocks.zip outputs).zipIdx 1).filterMap fun ((block, o), i) =>
    if block.isDetection then some (detectionName block i, o) else none

omit [Field F] in
theorem detections_concat {blocks : List Block} (h : outputs.length = blocks.length)
    (block : Block) (o : Output F P) :
    detections (blocks ++ [block]) (outputs ++ [o]) = detections blocks outputs ++
      if block.isDetection then [(detectionName block (blocks.length + 1), o)] else [] := by
  rw [detections, List.zip_append h.symm, List.zipIdx_append, List.filterMap_append, ← detections,
    List.length_zip, h, min_self, Nat.add_comm 1]
  congr 1
  cases hdetection : block.isDetection <;> simp [hdetection]

/-- The tensor of a block of detections, with its name and the grid of the output it is given. -/
def TensorInfo.connect (t : TensorInfo F) (d : String × Output F P) : TensorInfo F :=
  { t with
    blobName := d.1
    gridSizeY := .ofInt (d.2.dims.d 2)
    gridSizeX := .ofInt (d.2.dims.d 3) }

/-- The tensors of a configuration, the first of which are those of the blocks. -/
def connect : List (TensorInfo F) → List (String × Output F P) → List (TensorInfo F)
  | t :: ts, d :: ds => t.connect d :: connect ts ds
  | ts, _ => ts

omit [Field F] in
@[simp] theorem connect_nil (ts : List (TensorInfo F)) :
    connect ts ([] : List (String × Output F P)) = ts := by
  cases ts <;> rfl

omit [Field F] in
theorem set_connect {ts : List (TensorInfo F)} {ds : List (String × Output F P)} {t : TensorInfo F}
    (h : (connect ts ds)[ds.length]? = some t) (d : String × Output F P) :
    (connect ts ds).set ds.length (t.connect d) = connect ts (ds ++ [d]) := by
  induction ds generalizing ts with
  | nil =>
    cases ts with
    | nil => cases h
    | cons t' ts =>
      cases h
      exact congrArg (t.connect d :: ·) (connect_nil ts).symm
  | cons d' ds ih =>
    cases ts with
    | nil => cases h
    | cons t' ts => exact congrArg (t'.connect d' :: ·) (ih h)

variable (I x deviation m_BatchSize trt weights image) in
/-- **What the loop keeps**, `blocks` being those it has done behind the net: every output has the
value of its layer, the weights that have been read are those of the layers, and the first tensors
are connected. -/
structure Building.Inv (tensors : List (TensorInfo F)) (blocks : List Block) (l : LoopState F)
    (s : Building F) (parts : List (List F)) (outputs : List (Output F P)) : Prop where
  runs : Runs I deviation m_BatchSize image blocks parts outputs
  reads : weights = parts.flatten ++ weights.drop s.weightPtr
  ptr : s.weightPtr = parts.flatten.length
  first : Tracks I x trt s 0 image
  tracked : List.Forall₂ (Tracks I x trt s) l.tensorOutputs outputs
  last : Tracks I x trt s l.previous (outputs.getLastD image)
  inputs : List.Forall₂ (Tracks I x trt s) l.yoloTensorInputs
    ((detections blocks outputs).map Prod.snd)
  connected : l.m_YoloTensors = connect tensors (detections blocks outputs)

theorem Runs.length_eq {blocks : List Block} {parts : List (List F)}
    (h : Runs I deviation m_BatchSize image blocks parts outputs) :
    outputs.length = blocks.length := by
  induction h with
  | nil => rfl
  | layer _ _ ih => rw [List.length_append, List.length_append, ih]; rfl

/-- **One block.** -/
theorem Building.Inv.addBlock {tensors : List (TensorInfo F)} {blocks : List Block}
    {parts : List (List F)} (hpow : ∀ y, I.pow y 1 = y)
    (h : Building.Inv I x deviation m_BatchSize trt weights image tensors blocks l s parts outputs)
    (hlt : blocks.length + 1 < 2 ^ 32) (hnet : block.get? "type" ≠ some "net")
    (hdropout : block.get? "type" ≠ some "dropout") :
    (Detector.addBlock trt (.exact deviation) weights m_BatchSize l
      (block, blocks.length + 1)).Ends s fun l' s' => ∃ parts outputs,
        Building.Inv I x deviation m_BatchSize trt weights image tensors (blocks ++ [block]) l' s'
          parts outputs := by
  have hlength : l.tensorOutputs.length = blocks.length :=
    h.tracked.length_eq.trans h.runs.length_eq
  unfold Detector.addBlock
  dsimp only
  rw [if_neg hnet]
  by_cases hdetection : block.isDetection = true
  · rw [if_pos hdetection]
    unfold detectionBlock
    refine ends_bind (ends_getDimensions ?_)
    rw [h.last.dims]
    refine ends_bind (ends_lift fun curYoloTensor hcur => ?_)
    refine ends_bind (ends_lift fun _ _ => ends_pure ?_)
    have hdetections := detections_concat h.runs.length_eq block (outputs.getLastD image)
    rw [if_pos hdetection] at hdetections
    refine ⟨parts ++ [[]], outputs ++ [outputs.getLastD image],
      .layer h.runs (.detection hdetection), ?_, ?_, h.first, ?_, ?_, ?_, ?_⟩
    · simpa using h.reads
    · simpa using h.ptr
    · exact List.rel_append h.tracked (.cons h.last .nil)
    · rw [List.getLastD_concat]
      exact h.last
    · rw [hdetections, List.map_append]
      exact List.rel_append h.inputs (.cons h.last .nil)
    · have hcount : l.yoloTensorInputs.length = (detections blocks outputs).length :=
        h.inputs.length_eq.trans (List.length_map _)
      rw [hcount, h.connected] at hcur
      rw [hdetections, ← set_connect hcur, ← h.connected, ← hcount]
      rfl
  · rw [if_neg hdetection, if_neg hdropout]
    rw [← hlength] at hlt ⊢
    refine ends_bind ((ends_blockLayer hpow h.last h.tracked hlt).mono ?_)
    rintro t s' ⟨part, v, hmeans, hmoves, ht⟩
    refine ends_bind (ends_inputVol fun _ _ => ends_pure ?_)
    have htracks : Tracks I x trt s' t ⟨dimsOf trt s' t, v⟩ := ⟨ht, rfl⟩
    have hdetections := detections_concat h.runs.length_eq block ⟨dimsOf trt s' t, v⟩
    rw [if_neg hdetection, List.append_nil] at hdetections
    refine ⟨parts ++ [part], outputs ++ [⟨dimsOf trt s' t, v⟩], .layer h.runs hmeans, ?_, ?_,
      h.first.mono hmoves, ?_, ?_, ?_, ?_⟩
    · rw [List.flatten_concat, List.append_assoc, ← hmoves.reads]
      exact h.reads
    · rw [hmoves.ptr, h.ptr, List.flatten_concat, List.length_append]
    · exact List.rel_append (h.tracked.imp fun _ _ ho => ho.mono hmoves) (.cons htracks .nil)
    · rw [List.getLastD_concat]
      exact htracks
    · rw [hdetections]
      exact h.inputs.imp fun _ _ ho => ho.mono hmoves
    · rw [hdetections]
      exact h.connected

/-- **The loop.** -/
theorem Building.Inv.addBlocks {tensors : List (TensorInfo F)} (hpow : ∀ y, I.pow y 1 = y)
    {net : Block} {blocks : List Block}
    (h : Building.Inv I x deviation m_BatchSize trt weights image tensors [] l s [] [])
    (hlt : blocks.length < 2 ^ 32 - 1) (hnet : net.get? "type" = some "net")
    (hblocks : ∀ block ∈ blocks, block.get? "type" ≠ some "net" ∧
      block.get? "type" ≠ some "dropout") :
    ((net :: blocks).zipIdx.foldlM (Detector.addBlock trt (.exact deviation) weights m_BatchSize)
      l).Ends s fun l s => ∃ parts outputs, Building.Inv I x deviation m_BatchSize trt weights image
        tensors blocks l s parts outputs := by
  rw [List.zipIdx_cons, List.foldlM_cons]
  refine ends_bind ?_
  unfold Detector.addBlock
  dsimp only
  rw [if_pos hnet]
  refine ends_pure ((ends_foldlM (fun done l s => ∃ parts outputs, Building.Inv I x deviation
    m_BatchSize trt weights image tensors (done.map Prod.fst) l s parts outputs) ?_
    ⟨[], [], h⟩).mono ?_)
  · rintro done ⟨block, i⟩ rest hsplit l s ⟨parts, outputs, hinv⟩
    have hat : (blocks.zipIdx (0 + 1))[done.length]? = some (block, i) := by
      rw [hsplit, List.getElem?_append_right le_rfl, Nat.sub_self]
      rfl
    rw [List.getElem?_zipIdx] at hat
    obtain ⟨b, hb, heq⟩ := Option.map_eq_some_iff.mp hat
    cases heq
    obtain ⟨hlength, rfl⟩ := List.getElem?_eq_some_iff.mp hb
    obtain ⟨hnet', hdropout⟩ := hblocks _ (List.getElem_mem hlength)
    have hi : 0 + 1 + done.length = (done.map Prod.fst).length + 1 := by
      rw [List.length_map]
      omega
    rw [hi, List.map_append]
    exact hinv.addBlock hpow (by rw [List.length_map]; omega) hnet' hdropout
  · rintro l s ⟨parts, outputs, hinv⟩
    rw [List.zipIdx_map_fst] at hinv
    exact ⟨parts, outputs, hinv⟩

/-- Of a network that is built, the loop has done all blocks and read all weights. -/
theorem Building.Inv.of_buildYoloNetwork (hpow : ∀ y, I.pow y 1 = y) {m_InputBlobName : String}
    {m_ImplicitBatch : Int32} {net : Block} {blocks : List Block} {y : YoloFields F}
    {built : YoloNetwork F} (hlt : blocks.length < 2 ^ 32 - 1) (hnet : net.get? "type" = some "net")
    (hblocks : ∀ block ∈ blocks, block.get? "type" ≠ some "net" ∧
      block.get? "type" ≠ some "dropout")
    (h : buildYoloNetwork trt (.exact deviation) weights m_BatchSize m_InputBlobName
      m_ImplicitBatch (net :: blocks) y = some built) (x : P → F) :
    ∃ dims parts outputs l, weights = parts.flatten ∧
      Building.Inv I x deviation m_BatchSize trt weights ⟨dims, x⟩ y.m_YoloTensors blocks l
        ⟨built.network, weights.length⟩ parts outputs ∧
      y.m_YoloCount.toNat = l.yoloTensorInputs.length ∧ built.tensorOutputs = l.tensorOutputs ∧
      built.yoloTensorInputs = l.yoloTensorInputs ∧
      built.yolo = ⟨"", y.m_InputW, y.m_InputH, y.m_NumClasses, y.m_NewCoords, l.m_YoloTensors,
        outputSize (l.m_YoloTensors.take l.yoloTensorInputs.length)⟩ := by
  unfold buildYoloNetwork at h
  dsimp only at h
  generalize hdata : Node.mk (Layer.mk m_InputBlobName _) [] = data at h
  split at h
  · cases h
  obtain ⟨⟨l, s⟩, hloop, h⟩ := Option.bind_eq_some_iff.mp h
  have hinputs : data.inputs = [] := by rw [← hdata]
  have hvalue : data.op.value I x [] = some (.tensor x) := by
    rw [← hdata]
    rfl
  have hfirst : Tracks I x trt ⟨[data], 0⟩ 0 ⟨trt.dims [data], x⟩ := by
    refine ⟨(value_concat (n := data) (g := []) ?_).trans hvalue, rfl⟩
    rw [hinputs]
    exact .nil
  have hinv : Building.Inv I x deviation m_BatchSize trt weights ⟨trt.dims [data], x⟩
      y.m_YoloTensors [] ⟨0, [], [], y.m_YoloTensors⟩ ⟨[data], 0⟩ [] [] :=
    ⟨.nil, rfl, rfl, hfirst, .nil, hfirst, .nil, (connect_nil _).symm⟩
  obtain ⟨parts, outputs, hinv⟩ := hinv.addBlocks hpow hlt hnet hblocks l s hloop
  split at h
  · cases h
  rename_i hread
  rw [not_not] at hread
  split at h
  · cases h
  rename_i hcount
  rw [not_not] at hcount
  split at h
  · cases h
  split at h
  · cases h
    have hdone : weights = parts.flatten := by
      have hreads := hinv.reads
      rwa [← hread, List.drop_length, List.append_nil] at hreads
    refine ⟨trt.dims [data], parts, outputs, l, hdone, ?_, hcount, rfl, rfl, rfl⟩
    rw [hread]
    exact hinv
  · cases h

/-- Images of a single row, with convolutions of single pixels. A position is the number of the
image in its batch, the channel and the column. -/
def rowImages : Meaning ℚ (ℕ × ℕ × ℕ) where
  channel p := p.2.1
  pow y n := if n = 1 then y else 1
  activation type alpha _ y := if type = .kLEAKY_RELU ∧ y < 0 then alpha.getD 0 * y else y
  convolution shape kernel bias v p :=
    let channels := kernel.values.length / shape.filters.toNat
    ((List.range channels).map fun c =>
      v (p.1, c, p.2.2) * kernel.values.getD (p.2.1 * channels + c) 0).sum
        + bias.values.getD p.2.1 0
  deconvolution _ _ _ v := v
  slice _ _ _ v := v
  concatenation _ vs := vs.headD 0
  pooling _ _ _ _ _ _ v := v
  resize _ v := v
  shuffle _ _ v := v

/-- A net of two convolutions, a shortcut around the second, and a convolution into seven channels
in front of the detections. -/
def shortcutNet : List Block :=
  [[("type", "net"), ("channels", "1"), ("height", "1"), ("width", "2")],
    [("type", "convolutional"), ("batch_normalize", "1"), ("filters", "1"), ("size", "1"),
      ("stride", "1"), ("pad", "1"), ("activation", "leaky")],
    [("type", "convolutional"), ("filters", "1"), ("size", "1"), ("stride", "1"), ("pad", "1"),
      ("activation", "linear")],
    [("type", "shortcut"), ("from", "-2")],
    [("type", "convolutional"), ("filters", "7"), ("size", "1"), ("stride", "1"), ("pad", "1"),
      ("activation", "linear")],
    [("type", "yolo"), ("num", "1"), ("mask", "0"), ("anchors", "10, 20"), ("classes", "2")]].map
    fun entries =>
      entries.foldl (fun block e => Block.insert block e.1 e.2) Dict.empty

/-- What is read from its blocks. -/
def shortcutFields : YoloFields ℚ := ⟨1, 1, 2, 2, 2, 0, 0, 1, [⟨"", 0, 0, 1, 1, [10, 20], [0]⟩]⟩

/-- Its weights: five of the first convolution, two of the second, and fourteen of the third. -/
def shortcutWeights : List ℚ :=
  [1, 2, 3, 4, 5, 6, 7, 0, 0, 1, 1, 1 / 2, 0, 1, 1, -1, 1 / 2, 1 / 2, 0, 1, -1]

/-- It takes everything; a convolution makes as many channels as it has filters, and there is one in
front of the third. -/
def rowRT : TensorRT ℚ where
  accepts _ _ := true
  acceptsPlugin _ _ _ := true
  dims g :=
    let channels := match g.getLast?.map fun n => n.op.op with
      | some (.convolution shape _ _) => shape.filters
      | _ => 1
    ⟨4, fun i => [2, channels, 1, 2].getD i 0⟩

/-- Two images of two pixels. -/
def twoRows (p : ℕ × ℕ × ℕ) : ℚ := [3, -5, 7, -1].getD (p.1 * 2 + p.2.2) 0

end DemoColombia.Detector
