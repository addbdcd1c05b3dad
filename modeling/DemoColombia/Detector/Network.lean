import DemoColombia.DataStructures.Dataflow
import DemoColombia.Detector.DarknetFiles
import DemoColombia.TransitionSystems.Programs
import Mathlib.Data.Rat.Defs

/-! # Building the network (`yolo.cpp`, `layers/`)

The blocks of a configuration are turned into a TensorRT network, layer by layer. The weights of a
layer are taken from the front of what is left of the weights file. A layer may refer to the outputs
of earlier ones by their numbers.

TensorRT is a parameter: whether it adds a layer (`assert(... != nullptr)`), and the dimensions it
infers. A failed assertion, an exception and undefined behaviour are `none`. Integers do not
overflow, but for the unsigned arithmetic of the references. The buffers in `m_TrtWeights`, which
are kept to be freed, and the printed texts are not modelled. -/

namespace DemoColombia.Detector

open Dataflow Prog

/-! ## TensorRT -/

/-- `nvinfer1::Dims`. -/
structure Dims where
  nbDims : ℕ
  d : ℕ → ℤ

/-- The dimensions in a list. -/
def Dims.toList (dims : Dims) : List ℤ := (List.range dims.nbDims).map dims.d

/-- `nvinfer1::Weights`, with what is behind the pointer. -/
structure Weights (F : Type) where
  count : ℤ
  values : List F
  deriving DecidableEq

inductive ActivationType
  | kRELU | kSIGMOID | kTANH | kLEAKY_RELU | kSOFTPLUS | kHARD_SIGMOID
  deriving DecidableEq

inductive ElementWiseOperation
  | kSUM | kPROD
  deriving DecidableEq

inductive PoolingType
  | kMAX | kAVERAGE
  deriving DecidableEq

/-- The settings of a convolution. -/
structure ConvShape where
  filters : ℤ
  kernelSize : ℤ
  stride : ℤ
  pad : ℤ
  groups : Option ℤ
  deriving DecidableEq

/-- The layers the code adds, with their settings. -/
inductive Op (F : Type)
  | input (dims : List ℤ)
  | convolution (shape : ConvShape) (kernel bias : Weights F)
  | deconvolution (shape : ConvShape) (kernel bias : Weights F)
  | scale (shift scale power : Weights F)
  | constant (dims : List ℤ) (weights : Weights F)
  | sizes (values : List ℤ)
  | activation (type : ActivationType) (alpha beta : Option ℚ)
  | elementWise (operation : ElementWiseOperation)
  | slice (start size stride : List ℤ)
  | concatenation (axis : ℤ)
  | pooling (type : PoolingType) (windowSize stride padding : List ℤ)
      (prePadding postPadding : Option (List ℤ))
  | resize (scales : List ℤ)
  | shuffle (reshapeDimensions : List ℤ) (secondTranspose : Option (List ℕ))
  deriving DecidableEq

/-- A layer with its name. -/
structure Layer (F : Type) where
  name : String
  op : Op F
  deriving DecidableEq

/-- What TensorRT makes of the layers it is given. -/
structure TensorRT (F : Type) where
  /-- Whether it adds a layer to a network. -/
  accepts : List (Node (Layer F)) → Node (Layer F) → Bool
  /-- Whether it adds the plugin, with these inputs. -/
  acceptsPlugin : List (Node (Layer F)) → List ℕ → YoloLayer F → Bool
  /-- The dimensions of the output of the last layer. -/
  dims : List (Node (Layer F)) → Dims

/-- The variables that change while the network is built. A tensor is the number of its layer. -/
structure Building (F : Type) where
  network : List (Node (Layer F))
  weightPtr : ℕ
  deriving DecidableEq

/-- The arithmetic the weights go through. -/
structure FloatOps (F : Type) where
  sub : F → F → F
  mul : F → F → F
  div : F → F → F
  /-- `sqrt(x + 1.0e-5)`. -/
  deviation : F → F

variable {F : Type} (trt : TensorRT F) (ops : FloatOps F) (weights : List F)

/-- A program that builds. -/
abbrev Builder (F : Type) (α : Type) : Type := Prog (Building F) α

/-- The `add...` calls, with the settings and the name given right after. -/
def addLayer (name : String) (op : Op F) (inputs : List ℕ) : Builder F ℕ := fun s =>
  let node : Node (Layer F) := ⟨⟨name, op⟩, inputs⟩
  if trt.accepts s.network node then
    some (s.network.length, { s with network := s.network ++ [node] })
  else none

/-- `getDimensions`. -/
def getDimensions (tensor : ℕ) : Builder F Dims := fun s =>
  some (trt.dims (s.network.take (tensor + 1)), s)

/-- A loop that moves `n` weights into a new array; what is behind the last one is not there. -/
def readWeights (n : ℤ) : Builder F (List F) := fun s =>
  if 0 ≤ n ∧ s.weightPtr + n.toNat ≤ weights.length then
    some ((weights.drop s.weightPtr).take n.toNat, { s with weightPtr := s.weightPtr + n.toNat })
  else none

/-- `dimsToString` (`utils.cpp`). -/
def dimsToString (d : Dims) : Option String :=
  if 1 ≤ d.nbDims then
    some ("[" ++ String.join ((List.range' 1 (d.nbDims - 2)).map fun i => toString (d.d i) ++ ", ")
      ++ toString (d.d (d.nbDims - 1)) ++ "]")
  else none

/-- `getNumChannels` (`utils.cpp`). -/
def getNumChannels (d : Dims) : Option ℤ := if d.nbDims = 4 then some (d.d 1) else none

/-- `dimsToString(tensor->getDimensions())`. -/
def inputVol (tensor : ℕ) : Builder F String := do lift (dimsToString (← getDimensions trt tensor))

/-- `std::stoi(block.at(key))`. -/
def number (block : Block) (key : String) : Option ℤ := do
  return (← stoi (← block.get? key).toList).toInt

/-- The same, where the block has the key. -/
def numberOr (block : Block) (key : String) (old : ℤ) : Option ℤ :=
  if (block.get? key).isSome then number block key else some old

/-- The names of layers end in the number of their block. -/
def layerName (kind : String) (layerIdx : ℕ) : String := kind ++ toString layerIdx

/-! ## The layers -/

/-- `activationLayer`. -/
def activationLayer (layerIdx : ℕ) (activation : String) (input : ℕ) : Builder F ℕ := do
  if activation = "linear" then return input
  else if activation = "relu" then
    addLayer trt (layerName "relu_" layerIdx) (.activation .kRELU none none) [input]
  else if activation = "sigmoid" ∨ activation = "logistic" then
    addLayer trt (layerName "sigmoid_" layerIdx) (.activation .kSIGMOID none none) [input]
  else if activation = "tanh" then
    addLayer trt (layerName "tanh_" layerIdx) (.activation .kTANH none none) [input]
  else if activation = "leaky" then
    addLayer trt (layerName "leaky_" layerIdx) (.activation .kLEAKY_RELU (some (1 / 10)) none)
      [input]
  else if activation = "softplus" then
    addLayer trt (layerName "softplus_" layerIdx) (.activation .kSOFTPLUS none none) [input]
  else if activation = "mish" then
    let softplus ←
      addLayer trt (layerName "softplus_" layerIdx) (.activation .kSOFTPLUS none none) [input]
    let tanh ← addLayer trt (layerName "tanh_" layerIdx) (.activation .kTANH none none) [softplus]
    addLayer trt (layerName "mish_" layerIdx) (.elementWise .kPROD) [input, tanh]
  else if activation = "silu" ∨ activation = "swish" then
    let sigmoid ←
      addLayer trt (layerName "sigmoid_" layerIdx) (.activation .kSIGMOID none none) [input]
    addLayer trt (layerName "silu_" layerIdx) (.elementWise .kPROD) [input, sigmoid]
  else if activation = "hardsigmoid" then
    addLayer trt (layerName "hardsigmoid_" layerIdx)
      (.activation .kHARD_SIGMOID (some (1 / 6)) (some (1 / 2))) [input]
  else if activation = "hardswish" then
    let hardsigmoid ← addLayer trt (layerName "hardsigmoid_" layerIdx)
      (.activation .kHARD_SIGMOID (some (1 / 6)) (some (1 / 2))) [input]
    addLayer trt (layerName "hardswish_" layerIdx) (.elementWise .kPROD) [input, hardsigmoid]
  else lift none

/-- What `convolutionalLayer` and `deconvolutionalLayer` read from their block. -/
structure ConvParams where
  shape : ConvShape
  bias : ℤ
  batchNormalize : Bool
  deriving DecidableEq

/-- The settings of a convolution, but for the bias. -/
def convShape (block : Block) : Option ConvShape := do
  let filters ← number block "filters"
  let padding ← number block "pad"
  let kernelSize ← number block "size"
  let stride ← number block "stride"
  let groups ← numberOr block "groups" 1
  let pad := if padding ≠ 0 then (kernelSize - 1).tdiv 2 else 0
  return ⟨filters, kernelSize, stride, pad,
    if (block.get? "groups").isSome then some groups else none⟩

/-- What `convolutionalLayer` reads from its block. -/
def convolutionalParams (block : Block) : Option ConvParams := do
  let shape ← convShape block
  let bias := if (block.get? "batch_normalize").isSome then 0 else shape.filters
  let bias ← numberOr block "bias" bias
  let bias := if (block.get? "bias").isSome ∧ bias = 1 then shape.filters else bias
  return ⟨shape, bias, block.get? "batch_normalize" = some "1"⟩

/-- What `deconvolutionalLayer` reads from its block: there a bias of one is one. -/
def deconvolutionalParams (block : Block) : Option ConvParams := do
  let shape ← convShape block
  let bias ← numberOr block "bias" shape.filters
  return ⟨shape, bias, false⟩

/-- `size`; dividing by no groups is undefined. -/
def ConvShape.size (c : ConvShape) (inputChannels : ℤ) : Option ℤ :=
  if c.groups = some 0 then none
  else some ((c.filters * inputChannels * c.kernelSize * c.kernelSize).tdiv (c.groups.getD 1))

/-- The values of `bnBiases`, `bnWeights`, `bnRunningMean` and `bnRunningVar`. -/
structure BatchNorm (F : Type) where
  bnBiases : List F
  bnWeights : List F
  bnRunningMean : List F
  bnRunningVar : List F

/-- The four loops that fill them. -/
def readBatchNorm (filters : ℤ) : Builder F (BatchNorm F) := do
  let bnBiases ← readWeights weights filters
  let bnWeights ← readWeights weights filters
  let bnRunningMean ← readWeights weights filters
  let bnRunningVar ← readWeights weights filters
  return ⟨bnBiases, bnWeights, bnRunningMean, bnRunningVar.map ops.deviation⟩

/-- The scale layer a batch normalization is folded into. -/
def BatchNorm.scale [One F] (bn : BatchNorm F) (size : ℤ) : Op F :=
  let shiftWt := List.zipWith ops.sub bn.bnBiases
    (List.zipWith ops.div (List.zipWith ops.mul bn.bnRunningMean bn.bnWeights) bn.bnRunningVar)
  let scaleWt := List.zipWith ops.div bn.bnWeights bn.bnRunningVar
  .scale ⟨size, shiftWt⟩ ⟨size, scaleWt⟩ ⟨size, List.replicate size.toNat 1⟩

/-- The loop over the biases of a convolution, where it has any. -/
def readBias (c : ConvParams) : Builder F (List F) :=
  if c.bias ≠ 0 then readWeights weights c.shape.filters else pure []

/-- `convolutionalLayer`. -/
def convolutionalLayer [One F] (layerIdx : ℕ) (block : Block) (inputChannels : ℤ) (input : ℕ) :
    Builder F ℕ := do
  assert (block.get? "type" = some "convolutional" ∨ block.get? "type" = some "c2f")
  let c ← lift (convolutionalParams block)
  let activation ← lift (block.get? "activation")
  let size ← lift (c.shape.size inputChannels)
  if c.batchNormalize = false then
    let convBias ← readBias weights c
    let convWt ← readWeights weights size
    let conv ← addLayer trt (layerName "conv_" layerIdx)
      (.convolution c.shape ⟨size, convWt⟩ ⟨c.bias, convBias⟩) [input]
    activationLayer trt layerIdx activation conv
  else
    let bn ← readBatchNorm ops weights c.shape.filters
    let convBias ← readBias weights c
    let convWt ← readWeights weights size
    let conv ← addLayer trt (layerName "conv_" layerIdx)
      (.convolution c.shape ⟨size, convWt⟩ ⟨c.bias, convBias⟩) [input]
    let batchnorm ← addLayer trt (layerName "batchnorm_" layerIdx)
      (bn.scale ops c.shape.filters) [conv]
    activationLayer trt layerIdx activation batchnorm

/-- `deconvolutionalLayer`. -/
def deconvolutionalLayer (layerIdx : ℕ) (block : Block) (inputChannels : ℤ) (input : ℕ) :
    Builder F ℕ := do
  assert (block.get? "type" = some "deconvolutional")
  let c ← lift (deconvolutionalParams block)
  let size ← lift (c.shape.size inputChannels)
  let convBias ← readBias weights c
  let convWt ← readWeights weights size
  addLayer trt (layerName "deconv_" layerIdx)
    (.deconvolution c.shape ⟨size, convWt⟩ ⟨c.bias, convBias⟩) [input]

/-- `batchnormLayer`. -/
def batchnormLayer [One F] (layerIdx : ℕ) (block : Block) (input : ℕ) : Builder F ℕ := do
  assert (block.get? "type" = some "batchnorm")
  let filters ← lift (number block "filters")
  let activation ← lift (block.get? "activation")
  let bn ← readBatchNorm ops weights filters
  let batchnorm ← addLayer trt (layerName "batchnorm_" layerIdx) (bn.scale ops filters) [input]
  activationLayer trt layerIdx activation batchnorm

/-- `implicitLayer`. -/
def implicitLayer (layerIdx : ℕ) (block : Block) : Builder F ℕ := do
  let type ← lift (block.get? "type")
  assert (type = "implicit" ∨ type = "implicit_add" ∨ type = "implicit_mul")
  let filters ← lift (number block "filters")
  let convWt ← readWeights weights filters
  addLayer trt (layerName (type ++ "_") layerIdx) (.constant [1, filters, 1, 1] ⟨filters, convWt⟩)
    []

/-- `channelsLayer`. -/
def channelsLayer (layerIdx : ℕ) (block : Block) (input implicitTensor : ℕ) : Builder F ℕ := do
  if block.get? "type" = some "shift_channels" then
    addLayer trt (layerName "shift_channels_" layerIdx) (.elementWise .kSUM) [input, implicitTensor]
  else
    assert (block.get? "type" = some "control_channels")
    addLayer trt (layerName "control_channels_" layerIdx) (.elementWise .kPROD)
      [input, implicitTensor]

/-- `sliceLayer`. The slice itself is added first and given its size last; here it stands behind the
layers its size comes from. -/
def sliceLayer (layerIdx : ℕ) (name : String) (input : ℕ) (start size stride : List ℤ)
    (batchSize : ℤ) : Builder F ℕ := do
  let tensorBatch := (← getDimensions trt input).d 0
  if tensorBatch = -1 then
    let constant1 ← addLayer trt (layerName ("constant1_" ++ name ++ "_") layerIdx)
      (.sizes (1 :: size.tail)) []
    let constant2 ← addLayer trt (layerName ("constant2_" ++ name ++ "_") layerIdx)
      (.sizes (batchSize :: List.replicate (size.length - 1) 1)) []
    let newSize ← addLayer trt (layerName ("new_size_" ++ name ++ "_") layerIdx)
      (.elementWise .kPROD) [constant1, constant2]
    addLayer trt (layerName (name ++ "_") layerIdx) (.slice start size stride) [input, newSize]
  else addLayer trt (layerName (name ++ "_") layerIdx) (.slice start size stride) [input]

/-- `shortcutLayer`. -/
def shortcutLayer (layerIdx : ℕ) (activation : String) (inputVol shortcutVol : String)
    (block : Block) (input shortcutInput : ℕ) (batchSize : ℤ) : Builder F ℕ := do
  assert (block.get? "type" = some "shortcut")
  let output ←
    if inputVol ≠ shortcutVol then do
      let size := (← getDimensions trt input).toList
      sliceLayer trt layerIdx "slice" shortcutInput [0, 0, 0, 0] size [1, 1, 1, 1] batchSize
    else pure shortcutInput
  let shortcut ← addLayer trt (layerName "shortcut_" layerIdx) (.elementWise .kSUM) [input, output]
  activationLayer trt layerIdx activation shortcut

/-- `samLayer`. -/
def samLayer (layerIdx : ℕ) (activation : String) (block : Block) (input samInput : ℕ) :
    Builder F ℕ := do
  assert (block.get? "type" = some "sam")
  let sam ← addLayer trt (layerName "sam_" layerIdx) (.elementWise .kPROD) [input, samInput]
  activationLayer trt layerIdx activation sam

/-- The numbers of the layers a route names: each is followed by a comma, but for the last, which
may be missing. -/
def idxLayers (strLayers : List Char) : Option (List ℤ) := do
  let parts := Texts.pieces ',' strLayers
  let closed := strLayers.getLast? = some ','
  let idxLayers ← (if closed then parts else parts.dropLast).mapM fun part => stoi (trim part)
  let lastV := if closed then [] else trim (parts.getLastD [])
  let last ← if lastV = [] then some [] else (stoi lastV).map fun vL => [vL]
  return (idxLayers ++ last).map Int32.toInt

/-- Which output a number in a route is. -/
def routeInput {β : Type} (tensorOutputs : List β) (idx : ℤ) : Option β :=
  let idx := if idx < 0 then (tensorOutputs.length : ℤ) + idx else idx
  if 0 ≤ idx then tensorOutputs[idx.toNat]? else none

/-- The part of the channels a route with groups takes: its start and its size. -/
def groupSlice (block : Block) (dims : Dims) : Option (List ℤ × List ℤ) := do
  let groups ← number block "groups"
  let group_id ← number block "group_id"
  let channelSlice := (dims.d 1).tdiv groups
  if groups = 0 then none
  else return ([0, channelSlice * group_id, 0, 0], [dims.d 0, channelSlice, dims.d 2, dims.d 3])

/-- The axis a route joins its inputs on. -/
def routeAxis (block : Block) (dims : Dims) : Option ℤ := do
  let axis ←
    if (block.get? "axis").isSome then (number block "axis").map (1 + ·) else some 1
  return if axis < 0 then axis + dims.nbDims else axis

/-- What `routeLayer` makes of its inputs: a single one stays as it is. -/
def joinInputs (layerIdx : ℕ) (block : Block) : List ℕ → Builder F ℕ
  | [] => lift none
  | [input] => return input
  | input :: inputs => do
    let axis ← lift (routeAxis block (← getDimensions trt input))
    addLayer trt (layerName "route_" layerIdx) (.concatenation axis) (input :: inputs)

/-- `routeLayer`. -/
def routeLayer (layerIdx : ℕ) (block : Block) (tensorOutputs : List ℕ) (batchSize : ℤ) :
    Builder F ℕ := do
  assert (block.get? "type" = some "route")
  let idxLayers ← lift (idxLayers (← lift (block.get? "layers")).toList)
  let concatInputs ← lift (idxLayers.mapM (routeInput tensorOutputs))
  let output ← joinInputs trt layerIdx block concatInputs
  if (block.get? "groups").isSome then
    let (start, size) ← lift (groupSlice block (← getDimensions trt output))
    sliceLayer trt layerIdx "slice" output start size [1, 1, 1, 1] batchSize
  else return output

/-- `upsampleLayer`. -/
def upsampleLayer (layerIdx : ℕ) (block : Block) (input : ℕ) : Builder F ℕ := do
  assert (block.get? "type" = some "upsample")
  let stride ← lift (number block "stride")
  addLayer trt (layerName "upsample_" layerIdx) (.resize [1, 1, stride, stride]) [input]

/-- What `poolingLayer` adds. -/
def poolingOp (block : Block) (inputDims : Dims) : Option (Op F) := do
  let type ← block.get? "type"
  if type = "max" ∨ type = "maxpool" then
    let size ← number block "size"
    let stride ← number block "stride"
    let padding := (size - 1).tdiv 2
    let last := size = 2 ∧ stride = 1
    return .pooling .kMAX [size, size] [stride, stride] [padding, padding]
      (if last then some [0, 0] else none) (if last then some [1, 1] else none)
  else if type = "avg" ∨ type = "avgpool" then
    return .pooling .kAVERAGE [inputDims.d 1, inputDims.d 2] [1, 1] [0, 0] none none
  else none

/-- `poolingLayer`. -/
def poolingLayer (layerIdx : ℕ) (block : Block) (input : ℕ) : Builder F ℕ := do
  let op ← lift (poolingOp block (← getDimensions trt input))
  let kind := if block.get? "type" = some "max" ∨ block.get? "type" = some "maxpool"
    then "maxpool_" else "avgpool_"
  addLayer trt (layerName kind layerIdx) op [input]

/-- The shapes and transpositions of the four shuffles of `reorgLayer`. -/
def reorgShuffles (inputDims : Dims) (stride : ℤ) : List (List ℤ × Option (List ℕ)) :=
  let (n, c, h, w) := (inputDims.d 0, inputDims.d 1, inputDims.d 2, inputDims.d 3)
  let channels := c.tdiv (stride * stride)
  [([n, channels, h, stride, w, stride], some [0, 1, 2, 4, 3, 5]),
    ([n, channels, h * w, stride * stride], some [0, 1, 3, 2]),
    ([n, channels, stride * stride, h * w], some [0, 2, 1, 3]),
    ([n, c * stride * stride, h.tdiv stride, w.tdiv stride], none)]

/-- `reorgLayer`; the branch of `reorg3d` reads a variable that is never set. -/
def reorgLayer (layerIdx : ℕ) (block : Block) (input : ℕ) : Builder F ℕ := do
  assert (block.get? "type" = some "reorg")
  let stride ← lift (numberOr block "stride" 1)
  assert (stride ≠ 0)
  let shuffles := (reorgShuffles (← getDimensions trt input) stride).zipIdx 1
  shuffles.foldlM (fun output (shuffle, k) =>
    addLayer trt (layerName ("shuffle" ++ toString k ++ "_") layerIdx)
      (.shuffle shuffle.1 shuffle.2) [output]) input

/-! ## The network -/

/-- The number a reference `from` of the block `i` comes to, in the unsigned arithmetic of the
assertions. -/
def fromIndex (i : UInt32) (from_ : Int32) (tensorOutputs : ℕ) : Option ℕ :=
  let from_ := if from_ > 0 then (from_.toUInt32 - i + 1).toInt32 else from_
  let index := i + from_.toUInt32 - 1
  if (i - 2).toNat < tensorOutputs ∧ index.toNat < tensorOutputs ∧ index < i - 2
  then some index.toNat else none

/-- The output a block refers to. -/
def fromOutput {β : Type} (block : Block) (i : ℕ) (tensorOutputs : List β) : Option β := do
  let from_ ← stoi (← block.get? "from").toList
  tensorOutputs[← fromIndex (.ofNat i) from_ tensorOutputs.length]?

/-- The activation of a block that need not have one. -/
def activationOf (block : Block) : String := (block.get? "activation").getD "linear"

/-- The variables of the loop of `buildYoloNetwork`. -/
structure LoopState (F : Type) where
  previous : ℕ
  tensorOutputs : List ℕ
  yoloTensorInputs : List ℕ
  m_YoloTensors : List (TensorInfo F)

/-- `previous` becomes the output of a layer. -/
def LoopState.push (l : LoopState F) (tensor : ℕ) : LoopState F :=
  { l with previous := tensor, tensorOutputs := l.tensorOutputs ++ [tensor] }

variable (m_BatchSize : ℤ)

/-- The layer of a block that is neither the net nor one of detections nor a dropout. -/
def blockLayer [One F] (i : ℕ) (block : Block) (l : LoopState F) : Builder F ℕ := do
  let type ← lift (block.get? "type")
  if type = "conv" ∨ type = "convolutional" then
    let channels ← lift (getNumChannels (← getDimensions trt l.previous))
    convolutionalLayer trt ops weights i block channels l.previous
  else if type = "deconvolutional" then
    let channels ← lift (getNumChannels (← getDimensions trt l.previous))
    deconvolutionalLayer trt weights i block channels l.previous
  else if type = "batchnorm" then
    let _ ← inputVol trt l.previous
    batchnormLayer trt ops weights i block l.previous
  else if type = "implicit" ∨ type = "implicit_add" ∨ type = "implicit_mul" then
    implicitLayer trt weights i block
  else if type = "shift_channels" ∨ type = "control_channels" then
    let other ← lift (fromOutput block i l.tensorOutputs)
    let _ ← inputVol trt l.previous
    channelsLayer trt i block l.previous other
  else if type = "shortcut" then
    let other ← lift (fromOutput block i l.tensorOutputs)
    let input ← inputVol trt l.previous
    let shortcut ← inputVol trt other
    shortcutLayer trt i (activationOf block) input shortcut block l.previous other m_BatchSize
  else if type = "sam" then
    let other ← lift (fromOutput block i l.tensorOutputs)
    let _ ← inputVol trt l.previous
    samLayer trt i (activationOf block) block l.previous other
  else if type = "route" then
    routeLayer trt i block l.tensorOutputs m_BatchSize
  else if type = "upsample" then
    let _ ← inputVol trt l.previous
    upsampleLayer trt i block l.previous
  else if type = "max" ∨ type = "maxpool" ∨ type = "avg" ∨ type = "avgpool" then
    let _ ← inputVol trt l.previous
    poolingLayer trt i block l.previous
  else if type = "reorg" ∨ type = "reorg3d" then
    let _ ← inputVol trt l.previous
    reorgLayer trt i block l.previous
  else lift none

/-- What a block of detections does: it gives the next tensor its name and its grid. -/
def detectionBlock (i : ℕ) (block : Block) (l : LoopState F) : Builder F (LoopState F) := do
  let kind := if block.get? "type" = some "yolo" then "yolo_" else "region_"
  let prevTensorDims ← getDimensions trt l.previous
  let curYoloTensor ← lift l.m_YoloTensors[l.yoloTensorInputs.length]?
  let curYoloTensor := { curYoloTensor with
    blobName := layerName kind i
    gridSizeY := .ofInt (prevTensorDims.d 2)
    gridSizeX := .ofInt (prevTensorDims.d 3) }
  let _ ← lift (dimsToString prevTensorDims)
  return { l with
    tensorOutputs := l.tensorOutputs ++ [l.previous]
    yoloTensorInputs := l.yoloTensorInputs ++ [l.previous]
    m_YoloTensors := l.m_YoloTensors.set l.yoloTensorInputs.length curYoloTensor }

/-- One round of the loop of `buildYoloNetwork`. -/
def addBlock [One F] (l : LoopState F) (block : Block × ℕ) : Builder F (LoopState F) := do
  let (block, i) := block
  if block.get? "type" = some "net" then return l
  else if block.isDetection then detectionBlock trt i block l
  else if block.get? "type" = some "dropout" then return l
  else
    let previous ← blockLayer trt ops weights m_BatchSize i block l
    let _ ← inputVol trt previous
    return l.push previous

/-- The network that is built: its layers, the outputs of the blocks, and the plugin layer. -/
structure YoloNetwork (F : Type) where
  network : List (Node (Layer F))
  tensorOutputs : List ℕ
  yoloTensorInputs : List ℕ
  yolo : YoloLayer F

/-- `outputSize`: the products are taken in 32 bits. -/
def outputSize (tensors : List (TensorInfo F)) : UInt64 :=
  tensors.foldl (fun n t => n + (t.numBBoxes * t.gridSizeY * t.gridSizeX).toUInt64) 0

/-- `Yolo::buildYoloNetwork`. -/
def buildYoloNetwork [One F] (m_InputBlobName : String) (m_ImplicitBatch : Int32)
    (m_ConfigBlocks : List Block) (y : YoloFields F) : Option (YoloNetwork F) := do
  let batchSize := if m_ImplicitBatch ≠ 0 then m_BatchSize else -1
  let data : Node (Layer F) :=
    ⟨⟨m_InputBlobName, .input [batchSize, y.m_InputC.toNat, y.m_InputH.toNat, y.m_InputW.toNat]⟩,
      []⟩
  if !trt.accepts [] data || (trt.dims [data]).nbDims = 0 then none
  else
    let (l, s) ← m_ConfigBlocks.zipIdx.foldlM (addBlock trt ops weights m_BatchSize)
      ⟨0, [], [], y.m_YoloTensors⟩ ⟨[data], 0⟩
    if weights.length ≠ s.weightPtr then none
    else if y.m_YoloCount.toNat ≠ l.yoloTensorInputs.length then none
    else if y.m_InputW = 0 ∨ y.m_InputH = 0 then none
    else
      let yolo : YoloLayer F := ⟨"", y.m_InputW, y.m_InputH, y.m_NumClasses, y.m_NewCoords,
        l.m_YoloTensors, outputSize (l.m_YoloTensors.take l.yoloTensorInputs.length)⟩
      if trt.acceptsPlugin s.network l.yoloTensorInputs yolo then
        some ⟨s.network, l.tensorOutputs, l.yoloTensorInputs, yolo⟩
      else none

/-! ## What the steps of building do -/

variable {trt weights}

variable (weights) in
/-- The network has grown, and a part of the weights has been read. -/
structure Moves (s s' : Building F) (part : List F) : Prop where
  grows : s.network <+: s'.network
  reads : weights.drop s.weightPtr = part ++ weights.drop s'.weightPtr
  ptr : s'.weightPtr = s.weightPtr + part.length

theorem Moves.refl (s : Building F) : Moves weights s s [] := ⟨List.prefix_rfl, rfl, rfl⟩

theorem Moves.trans {s s' s'' : Building F} {part part' : List F} (h : Moves weights s s' part)
    (h' : Moves weights s' s'' part') : Moves weights s s'' (part ++ part') where
  grows := h.grows.trans h'.grows
  reads := by rw [h.reads, h'.reads, List.append_assoc]
  ptr := by rw [h'.ptr, h.ptr, List.length_append, Nat.add_assoc]

/-- Where nothing more is read. -/
theorem Moves.then {s s' s'' : Building F} {part : List F} (h : Moves weights s s' part)
    (h' : Moves weights s' s'' []) : Moves weights s s'' part := by
  simpa using h.trans h'

/-- The dimensions of a tensor. -/
def dimsOf (trt : TensorRT F) (s : Building F) (tensor : ℕ) : Dims :=
  trt.dims (s.network.take (tensor + 1))

theorem ends_getDimensions {s : Building F} {tensor : ℕ} {Q : Dims → Building F → Prop}
    (h : Q (dimsOf trt s tensor) s) : (getDimensions trt tensor).Ends s Q := by
  intro d s' hrun
  cases hrun
  exact h

theorem ends_inputVol {s : Building F} {tensor : ℕ} {Q : String → Building F → Prop}
    (h : ∀ vol, dimsToString (dimsOf trt s tensor) = some vol → Q vol s) :
    (inputVol trt tensor).Ends s Q :=
  ends_bind (ends_getDimensions (ends_lift h))

/-- **Reading weights.** -/
theorem ends_readWeights {s : Building F} {n : ℤ} {Q : List F → Building F → Prop}
    (h : ∀ part s', part.length = n.toNat → Moves weights s s' part → Q part s') :
    (readWeights weights n).Ends s Q := by
  intro part s' hrun
  rw [readWeights] at hrun
  split at hrun
  · rename_i hn
    cases hrun
    have hlength : ((weights.drop s.weightPtr).take n.toNat).length = n.toNat := by
      rw [List.length_take, List.length_drop]
      omega
    refine h _ _ hlength ⟨List.prefix_rfl, ?_, by rw [hlength]⟩
    rw [← List.drop_drop, List.take_append_drop]
  · cases hrun

theorem ends_readBias {s : Building F} {c : ConvParams} {Q : List F → Building F → Prop}
    (h : ∀ part s', (part.length = if c.bias ≠ 0 then c.shape.filters.toNat else 0) →
      Moves weights s s' part → Q part s') : (readBias weights c).Ends s Q := by
  rw [readBias]
  split
  · rename_i hbias
    exact ends_readWeights fun part s' hlength => h part s' (by rw [hlength, if_pos hbias])
  · rename_i hbias
    exact ends_pure (h [] s (by rw [if_neg hbias]; rfl) (Moves.refl s))

theorem poolingOp_eq {block : Block} {dims : Dims} {op : Op F}
    (h : poolingOp block dims = some op) :
    ∃ type windowSize stride padding prePadding postPadding,
      op = .pooling type windowSize stride padding prePadding postPadding := by
  obtain ⟨type, -, h⟩ := Option.bind_eq_some_iff.mp h
  by_cases hmax : type = "max" ∨ type = "maxpool"
  · rw [if_pos hmax] at h
    obtain ⟨size, -, h⟩ := Option.bind_eq_some_iff.mp h
    obtain ⟨stride, -, h⟩ := Option.bind_eq_some_iff.mp h
    cases h
    exact ⟨_, _, _, _, _, _, rfl⟩
  · rw [if_neg hmax] at h
    by_cases havg : type = "avg" ∨ type = "avgpool"
    · rw [if_pos havg] at h
      cases h
      exact ⟨_, _, _, _, _, _, rfl⟩
    · rw [if_neg havg] at h
      cases h

/-! ## References -/

theorem toNat_toUInt32 (n : Int32) :
    (n.toUInt32.toNat : ℤ) = if 0 ≤ n.toInt then n.toInt else 2 ^ 32 + n.toInt := by
  have hint : n.toInt = n.toBitVec.toInt := rfl
  have hnat : n.toUInt32.toNat = n.toBitVec.toNat := rfl
  have hlt := n.toBitVec.isLt
  rw [hint, hnat, BitVec.toInt_eq_toNat_cond]
  split <;> split <;> omega

/-- **A reference** `from`: a number from the start, or one back from the layer of the block. -/
theorem fromIndex_eq {k r : ℕ} {n : Int32} (hk : k + 1 < 2 ^ 32)
    (h : fromIndex (.ofNat (k + 1)) n k = some r) :
    (r : ℤ) = if n.toInt < 0 then k + n.toInt else n.toInt := by
  have hi : (UInt32.ofNat (k + 1)).toNat = k + 1 := UInt32.toNat_ofNat_of_lt hk
  have hn := toNat_toUInt32 n
  have hlow : -2 ^ 31 ≤ n.toInt := n.le_toInt
  obtain ⟨index, hindex, hlt, rfl⟩ : ∃ index : UInt32,
      index = UInt32.ofNat (k + 1)
        + (if n > 0 then (n.toUInt32 - .ofNat (k + 1) + 1).toInt32 else n).toUInt32 - 1 ∧
      index.toNat < k ∧ r = index.toNat := by
    dsimp only [fromIndex] at h
    generalize hx : UInt32.ofNat (k + 1)
        + (if n > 0 then (n.toUInt32 - .ofNat (k + 1) + 1).toInt32 else n).toUInt32 - 1 = index at h
    by_cases hassert : (UInt32.ofNat (k + 1) - 2).toNat < k ∧ index.toNat < k
        ∧ index < UInt32.ofNat (k + 1) - 2
    · rw [if_pos hassert] at h
      cases h
      exact ⟨index, rfl, hassert.2.1, rfl⟩
    · rw [if_neg hassert] at h
      cases h
  by_cases hpos : n > 0
  · -- the number itself: the block's own number goes out again
    have hpos' : 0 < n.toInt := by simpa using Int32.lt_iff_toInt_lt.mp hpos
    have hself : index = n.toUInt32 := by
      rw [hindex, if_pos hpos]
      generalize UInt32.ofNat (k + 1) = i
      show i + (n.toUInt32 - i + 1) - 1 = n.toUInt32
      grind
    rw [hself]
    omega
  · have hneg : n.toInt ≤ 0 := by simpa using Int32.le_iff_toInt_le.mp (Int32.not_lt.mp hpos)
    rw [if_neg hpos] at hindex
    have hnat : index.toNat = (2 ^ 32 - 1 + (k + 1 + n.toUInt32.toNat) % 2 ^ 32) % 2 ^ 32 := by
      rw [hindex, UInt32.toNat_sub, UInt32.toNat_add, hi]
      rfl
    split <;> split at hn <;> omega

/-- A reference is one of Darknet: the blocks behind the net are numbered from zero. -/
theorem fromOutput_eq {β : Type} {block : Block} {tensorOutputs : List β} {t : β}
    (hlt : tensorOutputs.length + 1 < 2 ^ 32)
    (h : fromOutput block (tensorOutputs.length + 1) tensorOutputs = some t) :
    ∃ n, number block "from" = some n ∧ routeInput tensorOutputs n = some t := by
  obtain ⟨text, htext, h⟩ := Option.bind_eq_some_iff.mp h
  obtain ⟨from_, hfrom, h⟩ := Option.bind_eq_some_iff.mp h
  obtain ⟨r, hr, ht⟩ := Option.bind_eq_some_iff.mp h
  have hindex := fromIndex_eq hlt hr
  refine ⟨from_.toInt, ?_, ?_⟩
  · rw [number, htext, Option.bind_eq_bind, Option.bind_some, hfrom]
    rfl
  · rw [routeInput, ← hindex]
    rw [if_pos (Int.natCast_nonneg r), Int.toNat_natCast, ht]

theorem routeInput_forall₂ {β γ : Type} {R : β → γ → Prop} {l : List β} {m : List γ}
    (h : List.Forall₂ R l m) {n : ℤ} {b : β} (hb : routeInput l n = some b) :
    ∃ c, routeInput m n = some c ∧ R b c := by
  unfold routeInput at hb ⊢
  rw [h.length_eq] at hb
  dsimp only at hb ⊢
  generalize (if n < 0 then (m.length : ℤ) + n else n) = i at hb ⊢
  by_cases hn : 0 ≤ i
  · rw [if_pos hn] at hb ⊢
    obtain ⟨hi, rfl⟩ := List.getElem?_eq_some_iff.mp hb
    have hi' : i.toNat < m.length := h.length_eq ▸ hi
    exact ⟨_, List.getElem?_eq_getElem hi', h.get hi hi'⟩
  · rw [if_neg hn] at hb
    cases hb

theorem mapM_routeInput_forall₂ {β γ : Type} {R : β → γ → Prop} {l : List β} {m : List γ}
    (h : List.Forall₂ R l m) {ns : List ℤ} {bs : List β} (hbs : ns.mapM (routeInput l) = some bs) :
    ∃ cs, ns.mapM (routeInput m) = some cs ∧ List.Forall₂ R bs cs := by
  induction ns generalizing bs with
  | nil =>
    cases hbs
    exact ⟨[], rfl, .nil⟩
  | cons n ns ih =>
    rw [List.mapM_cons] at hbs
    obtain ⟨b, hb, hbs⟩ := Option.bind_eq_some_iff.mp hbs
    obtain ⟨bs', hbs', heq⟩ := Option.bind_eq_some_iff.mp hbs
    cases heq
    obtain ⟨c, hc, hR⟩ := routeInput_forall₂ h hb
    obtain ⟨cs, hcs, hRs⟩ := ih hbs'
    refine ⟨c :: cs, ?_, .cons hR hRs⟩
    rw [List.mapM_cons, hc, hcs]
    rfl

end DemoColombia.Detector
