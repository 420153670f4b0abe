import Tensora.Lib.ByteCodec
import Tensora.Training.Module

/-! `ModuleSave` and `ModuleLoad`. -/
namespace Tensora.Training
open ByteCodec

/-- How a float is written to a file and read from it. -/
class FloatBits (F : Type) where
  bits : F → BitVec 32
  ofBits : BitVec 32 → F

/-- A float is its 32-bit pattern. -/
class FloatPattern (F : Type) extends FloatBits F where
  ofBits_bits : ∀ value, ofBits (bits value) = value
  bits_ofBits : ∀ pattern, bits (ofBits pattern) = pattern

variable {F D : Type} [FloatBits F]

def kCheckpointVersion : Nat := 1

/-- `"TSTRNV1\0"`. -/
def kCheckpointMagic : List Byte := [0x54, 0x53, 0x54, 0x52, 0x4E, 0x56, 0x31, 0x00]

def floatBytes (value : F) : List Byte := encode 4 (FloatBits.bits value).toNat

def floatOfBytes (bytes : List Byte) : F := FloatBits.ofBits (BitVec.ofNat 32 (decode bytes))

def checkpointHeader (state : LinearState) : List Byte :=
  kCheckpointMagic ++ encode 4 kCheckpointVersion ++ encode 8 state.inFeatures ++
    encode 8 state.outFeatures ++ encode 1 (if state.useBias then 1 else 0)

/-- `ofstream(path, trunc)`. -/
def openForWriting (path : String) : Native F D Unit := do
  failIf (!(← get).files.writable path)
    (internalError "module_save: could not open checkpoint for writing")
  modify fun s => { s with files := { s.files with
    contents := Function.update s.files.contents path (some []) } }

/-- `stream.write` and the test of `stream.good()`. -/
def writeBytes (path : String) (bytes : List Byte) (message : String) : Native F D Unit := do
  let files := (← get).files
  let written := (files.contents path).getD [] ++ bytes
  modify fun s => { s with files := { files with
    contents := Function.update files.contents path (some (written.take files.capacity)) } }
  failIf (files.capacity < written.length) (internalError message)

/-- `SaveTensor`, in the order the fields are written. -/
def saveTensor (path : String) (tensor : TensorId) : Native F D Unit := do
  let t ← onMemory (deref tensor)
  writeBytes path (encode 8 t.shape.dimensions.length) "module_save: failed to write tensor rank"
  writeBytes path (t.shape.dimensions.flatMap (encode 8))
    "module_save: failed to write tensor shape"
  writeBytes path (encode 8 t.numel) "module_save: failed to write tensor element count"
  let values ← onMemory (Autograd.cpuValues tensor "module_save")
  writeBytes path (values.flatMap floatBytes) "module_save: failed to write tensor payload"

def moduleSave (module : Nat) (path : String) : Native F D Unit := do
  failIf path.isEmpty (invalidArgument "module_save: path must not be empty")
  let (_, state) ← lookupModule module
  openForWriting path
  writeBytes path (checkpointHeader state) "module_save: failed to write checkpoint header"
  saveTensor path state.weight
  match state.useBias, state.bias with
  | false, _ => pure ()
  | true, some bias => saveTensor path bias
  | true, none => throw .danglingReference

/-- `stream.read` and the test of `stream.good()`. -/
def readScalar (width : Nat) (stream : List Byte) (message : String) :
    Mem F (Nat × List Byte) :=
  match readNat width stream with
  | some result => pure result
  | none => throw (internalError message)

def readDimensions : Nat → List Byte → Mem F (List Int × List Byte)
  | 0, stream => pure ([], stream)
  | rank + 1, stream => do
      let (dimension, stream) ← readScalar 8 stream "module_load: truncated tensor shape"
      let (dimensions, stream) ← readDimensions rank stream
      return (toSigned 8 dimension :: dimensions, stream)

def decodeFloats : Nat → List Byte → List F
  | 0, _ => []
  | count + 1, bytes => floatOfBytes (bytes.take 4) :: decodeFloats count (bytes.drop 4)

def readTensorPayload (stream : List Byte) (expectedShape : ShapeInfo) :
    Mem F (List F × List Byte) := do
  let (rank, stream) ← readScalar 8 stream "module_load: invalid tensor rank"
  failIf (rank > 32) (internalError "module_load: invalid tensor rank")
  allocate
  let (dimensions, stream) ← readDimensions rank stream
  allocate
  match validateShape dimensions with
  | .error _ => throw (internalError "module_load: invalid tensor shape")
  | .ok shape => do
      failIf (!sameShape shape expectedShape)
        (internalError "module_load: checkpoint tensor shape mismatch")
      let (numel, stream) ← readScalar 8 stream "module_load: invalid tensor element count"
      failIf (numel ≠ shape.numel ∨ numel > maxU64 / 4)
        (internalError "module_load: invalid tensor element count")
      allocateFloats numel
      match take (4 * numel) stream with
      | none => throw (internalError "module_load: truncated tensor payload")
      | some (payload, stream) => return (decodeFloats numel payload, stream)

def readHeader (stream : List Byte) : Mem F ((Nat × Int × Int × Nat) × List Byte) := do
  match take kCheckpointMagic.length stream with
  | none => throw (internalError "module_load: invalid checkpoint magic")
  | some (magic, stream) => do
      failIf (magic ≠ kCheckpointMagic) (internalError "module_load: invalid checkpoint magic")
      let (version, stream) ← readScalar 4 stream "module_load: truncated checkpoint header"
      let (inFeatures, stream) ← readScalar 8 stream "module_load: truncated checkpoint header"
      let (outFeatures, stream) ← readScalar 8 stream "module_load: truncated checkpoint header"
      let (useBias, stream) ← readScalar 1 stream "module_load: truncated checkpoint header"
      return ((version, toSigned 8 inFeatures, toSigned 8 outFeatures, useBias), stream)

/-- `*values = std::move(loaded)`, the version and the gradient. -/
def restoreParameter (parameter : TensorId) (values : List F) : Mem F Unit := do
  let _ ← Autograd.mutableCpuValues parameter "module_load"
  let t ← deref parameter
  mutateStorage t values
  incrementVersion t
  Autograd.clearGradient parameter

def loadParameters (state : LinearState) (stream : List Byte) : Mem F Unit := do
  let ((version, inFeatures, outFeatures, useBias), stream) ← readHeader stream
  failIf (version ≠ kCheckpointVersion ∨ inFeatures ≠ state.inFeatures ∨
      outFeatures ≠ state.outFeatures ∨ (useBias ≠ 0 ↔ ¬state.useBias))
    (internalError "module_load: checkpoint is incompatible with module")
  let (weightValues, stream) ← readTensorPayload stream (← deref state.weight).shape
  match state.useBias, state.bias with
  | false, _ => do
      failIf (!stream.isEmpty) (internalError "module_load: checkpoint contains trailing data")
      restoreParameter state.weight weightValues
  | true, some bias => do
      let (biasValues, stream) ← readTensorPayload stream (← deref bias).shape
      failIf (!stream.isEmpty) (internalError "module_load: checkpoint contains trailing data")
      restoreParameter state.weight weightValues
      restoreParameter bias biasValues
  | true, none => throw .danglingReference

def moduleLoad (module : Nat) (path : String) : Native F D Unit := do
  failIf path.isEmpty (invalidArgument "module_load: path must not be empty")
  let (_, state) ← lookupModule module
  match (← get).files.contents path with
  | none => throw (internalError "module_load: could not open checkpoint")
  | some stream => onMemory (loadParameters state stream)

end Tensora.Training
