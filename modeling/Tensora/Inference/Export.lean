import Tensora.Autograd.Record

/-! How tensors with CPU storage are handed to ONNX Runtime and to LibTorch: the
values and the shape a foreign row-major array is built from. -/
namespace Tensora.Inference

variable {F : Type}

def tensorToHost (tensor : TensorId) : Mem F (List F × List Nat) := do
  let t ← deref tensor
  failIf (t.dtype ≠ .float32) (unsupported "onnx input: only float32 tensors are supported")
  allocateFloats t.numel
  let values ← cpuStorageCopyToHostF32 (← storageValues t) t.numel
  failIf (values.length ≠ t.numel)
    (internalError "onnx input: storage returned an inconsistent size")
  return (values, t.shape.dimensions)

/-- `TensorToTorch` for a tensor with CPU storage, up to the arguments of
`torch::from_blob`. -/
def tensorToTorch (tensor : TensorId) : Mem F (List F × List Nat) := do
  let t ← deref tensor
  failIf (t.dtype ≠ .float32) (unsupported "tensor to torch: only float32 is supported")
  allocateFloats t.numel
  let values ← cpuStorageCopyToHostF32 (← storageValues t) t.numel
  failIf (values.length ≠ t.numel)
    (internalError "tensor to torch: storage returned an inconsistent element count")
  return (values, t.shape.dimensions)

end Tensora.Inference
