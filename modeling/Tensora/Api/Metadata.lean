import Tensora.Api.Calls

/-! The calls of the C ABI that read a tensor's metadata. -/
namespace Tensora

/-- `TS_DTYPE_FLOAT32`. -/
def DType.code : DType → Nat
  | .float32 => 1

/-- The `TS_DEVICE_` constants. -/
def Device.code : Device → Nat
  | .cpu => 1
  | .cuda => 2
  | .mps => 3
  | .xpu => 4
  | .hip => 5

namespace Api

variable {F D α : Type}

/-- `LookupTensor`, then a field of the object. -/
def tensorField (field : Tensor → α) (tensor : Nat) : Native F D α := do
  let object ← lookupTensor tensor
  onMemory do return field (← deref object)

def tensorRank (tensor : Nat) : Native F D Nat :=
  tensorField (fun t => t.shape.dimensions.length) tensor

def tensorShape (tensor capacity : Nat) : Native F D (Nat × List Nat) := do
  let object ← lookupTensor tensor
  onMemory do
    let t ← deref object
    let rank := t.shape.dimensions.length
    failIf (capacity < rank) (invalidArgument
      "tensor_shape: output dimension capacity is smaller than rank")
    return (rank, t.shape.dimensions)

def tensorDType (tensor : Nat) : Native F D Nat := tensorField (fun t => t.dtype.code) tensor

def tensorDevice (tensor : Nat) : Native F D Nat := tensorField (fun t => t.device.code) tensor

def tensorDeviceIndex (tensor : Nat) : Native F D Int := tensorField Tensor.deviceIndex tensor

def tensorNumel (tensor : Nat) : Native F D Nat := tensorField Tensor.numel tensor

end Api

end Tensora
