import Tensora.Runtime.Runtime

/-! Linear modules: construction, parameters, training mode. -/
namespace Tensora.Training

variable {F D : Type}

def validateModuleDimensions (inFeatures outFeatures : Int) : Native F D Unit := do
  failIf (inFeatures ≤ 0 ∨ outFeatures ≤ 0)
    (invalidArgument "linear_create: feature dimensions must be positive")
  failIf (inFeatures.toNat > maxU64 / outFeatures.toNat)
    (invalidArgument "linear_create: parameter element count overflows")
  failIf (inFeatures.toNat * outFeatures.toNat > maxU64 / 4)
    (invalidArgument "linear_create: parameter allocation is too large")

/-- `MakeParameter`: a leaf that requires grad. -/
def makeParameter (shape : ShapeInfo) (values : List F) : Mem F TensorId := do
  let out ← Autograd.makeCpuTensor shape values
  allocate
  Autograd.setAutogradMeta out
    { requiresGrad := true, isLeaf := true, gradient := none, gradFn := none }
  return out

/-- `count` draws from `[-bound, bound)`. -/
def drawUniform [Scalar F] (count : Nat) (bound : F) : Native F D (List F) := do
  let rng := (← get).rng
  modify fun s => { s with rng := { rng with draws := rng.draws + count } }
  return (List.range count).map fun i => Scalar.uniform rng.seed (rng.draws + i) bound

def addModule (state : LinearState) : Native F D Nat := do
  let object := (← get).modules.length
  modify fun s => { s with modules := s.modules ++ [state] }
  return object

def linearCreate [Scalar F] (inFeatures outFeatures : Int) (useBias : Bool) : Native F D Nat := do
  validateModuleDimensions inFeatures outFeatures
  let weightShape ← onMemory (validatedShape [inFeatures, outFeatures])
  allocationGuard "linear_create" do
    let bound : F := 1 / Scalar.sqrt (inFeatures.toNat : F)
    onMemory (allocateFloats weightShape.numel)
    let weightValues ← drawUniform weightShape.numel bound
    let biasValues ←
      if useBias then do
        onMemory (allocateFloats outFeatures.toNat)
        drawUniform outFeatures.toNat bound
      else pure []
    onMemory allocate
    let weight ← onMemory (makeParameter weightShape weightValues)
    let bias ←
      if useBias then do
        let biasShape ← onMemory (validatedShape [outFeatures])
        some <$> onMemory (makeParameter biasShape biasValues)
      else pure none
    let object ← addModule {
      inFeatures := inFeatures.toNat
      outFeatures := outFeatures.toNat
      useBias := useBias
      training := true
      weight := weight
      bias := bias }
    insertHandle .module object

def LinearState.parameters (state : LinearState) : List TensorId :=
  if state.useBias then state.weight :: state.bias.toList else [state.weight]

def forward [Arith F] (module : Nat) (input : TensorId) : Native F D TensorId := do
  let (_, state) ← lookupModule module
  onMemory (moduleForward state input)

def moduleSetTraining (module : Nat) (training : Bool) : Native F D Unit := do
  let (object, _) ← lookupModule module
  modify fun s => { s with
    modules := s.modules.modify object fun state => { state with training := training } }

def moduleToDevice (module : Nat) (device : Device) (deviceIndex : Int) : Native F D Unit := do
  let _ ← lookupModule module
  failIf (deviceIndex < 0)
    (invalidArgument "module_to_device: device index must be non-negative")
  failIf (device ≠ .cpu) (unsupported
    "module_to_device: requested accelerator is not available in the core-only build")
  failIf (deviceIndex ≠ 0) (invalidArgument "module_to_device: CPU device index must be zero")

def moduleParameterCount (module : Nat) : Native F D Nat := do
  let (_, state) ← lookupModule module
  return if state.useBias then 2 else 1

def moduleParameterAt (module index : Nat) : Native F D TensorId := do
  let (_, state) ← lookupModule module
  match index, state.useBias, state.bias with
  | 0, _, _ => return state.weight
  | 1, true, some bias => return bias
  | _, _, _ =>
      throw (invalidArgument "module_parameter_at: parameter index is out of range")

def moduleBufferCount (module : Nat) : Native F D Nat := do
  let _ ← lookupModule module
  return 0

def moduleBufferAt (module _index : Nat) : Native F D TensorId := do
  let _ ← lookupModule module
  throw (invalidArgument "module_buffer_at: module has no buffers")

def manualSeed (seed : Nat) : Native F D Unit :=
  modify fun s => { s with rng := { seed := seed, draws := 0 } }

end Tensora.Training
