import Tensora.Autograd.Record

/-! `ApplyNode`, `BuildTopology` and `Backward`. -/
namespace Tensora.Autograd
open CheckedLoop
open Scalar (less exp tanh erf log kInvSqrt2 kInvSqrt2Pi)

variable {F : Type}

structure GradientContribution where
  parent : TensorId
  gradient : TensorId
  deriving DecidableEq, Repr

def cloneWithShape (source : TensorId) (shape : ShapeInfo) : Mem F TensorId := do
  failIf ((← deref source).numel ≠ shape.numel)
    (internalError "autograd: reshape gradient element count mismatch")
  let values ← readLogicalCpuValues source "autograd_reshape"
  makeCpuTensor shape values

def transposeKernel [Zero F] (rows cols : Nat) (input : List F) : Except Fault (List F) :=
  loop rows (List.replicate (cols * rows) 0) fun output row =>
    loop cols output fun output col => do
      let value ← load input (← index row cols col)
      store output (← index col rows row) value

def transposeGradient [Zero F] (source : TensorId) : Mem F TensorId := do
  match (← deref source).shape.dimensions with
  | [rows, cols] => do
      let shape ← validatedShape [cols, rows]
      let input ← readLogicalCpuValues source "autograd_transpose"
      allocate
      let output ← checked (transposeKernel rows cols input)
      makeCpuTensor shape output
  | _ => throw (internalError "autograd: transpose gradient requires rank 2")

def productKernel [Mul F] (grad other : List F) : Except Fault (List F) :=
  fill grad.length fun index => do return (← load grad index) * (← load other index)

section Linear
variable [Zero F] [Add F] [Mul F]

/-- `grad · rightᵀ`. -/
def matmulLeftKernel (m k n : Nat) (grad right : List F) : Except Fault (List F) := do
  let size ← index m k 0
  loop m (List.replicate size 0) fun values row =>
    loop k values fun values inner => do
      let value ← sumLoop n fun col => do
        return (← load grad (← index row n col)) * (← load right (← index inner n col))
      store values (← index row k inner) value

/-- `leftᵀ · grad`. -/
def matmulRightKernel (m k n : Nat) (grad left : List F) : Except Fault (List F) := do
  let size ← index k n 0
  loop k (List.replicate size 0) fun values inner =>
    loop n values fun values col => do
      let value ← sumLoop m fun row => do
        return (← load left (← index row k inner)) * (← load grad (← index row n col))
      store values (← index inner n col) value

/-- Column sums. -/
def biasGradientKernel (rows cols : Nat) (grad : List F) : Except Fault (List F) :=
  loop rows (List.replicate cols 0) fun values row =>
    loop cols values fun values col => do
      store values col ((← load values col) + (← load grad (← index row cols col)))

end Linear

section Transcendental
variable [Scalar F]

/-- The factor `local` of the activation loop; the last branch is `kSilu`. -/
def activationFactor (operation : Operation) (input : F) : F :=
  match operation with
  | .relu => if less 0 input then 1 else 0
  | .sigmoid =>
      let sigmoid := 1 / (1 + exp (-input))
      sigmoid * (1 - sigmoid)
  | .tanh =>
      let hyperbolic := tanh input
      1 - hyperbolic * hyperbolic
  | .gelu =>
      half * (1 + erf (input * kInvSqrt2)) + input * exp (-half * input * input) * kInvSqrt2Pi
  | _ =>
      let sigmoid := 1 / (1 + exp (-input))
      sigmoid * (1 + input * (1 - sigmoid))

def activationKernel (operation : Operation) (input grad : List F) : Except Fault (List F) :=
  fill grad.length fun index => do
    return (← load grad index) * activationFactor operation (← load input index)

def swiGluGradientKernel (rows width half : Nat) (input grad : List F) :
    Except Fault (List F) :=
  loop rows (List.replicate input.length 0) fun values row => do
    let inputBase ← index row width 0
    let gradBase ← index row half 0
    loop half values fun values col => do
      let leftIndex := inputBase + col
      let rightIndex := inputBase + (half + col)
      let a ← load input leftIndex
      let b ← load input rightIndex
      let sigmoid := 1 / (1 + exp (-a))
      let silu := a * sigmoid
      let siluPrime := sigmoid * (1 + a * (1 - sigmoid))
      let upstreamValue ← load grad (gradBase + col)
      let values ← store values leftIndex (upstreamValue * b * siluPrime)
      store values rightIndex (upstreamValue * silu)

def mseGradientKernel (scale : F) (prediction target : List F) : Except Fault (List F) :=
  fill prediction.length fun index => do
    return scale * ((← load prediction index) - (← load target index))

def logitsRowMax (logits : List F) (row classes : Nat) : Except Fault F := do
  let first ← load logits (← index row classes 0)
  loop (classes - 1) first fun maxLogit i => do
    return maximum maxLogit (← load logits (← index row classes (i + 1)))

def logitsRowDenominator (logits : List F) (row classes : Nat) (maxLogit : F) : Except Fault F :=
  sumLoop classes fun col => do
    return exp ((← load logits (← index row classes col)) - maxLogit)

def crossEntropyLogitsKernel (batch classes : Nat) (scale : F) (logits target : List F) :
    Except Fault (List F) :=
  loop batch (List.replicate logits.length 0) fun values row => do
    let maxLogit ← logitsRowMax logits row classes
    let denominator ← logitsRowDenominator logits row classes maxLogit
    loop classes values fun values col => do
      let position ← index row classes col
      let probability := exp ((← load logits position) - maxLogit) / denominator
      store values position (scale * (probability - (← load target position)))

def crossEntropyTargetKernel (batch classes : Nat) (scale : F) (logits target : List F) :
    Except Fault (List F) :=
  loop batch (List.replicate target.length 0) fun values row => do
    let maxLogit ← logitsRowMax logits row classes
    let denominator ← logitsRowDenominator logits row classes maxLogit
    let logDenominator := log denominator + maxLogit
    loop classes values fun values col => do
      let position ← index row classes col
      store values position (-scale * ((← load logits position) - logDenominator))

end Transcendental

/-- `emit`: only parents that require grad receive their contribution. -/
def emit (parent contribution : TensorId) (out : List GradientContribution) :
    Mem F (List GradientContribution) := do
  if ← requiresGrad parent then do
    allocate
    return out ++ [{ parent := parent, gradient := contribution }]
  else return out

/-- `if (RequiresGrad(parent)) { ...loop...; MakeCpuTensor(parent.shape()); emit }`. -/
def contribute (parent : TensorId) (kernel : Except Fault (List F))
    (out : List GradientContribution) : Mem F (List GradientContribution) := do
  if ← requiresGrad parent then do
    allocate
    let values ← checked kernel
    let contribution ← makeCpuTensor (← deref parent).shape values
    emit parent contribution out
  else return out

/-- `node.parents.at(0)`. -/
def firstParent (node : GradNode) : Mem F TensorId :=
  match node.parents with
  | parent :: _ => pure parent
  | [] => throw (.exception "vector::at")

def copyToParents (upstream : TensorId) :
    List TensorId → List GradientContribution → Mem F (List GradientContribution)
  | [], out => pure out
  | parent :: parents, out => do
      if ← requiresGrad parent then do
        let contribution ← copyGradient upstream
        copyToParents upstream parents (← emit parent contribution out)
      else copyToParents upstream parents out

variable [Scalar F]

def applyIdentity (node : GradNode) (upstream : TensorId) : Mem F (List GradientContribution) := do
  let contribution ← copyGradient upstream
  emit (← firstParent node) contribution []

def applyReshape (node : GradNode) (upstream : TensorId) : Mem F (List GradientContribution) := do
  let parent ← firstParent node
  let contribution ← cloneWithShape upstream (← deref parent).shape
  emit parent contribution []

def applyTranspose (node : GradNode) (upstream : TensorId) :
    Mem F (List GradientContribution) := do
  let contribution ← transposeGradient upstream
  emit (← firstParent node) contribution []

def applyMultiply (node : GradNode) (grad : List F) : Mem F (List GradientContribution) := do
  match node.parents with
  | [leftParent, rightParent] => do
      let left ← readLogicalCpuValues leftParent "autograd_multiply"
      let right ← readLogicalCpuValues rightParent "autograd_multiply"
      failIf (grad.length ≠ left.length ∨ grad.length ≠ right.length)
        (internalError "autograd: multiply gradient size mismatch")
      let out ← contribute leftParent (productKernel grad right) []
      contribute rightParent (productKernel grad left) out
  | _ => throw (internalError "autograd: multiply node parent count mismatch")

def applySum (node : GradNode) (grad : List F) : Mem F (List GradientContribution) := do
  match grad with
  | [value] => do
      let parent ← firstParent node
      let contribution ← makeCpuFull (← deref parent).shape value
      emit parent contribution []
  | _ => throw (internalError "autograd: sum upstream gradient must be scalar")

def applyMatmul (node : GradNode) (upstream : TensorId) (grad : List F) :
    Mem F (List GradientContribution) := do
  match node.parents with
  | [leftParent, rightParent] => do
      let l ← deref leftParent
      let r ← deref rightParent
      let u ← deref upstream
      match l.shape.dimensions, r.shape.dimensions, u.shape.dimensions with
      | [m, k], [_, n], [_, _] => do
          let left ← readLogicalCpuValues leftParent "autograd_matmul"
          let right ← readLogicalCpuValues rightParent "autograd_matmul"
          let out ← contribute leftParent (matmulLeftKernel m k n grad right) []
          contribute rightParent (matmulRightKernel m k n grad left) out
      | _, _, _ => throw (internalError "autograd: matmul gradients require rank 2")
  | _ => throw (internalError "autograd: matmul node parent count mismatch")

def applyActivation (node : GradNode) (grad : List F) : Mem F (List GradientContribution) := do
  let parent ← firstParent node
  let input ← readLogicalCpuValues parent "autograd_activation"
  failIf (input.length ≠ grad.length)
    (internalError "autograd: activation gradient size mismatch")
  allocate
  let values ← checked (activationKernel node.operation input grad)
  let contribution ← makeCpuTensor (← deref parent).shape values
  emit parent contribution []

def applySwiGlu (node : GradNode) (grad : List F) : Mem F (List GradientContribution) := do
  match node.parents with
  | [parent] => do
      let p ← deref parent
      match p.shape.dimensions.getLast? with
      | none => throw (internalError "autograd: SwiGLU parent rank is invalid")
      | some width => do
          failIf (width = 0 ∨ width % 2 ≠ 0)
            (internalError "autograd: SwiGLU parent width is invalid")
          let half := width / 2
          let rows := p.numel / width
          failIf (grad.length ≠ rows * half)
            (internalError "autograd: SwiGLU gradient shape mismatch")
          let input ← readLogicalCpuValues parent "autograd_swiglu"
          allocate
          let values ← checked (swiGluGradientKernel rows width half input grad)
          let contribution ← makeCpuTensor p.shape values
          emit parent contribution []
  | _ => throw (internalError "autograd: SwiGLU node parent count mismatch")

def applyMse (node : GradNode) (grad : List F) : Mem F (List GradientContribution) := do
  match node.parents, grad with
  | [prediction, target], [value] => do
      let predictionValues ← readLogicalCpuValues prediction "autograd_mse"
      let targetValues ← readLogicalCpuValues target "autograd_mse"
      let scale := two * value / (predictionValues.length : F)
      let out ← contribute prediction
        (mseGradientKernel scale predictionValues targetValues) []
      contribute target (mseGradientKernel (-scale) predictionValues targetValues) out
  | _, _ => throw (internalError "autograd: invalid MSE node metadata")

def applyCrossEntropy (node : GradNode) (grad : List F) : Mem F (List GradientContribution) := do
  match node.parents, grad with
  | [logits, target], [value] => do
      let l ← deref logits
      let t ← deref target
      match l.shape.dimensions, sameShape l.shape t.shape with
      | [batch, classes], true => do
          let logitsValues ← readLogicalCpuValues logits "autograd_cross_entropy"
          let targetValues ← readLogicalCpuValues target "autograd_cross_entropy"
          let scale := value / (batch : F)
          let out ← contribute logits
            (crossEntropyLogitsKernel batch classes scale logitsValues targetValues) []
          contribute target
            (crossEntropyTargetKernel batch classes scale logitsValues targetValues) out
      | _, _ => throw (internalError "autograd: invalid cross entropy shapes")
  | _, _ => throw (internalError "autograd: invalid cross entropy metadata")

def applyBiasAdd (node : GradNode) (upstream : TensorId) (grad : List F) :
    Mem F (List GradientContribution) := do
  match node.parents with
  | [matrix, bias] => do
      let m ← deref matrix
      let b ← deref bias
      match m.shape.dimensions, b.shape.dimensions with
      | [rows, cols], [width] => do
          failIf (width ≠ cols ∨ grad.length ≠ rows * cols)
            (internalError "autograd: bias-add gradient shape mismatch")
          let out ← copyToParents upstream [matrix] []
          contribute bias (biasGradientKernel rows cols grad) out
      | _, _ => throw (internalError "autograd: bias-add shape metadata is invalid")
  | _ => throw (internalError "autograd: bias-add node parent count mismatch")

def applyNode (node : GradNode) (upstream : TensorId) : Mem F (List GradientContribution) := do
  validateSavedVersions node
  let grad ← readLogicalCpuValues upstream "autograd_backward"
  match node.operation with
  | .identity => applyIdentity node upstream
  | .reshape => applyReshape node upstream
  | .transpose2D => applyTranspose node upstream
  | .add => copyToParents upstream node.parents []
  | .multiply => applyMultiply node grad
  | .sum => applySum node grad
  | .matmul => applyMatmul node upstream grad
  | .relu | .sigmoid | .tanh | .gelu | .silu => applyActivation node grad
  | .swiGlu => applySwiGlu node grad
  | .mse => applyMse node grad
  | .crossEntropy => applyCrossEntropy node grad
  | .biasAdd => applyBiasAdd node upstream grad

structure Traversal where
  visited : List TensorId
  topology : List TensorId

/-- Depth-first post-order. `fuel` bounds the recursion depth. -/
def buildTopology : Nat → TensorId → Traversal → Mem F Traversal
  | 0, _, _ => throw .recursionLimit
  | fuel + 1, value, traversal => do
      allocate
      if value ∈ traversal.visited then return traversal
      let entered := { traversal with visited := value :: traversal.visited }
      let t ← deref value
      let explored ← match t.gradFn with
        | none => pure entered
        | some node => node.parents.foldlM (fun traversal parent =>
            buildTopology fuel parent traversal) entered
      allocate
      return { explored with topology := explored.topology ++ [value] }

def accumulateLeaf (leaf gradient : TensorId) : Mem F Unit := do
  let t ← deref leaf
  match t.autogradMeta with
  | none => throw .danglingReference
  | some autogradMeta => do
      let stored ← accumulate autogradMeta.gradient gradient
      setAutogradMeta leaf { autogradMeta with gradient := some stored }

/-- One application of a grad node: the contents of its parents at that moment
and the parents it contributed to. -/
structure Application (F : Type) where
  tensor : TensorId
  operands : List (List F)
  contributed : List TensorId

/-- The map from tensors to accumulated gradients, and the nodes applied so far.
Only the map is read. -/
structure Sweep (F : Type) where
  gradients : TensorId → Option TensorId
  applied : List (Application F)

def Sweep.put (sweep : Sweep F) (tensor gradient : TensorId) : Sweep F :=
  { sweep with gradients := Function.update sweep.gradients tensor (some gradient) }

def deliver (sweep : Sweep F) (contribution : GradientContribution) : Mem F (Sweep F) := do
  allocate
  let accumulated ← accumulate (sweep.gradients contribution.parent) contribution.gradient
  return sweep.put contribution.parent accumulated

def sweepStep (sweep : Sweep F) (value : TensorId) : Mem F (Sweep F) := do
  match sweep.gradients value with
  | none => return sweep
  | some upstream => do
      match (← deref value).autogradMeta with
      | none => return sweep
      | some autogradMeta => do
          if autogradMeta.requiresGrad && autogradMeta.isLeaf then accumulateLeaf value upstream
          match autogradMeta.gradFn with
          | none => return sweep
          | some node => do
              let operands := node.parents.map (← getHeap).contents
              let contributions ← applyNode node upstream
              let sweep ← contributions.foldlM deliver sweep
              return { sweep with applied := sweep.applied ++ [{
                tensor := value
                operands := operands
                contributed := contributions.map (·.parent) }] }

def validateTopology (topology : List TensorId) : Mem F Unit :=
  topology.forM fun value => do
    match (← deref value).gradFn with
    | none => pure ()
    | some node => validateSavedVersions node

/-- `Backward`, returning the record of applied nodes. -/
def backwardTrace (root : TensorId) : Mem F (List (Application F)) := do
  let r ← deref root
  failIf (r.numel ≠ 1)
    (invalidShape "tensor_backward: loss tensor must contain one value")
  failIf (!r.requiresGrad)
    (invalidArgument "tensor_backward: tensor does not require gradients")
  let fuel := (← getHeap).tensors.length
  let traversal ← buildTopology fuel root ⟨[], []⟩
  validateTopology traversal.topology
  let rootGradient ← makeCpuFull r.shape 1
  allocate
  let sweep ← traversal.topology.reverse.foldlM sweepStep
    (Sweep.put ⟨fun _ => none, []⟩ root rootGradient)
  return sweep.applied

def backward (root : TensorId) : Mem F Unit := do
  let _ ← backwardTrace root

end Tensora.Autograd
