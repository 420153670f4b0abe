import Tensora.Api.Calls
import Tensora.Api.Constructors
import Tensora.Lib.Lockstep

/-! The functions that produce one handle in the core build: with nothing interrupted, and an
output pointer to write to, each does what the call of its name does. -/
namespace Tensora.Api
open ProgramLogic

variable {F D W α β : Type}

section Core
variable [Scalar F] [Scalar D]

def deviceOf : Nat → Option Device
  | 1 => some .cpu
  | 2 => some .cuda
  | 3 => some .mps
  | 4 => some .xpu
  | 5 => some .hip
  | _ => none

def deviceCode : Device → Nat
  | .cpu => 1
  | .cuda => 2
  | .mps => 3
  | .xpu => 4
  | .hip => 5

/-- `ValidateShape` of an array of `rank` dimensions. -/
def validateArray (dims : Option (List Int)) (rank : Nat) : Native F D ShapeInfo :=
  match dims with
  | some dims => onMemory (validatedShape (dims.take rank))
  | none => do
      failIf (rank > kMaxTensorRank) (invalidShape ("shape: rank " ++ toString rank ++
        " exceeds Milestone 1 limit " ++ toString kMaxTensorRank))
      failIf (rank > 0) (invalidArgument "shape: dimensions pointer is null for nonzero rank")
      onMemory (validatedShape [])

def unaryOf : UnaryFunction → TensorId → Mem F TensorId
  | .transpose2D => dispatchedUnary CpuBackend.transpose2D
  | .sum => dispatchedUnary CpuBackend.sum
  | .cloneDetached => Training.cloneDetached
  | .withRequiresGrad requiresGrad => fun object => Training.withRequiresGrad object requiresGrad
  | .grad => Autograd.gradientSnapshot
  | .relu => Training.relu
  | .sigmoid => Training.sigmoid
  | .tanh => Training.tanhOf
  | .gelu => Training.gelu
  | .silu => Training.silu
  | .swiGlu => Training.swiGlu

def binaryOf (D : Type) [Scalar D] [Precision F D] :
    BinaryFunction → TensorId → TensorId → Mem F TensorId
  | .add => dispatched CpuBackend.add
  | .multiply => dispatched CpuBackend.multiply
  | .matmul => dispatched CpuBackend.matmul
  | .mseLoss => Training.mseLoss D
  | .crossEntropyLoss => Training.crossEntropyLoss D

def resolveModule (object : Nat) : Native F D Training.LinearState := do
  match (← get).modules[object]? with
  | some state => pure state
  | none => throw .danglingReference

/-- What `LinearCreate` does under its guard before it inserts. -/
def linearObject (inFeatures outFeatures : Int) (useBias : Bool) (weightShape : ShapeInfo) :
    Native F D Nat := do
  let bound : F := 1 / Scalar.sqrt (inFeatures.toNat : F)
  onMemory (allocateFloats weightShape.numel)
  let weightValues ← Training.drawUniform weightShape.numel bound
  let biasValues ←
    if useBias then do
      onMemory (allocateFloats outFeatures.toNat)
      Training.drawUniform outFeatures.toNat bound
    else pure []
  onMemory allocate
  let weight ← onMemory (Training.makeParameter weightShape weightValues)
  let bias ←
    if useBias then do
      let biasShape ← onMemory (validatedShape [outFeatures])
      some <$> onMemory (Training.makeParameter biasShape biasValues)
    else pure none
  Training.addModule {
    inFeatures := inFeatures.toNat
    outFeatures := outFeatures.toNat
    useBias := useBias
    training := true
    weight := weight
    bias := bias }

def parameterOf (state : Training.LinearState) (index : Nat) : Native F D TensorId :=
  match index, state.useBias, state.bias with
  | 0, _, _ => return state.weight
  | 1, true, some bias => return bias
  | _, _, _ => throw (invalidArgument "module_parameter_at: parameter index is out of range")

/-- What `CreateOptimizer` does under its guard before it inserts. -/
def optimizerObject (kind : OptimizerKind) (hyper : Hyperparameters D) (object : Nat)
    (moduleState : Training.LinearState) : Native F D Nat := do
  onMemory allocate
  onMemory allocate
  let sizes ← onMemory (moduleState.parameters.mapM fun parameter => do
    return (← deref parameter).numel)
  onMemory allocate
  onMemory allocate
  let firstMoment ← onMemory (Training.zeroMoments sizes)
  let secondMoment ←
    if kind = .sgd then pure [] else onMemory (Training.zeroMoments sizes)
  let optimizer := (← get).optimizers.length
  modify fun s => { s with optimizers := s.optimizers ++ [{
    kind := kind
    module := object
    hyper := hyper
    moments := { step := 0, firstMoment := firstMoment, secondMoment := secondMoment } }] }
  return optimizer

def collectOne (operation : String) (collected : List TensorId × List TensorId)
    (parameter : TensorId) : Native F D (List TensorId × List TensorId) := do
  let (seen, out) := collected
  onMemory allocate
  failIf (parameter ∈ seen) (invalidArgument (operation ++ ": duplicate parameter tensor"))
  if ← onMemory (Autograd.requiresGrad parameter) then do
    onMemory allocate
    return (parameter :: seen, out ++ [parameter])
  else return (parameter :: seen, out)

/-- What `nn_v2_optimizer::Create` does after the loop of `CollectParameters`. -/
def tensorOptimizerObject (kind : OptimizerKind) (hyper : Hyperparameters D)
    (parameters : List TensorId) : Native F D Nat := do
  failIf parameters.isEmpty (invalidArgument
    (kind.tensorOperation ++ ": no trainable parameters remain after filtering"))
  onMemory (allocationGuard kind.tensorOperation allocate)
  let (firstMoment, secondMoment) ←
    onMemory (Training.initializeCpuMoments parameters kind.tensorOperation)
  let optimizer := (← get).parameterOptimizers.length
  modify fun s => { s with parameterOptimizers := s.parameterOptimizers ++ [{
    kind := kind
    parameters := parameters
    hyper := hyper
    moments := { step := 0, firstMoment := firstMoment, secondMoment := secondMoment } }] }
  return optimizer

/-- `AllocationGuard`, which is `noexcept`. -/
def coreGuards (operation : String) : Stop → Stop
  | .failed .badAlloc => .failed (outOfMemory (operation ++ ": allocation failed"))
  | .failed .lengthError => .failed (outOfMemory (operation ++ ": allocation size is too large"))
  | .failed (.exception _) => .terminated
  | stop => stop

def coreBuild [Precision F D] : Build F D (Runtime F D) where
  validateShape := validateArray
  deviceFromCode := fun code =>
    match deviceOf code with
    | some device => pure device
    | none => throw (unsupported "device: unknown device kind")
  fromData := fun shape data =>
    match data with
    | some data => some <$> onMemory (CpuBackend.fromData shape data)
    | none => throw (invalidArgument "cpu storage: input data pointer is null")
  full := fun shape value => some <$> onMemory (CpuBackend.full shape value)
  transfer := fun object device deviceIndex =>
    some <$> onMemory (Training.transfer object device deviceIndex)
  reshape := fun object shape =>
    some <$> onMemory (dispatchedUnary (fun tensor => CpuBackend.reshape tensor shape) object)
  unary := fun function object => some <$> onMemory (unaryOf function object)
  binary := fun function left right => some <$> onMemory (binaryOf D function left right)
  validateLinear := fun inFeatures outFeatures => do
    Training.validateModuleDimensions inFeatures outFeatures
    onMemory (validatedShape [inFeatures, outFeatures])
  linear := fun inFeatures outFeatures useBias weightShape =>
    some <$> linearObject inFeatures outFeatures useBias weightShape
  forward := fun object input => do
    let state ← resolveModule object
    some <$> onMemory (Training.moduleForward state input)
  parameterAt := fun object index => do
    let state ← resolveModule object
    some <$> parameterOf state index
  bufferAt := fun object _ => do
    let _ ← resolveModule object
    throw (invalidArgument "module_buffer_at: module has no buffers")
  optimizerName := fun _ => "optimizer_create"
  validateOptimizer := Training.validateHyperparameters
  optimizer := fun kind hyper object => do
    let state ← resolveModule object
    some <$> optimizerObject kind hyper object state
  validateForTensors := Training.validateTensorHyperparameters
  collect := fun kind => collectOne kind.tensorOperation
  optimizerForTensors := fun kind hyper parameters =>
    some <$> tensorOptimizerObject kind hyper parameters
  session := fun _ _ _ _ =>
    throw (unsupported "onnx_session_create: ONNX Runtime backend is not enabled")
  allocateNode := do
    let allocator := (← get).memory.allocator
    modify fun s => { s with memory := { s.memory with
      allocator := { allocator with count := allocator.count + 1 } } }
    return !allocator.fails allocator.count
  guards := coreGuards

end Core

structure Apart (r r' : HandleRegistry) (s t : Runtime F D) : Prop where
  left : s.registry = r
  right : t = { s with registry := r' }

def Blind (p : Native F D α) : Prop := ∀ r r', Lockstep (Apart r r') p p

theorem Blind.bind {p : Native F D α} {f : α → Native F D β} (hp : Blind p)
    (hf : ∀ a, Blind (f a)) : Blind (p >>= f) :=
  fun r r' => (hp r r').bind fun a => hf a r r'

theorem blind_pure (a : α) : Blind (pure a : Native F D α) := fun _ _ => Lockstep.pure a

theorem blind_throw (failure : Failure) : Blind (throw failure : Native F D α) :=
  fun _ _ => Lockstep.throw failure

theorem blind_failIf (c : Prop) [Decidable c] (failure : Failure) :
    Blind (failIf c failure : Native F D Unit) := by
  unfold failIf
  split
  · exact blind_throw failure
  · exact blind_pure ()

theorem blind_ite {c : Prop} [Decidable c] {p q : Native F D α} (hp : Blind p) (hq : Blind q) :
    Blind (if c then p else q) := by
  split
  · exact hp
  · exact hq

theorem Blind.map {p : Native F D α} (hp : Blind p) (f : α → β) : Blind (f <$> p) := by
  rw [map_eq_pure_bind]
  exact hp.bind fun a => blind_pure (f a)

theorem blind_onMemory (program : Mem F α) : Blind (onMemory program : Native F D α) := by
  rintro r r' s _ ⟨hleft, rfl⟩
  unfold onMemory
  cases program s.memory with
  | ok a m => exact ⟨rfl, hleft, rfl⟩
  | error e m => exact ⟨rfl, hleft, rfl⟩

theorem blind_get_bind {f : Runtime F D → Native F D β} (hf : ∀ s, Blind (f s))
    (hread : ∀ s r, f { s with registry := r } = f s) : Blind (get >>= f) := by
  rintro r r' s t ⟨hleft, rfl⟩
  change Matched _ (f s s) (f { s with registry := r' } { s with registry := r' })
  rw [hread s r']
  exact hf s r r' s _ ⟨hleft, rfl⟩

theorem blind_modify {f : Runtime F D → Runtime F D} (hkeep : ∀ s, (f s).registry = s.registry)
    (hread : ∀ s r, f { s with registry := r } = { f s with registry := r }) :
    Blind (modify f : Native F D PUnit) := by
  intro r r'
  apply Lockstep.modify
  rintro s _ ⟨hleft, rfl⟩
  constructor
  · rw [hkeep, hleft]
  · exact hread s r'

theorem validateArray_length (dims : List Int) :
    (validateArray (some dims) dims.length : Native F D ShapeInfo) =
      onMemory (validatedShape dims) := by
  rw [validateArray, List.take_length]

theorem blind_moduleDimensions (inFeatures outFeatures : Int) :
    Blind (Training.validateModuleDimensions inFeatures outFeatures : Native F D Unit) :=
  (blind_failIf _ _).bind fun _ => (blind_failIf _ _).bind fun _ => blind_failIf _ _

theorem blind_resolveModule (object : Nat) :
    Blind (resolveModule object : Native F D Training.LinearState) := by
  unfold resolveModule
  apply blind_get_bind
  · intro s
    cases s.modules[object]? with
    | some state => exact blind_pure state
    | none => exact blind_throw _
  · exact fun _ _ => rfl

theorem lookupModule_resolve (handle : Nat) :
    (lookupModule handle : Native F D (Nat × Training.LinearState)) = (do
      let object ← onRegistry (HandleRegistry.lookup handle .module)
      let state ← resolveModule object
      return (object, state)) := by
  unfold lookupModule resolveModule
  apply bind_congr
  intro object
  rw [bind_assoc]
  apply bind_congr
  intro s
  cases s.modules[object]? with
  | some state => rfl
  | none => rfl

theorem moduleParameterAt_eq (module index : Nat) :
    (Training.moduleParameterAt module index : Native F D TensorId) = (do
      let object ← onRegistry (HandleRegistry.lookup module .module)
      let state ← resolveModule object
      parameterOf state index) := by
  unfold Training.moduleParameterAt
  simp only [lookupModule_resolve, bind_assoc, pure_bind]
  rfl

theorem resolved_guard (operation : String) (object : Nat)
    (f : Training.LinearState → Native F D α) :
    (resolveModule object >>= fun state => allocationGuard operation (f state)) =
      allocationGuard operation (resolveModule object >>= f) := by
  funext s
  have hresolve : (resolveModule object : Native F D Training.LinearState) s =
      match s.modules[object]? with
      | some state => .ok state s
      | none => .error .danglingReference s := by
    change (match s.modules[object]? with
      | some state => pure state
      | none => throw .danglingReference : Native F D Training.LinearState) s = _
    cases s.modules[object]? <;> rfl
  change EStateM.bind _ _ s = EStateM.tryCatch (EStateM.bind _ _) _ s
  unfold EStateM.tryCatch EStateM.bind
  rw [hresolve]
  cases s.modules[object]? with
  | some state => rfl
  | none => rfl

theorem createOptimizer_eq [Scalar F] [Scalar D] (module : Nat) (kind : OptimizerKind)
    (hyper : Hyperparameters D) :
    (Training.createOptimizer module kind hyper : Native F D Nat) = (do
      Training.validateHyperparameters kind hyper
      let object ← onRegistry (HandleRegistry.lookup module .module)
      allocationGuard kind.operation (do
        let optimizer ← (do
          let state ← resolveModule object
          optimizerObject kind hyper object state)
        insertHandle .optimizer optimizer)) := by
  unfold Training.createOptimizer
  rw [lookupModule_resolve]
  simp only [bind_assoc, pure_bind]
  apply bind_congr
  intro _
  apply bind_congr
  intro object
  rw [← resolved_guard]
  apply bind_congr
  intro state
  congr 1
  cases kind <;>
    simp only [optimizerObject, bind_assoc, pure_bind, if_true, reduceCtorEq, if_false]

theorem createForTensors_eq [Scalar F] [Scalar D] (handle : Nat) (rest : List Nat)
    (kind : OptimizerKind) (hyper : Hyperparameters D) :
    (Training.createForTensors (some (handle :: rest)) kind hyper : Native F D Nat) = (do
      Training.validateTensorHyperparameters kind hyper
      let (_, parameters) ← (handle :: rest).foldlM (fun collected handle => do
        let object ← lookupTensor handle
        collectOne kind.tensorOperation collected object) ([], [])
      let optimizer ← tensorOptimizerObject kind hyper parameters
      insertHandle .parameterOptimizer optimizer) := by
  have hcollect : Training.collectParameter kind.tensorOperation =
      fun collected handle => (do
        let object ← lookupTensor handle
        collectOne kind.tensorOperation collected object : Native F D _) := rfl
  unfold Training.createForTensors Training.collectParameters tensorOptimizerObject
  simp only [hcollect, bind_assoc, pure_bind]

theorem blind_drawUniform [Scalar F] (count : Nat) (bound : F) :
    Blind (Training.drawUniform count bound : Native F D (List F)) := by
  unfold Training.drawUniform
  apply blind_get_bind
  · intro s
    apply Blind.bind
    · exact blind_modify (fun _ => rfl) fun _ _ => rfl
    · exact fun _ => blind_pure _
  · exact fun _ _ => rfl

theorem blind_addModule (state : Training.LinearState) :
    Blind (Training.addModule state : Native F D Nat) := by
  unfold Training.addModule
  apply blind_get_bind
  · intro s
    apply Blind.bind
    · exact blind_modify (fun _ => rfl) fun _ _ => rfl
    · exact fun _ => blind_pure _
  · exact fun _ _ => rfl

theorem blind_linearObject [Scalar F] (inFeatures outFeatures : Int) (useBias : Bool)
    (weightShape : ShapeInfo) :
    Blind (linearObject inFeatures outFeatures useBias weightShape : Native F D Nat) := by
  unfold linearObject
  apply (blind_onMemory _).bind
  intro _
  apply (blind_drawUniform _ _).bind
  intro weightValues
  cases useBias with
  | false =>
      exact (blind_pure _).bind fun _ => (blind_onMemory _).bind fun _ =>
        (blind_onMemory _).bind fun _ => (blind_pure _).bind fun _ => blind_addModule _
  | true =>
      exact (blind_onMemory _).bind fun _ => (blind_drawUniform _ _).bind fun _ =>
        (blind_onMemory _).bind fun _ => (blind_onMemory _).bind fun _ =>
          (blind_onMemory _).bind fun _ => ((blind_onMemory _).map _).bind fun _ =>
            blind_addModule _

theorem blind_parameterOf (state : Training.LinearState) (index : Nat) :
    Blind (parameterOf state index : Native F D TensorId) := by
  unfold parameterOf
  split
  · exact blind_pure _
  · exact blind_pure _
  · exact blind_throw _

theorem blind_record {n : Runtime F D → Nat} {g : Runtime F D → Runtime F D}
    (hn : ∀ s r, n { s with registry := r } = n s) (hkeep : ∀ s, (g s).registry = s.registry)
    (hread : ∀ s r, g { s with registry := r } = { g s with registry := r }) :
    Blind (do
      let object := n (← get)
      modify g
      return object : Native F D Nat) := by
  apply blind_get_bind
  · exact fun s => (blind_modify hkeep hread).bind fun _ => blind_pure _
  · exact fun s r => by simp only [hn]

theorem blind_optimizerObject [Scalar F] (kind : OptimizerKind) (hyper : Hyperparameters D)
    (object : Nat) (state : Training.LinearState) :
    Blind (optimizerObject kind hyper object state : Native F D Nat) := by
  unfold optimizerObject
  apply (blind_onMemory _).bind
  intro _
  apply (blind_onMemory _).bind
  intro _
  apply (blind_onMemory _).bind
  intro sizes
  apply (blind_onMemory _).bind
  intro _
  apply (blind_onMemory _).bind
  intro _
  apply (blind_onMemory _).bind
  intro firstMoment
  apply blind_ite
  · exact (blind_pure _).bind fun _ =>
      blind_record (n := fun s => s.optimizers.length) (fun _ _ => rfl) (fun _ => rfl)
        fun _ _ => rfl
  · exact (blind_onMemory _).bind fun _ =>
      blind_record (n := fun s => s.optimizers.length) (fun _ _ => rfl) (fun _ => rfl)
        fun _ _ => rfl

theorem blind_collectOne (operation : String) (collected : List TensorId × List TensorId)
    (parameter : TensorId) : Blind (collectOne operation collected parameter : Native F D _) :=
  (blind_onMemory _).bind fun _ => (blind_failIf _ _).bind fun _ => (blind_onMemory _).bind
    fun _ => blind_ite ((blind_onMemory _).bind fun _ => blind_pure _) (blind_pure _)

theorem blind_tensorOptimizerObject [Scalar F] (kind : OptimizerKind) (hyper : Hyperparameters D)
    (parameters : List TensorId) :
    Blind (tensorOptimizerObject kind hyper parameters : Native F D Nat) :=
  (blind_failIf _ _).bind fun _ => (blind_onMemory _).bind fun _ => (blind_onMemory _).bind
    fun _ => blind_record (n := fun s => s.parameterOptimizers.length) (fun _ _ => rfl)
      (fun _ => rfl) fun _ _ => rfl

section Optimizers
variable [Scalar D]

theorem blind_hyperparameters (kind : OptimizerKind) (hyper : Hyperparameters D) :
    Blind (Training.validateHyperparameters kind hyper : Native F D Unit) := by
  apply (blind_failIf _ _).bind
  intro _
  apply (blind_failIf _ _).bind
  intro _
  cases kind with
  | sgd => exact blind_failIf _ _
  | adam => exact (blind_failIf _ _).bind fun _ => (blind_failIf _ _).bind fun _ => blind_failIf _ _
  | adamW =>
    exact (blind_failIf _ _).bind fun _ => (blind_failIf _ _).bind fun _ => blind_failIf _ _

theorem blind_tensorHyperparameters (kind : OptimizerKind) (hyper : Hyperparameters D) :
    Blind (Training.validateTensorHyperparameters kind hyper : Native F D Unit) := by
  apply (blind_failIf _ _).bind
  intro _
  apply (blind_failIf _ _).bind
  intro _
  cases kind with
  | sgd => exact blind_failIf _ _
  | adam => exact (blind_failIf _ _).bind fun _ => (blind_failIf _ _).bind fun _ => blind_failIf _ _
  | adamW =>
    exact (blind_failIf _ _).bind fun _ => (blind_failIf _ _).bind fun _ => blind_failIf _ _

end Optimizers

def AbiState.joined (a : AbiState (Runtime F D)) : Runtime F D :=
  { a.world with registry := a.registry }

def Ends (failure : Failure) (stop : Stop) : Prop :=
  stop = .failed failure ∨ stop = .terminated ∧ ∃ what, failure = .exception what

def Mirrors (x : Abi (Runtime F D) α) (p : Native F D α) : Prop :=
  ∀ a, match p a.joined with
    | .ok v s => ∃ a', x a = .ok v a' ∧ a'.joined = s
    | .error failure s => ∃ stop a', x a = .error stop a' ∧ Ends failure stop ∧ a'.joined = s

def Issues (x : Abi (Runtime F D) Unit) (p : Native F D Nat) : Prop :=
  ∀ a, match p a.joined with
    | .ok handle s => ∃ a', x a = .ok () a' ∧ a'.joined = s ∧ a'.out = some handle
    | .error failure s => ∃ stop a', x a = .error stop a' ∧ Ends failure stop ∧ a'.joined = s

def undisturbed : Interruptions W := fun _ => none

section Rules
variable {x : Abi (Runtime F D) α} {p : Native F D α}

theorem Mirrors.bind {f : α → Abi (Runtime F D) β} {g : α → Native F D β} (hx : Mirrors x p)
    (hf : ∀ v, Mirrors (f v) (g v)) : Mirrors (x >>= f) (p >>= g) := by
  intro a
  have hrun := hx a
  change match EStateM.bind p g a.joined with
    | .ok v s => ∃ a', EStateM.bind x f a = .ok v a' ∧ a'.joined = s
    | .error failure s =>
        ∃ stop a', EStateM.bind x f a = .error stop a' ∧ Ends failure stop ∧ a'.joined = s
  unfold EStateM.bind
  cases hp : p a.joined with
  | ok v s =>
      rw [hp] at hrun
      obtain ⟨a', ha', rfl⟩ := hrun
      rw [ha']
      exact hf v a'
  | error failure s =>
      rw [hp] at hrun
      obtain ⟨stop, a', ha', hends, rfl⟩ := hrun
      rw [ha']
      exact ⟨stop, a', rfl, hends, rfl⟩

theorem Mirrors.issues_map {γ : Type} {h : α → γ} {y : Abi (Runtime F D) γ}
    {f : γ → Abi (Runtime F D) Unit} {g : α → Native F D Nat} (hy : Mirrors y (h <$> p))
    (hf : ∀ v, Issues (f (h v)) (g v)) : Issues (y >>= f) (p >>= g) := by
  intro a
  have hrun := hy a
  change match EStateM.map h p a.joined with
    | .ok v s => ∃ a', y a = .ok v a' ∧ a'.joined = s
    | .error failure s =>
        ∃ stop a', y a = .error stop a' ∧ Ends failure stop ∧ a'.joined = s at hrun
  change match EStateM.bind p g a.joined with
    | .ok handle s => ∃ a', EStateM.bind y f a = .ok () a' ∧ a'.joined = s ∧ a'.out = some handle
    | .error failure s =>
        ∃ stop a', EStateM.bind y f a = .error stop a' ∧ Ends failure stop ∧ a'.joined = s
  unfold EStateM.map at hrun
  unfold EStateM.bind
  cases hp : p a.joined with
  | ok v s =>
      rw [hp] at hrun
      obtain ⟨a', ha', rfl⟩ := hrun
      rw [ha']
      exact hf v a'
  | error failure s =>
      rw [hp] at hrun
      obtain ⟨stop, a', ha', hends, rfl⟩ := hrun
      rw [ha']
      exact ⟨stop, a', rfl, hends, rfl⟩

theorem Mirrors.issues {f : α → Abi (Runtime F D) Unit} {g : α → Native F D Nat}
    (hx : Mirrors x p) (hf : ∀ v, Issues (f v) (g v)) : Issues (x >>= f) (p >>= g) := by
  apply Mirrors.issues_map (h := id)
  · rwa [id_map]
  · exact hf

theorem issues_refuse (failure : Failure) :
    Issues (refuse failure : Abi (Runtime F D) Unit) (throw failure) :=
  fun a => ⟨_, a, rfl, Or.inl rfl, rfl⟩

theorem mirrors_refuseIf (c : Prop) [Decidable c] (failure : Failure) :
    Mirrors (refuseIf c failure) (failIf c failure : Native F D Unit) := by
  intro a
  unfold refuseIf failIf
  by_cases hc : c
  · rw [if_pos hc, if_pos hc]
    exact ⟨_, a, rfl, Or.inl rfl, rfl⟩
  · rw [if_neg hc, if_neg hc]
    exact ⟨a, rfl, rfl⟩

theorem mirrors_pure (v : α) : Mirrors (pure v) (pure v : Native F D α) := fun a => ⟨a, rfl, rfl⟩

theorem mirrors_work (hp : Blind p) : Mirrors (step undisturbed p) p := by
  intro a
  have hrun := hp a.world.registry a.registry a.world a.joined ⟨rfl, rfl⟩
  unfold Matched at hrun
  simp only [step, undisturbed]
  cases hw : p a.world with
  | ok v w =>
      cases hj : p a.joined with
      | ok v' s =>
          rw [hw, hj] at hrun
          obtain ⟨rfl, -, hright⟩ := hrun
          exact ⟨_, rfl, hright.symm⟩
      | error e s =>
          rw [hw, hj] at hrun
          exact hrun.elim
  | error e w =>
      cases hj : p a.joined with
      | ok v' s =>
          rw [hw, hj] at hrun
          exact hrun.elim
      | error e' s =>
          rw [hw, hj] at hrun
          obtain ⟨rfl, -, hright⟩ := hrun
          exact ⟨_, _, rfl, Or.inl rfl, hright.symm⟩

theorem issues_object (hp : Blind p) {f : Option α → Abi (Runtime F D) Unit}
    {g : α → Native F D Nat} (hf : ∀ v, Issues (f (some v)) (g v)) :
    Issues (step undisturbed (some <$> p) >>= f) (p >>= g) :=
  (mirrors_work (hp.map some)).issues_map hf

theorem mirrors_atTable (program : RegistryM α) :
    Mirrors (atTable program) (onRegistry program : Native F D α) := by
  intro a
  have hjoined : a.joined.registry = a.registry := rfl
  unfold onRegistry atTable
  rw [hjoined]
  cases program a.registry with
  | ok v r => exact ⟨_, rfl, rfl⟩
  | error failure r => exact ⟨_, _, rfl, Or.inl rfl, rfl⟩

theorem mirrors_lookup (handle : Nat) (type : HandleType) :
    Mirrors (lookupObject undisturbed handle type)
      (onRegistry (HandleRegistry.lookup handle type) : Native F D Nat) :=
  (mirrors_work (blind_pure ())).bind fun _ => mirrors_atTable _

theorem mirrors_writeOut (handle : Nat) : Mirrors (writeOut handle) (pure () : Native F D Unit) :=
  fun _ => ⟨_, rfl, rfl⟩

theorem mirrors_foldlM {f : β → α → Abi (Runtime F D) β} {g : β → α → Native F D β}
    (hf : ∀ b v, Mirrors (f b v) (g b v)) (vs : List α) (b : β) :
    Mirrors (vs.foldlM f b) (vs.foldlM g b) := by
  induction vs generalizing b with
  | nil => exact mirrors_pure b
  | cons v vs ih =>
      rw [List.foldlM_cons, List.foldlM_cons]
      exact (hf b v).bind ih

theorem issues_written (program : RegistryM Nat) :
    Issues (atTable program >>= writeOut) (onRegistry program : Native F D Nat) := by
  intro a
  have hjoined : a.joined.registry = a.registry := rfl
  change match onRegistry program a.joined with
    | .ok handle s => ∃ a', EStateM.bind (atTable program) writeOut a = .ok () a' ∧ a'.joined = s ∧
        a'.out = some handle
    | .error failure s => ∃ stop a', EStateM.bind (atTable program) writeOut a = .error stop a' ∧
        Ends failure stop ∧ a'.joined = s
  unfold EStateM.bind onRegistry atTable
  rw [hjoined]
  cases program a.registry with
  | ok v r => exact ⟨_, rfl, rfl, rfl⟩
  | error failure r => exact ⟨_, _, rfl, Or.inl rfl, rfl⟩

/-- What `AllocationGuard` makes of a failure. -/
def guardFailure (operation : String) : Failure → Failure
  | .badAlloc => outOfMemory (operation ++ ": allocation failed")
  | .lengthError => outOfMemory (operation ++ ": allocation size is too large")
  | failure => failure

theorem allocationGuard_error (operation : String) {failure : Failure} {s s' : Runtime F D}
    (hp : p s = .error failure s') :
    allocationGuard operation p s = .error (guardFailure operation failure) s' := by
  change EStateM.tryCatch p _ s = _
  unfold EStateM.tryCatch
  rw [hp]
  cases failure <;> rfl

theorem Ends.guard {failure : Failure} {stop : Stop} (h : Ends failure stop) (operation : String) :
    Ends (guardFailure operation failure) (coreGuards operation stop) := by
  rcases h with rfl | ⟨rfl, what, rfl⟩
  · cases failure with
    | exception what => exact Or.inr ⟨rfl, what, rfl⟩
    | _ => exact Or.inl rfl
  · exact Or.inr ⟨rfl, what, rfl⟩

/-- The call returns the handle the function writes, where there is a pointer to write to. -/
def Answers (x : Abi (Runtime F D) Unit) (p : Native F D (Reply F)) : Prop :=
  ∀ a, a.out ≠ none → match p a.joined with
    | .ok reply s => ∃ handle a', reply = .handle handle ∧ x a = .ok () a' ∧ a'.joined = s ∧
        a'.out = some handle
    | .error failure s => ∃ stop a', x a = .error stop a' ∧ Ends failure stop ∧ a'.joined = s

theorem resetOut_eq {operation : String} {a : AbiState W} (hout : a.out ≠ none) :
    (resetOut operation : Abi W Unit) a = .ok () { a with out := some 0 } := by
  unfold resetOut refuseIf
  change EStateM.bind (ite (a.out = none) _ _ : Abi W Unit) _ a = _
  rw [if_neg hout]
  rfl

theorem answers_resetOut {operation : String} {program : Unit → Abi (Runtime F D) Unit}
    {q : Native F D Nat} (h : Issues (program ()) q) :
    Answers (resetOut operation >>= program) (Reply.handle <$> q) := by
  intro a hout
  have hrun : (resetOut operation >>= program) a = program () { a with out := some 0 } := by
    change EStateM.bind _ _ a = _
    unfold EStateM.bind
    rw [resetOut_eq hout]
  have hissued := h { a with out := some 0 }
  have hjoined : AbiState.joined { a with out := some 0 } = a.joined := rfl
  rw [hjoined] at hissued
  rw [hrun]
  change match (EStateM.map Reply.handle q a.joined :
      EStateM.Result Failure (Runtime F D) (Reply F)) with
    | .ok reply s => ∃ handle a', reply = .handle handle ∧
        program () { a with out := some 0 } = .ok () a' ∧ a'.joined = s ∧ a'.out = some handle
    | .error failure s => ∃ stop a', program () { a with out := some 0 } = .error stop a' ∧
        Ends failure stop ∧ a'.joined = s
  unfold EStateM.map
  cases hq : q a.joined with
  | ok handle s =>
      rw [hq] at hissued
      obtain ⟨a', hdone⟩ := hissued
      exact ⟨handle, a', rfl, hdone⟩
  | error failure s =>
      rw [hq] at hissued
      exact hissued

section Guarded
variable [Scalar F] [Scalar D] [Precision F D]

theorem issues_guarded {operation : String} {y : Abi (Runtime F D) Unit} {q : Native F D Nat}
    (h : Issues y q) : Issues (guarded coreBuild operation y) (allocationGuard operation q) := by
  intro a
  have hrun := h a
  cases hq : q a.joined with
  | ok handle s =>
      rw [hq] at hrun
      obtain ⟨a', ha', hjoined, hout⟩ := hrun
      have hguard : allocationGuard operation q a.joined = .ok handle s := by
        change EStateM.tryCatch q _ a.joined = _
        unfold EStateM.tryCatch
        rw [hq]
      rw [hguard]
      refine ⟨a', ?_, hjoined, hout⟩
      change EStateM.tryCatch y _ a = _
      unfold EStateM.tryCatch
      rw [ha']
  | error failure s =>
      rw [hq] at hrun
      obtain ⟨stop, a', ha', hends, hjoined⟩ := hrun
      rw [allocationGuard_error operation hq]
      refine ⟨_, a', ?_, hends.guard operation, hjoined⟩
      change EStateM.tryCatch y _ a = _
      unfold EStateM.tryCatch
      rw [ha']
      rfl

theorem issues_insertObject (type : HandleType) (object : Nat) :
    Issues (insertObject undisturbed coreBuild type (some object))
      (insertHandle type object : Native F D Nat) := by
  have hnode : (insertHandle type object : Native F D Nat) =
      (pure () : Native F D Unit) >>= fun _ =>
        (coreBuild (F := F) (D := D)).allocateNode >>= fun allocated =>
          onRegistry (HandleRegistry.insert type (some object) allocated) := rfl
  rw [hnode]
  unfold insertObject
  apply (mirrors_writeOut 0).issues
  intro _
  apply (mirrors_work ?_).issues
  · exact fun _ => issues_written _
  · apply blind_get_bind
    · intro s
      apply Blind.bind
      · exact blind_modify (fun _ => rfl) fun _ _ => rfl
      · exact fun _ => blind_pure _
    · exact fun _ _ => rfl

theorem issues_insertNull (type : HandleType) :
    Issues (insertObject undisturbed coreBuild type none) (throw nullObject : Native F D Nat) :=
  fun _ => ⟨_, _, rfl, Or.inl rfl, rfl⟩

theorem mirrors_collectAt (kind : OptimizerKind) (handles : List Nat) :
    Mirrors (collectAt undisturbed coreBuild kind handles)
      (handles.foldlM (fun collected handle => do
        let object ← lookupTensor handle
        collectOne kind.tensorOperation collected object) ([], []) : Native F D _) := by
  apply mirrors_foldlM
  intro collected handle
  exact (mirrors_lookup _ _).bind fun object => mirrors_work (blind_collectOne _ _ _)

/-- The function of the ABI that a call stands for, if it produces one handle. -/
def constructorOf : Call F D → Option (Constructor F D)
  | .tensorFromF32 data dims =>
      some (.tensorFromF32 (some data) data.length (some dims) dims.length)
  | .tensorFullF32 dims value => some (.tensorFullF32 (some dims) dims.length value)
  | .tensorToDevice tensor device deviceIndex =>
      some (.tensorToDevice tensor (deviceCode device) deviceIndex)
  | .tensorReshape tensor dims => some (.tensorReshape tensor (some dims) dims.length)
  | .tensorTranspose2D tensor => some (.unary .transpose2D tensor)
  | .tensorAdd left right => some (.binary .add left right)
  | .tensorMultiply left right => some (.binary .multiply left right)
  | .tensorSum tensor => some (.unary .sum tensor)
  | .tensorMatmul left right => some (.binary .matmul left right)
  | .tensorCloneDetached tensor => some (.unary .cloneDetached tensor)
  | .tensorWithRequiresGrad tensor requiresGrad =>
      some (.unary (.withRequiresGrad requiresGrad) tensor)
  | .tensorGrad tensor => some (.unary .grad tensor)
  | .tensorRelu tensor => some (.unary .relu tensor)
  | .tensorSigmoid tensor => some (.unary .sigmoid tensor)
  | .tensorTanh tensor => some (.unary .tanh tensor)
  | .tensorGelu tensor => some (.unary .gelu tensor)
  | .tensorSilu tensor => some (.unary .silu tensor)
  | .tensorSwiGlu tensor => some (.unary .swiGlu tensor)
  | .mseLoss prediction target => some (.binary .mseLoss prediction target)
  | .crossEntropyLoss logits oneHotTarget => some (.binary .crossEntropyLoss logits oneHotTarget)
  | .linearCreate inFeatures outFeatures useBias =>
      some (.linearCreate inFeatures outFeatures useBias)
  | .moduleForward module input => some (.moduleForward module input)
  | .moduleParameterAt module index => some (.moduleParameterAt module index)
  | .moduleBufferAt module index => some (.moduleBufferAt module index)
  | .optimizerCreate module kind hyper => some (.optimizerCreate module kind hyper)
  | .createForTensors parameters kind hyper => some (.createForTensors parameters kind hyper)
  | _ => none

theorem answers_unary (function : UnaryFunction) (tensor : Nat) :
    Answers (runUnaryAt undisturbed coreBuild function tensor)
      (runUnary tensor (unaryOf function) : Native F D (Reply F)) := by
  have hcall : (runUnary tensor (unaryOf function) : Native F D (Reply F)) = Reply.handle <$> (do
      let object ← lookupTensor tensor
      let result ← onMemory (unaryOf function object)
      insertTensor result) := by
    simp only [runUnary, map_eq_pure_bind, bind_assoc]
  rw [hcall]
  apply answers_resetOut
  apply (mirrors_lookup _ _).issues
  intro object
  exact issues_object (blind_onMemory _) (issues_insertObject .tensor)

theorem answers_binary (function : BinaryFunction) (left right : Nat) :
    Answers (runBinaryAt undisturbed coreBuild function left right)
      (runBinary left right (binaryOf D function) : Native F D (Reply F)) := by
  have hcall : (runBinary left right (binaryOf D function) : Native F D (Reply F)) =
      Reply.handle <$> (do
        let leftObject ← lookupTensor left
        let rightObject ← lookupTensor right
        let result ← onMemory (binaryOf D function leftObject rightObject)
        insertTensor result) := by
    simp only [runBinary, map_eq_pure_bind, bind_assoc]
  rw [hcall]
  apply answers_resetOut
  apply (mirrors_lookup _ _).issues
  intro leftObject
  apply (mirrors_lookup _ _).issues
  intro rightObject
  exact issues_object (blind_onMemory _) (issues_insertObject .tensor)

variable [Training.FloatBits F]

def insertFound : Option TensorId → Native F D Nat
  | some result => insertTensor result
  | none => throw nullObject

theorem answers_tensorFromF32 (data : List F) (dims : List Int) :
    Answers (construct undisturbed coreBuild
      (.tensorFromF32 (some data) data.length (some dims) dims.length))
      (exec (.tensorFromF32 data dims) : Native F D (Reply F)) := by
  have hcall : exec (.tensorFromF32 data dims) = Reply.handle <$> (do
      let shape ← onMemory (validatedShape dims)
      failIf (shape.numel ≠ data.length) (invalidArgument
        "tensor_from_f32: data length must equal validated shape element count")
      let result ← onMemory (CpuBackend.fromData shape data)
      insertTensor result : Native F D Nat) := by
    change tensorFromF32 data dims = _
    simp only [tensorFromF32, map_eq_pure_bind, bind_assoc]
  rw [hcall]
  apply answers_resetOut
  change Issues (step undisturbed (validateArray (some dims) dims.length) >>= _) _
  rw [validateArray_length]
  apply (mirrors_work (blind_onMemory _)).issues
  intro shape
  apply (mirrors_refuseIf _ _).issues
  intro _
  have hdata : (refuseIf (data.length > 0 ∧ (some data).isNone)
      (invalidArgument "tensor_from_f32: input data pointer is null") :
        Abi (Runtime F D) Unit) = pure () := if_neg (by simp)
  rw [hdata]
  exact issues_object (blind_onMemory _) (issues_insertObject .tensor)

theorem answers_tensorFullF32 (dims : List Int) (value : F) :
    Answers (construct undisturbed coreBuild (.tensorFullF32 (some dims) dims.length value))
      (exec (.tensorFullF32 dims value) : Native F D (Reply F)) := by
  have hcall : exec (.tensorFullF32 dims value) = Reply.handle <$> (do
      let shape ← onMemory (validatedShape dims)
      let result ← onMemory (CpuBackend.full shape value)
      insertTensor result : Native F D Nat) := by
    change tensorFullF32 dims value = _
    simp only [tensorFullF32, map_eq_pure_bind, bind_assoc]
  rw [hcall]
  apply answers_resetOut
  change Issues (step undisturbed (validateArray (some dims) dims.length) >>= _) _
  rw [validateArray_length]
  apply (mirrors_work (blind_onMemory _)).issues
  intro shape
  exact issues_object (blind_onMemory _) (issues_insertObject .tensor)

theorem answers_tensorToDevice (tensor : Nat) (device : Device) (deviceIndex : Int) :
    Answers (construct undisturbed coreBuild
      (.tensorToDevice tensor (deviceCode device) deviceIndex))
      (exec (.tensorToDevice tensor device deviceIndex) : Native F D (Reply F)) := by
  have hcall : exec (.tensorToDevice tensor device deviceIndex) = Reply.handle <$> (
      (pure device : Native F D Device) >>= fun device => do
        let object ← lookupTensor tensor
        let result ← onMemory (Training.transfer object device deviceIndex)
        insertTensor result : Native F D Nat) := by
    change runUnary tensor (fun object => Training.transfer object device deviceIndex) = _
    simp only [runUnary, map_eq_pure_bind, bind_assoc, pure_bind]
  rw [hcall]
  apply answers_resetOut
  have hdevice : (coreBuild (F := F) (D := D)).deviceFromCode (deviceCode device) =
      pure device := by
    cases device <;> rfl
  rw [hdevice]
  apply (mirrors_work (blind_pure _)).issues
  intro target
  apply (mirrors_lookup _ _).issues
  intro object
  exact issues_object (blind_onMemory _) (issues_insertObject .tensor)

theorem answers_tensorReshape (tensor : Nat) (dims : List Int) :
    Answers (construct undisturbed coreBuild (.tensorReshape tensor (some dims) dims.length))
      (exec (.tensorReshape tensor dims) : Native F D (Reply F)) := by
  have hcall : exec (.tensorReshape tensor dims) = Reply.handle <$> (do
      let shape ← onMemory (validatedShape dims)
      let object ← lookupTensor tensor
      let result ← onMemory (dispatchedUnary (fun t => CpuBackend.reshape t shape) object)
      insertTensor result : Native F D Nat) := by
    change tensorReshape tensor dims = _
    simp only [tensorReshape, runUnary, map_eq_pure_bind, bind_assoc]
  rw [hcall]
  apply answers_resetOut
  change Issues (step undisturbed (validateArray (some dims) dims.length) >>= _) _
  rw [validateArray_length]
  apply (mirrors_work (blind_onMemory _)).issues
  intro shape
  apply (mirrors_lookup _ _).issues
  intro object
  exact issues_object (blind_onMemory _) (issues_insertObject .tensor)

theorem answers_linearCreate (inFeatures outFeatures : Int) (useBias : Bool) :
    Answers (construct undisturbed coreBuild (.linearCreate inFeatures outFeatures useBias))
      (exec (.linearCreate inFeatures outFeatures useBias) : Native F D (Reply F)) := by
  have hcall : exec (.linearCreate inFeatures outFeatures useBias) = Reply.handle <$> (do
      let weightShape ← (do
        Training.validateModuleDimensions inFeatures outFeatures
        onMemory (validatedShape [inFeatures, outFeatures]))
      allocationGuard "linear_create" (do
        let object ← linearObject inFeatures outFeatures useBias weightShape
        insertHandle .module object) : Native F D Nat) := by
    change Training.linearCreate inFeatures outFeatures useBias >>=
      (fun handle => pure (Reply.handle handle)) = _
    cases useBias <;>
      simp only [Training.linearCreate, linearObject, map_eq_pure_bind, bind_assoc,
        if_true, Bool.false_eq_true, if_false, pure_bind]
  rw [hcall]
  apply answers_resetOut
  apply (mirrors_work ?_).issues
  · intro weightShape
    apply issues_guarded
    exact issues_object (blind_linearObject _ _ _ _) (issues_insertObject .module)
  · exact (blind_moduleDimensions _ _).bind fun _ => blind_onMemory _

theorem answers_moduleForward (module input : Nat) :
    Answers (construct undisturbed coreBuild (.moduleForward module input))
      (exec (.moduleForward module input) : Native F D (Reply F)) := by
  have hcall : exec (.moduleForward module input) = Reply.handle <$> (do
      let inputObject ← lookupTensor input
      let object ← onRegistry (HandleRegistry.lookup module .module)
      let result ← (do
        let state ← resolveModule object
        onMemory (Training.moduleForward state inputObject))
      insertTensor result : Native F D Nat) := by
    change lookupTensor input >>=
      (fun object => fetchAndInsert (Training.forward module object)) = _
    simp only [fetchAndInsert, Training.forward, lookupModule_resolve, map_eq_pure_bind,
      bind_assoc, pure_bind]
  rw [hcall]
  apply answers_resetOut
  apply (mirrors_lookup _ _).issues
  intro inputObject
  apply (mirrors_lookup _ _).issues
  intro object
  change Issues (step undisturbed (resolveModule object >>= fun state =>
    some <$> onMemory (Training.moduleForward state inputObject)) >>= _) _
  rw [← map_bind]
  exact issues_object ((blind_resolveModule _).bind fun _ => blind_onMemory _)
    (issues_insertObject .tensor)

theorem answers_moduleParameterAt (module index : Nat) :
    Answers (construct undisturbed coreBuild (.moduleParameterAt module index))
      (exec (.moduleParameterAt module index) : Native F D (Reply F)) := by
  have hcall : exec (.moduleParameterAt module index) = Reply.handle <$> (do
      let object ← onRegistry (HandleRegistry.lookup module .module)
      let result ← (do
        let state ← resolveModule object
        parameterOf state index)
      insertTensor result : Native F D Nat) := by
    change fetchAndInsert (Training.moduleParameterAt module index) = _
    simp only [fetchAndInsert, moduleParameterAt_eq, map_eq_pure_bind, bind_assoc]
  rw [hcall]
  apply answers_resetOut
  apply (mirrors_lookup _ _).issues
  intro object
  change Issues (step undisturbed (resolveModule object >>= fun state =>
    some <$> parameterOf state index) >>= _) _
  rw [← map_bind]
  exact issues_object ((blind_resolveModule _).bind fun _ => blind_parameterOf _ _)
    (issues_insertObject .tensor)

theorem answers_moduleBufferAt (module index : Nat) :
    Answers (construct undisturbed coreBuild (.moduleBufferAt module index))
      (exec (.moduleBufferAt module index) : Native F D (Reply F)) := by
  have hcall : exec (.moduleBufferAt module index) = Reply.handle <$> (do
      let object ← onRegistry (HandleRegistry.lookup module .module)
      let result ← (do
        let _ ← resolveModule object
        throw (invalidArgument "module_buffer_at: module has no buffers") :
          Native F D (Option TensorId))
      insertFound result : Native F D Nat) := by
    change fetchAndInsert (Training.moduleBufferAt module index) = _
    simp only [fetchAndInsert, Training.moduleBufferAt, lookupModule_resolve,
      map_eq_pure_bind, bind_assoc, pure_bind]
    rfl
  rw [hcall]
  apply answers_resetOut
  apply (mirrors_lookup _ _).issues
  intro object
  apply (mirrors_work ((blind_resolveModule _).bind fun _ => blind_throw _)).issues
  intro result
  cases result with
  | none => exact issues_insertNull .tensor
  | some result => exact issues_insertObject .tensor result

theorem answers_optimizerCreate (module : Nat) (kind : OptimizerKind) (hyper : Hyperparameters D) :
    Answers (construct undisturbed coreBuild (.optimizerCreate module kind hyper))
      (exec (.optimizerCreate module kind hyper) : Native F D (Reply F)) := by
  have hcall : exec (.optimizerCreate module kind hyper) = Reply.handle <$>
      (Training.createOptimizer module kind hyper : Native F D Nat) := by
    rw [map_eq_pure_bind]
    rfl
  rw [hcall, createOptimizer_eq]
  apply answers_resetOut
  apply (mirrors_work (blind_hyperparameters kind hyper)).issues
  intro _
  apply (mirrors_lookup _ _).issues
  intro object
  apply issues_guarded
  change Issues (step undisturbed (resolveModule object >>= fun state =>
    some <$> optimizerObject kind hyper object state) >>= _) _
  rw [← map_bind]
  exact issues_object ((blind_resolveModule _).bind fun _ => blind_optimizerObject _ _ _ _)
    (issues_insertObject .optimizer)

theorem answers_createForTensors (parameters : Option (List Nat)) (kind : OptimizerKind)
    (hyper : Hyperparameters D) :
    Answers (construct undisturbed coreBuild (.createForTensors parameters kind hyper))
      (exec (.createForTensors parameters kind hyper) : Native F D (Reply F)) := by
  have hcall : exec (.createForTensors parameters kind hyper) = Reply.handle <$>
      (Training.createForTensors parameters kind hyper : Native F D Nat) := by
    rw [map_eq_pure_bind]
    rfl
  rw [hcall]
  cases parameters with
  | none =>
      apply answers_resetOut
      apply (mirrors_work (blind_tensorHyperparameters kind hyper)).issues
      exact fun _ => issues_refuse _
  | some handles =>
      cases handles with
      | nil =>
          apply answers_resetOut
          apply (mirrors_work (blind_tensorHyperparameters kind hyper)).issues
          exact fun _ => issues_refuse _
      | cons handle rest =>
          rw [createForTensors_eq]
          apply answers_resetOut
          apply (mirrors_work (blind_tensorHyperparameters kind hyper)).issues
          intro _
          apply Mirrors.issues (x := collectAt undisturbed coreBuild kind (handle :: rest))
          · exact mirrors_collectAt _ _
          · rintro ⟨_, collected⟩
            exact issues_object (blind_tensorOptimizerObject _ _ _)
              (issues_insertObject .parameterOptimizer)

/-- With nothing interrupted and an output pointer, every function that produces one handle
does what the call it stands for does. -/
theorem construct_exec {call : Call F D} {constructor : Constructor F D}
    (h : constructorOf call = some constructor) :
    Answers (construct undisturbed coreBuild constructor) (exec call) := by
  cases call with
  | tensorFromF32 data dims =>
      cases h
      exact answers_tensorFromF32 data dims
  | tensorFullF32 dims value =>
      cases h
      exact answers_tensorFullF32 dims value
  | tensorToDevice tensor device deviceIndex =>
      cases h
      exact answers_tensorToDevice tensor device deviceIndex
  | tensorReshape tensor dims =>
      cases h
      exact answers_tensorReshape tensor dims
  | tensorWithRequiresGrad tensor requiresGrad =>
      cases h
      exact answers_unary (.withRequiresGrad requiresGrad) tensor
  | tensorTranspose2D tensor =>
      cases h
      exact answers_unary .transpose2D tensor
  | tensorSum tensor =>
      cases h
      exact answers_unary .sum tensor
  | tensorCloneDetached tensor =>
      cases h
      exact answers_unary .cloneDetached tensor
  | tensorGrad tensor =>
      cases h
      exact answers_unary .grad tensor
  | tensorRelu tensor =>
      cases h
      exact answers_unary .relu tensor
  | tensorSigmoid tensor =>
      cases h
      exact answers_unary .sigmoid tensor
  | tensorTanh tensor =>
      cases h
      exact answers_unary .tanh tensor
  | tensorGelu tensor =>
      cases h
      exact answers_unary .gelu tensor
  | tensorSilu tensor =>
      cases h
      exact answers_unary .silu tensor
  | tensorSwiGlu tensor =>
      cases h
      exact answers_unary .swiGlu tensor
  | tensorAdd left right =>
      cases h
      exact answers_binary .add left right
  | tensorMultiply left right =>
      cases h
      exact answers_binary .multiply left right
  | tensorMatmul left right =>
      cases h
      exact answers_binary .matmul left right
  | mseLoss left right =>
      cases h
      exact answers_binary .mseLoss left right
  | crossEntropyLoss left right =>
      cases h
      exact answers_binary .crossEntropyLoss left right
  | linearCreate inFeatures outFeatures useBias =>
      cases h
      exact answers_linearCreate inFeatures outFeatures useBias
  | moduleForward module input =>
      cases h
      exact answers_moduleForward module input
  | moduleParameterAt module index =>
      cases h
      exact answers_moduleParameterAt module index
  | moduleBufferAt module index =>
      cases h
      exact answers_moduleBufferAt module index
  | optimizerCreate module kind hyper =>
      cases h
      exact answers_optimizerCreate module kind hyper
  | createForTensors parameters kind hyper =>
      cases h
      exact answers_createForTensors parameters kind hyper
  | _ => cases h

end Guarded

end Rules

end Tensora.Api
