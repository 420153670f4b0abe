import Tensora.Autograd.FormedGraph
import Tensora.Tensor.Oblivious
import Tensora.Api.Calls

/-! The programs of the calls are formed from the operations of the memory, and every call
is oblivious: from one state, the same allocations failing, it does the same. -/
namespace Tensora
open Autograd

variable {F D : Type}

namespace CpuBackend

theorem formed_makeTensor (shape : ShapeInfo) (storage : List F) :
    Formed (makeTensor shape storage) := by
  refine formed_allocate.bind fun _ => ?_
  split
  · exact .throw _
  · exact (formed_failIf _ _).bind fun _ =>
      formed_allocationGuard _ (formed_makeSharedTensor _ _)

theorem formed_makeView (shape : ShapeInfo) (source : TensorId) :
    Formed (makeView shape source : Mem F TensorId) :=
  (formed_deref source).bind fun _ => formed_allocationGuard _
    (formed_allocate.bind fun _ => .read (fun _ =>
      (formed_modifyHeap _ fun _ => rfl).bind fun _ => .pure _) fun _ => rfl)

theorem formed_ensureCpuFloat32 (t : Tensor) (operation : String) :
    Formed (ensureCpuFloat32 t operation : Mem F Unit) :=
  (formed_failIf _ _).bind fun _ => formed_failIf _ _

theorem formed_logicalValues (tensor : TensorId) (operation : String) :
    Formed (logicalValues tensor operation : Mem F (List F)) :=
  (formed_deref tensor).bind fun t => (formed_ensureCpuFloat32 t operation).bind fun _ =>
    (formed_allocationGuard operation (formed_allocateFloats t.numel)).bind fun _ =>
      formed_copyToHostF32 t t.numel

theorem formed_fromData (shape : ShapeInfo) (data : List F) : Formed (fromData shape data) :=
  (formed_cpuStorageFromData _ _).bind fun _ => formed_makeTensor _ _

theorem formed_full (shape : ShapeInfo) (value : F) : Formed (full shape value) :=
  (formed_cpuStorageFilled _ _).bind fun _ => formed_makeTensor _ _

theorem formed_reshape (tensor : TensorId) (shape : ShapeInfo) :
    Formed (reshape tensor shape : Mem F TensorId) := by
  refine (formed_deref tensor).bind fun t => (formed_ensureCpuFloat32 t _).bind fun _ =>
    (formed_failIf _ _).bind fun _ => .ite (fun _ => ?_) fun _ => ?_
  · exact (formed_makeView _ _).bind fun _ => (formed_recordUnary _ _ _).bind fun _ => .pure _
  · exact (formed_logicalValues _ _).bind fun _ => (formed_cpuStorageFromData _ _).bind
      fun _ => (formed_makeTensor _ _).bind fun _ =>
        (formed_recordUnary _ _ _).bind fun _ => .pure _

theorem formed_transpose2D (tensor : TensorId) :
    Formed (transpose2D tensor : Mem F TensorId) :=
  (formed_deref tensor).bind fun t => (formed_ensureCpuFloat32 t _).bind fun _ =>
    (formed_failIf _ _).bind fun _ => (formed_makeView _ _).bind fun _ =>
      (formed_recordUnary _ _ _).bind fun _ => .pure _

theorem formed_elementwise (name : String) (operation : Operation) (combine : F → F → F)
    (left right : TensorId) : Formed (elementwise name operation combine left right) :=
  (formed_deref left).bind fun l => (formed_deref right).bind fun r =>
    (formed_ensureCpuFloat32 l name).bind fun _ => (formed_ensureCpuFloat32 r name).bind
      fun _ => (formed_failIf _ _).bind fun _ => (formed_logicalValues left name).bind
        fun _ => (formed_logicalValues right name).bind fun _ =>
          (formed_allocationGuard _ (formed_allocateFloats _)).bind fun _ =>
            (formed_checked _).bind fun _ => (formed_makeTensor _ _).bind fun _ =>
              (formed_recordBinary _ _ _ _).bind fun _ => .pure _

section Arithmetic
variable [Arith F]

theorem formed_sum (tensor : TensorId) : Formed (sum tensor : Mem F TensorId) :=
  (formed_deref tensor).bind fun t => (formed_ensureCpuFloat32 t _).bind fun _ =>
    (formed_logicalValues tensor _).bind fun _ => (formed_validatedShape _).bind fun _ =>
      (formed_cpuStorageFilled _ _).bind fun _ => (formed_makeTensor _ _).bind fun _ =>
        (formed_recordUnary _ _ _).bind fun _ => .pure _

theorem formed_matmul (left right : TensorId) :
    Formed (matmul left right : Mem F TensorId) := by
  refine (formed_deref left).bind fun l => (formed_deref right).bind fun r =>
    (formed_ensureCpuFloat32 l _).bind fun _ => (formed_ensureCpuFloat32 r _).bind fun _ => ?_
  split
  · exact (formed_failIf _ _).bind fun _ => (formed_logicalValues left _).bind fun _ =>
      (formed_logicalValues right _).bind fun _ => (formed_validatedShape _).bind fun _ =>
        (formed_allocationGuard _ (formed_allocateFloats _)).bind fun _ =>
          (formed_checked _).bind fun _ => (formed_makeTensor _ _).bind fun _ =>
            (formed_recordBinary _ _ _ _).bind fun _ => .pure _
  · exact .throw _

end Arithmetic

end CpuBackend

namespace Training

theorem formed_transfer (tensor : TensorId) (device : Device) (deviceIndex : Int) :
    Formed (transfer tensor device deviceIndex : Mem F TensorId) :=
  (formed_failIf _ _).bind fun _ => (formed_failIf _ _).bind fun _ =>
    (formed_failIf _ _).bind fun _ => (formed_cloneDetached tensor).bind fun _ =>
      (formed_recordUnary _ _ _).bind fun _ => .pure _

section Activations
variable [Scalar F]

theorem formed_makeActivation (tensor : TensorId) (operation : Operation) :
    Formed (makeActivation tensor operation : Mem F TensorId) := by
  refine (formed_cpuValues tensor _).bind fun _ => formed_allocate.bind fun _ => ?_
  split
  · exact .throw _
  · exact (formed_checked _).bind fun _ => (formed_deref tensor).bind fun _ =>
      (formed_makeCpuTensor _ _).bind fun _ => (formed_recordUnary _ _ _).bind fun _ =>
        .pure _

omit [Scalar F] in
theorem formed_cpuUnary (tensor : TensorId) (operation : Operation) (operationName : String)
    (forward : F → F) : Formed (cpuUnary tensor operation operationName forward) :=
  (formed_deref tensor).bind fun t => (Autograd.formed_ensureCpuFloat32 t _).bind fun _ =>
    (formed_readLogicalCpuValues tensor _).bind fun _ =>
      (formed_allocationGuard _ formed_allocate).bind fun _ =>
        (formed_checked _).bind fun _ => (formed_deref tensor).bind fun _ =>
          (formed_makeCpuTensor _ _).bind fun _ => (formed_recordUnary _ _ _).bind fun _ =>
            .pure _

theorem formed_swiGlu (tensor : TensorId) : Formed (swiGlu tensor : Mem F TensorId) := by
  refine (formed_deref tensor).bind fun t =>
    (Autograd.formed_ensureCpuFloat32 t _).bind fun _ => ?_
  split
  · exact .throw _
  · exact (formed_failIf _ _).bind fun _ => (formed_validatedShape _).bind fun _ =>
      (formed_readLogicalCpuValues tensor _).bind fun _ =>
        (formed_allocationGuard _ formed_allocate).bind fun _ =>
          (formed_checked _).bind fun _ => (formed_makeCpuTensor _ _).bind fun _ =>
            (formed_recordUnary _ _ _).bind fun _ => .pure _

end Activations

section Losses
variable [Scalar F] [Scalar D] [Precision F D]

omit [Scalar F] in
theorem formed_makeScalar (value : F) : Formed (makeScalar value) :=
  (formed_validatedShape _).bind fun _ => formed_allocate.bind fun _ =>
    formed_makeCpuTensor _ _

omit [Scalar F] in
variable (D) in
theorem formed_mseLoss (prediction target : TensorId) :
    Formed (mseLoss D prediction target : Mem F TensorId) :=
  (formed_deref prediction).bind fun p => (formed_deref target).bind fun t =>
    (Autograd.formed_ensureCpuFloat32 p _).bind fun _ =>
      (Autograd.formed_ensureCpuFloat32 t _).bind fun _ => (formed_failIf _ _).bind fun _ =>
        (formed_cpuValues prediction _).bind fun _ => (formed_cpuValues target _).bind fun _ =>
          (formed_checked _).bind fun _ => (formed_makeScalar _).bind fun _ =>
            (formed_recordBinary _ _ _ _).bind fun _ => .pure _

variable (D) in
theorem formed_crossEntropyLoss (logits target : TensorId) :
    Formed (crossEntropyLoss D logits target : Mem F TensorId) := by
  refine (formed_deref logits).bind fun l => (formed_deref target).bind fun t =>
    (Autograd.formed_ensureCpuFloat32 l _).bind fun _ =>
      (Autograd.formed_ensureCpuFloat32 t _).bind fun _ =>
        (formed_failIf _ _).bind fun _ => ?_
  split
  · exact (formed_cpuValues logits _).bind fun _ => (formed_cpuValues target _).bind fun _ =>
      (formed_checked _).bind fun _ => (formed_makeScalar _).bind fun _ =>
        (formed_recordBinary _ _ _ _).bind fun _ => .pure _
  · exact .throw _

end Losses

section Linear
variable [Arith F]

theorem formed_addBias (matrix bias : TensorId) :
    Formed (addBias matrix bias : Mem F TensorId) := by
  refine (formed_deref matrix).bind fun m => (formed_deref bias).bind fun b => ?_
  split
  · exact (formed_failIf _ _).bind fun _ => (formed_cpuValues matrix _).bind fun _ =>
      (formed_cpuValues bias _).bind fun _ => formed_allocate.bind fun _ =>
        (formed_checked _).bind fun _ => (formed_makeCpuTensor _ _).bind fun _ =>
          (formed_recordBinary _ _ _ _).bind fun _ => .pure _
  · exact .throw _

theorem formed_moduleForward (state : LinearState) (input : TensorId) :
    Formed (moduleForward state input : Mem F TensorId) := by
  have hvalidate : Formed (validateModuleInput state input : Mem F Unit) := by
    refine (formed_deref input).bind fun t =>
      (Autograd.formed_ensureCpuFloat32 t _).bind fun _ => ?_
    split
    · exact formed_failIf _ _
    · exact .throw _
  refine hvalidate.bind fun _ => (CpuBackend.formed_matmul _ _).bind fun _ => ?_
  split
  · exact .pure _
  · exact formed_addBias _ _
  · exact .throw _

end Linear

theorem oblivious_lookupTensor (handle : Nat) :
    Oblivious (lookupTensor handle : Native F D TensorId) := oblivious_onRegistry _

theorem oblivious_lookupModule (handle : Nat) : Oblivious (lookupModule handle : Native F D _) := by
  refine (oblivious_onRegistry _).bind fun object => .get_bind (fun s => ?_) fun _ _ => rfl
  split
  · exact .pure _
  · exact .throw _

theorem oblivious_lookupOptimizer (handle : Nat) :
    Oblivious (lookupOptimizer handle : Native F D _) := by
  refine (oblivious_onRegistry _).bind fun object => .get_bind (fun s => ?_) fun _ _ => rfl
  split
  · exact .pure _
  · exact .throw _

theorem oblivious_lookupParameterOptimizer (handle : Nat) :
    Oblivious (lookupParameterOptimizer handle : Native F D _) := by
  refine (oblivious_onRegistry _).bind fun object => .get_bind (fun s => ?_) fun _ _ => rfl
  split
  · exact .pure _
  · exact .throw _

theorem formed_makeParameter (shape : ShapeInfo) (values : List F) :
    Formed (makeParameter shape values) :=
  (formed_makeCpuTensor _ _).bind fun _ => formed_allocate.bind fun _ =>
    (formed_setAutogradMeta _ _).bind fun _ => .pure _

theorem oblivious_drawUniform [Scalar F] (count : Nat) (bound : F) :
    Oblivious (drawUniform count bound : Native F D (List F)) :=
  .get_bind (fun _ => (Oblivious.modify fun _ _ => rfl).bind fun _ => .pure _) fun _ _ => rfl

theorem oblivious_addModule (state : LinearState) :
    Oblivious (addModule state : Native F D Nat) :=
  .get_bind (fun _ => (Oblivious.modify fun _ _ => rfl).bind fun _ => .pure _) fun _ _ => rfl

theorem oblivious_linearCreate [Scalar F] (inFeatures outFeatures : Int) (useBias : Bool) :
    Oblivious (linearCreate inFeatures outFeatures useBias : Native F D Nat) := by
  have hdims : Oblivious (validateModuleDimensions inFeatures outFeatures : Native F D Unit) :=
    (oblivious_failIf _ _).bind fun _ => (oblivious_failIf _ _).bind fun _ => oblivious_failIf _ _
  refine hdims.bind fun _ => (oblivious_onMemory (formed_validatedShape _)).bind fun shape =>
    oblivious_allocationGuard _ ((oblivious_onMemory (formed_allocateFloats _)).bind fun _ =>
      (oblivious_drawUniform _ _).bind fun _ => ?_)
  cases useBias with
  | false =>
      exact (Oblivious.pure _).bind fun _ => (oblivious_onMemory formed_allocate).bind fun _ =>
        (oblivious_onMemory (formed_makeParameter _ _)).bind fun _ => (Oblivious.pure _).bind
          fun _ => (oblivious_addModule _).bind fun _ => oblivious_insertHandle _ _
  | true =>
      exact (oblivious_onMemory (formed_allocateFloats _)).bind fun _ =>
        (oblivious_drawUniform _ _).bind fun _ => (oblivious_onMemory formed_allocate).bind
          fun _ => (oblivious_onMemory (formed_makeParameter _ _)).bind fun _ =>
            (oblivious_onMemory (formed_validatedShape _)).bind fun _ =>
              (Oblivious.map _ (oblivious_onMemory (formed_makeParameter _ _))).bind fun _ =>
                (oblivious_addModule _).bind fun _ => oblivious_insertHandle _ _

theorem oblivious_forward [Arith F] (module : Nat) (input : TensorId) :
    Oblivious (forward module input : Native F D TensorId) :=
  (oblivious_lookupModule module).bind fun _ => oblivious_onMemory (formed_moduleForward _ _)

theorem oblivious_moduleParameterAt (module index : Nat) :
    Oblivious (moduleParameterAt module index : Native F D TensorId) := by
  refine (oblivious_lookupModule module).bind fun r => ?_
  dsimp only
  split
  · exact .pure _
  · exact .pure _
  · exact .throw _

theorem formed_setRequiresGrad (tensor : TensorId) (requiresGrad : Bool) :
    Formed (setRequiresGrad tensor requiresGrad : Mem F Unit) := by
  refine (formed_deref tensor).bind fun t => ?_
  cases t.autogradMeta with
  | none =>
      exact .ite (fun _ => formed_allocationGuard _ (formed_allocate.bind fun _ =>
        formed_setAutogradMeta _ _)) fun _ => .pure _
  | some autogradMeta =>
      exact (formed_failIf _ _).bind fun _ => formed_setAutogradMeta _ _

theorem formed_tensorIdentity (tensor : TensorId) :
    Formed (tensorIdentity tensor : Mem F Nat) :=
  (formed_deref tensor).bind fun t => (formed_identity t).bind fun _ =>
    (formed_failIf _ _).bind fun _ => .pure _

theorem oblivious_validateAssignment (batch : Batch) (handles : Nat × Nat) :
    Oblivious (validateAssignment batch handles : Native F D Batch) := by
  refine (oblivious_lookupTensor _).bind fun target => (oblivious_lookupTensor _).bind fun source =>
    oblivious_onMemory ?_
  have hpair : ∀ t u : Tensor, Formed (validatePair t u "tensor_assign_many" : Mem F Unit) :=
    fun _ _ => (formed_failIf _ _).bind fun _ => (formed_failIf _ _).bind fun _ =>
      formed_failIf _ _
  exact (formed_deref target).bind fun _ => (formed_deref source).bind fun _ =>
    (hpair _ _).bind fun _ => (formed_tensorIdentity _).bind fun _ =>
      (formed_allocationGuard _ formed_allocate).bind fun _ =>
        (formed_failIf _ _).bind fun _ => .pure _

theorem formed_assignBatch (batch : Batch) : Formed (assignBatch batch : Mem F Unit) := by
  have hstage : ∀ pair, Formed (stageAssignment pair : Mem F (TensorId × List F)) := fun _ =>
    (formed_readLogicalCpuValues _ _).bind fun _ =>
      (formed_mutableCpuValues _ _).bind fun _ => .pure _
  have hcommit : ∀ staged, Formed (commitAssignment staged : Mem F Unit) := fun _ =>
    (formed_deref _).bind fun _ => (formed_storageValues _).bind fun _ =>
      (formed_failIf _ _).bind fun _ => (formed_modifyHeap _ fun _ => rfl).bind fun _ =>
        (formed_modifyHeap _ fun _ => rfl).bind fun _ => formed_clearGradient _
  exact (formed_allocationGuard _ (formed_allocate.bind fun _ => formed_allocate)).bind
    fun _ => (Formed.mapM hstage _).bind fun _ => .forM hcommit _

theorem oblivious_assignMany (targets sources : Option (List Nat)) (count : Nat) :
    Oblivious (assignMany targets sources count : Native F D Unit) := by
  refine .ite (fun _ => .pure _) fun _ => ?_
  split
  · exact (oblivious_onMemory (formed_allocationGuard _ ((formed_failIf _ _).bind fun _ =>
      formed_allocate.bind fun _ => formed_allocate))).bind fun _ =>
        (oblivious_failIf _ _).bind fun _ =>
          (Oblivious.foldlM oblivious_validateAssignment _ _).bind fun _ =>
            oblivious_onMemory (formed_assignBatch _)
  · exact .throw _

section Creation

theorem oblivious_hyperparameters [Scalar D] (kind : OptimizerKind) (hyper : Hyperparameters D) :
    Oblivious (validateHyperparameters kind hyper : Native F D Unit) := by
  refine (oblivious_failIf _ _).bind fun _ => (oblivious_failIf _ _).bind fun _ => ?_
  cases kind with
  | sgd => exact oblivious_failIf _ _
  | adam => exact (oblivious_failIf _ _).bind fun _ => (oblivious_failIf _ _).bind fun _ =>
      oblivious_failIf _ _
  | adamW => exact (oblivious_failIf _ _).bind fun _ => (oblivious_failIf _ _).bind fun _ =>
      oblivious_failIf _ _

theorem oblivious_tensorHyperparameters [Scalar D] (kind : OptimizerKind)
    (hyper : Hyperparameters D) :
    Oblivious (validateTensorHyperparameters kind hyper : Native F D Unit) := by
  refine (oblivious_failIf _ _).bind fun _ => (oblivious_failIf _ _).bind fun _ => ?_
  cases kind with
  | sgd => exact oblivious_failIf _ _
  | adam => exact (oblivious_failIf _ _).bind fun _ => (oblivious_failIf _ _).bind fun _ =>
      oblivious_failIf _ _
  | adamW => exact (oblivious_failIf _ _).bind fun _ => (oblivious_failIf _ _).bind fun _ =>
      oblivious_failIf _ _

theorem formed_zeroMoments [Zero F] (sizes : List Nat) :
    Formed (zeroMoments sizes : Mem F (List (List F))) :=
  .mapM (fun _ => (formed_allocateFloats _).bind fun _ => .pure _) _

theorem oblivious_register {type : HandleType} {n : Runtime F D → Nat}
    {g : Runtime F D → Runtime F D} (hn : ∀ s b, n (Allocating.withAllocator s b) = n s)
    (hg : ∀ s b, g (Allocating.withAllocator s b) = Allocating.withAllocator (g s) b) :
    Oblivious (do
      let object := n (← get)
      modify g
      insertHandle type object : Native F D Nat) :=
  .get_bind (fun _ => (Oblivious.modify hg).bind fun _ => oblivious_insertHandle _ _)
    fun s b => by simp only [hn]

theorem oblivious_createOptimizer [Zero F] [Scalar D] (module : Nat) (kind : OptimizerKind)
    (hyper : Hyperparameters D) :
    Oblivious (createOptimizer module kind hyper : Native F D Nat) := by
  refine (oblivious_hyperparameters kind hyper).bind fun _ =>
    (oblivious_lookupModule module).bind fun r => oblivious_allocationGuard _ ?_
  have hallocate : Oblivious (onMemory allocate : Native F D Unit) :=
    oblivious_onMemory formed_allocate
  refine hallocate.bind fun _ => hallocate.bind fun _ => (oblivious_onMemory (.mapM (fun _ =>
    (formed_deref _).bind fun _ => .pure _) _)).bind fun _ => hallocate.bind fun _ =>
      hallocate.bind fun _ => (oblivious_onMemory (formed_zeroMoments _)).bind fun _ =>
        .ite (fun _ => ?_) fun _ => ?_
  · exact (Oblivious.pure _).bind fun _ =>
      oblivious_register (n := fun s => s.optimizers.length) (fun _ _ => rfl) fun _ _ => rfl
  · exact (oblivious_onMemory (formed_zeroMoments _)).bind fun _ =>
      oblivious_register (n := fun s => s.optimizers.length) (fun _ _ => rfl) fun _ _ => rfl

theorem oblivious_collectParameter (operation : String) (collected : List TensorId × List TensorId)
    (handle : Nat) : Oblivious (collectParameter operation collected handle : Native F D _) :=
  (oblivious_lookupTensor handle).bind fun _ => (oblivious_onMemory formed_allocate).bind
    fun _ => (oblivious_failIf _ _).bind fun _ =>
      (oblivious_onMemory (formed_requiresGrad _)).bind fun _ => .ite
        (fun _ => (oblivious_onMemory formed_allocate).bind fun _ => .pure _) fun _ => .pure _

theorem oblivious_collectParameters (handles : Option (List Nat)) (operation : String) :
    Oblivious (collectParameters handles operation : Native F D (List TensorId)) := by
  unfold collectParameters
  split
  · exact .throw _
  · exact .throw _
  · exact (Oblivious.foldlM (oblivious_collectParameter operation) _ _).bind fun _ =>
      (oblivious_failIf _ _).bind fun _ => .pure _

theorem formed_initializeCpuMoments [Zero F] (parameters : List TensorId) (operation : String) :
    Formed (initializeCpuMoments parameters operation : Mem F _) :=
  formed_allocationGuard _ (formed_allocate.bind fun _ => formed_allocate.bind fun _ =>
    .foldlM (fun _ _ => (formed_mutableCpuValues _ _).bind fun _ =>
      (formed_allocateFloats _).bind fun _ => (formed_allocateFloats _).bind fun _ =>
        .pure _) _ _)

theorem oblivious_createForTensors [Zero F] [Scalar D] (handles : Option (List Nat))
    (kind : OptimizerKind) (hyper : Hyperparameters D) :
    Oblivious (createForTensors handles kind hyper : Native F D Nat) :=
  (oblivious_tensorHyperparameters kind hyper).bind fun _ =>
    (oblivious_collectParameters handles _).bind fun _ =>
      (oblivious_onMemory (formed_allocationGuard _ formed_allocate)).bind fun _ =>
        (oblivious_onMemory (formed_initializeCpuMoments _ _)).bind fun _ =>
          oblivious_register (n := fun s => s.parameterOptimizers.length) (fun _ _ => rfl)
            fun _ _ => rfl

end Creation

section Steps

theorem oblivious_moduleOf (state : OptimizerState F D) :
    Oblivious (moduleOf state : Native F D LinearState) := by
  refine .get_bind (fun s => ?_) fun _ _ => rfl
  split
  · exact .pure _
  · exact .throw _

theorem oblivious_clearAll (parameters : List TensorId) :
    Oblivious (parameters.forM fun parameter =>
      onMemory (clearGradient parameter) : Native F D Unit) :=
  .forM (fun parameter => oblivious_onMemory (formed_clearGradient parameter)) _

theorem oblivious_optimizerZeroGrad (optimizer : Nat) :
    Oblivious (optimizerZeroGrad optimizer : Native F D Unit) :=
  (oblivious_lookupOptimizer optimizer).bind fun _ => (oblivious_moduleOf _).bind fun _ =>
    (oblivious_onMemory formed_allocate).bind fun _ => oblivious_clearAll _

theorem oblivious_zeroGrad (optimizer : Nat) :
    Oblivious (zeroGrad optimizer : Native F D Unit) :=
  (oblivious_lookupParameterOptimizer optimizer).bind fun _ => oblivious_clearAll _

variable [Scalar D] [Precision F D]

theorem formed_updateParameter (kind : OptimizerKind) (hyper : Hyperparameters D)
    (operation : String) {readGradient : TensorId → String → Mem F (List F)}
    (hread : ∀ id operation, Formed (readGradient id operation)) (step : Nat)
    (parameter : TensorId) (first second : Option (List F)) :
    Formed (updateParameter kind hyper operation readGradient step parameter first second) := by
  refine (formed_deref parameter).bind fun t => ?_
  cases t.gradient with
  | none => exact .pure _
  | some gradient =>
      refine (formed_mutableCpuValues _ _).bind fun _ => (hread _ _).bind fun _ =>
        (formed_failIf _ _).bind fun _ => ?_
      cases first with
      | none => exact .throw _
      | some first =>
          exact (formed_checked _).bind fun _ => (formed_deref _).bind fun _ =>
            (formed_modifyHeap _ fun _ => rfl).bind fun _ =>
              (formed_modifyHeap _ fun _ => rfl).bind fun _ => .pure _

theorem oblivious_optimizerStepAt (object : Nat) (parameter : TensorId) (index : Nat) :
    Oblivious (optimizerStepAt object parameter index : Native F D Unit) := by
  have hget : Oblivious (getOptimizer object : Native F D (OptimizerState F D)) := by
    refine .get_bind (fun s => ?_) fun _ _ => rfl
    split
    · exact .pure _
    · exact .throw _
  refine hget.bind fun state => (oblivious_onMemory (formed_updateParameter _ _ _
    formed_cpuValues _ _ _ _)).bind fun updated => ?_
  split
  · exact .pure _
  · exact .modify fun _ _ => rfl

theorem oblivious_optimizerStep (optimizer : Nat) :
    Oblivious (optimizerStep optimizer : Native F D Unit) :=
  (oblivious_lookupOptimizer optimizer).bind fun _ => (oblivious_moduleOf _).bind fun _ =>
    (oblivious_onMemory formed_allocate).bind fun _ => (Oblivious.modify fun _ _ => rfl).bind
      fun _ => .forM (fun _ => oblivious_optimizerStepAt _ _ _) _

theorem oblivious_cpuStepAt (object : Nat) (parameter : TensorId) (index : Nat) :
    Oblivious (cpuStepAt object parameter index : Native F D Unit) := by
  have hget : Oblivious (getParameterOptimizer object :
      Native F D (ParameterOptimizerState F D)) := by
    refine .get_bind (fun s => ?_) fun _ _ => rfl
    split
    · exact .pure _
    · exact .throw _
  refine hget.bind fun state => (oblivious_onMemory (formed_updateParameter _ _ _
    formed_readLogicalCpuValues _ _ _ _)).bind fun updated => ?_
  split
  · exact .pure _
  · exact .modify fun _ _ => rfl

theorem oblivious_cpuStep (optimizer : Nat) :
    Oblivious (cpuStep optimizer : Native F D Unit) :=
  (oblivious_lookupParameterOptimizer optimizer).bind fun _ =>
    (Oblivious.modify fun _ _ => rfl).bind fun _ => .forM (fun _ => oblivious_cpuStepAt _ _ _) _

end Steps

section Checkpoints
variable [FloatBits F]

omit [FloatBits F] in
theorem oblivious_writeBytes (path : String) (bytes : List ByteCodec.Byte) (message : String) :
    Oblivious (writeBytes path bytes message : Native F D Unit) :=
  .get_bind (fun _ => (Oblivious.modify fun _ _ => rfl).bind fun _ => oblivious_failIf _ _)
    fun _ _ => rfl

theorem oblivious_saveTensor (path : String) (tensor : TensorId) :
    Oblivious (saveTensor path tensor : Native F D Unit) :=
  (oblivious_onMemory (formed_deref tensor)).bind fun _ =>
    (oblivious_writeBytes _ _ _).bind fun _ => (oblivious_writeBytes _ _ _).bind fun _ =>
      (oblivious_writeBytes _ _ _).bind fun _ =>
        (oblivious_onMemory (formed_cpuValues tensor _)).bind fun _ => oblivious_writeBytes _ _ _

theorem oblivious_moduleSave (module : Nat) (path : String) :
    Oblivious (moduleSave module path : Native F D Unit) := by
  have hopen : Oblivious (openForWriting path : Native F D Unit) :=
    .get_bind (fun _ => (oblivious_failIf _ _).bind fun _ => .modify fun _ _ => rfl) fun _ _ => rfl
  refine (oblivious_failIf _ _).bind fun _ => (oblivious_lookupModule module).bind fun r =>
    hopen.bind fun _ => (oblivious_writeBytes _ _ _).bind fun _ =>
      (oblivious_saveTensor _ _).bind fun _ => ?_
  split
  · exact .pure _
  · exact oblivious_saveTensor _ _
  · exact .throw _

omit [FloatBits F] in
theorem formed_readScalar (width : Nat) (stream : List ByteCodec.Byte) (message : String) :
    Formed (readScalar width stream message : Mem F _) := by
  unfold readScalar
  split
  · exact .pure _
  · exact .throw _

omit [FloatBits F] in
theorem formed_readDimensions (rank : Nat) (stream : List ByteCodec.Byte) :
    Formed (readDimensions rank stream : Mem F _) := by
  induction rank generalizing stream with
  | zero => exact .pure _
  | succ rank ih =>
      exact (formed_readScalar _ _ _).bind fun r => (ih r.2).bind fun _ => .pure _

theorem formed_readTensorPayload (stream : List ByteCodec.Byte) (expectedShape : ShapeInfo) :
    Formed (readTensorPayload stream expectedShape : Mem F _) := by
  refine (formed_readScalar _ _ _).bind fun _ => (formed_failIf _ _).bind fun _ =>
    formed_allocate.bind fun _ => (formed_readDimensions _ _).bind fun r =>
      formed_allocate.bind fun _ => ?_
  dsimp only
  split
  · exact .throw _
  · refine (formed_failIf _ _).bind fun _ => (formed_readScalar _ _ _).bind fun _ =>
      (formed_failIf _ _).bind fun _ => (formed_allocateFloats _).bind fun _ => ?_
    split
    · exact .throw _
    · exact .pure _

omit [FloatBits F] in
theorem formed_readHeader (stream : List ByteCodec.Byte) :
    Formed (readHeader stream : Mem F _) := by
  unfold readHeader
  split
  · exact .throw _
  · exact (formed_failIf _ _).bind fun _ => (formed_readScalar _ _ _).bind fun _ =>
      (formed_readScalar _ _ _).bind fun _ => (formed_readScalar _ _ _).bind fun _ =>
        (formed_readScalar _ _ _).bind fun _ => .pure _

omit [FloatBits F] in
theorem formed_restoreParameter (parameter : TensorId) (values : List F) :
    Formed (restoreParameter parameter values) :=
  (formed_mutableCpuValues _ _).bind fun _ => (formed_deref _).bind fun _ =>
    (formed_modifyHeap _ fun _ => rfl).bind fun _ =>
    (formed_modifyHeap _ fun _ => rfl).bind fun _ =>
      formed_clearGradient _

theorem formed_loadParameters (state : LinearState) (stream : List ByteCodec.Byte) :
    Formed (loadParameters state stream : Mem F Unit) := by
  refine (formed_readHeader _).bind fun r => (formed_failIf _ _).bind fun _ =>
    (formed_deref _).bind fun _ => (formed_readTensorPayload _ _).bind fun r' => ?_
  dsimp only
  split
  · exact (formed_failIf _ _).bind fun _ => formed_restoreParameter _ _
  · exact (formed_deref _).bind fun _ => (formed_readTensorPayload _ _).bind fun _ =>
      (formed_failIf _ _).bind fun _ => (formed_restoreParameter _ _).bind fun _ =>
        formed_restoreParameter _ _
  · exact .throw _

theorem oblivious_moduleLoad (module : Nat) (path : String) :
    Oblivious (moduleLoad module path : Native F D Unit) := by
  refine (oblivious_failIf _ _).bind fun _ => (oblivious_lookupModule module).bind fun r =>
    .get_bind (fun s => ?_) fun _ _ => rfl
  split
  · exact .throw _
  · exact oblivious_onMemory (formed_loadParameters _ _)

end Checkpoints

end Training

namespace Api
open Training

theorem oblivious_insertTensor (tensor : TensorId) :
    Oblivious (do return .handle (← insertTensor tensor) : Native F D (Reply F)) :=
  (oblivious_insertHandle _ _).bind fun _ => .pure _

theorem oblivious_runUnary (tensor : Nat) {operation : TensorId → Mem F TensorId}
    (hop : ∀ id, Formed (operation id)) :
    Oblivious (runUnary tensor operation : Native F D (Reply F)) :=
  (oblivious_lookupTensor tensor).bind fun id => (oblivious_onMemory (hop id)).bind fun _ =>
    oblivious_insertTensor _

theorem oblivious_runBinary (left right : Nat) {operation : TensorId → TensorId → Mem F TensorId}
    (hop : ∀ l r, Formed (operation l r)) :
    Oblivious (runBinary left right operation : Native F D (Reply F)) :=
  (oblivious_lookupTensor left).bind fun l => (oblivious_lookupTensor right).bind fun r =>
    (oblivious_onMemory (hop l r)).bind fun _ => oblivious_insertTensor _

theorem formed_dispatchedUnary {operation : TensorId → Mem F TensorId}
    (hop : ∀ id, Formed (operation id)) (id : TensorId) :
    Formed (dispatchedUnary operation id) :=
  (formed_deref id).bind fun _ => (formed_failIf _ _).bind fun _ => hop id

theorem formed_dispatched {operation : TensorId → TensorId → Mem F TensorId}
    (hop : ∀ l r, Formed (operation l r)) (l r : TensorId) :
    Formed (dispatched operation l r) :=
  (formed_deref l).bind fun _ => (formed_deref r).bind fun _ =>
    (formed_failIf _ _).bind fun _ => (formed_failIf _ _).bind fun _ => hop l r

theorem oblivious_reply {α : Type} {x : Native F D α} (reply : α → Reply F) (hx : Oblivious x) :
    Oblivious (do let r ← x; return reply r : Native F D (Reply F)) := hx.bind fun _ => .pure _

variable [Scalar F] [Scalar D] [Precision F D] [FloatBits F]

theorem oblivious_exec (call : Call F D) : Oblivious (exec call) := by
  cases call with
  | tensorFromF32 data dims =>
      exact (oblivious_onMemory (formed_validatedShape _)).bind fun _ =>
        (oblivious_failIf _ _).bind fun _ =>
          (oblivious_onMemory (CpuBackend.formed_fromData _ _)).bind fun _ =>
            oblivious_insertTensor _
  | tensorFullF32 dims value =>
      exact (oblivious_onMemory (formed_validatedShape _)).bind fun _ =>
        (oblivious_onMemory (CpuBackend.formed_full _ _)).bind fun _ => oblivious_insertTensor _
  | tensorCopyToHostF32 tensor capacity =>
      exact (oblivious_lookupTensor tensor).bind fun id => oblivious_onMemory
        ((formed_deref id).bind fun t => (formed_failIf _ _).bind fun _ =>
          (formed_copyToHostF32 t capacity).bind fun _ => .pure _)
  | tensorToDevice tensor device deviceIndex =>
      exact oblivious_runUnary _ fun id => formed_transfer id device deviceIndex
  | tensorReshape tensor dims =>
      exact (oblivious_onMemory (formed_validatedShape _)).bind fun shape =>
        oblivious_runUnary _ (formed_dispatchedUnary fun id =>
          CpuBackend.formed_reshape id shape)
  | tensorTranspose2D tensor =>
      exact oblivious_runUnary _ (formed_dispatchedUnary CpuBackend.formed_transpose2D)
  | tensorAdd left right =>
      exact oblivious_runBinary _ _ (formed_dispatched fun l r =>
        CpuBackend.formed_elementwise _ _ _ l r)
  | tensorMultiply left right =>
      exact oblivious_runBinary _ _ (formed_dispatched fun l r =>
        CpuBackend.formed_elementwise _ _ _ l r)
  | tensorSum tensor =>
      exact oblivious_runUnary _ (formed_dispatchedUnary CpuBackend.formed_sum)
  | tensorMatmul left right =>
      exact oblivious_runBinary _ _ (formed_dispatched CpuBackend.formed_matmul)
  | tensorRetain tensor => exact oblivious_reply (fun _ => .done) (oblivious_onRegistry _)
  | tensorRelease tensor => exact oblivious_reply (fun _ => .done) (oblivious_onRegistry _)
  | manualSeed seed => exact oblivious_reply (fun _ => .done) (.modify fun _ _ => rfl)
  | tensorIdentity tensor =>
      exact (oblivious_lookupTensor tensor).bind fun id =>
        (oblivious_onMemory (formed_tensorIdentity id)).bind fun _ => .pure _
  | tensorCloneDetached tensor => exact oblivious_runUnary _ formed_cloneDetached
  | tensorAssignMany targets sources count =>
      exact oblivious_reply (fun _ => .done) (oblivious_assignMany targets sources count)
  | tensorWithRequiresGrad tensor requiresGrad =>
      exact oblivious_runUnary _ fun id => formed_cloneAsLeaf id requiresGrad
  | tensorRequiresGrad tensor =>
      exact (oblivious_lookupTensor tensor).bind fun id =>
        (oblivious_onMemory (formed_requiresGrad id)).bind fun _ => .pure _
  | tensorSetRequiresGrad tensor requiresGrad =>
      exact (oblivious_lookupTensor tensor).bind fun id =>
        (oblivious_onMemory (formed_setRequiresGrad id requiresGrad)).bind fun _ => .pure _
  | tensorBackward tensor =>
      exact (oblivious_lookupTensor tensor).bind fun id =>
        (oblivious_onMemory (formed_backward id)).bind fun _ => .pure _
  | tensorGrad tensor => exact oblivious_runUnary _ formed_gradientSnapshot
  | tensorRelu tensor => exact oblivious_runUnary _ fun id => formed_makeActivation id .relu
  | tensorSigmoid tensor => exact oblivious_runUnary _ fun id => formed_makeActivation id .sigmoid
  | tensorTanh tensor => exact oblivious_runUnary _ fun id => formed_makeActivation id .tanh
  | tensorGelu tensor => exact oblivious_runUnary _ fun id => formed_cpuUnary id _ _ _
  | tensorSilu tensor => exact oblivious_runUnary _ fun id => formed_cpuUnary id _ _ _
  | tensorSwiGlu tensor => exact oblivious_runUnary _ formed_swiGlu
  | mseLoss prediction target => exact oblivious_runBinary _ _ (formed_mseLoss D)
  | crossEntropyLoss logits oneHotTarget =>
      exact oblivious_runBinary _ _ (formed_crossEntropyLoss D)
  | linearCreate inFeatures outFeatures useBias =>
      exact oblivious_reply Reply.handle (oblivious_linearCreate inFeatures outFeatures useBias)
  | moduleForward module input =>
      exact (oblivious_lookupTensor input).bind fun id =>
        (oblivious_forward module id).bind fun _ => oblivious_insertTensor _
  | moduleSetTraining module training =>
      exact oblivious_reply (fun _ => .done) ((oblivious_lookupModule module).bind fun _ =>
        .modify fun _ _ => rfl)
  | moduleToDevice module device deviceIndex =>
      exact oblivious_reply (fun _ => .done) ((oblivious_lookupModule module).bind fun _ =>
        (oblivious_failIf _ _).bind fun _ => (oblivious_failIf _ _).bind fun _ =>
          oblivious_failIf _ _)
  | moduleParameterCount module =>
      exact oblivious_reply Reply.number ((oblivious_lookupModule module).bind fun _ => .pure _)
  | moduleParameterAt module index =>
      exact (oblivious_moduleParameterAt module index).bind fun _ => oblivious_insertTensor _
  | moduleBufferCount module =>
      exact oblivious_reply Reply.number ((oblivious_lookupModule module).bind fun _ => .pure _)
  | moduleBufferAt module index =>
      exact ((oblivious_lookupModule module).bind fun _ => .throw _).bind fun _ =>
        oblivious_insertTensor _
  | moduleSave module path =>
      exact oblivious_reply (fun _ => .done) (oblivious_moduleSave module path)
  | moduleLoad module path =>
      exact oblivious_reply (fun _ => .done) (oblivious_moduleLoad module path)
  | moduleRelease module => exact oblivious_reply (fun _ => .done) (oblivious_onRegistry _)
  | optimizerCreate module kind hyper =>
      exact oblivious_reply Reply.handle (oblivious_createOptimizer module kind hyper)
  | optimizerZeroGrad optimizer =>
      exact oblivious_reply (fun _ => .done) (oblivious_optimizerZeroGrad optimizer)
  | optimizerStep optimizer =>
      exact oblivious_reply (fun _ => .done) (oblivious_optimizerStep optimizer)
  | optimizerRelease optimizer => exact oblivious_reply (fun _ => .done) (oblivious_onRegistry _)
  | createForTensors parameters kind hyper =>
      exact oblivious_reply Reply.handle (oblivious_createForTensors parameters kind hyper)
  | parameterOptimizerZeroGrad optimizer =>
      exact oblivious_reply (fun _ => .done) (oblivious_zeroGrad optimizer)
  | parameterOptimizerStep optimizer =>
      exact oblivious_reply (fun _ => .done) (oblivious_cpuStep optimizer)
  | parameterOptimizerRelease optimizer =>
      exact oblivious_reply (fun _ => .done) (oblivious_onRegistry _)

def Lasting (s : Runtime F D) : Prop :=
  ∀ k, s.memory.allocator.count ≤ k → s.memory.allocator.fails k = false

theorem run_allocator (s : Runtime F D) (calls : List (Call F D)) :
    ∃ n, (run s calls).memory.allocator = s.memory.allocator.after n := by
  unfold run
  induction calls generalizing s with
  | nil => exact ⟨0, rfl⟩
  | cons call calls ih =>
      obtain ⟨n, r, s', hexec, hallocator, -⟩ := (oblivious_exec call).ran s
      have hafter : after s call = s' := by
        unfold after
        rw [hexec]
        cases r <;> rfl
      obtain ⟨m, hm⟩ := ih (after s call)
      refine ⟨n + m, ?_⟩
      rw [List.foldl_cons, hm, hafter]
      change (Allocating.allocator s').after m = _
      rw [hallocator, Allocator.after_after]
      rfl

theorem Lasting.run {s : Runtime F D} (hs : Lasting s) (calls : List (Call F D)) :
    Lasting (run s calls) := by
  obtain ⟨n, hn⟩ := run_allocator s calls
  intro k hk
  rw [hn] at hk ⊢
  exact hs k ((Nat.le_add_right _ _).trans hk)

end Api

end Tensora
