import Tensora.Api.ObliviousCalls
import Tensora.Runtime.SideBySide

/-! Every call that has nothing to do with optimizers runs in lockstep on two states that
differ in theirs. -/
namespace Tensora
open ProgramLogic Autograd

variable {F D : Type} {s₀ t₀ : Runtime F D}

namespace Training

theorem lockstep_drawUniform [Scalar F] (count : Nat) (bound : F) :
    Lockstep (Beside s₀ t₀) (drawUniform count bound) (drawUniform count bound) := by
  refine Lockstep.get_bind fun s t h => ?_
  rw [h.rng]
  refine Matched.bind ⟨rfl, ?_⟩ fun _ => Lockstep.pure _
  exact ⟨h.heap, h.allocations, h.registry, h.modules, rfl, h.files, h.keeping, h.left, h.right,
    h.handles⟩

theorem lockstep_addModule (state : LinearState) :
    Lockstep (Beside s₀ t₀) (addModule state) (addModule state) := by
  refine Lockstep.get_bind fun s t h => ?_
  rw [h.modules]
  refine Matched.bind ⟨rfl, ?_⟩ fun _ => Lockstep.pure _
  refine ⟨h.heap, h.allocations, h.registry, by simp only [h.modules], h.rng, h.files,
    fun i old hold => ?_, h.left, h.right, h.handles⟩
  obtain ⟨training, hget⟩ := h.keeping i old hold
  refine ⟨training, ?_⟩
  rw [List.getElem?_append_left (List.getElem?_eq_some_iff.mp hget).1, hget]

theorem lockstep_linearCreate [Scalar F] (inFeatures outFeatures : Int) (useBias : Bool) :
    Lockstep (Beside s₀ t₀) (linearCreate inFeatures outFeatures useBias)
      (linearCreate inFeatures outFeatures useBias) := by
  have hdims : Lockstep (Beside s₀ t₀) (validateModuleDimensions inFeatures outFeatures)
      (validateModuleDimensions inFeatures outFeatures) :=
    (lockstep_failIf _ _).bind fun _ => (lockstep_failIf _ _).bind fun _ => lockstep_failIf _ _
  refine hdims.bind fun _ => (lockstep_onMemory (formed_validatedShape _)).bind fun shape =>
    lockstep_allocationGuard _ ((lockstep_onMemory (formed_allocateFloats _)).bind fun _ =>
      (lockstep_drawUniform _ _).bind fun _ => ?_)
  have hinsert : ∀ state : LinearState, Lockstep (Beside s₀ t₀)
      (do let object ← addModule state; insertHandle .module object)
      (do let object ← addModule state; insertHandle .module object) := fun state =>
    (lockstep_addModule state).bind fun _ => lockstep_insertHandle (Or.inl rfl)
  cases useBias with
  | false =>
      exact (Lockstep.pure _).bind fun _ => (lockstep_onMemory formed_allocate).bind fun _ =>
        (lockstep_onMemory (formed_makeParameter _ _)).bind fun _ => (Lockstep.pure _).bind
          fun _ => hinsert _
  | true =>
      exact (lockstep_onMemory (formed_allocateFloats _)).bind fun _ =>
        (lockstep_drawUniform _ _).bind fun _ => (lockstep_onMemory formed_allocate).bind
          fun _ => (lockstep_onMemory (formed_makeParameter _ _)).bind fun _ =>
            (lockstep_onMemory (formed_validatedShape _)).bind fun _ =>
              (Lockstep.bind (lockstep_onMemory (formed_makeParameter _ _)) fun _ =>
                Lockstep.pure _).bind fun _ => hinsert _

theorem lockstep_moduleParameterAt (module index : Nat) :
    Lockstep (Beside s₀ t₀) (moduleParameterAt module index) (moduleParameterAt module index) := by
  refine (lockstep_lookupModule module).bind fun r => ?_
  dsimp only
  split
  · exact .pure _
  · exact .pure _
  · exact .throw _

theorem lockstep_moduleSetTraining (module : Nat) (training : Bool) :
    Lockstep (Beside s₀ t₀) (moduleSetTraining module training)
      (moduleSetTraining module training) := by
  refine (lockstep_lookupModule module).bind fun r => Lockstep.modify fun s t h => ?_
  refine ⟨h.heap, h.allocations, h.registry, by simp only [h.modules], h.rng, h.files,
    fun i old hold => ?_, h.left, h.right, h.handles⟩
  obtain ⟨mode, hget⟩ := h.keeping i old hold
  simp only [List.getElem?_modify, hget]
  split
  · exact ⟨training, rfl⟩
  · exact ⟨mode, rfl⟩

theorem lockstep_validateAssignment (batch : Batch) (handles : Nat × Nat) :
    Lockstep (Beside s₀ t₀) (validateAssignment batch handles)
      (validateAssignment batch handles) := by
  refine (lockstep_lookupTensor _).bind fun target => (lockstep_lookupTensor _).bind fun source =>
    lockstep_onMemory ?_
  have hpair : ∀ t u : Tensor, Formed (validatePair t u "tensor_assign_many" : Mem F Unit) :=
    fun _ _ => (formed_failIf _ _).bind fun _ => (formed_failIf _ _).bind fun _ =>
      formed_failIf _ _
  exact (formed_deref target).bind fun _ => (formed_deref source).bind fun _ =>
    (hpair _ _).bind fun _ => (formed_tensorIdentity _).bind fun _ =>
      (formed_allocationGuard _ formed_allocate).bind fun _ =>
        (formed_failIf _ _).bind fun _ => .pure _

theorem lockstep_assignMany (targets sources : Option (List Nat)) (count : Nat) :
    Lockstep (Beside s₀ t₀) (assignMany targets sources count)
      (assignMany targets sources count) := by
  refine .ite (fun _ => .pure _) fun _ => ?_
  split
  · exact (lockstep_onMemory (formed_allocationGuard _ ((formed_failIf _ _).bind fun _ =>
      formed_allocate.bind fun _ => formed_allocate))).bind fun _ =>
        (lockstep_failIf _ _).bind fun _ =>
          (Lockstep.foldlM lockstep_validateAssignment _ _).bind fun _ =>
            lockstep_onMemory (formed_assignBatch _)
  · exact .throw _

section Checkpoints
variable [FloatBits F]

omit [FloatBits F] in
theorem lockstep_writeBytes (path : String) (bytes : List ByteCodec.Byte) (message : String) :
    Lockstep (Beside s₀ t₀) (writeBytes path bytes message) (writeBytes path bytes message) := by
  refine Lockstep.get_bind fun s t h => ?_
  rw [h.files]
  refine Matched.bind ⟨rfl, ?_⟩ fun _ => lockstep_failIf _ _
  exact ⟨h.heap, h.allocations, h.registry, h.modules, h.rng, rfl, h.keeping, h.left, h.right,
    h.handles⟩

theorem lockstep_saveTensor (path : String) (tensor : TensorId) :
    Lockstep (Beside s₀ t₀) (saveTensor path tensor) (saveTensor path tensor) :=
  (lockstep_onMemory (formed_deref tensor)).bind fun _ =>
    (lockstep_writeBytes _ _ _).bind fun _ => (lockstep_writeBytes _ _ _).bind fun _ =>
      (lockstep_writeBytes _ _ _).bind fun _ =>
        (lockstep_onMemory (formed_cpuValues tensor _)).bind fun _ => lockstep_writeBytes _ _ _

theorem lockstep_moduleSave (module : Nat) (path : String) :
    Lockstep (Beside s₀ t₀) (moduleSave module path) (moduleSave module path) := by
  have hopen : Lockstep (Beside s₀ t₀) (openForWriting path) (openForWriting path) := by
    refine Lockstep.get_bind fun s t h => ?_
    rw [h.files]
    refine (Lockstep.bind (lockstep_failIf _ _) fun _ => Lockstep.modify fun s t h => ?_) s t h
    exact ⟨h.heap, h.allocations, h.registry, h.modules, h.rng, by simp only [h.files], h.keeping,
      h.left, h.right, h.handles⟩
  refine (lockstep_failIf _ _).bind fun _ => (lockstep_lookupModule module).bind fun r =>
    hopen.bind fun _ => (lockstep_writeBytes _ _ _).bind fun _ =>
      (lockstep_saveTensor _ _).bind fun _ => ?_
  split
  · exact .pure _
  · exact lockstep_saveTensor _ _
  · exact .throw _

theorem lockstep_moduleLoad (module : Nat) (path : String) :
    Lockstep (Beside s₀ t₀) (moduleLoad module path) (moduleLoad module path) := by
  refine (lockstep_failIf _ _).bind fun _ => (lockstep_lookupModule module).bind fun r =>
    Lockstep.get_bind fun s t h => ?_
  rw [h.files]
  cases s.files.contents path with
  | none => exact Lockstep.throw _ s t h
  | some stream => exact lockstep_onMemory (formed_loadParameters _ _) s t h

end Checkpoints

end Training

namespace Api
open Training

def Call.onOptimizer : Call F D → Bool
  | .optimizerCreate .. | .optimizerZeroGrad .. | .optimizerStep .. | .optimizerRelease ..
  | .createForTensors .. | .parameterOptimizerZeroGrad .. | .parameterOptimizerStep ..
  | .parameterOptimizerRelease .. => true
  | _ => false

theorem lockstep_handle (tensor : TensorId) :
    Lockstep (Beside s₀ t₀) (do return .handle (← insertTensor tensor) : Native F D (Reply F))
      (do return .handle (← insertTensor tensor)) :=
  (lockstep_insertTensor _).bind fun _ => .pure _

theorem lockstep_runUnary (tensor : Nat) {operation : TensorId → Mem F TensorId}
    (hop : ∀ id, Formed (operation id)) :
    Lockstep (Beside s₀ t₀) (runUnary tensor operation) (runUnary tensor operation) :=
  (lockstep_lookupTensor tensor).bind fun id => (lockstep_onMemory (hop id)).bind fun _ =>
    lockstep_handle _

theorem lockstep_runBinary (left right : Nat) {operation : TensorId → TensorId → Mem F TensorId}
    (hop : ∀ l r, Formed (operation l r)) :
    Lockstep (Beside s₀ t₀) (runBinary left right operation) (runBinary left right operation) :=
  (lockstep_lookupTensor left).bind fun l => (lockstep_lookupTensor right).bind fun r =>
    (lockstep_onMemory (hop l r)).bind fun _ => lockstep_handle _

theorem lockstep_reply {α : Type} {x y : Native F D α} (reply : α → Reply F)
    (h : Lockstep (Beside s₀ t₀) x y) :
    Lockstep (Beside s₀ t₀) (do let r ← x; return reply r) (do let r ← y; return reply r) :=
  h.bind fun _ => .pure _

theorem lockstep_onTensor {α : Type} (tensor : Nat) {program : TensorId → Mem F α}
    (reply : α → Reply F) (hp : ∀ id, Formed (program id)) :
    Lockstep (Beside s₀ t₀)
      (do let object ← lookupTensor tensor; let r ← onMemory (program object); return reply r)
      (do let object ← lookupTensor tensor; let r ← onMemory (program object); return reply r) :=
  (lockstep_lookupTensor tensor).bind fun id => lockstep_reply reply (lockstep_onMemory (hp id))

variable [Scalar F] [Scalar D] [Precision F D] [FloatBits F]

theorem lockstep_exec {call : Call F D} (hcall : call.onOptimizer = false) :
    Lockstep (Beside s₀ t₀) (exec call) (exec call) := by
  cases call with
  | tensorFromF32 data dims =>
      exact (lockstep_onMemory (formed_validatedShape _)).bind fun _ =>
        (lockstep_failIf _ _).bind fun _ =>
          (lockstep_onMemory (CpuBackend.formed_fromData _ _)).bind fun _ => lockstep_handle _
  | tensorFullF32 dims value =>
      exact (lockstep_onMemory (formed_validatedShape _)).bind fun _ =>
        (lockstep_onMemory (CpuBackend.formed_full _ _)).bind fun _ => lockstep_handle _
  | tensorCopyToHostF32 tensor capacity =>
      exact (lockstep_lookupTensor tensor).bind fun id => lockstep_onMemory
        ((formed_deref id).bind fun t => (formed_failIf _ _).bind fun _ =>
          (formed_copyToHostF32 t capacity).bind fun _ => .pure _)
  | tensorToDevice tensor device deviceIndex =>
      exact lockstep_runUnary _ fun id => formed_transfer id device deviceIndex
  | tensorReshape tensor dims =>
      exact (lockstep_onMemory (formed_validatedShape _)).bind fun shape =>
        lockstep_runUnary _ (formed_dispatchedUnary fun id =>
          CpuBackend.formed_reshape id shape)
  | tensorTranspose2D tensor =>
      exact lockstep_runUnary _ (formed_dispatchedUnary CpuBackend.formed_transpose2D)
  | tensorAdd left right =>
      exact lockstep_runBinary _ _ (formed_dispatched fun l r =>
        CpuBackend.formed_elementwise _ _ _ l r)
  | tensorMultiply left right =>
      exact lockstep_runBinary _ _ (formed_dispatched fun l r =>
        CpuBackend.formed_elementwise _ _ _ l r)
  | tensorSum tensor =>
      exact lockstep_runUnary _ (formed_dispatchedUnary CpuBackend.formed_sum)
  | tensorMatmul left right =>
      exact lockstep_runBinary _ _ (formed_dispatched CpuBackend.formed_matmul)
  | tensorRetain tensor =>
      exact lockstep_reply (fun _ => .done) (lockstep_onRegistry
        (HandleRegistry.lockstep_retain rfl) (HandleRegistry.spares_retain rfl)
        (HandleRegistry.spares_retain rfl))
  | tensorRelease tensor =>
      exact lockstep_reply (fun _ => .done) (lockstep_onRegistry
        (HandleRegistry.lockstep_release rfl) (HandleRegistry.spares_release rfl)
        (HandleRegistry.spares_release rfl))
  | manualSeed seed =>
      refine lockstep_reply (fun _ => .done) (Lockstep.modify fun s t h => ?_)
      exact ⟨h.heap, h.allocations, h.registry, h.modules, rfl, h.files, h.keeping, h.left, h.right,
        h.handles⟩
  | tensorIdentity tensor => exact lockstep_onTensor tensor Reply.number formed_tensorIdentity
  | tensorCloneDetached tensor => exact lockstep_runUnary _ formed_cloneDetached
  | tensorAssignMany targets sources count =>
      exact lockstep_reply (fun _ => .done) (lockstep_assignMany targets sources count)
  | tensorWithRequiresGrad tensor requiresGrad =>
      exact lockstep_runUnary _ fun id => formed_cloneAsLeaf id requiresGrad
  | tensorRequiresGrad tensor => exact lockstep_onTensor tensor Reply.flag formed_requiresGrad
  | tensorSetRequiresGrad tensor requiresGrad =>
      exact lockstep_onTensor tensor (fun _ => .done) fun id =>
        formed_setRequiresGrad id requiresGrad
  | tensorBackward tensor =>
      exact lockstep_onTensor tensor (fun _ => .done) fun id => formed_backward id
  | tensorGrad tensor => exact lockstep_runUnary _ formed_gradientSnapshot
  | tensorRelu tensor => exact lockstep_runUnary _ fun id => formed_makeActivation id .relu
  | tensorSigmoid tensor => exact lockstep_runUnary _ fun id => formed_makeActivation id .sigmoid
  | tensorTanh tensor => exact lockstep_runUnary _ fun id => formed_makeActivation id .tanh
  | tensorGelu tensor => exact lockstep_runUnary _ fun id => formed_cpuUnary id _ _ _
  | tensorSilu tensor => exact lockstep_runUnary _ fun id => formed_cpuUnary id _ _ _
  | tensorSwiGlu tensor => exact lockstep_runUnary _ formed_swiGlu
  | mseLoss prediction target => exact lockstep_runBinary _ _ (formed_mseLoss D)
  | crossEntropyLoss logits oneHotTarget =>
      exact lockstep_runBinary _ _ (formed_crossEntropyLoss D)
  | linearCreate inFeatures outFeatures useBias =>
      exact lockstep_reply Reply.handle (lockstep_linearCreate inFeatures outFeatures useBias)
  | moduleForward module input =>
      exact (lockstep_lookupTensor input).bind fun id =>
        ((lockstep_lookupModule module).bind fun _ =>
          lockstep_onMemory (formed_moduleForward _ _)).bind fun _ => lockstep_handle _
  | moduleSetTraining module training =>
      exact lockstep_reply (fun _ => .done) (lockstep_moduleSetTraining module training)
  | moduleToDevice module device deviceIndex =>
      exact lockstep_reply (fun _ => .done) ((lockstep_lookupModule module).bind fun _ =>
        (lockstep_failIf _ _).bind fun _ => (lockstep_failIf _ _).bind fun _ => lockstep_failIf _ _)
  | moduleParameterCount module =>
      exact lockstep_reply Reply.number ((lockstep_lookupModule module).bind fun _ => .pure _)
  | moduleParameterAt module index =>
      exact (lockstep_moduleParameterAt module index).bind fun _ => lockstep_handle _
  | moduleBufferCount module =>
      exact lockstep_reply Reply.number ((lockstep_lookupModule module).bind fun _ => .pure _)
  | moduleBufferAt module index =>
      exact ((lockstep_lookupModule module).bind fun _ => .throw _).bind fun _ => lockstep_handle _
  | moduleSave module path =>
      exact lockstep_reply (fun _ => .done) (lockstep_moduleSave module path)
  | moduleLoad module path =>
      exact lockstep_reply (fun _ => .done) (lockstep_moduleLoad module path)
  | moduleRelease module =>
      exact lockstep_reply (fun _ => .done) (lockstep_onRegistry
        (HandleRegistry.lockstep_release rfl) (HandleRegistry.spares_release rfl)
        (HandleRegistry.spares_release rfl))
  | _ => cases hcall

theorem after_beside {call : Call F D} (hcall : call.onOptimizer = false) (s : Runtime F D) :
    Beside s s (after s call) (after s call) := by
  have h := lockstep_exec hcall s s (Beside.refl s)
  unfold after
  cases hx : exec call s with
  | ok reply s' => rw [hx] at h; exact h.2
  | error e s' => rw [hx] at h; exact h.2

end Api

end Tensora
