import Tensora.Tensor.Formed

/-! The autograd programs are formed from the operations of the memory. -/
namespace Tensora.Autograd

variable {F : Type}

theorem formed_ensureCpuFloat32 (t : Tensor) (operation : String) :
    Formed (ensureCpuFloat32 t operation : Mem F Unit) :=
  (formed_failIf _ _).bind fun _ => formed_failIf _ _

theorem formed_cpuValues (tensor : TensorId) (operation : String) :
    Formed (cpuValues tensor operation : Mem F (List F)) :=
  (formed_deref tensor).bind fun t => (formed_ensureCpuFloat32 t operation).bind fun _ =>
    (formed_failIf _ _).bind fun _ => (formed_storageValues t).bind fun _ =>
      (formed_failIf _ _).bind fun _ => .pure _

theorem formed_mutableCpuValues (tensor : TensorId) (operation : String) :
    Formed (mutableCpuValues tensor operation : Mem F (List F)) :=
  (formed_deref tensor).bind fun t => (formed_ensureCpuFloat32 t operation).bind fun _ =>
    (formed_failIf _ _).bind fun _ => (formed_storageValues t).bind fun _ =>
      (formed_failIf _ _).bind fun _ => .pure _

theorem formed_readLogicalCpuValues (tensor : TensorId) (operation : String) :
    Formed (readLogicalCpuValues tensor operation : Mem F (List F)) :=
  (formed_deref tensor).bind fun t => (formed_ensureCpuFloat32 t operation).bind fun _ =>
    (formed_allocationGuard operation (formed_allocateFloats t.numel)).bind fun _ =>
      formed_copyToHostF32 t t.numel

theorem formed_makeCpuTensor (shape : ShapeInfo) (values : List F) :
    Formed (makeCpuTensor shape values) := by
  refine (formed_failIf _ _).bind fun _ => formed_allocate.bind fun _ => ?_
  split
  · exact .throw _
  · exact (formed_failIf _ _).bind fun _ => (formed_cpuStorageFromData _ _).bind fun _ =>
      formed_allocationGuard _ (formed_makeSharedTensor _ _)

theorem formed_makeCpuFull (shape : ShapeInfo) (value : F) :
    Formed (makeCpuFull shape value) :=
  (formed_cpuStorageFilled _ _).bind fun _ =>
    formed_allocationGuard _ (formed_makeSharedTensor _ _)

theorem formed_cloneDetached (source : TensorId) :
    Formed (cloneDetached source : Mem F TensorId) :=
  (formed_readLogicalCpuValues source _).bind fun _ => (formed_deref source).bind fun _ =>
    formed_makeCpuTensor _ _

theorem formed_requiresGrad (tensor : TensorId) :
    Formed (requiresGrad tensor : Mem F Bool) :=
  (formed_deref tensor).bind fun _ => .pure _

theorem formed_setAutogradMeta (tensor : TensorId) (autogradMeta : AutogradMeta) :
    Formed (setAutogradMeta tensor autogradMeta : Mem F Unit) :=
  (formed_deref tensor).bind fun _ => formed_modifyHeap _ fun _ => rfl

theorem formed_cloneAsLeaf (source : TensorId) (requiresGrad : Bool) :
    Formed (cloneAsLeaf source requiresGrad : Mem F TensorId) :=
  (formed_cloneDetached source).bind fun out => formed_allocate.bind fun _ =>
    (formed_setAutogradMeta out _).bind fun _ => .pure _

theorem formed_anyRequiresGrad (parents : List TensorId) :
    Formed (anyRequiresGrad parents : Mem F Bool) := by
  induction parents with
  | nil => exact .pure _
  | cons parent parents ih =>
      exact (formed_requiresGrad parent).bind fun _ => .ite (fun _ => .pure _) fun _ => ih

theorem formed_attachNode (result : TensorId) (operation : Operation) (parents : List TensorId) :
    Formed (attachNode result operation parents : Mem F Unit) := by
  refine (formed_anyRequiresGrad parents).bind fun _ => .ite (fun _ => ?_) fun _ => .pure _
  exact formed_allocate.bind fun _ => formed_allocate.bind fun _ =>
    (Formed.mapM (fun parent => (formed_deref parent).bind formed_version) parents).bind
      fun _ => formed_allocate.bind fun _ => formed_setAutogradMeta _ _

theorem formed_recordUnary (operation : Operation) (input result : TensorId) :
    Formed (recordUnary operation input result : Mem F Unit) :=
  (formed_requiresGrad input).bind fun _ => .ite
    (fun _ => formed_allocate.bind fun _ => formed_attachNode _ _ _) fun _ => .pure _

theorem formed_recordBinary (operation : Operation) (left right result : TensorId) :
    Formed (recordBinary operation left right result : Mem F Unit) :=
  (formed_requiresGrad left).bind fun _ => (formed_requiresGrad right).bind fun _ => .ite
    (fun _ => formed_allocate.bind fun _ => formed_attachNode _ _ _) fun _ => .pure _

theorem formed_gradientSnapshot (tensor : TensorId) :
    Formed (gradientSnapshot tensor : Mem F TensorId) := by
  refine (formed_deref tensor).bind fun _ => ?_
  split
  · exact .throw _
  · exact formed_cloneDetached _

theorem formed_clearGradient (tensor : TensorId) :
    Formed (clearGradient tensor : Mem F Unit) := by
  refine (formed_deref tensor).bind fun _ => ?_
  split
  · exact .pure _
  · exact formed_modifyHeap _ fun _ => rfl

theorem formed_validateSavedVersions (node : GradNode) :
    Formed (validateSavedVersions node : Mem F Unit) :=
  (formed_failIf _ _).bind fun _ => .forM (fun (parent, _) =>
    (formed_deref parent).bind fun t => (formed_version t).bind fun _ =>
      formed_failIf _ _) _

section Accumulation
variable [Add F]

theorem formed_addInPlace (destination source : TensorId) :
    Formed (addInPlace destination source : Mem F Unit) :=
  (formed_deref destination).bind fun _ => (formed_deref source).bind fun _ =>
    (formed_failIf _ _).bind fun _ => (formed_mutableCpuValues destination _).bind fun _ =>
      (formed_readLogicalCpuValues source _).bind fun _ => (formed_checked _).bind fun _ =>
        (formed_deref destination).bind fun _ => formed_modifyHeap _ fun _ => rfl

theorem formed_accumulate (destination : Option TensorId) (contribution : TensorId) :
    Formed (accumulate destination contribution : Mem F TensorId) := by
  cases destination with
  | none => exact formed_cloneDetached contribution
  | some destination => exact (formed_addInPlace destination contribution).bind fun _ => .pure _

end Accumulation

theorem formed_emit (parent contribution : TensorId) (out : List GradientContribution) :
    Formed (emit parent contribution out : Mem F (List GradientContribution)) :=
  (formed_requiresGrad parent).bind fun _ => .ite
    (fun _ => formed_allocate.bind fun _ => .pure _) fun _ => .pure _

theorem formed_contribute (parent : TensorId) (kernel : Except CheckedLoop.Fault (List F))
    (out : List GradientContribution) : Formed (contribute parent kernel out) :=
  (formed_requiresGrad parent).bind fun _ => .ite
    (fun _ => formed_allocate.bind fun _ => (formed_checked _).bind fun _ =>
      (formed_deref parent).bind fun _ => (formed_makeCpuTensor _ _).bind fun _ =>
        formed_emit _ _ _) fun _ => .pure _

theorem formed_firstParent (node : GradNode) :
    Formed (firstParent node : Mem F TensorId) := by
  unfold firstParent
  split
  · exact .pure _
  · exact .throw _

theorem formed_copyToParents (upstream : TensorId) (parents : List TensorId)
    (out : List GradientContribution) :
    Formed (copyToParents upstream parents out : Mem F (List GradientContribution)) := by
  induction parents generalizing out with
  | nil => exact .pure _
  | cons parent parents ih =>
      exact (formed_requiresGrad parent).bind fun _ => .ite
        (fun _ => (formed_cloneDetached upstream).bind fun _ =>
          (formed_emit _ _ _).bind fun out => ih out) fun _ => ih out

theorem formed_cloneWithShape (source : TensorId) (shape : ShapeInfo) :
    Formed (cloneWithShape source shape : Mem F TensorId) :=
  (formed_deref source).bind fun _ => (formed_failIf _ _).bind fun _ =>
    (formed_readLogicalCpuValues _ _).bind fun _ => formed_makeCpuTensor _ _

theorem formed_applyIdentity (node : GradNode) (upstream : TensorId) :
    Formed (applyIdentity node upstream : Mem F _) :=
  (formed_cloneDetached upstream).bind fun _ => (formed_firstParent node).bind fun _ =>
    formed_emit _ _ _

theorem formed_applyReshape (node : GradNode) (upstream : TensorId) :
    Formed (applyReshape node upstream : Mem F _) :=
  (formed_firstParent node).bind fun parent => (formed_deref parent).bind fun _ =>
    (formed_cloneWithShape _ _).bind fun _ => formed_emit _ _ _

theorem formed_applySum (node : GradNode) (grad : List F) : Formed (applySum node grad) := by
  unfold applySum
  split
  · exact (formed_firstParent node).bind fun parent => (formed_deref parent).bind fun _ =>
      (formed_makeCpuFull _ _).bind fun _ => formed_emit _ _ _
  · exact .throw _

section Nodes
variable [Scalar F]

theorem formed_transposeGradient (source : TensorId) :
    Formed (transposeGradient source : Mem F TensorId) := by
  refine (formed_deref source).bind fun _ => ?_
  split
  · exact (formed_validatedShape _).bind fun _ =>
      (formed_readLogicalCpuValues _ _).bind fun _ => formed_allocate.bind fun _ =>
        (formed_checked _).bind fun _ => formed_makeCpuTensor _ _
  · exact .throw _

theorem formed_applyTranspose (node : GradNode) (upstream : TensorId) :
    Formed (applyTranspose node upstream : Mem F _) :=
  (formed_transposeGradient upstream).bind fun _ => (formed_firstParent node).bind fun _ =>
    formed_emit _ _ _

theorem formed_applyMultiply (node : GradNode) (grad : List F) :
    Formed (applyMultiply node grad) := by
  unfold applyMultiply
  split
  · exact (formed_readLogicalCpuValues _ _).bind fun _ =>
      (formed_readLogicalCpuValues _ _).bind fun _ => (formed_failIf _ _).bind fun _ =>
        (formed_contribute _ _ _).bind fun _ => formed_contribute _ _ _
  · exact .throw _

theorem formed_applyMatmul (node : GradNode) (upstream : TensorId) (grad : List F) :
    Formed (applyMatmul node upstream grad) := by
  unfold applyMatmul
  split
  · refine (formed_deref _).bind fun _ => (formed_deref _).bind fun _ =>
      (formed_deref _).bind fun _ => ?_
    split
    · exact (formed_readLogicalCpuValues _ _).bind fun _ =>
        (formed_readLogicalCpuValues _ _).bind fun _ =>
          (formed_contribute _ _ _).bind fun _ => formed_contribute _ _ _
    · exact .throw _
  · exact .throw _

theorem formed_applyActivation (node : GradNode) (grad : List F) :
    Formed (applyActivation node grad) :=
  (formed_firstParent node).bind fun parent => (formed_readLogicalCpuValues _ _).bind fun _ =>
    (formed_failIf _ _).bind fun _ => formed_allocate.bind fun _ =>
      (formed_checked _).bind fun _ => (formed_deref parent).bind fun _ =>
        (formed_makeCpuTensor _ _).bind fun _ => formed_emit _ _ _

theorem formed_applySwiGlu (node : GradNode) (grad : List F) :
    Formed (applySwiGlu node grad) := by
  unfold applySwiGlu
  split
  · refine (formed_deref _).bind fun _ => ?_
    split
    · exact .throw _
    · exact (formed_failIf _ _).bind fun _ => (formed_failIf _ _).bind fun _ =>
        (formed_readLogicalCpuValues _ _).bind fun _ => formed_allocate.bind fun _ =>
          (formed_checked _).bind fun _ => (formed_makeCpuTensor _ _).bind fun _ =>
            formed_emit _ _ _
  · exact .throw _

theorem formed_applyMse (node : GradNode) (grad : List F) : Formed (applyMse node grad) := by
  unfold applyMse
  split
  · exact (formed_readLogicalCpuValues _ _).bind fun _ =>
      (formed_readLogicalCpuValues _ _).bind fun _ =>
        (formed_contribute _ _ _).bind fun _ => formed_contribute _ _ _
  · exact .throw _

theorem formed_applyCrossEntropy (node : GradNode) (grad : List F) :
    Formed (applyCrossEntropy node grad) := by
  unfold applyCrossEntropy
  split
  · refine (formed_deref _).bind fun _ => (formed_deref _).bind fun _ => ?_
    split
    · exact (formed_readLogicalCpuValues _ _).bind fun _ =>
        (formed_readLogicalCpuValues _ _).bind fun _ =>
          (formed_contribute _ _ _).bind fun _ => formed_contribute _ _ _
    · exact .throw _
  · exact .throw _

theorem formed_applyBiasAdd (node : GradNode) (upstream : TensorId) (grad : List F) :
    Formed (applyBiasAdd node upstream grad) := by
  unfold applyBiasAdd
  split
  · refine (formed_deref _).bind fun _ => (formed_deref _).bind fun _ => ?_
    split
    · exact (formed_failIf _ _).bind fun _ => (formed_copyToParents _ _ _).bind fun _ =>
        formed_contribute _ _ _
    · exact .throw _
  · exact .throw _

theorem formed_applyNode (node : GradNode) (upstream : TensorId) :
    Formed (applyNode node upstream : Mem F _) := by
  refine (formed_validateSavedVersions node).bind fun _ =>
    (formed_readLogicalCpuValues upstream _).bind fun grad => ?_
  cases node.operation with
  | identity => exact formed_applyIdentity node upstream
  | reshape => exact formed_applyReshape node upstream
  | transpose2D => exact formed_applyTranspose node upstream
  | add => exact formed_copyToParents _ _ _
  | multiply => exact formed_applyMultiply node grad
  | sum => exact formed_applySum node grad
  | matmul => exact formed_applyMatmul node upstream grad
  | swiGlu => exact formed_applySwiGlu node grad
  | mse => exact formed_applyMse node grad
  | crossEntropy => exact formed_applyCrossEntropy node grad
  | biasAdd => exact formed_applyBiasAdd node upstream grad
  | _ => exact formed_applyActivation node grad

theorem formed_accumulateLeaf (leaf gradient : TensorId) :
    Formed (accumulateLeaf leaf gradient : Mem F Unit) := by
  refine (formed_deref leaf).bind fun _ => ?_
  split
  · exact .throw _
  · exact (formed_accumulate _ _).bind fun _ => formed_setAutogradMeta _ _

theorem formed_deliver (sweep : Sweep F) (contribution : GradientContribution) :
    Formed (deliver sweep contribution) :=
  formed_allocate.bind fun _ => (formed_accumulate _ _).bind fun _ => .pure _

omit [Scalar F] in
theorem formed_buildTopology (fuel : Nat) (value : TensorId) (traversal : Traversal) :
    Formed (buildTopology fuel value traversal : Mem F Traversal) := by
  induction fuel generalizing value traversal with
  | zero => exact .throw _
  | succ fuel ih =>
      refine formed_allocate.bind fun _ => .ite (fun _ => .pure _) fun _ =>
        (formed_deref value).bind fun t => ?_
      cases t.gradFn with
      | none => exact formed_allocate.bind fun _ => .pure _
      | some node =>
          exact (Formed.foldlM (fun traversal parent => ih parent traversal) _ _).bind fun _ =>
            formed_allocate.bind fun _ => .pure _

omit [Scalar F] in
theorem formed_validateTopology (topology : List TensorId) :
    Formed (validateTopology topology : Mem F Unit) := by
  refine .forM (fun value => (formed_deref value).bind fun t => ?_) topology
  cases t.gradFn with
  | none => exact .pure _
  | some node => exact formed_validateSavedVersions node

theorem formed_applied (sweep : Sweep F) (value upstream : TensorId) (node : GradNode) :
    Formed (do
      let operands := node.parents.map (← getHeap).contents
      let contributions ← applyNode node upstream
      let sweep ← contributions.foldlM deliver sweep
      return { sweep with applied := sweep.applied ++ [{
        tensor := value
        operands := operands
        contributed := contributions.map (·.parent) }] } : Mem F (Sweep F)) :=
  .read (fun _ => (formed_applyNode _ _).bind fun _ =>
    (Formed.foldlM formed_deliver _ _).bind fun _ => .pure _) fun _ => rfl

theorem formed_sweepStep (sweep : Sweep F) (value : TensorId) :
    Formed (sweepStep sweep value) := by
  unfold sweepStep
  cases sweep.gradients value with
  | none => exact .pure _
  | some upstream =>
    refine (formed_deref value).bind fun t => ?_
    cases t.autogradMeta with
    | none => exact .pure _
    | some autogradMeta =>
        dsimp only
        cases autogradMeta.gradFn with
        | none =>
            exact .ite (fun _ => (formed_accumulateLeaf _ _).bind fun _ => .pure _) fun _ => .pure _
        | some node =>
            have hrest := formed_applied sweep value upstream node
            exact .ite (fun _ => (formed_accumulateLeaf _ _).bind fun _ => hrest) fun _ => hrest

theorem formed_backwardTrace (root : TensorId) :
    Formed (backwardTrace root : Mem F _) :=
  (formed_deref root).bind fun _ => (formed_failIf _ _).bind fun _ =>
    (formed_failIf _ _).bind fun _ => .read (fun _ =>
      (formed_buildTopology _ _ _).bind fun _ => (formed_validateTopology _).bind fun _ =>
        (formed_makeCpuFull _ _).bind fun _ => formed_allocate.bind fun _ =>
          (Formed.foldlM formed_sweepStep _ _).bind fun _ => .pure _) fun _ => rfl

theorem formed_backward (root : TensorId) : Formed (backward root : Mem F Unit) :=
  (formed_backwardTrace root).bind fun _ => .pure _

end Nodes

end Tensora.Autograd
