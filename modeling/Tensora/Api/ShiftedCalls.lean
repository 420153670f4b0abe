import Tensora.Api.Metadata
import Tensora.Api.ObliviousCalls
import Tensora.Runtime.Shifted

/-! The calls on tensors end alike in two states of which the second has issued more handles. -/
namespace Tensora.Api
open ProgramLogic Training Autograd

variable {F D α : Type} {n k room : Nat}

/-- The call on the same tensors where `k` more handles have been issued after `n`. -/
def Call.shifted (n k : Nat) : Call F D → Call F D
  | .tensorCopyToHostF32 tensor capacity => .tensorCopyToHostF32 (shift n k tensor) capacity
  | .tensorToDevice tensor device deviceIndex =>
      .tensorToDevice (shift n k tensor) device deviceIndex
  | .tensorReshape tensor dims => .tensorReshape (shift n k tensor) dims
  | .tensorTranspose2D tensor => .tensorTranspose2D (shift n k tensor)
  | .tensorAdd left right => .tensorAdd (shift n k left) (shift n k right)
  | .tensorMultiply left right => .tensorMultiply (shift n k left) (shift n k right)
  | .tensorSum tensor => .tensorSum (shift n k tensor)
  | .tensorMatmul left right => .tensorMatmul (shift n k left) (shift n k right)
  | .tensorRelease tensor => .tensorRelease (shift n k tensor)
  | .tensorWithRequiresGrad tensor requiresGrad =>
      .tensorWithRequiresGrad (shift n k tensor) requiresGrad
  | .tensorRequiresGrad tensor => .tensorRequiresGrad (shift n k tensor)
  | .tensorBackward tensor => .tensorBackward (shift n k tensor)
  | .tensorGrad tensor => .tensorGrad (shift n k tensor)
  | .tensorRelu tensor => .tensorRelu (shift n k tensor)
  | .tensorSigmoid tensor => .tensorSigmoid (shift n k tensor)
  | .tensorTanh tensor => .tensorTanh (shift n k tensor)
  | .tensorGelu tensor => .tensorGelu (shift n k tensor)
  | .tensorSilu tensor => .tensorSilu (shift n k tensor)
  | .tensorSwiGlu tensor => .tensorSwiGlu (shift n k tensor)
  | .mseLoss prediction target => .mseLoss (shift n k prediction) (shift n k target)
  | .crossEntropyLoss logits oneHotTarget =>
      .crossEntropyLoss (shift n k logits) (shift n k oneHotTarget)
  | call => call

/-- The calls a Dart tensor makes. -/
def Call.ofTensor : Call F D → Bool
  | .tensorFromF32 .. | .tensorFullF32 .. | .tensorCopyToHostF32 .. | .tensorToDevice ..
  | .tensorReshape .. | .tensorTranspose2D .. | .tensorAdd .. | .tensorMultiply ..
  | .tensorSum .. | .tensorMatmul .. | .tensorRelease .. | .tensorWithRequiresGrad ..
  | .tensorRequiresGrad .. | .tensorBackward .. | .tensorGrad .. | .tensorRelu ..
  | .tensorSigmoid .. | .tensorTanh .. | .tensorGelu .. | .tensorSilu .. | .tensorSwiGlu ..
  | .mseLoss .. | .crossEntropyLoss .. => true
  | _ => false

def Reply.shifted (n k : Nat) : Reply F → Reply F
  | .handle issued => .handle (shift n k issued)
  | reply => reply

theorem coupled_handle (tensor : TensorId) :
    Coupled (Abreast n k (room + 1)) (fun reply reply' => reply' = reply.shifted n k)
      (Abreast n k room) (do return .handle (← insertTensor tensor) : Native F D (Reply F))
      (do return .handle (← insertTensor tensor)) :=
  (coupled_insertTensor tensor).bind (fun _ _ h => h)
    fun _ _ hhandle => .pure (congrArg Reply.handle hhandle)

theorem coupled_runUnary (tensor : Nat) {operation : TensorId → Mem F TensorId}
    (hop : ∀ id, Formed (operation id)) :
    Coupled (Abreast n k (room + 1)) (fun reply reply' => reply' = reply.shifted n k)
      (Abreast n k room) (runUnary tensor operation : Native F D (Reply F))
      (runUnary (shift n k tensor) operation) := by
  refine Coupled.seq coupled_lookupTensor (fun _ _ h => h.less) ?_
  rintro id _ rfl
  refine Coupled.seq (coupled_onMemory (hop id)) (fun _ _ h => h.less) ?_
  rintro result _ rfl
  exact coupled_handle result

theorem coupled_runBinary (left right : Nat) {operation : TensorId → TensorId → Mem F TensorId}
    (hop : ∀ l r, Formed (operation l r)) :
    Coupled (Abreast n k (room + 1)) (fun reply reply' => reply' = reply.shifted n k)
      (Abreast n k room) (runBinary left right operation : Native F D (Reply F))
      (runBinary (shift n k left) (shift n k right) operation) := by
  refine Coupled.seq coupled_lookupTensor (fun _ _ h => h.less) ?_
  rintro l _ rfl
  refine Coupled.seq coupled_lookupTensor (fun _ _ h => h.less) ?_
  rintro r _ rfl
  refine Coupled.seq (coupled_onMemory (hop l r)) (fun _ _ h => h.less) ?_
  rintro result _ rfl
  exact coupled_handle result

theorem onMemory_map {β : Type} (program : Mem F α) (f : α → β) :
    (onMemory (do return f (← program)) : Native F D β) = do return f (← onMemory program) := by
  funext s
  change onMemory (EStateM.bind program fun a => EStateM.pure (f a)) s =
    EStateM.bind (onMemory program) (fun a => EStateM.pure (f a)) s
  unfold onMemory EStateM.bind
  dsimp only
  cases program s.memory <;> rfl

theorem coupled_reply {x y : Native F D α} (reply : α → Reply F)
    (hreply : ∀ a, (reply a).shifted n k = reply a)
    (h : Coupled (Abreast n k room) (· = ·) (Abreast n k room) x y) :
    Coupled (Abreast n k (room + 1)) (fun reply reply' => reply' = reply.shifted n k)
      (Abreast n k room) (do return reply (← x)) (do return reply (← y)) := by
  refine Coupled.weaken (P := Abreast n k room) (h.seq (fun _ _ h => h) ?_) fun _ _ h => h.less
  rintro a _ rfl
  exact .pure (hreply a).symm

theorem coupled_reads (tensor : Nat) {program : TensorId → Mem F α}
    (hp : ∀ id, Formed (program id)) :
    Coupled (Abreast n k room) (· = ·) (Abreast n k room)
      (do let object ← lookupTensor tensor; onMemory (program object) : Native F D α)
      (do let object ← lookupTensor (shift n k tensor); onMemory (program object)) := by
  refine Coupled.seq coupled_lookupTensor (fun _ _ h => h) ?_
  rintro id _ rfl
  exact coupled_onMemory (hp id)

theorem coupled_onTensor (tensor : Nat) {program : TensorId → Mem F α} (reply : α → Reply F)
    (hreply : ∀ a, (reply a).shifted n k = reply a) (hp : ∀ id, Formed (program id)) :
    Coupled (Abreast n k (room + 1)) (fun reply reply' => reply' = reply.shifted n k)
      (Abreast n k room)
      (do let object ← lookupTensor tensor; let r ← onMemory (program object); return reply r :
        Native F D (Reply F))
      (do let object ← lookupTensor (shift n k tensor); let r ← onMemory (program object)
          return reply r) := by
  have hreads : Coupled (Abreast n k room) (· = ·) (Abreast n k room)
      (do let object ← lookupTensor tensor; onMemory (program object) : Native F D α)
      (do let object ← lookupTensor (shift n k tensor); onMemory (program object)) :=
    coupled_reads tensor hp
  have h := coupled_reply reply hreply hreads
  rwa [bind_assoc, bind_assoc] at h

variable [Scalar F] [Scalar D] [Precision F D] [FloatBits F]

theorem coupled_exec {call : Call F D} (hcall : call.ofTensor = true) :
    Coupled (Abreast n k (room + 1)) (fun reply reply' => reply' = reply.shifted n k)
      (Abreast n k room) (exec call) (exec (call.shifted n k)) := by
  cases call with
  | tensorFromF32 data dims =>
      refine Coupled.seq (coupled_onMemory (formed_validatedShape dims)) (fun _ _ h => h.less) ?_
      rintro shape _ rfl
      refine Coupled.seq (.of_lockstep (lockstep_failIf _ _)) (fun _ _ h => h.less) fun _ _ _ => ?_
      refine Coupled.seq (coupled_onMemory (CpuBackend.formed_fromData shape data))
        (fun _ _ h => h.less) ?_
      rintro result _ rfl
      exact coupled_handle result
  | tensorFullF32 dims value =>
      refine Coupled.seq (coupled_onMemory (formed_validatedShape dims)) (fun _ _ h => h.less) ?_
      rintro shape _ rfl
      refine Coupled.seq (coupled_onMemory (CpuBackend.formed_full shape value))
        (fun _ _ h => h.less) ?_
      rintro result _ rfl
      exact coupled_handle result
  | tensorCopyToHostF32 tensor capacity =>
      have hvalues : ∀ object : Nat, (exec (.tensorCopyToHostF32 object capacity : Call F D)) =
          do
            let id ← lookupTensor object
            let r ← onMemory do
              let t ← deref id
              failIf (capacity < t.numel) (invalidArgument
                "tensor_copy_to_host_f32: output capacity is smaller than tensor")
              t.copyToHostF32 capacity
            return Reply.values r := by
        intro object
        simp only [← onMemory_map, bind_assoc]
        rfl
      rw [Call.shifted, hvalues, hvalues]
      exact coupled_onTensor tensor .values (fun _ => rfl) fun id => (formed_deref id).bind fun t =>
        (formed_failIf _ _).bind fun _ => formed_copyToHostF32 t capacity
  | tensorToDevice tensor device deviceIndex =>
      exact coupled_runUnary tensor fun id => formed_transfer id device deviceIndex
  | tensorReshape tensor dims =>
      refine Coupled.seq (coupled_onMemory (formed_validatedShape dims)) (fun _ _ h => h.less) ?_
      rintro shape _ rfl
      exact coupled_runUnary tensor (formed_dispatchedUnary fun id =>
        CpuBackend.formed_reshape id shape)
  | tensorTranspose2D tensor =>
      exact coupled_runUnary tensor (formed_dispatchedUnary CpuBackend.formed_transpose2D)
  | tensorAdd left right =>
      exact coupled_runBinary left right (formed_dispatched fun l r =>
        CpuBackend.formed_elementwise _ _ _ l r)
  | tensorMultiply left right =>
      exact coupled_runBinary left right (formed_dispatched fun l r =>
        CpuBackend.formed_elementwise _ _ _ l r)
  | tensorSum tensor =>
      exact coupled_runUnary tensor (formed_dispatchedUnary CpuBackend.formed_sum)
  | tensorMatmul left right =>
      exact coupled_runBinary left right (formed_dispatched CpuBackend.formed_matmul)
  | tensorRelease tensor =>
      exact coupled_reply (fun _ => .done) (fun _ => rfl)
        (coupled_onRegistry (HandleRegistry.coupled_release_shift rfl))
  | tensorWithRequiresGrad tensor requiresGrad =>
      exact coupled_runUnary tensor fun id => formed_cloneAsLeaf id requiresGrad
  | tensorRequiresGrad tensor =>
      exact coupled_onTensor tensor .flag (fun _ => rfl) formed_requiresGrad
  | tensorBackward tensor =>
      exact coupled_onTensor tensor (fun _ => .done) (fun _ => rfl) fun id =>
        formed_backward id
  | tensorGrad tensor => exact coupled_runUnary tensor formed_gradientSnapshot
  | tensorRelu tensor => exact coupled_runUnary tensor fun id => formed_makeActivation id .relu
  | tensorSigmoid tensor =>
      exact coupled_runUnary tensor fun id => formed_makeActivation id .sigmoid
  | tensorTanh tensor => exact coupled_runUnary tensor fun id => formed_makeActivation id .tanh
  | tensorGelu tensor => exact coupled_runUnary tensor fun id => formed_cpuUnary id _ _ _
  | tensorSilu tensor => exact coupled_runUnary tensor fun id => formed_cpuUnary id _ _ _
  | tensorSwiGlu tensor => exact coupled_runUnary tensor formed_swiGlu
  | mseLoss prediction target => exact coupled_runBinary prediction target (formed_mseLoss D)
  | crossEntropyLoss logits oneHotTarget =>
      exact coupled_runBinary logits oneHotTarget (formed_crossEntropyLoss D)
  | _ => cases hcall

end Tensora.Api
