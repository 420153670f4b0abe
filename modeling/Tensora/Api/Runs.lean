import Tensora.Api.MutatingCalls

/-! Whole runs. A call keeps the invariant and either extends the tables with what it
recorded, or records nothing and writes to its targets at most. -/
namespace Tensora.Api
open ProgramLogic Training

variable {F D : Type}

/-- The calls that make tensors, and so may record an operation. -/
def Call.makesTensors : Call F D → Bool
  | .tensorFromF32 .. | .tensorFullF32 .. | .tensorToDevice .. | .tensorReshape ..
  | .tensorTranspose2D .. | .tensorAdd .. | .tensorMultiply .. | .tensorSum .. | .tensorMatmul ..
  | .tensorCloneDetached .. | .tensorWithRequiresGrad .. | .tensorGrad .. | .tensorRelu ..
  | .tensorSigmoid .. | .tensorTanh .. | .tensorGelu .. | .tensorSilu .. | .tensorSwiGlu ..
  | .mseLoss .. | .crossEntropyLoss .. | .linearCreate .. | .moduleForward .. => true
  | _ => false

variable [Scalar F] [Scalar D] [Precision F D] [FloatBits F] {s : Runtime F D}

def Call.Moves (call : Call F D) (s : Runtime F D) (h h' : Heap F) : Prop :=
  if call.makesTensors then Forwarded D h h' else Touches (s.heap.within (call.targets s)) h h'

omit [FloatBits F] in
theorem moves_unary {call : Call F D} (ok : s.Ok) (hcall : call.makesTensors = true) (tensor : Nat)
    {operation : TensorId → Mem F TensorId}
    (hop : ∀ id, s.heap.Visible id → Makes D (operation id) s.heap) :
    Stays (call.Moves s) (runUnary tensor operation) s := by
  have hm : call.Moves s = Forwarded D := by
    funext h h'
    rw [Call.Moves, if_pos hcall]
  rw [hm]
  exact stays_runUnary ok tensor hop

omit [FloatBits F] in
theorem moves_binary {call : Call F D} (ok : s.Ok) (hcall : call.makesTensors = true)
    (left right : Nat) {operation : TensorId → TensorId → Mem F TensorId}
    (hop : ∀ l r, s.heap.Visible l → s.heap.Visible r → Makes D (operation l r) s.heap) :
    Stays (call.Moves s) (runBinary left right operation) s := by
  have hm : call.Moves s = Forwarded D := by
    funext h h'
    rw [Call.Moves, if_pos hcall]
  rw [hm]
  exact stays_runBinary ok left right hop

theorem stays_exec (ok : s.Ok) (call : Call F D) : Stays (call.Moves s) (exec call) s := by
  have wf := ok.wellFormed
  have quiet := chained_touches (F := F) (s.heap.within (call.targets s))
  cases call with
  | tensorFromF32 data dims => exact stays_tensorFromF32 ok data dims
  | tensorFullF32 dims value => exact stays_tensorFullF32 ok dims value
  | tensorCopyToHostF32 tensor capacity => exact stays_tensorCopyToHostF32 quiet ok tensor capacity
  | tensorToDevice tensor device deviceIndex =>
      exact moves_unary ok rfl tensor fun id hv =>
        (forwards_transfer wf hv device deviceIndex).makes wf
  | tensorReshape tensor dims => exact stays_tensorReshape ok tensor dims
  | tensorTranspose2D tensor =>
      exact moves_unary ok rfl tensor fun id hv =>
        makes_dispatchedUnary wf hv ((CpuBackend.forwards_transpose2D wf hv).makes wf)
  | tensorAdd left right =>
      exact moves_binary ok rfl left right fun l r hl hr =>
        makes_dispatched wf hl hr ((CpuBackend.forwards_add wf hl hr).makes wf)
  | tensorMultiply left right =>
      exact moves_binary ok rfl left right fun l r hl hr =>
        makes_dispatched wf hl hr ((CpuBackend.forwards_multiply wf hl hr).makes wf)
  | tensorSum tensor =>
      exact moves_unary ok rfl tensor fun id hv =>
        makes_dispatchedUnary wf hv ((CpuBackend.forwards_sum wf hv).makes wf)
  | tensorMatmul left right =>
      exact moves_binary ok rfl left right fun l r hl hr =>
        makes_dispatched wf hl hr ((CpuBackend.forwards_matmul wf hl hr).makes wf)
  | tensorRetain tensor => exact stays_reply quiet _ (keeps_retain quiet ok tensor .tensor)
  | tensorRelease tensor => exact stays_reply quiet _ (keeps_release quiet ok tensor .tensor)
  | manualSeed seed =>
      refine stays_reply quiet _ ((keeps_modify quiet ok rfl ?_).mono fun _ _ _ => trivial)
      exact ⟨ok.wellFormed, ok.versioned, ok.tensors, ok.modules, ok.optimizers,
        ok.parameterOptimizers, ok.handles⟩
  | tensorIdentity tensor => exact stays_tensorIdentity quiet ok tensor
  | tensorCloneDetached tensor =>
      exact moves_unary ok rfl tensor fun id hv => Autograd.makes_cloneDetached wf hv.1
  | tensorAssignMany targets sources count =>
      exact stays_reply quiet _ (stays_assignMany ok targets sources count)
  | tensorWithRequiresGrad tensor requiresGrad =>
      exact moves_unary ok rfl tensor fun id hv => Autograd.makes_cloneAsLeaf wf hv requiresGrad
  | tensorRequiresGrad tensor => exact stays_tensorRequiresGrad quiet ok tensor
  | tensorSetRequiresGrad tensor requiresGrad =>
      have h := stays_reply (F := F) quiet (fun _ => .done)
        (stays_setRequiresGrad _ ok tensor requiresGrad)
      rw [bind_assoc] at h
      exact h
  | tensorBackward tensor =>
      have h := stays_reply (F := F) quiet (fun _ => .done) (stays_backward _ ok tensor)
      rw [bind_assoc] at h
      exact h
  | tensorGrad tensor =>
      exact moves_unary ok rfl tensor fun id hv => Autograd.makes_gradientSnapshot wf hv
  | tensorRelu tensor =>
      exact moves_unary ok rfl tensor fun id hv => (forwards_relu wf hv).makes wf
  | tensorSigmoid tensor =>
      exact moves_unary ok rfl tensor fun id hv => (forwards_sigmoid wf hv).makes wf
  | tensorTanh tensor =>
      exact moves_unary ok rfl tensor fun id hv => (forwards_tanh wf hv).makes wf
  | tensorGelu tensor =>
      exact moves_unary ok rfl tensor fun id hv => (forwards_gelu wf hv).makes wf
  | tensorSilu tensor =>
      exact moves_unary ok rfl tensor fun id hv => (forwards_silu wf hv).makes wf
  | tensorSwiGlu tensor =>
      exact moves_unary ok rfl tensor fun id hv => (forwards_swiGlu wf hv).makes wf
  | mseLoss prediction target =>
      exact moves_binary ok rfl prediction target fun l r hl hr =>
        (forwards_mseLoss wf hl hr).makes wf
  | crossEntropyLoss logits oneHotTarget =>
      exact moves_binary ok rfl logits oneHotTarget fun l r hl hr =>
        (forwards_crossEntropyLoss wf hl hr).makes wf
  | linearCreate inFeatures outFeatures useBias =>
      exact stays_linearCreate ok inFeatures outFeatures useBias
  | moduleForward module input => exact stays_moduleForward ok module input
  | moduleSetTraining module training =>
      exact stays_reply quiet _ (stays_moduleSetTraining quiet ok module training)
  | moduleToDevice module device deviceIndex =>
      exact stays_reply quiet _ (stays_moduleToDevice quiet ok module device deviceIndex)
  | moduleParameterCount module =>
      exact stays_reply quiet _ (stays_moduleParameterCount quiet ok module)
  | moduleParameterAt module index =>
      exact stays_fetchAndInsert quiet _ (keeps_moduleParameterAt quiet ok module index)
  | moduleBufferCount module => exact stays_reply quiet _ (stays_moduleBufferCount quiet ok module)
  | moduleBufferAt module index =>
      exact stays_fetchAndInsert quiet _ (keeps_moduleBufferAt quiet ok module index)
  | moduleSave module path => exact stays_reply quiet _ (stays_moduleSave quiet ok module path)
  | moduleLoad module path => exact stays_reply quiet _ (stays_moduleLoad ok module path)
  | moduleRelease module => exact stays_reply quiet _ (keeps_release quiet ok module .module)
  | optimizerCreate module kind hyper =>
      exact stays_reply quiet _ (stays_createOptimizer quiet ok module kind hyper)
  | optimizerZeroGrad optimizer =>
      exact stays_reply quiet _ (stays_optimizerZeroGrad _ ok optimizer)
  | optimizerStep optimizer => exact stays_reply quiet _ (stays_optimizerStep ok optimizer)
  | optimizerRelease optimizer =>
      exact stays_reply quiet _ (keeps_release quiet ok optimizer .optimizer)
  | createForTensors parameters kind hyper =>
      exact stays_reply quiet _ (stays_createForTensors quiet ok parameters kind hyper)
  | parameterOptimizerZeroGrad optimizer =>
      exact stays_reply quiet _ (stays_zeroGrad _ ok optimizer)
  | parameterOptimizerStep optimizer => exact stays_reply quiet _ (stays_cpuStep ok optimizer)
  | parameterOptimizerRelease optimizer =>
      exact stays_reply quiet _ (keeps_release quiet ok optimizer .parameterOptimizer)

omit [FloatBits F] in
theorem Call.Moves.evolves (ok : s.Ok) {call : Call F D} {h' : Heap F}
    (hm : call.Moves s s.heap h') : Evolves s.heap h' := by
  unfold Call.Moves at hm
  split at hm
  · exact hm.evolves ok.wellFormed
  · exact hm.unrecorded.evolves

theorem after_moves (ok : s.Ok) (call : Call F D) :
    (after s call).Ok ∧ call.Moves s s.heap (after s call).heap := by
  have h := stays_exec ok call
  unfold Stays Keeps wp at h
  unfold after
  cases hx : exec call s with
  | ok r s' =>
      rw [hx] at h
      exact ⟨h.1, h.2.1⟩
  | error e s' =>
      rw [hx] at h
      exact h

theorem run_evolves (ok : s.Ok) (calls : List (Call F D)) :
    (run s calls).Ok ∧ Evolves s.heap (run s calls).heap := by
  unfold run
  induction calls generalizing s with
  | nil => exact ⟨ok, Evolves.refl ok.wellFormed⟩
  | cons call calls ih =>
      obtain ⟨ok', hm⟩ := after_moves ok call
      obtain ⟨ok'', e⟩ := ih ok'
      exact ⟨ok'', (Call.Moves.evolves ok hm).trans e⟩

omit [Scalar F] [Scalar D] [Precision F D] [FloatBits F] in
theorem wellFormed_empty : WellFormed (Heap.empty F) where
  counters := rfl
  placed := by rintro _ _ ⟨⟩
  recorded := by rintro _ _ ⟨⟩
  owned := by rintro _ _ ⟨⟩
  unique := by rintro _ _ _ ⟨⟩

omit [Scalar F] [Scalar D] [Precision F D] [FloatBits F] in
theorem accounted_empty : (Heap.empty F).Accounted where
  draws := ⟨id, by rintro _ _ ⟨⟩, by rintro _ _ _ ⟨⟩, by rintro _ ⟨⟩⟩
  next := rfl
  backed := by rintro _ ⟨⟩

omit [Scalar F] [Scalar D] [Precision F D] [FloatBits F] in
theorem ok_initial (fails : Nat → Bool) (files : FileSystem) :
    (Runtime.initial fails files : Runtime F D).Ok where
  wellFormed := wellFormed_empty
  versioned := ⟨by rintro _ _ ⟨⟩, by rintro _ ⟨⟩⟩
  tensors := by rintro _ _ ⟨⟩
  modules := by rintro _ ⟨⟩
  optimizers := by rintro _ ⟨⟩
  parameterOptimizers := by rintro _ ⟨⟩
  handles := ⟨Nat.one_pos, by simp [Runtime.initial, HandleRegistry.initial, maxU64],
    fun _ _ => rfl⟩

theorem Reachable.ok (hs : Reachable s) : s.Ok := by
  obtain ⟨fails, files, calls, rfl⟩ := hs
  exact (run_evolves (ok_initial fails files) calls).1

theorem Reachable.settled (hs : Reachable s) : s.heap.Settled := by
  obtain ⟨fails, files, calls, rfl⟩ := hs
  exact (run_evolves (ok_initial fails files) calls).2.settled fun _ _ => rfl

theorem Reachable.accounted (hs : Reachable s) : s.heap.Accounted := by
  obtain ⟨fails, files, calls, rfl⟩ := hs
  exact (run_evolves (ok_initial fails files) calls).2.accounted accounted_empty

theorem Reachable.run (hs : Reachable s) (calls : List (Call F D)) :
    Reachable (Api.run s calls) := by
  obtain ⟨fails, files, before, rfl⟩ := hs
  exact ⟨fails, files, before ++ calls, (List.foldl_append (f := after)).symm⟩

def returns (s : Runtime F D) (call : Call F D) : Bool :=
  match exec call s with
  | .ok _ _ => true
  | .error _ _ => false

theorem ok_of_returns {call : Call F D} (h : returns s call = true) :
    ∃ reply, exec call s = .ok reply (after s call) := by
  unfold returns at h
  unfold after
  cases hx : exec call s with
  | ok reply s' => exact ⟨reply, rfl⟩
  | error e s' => rw [hx] at h; cases h

theorem error_of_returns {call : Call F D} (h : returns s call = false) :
    ∃ e, exec call s = .error e (after s call) := by
  unfold returns at h
  unfold after
  cases hx : exec call s with
  | ok reply s' => rw [hx] at h; cases h
  | error e s' => exact ⟨e, rfl⟩

def replyOf (s : Runtime F D) (call : Call F D) : Option (Reply F) :=
  match exec call s with
  | .ok reply _ => some reply
  | .error _ _ => none

theorem ok_of_replyOf {call : Call F D} {reply : Reply F} (h : replyOf s call = some reply) :
    exec call s = .ok reply (after s call) := by
  unfold replyOf at h
  unfold after
  cases hx : exec call s with
  | ok reply' s' => rw [hx] at h; cases h; rfl
  | error e s' => rw [hx] at h; cases h

end Tensora.Api
