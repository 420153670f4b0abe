import Tensora.Api.Calls
import Tensora.Runtime.Holdings

/-! What a call does to the table of handles: one kind of call adds one entry when it returns,
retaining and releasing change the one they name, and no other call touches it. -/
namespace Tensora
open ProgramLogic

variable {F D α β : Type}

open HandleRegistry (Issued)

def LeavesHandles (x : Native F D α) : Prop :=
  ∀ s, wp x (fun _ s' => s'.registry.entries = s.registry.entries)
    (fun _ s' => s'.registry.entries = s.registry.entries) s

/-- The program returns a new handle, or it fails and the entries are the same. -/
def GivesHandle (type : HandleType) (x : Native F D Nat) : Prop :=
  ∀ s, wp x (fun handle s' => Issued type handle s.registry s'.registry)
    (fun _ s' => s'.registry.entries = s.registry.entries) s

section Rules
variable {x : Native F D α} {type : HandleType}

theorem leavesHandles_bind {f : α → Native F D β} (hx : LeavesHandles x)
    (hf : ∀ r, LeavesHandles (f r)) : LeavesHandles (x >>= f) := by
  intro s
  refine wp_seq (hx s) (fun _ _ he => he) fun r s₁ h => ?_
  exact wp_mono (hf r s₁) (fun _ _ h' => h'.trans h) fun _ _ h' => h'.trans h

theorem leavesHandles_pure (r : α) : LeavesHandles (pure r : Native F D α) := fun _ => rfl

theorem leavesHandles_throw (e : Failure) : LeavesHandles (throw e : Native F D α) := fun _ => rfl

theorem leavesHandles_get : LeavesHandles (get : Native F D (Runtime F D)) := fun _ => rfl

theorem leavesHandles_modify {g : Runtime F D → Runtime F D}
    (hg : ∀ s, (g s).registry = s.registry) : LeavesHandles (modify g : Native F D PUnit) := by
  intro s
  rw [wp_modify, hg]

theorem leavesHandles_failIf (condition : Prop) [Decidable condition] (e : Failure) :
    LeavesHandles (failIf condition e : Native F D Unit) := by
  intro s
  rw [wp_failIf]
  exact ⟨fun _ => rfl, fun _ => rfl⟩

theorem leavesHandles_onMemory (program : Mem F α) :
    LeavesHandles (onMemory program : Native F D α) := by
  intro s
  rw [wp_onMemory]
  exact wp_mono wp_any (fun _ _ _ => rfl) fun _ _ _ => rfl

theorem leavesHandles_lookup (handle : Nat) (type : HandleType) :
    LeavesHandles (onRegistry (HandleRegistry.lookup handle type) : Native F D Nat) := by
  intro s
  rw [wp_onRegistry]
  refine wp_mono (HandleRegistry.wp_lookup s.registry handle type) ?_ ?_
  · intro _ _ h
    rw [h.1]
  · intro _ _ h
    rw [h]

theorem leavesHandles_ite {condition : Prop} [Decidable condition] {y : Native F D α}
    (hx : LeavesHandles x) (hy : LeavesHandles y) :
    LeavesHandles (if condition then x else y) := by
  split
  · exact hx
  · exact hy

theorem leavesHandles_forM {g : α → Native F D PUnit} (hg : ∀ r, LeavesHandles (g r))
    (xs : List α) : LeavesHandles (xs.forM g) := by
  intro s
  refine wp_forM (fun _ _ s' => s'.registry.entries = s.registry.entries) xs rfl ?_ fun _ h => h
  intro _ r _ s₁ _ h
  exact wp_mono (hg r s₁) (fun _ _ h' => h'.trans h) fun _ _ h' => h'.trans h

theorem leavesHandles_foldlM {g : β → α → Native F D β} (hg : ∀ b r, LeavesHandles (g b r))
    (xs : List α) (b : β) : LeavesHandles (xs.foldlM g b) := by
  intro s
  refine wp_foldlM (fun _ _ _ s' => s'.registry.entries = s.registry.entries) xs rfl ?_
    fun _ _ h => h
  intro _ r _ b s₁ _ h
  exact wp_mono (hg b r s₁) (fun _ _ h' => h'.trans h) fun _ _ h' => h'.trans h

theorem givesHandle_bind {f : α → Native F D Nat} (hx : LeavesHandles x)
    (hf : ∀ r, GivesHandle type (f r)) : GivesHandle type (x >>= f) := by
  intro s
  refine wp_seq (hx s) (fun _ _ he => he) fun r s₁ h => ?_
  exact wp_mono (hf r s₁) (fun _ _ h' => h'.of_entries h) fun _ _ h' => h'.trans h

theorem givesHandle_insertHandle (type : HandleType) (object : Nat) :
    GivesHandle type (insertHandle type object : Native F D Nat) := by
  intro s
  unfold insertHandle
  simp only [wp_bind, wp_get, wp_modify, wp_onRegistry]
  refine wp_mono (HandleRegistry.wp_insert_withEntry s.registry type object _) ?_ fun _ _ h => h.1
  intro handle r' h
  obtain ⟨hnone, hhandle, hr⟩ := h
  rw [hhandle, hr]
  have hnew := HandleRegistry.refuses_eq_none hnone
  exact ⟨hnew.1, hnew.2, object, rfl⟩

theorem givesHandle_allocationGuard (operation : String) {y : Native F D Nat}
    (hy : GivesHandle type y) : GivesHandle type (allocationGuard operation y) := by
  intro s
  unfold allocationGuard
  refine wp_tryCatch (hy s) fun e s' h => ?_
  cases e <;> exact h

end Rules

namespace Training

variable {type : HandleType}

theorem leavesHandles_lookupModule (handle : Nat) :
    LeavesHandles (lookupModule handle : Native F D (Nat × LinearState)) := by
  unfold lookupModule
  refine leavesHandles_bind (leavesHandles_lookup handle .module) fun object => ?_
  refine leavesHandles_bind leavesHandles_get fun s => ?_
  cases s.modules[object]? with
  | none => exact leavesHandles_throw _
  | some state => exact leavesHandles_pure _

theorem leavesHandles_lookupOptimizer (handle : Nat) :
    LeavesHandles (lookupOptimizer handle : Native F D (Nat × OptimizerState F D)) := by
  unfold lookupOptimizer
  refine leavesHandles_bind (leavesHandles_lookup handle .optimizer) fun object => ?_
  refine leavesHandles_bind leavesHandles_get fun s => ?_
  cases s.optimizers[object]? with
  | none => exact leavesHandles_throw _
  | some state => exact leavesHandles_pure _

theorem leavesHandles_lookupParameterOptimizer (handle : Nat) :
    LeavesHandles (lookupParameterOptimizer handle :
      Native F D (Nat × ParameterOptimizerState F D)) := by
  unfold lookupParameterOptimizer
  refine leavesHandles_bind (leavesHandles_lookup handle .parameterOptimizer) fun object => ?_
  refine leavesHandles_bind leavesHandles_get fun s => ?_
  cases s.parameterOptimizers[object]? with
  | none => exact leavesHandles_throw _
  | some state => exact leavesHandles_pure _

theorem leavesHandles_moduleOf (state : OptimizerState F D) :
    LeavesHandles (moduleOf state : Native F D LinearState) := by
  unfold moduleOf
  refine leavesHandles_bind leavesHandles_get fun s => ?_
  cases s.modules[state.module]? with
  | none => exact leavesHandles_throw _
  | some module => exact leavesHandles_pure _

theorem leavesHandles_moduleParameterAt (module index : Nat) :
    LeavesHandles (moduleParameterAt module index : Native F D TensorId) := by
  unfold moduleParameterAt
  refine leavesHandles_bind (leavesHandles_lookupModule module) fun found => ?_
  obtain ⟨object, state⟩ := found
  dsimp only
  split
  · exact leavesHandles_pure _
  · exact leavesHandles_pure _
  · exact leavesHandles_throw _

theorem leavesHandles_moduleToDevice (module : Nat) (device : Device) (deviceIndex : Int) :
    LeavesHandles (moduleToDevice module device deviceIndex : Native F D Unit) := by
  unfold moduleToDevice
  refine leavesHandles_bind (leavesHandles_lookupModule module) fun _ => ?_
  refine leavesHandles_bind (leavesHandles_failIf _ _) fun _ => ?_
  exact leavesHandles_bind (leavesHandles_failIf _ _) fun _ => leavesHandles_failIf _ _

theorem leavesHandles_drawUniform [Scalar F] (count : Nat) (bound : F) :
    LeavesHandles (drawUniform count bound : Native F D (List F)) := by
  unfold drawUniform
  refine leavesHandles_bind leavesHandles_get fun s => ?_
  exact leavesHandles_bind (leavesHandles_modify fun _ => rfl) fun _ => leavesHandles_pure _

theorem givesHandle_addModule (state : LinearState) :
    GivesHandle .module (do insertHandle .module (← addModule state) : Native F D Nat) := by
  refine givesHandle_bind ?_ fun object => givesHandle_insertHandle .module object
  unfold addModule
  refine leavesHandles_bind leavesHandles_get fun s => ?_
  exact leavesHandles_bind (leavesHandles_modify fun _ => rfl) fun _ => leavesHandles_pure _

theorem givesHandle_linearCreate [Scalar F] (inFeatures outFeatures : Int) (useBias : Bool) :
    GivesHandle .module (linearCreate inFeatures outFeatures useBias : Native F D Nat) := by
  unfold linearCreate validateModuleDimensions
  refine givesHandle_bind ?_ fun _ => ?_
  · refine leavesHandles_bind (leavesHandles_failIf _ _) fun _ => ?_
    exact leavesHandles_bind (leavesHandles_failIf _ _) fun _ => leavesHandles_failIf _ _
  refine givesHandle_bind (leavesHandles_onMemory _) fun weightShape => ?_
  apply givesHandle_allocationGuard
  refine givesHandle_bind (leavesHandles_onMemory _) fun _ => ?_
  refine givesHandle_bind (leavesHandles_drawUniform _ _) fun weightValues => ?_
  cases useBias with
  | false =>
      refine givesHandle_bind (leavesHandles_pure _) fun biasValues => ?_
      refine givesHandle_bind (leavesHandles_onMemory _) fun _ => ?_
      refine givesHandle_bind (leavesHandles_onMemory _) fun weight => ?_
      exact givesHandle_bind (leavesHandles_pure _) fun bias => givesHandle_addModule _
  | true =>
      refine givesHandle_bind (leavesHandles_onMemory _) fun _ => ?_
      refine givesHandle_bind (leavesHandles_drawUniform _ _) fun biasValues => ?_
      refine givesHandle_bind (leavesHandles_onMemory _) fun _ => ?_
      refine givesHandle_bind (leavesHandles_onMemory _) fun weight => ?_
      refine givesHandle_bind (leavesHandles_onMemory _) fun biasShape => ?_
      refine givesHandle_bind ?_ fun bias => givesHandle_addModule _
      rw [map_eq_pure_bind]
      exact leavesHandles_bind (leavesHandles_onMemory _) fun _ => leavesHandles_pure _

theorem leavesHandles_validateHyperparameters [Scalar D] (kind : OptimizerKind)
    (hyper : Hyperparameters D) :
    LeavesHandles (validateHyperparameters kind hyper : Native F D Unit) := by
  unfold validateHyperparameters validatePositiveFinite validateNonNegativeFinite validateBeta
  refine leavesHandles_bind (leavesHandles_failIf _ _) fun _ => ?_
  refine leavesHandles_bind (leavesHandles_failIf _ _) fun _ => ?_
  cases kind with
  | sgd => exact leavesHandles_failIf _ _
  | adam =>
      refine leavesHandles_bind (leavesHandles_failIf _ _) fun _ => ?_
      exact leavesHandles_bind (leavesHandles_failIf _ _) fun _ => leavesHandles_failIf _ _
  | adamW =>
      refine leavesHandles_bind (leavesHandles_failIf _ _) fun _ => ?_
      exact leavesHandles_bind (leavesHandles_failIf _ _) fun _ => leavesHandles_failIf _ _

theorem leavesHandles_validateTensorHyperparameters [Scalar D] (kind : OptimizerKind)
    (hyper : Hyperparameters D) :
    LeavesHandles (validateTensorHyperparameters kind hyper : Native F D Unit) := by
  unfold validateTensorHyperparameters validatePositiveFinite validateNonNegativeFinite
    validateBeta
  refine leavesHandles_bind (leavesHandles_failIf _ _) fun _ => ?_
  refine leavesHandles_bind (leavesHandles_failIf _ _) fun _ => ?_
  cases kind with
  | sgd => exact leavesHandles_failIf _ _
  | adam =>
      refine leavesHandles_bind (leavesHandles_failIf _ _) fun _ => ?_
      exact leavesHandles_bind (leavesHandles_failIf _ _) fun _ => leavesHandles_failIf _ _
  | adamW =>
      refine leavesHandles_bind (leavesHandles_failIf _ _) fun _ => ?_
      exact leavesHandles_bind (leavesHandles_failIf _ _) fun _ => leavesHandles_failIf _ _

theorem givesHandle_createOptimizer [Zero F] [Scalar D] (module : Nat) (kind : OptimizerKind)
    (hyper : Hyperparameters D) :
    GivesHandle .optimizer (createOptimizer module kind hyper : Native F D Nat) := by
  unfold createOptimizer
  refine givesHandle_bind (leavesHandles_validateHyperparameters kind hyper) fun _ => ?_
  refine givesHandle_bind (leavesHandles_lookupModule module) fun found => ?_
  apply givesHandle_allocationGuard
  refine givesHandle_bind (leavesHandles_onMemory _) fun _ => ?_
  refine givesHandle_bind (leavesHandles_onMemory _) fun _ => ?_
  refine givesHandle_bind (leavesHandles_onMemory _) fun sizes => ?_
  refine givesHandle_bind (leavesHandles_onMemory _) fun _ => ?_
  refine givesHandle_bind (leavesHandles_onMemory _) fun _ => ?_
  refine givesHandle_bind (leavesHandles_onMemory _) fun firstMoment => ?_
  have registered : ∀ secondMoment, GivesHandle .optimizer (do
      let optimizer := (← get).optimizers.length
      modify fun s => { s with optimizers := s.optimizers ++ [{
        kind := kind
        module := found.1
        hyper := hyper
        moments := { step := 0, firstMoment := firstMoment, secondMoment := secondMoment } }] }
      insertHandle .optimizer optimizer : Native F D Nat) := by
    intro secondMoment
    refine givesHandle_bind leavesHandles_get fun s => ?_
    refine givesHandle_bind (leavesHandles_modify fun _ => rfl) fun _ => ?_
    exact givesHandle_insertHandle .optimizer _
  dsimp only
  split
  · exact givesHandle_bind (leavesHandles_pure _) registered
  · exact givesHandle_bind (leavesHandles_onMemory _) registered

theorem leavesHandles_collectParameters (handles : Option (List Nat)) (operation : String) :
    LeavesHandles (collectParameters handles operation : Native F D (List TensorId)) := by
  unfold collectParameters
  split
  · exact leavesHandles_throw _
  · exact leavesHandles_throw _
  refine leavesHandles_bind (leavesHandles_foldlM (fun collected handle => ?_) _ _) fun _ => ?_
  · unfold collectParameter lookupTensor
    refine leavesHandles_bind (leavesHandles_lookup handle .tensor) fun parameter => ?_
    refine leavesHandles_bind (leavesHandles_onMemory _) fun _ => ?_
    refine leavesHandles_bind (leavesHandles_failIf _ _) fun _ => ?_
    refine leavesHandles_bind (leavesHandles_onMemory _) fun requiresGrad => ?_
    refine leavesHandles_ite ?_ (leavesHandles_pure _)
    exact leavesHandles_bind (leavesHandles_onMemory _) fun _ => leavesHandles_pure _
  · exact leavesHandles_bind (leavesHandles_failIf _ _) fun _ => leavesHandles_pure _

theorem givesHandle_createForTensors [Zero F] [Scalar D] (handles : Option (List Nat))
    (kind : OptimizerKind) (hyper : Hyperparameters D) :
    GivesHandle .parameterOptimizer (createForTensors handles kind hyper : Native F D Nat) := by
  unfold createForTensors
  refine givesHandle_bind (leavesHandles_validateTensorHyperparameters kind hyper) fun _ => ?_
  refine givesHandle_bind (leavesHandles_collectParameters handles _) fun parameters => ?_
  refine givesHandle_bind (leavesHandles_onMemory _) fun _ => ?_
  refine givesHandle_bind (leavesHandles_onMemory _) fun moments => ?_
  refine givesHandle_bind leavesHandles_get fun s => ?_
  refine givesHandle_bind (leavesHandles_modify fun _ => rfl) fun _ => ?_
  exact givesHandle_insertHandle .parameterOptimizer _

theorem leavesHandles_assignMany (targets sources : Option (List Nat)) (count : Nat) :
    LeavesHandles (assignMany targets sources count : Native F D Unit) := by
  unfold assignMany
  refine leavesHandles_ite (leavesHandles_pure _) ?_
  split
  · refine leavesHandles_bind (leavesHandles_onMemory _) fun _ => ?_
    refine leavesHandles_bind (leavesHandles_failIf _ _) fun _ => ?_
    refine leavesHandles_bind (leavesHandles_foldlM (fun batch handles => ?_) _ _) fun batch =>
      leavesHandles_onMemory _
    unfold validateAssignment lookupTensor
    refine leavesHandles_bind (leavesHandles_lookup _ .tensor) fun target => ?_
    refine leavesHandles_bind (leavesHandles_lookup _ .tensor) fun source => ?_
    exact leavesHandles_onMemory _
  · exact leavesHandles_throw _

theorem leavesHandles_moduleSetTraining (module : Nat) (training : Bool) :
    LeavesHandles (moduleSetTraining module training : Native F D Unit) := by
  unfold moduleSetTraining
  refine leavesHandles_bind (leavesHandles_lookupModule module) fun found => ?_
  exact leavesHandles_modify fun _ => rfl

theorem leavesHandles_saveTensor [FloatBits F] (path : String) (tensor : TensorId) :
    LeavesHandles (saveTensor path tensor : Native F D Unit) := by
  have hwrite : ∀ bytes message,
      LeavesHandles (writeBytes path bytes message : Native F D Unit) := by
    intro bytes message
    unfold writeBytes
    refine leavesHandles_bind leavesHandles_get fun s => ?_
    exact leavesHandles_bind (leavesHandles_modify fun _ => rfl) fun _ => leavesHandles_failIf _ _
  unfold saveTensor
  refine leavesHandles_bind (leavesHandles_onMemory _) fun t => ?_
  refine leavesHandles_bind (hwrite _ _) fun _ => ?_
  refine leavesHandles_bind (hwrite _ _) fun _ => ?_
  refine leavesHandles_bind (hwrite _ _) fun _ => ?_
  exact leavesHandles_bind (leavesHandles_onMemory _) fun values => hwrite _ _

theorem leavesHandles_moduleSave [FloatBits F] (module : Nat) (path : String) :
    LeavesHandles (moduleSave module path : Native F D Unit) := by
  unfold moduleSave openForWriting writeBytes
  refine leavesHandles_bind (leavesHandles_failIf _ _) fun _ => ?_
  refine leavesHandles_bind (leavesHandles_lookupModule module) fun found => ?_
  obtain ⟨object, state⟩ := found
  refine leavesHandles_bind ?_ fun _ => ?_
  · refine leavesHandles_bind leavesHandles_get fun s => ?_
    exact leavesHandles_bind (leavesHandles_failIf _ _) fun _ => leavesHandles_modify fun _ => rfl
  refine leavesHandles_bind ?_ fun _ => ?_
  · refine leavesHandles_bind leavesHandles_get fun s => ?_
    exact leavesHandles_bind (leavesHandles_modify fun _ => rfl) fun _ => leavesHandles_failIf _ _
  refine leavesHandles_bind (leavesHandles_saveTensor path _) fun _ => ?_
  split
  · exact leavesHandles_pure _
  · exact leavesHandles_saveTensor path _
  · exact leavesHandles_throw _

theorem leavesHandles_moduleLoad [FloatBits F] (module : Nat) (path : String) :
    LeavesHandles (moduleLoad module path : Native F D Unit) := by
  unfold moduleLoad
  refine leavesHandles_bind (leavesHandles_failIf _ _) fun _ => ?_
  refine leavesHandles_bind (leavesHandles_lookupModule module) fun found => ?_
  refine leavesHandles_bind leavesHandles_get fun s => ?_
  cases s.files.contents path with
  | none => exact leavesHandles_throw _
  | some stream => exact leavesHandles_onMemory _

theorem leavesHandles_optimizerZeroGrad (optimizer : Nat) :
    LeavesHandles (optimizerZeroGrad optimizer : Native F D Unit) := by
  unfold optimizerZeroGrad
  refine leavesHandles_bind (leavesHandles_lookupOptimizer optimizer) fun found => ?_
  refine leavesHandles_bind (leavesHandles_moduleOf _) fun module => ?_
  refine leavesHandles_bind (leavesHandles_onMemory _) fun _ => ?_
  exact leavesHandles_forM (fun _ => leavesHandles_onMemory _) _

theorem leavesHandles_zeroGrad (optimizer : Nat) :
    LeavesHandles (zeroGrad optimizer : Native F D Unit) := by
  unfold zeroGrad
  refine leavesHandles_bind (leavesHandles_lookupParameterOptimizer optimizer) fun found => ?_
  exact leavesHandles_forM (fun _ => leavesHandles_onMemory _) _

section Steps
variable [Scalar D] [Precision F D]

theorem leavesHandles_optimizerStep (optimizer : Nat) :
    LeavesHandles (optimizerStep optimizer : Native F D Unit) := by
  unfold optimizerStep
  refine leavesHandles_bind (leavesHandles_lookupOptimizer optimizer) fun found => ?_
  refine leavesHandles_bind (leavesHandles_moduleOf _) fun module => ?_
  refine leavesHandles_bind (leavesHandles_onMemory _) fun _ => ?_
  refine leavesHandles_bind (leavesHandles_modify fun _ => rfl) fun _ => ?_
  refine leavesHandles_forM (fun entry => ?_) _
  unfold optimizerStepAt getOptimizer
  refine leavesHandles_bind ?_ fun state => ?_
  · refine leavesHandles_bind leavesHandles_get fun s => ?_
    cases s.optimizers[found.1]? with
    | none => exact leavesHandles_throw _
    | some state => exact leavesHandles_pure _
  refine leavesHandles_bind (leavesHandles_onMemory _) fun updated => ?_
  cases updated with
  | none => exact leavesHandles_pure _
  | some moments => exact leavesHandles_modify fun _ => rfl

theorem leavesHandles_cpuStep (optimizer : Nat) :
    LeavesHandles (cpuStep optimizer : Native F D Unit) := by
  unfold cpuStep
  refine leavesHandles_bind (leavesHandles_lookupParameterOptimizer optimizer) fun found => ?_
  refine leavesHandles_bind (leavesHandles_modify fun _ => rfl) fun _ => ?_
  refine leavesHandles_forM (fun entry => ?_) _
  unfold cpuStepAt getParameterOptimizer
  refine leavesHandles_bind ?_ fun state => ?_
  · refine leavesHandles_bind leavesHandles_get fun s => ?_
    cases s.parameterOptimizers[found.1]? with
    | none => exact leavesHandles_throw _
    | some state => exact leavesHandles_pure _
  refine leavesHandles_bind (leavesHandles_onMemory _) fun updated => ?_
  cases updated with
  | none => exact leavesHandles_pure _
  | some moments => exact leavesHandles_modify fun _ => rfl

end Steps

end Training

namespace Api
open Training

/-- The call's reply is a new handle, or it fails and the entries are the same. -/
def IssuesHandle (type : HandleType) (x : Native F D (Reply F)) : Prop :=
  ∀ s, wp x (fun reply s' => ∃ handle, reply = .handle handle ∧
      Issued type handle s.registry s'.registry)
    (fun _ s' => s'.registry.entries = s.registry.entries) s

section Rules
variable {type : HandleType}

theorem issuesHandle_handle {x : Native F D Nat} (hx : GivesHandle type x) :
    IssuesHandle type (do return .handle (← x) : Native F D (Reply F)) := by
  intro s
  refine wp_seq (hx s) (fun _ _ he => he) fun handle s' h => ?_
  exact ⟨handle, rfl, h⟩

theorem issuesHandle_bind {x : Native F D α} {f : α → Native F D (Reply F)} (hx : LeavesHandles x)
    (hf : ∀ r, IssuesHandle type (f r)) : IssuesHandle type (x >>= f) := by
  intro s
  refine wp_seq (hx s) (fun _ _ he => he) fun r s₁ h => ?_
  refine wp_mono (hf r s₁) ?_ fun _ _ h' => h'.trans h
  intro reply s' h'
  obtain ⟨handle, hreply, hissued⟩ := h'
  exact ⟨handle, hreply, hissued.of_entries h⟩

theorem issuesHandle_insertTensor (result : TensorId) :
    IssuesHandle .tensor (do return .handle (← insertTensor result) : Native F D (Reply F)) :=
  issuesHandle_handle (givesHandle_insertHandle .tensor result)

theorem issuesHandle_runUnary (tensor : Nat) (operation : TensorId → Mem F TensorId) :
    IssuesHandle .tensor (runUnary tensor operation : Native F D (Reply F)) := by
  unfold runUnary lookupTensor
  refine issuesHandle_bind (leavesHandles_lookup tensor .tensor) fun object => ?_
  exact issuesHandle_bind (leavesHandles_onMemory _) issuesHandle_insertTensor

theorem issuesHandle_runBinary (left right : Nat)
    (operation : TensorId → TensorId → Mem F TensorId) :
    IssuesHandle .tensor (runBinary left right operation : Native F D (Reply F)) := by
  unfold runBinary lookupTensor
  refine issuesHandle_bind (leavesHandles_lookup left .tensor) fun leftObject => ?_
  refine issuesHandle_bind (leavesHandles_lookup right .tensor) fun rightObject => ?_
  exact issuesHandle_bind (leavesHandles_onMemory _) issuesHandle_insertTensor

theorem issuesHandle_fetchAndInsert {fetch : Native F D TensorId} (h : LeavesHandles fetch) :
    IssuesHandle .tensor (fetchAndInsert fetch) :=
  issuesHandle_bind h issuesHandle_insertTensor

theorem leavesHandles_reply {x : Native F D α} (reply : α → Reply F) (hx : LeavesHandles x) :
    LeavesHandles (do return reply (← x)) :=
  leavesHandles_bind hx fun _ => leavesHandles_pure _

end Rules

def Call.issues : Call F D → Option HandleType
  | .tensorFromF32 .. | .tensorFullF32 .. | .tensorToDevice .. | .tensorReshape ..
  | .tensorTranspose2D .. | .tensorAdd .. | .tensorMultiply .. | .tensorSum .. | .tensorMatmul ..
  | .tensorCloneDetached .. | .tensorWithRequiresGrad .. | .tensorGrad .. | .tensorRelu ..
  | .tensorSigmoid .. | .tensorTanh .. | .tensorGelu .. | .tensorSilu .. | .tensorSwiGlu ..
  | .mseLoss .. | .crossEntropyLoss .. | .moduleForward .. | .moduleParameterAt ..
  | .moduleBufferAt .. => some .tensor
  | .linearCreate .. => some .module
  | .optimizerCreate .. => some .optimizer
  | .createForTensors .. => some .parameterOptimizer
  | _ => none

def Call.counts : Call F D → Bool
  | .tensorRetain .. | .tensorRelease .. | .moduleRelease .. | .optimizerRelease ..
  | .parameterOptimizerRelease .. => true
  | _ => false

variable [Scalar F] [Scalar D] [Precision F D]

theorem exec_issues [FloatBits F] {call : Call F D} {type : HandleType}
    (htype : call.issues = some type) : IssuesHandle type (exec call) := by
  cases call with
  | tensorFromF32 data dims =>
      cases htype
      refine issuesHandle_bind (leavesHandles_onMemory _) fun shape => ?_
      refine issuesHandle_bind (leavesHandles_failIf _ _) fun _ => ?_
      exact issuesHandle_bind (leavesHandles_onMemory _) issuesHandle_insertTensor
  | tensorFullF32 dims value =>
      cases htype
      refine issuesHandle_bind (leavesHandles_onMemory _) fun shape => ?_
      exact issuesHandle_bind (leavesHandles_onMemory _) issuesHandle_insertTensor
  | tensorReshape tensor dims =>
      cases htype
      exact issuesHandle_bind (leavesHandles_onMemory _) fun shape => issuesHandle_runUnary _ _
  | tensorToDevice | tensorTranspose2D | tensorSum | tensorCloneDetached | tensorWithRequiresGrad
  | tensorGrad | tensorRelu | tensorSigmoid | tensorTanh | tensorGelu | tensorSilu
  | tensorSwiGlu =>
      cases htype
      exact issuesHandle_runUnary _ _
  | tensorAdd | tensorMultiply | tensorMatmul | mseLoss | crossEntropyLoss =>
      cases htype
      exact issuesHandle_runBinary _ _ _
  | linearCreate inFeatures outFeatures useBias =>
      cases htype
      exact issuesHandle_handle (givesHandle_linearCreate inFeatures outFeatures useBias)
  | moduleForward module input =>
      cases htype
      refine issuesHandle_bind (leavesHandles_lookup input .tensor) fun object => ?_
      apply issuesHandle_fetchAndInsert
      refine leavesHandles_bind (leavesHandles_lookupModule module) fun found => ?_
      exact leavesHandles_onMemory _
  | moduleParameterAt module index =>
      cases htype
      exact issuesHandle_fetchAndInsert (leavesHandles_moduleParameterAt module index)
  | moduleBufferAt module index =>
      cases htype
      apply issuesHandle_fetchAndInsert
      refine leavesHandles_bind (leavesHandles_lookupModule module) fun found => ?_
      exact leavesHandles_throw _
  | optimizerCreate module kind hyper =>
      cases htype
      exact issuesHandle_handle (givesHandle_createOptimizer module kind hyper)
  | createForTensors parameters kind hyper =>
      cases htype
      exact issuesHandle_handle (givesHandle_createForTensors parameters kind hyper)
  | _ => cases htype

theorem exec_leavesHandles [FloatBits F] {call : Call F D} (hissues : call.issues = none)
    (hcounts : call.counts = false) : LeavesHandles (exec call) := by
  cases call with
  | tensorCopyToHostF32 tensor capacity =>
      refine leavesHandles_bind (leavesHandles_lookup tensor .tensor) fun object => ?_
      exact leavesHandles_onMemory _
  | manualSeed seed =>
      refine leavesHandles_bind ?_ fun _ => leavesHandles_pure _
      exact leavesHandles_modify fun _ => rfl
  | tensorIdentity tensor | tensorRequiresGrad tensor | tensorSetRequiresGrad tensor
  | tensorBackward tensor =>
      refine leavesHandles_bind (leavesHandles_lookup tensor .tensor) fun object => ?_
      exact leavesHandles_bind (leavesHandles_onMemory _) fun _ => leavesHandles_pure _
  | tensorAssignMany targets sources count =>
      exact leavesHandles_reply _ (leavesHandles_assignMany targets sources count)
  | moduleSetTraining module training =>
      exact leavesHandles_reply _ (leavesHandles_moduleSetTraining module training)
  | moduleToDevice module device deviceIndex =>
      exact leavesHandles_reply _ (leavesHandles_moduleToDevice module device deviceIndex)
  | moduleParameterCount module | moduleBufferCount module =>
      refine leavesHandles_reply _ ?_
      exact leavesHandles_bind (leavesHandles_lookupModule module) fun _ => leavesHandles_pure _
  | moduleSave module path =>
      exact leavesHandles_reply _ (leavesHandles_moduleSave module path)
  | moduleLoad module path =>
      exact leavesHandles_reply _ (leavesHandles_moduleLoad module path)
  | optimizerZeroGrad optimizer =>
      exact leavesHandles_reply _ (leavesHandles_optimizerZeroGrad optimizer)
  | optimizerStep optimizer =>
      exact leavesHandles_reply _ (leavesHandles_optimizerStep optimizer)
  | parameterOptimizerZeroGrad optimizer =>
      exact leavesHandles_reply _ (leavesHandles_zeroGrad optimizer)
  | parameterOptimizerStep optimizer =>
      exact leavesHandles_reply _ (leavesHandles_cpuStep optimizer)
  | tensorRetain | tensorRelease | moduleRelease | optimizerRelease | parameterOptimizerRelease =>
      cases hcounts
  | _ => cases hissues

end Api

end Tensora
