import Tensora.Runtime.Insertion
import Tensora.Training.Optimizer

/-! The functions of the C ABI that produce one handle, with their output pointer: the order of
its reset, of the lookups, of the work of the build and of the insertion, where any step may
throw. What the build does between the lookups and the insertion is a parameter. -/
namespace Tensora.Api
open ProgramLogic

/-- How a function of the ABI fails: with a failure that `AbiGuard` turns into its code, or by an
exception that leaves a function declared `noexcept`. -/
inductive Stop where
  | failed (failure : Failure)
  | terminated
  deriving DecidableEq

/-- The registry, everything else the process holds, and what the output pointer points to. -/
structure AbiState (W : Type) where
  registry : HandleRegistry
  world : W
  out : Option Nat
  steps : Nat

abbrev Abi (W : Type) := EStateM Stop (AbiState W)

/-- Work that has no access to the registry. -/
abbrev Work (W : Type) := EStateM Failure W

/-- Which steps throw an exception of their own, and what they leave behind. -/
abbrev Interruptions (W : Type) := Nat → Option (Exception × W)

inductive UnaryFunction where
  | transpose2D
  | sum
  | cloneDetached
  | withRequiresGrad (requiresGrad : Bool)
  | grad
  | relu
  | sigmoid
  | tanh
  | gelu
  | silu
  | swiGlu
  deriving DecidableEq

inductive BinaryFunction where
  | add
  | multiply
  | matmul
  | mseLoss
  | crossEntropyLoss
  deriving DecidableEq

def UnaryFunction.name : UnaryFunction → String
  | .transpose2D => "tensor_transpose2d"
  | .sum => "tensor_sum"
  | _ => "training unary"

def BinaryFunction.name : BinaryFunction → String
  | .add => "tensor_add"
  | .multiply => "tensor_multiply"
  | .matmul => "tensor_matmul"
  | .mseLoss | .crossEntropyLoss => "training binary"

/-- The functions that produce one handle, without their output pointer. -/
inductive Constructor (F D : Type) where
  | tensorFromF32 (data : Option (List F)) (dataLength : Nat) (dims : Option (List Int))
      (rank : Nat)
  | tensorFullF32 (dims : Option (List Int)) (rank : Nat) (value : F)
  | tensorToDevice (tensor device : Nat) (deviceIndex : Int)
  | tensorReshape (tensor : Nat) (dims : Option (List Int)) (rank : Nat)
  | unary (function : UnaryFunction) (tensor : Nat)
  | binary (function : BinaryFunction) (left right : Nat)
  | linearCreate (inFeatures outFeatures : Int) (useBias : Bool)
  | moduleForward (module input : Nat)
  | moduleParameterAt (module index : Nat)
  | moduleBufferAt (module index : Nat)
  | optimizerCreate (module : Nat) (kind : OptimizerKind) (hyper : Hyperparameters D)
  | createForTensors (parameters : Option (List Nat)) (kind : OptimizerKind)
      (hyper : Hyperparameters D)
  | onnxSessionCreate (modelPath requestedProvider : Option String) (enableProfiling : Bool)
      (profilingPrefix : Option String)

def Constructor.type {F D : Type} : Constructor F D → HandleType
  | .linearCreate .. => .module
  | .optimizerCreate .. => .optimizer
  | .createForTensors .. => .parameterOptimizer
  | .onnxSessionCreate .. => .inferenceSession
  | _ => .tensor

/-- What a build puts between the checks of the ABI and the insertion. An object is an index, or
null. `guards` is how the handlers around the insertion change what is thrown through them. -/
structure Build (F D W : Type) where
  validateShape : Option (List Int) → Nat → Work W ShapeInfo
  deviceFromCode : Nat → Work W Device
  fromData : ShapeInfo → Option (List F) → Work W (Option Nat)
  full : ShapeInfo → F → Work W (Option Nat)
  transfer : Nat → Device → Int → Work W (Option Nat)
  reshape : Nat → ShapeInfo → Work W (Option Nat)
  unary : UnaryFunction → Nat → Work W (Option Nat)
  binary : BinaryFunction → Nat → Nat → Work W (Option Nat)
  validateLinear : Int → Int → Work W ShapeInfo
  linear : Int → Int → Bool → ShapeInfo → Work W (Option Nat)
  forward : Nat → Nat → Work W (Option Nat)
  parameterAt : Nat → Nat → Work W (Option Nat)
  bufferAt : Nat → Nat → Work W (Option Nat)
  optimizerName : OptimizerKind → String
  validateOptimizer : OptimizerKind → Hyperparameters D → Work W Unit
  optimizer : OptimizerKind → Hyperparameters D → Nat → Work W (Option Nat)
  validateForTensors : OptimizerKind → Hyperparameters D → Work W Unit
  /-- One turn of the loop of `CollectParameters` after its lookup: the pointers seen and the
  kept parameters. -/
  collect : OptimizerKind → List Nat × List Nat → Nat → Work W (List Nat × List Nat)
  optimizerForTensors : OptimizerKind → Hyperparameters D → List Nat → Work W (Option Nat)
  session : String → String → Bool → String → Work W (Option Nat)
  /-- Whether the node of an entry is allocated. -/
  allocateNode : Work W Bool
  guards : String → Stop → Stop

section Source
variable {F D W α : Type} (around : Interruptions W) (build : Build F D W)

def step (work : Work W α) : Abi W α := fun s =>
  let s' := { s with steps := s.steps + 1 }
  match around s.steps with
  | some (exception, world) => .error (.failed exception.failure) { s' with world := world }
  | none =>
      match work s.world with
      | .ok a world => .ok a { s' with world := world }
      | .error failure world => .error (.failed failure) { s' with world := world }

def refuse (failure : Failure) : Abi W α := throw (.failed failure)

def refuseIf (condition : Prop) [Decidable condition] (failure : Failure) : Abi W Unit :=
  if condition then refuse failure else pure ()

def atTable (program : RegistryM α) : Abi W α := fun s =>
  match program s.registry with
  | .ok a registry => .ok a { s with registry := registry }
  | .error failure registry => .error (.failed failure) { s with registry := registry }

/-- `HandleRegistry::Lookup`. -/
def lookupObject (handle : Nat) (type : HandleType) : Abi W Nat := do
  step around (pure ())
  atTable (HandleRegistry.lookup handle type)

/-- `*out_handle = handle`. -/
def writeOut (handle : Nat) : Abi W Unit := modify fun s => { s with out := some handle }

def nullObject : Failure := invalidArgument "handle registry: cannot register null object"

/-- `HandleRegistry::Insert`. -/
def insertObject (type : HandleType) (object : Option Nat) : Abi W Unit := do
  writeOut 0
  match object with
  | none => refuse nullObject
  | some object => do
      let allocated ← step around build.allocateNode
      let handle ← atTable (HandleRegistry.insert type (some object) allocated)
      writeOut handle

/-- The first lines of every function: the null check and the reset. -/
def resetOut (operation : String) : Abi W Unit := do
  let out := (← get).out
  refuseIf (out = none) (invalidArgument (operation ++ ": output handle pointer is null"))
  writeOut 0

def guarded (operation : String) (program : Abi W Unit) : Abi W Unit :=
  tryCatch program fun stop => throw (build.guards operation stop)

def runUnaryAt (function : UnaryFunction) (tensor : Nat) : Abi W Unit := do
  resetOut function.name
  let object ← lookupObject around tensor .tensor
  let result ← step around (build.unary function object)
  insertObject around build .tensor result

def runBinaryAt (function : BinaryFunction) (left right : Nat) : Abi W Unit := do
  resetOut function.name
  let leftObject ← lookupObject around left .tensor
  let rightObject ← lookupObject around right .tensor
  let result ← step around (build.binary function leftObject rightObject)
  insertObject around build .tensor result

/-- The loop of `CollectParameters`. -/
def collectAt (kind : OptimizerKind) (handles : List Nat) : Abi W (List Nat × List Nat) :=
  handles.foldlM (fun collected handle => do
    let object ← lookupObject around handle .tensor
    step around (build.collect kind collected object)) ([], [])

def construct : Constructor F D → Abi W Unit
  | .tensorFromF32 data dataLength dims rank => do
      resetOut "tensor_from_f32"
      let shape ← step around (build.validateShape dims rank)
      refuseIf (shape.numel ≠ dataLength) (invalidArgument
        "tensor_from_f32: data length must equal validated shape element count")
      refuseIf (dataLength > 0 ∧ data.isNone)
        (invalidArgument "tensor_from_f32: input data pointer is null")
      let result ← step around (build.fromData shape data)
      insertObject around build .tensor result
  | .tensorFullF32 dims rank value => do
      resetOut "tensor_full_f32"
      let shape ← step around (build.validateShape dims rank)
      let result ← step around (build.full shape value)
      insertObject around build .tensor result
  | .tensorToDevice tensor device deviceIndex => do
      resetOut "tensor_to_device"
      let target ← step around (build.deviceFromCode device)
      let object ← lookupObject around tensor .tensor
      let result ← step around (build.transfer object target deviceIndex)
      insertObject around build .tensor result
  | .tensorReshape tensor dims rank => do
      resetOut "tensor_reshape"
      let shape ← step around (build.validateShape dims rank)
      let object ← lookupObject around tensor .tensor
      let result ← step around (build.reshape object shape)
      insertObject around build .tensor result
  | .unary function tensor => runUnaryAt around build function tensor
  | .binary function left right => runBinaryAt around build function left right
  | .linearCreate inFeatures outFeatures useBias => do
      resetOut "linear_create"
      let weightShape ← step around (build.validateLinear inFeatures outFeatures)
      guarded build "linear_create" do
        let object ← step around (build.linear inFeatures outFeatures useBias weightShape)
        insertObject around build .module object
  | .moduleForward module input => do
      resetOut "module_forward"
      let inputObject ← lookupObject around input .tensor
      let state ← lookupObject around module .module
      let result ← step around (build.forward state inputObject)
      insertObject around build .tensor result
  | .moduleParameterAt module index => do
      resetOut "module_parameter_at"
      let state ← lookupObject around module .module
      let result ← step around (build.parameterAt state index)
      insertObject around build .tensor result
  | .moduleBufferAt module index => do
      resetOut "module_buffer_at"
      let state ← lookupObject around module .module
      let result ← step around (build.bufferAt state index)
      insertObject around build .tensor result
  | .optimizerCreate module kind hyper => do
      resetOut (build.optimizerName kind)
      step around (build.validateOptimizer kind hyper)
      let state ← lookupObject around module .module
      guarded build kind.operation do
        let object ← step around (build.optimizer kind hyper state)
        insertObject around build .optimizer object
  | .createForTensors parameters kind hyper => do
      resetOut kind.tensorOperation
      step around (build.validateForTensors kind hyper)
      match parameters with
      | none | some [] =>
          refuse (invalidArgument
            (kind.tensorOperation ++ ": parameter collection must not be empty"))
      | some handles => do
          let (_, parameters) ← collectAt around build kind handles
          let object ← step around (build.optimizerForTensors kind hyper parameters)
          insertObject around build .parameterOptimizer object
  | .onnxSessionCreate modelPath requestedProvider enableProfiling profilingPrefix => do
      resetOut "onnx_session_create_with_provider"
      match modelPath, requestedProvider with
      | none, _ => refuse (invalidArgument
          "onnx_session_create_with_provider: model path pointer is null")
      | some _, none => refuse (invalidArgument
          "onnx_session_create_with_provider: provider pointer is null")
      | some modelPath, some provider => do
          step around (pure ())
          guarded build "onnx_session_create" do
            let object ← step around
              (build.session modelPath provider enableProfiling (profilingPrefix.getD ""))
            insertObject around build .inferenceSession object

end Source

def Stop.code : Stop → Option StatusCode
  | .failed failure => failure.code
  | .terminated => none

section Contract
variable {F D W α β : Type}

/-- Exactly one more entry, of this type, under the handle in the output pointer. -/
def Built (type : HandleType) (r : HandleRegistry) (s : AbiState W) : Prop :=
  ∃ handle object, s.out = some handle ∧ handle ≠ 0 ∧ r.find handle = none ∧
    s.registry.entries = (handle, ⟨type, 1, object⟩) :: r.entries

/-- The entries are as they were, and the output pointer, if there is one, holds 0. -/
def Unbuilt (s s' : AbiState W) : Prop :=
  s'.registry.entries = s.registry.entries ∧ s'.out = s.out.map fun _ => 0

def Quiet (x : Abi W α) : Prop :=
  ∀ s, wp x (fun _ s' => s'.registry = s.registry ∧ s'.out = s.out)
    (fun _ s' => s'.registry = s.registry ∧ s'.out = s.out) s

def Produces (type : HandleType) (x : Abi W Unit) : Prop :=
  ∀ s, s.out = some 0 → wp x (fun _ s' => Built type s.registry s') (fun _ s' => Unbuilt s s') s

variable {around : Interruptions W} {build : Build F D W} {type : HandleType}

theorem quiet_pure (a : α) : Quiet (pure a : Abi W α) := fun _ => ⟨rfl, rfl⟩

theorem Quiet.bind {x : Abi W α} {f : α → Abi W β} (hx : Quiet x) (hf : ∀ a, Quiet (f a)) :
    Quiet (x >>= f) := by
  intro s
  apply wp_seq (hx s)
  · exact fun _ _ h => h
  · intro a s' h
    refine wp_mono (hf a s') ?_ ?_
    · exact fun _ _ h' => ⟨h'.1.trans h.1, h'.2.trans h.2⟩
    · exact fun _ _ h' => ⟨h'.1.trans h.1, h'.2.trans h.2⟩

theorem quiet_step (work : Work W α) : Quiet (step around work) := by
  intro s
  unfold wp step
  cases around s.steps with
  | some interruption => exact ⟨rfl, rfl⟩
  | none => cases work s.world <;> exact ⟨rfl, rfl⟩

theorem quiet_refuseIf (c : Prop) [Decidable c] (failure : Failure) :
    Quiet (refuseIf c failure : Abi W Unit) := by
  intro s
  unfold refuseIf
  exact wp_ite (fun _ => ⟨rfl, rfl⟩) fun _ => ⟨rfl, rfl⟩

theorem wp_atTable (program : RegistryM α) (Q : α → AbiState W → Prop)
    (E : Stop → AbiState W → Prop) (s : AbiState W) :
    wp (atTable program) Q E s ↔
      wp program (fun a registry => Q a { s with registry := registry })
        (fun e registry => E (.failed e) { s with registry := registry }) s.registry := by
  unfold wp atTable
  cases program s.registry <;> rfl

theorem quiet_lookupObject (handle : Nat) (type : HandleType) :
    Quiet (lookupObject around handle type) := by
  apply (quiet_step _).bind
  intro _ s
  rw [wp_atTable]
  refine wp_mono (HandleRegistry.wp_lookup s.registry handle type) ?_ ?_
  · exact fun _ _ h => ⟨h.1, rfl⟩
  · exact fun _ _ h => ⟨h, rfl⟩

theorem quiet_collectAt (kind : OptimizerKind) (handles : List Nat) :
    Quiet (collectAt around build kind handles) := by
  unfold collectAt
  generalize ([], []) = collected
  induction handles generalizing collected with
  | nil => exact quiet_pure _
  | cons handle rest ih =>
      rw [List.foldlM_cons]
      apply Quiet.bind
      · exact (quiet_lookupObject _ _).bind fun object => quiet_step _
      · exact ih

theorem Unbuilt.refl {s : AbiState W} (h : s.out = some 0) : Unbuilt s s := by
  constructor
  · rfl
  · rw [h]
    rfl

theorem produces_refuse (failure : Failure) : Produces type (refuse failure : Abi W Unit) :=
  fun _ h => Unbuilt.refl h

/-- Nothing that is quiet stands between the reset and the insertion. -/
theorem Quiet.produces {x : Abi W α} {f : α → Abi W Unit} (hx : Quiet x)
    (hf : ∀ a, Produces type (f a)) : Produces type (x >>= f) := by
  intro s hout
  apply wp_seq (hx s)
  · rintro _ s' ⟨hregistry, hsame⟩
    constructor
    · rw [hregistry]
    · rw [hsame, hout]
      rfl
  · rintro a s' ⟨hregistry, hsame⟩
    have hrun := hf a s' (hsame.trans hout)
    unfold Unbuilt at *
    rwa [hregistry, hsame] at hrun

theorem produces_insertObject (object : Option Nat) :
    Produces type (insertObject around build type object : Abi W Unit) := by
  intro s hout
  unfold insertObject writeOut
  rw [wp_bind, wp_modify]
  cases object with
  | none =>
      constructor
      · rfl
      · rw [hout]
        rfl
  | some object =>
      apply wp_seq (quiet_step build.allocateNode { s with out := some 0 })
      · rintro _ s' ⟨hregistry, hsame⟩
        constructor
        · rw [hregistry]
        · rw [hsame, hout]
          rfl
      · rintro allocated s' ⟨hregistry, hsame⟩
        rw [wp_bind, wp_atTable, hregistry]
        unfold wp
        cases hx : HandleRegistry.insert type (some object) allocated s.registry with
        | ok handle r =>
            obtain ⟨o, -, hnone, rfl, rfl⟩ := HandleRegistry.insert_ok hx
            obtain ⟨hzero, hfind⟩ := HandleRegistry.refuses_eq_none hnone
            exact ⟨_, o, rfl, hzero, hfind, rfl⟩
        | error e r =>
            constructor
            · exact HandleRegistry.insert_error hx
            · rw [hout]
              exact hsame

theorem produces_guarded {operation : String} {program : Abi W Unit} (h : Produces type program) :
    Produces type (guarded build operation program) := by
  intro s hout
  unfold guarded
  exact wp_tryCatch (h s hout) fun _ _ hunbuilt => hunbuilt

theorem wp_resetOut {operation : String} {program : Unit → Abi W Unit}
    (h : Produces type (program ())) (s : AbiState W) :
    wp (resetOut operation >>= program) (fun _ s' => s.out ≠ none ∧ Built type s.registry s')
      (fun _ s' => Unbuilt s s') s := by
  unfold resetOut writeOut refuseIf
  simp only [bind_assoc, wp_bind, wp_get]
  cases hout : s.out with
  | none =>
      refine wp_ite (fun _ => ?_) fun hne => absurd rfl hne
      constructor
      · rfl
      · rw [hout]
        rfl
  | some old =>
      refine wp_ite (fun heq => by cases heq) fun _ => ?_
      simp only [wp_pure, wp_modify]
      refine wp_mono (h { s with out := some 0 } rfl) ?_ ?_
      · exact fun _ _ hbuilt => ⟨by simp, hbuilt⟩
      · rintro _ s' ⟨hentries, hzero⟩
        constructor
        · exact hentries
        · rw [hzero, hout]
          rfl

/-- Every constructor either produces one handle or leaves the registry and the pointer clear. -/
theorem construct_contract (constructor : Constructor F D) (s : AbiState W) :
    wp (construct around build constructor)
      (fun _ s' => s.out ≠ none ∧ Built constructor.type s.registry s')
      (fun _ s' => Unbuilt s s') s := by
  cases constructor with
  | tensorFromF32 data dataLength dims rank =>
      apply wp_resetOut
      apply (quiet_step _).produces
      intro shape
      apply (quiet_refuseIf _ _).produces
      intro _
      apply (quiet_refuseIf _ _).produces
      intro _
      exact (quiet_step _).produces produces_insertObject
  | tensorFullF32 dims rank value =>
      apply wp_resetOut
      apply (quiet_step _).produces
      intro shape
      exact (quiet_step _).produces produces_insertObject
  | tensorToDevice tensor device deviceIndex =>
      apply wp_resetOut
      apply (quiet_step _).produces
      intro target
      apply (quiet_lookupObject _ _).produces
      intro object
      exact (quiet_step _).produces produces_insertObject
  | tensorReshape tensor dims rank =>
      apply wp_resetOut
      apply (quiet_step _).produces
      intro shape
      apply (quiet_lookupObject _ _).produces
      intro object
      exact (quiet_step _).produces produces_insertObject
  | unary function tensor =>
      apply wp_resetOut
      apply (quiet_lookupObject _ _).produces
      intro object
      exact (quiet_step _).produces produces_insertObject
  | binary function left right =>
      apply wp_resetOut
      apply (quiet_lookupObject _ _).produces
      intro leftObject
      apply (quiet_lookupObject _ _).produces
      intro rightObject
      exact (quiet_step _).produces produces_insertObject
  | linearCreate inFeatures outFeatures useBias =>
      apply wp_resetOut
      apply (quiet_step _).produces
      intro _
      apply produces_guarded
      exact (quiet_step _).produces produces_insertObject
  | moduleForward module input =>
      apply wp_resetOut
      apply (quiet_lookupObject _ _).produces
      intro inputObject
      apply (quiet_lookupObject _ _).produces
      intro state
      exact (quiet_step _).produces produces_insertObject
  | moduleParameterAt module index =>
      apply wp_resetOut
      apply (quiet_lookupObject _ _).produces
      intro state
      exact (quiet_step _).produces produces_insertObject
  | moduleBufferAt module index =>
      apply wp_resetOut
      apply (quiet_lookupObject _ _).produces
      intro state
      exact (quiet_step _).produces produces_insertObject
  | optimizerCreate module kind hyper =>
      apply wp_resetOut
      apply (quiet_step _).produces
      intro _
      apply (quiet_lookupObject _ _).produces
      intro state
      apply produces_guarded
      exact (quiet_step _).produces produces_insertObject
  | createForTensors parameters kind hyper =>
      apply wp_resetOut
      apply (quiet_step _).produces
      intro _
      match parameters with
      | none => exact produces_refuse _
      | some [] => exact produces_refuse _
      | some (handle :: rest) =>
          apply (quiet_collectAt _ _).produces
          intro collected
          exact (quiet_step _).produces produces_insertObject
  | onnxSessionCreate modelPath requestedProvider enableProfiling profilingPrefix =>
      apply wp_resetOut
      match modelPath, requestedProvider with
      | none, _ => exact produces_refuse _
      | some modelPath, none => exact produces_refuse _
      | some modelPath, some provider =>
          apply (quiet_step _).produces
          intro _
          apply produces_guarded
          exact (quiet_step _).produces produces_insertObject

end Contract

end Tensora.Api
