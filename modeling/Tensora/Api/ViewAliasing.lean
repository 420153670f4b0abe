import Tensora.Api.Assignment
import Tensora.Api.AssignmentBackends
import Tensora.Api.Handles
import Tensora.Api.Isolation
import Tensora.Api.OptimizerCalls
import Tensora.Api.ParameterLists
import Tensora.Api.ViewSequences
import Tensora.Training.StepEffects

/-! One program on CPU storage and on LibTorch storage. A view of a CPU tensor is in its storage,
what LibTorch makes of one is a copy; the two stay alike as long as no write meets a storage that
two tensors of the program are in. -/
namespace Tensora
open ProgramLogic

variable {F D : Type}

namespace Training

/-- A tensor over LibTorch storage, as `WrapTorchTensor` records it. Its storage is row-major. -/
structure ContiguousTensor where
  dims : List Nat
  wrapped : WrappedTensor
  deriving DecidableEq, Repr

namespace TorchTensors

/-- A tensor of the library's that was not there before has no gradient, its wrapper no history. -/
def wrap (w : TorchTensors F) (place : WrappedTensor) : TorchTensors F :=
  { w with
    gradients := Function.update w.gradients place.value none
    versions := Function.update w.versions place.counter 0 }

def put (w : TorchTensors F) (place : WrappedTensor) (data : List F) : TorchTensors F :=
  { w.wrap place with memory := Function.update w.memory place.storage data }

end TorchTensors

namespace TorchStorages
-- `place` is where the library puts what it makes.
variable (place : WrappedTensor)

/-- `from_blob(data, dimensions).clone()` -/
def fromData (data : List F) (dims : List Nat) (w : TorchTensors F) :
    ContiguousTensor × TorchTensors F :=
  (⟨dims, place⟩, w.put place data)

/-- `value.reshape(dimensions).clone()` -/
def reshape (tensor : ContiguousTensor) (dims : List Nat) (w : TorchTensors F) :
    Except Failure (ContiguousTensor × TorchTensors F) :=
  if tensor.dims.prod ≠ dims.prod then
    .error (invalidShape "reshape: target shape must preserve element count")
  else .ok (⟨dims, place⟩, w.put place (w.memory tensor.wrapped.storage))

/-- `value.transpose(0, 1).contiguous()`, which copies nothing when a row or a column is all
there is. -/
def transpose2D (tensor : ContiguousTensor) (w : TorchTensors F) :
    Except Failure (ContiguousTensor × TorchTensors F) :=
  match tensor.dims with
  | [rows, cols] =>
      if rows = 1 ∨ cols = 1 then
        .ok (⟨[cols, rows], { place with storage := tensor.wrapped.storage }⟩, w.wrap place)
      else
        .ok (⟨[cols, rows], place⟩,
          w.put place (transposeData rows cols (w.memory tensor.wrapped.storage)))
  | _ => .error (invalidShape "transpose: requires a rank-2 tensor")

/-- `value.detach().clone()` -/
def cloneDetached (tensor : ContiguousTensor) (w : TorchTensors F) :
    ContiguousTensor × TorchTensors F :=
  (⟨tensor.dims, place⟩, w.put place (w.memory tensor.wrapped.storage))

end TorchStorages

/-- `torch::optim::Optimizer::step` of an optimizer that keeps a `σ`: what it leaves of that and
of the library's tensors, and what it throws. -/
abbrev StepOperation (F σ : Type) :=
  σ → List ContiguousTensor → TorchTensors F → (σ × TorchTensors F) × Option Thrown

/-- As documented: a step updates each parameter that has a gradient in place, by what the
optimizer keeps, the parameter's values and its gradient, and writes nothing else. -/
structure UpdatesInPlace {σ : Type} (operation : StepOperation F σ)
    (update : σ → Nat → List F → List F → List F) : Prop where
  gradients : ∀ kept parameters w, (operation kept parameters w).2 = none →
    (operation kept parameters w).1.2.gradients = w.gradients
  others : ∀ kept parameters w storage, (operation kept parameters w).2 = none →
    (∀ p ∈ parameters, (w.gradients p.wrapped.value).isSome → p.wrapped.storage ≠ storage) →
    (operation kept parameters w).1.2.memory storage = w.memory storage
  own : ∀ kept parameters w index p g, (operation kept parameters w).2 = none →
    parameters[index]? = some p → w.gradients p.wrapped.value = some g →
    (∀ (other : Nat) (q : ContiguousTensor), parameters[other]? = some q →
      (w.gradients q.wrapped.value).isSome → q.wrapped.storage = p.wrapped.storage →
      other = index) →
    (operation kept parameters w).1.2.memory p.wrapped.storage =
      update kept index (w.memory p.wrapped.storage) g

/-- The library's step behind `GuardTorch`. -/
def stepLibrary {σ : Type} (operation : StepOperation F σ) (kept : σ)
    (parameters : List ContiguousTensor) : TorchM F (Except Failure σ) := fun w =>
  match operation kept parameters w with
  | ((kept, w), none) => .ok (.ok kept) w
  | ((_, w), some (.torch what)) => .ok (.error (torchFailure "parameter_optimizer_step" what)) w
  | ((_, w), some thrown) => .error thrown w

/-- The LibTorch branch of `Step`: the versions of the parameters with a gradient move. -/
def stepTorch {σ : Type} (operation : StepOperation F σ) (kept : σ)
    (parameters : List ContiguousTensor) : TorchM F (Except Failure σ) := do
  match ← stepLibrary operation kept parameters with
  | .error failure => return .error failure
  | .ok kept => do
      parameters.forM fun p => do
        if ((← get).gradients p.wrapped.value).isSome then incrementWrapped p.wrapped
      return .ok kept

end Training

namespace Api.Aliasing
open Training

structure Mirrored where
  handle : Nat
  torch : ContiguousTensor
  deriving DecidableEq, Repr

def Mirrored.storage (m : Mirrored) : Nat := m.torch.wrapped.storage

/-- The two runtimes, what the library's optimizers keep, and the tensors of the program that are
live. -/
structure Both (F D σ : Type) where
  cpu : Runtime F D
  torch : TorchTensors F
  optimizers : Nat → σ
  tensors : List Mirrored

variable {σ : Type}

namespace Both
variable (b : Both F D σ) (m : Mirrored)

def object : Option TensorId := b.cpu.objectOf m.handle .tensor

def cpuStorage : Option StorageId := (b.object m).bind b.cpu.heap.storageOf

def gradient : Option (List F) :=
  ((b.object m).bind b.cpu.heap.gradient).map b.cpu.heap.contents

structure Free (place : WrappedTensor) : Prop where
  storage : ∀ m ∈ b.tensors, m.storage ≠ place.storage
  value : ∀ m ∈ b.tensors, m.torch.wrapped.value ≠ place.value
  counter : ∀ m ∈ b.tensors, m.torch.wrapped.counter ≠ place.counter

end Both

def stepFormula [Scalar F] [Scalar D] [Precision F D] (optimizer : ParameterOptimizerState F D)
    (index : Nat) (values gradient : List F) : List F :=
  (updatedArrays optimizer.kind optimizer.hyper optimizer.moments.nextStep.step values gradient
    (optimizer.moments.firstMoment.getD index []) optimizer.moments.secondMoment[index]?).1

inductive Writes where
  | nothing
  | assigned (batch : List (Mirrored × Mirrored))
  | stepped (optimizer : Nat) (parameters : List Mirrored)
  deriving DecidableEq, Repr

def Writes.targets (b : Both F D σ) : Writes → List Mirrored
  | .nothing => []
  | .assigned batch => batch.map Prod.fst
  | .stepped _ parameters => parameters.filter fun m => (b.gradient m).isSome

section Steps
variable [Scalar F] [Scalar D] [Precision F D] [FloatBits F]
variable (clone : CloneOperation F) (copy : CopyOperation F) (operation : StepOperation F σ)

inductive Step (b : Both F D σ) : Writes → Both F D σ → Prop
  | create {data : List F} {dims : List Int} {handle : Nat} {s' : Runtime F D}
      {place : WrappedTensor} {made : ContiguousTensor} {w' : TorchTensors F}
      (cpu : exec (.tensorFromF32 data dims) b.cpu = .ok (.handle handle) s')
      (torch : TorchStorages.fromData place data (dims.map Int.toNat) b.torch = (made, w'))
      (free : b.Free place) : Step b .nothing ⟨s', w', b.optimizers, ⟨handle, made⟩ :: b.tensors⟩
  | reshape {m : Mirrored} {dims : List Int} {handle : Nat} {s' : Runtime F D}
      {place : WrappedTensor} {made : ContiguousTensor} {w' : TorchTensors F}
      (live : m ∈ b.tensors)
      (cpu : exec (.tensorReshape m.handle dims) b.cpu = .ok (.handle handle) s')
      (torch : TorchStorages.reshape place m.torch (dims.map Int.toNat) b.torch = .ok (made, w'))
      (free : b.Free place) : Step b .nothing ⟨s', w', b.optimizers, ⟨handle, made⟩ :: b.tensors⟩
  | transpose2D {m : Mirrored} {handle : Nat} {s' : Runtime F D} {place : WrappedTensor}
      {made : ContiguousTensor} {w' : TorchTensors F} (live : m ∈ b.tensors)
      (cpu : exec (.tensorTranspose2D m.handle) b.cpu = .ok (.handle handle) s')
      (torch : TorchStorages.transpose2D place m.torch b.torch = .ok (made, w'))
      (free : b.Free place) : Step b .nothing ⟨s', w', b.optimizers, ⟨handle, made⟩ :: b.tensors⟩
  | cloneDetached {m : Mirrored} {handle : Nat} {s' : Runtime F D} {place : WrappedTensor}
      {made : ContiguousTensor} {w' : TorchTensors F} (live : m ∈ b.tensors)
      (cpu : exec (.tensorCloneDetached m.handle) b.cpu = .ok (.handle handle) s')
      (torch : TorchStorages.cloneDetached place m.torch b.torch = (made, w'))
      (free : b.Free place) : Step b .nothing ⟨s', w', b.optimizers, ⟨handle, made⟩ :: b.tensors⟩
  | assignMany {batch : List (Mirrored × Mirrored)} {reply : Reply F} {s' : Runtime F D}
      {w' : TorchTensors F}
      (live : ∀ pair ∈ batch, pair.1 ∈ b.tensors ∧ pair.2 ∈ b.tensors)
      (cpu : exec (.tensorAssignMany (some (batch.map fun pair => pair.1.handle))
        (some (batch.map fun pair => pair.2.handle)) batch.length) b.cpu = .ok reply s')
      (torch : assignTorch clone copy (batch.map fun pair =>
        (pair.1.torch.wrapped, pair.2.torch.wrapped)) b.torch = .ok (.ok ()) w') :
      Step b (.assigned batch) ⟨s', w', b.optimizers, b.tensors⟩
  | step {handle object : Nat} {optimizer : ParameterOptimizerState F D}
      {parameters : List Mirrored} {reply : Reply F} {s' : Runtime F D} {kept : σ}
      {w' : TorchTensors F} (live : ∀ m ∈ parameters, m ∈ b.tensors)
      (found : b.cpu.parameterOptimizerAt handle = some (object, optimizer))
      (same : parameters.map b.object = optimizer.parameters.map some)
      (cpu : exec (.parameterOptimizerStep handle) b.cpu = .ok reply s')
      (torch : stepTorch operation (b.optimizers object) (parameters.map Mirrored.torch) b.torch =
        .ok (.ok kept) w') :
      Step b (.stepped object parameters)
        ⟨s', w', Function.update b.optimizers object kept, b.tensors⟩
  | other {call : Call F D} {reply : Reply F} {s' : Runtime F D} {w' : TorchTensors F}
      {optimizers : Nat → σ} {tensors : List Mirrored} (quiet : call.targets b.cpu = [])
      (cpu : exec call b.cpu = .ok reply s')
      (torch : ∀ m ∈ b.tensors, w'.memory m.storage = b.torch.memory m.storage)
      (kept : ∀ object < b.cpu.parameterOptimizers.length,
        optimizers object = b.optimizers object)
      (live : ∀ m ∈ tensors, m ∈ b.tensors ∧ s'.objectOf m.handle .tensor = b.object m) :
      Step b .nothing ⟨s', w', optimizers, tensors⟩

/-- A run, with the states its operations found and what they wrote. -/
inductive Runs (start : Both F D σ) : List (Both F D σ × Writes) → Both F D σ → Prop
  | start : Runs start [] start
  | next {run : List (Both F D σ × Writes)} {b b' : Both F D σ} {writes : Writes} :
      Runs start run b → Step clone copy operation b writes b' →
        Runs start (run ++ [(b, writes)]) b'

def Alone (b : Both F D σ) (writes : Writes) : Prop :=
  ∀ t ∈ writes.targets b, ∀ m ∈ b.tensors, b.cpuStorage m = b.cpuStorage t → m = t

instance (b : Both F D σ) (writes : Writes) : Decidable (Alone b writes) :=
  inferInstanceAs (Decidable (∀ t ∈ writes.targets b, ∀ m ∈ b.tensors, _ → _))

/-- No write meets a shared storage; a step finds the same gradients on both backends, and what the
library's optimizer makes of a parameter, with what it keeps, is what the CPU's formula makes of
it. -/
structure Apart (update : σ → Nat → List F → List F → List F) (b : Both F D σ)
    (writes : Writes) : Prop where
  alone : Alone b writes
  gradients : ∀ object parameters, writes = .stepped object parameters → ∀ m ∈ parameters,
    b.torch.gradients m.torch.wrapped.value = b.gradient m
  updates : ∀ object parameters optimizer index m g, writes = .stepped object parameters →
    b.cpu.parameterOptimizers[object]? = some optimizer → parameters[index]? = some m →
    b.gradient m = some g →
    update (b.optimizers object) index (b.torch.memory m.storage) g =
      stepFormula optimizer index (b.torch.memory m.storage) g

end Steps

/-- Both backends hold the same of every tensor of the program, and what LibTorch keeps in one
storage the CPU keeps in one. -/
structure Agree (b : Both F D σ) : Prop where
  ok : b.cpu.Ok
  observed : ∀ m ∈ b.tensors, Views b.cpu m.handle (m.torch.dims, b.torch.memory m.storage)
  shared : ∀ m ∈ b.tensors, ∀ m' ∈ b.tensors, m.storage = m'.storage →
    b.cpuStorage m = b.cpuStorage m'

section Views

theorem spec_transpose2D_storage {h : Heap F} {id : TensorId} (wf : WellFormed h)
    (hv : h.Visible id) :
    Spec (dispatchedUnary CpuBackend.transpose2D id) h
      (fun r h' => h'.storageOf r = h.storageOf id) (fun _ _ => True) fun _ => True := by
  obtain ⟨t, ht⟩ := hv.get
  have hp := wf.placed id t ht
  have hstorage : h.storageOf id = some t.storage := by rw [Heap.storageOf, ht, Option.map_some]
  unfold dispatchedUnary CpuBackend.transpose2D
  refine (observes_deref ht).bind trivial ?_
  rintro t rfl
  refine spec_failIf_bind (fun _ => trivial) fun _ => ?_
  refine (observes_deref ht).bind trivial ?_
  rintro t rfl
  refine (CpuBackend.observes_ensureCpuFloat32 hp "transpose").bind trivial fun _ _ => ?_
  refine spec_failIf_bind (fun _ => trivial) fun hrank => ?_
  obtain ⟨rows, cols, hrc⟩ := List.length_eq_two.mp (not_not.mp hrank)
  rw [CpuBackend.swapped_shape hp.layout hrc]
  have hpush := pushable_view wf ht hv (hp.layout.swapped hrc rfl) rfl (metaPushable_none h _)
  refine Spec.bind ((CpuBackend.spec_makeView ht).mono (fun _ _ hq => hq) (fun _ _ _ => trivial)
    fun _ _ => trivial) ?_
  rintro _ h' ⟨rfl, rfl⟩
  have hlast : (h.pushView { t.shape with
      dimensions := [cols, rows], strides := t.shape.strides.reverse } t none).storageOf
        h.tensors.length = some t.storage := by
    rw [Heap.storageOf, hpush.last, Option.map_some]
  refine Spec.bind ((Autograd.spec_recordUnary (hpush.wellFormed wf) (hpush.last_visible wf).1
    (hv.1.trans_le hpush.extension.length_le)).mono (fun _ _ hq => hq) (fun _ _ _ => trivial)
    fun _ _ => trivial) ?_
  rintro _ _ rfl
  refine spec_pure ?_
  split
  · rw [Heap.storageOf_setMeta, hlast, hstorage]
  · rw [hlast, hstorage]

theorem wp_transpose2D_storage {s : Runtime F D} (ok : s.Ok) {tensor : Nat} {id : TensorId}
    (hobject : s.objectOf tensor .tensor = some id) :
    wp (runUnary tensor (dispatchedUnary CpuBackend.transpose2D) : Native F D (Reply F))
      (fun reply s' => ∃ handle r, reply = .handle handle ∧
        s'.objectOf handle .tensor = some r ∧ s'.heap.storageOf r = s.heap.storageOf id)
      (fun _ _ => True) s := by
  unfold runUnary lookupTensor
  refine wp_lookupObject hobject ?_
  refine wp_seq (P := fun r s₁ => s₁.heap.storageOf r = s.heap.storageOf id)
    (R := fun _ _ => True) ?_ (fun _ _ _ => trivial) ?_
  · rw [wp_onMemory]
    exact wp_mono (spec_transpose2D_storage ok.wellFormed (ok.visible hobject) s.memory.allocator)
      (fun _ _ hq => hq.2) fun _ _ _ => trivial
  · intro r s₁ hr
    refine wp_seq (wp_insertHandle_withEntry .tensor r) (fun _ _ _ => trivial) ?_
    rintro handle s₂ hregistered
    refine ⟨handle, r, rfl, Registered.objectOf hregistered, ?_⟩
    obtain ⟨-, -, s₃, later, rfl⟩ := hregistered
    rw [← hr]
    exact congrArg (fun h : Heap F => h.storageOf r) later.heap_eq

variable {s : Runtime F D}

theorem wp_cloneDetached_views (ok : s.Ok) {tensor : Nat} {viewed : List Nat × List F}
    (h : Views s tensor viewed) :
    wp (runUnary tensor Autograd.cloneDetached : Native F D (Reply F))
      (fun reply s' => ∃ handle, reply = .handle handle ∧ Views s' handle viewed)
      (fun _ _ => True) s := by
  obtain ⟨id, hobject, rfl⟩ := h
  have wf := ok.wellFormed
  have hv := ok.visible hobject
  have hvalid := hv.valid wf
  have hlen := hv.length wf
  have hfits := hv.fits wf
  have hpush := pushable_fresh wf (canonicalShape_canonical hvalid).layout hlen hfits
    (metaPushable_none s.heap (canonicalShape (s.heap.dims id)).dimensions)
  have hcontents := contents_pushFresh wf hvalid hlen hfits (metaPushable_none s.heap _)
  unfold runUnary lookupTensor
  refine wp_lookupObject hobject ?_
  refine wp_seq (P := fun r s₁ => (s₁.heap.dims r, s₁.heap.contents r) =
    (s.heap.dims id, s.heap.contents id)) (R := fun _ _ => True) ?_ (fun _ _ _ => trivial) ?_
  · rw [wp_onMemory]
    refine wp_mono (Autograd.spec_cloneDetached wf hv.1 s.memory.allocator) ?_ fun _ _ _ => trivial
    rintro _ m ⟨-, rfl, hheap⟩
    change (m.heap.dims _, m.heap.contents _) = _
    rw [hheap, hcontents, Heap.dims_of hpush.last]
    rfl
  · intro r s₁ hr
    refine wp_seq (wp_insertHandle_withEntry .tensor r) (fun _ _ _ => trivial) ?_
    rintro handle s₂ hregistered
    refine ⟨handle, rfl, r, Registered.objectOf hregistered, ?_⟩
    obtain ⟨-, -, s₃, later, rfl⟩ := hregistered
    rw [← hr]
    exact congrArg (fun h : Heap F => (h.dims r, h.contents r)) later.heap_eq

end Views

section Quiet
variable [Scalar F] [Scalar D] [Precision F D] [FloatBits F] {b : Both F D σ}
  {call : Call F D} {reply : Reply F} {s' : Runtime F D} {w' : TorchTensors F}

theorem Agree.storage_stays (agree : Agree b) (hexec : exec call b.cpu = .ok reply s')
    {m : Mirrored} (hm : m ∈ b.tensors) (hobject : s'.objectOf m.handle .tensor = b.object m) :
    (s'.objectOf m.handle .tensor).bind s'.heap.storageOf = b.cpuStorage m := by
  have e := Call.Moves.evolves agree.ok (after_moves agree.ok call).2
  rw [after_of_ok hexec] at e
  obtain ⟨id, hid, -⟩ := agree.observed m hm
  have hobject' : b.object m = some id := hid
  rw [hobject, Both.cpuStorage, hobject', Option.bind_some, Option.bind_some,
    e.storageOf (agree.ok.visible hid).1]

theorem Agree.untouched (agree : Agree b) (hexec : exec call b.cpu = .ok reply s')
    {m : Mirrored} (hm : m ∈ b.tensors) (hobject : s'.objectOf m.handle .tensor = b.object m)
    (havoid : ∀ target ∈ call.targets b.cpu, b.cpu.heap.storageOf target ≠ b.cpuStorage m) :
    Views s' m.handle (m.torch.dims, b.torch.memory m.storage) := by
  have hafter := after_of_ok hexec
  have e := Call.Moves.evolves agree.ok (after_moves agree.ok call).2
  rw [hafter] at e
  obtain ⟨id, hid, hviewed⟩ := agree.observed m hm
  have hv := agree.ok.visible hid
  have hobject' : b.object m = some id := hid
  rw [Both.cpuStorage, hobject', Option.bind_some] at havoid
  refine ⟨id, hobject.trans hid, ?_⟩
  rw [e.dims_eq hv.1, ← hafter, after_contents agree.ok call hv havoid, hviewed]

theorem Agree.after_ok (agree : Agree b) (hexec : exec call b.cpu = .ok reply s') : s'.Ok := by
  exact after_of_ok hexec ▸ (after_moves agree.ok call).1

theorem Agree.extend (agree : Agree b) (quiet : call.targets b.cpu = [])
    (hexec : exec call b.cpu = .ok reply s') (names : Names b.cpu s') {handle : Nat}
    {made : ContiguousTensor}
    (hmemory : ∀ m ∈ b.tensors, w'.memory m.storage = b.torch.memory m.storage)
    (hviews : Views s' handle (made.dims, w'.memory made.wrapped.storage))
    (hshared : ∀ m ∈ b.tensors, m.storage = made.wrapped.storage →
      b.cpuStorage m = (s'.objectOf handle .tensor).bind s'.heap.storageOf) :
    Agree ⟨s', w', b.optimizers, ⟨handle, made⟩ :: b.tensors⟩ := by
  have hobject : ∀ m ∈ b.tensors, s'.objectOf m.handle .tensor = b.object m := by
    intro m hm
    obtain ⟨id, hid, -⟩ := agree.observed m hm
    exact (names.objects _ _ _ hid).trans hid.symm
  have hstays : ∀ m ∈ b.tensors,
      (s'.objectOf m.handle .tensor).bind s'.heap.storageOf = b.cpuStorage m :=
    fun m hm => agree.storage_stays hexec hm (hobject m hm)
  refine ⟨agree.after_ok hexec, ?_, ?_⟩
  · intro m hm
    rcases List.mem_cons.mp hm with rfl | hm
    · exact hviews
    · rw [hmemory m hm]
      refine agree.untouched hexec hm (hobject m hm) fun target ht => ?_
      rw [quiet] at ht
      cases ht
  · intro m hm m' hm' hstorage
    rcases List.mem_cons.mp hm with rfl | hm
    · rcases List.mem_cons.mp hm' with rfl | hm'
      · rfl
      · exact (hshared m' hm' hstorage.symm).symm.trans (hstays m' hm').symm
    · rcases List.mem_cons.mp hm' with rfl | hm'
      · exact (hstays m hm).trans (hshared m hm hstorage)
      · exact (hstays m hm).trans ((agree.shared m hm m' hm' hstorage).trans
          (hstays m' hm').symm)

theorem Agree.put (agree : Agree b) (quiet : call.targets b.cpu = [])
    (hexec : exec call b.cpu = .ok reply s') (names : Names b.cpu s') {place : WrappedTensor}
    (free : b.Free place) {handle : Nat} {dims : List Nat} {data : List F}
    (hviews : Views s' handle (dims, data)) :
    Agree ⟨s', b.torch.put place data, b.optimizers, ⟨handle, dims, place⟩ :: b.tensors⟩ ∧
      ∀ m ∈ b.tensors, (b.torch.put place data).memory m.storage = b.torch.memory m.storage := by
  have hmemory : ∀ m ∈ b.tensors,
      (b.torch.put place data).memory m.storage = b.torch.memory m.storage :=
    fun m hm => Function.update_of_ne (free.storage m hm) _ _
  refine ⟨agree.extend quiet hexec names hmemory ?_ ?_, hmemory⟩
  · have hdata : (b.torch.put place data).memory place.storage = data := Function.update_self _ _ _
    rw [hdata]
    exact hviews
  · exact fun m hm hstorage => absurd hstorage (free.storage m hm)

end Quiet

section Assigned
variable [Scalar F] [Scalar D] [Precision F D] [FloatBits F] {b : Both F D σ}
  {batch : List (Mirrored × Mirrored)} {reply : Reply F} {s' : Runtime F D} {w' : TorchTensors F}
  {clone : CloneOperation F} {copy : CopyOperation F}

def assignCall (batch : List (Mirrored × Mirrored)) : Call F D :=
  .tensorAssignMany (some (batch.map fun pair => pair.1.handle))
    (some (batch.map fun pair => pair.2.handle)) batch.length

omit [Scalar F] [Scalar D] [Precision F D] [FloatBits F] in
theorem resolved_batch {pairs : List (TensorId × TensorId)}
    (h : Resolved b.cpu (some (batch.map fun pair => pair.1.handle))
      (some (batch.map fun pair => pair.2.handle)) batch.length pairs) :
    List.Forall₂ (fun pair p => b.object pair.1 = some p.1 ∧ b.object pair.2 = some p.2) batch
      pairs := by
  unfold Resolved at h
  rw [Option.getD_some, Option.getD_some, List.zip_map', List.take_of_length_le (by simp),
    List.forall₂_map_left_iff] at h
  exact h

omit [Scalar F] [Scalar D] [Precision F D] [FloatBits F] in
theorem targets_assignCall {target : TensorId}
    (h : target ∈ (assignCall batch : Call F D).targets b.cpu) :
    ∃ pair ∈ batch, b.object pair.1 = some target := by
  simp only [assignCall, Call.targets, Option.getD_some] at h
  rw [List.take_of_length_le (by simp), List.mem_filterMap] at h
  obtain ⟨handle, hmem, hobject⟩ := h
  obtain ⟨pair, hpair, rfl⟩ := List.mem_map.mp hmem
  exact ⟨pair, hpair, hobject⟩

theorem wp_exec_assignCall (ok : b.cpu.Ok) (batch : List (Mirrored × Mirrored)) :
    wp (exec (assignCall batch))
      (fun _ s' => (∀ handle type, s'.objectOf handle type = b.cpu.objectOf handle type) ∧
        ∃ pairs, List.Forall₂ (fun pair p => b.object pair.1 = some p.1 ∧
            b.object pair.2 = some p.2) batch pairs ∧
          (pairs.map fun p => b.cpu.heap.storageOf p.1).Nodup ∧
          SimultaneouslyAssigned b.cpu.heap pairs s'.heap)
      (fun _ _ => True) b.cpu := by
  change wp (assignMany _ _ _ >>= fun _ => pure Reply.done) _ _ b.cpu
  refine wp_seq (wp_assignMany ok _ _ _) (fun _ _ _ => trivial) ?_
  rintro _ _ ⟨a, h', checked, rfl, hresolved, -, hchecked, hassigned⟩
  exact ⟨fun _ _ => rfl, checked.pairs, resolved_batch hresolved, hchecked.separate,
    simultaneously_of_assigned hassigned⟩

omit [Scalar F] [Scalar D] [Precision F D] [FloatBits F] in
theorem Agree.distinct (agree : Agree b)
    (live : ∀ pair ∈ batch, pair.1 ∈ b.tensors ∧ pair.2 ∈ b.tensors)
    {pairs : List (TensorId × TensorId)}
    (hresolved : List.Forall₂ (fun pair p => b.object pair.1 = some p.1 ∧
      b.object pair.2 = some p.2) batch pairs)
    (hnodup : (pairs.map fun p => b.cpu.heap.storageOf p.1).Nodup) :
    (batch.map fun pair => pair.1.storage).Nodup := by
  have hmap : (pairs.map fun p => b.cpu.heap.storageOf p.1) =
      batch.map fun pair => b.cpuStorage pair.1 := by
    refine (List.forall₂_eq_eq_eq ▸ List.forall₂_map_left_iff.mpr
      (List.forall₂_map_right_iff.mpr (hresolved.imp ?_)) :
        (batch.map fun pair => b.cpuStorage pair.1) = _).symm
    rintro pair p ⟨htarget, -⟩
    rw [Both.cpuStorage, htarget, Option.bind_some]
  rw [hmap, List.Nodup, List.pairwise_map] at hnodup
  rw [List.Nodup, List.pairwise_map]
  exact hnodup.imp_of_mem fun hx hy hne heq =>
    hne (agree.shared _ (live _ hx).1 _ (live _ hy).1 heq)

theorem Agree.assigned (agree : Agree b) (alone : Alone b (.assigned batch))
    (live : ∀ pair ∈ batch, pair.1 ∈ b.tensors ∧ pair.2 ∈ b.tensors)
    (hexec : exec (assignCall batch) b.cpu = .ok reply s') (hclone : Clones clone)
    (hcopy : Training.Copies copy)
    (htorch : assignTorch clone copy (batch.map fun pair =>
      (pair.1.torch.wrapped, pair.2.torch.wrapped)) b.torch = .ok (.ok ()) w') :
    Agree ⟨s', w', b.optimizers, b.tensors⟩ ∧ ∀ m ∈ b.tensors, m ∉ batch.map Prod.fst →
      w'.memory m.storage = b.torch.memory m.storage := by
  obtain ⟨hobject, pairs, hresolved, hnodup, hassigned⟩ :=
    wp_of_ok (wp_exec_assignCall agree.ok batch) hexec
  have hdistinct := agree.distinct live hresolved hnodup
  have hmemory : w'.memory = b.torch.memory.assigned (batch.map fun pair =>
      (pair.1.storage, b.torch.memory pair.2.storage)) := by
    rw [(wp_of_ok (wp_assignTorch hclone hcopy _ _) htorch rfl).memory, TorchTensors.copied,
      List.map_map]
    rfl
  have hframe : ∀ m ∈ b.tensors, m ∉ batch.map Prod.fst →
      w'.memory m.storage = b.torch.memory m.storage := by
    intro m hm hnot
    rw [hmemory]
    refine TorchMemory.assigned_of_notMem fun hmem => hnot ?_
    rw [List.map_map] at hmem
    obtain ⟨pair, hpair, hstorage⟩ := List.mem_map.mp hmem
    have htarget : pair.1 ∈ batch.map Prod.fst := List.mem_map_of_mem hpair
    rw [alone pair.1 htarget m hm
      (agree.shared m hm pair.1 (live pair hpair).1 hstorage.symm)]
    exact htarget
  refine ⟨⟨agree.after_ok hexec, fun m hm => ?_, fun m hm m' hm' hstorage => ?_⟩, hframe⟩
  · by_cases hmem : m ∈ batch.map Prod.fst
    · obtain ⟨pair, hpair, rfl⟩ := List.mem_map.mp hmem
      obtain ⟨i, hi, rfl⟩ := List.getElem_of_mem hpair
      obtain ⟨hlen, hall⟩ := List.forall₂_iff_get.mp hresolved
      have hi' := hlen ▸ hi
      obtain ⟨htarget, hsource⟩ := hall i hi hi'
      simp only [List.get_eq_getElem] at htarget hsource
      obtain ⟨target, htarget', hviewed⟩ := agree.observed _ hm
      obtain ⟨source, hsource', hviewed'⟩ := agree.observed _ (live _ hpair).2
      obtain rfl : target = pairs[i].1 := Option.some.inj (htarget'.symm.trans htarget)
      obtain rfl : source = pairs[i].2 := Option.some.inj (hsource'.symm.trans hsource)
      have e := Call.Moves.evolves agree.ok (after_moves agree.ok (assignCall batch)).2
      rw [after_of_ok hexec] at e
      have hassigned' : w'.memory batch[i].1.storage = b.torch.memory batch[i].2.storage := by
        rw [hmemory]
        exact TorchMemory.assigned_of_mem (by rw [List.map_map]; exact hdistinct)
          (List.mem_map_of_mem (f := fun pair : Mirrored × Mirrored =>
            (pair.1.storage, b.torch.memory pair.2.storage)) hpair)
      refine ⟨pairs[i].1, (hobject _ _).trans htarget', ?_⟩
      rw [e.dims_eq (agree.ok.visible htarget').1, hassigned.contents _ (List.getElem_mem hi'),
        hassigned', (Prod.mk.inj hviewed).1, (Prod.mk.inj hviewed').2]
    · change Views s' m.handle (m.torch.dims, w'.memory m.storage)
      rw [hframe m hm hmem]
      refine agree.untouched hexec hm (hobject _ _) fun target htarget heq => hmem ?_
      obtain ⟨pair, hpair, hid⟩ := targets_assignCall htarget
      have hstorage : b.cpuStorage m = b.cpuStorage pair.1 := by
        rw [← heq, Both.cpuStorage, hid, Option.bind_some]
      have hfirst : pair.1 ∈ batch.map Prod.fst := List.mem_map_of_mem hpair
      rw [alone pair.1 hfirst m hm hstorage]
      exact hfirst
  · exact (agree.storage_stays hexec hm (hobject _ _)).trans
      ((agree.shared m hm m' hm' hstorage).trans
        (agree.storage_stays hexec hm' (hobject _ _)).symm)

end Assigned

section Stepped
variable {b : Both F D σ} {optimizer : ParameterOptimizerState F D} {parameters : List Mirrored}
  {object : Nat} {update : σ → Nat → List F → List F → List F} {operation : StepOperation F σ}

theorem wp_stepTorch (operation : StepOperation F σ) (kept : σ) (tensors : List ContiguousTensor)
    (w : TorchTensors F) :
    wp (stepTorch operation kept tensors)
      (fun stepped w' => ∀ kept', stepped = .ok kept' → (operation kept tensors w).2 = none ∧
        w'.memory = (operation kept tensors w).1.2.memory) (fun _ _ => True) w := by
  unfold stepTorch
  have hlibrary : wp (stepLibrary operation kept tensors)
      (fun stepped w' => ∀ kept', stepped = .ok kept' → (operation kept tensors w).2 = none ∧
        w' = (operation kept tensors w).1.2) (fun _ _ => True) w := by
    unfold wp stepLibrary
    rcases hstep : operation kept tensors w with ⟨⟨kept₁, w₁⟩, _ | thrown⟩
    · exact fun _ _ => ⟨rfl, rfl⟩
    · cases thrown with
      | torch what => exact fun _ h => by cases h
      | badAlloc => trivial
      | other what => trivial
  refine wp_seq hlibrary (fun _ _ _ => trivial) ?_
  rintro (failure | kept₁) w₁ hstepped
  · exact fun _ h => by cases h
  obtain ⟨hnone, rfl⟩ := hstepped kept₁ rfl
  generalize (operation kept tensors w).1.2 = w₁
  have hversions : wp (tensors.forM fun p => (do
      if ((← get).gradients p.wrapped.value).isSome then incrementWrapped p.wrapped
        : TorchM F Unit))
      (fun _ w' => w'.memory = w₁.memory) (fun _ _ => True) w₁ := by
    refine wp_forM (fun _ _ w' => w'.memory = w₁.memory) tensors rfl ?_ fun _ h => h
    rintro done p rest w' - hmemory
    rw [wp_bind, wp_get]
    refine wp_ite (fun _ => ?_) fun _ => hmemory
    unfold incrementWrapped
    rw [wp_modify]
    exact hmemory
  refine wp_seq hversions (fun _ _ _ => trivial) ?_
  exact fun _ _ hmemory _ _ => ⟨hnone, hmemory⟩

variable [Scalar F] [Scalar D] [Precision F D]

omit [Scalar F] [Scalar D] [Precision F D] in
theorem setAt_of_ne (moments : Moments F) {index i : Nat} (hne : i ≠ index) (first : List F)
    (second : Option (List F)) :
    (moments.setAt index first second).firstMoment.getD i [] = moments.firstMoment.getD i [] ∧
      (moments.setAt index first second).secondMoment[i]? = moments.secondMoment[i]? := by
  simp only [Moments.setAt, List.getD_eq_getElem?_getD, List.getElem?_set_ne hne.symm, true_and]
  cases second with
  | none => rfl
  | some buffer => exact List.getElem?_set_ne hne.symm

structure InStep (b : Both F D σ) (optimizer : ParameterOptimizerState F D)
    (parameters : List Mirrored) (index : Nat) (state : Heap F × Moments F) : Prop where
  stepping : Stepping b.cpu.heap optimizer.kind optimizer.parameters state
  done : ∀ i m id g, i < index → parameters[i]? = some m → b.object m = some id →
    b.gradient m = some g →
    state.1.contents id = stepFormula optimizer i (b.cpu.heap.contents id) g
  waiting : ∀ m ∈ b.tensors, ∀ id, b.object m = some id →
    (∀ i < index, parameters[i]? = some m → b.gradient m = none) →
    state.1.contents id = b.cpu.heap.contents id
  step : state.2.step = optimizer.moments.nextStep.step
  moments : ∀ i, index ≤ i →
    state.2.firstMoment.getD i [] = optimizer.moments.firstMoment.getD i [] ∧
      state.2.secondMoment[i]? = optimizer.moments.secondMoment[i]?
  gradients : ∀ id g, b.cpu.heap.gradient id = some g →
    state.1.contents g = b.cpu.heap.contents g

theorem InStep.next {index : Nat} {state : Heap F × Moments F}
    (i : InStep b optimizer parameters index state) (agree : Agree b)
    (alone : Alone b (.stepped object parameters))
    (live : ∀ m ∈ parameters, m ∈ b.tensors) (distinct : parameters.Nodup)
    (u : Updatable b.cpu.heap optimizer.parameters) {m : Mirrored}
    (hmem : parameters[index]? = some m) {id : TensorId} (hid : b.object m = some id)
    (hp : optimizer.parameters[index]? = some id) :
    InStep b optimizer parameters (index + 1)
      (stepParameter optimizer.kind optimizer.hyper state (id, index)) := by
  have hstep : Stepping b.cpu.heap optimizer.kind optimizer.parameters
      (stepParameter optimizer.kind optimizer.hyper state (id, index)) := i.stepping.next u hp
  have hsame : b.gradient m = (b.cpu.heap.gradient id).map b.cpu.heap.contents := by
    rw [Both.gradient, hid, Option.bind_some]
  cases hg : b.cpu.heap.gradient id with
  | none =>
      have hnone : stepParameter optimizer.kind optimizer.hyper state (id, index) = state := by
        rw [stepParameter, i.stepping.gradients, hg]
      rw [hg] at hsame
      rw [hnone]
      refine { i with
        done := fun j m' id' g hj hm' hid' hg' => ?_
        waiting := fun m' hm' id' hid' hcondition => ?_
        moments := fun j hj => i.moments j (Nat.le_of_succ_le hj) }
      · rcases Nat.lt_succ_iff_lt_or_eq.mp hj with hj | rfl
        · exact i.done j m' id' g hj hm' hid' hg'
        · obtain rfl := Option.some.inj (hmem.symm.trans hm')
          rw [hsame] at hg'
          cases hg'
      · exact i.waiting m' hm' id' hid' fun j hj => hcondition j (Nat.lt_succ_of_lt hj)
  | some g =>
      rw [hg, Option.map_some] at hsame
      obtain ⟨h', moments⟩ := state
      have e := i.stepping.touches.unrecorded.evolves
      obtain ⟨hv, hrow⟩ := u.evolve e id (List.mem_of_getElem? hp)
      have hold := (u id (List.mem_of_getElem? hp)).1
      have hgradient : h'.gradient id = some g := (i.stepping.gradients id).trans hg
      obtain ⟨hfirst, hsecond⟩ := i.moments index (Nat.le_refl _)
      have hcount : moments.step = optimizer.moments.nextStep.step := i.step
      have hin := live m (List.mem_of_getElem? hmem)
      have hindex : ∀ j, parameters[j]? = some m → j = index := fun j hj =>
        (List.getElem?_inj (List.getElem?_eq_some_iff.mp hj).1 distinct).mp (hj.trans hmem.symm)
      have hcontents : h'.contents id = b.cpu.heap.contents id :=
        i.waiting m hin id hid fun j hj hm' => absurd (hindex j hm') (Nat.ne_of_lt hj)
      simp only at e hv hrow hfirst hsecond
      generalize hvalues : stepFormula optimizer index (b.cpu.heap.contents id)
        (b.cpu.heap.contents g) = values
      have harrays : (updatedArrays optimizer.kind optimizer.hyper moments.step (h'.contents id)
          (h'.contents g) (moments.firstMoment.getD index []) moments.secondMoment[index]?).1 =
            values := by
        rw [← hvalues, stepFormula, hfirst, hsecond, hcount, hcontents, i.gradients id g hg]
      obtain ⟨first, second, hcpu⟩ : ∃ first second,
          stepParameter optimizer.kind optimizer.hyper (h', moments) (id, index) =
            (h'.updated id values, moments.setAt index first second) :=
        ⟨_, _, by rw [stepParameter, hgradient, ← harrays]⟩
      have hlen : values.length = (h'.dims id).prod := by
        rw [← hvalues, stepFormula, length_updatedArrays, ← hcontents, hv.length e.wellFormed]
      rw [hcpu] at hstep
      rw [hcpu]
      have htarget : m ∈ (Writes.stepped object parameters).targets b := by
        refine List.mem_filter.mpr ⟨List.mem_of_getElem? hmem, ?_⟩
        rw [hsame]
        rfl
      -- the write stays within the storage of this parameter, where no other tensor is
      have hother : ∀ m' ∈ b.tensors, m' ≠ m → ∀ id', b.object m' = some id' →
          (h'.updated id values).contents id' = h'.contents id' := by
        intro m' hm' hne id' hid'
        refine Heap.contents_updated_of_ne hv.1 fun h => hne (alone m htarget m' hm' ?_)
        obtain ⟨id'', hid'', -⟩ := agree.observed m' hm'
        obtain rfl := Option.some.inj (hid''.symm.trans hid')
        rw [Both.cpuStorage, Both.cpuStorage, hid, hid', Option.bind_some, Option.bind_some,
          ← e.storageOf hold.1, ← e.storageOf (agree.ok.visible hid'').1, h]
      exact {
        stepping := hstep
        done := by
          intro j m' id' g' hj hm' hid' hg'
          rcases Nat.lt_succ_iff_lt_or_eq.mp hj with hj | rfl
          · have hne : m' ≠ m := fun h => Nat.ne_of_lt hj (hindex j (h ▸ hm'))
            rw [hother m' (live m' (List.mem_of_getElem? hm')) hne id' hid']
            exact i.done j m' id' g' hj hm' hid' hg'
          · obtain rfl := Option.some.inj (hmem.symm.trans hm')
            obtain rfl := Option.some.inj (hid.symm.trans hid')
            obtain rfl := Option.some.inj (hsame.symm.trans hg')
            rw [hvalues]
            exact Heap.contents_updated_self e.wellFormed hv.1 hrow hlen
        waiting := by
          intro m' hm' id' hid' hcondition
          have hne : m' ≠ m := by
            rintro rfl
            rw [hcondition index (Nat.lt_succ_self _) hmem] at hsame
            cases hsame
          rw [hother m' hm' hne id' hid']
          exact i.waiting m' hm' id' hid' fun j hj => hcondition j (Nat.lt_succ_of_lt hj)
        step := hcount
        moments := by
          intro j hj
          have hne : j ≠ index := by omega
          obtain ⟨hf, hs⟩ := setAt_of_ne moments hne first second
          obtain ⟨hf', hs'⟩ := i.moments j (by omega)
          exact ⟨hf.trans hf', hs.trans hs'⟩
        gradients := by
          intro id' g' hg'
          rw [← i.gradients id' g' hg']
          have hg'' : h'.gradient id' = some g' := (i.stepping.gradients id').trans hg'
          exact Heap.contents_updated_of_ne hv.1 (e.wellFormed.gradient_apart hg'' hv) }

theorem InStep.all {rest : List Mirrored} {ids : List TensorId} {index : Nat}
    {state : Heap F × Moments F}
    (i : InStep b optimizer parameters index state) (agree : Agree b)
    (alone : Alone b (.stepped object parameters))
    (live : ∀ m ∈ parameters, m ∈ b.tensors) (distinct : parameters.Nodup)
    (u : Updatable b.cpu.heap optimizer.parameters) (hrest : parameters.drop index = rest)
    (hids : rest.map b.object = ids.map some)
    (hdrop : optimizer.parameters.drop index = ids) :
    InStep b optimizer parameters (index + rest.length)
      ((ids.zipIdx index).foldl (stepParameter optimizer.kind optimizer.hyper) state) := by
  induction rest generalizing ids index state with
  | nil =>
      obtain rfl : ids = [] := List.map_eq_nil_iff.mp hids.symm
      exact i
  | cons m rest ih =>
      cases ids with
      | nil => cases hids
      | cons id ids =>
          obtain ⟨hid, hids⟩ := List.cons.inj hids
          have hp : optimizer.parameters[index]? = some id := by
            rw [← Nat.add_zero index, ← List.getElem?_drop, hdrop]
            rfl
          have hm : parameters[index]? = some m := by
            rw [← Nat.add_zero index, ← List.getElem?_drop, hrest]
            rfl
          have hdrop' : optimizer.parameters.drop (index + 1) = ids := by
            rw [← List.drop_drop, hdrop]
            rfl
          have hrest' : parameters.drop (index + 1) = rest := by
            rw [← List.drop_drop, hrest]
            rfl
          have h := ih (i.next agree alone live distinct u hm hid hp) hrest' hids hdrop'
          rw [List.length_cons, ← Nat.add_assoc, Nat.add_right_comm]
          exact h

variable [FloatBits F] {reply : Reply F} {s' : Runtime F D} {kept : σ} {w' : TorchTensors F}

theorem Agree.stepped_cpu (agree : Agree b) (alone : Alone b (.stepped object parameters))
    (live : ∀ m ∈ parameters, m ∈ b.tensors) (distinct : parameters.Nodup) {handle : Nat}
    (found : b.cpu.parameterOptimizerAt handle = some (object, optimizer))
    (same : parameters.map b.object = optimizer.parameters.map some)
    (hexec : exec (.parameterOptimizerStep handle) b.cpu = .ok reply s') :
    ∃ state a, s' = b.cpu.withParameterMoments object state a ∧
      InStep b optimizer parameters parameters.length state := by
  have hok := agree.ok.parameterOptimizers optimizer
    (List.mem_of_getElem? (Runtime.get_parameterOptimizerAt found))
  have hstart : InStep b optimizer parameters 0 (b.cpu.heap, optimizer.moments.nextStep) :=
    { stepping := Stepping.start agree.ok.wellFormed hok.fits
      done := fun j _ _ _ hj => absurd hj (Nat.not_lt_zero j)
      waiting := fun _ _ _ _ _ => rfl
      step := rfl
      moments := fun _ _ => ⟨rfl, rfl⟩
      gradients := fun _ _ _ => rfl }
  have hdone := hstart.all agree alone live distinct hok.updatable (List.drop_zero) same
    (List.drop_zero)
  have hcpu : wp (exec (.parameterOptimizerStep handle)) (fun _ s' => ∃ a,
      s' = b.cpu.withParameterMoments object (stepAll optimizer.kind optimizer.hyper
        optimizer.parameters (b.cpu.heap, optimizer.moments)) a) (fun _ _ => True) b.cpu := by
    change wp (cpuStep handle >>= fun _ => pure Reply.done) _ _ b.cpu
    refine wp_seq (wp_cpuStep agree.ok found) (fun _ _ _ => trivial) ?_
    rintro _ _ ⟨-, rfl, -⟩
    exact ⟨_, rfl⟩
  obtain ⟨a, rfl⟩ := wp_of_ok hcpu hexec
  rw [Nat.zero_add] at hdone
  exact ⟨_, a, rfl, hdone⟩

theorem Agree.stepped (agree : Agree b) (apart : Apart update b (.stepped object parameters))
    (updates : UpdatesInPlace operation update)
    (live : ∀ m ∈ parameters, m ∈ b.tensors) {handle : Nat}
    (found : b.cpu.parameterOptimizerAt handle = some (object, optimizer))
    (same : parameters.map b.object = optimizer.parameters.map some)
    (hexec : exec (.parameterOptimizerStep handle) b.cpu = .ok reply s')
    (htorch : stepTorch operation (b.optimizers object) (parameters.map Mirrored.torch) b.torch =
      .ok (.ok kept) w') :
    Agree ⟨s', w', Function.update b.optimizers object kept, b.tensors⟩ ∧
      ∀ m ∈ b.tensors, m ∉ (Writes.stepped object parameters).targets b →
        w'.memory m.storage = b.torch.memory m.storage := by
  have hget := Runtime.get_parameterOptimizerAt found
  have hok := agree.ok.parameterOptimizers optimizer (List.mem_of_getElem? hget)
  have hobjects : (parameters.map b.object).Nodup := by
    rw [same]
    exact hok.distinct.map (Option.some_injective _)
  have distinct : parameters.Nodup := hobjects.of_map
  obtain ⟨state, a, rfl, hdone⟩ :=
    agree.stepped_cpu apart.alone live distinct found same hexec
  obtain ⟨hnone, hmemory⟩ := wp_of_ok (wp_stepTorch operation _ _ _) htorch kept rfl
  -- a parameter with a gradient in the storage of a tensor of the program is that tensor
  have hown : ∀ m ∈ b.tensors, ∀ p ∈ parameters,
      (b.torch.gradients p.torch.wrapped.value).isSome → p.storage = m.storage → p = m := by
    intro m hm p hp hgraded hstorage
    rw [apart.gradients object parameters rfl p hp] at hgraded
    have htarget : p ∈ (Writes.stepped object parameters).targets b :=
      List.mem_filter.mpr ⟨hp, hgraded⟩
    exact (apart.alone p htarget m hm (agree.shared m hm p (live p hp) hstorage.symm)).symm
  have hframe : ∀ m ∈ b.tensors, m ∉ (Writes.stepped object parameters).targets b →
      w'.memory m.storage = b.torch.memory m.storage := by
    intro m hm hnot
    rw [hmemory]
    refine updates.others _ _ _ _ hnone fun q hq hgraded hstorage => hnot ?_
    obtain ⟨p, hp, rfl⟩ := List.mem_map.mp hq
    obtain rfl := hown m hm p hp hgraded hstorage
    refine List.mem_filter.mpr ⟨hp, ?_⟩
    rw [← apart.gradients object parameters rfl p hp]
    exact hgraded
  refine ⟨⟨agree.after_ok hexec, fun m hm => ?_, fun m hm m' hm' hstorage => ?_⟩, hframe⟩
  · have e := hdone.stepping.touches.unrecorded.evolves
    obtain ⟨id, hid, hviewed⟩ := agree.observed m hm
    refine ⟨id, hid, Prod.ext ?_ ?_⟩
    · exact (e.dims_eq (agree.ok.visible hid).1).trans (Prod.mk.inj hviewed).1
    · change state.1.contents id = w'.memory m.storage
      by_cases htarget : m ∈ (Writes.stepped object parameters).targets b
      · obtain ⟨hmem, hgraded⟩ := List.mem_filter.mp htarget
        obtain ⟨index, hindex, rfl⟩ := List.getElem_of_mem hmem
        obtain ⟨g, hg⟩ := Option.isSome_iff_exists.mp hgraded
        have hat : parameters[index]? = some parameters[index] := List.getElem?_eq_getElem hindex
        rw [hdone.done index _ id g hindex hat hid hg, (Prod.mk.inj hviewed).2, hmemory]
        rw [← apart.updates object parameters optimizer index _ g rfl hget hat hg]
        refine (updates.own _ _ _ index _ g hnone ?_ ?_ ?_).symm
        · rw [List.getElem?_map, hat, Option.map_some]
        · exact (apart.gradients object parameters rfl _ hmem).trans hg
        · intro other q hq hother hstorage
          obtain ⟨p, hp, rfl⟩ := Option.map_eq_some_iff.mp ((List.getElem?_map ..).symm.trans hq)
          have hsame := hown _ hm p (List.mem_of_getElem? hp) hother hstorage
          exact (List.getElem?_inj (List.getElem?_eq_some_iff.mp hp).1 distinct).mp
            ((hp.trans (congrArg some hsame)).trans hat.symm)
      · rw [hframe m hm htarget, ← (Prod.mk.inj hviewed).2]
        refine hdone.waiting m hm id hid fun index _ hat => ?_
        cases hg : b.gradient m with
        | none => rfl
        | some g =>
            exact absurd (List.mem_filter.mpr ⟨List.mem_of_getElem? hat, by rw [hg]; rfl⟩) htarget
  · exact (agree.storage_stays hexec hm rfl).trans ((agree.shared m hm m' hm' hstorage).trans
      (agree.storage_stays hexec hm' rfl).symm)

end Stepped

theorem transposeData_line {rows cols : Nat} {data : List F} (hlen : data.length = rows * cols)
    (hline : rows = 1 ∨ cols = 1) : transposeData rows cols data = data := by
  refine List.ext_getElem? fun i => ?_
  by_cases hi : i < rows * cols
  · rcases hline with rfl | rfl
    · have h := transposeData_getElem? hlen Nat.zero_lt_one (by omega : i < cols)
      simpa using h
    · have h := transposeData_getElem? hlen (by omega : i < rows) Nat.zero_lt_one
      simpa using h
  · rw [List.getElem?_eq_none (by rw [transposeData_length hlen, Nat.mul_comm]; omega),
      List.getElem?_eq_none (by omega)]

section Runs
variable [Scalar F] [Scalar D] [Precision F D] [FloatBits F] {b b' : Both F D σ}
  {clone : CloneOperation F} {copy : CopyOperation F} {operation : StepOperation F σ}
  {update : σ → Nat → List F → List F → List F} {writes : Writes}

omit [Scalar F] [Scalar D] [Precision F D] [FloatBits F] in
theorem Agree.length (agree : Agree b) {m : Mirrored} (hm : m ∈ b.tensors) :
    (b.torch.memory m.storage).length = m.torch.dims.prod := by
  obtain ⟨id, hid, hviewed⟩ := agree.observed m hm
  obtain ⟨t, ht⟩ := (agree.ok.visible hid).get
  rw [← (Prod.mk.inj hviewed).2, ← (Prod.mk.inj hviewed).1]
  exact agree.ok.wellFormed.length_contents ht

theorem Agree.transposed (agree : Agree b) {m : Mirrored} (hm : m ∈ b.tensors) {handle : Nat}
    {s' : Runtime F D} (hexec : exec (.tensorTranspose2D m.handle) b.cpu = .ok (.handle handle) s')
    {place : WrappedTensor} {made : ContiguousTensor} {w' : TorchTensors F}
    (htorch : TorchStorages.transpose2D place m.torch b.torch = .ok (made, w'))
    (free : b.Free place) :
    Agree ⟨s', w', b.optimizers, ⟨handle, made⟩ :: b.tensors⟩ ∧
      ∀ m ∈ b.tensors, w'.memory m.storage = b.torch.memory m.storage := by
  obtain ⟨id, hid, hviewed⟩ := agree.observed m hm
  have names := wp_of_ok (wp_runUnary_names m.handle _ (Names.refl b.cpu)) hexec
  obtain ⟨-, -, _, ⟨⟩, hviews⟩ :=
    wp_of_ok (keeps_transpose2D_views agree.ok (agree.observed m hm)) hexec
  obtain ⟨_, r, ⟨⟩, hr, hstorage⟩ := wp_of_ok (wp_transpose2D_storage agree.ok hid) hexec
  have hlen := agree.length hm
  unfold TorchStorages.transpose2D at htorch
  split at htorch
  · rename_i rows cols hdims
    rw [hdims] at hviews hlen
    split at htorch
    · rename_i hline
      cases htorch
      rw [onList, transposeData_line (by simpa using hlen) hline] at hviews
      refine ⟨agree.extend rfl hexec names (fun _ _ => rfl) hviews fun m' hm' hsame => ?_,
        fun _ _ => rfl⟩
      have hobject : b.object m = some id := hid
      rw [agree.shared m' hm' m hm hsame, hr, Option.bind_some, hstorage, Both.cpuStorage, hobject,
        Option.bind_some]
    · cases htorch
      exact agree.put rfl hexec names free hviews
  · cases htorch

/-- One operation that meets no shared storage keeps the backends alike, and changes what it
writes only. -/
theorem Agree.step (agree : Agree b) (step : Step clone copy operation b writes b')
    (apart : Apart update b writes) (hclone : Clones clone) (hcopy : Training.Copies copy)
    (updates : UpdatesInPlace operation update) :
    Agree b' ∧ ∀ m ∈ b.tensors, m ∉ writes.targets b →
      b'.torch.memory m.storage = b.torch.memory m.storage := by
  cases step with
  | create cpu torch free =>
      cases torch
      have names := wp_of_ok (wp_tensorFromF32_names _ _) cpu
      obtain ⟨-, -, _, ⟨⟩, hviews⟩ := wp_of_ok (keeps_fromF32_views agree.ok _ _) cpu
      obtain ⟨agree', hmemory⟩ := agree.put rfl cpu names free hviews
      exact ⟨agree', fun m hm _ => hmemory m hm⟩
  | @reshape m dims _ _ _ _ _ live cpu torch free =>
      have names := wp_of_ok (wp_tensorReshape_names m.handle dims) cpu
      obtain ⟨-, -, _, ⟨⟩, hviews⟩ :=
        wp_of_ok (keeps_reshape_views agree.ok dims (agree.observed m live)) cpu
      unfold TorchStorages.reshape at torch
      split at torch
      · cases torch
      · cases torch
        obtain ⟨agree', hmemory⟩ := agree.put rfl cpu names free hviews
        exact ⟨agree', fun m hm _ => hmemory m hm⟩
  | transpose2D live cpu torch free =>
      obtain ⟨agree', hmemory⟩ := agree.transposed live cpu torch free
      exact ⟨agree', fun m hm _ => hmemory m hm⟩
  | @cloneDetached m _ _ _ _ _ live cpu torch free =>
      cases torch
      have names := wp_of_ok (wp_runUnary_names m.handle _ (Names.refl b.cpu)) cpu
      obtain ⟨_, ⟨⟩, hviews⟩ :=
        wp_of_ok (wp_cloneDetached_views agree.ok (agree.observed m live)) cpu
      obtain ⟨agree', hmemory⟩ := agree.put rfl cpu names free hviews
      exact ⟨agree', fun m hm _ => hmemory m hm⟩
  | assignMany live cpu torch => exact agree.assigned apart.alone live cpu hclone hcopy torch
  | step live found same cpu torch =>
      exact agree.stepped apart updates live found same cpu torch
  | @other call _ s' _ _ tensors quiet cpu torch _ live =>
      refine ⟨⟨agree.after_ok cpu, fun m hm => ?_, fun m hm m' hm' hstorage => ?_⟩,
        fun m hm _ => torch m hm⟩
      · obtain ⟨hold, hobject⟩ := live m hm
        change Views s' m.handle (m.torch.dims, _)
        rw [torch m hold]
        refine agree.untouched cpu hold hobject fun target ht => ?_
        rw [quiet] at ht
        cases ht
      · obtain ⟨hold, hobject⟩ := live m hm
        obtain ⟨hold', hobject'⟩ := live m' hm'
        exact (agree.storage_stays cpu hold hobject).trans ((agree.shared m hold m' hold'
          hstorage).trans (agree.storage_stays cpu hold' hobject').symm)

end Runs

def pairTensor (n : Nat) : Mirrored := ⟨n, [2], ⟨n, n, n⟩⟩

def emptyTorch : TorchTensors Word := ⟨fun _ => [], fun _ => none, fun _ => 0⟩

def firstTorch : TorchTensors Word := emptyTorch.put (pairTensor 1).torch.wrapped [1, 2]

def secondTorch : TorchTensors Word := firstTorch.put (pairTensor 2).torch.wrapped [1, 2]

def createPair : Call Word Word := .tensorFromF32 [1, 2] [2]

def twoPairs (second : Call Word Word) : Both Word Word Unit :=
  ⟨sampleRun [createPair, second], secondTorch, fun _ => (), [pairTensor 2, pairTensor 1]⟩

end Api.Aliasing

end Tensora
