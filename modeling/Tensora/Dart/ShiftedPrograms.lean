import Tensora.Api.Runs
import Tensora.Api.ShiftedCalls
import Tensora.Api.SideBySideCalls
import Tensora.Autograd.StopPoints
import Tensora.Dart.Tensor

/-! A program on tensors in two processes that differ in their optimizers: it is answered alike in
both, although the handles it works with are others. -/
namespace Tensora
open ProgramLogic Training

variable {F D α β : Type}

/-- A later state with the optimizers of before, under the same handles. -/
structure Runtime.Resumes (s s' : Runtime F D) : Prop where
  ok : s'.Ok
  evolves : Evolves s.heap s'.heap
  optimizers : s'.parameterOptimizers = s.parameterOptimizers
  handles : s.registry.Keeping s'.registry

namespace Runtime.Resumes
variable {s s' s'' : Runtime F D}

theorem refl (ok : s.Ok) : s.Resumes s :=
  ⟨ok, .refl ok.wellFormed, rfl, .refl _⟩

theorem trans (h : s.Resumes s') (h' : s'.Resumes s'') : s.Resumes s'' :=
  ⟨h'.ok, h.evolves.trans h'.evolves, h'.optimizers.trans h.optimizers, h.handles.trans h'.handles⟩

end Runtime.Resumes

namespace Api

def Resuming (x : Native F D α) : Prop :=
  ∀ s : Runtime F D, s.Ok → wp x (fun _ => s.Resumes) (fun _ => s.Resumes) s

/-- A call that looks a tensor up and reads it leaves the state as it is. -/
theorem resuming_reads (tensor : Nat) {program : TensorId → Mem F α}
    (hp : ∀ id, Still (program id)) :
    Resuming (do let object ← lookupTensor tensor; onMemory (program object) : Native F D α) := by
  intro s ok
  refine wp_seq (wp_lookupTensor s tensor) ?_ ?_
  · rintro _ _ rfl
    exact .refl ok
  · rintro id _ ⟨rfl, -⟩
    rw [wp_onMemory]
    refine wp_mono (hp id _) ?_ ?_
    · rintro _ _ rfl
      exact .refl ok
    · rintro _ _ rfl
      exact .refl ok

theorem still_shape (id capacity : Nat) :
    Still (do
      let t ← deref id
      let rank := t.shape.dimensions.length
      failIf (capacity < rank) (invalidArgument
        "tensor_shape: output dimension capacity is smaller than rank")
      return (rank, t.shape.dimensions) : Mem F (Nat × List Nat)) :=
  (Still.deref id).bind fun _ => (Still.failIf _ _).bind fun _ => .pure _

theorem resuming_tensorField (field : Tensor → α) (tensor : Nat) :
    Resuming (tensorField field tensor : Native F D α) :=
  resuming_reads tensor fun id => (Still.deref id).bind fun _ => .pure _

theorem resuming_tensorShape (tensor capacity : Nat) :
    Resuming (tensorShape tensor capacity : Native F D _) :=
  resuming_reads tensor fun id => still_shape id capacity

variable [Scalar F] [Scalar D] [Precision F D] [FloatBits F]

theorem resuming_exec {call : Call F D} (hcall : call.ofTensor = true) : Resuming (exec call) := by
  intro s ok
  have hother : call.onOptimizer = false := by
    cases call <;> first | rfl | cases hcall
  have hmoves := after_moves ok call
  have hbeside := after_beside hother s
  have h : s.Resumes (after s call) := ⟨hmoves.1, Call.Moves.evolves ok hmoves.2, hbeside.left.2,
    hbeside.handles.1⟩
  unfold after at h
  unfold wp
  cases hx : exec call s <;> rw [hx] at h <;> exact h

end Api

namespace Dart
open Adoption (Handle Thrown DartDevice Host HostM Wrapper onNative attempt)
open Api (Resuming exec Call Reply)

/-- Two processes that go on alike from two states with their optimizers. -/
structure Alongside (n k : Nat) (s₀ t₀ : Runtime F D) (room : Nat) (p q : Process F D) : Prop where
  runtime : Abreast n k room p.runtime q.runtime
  calloc : p.calloc.Lasts ∧ q.calloc.Lasts
  left : s₀.Resumes p.runtime
  right : t₀.Resumes q.runtime

variable {n k room room' : Nat} {s₀ t₀ : Runtime F D}

theorem Alongside.less {p q : Process F D} (h : Alongside n k s₀ t₀ (room + 1) p q) :
    Alongside n k s₀ t₀ room p q := ⟨h.runtime.less, h.calloc, h.left, h.right⟩

/-- Both issue a handle, or neither does. -/
abbrev Issues (n k room : Nat) (s₀ t₀ : Runtime F D) (x y : DartM F D Handle) : Prop :=
  Coupled (Alongside n k s₀ t₀ (room + 1)) (fun handle handle' => handle' = shift n k handle)
    (Alongside n k s₀ t₀ room) x y

theorem coupled_check {V : α → β → Prop} (operation abi : String) {x : Native F D α}
    {y : Native F D β} (h : Coupled (Abreast n k room) V (Abreast n k room') x y)
    (hx : Resuming x) (hy : Resuming y) :
    Coupled (Alongside n k s₀ t₀ room) V (Alongside n k s₀ t₀ room') (check operation abi x)
      (check operation abi y) := by
  intro p q hpq
  have hrun := (h p.runtime q.runtime hpq.runtime).and (hx _ hpq.left.ok) (hy _ hpq.right.ok)
  unfold check
  cases hs : x p.runtime <;> cases ht : y q.runtime <;> rw [hs, ht] at hrun
  · exact ⟨hrun.1, hrun.2.1, hpq.calloc, hpq.left.trans hrun.2.2.1, hpq.right.trans hrun.2.2.2⟩
  · exact hrun.elim
  · exact hrun.elim
  · obtain ⟨rfl, h⟩ := hrun
    exact ⟨rfl, h.1, hpq.calloc, hpq.left.trans h.2.1, hpq.right.trans h.2.2⟩

theorem coupled_calloc : Coupled (Alongside n k s₀ t₀ room) (· = ·) (Alongside n k s₀ t₀ room)
    (calloc : DartM F D Unit) calloc := by
  intro p q h
  unfold calloc
  simp only [h.calloc.1 _ (Nat.le_refl _), h.calloc.2 _ (Nat.le_refl _), Bool.false_eq_true,
    if_false]
  exact ⟨trivial, h.runtime, ⟨h.calloc.1.next, h.calloc.2.next⟩, h.left, h.right⟩

theorem coupled_calloc_seq {V : α → β → Prop} {x : DartM F D α} {y : DartM F D β}
    (h : Coupled (Alongside n k s₀ t₀ (room + 1)) V (Alongside n k s₀ t₀ room) x y) :
    Coupled (Alongside n k s₀ t₀ (room + 1)) V (Alongside n k s₀ t₀ room) (do calloc; x)
      (do calloc; y) := coupled_calloc.seq (fun _ _ h => h.less) fun _ _ _ => h

theorem coupled_withDimensions {V : α → β → Prop} (shape : DartShape)
    {x : List Int → DartM F D α} {y : List Int → DartM F D β}
    (h : ∀ dims, Coupled (Alongside n k s₀ t₀ (room + 1)) V (Alongside n k s₀ t₀ room) (x dims)
      (y dims)) :
    Coupled (Alongside n k s₀ t₀ (room + 1)) V (Alongside n k s₀ t₀ room)
      (withDimensions shape x) (withDimensions shape y) :=
  .ite (fun _ => h _) fun _ => coupled_calloc_seq (h _)

theorem ofTensor_shifted {call : Call F D} (hcall : call.ofTensor = true) :
    (call.shifted n k).ofTensor = true := by
  cases call <;> first | rfl | cases hcall

section Calls
variable [Scalar F] [Scalar D] [Precision F D] [FloatBits F] {call : Call F D}

theorem coupled_checkExec (operation abi : String) (hcall : call.ofTensor = true) :
    Coupled (Alongside n k s₀ t₀ (room + 1)) (fun reply reply' => reply' = reply.shifted n k)
      (Alongside n k s₀ t₀ room) (check operation abi (exec call))
      (check operation abi (exec (call.shifted n k))) :=
  coupled_check operation abi (Api.coupled_exec hcall) (Api.resuming_exec hcall)
    (Api.resuming_exec (ofTensor_shifted hcall))

theorem coupled_newHandleOr (null operation abi : String) (hcall : call.ofTensor = true) :
    Issues n k room s₀ t₀ (newHandleOr null operation abi (exec call))
      (newHandleOr null operation abi (exec (call.shifted n k))) := by
  refine coupled_calloc_seq ((coupled_checkExec operation abi hcall).bind (fun _ _ h => h) ?_)
  rintro reply _ rfl
  have hvalue : outputValue (reply.shifted n k) = shift n k (outputValue reply) := by
    cases reply <;> rfl
  rw [hvalue]
  by_cases hzero : outputValue reply = 0
  · rw [if_pos hzero, if_pos (shift_eq_zero.mpr hzero)]
    exact .throw _
  · rw [if_neg hzero, if_neg (mt shift_eq_zero.mp hzero)]
    exact .pure rfl

end Calls

section Readings
variable {handle : Handle}

theorem lockstep_calloc : Lockstep (Alongside n k s₀ t₀ room) (calloc : DartM F D Unit) calloc :=
  .of_coupled coupled_calloc

theorem lockstep_field (operation abi : String) (field : Tensor → α) (handle : Handle) :
    Lockstep (Alongside n k s₀ t₀ room)
      (check operation abi (Api.tensorField field handle : Native F D α))
      (check operation abi (Api.tensorField field (shift n k handle))) :=
  .of_coupled (coupled_check operation abi
    (Api.coupled_reads handle fun id => (formed_deref id).bind fun _ => .pure _)
    (Api.resuming_tensorField _ _) (Api.resuming_tensorField _ _))

theorem lockstep_tensorShape (capacity : Nat) :
    Lockstep (Alongside n k s₀ t₀ room)
      (check "tensor.shape" "tensor_shape" (Api.tensorShape handle capacity : Native F D _))
      (check "tensor.shape" "tensor_shape" (Api.tensorShape (shift n k handle) capacity)) :=
  .of_coupled (coupled_check _ _
    (Api.coupled_reads handle fun id => (formed_deref id).bind fun _ =>
      (formed_failIf _ _).bind fun _ => .pure _)
    (Api.resuming_tensorShape _ _) (Api.resuming_tensorShape _ _))

theorem lockstep_refuse (condition : Prop) [Decidable condition] (thrown : Thrown)
    {x y : DartM F D α} (h : Lockstep (Alongside n k s₀ t₀ room) x y) :
    Lockstep (Alongside n k s₀ t₀ room)
      (do
        if condition then throw thrown
        x)
      (do
        if condition then throw thrown
        y) :=
  .ite (fun _ => .bind (.throw thrown) fun _ => h) fun _ => h

theorem lockstep_shapeOf (dims : List Nat) : Lockstep (Alongside n k s₀ t₀ room)
    (NativeRuntime.shapeOf dims : DartM F D DartShape) (NativeRuntime.shapeOf dims) := by
  unfold NativeRuntime.shapeOf
  cases DartShape.make (dims.map Int64.ofNat) with
  | ok shape => exact .pure _
  | error error => exact .throw _

theorem lockstep_shape : Lockstep (Alongside n k s₀ t₀ room)
    (NativeRuntime.shape handle : DartM F D DartShape)
    (NativeRuntime.shape (shift n k handle)) := by
  refine lockstep_calloc.bind fun _ => (lockstep_field _ _ _ _).bind fun rank => ?_
  refine lockstep_refuse _ _ (.ite (fun _ => ?_) fun _ => ?_)
  · exact lockstep_calloc.bind fun _ => (lockstep_tensorShape 0).bind fun shape =>
      lockstep_refuse _ _ (lockstep_shapeOf _)
  · exact lockstep_calloc.bind fun _ => lockstep_calloc.bind fun _ =>
      (lockstep_tensorShape _).bind fun shape => lockstep_refuse _ _ (lockstep_shapeOf _)

theorem lockstep_dtype : Lockstep (Alongside n k s₀ t₀ room)
    (NativeRuntime.dtype handle : DartM F D Adoption.DType)
    (NativeRuntime.dtype (shift n k handle)) :=
  lockstep_calloc.bind fun _ => (lockstep_field _ _ _ _).bind fun _ =>
    .ite (fun _ => .pure _) fun _ => .throw _

theorem lockstep_deviceOf (kind : Nat) (index : Int) : Lockstep (Alongside n k s₀ t₀ room)
    (NativeRuntime.deviceOf kind index : DartM F D DartDevice)
    (NativeRuntime.deviceOf kind index) := by
  unfold NativeRuntime.deviceOf
  split
  · exact .ite (fun _ => .pure _) fun _ => .throw _
  · exact .ite (fun _ => .pure _) fun _ => .throw _
  · exact .ite (fun _ => .pure _) fun _ => .throw _
  · exact .ite (fun _ => .pure _) fun _ => .throw _
  · exact .ite (fun _ => .pure _) fun _ => .throw _
  · exact .throw _

theorem lockstep_device : Lockstep (Alongside n k s₀ t₀ room)
    (NativeRuntime.device handle : DartM F D DartDevice)
    (NativeRuntime.device (shift n k handle)) :=
  lockstep_calloc.bind fun _ => lockstep_calloc.bind fun _ =>
    (lockstep_field _ _ _ _).bind fun _ => (lockstep_field _ _ _ _).bind fun _ =>
      lockstep_deviceOf _ _

theorem lockstep_numel : Lockstep (Alongside n k s₀ t₀ room)
    (NativeRuntime.numel handle : DartM F D Int64)
    (NativeRuntime.numel (shift n k handle)) :=
  lockstep_calloc.bind fun _ => (lockstep_field _ _ _ _).bind fun _ => .pure _

end Readings

/-- The tensor object where `k` more handles have been issued after `n`. -/
def shiftedWrapper (n k : Nat) (wrapper : Wrapper) : Wrapper :=
  { wrapper with handle := shift n k wrapper.handle }

/-- The handle of a disposed object is not used any more. -/
def shiftedTensor (n k : Nat) (wrapper : Wrapper) : Wrapper :=
  if wrapper.disposed then wrapper else shiftedWrapper n k wrapper

/-- Two hosts with the same tensor objects, but for their handles. -/
structure Hosts (n k : Nat) (s₀ t₀ : Runtime F D) (room : Nat) (s t : Host (Process F D)) :
    Prop where
  native : Alongside n k s₀ t₀ room s.native t.native
  tensors : t.tensors = s.tensors.map (shiftedTensor n k)

theorem Hosts.less {s t : Host (Process F D)} (h : Hosts n k s₀ t₀ (room + 1) s t) :
    Hosts n k s₀ t₀ room s t := ⟨h.native.less, h.tensors⟩

/-- Both give one answer and issue at most one handle. -/
abbrev Answers (n k room : Nat) (s₀ t₀ : Runtime F D) (x y : TensorM F D α) : Prop :=
  Coupled (Hosts n k s₀ t₀ (room + 1)) (· = ·) (Hosts n k s₀ t₀ room) x y

theorem coupled_onNative {V : α → β → Prop} {x : DartM F D α} {y : DartM F D β}
    (h : Coupled (Alongside n k s₀ t₀ room) V (Alongside n k s₀ t₀ room') x y) :
    Coupled (Hosts n k s₀ t₀ room) V (Hosts n k s₀ t₀ room') (onNative x) (onNative y) := by
  intro s t hst
  have hrun := h s.native t.native hst.native
  unfold onNative
  cases hs : x s.native <;> cases ht : y t.native <;> rw [hs, ht] at hrun
  · exact ⟨hrun.1, hrun.2, hst.tensors⟩
  · exact hrun.elim
  · exact hrun.elim
  · exact ⟨hrun.1, hrun.2, hst.tensors⟩

theorem lockstep_onNative {x y : DartM F D α} (h : Lockstep (Alongside n k s₀ t₀ room) x y) :
    Lockstep (Hosts n k s₀ t₀ room) (onNative x) (onNative y) :=
  .of_coupled (coupled_onNative (.of_lockstep h))

theorem coupled_ensureLive (operation : String) (tensor : Nat) :
    Coupled (Hosts n k s₀ t₀ room) (fun wrapper wrapper' => wrapper' = shiftedWrapper n k wrapper)
      (Hosts n k s₀ t₀ room) (DartTensor.ensureLive operation tensor : TensorM F D Wrapper)
      (DartTensor.ensureLive operation tensor) := by
  refine Coupled.get_bind fun s t h => ?_
  rw [h.tensors, List.getElem?_map]
  cases s.tensors[tensor]? with
  | none => exact ⟨rfl, h⟩
  | some wrapper =>
      simp only [Option.map_some, shiftedTensor]
      cases hlive : wrapper.disposed with
      | true =>
          simp only [hlive, if_true]
          exact ⟨rfl, h⟩
      | false =>
          have hlive' : (shiftedWrapper n k wrapper).disposed = false := hlive
          simp only [hlive', Bool.false_eq_true, if_false]
          exact ⟨rfl, h⟩

section Objects
variable [Scalar F] [Scalar D] [Precision F D] [FloatBits F]

theorem lockstep_release (handle : Handle) : Lockstep (Alongside n k s₀ t₀ room)
    (NativeRuntime.release handle : DartM F D (Reply F))
    (NativeRuntime.release (shift n k handle)) := by
  refine .of_coupled (coupled_check _ _ (Coupled.seq
    (coupled_onRegistry (HandleRegistry.coupled_release_shift rfl)) (fun _ _ h => h)
      fun _ _ _ => .pure rfl) (Api.resuming_exec rfl) (Api.resuming_exec rfl))

theorem lockstep_callRelease (handle : Handle) (checked : Bool) :
    Lockstep (Hosts n k s₀ t₀ room) (runtime.callRelease handle checked : TensorM F D _)
      (runtime.callRelease (shift n k handle) checked) := by
  intro s t h
  have hrun := lockstep_release handle s.native t.native h.native
  unfold Adoption.NativeRuntime.callRelease runtime
  cases hs : NativeRuntime.release handle s.native <;>
    cases ht : NativeRuntime.release (shift n k handle) t.native <;> rw [hs, ht] at hrun
  · simp only [hs, ht]
    exact ⟨rfl, hrun.2, h.tensors⟩
  · exact hrun.elim
  · exact hrun.elim
  · simp only [hs, ht]
    exact ⟨congrArg some hrun.1, hrun.2, h.tensors⟩

theorem lockstep_runtimeRelease (handle : Handle) :
    Lockstep (Hosts n k s₀ t₀ room) (runtime.release handle : TensorM F D Unit)
      (runtime.release (shift n k handle)) := by
  refine (lockstep_callRelease handle true).bind fun failure => ?_
  cases failure with
  | none => exact .pure _
  | some thrown => exact .throw _

theorem lockstep_createTensor (handle : Handle) (shape : DartShape) (dtype : Adoption.DType)
    (device : DartDevice) :
    Lockstep (Hosts n k s₀ t₀ room) (runtime.createTensor handle shape dtype device :
      TensorM F D Nat) (runtime.createTensor (shift n k handle) shape dtype device) := by
  refine Lockstep.bind (lockstep_onNative (.pure _)) fun _ => Lockstep.get_bind fun s t h => ?_
  rw [h.tensors, List.length_map]
  refine (Lockstep.bind (Lockstep.modify fun s t h => ⟨h.native, ?_⟩) fun _ => .pure _) s t h
  rw [h.tensors, List.map_append]
  rfl

theorem lockstep_adopt (handle : Handle) :
    Lockstep (Hosts n k s₀ t₀ room) (runtime.adopt handle : TensorM F D Nat)
      (runtime.adopt (shift n k handle)) := by
  refine Lockstep.tryCatch ?_ fun thrown =>
    Lockstep.bind ((lockstep_callRelease handle false).bind fun _ => .pure _) fun _ => .throw _
  refine (lockstep_onNative lockstep_shape).bind fun shape => ?_
  refine (lockstep_onNative lockstep_dtype).bind fun dtype => ?_
  refine (lockstep_onNative lockstep_device).bind fun device => ?_
  refine (lockstep_onNative lockstep_numel).bind fun nativeNumel => ?_
  exact .ite (fun _ => .bind (.throw _) fun _ => lockstep_createTensor _ _ _ _)
    fun _ => lockstep_createTensor _ _ _ _

theorem coupled_adopts {x y : DartM F D Handle}
    (h : Issues n k room s₀ t₀ x y) :
    Answers n k room s₀ t₀
      (do runtime.adopt (← onNative x)) (do runtime.adopt (← onNative y)) := by
  refine (coupled_onNative h).bind (fun _ _ h => h) ?_
  rintro handle _ rfl
  exact .of_lockstep (lockstep_adopt handle)

theorem lockstep_dispose (tensor : Nat) :
    Lockstep (Hosts n k s₀ t₀ room) (DartTensor.dispose tensor : TensorM F D Unit)
      (DartTensor.dispose tensor) := by
  refine Lockstep.get_bind fun s t h => ?_
  rw [h.tensors, List.getElem?_map]
  cases s.tensors[tensor]? with
  | none => exact ⟨rfl, h⟩
  | some wrapper =>
      simp only [Option.map_some, shiftedTensor]
      cases hlive : wrapper.disposed with
      | true =>
          simp only [hlive, if_true]
          exact ⟨rfl, h⟩
      | false =>
          have hlive' : (shiftedWrapper n k wrapper).disposed = false := hlive
          simp only [hlive', Bool.false_eq_true, if_false]
          have hset : Lockstep (Hosts n k s₀ t₀ room)
              (modify fun s => { s with tensors := s.tensors.set tensor wrapper.detached } :
                TensorM F D PUnit)
              (modify fun s => { s with
                tensors := s.tensors.set tensor (shiftedWrapper n k wrapper).detached }) := by
            refine Lockstep.modify fun s t h => ⟨h.native, ?_⟩
            rw [h.tensors, List.map_set]
            rfl
          exact (lockstep_runtimeRelease wrapper.handle).bind (fun _ => hset) s t h

theorem coupled_ofOne (operation : String) {method : Handle → DartM F D Handle} (tensor : Nat)
    (h : ∀ handle, Issues n k room s₀ t₀ (method handle)
      (method (shift n k handle))) :
    Answers n k room s₀ t₀
      (DartTensor.ofOne operation method tensor) (DartTensor.ofOne operation method tensor) := by
  refine Coupled.seq (coupled_ensureLive operation tensor) (fun _ _ h => h.less) ?_
  rintro wrapper _ rfl
  exact coupled_adopts (h wrapper.handle)

theorem coupled_ofTwo (operation : String) {method : Handle → Handle → DartM F D Handle}
    (tensor other : Nat) (h : ∀ left right, Issues n k room s₀ t₀
      (method left right) (method (shift n k left) (shift n k right))) :
    Answers n k room s₀ t₀
      (DartTensor.ofTwo operation method tensor other)
      (DartTensor.ofTwo operation method tensor other) := by
  refine Coupled.seq (coupled_ensureLive operation tensor) (fun _ _ h => h.less) ?_
  rintro left _ rfl
  refine Coupled.seq (coupled_ensureLive operation other) (fun _ _ h => h.less) ?_
  rintro right _ rfl
  exact coupled_adopts (h left.handle right.handle)

omit [Scalar F] [Scalar D] [Precision F D] [FloatBits F] in
theorem coupled_attempt {x y : TensorM F D α} (h : Answers n k room s₀ t₀ x y) :
    Answers n k room s₀ t₀ (attempt x)
      (attempt y) :=
  (h.map fun _ _ => congrArg Except.ok).tryCatch (fun _ _ h => h) fun _ => .pure rfl

section Requests
variable {call : Call F D}

theorem coupled_fromList (values : List D) (shape : DartShape) :
    Issues n k room s₀ t₀ (NativeRuntime.createFromList values shape : DartM F D Handle)
      (NativeRuntime.createFromList values shape) :=
  coupled_calloc_seq (coupled_withDimensions shape fun _ => coupled_newHandleOr _ _ _ rfl)

theorem coupled_full (shape : DartShape) (value : D) :
    Issues n k room s₀ t₀ (NativeRuntime.full shape value : DartM F D Handle)
      (NativeRuntime.full shape value) :=
  coupled_withDimensions shape fun _ => coupled_newHandleOr _ _ _ rfl

theorem coupled_adoptCreated (handle : Handle) (device : DartDevice) :
    Answers n k room s₀ t₀
      (DartTensor.adoptCreatedHandle handle device : TensorM F D Nat)
      (DartTensor.adoptCreatedHandle (shift n k handle) device) := by
  refine .ite (fun _ => Coupled.weaken (.of_lockstep (lockstep_adopt handle)) fun _ _ h => h.less)
    fun _ => ?_
  refine Coupled.bind (coupled_attempt (coupled_adopts (coupled_newHandleOr _ _ _ rfl)))
    (fun _ _ h => h) ?_
  rintro outcome _ rfl
  refine Coupled.seq (.of_lockstep (lockstep_runtimeRelease handle)) (fun _ _ h => h)
    fun _ _ _ => ?_
  cases outcome with
  | ok tensor => exact .pure rfl
  | error thrown => exact .throw _

/-- A tensor that is created and then moved takes two handles. -/
theorem coupled_created {x y : DartM F D Handle} (device : DartDevice)
    (h : Issues n k (room + 1) s₀ t₀ x y) :
    Coupled (Hosts n k s₀ t₀ (room + 2)) (· = ·) (Hosts n k s₀ t₀ room)
      (do DartTensor.adoptCreatedHandle (← onNative x) device : TensorM F D Nat)
      (do DartTensor.adoptCreatedHandle (← onNative y) device) := by
  refine (coupled_onNative h).bind (fun _ _ h => h.less) ?_
  rintro handle _ rfl
  exact coupled_adoptCreated handle device

omit [Scalar F] [Scalar D] [Precision F D] [FloatBits F] in
theorem coupled_validated {x y : TensorM F D Nat} (dtype : Adoption.DType) (operation : String)
    (h : Coupled (Hosts n k s₀ t₀ (room + 2)) (· = ·) (Hosts n k s₀ t₀ room) x y) :
    Coupled (Hosts n k s₀ t₀ (room + 2)) (· = ·) (Hosts n k s₀ t₀ room)
      (do DartTensor.validateCreation dtype operation; x)
      (do DartTensor.validateCreation dtype operation; y) :=
  Coupled.seq (.of_lockstep (.ite (fun _ => .throw _) fun _ => .pure _)) (fun _ _ h => h.less.less)
    fun _ _ _ => h

theorem coupled_makeFull (shape : DartShape) (value : D) (dtype : Adoption.DType)
    (device : DartDevice) :
    Coupled (Hosts n k s₀ t₀ (room + 2)) (· = ·) (Hosts n k s₀ t₀ room)
      (DartTensor.full shape value dtype device : TensorM F D Nat)
      (DartTensor.full shape value dtype device) :=
  coupled_validated dtype _ (coupled_created device (coupled_full shape value))

theorem coupled_requiresGrad (tensor : Nat) :
    Answers n k room s₀ t₀
      (DartTensor.requiresGrad tensor : TensorM F D Bool) (DartTensor.requiresGrad tensor) := by
  refine Coupled.seq (coupled_ensureLive _ tensor) (fun _ _ h => h.less) ?_
  rintro wrapper _ rfl
  refine coupled_onNative (coupled_calloc_seq ((coupled_checkExec _ _ rfl).bind
    (fun _ _ h => h) ?_))
  rintro reply _ rfl
  cases reply <;> exact .pure rfl

theorem coupled_backward (tensor : Nat) :
    Answers n k room s₀ t₀
      (DartTensor.backward tensor : TensorM F D Unit) (DartTensor.backward tensor) := by
  refine Coupled.seq (coupled_ensureLive _ tensor) (fun _ _ h => h.less) ?_
  rintro wrapper _ rfl
  exact (coupled_onNative (coupled_checkExec _ _ rfl)).bind (fun _ _ h => h) fun _ _ _ => .pure rfl

theorem coupled_toList (tensor : Nat) :
    Answers n k room s₀ t₀
      (DartTensor.toList tensor : TensorM F D (List D)) (DartTensor.toList tensor) := by
  refine Coupled.seq (coupled_ensureLive _ tensor) (fun _ _ h => h.less) ?_
  rintro wrapper _ rfl
  refine coupled_onNative (coupled_calloc_seq (coupled_calloc_seq ((coupled_checkExec _ _ rfl).bind
    (fun _ _ h => h) ?_)))
  rintro reply _ rfl
  have hcopied : NativeRuntime.copied (reply.shifted n k) = NativeRuntime.copied reply := by
    cases reply <;> rfl
  rw [hcopied]
  exact .of_lockstep (.ite (fun _ => .bind (.throw _) fun _ => .pure _) fun _ => .pure _)

theorem coupled_losses {method : Handle → Handle → DartM F D Handle} (left right : Nat)
    (h : ∀ left right, Issues n k room s₀ t₀
      (method left right) (method (shift n k left) (shift n k right))) :
    Answers n k room s₀ t₀
      (Losses.ofHandles method left right) (Losses.ofHandles method left right) := by
  have hlive : ∀ tensor : Nat, Coupled (Hosts n k s₀ t₀ (room + 1))
      (fun handle handle' => handle' = shift n k handle) (Hosts n k s₀ t₀ (room + 1))
      (DartTensor.nativeHandle tensor : TensorM F D Handle) (DartTensor.nativeHandle tensor) := by
    intro tensor
    refine Coupled.seq (coupled_ensureLive _ tensor) (fun _ _ h => h) ?_
    rintro wrapper _ rfl
    exact .pure rfl
  refine Coupled.seq (hlive left) (fun _ _ h => h.less) ?_
  rintro leftHandle _ rfl
  refine Coupled.seq (hlive right) (fun _ _ h => h.less) ?_
  rintro rightHandle _ rfl
  exact coupled_adopts (h leftHandle rightHandle)

end Requests

/-- A request is answered alike, and leaves room for all but two handles. -/
theorem coupled_perform (request : Request D) :
    Coupled (Hosts n k s₀ t₀ (room + 2)) (· = ·) (Hosts n k s₀ t₀ room)
      (perform request : TensorM F D (Answer D)) (perform request) := by
  have hcreate : ∀ {β : Type} {x y : TensorM F D β} {answer : β → Answer D},
      Coupled (Hosts n k s₀ t₀ (room + 2)) (· = ·) (Hosts n k s₀ t₀ room) x y →
      Coupled (Hosts n k s₀ t₀ (room + 2)) (· = ·) (Hosts n k s₀ t₀ room)
        (do return answer (← x)) (do return answer (← y)) := by
    intro β x y answer h
    refine h.bind (fun _ _ h => h) ?_
    rintro r _ rfl
    exact .pure rfl
  have hone : ∀ {β : Type} {x y : TensorM F D β} {answer : β → Answer D},
      Answers n k room s₀ t₀ x y →
      Coupled (Hosts n k s₀ t₀ (room + 2)) (· = ·) (Hosts n k s₀ t₀ room)
        (do return answer (← x)) (do return answer (← y)) :=
    fun h => hcreate (h.weaken fun _ _ h => h.less)
  cases request with
  | fromList values shape dtype device =>
      have hlist : Issues n k (room + 1) s₀ t₀
          (NativeRuntime.createFromList values shape : DartM F D Handle)
          (NativeRuntime.createFromList values shape) := coupled_fromList values shape
      have hmake := coupled_created device hlist
      exact hcreate (coupled_validated dtype _ (.ite (fun _ => (Coupled.throw (V := (· = ·)) _).seq
        (fun _ _ h => h.less.less) fun _ _ _ => hmake) fun _ => hmake))
  | full shape value dtype device => exact hcreate (coupled_makeFull shape value dtype device)
  | zeros shape dtype device => exact hcreate (coupled_makeFull shape 0 dtype device)
  | ones shape dtype device => exact hcreate (coupled_makeFull shape 1 dtype device)
  | requiresGrad tensor => exact hone (coupled_requiresGrad tensor)
  | toDevice tensor target =>
      exact hone (coupled_ofOne _ _ fun _ => coupled_newHandleOr _ _ _ rfl)
  | withRequiresGrad tensor value =>
      exact hone (coupled_ofOne _ _ fun _ => coupled_newHandleOr _ _ _ rfl)
  | reshape tensor newShape =>
      exact hone (coupled_ofOne _ _ fun _ => coupled_withDimensions newShape fun _ =>
        coupled_newHandleOr _ _ _ rfl)
  | transpose tensor => exact hone (coupled_ofOne _ _ fun _ => coupled_newHandleOr _ _ _ rfl)
  | add tensor other => exact hone (coupled_ofTwo _ _ _ fun _ _ => coupled_newHandleOr _ _ _ rfl)
  | multiply tensor other =>
      exact hone (coupled_ofTwo _ _ _ fun _ _ => coupled_newHandleOr _ _ _ rfl)
  | sum tensor => exact hone (coupled_ofOne _ _ fun _ => coupled_newHandleOr _ _ _ rfl)
  | matmul tensor other =>
      exact hone (coupled_ofTwo _ _ _ fun _ _ => coupled_newHandleOr _ _ _ rfl)
  | relu tensor => exact hone (coupled_ofOne _ _ fun _ => coupled_newHandleOr _ _ _ rfl)
  | sigmoid tensor => exact hone (coupled_ofOne _ _ fun _ => coupled_newHandleOr _ _ _ rfl)
  | tanh tensor => exact hone (coupled_ofOne _ _ fun _ => coupled_newHandleOr _ _ _ rfl)
  | gelu tensor => exact hone (coupled_ofOne _ _ fun _ => coupled_newHandleOr _ _ _ rfl)
  | silu tensor => exact hone (coupled_ofOne _ _ fun _ => coupled_newHandleOr _ _ _ rfl)
  | swiglu tensor => exact hone (coupled_ofOne _ _ fun _ => coupled_newHandleOr _ _ _ rfl)
  | backward tensor => exact hone (coupled_backward tensor)
  | grad tensor => exact hone (coupled_ofOne _ _ fun _ => coupled_newHandleOr _ _ _ rfl)
  | toList tensor => exact hone (coupled_toList tensor)
  | dispose tensor => exact hone (.weaken (.of_lockstep (lockstep_dispose tensor))
      fun _ _ h => h.less)
  | mse prediction target =>
      exact hone (coupled_losses _ _ fun _ _ => coupled_newHandleOr _ _ _ rfl)
  | crossEntropy logits oneHotTarget =>
      exact hone (coupled_losses _ _ fun _ _ => coupled_newHandleOr _ _ _ rfl)

end Objects

end Dart

end Tensora
