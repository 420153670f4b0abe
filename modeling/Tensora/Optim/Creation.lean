import Tensora.Api.CreationCalls
import Tensora.Dart.IsolateLedger
import Tensora.Optim.Loops

/-! When the native optimizer of a group can be created, and what creating it leaves. -/
namespace Tensora.Optim
open ProgramLogic Training
open Adoption (Handle Thrown)
open Dart (Isolate IsolateM Owner OwnerClass Process DartM setOwners)
open Api (exec)

variable {F D : Type}

def handleOf (s : Isolate F D) (parameter : Nat) : Option Handle :=
  (s.parameters[parameter]?).bind fun object =>
    if object.disposed then none
    else (s.host.tensors[object.tensor]?).bind fun wrapper =>
      if wrapper.disposed then none else some wrapper.handle

/-- The tensor a live parameter stands for. -/
def tensorOf (s : Isolate F D) (parameter : Nat) : Option TensorId :=
  (handleOf s parameter).bind fun handle => (runtimeOf s).objectOf handle .tensor

/-- The tensors of the parameters, as far as they can be trained. -/
def trainable (s : Isolate F D) (parameters : List Nat) : List TensorId :=
  (parameters.filterMap (tensorOf s)).filter (runtimeOf s).heap.requiresGrad

section Handles
variable {s : Isolate F D}

theorem wp_parameterHandle (s : Isolate F D) (parameter : Nat) :
    wp (Dart.NativeParameterOptimizer.parameterHandle parameter : IsolateM F D Handle)
      (fun handle s' => s' = s ∧ handleOf s parameter = some handle)
      (fun _ s' => s' = s ∧ handleOf s parameter = none) s := by
  unfold Dart.NativeParameterOptimizer.parameterHandle handleOf
  rw [wp_bind, wp_get]
  cases s.parameters[parameter]? with
  | none => exact ⟨rfl, rfl⟩
  | some object =>
      simp only [Option.bind_some]
      refine wp_ite (fun hdisposed => ⟨rfl, if_pos hdisposed⟩) fun hlive => ?_
      rw [Dart.wp_onHost]
      unfold Dart.DartTensor.nativeHandle Dart.DartTensor.ensureLive
      rw [if_neg hlive, wp_bind, wp_bind, wp_get]
      cases s.host.tensors[object.tensor]? with
      | none => exact ⟨rfl, rfl⟩
      | some wrapper =>
          simp only [Option.bind_some]
          refine wp_ite (fun hdisposed => ⟨rfl, if_pos hdisposed⟩) fun hlive => ⟨rfl, if_neg hlive⟩

theorem wp_parameterHandles (s : Isolate F D) (parameters : List Nat) :
    wp (Dart.NativeParameterOptimizer.parameterHandles parameters : IsolateM F D (List Handle))
      (fun handles s' => s' = s ∧ handles ≠ [] ∧
        List.Forall₂ (fun p handle => handleOf s p = some handle) parameters handles)
      (fun _ s' => s' = s ∧ (parameters = [] ∨ ∃ p ∈ parameters, handleOf s p = none)) s := by
  unfold Dart.NativeParameterOptimizer.parameterHandles
  have hmap : wp (parameters.mapM Dart.NativeParameterOptimizer.parameterHandle :
      IsolateM F D (List Handle))
      (fun handles s' => s' = s ∧
        List.Forall₂ (fun p handle => handleOf s p = some handle) parameters handles)
      (fun _ s' => s' = s ∧ ∃ p ∈ parameters, handleOf s p = none) s := by
    refine wp_mapM (fun done handles s' => s' = s ∧
      List.Forall₂ (fun p handle => handleOf s p = some handle) done handles) parameters
      ⟨rfl, .nil⟩ ?_ fun _ _ h => h
    rintro done p rest handles s' hsplit ⟨rfl, hdone⟩
    refine wp_mono (wp_parameterHandle s' p) ?_ ?_
    · rintro handle _ ⟨rfl, hhandle⟩
      exact ⟨rfl, List.rel_append hdone (.cons hhandle .nil)⟩
    · rintro _ _ ⟨rfl, hnone⟩
      exact ⟨rfl, p, by rw [hsplit]; simp, hnone⟩
  refine wp_seq hmap (fun _ _ h => ⟨h.1, Or.inr h.2⟩) ?_
  rintro handles _ ⟨rfl, hhandles⟩
  refine wp_ite (fun hempty => ?_) fun hsome => ?_
  · refine ⟨rfl, Or.inl ?_⟩
    rw [List.isEmpty_iff.mp hempty] at hhandles
    cases hhandles
    rfl
  · exact ⟨rfl, fun hnil => hsome (by rw [hnil]; rfl), hhandles⟩

theorem filterMap_tensorOf {parameters : List Nat} {handles : List Handle} {ids : List TensorId}
    (hhandles : List.Forall₂ (fun p handle => handleOf s p = some handle) parameters handles)
    (hresolve : Api.Resolve (runtimeOf s) handles ids) :
    parameters.filterMap (tensorOf s) = ids ∧ ∀ p ∈ parameters, (tensorOf s p).isSome = true := by
  induction hhandles generalizing ids with
  | nil =>
      cases hresolve
      exact ⟨rfl, fun _ h => absurd h List.not_mem_nil⟩
  | cons hfirst _ ih =>
      cases hresolve with
      | cons hid hrest =>
          obtain ⟨hids, hsome⟩ := ih hrest
          have htensor : tensorOf s _ = some _ := (congrArg (Option.bind · _) hfirst).trans hid
          refine ⟨by rw [List.filterMap_cons_some htensor, hids], List.forall_mem_cons.mpr
            ⟨by rw [htensor]; rfl, hsome⟩⟩

theorem resolve_filterMap {parameters : List Nat} {handles : List Handle}
    (hhandles : List.Forall₂ (fun p handle => handleOf s p = some handle) parameters handles)
    (hsome : ∀ p ∈ parameters, (tensorOf s p).isSome = true) :
    Api.Resolve (runtimeOf s) handles (parameters.filterMap (tensorOf s)) := by
  induction hhandles with
  | nil => exact .nil
  | cons hfirst _ ih =>
      obtain ⟨hp, hrest⟩ := List.forall_mem_cons.mp hsome
      obtain ⟨id, hid⟩ := Option.isSome_iff_exists.mp hp
      rw [List.filterMap_cons_some hid]
      refine .cons ?_ (ih hrest)
      rw [tensorOf, hfirst] at hid
      exact hid

end Handles

section Native
variable [Scalar F] [Scalar D] [Precision F D] [FloatBits F] {s : Isolate F D}
  {kind : OptimizerKind} {hyper : Hyperparameters D} {parameters : List Nat}

def nativeOf (kind : OptimizerKind) (hyper : Hyperparameters D) (parameters : List Nat) :
    IsolateM F D Nat :=
  match kind with
  | .sgd => Dart.NativeParameterOptimizer.sgd parameters hyper
  | .adam => Dart.NativeParameterOptimizer.adam parameters hyper false
  | .adamW => Dart.NativeParameterOptimizer.adam parameters hyper true

theorem nativeOf_eq (kind : OptimizerKind) (hyper : Hyperparameters D) (parameters : List Nat) :
    ∃ operation abi, (nativeOf kind hyper parameters : IsolateM F D Nat) = (do
      let handles ← Dart.NativeParameterOptimizer.parameterHandles parameters
      Owner.create .parameterOptimizer (← Dart.onLibrary
        (Dart.NativeTrainingRuntime.withTensorHandles handles operation abi kind hyper))) := by
  cases kind
  · exact ⟨_, _, rfl⟩
  · exact ⟨_, _, rfl⟩
  · exact ⟨_, _, rfl⟩

/-- What is asked of the parameters of a group, apart from that one of them can be trained. -/
structure Creatable (kind : OptimizerKind) (hyper : Hyperparameters D) (s : Isolate F D)
    (parameters : List Nat) : Prop where
  accepted : accepts kind hyper = true
  live : ∀ p ∈ parameters, (tensorOf s p).isSome = true
  distinct : (parameters.filterMap (tensorOf s)).Nodup
  updatable : Updatable (runtimeOf s).heap (trainable s parameters)

/-- A state in which nothing fails for want of memory or of handles. -/
structure Ample (room : Nat) (s : Isolate F D) : Prop where
  ok : (runtimeOf s).Ok
  lasts : (runtimeOf s).memory.allocator.Lasts
  calloc : s.host.native.calloc.Lasts
  room : (runtimeOf s).registry.nextHandle + room < maxU64

omit [Scalar F] [Scalar D] [Precision F D] [FloatBits F] in
theorem Ample.refuses {room : Nat} (a : Ample (room + 1) s) :
    (runtimeOf s).registry.refuses = none := by
  have hroom := a.room
  have hpos := a.ok.handles.pos
  unfold HandleRegistry.refuses
  rw [if_neg (by omega), a.ok.handles.unissued _ (Nat.le_refl _)]
  rfl

structure Entered (kind : OptimizerKind) (hyper : Hyperparameters D) (s : Runtime F D)
    (ids : List TensorId) (s' : Runtime F D) : Prop where
  ok : s'.Ok
  lasts : s'.memory.allocator.Lasts
  heap : s'.heap = s.heap
  registry : s'.registry = s.registry.withEntry .parameterOptimizer s.parameterOptimizers.length
  optimizers : s'.parameterOptimizers = s.parameterOptimizers ++
    [Api.newParameterOptimizer s.heap kind (ids.filter s.heap.requiresGrad) hyper]

theorem wp_exec_createForTensors {runtime : Runtime F D} (ok : runtime.Ok)
    (hlasts : runtime.memory.allocator.Lasts) (hissues : runtime.registry.refuses = none)
    (handles : List Handle) :
    wp (exec (.createForTensors (some handles) kind hyper))
      (fun reply runtime' => reply = .handle runtime.registry.nextHandle ∧
        accepts kind hyper = true ∧ ∃ ids, Api.Resolve runtime handles ids ∧ ids.Nodup ∧
          Updatable runtime.heap (ids.filter runtime.heap.requiresGrad) ∧
          Entered kind hyper runtime ids runtime')
      (fun _ _ => accepts kind hyper = false ∨ ∀ ids, Api.Trainable runtime handles ids →
        ¬Updatable runtime.heap (ids.filter runtime.heap.requiresGrad)) runtime := by
  have hkeeps := Api.after_moves ok (.createForTensors (some handles) kind hyper)
  have hrun : wp (exec (.createForTensors (some handles) kind hyper))
      (fun reply runtime' => reply = .handle runtime.registry.nextHandle ∧
        accepts kind hyper = true ∧ ∃ ids, Api.Resolve runtime handles ids ∧ ids.Nodup ∧
          Updatable runtime.heap (ids.filter runtime.heap.requiresGrad) ∧
          (runtime'.Ok → Entered kind hyper runtime ids runtime'))
      (fun _ _ => accepts kind hyper = false ∨ ∀ ids, Api.Trainable runtime handles ids →
        ¬Updatable runtime.heap (ids.filter runtime.heap.requiresGrad)) runtime := by
    refine wp_seq (Api.wp_createForTensors ok (some handles) kind hyper) ?_ ?_
    · rintro e _ ⟨-, hlost | ⟨hreject, -⟩ | hbad | hrefused⟩
      · exact absurd hlasts hlost
      · exact Or.inl hreject
      · exact Or.inr fun ids tr => hbad handles ids rfl tr
      · rw [hissues] at hrefused
        cases hrefused
    · rintro handle s' ⟨haccept, out, s₁, ⟨hs, ids, hsome, hkept⟩, hupdatable, later, hregistered⟩
      cases hsome
      obtain ⟨-, rfl, s₂, later₂, rfl⟩ := hregistered
      have hout : out = ids.filter runtime.heap.requiresGrad := hkept.kept
      have hlasting : Api.Lasting s₂ := later₂.lasting (later.lasting hlasts)
      obtain ⟨n, rfl⟩ := later
      obtain ⟨m, rfl⟩ := later₂
      subst hout
      exact ⟨rfl, haccept, ids, hkept.resolved, hkept.distinct, hupdatable,
        fun hok => ⟨hok, hlasting, rfl, rfl, rfl⟩⟩
  unfold Api.after at hkeeps
  unfold wp at hrun ⊢
  cases hx : exec (.createForTensors (some handles) kind hyper) runtime with
  | ok reply runtime' =>
      rw [hx] at hkeeps hrun
      obtain ⟨hreply, haccept, ids, hresolve, hdistinct, hupdatable, hentered⟩ := hrun
      exact ⟨hreply, haccept, ids, hresolve, hdistinct, hupdatable, hentered hkeeps.1⟩
  | error e runtime' =>
      rw [hx] at hrun
      exact hrun

/-- What creating a native optimizer leaves. -/
structure Created (kind : OptimizerKind) (hyper : Hyperparameters D) (s : Isolate F D)
    (parameters : List Nat) (object : Nat) (s' : Isolate F D) : Prop where
  object : object = (s.owners .parameterOptimizer).length
  owners : s'.owners .parameterOptimizer = s.owners .parameterOptimizer ++
    [⟨(runtimeOf s).registry.nextHandle, false, true⟩]
  objects : s'.parameters = s.parameters
  tensors : s'.host.tensors = s.host.tensors
  heap : (runtimeOf s').heap = (runtimeOf s).heap
  registry : (runtimeOf s').registry = (runtimeOf s).registry.withEntry .parameterOptimizer
    (runtimeOf s).parameterOptimizers.length
  optimizers : (runtimeOf s').parameterOptimizers = (runtimeOf s).parameterOptimizers ++
    [Api.newParameterOptimizer (runtimeOf s).heap kind (trainable s parameters) hyper]

omit [Scalar F] [Scalar D] [Precision F D] [FloatBits F] in
theorem next_withEntry {r : HandleRegistry} {room : Nat} (h : r.nextHandle + (room + 1) < maxU64)
    (type : HandleType) (object : Nat) : (r.withEntry type object).nextHandle = r.nextHandle + 1 :=
  Nat.mod_eq_of_lt (by unfold maxU64 at h; omega)

omit [Scalar F] [Scalar D] [Precision F D] [FloatBits F] in
theorem wp_calloc_lasts {p : Process F D} (h : p.calloc.Lasts) :
    wp (Dart.calloc : DartM F D Unit) (fun _ p' => p'.runtime = p.runtime ∧ p'.calloc.Lasts)
      (fun _ _ => False) p := by
  unfold wp Dart.calloc
  rw [h _ (Nat.le_refl _)]
  exact ⟨rfl, h.next⟩

theorem wp_nativeOf {room : Nat} (a : Ample (room + 1) s) (hgraded : trainable s parameters ≠ []) :
    wp (nativeOf kind hyper parameters)
      (fun object s' => Creatable kind hyper s parameters ∧ Ample room s' ∧
        Created kind hyper s parameters object s')
      (fun _ _ => ¬Creatable kind hyper s parameters) s := by
  obtain ⟨operation, abi, heq⟩ := nativeOf_eq (F := F) kind hyper parameters
  rw [heq]
  refine wp_seq (wp_parameterHandles s parameters) ?_ ?_
  · rintro _ _ ⟨rfl, rfl | ⟨p, hp, hnone⟩⟩ c
    · exact hgraded rfl
    · have hsome := c.live p hp
      rw [tensorOf, hnone] at hsome
      cases hsome
  rintro handles s ⟨rfl, hne, hhandles⟩
  -- the only reasons left to fail are those of the call itself
  have hbad : (accepts kind hyper = false ∨ ∀ ids, Api.Trainable (runtimeOf s) handles ids →
      ¬Updatable (runtimeOf s).heap (ids.filter (runtimeOf s).heap.requiresGrad)) →
      ¬Creatable kind hyper s parameters := by
    rintro (hreject | hbad) c
    · rw [c.accepted] at hreject
      cases hreject
    · refine hbad _ ⟨resolve_filterMap hhandles c.live, c.distinct, ?_⟩ c.updatable
      obtain ⟨id, hid⟩ := List.exists_mem_of_ne_nil _ hgraded
      exact ⟨id, List.mem_filter.mp hid⟩
  have hnative : wp (Dart.NativeTrainingRuntime.withTensorHandles handles operation abi kind hyper :
      DartM F D Handle)
      (fun handle p' => handle = (runtimeOf s).registry.nextHandle ∧ p'.calloc.Lasts ∧
        accepts kind hyper = true ∧ ∃ ids, Api.Resolve (runtimeOf s) handles ids ∧ ids.Nodup ∧
          Updatable (runtimeOf s).heap (ids.filter (runtimeOf s).heap.requiresGrad) ∧
          Entered kind hyper (runtimeOf s) ids p'.runtime)
      (fun _ _ => ¬Creatable kind hyper s parameters) s.host.native := by
    unfold Dart.NativeTrainingRuntime.withTensorHandles
    dsimp only
    refine wp_ite (fun hempty => absurd (List.isEmpty_iff.mp hempty) hne) fun _ => ?_
    refine wp_seq (wp_calloc_lasts a.calloc) (fun _ _ h => h.elim) ?_
    rintro _ ⟨runtime₁, calloc₁⟩ ⟨rfl, hcalloc₁⟩
    refine wp_seq (wp_calloc_lasts hcalloc₁) (fun _ _ h => h.elim) ?_
    rintro _ ⟨runtime₂, calloc₂⟩ ⟨rfl, hcalloc₂⟩
    refine wp_seq (P := fun (reply : Api.Reply F) (p' : Process F D) =>
      reply = .handle (runtimeOf s).registry.nextHandle ∧ p'.calloc.Lasts ∧
        accepts kind hyper = true ∧ ∃ ids, Api.Resolve (runtimeOf s) handles ids ∧ ids.Nodup ∧
          Updatable (runtimeOf s).heap (ids.filter (runtimeOf s).heap.requiresGrad) ∧
          Entered kind hyper (runtimeOf s) ids p'.runtime)
      (R := fun _ _ => ¬Creatable kind hyper s parameters) (Dart.wp_check _ _ (wp_mono
        (wp_exec_createForTensors a.ok a.lasts a.refuses handles) ?_ fun _ _ h _ => hbad h))
      (fun _ _ h => h) ?_
    · rintro reply runtime' ⟨hreply, hrest⟩
      exact ⟨hreply, hcalloc₂, hrest⟩
    · rintro reply p' ⟨rfl, hrest⟩
      refine wp_ite (fun hzero => absurd hzero a.ok.handles.pos.ne') fun _ => ⟨rfl, hrest⟩
  refine wp_seq (P := fun handle s' => handle = (runtimeOf s).registry.nextHandle ∧
      s'.owners = s.owners ∧ s'.parameters = s.parameters ∧ s'.host.tensors = s.host.tensors ∧
      s'.host.native.calloc.Lasts ∧ accepts kind hyper = true ∧
      ∃ ids, Api.Resolve (runtimeOf s) handles ids ∧ ids.Nodup ∧
        Updatable (runtimeOf s).heap (ids.filter (runtimeOf s).heap.requiresGrad) ∧
        Entered kind hyper (runtimeOf s) ids (runtimeOf s')) ?_ (fun _ _ h => h) ?_
  · unfold Dart.onLibrary
    rw [Dart.wp_onHost, Dart.wp_onNative_iff]
    refine wp_mono hnative ?_ fun _ _ h => h
    rintro handle p' ⟨rfl, hcalloc, hrest⟩
    exact ⟨rfl, rfl, rfl, rfl, hcalloc, hrest⟩
  · rintro _ s' ⟨rfl, howners, hobjects, htensors, hcalloc, haccept, ids, hresolve, hdistinct,
      hupdatable, hentered⟩
    obtain ⟨rfl, hlive⟩ := filterMap_tensorOf hhandles hresolve
    unfold Owner.create
    rw [wp_bind, wp_get, wp_bind, wp_modify, wp_pure, howners]
    refine ⟨⟨haccept, hlive, hdistinct, hupdatable⟩, ⟨hentered.ok, hentered.lasts, hcalloc, ?_⟩,
      rfl, ?_, hobjects, htensors, hentered.heap, hentered.registry, hentered.optimizers⟩
    · change (runtimeOf s').registry.nextHandle + room < maxU64
      rw [hentered.registry, next_withEntry a.room]
      have hroom := a.room
      omega
    · simp only [setOwners, if_true]

end Native

end Tensora.Optim
