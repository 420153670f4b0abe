import Tensora.Dart.IsolateLedger

/-! Every program of an isolate keeps the ledger of who owns which native handle. -/
namespace Tensora.Dart
open ProgramLogic Training
open Adoption (Handle Thrown DartDevice Host HostM Wrapper onNative)
open Api (exec)

variable {F D α β : Type} [Scalar F] [Scalar D] [Precision F D] [FloatBits F]

section Release
variable {held : HandleType → List Handle} {store : Store F} {s : Host (Process F D)}
  {handle : Handle} {rest : List Handle} {type : HandleType}

theorem Represents.wp_checkCall_release (r : Represents held store [] s) (operation abi : String)
    {call : Api.Call F D} (hcall : exec call = do
      onRegistry (HandleRegistry.release handle type)
      return .done)
    (htargets : call.targets s.native.runtime = []) (hne : type ≠ .tensor)
    (hheld : held type = handle :: rest) :
    wp (NativeTrainingRuntime.checkCall operation abi call)
      (fun _ native => Represents (Function.update held type rest) store []
        { s with native := native })
      (fun _ _ => False) s.native := by
  have hholds : s.native.runtime.registry.Holds type (handle :: rest) := hheld ▸ r.others type hne
  have hpreserves := Api.preserves_exec r.ok htargets
  have hrelease : wp (exec call)
      (fun _ s' => s'.registry = s.native.runtime.registry.erase handle ∧
        s'.registry.Holds type rest) (fun _ _ => False) s.native.runtime := by
    rw [hcall, wp_bind, wp_onRegistry]
    exact wp_mono hholds.release (fun _ _ h => h) fun _ _ h => h
  refine wp_seq (wp_check operation abi (wp_mono (wp_and hrelease hpreserves) ?_ ?_))
    (fun _ _ h => h) fun _ _ h => h
  · exact fun _ _ h => r.released_other hne hheld h.1.1 h.1.2 h.2
  · exact fun _ _ h => h.1.elim

theorem Represents.wp_releaseOwned (r : Represents held store [] s) (kind : OwnerClass)
    (hheld : held kind.type = handle :: rest) :
    wp (kind.release handle : DartM F D Unit)
      (fun _ native => Represents (Function.update held kind.type rest) store []
        { s with native := native })
      (fun _ _ => False) s.native := by
  cases kind with
  | module => exact r.wp_checkCall_release _ _ rfl rfl (type_ne_tensor .module) hheld
  | optimizer => exact r.wp_checkCall_release _ _ rfl rfl (type_ne_tensor .optimizer) hheld
  | parameterOptimizer =>
      exact r.wp_checkCall_release _ _ rfl rfl (type_ne_tensor .parameterOptimizer) hheld

end Release

section Owners
variable {count : Nat} {s : Isolate F D}

omit [Scalar F] [Scalar D] [Precision F D] [FloatBits F] in
theorem wp_ownerEnsureLive (kind : OwnerClass) (operation : String) (object : Nat) :
    wp (Owner.ensureLive kind operation object : IsolateM F D Handle) (fun _ s' => s' = s)
      (fun _ s' => s' = s) s := by
  unfold Owner.ensureLive
  rw [wp_bind, wp_get]
  cases (s.owners kind)[object]? with
  | none => exact (wp_throw _ _ _ _).mpr rfl
  | some owner =>
      dsimp only
      exact wp_ite (fun _ => rfl) fun _ => rfl

omit [Scalar F] [Scalar D] [Precision F D] [FloatBits F] in
theorem keepsLedger_ensureLive (kind : OwnerClass) (operation : String) (object : Nat) :
    KeepsLedger (Owner.ensureLive kind operation object : IsolateM F D Handle) :=
  fun _ _ l => wp_mono (wp_ownerEnsureLive kind operation object) (fun _ _ h => h ▸ l)
    fun _ _ h => h ▸ l

omit [Scalar F] [Scalar D] [Precision F D] [FloatBits F] in
theorem keepsLedger_create (kind : OwnerClass) {make : DartM F D Handle}
    (h : GivesOwner kind.type make) :
    KeepsLedger (do Owner.create kind (← onLibrary make)) := by
  intro count s l
  obtain ⟨store, r⟩ := l.tensors
  unfold onLibrary
  rw [wp_bind, wp_onHost, wp_onNative_iff]
  refine wp_mono (h s.host.native r.ok) ?_ ?_
  · intro handle native hgiven
    unfold Owner.create
    rw [wp_bind, wp_get, wp_bind, wp_modify, wp_pure]
    refine ⟨l.size, ⟨store, ?_⟩, fun kind' owner hmem => ?_, l.parameters⟩
    · refine (r.issued_other (type_ne_tensor kind) hgiven.1 hgiven.2).held_perm fun type => ?_
      rw [heldBy_setOwners, heldBy_type]
      by_cases htype : type = kind.type
      · rw [htype, Function.update_self, Function.update_self]
        exact liveHandles_snoc _ _
      · rw [Function.update_of_ne htype, Function.update_of_ne htype]
    · by_cases hkind : kind' = kind
      · subst hkind
        simp only [setOwners, if_true] at hmem
        rcases List.mem_append.mp hmem with hmem | hmem
        · exact l.attached kind' owner hmem
        · rw [List.mem_singleton.mp hmem]
          rfl
      · simp only [setOwners, if_neg hkind] at hmem
        exact l.attached kind' owner hmem
  · intro thrown native hmutated
    obtain ⟨store', hlen, r'⟩ := r.mutated hmutated
    exact ⟨l.size, ⟨store', r'⟩, l.attached, l.parameters⟩

omit [Scalar F] [Scalar D] [Precision F D] [FloatBits F] in
theorem Ledger.released (l : Ledger count s) (kind : OwnerClass) {object : Nat} {owner : Owner}
    {native : Process F D} {store : Store F}
    (r : Represents (Function.update (heldBy s.owners) kind.type
      (liveHandles ((s.owners kind).set object owner.detached))) store []
        { s.host with native := native }) :
    Ledger count { s with
      host := { s.host with native := native }
      owners := setOwners s.owners kind ((s.owners kind).set object owner.detached) } := by
  refine ⟨l.size, ⟨store, by rwa [heldBy_setOwners]⟩, fun kind' owner hmem => ?_, l.parameters⟩
  by_cases hkind : kind' = kind
  · subst hkind
    simp only [setOwners, if_true] at hmem
    rcases List.mem_or_eq_of_mem_set hmem with hmem | rfl
    · exact l.attached kind' owner hmem
    · rfl
  · simp only [setOwners, if_neg hkind] at hmem
    exact l.attached kind' owner hmem

theorem Ledger.wp_releaseOwned (l : Ledger count s) (kind : OwnerClass) {object : Nat}
    {owner : Owner} (hget : (s.owners kind)[object]? = some owner)
    (hlive : owner.disposed = false) :
    wp (onLibrary (kind.release owner.handle) : IsolateM F D Unit)
      (fun _ s' => s'.owners = s.owners ∧ s'.host.tensors = s.host.tensors ∧
        Ledger count { s' with
          owners := setOwners s.owners kind ((s.owners kind).set object owner.detached) })
      (fun _ _ => False) s := by
  obtain ⟨store, r⟩ := l.tensors
  have hperm := liveHandles_set hget hlive
  have howned : Represents (Function.update (heldBy s.owners) kind.type (owner.handle ::
      liveHandles ((s.owners kind).set object owner.detached))) store [] s.host := by
    refine r.held_perm fun type => ?_
    by_cases htype : type = kind.type
    · rw [htype, Function.update_self, heldBy_type]
      exact hperm
    · rw [Function.update_of_ne htype]
  unfold onLibrary
  rw [wp_onHost, wp_onNative_iff]
  refine wp_mono (howned.wp_releaseOwned kind (Function.update_self _ _ _)) ?_ fun _ _ h => h
  intro _ native hreleased
  rw [Function.update_idem] at hreleased
  exact ⟨rfl, rfl, l.released kind hreleased⟩

theorem Ledger.wp_dispose (l : Ledger count s) (kind : OwnerClass) {object : Nat}
    (hobject : object < (s.owners kind).length) :
    wp (Owner.dispose kind object)
      (fun _ s' => Ledger count s' ∧ s'.host.tensors = s.host.tensors ∧
        ∃ owner : Owner, owner.disposed = true ∧
          s'.owners = setOwners s.owners kind ((s.owners kind).set object owner))
      (fun _ _ => False) s := by
  have hget := List.getElem?_eq_getElem hobject
  unfold Owner.dispose
  rw [wp_bind, wp_get, hget]
  dsimp only
  refine wp_ite (fun hdisposed => ?_) fun hlive => ?_
  · refine ⟨l, rfl, (s.owners kind)[object], hdisposed, ?_⟩
    rw [List.set_getElem_self]
    funext kind'
    unfold setOwners
    split
    · rename_i hkind
      rw [hkind]
    · rfl
  · refine wp_seq (l.wp_releaseOwned kind hget (Bool.not_eq_true _ ▸ hlive)) (fun _ _ h => h)
      fun _ s₁ h₁ => ?_
    rw [wp_modify, h₁.1]
    exact ⟨h₁.2.2, h₁.2.1, _, rfl, rfl⟩

theorem keepsLedger_dispose (kind : OwnerClass) (object : Nat) :
    KeepsLedger (Owner.dispose kind object : IsolateM F D Unit) := by
  intro count s l
  by_cases hobject : object < (s.owners kind).length
  · exact wp_mono (l.wp_dispose kind hobject) (fun _ _ h => h.1) fun _ _ h => h.elim
  · unfold Owner.dispose
    rw [wp_bind, wp_get, List.getElem?_eq_none (Nat.not_lt.mp hobject)]
    exact l

theorem keepsLedger_finalize (kind : OwnerClass) (object : Nat) :
    KeepsLedger (Owner.finalize kind object : IsolateM F D Unit) := by
  intro count s l
  unfold Owner.finalize
  rw [wp_bind, wp_get]
  cases hget : (s.owners kind)[object]? with
  | none => exact l
  | some owner =>
      dsimp only
      refine wp_ite (fun hattached => ?_) fun _ => l
      have hlive : owner.disposed = false := by
        rw [l.attached kind owner (List.mem_of_getElem? hget)] at hattached
        simpa using hattached
      refine wp_seq (P := fun _ s' => s'.owners = s.owners ∧ s'.host.tensors = s.host.tensors ∧
        Ledger count { s' with
          owners := setOwners s.owners kind ((s.owners kind).set object owner.detached) })
        (R := fun _ _ => False) ?_ (fun _ _ h => h.elim) fun _ s₁ h₁ => ?_
      · exact wp_tryCatch (P := fun _ _ => False) (l.wp_releaseOwned kind hget hlive)
          fun _ _ h => h.elim
      · rw [wp_modify, h₁.1]
        exact h₁.2.2

end Owners

theorem keepsLedger_makes (operation abi : String) {call : Api.Call F D}
    (hissues : call.issues = some .tensor) (htargets : ∀ s : Runtime F D, call.targets s = []) :
    KeepsLedger (do
      let handle ← onLibrary (NativeTrainingRuntime.newObjectHandle operation abi call)
      onHost (runtime.adoptNativeHandleForRuntime handle .nativeTensorAdoptionToken)) := by
  unfold onLibrary
  rw [onHost_bind]
  exact keepsLedger_onHost (keepsTensors_make fun p ok =>
    makesTensor_newObjectHandle ok operation abi hissues htargets)

omit [Scalar F] [Scalar D] [Precision F D] [FloatBits F] in
theorem keepsLedger_callsOwner (kind : OwnerClass) (name : String) (object : Nat)
    {call : Handle → DartM F D α} (hcall : ∀ handle, Quiet (call handle)) :
    KeepsLedger (do onLibrary (call (← Owner.ensureLive kind name object))) :=
  keepsLedger_bind (keepsLedger_ensureLive kind name object) fun handle =>
    keepsLedger_quiet (hcall handle)

theorem keepsLedger_moduleCall (module input : Nat) :
    KeepsLedger (Module.call module input : IsolateM F D Nat) :=
  keepsLedger_bind (keepsLedger_ensureLive _ _ _) fun _ =>
    keepsLedger_bind (keepsLedger_onHost (keepsTensors_nativeHandle _)) fun _ =>
      keepsLedger_makes _ _ rfl fun _ => rfl

theorem keepsLedger_collects (name : String) (module : Nat)
    {count : Handle → DartM F D Nat} {reader : Handle → Nat → DartM F D Handle}
    (hcount : ∀ handle, Quiet (count handle))
    (hreader : ∀ handle (p : Process F D) index, p.runtime.Ok →
      MakesTensor (reader handle index) (fun _ => True) p) :
    KeepsLedger (do
      let handle ← Owner.ensureLive .module name module
      let count ← onLibrary (count handle)
      onHost (runtime.collectModuleTensors count (reader handle))) :=
  keepsLedger_bind (keepsLedger_ensureLive _ _ _) fun handle =>
    keepsLedger_bind (keepsLedger_quiet (hcount handle)) fun rounds =>
      keepsLedger_onHost (keepsTensors_collectModuleTensors (hreader handle) rounds)

omit [Scalar F] [Scalar D] [Precision F D] [FloatBits F] in
theorem keepsLedger_validate (condition : Bool) (thrown : Thrown) :
    KeepsLedger (if condition then throw thrown else pure () : IsolateM F D Unit) :=
  keepsLedger_ite (keepsLedger_throw _) (keepsLedger_pure _)

theorem keepsLedger_sgd (module : Nat) (hyper : Hyperparameters D) :
    KeepsLedger (Optimizer.sgd module hyper : IsolateM F D Nat) :=
  keepsLedger_bind (keepsLedger_ensureLive _ _ _) fun handle =>
    keepsLedger_bind (keepsLedger_validate _ _) fun _ =>
      keepsLedger_bind (keepsLedger_validate _ _) fun _ =>
        keepsLedger_bind (keepsLedger_validate _ _) fun _ =>
          keepsLedger_create .optimizer (NativeTrainingRuntime.givesOwner_createSgd handle hyper)

theorem keepsLedger_adam (module : Nat) (hyper : Hyperparameters D) (decoupled : Bool) :
    KeepsLedger (Optimizer.adam module hyper decoupled : IsolateM F D Nat) :=
  keepsLedger_bind (keepsLedger_ensureLive _ _ _) fun handle =>
    keepsLedger_bind (keepsLedger_validate _ _) fun _ =>
      keepsLedger_bind (keepsLedger_validate _ _) fun _ =>
        keepsLedger_bind (keepsLedger_validate _ _) fun _ =>
          keepsLedger_bind (keepsLedger_validate _ _) fun _ =>
            keepsLedger_bind (keepsLedger_validate _ _) fun _ =>
              keepsLedger_create .optimizer
                (NativeTrainingRuntime.givesOwner_createAdam handle hyper decoupled)

section Parameters
variable {count : Nat} {s : Isolate F D}

omit [Scalar F] [Scalar D] [Precision F D] [FloatBits F] in
theorem Ledger.all (l : Ledger count s) : Ledger s.host.tensors.length s :=
  ⟨le_rfl, l.tensors, l.attached, l.parameters⟩

omit [Scalar F] [Scalar D] [Precision F D] [FloatBits F] in
theorem Ledger.of_le {count' : Nat} (l : Ledger count s) (h : count' ≤ count) : Ledger count' s :=
  ⟨h.trans l.size, l.tensors, l.attached, l.parameters⟩

omit [Scalar F] [Scalar D] [Precision F D] [FloatBits F] in
theorem Ledger.wp_nativeHandle (l : Ledger count s) (tensor : Nat) :
    wp (onHost (DartTensor.nativeHandle tensor))
      (fun _ s' => s' = s ∧ tensor < s.host.tensors.length) (fun _ s' => s' = s) s := by
  obtain ⟨store, r⟩ := l.tensors
  rw [wp_onHost]
  refine wp_seq (r.wp_ensureLive _ tensor) ?_ fun wrapper host h => ?_
  · rintro _ host rfl
    rfl
  · obtain ⟨rfl, value, hstore, -⟩ := h
    refine ⟨rfl, ?_⟩
    rw [r.objects.length_eq]
    exact (List.getElem?_eq_some_iff.mp hstore).1

omit [Scalar F] [Scalar D] [Precision F D] [FloatBits F] in
theorem wp_parameterEnsureLive (operation : String) (parameter : Nat) :
    wp (Parameter.ensureLive operation parameter : IsolateM F D Parameter)
      (fun object s' => s' = s ∧ object ∈ s.parameters) (fun _ s' => s' = s) s := by
  unfold Parameter.ensureLive
  rw [wp_bind, wp_get]
  cases hget : s.parameters[parameter]? with
  | none => exact (wp_throw _ _ _ _).mpr rfl
  | some object =>
      dsimp only
      exact wp_ite (fun _ => rfl) fun _ => ⟨rfl, List.mem_of_getElem? hget⟩

omit [Scalar F] [Scalar D] [Precision F D] [FloatBits F] in
theorem Ledger.withParameters (l : Ledger count s) {parameters : List Parameter}
    (h : ∀ parameter ∈ parameters, parameter.tensor < s.host.tensors.length) :
    Ledger count { s with parameters := parameters } :=
  ⟨l.size, l.tensors, l.attached, h⟩

omit [Scalar F] [Scalar D] [Precision F D] [FloatBits F] in
theorem Ledger.setParameter (l : Ledger count s) (parameter : Nat) {object : Parameter}
    (h : object.tensor < s.host.tensors.length) :
    Ledger count { s with parameters := s.parameters.set parameter object } := by
  refine l.withParameters fun other hmem => ?_
  rcases List.mem_or_eq_of_mem_set hmem with hmem | rfl
  · exact l.parameters other hmem
  · exact h

theorem keepsLedger_fromTensor (tensor : Nat) :
    KeepsLedger (Parameter.fromTensor tensor : IsolateM F D Nat) := by
  intro count s l
  unfold Parameter.fromTensor
  refine wp_seq (l.wp_nativeHandle tensor) (fun _ _ h => h ▸ l) fun handle s₁ h₁ => ?_
  obtain ⟨rfl, htensor⟩ := h₁
  have hidentity := keepsLedger_quiet
    (NativeTrainingRuntime.quiet_tensorIdentity (F := F) (D := D) handle)
  refine wp_seq (hidentity _ _ l.all) (fun _ _ h => h.of_le l.size) fun identity s₂ l₂ => ?_
  rw [wp_bind, wp_get, wp_bind, wp_modify, wp_pure]
  refine (l₂.of_le l.size).withParameters fun parameter hmem => ?_
  rcases List.mem_append.mp hmem with hmem | hmem
  · exact l₂.parameters parameter hmem
  · rw [List.mem_singleton.mp hmem]
    exact htensor.trans_le l₂.size

omit [Scalar F] [Scalar D] [Precision F D] [FloatBits F] in
theorem keepsLedger_usesParameter (operation : String) (parameter : Nat)
    {f : Parameter → IsolateM F D α} (hf : ∀ object, KeepsLedger (f object)) :
    KeepsLedger (Parameter.ensureLive operation parameter >>= f) :=
  fun count _ l => wp_seq (wp_parameterEnsureLive operation parameter) (fun _ _ h => h ▸ l)
    fun object s₁ h₁ => hf object count s₁ (h₁.1 ▸ l)

theorem keepsTensors_grad (tensor : Nat) :
    KeepsTensors (DartTensor.grad tensor : TensorM F D Nat) := by
  intro held count s h
  have hperform := keepsTensors_perform (.grad tensor) held count s h
  rw [perform, wp_bind] at hperform
  exact hperform

theorem keepsLedger_replaceTensor (parameter replacement : Nat) :
    KeepsLedger (Parameter.internalReplaceTensor parameter replacement : IsolateM F D Unit) := by
  intro count s l
  unfold Parameter.internalReplaceTensor
  refine wp_seq (wp_parameterEnsureLive _ parameter) (fun _ _ h => h ▸ l) fun object s₁ h₁ => ?_
  obtain ⟨rfl, hobject⟩ := h₁
  refine wp_seq (l.wp_nativeHandle replacement) (fun _ _ h => h ▸ l) fun handle s₂ h₂ => ?_
  obtain ⟨rfl, hreplacement⟩ := h₂
  have hidentity := keepsLedger_quiet
    (NativeTrainingRuntime.quiet_tensorIdentity (F := F) (D := D) handle)
  refine wp_seq (hidentity _ _ l.all) (fun _ _ h => h.of_le l.size) fun identity s₃ l₃ => ?_
  have hdispose : ∀ tensor, KeepsLedger (onHost (DartTensor.dispose tensor) : IsolateM F D Unit) :=
    fun tensor => keepsLedger_onHost (keepsTensors_dispose tensor)
  have hset : Ledger count { s₃ with
      parameters := s₃.parameters.set parameter { object with tensor := replacement } } :=
    (l₃.of_le l.size).setParameter parameter (hreplacement.trans_le l₃.size)
  dsimp only
  refine wp_ite (fun _ => ?_) fun _ => ?_
  · refine keepsLedger_bind (hdispose replacement) (fun _ => ?_) count s₃ (l₃.of_le l.size)
    exact fun _ _ l => l
  · rw [wp_bind, wp_modify]
    exact hdispose object.tensor count _ hset

theorem keepsLedger_disposeParameter (parameter : Nat) :
    KeepsLedger (Parameter.dispose parameter : IsolateM F D Unit) := by
  intro count s l
  unfold Parameter.dispose
  rw [wp_bind, wp_get]
  cases hget : s.parameters[parameter]? with
  | none => exact l
  | some object =>
      have htensor := l.parameters object (List.mem_of_getElem? hget)
      dsimp only
      refine wp_ite (fun _ => l) fun _ => ?_
      refine wp_seq (keepsLedger_onHost (keepsTensors_dispose object.tensor) _ _ l.all)
        (fun _ _ h => h.of_le l.size) fun _ s₁ l₁ => ?_
      rw [wp_modify]
      exact (l₁.of_le l.size).setParameter parameter (htensor.trans_le l₁.size)

end Parameters

omit [Scalar F] [Scalar D] [Precision F D] [FloatBits F] in
theorem keepsLedger_parameterHandle (parameter : Nat) :
    KeepsLedger (NativeParameterOptimizer.parameterHandle parameter : IsolateM F D Handle) := by
  intro count s l
  unfold NativeParameterOptimizer.parameterHandle
  rw [wp_bind, wp_get]
  cases s.parameters[parameter]? with
  | none => exact l
  | some object =>
      dsimp only
      refine wp_ite (fun _ => l) fun _ => ?_
      exact keepsLedger_onHost (keepsTensors_nativeHandle object.tensor) count s l

omit [Scalar F] [Scalar D] [Precision F D] [FloatBits F] in
theorem keepsLedger_parameterHandles (parameters : List Nat) :
    KeepsLedger (NativeParameterOptimizer.parameterHandles parameters :
      IsolateM F D (List Handle)) := by
  refine keepsLedger_bind (keepsLedger_mapM keepsLedger_parameterHandle parameters) fun _ => ?_
  dsimp only
  exact keepsLedger_ite (fun _ _ l => l) (keepsLedger_pure _)

theorem keepsLedger_parameterSgd (parameters : List Nat) (hyper : Hyperparameters D) :
    KeepsLedger (NativeParameterOptimizer.sgd parameters hyper : IsolateM F D Nat) :=
  keepsLedger_bind (keepsLedger_parameterHandles parameters) fun handles =>
    keepsLedger_create .parameterOptimizer
      (NativeTrainingRuntime.givesOwner_withTensorHandles handles _ _ _ hyper)

theorem keepsLedger_parameterAdam (parameters : List Nat) (hyper : Hyperparameters D)
    (decoupled : Bool) :
    KeepsLedger (NativeParameterOptimizer.adam parameters hyper decoupled : IsolateM F D Nat) :=
  keepsLedger_bind (keepsLedger_parameterHandles parameters) fun handles =>
    keepsLedger_create .parameterOptimizer
      (NativeTrainingRuntime.givesOwner_createParameterAdam handles hyper decoupled)

theorem keepsLedger_assignMany (targets sources : List Nat) :
    KeepsLedger (NativeTensorState.assignMany targets sources : IsolateM F D Unit) := by
  have hhandle : ∀ tensor, KeepsLedger (onHost (DartTensor.nativeHandle tensor) :
      IsolateM F D Handle) :=
    fun tensor => keepsLedger_onHost (keepsTensors_nativeHandle tensor)
  unfold NativeTensorState.assignMany
  dsimp only
  refine keepsLedger_ite (fun _ _ l => l) (keepsLedger_ite (keepsLedger_pure _) ?_)
  refine keepsLedger_bind (keepsLedger_mapM (fun pair => ?_) _) fun handles => ?_
  · exact keepsLedger_bind (hhandle pair.1) fun _ =>
      keepsLedger_bind (hhandle pair.2) fun _ => keepsLedger_pure _
  · exact keepsLedger_quiet (NativeTrainingRuntime.quiet_assignMany _ _)

omit [Scalar F] [Scalar D] [Precision F D] [FloatBits F] in
theorem keepsLedger_answer {x : IsolateM F D α} (f : α → β) (hx : KeepsLedger x) :
    KeepsLedger (do return f (← x)) :=
  keepsLedger_bind hx fun _ => keepsLedger_pure _

theorem keepsLedger_perform (request : IsolateRequest D) :
    KeepsLedger (Isolate.perform request : IsolateM F D (IsolateAnswer D)) := by
  cases request with
  | tensor request => exact keepsLedger_answer _ (keepsLedger_onHost (keepsTensors_perform request))
  | manualSeed seed =>
      exact keepsLedger_answer _ (keepsLedger_quiet (NativeTrainingRuntime.quiet_manualSeed seed))
  | linear inFeatures outFeatures bias =>
      exact keepsLedger_answer _ (keepsLedger_create .module
        (NativeTrainingRuntime.givesOwner_createLinear inFeatures outFeatures bias))
  | call module input => exact keepsLedger_answer _ (keepsLedger_moduleCall module input)
  | train module | eval module | moduleToDevice module =>
      refine keepsLedger_answer _ (keepsLedger_callsOwner _ _ module fun _ => ?_)
      exact quiet_checkCall _ _ rfl rfl
  | parameters module | buffers module =>
      refine keepsLedger_answer _ (keepsLedger_collects _ module (fun _ => ?_) fun _ _ _ ok => ?_)
      · exact NativeTrainingRuntime.quiet_moduleCount _ _ rfl rfl
      · exact makesTensor_newObjectHandle ok _ _ rfl fun _ => rfl
  | save module path | load module path =>
      refine keepsLedger_answer _ (keepsLedger_callsOwner _ _ module fun _ => ?_)
      exact NativeTrainingRuntime.quiet_withPath path _ _ rfl rfl
  | sgd module hyper => exact keepsLedger_answer _ (keepsLedger_sgd module hyper)
  | adam module hyper decoupled => exact keepsLedger_answer _ (keepsLedger_adam module hyper _)
  | zeroGrad optimizer | step optimizer | parameterZeroGrad optimizer | parameterStep optimizer =>
      refine keepsLedger_answer _ (keepsLedger_callsOwner _ _ optimizer fun _ => ?_)
      exact quiet_checkCall _ _ rfl rfl
  | fromTensor tensor => exact keepsLedger_answer _ (keepsLedger_fromTensor tensor)
  | freeze parameter | unfreeze parameter =>
      refine keepsLedger_answer _ (keepsLedger_usesParameter _ parameter fun object => ?_)
      refine keepsLedger_bind (keepsLedger_onHost (keepsTensors_nativeHandle _)) fun _ => ?_
      exact keepsLedger_quiet (quiet_checkCall _ _ rfl rfl)
  | parameterGrad parameter =>
      refine keepsLedger_answer _ (keepsLedger_usesParameter _ parameter fun object => ?_)
      exact keepsLedger_onHost (keepsTensors_grad object.tensor)
  | snapshot parameter =>
      refine keepsLedger_answer _ (keepsLedger_usesParameter _ parameter fun object => ?_)
      refine keepsLedger_bind (keepsLedger_onHost (keepsTensors_nativeHandle _)) fun _ => ?_
      exact keepsLedger_makes _ _ rfl fun _ => rfl
  | replaceTensor parameter replacement =>
      exact keepsLedger_answer _ (keepsLedger_replaceTensor parameter replacement)
  | disposeParameter parameter =>
      exact keepsLedger_answer _ (keepsLedger_disposeParameter parameter)
  | parameterSgd parameters hyper =>
      exact keepsLedger_answer _ (keepsLedger_parameterSgd parameters hyper)
  | parameterAdam parameters hyper decoupled =>
      exact keepsLedger_answer _ (keepsLedger_parameterAdam parameters hyper decoupled)
  | identity tensor =>
      refine keepsLedger_answer _ (keepsLedger_bind (keepsLedger_onHost ?_) fun handle => ?_)
      · exact keepsTensors_nativeHandle tensor
      · exact keepsLedger_quiet (NativeTrainingRuntime.quiet_tensorIdentity handle)
  | cloneDetached tensor =>
      refine keepsLedger_answer _ (keepsLedger_bind (keepsLedger_onHost ?_) fun _ => ?_)
      · exact keepsTensors_nativeHandle tensor
      · exact keepsLedger_makes _ _ rfl fun _ => rfl
  | assignMany targets sources =>
      exact keepsLedger_answer _ (keepsLedger_assignMany targets sources)
  | dispose kind object => exact keepsLedger_answer _ (keepsLedger_dispose kind object)
  | finalize kind object => exact keepsLedger_answer _ (keepsLedger_finalize kind object)
  | finalizeTensor tensor =>
      exact keepsLedger_answer _ (keepsLedger_onHost (keepsTensors_finalize tensor))

section Runs
variable {count : Nat} {s : Isolate F D}

omit [Scalar F] [Scalar D] [Precision F D] [FloatBits F] in
theorem ledger_initial (fails callocFails : Nat → Bool) (files : FileSystem) :
    Ledger 0 (initialIsolate fails callocFails files : Isolate F D) where
  size := le_rfl
  tensors := by
    refine ⟨[], (represents_initial fails callocFails files).held_perm fun type => ?_⟩
    cases type <;> exact .nil
  attached := fun _ _ hmem => absurd hmem List.not_mem_nil
  parameters := fun _ hmem => absurd hmem List.not_mem_nil

theorem Ledger.performed (l : Ledger count s) (request : IsolateRequest D) :
    Ledger count (s.performed request) := by
  have hperform := keepsLedger_perform request count s l
  unfold wp at hperform
  unfold Isolate.performed
  cases hx : Isolate.perform request s with
  | ok answer s' =>
      rw [hx] at hperform
      exact hperform
  | error thrown s' =>
      rw [hx] at hperform
      exact hperform

theorem Ledger.run (l : Ledger count s) (requests : List (IsolateRequest D)) :
    Ledger count (runIsolate s requests) := by
  induction requests generalizing s with
  | nil => exact l
  | cons request requests ih => exact ih (l.performed request)

theorem length_filterMap_live {γ : Type} (disposed : α → Bool) (f : α → γ) (xs : List α) :
    (xs.filterMap fun x => if disposed x then none else some (f x)).length =
      xs.countP fun x => !disposed x := by
  rw [List.length_filterMap_eq_countP]
  congr 1
  funext x
  cases disposed x <;> rfl

theorem filterMap_live_eq_nil {γ : Type} {disposed : α → Bool} (f : α → γ) {xs : List α}
    (h : ∀ x ∈ xs, disposed x = true) :
    (xs.filterMap fun x => if disposed x then none else some (f x)) = [] := by
  refine List.filterMap_eq_nil_iff.mpr fun x hmem => ?_
  rw [if_pos (h x hmem)]

/-- One handle for each object that is not disposed, its finalizer attached, and no other; and
every object can be disposed of. -/
structure Balanced (s : Isolate F D) : Prop where
  tensors : s.host.native.runtime.registry.Holds .tensor (owned s.host.tensors)
  owners : ∀ kind, s.host.native.runtime.registry.Holds kind.type (liveHandles (s.owners kind))
  tensorCount : s.host.native.runtime.registry.count .tensor =
    s.host.tensors.countP fun wrapper => !wrapper.disposed
  ownerCount : ∀ kind, s.host.native.runtime.registry.count kind.type =
    (s.owners kind).countP fun owner => !owner.disposed
  attachedTensors : ∀ wrapper ∈ s.host.tensors, wrapper.attached = !wrapper.disposed
  attachedOwners : ∀ kind, ∀ owner ∈ s.owners kind, owner.attached = !owner.disposed
  disposeTensor : ∀ tensor < s.host.tensors.length,
    ∃ s', Isolate.perform (.tensor (.dispose tensor)) s = .ok (.tensor .done) s'
  disposeOwner : ∀ kind, ∀ object < (s.owners kind).length,
    ∃ s', Isolate.perform (.dispose kind object) s = .ok .done s'
  disposeParameter : ∀ parameter < s.parameters.length,
    ∃ s', Isolate.perform (.disposeParameter parameter) s = .ok .done s'

omit [Scalar F] [Scalar D] [Precision F D] [FloatBits F] in
theorem Represented.disposed {runtime : Runtime F D} {wrapper : Wrapper}
    {value : Option (List Nat × List F)} (h : Represented runtime wrapper value) :
    wrapper.disposed = value.isNone := by
  cases value with
  | none => exact Wrapper.Gone.disposed h
  | some value => exact (Stands.owns h).live

omit [Scalar F] [Scalar D] [Precision F D] [FloatBits F] in
theorem Represented.attached {runtime : Runtime F D} {wrapper : Wrapper}
    {value : Option (List Nat × List F)} (h : Represented runtime wrapper value) :
    wrapper.attached = !wrapper.disposed := by
  rw [h.disposed]
  cases value with
  | none => exact Wrapper.Gone.detached h
  | some value => exact (Stands.owns h).attached

omit [Scalar F] [Scalar D] [Precision F D] [FloatBits F] in
theorem Represents.disposed {held : HandleType → List Handle} {store : Store F}
    {loose : List Handle} {host : Host (Process F D)} (r : Represents held store loose host) :
    host.tensors.map (·.disposed) = store.map Option.isNone := by
  rw [← List.forall₂_eq_eq_eq, List.forall₂_map_left_iff, List.forall₂_map_right_iff]
  exact r.objects.imp fun _ _ h => h.disposed

theorem Ledger.wp_disposeTensor (l : Ledger count s) {tensor : Nat}
    (htensor : tensor < s.host.tensors.length) :
    wp (onHost (DartTensor.dispose tensor)) (fun _ s' => s'.owners = s.owners ∧
        s'.host.tensors.map (·.disposed) = (s.host.tensors.map (·.disposed)).set tensor true)
      (fun _ _ => False) s := by
  obtain ⟨store, r⟩ := l.tensors
  rw [wp_onHost]
  refine wp_mono (r.wp_dispose (r.objects.length_eq ▸ htensor)) (fun _ host r' => ?_)
    fun _ _ h => h
  refine ⟨rfl, ?_⟩
  rw [r.disposed, r'.disposed, List.map_set]
  rfl

theorem performed_of_wp {request : IsolateRequest D} {Q : IsolateAnswer D → Isolate F D → Prop}
    (h : wp (Isolate.perform request) Q (fun _ _ => False) s) :
    ∃ answer, Isolate.perform request s = .ok answer (s.performed request) ∧
      Q answer (s.performed request) := by
  obtain ⟨answer, s', hrun, hq⟩ := ok_of_wp h
  have hperformed : s.performed request = s' := by
    unfold Isolate.performed
    rw [hrun]
  exact ⟨answer, by rw [hperformed, hrun], by rwa [hperformed]⟩

theorem Ledger.disposedTensor (l : Ledger count s) {tensor : Nat}
    (htensor : tensor < s.host.tensors.length) :
    ∃ s', Isolate.perform (.tensor (.dispose tensor)) s = .ok (.tensor .done) s' ∧
      s' = s.performed (.tensor (.dispose tensor)) ∧ s'.owners = s.owners ∧
      s'.host.tensors.map (·.disposed) = (s.host.tensors.map (·.disposed)).set tensor true := by
  have hrun : wp (Isolate.perform (.tensor (.dispose tensor))) (fun answer s' =>
      answer = .tensor .done ∧ s'.owners = s.owners ∧
        s'.host.tensors.map (·.disposed) = (s.host.tensors.map (·.disposed)).set tensor true)
      (fun _ _ => False) s := by
    unfold Isolate.perform
    rw [wp_bind, wp_onHost, perform, wp_bind]
    have hdispose := l.wp_disposeTensor htensor
    rw [wp_onHost] at hdispose
    exact wp_mono hdispose (fun _ _ h => ⟨rfl, h⟩) fun _ _ h => h
  obtain ⟨answer, hok, rfl, hafter⟩ := performed_of_wp hrun
  exact ⟨_, hok, rfl, hafter⟩

theorem Ledger.disposedOwner (l : Ledger count s) (kind : OwnerClass) {object : Nat}
    (hobject : object < (s.owners kind).length) :
    ∃ s', Isolate.perform (.dispose kind object) s = .ok .done s' ∧
      s' = s.performed (.dispose kind object) ∧ s'.host.tensors = s.host.tensors ∧
      ∃ owner : Owner, owner.disposed = true ∧
        s'.owners = setOwners s.owners kind ((s.owners kind).set object owner) := by
  have hrun : wp (Isolate.perform (.dispose kind object)) (fun answer s' => answer = .done ∧
      s'.host.tensors = s.host.tensors ∧ ∃ owner : Owner, owner.disposed = true ∧
        s'.owners = setOwners s.owners kind ((s.owners kind).set object owner))
      (fun _ _ => False) s := by
    unfold Isolate.perform
    rw [wp_bind]
    exact wp_mono (l.wp_dispose kind hobject) (fun _ _ h => ⟨rfl, h.2⟩) fun _ _ h => h
  obtain ⟨answer, hok, rfl, hafter⟩ := performed_of_wp hrun
  exact ⟨_, hok, rfl, hafter⟩

theorem Ledger.disposedParameter (l : Ledger count s) {parameter : Nat}
    (hparameter : parameter < s.parameters.length) :
    ∃ s', Isolate.perform (.disposeParameter parameter) s = .ok .done s' := by
  have hget := List.getElem?_eq_getElem hparameter
  have hrun : wp (Isolate.perform (.disposeParameter parameter)) (fun answer _ => answer = .done)
      (fun _ _ => False) s := by
    unfold Isolate.perform Parameter.dispose
    rw [wp_bind, wp_bind, wp_get, hget]
    dsimp only
    refine wp_ite (fun _ => rfl) fun _ => ?_
    have htensor := l.parameters s.parameters[parameter] (List.getElem_mem hparameter)
    exact wp_seq (l.wp_disposeTensor htensor) (fun _ _ h => h) fun _ _ _ => rfl
  obtain ⟨answer, hok, rfl⟩ := performed_of_wp hrun
  exact ⟨_, hok⟩

theorem Ledger.balanced (l : Ledger count s) : Balanced s := by
  obtain ⟨store, r⟩ := l.tensors
  have howners : ∀ kind : OwnerClass,
      s.host.native.runtime.registry.Holds kind.type (liveHandles (s.owners kind)) := by
    intro kind
    rw [← heldBy_type]
    exact r.others kind.type (type_ne_tensor kind)
  exact {
    tensors := r.holds
    owners := howners
    tensorCount := (r.holds.count_eq r.keys).trans (length_filterMap_live _ _ _)
    ownerCount := fun kind => ((howners kind).count_eq r.keys).trans (length_filterMap_live _ _ _)
    attachedTensors := fun wrapper hmem => by
      obtain ⟨tensor, hget⟩ := List.getElem?_of_mem hmem
      obtain ⟨value, -, hobject⟩ := r.object hget
      exact hobject.attached
    attachedOwners := l.attached
    disposeTensor := fun tensor htensor => by
      obtain ⟨s', hok, -⟩ := l.disposedTensor htensor
      exact ⟨s', hok⟩
    disposeOwner := fun kind object hobject => by
      obtain ⟨s', hok, -⟩ := l.disposedOwner kind hobject
      exact ⟨s', hok⟩
    disposeParameter := fun parameter hparameter => l.disposedParameter hparameter }

def Isolate.disposals (s : Isolate F D) : List (IsolateRequest D) :=
  (List.range s.host.tensors.length).map (fun tensor => .tensor (.dispose tensor)) ++
    [OwnerClass.module, .optimizer, .parameterOptimizer].flatMap fun kind =>
      (List.range (s.owners kind).length).map (.dispose kind)

omit [Scalar F] [Scalar D] [Precision F D] [FloatBits F] in
theorem foldl_set_getElem? (a : α) (is : List Nat) (xs : List α) (j : Nat) :
    (is.foldl (fun xs i => xs.set i a) xs)[j]? =
      if j ∈ is then xs[j]?.map fun _ => a else xs[j]? := by
  induction is generalizing xs with
  | nil => rfl
  | cons i is ih =>
      rw [List.foldl_cons, ih, List.getElem?_set]
      by_cases hij : i = j
      · subst hij
        by_cases hlt : i < xs.length <;> simp [hlt]
      · simp [hij, Ne.symm hij]

theorem eq_of_mem_foldl_set {a b : α} {xs : List α}
    (h : b ∈ (List.range xs.length).foldl (fun xs i => xs.set i a) xs) : b = a := by
  obtain ⟨j, hget⟩ := List.getElem?_of_mem h
  rw [foldl_set_getElem?] at hget
  split at hget
  · obtain ⟨_, -, rfl⟩ := Option.map_eq_some_iff.mp hget
    rfl
  · rename_i hrange
    exact absurd (List.mem_range.mpr (List.getElem?_eq_some_iff.mp hget).1) hrange

theorem Ledger.disposedTensors (l : Ledger count s) (tensors : List Nat)
    (h : ∀ tensor ∈ tensors, tensor < s.host.tensors.length) :
    (runIsolate s (tensors.map fun tensor => .tensor (.dispose tensor))).owners = s.owners ∧
    (runIsolate s (tensors.map fun tensor => .tensor (.dispose tensor))).host.tensors.map
      (·.disposed) = tensors.foldl (fun flags tensor => flags.set tensor true)
        (s.host.tensors.map (·.disposed)) := by
  induction tensors generalizing s with
  | nil => exact ⟨rfl, rfl⟩
  | cons tensor tensors ih =>
      obtain ⟨s', -, rfl, howners, hflags⟩ := l.disposedTensor (h tensor List.mem_cons_self)
      have hlength := congrArg List.length hflags
      rw [List.length_set, List.length_map, List.length_map] at hlength
      obtain ⟨howners', hflags'⟩ := ih (l.performed _) fun tensor' hmem => by
        rw [hlength]
        exact h tensor' (List.mem_cons_of_mem _ hmem)
      exact ⟨howners'.trans howners, hflags'.trans (by rw [hflags, List.foldl_cons])⟩

theorem Ledger.disposedOwners (l : Ledger count s) (kind : OwnerClass) (objects : List Nat)
    (h : ∀ object ∈ objects, object < (s.owners kind).length) :
    (runIsolate s (objects.map (.dispose kind))).host.tensors = s.host.tensors ∧
    (∀ kind', kind' ≠ kind →
      (runIsolate s (objects.map (.dispose kind))).owners kind' = s.owners kind') ∧
    ((runIsolate s (objects.map (.dispose kind))).owners kind).map (·.disposed) =
      objects.foldl (fun flags object => flags.set object true)
        ((s.owners kind).map (·.disposed)) := by
  induction objects generalizing s with
  | nil => exact ⟨rfl, fun _ _ => rfl, rfl⟩
  | cons object objects ih =>
      obtain ⟨s', -, rfl, htensors, owner, hdisposed, howners⟩ :=
        l.disposedOwner kind (h object List.mem_cons_self)
      have hkind := congrFun howners kind
      simp only [setOwners, if_true] at hkind
      obtain ⟨htensors', hothers', hflags'⟩ := ih (l.performed _) fun object' hmem => by
        rw [hkind, List.length_set]
        exact h object' (List.mem_cons_of_mem _ hmem)
      refine ⟨htensors'.trans htensors, fun kind' hne => ?_, ?_⟩
      · have hother : (s.performed (.dispose kind object)).owners kind' = s.owners kind' := by
          rw [howners, setOwners, if_neg hne]
        exact (hothers' kind' hne).trans hother
      · refine hflags'.trans ?_
        rw [hkind, List.map_set, hdisposed, List.foldl_cons]

omit [Scalar F] [Scalar D] [Precision F D] [FloatBits F] in
theorem Ledger.entries_nil (l : Ledger count s)
    (htensors : ∀ wrapper ∈ s.host.tensors, wrapper.disposed = true)
    (howners : ∀ kind, ∀ owner ∈ s.owners kind, owner.disposed = true) :
    s.host.native.runtime.registry.entries = [] := by
  obtain ⟨store, r⟩ := l.tensors
  have howned : owned s.host.tensors = [] := filterMap_live_eq_nil _ htensors
  have hlive : ∀ kind, liveHandles (s.owners kind) = [] :=
    fun kind => filterMap_live_eq_nil _ (howners kind)
  have hheld : ∀ type, heldBy s.owners type = [] := by
    intro type
    cases type with
    | module | optimizer | parameterOptimizer => exact hlive _
    | tensor | runtimeReserved | inferenceSession => rfl
  refine List.eq_nil_iff_forall_not_mem.mpr fun entry hmem => ?_
  have hfind := (HandleRegistry.mem_entries r.keys).mp hmem
  by_cases htype : entry.2.type = .tensor
  · have hin := r.holds.all entry.1 entry.2 hfind htype
    rw [howned] at hin
    exact List.not_mem_nil hin
  · have hin := (r.others entry.2.type htype).all entry.1 entry.2 hfind rfl
    rw [hheld] at hin
    exact List.not_mem_nil hin

omit [Scalar F] [Scalar D] [Precision F D] [FloatBits F] in
theorem all_of_foldl_set {disposed : α → Bool} {xs ys : List α}
    (h : ys.map disposed =
      (List.range xs.length).foldl (fun flags i => flags.set i true) (xs.map disposed)) :
    ∀ y ∈ ys, disposed y = true := by
  intro y hmem
  have hflag : disposed y ∈ (List.range (xs.map disposed).length).foldl
      (fun flags i => flags.set i true) (xs.map disposed) := by
    rw [List.length_map, ← h]
    exact List.mem_map_of_mem hmem
  exact eq_of_mem_foldl_set hflag

theorem runIsolate_append (s : Isolate F D) (xs ys : List (IsolateRequest D)) :
    runIsolate s (xs ++ ys) = runIsolate (runIsolate s xs) ys := List.foldl_append

theorem Ledger.disposedKinds (l : Ledger count s) {kinds : List OwnerClass} (hkinds : kinds.Nodup)
    (size : OwnerClass → Nat) (hsize : ∀ kind ∈ kinds, size kind = (s.owners kind).length)
    {s' : Isolate F D} (hrun : runIsolate s (kinds.flatMap fun kind =>
      (List.range (size kind)).map (.dispose kind)) = s') :
    s'.host.tensors = s.host.tensors ∧
    (∀ kind, kind ∉ kinds → s'.owners kind = s.owners kind) ∧
    ∀ kind ∈ kinds, ∀ owner ∈ s'.owners kind, owner.disposed = true := by
  induction kinds generalizing s with
  | nil =>
      subst hrun
      exact ⟨rfl, fun _ _ => rfl, fun kind hmem => absurd hmem List.not_mem_nil⟩
  | cons kind kinds ih =>
      obtain ⟨hnotin, hnodup⟩ := List.nodup_cons.mp hkinds
      rw [List.flatMap_cons, runIsolate_append] at hrun
      obtain ⟨ht, ho, hflags⟩ := l.disposedOwners kind (List.range (size kind))
        fun object hmem => by
          rw [← hsize kind List.mem_cons_self]
          exact List.mem_range.mp hmem
      have l₁ := l.run ((List.range (size kind)).map (.dispose kind))
      have hother : ∀ kind' ∈ kinds, kind' ≠ kind := fun kind' hmem heq => hnotin (heq ▸ hmem)
      obtain ⟨ht', ho', hgone⟩ := ih l₁ hnodup (fun kind' hmem => by
        rw [ho kind' (hother kind' hmem)]
        exact hsize kind' (List.mem_cons_of_mem _ hmem)) hrun
      refine ⟨ht'.trans ht, fun kind' hmem => ?_, fun kind' hmem => ?_⟩
      · have hne : kind' ≠ kind := fun heq => hmem (heq ▸ List.mem_cons_self)
        exact (ho' kind' fun htail => hmem (List.mem_cons_of_mem _ htail)).trans (ho kind' hne)
      · rcases List.mem_cons.mp hmem with rfl | hmem
        · rw [hsize kind' List.mem_cons_self] at hflags ho'
          rw [ho' kind' hnotin]
          exact all_of_foldl_set hflags
        · exact hgone kind' hmem

/-- Disposing of every object gives back every handle. -/
theorem Ledger.disposals (l : Ledger count s) :
    (runIsolate s s.disposals).host.native.runtime.registry.entries = [] := by
  obtain ⟨ho, hflags⟩ := l.disposedTensors (List.range s.host.tensors.length)
    fun tensor hmem => List.mem_range.mp hmem
  have l₁ := l.run ((List.range s.host.tensors.length).map fun tensor =>
    .tensor (.dispose tensor))
  have l₂ := l.run s.disposals
  have hkinds : [OwnerClass.module, .optimizer, .parameterOptimizer].Nodup := by decide
  obtain ⟨ht, -, hgone⟩ := l₁.disposedKinds hkinds (fun kind => (s.owners kind).length)
    (fun kind _ => by rw [ho]) (runIsolate_append s _ _).symm
  change (runIsolate s s.disposals).host.tensors = _ at ht
  refine l₂.entries_nil ?_ fun kind => hgone kind (by cases kind <;> decide)
  rw [ht]
  exact all_of_foldl_set hflags

end Runs

/-- Whatever allocations fail and whatever a program does, each handle the library has belongs to
one object that is not disposed, and disposing of all of them leaves it none. -/
theorem isolate_balances (fails callocFails : Nat → Bool) (files : FileSystem)
    (requests : List (IsolateRequest D)) :
    Balanced (runIsolate (initialIsolate fails callocFails files : Isolate F D) requests) ∧
    (runIsolate (initialIsolate fails callocFails files : Isolate F D) (requests ++
      (runIsolate (initialIsolate fails callocFails files : Isolate F D)
        requests).disposals)).host.native.runtime.registry.entries = [] := by
  have l := (ledger_initial (F := F) (D := D) fails callocFails files).run requests
  exact ⟨l.balanced, by rw [runIsolate_append]; exact l.disposals⟩

end Tensora.Dart
