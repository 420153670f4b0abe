import Tensora.Dart.Isolate
import Tensora.Dart.TensorRuns

/-! Who owns which native handle, through every program of an isolate. -/
namespace Tensora.Dart
open ProgramLogic Training
open Adoption (Handle Thrown DartDevice Host HostM Wrapper onNative attempt)
open Api (Views Gave Idle exec)

variable {F D α β : Type}

structure Mutated (s s' : Runtime F D) : Prop where
  entries : s'.registry.entries = s.registry.entries
  ok : s'.Ok
  evolves : Evolves s.heap s'.heap

theorem Mutated.refl {s : Runtime F D} (ok : s.Ok) : Mutated s s :=
  ⟨rfl, ok, Evolves.refl ok.wellFormed⟩

theorem Mutated.trans {s s' s'' : Runtime F D} (h : Mutated s s') (h' : Mutated s' s'') :
    Mutated s s'' :=
  ⟨h'.entries.trans h.entries, h'.ok, h.evolves.trans h'.evolves⟩

theorem mutated_of_idle {s s' : Runtime F D} (h : Idle s s') : Mutated s s' :=
  ⟨h.entries, h.preserves.ok, h.preserves.evolves⟩

theorem Mutated.views {s s' : Runtime F D} (h : Mutated s s') (ok : s.Ok) {handle : Handle}
    {value : List Nat × List F} (hviews : Views s handle value) :
    ∃ value', value'.1 = value.1 ∧ Views s' handle value' := by
  obtain ⟨id, hobject, rfl⟩ := hviews
  refine ⟨_, ?_, id, ?_, rfl⟩
  · exact h.evolves.dims_eq (ok.visible hobject).1
  · rw [Runtime.objectOf, HandleRegistry.find_congr h.entries]
    exact hobject

theorem Mutated.represented {s s' : Runtime F D} (h : Mutated s s') (ok : s.Ok)
    {tensors : List Wrapper} {store : Store F}
    (hobjects : List.Forall₂ (Represented s) tensors store) :
    ∃ store' : Store F, store'.length = store.length ∧
      List.Forall₂ (Represented s') tensors store' := by
  induction hobjects with
  | nil => exact ⟨[], rfl, .nil⟩
  | @cons wrapper value tensors store hfirst _ ih =>
      obtain ⟨rest, hlen, hrest⟩ := ih
      cases value with
      | none => exact ⟨none :: rest, congrArg Nat.succ hlen, .cons hfirst hrest⟩
      | some value =>
          obtain ⟨howns, hviews, hshape, hdtype, hdevice⟩ := hfirst
          obtain ⟨value', hdims, hviews'⟩ := h.views ok hviews
          refine ⟨some value' :: rest, congrArg Nat.succ hlen, .cons ?_ hrest⟩
          exact ⟨howns, hviews', by rw [hshape, hdims], hdtype, hdevice⟩

section Frame
variable {held held' : HandleType → List Handle} {store : Store F} {loose : List Handle}
  {s : Host (Process F D)}

theorem Represents.mutated (r : Represents held store loose s) {native : Process F D}
    (h : Mutated s.native.runtime native.runtime) :
    ∃ store' : Store F, store'.length = store.length ∧
      Represents held store' loose { s with native := native } := by
  obtain ⟨store', hlen, hobjects⟩ := h.represented r.ok r.objects
  refine ⟨store', hlen, h.ok, hobjects, r.holds.of_entries h.entries, ?_, ?_⟩
  · exact fun type hne => (r.others type hne).of_entries h.entries
  · rw [h.entries]
    exact r.keys

theorem Represents.held_perm (r : Represents held store loose s)
    (h : ∀ type, (held type).Perm (held' type)) : Represents held' store loose s where
  ok := r.ok
  objects := r.objects
  holds := r.holds
  others := fun type hne => (r.others type hne).perm (h type)
  keys := r.keys

theorem Represents.issued_other (r : Represents held store loose s) {type : HandleType}
    {handle : Handle} {native : Process F D} (hne : type ≠ .tensor)
    (h : HandleRegistry.Issued type handle s.native.runtime.registry native.runtime.registry)
    (p : Preserves s.native.runtime native.runtime) :
    Represents (Function.update held type (handle :: held type)) store loose
      { s with native := native } where
  ok := p.ok
  objects := r.objects_of p fun handle' hmem => by
    obtain ⟨object, hfind⟩ := r.holds.once handle' (List.mem_append_right _ hmem)
    exact (h.find handle').2 (h.ne_of_find hfind)
  holds := r.holds.issued_other h hne
  others := by
    intro type' hne'
    by_cases htype : type' = type
    · subst htype
      rw [Function.update_self]
      exact (r.others type' hne').issued h
    · rw [Function.update_of_ne htype]
      exact (r.others type' hne').issued_other h (Ne.symm htype)
  keys := h.keys r.keys

theorem Represents.released_other (r : Represents held store loose s) {type : HandleType}
    {handle : Handle} {rest : List Handle} {native : Process F D} (hne : type ≠ .tensor)
    (hheld : held type = handle :: rest)
    (herase : native.runtime.registry = s.native.runtime.registry.erase handle)
    (hholds : native.runtime.registry.Holds type rest)
    (p : Preserves s.native.runtime native.runtime) :
    Represents (Function.update held type rest) store loose { s with native := native } := by
  obtain ⟨object, hfind⟩ := (hheld ▸ r.others type hne).once handle List.mem_cons_self
  refine ⟨p.ok, r.objects_of p fun handle' hmem => ?_, ?_, fun type' hne' => ?_, ?_⟩
  · obtain ⟨object', hfind'⟩ := r.holds.once handle' (List.mem_append_right _ hmem)
    rw [herase, HandleRegistry.find_erase, if_neg]
    intro heq
    rw [heq, hfind] at hfind'
    cases hfind'
    exact hne rfl
  · exact herase ▸ r.holds.erase_other hfind hne
  · by_cases htype : type' = type
    · subst htype
      rw [Function.update_self]
      exact hholds
    · rw [Function.update_of_ne htype]
      exact herase ▸ (r.others type' hne').erase_other hfind (Ne.symm htype)
  · rw [herase]
    exact r.keys.sublist (HandleRegistry.keys_erase _ _)

end Frame

section Library
variable {p : Process F D}

def Quiet (x : DartM F D α) : Prop :=
  ∀ p : Process F D, p.runtime.Ok → wp x (fun _ p' => Mutated p.runtime p'.runtime)
    (fun _ p' => Mutated p.runtime p'.runtime) p

theorem quiet_bind {x : DartM F D α} {f : α → DartM F D β} (hx : Quiet x)
    (hf : ∀ a, Quiet (f a)) : Quiet (x >>= f) := by
  intro p ok
  refine wp_seq (hx p ok) (fun _ _ h => h) fun a p₁ h => ?_
  exact wp_mono (hf a p₁ h.ok) (fun _ _ h' => h.trans h') fun _ _ h' => h.trans h'

theorem quiet_pure (a : α) : Quiet (pure a : DartM F D α) :=
  fun _ ok => Mutated.refl ok

theorem quiet_throw (thrown : Thrown) : Quiet (throw thrown : DartM F D α) :=
  fun _ ok => Mutated.refl ok

theorem quiet_ite {condition : Prop} [Decidable condition] {x y : DartM F D α} (hx : Quiet x)
    (hy : Quiet y) : Quiet (if condition then x else y) := by
  split
  · exact hx
  · exact hy

theorem quiet_calloc : Quiet (calloc : DartM F D Unit) := by
  intro p ok
  refine wp_calloc (fun p' hp' => ?_) fun _ p' hp' => ?_
  · rw [hp']
    exact Mutated.refl ok
  · rw [hp']
    exact Mutated.refl ok

variable [Scalar F] [Scalar D] [Precision F D] [FloatBits F]

theorem quiet_check (operation abi : String) {call : Api.Call F D} (hissues : call.issues = none)
    (hcounts : call.counts = false) : Quiet (check operation abi (exec call)) := by
  intro p ok
  have hmoves := Api.after_moves ok call
  have hevolves := Api.Call.Moves.evolves ok hmoves.2
  have hentries := Api.exec_leavesHandles hissues hcounts p.runtime
  have hrun : wp (exec call) (fun _ s' => Mutated p.runtime s') (fun _ s' => Mutated p.runtime s')
      p.runtime := by
    unfold Api.after at hmoves hevolves
    unfold wp at hentries ⊢
    cases hx : exec call p.runtime with
    | ok reply s' =>
        rw [hx] at hmoves hevolves hentries
        exact ⟨hentries, hmoves.1, hevolves⟩
    | error failure s' =>
        rw [hx] at hmoves hevolves hentries
        exact ⟨hentries, hmoves.1, hevolves⟩
  exact wp_check operation abi (wp_mono hrun (fun _ _ h => h) fun _ _ h _ => h)

theorem quiet_checkCall (operation abi : String) {call : Api.Call F D}
    (hissues : call.issues = none) (hcounts : call.counts = false) :
    Quiet (NativeTrainingRuntime.checkCall operation abi call) :=
  quiet_bind (quiet_check operation abi hissues hcounts) fun _ => quiet_pure _

def GivesOwner (type : HandleType) (x : DartM F D Handle) : Prop :=
  ∀ p : Process F D, p.runtime.Ok → wp x
    (fun handle p' => HandleRegistry.Issued type handle p.runtime.registry p'.runtime.registry ∧
      Preserves p.runtime p'.runtime)
    (fun _ p' => Mutated p.runtime p'.runtime) p

omit [Scalar F] [Scalar D] [Precision F D] [FloatBits F] in
theorem givesOwner_throw {type : HandleType} (thrown : Thrown) {f : α → DartM F D Handle} :
    GivesOwner type (throw thrown >>= f) :=
  fun _ ok => Mutated.refl ok

omit [Scalar F] [Scalar D] [Precision F D] [FloatBits F] in
theorem givesOwner_ite {type : HandleType} {condition : Prop} [Decidable condition]
    {x y : DartM F D Handle} (hx : GivesOwner type x) (hy : GivesOwner type y) :
    GivesOwner type (if condition then x else y) := by
  split
  · exact hx
  · exact hy

omit [Scalar F] [Scalar D] [Precision F D] [FloatBits F] in
theorem givesOwner_calloc {type : HandleType} {x : DartM F D Handle} (h : GivesOwner type x) :
    GivesOwner type (do calloc; x) := by
  intro p ok
  rw [wp_bind]
  refine wp_calloc (fun p' hp' => ?_) fun _ p' hp' => ?_
  · rw [← hp']
    exact h p' (by rw [hp']; exact ok)
  · rw [hp']
    exact Mutated.refl ok

theorem givesOwner_newObjectHandle (operation abi : String) {call : Api.Call F D}
    {type : HandleType} (hissues : call.issues = some type)
    (htargets : ∀ s : Runtime F D, call.targets s = []) :
    GivesOwner type (NativeTrainingRuntime.newObjectHandle operation abi call) := by
  refine givesOwner_calloc fun p ok => ?_
  have hrun := wp_and (Api.exec_issues hissues p.runtime)
    (Api.preserves_exec ok (htargets p.runtime))
  rw [wp_bind]
  refine wp_check operation abi (wp_mono hrun ?_ fun _ _ h _ =>
    mutated_of_idle ⟨h.1, h.2⟩)
  intro reply s' h
  obtain ⟨⟨handle, rfl, hissued⟩, hpreserves⟩ := h
  rw [outputValue, if_neg hissued.nonzero]
  exact ⟨hissued, hpreserves⟩

namespace NativeTrainingRuntime

theorem givesOwner_createLinear (inFeatures outFeatures : Int64) (bias : Bool) :
    GivesOwner .module (createLinear inFeatures outFeatures bias : DartM F D Handle) := by
  unfold createLinear
  dsimp only
  refine givesOwner_ite (givesOwner_throw _) (givesOwner_ite (givesOwner_throw _) ?_)
  exact givesOwner_newObjectHandle _ _ rfl fun _ => rfl

theorem givesOwner_createSgd (module : Handle) (hyper : Hyperparameters D) :
    GivesOwner .optimizer (createSgd module hyper : DartM F D Handle) :=
  givesOwner_newObjectHandle _ _ rfl fun _ => rfl

theorem givesOwner_createAdam (module : Handle) (hyper : Hyperparameters D) (decoupled : Bool) :
    GivesOwner .optimizer (createAdam module hyper decoupled : DartM F D Handle) :=
  givesOwner_ite (givesOwner_newObjectHandle _ _ rfl fun _ => rfl)
    (givesOwner_newObjectHandle _ _ rfl fun _ => rfl)

theorem givesOwner_withTensorHandles (handles : List Handle) (operation abi : String)
    (kind : OptimizerKind) (hyper : Hyperparameters D) :
    GivesOwner .parameterOptimizer
      (withTensorHandles handles operation abi kind hyper : DartM F D Handle) := by
  unfold withTensorHandles
  dsimp only
  refine givesOwner_ite (givesOwner_throw _) (givesOwner_calloc ?_)
  exact givesOwner_newObjectHandle _ _ rfl fun _ => rfl

theorem givesOwner_createParameterAdam (handles : List Handle) (hyper : Hyperparameters D)
    (decoupled : Bool) : GivesOwner .parameterOptimizer
      (createParameterAdam handles hyper decoupled : DartM F D Handle) :=
  givesOwner_ite (givesOwner_withTensorHandles _ _ _ _ _)
    (givesOwner_withTensorHandles _ _ _ _ _)

theorem quiet_withPath (path operation abi : String) {call : Api.Call F D}
    (hissues : call.issues = none) (hcounts : call.counts = false) :
    Quiet (withPath path operation abi call) := by
  unfold withPath
  dsimp only
  refine quiet_ite (quiet_bind (quiet_throw _) fun _ => ?_) ?_
  · exact quiet_bind quiet_calloc fun _ => quiet_checkCall _ _ hissues hcounts
  · exact quiet_bind quiet_calloc fun _ => quiet_checkCall _ _ hissues hcounts

theorem quiet_moduleCount (operation abi : String) {call : Api.Call F D}
    (hissues : call.issues = none) (hcounts : call.counts = false) :
    Quiet (moduleCount operation abi call) :=
  quiet_bind quiet_calloc fun _ => quiet_bind (quiet_check _ _ hissues hcounts) fun _ =>
    quiet_pure _

theorem quiet_tensorIdentity (tensor : Handle) :
    Quiet (tensorIdentity tensor : DartM F D Nat) := by
  refine quiet_bind quiet_calloc fun _ => quiet_bind (quiet_check _ _ rfl rfl) fun reply => ?_
  exact quiet_ite (quiet_bind (quiet_throw _) fun _ => quiet_pure _) (quiet_pure _)

theorem quiet_manualSeed (seed : Int64) : Quiet (manualSeed seed : DartM F D Unit) := by
  unfold manualSeed
  dsimp only
  exact quiet_ite (quiet_bind (quiet_throw _) fun _ => quiet_checkCall _ _ rfl rfl)
    (quiet_checkCall _ _ rfl rfl)

theorem quiet_assignMany (targets sources : List Handle) :
    Quiet (assignMany targets sources : DartM F D Unit) := by
  have hcall : Quiet (do
      calloc
      calloc
      checkCall "tensor.assignMany" "tensor_assign_many"
        (.tensorAssignMany (some targets) (some sources) targets.length) : DartM F D Unit) :=
    quiet_bind quiet_calloc fun _ => quiet_bind quiet_calloc fun _ => quiet_checkCall _ _ rfl rfl
  unfold assignMany
  dsimp only
  refine quiet_ite (quiet_bind (quiet_throw _) fun _ => ?_) ?_
  · exact quiet_ite (quiet_pure _) hcall
  · exact quiet_ite (quiet_pure _) hcall

end NativeTrainingRuntime

theorem makesTensor_newObjectHandle {p : Process F D} (ok : p.runtime.Ok)
    (operation abi : String) {call : Api.Call F D} (hissues : call.issues = some .tensor)
    (htargets : ∀ s : Runtime F D, call.targets s = []) :
    MakesTensor (NativeTrainingRuntime.newObjectHandle operation abi call) (fun _ => True) p := by
  have hrun := wp_and (Api.exec_issues hissues p.runtime)
    (Api.preserves_exec ok (htargets p.runtime))
  refine makesTensor_newHandleOr _ _ _ ok (wp_mono hrun ?_ fun _ _ h => ⟨h.1, h.2⟩)
  intro reply s' h
  obtain ⟨⟨handle, hreply, hissued⟩, hpreserves⟩ := h
  obtain ⟨object, hfind⟩ := (hissued.find handle).1 rfl
  refine ⟨handle, hreply, hissued, hpreserves, _, ⟨object, ?_, rfl⟩, trivial⟩
  rw [Runtime.objectOf, if_neg hissued.nonzero, hfind, Option.bind_some, if_pos rfl]

end Library

section Tensors
variable {held : HandleType → List Handle}

/-- The tensor objects, of which there are at least `count`, own what the library has of tensors,
and it has those `held` of the other types. -/
def Kept (held : HandleType → List Handle) (count : Nat) (s : Host (Process F D)) : Prop :=
  ∃ store : Store F, count ≤ store.length ∧ Represents held store [] s

def KeepsTensors (x : TensorM F D α) : Prop :=
  ∀ held count s, Kept held count s → wp x (fun _ => Kept held count) (fun _ => Kept held count) s

theorem keepsTensors_bind {x : TensorM F D α} {f : α → TensorM F D β} (hx : KeepsTensors x)
    (hf : ∀ a, KeepsTensors (f a)) : KeepsTensors (x >>= f) :=
  fun held count s h => wp_seq (hx held count s h) (fun _ _ h' => h') fun a s₁ h₁ =>
    hf a held count s₁ h₁

theorem keepsTensors_pure (a : α) : KeepsTensors (pure a : TensorM F D α) := fun _ _ _ h => h

theorem keepsTensors_quiet {x : DartM F D α} (hx : Quiet x) :
    KeepsTensors (onNative x : TensorM F D α) := by
  intro held count s h
  obtain ⟨store, hcount, r⟩ := h
  have hmutated : ∀ native : Process F D, Mutated s.native.runtime native.runtime →
      Kept held count { s with native := native } := by
    intro native hnative
    obtain ⟨store', hlen, r'⟩ := r.mutated hnative
    exact ⟨store', hlen ▸ hcount, r'⟩
  rw [wp_onNative_iff]
  exact wp_mono (hx s.native r.ok) (fun _ _ h' => hmutated _ h') fun _ _ h' => hmutated _ h'

theorem kept_snoc {count : Nat} {store : Store F} {value : List Nat × List F}
    {s : Host (Process F D)} (hcount : count ≤ store.length)
    (r : Represents held (store ++ [some value]) [] s) : Kept held count s := by
  refine ⟨_, ?_, r⟩
  rw [List.length_append]
  exact hcount.trans (Nat.le_add_right _ _)

variable [Scalar F] [Scalar D] [Precision F D] [FloatBits F]

theorem keepsTensors_make {x : DartM F D Handle} {P : List Nat × List F → Prop}
    (hx : ∀ p : Process F D, p.runtime.Ok → MakesTensor x P p) :
    KeepsTensors (do runtime.adopt (← onNative x)) := by
  intro held count s h
  obtain ⟨store, hcount, r⟩ := h
  refine wp_mono (r.wp_makeAndAdopt (hx s.native r.ok)) ?_ fun _ _ r' => ⟨store, hcount, r'⟩
  intro tensor s' h
  obtain ⟨value, -, -, r'⟩ := h
  exact kept_snoc hcount r'

omit [Scalar F] [Scalar D] [Precision F D] [FloatBits F] in
theorem keepsTensors_ensureLive (operation : String) (tensor : Nat) :
    KeepsTensors (DartTensor.ensureLive operation tensor : TensorM F D Wrapper) := by
  intro held count s h
  obtain ⟨store, hcount, r⟩ := h
  refine wp_mono (r.wp_ensureLive operation tensor) ?_ ?_
  · exact fun _ _ h => ⟨store, hcount, h.1 ▸ r⟩
  · exact fun _ _ h => ⟨store, hcount, h ▸ r⟩

omit [Scalar F] [Scalar D] [Precision F D] [FloatBits F] in
theorem keepsTensors_nativeHandle (tensor : Nat) :
    KeepsTensors (DartTensor.nativeHandle tensor : TensorM F D Handle) :=
  keepsTensors_bind (keepsTensors_ensureLive _ tensor) fun _ => keepsTensors_pure _

theorem keepsTensors_perform (request : Request D) :
    KeepsTensors (perform request : TensorM F D (Answer D)) := by
  intro held count s h
  obtain ⟨store, hcount, r⟩ := h
  refine wp_mono (r.wp_perform request) ?_ fun _ _ h => ⟨store, hcount, h.1⟩
  intro answer s' h
  obtain ⟨store', hallowed, r'⟩ := h
  exact ⟨store', hcount.trans hallowed.length_le, r'⟩

theorem keepsTensors_dispose (tensor : Nat) :
    KeepsTensors (DartTensor.dispose tensor : TensorM F D Unit) := by
  intro held count s h
  obtain ⟨store, hcount, r⟩ := h
  by_cases htensor : tensor < store.length
  · refine wp_mono (r.wp_dispose htensor) ?_ fun _ _ h => h.elim
    exact fun _ _ r' => ⟨_, by rwa [List.length_set], r'⟩
  · exact wp_mono (r.wp_dispose_absent htensor) (fun _ _ h => h.elim)
      fun _ _ r' => ⟨store, hcount, r'⟩

theorem keepsTensors_finalize (tensor : Nat) :
    KeepsTensors (DartTensor.finalize tensor : TensorM F D Unit) := by
  intro held count s h
  obtain ⟨store, hcount, r⟩ := h
  unfold DartTensor.finalize
  rw [wp_bind, wp_get]
  cases hget : s.tensors[tensor]? with
  | none => exact ⟨store, hcount, r⟩
  | some wrapper =>
      obtain ⟨value, hstore, hobject⟩ := r.object hget
      cases value with
      | none =>
          have hgone : wrapper.Gone := hobject
          simp only [hgone.detached, Bool.false_eq_true, if_false]
          exact ⟨store, hcount, r⟩
      | some value =>
          have hstands : Stands s.native.runtime wrapper value := hobject
          simp only [hstands.owns.attached, if_true]
          unfold Adoption.NativeRuntime.releaseFromFinalizer
          rw [wp_bind]
          refine wp_seq ((r.detached hget hstands.owns.live).wp_callRelease _ false)
            (fun _ _ h => h.elim) fun failure s₁ h₁ => ?_
          rw [wp_pure, wp_modify, h₁.2.1]
          exact ⟨_, by rwa [List.length_set], h₁.2.2⟩

section Collections
variable {reader : Nat → DartM F D Handle}
  (hreader : ∀ (p : Process F D) index, p.runtime.Ok →
    MakesTensor (reader index) (fun _ => True) p)
include hreader

/-- A round of `collectModuleTensors` makes one tensor object, or leaves nothing. -/
theorem wp_collected {store : Store F} {s : Host (Process F D)} (r : Represents held store [] s)
    (index : Nat) :
    wp (do
        let handle ← Adoption.getHandle reader index
        runtime.adoptNativeHandleForRuntime handle .nativeTensorAdoptionToken)
      (fun tensor s' => tensor = store.length ∧
        ∃ value, Represents held (store ++ [some value]) [] s')
      (fun _ => Represents held store []) s := by
  unfold Adoption.getHandle
  refine wp_seq (P := fun handle s' => Represents held store [handle] s' ∧
    ∃ value, Views s'.native.runtime handle value) (R := fun _ => Represents held store []) ?_
    (fun _ _ h => h) fun handle s₁ h₁ => ?_
  · refine wp_seq (r.wp_onNative_make (hreader s.native index r.ok)) (fun _ _ h => h)
      fun handle s₁ h₁ => ?_
    obtain ⟨r₁, value, hviews, -⟩ := h₁
    exact ⟨r₁.of_eq rfl rfl, value, hviews⟩
  · obtain ⟨r₁, value, hviews⟩ := h₁
    exact wp_mono (r₁.wp_adopt hviews) (fun _ _ h => ⟨h.1, value, h.2⟩) fun _ _ h => h

def Gathered (held : HandleType → List Handle) (count : Nat) (tensors : List Nat)
    (s : Host (Process F D)) : Prop :=
  ∃ store : Store F, count ≤ store.length ∧ (∀ tensor ∈ tensors, tensor < store.length) ∧
    Represents held store [] s

theorem wp_collectHandles_kept {count : Nat} (rounds : Nat) {index : Nat} {tensors : List Nat}
    {s : Host (Process F D)} (h : Gathered held count tensors s) :
    wp (runtime.collectHandles reader rounds index tensors)
      (fun outcome s' => Gathered held count outcome.1 s') (fun _ _ => False) s := by
  induction rounds generalizing index tensors s with
  | zero => exact h
  | succ rounds ih =>
      obtain ⟨store, hcount, htensors, r⟩ := h
      unfold Adoption.NativeRuntime.collectHandles
      refine wp_seq (Adoption.wp_attempt (wp_collected hreader r index)) (fun _ _ h => h)
        fun attempted s₁ h₁ => ?_
      cases attempted with
      | error thrown => exact ⟨store, hcount, htensors, h₁⟩
      | ok tensor =>
          obtain ⟨rfl, value, r₁⟩ := h₁
          refine ih ⟨_, ?_, ?_, r₁⟩
          · rw [List.length_append]
            exact hcount.trans (Nat.le_add_right _ _)
          · intro tensor hmem
            rw [List.length_append, List.length_singleton]
            rcases List.mem_append.mp hmem with hmem | hmem
            · exact (htensors tensor hmem).trans (Nat.lt_succ_self _)
            · rw [List.mem_singleton.mp hmem]
              exact Nat.lt_succ_self _

theorem keepsTensors_collectModuleTensors (rounds : Nat) :
    KeepsTensors (runtime.collectModuleTensors rounds reader) := by
  intro held count s h
  obtain ⟨store, hcount, r⟩ := h
  unfold Adoption.NativeRuntime.collectModuleTensors
  have hstart : Gathered held count [] s :=
    ⟨store, hcount, fun _ hmem => absurd hmem List.not_mem_nil, r⟩
  refine wp_seq (wp_collectHandles_kept hreader rounds hstart) (fun _ _ h => h.elim) ?_
  intro outcome s₁ h₁
  obtain ⟨tensors, failure⟩ := outcome
  have hkept : Kept held count s₁ := by
    obtain ⟨store₁, hcount₁, -, r₁⟩ := h₁
    exact ⟨store₁, hcount₁, r₁⟩
  cases failure with
  | none => exact hkept
  | some thrown =>
      refine wp_seq (P := fun _ => Kept held count) (R := fun _ => Kept held count) ?_
        (fun _ _ h => h) fun _ _ h => h
      refine wp_forM (fun _ _ s' => Kept held count s') tensors hkept ?_ fun _ h => h
      exact fun _ tensor _ s' _ h => keepsTensors_dispose tensor held count s' h

end Collections

end Tensors

def liveHandles (owners : List Owner) : List Handle :=
  owners.filterMap fun owner => if owner.disposed then none else some owner.handle

def heldBy (owners : OwnerClass → List Owner) : HandleType → List Handle
  | .module => liveHandles (owners .module)
  | .optimizer => liveHandles (owners .optimizer)
  | .parameterOptimizer => liveHandles (owners .parameterOptimizer)
  | .tensor | .runtimeReserved | .inferenceSession => []

/-- Every handle the library has belongs to one object that is not disposed, and the parameters
are of tensor objects, of which there are at least `count`. -/
structure Ledger (count : Nat) (s : Isolate F D) : Prop where
  size : count ≤ s.host.tensors.length
  tensors : ∃ store : Store F, Represents (heldBy s.owners) store [] s.host
  attached : ∀ kind, ∀ owner ∈ s.owners kind, owner.attached = !owner.disposed
  parameters : ∀ parameter ∈ s.parameters, parameter.tensor < s.host.tensors.length

section Owners

theorem heldBy_type (owners : OwnerClass → List Owner) (kind : OwnerClass) :
    heldBy owners kind.type = liveHandles (owners kind) := by
  cases kind <;> rfl

theorem type_ne_tensor (kind : OwnerClass) : kind.type ≠ .tensor := by
  cases kind <;> decide

theorem heldBy_setOwners (owners : OwnerClass → List Owner) (kind : OwnerClass)
    (objects : List Owner) : heldBy (setOwners owners kind objects) =
      Function.update (heldBy owners) kind.type (liveHandles objects) := by
  funext type
  cases kind <;> cases type <;> rfl

theorem liveHandles_snoc (owners : List Owner) (handle : Handle) :
    (handle :: liveHandles owners).Perm (liveHandles (owners ++ [⟨handle, false, true⟩])) := by
  unfold liveHandles
  rw [List.filterMap_append]
  exact (List.perm_append_singleton handle _).symm

theorem liveHandles_set {owners : List Owner} {object : Nat} {owner : Owner}
    (hget : owners[object]? = some owner) (hlive : owner.disposed = false) :
    (liveHandles owners).Perm (owner.handle :: liveHandles (owners.set object owner.detached)) := by
  induction owners generalizing object with
  | nil => cases hget
  | cons first rest ih =>
      cases object with
      | zero =>
          cases hget
          simp [liveHandles, hlive, Owner.detached]
      | succ object =>
          have hrest := ih hget
          rw [List.set_cons_succ]
          cases hfirst : first.disposed with
          | true => simpa [liveHandles, hfirst] using hrest
          | false =>
              have hcons : ∀ owners,
                  liveHandles (first :: owners) = first.handle :: liveHandles owners := by
                intro owners
                simp [liveHandles, hfirst]
              rw [hcons, hcons]
              exact (hrest.cons first.handle).trans (List.Perm.swap _ _ _)

end Owners

section Ledgers
variable {count : Nat} {s : Isolate F D}

def KeepsLedger (x : IsolateM F D α) : Prop :=
  ∀ count s, Ledger count s → wp x (fun _ => Ledger count) (fun _ => Ledger count) s

theorem keepsLedger_bind {x : IsolateM F D α} {f : α → IsolateM F D β} (hx : KeepsLedger x)
    (hf : ∀ a, KeepsLedger (f a)) : KeepsLedger (x >>= f) :=
  fun count s h => wp_seq (hx count s h) (fun _ _ h' => h') fun a s₁ h₁ => hf a count s₁ h₁

theorem keepsLedger_pure (a : α) : KeepsLedger (pure a : IsolateM F D α) := fun _ _ h => h

theorem keepsLedger_throw (thrown : Thrown) : KeepsLedger (throw thrown : IsolateM F D α) :=
  fun _ _ h => h

theorem keepsLedger_ite {condition : Prop} [Decidable condition] {x y : IsolateM F D α}
    (hx : KeepsLedger x) (hy : KeepsLedger y) : KeepsLedger (if condition then x else y) := by
  split
  · exact hx
  · exact hy

theorem keepsLedger_mapM {f : α → IsolateM F D β} (hf : ∀ a, KeepsLedger (f a)) (xs : List α) :
    KeepsLedger (xs.mapM f) := by
  induction xs with
  | nil => exact keepsLedger_pure _
  | cons first rest ih =>
      rw [List.mapM_cons]
      exact keepsLedger_bind (hf first) fun _ => keepsLedger_bind ih fun _ => keepsLedger_pure _

theorem wp_onHost {x : TensorM F D α} {Q : α → Isolate F D → Prop}
    {E : Thrown → Isolate F D → Prop} :
    wp (onHost x) Q E s ↔ wp x (fun a host => Q a { s with host := host })
      (fun thrown host => E thrown { s with host := host }) s.host := by
  unfold wp onHost
  cases x s.host <;> rfl

theorem onHost_bind (x : TensorM F D α) (f : α → TensorM F D β) :
    (do onHost (f (← onHost x)) : IsolateM F D β) = onHost (x >>= f) := by
  funext s
  have hleft : (do onHost (f (← onHost x)) : IsolateM F D β) s =
      EStateM.bind (onHost x) (fun a => onHost (f a)) s := rfl
  have hright : (x >>= f) s.host = EStateM.bind x f s.host := rfl
  rw [hleft]
  unfold EStateM.bind onHost
  rw [hright]
  unfold EStateM.bind
  cases x s.host <;> rfl

theorem Ledger.of_kept (l : Ledger count s) {host : Host (Process F D)}
    (h : Kept (heldBy s.owners) s.host.tensors.length host) :
    Ledger count { s with host := host } := by
  obtain ⟨store, hcount, r⟩ := h
  have hlength : s.host.tensors.length ≤ host.tensors.length := by
    rw [r.objects.length_eq]
    exact hcount
  exact ⟨l.size.trans hlength, ⟨store, r⟩, l.attached,
    fun parameter hmem => (l.parameters parameter hmem).trans_le hlength⟩

theorem Ledger.kept (l : Ledger count s) : Kept (heldBy s.owners) s.host.tensors.length s.host := by
  obtain ⟨store, r⟩ := l.tensors
  exact ⟨store, r.objects.length_eq.le, r⟩

theorem keepsLedger_onHost {x : TensorM F D α} (hx : KeepsTensors x) :
    KeepsLedger (onHost x) := by
  intro count s l
  rw [wp_onHost]
  exact wp_mono (hx _ _ _ l.kept) (fun _ _ h => l.of_kept h) fun _ _ h => l.of_kept h

theorem keepsLedger_quiet {x : DartM F D α} (hx : Quiet x) : KeepsLedger (onLibrary x) :=
  keepsLedger_onHost (keepsTensors_quiet hx)

end Ledgers

end Tensora.Dart
