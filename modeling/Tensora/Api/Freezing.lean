import Tensora.Api.OptimizerTables
import Tensora.Api.Sample

/-! Freezing. A tensor whose flag is off holds no gradient, so no step reaches it; what was
recorded while the flag was on does not bring a gradient back. -/
namespace Tensora
open ProgramLogic

variable {F D : Type}

/-- Only a leaf that requires grad holds a gradient. -/
theorem Heap.Settled.trainable {h : Heap F} (z : h.Settled) (wf : WellFormed h) {id : TensorId}
    (hg : h.graded id = true) : h.requiresGrad id = true ∧ h.isLeaf id = true := by
  have hsome : h.gradient id ≠ none := Option.isSome_iff_ne_none.mp hg
  refine ⟨by by_contra hoff; exact hsome (z id (by simpa using hoff)), ?_⟩
  cases hm : h.autogradMeta id with
  | none => exact absurd (by rw [Heap.gradient, hm]; rfl) hsome
  | some m =>
      have hok := wf.recorded id m hm
      unfold MetaOk at hok
      cases hn : m.gradFn with
      | none => rw [hn] at hok; rw [Heap.isLeaf, hm]; exact hok
      | some node =>
          rw [hn] at hok
          exact absurd (by rw [Heap.gradient, hm]; exact hok.2.2.1) hsome

namespace Training
variable [Scalar F] [Scalar D] [Precision F D] {h : Heap F} {kind : OptimizerKind}
  {hyper : Hyperparameters D} {parameters : List TensorId}

theorem count_stepParameter {state : Heap F × Moments F} (g : Stepping h kind parameters state)
    (u : Updatable h parameters) {entry : TensorId × Nat}
    (hp : parameters[entry.2]? = some entry.1) {storage : StorageId}
    (hne : h.graded entry.1 = true → h.storageOf entry.1 ≠ some storage) :
    (stepParameter kind hyper state entry).1.mutations.count storage =
      state.1.mutations.count storage := by
  have e := g.touches.unrecorded.evolves
  have hid := (u _ (List.mem_of_getElem? hp)).1
  have hv := e.visible _ hid
  have hgraded : h.graded entry.1 = (state.1.gradient entry.1).isSome := by
    rw [g.gradients, Heap.graded]
  unfold stepParameter
  cases hg : state.1.gradient entry.1 with
  | none => rfl
  | some grad =>
      rw [hg] at hgraded
      refine (Touches.updated (T := fun s => h.storageOf entry.1 = some s) e.wellFormed hv.1
        (length_updatedArrays.trans (hv.length e.wellFormed)) fun s hs => ?_).writes storage
          (hne hgraded)
      rw [← e.storageOf hid.1, hs]

theorem count_foldl {moments : Moments F} (wf : WellFormed h) (u : Updatable h parameters)
    (m : moments.Fits h kind parameters) {storage : StorageId}
    (hne : ∀ q ∈ parameters, h.graded q = true → h.storageOf q ≠ some storage)
    {done rest : List (TensorId × Nat)} (hsplit : parameters.zipIdx = done ++ rest) :
    (done.foldl (stepParameter kind hyper) (h, moments.nextStep)).1.mutations.count storage =
        h.mutations.count storage ∧
      Stepping h kind parameters
        (done.foldl (stepParameter kind hyper) (h, moments.nextStep)) := by
  induction done using List.reverseRecOn generalizing rest with
  | nil => exact ⟨rfl, Stepping.start wf m⟩
  | append_singleton done entry ih =>
      have hearlier : parameters.zipIdx = done ++ entry :: rest := by simpa using hsplit
      obtain ⟨hcount, g⟩ := ih hearlier
      have hp : parameters[entry.2]? = some entry.1 :=
        List.mem_zipIdx_iff_getElem?.mp (by rw [hsplit]; simp)
      rw [List.foldl_append]
      exact ⟨(count_stepParameter g u hp (hne entry.1 (List.mem_of_getElem? hp))).trans hcount,
        g.next u hp⟩

end Training

namespace Api
open Training
variable {s : Runtime F D} {p : TensorId}

/-- The calls that write what they are told to, whatever the flags. -/
def Call.assigns : Call F D → Bool
  | .tensorAssignMany .. | .moduleLoad .. => true
  | _ => false

/-- No tensor but `p` that a step of an optimizer in use reaches is a leaf that requires grad over
the storage of `p`. -/
def Unaliased (s : Runtime F D) (p : TensorId) : Prop :=
  ∀ entry ∈ s.registry.entries,
    ∀ call ∈ [Call.optimizerStep entry.1, .parameterOptimizerStep entry.1],
    ∀ q ∈ ((call.stepped s).map (trainedAt s)).getD [], q ≠ p → s.heap.requiresGrad q = true →
      s.heap.isLeaf q = true → s.heap.storageOf q ≠ s.heap.storageOf p

instance (s : Runtime F D) (p : TensorId) : Decidable (Unaliased s p) :=
  inferInstanceAs (Decidable (∀ entry ∈ s.registry.entries,
    ∀ call ∈ [Call.optimizerStep entry.1, .parameterOptimizerStep entry.1],
    ∀ q ∈ ((call.stepped s).map (trainedAt s)).getD [], q ≠ p → s.heap.requiresGrad q = true →
      s.heap.isLeaf q = true → s.heap.storageOf q ≠ s.heap.storageOf p))

theorem entry_of_objectOf {handle object : Nat} {type : HandleType}
    (h : s.objectOf handle type = some object) :
    ∃ entry ∈ s.registry.entries, entry.1 = handle := by
  unfold Runtime.objectOf at h
  split at h
  · cases h
  · obtain ⟨entry, hfind, -⟩ := Option.bind_eq_some_iff.mp h
    obtain ⟨front, back, heq, -⟩ := List.lookup_eq_some_iff.mp hfind
    exact ⟨(handle, entry), by rw [heq]; simp, rfl⟩

theorem Unaliased.stepped (alone : Unaliased s p) (z : s.heap.Settled)
    (wf : WellFormed s.heap) (hoff : s.heap.requiresGrad p = false) {call : Call F D}
    {place : Place} (hstepped : call.stepped s = some place) {q : TensorId}
    (hq : q ∈ trainedAt s place) (hg : s.heap.graded q = true) :
    s.heap.storageOf q ≠ s.heap.storageOf p := by
  obtain ⟨hreq, hleaf⟩ := z.trainable wf hg
  have hne : q ≠ p := by
    rintro rfl
    rw [hoff] at hreq
    cases hreq
  have hmem : q ∈ ((call.stepped s).map (trainedAt s)).getD [] := by rwa [hstepped]
  have hobject : ∃ handle type object, s.objectOf handle type = some object ∧
      call ∈ [Call.optimizerStep handle, .parameterOptimizerStep handle] := by
    cases call with
    | optimizerStep handle =>
        obtain ⟨_, hat, -⟩ := Option.map_eq_some_iff.mp hstepped
        obtain ⟨object, hobject, -⟩ := Option.bind_eq_some_iff.mp hat
        exact ⟨handle, _, object, hobject, by simp⟩
    | parameterOptimizerStep handle =>
        obtain ⟨_, hat, -⟩ := Option.map_eq_some_iff.mp hstepped
        obtain ⟨object, hobject, -⟩ := Option.bind_eq_some_iff.mp hat
        exact ⟨handle, _, object, hobject, by simp⟩
    | _ => cases hstepped
  obtain ⟨handle, _, _, hobject, hcall⟩ := hobject
  obtain ⟨entry, hentry, rfl⟩ := entry_of_objectOf hobject
  exact alone entry hentry call hcall q hmem hne hreq hleaf

theorem trained_ok (ok : s.Ok) {place : Place} {held : Held F D}
    (hheld : s.heldAt place = some held) :
    Updatable s.heap (trainedAt s place) ∧
      held.moments.Fits s.heap held.kind (trainedAt s place) := by
  cases place with
  | ofModule object =>
      obtain ⟨o, ho, rfl⟩ := Option.map_eq_some_iff.mp hheld
      obtain ⟨module, hm, hfits⟩ := (ok.optimizers o (List.mem_of_getElem? ho)).bound
      have htrained : trainedAt s (.ofModule object) = module.parameters := by
        simp only [trainedAt, ho, hm, Option.bind_some, Option.map_some, Option.getD_some]
      rw [htrained]
      exact ⟨(ok.modules module (List.mem_of_getElem? hm)).updatable, hfits⟩
  | ofTensors object =>
      obtain ⟨o, ho, rfl⟩ := Option.map_eq_some_iff.mp hheld
      have htrained : trainedAt s (.ofTensors object) = o.parameters := by
        simp only [trainedAt, ho, Option.map_some, Option.getD_some]
      rw [htrained]
      have hok := ok.parameterOptimizers o (List.mem_of_getElem? ho)
      exact ⟨hok.updatable, hok.fits⟩

theorem targets_of_unstepped {call : Call F D} (hcall : call.assigns = false)
    (hstepped : call.stepped s = none) : call.targets s = [] := by
  cases call with
  | tensorAssignMany => cases hcall
  | moduleLoad => cases hcall
  | optimizerStep optimizer =>
      have hnone : s.optimizerAt optimizer = none := by simpa [Call.stepped] using hstepped
      simp only [Call.targets, hnone, Option.bind_none, Option.elim_none]
  | parameterOptimizerStep optimizer =>
      have hnone : s.parameterOptimizerAt optimizer = none := by
        simpa [Call.stepped] using hstepped
      simp only [Call.targets, hnone, Option.elim_none]
  | _ => rfl

variable [Scalar F] [Scalar D] [Precision F D] [FloatBits F]

theorem count_frozen (ok : s.Ok) (z : s.heap.Settled) (hoff : s.heap.requiresGrad p = false)
    (alone : Unaliased s p) {storage : StorageId} (hp : s.heap.storageOf p = some storage)
    {call : Call F D} (hcall : call.assigns = false) :
    (after s call).heap.mutations.count storage = s.heap.mutations.count storage := by
  cases hstepped : call.stepped s with
  | none =>
      have hmoves := (after_moves ok call).2
      unfold Call.Moves at hmoves
      split at hmoves
      · rw [hmoves.extension.mutations]
      · refine hmoves.writes storage ?_
        rintro ⟨id, hid, -⟩
        rw [targets_of_unstepped hcall hstepped] at hid
        cases hid
  | some place =>
      obtain ⟨held, hheld⟩ := heldAt_of_stepped hstepped
      obtain ⟨u, m⟩ := trained_ok ok hheld
      rcases after_stepped ok hstepped hheld with ⟨heq, -⟩ | ⟨done, rest, hsplit, hto⟩
      · rw [heq]
      · rw [hto.heap]
        exact (count_foldl ok.wellFormed u m (fun q hq hg heq =>
          alone.stepped z ok.wellFormed hoff hstepped hq hg (heq.trans hp.symm)) hsplit).1

theorem after_frozen (ok : s.Ok) (z : s.heap.Settled) (hv : s.heap.Visible p)
    (hoff : s.heap.requiresGrad p = false) (alone : Unaliased s p) {call : Call F D}
    (hcall : call.assigns = false) :
    (after s call).heap.contents p = s.heap.contents p ∧
      (after s call).heap.version p = s.heap.version p := by
  obtain ⟨ok', hmoves⟩ := after_moves ok call
  have e := Call.Moves.evolves ok hmoves
  obtain ⟨t, ht⟩ := hv.get
  have hcount := count_frozen ok z hoff alone (by rw [Heap.storageOf, ht]; rfl) hcall
  obtain ⟨m, ht'⟩ := e.tensors p t ht
  refine ⟨e.contents p t hv ht hcount, ?_⟩
  rw [ok'.versioned.version ok'.wellFormed ht', ok.versioned.version ok.wellFormed ht]
  exact congrArg (· % 2 ^ 64) hcount

theorem requiresGrad_backward (ok : s.Ok) (handle : Nat) (id : TensorId) :
    (after s (.tensorBackward handle)).heap.requiresGrad id = s.heap.requiresGrad id := by
  refine after_of_wp (.tensorBackward handle)
    (P := fun s' => s'.heap.requiresGrad id = s.heap.requiresGrad id) ?_
  refine wp_lookupObject_or handle .tensor (fun _ _ => rfl) fun object hobject => ?_
  have hv := ok.visible hobject
  refine wp_seq (P := fun _ s' => s'.heap.requiresGrad id = s.heap.requiresGrad id)
    (R := fun _ s' => s'.heap.requiresGrad id = s.heap.requiresGrad id) ?_ (fun _ _ he => he)
    fun _ _ h => (by rw [wp_pure]; exact h)
  rw [wp_onMemory]
  refine wp_seq (spec_backwardTrace ok.wellFormed hv s.memory.allocator) ?_ ?_
  · rintro e ⟨h', a⟩ ⟨-, ⟨rfl, -⟩ | ⟨-, -, hb, -⟩⟩
    · rfl
    · exact hb.requiresGrad_eq id
  · rintro _ ⟨h', a⟩ ⟨-, -, hb, -⟩
    exact hb.requiresGrad_eq id

/-- In every state of the run but the last, `p` is off and no tensor that an optimizer in use
trains shares its storage; it is off in the last one too. The calls are no assignments. -/
def StaysFrozen (p : TensorId) : Runtime F D → List (Call F D) → Prop
  | s, [] => s.heap.requiresGrad p = false
  | s, call :: calls => s.heap.requiresGrad p = false ∧ Unaliased s p ∧
      call.assigns = false ∧ StaysFrozen p (after s call) calls

theorem run_frozen (ok : s.Ok) (z : s.heap.Settled) (hv : s.heap.Visible p)
    {calls : List (Call F D)} (frozen : StaysFrozen p s calls) :
    (run s calls).heap.gradient p = none ∧
      (run s calls).heap.contents p = s.heap.contents p ∧
      (run s calls).heap.version p = s.heap.version p := by
  unfold run
  induction calls generalizing s with
  | nil => exact ⟨z p frozen, rfl, rfl⟩
  | cons call calls ih =>
      obtain ⟨hoff, alone, hcall, rest⟩ := frozen
      obtain ⟨ok', hmoves⟩ := after_moves ok call
      have e := Call.Moves.evolves ok hmoves
      obtain ⟨hcontents, hversion⟩ := after_frozen ok z hv hoff alone hcall
      obtain ⟨hgradient, hcontents', hversion'⟩ := ih ok' (e.settled z) (e.visible p hv) rest
      exact ⟨hgradient, hcontents'.trans hcontents, hversion'.trans hversion⟩

/-- Freezing takes effect at once: in every reachable state a tensor that is off holds no
gradient, `Backward` gives it none, and as long as it stays off no call but an assignment
changes its contents or version, unless a trainable tensor shares its storage. -/
theorem freezing (hs : Reachable s) :
    s.heap.Settled ∧
    (∀ handle p, s.heap.requiresGrad p = false →
      (after s (.tensorBackward handle)).heap.gradient p = none) ∧
    ∀ p calls, s.heap.Visible p → StaysFrozen p s calls →
      (run s calls).heap.gradient p = none ∧
      (run s calls).heap.contents p = s.heap.contents p ∧
      (run s calls).heap.version p = s.heap.version p := by
  have z := hs.settled
  refine ⟨z, fun handle p hoff => ?_, fun p calls hv frozen => run_frozen hs.ok z hv frozen⟩
  have z' := (Call.Moves.evolves hs.ok (after_moves hs.ok (.tensorBackward handle)).2).settled z
  exact z' p ((requiresGrad_backward hs.ok handle p).trans hoff)

def frozenLeafCalls : List (Call Word Word) :=
  [.tensorFromF32 [3] [1], .tensorWithRequiresGrad 1 true, .tensorSum 2, .tensorBackward 3,
    .createForTensors (some [2]) .sgd ⟨1, 0, 0, 0, 0, 0⟩, .tensorSetRequiresGrad 2 false]

theorem freezing_leaf :
    (sampleRun (frozenLeafCalls.take 5)).heap.graded 1 = true ∧
      StaysFrozen 1 (sampleRun frozenLeafCalls) [.tensorBackward 3, .parameterOptimizerStep 4] ∧
      (run (sampleRun frozenLeafCalls) [.tensorBackward 3,
        .parameterOptimizerStep 4]).heap.contents 1 = [3] := by
  have hreachable : Reachable (sampleRun frozenLeafCalls) := ⟨_, _, _, rfl⟩
  have hhandle : (sampleRun frozenLeafCalls).objectOf 2 .tensor = some 1 := by decide +kernel
  have hv := hreachable.ok.visible hhandle
  have frozen : StaysFrozen 1 (sampleRun frozenLeafCalls)
      [.tensorBackward 3, .parameterOptimizerStep 4] := by
    simp only [StaysFrozen]
    decide +kernel
  have hcontents : (sampleRun frozenLeafCalls).heap.contents 1 = [3] := by decide +kernel
  refine ⟨by decide +kernel, frozen, ?_⟩
  rw [((freezing hreachable).2.2 1 _ hv frozen).2.1, hcontents]

end Api
end Tensora
