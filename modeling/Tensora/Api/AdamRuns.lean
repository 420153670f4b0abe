import Tensora.Api.CreationCalls
import Tensora.Api.OptimizerCalls
import Tensora.Api.Isolation
import Tensora.Api.Sample
import Tensora.Api.StepAtomicity
import Tensora.Training.ReferenceAdam

/-! Training runs of Adam and AdamW. Every parameter follows its own recurrence as long as it
is not updated again after a step that passed it over: the optimizers count their steps, not
the updates of a parameter. -/
namespace Tensora
open ProgramLogic

variable {F D : Type}

inductive OptimizerRef where
  | ofModule (handle : Nat)
  | ofTensors (handle : Nat)

structure Optimizing (F D : Type) where
  kind : OptimizerKind
  hyper : Hyperparameters D
  parameters : List TensorId
  moments : Moments F

def Runtime.optimizing (s : Runtime F D) : OptimizerRef → Option (Optimizing F D)
  | .ofModule handle => (s.optimizerAt handle).bind fun r =>
      s.modules[r.2.module]?.map fun module =>
        ⟨r.2.kind, r.2.hyper, module.parameters, r.2.moments⟩
  | .ofTensors handle => (s.parameterOptimizerAt handle).map fun r =>
      ⟨r.2.kind, r.2.hyper, r.2.parameters, r.2.moments⟩

namespace OptimizerRef

def stepCall : OptimizerRef → Api.Call F D
  | .ofModule handle => .optimizerStep handle
  | .ofTensors handle => .parameterOptimizerStep handle

def zeroGradCall : OptimizerRef → Api.Call F D
  | .ofModule handle => .optimizerZeroGrad handle
  | .ofTensors handle => .parameterOptimizerZeroGrad handle

def steps : OptimizerRef → Api.Call F D → Bool
  | .ofModule handle, .optimizerStep optimizer => optimizer == handle
  | .ofTensors handle, .parameterOptimizerStep optimizer => optimizer == handle
  | _, _ => false

def Lasts (s : Runtime F D) : OptimizerRef → Prop
  | .ofModule _ => s.memory.allocator.fails s.memory.allocator.count = false
  | .ofTensors handle => Api.StepLasts s handle

theorem steps_iff (ref : OptimizerRef) (call : Api.Call F D) :
    ref.steps call = true ↔ call = ref.stepCall := by
  cases ref <;> cases call <;> simp [steps, stepCall]

end OptimizerRef

namespace Api
open Training

variable {s s' : Runtime F D} {ref : OptimizerRef} {o : Optimizing F D}

theorem optimizing_of_beside (hb : Beside s s s' s') (ho : s.optimizing ref = some o) :
    s'.optimizing ref = some o := by
  cases ref with
  | ofModule handle =>
      obtain ⟨r, hr, hmodule⟩ := Option.bind_eq_some_iff.mp ho
      obtain ⟨module, hm, rfl⟩ := Option.map_eq_some_iff.mp hmodule
      obtain ⟨training, hm'⟩ := hb.keeping _ _ hm
      have hr' := optimizerAt_of_keeping hr hb.handles.1 hb.left.1
      rw [Runtime.optimizing, hr', Option.bind_some, hm']
      rfl
  | ofTensors handle =>
      obtain ⟨r, hr, rfl⟩ := Option.map_eq_some_iff.mp ho
      have hr' := parameterOptimizerAt_of_keeping hr hb.handles.1 hb.left.2
      rw [Runtime.optimizing, hr', Option.map_some]

theorem optimizing_ok (ok : s.Ok) (ho : s.optimizing ref = some o) :
    Updatable s.heap o.parameters ∧ o.moments.Fits s.heap o.kind o.parameters := by
  cases ref with
  | ofModule handle =>
      obtain ⟨r, hr, hmodule⟩ := Option.bind_eq_some_iff.mp ho
      obtain ⟨module, hm, rfl⟩ := Option.map_eq_some_iff.mp hmodule
      obtain ⟨module', hm', hfits⟩ :=
        (ok.optimizers r.2 (List.mem_of_getElem? (Runtime.get_optimizerAt hr))).bound
      obtain rfl := Option.some.inj (hm.symm.trans hm')
      exact ⟨(ok.modules module (List.mem_of_getElem? hm)).updatable, hfits⟩
  | ofTensors handle =>
      obtain ⟨r, hr, rfl⟩ := Option.map_eq_some_iff.mp ho
      have hok := ok.parameterOptimizers r.2
        (List.mem_of_getElem? (Runtime.get_parameterOptimizerAt hr))
      exact ⟨hok.updatable, hok.fits⟩

theorem nodup_of_evolves {parameters : List TensorId} {h h' : Heap F} (e : Evolves h h')
    (u : Updatable h parameters) (hdistinct : (parameters.map h.storageOf).Nodup) :
    (parameters.map h'.storageOf).Nodup := by
  have hsame : parameters.map h'.storageOf = parameters.map h.storageOf :=
    List.map_congr_left fun q hq => e.storageOf (u q hq).1.1
  rw [hsame]
  exact hdistinct

/-- Once a step has passed the parameter over it is not updated any more. -/
def GapFree (received : List (Option (List F))) : Prop :=
  ∀ front back, received = front ++ none :: back → ∀ gradient ∈ back, gradient = none

theorem GapFree.tail {gradient : Option (List F)} {received : List (Option (List F))}
    (h : GapFree (gradient :: received)) : GapFree received :=
  fun front back hsplit => h (gradient :: front) back (by rw [hsplit, List.cons_append])

section Calls
variable [Scalar F] [Scalar D] [Precision F D] [FloatBits F]

theorem after_of_matched_self {call : Call F D}
    (h : Matched (Beside s s) (exec call s) (exec call s)) :
    Beside s s (after s call) (after s call) := by
  unfold after
  cases hx : exec call s <;> rw [hx] at h <;> exact h.2

theorem beside_zeroGrad (ho : s.optimizing ref = some o) :
    Beside s s (after s ref.zeroGradCall) (after s ref.zeroGradCall) := by
  apply after_of_matched_self
  cases ref with
  | ofModule handle =>
      obtain ⟨r, hr, hmodule⟩ := Option.bind_eq_some_iff.mp ho
      obtain ⟨module, hm, -⟩ := Option.map_eq_some_iff.mp hmodule
      change Matched (Beside s s) ((optimizerZeroGrad handle >>= fun _ => pure Reply.done) s)
        ((optimizerZeroGrad handle >>= fun _ => pure Reply.done) s)
      unfold optimizerZeroGrad
      rw [bind_assoc, bind_of_wp (wp_lookupOptimizer hr), bind_assoc, bind_of_wp (wp_moduleOf hm),
        bind_assoc]
      exact ((lockstep_onMemory formed_allocate).bind fun _ => lockstep_clearAll _) s s (.refl s)
  | ofTensors handle =>
      obtain ⟨r, hr, -⟩ := Option.map_eq_some_iff.mp ho
      change Matched (Beside s s) (exec (.parameterOptimizerZeroGrad handle) s)
        (exec (.parameterOptimizerZeroGrad handle) s)
      rw [exec_parameterOptimizerZeroGrad hr]
      exact lockstep_clearAll _ s s (.refl s)

theorem after_step (ok : s.Ok) (ho : s.optimizing ref = some o) (hlasts : ref.Lasts s) :
    (after s ref.stepCall).heap = (stepAll o.kind o.hyper o.parameters (s.heap, o.moments)).1 ∧
      (after s ref.stepCall).optimizing ref = some { o with
        moments := (stepAll o.kind o.hyper o.parameters (s.heap, o.moments)).2 } := by
  cases ref with
  | ofModule handle =>
      obtain ⟨⟨object, optimizer⟩, hr, hmodule⟩ := Option.bind_eq_some_iff.mp ho
      obtain ⟨module, hm, rfl⟩ := Option.map_eq_some_iff.mp hmodule
      change (after s (.optimizerStep handle)).heap = _ ∧
        (after s (.optimizerStep handle)).optimizing (.ofModule handle) = _
      rw [after_of_ok (exec_optimizerStep ok hlasts hr hm), Runtime.optimizing,
        optimizerAt_withMoments hr]
      refine ⟨rfl, ?_⟩
      rw [Option.bind_some]
      change s.modules[optimizer.module]?.map _ = _
      rw [hm]
      rfl
  | ofTensors handle =>
      obtain ⟨⟨object, optimizer⟩, hr, rfl⟩ := Option.map_eq_some_iff.mp ho
      change (after s (.parameterOptimizerStep handle)).heap = _ ∧
        (after s (.parameterOptimizerStep handle)).optimizing (.ofTensors handle) = _
      rw [after_of_ok (exec_parameterOptimizerStep ok hr (hlasts _ _ hr)), Runtime.optimizing,
        parameterOptimizerAt_withMoments hr]
      exact ⟨rfl, rfl⟩

/-- A training run: steps of one optimizer, each granted its memory, calls of its `zeroGrad`,
and calls on other things that do not write the parameter. -/
def Trains (ref : OptimizerRef) (p : TensorId) : Runtime F D → List (Call F D) → Prop
  | _, [] => True
  | s, call :: calls =>
      (call = ref.stepCall ∧ ref.Lasts s ∨ call = ref.zeroGradCall ∨
        call.onOptimizer = false ∧ call.avoids s p) ∧ Trains ref p (after s call) calls

def gradientsAt (ref : OptimizerRef) (p : TensorId) :
    Runtime F D → List (Call F D) → List (Option (List F))
  | _, [] => []
  | s, call :: calls =>
      if ref.steps call then
        (s.heap.gradient p).map s.heap.contents :: gradientsAt ref p (after s call) calls
      else gradientsAt ref p (after s call) calls

end Calls

section Creation
variable [Scalar F] [Scalar D] [Precision F D] [FloatBits F] {s₁ : Runtime F D}

def Created (kind : OptimizerKind) (hyper : Hyperparameters D) (s s₁ : Runtime F D) :
    OptimizerRef → Prop
  | .ofModule handle => ∃ module,
      exec (.optimizerCreate module kind hyper) s = .ok (.handle handle) s₁
  | .ofTensors handle => ∃ handles,
      exec (.createForTensors handles kind hyper) s = .ok (.handle handle) s₁

theorem created_fresh {kind : OptimizerKind} (hkind : kind ≠ .sgd) {hyper : Hyperparameters D}
    (ok : s.Ok) (hcreated : Created kind hyper s s₁ ref) (ho : s₁.optimizing ref = some o) :
    accepts kind hyper = true ∧ o.kind = kind ∧ o.hyper = hyper ∧
      o.moments = ⟨0, zeroBuffers s₁.heap o.parameters, zeroBuffers s₁.heap o.parameters⟩ := by
  cases ref with
  | ofModule handle =>
      obtain ⟨module, hexec⟩ := hcreated
      obtain ⟨haccept, object, state, s', hm, ⟨n, rfl⟩, hregistered⟩ :=
        wp_of_ok (wp_createOptimizer ok module kind hyper) (of_replied hexec)
      have hfound := hregistered.objectOf
      obtain ⟨-, -, s₂, ⟨k, rfl⟩, rfl⟩ := hregistered
      have hget := Runtime.get_moduleAt hm
      rw [Runtime.optimizing, Runtime.optimizerAt, hfound] at ho
      simp only [Option.bind_some, List.getElem?_concat_length, Option.map_some, newOptimizer,
        hget, Option.some.injEq] at ho
      subst ho
      exact ⟨haccept, rfl, rfl, by rw [if_neg hkind]; rfl⟩
  | ofTensors handle =>
      obtain ⟨handles, hexec⟩ := hcreated
      obtain ⟨haccept, parameters, s', -, -, ⟨n, rfl⟩, hregistered⟩ :=
        wp_of_ok (wp_createForTensors ok handles kind hyper) (of_replied hexec)
      have hfound := hregistered.objectOf
      obtain ⟨-, -, s₂, ⟨k, rfl⟩, rfl⟩ := hregistered
      rw [Runtime.optimizing, Runtime.parameterOptimizerAt, hfound] at ho
      simp only [Option.bind_some, List.getElem?_concat_length, Option.map_some,
        newParameterOptimizer, Option.some.injEq] at ho
      subst ho
      exact ⟨haccept, rfl, rfl, rfl⟩

theorem created_ok (ok : s.Ok) {kind : OptimizerKind} {hyper : Hyperparameters D}
    (hcreated : Created kind hyper s s₁ ref) : s₁.Ok := by
  cases ref with
  | ofModule handle =>
      obtain ⟨module, hexec⟩ := hcreated
      rw [← after_of_ok hexec]
      exact (after_moves ok _).1
  | ofTensors handle =>
      obtain ⟨handles, hexec⟩ := hcreated
      rw [← after_of_ok hexec]
      exact (after_moves ok _).1

end Creation

section Following
variable {K : Type} [Field K] [LinearOrder K] [Given K] [FloatBits K] {s : Runtime K K}
  {o : Optimizing K K} {i : Nat} {p : TensorId} {values : List K} {received : List (List K)}

omit [FloatBits K] in
theorem follows_step (d : Documented K) (hkind : o.kind ≠ .sgd)
    (hdecay : 0 ≤ o.hyper.weightDecay) (ok : s.Ok) (ho : s.optimizing ref = some o)
    (hdistinct : (o.parameters.map s.heap.storageOf).Nodup) (hp : o.parameters[i]? = some p)
    (hf : Follows o.kind o.hyper values received (slot (s.heap, o.moments) (p, i)))
    (hcount : s.heap.graded p = true → o.moments.step = received.length)
    (hfew : received.length + 1 < 2 ^ 64) :
    Follows o.kind o.hyper values
      (received ++ ((s.heap.gradient p).map s.heap.contents).toList)
      (slot (stepAll o.kind o.hyper o.parameters (s.heap, o.moments)) (p, i)) := by
  obtain ⟨u, m⟩ := optimizing_ok ok ho
  rw [slot_stepAll o.hyper ok.wellFormed u m hdistinct hp]
  unfold slotAfter
  cases hg : s.heap.gradient p with
  | none =>
      rw [Option.map_none, Option.toList_none, List.append_nil]
      exact hf
  | some g =>
      have hstep : o.moments.nextStep.step = received.length + 1 := by
        rw [Moments.nextStep, hcount (by rw [Heap.graded, hg]; rfl)]
        exact add64_of_lt hfew
      have hnext := hf.update d hkind hdecay (s.heap.contents g)
      rw [← hstep] at hnext
      exact hnext

theorem follows_run (d : Documented K) (hkind : o.kind ≠ .sgd) (hdecay : 0 ≤ o.hyper.weightDecay)
    (ok : s.Ok) (ho : s.optimizing ref = some o)
    (hdistinct : (o.parameters.map s.heap.storageOf).Nodup) (hp : o.parameters[i]? = some p)
    {calls : List (Call K K)} (htrains : Trains ref p s calls)
    (hf : Follows o.kind o.hyper values received (slot (s.heap, o.moments) (p, i)))
    (hgap : GapFree (gradientsAt ref p s calls))
    (hcount : o.moments.step = received.length ∨ ∀ g ∈ gradientsAt ref p s calls, g = none)
    (hfew : received.length + (gradientsAt ref p s calls).length < 2 ^ 64) :
    ∃ o', (run s calls).optimizing ref = some o' ∧ Follows o.kind o.hyper values
      (received ++ (gradientsAt ref p s calls).filterMap id)
      (slot ((run s calls).heap, o'.moments) (p, i)) := by
  induction calls generalizing s o received with
  | nil =>
      refine ⟨o, ho, ?_⟩
      rw [gradientsAt, List.filterMap_nil, List.append_nil]
      exact hf
  | cons call calls ih =>
      obtain ⟨hcall, hrest⟩ := htrains
      obtain ⟨ok', hmoves⟩ := after_moves ok call
      have e := Call.Moves.evolves ok hmoves
      obtain ⟨u, -⟩ := optimizing_ok ok ho
      have hdistinct' := nodup_of_evolves e u hdistinct
      by_cases hstep : ref.steps call = true
      · obtain rfl := (ref.steps_iff call).mp hstep
        have hlasts : ref.Lasts s := by
          rcases hcall with ⟨-, hlasts⟩ | hzero | ⟨hother, -⟩
          · exact hlasts
          · cases ref <;> cases hzero
          · cases ref <;> cases hother
        obtain ⟨hheap, ho'⟩ := after_step ok ho hlasts
        simp only [gradientsAt, hstep, if_true] at hgap hcount hfew ⊢
        rw [List.length_cons] at hfew
        -- a gradient now means that no step has passed the parameter over
        have hgraded : s.heap.graded p = true → o.moments.step = received.length := by
          intro hgraded
          refine hcount.resolve_right fun hnone => ?_
          have hhead := hnone _ List.mem_cons_self
          rw [Option.map_eq_none_iff] at hhead
          rw [Heap.graded, hhead] at hgraded
          cases hgraded
        have hnext := follows_step d hkind hdecay ok ho hdistinct hp hf hgraded (by omega)
        have hcount' : (stepAll o.kind o.hyper o.parameters (s.heap, o.moments)).2.step =
              (received ++ ((s.heap.gradient p).map s.heap.contents).toList).length ∨
            ∀ g ∈ gradientsAt ref p (after s ref.stepCall) calls, g = none := by
          cases hg : s.heap.gradient p with
          | none =>
              rw [hg] at hgap
              exact Or.inr (hgap [] _ rfl)
          | some g =>
              left
              rw [stepAll, step_foldl, Moments.nextStep, hgraded (by rw [Heap.graded, hg]; rfl)]
              simp only [Option.map_some, Option.toList_some, List.length_append,
                List.length_singleton]
              exact add64_of_lt (by omega)
        have hfew' : (received ++ ((s.heap.gradient p).map s.heap.contents).toList).length +
            (gradientsAt ref p (after s ref.stepCall) calls).length < 2 ^ 64 := by
          rw [List.length_append]
          have hone : ((s.heap.gradient p).map s.heap.contents).toList.length ≤ 1 := by
            cases s.heap.gradient p <;> simp
          omega
        obtain ⟨o', hrun, hfollows⟩ := ih (o := { o with
            moments := (stepAll o.kind o.hyper o.parameters (s.heap, o.moments)).2 })
          hkind hdecay ok' ho' hdistinct' hp hrest (by rw [hheap]; exact hnext) hgap.tail hcount'
          hfew'
        refine ⟨o', hrun, ?_⟩
        have hsplit : (((s.heap.gradient p).map s.heap.contents) ::
            gradientsAt ref p (after s ref.stepCall) calls).filterMap id =
            ((s.heap.gradient p).map s.heap.contents).toList ++
              (gradientsAt ref p (after s ref.stepCall) calls).filterMap id := by
          cases s.heap.gradient p <;> rfl
        rw [hsplit, ← List.append_assoc]
        exact hfollows
      · rw [Bool.not_eq_true] at hstep
        simp only [gradientsAt, hstep, Bool.false_eq_true, if_false] at hgap hcount hfew ⊢
        have hkept : (after s call).optimizing ref = some o ∧ call.avoids s p := by
          rcases hcall with ⟨rfl, -⟩ | rfl | ⟨hother, havoid⟩
          · rw [(ref.steps_iff _).mpr rfl] at hstep
            cases hstep
          · refine ⟨optimizing_of_beside (beside_zeroGrad ho) ho, ?_⟩
            cases ref <;> exact fun _ hmem => by cases hmem
          · exact ⟨optimizing_of_beside (after_beside hother s) ho, havoid⟩
        have hcontents := after_contents ok call (u p (List.mem_of_getElem? hp)).1 hkept.2
        have hslot : slot ((after s call).heap, o.moments) (p, i) =
            slot (s.heap, o.moments) (p, i) := by
          simp only [slot, hcontents]
        exact ih hkind hdecay ok' hkept.1 hdistinct' hp hrest (by rw [hslot]; exact hf) hgap hcount
          hfew

omit [LinearOrder K] [FloatBits K] in
theorem follows_zeroBuffers (kind : OptimizerKind) (hyper : Hyperparameters K) {h : Heap K}
    (wf : WellFormed h) {parameters : List TensorId} (hp : parameters[i]? = some p)
    (hv : h.Visible p) {second : List (List K)} (hsecond : second = zeroBuffers h parameters) :
    Follows kind hyper (h.contents p) []
      (slot (h, ⟨0, zeroBuffers h parameters, second⟩) (p, i)) := by
  have hbuffer : (zeroBuffers h parameters)[i]? =
      some (List.replicate (h.contents p).length 0) := by
    rw [zeroBuffers, List.getElem?_map, hp, Option.map_some, hv.length wf]
  have hslot : slot (h, ⟨0, zeroBuffers h parameters, second⟩) (p, i) = (h.contents p,
      List.replicate (h.contents p).length 0, some (List.replicate (h.contents p).length 0)) := by
    simp only [slot, hsecond, List.getD_eq_getElem?_getD, hbuffer, Option.getD_some]
  rw [hslot]
  exact .start kind hyper _

/-- In a run in which no gradient comes to a parameter after a step that passed it over, the
parameter and its moments are at every point those of the reference recurrence on the gradients
it has received. -/
theorem adam_follows_reference (d : Documented K) {kind : OptimizerKind} (hkind : kind ≠ .sgd)
    {hyper : Hyperparameters K} {s₁ : Runtime K K} (hs : Reachable s)
    (hcreated : Created kind hyper s s₁ ref) (ho : s₁.optimizing ref = some o)
    (hdistinct : (o.parameters.map s₁.heap.storageOf).Nodup) (hp : o.parameters[i]? = some p)
    {calls : List (Call K K)} (htrains : Trains ref p s₁ calls)
    (hfew : (gradientsAt ref p s₁ calls).length < 2 ^ 64)
    (hgap : GapFree (gradientsAt ref p s₁ calls)) :
    ∃ o', (run s₁ calls).optimizing ref = some o' ∧ Follows kind hyper (s₁.heap.contents p)
      ((gradientsAt ref p s₁ calls).filterMap id)
        (slot ((run s₁ calls).heap, o'.moments) (p, i)) := by
  have ok₁ := created_ok hs.ok hcreated
  obtain ⟨haccept, rfl, rfl, hfresh⟩ := created_fresh hkind hs.ok hcreated ho
  have hv := ((optimizing_ok ok₁ ho).1 p (List.mem_of_getElem? hp)).1
  have hstart : Follows o.kind o.hyper (s₁.heap.contents p) []
      (slot (s₁.heap, o.moments) (p, i)) := by
    rw [hfresh]
    exact follows_zeroBuffers _ _ ok₁.wellFormed hp hv rfl
  obtain ⟨o', ho', hfollows⟩ := follows_run d hkind (weightDecay_nonneg d haccept) ok₁ ho hdistinct
    hp htrains hstart hgap (Or.inl (by rw [hfresh]; rfl)) (by simpa using hfew)
  rw [List.nil_append] at hfollows
  exact ⟨o', ho', hfollows⟩

end Following

def halfBeta : Hyperparameters ℚ := ⟨1, 0, 1 / 2, 0, 1, 0⟩

def leavesCalls : List (Call ℚ ℚ) :=
  [.tensorFromF32 [1] [1], .tensorWithRequiresGrad 1 true, .tensorFromF32 [1] [1],
    .tensorWithRequiresGrad 3 true]

def leavesRun : Runtime ℚ ℚ :=
  after (rationalRun leavesCalls) (.createForTensors (some [2, 4]) .adam halfBeta)

/-- The first leaf has a gradient at the second step only. -/
def passedOverCalls : List (Call ℚ ℚ) :=
  [.tensorSum 4, .tensorBackward 6, .parameterOptimizerStep 5, .tensorSum 2, .tensorBackward 7,
    .parameterOptimizerStep 5]

theorem documented_rational : Documented ℚ where
  less _ _ := rfl
  pow x n := by
    change x ^ (n : ℚ).num.natAbs = x ^ n
    rw [Rat.num_natCast, Int.natAbs_natCast]

theorem Lasting.lasts {F D : Type} {s : Runtime F D} (h : Lasting s) (ref : OptimizerRef) :
    ref.Lasts s := by
  cases ref with
  | ofModule handle => exact h _ (Nat.le_refl _)
  | ofTensors handle => exact fun _ _ _ i _ => h.next i

theorem trains_passedOver (p : TensorId) : Trains (.ofTensors 5) p leavesRun passedOverCalls := by
  have hmem : ∀ calls, Lasting (run leavesRun calls) := fun calls =>
    ((lasting_rationalRun leavesCalls).run [_]).run calls
  refine ⟨Or.inr (Or.inr ⟨rfl, ?_⟩), Or.inr (Or.inr ⟨rfl, ?_⟩), Or.inl ⟨rfl, (hmem [_, _]).lasts _⟩,
    Or.inr (Or.inr ⟨rfl, ?_⟩), Or.inr (Or.inr ⟨rfl, ?_⟩),
    Or.inl ⟨rfl, (hmem [_, _, _, _, _]).lasts _⟩, trivial⟩
  all_goals exact fun _ htarget => by cases htarget

/-- The one update of the leaf that was passed over is corrected as if it were its second. -/
theorem adam_counts_steps :
    Trains (.ofTensors 5) 1 leavesRun passedOverCalls ∧
      gradientsAt (.ofTensors 5) 1 leavesRun passedOverCalls = [none, some [1]] ∧
      (run leavesRun passedOverCalls).heap.contents 1 = [2 / 3] ∧
      (referenceAt .adam halfBeta (leavesRun.heap.contents 1) [[1]] 0).value = 1 / 2 := by
  refine ⟨trains_passedOver 1, ?_, ?_, ?_⟩
  all_goals decide +kernel

theorem adam_follows_reference_leaf : ∃ o',
    (run leavesRun passedOverCalls).optimizing (.ofTensors 5) = some o' ∧
      Follows .adam halfBeta (leavesRun.heap.contents 3) [[1], [1]]
        (slot ((run leavesRun passedOverCalls).heap, o'.moments) (3, 1)) := by
  have hcreated : Created .adam halfBeta (rationalRun leavesCalls) leavesRun (.ofTensors 5) := by
    have hexec := ok_of_replyOf (by decide +kernel : replyOf (rationalRun leavesCalls)
      (.createForTensors (some [2, 4]) .adam halfBeta) = some (.handle 5))
    exact ⟨_, hexec⟩
  obtain ⟨o, ho⟩ := Option.isSome_iff_exists.mp
    (by decide +kernel : (leavesRun.optimizing (.ofTensors 5)).isSome = true)
  have hparameters : o.parameters = [1, 3] := by
    have hmap : (leavesRun.optimizing (.ofTensors 5)).map Optimizing.parameters = some [1, 3] := by
      decide +kernel
    rw [ho] at hmap
    exact Option.some.inj hmap
  have hgradients : gradientsAt (.ofTensors 5) 3 leavesRun passedOverCalls =
      [some [1], some [1]] := by decide +kernel
  have hfollows := adam_follows_reference (p := 3) (i := 1) documented_rational (by decide)
    ⟨_, _, _, rfl⟩ hcreated ho (by rw [hparameters]; decide +kernel) (by rw [hparameters]; rfl)
    (trains_passedOver 3) (by rw [hgradients]; decide) ?_
  swap
  · rw [hgradients]
    intro front back hsplit
    have hmem : (none : Option (List ℚ)) ∈ [some [1], some [1]] := by
      rw [hsplit]
      simp
    simp at hmem
  rw [hgradients] at hfollows
  exact hfollows

end Api

end Tensora
