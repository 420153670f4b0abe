import Tensora.Api.AdamRuns
import Tensora.Api.OptimizerTables
import Tensora.Training.AdamOperands

/-! In every run of fewer than `2 ^ 64` steps of an optimizer, each of its updates is defined:
the counter is past zero before it is used, and no second moment ever falls below zero. -/
namespace Tensora
open ProgramLogic Training

namespace Api

section Counting
variable {F D : Type} [Scalar F] [Scalar D] [Precision F D] [FloatBits F]

def stepsAt (place : Place) : Runtime F D → List (Call F D) → Nat
  | _, [] => 0
  | s, call :: calls =>
      (if call.stepped s = some place then 1 else 0) + stepsAt place (after s call) calls

theorem stepsAt_snoc (place : Place) (s : Runtime F D) (calls : List (Call F D)) (call : Call F D) :
    stepsAt place s (calls ++ [call]) = stepsAt place s calls +
      (if call.stepped (run s calls) = some place then 1 else 0) := by
  induction calls generalizing s with
  | nil => rw [List.nil_append, stepsAt, stepsAt, stepsAt, Nat.zero_add]; rfl
  | cons head calls ih =>
      rw [List.cons_append, stepsAt, stepsAt, ih, Nat.add_assoc]
      rfl

end Counting

variable {K : Type} [Field K] [LinearOrder K] [IsStrictOrderedRing K] [Given K] [FloatBits K]

/-- An optimizer after at most `n` steps. -/
structure Sound (n : Nat) (held : Held K K) : Prop where
  accepted : accepts held.kind held.hyper = true
  counted : held.moments.step ≤ n
  second : held.kind ≠ .sgd → NonNegative held.moments.secondMoment

omit [FloatBits K] [IsStrictOrderedRing K] in
theorem Sound.mono {n n' : Nat} {held : Held K K} (h : Sound n held) (hle : n ≤ n') :
    Sound n' held := ⟨h.accepted, h.counted.trans hle, h.second⟩

omit [FloatBits K] [IsStrictOrderedRing K] in
theorem Fresh.sound {kind : OptimizerKind} {hyper : Hyperparameters K} {held : Held K K}
    (h : Fresh kind hyper held) (n : Nat) : Sound n held where
  accepted := by
    rw [h.created.1, h.created.2]
    exact h.accepted
  counted := by
    rw [h.step]
    exact Nat.zero_le n
  second := fun _ buffer hbuffer x hx => (h.second buffer hbuffer x hx).symm.le

omit [FloatBits K] in
theorem Sound.next (d : DocumentedRoot K) {n : Nat} {held : Held K K} (h : Sound n held)
    (heap : Heap K) (done : List (TensorId × Nat)) :
    Sound (n + 1) { held with moments :=
      (done.foldl (stepParameter held.kind held.hyper) (heap, held.moments.nextStep)).2 } where
  accepted := h.accepted
  counted := by
    rw [step_foldl, Moments.nextStep, add64]
    exact (Nat.mod_le _ _).trans (Nat.add_le_add_right h.counted 1)
  second := fun hkind =>
    nonNegative_foldl hkind (ranged_of_accepts d hkind h.accepted) done (h.second hkind)

theorem sound_after (d : DocumentedRoot K) {s : Runtime K K} (ok : s.Ok) {n : Place → Nat}
    (hsound : ∀ place held, s.heldAt place = some held → Sound (n place) held) (call : Call K K)
    {place : Place} {held : Held K K} (hheld : (after s call).heldAt place = some held) :
    Sound (n place + if call.stepped s = some place then 1 else 0) held := by
  rcases after_tables ok call with
    same | ⟨kind, hyper, adds⟩ | ⟨at', before, hstepped, hbefore, hfrom⟩
  · rw [same.heldAt] at hheld
    exact (hsound place held hheld).mono (Nat.le_add_right _ _)
  · rcases adds place held hheld with hold | hfresh
    · exact (hsound place held hold).mono (Nat.le_add_right _ _)
    · exact hfresh.sound _
  · rcases hfrom with ⟨-, same⟩ | ⟨done, rest, -, hto⟩
    · rw [same.heldAt] at hheld
      exact (hsound place held hheld).mono (Nat.le_add_right _ _)
    by_cases hplace : place = at'
    · subst hplace
      rw [hto.stepped] at hheld
      obtain rfl := Option.some.inj hheld
      rw [if_pos hstepped]
      exact (hsound place before hbefore).next d s.heap done
    · rw [hto.others place hplace] at hheld
      exact (hsound place held hheld).mono (Nat.le_add_right _ _)

theorem sound_run (d : DocumentedRoot K) (fails : Nat → Bool) (files : FileSystem)
    (calls : List (Call K K)) {place : Place} {held : Held K K}
    (hheld : (run (Runtime.initial fails files) calls).heldAt place = some held) :
    Sound (stepsAt place (Runtime.initial fails files) calls) held := by
  induction calls using List.reverseRecOn generalizing place held with
  | nil => cases place <;> cases hheld
  | append_singleton calls call ih =>
      have ok : (run (Runtime.initial fails files) calls).Ok := Reachable.ok ⟨_, _, calls, rfl⟩
      rw [run, List.foldl_append] at hheld
      rw [stepsAt_snoc]
      exact sound_after d ok (fun _ _ hbefore => ih hbefore) call hheld

/-- A step of Adam or AdamW is the fold of `stepParameter` over its parameters or over the first
of them, and in it every update of an entry is defined. -/
theorem adam_updates_defined (d : DocumentedRoot K) (fails : Nat → Bool) (files : FileSystem)
    (calls : List (Call K K)) (call : Call K K) {s : Runtime K K}
    (hs : run (Runtime.initial fails files) calls = s) {place : Place} {held : Held K K}
    (hstepped : call.stepped s = some place) (hheld : s.heldAt place = some held)
    (hkind : held.kind ≠ .sgd)
    (hfew : stepsAt place (Runtime.initial fails files) (calls ++ [call]) < 2 ^ 64) :
    StepsFrom s (after s call) place held ∧
      ∀ done p i rest, (trainedAt s place).zipIdx = done ++ (p, i) :: rest →
        let state := done.foldl (stepParameter held.kind held.hyper) (s.heap, held.moments.nextStep)
        ∀ g, state.1.gradient p = some g → ∀ j < (state.1.contents p).length,
          Defined held.kind held.hyper state.2.step ((state.1.contents p).getD j 0)
            ((state.1.contents g).getD j 0) (((state.2.secondMoment[i]?).getD []).getD j 0) := by
  subst hs
  have hsound := sound_run d fails files calls hheld
  rw [stepsAt_snoc, if_pos hstepped] at hfew
  have ranged := ranged_of_accepts d hkind hsound.accepted
  refine ⟨after_stepped (Reachable.ok ⟨_, _, calls, rfl⟩) hstepped hheld, ?_⟩
  intro done p i rest _ state g _ j _
  have hcounted := hsound.counted
  have hstep : 0 < state.2.step := by
    rw [step_foldl, Moments.nextStep, add64_of_lt (by omega)]
    exact Nat.succ_pos _
  exact defined d ranged hstep _ _ ((nonNegative_foldl hkind ranged done
    (hsound.second hkind)).getD i j)

theorem documentedRoot_rational : DocumentedRoot ℚ where
  toDocumented := documented_rational
  lessEq _ _ := rfl
  sqrt_nonneg a _ := by
    change 0 ≤ squareRoot a
    unfold squareRoot
    positivity

def leafCalls : List (Call ℚ ℚ) :=
  [.tensorFromF32 [1] [1], .tensorWithRequiresGrad 1 true,
    .createForTensors (some [2]) .adam halfBeta, .tensorSum 2, .tensorBackward 4]

theorem adam_updates_defined_leaf : ∃ held,
    (rationalRun leafCalls).heldAt (.ofTensors 0) = some held ∧ held.kind = .adam ∧
      Defined held.kind held.hyper 1 1 1 0 := by
  have hmap : ((rationalRun leafCalls).heldAt (.ofTensors 0)).map (fun held =>
      (held.kind, held.moments.step, held.moments.secondMoment)) = some (.adam, 0, [[0]]) := by
    decide +kernel
  obtain ⟨held, hheld, hfields⟩ := Option.map_eq_some_iff.mp hmap
  obtain ⟨hkind, hstep, hsecond⟩ : held.kind = .adam ∧ held.moments.step = 0 ∧
      held.moments.secondMoment = [[0]] := by simpa using hfields
  have hgradient : ((rationalRun leafCalls).heap.gradient 1).map
      (rationalRun leafCalls).heap.contents = some [1] := by decide +kernel
  obtain ⟨g, hg, hcontents⟩ := Option.map_eq_some_iff.mp hgradient
  have hvalues : (rationalRun leafCalls).heap.contents 1 = [1] := by decide +kernel
  have hstepped : Call.stepped (rationalRun leafCalls) (.parameterOptimizerStep 3) =
      some (.ofTensors 0) := by decide +kernel
  have hdefined := (adam_updates_defined documentedRoot_rational (fun _ => false) emptyDisk
    leafCalls (.parameterOptimizerStep 3) rfl hstepped hheld (by rw [hkind]; decide)
    (by decide +kernel)).2 [] 1 0 [] (by decide +kernel) g hg 0
    (by rw [List.foldl_nil]; exact hvalues ▸ Nat.one_pos)
  simp only [List.foldl_nil, Moments.nextStep, hstep, hsecond] at hdefined
  change Defined _ _ _ (((rationalRun leafCalls).heap.contents 1).getD 0 0)
    (((rationalRun leafCalls).heap.contents g).getD 0 0) _ at hdefined
  rw [hvalues, hcontents] at hdefined
  exact ⟨held, hheld, hkind, hdefined⟩

end Api

end Tensora
