import Mathlib.Data.List.Basic
import Mathlib.Logic.Function.Basic
import Tensora.Core.Status

/-! The commit of staged assignments into accelerated tensors: copies that may throw half
done, and the rollback of the targets counted as committed. -/
namespace Tensora.Training
open ProgramLogic

variable {F : Type}

/-- What is thrown out of a tensor operation: `c10::Error`, `std::bad_alloc`, or anything else. -/
inductive Thrown where
  | torch (what : String)
  | badAlloc
  | other (what : String)
  deriving DecidableEq, Repr

abbrev TorchMemory (F : Type) := Nat → List F

/-- What the operation of this index leaves in its target, and what it throws. -/
abbrev CopyOperation (F : Type) := Nat → List F → List F → List F × Option Thrown

structure Committing (F : Type) where
  memory : TorchMemory F
  committed : Nat

def Committing.write (s : Committing F) (target : Nat) (data : List F) : Committing F :=
  { s with memory := Function.update s.memory target data }

@[simp] theorem Committing.memory_write (s : Committing F) (target other : Nat) (data : List F) :
    (s.write target data).memory other = if other = target then data else s.memory other :=
  Function.update_apply _ _ _ _

abbrev Commit (F : Type) := EStateM Thrown (Committing F)

def copyInto (copy : CopyOperation F) (index target : Nat) (source : List F) : Commit F Unit := do
  let written := copy index ((← get).memory target) source
  modify fun s => s.write target written.1
  match written.2 with
  | none => pure ()
  | some thrown => throw thrown

def restoreEach (copy : CopyOperation F) : Nat → List (Nat × List F) → Commit F Unit
  | _, [] => pure ()
  | index, (target, backup) :: rest => do
      copyInto copy index target backup
      restoreEach copy (index + 1) rest

/-- `RollbackTorch`: any exception makes it return false. -/
def rollbackTorch (copy : CopyOperation F) (targets : List Nat) (backups : List (List F))
    (committed : Nat) : Commit F Bool :=
  tryCatch (do
    restoreEach copy 0 ((targets.zip backups).take committed)
    return true) fun _ => return false

def commitEach (copyOperation : CopyOperation F) : Nat → List (Nat × List F) → Commit F Unit
  | _, [] => pure ()
  | index, (target, source) :: rest => do
      copyInto copyOperation index target source
      modify fun s => { s with committed := index + 1 }
      commitEach copyOperation (index + 1) rest

def torchFailure (operation what : String) : Failure := internalError (operation ++ ": " ++ what)

def mutationNotRolledBack : Failure :=
  internalError "tensor_assign_many: provider mutation failed and rollback failed"

def allocationNotRolledBack : Failure :=
  internalError "tensor_assign_many: allocation failed and rollback failed"

/-- `CommitTorchAssignments`, with `copy_` for the rollback. -/
def commitTorchAssignments (copyOperation copy : CopyOperation F) (targets : List Nat)
    (stagedSources backups : List (List F)) : Commit F (Except Failure Unit) :=
  tryCatch (do
    commitEach copyOperation 0 (targets.zip stagedSources)
    return .ok ()) fun thrown =>
    match thrown with
    | .torch what => do
        let rolledBack ← rollbackTorch copy targets backups (← get).committed
        if !rolledBack then return .error mutationNotRolledBack
        return .error (torchFailure "tensor_assign_many" what)
    | .badAlloc => do
        let rolledBack ← rollbackTorch copy targets backups (← get).committed
        if !rolledBack then return .error allocationNotRolledBack
        return .error (outOfMemory "tensor_assign_many: provider allocation failed")
    | thrown => throw thrown

structure Stop (F : Type) where
  index : Nat
  thrown : Thrown
  memory : TorchMemory F

def firstThrow (copyOperation : CopyOperation F) :
    Nat → TorchMemory F → List (Nat × List F) → Option (Stop F)
  | _, _, [] => none
  | index, memory, (target, source) :: rest =>
      let written := copyOperation index (memory target) source
      let memory := Function.update memory target written.1
      match written.2 with
      | some thrown => some ⟨index, thrown, memory⟩
      | none => firstThrow copyOperation (index + 1) memory rest

section Runs
variable {copyOperation copy : CopyOperation F}

theorem wp_copyInto {index target : Nat} {source : List F} {Q : Unit → Committing F → Prop}
    {E : Thrown → Committing F → Prop} {s : Committing F}
    (hq : (copy index (s.memory target) source).2 = none →
      Q () (s.write target (copy index (s.memory target) source).1))
    (he : ∀ thrown, (copy index (s.memory target) source).2 = some thrown →
      E thrown (s.write target (copy index (s.memory target) source).1)) :
    wp (copyInto copy index target source) Q E s := by
  unfold copyInto
  simp only [wp_bind, wp_get, wp_modify]
  cases hthrown : (copy index (s.memory target) source).2 with
  | none => exact hq hthrown
  | some thrown => exact he thrown hthrown

theorem firstThrow_of_none {index target : Nat} {source : List F} {memory : TorchMemory F}
    {rest : List (Nat × List F)} (h : (copyOperation index (memory target) source).2 = none) :
    firstThrow copyOperation index memory ((target, source) :: rest) =
      firstThrow copyOperation (index + 1)
        (Function.update memory target (copyOperation index (memory target) source).1) rest := by
  rw [firstThrow, h]

theorem firstThrow_of_some {index target : Nat} {source : List F} {memory : TorchMemory F}
    {rest : List (Nat × List F)} {thrown : Thrown}
    (h : (copyOperation index (memory target) source).2 = some thrown) :
    firstThrow copyOperation index memory ((target, source) :: rest) = some ⟨index, thrown,
      Function.update memory target (copyOperation index (memory target) source).1⟩ := by
  rw [firstThrow, h]

/-- The loop throws where the first copy does, with the copies before it counted. -/
theorem wp_commitEach (copyOperation : CopyOperation F) (pairs : List (Nat × List F))
    (memory : TorchMemory F) (index : Nat) :
    wp (commitEach copyOperation index pairs)
      (fun _ _ => firstThrow copyOperation index memory pairs = none)
      (fun thrown s => ∃ stop, firstThrow copyOperation index memory pairs = some stop ∧
        thrown = stop.thrown ∧ s = ⟨stop.memory, stop.index⟩) ⟨memory, index⟩ := by
  induction pairs generalizing memory index with
  | nil => exact rfl
  | cons pair rest ih =>
      obtain ⟨target, source⟩ := pair
      unfold commitEach
      rw [wp_bind]
      apply wp_copyInto
      · intro hnone
        rw [wp_bind, wp_modify, firstThrow_of_none hnone]
        exact ih _ _
      · intro thrown hsome
        exact ⟨_, firstThrow_of_some hsome, rfl, rfl⟩

def Copies (copy : CopyOperation F) : Prop :=
  ∀ index target source, (copy index target source).2 = none →
    (copy index target source).1 = source

theorem wp_restoreEach (hcopy : Copies copy) (pairs : List (Nat × List F)) (index : Nat)
    (original : TorchMemory F) (hpairs : ∀ p ∈ pairs, p.2 = original p.1) (s : Committing F) :
    wp (restoreEach copy index pairs)
      (fun _ s' => ∀ target, s'.memory target =
        if target ∈ pairs.map Prod.fst then original target else s.memory target)
      (fun _ _ => True) s := by
  induction pairs generalizing index s with
  | nil =>
      intro target
      simp
  | cons pair rest ih =>
      obtain ⟨target, backup⟩ := pair
      unfold restoreEach
      rw [wp_bind]
      apply wp_copyInto
      · intro hnone
        have hwritten := hcopy _ _ _ hnone
        have hbackup : backup = original target := hpairs (target, backup) (by simp)
        refine wp_mono (ih (index + 1) (fun p hp => hpairs p (by simp [hp])) _) ?_
          fun _ _ _ => trivial
        intro _ s' h other
        rw [h other, hwritten, hbackup, Committing.memory_write]
        simp only [List.map_cons, List.mem_cons]
        by_cases hrest : other ∈ rest.map Prod.fst
        · simp only [hrest, if_true, or_true]
        · by_cases heq : other = target
          · simp only [heq, true_or, if_true]
            split <;> rfl
          · simp only [hrest, if_false, heq, or_self]
      · exact fun _ _ => trivial

/-- Only the targets up to the one whose copy threw can have changed. -/
theorem firstThrow_frame {pairs : List (Nat × List F)} {index : Nat} {memory : TorchMemory F}
    {stop : Stop F} (h : firstThrow copyOperation index memory pairs = some stop) :
    ∃ before target after, pairs.map Prod.fst = before ++ target :: after ∧
      stop.index = index + before.length ∧
      ∀ other, other ∉ before → other ≠ target → stop.memory other = memory other := by
  induction pairs generalizing index memory with
  | nil => cases h
  | cons pair rest ih =>
      obtain ⟨target, source⟩ := pair
      cases hthrown : (copyOperation index (memory target) source).2 with
      | some thrown =>
          rw [firstThrow_of_some hthrown] at h
          cases h
          refine ⟨[], target, rest.map Prod.fst, rfl, rfl, fun other _ hne => ?_⟩
          exact Function.update_of_ne hne _ _
      | none =>
          rw [firstThrow_of_none hthrown] at h
          obtain ⟨before, failing, after, hsplit, hindex, hframe⟩ := ih h
          refine ⟨target :: before, failing, after, ?_, ?_, ?_⟩
          · rw [List.map_cons, hsplit, List.cons_append]
          · rw [hindex, List.length_cons]
            omega
          · intro other hnotMem hne
            rw [List.mem_cons, not_or] at hnotMem
            rw [hframe other hnotMem.2 hne]
            exact Function.update_of_ne hnotMem.1 _ _

end Runs

section Atomicity
variable (copyOperation copy : CopyOperation F) (targets : List Nat) (memory : TorchMemory F)

def rollsBack (committed : Nat) (s : TorchMemory F) : Bool :=
  match rollbackTorch copy targets (targets.map memory) committed ⟨s, committed⟩ with
  | .ok rolledBack _ => rolledBack
  | .error _ _ => false

def BackedUp (s : TorchMemory F) : Prop := ∀ target ∈ targets, s target = memory target

def ReportsRollback (failure : Failure) : Prop :=
  failure = mutationNotRolledBack ∨ failure = allocationNotRolledBack

/-- The copy that threw left its target as it was, or an earlier target is the same tensor. -/
def Untouched (stop : Stop F) : Prop :=
  ∀ target, targets[stop.index]? = some target →
    target ∈ targets.take stop.index ∨ stop.memory target = memory target

/-- How the first copy that throws may leave the memory for the commit to be undone. -/
def Recoverable (stop : Stop F) : Prop :=
  match stop.thrown with
  | .other _ => BackedUp targets memory stop.memory
  | .badAlloc =>
      rollsBack copy targets memory stop.index stop.memory = false ∨ Untouched targets memory stop
  | .torch what => ReportsRollback (torchFailure "tensor_assign_many" what) ∨
      rollsBack copy targets memory stop.index stop.memory = false ∨ Untouched targets memory stop

def Undone (stagedSources : List (List F)) : Prop :=
  wp (commitTorchAssignments copyOperation copy targets stagedSources (targets.map memory))
    (fun status s => match status with
      | .ok () => True
      | .error failure => ReportsRollback failure ∨ BackedUp targets memory s.memory)
    (fun _ s => BackedUp targets memory s.memory) ⟨memory, 0⟩

variable {copyOperation copy targets memory}

theorem rollbackTorch_eq (backups : List (List F)) (committed : Nat) (s : Committing F) :
    rollbackTorch copy targets backups committed s =
      match restoreEach copy 0 ((targets.zip backups).take committed) s with
      | .ok _ s' => .ok true s'
      | .error _ s' => .ok false s' := by
  change EStateM.tryCatch (EStateM.bind _ _) _ s = _
  unfold EStateM.tryCatch EStateM.bind
  cases restoreEach copy 0 ((targets.zip backups).take committed) s <;> rfl

theorem zip_map_self (targets : List Nat) (memory : TorchMemory F) :
    targets.zip (targets.map memory) = targets.map fun target => (target, memory target) := by
  induction targets with
  | nil => rfl
  | cons target rest ih => rw [List.map_cons, List.zip_cons_cons, ih, List.map_cons]

/-- The rollback returns, and when it returns true the first targets hold their backups. -/
theorem rollbackTorch_run (hcopy : Copies copy) (s : Committing F) :
    ∃ s', rollbackTorch copy targets (targets.map memory) s.committed s =
        .ok (rollsBack copy targets memory s.committed s.memory) s' ∧
      (rollsBack copy targets memory s.committed s.memory = true → ∀ target, s'.memory target =
        if target ∈ targets.take s.committed then memory target else s.memory target) := by
  have hrestore := wp_restoreEach hcopy
    ((targets.take s.committed).map fun target => (target, memory target)) 0 memory
    (fun p hp => by obtain ⟨target, -, rfl⟩ := List.mem_map.mp hp; rfl) s
  have hfirst : ((targets.take s.committed).map fun target => (target, memory target)).map
      Prod.fst = targets.take s.committed := by
    rw [List.map_map]
    exact List.map_id _
  rw [hfirst] at hrestore
  unfold rollsBack
  rw [rollbackTorch_eq, zip_map_self, ← List.map_take]
  cases hrun : restoreEach copy 0
      ((targets.take s.committed).map fun target => (target, memory target)) s with
  | ok _ s' => exact ⟨s', rfl, fun _ => wp_of_ok hrestore hrun⟩
  | error _ s' => exact ⟨s', rfl, fun h => by cases h⟩

theorem stop_target {stagedSources : List (List F)} (hlen : stagedSources.length = targets.length)
    {stop : Stop F}
    (h : firstThrow copyOperation 0 memory (targets.zip stagedSources) = some stop) :
    ∃ failing, targets[stop.index]? = some failing ∧
      ∀ other, other ∉ targets.take stop.index → other ≠ failing →
        stop.memory other = memory other := by
  obtain ⟨before, failing, after, hsplit, hindex, hframe⟩ := firstThrow_frame h
  rw [List.map_fst_zip (by omega)] at hsplit
  have hlength : stop.index = before.length := by omega
  refine ⟨failing, ?_, fun other hnotMem => hframe other ?_⟩
  · rw [hlength, hsplit]
    simp
  · rwa [hlength, hsplit, List.take_left] at hnotMem

/-- Where the rollback reaches, the failing target is all that can be left changed. -/
theorem backedUp_iff {stagedSources : List (List F)} (hlen : stagedSources.length = targets.length)
    {stop : Stop F}
    (h : firstThrow copyOperation 0 memory (targets.zip stagedSources) = some stop)
    {s : TorchMemory F} (hs : ∀ target, s target =
      if target ∈ targets.take stop.index then memory target else stop.memory target) :
    BackedUp targets memory s ↔ Untouched targets memory stop := by
  obtain ⟨failing, hfailing, hframe⟩ := stop_target hlen h
  constructor
  · intro hrestored target htarget
    by_cases hmem : target ∈ targets.take stop.index
    · exact Or.inl hmem
    · right
      rw [← hrestored target (List.mem_of_getElem? htarget), hs, if_neg hmem]
  · intro huntouched target htarget
    rw [hs]
    by_cases hmem : target ∈ targets.take stop.index
    · rw [if_pos hmem]
    · rw [if_neg hmem]
      by_cases heq : target = failing
      · subst heq
        exact (huntouched target hfailing).resolve_left hmem
      · exact hframe target hmem heq

/-- The commit is undone exactly if there is nothing to undo where the rollback does not reach:
in the target whose copy threw, or in any target after another exception. -/
theorem commitTorchAssignments_undone (hcopy : Copies copy) {stagedSources : List (List F)}
    (hlen : stagedSources.length = targets.length) :
    Undone copyOperation copy targets memory stagedSources ↔
      ∀ stop, firstThrow copyOperation 0 memory (targets.zip stagedSources) = some stop →
        Recoverable copy targets memory stop := by
  have hloop := wp_commitEach copyOperation (targets.zip stagedSources) memory 0
  unfold Undone commitTorchAssignments
  cases hrun : commitEach copyOperation 0 (targets.zip stagedSources) ⟨memory, 0⟩ with
  | ok _ s' =>
      have hnone := wp_of_ok hloop hrun
      constructor
      · intro _ stop hstop
        rw [hnone] at hstop
        cases hstop
      · intro _
        refine wp_tryCatch (P := fun _ _ => False) ?_ fun _ _ h => h.elim
        exact wp_bind_of_ok hrun trivial
  | error thrown s' =>
      obtain ⟨stop, hstop, rfl, rfl⟩ := wp_of_error hloop hrun
      have hthrow : (do
          commitEach copyOperation 0 (targets.zip stagedSources)
          return .ok () : Commit F (Except Failure Unit)) ⟨memory, 0⟩ =
          .error stop.thrown ⟨stop.memory, stop.index⟩ := by
        change EStateM.bind _ _ _ = _
        unfold EStateM.bind
        rw [hrun]
      have hunique : (∀ stop', firstThrow copyOperation 0 memory (targets.zip stagedSources) =
          some stop' → Recoverable copy targets memory stop') ↔
          Recoverable copy targets memory stop := by
        constructor
        · exact fun h => h stop hstop
        · intro h stop' hstop'
          rw [hstop] at hstop'
          cases hstop'
          exact h
      rw [wp_tryCatch_of_error hthrow, hunique]
      have hrollback : ∃ s', rollbackTorch copy targets (targets.map memory) stop.index
            ⟨stop.memory, stop.index⟩ =
            .ok (rollsBack copy targets memory stop.index stop.memory) s' ∧
          (rollsBack copy targets memory stop.index stop.memory = true →
            (BackedUp targets memory s'.memory ↔ Untouched targets memory stop)) := by
        obtain ⟨s', hs', hrestored⟩ := rollbackTorch_run hcopy ⟨stop.memory, stop.index⟩
        exact ⟨s', hs', fun h => backedUp_iff hlen hstop (hrestored h)⟩
      obtain ⟨s', hs', hrestored⟩ := hrollback
      unfold Recoverable
      cases stop.thrown with
      | other what => exact Iff.rfl
      | badAlloc =>
          rw [wp_bind, wp_get, wp_bind, wp_eq_of_ok hs']
          cases hback : rollsBack copy targets memory stop.index stop.memory with
          | false => exact ⟨fun _ => Or.inl rfl, fun _ => Or.inl (Or.inr rfl)⟩
          | true =>
              change ReportsRollback _ ∨ BackedUp targets memory s'.memory ↔ _
              rw [hrestored hback]
              simp [ReportsRollback, mutationNotRolledBack, allocationNotRolledBack, outOfMemory,
                internalError]
      | torch what =>
          rw [wp_bind, wp_get, wp_bind, wp_eq_of_ok hs']
          cases hback : rollsBack copy targets memory stop.index stop.memory with
          | false => exact ⟨fun _ => Or.inr (Or.inl rfl), fun _ => Or.inl (Or.inl rfl)⟩
          | true =>
              change ReportsRollback _ ∨ BackedUp targets memory s'.memory ↔ _
              rw [hrestored hback]
              simp

end Atomicity

def copyAll : CopyOperation F := fun _ _ source => (source, none)

def throwsAt (index : Nat) (thrown : Thrown) : CopyOperation F :=
  fun i _ source => (source, if i = index then some thrown else none)

/-- A copy that throws after writing keeps what it wrote, and an exception of a third kind
keeps what the copies before it wrote as well. -/
theorem commitTorchAssignments_partial :
    ¬Undone (throwsAt 0 (.torch "copy failed")) copyAll [0] (fun _ => [1]) [[2]] ∧
      ¬Undone (throwsAt 1 (.other "interrupted")) copyAll [0, 1] (fun _ => [1]) [[2], [1]] := by
  constructor
  · rintro ((h | h) | h)
    · exact absurd h (by decide)
    · exact absurd h (by decide)
    · exact absurd (h 0 (by simp)) (by decide)
  · intro h
    exact absurd (h 0 (by simp)) (by decide)

def refusesAt (index : Nat) (thrown : Thrown) : CopyOperation F :=
  fun i target source => if i = index then (target, some thrown) else (source, none)

theorem commitTorchAssignments_undone_refused :
    Undone (refusesAt 1 .badAlloc) copyAll [0, 1] (fun _ => [1]) [[2], [3]] := by
  rw [commitTorchAssignments_undone (fun _ _ _ _ => rfl) rfl]
  intro stop hstop
  cases hstop
  right
  intro target htarget
  cases htarget
  right
  rfl

end Tensora.Training
