import Tensora.Api.Runs
import Tensora.Api.Sample
import Tensora.Training.AssignMany
import Tensora.Training.TorchAssignments

/-! The two branches of `AssignMany`: what a batch leaves of its targets on CPU storage, and
what it leaves of them on LibTorch storage, where nothing is done about their gradients. -/
namespace Tensora
open ProgramLogic

variable {F D : Type}

namespace Training

/-- A tensor over LibTorch storage: the library's tensor, its storage, and the counter of the
tensor that wraps it. -/
structure WrappedTensor where
  value : Nat
  storage : Nat
  counter : Nat
  deriving DecidableEq, Repr

/-- The library's storages and `.grad` fields, and the version counters of the wrappers. -/
structure TorchTensors (F : Type) where
  memory : TorchMemory F
  gradients : Nat → Option (List F)
  versions : Nat → Nat

abbrev TorchM (F : Type) := EStateM Thrown (TorchTensors F)

/-- What `value.detach().clone()` gives, the n-th time it is called. -/
abbrev CloneOperation (F : Type) := Nat → List F → Except Thrown (List F)

def detachClone (clone : CloneOperation F) (index : Nat) (tensor : WrappedTensor) :
    TorchM F (List F) := do
  match clone index ((← get).memory tensor.storage) with
  | .ok data => return data
  | .error thrown => throw thrown

/-- The sources and the backups of a batch of targets and sources. -/
def stageEach (clone : CloneOperation F) :
    Nat → List (WrappedTensor × WrappedTensor) → TorchM F (List (List F × List F))
  | _, [] => return []
  | index, (target, source) :: rest => do
      let staged ← detachClone clone (2 * index) source
      let backup ← detachClone clone (2 * index + 1) target
      let others ← stageEach clone (index + 1) rest
      return (staged, backup) :: others

/-- The clones behind `GuardTorch`, inside `GuardAllocation`. -/
def stageTorch (clone : CloneOperation F) (batch : List (WrappedTensor × WrappedTensor)) :
    TorchM F (Except Failure (List (List F × List F))) :=
  tryCatch (do
    let staged ← stageEach clone 0 batch
    return .ok staged) fun thrown =>
    match thrown with
    | .torch what => return .error (torchFailure "tensor_assign_many" what)
    | .badAlloc => return .error (outOfMemory "tensor_assign_many: allocation failed")
    | thrown => throw thrown

/-- The commit works on the storages alone. -/
def onStorages {α : Type} (program : Commit F α) : TorchM F α := fun w =>
  match program ⟨w.memory, 0⟩ with
  | .ok r s => .ok r { w with memory := s.memory }
  | .error thrown s => .error thrown { w with memory := s.memory }

def incrementWrapped (tensor : WrappedTensor) : TorchM F Unit :=
  modify fun w => { w with
    versions := Function.update w.versions tensor.counter (add64 (w.versions tensor.counter) 1) }

/-- The LibTorch branch of `AssignMany`, on a validated batch. -/
def assignTorch (clone : CloneOperation F) (copy : CopyOperation F)
    (batch : List (WrappedTensor × WrappedTensor)) : TorchM F (Except Failure Unit) := do
  match ← stageTorch clone batch with
  | .error failure => return .error failure
  | .ok staged => do
      let committed ← onStorages (commitTorchAssignments copy copy
        (batch.map fun pair => pair.1.storage) (staged.map Prod.fst) (staged.map Prod.snd))
      match committed with
      | .error failure => return .error failure
      | .ok () => do
          batch.forM fun pair => incrementWrapped pair.1
          return .ok ()

def TorchMemory.assigned (memory : TorchMemory F) (pairs : List (Nat × List F)) : TorchMemory F :=
  pairs.foldl (fun memory pair => Function.update memory pair.1 pair.2) memory

theorem TorchMemory.assigned_of_notMem {memory : TorchMemory F} {pairs : List (Nat × List F)}
    {storage : Nat} (h : storage ∉ pairs.map Prod.fst) :
    memory.assigned pairs storage = memory storage := by
  induction pairs generalizing memory with
  | nil => rfl
  | cons pair rest ih =>
      rw [List.map_cons, List.mem_cons, not_or] at h
      exact (ih h.2).trans (Function.update_of_ne h.1 _ _)

theorem TorchMemory.assigned_of_mem {memory : TorchMemory F} {pairs : List (Nat × List F)}
    (hdistinct : (pairs.map Prod.fst).Nodup) {pair : Nat × List F} (h : pair ∈ pairs) :
    memory.assigned pairs pair.1 = pair.2 := by
  induction pairs generalizing memory with
  | nil => cases h
  | cons head rest ih =>
      obtain ⟨hnew, hrest⟩ := List.nodup_cons.mp hdistinct
      rcases List.mem_cons.mp h with rfl | hmem
      · exact (assigned_of_notMem hnew).trans (Function.update_self _ _ _)
      · exact ih hrest hmem

section Branch
variable {clone : CloneOperation F} {copy : CopyOperation F}

def Clones (clone : CloneOperation F) : Prop :=
  ∀ index data cloned, clone index data = .ok cloned → cloned = data

theorem wp_detachClone (hclone : Clones clone) (index : Nat) (tensor : WrappedTensor)
    (w : TorchTensors F) :
    wp (detachClone clone index tensor) (fun data w' => data = w.memory tensor.storage ∧ w' = w)
      (fun _ w' => w' = w) w := by
  unfold detachClone
  rw [wp_bind, wp_get]
  cases hdata : clone index (w.memory tensor.storage) with
  | ok data => exact ⟨hclone _ _ _ hdata, rfl⟩
  | error thrown => rfl

theorem wp_stageEach (hclone : Clones clone) (batch : List (WrappedTensor × WrappedTensor))
    (index : Nat) (w : TorchTensors F) :
    wp (stageEach clone index batch)
      (fun staged w' => w' = w ∧
        staged.map Prod.fst = batch.map fun pair => w.memory pair.2.storage)
      (fun _ w' => w' = w) w := by
  induction batch generalizing index with
  | nil => exact ⟨rfl, rfl⟩
  | cons pair rest ih =>
      obtain ⟨target, source⟩ := pair
      unfold stageEach
      refine wp_seq (wp_detachClone hclone _ source w) (fun _ _ he => he) ?_
      rintro _ _ ⟨rfl, rfl⟩
      refine wp_seq (wp_detachClone hclone _ target _) (fun _ _ he => he) ?_
      rintro _ w ⟨-, rfl⟩
      refine wp_seq (ih (index + 1)) (fun _ _ he => he) ?_
      rintro staged w ⟨rfl, hstaged⟩
      exact ⟨rfl, by rw [List.map_cons, List.map_cons, hstaged]⟩

def TorchTensors.copied (w : TorchTensors F) (batch : List (WrappedTensor × WrappedTensor)) :
    TorchTensors F :=
  { w with
    memory := w.memory.assigned (batch.map fun pair => (pair.1.storage, w.memory pair.2.storage)) }

structure TorchAssigned (w : TorchTensors F) (batch : List (WrappedTensor × WrappedTensor))
    (w' : TorchTensors F) : Prop where
  memory : w'.memory = (w.copied batch).memory
  gradients : w'.gradients = w.gradients
  versions : (batch.map fun pair => pair.1.counter).Nodup → ∀ pair ∈ batch,
    w'.versions pair.1.counter = add64 (w.versions pair.1.counter) 1

theorem wp_commitEach_all (hcopy : Training.Copies copy) (pairs : List (Nat × List F)) (index : Nat)
    (s : Committing F) :
    wp (commitEach copy index pairs) (fun _ s' => s'.memory = s.memory.assigned pairs)
      (fun _ _ => True) s := by
  induction pairs generalizing index s with
  | nil => exact rfl
  | cons pair rest ih =>
      obtain ⟨target, source⟩ := pair
      unfold commitEach
      rw [wp_bind]
      apply wp_copyInto
      · intro hnone
        rw [wp_bind, wp_modify]
        refine wp_mono (ih (index + 1) _) (fun _ s' h => ?_) fun _ _ _ => trivial
        rw [h, hcopy _ _ _ hnone]
        rfl
      · exact fun _ _ => trivial

theorem wp_commitTorchAssignments (hcopy : Training.Copies copy) (targets : List Nat)
    (staged backups : List (List F)) (s : Committing F) :
    wp (commitTorchAssignments copy copy targets staged backups)
      (fun r s' => r = .ok () → s'.memory = s.memory.assigned (targets.zip staged))
      (fun _ _ => True) s := by
  unfold commitTorchAssignments
  refine wp_tryCatch (P := fun _ _ => True) ?_ ?_
  · exact wp_seq (wp_commitEach_all hcopy _ 0 s) (fun _ _ _ => trivial) fun _ _ h _ => h
  · rintro thrown s' -
    have hrolled : ∀ failed reported : Failure,
        wp (do
          let rolledBack ← rollbackTorch copy targets backups s'.committed
          if !rolledBack then return .error failed
          return .error reported : Commit F (Except Failure Unit))
        (fun r s' => r = .ok () → s'.memory = s.memory.assigned (targets.zip staged))
        (fun _ _ => True) s' := by
      intro failed reported
      refine wp_seq wp_any (fun _ _ _ => trivial) fun rolledBack _ _ => ?_
      cases rolledBack <;> exact fun h => by cases h
    cases thrown with
    | torch what => exact hrolled _ _
    | badAlloc => exact hrolled _ _
    | other what => trivial

theorem wp_incrementEach (batch : List (WrappedTensor × WrappedTensor)) (w : TorchTensors F) :
    wp (batch.forM fun pair => incrementWrapped pair.1)
      (fun _ w' => w'.memory = w.memory ∧ w'.gradients = w.gradients ∧
        ((batch.map fun pair => pair.1.counter).Nodup → ∀ pair ∈ batch,
          w'.versions pair.1.counter = add64 (w.versions pair.1.counter) 1))
      (fun _ _ => True) w := by
  refine wp_forM (fun done rest w' => w'.memory = w.memory ∧ w'.gradients = w.gradients ∧
    ((batch.map fun pair => pair.1.counter).Nodup →
      (∀ pair ∈ done, w'.versions pair.1.counter = add64 (w.versions pair.1.counter) 1) ∧
      ∀ pair ∈ rest, w'.versions pair.1.counter = w.versions pair.1.counter)) batch
    ⟨rfl, rfl, fun _ => ⟨fun _ h => (by cases h), fun _ _ => rfl⟩⟩ ?_ ?_
  · rintro done pair rest w' hsplit ⟨hmemory, hgradients, hversions⟩
    refine ⟨hmemory, hgradients, fun hdistinct => ?_⟩
    obtain ⟨hdone, hrest⟩ := hversions hdistinct
    rw [hsplit, List.map_append, List.map_cons, List.nodup_append] at hdistinct
    obtain ⟨-, hfollowing, hapart⟩ := hdistinct
    constructor
    · intro other hother
      rcases List.mem_append.mp hother with hold | hlast
      · have hne : other.1.counter ≠ pair.1.counter :=
          hapart _ (List.mem_map_of_mem hold) _ List.mem_cons_self
        exact (Function.update_of_ne hne _ _).trans (hdone other hold)
      · obtain rfl := List.mem_singleton.mp hlast
        exact (Function.update_self _ _ _).trans (by rw [hrest _ List.mem_cons_self])
    · intro other hother
      have hne : other.1.counter ≠ pair.1.counter := fun heq =>
        (List.nodup_cons.mp hfollowing).1 (heq ▸ List.mem_map_of_mem hother)
      exact (Function.update_of_ne hne _ _).trans (hrest other (List.mem_cons_of_mem _ hother))
  · rintro w' ⟨hmemory, hgradients, hversions⟩
    exact ⟨hmemory, hgradients, fun hdistinct => (hversions hdistinct).1⟩

theorem wp_assignTorch (hclone : Clones clone) (hcopy : Training.Copies copy)
    (batch : List (WrappedTensor × WrappedTensor)) (w : TorchTensors F) :
    wp (assignTorch clone copy batch) (fun r w' => r = .ok () → TorchAssigned w batch w')
      (fun _ _ => True) w := by
  unfold assignTorch
  refine wp_seq (P := fun r w' => w' = w ∧ ∀ staged, r = .ok staged →
    staged.map Prod.fst = batch.map fun pair => w.memory pair.2.storage)
    (R := fun _ _ => True) ?_ (fun _ _ _ => trivial) ?_
  · refine wp_tryCatch (P := fun _ w' => w' = w) ?_ ?_
    · refine wp_seq (wp_stageEach hclone batch 0 w) (fun _ _ he => he) ?_
      rintro staged w ⟨rfl, hstaged⟩
      refine ⟨rfl, fun staged' h => ?_⟩
      cases h
      exact hstaged
    · rintro thrown w rfl
      cases thrown with
      | torch what => exact ⟨rfl, fun _ h => by cases h⟩
      | badAlloc => exact ⟨rfl, fun _ h => by cases h⟩
      | other what => trivial
  rintro r w ⟨rfl, hr⟩
  cases r with
  | error failure => exact fun h => by cases h
  | ok staged =>
      have hstaged := hr staged rfl
      have hzip : (batch.map fun pair => pair.1.storage).zip (staged.map Prod.fst) =
          batch.map fun pair => (pair.1.storage, w.memory pair.2.storage) := by
        rw [hstaged, List.zip_map']
      refine wp_seq (P := fun r w' => r = .ok () → w' = w.copied batch) (R := fun _ _ => True) ?_
        (fun _ _ _ => trivial) ?_
      · have hcommit := wp_commitTorchAssignments hcopy (batch.map fun pair => pair.1.storage)
          (staged.map Prod.fst) (staged.map Prod.snd) ⟨w.memory, 0⟩
        rw [hzip] at hcommit
        unfold wp onStorages
        unfold wp at hcommit
        cases hrun : commitTorchAssignments copy copy (batch.map fun pair => pair.1.storage)
            (staged.map Prod.fst) (staged.map Prod.snd) ⟨w.memory, 0⟩ with
        | error _ _ => trivial
        | ok r s =>
            rw [hrun] at hcommit
            exact fun hok => by rw [hcommit hok]; rfl
      · rintro r w' hcommitted
        cases r with
        | error failure => exact fun h => by cases h
        | ok done =>
            obtain rfl := hcommitted rfl
            refine wp_seq (wp_incrementEach batch (w.copied batch)) (fun _ _ _ => trivial) ?_
            rintro _ w' ⟨hmemory, hgradients, hversions⟩ -
            exact ⟨hmemory, hgradients, hversions⟩

end Branch

end Training

namespace Api
open Training

/-- What a program can tell of a tensor: its values, its version, and whether a step of an
optimizer would update it. -/
structure Logical (F : Type) where
  values : List F
  version : Nat
  graded : Bool
  deriving DecidableEq

def logicalCpu (h : Heap F) (tensor : TensorId) : Logical F :=
  ⟨h.contents tensor, h.version tensor, h.graded tensor⟩

def logicalTorch (w : TorchTensors F) (tensor : WrappedTensor) : Logical F :=
  ⟨w.memory tensor.storage, w.versions tensor.counter, (w.gradients tensor.value).isSome⟩

/-- The same batch in the same state: what can be told of the tensors is the same, and targets
that share something on one backend share their storage on the other. -/
structure SameBatch (h : Heap F) (w : TorchTensors F) (pairs : List (TensorId × TensorId))
    (batch : List (WrappedTensor × WrappedTensor)) : Prop where
  tensors : List.Forall₂ (fun p b => logicalCpu h p.1 = logicalTorch w b.1 ∧
    logicalCpu h p.2 = logicalTorch w b.2) pairs batch
  sharing : ∀ x ∈ pairs.zip batch, ∀ y ∈ pairs.zip batch,
    x.2.1.storage = y.2.1.storage ∨ x.2.1.counter = y.2.1.counter →
      h.storageOf x.1.1 = h.storageOf y.1.1

section Comparison
variable {h h' : Heap F} {w w' : TorchTensors F} {pairs : List (TensorId × TensorId)}
  {batch : List (WrappedTensor × WrappedTensor)}

theorem SameBatch.distinct (same : SameBatch h w pairs batch)
    (hseparate : (pairs.map fun p => h.storageOf p.1).Nodup) (key : WrappedTensor → Nat)
    (hkey : ∀ x y : WrappedTensor, key x = key y → x.storage = y.storage ∨ x.counter = y.counter) :
    (batch.map fun b => key b.1).Nodup := by
  have hlen := same.tensors.length_eq
  have hpairs : (pairs.zip batch).map Prod.fst = pairs := List.map_fst_zip (by omega)
  have hbatch : (pairs.zip batch).map Prod.snd = batch := List.map_snd_zip (by omega)
  rw [← hpairs, List.map_map, List.Nodup, List.pairwise_map] at hseparate
  rw [← hbatch, List.map_map, List.Nodup, List.pairwise_map]
  exact hseparate.imp_of_mem fun hx hy hne heq => hne (same.sharing _ hx _ hy (hkey _ _ heq))

theorem logical_agree_iff (same : SameBatch h w pairs batch) {checked : Batch}
    (ok : checked.Ok h) (hchecked : checked.pairs = pairs)
    (cpu : Assigned h (staged h pairs) h') (torch : TorchAssigned w batch w') :
    List.Forall₂ (fun p b => logicalCpu h' p.1 = logicalTorch w' b.1) pairs batch ↔
      ∀ p ∈ pairs, h.gradient p.1 = none := by
  subst hchecked
  have hstorages := same.distinct ok.separate WrappedTensor.storage fun _ _ heq => Or.inl heq
  have hcounters := same.distinct ok.separate WrappedTensor.counter fun _ _ heq => Or.inr heq
  have htargets : (staged h checked.pairs).map Prod.fst = checked.pairs.map Prod.fst := by
    rw [staged, List.map_map]
    rfl
  have hbefore := List.forall₂_iff_zip.mp same.tensors
  -- values and versions agree in any case, and the gradient is gone on the CPU only
  have hpair : ∀ p b, (p, b) ∈ checked.pairs.zip batch →
      (logicalCpu h' p.1 = logicalTorch w' b.1 ↔ h.gradient p.1 = none) := by
    intro p b hmem
    obtain ⟨htarget, hsource⟩ := hbefore.2 hmem
    have hp := (List.of_mem_zip hmem).1
    have hb := (List.of_mem_zip hmem).2
    have hstaged : (p.1, h.contents p.2) ∈ staged h checked.pairs := List.mem_map_of_mem hp
    have hcontents := cpu.contents _ hstaged
    have hversion := cpu.versions p.1 (ok.targets p hp).1
    rw [if_pos (List.mem_map.mpr ⟨_, hstaged, rfl⟩)] at hversion
    have hgradient := cpu.gradients p.1
    rw [htargets, if_pos (List.mem_map_of_mem hp)] at hgradient
    have hmemory : w'.memory b.1.storage = w.memory b.2.storage := by
      rw [torch.memory]
      exact TorchMemory.assigned_of_mem (by rw [List.map_map]; exact hstorages)
        (List.mem_map_of_mem (f := fun pair : WrappedTensor × WrappedTensor =>
          (pair.1.storage, w.memory pair.2.storage)) hb)
    have hcounted := torch.versions hcounters b hb
    simp only [logicalCpu, logicalTorch, Logical.mk.injEq] at htarget hsource ⊢
    rw [hcontents, hsource.1, hmemory, hversion, hcounted, htarget.2.1, Heap.graded, hgradient,
      torch.gradients, ← htarget.2.2, Heap.graded]
    refine ⟨fun hall => ?_, fun hnone => ⟨rfl, rfl, by rw [hnone]⟩⟩
    exact Option.isNone_iff_eq_none.mp (Option.isSome_eq_false_iff.mp hall.2.2.symm)
  constructor
  · intro hagree p hp
    obtain ⟨hlen, hall⟩ := List.forall₂_iff_zip.mp hagree
    obtain ⟨i, hi, rfl⟩ := List.getElem_of_mem hp
    have hi' : i < batch.length := hlen ▸ hi
    have hmem : (checked.pairs[i], batch[i]) ∈ checked.pairs.zip batch := by
      rw [← List.getElem_zip (h := by rw [List.length_zip]; omega)]
      exact List.getElem_mem _
    exact (hpair _ _ hmem).mp (hall hmem)
  · intro hnone
    exact List.forall₂_iff_zip.mpr ⟨hbefore.1, fun hmem =>
      (hpair _ _ hmem).mpr (hnone _ (List.of_mem_zip hmem).1)⟩

end Comparison

section Calls
variable [Scalar F] [Scalar D] [Precision F D] [FloatBits F] {s s' : Runtime F D}

omit [Scalar F] [Scalar D] [Precision F D] [FloatBits F] in
theorem resolved_unique {handles : List (Nat × Nat)} {pairs pairs' : List (TensorId × TensorId)}
    (h : List.Forall₂ (fun handle p => s.Resolves handle.1 p.1 ∧ s.Resolves handle.2 p.2) handles
      pairs)
    (h' : List.Forall₂ (fun handle p => s.Resolves handle.1 p.1 ∧ s.Resolves handle.2 p.2) handles
      pairs') : pairs = pairs' := by
  induction h generalizing pairs' with
  | nil => cases h'; rfl
  | cons hp _ ih =>
      cases h' with
      | cons hp' hrest =>
          rw [ih hrest, Prod.ext (Option.some.inj (hp.1.symm.trans hp'.1))
            (Option.some.inj (hp.2.symm.trans hp'.2))]

/-- A batch that both branches assign leaves its targets alike exactly if none of them held a
gradient. -/
theorem assignMany_backends_agree_iff (hs : Reachable s) {targets sources : Option (List Nat)}
    {count : Nat} {reply : Reply F}
    (hcpu : exec (.tensorAssignMany targets sources count) s = .ok reply s')
    {pairs : List (TensorId × TensorId)} (hpairs : Resolved s targets sources count pairs)
    {w w' : TorchTensors F} {batch : List (WrappedTensor × WrappedTensor)}
    (same : SameBatch s.heap w pairs batch) {clone : CloneOperation F} {copy : CopyOperation F}
    (hclone : Clones clone) (hcopy : Training.Copies copy)
    (htorch : assignTorch clone copy batch w = .ok (.ok ()) w') :
    List.Forall₂ (fun p b => logicalCpu s'.heap p.1 = logicalTorch w' b.1) pairs batch ↔
      ∀ p ∈ pairs, s.heap.gradient p.1 = none := by
  have hassign : wp (exec (.tensorAssignMany targets sources count))
      (fun _ s' => ∃ checked : Batch, Resolved s targets sources count checked.pairs ∧
        checked.Ok s.heap ∧ Assigned s.heap (staged s.heap checked.pairs) s'.heap)
      (fun _ _ => True) s := by
    refine wp_seq (wp_assignMany hs.ok targets sources count) (fun _ _ _ => trivial) ?_
    rintro _ _ ⟨a, h', checked, rfl, hresolved, -, hchecked, hassigned⟩
    exact ⟨checked, hresolved, hchecked, hassigned⟩
  obtain ⟨checked, hresolved, hchecked, hassigned⟩ := wp_of_ok hassign hcpu
  have hunique := resolved_unique hresolved hpairs
  rw [hunique] at hassigned
  exact logical_agree_iff same hchecked hunique hassigned
    (wp_of_ok (wp_assignTorch hclone hcopy batch w) htorch rfl)

end Calls

def leafAndSourceCalls : List (Call Word Word) :=
  [.tensorFromF32 [3] [1], .tensorWithRequiresGrad 1 true, .tensorFromF32 [5] [1]]

def gradedLeafCalls : List (Call Word Word) :=
  [.tensorFromF32 [3] [1], .tensorWithRequiresGrad 1 true, .tensorSum 2, .tensorBackward 3,
    .tensorFromF32 [5] [1]]

def torchLeaf : WrappedTensor := ⟨0, 0, 0⟩
def torchSource : WrappedTensor := ⟨1, 1, 1⟩

def torchTensors (graded : Bool) : TorchTensors Word where
  memory storage := if storage = 0 then [3] else [5]
  gradients value := if graded ∧ value = 0 then some [1] else none
  versions _ := 0

def cloneAll : CloneOperation Word := fun _ data => .ok data

/-- Both branches assign, and only LibTorch keeps the gradient of before. -/
theorem assignMany_keeps_gradient : ∃ reply s' w',
    exec (.tensorAssignMany (some [2]) (some [4]) 1) (sampleRun gradedLeafCalls) = .ok reply s' ∧
      Resolved (sampleRun gradedLeafCalls) (some [2]) (some [4]) 1 [(1, 7)] ∧
      SameBatch (sampleRun gradedLeafCalls).heap (torchTensors true) [(1, 7)]
        [(torchLeaf, torchSource)] ∧
      assignTorch cloneAll copyAll [(torchLeaf, torchSource)] (torchTensors true) =
        .ok (.ok ()) w' ∧
      logicalCpu s'.heap 1 = ⟨[5], 1, false⟩ ∧ logicalTorch w' torchLeaf = ⟨[5], 1, true⟩ := by
  obtain ⟨reply, hexec⟩ := ok_of_returns (by decide +kernel : returns (sampleRun gradedLeafCalls)
    (.tensorAssignMany (some [2]) (some [4]) 1) = true)
  have htarget : (sampleRun gradedLeafCalls).objectOf 2 .tensor = some 1 := by decide +kernel
  have hsource : (sampleRun gradedLeafCalls).objectOf 4 .tensor = some 7 := by decide +kernel
  refine ⟨reply, _, _, hexec, .cons ⟨htarget, hsource⟩ .nil, ⟨.cons ⟨?_, ?_⟩ .nil, ?_⟩, rfl, ?_,
    rfl⟩
  · decide +kernel
  · decide +kernel
  · intro x hx y hy _
    rw [List.mem_singleton.mp hx, List.mem_singleton.mp hy]
  · decide +kernel

theorem assignMany_backends_agree_plain : ∃ w',
    assignTorch cloneAll copyAll [(torchLeaf, torchSource)] (torchTensors false) =
        .ok (.ok ()) w' ∧
      List.Forall₂ (fun p b => logicalCpu (after (sampleRun leafAndSourceCalls)
        (.tensorAssignMany (some [2]) (some [3]) 1)).heap p.1 = logicalTorch w' b.1) [(1, 2)]
        [(torchLeaf, torchSource)] := by
  obtain ⟨reply, hexec⟩ := ok_of_returns (by decide +kernel : returns
    (sampleRun leafAndSourceCalls) (.tensorAssignMany (some [2]) (some [3]) 1) = true)
  have htarget : (sampleRun leafAndSourceCalls).objectOf 2 .tensor = some 1 := by decide +kernel
  have hsource : (sampleRun leafAndSourceCalls).objectOf 3 .tensor = some 2 := by decide +kernel
  have hsame : SameBatch (sampleRun leafAndSourceCalls).heap (torchTensors false) [(1, 2)]
      [(torchLeaf, torchSource)] := by
    refine ⟨.cons ⟨?_, ?_⟩ .nil, ?_⟩
    · decide +kernel
    · decide +kernel
    · intro x hx y hy _
      rw [List.mem_singleton.mp hx, List.mem_singleton.mp hy]
  have hclone : Clones cloneAll := by
    intro _ _ _ h
    cases h
    rfl
  have hcopy : Training.Copies (copyAll : CopyOperation Word) := fun _ _ _ _ => rfl
  have hreachable : Reachable (sampleRun leafAndSourceCalls) := ⟨_, _, _, rfl⟩
  have hresolved : Resolved (sampleRun leafAndSourceCalls) (some [2]) (some [3]) 1 [(1, 2)] :=
    .cons ⟨htarget, hsource⟩ .nil
  refine ⟨_, rfl, (assignMany_backends_agree_iff hreachable hexec hresolved hsame hclone
    hcopy rfl).mpr ?_⟩
  intro p hp
  obtain rfl := List.mem_singleton.mp hp
  decide +kernel

end Api

end Tensora
