import Tensora.Autograd.Backward
import Tensora.Tensor.MemoryLogic

/-! Programs formed from the operations of the memory. None of them reads the list of
mutations, and they learn of the allocator only whether their allocations succeed. -/
namespace Tensora
open ProgramLogic

variable {F α β : Type}

def Heap.erased (h : Heap F) : Heap F := { h with mutations := [] }

inductive Formed : {α : Type} → Mem F α → Prop where
  | pure {α : Type} (a : α) : Formed (pure a)
  | throw {α : Type} (e : Failure) : Formed (throw e : Mem F α)
  | bind {α β : Type} {x : Mem F α} {f : α → Mem F β} (hx : Formed x) (hf : ∀ a, Formed (f a)) :
      Formed (x >>= f)
  | tryCatch {α : Type} {x : Mem F α} {handle : Failure → Mem F α} (hx : Formed x)
      (hh : ∀ e, Formed (handle e)) : Formed (tryCatch x handle)
  | allocate : Formed allocate
  | heap : Formed (do return (← getHeap).erased)
  | edit (g : Heap F → Heap F) (hg : ∀ h : Heap F, (g h.erased).erased = (g h).erased) :
      Formed (modifyHeap g)

namespace Formed
variable {x : Mem F α}

theorem ite {c : Prop} [Decidable c] {y : Mem F α} (hx : c → Formed x) (hy : ¬c → Formed y) :
    Formed (if c then x else y) := by
  split
  · exact hx ‹_›
  · exact hy ‹_›

theorem read {f : Heap F → Mem F α} (hf : ∀ h, Formed (f h))
    (hblind : ∀ h : Heap F, f h.erased = f h) : Formed (getHeap >>= f) := by
  have h := heap.bind hf
  simpa only [bind_assoc, pure_bind, hblind] using h

theorem foldlM {g : β → α → Mem F β} (hg : ∀ b a, Formed (g b a)) (xs : List α) (b : β) :
    Formed (xs.foldlM g b) := by
  induction xs generalizing b with
  | nil => exact pure b
  | cons a xs ih =>
      rw [List.foldlM_cons]
      exact (hg b a).bind ih

theorem mapM {g : α → Mem F β} (hg : ∀ a, Formed (g a)) (xs : List α) : Formed (xs.mapM g) := by
  induction xs with
  | nil => exact pure []
  | cons a xs ih =>
      rw [List.mapM_cons]
      exact (hg a).bind fun b => ih.bind fun bs => pure (b :: bs)

theorem forM {g : α → Mem F PUnit} (hg : ∀ a, Formed (g a)) (xs : List α) :
    Formed (xs.forM g) := by
  induction xs with
  | nil => exact pure PUnit.unit
  | cons a xs ih => exact (hg a).bind fun _ => ih

end Formed

theorem formed_failIf (condition : Prop) [Decidable condition] (e : Failure) :
    Formed (failIf condition e : Mem F Unit) :=
  Formed.ite (fun _ => .throw e) fun _ => .pure ()

theorem formed_checked (kernel : Except CheckedLoop.Fault α) :
    Formed (checked kernel : Mem F α) := by
  cases kernel with
  | ok a => exact .pure a
  | error fault => exact .throw _

theorem formed_allocationGuard (operation : String) {x : Mem F α} (hx : Formed x) :
    Formed (allocationGuard operation x) := by
  refine hx.tryCatch fun e => ?_
  cases e <;> exact .throw _

theorem formed_allocate : Formed (allocate : Mem F Unit) := .allocate

theorem formed_modifyHeap (g : Heap F → Heap F)
    (hg : ∀ h : Heap F, (g h.erased).erased = (g h).erased) : Formed (modifyHeap g) := .edit g hg

theorem formed_allocateFloats (size : Nat) : Formed (allocateFloats size : Mem F Unit) :=
  (formed_failIf _ _).bind fun _ => formed_allocate

theorem formed_deref (id : TensorId) : Formed (deref id : Mem F Tensor) := by
  refine Formed.read (fun h => ?_) fun _ => rfl
  split
  · exact .pure _
  · exact .throw _

theorem formed_storageValues (t : Tensor) : Formed (storageValues t : Mem F (List F)) := by
  refine Formed.read (fun h => ?_) fun _ => rfl
  split
  · exact .pure _
  · exact .throw _

theorem formed_version (t : Tensor) : Formed (version t : Mem F Nat) := by
  refine Formed.read (fun h => ?_) fun _ => rfl
  split
  · exact .pure _
  · exact .throw _

theorem formed_identity (t : Tensor) : Formed (identity t : Mem F Nat) := by
  refine Formed.read (fun h => ?_) fun _ => rfl
  split
  · exact .pure _
  · exact .throw _

theorem formed_makeSharedTensor (shape : ShapeInfo) (values : List F) :
    Formed (makeSharedTensor shape values : Mem F TensorId) :=
  formed_allocate.bind fun _ => formed_allocate.bind fun _ => .read (fun _ =>
    (formed_modifyHeap _ fun _ => rfl).bind fun _ => formed_allocate.bind fun _ =>
      .read (fun _ => (formed_modifyHeap _ fun _ => rfl).bind fun _ => .pure _) fun _ => rfl)
    fun _ => rfl

theorem formed_validatedShape (dims : List Int) :
    Formed (validatedShape dims : Mem F ShapeInfo) := by
  refine formed_allocate.bind fun _ => ?_
  split
  · exact .pure _
  · exact .throw _

theorem formed_cpuStorageFilled (numel : Nat) (value : F) :
    Formed (cpuStorageFilled numel value : Mem F (List F)) :=
  formed_allocationGuard _ ((formed_allocateFloats _).bind fun _ => .pure _)

theorem formed_cpuStorageFromData (data : List F) (numel : Nat) :
    Formed (cpuStorageFromData data numel : Mem F (List F)) :=
  formed_allocationGuard _ ((formed_allocateFloats _).bind fun _ =>
    (formed_failIf _ _).bind fun _ => .pure _)

theorem formed_copyToHostF32 (t : Tensor) (capacity : Nat) :
    Formed (t.copyToHostF32 capacity : Mem F (List F)) := by
  unfold Tensor.copyToHostF32
  refine (formed_failIf _ _).bind fun _ => (formed_failIf _ _).bind fun _ =>
    (formed_storageValues t).bind fun values => .ite (fun _ => ?_) fun _ => ?_
  · exact ((formed_failIf _ _).bind fun _ => .pure _).bind fun _ =>
      (formed_failIf _ _).bind fun _ => .pure _
  · refine (formed_failIf _ _).bind fun _ => .mapM (fun i => ?_) _
    split
    · exact .pure _
    · exact .throw _
end Tensora
