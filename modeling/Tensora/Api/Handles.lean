import Tensora.Api.CreationCalls

/-! What handles go on standing for while others are issued. -/
namespace Tensora.Api
open ProgramLogic Training

variable {F D α : Type}
variable {s s' s'' : Runtime F D} {R : Heap F → Heap F → Prop}

structure Names (s s' : Runtime F D) : Prop where
  objects : ∀ handle type object, s.objectOf handle type = some object →
    s'.objectOf handle type = some object
  modules : s'.modules = s.modules

theorem Names.refl (s : Runtime F D) : Names s s := ⟨fun _ _ _ h => h, rfl⟩

theorem Names.trans (a : Names s s') (b : Names s' s'') : Names s s'' :=
  ⟨fun handle type object h => b.objects handle type object (a.objects handle type object h),
    b.modules.trans a.modules⟩

theorem Names.moduleAt (a : Names s s') {module : Nat} {r : Nat × LinearState}
    (h : s.moduleAt module = some r) : s'.moduleAt module = some r := by
  unfold Runtime.moduleAt at h ⊢
  obtain ⟨object, hobject, hget⟩ := Option.bind_eq_some_iff.mp h
  rw [a.objects module .module object hobject, a.modules]
  exact hget

theorem keeps_onMemory_names {program : Mem F α} {Q : α → Runtime F D → Prop}
    (hx : Keeps R (onMemory program : Native F D α) s Q) :
    Keeps R (onMemory program : Native F D α) s fun r s' => Q r s' ∧ Names s s' := by
  unfold Keeps at hx ⊢
  rw [wp_onMemory] at hx ⊢
  refine wp_mono hx ?_ fun _ _ he => he
  rintro r m ⟨ok, hr, hq⟩
  exact ⟨ok, hr, hq, fun _ _ _ h => h, rfl⟩

theorem names_withEntry {s₁ : Runtime F D} (later : s.Later s₁) (hnone : s.registry.refuses = none)
    (type : HandleType) (object : Nat) :
    Names s { s₁ with registry := s.registry.withEntry type object } := by
  obtain ⟨n, rfl⟩ := later
  refine ⟨fun handle type' object' h => ?_, rfl⟩
  have hne : handle ≠ s.registry.nextHandle := by
    rintro rfl
    unfold Runtime.objectOf at h
    split at h
    · cases h
    obtain ⟨entry, hfind, -⟩ := Option.bind_eq_some_iff.mp h
    unfold HandleRegistry.refuses at hnone
    rw [hfind] at hnone
    split at hnone <;> cases hnone
  unfold Runtime.objectOf at h ⊢
  rw [HandleRegistry.find, HandleRegistry.withEntry, List.lookup_cons, beq_eq_false_iff_ne.mpr hne]
  exact h

theorem keeps_insertTensor_names (c : Chained R) (ok : s.Ok) {object : TensorId}
    (hv : s.heap.Visible object) :
    Keeps R (insertTensor object : Native F D Nat) s fun handle s' =>
      s'.objectOf handle .tensor = some object ∧ s'.heap = s.heap ∧ Names s s' := by
  refine wp_mono (wp_and (keeps_insertTensor c ok hv) (wp_insertHandle_withEntry .tensor object))
    ?_ fun _ _ he => he.1
  rintro handle s' ⟨⟨ok', hr, hobject, hheap⟩, hnone, -, s₁, later, rfl⟩
  exact ⟨ok', hr, hobject, hheap, names_withEntry later hnone .tensor object⟩

theorem keeps_insert_reply (c : Chained R) (ok : s.Ok)
    {object : TensorId} (hv : s.heap.Visible object) :
    Keeps R (do return .handle (← insertTensor object) : Native F D (Reply F)) s
      fun reply s' => ∃ handle, reply = .handle handle ∧
        s'.objectOf handle .tensor = some object ∧ s'.heap = s.heap ∧ Names s s' := by
  refine Keeps.bind c (keeps_insertTensor_names c ok hv) ?_
  rintro handle s₁ ok₁ - h
  exact keeps_pure c ok₁ ⟨handle, rfl, h⟩

theorem wp_insert_reply_names {object : TensorId} (names : Names s s') :
    wp (do return .handle (← insertTensor object) : Native F D (Reply F)) (fun _ => Names s)
      (fun _ _ => True) s' := by
  refine wp_seq (wp_insertHandle_withEntry .tensor object) (fun _ _ _ => trivial) ?_
  rintro handle _ ⟨hnone, -, s₁, later, rfl⟩
  exact names.trans (names_withEntry later hnone .tensor object)

theorem wp_onMemory_names {β : Type} {program : Mem F α} {f : α → Native F D β}
    (hf : ∀ r s₁, Names s s₁ → wp (f r) (fun _ => Names s) (fun _ _ => True) s₁)
    (names : Names s s') :
    wp (onMemory program >>= f) (fun _ => Names s) (fun _ _ => True) s' := by
  refine wp_seq (P := fun _ s₁ => Names s s₁) (R := fun _ _ => True) ?_ (fun _ _ _ => trivial) hf
  rw [wp_onMemory]
  refine wp_mono wp_any (fun r m _ => ?_) fun _ _ _ => trivial
  exact names.trans ⟨fun _ _ _ h => h, rfl⟩

theorem wp_runUnary_names (tensor : Nat) (operation : TensorId → Mem F TensorId)
    (names : Names s s') :
    wp (runUnary tensor operation : Native F D (Reply F)) (fun _ => Names s) (fun _ _ => True)
      s' := by
  unfold runUnary lookupTensor
  refine wp_lookupObject_or tensor .tensor (fun _ _ => trivial) fun id _ => ?_
  exact wp_onMemory_names (fun r s₁ names₁ => wp_insert_reply_names names₁) names

theorem wp_tensorFromF32_names [Scalar F] (data : List F) (dims : List Int) :
    wp (tensorFromF32 data dims : Native F D (Reply F)) (fun _ => Names s) (fun _ _ => True) s := by
  unfold tensorFromF32
  refine wp_onMemory_names (fun shape s₁ names₁ => ?_) (.refl s)
  rw [wp_bind, wp_failIf]
  refine ⟨fun _ => trivial, fun _ => ?_⟩
  exact wp_onMemory_names (fun r s₂ names₂ => wp_insert_reply_names names₂) names₁

theorem wp_tensorReshape_names [Scalar F] (tensor : Nat) (dims : List Int) :
    wp (tensorReshape tensor dims : Native F D (Reply F)) (fun _ => Names s) (fun _ _ => True)
      s := by
  unfold tensorReshape
  exact wp_onMemory_names (fun shape s₁ names₁ => wp_runUnary_names _ _ names₁) (.refl s)

end Tensora.Api
