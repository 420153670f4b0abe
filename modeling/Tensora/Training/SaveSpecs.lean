import Tensora.Training.CheckpointSpecs

/-! What `ModuleSave` writes: the checkpoint of the module's parameters, unless the
file cannot hold it. -/
namespace Tensora
open ByteCodec ProgramLogic

variable {F D : Type}

def Runtime.withFile (s : Runtime F D) (path : String) (bytes : List Byte) : Runtime F D :=
  { s with files := { s.files with
    contents := Function.update s.files.contents path (some bytes) } }

namespace Runtime
variable {s : Runtime F D} {path : String}

@[simp] theorem contents_withFile (bytes : List Byte) :
    (s.withFile path bytes).files.contents path = some bytes :=
  Function.update_self path _ _

@[simp] theorem capacity_withFile (bytes : List Byte) :
    (s.withFile path bytes).files.capacity = s.files.capacity := rfl

@[simp] theorem heap_withFile (bytes : List Byte) : (s.withFile path bytes).heap = s.heap := rfl

@[simp] theorem withFile_withFile (bytes bytes' : List Byte) :
    (s.withFile path bytes).withFile path bytes' = s.withFile path bytes' := by
  simp only [withFile, Function.update_idem]

theorem Ok.withFile (ok : s.Ok) (bytes : List Byte) : (s.withFile path bytes).Ok :=
  ⟨ok.wellFormed, ok.versioned, ok.tensors, ok.modules, ok.optimizers, ok.parameterOptimizers,
    ok.handles⟩

end Runtime

namespace Training
variable [FloatBits F]

/-- The checkpoint `ModuleSave` writes. -/
def LinearState.image (state : LinearState) (h : Heap F) : List Byte :=
  checkpointBytes state (if state.useBias then 1 else 0) (payloadOf (h.contents state.weight))
    (state.bias.elim [] fun bias => payloadOf (h.contents bias))

section Writing
variable {s : Runtime F D} {path : String}

abbrev Appends (x : Native F D Unit) (s : Runtime F D) (path : String) (prev bytes : List Byte) :
    Prop :=
  wp x (fun _ s' => s' = s.withFile path (prev ++ bytes) ∧
    (prev ++ bytes).length ≤ s.files.capacity)
    (fun _ s' => (∃ left, s' = s.withFile path left) ∧ s.files.capacity < (prev ++ bytes).length)
    (s.withFile path prev)

omit [FloatBits F] in
theorem appends_writeBytes (prev bytes : List Byte) (message : String) :
    Appends (writeBytes path bytes message) s path prev bytes := by
  unfold writeBytes
  simp only [wp_bind, wp_get, wp_modify, wp_failIf, Runtime.contents_withFile, Option.getD_some,
    Runtime.capacity_withFile]
  refine ⟨fun hlt => ⟨⟨_, Runtime.withFile_withFile prev _⟩, hlt⟩, fun hle => ?_⟩
  rw [Nat.not_lt] at hle
  refine ⟨?_, hle⟩
  rw [List.take_of_length_le hle]
  exact Runtime.withFile_withFile prev _

omit [FloatBits F] in
theorem Appends.andThen {x : Native F D Unit} {y : Unit → Native F D Unit}
    {prev first second : List Byte} (hx : Appends x s path prev first)
    (hy : Appends (y ()) s path (prev ++ first) second) :
    Appends (x >>= y) s path prev (first ++ second) := by
  unfold Appends at *
  refine wp_seq hx ?_ ?_
  · rintro e s' ⟨hleft, hlt⟩
    refine ⟨hleft, hlt.trans_le ?_⟩
    simp only [List.length_append]
    omega
  · rintro _ _ ⟨rfl, -⟩
    rwa [← List.append_assoc]

omit [FloatBits F] in
theorem Appends.afterRead {α : Type} {read : Mem F α} {r : α} {y : α → Native F D Unit}
    {prev bytes : List Byte} (hread : read s.memory = .ok r s.memory)
    (hy : Appends (y r) s path prev bytes) : Appends (onMemory read >>= y) s path prev bytes := by
  have hrun : wp read (fun r' m => r' = r ∧ m = s.memory) (fun _ _ => False) s.memory := by
    unfold wp
    rw [hread]
    exact ⟨rfl, rfl⟩
  unfold Appends at *
  rw [wp_bind, wp_onMemory]
  refine wp_mono hrun ?_ fun _ _ he => he.elim
  rintro _ _ ⟨rfl, rfl⟩
  exact hy

theorem appends_saveTensor (wf : WellFormed s.heap) {id : TensorId} (hv : s.heap.Visible id)
    (hc : s.heap.contiguous id = true) (prev : List Byte) :
    Appends (saveTensor path id) s path prev
      (tensorBytes (s.heap.dims id) (payloadOf (s.heap.contents id))) := by
  obtain ⟨t, ht⟩ := hv.get
  have hn := Heap.Visible.numel wf ht
  unfold saveTensor
  refine Appends.afterRead (deref_eq ht) ?_
  rw [tensorBytes, Heap.dims_of ht, List.append_assoc, List.append_assoc, hn, Heap.dims_of ht]
  refine Appends.andThen (appends_writeBytes _ _ _) ?_
  refine Appends.andThen (appends_writeBytes _ _ _) ?_
  refine Appends.andThen (appends_writeBytes _ _ _) ?_
  refine Appends.afterRead (Autograd.cpuValues_eq wf ht ?_ _) (appends_writeBytes _ _ _)
  rw [← Heap.contiguous_of ht, hc]

omit [FloatBits F] in
theorem wp_openForWriting :
    wp (openForWriting path : Native F D Unit)
      (fun _ s' => s' = s.withFile path [] ∧ s.files.writable path = true)
      (fun _ s' => s' = s ∧ s.files.writable path = false) s := by
  simp only [openForWriting, wp_bind, wp_get, wp_failIf, wp_modify]
  exact ⟨fun hw => ⟨trivial, by simpa using hw⟩, fun hw => ⟨rfl, by simpa using hw⟩⟩

theorem appends_image {state : LinearState} (wf : WellFormed s.heap) (hstate : state.Ok s.heap) :
    Appends (F := F) (D := D) (do
      writeBytes path (checkpointHeader state) "module_save: failed to write checkpoint header"
      saveTensor path state.weight
      match state.useBias, state.bias with
      | false, _ => pure ()
      | true, some bias => saveTensor path bias
      | true, none => throw .danglingReference) s path [] (state.image s.heap) := by
  have huse := hstate.useBias
  unfold LinearState.image checkpointBytes
  refine Appends.andThen (appends_writeBytes _ _ _) ?_
  rw [← hstate.weight_dims]
  cases hub : state.useBias with
  | false =>
      simp only [Bool.false_eq_true, if_false, List.append_nil]
      rw [bind_pure]
      exact appends_saveTensor wf hstate.weight_visible hstate.weight_rowMajor _
  | true =>
      rw [hub] at huse
      cases hb : state.bias with
      | none => rw [hb] at huse; cases huse
      | some b =>
          simp only [if_true, Option.elim_some]
          refine Appends.andThen
            (appends_saveTensor wf hstate.weight_visible hstate.weight_rowMajor _) ?_
          rw [← hstate.bias_dims b hb]
          exact appends_saveTensor wf (hstate.bias_visible b hb) (hstate.bias_rowMajor b hb) _

theorem wp_saveState {state : LinearState} (wf : WellFormed s.heap) (hstate : state.Ok s.heap)
    (path : String) :
    wp (do
      openForWriting path
      writeBytes path (checkpointHeader state) "module_save: failed to write checkpoint header"
      saveTensor path state.weight
      match state.useBias, state.bias with
      | false, _ => pure ()
      | true, some bias => saveTensor path bias
      | true, none => throw .danglingReference : Native F D Unit)
      (fun _ s' => s' = s.withFile path (state.image s.heap) ∧ s.files.writable path = true ∧
        (state.image s.heap).length ≤ s.files.capacity)
      (fun _ s' => (s' = s ∧ s.files.writable path = false) ∨
        (∃ left, s' = s.withFile path left) ∧
          s.files.capacity < (state.image s.heap).length) s := by
  refine wp_seq wp_openForWriting (fun _ _ he => Or.inl he) ?_
  rintro _ _ ⟨rfl, hwritable⟩
  refine wp_mono (appends_image wf hstate) ?_ ?_
  · rintro _ _ ⟨rfl, hle⟩
    exact ⟨rfl, hwritable, hle⟩
  · rintro e s' ⟨hleft, hlt⟩
    exact Or.inr ⟨hleft, hlt⟩

theorem wp_moduleSave (ok : s.Ok) {module object : Nat} {state : LinearState}
    (hm : s.moduleAt module = some (object, state)) :
    wp (moduleSave module path)
      (fun _ s' => s' = s.withFile path (state.image s.heap) ∧ path.isEmpty = false ∧
        s.files.writable path = true ∧ (state.image s.heap).length ≤ s.files.capacity)
      (fun _ s' => (s' = s ∧ (path.isEmpty = true ∨ s.files.writable path = false)) ∨
        (∃ left, s' = s.withFile path left) ∧
          s.files.capacity < (state.image s.heap).length) s := by
  have hstate := ok.modules state (List.mem_of_getElem? (Runtime.get_moduleAt hm))
  unfold moduleSave
  rw [wp_bind, wp_failIf]
  refine ⟨fun hempty => Or.inl ⟨rfl, Or.inl hempty⟩, fun hpath => ?_⟩
  rw [wp_bind]
  refine wp_mono (wp_lookupModule hm) ?_ fun _ _ he => he.elim
  rintro _ s ⟨rfl, rfl⟩
  refine wp_mono (wp_saveState ok.wellFormed hstate path) ?_ ?_
  · rintro _ _ ⟨rfl, hwritable, hle⟩
    exact ⟨rfl, by simpa using hpath, hwritable, hle⟩
  · rintro e s' (⟨rfl, hwritable⟩ | hleft)
    · exact Or.inl ⟨rfl, Or.inr hwritable⟩
    · exact Or.inr hleft

end Writing

end Training

end Tensora
