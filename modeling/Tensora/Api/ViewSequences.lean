import Tensora.Api.BackwardCalls
import Tensora.Api.ForwardCalls

/-! Sequences of views of one tensor, against the same sequence of operations on a list, and the
index map of every tensor that views can lead to. -/
namespace Tensora.Api
open ProgramLogic Training

variable {F D : Type}

inductive ViewCall where
  | reshape (dims : List Int)
  | transpose2D
  deriving DecidableEq, Repr

def ViewCall.call (tensor : Nat) : ViewCall → Call F D
  | .reshape dims => .tensorReshape tensor dims
  | .transpose2D => .tensorTranspose2D tensor

def onList : List Nat × List F → ViewCall → List Nat × List F
  | (_, data), .reshape dims => (dims.map Int.toNat, data)
  | ([rows, cols], data), .transpose2D => ([cols, rows], transposeData rows cols data)
  | (dims, data), .transpose2D => (dims, data)

def Views (s : Runtime F D) (tensor : Nat) (viewed : List Nat × List F) : Prop :=
  ∃ id, s.objectOf tensor .tensor = some id ∧ (s.heap.dims id, s.heap.contents id) = viewed

variable [Scalar F] [Scalar D] [Precision F D]

section Calls
variable {s : Runtime F D}

theorem views_of_gives {operation : Operation} {parents : List TensorId} {dims : List Nat}
    {reply : Reply F} {s' : Runtime F D} (h : Gives D s operation parents dims reply s') :
    ∃ handle, reply = .handle handle ∧ Views s' handle
      (dims, forwardValues D (codeFunctions F D) operation (parents.map s.heap.dims)
        (parents.map s.heap.contents)) := by
  obtain ⟨handle, hreply, hobject, hproduced⟩ := h
  exact ⟨handle, hreply, _, hobject, by rw [hproduced.dims_eq, hproduced.value]⟩

theorem keeps_reshape_views (ok : s.Ok) {tensor : Nat} (dims : List Int)
    {viewed : List Nat × List F} (h : Views s tensor viewed) :
    Keeps (Forwarded D) (tensorReshape tensor dims) s fun reply s' =>
      ∃ handle, reply = .handle handle ∧ Views s' handle (onList viewed (.reshape dims)) := by
  have c := chained_forwarded (F := F) (D := D)
  obtain ⟨id, hobject, rfl⟩ := h
  unfold tensorReshape
  refine Keeps.bind c (keeps_onMemory_handles (keeps_validatedShape c ok dims)) ?_
  rintro shape s₁ ok₁ - ⟨⟨hheap, hshape, hdims⟩, hhandles⟩
  refine Keeps.mono (keeps_runUnary_gives ok₁ fun id hv => forwards_dispatchedUnary ok₁.wellFormed
    hv (CpuBackend.forwards_reshape ok₁.wellFormed hv hshape)) ?_
  rintro reply s₂ ⟨id', hobject', -, hgives⟩
  obtain rfl : id' = id := Option.some.inj (by rw [← hobject', hhandles, hobject])
  obtain ⟨handle, hreply, hviews⟩ := views_of_gives hgives
  refine ⟨handle, hreply, ?_⟩
  rw [← hheap]
  rwa [dimensions_of_ofNat hdims] at hviews

theorem keeps_transpose2D_views (ok : s.Ok) {tensor : Nat} {viewed : List Nat × List F}
    (h : Views s tensor viewed) :
    Keeps (Forwarded D) (runUnary tensor (dispatchedUnary CpuBackend.transpose2D)) s
      fun reply s' =>
        ∃ handle, reply = .handle handle ∧ Views s' handle (onList viewed .transpose2D) := by
  obtain ⟨id, hobject, rfl⟩ := h
  refine Keeps.mono (keeps_runUnary_gives ok fun id hv => forwards_dispatchedUnary ok.wellFormed
    hv (CpuBackend.forwards_transpose2D ok.wellFormed hv)) ?_
  rintro reply s' ⟨id', hobject', haccept, hgives⟩
  obtain rfl : id' = id := Option.some.inj (hobject'.symm.trans hobject)
  obtain ⟨handle, hreply, hviews⟩ := views_of_gives hgives
  refine ⟨handle, hreply, ?_⟩
  have hrank : (s.heap.dims id').length = 2 := by
    by_contra hne
    rw [CpuBackend.transposeReject, if_pos hne] at haccept
    cases haccept
  obtain ⟨rows, cols, hdims⟩ := List.length_eq_two.mp hrank
  simp only [List.map_cons, List.map_nil, hdims] at hviews
  rw [hdims]
  exact hviews

theorem keeps_fromF32_views (ok : s.Ok) (data : List F) (dims : List Int) :
    Keeps (Forwarded D) (tensorFromF32 data dims) s fun reply s' =>
      ∃ handle, reply = .handle handle ∧ Views s' handle (dims.map Int.toNat, data) := by
  have c := chained_forwarded (F := F) (D := D)
  unfold tensorFromF32
  refine Keeps.bind c (keeps_validatedShape c ok dims) ?_
  rintro shape s₁ ok₁ - ⟨-, hshape, hdims⟩
  refine Keeps.bind c (keeps_failIf c ok₁ _ _) ?_
  rintro _ s₂ ok₂ - ⟨rfl, hlen⟩
  have wf := ok₂.wellFormed
  have hlen : data.length = shape.numel := (not_not.mp hlen).symm
  refine Keeps.bind c (keeps_onMemory c ok₂ (T := fun r h' => r = s₂.heap.tensors.length ∧
    h'.Visible r ∧ (h'.dims r, h'.contents r) = (dims.map Int.toNat, data))
    ((CpuBackend.spec_fromData hshape hlen).mono ?_ ?_ ?_)) ?_
  · rintro _ _ ⟨hfits, rfl, rfl⟩
    rw [hshape.numel_eq] at hlen hfits
    have hpush := pushable_fresh wf (canonicalShape_canonical hshape.valid).layout hlen hfits
      (metaPushable_none s₂.heap shape.dimensions)
    have hcontents := contents_pushFresh wf hshape.valid hlen hfits
      (metaPushable_none s₂.heap shape.dimensions)
    refine ⟨forwarded_plain wf hpush rfl, rfl, hpush.last_visible wf, ?_⟩
    rw [hcontents, Heap.dims_of hpush.last, ← dimensions_of_ofNat hdims]
    rfl
  · rintro _ _ ⟨rfl, -⟩
    exact Forwarded.refl wf
  · exact fun _ hx => hx.forwarded wf
  rintro _ s₃ ok₃ - ⟨-, hvisible, hviewed⟩
  refine Keeps.bind c (keeps_insertTensor c ok₃ hvisible) ?_
  rintro handle s₄ ok₄ - ⟨hobject, hheap⟩
  exact keeps_pure c ok₄ ⟨handle, rfl, _, hobject, by rw [hheap, hviewed]⟩

end Calls

variable [FloatBits F]

def viewAll : List ViewCall → Nat → Native F D Nat
  | [], tensor => return tensor
  | view :: views, tensor => do
      match ← exec (view.call tensor) with
      | .handle result => viewAll views result
      | _ => throw (internalError "view call without a handle")

section Runs
variable {s : Runtime F D}

theorem keeps_view (ok : s.Ok) {tensor : Nat} {viewed : List Nat × List F}
    (h : Views s tensor viewed) (view : ViewCall) :
    Keeps (Forwarded D) (exec (view.call tensor)) s fun reply s' =>
      ∃ handle, reply = .handle handle ∧ Views s' handle (onList viewed view) := by
  cases view with
  | reshape dims => exact keeps_reshape_views ok dims h
  | transpose2D => exact keeps_transpose2D_views ok h

omit [Scalar F] [Scalar D] [Precision F D] [FloatBits F] in
theorem length_onList (ok : s.Ok) {tensor : Nat} {viewed : List Nat × List F}
    (h : Views s tensor viewed) (view : ViewCall) :
    (onList viewed view).2.length = viewed.2.length := by
  obtain ⟨id, hobject, rfl⟩ := h
  obtain ⟨t, ht⟩ := (ok.visible hobject).get
  have hlen := ok.wellFormed.length_contents ht
  generalize s.heap.contents id = data at hlen ⊢
  generalize s.heap.dims id = dims at hlen ⊢
  cases view with
  | reshape dims' => rfl
  | transpose2D =>
      unfold onList
      split
      · contradiction
      · rename_i rows cols _ heq _
        obtain ⟨rfl, rfl⟩ := Prod.mk.inj heq
        have hmatrix : data.length = rows * cols := by simpa using hlen
        rw [transposeData_length hmatrix, hmatrix, Nat.mul_comm]
      · rename_i heq _
        rw [heq]

theorem keeps_viewAll (views : List ViewCall) (ok : s.Ok) {tensor : Nat}
    {viewed : List Nat × List F} (h : Views s tensor viewed) :
    Keeps (Forwarded D) (viewAll views tensor) s fun result s' =>
      Views s' result (views.foldl onList viewed) ∧
        (views.foldl onList viewed).2.length = viewed.2.length := by
  have c := chained_forwarded (F := F) (D := D)
  induction views generalizing s tensor viewed with
  | nil => exact keeps_pure c ok ⟨h, rfl⟩
  | cons view views ih =>
      have hlen := length_onList ok h view
      refine Keeps.bind c (keeps_view ok h view) ?_
      rintro _ s₁ ok₁ - ⟨handle, rfl, hviews⟩
      refine Keeps.mono (ih ok₁ hviews) ?_
      rintro result s₂ ⟨hresult, hsame⟩
      exact ⟨hresult, hsame.trans hlen⟩

theorem exec_copyToHostF32 (ok : s.Ok) {tensor capacity : Nat} {viewed : List Nat × List F}
    (h : Views s tensor viewed) (hcap : viewed.2.length ≤ capacity) :
    exec (.tensorCopyToHostF32 tensor capacity) s = .ok (.values viewed.2) s := by
  obtain ⟨id, hobject, rfl⟩ := h
  obtain ⟨t, ht⟩ := (ok.visible hobject).get
  have hp := ok.wellFormed.placed id t ht
  have hread := Heap.contents_of ht
  have hnumel : t.numel ≤ capacity := by
    rw [← hp.length_read, ← hread]
    exact hcap
  have hrun : wp (exec (.tensorCopyToHostF32 tensor capacity))
      (fun reply s' => reply = .values (s.heap.contents id) ∧ s' = s) (fun _ _ => False) s := by
    refine wp_lookupObject hobject ?_
    rw [wp_onMemory]
    refine wp_bind_of_ok (deref_eq (m := s.memory) ht) ?_
    rw [wp_bind, wp_failIf]
    refine ⟨fun hlt => absurd hlt (Nat.not_lt.mpr hnumel), fun _ => ?_⟩
    refine wp_bind_of_ok (Tensor.copyToHostF32_eq hp hnumel) ?_
    rw [wp_pure, hread]
    exact ⟨rfl, rfl⟩
  obtain ⟨_, _, hx, rfl, rfl⟩ := ok_of_wp hrun
  exact hx

omit [Scalar F] [Scalar D] [Precision F D] [FloatBits F] in
theorem copyToHostF32_small {t : Tensor} {capacity : Nat} {m : Memory F}
    (hcap : capacity < t.numel) : (t.copyToHostF32 capacity : Mem F (List F)) m =
      .error (invalidArgument "tensor copy: output capacity is smaller than tensor") m := by
  have hdtype : t.dtype = .float32 := by cases t.dtype; rfl
  have hrun : wp (t.copyToHostF32 capacity : Mem F (List F)) (fun _ _ => False)
      (fun e m' => e = invalidArgument "tensor copy: output capacity is smaller than tensor" ∧
        m' = m) m := by
    unfold Tensor.copyToHostF32
    rw [wp_bind, wp_failIf]
    refine ⟨fun hne => absurd hdtype hne, fun _ => ?_⟩
    rw [wp_bind, wp_failIf]
    exact ⟨fun _ => ⟨rfl, rfl⟩, fun hge => absurd hcap hge⟩
  obtain ⟨_, _, hx, rfl, rfl⟩ := error_of_wp hrun
  exact hx

/-- Copied out, a sequence of views is the same sequence of operations on the data. Every tensor's
logical indices are those of its storage, each once; so a copy never meets the storage's end, and
copies from a row-major tensor in either way are the same. -/
theorem views_refine (hs : Reachable s) :
    (∀ data dims tensor s₁ views view s₂ capacity,
      exec (.tensorFromF32 data dims) s = .ok (.handle tensor) s₁ →
      viewAll views tensor s₁ = .ok view s₂ → data.length ≤ capacity →
        exec (.tensorCopyToHostF32 view capacity) s₂ =
          .ok (.values (views.foldl onList (dims.map Int.toNat, data)).2) s₂) ∧
    ∀ (id : TensorId) (t : Tensor), s.heap.tensors[id]? = some t →
      ∃ values, s.heap.storages[t.storage]? = some values ∧
      Set.BijOn t.logicalStorageIndex (Set.Iio t.numel) (Set.Iio values.length) ∧
      (∀ capacity, t.copyToHostF32 capacity s.memory =
        if capacity < t.numel then
          .error (invalidArgument "tensor copy: output capacity is smaller than tensor") s.memory
        else .ok (s.heap.read t) s.memory) ∧
      (t.isContiguous = true → t.storageOffset = 0 →
        (∀ i < t.numel, t.logicalStorageIndex i = i) ∧ s.heap.read t = values) := by
  refine ⟨?_, ?_⟩
  · intro data dims tensor s₁ views view s₂ capacity hcreate hviews hcap
    obtain ⟨ok₁, -, _, ⟨⟩, hcreated⟩ := wp_of_ok (keeps_fromF32_views hs.ok data dims) hcreate
    obtain ⟨ok₂, -, hviewed, hlen⟩ := wp_of_ok (keeps_viewAll views ok₁ hcreated) hviews
    exact exec_copyToHostF32 ok₂ hviewed (hlen.trans_le hcap)
  · intro id t ht
    have hp := hs.ok.wellFormed.placed id t ht
    obtain ⟨values, hvalues, hlen⟩ := hp.stored
    refine ⟨values, hvalues, ?_, fun capacity => ?_, ?_⟩
    · rw [hlen]
      exact Tensor.logicalStorageIndex_bijOn hp.layout hp.offset
    · by_cases hcap : capacity < t.numel
      · rw [if_pos hcap]
        exact copyToHostF32_small hcap
      · rw [if_neg hcap]
        exact Tensor.copyToHostF32_eq hp (Nat.not_lt.mp hcap)
    · intro hcontiguous hoffset
      have hstrides := (Tensor.isContiguous_iff hp.layout).mp hcontiguous
      exact ⟨fun i hi => Tensor.logicalStorageIndex_contiguous hp.layout hstrides hoffset hi,
        hp.read_contiguous hvalues hstrides⟩

def viewable (views : List ViewCall) (tensor : Nat) (s : Runtime F D) : Bool :=
  match viewAll views tensor s with
  | .ok _ _ => true
  | .error _ _ => false

theorem ok_of_viewable {views : List ViewCall} {tensor : Nat}
    (h : viewable views tensor s = true) : ∃ view s', viewAll views tensor s = .ok view s' := by
  unfold viewable at h
  cases hx : viewAll views tensor s with
  | ok view s' => exact ⟨view, s', rfl⟩
  | error e s' => rw [hx] at h; cases h

end Runs

/-- A reshape of a transposed matrix, transposed again. -/
def matrixViews : List ViewCall := [.transpose2D, .reshape [2, 3], .transpose2D]

theorem views_refine_matrix : ∃ view s₂,
    viewAll matrixViews 1 (sampleRun [.tensorFromF32 [1, 2, 3, 4, 5, 6] [2, 3]]) = .ok view s₂ ∧
    exec (.tensorCopyToHostF32 view 6) s₂ = .ok (.values [(1 : Word), 5, 4, 3, 2, 6]) s₂ := by
  obtain ⟨view, s₂, hviews⟩ := ok_of_viewable (by decide +kernel : viewable matrixViews 1
    (sampleRun [.tensorFromF32 [1, 2, 3, 4, 5, 6] [2, 3]]) = true)
  exact ⟨view, s₂, hviews, (views_refine (s := sampleRun []) ⟨_, _, _, rfl⟩).1
    [1, 2, 3, 4, 5, 6] [2, 3] 1 _ matrixViews view s₂ 6 rfl hviews (by decide)⟩

end Tensora.Api
