import Tensora.Autograd.RecordSpecs

/-! The outcome of every forward operation. Whether it accepts its operands is a
function of their dimensions, and for the operations with direct access also of
their contiguity; what it produces is a function of their logical contents. -/
namespace Tensora
open CheckedLoop

variable {F D : Type} [Scalar F] [Scalar D] [Precision F D]
variable {h : Heap F}

variable (D) in
def Forwards (x : Mem F TensorId) (h : Heap F) (reject : Option Failure) (operation : Operation)
    (parents : List TensorId) (dims : List Nat) : Prop :=
  Spec x h
    (fun r h' => reject = none ∧ r = h.tensors.length ∧ Produced D h h' operation parents dims)
    (fun e h' => h' = h ∧ reject = some e) (Forwarded D h)

theorem forwards_of_accepted {x : Mem F TensorId} {reject : Option Failure}
    {operation : Operation} {parents : List TensorId} {dims : List Nat} (hr : reject = none)
    (hx : Spec x h (fun r h' => r = h.tensors.length ∧ Produced D h h' operation parents dims)
      (fun _ _ => False) (Forwarded D h)) : Forwards D x h reject operation parents dims :=
  hx.mono (fun _ _ hq => ⟨hr, hq⟩) (fun _ _ he => he.elim) fun _ hX => hX

namespace Training

def transferReject (device : Device) (deviceIndex : Int) : Option Failure :=
  if deviceIndex < 0 then
    some (invalidArgument "tensor_to_device: device index must be non-negative")
  else if device ≠ .cpu then some (unsupported
    "tensor_to_device: requested accelerator is not available in the core-only build")
  else if deviceIndex ≠ 0 then
    some (invalidArgument "tensor_to_device: CPU device index must be zero")
  else none

theorem forwards_transfer {id : TensorId} (wf : WellFormed h) (hv : h.Visible id)
    (device : Device) (deviceIndex : Int) :
    Forwards D (transfer id device deviceIndex) h (transferReject device deviceIndex)
      .identity [id] (h.dims id) := by
  unfold transfer
  refine spec_failIf_bind (fun hneg => ⟨rfl, if_pos hneg⟩) fun hneg => ?_
  refine spec_failIf_bind (fun hdev => ⟨rfl, by rw [transferReject, if_neg hneg, if_pos hdev]⟩)
    fun hdev => ?_
  refine spec_failIf_bind (fun hidx =>
    ⟨rfl, by rw [transferReject, if_neg hneg, if_neg hdev, if_pos hidx]⟩) fun hidx => ?_
  have haccept : transferReject device deviceIndex = none := by
    rw [transferReject, if_neg hneg, if_neg hdev, if_neg hidx]
  refine forwards_of_accepted haccept ?_
  exact spec_materialize wf (by simpa using hv) rfl (hv.valid wf) (hv.length wf) (hv.fits wf) rfl
    (Autograd.spec_cloneDetached wf hv.1) (records_unary .identity id)

end Training

namespace CpuBackend

section Observations
variable {id : TensorId} {t : Tensor}

omit [Scalar F] in
theorem observes_ensureCpuFloat32 (ht : Placed h t) (operation : String) :
    Observes (ensureCpuFloat32 t operation : Mem F Unit) h fun _ => True := by
  unfold ensureCpuFloat32
  refine spec_failIf_bind (fun hdev => ?_) fun _ => ?_
  · rcases hdev with hdev | hdev
    · exact hdev ht.device
    · exact hdev ht.deviceIndex
  · exact spec_failIf (fun hne => hne (by cases t.dtype; rfl)) fun _ => ⟨rfl, trivial⟩

omit [Scalar F] in
theorem observes_logicalValues (wf : WellFormed h) (ht : h.tensors[id]? = some t)
    (operation : String) :
    Observes (logicalValues id operation : Mem F (List F)) h fun xs => xs = h.contents id := by
  have hp := wf.placed id t ht
  unfold logicalValues
  refine (observes_deref ht).bind rfl ?_
  rintro t rfl
  refine (observes_ensureCpuFloat32 hp operation).bind rfl fun _ _ => ?_
  refine (observes_allocationGuard operation (observes_allocateFloats h hp.fits)).bind rfl
    fun _ _ => ?_
  rw [Heap.contents_of ht]
  exact Tensor.observes_copyToHostF32 hp (Nat.le_refl _)

omit [Scalar F] in
theorem spec_makeTensor {shape : ShapeInfo} {values : List F} (hd : ValidDims shape.dimensions)
    (hn : shape.numel = shape.dimensions.prod) (hlen : values.length = shape.dimensions.prod) :
    Spec (makeTensor shape values) h
      (fun r h' => r = h.tensors.length ∧
        h' = h.pushFresh (canonicalShape shape.dimensions) values none)
      (fun _ _ => False) h.Idled := by
  unfold makeTensor
  refine (observes_allocate h).bind (Heap.Idled.refl h) fun _ _ => ?_
  rw [validateShape_of_valid hd]
  simp only
  refine spec_failIf_bind (fun hbad => ?_) fun _ => ?_
  · rcases hbad with hbad | hbad
    · exact hbad hn.symm
    · exact hbad (hlen.trans hn.symm)
  · exact spec_allocationGuard _ (Autograd.spec_makeSharedTensor h _ _)

omit [Scalar F] in
theorem spec_makeView {shape : ShapeInfo} (ht : h.tensors[id]? = some t) :
    Spec (makeView shape id) h
      (fun r h' => r = h.tensors.length ∧ h' = h.pushView shape t none)
      (fun _ _ => False) (fun h' => h' = h) := by
  unfold makeView
  refine (observes_deref ht).bind rfl ?_
  rintro t rfl
  refine spec_allocationGuard _ ?_
  refine (observes_allocate h).bind rfl fun _ _ => ?_
  refine (observes_getHeap h).bind rfl ?_
  rintro _ rfl
  exact Spec.bind (spec_modifyHeap _ rfl) fun _ h' hh' => spec_pure ⟨rfl, hh'⟩

end Observations

def reshapeReject (dims : List Nat) (shape : ShapeInfo) : Option Failure :=
  if dims.prod ≠ shape.numel then
    some (invalidShape "reshape: target shape must preserve element count")
  else none

theorem forwards_reshape {id : TensorId} (wf : WellFormed h) (hv : h.Visible id)
    {shape : ShapeInfo} (hshape : shape.Canonical) :
    Forwards D (reshape id shape) h (reshapeReject (h.dims id) shape) .reshape [id]
      shape.dimensions := by
  obtain ⟨t, ht⟩ := hv.get
  have hp := wf.placed id t ht
  have hnumel := Heap.Visible.numel wf ht
  unfold reshape
  refine (observes_deref ht).bind (Forwarded.refl wf) ?_
  rintro t rfl
  refine (observes_ensureCpuFloat32 hp "reshape").bind (Forwarded.refl wf) fun _ _ => ?_
  refine spec_failIf_bind (fun hne => ⟨rfl, ?_⟩) fun heq => ?_
  · rw [reshapeReject, if_pos (by rw [← hnumel]; exact hne)]
  have heq' : t.numel = shape.numel := not_not.mp heq
  have haccept : reshapeReject (h.dims id) shape = none := by
    rw [reshapeReject, if_neg (by rw [← hnumel, not_not]; exact heq')]
  have hprod : shape.dimensions.prod = (h.dims id).prod := by
    rw [← hshape.numel_eq, ← heq', hnumel]
  refine forwards_of_accepted haccept ?_
  have hops : OpShapes .reshape ([id].map h.dims) shape.dimensions := hprod
  have hrecord : Records (Autograd.recordUnary .reshape id : TensorId → Mem F Unit) .reshape [id] :=
    records_unary .reshape id
  rw [hshape.eq]
  by_cases hc : t.isContiguous = true
  · rw [if_pos hc]
    exact spec_view wf ht hv (by simpa using hv) hops (canonicalShape_canonical hshape.valid).layout
      (hprod.trans hnumel.symm) (fun _ => rfl)
      (contents_reshapeView wf ht hv hshape.valid (hprod.trans hnumel.symm) hc
        (metaPushable_node (by simpa using hv) hprod))
      (spec_makeView ht) hrecord
  · rw [if_neg hc]
    refine (observes_logicalValues wf ht "reshape").bind (Forwarded.refl wf) ?_
    rintro _ rfl
    rw [hnumel, ← hv.length wf]
    refine (observes_cpuStorageFromData h (by rw [hv.length wf]; exact hv.fits wf)).bind
      (Forwarded.refl wf) ?_
    rintro _ rfl
    exact spec_materialize wf (by simpa using hv) hops hshape.valid
      ((hv.length wf).trans hprod.symm) (hprod.trans_le (hv.fits wf)) rfl
      (spec_makeTensor hshape.valid rfl ((hv.length wf).trans hprod.symm)) hrecord

def transposeReject (dims : List Nat) : Option Failure :=
  if dims.length ≠ 2 then some (invalidShape "transpose: Milestone 1 requires a rank-2 tensor")
  else none

omit [Scalar F] [Scalar D] [Precision F D] in
/-- The shape of a transposed matrix, as its layout knows it. -/
theorem swapped_shape {s : ShapeInfo} (layout : s.Layout) {rows cols : Nat}
    (hrc : s.dimensions = [rows, cols]) :
    ({ s with
      dimensions := swapFirstTwo s.dimensions
      strides := swapFirstTwo s.strides } : ShapeInfo) =
      { s with dimensions := [cols, rows], strides := s.strides.reverse } := by
  have hstrides : swapFirstTwo s.strides = s.strides.reverse := by
    rcases layout.strides_eq with hs | ⟨r, c, hd, hs⟩
    · simp [hs, hrc, rowMajorStrides, swapFirstTwo]
    · simp [hs, swapFirstTwo]
  rw [hstrides, hrc]
  rfl

theorem forwards_transpose2D {id : TensorId} (wf : WellFormed h) (hv : h.Visible id) :
    Forwards D (transpose2D id) h (transposeReject (h.dims id)) .transpose2D [id]
      (swapFirstTwo (h.dims id)) := by
  obtain ⟨t, ht⟩ := hv.get
  have hp := wf.placed id t ht
  have hdims := Heap.dims_of ht
  unfold transpose2D
  refine (observes_deref ht).bind (Forwarded.refl wf) ?_
  rintro t rfl
  refine (observes_ensureCpuFloat32 hp "transpose").bind (Forwarded.refl wf) fun _ _ => ?_
  refine spec_failIf_bind (fun hne => ⟨rfl, ?_⟩) fun heq => ?_
  · rw [transposeReject, hdims, if_pos hne]
  have haccept : transposeReject (h.dims id) = none := by
    rw [transposeReject, hdims, if_neg heq]
  obtain ⟨rows, cols, hrc⟩ := List.length_eq_two.mp (not_not.mp heq)
  refine forwards_of_accepted haccept ?_
  have hops : OpShapes .transpose2D ([id].map h.dims) [cols, rows] :=
    ⟨rows, cols, hdims.trans hrc, rfl⟩
  rw [swapped_shape hp.layout hrc,
    show swapFirstTwo (h.dims id) = [cols, rows] by rw [hdims, hrc]; rfl]
  refine spec_view wf ht hv (by simpa using hv) hops (hp.layout.swapped hrc rfl) rfl
    (fun hne => absurd rfl hne) ?_ (spec_makeView ht)
    (records_unary .transpose2D id)
  rw [contents_transposeView wf ht hv hrc rfl (metaPushable_node (by simpa using hv) hops)]
  simp only [List.map_cons, List.map_nil, hdims, hrc]
  rfl

def elementwiseReject (name : String) (left right : List Nat) : Option Failure :=
  if left = right then none
  else some (invalidShape (name ++ ": Milestone 1 elementwise operations require equal shapes"))

theorem forwards_elementwise {name : String} {operation : Operation} {combine : F → F → F}
    {left right : TensorId} (wf : WellFormed h) (hl : h.Visible left) (hr : h.Visible right)
    (hshapes : ∀ d, OpShapes operation [d, d] d)
    (hvalue : ∀ dims x y, forwardValues D (Training.codeFunctions F D) operation dims [x, y] =
      tab x.length fun i => combine (x.getD i 0) (y.getD i 0)) :
    Forwards D (elementwise name operation combine left right) h
      (elementwiseReject name (h.dims left) (h.dims right)) operation [left, right]
      (h.dims left) := by
  obtain ⟨tl, htl⟩ := hl.get
  obtain ⟨tr, htr⟩ := hr.get
  have hdl := Heap.dims_of htl
  have hdr := Heap.dims_of htr
  have hn := Heap.Visible.numel wf htl
  unfold elementwise
  refine (observes_deref htl).bind (Forwarded.refl wf) ?_
  rintro tl rfl
  refine (observes_deref htr).bind (Forwarded.refl wf) ?_
  rintro tr rfl
  refine (observes_ensureCpuFloat32 (wf.placed _ _ htl) name).bind (Forwarded.refl wf) fun _ _ => ?_
  refine (observes_ensureCpuFloat32 (wf.placed _ _ htr) name).bind (Forwarded.refl wf) fun _ _ => ?_
  refine spec_failIf_bind (fun hne => ⟨rfl, ?_⟩) fun heq => ?_
  · have hdims : h.dims left ≠ h.dims right := by
      rw [hdl, hdr]
      intro hsame
      simp [sameShape, hsame] at hne
    rw [elementwiseReject, if_neg hdims]
  have hdims : h.dims left = h.dims right := by
    rw [hdl, hdr]
    exact sameShape_iff.mp (by simpa using heq)
  refine forwards_of_accepted (if_pos hdims) ?_
  have hlen : (h.contents right).length = (h.contents left).length := by
    rw [hl.length wf, hr.length wf, hdims]
  refine (observes_logicalValues wf htl name).bind (Forwarded.refl wf) ?_
  rintro _ rfl
  refine (observes_logicalValues wf htr name).bind (Forwarded.refl wf) ?_
  rintro _ rfl
  refine (observes_allocationGuard "cpu storage"
    (observes_allocateFloats h (by rw [hn]; exact hl.fits wf))).bind (Forwarded.refl wf)
    fun _ _ => ?_
  rw [hn, ← hl.length wf]
  refine (observes_checked (Training.zipKernel_eq combine hlen)).bind (Forwarded.refl wf) ?_
  rintro _ rfl
  refine spec_materialize wf (by simp [hl, hr]) ?_ (hl.valid wf) ?_ (hl.fits wf)
    (hvalue _ _ _).symm ?_ (records_binary operation left right)
  · simpa [← hdims] using hshapes (h.dims left)
  · rw [length_tab, hl.length wf]
  · rw [hdl]
    refine spec_makeTensor (wf.placed _ _ htl).layout.valid (wf.placed _ _ htl).layout.numel_eq ?_
    rw [length_tab, hl.length wf, hdl]

theorem forwards_add {left right : TensorId} (wf : WellFormed h) (hl : h.Visible left)
    (hr : h.Visible right) :
    Forwards D (add left right) h (elementwiseReject "add" (h.dims left) (h.dims right)) .add
      [left, right] (h.dims left) :=
  forwards_elementwise wf hl hr (fun _ => ⟨rfl, rfl⟩) fun _ _ _ => rfl

theorem forwards_multiply {left right : TensorId} (wf : WellFormed h) (hl : h.Visible left)
    (hr : h.Visible right) :
    Forwards D (multiply left right) h (elementwiseReject "multiply" (h.dims left) (h.dims right))
      .multiply [left, right] (h.dims left) :=
  forwards_elementwise wf hl hr (fun _ => ⟨rfl, rfl⟩) fun _ _ _ => rfl

omit [Scalar F] in
theorem validDims_nil : ValidDims [] where
  rank := by simp [kMaxTensorRank]
  pos := by simp
  bound := by simp [maxU64]

theorem forwards_sum {id : TensorId} (wf : WellFormed h) (hv : h.Visible id) :
    Forwards D (sum id) h none .sum [id] [] := by
  obtain ⟨t, ht⟩ := hv.get
  unfold sum
  refine forwards_of_accepted rfl ?_
  refine (observes_deref ht).bind (Forwarded.refl wf) ?_
  rintro t rfl
  refine (observes_ensureCpuFloat32 (wf.placed _ _ ht) "sum").bind (Forwarded.refl wf) fun _ _ => ?_
  refine (observes_logicalValues wf ht "sum").bind (Forwarded.refl wf) ?_
  rintro _ rfl
  refine (observes_validatedShape validDims_nil).bind (Forwarded.refl wf) ?_
  rintro _ rfl
  refine (observes_cpuStorageFilled h _ (by simp [kMaxFloats])).bind (Forwarded.refl wf) ?_
  rintro _ rfl
  refine spec_materialize wf (by simpa using hv) rfl validDims_nil rfl (by simp [kMaxFloats]) ?_
    (spec_makeTensor validDims_nil rfl rfl) (records_unary .sum id)
  simp only [List.replicate, Training.sumKernel_eq]
  rfl

/-- The result's own shape can be refused: two acceptable matrices can have an
outer product that is too large. -/
def matmulReject : List Nat → List Nat → Option Failure
  | [m, k], [rightK, n] =>
      if k ≠ rightK then some (invalidShape "matmul: inner dimensions must match")
      else match validateShape [m, n] with
        | .error e => some e
        | .ok s =>
            if s.numel > kMaxFloats then
              some (outOfMemory "cpu storage: allocation size is too large")
            else none
  | _, _ => some (invalidShape "matmul: Milestone 1 requires rank-2 tensors")

def matmulDims (left right : List Nat) : List Nat := [left.headD 0, right.getLastD 0]

theorem forwards_matmul {left right : TensorId} (wf : WellFormed h) (hl : h.Visible left)
    (hr : h.Visible right) :
    Forwards D (matmul left right) h (matmulReject (h.dims left) (h.dims right)) .matmul
      [left, right] (matmulDims (h.dims left) (h.dims right)) := by
  obtain ⟨tl, htl⟩ := hl.get
  obtain ⟨tr, htr⟩ := hr.get
  have hdl := Heap.dims_of htl
  have hdr := Heap.dims_of htr
  unfold matmul
  refine (observes_deref htl).bind (Forwarded.refl wf) ?_
  rintro tl rfl
  refine (observes_deref htr).bind (Forwarded.refl wf) ?_
  rintro tr rfl
  refine (observes_ensureCpuFloat32 (wf.placed _ _ htl) "matmul").bind (Forwarded.refl wf)
    fun _ _ => ?_
  refine (observes_ensureCpuFloat32 (wf.placed _ _ htr) "matmul").bind (Forwarded.refl wf)
    fun _ _ => ?_
  rw [← hdl, ← hdr]
  split
  · rename_i m k rightK n hml hmr
    rw [hml, hmr]
    refine spec_failIf_bind (fun hne => ⟨rfl, by rw [matmulReject, if_pos hne]⟩) fun heq => ?_
    obtain rfl : k = rightK := not_not.mp heq
    have hll := hl.length wf
    have hrl := hr.length wf
    have hvl := (hl.valid wf).prod_lt
    have hvr := (hr.valid wf).prod_lt
    rw [hml] at hll hvl
    rw [hmr] at hrl hvr
    simp only [List.prod_cons, List.prod_nil, Nat.mul_one] at hll hrl hvl hvr
    refine (observes_logicalValues wf htl "matmul").bind (Forwarded.refl wf) ?_
    rintro _ rfl
    refine (observes_logicalValues wf htr "matmul").bind (Forwarded.refl wf) ?_
    rintro _ rfl
    refine Spec.bind
      ((spec_validatedShape h [(m : Int), (n : Int)]).mono (fun _ _ hq => hq) ?_ ?_) ?_
    · rintro e _ ⟨rfl, hv⟩
      refine ⟨rfl, ?_⟩
      rw [matmulReject, if_neg (fun hne => hne rfl)]
      simp only [hv]
    · rintro _ rfl
      exact Forwarded.refl wf
    rintro shape h ⟨rfl, hcanon, hdims⟩
    have hshape : shape.dimensions = [m, n] := by
      have := congrArg (List.map Int.toNat) hdims
      simpa [List.map_map, Function.comp_def] using this.symm
    have hvalidate : validateShape [(m : Int), (n : Int)] = .ok shape := by
      have := validateShape_of_valid hcanon.valid
      rw [← hcanon.eq, hshape] at this
      exact this
    refine Spec.bind (spec_allocationGuard (E := fun e h' => h' = h ∧
      matmulReject [m, k] [k, n] = some e) "cpu storage"
      ((spec_allocateFloats h shape.numel).mono (fun _ _ hq => hq) ?_ ?_)) ?_
    · rintro e _ ⟨rfl, rfl, hbig⟩
      refine ⟨rfl, ?_⟩
      rw [matmulReject, if_neg (fun hne => hne rfl)]
      simp only [hvalidate, guarded]
      rw [if_pos hbig]
      rfl
    · rintro _ rfl
      exact Forwarded.refl wf
    rintro _ h ⟨rfl, hfits⟩
    have haccept : matmulReject [m, k] [k, n] = none := by
      rw [matmulReject, if_neg (fun hne => hne rfl)]
      simp only [hvalidate]
      rw [if_neg (Nat.not_lt.mpr hfits)]
    have hnumel : shape.numel = m * n := by
      rw [hcanon.numel_eq, hshape]
      simp
    have hmn := hcanon.valid.prod_lt
    rw [hshape] at hmn
    simp only [List.prod_cons, List.prod_nil, Nat.mul_one] at hmn
    refine forwards_of_accepted haccept ?_
    have hkernel := Training.matmulKernel_eq hll hrl (by omega) (by omega) (by omega)
    refine (observes_checked hkernel).bind (Forwarded.refl wf) ?_
    rintro _ rfl
    have hdims' : matmulDims [m, k] [k, n] = shape.dimensions := by rw [hshape]; rfl
    rw [hdims']
    have hprod : shape.dimensions.prod = m * n := by rw [hshape]; simp
    generalize hvalues : tab (m * n) _ = values
    have hlen : values.length = shape.dimensions.prod := by rw [← hvalues, length_tab, hprod]
    have hmake := spec_makeTensor (h := h) hcanon.valid hcanon.numel_eq hlen
    refine spec_materialize wf (by simp [hl, hr]) ?_ hcanon.valid hlen ?_ ?_ hmake
      (records_binary .matmul left right)
    · simp only [List.map_cons, List.map_nil, hml, hmr, hshape]
      exact ⟨m, k, n, rfl, rfl, rfl⟩
    · rw [hprod, ← hnumel]
      exact hfits
    · simp only [List.map_cons, List.map_nil, hml, hmr]
      exact hvalues.symm
  · rename_i hne
    refine spec_throw ⟨rfl, ?_⟩
    unfold matmulReject
    split
    · rename_i m k rightK n hml hmr
      exact absurd hmr (hne m k rightK n hml)
    · rfl

end CpuBackend

namespace Training

def directAccessError (operation : String) : Failure :=
  invalidArgument (operation ++ ": direct storage access requires a contiguous tensor")

omit [Scalar F] in
theorem spec_cpuValues {id : TensorId} (wf : WellFormed h) (hv : h.Visible id)
    (operation : String) :
    Spec (Autograd.cpuValues id operation : Mem F (List F)) h
      (fun xs h' => h' = h ∧ h.contiguous id = true ∧ xs = h.contents id)
      (fun e h' => h' = h ∧ h.contiguous id = false ∧ e = directAccessError operation)
      (fun h' => h' = h) := by
  obtain ⟨t, ht⟩ := hv.get
  have hc : h.contiguous id = t.isContiguous := by simp only [Heap.contiguous, ht]
  rw [hc]
  exact (Autograd.spec_cpuValues wf ht operation).mono (fun _ _ hq => ⟨hq.1, hq.2.1, hq.2.2.1⟩)
    (fun _ _ he => he) fun _ hx => hx

/-- `MakeActivation` rejects what is not row-major. -/
def activationReject (contiguous : Bool) : Option Failure :=
  if contiguous then none else some (directAccessError "activation")

theorem forwards_makeActivation {id : TensorId} {operation : Operation} {forward : F → F}
    (wf : WellFormed h) (hv : h.Visible id) (hbridge : bridgeActivation operation = some forward)
    (hshapes : ∀ d, OpShapes operation [d] d)
    (hvalue : ∀ dims x, forwardValues D (codeFunctions F D) operation dims [x] = x.map forward) :
    Forwards D (makeActivation id operation) h (activationReject (h.contiguous id)) operation [id]
      (h.dims id) := by
  obtain ⟨t, ht⟩ := hv.get
  have hd := Heap.dims_of ht
  unfold makeActivation
  refine Spec.bind ((spec_cpuValues wf hv "activation").mono (fun _ _ hq => hq) ?_ ?_) ?_
  · rintro e _ ⟨rfl, hc, rfl⟩
    exact ⟨rfl, by rw [activationReject, hc]; rfl⟩
  · rintro _ rfl
    exact Forwarded.refl wf
  rintro _ _ ⟨rfl, hc, rfl⟩
  refine forwards_of_accepted (by rw [activationReject, hc]; rfl) ?_
  refine (observes_allocate _).bind (Forwarded.refl wf) fun _ _ => ?_
  rw [hbridge]
  simp only
  refine (observes_checked (mapKernel_eq forward _)).bind (Forwarded.refl wf) ?_
  rintro _ rfl
  refine (observes_deref ht).bind (Forwarded.refl wf) ?_
  rintro t rfl
  have hlen : ((Heap.contents _ id).map forward).length = (Heap.dims _ id).prod :=
    (List.length_map _).trans (hv.length wf)
  refine spec_materialize wf (by simpa using hv) (hshapes _) (hv.valid wf) hlen (hv.fits wf)
    (hvalue _ _).symm ?_ (records_unary operation id)
  rw [hd]
  refine Autograd.spec_makeCpuTensor (wf.placed _ _ ht).layout.valid
    (wf.placed _ _ ht).layout.numel_eq ?_ ?_
  · rw [hlen, hd]
  · rw [← hd]
    exact hv.fits wf

theorem forwards_relu {id : TensorId} (wf : WellFormed h) (hv : h.Visible id) :
    Forwards D (relu id) h (activationReject (h.contiguous id)) .relu [id] (h.dims id) :=
  forwards_makeActivation wf hv rfl (fun _ => rfl) fun _ _ => rfl

theorem forwards_sigmoid {id : TensorId} (wf : WellFormed h) (hv : h.Visible id) :
    Forwards D (sigmoid id) h (activationReject (h.contiguous id)) .sigmoid [id] (h.dims id) :=
  forwards_makeActivation wf hv rfl (fun _ => rfl) fun _ _ => rfl

theorem forwards_tanh {id : TensorId} (wf : WellFormed h) (hv : h.Visible id) :
    Forwards D (tanhOf id) h (activationReject (h.contiguous id)) .tanh [id] (h.dims id) :=
  forwards_makeActivation wf hv rfl (fun _ => rfl) fun _ _ => rfl

theorem forwards_cpuUnary {id : TensorId} {operation : Operation} {operationName : String}
    {forward : F → F} (wf : WellFormed h) (hv : h.Visible id)
    (hshapes : ∀ d, OpShapes operation [d] d)
    (hvalue : ∀ dims x, forwardValues D (codeFunctions F D) operation dims [x] = x.map forward) :
    Forwards D (cpuUnary id operation operationName forward) h none operation [id]
      (h.dims id) := by
  obtain ⟨t, ht⟩ := hv.get
  have hd := Heap.dims_of ht
  unfold cpuUnary
  refine forwards_of_accepted rfl ?_
  refine (observes_deref ht).bind (Forwarded.refl wf) ?_
  rintro t rfl
  refine (Autograd.observes_ensureCpuFloat32 (wf.placed _ _ ht) operationName).bind
    (Forwarded.refl wf) fun _ _ => ?_
  refine (Autograd.observes_readLogicalCpuValues wf ht operationName).bind (Forwarded.refl wf) ?_
  rintro _ rfl
  refine (observes_allocationGuard operationName (observes_allocate h)).bind (Forwarded.refl wf)
    fun _ _ => ?_
  refine (observes_checked (mapKernel_eq forward _)).bind (Forwarded.refl wf) ?_
  rintro _ rfl
  refine (observes_deref ht).bind (Forwarded.refl wf) ?_
  rintro t rfl
  have hlen : ((h.contents id).map forward).length = (h.dims id).prod :=
    (List.length_map _).trans (hv.length wf)
  refine spec_materialize wf (by simpa using hv) (hshapes _) (hv.valid wf) hlen (hv.fits wf)
    (hvalue _ _).symm ?_ (records_unary operation id)
  rw [hd]
  refine Autograd.spec_makeCpuTensor (wf.placed _ _ ht).layout.valid
    (wf.placed _ _ ht).layout.numel_eq ?_ ?_
  · rw [hlen, hd]
  · rw [← hd]
    exact hv.fits wf

theorem forwards_gelu {id : TensorId} (wf : WellFormed h) (hv : h.Visible id) :
    Forwards D (gelu id) h none .gelu [id] (h.dims id) :=
  forwards_cpuUnary wf hv (fun _ => rfl) fun _ _ => rfl

theorem forwards_silu {id : TensorId} (wf : WellFormed h) (hv : h.Visible id) :
    Forwards D (silu id) h none .silu [id] (h.dims id) :=
  forwards_cpuUnary wf hv (fun _ => rfl) fun _ _ => rfl

def swiGluReject (dims : List Nat) : Option Failure :=
  match dims.getLast? with
  | none => some (invalidShape "tensor_swiglu: input must have rank at least one")
  | some width =>
      if width = 0 ∨ width % 2 ≠ 0 then
        some (invalidShape "tensor_swiglu: final dimension must be positive and even")
      else none

def swiGluDims (dims : List Nat) : List Nat := dims.dropLast ++ [dims.getLastD 0 / 2]

theorem forwards_swiGlu {id : TensorId} (wf : WellFormed h) (hv : h.Visible id) :
    Forwards D (swiGlu id) h (swiGluReject (h.dims id)) .swiGlu [id] (swiGluDims (h.dims id)) := by
  obtain ⟨t, ht⟩ := hv.get
  have hd := Heap.dims_of ht
  have hn := Heap.Visible.numel wf ht
  unfold swiGlu
  refine (observes_deref ht).bind (Forwarded.refl wf) ?_
  rintro t rfl
  refine (Autograd.observes_ensureCpuFloat32 (wf.placed _ _ ht) "tensor_swiglu").bind
    (Forwarded.refl wf) fun _ _ => ?_
  rw [← hd]
  cases hlast : (h.dims id).getLast? with
  | none => exact spec_throw ⟨rfl, by rw [swiGluReject, hlast]⟩
  | some width =>
      simp only
      refine spec_failIf_bind (fun hbad => ⟨rfl, ?_⟩) fun hgood => ?_
      · simp only [swiGluReject, hlast]
        rw [if_pos hbad]
      have haccept : swiGluReject (h.dims id) = none := by
        simp only [swiGluReject, hlast]
        rw [if_neg hgood]
      refine forwards_of_accepted haccept ?_
      obtain ⟨front, hfront⟩ := List.getLast?_eq_some_iff.mp hlast
      obtain ⟨half, rfl⟩ : ∃ half, width = 2 * half := ⟨width / 2, by omega⟩
      have hhalf : 2 * half / 2 = half := by omega
      have hpos : 0 < half := by omega
      have hdims : swiGluDims (h.dims id) = front ++ [half] := by
        simp [swiGluDims, hfront, List.getLastD_eq_getLast?, hhalf]
      have hvalid := hv.valid wf
      have hfits := hv.fits wf
      have hlength := hv.length wf
      rw [hfront, List.prod_append] at hfits hlength
      rw [hfront] at hvalid
      simp only [List.prod_cons, List.prod_nil, Nat.mul_one] at hfits hlength
      have hlt := hvalid.prod_lt
      have hbound := hvalid.bound
      rw [List.prod_append] at hlt hbound
      simp only [List.prod_cons, List.prod_nil, Nat.mul_one] at hlt hbound
      have hle : front.prod * half ≤ front.prod * (2 * half) :=
        Nat.mul_le_mul_left _ (by omega)
      have hout : ValidDims (front ++ [half]) := by
        refine ⟨by simpa using hvalid.rank, fun d hmem => ?_, ?_⟩
        · rcases List.mem_append.mp hmem with hmem | hmem
          · exact hvalid.pos d (by simp [hmem])
          · rw [List.mem_singleton.mp hmem]
            exact hpos
        · simpa using hle.trans hbound
      have hprod : (front ++ [half]).prod = front.prod * half := by simp
      have hrows : t.numel / (2 * half) = front.prod := by
        rw [hn, hfront]
        simp [Nat.mul_div_cancel _ (show 0 < 2 * half by omega)]
      rw [hhalf, hrows, show (h.dims id).dropLast = front by simp [hfront]]
      refine (observes_validatedShape hout).bind (Forwarded.refl wf) ?_
      rintro _ rfl
      refine (Autograd.observes_readLogicalCpuValues wf ht "tensor_swiglu").bind
        (Forwarded.refl wf) ?_
      rintro _ rfl
      refine (observes_allocationGuard "tensor_swiglu" (observes_allocate h)).bind
        (Forwarded.refl wf) fun _ _ => ?_
      refine (observes_checked (swiGluKernel_eq hlength (by omega))).bind (Forwarded.refl wf) ?_
      rintro _ rfl
      rw [hdims]
      have hlen : (tab (front.prod * half) (swiGluValue siluForward half (h.contents id))).length =
          (front ++ [half]).prod := by rw [length_tab, hprod]
      have hcanon : ValidDims (canonicalShape (front ++ [half])).dimensions := hout
      have hmake := Autograd.spec_makeCpuTensor (h := h) hcanon rfl hlen
        (by change (front ++ [half]).prod ≤ _; omega)
      refine spec_materialize wf (by simpa using hv) ?_ hout ?_ ?_ ?_ hmake
        (records_unary .swiGlu id)
      · exact ⟨front, half, hpos, hfront, rfl⟩
      · rw [length_tab, hprod]
      · rw [hprod]
        omega
      · simp only [List.map_cons, List.map_nil, forwardValues, hfront, hlength,
          List.getLastD_concat, hhalf, Nat.mul_div_cancel _ (show 0 < 2 * half by omega)]
        rfl

omit [Scalar F] in
theorem spec_makeScalar (h : Heap F) (value : F) :
    Spec (makeScalar value) h
      (fun r h' => r = h.tensors.length ∧ h' = h.pushFresh (canonicalShape []) [value] none)
      (fun _ _ => False) h.Idled := by
  unfold makeScalar
  refine (observes_validatedShape CpuBackend.validDims_nil).bind (Heap.Idled.refl h) ?_
  rintro _ rfl
  refine (observes_allocate h).bind (Heap.Idled.refl h) fun _ _ => ?_
  exact Autograd.spec_makeCpuTensor CpuBackend.validDims_nil rfl rfl
    (by simp [canonicalShape, kMaxFloats])

/-- The operands in the order direct access reads them. -/
def lossReject (name message : String) (left right : List Nat) (ranked : Option Failure)
    (leftContiguous rightContiguous : Bool) : Option Failure :=
  if left ≠ right then some (invalidShape (name ++ message))
  else match ranked with
    | some failure => some failure
    | none =>
        if leftContiguous && rightContiguous then none else some (directAccessError name)

def mseReject (left right : List Nat) (leftContiguous rightContiguous : Bool) : Option Failure :=
  lossReject "mse_loss" ": prediction and target shapes must match" left right none
    leftContiguous rightContiguous

theorem forwards_mseLoss {prediction target : TensorId} (wf : WellFormed h)
    (hp : h.Visible prediction) (ht : h.Visible target) :
    Forwards D (mseLoss D prediction target) h
      (mseReject (h.dims prediction) (h.dims target) (h.contiguous prediction)
        (h.contiguous target)) .mse [prediction, target] [] := by
  obtain ⟨tp, htp⟩ := hp.get
  obtain ⟨tt, htt⟩ := ht.get
  have hdp := Heap.dims_of htp
  have hdt := Heap.dims_of htt
  unfold mseLoss
  refine (observes_deref htp).bind (Forwarded.refl wf) ?_
  rintro tp rfl
  refine (observes_deref htt).bind (Forwarded.refl wf) ?_
  rintro tt rfl
  refine (Autograd.observes_ensureCpuFloat32 (wf.placed _ _ htp) "mse_loss").bind
    (Forwarded.refl wf) fun _ _ => ?_
  refine (Autograd.observes_ensureCpuFloat32 (wf.placed _ _ htt) "mse_loss").bind
    (Forwarded.refl wf) fun _ _ => ?_
  refine spec_failIf_bind (fun hne => ⟨rfl, ?_⟩) fun heq => ?_
  · have hdims : h.dims prediction ≠ h.dims target := by
      rw [hdp, hdt]
      intro hsame
      simp [sameShape, hsame] at hne
    rw [mseReject, lossReject, if_pos hdims]
    rfl
  have hdims : h.dims prediction = h.dims target := by
    rw [hdp, hdt]
    exact sameShape_iff.mp (by simpa using heq)
  refine Spec.bind ((spec_cpuValues wf hp "mse_loss").mono (fun _ _ hq => hq) ?_ ?_) ?_
  · rintro e _ ⟨rfl, hc, rfl⟩
    exact ⟨rfl, by simp [mseReject, lossReject, hdims, hc]⟩
  · rintro _ rfl
    exact Forwarded.refl wf
  rintro _ _ ⟨rfl, hcp, rfl⟩
  refine Spec.bind ((spec_cpuValues wf ht "mse_loss").mono (fun _ _ hq => hq) ?_ ?_) ?_
  · rintro e _ ⟨rfl, hc, rfl⟩
    exact ⟨rfl, by simp [mseReject, lossReject, hdims, hc]⟩
  · rintro _ rfl
    exact Forwarded.refl wf
  rintro _ h ⟨rfl, hct, rfl⟩
  refine forwards_of_accepted (by simp [mseReject, lossReject, hdims, hcp, hct]) ?_
  have hlen : (h.contents target).length = (h.contents prediction).length := by
    rw [hp.length wf, ht.length wf, hdims]
  refine (observes_checked (mseKernel_eq hlen)).bind (Forwarded.refl wf) ?_
  rintro _ rfl
  exact spec_materialize wf (by simp [hp, ht]) ⟨hdims, rfl⟩ CpuBackend.validDims_nil rfl
    (by simp [kMaxFloats]) rfl (spec_makeScalar h _) (records_binary .mse prediction target)

/-- The rank check of `CrossEntropyLoss`. -/
def crossEntropyRanked : List Nat → Option Failure
  | [_, _] => none
  | _ => some (invalidShape "cross_entropy_loss: initial contract requires rank-2 tensors")

def crossEntropyReject (left right : List Nat) (leftContiguous rightContiguous : Bool) :
    Option Failure :=
  lossReject "cross_entropy_loss" ": logits and one-hot target shapes must match" left right
    (crossEntropyRanked left) leftContiguous rightContiguous

theorem forwards_crossEntropyLoss {logits target : TensorId} (wf : WellFormed h)
    (hp : h.Visible logits) (ht : h.Visible target) :
    Forwards D (crossEntropyLoss D logits target) h
      (crossEntropyReject (h.dims logits) (h.dims target) (h.contiguous logits)
        (h.contiguous target)) .crossEntropy [logits, target] [] := by
  obtain ⟨tp, htp⟩ := hp.get
  obtain ⟨tt, htt⟩ := ht.get
  have hdp := Heap.dims_of htp
  have hdt := Heap.dims_of htt
  unfold crossEntropyLoss
  refine (observes_deref htp).bind (Forwarded.refl wf) ?_
  rintro tp rfl
  refine (observes_deref htt).bind (Forwarded.refl wf) ?_
  rintro tt rfl
  refine (Autograd.observes_ensureCpuFloat32 (wf.placed _ _ htp) "cross_entropy_loss").bind
    (Forwarded.refl wf) fun _ _ => ?_
  refine (Autograd.observes_ensureCpuFloat32 (wf.placed _ _ htt) "cross_entropy_loss").bind
    (Forwarded.refl wf) fun _ _ => ?_
  refine spec_failIf_bind (fun hne => ⟨rfl, ?_⟩) fun heq => ?_
  · have hdims : h.dims logits ≠ h.dims target := by
      rw [hdp, hdt]
      intro hsame
      simp [sameShape, hsame] at hne
    unfold crossEntropyReject lossReject
    rw [if_pos hdims]
    rfl
  have hdims : h.dims logits = h.dims target := by
    rw [hdp, hdt]
    exact sameShape_iff.mp (by simpa using heq)
  rw [← hdp]
  split
  · rename_i batch classes hbc
    have hranked : crossEntropyRanked (h.dims logits) = none := by rw [hbc]; rfl
    refine Spec.bind ((spec_cpuValues wf hp "cross_entropy_loss").mono (fun _ _ hq => hq) ?_ ?_) ?_
    · rintro e _ ⟨rfl, hc, rfl⟩
      exact ⟨rfl, by simp [crossEntropyReject, lossReject, hranked, ← hdims, hc]⟩
    · rintro _ rfl
      exact Forwarded.refl wf
    rintro _ _ ⟨rfl, hcp, rfl⟩
    refine Spec.bind ((spec_cpuValues wf ht "cross_entropy_loss").mono (fun _ _ hq => hq) ?_ ?_) ?_
    · rintro e _ ⟨rfl, hc, rfl⟩
      exact ⟨rfl, by simp [crossEntropyReject, lossReject, hranked, ← hdims, hc]⟩
    · rintro _ rfl
      exact Forwarded.refl wf
    rintro _ h ⟨rfl, hct, rfl⟩
    refine forwards_of_accepted
      (by simp [crossEntropyReject, lossReject, hranked, ← hdims, hcp, hct]) ?_
    have hll := hp.length wf
    have htl := ht.length wf
    have hvalid := hp.valid wf
    rw [← hdims] at htl
    rw [hbc] at hll htl hvalid
    have hlt := hvalid.prod_lt
    simp only [List.prod_cons, List.prod_nil, Nat.mul_one] at hll htl hlt
    have hclasses : 0 < classes := hvalid.pos classes (by simp)
    refine (observes_checked (crossEntropyKernel_eq hclasses hll htl (by omega))).bind
      (Forwarded.refl wf) ?_
    rintro _ rfl
    rw [← crossEntropy_codeFunctions (D := D) hclasses hll htl (by omega)]
    refine spec_materialize wf (by simp [hp, ht]) ⟨hdims, ⟨batch, classes, hbc⟩, rfl⟩
      CpuBackend.validDims_nil rfl (by simp [kMaxFloats]) ?_ (spec_makeScalar h _)
      (records_binary .crossEntropy logits target)
    simp only [List.map_cons, List.map_nil, hbc]
    rfl
  · rename_i hne
    refine spec_throw ⟨rfl, ?_⟩
    have hranked : crossEntropyRanked (h.dims logits) =
        some (invalidShape "cross_entropy_loss: initial contract requires rank-2 tensors") := by
      unfold crossEntropyRanked
      split
      · rename_i batch classes hbc
        exact absurd hbc (hne batch classes)
      · rfl
    simp [crossEntropyReject, lossReject, hranked, ← hdims]

end Training

end Tensora
