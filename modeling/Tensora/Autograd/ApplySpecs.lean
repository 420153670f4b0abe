import Tensora.Autograd.BackwardSteps

/-! `ApplyNode` on a node of a well-formed heap: it returns, adds scratch tensors
only, and hands each parent that requires grad its local gradient. -/
namespace Tensora
open CheckedLoop

variable {F : Type} [Scalar F]

def Operation.arity : Operation → Nat
  | .add | .multiply | .matmul | .mse | .crossEntropy | .biasAdd => 2
  | _ => 1

theorem OpShapes.length {operation : Operation} {ps : List (List Nat)} {d : List Nat}
    (h : OpShapes operation ps d) : ps.length = operation.arity := by
  rcases ps with _ | ⟨p, _ | ⟨q, _ | ⟨r, rest⟩⟩⟩ <;> cases operation <;>
    first
    | rfl
    | exact h.elim

namespace Autograd

def offer (h : Heap F) (parent : TensorId) (values : List F) : List (TensorId × List F) :=
  if h.requiresGrad parent then [(parent, values)] else []

structure Emitted (h₀ h : Heap F) (out : List GradientContribution)
    (expected : List (TensorId × List F)) : Prop where
  plain : Plain h₀ h
  made : List.Forall₂ (fun c e => c.parent = e.1 ∧ h₀.tensors.length ≤ c.gradient ∧
    c.gradient < h.tensors.length ∧ h.dims c.gradient = h₀.dims c.parent ∧
    h.contents c.gradient = e.2) out expected

section Emission
variable {h₀ h h' : Heap F} {out : List GradientContribution}
  {expected : List (TensorId × List F)}

omit [Scalar F] in
theorem Emitted.start (wf : WellFormed h₀) : Emitted h₀ h₀ [] [] :=
  ⟨Plain.refl wf, List.Forall₂.nil⟩

omit [Scalar F] in
theorem Emitted.extend (e : Emitted h₀ h out expected) (p : Plain h h') :
    Emitted h₀ h' out expected := by
  refine ⟨e.plain.trans p, e.made.imp fun c x hc => ?_⟩
  obtain ⟨hparent, hle, hlt, hdims, hcontents⟩ := hc
  refine ⟨hparent, hle, hlt.trans_le p.extension.length_le, ?_, ?_⟩
  · rw [p.extension.dims hlt, hdims]
  · rw [p.extension.contents e.plain.wellFormed hlt, hcontents]

omit [Scalar F] in
theorem spec_emit (e : Emitted h₀ h out expected) {parent contribution : TensorId}
    {values : List F} (hp : parent < h₀.tensors.length) (hle : h₀.tensors.length ≤ contribution)
    (hlt : contribution < h.tensors.length) (hd : h.dims contribution = h₀.dims parent)
    (hc : h.contents contribution = values) :
    Spec (emit parent contribution out) h
      (fun out' h' => Emitted h₀ h' out' (expected ++ offer h₀ parent values))
      (fun _ _ => False) (Plain h₀) := by
  have hplt := hp.trans_le e.plain.extension.length_le
  unfold emit
  refine (observes_requiresGrad (List.getElem?_eq_getElem hplt)).bind e.plain ?_
  rintro _ rfl
  rw [e.plain.requiresGrad_eq]
  unfold offer
  refine spec_ite (fun hreq => ?_) fun hreq => ?_
  · refine (observes_allocate h).bind e.plain fun _ _ => ?_
    rw [if_pos hreq]
    exact spec_pure ⟨e.plain, List.rel_append e.made
      (List.Forall₂.cons ⟨rfl, hle, hlt, hd, hc⟩ List.Forall₂.nil)⟩
  · rw [if_neg hreq, List.append_nil]
    exact spec_pure e

omit [Scalar F] in
theorem spec_makeLike (e : Emitted h₀ h out expected) (wf : WellFormed h₀) {parent : TensorId}
    {values : List F} {t : Tensor} (ht : h.tensors[parent]? = some t)
    (hp : parent < h₀.tensors.length) (hlen : values.length = (h₀.dims parent).prod) :
    Spec (makeCpuTensor t.shape values) h
      (fun c h' => Emitted h₀ h' out expected ∧ h₀.tensors.length ≤ c ∧ c < h'.tensors.length ∧
        h'.dims c = h₀.dims parent ∧ h'.contents c = values)
      (fun _ _ => False) (Plain h₀) := by
  have wf' := e.plain.wellFormed
  have hd : h.dims parent = h₀.dims parent := e.plain.extension.dims hp
  have hdt : t.shape.dimensions = h₀.dims parent := by rw [← hd, Heap.dims_of ht]
  have hvalid := wf.dims_valid (List.getElem?_eq_getElem hp)
  have hfits := wf.fits (List.getElem?_eq_getElem hp)
  refine (spec_makeCpuTensor (h := h) (wf'.placed _ _ ht).layout.valid
    (wf'.placed _ _ ht).layout.numel_eq (by rw [hdt, hlen]) (by rw [hdt]; exact hfits)).mono
    ?_ (fun _ _ he => he) ?_
  · rintro c _ ⟨rfl, rfl⟩
    rw [hdt]
    have howned := Plain.fresh_owned wf' hvalid hlen hfits
    exact ⟨e.extend (Plain.fresh wf' hvalid hlen hfits), e.plain.extension.length_le, howned.lt,
      howned.dims_eq, contents_pushFresh wf' hvalid hlen hfits (metaPushable_none h _)⟩
  · exact fun _ hx => e.plain.trans (Plain.idled wf' hx)

omit [Scalar F] in
theorem spec_contribute (e : Emitted h₀ h out expected) (wf : WellFormed h₀) {parent : TensorId}
    {kernel : Except Fault (List F)} {values : List F} (hp : parent < h₀.tensors.length)
    (hk : kernel = .ok values) (hlen : values.length = (h₀.dims parent).prod) :
    Spec (contribute parent kernel out) h
      (fun out' h' => Emitted h₀ h' out' (expected ++ offer h₀ parent values))
      (fun _ _ => False) (Plain h₀) := by
  have hplt := hp.trans_le e.plain.extension.length_le
  have ht := List.getElem?_eq_getElem hplt
  unfold contribute
  refine (observes_requiresGrad ht).bind e.plain ?_
  rintro _ rfl
  refine spec_ite (fun hreq => ?_) fun hreq => ?_
  · refine (observes_allocate h).bind e.plain fun _ _ => ?_
    refine (observes_checked hk).bind e.plain ?_
    rintro _ rfl
    refine (observes_deref ht).bind e.plain ?_
    rintro _ rfl
    refine Spec.bind (spec_makeLike e wf ht hp hlen) ?_
    rintro c h' ⟨e', hle, hlt, hd, hc⟩
    exact spec_emit e' hp hle hlt hd hc
  · rw [e.plain.requiresGrad_eq] at hreq
    rw [offer, if_neg hreq, List.append_nil]
    exact spec_pure e

omit [Scalar F] in
theorem spec_copyToParents (e : Emitted h₀ h out expected) (wf : WellFormed h₀)
    {upstream : TensorId}
    (hu : upstream < h₀.tensors.length) {ps : List TensorId}
    (hps : ∀ p ∈ ps, p < h₀.tensors.length ∧ h₀.dims p = h₀.dims upstream) :
    Spec (copyToParents upstream ps out) h
      (fun out' h' => Emitted h₀ h' out'
        (expected ++ ps.flatMap fun p => offer h₀ p (h₀.contents upstream)))
      (fun _ _ => False) (Plain h₀) := by
  induction ps generalizing h out expected with
  | nil =>
      rw [List.flatMap_nil, List.append_nil]
      exact spec_pure e
  | cons p ps ih =>
      obtain ⟨hp, hd⟩ := hps p (by simp)
      have hplt := hp.trans_le e.plain.extension.length_le
      have hult := hu.trans_le e.plain.extension.length_le
      have hrest := fun q hq => hps q (List.mem_cons_of_mem p hq)
      unfold copyToParents
      refine (observes_requiresGrad (List.getElem?_eq_getElem hplt)).bind e.plain ?_
      rintro _ rfl
      rw [List.flatMap_cons, ← List.append_assoc]
      refine spec_ite (fun hreq => ?_) fun hreq => ?_
      · refine Spec.bind ((spec_copyGradient e.plain.wellFormed hult).mono (fun _ _ hq => hq)
          (fun _ _ he => he) ?_) ?_
        · exact fun _ hx => e.plain.trans hx
        · rintro c h' ⟨rfl, plain, howned, hcontents⟩
          have hdims : h'.dims h.tensors.length = h₀.dims p := by
            rw [howned.dims_eq, e.plain.extension.dims hu, hd]
          rw [e.plain.extension.contents wf hu] at hcontents
          exact Spec.bind (spec_emit (e.extend plain) hp e.plain.extension.length_le howned.lt hdims
            hcontents) fun out' h'' e'' => ih e'' hrest
      · rw [e.plain.requiresGrad_eq] at hreq
        rw [offer, if_neg hreq, List.append_nil]
        exact ih e hrest

end Emission

section Operations
variable {h : Heap F} {node : GradNode} {upstream : TensorId}

abbrev Applies (x : Mem F (List GradientContribution)) (h : Heap F)
    (expected : List (TensorId × List F)) : Prop :=
  Spec x h (fun out h' => Emitted h h' out expected) (fun _ _ => False) (Plain h)

omit [Scalar F] in
theorem observes_firstParent {p : TensorId} {rest : List TensorId}
    (hps : node.parents = p :: rest) :
    Spec (firstParent node : Mem F TensorId) h (fun r h' => h' = h ∧ r = p) (fun _ _ => False)
      fun _ => False := by
  unfold firstParent
  rw [hps]
  exact spec_pure ⟨rfl, rfl⟩

omit [Scalar F] in
theorem applies_identity (wf : WellFormed h) {p : TensorId} (hps : node.parents = [p])
    (hp : p < h.tensors.length) (hu : upstream < h.tensors.length)
    (hd : h.dims p = h.dims upstream) :
    Applies (applyIdentity node upstream) h (offer h p (h.contents upstream)) := by
  have e := Emitted.start wf
  unfold applyIdentity
  refine Spec.bind ((spec_copyGradient wf hu).mono (fun _ _ hq => hq) (fun _ _ he => he)
    fun _ hx => hx) ?_
  rintro c h' ⟨rfl, plain, howned, hcontents⟩
  refine Spec.bind ((observes_firstParent hps).mono (fun _ _ hq => hq) (fun _ _ he => he)
    fun _ hx => hx.elim) ?_
  rintro _ _ ⟨rfl, rfl⟩
  exact spec_emit (e.extend plain) hp (Nat.le_refl _) howned.lt (howned.dims_eq.trans hd.symm)
    hcontents

omit [Scalar F] in
theorem applies_reshape (wf : WellFormed h) {p : TensorId} (hps : node.parents = [p])
    (hp : p < h.tensors.length) (hu : upstream < h.tensors.length)
    (hd : (h.dims upstream).prod = (h.dims p).prod) :
    Applies (applyReshape node upstream) h (offer h p (h.contents upstream)) := by
  have e := Emitted.start wf
  obtain ⟨tp, htp⟩ : ∃ t, h.tensors[p]? = some t := ⟨_, List.getElem?_eq_getElem hp⟩
  obtain ⟨tu, htu⟩ : ∃ t, h.tensors[upstream]? = some t := ⟨_, List.getElem?_eq_getElem hu⟩
  have hnp : tp.shape.numel = (h.dims p).prod := Heap.Visible.numel wf htp
  have hnu : tu.numel = (h.dims upstream).prod := Heap.Visible.numel wf htu
  unfold applyReshape cloneWithShape
  refine Spec.bind ((observes_firstParent hps).mono (fun _ _ hq => hq) (fun _ _ he => he)
    fun _ hx => hx.elim) ?_
  rintro _ h ⟨rfl, rfl⟩
  refine (observes_deref htp).bind e.plain ?_
  rintro tp rfl
  rw [bind_assoc]
  refine (observes_deref htu).bind e.plain ?_
  rintro tu rfl
  rw [bind_assoc]
  refine spec_failIf_bind (fun hne => hne (by rw [hnu, hnp, hd])) fun _ => ?_
  rw [bind_assoc]
  refine (observes_readLogicalCpuValues wf htu "autograd_reshape").bind e.plain ?_
  rintro _ rfl
  refine Spec.bind (spec_makeLike e wf htp hp ?_) ?_
  · rw [wf.length_contents htu, hd]
  · rintro c h' ⟨e', hle, hlt, hdc, hc⟩
    exact spec_emit e' hp hle hlt hdc hc

theorem applies_transpose (wf : WellFormed h) {p : TensorId} (hps : node.parents = [p])
    (hp : p < h.tensors.length) (hu : upstream < h.tensors.length) {rows cols : Nat}
    (hdp : h.dims p = [rows, cols]) (hdu : h.dims upstream = [cols, rows]) :
    Applies (applyTranspose node upstream) h
      (offer h p (transposeData cols rows (h.contents upstream))) := by
  have e := Emitted.start wf
  obtain ⟨tu, htu⟩ : ∃ t, h.tensors[upstream]? = some t := ⟨_, List.getElem?_eq_getElem hu⟩
  have hvalid := wf.dims_valid (List.getElem?_eq_getElem hp)
  have hfits := wf.fits (List.getElem?_eq_getElem hp)
  have hlt := hvalid.prod_lt
  have hlen := wf.length_contents htu
  rw [hdp] at hvalid hfits hlt
  rw [hdu] at hlen
  simp only [List.prod_cons, List.prod_nil, Nat.mul_one] at hlen hlt
  have hlen' : (transposeData cols rows (h.contents upstream)).length =
      ([rows, cols] : List Nat).prod := by
    rw [transposeData_length hlen]
    simp
  have hswap : cols * rows = rows * cols := Nat.mul_comm _ _
  unfold applyTranspose transposeGradient
  rw [bind_assoc]
  refine (observes_deref htu).bind e.plain ?_
  rintro tu rfl
  rw [← Heap.dims_of htu, hdu]
  simp only
  rw [bind_assoc]
  refine (observes_validatedShape hvalid).bind e.plain ?_
  rintro _ rfl
  rw [bind_assoc]
  refine (observes_readLogicalCpuValues wf htu "autograd_transpose").bind e.plain ?_
  rintro _ rfl
  rw [bind_assoc]
  refine (observes_allocate h).bind e.plain fun _ _ => ?_
  rw [bind_assoc]
  refine (observes_checked (transposeKernel_eq hlen (by omega))).bind e.plain ?_
  rintro _ rfl
  have hcanon : ValidDims (canonicalShape [rows, cols]).dimensions := hvalid
  refine Spec.bind ((spec_makeCpuTensor (h := h) hcanon rfl hlen' hfits).mono (fun _ _ hq => hq)
    (fun _ _ he => he) fun _ hx => Plain.idled wf hx) ?_
  rintro c _ ⟨rfl, rfl⟩
  have howned := Plain.fresh_owned wf hvalid hlen' hfits
  refine Spec.bind ((observes_firstParent hps).mono (fun _ _ hq => hq) (fun _ _ he => he)
    fun _ hx => hx.elim) ?_
  rintro _ _ ⟨rfl, rfl⟩
  exact spec_emit (e.extend (Plain.fresh wf hvalid hlen' hfits)) hp (Nat.le_refl _) howned.lt
    (howned.dims_eq.trans hdp.symm)
    (contents_pushFresh wf hvalid hlen' hfits (metaPushable_none h _))

theorem applies_multiply (wf : WellFormed h) {l r : TensorId} {grad : List F}
    (hps : node.parents = [l, r]) (hl : l < h.tensors.length) (hr : r < h.tensors.length)
    (hlen : grad.length = (h.dims l).prod) (hd : h.dims r = h.dims l) :
    Applies (applyMultiply node grad) h
      (offer h l (tab grad.length fun i => grad.getD i 0 * (h.contents r).getD i 0) ++
        offer h r (tab grad.length fun i => grad.getD i 0 * (h.contents l).getD i 0)) := by
  have e := Emitted.start wf
  have htl := List.getElem?_eq_getElem hl
  have htr := List.getElem?_eq_getElem hr
  have hll := wf.length_contents htl
  have hlr := wf.length_contents htr
  unfold applyMultiply
  rw [hps]
  simp only
  refine (observes_readLogicalCpuValues wf htl "autograd_multiply").bind e.plain ?_
  rintro _ rfl
  refine (observes_readLogicalCpuValues wf htr "autograd_multiply").bind e.plain ?_
  rintro _ rfl
  refine spec_failIf_bind (fun hne => ?_) fun _ => ?_
  · rw [hll, hlr, hd] at hne
    omega
  refine Spec.bind (spec_contribute e wf hl (productKernel_eq ?_) ?_) fun out h' e' => ?_
  · rw [hlr, hd, hlen]
  · rw [length_tab, hlen]
  rw [List.nil_append] at e'
  refine spec_contribute e' wf hr (productKernel_eq ?_) ?_
  · rw [hll, hlen]
  · rw [length_tab, hlen, hd]

omit [Scalar F] in
theorem applies_sum (wf : WellFormed h) {p : TensorId} {value : F} (hps : node.parents = [p])
    (hp : p < h.tensors.length) :
    Applies (applySum node [value]) h
      (offer h p (List.replicate (h.contents p).length value)) := by
  have e := Emitted.start wf
  obtain ⟨tp, htp⟩ : ∃ t, h.tensors[p]? = some t := ⟨_, List.getElem?_eq_getElem hp⟩
  have hlayout := (wf.placed _ _ htp).layout
  have hfits := (wf.placed _ _ htp).fits
  unfold applySum
  simp only
  refine Spec.bind ((observes_firstParent hps).mono (fun _ _ hq => hq) (fun _ _ he => he)
    fun _ hx => hx.elim) ?_
  rintro _ h ⟨rfl, rfl⟩
  refine (observes_deref htp).bind e.plain ?_
  rintro tp rfl
  have hpush := pushable_fresh wf hlayout (List.length_replicate (a := value)) hfits
    (metaPushable_none h tp.shape.dimensions)
  have plain := Plain.fresh_of_layout wf hlayout (List.length_replicate (a := value)) hfits
  refine Spec.bind ((spec_makeCpuFull (h := h) value hfits).mono (fun _ _ hq => hq)
    (fun _ _ he => he) fun _ hx => Plain.idled wf hx) ?_
  rintro c _ ⟨rfl, rfl⟩
  refine spec_emit (e.extend plain) hp (Nat.le_refl _) ?_ ?_ ?_
  · rw [hpush.length]
    exact Nat.lt_succ_self _
  · rw [Heap.dims_of hpush.last, Heap.dims_of htp]
  · rw [contents_pushFilled wf value hlayout hfits, wf.length_contents htp,
      ← Heap.Visible.numel wf htp]
    rfl

theorem applies_matmul (wf : WellFormed h) {l r : TensorId} (hps : node.parents = [l, r])
    (hl : l < h.tensors.length) (hr : r < h.tensors.length) (hu : upstream < h.tensors.length)
    {m k n : Nat} (hdl : h.dims l = [m, k]) (hdr : h.dims r = [k, n])
    (hdu : h.dims upstream = [m, n]) :
    Applies (applyMatmul node upstream (h.contents upstream)) h
      (offer h l (tab (m * k) fun i => sumTo n fun c =>
          (h.contents upstream).getD (i / k * n + c) 0 * (h.contents r).getD (i % k * n + c) 0) ++
        offer h r (tab (k * n) fun i => sumTo m fun row =>
          (h.contents l).getD (row * k + i / n) 0 *
            (h.contents upstream).getD (row * n + i % n) 0)) := by
  have e := Emitted.start wf
  obtain ⟨tl, htl⟩ : ∃ t, h.tensors[l]? = some t := ⟨_, List.getElem?_eq_getElem hl⟩
  obtain ⟨tr, htr⟩ : ∃ t, h.tensors[r]? = some t := ⟨_, List.getElem?_eq_getElem hr⟩
  obtain ⟨tu, htu⟩ : ∃ t, h.tensors[upstream]? = some t := ⟨_, List.getElem?_eq_getElem hu⟩
  have hll := wf.length_contents htl
  have hlr := wf.length_contents htr
  have hlu := wf.length_contents htu
  have hml := (wf.dims_valid htl).prod_lt
  have hmr := (wf.dims_valid htr).prod_lt
  have hmu := (wf.dims_valid htu).prod_lt
  rw [hdl] at hll hml
  rw [hdr] at hlr hmr
  rw [hdu] at hlu hmu
  simp only [List.prod_cons, List.prod_nil, Nat.mul_one] at hll hlr hlu hml hmr hmu
  unfold applyMatmul
  rw [hps]
  simp only
  refine (observes_deref htl).bind e.plain ?_
  rintro tl rfl
  refine (observes_deref htr).bind e.plain ?_
  rintro tr rfl
  refine (observes_deref htu).bind e.plain ?_
  rintro tu rfl
  rw [← Heap.dims_of htl, ← Heap.dims_of htr, ← Heap.dims_of htu, hdl, hdr, hdu]
  simp only
  refine (observes_readLogicalCpuValues wf htl "autograd_matmul").bind e.plain ?_
  rintro _ rfl
  refine (observes_readLogicalCpuValues wf htr "autograd_matmul").bind e.plain ?_
  rintro _ rfl
  refine Spec.bind (spec_contribute e wf hl
    (matmulLeftKernel_eq hlu hlr (by omega) (by omega) (by omega)) ?_) fun out h' e' => ?_
  · rw [length_tab, hdl]
    simp
  rw [List.nil_append] at e'
  refine spec_contribute e' wf hr
    (matmulRightKernel_eq hlu hll (by omega) (by omega) (by omega)) ?_
  rw [length_tab, hdr]
  simp

theorem applies_activation (wf : WellFormed h) {p : TensorId} {grad : List F}
    (hps : node.parents = [p]) (hp : p < h.tensors.length) (hlen : grad.length = (h.dims p).prod) :
    Applies (applyActivation node grad) h
      (offer h p (localGradient.activate node.operation (h.contents p) grad)) := by
  have e := Emitted.start wf
  obtain ⟨tp, htp⟩ : ∃ t, h.tensors[p]? = some t := ⟨_, List.getElem?_eq_getElem hp⟩
  have hlp := wf.length_contents htp
  unfold applyActivation
  refine Spec.bind ((observes_firstParent hps).mono (fun _ _ hq => hq) (fun _ _ he => he)
    fun _ hx => hx.elim) ?_
  rintro _ h ⟨rfl, rfl⟩
  refine (observes_readLogicalCpuValues wf htp "autograd_activation").bind e.plain ?_
  rintro _ rfl
  refine spec_failIf_bind (fun hne => hne (by rw [hlp, hlen])) fun _ => ?_
  refine (observes_allocate h).bind e.plain fun _ _ => ?_
  refine (observes_checked (activationKernel_eq (by rw [hlp, hlen]))).bind e.plain ?_
  rintro _ rfl
  refine (observes_deref htp).bind e.plain ?_
  rintro tp rfl
  refine Spec.bind (spec_makeLike e wf htp hp ?_) ?_
  · rw [length_tab, hlen]
  · rintro c h' ⟨e', hle, hlt, hdc, hc⟩
    exact spec_emit e' hp hle hlt hdc hc

theorem applies_swiGlu (wf : WellFormed h) {p : TensorId} {grad : List F}
    (hps : node.parents = [p]) (hp : p < h.tensors.length) {front : List Nat} {half : Nat}
    (hpos : 0 < half) (hdp : h.dims p = front ++ [2 * half])
    (hlen : grad.length = (front ++ [half]).prod) :
    Applies (applySwiGlu node grad) h
      (offer h p (tab (h.contents p).length (swiGluGradient half (h.contents p) grad))) := by
  have e := Emitted.start wf
  obtain ⟨tp, htp⟩ : ∃ t, h.tensors[p]? = some t := ⟨_, List.getElem?_eq_getElem hp⟩
  have hlp := wf.length_contents htp
  have hn : tp.numel = (h.dims p).prod := Heap.Visible.numel wf htp
  have hlt := (wf.dims_valid htp).prod_lt
  have hlp' := hlp
  rw [hdp, List.prod_append] at hlp' hn hlt
  rw [List.prod_append] at hlen
  simp only [List.prod_cons, List.prod_nil, Nat.mul_one] at hlp' hn hlt hlen
  have hrows : tp.numel / (2 * half) = front.prod := by
    rw [hn]
    exact Nat.mul_div_cancel _ (by omega)
  have hhalf : 2 * half / 2 = half := by omega
  unfold applySwiGlu
  rw [hps]
  simp only
  refine (observes_deref htp).bind e.plain ?_
  rintro tp rfl
  rw [← Heap.dims_of htp, hdp, List.getLast?_concat]
  simp only
  refine spec_failIf_bind (fun hbad => by omega) fun _ => ?_
  rw [hhalf, hrows]
  refine spec_failIf_bind (fun hne => hne hlen) fun _ => ?_
  refine (observes_readLogicalCpuValues wf htp "autograd_swiglu").bind e.plain ?_
  rintro _ rfl
  refine (observes_allocate h).bind e.plain fun _ _ => ?_
  refine (observes_checked (swiGluGradientKernel_eq hlp' hlen (by omega))).bind e.plain ?_
  rintro _ rfl
  refine Spec.bind (spec_makeLike e wf htp hp ?_) ?_
  · rw [length_tab, hlp]
  · rintro c h' ⟨e', hle, hlt', hdc, hc⟩
    exact spec_emit e' hp hle hlt' hdc hc

theorem applies_mse (wf : WellFormed h) {p t : TensorId} {value : F}
    (hps : node.parents = [p, t]) (hp : p < h.tensors.length) (ht : t < h.tensors.length)
    (hd : h.dims p = h.dims t) :
    Applies (applyMse node [value]) h
      (offer h p (mseGradient (two * value / ((h.contents p).length : F)) (h.contents p)
          (h.contents t)) ++
        offer h t (mseGradient (-(two * value / ((h.contents p).length : F))) (h.contents p)
          (h.contents t))) := by
  have e := Emitted.start wf
  have htp := List.getElem?_eq_getElem hp
  have htt := List.getElem?_eq_getElem ht
  have hlp := wf.length_contents htp
  have hlt := wf.length_contents htt
  have hlen : (h.contents t).length = (h.contents p).length := by rw [hlp, hlt, hd]
  unfold applyMse
  rw [hps]
  simp only
  refine (observes_readLogicalCpuValues wf htp "autograd_mse").bind e.plain ?_
  rintro _ rfl
  refine (observes_readLogicalCpuValues wf htt "autograd_mse").bind e.plain ?_
  rintro _ rfl
  refine Spec.bind (spec_contribute e wf hp (mseGradientKernel_eq hlen) ?_) fun out h' e' => ?_
  · rw [mseGradient, length_tab, hlp]
  rw [List.nil_append] at e'
  refine spec_contribute e' wf ht (mseGradientKernel_eq hlen) ?_
  rw [mseGradient, length_tab, hlp, hd]

theorem applies_biasAdd (wf : WellFormed h) {m b : TensorId} (hps : node.parents = [m, b])
    (hm : m < h.tensors.length) (hb : b < h.tensors.length) (hu : upstream < h.tensors.length)
    {rows cols : Nat} (hdm : h.dims m = [rows, cols]) (hdb : h.dims b = [cols])
    (hdu : h.dims upstream = [rows, cols]) :
    Applies (applyBiasAdd node upstream (h.contents upstream)) h
      (offer h m (h.contents upstream) ++
        offer h b (tab cols fun c => sumTo rows fun r =>
          (h.contents upstream).getD (r * cols + c) 0)) := by
  have e := Emitted.start wf
  obtain ⟨tm, htm⟩ : ∃ t, h.tensors[m]? = some t := ⟨_, List.getElem?_eq_getElem hm⟩
  obtain ⟨tb, htb⟩ : ∃ t, h.tensors[b]? = some t := ⟨_, List.getElem?_eq_getElem hb⟩
  have hlu := wf.length_contents (List.getElem?_eq_getElem hu)
  have hvalid := (wf.dims_valid htm).prod_lt
  rw [hdm] at hvalid
  rw [hdu] at hlu
  simp only [List.prod_cons, List.prod_nil, Nat.mul_one] at hlu hvalid
  unfold applyBiasAdd
  rw [hps]
  simp only
  refine (observes_deref htm).bind e.plain ?_
  rintro tm rfl
  refine (observes_deref htb).bind e.plain ?_
  rintro tb rfl
  rw [← Heap.dims_of htm, ← Heap.dims_of htb, hdm, hdb]
  simp only
  refine spec_failIf_bind (fun hbad => by omega) fun _ => ?_
  refine Spec.bind (spec_copyToParents e wf hu ?_) fun out h' e' => ?_
  · intro p hp
    rw [List.mem_singleton.mp hp]
    exact ⟨hm, hdm.trans hdu.symm⟩
  simp only [List.nil_append, List.flatMap_cons, List.flatMap_nil, List.append_nil] at e'
  refine spec_contribute e' wf hb (biasGradientKernel_eq hlu (by omega)) ?_
  rw [length_tab, hdb]
  simp

theorem applies_crossEntropy (wf : WellFormed h) {l t : TensorId} {value : F}
    (hps : node.parents = [l, t]) (hl : l < h.tensors.length) (ht : t < h.tensors.length)
    (hd : h.dims l = h.dims t) {batch classes : Nat} (hdl : h.dims l = [batch, classes]) :
    Applies (applyCrossEntropy node [value]) h
      (offer h l (valuesOf (crossEntropyLogitsKernel batch classes (value / (batch : F))
          (h.contents l) (h.contents t))) ++
        offer h t (valuesOf (crossEntropyTargetKernel batch classes (value / (batch : F))
          (h.contents l) (h.contents t)))) := by
  have e := Emitted.start wf
  obtain ⟨tl, htl⟩ : ∃ t, h.tensors[l]? = some t := ⟨_, List.getElem?_eq_getElem hl⟩
  obtain ⟨tt, htt⟩ : ∃ t', h.tensors[t]? = some t' := ⟨_, List.getElem?_eq_getElem ht⟩
  have hvalid := wf.dims_valid htl
  have hll := wf.length_contents htl
  have hlt := wf.length_contents htt
  rw [← hd] at hlt
  rw [hdl] at hvalid hll hlt
  have hclasses : 0 < classes := hvalid.pos classes (by simp)
  have hbound := hvalid.prod_lt
  simp only [List.prod_cons, List.prod_nil, Nat.mul_one] at hll hlt hbound
  have hsame : sameShape tl.shape tt.shape = true := by
    rw [sameShape_iff, ← Heap.dims_of htl, ← Heap.dims_of htt, hd]
  unfold applyCrossEntropy
  rw [hps]
  simp only
  refine (observes_deref htl).bind e.plain ?_
  rintro tl rfl
  refine (observes_deref htt).bind e.plain ?_
  rintro tt rfl
  rw [hsame, ← Heap.dims_of htl, hdl]
  simp only
  refine (observes_readLogicalCpuValues wf htl "autograd_cross_entropy").bind e.plain ?_
  rintro _ rfl
  refine (observes_readLogicalCpuValues wf htt "autograd_cross_entropy").bind e.plain ?_
  rintro _ rfl
  rw [crossEntropyLogitsKernel_eq _ hclasses hll hlt (by omega),
    crossEntropyTargetKernel_eq _ hclasses hll hlt (by omega)]
  refine Spec.bind (spec_contribute e wf hl rfl ?_) fun out h' e' => ?_
  · rw [length_tab, hdl]
    simp
  rw [List.nil_append] at e'
  refine spec_contribute e' wf ht rfl ?_
  rw [valuesOf, length_tab, ← hd, hdl]
  simp

end Operations

def staleError : Failure :=
  invalidArgument "autograd: a saved tensor alias was modified before backward"

section Node
variable {h : Heap F} {id : TensorId} {node : GradNode}

omit [Scalar F] in
theorem spec_checkVersions (wf : WellFormed h) (ps : List TensorId) (versions : List Nat)
    (hlen : ps.length = versions.length) (hp : ∀ p ∈ ps, p < h.tensors.length) :
    Spec ((ps.zip versions).forM fun (parent, saved) => do
        failIf ((← version (← deref parent)) ≠ saved) staleError : Mem F Unit) h
      (fun _ h' => h' = h ∧ versions = ps.map h.version)
      (fun e h' => h' = h ∧ versions ≠ ps.map h.version ∧ e = staleError) (fun h' => h' = h) := by
  induction ps generalizing versions with
  | nil =>
      obtain rfl : versions = [] := List.length_eq_zero_iff.mp hlen.symm
      exact spec_pure ⟨rfl, rfl⟩
  | cons p ps ih =>
      cases versions with
      | nil => cases hlen
      | cons v versions =>
          have hrest := ih versions (Nat.succ.inj hlen) fun q hq => hp q (by simp [hq])
          have hstep : Spec (do failIf ((← version (← deref p)) ≠ v) staleError : Mem F Unit) h
              (fun _ h' => h' = h ∧ h.version p = v)
              (fun e h' => h' = h ∧ h.version p ≠ v ∧ e = staleError) (fun h' => h' = h) := by
            have hbind := Observes.bind (f := fun v' => (failIf (v' ≠ v) staleError : Mem F Unit))
              (R := fun _ h' => h' = h ∧ h.version p = v)
              (E := fun e h' => h' = h ∧ h.version p ≠ v ∧ e = staleError) (X := fun h' => h' = h)
              (observes_version wf (hp p (by simp))) rfl (by
                rintro _ rfl
                exact spec_failIf (fun hne => ⟨rfl, hne, rfl⟩) fun heq => ⟨rfl, not_not.mp heq⟩)
            simpa only [bind_assoc] using hbind
          refine Spec.bind (hstep.mono (fun _ _ hq => hq) ?_ fun _ hx => hx) ?_
          · rintro e h' ⟨rfl, hne, rfl⟩
            refine ⟨rfl, fun heq => hne ?_, rfl⟩
            exact (List.cons.inj heq).1.symm
          · rintro _ _ ⟨rfl, hv⟩
            refine hrest.mono ?_ ?_ fun _ hx => hx
            · rintro _ _ ⟨rfl, heq⟩
              exact ⟨rfl, by rw [List.map_cons, hv, heq]⟩
            · rintro e h' ⟨rfl, hne, rfl⟩
              exact ⟨rfl, fun heq => hne (List.cons.inj heq).2, rfl⟩

omit [Scalar F] in
theorem spec_validateSavedVersions (wf : WellFormed h)
    (hlen : node.parents.length = node.parentVersions.length)
    (hp : ∀ p ∈ node.parents, p < h.tensors.length) :
    Spec (validateSavedVersions node : Mem F Unit) h
      (fun _ h' => h' = h ∧ node.parentVersions = node.parents.map h.version)
      (fun e h' => h' = h ∧ node.parentVersions ≠ node.parents.map h.version ∧ e = staleError)
      (fun h' => h' = h) := by
  unfold validateSavedVersions
  exact spec_failIf_bind (fun hne => absurd hlen hne) fun _ => spec_checkVersions wf _ _ hlen hp

theorem contributions_one (operation : Operation) (p : TensorId) (grad : List F) :
    h.tape.contributions operation [p] grad =
      offer h p (localGradient operation [h.dims p] [h.contents p] grad 0) := by
  simp only [Tape.contributions, offer, List.zipIdx_cons, List.zipIdx_nil, List.filter_cons,
    List.filter_nil, Heap.tape]
  split <;> rfl

theorem contributions_two (operation : Operation) (p q : TensorId) (grad : List F) :
    h.tape.contributions operation [p, q] grad =
      offer h p
        (localGradient operation [h.dims p, h.dims q] [h.contents p, h.contents q] grad 0) ++
        offer h q
          (localGradient operation [h.dims p, h.dims q] [h.contents p, h.contents q] grad 1) := by
  simp only [Tape.contributions, offer, List.zipIdx_cons, List.zipIdx_nil, List.filter_cons,
    List.filter_nil, Heap.tape]
  split <;> split <;> rfl

/-- One case for each operation, with the shapes its node recorded. -/
theorem spec_applyNode (wf : WellFormed h) (hn : h.gradFn id = some node)
    (hcurrent : node.parentVersions = node.parents.map h.version) {upstream : TensorId}
    (hu : upstream < h.tensors.length) (hd : h.dims upstream = h.dims id) :
    Applies (applyNode node upstream) h
      (h.tape.contributions node.operation node.parents (h.contents upstream)) := by
  obtain ⟨-, -, -, hok⟩ := wf.node hn
  have hplt : ∀ p ∈ node.parents, p < h.tensors.length := fun p hp => (wf.parent_visible hn hp).1
  have htu := List.getElem?_eq_getElem hu
  have hgrad := wf.length_contents htu
  have hshapes := hok.shapes
  rw [← hd] at hshapes
  have harity := hshapes.length
  rw [List.length_map] at harity
  have e := Emitted.start wf
  unfold applyNode
  refine Spec.bind ((spec_validateSavedVersions wf hok.versions hplt).mono (fun _ _ hq => hq.1)
    (fun _ _ he => he.2.1 hcurrent) ?_) ?_
  · rintro _ rfl
    exact e.plain
  rintro _ h rfl
  refine (observes_readLogicalCpuValues wf htu "autograd_backward").bind e.plain ?_
  rintro _ rfl
  cases hop : node.operation with
  | identity =>
      rw [hop] at hshapes harity
      obtain ⟨p, hps⟩ := List.length_eq_one_iff.mp harity
      rw [hps] at hshapes hplt ⊢
      rw [contributions_one]
      exact applies_identity wf hps (hplt p (by simp)) hu hshapes.symm
  | reshape =>
      rw [hop] at hshapes harity
      obtain ⟨p, hps⟩ := List.length_eq_one_iff.mp harity
      rw [hps] at hshapes hplt ⊢
      rw [contributions_one]
      exact applies_reshape wf hps (hplt p (by simp)) hu hshapes
  | transpose2D =>
      rw [hop] at hshapes harity
      obtain ⟨p, hps⟩ := List.length_eq_one_iff.mp harity
      rw [hps] at hshapes hplt ⊢
      obtain ⟨rows, cols, hdp, hdu⟩ := hshapes
      rw [contributions_one, hdp]
      exact applies_transpose wf hps (hplt p (by simp)) hu hdp hdu
  | add =>
      rw [hop] at hshapes harity
      obtain ⟨p, q, hps⟩ := List.length_eq_two.mp harity
      rw [hps] at hshapes hplt ⊢
      rw [contributions_two]
      refine (spec_copyToParents e wf hu ?_).mono (fun out h' hq => ?_) (fun _ _ he => he)
        fun _ hx => hx
      · intro r hr
        refine ⟨hplt r hr, ?_⟩
        simp only [List.mem_cons, List.not_mem_nil, or_false] at hr
        rcases hr with rfl | rfl
        · exact hshapes.1
        · exact hshapes.2
      · simp only [List.nil_append, List.flatMap_cons, List.flatMap_nil, List.append_nil] at hq
        exact hq
  | multiply =>
      rw [hop] at hshapes harity
      obtain ⟨p, q, hps⟩ := List.length_eq_two.mp harity
      rw [hps] at hshapes hplt ⊢
      rw [contributions_two]
      refine applies_multiply wf hps (hplt p (by simp)) (hplt q (by simp)) ?_ ?_
      · rw [hgrad, ← hshapes.1]
      · exact hshapes.2.trans hshapes.1.symm
  | sum =>
      rw [hop] at hshapes harity
      obtain ⟨p, hps⟩ := List.length_eq_one_iff.mp harity
      rw [hps] at hshapes hplt ⊢
      rw [hshapes] at hgrad
      obtain ⟨value, hvalue⟩ := List.length_eq_one_iff.mp hgrad
      rw [contributions_one, hvalue]
      exact applies_sum wf hps (hplt p (by simp))
  | matmul =>
      rw [hop] at hshapes harity
      obtain ⟨p, q, hps⟩ := List.length_eq_two.mp harity
      rw [hps] at hshapes hplt ⊢
      obtain ⟨m, k, n, hdp, hdq, hdu⟩ := hshapes
      rw [contributions_two, hdp, hdq]
      exact applies_matmul wf hps (hplt p (by simp)) (hplt q (by simp)) hu hdp hdq hdu
  | swiGlu =>
      rw [hop] at hshapes harity
      obtain ⟨p, hps⟩ := List.length_eq_one_iff.mp harity
      rw [hps] at hshapes hplt ⊢
      obtain ⟨front, half, hpos, hdp, hdu⟩ := hshapes
      rw [hdu] at hgrad
      rw [contributions_one, hdp]
      simp only [localGradient, List.getLastD_concat, show 2 * half / 2 = half by omega]
      exact applies_swiGlu wf hps (hplt p (by simp)) hpos hdp hgrad
  | mse =>
      rw [hop] at hshapes harity
      obtain ⟨p, q, hps⟩ := List.length_eq_two.mp harity
      rw [hps] at hshapes hplt ⊢
      rw [hshapes.2] at hgrad
      obtain ⟨value, hvalue⟩ := List.length_eq_one_iff.mp hgrad
      rw [contributions_two, hvalue]
      exact applies_mse wf hps (hplt p (by simp)) (hplt q (by simp)) hshapes.1
  | crossEntropy =>
      rw [hop] at hshapes harity
      obtain ⟨p, q, hps⟩ := List.length_eq_two.mp harity
      rw [hps] at hshapes hplt ⊢
      obtain ⟨hd', ⟨batch, classes, hdp⟩, hdu⟩ := hshapes
      rw [hdu] at hgrad
      obtain ⟨value, hvalue⟩ := List.length_eq_one_iff.mp hgrad
      rw [contributions_two, hvalue, hdp]
      exact applies_crossEntropy wf hps (hplt p (by simp)) (hplt q (by simp)) hd' hdp
  | biasAdd =>
      rw [hop] at hshapes harity
      obtain ⟨p, q, hps⟩ := List.length_eq_two.mp harity
      rw [hps] at hshapes hplt ⊢
      obtain ⟨rows, cols, hdp, hdq, hdu⟩ := hshapes
      rw [contributions_two, hdp, hdq]
      exact applies_biasAdd wf hps (hplt p (by simp)) (hplt q (by simp)) hu hdp hdq hdu
  | _ =>
      -- the five activations share one branch of the source
      rw [hop] at hshapes harity
      obtain ⟨p, hps⟩ := List.length_eq_one_iff.mp harity
      rw [hps] at hshapes hplt
      have hlen : (h.contents upstream).length = (h.dims p).prod :=
        hgrad.trans (congrArg List.prod hshapes)
      have happly := applies_activation wf hps (hplt p (by simp)) hlen
      rw [hop] at happly
      rw [hps, contributions_one]
      exact happly

end Node

end Autograd

end Tensora
