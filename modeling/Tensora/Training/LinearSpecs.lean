import Tensora.Training.ForwardSpecs

/-! The linear layer: two recorded operations over a module's parameters. -/
namespace Tensora.Training
open CheckedLoop

variable {F D : Type} [Scalar F] [Scalar D] [Precision F D]
variable {h : Heap F}

def addBiasReject (matrix bias : List Nat) (matrixContiguous biasContiguous : Bool) :
    Option Failure :=
  match matrix, bias with
  | [_, cols], [width] =>
      if width ≠ cols then some (internalError "linear_forward: bias width mismatch")
      else if matrixContiguous && biasContiguous then none
      else some (directAccessError "linear_forward")
  | _, _ => some (internalError "linear_forward: invalid internal bias shapes")

theorem forwards_addBias {matrix bias : TensorId} (wf : WellFormed h) (hm : h.Visible matrix)
    (hb : h.Visible bias) :
    Forwards D (addBias matrix bias) h
      (addBiasReject (h.dims matrix) (h.dims bias) (h.contiguous matrix) (h.contiguous bias))
      .biasAdd [matrix, bias] (h.dims matrix) := by
  obtain ⟨tm, htm⟩ := hm.get
  obtain ⟨tb, htb⟩ := hb.get
  have hdm := Heap.dims_of htm
  have hdb := Heap.dims_of htb
  unfold addBias
  refine (observes_deref htm).bind (Forwarded.refl wf) ?_
  rintro tm rfl
  refine (observes_deref htb).bind (Forwarded.refl wf) ?_
  rintro tb rfl
  rw [← hdm, ← hdb]
  split
  · rename_i rows cols width hrc hw
    refine spec_failIf_bind (fun hne => ⟨rfl, ?_⟩) fun heq => ?_
    · simp only [addBiasReject, hrc, hw]
      rw [if_pos hne]
    obtain rfl : width = cols := not_not.mp heq
    refine Spec.bind ((spec_cpuValues wf hm "linear_forward").mono (fun _ _ hq => hq) ?_ ?_) ?_
    · rintro e _ ⟨rfl, hc, rfl⟩
      exact ⟨rfl, by simp [addBiasReject, hrc, hw, hc]⟩
    · rintro _ rfl
      exact Forwarded.refl wf
    rintro _ _ ⟨rfl, hcm, rfl⟩
    refine Spec.bind ((spec_cpuValues wf hb "linear_forward").mono (fun _ _ hq => hq) ?_ ?_) ?_
    · rintro e _ ⟨rfl, hc, rfl⟩
      exact ⟨rfl, by simp [addBiasReject, hrc, hw, hcm, hc]⟩
    · rintro _ rfl
      exact Forwarded.refl wf
    rintro _ h ⟨rfl, hcb, rfl⟩
    refine forwards_of_accepted (by simp [addBiasReject, hrc, hw, hcm, hcb]) ?_
    refine (observes_allocate h).bind (Forwarded.refl wf) fun _ _ => ?_
    have hlm := hm.length wf
    have hlb := hb.length wf
    have hvalid := hm.valid wf
    have hfits := hm.fits wf
    rw [hrc] at hlm hvalid hfits
    rw [hw] at hlb
    have hlt := hvalid.prod_lt
    simp only [List.prod_cons, List.prod_nil, Nat.mul_one] at hlm hlb hlt
    refine (observes_checked (biasKernel_eq hlm hlb (by omega))).bind (Forwarded.refl wf) ?_
    rintro _ rfl
    generalize hvalues : tab (rows * width) _ = values
    have hlen : values.length = ([rows, width] : List Nat).prod := by
      rw [← hvalues, length_tab]
      simp
    have hlen' : values.length = tm.shape.dimensions.prod := by rw [hlen, ← hdm, hrc]
    have hmake := Autograd.spec_makeCpuTensor (h := h) (wf.placed _ _ htm).layout.valid
      (wf.placed _ _ htm).layout.numel_eq hlen' (by rw [← hdm, hrc]; exact hfits)
    rw [← hdm, hrc] at hmake
    simp only [hrc]
    refine spec_materialize wf (by simp [hm, hb]) ?_ hvalid hlen hfits ?_ hmake
      (records_binary .biasAdd matrix bias)
    · simp only [List.map_cons, List.map_nil, hrc, hw]
      exact ⟨rows, width, rfl, rfl, rfl⟩
    · simp only [List.map_cons, List.map_nil, hrc, hw]
      exact hvalues.symm
  · rename_i hne
    refine spec_throw ⟨rfl, ?_⟩
    unfold addBiasReject
    split
    · rename_i rows cols width hrc hw
      exact absurd hw (hne rows cols width hrc)
    · rfl

/-- What the core build relies on of a Linear module's parameters. -/
structure LinearState.Ok (h : Heap F) (state : LinearState) : Prop where
  weight_visible : h.Visible state.weight
  weight_dims : h.dims state.weight = [state.inFeatures, state.outFeatures]
  weight_rowMajor : h.contiguous state.weight = true
  useBias : state.useBias = state.bias.isSome
  bias_visible : ∀ b, state.bias = some b → h.Visible b
  bias_dims : ∀ b, state.bias = some b → h.dims b = [state.outFeatures]
  bias_rowMajor : ∀ b, state.bias = some b → h.contiguous b = true
  separate : ∀ b t t', state.bias = some b → h.tensors[state.weight]? = some t →
    h.tensors[b]? = some t' → t.storage ≠ t'.storage

def moduleForwardReject (state : LinearState) (dims : List Nat) : Option Failure :=
  match dims with
  | [_, features] =>
      if features ≠ state.inFeatures then some (invalidShape
        "module_forward: input feature dimension does not match Linear")
      else CpuBackend.matmulReject dims [state.inFeatures, state.outFeatures]
  | _ => some (invalidShape "module_forward: Linear currently requires rank-2 input")

variable (D) in
def LinearProduced (h h' : Heap F) (state : LinearState) (input result : TensorId) : Prop :=
  ∃ middle, Produced D h middle .matmul [input, state.weight]
      (CpuBackend.matmulDims (h.dims input) (h.dims state.weight)) ∧
    match state.bias with
    | none => h' = middle ∧ result = h.tensors.length
    | some bias => result = middle.tensors.length ∧
        Produced D middle h' .biasAdd [h.tensors.length, bias] (middle.dims h.tensors.length)

theorem spec_moduleForward {state : LinearState} {input : TensorId} (wf : WellFormed h)
    (hv : h.Visible input) (hs : state.Ok h) :
    Spec (moduleForward state input) h
      (fun r h' => moduleForwardReject state (h.dims input) = none ∧
        LinearProduced D h h' state input r)
      (fun e h' => h' = h ∧ moduleForwardReject state (h.dims input) = some e)
      (Forwarded D h) := by
  obtain ⟨t, ht⟩ := hv.get
  have hd := Heap.dims_of ht
  unfold moduleForward validateModuleInput
  rw [bind_assoc]
  refine (observes_deref ht).bind (Forwarded.refl wf) ?_
  rintro t rfl
  rw [bind_assoc]
  refine (Autograd.observes_ensureCpuFloat32 (wf.placed _ _ ht) "module_forward").bind
    (Forwarded.refl wf) fun _ _ => ?_
  rw [← hd]
  split
  · rename_i rows features hrc
    refine spec_failIf_bind (fun hne => ⟨rfl, ?_⟩) fun heq => ?_
    · simp only [moduleForwardReject, hrc]
      rw [if_pos hne]
    have hreject : moduleForwardReject state (h.dims input) =
        CpuBackend.matmulReject (h.dims input) (h.dims state.weight) := by
      simp only [moduleForwardReject, hrc, hs.weight_dims]
      rw [if_neg heq]
    rw [hreject]
    refine Spec.bind ((CpuBackend.forwards_matmul (D := D) wf hv hs.weight_visible).mono
      (fun _ _ hq => hq) (fun _ _ he => he) fun _ hx => hx) ?_
    rintro _ middle ⟨haccept, rfl, hprod⟩
    have hmid := hprod.forwarded wf
    rw [hs.useBias]
    cases hbias : state.bias with
    | none => exact spec_pure ⟨haccept, middle, hprod, by rw [hbias]; exact ⟨rfl, rfl⟩⟩
    | some bias =>
        have hb := hs.bias_visible bias hbias
        have hbdims : middle.dims bias = [state.outFeatures] := by
          rw [hprod.extension.dims hb.1, hs.bias_dims bias hbias]
        have hmdims : middle.dims h.tensors.length = [rows, state.outFeatures] := by
          rw [hprod.dims_eq, hrc, hs.weight_dims]
          rfl
        have hbias_contiguous : middle.contiguous bias = true := by
          rw [hprod.extension.contiguous hb.1]
          exact hs.bias_rowMajor bias hbias
        refine (forwards_addBias (D := D) hmid.wellFormed (hprod.result_visible wf)
          (hmid.visible hb)).mono ?_ ?_ ?_
        · rintro r h' ⟨-, rfl, hprod'⟩
          exact ⟨haccept, middle, hprod, by rw [hbias]; exact ⟨rfl, hprod'⟩⟩
        · rintro e _ ⟨-, hbad⟩
          rw [hmdims, hbdims, hprod.rowMajor (by decide), hbias_contiguous] at hbad
          simp [addBiasReject] at hbad
        · exact fun _ hx => hmid.trans hx
  · rename_i hne
    refine spec_throw ⟨rfl, ?_⟩
    unfold moduleForwardReject
    split
    · rename_i rows features hrc
      exact absurd hrc (hne rows features)
    · rfl

theorem LinearProduced.forwarded {h' : Heap F} {state : LinearState} {input result : TensorId}
    (p : LinearProduced D h h' state input result) (wf : WellFormed h) :
    Forwarded D h h' ∧ h'.Visible result := by
  obtain ⟨middle, hprod, hrest⟩ := p
  have hmid := hprod.forwarded wf
  cases hbias : state.bias with
  | none =>
      rw [hbias] at hrest
      obtain ⟨rfl, rfl⟩ := hrest
      exact ⟨hmid, hprod.result_visible wf⟩
  | some bias =>
      rw [hbias] at hrest
      obtain ⟨rfl, hprod'⟩ := hrest
      exact ⟨hmid.trans (hprod'.forwarded hmid.wellFormed), hprod'.result_visible hmid.wellFormed⟩

end Tensora.Training
