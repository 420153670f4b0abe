import Tensora.Api.Runs
import Tensora.Training.OperationPaths

/-! The Linear module of the LibTorch build beside the parameters it exports: what the module
computes, against what a caller computes from the parameters he reads. -/
namespace Tensora.Bridge
open ProgramLogic CheckedLoop Training

def addRows {F : Type} [Arith F] (rows cols : Nat) (values : List F) : Option (List F) → List F
  | none => values
  | some bias => tab (rows * cols) fun i => values.getD i 0 + bias.getD (i % cols) 0

/-- What LibTorch's tensors hold, row by row, and how it multiplies matrices. -/
structure Contents {F : Type} (lib : LibTorch F) where
  values : lib.State → lib.Ref → List F
  product : Nat → Nat → Nat → List F → List F → List F

/-- A Linear module: `weight` and `bias` are its registered parameters, in that order. -/
structure TorchLinear {F : Type} (lib : LibTorch F) where
  inFeatures : Nat
  outFeatures : Nat
  weight : lib.Ref
  bias : Option lib.Ref

namespace TorchLinear
variable {F : Type} {lib : LibTorch F}

def parameters (layer : TorchLinear lib) : List lib.Ref := layer.weight :: layer.bias.toList

/-- `ModuleParameterAt`, in the LibTorch build. -/
def parameterAt (layer : TorchLinear lib) (index : Nat) : BridgeM lib (TensorObject lib) :=
  match layer.parameters[index]? with
  | some value => wrapTorchTensor value
  | none => throw (invalidArgument "module_parameter_at: index is out of range")

def readBias (layer : TorchLinear lib) : BridgeM lib (Option (TensorObject lib)) :=
  if layer.parameters.length = 2 then some <$> layer.parameterAt 1 else return none

/-- What a caller can see of a module on one input. -/
structure Inspection (lib : LibTorch F) where
  weight : TensorObject lib
  bias : Option (TensorObject lib)
  output : TensorObject lib
  product : TensorObject lib

variable (D : Type) [Scalar F] [Scalar D] [Precision F D]

def inspect (layer : TorchLinear lib) (input : TensorObject lib) :
    BridgeM lib (Inspection lib) := do
  let weight ← layer.parameterAt 0
  let bias ← layer.readBias
  let output ← exec D .libtorch (.moduleForward (.torch layer.weight layer.bias) input)
  let product ← exec D .libtorch (.matmul input weight)
  return { weight, bias, output, product }

end TorchLinear

namespace Contents
variable {F : Type} {lib : LibTorch F}

structure Kept (contents : Contents lib) (s s' : lib.State) : Prop where
  live : ∀ r, lib.live s r → lib.live s' r
  sizes : ∀ r, lib.live s r → lib.sizes s' r = lib.sizes s r
  device : ∀ r, lib.live s r → lib.device s' r = lib.device s r
  values : ∀ r, lib.live s r → contents.values s' r = contents.values s r

structure Is (contents : Contents lib) (s : lib.State) (r : lib.Ref) (sizes : List Nat)
    (values : List F) (device : TorchDevice) : Prop where
  live : lib.live s r
  sizes_eq : lib.sizes s r = sizes
  values_eq : contents.values s r = values
  device_eq : lib.device s r = device

def IsBias (contents : Contents lib) (s : lib.State) (outFeatures : Nat) (device : TorchDevice) :
    Option lib.Ref → Option (List F) → Prop
  | none, none => True
  | some r, some values => contents.Is s r [outFeatures] values device
  | _, _ => False

def Makes (contents : Contents lib) (may : Prop) (program : EStateM Failure lib.State lib.Ref)
    (sizes : List Nat) (values : List F) (device : TorchDevice) (s : lib.State) : Prop :=
  wp program (fun r s' => contents.Kept s s' ∧ contents.Is s' r sizes values device)
    (fun _ _ => may) s

/-- What LibTorch documents of the expressions a Linear module and its caller evaluate. The weight
of the module is stored as `[out, in]`, and `x * transpose(weight) + bias` is computed. -/
structure Documented [Arith F] (contents : Contents lib) (may : Prop) : Prop where
  length_values : ∀ s r, lib.live s r → (contents.values s r).length = (lib.sizes s r).prod
  fromBlobClone : ∀ values dimensions s, values.length = dimensions.prod →
    contents.Makes may (lib.fromBlobClone values dimensions) dimensions values ⟨.cpu, -1⟩ s
  moved : ∀ target r sizes values device s, contents.Is s r sizes values device →
    contents.Makes may (lib.evaluate (.moved target) [r]) sizes values target s
  matmul : ∀ left right rows inner cols l r device s,
    contents.Is s left [rows, inner] l device → contents.Is s right [inner, cols] r device →
    contents.Makes may (lib.evaluate .matmul [left, right]) [rows, cols]
      (contents.product rows inner cols l r) device s
  linear : ∀ input weight bias rows inFeatures outFeatures x w b device s,
    contents.Is s input [rows, inFeatures] x device →
    contents.Is s weight [outFeatures, inFeatures] w device →
    contents.IsBias s outFeatures device bias b →
    contents.Makes may (lib.evaluate .linear (input :: weight :: bias.toList)) [rows, outFeatures]
      (addRows rows outFeatures (contents.product rows inFeatures outFeatures x
        (transposeData outFeatures inFeatures w)) b) device s

/-- What the conversion of a tensor hands to LibTorch: for CPU storage, the storage as it lies. -/
def Hands (contents : Contents lib) (w : World lib) (sizes : List Nat) (values : List F)
    (device : TorchDevice) : TensorObject lib → Prop
  | .cpu id => ∃ t, w.heap.tensors[id]? = some t ∧ t.shape.dimensions = sizes ∧
      w.heap.storages[t.storage]? = some values ∧ device = ⟨.cpu, -1⟩
  | .torch t => contents.Is w.torch t.value sizes values device ∧ t.shape.dimensions = sizes ∧
      mapTorchDevice lib device = .ok (t.device, t.deviceIndex)

def view (contents : Contents lib) (w : World lib) : TensorObject lib → List Nat × List F
  | .cpu id => (w.heap.dims id, w.heap.contents id)
  | .torch t => (lib.sizes w.torch t.value, contents.values w.torch t.value)

theorem Documented.mono [Arith F] {contents : Contents lib} {may may' : Prop} (h : may → may')
    (doc : contents.Documented may) : contents.Documented may' := by
  have weaken : ∀ {program sizes values device s},
      contents.Makes may program sizes values device s →
        contents.Makes may' program sizes values device s :=
    fun hx => wp_mono hx (fun _ _ hq => hq) fun _ _ => h
  constructor
  · exact doc.length_values
  · exact fun values dimensions s hlen => weaken (doc.fromBlobClone values dimensions s hlen)
  · exact fun target r _ _ _ s hr => weaken (doc.moved target r _ _ _ s hr)
  · exact fun left right _ _ _ _ _ _ s hl hr => weaken (doc.matmul left right _ _ _ _ _ _ s hl hr)
  · exact fun input weight bias _ _ _ _ _ _ _ s hx hw hb =>
      weaken (doc.linear input weight bias _ _ _ _ _ _ _ s hx hw hb)

end Contents

namespace TorchLinear
variable {F : Type} {lib : LibTorch F}

/-- What LibTorch keeps of a module: the shapes of its parameters, and one device for them. -/
structure Ok (contents : Contents lib) (s : lib.State) (layer : TorchLinear lib) (weight : List F)
    (bias : Option (List F)) (device : TorchDevice) : Prop where
  weight : contents.Is s layer.weight [layer.outFeatures, layer.inFeatures] weight device
  bias : contents.IsBias s layer.outFeatures device layer.bias bias
  valid : ValidDims [layer.outFeatures, layer.inFeatures]
  placed : ∃ place, mapTorchDevice lib device = .ok place

end TorchLinear

section Runs
variable {F α : Type} {lib : LibTorch F} {contents : Contents lib} {may : Prop}
variable {w w' w'' : World lib}

def World.Lasts (may : Prop) (w : World lib) : Prop :=
  may ∨ ∀ k, w.memory.allocator.count ≤ k → w.memory.allocator.fails k = false

structure Contents.Keeps (contents : Contents lib) (may : Prop) (w w' : World lib) : Prop where
  heap : w'.heap = w.heap
  torch : contents.Kept w.torch w'.torch
  lasts : w'.Lasts may

namespace Contents

theorem Kept.refl (s : lib.State) : contents.Kept s s :=
  ⟨fun _ h => h, fun _ _ => rfl, fun _ _ => rfl, fun _ _ => rfl⟩

theorem Kept.trans {s s' s'' : lib.State} (a : contents.Kept s s') (b : contents.Kept s' s'') :
    contents.Kept s s'' where
  live := fun r hr => b.live r (a.live r hr)
  sizes := fun r hr => (b.sizes r (a.live r hr)).trans (a.sizes r hr)
  device := fun r hr => (b.device r (a.live r hr)).trans (a.device r hr)
  values := fun r hr => (b.values r (a.live r hr)).trans (a.values r hr)

theorem Is.kept {s s' : lib.State} {r : lib.Ref} {sizes : List Nat} {values : List F}
    {device : TorchDevice} (h : contents.Is s r sizes values device) (k : contents.Kept s s') :
    contents.Is s' r sizes values device where
  live := k.live r h.live
  sizes_eq := (k.sizes r h.live).trans h.sizes_eq
  values_eq := (k.values r h.live).trans h.values_eq
  device_eq := (k.device r h.live).trans h.device_eq

theorem IsBias.kept {s s' : lib.State} {outFeatures : Nat} {device : TorchDevice}
    {bias : Option lib.Ref} {values : Option (List F)}
    (h : contents.IsBias s outFeatures device bias values) (k : contents.Kept s s') :
    contents.IsBias s' outFeatures device bias values := by
  cases bias <;> cases values
  case some.some => exact Is.kept h k
  all_goals exact h

theorem Keeps.refl (h : w.Lasts may) : contents.Keeps may w w := ⟨rfl, Kept.refl _, h⟩

theorem Keeps.trans (a : contents.Keeps may w w') (b : contents.Keeps may w' w'') :
    contents.Keeps may w w'' :=
  ⟨b.heap.trans a.heap, a.torch.trans b.torch, b.lasts⟩

theorem Hands.keeps {sizes : List Nat} {values : List F} {device : TorchDevice}
    {x : TensorObject lib} (h : contents.Hands w sizes values device x)
    (k : contents.Keeps may w w') : contents.Hands w' sizes values device x := by
  cases x with
  | cpu id =>
      unfold Hands
      rw [k.heap]
      exact h
  | torch t => exact ⟨h.1.kept k.torch, h.2⟩

end Contents

theorem wp_onMemory_keeps (contents : Contents lib) {program : Mem F α} {T : α → Prop}
    (hx : Spec program w.heap (fun a h' => h' = w.heap ∧ T a) (fun _ _ => may)
      fun h' => h' = w.heap) (hl : w.Lasts may) : wp (onMemory program)
      (fun a w' => contents.Keeps may w w' ∧ w'.torch = w.torch ∧ T a) (fun _ _ => may) w := by
  have h := hx w.memory.allocator
  have hm : (⟨w.heap, w.memory.allocator⟩ : Memory F) = w.memory := rfl
  rw [hm] at h
  unfold wp onMemory at *
  cases hp : program w.memory with
  | ok a m =>
      rw [hp] at h
      obtain ⟨hran, hheap, ha⟩ := h
      refine ⟨⟨hheap, Contents.Kept.refl _, ?_⟩, rfl, ha⟩
      refine hl.imp id fun hnone k hk => ?_
      change m.allocator.fails k = false
      rw [hran.fails]
      exact hnone k (hran.count.trans hk)
  | error e m =>
      rw [hp] at h
      obtain ⟨-, hmay | ⟨⟨k, hle, -, hfails⟩, -⟩⟩ := h
      · exact hmay
      · rcases hl with hmay | hnone
        · exact hmay
        · rw [hnone k hle] at hfails
          cases hfails

theorem wp_onMemory_observes (contents : Contents lib) {program : Mem F α} {T : α → Prop}
    (hx : Observes program w.heap T) (hl : w.Lasts may) : wp (onMemory program)
      (fun a w' => contents.Keeps may w w' ∧ w'.torch = w.torch ∧ T a) (fun _ _ => may) w :=
  wp_onMemory_keeps contents (hx.mono (fun _ _ hq => hq) (fun _ _ he => he.elim) fun _ hx => hx) hl

theorem wp_makes {program : EStateM Failure lib.State lib.Ref} {sizes : List Nat}
    {values : List F} {device : TorchDevice}
    (hx : contents.Makes may program sizes values device w.torch) (hl : w.Lasts may) :
    wp (onTorch program) (fun r w' => contents.Keeps may w w' ∧
      contents.Is w'.torch r sizes values device) (fun _ _ => may) w :=
  wp_onTorch hx (fun _ _ h => ⟨⟨rfl, h.1, hl⟩, h.2⟩) fun _ _ h => h

theorem wp_tensorToTorch_hands [Arith F] (doc : contents.Documented may)
    (wf : WellFormed w.heap) {x : TensorObject lib} {sizes : List Nat} {values : List F}
    {device : TorchDevice} (hx : contents.Hands w sizes values device x) (hl : w.Lasts may) :
    wp (tensorToTorch x) (fun r w' => contents.Keeps may w w' ∧
      contents.Is w'.torch r sizes values device) (fun _ _ => may) w := by
  cases x with
  | torch t => exact ⟨.refl hl, hx.1⟩
  | cpu id =>
      obtain ⟨t, hget, rfl, hstored, rfl⟩ := hx
      unfold tensorToTorch
      refine wp_seq (wp_onMemory_observes contents (Inference.observes_tensorToTorch wf hget) hl)
        (fun _ _ h => h) ?_
      rintro ⟨buffer, dimensions⟩ w₁ ⟨hk, htorch, hbuffer, hdims⟩
      obtain rfl : buffer = values := Option.some.inj (hbuffer.symm.trans hstored)
      obtain rfl : dimensions = t.shape.dimensions := hdims.trans (Heap.dims_of hget)
      have hp := wf.placed id t hget
      obtain ⟨stored, hstorage, hlength⟩ := hp.stored
      obtain rfl : stored = buffer := Option.some.inj (hstorage.symm.trans hstored)
      replace hlength := hlength.trans hp.layout.numel_eq
      refine wp_mono (wp_makes (doc.fromBlobClone stored t.shape.dimensions _ hlength) hk.lasts) ?_
        fun _ _ h => h
      rintro r w₂ ⟨hk', hr⟩
      exact ⟨hk.trans hk', hr⟩

theorem wp_ofExcept {x : Except Failure α} {a : α} (hx : x = .ok a)
    {Q : α → World lib → Prop} {E : Failure → World lib → Prop} (hQ : Q a w) :
    wp (MonadExcept.ofExcept x : BridgeM lib α) Q E w := by
  subst hx
  exact hQ

theorem wp_wrapTorchTensor {r : lib.Ref} {sizes : List Nat} {values : List F}
    {device : TorchDevice} (hr : contents.Is w.torch r sizes values device)
    (hplaced : ∃ place, mapTorchDevice lib device = .ok place)
    (hfits : may ∨ ValidDims sizes) (hl : w.Lasts may) :
    wp (wrapTorchTensor r) (fun x w' => contents.Keeps may w w' ∧
      contents.Hands w' sizes values device x ∧ (∃ t, x = .torch t) ∧
      contents.view w' x = (sizes, values)) (fun _ _ => may) w := by
  obtain ⟨place, hplace⟩ := hplaced
  unfold wrapTorchTensor
  rw [wp_bind, wp_get]
  simp only [hr.sizes_eq, hr.device_eq]
  refine wp_seq (wp_onMemory_keeps contents (T := fun shape => shape.dimensions = sizes)
    ((spec_validatedShape w.heap _).mono ?_ ?_ fun _ hx => hx) hl) (fun _ _ h => h) ?_
  · rintro shape h' ⟨rfl, -, hdims⟩
    exact ⟨rfl, (List.map_injective_iff.mpr (fun _ _ => Int.ofNat.inj) hdims).symm⟩
  · rintro e h' ⟨-, he⟩
    refine hfits.resolve_right fun hvalid => ?_
    rw [validateShape_of_valid hvalid] at he
    cases he
  rintro shape w₁ ⟨hk, htorch, hdims⟩
  refine wp_seq (wp_ofExcept hplace (E := fun _ _ => may) (Q := fun p w' => p = place ∧ w' = w₁)
    ⟨rfl, rfl⟩) (fun _ _ h => h) ?_
  rintro _ _ ⟨rfl, rfl⟩
  have his := hr.kept hk.torch
  refine ⟨hk, ⟨his, hdims, hplace⟩, ⟨_, rfl⟩, ?_⟩
  exact Prod.ext his.sizes_eq his.values_eq

theorem wp_describe (wf : WellFormed w.heap) {x : TensorObject lib} {sizes : List Nat}
    {values : List F} {device : TorchDevice} (hx : contents.Hands w sizes values device x)
    (hl : w.Lasts may) :
    wp (describe x) (fun d w' => contents.Keeps may w w' ∧ d.shape.dimensions = sizes ∧
      mapTorchDevice lib device = .ok (d.device, d.deviceIndex) ∧
      ((∃ t, x = .torch t) → d.kind = .torch)) (fun _ _ => may) w := by
  cases x with
  | torch t => exact ⟨.refl hl, hx.2.1, hx.2.2, fun _ => rfl⟩
  | cpu id =>
      obtain ⟨t, hget, rfl, -, rfl⟩ := hx
      have hp := wf.placed id t hget
      unfold describe
      refine wp_seq (wp_onMemory_observes contents (observes_deref hget) hl) (fun _ _ h => h) ?_
      rintro _ w₁ ⟨hk, -, rfl⟩
      refine ⟨hk, rfl, ?_, ?_⟩
      · rw [hp.device, hp.deviceIndex]
        rfl
      · rintro ⟨_, ⟨⟩⟩

theorem wp_forTensors (wf : WellFormed w.heap) {x : TensorObject lib} {t : TorchTensor lib}
    {sizes sizes' : List Nat} {values values' : List F} {device : TorchDevice}
    (hx : contents.Hands w sizes values device x)
    (ht : contents.Hands w sizes' values' device (.torch t)) (hl : w.Lasts may) :
    wp (Dispatcher.forTensors .libtorch x (.torch t)) (fun b w' => contents.Keeps may w w' ∧
      b = .torch) (fun _ _ => may) w := by
  unfold Dispatcher.forTensors
  refine wp_seq (wp_describe wf hx hl) (fun _ _ h => h) ?_
  rintro d w₁ ⟨hk₁, -, hplace, -⟩
  refine wp_seq (wp_describe (hk₁.heap ▸ wf) (ht.keeps hk₁) hk₁.lasts) (fun _ _ h => h) ?_
  rintro d' w₂ ⟨hk₂, -, hplace', hkind⟩
  obtain ⟨hdevice, hindex⟩ : d.device = d'.device ∧ d.deviceIndex = d'.deviceIndex :=
    Prod.mk.inj (Except.ok.inj (hplace.symm.trans hplace'))
  rw [wp_bind, wp_failIf]
  refine ⟨fun hne => ?_, fun _ => ?_⟩
  · exact absurd hne (not_or.mpr ⟨not_not.mpr hdevice, not_not.mpr hindex⟩)
  · rw [if_pos ⟨rfl, Or.inr (hkind ⟨t, rfl⟩)⟩]
    exact ⟨hk₁.trans hk₂, rfl⟩

variable [Scalar F]

theorem wp_matmul (doc : contents.Documented may) (wf : WellFormed w.heap)
    {x : TensorObject lib} {t : TorchTensor lib} {rows inner cols : Nat} {l r : List F}
    {device : TorchDevice} (hx : contents.Hands w [rows, inner] l device x)
    (ht : contents.Hands w [inner, cols] r device (.torch t))
    (hfits : may ∨ ValidDims [rows, cols]) (hl : w.Lasts may) :
    wp (TorchBackend.matmul x (.torch t)) (fun y w' => contents.Keeps may w w' ∧
      contents.view w' y = ([rows, cols], contents.product rows inner cols l r))
      (fun _ _ => may) w := by
  have hplaced : ∃ place, mapTorchDevice lib device = .ok place := ⟨_, ht.2.2⟩
  unfold TorchBackend.matmul
  refine wp_seq (wp_describe wf hx hl) (fun _ _ h => h) ?_
  rintro d w₁ ⟨hk₁, hd, -, -⟩
  have ht₁ := ht.keeps hk₁
  refine wp_seq (wp_describe (hk₁.heap ▸ wf) ht₁ hk₁.lasts) (fun _ _ h => h) ?_
  rintro d' w₂ ⟨hk₂, hd', -, -⟩
  have hk := hk₁.trans hk₂
  simp only [hd, hd']
  rw [wp_bind, wp_failIf]
  refine ⟨fun hne => absurd rfl hne, fun _ => ?_⟩
  unfold torchBinary
  refine wp_seq (wp_tensorToTorch_hands doc (hk.heap ▸ wf) (hx.keeps hk) hk.lasts)
    (fun _ _ h => h) ?_
  rintro a w₃ ⟨hk₃, ha⟩
  refine wp_seq (wp_tensorToTorch_hands doc ((hk.trans hk₃).heap ▸ wf) (ht.keeps (hk.trans hk₃))
    hk₃.lasts) (fun _ _ h => h) ?_
  rintro b w₄ ⟨hk₄, hb⟩
  unfold wrapResult
  refine wp_seq (wp_makes (doc.matmul a b rows inner cols l r device _ (ha.kept hk₄.torch) hb)
    hk₄.lasts) (fun _ _ h => h) ?_
  rintro y w₅ ⟨hk₅, hy⟩
  refine wp_mono (wp_wrapTorchTensor hy hplaced hfits hk₅.lasts) ?_ fun _ _ h => h
  rintro z w₆ ⟨hk₆, -, -, hview⟩
  exact ⟨((hk.trans hk₃).trans hk₄).trans (hk₅.trans hk₆), hview⟩

theorem wp_torchForward (doc : contents.Documented may) (wf : WellFormed w.heap)
    {layer : TorchLinear lib} {weight : List F} {bias : Option (List F)} {device : TorchDevice}
    (hlayer : layer.Ok contents w.torch weight bias device) {x : TensorObject lib} {rows : Nat}
    {data : List F} (hx : contents.Hands w [rows, layer.inFeatures] data device x)
    (hfits : may ∨ ValidDims [rows, layer.outFeatures]) (hl : w.Lasts may) :
    wp (torchForward layer.weight layer.bias x) (fun y w' => contents.Keeps may w w' ∧
      (∃ t, y = .torch t ∧ lib.live w'.torch t.value) ∧
      contents.view w' y = ([rows, layer.outFeatures], addRows rows layer.outFeatures
        (contents.product rows layer.inFeatures layer.outFeatures data
          (transposeData layer.outFeatures layer.inFeatures weight)) bias)) (fun _ _ => may) w := by
  unfold torchForward
  refine wp_seq (wp_tensorToTorch_hands doc wf hx hl) (fun _ _ h => h) ?_
  rintro a w₁ ⟨hk₁, ha⟩
  unfold wrapResult
  refine wp_seq (wp_makes (doc.linear a layer.weight layer.bias rows _ _ data weight bias device _
    ha (hlayer.weight.kept hk₁.torch) (hlayer.bias.kept hk₁.torch)) hk₁.lasts)
    (fun _ _ h => h) ?_
  rintro y w₂ ⟨hk₂, hy⟩
  refine wp_mono (wp_wrapTorchTensor hy hlayer.placed hfits hk₂.lasts) ?_ fun _ _ h => h
  rintro z w₃ ⟨hk₃, hhands, ⟨t, rfl⟩, hview⟩
  exact ⟨(hk₁.trans hk₂).trans hk₃, ⟨t, rfl, hhands.1.live⟩, hview⟩

theorem validDims_rows {rows cols : Nat} (h : ValidDims [rows, cols]) : ValidDims [rows] where
  rank := Nat.le_of_succ_le h.rank
  pos := fun d hd => h.pos d (by simp only [List.mem_cons] at hd ⊢; tauto)
  bound := by
    have hcols := h.pos cols (by simp)
    have hbound := h.bound
    simp only [List.prod_cons, List.prod_nil, Nat.mul_one] at hbound ⊢
    exact (Nat.le_mul_of_pos_right rows hcols).trans hbound

theorem validDims_one_row {rows cols : Nat} (h : ValidDims [rows, cols]) : ValidDims [1, rows] where
  rank := h.rank
  pos := fun d hd => by
    have hrows := h.pos rows (by simp)
    simp only [List.mem_cons, List.not_mem_nil, or_false] at hd
    omega
  bound := by
    have hbound := (validDims_rows h).bound
    simp only [List.prod_cons, List.prod_nil, Nat.mul_one, Nat.one_mul] at hbound ⊢
    exact hbound

namespace TorchLinear
variable {layer : TorchLinear lib} {weight : List F} {bias : Option (List F)}
variable {device : TorchDevice}

omit [Scalar F] in
theorem Ok.keeps (h : layer.Ok contents w.torch weight bias device)
    (k : contents.Keeps may w w') : layer.Ok contents w'.torch weight bias device :=
  ⟨h.weight.kept k.torch, h.bias.kept k.torch, h.valid, h.placed⟩

omit [Scalar F] in
theorem wp_parameterAt_zero (h : layer.Ok contents w.torch weight bias device)
    (hl : w.Lasts may) : wp (layer.parameterAt 0) (fun x w' => contents.Keeps may w w' ∧
      contents.Hands w' [layer.outFeatures, layer.inFeatures] weight device x ∧
      (∃ t, x = .torch t) ∧ contents.view w' x = ([layer.outFeatures, layer.inFeatures], weight))
      (fun _ _ => may) w :=
  wp_wrapTorchTensor h.weight h.placed (Or.inr h.valid) hl

omit [Scalar F] in
theorem wp_readBias (h : layer.Ok contents w.torch weight bias device) (hl : w.Lasts may) :
    wp layer.readBias
      (fun x w' => contents.Keeps may w w' ∧ (∀ b, x = some b → ∃ t, b = .torch t ∧
        lib.live w'.torch t.value) ∧ x.map (fun b => (contents.view w' b).2) = bias)
      (fun _ _ => may) w := by
  have hb := h.bias
  have hvalid := h.valid
  obtain ⟨inFeatures, outFeatures, r, r'⟩ := layer
  cases r' <;> cases bias
  case none.none =>
      refine ⟨.refl hl, ?_, rfl⟩
      rintro _ ⟨⟩
  case none.some => exact hb.elim
  case some.none => exact hb.elim
  case some.some r' values =>
      have hfits := validDims_rows hvalid
      change wp (some <$> wrapTorchTensor r') _ _ w
      rw [wp_map]
      refine wp_mono (wp_wrapTorchTensor hb h.placed (Or.inr hfits) hl) ?_ fun _ _ h => h
      rintro x w' ⟨hk, hhands, ⟨t, rfl⟩, hview⟩
      refine ⟨hk, ?_, ?_⟩
      · rintro _ ⟨⟩
        exact ⟨t, rfl, hhands.1.live⟩
      · exact congrArg (fun v => some v.2) hview

variable (D : Type) [Scalar D] [Precision F D]

/-- An inspection of a square module: the caller multiplies with the weight as it is stored, the
module with its transpose. -/
theorem wp_inspect (doc : contents.Documented may) (wf : WellFormed w.heap)
    (h : layer.Ok contents w.torch weight bias device)
    (hsquare : layer.inFeatures = layer.outFeatures) {x : TensorObject lib} {rows : Nat}
    {data : List F} (hx : contents.Hands w [rows, layer.inFeatures] data device x)
    (hfits : may ∨ ValidDims [rows, layer.outFeatures]) (hl : w.Lasts may) :
    wp (layer.inspect D x) (fun i w' =>
      i.bias.map (fun b => (contents.view w' b).2) = bias ∧
      contents.view w' i.product = ([rows, layer.outFeatures],
        contents.product rows layer.inFeatures layer.outFeatures data weight) ∧
      contents.view w' i.output = ([rows, layer.outFeatures], addRows rows layer.outFeatures
        (contents.product rows layer.inFeatures layer.outFeatures data
          (transposeData layer.outFeatures layer.inFeatures weight)) bias)) (fun _ _ => may) w := by
  unfold inspect
  refine wp_seq (wp_parameterAt_zero h hl) (fun _ _ he => he) ?_
  rintro p w₁ ⟨hk₁, hp, ⟨t, rfl⟩, -⟩
  refine wp_seq (wp_readBias (h.keeps hk₁) hk₁.lasts) (fun _ _ he => he) ?_
  rintro b w₂ ⟨hk₂, hb, hbias⟩
  have hk := hk₁.trans hk₂
  refine wp_seq (wp_torchForward doc (hk.heap ▸ wf) (h.keeps hk) (hx.keeps hk) hfits hk.lasts)
    (fun _ _ he => he) ?_
  rintro y w₃ ⟨hk₃, ⟨ty, rfl, hy⟩, hview⟩
  have hk' := hk.trans hk₃
  have hp' := hp.keeps (hk₂.trans hk₃)
  rw [← hsquare] at hp'
  have hweight :
      contents.Hands w₃ [layer.inFeatures, layer.outFeatures] weight device (.torch t) := by
    rw [← hsquare]
    exact hp'
  refine wp_seq (P := fun z w₄ => contents.Keeps may w₃ w₄ ∧ contents.view w₄ z =
    ([rows, layer.outFeatures],
      contents.product rows layer.inFeatures layer.outFeatures data weight)) ?_
    (fun _ _ he => he) ?_
  · refine wp_seq (wp_forTensors (hk'.heap ▸ wf) (hx.keeps hk') hweight hk'.lasts)
      (fun _ _ he => he) ?_
    rintro _ w₄ ⟨hk₄, rfl⟩
    refine wp_mono (wp_matmul doc ((hk'.trans hk₄).heap ▸ wf) (hx.keeps (hk'.trans hk₄))
      (hweight.keeps hk₄) hfits hk₄.lasts) ?_ fun _ _ he => he
    rintro z w₅ ⟨hk₅, hz⟩
    exact ⟨hk₄.trans hk₅, hz⟩
  · rintro z w₄ ⟨hk₄, hz⟩
    refine ⟨?_, hz, ?_⟩
    · rw [← hbias]
      cases b with
      | none => rfl
      | some b =>
          obtain ⟨tb, rfl, hlive⟩ := hb b rfl
          exact congrArg some ((hk₃.trans hk₄).torch.values tb.value hlive)
    · rw [← hview]
      exact Prod.ext (hk₄.torch.sizes _ hy) (hk₄.torch.values _ hy)

end TorchLinear

end Runs

def unitRow {F : Type} [Arith F] (n i : Nat) : List F := tab n fun j => if j = i then 1 else 0

/-- Multiplying by a row of the identity picks a row, and adding a bias loses nothing. -/
structure Contents.Exact {F : Type} [Arith F] {lib : LibTorch F} (contents : Contents lib)
    (bias : Option (List F)) : Prop where
  product_unit : ∀ inner cols i data, i < inner → data.length = inner * cols →
    contents.product 1 inner cols (unitRow inner i) data =
      tab cols fun j => data.getD (i * cols + j) 0
  cancel : bias.isSome = true → ∀ a b c : F, a + c = b + c → a = b

section Exported
variable {F : Type} {lib : LibTorch F} {contents : Contents lib} {layer : TorchLinear lib}
variable (D : Type) [Scalar F] [Scalar D] [Precision F D]

/-- As long as the parameters hold what they do in `s`: the weight a caller reads has a row for each
input feature, and what the module computes is the product with it, plus the bias. -/
def TorchLinear.AsExported (contents : Contents lib) (s : lib.State) (layer : TorchLinear lib)
    (device : TorchDevice) : Prop :=
  ∀ w : World lib, WellFormed w.heap → contents.Kept s w.torch →
    (∀ p w', layer.parameterAt 0 w = .ok p w' →
      (contents.view w' p).1 = [layer.inFeatures, layer.outFeatures]) ∧
    ∀ x rows data, contents.Hands w [rows, layer.inFeatures] data device x →
      ∀ i w', layer.inspect D x w = .ok i w' →
        contents.view w' i.output = ([rows, layer.outFeatures],
          addRows rows layer.outFeatures (contents.view w' i.product).2
            (i.bias.map fun b => (contents.view w' b).2))

variable {weight : List F} {bias : Option (List F)} {device : TorchDevice} {s : lib.State}

omit [Scalar F] in
theorem addRows_cancel [Arith F] (hcancel : bias.isSome = true → ∀ a b c : F, a + c = b + c → a = b)
    {rows cols : Nat} {x y : List F} (hx : x.length = rows * cols) (hy : y.length = rows * cols)
    (h : addRows rows cols x bias = addRows rows cols y bias) : x = y := by
  cases bias with
  | none => exact h
  | some b =>
      rw [eq_tab_getD x 0, eq_tab_getD y 0, hx, hy]
      refine tab_congr fun i hi => hcancel rfl _ _ (b.getD (i % cols) 0) ?_
      have hget := congrArg (fun z => z.getD i 0) h
      simp only [addRows] at hget
      rwa [getD_tab _ _ hi, getD_tab _ _ hi] at hget

omit [Scalar F] in
theorem ext_rows [Zero F] {n : Nat} {x y : List F} (hx : x.length = n * n) (hy : y.length = n * n)
    (h : ∀ i < n, (tab n fun j => x.getD (i * n + j) 0) = tab n fun j => y.getD (i * n + j) 0) :
    x = y := by
  rw [eq_tab_getD x 0, eq_tab_getD y 0, hx, hy]
  refine tab_congr fun k hk => ?_
  have hget := congrArg (fun z => z.getD (k % n) 0) (h (k / n) (grid_div_lt hk))
  rw [getD_tab _ _ (grid_mod_lt hk), getD_tab _ _ (grid_mod_lt hk)] at hget
  rwa [Nat.div_add_mod'] at hget

theorem asExported_of_symmetric (doc : contents.Documented True)
    (h : layer.Ok contents s weight bias device) (hsquare : layer.inFeatures = layer.outFeatures)
    (hself : transposeData layer.outFeatures layer.inFeatures weight = weight) :
    layer.AsExported D contents s device := by
  intro w wf hkept
  have h' : layer.Ok contents w.torch weight bias device :=
    ⟨h.weight.kept hkept, h.bias.kept hkept, h.valid, h.placed⟩
  have hl : w.Lasts True := Or.inl trivial
  refine ⟨fun p w' hrun => ?_, fun x rows data hx i w' hrun => ?_⟩
  · obtain ⟨-, -, -, hview⟩ := wp_of_ok (TorchLinear.wp_parameterAt_zero h' hl) hrun
    rw [hview, hsquare]
  · obtain ⟨hbias, hproduct, houtput⟩ :=
      wp_of_ok (TorchLinear.wp_inspect D doc wf h' hsquare hx (Or.inl trivial) hl) hrun
    rw [hbias, houtput, hproduct, hself]

def freshMemory (F : Type) : Memory F := ⟨Heap.empty F, ⟨0, fun _ => false⟩⟩

theorem symmetric_of_asExported (doc : contents.Documented False)
    (hexact : contents.Exact bias) (h : layer.Ok contents s weight bias device)
    (hexported : layer.AsExported D contents s device) :
    layer.inFeatures = layer.outFeatures ∧
      transposeData layer.outFeatures layer.inFeatures weight = weight := by
  have hlasts : ∀ s, World.Lasts False (⟨freshMemory F, s⟩ : World lib) :=
    fun s => Or.inr fun _ _ => rfl
  have hsquare : layer.inFeatures = layer.outFeatures := by
    obtain ⟨p, w', hrun, -, -, -, hview⟩ :=
      ok_of_wp (TorchLinear.wp_parameterAt_zero (w := ⟨freshMemory F, s⟩) h (hlasts s))
    have hdims := (hexported ⟨freshMemory F, s⟩ Api.wellFormed_empty (.refl s)).1 p w' hrun
    rw [hview] at hdims
    exact (List.cons.inj hdims).1.symm
  refine ⟨hsquare, ?_⟩
  have hlen : weight.length = layer.inFeatures * layer.inFeatures := by
    rw [← h.weight.values_eq, doc.length_values _ _ h.weight.live, h.weight.sizes_eq, ← hsquare]
    simp
  rw [← hsquare]
  refine ext_rows (transposeData_length hlen) hlen fun i hi => ?_
  -- the row of the identity, on the module's device
  obtain ⟨r, s₁, -, hk₁, hr⟩ :=
    ok_of_wp (doc.fromBlobClone (unitRow layer.inFeatures i) [1, layer.inFeatures] s
      (by simp [unitRow]))
  obtain ⟨r', s₂, -, hk₂, hr'⟩ := ok_of_wp (doc.moved device r _ _ _ s₁ hr)
  obtain ⟨place, hplace⟩ := h.placed
  have hk := hk₁.trans hk₂
  have h' : layer.Ok contents s₂ weight bias device :=
    ⟨h.weight.kept hk, h.bias.kept hk, h.valid, h.placed⟩
  have hx : contents.Hands ⟨freshMemory F, s₂⟩ [1, layer.inFeatures] (unitRow layer.inFeatures i)
      device (.torch ⟨r', canonicalShape [1, layer.inFeatures], place.1, place.2⟩) :=
    ⟨hr', rfl, hplace⟩
  have wf : WellFormed (⟨freshMemory F, s₂⟩ : World lib).heap := Api.wellFormed_empty
  obtain ⟨inspection, w', hrun, hbias, hproduct, houtput⟩ := ok_of_wp (TorchLinear.wp_inspect D doc
    wf h' hsquare hx (Or.inr (validDims_one_row h.valid)) (hlasts s₂))
  have hagree := (hexported _ wf hk).2 _ 1 _ hx inspection w' hrun
  rw [hbias, houtput, hproduct, ← hsquare] at hagree
  have hrow := (Prod.mk.inj hagree).2
  rw [hexact.product_unit _ _ i _ hi (transposeData_length hlen),
    hexact.product_unit _ _ i _ hi hlen] at hrow
  exact addRows_cancel hexact.cancel (by simp) (by simp) hrow

end Exported

end Tensora.Bridge
