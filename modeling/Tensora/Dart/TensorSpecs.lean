import Tensora.Api.Issuing
import Tensora.Api.TensorValues
import Tensora.Dart.Tensor

/-! What the Dart methods do to the native library: the handles they are given, and the tensors
that keep their values. -/
namespace Tensora
open ProgramLogic Training

variable {F D α : Type}

structure Preserves (s s' : Runtime F D) : Prop where
  ok : s'.Ok
  evolves : Evolves s.heap s'.heap
  contents : ∀ id, s.heap.Visible id → s'.heap.contents id = s.heap.contents id

namespace Preserves
variable {s s' : Runtime F D}

theorem refl (ok : s.Ok) : Preserves s s := ⟨ok, Evolves.refl ok.wellFormed, fun _ _ => rfl⟩

theorem views (p : Preserves s s') (ok : s.Ok) {handle : Nat} {viewed : List Nat × List F}
    (hfind : s'.registry.find handle = s.registry.find handle)
    (h : Api.Views s handle viewed) : Api.Views s' handle viewed := by
  obtain ⟨id, hobject, rfl⟩ := h
  have hv := ok.visible hobject
  refine ⟨id, ?_, ?_⟩
  · rw [Runtime.objectOf, hfind]
    exact hobject
  · rw [p.evolves.dims_eq hv.1, p.contents id hv]

end Preserves

namespace Api
variable [Scalar F] [Scalar D] [Precision F D] [FloatBits F] {s : Runtime F D}

theorem preserves_exec (ok : s.Ok) {call : Call F D} (h : call.targets s = []) :
    wp (exec call) (fun _ => Preserves s) (fun _ => Preserves s) s := by
  have hmoves := after_moves ok call
  have hcontents := fun id (hv : s.heap.Visible id) => after_contents ok call hv (by
    intro target hmem
    rw [h] at hmem
    cases hmem)
  have hpreserves : Preserves s (after s call) :=
    ⟨hmoves.1, Call.Moves.evolves ok hmoves.2, hcontents⟩
  unfold after at hpreserves
  unfold wp
  cases hx : exec call s with
  | ok reply s' => rw [hx] at hpreserves; exact hpreserves
  | error failure s' => rw [hx] at hpreserves; exact hpreserves

structure Gave (P : List Nat × List F → Prop) (s : Runtime F D) (handle : Nat)
    (s' : Runtime F D) : Prop where
  issued : HandleRegistry.Issued .tensor handle s.registry s'.registry
  preserves : Preserves s s'
  views : ∃ viewed, Views s' handle viewed ∧ P viewed

structure Idle (s s' : Runtime F D) : Prop where
  entries : s'.registry.entries = s.registry.entries
  preserves : Preserves s s'

variable {P : List Nat × List F → Prop} {call : Call F D}

theorem wp_exec_gave {R : Heap F → Heap F → Prop} (ok : s.Ok) (hissues : call.issues = some .tensor)
    (htargets : call.targets s = []) (hhands : Keeps R (exec call) s (Hands P)) :
    wp (exec call) (fun reply s' => ∃ handle, reply = .handle handle ∧ Gave P s handle s')
      (fun _ => Idle s) s := by
  have hall := wp_and (wp_and (exec_issues hissues s) (preserves_exec ok htargets)) hhands
  refine wp_mono hall ?_ fun _ _ h => ⟨h.1.1, h.1.2⟩
  intro reply s' h
  obtain ⟨⟨⟨handle, hreply, hissued⟩, hpreserves⟩, -, -, handle', viewed, hreply', hviews, hP⟩ := h
  obtain rfl : handle = handle' := by
    rw [hreply] at hreply'
    exact Reply.handle.inj hreply'
  exact ⟨handle, hreply, hissued, hpreserves, viewed, hviews, hP⟩

omit [Scalar F] [Scalar D] [Precision F D] [FloatBits F] in
theorem issues_of_applies {operation : Operation × List Nat}
    (h : call.applies = some operation) : call.issues = some .tensor ∧ call.targets s = [] := by
  cases call <;> first | exact ⟨rfl, rfl⟩ | cases h

theorem wp_exec_idle (ok : s.Ok) (hissues : call.issues = none) (hcounts : call.counts = false)
    (htargets : call.targets s = []) :
    wp (exec call) (fun _ => Idle s) (fun _ => Idle s) s := by
  refine wp_mono (wp_and (exec_leavesHandles hissues hcounts s) (preserves_exec ok htargets)) ?_ ?_
  · exact fun _ _ h => ⟨h.1, h.2⟩
  · exact fun _ _ h => ⟨h.1, h.2⟩

end Api

namespace Dart
open Adoption (Handle Thrown DartDevice)
open Api (Views Gave Idle)

section Calls
variable {p : Process F D}

theorem wp_calloc {Q : Unit → Process F D → Prop} {E : Thrown → Process F D → Prop}
    (hQ : ∀ p' : Process F D, p'.runtime = p.runtime → Q () p')
    (hE : ∀ thrown (p' : Process F D), p'.runtime = p.runtime → E thrown p') :
    wp (calloc : DartM F D Unit) Q E p := by
  unfold wp calloc
  dsimp only
  split
  · rename_i h
    split at h <;> cases h
    exact hQ _ rfl
  · rename_i h
    split at h <;> cases h
    exact hE _ _ rfl

theorem wp_check (operation abi : String) {call : Native F D α} {Q : α → Process F D → Prop}
    {E : Thrown → Process F D → Prop}
    (h : wp call (fun a s => Q a { p with runtime := s })
      (fun _ s => ∀ thrown, E thrown { p with runtime := s }) p.runtime) :
    wp (check operation abi call) Q E p := by
  unfold wp check
  unfold wp at h
  cases hx : call p.runtime with
  | ok a s => rw [hx] at h; exact h
  | error failure s => rw [hx] at h; exact h _

def MakesTensor (x : DartM F D Handle) (P : List Nat × List F → Prop) (p : Process F D) : Prop :=
  wp x (fun handle p' => Gave P p.runtime handle p'.runtime)
    (fun _ p' => Idle p.runtime p'.runtime) p

variable [Scalar F] [Scalar D] [Precision F D] [FloatBits F] {P : List Nat × List F → Prop}
  {call : Api.Call F D}

theorem makesTensor_newHandleOr (null operation abi : String) (ok : p.runtime.Ok)
    (h : wp (Api.exec call)
      (fun reply s' => ∃ handle, reply = .handle handle ∧ Gave P p.runtime handle s')
      (fun _ => Idle p.runtime) p.runtime) :
    MakesTensor (newHandleOr null operation abi (Api.exec call)) P p := by
  have hidle : Idle p.runtime p.runtime := ⟨rfl, Preserves.refl ok⟩
  unfold MakesTensor newHandleOr
  rw [wp_bind]
  refine wp_calloc (fun p₁ h₁ => ?_) fun _ p₁ h₁ => by rw [h₁]; exact hidle
  rw [wp_bind]
  refine wp_check operation abi (wp_mono (by rw [h₁]; exact h) ?_ fun _ s' hi _ => hi)
  intro reply s' hreply
  obtain ⟨handle, rfl, hgave⟩ := hreply
  rw [outputValue, if_neg hgave.issued.nonzero]
  exact hgave

theorem makesTensor_applies (null operation abi : String) (ok : p.runtime.Ok)
    {op : Operation} {handles : List Nat} {operands : List (List Nat × List F)}
    (happlies : call.applies = some (op, handles))
    (hviews : List.Forall₂ (Views p.runtime) handles operands) :
    MakesTensor (newHandleOr null operation abi (Api.exec call)) (· = Api.applied D op operands)
      p := by
  obtain ⟨hissues, htargets⟩ := Api.issues_of_applies (s := p.runtime) happlies
  exact makesTensor_newHandleOr null operation abi ok
    (Api.wp_exec_gave ok hissues htargets (Api.keeps_exec_applies ok happlies hviews))

omit [Scalar F] [Scalar D] [Precision F D] [FloatBits F] in
theorem makesTensor_calloc (ok : p.runtime.Ok) {x : DartM F D Handle}
    (h : ∀ p' : Process F D, p'.runtime = p.runtime → MakesTensor x P p') :
    MakesTensor (do calloc; x) P p := by
  unfold MakesTensor
  rw [wp_bind]
  refine wp_calloc (fun p' hp' => ?_) fun _ p' hp' => ?_
  · rw [← hp']
    exact h p' hp'
  · rw [hp']
    exact ⟨rfl, Preserves.refl ok⟩

omit [Scalar F] [Scalar D] [Precision F D] [FloatBits F] in
theorem makesTensor_withDimensions (ok : p.runtime.Ok) {shape : DartShape}
    {operation : List Int → DartM F D Handle}
    (h : ∀ p' : Process F D, p'.runtime = p.runtime →
      MakesTensor (operation (shape.dimensions.map Int64.toInt)) P p') :
    MakesTensor (withDimensions shape operation) P p := by
  unfold withDimensions
  split
  · rename_i hempty
    rw [List.length_eq_zero_iff] at hempty
    have hdims := h p rfl
    rw [hempty] at hdims
    exact hdims
  · exact makesTensor_calloc ok h

namespace NativeRuntime

theorem makesTensor_createFromList (ok : p.runtime.Ok) (values : List D) (shape : DartShape) :
    MakesTensor (createFromList values shape) (· = (shape.dimensions.map fun d => d.toInt.toNat,
      values.map Precision.narrow)) p := by
  refine makesTensor_calloc ok fun p₁ h₁ => ?_
  have ok₁ : p₁.runtime.Ok := by rw [h₁]; exact ok
  refine makesTensor_withDimensions ok₁ fun p₂ h₂ => ?_
  have ok₂ : p₂.runtime.Ok := by rw [h₂]; exact ok₁
  refine makesTensor_newHandleOr _ _ _ ok₂ (Api.wp_exec_gave ok₂ rfl rfl (Keeps.mono
    (Api.keeps_fromF32_views ok₂ (values.map Precision.narrow) _) fun reply s' h => ?_))
  obtain ⟨handle, hreply, hviews⟩ := h
  refine ⟨handle, _, hreply, hviews, ?_⟩
  rw [List.map_map]
  rfl

theorem makesTensor_full (ok : p.runtime.Ok) (shape : DartShape) (value : D) :
    MakesTensor (full shape value) (· = (shape.dimensions.map fun d => d.toInt.toNat,
      List.replicate (shape.dimensions.map fun d => d.toInt.toNat).prod
        (Precision.narrow value : F))) p := by
  refine makesTensor_withDimensions ok fun p₁ h₁ => ?_
  have ok₁ : p₁.runtime.Ok := by rw [h₁]; exact ok
  have h := Api.keeps_full_views ok₁ (shape.dimensions.map Int64.toInt)
    (Precision.narrow value : F)
  rw [List.map_map] at h
  exact makesTensor_newHandleOr _ _ _ ok₁ (Api.wp_exec_gave ok₁ rfl rfl h)

theorem makesTensor_reshape (ok : p.runtime.Ok) (shape : DartShape) {handle : Handle}
    {viewed : List Nat × List F} (hviews : Views p.runtime handle viewed) :
    MakesTensor (reshape shape handle)
      (· = (shape.dimensions.map fun d => d.toInt.toNat, viewed.2)) p := by
  refine makesTensor_withDimensions ok fun p₁ h₁ => ?_
  have ok₁ : p₁.runtime.Ok := by rw [h₁]; exact ok
  rw [← h₁] at hviews
  refine makesTensor_newHandleOr _ _ _ ok₁ (Api.wp_exec_gave ok₁ rfl rfl (Keeps.mono
    (Api.keeps_reshape_views ok₁ (shape.dimensions.map Int64.toInt) hviews) fun reply s' h => ?_))
  obtain ⟨made, hreply, hmade⟩ := h
  refine ⟨made, _, hreply, hmade, ?_⟩
  rw [Api.onList, List.map_map]
  rfl

end NativeRuntime

namespace NativeTrainingRuntime

variable {handle : Handle} {viewed : List Nat × List F}

theorem makesTensor_withRequiresGrad (ok : p.runtime.Ok) (requiresGrad : Bool)
    (hviews : Views p.runtime handle viewed) :
    MakesTensor (withRequiresGrad requiresGrad handle) (· = viewed) p :=
  makesTensor_newHandleOr _ _ _ ok
    (Api.wp_exec_gave ok rfl rfl (Api.keeps_withRequiresGrad_views ok hviews))

theorem makesTensor_grad (ok : p.runtime.Ok) (hviews : Views p.runtime handle viewed) :
    MakesTensor (grad handle) (fun gradient => gradient.1 = viewed.1) p :=
  makesTensor_newHandleOr _ _ _ ok
    (Api.wp_exec_gave ok rfl rfl (Api.keeps_grad_views ok hviews))

end NativeTrainingRuntime

end Calls

section Readings
variable {s : Runtime F D} {p : Process F D} {handle : Handle} {viewed : List Nat × List F}

theorem wp_tensorField {field : Tensor → α} {id : TensorId} {t : Tensor}
    (hobject : s.objectOf handle .tensor = some id) (ht : s.heap.tensors[id]? = some t) :
    wp (Api.tensorField field handle) (fun a s' => a = field t ∧ s' = s) (fun _ _ => False) s := by
  refine wp_lookupObject hobject ?_
  rw [wp_onMemory]
  exact wp_bind_of_ok (deref_eq (m := s.memory) ht) ⟨rfl, rfl⟩

/-- What a reading of a live tensor returns; if it throws, the native library is as it was. -/
def Reads (x : DartM F D α) (a : α) (p : Process F D) : Prop :=
  wp x (fun r p' => r = a ∧ p'.runtime = p.runtime) (fun _ p' => p'.runtime = p.runtime) p

theorem reads_calloc {x : DartM F D α} {a : α}
    (h : ∀ p' : Process F D, p'.runtime = p.runtime → Reads x a p') :
    Reads (do calloc; x) a p := by
  unfold Reads
  rw [wp_bind]
  refine wp_calloc (fun p' hp' => ?_) fun _ _ hp' => hp'
  rw [← hp']
  exact h p' hp'

theorem reads_bind {β : Type} {x : DartM F D α} {f : α → DartM F D β} {a : α} {b : β}
    (hx : Reads x a p) (hf : ∀ p' : Process F D, p'.runtime = p.runtime → Reads (f a) b p') :
    Reads (x >>= f) b p := by
  refine wp_seq hx (fun _ _ h => h) fun r p' h => ?_
  obtain ⟨rfl, hp'⟩ := h
  rw [← hp']
  exact hf p' hp'

theorem reads_check (operation abi : String) {call : Native F D α} {a : α}
    (h : wp call (fun r s' => r = a ∧ s' = p.runtime) (fun _ _ => False) p.runtime) :
    Reads (check operation abi call) a p :=
  wp_check operation abi (wp_mono h (fun _ _ h' => h') fun _ _ h' => h'.elim)

theorem reads_pure (a : α) : Reads (pure a : DartM F D α) a p := ⟨rfl, rfl⟩

theorem toInt_ofNat {n : Nat} (h : n ≤ kMaxFloats) : (Int64.ofNat n).toInt = n := by
  rw [kMaxFloats] at h
  rw [Int64.toInt_ofNat']
  exact Int.bmod_eq_of_le (by norm_num [Int64.size]) (by norm_num [Int64.size]; omega)

theorem map_toInt_ofNat {dims : List Nat} (h : ValidDims dims) (hfits : dims.prod ≤ kMaxFloats) :
    (dims.map Int64.ofNat).map Int64.toInt = dims.map Int.ofNat := by
  rw [List.map_map]
  refine List.map_congr_left fun d hmem => ?_
  have hpos : 0 < dims.prod := List.prod_pos h.pos
  exact toInt_ofNat ((Nat.le_of_dvd hpos (List.dvd_prod hmem)).trans hfits)

theorem make_of_valid {dims : List Nat} (h : ValidDims dims) (hfits : dims.prod ≤ kMaxFloats) :
    DartShape.make (dims.map Int64.ofNat) =
      .ok ⟨dims.map Int64.ofNat, Int64.ofNat dims.prod⟩ := by
  have hlimit : dims.prod ≤ maxI64 := hfits.trans (by norm_num [kMaxFloats, maxI64])
  have hcount : countElements 0 1 ((dims.map Int64.ofNat).map Int64.toInt) = .ok dims.prod := by
    rw [map_toInt_ofNat h hfits, countElements_of_valid h.pos (by rwa [Nat.one_mul]), Nat.one_mul]
  have hone : (1 : Int64).toInt = (1 : Nat) := by decide
  obtain ⟨total, htotal, hsame⟩ : ∃ total, DartShape.countDimensions 0 1
      (dims.map Int64.ofNat) = .ok total ∧ total.toInt = dims.prod :=
    DartShape.countDimensions_of_ok hone (by norm_num [maxI64]) hcount
  have heq : total = Int64.ofNat dims.prod := by
    apply Int64.toInt_inj.mp
    rw [hsame, toInt_ofNat hfits]
  have hrank : ¬(dims.map Int64.ofNat).length > DartShape.maxRank := by
    rw [List.length_map]
    exact Nat.not_lt.mpr h.rank
  rw [DartShape.make, if_neg hrank, htotal, heq]

theorem reads_shapeOf {dims : List Nat} (h : ValidDims dims) (hfits : dims.prod ≤ kMaxFloats)
    : Reads (NativeRuntime.shapeOf dims)
      ⟨dims.map Int64.ofNat, Int64.ofNat dims.prod⟩ p := by
  unfold NativeRuntime.shapeOf
  rw [make_of_valid h hfits]
  exact reads_pure _

variable (ok : p.runtime.Ok) (hviews : Views p.runtime handle viewed)
include ok hviews

theorem viewed_tensor : ∃ id t, p.runtime.objectOf handle .tensor = some id ∧
    p.runtime.heap.tensors[id]? = some t ∧ Placed p.runtime.heap t ∧
    t.shape.dimensions = viewed.1 ∧ t.numel = viewed.1.prod ∧ ValidDims viewed.1 ∧
    viewed.1.prod ≤ kMaxFloats ∧ viewed.2.length = viewed.1.prod := by
  obtain ⟨id, hobject, rfl⟩ := hviews
  have wf := ok.wellFormed
  obtain ⟨t, ht⟩ := (ok.visible hobject).get
  have hnumel := Heap.Visible.numel wf ht
  have hfits := (wf.placed id t ht).fits
  rw [hnumel] at hfits
  exact ⟨id, t, hobject, ht, wf.placed id t ht, (Heap.dims_of ht).symm, hnumel,
    wf.dims_valid ht, hfits, wf.length_contents ht⟩

theorem reads_shape : Reads (NativeRuntime.shape handle)
    ⟨viewed.1.map Int64.ofNat, Int64.ofNat viewed.1.prod⟩ p := by
  obtain ⟨id, t, hobject, ht, hplaced, hdims, hnumel, hvalid, hfits, hlen⟩ :=
    viewed_tensor ok hviews
  unfold NativeRuntime.shape
  refine reads_calloc fun p₁ h₁ => ?_
  have hobject₁ : p₁.runtime.objectOf handle .tensor = some id := by rw [h₁]; exact hobject
  have ht₁ : p₁.runtime.heap.tensors[id]? = some t := by rw [h₁]; exact ht
  refine reads_bind (reads_check _ _ (wp_tensorField hobject₁ ht₁)) fun p₂ h₂ => ?_
  have hread : ∀ p₃ : Process F D, p₃.runtime = p₂.runtime →
      wp (Api.tensorShape handle viewed.1.length)
        (fun r s' => r = (viewed.1.length, viewed.1) ∧ s' = p₃.runtime) (fun _ _ => False)
        p₃.runtime := by
    intro p₃ h₃
    rw [h₃, h₂]
    refine wp_lookupObject hobject₁ ?_
    rw [wp_onMemory]
    refine wp_bind_of_ok (deref_eq (m := p₁.runtime.memory) ht₁) ?_
    rw [hdims, wp_bind, wp_failIf]
    exact ⟨fun hlt => absurd hlt (Nat.lt_irrefl _), fun _ => ⟨rfl, rfl⟩⟩
  rw [hdims]
  dsimp only
  rw [if_neg (Nat.not_lt.mpr (show viewed.1.length ≤ DartShape.maxRank from hvalid.rank))]
  split
  · rename_i hrank
    refine reads_calloc fun p₃ h₃ => ?_
    rw [← hrank]
    refine reads_bind (reads_check _ _ (hread p₃ h₃)) fun p₄ h₄ => ?_
    dsimp only
    rw [if_neg (not_not.mpr rfl)]
    have hnil := List.length_eq_zero_iff.mp hrank
    rw [hnil] at hvalid hfits ⊢
    exact reads_shapeOf hvalid hfits
  · refine reads_calloc fun p₃ h₃ => reads_calloc fun p₄ h₄ => ?_
    refine reads_bind (reads_check _ _ (hread p₄ (h₄.trans h₃))) fun p₅ h₅ => ?_
    dsimp only
    rw [if_neg (not_not.mpr rfl)]
    exact reads_shapeOf hvalid hfits

theorem reads_dtype : Reads (NativeRuntime.dtype handle) .float32 p := by
  obtain ⟨id, t, hobject, ht, -⟩ := viewed_tensor ok hviews
  have hcode : t.dtype.code = 1 := by
    cases t.dtype
    rfl
  unfold NativeRuntime.dtype
  refine reads_calloc fun p₁ h₁ => ?_
  rw [← h₁] at hobject ht
  refine reads_bind (reads_check _ _ (wp_tensorField hobject ht)) fun p₂ h₂ => ?_
  rw [if_pos hcode]
  exact reads_pure _

theorem reads_device : Reads (NativeRuntime.device handle) ⟨.cpu, 0⟩ p := by
  obtain ⟨id, t, hobject, ht, hplaced, -⟩ := viewed_tensor ok hviews
  unfold NativeRuntime.device
  refine reads_calloc fun p₁ h₁ => reads_calloc fun p₂ h₂ => ?_
  rw [← h₁, ← h₂] at hobject ht
  refine reads_bind (reads_check _ _ (wp_tensorField hobject ht)) fun p₃ h₃ => ?_
  rw [← h₃] at hobject ht
  refine reads_bind (reads_check _ _ (wp_tensorField hobject ht)) fun p₄ h₄ => ?_
  rw [hplaced.device, hplaced.deviceIndex]
  exact reads_pure _

theorem reads_numel : Reads (NativeRuntime.numel handle) (Int64.ofNat viewed.1.prod) p := by
  obtain ⟨id, t, hobject, ht, -, -, hnumel, -⟩ := viewed_tensor ok hviews
  unfold NativeRuntime.numel
  refine reads_calloc fun p₁ h₁ => ?_
  rw [← h₁] at hobject ht
  refine reads_bind (reads_check _ _ (wp_tensorField hobject ht)) fun p₂ h₂ => ?_
  rw [hnumel]
  exact reads_pure _

theorem reads_copyToHost [Scalar F] [Scalar D] [Precision F D] [FloatBits F] :
    Reads (NativeRuntime.copyToHost handle (Int64.ofNat viewed.1.prod) : DartM F D (List D))
      (viewed.2.map Precision.widen) p := by
  obtain ⟨id, t, hobject, ht, -, -, -, -, hfits, hlen⟩ := viewed_tensor ok hviews
  have hcapacity : (Int64.ofNat viewed.1.prod).toInt.toNat = viewed.2.length := by
    rw [toInt_ofNat hfits, hlen, Int.toNat_natCast]
  unfold NativeRuntime.copyToHost
  refine reads_calloc fun p₁ h₁ => reads_calloc fun p₂ h₂ => ?_
  rw [hcapacity]
  have hrun := Api.exec_copyToHostF32 (s := p₂.runtime) (by rw [h₂, h₁]; exact ok)
    (by rw [h₂, h₁]; exact hviews) (Nat.le_refl viewed.2.length)
  refine reads_bind (reads_check _ _ ((wp_eq_of_ok hrun).mpr ⟨rfl, rfl⟩)) fun p₃ h₃ => ?_
  rw [if_neg (not_not.mpr (show (NativeRuntime.copied (.values viewed.2)).length =
    viewed.2.length from rfl))]
  exact reads_pure _

end Readings

end Dart

end Tensora
