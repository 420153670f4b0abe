import Tensora.Inference.ExportSpecs
import Tensora.Training.GradientPaths

/-! Every differentiable call of either build, and what it copies out of CPU storage. -/
namespace Tensora.Bridge
open Relation ProgramLogic Training

variable {F α β : Type} {lib : LibTorch F}

def Layer.parameters : Layer lib → List (Node lib)
  | .core state => .cpu state.weight :: state.bias.toList.map .cpu
  | .torch weight bias => .torch weight :: bias.toList.map .torch

def Operation.operands : Operation lib → List (Node lib)
  | .reshape t _ | .transpose2D t | .sum t | .relu t | .sigmoid t | .tanh t | .gelu t | .silu t
  | .swiGlu t | .transfer t _ _ => [t.node]
  | .add l r | .multiply l r | .matmul l r | .mseLoss l r | .crossEntropyLoss l r =>
      [l.node, r.node]
  | .moduleForward layer input => input.node :: layer.parameters

def Node.isTorch : Node lib → Bool
  | .cpu _ => false
  | .torch _ => true

/-- Whether LibTorch evaluates the call: always where the bridge has a LibTorch version of
its own, else when an operand has LibTorch storage. -/
def Operation.usesTorch (build : Build) (operation : Operation lib) : Bool :=
  match build, operation with
  | .core, _ => false
  | .libtorch, .relu _ | .libtorch, .sigmoid _ | .libtorch, .tanh _ | .libtorch, .transfer _ _ _
  | .libtorch, .mseLoss _ _ | .libtorch, .crossEntropyLoss _ _
  | .libtorch, .moduleForward _ _ => true
  | .libtorch, operation => operation.operands.any Node.isTorch

/-- The operands with CPU storage that are copied into LibTorch. -/
def Operation.converted (build : Build) (operation : Operation lib) : List TensorId :=
  if operation.usesTorch build then operation.operands.filterMap Node.cpu? else []

structure Operation.Held (operation : Operation lib) (w : World lib) : Prop where
  operands : ∀ n ∈ operation.operands, w.Holds n
  module : ∀ state input, operation = .moduleForward (.core state) input → state.Ok w.heap

section Rules
variable {w w' w'' : World lib}

theorem records_throw (wf : WellFormed w.heap) (e : Failure) (operands : List (Node lib))
    (converted : List TensorId) : Records (throw e) w operands converted :=
  World.Quiet.refl wf

theorem World.Same.requiresGrad (s : w.Same w') : w'.requiresGrad = w.requiresGrad := by
  funext n
  cases n with
  | cpu id => exact congrArg (fun h => Heap.requiresGrad h id) s.heap
  | torch r => exact congrArg (fun t => lib.requiresGrad t r) s.torch

theorem World.Same.holds (s : w.Same w') {n : Node lib} (hn : w.Holds n) : w'.Holds n := by
  cases n with
  | cpu id =>
      change w'.heap.Visible id
      rw [s.heap]
      exact hn
  | torch r =>
      change lib.live w'.torch r
      rw [s.torch]
      exact hn

theorem records_bind {x : BridgeM lib α} {f : α → BridgeM lib (TensorObject lib)} {T : α → Prop}
    {operands : List (Node lib)} {converted : List TensorId} (wf : WellFormed w.heap)
    (hx : Looks x w T)
    (hf : ∀ a w', w.Same w' → T a → Records (f a) w' operands converted) :
    Records (x >>= f) w operands converted := by
  have hquiet : ∀ w' w'', w.Same w' → w'.Quiet w'' → w.Quiet w'' := fun w' w'' hs hq =>
    ⟨hs.heap ▸ hq.heap, hs.torch ▸ hq.torch⟩
  refine wp_seq hx (fun e w' hs => hquiet w' w' hs (World.Quiet.refl (hs.heap ▸ wf))) ?_
  rintro a w' ⟨hs, ha⟩
  refine wp_mono (hf a w' hs ha) ?_ fun e w'' hq => hquiet w' w'' hs hq
  rintro r w'' ⟨hq, hholds, hiff⟩
  refine ⟨hquiet w' w'' hs hq, hholds, ?_⟩
  rw [hs.heap] at hiff
  rw [← hiff]
  constructor
  · rintro ⟨hflag, hreach⟩
    exact ⟨by rw [hs.requiresGrad]; exact hflag, fun o ho hreq =>
      hreach o ho (by rw [← hs.requiresGrad]; exact hreq)⟩
  · rintro ⟨hflag, hreach⟩
    exact ⟨by rw [← hs.requiresGrad]; exact hflag, fun o ho hreq =>
      hreach o ho (by rw [hs.requiresGrad]; exact hreq)⟩

structure World.Ready (w : World lib) (operands : List (Node lib)) : Prop where
  wellFormed : WellFormed w.heap
  holds : ∀ n ∈ operands, w.Holds n

theorem World.Ready.same {operands : List (Node lib)} (rd : w.Ready operands) (s : w.Same w') :
    w'.Ready operands :=
  ⟨s.heap ▸ rd.wellFormed, fun n hn => s.holds (rd.holds n hn)⟩

theorem Records.of_looks {x : BridgeM lib α} {f : α → BridgeM lib (TensorObject lib)}
    {T : α → Prop} {operands : List (Node lib)} {converted : List TensorId}
    (rd : w.Ready operands) (hx : Looks x w T)
    (hf : ∀ a w', w'.Ready operands → T a → Records (f a) w' operands converted) :
    Records (x >>= f) w operands converted :=
  records_bind rd.wellFormed hx fun a w' hs ha => hf a w' (rd.same hs) ha

theorem records_onMemory {program : Mem F TensorId} {parents : List TensorId}
    (hx : Linked program w.heap parents) :
    Records (.cpu <$> onMemory program) w (parents.map .cpu) [] := by
  unfold Records
  rw [wp_map]
  refine wp_onMemory hx ?_ ?_
  · rintro r m ⟨he, hv, hlinks⟩
    refine ⟨⟨he, LibTorch.Grows.refl _⟩, hv, iff_of_true ⟨?_, ?_⟩ (by simp)⟩
    · change m.heap.requiresGrad r = _
      rw [hlinks.requiresGrad, List.any_map]
      rfl
    · intro o ho hreq
      obtain ⟨p, hp, rfl⟩ := List.mem_map.mp ho
      exact World.reaches_of_cpu (hlinks.reaches p hp hreq)
  · rintro e m (he | he)
    · exact ⟨he, LibTorch.Grows.refl _⟩
    · exact ⟨he, LibTorch.Grows.refl _⟩

theorem records_onCpu {operation : TensorId → Mem F TensorId} {t : TensorObject lib}
    (rd : w.Ready [t.node])
    (hop : ∀ id, w.heap.Visible id → Linked (operation id) w.heap [id]) :
    Records (onCpu operation t) w [t.node] [] := by
  cases t with
  | cpu id => exact records_onMemory (hop id (rd.holds (.cpu id) (List.mem_singleton_self _)))
  | torch t => exact records_throw rd.wellFormed _ _ _

theorem records_onCpuPair {operation : TensorId → TensorId → Mem F TensorId}
    {l r : TensorObject lib} (rd : w.Ready [l.node, r.node])
    (hop : ∀ l r, w.heap.Visible l → w.heap.Visible r → Linked (operation l r) w.heap [l, r]) :
    Records (onCpuPair operation l r) w [l.node, r.node] [] := by
  have hl := rd.holds l.node (by simp)
  have hr := rd.holds r.node (by simp)
  cases l with
  | torch l => exact records_throw rd.wellFormed _ _ _
  | cpu l =>
      cases r with
      | torch r => exact records_throw rd.wellFormed _ _ _
      | cpu r => exact records_onMemory (hop l r hl hr)

structure World.Copies (w w' : World lib) : Prop where
  heap : w'.heap = w.heap
  torch : lib.Extends w.torch w'.torch

/-- What stands for an operand in LibTorch: the tensor itself, or a copy without history. -/
structure Image (w w' : World lib) (n : Node lib) (v : lib.Ref) : Prop where
  live : lib.live w'.torch v
  torch : ∀ r, n = .torch r → v = r ∧ lib.live w.torch r
  cpu : ∀ id, n = .cpu id → lib.requiresGrad w'.torch v = false

theorem World.Copies.refl (w : World lib) : w.Copies w := ⟨rfl, LibTorch.Extends.refl _⟩

theorem World.Copies.trans (a : w.Copies w') (b : w'.Copies w'') : w.Copies w'' :=
  ⟨b.heap.trans a.heap, a.torch.trans b.torch⟩

theorem World.Copies.quiet (c : w.Copies w') (wf : WellFormed w.heap) : w.Quiet w' :=
  ⟨by rw [c.heap]; exact Evolves.refl wf, c.torch.grows⟩

theorem World.Copies.holds (c : w.Copies w') {n : Node lib} (hn : w.Holds n) : w'.Holds n := by
  cases n with
  | cpu id =>
      change w'.heap.Visible id
      rw [c.heap]
      exact hn
  | torch r => exact c.torch.grows.live r hn

theorem Image.later (i : Image w w' n v) (c : w'.Copies w'') : Image w w'' n v where
  live := c.torch.grows.live v i.live
  torch := i.torch
  cpu := fun id hn => (c.torch.requiresGrad v i.live).trans (i.cpu id hn)

theorem Image.earlier (i : Image w' w'' n v) (hn : w.Holds n) :
    Image w w'' n v where
  live := i.live
  torch := by
    rintro r rfl
    exact ⟨(i.torch r rfl).1, hn⟩
  cpu := i.cpu

theorem wp_tensorToTorch (doc : lib.Documented) (wf : WellFormed w.heap) {t : TensorObject lib}
    (ht : w.Holds t.node) :
    wp (tensorToTorch t) (fun v w' => w.Copies w' ∧ Image w w' t.node v)
      (fun _ w' => w.Copies w') w := by
  cases t with
  | torch t =>
      refine ⟨World.Copies.refl w, ht, ?_, ?_⟩
      · rintro r hr
        cases hr
        exact ⟨rfl, ht⟩
      · rintro id hid
        cases hid
  | cpu id =>
      obtain ⟨t, hget⟩ := Heap.Visible.get ht
      unfold tensorToTorch
      rw [wp_bind]
      refine wp_onMemory (Inference.observes_tensorToTorch wf hget) ?_ ?_
      · rintro ⟨values, dimensions⟩ m ⟨hm, -⟩
        refine wp_onTorch (doc.fromBlobClone values dimensions _) ?_ ?_
        · rintro v s ⟨he, hlive, hflag⟩
          refine ⟨⟨hm, he⟩, hlive, ?_, fun _ _ => hflag⟩
          rintro r hr
          cases hr
        · exact fun e s he => ⟨hm, he⟩
      · rintro e m (he | he)
        · exact he.elim
        · exact ⟨he, LibTorch.Extends.refl _⟩

private theorem exists_of_forall₂ {R : α → β → Prop} {xs : List α} {ys : List β}
    (h : List.Forall₂ R xs ys) {x : α} (hx : x ∈ xs) : ∃ y ∈ ys, R x y := by
  induction h with
  | nil => cases hx
  | @cons a b xs ys hab _ ih =>
      rcases List.mem_cons.mp hx with rfl | hrest
      · exact ⟨b, by simp, hab⟩
      · obtain ⟨y, hy, hxy⟩ := ih hrest
        exact ⟨y, by simp [hy], hxy⟩

/-- A result of LibTorch leads to the operands LibTorch was given, and to no others. -/
theorem connects_iff_converted {operands : List (Node lib)} {values : List lib.Ref}
    {w₁ w₂ : World lib} {v : lib.Ref} (c : w.Copies w₁)
    (hi : List.Forall₂ (Image w w₁) operands values)
    (hflag : lib.requiresGrad w₂.torch v = values.any (lib.requiresGrad w₁.torch))
    (hreach : ∀ o ∈ values, lib.requiresGrad w₁.torch o = true → lib.Reaches w₂.torch v o) :
    Connects w w₂ operands (.torch v) ↔
      ∀ id ∈ operands.filterMap Node.cpu?, w.heap.requiresGrad id = false := by
  constructor
  · intro hc id hid
    obtain ⟨n, hn, hcpu⟩ := List.mem_filterMap.mp hid
    cases n with
    | torch r => cases hcpu
    | cpu id' =>
        cases hcpu
        -- a path to it would lead out of LibTorch's graph
        by_contra hreq
        rw [Bool.not_eq_false] at hreq
        obtain ⟨o, ho, -⟩ := World.reaches_torch (hc.reaches _ hn hreq)
        cases ho
  · intro hnone
    have himage : ∀ n ∈ operands, ∀ u, Image w w₁ n u →
        lib.requiresGrad w₁.torch u = w.requiresGrad n := by
      intro n hn u hu
      cases n with
      | cpu id =>
          rw [hu.cpu id rfl]
          exact (hnone id (List.mem_filterMap.mpr ⟨_, hn, rfl⟩)).symm
      | torch r =>
          obtain ⟨rfl, hlive⟩ := hu.torch r rfl
          exact c.torch.requiresGrad u hlive
    refine ⟨?_, fun o ho hreq => ?_⟩
    · change lib.requiresGrad w₂.torch v = _
      rw [hflag]
      clear hflag hreach hnone
      induction hi with
      | nil => rfl
      | @cons n u rest values hu _ ih =>
          rw [List.any_cons, List.any_cons, himage n (by simp) u hu,
            ih fun m hm => himage m (List.mem_cons_of_mem _ hm)]
    · obtain ⟨u, hu, hin⟩ := exists_of_forall₂ hi ho
      have hpath := hreach u hu (by rw [himage o ho u hin]; exact hreq)
      cases o with
      | cpu id =>
          rw [show w.requiresGrad (.cpu id) = false from
            hnone id (List.mem_filterMap.mpr ⟨_, ho, rfl⟩)] at hreq
          cases hreq
      | torch r =>
          obtain ⟨rfl, -⟩ := hin.torch r rfl
          exact World.reaches_of_torch hpath

theorem looks_wrapTorchTensor (v : lib.Ref) :
    Looks (wrapTorchTensor v) w fun r => r.node = .torch v := by
  unfold wrapTorchTensor
  refine looks_bind (looks_get (T := fun _ => True) trivial) fun _ w' _ _ => ?_
  refine looks_bind (T := fun _ => True) (looks_onMemory ?_) fun _ _ _ _ => ?_
  · refine (spec_validatedShape w'.heap _).mono ?_ (fun _ _ he => he.1) fun _ hx => hx
    exact fun _ _ hq => ⟨hq.1, trivial⟩
  · exact looks_bind (looks_ofExcept _) fun _ _ _ _ => looks_pure rfl

theorem wp_wrapResult (doc : lib.Documented) (wf : WellFormed w.heap) {operands : List (Node lib)}
    {values : List lib.Ref} (expression : TorchExpression) (c : w.Copies w')
    (hi : List.Forall₂ (Image w w') operands values) :
    wp (wrapResult expression values)
      (fun r w'' => Settled w operands (operands.filterMap Node.cpu?) r.node w'')
      (fun _ w'' => w.Quiet w'') w' := by
  have hlive : ∀ v ∈ values, lib.live w'.torch v := by
    intro v hv
    obtain ⟨n, -, hn⟩ := exists_of_forall₂ hi.flip hv
    exact hn.live
  unfold wrapResult
  rw [wp_bind]
  refine wp_onTorch (doc.evaluate expression values w'.torch hlive) ?_ ?_
  · rintro v s ⟨he, hv, hflag, hreach⟩
    have hcopies : w.Copies { w' with torch := s } := c.trans ⟨rfl, he⟩
    have hquiet := hcopies.quiet wf
    refine wp_mono (looks_wrapTorchTensor v) ?_ ?_
    · rintro r w'' ⟨hs, hr⟩
      refine ⟨⟨hs.heap ▸ hquiet.heap, hs.torch ▸ hquiet.torch⟩, ?_, ?_⟩
      · rw [hr]
        exact hs.holds hv
      · rw [hr]
        refine connects_iff_converted c hi ?_ fun o ho hreq => ?_
        · rw [hs.torch]
          exact hflag
        · rw [hs.torch]
          exact hreach o ho hreq
    · exact fun e w'' hs => ⟨hs.heap ▸ hquiet.heap, hs.torch ▸ hquiet.torch⟩
  · intro e s he
    have hcopies : w.Copies { w' with torch := s } := c.trans ⟨rfl, he⟩
    exact hcopies.quiet wf

theorem records_torchUnary (doc : lib.Documented) (expression : TorchExpression)
    {t : TensorObject lib} (rd : w.Ready [t.node]) :
    Records (torchUnary expression t) w [t.node] ([t.node].filterMap Node.cpu?) := by
  have wf := rd.wellFormed
  refine wp_seq (wp_tensorToTorch doc wf (rd.holds _ (by simp))) (fun _ _ hc => hc.quiet wf) ?_
  rintro v w' ⟨hc, hi⟩
  exact wp_wrapResult doc wf expression hc (.cons hi .nil)

theorem records_torchBinary (doc : lib.Documented) (expression : TorchExpression)
    {l r : TensorObject lib} (rd : w.Ready [l.node, r.node]) :
    Records (torchBinary expression l r) w [l.node, r.node]
      ([l.node, r.node].filterMap Node.cpu?) := by
  have wf := rd.wellFormed
  have hr := rd.holds r.node (by simp)
  refine wp_seq (wp_tensorToTorch doc wf (rd.holds _ (by simp))) (fun _ _ hc => hc.quiet wf) ?_
  rintro a w₁ ⟨hc₁, ha⟩
  have wf₁ : WellFormed w₁.heap := hc₁.heap ▸ wf
  refine wp_seq (wp_tensorToTorch doc wf₁ (hc₁.holds hr))
    (fun _ _ hc => (hc₁.trans hc).quiet wf) ?_
  rintro b w₂ ⟨hc₂, hb⟩
  exact wp_wrapResult doc wf expression (hc₁.trans hc₂)
    (.cons (ha.later hc₂) (.cons (hb.earlier hr) .nil))

theorem looks_describe (wf : WellFormed w.heap) {t : TensorObject lib} (ht : w.Holds t.node) :
    Looks (describe t) w fun d => (d.kind = .torch ↔ t.node.isTorch = true) ∧
      (t.node.isTorch = false → d.device = .cpu) := by
  cases t with
  | torch t => exact looks_pure ⟨iff_of_true rfl rfl, fun h => by cases h⟩
  | cpu id =>
      obtain ⟨t, hget⟩ := Heap.Visible.get ht
      refine looks_bind (T := fun r => r = t) (looks_onMemory ?_) ?_
      · exact (observes_deref hget).mono (fun _ _ hq => hq) (fun _ _ he => he.elim) fun _ hx => hx
      · rintro r w' - rfl
        refine looks_pure ⟨iff_of_false (by rintro ⟨⟩) (by rintro ⟨⟩), fun _ => ?_⟩
        exact (wf.placed id r hget).device

def dispatchesTorch (build : Build) (operands : List (Node lib)) : Bool :=
  match build with
  | .core => false
  | .libtorch => operands.any Node.isTorch

theorem looks_forDevice (build : Build) (device : Device) (T : Dispatcher.Backend → Prop)
    (hcpu : device = .cpu → T .cpu) (htorch : device ≠ .cpu → build = .libtorch → T .torch) :
    Looks (Dispatcher.forDevice build device : BridgeM lib _) w T := by
  unfold Dispatcher.forDevice
  split
  · exact looks_pure (hcpu ‹_›)
  · cases build with
    | core => exact looks_throw _
    | libtorch => exact looks_pure (htorch ‹_› rfl)

theorem looks_forTensor (build : Build) (wf : WellFormed w.heap) {t : TensorObject lib}
    (ht : w.Holds t.node) : Looks (Dispatcher.forTensor build t) w
      fun b => b = .torch ↔ dispatchesTorch build [t.node] = true := by
  refine looks_bind (looks_describe wf ht) ?_
  rintro d w' - ⟨hkind, hdevice⟩
  split
  · rename_i h
    obtain ⟨rfl, hd⟩ := h
    exact looks_pure (iff_of_true rfl (by simp [dispatchesTorch, hkind.mp hd]))
  · rename_i h
    refine looks_forDevice build d.device _ (fun hcpu => ?_) fun hne hb => ?_
    · refine iff_of_false (by rintro ⟨⟩) ?_
      cases build with
      | core => simp [dispatchesTorch]
      | libtorch => simpa [dispatchesTorch, hkind] using h
    · subst hb
      exact absurd ((hdevice (by simpa [hkind] using h))) hne

theorem looks_forTensors (build : Build) (wf : WellFormed w.heap) {l r : TensorObject lib}
    (hl : w.Holds l.node) (hr : w.Holds r.node) : Looks (Dispatcher.forTensors build l r) w
      fun b => b = .torch ↔ dispatchesTorch build [l.node, r.node] = true := by
  refine looks_bind (looks_describe wf hl) ?_
  rintro dl w₁ hs₁ ⟨hkindl, hdevice⟩
  refine looks_bind (looks_describe (hs₁.heap ▸ wf) (hs₁.holds hr)) ?_
  rintro dr w₂ - ⟨hkindr, -⟩
  refine looks_bind (looks_failIf _ _) fun _ _ _ _ => ?_
  split
  · rename_i h
    obtain ⟨rfl, hd⟩ := h
    refine looks_pure (iff_of_true rfl ?_)
    rcases hd with hd | hd
    · simp [dispatchesTorch, hkindl.mp hd]
    · simp [dispatchesTorch, hkindr.mp hd]
  · rename_i h
    refine looks_forDevice build dl.device _ (fun hcpu => ?_) fun hne hb => ?_
    · refine iff_of_false (by rintro ⟨⟩) ?_
      cases build with
      | core => simp [dispatchesTorch]
      | libtorch => simpa [dispatchesTorch, hkindl, hkindr] using h
    · subst hb
      have hboth : ¬(l.node.isTorch = true ∨ r.node.isTorch = true) := by
        simpa [hkindl, hkindr] using h
      exact absurd (hdevice (by simpa using (not_or.mp hboth).1)) hne

theorem records_byBackend {dispatched : BridgeM lib Dispatcher.Backend}
    {cpu torch : BridgeM lib (TensorObject lib)} (build : Build) {operands : List (Node lib)}
    (rd : w.Ready operands)
    (hd : Looks dispatched w fun b => b = .torch ↔ dispatchesTorch build operands = true)
    (hcpu : ∀ w', World.Ready w' operands → Records cpu w' operands [])
    (htorch : ∀ w', World.Ready w' operands →
      Records torch w' operands (operands.filterMap Node.cpu?)) :
    Records (byBackend dispatched cpu torch) w operands
      (if dispatchesTorch build operands then operands.filterMap Node.cpu? else []) := by
  refine Records.of_looks rd hd fun b w' rd' hb => ?_
  cases b with
  | cpu =>
      rw [if_neg (by rw [← hb]; rintro ⟨⟩)]
      exact hcpu w' rd'
  | torch =>
      rw [if_pos (hb.mp rfl)]
      exact htorch w' rd'

theorem records_byStorage (build : Build) {t : TensorObject lib}
    {core libtorch : BridgeM lib (TensorObject lib)} (hcore : Records core w [t.node] [])
    (hlibtorch : Records libtorch w [t.node] ([t.node].filterMap Node.cpu?)) :
    Records (byStorage build t core libtorch) w [t.node]
      (if dispatchesTorch build [t.node] then [t.node].filterMap Node.cpu? else []) := by
  cases build with
  | core => exact hcore
  | libtorch =>
      cases t with
      | cpu id => exact hcore
      | torch t => exact hlibtorch

section Calls
variable (doc : lib.Documented)
include doc

theorem records_torchReshape {t : TensorObject lib} (shape : ShapeInfo) (rd : w.Ready [t.node]) :
    Records (TorchBackend.reshape t shape) w [t.node] ([t.node].filterMap Node.cpu?) := by
  refine Records.of_looks rd (looks_describe rd.wellFormed (rd.holds _ (by simp)))
    fun _ w₁ rd₁ _ => ?_
  refine Records.of_looks rd₁ (looks_failIf _ _) fun _ w₂ rd₂ _ => ?_
  exact records_torchUnary doc _ rd₂

theorem records_torchTranspose {t : TensorObject lib} (rd : w.Ready [t.node]) :
    Records (TorchBackend.transpose2D t) w [t.node] ([t.node].filterMap Node.cpu?) := by
  refine Records.of_looks rd (looks_describe rd.wellFormed (rd.holds _ (by simp)))
    fun _ w₁ rd₁ _ => ?_
  refine Records.of_looks rd₁ (looks_failIf _ _) fun _ w₂ rd₂ _ => ?_
  exact records_torchUnary doc _ rd₂

theorem records_torchElementwise (name : String) (expression : TorchExpression)
    {l r : TensorObject lib} (rd : w.Ready [l.node, r.node]) :
    Records (TorchBackend.elementwise name expression l r) w [l.node, r.node]
      ([l.node, r.node].filterMap Node.cpu?) := by
  refine Records.of_looks rd (looks_describe rd.wellFormed (rd.holds _ (by simp)))
    fun _ w₁ rd₁ _ => ?_
  refine Records.of_looks rd₁ (looks_describe rd₁.wellFormed (rd₁.holds _ (by simp)))
    fun _ w₂ rd₂ _ => ?_
  refine Records.of_looks rd₂ (looks_failIf _ _) fun _ w₃ rd₃ _ => ?_
  exact records_torchBinary doc expression rd₃

theorem records_torchMatmul {l r : TensorObject lib} (rd : w.Ready [l.node, r.node]) :
    Records (TorchBackend.matmul l r) w [l.node, r.node]
      ([l.node, r.node].filterMap Node.cpu?) := by
  refine Records.of_looks rd (looks_describe rd.wellFormed (rd.holds _ (by simp)))
    fun _ w₁ rd₁ _ => ?_
  refine Records.of_looks rd₁ (looks_describe rd₁.wellFormed (rd₁.holds _ (by simp)))
    fun _ w₂ rd₂ _ => ?_
  split
  · refine Records.of_looks rd₂ (looks_failIf _ _) fun _ w₃ rd₃ _ => ?_
    exact records_torchBinary doc .matmul rd₃
  · exact records_throw rd₂.wellFormed _ _ _

omit doc in
theorem looks_ensureAlike (name shapes : String) {l r : TensorObject lib}
    (rd : w.Ready [l.node, r.node]) :
    Looks (ensureAlike name shapes l r) w fun _ => True := by
  refine looks_bind (looks_describe rd.wellFormed (rd.holds _ (by simp))) fun _ w₁ hs₁ _ => ?_
  have rd₁ := rd.same hs₁
  refine looks_bind (looks_describe rd₁.wellFormed (rd₁.holds _ (by simp))) fun _ _ _ _ => ?_
  refine looks_bind (looks_failIf _ _) fun _ _ _ _ => ?_
  exact looks_bind (looks_failIf _ _) fun _ _ _ _ => looks_pure trivial

theorem records_torchMseLoss {l r : TensorObject lib} (rd : w.Ready [l.node, r.node]) :
    Records (torchMseLoss l r) w [l.node, r.node] ([l.node, r.node].filterMap Node.cpu?) :=
  Records.of_looks rd (looks_ensureAlike _ _ rd) fun _ _ rd₁ _ =>
    records_torchBinary doc .mseLoss rd₁

theorem records_torchCrossEntropyLoss {l r : TensorObject lib} (rd : w.Ready [l.node, r.node]) :
    Records (torchCrossEntropyLoss l r) w [l.node, r.node]
      ([l.node, r.node].filterMap Node.cpu?) := by
  refine Records.of_looks rd (looks_ensureAlike _ _ rd) fun _ _ rd₁ _ => ?_
  refine Records.of_looks rd₁ (looks_failIf _ _) fun _ _ rd₂ _ => ?_
  exact records_torchBinary doc .crossEntropyLoss rd₂

theorem records_torchTransfer {t : TensorObject lib} (device : Device) (deviceIndex : Int)
    (rd : w.Ready [t.node]) : Records (torchTransfer t device deviceIndex) w [t.node]
      ([t.node].filterMap Node.cpu?) :=
  Records.of_looks rd (looks_ofExcept _) fun target _ rd₁ _ =>
    records_torchUnary doc (.moved target) rd₁

theorem records_torchSwiGlu {t : TensorObject lib} (rd : w.Ready [t.node]) :
    Records (torchSwiGlu t) w [t.node] ([t.node].filterMap Node.cpu?) := by
  have wf := rd.wellFormed
  refine wp_seq (wp_tensorToTorch doc wf (rd.holds _ (by simp))) (fun _ _ hc => hc.quiet wf) ?_
  rintro v w₁ ⟨hc, hi⟩
  rw [wp_bind, wp_get]
  split
  · exact hc.quiet wf
  · rw [wp_bind]
    unfold failIf
    split
    · exact hc.quiet wf
    · exact wp_wrapResult doc wf _ hc (.cons hi .nil)

theorem records_torchForward {weight : lib.Ref} {bias : Option lib.Ref} {t : TensorObject lib}
    (rd : w.Ready (t.node :: (Layer.torch weight bias : Layer lib).parameters)) :
    Records (torchForward weight bias t) w (t.node :: (Layer.torch weight bias).parameters)
      ((t.node :: (Layer.torch weight bias).parameters).filterMap Node.cpu?) := by
  have wf := rd.wellFormed
  refine wp_seq (wp_tensorToTorch doc wf (rd.holds _ (by simp))) (fun _ _ hc => hc.quiet wf) ?_
  rintro v w₁ ⟨hc, hi⟩
  have himage : ∀ r, w.Holds (.torch r) → Image w w₁ (.torch r) r := by
    intro r hr
    refine ⟨hc.torch.grows.live r hr, ?_, ?_⟩
    · rintro o ho
      cases ho
      exact ⟨rfl, hr⟩
    · rintro id hid
      cases hid
  have hweight := himage weight (rd.holds _ (by simp [Layer.parameters]))
  refine wp_wrapResult doc wf .linear hc (.cons hi (.cons hweight ?_))
  cases bias with
  | none => exact .nil
  | some bias => exact .cons (himage bias (rd.holds _ (by simp [Layer.parameters]))) .nil

end Calls

end Rules

section Every
variable (D : Type) [Scalar F] [Scalar D] [Precision F D] {w : World lib}

theorem records_exec (doc : lib.Documented) (build : Build) (operation : Operation lib)
    (wf : WellFormed w.heap) (held : operation.Held w) :
    Records (exec D build operation) w operation.operands (operation.converted build) := by
  have rd : w.Ready operation.operands := ⟨wf, held.operands⟩
  have hdispatch : ∀ operation' : Operation lib,
      (∀ b, operation'.usesTorch b = dispatchesTorch b operation'.operands) →
      operation'.converted build = if dispatchesTorch build operation'.operands
        then operation'.operands.filterMap Node.cpu? else [] := fun operation' h => by
    rw [Operation.converted, h]
  cases operation with
  | reshape t dims =>
      rw [hdispatch _ fun b => by cases b <;> rfl]
      refine Records.of_looks (T := ShapeInfo.Canonical) rd (looks_onMemory ?_)
        fun shape w₁ rd₁ hshape => ?_
      · exact (spec_validatedShape w.heap dims).mono (fun _ _ hq => ⟨hq.1, hq.2.1⟩)
          (fun _ _ he => he.1) fun _ hx => hx
      · refine records_byBackend build rd₁
          (looks_forTensor build rd₁.wellFormed (rd₁.holds _ (by simp [Operation.operands])))
          (fun w₂ rd₂ => ?_) fun w₂ rd₂ => records_torchReshape doc shape rd₂
        exact records_onCpu rd₂ fun id hv =>
          (CpuBackend.forwards_reshape (D := D) rd₂.wellFormed hv hshape).linked rd₂.wellFormed
  | transpose2D t =>
      rw [hdispatch _ fun b => by cases b <;> rfl]
      refine records_byBackend build rd
        (looks_forTensor build wf (rd.holds _ (by simp [Operation.operands])))
        (fun w₁ rd₁ => ?_) fun w₁ rd₁ => records_torchTranspose doc rd₁
      exact records_onCpu rd₁ fun id hv =>
        (CpuBackend.forwards_transpose2D (D := D) rd₁.wellFormed hv).linked rd₁.wellFormed
  | sum t =>
      rw [hdispatch _ fun b => by cases b <;> rfl]
      refine records_byBackend build rd
        (looks_forTensor build wf (rd.holds _ (by simp [Operation.operands])))
        (fun w₁ rd₁ => ?_) fun w₁ rd₁ => records_torchUnary doc .sum rd₁
      exact records_onCpu rd₁ fun id hv =>
        (CpuBackend.forwards_sum (D := D) rd₁.wellFormed hv).linked rd₁.wellFormed
  | relu t =>
      cases build with
      | core => exact records_onCpu rd fun id hv => (forwards_relu (D := D) wf hv).linked wf
      | libtorch => exact records_torchUnary doc .relu rd
  | sigmoid t =>
      cases build with
      | core => exact records_onCpu rd fun id hv => (forwards_sigmoid (D := D) wf hv).linked wf
      | libtorch => exact records_torchUnary doc .sigmoid rd
  | tanh t =>
      cases build with
      | core => exact records_onCpu rd fun id hv => (forwards_tanh (D := D) wf hv).linked wf
      | libtorch => exact records_torchUnary doc .tanh rd
  | gelu t =>
      rw [hdispatch _ fun b => by cases b <;> rfl]
      have hcore := records_onCpu rd fun id hv => (forwards_gelu (D := D) wf hv).linked wf
      exact records_byStorage build hcore (records_torchUnary doc .gelu rd)
  | silu t =>
      rw [hdispatch _ fun b => by cases b <;> rfl]
      have hcore := records_onCpu rd fun id hv => (forwards_silu (D := D) wf hv).linked wf
      exact records_byStorage build hcore (records_torchUnary doc .silu rd)
  | swiGlu t =>
      rw [hdispatch _ fun b => by cases b <;> rfl]
      have hcore := records_onCpu rd fun id hv => (forwards_swiGlu (D := D) wf hv).linked wf
      exact records_byStorage build hcore (records_torchSwiGlu doc rd)
  | transfer t device deviceIndex =>
      cases build with
      | core => exact records_onCpu rd fun id hv =>
          (forwards_transfer (D := D) wf hv device deviceIndex).linked wf
      | libtorch => exact records_torchTransfer doc device deviceIndex rd
  | add l r =>
      rw [hdispatch _ fun b => by cases b <;> rfl]
      refine records_byBackend build rd (looks_forTensors build wf
          (rd.holds _ (by simp [Operation.operands])) (rd.holds _ (by simp [Operation.operands])))
        (fun w₁ rd₁ => ?_) fun w₁ rd₁ => records_torchElementwise doc "add" .add rd₁
      exact records_onCpuPair rd₁ fun l r hl hr =>
        (CpuBackend.forwards_add (D := D) rd₁.wellFormed hl hr).linked rd₁.wellFormed
  | multiply l r =>
      rw [hdispatch _ fun b => by cases b <;> rfl]
      refine records_byBackend build rd (looks_forTensors build wf
          (rd.holds _ (by simp [Operation.operands])) (rd.holds _ (by simp [Operation.operands])))
        (fun w₁ rd₁ => ?_) fun w₁ rd₁ => records_torchElementwise doc "multiply" .multiply rd₁
      exact records_onCpuPair rd₁ fun l r hl hr =>
        (CpuBackend.forwards_multiply (D := D) rd₁.wellFormed hl hr).linked rd₁.wellFormed
  | matmul l r =>
      rw [hdispatch _ fun b => by cases b <;> rfl]
      refine records_byBackend build rd (looks_forTensors build wf
          (rd.holds _ (by simp [Operation.operands])) (rd.holds _ (by simp [Operation.operands])))
        (fun w₁ rd₁ => ?_) fun w₁ rd₁ => records_torchMatmul doc rd₁
      exact records_onCpuPair rd₁ fun l r hl hr =>
        (CpuBackend.forwards_matmul (D := D) rd₁.wellFormed hl hr).linked rd₁.wellFormed
  | mseLoss p t =>
      cases build with
      | core => exact records_onCpuPair rd fun l r hl hr =>
          (forwards_mseLoss (D := D) wf hl hr).linked wf
      | libtorch => exact records_torchMseLoss doc rd
  | crossEntropyLoss l t =>
      cases build with
      | core => exact records_onCpuPair rd fun l r hl hr =>
          (forwards_crossEntropyLoss (D := D) wf hl hr).linked wf
      | libtorch => exact records_torchCrossEntropyLoss doc rd
  | moduleForward layer input =>
      cases layer with
      | core state =>
          cases build with
          | libtorch => exact records_throw wf _ _ _
          | core =>
              cases input with
              | torch t => exact records_throw wf _ _ _
              | cpu id =>
                  have hv := held.operands (.cpu id)
                    (by simp [Operation.operands, TensorObject.node])
                  have hlinked := linked_moduleForward D wf hv (held.module state _ rfl)
                  exact records_onMemory hlinked
      | torch weight bias =>
          cases build with
          | core => exact records_throw wf _ _ _
          | libtorch => exact records_torchForward doc rd

end Every

end Tensora.Bridge
