import Tensora.Api.Handles
import Tensora.Api.Sample
import Tensora.Api.ViewSequences
import Tensora.Training.SampleMatrices

/-! A Linear module beside the parameters it exports, in both builds. -/
namespace Tensora
open ProgramLogic CheckedLoop

variable {F D α : Type}

namespace Api
open Training

section Calls
variable [Scalar F] [Scalar D] [Precision F D] {s : Runtime F D}

def parameter (state : LinearState) : Nat → Option TensorId
  | 0 => some state.weight
  | 1 => state.bias
  | _ => none

theorem keeps_parameterAt (ok : s.Ok) (module index : Nat) :
    Keeps (Forwarded D) (fetchAndInsert (moduleParameterAt module index)) s fun reply s' =>
      ∃ handle, reply = .handle handle ∧ ∃ object state id,
        s.moduleAt module = some (object, state) ∧ parameter state index = some id ∧
        s'.objectOf handle .tensor = some id ∧ s'.heap = s.heap ∧ Names s s' := by
  have c := chained_forwarded (F := F) (D := D)
  unfold fetchAndInsert moduleParameterAt
  rw [bind_assoc]
  refine Keeps.bind c (keeps_lookupModule c ok module) ?_
  rintro ⟨object, state⟩ s₁ ok₁ - ⟨rfl, hstate⟩
  have hok := ok₁.modules state (List.mem_of_getElem? (Runtime.get_moduleAt hstate))
  have insert : ∀ id, parameter state index = some id → s₁.heap.Visible id →
      Keeps (Forwarded D) (do return .handle (← insertTensor id) : Native F D (Reply F)) s₁
        fun reply s' => ∃ handle, reply = .handle handle ∧ ∃ object state id,
          s₁.moduleAt module = some (object, state) ∧ parameter state index = some id ∧
          s'.objectOf handle .tensor = some id ∧ s'.heap = s₁.heap ∧ Names s₁ s' := by
    intro id hid hv
    refine Keeps.mono (keeps_insert_reply c ok₁ hv) ?_
    rintro reply s' ⟨handle, hreply, h⟩
    exact ⟨handle, hreply, object, state, id, hstate, hid, h⟩
  simp only
  split
  · exact insert state.weight rfl hok.weight_visible
  · rename_i bias _ hbias
    exact insert bias hbias (hok.bias_visible bias hbias)
  · exact keeps_throw c ok₁ _

theorem keeps_forward (ok : s.Ok) (module input : Nat) :
    Keeps (Forwarded D) (do
      let object ← lookupTensor input
      fetchAndInsert (Training.forward module object) : Native F D (Reply F)) s fun reply s' =>
      ∃ handle, reply = .handle handle ∧ ∃ object state id result,
        s.moduleAt module = some (object, state) ∧ s.objectOf input .tensor = some id ∧
        moduleForwardReject state (s.heap.dims id) = none ∧
        LinearProduced D s.heap s'.heap state id result ∧
        s'.objectOf handle .tensor = some result ∧ Names s s' := by
  have c := chained_forwarded (F := F) (D := D)
  refine keeps_lookupObject c ok input .tensor fun id hid => ?_
  unfold fetchAndInsert Training.forward
  rw [bind_assoc]
  refine Keeps.bind c (keeps_lookupModule c ok module) ?_
  rintro ⟨object, state⟩ s₁ ok₁ - ⟨rfl, hstate⟩
  have hok := ok₁.modules state (List.mem_of_getElem? (Runtime.get_moduleAt hstate))
  refine Keeps.bind c (keeps_onMemory_names (keeps_onMemory c ok₁ (T := fun r h' =>
    moduleForwardReject state (s₁.heap.dims id) = none ∧ h'.Visible r ∧
      LinearProduced D s₁.heap h' state id r)
    ((spec_moduleForward ok₁.wellFormed (ok₁.visible hid) hok).mono ?_ ?_ fun _ hx => hx))) ?_
  · rintro r h' ⟨haccept, hprod⟩
    obtain ⟨hf, hv⟩ := hprod.forwarded ok₁.wellFormed
    exact ⟨hf, haccept, hv, hprod⟩
  · rintro e _ ⟨rfl, -⟩
    exact Forwarded.refl ok₁.wellFormed
  rintro result s₂ ok₂ - ⟨⟨haccept, hv, hprod⟩, hnames⟩
  refine Keeps.mono (keeps_insert_reply c ok₂ hv) ?_
  rintro reply s₃ ⟨handle, hreply, hobject, hheap, hnames'⟩
  refine ⟨handle, hreply, object, state, id, result, hstate, hid, haccept, ?_, hobject,
    hnames.trans hnames'⟩
  rw [hheap]
  exact hprod

theorem keeps_matmul (ok : s.Ok) (left right : Nat) :
    Keeps (Forwarded D) (runBinary left right (dispatched CpuBackend.matmul)) s fun reply s' =>
      ∃ handle, reply = .handle handle ∧ ∃ l r, s.objectOf left .tensor = some l ∧
        s.objectOf right .tensor = some r ∧
        Produced D s.heap s'.heap .matmul [l, r]
          (CpuBackend.matmulDims (s.heap.dims l) (s.heap.dims r)) ∧
        s'.objectOf handle .tensor = some s.heap.tensors.length ∧ Names s s' := by
  have c := chained_forwarded (F := F) (D := D)
  refine keeps_lookupObject c ok left .tensor fun l hl => ?_
  refine keeps_lookupObject c ok right .tensor fun r hr => ?_
  have hforwards := forwards_dispatched ok.wellFormed (ok.visible hl) (ok.visible hr)
    (CpuBackend.forwards_matmul (D := D) ok.wellFormed (ok.visible hl) (ok.visible hr))
  refine Keeps.bind c (keeps_onMemory_names (keeps_onMemory c ok (T := fun id h' =>
    id = s.heap.tensors.length ∧ Produced D s.heap h' .matmul [l, r]
      (CpuBackend.matmulDims (s.heap.dims l) (s.heap.dims r)))
    (hforwards.mono ?_ ?_ fun _ hx => hx))) ?_
  · rintro id h' ⟨-, hid, hprod⟩
    exact ⟨hprod.forwarded ok.wellFormed, hid, hprod⟩
  · rintro e _ ⟨rfl, -⟩
    exact Forwarded.refl ok.wellFormed
  rintro _ s₁ ok₁ - ⟨⟨rfl, hprod⟩, hnames⟩
  refine Keeps.mono (keeps_insert_reply c ok₁ (hprod.result_visible ok.wellFormed)) ?_
  rintro reply s₂ ⟨handle, hreply, hobject, hheap, hnames'⟩
  refine ⟨handle, hreply, l, r, hl, hr, ?_, hobject, hnames.trans hnames'⟩
  rw [hheap]
  exact hprod

end Calls

variable [Scalar F] [Scalar D] [Precision F D] [FloatBits F] {s : Runtime F D}

def handleOf (call : Call F D) : Native F D Nat := do
  match ← exec call with
  | .handle handle => return handle
  | _ => throw (internalError "call without a handle")

/-- What a caller does who asks for the parameter count first. -/
def readBias (module : Nat) : Native F D (Option Nat) := do
  match ← exec (.moduleParameterCount module) with
  | .number 2 => some <$> handleOf (.moduleParameterAt module 1)
  | _ => return none

/-- What a caller can see of a module on one input. -/
structure Inspection where
  weight : Nat
  bias : Option Nat
  output : Nat
  product : Nat

def inspect (module input : Nat) : Native F D Inspection := do
  let weight ← handleOf (.moduleParameterAt module 0)
  let bias ← readBias module
  let output ← handleOf (.moduleForward module input)
  let product ← handleOf (.tensorMatmul input weight)
  return { weight, bias, output, product }

theorem keeps_handleOf {R : Heap F → Heap F → Prop} (c : Chained R) {call : Call F D}
    {Q : Nat → Runtime F D → Prop}
    (hx : Keeps R (exec call) s fun reply s' => ∃ handle, reply = .handle handle ∧ Q handle s') :
    Keeps R (handleOf call) s Q := by
  refine Keeps.bind c hx ?_
  rintro _ s' ok' - ⟨handle, rfl, hq⟩
  exact keeps_pure c ok' hq

def NamesBias (s : Runtime F D) : Option Nat → Option TensorId → Prop
  | none, none => True
  | some handle, some id => s.objectOf handle .tensor = some id
  | _, _ => False

omit [Scalar F] [Scalar D] [Precision F D] [FloatBits F] in
theorem NamesBias.names {s s' : Runtime F D} {handle : Option Nat} {id : Option TensorId}
    (h : NamesBias s handle id) (hnames : Names s s') : NamesBias s' handle id := by
  cases handle <;> cases id
  case some.some => exact hnames.objects _ _ _ h
  all_goals exact h

theorem keeps_readBias (ok : s.Ok) {module object : Nat} {state : LinearState}
    (hstate : s.moduleAt module = some (object, state)) :
    Keeps (Forwarded D) (readBias module) s fun bias s' =>
      NamesBias s' bias state.bias ∧ s'.heap = s.heap ∧ Names s s' := by
  have c := chained_forwarded (F := F) (D := D)
  have huse := (ok.modules state (List.mem_of_getElem? (Runtime.get_moduleAt hstate))).useBias
  unfold readBias
  refine Keeps.bind c (Q := fun reply s' => s' = s ∧
    reply = .number (if state.useBias then 2 else 1)) ?_ ?_
  · change Keeps (Forwarded D) (do return Reply.number (← moduleParameterCount module)) s _
    unfold moduleParameterCount
    rw [bind_assoc]
    refine Keeps.bind c (keeps_lookupModule c ok module) ?_
    rintro ⟨object', state'⟩ s₁ ok₁ - ⟨rfl, hstate'⟩
    obtain ⟨rfl, rfl⟩ := Prod.mk.inj (Option.some.inj (hstate'.symm.trans hstate))
    exact keeps_pure c ok₁ ⟨rfl, rfl⟩
  rintro _ s₁ ok₁ - ⟨rfl, rfl⟩
  cases hbias : state.bias with
  | none =>
      rw [hbias] at huse
      simp only [huse]
      exact keeps_pure c ok₁ ⟨trivial, rfl, Names.refl s₁⟩
  | some id =>
      rw [hbias] at huse
      simp only [huse]
      refine Keeps.bind c (keeps_handleOf c (Q := fun handle s' =>
        s'.objectOf handle .tensor = some id ∧ s'.heap = s₁.heap ∧ Names s₁ s')
        (Keeps.mono (keeps_parameterAt ok₁ module 1) ?_)) ?_
      · rintro _ s' ⟨handle, rfl, object', state', id', hstate', hid', hrest⟩
        obtain ⟨rfl, rfl⟩ := Prod.mk.inj (Option.some.inj (hstate'.symm.trans hstate))
        obtain rfl : id = id' := Option.some.inj (hbias.symm.trans hid')
        exact ⟨handle, rfl, hrest⟩
      · exact fun handle s' ok' _ h => keeps_pure c ok' h

def ViewsBias (s : Runtime F D) (outFeatures : Nat) : Option Nat → Option (List F) → Prop
  | none, none => True
  | some handle, some values => Views s handle ([outFeatures], values)
  | _, _ => False

/-- The weight a caller reads has a row for each input feature, and what the module computes is the
product with it, plus the bias. -/
def Inspection.AsExported (i : Inspection) (state : LinearState) (s : Runtime F D) : Prop :=
  ∃ rows weight product bias,
    Views s i.weight ([state.inFeatures, state.outFeatures], weight) ∧
    Views s i.product ([rows, state.outFeatures], product) ∧
    i.bias.isSome = state.useBias ∧ ViewsBias s state.outFeatures i.bias bias ∧
    Views s i.output ([rows, state.outFeatures],
      Bridge.addRows rows state.outFeatures product bias)

omit [FloatBits F] in
theorem LinearProduced.contents {h h' : Heap F} {state : LinearState} {input result : TensorId}
    (p : LinearProduced D h h' state input result) (wf : WellFormed h) (ok : state.Ok h)
    {rows : Nat} (hdims : h.dims input = [rows, state.inFeatures]) :
    (h'.dims result, h'.contents result) = ([rows, state.outFeatures],
      Bridge.addRows rows state.outFeatures (forwardValues D (codeFunctions F D) .matmul
        [h.dims input, h.dims state.weight] [h.contents input, h.contents state.weight])
        (state.bias.map h.contents)) := by
  obtain ⟨middle, hprod, hrest⟩ := p
  have hmiddle : middle.dims h.tensors.length = [rows, state.outFeatures] := by
    rw [hprod.dims_eq, hdims, ok.weight_dims]
    rfl
  cases hbias : state.bias with
  | none =>
      rw [hbias] at hrest
      obtain ⟨rfl, rfl⟩ := hrest
      rw [hmiddle, hprod.value]
      rfl
  | some bias =>
      rw [hbias] at hrest
      obtain ⟨rfl, hprod'⟩ := hrest
      have hv := ok.bias_visible bias hbias
      rw [hprod'.dims_eq, hprod'.value, hmiddle]
      simp only [List.map_cons, List.map_nil, hmiddle]
      rw [hprod.value, hprod.extension.contents wf hv.1]
      rfl

omit [Scalar F] [Scalar D] [Precision F D] [FloatBits F] in
theorem isSome_of_namesBias {handle : Option Nat} {id : Option TensorId}
    (h : NamesBias s handle id) : handle.isSome = id.isSome := by
  cases handle <;> cases id
  case none.none => rfl
  case some.some => rfl
  all_goals exact h.elim

omit [Scalar F] [Scalar D] [Precision F D] [FloatBits F] in
theorem viewsBias_of_namesBias {h : Heap F} {handle : Option Nat} {bias : Option TensorId}
    {outFeatures : Nat} (hnames : NamesBias s handle bias)
    (hkept : ∀ id, bias = some id →
      (s.heap.dims id, s.heap.contents id) = ([outFeatures], h.contents id)) :
    ViewsBias s outFeatures handle (bias.map h.contents) := by
  cases handle <;> cases bias
  case none.none => exact trivial
  case some.some id => exact ⟨id, hnames, hkept id rfl⟩
  all_goals exact hnames.elim

omit [Scalar F] [Scalar D] [Precision F D] [FloatBits F] in
theorem dims_of_accepted {state : LinearState} {dims : List Nat}
    (h : moduleForwardReject state dims = none) : ∃ rows, dims = [rows, state.inFeatures] := by
  unfold moduleForwardReject at h
  split at h
  · split at h
    · cases h
    · rename_i rows features hne
      exact ⟨rows, by rw [not_not.mp hne]⟩
  · cases h

theorem inspect_asExported (hs : Reachable s) {module input : Nat} {i : Inspection}
    {s' : Runtime F D} (h : inspect module input s = .ok i s') :
    ∃ object state, s.moduleAt module = some (object, state) ∧ i.AsExported state s' := by
  have c := chained_forwarded (F := F) (D := D)
  refine (wp_of_ok (?_ : Keeps (Forwarded D) (inspect module input) s fun i s' =>
    ∃ object state, s.moduleAt module = some (object, state) ∧ i.AsExported state s') h).2.2
  unfold inspect
  refine Keeps.bind c (keeps_handleOf c (keeps_parameterAt hs.ok module 0)) ?_
  rintro p s₁ ok₁ - ⟨object, state, id, hstate, ⟨⟩, hp, hheap₁, hnames₁⟩
  refine Keeps.bind c (keeps_readBias ok₁ (hnames₁.moduleAt hstate)) ?_
  rintro b s₂ ok₂ - ⟨hb, hheap₂, hnames₂⟩
  have hnames := hnames₁.trans hnames₂
  refine Keeps.bind c (keeps_handleOf c (keeps_forward ok₂ module input)) ?_
  rintro y s₃ ok₃ - ⟨object', state', x, result, hstate', hx, haccept, hlinear, hy, hnames₃⟩
  obtain ⟨rfl, rfl⟩ := Prod.mk.inj (Option.some.inj (hstate'.symm.trans (hnames.moduleAt hstate)))
  refine Keeps.bind c (keeps_handleOf c (keeps_matmul ok₃ input p)) ?_
  rintro z s₄ ok₄ - ⟨l, r, hl, hr, hprod, hz, hnames₄⟩
  obtain rfl : l = x := Option.some.inj (hl.symm.trans (hnames₃.objects _ _ _ hx))
  have hp₃ := (hnames₂.trans hnames₃).objects _ _ _ hp
  obtain rfl : r = state'.weight := Option.some.inj (hr.symm.trans hp₃)
  refine keeps_pure c ok₄ ⟨object', state', hstate, ?_⟩
  have hok := ok₂.modules state'
    (List.mem_of_getElem? (Runtime.get_moduleAt (hnames.moduleAt hstate)))
  have hvl := ok₂.visible hx
  have hvw := hok.weight_visible
  obtain ⟨rows, hrows⟩ := dims_of_accepted haccept
  obtain ⟨hforwarded, hvy⟩ := hlinear.forwarded ok₂.wellFormed
  have e := hforwarded.extension
  have e' := e.trans hprod.extension
  have hview := LinearProduced.contents hlinear ok₂.wellFormed hok hrows
  have hkept : ∀ id, s₂.heap.Visible id → s₄.heap.dims id = s₂.heap.dims id ∧
      s₄.heap.contents id = s₂.heap.contents id :=
    fun id hv => ⟨e'.dims hv.1, e'.contents ok₂.wellFormed hv.1⟩
  have hproduct : s₄.heap.contents s₃.heap.tensors.length = forwardValues D (codeFunctions F D)
      .matmul [s₂.heap.dims l, s₂.heap.dims state'.weight]
      [s₂.heap.contents l, s₂.heap.contents state'.weight] := by
    rw [hprod.value]
    simp only [List.map_cons, List.map_nil, e.dims hvl.1, e.dims hvw.1,
      e.contents ok₂.wellFormed hvl.1, e.contents ok₂.wellFormed hvw.1]
  refine ⟨rows, s₂.heap.contents state'.weight, s₄.heap.contents s₃.heap.tensors.length,
    state'.bias.map s₂.heap.contents, ?_, ?_, ?_, ?_, ?_⟩
  · refine ⟨_, hnames₄.objects _ _ _ hp₃, ?_⟩
    rw [(hkept _ hvw).1, (hkept _ hvw).2, hok.weight_dims]
  · refine ⟨_, hz, ?_⟩
    rw [hprod.dims_eq, e.dims hvl.1, e.dims hvw.1, hrows, hok.weight_dims]
    rfl
  · rw [hok.useBias]
    exact isSome_of_namesBias hb
  · exact viewsBias_of_namesBias (hb.names (hnames₃.trans hnames₄)) fun id hid => by
      rw [(hkept id (hok.bias_visible id hid)).1, (hkept id (hok.bias_visible id hid)).2,
        hok.bias_dims id hid]
  · refine ⟨_, hnames₄.objects _ _ _ hy, ?_⟩
    rw [hprod.extension.dims hvy.1, hprod.extension.contents ok₃.wellFormed hvy.1, hview, hproduct]

/-- In the core build a Linear layer computes what its exported parameters say. The LibTorch build
stores the weight the other way round, so there a layer does when it has as many outputs as inputs
and a weight that is its own transpose, and, where the arithmetic is exact, only then. -/
theorem forward_as_exported_iff :
    (∀ (s : Runtime F D), Reachable s → ∀ module input i s', inspect module input s = .ok i s' →
      ∃ object state, s.moduleAt module = some (object, state) ∧ i.AsExported state s') ∧
    ∀ (lib : LibTorch F) (contents : Bridge.Contents lib) (state : lib.State)
      (layer : Bridge.TorchLinear lib) (weight : List F) (bias : Option (List F))
      (device : TorchDevice), contents.Documented True →
        layer.Ok contents state weight bias device →
      (layer.inFeatures = layer.outFeatures ∧
          transposeData layer.outFeatures layer.inFeatures weight = weight →
        layer.AsExported D contents state device) ∧
      (contents.Documented False → contents.Exact bias →
        layer.AsExported D contents state device →
          layer.inFeatures = layer.outFeatures ∧
            transposeData layer.outFeatures layer.inFeatures weight = weight) := by
  refine ⟨fun s hs module input i s' hrun => inspect_asExported hs hrun, ?_⟩
  intro lib contents state layer weight bias device doc hlayer
  refine ⟨fun ⟨hsquare, hself⟩ => ?_, fun doc' hexact hexported => ?_⟩
  · exact Bridge.asExported_of_symmetric D doc hlayer hsquare hself
  · exact Bridge.symmetric_of_asExported D doc' hexact hlayer hexported

end Api

namespace Bridge
open Training

def squareLayer : TorchLinear (sampleMatrices ℚ) := ⟨2, 2, (0 : Nat), none⟩

def squareWeight (a b c d : ℚ) : List (SampleMatrix ℚ) := [⟨[2, 2], [a, b, c, d], rfl, ⟨.cpu, -1⟩⟩]

theorem squareLayer_ok (a b c d : ℚ) :
    squareLayer.Ok (sampleContents ℚ) (squareWeight a b c d) [a, b, c, d] none ⟨.cpu, -1⟩ where
  weight := is_of (m := ⟨[2, 2], [a, b, c, d], rfl, ⟨.cpu, -1⟩⟩) rfl
  bias := trivial
  valid := ⟨by decide, by decide, by decide⟩
  placed := ⟨_, rfl⟩

/-- `x * transpose(weight)` is not `x * weight`. -/
theorem forward_not_as_exported_square :
    ¬squareLayer.AsExported ℚ (sampleContents ℚ) (squareWeight 1 2 3 4) ⟨.cpu, -1⟩ := by
  intro hexported
  obtain ⟨-, hself⟩ := symmetric_of_asExported ℚ sampleContents_documented
    (sampleContents_exact ℚ none) (squareLayer_ok 1 2 3 4) hexported
  revert hself
  decide +kernel

def layerCalls : List (Api.Call ℚ ℚ) := [.linearCreate 2 1 true, .tensorFromF32 [3, 4] [1, 2],
  .moduleParameterAt 1 0, .moduleParameterAt 1 1, .tensorFromF32 [5, 6] [2, 1],
  .tensorFromF32 [7] [1], .tensorAssignMany (some [3, 4]) (some [5, 6]) 2]

def inspects (s : Runtime ℚ ℚ) : Bool :=
  match Api.inspect 1 2 s with
  | .ok _ _ => true
  | .error _ _ => false

theorem forward_as_exported_iff_square :
    ((rationalRun layerCalls).heap.contents 0 = [5, 6] ∧
      (rationalRun layerCalls).heap.contents 1 = [7] ∧
      ∃ i s' state, Api.inspect 1 2 (rationalRun layerCalls) = .ok i s' ∧
        Api.Inspection.AsExported i state s') ∧
    squareLayer.AsExported ℚ (sampleContents ℚ) (squareWeight 1 2 2 1) ⟨.cpu, -1⟩ := by
  obtain ⟨hcore, hlibtorch⟩ := Api.forward_as_exported_iff (F := ℚ) (D := ℚ)
  refine ⟨⟨by decide +kernel, by decide +kernel, ?_⟩, ?_⟩
  · have hs : Api.Reachable (rationalRun layerCalls) := ⟨_, _, _, rfl⟩
    have hinspects : inspects (rationalRun layerCalls) = true := by decide +kernel
    generalize rationalRun layerCalls = s at *
    unfold inspects at hinspects
    split at hinspects
    · rename_i i s' hrun
      obtain ⟨object, state, -, hexported⟩ := hcore s hs 1 2 i s' hrun
      exact ⟨i, s', state, hrun, hexported⟩
    · cases hinspects
  · refine (hlibtorch _ _ _ squareLayer _ _ _ (sampleContents_documented.mono False.elim)
      (squareLayer_ok 1 2 2 1)).1 ⟨rfl, ?_⟩
    decide +kernel

end Bridge
end Tensora
