import Tensora.Api.Sample
import Tensora.Dart.TensorStore

/-! Programs over tensors, against the same requests on values. -/
namespace Tensora.Dart
open ProgramLogic Training
open Adoption (Handle Thrown DartDevice Host HostM Wrapper onNative attempt)
open Api (Views applied)

variable {F D α : Type}

def Store.live (store : Store F) (tensor : Nat) : Option (List Nat × List F) := store[tensor]?.join

theorem Store.live_eq {store : Store F} {tensor : Nat} {value : List Nat × List F}
    (h : store[tensor]? = some (some value)) : store.live tensor = some value := by
  rw [Store.live, h]
  rfl

variable [Scalar F] [Scalar D] [Precision F D] [FloatBits F]

section Methods
variable {held : HandleType → List Handle} {store : Store F} {loose : List Handle}
  {s : Host (Process F D)} {handle : Handle}

def Makes (held : HandleType → List Handle) (store : Store F) (P : List Nat × List F → Prop)
    (tensor : Nat) (s' : Host (Process F D)) : Prop :=
  ∃ value, P value ∧ tensor = store.length ∧ Represents held (store ++ [some value]) [] s'

omit [Scalar F] [Scalar D] [Precision F D] [FloatBits F] in
theorem Represents.wp_onNative_make {x : DartM F D Handle} {P : List Nat × List F → Prop}
    (r : Represents held store loose s) (h : MakesTensor x P s.native) :
    wp (onNative x) (fun handle s' => Represents held store (handle :: loose) s' ∧
        ∃ value, Views s'.native.runtime handle value ∧ P value)
      (fun _ => Represents held store loose) s := by
  rw [wp_onNative_iff]
  exact wp_mono h (fun _ _ hgave => ⟨r.gave hgave, hgave.views⟩) fun _ _ hidle => r.idle hidle

theorem Represents.wp_makeAndAdopt {x : DartM F D Handle} {P : List Nat × List F → Prop}
    (r : Represents held store [] s) (h : MakesTensor x P s.native) :
    wp (do runtime.adopt (← onNative x)) (Makes held store P)
      (fun _ => Represents held store []) s := by
  refine wp_seq (r.wp_onNative_make h) (fun _ _ h' => h') fun handle s₁ h₁ => ?_
  obtain ⟨r₁, value, hviews, hP⟩ := h₁
  exact wp_mono (r₁.wp_adopt hviews) (fun _ _ h' => ⟨value, hP, h'⟩) fun _ _ h' => h'

theorem Represents.wp_ofOne {operation : String} {method : Handle → DartM F D Handle}
    {P : List Nat × List F → List Nat × List F → Prop} (r : Represents held store [] s)
    (tensor : Nat)
    (hmethod : ∀ {p : Process F D} {handle value}, p.runtime.Ok → Views p.runtime handle value →
      MakesTensor (method handle) (P value) p) :
    wp (DartTensor.ofOne operation method tensor)
      (fun made s' => ∃ value, store.live tensor = some value ∧ Makes held store (P value) made s')
      (fun _ => Represents held store []) s := by
  unfold DartTensor.ofOne
  refine wp_seq (r.wp_ensureLive operation tensor) (fun _ _ h => h ▸ r) fun wrapper s₁ h₁ => ?_
  obtain ⟨rfl, value, hstore, hviews, -⟩ := h₁
  refine wp_mono (r.wp_makeAndAdopt (hmethod r.ok hviews)) ?_ fun _ _ h => h
  exact fun _ _ h => ⟨value, Store.live_eq hstore, h⟩

theorem Represents.wp_ofTwo {operation : String} {method : Handle → Handle → DartM F D Handle}
    {P : List Nat × List F → List Nat × List F → List Nat × List F → Prop}
    (r : Represents held store [] s) (tensor other : Nat)
    (hmethod : ∀ {p : Process F D} {left right value value'}, p.runtime.Ok →
      Views p.runtime left value → Views p.runtime right value' →
      MakesTensor (method left right) (P value value') p) :
    wp (DartTensor.ofTwo operation method tensor other)
      (fun made s' => ∃ value value', store.live tensor = some value ∧
        store.live other = some value' ∧ Makes held store (P value value') made s')
      (fun _ => Represents held store []) s := by
  unfold DartTensor.ofTwo
  refine wp_seq (r.wp_ensureLive operation tensor) (fun _ _ h => h ▸ r) fun left s₁ h₁ => ?_
  obtain ⟨rfl, value, hstore, hviews, -⟩ := h₁
  refine wp_seq (r.wp_ensureLive operation other) (fun _ _ h => h ▸ r) fun right s₂ h₂ => ?_
  obtain ⟨rfl, value', hstore', hviews', -⟩ := h₂
  refine wp_mono (r.wp_makeAndAdopt (hmethod r.ok hviews hviews')) ?_ fun _ _ h => h
  exact fun _ _ h => ⟨value, value', Store.live_eq hstore, Store.live_eq hstore', h⟩

theorem Represents.wp_ofHandles {method : Handle → Handle → DartM F D Handle}
    {P : List Nat × List F → List Nat × List F → List Nat × List F → Prop}
    (r : Represents held store [] s) (left right : Nat)
    (hmethod : ∀ {p : Process F D} {left right value value'}, p.runtime.Ok →
      Views p.runtime left value → Views p.runtime right value' →
      MakesTensor (method left right) (P value value') p) :
    wp (Losses.ofHandles method left right)
      (fun made s' => ∃ value value', store.live left = some value ∧
        store.live right = some value' ∧ Makes held store (P value value') made s')
      (fun _ => Represents held store []) s := by
  unfold Losses.ofHandles DartTensor.nativeHandle
  rw [wp_bind]
  refine wp_seq (r.wp_ensureLive "nativeHandle" left) (fun _ _ h => h ▸ r) fun wrapper s₁ h₁ => ?_
  obtain ⟨rfl, value, hstore, hviews, -⟩ := h₁
  rw [wp_pure, wp_bind]
  refine wp_seq (r.wp_ensureLive "nativeHandle" right) (fun _ _ h => h ▸ r) fun wrapper' s₂ h₂ => ?_
  obtain ⟨rfl, value', hstore', hviews', -⟩ := h₂
  rw [wp_pure]
  refine wp_mono (r.wp_makeAndAdopt (hmethod r.ok hviews hviews')) ?_ fun _ _ h => h
  exact fun _ _ h => ⟨value, value', Store.live_eq hstore, Store.live_eq hstore', h⟩

theorem wp_tryFinally {σ : Type} {x : HostM σ α} {y : HostM σ Unit} {Q P : α → Host σ → Prop}
    {E R : Thrown → Host σ → Prop} {s : Host σ} (hx : wp x P R s)
    (hok : ∀ a s', P a s' → wp y (fun _ => Q a) E s')
    (herror : ∀ thrown s', R thrown s' → wp y (fun _ => E thrown) E s') :
    wp (tryFinally x y) Q E s := by
  unfold tryFinally
  refine wp_seq (Adoption.wp_attempt hx) (fun _ _ h => h.elim) fun outcome s₁ h₁ => ?_
  cases outcome with
  | ok a => exact wp_seq (hok a s₁ h₁) (fun _ _ h => h) fun _ _ h => h
  | error thrown => exact wp_seq (herror thrown s₁ h₁) (fun _ _ h => h) fun _ _ h => h

theorem Represents.wp_adoptCreatedHandle (r : Represents held store [handle] s)
    {value : List Nat × List F} (hviews : Views s.native.runtime handle value)
    (target : DartDevice) :
    wp (DartTensor.adoptCreatedHandle handle target) (Makes held store (· = value))
      (fun _ => Represents held store []) s := by
  unfold DartTensor.adoptCreatedHandle
  split
  · exact wp_mono (r.wp_adopt hviews) (fun _ _ h => ⟨value, rfl, h⟩) fun _ _ h => h
  · have hmade : MakesTensor (NativeRuntime.toDevice target handle)
        (· = applied D .identity [value]) s.native :=
      makesTensor_applies _ _ _ r.ok rfl (.cons hviews .nil)
    refine wp_tryFinally (P := fun made s' => made = store.length ∧
      Represents held (store ++ [some value]) [handle] s')
      (R := fun _ => Represents held store [handle]) ?_ ?_ ?_
    · refine wp_seq (r.wp_onNative_make hmade) (fun _ _ h => h) fun made s₁ h₁ => ?_
      obtain ⟨r₁, _, hviews₁, rfl⟩ := h₁
      exact r₁.wp_adopt hviews₁
    · intro made s₁ h₁
      refine wp_mono (Represents.wp_release s₁.tensors h₁.2) ?_ fun _ _ h => h.elim
      exact fun _ _ h => ⟨value, rfl, h₁.1, h.2.of_eq h.1 rfl⟩
    · intro thrown s₁ r₁
      refine wp_mono (Represents.wp_release s₁.tensors r₁) ?_ fun _ _ h => h.elim
      exact fun _ _ h => h.2.of_eq h.1 rfl

theorem Represents.wp_create {x : DartM F D Handle} {value : List Nat × List F}
    (r : Represents held store [] s) (h : MakesTensor x (· = value) s.native)
    (device : DartDevice) :
    wp (do DartTensor.adoptCreatedHandle (← onNative x) device) (Makes held store (· = value))
      (fun _ => Represents held store []) s := by
  refine wp_seq (r.wp_onNative_make h) (fun _ _ h' => h') fun handle s₁ h₁ => ?_
  obtain ⟨r₁, _, hviews, rfl⟩ := h₁
  exact r₁.wp_adoptCreatedHandle hviews device

end Methods

/-- The dimensions of a `Shape`. -/
def sizes (shape : DartShape) : List Nat := shape.dimensions.map fun d => d.toInt.toNat

def filled (shape : DartShape) (value : D) : List Nat × List F :=
  (sizes shape, List.replicate (sizes shape).prod (Precision.narrow value))

variable (D) in
def Store.apply (store : Store F) (operation : Operation) (tensors : List Nat) :
    Option (List Nat × List F) :=
  (tensors.mapM store.live).map (applied D operation)

def denote (store : Store F) : Request D → Option (List Nat × List F)
  | .fromList values shape _ _ => some (sizes shape, values.map Precision.narrow)
  | .full shape value _ _ => some (filled shape value)
  | .zeros shape _ _ => some (filled shape (0 : D))
  | .ones shape _ _ => some (filled shape (1 : D))
  | .toDevice tensor _ => store.live tensor
  | .withRequiresGrad tensor _ => store.live tensor
  | .reshape tensor newShape => (store.live tensor).map fun value => (sizes newShape, value.2)
  | .transpose tensor => store.apply D .transpose2D [tensor]
  | .add tensor other => store.apply D .add [tensor, other]
  | .multiply tensor other => store.apply D .multiply [tensor, other]
  | .sum tensor => store.apply D .sum [tensor]
  | .matmul tensor other => store.apply D .matmul [tensor, other]
  | .relu tensor => store.apply D .relu [tensor]
  | .sigmoid tensor => store.apply D .sigmoid [tensor]
  | .tanh tensor => store.apply D .tanh [tensor]
  | .gelu tensor => store.apply D .gelu [tensor]
  | .silu tensor => store.apply D .silu [tensor]
  | .swiglu tensor => store.apply D .swiGlu [tensor]
  | .mse prediction target => store.apply D .mse [prediction, target]
  | .crossEntropy logits oneHotTarget => store.apply D .crossEntropy [logits, oneHotTarget]
  | .requiresGrad _ | .backward _ | .grad _ | .toList _ | .dispose _ => none

/-- What a request may return, and the tensors after it. Of gradients only the dimensions are
said, and nothing of what requires them. -/
def Allowed (store : Store F) : Request D → Answer D → Store F → Prop
  | .requiresGrad tensor, answer, store' =>
      (store.live tensor).isSome ∧ (∃ flag, answer = .flag flag) ∧ store' = store
  | .backward tensor, answer, store' =>
      (store.live tensor).isSome ∧ answer = .done ∧ store' = store
  | .grad tensor, answer, store' => ∃ value gradient, store.live tensor = some value ∧
      gradient.1 = value.1 ∧ answer = .tensor store.length ∧ store' = store ++ [some gradient]
  | .toList tensor, answer, store' => ∃ value, store.live tensor = some value ∧
      answer = .values (value.2.map Precision.widen) ∧ store' = store
  | .dispose tensor, answer, store' =>
      tensor < store.length ∧ answer = .done ∧ store' = store.set tensor none
  | request, answer, store' => ∃ value, denote store request = some value ∧
      answer = .tensor store.length ∧ store' = store ++ [some value]

omit [FloatBits F] in
theorem Allowed.length_le {store store' : Store F} {request : Request D} {answer : Answer D}
    (h : Allowed store request answer store') : store.length ≤ store'.length := by
  cases request with
  | requiresGrad tensor | backward tensor => exact h.2.2 ▸ Nat.le_refl _
  | grad tensor =>
      obtain ⟨value, gradient, -, -, -, rfl⟩ := h
      simp
  | toList tensor =>
      obtain ⟨value, -, -, rfl⟩ := h
      exact Nat.le_refl _
  | dispose tensor => rw [h.2.2, List.length_set]
  | _ =>
      obtain ⟨value, -, -, rfl⟩ := h
      simp

/-- One request on values. One that throws changes nothing, and disposing does not throw. -/
def Steps (store : Store F) (request : Request D) : Option (Answer D) → Store F → Prop
  | some answer, store' => Allowed store request answer store'
  | none, store' => store' = store ∧ ∀ tensor < store.length, request ≠ .dispose tensor

inductive Runs : Store F → List (Request D) → List (Option (Answer D)) → Store F → Prop
  | nil (store : Store F) : Runs store [] [] store
  | cons {store store₁ store₂ : Store F} {request : Request D} {requests : List (Request D)}
      {answer : Option (Answer D)} {answers : List (Option (Answer D))} :
      Steps store request answer store₁ → Runs store₁ requests answers store₂ →
      Runs store (request :: requests) (answer :: answers) store₂

section Requests
variable {held : HandleType → List Handle} {store : Store F} {s : Host (Process F D)}
  {request : Request D} {x : TensorM F D Nat}

def Served (held : HandleType → List Handle) (store : Store F) (request : Request D)
    (answer : Answer D) (s' : Host (Process F D)) : Prop :=
  ∃ store', Allowed store request answer store' ∧ Represents held store' [] s'

def Refused (held : HandleType → List Handle) (store : Store F) (request : Request D) (_ : Thrown)
    (s' : Host (Process F D)) : Prop :=
  Represents held store [] s' ∧ ∀ tensor < store.length, request ≠ .dispose tensor

omit [FloatBits F] in
theorem wp_served {P : List Nat × List F → Prop}
    (h : wp x (Makes held store P) (fun _ => Represents held store []) s)
    (hallowed : ∀ value, P value →
      Allowed store request (.tensor store.length) (store ++ [some value]))
    (hother : ∀ tensor, request ≠ .dispose tensor) :
    wp (do return .tensor (← x)) (Served held store request) (Refused held store request) s := by
  refine wp_seq h (fun _ _ r => ⟨r, fun tensor _ => hother tensor⟩) fun made s' hmade => ?_
  obtain ⟨value, hP, rfl, r⟩ := hmade
  exact ⟨_, hallowed value hP, r⟩

omit [FloatBits F] in
theorem wp_served_one {P : List Nat × List F → List Nat × List F → Prop} {tensor : Nat}
    (h : wp x (fun made s' => ∃ value, store.live tensor = some value ∧
      Makes held store (P value) made s') (fun _ => Represents held store []) s)
    (hallowed : ∀ value result, store.live tensor = some value → P value result →
      Allowed store request (.tensor store.length) (store ++ [some result]))
    (hother : ∀ tensor, request ≠ .dispose tensor) :
    wp (do return .tensor (← x)) (Served held store request) (Refused held store request) s := by
  refine wp_served (P := fun result => ∃ value, store.live tensor = some value ∧ P value result)
    (wp_mono h ?_ fun _ _ r => r) ?_ hother
  · intro made s' hmade
    obtain ⟨value, hlive, result, hP, hmade⟩ := hmade
    exact ⟨result, ⟨value, hlive, hP⟩, hmade⟩
  · intro result hresult
    obtain ⟨value, hlive, hP⟩ := hresult
    exact hallowed value result hlive hP

omit [FloatBits F] in
theorem wp_served_two {operation : Operation} {left right : Nat}
    (h : wp x (fun made s' => ∃ value value', store.live left = some value ∧
      store.live right = some value' ∧
      Makes held store (· = applied D operation [value, value']) made s')
      (fun _ => Represents held store []) s)
    (hallowed : ∀ value, store.apply D operation [left, right] = some value →
      Allowed store request (.tensor store.length) (store ++ [some value]))
    (hother : ∀ tensor, request ≠ .dispose tensor) :
    wp (do return .tensor (← x)) (Served held store request) (Refused held store request) s := by
  refine wp_served (P := fun result => store.apply D operation [left, right] = some result)
    (wp_mono h ?_ fun _ _ r => r) hallowed hother
  intro made s' hmade
  obtain ⟨value, value', hleft, hright, result, rfl, hmade⟩ := hmade
  refine ⟨_, ?_, hmade⟩
  simp [Store.apply, hleft, hright]

omit [FloatBits F] in
theorem apply_one {operation : Operation} {tensor : Nat} {value : List Nat × List F}
    (h : store.live tensor = some value) :
    store.apply D operation [tensor] = some (applied D operation [value]) := by
  simp [Store.apply, h]

omit [Scalar F] [Scalar D] [Precision F D] [FloatBits F] in
theorem wp_validateCreation (dtype : Adoption.DType) (operation : String) :
    wp (DartTensor.validateCreation dtype operation : TensorM F D Unit) (fun _ s' => s' = s)
      (fun _ s' => s' = s) s := by
  unfold DartTensor.validateCreation
  exact wp_ite (fun _ => (wp_throw _ _ _ _).mpr rfl) fun _ => rfl

theorem Represents.wp_full (r : Represents held store [] s) (shape : DartShape) (value : D)
    (dtype : Adoption.DType) (device : DartDevice) :
    wp (DartTensor.full shape value dtype device) (Makes held store (· = filled shape value))
      (fun _ => Represents held store []) s := by
  unfold DartTensor.full
  refine wp_seq (wp_validateCreation dtype "full") (fun _ _ h => h ▸ r) fun _ s₁ h => ?_
  subst h
  exact r.wp_create (NativeRuntime.makesTensor_full r.ok shape value) device

theorem Represents.wp_fromList (r : Represents held store [] s) (values : List D)
    (shape : DartShape) (dtype : Adoption.DType) (device : DartDevice) :
    wp (DartTensor.fromList values shape dtype device)
      (Makes held store (· = (sizes shape, values.map Precision.narrow)))
      (fun _ => Represents held store []) s := by
  unfold DartTensor.fromList
  refine wp_seq (wp_validateCreation dtype "fromList") (fun _ _ h => h ▸ r) fun _ s₁ h => ?_
  subst h
  refine wp_ite (fun _ => (wp_throw _ _ _ _).mpr r) fun _ => ?_
  exact r.wp_create (NativeRuntime.makesTensor_createFromList r.ok values shape) device

theorem idle_check {p : Process F D} (ok : p.runtime.Ok) (operation abi : String)
    {call : Api.Call F D} (hissues : call.issues = none) (hcounts : call.counts = false)
    (htargets : call.targets p.runtime = []) :
    wp (check operation abi (Api.exec call)) (fun _ p' => Api.Idle p.runtime p'.runtime)
      (fun _ p' => Api.Idle p.runtime p'.runtime) p := by
  refine wp_check operation abi (wp_mono (Api.wp_exec_idle ok hissues hcounts htargets) ?_ ?_)
  · exact fun _ _ h => h
  · exact fun _ _ h _ => h

omit [Scalar F] [Scalar D] [Precision F D] [FloatBits F] in
theorem Represents.wp_ofLive (r : Represents held store [] s) (operation : String) (tensor : Nat)
    {α : Type} {method : Handle → DartM F D α}
    (hmethod : ∀ handle, wp (method handle) (fun _ p => Api.Idle s.native.runtime p.runtime)
      (fun _ p => Api.Idle s.native.runtime p.runtime) s.native) :
    wp (do
        let wrapper ← DartTensor.ensureLive operation tensor
        onNative (method wrapper.handle))
      (fun _ s' => (store.live tensor).isSome ∧ Represents held store [] s')
      (fun _ => Represents held store []) s := by
  refine wp_seq (r.wp_ensureLive operation tensor) (fun _ _ h => h ▸ r) fun wrapper s₁ h => ?_
  obtain ⟨rfl, value, hstore, -, -⟩ := h
  rw [wp_onNative_iff]
  refine wp_mono (hmethod wrapper.handle) (fun _ _ h => ⟨?_, r.idle h⟩) fun _ _ h => r.idle h
  rw [Store.live_eq hstore]
  rfl

theorem Represents.wp_requiresGrad (r : Represents held store [] s) (tensor : Nat) :
    wp (DartTensor.requiresGrad tensor)
      (fun _ s' => (store.live tensor).isSome ∧ Represents held store [] s')
      (fun _ => Represents held store []) s := by
  refine r.wp_ofLive _ tensor fun handle => ?_
  unfold NativeTrainingRuntime.requiresGrad
  rw [wp_bind]
  refine wp_calloc (fun p hp => ?_) fun _ p hp => by rw [hp]; exact ⟨rfl, Preserves.refl r.ok⟩
  have ok : p.runtime.Ok := by rw [hp]; exact r.ok
  rw [← hp]
  exact wp_seq (idle_check ok _ _ rfl rfl rfl) (fun _ _ h => h) fun _ _ h => h

theorem Represents.wp_backward (r : Represents held store [] s) (tensor : Nat) :
    wp (DartTensor.backward tensor)
      (fun _ s' => (store.live tensor).isSome ∧ Represents held store [] s')
      (fun _ => Represents held store []) s := by
  have hidle : ∀ handle, wp (NativeTrainingRuntime.backward handle : DartM F D (Api.Reply F))
      (fun _ p => Api.Idle s.native.runtime p.runtime)
      (fun _ p => Api.Idle s.native.runtime p.runtime) s.native :=
    fun handle => idle_check r.ok _ _ rfl rfl rfl
  have hlive := r.wp_ofLive "backward" tensor hidle
  rw [wp_bind] at hlive
  unfold DartTensor.backward
  rw [wp_bind]
  refine wp_mono hlive (fun wrapper s₁ h => ?_) fun _ _ h => h
  exact wp_seq h (fun _ _ h => h) fun _ _ h => h

theorem Represents.wp_toList (r : Represents held store [] s) (tensor : Nat) :
    wp (DartTensor.toList tensor)
      (fun values s' => ∃ value, store.live tensor = some value ∧
        values = value.2.map Precision.widen ∧ Represents held store [] s')
      (fun _ => Represents held store []) s := by
  unfold DartTensor.toList
  refine wp_seq (r.wp_ensureLive _ tensor) (fun _ _ h => h ▸ r) fun wrapper s₁ h => ?_
  obtain ⟨rfl, value, hstore, hviews, hnumel⟩ := h
  rw [hnumel, wp_onNative_iff]
  refine wp_mono (reads_copyToHost r.ok hviews) ?_ fun _ _ h => r.of_eq rfl h
  exact fun _ _ h => ⟨value, Store.live_eq hstore, h.1, r.of_eq rfl h.2⟩

theorem Represents.wp_perform (r : Represents held store [] s) (request : Request D) :
    wp (perform request) (Served held store request) (Refused held store request) s := by
  cases request with
  | fromList values shape dtype device =>
      refine wp_served (r.wp_fromList values shape dtype device) ?_ fun _ h => by cases h
      exact fun _ hvalue => ⟨_, congrArg some hvalue.symm, rfl, rfl⟩
  | full shape value dtype device =>
      refine wp_served (r.wp_full shape value dtype device) ?_ fun _ h => by cases h
      exact fun _ hvalue => ⟨_, congrArg some hvalue.symm, rfl, rfl⟩
  | zeros shape dtype device =>
      refine wp_served (r.wp_full shape 0 dtype device) ?_ fun _ h => by cases h
      exact fun _ hvalue => ⟨_, congrArg some hvalue.symm, rfl, rfl⟩
  | ones shape dtype device =>
      refine wp_served (r.wp_full shape 1 dtype device) ?_ fun _ h => by cases h
      exact fun _ hvalue => ⟨_, congrArg some hvalue.symm, rfl, rfl⟩
  | toDevice tensor target =>
      refine wp_served_one (r.wp_ofOne tensor fun ok hviews =>
        makesTensor_applies _ _ _ ok rfl (.cons hviews .nil)) ?_ fun _ h => by cases h
      intro value result hlive hresult
      exact ⟨_, hlive.trans (congrArg some hresult.symm), rfl, rfl⟩
  | withRequiresGrad tensor flag =>
      refine wp_served_one (r.wp_ofOne tensor fun ok hviews =>
        NativeTrainingRuntime.makesTensor_withRequiresGrad ok flag hviews) ?_ fun _ h => by cases h
      intro value result hlive hresult
      exact ⟨_, hlive.trans (congrArg some hresult.symm), rfl, rfl⟩
  | reshape tensor newShape =>
      refine wp_served_one (r.wp_ofOne tensor fun ok hviews =>
        NativeRuntime.makesTensor_reshape ok newShape hviews) ?_ fun _ h => by cases h
      intro value result hlive hresult
      refine ⟨result, ?_, rfl, rfl⟩
      rw [denote, hlive, hresult]
      rfl
  | transpose tensor | sum tensor | relu tensor | sigmoid tensor | tanh tensor | gelu tensor
  | silu tensor | swiglu tensor =>
      refine wp_served_one (r.wp_ofOne tensor fun ok hviews =>
        makesTensor_applies _ _ _ ok rfl (.cons hviews .nil)) ?_ fun _ h => by cases h
      intro value result hlive hresult
      exact ⟨result, (apply_one hlive).trans (congrArg some hresult.symm), rfl, rfl⟩
  | add tensor other | multiply tensor other | matmul tensor other =>
      refine wp_served_two (r.wp_ofTwo tensor other fun ok hl hr =>
        makesTensor_applies _ _ _ ok rfl (.cons hl (.cons hr .nil))) ?_ fun _ h => by cases h
      exact fun value h => ⟨value, h, rfl, rfl⟩
  | mse left right | crossEntropy left right =>
      refine wp_served_two (r.wp_ofHandles left right fun ok hl hr =>
        makesTensor_applies _ _ _ ok rfl (.cons hl (.cons hr .nil))) ?_ fun _ h => by cases h
      exact fun value h => ⟨value, h, rfl, rfl⟩
  | grad tensor =>
      refine wp_served_one (r.wp_ofOne tensor fun ok hviews =>
        NativeTrainingRuntime.makesTensor_grad ok hviews) ?_ fun _ h => by cases h
      exact fun value gradient hlive hdims => ⟨value, gradient, hlive, hdims, rfl, rfl⟩
  | requiresGrad tensor =>
      refine wp_seq (r.wp_requiresGrad tensor) (fun _ _ h => ⟨h, fun _ _ h => by cases h⟩) ?_
      exact fun flag s' h => ⟨store, ⟨h.1, ⟨flag, rfl⟩, rfl⟩, h.2⟩
  | backward tensor =>
      refine wp_seq (r.wp_backward tensor) (fun _ _ h => ⟨h, fun _ _ h => by cases h⟩) ?_
      exact fun _ s' h => ⟨store, ⟨h.1, rfl, rfl⟩, h.2⟩
  | toList tensor =>
      refine wp_seq (r.wp_toList tensor) (fun _ _ h => ⟨h, fun _ _ h => by cases h⟩) ?_
      intro values s' h
      obtain ⟨value, hlive, rfl, r'⟩ := h
      exact ⟨store, ⟨value, hlive, rfl, rfl⟩, r'⟩
  | dispose tensor =>
      by_cases htensor : tensor < store.length
      · refine wp_seq (r.wp_dispose htensor) (fun _ _ h => h.elim) fun _ s' h => ?_
        exact ⟨_, ⟨htensor, rfl, rfl⟩, h⟩
      · refine wp_seq (r.wp_dispose_absent htensor) (fun _ _ h => ⟨h, ?_⟩) fun _ _ h => h.elim
        intro tensor' htensor' heq
        cases heq
        exact htensor htensor'

theorem Represents.performed (r : Represents held store [] s) (request : Request D) :
    ∃ store', Steps store request (answer s request) store' ∧
      Represents held store' [] (performed s request) := by
  have h := r.wp_perform request
  unfold wp at h
  unfold answer Dart.performed
  cases hx : perform request s with
  | ok answer s' =>
      rw [hx] at h
      exact h
  | error thrown s' =>
      rw [hx] at h
      exact ⟨store, ⟨rfl, h.2⟩, h.1⟩

theorem Represents.performAll (r : Represents held store [] s) (requests : List (Request D)) :
    ∃ store', Runs store requests (performAll s requests).1 store' ∧
      Represents held store' [] (performAll s requests).2 := by
  induction requests generalizing store s with
  | nil => exact ⟨store, .nil store, r⟩
  | cons request requests ih =>
      obtain ⟨store₁, hstep, r₁⟩ := r.performed request
      obtain ⟨store₂, hruns, r₂⟩ := ih r₁
      exact ⟨store₂, .cons hstep hruns, r₂⟩

omit [Scalar F] [Scalar D] [Precision F D] [FloatBits F] in
theorem length_owned {tensors : List Wrapper} {runtime : Runtime F D}
    (h : List.Forall₂ (Represented runtime) tensors store) :
    (owned tensors).length = store.countP Option.isSome := by
  induction h with
  | nil => rfl
  | @cons wrapper value tensors store hfirst _ ih =>
      cases value with
      | none =>
          have hgone : wrapper.Gone := hfirst
          simpa [owned, hgone.disposed] using ih
      | some value =>
          have hstands : Stands runtime wrapper value := hfirst
          simpa [owned, hstands.owns.live] using ih

omit [Scalar F] [Scalar D] [Precision F D] [FloatBits F] in
/-- The library has one tensor for each object that is not disposed. -/
theorem Represents.count_eq (r : Represents held store [] s) :
    s.native.runtime.registry.count .tensor = store.countP Option.isSome :=
  (r.holds.count_eq r.keys).trans (length_owned r.objects)

end Requests

/-- Whatever allocations fail, in the library or in Dart, a program returns what the same requests
on values return, wherever it does not throw. It leaves the library with one handle for each
tensor object that is not disposed and with no other tensor. -/
theorem tensors_refine_values (fails callocFails : Nat → Bool) (files : FileSystem)
    (requests : List (Request D)) : ∃ store : Store F,
    Runs [] requests (runProgram F fails callocFails files requests).1 store ∧
    Represents (fun _ => []) store [] (runProgram F fails callocFails files requests).2 ∧
    (runProgram F fails callocFails files requests).2.native.runtime.registry.count .tensor =
      store.countP Option.isSome := by
  have hinitial : Represents (fun _ => []) [] []
      (initialHost fails callocFails files : Host (Process F D)) :=
    represents_initial fails callocFails files
  obtain ⟨store, hruns, r⟩ := hinitial.performAll requests
  exact ⟨store, hruns, r, r.count_eq⟩

/-- Two matrices added, the sum transposed and read, and everything disposed. -/
example : (runProgram Word (D := Word) (fun _ => false) (fun _ => false) emptyDisk
    [.fromList [1, 2, 3, 4] ⟨[2, 2], 4⟩ .float32 ⟨.cpu, 0⟩, .ones ⟨[2, 2], 4⟩ .float32 ⟨.cpu, 0⟩,
      .add 0 1, .transpose 2, .dispose 2, .toList 3, .sum 2]).1 =
    [some (.tensor 0), some (.tensor 1), some (.tensor 2), some (.tensor 3), some .done,
      some (.values [2, 4, 3, 5]), none] := by
  decide +kernel

end Tensora.Dart
