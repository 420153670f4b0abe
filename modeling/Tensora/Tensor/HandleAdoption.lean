import Tensora.Lib.ProgramLogic
import Tensora.Tensor.Memory
import Tensora.Tensor.ShapeLimits

/-! The Dart wrappers around native tensor handles: how a list of raw handles is adopted, and what
becomes of every handle when that fails. -/
namespace Tensora.Adoption

open ProgramLogic

variable {σ α : Type}

abbrev Handle := Nat

/-- The exceptions that pass through; what a reading or a native call throws is any of them. -/
inductive Thrown where
  | stateError (message : String)
  | nativeRuntime (message operation : String)
  | rangeError (index : Nat)
  | other (what : String)
  deriving DecidableEq, Repr

inductive DType where
  | float16 | bfloat16 | float32 | float64 | int8 | uint8 | int16 | int32 | int64 | boolean
  deriving DecidableEq, Repr

/-- `Device`, the Dart class. -/
structure DartDevice where
  kind : Device
  index : Int64
  deriving DecidableEq

/-- `NativeRuntime` over native states `σ`: a reading returns or throws anything, and
`tensorRelease` gives what `_check` makes of its status. `attach` registers the finalizer. -/
structure NativeRuntime (σ : Type) where
  shape : Handle → EStateM Thrown σ DartShape
  dtype : Handle → EStateM Thrown σ DType
  device : Handle → EStateM Thrown σ DartDevice
  numel : Handle → EStateM Thrown σ Int64
  attach : Handle → EStateM Thrown σ Unit
  tensorRelease : Handle → σ → Option Thrown × σ

/-- The native calls that give out or give up a reference; `checked` is `release`, without it the
call is `releaseFromFinalizer`. -/
inductive Event where
  | fetched (handle : Handle)
  | released (handle : Handle) (checked : Bool) (failure : Option Thrown)
  deriving DecidableEq

/-- A `Tensor` object. -/
structure Wrapper where
  handle : Handle
  shape : DartShape
  dtype : DType
  device : DartDevice
  disposed : Bool
  attached : Bool

/-- The object when `dispose` has released its handle and detached its finalizer. -/
def Wrapper.detached (wrapper : Wrapper) : Wrapper :=
  { wrapper with handle := 0, disposed := true, attached := false }

structure Host (σ : Type) where
  native : σ
  tensors : List Wrapper
  events : List Event

abbrev HostM (σ : Type) := EStateM Thrown (Host σ)

inductive Capability where
  | nativeTensorAdoptionToken
  | other (object : Nat)
  deriving DecidableEq

def onNative (x : EStateM Thrown σ α) : HostM σ α := fun s =>
  match x s.native with
  | .ok a native => .ok a { s with native := native }
  | .error thrown native => .error thrown { s with native := native }

def attempt (x : HostM σ α) : HostM σ (Except Thrown α) :=
  tryCatch (Except.ok <$> x) fun thrown => return .error thrown

/-- The native reader of `collectModuleTensors`. -/
def getHandle (reader : Nat → EStateM Thrown σ Handle) (index : Nat) : HostM σ Handle := do
  let handle ← onNative (reader index)
  modify fun s => { s with events := s.events ++ [.fetched handle] }
  return handle

namespace NativeRuntime

variable (native : NativeRuntime σ)

def callRelease (handle : Handle) (checked : Bool) : HostM σ (Option Thrown) := fun s =>
  let (failure, after) := native.tensorRelease handle s.native
  .ok failure
    { s with native := after, events := s.events ++ [.released handle checked failure] }

def release (handle : Handle) : HostM σ Unit := do
  match ← native.callRelease handle true with
  | some thrown => throw thrown
  | none => return

def releaseFromFinalizer (handle : Handle) : HostM σ Unit := do
  let _ ← native.callRelease handle false

/-- The constructor `Tensor._`. -/
def createTensor (handle : Handle) (shape : DartShape) (dtype : DType) (device : DartDevice) :
    HostM σ Nat := do
  onNative (native.attach handle)
  let s ← get
  modify fun s =>
    { s with tensors := s.tensors ++ [⟨handle, shape, dtype, device, false, true⟩] }
  return s.tensors.length

/-- `Tensor.dispose`. -/
def dispose (tensor : Nat) : HostM σ Unit := do
  let s ← get
  match s.tensors[tensor]? with
  | none => throw (.rangeError tensor)
  | some wrapper => do
      if wrapper.disposed then return
      native.release wrapper.handle
      modify fun s => { s with tensors := s.tensors.set tensor wrapper.detached }

/-- `Tensor._adopt`. -/
def adopt (handle : Handle) : HostM σ Nat :=
  tryCatch (do
    let shape ← onNative (native.shape handle)
    let dtype ← onNative (native.dtype handle)
    let device ← onNative (native.device handle)
    let nativeNumel ← onNative (native.numel handle)
    if nativeNumel ≠ shape.numel then
      throw (.nativeRuntime ("Native tensor metadata is inconsistent: shape numel "
        ++ toString shape.numel ++ ", reported numel " ++ toString nativeNumel ++ ".")
        "tensor.adopt")
    native.createTensor handle shape dtype device) fun thrown => do
      native.releaseFromFinalizer handle
      throw thrown

def adoptNativeHandleForRuntime (handle : Handle) (capability : Capability) : HostM σ Nat := do
  if capability ≠ .nativeTensorAdoptionToken then
    throw (.stateError "Native tensor adoption capability is invalid.")
  native.adopt handle

/-- The loop of `adoptOnnxOutputHandles`: what it has adopted, and what it threw. -/
def adoptHandles : List Handle → List Nat → HostM σ (List Nat × Option Thrown)
  | [], adopted => return (adopted, none)
  | handle :: rest, adopted => do
      match ← attempt (native.adoptNativeHandleForRuntime handle .nativeTensorAdoptionToken) with
      | .ok tensor => adoptHandles rest (adopted ++ [tensor])
      | .error thrown => return (adopted, some thrown)

/-- `for (var index = start; index < handles.length; index++)`. -/
def releaseFrom (handles : List Handle) (start : Nat) : HostM σ Unit :=
  (List.range' start (handles.length - start)).forM fun index =>
    match handles[index]? with
    | some handle => native.releaseFromFinalizer handle
    | none => throw (.rangeError index)

def adoptOnnxOutputHandles (handles : List Handle) : HostM σ (List Nat) := do
  let (adopted, failure) ← native.adoptHandles handles []
  match failure with
  | none => return adopted
  | some thrown => do
      adopted.forM native.dispose
      native.releaseFrom handles (adopted.length + 1)
      throw thrown

/-- The loop of `collectModuleTensors`, with `count` rounds left. -/
def collectHandles (reader : Nat → EStateM Thrown σ Handle) :
    Nat → Nat → List Nat → HostM σ (List Nat × Option Thrown)
  | 0, _, tensors => return (tensors, none)
  | count + 1, index, tensors => do
      let attempted ← attempt do
        let handle ← getHandle reader index
        native.adoptNativeHandleForRuntime handle .nativeTensorAdoptionToken
      match attempted with
      | .ok tensor => collectHandles reader count (index + 1) (tensors ++ [tensor])
      | .error thrown => return (tensors, some thrown)

def collectModuleTensors (count : Nat) (reader : Nat → EStateM Thrown σ Handle) :
    HostM σ (List Nat) := do
  let (tensors, failure) ← native.collectHandles reader count 0 []
  match failure with
  | none => return tensors
  | some thrown => do
      tensors.forM native.dispose
      throw thrown

end NativeRuntime

/-- A `release` that threw: `dispose` of a tensor did. -/
def Event.disposeFailed : Event → Bool
  | .released _ true (some _) => true
  | _ => false

def Event.releasedHandle : Event → Option Handle
  | .released handle _ _ => some handle
  | .fetched _ => none

def Event.fetchedHandle : Event → Option Handle
  | .fetched handle => some handle
  | .released _ _ _ => none

def released (events : List Event) : List Handle := events.filterMap Event.releasedHandle

def fetched (events : List Event) : List Handle := events.filterMap Event.fetchedHandle

@[simp] theorem released_append (xs ys : List Event) :
    released (xs ++ ys) = released xs ++ released ys :=
  List.filterMap_append

@[simp] theorem fetched_append (xs ys : List Event) :
    fetched (xs ++ ys) = fetched xs ++ fetched ys :=
  List.filterMap_append

/-- No `dispose` among the calls threw. -/
def Disposes (events : List Event) : Prop := ∀ event ∈ events, event.disposeFailed = false

theorem Disposes.append {xs ys : List Event} (h : Disposes (xs ++ ys)) :
    Disposes xs ∧ Disposes ys :=
  List.forall_mem_append.mp h

structure Wrapper.Owns (wrapper : Wrapper) (handle : Handle) : Prop where
  handle : wrapper.handle = handle
  live : wrapper.disposed = false
  attached : wrapper.attached = true

structure Wrapper.Gone (wrapper : Wrapper) : Prop where
  disposed : wrapper.disposed = true
  detached : wrapper.attached = false

variable {native : NativeRuntime σ} {s : Host σ}

def Still (s s' : Host σ) : Prop := s'.tensors = s.tensors ∧ s'.events = s.events

theorem wp_onNative {x : EStateM Thrown σ α} {s' : Host σ} (h : Still s s') :
    wp (onNative x) (fun _ => Still s) (fun _ => Still s) s' := by
  unfold wp onNative
  cases x s'.native with
  | ok a after => exact h
  | error thrown after => exact h

theorem wp_attempt {x : HostM σ α} {Q : α → Host σ → Prop} {E : Thrown → Host σ → Prop}
    (h : wp x Q E s) :
    wp (attempt x) (fun outcome s' => match outcome with
      | .ok a => Q a s'
      | .error thrown => E thrown s') (fun _ _ => False) s := by
  refine wp_tryCatch (P := E) ?_ fun thrown s' h' => h'
  rw [wp_map]
  exact h

theorem wp_releaseFromFinalizer (handle : Handle) :
    wp (native.releaseFromFinalizer handle)
      (fun _ s' => s'.tensors = s.tensors ∧
        ∃ failure, s'.events = s.events ++ [.released handle false failure])
      (fun _ _ => False) s :=
  ⟨rfl, _, rfl⟩

theorem wp_release (handle : Handle) :
    wp (native.release handle)
      (fun _ s' => s'.tensors = s.tensors ∧
        s'.events = s.events ++ [.released handle true none])
      (fun thrown s' => s'.events = s.events ++ [.released handle true (some thrown)]) s := by
  unfold NativeRuntime.release
  rw [wp_bind]
  unfold wp NativeRuntime.callRelease
  rcases h : (native.tensorRelease handle s.native).1 with _ | thrown
  · simp only [h]
    exact ⟨rfl, rfl⟩
  · simp only [h]
    rfl

theorem wp_createTensor (handle : Handle) (shape : DartShape) (dtype : DType)
    (device : DartDevice) {s' : Host σ} (h : Still s s') :
    wp (native.createTensor handle shape dtype device)
      (fun tensor s' => tensor = s.tensors.length ∧ s'.events = s.events ∧
        ∃ wrapper, wrapper.Owns handle ∧ s'.tensors = s.tensors ++ [wrapper])
      (fun _ => Still s) s' := by
  unfold NativeRuntime.createTensor
  refine wp_seq (wp_onNative h) (fun _ _ h => h) fun _ s₁ h₁ => ?_
  refine ⟨congrArg List.length h₁.1, h₁.2, ⟨handle, shape, dtype, device, false, true⟩,
    ⟨rfl, rfl, rfl⟩, ?_⟩
  exact congrArg (· ++ _) h₁.1

/-- Adoption either makes a tensor object that owns the handle or releases the handle. -/
theorem wp_adopt (handle : Handle) :
    wp (native.adopt handle)
      (fun tensor s' => tensor = s.tensors.length ∧ s'.events = s.events ∧
        ∃ wrapper, wrapper.Owns handle ∧ s'.tensors = s.tensors ++ [wrapper])
      (fun _ s' => s'.tensors = s.tensors ∧
        ∃ failure, s'.events = s.events ++ [.released handle false failure]) s := by
  unfold NativeRuntime.adopt
  refine wp_tryCatch (P := fun _ => Still s) ?_ ?_
  · refine wp_seq (wp_onNative ⟨rfl, rfl⟩) (fun _ _ h => h) fun shape s₁ h₁ => ?_
    refine wp_seq (wp_onNative h₁) (fun _ _ h => h) fun dtype s₂ h₂ => ?_
    refine wp_seq (wp_onNative h₂) (fun _ _ h => h) fun device s₃ h₃ => ?_
    refine wp_seq (wp_onNative h₃) (fun _ _ h => h) fun nativeNumel s₄ h₄ => ?_
    by_cases hnumel : nativeNumel ≠ shape.numel
    · rw [if_pos hnumel]
      exact h₄
    · rw [if_neg hnumel]
      exact wp_createTensor handle shape dtype device h₄
  · rintro thrown s' ⟨htensors, hevents⟩
    rw [wp_bind]
    refine wp_mono (wp_releaseFromFinalizer handle) ?_ fun _ _ h => h.elim
    rintro _ s₁ ⟨htensors₁, failure, hevents₁⟩
    exact ⟨htensors₁.trans htensors, failure, by rw [hevents₁, hevents]⟩

theorem wp_dispose {tensor : Nat} {wrapper : Wrapper} {handle : Handle}
    (hwrapper : s.tensors[tensor]? = some wrapper) (howns : wrapper.Owns handle) :
    wp (native.dispose tensor)
      (fun _ s' => s'.tensors = s.tensors.set tensor wrapper.detached ∧
        s'.events = s.events ++ [.released handle true none])
      (fun thrown s' => s'.events = s.events ++ [.released handle true (some thrown)]) s := by
  unfold NativeRuntime.dispose
  rw [wp_bind, wp_get, hwrapper]
  simp only [howns.live, Bool.false_eq_true, if_false]
  rw [howns.handle]
  refine wp_seq (wp_release handle) (fun _ _ h => h) fun _ s₁ h₁ => ?_
  rw [wp_modify]
  exact ⟨congrArg (List.set · tensor wrapper.detached) h₁.1, h₁.2⟩

/-- The tensors `collected` by a call are the objects from `first` on, and they own `handles`. -/
structure Collected (s : Host σ) (handles : List Handle) (collected : List Nat) (s' : Host σ) :
    Prop where
  numbers : collected = List.range' s.tensors.length handles.length
  owns : ∃ wrappers, s'.tensors = s.tensors ++ wrappers ∧
    List.Forall₂ Wrapper.Owns wrappers handles

theorem Collected.nil {s' : Host σ} (h : s'.tensors = s.tensors) : Collected s [] [] s' :=
  ⟨rfl, [], by rw [h, List.append_nil], .nil⟩

theorem Collected.length {handles : List Handle} {collected : List Nat} {s' : Host σ}
    (h : Collected s handles collected s') :
    s'.tensors.length = s.tensors.length + handles.length := by
  obtain ⟨wrappers, htensors, howns⟩ := h.owns
  rw [htensors, List.length_append, howns.length_eq]

theorem Collected.snoc {handles : List Handle} {collected : List Nat} {s' s'' : Host σ}
    {wrapper : Wrapper} {handle : Handle} (h : Collected s handles collected s')
    (hwrapper : wrapper.Owns handle) (htensors : s''.tensors = s'.tensors ++ [wrapper]) :
    Collected s (handles ++ [handle]) (collected ++ [s'.tensors.length]) s'' := by
  refine ⟨?_, ?_⟩
  · rw [h.numbers, h.length, List.length_append, List.length_singleton, List.range'_concat,
      Nat.one_mul]
  · obtain ⟨wrappers, hwrappers, howns⟩ := h.owns
    refine ⟨wrappers ++ [wrapper], ?_, List.rel_append howns (.cons hwrapper .nil)⟩
    rw [htensors, hwrappers, List.append_assoc]

theorem wp_disposeOwned {wrappers : List Wrapper} {handles : List Handle}
    (howns : List.Forall₂ Wrapper.Owns wrappers handles) :
    ∀ (before : List Wrapper) (s : Host σ), s.tensors = before ++ wrappers →
      wp ((List.range' before.length handles.length).forM native.dispose)
        (fun _ s' => ∃ gone events, s'.tensors = before ++ gone ∧
          (∀ wrapper ∈ gone, wrapper.Gone) ∧ s'.events = s.events ++ events ∧
          released events = handles ∧ fetched events = [])
        (fun _ s' => ∃ events, s'.events = s.events ++ events ∧ ¬ Disposes events) s := by
  induction howns with
  | nil =>
      intro before s hs
      exact ⟨[], [], hs, by simp, by simp, rfl, rfl⟩
  | @cons wrapper handle wrappers handles hwrapper _ ih =>
      intro before s hs
      have hread : s.tensors[before.length]? = some wrapper := by
        rw [hs, List.getElem?_append_right (le_refl _), Nat.sub_self]
        rfl
      rw [List.length_cons, List.range'_succ]
      change wp (native.dispose before.length >>= fun _ =>
        (List.range' (before.length + 1) handles.length).forM native.dispose) _ _ s
      refine wp_seq (wp_dispose hread hwrapper) ?_ ?_
      · rintro thrown s' hevents
        refine ⟨_, hevents, fun hdisposes => ?_⟩
        exact Bool.noConfusion (hdisposes _ (List.mem_singleton_self _))
      · rintro _ s₁ ⟨htensors, hevents⟩
        have hs₁ : s₁.tensors = (before ++ [wrapper.detached]) ++ wrappers := by
          rw [htensors, hs, List.set_append_right _ _ (le_refl _), Nat.sub_self]
          simp
        have hnext := ih (before ++ [wrapper.detached]) s₁ hs₁
        rw [List.length_append, List.length_singleton] at hnext
        refine wp_mono hnext ?_ ?_
        · rintro _ s' ⟨gone, events, hgone, hall, hevents', hreleased, hfetched⟩
          refine ⟨wrapper.detached :: gone, .released handle true none :: events,
            ?_, ?_, ?_, ?_, ?_⟩
          · rw [hgone, List.append_assoc]
            rfl
          · exact List.forall_mem_cons.mpr ⟨⟨rfl, rfl⟩, hall⟩
          · rw [hevents', hevents, List.append_assoc]
            rfl
          · exact congrArg (handle :: ·) hreleased
          · exact hfetched
        · rintro thrown s' ⟨events, hevents', hfailed⟩
          refine ⟨.released handle true none :: events, ?_, fun hdisposes => ?_⟩
          · rw [hevents', hevents, List.append_assoc]
            rfl
          · exact hfailed fun event hevent => hdisposes event (List.mem_cons_of_mem _ hevent)

theorem wp_releaseFrom (handles : List Handle) (start : Nat) :
    wp (native.releaseFrom handles start)
      (fun _ s' => s'.tensors = s.tensors ∧ ∃ events, s'.events = s.events ++ events ∧
        released events = handles.drop start ∧ fetched events = [])
      (fun _ _ => False) s := by
  unfold NativeRuntime.releaseFrom
  generalize hcount : handles.length - start = count
  induction count generalizing start s with
  | zero =>
      refine ⟨rfl, [], by simp, ?_, rfl⟩
      rw [List.drop_of_length_le (by omega)]
      rfl
  | succ count ih =>
      have hstart : start < handles.length := by omega
      rw [List.range'_succ]
      change wp ((match handles[start]? with
        | some handle => native.releaseFromFinalizer handle
        | none => throw (.rangeError start)) >>= fun _ =>
          (List.range' (start + 1) count).forM _) _ _ s
      rw [List.getElem?_eq_getElem hstart]
      refine wp_seq (wp_releaseFromFinalizer _) (fun _ _ h => h) ?_
      rintro _ s₁ ⟨htensors, failure, hevents⟩
      refine wp_mono (ih (start + 1) (by omega)) ?_ fun _ _ h => h
      rintro _ s' ⟨htensors', events, hevents', hreleased, hfetched⟩
      refine ⟨htensors'.trans htensors, .released handles[start] false failure :: events, ?_, ?_,
        hfetched⟩
      · rw [hevents', hevents, List.append_assoc]
        rfl
      · rw [List.drop_eq_getElem_cons hstart]
        exact congrArg (handles[start] :: ·) hreleased

theorem adoptNativeHandle_eq (handle : Handle) :
    native.adoptNativeHandleForRuntime handle .nativeTensorAdoptionToken = native.adopt handle :=
  rfl

theorem wp_adoptHandles {rest : List Handle} :
    ∀ {done : List Handle} {adopted : List Nat} {s' : Host σ}, Collected s done adopted s' →
      s'.events = s.events →
      wp (native.adoptHandles rest adopted)
        (fun outcome s'' => match outcome with
          | (adopted, none) => Collected s (done ++ rest) adopted s'' ∧ s''.events = s.events
          | (adopted, some _) => ∃ before handle after failure,
              rest = before ++ handle :: after ∧ Collected s (done ++ before) adopted s'' ∧
              s''.events = s.events ++ [.released handle false failure])
        (fun _ _ => False) s' := by
  induction rest with
  | nil =>
      intro done adopted s' hcollected hevents
      refine ⟨?_, hevents⟩
      rw [List.append_nil]
      exact hcollected
  | cons handle rest ih =>
      intro done adopted s' hcollected hevents
      unfold NativeRuntime.adoptHandles
      rw [adoptNativeHandle_eq]
      refine wp_seq (wp_attempt (wp_adopt handle)) (fun _ _ h => h) ?_
      rintro (thrown | tensor) s₁ h₁
      · obtain ⟨htensors, failure, hevents₁⟩ := h₁
        refine ⟨[], handle, rest, failure, rfl, ?_, by rw [hevents₁, hevents]⟩
        rw [List.append_nil]
        exact ⟨hcollected.numbers, by rw [htensors]; exact hcollected.owns⟩
      · obtain ⟨rfl, hevents₁, wrapper, howns, htensors⟩ := h₁
        refine wp_mono (ih (hcollected.snoc howns htensors) (hevents₁.trans hevents)) ?_
          fun _ _ h => h
        rintro ⟨adopted, _ | thrown⟩ s₂ h₂
        · rw [List.append_cons]
          exact h₂
        · obtain ⟨before, stopped, after, failure, rfl, hbefore, hevents₂⟩ := h₂
          refine ⟨handle :: before, stopped, after, failure, rfl, ?_, hevents₂⟩
          rw [List.append_cons]
          exact hbefore

theorem wp_collectRound (reader : Nat → EStateM Thrown σ Handle) (index : Nat) :
    wp (do
        let handle ← getHandle reader index
        native.adoptNativeHandleForRuntime handle .nativeTensorAdoptionToken)
      (fun tensor s' => tensor = s.tensors.length ∧ ∃ handle wrapper, wrapper.Owns handle ∧
        s'.events = s.events ++ [.fetched handle] ∧ s'.tensors = s.tensors ++ [wrapper])
      (fun _ s' => s'.tensors = s.tensors ∧ ∃ events, s'.events = s.events ++ events ∧
        released events = fetched events) s := by
  unfold getHandle
  refine wp_seq (P := fun handle s' => s'.tensors = s.tensors ∧
      s'.events = s.events ++ [.fetched handle]) (R := fun _ => Still s) ?_ ?_ ?_
  · refine wp_seq (wp_onNative ⟨rfl, rfl⟩) (fun _ _ h => h) fun handle s₁ h₁ => ?_
    exact ⟨h₁.1, congrArg (· ++ _) h₁.2⟩
  · rintro thrown s' ⟨htensors, hevents⟩
    exact ⟨htensors, [], by rw [hevents, List.append_nil], rfl⟩
  · rintro handle s₁ ⟨htensors₁, hevents₁⟩
    rw [adoptNativeHandle_eq]
    refine wp_mono (wp_adopt handle) ?_ ?_
    · rintro tensor s' ⟨rfl, hevents, wrapper, howns, htensors⟩
      exact ⟨congrArg List.length htensors₁, handle, wrapper, howns, hevents.trans hevents₁,
        by rw [htensors, htensors₁]⟩
    · rintro thrown s' ⟨htensors, failure, hevents⟩
      refine ⟨htensors.trans htensors₁,
        [.fetched handle, .released handle false failure], ?_, rfl⟩
      rw [hevents, hevents₁, List.append_assoc]
      rfl

theorem wp_collectHandles {reader : Nat → EStateM Thrown σ Handle} {count : Nat} :
    ∀ {index : Nat} {tensors : List Nat} {events : List Event} {s' : Host σ},
      s'.events = s.events ++ events → released events = [] →
      Collected s (fetched events) tensors s' →
      wp (native.collectHandles reader count index tensors)
        (fun outcome s'' => ∃ events failing, s''.events = s.events ++ events ++ failing ∧
          released events = [] ∧ Collected s (fetched events) outcome.1 s'' ∧
          released failing = fetched failing ∧ (outcome.2 = none → failing = []))
        (fun _ _ => False) s' := by
  induction count with
  | zero =>
      intro index tensors events s' hevents hreleased hcollected
      exact ⟨events, [], by rw [hevents, List.append_nil], hreleased, hcollected, rfl,
        fun _ => rfl⟩
  | succ count ih =>
      intro index tensors events s' hevents hreleased hcollected
      unfold NativeRuntime.collectHandles
      refine wp_seq (wp_attempt (wp_collectRound reader index)) (fun _ _ h => h) ?_
      rintro (thrown | tensor) s₁ h₁
      · obtain ⟨htensors, failing, hevents₁, hfailing⟩ := h₁
        refine ⟨events, failing, by rw [hevents₁, hevents], hreleased, ?_, hfailing, ?_⟩
        · exact ⟨hcollected.numbers, by rw [htensors]; exact hcollected.owns⟩
        · exact fun h => nomatch h
      · obtain ⟨rfl, handle, wrapper, howns, hevents₁, htensors⟩ := h₁
        refine @ih _ _ (events ++ [.fetched handle]) _ ?_ ?_ ?_
        · rw [hevents₁, hevents, List.append_assoc]
        · rw [released_append, hreleased]
          rfl
        · rw [fetched_append]
          exact hcollected.snoc howns htensors

/-- What becomes of handles when `x` adopts them: they are `handles` of the calls it makes. When it
returns, each is owned by a tensor object of its own and none is given up; when it throws, and no
`dispose` on the way did, each is given up by one call and no object is left to give it up again. -/
def ExactlyOnce (handles : List Event → List Handle) (x : HostM σ (List Nat)) : Prop :=
  ∀ s : Host σ,
    (∀ tensors s', x s = .ok tensors s' → ∃ events, s'.events = s.events ++ events ∧
      released events = [] ∧ Collected s (handles events) tensors s') ∧
    (∀ thrown s', x s = .error thrown s' → ∃ events, s'.events = s.events ++ events ∧
      (Disposes events → (released events).Perm (handles events) ∧
        ∃ gone, s'.tensors = s.tensors ++ gone ∧ ∀ wrapper ∈ gone, wrapper.Gone))

theorem exactlyOnce_of_wp {handles : List Event → List Handle} {x : HostM σ (List Nat)}
    (h : ∀ s, wp x
      (fun tensors s' => ∃ events, s'.events = s.events ++ events ∧ released events = [] ∧
        Collected s (handles events) tensors s')
      (fun _ s' => ∃ events, s'.events = s.events ++ events ∧
        (Disposes events → (released events).Perm (handles events) ∧
          ∃ gone, s'.tensors = s.tensors ++ gone ∧ ∀ wrapper ∈ gone, wrapper.Gone)) s) :
    ExactlyOnce handles x :=
  fun s => ⟨fun _ _ hx => wp_of_ok (h s) hx, fun _ _ hx => wp_of_error (h s) hx⟩

theorem wp_disposeCollected {handles : List Handle} {collected : List Nat} {s' : Host σ}
    (h : Collected s handles collected s') :
    wp (collected.forM native.dispose)
      (fun _ s'' => ∃ gone events, s''.tensors = s.tensors ++ gone ∧
        (∀ wrapper ∈ gone, wrapper.Gone) ∧ s''.events = s'.events ++ events ∧
        released events = handles ∧ fetched events = [])
      (fun _ s'' => ∃ events, s''.events = s'.events ++ events ∧ ¬ Disposes events) s' := by
  obtain ⟨wrappers, htensors, howns⟩ := h.owns
  rw [h.numbers]
  exact wp_disposeOwned howns s.tensors s' htensors

theorem adoptOnnxOutputHandles_exactlyOnce (native : NativeRuntime σ) (handles : List Handle) :
    ExactlyOnce (fun _ => handles) (native.adoptOnnxOutputHandles handles) := by
  refine exactlyOnce_of_wp fun s => ?_
  unfold NativeRuntime.adoptOnnxOutputHandles
  refine wp_seq (wp_adoptHandles (Collected.nil rfl) rfl) (fun _ _ h => h.elim) ?_
  rintro ⟨adopted, _ | thrown⟩ s₁ h₁
  · exact ⟨[], by rw [h₁.2, List.append_nil], rfl, h₁.1⟩
  · obtain ⟨before, handle, after, failure, rfl, hbefore, hevents₁⟩ := h₁
    rw [List.nil_append] at hbefore
    refine wp_seq (wp_disposeCollected hbefore) ?_ ?_
    · rintro _ s' ⟨events, hevents, hfailed⟩
      refine ⟨_, by rw [hevents, hevents₁, List.append_assoc], fun hdisposes => ?_⟩
      exact absurd hdisposes.append.2 hfailed
    · rintro _ s₂ ⟨gone, events₂, htensors₂, hgone, hevents₂, hreleased₂, -⟩
      have hlength : adopted.length = before.length := by
        rw [hbefore.numbers, List.length_range']
      refine wp_seq (wp_releaseFrom _ _) (fun _ _ h => h.elim) ?_
      rintro _ s' ⟨htensors, events, hevents, hreleased, -⟩
      refine ⟨[.released handle false failure] ++ events₂ ++ events, ?_,
        fun _ => ⟨?_, gone, ?_, hgone⟩⟩
      · rw [hevents, hevents₂, hevents₁]
        simp only [List.append_assoc]
      · have hrest : (before ++ handle :: after).drop (adopted.length + 1) = after := by
          rw [hlength, List.append_cons, List.drop_left' (by simp)]
        rw [released_append, released_append, hreleased₂, hreleased, hrest]
        exact List.perm_middle.symm
      · rw [htensors, htensors₂]

theorem collectModuleTensors_exactlyOnce (native : NativeRuntime σ) (count : Nat)
    (reader : Nat → EStateM Thrown σ Handle) :
    ExactlyOnce fetched (native.collectModuleTensors count reader) := by
  refine exactlyOnce_of_wp fun s => ?_
  unfold NativeRuntime.collectModuleTensors
  have hloop := @wp_collectHandles σ native s reader count 0 [] [] s (List.append_nil _).symm rfl
    (Collected.nil rfl)
  refine wp_seq hloop (fun _ _ h => h.elim) ?_
  rintro ⟨tensors, _ | thrown⟩ s₁
    ⟨events₁, failing, hevents₁, hreleased₁, hcollected, hfailing, hnone⟩
  · rw [hnone rfl, List.append_nil] at hevents₁
    exact ⟨events₁, hevents₁, hreleased₁, hcollected⟩
  · refine wp_seq (wp_disposeCollected hcollected) ?_ ?_
    · rintro _ s' ⟨events, hevents, hfailed⟩
      refine ⟨events₁ ++ failing ++ events, ?_, fun hdisposes => ?_⟩
      · rw [hevents, hevents₁]
        simp only [List.append_assoc]
      · exact absurd hdisposes.append.2 hfailed
    · rintro _ s' ⟨gone, events, htensors, hgone, hevents, hreleased, hfetched⟩
      refine ⟨events₁ ++ failing ++ events, ?_, fun _ => ⟨?_, gone, htensors, hgone⟩⟩
      · rw [hevents, hevents₁]
        simp only [List.append_assoc]
      · rw [released_append, released_append, fetched_append, fetched_append, hreleased₁,
          hreleased, hfetched, hfailing, List.nil_append, List.append_nil]
        exact List.perm_append_comm

/-- Whatever the native library answers, and wherever it fails. -/
theorem adopted_handles_exactly_once (native : NativeRuntime σ) :
    (∀ handles, ExactlyOnce (fun _ => handles) (native.adoptOnnxOutputHandles handles)) ∧
      ∀ count reader, ExactlyOnce fetched (native.collectModuleTensors count reader) :=
  ⟨adoptOnnxOutputHandles_exactlyOnce native, collectModuleTensors_exactlyOnce native⟩

def registry : NativeRuntime (List Handle) where
  shape handle := do
    let live ← get
    if handle ∈ live then return ⟨[], 1⟩
    else throw (.nativeRuntime "Handle is not a live Tensor." "tensor.rank")
  dtype _ := return .float32
  device _ := return ⟨.cpu, 0⟩
  numel handle := return if handle = 2 then 4 else 1
  attach _ := return
  tensorRelease handle live :=
    if handle ∈ live then (none, live.erase handle)
    else (some (.nativeRuntime "Handle is not a live Tensor." "tensor.dispose"), live)

def runRegistry (x : HostM (List Handle) (List Nat)) (live : List Handle) :
    List Event × List Handle :=
  match x ⟨live, [], []⟩ with
  | .ok _ s => (s.events, s.native)
  | .error _ s => (s.events, s.native)

example : (runRegistry (registry.adoptOnnxOutputHandles [1, 2, 3, 4]) [1, 2, 3, 4]).map released id
    = ([2, 1, 3, 4], []) := by decide +kernel

example : (runRegistry (registry.collectModuleTensors 4 fun index => return index)
    [0, 1, 2, 3]).map released id = ([2, 0, 1], [3]) := by decide +kernel

end Tensora.Adoption
