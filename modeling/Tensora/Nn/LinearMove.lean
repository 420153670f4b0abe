import Mathlib.Data.List.Nodup
import Tensora.Nn.ModuleTree

/-! How a linear layer exchanges the tensors its parameters hold when it moves to a device. -/
namespace Tensora.Nn
open ProgramLogic

/-- A `Parameter`: the tensor object it holds and the identity it was made with. -/
structure Held where
  tensor : Nat
  disposed : Bool
  identity : Nat
  deriving DecidableEq, Repr

/-- The tensor objects have numbers below `next`. `releases` are those that were disposed of,
newest first, and `queries` counts the native calls for an identity. -/
structure LayerState where
  identity : Nat → Nat
  releases : List Nat
  next : Nat
  parameters : List Held
  queries : Nat

/-- What the native module and runtime do: the move, the parameter count, the identity of each
parameter's tensor and what each query for an identity throws. -/
structure NativeLinear where
  moduleToDevice : Option Thrown
  parameterCount : Except Thrown Nat
  parameterAt : Nat → Except Thrown Nat
  tensorIdentity : Nat → Option Thrown

abbrev LayerM := EStateM Thrown LayerState

namespace LayerState

/-- `Tensor.dispose`. -/
def dispose (s : LayerState) (tensor : Nat) : LayerState :=
  if tensor ∈ s.releases then s else { s with releases := tensor :: s.releases }

def disposeAll (s : LayerState) (tensors : List Nat) : LayerState :=
  tensors.foldl dispose s

def adopt (s : LayerState) (identity : Nat) : LayerState :=
  { s with
    identity := fun tensor => if tensor = s.next then identity else s.identity tensor
    next := s.next + 1 }

def asked (s : LayerState) : LayerState := { s with queries := s.queries + 1 }

def install (s : LayerState) (index tensor : Nat) : LayerState :=
  { s with parameters := s.parameters.modify index fun held => { held with tensor := tensor } }

end LayerState

/-- `collectModuleTensors`: what was collected is given up when a handle cannot be read. -/
def collectModuleTensors (native : NativeLinear) :
    Nat → Nat → List Nat → LayerM (List Nat)
  | 0, _, tensors => return tensors
  | count + 1, index, tensors => do
      match native.parameterAt index with
      | .error thrown => do
          modify fun s => s.disposeAll tensors
          throw thrown
      | .ok identity => do
          let s ← get
          modify fun s => s.adopt identity
          collectModuleTensors native count (index + 1) (tensors ++ [s.next])

/-- `NativeTensorState.identity`. -/
def tensorIdentity (native : NativeLinear) (tensor : Nat) : LayerM Nat := do
  let s ← get
  throwIf (tensor ∈ s.releases)
    (.disposedTensor "Tensor has already been disposed." "tensor.nativeHandle")
  modify LayerState.asked
  match native.tensorIdentity s.queries with
  | some thrown => throw thrown
  | none => return s.identity tensor

/-- `Parameter.internalReplaceTensor` of the layer's parameter with this index. -/
def internalReplaceTensor (native : NativeLinear) (index replacement : Nat) : LayerM Unit := do
  let s ← get
  match s.parameters[index]? with
  | none => throw (.other "RangeError")
  | some parameter => do
      throwIf (parameter.disposed = true)
        (.disposedTensor "Parameter has already been disposed." "parameter.replaceTensor")
      let replacementIdentity ← tensorIdentity native replacement
      if replacementIdentity ≠ parameter.identity then do
        modify fun s => s.dispose replacement
        throw (.nativeRuntime "Native module move changed parameter identity."
          "parameter.replaceTensor")
      modify fun s => s.install index replacement
      modify fun s => s.dispose parameter.tensor

def checkIdentities (native : NativeLinear) : Nat → List Nat → LayerM Unit
  | _, [] => return
  | index, replacement :: rest => do
      let identity ← tensorIdentity native replacement
      let s ← get
      throwIf (some identity ≠ s.parameters[index]?.map Held.identity)
        (.nativeRuntime "Linear parameter identity changed during device move." "nn.linear.to")
      checkIdentities native (index + 1) rest

def replaceTensors (native : NativeLinear) : Nat → List Nat → LayerM Unit
  | _, [] => return
  | index, replacement :: rest => do
      internalReplaceTensor native index replacement
      replaceTensors native (index + 1) rest

/-- `Linear.internalOnMove`. -/
def internalOnMove (native : NativeLinear) : LayerM Unit := do
  match native.moduleToDevice with
  | some thrown => throw thrown
  | none => do
  match native.parameterCount with
  | .error thrown => throw thrown
  | .ok count => do
  let replacements ← collectModuleTensors native count 0 []
  let s ← get
  let expected := s.parameters.length
  if replacements.length ≠ expected then do
    modify fun s => s.disposeAll replacements
    throw (.nativeRuntime ("Linear exposed " ++ toString replacements.length ++
      " parameters after move; expected " ++ toString expected ++ ".") "nn.linear.to")
  tryCatch
    (do
      checkIdentities native 0 replacements
      replaceTensors native 0 replacements)
    fun thrown => do
      modify fun s => s.disposeAll replacements
      throw thrown

def LayerState.Usable (s : LayerState) (parameter : Held) : Prop :=
  parameter.disposed = false ∧ parameter.tensor ∉ s.releases ∧
    s.identity parameter.tensor = parameter.identity

instance (s : LayerState) (parameter : Held) : Decidable (s.Usable parameter) :=
  inferInstanceAs (Decidable (_ ∧ _))

structure LayerState.Keeps (s s' : LayerState) : Prop where
  usable : ∀ (index : Nat) (parameter : Held), s.parameters[index]? = some parameter →
    s.Usable parameter →
    ∃ parameter', s'.parameters[index]? = some parameter' ∧ s'.Usable parameter'
  replacements : ∀ tensor, s.next ≤ tensor → tensor < s'.next →
    (∃ parameter ∈ s'.parameters, parameter.tensor = tensor) ∨ s'.releases.count tensor = 1

structure LayerState.Separate (s : LayerState) : Prop where
  distinct : (s.parameters.map Held.tensor).Nodup
  numbered : ∀ parameter ∈ s.parameters, parameter.tensor < s.next
  released : ∀ tensor ∈ s.releases, tensor < s.next
  once : s.releases.Nodup

structure NativeLinear.Reaches (native : NativeLinear) (s : LayerState) : Prop where
  moved : native.moduleToDevice = none
  count : native.parameterCount = .ok s.parameters.length
  same : ∀ (index : Nat) (parameter : Held), s.parameters[index]? = some parameter →
    native.parameterAt index = .ok parameter.identity
  answered : ∀ index < s.parameters.length, native.tensorIdentity (s.queries + index) = none

def NativeLinear.Refuses (native : NativeLinear) (s : LayerState) (index : Nat) : Prop :=
  (∃ parameter, s.parameters[index]? = some parameter ∧ parameter.disposed = true) ∨
    native.tensorIdentity (s.queries + s.parameters.length + index) ≠ none

/-- A usable parameter gets its new tensor before the exchange throws for a later one. -/
def NativeLinear.Spoils (native : NativeLinear) (s : LayerState) : Prop :=
  native.Reaches s ∧ ∃ index parameter later, s.parameters[index]? = some parameter ∧
    s.Usable parameter ∧ (∀ earlier ≤ index, ¬native.Refuses s earlier) ∧
    index < later ∧ later < s.parameters.length ∧ native.Refuses s later

namespace LayerState
variable {s s' : LayerState}

@[simp] theorem mem_dispose (s : LayerState) (given tensor : Nat) :
    tensor ∈ (s.dispose given).releases ↔ tensor ∈ s.releases ∨ tensor = given := by
  unfold dispose
  split
  · exact ⟨.inl, fun h => h.elim id fun heq => heq ▸ ‹given ∈ s.releases›⟩
  · exact List.mem_cons.trans or_comm

theorem nodup_dispose (given : Nat) (h : s.releases.Nodup) :
    (s.dispose given).releases.Nodup := by
  unfold dispose
  split
  · exact h
  · exact List.nodup_cons.mpr ⟨‹given ∉ s.releases›, h⟩

theorem dispose_eq (s : LayerState) (given : Nat) :
    s.dispose given = { s with releases := (s.dispose given).releases } := by
  unfold dispose
  split <;> rfl

@[simp] theorem mem_disposeAll (s : LayerState) (given : List Nat) (tensor : Nat) :
    tensor ∈ (s.disposeAll given).releases ↔ tensor ∈ s.releases ∨ tensor ∈ given := by
  unfold disposeAll
  induction given generalizing s with
  | nil => simp
  | cons first rest ih => rw [List.foldl_cons, ih, mem_dispose, List.mem_cons, or_assoc]

theorem nodup_disposeAll (given : List Nat) (h : s.releases.Nodup) :
    (s.disposeAll given).releases.Nodup := by
  unfold disposeAll
  induction given generalizing s with
  | nil => exact h
  | cons first rest ih => exact ih (nodup_dispose first h)

theorem disposeAll_eq (s : LayerState) (given : List Nat) :
    s.disposeAll given = { s with releases := (s.disposeAll given).releases } := by
  unfold disposeAll
  induction given generalizing s with
  | nil => rfl
  | cons first rest ih =>
    rw [List.foldl_cons, ih, dispose_eq]

structure Exchanged (s : LayerState) (known : Nat → Nat) (total count : Nat)
    (s' : LayerState) : Prop where
  identity : s'.identity = known
  old : ∀ tensor < s.next, known tensor = s.identity tensor
  next : s'.next = s.next + total
  parameters : ∀ index : Nat, s'.parameters[index]? =
    if index < count then
      s.parameters[index]?.map fun held => { held with tensor := s.next + index }
    else s.parameters[index]?
  releases : ∀ tensor, tensor ∈ s'.releases ↔ tensor ∈ s.releases ∨
    ∃ index < count, ∃ parameter, s.parameters[index]? = some parameter ∧
      parameter.tensor = tensor
  once : s'.releases.Nodup

structure Abandoned (s : LayerState) (count : Nat) (s' : LayerState) : Prop where
  old : ∀ tensor < s.next, s'.identity tensor = s.identity tensor
  parameters : ∀ index : Nat, s'.parameters[index]? =
    if index < count then
      s.parameters[index]?.map fun held => { held with tensor := s.next + index }
    else s.parameters[index]?
  released : ∀ tensor, s.next ≤ tensor → tensor < s'.next → tensor ∈ s'.releases
  installed : ∀ index < count, index < s.parameters.length → s.next + index ∈ s'.releases
  releases : ∀ tensor < s.next, tensor ∈ s'.releases → tensor ∈ s.releases ∨
    ∃ index < count, ∃ parameter, s.parameters[index]? = some parameter ∧
      parameter.tensor = tensor
  once : s'.releases.Nodup

theorem Exchanged.abandoned {known : Nat → Nat} {total count : Nat}
    (h : s.Exchanged known total count s') (hcount : count ≤ total) :
    s.Abandoned count (s'.disposeAll (List.range' s.next total)) where
  old := by
    intro tensor htensor
    rw [disposeAll_eq, h.identity]
    exact h.old tensor htensor
  parameters := by
    intro index
    rw [disposeAll_eq]
    exact h.parameters index
  released := by
    intro tensor hle hlt
    rw [disposeAll_eq, h.next] at hlt
    rw [mem_disposeAll, List.mem_range'_1]
    exact .inr ⟨hle, hlt⟩
  installed := by
    intro index hindex _
    rw [mem_disposeAll, List.mem_range'_1]
    omega
  releases := by
    intro tensor htensor hmem
    rw [mem_disposeAll, List.mem_range'_1] at hmem
    rcases hmem with hmem | hmem
    · exact (h.releases tensor).mp hmem
    · omega
  once := nodup_disposeAll _ h.once

theorem Separate.index_eq (hs : s.Separate) {index other : Nat} {held held' : Held}
    (h : s.parameters[index]? = some held) (h' : s.parameters[other]? = some held')
    (heq : held.tensor = held'.tensor) : index = other := by
  have hlength : index < (s.parameters.map Held.tensor).length := by
    rw [List.length_map]
    exact (List.getElem?_eq_some_iff.mp h).1
  apply (List.getElem?_inj hlength hs.distinct).mp
  rw [List.getElem?_map, List.getElem?_map, h, h', Option.map_some, Option.map_some, heq]

/-- A failed move is harmless exactly when no parameter that was usable had its tensor
exchanged. -/
theorem Abandoned.keeps_iff {count : Nat} (h : s.Abandoned count s') (hs : s.Separate) :
    s.Keeps s' ↔ ∀ (index : Nat) (parameter : Held), index < count →
      s.parameters[index]? = some parameter → ¬s.Usable parameter := by
  constructor
  · intro hkeeps index parameter hindex hparameter husable
    obtain ⟨parameter', hparameter', husable'⟩ := hkeeps.usable index parameter hparameter husable
    rw [h.parameters, if_pos hindex, hparameter] at hparameter'
    obtain rfl := Option.some.inj hparameter'
    have hlength : index < s.parameters.length :=
      (List.getElem?_eq_some_iff.mp hparameter).1
    exact husable'.2.1 (h.installed index hindex hlength)
  · intro hnone
    constructor
    · intro index parameter hparameter husable
      have hlater : ¬index < count := fun hindex =>
        hnone index parameter hindex hparameter husable
      refine ⟨parameter, by rw [h.parameters, if_neg hlater, hparameter], husable.1, ?_, ?_⟩
      · intro hmem
        have hnumbered := hs.numbered parameter (List.mem_of_getElem? hparameter)
        rcases h.releases parameter.tensor hnumbered hmem with hmem | ⟨other, hother, found, hfound,
          heq⟩
        · exact husable.2.1 hmem
        · have hsame := hs.index_eq hfound hparameter heq
          omega
      · rw [h.old _ (hs.numbered parameter (List.mem_of_getElem? hparameter))]
        exact husable.2.2
    · intro tensor hle hlt
      right
      exact List.count_eq_one_of_mem h.once (h.released tensor hle hlt)

theorem Exchanged.start (hs : s.Separate) : s.Exchanged s.identity 0 0 s where
  identity := rfl
  old := fun _ _ => rfl
  next := rfl
  parameters := fun _ => rfl
  releases := by simp
  once := hs.once

theorem Exchanged.parameters_eq {known : Nat → Nat} {total : Nat}
    (h : s.Exchanged known total 0 s') : s'.parameters = s.parameters := by
  apply List.ext_getElem?
  intro index
  rw [h.parameters, if_neg (Nat.not_lt_zero index)]

theorem Exchanged.asked {known : Nat → Nat} {total count : Nat}
    (h : s.Exchanged known total count s') : s.Exchanged known total count s'.asked where
  identity := h.identity
  old := h.old
  next := h.next
  parameters := h.parameters
  releases := h.releases
  once := h.once

theorem Exchanged.adopt {known : Nat → Nat} {total : Nat} (h : s.Exchanged known total 0 s')
    (identity : Nat) :
    s.Exchanged (fun tensor => if tensor = s.next + total then identity else known tensor)
      (total + 1) 0 (s'.adopt identity) where
  identity := by
    funext tensor
    change (if tensor = s'.next then identity else s'.identity tensor) = _
    rw [h.next, h.identity]
  old := by
    intro tensor htensor
    rw [if_neg (by omega)]
    exact h.old tensor htensor
  next := congrArg (· + 1) h.next
  parameters := h.parameters
  releases := h.releases
  once := h.once

theorem Exchanged.install {known : Nat → Nat} {total count : Nat} {parameter : Held}
    (h : s.Exchanged known total count s') (hparameter : s.parameters[count]? = some parameter) :
    s.Exchanged known total (count + 1)
      ((s'.install count (s.next + count)).dispose parameter.tensor) where
  identity := by
    rw [dispose_eq]
    exact h.identity
  old := h.old
  next := by
    rw [dispose_eq]
    exact h.next
  parameters := by
    intro index
    rw [dispose_eq]
    change (s'.parameters.modify count _)[index]? = _
    rw [List.getElem?_modify, h.parameters]
    by_cases heq : count = index
    · subst heq
      simp [hparameter]
    · have hsame : index < count + 1 ↔ index < count := by omega
      simp [heq, hsame]
  releases := by
    intro tensor
    rw [mem_dispose]
    change tensor ∈ s'.releases ∨ _ ↔ _
    rw [h.releases]
    constructor
    · rintro ((hmem | ⟨index, hindex, held, hheld, heq⟩) | rfl)
      · exact .inl hmem
      · exact .inr ⟨index, Nat.lt_succ_of_lt hindex, held, hheld, heq⟩
      · exact .inr ⟨count, Nat.lt_succ_self count, parameter, hparameter, rfl⟩
    · rintro (hmem | ⟨index, hindex, held, hheld, rfl⟩)
      · exact .inl (.inl hmem)
      · rcases Nat.lt_succ_iff_lt_or_eq.mp hindex with hlt | rfl
        · exact .inl (.inr ⟨index, hlt, held, hheld, rfl⟩)
        · right
          rw [hparameter] at hheld
          exact congrArg Held.tensor (Option.some.inj hheld).symm
  once := nodup_dispose _ h.once

theorem Exchanged.live {known : Nat → Nat} {total count index : Nat}
    (h : s.Exchanged known total count s') (hs : s.Separate) :
    s.next + index ∉ s'.releases := by
  intro hmem
  rcases (h.releases _).mp hmem with hmem | ⟨other, -, held, hheld, heq⟩
  · have := hs.released _ hmem
    omega
  · have := hs.numbered held (List.mem_of_getElem? hheld)
    omega

end LayerState

open LayerState

section Specs
variable {native : NativeLinear} {s s' : LayerState}

theorem wp_tensorIdentity {tensor : Nat} {Q : Nat → LayerState → Prop}
    {E : Thrown → LayerState → Prop} (hlive : tensor ∉ s.releases)
    (hq : native.tensorIdentity s.queries = none → Q (s.identity tensor) s.asked)
    (he : ∀ thrown, native.tensorIdentity s.queries = some thrown → E thrown s.asked) :
    wp (tensorIdentity native tensor) Q E s := by
  unfold tensorIdentity
  rw [wp_bind, wp_get, wp_bind, wp_throwIf]
  refine ⟨fun hmem => absurd hmem hlive, fun _ => ?_⟩
  rw [wp_bind, wp_modify]
  cases hthrown : native.tensorIdentity s.queries with
  | none => exact hq hthrown
  | some thrown => exact he thrown hthrown

def Answers (native : NativeLinear) (s : LayerState) (known : Nat → Nat) (total : Nat) : Prop :=
  ∀ index < total, native.parameterAt index = .ok (known (s.next + index))

theorem wp_collectModuleTensors (count index : Nat) (known : Nat → Nat) (s' : LayerState)
    (h : s.Exchanged known index 0 s') (hknown : Answers native s known index)
    (hqueries : s'.queries = s.queries) :
    wp (collectModuleTensors native count index (List.range' s.next index))
      (fun tensors s'' => tensors = List.range' s.next (index + count) ∧
        ∃ known', s.Exchanged known' (index + count) 0 s'' ∧
          Answers native s known' (index + count) ∧ s''.queries = s.queries)
      (fun _ s'' => s.Abandoned 0 s'' ∧
        ∃ other < index + count, ∃ thrown, native.parameterAt other = .error thrown) s' := by
  induction count generalizing index known s' with
  | zero => exact ⟨rfl, known, h, hknown, hqueries⟩
  | succ count ih =>
      unfold collectModuleTensors
      cases hat : native.parameterAt index with
      | error thrown =>
          exact ⟨h.abandoned (Nat.zero_le _), index, by omega, thrown, hat⟩
      | ok identity =>
          have hnext : List.range' s.next index ++ [s'.next] = List.range' s.next (index + 1) := by
            rw [List.range'_concat, Nat.one_mul, h.next]
          have hanswers : Answers native s
              (fun tensor => if tensor = s.next + index then identity else known tensor)
              (index + 1) := by
            intro other hother
            rcases Nat.lt_succ_iff_lt_or_eq.mp hother with hlt | rfl
            · have hne : s.next + other ≠ s.next + index := by omega
              exact (hknown other hlt).trans (congrArg Except.ok (if_neg hne).symm)
            · exact hat.trans (congrArg Except.ok (if_pos rfl).symm)
          have hrest := ih (index + 1) _ _ (h.adopt identity) hanswers hqueries
          rw [Nat.add_right_comm, Nat.add_assoc index count 1] at hrest
          simp only [wp_bind, wp_get, wp_modify]
          rw [hnext]
          exact hrest

def Checked (native : NativeLinear) (s : LayerState) (known : Nat → Nat) (count : Nat) : Prop :=
  ∀ index < count, native.tensorIdentity (s.queries + index) = none ∧
    ∀ parameter, s.parameters[index]? = some parameter →
      known (s.next + index) = parameter.identity

theorem wp_checkIdentities (hs : s.Separate) {known : Nat → Nat}
    (hknown : Answers native s known s.parameters.length) (count index : Nat)
    (hcount : index + count = s.parameters.length) (s' : LayerState)
    (h : s.Exchanged known s.parameters.length 0 s') (hqueries : s'.queries = s.queries + index)
    (hchecked : Checked native s known index) :
    wp (checkIdentities native index (List.range' (s.next + index) count))
      (fun _ s'' => s.Exchanged known s.parameters.length 0 s'' ∧
        s''.queries = s.queries + s.parameters.length ∧
        Checked native s known s.parameters.length)
      (fun _ s'' => s.Exchanged known s.parameters.length 0 s'' ∧ ¬native.Reaches s) s' := by
  induction count generalizing index s' with
  | zero =>
      obtain rfl : index = s.parameters.length := hcount
      exact ⟨h, hqueries, hchecked⟩
  | succ count ih =>
      have hlt : index < s.parameters.length := by omega
      obtain ⟨parameter, hparameter⟩ : ∃ parameter, s.parameters[index]? = some parameter :=
        ⟨_, List.getElem?_eq_getElem hlt⟩
      rw [List.range'_succ]
      unfold checkIdentities
      rw [wp_bind]
      apply wp_tensorIdentity (h.live hs)
      · intro hnone
        rw [hqueries] at hnone
        rw [wp_bind, wp_get, wp_bind, wp_throwIf]
        change (some (s'.identity _) ≠ s'.parameters[index]?.map _ → _) ∧
          (¬some (s'.identity _) ≠ s'.parameters[index]?.map _ → _)
        rw [h.parameters, if_neg (Nat.not_lt_zero _), hparameter, h.identity, Option.map_some]
        constructor
        · intro hne
          refine ⟨h.asked, fun hreaches => hne ?_⟩
          have hsame := hreaches.same index parameter hparameter
          rw [hknown index hlt] at hsame
          exact congrArg some (Except.ok.inj hsame)
        · intro heq
          have hidentity := Option.some.inj (not_not.mp heq)
          apply ih (index + 1) (by omega) _ h.asked
          · exact (congrArg (· + 1) hqueries).trans (Nat.add_assoc _ _ _)
          · intro other hother
            rcases Nat.lt_succ_iff_lt_or_eq.mp hother with hlt | rfl
            · exact hchecked other hlt
            · refine ⟨hnone, fun found hfound => ?_⟩
              rw [hparameter] at hfound
              exact hidentity.trans (congrArg Held.identity (Option.some.inj hfound))
      · intro thrown hthrown
        refine ⟨h.asked, fun hreaches => ?_⟩
        rw [hqueries, hreaches.answered index hlt] at hthrown
        exact nomatch hthrown

theorem wp_internalReplaceTensor (hs : s.Separate) {known : Nat → Nat} {index : Nat}
    {parameter : Held} (hparameter : s.parameters[index]? = some parameter)
    (hidentity : known (s.next + index) = parameter.identity)
    (h : s.Exchanged known s.parameters.length index s')
    (hqueries : s'.queries = s.queries + s.parameters.length + index) :
    wp (internalReplaceTensor native index (s.next + index))
      (fun _ s'' => s.Exchanged known s.parameters.length (index + 1) s'' ∧
        s''.queries = s.queries + s.parameters.length + (index + 1) ∧ ¬native.Refuses s index)
      (fun _ s'' => s.Exchanged known s.parameters.length index s'' ∧ native.Refuses s index)
      s' := by
  unfold internalReplaceTensor
  rw [wp_bind, wp_get]
  have hheld : s'.parameters[index]? = some parameter := by
    rw [h.parameters, if_neg (Nat.lt_irrefl index), hparameter]
  simp only [hheld]
  rw [wp_bind, wp_throwIf]
  refine ⟨fun hdisposed => ⟨h, .inl ⟨parameter, hparameter, hdisposed⟩⟩, fun hlive => ?_⟩
  rw [wp_bind]
  apply wp_tensorIdentity (h.live hs)
  · intro hnone
    rw [hqueries] at hnone
    apply wp_ite
    · intro hne
      rw [h.identity] at hne
      exact absurd hidentity hne
    · intro _
      refine ⟨h.asked.install hparameter, ?_, ?_⟩
      · change (LayerState.dispose _ parameter.tensor).queries = _
        rw [dispose_eq]
        exact congrArg (· + 1) hqueries
      · rintro (⟨found, hfound, hdisposed⟩ | hthrown)
        · rw [hparameter] at hfound
          exact hlive (Option.some.inj hfound ▸ hdisposed)
        · exact hthrown hnone
  · intro thrown hthrown
    rw [hqueries] at hthrown
    exact ⟨h.asked, .inr (by rw [hthrown]; exact Option.some_ne_none thrown)⟩

theorem wp_replaceTensors (hs : s.Separate) {known : Nat → Nat}
    (hchecked : Checked native s known s.parameters.length) (count index : Nat)
    (hcount : index + count = s.parameters.length) (s' : LayerState)
    (h : s.Exchanged known s.parameters.length index s')
    (hqueries : s'.queries = s.queries + s.parameters.length + index)
    (hearlier : ∀ other < index, ¬native.Refuses s other) :
    wp (replaceTensors native index (List.range' (s.next + index) count))
      (fun _ _ => ∀ other < s.parameters.length, ¬native.Refuses s other)
      (fun _ s'' => ∃ failed < s.parameters.length,
        s.Exchanged known s.parameters.length failed s'' ∧ native.Refuses s failed ∧
        ∀ other < failed, ¬native.Refuses s other) s' := by
  induction count generalizing index s' with
  | zero =>
      obtain rfl : index = s.parameters.length := hcount
      exact hearlier
  | succ count ih =>
      have hlt : index < s.parameters.length := by omega
      have hparameter : s.parameters[index]? = some s.parameters[index] :=
        List.getElem?_eq_getElem hlt
      have hidentity := (hchecked index hlt).2 _ hparameter
      rw [List.range'_succ]
      unfold replaceTensors
      apply wp_seq (wp_internalReplaceTensor hs hparameter hidentity h hqueries)
      · exact fun _ _ hfailed => ⟨index, hlt, hfailed.1, hfailed.2, hearlier⟩
      · rintro _ s'' ⟨hexchanged, hqueries', hpassed⟩
        apply ih (index + 1) (by omega) s'' hexchanged hqueries'
        intro other hother
        rcases Nat.lt_succ_iff_lt_or_eq.mp hother with hlt | rfl
        · exact hearlier other hlt
        · exact hpassed

theorem keeps_iff_of_not_reaches (hs : s.Separate) (h : s.Abandoned 0 s')
    (hreaches : ¬native.Reaches s) : s.Keeps s' ↔ ¬native.Spoils s := by
  have hkeeps : s.Keeps s' :=
    (h.keeps_iff hs).mpr fun index _ hindex => absurd hindex (Nat.not_lt_zero index)
  exact iff_of_true hkeeps fun hspoils => hreaches hspoils.1

theorem keeps_iff_of_refuses (hs : s.Separate) (hreaches : native.Reaches s) {failed : Nat}
    (hlt : failed < s.parameters.length) (h : s.Abandoned failed s')
    (hrefuses : native.Refuses s failed) (hearlier : ∀ other < failed, ¬native.Refuses s other) :
    s.Keeps s' ↔ ¬native.Spoils s := by
  rw [h.keeps_iff hs]
  constructor
  · rintro hnone ⟨-, index, parameter, later, hparameter, husable, hpassed, -, -, -⟩
    have hbefore : index < failed := by
      by_contra hle
      exact hpassed failed (by omega) hrefuses
    exact hnone index parameter hbefore hparameter husable
  · intro hspoils index parameter hindex hparameter husable
    refine hspoils ⟨hreaches, index, parameter, failed, hparameter, husable, ?_, hindex, hlt,
      hrefuses⟩
    intro other hother
    exact hearlier other (Nat.lt_of_le_of_lt hother hindex)

theorem reaches_of_checked {known : Nat → Nat} (hmoved : native.moduleToDevice = none)
    (hcount : native.parameterCount = .ok s.parameters.length)
    (hknown : Answers native s known s.parameters.length)
    (hchecked : Checked native s known s.parameters.length) : native.Reaches s where
  moved := hmoved
  count := hcount
  same := by
    intro index parameter hparameter
    have hlt := (List.getElem?_eq_some_iff.mp hparameter).1
    rw [hknown index hlt, (hchecked index hlt).2 parameter hparameter]
  answered := fun index hlt => (hchecked index hlt).1

theorem wp_internalOnMove (native : NativeLinear) (hs : s.Separate) :
    wp (internalOnMove native) (fun _ _ => ¬native.Spoils s)
      (fun _ s' => s.Keeps s' ↔ ¬native.Spoils s) s := by
  have hstart := Exchanged.start hs
  have hsame : ¬native.Reaches s → (s.Keeps s ↔ ¬native.Spoils s) :=
    keeps_iff_of_not_reaches hs (hstart.abandoned (Nat.le_refl 0))
  unfold internalOnMove
  cases hmoved : native.moduleToDevice with
  | some thrown =>
    apply hsame
    intro hreaches
    rw [hreaches.moved] at hmoved
    exact nomatch hmoved
  | none =>
  cases hcount : native.parameterCount with
  | error thrown =>
    apply hsame
    intro hreaches
    rw [hreaches.count] at hcount
    exact nomatch hcount
  | ok count =>
  apply wp_seq (wp_collectModuleTensors count 0 s.identity s hstart
    (fun index hindex => absurd hindex (Nat.not_lt_zero index)) rfl)
  · rintro _ s' ⟨habandoned, index, hindex, thrown, hthrown⟩
    apply keeps_iff_of_not_reaches hs habandoned
    intro hreaches
    have hlength := hreaches.count
    rw [hcount] at hlength
    have hlt : index < s.parameters.length := by
      have := Except.ok.inj hlength
      omega
    rw [hreaches.same index _ (List.getElem?_eq_getElem hlt)] at hthrown
    exact nomatch hthrown
  rintro replacements s₁ ⟨rfl, known, hcollected, hknown, hqueries⟩
  rw [Nat.zero_add] at hcollected hknown ⊢
  rw [wp_bind, wp_get, List.length_range']
  rw [hcollected.parameters_eq]
  apply wp_ite
  · intro hne
    rw [wp_bind, wp_modify]
    apply keeps_iff_of_not_reaches hs (hcollected.abandoned (Nat.zero_le _))
    intro hreaches
    have heq := hreaches.count
    rw [hcount] at heq
    exact hne (Except.ok.inj heq)
  · intro heq
    obtain rfl := not_not.mp heq
    apply wp_tryCatch (P := fun _ s' => ∃ failed ≤ s.parameters.length,
      s.Exchanged known s.parameters.length failed s' ∧
      ∀ s'', s.Abandoned failed s'' → (s.Keeps s'' ↔ ¬native.Spoils s))
    · apply wp_seq (wp_checkIdentities hs hknown s.parameters.length 0 (Nat.zero_add _) s₁
        hcollected hqueries fun index hindex => absurd hindex (Nat.not_lt_zero index))
      · rintro _ s' ⟨hexchanged, hreaches⟩
        exact ⟨0, Nat.zero_le _, hexchanged, fun s'' h => keeps_iff_of_not_reaches hs h hreaches⟩
      · rintro _ s₂ ⟨hexchanged, hqueries₂, hchecked⟩
        have hreaches := reaches_of_checked hmoved hcount hknown hchecked
        apply wp_mono (wp_replaceTensors hs hchecked s.parameters.length 0 (Nat.zero_add _) s₂
          hexchanged hqueries₂ fun other hother => absurd hother (Nat.not_lt_zero other))
        · rintro _ _ hall ⟨-, _, _, later, -, -, -, -, hlater, hrefuses⟩
          exact hall later hlater hrefuses
        · rintro _ s' ⟨failed, hlt, hexchanged', hrefuses, hearlier⟩
          exact ⟨failed, Nat.le_of_lt hlt, hexchanged', fun s'' h =>
            keeps_iff_of_refuses hs hreaches hlt h hrefuses hearlier⟩
    · rintro thrown s' ⟨failed, hle, hexchanged, hkeeps⟩
      exact hkeeps _ (hexchanged.abandoned hle)

/-- A move that throws keeps the parameters usable unless it throws after one that was usable
was given its new tensor, which the `catch` block then disposes of. -/
theorem internalOnMove_keeps_iff (native : NativeLinear) (s : LayerState) (hs : s.Separate) :
    (∀ thrown s', internalOnMove native s = .error thrown s' → s.Keeps s') ↔
      ¬native.Spoils s := by
  have h := wp_internalOnMove native hs
  unfold wp at h
  cases hrun : internalOnMove native s with
  | ok result s' =>
    rw [hrun] at h
    exact iff_of_true (fun _ _ herror => nomatch herror) h
  | error thrown s' =>
    rw [hrun] at h
    apply Iff.trans _ h
    constructor
    · exact fun hall => hall thrown s' rfl
    · rintro hkeeps _ _ ⟨⟩
      exact hkeeps

end Specs

def answering : NativeLinear where
  moduleToDevice := none
  parameterCount := .ok 2
  parameterAt index := .ok (10 + index)
  tensorIdentity _ := none

def disposedBias : LayerState where
  identity tensor := 10 + tensor
  releases := [1]
  next := 2
  parameters := [⟨0, false, 10⟩, ⟨1, true, 11⟩]
  queries := 0

theorem disposedBias_separate : disposedBias.Separate where
  distinct := by decide
  numbered := by decide
  released := by decide
  once := by decide

theorem internalOnMove_keeps_iff_disposedBias :
    (∀ thrown s', internalOnMove answering disposedBias = .error thrown s' →
      disposedBias.Keeps s') ↔ ¬answering.Spoils disposedBias :=
  internalOnMove_keeps_iff answering disposedBias disposedBias_separate

/-- The weight, which was usable, holds a tensor that was disposed of. -/
theorem disposedBias_spoils :
    disposedBias.Separate ∧ disposedBias.Usable ⟨0, false, 10⟩ ∧
      ∃ thrown s', internalOnMove answering disposedBias = .error thrown s' ∧
        s'.parameters[0]? = some ⟨2, false, 10⟩ ∧ 2 ∈ s'.releases ∧ ¬disposedBias.Keeps s' := by
  refine ⟨disposedBias_separate, by decide, _, _, rfl, by decide, by decide, fun hkeeps => ?_⟩
  obtain ⟨parameter, hparameter, husable⟩ := hkeeps.usable 0 ⟨0, false, 10⟩ rfl (by decide)
  obtain rfl := Option.some.inj hparameter
  exact absurd husable (by decide)

end Tensora.Nn
