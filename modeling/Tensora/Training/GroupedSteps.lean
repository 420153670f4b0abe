import Mathlib.Logic.Function.Basic
import Tensora.Lib.Reordering
import Tensora.Tensor.Formed
import Tensora.Training.StepEffects

/-! Steps of optimizers over parts of a list of parameters: one after the other they do what one
optimizer over the whole list does, whatever the parts and their order. -/
namespace Tensora
open CheckedLoop Reordering

variable {F D : Type}

/-- The moments kept of each parameter, whichever optimizer keeps them. -/
abbrev Slots (F : Type) := TensorId → List F × List F

/-- The optimizer over `parameters` keeps these moments of them, after `step` steps. -/
structure Moments.Keeps (slots : Slots F) (step : Nat) (parameters : List TensorId)
    (moments : Moments F) : Prop where
  step : moments.step = step
  first : ∀ (i : Nat) p, parameters[i]? = some p → moments.firstMoment[i]? = some (slots p).1
  second : ∀ (i : Nat) p, parameters[i]? = some p → moments.secondMoment[i]? = some (slots p).2

theorem Moments.Keeps.congr {slots slots' : Slots F} {step : Nat} {parameters : List TensorId}
    {moments : Moments F} (m : moments.Keeps slots step parameters)
    (h : ∀ p ∈ parameters, slots' p = slots p) : moments.Keeps slots' step parameters where
  step := m.step
  first := fun i p hp => by rw [h p (List.mem_of_getElem? hp), m.first i p hp]
  second := fun i p hp => by rw [h p (List.mem_of_getElem? hp), m.second i p hp]

section Apart
variable {h : Heap F} {P : List TensorId} {p q : TensorId} {values values' : List F}

/-- No two of the parameters share a storage, and each may be written in place. -/
structure Apart (P : List TensorId) (h : Heap F) : Prop where
  wellFormed : WellFormed h
  updatable : Updatable h P
  distinct : ∀ p ∈ P, ∀ q ∈ P, p ≠ q → h.storageOf p ≠ h.storageOf q

theorem Apart.evolve {h h' : Heap F} (a : Apart P h) (e : Evolves h h') : Apart P h' where
  wellFormed := e.wellFormed
  updatable := a.updatable.evolve e
  distinct := by
    intro p hp q hq hne
    rw [e.storageOf (a.updatable p hp).1.1, e.storageOf (a.updatable q hq).1.1]
    exact a.distinct p hp q hq hne

theorem Apart.perm {P' : List TensorId} (a : Apart P h) (hperm : P.Perm P') : Apart P' h where
  wellFormed := a.wellFormed
  updatable := fun p hp => a.updatable p (hperm.mem_iff.mpr hp)
  distinct := fun p hp q hq => a.distinct p (hperm.mem_iff.mpr hp) q (hperm.mem_iff.mpr hq)

theorem Apart.evolves_updated (a : Apart P h) (hp : p ∈ P)
    (hlen : values.length = (h.contents p).length) : Evolves h (h.updated p values) := by
  have hv := (a.updatable p hp).1
  exact (Touches.updated (T := fun _ => True) a.wellFormed hv.1 (hlen.trans (hv.length
    a.wellFormed)) fun _ _ => trivial).unrecorded.evolves

theorem Apart.contents_gradient (a : Apart P h) (hp : p ∈ P) {g : TensorId}
    (hg : h.gradient q = some g) : (h.updated p values).contents g = h.contents g :=
  Heap.contents_updated_of_ne (a.updatable p hp).1.1
    (a.wellFormed.gradient_apart hg (a.updatable p hp).1)

theorem Apart.contents_other (a : Apart P h) (hp : p ∈ P) (hq : q ∈ P) (hne : p ≠ q) :
    (h.updated p values).contents q = h.contents q :=
  Heap.contents_updated_of_ne (a.updatable p hp).1.1 (a.distinct p hp q hq hne)

theorem Apart.updated_comm (a : Apart P h) (hp : p ∈ P) (hq : q ∈ P) (hne : p ≠ q) :
    ((h.updated p values).updated q values').erased =
      ((h.updated q values').updated p values).erased := by
  have ht := List.getElem?_eq_getElem (a.updatable p hp).1.1
  have ht' := List.getElem?_eq_getElem (a.updatable q hq).1.1
  have hstorage := a.distinct p hp q hq hne
  rw [Heap.storageOf, Heap.storageOf, ht, ht', Option.map_some, Option.map_some, ne_eq,
    Option.some.injEq] at hstorage
  have hcounter := (a.wellFormed.placed p _ ht).counter
  have hcounter' := (a.wellFormed.placed q _ ht').counter
  rw [Heap.updated_of ht, Heap.updated_of ht', Heap.updated_of (h := h.written _ _) ht',
    Heap.updated_of (h := h.written _ _) ht]
  simp only [Heap.written, Heap.mutate, Heap.setStorage, Heap.bumpVersion, Heap.erased,
    List.set_comm _ _ hstorage, hcounter, hcounter', List.modify_modify_ne _ _ _ hstorage]

theorem Heap.updated_erased (h : Heap F) (p : TensorId) (values : List F) :
    (h.erased.updated p values).erased = (h.updated p values).erased := by
  cases ht : h.tensors[p]? with
  | none =>
      have ht' : h.erased.tensors[p]? = none := ht
      simp only [updated, ht, ht']
      rfl
  | some t =>
      rw [Heap.updated_of ht, Heap.updated_of (h := h.erased) ht]
      rfl

theorem commutes_cleared : Commutes (fun h h' : Heap F => h'.erased = h.erased) (fun _ => True)
    (fun _ => True) Heap.cleared where
  refl := fun _ => rfl
  trans := fun h h' => h'.trans h
  keeps := fun _ _ => trivial
  respects := by
    intro h h' p _ _ _ hsame
    exact (congrArg (fun h : Heap F => h.cleared p) hsame :)
  comm := by
    intro h p q _ _ hne _
    simp only [Heap.cleared, Heap.erased, List.modify_modify_ne _ _ _ hne]

end Apart

namespace Training
variable [Scalar F] [Scalar D] [Precision F D]

/-- What a step does to one parameter, by the moments kept of it. -/
def stepSlot (kind : OptimizerKind) (hyper : Hyperparameters D) (step : Nat)
    (state : Heap F × Slots F) (p : TensorId) : Heap F × Slots F :=
  match state.1.gradient p with
  | none => state
  | some g =>
      let arrays := updatedArrays kind hyper step (state.1.contents p) (state.1.contents g)
        (state.2 p).1 (some (state.2 p).2)
      (state.1.updated p arrays.1, Function.update state.2 p (arrays.2.1, arrays.2.2.getD []))

variable {h : Heap F} (kind : OptimizerKind) (hyper : Hyperparameters D) {step : Nat}
  {parameters : List TensorId} {slots : Slots F} {moments : Moments F}

theorem updatedArrays_second (step : Nat) (values gradient first second : List F) :
    ∃ after, (updatedArrays kind hyper step values gradient first (some second)).2.2 =
      some after := by
  unfold updatedArrays
  split
  · exact ⟨_, rfl⟩
  · exact ⟨_, rfl⟩

theorem stepParameter_slot (hnodup : parameters.Nodup) (m : moments.Keeps slots step parameters)
    {entry : TensorId × Nat} (hp : parameters[entry.2]? = some entry.1) :
    (stepParameter kind hyper (h, moments) entry).1 =
        (stepSlot kind hyper step (h, slots) entry.1).1 ∧
      (stepParameter kind hyper (h, moments) entry).2.Keeps
        (stepSlot kind hyper step (h, slots) entry.1).2 step parameters := by
  obtain ⟨p, i⟩ := entry
  have hfirst := m.first i p hp
  have hsecond := m.second i p hp
  unfold stepParameter stepSlot
  cases hg : h.gradient p with
  | none => exact ⟨rfl, m⟩
  | some g =>
      simp only [List.getD_eq_getElem?_getD, hfirst, hsecond, Option.getD_some, m.step]
      obtain ⟨after, hafter⟩ := updatedArrays_second kind hyper step
        (h.contents p) (h.contents g) (slots p).1 (slots p).2
      rw [hafter]
      have hother : ∀ (j : Nat) q, parameters[j]? = some q → j ≠ i → q ≠ p := by
        rintro j q hq hne rfl
        exact hne (List.getElem?_inj (List.getElem?_eq_some_iff.mp hq).1 hnodup |>.mp
          (hq.trans hp.symm))
      refine ⟨trivial, m.step, fun j q hq => ?_, fun j q hq => ?_⟩
      · by_cases hj : j = i
        · subst hj
          obtain rfl := Option.some.inj (hq.symm.trans hp)
          simp only [Moments.setAt, Function.update_self]
          exact List.getElem?_set_self (List.getElem?_eq_some_iff.mp hfirst).1
        · simp only [Moments.setAt, Function.update_of_ne (hother j q hq hj)]
          rw [List.getElem?_set_ne (Ne.symm hj), m.first j q hq]
      · by_cases hj : j = i
        · subst hj
          obtain rfl := Option.some.inj (hq.symm.trans hp)
          simp only [Moments.setAt, Function.update_self]
          exact List.getElem?_set_self (List.getElem?_eq_some_iff.mp hsecond).1
        · simp only [Moments.setAt, Function.update_of_ne (hother j q hq hj)]
          rw [List.getElem?_set_ne (Ne.symm hj), m.second j q hq]

theorem foldl_slot (hnodup : parameters.Nodup) (m : moments.Keeps slots step parameters)
    {entries : List (TensorId × Nat)}
    (hentries : ∀ entry ∈ entries, parameters[entry.2]? = some entry.1) :
    (entries.foldl (stepParameter kind hyper) (h, moments)).1 =
        ((entries.map Prod.fst).foldl (stepSlot kind hyper step) (h, slots)).1 ∧
      (entries.foldl (stepParameter kind hyper) (h, moments)).2.Keeps
        ((entries.map Prod.fst).foldl (stepSlot kind hyper step) (h, slots)).2 step
        parameters := by
  induction entries generalizing h moments slots with
  | nil => exact ⟨rfl, m⟩
  | cons entry entries ih =>
      obtain ⟨hheap, hkeeps⟩ :=
        stepParameter_slot (h := h) kind hyper hnodup m (hentries entry List.mem_cons_self)
      have hrest := ih (h := (stepParameter kind hyper (h, moments) entry).1) hkeeps
        fun other hother => hentries other (List.mem_cons_of_mem _ hother)
      rw [List.map_cons, List.foldl_cons, List.foldl_cons]
      rw [show stepSlot kind hyper step (h, slots) entry.1 =
        ((stepParameter kind hyper (h, moments) entry).1,
          (stepSlot kind hyper step (h, slots) entry.1).2) from Prod.ext hheap.symm rfl]
      exact hrest

theorem stepAll_slot (hnodup : parameters.Nodup) (m : moments.Keeps slots step parameters) :
    (stepAll kind hyper parameters (h, moments)).1 =
        (parameters.foldl (stepSlot kind hyper (add64 step 1)) (h, slots)).1 ∧
      (stepAll kind hyper parameters (h, moments)).2.Keeps
        (parameters.foldl (stepSlot kind hyper (add64 step 1)) (h, slots)).2 (add64 step 1)
        parameters := by
  have hnext : moments.nextStep.Keeps slots (add64 step 1) parameters :=
    ⟨by simp only [Moments.nextStep, m.step], m.first, m.second⟩
  have hentries : ∀ entry ∈ parameters.zipIdx, parameters[entry.2]? = some entry.1 :=
    fun entry hmem => List.mem_zipIdx_iff_getElem?.mp hmem
  have hfold := foldl_slot (h := h) kind hyper hnodup hnext hentries
  rwa [List.zipIdx_map_fst] at hfold

section Reordered
variable {P : List TensorId} {p q : TensorId}

/-- The same heap but for the order of the mutations, and the same moments. -/
def SameSlots (state state' : Heap F × Slots F) : Prop :=
  state'.1.erased = state.1.erased ∧ state'.2 = state.2

theorem stepSlot_erased (step : Nat) (h : Heap F) (slots : Slots F) (p : TensorId) :
    SameSlots (stepSlot kind hyper step (h.erased, slots) p)
      (stepSlot kind hyper step (h, slots) p) := by
  have hgradient : h.erased.gradient p = h.gradient p := rfl
  have hcontents : ∀ id, h.erased.contents id = h.contents id := fun _ => rfl
  unfold stepSlot
  simp only [hgradient, hcontents]
  cases h.gradient p with
  | none => exact ⟨rfl, rfl⟩
  | some g => exact ⟨(h.updated_erased p _).symm, rfl⟩

theorem stepSlot_same {state state' : Heap F × Slots F} (h : SameSlots state state')
    (p : TensorId) :
    SameSlots (stepSlot kind hyper step state p) (stepSlot kind hyper step state' p) := by
  obtain ⟨heap, slots⟩ := state
  obtain ⟨heap', slots'⟩ := state'
  obtain ⟨hheap, hslots⟩ := h
  have hleft := stepSlot_erased kind hyper step heap slots p
  have hright := stepSlot_erased kind hyper step heap' slots' p
  simp only at hheap hslots
  rw [hheap, hslots] at hright
  rw [hslots]
  exact ⟨hright.1.trans hleft.1.symm, hright.2.trans hleft.2.symm⟩

theorem length_stepped {kind : OptimizerKind} {hyper : Hyperparameters D} {g : TensorId}
    {slots : Slots F} :
    (updatedArrays kind hyper step (h.contents p) (h.contents g) (slots p).1
      (some (slots p).2)).1.length = (h.contents p).length := length_updatedArrays

theorem apart_stepSlot (a : Apart P h) (hp : p ∈ P) :
    Apart P (stepSlot kind hyper step (h, slots) p).1 := by
  unfold stepSlot
  cases hg : h.gradient p with
  | none => exact a
  | some g => exact a.evolve (a.evolves_updated hp length_stepped)

theorem stepSlot_comm (a : Apart P h) (hp : p ∈ P) (hq : q ∈ P) (hne : p ≠ q) :
    SameSlots (stepSlot kind hyper step (stepSlot kind hyper step (h, slots) p) q)
      (stepSlot kind hyper step (stepSlot kind hyper step (h, slots) q) p) := by
  unfold stepSlot
  cases hg : h.gradient p with
  | none =>
      cases hg' : h.gradient q with
      | none =>
          simp only [hg]
          exact ⟨rfl, rfl⟩
      | some g' =>
          simp only [hg, Heap.gradient_updated]
          exact ⟨rfl, rfl⟩
  | some g =>
      cases hg' : h.gradient q with
      | none =>
          simp only [hg, hg', Heap.gradient_updated]
          exact ⟨rfl, rfl⟩
      | some g' =>
          simp only [hg, hg', Heap.gradient_updated, a.contents_gradient hp hg',
            a.contents_gradient hq hg, a.contents_other hp hq hne,
            a.contents_other hq hp (Ne.symm hne), Function.update_of_ne hne,
            Function.update_of_ne (Ne.symm hne)]
          exact ⟨(a.updated_comm hp hq hne).symm, (Function.update_comm hne _ _ _).symm⟩

theorem commutes_stepSlot (P : List TensorId) :
    Commutes SameSlots (fun state : Heap F × Slots F => Apart P state.1) (· ∈ P)
      (stepSlot kind hyper step) where
  refl := fun _ => ⟨rfl, rfl⟩
  trans := fun h h' => ⟨h'.1.trans h.1, h'.2.trans h.2⟩
  keeps := fun hp a => apart_stepSlot kind hyper a hp
  respects := fun _ _ _ h => stepSlot_same kind hyper h _
  comm := fun hp hq hne a => stepSlot_comm kind hyper a hp hq hne

theorem stepSlot_of_ne (hne : q ≠ p) (state : Heap F × Slots F) :
    (stepSlot kind hyper step state p).2 q = state.2 q := by
  unfold stepSlot
  cases state.1.gradient p with
  | none => rfl
  | some g => exact Function.update_of_ne hne _ _

theorem foldl_stepSlot_of_not_mem {ps : List TensorId} (hq : q ∉ ps) (state : Heap F × Slots F) :
    (ps.foldl (stepSlot kind hyper step) state).2 q = state.2 q := by
  induction ps generalizing state with
  | nil => rfl
  | cons p ps ih =>
      rw [List.foldl_cons, ih (fun hmem => hq (List.mem_cons_of_mem _ hmem)),
        stepSlot_of_ne kind hyper (List.ne_of_not_mem_cons hq)]

end Reordered

end Training

end Tensora
