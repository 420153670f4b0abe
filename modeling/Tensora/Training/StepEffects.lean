import Mathlib.Data.List.Nodup
import Tensora.Training.StepSpecs

/-! What a whole step does to one parameter when no two parameters share a storage: its own
update, whatever the others are. -/
namespace Tensora
open CheckedLoop

variable {F D : Type}

section Updated
variable {h : Heap F} {id other : TensorId} {values : List F}

theorem Heap.contents_updated_self (wf : WellFormed h) (hid : id < h.tensors.length)
    (hrow : h.contiguous id = true) (hlen : values.length = (h.dims id).prod) :
    (h.updated id values).contents id = values := by
  have ht := List.getElem?_eq_getElem hid
  have hp := wf.placed id _ ht
  rw [Heap.updated_of ht, Heap.contents_written]
  apply Heap.contents_setStorage_self wf ht
  · rw [Heap.contiguous_of ht] at hrow
    exact (Tensor.isContiguous_iff hp.layout).mp hrow
  · rw [hlen, ← wf.length_contents ht, Heap.contents_of ht, hp.length_read]

theorem Heap.contents_updated_of_ne (hid : id < h.tensors.length)
    (hne : h.storageOf id ≠ h.storageOf other) :
    (h.updated id values).contents other = h.contents other := by
  have ht := List.getElem?_eq_getElem hid
  rw [Heap.updated_of ht, Heap.contents_written]
  apply Heap.contents_setStorage_of_ne
  intro t ht' hstorage
  apply hne
  rw [Heap.storageOf, Heap.storageOf, ht, ht', Option.map_some, Option.map_some, hstorage]

theorem WellFormed.gradient_apart (wf : WellFormed h) {leaf g : TensorId}
    (hg : h.gradient leaf = some g) (hv : h.Visible id) : h.storageOf id ≠ h.storageOf g := by
  intro heq
  obtain ⟨t, ht, -, -, halone⟩ := (wf.owned leaf g hg).tensor
  obtain ⟨t', ht'⟩ := hv.get
  rw [Heap.storageOf, Heap.storageOf, ht, ht', Option.map_some, Option.map_some,
    Option.some.injEq] at heq
  exact hv.2 leaf (halone id t' ht' heq ▸ hg)

end Updated

namespace Training

def slot (state : Heap F × Moments F) (entry : TensorId × Nat) :
    List F × List F × Option (List F) :=
  (state.1.contents entry.1, state.2.firstMoment.getD entry.2 [], state.2.secondMoment[entry.2]?)

variable [Scalar F] [Scalar D] [Precision F D]

def slotAfter (kind : OptimizerKind) (hyper : Hyperparameters D) (state : Heap F × Moments F)
    (entry : TensorId × Nat) : List F × List F × Option (List F) :=
  match state.1.gradient entry.1 with
  | none => slot state entry
  | some g =>
      let (values, first, second) := slot state entry
      updatedArrays kind hyper state.2.step values (state.1.contents g) first second

variable {h : Heap F} {kind : OptimizerKind} (hyper : Hyperparameters D)
  {parameters : List TensorId} {state : Heap F × Moments F} {entry : TensorId × Nat}

theorem slot_stepParameter_self (g : Stepping h kind parameters state)
    (u : Updatable h parameters) (hp : parameters[entry.2]? = some entry.1) :
    slot (stepParameter kind hyper state entry) entry = slotAfter kind hyper state entry := by
  obtain ⟨h', moments⟩ := state
  obtain ⟨p, i⟩ := entry
  have e := g.touches.unrecorded.evolves
  obtain ⟨hv, hrow⟩ := u.evolve e p (List.mem_of_getElem? hp)
  obtain ⟨first, hfirst, hb⟩ := buffers_of_fits g.fits hp
  simp only at hp hv hrow hfirst hb e
  unfold stepParameter slotAfter
  cases hg : h'.gradient p with
  | none => rfl
  | some grad =>
      simp only [slot]
      generalize harrays : updatedArrays kind hyper moments.step (h'.contents p)
        (h'.contents grad) (moments.firstMoment.getD i []) moments.secondMoment[i]? = arrays
      have hlen : arrays.1.length = (h'.dims p).prod := by
        rw [← harrays, length_updatedArrays, hv.length e.wellFormed]
      refine Prod.ext (Heap.contents_updated_self e.wellFormed hv.1 hrow hlen) (Prod.ext ?_ ?_)
      · simp only [Moments.setAt, List.getD_eq_getElem?_getD]
        rw [List.getElem?_set_self (List.getElem?_eq_some_iff.mp hfirst).1, Option.getD_some]
      · -- SGD puts back what it was given, the others a buffer they were given room for
        simp only [Moments.setAt]
        cases hsecond : arrays.2.2 with
        | none =>
            rw [← harrays, updatedArrays] at hsecond
            simp only at hsecond
            split at hsecond
            · exact hsecond
            · cases hsecond
        | some second =>
            refine List.getElem?_set_self ?_
            rw [← harrays, updatedArrays] at hsecond
            simp only at hsecond
            split at hsecond
            · exact (List.getElem?_eq_some_iff.mp hsecond).1
            · rename_i hk
              obtain ⟨xs, hxs, -⟩ := hb.second hk
              exact (List.getElem?_eq_some_iff.mp hxs).1

theorem slot_stepParameter_of_ne (g : Stepping h kind parameters state)
    (u : Updatable h parameters) {other : TensorId × Nat}
    (hp : parameters[entry.2]? = some entry.1) (ho : parameters[other.2]? = some other.1)
    (hindex : other.2 ≠ entry.2) (hstorage : h.storageOf other.1 ≠ h.storageOf entry.1) :
    slot (stepParameter kind hyper state other) entry = slot state entry ∧
      ∀ grad, h.gradient entry.1 = some grad →
        (stepParameter kind hyper state other).1.contents grad = state.1.contents grad := by
  obtain ⟨h', moments⟩ := state
  obtain ⟨p, i⟩ := entry
  obtain ⟨q, j⟩ := other
  have e := g.touches.unrecorded.evolves
  have hvp := (u p (List.mem_of_getElem? hp)).1
  have hvq := (u q (List.mem_of_getElem? ho)).1
  have hvq' := e.visible q hvq
  simp only at hindex hstorage e hvq'
  rw [← e.storageOf hvq.1, ← e.storageOf hvp.1] at hstorage
  unfold stepParameter
  cases hg : h'.gradient q with
  | none => exact ⟨rfl, fun _ _ => rfl⟩
  | some grad =>
      refine ⟨?_, fun grad' hgrad' => ?_⟩
      · simp only [slot, Moments.setAt, List.getD_eq_getElem?_getD]
        rw [Heap.contents_updated_of_ne hvq'.1 hstorage, List.getElem?_set_ne hindex]
        split <;> simp only [List.getElem?_set_ne hindex]
      · rw [← g.gradients] at hgrad'
        exact Heap.contents_updated_of_ne hvq'.1 (e.wellFormed.gradient_apart hgrad' hvq')

theorem slot_foldl_of_ne {entries : List (TensorId × Nat)} (g : Stepping h kind parameters state)
    (u : Updatable h parameters) (hp : parameters[entry.2]? = some entry.1)
    (hentries : ∀ other ∈ entries, parameters[other.2]? = some other.1 ∧ other.2 ≠ entry.2 ∧
      h.storageOf other.1 ≠ h.storageOf entry.1) :
    Stepping h kind parameters (entries.foldl (stepParameter kind hyper) state) ∧
      slot (entries.foldl (stepParameter kind hyper) state) entry = slot state entry ∧
      ∀ grad, h.gradient entry.1 = some grad →
        (entries.foldl (stepParameter kind hyper) state).1.contents grad =
          state.1.contents grad := by
  induction entries generalizing state with
  | nil => exact ⟨g, rfl, fun _ _ => rfl⟩
  | cons other entries ih =>
      obtain ⟨ho, hindex, hstorage⟩ := hentries other List.mem_cons_self
      obtain ⟨hslot, hgrad⟩ :=
        slot_stepParameter_of_ne hyper g u hp ho hindex hstorage
      have hnext : Stepping h kind parameters (stepParameter kind hyper state other) := g.next u ho
      obtain ⟨g', hslot', hgrad'⟩ := ih hnext
        fun other' hmem => hentries other' (List.mem_cons_of_mem _ hmem)
      exact ⟨g', hslot'.trans hslot, fun grad hg => (hgrad' grad hg).trans (hgrad grad hg)⟩

/-- A step does to each parameter what it would do to it alone. -/
theorem slot_stepAll {moments : Moments F} (wf : WellFormed h) (u : Updatable h parameters)
    (m : moments.Fits h kind parameters)
    (hdistinct : (parameters.map h.storageOf).Nodup) (hp : parameters[entry.2]? = some entry.1) :
    slot (stepAll kind hyper parameters (h, moments)) entry =
      slotAfter kind hyper (h, moments.nextStep) entry := by
  have hmem : entry ∈ parameters.zipIdx := List.mem_zipIdx_iff_getElem?.mpr hp
  obtain ⟨front, back, hsplit⟩ := List.append_of_mem hmem
  have hothers : ∀ other ∈ front ++ back, parameters[other.2]? = some other.1 ∧
      other.2 ≠ entry.2 ∧ h.storageOf other.1 ≠ h.storageOf entry.1 := by
    intro other ho
    have hmem' : other ∈ parameters.zipIdx := by
      rw [hsplit]
      exact List.mem_append.mpr ((List.mem_append.mp ho).imp id (List.mem_cons_of_mem _))
    have hother := List.mem_zipIdx_iff_getElem?.mp hmem'
    have hindices : (parameters.zipIdx.map Prod.snd).Nodup := by
      rw [List.zipIdx_map_snd]
      exact List.nodup_range'
    have hindex : other.2 ≠ entry.2 := by
      rw [hsplit, List.map_append, List.map_cons, List.nodup_middle, ← List.map_append] at hindices
      intro heq
      exact (List.nodup_cons.mp hindices).1 (heq ▸ List.mem_map_of_mem ho)
    refine ⟨hother, hindex, fun hstorage => hindex ?_⟩
    refine (List.getElem?_inj ?_ hdistinct).mp ?_
    · simpa using (List.getElem?_eq_some_iff.mp hother).1
    · rw [List.getElem?_map, List.getElem?_map, hother, hp, Option.map_some, Option.map_some,
        hstorage]
  unfold stepAll
  rw [hsplit, List.foldl_append, List.foldl_cons]
  obtain ⟨g₁, hslot₁, hgrad₁⟩ := slot_foldl_of_ne hyper (Stepping.start wf m) u hp
    fun other ho => hothers other (List.mem_append_left back ho)
  have g₂ : Stepping h kind parameters (stepParameter kind hyper _ entry) := g₁.next u hp
  obtain ⟨-, hslot₃, -⟩ := slot_foldl_of_ne hyper g₂ u hp
    fun other ho => hothers other (List.mem_append_right front ho)
  rw [hslot₃, slot_stepParameter_self hyper g₁ u hp]
  unfold slotAfter
  rw [g₁.gradients, step_foldl]
  cases hg : h.gradient entry.1 with
  | none => exact hslot₁
  | some grad =>
      simp only [hslot₁, hgrad₁ grad hg]

end Training

end Tensora
