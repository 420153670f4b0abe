import Tensora.Dart.IsolateLedger
import Tensora.Optim.Constructions
import Tensora.Optim.Driving

/-! An optimizer over groups of parameters and one over all of them in one group: both can be
constructed or neither, and from then on they drive the parameters alike. -/
namespace Tensora.Optim
open ProgramLogic Training
open Adoption (Handle Thrown Wrapper)
open Dart (Isolate IsolateM IsolateAnswer Ledger shiftedTensor shiftedWrapper)
open Api (Part Team)

variable {F D : Type}

/-- Groups with equal hyperparameters that divide the parameters of one group, which are those of
different tensors, so that each has one that can be trained. -/
structure Partition [Scalar D] (kind : OptimizerKind) (given : Hyperparameters D)
    (s : Isolate F D) (whole : ParameterGroup D) (groups : List (ParameterGroup D)) : Prop where
  parts : whole.parameters.Perm (groups.flatMap ParameterGroup.parameters)
  equal : ∀ group ∈ groups, hyperOf kind given group = hyperOf kind given whole
  distinct : ((whole.parameters.filterMap (tensorOf s)).map (runtimeOf s).heap.identity).Nodup
  graded : ∀ group ∈ groups, trainable s group.parameters ≠ []

section Whole
variable {s : Isolate F D} {kind : OptimizerKind} {given hyper : Hyperparameters D}
  {whole : ParameterGroup D} {groups : List (ParameterGroup D)}

theorem trainable_flatMap (s : Isolate F D) (groups : List (ParameterGroup D)) :
    trainable s (groups.flatMap ParameterGroup.parameters) =
      groups.flatMap fun group => trainable s group.parameters := by
  induction groups with
  | nil => rfl
  | cons group groups ih =>
      rw [List.flatMap_cons, List.flatMap_cons, ← ih]
      simp only [trainable, List.filterMap_append, List.filter_append]

theorem trainable_perm {parameters parameters' : List Nat} (h : parameters.Perm parameters') :
    (trainable s parameters).Perm (trainable s parameters') := (h.filterMap _).filter _

theorem trained_eq {parts : List Part}
    (h : parts.map Part.parameters = groups.map fun group => trainable s group.parameters) :
    Part.trained parts = trainable s (groups.flatMap ParameterGroup.parameters) := by
  rw [trainable_flatMap, Part.trained, List.flatMap_def, h, List.flatMap_def]

variable [Scalar D]

theorem Partition.graded_whole (p : Partition kind given s whole groups) (hne : groups ≠ []) :
    trainable s whole.parameters ≠ [] := by
  obtain ⟨group, hgroup⟩ := List.exists_mem_of_ne_nil _ hne
  obtain ⟨id, hid⟩ := List.exists_mem_of_ne_nil _ (p.graded group hgroup)
  have hmem : id ∈ trainable s whole.parameters := by
    rw [(trainable_perm p.parts).mem_iff, trainable_flatMap]
    exact List.mem_flatMap.mpr ⟨group, hgroup, hid⟩
  exact List.ne_nil_of_mem hmem

theorem Partition.creatable_iff (p : Partition kind given s whole groups) (hne : groups ≠ []) :
    Creatable kind hyper s whole.parameters ↔
      ∀ group ∈ groups, Creatable kind hyper s group.parameters := by
  have hwhole : (whole.parameters.filterMap (tensorOf s)).Nodup := p.distinct.of_map _
  constructor
  · intro c group hgroup
    have hsublist : group.parameters.Sublist (groups.flatMap ParameterGroup.parameters) :=
      List.sublist_flatten_of_mem (List.mem_map_of_mem hgroup)
    have hmem : ∀ q ∈ group.parameters, q ∈ whole.parameters := fun q hq =>
      p.parts.mem_iff.mpr (hsublist.subset hq)
    refine ⟨c.accepted, fun q hq => c.live q (hmem q hq), ?_, fun id hid => c.updatable id ?_⟩
    · exact (((p.parts.filterMap _).nodup_iff).mp hwhole).sublist (hsublist.filterMap _)
    · rw [(trainable_perm p.parts).mem_iff, trainable_flatMap]
      exact List.mem_flatMap.mpr ⟨group, hgroup, hid⟩
  · intro h
    obtain ⟨group, hgroup⟩ := List.exists_mem_of_ne_nil _ hne
    refine ⟨(h group hgroup).accepted, fun q hq => ?_, hwhole, fun id hid => ?_⟩
    · obtain ⟨group, hgroup, hmem⟩ := List.mem_flatMap.mp (p.parts.mem_iff.mp hq)
      exact (h group hgroup).live q hmem
    · rw [(trainable_perm p.parts).mem_iff, trainable_flatMap] at hid
      obtain ⟨group, hgroup, hmem⟩ := List.mem_flatMap.mp hid
      exact (h group hgroup).updatable id hmem

theorem Partition.constructible_iff (p : Partition kind given s whole groups)
    (hne : groups ≠ []) :
    Constructible kind given hyper s [whole] ↔ Constructible kind given hyper s groups := by
  have hflat : [whole].flatMap ParameterGroup.parameters = whole.parameters :=
    List.flatMap_singleton _ _
  constructor
  · rintro ⟨haccept, hidentified, hcreatable⟩
    rw [hflat] at hidentified
    exact ⟨haccept, hidentified.perm p.parts, (p.creatable_iff hne).mp (hcreatable whole
      (List.mem_singleton_self _))⟩
  · rintro ⟨haccept, hidentified, hcreatable⟩
    refine ⟨haccept, hflat.symm ▸ hidentified.perm p.parts.symm, ?_⟩
    exact List.forall_mem_singleton.mpr ((p.creatable_iff hne).mpr hcreatable)

end Whole

section Handles
variable {s s₁ t₁ : Isolate F D}

/-- The handles of the live tensors are some of those issued before. -/
theorem tensors_unshifted {count k : Nat} (l : Ledger count s) :
    s.host.tensors.map (shiftedTensor (runtimeOf s).registry.nextHandle k) = s.host.tensors := by
  obtain ⟨store, r⟩ := l.tensors
  refine (List.map_congr_left fun wrapper hmem => ?_).trans (List.map_id _)
  unfold shiftedTensor
  cases hdisposed : wrapper.disposed with
  | true => rfl
  | false =>
      obtain ⟨object, hfind⟩ := r.holds.once wrapper.handle
        (Dart.mem_owned.mpr ⟨wrapper, hmem, hdisposed, rfl⟩)
      have hissued : wrapper.handle ≤ (runtimeOf s).registry.nextHandle := by
        by_contra hlater
        have hnone := r.ok.handles.unissued wrapper.handle (Nat.not_le.mp hlater).le
        rw [hfind] at hnone
        cases hnone
      rw [if_neg Bool.false_ne_true, shiftedWrapper, shift, if_pos hissued]
      rfl

/-- The second state has issued `k` more handles, all of them of optimizers. -/
theorem shifted_of_grown {k : Nat} (ok₁ : (runtimeOf s₁).Ok)
    (ok₂ : (runtimeOf t₁).Ok) (g : Grown 1 s s₁) (g' : Grown (k + 1) s t₁) :
    (runtimeOf s₁).registry.Shifted (runtimeOf s).registry.nextHandle k
      (runtimeOf t₁).registry where
  find := by
    intro handle
    have hnext := g.next
    have hnext' := g'.next
    -- the handles of before, the first that was issued, and those after it, none of which is left
    rcases lt_trichotomy handle (runtimeOf s).registry.nextHandle with hlt | rfl | hlt
    · rw [shift, if_pos hlt.le, g.old handle hlt, g'.old handle hlt]
      cases (runtimeOf s).registry.find handle with
      | none => exact .none
      | some e => exact .some (Or.inl rfl)
    · obtain ⟨object, hfind⟩ := g.new _ (Nat.le_refl _) (by omega)
      obtain ⟨object', hfind'⟩ := g'.new _ (Nat.le_refl _) (by omega)
      rw [shift, if_pos (Nat.le_refl _), hfind, hfind']
      exact .some (Or.inr ⟨rfl, rfl, rfl⟩)
    · rw [shift_of_lt hlt, ok₁.handles.unissued handle (by omega),
        ok₂.handles.unissued (handle + k) (by omega)]
      exact .none
  next := by rw [g.next, g'.next]; omega
  past := by rw [g.next]; omega

end Handles

section Start
variable [Scalar F] [Scalar D] {s s₁ t₁ : Isolate F D} {kind : OptimizerKind}
  {hyper : Hyperparameters D} {natives natives' : List Nat} {parts parts' : List Part}
  {xs ys : List (ParameterGroup D)} {room : Nat}

theorem Built.trained (b : Built kind hyper s xs natives parts s₁) :
    Part.trained parts = trainable s (xs.flatMap ParameterGroup.parameters) :=
  trained_eq b.parameters

theorem Built.drives (b : Built kind hyper s xs natives parts s₁) (ok : (runtimeOf s).Ok)
    (hdistinct : (((xs.flatMap ParameterGroup.parameters).filterMap (tensorOf s)).map
      (runtimeOf s).heap.identity).Nodup) :
    Drives kind hyper (freshSlots (runtimeOf s).heap) 0 natives parts s₁ where
  owns := b.owns
  team := by
    refine ⟨b.trains, b.objects, ?_⟩
    rw [b.trained]
    exact (hdistinct.of_map _).filter _
  apart := by
    rw [b.trained, b.grown.heap]
    have hupdatable : Updatable (runtimeOf s).heap
        (trainable s (xs.flatMap ParameterGroup.parameters)) := by
      intro id hid
      rw [trainable_flatMap] at hid
      obtain ⟨group, hgroup, hmem⟩ := List.mem_flatMap.mp hid
      exact (b.creatable group hgroup).updatable id hmem
    refine ⟨ok.wellFormed, hupdatable, fun p hp q hq hne hstorage => hne ?_⟩
    have hidentity := Heap.identity_of_storageOf ok.wellFormed (hupdatable p hp).1.1
      (hupdatable q hq).1.1 hstorage
    exact List.inj_on_of_nodup_map hdistinct (List.mem_of_mem_filter hp)
      (List.mem_of_mem_filter hq) hidentity

variable {given : Hyperparameters D} {whole : ParameterGroup D} {groups : List (ParameterGroup D)}
  {optimizer optimizer' : Optimizer D}

theorem driven_of_constructed {count k : Nat} (l : Ledger count s) (hlength : groups.length = k + 1)
    (p : Partition kind given s whole groups)
    (c : Constructed kind hyper room s [whole] parts optimizer s₁)
    (c' : Constructed kind hyper room s groups parts' optimizer' t₁) :
    Driven (runtimeOf s).registry.nextHandle k kind hyper optimizer optimizer' parts parts' room s₁
      t₁ := by
  obtain ⟨store, r⟩ := l.tensors
  have g' : Grown (k + 1) s t₁ := hlength ▸ c'.built.grown
  have hflat : [whole].flatMap ParameterGroup.parameters = whole.parameters :=
    List.flatMap_singleton _ _
  refine ⟨⟨⟨⟨?_, ⟨c.ample.lasts, c'.ample.lasts⟩, ?_, c'.ample.room⟩,
    ⟨c.ample.calloc, c'.ample.calloc⟩, .refl c.ample.ok, .refl c'.ample.ok⟩, ?_⟩, ?_,
    ⟨c.live, c'.live⟩, ?_, freshSlots (runtimeOf s).heap, 0,
    c.built.drives r.ok (hflat.symm ▸ p.distinct), c'.built.drives r.ok ?_⟩
  · change (runtimeOf t₁).heap.erased = (runtimeOf s₁).heap.erased
    rw [c.built.grown.heap, g'.heap]
  · exact shifted_of_grown c.ample.ok c'.ample.ok c.built.grown g'
  · rw [c.built.grown.tensors, g'.tensors, tensors_unshifted l]
  · rw [c.built.grown.objects, g'.objects]
  · rw [c.built.trained, c'.built.trained, hflat]
    exact trainable_perm p.parts
  · exact (((p.parts.filterMap _).map _).nodup_iff).mp p.distinct

end Start

end Tensora.Optim
