import Tensora.Optim.Creation

/-! The loop that creates the native optimizers of the groups: either every group can have one, and
they train its parameters from the beginning, or one of the groups cannot. -/
namespace Tensora.Optim
open ProgramLogic Training
open Dart (Isolate IsolateM Owner)
open Api (Part TrainsPart Team)

variable {F D : Type}

/-- What creating `count` native optimizers leaves of everything else. -/
structure Grown (count : Nat) (s s' : Isolate F D) : Prop where
  objects : s'.parameters = s.parameters
  tensors : s'.host.tensors = s.host.tensors
  heap : (runtimeOf s').heap = (runtimeOf s).heap
  next : (runtimeOf s').registry.nextHandle = (runtimeOf s).registry.nextHandle + count
  old : ∀ handle < (runtimeOf s).registry.nextHandle,
    (runtimeOf s').registry.find handle = (runtimeOf s).registry.find handle
  new : ∀ handle, (runtimeOf s).registry.nextHandle ≤ handle →
    handle < (runtimeOf s').registry.nextHandle → ∃ object,
      (runtimeOf s').registry.find handle = some ⟨.parameterOptimizer, 1, object⟩

namespace Grown
variable {s s' s'' : Isolate F D} {count count' : Nat}

theorem refl (s : Isolate F D) : Grown 0 s s :=
  ⟨rfl, rfl, rfl, rfl, fun _ _ => rfl, fun _ hle hlt => absurd hlt (Nat.not_lt.mpr hle)⟩

theorem trans (g : Grown count s s') (g' : Grown count' s' s'') :
    Grown (count + count') s s'' where
  objects := g'.objects.trans g.objects
  tensors := g'.tensors.trans g.tensors
  heap := g'.heap.trans g.heap
  next := by rw [g'.next, g.next, Nat.add_assoc]
  old := by
    intro handle hlt
    rw [g'.old handle (by rw [g.next]; omega), g.old handle hlt]
  new := by
    intro handle hle hlt
    by_cases hmiddle : handle < (runtimeOf s').registry.nextHandle
    · rw [g'.old handle hmiddle]
      exact g.new handle hle hmiddle
    · exact g'.new handle (Nat.not_lt.mp hmiddle) hlt

section Objects
variable (g : Grown count s s') (ok : (runtimeOf s).Ok) (ok' : (runtimeOf s').Ok)
include g ok ok'

theorem objectOf_tensor (handle : Nat) :
    (runtimeOf s').objectOf handle .tensor = (runtimeOf s).objectOf handle .tensor := by
  unfold Runtime.objectOf
  by_cases hold : handle < (runtimeOf s).registry.nextHandle
  · rw [g.old handle hold]
  · have hle := Nat.not_lt.mp hold
    rw [ok.handles.unissued handle hle]
    by_cases hnew : handle < (runtimeOf s').registry.nextHandle
    · obtain ⟨object, hfind⟩ := g.new handle hle hnew
      rw [hfind]
      rfl
    · rw [ok'.handles.unissued handle (Nat.not_lt.mp hnew)]

theorem tensorOf_eq (parameter : Nat) : tensorOf s' parameter = tensorOf s parameter := by
  have hhandle : handleOf s' parameter = handleOf s parameter := by
    unfold handleOf
    rw [g.objects, g.tensors]
  unfold tensorOf
  rw [hhandle]
  exact congrArg (Option.bind _) (funext (g.objectOf_tensor ok ok'))

theorem trainable_eq (parameters : List Nat) :
    trainable s' parameters = trainable s parameters := by
  unfold trainable
  rw [funext (g.tensorOf_eq ok ok'), g.heap]

theorem creatable_iff [Scalar D] {kind : OptimizerKind} {hyper : Hyperparameters D}
    {parameters : List Nat} :
    Creatable kind hyper s' parameters ↔ Creatable kind hyper s parameters := by
  have htensor := funext (g.tensorOf_eq ok ok')
  constructor
  · rintro ⟨haccept, hlive, hdistinct, hupdatable⟩
    rw [htensor] at hdistinct
    rw [g.trainable_eq ok ok', g.heap] at hupdatable
    exact ⟨haccept, fun p hp => congrFun htensor p ▸ hlive p hp, hdistinct, hupdatable⟩
  · rintro ⟨haccept, hlive, hdistinct, hupdatable⟩
    refine ⟨haccept, fun p hp => (congrFun htensor p).symm ▸ hlive p hp, ?_, ?_⟩
    · rw [htensor]
      exact hdistinct
    · rw [g.trainable_eq ok ok', g.heap]
      exact hupdatable

end Objects

end Grown

/-- The moments of tensors no step was made for. -/
def freshSlots [Scalar F] (h : Heap F) : Slots F := fun p =>
  (List.replicate (h.dims p).prod 0, List.replicate (h.dims p).prod 0)

theorem keeps_fresh [Scalar F] (h : Heap F) (parameters : List TensorId) :
    (⟨0, zeroBuffers h parameters, zeroBuffers h parameters⟩ : Moments F).Keeps (freshSlots h) 0
      parameters where
  step := rfl
  first := fun i p hp => by simp only [zeroBuffers, List.getElem?_map, hp, Option.map_some,
    freshSlots]
  second := fun i p hp => by simp only [zeroBuffers, List.getElem?_map, hp, Option.map_some,
    freshSlots]

theorem Owns.append {owners : List Owner} {object : Nat} {part : Part}
    (h : Owns owners object part) (more : List Owner) : Owns (owners ++ more) object part := by
  obtain ⟨owner, hget, hrest⟩ := h
  have hlt := (List.getElem?_eq_some_iff.mp hget).1
  exact ⟨owner, by rw [List.getElem?_append_left hlt, hget], hrest⟩

section Created
variable [Scalar F] {s s' : Isolate F D}
  {kind : OptimizerKind} {hyper : Hyperparameters D} {parameters : List Nat} {object : Nat}

theorem Created.grown {room : Nat} (c : Created kind hyper s parameters object s')
    (a : Ample (room + 1) s) : Grown 1 s s' where
  objects := c.objects
  tensors := c.tensors
  heap := c.heap
  next := by rw [c.registry, next_withEntry a.room]
  old := by
    intro handle hlt
    rw [c.registry, HandleRegistry.find_withEntry_of_ne _ _ _ hlt.ne]
  new := by
    intro handle hle hlt
    rw [c.registry] at hlt ⊢
    rw [next_withEntry a.room] at hlt
    obtain rfl : handle = (runtimeOf s).registry.nextHandle := by omega
    exact ⟨_, HandleRegistry.find_withEntry _ _ _⟩

def partOf (s : Isolate F D) (parameters : List Nat) : Part where
  handle := (runtimeOf s).registry.nextHandle
  object := (runtimeOf s).parameterOptimizers.length
  parameters := trainable s parameters

theorem Created.owns (c : Created kind hyper s parameters object s') :
    Owns (s'.owners .parameterOptimizer) object (partOf s parameters) := by
  refine ⟨⟨(runtimeOf s).registry.nextHandle, false, true⟩, ?_, rfl, rfl⟩
  rw [c.owners, c.object, List.getElem?_concat_length]

theorem Created.trains (c : Created kind hyper s parameters object s') (ok : (runtimeOf s).Ok) :
    TrainsPart kind hyper (freshSlots (runtimeOf s).heap) 0 (runtimeOf s')
      (partOf s parameters) := by
  refine ⟨Api.newParameterOptimizer (runtimeOf s).heap kind (trainable s parameters) hyper, ?_, rfl,
    rfl, rfl, keeps_fresh _ _⟩
  have hobject : (runtimeOf s').objectOf (runtimeOf s).registry.nextHandle .parameterOptimizer =
      some (runtimeOf s).parameterOptimizers.length := by
    rw [Runtime.objectOf, if_neg ok.handles.pos.ne', c.registry, HandleRegistry.find_withEntry,
      Option.bind_some, if_pos rfl]
  change (runtimeOf s').parameterOptimizerAt (runtimeOf s).registry.nextHandle = _
  rw [Runtime.parameterOptimizerAt, hobject, Option.bind_some, c.optimizers,
    List.getElem?_concat_length]
  rfl

theorem Created.keepsTrains (c : Created kind hyper s parameters object s')
    (ok : (runtimeOf s).Ok) {slots : Slots F} {step : Nat} {part : Part}
    (t : TrainsPart kind hyper slots step (runtimeOf s) part) :
    TrainsPart kind hyper slots step (runtimeOf s') part ∧
      part.object < (runtimeOf s).parameterOptimizers.length := by
  obtain ⟨optimizer, hat, hrest⟩ := t
  have hget := Runtime.get_parameterOptimizerAt hat
  have hlt := (List.getElem?_eq_some_iff.mp hget).1
  refine ⟨⟨optimizer, ?_, hrest⟩, hlt⟩
  obtain ⟨object', hobject, hmap⟩ := Option.bind_eq_some_iff.mp hat
  obtain ⟨_, hentry, heq⟩ := Option.map_eq_some_iff.mp hmap
  cases heq
  refine Option.bind_eq_some_iff.mpr ⟨part.object, ?_, ?_⟩
  · rw [← hobject]
    unfold Runtime.objectOf
    -- the next handle stood for nothing before
    have hne : part.handle ≠ (runtimeOf s).registry.nextHandle := by
      intro heq
      rw [Runtime.objectOf, heq, ok.handles.unissued _ (Nat.le_refl _)] at hobject
      split at hobject <;> cases hobject
    rw [c.registry, HandleRegistry.find_withEntry_of_ne _ _ _ hne]
  · rw [c.optimizers, List.getElem?_append_left hlt, hget]
    rfl

variable [Scalar D]

/-- What the loop has created for the groups it went through. -/
structure Built (kind : OptimizerKind) (hyper : Hyperparameters D) (s : Isolate F D)
    (done : List (ParameterGroup D)) (natives : List Nat) (parts : List Part)
    (s' : Isolate F D) : Prop where
  grown : Grown done.length s s'
  creatable : ∀ group ∈ done, Creatable kind hyper s group.parameters
  parameters : parts.map Part.parameters = done.map fun group => trainable s group.parameters
  owns : List.Forall₂ (Owns (s'.owners .parameterOptimizer)) natives parts
  trains : ∀ part ∈ parts,
    TrainsPart kind hyper (freshSlots (runtimeOf s).heap) 0 (runtimeOf s') part
  objects : (parts.map Part.object).Nodup

variable {done : List (ParameterGroup D)} {natives : List Nat} {parts : List Part}

theorem built_nil (s : Isolate F D) : Built kind hyper s [] [] [] s :=
  ⟨.refl s, fun _ h => absurd h List.not_mem_nil, rfl, .nil, fun _ h => absurd h List.not_mem_nil,
    List.nodup_nil⟩

theorem Built.snoc {s'' : Isolate F D} {room : Nat} {group : ParameterGroup D}
    (b : Built kind hyper s done natives parts s') (ok : (runtimeOf s).Ok)
    (a : Ample (room + 1) s') (hcreatable : Creatable kind hyper s' group.parameters)
    (c : Created kind hyper s' group.parameters object s'') :
    Built kind hyper s (done ++ [group]) (natives ++ [object])
      (parts ++ [partOf s' group.parameters]) s'' where
  grown := by
    rw [List.length_append]
    exact b.grown.trans (c.grown a)
  creatable := by
    refine List.forall_mem_append.mpr ⟨b.creatable, List.forall_mem_singleton.mpr ?_⟩
    exact (b.grown.creatable_iff ok a.ok).mp hcreatable
  parameters := by
    rw [List.map_append, List.map_append, b.parameters]
    exact congrArg _ (congrArg (fun ids => [ids]) (b.grown.trainable_eq ok a.ok _))
  owns := by
    refine List.rel_append (b.owns.imp fun _ _ h => ?_) (.cons c.owns .nil)
    rw [c.owners]
    exact h.append _
  trains := by
    refine List.forall_mem_append.mpr ⟨fun part hpart => (c.keepsTrains a.ok (b.trains part
      hpart)).1, List.forall_mem_singleton.mpr ?_⟩
    have hnew := c.trains a.ok
    rwa [b.grown.heap] at hnew
  objects := by
    rw [List.map_append, List.nodup_append']
    refine ⟨b.objects, List.nodup_singleton _, ?_⟩
    rw [List.map_singleton, List.disjoint_singleton]
    intro hmem
    obtain ⟨part, hpart, hobject⟩ := List.mem_map.mp hmem
    have hlt := (c.keepsTrains a.ok (b.trains part hpart)).2
    exact hlt.ne hobject

variable [Precision F D] [FloatBits F]

theorem wp_createNativeGroups {create : ParameterGroup D → IsolateM F D Nat} {room : Nat}
    (ok : (runtimeOf s).Ok) {rest : List (ParameterGroup D)} (a : Ample (room + rest.length) s')
    (b : Built kind hyper s done natives parts s')
    (hcreate : ∀ group ∈ rest, create group = nativeOf kind hyper group.parameters)
    (hgraded : ∀ group ∈ rest, trainable s group.parameters ≠ []) :
    wp (createNativeGroups create rest natives)
      (fun natives' s'' => Ample room s'' ∧ ∃ parts',
        Built kind hyper s (done ++ rest) natives' parts' s'')
      (fun _ _ => ∃ group ∈ rest, ¬Creatable kind hyper s group.parameters) s' := by
  induction rest generalizing done natives parts s' with
  | nil =>
      unfold createNativeGroups
      rw [wp_pure, List.append_nil]
      exact ⟨a, parts, b⟩
  | cons group rest ih =>
      obtain ⟨hfirst, hrest⟩ := List.forall_mem_cons.mp hcreate
      obtain ⟨hgroup, hothers⟩ := List.forall_mem_cons.mp hgraded
      have hroom : Ample (room + rest.length + 1) s' := a
      rw [← b.grown.trainable_eq ok a.ok] at hgroup
      have hnative : wp (create group)
          (fun object s'' => Creatable kind hyper s' group.parameters ∧
            Ample (room + rest.length) s'' ∧ Created kind hyper s' group.parameters object s'')
          (fun _ _ => ¬Creatable kind hyper s group.parameters) s' := by
        rw [hfirst]
        refine wp_mono (wp_nativeOf hroom hgroup) (fun _ _ h => h) fun _ _ h => ?_
        exact mt (b.grown.creatable_iff ok a.ok).mpr h
      unfold createNativeGroups
      refine wp_seq (wp_tryCatch hnative ?_) (fun _ _ h => h) ?_
      · -- whether or not the earlier optimizers can be disposed of, the handler throws
        intro thrown s'' hbad
        exact wp_seq wp_any (fun _ _ _ => ⟨group, List.mem_cons_self, hbad⟩) fun _ _ _ =>
          ⟨group, List.mem_cons_self, hbad⟩
      · rintro object s'' ⟨hcreatable, a', c⟩
        refine wp_mono (ih a' (b.snoc ok hroom hcreatable c) hrest hothers) ?_ ?_
        · rintro natives' s₃ ⟨ha, parts', hbuilt⟩
          rw [List.append_assoc] at hbuilt
          exact ⟨ha, parts', hbuilt⟩
        · rintro _ _ ⟨other, hmem, hbad⟩
          exact ⟨other, List.mem_cons_of_mem _ hmem, hbad⟩

end Created

end Tensora.Optim
