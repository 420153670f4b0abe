import Tensora.Dart.IsolateRuns
import Tensora.Optim.Constructions

/-! What a construction leaves when the native optimizer of a group cannot be created, whatever
the reason: those of the groups before are disposed of again. -/
namespace Tensora.Optim
open ProgramLogic Training
open Adoption (Thrown)
open Dart (Isolate IsolateM Owner OwnerClass Ledger liveHandles setOwners)

variable {F D : Type} {count : Nat} {s s' : Isolate F D}

/-- The native optimizers that are alive are those of before. -/
def SameNatives (s t : Isolate F D) : Prop :=
  ∀ handle, ((runtimeOf t).objectOf handle .parameterOptimizer).isSome =
    ((runtimeOf s).objectOf handle .parameterOptimizer).isSome

theorem sameNatives_of_ledgers (l : Ledger count s) (l' : Ledger count s')
    (h : liveHandles (s'.owners .parameterOptimizer) =
      liveHandles (s.owners .parameterOptimizer)) : SameNatives s s' := by
  have hmem : ∀ {s : Isolate F D}, Ledger count s → ∀ handle,
      ((runtimeOf s).objectOf handle .parameterOptimizer).isSome = true ↔
        handle ∈ liveHandles (s.owners .parameterOptimizer) := by
    intro s l handle
    obtain ⟨store, r⟩ := l.tensors
    have hholds := r.others .parameterOptimizer (by decide)
    change (runtimeOf s).registry.Holds .parameterOptimizer
      (liveHandles (s.owners .parameterOptimizer)) at hholds
    unfold Runtime.objectOf
    constructor
    · intro hsome
      obtain ⟨object, hobject⟩ := Option.isSome_iff_exists.mp hsome
      split at hobject
      · cases hobject
      obtain ⟨entry, hfind, hentry⟩ := Option.bind_eq_some_iff.mp hobject
      split at hentry
      · exact hholds.all handle entry hfind ‹_›
      · cases hentry
    · intro hlive
      obtain ⟨object, hfind⟩ := hholds.once handle hlive
      rw [if_neg (hholds.nonzero handle hlive), hfind]
      rfl
  intro handle
  rw [Bool.eq_iff_iff, hmem l', hmem l, h]

section Disposal
variable [Scalar F] [Scalar D] [Precision F D] [FloatBits F]

def DisposedAt (objects : List Nat) (owners owners' : List Owner) : Prop :=
  ∀ i, (i ∉ objects → owners'[i]? = owners[i]?) ∧
    (i ∈ objects → ∃ owner, owners'[i]? = some owner ∧ owner.disposed = true)

theorem wp_disposeAll (kind : OwnerClass) (l : Ledger count s) {objects : List Nat}
    (hobjects : ∀ object ∈ objects, object < (s.owners kind).length) :
    wp (objects.forM (Owner.dispose kind) : IsolateM F D Unit)
      (fun _ s' => Ledger count s' ∧ DisposedAt objects (s.owners kind) (s'.owners kind))
      (fun _ _ => False) s := by
  induction objects generalizing s with
  | nil => exact ⟨l, fun i => ⟨fun _ => rfl, fun h => absurd h List.not_mem_nil⟩⟩
  | cons object objects ih =>
      obtain ⟨hobject, hrest⟩ := List.forall_mem_cons.mp hobjects
      refine wp_seq (f := fun _ => objects.forM (Owner.dispose kind)) (l.wp_dispose kind hobject)
        (fun _ _ h => h) ?_
      rintro _ s₁ ⟨l₁, -, owner, hdisposed, howners⟩
      have hkind : s₁.owners kind = (s.owners kind).set object owner := by
        rw [howners, setOwners, if_pos rfl]
      refine wp_mono (ih l₁ fun other hother => ?_) ?_ fun _ _ h => h
      · rw [hkind, List.length_set]
        exact hrest other hother
      rintro _ s₂ ⟨l₂, hafter⟩
      refine ⟨l₂, fun i => ⟨fun hi => ?_, fun hi => ?_⟩⟩
      · obtain ⟨hne, hnone⟩ := not_or.mp (mt List.mem_cons.mpr hi)
        rw [(hafter i).1 hnone, hkind, List.getElem?_set_ne (Ne.symm hne)]
      · by_cases hmem : i ∈ objects
        · exact (hafter i).2 hmem
        · obtain rfl := (List.mem_cons.mp hi).resolve_right hmem
          refine ⟨owner, ?_, hdisposed⟩
          rw [(hafter i).1 hmem, hkind, List.getElem?_set_self hobject]

omit [Scalar F] [Scalar D] [Precision F D] [FloatBits F] in
theorem liveHandles_disposedAt {owners more owners' : List Owner} {objects : List Nat}
    (hobjects : ∀ i, i ∈ objects ↔ owners.length ≤ i ∧ i < owners.length + more.length)
    (h : DisposedAt objects (owners ++ more) owners') :
    liveHandles owners' = liveHandles owners := by
  have htake : owners'.take owners.length = owners := by
    refine List.ext_getElem? fun i => ?_
    rw [List.getElem?_take]
    split
    · rename_i hi
      have hnot : i ∉ objects := fun hmem => absurd ((hobjects i).mp hmem).1 (Nat.not_le.mpr hi)
      rw [(h i).1 hnot, List.getElem?_append_left hi]
    · rename_i hi
      rw [List.getElem?_eq_none (Nat.not_lt.mp hi)]
  have hdrop : ∀ owner ∈ owners'.drop owners.length, owner.disposed = true := by
    intro owner hmem
    obtain ⟨i, hget⟩ := List.getElem?_of_mem hmem
    rw [List.getElem?_drop] at hget
    by_cases hi : owners.length + i ∈ objects
    · obtain ⟨_, hget', hdisposed⟩ := (h _).2 hi
      cases hget.symm.trans hget'
      exact hdisposed
    · rw [(h _).1 hi] at hget
      have hlt := (List.getElem?_eq_some_iff.mp hget).1
      rw [List.length_append] at hlt
      exact absurd ((hobjects _).mpr ⟨Nat.le_add_right _ _, hlt⟩) hi
  rw [← List.take_append_drop owners.length owners', htake]
  unfold liveHandles
  rw [List.filterMap_append, Dart.filterMap_live_eq_nil _ hdrop, List.append_nil]

/-- The native optimizers that were created are the last ones. -/
structure Appended (count : Nat) (s s' : Isolate F D) (natives : List Nat) : Prop where
  ledger : Ledger count s'
  owners : ∃ more, s'.owners .parameterOptimizer = s.owners .parameterOptimizer ++ more ∧
    natives = List.range' (s.owners .parameterOptimizer).length more.length

theorem Appended.wp_dispose {natives : List Nat} (h : Appended count s s' natives)
    (l : Ledger count s) :
    wp (natives.reverse.forM (Owner.dispose .parameterOptimizer) : IsolateM F D Unit)
      (fun _ t => SameNatives s t) (fun _ _ => False) s' := by
  obtain ⟨more, hmore, rfl⟩ := h.owners
  refine wp_mono (wp_disposeAll .parameterOptimizer h.ledger fun object hobject => ?_) ?_
    fun _ _ h => h
  · rw [List.mem_reverse, List.mem_range'_1] at hobject
    rw [hmore, List.length_append]
    exact hobject.2
  · rintro _ t ⟨lt, hdisposed⟩
    rw [hmore] at hdisposed
    refine sameNatives_of_ledgers l lt (liveHandles_disposedAt (fun i => ?_) hdisposed)
    rw [List.mem_reverse, List.mem_range'_1]

end Disposal

section Loop
variable [Scalar F] [Scalar D] [Precision F D] [FloatBits F] {kind : OptimizerKind}
  {hyper : Hyperparameters D} {parameters : List Nat}

theorem keepsLedger_nativeOf (kind : OptimizerKind) (hyper : Hyperparameters D)
    (parameters : List Nat) :
    Dart.KeepsLedger (nativeOf kind hyper parameters : IsolateM F D Nat) := by
  cases kind with
  | sgd => exact Dart.keepsLedger_parameterSgd parameters hyper
  | adam => exact Dart.keepsLedger_parameterAdam parameters hyper false
  | adamW => exact Dart.keepsLedger_parameterAdam parameters hyper true

theorem wp_nativeOf_owners (s : Isolate F D) :
    wp (nativeOf kind hyper parameters)
      (fun object s' => object = (s.owners .parameterOptimizer).length ∧ ∃ owner,
        s'.owners .parameterOptimizer = s.owners .parameterOptimizer ++ [owner])
      (fun _ s' => s'.owners = s.owners) s := by
  obtain ⟨operation, abi, heq⟩ := nativeOf_eq (F := F) kind hyper parameters
  rw [heq]
  refine wp_seq (wp_parameterHandles s parameters) (fun _ _ h => congrArg Isolate.owners h.1) ?_
  rintro handles s ⟨rfl, -⟩
  refine wp_seq (P := fun _ s' => s'.owners = s.owners) ?_ (fun _ _ h => h) ?_
  · unfold Dart.onLibrary
    rw [Dart.wp_onHost]
    exact wp_mono wp_any (fun _ _ _ => rfl) fun _ _ _ => rfl
  · rintro handle s' howners
    unfold Owner.create
    rw [wp_bind, wp_get, wp_bind, wp_modify, wp_pure, howners]
    exact ⟨rfl, ⟨handle, false, true⟩, by simp only [setOwners, if_true]⟩

theorem createNativeGroups_append (create : ParameterGroup D → IsolateM F D Nat)
    (done rest : List (ParameterGroup D)) (created : List Nat) :
    createNativeGroups create (done ++ rest) created = (do
      createNativeGroups create rest (← createNativeGroups create done created)) := by
  induction done generalizing created with
  | nil => rfl
  | cons group done ih =>
      simp only [List.cons_append, createNativeGroups, ih, bind_assoc]

omit [Scalar F] [Scalar D] [Precision F D] [FloatBits F] in
theorem appended_nil (l : Ledger count s) : Appended count s s [] :=
  ⟨l, [], by rw [List.append_nil], rfl⟩

theorem wp_createNativeGroups_appended {create : ParameterGroup D → IsolateM F D Nat}
    (hcreate : ∀ group, ∃ hyper, create group = nativeOf kind hyper group.parameters)
    (groups : List (ParameterGroup D)) {natives : List Nat} (h : Appended count s s' natives) :
    wp (createNativeGroups create groups natives)
      (fun natives' s'' => Appended count s s'' natives') (fun _ _ => True) s' := by
  induction groups generalizing natives s' with
  | nil => exact h
  | cons group groups ih =>
      obtain ⟨hyper, hgroup⟩ := hcreate group
      have hmake : wp (create group) (fun object s'' => Appended count s s'' (natives ++ [object]))
          (fun _ _ => True) s' := by
        rw [hgroup]
        refine wp_mono (wp_and (wp_nativeOf_owners s') (keepsLedger_nativeOf kind hyper
          group.parameters count s' h.ledger)) ?_ fun _ _ _ => trivial
        rintro _ s'' ⟨⟨rfl, owner, howner⟩, l''⟩
        obtain ⟨more, hmore, hnatives⟩ := h.owners
        refine ⟨l'', more ++ [owner], by rw [howner, hmore, List.append_assoc], ?_⟩
        rw [hnatives, hmore, List.length_append, List.length_append, List.length_singleton,
          List.range'_concat, Nat.one_mul]
      unfold createNativeGroups
      refine wp_seq (wp_tryCatch hmake fun _ _ _ => ?_) (fun _ _ h => h) ?_
      · exact wp_seq wp_any (fun _ _ _ => trivial) fun _ _ _ => trivial
      · exact fun _ _ h' => ih h'

/-- The creation for one of the groups throws, after those for the groups before it. -/
def FailsAt (create : ParameterGroup D → IsolateM F D Nat) (s : Isolate F D)
    (groups : List (ParameterGroup D)) (thrown : Thrown) : Prop :=
  ∃ done group rest natives s₁ s₂, groups = done ++ group :: rest ∧
    createNativeGroups create done [] s = .ok natives s₁ ∧ create group s₁ = .error thrown s₂

theorem createNativeGroups_of_ok {create : ParameterGroup D → IsolateM F D Nat}
    {group : ParameterGroup D} {object : Nat} {s'' : Isolate F D}
    (hcreated : create group s' = .ok object s'') (rest : List (ParameterGroup D))
    (created : List Nat) : createNativeGroups create (group :: rest) created s' =
      createNativeGroups create rest (created ++ [object]) s'' := by
  change EStateM.bind (EStateM.tryCatch (create group) _) _ s' = _
  rw [EStateM.bind, EStateM.tryCatch, hcreated]

theorem failsAt_of_error {create : ParameterGroup D → IsolateM F D Nat}
    (done : List (ParameterGroup D)) {rest : List (ParameterGroup D)} {natives : List Nat}
    {thrown : Thrown} {t : Isolate F D}
    (hdone : createNativeGroups create done [] s = .ok natives s')
    (h : createNativeGroups create rest natives s' = .error thrown t) :
    ∃ thrown, FailsAt create s (done ++ rest) thrown := by
  induction rest generalizing done natives s' with
  | nil => cases h
  | cons group rest ih =>
      cases hcreated : create group s' with
      | error e s₂ => exact ⟨e, done, group, rest, natives, s', s₂, rfl, hdone, hcreated⟩
      | ok object s'' =>
          rw [createNativeGroups_of_ok hcreated] at h
          rw [List.append_cons]
          refine ih _ ?_ h
          rw [createNativeGroups_append, bind_eq hdone]
          exact createNativeGroups_of_ok hcreated [] natives

theorem createNativeGroups_undone (l : Ledger count s)
    {create : ParameterGroup D → IsolateM F D Nat}
    (hcreate : ∀ group, ∃ hyper, create group = nativeOf kind hyper group.parameters)
    {groups : List (ParameterGroup D)} {thrown : Thrown} (h : FailsAt create s groups thrown) :
    ∃ t, createNativeGroups create groups [] s = .error thrown t ∧ SameNatives s t := by
  obtain ⟨done, group, rest, natives, s₁, s₂, rfl, hdone, hfails⟩ := h
  obtain ⟨hyper, hgroup⟩ := hcreate group
  have hbuilt := wp_of_ok (wp_createNativeGroups_appended hcreate done (appended_nil l)) hdone
  rw [hgroup] at hfails
  have l₂ := wp_of_error (keepsLedger_nativeOf kind hyper group.parameters count s₁ hbuilt.ledger)
    hfails
  have howners := wp_of_error (wp_nativeOf_owners s₁) hfails
  have h₂ : Appended count s s₂ natives := ⟨l₂, howners ▸ hbuilt.owners⟩
  have hlast : wp (createNativeGroups create (group :: rest) natives) (fun _ _ => False)
      (fun e t => e = thrown ∧ SameNatives s t) s₁ := by
    unfold createNativeGroups
    rw [hgroup]
    refine wp_seq (P := fun _ _ => False) ((wp_tryCatch_of_error hfails).mpr ?_) (fun _ _ h => h)
      fun _ _ h => h.elim
    exact wp_seq (h₂.wp_dispose l) (fun _ _ h => h.elim) fun _ _ hsame => ⟨rfl, hsame⟩
  obtain ⟨e, t, hrun, rfl, hsame⟩ := error_of_wp hlast
  refine ⟨t, ?_, hsame⟩
  rw [createNativeGroups_append, bind_eq hdone]
  exact hrun

/-- Disposing of an optimizer leaves the native optimizers of before its construction. -/
theorem ofGroups_disposed (l : Ledger count s) {given : Hyperparameters D}
    {groups : List (ParameterGroup D)} {optimizer : Optimizer D}
    (h : ofGroups kind given groups s = .ok optimizer s') :
    ∃ t, optimizer.dispose s' = .ok { optimizer with disposed := true } t ∧ SameNatives s t := by
  have hcreate : ∀ group, ∃ hyper,
      createOf kind given group = (nativeOf kind hyper group.parameters : IsolateM F D Nat) :=
    fun group => ⟨hyperOf kind given group, rfl⟩
  have hconstruct : wp (ofGroups kind given groups) (fun optimizer t =>
      optimizer.disposed = false ∧ Appended count s t optimizer.nativeOptimizers)
      (fun _ _ => True) s := by
    rw [ofGroups_eq]
    refine wp_seq (verifies_checksOf kind given s) (fun _ _ _ => trivial) ?_
    rintro _ s ⟨rfl, -⟩
    unfold Optimizer.overGroups
    refine wp_seq (wp_validatedGroups_keeps groups) (fun _ _ _ => trivial) ?_
    rintro validated s rfl
    refine wp_seq (wp_createNativeGroups_appended hcreate validated (appended_nil l))
      (fun _ _ h => h) ?_
    exact fun _ _ happended => ⟨rfl, happended⟩
  obtain ⟨hlive, happended⟩ := wp_of_ok hconstruct h
  have hdispose : wp optimizer.dispose
      (fun disposed t => disposed = { optimizer with disposed := true } ∧ SameNatives s t)
      (fun _ _ => False) s' := by
    unfold Optimizer.dispose
    rw [hlive]
    exact wp_seq (happended.wp_dispose l) (fun _ _ h => h) fun _ _ hsame => ⟨rfl, hsame⟩
  obtain ⟨_, t, hrun, rfl, hsame⟩ := ok_of_wp hdispose
  exact ⟨t, hrun, hsame⟩

end Loop

end Tensora.Optim
