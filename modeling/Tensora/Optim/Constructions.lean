import Tensora.Optim.GroupCreation

/-! When an optimizer over groups can be constructed, and that it depends on the parameters of the
groups together. -/
namespace Tensora.Optim
open ProgramLogic Training
open Adoption (Thrown)
open Dart (Isolate IsolateM)
open Api (Part)

variable {F D : Type}

section Checks

/-- A check that throws unless the value is accepted. -/
def Verifies (x : IsolateM F D Unit) (accepted : Bool) : Prop :=
  ∀ s, wp x (fun _ s' => s' = s ∧ accepted = true) (fun _ s' => s' = s ∧ accepted = false) s

theorem verifies_check (accepted : Bool) (thrown : Thrown) :
    Verifies (F := F) (D := D) (do if !accepted then throw thrown) accepted := by
  intro s
  cases accepted
  · exact ⟨rfl, rfl⟩
  · exact ⟨rfl, rfl⟩

theorem verifies_and {x y : IsolateM F D Unit} {accepted accepted' : Bool}
    (hx : Verifies x accepted) (hy : Verifies y accepted') :
    Verifies (do x; y) (accepted && accepted') := by
  intro s
  refine wp_seq (hx s) ?_ ?_
  · rintro _ _ ⟨rfl, rfl⟩
    exact ⟨rfl, rfl⟩
  · rintro _ _ ⟨rfl, rfl⟩
    exact hy _

variable [Scalar D]

/-- What the factory of the groups checks of the hyperparameters it is given. -/
def checksOf (kind : OptimizerKind) (given : Hyperparameters D) : IsolateM F D Unit :=
  match kind with
  | .sgd => do
      positive given.learningRate "learningRate"
      nonNegative given.momentum "momentum"
      nonNegative given.weightDecay "weightDecay"
  | .adam | .adamW => validateAdamDefaults given

theorem verifies_checksOf (kind : OptimizerKind) (given : Hyperparameters D) :
    Verifies (checksOf kind given : IsolateM F D Unit) (accepts kind given) := by
  have hadam : Verifies (validateAdamDefaults given : IsolateM F D Unit)
      (accepts .adam given) := by
    have h : Verifies (validateAdamDefaults given : IsolateM F D Unit) _ :=
      verifies_and (verifies_check _ _) (verifies_and (verifies_check _ _) (verifies_and
        (verifies_check _ _) (verifies_and (verifies_check _ _) (verifies_check _ _))))
    convert h using 1
    simp only [accepts]
    ac_rfl
  cases kind with
  | sgd =>
      have h : Verifies (checksOf .sgd given : IsolateM F D Unit) _ :=
        verifies_and (verifies_check _ _) (verifies_and (verifies_check _ _) (verifies_check _ _))
      convert h using 1
      simp only [accepts]
      ac_rfl
  | adam => exact hadam
  | adamW => exact hadam

end Checks

section Identities
variable {s : Isolate F D} {parameters parameters' : List Nat}

/-- The identity a parameter was made with. -/
def identityOf (s : Isolate F D) (parameter : Nat) : Option Nat :=
  (s.parameters[parameter]?).map Dart.Parameter.identity

structure Identified (s : Isolate F D) (parameters : List Nat) : Prop where
  exist : ∀ p ∈ parameters, (identityOf s p).isSome = true
  distinct : (parameters.filterMap (identityOf s)).Nodup

theorem Identified.perm (h : Identified s parameters) (hperm : parameters.Perm parameters') :
    Identified s parameters' :=
  ⟨fun p hp => h.exist p (hperm.mem_iff.mpr hp), (hperm.filterMap _).nodup_iff.mp h.distinct⟩

/-- The loop of `_validatedGroups` over the parameters of a group. -/
def addIdentities (identities : List Nat) (parameters : List Nat) : IsolateM F D (List Nat) :=
  parameters.foldlM (fun identities parameter => do
    let object ← parameterObject parameter
    addIdentity "A parameter may belong to only one optimizer group." identities object.identity)
    identities

def Added (s : Isolate F D) (seen : List Nat) (parameters : List Nat) : Prop :=
  (∀ p ∈ parameters, (identityOf s p).isSome = true) ∧
    (parameters.filterMap (identityOf s)).Nodup ∧
    ∀ identity ∈ parameters.filterMap (identityOf s), identity ∉ seen

theorem added_cons {seen : List Nat} {parameter identity : Nat}
    (h : identityOf s parameter = some identity) :
    Added s seen (parameter :: parameters) ↔ identity ∉ seen ∧
      Added s (identity :: seen) parameters := by
  unfold Added
  rw [List.filterMap_cons_some h, List.forall_mem_cons, List.forall_mem_cons, List.nodup_cons, h]
  simp only [Option.isSome_some, true_and, List.mem_cons, not_or]
  constructor
  · rintro ⟨hexist, ⟨hnew, hnodup⟩, hidentity, hothers⟩
    exact ⟨hidentity, hexist, hnodup, fun other hmem => ⟨fun heq => hnew (heq ▸ hmem),
      hothers other hmem⟩⟩
  · rintro ⟨hidentity, hexist, hnodup, hothers⟩
    exact ⟨hexist, ⟨fun hmem => (hothers _ hmem).1 rfl, hnodup⟩, hidentity,
      fun other hmem => (hothers other hmem).2⟩

theorem wp_addIdentities (seen parameters : List Nat) :
    wp (addIdentities seen parameters : IsolateM F D (List Nat))
      (fun _ s' => s' = s ∧ Added s seen parameters)
      (fun _ s' => s' = s ∧ ¬Added s seen parameters) s := by
  unfold addIdentities
  induction parameters generalizing seen with
  | nil =>
      exact ⟨rfl, fun _ h => absurd h List.not_mem_nil, List.nodup_nil,
        fun _ h => absurd h List.not_mem_nil⟩
  | cons parameter parameters ih =>
      rw [List.foldlM_cons]
      cases hobject : s.parameters[parameter]? with
      | none =>
          have hnone : ¬Added s seen (parameter :: parameters) := by
            intro h
            have hsome := h.1 parameter List.mem_cons_self
            rw [identityOf, hobject] at hsome
            cases hsome
          simp only [parameterObject, wp_bind, wp_get, hobject, wp_throw]
          exact ⟨trivial, hnone⟩
      | some object =>
          have hidentity : identityOf s parameter = some object.identity := by
            rw [identityOf, hobject, Option.map_some]
          have hadd : wp (do
              let object ← parameterObject parameter
              addIdentity "A parameter may belong to only one optimizer group." seen
                object.identity : IsolateM F D (List Nat))
              (fun seen' s' => s' = s ∧ object.identity ∉ seen ∧ seen' = object.identity :: seen)
              (fun _ s' => s' = s ∧ object.identity ∈ seen) s := by
            simp only [parameterObject, addIdentity, wp_bind, wp_get, hobject, wp_pure]
            exact wp_ite (fun hmem => ⟨rfl, hmem⟩) fun hnew => ⟨rfl, hnew, rfl⟩
          simp only [added_cons hidentity]
          refine wp_seq hadd ?_ ?_
          · rintro _ _ ⟨rfl, hmem⟩
            exact ⟨rfl, fun h => h.1 hmem⟩
          · rintro _ _ ⟨rfl, hnew, rfl⟩
            refine wp_mono (ih (object.identity :: seen)) ?_ ?_
            · rintro _ _ ⟨rfl, h⟩
              exact ⟨rfl, hnew, h⟩
            · rintro _ _ ⟨rfl, h⟩
              exact ⟨rfl, fun h' => h h'.2⟩

theorem foldlM_groups (groups : List (ParameterGroup D)) (seen : List Nat) :
    (groups.foldlM (fun identities group => addIdentities identities group.parameters) seen :
      IsolateM F D (List Nat)) =
      addIdentities seen (groups.flatMap ParameterGroup.parameters) := by
  unfold addIdentities
  induction groups generalizing seen with
  | nil => rfl
  | cons group groups ih => simp only [List.foldlM_cons, List.flatMap_cons, List.foldlM_append, ih]

theorem wp_validatedGroups_keeps (groups : List (ParameterGroup D)) :
    wp (validatedGroups groups : IsolateM F D (List (ParameterGroup D))) (fun _ s' => s' = s)
      (fun _ s' => s' = s) s := by
  have hfold := wp_addIdentities (s := s) [] (groups.flatMap ParameterGroup.parameters)
  rw [← foldlM_groups] at hfold
  unfold validatedGroups
  refine wp_ite (fun _ => rfl) fun _ => ?_
  exact wp_seq hfold (fun _ _ h => h.1) fun _ _ h => h.1

theorem wp_validatedGroups {groups : List (ParameterGroup D)} (hne : groups ≠ []) :
    wp (validatedGroups groups : IsolateM F D (List (ParameterGroup D)))
      (fun validated s' => s' = s ∧ validated = groups ∧
        Identified s (groups.flatMap ParameterGroup.parameters))
      (fun _ s' => s' = s ∧ ¬Identified s (groups.flatMap ParameterGroup.parameters)) s := by
  have hfold := wp_addIdentities (s := s) [] (groups.flatMap ParameterGroup.parameters)
  rw [← foldlM_groups] at hfold
  have hadded : Added s [] (groups.flatMap ParameterGroup.parameters) ↔
      Identified s (groups.flatMap ParameterGroup.parameters) :=
    ⟨fun h => ⟨h.1, h.2.1⟩, fun h => ⟨h.exist, h.distinct, fun _ _ => List.not_mem_nil⟩⟩
  rw [hadded] at hfold
  unfold validatedGroups
  refine wp_ite (fun hempty => absurd (List.isEmpty_iff.mp hempty) hne) fun _ => ?_
  refine wp_seq hfold (fun _ _ h => h) ?_
  rintro _ _ ⟨rfl, h⟩
  exact ⟨rfl, rfl, h⟩

end Identities

section Factories
variable [Scalar D]

def hyperOf (kind : OptimizerKind) (given : Hyperparameters D) (group : ParameterGroup D) :
    Hyperparameters D :=
  match kind with
  | .sgd => SGD.hyper given group
  | .adam | .adamW => Adam.hyper given group

variable [Scalar F] [Precision F D] [FloatBits F]

/-- The function the factory over groups gives `_createNativeGroups`. -/
def createOf (kind : OptimizerKind) (given : Hyperparameters D) (group : ParameterGroup D) :
    IsolateM F D Nat :=
  nativeOf kind (hyperOf kind given group) group.parameters

def ofGroups (kind : OptimizerKind) (given : Hyperparameters D)
    (groups : List (ParameterGroup D)) : IsolateM F D (Optimizer D) :=
  match kind with
  | .sgd => SGD.ofGroups given groups
  | .adam => Adam.ofGroups given groups
  | .adamW => AdamW.ofGroups given groups

theorem ofGroups_eq (kind : OptimizerKind) (given : Hyperparameters D)
    (groups : List (ParameterGroup D)) :
    (ofGroups kind given groups : IsolateM F D (Optimizer D)) = (do
      checksOf kind given
      Optimizer.overGroups (createOf kind given) groups) := by
  cases kind
  · simp only [checksOf, bind_assoc]
    rfl
  · rfl
  · rfl

structure Constructible (kind : OptimizerKind) (given hyper : Hyperparameters D)
    (s : Isolate F D) (groups : List (ParameterGroup D)) : Prop where
  accepted : accepts kind given = true
  identified : Identified s (groups.flatMap ParameterGroup.parameters)
  creatable : ∀ group ∈ groups, Creatable kind hyper s group.parameters

variable {kind : OptimizerKind} {given hyper : Hyperparameters D} {s : Isolate F D}
  {groups : List (ParameterGroup D)}

structure Constructed (kind : OptimizerKind) (hyper : Hyperparameters D) (room : Nat)
    (s : Isolate F D) (groups : List (ParameterGroup D)) (parts : List Part)
    (optimizer : Optimizer D) (s' : Isolate F D) : Prop where
  ample : Ample room s'
  built : Built kind hyper s groups optimizer.nativeOptimizers parts s'
  groups : optimizer.groups = groups
  live : optimizer.disposed = false

theorem wp_ofGroups {room : Nat} (a : Ample (room + groups.length) s) (hne : groups ≠ [])
    (hequal : ∀ group ∈ groups, hyperOf kind given group = hyper)
    (hgraded : ∀ group ∈ groups, trainable s group.parameters ≠ []) :
    wp (ofGroups kind given groups)
      (fun optimizer s' => Constructible kind given hyper s groups ∧
        ∃ parts, Constructed kind hyper room s groups parts optimizer s')
      (fun _ _ => ¬Constructible kind given hyper s groups) s := by
  rw [ofGroups_eq]
  refine wp_seq (verifies_checksOf kind given s) ?_ ?_
  · rintro _ _ ⟨rfl, hreject⟩ c
    rw [c.accepted] at hreject
    cases hreject
  rintro _ s ⟨rfl, haccept⟩
  unfold Optimizer.overGroups
  refine wp_seq (wp_validatedGroups hne) ?_ ?_
  · rintro _ _ ⟨rfl, hbad⟩ c
    exact hbad c.identified
  rintro _ s ⟨rfl, rfl, hidentified⟩
  refine wp_seq (wp_createNativeGroups a.ok a (built_nil s) (fun group hgroup => by
    rw [createOf, hequal group hgroup]) hgraded) ?_ ?_
  · rintro _ _ ⟨group, hgroup, hbad⟩ c
    exact hbad (c.creatable group hgroup)
  · rintro natives s' ⟨ha, parts, hbuilt⟩
    exact ⟨⟨haccept, hidentified, hbuilt.creatable⟩, parts, ha, hbuilt, rfl, rfl⟩

theorem wp_ofGroups_nil (kind : OptimizerKind) (given : Hyperparameters D) :
    wp (ofGroups kind given [] : IsolateM F D (Optimizer D)) (fun _ _ => False) (fun _ _ => True)
      s := by
  rw [ofGroups_eq]
  exact wp_seq wp_any (fun _ _ _ => trivial) fun _ _ _ => trivial

theorem wp_ofGroups_empty (kind : OptimizerKind) (given : Hyperparameters D)
    {group : ParameterGroup D} (hempty : group.parameters = []) :
    wp (ofGroups kind given [group] : IsolateM F D (Optimizer D)) (fun _ _ => False)
      (fun _ _ => True) s := by
  obtain ⟨operation, abi, heq⟩ := nativeOf_eq (F := F) kind (hyperOf kind given group) []
  rw [ofGroups_eq]
  refine wp_seq wp_any (fun _ _ _ => trivial) fun _ s _ => ?_
  unfold Optimizer.overGroups
  refine wp_seq (wp_validatedGroups (List.cons_ne_nil _ _)) (fun _ _ _ => trivial) ?_
  rintro _ s ⟨rfl, rfl, -⟩
  unfold createNativeGroups createOf
  rw [hempty, heq]
  exact trivial

end Factories

section Groups
variable [Scalar D] {s : Isolate F D} {kind : OptimizerKind} {given : Hyperparameters D}
  {group : ParameterGroup D}

/-- What the factory of `ParameterGroup` checks of the overrides. -/
def acceptsOverrides (group : ParameterGroup D) : Bool :=
  group.learningRate.all positiveFinite && (group.momentum.all nonNegativeFinite &&
    (group.beta1.all betaFinite && (group.beta2.all betaFinite &&
      (group.epsilon.all positiveFinite && group.weightDecay.all nonNegativeFinite))))

omit [Scalar D] in
theorem verifies_forM {check : D → IsolateM F D Unit} {accepted : D → Bool}
    (h : ∀ value, Verifies (check value) (accepted value)) (value : Option D) :
    Verifies (value.forM check) (value.all accepted) := by
  cases value with
  | none => exact fun s => ⟨rfl, rfl⟩
  | some value => exact h value

theorem wp_make (group : ParameterGroup D) :
    wp (group.make : IsolateM F D (ParameterGroup D))
      (fun made s' => s' = s ∧ made = group ∧ acceptsOverrides group = true) (fun _ s' => s' = s)
      s := by
  have hpositive : ∀ (value : Option D) name,
      Verifies (F := F) (validatePositive value name) (value.all positiveFinite) :=
    fun value _ => verifies_forM (fun _ => verifies_check _ _) value
  have hnonNegative : ∀ (value : Option D) name,
      Verifies (F := F) (validateNonNegative value name) (value.all nonNegativeFinite) :=
    fun value _ => verifies_forM (fun _ => verifies_check _ _) value
  have hbeta : ∀ (value : Option D) name,
      Verifies (F := F) (validateBeta value name) (value.all betaFinite) :=
    fun value _ => verifies_forM (fun _ => verifies_check _ _) value
  unfold ParameterGroup.make
  refine wp_ite (fun _ => rfl) fun _ => ?_
  refine wp_seq (P := fun _ s' => s' = s) ?_ (fun _ _ h => h) ?_
  · refine wp_foldlM (fun _ _ _ s' => s' = s) _ rfl ?_ fun _ _ h => h
    rintro done parameter rest seen s' - rfl
    unfold parameterObject addIdentity
    rw [wp_bind, wp_bind, wp_get]
    cases s'.parameters[parameter]? with
    | none => exact rfl
    | some object =>
        dsimp only
        rw [wp_pure]
        refine wp_ite (fun _ => rfl) fun _ => wp_ite (fun _ => rfl) fun _ => rfl
  rintro _ s rfl
  have hchecks := verifies_and (hpositive group.learningRate "learningRate")
    (verifies_and (hnonNegative group.momentum "momentum") (verifies_and (hbeta group.beta1 "beta1")
      (verifies_and (hbeta group.beta2 "beta2") (verifies_and (hpositive group.epsilon "epsilon")
        (hnonNegative group.weightDecay "weightDecay")))))
  have hlast := wp_seq (f := fun _ => (pure group : IsolateM F D (ParameterGroup D))) (hchecks s)
    (Q := fun made s' => s' = s ∧ made = group ∧ acceptsOverrides group = true)
    (E := fun _ s' => s' = s) (fun _ _ h => h.1) fun _ _ h => ⟨h.1, rfl, h.2⟩
  simpa only [bind_assoc] using hlast

omit [Scalar D] in
theorem getD_accepted {accepted : D → Bool} {value : Option D} {default : D}
    (h : value.all accepted = true) (hdefault : accepted default = true) :
    accepted (value.getD default) = true := by
  cases value with
  | none => exact hdefault
  | some value => exact h

theorem accepts_hyperOf (haccept : accepts kind given = true)
    (hoverrides : acceptsOverrides group = true) :
    accepts kind (hyperOf kind given group) = true := by
  simp only [acceptsOverrides, Bool.and_eq_true] at hoverrides
  obtain ⟨hrate, hmomentum, hbeta1, hbeta2, hepsilon, hdecay⟩ := hoverrides
  have hadam : accepts .adam given = true → accepts .adam (Adam.hyper given group) = true := by
    simp only [accepts, Adam.hyper, Bool.and_eq_true]
    rintro ⟨⟨hrate', hdecay'⟩, ⟨hbeta1', hbeta2'⟩, hepsilon'⟩
    exact ⟨⟨getD_accepted hrate hrate', getD_accepted hdecay hdecay'⟩,
      ⟨getD_accepted hbeta1 hbeta1', getD_accepted hbeta2 hbeta2'⟩,
      getD_accepted hepsilon hepsilon'⟩
  cases kind with
  | sgd =>
      simp only [accepts, hyperOf, SGD.hyper, Bool.and_eq_true] at haccept ⊢
      obtain ⟨⟨hrate', hdecay'⟩, hmomentum'⟩ := haccept
      exact ⟨⟨getD_accepted hrate hrate', getD_accepted hdecay hdecay'⟩,
        getD_accepted hmomentum hmomentum'⟩
  | adam => exact hadam haccept
  | adamW => exact hadam haccept

variable [Scalar F] [Precision F D] [FloatBits F]

def ofParameters (kind : OptimizerKind) (given : Hyperparameters D) (parameters : List Nat) :
    IsolateM F D (Optimizer D) :=
  match kind with
  | .sgd => SGD.ofParameters given parameters
  | .adam => Adam.ofParameters given parameters
  | .adamW => AdamW.ofParameters given parameters

/-- The factory over a list of parameters is that over one group with the given hyperparameters. -/
theorem ofGroups_of_parameters {parameters : List Nat} {optimizer : Optimizer D}
    {t : Isolate F D} (h : ofParameters kind given parameters s = .ok optimizer t) :
    ∃ group : ParameterGroup D, group.parameters = parameters ∧
      hyperOf kind given group =
        hyperOf kind given ⟨parameters, none, none, none, none, none, none⟩ ∧
      ofGroups kind given [group] s = .ok optimizer t := by
  have hgroup : ∃ group : ParameterGroup D, group.parameters = parameters ∧
      hyperOf kind given group =
        hyperOf kind given ⟨parameters, none, none, none, none, none, none⟩ ∧
      (ofParameters kind given parameters : IsolateM F D (Optimizer D)) =
        (do ofGroups kind given [← group.make]) := by
    cases kind with
    | sgd => exact ⟨SGD.group given parameters, rfl, rfl, rfl⟩
    | adam => exact ⟨Adam.group given parameters, rfl, rfl, rfl⟩
    | adamW => exact ⟨Adam.group given parameters, rfl, rfl, rfl⟩
  obtain ⟨group, hparameters, hhyper, heq⟩ := hgroup
  refine ⟨group, hparameters, hhyper, ?_⟩
  have hmake := wp_make (s := s) group
  rw [heq] at h
  change EStateM.bind (group.make : IsolateM F D _) _ s = _ at h
  unfold wp at hmake
  cases hx : (group.make : IsolateM F D (ParameterGroup D)) s with
  | ok made s' =>
      rw [hx] at hmake
      obtain ⟨rfl, rfl, -⟩ := hmake
      rw [EStateM.bind, hx] at h
      exact h
  | error e s' =>
      rw [EStateM.bind, hx] at h
      cases h

end Groups

end Tensora.Optim
