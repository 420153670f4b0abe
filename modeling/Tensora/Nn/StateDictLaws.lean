import Tensora.Nn.ParameterNames

/-! What snapshots and loading them do to the values of a tree of modules. -/
namespace Tensora.Nn
open ProgramLogic

variable {V : Type}

/-- The native assignment of many tensors happens for all of them or for none. -/
structure NativeState.Atomic (native : NativeState V) : Prop where
  assigned : ∀ targets sources s s', native.assignMany targets sources s = .ok () s' →
    targets.Nodup → targets.length = sources.length →
    (∀ (index target source : Nat), targets[index]? = some target →
      sources[index]? = some source → s'.values target = s.values source) ∧
    ∀ identity, identity ∉ targets → s'.values identity = s.values identity
  failed : ∀ targets sources s thrown s', native.assignMany targets sources s = .error thrown s' →
    s'.values = s.values

theorem mem_sorted (keys : List String) (key : String) : key ∈ sorted keys ↔ key ∈ keys :=
  List.mem_mergeSort

theorem nodup_sorted {keys : List String} (h : keys.Nodup) : (sorted keys).Nodup :=
  (List.mergeSort_perm keys _).nodup_iff.mpr h

section Loading
variable {targets : OrderedMap String Parameter} {state : OrderedMap String TensorObject}

def Fits (targets : OrderedMap String Parameter) (state : OrderedMap String TensorObject)
    (key : String) : Prop :=
  ∃ target source, targets.get? key = some target ∧ state.get? key = some source ∧
    target.disposed = false ∧ source.shape = target.tensor.shape ∧
    source.dtype = target.tensor.dtype ∧ source.device = target.tensor.device ∧
    target.tensor.disposed = false ∧ source.disposed = false

theorem wp_nullCheck {α : Type} {value : Option α} {Q : α → Store V → Prop}
    {E : Thrown → Store V → Prop} {s : Store V} (hq : ∀ a, value = some a → Q a s)
    (he : value = none → ∀ thrown, E thrown s) : wp (nullCheck value) Q E s := by
  cases value with
  | none => exact he rfl _
  | some a => exact hq a rfl

variable (targets state) in
theorem wp_collectTensors (keys : List String) (targetTensors sourceTensors : List TensorObject)
    (s : Store V) :
    wp (collectTensors targets state keys targetTensors sourceTensors)
      (fun result s' => s' = s ∧
        result.1.map some = targetTensors.map some ++
          keys.map (fun key => (targets.get? key).map Parameter.tensor) ∧
        result.2.map some = sourceTensors.map some ++ keys.map state.get?)
      (fun _ s' => s' = s ∧ ∃ key ∈ keys, ¬Fits targets state key) s := by
  induction keys generalizing targetTensors sourceTensors with
  | nil => exact ⟨rfl, (List.append_nil _).symm, (List.append_nil _).symm⟩
  | cons key rest ih =>
      unfold collectTensors
      rw [wp_bind]
      apply wp_nullCheck
      · intro source hsource
        rw [wp_bind]
        apply wp_nullCheck
        · intro target htarget
          rw [wp_bind, wp_throwIf]
          refine ⟨fun hdisposed => ⟨rfl, key, List.mem_cons_self, ?_⟩, fun hlive => ?_⟩
          · rintro ⟨found, -, hfound, -, hfree, -⟩
            obtain rfl := Option.some.inj (htarget.symm.trans hfound)
            exact Bool.false_ne_true (hfree.symm.trans hdisposed)
          rw [wp_bind, wp_throwIf]
          refine ⟨fun hdiffers => ⟨rfl, key, List.mem_cons_self, ?_⟩, fun hsame => ?_⟩
          · rintro ⟨found, given, hfound, hgiven, -, hshape, hdtype, hdevice, -⟩
            obtain rfl := Option.some.inj (htarget.symm.trans hfound)
            obtain rfl := Option.some.inj (hsource.symm.trans hgiven)
            rcases hdiffers with h | h | h
            · exact h hshape
            · exact h hdtype
            · exact h hdevice
          apply wp_mono (ih (targetTensors ++ [target.tensor]) (sourceTensors ++ [source]))
          · rintro result s' ⟨hs', htargets, hsources⟩
            refine ⟨hs', ?_, ?_⟩
            · simp [htargets, htarget]
            · simp [hsources, hsource]
          · exact fun _ _ h => ⟨h.1, h.2.imp fun _ hkey => ⟨List.mem_cons_of_mem _ hkey.1, hkey.2⟩⟩
        · intro hnone _
          refine ⟨rfl, key, List.mem_cons_self, ?_⟩
          rintro ⟨found, -, hfound, -⟩
          exact nomatch hnone.symm.trans hfound
      · intro hnone _
        refine ⟨rfl, key, List.mem_cons_self, ?_⟩
        rintro ⟨-, given, -, hgiven, -⟩
        exact nomatch hnone.symm.trans hgiven

theorem wp_readHandles (targetTensors sourceTensors : List TensorObject) (s : Store V) :
    wp (readHandles targetTensors sourceTensors) (fun _ s' => s' = s)
      (fun _ s' => s' = s ∧ ∃ tensor, (tensor ∈ targetTensors ∨ tensor ∈ sourceTensors) ∧
        tensor.disposed = true) s := by
  induction targetTensors generalizing sourceTensors with
  | nil => rfl
  | cons target targets ih =>
      cases sourceTensors with
      | nil => rfl
      | cons source sources =>
          unfold readHandles
          rw [wp_bind, wp_throwIf]
          refine ⟨fun h => ⟨rfl, target, .inl List.mem_cons_self, h⟩, fun _ => ?_⟩
          rw [wp_bind, wp_throwIf]
          refine ⟨fun h => ⟨rfl, source, .inr List.mem_cons_self, h⟩, fun _ => ?_⟩
          apply wp_mono (ih sources) fun _ _ h => h
          rintro _ s' ⟨hs', tensor, hmem, hdisposed⟩
          exact ⟨hs', tensor,
            hmem.imp (List.mem_cons_of_mem _) (List.mem_cons_of_mem _), hdisposed⟩

theorem wp_assignMany {native : NativeState V} (hatomic : native.Atomic)
    {targetTensors sourceTensors : List TensorObject}
    (hlength : targetTensors.length = sourceTensors.length)
    (hnodup : (targetTensors.map TensorObject.identity).Nodup) (s : Store V) :
    wp (assignMany native targetTensors sourceTensors)
      (fun _ s' => (∀ (index : Nat) target source, targetTensors[index]? = some target →
          sourceTensors[index]? = some source →
          s'.values target.identity = s.values source.identity) ∧
        ∀ identity, identity ∉ targetTensors.map TensorObject.identity →
          s'.values identity = s.values identity)
      (fun thrown s' => s'.values = s.values ∧
        ((∃ tensor, (tensor ∈ targetTensors ∨ tensor ∈ sourceTensors) ∧ tensor.disposed = true) ∨
          native.assignMany (targetTensors.map TensorObject.identity)
            (sourceTensors.map TensorObject.identity) s = .error thrown s')) s := by
  unfold assignMany
  rw [wp_bind, wp_throwIf]
  refine ⟨fun hne => absurd hlength hne, fun _ => ?_⟩
  apply wp_ite
  · intro hempty
    obtain rfl := List.isEmpty_iff.mp hempty
    exact ⟨(fun _ _ _ htarget => nomatch htarget), fun _ _ => rfl⟩
  · intro _
    apply wp_seq (wp_readHandles targetTensors sourceTensors s)
    · rintro _ s ⟨rfl, h⟩
      exact ⟨rfl, .inl h⟩
    · rintro _ s rfl
      unfold wp
      cases hrun : native.assignMany (targetTensors.map TensorObject.identity)
        (sourceTensors.map TensorObject.identity) s with
      | ok result s' =>
        obtain ⟨hassigned, hothers⟩ := hatomic.assigned _ _ _ _ hrun hnodup
          (by rw [List.length_map, List.length_map, hlength])
        refine ⟨fun index target source htarget hsource => ?_, hothers⟩
        apply hassigned index
        · rw [List.getElem?_map, htarget, Option.map_some]
        · rw [List.getElem?_map, hsource, Option.map_some]
      | error thrown s' => exact ⟨hatomic.failed _ _ _ _ _ hrun, .inr rfl⟩

end Loading

/-- The `targets` of `loadStateDict`. -/
def Module.targets (module : Module Layer) : OrderedMap String Parameter :=
  OrderedMap.empty.setAll (module.parameterList.map fun entry => (entry.name, entry.parameter))

theorem entries_targets (module : Module Layer) :
    module.targets.entries =
      module.parameterList.map fun entry => (entry.name, entry.parameter) := by
  apply (OrderedMap.entries_setAll _).trans (List.nil_append _)
  change (List.map Prod.fst (List.map _ module.parameterList)).Nodup
  rw [List.map_map]
  exact nodup_names module

theorem keys_targets (module : Module Layer) :
    module.targets.keys = module.parameterList.map NamedParameter.name := by
  unfold OrderedMap.keys
  rw [entries_targets, List.map_map]
  rfl

theorem get?_targets {module : Module Layer} {key : String} {parameter : Parameter} :
    module.targets.get? key = some parameter ↔ ⟨key, parameter⟩ ∈ module.parameterList := by
  rw [OrderedMap.get?_eq_some_iff, entries_targets, List.mem_map]
  constructor
  · rintro ⟨entry, hentry, heq⟩
    injection heq with hname hparameter
    exact hname ▸ hparameter ▸ hentry
  · exact fun h => ⟨_, h, rfl⟩

def Module.common (module : Module Layer) (state : StateDict) : List String :=
  sorted (module.targets.keys.filter (· ∈ state.entries.keys))

theorem mem_common {module : Module Layer} {state : StateDict} {key : String} :
    key ∈ module.common state ↔
      key ∈ module.parameterList.map NamedParameter.name ∧ key ∈ state.entries.keys := by
  unfold Module.common
  rw [mem_sorted, List.mem_filter, keys_targets, decide_eq_true_iff]

theorem nodup_common (module : Module Layer) (state : StateDict) :
    (module.common state).Nodup :=
  nodup_sorted (module.targets.nodup.filter _)

structure Loads (module : Module Layer) (state : StateDict)
    (targetTensors sourceTensors : List TensorObject) : Prop where
  targets : targetTensors.map some = (module.common state).map fun key =>
    (module.targets.get? key).map Parameter.tensor
  sources : sourceTensors.map some = (module.common state).map state.entries.get?

namespace Loads
variable {module : Module Layer} {state : StateDict}
  {targetTensors sourceTensors : List TensorObject}

theorem length_eq (l : Loads module state targetTensors sourceTensors) :
    targetTensors.length = sourceTensors.length := by
  have htargets := congrArg List.length l.targets
  have hsources := congrArg List.length l.sources
  rw [List.length_map, List.length_map] at htargets hsources
  exact htargets.trans hsources.symm

theorem at_index (l : Loads module state targetTensors sourceTensors) {index : Nat} {key : String}
    (hkey : (module.common state)[index]? = some key) :
    ∃ entry ∈ module.parameterList, ∃ source, entry.name = key ∧
      state.entries.get? key = some source ∧
      targetTensors[index]? = some entry.parameter.tensor ∧
      sourceTensors[index]? = some source := by
  have hmem := mem_common.mp (List.mem_of_getElem? hkey)
  obtain ⟨entry, hentry, rfl⟩ := List.mem_map.mp hmem.1
  obtain ⟨source, hsource⟩ := OrderedMap.exists_get?_of_mem hmem.2
  refine ⟨entry, hentry, source, rfl, hsource, ?_, ?_⟩
  · have h := congrArg (·[index]?) l.targets
    simpa [hkey, get?_targets.mpr hentry] using h
  · have h := congrArg (·[index]?) l.sources
    simpa [hkey, hsource] using h

theorem identities (l : Loads module state targetTensors sourceTensors) (identity : Nat) :
    identity ∈ targetTensors.map TensorObject.identity ↔ ∃ entry ∈ module.parameterList,
      entry.name ∈ state.entries.keys ∧ entry.identity = identity := by
  constructor
  · intro hmem
    obtain ⟨tensor, htensor, rfl⟩ := List.mem_map.mp hmem
    obtain ⟨index, hindex⟩ := List.mem_iff_getElem?.mp htensor
    have hkey : ∃ key, (module.common state)[index]? = some key := by
      have h := congrArg (·[index]?) l.targets
      cases hat : (module.common state)[index]? with
      | some key => exact ⟨key, rfl⟩
      | none => simp [hindex, hat] at h
    obtain ⟨key, hkey⟩ := hkey
    obtain ⟨entry, hentry, source, rfl, hsource, htarget, -⟩ := l.at_index hkey
    refine ⟨entry, hentry, OrderedMap.mem_keys_of_get? hsource, ?_⟩
    rw [hindex] at htarget
    exact entry.parameter.same.symm.trans
      (congrArg TensorObject.identity (Option.some.inj htarget)).symm
  · rintro ⟨entry, hentry, hname, rfl⟩
    have hcommon := mem_common.mpr ⟨List.mem_map_of_mem hentry, hname⟩
    obtain ⟨index, hindex⟩ := List.mem_iff_getElem?.mp hcommon
    obtain ⟨entry', hentry', -, heq, -, htarget, -⟩ := l.at_index hindex
    have hsame : entry' = entry :=
      List.inj_on_of_nodup_map (nodup_names module) hentry' hentry heq
    refine List.mem_map.mpr ⟨_, List.mem_of_getElem? htarget, ?_⟩
    rw [hsame]
    exact entry.parameter.same

theorem nodup (l : Loads module state targetTensors sourceTensors) :
    (targetTensors.map TensorObject.identity).Nodup := by
  have hidentities : (targetTensors.map TensorObject.identity).map some =
      (module.common state).map fun key => (module.targets.get? key).map Parameter.identity := by
    have h := congrArg (List.map (Option.map TensorObject.identity)) l.targets
    rw [List.map_map, List.map_map] at h
    rw [List.map_map]
    refine h.trans (List.map_congr_left fun key _ => ?_)
    cases hparameter : module.targets.get? key with
    | none => simp [hparameter]
    | some parameter => simp [hparameter, parameter.same]
  apply List.Nodup.of_map some
  rw [hidentities]
  apply List.Nodup.map_on _ (nodup_common module state)
  intro key hkey other hother heq
  obtain ⟨entry, hentry, rfl⟩ := List.mem_map.mp (mem_common.mp hkey).1
  obtain ⟨entry', hentry', rfl⟩ := List.mem_map.mp (mem_common.mp hother).1
  rw [get?_targets.mpr hentry, get?_targets.mpr hentry', Option.map_some, Option.map_some] at heq
  have hsame : entry = entry' := List.inj_on_of_nodup_map (nodup_identities module) hentry hentry'
    (Option.some.inj heq)
  rw [hsame]

end Loads

theorem Loads.exists_key_of_target {module : Module Layer} {state : StateDict}
    {targetTensors sourceTensors : List TensorObject} {tensor : TensorObject}
    (l : Loads module state targetTensors sourceTensors) (h : tensor ∈ targetTensors) :
    ∃ key ∈ module.common state,
      (module.targets.get? key).map Parameter.tensor = some tensor := by
  have hmem : some tensor ∈ targetTensors.map some := List.mem_map_of_mem h
  rw [l.targets] at hmem
  exact List.mem_map.mp hmem

theorem Loads.exists_key_of_source {module : Module Layer} {state : StateDict}
    {targetTensors sourceTensors : List TensorObject} {tensor : TensorObject}
    (l : Loads module state targetTensors sourceTensors) (h : tensor ∈ sourceTensors) :
    ∃ key ∈ module.common state, state.entries.get? key = some tensor := by
  have hmem : some tensor ∈ sourceTensors.map some := List.mem_map_of_mem h
  rw [l.sources] at hmem
  exact List.mem_map.mp hmem

theorem Loads.not_fits {module : Module Layer} {state : StateDict}
    {targetTensors sourceTensors : List TensorObject} {tensor : TensorObject}
    (l : Loads module state targetTensors sourceTensors)
    (h : tensor ∈ targetTensors ∨ tensor ∈ sourceTensors) (hdisposed : tensor.disposed = true) :
    ∃ key ∈ module.common state, ¬Fits module.targets state.entries key := by
  rcases h with h | h
  · obtain ⟨key, hkey, htarget⟩ := l.exists_key_of_target h
    refine ⟨key, hkey, ?_⟩
    rintro ⟨target, source, hfound, -, -, -, -, -, hlive, -⟩
    rw [hfound, Option.map_some] at htarget
    obtain rfl := Option.some.inj htarget
    exact Bool.false_ne_true (hlive.symm.trans hdisposed)
  · obtain ⟨key, hkey, hsource⟩ := l.exists_key_of_source h
    refine ⟨key, hkey, ?_⟩
    rintro ⟨target, source, -, hfound, -, -, -, -, -, hlive⟩
    obtain rfl := Option.some.inj (hsource.symm.trans hfound)
    exact Bool.false_ne_true (hlive.symm.trans hdisposed)

def missingKeys (module : Module Layer) (state : StateDict) : List String :=
  sorted (module.targets.keys.filter (· ∉ state.entries.keys))

def unexpectedKeys (module : Module Layer) (state : StateDict) : List String :=
  sorted (state.entries.keys.filter (· ∉ module.targets.keys))

theorem mem_missingKeys {module : Module Layer} {state : StateDict} {key : String} :
    key ∈ missingKeys module state ↔ key ∈ module.parameterList.map NamedParameter.name ∧
      key ∉ state.entries.keys := by
  unfold missingKeys
  rw [mem_sorted, List.mem_filter, keys_targets, decide_eq_true_iff]

theorem mem_unexpectedKeys {module : Module Layer} {state : StateDict} {key : String} :
    key ∈ unexpectedKeys module state ↔ key ∈ state.entries.keys ∧
      key ∉ module.parameterList.map NamedParameter.name := by
  unfold unexpectedKeys
  rw [mem_sorted, List.mem_filter, keys_targets, decide_eq_true_iff]

inductive Refused (module : Module Layer) (state : StateDict) (strict : Bool) : Prop where
  | unreadable (h : ¬module.Readable)
  | disposed (h : state.disposed = true)
  | keys (hstrict : strict = true)
      (h : missingKeys module state ≠ [] ∨ unexpectedKeys module state ≠ [])
  | entry (key : String) (hkey : key ∈ module.common state)
      (h : ¬Fits module.targets state.entries key)

structure Loaded (module : Module Layer) (state : StateDict) (strict : Bool) (s s' : Store V)
    (result : StateLoadResult) : Prop where
  missing : ∀ key, key ∈ result.missingKeys ↔
    key ∈ module.parameterList.map NamedParameter.name ∧ key ∉ state.entries.keys
  unexpected : ∀ key, key ∈ result.unexpectedKeys ↔
    key ∈ state.entries.keys ∧ key ∉ module.parameterList.map NamedParameter.name
  strict : strict = true → result.isSuccess = true
  replaced : ∀ entry ∈ module.parameterList, ∀ source,
    state.entries.get? entry.name = some source →
      s'.values entry.identity = s.values source.identity
  kept : ∀ identity, (∀ entry ∈ module.parameterList, entry.name ∈ state.entries.keys →
    entry.identity ≠ identity) → s'.values identity = s.values identity

theorem Loaded.isSuccess {module : Module Layer} {state : StateDict} {strict : Bool}
    {s s' : Store V} {result : StateLoadResult} (h : Loaded module state strict s s' result)
    (hnames : ∀ key ∈ module.parameterList.map NamedParameter.name, key ∈ state.entries.keys)
    (hkeys : ∀ key ∈ state.entries.keys, key ∈ module.parameterList.map NamedParameter.name) :
    result.isSuccess = true := by
  have hmissing : result.missingKeys = [] := by
    apply List.eq_nil_iff_forall_not_mem.mpr
    intro key hkey
    have hmem := (h.missing key).mp hkey
    exact hmem.2 (hnames key hmem.1)
  have hunexpected : result.unexpectedKeys = [] := by
    apply List.eq_nil_iff_forall_not_mem.mpr
    intro key hkey
    have hmem := (h.unexpected key).mp hkey
    exact hmem.2 (hkeys key hmem.1)
  unfold StateLoadResult.isSuccess
  rw [hmissing, hunexpected]
  rfl

theorem wp_loadStateDict {native : NativeState V} (hatomic : native.Atomic)
    (module : Module Layer) (state : StateDict) (strict : Bool) (s : Store V) :
    wp (module.loadStateDict native state strict)
      (fun result s' => Loaded module state strict s s' result)
      (fun thrown s' => s'.values = s.values ∧ (Refused module state strict ∨
        ∃ targets sources, native.assignMany targets sources s = .error thrown s')) s := by
  unfold Module.loadStateDict ensureLive
  rw [wp_bind, wp_throwIf]
  refine ⟨fun hdisposed => ⟨rfl, .inl (.unreadable fun h => ?_)⟩, fun _ => ?_⟩
  · exact Bool.false_ne_true (h.1.symm.trans hdisposed)
  apply wp_seq (wp_namedParameters module s)
  · rintro _ s ⟨rfl, h⟩
    exact ⟨rfl, .inl (.unreadable h)⟩
  rintro named s ⟨rfl, hreadable, rfl⟩
  change wp (throwIf (state.disposed = true) _ >>= _) _ _ s
  rw [wp_bind, wp_throwIf]
  refine ⟨fun hdisposed => ⟨rfl, .inl (.disposed hdisposed)⟩, fun _ => ?_⟩
  change wp (throwIf (strict = true ∧
    StateLoadResult.isSuccess ⟨missingKeys module state, unexpectedKeys module state⟩ = false) _ >>=
      _) _ _ s
  rw [wp_bind, wp_throwIf]
  refine ⟨fun hkeys => ⟨rfl, .inl (.keys hkeys.1 ?_)⟩, fun hkeys => ?_⟩
  · have hfalse := hkeys.2
    unfold StateLoadResult.isSuccess at hfalse
    rw [Bool.and_eq_false_iff, List.isEmpty_eq_false_iff, List.isEmpty_eq_false_iff] at hfalse
    exact hfalse
  apply wp_seq (wp_collectTensors module.targets state.entries (module.common state) [] [] s)
  · rintro _ s ⟨rfl, key, hkey, hfits⟩
    exact ⟨rfl, .inl (.entry key hkey hfits)⟩
  rintro ⟨targetTensors, sourceTensors⟩ s ⟨rfl, htargets, hsources⟩
  have hloads : Loads module state targetTensors sourceTensors := ⟨htargets, hsources⟩
  apply wp_seq (wp_assignMany hatomic hloads.length_eq hloads.nodup s)
  · rintro thrown s' ⟨hsame, ⟨tensor, hmem, hdisposed⟩ | hnative⟩
    · obtain ⟨key, hkey, hfits⟩ := hloads.not_fits hmem hdisposed
      exact ⟨hsame, .inl (.entry key hkey hfits)⟩
    · exact ⟨hsame, .inr ⟨_, _, hnative⟩⟩
  rintro _ s' ⟨hassigned, hothers⟩
  constructor
  · exact fun key => mem_missingKeys
  · exact fun key => mem_unexpectedKeys
  · intro hstrict
    exact Bool.not_eq_false _ ▸ fun hfalse => hkeys ⟨hstrict, hfalse⟩
  · intro entry hentry source hsource
    have hcommon := mem_common.mpr ⟨List.mem_map_of_mem hentry, OrderedMap.mem_keys_of_get? hsource⟩
    obtain ⟨index, hindex⟩ := List.mem_iff_getElem?.mp hcommon
    obtain ⟨entry', hentry', source', heq, hsource', htarget, hat⟩ := hloads.at_index hindex
    obtain rfl : entry' = entry :=
      List.inj_on_of_nodup_map (nodup_names module) hentry' hentry heq
    obtain rfl := Option.some.inj (hsource.symm.trans hsource')
    have hvalues := hassigned index _ _ htarget hat
    rw [entry'.parameter.same] at hvalues
    exact hvalues
  · intro identity hnone
    apply hothers
    intro hmem
    obtain ⟨entry, hentry, hname, heq⟩ := (hloads.identities identity).mp hmem
    exact hnone entry hentry hname heq

structure Taken (s s' : Store V) (entry : NamedParameter) (snapshot : TensorObject) : Prop where
  live : entry.parameter.disposed = false
  tensor : entry.parameter.tensor.disposed = false
  fresh : snapshot.disposed = false
  shape : snapshot.shape = entry.parameter.tensor.shape
  dtype : snapshot.dtype = entry.parameter.tensor.dtype
  device : snapshot.device = entry.parameter.tensor.device
  values : s'.values snapshot.identity = s.values entry.identity

structure Store.Extends (s s' : Store V) : Prop where
  next : s.next ≤ s'.next
  values : ∀ identity < s.next, s'.values identity = s.values identity

theorem wp_snapshot {native : NativeState V} (entry : NamedParameter) (s : Store V) :
    wp (entry.parameter.snapshot native)
      (fun snapshot s' => s.Extends s' ∧ snapshot.identity < s'.next ∧ Taken s s' entry snapshot)
      (fun _ _ => True) s := by
  unfold Parameter.snapshot cloneDetached
  rw [wp_bind, wp_throwIf]
  refine ⟨fun _ => trivial, fun hlive => ?_⟩
  rw [wp_bind, wp_throwIf]
  refine ⟨fun _ => trivial, fun htensor => ?_⟩
  rw [wp_bind, wp_get]
  cases native.cloneDetached entry.parameter.tensor.identity s with
  | some thrown => trivial
  | none =>
    refine ⟨⟨Nat.le_succ _, fun identity hlt => if_neg (Nat.ne_of_lt hlt)⟩, Nat.lt_succ_self _, ?_⟩
    have hfree := Bool.eq_false_iff.mpr htensor
    refine ⟨Bool.eq_false_iff.mpr hlive, hfree, hfree, rfl, rfl, rfl, ?_⟩
    exact (if_pos rfl).trans (congrArg s.values entry.parameter.same)

theorem wp_takeSnapshots {native : NativeState V} (entries : List NamedParameter)
    (snapshots : OrderedMap String TensorObject) (s : Store V)
    (hnames : (snapshots.keys ++ entries.map NamedParameter.name).Nodup)
    (hmade : ∀ entry ∈ entries, entry.identity < s.next) :
    wp (takeSnapshots native entries snapshots)
      (fun result s' => s.Extends s' ∧
        result.keys = snapshots.keys ++ entries.map NamedParameter.name ∧
        (∀ pair ∈ snapshots.entries, pair ∈ result.entries) ∧
        ∀ entry ∈ entries, ∃ snapshot, (entry.name, snapshot) ∈ result.entries ∧
          Taken s s' entry snapshot)
      (fun _ _ => True) s := by
  induction entries generalizing snapshots s with
  | nil =>
      exact ⟨⟨Nat.le_refl _, fun _ _ => rfl⟩, (List.append_nil _).symm, fun _ h => h,
        fun _ h => (List.not_mem_nil h).elim⟩
  | cons entry rest ih =>
      unfold takeSnapshots
      apply wp_seq (wp_snapshot entry s) fun _ _ _ => trivial
      rintro snapshot s₁ ⟨hextends, hnew, htaken⟩
      have hout : entry.name ∉ snapshots.keys := by
        intro hmem
        exact (List.nodup_append.mp hnames).2.2 _ hmem _ List.mem_cons_self rfl
      have hentries := OrderedMap.entries_set_of_new hout snapshot
      have hkeys : (snapshots.set entry.name snapshot).keys = snapshots.keys ++ [entry.name] := by
        unfold OrderedMap.keys
        rw [hentries, List.map_append]
        rfl
      have hrest := ih (snapshots.set entry.name snapshot) s₁
        (by
          rw [hkeys, List.append_assoc]
          exact hnames)
        (fun other hother => Nat.lt_of_lt_of_le (hmade other (List.mem_cons_of_mem _ hother))
          hextends.next)
      apply wp_mono hrest _ fun _ _ h => h
      rintro result s' ⟨hextends', hresult, hold, hall⟩
      refine ⟨⟨Nat.le_trans hextends.next hextends'.next, fun identity hlt => ?_⟩, ?_, ?_, ?_⟩
      · rw [hextends'.values identity (Nat.lt_of_lt_of_le hlt hextends.next),
          hextends.values identity hlt]
      · rw [hresult, hkeys, List.append_assoc]
        rfl
      · intro pair hpair
        apply hold
        rw [hentries]
        exact List.mem_append_left _ hpair
      · intro other hother
        rcases List.mem_cons.mp hother with rfl | hother
        · refine ⟨snapshot, hold _ ?_, { htaken with values := ?_ }⟩
          · rw [hentries]
            exact List.mem_append_right _ (List.mem_singleton_self _)
          · rw [hextends'.values _ hnew]
            exact htaken.values
        · obtain ⟨found, hfound, htaken'⟩ := hall other hother
          refine ⟨found, hfound, { htaken' with values := ?_ }⟩
          rw [htaken'.values]
          exact hextends.values _ (hmade other (List.mem_cons_of_mem _ hother))

/-- What `stateDict` returns has a clone of every parameter under its name. -/
structure Snapshot (module : Module Layer) (s s' : Store V) (state : StateDict) : Prop where
  readable : module.Readable
  live : state.disposed = false
  keys : state.entries.keys = module.parameterList.map NamedParameter.name
  taken : ∀ entry ∈ module.parameterList, ∃ snapshot,
    state.entries.get? entry.name = some snapshot ∧ Taken s s' entry snapshot

theorem wp_stateDict {native : NativeState V} (module : Module Layer) (s : Store V)
    (hmade : ∀ entry ∈ module.parameterList, entry.identity < s.next) :
    wp (module.stateDict native) (fun state s' => Snapshot module s s' state) (fun _ _ => True)
      s := by
  unfold Module.stateDict
  rw [wp_bind]
  refine wp_ensureLive ?_ fun _ => trivial
  apply wp_seq (wp_namedParameters module s) fun _ _ _ => trivial
  rintro named s ⟨rfl, hreadable, rfl⟩
  apply wp_seq (wp_takeSnapshots module.parameterList .empty s (nodup_names module) hmade)
    fun _ _ _ => trivial
  rintro result s' ⟨-, hkeys, -, htaken⟩
  refine ⟨hreadable, rfl, hkeys, fun entry hentry => ?_⟩
  obtain ⟨snapshot, hmem, h⟩ := htaken entry hentry
  exact ⟨snapshot, OrderedMap.get?_eq_some_iff.mpr hmem, h⟩

theorem Snapshot.not_refused {module : Module Layer} {s s' : Store V} {state : StateDict}
    (h : Snapshot module s s' state) (strict : Bool) : ¬Refused module state strict := by
  intro hrefused
  cases hrefused with
  | unreadable hread => exact hread h.readable
  | disposed hdisposed => exact Bool.false_ne_true (h.live.symm.trans hdisposed)
  | keys _ hkeys =>
    rcases hkeys with hmissing | hunexpected
    · obtain ⟨key, hkey⟩ := List.exists_mem_of_ne_nil _ hmissing
      have hmem := mem_missingKeys.mp hkey
      rw [h.keys] at hmem
      exact hmem.2 hmem.1
    · obtain ⟨key, hkey⟩ := List.exists_mem_of_ne_nil _ hunexpected
      have hmem := mem_unexpectedKeys.mp hkey
      rw [h.keys] at hmem
      exact hmem.2 hmem.1
  | entry key hkey hfits =>
    obtain ⟨entry, hentry, rfl⟩ := List.mem_map.mp (mem_common.mp hkey).1
    obtain ⟨snapshot, hget, taken⟩ := h.taken entry hentry
    exact hfits ⟨entry.parameter, snapshot, get?_targets.mpr hentry, hget, taken.live, taken.shape,
      taken.dtype, taken.device, taken.tensor, taken.fresh⟩

/-- The laws of names, of loading and of restoring, for a tree and a runtime. -/
structure StateDictLaws (native : NativeState V) (module : Module Layer) : Prop where
  names : ∀ s named s', module.namedParameters (V := V) s = .ok named s' →
    named = module.parameterList ∧ (named.map NamedParameter.name).Nodup ∧
    (named.map NamedParameter.identity).Nodup ∧
    ∀ identity, identity ∈ named.map NamedParameter.identity ↔
      ∃ leaf ∈ module.leaves, ∃ entry ∈ leaf.2.registeredParameters,
        entry.parameter.identity = identity
  restores : ∀ s state s₁, (∀ entry ∈ module.parameterList, entry.identity < s.next) →
    module.stateDict native s = .ok state s₁ →
    ∀ s₂, (∀ snapshot ∈ state.entries.entries.map Prod.snd,
      s₂.values snapshot.identity = s₁.values snapshot.identity) →
    ∀ strict, match module.loadStateDict native state strict s₂ with
      | .ok result s₃ => result.isSuccess = true ∧
          ∀ entry ∈ module.parameterList, s₃.values entry.identity = s.values entry.identity
      | .error thrown s₃ =>
          ∃ targets sources, native.assignMany targets sources s₂ = .error thrown s₃
  loads : ∀ s state strict, match module.loadStateDict native state strict s with
    | .ok result s' => Loaded module state strict s s' result
    | .error _ s' => s'.values = s.values

/-- The laws hold for every tree when the native assignment is atomic. -/
theorem state_dict_laws {native : NativeState V} (hatomic : native.Atomic)
    (module : Module Layer) : StateDictLaws native module where
  names := by
    intro s named s' hrun
    obtain ⟨-, -, rfl⟩ := wp_of_ok (wp_namedParameters module s) hrun
    exact ⟨rfl, nodup_names module, nodup_identities module, mem_identities module⟩
  restores := by
    intro s state s₁ hmade hstate s₂ hkept strict
    have hsnapshot := wp_of_ok (wp_stateDict module s hmade) hstate
    have hload := wp_loadStateDict hatomic module state strict s₂
    unfold wp at hload
    cases hrun : module.loadStateDict native state strict s₂ with
    | ok result s₃ =>
      rw [hrun] at hload
      constructor
      · apply hload.isSuccess
        · exact fun key hkey => hsnapshot.keys ▸ hkey
        · exact fun key hkey => hsnapshot.keys ▸ hkey
      · intro entry hentry
        obtain ⟨snapshot, hget, taken⟩ := hsnapshot.taken entry hentry
        have hmem := List.mem_map_of_mem (f := Prod.snd) (OrderedMap.get?_eq_some_iff.mp hget)
        rw [hload.replaced entry hentry snapshot hget, hkept snapshot hmem]
        exact taken.values
    | error thrown s₃ =>
      rw [hrun] at hload
      exact hload.2.resolve_left (hsnapshot.not_refused strict)
  loads := by
    intro s state strict
    have hload := wp_loadStateDict hatomic module state strict s
    unfold wp at hload
    cases hrun : module.loadStateDict native state strict s with
    | ok result s' =>
      rw [hrun] at hload
      exact hload
    | error thrown s' =>
      rw [hrun] at hload
      exact hload.1

def assigning : NativeState Nat where
  cloneDetached _ _ := none
  assignMany targets sources := modify fun s =>
    { s with
      values := fun identity =>
        ((sources[targets.idxOf identity]?).map s.values).getD (s.values identity) }

theorem assigning_atomic : assigning.Atomic where
  assigned := by
    rintro targets sources s _ ⟨⟩ hnodup hlength
    constructor
    · intro index target source htarget hsource
      obtain ⟨hlt, rfl⟩ := List.getElem?_eq_some_iff.mp htarget
      change ((sources[targets.idxOf targets[index]]?).map s.values).getD _ = _
      rw [hnodup.idxOf_getElem, hsource]
      rfl
    · intro identity hmem
      change ((sources[targets.idxOf identity]?).map s.values).getD _ = _
      rw [List.idxOf_eq_length hmem, List.getElem?_eq_none (Nat.le_of_eq hlength.symm)]
      rfl
  failed := fun _ _ _ _ _ h => nomatch h

def vector (identity : Nat) : Parameter where
  tensor := ⟨identity, [1], .float32, ⟨.cpu, 0⟩, false⟩
  disposed := false
  identity := identity
  same := rfl

def twoLinears : Module Layer :=
  .sequential ⟨0, false⟩ [.leaf ⟨1, false⟩ (.linear (vector 0) (some (vector 1))),
    .leaf ⟨2, false⟩ .stateless,
      .model ⟨3, false⟩ none (.leaf ⟨4, false⟩ (.linear (vector 2) none))]

theorem twoLinears_laws : StateDictLaws assigning twoLinears :=
  state_dict_laws assigning_atomic twoLinears

end Tensora.Nn
