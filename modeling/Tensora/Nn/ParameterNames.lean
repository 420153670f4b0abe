import Tensora.Nn.StateDict

/-! Names of parameters are paths: the places in the containers, then the name in the layer.
Different paths are written differently. -/
namespace Tensora.Nn
open ProgramLogic

/-- What can stand between two dots of a name. -/
def Plain (component : String) : Prop := component ≠ "" ∧ '.' ∉ component.toList

def render (path : List String) : String := ".".intercalate path

theorem render_injective {path other : List String} (hpath : ∀ component ∈ path, Plain component)
    (hother : ∀ component ∈ other, Plain component) (hne : path ≠ []) (hne' : other ≠ [])
    (h : render path = render other) : path = other := by
  have hsplit : ∀ given : List String, (∀ component ∈ given, Plain component) → given ≠ [] →
      (render given).toList.splitOn '.' = given.map String.toList := by
    intro given hplain hgiven
    have hlist : (render given).toList = ['.'].intercalate (given.map String.toList) := by
      unfold render
      rw [String.toList_intercalate]
      rfl
    rw [hlist]
    apply List.splitOn_intercalate
    · intro chars hchars
      obtain ⟨component, hcomponent, rfl⟩ := List.mem_map.mp hchars
      exact (hplain component hcomponent).2
    · simpa using hgiven
  have hlists : path.map String.toList = other.map String.toList := by
    rw [← hsplit path hpath hne, ← hsplit other hother hne', h]
  exact List.map_injective_iff.mpr (fun _ _ => String.toList_inj.mp) hlists

theorem render_ne_empty {path : List String} (hpath : ∀ component ∈ path, Plain component)
    (hne : path ≠ []) : render path ≠ "" := by
  cases path with
  | nil => exact absurd rfl hne
  | cons first rest =>
    intro hempty
    have hfirst := (hpath first List.mem_cons_self).1
    cases rest with
    | nil =>
      apply hfirst
      simpa [render] using hempty
    | cons second rest =>
      unfold render at hempty
      rw [String.intercalate_cons_cons] at hempty
      simp at hempty

theorem joinPath_render {path : List String} {name : String}
    (hpath : ∀ component ∈ path, Plain component) (hname : Plain name) :
    joinPath (render path) name = render (path ++ [name]) := by
  unfold joinPath
  rw [if_neg hname.1]
  by_cases hne : path = []
  · subst hne
    simp [render]
  · rw [if_neg (render_ne_empty hpath hne)]
    unfold render
    rw [String.intercalate_append_of_ne_nil hne (List.cons_ne_nil _ _),
      String.intercalate_singleton]

theorem plain_repr (index : Nat) : Plain index.repr := by
  constructor
  · simp
  · rw [Nat.toList_repr]
    intro hmem
    have hdigit := Nat.isDigit_of_mem_toDigits (by decide) (by decide) hmem
    exact absurd hdigit (by decide)

theorem repr_inj {index other : Nat} (h : index.repr = other.repr) : index = other := by
  have hlists := congrArg String.toList h
  rw [Nat.toList_repr, Nat.toList_repr] at hlists
  have hvalues := congrArg (Nat.ofDigitChars 10 · 0) hlists
  simpa using hvalues

mutual

/-- The parameters of a tree with their paths, in order. -/
def Module.entries : Module Layer → List (List String × Parameter)
  | .leaf _ layer => layer.registeredParameters.map fun entry => ([entry.name], entry.parameter)
  | .sequential _ children => entriesOf children 0
  | .model _ _ root => root.entries

def entriesOf : List (Module Layer) → Nat → List (List String × Parameter)
  | [], _ => []
  | child :: rest, index =>
      child.entries.map (fun entry => (index.repr :: entry.1, entry.2)) ++
        entriesOf rest (index + 1)

end

theorem Layer.plain_name (layer : Layer) : ∀ entry ∈ layer.registeredParameters,
    Plain entry.name := by
  have hweight : Plain "weight" := ⟨by decide, by decide⟩
  have hbias : Plain "bias" := ⟨by decide, by decide⟩
  cases layer with
  | stateless => exact fun _ hmem => (List.not_mem_nil hmem).elim
  | linear weight bias =>
    intro entry hmem
    rcases List.mem_cons.mp hmem with rfl | hmem
    · exact hweight
    · cases bias with
      | none => exact (List.not_mem_nil hmem).elim
      | some bias =>
        obtain rfl := List.mem_singleton.mp hmem
        exact hbias

def IsPath (path : List String) : Prop := path ≠ [] ∧ ∀ component ∈ path, Plain component

theorem IsPath.cons {path : List String} {component : String} (h : Plain component)
    (hpath : IsPath path) : IsPath (component :: path) := by
  refine ⟨List.cons_ne_nil _ _, fun other hother => ?_⟩
  rcases List.mem_cons.mp hother with rfl | hother
  · exact h
  · exact hpath.2 other hother

mutual

theorem isPath_entries : (module : Module Layer) → ∀ entry ∈ module.entries, IsPath entry.1
  | .leaf _ layer => by
      intro entry hmem
      obtain ⟨named, hnamed, rfl⟩ := List.mem_map.mp hmem
      refine ⟨List.cons_ne_nil _ _, fun component hcomponent => ?_⟩
      exact List.mem_singleton.mp hcomponent ▸ layer.plain_name named hnamed
  | .sequential _ children => fun entry hmem => isPath_entriesOf children 0 entry hmem
  | .model _ _ root => isPath_entries root

theorem isPath_entriesOf : (children : List (Module Layer)) → (index : Nat) →
    ∀ entry ∈ entriesOf children index, IsPath entry.1
  | [], _ => fun _ hmem => (List.not_mem_nil hmem).elim
  | child :: rest, index => by
      intro entry hmem
      rcases List.mem_append.mp hmem with hmem | hmem
      · obtain ⟨inner, hinner, rfl⟩ := List.mem_map.mp hmem
        exact (isPath_entries child inner hinner).cons (plain_repr index)
      · exact isPath_entriesOf rest (index + 1) entry hmem

end

theorem head_entriesOf (children : List (Module Layer)) (index : Nat) :
    ∀ entry ∈ entriesOf children index, ∃ place ≥ index, entry.1.head? = some place.repr := by
  induction children generalizing index with
  | nil => exact fun _ hmem => (List.not_mem_nil hmem).elim
  | cons child rest ih =>
      intro entry hmem
      rcases List.mem_append.mp hmem with hmem | hmem
      · obtain ⟨inner, -, rfl⟩ := List.mem_map.mp hmem
        exact ⟨index, Nat.le_refl _, rfl⟩
      · obtain ⟨place, hplace, hhead⟩ := ih (index + 1) entry hmem
        exact ⟨place, Nat.le_of_succ_le hplace, hhead⟩

mutual

theorem nodup_entries : (module : Module Layer) → (module.entries.map Prod.fst).Nodup
  | .leaf _ layer => by
      cases layer with
      | stateless => exact List.nodup_nil
      | linear weight bias =>
        cases bias with
        | none => exact List.nodup_singleton _
        | some bias =>
          change [["weight"], ["bias"]].Nodup
          decide
  | .sequential _ children => nodup_entriesOf children 0
  | .model _ _ root => nodup_entries root

theorem nodup_entriesOf : (children : List (Module Layer)) → (index : Nat) →
    ((entriesOf children index).map Prod.fst).Nodup
  | [], _ => List.nodup_nil
  | child :: rest, index => by
      unfold entriesOf
      rw [List.map_append, List.map_map]
      have hchild : (child.entries.map fun entry => index.repr :: entry.1).Nodup := by
        have hcons := (nodup_entries child).map (f := (index.repr :: ·))
          fun _ _ heq => (List.cons.inj heq).2
        rwa [List.map_map] at hcons
      refine hchild.append (nodup_entriesOf rest (index + 1)) fun path hpath hother => ?_
      obtain ⟨inner, -, rfl⟩ := List.mem_map.mp hpath
      obtain ⟨entry, hentry, heq⟩ := List.mem_map.mp hother
      obtain ⟨place, hplace, hhead⟩ := head_entriesOf rest (index + 1) entry hentry
      rw [heq] at hhead
      have hsame := repr_inj (Option.some.inj hhead)
      omega

end

mutual

theorem exists_entry_iff (P : Parameter → Prop) : (module : Module Layer) →
    ((∃ entry ∈ module.entries, P entry.2) ↔
      ∃ leaf ∈ module.leaves, ∃ entry ∈ leaf.2.registeredParameters, P entry.parameter)
  | .leaf node layer => by simp [Module.entries, Module.leaves]
  | .sequential _ children => exists_entryOf_iff P children 0
  | .model _ _ root => exists_entry_iff P root

theorem exists_entryOf_iff (P : Parameter → Prop) : (children : List (Module Layer)) →
    (index : Nat) → ((∃ entry ∈ entriesOf children index, P entry.2) ↔
      ∃ leaf ∈ Module.leavesOf children, ∃ entry ∈ leaf.2.registeredParameters, P entry.parameter)
  | [], _ => by simp [entriesOf, Module.leavesOf]
  | child :: rest, index => by
      have hchild := exists_entry_iff P child
      have hrest := exists_entryOf_iff P rest (index + 1)
      simp only [entriesOf, Module.leavesOf, List.mem_append, List.mem_map, or_and_right, exists_or,
        hrest]
      apply or_congr_left
      rw [← hchild]
      constructor
      · rintro ⟨_, ⟨entry, hentry, rfl⟩, h⟩
        exact ⟨entry, hentry, h⟩
      · rintro ⟨entry, hentry, h⟩
        exact ⟨_, ⟨entry, hentry, rfl⟩, h⟩

end

def named (path : List String) (entry : List String × Parameter) : NamedParameter :=
  ⟨render (path ++ entry.1), entry.2⟩

mutual

theorem wp_collectParameters : (module : Module Layer) → (path : List String) →
    (∀ component ∈ path, Plain component) → (collected : List NamedParameter × List Nat) →
    (s : Store V) →
    wp (module.collectParameters (render path) collected)
      (fun result s' => s' = s ∧ module.failures = [] ∧
        result = (module.entries.map (named path)).foldl addParameter collected)
      (fun _ s' => s' = s ∧ module.failures ≠ []) s
  | .leaf _ layer, path, hpath, collected, s => by
      refine ⟨rfl, rfl, ?_⟩
      unfold Module.entries
      rw [List.map_map, List.foldl_map]
      apply List.foldl_ext
      intro acc entry hentry
      rw [joinPath_render hpath (layer.plain_name entry hentry)]
      rfl
  | .sequential _ children, path, hpath, collected, s =>
      wp_collectChildren children 0 path hpath collected s
  | .model _ failure root, path, hpath, collected, s => by
      unfold Module.collectParameters
      cases failure with
      | some thrown => exact ⟨rfl, List.cons_ne_nil _ _⟩
      | none =>
        have hsame : joinPath (render path) "" = render path := if_pos rfl
        rw [hsame]
        exact wp_collectParameters root path hpath collected s

theorem wp_collectChildren : (children : List (Module Layer)) → (index : Nat) →
    (path : List String) → (∀ component ∈ path, Plain component) →
    (collected : List NamedParameter × List Nat) → (s : Store V) →
    wp (collectChildren children index (render path) collected)
      (fun result s' => s' = s ∧ Module.failuresOf children = [] ∧
        result = ((entriesOf children index).map (named path)).foldl addParameter collected)
      (fun _ s' => s' = s ∧ Module.failuresOf children ≠ []) s
  | [], _, _, _, _, _ => ⟨rfl, rfl, rfl⟩
  | child :: rest, index, path, hpath, collected, s => by
      have hbelow : ∀ component ∈ path ++ [index.repr], Plain component := by
        intro component hmem
        rcases List.mem_append.mp hmem with hmem | hmem
        · exact hpath component hmem
        · exact List.mem_singleton.mp hmem ▸ plain_repr index
      unfold collectChildren
      rw [joinPath_render hpath (plain_repr index), Module.failuresOf]
      apply wp_seq (wp_collectParameters child (path ++ [index.repr]) hbelow collected s)
      · exact fun _ _ h => ⟨h.1, List.append_ne_nil_of_left_ne_nil h.2 _⟩
      rintro first s ⟨rfl, hchild, rfl⟩
      apply wp_mono (wp_collectChildren rest (index + 1) path hpath _ s)
      · rintro result _ ⟨rfl, hrest, rfl⟩
        refine ⟨rfl, by rw [hchild, hrest, List.append_nil], ?_⟩
        have hnamed : named path ∘ (fun entry => (index.repr :: entry.1, entry.2)) =
            named (path ++ [index.repr]) := by
          funext entry
          simp [named]
        rw [entriesOf, List.map_append, List.foldl_append, List.map_map, hnamed]
      · exact fun _ _ h => ⟨h.1, List.append_ne_nil_of_right_ne_nil _ h.2⟩

end

def NamedParameter.identity (entry : NamedParameter) : Nat := entry.parameter.identity

structure Collected (before given : List NamedParameter)
    (result : List NamedParameter × List Nat) : Prop where
  seen : ∀ identity, identity ∈ result.2 ↔ identity ∈ result.1.map NamedParameter.identity
  nodup : (result.1.map NamedParameter.identity).Nodup
  sublist : ∃ new, new.Sublist given ∧ result.1 = before ++ new
  all : ∀ identity, identity ∈ result.1.map NamedParameter.identity ↔
    identity ∈ before.map NamedParameter.identity ∨ identity ∈ given.map NamedParameter.identity

theorem foldl_addParameter (given before : List NamedParameter) (seen : List Nat)
    (hseen : ∀ identity, identity ∈ seen ↔ identity ∈ before.map NamedParameter.identity)
    (hnodup : (before.map NamedParameter.identity).Nodup) :
    Collected before given (given.foldl addParameter (before, seen)) := by
  induction given generalizing before seen with
  | nil =>
      exact ⟨hseen, hnodup, ⟨[], .refl [], (List.append_nil _).symm⟩,
        fun _ => (or_iff_left List.not_mem_nil).symm⟩
  | cons entry rest ih =>
      rw [List.foldl_cons]
      by_cases hmem : entry.parameter.identity ∈ seen
      · have hskip : addParameter (before, seen) entry = (before, seen) := if_pos hmem
        rw [hskip]
        have hrest := ih before seen hseen hnodup
        obtain ⟨new, hsub, heq⟩ := hrest.sublist
        refine ⟨hrest.seen, hrest.nodup, ⟨new, hsub.cons entry, heq⟩, fun identity => ?_⟩
        rw [hrest.all, List.map_cons, List.mem_cons]
        constructor
        · exact Or.imp_right .inr
        · rintro (hbefore | rfl | hgiven)
          · exact .inl hbefore
          · exact .inl ((hseen _).mp hmem)
          · exact .inr hgiven
      · have hadd : addParameter (before, seen) entry =
            (before ++ [entry], entry.parameter.identity :: seen) := if_neg hmem
        rw [hadd]
        have hrest := ih (before ++ [entry]) (entry.parameter.identity :: seen)
          (fun identity => by
            rw [List.mem_cons, hseen, List.map_append, List.mem_append, or_comm]
            exact or_congr Iff.rfl List.mem_singleton.symm)
          (by
            rw [List.map_append]
            refine hnodup.append (List.nodup_singleton _) (List.disjoint_singleton.mpr ?_)
            exact fun hbefore => hmem ((hseen _).mpr hbefore))
        obtain ⟨new, hsub, heq⟩ := hrest.sublist
        refine ⟨hrest.seen, hrest.nodup, ⟨entry :: new, hsub.cons_cons entry, ?_⟩,
          fun identity => ?_⟩
        · rw [heq, List.append_assoc, List.singleton_append]
        · rw [hrest.all, List.map_append, List.mem_append, or_assoc, ← List.mem_append]
          rfl

/-- The parameters of a tree under the names the traversal gives them, each identity once. -/
def Module.parameterList (module : Module Layer) : List NamedParameter :=
  ((module.entries.map (named [])).foldl addParameter ([], [])).1

def Module.Readable (module : Module Layer) : Prop :=
  module.node.disposed = false ∧ module.failures = []

theorem Module.Readable.failure {module : Module Layer} (h : module.Readable) :
    module.failure = none := by
  cases module with
  | leaf node layer => rfl
  | sequential node children => rfl
  | model node failure root =>
    cases failure with
    | none => rfl
    | some thrown => exact absurd h.2 (List.cons_ne_nil _ _)

theorem wp_namedParameters (module : Module Layer) (s : Store V) :
    wp module.namedParameters
      (fun result s' => s' = s ∧ module.Readable ∧ result = module.parameterList)
      (fun _ s' => s' = s ∧ ¬module.Readable) s := by
  unfold Module.namedParameters ensureLive
  rw [wp_bind, wp_throwIf]
  refine ⟨fun hdisposed => ⟨rfl, fun h => ?_⟩, fun hlive => ?_⟩
  · exact Bool.false_ne_true (h.1.symm.trans hdisposed)
  cases hfailure : module.failure with
  | some thrown =>
    refine ⟨rfl, fun h => ?_⟩
    exact nomatch hfailure.symm.trans h.failure
  | none =>
    apply wp_seq (wp_collectParameters module [] (fun _ hmem => (List.not_mem_nil hmem).elim)
      ([], []) s)
    · exact fun _ _ h => ⟨h.1, fun hreadable => h.2 hreadable.2⟩
    · rintro result _ ⟨rfl, hfailures, rfl⟩
      exact ⟨rfl, ⟨Bool.eq_false_iff.mpr hlive, hfailures⟩, rfl⟩

theorem collected_parameterList (module : Module Layer) :
    Collected [] (module.entries.map (named []))
      ((module.entries.map (named [])).foldl addParameter ([], [])) :=
  foldl_addParameter _ [] [] (fun _ => Iff.rfl) List.nodup_nil

theorem nodup_names (module : Module Layer) :
    (module.parameterList.map NamedParameter.name).Nodup := by
  have hall : ((module.entries.map (named [])).map NamedParameter.name).Nodup := by
    have hnames : (module.entries.map (named [])).map NamedParameter.name =
        (module.entries.map Prod.fst).map render := by
      rw [List.map_map, List.map_map]
      rfl
    rw [hnames]
    apply List.Nodup.map_on _ (nodup_entries module)
    intro path hpath other hother heq
    obtain ⟨entry, hentry, rfl⟩ := List.mem_map.mp hpath
    obtain ⟨entry', hentry', rfl⟩ := List.mem_map.mp hother
    have h := isPath_entries module entry hentry
    have h' := isPath_entries module entry' hentry'
    exact render_injective h.2 h'.2 h.1 h'.1 heq
  obtain ⟨new, hsub, heq⟩ := (collected_parameterList module).sublist
  rw [List.nil_append] at heq
  unfold Module.parameterList
  rw [heq]
  exact (hsub.map _).nodup hall

theorem nodup_identities (module : Module Layer) :
    (module.parameterList.map NamedParameter.identity).Nodup :=
  (collected_parameterList module).nodup

theorem mem_identities (module : Module Layer) (identity : Nat) :
    identity ∈ module.parameterList.map NamedParameter.identity ↔
      ∃ leaf ∈ module.leaves, ∃ entry ∈ leaf.2.registeredParameters,
        entry.parameter.identity = identity := by
  rw [← exists_entry_iff (fun parameter => parameter.identity = identity)]
  unfold Module.parameterList
  rw [(collected_parameterList module).all, List.map_map]
  simp [NamedParameter.identity, named]

end Tensora.Nn
