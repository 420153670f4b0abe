import Tensora.Lib.Acyclic
import Tensora.Nn.Ownership

/-! Module ownership is a forest, whatever user code does while a model is built. -/
namespace Tensora.Nn
open ProgramLogic Acyclicity Relation

/-- A kind only changes when a model that is not being built gets its root. -/
inductive Kind.Grows : Kind → Kind → Prop where
  | same (kind : Kind) : Kind.Grows kind kind
  | built (root : Nat) : Kind.Grows (.model none false) (.model (some root) false)

def Kind.Settled (kind : Kind) : Prop := ∀ building, kind ≠ .model none building

theorem Kind.Grows.trans {a b c : Kind} (h : Kind.Grows a b) (h' : Kind.Grows b c) :
    Kind.Grows a c := by
  cases h with
  | same => exact h'
  | built root =>
    cases h' with
    | same => exact .built root

theorem Kind.Grows.settled {a b : Kind} (h : Kind.Grows a b) (ha : a.Settled) : b = a := by
  cases h with
  | same => rfl
  | built root => exact absurd rfl (ha false)

theorem Kind.Grows.of_building {kind : Kind} (h : Kind.Grows (.model none true) kind) :
    kind = .model none true := by
  cases h with
  | same => rfl

theorem Kind.settled_withBuilding {kind : Kind} (h : kind.Settled) (building : Bool) :
    (kind.withBuilding building).Settled := by
  intro other heq
  cases kind with
  | leaf => exact nomatch heq
  | sequential children => exact nomatch heq
  | model root before =>
    injection heq with hroot
    exact h before (congrArg (Kind.model · before) hroot)

@[simp] theorem Kind.children_withBuilding (kind : Kind) (building : Bool) :
    (kind.withBuilding building).children = kind.children := by
  cases kind <;> rfl

namespace Objects
variable {h h' : Objects}

@[simp] theorem object_update (h : Objects) (module : Nat) (change : Object → Object) :
    (h.update module change).object module = change (h.object module) := if_pos rfl

theorem object_update_of_ne {module other : Nat} (hne : other ≠ module)
    (change : Object → Object) : (h.update module change).object other = h.object other :=
  if_neg hne

@[simp] theorem children_setOwner (h : Objects) (module : Nat) (owner : Option Nat) (other : Nat) :
    (h.setOwner module owner).children other = h.children other := by
  unfold children setOwner
  by_cases heq : other = module
  · subst heq
    rw [object_update]
  · rw [object_update_of_ne heq]

@[simp] theorem kind_setOwner (h : Objects) (module : Nat) (owner : Option Nat) (other : Nat) :
    ((h.setOwner module owner).object other).kind = (h.object other).kind := by
  unfold setOwner
  by_cases heq : other = module
  · subst heq
    rw [object_update]
  · rw [object_update_of_ne heq]

theorem owner_setOwner (h : Objects) (module : Nat) (owner : Option Nat) (other : Nat) :
    (h.setOwner module owner).owner other = if other = module then owner else h.owner other := by
  unfold Objects.owner setOwner
  by_cases heq : other = module
  · subst heq
    rw [object_update, if_pos rfl]
  · rw [object_update_of_ne heq, if_neg heq]

@[simp] theorem kind_setDisposed (h : Objects) (module other : Nat) :
    ((h.setDisposed module).object other).kind = (h.object other).kind := by
  unfold setDisposed
  by_cases heq : other = module
  · subst heq
    rw [object_update]
  · rw [object_update_of_ne heq]

@[simp] theorem owner_setDisposed (h : Objects) (module other : Nat) :
    (h.setDisposed module).owner other = h.owner other := by
  unfold Objects.owner setDisposed
  by_cases heq : other = module
  · subst heq
    rw [object_update]
  · rw [object_update_of_ne heq]

@[simp] theorem owner_setBuilding (h : Objects) (model other : Nat) (building : Bool) :
    (h.setBuilding model building).owner other = h.owner other := by
  unfold Objects.owner setBuilding
  by_cases heq : other = model
  · subst heq
    rw [object_update]
  · rw [object_update_of_ne heq]

@[simp] theorem children_setBuilding (h : Objects) (model other : Nat) (building : Bool) :
    (h.setBuilding model building).children other = h.children other := by
  unfold children setBuilding
  by_cases heq : other = model
  · subst heq
    rw [object_update, Kind.children_withBuilding]
  · rw [object_update_of_ne heq]

/-- The ownership of these objects is a forest over what their containers and models list. -/
structure Owned (h : Objects) : Prop where
  unmade : ∀ module, h.next ≤ module → h.owner module = none ∧ (h.object module).kind = .leaf
  made : ∀ module child, child ∈ h.children module → child < h.next
  listed : ∀ module owner, h.owner module = some owner → module ∈ h.children owner
  acyclic : Acyclic fun parent child => child ∈ h.children parent
  rooted : ∀ model ∈ h.materialized, model < h.next ∧ (h.object model).kind.Settled
  once : h.materialized.Nodup

theorem owned_empty : Owned empty where
  unmade := fun _ _ => ⟨rfl, rfl⟩
  made := fun _ _ hchild => (List.not_mem_nil hchild).elim
  listed := fun _ _ howner => nomatch howner
  acyclic := by
    intro x hx
    obtain ⟨y, -, hlast⟩ := TransGen.tail'_iff.mp hx
    exact List.not_mem_nil hlast
  rooted := fun _ hmem => (List.not_mem_nil hmem).elim
  once := List.nodup_nil

structure Grows (h h' : Objects) : Prop where
  next : h.next ≤ h'.next
  kind : ∀ module < h.next, (h.object module).kind.Grows (h'.object module).kind

theorem Grows.refl (h : Objects) : h.Grows h := ⟨Nat.le_refl _, fun _ _ => .same _⟩

theorem Grows.trans {h'' : Objects} (g : h.Grows h') (g' : h'.Grows h'') : h.Grows h'' where
  next := Nat.le_trans g.next g'.next
  kind := fun module hlt =>
    (g.kind module hlt).trans (g'.kind module (Nat.lt_of_lt_of_le hlt g.next))

theorem Owned.of_kinds (o : Owned h) (hnext : h'.next = h.next)
    (hmaterialized : h'.materialized = h.materialized)
    (hkind : ∀ module, (h'.object module).kind = (h.object module).kind)
    (howner : ∀ module owner, h'.owner module = some owner →
      h.owner module = some owner ∨ module < h.next ∧ module ∈ h.children owner) :
    Owned h' := by
  have hchildren : ∀ module, h'.children module = h.children module :=
    fun module => congrArg Kind.children (hkind module)
  constructor
  · intro module hle
    have hle' : h.next ≤ module := hnext ▸ hle
    have hbefore := o.unmade module hle'
    refine ⟨?_, (hkind module).trans hbefore.2⟩
    cases howns : h'.owner module with
    | none => rfl
    | some owner =>
      rcases howner module owner howns with hold | hnew
      · exact hold.symm.trans hbefore.1
      · exact absurd hnew.1 (Nat.not_lt.mpr hle')
  · intro module child hchild
    rw [hnext]
    exact o.made module child (hchildren module ▸ hchild)
  · intro module owner howns
    rw [hchildren]
    rcases howner module owner howns with hold | hnew
    · exact o.listed module owner hold
    · exact hnew.2
  · exact o.acyclic.mono fun x y hxy => hchildren x ▸ hxy
  · intro model hmem
    rw [hkind, hnext]
    exact o.rooted model (hmaterialized ▸ hmem)
  · exact hmaterialized ▸ o.once

theorem Grows.of_kinds (hnext : h'.next = h.next)
    (hkind : ∀ module, (h'.object module).kind = (h.object module).kind) : h.Grows h' where
  next := Nat.le_of_eq hnext.symm
  kind := fun module _ => (hkind module).symm ▸ .same _

theorem object_allocate_of_ne (h : Objects) (runtimeType : String) (kind : Kind) {module : Nat}
    (hne : module ≠ h.next) : (h.allocate runtimeType kind).object module = h.object module :=
  if_neg hne

theorem object_allocate (h : Objects) (runtimeType : String) (kind : Kind) :
    (h.allocate runtimeType kind).object h.next = ⟨runtimeType, kind, none, false⟩ := if_pos rfl

theorem Grows.allocate (h : Objects) (runtimeType : String) (kind : Kind) :
    h.Grows (h.allocate runtimeType kind) where
  next := Nat.le_succ _
  kind := by
    intro module hlt
    rw [object_allocate_of_ne h runtimeType kind (Nat.ne_of_lt hlt)]
    exact .same _

theorem Owned.allocate (o : Owned h) (runtimeType : String) (kind : Kind)
    (hkind : ∀ child ∈ kind.children, child < h.next) : Owned (h.allocate runtimeType kind) := by
  have hold : ∀ module ≠ h.next, (h.allocate runtimeType kind).object module = h.object module :=
    fun module hne => object_allocate_of_ne h runtimeType kind hne
  have hnew := object_allocate h runtimeType kind
  have hchild : ∀ module child, child ∈ (h.allocate runtimeType kind).children module →
      child ∈ h.children module ∨ module = h.next := by
    intro module child hmem
    by_cases heq : module = h.next
    · exact .inr heq
    · unfold children at hmem
      rw [hold module heq] at hmem
      exact .inl hmem
  have hmade : ∀ module child, child ∈ (h.allocate runtimeType kind).children module →
      child < h.next := by
    intro module child hmem
    rcases hchild module child hmem with hmem | rfl
    · exact o.made module child hmem
    · unfold children at hmem
      rw [hnew] at hmem
      exact hkind child hmem
  constructor
  · intro module hle
    have hne : module ≠ h.next := Nat.ne_of_gt hle
    unfold Objects.owner
    rw [hold module hne]
    exact o.unmade module (Nat.le_of_succ_le hle)
  · exact fun module child hmem => Nat.lt_succ_of_lt (hmade module child hmem)
  · intro module owner howner
    have hne : module ≠ h.next := by
      rintro rfl
      unfold Objects.owner at howner
      rw [hnew] at howner
      exact nomatch howner
    unfold Objects.owner at howner
    rw [hold module hne] at howner
    have hmem := o.listed module owner howner
    have hother : owner ≠ h.next := by
      rintro rfl
      unfold children at hmem
      rw [(o.unmade h.next (Nat.le_refl _)).2] at hmem
      exact List.not_mem_nil hmem
    unfold children
    rw [hold owner hother]
    exact hmem
  · apply o.acyclic.add_source (a := h.next)
    · exact fun module hmem => Nat.lt_irrefl _ (hmade module _ hmem)
    · exact hchild
  · intro model hmem
    have hrooted := o.rooted model hmem
    rw [hold model (Nat.ne_of_lt hrooted.1)]
    exact ⟨Nat.lt_succ_of_lt hrooted.1, hrooted.2⟩
  · exact o.once

theorem kind_setBuilding (h : Objects) (model other : Nat) (building : Bool) :
    ((h.setBuilding model building).object other).kind =
      if other = model then (h.object other).kind.withBuilding building
      else (h.object other).kind := by
  unfold setBuilding
  by_cases heq : other = model
  · subst heq
    rw [object_update, if_pos rfl]
  · rw [object_update_of_ne heq, if_neg heq]

theorem Owned.setBuilding (o : Owned h) (model : Nat) (building : Bool) :
    Owned (h.setBuilding model building) := by
  constructor
  · intro module hle
    have hbefore := o.unmade module hle
    rw [owner_setBuilding, kind_setBuilding, hbefore.2]
    refine ⟨hbefore.1, ?_⟩
    split <;> rfl
  · intro module child hmem
    rw [children_setBuilding] at hmem
    exact o.made module child hmem
  · intro module owner howner
    rw [owner_setBuilding] at howner
    rw [children_setBuilding]
    exact o.listed module owner howner
  · apply o.acyclic.mono
    intro x y hxy
    rwa [children_setBuilding] at hxy
  · intro other hmem
    have hrooted := o.rooted other hmem
    refine ⟨hrooted.1, ?_⟩
    rw [kind_setBuilding]
    split
    · exact Kind.settled_withBuilding hrooted.2 building
    · exact hrooted.2
  · exact o.once

def takeRoot (h : Objects) (model root : Nat) : Objects :=
  (h.setOwner root (some model)).setRoot model root

theorem object_takeRoot (h : Objects) (model root : Nat) :
    (h.takeRoot model root).object = ((h.setOwner root (some model)).update model fun object =>
      { object with kind := object.kind.withRoot root }).object := rfl

theorem kind_takeRoot (h : Objects) (model root other : Nat) :
    ((h.takeRoot model root).object other).kind =
      if other = model then (h.object other).kind.withRoot root else (h.object other).kind := by
  rw [object_takeRoot]
  by_cases heq : other = model
  · subst heq
    rw [object_update, if_pos rfl, kind_setOwner]
  · rw [object_update_of_ne heq, if_neg heq, kind_setOwner]

theorem owner_takeRoot (h : Objects) (model root other : Nat) :
    (h.takeRoot model root).owner other = if other = root then some model else h.owner other := by
  rw [← owner_setOwner]
  unfold Objects.owner
  rw [object_takeRoot]
  by_cases heq : other = model
  · subst heq
    rw [object_update]
  · rw [object_update_of_ne heq]

theorem Owned.takeRoot (o : Owned h) {model root : Nat} {building : Bool}
    (hmodel : (h.object model).kind = .model none building) (hlt : model < h.next)
    (hroot : root < h.next)
    (hreach : ¬ReflTransGen (fun parent child => child ∈ h.children parent) root model) :
    Owned (h.takeRoot model root) := by
  have hnone : h.children model = [] := by
    unfold children
    rw [hmodel]
    rfl
  have hsome : (h.takeRoot model root).children model = [root] := by
    unfold children
    rw [kind_takeRoot, if_pos rfl, hmodel]
    rfl
  have hother : ∀ module ≠ model, (h.takeRoot model root).children module = h.children module := by
    intro module hne
    unfold children
    rw [kind_takeRoot, if_neg hne]
  have hchild : ∀ module child, child ∈ (h.takeRoot model root).children module →
      child ∈ h.children module ∨ module = model ∧ child = root := by
    intro module child hmem
    by_cases heq : module = model
    · subst heq
      rw [hsome] at hmem
      exact .inr ⟨rfl, List.mem_singleton.mp hmem⟩
    · rw [hother module heq] at hmem
      exact .inl hmem
  constructor
  · intro module hle
    have hle' : h.next ≤ module := hle
    rw [owner_takeRoot, kind_takeRoot, if_neg (by omega), if_neg (by omega)]
    exact o.unmade module hle'
  · intro module child hmem
    rcases hchild module child hmem with hmem | ⟨-, rfl⟩
    · exact o.made module child hmem
    · exact hroot
  · intro module owner howner
    rw [owner_takeRoot] at howner
    by_cases heq : module = root
    · rw [if_pos heq] at howner
      obtain rfl := Option.some.inj howner
      rw [hsome, heq]
      exact List.mem_singleton_self root
    · rw [if_neg heq] at howner
      have hmem := o.listed module owner howner
      have hne : owner ≠ model := by
        rintro rfl
        rw [hnone] at hmem
        exact List.not_mem_nil hmem
      rw [hother owner hne]
      exact hmem
  · exact o.acyclic.add_edge hreach hchild
  · intro other hmem
    rcases List.mem_cons.mp hmem with rfl | hmem
    · refine ⟨hlt, ?_⟩
      rw [kind_takeRoot, if_pos rfl, hmodel]
      exact fun _ heq => nomatch heq
    · have hrooted := o.rooted other hmem
      have hne : other ≠ model := by
        rintro rfl
        exact hrooted.2 building hmodel
      rw [kind_takeRoot, if_neg hne]
      exact hrooted
  · apply List.nodup_cons.mpr
    exact ⟨fun hmem => (o.rooted model hmem).2 building hmodel, o.once⟩

/-- How the objects grow while a model is built, seen from before. -/
theorem Grows.built {h₂ h₃ : Objects} {model : Nat}
    (hmodel : (h.object model).kind = .model none false)
    (g : (h.setBuilding model true).Grows h₂) (hnext : h₃.next = h₂.next)
    (hother : ∀ other ≠ model, (h₃.object other).kind = (h₂.object other).kind)
    (hgrows : Kind.Grows (.model none false) (h₃.object model).kind) : h.Grows h₃ where
  next := hnext ▸ g.next
  kind := by
    intro other hlt
    by_cases heq : other = model
    · subst heq
      rw [hmodel]
      exact hgrows
    · have hkind := g.kind other hlt
      rw [kind_setBuilding, if_neg heq] at hkind
      rw [hother other heq]
      exact hkind

end Objects

end Tensora.Nn
