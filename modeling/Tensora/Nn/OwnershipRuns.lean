import Mathlib.Data.List.Nodup
import Tensora.Nn.OwnershipInvariant

/-! Runs of user code over module objects: constructions, materializations and disposals, nested
in each other in any way. -/
namespace Tensora.Nn
open ProgramLogic Acyclicity Relation
open Objects (Owned Grows)

@[simp] theorem wp_modifyObjects (f : Objects → Objects) (Q : Unit → Session → Prop)
    (E : Thrown → Session → Prop) (s : Session) :
    wp (modifyObjects f) Q E s ↔ Q () (s.change f) := Iff.rfl

@[simp] theorem wp_getObjects (Q : Objects → Session → Prop) (E : Thrown → Session → Prop)
    (s : Session) : wp getObjects Q E s ↔ Q s.objects s := Iff.rfl

structure Event.Good (event : Event) : Prop where
  before : Owned event.before
  after : Owned event.after
  failed : event.thrown ≠ none → match event.operation with
    | .sequential _ => ∀ module, event.after.owner module = event.before.owner module
    | .materialize model => ∃ building, (event.after.object model).kind = .model none building
    | .dispose _ => True

structure Session.Good (s : Session) : Prop where
  objects : Owned s.objects
  events : ∀ event ∈ s.events, event.Good

structure Session.Step (s s' : Session) : Prop where
  grows : s.objects.Grows s'.objects
  good : s'.Good

theorem Session.Step.trans {s s' s'' : Session} (h : s.Step s') (h' : s'.Step s'') : s.Step s'' :=
  ⟨h.grows.trans h'.grows, h'.good⟩

theorem Session.Good.step {s : Session} (h : s.Good) : s.Step s := ⟨.refl _, h⟩

theorem wp_logged {α : Type} {operation : Operation} {body : OwnerM α} {Q : α → Session → Prop}
    {E : Thrown → Session → Prop} {s : Session} (hs : s.Good)
    (h : wp body
      (fun result s' => s.Step s' ∧ Q result s') (fun thrown s' => s.Step s' ∧
        Event.Good ⟨operation, some thrown, s.objects, s'.objects⟩ ∧ E thrown s') s)
    (hq : ∀ result s' events, Q result s' → Q result ⟨s'.objects, events⟩)
    (he : ∀ thrown s' events, E thrown s' → E thrown ⟨s'.objects, events⟩) :
    wp (logged operation body) (fun result s' => s.Step s' ∧ Q result s')
      (fun thrown s' => s.Step s' ∧ E thrown s') s := by
  unfold wp logged at *
  cases hbody : body s with
  | ok result s' =>
    rw [hbody] at h
    have hgood : Event.Good ⟨operation, none, s.objects, s'.objects⟩ :=
      ⟨hs.objects, h.1.good.objects, fun hne => absurd rfl hne⟩
    refine ⟨⟨h.1.grows, h.1.good.objects, ?_⟩, hq _ _ _ h.2⟩
    exact List.forall_mem_cons.mpr ⟨hgood, h.1.good.events⟩
  | error thrown s' =>
    rw [hbody] at h
    refine ⟨⟨h.1.grows, h.1.good.objects, ?_⟩, he _ _ _ h.2.2⟩
    exact List.forall_mem_cons.mpr ⟨h.2.1, h.1.good.events⟩

theorem wp_finally {body cleanup : OwnerM Unit} {Q : Unit → Session → Prop}
    {E P : Thrown → Session → Prop} {R : Unit → Session → Prop} {s : Session}
    (hbody : wp body R P s) (hq : ∀ s', R () s' → wp cleanup Q E s')
    (he : ∀ thrown s', P thrown s' → wp cleanup (fun _ s'' => E thrown s'') E s') :
    wp (finally_ body cleanup) Q E s := by
  unfold finally_
  rw [wp_bind]
  apply wp_tryCatch (P := P)
  · exact wp_mono hbody (fun _ s' h => hq s' h) fun _ _ h => h
  · intro thrown s' h
    rw [wp_bind]
    exact he thrown s' h

theorem wp_ensureMade {module : Nat} {Q : Unit → Session → Prop} {E : Thrown → Session → Prop}
    {s : Session} (hq : module < s.objects.next → Q () s) (he : ∀ thrown, E thrown s) :
    wp (ensureMade module) Q E s := by
  unfold ensureMade
  rw [wp_bind, wp_getObjects, wp_throwIf]
  exact ⟨fun _ => he _, fun hlt => hq (Nat.not_le.mp hlt)⟩

theorem wp_internalAttachOwner {module owner : Nat} {Q : Unit → Session → Prop}
    {E : Thrown → Session → Prop} {s : Session} (he : ∀ thrown, E thrown s)
    (hq : s.objects.owner module = none → owner ≠ module →
      Q () (s.change fun h => h.setOwner module (some owner))) :
    wp (internalAttachOwner module owner) Q E s := by
  unfold internalAttachOwner
  simp only [wp_bind, wp_getObjects, wp_throwIf, wp_modifyObjects]
  refine ⟨fun _ => he _, fun _ => ⟨fun _ => he _, fun hne => ⟨fun _ => he _, fun hnone => ?_⟩⟩⟩
  exact hq (not_not.mp hnone) hne

structure Attached (before : Objects) (sequential : Nat) (taken : Nat → Prop) (h : Objects) :
    Prop where
  next : h.next = before.next
  materialized : h.materialized = before.materialized
  same : ∀ module, h.object module = { before.object module with owner := h.owner module }
  owner : ∀ module, taken module → h.owner module = some sequential
  free : ∀ module, taken module → before.owner module = none
  other : ∀ module, ¬taken module → h.owner module = before.owner module
  fresh : ∀ module, before.owner module ≠ some sequential

namespace Attached
variable {before h : Objects} {sequential : Nat} {taken : Nat → Prop}

theorem setOwner (a : Attached before sequential taken h) {child : Nat} {owner : Option Nat}
    {taken' : Nat → Prop} (hsame : ∀ module ≠ child, (taken' module ↔ taken module))
    (howner : taken' child → owner = some sequential ∧ before.owner child = none)
    (hfree : ¬taken' child → owner = before.owner child) :
    Attached before sequential taken' (h.setOwner child owner) where
  next := a.next
  materialized := a.materialized
  same := by
    intro module
    rw [Objects.owner_setOwner]
    unfold Objects.setOwner
    by_cases heq : module = child
    · subst heq
      rw [Objects.object_update, a.same, if_pos rfl]
    · rw [Objects.object_update_of_ne heq, if_neg heq]
      exact a.same module
  owner := by
    intro module htaken
    rw [Objects.owner_setOwner]
    split
    · next heq => exact (howner (heq ▸ htaken)).1
    · next hne => exact a.owner module ((hsame module hne).mp htaken)
  free := by
    intro module htaken
    by_cases heq : module = child
    · subst heq
      exact (howner htaken).2
    · exact a.free module ((hsame module heq).mp htaken)
  other := by
    intro module htaken
    rw [Objects.owner_setOwner]
    split
    · next heq => exact heq ▸ hfree (heq ▸ htaken)
    · next hne => exact a.other module fun h => htaken ((hsame module hne).mpr h)
  fresh := a.fresh

theorem congr (a : Attached before sequential taken h) {taken' : Nat → Prop}
    (hsame : ∀ module, taken' module ↔ taken module) : Attached before sequential taken' h := by
  have heq : taken' = taken := funext fun module => propext (hsame module)
  exact heq ▸ a

end Attached

theorem wp_detachAll {before : Objects} {sequential : Nat} (children : List Nat)
    (taken : Nat → Prop) (s : Session) (a : Attached before sequential taken s.objects) :
    wp (detachAll sequential children)
      (fun _ s' => Attached before sequential (fun module => taken module ∧ module ∉ children)
        s'.objects ∧ s'.events = s.events)
      (fun _ _ => False) s := by
  induction children generalizing taken s with
  | nil => exact ⟨a.congr fun module => and_iff_left List.not_mem_nil, rfl⟩
  | cons child rest ih =>
      have hstep : Attached before sequential (fun module => taken module ∧ module ≠ child)
          (if s.objects.owner child = some sequential then s.objects.setOwner child none
            else s.objects) := by
        by_cases htaken : taken child
        · rw [if_pos (a.owner child htaken)]
          apply a.setOwner
          · exact fun module hne => and_iff_left hne
          · exact fun h => absurd rfl h.2
          · exact fun _ => (a.free child htaken).symm
        · rw [if_neg (a.other child htaken ▸ a.fresh child)]
          apply a.congr
          intro module
          refine and_iff_left_of_imp ?_
          rintro h rfl
          exact htaken h
      unfold detachAll internalDetachOwner
      rw [wp_bind, wp_modifyObjects]
      apply wp_mono (ih _ _ hstep) _ fun _ _ h => h
      rintro _ s' ⟨a', hevents⟩
      refine ⟨a'.congr fun module => ?_, hevents⟩
      rw [List.mem_cons, not_or, and_assoc]

theorem wp_attachAll {before : Objects} {sequential : Nat} (children attached : List Nat)
    (s : Session) (a : Attached before sequential (· ∈ attached) s.objects) :
    wp (attachAll sequential children attached)
      (fun _ s' => Attached before sequential (· ∈ attached ++ children) s'.objects ∧
        s'.events = s.events)
      (fun _ s' => Attached before sequential (fun _ => False) s'.objects ∧
        s'.events = s.events) s := by
  induction children generalizing attached s with
  | nil => exact ⟨(List.append_nil attached).symm ▸ a, rfl⟩
  | cons child rest ih =>
      unfold attachAll
      rw [wp_bind]
      apply wp_tryCatch (P := fun _ s' => s' = s)
      · simp only [wp_bind, wp_getObjects, wp_throwIf]
        refine ⟨fun _ => trivial, fun _ => ?_⟩
        refine wp_internalAttachOwner (fun _ => rfl) fun hnone _ => ?_
        have hout : child ∉ attached := by
          intro hmem
          rw [a.owner child hmem] at hnone
          exact Option.some_ne_none _ hnone
        have hnext : Attached before sequential (· ∈ attached ++ [child])
            (s.objects.setOwner child (some sequential)) := by
          apply a.setOwner
          · intro module hne
            rw [List.mem_append, List.mem_singleton]
            exact or_iff_left hne
          · exact fun _ => ⟨rfl, a.other child hout ▸ hnone⟩
          · exact fun h => absurd (List.mem_append_right _ (List.mem_singleton_self _)) h
        apply wp_mono (ih (attached ++ [child]) _ hnext)
        · intro _ s' h
          rw [List.append_assoc] at h
          exact h
        · exact fun _ _ h => h
      · rintro thrown _ rfl
        rw [wp_bind]
        apply wp_mono (wp_detachAll attached.reverse _ _ a) _ fun _ _ h => h.elim
        rintro _ s' ⟨a', hevents⟩
        refine ⟨a'.congr fun module => ?_, hevents⟩
        rw [List.mem_reverse]
        exact ⟨False.elim, fun h => h.2 h.1⟩

theorem Attached.kind {before h : Objects} {sequential : Nat} {taken : Nat → Prop}
    (a : Attached before sequential taken h) (module : Nat) :
    (h.object module).kind = (before.object module).kind := by
  rw [a.same]

theorem Attached.owned {before h : Objects} {sequential : Nat} {taken : Nat → Prop}
    (a : Attached before sequential taken h) (o : Owned before)
    (htaken : ∀ module, taken module → module ∈ before.children sequential) : Owned h := by
  apply o.of_kinds a.next a.materialized a.kind
  intro module owner howner
  by_cases hmodule : taken module
  · right
    rw [a.owner module hmodule] at howner
    obtain rfl := Option.some.inj howner
    exact ⟨o.made _ _ (htaken module hmodule), htaken module hmodule⟩
  · exact .inl (a.other module hmodule ▸ howner)

theorem wp_newSequential {children : List Nat} {s : Session} (hs : s.Good)
    (hchildren : ∀ child ∈ children, child < s.objects.next) :
    wp (newSequential children) (fun _ s' => s.Step s')
      (fun _ s' => s.Step s' ∧
        ∀ module, s'.objects.owner module = s.objects.owner module) s := by
  have hallocated := hs.objects.allocate "Sequential" (.sequential children) hchildren
  have hgrows := Grows.allocate s.objects "Sequential" (.sequential children)
  generalize hbefore : s.objects.allocate "Sequential" (.sequential children) = before
    at hallocated hgrows
  have hlisted : before.children s.objects.next = children := by
    unfold Objects.children
    rw [← hbefore, Objects.object_allocate]
    rfl
  have hfresh : ∀ module, before.owner module ≠ some s.objects.next := by
    intro module howner
    rw [← hbefore] at howner
    unfold Objects.owner at howner
    by_cases heq : module = s.objects.next
    · rw [heq, Objects.object_allocate] at howner
      exact nomatch howner
    · rw [Objects.object_allocate_of_ne _ _ _ heq] at howner
      have hmem := hs.objects.listed module _ howner
      unfold Objects.children at hmem
      rw [(hs.objects.unmade _ (Nat.le_refl _)).2] at hmem
      exact List.not_mem_nil hmem
  have hstart : Attached before s.objects.next (· ∈ []) before :=
    ⟨rfl, rfl, fun _ => rfl, fun _ hmem => (List.not_mem_nil hmem).elim,
      fun _ hmem => (List.not_mem_nil hmem).elim, fun _ _ => rfl, hfresh⟩
  unfold newSequential
  rw [wp_bind, wp_getObjects, wp_bind, wp_modifyObjects, wp_bind]
  change wp _ _ _ (Session.mk (s.objects.allocate "Sequential" (.sequential children)) s.events)
  rw [hbefore]
  apply wp_mono (wp_attachAll children [] ⟨before, s.events⟩ hstart)
  · rintro _ s' ⟨a, hevents⟩
    have howned := a.owned hallocated fun module hmem => hlisted.symm ▸ hmem
    refine ⟨hgrows.trans (.of_kinds a.next a.kind), howned, ?_⟩
    rw [hevents]
    exact hs.events
  · rintro _ s' ⟨a, hevents⟩
    have howned := a.owned hallocated fun _ h => h.elim
    refine ⟨⟨hgrows.trans (.of_kinds a.next a.kind), howned, ?_⟩, ?_⟩
    · rw [hevents]
      exact hs.events
    · intro module
      rw [a.other module id, ← hbefore]
      unfold Objects.owner
      by_cases heq : module = s.objects.next
      · rw [heq, Objects.object_allocate]
        exact (hs.objects.unmade _ (Nat.le_refl _)).1.symm
      · rw [Objects.object_allocate_of_ne _ _ _ heq]

structure Lost (h h' : Objects) : Prop where
  next : h'.next = h.next
  materialized : h'.materialized = h.materialized
  kind : ∀ module, (h'.object module).kind = (h.object module).kind
  owner : ∀ module owner, h'.owner module = some owner → h.owner module = some owner

theorem Lost.refl (h : Objects) : Lost h h := ⟨rfl, rfl, fun _ => rfl, fun _ _ howner => howner⟩

theorem Lost.trans {h h' h'' : Objects} (l : Lost h h') (l' : Lost h' h'') : Lost h h'' where
  next := l'.next.trans l.next
  materialized := l'.materialized.trans l.materialized
  kind := fun module => (l'.kind module).trans (l.kind module)
  owner := fun module owner howner => l.owner module owner (l'.owner module owner howner)

theorem Lost.setDisposed (h : Objects) (module : Nat) : Lost h (h.setDisposed module) where
  next := rfl
  materialized := rfl
  kind := fun other => Objects.kind_setDisposed h module other
  owner := fun other _ howner => (Objects.owner_setDisposed h module other) ▸ howner

theorem Lost.setOwner (h : Objects) (module : Nat) : Lost h (h.setOwner module none) where
  next := rfl
  materialized := rfl
  kind := fun other => Objects.kind_setOwner h module none other
  owner := by
    intro other owner howner
    rw [Objects.owner_setOwner] at howner
    split at howner
    · exact nomatch howner
    · exact howner

def Session.Loses (s s' : Session) : Prop := Lost s.objects s'.objects ∧ s'.events = s.events

theorem wp_disposeChildren {run : Nat → OwnerM Unit}
    (hrun : ∀ child s, wp (run child) (fun _ s' => s.Loses s') (fun _ s' => s.Loses s') s)
    (children seen : List Nat) (s : Session) :
    wp (disposeChildren run children seen) (fun _ s' => s.Loses s') (fun _ s' => s.Loses s') s := by
  induction children generalizing seen s with
  | nil => exact ⟨.refl _, rfl⟩
  | cons child rest ih =>
      unfold disposeChildren
      apply wp_ite
      · exact fun _ => ih seen s
      · intro _
        apply wp_seq (hrun child s) fun _ _ h => h
        intro _ s' h
        apply wp_mono (ih (child :: seen) s')
        · exact fun _ _ h' => ⟨h.1.trans h'.1, h'.2.trans h.2⟩
        · exact fun _ _ h' => ⟨h.1.trans h'.1, h'.2.trans h.2⟩

theorem wp_dispose (code : Code) (stack module : Nat) (s : Session) :
    wp (dispose code stack module) (fun _ s' => s.Loses s') (fun _ s' => s.Loses s') s := by
  induction stack generalizing module s with
  | zero => exact ⟨.refl _, rfl⟩
  | succ stack ih =>
      unfold dispose
      rw [wp_bind, wp_getObjects]
      apply wp_ite
      · exact fun _ => ⟨.refl _, rfl⟩
      · intro _
        rw [wp_bind, wp_modifyObjects]
        have hfirst : s.Loses (s.change fun h => h.setDisposed module) :=
          ⟨.setDisposed _ _, rfl⟩
        apply wp_seq (wp_disposeChildren ih _ [] _)
        · exact fun _ s' h => ⟨hfirst.1.trans h.1, h.2.trans hfirst.2⟩
        · rintro _ s' h
          have hsecond : s.Loses s' := ⟨hfirst.1.trans h.1, h.2.trans hfirst.2⟩
          rw [wp_bind, wp_getObjects]
          cases code.onDispose module s'.objects with
          | some thrown => exact hsecond
          | none => exact ⟨hsecond.1.trans (.setOwner _ _), hsecond.2⟩

theorem Session.Loses.step {s s' : Session} (h : s.Loses s') (hs : s.Good) : s.Step s' := by
  have howned := hs.objects.of_kinds h.1.next h.1.materialized h.1.kind
    fun module owner howner => .inl (h.1.owner module owner howner)
  refine ⟨.of_kinds h.1.next h.1.kind, howned, ?_⟩
  rw [h.2]
  exact hs.events

/-- Where a search for `target` has been. What is not pending is settled, with its children. -/
structure Explored (h : Objects) (target : Nat) (pending visited : List Nat) : Prop where
  target : target ∉ visited
  made : ∀ module ∈ visited, module < h.next
  closed : ∀ module ∈ visited, module ∈ pending ∨
    (h.object module).kind.Settled ∧ ∀ child ∈ h.children module, child ∈ visited

theorem Explored.grows {h h' : Objects} {target : Nat} {pending visited : List Nat}
    (e : Explored h target pending visited) (g : h.Grows h') :
    Explored h' target pending visited where
  target := e.target
  made := fun module hmem => Nat.lt_of_lt_of_le (e.made module hmem) g.next
  closed := by
    intro module hmem
    rcases e.closed module hmem with hpending | ⟨hsettled, hchildren⟩
    · exact .inl hpending
    · right
      have hsame := (g.kind module (e.made module hmem)).settled hsettled
      unfold Objects.children at hchildren ⊢
      rw [hsame]
      exact ⟨hsettled, hchildren⟩

/-- The search goes on below a module. -/
theorem Explored.enter {h : Objects} {target module : Nat} {pending visited : List Nat}
    (e : Explored h target pending visited) (hne : module ≠ target) (hmade : module < h.next) :
    Explored h target (module :: pending) (module :: visited) where
  target := by
    rw [List.mem_cons, not_or]
    exact ⟨hne.symm, e.target⟩
  made := by
    intro other hmem
    rcases List.mem_cons.mp hmem with rfl | hmem
    · exact hmade
    · exact e.made other hmem
  closed := by
    intro other hmem
    rcases List.mem_cons.mp hmem with rfl | hmem
    · exact .inl List.mem_cons_self
    · rcases e.closed other hmem with hpending | ⟨hsettled, hchildren⟩
      · exact .inl (List.mem_cons_of_mem _ hpending)
      · exact .inr ⟨hsettled, fun child hchild => List.mem_cons_of_mem _ (hchildren child hchild)⟩

theorem Explored.leave {h : Objects} {target module : Nat} {pending visited : List Nat}
    (e : Explored h target (module :: pending) visited) (hsettled : (h.object module).kind.Settled)
    (hchildren : ∀ child ∈ h.children module, child ∈ visited) :
    Explored h target pending visited where
  target := e.target
  made := e.made
  closed := by
    intro other hmem
    rcases e.closed other hmem with hpending | hclosed
    · rcases List.mem_cons.mp hpending with rfl | hpending
      · exact .inr ⟨hsettled, hchildren⟩
      · exact .inl hpending
    · exact .inr hclosed

theorem Explored.not_reaches {h : Objects} {target module : Nat} {visited : List Nat}
    (e : Explored h target [] visited) (hmem : module ∈ visited) :
    ¬ReflTransGen (fun parent child => child ∈ h.children parent) module target := by
  apply not_reaches_of_closed (P := (· ∈ visited)) _ hmem e.target
  intro parent child hchild hparent
  rcases e.closed parent hparent with hpending | ⟨-, hchildren⟩
  · exact (List.not_mem_nil hpending).elim
  · exact hchildren child hchild

def Searched (s' : Session) (target : Nat) (pending visited modules : List Nat)
    (result : Bool × List Nat) : Prop :=
  result.1 = false → visited ⊆ result.2 ∧ (∀ module ∈ modules, module ∈ result.2) ∧
    Explored s'.objects target pending result.2

/-- The specifications of the functions that call each other, at one depth. -/
structure Specs (code : Code) (stack : Nat) : Prop where
  materialize : ∀ module (s : Session), s.Good → module < s.objects.next →
    wp (internalEnsureMaterialized code stack module)
      (fun _ s' => s.Step s' ∧ (s'.objects.object module).kind.Settled)
      (fun _ s' => s.Step s') s
  contains : ∀ target module pending visited (s : Session), s.Good → module < s.objects.next →
    Explored s.objects target pending visited →
    wp (internalContainsModule code stack target module visited)
      (fun result s' => s.Step s' ∧ Searched s' target pending visited [module] result)
      (fun _ s' => s.Step s') s
  script : ∀ script (s : Session), s.Good →
    wp (runScript code stack script) (fun module s' => s.Step s' ∧ module < s'.objects.next)
      (fun _ s' => s.Step s') s
  command : ∀ command (s : Session), s.Good →
    wp (runCommand code stack command) (fun _ s' => s.Step s') (fun _ s' => s.Step s') s

variable {code : Code} {stack : Nat}

theorem wp_containsAny {target : Nat} {pending : List Nat}
    {contains : Nat → List Nat → OwnerM (Bool × List Nat)}
    (hcontains : ∀ module visited (s : Session), s.Good → module < s.objects.next →
      Explored s.objects target pending visited →
      wp (contains module visited)
        (fun result s' => s.Step s' ∧ Searched s' target pending visited [module] result)
        (fun _ s' => s.Step s') s)
    (modules visited : List Nat) (s : Session) (hs : s.Good)
    (hmade : ∀ module ∈ modules, module < s.objects.next)
    (e : Explored s.objects target pending visited) :
    wp (containsAny contains modules visited)
      (fun result s' => s.Step s' ∧ Searched s' target pending visited modules result)
      (fun _ s' => s.Step s') s := by
  induction modules generalizing visited s with
  | nil =>
      exact ⟨hs.step, fun _ => ⟨fun _ hmem => hmem, fun _ hmem => (List.not_mem_nil hmem).elim, e⟩⟩
  | cons module rest ih =>
      unfold containsAny
      apply wp_seq (hcontains module visited s hs (hmade module List.mem_cons_self) e)
        fun _ _ h => h
      rintro ⟨found, visited'⟩ s' ⟨hstep, hsearched⟩
      apply wp_ite
      · rintro rfl
        exact ⟨hstep, fun h => nomatch h⟩
      · intro hfound
        obtain ⟨hsub, hmodule, e'⟩ := hsearched (Bool.eq_false_iff.mpr hfound)
        apply wp_mono (ih visited' s' hstep.good
          (fun other hother => Nat.lt_of_lt_of_le (hmade other (List.mem_cons_of_mem _ hother))
            hstep.grows.next) e')
        · rintro result s'' ⟨hstep', hsearched'⟩
          refine ⟨hstep.trans hstep', fun hnone => ?_⟩
          obtain ⟨hsub', hrest, e''⟩ := hsearched' hnone
          refine ⟨fun _ hmem => hsub' (hsub hmem), fun other hother => ?_, e''⟩
          rcases List.mem_cons.mp hother with rfl | hother
          · exact hsub' (hmodule other (List.mem_singleton_self _))
          · exact hrest other hother
        · exact fun _ _ h => hstep.trans h

theorem Specs.contains_succ (ih : Specs code stack) (target module : Nat)
    (pending visited : List Nat) (s : Session) (hs : s.Good) (hmade : module < s.objects.next)
    (e : Explored s.objects target pending visited) :
    wp (internalContainsModule code (stack + 1) target module visited)
      (fun result s' => s.Step s' ∧ Searched s' target pending visited [module] result)
      (fun _ s' => s.Step s') s := by
  unfold internalContainsModule
  apply wp_ite
  · intro hvisited
    refine ⟨hs.step, fun _ => ⟨fun _ hmem => hmem, fun other hother => ?_, e⟩⟩
    exact List.mem_singleton.mp hother ▸ hvisited
  · intro _
    apply wp_ite
    · exact fun _ => ⟨hs.step, fun h => nomatch h⟩
    · intro hne
      apply wp_seq (ih.materialize module s hs hmade) fun _ _ h => h
      rintro _ s' ⟨hstep, hsettled⟩
      have hlt := Nat.lt_of_lt_of_le hmade hstep.grows.next
      rw [wp_bind, wp_getObjects]
      apply wp_mono (wp_containsAny
        (fun other visited' => ih.contains target other (module :: pending) visited')
        (s'.objects.children module) (module :: visited) s' hstep.good
        (hstep.good.objects.made module) ((e.grows hstep.grows).enter hne hlt))
      · rintro result s'' ⟨hstep', hsearched⟩
        refine ⟨hstep.trans hstep', fun hnone => ?_⟩
        obtain ⟨hsub, hchildren, e'⟩ := hsearched hnone
        have hsame := (hstep'.grows.kind module hlt).settled hsettled
        have hkept : s''.objects.children module = s'.objects.children module :=
          congrArg Kind.children hsame
        refine ⟨fun _ hmem => hsub (List.mem_cons_of_mem _ hmem), fun other hother => ?_, ?_⟩
        · exact List.mem_singleton.mp hother ▸ hsub List.mem_cons_self
        · apply e'.leave
          · rw [hsame]
            exact hsettled
          · rw [hkept]
            exact hchildren
      · exact fun _ _ h => hstep.trans h

theorem Specs.script_succ (ih : Specs code stack) (script : Script) (s : Session) (hs : s.Good) :
    wp (runScript code (stack + 1) script)
      (fun module s' => s.Step s' ∧ module < s'.objects.next) (fun _ s' => s.Step s') s := by
  cases script with
  | returns module =>
      unfold runScript
      rw [wp_bind]
      exact wp_ensureMade (fun hlt => ⟨hs.step, hlt⟩) fun _ => hs.step
  | throws thrown => exact hs.step
  | call command next =>
      unfold runScript
      rw [wp_bind]
      apply wp_tryCatch (P := fun _ s' => s.Step s')
      · rw [wp_map]
        apply wp_mono (ih.command command s hs)
        · intro module s' hstep
          rw [wp_bind, wp_getObjects]
          apply wp_mono (ih.script (next (.ok module) s'.objects) s' hstep.good)
          · exact fun _ _ h => ⟨hstep.trans h.1, h.2⟩
          · exact fun _ _ h => hstep.trans h
        · exact fun _ _ h => h
      · intro thrown s' hstep
        rw [wp_pure, wp_bind, wp_getObjects]
        apply wp_mono (ih.script (next (.error thrown) s'.objects) s' hstep.good)
        · exact fun _ _ h => ⟨hstep.trans h.1, h.2⟩
        · exact fun _ _ h => hstep.trans h

theorem Session.Good.setBuilding {s : Session} (hs : s.Good) (module : Nat) (building : Bool) :
    (s.change fun h => h.setBuilding module building).Good :=
  ⟨hs.objects.setBuilding module building, hs.events⟩

theorem kind_of_building {h h' : Objects} {module : Nat}
    (hkind : (h.object module).kind = .model none false) (hlt : module < h.next)
    (g : (h.setBuilding module true).Grows h') : (h'.object module).kind = .model none true := by
  have hgrows := g.kind module hlt
  rw [Objects.kind_setBuilding, if_pos rfl, hkind] at hgrows
  exact hgrows.of_building

theorem step_giveUp {s s' : Session} {module : Nat}
    (hkind : (s.objects.object module).kind = .model none false)
    (hlt : module < s.objects.next)
    (hstep : (s.change fun h => h.setBuilding module true).Step s') :
    s.Step (s'.change fun h => h.setBuilding module false) ∧
      ((s'.objects.setBuilding module false).object module).kind = .model none false := by
  have hbuilding := kind_of_building hkind hlt hstep.grows
  have hend : ((s'.objects.setBuilding module false).object module).kind = .model none false := by
    rw [Objects.kind_setBuilding, if_pos rfl, hbuilding]
    rfl
  refine ⟨⟨?_, hstep.good.setBuilding module false⟩, hend⟩
  refine Grows.built hkind hstep.grows rfl (fun other hne => ?_) (hend ▸ .same _)
  exact (Objects.kind_setBuilding _ _ _ _).trans (if_neg hne)

theorem step_takeRoot {s s' : Session} {module root : Nat}
    (hkind : (s.objects.object module).kind = .model none false)
    (hlt : module < s.objects.next) (hroot : root < s'.objects.next)
    (hstep : (s.change fun h => h.setBuilding module true).Step s')
    (hreach : ¬ReflTransGen (fun parent child => child ∈ s'.objects.children parent) root module) :
    s.Step (s'.change fun h => (h.takeRoot module root).setBuilding module false) ∧
      (((s'.objects.takeRoot module root).setBuilding module false).object module).kind =
        .model (some root) false := by
  have hbuilding := kind_of_building hkind hlt hstep.grows
  have hend : (((s'.objects.takeRoot module root).setBuilding module false).object module).kind =
      .model (some root) false := by
    rw [Objects.kind_setBuilding, if_pos rfl, Objects.kind_takeRoot, if_pos rfl, hbuilding]
    rfl
  have howned := hstep.good.objects.takeRoot hbuilding
    (Nat.lt_of_lt_of_le hlt hstep.grows.next) hroot hreach
  refine ⟨⟨?_, howned.setBuilding module false, hstep.good.events⟩, hend⟩
  refine Grows.built hkind hstep.grows rfl (fun other hne => ?_) (hend ▸ .built root)
  rw [← (Objects.kind_takeRoot s'.objects module root other).trans (if_neg hne)]
  exact (Objects.kind_setBuilding _ _ _ _).trans (if_neg hne)

theorem Specs.materialize_succ (ih : Specs code stack) (module : Nat) (s : Session) (hs : s.Good)
    (hlt : module < s.objects.next) :
    wp (internalEnsureMaterialized code (stack + 1) module)
      (fun _ s' => s.Step s' ∧ (s'.objects.object module).kind.Settled)
      (fun _ s' => s.Step s') s := by
  unfold internalEnsureMaterialized
  rw [wp_bind, wp_getObjects]
  cases hkind : (s.objects.object module).kind with
  | leaf => exact ⟨hs.step, by rw [hkind]; exact fun _ h => nomatch h⟩
  | sequential children => exact ⟨hs.step, by rw [hkind]; exact fun _ h => nomatch h⟩
  | model root building =>
  cases root with
  | some root => exact ⟨hs.step, by rw [hkind]; exact fun _ h => nomatch h⟩
  | none =>
  apply wp_mono (wp_logged (Q := fun _ s' => (s'.objects.object module).kind.Settled)
    (E := fun _ _ => True) hs _ (fun _ _ _ h => h) fun _ _ _ _ => trivial)
    (fun _ _ h => h) fun _ _ h => h.1
  have hfailed : ∀ thrown (s' : Session), s.Step s' →
      (∃ building, (s'.objects.object module).kind = .model none building) →
      s.Step s' ∧ Event.Good ⟨.materialize module, some thrown, s.objects, s'.objects⟩ ∧ True :=
    fun _ _ hstep hnone =>
      ⟨hstep, ⟨hs.objects, hstep.good.objects, fun _ => hnone⟩, trivial⟩
  rw [wp_bind, wp_throwIf]
  refine ⟨fun _ => hfailed _ _ hs.step ⟨building, hkind⟩, fun hfree => ?_⟩
  obtain rfl : building = false := Bool.eq_false_iff.mpr hfree
  rw [wp_bind, wp_modifyObjects]
  have hstart := (hs.setBuilding module true).step
  have hgiveUp : ∀ thrown (s' : Session),
      (s.change fun h => h.setBuilding module true).Step s' →
      s.Step (s'.change fun h => h.setBuilding module false) ∧ Event.Good
        ⟨.materialize module, some thrown, s.objects, s'.objects.setBuilding module false⟩ ∧
        True := by
    intro thrown s' hstep
    have hend := step_giveUp hkind hlt hstep
    exact hfailed thrown _ hend.1 ⟨false, hend.2⟩
  apply wp_finally (P := fun _ s' => (s.change fun h => h.setBuilding module true).Step s')
    (R := fun _ s' => s.Step (s'.change fun h => h.setBuilding module false) ∧
      ((s'.objects.setBuilding module false).object module).kind.Settled)
  · rw [wp_bind, wp_getObjects]
    apply wp_seq (ih.script _ _ hstart.good) fun _ _ h => h
    rintro candidate s₁ ⟨hstep₁, hcandidate⟩
    rw [wp_bind, wp_throwIf]
    refine ⟨fun _ => hstep₁, fun hne => ?_⟩
    rw [wp_bind, wp_getObjects, wp_bind, wp_throwIf]
    refine ⟨fun _ => hstep₁, fun _ => ?_⟩
    rw [wp_bind, wp_throwIf]
    refine ⟨fun _ => hstep₁, fun _ => ?_⟩
    have hexplored : Explored s₁.objects module [] [] :=
      ⟨List.not_mem_nil, fun _ h => (List.not_mem_nil h).elim,
        fun _ h => (List.not_mem_nil h).elim⟩
    apply wp_seq (ih.contains module candidate [] [] s₁ hstep₁.good hcandidate hexplored)
      fun _ _ h => hstep₁.trans h
    rintro ⟨found, visited⟩ s₂ ⟨hstep₂, hsearched⟩
    have hstep := hstep₁.trans hstep₂
    rw [wp_bind, wp_throwIf]
    refine ⟨fun _ => hstep, fun hfound => ?_⟩
    obtain ⟨-, hmem, hexplored₂⟩ := hsearched (Bool.eq_false_iff.mpr hfound)
    rw [wp_bind]
    refine wp_internalAttachOwner (fun _ => hstep) fun _ _ => ?_
    rw [wp_modifyObjects]
    have hend := step_takeRoot hkind hlt (hexplored₂.made candidate
      (hmem candidate (List.mem_singleton_self _))) hstep
      (hexplored₂.not_reaches (hmem candidate (List.mem_singleton_self _)))
    refine ⟨hend.1, ?_⟩
    intro building heq
    exact nomatch hend.2.symm.trans heq
  · exact fun s' h => h
  · exact hgiveUp

theorem Specs.command_succ (ih : Specs code stack) (command : Command) (s : Session)
    (hs : s.Good) :
    wp (runCommand code (stack + 1) command) (fun _ s' => s.Step s') (fun _ s' => s.Step s') s := by
  cases command with
  | newLeaf runtimeType =>
      exact ⟨.allocate _ _ _, hs.objects.allocate _ _ fun _ h => (List.not_mem_nil h).elim,
        hs.events⟩
  | newModel runtimeType =>
      exact ⟨.allocate _ _ _, hs.objects.allocate _ _ fun _ h => (List.not_mem_nil h).elim,
        hs.events⟩
  | newSequential children =>
      unfold runCommand
      apply wp_seq (P := fun _ s' => s' = s ∧ ∀ child ∈ children, child < s.objects.next)
        (R := fun _ s' => s.Step s')
      · apply wp_forM fun done _ s' => s' = s ∧ ∀ child ∈ done, child < s.objects.next
        · exact ⟨rfl, fun _ h => (List.not_mem_nil h).elim⟩
        · rintro done child rest _ _ ⟨rfl, hdone⟩
          refine wp_ensureMade (fun hlt => ⟨rfl, fun other hother => ?_⟩) fun _ => hs.step
          rcases List.mem_append.mp hother with hother | hother
          · exact hdone other hother
          · exact List.mem_singleton.mp hother ▸ hlt
        · exact fun _ h => h
      · exact fun _ _ h => h
      · rintro _ _ ⟨rfl, hchildren⟩
        apply wp_mono (wp_logged (Q := fun _ _ => True) (E := fun _ _ => True) hs _
          (fun _ _ _ _ => trivial) fun _ _ _ _ => trivial) (fun _ _ h => h.1) fun _ _ h => h.1
        apply wp_mono (wp_newSequential hs hchildren)
        · exact fun _ _ h => ⟨h, trivial⟩
        · exact fun thrown s' h =>
            ⟨h.1, ⟨hs.objects, h.1.good.objects, fun _ => h.2⟩, trivial⟩
  | materialize module =>
      unfold runCommand
      rw [wp_bind]
      refine wp_ensureMade (fun hlt => ?_) fun _ => hs.step
      rw [wp_bind]
      exact wp_mono (ih.materialize module s hs hlt) (fun _ _ h => h.1) fun _ _ h => h
  | dispose module =>
      unfold runCommand
      rw [wp_bind]
      refine wp_ensureMade (fun _ => ?_) fun _ => hs.step
      rw [wp_bind]
      apply wp_mono (wp_logged (Q := fun _ _ => True) (E := fun _ _ => True) hs _
        (fun _ _ _ _ => trivial) fun _ _ _ _ => trivial) (fun _ _ h => h.1) fun _ _ h => h.1
      apply wp_mono (wp_dispose code stack module s)
      · exact fun _ _ h => ⟨h.step hs, trivial⟩
      · exact fun thrown s' h =>
          ⟨h.step hs, ⟨hs.objects, (h.step hs).good.objects, fun _ => trivial⟩, trivial⟩

/-- At every depth, by induction on it. -/
theorem specs (code : Code) (stack : Nat) : Specs code stack := by
  induction stack with
  | zero =>
    constructor
    · exact fun _ _ hs _ => hs.step
    · exact fun _ _ _ _ _ hs _ _ => hs.step
    · exact fun _ _ hs => hs.step
    · exact fun _ _ hs => hs.step
  | succ stack ih =>
    exact ⟨ih.materialize_succ, ih.contains_succ, ih.script_succ, ih.command_succ⟩

/-- A module with an owner is one of its children, and owners never lead back. -/
structure Objects.Forest (h : Objects) : Prop where
  listed : ∀ module owner, h.owner module = some owner → module ∈ h.children owner
  acyclic : Acyclic fun module owner => h.owner module = some owner

theorem Objects.Owned.forest {h : Objects} (o : Owned h) : h.Forest where
  listed := o.listed
  acyclic := o.acyclic.of_swap o.listed

/-- What a run guarantees when it ends, and at the end of every operation in it, inside a `build`
or not. -/
structure Session.Sound (s : Session) : Prop where
  forest : s.objects.Forest
  once : ∀ model, s.objects.materialized.count model ≤ 1
  before : ∀ event ∈ s.events, event.before.Forest
  after : ∀ event ∈ s.events, event.after.Forest
  construction : ∀ event ∈ s.events, ∀ children, event.operation = .sequential children →
    event.thrown ≠ none →
      ∀ child ∈ children, event.after.owner child = event.before.owner child
  materialization : ∀ event ∈ s.events, ∀ model, event.operation = .materialize model →
    event.thrown ≠ none → (∃ building, (event.after.object model).kind = .model none building) ∧
      ∀ module, event.after.owner module ≠ some model

theorem Session.Good.sound {s : Session} (hs : s.Good) : s.Sound where
  forest := hs.objects.forest
  once := List.nodup_iff_count_le_one.mp hs.objects.once
  before := fun event hevent => (hs.events event hevent).before.forest
  after := fun event hevent => (hs.events event hevent).after.forest
  construction := by
    intro event hevent children hoperation hthrown child _
    have hfailed := (hs.events event hevent).failed hthrown
    rw [hoperation] at hfailed
    exact hfailed child
  materialization := by
    intro event hevent model hoperation hthrown
    have hfailed := (hs.events event hevent).failed hthrown
    rw [hoperation] at hfailed
    refine ⟨hfailed, fun module howner => ?_⟩
    obtain ⟨building, hkind⟩ := hfailed
    have hlisted := (hs.events event hevent).after.listed module model howner
    unfold Objects.children at hlisted
    rw [hkind] at hlisted
    exact List.not_mem_nil hlisted

/-- Module ownership is a forest and materialization is atomic, in every run of user code. -/
theorem runScript_sound (code : Code) (stack : Nat) (script : Script) :
    match runScript code stack script ⟨.empty, []⟩ with
    | .ok _ s => s.Sound
    | .error _ s => s.Sound := by
  have hstart : Session.Good ⟨.empty, []⟩ :=
    ⟨Objects.owned_empty, fun _ h => (List.not_mem_nil h).elim⟩
  have hrun := (specs code stack).script script ⟨.empty, []⟩ hstart
  unfold wp at hrun
  cases hresult : runScript code stack script ⟨.empty, []⟩ with
  | ok module s =>
    rw [hresult] at hrun
    exact hrun.1.good.sound
  | error thrown s =>
    rw [hresult] at hrun
    exact hrun.good.sound

end Tensora.Nn
