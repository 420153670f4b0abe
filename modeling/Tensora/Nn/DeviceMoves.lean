import Mathlib.Data.List.Nodup
import Tensora.Nn.ModuleTree
import Tensora.Tensor.Memory

/-! Moving a tree of modules to a device, leaf by leaf, and moving it back when a leaf throws. -/
namespace Tensora.Nn
open ProgramLogic

variable {L : Type}

structure Device where
  kind : Tensora.Device
  index : Nat
  deriving DecidableEq, Repr

abbrev Placement := List Device

/-- A call of `internalOnMove`, and what it threw. -/
structure Move where
  leaf : Nat
  device : Device
  thrown : Option Thrown
  deriving DecidableEq, Repr

/-- Where each leaf is, and the calls of `internalOnMove` so far, newest first. -/
structure Devices where
  placement : Nat → Placement
  moves : List Move

abbrev MoveM := EStateM Thrown Devices

/-- What the leaves override. What a move does may depend on all the moves before it. -/
structure LeafMoves (L : Type) where
  preflight : L → Device → Option Thrown
  unreadable : L → Option Thrown
  onMove : Node → L → Device → List Move → Placement → Placement × Option Thrown

structure MoveRecord (L : Type) where
  node : Node
  layer : L
  originalDevice : Device

namespace Thrown

/-- `toString`. -/
def text : Thrown → String
  | disposedTensor message operation => "DisposedTensorException(" ++ operation ++ "): " ++ message
  | invalidArgument message operation =>
      "InvalidArgumentException(" ++ operation ++ "): " ++ message
  | unsupportedOperation message operation =>
      "UnsupportedOperationException(" ++ operation ++ "): " ++ message
  | nativeRuntime message operation => "NativeRuntimeException(" ++ operation ++ "): " ++ message
  | other what => what

end Thrown

def rollbackFailed (error rollbackError : Thrown) : Thrown :=
  .nativeRuntime ("Module move failed (" ++ error.text ++ ") and rollback also failed (" ++
    rollbackError.text ++ "). The model device state is indeterminate.") "module.to"

def raise : Option Thrown → MoveM Unit
  | none => pure ()
  | some thrown => throw thrown

/-- `try` around a statement, with what it threw as the result. -/
def attempt (body : MoveM Unit) : MoveM (Option Thrown) :=
  tryCatch (body >>= fun _ => pure none) fun thrown => pure (some thrown)

namespace LeafMoves

def internalMoveDevice (behaviour : LeafMoves L) (node : Node) (layer : L) :
    MoveM (Option Device) := do
  raise (behaviour.unreadable layer)
  let s ← get
  return (s.placement node.id).head?

def internalOnMove (behaviour : LeafMoves L) (node : Node) (layer : L) (device : Device) :
    MoveM Unit := do
  let s ← get
  let result := behaviour.onMove node layer device s.moves (s.placement node.id)
  modify fun s =>
    { placement := fun other => if other = node.id then result.1 else s.placement other
      moves := ⟨node.id, device, result.2⟩ :: s.moves }
  raise result.2

end LeafMoves

mutual

def Module.buildMovePlan (behaviour : LeafMoves L) (target : Device) :
    Module L → List Nat → List (MoveRecord L) → MoveM (List Nat × List (MoveRecord L))
  | .leaf node layer, visited, plan =>
      if node.id ∈ visited then return (visited, plan) else do
      raise (behaviour.preflight layer target)
      match ← behaviour.internalMoveDevice node layer with
      | none => return (node.id :: visited, plan)
      | some originalDevice =>
          return (node.id :: visited, plan ++ [⟨node, layer, originalDevice⟩])
  | .sequential node children, visited, plan =>
      if node.id ∈ visited then return (visited, plan) else
      buildMovePlans behaviour target children (node.id :: visited) plan
  | .model node failure root, visited, plan =>
      if node.id ∈ visited then return (visited, plan) else do
      ensureMaterialized failure
      root.buildMovePlan behaviour target (node.id :: visited) plan

def buildMovePlans (behaviour : LeafMoves L) (target : Device) :
    List (Module L) → List Nat → List (MoveRecord L) → MoveM (List Nat × List (MoveRecord L))
  | [], visited, plan => return (visited, plan)
  | child :: rest, visited, plan => do
      let (visited, plan) ← child.buildMovePlan behaviour target visited plan
      buildMovePlans behaviour target rest visited plan

end

/-- The moves of `to`, with the number attempted and what stopped them. -/
def moveForward (behaviour : LeafMoves L) (device : Device) :
    List (MoveRecord L) → Nat → MoveM (Nat × Option Thrown)
  | [], attempted => return (attempted, none)
  | record :: rest, attempted => do
      match ← attempt (behaviour.internalOnMove record.node record.layer device) with
      | some error => return (attempted + 1, some error)
      | none => moveForward behaviour device rest (attempted + 1)

def moveBack (behaviour : LeafMoves L) :
    List (MoveRecord L) → Option Thrown → MoveM (Option Thrown)
  | [], rollbackError => return rollbackError
  | record :: rest, rollbackError => do
      let error ←
        attempt (behaviour.internalOnMove record.node record.layer record.originalDevice)
      moveBack behaviour rest (rollbackError.or error)

/-- The check of `to` before anything moves. -/
def ensureAvailable (deviceCount : Device → Except Thrown Int) (device : Device) : MoveM Unit :=
  match deviceCount device with
  | .error thrown => throw thrown
  | .ok count => throwIf (count ≤ 0) (.unsupportedOperation
      "Requested device is not available in the loaded training runtime." "module.to")

def Module.to (behaviour : LeafMoves L) (deviceCount : Device → Except Thrown Int)
    (module : Module L) (device : Device) : MoveM Unit := do
  ensureLive module.node "to"
  ensureMaterialized module.failure
  ensureAvailable deviceCount device
  let (_, plan) ← module.buildMovePlan behaviour device [] []
  let (attempted, error) ← moveForward behaviour device plan 0
  match error with
  | none => pure ()
  | some error => do
      match ← moveBack behaviour (plan.take attempted).reverse none with
      | some rollbackError => throw (rollbackFailed error rollbackError)
      | none => throw error

def Placement.On (placement : Placement) (device : Device) : Prop :=
  placement.head? = some device ∧ ∀ other ∈ placement, other = device

instance (placement : Placement) (device : Device) : Decidable (placement.On device) :=
  inferInstanceAs (Decidable (_ ∧ _))

def LeafMoves.Arrives (behaviour : LeafMoves L) : Prop :=
  ∀ node layer device moves placement,
    (behaviour.onMove node layer device moves placement).2 = none →
      (behaviour.onMove node layer device moves placement).1.On device

namespace Devices

def failures (s : Devices) : Nat := s.moves.countP fun move => move.thrown.isSome

def Keeps (s s' : Devices) (ids : List Nat) : Prop :=
  ∀ id, id ∉ ids → s'.placement id = s.placement id

def record (s : Devices) (leaf : Node × L) : Option (MoveRecord L) :=
  (s.placement leaf.1.id).head?.map fun device => ⟨leaf.1, leaf.2, device⟩

/-- The leaf's device is what it was, and the whole leaf is on it if it was. -/
def Restored (s s' : Devices) (id : Nat) : Prop :=
  (s'.placement id).head? = (s.placement id).head? ∧
    ∀ device, (s.placement id).On device → (s'.placement id).On device

theorem Keeps.refl (s : Devices) (ids : List Nat) : s.Keeps s ids := fun _ _ => rfl

theorem Keeps.trans {s s' s'' : Devices} {ids : List Nat} (h : s.Keeps s' ids)
    (h' : s'.Keeps s'' ids) : s.Keeps s'' ids :=
  fun id hid => (h' id hid).trans (h id hid)

theorem Keeps.mono {s s' : Devices} {ids more : List Nat} (h : s.Keeps s' ids)
    (hsub : ids ⊆ more) : s.Keeps s' more :=
  fun id hid => h id fun hmem => hid (hsub hmem)

end Devices

def MoveRecord.id (record : MoveRecord L) : Nat := record.node.id

section Specs
variable {behaviour : LeafMoves L}

theorem wp_raise {thrown : Option Thrown} {Q : Unit → Devices → Prop}
    {E : Thrown → Devices → Prop} {s : Devices} (hq : thrown = none → Q () s)
    (he : ∀ error, thrown = some error → E error s) : wp (raise thrown) Q E s := by
  cases thrown with
  | none => exact hq rfl
  | some error => exact he error rfl

theorem wp_ensureAvailable {deviceCount : Device → Except Thrown Int} {device : Device}
    {Q : Unit → Devices → Prop} {E : Thrown → Devices → Prop} {s : Devices} (hq : Q () s)
    (he : ∀ thrown, E thrown s) : wp (ensureAvailable deviceCount device) Q E s := by
  unfold ensureAvailable
  cases deviceCount device with
  | error thrown => exact he thrown
  | ok count =>
      rw [wp_throwIf]
      exact ⟨fun _ => he _, fun _ => hq⟩

theorem wp_attempt (hbehaviour : behaviour.Arrives) (node : Node) (layer : L) (device : Device)
    (s : Devices) :
    wp (attempt (behaviour.internalOnMove node layer device))
      (fun thrown s' => s.Keeps s' [node.id] ∧
        (thrown = none → (s'.placement node.id).On device) ∧
        s'.failures = s.failures + if thrown.isSome then 1 else 0)
      (fun _ _ => False) s := by
  unfold attempt
  apply wp_tryCatch (P := fun error s' => s.Keeps s' [node.id] ∧ s'.failures = s.failures + 1)
  · rw [wp_bind]
    unfold LeafMoves.internalOnMove
    simp only [wp_bind, wp_get, wp_modify]
    have harrives := hbehaviour node layer device s.moves (s.placement node.id)
    have hkeeps (placement : Placement) (move : Move) :
        s.Keeps ⟨fun other => if other = node.id then placement else s.placement other,
          move :: s.moves⟩ [node.id] :=
      fun id hid => if_neg (by simpa using hid)
    apply wp_raise
    · intro hnone
      refine ⟨hkeeps _ _, fun _ => ?_, ?_⟩
      · simpa using harrives hnone
      · simp [Devices.failures, hnone]
    · intro error herror
      exact ⟨hkeeps _ _, by simp [Devices.failures, herror]⟩
  · intro error s' h
    exact ⟨h.1, fun hnone => absurd hnone (Option.some_ne_none error), h.2⟩

theorem wp_moveForward (hbehaviour : behaviour.Arrives) (device : Device)
    (plan : List (MoveRecord L)) (hplan : (plan.map MoveRecord.id).Nodup) (attempted : Nat)
    (s : Devices) :
    wp (moveForward behaviour device plan attempted)
      (fun result s' => ∃ count, result.1 = attempted + count ∧
        s.Keeps s' ((plan.take count).map MoveRecord.id) ∧
        (result.2 = none → ∀ record ∈ plan, (s'.placement record.id).On device) ∧
        s'.failures = s.failures + if result.2.isSome then 1 else 0)
      (fun _ _ => False) s := by
  induction plan generalizing attempted s with
  | nil => exact ⟨0, rfl, .refl s _, fun _ _ hmem => (List.not_mem_nil hmem).elim, rfl⟩
  | cons record rest ih =>
      rw [List.map_cons, List.nodup_cons] at hplan
      unfold moveForward
      refine wp_seq (wp_attempt hbehaviour record.node record.layer device s)
        (fun _ _ h => h) ?_
      rintro thrown s' ⟨hkeeps, harrived, hfailures⟩
      cases thrown with
      | some error =>
        exact ⟨1, rfl, hkeeps, nofun, hfailures⟩
      | none =>
        refine wp_mono (ih hplan.2 (attempted + 1) s') ?_ fun _ _ h => h
        rintro result s'' ⟨count, hcount, hkeeps', hplaced, hfailures'⟩
        refine ⟨count + 1, by omega, ?_, ?_, by simpa [hfailures] using hfailures'⟩
        · rw [List.take_succ_cons, List.map_cons]
          have hfirst := hkeeps.mono (List.cons_subset_cons record.id
            (List.nil_subset ((rest.take count).map MoveRecord.id)))
          exact hfirst.trans (hkeeps'.mono (List.subset_cons_self _ _))
        · intro hnone other hother
          rcases List.mem_cons.mp hother with rfl | hother
          · have hout : other.id ∉ (rest.take count).map MoveRecord.id := fun hmem =>
              hplan.1 (((List.take_sublist count rest).map _).subset hmem)
            rw [hkeeps' _ hout]
            exact harrived rfl
          · exact hplaced hnone other hother

theorem wp_moveBack (hbehaviour : behaviour.Arrives) (records : List (MoveRecord L))
    (hrecords : (records.map MoveRecord.id).Nodup) (rollbackError : Option Thrown)
    (s : Devices) :
    wp (moveBack behaviour records rollbackError)
      (fun result s' => s.Keeps s' (records.map MoveRecord.id) ∧
        (result = none → ∀ record ∈ records,
          (s'.placement record.id).On record.originalDevice) ∧
        s.failures ≤ s'.failures ∧
        (result = none ↔ rollbackError = none ∧ s'.failures = s.failures))
      (fun _ _ => False) s := by
  induction records generalizing rollbackError s with
  | nil =>
      exact ⟨.refl s _, fun _ _ hmem => (List.not_mem_nil hmem).elim, Nat.le_refl _,
        (and_iff_left rfl).symm⟩
  | cons record rest ih =>
      rw [List.map_cons, List.nodup_cons] at hrecords
      unfold moveBack
      refine wp_seq (wp_attempt hbehaviour record.node record.layer record.originalDevice s)
        (fun _ _ h => h) ?_
      rintro thrown s' ⟨hkeeps, harrived, hfailures⟩
      refine wp_mono (ih hrecords.2 (rollbackError.or thrown) s') ?_ fun _ _ h => h
      rintro result s'' ⟨hkeeps', hplaced, hle, hresult⟩
      have hnone : result = none ↔ rollbackError = none ∧ s''.failures = s.failures := by
        rw [hresult, Option.or_eq_none_iff, and_assoc]
        apply and_congr_right
        intro _
        cases thrown with
        | none =>
          rw [hfailures]
          exact and_iff_right rfl
        | some error =>
          have hlater : s'.failures = s.failures + 1 := hfailures
          exact ⟨fun h => by simp at h, fun h => by omega⟩
      have hfirst := hkeeps.mono (List.cons_subset_cons record.id
        (List.nil_subset (rest.map MoveRecord.id)))
      refine ⟨hfirst.trans (hkeeps'.mono (List.subset_cons_self _ _)), ?_, by omega, hnone⟩
      intro hend other hother
      rcases List.mem_cons.mp hother with rfl | hother
      · have hthrown : thrown = none := by
          have h := (hresult.mp hend).1
          exact (Option.or_eq_none_iff.mp h).2
        rw [hkeeps' _ hrecords.1]
        exact harrived hthrown
      · exact hplaced hend other hother

/-- What `_buildMovePlan` adds: an entry for each leaf that has state. -/
structure Planned (s : Devices) (ids : List Nat) (leaves : List (Node × L)) (visited : List Nat)
    (plan : List (MoveRecord L)) (result : List Nat × List (MoveRecord L)) : Prop where
  visited : ∀ id, id ∈ result.1 ↔ id ∈ visited ∨ id ∈ ids
  plan : result.2 = plan ++ leaves.filterMap s.record

theorem Planned.below {s : Devices} {ids visited : List Nat} {leaves : List (Node × L)}
    {plan : List (MoveRecord L)} {result : List Nat × List (MoveRecord L)} {id : Nat}
    (h : Planned s ids leaves (id :: visited) plan result) :
    Planned s (id :: ids) leaves visited plan result where
  visited := by
    intro other
    rw [h.visited, List.mem_cons, List.mem_cons]
    tauto
  plan := h.plan

theorem fresh_below {id : Nat} {ids visited : List Nat} (hids : (id :: ids).Nodup)
    (hfresh : ∀ other ∈ id :: ids, other ∉ visited) : ∀ other ∈ ids, other ∉ id :: visited := by
  intro other hother hmem
  rcases List.mem_cons.mp hmem with rfl | hmem
  · exact (List.nodup_cons.mp hids).1 hother
  · exact hfresh other (List.mem_cons_of_mem _ hother) hmem

mutual

theorem wp_buildMovePlan (target : Device) : (module : Module L) → (visited : List Nat) →
    (plan : List (MoveRecord L)) → (s : Devices) → module.ids.Nodup →
    (∀ id ∈ module.ids, id ∉ visited) →
    wp (module.buildMovePlan behaviour target visited plan)
      (fun result s' => s' = s ∧ Planned s module.ids module.leaves visited plan result)
      (fun _ s' => s' = s) s
  | .leaf node layer, visited, plan, s, _, hfresh => by
      unfold Module.buildMovePlan
      rw [if_neg (hfresh node.id (List.mem_singleton_self _)), wp_bind]
      refine wp_raise (fun _ => ?_) fun _ _ => rfl
      unfold LeafMoves.internalMoveDevice
      simp only [wp_bind]
      refine wp_raise (fun _ => ?_) fun _ _ => rfl
      simp only [wp_get, wp_pure]
      have hids : ∀ id, id ∈ node.id :: visited ↔ id ∈ visited ∨ id ∈ [node.id] := by
        intro id
        rw [List.mem_cons, List.mem_singleton, or_comm]
      cases hdevice : (s.placement node.id).head? with
      | none => exact ⟨rfl, hids, by simp [Module.leaves, Devices.record, hdevice]⟩
      | some device => exact ⟨rfl, hids, by simp [Module.leaves, Devices.record, hdevice]⟩
  | .sequential node children, visited, plan, s, hids, hfresh => by
      unfold Module.buildMovePlan
      rw [if_neg (hfresh node.id List.mem_cons_self)]
      apply wp_mono (wp_buildMovePlans target children (node.id :: visited) plan s
        (List.nodup_cons.mp hids).2 (fresh_below hids hfresh))
      · exact fun _ _ h => ⟨h.1, h.2.below⟩
      · exact fun _ _ h => h
  | .model node failure root, visited, plan, s, hids, hfresh => by
      unfold Module.buildMovePlan
      rw [if_neg (hfresh node.id List.mem_cons_self), wp_bind]
      refine wp_ensureMaterialized ?_ fun _ => rfl
      apply wp_mono (wp_buildMovePlan target root (node.id :: visited) plan s
        (List.nodup_cons.mp hids).2 (fresh_below hids hfresh))
      · exact fun _ _ h => ⟨h.1, h.2.below⟩
      · exact fun _ _ h => h

theorem wp_buildMovePlans (target : Device) : (children : List (Module L)) →
    (visited : List Nat) → (plan : List (MoveRecord L)) → (s : Devices) →
    (Module.idsOf children).Nodup → (∀ id ∈ Module.idsOf children, id ∉ visited) →
    wp (buildMovePlans behaviour target children visited plan)
      (fun result s' => s' = s ∧
        Planned s (Module.idsOf children) (Module.leavesOf children) visited plan result)
      (fun _ s' => s' = s) s
  | [], visited, plan, s, _, _ =>
      ⟨rfl, fun _ => (or_iff_left List.not_mem_nil).symm, (List.append_nil plan).symm⟩
  | child :: rest, visited, plan, s, hids, hfresh => by
      obtain ⟨hchild, hrest, hdisjoint⟩ := List.nodup_append.mp hids
      unfold buildMovePlans
      refine wp_seq (wp_buildMovePlan target child visited plan s hchild
        fun id hid => hfresh id (List.mem_append_left _ hid)) (fun _ _ h => h) ?_
      rintro first _ ⟨rfl, hfirst⟩
      have hrestFresh : ∀ id ∈ Module.idsOf rest, id ∉ first.1 := by
        intro id hid hmem
        rcases (hfirst.visited id).mp hmem with hmem | hmem
        · exact hfresh id (List.mem_append_right _ hid) hmem
        · exact hdisjoint id hmem id hid rfl
      refine wp_mono (wp_buildMovePlans target rest first.1 first.2 _ hrest hrestFresh) ?_
        fun _ _ h => h
      rintro result _ ⟨rfl, h⟩
      refine ⟨rfl, fun id => ?_, ?_⟩
      · rw [h.visited, hfirst.visited, Module.idsOf, List.mem_append, or_assoc]
      · rw [h.plan, hfirst.plan, Module.leavesOf, List.filterMap_append, List.append_assoc]

end

theorem mem_plan {s : Devices} {leaves : List (Node × L)} {entry : MoveRecord L} :
    entry ∈ leaves.filterMap s.record ↔
      (entry.node, entry.layer) ∈ leaves ∧
        (s.placement entry.id).head? = some entry.originalDevice := by
  rw [List.mem_filterMap]
  constructor
  · rintro ⟨leaf, hleaf, hentry⟩
    obtain ⟨device, hdevice, rfl⟩ := Option.map_eq_some_iff.mp hentry
    exact ⟨hleaf, hdevice⟩
  · intro h
    exact ⟨_, h.1, Option.map_eq_some_iff.mpr ⟨_, h.2, rfl⟩⟩

theorem plan_nodup {module : Module L} (hids : module.ids.Nodup) (s : Devices) :
    ((module.leaves.filterMap s.record).map MoveRecord.id).Nodup := by
  have hmap : ∀ leaves : List (Node × L), ((leaves.filterMap s.record).map MoveRecord.id).Sublist
      (leaves.map fun leaf => leaf.1.id) := by
    intro leaves
    induction leaves with
    | nil => exact List.Sublist.refl []
    | cons leaf rest ih =>
      cases hdevice : (s.placement leaf.1.id).head? with
      | none =>
        rw [List.filterMap_cons_none (by simp [Devices.record, hdevice])]
        exact ih.cons _
      | some device =>
        rw [List.filterMap_cons_some (b := ⟨leaf.1, leaf.2, device⟩)
          (by simp [Devices.record, hdevice])]
        exact ih.cons_cons _
  exact ((hmap module.leaves).trans module.leaves_sublist).nodup hids

theorem Devices.Keeps.restored {s s' : Devices} {ids : List Nat} {id : Nat} (h : s.Keeps s' ids)
    (hid : id ∉ ids) : s.Restored s' id := by
  unfold Devices.Restored
  rw [h id hid]
  exact ⟨rfl, fun _ h => h⟩

theorem restored_of_on {s s' : Devices} {id : Nat} {device : Device}
    (hdevice : (s.placement id).head? = some device) (h : (s'.placement id).On device) :
    s.Restored s' id := by
  refine ⟨h.1.trans hdevice.symm, fun other hother => ?_⟩
  have heq : device = other := Option.some.inj (hdevice.symm.trans hother.1)
  exact heq ▸ h

/-- How `to` ends when a leaf throws: after moving back without an error every leaf is where
it was, and every error on the way back is reported. -/
def Rolled (leaves : List (Node × L)) (s : Devices) (thrown : Thrown) (s' : Devices) : Prop :=
  (∃ error rollbackError, thrown = rollbackFailed error rollbackError) ∨
    (∀ leaf ∈ leaves, s.Restored s' leaf.1.id) ∧ s'.failures ≤ s.failures + 1

theorem Rolled.same (leaves : List (Node × L)) (s : Devices) (thrown : Thrown) :
    Rolled leaves s thrown s :=
  .inr ⟨fun _ _ => ⟨rfl, fun _ h => h⟩, Nat.le_succ _⟩

theorem wp_to (hbehaviour : behaviour.Arrives) (deviceCount : Device → Except Thrown Int)
    (module : Module L) (hids : module.ids.Nodup) (device : Device) (s : Devices) :
    wp (module.to behaviour deviceCount device)
      (fun _ s' => ∀ leaf ∈ module.leaves, s.placement leaf.1.id ≠ [] →
        (s'.placement leaf.1.id).On device)
      (Rolled module.leaves s) s := by
  have hsame := Rolled.same module.leaves s
  unfold Module.to
  rw [wp_bind]
  refine wp_ensureLive ?_ hsame
  rw [wp_bind]
  refine wp_ensureMaterialized ?_ hsame
  rw [wp_bind]
  refine wp_ensureAvailable ?_ hsame
  refine wp_seq (wp_buildMovePlan device module [] [] s hids fun _ _ => List.not_mem_nil)
    (fun thrown _ h => h ▸ hsame thrown) ?_
  rintro ⟨visited, plan⟩ s ⟨rfl, hplanned⟩
  have hplan : plan = module.leaves.filterMap s.record := hplanned.plan
  have hnodup : (plan.map MoveRecord.id).Nodup := hplan ▸ plan_nodup hids s
  refine wp_seq (wp_moveForward hbehaviour device plan hnodup 0 s) (fun _ _ h => h.elim) ?_
  rintro ⟨attempted, error⟩ s₁ ⟨count, hattempted, hkeeps, hplaced, hfailures⟩
  have hattempted : attempted = count := hattempted.trans (Nat.zero_add count)
  subst hattempted
  cases error with
  | none =>
    intro leaf hleaf hstate
    obtain ⟨original, hdevice⟩ := Option.ne_none_iff_exists'.mp
      (fun h => hstate (List.head?_eq_none_iff.mp h))
    exact hplaced rfl ⟨leaf.1, leaf.2, original⟩ (hplan ▸ mem_plan.mpr ⟨hleaf, hdevice⟩)
  | some error =>
    have hback : (((plan.take attempted).reverse).map MoveRecord.id).Nodup := by
      rw [List.map_reverse, List.nodup_reverse]
      exact ((List.take_sublist attempted plan).map _).nodup hnodup
    refine wp_seq (wp_moveBack hbehaviour _ hback none s₁) (fun _ _ h => h.elim) ?_
    rintro rollbackError s₂ ⟨hkeeps₂, hplaced₂, hle, hresult⟩
    cases rollbackError with
    | some rollbackError => exact .inl ⟨error, rollbackError, rfl⟩
    | none =>
      right
      have hsame₂ := (hresult.mp rfl).2
      refine ⟨fun leaf hleaf => ?_, by rw [hsame₂, hfailures]; rfl⟩
      by_cases hmem : leaf.1.id ∈ (plan.take attempted).map MoveRecord.id
      · obtain ⟨entry, hentry, hid⟩ := List.mem_map.mp hmem
        have hin := mem_plan.mp (hplan ▸ List.mem_of_mem_take hentry)
        rw [← hid]
        exact restored_of_on hin.2 (hplaced₂ rfl entry (List.mem_reverse.mpr hentry))
      · rw [List.map_reverse] at hkeeps₂
        exact (hkeeps.trans fun id hid => hkeeps₂ id (by simpa using hid)).restored hmem

/-- A moved tree is on the device, or every leaf is where it was, or the error says that moving
back failed as well. A move after one that threw is a move back. -/
theorem to_rolls_back (hbehaviour : behaviour.Arrives)
    (deviceCount : Device → Except Thrown Int) (module : Module L) (hids : module.ids.Nodup)
    (device : Device) (s : Devices) :
    match module.to behaviour deviceCount device s with
    | .ok _ s' => ∀ leaf ∈ module.leaves, s.placement leaf.1.id ≠ [] →
        (s'.placement leaf.1.id).On device
    | .error thrown s' =>
        ((¬∃ error rollbackError, thrown = rollbackFailed error rollbackError) →
          ∀ leaf ∈ module.leaves, s.Restored s' leaf.1.id) ∧
        ∀ later failed earlier, s'.moves = later ++ failed :: earlier ++ s.moves →
          failed.thrown ≠ none → (∃ move ∈ later, move.thrown ≠ none) →
          ∃ error rollbackError, thrown = rollbackFailed error rollbackError := by
  have h := wp_to hbehaviour deviceCount module hids device s
  unfold wp at h
  cases hrun : module.to behaviour deviceCount device s with
  | ok result s' =>
    rw [hrun] at h
    exact h
  | error thrown s' =>
    rw [hrun] at h
    constructor
    · exact fun hother => (h.resolve_left hother).1
    · intro later failed earlier hmoves hfailed ⟨move, hmove, hthrew⟩
      rcases h with h | ⟨-, hle⟩
      · exact h
      · have hlater : 0 < later.countP fun move => move.thrown.isSome :=
          List.countP_pos_iff.mpr ⟨move, hmove, Option.isSome_iff_ne_none.mpr hthrew⟩
        unfold Devices.failures at hle
        rw [hmoves, List.countP_append, List.countP_append,
          List.countP_cons, if_pos (Option.isSome_iff_ne_none.mpr hfailed)] at hle
        omega

end Specs

def crowded : LeafMoves Nat where
  preflight _ _ := none
  unreadable _ := none
  onMove _ layer device _ placement :=
    if layer = 1 ∧ device.kind ≠ .cpu then (device :: placement.tail, some (.other "out of memory"))
    else ([device, device], none)

def twoLayers : Module Nat :=
  .model ⟨0, false⟩ none (.sequential ⟨1, false⟩ [.leaf ⟨2, false⟩ 0, .leaf ⟨3, false⟩ 1])

def onCpu : Devices := ⟨fun _ => [⟨.cpu, 0⟩, ⟨.cpu, 0⟩], []⟩

theorem twoLayers_rolls_back :
    ∃ s', twoLayers.to crowded (fun _ => .ok 1) ⟨.cuda, 0⟩ onCpu =
        .error (.other "out of memory") s' ∧
      ∀ leaf ∈ twoLayers.leaves, onCpu.Restored s' leaf.1.id := by
  have harrives : crowded.Arrives := by
    intro node layer device moves placement hnone
    by_cases hfull : layer = 1 ∧ device.kind ≠ .cpu
    · simp [crowded, hfull] at hnone
    · simp [crowded, hfull, Placement.On]
  have h := to_rolls_back harrives (fun _ => .ok 1) twoLayers (by decide) ⟨.cuda, 0⟩ onCpu
  exact ⟨_, rfl, h.1 fun ⟨_, _, herror⟩ => nomatch herror⟩

end Tensora.Nn
