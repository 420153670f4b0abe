import Tensora.Nn.ModuleTree

/-! Forward passes through a tree of modules, and which tensors they leave alive. -/
namespace Tensora.Nn
open ProgramLogic

variable {L : Type}

/-- The tensor objects that are alive, the `dispose` calls so far, newest first, and the
numbers of the next tensor and of the next leaf call. -/
structure Tensors where
  live : List Nat
  disposals : List Nat
  next : Nat
  calls : Nat

inductive LeafOutcome where
  | fresh
  | input
  | throws (thrown : Thrown)

abbrev ForwardM := EStateM Thrown Tensors

namespace Tensors

def dispose (s : Tensors) (tensor : Nat) : Tensors :=
  { s with live := s.live.filter (· ≠ tensor), disposals := tensor :: s.disposals }

def adopt (s : Tensors) : Tensors :=
  { s with live := s.next :: s.live, next := s.next + 1 }

def called (s : Tensors) : Tensors := { s with calls := s.calls + 1 }

end Tensors

/-- `forward` of a leaf: what it does may depend on the leaf, on its argument and on the
number of the call. -/
def leafForward (outcome : L → Nat → Nat → LeafOutcome) (layer : L) (input : Nat) :
    ForwardM Nat := do
  let s ← get
  modify Tensors.called
  match outcome layer input s.calls with
  | .fresh => do
      modify Tensors.adopt
      return s.next
  | .input => return input
  | .throws thrown => throw thrown

mutual

def Module.call (outcome : L → Nat → Nat → LeafOutcome) : Module L → Nat → ForwardM Nat
  | .leaf node layer, input => do
      ensureLive node "forward"
      leafForward outcome layer input
  | .sequential node children, input => do
      ensureLive node "forward"
      forwardChildren outcome children input input
  | .model node failure root, input => do
      ensureLive node "forward"
      ensureMaterialized failure
      ensureMaterialized failure
      root.call outcome input

/-- The loop of `Sequential.forward`. -/
def forwardChildren (outcome : L → Nat → Nat → LeafOutcome) :
    List (Module L) → Nat → Nat → ForwardM Nat
  | [], _, current => return current
  | child :: rest, input, current => do
      let next ← tryCatch (child.call outcome current) fun thrown => do
        if current ≠ input then modify fun s => s.dispose current
        throw thrown
      if current ≠ input ∧ current ≠ next then modify fun s => s.dispose current
      forwardChildren outcome rest input next

end

def Tensors.Produced (s s' : Tensors) (tensor : Nat) : Prop :=
  s.next ≤ tensor ∧ tensor < s'.next

instance (s s' : Tensors) (tensor : Nat) : Decidable (s.Produced s' tensor) :=
  inferInstanceAs (Decidable (_ ∧ _))

def Tensors.Numbered (s : Tensors) : Prop := ∀ tensor ∈ s.live, tensor < s.next

/-- What came to life and still is are these tensors, and every other tensor that was produced
has been disposed of once. -/
structure Settled (s s' : Tensors) (kept : List Nat) : Prop where
  live : s'.live = kept ++ s.live
  next : s.next ≤ s'.next
  produced : ∀ tensor ∈ kept, s.Produced s' tensor
  disposals : ∀ tensor, s'.disposals.count tensor =
    s.disposals.count tensor + if s.Produced s' tensor ∧ tensor ∉ kept then 1 else 0

namespace Settled
variable {s s' s'' : Tensors} {kept more : List Nat}

theorem same (hlive : s'.live = s.live) (hdisposals : s'.disposals = s.disposals)
    (hnext : s'.next = s.next) : Settled s s' [] where
  live := hlive
  next := Nat.le_of_eq hnext.symm
  produced := by simp
  disposals := by
    intro tensor
    have hnone : ¬s.Produced s' tensor := by
      unfold Tensors.Produced
      omega
    rw [hdisposals, if_neg fun h => hnone h.1, Nat.add_zero]

theorem numbered (h : Settled s s' kept) (hs : s.Numbered) : s'.Numbered := by
  intro tensor hmem
  rw [h.live, List.mem_append] at hmem
  rcases hmem with hmem | hmem
  · exact (h.produced tensor hmem).2
  · exact Nat.lt_of_lt_of_le (hs tensor hmem) h.next

theorem trans (h : Settled s s' kept) (h' : Settled s' s'' more) :
    Settled s s'' (more ++ kept) where
  live := by rw [h'.live, h.live, List.append_assoc]
  next := Nat.le_trans h.next h'.next
  produced := by
    intro tensor hmem
    rcases List.mem_append.mp hmem with hmem | hmem
    · have hproduced := h'.produced tensor hmem
      exact ⟨Nat.le_trans h.next hproduced.1, hproduced.2⟩
    · have hproduced := h.produced tensor hmem
      exact ⟨hproduced.1, Nat.lt_of_lt_of_le hproduced.2 h'.next⟩
  disposals := by
    intro tensor
    have hnext := h.next
    have hnext' := h'.next
    have hkept := h.produced tensor
    have hmore := h'.produced tensor
    rw [h'.disposals, h.disposals, Nat.add_assoc]
    congr 1
    unfold Tensors.Produced at *
    simp only [List.mem_append, not_or]
    by_cases hold : tensor < s'.next
    · have hnot : tensor ∉ more := fun hmem => by have := hmore hmem; omega
      have hlater : ¬((s'.next ≤ tensor ∧ tensor < s''.next) ∧ tensor ∉ more) := by omega
      have heq : ((s.next ≤ tensor ∧ tensor < s''.next) ∧ tensor ∉ more ∧ tensor ∉ kept) ↔
          (s.next ≤ tensor ∧ tensor < s'.next) ∧ tensor ∉ kept := by
        constructor
        · exact fun hx => ⟨⟨hx.1.1, hold⟩, hx.2.2⟩
        · exact fun hx => ⟨⟨hx.1.1, by omega⟩, hnot, hx.2⟩
      rw [if_neg hlater, Nat.add_zero]
      exact if_congr heq.symm rfl rfl
    · have hnot : tensor ∉ kept := fun hmem => by have := hkept hmem; omega
      have hearlier : ¬((s.next ≤ tensor ∧ tensor < s'.next) ∧ tensor ∉ kept) := by omega
      have heq : ((s.next ≤ tensor ∧ tensor < s''.next) ∧ tensor ∉ more ∧ tensor ∉ kept) ↔
          (s'.next ≤ tensor ∧ tensor < s''.next) ∧ tensor ∉ more := by
        constructor
        · exact fun hx => ⟨⟨by omega, hx.1.2⟩, hx.2.1⟩
        · exact fun hx => ⟨⟨by omega, hx.1.2⟩, hx.2, hnot⟩
      rw [if_neg hearlier, Nat.zero_add]
      exact if_congr heq.symm rfl rfl

theorem dispose {tensor : Nat} (h : Settled s s' (more ++ [tensor])) (hs : s.Numbered)
    (hmore : tensor ∉ more) : Settled s (s'.dispose tensor) more where
  live := by
    have hproduced := h.produced tensor (by simp)
    have hkeep : ∀ other ∈ more ++ s.live, other ≠ tensor := by
      rintro other hmem rfl
      rcases List.mem_append.mp hmem with hmem | hmem
      · exact hmore hmem
      · exact absurd (hs other hmem) (Nat.not_lt.mpr hproduced.1)
    change s'.live.filter (· ≠ tensor) = _
    rw [h.live, List.append_assoc, List.filter_append, List.singleton_append,
      List.filter_cons_of_neg (by simp), ← List.filter_append]
    apply List.filter_eq_self.mpr
    exact fun other hmem => by simpa using hkeep other hmem
  next := h.next
  produced := fun other hmem => h.produced other (List.mem_append_left _ hmem)
  disposals := by
    intro other
    change (tensor :: s'.disposals).count other = _ + if s.Produced s' other ∧ _ then 1 else 0
    rw [List.count_cons, h.disposals, Nat.add_assoc]
    congr 1
    by_cases heq : other = tensor
    · subst heq
      have hproduced := h.produced other (by simp)
      simp [hproduced, hmore]
    · have hne : (tensor == other) = false := by simpa using Ne.symm heq
      rw [hne, if_neg Bool.false_ne_true, Nat.add_zero]
      apply if_congr _ rfl rfl
      simp [heq]

theorem count_old {tensor : Nat} (h : Settled s s' kept) (hold : tensor < s.next) :
    s'.disposals.count tensor = s.disposals.count tensor := by
  rw [h.disposals, if_neg fun hx => absurd hold (Nat.not_lt.mpr hx.1.1), Nat.add_zero]

theorem count_kept {tensor : Nat} (h : Settled s s' kept) (hkept : tensor ∈ kept) :
    s'.disposals.count tensor = s.disposals.count tensor := by
  rw [h.disposals, if_neg fun hx => hx.2 hkept, Nat.add_zero]

theorem count_produced {tensor : Nat} (h : Settled s s' kept)
    (hproduced : s.Produced s' tensor) (hkept : tensor ∉ kept) :
    s'.disposals.count tensor = s.disposals.count tensor + 1 := by
  rw [h.disposals, if_pos ⟨hproduced, hkept⟩]

end Settled

def Returns (s : Tensors) (input result : Nat) (s' : Tensors) : Prop :=
  result = input ∧ Settled s s' [] ∨ Settled s s' [result]

section Runs
variable {outcome : L → Nat → Nat → LeafOutcome}

theorem wp_leafForward (layer : L) (input : Nat) (s : Tensors) :
    wp (leafForward outcome layer input) (fun result s' => Returns s input result s')
      (fun _ s' => Settled s s' []) s := by
  unfold leafForward
  simp only [wp_bind, wp_get, wp_modify]
  cases outcome layer input s.calls with
  | input => exact Or.inl ⟨rfl, .same rfl rfl rfl⟩
  | throws thrown => exact .same rfl rfl rfl
  | fresh =>
      right
      have hproduced : ∀ tensor, s.Produced s.called.adopt tensor ↔ tensor = s.next := by
        intro tensor
        change s.next ≤ tensor ∧ tensor < s.next + 1 ↔ _
        omega
      constructor
      · rfl
      · exact Nat.le_succ s.next
      · intro tensor hmem
        exact (hproduced tensor).mpr (List.mem_singleton.mp hmem)
      · intro tensor
        have hnone : ¬(s.Produced s.called.adopt tensor ∧ tensor ∉ [s.next]) := by
          rw [hproduced, List.mem_singleton]
          exact fun h => h.2 h.1
        exact (if_neg hnone).symm ▸ (Nat.add_zero _).symm

/-- How the loop of `Sequential.forward` gets on: what it holds is the argument, or was
produced since. -/
theorem Returns.step {s₀ s s' : Tensors} {input current next : Nat} (h₀ : s₀.Numbered)
    (h : Returns s₀ input current s) (hinput : input < s₀.next)
    (hnext : Returns s current next s') :
    Returns s₀ input next
      (if current ≠ input ∧ current ≠ next then s'.dispose current else s') := by
  rcases h with ⟨rfl, h⟩ | h
  · rw [if_neg fun hne => hne.1 rfl]
    rcases hnext with ⟨rfl, hnext⟩ | hnext
    · exact Or.inl ⟨rfl, h.trans hnext⟩
    · exact Or.inr (h.trans hnext)
  · have hproduced := h.produced current (List.mem_singleton_self _)
    rcases hnext with ⟨rfl, hnext⟩ | hnext
    · rw [if_neg fun hne => hne.2 rfl]
      exact Or.inr (h.trans hnext)
    · have hlater := hnext.produced next (List.mem_singleton_self _)
      have hne : current ≠ input ∧ current ≠ next := by
        unfold Tensors.Produced at hproduced hlater
        omega
      rw [if_pos hne]
      exact Or.inr ((h.trans hnext).dispose h₀ (by simpa using hne.2))

theorem Returns.abandon {s₀ s s' : Tensors} {input current : Nat} (h₀ : s₀.Numbered)
    (h : Returns s₀ input current s) (hinput : input < s₀.next) (h' : Settled s s' []) :
    Settled s₀ (if current ≠ input then s'.dispose current else s') [] := by
  rcases h with ⟨rfl, h⟩ | h
  · rw [if_neg fun hne => hne rfl]
    exact h.trans h'
  · have hproduced := h.produced current (List.mem_singleton_self _)
    have hne : current ≠ input := by
      unfold Tensors.Produced at hproduced
      omega
    rw [if_pos hne]
    exact (h.trans h').dispose h₀ List.not_mem_nil

theorem Returns.lt {s s' : Tensors} {input result : Nat} (h : Returns s input result s')
    (hinput : input < s.next) : result < s'.next := by
  rcases h with ⟨rfl, h⟩ | h
  · exact Nat.lt_of_lt_of_le hinput h.next
  · exact (h.produced result (by simp)).2

theorem Returns.numbered {s s' : Tensors} {input result : Nat} (h : Returns s input result s')
    (hs : s.Numbered) : s'.Numbered := by
  rcases h with ⟨-, h⟩ | h
  · exact h.numbered hs
  · exact h.numbered hs

mutual

/-- Whatever the leaves do, a call leaves its result alive and nothing else it produced. -/
theorem wp_call : (module : Module L) → (input : Nat) → (s : Tensors) → s.Numbered →
    input < s.next →
    wp (module.call outcome input) (fun result s' => Returns s input result s')
      (fun _ s' => Settled s s' []) s
  | .leaf node layer, input, s, _, _ => by
      unfold Module.call
      rw [wp_bind]
      exact wp_ensureLive (wp_leafForward layer input s) fun _ => .same rfl rfl rfl
  | .sequential node children, input, s, hs, hinput => by
      unfold Module.call
      rw [wp_bind]
      exact wp_ensureLive (wp_forwardChildren children input input s s hs hinput
        (Or.inl ⟨rfl, .same rfl rfl rfl⟩)) fun _ => .same rfl rfl rfl
  | .model node failure root, input, s, hs, hinput => by
      unfold Module.call
      simp only [wp_bind]
      apply wp_ensureLive _ fun _ => .same rfl rfl rfl
      apply wp_ensureMaterialized _ fun _ => .same rfl rfl rfl
      apply wp_ensureMaterialized _ fun _ => .same rfl rfl rfl
      exact wp_call root input s hs hinput

theorem wp_forwardChildren : (children : List (Module L)) → (input current : Nat) →
    (s₀ s : Tensors) → s₀.Numbered → input < s₀.next → Returns s₀ input current s →
    wp (forwardChildren outcome children input current)
      (fun result s' => Returns s₀ input result s') (fun _ s' => Settled s₀ s' []) s
  | [], input, current, s₀, s, _, _, h => h
  | child :: rest, input, current, s₀, s, h₀, hinput, h => by
      have hchild := wp_call child current s (h.numbered h₀) (h.lt hinput)
      unfold forwardChildren
      rw [wp_bind]
      apply wp_tryCatch (P := fun _ s' => Settled s s' [])
      · refine wp_mono hchild ?_ fun _ _ h => h
        intro next s' hnext
        have hstep := h.step h₀ hinput hnext
        apply wp_ite
        · intro hne
          rw [if_pos hne] at hstep
          rw [wp_bind, wp_modify]
          exact wp_forwardChildren rest input next s₀ _ h₀ hinput hstep
        · intro heq
          rw [if_neg heq] at hstep
          exact wp_forwardChildren rest input next s₀ _ h₀ hinput hstep
      · intro thrown s' hsettled
        have hend := h.abandon h₀ hinput hsettled
        apply wp_ite
        · intro hne
          rwa [if_pos hne] at hend
        · intro heq
          rwa [if_neg heq] at hend

end

variable (outcome) in
/-- A forward pass leaves alive what was alive and its result, never gives up the argument or
another tensor of the caller, and disposes of every other tensor it produced once. -/
theorem call_settles (module : Module L) (input : Nat) (s : Tensors) (hs : s.Numbered)
    (hinput : input ∈ s.live) :
    match module.call outcome input s with
    | .ok result s' =>
        s'.live = (if result = input then s.live else result :: s.live) ∧
        (∀ tensor < s.next, s'.disposals.count tensor = s.disposals.count tensor) ∧
        (result = input ∨ s.Produced s' result) ∧
        s'.disposals.count result = s.disposals.count result ∧
        ∀ tensor, s.Produced s' tensor → tensor ≠ result →
          s'.disposals.count tensor = s.disposals.count tensor + 1
    | .error _ s' =>
        s'.live = s.live ∧
        (∀ tensor < s.next, s'.disposals.count tensor = s.disposals.count tensor) ∧
        ∀ tensor, s.Produced s' tensor →
          s'.disposals.count tensor = s.disposals.count tensor + 1 := by
  have hcall : wp (module.call outcome input) _ _ s := wp_call module input s hs (hs input hinput)
  unfold wp at hcall
  cases hrun : module.call outcome input s with
  | ok result s' =>
    rw [hrun] at hcall
    rcases hcall with ⟨rfl, h⟩ | h
    · refine ⟨by rw [if_pos rfl]; exact h.live, fun _ => h.count_old, .inl rfl,
        h.count_old (hs _ hinput), fun tensor hproduced _ => ?_⟩
      exact h.count_produced hproduced List.not_mem_nil
    · have hresult := h.produced result (List.mem_singleton_self _)
      have hne : result ≠ input := fun heq =>
        absurd (hs input hinput) (Nat.not_lt.mpr (heq ▸ hresult.1))
      refine ⟨by rw [if_neg hne]; exact h.live, fun _ => h.count_old, .inr hresult,
        h.count_kept (List.mem_singleton_self _), fun tensor hproduced hother => ?_⟩
      exact h.count_produced hproduced (by simpa using hother)
  | error thrown s' =>
    rw [hrun] at hcall
    exact ⟨hcall.live, fun _ => hcall.count_old,
      fun tensor hproduced => hcall.count_produced hproduced List.not_mem_nil⟩

end Runs

def pipeline (last : LeafOutcome) : Module LeafOutcome :=
  .sequential ⟨0, false⟩
    [.leaf ⟨1, false⟩ .input,
     .model ⟨2, false⟩ none (.sequential ⟨3, false⟩
       [.leaf ⟨4, false⟩ .fresh, .leaf ⟨5, false⟩ .input, .leaf ⟨6, false⟩ .fresh]),
     .leaf ⟨7, false⟩ last]

def twoTensors : Tensors := ⟨[1, 0], [], 2, 0⟩

theorem pipeline_settles :
    match (pipeline .fresh).call (fun layer _ _ => layer) 0 twoTensors with
    | .ok result s' =>
        s'.live = (if result = 0 then [1, 0] else result :: [1, 0]) ∧
        (∀ tensor < 2, s'.disposals.count tensor = 0) ∧
        (result = 0 ∨ twoTensors.Produced s' result) ∧
        s'.disposals.count result = 0 ∧
        ∀ tensor, twoTensors.Produced s' tensor → tensor ≠ result →
          s'.disposals.count tensor = 1
    | .error _ s' =>
        s'.live = [1, 0] ∧ (∀ tensor < 2, s'.disposals.count tensor = 0) ∧
        ∀ tensor, twoTensors.Produced s' tensor → s'.disposals.count tensor = 1 :=
  call_settles (fun layer _ _ => layer) (pipeline .fresh) 0 twoTensors
    (by unfold Tensors.Numbered; decide) (by decide)

end Tensora.Nn
