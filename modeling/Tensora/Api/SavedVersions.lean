import Tensora.Api.BackwardCalls

/-! Saved versions are sound: `Backward` differentiates the values the operations
were recorded with, or refuses. -/
namespace Tensora.Api
open ProgramLogic Autograd

variable {F D : Type} [Scalar F] [Scalar D] [Precision F D] [Training.FloatBits F]
  {s : Runtime F D}

/-- The call that follows `front` made the tensor, and recorded its node if it has one. -/
def CreatedBy (s : Runtime F D) (front : List (Call F D)) (call : Call F D) (id : TensorId) :
    Prop :=
  (run s front).heap.tensors.length ≤ id ∧ id < (after (run s front) call).heap.tensors.length

theorem exists_createdBy {calls : List (Call F D)} {id : TensorId}
    (hold : s.heap.tensors.length ≤ id) (hid : id < (run s calls).heap.tensors.length) :
    ∃ front call back, calls = front ++ call :: back ∧ CreatedBy s front call id := by
  induction calls generalizing s with
  | nil => exact absurd hid (Nat.not_lt.mpr hold)
  | cons call calls ih =>
      rcases Nat.lt_or_ge id (after s call).heap.tensors.length with hnew | hlater
      · exact ⟨[], call, calls, rfl, hold, hnew⟩
      · obtain ⟨front, call', back, rfl, hcreated⟩ := ih hlater hid
        exact ⟨call :: front, call', back, rfl, hcreated⟩

structure Since (s₁ s₂ : Runtime F D) (id : TensorId) (node : GradNode) : Prop where
  recorded : Recorded D s₁.heap id node
  parents : ∀ p ∈ node.parents, s₁.heap.Visible p
  evolves : Evolves s₁.heap s₂.heap
  ok : s₁.Ok

theorem CreatedBy.since (ok : s.Ok) {front back : List (Call F D)} {call : Call F D}
    {id : TensorId} {node : GradNode} (hcreated : CreatedBy s front call id)
    (hn : (run s (front ++ call :: back)).heap.gradFn id = some node) :
    Since (after (run s front) call) (run s (front ++ call :: back)) id node := by
  obtain ⟨hold, hnew⟩ := hcreated
  have ok₁ := (run_evolves ok front).1
  obtain ⟨ok₂, hm⟩ := after_moves ok₁ call
  have hrun : run s (front ++ call :: back) = run (after (run s front) call) back := by
    unfold run
    rw [List.foldl_append, List.foldl_cons]
  have e := (run_evolves ok₂ back).2
  rw [← hrun] at e
  have hn₂ : (after (run s front) call).heap.gradFn id = some node := by
    rw [← e.gradFn id hnew, hn]
  refine ⟨?_, fun p hp => ok₂.wellFormed.parent_visible hn₂ hp, e, ok₂⟩
  unfold Call.Moves at hm
  split at hm
  · exact hm.recorded id node hold hn₂
  · rw [hm.unrecorded.added id hold] at hn₂
    cases hn₂

omit [Scalar F] [Scalar D] [Precision F D] [Training.FloatBits F] in
/-- A count of mutations that fits in 64 bits is what the version counter says. -/
theorem version_eq (ok : s.Ok) (hfew : s.heap.mutations.length < 2 ^ 64) {id : TensorId}
    {t : Tensor} (ht : s.heap.tensors[id]? = some t) :
    s.heap.version id = s.heap.mutations.count t.storage := by
  rw [ok.versioned.version ok.wellFormed ht]
  exact Nat.mod_eq_of_lt (List.count_le_length.trans_lt hfew)

def WrittenSince (s₁ s₂ : Runtime F D) (p : TensorId) : Prop :=
  ∃ t, s₁.heap.tensors[p]? = some t ∧
    s₁.heap.mutations.count t.storage < s₂.heap.mutations.count t.storage

omit [Training.FloatBits F] in
theorem Since.version_iff {s₁ s₂ : Runtime F D} {id : TensorId} {node : GradNode}
    (h : Since s₁ s₂ id node) (ok₂ : s₂.Ok) (hfew : s₂.heap.mutations.length < 2 ^ 64)
    {p : TensorId} (hp : p ∈ node.parents) :
    s₂.heap.version p = s₁.heap.version p ↔ ¬WrittenSince s₁ s₂ p := by
  obtain ⟨t, ht⟩ := (h.parents p hp).get
  obtain ⟨m, ht₂⟩ := h.evolves.tensors p t ht
  have hsub := h.evolves.mutations.sublist
  rw [version_eq ok₂ hfew ht₂, version_eq h.ok (hsub.length_le.trans_lt hfew) ht]
  have hle := hsub.count_le t.storage
  constructor
  · rintro heq ⟨t', ht', hlt⟩
    obtain rfl := Option.some.inj (ht.symm.trans ht')
    exact Nat.ne_of_gt hlt heq
  · intro hnot
    by_contra hne
    exact hnot ⟨t, ht, Nat.lt_of_le_of_ne hle fun h => hne h.symm⟩

/-- When `Backward` returns, every node it applied read from each parent the value the
parent had when the node was recorded; when a parent's storage was written since, it
refuses and leaves every gradient as it is. -/
theorem saved_versions_sound {s₀ s : Runtime F D} {calls : List (Call F D)} {handle : Nat}
    {root : TensorId} (hinitial : ∃ fails files, s₀ = Runtime.initial fails files)
    (hs : s = run s₀ calls) (hroot : s.objectOf handle .tensor = some root)
    (hfew : s.heap.mutations.length < 2 ^ 64) :
    (∀ reply s', exec (.tensorBackward handle) s = .ok reply s' →
      ∃ trace m, backwardTrace root s.memory = .ok trace m ∧ ∀ application ∈ trace,
        ∃ node front call back, s.heap.gradFn application.tensor = some node ∧
          calls = front ++ call :: back ∧ CreatedBy s₀ front call application.tensor ∧
          application.operands = node.parents.map (after (run s₀ front) call).heap.contents) ∧
    (∀ id node p front call back, PostOrder.Reaches s.heap.tape.parents root id →
      s.heap.gradFn id = some node → p ∈ node.parents → calls = front ++ call :: back →
      CreatedBy s₀ front call id → WrittenSince (after (run s₀ front) call) s p →
      ∃ e s', exec (.tensorBackward handle) s = .error e s' ∧
        s'.heap.gradientContents = s.heap.gradientContents) := by
  obtain ⟨fails, files, hinitial⟩ := hinitial
  have ok₀ : s₀.Ok := hinitial ▸ ok_initial fails files
  have ok : s.Ok := hs ▸ (run_evolves ok₀ calls).1
  have hv := ok.visible hroot
  have hexec := exec_tensorBackward (D := D) hroot
  have hspec := spec_backwardTrace ok.wellFormed hv s.memory.allocator
  refine ⟨fun reply s' h => ?_, fun id node p front call back hreach hn hp hcalls hcreated
    hwritten => ?_⟩
  · cases hb : backwardTrace root s.memory with
    | error e m => rw [hexec, hb] at h; cases h
    | ok trace m =>
        refine ⟨trace, m, rfl, fun application happ => ?_⟩
        obtain ⟨-, haccept, -, -, rfl⟩ := wp_of_ok hspec hb
        have hsaved := ((backwardReject_none ok root).mp haccept).2.2
        obtain ⟨id, hid, happ⟩ := List.mem_filterMap.mp happ
        obtain ⟨⟨operation, parents⟩, hnode, rfl⟩ := Option.map_eq_some_iff.mp happ
        obtain ⟨node, hn, heq⟩ := Option.map_eq_some_iff.mp hnode
        cases heq
        have hreach := (Tape.mem_order ok.wellFormed.tape).mp hid
        obtain ⟨front, call, back, hcalls, hcreated⟩ :=
          exists_createdBy (hinitial ▸ Nat.zero_le id : s₀.heap.tensors.length ≤ id)
            (hs ▸ Heap.gradFn_lt hn)
        refine ⟨node, front, call, back, hn, hcalls, hcreated, ?_⟩
        have hsince := hcreated.since ok₀ (hcalls ▸ hs ▸ hn)
        rw [← hcalls, ← hs] at hsince
        refine List.map_congr_left fun p hp => ?_
        have hversions : node.parents.map s.heap.version =
            node.parents.map (after (run s₀ front) call).heap.version := by
          rw [← hsaved id hreach node hn, hsince.recorded.versions]
        have hnot := (hsince.version_iff ok hfew hp).mp (List.map_inj_left.mp hversions p hp)
        obtain ⟨t, ht⟩ := (hsince.parents p hp).get
        refine hsince.evolves.contents p t (hsince.parents p hp) ht ?_
        refine le_antisymm (Nat.not_lt.mp fun hlt => hnot ⟨t, ht, hlt⟩) ?_
        exact hsince.evolves.mutations.sublist.count_le t.storage
  · have hsince := hcreated.since ok₀ (hcalls ▸ hs ▸ hn)
    rw [← hcalls, ← hs] at hsince
    have hstale : backwardReject s.heap root ≠ none := by
      intro haccept
      have hsaved := ((backwardReject_none ok root).mp haccept).2.2 id hreach node hn
      rw [hsince.recorded.versions] at hsaved
      exact (hsince.version_iff ok hfew hp).mp (List.map_inj_left.mp hsaved p hp).symm hwritten
    cases hb : backwardTrace root s.memory with
    | ok trace m => exact absurd (wp_of_ok hspec hb).2.1 hstale
    | error e m =>
        refine ⟨e, _, by rw [hexec, hb], ?_⟩
        change m.heap.gradientContents = s.heap.gradientContents
        rcases (wp_of_error hspec hb).2 with
          ⟨hheap, -⟩ | ⟨-, -, -, done, rest, -, -, hdone, hleaves⟩
        · rw [hheap]
        · rcases hdone with haccept | rfl
          · exact absurd haccept hstale
          · exact hleaves

/-- The leaf under a square is assigned before `Backward`. -/
theorem saved_versions_sound_assigned :
    let s := run (Runtime.initial (fun _ => false) emptyDisk)
      (squareCalls ++ [.tensorAssignMany (some [2]) (some [1]) 1])
    ∃ e s', exec (.tensorBackward 4) s = .error e s' ∧
      s'.heap.gradientContents = s.heap.gradientContents := by
  intro s
  refine (saved_versions_sound ⟨_, _, rfl⟩ rfl ?_ ?_).2 2
    ⟨.multiply, [1, 1], [0, 0]⟩ 1 [.tensorFromF32 [1, 2] [2], .tensorWithRequiresGrad 1 true]
    (.tensorMultiply 2 2) [.tensorSum 3, .tensorAssignMany (some [2]) (some [1]) 1]
    (Relation.ReflTransGen.single (a := 3) ?_) ?_ ?_ rfl ⟨?_, ?_⟩
    ⟨⟨canonicalShape [2], 1, .float32, .cpu, 0, 0, 1, some ⟨true, true, none, none⟩⟩, ?_, ?_⟩
  all_goals decide +kernel

end Tensora.Api
