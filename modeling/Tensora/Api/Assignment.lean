import Tensora.Api.Runs
import Tensora.Api.Sample

/-! `tensor_assign_many` as a simultaneous assignment: all of it or nothing. -/
namespace Tensora.Api
open ProgramLogic Training

variable {F D : Type} {s : Runtime F D}

/-- What a successful batch does: targets hold what their sources held, their alias sets
move one version on, and nothing else changes. -/
structure SimultaneouslyAssigned (h : Heap F) (pairs : List (TensorId × TensorId))
    (h' : Heap F) : Prop where
  contents : ∀ p ∈ pairs, h'.contents p.1 = h.contents p.2
  versions : ∀ id, id < h.tensors.length →
    h'.version id = if h.storageOf id ∈ pairs.map (fun p => h.storageOf p.1)
      then add64 (h.version id) 1 else h.version id
  gradients : ∀ id, h'.gradient id = if id ∈ pairs.map Prod.fst then none else h.gradient id
  storages : ∀ storage : StorageId, some storage ∉ pairs.map (fun p => h.storageOf p.1) →
    h'.storages[storage]? = h.storages[storage]?

theorem simultaneously_of_assigned {h h' : Heap F} {pairs : List (TensorId × TensorId)}
    (a : Assigned h (staged h pairs) h') : SimultaneouslyAssigned h pairs h' := by
  have hstorages : (staged h pairs).map (fun p => h.storageOf p.1) =
      pairs.map fun p => h.storageOf p.1 := by
    simp [staged]
  have hfirst : (staged h pairs).map Prod.fst = pairs.map Prod.fst := by
    simp [staged]
  refine ⟨fun p hp => ?_, ?_, ?_, ?_⟩
  · exact a.contents (p.1, h.contents p.2) (List.mem_map.mpr ⟨p, hp, rfl⟩)
  · rw [← hstorages]
    exact a.versions
  · rw [← hfirst]
    exact a.gradients
  · rw [← hstorages]
    exact a.storages

theorem Resolved.get {targets sources : Option (List Nat)} {count : Nat}
    {pairs : List (TensorId × TensorId)} (r : Resolved s targets sources count pairs)
    (hlen : pairs.length = count) {i handle : Nat} {id : TensorId} (hi : i < count)
    (hget : (targets.getD [])[i]? = some handle) (hid : s.objectOf handle .tensor = some id) :
    ∃ p, pairs[i]? = some p ∧ p.1 = id := by
  obtain ⟨hsame, hall⟩ := List.forall₂_iff_get.mp r
  have hi₂ : i < pairs.length := hlen ▸ hi
  have hr := (hall i (hsame ▸ hi₂) hi₂).1
  simp only [List.get_eq_getElem, List.getElem_take, List.getElem_zip] at hr
  obtain ⟨_, rfl⟩ := List.getElem?_eq_some_iff.mp hget
  exact ⟨pairs[i], List.getElem?_eq_getElem hi₂, Option.some.inj (hr.symm.trans hid)⟩

variable [Scalar F] [Scalar D] [Precision F D] [FloatBits F]

theorem wp_exec_assignMany (ok : s.Ok) (targets sources : Option (List Nat)) (count : Nat) :
    wp (exec (.tensorAssignMany targets sources count))
      (fun _ s' => ∃ pairs, Resolved s targets sources count pairs ∧ pairs.length = count ∧
        (pairs.map fun p => s.heap.storageOf p.1).Nodup ∧
        SimultaneouslyAssigned s.heap pairs s'.heap)
      (fun _ s' => s.Idle s') s := by
  change wp (assignMany targets sources count >>= fun _ => pure Reply.done) _ _ s
  refine wp_seq (wp_assignMany ok targets sources count) (fun _ _ he => he) ?_
  rintro _ _ ⟨a, h', batch, rfl, hr, hlen, hbatch, ha⟩
  exact ⟨batch.pairs, hr, hlen, hbatch.separate, simultaneously_of_assigned ha⟩

/-- A batch of any length is assigned all at once or, on any error, not at all; a batch
with two targets in one storage is rejected. -/
theorem assignMany_atomic (hs : Reachable s) (targets sources : Option (List Nat)) (count : Nat) :
    (∀ reply s', exec (.tensorAssignMany targets sources count) s = .ok reply s' →
      ∃ pairs, Resolved s targets sources count pairs ∧ pairs.length = count ∧
        SimultaneouslyAssigned s.heap pairs s'.heap) ∧
    (∀ e s', exec (.tensorAssignMany targets sources count) s = .error e s' →
      s'.heap = s.heap) ∧
    (∀ (i j first second : Nat) (a b : TensorId), i < count → j < count → i ≠ j →
      (targets.getD [])[i]? = some first → (targets.getD [])[j]? = some second →
      s.objectOf first .tensor = some a → s.objectOf second .tensor = some b →
      s.heap.storageOf a = s.heap.storageOf b →
      ∃ e s', exec (.tensorAssignMany targets sources count) s = .error e s') := by
  have h := wp_exec_assignMany hs.ok targets sources count
  refine ⟨fun reply s' hexec => ?_, fun e s' hexec => ?_, ?_⟩
  · obtain ⟨pairs, hr, hlen, -, ha⟩ := wp_of_ok h hexec
    exact ⟨pairs, hr, hlen, ha⟩
  · exact (wp_of_error h hexec).heap_eq
  · intro i j first second a b hi hj hne hfirst hsecond ha hb hshared
    cases hexec : exec (.tensorAssignMany targets sources count) s with
    | error e s' => exact ⟨e, s', rfl⟩
    | ok reply s' =>
        obtain ⟨pairs, hr, hlen, hnodup, -⟩ := wp_of_ok h hexec
        obtain ⟨p, hp, rfl⟩ := Resolved.get hr hlen hi hfirst ha
        obtain ⟨q, hq, rfl⟩ := Resolved.get hr hlen hj hsecond hb
        refine absurd ((List.getElem?_inj ?_ hnodup).mp ?_) hne
        · rw [List.length_map, hlen]
          exact hi
        · rw [List.getElem?_map, List.getElem?_map, hp, hq, Option.map_some, Option.map_some,
            hshared]

def twoPairs : Runtime Word Word := sampleRun [.tensorFromF32 [1, 2] [2], .tensorFromF32 [3, 4] [2]]

/-- A tensor and a reshape of it as two targets of one batch; and two tensors that swap. -/
theorem assignMany_atomic_view :
    (∃ e s', exec (.tensorAssignMany (some [1, 2]) (some [3, 3]) 2)
      (sampleRun [.tensorFromF32 [1, 2] [2], .tensorReshape 1 [2], .tensorFromF32 [3, 4] [2]]) =
        .error e s') ∧
      ∃ s', exec (.tensorAssignMany (some [1, 2]) (some [2, 1]) 2) twoPairs = .ok .done s' ∧
        s'.heap.contents 0 = [3, 4] ∧ s'.heap.contents 1 = [1, 2] := by
  refine ⟨(assignMany_atomic ⟨_, _, _, rfl⟩ (some [1, 2]) (some [3, 3]) 2).2.2 0 1 1 2 0 1
    (by decide) (by decide) (by decide) rfl rfl (by decide +kernel) (by decide +kernel)
    (by decide +kernel), ?_⟩
  have hs : Reachable twoPairs := ⟨_, _, _, rfl⟩
  have hexec := ok_of_replyOf (by decide +kernel : replyOf twoPairs
    (.tensorAssignMany (some [1, 2]) (some [2, 1]) 2) = some .done)
  have hfirst : twoPairs.objectOf 1 .tensor = some 0 := by decide +kernel
  have hsecond : twoPairs.objectOf 2 .tensor = some 1 := by decide +kernel
  have hold : twoPairs.heap.contents 0 = [1, 2] ∧ twoPairs.heap.contents 1 = [3, 4] := by
    decide +kernel
  obtain ⟨pairs, hr, -, assigned⟩ :=
    (assignMany_atomic hs (some [1, 2]) (some [2, 1]) 2).1 _ _ hexec
  obtain ⟨⟨target, source⟩, rest, ⟨htarget, hsource⟩, hrest, rfl⟩ :=
    List.forall₂_cons_left_iff.mp hr
  obtain ⟨⟨target', source'⟩, _, ⟨htarget', hsource'⟩, -, rfl⟩ :=
    List.forall₂_cons_left_iff.mp hrest
  obtain rfl := Option.some.inj (htarget.symm.trans hfirst)
  obtain rfl := Option.some.inj (hsource.symm.trans hsecond)
  obtain rfl := Option.some.inj (htarget'.symm.trans hsecond)
  obtain rfl := Option.some.inj (hsource'.symm.trans hfirst)
  refine ⟨_, hexec, ?_, ?_⟩
  · exact (assigned.contents (0, 1) (by simp)).trans hold.2
  · exact (assigned.contents (1, 0) (by simp)).trans hold.1

end Tensora.Api
