import Tensora.Api.BackwardCalls
import Tensora.Api.Isolation
import Tensora.Api.OptimizerTables

/-! Aliases. Two tensors over one storage share its counter and its identity, and as long as
the identities have not wrapped nothing else has them. -/
namespace Tensora
open ProgramLogic

variable {F D : Type}

theorem Heap.Drawn.injective {h : Heap F} {draw : CounterId → Nat} (d : h.Drawn draw)
    {c c' : CounterId} (hc : c < h.counters.length) (hc' : c' < h.counters.length)
    (heq : draw c = draw c') : c = c' := by
  rcases Nat.lt_trichotomy c c' with hlt | heq' | hgt
  · exact absurd heq (Nat.ne_of_lt (d.increasing c c' hlt hc'))
  · exact heq'
  · exact absurd heq.symm (Nat.ne_of_lt (d.increasing c' c hgt hc))

section Identities
variable {h : Heap F} (wf : WellFormed h)
include wf

theorem Heap.storage_lt {id : TensorId} {t : Tensor} (ht : h.tensors[id]? = some t) :
    t.storage < h.storages.length := by
  obtain ⟨values, hs, -⟩ := (wf.placed id t ht).stored
  exact (List.getElem?_eq_some_iff.mp hs).1

theorem Heap.identity_of {id : TensorId} {t : Tensor} (ht : h.tensors[id]? = some t) :
    ∃ counter, h.counters[t.storage]? = some counter ∧ h.identity id = counter.identity := by
  have hlt : t.storage < h.counters.length := by
    rw [wf.counters]
    exact Heap.storage_lt wf ht
  have hc := List.getElem?_eq_getElem hlt
  refine ⟨_, hc, ?_⟩
  simp only [Heap.identity, ht, (wf.placed id t ht).counter, hc]

theorem Heap.Drawn.identity_eq {draw : CounterId → Nat} (d : h.Drawn draw) {id : TensorId}
    {t : Tensor} (ht : h.tensors[id]? = some t) :
    h.identity id = (draw t.storage + 1) % 2 ^ 64 := by
  obtain ⟨counter, hc, hid⟩ := Heap.identity_of wf ht
  rw [hid, d.identity _ _ hc]

end Identities

structure Heap.Numbered (h : Heap F) (n : Nat) : Prop where
  storages : h.storages.length = n
  tensors : h.tensors.length = n
  drawn : h.drawn = n
  own : ∀ id < n, h.storageOf id = some id

namespace Heap.Numbered
variable {h : Heap F} {n : Nat} (numbered : h.Numbered n)
include numbered

theorem pushFresh (shape : ShapeInfo) (values : List F) (m : Option AutogradMeta) :
    (h.pushFresh shape values m).Numbered (n + 1) where
  storages := by simp [Heap.pushFresh, numbered.storages]
  tensors := by simp [Heap.pushFresh, numbered.tensors]
  drawn := by simp [Heap.pushFresh, numbered.drawn]
  own := by
    intro id hid
    rcases Nat.lt_succ_iff_lt_or_eq.mp hid with hlt | rfl
    · rw [← numbered.own id hlt, Heap.storageOf, Heap.storageOf,
        (h.extends_pushFresh shape values m).get_of_lt (numbered.tensors ▸ hlt)]
    · rw [← numbered.tensors, Heap.storageOf_pushFresh, numbered.storages, numbered.tensors]

theorem draw_eq {draw : CounterId → Nat} (wf : WellFormed h) (d : h.Drawn draw) :
    ∀ c < n, draw c = c := by
  have hlength : h.counters.length = n := wf.counters.trans numbered.storages
  have habove : ∀ c < n, c ≤ draw c := by
    intro c
    induction c with
    | zero => exact fun _ => Nat.zero_le _
    | succ c ih =>
        intro hc
        have hstep := d.increasing c (c + 1) (Nat.lt_succ_self c) (hlength ▸ hc)
        have hbelow := ih (Nat.lt_of_succ_lt hc)
        omega
  have hbelow : ∀ k c, c + k + 1 = n → draw c + k < n := by
    intro k
    induction k with
    | zero =>
        intro c hc
        have hlast : c < h.counters.length := by rw [hlength]; omega
        exact (d.lt c hlast).trans_eq numbered.drawn
    | succ k ih =>
        intro c hc
        have hlast : c + 1 < h.counters.length := by rw [hlength]; omega
        have hstep := d.increasing c (c + 1) (Nat.lt_succ_self c) hlast
        have hnext := ih (c + 1) (by omega)
        omega
  intro c hc
  have hle := habove c hc
  have hlt := hbelow (n - 1 - c) c (by omega)
  omega

theorem identity (wf : WellFormed h) (a : h.Accounted) {id : TensorId} (hid : id < n) :
    h.identity id = (id + 1) % 2 ^ 64 := by
  obtain ⟨draw, d⟩ := a.draws
  obtain ⟨t, ht, hstorage⟩ := Option.map_eq_some_iff.mp (numbered.own id hid)
  rw [d.identity_eq wf ht, hstorage, numbered.draw_eq wf d id hid]

end Heap.Numbered

namespace Api
open Training
variable [Scalar F] [Scalar D] [Precision F D] [FloatBits F] {s : Runtime F D}

def grown (s : Runtime F D) (h : Heap F) (n : Nat) (rng : Rng) : Runtime F D :=
  { s with memory := ⟨h, s.memory.allocator.after n⟩, rng := rng }

def withLayer (h : Heap F) (weight bias : List F) : Heap F :=
  (h.pushFresh (canonicalShape [1, 1]) weight (some ⟨true, true, none, none⟩)).pushFresh
    (canonicalShape [1]) bias (some ⟨true, true, none, none⟩)

section Layers
omit [Scalar F] [Scalar D] [Precision F D] [FloatBits F]

theorem grown_grown (s : Runtime F D) (h h' : Heap F) (n m : Nat) (rng rng' : Rng) :
    grown (grown s h n rng) h' m rng' = grown s h' (n + m) rng' := by
  simp only [grown, Allocator.after_after]

theorem wp_grown {α : Type} (hmem : Lasting s) {program : Mem F α} {h : Heap F} {n : Nat}
    {rng : Rng} {Q : α → Heap F → Prop} {X : Heap F → Prop}
    (hp : Spec program h Q (fun _ _ => False) X) :
    wp (onMemory program) (fun r s' => ∃ h' n', Q r h' ∧ s' = grown s h' n' rng)
      (fun _ _ => False) (grown s h n rng) := by
  rw [wp_onMemory]
  refine wp_mono (hp (s.memory.allocator.after n)) ?_ ?_
  · rintro r ⟨h', ⟨count, fails⟩⟩ ⟨ran, hq⟩
    obtain ⟨k, hk⟩ := Nat.exists_eq_add_of_le ran.count
    have hfails : fails = s.memory.allocator.fails := ran.fails
    have hcount : count = s.memory.allocator.count + (n + k) := hk.trans (Nat.add_assoc _ _ _)
    refine ⟨h', n + k, hq, ?_⟩
    rw [hcount, hfails]
    rfl
  · rintro e ⟨h', a'⟩ ⟨-, he | ⟨⟨k, hle, -, hk⟩, -⟩⟩
    · exact he
    · rw [show (s.memory.allocator.after n).fails k = false from
        hmem k ((Nat.le_add_right _ n).trans hle)] at hk
      cases hk

theorem wp_drawUniform_grown [Scalar F] (count : Nat) (bound : F) (h : Heap F) (n : Nat)
    (rng : Rng) :
    wp (drawUniform count bound)
      (fun values s' => values.length = count ∧ ∃ rng', s' = grown s h n rng')
      (fun _ _ => False) (grown s h n rng) := by
  unfold drawUniform
  rw [wp_bind, wp_get, wp_bind, wp_modify, wp_pure]
  exact ⟨by simp, _, rfl⟩

end Layers

omit [Scalar D] [Precision F D] [FloatBits F] in
theorem wp_linearCreate_one (hmem : Lasting s) (hnext : s.registry.refuses = none) :
    wp (linearCreate 1 1 true)
      (fun handle s' => handle = s.registry.nextHandle ∧ ∃ weight bias n rng,
        s' = { grown s (withLayer s.heap weight bias) n rng with
          registry := s.registry.withEntry .module s.modules.length
          modules := s.modules ++ [⟨1, 1, true, true, s.heap.tensors.length,
            some (s.heap.tensors.length + 1)⟩] })
      (fun _ _ => False) s := by
  have hdims : ValidDims [1, 1] := ⟨by decide, by simp, by decide⟩
  have hdim : ValidDims [1] := ⟨by decide, by simp, by decide⟩
  have hfail : ∀ (c : Prop) [Decidable c] (e : Failure), ¬c →
      (failIf c e : Native F D Unit) = pure () := fun _ _ _ h => if_neg h
  have hfits : (1 : Nat) ≤ kMaxFloats := by decide
  unfold linearCreate validateModuleDimensions
  rw [hfail _ _ (by decide), hfail _ _ (by decide), hfail _ _ (by decide)]
  simp only [pure_bind, if_true]
  change wp _ _ _ (grown s s.heap 0 s.rng)
  refine wp_seq (wp_grown hmem (observes_validatedShape hdims)) (fun _ _ he => he) ?_
  rintro _ _ ⟨_, n₁, ⟨rfl, rfl⟩, rfl⟩
  refine wp_allocationGuard _ ?_
  refine wp_seq (wp_grown hmem (observes_allocateFloats s.heap hfits)) (fun _ _ he => he) ?_
  rintro _ _ ⟨_, n₂, ⟨rfl, -⟩, rfl⟩
  refine wp_seq (wp_drawUniform_grown _ _ s.heap n₂ _) (fun _ _ he => he) ?_
  rintro weight _ ⟨hweight, rng₁, rfl⟩
  refine wp_seq (wp_grown hmem (observes_allocateFloats s.heap hfits)) (fun _ _ he => he) ?_
  rintro _ _ ⟨_, n₃, ⟨rfl, -⟩, rfl⟩
  refine wp_seq (wp_drawUniform_grown _ _ s.heap n₃ _) (fun _ _ he => he) ?_
  rintro bias _ ⟨hbias, rng₂, rfl⟩
  refine wp_seq (wp_grown hmem (observes_allocate s.heap)) (fun _ _ he => he) ?_
  rintro _ _ ⟨_, n₄, ⟨rfl, -⟩, rfl⟩
  refine wp_seq (wp_grown hmem (spec_makeParameter (canonicalShape_canonical hdims) hweight hfits))
    (fun _ _ he => he) ?_
  rintro _ _ ⟨_, n₅, ⟨rfl, rfl⟩, rfl⟩
  refine wp_seq (wp_grown hmem (observes_validatedShape hdim)) (fun _ _ he => he) ?_
  rintro _ _ ⟨_, n₆, ⟨rfl, rfl⟩, rfl⟩
  rw [map_eq_pure_bind, bind_assoc]
  refine wp_seq (wp_grown hmem (spec_makeParameter (canonicalShape_canonical hdim) hbias hfits))
    (fun _ _ he => he) ?_
  rintro _ _ ⟨_, n₇, ⟨rfl, rfl⟩, rfl⟩
  rw [pure_bind]
  unfold addModule
  rw [bind_assoc, wp_bind, wp_get, bind_assoc, wp_bind, wp_modify, pure_bind]
  refine wp_mono (wp_insertHandle_withEntry .module _) ?_ ?_
  · rintro handle _ ⟨-, rfl, _, ⟨n₈, rfl⟩, rfl⟩
    refine ⟨rfl, weight, bias, n₇ + n₈, rng₂, ?_⟩
    have hlength : (s.heap.pushFresh (canonicalShape [1, 1]) weight
        (some ⟨true, true, none, none⟩)).tensors.length = s.heap.tensors.length + 1 :=
      List.length_append
    rw [← hlength, ← grown_grown s (withLayer s.heap weight bias) _ n₇ n₈ rng₂]
    rfl
  · rintro e s' ⟨-, hlost | hrefused⟩
    · exact hlost fun k hk => hmem k ((Nat.le_add_right _ n₇).trans hk)
    · have hnone : some e = none := hrefused.symm.trans hnext
      cases hnone

omit [Scalar F] [Scalar D] [Precision F D] [FloatBits F] in
theorem objectOf_old {s' : Runtime F D} {type : HandleType} {object : Nat}
    (hregistry : s'.registry = s.registry.withEntry type object) {handle : Nat}
    (hne : handle ≠ s.registry.nextHandle) (type' : HandleType) :
    s'.objectOf handle type' = s.objectOf handle type' := by
  have hfind : (s.registry.withEntry type object).find handle = s.registry.find handle := by
    simp only [HandleRegistry.find, HandleRegistry.withEntry, List.lookup_cons,
      beq_eq_false_iff_ne.mpr hne]
  rw [Runtime.objectOf, Runtime.objectOf, hregistry, hfind]

/-- A process that has created `n + 1` layers of one feature and holds the first only. -/
structure Cycled (s : Runtime F D) (n : Nat) : Prop where
  lasting : Lasting s
  numbered : s.heap.Numbered (2 * (n + 1))
  modules : s.modules.length = n + 1
  first : s.moduleAt 1 = some (0, ⟨1, 1, true, true, 0, some 1⟩)
  next : s.registry.nextHandle = n + 2
  released : ∀ handle, handle ≠ 1 → s.registry.find handle = none

omit [Scalar F] [Scalar D] [Precision F D] [FloatBits F] in
theorem refuses_none {n : Nat} (hnext : s.registry.nextHandle = n) (hpos : 0 < n)
    (hn : n < maxU64) (hfind : s.registry.find n = none) : s.registry.refuses = none := by
  unfold HandleRegistry.refuses
  rw [hnext, if_neg (by omega), hfind]
  rfl

structure Topped (s s' : Runtime F D) (n : Nat) : Prop where
  lasting : Lasting s'
  numbered : s'.heap.Numbered (2 * (n + 2))
  modules : s'.modules = s.modules ++
    [⟨1, 1, true, true, 2 * (n + 1), some (2 * (n + 1) + 1)⟩]
  registry : s'.registry = s.registry.withEntry .module (n + 1)
  next : s'.registry.nextHandle = n + 3

theorem Cycled.create {n : Nat} (h : Cycled s n) (hn : n + 2 < maxU64) :
    Topped s (after s (.linearCreate 1 1 true)) n := by
  have hrefuses : s.registry.refuses = none :=
    refuses_none h.next (by omega) hn (h.released (n + 2) (by omega))
  refine after_of_wp (.linearCreate 1 1 true) (P := fun s' => Topped s s' n) ?_
  refine wp_replied Reply.handle (wp_mono (wp_linearCreate_one h.lasting hrefuses) ?_
    fun _ _ he => he.elim)
  rintro handle s' ⟨-, weight, bias, k, rng, hs'⟩
  have hregistry : s'.registry = s.registry.withEntry .module (n + 1) := by
    rw [hs', ← h.modules]
  have hheap : s'.heap = withLayer s.heap weight bias := by
    rw [hs']
    rfl
  refine ⟨?_, ?_, ?_, hregistry, ?_⟩
  · rw [hs']
    exact fun j hj => h.lasting j ((Nat.le_add_right _ k).trans hj)
  · rw [hheap]
    exact (h.numbered.pushFresh _ _ _).pushFresh _ _ _
  · rw [hs', h.numbered.tensors]
  · rw [hregistry, HandleRegistry.withEntry, h.next, add64]
    unfold maxU64 at hn
    simp only
    omega

omit [Scalar F] [Scalar D] [Precision F D] [FloatBits F] in
theorem Topped.moduleAt_first {s' : Runtime F D} {n : Nat} (t : Topped s s' n) (h : Cycled s n) :
    s'.moduleAt 1 = some (0, ⟨1, 1, true, true, 0, some 1⟩) := by
  have hold := h.first
  unfold Runtime.moduleAt at hold ⊢
  rw [objectOf_old t.registry (by rw [h.next]; omega)]
  obtain ⟨object, hobject, hget⟩ := Option.bind_eq_some_iff.mp hold
  obtain ⟨state, hstate, hpair⟩ := Option.map_eq_some_iff.mp hget
  rw [hobject, Option.bind_some, t.modules,
    List.getElem?_append_left (List.getElem?_eq_some_iff.mp hstate).1, hstate, ← hpair]
  rfl

theorem Cycled.step {n : Nat} (h : Cycled s n) (hn : n + 2 < maxU64) :
    Cycled (run s [.linearCreate 1 1 true, .moduleRelease (n + 2)]) (n + 1) := by
  have t := h.create hn
  change Cycled (after (after s (.linearCreate 1 1 true)) (.moduleRelease (n + 2))) (n + 1)
  generalize after s (.linearCreate 1 1 true) = s' at t
  have hfind : s'.registry.find (n + 2) = some ⟨.module, 1, n + 1⟩ := by
    rw [t.registry, ← h.next]
    exact HandleRegistry.find_withEntry _ _ _
  refine after_of_wp (.moduleRelease (n + 2)) (P := fun s'' => Cycled s'' (n + 1)) ?_
  refine wp_replied (fun _ => .done) ?_
  rw [wp_onRegistry]
  refine wp_mono (HandleRegistry.wp_release_last (Nat.succ_ne_zero _) hfind) ?_
    fun _ _ he => he.elim
  rintro _ _ rfl
  refine ⟨t.lasting, t.numbered, ?_, ?_, t.next, fun handle hne => ?_⟩
  · change s'.modules.length = n + 1 + 1
    rw [t.modules, List.length_append, h.modules, List.length_singleton]
  · have hfirst := t.moduleAt_first h
    unfold Runtime.moduleAt Runtime.objectOf at hfirst ⊢
    simp only [HandleRegistry.find_erase]
    rw [if_neg (show 1 ≠ n + 2 by omega)]
    exact hfirst
  · simp only [HandleRegistry.find_erase]
    split
    · rfl
    · rename_i hother
      rw [t.registry, HandleRegistry.find_withEntry_of_ne _ _ _ (by rw [h.next]; exact hother)]
      exact h.released handle hne

end Api
end Tensora
