import Tensora.Autograd.BackwardSpecs

/-! What any call may do to the tables: tensors keep their shape, storage and node,
stay visible, and change their contents only where a mutator is on record. Every
mutator bumps the counter of the storage it writes. -/
namespace Tensora
open CheckedLoop

variable {F D : Type}

/-- A counter counts the mutations of its storage, in 64 bits. -/
structure Versioned (h : Heap F) : Prop where
  value : ∀ (c : CounterId) (counter : VersionCounter), h.counters[c]? = some counter →
    counter.value = h.mutations.count c % 2 ^ 64
  known : ∀ s ∈ h.mutations, s < h.counters.length

def Heap.storageOf (h : Heap F) (id : TensorId) : Option StorageId :=
  h.tensors[id]?.map Tensor.storage

structure Evolves (h h' : Heap F) : Prop where
  wellFormed : WellFormed h'
  versioned : Versioned h → Versioned h'
  tensors : ∀ (id : TensorId) (t : Tensor), h.tensors[id]? = some t →
    ∃ m, h'.tensors[id]? = some { t with autogradMeta := m }
  gradFn : ∀ id, id < h.tensors.length → h'.gradFn id = h.gradFn id
  visible : ∀ id, h.Visible id → h'.Visible id
  mutations : h.mutations <:+ h'.mutations
  contents : ∀ id t, h.Visible id → h.tensors[id]? = some t →
    h'.mutations.count t.storage = h.mutations.count t.storage → h'.contents id = h.contents id
  identities : ∀ (c : CounterId) (counter : VersionCounter), h.counters[c]? = some counter →
    ∃ counter', h'.counters[c]? = some counter' ∧ counter'.identity = counter.identity
  accounted : h.Accounted → h'.Accounted
  charged : ∀ freed, h.Charged freed → h'.Charged freed
  settled : h.Settled → h'.Settled

namespace Evolves
variable {h h' h'' : Heap F}

theorem refl (wf : WellFormed h) : Evolves h h where
  wellFormed := wf
  versioned := fun v => v
  tensors := fun _ t ht => ⟨t.autogradMeta, ht⟩
  gradFn := fun _ _ => rfl
  visible := fun _ hv => hv
  mutations := List.suffix_refl _
  contents := fun _ _ _ _ _ => rfl
  identities := fun _ counter hc => ⟨counter, hc, rfl⟩
  accounted := fun a => a
  charged := fun _ c => c
  settled := fun z => z

theorem length_le (e : Evolves h h') : h.tensors.length ≤ h'.tensors.length := by
  by_contra hlt
  rw [Nat.not_le] at hlt
  obtain ⟨m, hm⟩ := e.tensors _ _ (List.getElem?_eq_getElem hlt)
  exact absurd (List.getElem?_eq_some_iff.mp hm).1 (Nat.lt_irrefl _)

theorem trans (a : Evolves h h') (b : Evolves h' h'') : Evolves h h'' where
  wellFormed := b.wellFormed
  versioned := fun v => b.versioned (a.versioned v)
  tensors := by
    intro id t ht
    obtain ⟨m, hm⟩ := a.tensors id t ht
    obtain ⟨m', hm'⟩ := b.tensors id _ hm
    exact ⟨m', hm'⟩
  gradFn := fun id hid => (b.gradFn id (hid.trans_le a.length_le)).trans (a.gradFn id hid)
  visible := fun id hv => b.visible id (a.visible id hv)
  mutations := a.mutations.trans b.mutations
  contents := by
    intro id t hv ht hcount
    have hle := a.mutations.sublist.count_le t.storage
    have hle' := b.mutations.sublist.count_le t.storage
    obtain ⟨m, hm⟩ := a.tensors id t ht
    rw [b.contents id _ (a.visible id hv) hm (by simp only; omega),
      a.contents id t hv ht (by omega)]
  identities := by
    intro c counter hc
    obtain ⟨counter', hc', hsame⟩ := a.identities c counter hc
    obtain ⟨counter'', hc'', hsame'⟩ := b.identities c counter' hc'
    exact ⟨counter'', hc'', hsame'.trans hsame⟩
  accounted := fun x => b.accounted (a.accounted x)
  charged := fun freed c => b.charged freed (a.charged freed c)
  settled := fun z => b.settled (a.settled z)

theorem dims_eq (e : Evolves h h') {id : TensorId} (hid : id < h.tensors.length) :
    h'.dims id = h.dims id := by
  have ht := List.getElem?_eq_getElem hid
  obtain ⟨m, hm⟩ := e.tensors id _ ht
  rw [Heap.dims_of ht, Heap.dims_of hm]

theorem storageOf (e : Evolves h h') {id : TensorId} (hid : id < h.tensors.length) :
    h'.storageOf id = h.storageOf id := by
  have ht := List.getElem?_eq_getElem hid
  obtain ⟨m, hm⟩ := e.tensors id _ ht
  simp only [Heap.storageOf, ht, hm, Option.map_some]

theorem contiguous_eq (e : Evolves h h') {id : TensorId} (hid : id < h.tensors.length) :
    h'.contiguous id = h.contiguous id := by
  have ht := List.getElem?_eq_getElem hid
  obtain ⟨m, hm⟩ := e.tensors id _ ht
  rw [Heap.contiguous_of ht, Heap.contiguous_of hm]
  rfl

end Evolves

theorem Versioned.version {h : Heap F} (v : Versioned h) (wf : WellFormed h) {id : TensorId}
    {t : Tensor} (ht : h.tensors[id]? = some t) :
    h.version id = h.mutations.count t.storage % 2 ^ 64 := by
  have hp := wf.placed id t ht
  obtain ⟨values, hs, -⟩ := hp.stored
  have hlt : t.versionCounter < h.counters.length := by
    rw [hp.counter, wf.counters]
    exact (List.getElem?_eq_some_iff.mp hs).1
  have hc := List.getElem?_eq_getElem hlt
  simp only [Heap.version, ht, hc]
  rw [v.value _ _ hc, hp.counter]

theorem Versioned.grow {h h' : Heap F} (v : Versioned h)
    (hc : Heap.CountersGrow h.counters h'.counters) (hm : h'.mutations = h.mutations) :
    Versioned h' := by
  obtain ⟨fresh, hfresh, hzero⟩ := hc
  refine ⟨fun c counter hget => ?_, fun s hs => ?_⟩
  · rw [hm]
    rw [hfresh] at hget
    rcases Nat.lt_or_ge c h.counters.length with hlt | hge
    · rw [List.getElem?_append_left hlt] at hget
      exact v.value c counter hget
    · rw [List.getElem?_append_right hge] at hget
      have hnone : h.mutations.count c = 0 :=
        List.count_eq_zero.mpr fun hmem => Nat.not_lt.mpr hge (v.known c hmem)
      rw [hzero counter (List.mem_of_getElem? hget), hnone]
      rfl
  · rw [hm] at hs
    rw [hfresh, List.length_append]
    exact (v.known s hs).trans_le (Nat.le_add_right _ _)

section Steps
variable {h h' : Heap F}

theorem Evolves.of_extends (wf' : WellFormed h') (e : h.Extends h') (wf : WellFormed h)
    (hv : ∀ id, h.Visible id → h'.Visible id)
    (hg : ∀ id, h.tensors.length ≤ id → h'.gradient id = none) : Evolves h h' where
  wellFormed := wf'
  versioned := fun v => v.grow e.counters e.mutations
  tensors := fun _ t ht => ⟨t.autogradMeta, e.get ht⟩
  gradFn := fun _ hid => e.gradFn hid
  visible := hv
  mutations := by rw [e.mutations]
  contents := fun _ _ hvis _ _ => e.contents wf hvis.1
  identities := fun _ counter hc => ⟨counter, e.counter hc, rfl⟩
  accounted := e.accounted
  charged := e.charged
  settled := by
    intro z id hoff
    rcases Nat.lt_or_ge id h.tensors.length with hlt | hge
    · rw [e.requiresGrad hlt] at hoff
      rw [e.gradient hlt, z id hoff]
    · exact hg id hge

theorem Forwarded.evolves [Scalar F] [Scalar D] [Precision F D] (wf : WellFormed h)
    (f : Forwarded D h h') : Evolves h h' :=
  Evolves.of_extends f.wellFormed f.extension wf (fun _ hv => f.visible hv) f.ungraded

theorem Backs.evolves (b : Backs h h') : Evolves h h' where
  wellFormed := b.wellFormed
  versioned := fun v => v.grow b.counters b.mutations
  tensors := by
    intro id t ht
    obtain ⟨t', ht', heq⟩ := b.tensors id t ht
    refine ⟨t'.autogradMeta, ?_⟩
    rw [ht']
    have hsame : { t'.ungraded with autogradMeta := t'.autogradMeta } =
        { t.ungraded with autogradMeta := t'.autogradMeta } := by rw [heq]
    exact congrArg some hsame
  gradFn := fun id _ => b.gradFn_eq id
  visible := b.visible
  mutations := by rw [b.mutations]
  contents := fun id _ hv _ _ => b.contents id hv
  identities := fun _ counter hc => ⟨counter, b.counters.get hc, rfl⟩
  accounted := b.accounted
  charged := b.charged
  settled := b.settled

theorem Retagged.evolves {id : TensorId} {m : AutogradMeta} (r : Retagged h h' id m)
    (wf : WellFormed h) (hv : h.Visible id) (hfn : h.gradFn id = none) (hleaf : m.isLeaf = true)
    (hgrad : ∀ g, m.gradient = some g → h.gradient id = some g)
    (hoff : m.requiresGrad = false → m.gradient = none) : Evolves h h' where
  wellFormed := by
    refine r.wellFormed wf hv hfn hleaf fun g hg => ?_
    have hold := hgrad g hg
    refine ⟨wf.owned id g hold, ?_, fun leaf hl => wf.unique leaf id g hl hold⟩
    rintro rfl
    exact hv.2 g hold
  versioned := by
    intro v
    rw [r.tensors]
    exact ⟨v.value, v.known⟩
  tensors := by
    intro i t ht
    rw [r.tensors, Heap.get_setMeta, ht]
    by_cases hi : i = id
    · exact ⟨some m, by rw [if_pos hi]; rfl⟩
    · exact ⟨t.autogradMeta, by rw [if_neg hi]⟩
  gradFn := fun i _ => r.gradFn_eq i
  visible := by
    intro i hvis
    refine ⟨by rw [r.tensors, Heap.length_setMeta]; exact hvis.1, fun leaf hl => ?_⟩
    rw [r.gradient_eq] at hl
    by_cases heq : leaf = id
    · subst heq
      rw [if_pos rfl] at hl
      exact hvis.2 leaf (hgrad i hl)
    · rw [if_neg heq] at hl
      exact hvis.2 leaf hl
  mutations := by
    rw [r.tensors]
    exact List.suffix_refl _
  contents := by
    intro i t _ _ _
    rw [r.tensors, Heap.contents_setMeta]
  identities := by
    intro c counter hc
    rw [r.tensors]
    exact ⟨counter, hc, rfl⟩
  accounted := by
    intro a
    rw [r.tensors]
    exact a.setMeta _ _
  charged := by
    intro freed c
    rw [r.tensors]
    exact c
  settled := fun z => r.settled z hoff

def Heap.written (h : Heap F) (t : Tensor) (values : List F) : Heap F :=
  (h.mutate t.storage values).bumpVersion t.versionCounter

theorem Heap.get_counters_written {t : Tensor} (hp : Placed h t) {values : List F} (c : CounterId) :
    (h.written t values).counters[c]? =
      if c = t.storage then h.counters[c]?.map fun c => { c with value := add64 c.value 1 }
      else h.counters[c]? := by
  simp only [Heap.written, Heap.bumpVersion, Heap.mutate, Heap.setStorage, hp.counter,
    List.getElem?_modify]
  by_cases hc : c = t.storage
  · subst hc
    simp
  · simp [hc, Ne.symm hc]

theorem Heap.contents_written {id : TensorId} {t : Tensor} {values : List F} :
    (h.written t values).contents id = (h.setStorage t.storage values).contents id := rfl

theorem evolves_written (wf : WellFormed h) {id : TensorId} {t : Tensor} {values : List F}
    (ht : h.tensors[id]? = some t) (hlen : values.length = t.numel) :
    Evolves h (h.written t values) where
  wellFormed := by
    have hp := wf.placed id t ht
    obtain ⟨old, hold, hn⟩ := hp.stored
    have wf' : WellFormed (h.setStorage t.storage values) :=
      Heap.wellFormed_setStorage wf fun old' hold' => by
        obtain rfl : old = old' := Option.some.inj (hold.symm.trans hold')
        rw [hn, hlen]
    exact Heap.wellFormed_of_tables wf' rfl rfl (List.length_modify _ _ _)
  versioned := by
    intro v
    have hp := wf.placed id t ht
    obtain ⟨old, hold, -⟩ := hp.stored
    have hlt : t.storage < h.counters.length := by
      rw [wf.counters]
      exact (List.getElem?_eq_some_iff.mp hold).1
    refine ⟨fun c counter hc => ?_, fun s hs => ?_⟩
    · rw [Heap.get_counters_written hp] at hc
      change counter.value = (t.storage :: h.mutations).count c % 2 ^ 64
      by_cases hcs : c = t.storage
      · subst hcs
        rw [if_pos rfl] at hc
        cases hold : h.counters[t.storage]? with
        | none => rw [hold] at hc; cases hc
        | some old =>
            rw [hold] at hc
            cases hc
            change add64 old.value 1 = _
            rw [List.count_cons_self, v.value _ _ hold, add64]
            omega
      · rw [if_neg hcs] at hc
        rw [List.count_cons_of_ne (Ne.symm hcs)]
        exact v.value c counter hc
    · have hlen' : (h.written t values).counters.length = h.counters.length := by
        simp [Heap.written, Heap.bumpVersion, Heap.mutate, Heap.setStorage]
      rw [hlen']
      rcases List.mem_cons.mp hs with rfl | hs
      · exact hlt
      · exact v.known s hs
  tensors := fun _ t ht => ⟨t.autogradMeta, ht⟩
  gradFn := fun _ _ => rfl
  visible := fun _ hv => hv
  mutations := List.suffix_cons _ _
  contents := by
    intro i t' _ ht' hcount
    rw [Heap.contents_written]
    refine Heap.contents_setStorage_of_ne fun t'' ht'' => ?_
    obtain rfl : t' = t'' := Option.some.inj (ht'.symm.trans ht'')
    intro hs
    change (t.storage :: h.mutations).count t'.storage = _ at hcount
    rw [hs, List.count_cons_self] at hcount
    omega
  identities := by
    intro c counter hc
    rw [Heap.get_counters_written (wf.placed id t ht), hc]
    split
    · exact ⟨_, rfl, rfl⟩
    · exact ⟨counter, rfl, rfl⟩
  accounted := by
    intro a
    have hlength : (h.written t values).counters.length = h.counters.length :=
      List.length_modify _ _ _
    refine ⟨a.draws.imp fun draw d => ⟨fun c counter hc => ?_, ?_, ?_⟩, a.next, fun s hs => ?_⟩
    · rw [Heap.get_counters_written (wf.placed id t ht)] at hc
      split at hc
      · obtain ⟨old, hold, rfl⟩ := Option.map_eq_some_iff.mp hc
        exact d.identity c old hold
      · exact d.identity c counter hc
    · rw [hlength]
      exact d.increasing
    · rw [hlength]
      exact d.lt
    · simp only [Heap.written, Heap.bumpVersion, Heap.mutate, Heap.setStorage, List.length_set]
        at hs
      exact a.backed s hs
  charged := by
    intro freed c
    obtain ⟨old, hold, hn⟩ := (wf.placed id t ht).stored
    exact Heap.Charged.setStorage c hold (hn.trans hlen.symm)
  settled := fun z => z.congr fun _ => rfl

end Steps

structure Unrecorded (h h' : Heap F) : Prop where
  evolves : Evolves h h'
  added : ∀ id, h.tensors.length ≤ id → h'.gradFn id = none

namespace Unrecorded
variable {h h' h'' : Heap F}

theorem refl (wf : WellFormed h) : Unrecorded h h where
  evolves := Evolves.refl wf
  added := by
    intro id hid
    cases hn : h.gradFn id with
    | none => rfl
    | some node => exact absurd (Heap.gradFn_lt hn) (Nat.not_lt.mpr hid)

theorem trans (a : Unrecorded h h') (b : Unrecorded h' h'') : Unrecorded h h'' where
  evolves := a.evolves.trans b.evolves
  added := by
    intro id hid
    rcases Nat.lt_or_ge id h'.tensors.length with hlt | hge
    · rw [b.evolves.gradFn id hlt]
      exact a.added id hid
    · exact b.added id hge

theorem of_length (e : Evolves h h') (hlen : h'.tensors.length = h.tensors.length) :
    Unrecorded h h' where
  evolves := e
  added := by
    intro id hid
    cases hn : h'.gradFn id with
    | none => rfl
    | some node =>
        have hlt := Heap.gradFn_lt hn
        rw [hlen] at hlt
        exact absurd hlt (Nat.not_lt.mpr hid)

theorem of_backs (b : Backs h h') : Unrecorded h h' where
  evolves := b.evolves
  added := by
    intro id hid
    rw [Heap.gradFn, b.added id hid]
    rfl

end Unrecorded

structure Touches (T : StorageId → Prop) (h h' : Heap F) : Prop where
  unrecorded : Unrecorded h h'
  writes : ∀ s, ¬T s → h'.mutations.count s = h.mutations.count s

namespace Touches
variable {T T' : StorageId → Prop} {h h' h'' : Heap F}

theorem refl (T : StorageId → Prop) (wf : WellFormed h) : Touches T h h :=
  ⟨Unrecorded.refl wf, fun _ _ => rfl⟩

theorem trans (a : Touches T h h') (b : Touches T h' h'') : Touches T h h'' where
  unrecorded := a.unrecorded.trans b.unrecorded
  writes := fun s hs => (b.writes s hs).trans (a.writes s hs)

theorem of_mutations (u : Unrecorded h h') (hm : h'.mutations = h.mutations) : Touches T h h' :=
  ⟨u, fun s _ => by rw [hm]⟩

theorem of_backs (b : Backs h h') : Touches T h h' :=
  of_mutations (Unrecorded.of_backs b) b.mutations

end Touches

end Tensora
