import Tensora.Autograd.RecordSpecs
import Tensora.Autograd.Tape
import Tensora.Tensor.HeapFrame

/-! The writes of `Backward`: gradients accumulate in tensors that own their
storage, so nothing a program can see changes but the gradients of its leaves. -/
namespace Tensora
open CheckedLoop

variable {F : Type}

def Tensor.ungraded (t : Tensor) : Tensor :=
  { t with autogradMeta := t.autogradMeta.map fun m => { m with gradient := none } }

/-- What `Backward` may leave of `h`: all of it but the gradients. -/
structure Backs (h h' : Heap F) : Prop where
  wellFormed : WellFormed h'
  tensors : ∀ (id : TensorId) (t : Tensor), h.tensors[id]? = some t →
    ∃ t', h'.tensors[id]? = some t' ∧ t'.ungraded = t.ungraded
  added : ∀ id, h.tensors.length ≤ id → h'.autogradMeta id = none
  visible : ∀ id, h.Visible id → h'.Visible id
  contents : ∀ id, h.Visible id → h'.contents id = h.contents id
  counters : Heap.CountersGrow h.counters h'.counters
  mutations : h'.mutations = h.mutations
  accounted : h.Accounted → h'.Accounted
  charged : ∀ freed, h.Charged freed → h'.Charged freed
  settled : h.Settled → h'.Settled

namespace Backs
variable {h₀ h h' : Heap F}

theorem refl (wf : WellFormed h) : Backs h h where
  wellFormed := wf
  tensors := fun _ t ht => ⟨t, ht, rfl⟩
  added := by
    intro id hid
    rw [Heap.autogradMeta, List.getElem?_eq_none hid]
    rfl
  visible := fun _ hv => hv
  contents := fun _ _ => rfl
  counters := Heap.CountersGrow.refl _
  mutations := rfl
  accounted := fun a => a
  charged := fun _ c => c
  settled := fun z => z

section Facts
variable (b : Backs h₀ h)
include b

theorem length_le : h₀.tensors.length ≤ h.tensors.length := by
  by_contra hlt
  rw [Nat.not_le] at hlt
  obtain ⟨t', ht', -⟩ := b.tensors _ _ (List.getElem?_eq_getElem hlt)
  exact absurd (List.getElem?_eq_some_iff.mp ht').1 (Nat.lt_irrefl _)

theorem autogradMeta_eq (id : TensorId) :
    (h.autogradMeta id).map (fun m => { m with gradient := none }) =
      (h₀.autogradMeta id).map (fun m => { m with gradient := none }) := by
  cases ht : h₀.tensors[id]? with
  | none =>
      have hle := List.getElem?_eq_none_iff.mp ht
      rw [b.added id hle, Heap.autogradMeta, ht]
      rfl
  | some t =>
      obtain ⟨t', ht', heq⟩ := b.tensors id t ht
      rw [Heap.autogradMeta_of ht, Heap.autogradMeta_of ht']
      exact congrArg Tensor.autogradMeta heq

theorem dims_eq {id : TensorId} (hid : id < h₀.tensors.length) : h.dims id = h₀.dims id := by
  have ht := List.getElem?_eq_getElem hid
  obtain ⟨t', ht', heq⟩ := b.tensors id _ ht
  rw [Heap.dims_of ht, Heap.dims_of ht']
  exact congrArg ShapeInfo.dimensions (congrArg Tensor.shape heq :)

theorem gradFn_eq (id : TensorId) : h.gradFn id = h₀.gradFn id := by
  have hmap (m : Option AutogradMeta) : m.bind AutogradMeta.gradFn =
      (m.map fun m => { m with gradient := none }).bind AutogradMeta.gradFn := by cases m <;> rfl
  rw [Heap.gradFn, hmap, b.autogradMeta_eq, ← hmap, Heap.gradFn]

theorem requiresGrad_eq (id : TensorId) : h.requiresGrad id = h₀.requiresGrad id := by
  have hmap (h : Heap F) : h.requiresGrad id =
      (((h.autogradMeta id).map fun m => { m with gradient := none }).map
        AutogradMeta.requiresGrad).getD false := by
    unfold Heap.requiresGrad
    cases h.autogradMeta id <;> rfl
  rw [hmap, b.autogradMeta_eq, ← hmap]

theorem version_eq (wf : WellFormed h₀) {id : TensorId} (hid : id < h₀.tensors.length) :
    h.version id = h₀.version id := by
  have ht := List.getElem?_eq_getElem hid
  obtain ⟨t', ht', heq⟩ := b.tensors id _ ht
  have hcounter : t'.versionCounter = h₀.tensors[id].versionCounter :=
    (congrArg Tensor.versionCounter heq :)
  have hp := wf.placed id _ ht
  obtain ⟨values, hs, -⟩ := hp.stored
  have hlt : h₀.tensors[id].versionCounter < h₀.counters.length := by
    rw [hp.counter, wf.counters]
    exact (List.getElem?_eq_some_iff.mp hs).1
  obtain ⟨rest, hrest⟩ := b.counters.isPrefix
  simp only [Heap.version, ht, ht', hcounter]
  rw [← hrest, List.getElem?_append_left hlt]

end Facts

theorem trans (a : Backs h₀ h) (b : Backs h h') : Backs h₀ h' where
  wellFormed := b.wellFormed
  tensors := by
    intro id t ht
    obtain ⟨t', ht', heq⟩ := a.tensors id t ht
    obtain ⟨t'', ht'', heq'⟩ := b.tensors id t' ht'
    exact ⟨t'', ht'', heq'.trans heq⟩
  added := by
    intro id hid
    have hmeta := b.autogradMeta_eq id
    rw [a.added id hid] at hmeta
    exact Option.map_eq_none_iff.mp hmeta
  visible := fun id hv => b.visible id (a.visible id hv)
  contents := fun id hv => (b.contents id (a.visible id hv)).trans (a.contents id hv)
  counters := a.counters.trans b.counters
  mutations := b.mutations.trans a.mutations
  accounted := fun x => b.accounted (a.accounted x)
  charged := fun freed x => b.charged freed (a.charged freed x)
  settled := fun x => b.settled (a.settled x)

theorem plain (b : Backs h₀ h) (p : Plain h h') : Backs h₀ h' where
  wellFormed := p.wellFormed
  tensors := by
    intro id t ht
    obtain ⟨t', ht', heq⟩ := b.tensors id t ht
    exact ⟨t', p.extension.get ht', heq⟩
  added := by
    intro id hid
    rw [p.autogradMeta_eq]
    exact b.added id hid
  visible := fun id hv => p.visible (b.visible id hv)
  contents := by
    intro id hv
    rw [p.extension.contents b.wellFormed (b.visible id hv).1]
    exact b.contents id hv
  counters := b.counters.trans p.extension.counters
  mutations := p.extension.mutations.trans b.mutations
  accounted := fun a => p.extension.accounted (b.accounted a)
  charged := fun freed c => p.extension.charged freed (b.charged freed c)
  settled := fun z => (b.settled z).congr fun _ => p.autogradMeta_eq

theorem overwritten (b : Backs h₀ h) {g : TensorId} {values : List F}
    (o : h.Overwritten h' g values) (hg : ¬h₀.Visible g) : Backs h₀ h' where
  wellFormed := o.wellFormed
  tensors := by
    rw [o.tensors]
    exact b.tensors
  added := by
    intro id hid
    rw [o.autogradMeta_eq]
    exact b.added id hid
  visible := fun id hv => o.visible (b.visible id hv)
  contents := by
    intro id hv
    rw [o.contents, Function.update_of_ne]
    · exact b.contents id hv
    · rintro rfl
      exact hg hv
  counters := by
    rw [o.counters]
    exact b.counters
  mutations := o.mutations.trans b.mutations
  accounted := fun a => o.accounted (b.accounted a)
  charged := fun freed c => o.charged freed (b.charged freed c)
  settled := fun z => (b.settled z).congr fun _ => o.autogradMeta_eq

theorem graded (b : Backs h₀ h) {leaf g : TensorId} {m : AutogradMeta} (hv : h₀.Visible leaf)
    (hm : h.autogradMeta leaf = some m) (hreq : m.requiresGrad = true)
    (r : Retagged h h' leaf { m with gradient := some g }) (wf' : WellFormed h')
    (hg : ¬h₀.Visible g) : Backs h₀ h' where
  wellFormed := wf'
  tensors := by
    intro id t ht
    obtain ⟨t', ht', heq⟩ := b.tensors id t ht
    rw [r.tensors]
    by_cases hid : id = leaf
    · subst hid
      refine ⟨_, by rw [Heap.get_setMeta, if_pos rfl, ht']; rfl, ?_⟩
      rw [Heap.autogradMeta_of ht'] at hm
      rw [← heq]
      simp only [Tensor.ungraded, hm, Option.map_some]
    · exact ⟨t', by rw [Heap.get_setMeta, if_neg hid]; exact ht', heq⟩
  added := by
    intro id hid
    rw [r.autogradMeta_eq, if_neg]
    · exact b.added id hid
    · rintro rfl
      exact Nat.not_lt.mpr hid hv.1
  visible := by
    intro id hvis
    have hlt := (b.visible id hvis).1
    refine ⟨by rw [r.tensors, Heap.length_setMeta]; exact hlt, fun l hl => ?_⟩
    rw [r.gradient_eq] at hl
    by_cases heq : l = leaf
    · rw [if_pos heq] at hl
      cases hl
      exact hg hvis
    · rw [if_neg heq] at hl
      exact (b.visible id hvis).2 l hl
  contents := by
    intro id hvis
    rw [r.tensors, Heap.contents_setMeta]
    exact b.contents id hvis
  counters := by
    rw [r.tensors]
    exact b.counters
  mutations := by
    rw [r.tensors]
    exact b.mutations
  accounted := by
    intro a
    rw [r.tensors]
    exact (b.accounted a).setMeta _ _
  charged := by
    intro freed c
    rw [r.tensors]
    exact b.charged freed c
  settled := fun z => r.settled (b.settled z) fun hoff => by
    rw [show m.requiresGrad = false from hoff] at hreq
    cases hreq

end Backs

/-- The state of the reverse loop: a gradient for each tensor reached, in a tensor
of its own. -/
structure Sweeping (h₀ h : Heap F) (sweep : Autograd.Sweep F)
    (gradients leaves : TensorId → Option (List F)) : Prop where
  backs : Backs h₀ h
  leaves : h.gradientContents = leaves
  held : ∀ id, (sweep.gradients id).map h.contents = gradients id
  owned : ∀ id g, sweep.gradients id = some g → Owned h g (h₀.dims id)
  scratch : ∀ id g, sweep.gradients id = some g →
    h₀.tensors.length ≤ g ∧ ∀ leaf, h.gradient leaf ≠ some g
  distinct : ∀ id id' g, sweep.gradients id = some g → sweep.gradients id' = some g → id = id'

structure Offered (h₀ h : Heap F) (sweep : Autograd.Sweep F)
    (contribution : Autograd.GradientContribution) (values : List F) : Prop where
  lt : contribution.gradient < h.tensors.length
  dims : h.dims contribution.gradient = h₀.dims contribution.parent
  contents : h.contents contribution.gradient = values
  separate : ∀ id, sweep.gradients id ≠ some contribution.gradient

section Writes
variable {h₀ h h' : Heap F} {sweep : Autograd.Sweep F}
  {gradients leaves : TensorId → Option (List F)}

theorem gradientContents_overwritten {g : TensorId} {values : List F}
    (o : h.Overwritten h' g values) (hfree : ∀ leaf, h.gradient leaf ≠ some g) :
    h'.gradientContents = h.gradientContents := by
  funext leaf
  rw [Heap.gradientContents, Heap.gradientContents, o.gradient_eq]
  cases hg : h.gradient leaf with
  | none => rfl
  | some g' =>
      rw [Option.map_some, Option.map_some, o.contents, Function.update_of_ne]
      rintro rfl
      exact hfree leaf hg

namespace Sweeping

theorem plain (s : Sweeping h₀ h sweep gradients leaves) (p : Plain h h') :
    Sweeping h₀ h' sweep gradients leaves where
  backs := s.backs.plain p
  leaves := by rw [p.gradientContents_eq s.backs.wellFormed, s.leaves]
  held := by
    intro id
    rw [← s.held id]
    cases hg : sweep.gradients id with
    | none => rfl
    | some g =>
        rw [Option.map_some, Option.map_some,
          p.extension.contents s.backs.wellFormed (s.owned id g hg).lt]
  owned := fun id g hg => p.owned s.backs.wellFormed (s.owned id g hg)
  scratch := by
    intro id g hg
    refine ⟨(s.scratch id g hg).1, fun leaf hl => ?_⟩
    rw [p.gradient_eq] at hl
    exact (s.scratch id g hg).2 leaf hl
  distinct := s.distinct

theorem put_fresh (s : Sweeping h₀ h sweep gradients leaves) {id g : TensorId} {values : List F}
    (ho : Owned h g (h₀.dims id)) (hc : h.contents g = values) (hle : h₀.tensors.length ≤ g)
    (hfree : ∀ leaf, h.gradient leaf ≠ some g) (hsep : ∀ id', sweep.gradients id' ≠ some g) :
    Sweeping h₀ h (sweep.put id g) (Function.update gradients id (some values)) leaves where
  backs := s.backs
  leaves := s.leaves
  held := by
    intro id'
    simp only [Autograd.Sweep.put]
    by_cases heq : id' = id
    · subst heq
      rw [Function.update_self, Function.update_self, Option.map_some, hc]
    · rw [Function.update_of_ne heq, Function.update_of_ne heq]
      exact s.held id'
  owned := by
    intro id' g' hg'
    simp only [Autograd.Sweep.put] at hg'
    by_cases heq : id' = id
    · subst heq
      rw [Function.update_self] at hg'
      cases hg'
      exact ho
    · rw [Function.update_of_ne heq] at hg'
      exact s.owned id' g' hg'
  scratch := by
    intro id' g' hg'
    simp only [Autograd.Sweep.put] at hg'
    by_cases heq : id' = id
    · subst heq
      rw [Function.update_self] at hg'
      cases hg'
      exact ⟨hle, hfree⟩
    · rw [Function.update_of_ne heq] at hg'
      exact s.scratch id' g' hg'
  distinct := by
    intro a b g' ha hb
    simp only [Autograd.Sweep.put] at ha hb
    by_cases hai : a = id
    · by_cases hbi : b = id
      · rw [hai, hbi]
      · subst hai
        rw [Function.update_self] at ha
        rw [Function.update_of_ne hbi] at hb
        cases ha
        exact absurd hb (hsep b)
    · rw [Function.update_of_ne hai] at ha
      by_cases hbi : b = id
      · subst hbi
        rw [Function.update_self] at hb
        cases hb
        exact absurd ha (hsep a)
      · rw [Function.update_of_ne hbi] at hb
        exact s.distinct a b g' ha hb

theorem put_overwritten (s : Sweeping h₀ h sweep gradients leaves) {id g : TensorId}
    {values : List F} (hg : sweep.gradients id = some g) (o : h.Overwritten h' g values) :
    Sweeping h₀ h' (sweep.put id g) (Function.update gradients id (some values)) leaves where
  backs := s.backs.overwritten o fun hv =>
    Nat.not_lt.mpr (s.scratch id g hg).1 hv.1
  leaves := by
    rw [gradientContents_overwritten o (s.scratch id g hg).2, s.leaves]
  held := by
    intro id'
    simp only [Autograd.Sweep.put]
    by_cases heq : id' = id
    · subst heq
      rw [Function.update_self, Function.update_self, Option.map_some, o.contents,
        Function.update_self]
    · rw [Function.update_of_ne heq, Function.update_of_ne heq, ← s.held id']
      cases hg' : sweep.gradients id' with
      | none => rfl
      | some g' =>
          rw [Option.map_some, Option.map_some, o.contents, Function.update_of_ne]
          rintro rfl
          exact heq (s.distinct id' id g' hg' hg)
  owned := by
    intro id' g' hg'
    simp only [Autograd.Sweep.put] at hg'
    by_cases heq : id' = id
    · subst heq
      rw [Function.update_self] at hg'
      cases hg'
      exact o.owned (s.owned id' g hg)
    · rw [Function.update_of_ne heq] at hg'
      exact o.owned (s.owned id' g' hg')
  scratch := by
    intro id' g' hg'
    have hold : ∃ i, sweep.gradients i = some g' := by
      simp only [Autograd.Sweep.put] at hg'
      by_cases heq : id' = id
      · subst heq
        rw [Function.update_self] at hg'
        cases hg'
        exact ⟨id', hg⟩
      · rw [Function.update_of_ne heq] at hg'
        exact ⟨id', hg'⟩
    obtain ⟨i, hi⟩ := hold
    refine ⟨(s.scratch i g' hi).1, fun leaf hl => ?_⟩
    rw [o.gradient_eq] at hl
    exact (s.scratch i g' hi).2 leaf hl
  distinct := by
    have hsame : (sweep.put id g).gradients = sweep.gradients := by
      simp only [Autograd.Sweep.put]
      rw [← hg, Function.update_eq_self]
    intro a b g' ha hb
    rw [hsame] at ha hb
    exact s.distinct a b g' ha hb

end Sweeping

end Writes

namespace Autograd
variable [Scalar F] {h₀ h : Heap F} {sweep : Sweep F}
  {gradients leaves : TensorId → Option (List F)}

theorem spec_addInPlace {g source : TensorId} {dims : List Nat} (wf : WellFormed h)
    (ho : Owned h g dims) (hs : source < h.tensors.length) (hd : h.dims source = dims) :
    Spec (addInPlace g source) h
      (fun _ h' => h.Overwritten h' g (addTo (some (h.contents g)) (h.contents source)))
      (fun _ _ => False) (fun h' => h' = h) := by
  obtain ⟨tg, htg⟩ : ∃ t, h.tensors[g]? = some t := ⟨_, List.getElem?_eq_getElem ho.lt⟩
  obtain ⟨ts, hts⟩ : ∃ t, h.tensors[source]? = some t := ⟨_, List.getElem?_eq_getElem hs⟩
  have hlen : (h.contents source).length = (h.contents g).length := by
    rw [wf.length_contents hts, wf.length_contents htg, hd, ho.dims_eq]
  unfold addInPlace
  refine (observes_deref htg).bind rfl ?_
  rintro tg rfl
  refine (observes_deref hts).bind rfl ?_
  rintro ts rfl
  refine spec_failIf_bind (fun hne => ?_) fun _ => ?_
  · have hsame : sameShape tg.shape ts.shape = true := by
      rw [sameShape_iff, ← Heap.dims_of htg, ← Heap.dims_of hts, ho.dims_eq, hd]
    simp [hsame] at hne
  have hcontiguous : tg.isContiguous = true := by
    rw [← Heap.contiguous_of htg]
    exact ho.contiguous wf
  refine Spec.bind ((spec_mutableCpuValues wf htg "autograd_accumulate").mono (fun _ _ hq => hq)
    (fun e h' he => ?_) fun _ hx => hx) ?_
  · rw [hcontiguous] at he
    cases he.2.1
  rintro _ h ⟨rfl, -, rfl, -⟩
  refine (observes_readLogicalCpuValues wf hts "autograd_accumulate").bind rfl ?_
  rintro _ rfl
  refine (observes_checked (fill_eq (fun i => (h.contents g).getD i 0 +
    (h.contents source).getD i 0) fun i hi => ?_)).bind rfl ?_
  · rw [load_of_lt 0 hi, load_of_lt 0 (by omega)]
    rfl
  rintro _ rfl
  refine (observes_deref htg).bind rfl ?_
  rintro tg rfl
  refine spec_modifyHeap _ (Heap.overwritten wf ho htg ?_)
  rw [length_tab, wf.length_contents htg, ho.dims_eq]

omit [Scalar F] in
theorem spec_copyGradient {source : TensorId} (wf : WellFormed h) (hs : source < h.tensors.length) :
    Spec (copyGradient source) h
      (fun r h' => r = h.tensors.length ∧ Plain h h' ∧ Owned h' r (h.dims source) ∧
        h'.contents r = h.contents source)
      (fun _ _ => False) (Plain h) := by
  have ht := List.getElem?_eq_getElem hs
  have hd := wf.dims_valid ht
  have hlen := wf.length_contents ht
  have hfits := wf.fits ht
  refine (spec_cloneDetached wf hs).mono ?_ (fun _ _ he => he) fun _ hx =>
    Plain.idled wf hx
  rintro r _ ⟨rfl, rfl⟩
  exact ⟨rfl, Plain.fresh wf hd hlen hfits, Plain.fresh_owned wf hd hlen hfits,
    contents_pushFresh wf hd hlen hfits (metaPushable_none h _)⟩

theorem spec_deliver (s : Sweeping h₀ h sweep gradients leaves) {c : GradientContribution}
    {values : List F} (hc : Offered h₀ h sweep c values) :
    Spec (deliver sweep c) h
      (fun sweep' h' => Sweeping h₀ h' sweep' (deliverTo gradients (c.parent, values)) leaves ∧
        sweep'.applied = sweep.applied ∧
        ∀ c' values', Offered h₀ h sweep c' values' → Offered h₀ h' sweep' c' values')
      (fun _ _ => False) (fun h' => Backs h₀ h' ∧ h'.gradientContents = leaves) := by
  have wf := s.backs.wellFormed
  have hX : Backs h₀ h ∧ h.gradientContents = leaves := ⟨s.backs, s.leaves⟩
  unfold deliver
  refine (observes_allocate h).bind hX fun _ _ => ?_
  unfold accumulate
  cases hg : sweep.gradients c.parent with
  | none =>
      have hnone : gradients c.parent = none := by rw [← s.held, hg]; rfl
      refine Spec.bind ((spec_copyGradient wf hc.lt).mono (fun _ _ hq => hq)
        (fun _ _ he => he) fun h' hx => ⟨(s.plain hx).backs, (s.plain hx).leaves⟩) ?_
      rintro _ h' ⟨rfl, plain, howned, hcontents⟩
      have s' := s.plain plain
      have hsep : ∀ id', sweep.gradients id' ≠ some h.tensors.length := fun id' h' =>
        Nat.lt_irrefl _ (s.owned id' _ h').lt
      refine spec_pure ⟨?_, rfl, fun c' values' hc' => ?_⟩
      · rw [deliverTo, hnone]
        refine s'.put_fresh ?_ (hcontents.trans hc.contents) s.backs.length_le ?_ hsep
        · rw [← hc.dims]
          exact howned
        · exact (plain.added_visible wf (Nat.le_refl _) howned.lt).2
      · refine ⟨hc'.lt.trans_le plain.extension.length_le, ?_, ?_, fun id => ?_⟩
        · rw [plain.extension.dims hc'.lt, hc'.dims]
        · rw [plain.extension.contents wf hc'.lt, hc'.contents]
        · simp only [Sweep.put]
          by_cases heq : id = c.parent
          · subst heq
            rw [Function.update_self]
            intro h'
            exact Nat.lt_irrefl _ ((Option.some.inj h').symm ▸ hc'.lt)
          · rw [Function.update_of_ne heq]
            exact hc'.separate id
  | some g =>
      have hsome : gradients c.parent = some (h.contents g) := by rw [← s.held, hg]; rfl
      rw [bind_assoc]
      refine Spec.bind ((spec_addInPlace wf (s.owned _ g hg) hc.lt hc.dims).mono
        (fun _ _ hq => hq) (fun _ _ he => he) fun h' hx => hx ▸ hX) ?_
      rintro _ h' o
      refine spec_pure ⟨?_, rfl, fun c' values' hc' => ?_⟩
      · rw [deliverTo, hsome, ← hc.contents]
        exact s.put_overwritten hg o
      · refine ⟨by rw [o.tensors]; exact hc'.lt, ?_, ?_, fun id => ?_⟩
        · rw [← hc'.dims]
          simp only [Heap.dims, o.tensors]
        · rw [o.contents, Function.update_of_ne, hc'.contents]
          exact fun heq => hc'.separate c.parent (heq ▸ hg)
        · simp only [Sweep.put]
          by_cases heq : id = c.parent
          · subst heq
            rw [Function.update_self, ← hg]
            exact hc'.separate c.parent
          · rw [Function.update_of_ne heq]
            exact hc'.separate id

end Autograd

section Publication
variable {h₀ h h' : Heap F} {sweep : Autograd.Sweep F}
  {gradients leaves : TensorId → Option (List F)}

theorem Sweeping.graded (s : Sweeping h₀ h sweep gradients leaves) {leaf g : TensorId}
    {m : AutogradMeta} (hv : h₀.Visible leaf) (hm : h.autogradMeta leaf = some m)
    (hreq : m.requiresGrad = true) (hnode : m.gradFn = none) (hleaf : m.isLeaf = true)
    (ho : Owned h g (h₀.dims leaf))
    (hle : h₀.tensors.length ≤ g) (hfree : ∀ l, h.gradient l ≠ some g)
    (hsep : ∀ id, sweep.gradients id ≠ some g) :
    Sweeping h₀ (h.setMeta leaf (some { m with gradient := some g })) sweep gradients
      (Function.update leaves leaf (some (h.contents g))) := by
  have hvis := s.backs.visible leaf hv
  have hgl : g ≠ leaf := fun heq => Nat.not_lt.mpr hle (heq ▸ hv.1)
  have hfn : h.gradFn leaf = none := by rw [Heap.gradFn, hm, Option.bind_some, hnode]
  have r : Retagged h (h.setMeta leaf (some { m with gradient := some g })) leaf
      { m with gradient := some g } := ⟨rfl, hvis.1, hnode.trans hfn.symm⟩
  have wf' := r.wellFormed s.backs.wellFormed hvis hfn hleaf (by
    rintro g' hg'
    cases hg'
    rw [s.backs.dims_eq hv.1]
    exact ⟨ho, hgl, fun l hl => absurd hl (hfree l)⟩)
  exact {
    backs := s.backs.graded hv hm hreq r wf' fun hvg => Nat.not_lt.mpr hle hvg.1
    leaves := by
      funext l
      rw [Heap.gradientContents, r.gradient_eq]
      by_cases hl : l = leaf
      · subst hl
        rw [if_pos rfl, Function.update_self, Option.map_some, Heap.contents_setMeta]
      · rw [if_neg hl, Function.update_of_ne hl, ← s.leaves, Heap.gradientContents]
        congr 1
        funext i
        exact Heap.contents_setMeta i
    held := by
      intro id
      rw [← s.held id]
      congr 1
      funext i
      exact Heap.contents_setMeta i
    owned := fun id g' hg' => r.owned (s.owned id g' hg') fun heq =>
      Nat.not_lt.mpr (s.scratch id g' hg').1 (heq ▸ hv.1)
    scratch := by
      intro id g' hg'
      refine ⟨(s.scratch id g' hg').1, fun l hl => ?_⟩
      rw [r.gradient_eq] at hl
      by_cases heq : l = leaf
      · rw [if_pos heq] at hl
        cases hl
        exact hsep id hg'
      · rw [if_neg heq] at hl
        exact (s.scratch id g' hg').2 l hl
    distinct := s.distinct }

theorem Sweeping.stored (s : Sweeping h₀ h sweep gradients leaves) {leaf g : TensorId}
    {values : List F} (hg : h.gradient leaf = some g) (o : h.Overwritten h' g values) :
    Sweeping h₀ h' sweep gradients (Function.update leaves leaf (some values)) where
  backs := s.backs.overwritten o fun hv => (s.backs.visible g hv).2 leaf hg
  leaves := by
    funext l
    rw [Heap.gradientContents, o.gradient_eq]
    by_cases hl : l = leaf
    · subst hl
      rw [hg, Function.update_self, Option.map_some, o.contents, Function.update_self]
    · rw [Function.update_of_ne hl, ← s.leaves, Heap.gradientContents]
      cases hg' : h.gradient l with
      | none => rfl
      | some g' =>
          rw [Option.map_some, Option.map_some, o.contents, Function.update_of_ne]
          rintro rfl
          exact hl (s.backs.wellFormed.unique l leaf g' hg' hg)
  held := by
    intro id
    rw [← s.held id]
    cases hg' : sweep.gradients id with
    | none => rfl
    | some g' =>
        rw [Option.map_some, Option.map_some, o.contents, Function.update_of_ne]
        rintro rfl
        exact (s.scratch id g' hg').2 leaf hg
  owned := fun id g' hg' => o.owned (s.owned id g' hg')
  scratch := by
    intro id g' hg'
    refine ⟨(s.scratch id g' hg').1, fun l hl => ?_⟩
    rw [o.gradient_eq] at hl
    exact (s.scratch id g' hg').2 l hl
  distinct := s.distinct

theorem Autograd.spec_accumulateLeaf [Scalar F] (s : Sweeping h₀ h sweep gradients leaves)
    {leaf upstream : TensorId} {m : AutogradMeta} (hv : h₀.Visible leaf)
    (hm : h.autogradMeta leaf = some m) (hreq : m.requiresGrad = true) (hnode : m.gradFn = none)
    (hleaf : m.isLeaf = true) (hup : sweep.gradients leaf = some upstream) :
    Spec (accumulateLeaf leaf upstream) h
      (fun _ h' => Sweeping h₀ h' sweep gradients
        (Function.update leaves leaf (some (addTo (leaves leaf) (h.contents upstream)))))
      (fun _ _ => False) (fun h' => Backs h₀ h' ∧ h'.gradientContents = leaves) := by
  have wf := s.backs.wellFormed
  have hX : Backs h₀ h ∧ h.gradientContents = leaves := ⟨s.backs, s.leaves⟩
  have hup' := s.owned leaf upstream hup
  obtain ⟨t, ht⟩ := (s.backs.visible leaf hv).get
  have hmeta : t.autogradMeta = some m := by rw [← Heap.autogradMeta_of ht, hm]
  unfold accumulateLeaf
  refine (observes_deref ht).bind hX ?_
  rintro t rfl
  simp only [hmeta]
  cases hg : m.gradient with
  | none =>
      have hnone : leaves leaf = none := by
        rw [← s.leaves, Heap.gradientContents, Heap.gradient, hm, Option.bind_some, hg]
        rfl
      unfold accumulate
      refine Spec.bind ((spec_copyGradient wf hup'.lt).mono (fun _ _ hq => hq)
        (fun _ _ he => he) fun h' hx => ⟨(s.plain hx).backs, (s.plain hx).leaves⟩) ?_
      rintro _ h' ⟨rfl, plain, howned, hcontents⟩
      have s' := s.plain plain
      have hsep : ∀ id, sweep.gradients id ≠ some h.tensors.length := fun id h' =>
        Nat.lt_irrefl _ (s.owned id _ h').lt
      have hm' : h'.autogradMeta leaf = some m := by rw [plain.autogradMeta_eq, hm]
      obtain ⟨t', ht'⟩ := (s'.backs.visible leaf hv).get
      unfold setAutogradMeta
      refine (observes_deref ht').bind ⟨s'.backs, s'.leaves⟩ fun _ _ => ?_
      refine spec_modifyHeap _ ?_
      rw [hnone, addTo, ← hcontents]
      rw [hup'.dims_eq] at howned
      exact s'.graded hv hm' hreq hnode hleaf howned s.backs.length_le
        (plain.added_visible wf (Nat.le_refl _) howned.lt).2 hsep
  | some g =>
      have hstored : h.gradient leaf = some g := by
        rw [Heap.gradient, hm, Option.bind_some, hg]
      have hsome : leaves leaf = some (h.contents g) := by
        rw [← s.leaves, Heap.gradientContents, hstored]
        rfl
      have ho := wf.owned leaf g hstored
      have hd : h.dims upstream = h.dims leaf := by
        rw [hup'.dims_eq, s.backs.dims_eq hv.1]
      unfold accumulate
      rw [bind_assoc]
      refine Spec.bind ((spec_addInPlace wf ho hup'.lt hd).mono (fun _ _ hq => hq)
        (fun _ _ he => he) fun h' hx => hx ▸ hX) ?_
      rintro _ h' o
      have s' := s.stored hstored o
      have hm' : h'.autogradMeta leaf = some m := by rw [o.autogradMeta_eq, hm]
      obtain ⟨t', ht'⟩ := (s'.backs.visible leaf hv).get
      rw [pure_bind]
      unfold setAutogradMeta
      refine Spec.bind ((spec_deref ht').mono (fun _ _ hq => hq) (fun _ _ he => he)
        fun _ hx => hx.elim) ?_
      rintro _ _ ⟨rfl, -⟩
      refine spec_modifyHeap _ ?_
      rw [show { m with gradient := some g } = m by rw [← hg], Heap.setMeta_self hm', hsome]
      exact s'

end Publication

end Tensora
