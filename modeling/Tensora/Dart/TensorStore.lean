import Tensora.Dart.TensorSpecs

/-! The tensor objects of a program as values. Every object that is not disposed holds the one
handle the native library has of its tensor, and no handle is left over. -/
namespace Tensora.Dart
open ProgramLogic Training
open Adoption (Handle Thrown DartDevice Host HostM Wrapper onNative attempt)
open Api (Views Gave Idle)

variable {F D α : Type}

/-- The dimensions and the elements of a tensor object, unless it is disposed. -/
abbrev Store (F : Type) := List (Option (List Nat × List F))

structure Stands (s : Runtime F D) (wrapper : Wrapper) (value : List Nat × List F) : Prop where
  owns : wrapper.Owns wrapper.handle
  views : Views s wrapper.handle value
  shape : wrapper.shape = ⟨value.1.map Int64.ofNat, Int64.ofNat value.1.prod⟩
  dtype : wrapper.dtype = .float32
  device : wrapper.device = ⟨.cpu, 0⟩

def Represented (s : Runtime F D) (wrapper : Wrapper) : Option (List Nat × List F) → Prop
  | some value => Stands s wrapper value
  | none => wrapper.Gone

def owned (tensors : List Wrapper) : List Handle :=
  tensors.filterMap fun wrapper => if wrapper.disposed then none else some wrapper.handle

/-- The tensor objects are these values, and the native library has one handle for each that is
not disposed and for each of `loose`, and no other. -/
structure Represents (held : HandleType → List Handle) (store : Store F) (loose : List Handle)
    (s : Host (Process F D)) : Prop where
  ok : s.native.runtime.Ok
  objects : List.Forall₂ (Represented s.native.runtime) s.tensors store
  holds : s.native.runtime.registry.Holds .tensor (loose ++ owned s.tensors)
  others : ∀ type, type ≠ .tensor → s.native.runtime.registry.Holds type (held type)
  keys : (s.native.runtime.registry.entries.map Prod.fst).Nodup

theorem represents_initial (fails callocFails : Nat → Bool) (files : FileSystem) :
    Represents (fun _ => []) [] [] (initialHost fails callocFails files : Host (Process F D)) where
  ok := Api.ok_initial fails files
  objects := .nil
  holds := HandleRegistry.holds_initial .tensor
  others := fun type _ => HandleRegistry.holds_initial type
  keys := List.nodup_nil

theorem owned_append (xs ys : List Wrapper) : owned (xs ++ ys) = owned xs ++ owned ys :=
  List.filterMap_append

theorem mem_owned {tensors : List Wrapper} {handle : Handle} : handle ∈ owned tensors ↔
    ∃ wrapper ∈ tensors, wrapper.disposed = false ∧ wrapper.handle = handle := by
  simp only [owned, List.mem_filterMap]
  refine exists_congr fun wrapper => and_congr_right fun _ => ?_
  cases wrapper.disposed <;> simp

section Frame
variable {held : HandleType → List Handle} {store : Store F} {loose : List Handle}
  {s s' : Host (Process F D)} {handle : Handle}

theorem Represents.objects_of (r : Represents held store loose s) {s' : Runtime F D}
    (p : Preserves s.native.runtime s')
    (hfind : ∀ handle ∈ owned s.tensors,
      s'.registry.find handle = s.native.runtime.registry.find handle) :
    List.Forall₂ (Represented s') s.tensors store := by
  refine List.forall₂_iff_get.mpr ⟨r.objects.length_eq, fun i hi hi' => ?_⟩
  have hobject := (List.forall₂_iff_get.mp r.objects).2 i hi hi'
  cases hvalue : store.get ⟨i, hi'⟩ with
  | none =>
      rw [hvalue] at hobject
      exact hobject
  | some value =>
      rw [hvalue] at hobject
      obtain ⟨howns, hviews, hshape, hdtype, hdevice⟩ := hobject
      refine ⟨howns, p.views r.ok (hfind _ ?_) hviews, hshape, hdtype, hdevice⟩
      exact mem_owned.mpr ⟨_, List.get_mem _ _, howns.live, rfl⟩

theorem Represents.idle (r : Represents held store loose s) {native : Process F D}
    (h : Idle s.native.runtime native.runtime) :
    Represents held store loose { s with native := native } where
  ok := h.preserves.ok
  objects := r.objects_of h.preserves fun handle _ => by
    rw [HandleRegistry.find_congr h.entries]
  holds := r.holds.of_entries h.entries
  others := fun type hne => (r.others type hne).of_entries h.entries
  keys := by rw [h.entries]; exact r.keys

theorem Represents.of_eq (r : Represents held store loose s) (htensors : s'.tensors = s.tensors)
    (hruntime : s'.native.runtime = s.native.runtime) : Represents held store loose s' where
  ok := by rw [hruntime]; exact r.ok
  objects := by rw [hruntime, htensors]; exact r.objects
  holds := by rw [hruntime, htensors]; exact r.holds
  others := by rw [hruntime]; exact r.others
  keys := by rw [hruntime]; exact r.keys

theorem Represents.gave (r : Represents held store loose s) {P : List Nat × List F → Prop}
    {native : Process F D} (h : Gave P s.native.runtime handle native.runtime) :
    Represents held store (handle :: loose) { s with native := native } where
  ok := h.preserves.ok
  objects := r.objects_of h.preserves fun handle' hmem => by
    obtain ⟨object, hfind⟩ := r.holds.once handle' (List.mem_append_right _ hmem)
    exact (h.issued.find handle').2 (h.issued.ne_of_find hfind)
  holds := r.holds.issued h.issued
  others := fun type hne => (r.others type hne).issued_other h.issued hne.symm
  keys := h.issued.keys r.keys

theorem Represents.adopted (r : Represents held store (handle :: loose) s) {wrapper : Wrapper}
    {value : List Nat × List F} (hstands : Stands s.native.runtime wrapper value)
    (hhandle : wrapper.handle = handle) (htensors : s'.tensors = s.tensors ++ [wrapper])
    (hruntime : s'.native.runtime = s.native.runtime) :
    Represents held (store ++ [some value]) loose s' where
  ok := by rw [hruntime]; exact r.ok
  objects := by
    rw [hruntime, htensors]
    exact List.rel_append r.objects (.cons hstands .nil)
  holds := by
    rw [hruntime, htensors, owned_append]
    refine r.holds.perm ?_
    have hlast : owned [wrapper] = [handle] := by
      simp [owned, hstands.owns.live, hhandle]
    rw [hlast, ← List.append_assoc]
    exact (List.perm_append_singleton handle (loose ++ owned s.tensors)).symm
  others := by rw [hruntime]; exact r.others
  keys := by rw [hruntime]; exact r.keys

theorem forall₂_set {β : Type} {R : α → β → Prop} {xs : List α} {ys : List β}
    (h : List.Forall₂ R xs ys) (i : Nat) {a : α} {b : β} (hab : R a b) :
    List.Forall₂ R (xs.set i a) (ys.set i b) := by
  induction h generalizing i with
  | nil => exact .nil
  | cons hfirst hrest ih =>
      cases i with
      | zero => exact .cons hab hrest
      | succ i => exact .cons hfirst (ih i)

theorem owned_set {tensors : List Wrapper} {tensor : Nat} {wrapper : Wrapper}
    (hget : tensors[tensor]? = some wrapper) (hlive : wrapper.disposed = false) :
    (owned tensors).Perm (wrapper.handle :: owned (tensors.set tensor wrapper.detached)) := by
  induction tensors generalizing tensor with
  | nil => cases hget
  | cons first rest ih =>
      cases tensor with
      | zero =>
          cases hget
          simp [owned, hlive, Wrapper.detached]
      | succ tensor =>
          have hrest := ih hget
          rw [List.set_cons_succ]
          cases hfirst : first.disposed with
          | true => simpa [owned, hfirst] using hrest
          | false =>
              have hcons : ∀ tensors, owned (first :: tensors) = first.handle :: owned tensors := by
                intro tensors
                simp [owned, hfirst]
              rw [hcons, hcons]
              exact (hrest.cons first.handle).trans (List.Perm.swap _ _ _)

theorem Represents.detached (r : Represents held store loose s) {tensor : Nat} {wrapper : Wrapper}
    (hget : s.tensors[tensor]? = some wrapper) (hlive : wrapper.disposed = false) :
    Represents held (store.set tensor none) (wrapper.handle :: loose)
      { s with tensors := s.tensors.set tensor wrapper.detached } where
  ok := r.ok
  objects := forall₂_set r.objects tensor ⟨rfl, rfl⟩
  holds := r.holds.perm (((owned_set hget hlive).append_left loose).trans List.perm_middle)
  others := r.others
  keys := r.keys

end Frame

section Handles
variable [Scalar F] [Scalar D] [Precision F D] [FloatBits F]
variable {held : HandleType → List Handle} {store : Store F} {loose : List Handle}
  {s : Host (Process F D)} {handle : Handle}

omit [Scalar F] [Scalar D] [Precision F D] [FloatBits F] in
theorem wp_onNative_iff {x : DartM F D α} {Q : α → Host (Process F D) → Prop}
    {E : Thrown → Host (Process F D) → Prop} :
    wp (onNative x) Q E s ↔ wp x (fun a native => Q a { s with native := native })
      (fun thrown native => E thrown { s with native := native }) s.native := by
  unfold wp onNative
  cases x s.native <;> rfl

theorem Represents.release (r : Represents held store (handle :: loose) s) :
    wp (NativeRuntime.release handle : DartM F D (Api.Reply F))
      (fun _ native => Represents held store loose { s with native := native }) (fun _ _ => False)
      s.native := by
  have hholds : s.native.runtime.registry.Holds .tensor
      (handle :: (loose ++ owned s.tensors)) := r.holds
  have hnotin := (List.nodup_cons.mp hholds.distinct).1
  have hpreserves : wp (Api.exec (.tensorRelease handle : Api.Call F D))
      (fun _ => Preserves s.native.runtime) (fun _ => Preserves s.native.runtime)
      s.native.runtime := Api.preserves_exec r.ok rfl
  have hrelease : wp (Api.exec (.tensorRelease handle : Api.Call F D))
      (fun _ s' => s'.registry = s.native.runtime.registry.erase handle ∧
        s'.registry.Holds .tensor (loose ++ owned s.tensors)) (fun _ _ => False)
      s.native.runtime := by
    refine wp_seq (P := fun _ s' => s'.registry = s.native.runtime.registry.erase handle ∧
      s'.registry.Holds .tensor (loose ++ owned s.tensors)) (R := fun _ _ => False) ?_
      (fun _ _ h => h) fun _ s' h => (wp_pure _ _ _ _).mpr h
    rw [wp_onRegistry]
    exact wp_mono hholds.release (fun _ _ h => h) fun _ _ h => h
  refine wp_check _ _ (wp_mono (wp_and hrelease hpreserves) ?_ fun _ _ h => h.1.elim)
  intro reply s' h
  refine ⟨h.2.ok, r.objects_of h.2 fun handle' hmem => ?_, h.1.2, fun type hne => ?_, ?_⟩
  · rw [h.1.1, HandleRegistry.find_erase, if_neg]
    intro heq
    exact hnotin (heq ▸ List.mem_append_right _ hmem)
  · obtain ⟨object, hfind⟩ := hholds.once handle List.mem_cons_self
    rw [h.1.1]
    exact (r.others type hne).erase_other hfind hne.symm
  · rw [h.1.1]
    exact r.keys.sublist (HandleRegistry.keys_erase _ _)

/-- Whether its failure is thrown or not, such a release has none, whatever becomes of the
objects. -/
theorem Represents.wp_callRelease (tensors : List Wrapper)
    (r : Represents held store (handle :: loose) { s with tensors := tensors }) (checked : Bool) :
    wp (runtime.callRelease handle checked) (fun failure s' => failure = none ∧
        s'.tensors = s.tensors ∧ Represents held store loose { s' with tensors := tensors })
      (fun _ _ => False) s := by
  obtain ⟨reply, native, hrun, hafter⟩ := ok_of_wp r.release
  unfold wp Adoption.NativeRuntime.callRelease runtime
  simp only [hrun]
  exact ⟨trivial, trivial, hafter.of_eq rfl rfl⟩

theorem Represents.wp_release (tensors : List Wrapper)
    (r : Represents held store (handle :: loose) { s with tensors := tensors }) :
    wp (runtime.release handle) (fun _ s' => s'.tensors = s.tensors ∧
        Represents held store loose { s' with tensors := tensors })
      (fun _ _ => False) s := by
  unfold Adoption.NativeRuntime.release
  refine wp_seq (r.wp_callRelease tensors true) (fun _ _ h => h) fun failure s' h => ?_
  obtain ⟨rfl, h⟩ := h
  exact h

theorem Represents.wp_releaseFromFinalizer (r : Represents held store (handle :: loose) s) :
    wp (runtime.releaseFromFinalizer handle) (fun _ => Represents held store loose)
      (fun _ _ => False) s := by
  unfold Adoption.NativeRuntime.releaseFromFinalizer
  refine wp_seq (Represents.wp_callRelease s.tensors r false) (fun _ _ h => h) ?_
  intro failure s' h
  exact h.2.2.of_eq h.2.1 rfl

theorem Represents.wp_adopt (r : Represents held store (handle :: loose) s)
    {value : List Nat × List F} (hviews : Views s.native.runtime handle value) :
    wp (runtime.adopt handle)
      (fun tensor s' => tensor = store.length ∧ Represents held (store ++ [some value]) loose s')
      (fun _ => Represents held store loose) s := by
  have reads : ∀ {β : Type} {x : DartM F D β} {a : β} {s₁ : Host (Process F D)},
      s₁.tensors = s.tensors ∧ s₁.native.runtime = s.native.runtime →
      (∀ p : Process F D, p.runtime = s.native.runtime → Reads x a p) →
      wp (onNative x) (fun b s₂ => b = a ∧ s₂.tensors = s.tensors ∧
          s₂.native.runtime = s.native.runtime)
        (fun _ s₂ => s₂.tensors = s.tensors ∧ s₂.native.runtime = s.native.runtime) s₁ := by
    intro β x a s₁ h₁ hx
    rw [wp_onNative_iff]
    exact wp_mono (hx s₁.native h₁.2) (fun _ _ h => ⟨h.1, h₁.1, h.2.trans h₁.2⟩)
      fun _ _ h => ⟨h₁.1, h.trans h₁.2⟩
  have live : ∀ p : Process F D, p.runtime = s.native.runtime →
      p.runtime.Ok ∧ Views p.runtime handle value := by
    intro p hp
    rw [hp]
    exact ⟨r.ok, hviews⟩
  unfold Adoption.NativeRuntime.adopt
  refine wp_tryCatch (P := fun _ s₁ => s₁.tensors = s.tensors ∧
    s₁.native.runtime = s.native.runtime) ?_ ?_
  · refine wp_seq (reads ⟨rfl, rfl⟩ fun p hp => reads_shape (live p hp).1 (live p hp).2)
      (fun _ _ h => h) fun shape s₁ h₁ => ?_
    refine wp_seq (reads h₁.2 fun p hp => reads_dtype (live p hp).1 (live p hp).2)
      (fun _ _ h => h) fun dtype s₂ h₂ => ?_
    refine wp_seq (reads h₂.2 fun p hp => reads_device (live p hp).1 (live p hp).2)
      (fun _ _ h => h) fun device s₃ h₃ => ?_
    refine wp_seq (reads h₃.2 fun p hp => reads_numel (live p hp).1 (live p hp).2)
      (fun _ _ h => h) fun numel s₄ h₄ => ?_
    rw [h₁.1, h₂.1, h₃.1, h₄.1]
    dsimp only
    rw [if_neg (not_not.mpr rfl)]
    have hstands : Stands s.native.runtime ⟨handle, ⟨value.1.map Int64.ofNat,
        Int64.ofNat value.1.prod⟩, .float32, ⟨.cpu, 0⟩, false, true⟩ value :=
      ⟨⟨rfl, rfl, rfl⟩, hviews, rfl, rfl, rfl⟩
    refine ⟨?_, r.adopted hstands rfl (congrArg (· ++ _) h₄.2.1) h₄.2.2⟩
    exact (congrArg List.length h₄.2.1).trans r.objects.length_eq
  · intro thrown s₁ h₁
    rw [wp_bind]
    refine wp_mono (r.of_eq h₁.1 h₁.2).wp_releaseFromFinalizer (fun _ _ h => h) fun _ _ h => h.elim

omit [Scalar F] [Scalar D] [Precision F D] [FloatBits F] in
theorem Represents.object (r : Represents held store loose s) {tensor : Nat} {wrapper : Wrapper}
    (hget : s.tensors[tensor]? = some wrapper) :
    ∃ value, store[tensor]? = some value ∧ Represented s.native.runtime wrapper value := by
  have hobjects := List.forall₂_iff_get.mp r.objects
  obtain ⟨hlt, rfl⟩ := List.getElem?_eq_some_iff.mp hget
  have hstore : tensor < store.length := hobjects.1 ▸ hlt
  exact ⟨_, List.getElem?_eq_getElem hstore, hobjects.2 tensor hlt hstore⟩

omit [Scalar F] [Scalar D] [Precision F D] [FloatBits F] in
theorem Represents.wp_ensureLive (r : Represents held store loose s) (operation : String)
    (tensor : Nat) :
    wp (DartTensor.ensureLive operation tensor)
      (fun wrapper s' => s' = s ∧ ∃ value, store[tensor]? = some (some value) ∧
        Views s.native.runtime wrapper.handle value ∧
        wrapper.shape.numel = Int64.ofNat value.1.prod)
      (fun _ s' => s' = s) s := by
  unfold DartTensor.ensureLive
  rw [wp_bind, wp_get]
  cases hget : s.tensors[tensor]? with
  | none => exact (wp_throw _ _ _ _).mpr rfl
  | some wrapper =>
      obtain ⟨value, hstore, hobject⟩ := r.object hget
      cases value with
      | none =>
          have hgone : wrapper.Gone := hobject
          simp only [hgone.disposed, if_true]
          exact (wp_throw _ _ _ _).mpr rfl
      | some value =>
          have hstands : Stands s.native.runtime wrapper value := hobject
          simp only [hstands.owns.live, Bool.false_eq_true, if_false]
          exact ⟨rfl, value, hstore, hstands.views, by rw [hstands.shape]⟩

theorem Represents.wp_dispose (r : Represents held store loose s) {tensor : Nat}
    (htensor : tensor < store.length) :
    wp (DartTensor.dispose tensor) (fun _ => Represents held (store.set tensor none) loose)
      (fun _ _ => False) s := by
  have hlt : tensor < s.tensors.length := r.objects.length_eq ▸ htensor
  have hget := List.getElem?_eq_getElem hlt
  obtain ⟨value, hstore, hobject⟩ := r.object hget
  unfold DartTensor.dispose Adoption.NativeRuntime.dispose
  rw [wp_bind, wp_get, hget]
  cases value with
  | none =>
      have hgone : s.tensors[tensor].Gone := hobject
      simp only [hgone.disposed, if_true]
      obtain ⟨_, hnone⟩ := List.getElem?_eq_some_iff.mp hstore
      rw [← hnone, List.set_getElem_self]
      exact r
  | some value =>
      have hstands : Stands s.native.runtime s.tensors[tensor] value := hobject
      have hlive := hstands.owns.live
      simp only [hlive, Bool.false_eq_true, if_false]
      refine wp_seq ((r.detached hget hlive).wp_release _) (fun _ _ h => h) fun _ s₁ h₁ => ?_
      rw [wp_modify, h₁.1]
      exact h₁.2

omit [Scalar F] [Scalar D] [Precision F D] [FloatBits F] in
theorem tensors_absent (r : Represents held store loose s) {tensor : Nat}
    (htensor : ¬tensor < store.length) : s.tensors[tensor]? = none :=
  List.getElem?_eq_none (r.objects.length_eq ▸ Nat.not_lt.mp htensor)

theorem Represents.wp_dispose_absent (r : Represents held store loose s) {tensor : Nat}
    (htensor : ¬tensor < store.length) :
    wp (DartTensor.dispose tensor) (fun _ _ => False) (fun _ => Represents held store loose) s := by
  unfold DartTensor.dispose Adoption.NativeRuntime.dispose
  rw [wp_bind, wp_get, tensors_absent r htensor]
  exact (wp_throw _ _ _ _).mpr r

end Handles

end Tensora.Dart
