import Tensora.Api.Runs
import Tensora.Api.Sample
import Tensora.Training.OperationPaths
import Tensora.Training.SampleTorch

/-! Gradient connectivity over runs of either build: a backward pass gives a gradient to
every leaf its root was computed from through operands that required grad, in every run
in which no such operand was copied out of CPU storage into LibTorch. -/
namespace Tensora.Bridge
open Relation ProgramLogic Training

section Calls
variable {F D : Type} [Scalar F] [Scalar D] [Precision F D] {lib : LibTorch F} {w : World lib}

omit [Scalar F] in
theorem wp_quiet_onMemory {α : Type} {program : Mem F α} {P : α → Heap F → Prop}
    {R : Failure → Heap F → Prop} {X : Heap F → Prop} (hx : Spec program w.heap P R X)
    (hP : ∀ a h, P a h → Evolves w.heap h) (hR : ∀ e h, R e h → Evolves w.heap h)
    (hX : ∀ h, X h → Evolves w.heap h) :
    wp (onMemory program) (fun _ w' => w.Quiet w') (fun _ w' => w.Quiet w') w :=
  wp_onMemory hx (fun a _ h => ⟨hP a _ h, LibTorch.Grows.refl _⟩) fun e _ h =>
    ⟨h.elim (hR e _) (hX _), LibTorch.Grows.refl _⟩

theorem quiet_fromData (D : Type) [Scalar D] [Precision F D] (wf : WellFormed w.heap)
    {shape : ShapeInfo} {data : List F} (hs : shape.Canonical) (hlen : data.length = shape.numel) :
    wp (fromData lib shape data) (fun _ w' => w.Quiet w') (fun _ w' => w.Quiet w') w := by
  unfold fromData
  rw [wp_map]
  exact wp_quiet_onMemory (CpuBackend.makes_fromData (D := D) wf hs hlen)
    (fun _ _ h => h.1.evolves wf) (fun _ _ h => h.evolves wf) fun _ h => h.evolves wf

omit [Scalar F] in
theorem quiet_setRequiresGrad (doc : lib.Documented) (wf : WellFormed w.heap)
    {t : TensorObject lib} (ht : w.Holds t.node) (flag : Bool) :
    wp (setRequiresGrad t flag) (fun _ w' => w.Quiet w') (fun _ w' => w.Quiet w') w := by
  cases t with
  | cpu id =>
      refine wp_quiet_onMemory (spec_setRequiresGrad (fun _ => True) wf ht flag)
        (fun _ _ h => h.unrecorded.evolves) ?_ ?_
      · rintro _ _ rfl
        exact Evolves.refl wf
      · rintro _ rfl
        exact Evolves.refl wf
  | torch t =>
      have hgrown : ∀ s, lib.Grows w.torch s → w.Quiet { w with torch := s } := fun s g =>
        ⟨Evolves.refl wf, g⟩
      unfold setRequiresGrad
      simp only [wp_bind, wp_get, wp_failIf]
      refine ⟨fun _ => World.Quiet.refl wf, fun hleaf => ?_⟩
      have hleaf' : lib.isLeaf w.torch t.value = true := by simpa using hleaf
      refine wp_onTorch (doc.setRequiresGrad t.value flag w.torch ht hleaf') ?_
        fun _ s g => hgrown s g
      rintro _ s ⟨g, -⟩
      refine wp_ite (fun _ => ?_) fun _ => hgrown s g
      refine wp_onTorch (doc.resetGradient t.value s (g.live _ ht)) ?_ ?_
      · exact fun _ s' e => hgrown s' (g.trans e.grows)
      · exact fun _ s' e => hgrown s' (g.trans e.grows)

theorem wp_backward (doc : lib.Documented) (wf : WellFormed w.heap) {root : TensorObject lib}
    (hroot : w.Holds root.node) : wp (backward root)
      (fun _ w' => w.Quiet w' ∧ ∀ leaf, w.Reaches root.node leaf → w.isLeaf leaf = true →
        w.requiresGrad leaf = true → w'.hasGradient leaf = true)
      (fun _ w' => w.Quiet w') w := by
  cases root with
  | cpu id =>
      refine wp_onMemory (spec_backward_delivers wf hroot) ?_ ?_
      · rintro _ m ⟨he, hleaves⟩
        refine ⟨⟨he, LibTorch.Grows.refl _⟩, fun leaf hreach hleaf hreq => ?_⟩
        obtain ⟨p, rfl, hpath⟩ := World.reaches_cpu hreach
        exact hleaves p hpath hleaf hreq
      · exact fun _ m he => ⟨he.elim (fun h => h) fun h => h, LibTorch.Grows.refl _⟩
  | torch t =>
      unfold backward
      simp only [wp_bind, wp_get, wp_failIf]
      refine ⟨fun _ => World.Quiet.refl wf, fun _ => ⟨fun _ => World.Quiet.refl wf, fun _ => ?_⟩⟩
      refine wp_onTorch (doc.backward t.value w.torch hroot) ?_ ?_
      · rintro _ s ⟨he, hleaves⟩
        refine ⟨⟨Evolves.refl wf, he.grows⟩, fun leaf hreach hleaf hreq => ?_⟩
        obtain ⟨o, rfl, hpath⟩ := World.reaches_torch hreach
        exact hleaves o hpath hleaf hreq
      · exact fun _ s g => ⟨Evolves.refl wf, g⟩

end Calls

structure Event {F : Type} (lib : LibTorch F) where
  operation : Operation lib
  before : World lib
  after : World lib
  result : TensorObject lib

namespace Event
variable {F : Type} {lib : LibTorch F}

/-- What is asked of a call: the result requires grad exactly when an operand does, and
leads to each that does. -/
def Connects (e : Event lib) : Prop :=
  Bridge.Connects e.before e.after e.operation.operands e.result.node

/-- No operand that requires grad is copied out of CPU storage into LibTorch. -/
def Attached (build : Build) (e : Event lib) : Prop :=
  ∀ id ∈ e.operation.converted build, e.before.heap.requiresGrad id = false

end Event

section Runs
variable {F : Type} (D : Type) [Scalar F] [Scalar D] [Precision F D] {lib : LibTorch F}

def World.initial (lib : LibTorch F) (fails : Nat → Bool) : World lib where
  memory := { heap := Heap.empty F, allocator := { count := 0, fails := fails } }
  torch := lib.start

/-- A run and the differentiable calls that returned in it. Whatever other calls do in
between, tensors keep their place in the graph. -/
inductive Run (build : Build) : List (Event lib) → World lib → Prop where
  | start (fails : Nat → Bool) : Run build [] (World.initial lib fails)
  | call {events : List (Event lib)} {w w' : World lib} {operation : Operation lib}
      {result : TensorObject lib} : Run build events w → operation.Held w →
      exec D build operation w = .ok result w' →
      Run build (events ++ [⟨operation, w, w', result⟩]) w'
  | other {events : List (Event lib)} {w w' : World lib} : Run build events w → w.Quiet w' →
      Run build events w'

/-- What a tensor was computed from, through operands that required grad at the time. -/
def DependsOn (events : List (Event lib)) : Node lib → Node lib → Prop :=
  ReflTransGen fun result operand => ∃ e ∈ events, e.result.node = result ∧
    operand ∈ e.operation.operands ∧ e.before.requiresGrad operand = true

variable {D} {build : Build} {events : List (Event lib)} {w : World lib}

omit [Scalar F] in
theorem wellFormed_initial (fails : Nat → Bool) : WellFormed (World.initial lib fails).heap :=
  Api.wellFormed_empty

theorem Run.settled (doc : lib.Documented) (run : Run D build events w) :
    WellFormed w.heap ∧ ∀ e ∈ events, WellFormed e.after.heap ∧ e.after.Quiet w ∧
      Settled e.before e.operation.operands (e.operation.converted build) e.result.node
        e.after := by
  induction run with
  | start fails => exact ⟨wellFormed_initial fails, fun e he => by cases he⟩
  | @call events w w' operation result _ held hexec ih =>
      obtain ⟨wf, hevents⟩ := ih
      have hrecords := records_exec D doc build operation wf held
      unfold Records at hrecords
      have hsettled : Settled w operation.operands (operation.converted build) result.node w' :=
        wp_of_ok (Q := fun r w' => Settled w operation.operands (operation.converted build)
          r.node w') hrecords hexec
      have wf' : WellFormed w'.heap := hsettled.quiet.heap.wellFormed
      refine ⟨wf', fun e he => ?_⟩
      rcases List.mem_append.mp he with hold | hnew
      · obtain ⟨wfe, hquiet, hs⟩ := hevents e hold
        exact ⟨wfe, hquiet.trans hsettled.quiet, hs⟩
      · obtain rfl := List.mem_singleton.mp hnew
        exact ⟨wf', World.Quiet.refl wf', hsettled⟩
  | other _ hq ih =>
      refine ⟨hq.heap.wellFormed, fun e he => ?_⟩
      obtain ⟨wfe, hquiet, hs⟩ := ih.2 e he
      exact ⟨wfe, hquiet.trans hq, hs⟩

theorem Run.holds (doc : lib.Documented) (run : Run D build events w) (e : Event lib)
    (he : e ∈ events) : w.Holds e.result.node := by
  obtain ⟨-, hquiet, hs⟩ := (run.settled doc).2 e he
  exact hquiet.holds hs.holds

/-- In a run of connected calls, dependence is a path in the recorded graphs. -/
theorem Run.reaches (doc : lib.Documented) (run : Run D build events w)
    (hall : ∀ e ∈ events, e.Connects) {result operand : Node lib}
    (hd : DependsOn events result operand) : w.Reaches result operand := by
  induction hd with
  | refl => exact ReflTransGen.refl
  | tail _ hedge ih =>
      obtain ⟨e, he, rfl, ho, hreq⟩ := hedge
      obtain ⟨wf, hquiet, hs⟩ := (run.settled doc).2 e he
      exact ih.trans (hquiet.reaches doc wf hs.holds ((hall e he).reaches _ ho hreq))

/-- A call connects its result exactly when no operand that requires grad is copied out of
CPU storage into LibTorch. In a run where none ever is, a backward pass that returns has
given a gradient to every leaf that requires grad and that its root depends on. -/
theorem run_connects (doc : lib.Documented) (run : Run D build events w) :
    (∀ e ∈ events, e.Connects ↔ e.Attached build) ∧
    ((∀ e ∈ events, e.Attached build) → ∀ root : TensorObject lib, w.Holds root.node →
      ∀ w', backward root w = .ok () w' → ∀ leaf, DependsOn events root.node leaf →
        w.isLeaf leaf = true → w.requiresGrad leaf = true → w'.hasGradient leaf = true) := by
  obtain ⟨wf, hsettled⟩ := run.settled doc
  have hiff : ∀ e ∈ events, e.Connects ↔ e.Attached build := fun e he =>
    (hsettled e he).2.2.connects
  refine ⟨hiff, fun hattached root hroot w' hback leaf hd hleaf hreq => ?_⟩
  have hpath := run.reaches doc (fun e he => (hiff e he).mpr (hattached e he)) hd
  exact (wp_of_ok (wp_backward doc wf hroot) hback).2 leaf hpath hleaf hreq

/-- The core build copies nothing into LibTorch, so there every call is connected. -/
theorem core_connects (doc : lib.Documented) (run : Run D .core events w) :
    ∀ e ∈ events, e.Connects := by
  intro e he
  obtain ⟨-, hsettled⟩ := run.settled doc
  exact (hsettled e he).2.2.connects.mpr fun id hid => by cases hid

end Runs

section Sample

def after {F α : Type} {lib : LibTorch F} (program : BridgeM lib α) (w : World lib) : World lib :=
  match program w with
  | .ok _ w' => w'
  | .error _ w' => w'

def result? {F α : Type} {lib : LibTorch F} (program : BridgeM lib α) (w : World lib) : Option α :=
  match program w with
  | .ok a _ => some a
  | .error _ _ => none

theorem ok_of_result {F α : Type} {lib : LibTorch F} {program : BridgeM lib α} {w : World lib}
    (h : (result? program w).isSome = true) :
    program w = .ok ((result? program w).get h) (after program w) := by
  revert h
  unfold result? after
  cases program w with
  | ok a w' => exact fun _ => rfl
  | error e w' => exact fun h => by cases h

theorem returns_of_result {F : Type} {lib : LibTorch F} {program : BridgeM lib Unit} {w : World lib}
    (h : (result? program w).isSome = true) : program w = .ok () (after program w) :=
  ok_of_result h

theorem quiet_after {F α : Type} {lib : LibTorch F} {program : BridgeM lib α} {w : World lib}
    (h : wp program (fun _ w' => w.Quiet w') (fun _ w' => w.Quiet w') w) :
    w.Quiet (after program w) := by
  unfold wp at h
  unfold after
  cases hp : program w with
  | ok a w' => rw [hp] at h; exact h
  | error e w' => rw [hp] at h; exact h

def dataWorld : World (sampleTorch Word) :=
  after (fromData _ (canonicalShape []) [3]) (World.initial _ fun _ => false)

def leafWorld : World (sampleTorch Word) := after (setRequiresGrad (.cpu 0) true) dataWorld

def reluCall : Event (sampleTorch Word) where
  operation := .relu (.cpu 0)
  before := leafWorld
  after := after (exec Word .libtorch (.relu (.cpu 0))) leafWorld
  result := (result? (exec Word .libtorch (.relu (.cpu 0))) leafWorld).get (by decide +kernel)

def geluCall : Event (sampleTorch Word) where
  operation := .gelu (.cpu 0)
  before := leafWorld
  after := after (exec Word .libtorch (.gelu (.cpu 0))) leafWorld
  result := (result? (exec Word .libtorch (.gelu (.cpu 0))) leafWorld).get (by decide +kernel)

theorem visible_data : dataWorld.Holds (.cpu 0) :=
  ⟨Nat.zero_lt_one, by rintro (_ | leaf) ⟨⟩⟩

theorem run_leafWorld : Run Word .libtorch [] leafWorld := by
  have hdata : Run Word .libtorch [] dataWorld :=
    .other (.start fun _ => false) (quiet_after (quiet_fromData Word
      (wellFormed_initial fun _ => false) (canonicalShape_canonical CpuBackend.validDims_nil) rfl))
  refine .other hdata (quiet_after ?_)
  exact quiet_setRequiresGrad sampleTorch_documented (hdata.settled sampleTorch_documented).1
    (t := .cpu 0) visible_data true

theorem held_leaf {operation : Operation (sampleTorch Word)}
    (hop : operation.operands = [.cpu 0]) (hmodule : ∀ state input,
      operation ≠ .moduleForward (.core state) input) : operation.Held leafWorld where
  operands := by
    rw [hop]
    rintro n hn
    obtain rfl := List.mem_singleton.mp hn
    exact ⟨Nat.zero_lt_one, by rintro (_ | leaf) ⟨⟩⟩
  module := fun state input h => absurd h (hmodule state input)

/-- The leaf requires grad, the call succeeds, and its result does not. -/
theorem reluCall_detaches : Run Word .libtorch [reluCall] reluCall.after ∧ ¬reluCall.Connects := by
  refine ⟨.call run_leafWorld (held_leaf rfl (by rintro _ _ ⟨⟩)) (ok_of_result _), fun h => ?_⟩
  have hflag : reluCall.after.requiresGrad reluCall.result.node = true := h.requiresGrad
  exact absurd hflag (by decide +kernel)

theorem run_connects_gelu :
    (after (backward geluCall.result) geluCall.after).hasGradient (.cpu 0) = true := by
  have hrun : Run Word .libtorch [geluCall] geluCall.after :=
    .call run_leafWorld (held_leaf rfl (by rintro _ _ ⟨⟩)) (ok_of_result _)
  have hreturns : (result? (backward geluCall.result) geluCall.after).isSome = true := by
    decide +kernel
  have hleaf : geluCall.after.isLeaf (.cpu 0) = true := by decide +kernel
  have hrequires : geluCall.after.requiresGrad (.cpu 0) = true := by decide +kernel
  refine (run_connects sampleTorch_documented hrun).2 ?_ geluCall.result ?_ _
    (returns_of_result hreturns) (.cpu 0) ?_ hleaf hrequires
  · intro e he
    obtain rfl := List.mem_singleton.mp he
    rintro id ⟨⟩
  · exact hrun.holds sampleTorch_documented geluCall (List.mem_singleton_self _)
  · exact ReflTransGen.single ⟨geluCall, List.mem_singleton_self _, rfl,
      List.mem_singleton_self _, by decide +kernel⟩

end Sample

end Tensora.Bridge
