import Tensora.Runtime.Insertion

/-! One run of an ONNX session through the C ABI: the checks of its arrays, the call of the
runtime, and the handles of its outputs. -/
namespace Tensora.Inference
open ProgramLogic

/-- Where `ts_onnx_session_run` allocates before it has outputs to insert. -/
inductive Point where
  | reserveInputNames
  | reserveInputs
  | inputName (index : Nat)
  | reserveOutputNames
  | outputName (index : Nat)
  | inserted
  deriving DecidableEq, Repr

/-- The arguments, null pointers as `none`; an array is as long as the count beside it says. -/
structure SessionRunArguments where
  session : Nat
  inputNames : Option (List (Option String))
  inputTensors : Option (List Nat)
  inputCount : Nat
  outputNames : Option (List (Option String))
  outputCount : Nat
  outTensors : Option (List Nat)
  outCapacity : Nat
  outWritten : Option Nat
  inputNames_length : ∀ names ∈ inputNames, names.length = inputCount
  inputTensors_length : ∀ tensors ∈ inputTensors, tensors.length = inputCount
  outputNames_length : ∀ names ∈ outputNames, names.length = outputCount
  outTensors_length : ∀ tensors ∈ outTensors, tensors.length = outCapacity

/-- What surrounds a run: where allocations fail, and what the session answers. Of an insertion
only the node it allocates can throw. -/
structure Surroundings where
  interrupt : Point → Option Exception
  allocated : Nat → Bool
  bridge : Nat → List String → List Nat → List String → Except Failure (List (Option Nat))

structure SessionCall where
  registry : HandleRegistry
  outTensors : List Nat
  outWritten : Nat

abbrev SessionM := EStateM Failure SessionCall

namespace SessionCall

def start (arguments : SessionRunArguments) (registry : HandleRegistry) : SessionCall where
  registry := registry
  outTensors := arguments.outTensors.getD []
  outWritten := arguments.outWritten.getD 0

/-- `out_tensors[index] = handles[index]` for every index. -/
def writeTensors (s : SessionCall) (handles : List Nat) : SessionCall :=
  { s with outTensors := handles ++ s.outTensors.drop handles.length }

end SessionCall

variable {α : Type}

def onTable (program : RegistryM α) : SessionM α := fun s =>
  match program s.registry with
  | .ok a registry => .ok a { s with registry := registry }
  | .error e registry => .error e { s with registry := registry }

section Source
variable (around : Surroundings)

def mayThrow (point : Point) : SessionM Unit :=
  match around.interrupt point with
  | none => pure ()
  | some exception => throw exception.failure

def lookupInferenceTensor (handle : Nat) : SessionM Nat :=
  onTable (HandleRegistry.lookup handle .tensor)

def insertInferenceTensor (index : Nat) (tensor : Option Nat) : SessionM Nat :=
  onTable (HandleRegistry.insert .tensor tensor (around.allocated index))

/-- The status `Release` returns is dropped. -/
def releaseInsertedOutputs : List Nat → SessionM Unit
  | [] => pure ()
  | handle :: rest => do
      if handle ≠ 0 then
        tryCatch (onTable (HandleRegistry.release handle .tensor)) fun _ => pure ()
      releaseInsertedOutputs rest

def readInputs : Nat → List (Option String × Nat) → SessionM (List (String × Nat))
  | _, [] => return []
  | index, (name, tensor) :: rest => do
      match name with
      | none => throw (invalidArgument "onnx_session_run: an input name pointer is null")
      | some name => do
          mayThrow around (.inputName index)
          let object ← lookupInferenceTensor tensor
          return (name, object) :: (← readInputs (index + 1) rest)

def readOutputNames : Nat → List (Option String) → SessionM (List String)
  | _, [] => return []
  | index, name :: rest => do
      match name with
      | none => throw (invalidArgument "onnx_session_run: an output name pointer is null")
      | some name => do
          mayThrow around (.outputName index)
          return name :: (← readOutputNames (index + 1) rest)

/-- Only an insertion that returns an error releases those before it. -/
def insertEach : Nat → List (Option Nat) → List Nat → SessionM (List Nat)
  | _, [], inserted => return inserted
  | index, tensor :: rest, inserted => do
      let handle ← tryCatch (insertInferenceTensor around index tensor) fun failure =>
        match failure with
        | .status code message => do
            releaseInsertedOutputs inserted
            throw (.status code message)
        | failure => throw failure
      insertEach (index + 1) rest (inserted.set index handle)

variable (arguments : SessionRunArguments)

def validateArrays : SessionM Unit := do
  failIf (arguments.outWritten = none)
    (invalidArgument "onnx_session_run: output count pointer is null")
  modify fun s => { s with outWritten := 0 }
  failIf (arguments.inputCount > 0 ∧
      (arguments.inputNames = none ∨ arguments.inputTensors = none))
    (invalidArgument "onnx_session_run: input arrays are null")
  failIf (arguments.outputCount = 0 ∨ arguments.outputNames = none)
    (invalidArgument "onnx_session_run: output names are null or empty")
  failIf (arguments.outCapacity < arguments.outputCount)
    (invalidArgument "onnx_session_run: output handle capacity is too small")
  failIf (arguments.outTensors = none)
    (invalidArgument "onnx_session_run: output handle array is null")

def computeResults : SessionM (List (Option Nat)) := do
  mayThrow around .reserveInputNames
  mayThrow around .reserveInputs
  let inputs ← readInputs around 0
    ((arguments.inputNames.getD []).zip (arguments.inputTensors.getD []))
  mayThrow around .reserveOutputNames
  let outputNames ← readOutputNames around 0 (arguments.outputNames.getD [])
  let results ← match around.bridge arguments.session (inputs.map Prod.fst) (inputs.map Prod.snd)
      outputNames with
    | .ok results => pure results
    | .error failure => throw failure
  failIf (results.length ≠ arguments.outputCount)
    (internalError "onnx_session_run: bridge returned unexpected output count")
  mayThrow around .inserted
  return results

/-- `ts_onnx_session_run`. -/
def sessionRun : SessionM Unit := do
  validateArrays arguments
  modify fun s => s.writeTensors (List.replicate arguments.outputCount 0)
  let results ← computeResults around arguments
  let inserted ← insertEach around 0 results (List.replicate arguments.outputCount 0)
  modify fun s => s.writeTensors inserted
  modify fun s => { s with outWritten := inserted.length }

end Source

structure SessionRunArguments.Validated (arguments : SessionRunArguments) : Prop where
  written : arguments.outWritten ≠ none
  inputs : 0 < arguments.inputCount →
    arguments.inputNames ≠ none ∧ arguments.inputTensors ≠ none
  outputs : 0 < arguments.outputCount ∧ arguments.outputNames ≠ none
  capacity : arguments.outputCount ≤ arguments.outCapacity
  tensors : arguments.outTensors ≠ none

/-- Every output has a new tensor entry with one reference, listed in its place. -/
structure Published (count : Nat) (r : HandleRegistry) (s : SessionCall) : Prop where
  entries : ∃ added, HandleRegistry.Fresh r added ∧ s.registry.entries = r.adding added ∧
    added.length = count ∧ s.outTensors.take count = added.map Prod.fst ∧
      ∀ p ∈ added, p.2.type = .tensor ∧ p.2.refs = 1
  written : s.outWritten = count

/-- No handle came or went, and none is reported. -/
structure Withdrawn (count : Nat) (r : HandleRegistry) (s : SessionCall) : Prop where
  entries : s.registry.entries = r.entries
  tensors : s.outTensors.take count = List.replicate count 0
  written : s.outWritten = 0

def Transaction (around : Surroundings) (arguments : SessionRunArguments) (r : HandleRegistry) :
    Prop :=
  wp (sessionRun around arguments) (fun _ s => Published arguments.outputCount r s)
    (fun _ s => Withdrawn arguments.outputCount r s) (SessionCall.start arguments r)

def firstFailure (allocated : Nat → Bool) :
    Nat → List (Option Nat) → HandleRegistry → Option (Nat × Failure)
  | _, [], _ => none
  | index, tensor :: rest, registry =>
      match HandleRegistry.insert .tensor tensor (allocated index) registry with
      | .ok _ registry => firstFailure allocated (index + 1) rest registry
      | .error failure _ => some (index, failure)

def SessionCall.opened (arguments : SessionRunArguments) (r : HandleRegistry) : SessionCall :=
  { SessionCall.start arguments r with outWritten := 0 }.writeTensors
    (List.replicate arguments.outputCount 0)

section Runs
variable {around : Surroundings} {arguments : SessionRunArguments} {r : HandleRegistry}

@[simp] theorem wp_onTable (program : RegistryM α) (Q : α → SessionCall → Prop)
    (E : Failure → SessionCall → Prop) (s : SessionCall) :
    wp (onTable program) Q E s ↔
      wp program (fun a registry => Q a { s with registry := registry })
        (fun e registry => E e { s with registry := registry }) s.registry := by
  unfold wp onTable
  cases program s.registry <;> rfl

@[simp] theorem writeTensors_registry (s : SessionCall) (handles : List Nat) :
    (s.writeTensors handles).registry = s.registry := rfl

@[simp] theorem writeTensors_outWritten (s : SessionCall) (handles : List Nat) :
    (s.writeTensors handles).outWritten = s.outWritten := rfl

@[simp] theorem take_writeTensors (s : SessionCall) (handles : List Nat) :
    (s.writeTensors handles).outTensors.take handles.length = handles := List.take_left

theorem wp_validateArrays (h : arguments.Validated) (Q : Unit → SessionCall → Prop)
    (E : Failure → SessionCall → Prop) (s : SessionCall) :
    wp (validateArrays arguments) Q E s ↔ Q () { s with outWritten := 0 } := by
  have hinputs : ¬(arguments.inputCount > 0 ∧
      (arguments.inputNames = none ∨ arguments.inputTensors = none)) := by
    rintro ⟨hpos, hnull⟩
    exact hnull.elim (h.inputs hpos).1 (h.inputs hpos).2
  have houtputs : ¬(arguments.outputCount = 0 ∨ arguments.outputNames = none) :=
    not_or.mpr ⟨Nat.pos_iff_ne_zero.mp h.outputs.1, h.outputs.2⟩
  have hcapacity : ¬arguments.outCapacity < arguments.outputCount := Nat.not_lt.mpr h.capacity
  unfold validateArrays
  simp [h.written, hinputs, houtputs, hcapacity, h.tensors]

theorem wp_mayThrow {point : Point} {Q : Unit → SessionCall → Prop} {s : SessionCall}
    (hq : Q () s) : wp (mayThrow around point) Q (fun _ s' => s' = s) s := by
  unfold mayThrow
  cases around.interrupt point with
  | none => exact hq
  | some exception => exact rfl

theorem wp_lookupInferenceTensor (handle : Nat) (s : SessionCall) :
    wp (lookupInferenceTensor handle) (fun _ s' => s' = s) (fun _ s' => s' = s) s := by
  unfold lookupInferenceTensor
  rw [wp_onTable]
  refine wp_mono (HandleRegistry.wp_lookup s.registry handle .tensor) ?_ ?_
  · rintro _ _ ⟨rfl, -⟩
    rfl
  · rintro _ _ rfl
    rfl

theorem wp_readInputs (inputs : List (Option String × Nat)) (index : Nat) (s : SessionCall) :
    wp (readInputs around index inputs) (fun _ s' => s' = s) (fun _ s' => s' = s) s := by
  induction inputs generalizing index with
  | nil => exact rfl
  | cons input rest ih =>
      obtain ⟨name, tensor⟩ := input
      cases name with
      | none => exact rfl
      | some name =>
          unfold readInputs
          simp only [wp_bind]
          apply wp_mayThrow
          refine wp_mono (wp_lookupInferenceTensor tensor s) ?_ fun _ _ h => h
          rintro _ _ rfl
          exact ih (index + 1)

theorem wp_readOutputNames (names : List (Option String)) (index : Nat) (s : SessionCall) :
    wp (readOutputNames around index names) (fun _ s' => s' = s) (fun _ s' => s' = s) s := by
  induction names generalizing index with
  | nil => exact rfl
  | cons name rest ih =>
      cases name with
      | none => exact rfl
      | some name =>
          unfold readOutputNames
          simp only [wp_bind]
          apply wp_mayThrow
          exact ih (index + 1)

/-- Nothing changes before the first insertion. -/
theorem wp_computeResults (s : SessionCall) :
    wp (computeResults around arguments)
      (fun results s' => s' = s ∧ results.length = arguments.outputCount)
      (fun _ s' => s' = s) s := by
  unfold computeResults
  simp only [wp_bind]
  apply wp_mayThrow
  apply wp_mayThrow
  refine wp_mono (wp_readInputs _ 0 s) ?_ fun _ _ h => h
  rintro inputs _ rfl
  apply wp_mayThrow
  refine wp_mono (wp_readOutputNames _ 0 _) ?_ fun _ _ h => h
  rintro names _ rfl
  cases around.bridge arguments.session (inputs.map Prod.fst) (inputs.map Prod.snd) names with
  | error failure => exact rfl
  | ok results =>
      simp only [pure_bind, wp_bind, wp_pure, wp_failIf]
      refine ⟨fun _ => trivial, fun hlength => ?_⟩
      apply wp_mayThrow
      exact ⟨rfl, not_not.mp hlength⟩

def Outputs (added : List (Nat × Entry)) : Prop :=
  ∀ p ∈ added, p.2.type = .tensor ∧ p.2.refs = 1

theorem wp_releaseZeros (n : Nat) (s : SessionCall) :
    wp (releaseInsertedOutputs (List.replicate n 0)) (fun _ s' => s' = s) (fun _ _ => False) s := by
  induction n with
  | zero => exact rfl
  | succ n ih =>
      rw [List.replicate_succ, releaseInsertedOutputs]
      exact wp_ite (fun h => absurd rfl h) fun _ => ih

theorem wp_releaseInsertedOutputs {added : List (Nat × Entry)} (n : Nat)
    (hfresh : HandleRegistry.Fresh r added) (houtputs : Outputs added) {s : SessionCall}
    (hentries : s.registry.entries = r.adding added) :
    wp (releaseInsertedOutputs (added.map Prod.fst ++ List.replicate n 0))
      (fun _ s' => s'.registry.entries = r.entries ∧ s'.outTensors = s.outTensors ∧
        s'.outWritten = s.outWritten)
      (fun _ _ => False) s := by
  induction added generalizing s with
  | nil =>
      refine wp_mono (wp_releaseZeros n s) ?_ fun _ _ h => h
      rintro _ _ rfl
      exact ⟨hentries, rfl, rfl⟩
  | cons p rest ih =>
      obtain ⟨handle, type, refs, object⟩ := p
      obtain ⟨htype, hrefs⟩ := houtputs _ (List.mem_cons_self ..)
      simp only at htype hrefs
      subst htype hrefs
      rw [List.map_cons, List.cons_append, releaseInsertedOutputs]
      apply wp_ite
      · intro _
        rw [wp_bind]
        refine wp_tryCatch (P := fun _ _ => False) ?_ fun _ _ h => h.elim
        rw [wp_onTable]
        refine wp_mono (HandleRegistry.wp_release_added hfresh hentries) ?_ fun _ _ h => h
        rintro _ registry ⟨hrest, hleft⟩
        exact ih hrest (fun p hp => houtputs p (List.mem_cons_of_mem _ hp)) hleft
      · exact fun hzero => absurd (hfresh.nonzero _ (List.mem_cons_self ..)) hzero

/-- How the insertion of the outputs can fail: with all of them withdrawn after a returned
error, and after an exception with those before it left behind. -/
structure Stopped (r : HandleRegistry) (s s' : SessionCall) (index : Nat) (e : Failure) : Prop where
  withdrawn : e.Returned → s'.registry.entries = r.entries
  left : ¬e.Returned → ∃ added, s'.registry.entries = r.adding added ∧ added.length = index
  tensors : s'.outTensors = s.outTensors
  written : s'.outWritten = s.outWritten

theorem set_inserted (added : List (Nat × Entry)) (p : Nat × Entry) (n : Nat) :
    (added.map Prod.fst ++ List.replicate (n + 1) 0).set added.length p.1 =
      (added ++ [p]).map Prod.fst ++ List.replicate n 0 := by
  rw [List.set_append_right _ _ (by rw [List.length_map]), List.length_map, Nat.sub_self,
    List.replicate_succ, List.set_cons_zero, List.map_append, List.map_singleton,
    List.append_assoc, List.singleton_append]

theorem wp_insertEach (results : List (Option Nat)) {added : List (Nat × Entry)}
    (hfresh : HandleRegistry.Fresh r added) (houtputs : Outputs added) (s : SessionCall)
    (hentries : s.registry.entries = r.adding added) :
    wp (insertEach around added.length results
        (added.map Prod.fst ++ List.replicate results.length 0))
      (fun inserted s' =>
        firstFailure around.allocated added.length results s.registry = none ∧
        ∃ more, HandleRegistry.Fresh r more ∧ Outputs more ∧
          s'.registry.entries = r.adding more ∧ more.length = added.length + results.length ∧
          inserted = more.map Prod.fst ∧ s'.outTensors = s.outTensors)
      (fun e s' => ∃ index,
        firstFailure around.allocated added.length results s.registry = some (index, e) ∧
        Stopped r s s' index e) s := by
  induction results generalizing added s with
  | nil => exact ⟨rfl, added, hfresh, houtputs, hentries, rfl, List.append_nil _, rfl⟩
  | cons tensor rest ih =>
      rw [insertEach, wp_bind]
      cases hx : HandleRegistry.insert .tensor tensor (around.allocated added.length)
          s.registry with
      | ok handle registry =>
          obtain ⟨object, -, hnone, rfl, rfl⟩ := HandleRegistry.insert_ok hx
          have hrun : insertInferenceTensor around added.length tensor s =
              .ok s.registry.nextHandle
                { s with registry := s.registry.withEntry .tensor object } := by
            unfold insertInferenceTensor onTable
            rw [hx]
          rw [wp_tryCatch_of_ok hrun, List.length_cons, set_inserted added
            (s.registry.nextHandle, ⟨.tensor, 1, object⟩) rest.length]
          have hlength : added.length + 1 =
              (added ++ [(s.registry.nextHandle, (⟨.tensor, 1, object⟩ : Entry))]).length := by simp
          have hnext : firstFailure around.allocated added.length (tensor :: rest) s.registry =
              firstFailure around.allocated (added.length + 1) rest
                (s.registry.withEntry .tensor object) := by
            rw [firstFailure, hx]
          rw [hnext, hlength]
          refine wp_mono (ih (hfresh.insert hentries hnone _) ?_ _ ?_) ?_ ?_
          · intro p hp
            rcases List.mem_append.mp hp with hp | hp
            · exact houtputs p hp
            · rw [List.mem_singleton.mp hp]
              exact ⟨rfl, rfl⟩
          · rw [HandleRegistry.adding_concat, ← hentries]
            rfl
          · rintro inserted s' ⟨hfailure, more, hmore, hout, hr, hlen, rfl, htensors⟩
            refine ⟨hfailure, more, hmore, hout, hr, ?_, rfl, htensors⟩
            rw [hlen, List.length_append, List.length_singleton]
            omega
          · rintro e s' ⟨index, hfailure, hstopped⟩
            exact ⟨index, hfailure, ⟨hstopped.withdrawn, hstopped.left, hstopped.tensors,
              hstopped.written⟩⟩
      | error e registry =>
          have hkept := HandleRegistry.insert_error hx
          have hrun : insertInferenceTensor around added.length tensor s =
              .error e { s with registry := registry } := by
            unfold insertInferenceTensor onTable
            rw [hx]
          have hstop : firstFailure around.allocated added.length (tensor :: rest) s.registry =
              some (added.length, e) := by
            rw [firstFailure, hx]
          rw [wp_tryCatch_of_error hrun]
          cases e with
          | status code message =>
              rw [wp_bind]
              refine wp_mono (wp_releaseInsertedOutputs _ hfresh houtputs (hkept.trans hentries)) ?_
                fun _ _ h => h.elim
              rintro _ s' ⟨hr, htensors, hwritten⟩
              exact ⟨_, hstop, fun _ => hr, fun h => absurd ⟨code, message, rfl⟩ h, htensors,
                hwritten⟩
          | _ =>
              refine ⟨_, hstop, ?_, fun _ => ⟨added, hkept.trans hentries, rfl⟩, rfl, rfl⟩
              rintro ⟨code, message, h⟩
              cases h

/-- A run is a transaction exactly if no exception is thrown at the insertion of an output
that has another one before it. -/
theorem sessionRun_transaction (h : arguments.Validated) :
    Transaction around arguments r ↔
      ∀ results s, computeResults around arguments (SessionCall.opened arguments r) =
          .ok results s →
        ∀ index failure, firstFailure around.allocated 0 results r = some (index, failure) →
          index = 0 ∨ failure.Returned := by
  have hzeros : (SessionCall.opened arguments r).outTensors.take arguments.outputCount =
      List.replicate arguments.outputCount 0 := by
    have htake := take_writeTensors { SessionCall.start arguments r with outWritten := 0 }
      (List.replicate arguments.outputCount 0)
    rwa [List.length_replicate] at htake
  unfold Transaction sessionRun
  rw [wp_bind, wp_validateArrays h, wp_bind, wp_modify, wp_bind]
  change wp (computeResults around arguments) _ _ (SessionCall.opened arguments r) ↔ _
  have hcompute := @wp_computeResults around arguments (SessionCall.opened arguments r)
  cases hrun : computeResults around arguments (SessionCall.opened arguments r) with
  | error e s =>
      obtain rfl := wp_of_error hcompute hrun
      rw [wp_eq_of_error hrun]
      constructor
      · intro _ results s hresults
        cases hresults
      · exact fun _ => ⟨rfl, hzeros, rfl⟩
  | ok results s =>
      obtain ⟨rfl, hlength⟩ := wp_of_ok hcompute hrun
      have hopened : (∀ results' s, EStateM.Result.ok (ε := Failure) results
            (SessionCall.opened arguments r) = .ok results' s →
          ∀ index failure, firstFailure around.allocated 0 results' r = some (index, failure) →
            index = 0 ∨ failure.Returned) ↔
          ∀ index failure, firstFailure around.allocated 0 results r = some (index, failure) →
            index = 0 ∨ failure.Returned := by
        constructor
        · exact fun h => h results _ rfl
        · rintro h _ _ ⟨⟩
          exact h
      have hfresh : HandleRegistry.Fresh r [] := ⟨by simp, List.nodup_nil, by simp⟩
      have hinsert := @wp_insertEach around r results [] hfresh (by simp [Outputs])
        (SessionCall.opened arguments r) rfl
      rw [hlength, List.map_nil, List.nil_append, List.length_nil] at hinsert
      rw [wp_eq_of_ok hrun, hopened, wp_bind]
      cases hloop : insertEach around 0 results (List.replicate arguments.outputCount 0)
          (SessionCall.opened arguments r) with
      | ok inserted s =>
          obtain ⟨hnone, added, hfresh, houtputs, hentries, hcount, rfl, htensors⟩ :=
            wp_of_ok hinsert hloop
          rw [Nat.zero_add] at hcount
          rw [wp_eq_of_ok hloop, wp_bind, wp_modify, wp_modify]
          constructor
          · intro _ index failure hfailure
            rw [show firstFailure around.allocated 0 results r = none from hnone] at hfailure
            cases hfailure
          · intro _
            refine ⟨⟨added, hfresh, hentries, hcount, ?_, houtputs⟩, ?_⟩
            · have htake := take_writeTensors s (added.map Prod.fst)
              rwa [List.length_map, hcount] at htake
            · exact (List.length_map _).trans hcount
      | error e s =>
          obtain ⟨index, hfailure, hstopped⟩ := wp_of_error hinsert hloop
          rw [wp_eq_of_error hloop]
          have hfirst : firstFailure around.allocated 0 results r = some (index, e) := hfailure
          have hkept : s.registry.entries = r.entries ↔ index = 0 ∨ e.Returned := by
            by_cases hreturned : e.Returned
            · exact ⟨fun _ => Or.inr hreturned, fun _ => hstopped.withdrawn hreturned⟩
            · obtain ⟨added, hentries, rfl⟩ := hstopped.left hreturned
              have hsplit : s.registry.entries = added.reverse ++ r.entries := hentries
              have hnone : s.registry.entries = r.entries ↔ added = [] := by
                rw [hsplit, List.append_left_eq_self, List.reverse_eq_nil_iff]
              rw [hnone, List.length_eq_zero_iff, or_iff_left hreturned]
          constructor
          · intro hwithdrawn index' failure hfailure'
            rw [hfirst] at hfailure'
            cases hfailure'
            exact hkept.mp hwithdrawn.entries
          · intro h
            refine ⟨hkept.mpr (h _ _ hfirst), ?_, ?_⟩
            · rw [hstopped.tensors, hzeros]
            · exact hstopped.written

end Runs

section Sample

def twoOutputs : SessionRunArguments where
  session := 1
  inputNames := none
  inputTensors := none
  inputCount := 0
  outputNames := some [some "logits", some "hidden"]
  outputCount := 2
  outTensors := some [9, 9]
  outCapacity := 2
  outWritten := some 9
  inputNames_length := by simp
  inputTensors_length := by simp
  outputNames_length := by simp
  outTensors_length := by simp

def exhaustedFrom (index : Nat) : Surroundings where
  interrupt := fun _ => none
  allocated := fun i => i < index
  bridge := fun _ _ _ names => .ok (names.map fun name => some name.length)

theorem twoOutputs_validated : twoOutputs.Validated where
  written := by decide
  inputs := by decide
  outputs := by decide
  capacity := by decide
  tensors := by decide

/-- Without memory for the second output the first one stays in the registry. -/
theorem sessionRun_leaks :
    twoOutputs.Validated ∧
      ¬Transaction (exhaustedFrom 1) twoOutputs HandleRegistry.initial := by
  refine ⟨twoOutputs_validated, fun h => ?_⟩
  have hrun : sessionRun (exhaustedFrom 1) twoOutputs
      (SessionCall.start twoOutputs HandleRegistry.initial) =
      .error .badAlloc ⟨⟨[(1, ⟨.tensor, 1, 6⟩)], 3⟩, [0, 0], 0⟩ := rfl
  rw [Transaction, wp_eq_of_error hrun] at h
  exact absurd h.entries (by decide)

theorem sessionRun_transaction_first :
    twoOutputs.Validated ∧
      Transaction (exhaustedFrom 0) twoOutputs HandleRegistry.initial := by
  refine ⟨twoOutputs_validated, (sessionRun_transaction twoOutputs_validated).mpr ?_⟩
  rintro results s ⟨⟩ index failure ⟨⟩
  exact Or.inl rfl

end Sample

end Tensora.Inference
