import Tensora.Api.Runs
import Tensora.Api.Sample
import Tensora.Training.CheckpointImages

/-! `module_save` and `module_load` in any state that calls reach while others write to
the disk. -/
namespace Tensora
open ByteCodec ProgramLogic

variable {F D : Type}

/-- The state with the disk as others left it. -/
def Runtime.onDisk (s : Runtime F D) (files : FileSystem) : Runtime F D := { s with files := files }

@[simp] theorem Runtime.heap_onDisk (s : Runtime F D) (files : FileSystem) :
    (s.onDisk files).heap = s.heap := rfl

@[simp] theorem Runtime.moduleAt_onDisk (s : Runtime F D) (files : FileSystem) (handle : Nat) :
    (s.onDisk files).moduleAt handle = s.moduleAt handle := rfl

theorem Runtime.Ok.onDisk {s : Runtime F D} (ok : s.Ok) (files : FileSystem) :
    (s.onDisk files).Ok :=
  ⟨ok.wellFormed, ok.versioned, ok.tensors, ok.modules, ok.optimizers, ok.parameterOptimizers,
    ok.handles⟩

namespace Api
open Training

variable {s : Runtime F D} {module object : Nat} {state : LinearState} {path : String}

section Calls
variable [Scalar F] [Scalar D] [Precision F D] [FloatBits F]

/-- States that calls lead to while the disk changes under them in any way. -/
inductive Attained : Runtime F D → Prop
  | start (fails : Nat → Bool) (files : FileSystem) : Attained (Runtime.initial fails files)
  | call {s : Runtime F D} (hs : Attained s) (call : Call F D) : Attained (after s call)
  | disk {s : Runtime F D} (hs : Attained s) (files : FileSystem) : Attained (s.onDisk files)

theorem Attained.ok (hs : Attained s) : s.Ok := by
  induction hs with
  | start fails files => exact ok_initial fails files
  | call _ call ih => exact (after_moves ih call).1
  | disk _ files ih => exact ih.onDisk files

theorem Attained.run (hs : Attained s) (calls : List (Call F D)) : Attained (run s calls) := by
  unfold Api.run
  induction calls generalizing s with
  | nil => exact hs
  | cons call calls ih => exact ih (hs.call call)

theorem exec_moduleSave (ok : s.Ok) (hm : s.moduleAt module = some (object, state))
    (hpath : path.isEmpty = false) (hwritable : s.files.writable path = true)
    (hroom : (state.image s.heap).length ≤ s.files.capacity) :
    exec (.moduleSave module path) s = .ok .done (s.withFile path (state.image s.heap)) := by
  have hsave : wp (exec (.moduleSave module path)) (fun reply s' => reply = .done ∧
      s' = s.withFile path (state.image s.heap)) (fun _ _ => False) s := by
    refine wp_seq (wp_moduleSave ok hm) ?_ ?_
    · rintro e s' (⟨-, hempty | hlocked⟩ | ⟨-, hlt⟩)
      · rw [hpath] at hempty
        cases hempty
      · rw [hwritable] at hlocked
        cases hlocked
      · exact Nat.not_lt.mpr hroom hlt
    · rintro _ _ ⟨rfl, -⟩
      exact ⟨rfl, rfl⟩
  obtain ⟨_, _, hx, rfl, rfl⟩ := ok_of_wp hsave
  exact hx

theorem of_exec_moduleSave (ok : s.Ok) {reply : Reply F} {s' : Runtime F D}
    (h : exec (.moduleSave module path) s = .ok reply s') :
    ∃ object state, s.moduleAt module = some (object, state) ∧
      s' = s.withFile path (state.image s.heap) := by
  have hsave : wp (exec (.moduleSave module path)) (fun _ s' => ∃ object state,
      s.moduleAt module = some (object, state) ∧ s' = s.withFile path (state.image s.heap))
      (fun _ _ => True) s := by
    refine wp_seq (P := fun _ s' => ∃ object state, s.moduleAt module = some (object, state) ∧
      s' = s.withFile path (state.image s.heap)) (R := fun _ _ => True) ?_ (fun _ _ _ => trivial)
      fun _ _ hq => hq
    unfold moduleSave
    rw [wp_bind, wp_failIf]
    refine ⟨fun _ => trivial, fun _ => ?_⟩
    refine wp_seq (wp_lookupModule_or s module) (fun _ _ _ => trivial) ?_
    rintro ⟨object, state⟩ s ⟨rfl, hm⟩
    have hstate := ok.modules state (List.mem_of_getElem? (Runtime.get_moduleAt hm))
    exact wp_mono (wp_saveState ok.wellFormed hstate path)
      (fun _ _ hq => ⟨object, state, hm, hq.1⟩) fun _ _ _ => trivial
  exact wp_of_ok hsave h

omit [Scalar F] [Scalar D] [Precision F D] [FloatBits F] in
theorem lookupModule_eq (hm : s.moduleAt module = some (object, state)) :
    (lookupModule module : Native F D _) s = .ok (object, state) s := by
  obtain ⟨_, _, hx, rfl, rfl⟩ := ok_of_wp (wp_lookupModule hm)
  exact hx

omit [Scalar F] [Scalar D] [Precision F D] in
/-- A path that is not empty is read before anything else happens. -/
theorem moduleLoad_eq (hm : s.moduleAt module = some (object, state))
    (hpath : path.isEmpty = false) :
    (moduleLoad module path : Native F D Unit) s =
      (match s.files.contents path with
      | none => throw (internalError "module_load: could not open checkpoint")
      | some stream => onMemory (loadParameters state stream) : Native F D Unit) s := by
  have hfirst : (failIf (path.isEmpty = true)
      (invalidArgument "module_load: path must not be empty") : Native F D Unit) = pure () :=
    if_neg (by simp [hpath])
  unfold moduleLoad
  rw [hfirst, pure_bind]
  change EStateM.bind _ _ s = _
  unfold EStateM.bind
  rw [lookupModule_eq hm]
  rfl

theorem exec_moduleLoad {stream : List Byte} (hm : s.moduleAt module = some (object, state))
    (hpath : path.isEmpty = false) (hfile : s.files.contents path = some stream) :
    exec (.moduleLoad module path) s =
      match loadParameters state stream s.memory with
      | .ok _ m => .ok .done { s with memory := m }
      | .error e m => .error e { s with memory := m } := by
  have hload : (moduleLoad module path : Native F D Unit) s =
      match loadParameters state stream s.memory with
      | .ok _ m => .ok () { s with memory := m }
      | .error e m => .error e { s with memory := m } := by
    rw [moduleLoad_eq hm hpath, hfile]
    change onMemory (loadParameters state stream) s = _
    unfold onMemory
    cases loadParameters state stream s.memory <;> rfl
  change EStateM.bind (moduleLoad module path) _ s = _
  unfold EStateM.bind
  rw [hload]
  cases loadParameters state stream s.memory <;> rfl

/-- A load has read a checkpoint of the module's architecture, or has touched nothing. -/
theorem wp_exec_moduleLoad (ok : s.Ok) (module : Nat) (path : String) :
    wp (exec (.moduleLoad module path)) (fun _ _ => ∃ object state stream flag weight bias,
        s.moduleAt module = some (object, state) ∧ s.files.contents path = some stream ∧
        flag < 256 ∧ (flag ≠ 0 ↔ state.useBias = true) ∧ state.Holds weight bias ∧
        stream = checkpointBytes state flag weight bias)
      (fun _ s' => s'.heap = s.heap) s := by
  refine wp_seq (P := fun _ _ => ∃ object state stream flag weight bias,
        s.moduleAt module = some (object, state) ∧ s.files.contents path = some stream ∧
        flag < 256 ∧ (flag ≠ 0 ↔ state.useBias = true) ∧ state.Holds weight bias ∧
        stream = checkpointBytes state flag weight bias) (R := fun _ s' => s'.heap = s.heap) ?_
    (fun _ _ he => he) fun _ _ hq => hq
  unfold moduleLoad
  rw [wp_bind, wp_failIf]
  refine ⟨fun _ => rfl, fun _ => ?_⟩
  refine wp_seq (wp_lookupModule_or s module) ?_ ?_
  · rintro _ _ rfl
    rfl
  rintro ⟨object, state⟩ s ⟨rfl, hm⟩
  have hstate := ok.modules state (List.mem_of_getElem? (Runtime.get_moduleAt hm))
  rw [wp_bind, wp_get]
  cases hfile : s.files.contents path with
  | none => exact rfl
  | some stream =>
      simp only
      rw [wp_onMemory]
      refine wp_mono (spec_loadParameters ok.wellFormed hstate s.memory.allocator) ?_ ?_
      · rintro _ m ⟨-, flag, weight, bias, hflag, huse, hholds, hstream, -⟩
        exact ⟨object, state, stream, flag, weight, bias, hm, rfl, hflag, huse, hholds, hstream⟩
      · rintro e m ⟨-, he⟩
        exact he.elim id fun hx => hx.2.2

theorem exec_moduleLoad_checkpoint (ok : s.Ok) (hmem : Lasting s)
    (hm : s.moduleAt module = some (object, state)) (hpath : path.isEmpty = false)
    {stream weight bias : List Byte} {flag : Nat} (hfile : s.files.contents path = some stream)
    (hflag : flag < 256) (huse : flag ≠ 0 ↔ state.useBias = true)
    (hholds : state.Holds weight bias) (hstream : stream = checkpointBytes state flag weight bias) :
    ∃ m, exec (.moduleLoad module path) s = .ok .done { s with memory := m } ∧
      m.heap = state.loaded s.heap weight bias := by
  have hstate := ok.modules state (List.mem_of_getElem? (Runtime.get_moduleAt hm))
  obtain ⟨_, m, hload, -, hheap⟩ := (spec_loadParameters_checkpoint ok.wellFormed hstate hflag huse
    hholds hstream).ok hmem
  refine ⟨m, ?_, hheap⟩
  have hload' : loadParameters state stream s.memory = .ok () m := hload
  rw [exec_moduleLoad hm hpath hfile, hload']

/-- A load that does not return leaves every tensor alone, and no load accepts a strict
prefix of what a save has written. -/
theorem moduleLoad_atomic (hs : Attained s) :
    (∀ module path e s', exec (.moduleLoad module path) s = .error e s' → s'.heap = s.heap) ∧
    (∀ (module : Nat) (path : String) (reply : Reply F) (saved : Runtime F D)
      (bytes torn : List Byte), exec (.moduleSave module path) s = .ok reply saved →
      saved.files.contents path = some bytes → torn <+: bytes → torn ≠ bytes →
      ∀ (s₂ : Runtime F D) (second : Nat) (path₂ : String), Attained s₂ →
        s₂.files.contents path₂ = some torn →
        ∃ e s', exec (.moduleLoad second path₂) s₂ = .error e s') := by
  refine ⟨fun module path e s' h => ?_, ?_⟩
  · exact wp_of_error (E := fun _ s' => s'.heap = s.heap) (wp_exec_moduleLoad hs.ok module path) h
  intro module path reply saved bytes torn hsave hbytes htorn hne s₂ second path₂ hs₂ hfile
  have ok := hs.ok
  have ok₂ := hs₂.ok
  obtain ⟨object, state, hm, rfl⟩ := of_exec_moduleSave ok hsave
  have hstate := ok.modules state (List.mem_of_getElem? (Runtime.get_moduleAt hm))
  rw [Runtime.contents_withFile, Option.some.injEq] at hbytes
  cases hload : exec (.moduleLoad second path₂) s₂ with
  | error e s' => exact ⟨e, s', rfl⟩
  | ok reply' s' =>
      obtain ⟨object₂, state₂, stream, flag, weight, bias, hm₂, hstream, hflag, huse, hholds,
        heq⟩ :=
        wp_of_ok (wp_exec_moduleLoad ok₂ second path₂) hload
      have hstate₂ := ok₂.modules state₂ (List.mem_of_getElem? (Runtime.get_moduleAt hm₂))
      rw [hfile, Option.some.injEq] at hstream
      rw [← hbytes, hstream, heq, state.image_eq] at htorn
      refine absurd ?_ hne
      rw [← hbytes, hstream, heq, state.image_eq]
      exact checkpointBytes_prefix (hstate.small ok.wellFormed) (hstate₂.small ok₂.wellFormed)
        state.flag_lt hflag state.flag_iff huse (hstate.holds ok.wellFormed) hholds htorn

end Calls

section RoundTrip
variable [Scalar F] [Scalar D] [Precision F D] [FloatPattern F]

/-- What one module saves, every module of its architecture loads, and takes its
parameters from it bit for bit. -/
theorem checkpoint_round_trip (hs : Attained s) (hm : s.moduleAt module = some (object, state))
    (hpath : path.isEmpty = false) (hwritable : s.files.writable path = true)
    (hroom : (state.image s.heap).length ≤ s.files.capacity) :
    ∃ bytes saved, exec (.moduleSave module path) s = .ok .done saved ∧ saved.heap = s.heap ∧
      saved.files.contents path = some bytes ∧
      ∀ (s₂ : Runtime F D) (second object₂ : Nat) (state₂ : LinearState) (path₂ : String),
        Attained s₂ → Lasting s₂ → s₂.moduleAt second = some (object₂, state₂) →
        SameArchitecture state state₂ → path₂.isEmpty = false →
        s₂.files.contents path₂ = some bytes →
        ∃ loaded, exec (.moduleLoad second path₂) s₂ = .ok .done loaded ∧
          Restored s.heap state s₂.heap state₂ loaded.heap := by
  have ok := hs.ok
  have hstate := ok.modules state (List.mem_of_getElem? (Runtime.get_moduleAt hm))
  refine ⟨_, _, exec_moduleSave ok hm hpath hwritable hroom, Runtime.heap_withFile _,
    Runtime.contents_withFile _, ?_⟩
  intro s₂ second object₂ state₂ path₂ hs₂ hmem hm₂ same hpath₂ hfile
  have ok₂ := hs₂.ok
  have hstate₂ := ok₂.modules state₂ (List.mem_of_getElem? (Runtime.get_moduleAt hm₂))
  have hflag : state.flag ≠ 0 ↔ state₂.useBias = true := by
    rw [state.flag_iff, same.useBias]
  have hstream : state.image s.heap = checkpointBytes state₂ state.flag (state.weightPayload s.heap)
      (state.biasPayload s.heap) := by
    rw [state.image_eq, same.checkpointBytes_eq]
  obtain ⟨m, hload, hheap⟩ := exec_moduleLoad_checkpoint ok₂ hmem hm₂ hpath₂ hfile state.flag_lt
    hflag (same.holds (hstate.holds ok.wellFormed)) hstream
  refine ⟨_, hload, ?_⟩
  have hloaded : Runtime.heap { s₂ with memory := m } = _ := hheap
  rw [hloaded]
  exact restored_loaded ok.wellFormed hstate ok₂.wellFormed hstate₂ same

variable (F D) in
def Written (state : LinearState) (bytes : List Byte) : Prop :=
  ∃ (s s' : Runtime F D) (module object : Nat) (source : LinearState) (path : String)
    (reply : Reply F), Attained s ∧ s.moduleAt module = some (object, source) ∧
    SameArchitecture source state ∧ exec (.moduleSave module path) s = .ok reply s' ∧
    s'.files.contents path = some bytes

theorem Written.checkpoint {bytes : List Byte} (hw : Written F D state bytes) :
    ∃ weight bias, state.Holds weight bias ∧
      bytes = checkpointBytes state state.flag weight bias := by
  obtain ⟨s, s', module, object, source, path, reply, hs, hm, same, hsave, hbytes⟩ := hw
  obtain ⟨_, source', hm', rfl⟩ := of_exec_moduleSave hs.ok hsave
  rw [hm] at hm'
  cases hm'
  have hsource := hs.ok.modules source (List.mem_of_getElem? (Runtime.get_moduleAt hm))
  rw [Runtime.contents_withFile, Option.some.injEq] at hbytes
  refine ⟨_, _, same.holds (hsource.holds hs.ok.wellFormed), ?_⟩
  rw [← hbytes, source.image_eq, same.checkpointBytes_eq]
  simp only [LinearState.flag, same.useBias]

/-- A load that returns read a checkpoint, and saving the module again writes it back with
the flag of a save. -/
theorem load_then_save (hs : Attained s) (hm : s.moduleAt module = some (object, state))
    (hpath : path.isEmpty = false) {bytes : List Byte}
    (hfile : s.files.contents path = some bytes) {reply : Reply F} {s' : Runtime F D}
    (hload : exec (.moduleLoad module path) s = .ok reply s') :
    ∃ flag weight bias, flag < 256 ∧ (flag ≠ 0 ↔ state.useBias = true) ∧
      state.Holds weight bias ∧ bytes = checkpointBytes state flag weight bias ∧
      ∀ (files : FileSystem) (path₂ : String), path₂.isEmpty = false →
        files.writable path₂ = true → bytes.length ≤ files.capacity →
        exec (.moduleSave module path₂) (s'.onDisk files) = .ok .done
          ((s'.onDisk files).withFile path₂ (checkpointBytes state state.flag weight bias)) := by
  have ok := hs.ok
  have hstate := ok.modules state (List.mem_of_getElem? (Runtime.get_moduleAt hm))
  have ok' : s'.Ok := by
    have hafter := (hs.call (.moduleLoad module path)).ok
    unfold after at hafter
    rwa [hload] at hafter
  rw [exec_moduleLoad hm hpath hfile] at hload
  cases hrun : loadParameters state bytes s.memory with
  | error e m => rw [hrun] at hload; cases hload
  | ok u m =>
      rw [hrun] at hload
      cases hload
      obtain ⟨-, flag, weight, bias, hflag, huse, hholds, hbytes, hheap⟩ :=
        wp_of_ok (spec_loadParameters ok.wellFormed hstate s.memory.allocator) hrun
      refine ⟨flag, weight, bias, hflag, huse, hholds, hbytes, ?_⟩
      intro files path₂ hpath₂ hw hroom
      have himage : state.image m.heap = checkpointBytes state state.flag weight bias := by
        rw [hheap, image_loaded ok.wellFormed hstate hholds]
      have hm' : (Runtime.onDisk { s with memory := m } files).moduleAt module =
          some (object, state) := hm
      have hroom' : (state.image (Runtime.onDisk { s with memory := m } files).heap).length ≤
          files.capacity := by
        change (state.image m.heap).length ≤ _
        rw [himage, length_checkpointBytes hholds, ← length_checkpointBytes hholds, ← hbytes]
        exact hroom
      rw [exec_moduleSave (ok'.onDisk files) hm' hpath₂ hw hroom']
      exact congrArg (fun image => EStateM.Result.ok Reply.done
        (Runtime.withFile (Runtime.onDisk _ files) path₂ image)) himage

/-- A module is loaded from what some module of its architecture was saved as, with any
byte of the same truth in place of the bias flag; saved again, it gives these bytes with
the flag as 0 or 1. -/
theorem moduleLoad_returns_iff (hs : Attained s) (hmem : Lasting s)
    (hm : s.moduleAt module = some (object, state)) (hpath : path.isEmpty = false)
    {bytes : List Byte} (hfile : s.files.contents path = some bytes) :
    ((∃ reply s', exec (.moduleLoad module path) s = .ok reply s') ↔
      ∃ image flag, Written F D state image ∧ (flag ≠ 0 ↔ state.useBias = true) ∧
        bytes = image.set kUseBiasOffset flag) ∧
    (∀ reply s', exec (.moduleLoad module path) s = .ok reply s' →
      ∀ (files : FileSystem) (path₂ : String), path₂.isEmpty = false →
        files.writable path₂ = true → bytes.length ≤ files.capacity →
        ∃ saved, exec (.moduleSave module path₂) (s'.onDisk files) = .ok .done saved ∧
          saved.files.contents path₂ =
            some (bytes.set kUseBiasOffset (if state.useBias then 1 else 0))) := by
  have ok := hs.ok
  have hstate := ok.modules state (List.mem_of_getElem? (Runtime.get_moduleAt hm))
  have hcode : UInt8.ofNat state.flag = if state.useBias then 1 else 0 := by
    unfold LinearState.flag
    split <;> rfl
  have hset : ∀ flag weight bias, (checkpointBytes state flag weight bias).set kUseBiasOffset
      (UInt8.ofNat state.flag) = checkpointBytes state state.flag weight bias := by
    intro flag weight bias
    rw [set_checkpointBytes, UInt8.toNat_ofNat_of_lt' state.flag_lt]
  refine ⟨⟨?_, ?_⟩, ?_⟩
  · rintro ⟨reply, s', hload⟩
    obtain ⟨flag, weight, bias, hflag, huse, hholds, hbytes, hsave⟩ :=
      load_then_save hs hm hpath hfile hload
    refine ⟨_, UInt8.ofNat flag, ⟨s'.onDisk ⟨fun _ => none, fun _ => true, bytes.length⟩, _, module,
      object, state, "m", .done, ?_, ?_, ⟨rfl, rfl, rfl⟩,
      hsave ⟨fun _ => none, fun _ => true, bytes.length⟩ "m" rfl rfl (Nat.le_refl _),
      Runtime.contents_withFile _⟩, ?_, ?_⟩
    · have hafter := hs.call (.moduleLoad module path)
      unfold after at hafter
      rw [hload] at hafter
      exact hafter.disk _
    · rw [exec_moduleLoad hm hpath hfile] at hload
      cases hrun : loadParameters state bytes s.memory with
      | error e m => rw [hrun] at hload; cases hload
      | ok u m =>
          rw [hrun] at hload
          cases hload
          exact hm
    · rw [← huse, not_iff_not, ← UInt8.toNat_inj, UInt8.toNat_ofNat_of_lt' hflag]
      exact Iff.rfl
    · rw [set_checkpointBytes, UInt8.toNat_ofNat_of_lt' hflag, hbytes]
  · rintro ⟨image, flag, hw, huse, hbytes⟩
    obtain ⟨weight, bias, hholds, himage⟩ := hw.checkpoint
    rw [himage, set_checkpointBytes] at hbytes
    obtain ⟨m, hload, -⟩ := exec_moduleLoad_checkpoint ok hmem hm hpath hfile flag.toNat_lt
      (by rw [← huse, not_iff_not, ← UInt8.toNat_inj]; exact Iff.rfl) hholds hbytes
    exact ⟨_, _, hload⟩
  · intro reply s' hload files path₂ hpath₂ hwritable hroom
    obtain ⟨flag, weight, bias, hflag, huse, hholds, hbytes, hsave⟩ :=
      load_then_save hs hm hpath hfile hload
    refine ⟨_, hsave files path₂ hpath₂ hwritable hroom, ?_⟩
    rw [Runtime.contents_withFile, ← hcode, hbytes, hset]

end RoundTrip

def linearCalls : List (Call Word Word) := [.linearCreate 2 1 true, .linearCreate 2 1 true]

theorem attained_linear : Attained (sampleRun linearCalls) :=
  (Attained.start _ _).run linearCalls

theorem moduleAt_linear :
    (sampleRun linearCalls).moduleAt 1 = some (0, ⟨2, 1, true, true, 0, some 1⟩) := by
  decide +kernel

/-- The same layers, the first with weights 3 and 4 and bias 5, the second with 6, 7 and 8. -/
def valuedCalls : List (Call Word Word) := linearCalls ++
  [.moduleParameterAt 1 0, .moduleParameterAt 1 1, .moduleParameterAt 2 0, .moduleParameterAt 2 1,
    .tensorFromF32 [3, 4] [2, 1], .tensorFromF32 [5] [1], .tensorFromF32 [6, 7] [2, 1],
    .tensorFromF32 [8] [1], .tensorAssignMany (some [3, 4, 5, 6]) (some [7, 8, 9, 10]) 4]

theorem checkpoint_round_trip_linear :
    ∃ saved loaded, exec (.moduleSave 1 "m") (sampleRun valuedCalls) = .ok .done saved ∧
      exec (.moduleLoad 2 "m") saved = .ok .done loaded ∧
      saved.heap.contents 2 = [6, 7] ∧ loaded.heap.contents 2 = [3, 4] ∧
      saved.heap.contents 3 = [8] ∧ loaded.heap.contents 3 = [5] := by
  have hs : Attained (sampleRun valuedCalls) := (Attained.start _ _).run valuedCalls
  have hm : (sampleRun valuedCalls).moduleAt 1 = some (0, ⟨2, 1, true, true, 0, some 1⟩) := by
    decide +kernel
  have hpath : "m".isEmpty = false := rfl
  obtain ⟨bytes, saved, hsave, hkept, hbytes, hload⟩ :=
    checkpoint_round_trip hs hm hpath (by decide +kernel) (by decide +kernel)
  have hafter : saved = after (sampleRun valuedCalls) (.moduleSave 1 "m") := by
    unfold after
    rw [hsave]
  have hmem := (lasting_sampleRun valuedCalls).run [.moduleSave 1 "m"]
  rw [run, List.foldl_cons, List.foldl_nil, ← hafter] at hmem
  have hm₂ : saved.moduleAt 2 = some (1, ⟨2, 1, true, true, 2, some 3⟩) := by
    rw [hafter]
    decide +kernel
  obtain ⟨loaded, hloaded, hrestored⟩ := hload saved 2 1 _ "m" (hafter ▸ hs.call _)
    hmem hm₂ ⟨rfl, rfl, rfl⟩ hpath hbytes
  have hweight : (sampleRun valuedCalls).heap.contents 0 = [3, 4] := by decide +kernel
  have hbias : (sampleRun valuedCalls).heap.contents 1 = [5] := by decide +kernel
  refine ⟨saved, loaded, hsave, hloaded, ?_, hrestored.weight.trans hweight, ?_, ?_⟩
  · rw [hkept]
    decide +kernel
  · rw [hkept]
    decide +kernel
  · exact (hrestored.bias 3 1 rfl rfl).trans hbias

/-- A checkpoint cut after its magic. -/
theorem moduleLoad_atomic_torn :
    let image := LinearState.image ⟨2, 1, true, true, 0, some 1⟩ (sampleRun linearCalls).heap
    ∃ e s', exec (.moduleLoad 2 "t") ((sampleRun linearCalls).onDisk
      ⟨fun _ => some (image.take 8), fun _ => true, 0⟩) = .error e s' := by
  intro image
  have hsave :=
    exec_moduleSave attained_linear.ok moduleAt_linear (show "m".isEmpty = false from rfl)
    rfl (by decide +kernel)
  refine (moduleLoad_atomic attained_linear).2 1 "m" .done _ image (image.take 8) hsave
    (Runtime.contents_withFile _) (List.take_prefix 8 image) (fun heq => ?_) _ 2 "t"
    (attained_linear.disk _) rfl
  have hlen := congrArg List.length heq
  have : (image.take 8).length ≠ image.length := by decide +kernel
  exact this hlen

def flaggedRun (flag : Nat) : Runtime Word Word :=
  (sampleRun linearCalls).onDisk ⟨fun _ => some (checkpointBytes ⟨2, 1, true, true, 0, some 1⟩ flag
    (List.replicate 8 0) (List.replicate 4 0)), fun _ => true, 0⟩

theorem loads_flaggedRun {flag : Nat} (hflag : flag < 256) (hne : flag ≠ 0) :
    ∃ reply s', exec (.moduleLoad 1 "m") (flaggedRun flag) = .ok reply s' := by
  obtain ⟨m, hload, -⟩ := exec_moduleLoad_checkpoint (s := flaggedRun flag)
    (attained_linear.disk _).ok (lasting_sampleRun linearCalls) moduleAt_linear
    (show "m".isEmpty = false from rfl) rfl hflag (by simp [hne]) ⟨rfl, fun _ => rfl⟩ rfl
  exact ⟨_, _, hload⟩

/-- A bias flag of two is accepted and never written. -/
theorem moduleLoad_flag_two : ∃ (s : Runtime Word Word) (state : LinearState) (bytes : List Byte),
    Attained s ∧ s.moduleAt 1 = some (0, state) ∧ s.files.contents "m" = some bytes ∧
    (∃ reply s', exec (.moduleLoad 1 "m") s = .ok reply s') ∧ ¬Written Word Word state bytes := by
  refine ⟨flaggedRun 2, _, _, attained_linear.disk _, moduleAt_linear, rfl,
    loads_flaggedRun (by decide) (by decide), fun hw => ?_⟩
  obtain ⟨weight, bias, -, hbytes⟩ := hw.checkpoint
  have hget := congrArg (fun bytes : List Byte => bytes[kUseBiasOffset]?) hbytes
  simp only [get_checkpointBytes, LinearState.flag] at hget
  cases hget

theorem moduleLoad_returns_iff_one : ∃ image flag,
    Written Word Word ⟨2, 1, true, true, 0, some 1⟩ image ∧
      checkpointBytes ⟨2, 1, true, true, 0, some 1⟩ 1 (List.replicate 8 0) (List.replicate 4 0) =
        image.set kUseBiasOffset flag := by
  obtain ⟨image, flag, hw, -, hbytes⟩ := ((moduleLoad_returns_iff (s := flaggedRun 1)
    (attained_linear.disk _) (lasting_sampleRun linearCalls) moduleAt_linear
    (show "m".isEmpty = false from rfl) rfl).1.mp (loads_flaggedRun (by decide) (by decide)))
  exact ⟨image, flag, hw, hbytes⟩

end Api

end Tensora
