import Tensora.Training.AssignMany
import Tensora.Training.SaveSpecs

/-! Checkpoints as byte strings: how long they are, where their bias flag stands, and that
none of them is a strict prefix of another. -/
namespace Tensora.Training
open ByteCodec ProgramLogic

variable {F D : Type}

structure SameArchitecture (a b : LinearState) : Prop where
  inFeatures : a.inFeatures = b.inFeatures
  outFeatures : a.outFeatures = b.outFeatures
  useBias : a.useBias = b.useBias

def kUseBiasOffset : Nat := 28

section Format
variable {state other : LinearState} {flag flag' : Nat} {weight bias weight' bias' : List Byte}

theorem length_tensorBytes (dims : List Nat) (payload : List Byte) :
    (tensorBytes dims payload).length = 16 + 8 * dims.length + payload.length := by
  have hdims : (dims.flatMap (encode 8)).length = 8 * dims.length := by
    induction dims with
    | nil => rfl
    | cons d dims ih =>
        rw [List.flatMap_cons, List.length_append, ih, length_encode, List.length_cons]
        omega
  simp only [tensorBytes, List.length_append, length_encode, hdims]
  omega

def headerPrefix (inFeatures outFeatures : Nat) : List Byte :=
  kCheckpointMagic ++ encode 4 kCheckpointVersion ++ encode 8 inFeatures ++ encode 8 outFeatures

theorem length_headerPrefix (inFeatures outFeatures : Nat) :
    (headerPrefix inFeatures outFeatures).length = kUseBiasOffset := by
  simp only [headerPrefix, List.length_append, length_encode]
  rfl

def parameterBytes (state : LinearState) (weight bias : List Byte) : List Byte :=
  tensorBytes [state.inFeatures, state.outFeatures] weight ++
    if state.useBias then tensorBytes [state.outFeatures] bias else []

theorem checkpointBytes_eq (state : LinearState) (flag : Nat) (weight bias : List Byte) :
    checkpointBytes state flag weight bias =
      headerPrefix state.inFeatures state.outFeatures ++
        UInt8.ofNat flag :: parameterBytes state weight bias := by
  simp only [checkpointBytes, headerBytes, headerPrefix, parameterBytes, encode, List.append_assoc,
    List.cons_append, List.nil_append]

theorem set_checkpointBytes (byte : Byte) :
    (checkpointBytes state flag weight bias).set kUseBiasOffset byte =
      checkpointBytes state byte.toNat weight bias := by
  rw [checkpointBytes_eq, checkpointBytes_eq,
    List.set_append_right _ _ (length_headerPrefix _ _).le, length_headerPrefix, Nat.sub_self,
    List.set_cons_zero, UInt8.ofNat_toNat]

theorem get_checkpointBytes :
    (checkpointBytes state flag weight bias)[kUseBiasOffset]? = some (UInt8.ofNat flag) := by
  rw [checkpointBytes_eq, List.getElem?_append_right (length_headerPrefix _ _).le,
    length_headerPrefix, Nat.sub_self, List.getElem?_cons_zero]

theorem length_checkpointBytes (hholds : state.Holds weight bias) :
    (checkpointBytes state flag weight bias).length = 61 +
      4 * (state.inFeatures * state.outFeatures) +
        if state.useBias then 24 + 4 * state.outFeatures else 0 := by
  rw [checkpointBytes_eq, List.length_append, length_headerPrefix, List.length_cons, parameterBytes,
    List.length_append, length_tensorBytes, hholds.weight]
  split
  · rename_i hbias
    rw [length_tensorBytes, hholds.bias hbias]
    simp only [kUseBiasOffset, List.length_cons, List.length_nil]
    omega
  · simp only [kUseBiasOffset, List.length_cons, List.length_nil]
    omega

/-- The features of a module are within the range of `int64_t`. -/
structure LinearState.Small (state : LinearState) : Prop where
  inFeatures : state.inFeatures < 2 ^ 63
  outFeatures : state.outFeatures < 2 ^ 63

theorem headerPrefix_inj (hs : state.Small) (ho : other.Small)
    (heq : headerPrefix state.inFeatures state.outFeatures =
      headerPrefix other.inFeatures other.outFeatures) :
    state.inFeatures = other.inFeatures ∧ state.outFeatures = other.outFeatures := by
  have hlt : ∀ n, n < 2 ^ 63 → n < 256 ^ 8 := fun n hn => hn.trans (by norm_num)
  unfold headerPrefix at heq
  obtain ⟨hfront, hout⟩ := List.append_inj' heq (by simp)
  obtain ⟨-, hin⟩ := List.append_inj' hfront (by simp)
  exact ⟨encode_inj (hlt _ hs.inFeatures) (hlt _ ho.inFeatures) hin,
    encode_inj (hlt _ hs.outFeatures) (hlt _ ho.outFeatures) hout⟩

/-- A checkpoint that a checkpoint starts with is that checkpoint. -/
theorem checkpointBytes_prefix (hs : state.Small) (ho : other.Small) (hflag : flag < 256)
    (hflag' : flag' < 256) (huse : flag ≠ 0 ↔ state.useBias = true)
    (huse' : flag' ≠ 0 ↔ other.useBias = true) (hholds : state.Holds weight bias)
    (hholds' : other.Holds weight' bias')
    (hstart : checkpointBytes other flag' weight' bias' <+:
      checkpointBytes state flag weight bias) :
    checkpointBytes other flag' weight' bias' = checkpointBytes state flag weight bias := by
  refine hstart.eq_of_length ?_
  obtain ⟨rest, hrest⟩ := hstart
  rw [checkpointBytes_eq, checkpointBytes_eq, List.append_assoc] at hrest
  obtain ⟨hheader, htail⟩ :=
    List.append_inj hrest (by rw [length_headerPrefix, length_headerPrefix])
  obtain ⟨hin, hout⟩ := headerPrefix_inj ho hs hheader
  have hbyte : UInt8.ofNat flag' = UInt8.ofNat flag := (List.cons.inj htail).1
  have hsame : flag' = flag := by
    have := congrArg UInt8.toNat hbyte
    rwa [UInt8.toNat_ofNat_of_lt' hflag', UInt8.toNat_ofNat_of_lt' hflag] at this
  have hbias : other.useBias = state.useBias := by
    rw [Bool.eq_iff_iff, ← huse', ← huse, hsame]
  rw [length_checkpointBytes hholds, length_checkpointBytes hholds', hin, hout, hbias]

end Format

section Images
variable {state other : LinearState} {h : Heap F}

theorem LinearState.Ok.small (wf : WellFormed h) (ok : state.Ok h) : state.Small := by
  have hvalid := ok.weight_visible.valid wf
  rw [ok.weight_dims] at hvalid
  have hle : ∀ d ∈ [state.inFeatures, state.outFeatures], d < 2 ^ 63 := fun d hmem => by
    have := Nat.le_of_dvd hvalid.prod_pos (List.dvd_prod hmem)
    have := hvalid.prod_lt
    omega
  exact ⟨hle _ (by simp), hle _ (by simp)⟩

variable [FloatBits F]

def LinearState.weightPayload (state : LinearState) (h : Heap F) : List Byte :=
  payloadOf (h.contents state.weight)

def LinearState.biasPayload (state : LinearState) (h : Heap F) : List Byte :=
  state.bias.elim [] fun bias => payloadOf (h.contents bias)

theorem LinearState.Ok.holds (wf : WellFormed h) (ok : state.Ok h) :
    state.Holds (state.weightPayload h) (state.biasPayload h) where
  weight := by
    rw [weightPayload, length_payloadOf, ok.weight_visible.length wf, ok.weight_dims]
    simp
  bias := by
    intro huse
    rw [ok.useBias] at huse
    obtain ⟨b, hb⟩ := Option.isSome_iff_exists.mp huse
    rw [biasPayload, hb, Option.elim_some, length_payloadOf,
      (ok.bias_visible b hb).length wf, ok.bias_dims b hb]
    simp

/-- The flag `ModuleSave` writes. -/
def LinearState.flag (state : LinearState) : Nat := if state.useBias then 1 else 0

omit [FloatBits F] in
theorem LinearState.flag_lt (state : LinearState) : state.flag < 256 := by
  unfold flag
  split <;> omega

omit [FloatBits F] in
theorem LinearState.flag_iff (state : LinearState) : state.flag ≠ 0 ↔ state.useBias = true := by
  unfold flag
  split <;> simp_all

theorem LinearState.image_eq (state : LinearState) (h : Heap F) :
    state.image h =
      checkpointBytes state state.flag (state.weightPayload h) (state.biasPayload h) :=
  rfl

end Images

section Restoring
variable {state source : LinearState} {h h₀ : Heap F} {weight bias : List F}

def LinearState.restoring (state : LinearState) (weight bias : List F) :
    List (TensorId × List F) :=
  (state.weight, weight) :: state.bias.toList.map fun b => (b, bias)

theorem LinearState.Ok.mem_parameters (ok : state.Ok h) {id : TensorId} :
    id ∈ state.parameters ↔ id = state.weight ∨ state.bias = some id := by
  have huse := ok.useBias
  unfold parameters
  cases hb : state.bias with
  | none =>
      rw [hb] at huse
      simp [huse]
  | some b =>
      rw [hb] at huse
      simp [huse, eq_comm]

theorem LinearState.map_restoring (state : LinearState) (weight bias : List F) :
    (state.restoring weight bias).map Prod.fst = state.weight :: state.bias.toList := by
  simp [restoring, Function.comp_def]

theorem assigned_restored (wf : WellFormed h) (ok : state.Ok h)
    (hw : weight.length = state.inFeatures * state.outFeatures)
    (hbias : state.useBias = true → bias.length = state.outFeatures) :
    Assigned h (state.restoring weight bias) (state.restored h weight bias) := by
  have hlen : weight.length = (h.dims state.weight).prod := by
    rw [hw, ok.weight_dims]
    simp
  have first := (Assigned.start wf).snoc ok.weight_visible ok.weight_rowMajor hlen (by simp)
  cases hb : state.bias with
  | none =>
      simp only [LinearState.restoring, LinearState.restored, hb]
      exact first
  | some b =>
      have huse : state.useBias = true := by rw [ok.useBias, hb]; rfl
      have hnew : h.storageOf b ∉ [(state.weight, weight)].map fun p => h.storageOf p.1 := by
        obtain ⟨t, ht⟩ := ok.weight_visible.get
        obtain ⟨t', ht'⟩ := (ok.bias_visible b hb).get
        simp only [List.map_cons, List.map_nil, List.mem_singleton, Heap.storageOf, ht, ht',
          Option.map_some, Option.some.injEq]
        exact (ok.separate b t t' hb ht ht').symm
      simp only [LinearState.restoring, LinearState.restored, hb]
      exact first.snoc (ok.bias_visible b hb) (ok.bias_rowMajor b hb)
        (by rw [hbias huse, ok.bias_dims b hb]; simp) hnew

/-- The parameters of one module took the values the parameters of another had, each under
a new version and without a gradient. -/
structure Restored (h₀ : Heap F) (source : LinearState) (h : Heap F) (state : LinearState)
    (h' : Heap F) : Prop where
  weight : h'.contents state.weight = h₀.contents source.weight
  bias : ∀ b b', state.bias = some b → source.bias = some b' → h'.contents b = h₀.contents b'
  versions : ∀ id ∈ state.parameters, h'.version id = add64 (h.version id) 1
  gradients : ∀ id ∈ state.parameters, h'.gradient id = none

theorem restored_of_assigned {h' : Heap F} (ok : state.Ok h)
    (a : Assigned h (state.restoring weight bias) h')
    (hw : weight = h₀.contents source.weight)
    (hbias : ∀ b', source.bias = some b' → bias = h₀.contents b') :
    Restored h₀ source h state h' where
  weight := (a.contents (state.weight, weight) (by simp [LinearState.restoring])).trans hw
  bias := fun b b' hb hb' => (a.contents (b, bias) (by simp [LinearState.restoring, hb])).trans
    (hbias b' hb')
  versions := by
    intro id hid
    have hmem : ∃ p ∈ state.restoring weight bias, p.1 = id := by
      rcases ok.mem_parameters.mp hid with rfl | hb
      · exact ⟨(state.weight, weight), by simp [LinearState.restoring], rfl⟩
      · exact ⟨(id, bias), by simp [LinearState.restoring, hb], rfl⟩
    obtain ⟨p, hp, rfl⟩ := hmem
    rw [a.versions p.1 (a.targets p hp), if_pos (List.mem_map.mpr ⟨p, hp, rfl⟩)]
  gradients := by
    intro id hid
    rw [a.gradients, if_pos]
    rw [LinearState.map_restoring, List.mem_cons, Option.mem_toList]
    exact ok.mem_parameters.mp hid

theorem SameArchitecture.holds (same : SameArchitecture source state) {w b : List Byte}
    (hholds : source.Holds w b) : state.Holds w b where
  weight := by rw [hholds.weight, same.inFeatures, same.outFeatures]
  bias := fun huse => by rw [hholds.bias (same.useBias.trans huse), same.outFeatures]

theorem SameArchitecture.checkpointBytes_eq (same : SameArchitecture source state) (flag : Nat)
    (w b : List Byte) : checkpointBytes source flag w b = checkpointBytes state flag w b := by
  simp only [checkpointBytes, same.inFeatures, same.outFeatures, same.useBias]

variable [FloatPattern F]

theorem restored_loaded (wf₀ : WellFormed h₀) (ok₀ : source.Ok h₀) (wf : WellFormed h)
    (ok : state.Ok h) (same : SameArchitecture source state) :
    Restored h₀ source h state
      (state.loaded h (source.weightPayload h₀) (source.biasPayload h₀)) := by
  refine restored_of_assigned ok (assigned_restored wf ok (length_decodeFloats _ _)
    fun _ => length_decodeFloats _ _) ?_ fun b' hb' => ?_
  · have hlen := ok₀.weight_visible.length wf₀
    rw [ok₀.weight_dims, same.inFeatures, same.outFeatures] at hlen
    simp only [List.prod_cons, List.prod_nil, Nat.mul_one] at hlen
    rw [LinearState.weightPayload, ← hlen, decodeFloats_payloadOf]
  · have hlen := (ok₀.bias_visible b' hb').length wf₀
    rw [ok₀.bias_dims b' hb', same.outFeatures] at hlen
    simp only [List.prod_singleton] at hlen
    rw [LinearState.biasPayload, hb', Option.elim_some, ← hlen, decodeFloats_payloadOf]

theorem image_loaded (wf : WellFormed h) (ok : state.Ok h) {w b : List Byte}
    (hholds : state.Holds w b) :
    state.image (state.loaded h w b) = checkpointBytes state state.flag w b := by
  have a : Assigned h _ (state.loaded h w b) := assigned_restored wf ok (length_decodeFloats _ _)
    fun _ => length_decodeFloats _ _
  have hweight : state.weightPayload (state.loaded h w b) = w := by
    have hcontents := a.contents (state.weight, _) List.mem_cons_self
    rw [LinearState.weightPayload, hcontents, payloadOf_decodeFloats hholds.weight]
  cases hb : state.bias with
  | none =>
      have huse : state.useBias = false := by rw [ok.useBias, hb]; rfl
      simp only [LinearState.image_eq, hweight, checkpointBytes, huse, Bool.false_eq_true, if_false]
  | some id =>
      have huse : state.useBias = true := by rw [ok.useBias, hb]; rfl
      have hbias : state.biasPayload (state.loaded h w b) = b := by
        have hcontents := a.contents (id, decodeFloats state.outFeatures b)
          (by simp [LinearState.restoring, hb])
        rw [LinearState.biasPayload, hb, Option.elim_some, hcontents,
          payloadOf_decodeFloats (hholds.bias huse)]
      rw [LinearState.image_eq, hweight, hbias]

end Restoring

end Tensora.Training
