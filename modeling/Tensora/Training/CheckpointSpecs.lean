import Tensora.Api.Invariant

/-! The bytes of a checkpoint. What the loader accepts is the encoding of what it
loads, and an encoding of the expected architecture is always accepted. -/
namespace Tensora
open ByteCodec ProgramLogic

variable {F D : Type} [Training.FloatBits F]

namespace Training

def tensorBytes (dims : List Nat) (payload : List Byte) : List Byte :=
  encode 8 dims.length ++ dims.flatMap (encode 8) ++ encode 8 dims.prod ++ payload

def payloadOf (values : List F) : List Byte := values.flatMap floatBytes

@[simp] theorem length_floatBytes (value : F) : (floatBytes value).length = 4 := length_encode 4 _

theorem floatOfBytes_floatBytes {F : Type} [FloatPattern F] (value : F) :
    floatOfBytes (floatBytes value) = value := by
  unfold floatOfBytes floatBytes
  rw [decode_encode (by have := (FloatBits.bits value).isLt; norm_num; omega),
    BitVec.ofNat_toNat, BitVec.setWidth_eq, FloatPattern.ofBits_bits]

theorem floatBytes_floatOfBytes {F : Type} [FloatPattern F] {bytes : List Byte}
    (h : bytes.length = 4) : floatBytes (floatOfBytes bytes : F) = bytes := by
  have hlt := decode_lt bytes
  rw [h] at hlt
  unfold floatOfBytes floatBytes
  rw [FloatPattern.bits_ofBits, BitVec.toNat_ofNat,
    Nat.mod_eq_of_lt (by norm_num at hlt ⊢; exact hlt), ← h, encode_decode]

theorem length_payloadOf (values : List F) : (payloadOf values).length = 4 * values.length := by
  unfold payloadOf
  induction values with
  | nil => rfl
  | cons value values ih =>
      rw [List.flatMap_cons, List.length_append, ih, length_floatBytes, List.length_cons]
      omega

@[simp] theorem length_decodeFloats (count : Nat) (bytes : List Byte) :
    (decodeFloats count bytes : List F).length = count := by
  induction count generalizing bytes with
  | zero => rfl
  | succ count ih => simp [decodeFloats, ih]

theorem decodeFloats_payloadOf {F : Type} [FloatPattern F] (values : List F) :
    decodeFloats values.length (payloadOf values) = values := by
  unfold payloadOf
  induction values with
  | nil => rfl
  | cons value values ih =>
      rw [List.flatMap_cons, List.length_cons, decodeFloats,
        List.take_left' (length_floatBytes value), List.drop_left' (length_floatBytes value),
        floatOfBytes_floatBytes, ih]

theorem payloadOf_decodeFloats {F : Type} [FloatPattern F] {count : Nat} {bytes : List Byte}
    (h : bytes.length = 4 * count) : payloadOf (decodeFloats count bytes : List F) = bytes := by
  unfold payloadOf
  induction count generalizing bytes with
  | zero =>
      rw [List.length_eq_zero_iff.mp (by omega : bytes.length = 0)]
      rfl
  | succ count ih =>
      rw [decodeFloats, List.flatMap_cons,
        floatBytes_floatOfBytes (by rw [List.length_take]; omega),
        ih (by rw [List.length_drop]; omega), List.take_append_drop]

section Reading
variable {h : Heap F}

omit [FloatBits F] in
theorem spec_readScalar {width : Nat} {stream : List Byte} {message : String} :
    Spec (readScalar width stream message : Mem F (Nat × List Byte)) h
      (fun r h' => h' = h ∧ stream = encode width r.1 ++ r.2 ∧ r.1 < 256 ^ width)
      (fun _ h' => h' = h) (fun h' => h' = h) := by
  unfold readScalar
  cases hr : readNat width stream with
  | none => exact spec_throw rfl
  | some r => exact spec_pure ⟨rfl, readNat_eq_some hr⟩

omit [FloatBits F] in
theorem readScalar_encode {width n : Nat} (rest : List Byte) (message : String)
    (hn : n < 256 ^ width) :
    (readScalar width (encode width n ++ rest) message : Mem F (Nat × List Byte)) =
      pure (n, rest) := by
  unfold readScalar
  rw [readNat_encode rest hn]

omit [FloatBits F] in
theorem spec_readDimensions {rank : Nat} {stream : List Byte} :
    Spec (readDimensions rank stream : Mem F (List Int × List Byte)) h
      (fun r h' => h' = h ∧ ∃ raw : List Nat, raw.length = rank ∧ (∀ n ∈ raw, n < 256 ^ 8) ∧
        r.1 = raw.map (toSigned 8) ∧ stream = raw.flatMap (encode 8) ++ r.2)
      (fun _ h' => h' = h) (fun h' => h' = h) := by
  induction rank generalizing stream with
  | zero => exact spec_pure ⟨rfl, [], rfl, by simp, rfl, rfl⟩
  | succ rank ih =>
      unfold readDimensions
      refine Spec.bind spec_readScalar ?_
      rintro ⟨n, rest⟩ h ⟨rfl, rfl, hn⟩
      refine Spec.bind ih ?_
      rintro ⟨dims, rest'⟩ h ⟨rfl, raw, hlen, hraw, hdims, hrest⟩
      refine spec_pure ⟨rfl, n :: raw, by simp [hlen], ?_, ?_, ?_⟩
      · intro m hm
        rcases List.mem_cons.mp hm with rfl | hm
        · exact hn
        · exact hraw m hm
      · rw [List.map_cons]
        exact congrArg _ hdims
      · simp only at hrest
        rw [List.flatMap_cons, List.append_assoc, ← hrest]

omit [FloatBits F] in
theorem readDimensions_encode {dims : List Nat} (rest : List Byte) (hd : ∀ d ∈ dims, d < 2 ^ 63) :
    (readDimensions dims.length (dims.flatMap (encode 8) ++ rest) : Mem F (List Int × List Byte)) =
      pure (dims.map Int.ofNat, rest) := by
  induction dims with
  | nil => rfl
  | cons d dims ih =>
      have hlt := hd d (by simp)
      rw [List.length_cons, readDimensions, List.flatMap_cons, List.append_assoc,
        readScalar_encode _ _ (by norm_num; omega), pure_bind]
      simp only
      rw [ih fun e he => hd e (by simp [he]), pure_bind, toSigned_of_lt (by norm_num; omega)]
      rfl

omit [FloatBits F] in
theorem raw_eq_of_toSigned {raw dims : List Nat} (hraw : ∀ n ∈ raw, n < 256 ^ 8)
    (h : raw.map (toSigned 8) = dims.map Int.ofNat) : raw = dims := by
  induction raw generalizing dims with
  | nil =>
      cases dims with
      | nil => rfl
      | cons d dims => cases h
  | cons n raw ih =>
      cases dims with
      | nil => cases h
      | cons d dims =>
          rw [List.map_cons, List.map_cons, List.cons.injEq] at h
          rw [toSigned_eq_natCast (by have := hraw n (by simp); norm_num at this ⊢; omega) h.1,
            ih (fun m hm => hraw m (by simp [hm])) h.2]

theorem spec_readTensorPayload {stream : List Byte} {shape : ShapeInfo} :
    Spec (readTensorPayload stream shape : Mem F (List F × List Byte)) h
      (fun r h' => h' = h ∧ ∃ payload : List Byte, payload.length = 4 * shape.dimensions.prod ∧
        r.1 = decodeFloats shape.dimensions.prod payload ∧
        stream = tensorBytes shape.dimensions payload ++ r.2)
      (fun _ h' => h' = h) (fun h' => h' = h) := by
  unfold readTensorPayload
  refine Spec.bind spec_readScalar ?_
  rintro ⟨rank, rest⟩ h ⟨rfl, hstream, -⟩
  refine spec_failIf_bind (fun _ => rfl) fun _ => ?_
  refine (observes_allocate h).bind rfl fun _ _ => ?_
  refine Spec.bind spec_readDimensions ?_
  rintro ⟨dims, rest₂⟩ h ⟨rfl, raw, hrank, hraw, hdims, hrest⟩
  refine (observes_allocate h).bind rfl fun _ _ => ?_
  simp only at hstream hdims hrest ⊢
  cases hv : validateShape dims with
  | error e => exact spec_throw rfl
  | ok read =>
      obtain ⟨hcanonical, heq⟩ := validateShape_ok hv
      refine spec_failIf_bind (fun _ => rfl) fun hsame => ?_
      have hsame' : read.dimensions = shape.dimensions := sameShape_iff.mp (by simpa using hsame)
      obtain rfl := raw_eq_of_toSigned hraw (hdims.symm.trans heq)
      refine Spec.bind spec_readScalar ?_
      rintro ⟨numel, rest₃⟩ h ⟨rfl, hrest₃, -⟩
      refine spec_failIf_bind (fun _ => rfl) fun hnumel => ?_
      rw [not_or, not_not] at hnumel
      refine Spec.bind ((spec_allocateFloats h numel).mono (fun _ _ hq => hq.1)
        (fun _ _ he => he.1) fun _ hx => hx) ?_
      rintro _ h rfl
      simp only at hrest₃ hnumel ⊢
      cases ht : take (4 * numel) rest₃ with
      | none => exact spec_throw rfl
      | some split =>
          obtain ⟨payload, rest₄⟩ := split
          obtain ⟨hpayload, hlen⟩ := take_eq_some ht
          have hn : numel = shape.dimensions.prod := by
            rw [hnumel.1, hcanonical.numel_eq, hsame']
          refine spec_pure ⟨rfl, payload, by rw [hlen, hn], by rw [hn], ?_⟩
          rw [tensorBytes, hstream, hrest, hrest₃, hpayload, hn, ← hrank, hsame']
          simp only [List.append_assoc]

/-- The encoding of a tensor of the expected shape is read back. The stream is a variable
so that no step computes its bytes. -/
theorem observes_readTensorPayload {shape : ShapeInfo} {payload stream rest : List Byte}
    (hs : stream = tensorBytes shape.dimensions payload ++ rest)
    (hd : ValidDims shape.dimensions) (hlen : payload.length = 4 * shape.dimensions.prod)
    (hfits : shape.dimensions.prod ≤ kMaxFloats) :
    Observes (readTensorPayload stream shape : Mem F (List F × List Byte)) h
      fun r => r = (decodeFloats shape.dimensions.prod payload, rest) := by
  have hrank := hd.rank
  have hlt := hd.prod_lt
  have hsmall : ∀ d ∈ shape.dimensions, d < 2 ^ 63 := fun d hmem => by
    have := Nat.le_of_dvd hd.prod_pos (List.dvd_prod hmem)
    omega
  have hbytes : stream =
      encode 8 shape.dimensions.length ++ (shape.dimensions.flatMap (encode 8) ++
        (encode 8 shape.dimensions.prod ++ (payload ++ rest))) := by
    simp only [hs, tensorBytes, List.append_assoc]
  unfold readTensorPayload
  rw [hbytes, readScalar_encode _ _ (by norm_num [kMaxTensorRank] at hrank ⊢; omega), pure_bind]
  simp only
  refine spec_failIf_bind (fun hgt => ?_) fun _ => ?_
  · norm_num [kMaxTensorRank] at hrank
    omega
  refine (observes_allocate h).bind rfl fun _ _ => ?_
  rw [readDimensions_encode _ hsmall, pure_bind]
  simp only
  refine (observes_allocate h).bind rfl fun _ _ => ?_
  rw [validateShape_of_valid hd]
  simp only
  refine spec_failIf_bind (fun hne => ?_) fun _ => ?_
  · have hsame : sameShape (canonicalShape shape.dimensions) shape = true := sameShape_iff.mpr rfl
    rw [hsame] at hne
    cases hne
  rw [readScalar_encode _ _ (by norm_num; omega), pure_bind]
  simp only
  refine spec_failIf_bind (fun hne => ?_) fun _ => ?_
  · rcases hne with hne | hne
    · exact hne rfl
    · exact absurd hd.bound (Nat.not_le.mpr hne)
  refine (observes_allocateFloats h hfits).bind rfl fun _ _ => ?_
  rw [take_append hlen]
  exact spec_pure ⟨rfl, rfl⟩

def headerBytes (inFeatures outFeatures flag : Nat) : List Byte :=
  kCheckpointMagic ++ encode 4 kCheckpointVersion ++ encode 8 inFeatures ++
    encode 8 outFeatures ++ encode 1 flag

/-- A checkpoint of an architecture around the payloads of its parameters, with the byte
that stands for its bias flag. -/
def checkpointBytes (state : LinearState) (flag : Nat) (weight bias : List Byte) : List Byte :=
  headerBytes state.inFeatures state.outFeatures flag ++
    (tensorBytes [state.inFeatures, state.outFeatures] weight ++
      if state.useBias then tensorBytes [state.outFeatures] bias else [])

omit [FloatBits F] in
theorem spec_readHeader {stream : List Byte} :
    Spec (readHeader stream : Mem F ((Nat × Int × Int × Nat) × List Byte)) h
      (fun r h' => h' = h ∧ ∃ version inRaw outRaw, r.1.1 = version ∧ r.1.2.1 = toSigned 8 inRaw ∧
        r.1.2.2.1 = toSigned 8 outRaw ∧ inRaw < 256 ^ 8 ∧ outRaw < 256 ^ 8 ∧ r.1.2.2.2 < 256 ∧
        stream = kCheckpointMagic ++ encode 4 version ++ encode 8 inRaw ++ encode 8 outRaw ++
          encode 1 r.1.2.2.2 ++ r.2)
      (fun _ h' => h' = h) (fun h' => h' = h) := by
  unfold readHeader
  cases ht : take kCheckpointMagic.length stream with
  | none => exact spec_throw rfl
  | some split =>
      obtain ⟨magic, rest⟩ := split
      obtain ⟨hsplit, -⟩ := take_eq_some ht
      refine spec_failIf_bind (fun _ => rfl) fun hmagic => ?_
      refine Spec.bind spec_readScalar ?_
      rintro ⟨version, rest₁⟩ h ⟨rfl, h₁, -⟩
      refine Spec.bind spec_readScalar ?_
      rintro ⟨inRaw, rest₂⟩ h ⟨rfl, h₂, hin⟩
      refine Spec.bind spec_readScalar ?_
      rintro ⟨outRaw, rest₃⟩ h ⟨rfl, h₃, hout⟩
      refine Spec.bind spec_readScalar ?_
      rintro ⟨flag, rest₄⟩ h ⟨rfl, h₄, hflag⟩
      refine spec_pure ⟨rfl, version, inRaw, outRaw, rfl, rfl, rfl, hin, hout, hflag, ?_⟩
      simp only at h₁ h₂ h₃ h₄ ⊢
      rw [hsplit, not_not.mp hmagic, h₁, h₂, h₃, h₄]
      simp only [List.append_assoc]

omit [FloatBits F] in
theorem readHeader_headerBytes {inFeatures outFeatures flag : Nat} (rest : List Byte)
    (hin : inFeatures < 2 ^ 63) (hout : outFeatures < 2 ^ 63) (hflag : flag < 256) :
    (readHeader (headerBytes inFeatures outFeatures flag ++ rest) :
        Mem F ((Nat × Int × Int × Nat) × List Byte)) =
      pure ((kCheckpointVersion, (inFeatures : Int), (outFeatures : Int), flag), rest) := by
  have hbytes : headerBytes inFeatures outFeatures flag ++ rest = kCheckpointMagic ++
      (encode 4 kCheckpointVersion ++ (encode 8 inFeatures ++ (encode 8 outFeatures ++
        (encode 1 flag ++ rest)))) := by
    simp only [headerBytes, List.append_assoc]
  unfold readHeader
  rw [hbytes, take_append rfl]
  simp only
  have hmagic : (failIf (kCheckpointMagic ≠ kCheckpointMagic)
      (internalError "module_load: invalid checkpoint magic") : Mem F Unit) = pure () :=
    if_neg (fun hne => hne rfl)
  rw [hmagic, pure_bind, readScalar_encode _ _ (by norm_num [kCheckpointVersion]), pure_bind]
  simp only
  rw [readScalar_encode _ _ (by norm_num; omega), pure_bind]
  simp only
  rw [readScalar_encode _ _ (by norm_num; omega), pure_bind]
  simp only
  rw [readScalar_encode _ _ (by norm_num; omega), pure_bind, toSigned_of_lt (by norm_num; omega),
    toSigned_of_lt (by norm_num; omega)]

def LinearState.restored (state : LinearState) (h : Heap F) (weight bias : List F) : Heap F :=
  match state.bias with
  | none => h.assigned state.weight weight
  | some b => (h.assigned state.weight weight).assigned b bias

structure LinearState.Holds (state : LinearState) (weight bias : List Byte) : Prop where
  weight : weight.length = 4 * (state.inFeatures * state.outFeatures)
  bias : state.useBias = true → bias.length = 4 * state.outFeatures

def LinearState.loaded (state : LinearState) (h : Heap F) (weight bias : List Byte) : Heap F :=
  state.restored h (decodeFloats (state.inFeatures * state.outFeatures) weight)
    (decodeFloats state.outFeatures bias)

omit [FloatBits F] in
theorem spec_restoreBoth {state : LinearState} {b : TensorId} {weight bias : List F}
    (wf : WellFormed h) (ok : state.Ok h) (hb : state.bias = some b)
    (hw : weight.length = state.inFeatures * state.outFeatures)
    (hbias : bias.length = state.outFeatures) :
    Spec (do restoreParameter state.weight weight; restoreParameter b bias : Mem F Unit) h
      (fun _ h' => h' = (h.assigned state.weight weight).assigned b bias)
      (fun _ _ => False) (fun _ => False) := by
  obtain ⟨t, ht⟩ := ok.weight_visible.get
  have hlen : weight.length = t.numel := by
    rw [Heap.Visible.numel wf ht, ok.weight_dims, hw]
    simp
  have e := (Unrecorded.assigned wf ok.weight_visible ht hlen).evolves
  have hv := e.visible _ (ok.bias_visible b hb)
  obtain ⟨t', ht'⟩ := hv.get
  refine Spec.bind (spec_restoreParameter wf ok.weight_visible ht ok.weight_rowMajor hlen) ?_
  rintro _ _ rfl
  refine spec_restoreParameter e.wellFormed hv ht' ?_ ?_
  · rw [e.contiguous_eq (ok.bias_visible b hb).1, ok.bias_rowMajor b hb]
  · rw [Heap.Visible.numel e.wellFormed ht', e.dims_eq (ok.bias_visible b hb).1, ok.bias_dims b hb,
      hbias]
    simp

omit [FloatBits F] in
theorem spec_restoreWeight {state : LinearState} {weight : List F} (wf : WellFormed h)
    (ok : state.Ok h) (hw : weight.length = state.inFeatures * state.outFeatures) :
    Spec (restoreParameter state.weight weight : Mem F Unit) h
      (fun _ h' => h' = h.assigned state.weight weight) (fun _ _ => False) (fun _ => False) := by
  obtain ⟨t, ht⟩ := ok.weight_visible.get
  refine spec_restoreParameter wf ok.weight_visible ht ok.weight_rowMajor ?_
  rw [Heap.Visible.numel wf ht, ok.weight_dims, hw]
  simp

/-- A load that returns has read a checkpoint of its architecture and restored the
parameters from it; any other load leaves the tables alone. -/
theorem spec_loadParameters {state : LinearState} {stream : List Byte} (wf : WellFormed h)
    (ok : state.Ok h) :
    Spec (loadParameters state stream : Mem F Unit) h
      (fun _ h' => ∃ (flag : Nat) (weight bias : List Byte), flag < 256 ∧
        (flag ≠ 0 ↔ state.useBias = true) ∧
        state.Holds weight bias ∧ stream = checkpointBytes state flag weight bias ∧
        h' = state.loaded h weight bias)
      (fun _ h' => h' = h) (fun h' => h' = h) := by
  obtain ⟨t, ht⟩ := ok.weight_visible.get
  have hwd : t.shape.dimensions = [state.inFeatures, state.outFeatures] := by
    rw [← Heap.dims_of ht, ok.weight_dims]
  unfold loadParameters
  refine Spec.bind spec_readHeader ?_
  rintro ⟨⟨version, inFeatures, outFeatures, flag⟩, rest⟩ h
    ⟨rfl, version', inRaw, outRaw, rfl, hin, hout, hinlt, houtlt, hflag, hstream⟩
  simp only at hin hout hflag hstream ⊢
  refine spec_failIf_bind (fun _ => rfl) fun hcompatible => ?_
  simp only [not_or, not_not] at hcompatible
  obtain ⟨hversion, hinf, houtf, huse⟩ := hcompatible
  have hin' : inRaw = state.inFeatures :=
    toSigned_eq_natCast (by norm_num at hinlt ⊢; exact hinlt) (hin.symm.trans hinf)
  have hout' : outRaw = state.outFeatures :=
    toSigned_eq_natCast (by norm_num at houtlt ⊢; exact houtlt) (hout.symm.trans houtf)
  have hheader : stream = headerBytes state.inFeatures state.outFeatures flag ++ rest := by
    rw [hstream, hversion, hin', hout', headerBytes]
  have huse' : flag ≠ 0 ↔ state.useBias = true := by
    by_cases hz : flag = 0 <;> cases hu : state.useBias <;> simp_all
  refine (observes_deref ht).bind rfl ?_
  rintro t rfl
  refine Spec.bind spec_readTensorPayload ?_
  rintro ⟨values, rest₂⟩ h ⟨rfl, weight, hwlen, hvalues, hweight⟩
  have hprod : [state.inFeatures, state.outFeatures].prod =
    state.inFeatures * state.outFeatures := by
    simp
  simp only [hwd, hprod] at hwlen hvalues hweight
  subst hvalues
  have hbiasSome := ok.useBias
  cases hub : state.useBias with
  | false =>
      refine spec_failIf_bind (fun _ => rfl) fun hempty => ?_
      have hempty' : rest₂ = [] := by simpa using hempty
      refine (spec_restoreWeight wf ok (length_decodeFloats _ _)).mono ?_
        (fun _ _ he => he.elim) fun _ hx => hx.elim
      rintro _ _ rfl
      refine ⟨flag, weight, [], hflag, by rw [hub] at huse'; exact huse', ⟨hwlen, by simp [hub]⟩,
        ?_, ?_⟩
      · rw [hheader, hweight, hempty', checkpointBytes, hub]
        simp
      · rw [hub] at hbiasSome
        cases hb : state.bias with
        | some b => rw [hb] at hbiasSome; cases hbiasSome
        | none => rw [LinearState.loaded, LinearState.restored, hb]
  | true =>
      rw [hub] at hbiasSome
      cases hb : state.bias with
      | none => rw [hb] at hbiasSome; cases hbiasSome
      | some b =>
          obtain ⟨tb, htb⟩ := (ok.bias_visible b hb).get
          have hbd : tb.shape.dimensions = [state.outFeatures] := by
            rw [← Heap.dims_of htb, ok.bias_dims b hb]
          refine (observes_deref htb).bind rfl ?_
          rintro tb rfl
          refine Spec.bind spec_readTensorPayload ?_
          rintro ⟨values, rest₃⟩ h ⟨rfl, bias, hblen, hvalues, hbytes⟩
          simp only [hbd, List.prod_singleton] at hblen hvalues hbytes
          subst hvalues
          refine spec_failIf_bind (fun _ => rfl) fun hempty => ?_
          have hempty' : rest₃ = [] := by simpa using hempty
          refine (spec_restoreBoth wf ok hb (length_decodeFloats _ _)
            (length_decodeFloats _ _)).mono
            ?_ (fun _ _ he => he.elim) fun _ hx => hx.elim
          rintro _ _ rfl
          refine ⟨flag, weight, bias, hflag, by rw [hub] at huse'; exact huse',
            ⟨hwlen, fun _ => hblen⟩, ?_, ?_⟩
          · rw [hheader, hweight, hbytes, hempty', checkpointBytes, hub]
            simp
          · rw [LinearState.loaded, LinearState.restored, hb]

theorem spec_loadParameters_checkpoint {state : LinearState} {flag : Nat}
    {weight bias stream : List Byte} (wf : WellFormed h) (ok : state.Ok h) (hflag : flag < 256)
    (huse : flag ≠ 0 ↔ state.useBias = true) (hholds : state.Holds weight bias)
    (hstream : stream = checkpointBytes state flag weight bias) :
    Spec (loadParameters state stream : Mem F Unit) h
      (fun _ h' => h' = state.loaded h weight bias) (fun _ _ => False) (fun h' => h' = h) := by
  obtain ⟨t, ht⟩ := ok.weight_visible.get
  have hwd : t.shape.dimensions = [state.inFeatures, state.outFeatures] := by
    rw [← Heap.dims_of ht, ok.weight_dims]
  have hvalid := ok.weight_visible.valid wf
  have hfits := ok.weight_visible.fits wf
  rw [ok.weight_dims] at hvalid hfits
  have hsmall : ∀ d ∈ [state.inFeatures, state.outFeatures], d < 2 ^ 63 := fun d hmem => by
    have := Nat.le_of_dvd hvalid.prod_pos (List.dvd_prod hmem)
    have := hvalid.prod_lt
    omega
  obtain ⟨tail, htail⟩ : ∃ tail, tail =
      if state.useBias then tensorBytes [state.outFeatures] bias else [] := ⟨_, rfl⟩
  obtain ⟨rest, hrest⟩ : ∃ rest,
      rest = tensorBytes [state.inFeatures, state.outFeatures] weight ++ tail := ⟨_, rfl⟩
  have hheader : (readHeader stream : Mem F ((Nat × Int × Int × Nat) × List Byte)) =
      pure ((kCheckpointVersion, (state.inFeatures : Int), (state.outFeatures : Int), flag),
        rest) := by
    rw [hstream, checkpointBytes, ← htail, ← hrest]
    exact readHeader_headerBytes rest (hsmall _ (by simp)) (hsmall _ (by simp)) hflag
  unfold loadParameters
  rw [hheader, pure_bind]
  simp only
  refine spec_failIf_bind (fun hne => ?_) fun _ => ?_
  · rcases hne with hne | hne | hne | hne
    · exact hne rfl
    · exact hne rfl
    · exact hne rfl
    · by_cases hz : flag = 0 <;> cases hu : state.useBias <;> simp_all
  refine (observes_deref ht).bind rfl ?_
  rintro t rfl
  rw [← hwd] at hvalid hfits hrest
  refine (observes_readTensorPayload hrest hvalid (by rw [hholds.weight, hwd]; simp) hfits).bind
    rfl ?_
  rintro _ rfl
  have hprod : t.shape.dimensions.prod = state.inFeatures * state.outFeatures := by
    rw [hwd]
    simp
  rw [hprod]
  have hbiasSome := ok.useBias
  cases hub : state.useBias with
  | false =>
      refine spec_failIf_bind (fun hne => by simp [htail, hub] at hne) fun _ => ?_
      refine (spec_restoreWeight wf ok (length_decodeFloats _ _)).mono ?_ (fun _ _ he => he)
        fun _ hx => hx.elim
      rintro _ _ rfl
      rw [hub] at hbiasSome
      cases hb : state.bias with
      | some b => rw [hb] at hbiasSome; cases hbiasSome
      | none => rw [LinearState.loaded, LinearState.restored, hb]
  | true =>
      rw [hub] at hbiasSome
      cases hb : state.bias with
      | none => rw [hb] at hbiasSome; cases hbiasSome
      | some b =>
          obtain ⟨tb, htb⟩ := (ok.bias_visible b hb).get
          have hbd : tb.shape.dimensions = [state.outFeatures] := by
            rw [← Heap.dims_of htb, ok.bias_dims b hb]
          have hbvalid := (ok.bias_visible b hb).valid wf
          have hbfits := (ok.bias_visible b hb).fits wf
          rw [ok.bias_dims b hb] at hbvalid hbfits
          refine (observes_deref htb).bind rfl ?_
          rintro tb rfl
          rw [← hbd] at hbvalid hbfits
          have htail' : tail = tensorBytes tb.shape.dimensions bias ++ [] := by
            rw [htail, if_pos hub, hbd, List.append_nil]
          refine (observes_readTensorPayload htail' hbvalid (by rw [hholds.bias hub, hbd]; simp)
            hbfits).bind rfl ?_
          rintro _ rfl
          rw [hbd, List.prod_singleton]
          refine spec_failIf_bind (fun hne => by simp at hne) fun _ => ?_
          refine (spec_restoreBoth wf ok hb (length_decodeFloats _ _)
            (length_decodeFloats _ _)).mono
            ?_ (fun _ _ he => he) fun _ hx => hx.elim
          rintro _ _ rfl
          rw [LinearState.loaded, LinearState.restored, hb]

end Reading

end Training

end Tensora
