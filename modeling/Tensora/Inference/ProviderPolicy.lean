import Mathlib.Data.List.TakeWhile
import Tensora.Core.Status

/-! The choice of an ONNX execution provider: what a session uses, and the pure policy beside it
that is tested in its place. -/
namespace Tensora.Inference

/-- A `std::string`: any bytes, zero bytes included. -/
abbrev ByteString := List UInt8

/-- What a `const char*` points to, up to its terminator. -/
structure CString where
  val : ByteString
  terminated : 0 ∉ val

/-- `c_str()`, read as a C string: it ends at the first zero byte. -/
def cStr (text : ByteString) : CString where
  val := text.takeWhile (· ≠ 0)
  terminated := by
    intro member
    simpa using List.mem_takeWhile_imp member

theorem cStr_val {text : ByteString} (h : 0 ∉ text) : (cStr text).val = text := by
  apply List.takeWhile_eq_self_iff.mpr
  intro byte member
  have : byte ≠ 0 := fun zero => h (zero ▸ member)
  simpa using this

inductive OrtErrorCode where
  | noSuchFile
  | invalidGraph
  | invalidProtobuf
  | modelLoaded
  | invalidArgument
  | notImplemented
  | other (code : Nat)
  deriving DecidableEq, Repr

/-- An `Ort::Exception` in flight. -/
structure OrtException where
  what : String
  code : OrtErrorCode
  deriving DecidableEq, Repr

def ortFailure (operation : String) (error : OrtException) : Failure :=
  if error.code = .noSuchFile ∨ error.code = .invalidGraph ∨ error.code = .invalidProtobuf ∨
      error.code = .modelLoaded then
    modelError (operation ++ ": " ++ error.what)
  else if error.code = .invalidArgument then
    invalidArgument (operation ++ ": " ++ error.what)
  else if error.code = .notImplemented then
    unsupported (operation ++ ": " ++ error.what)
  else modelError (operation ++ ": " ++ error.what)

def kAutoProvider : CString := cStr "auto".toUTF8.toList
def kCpuProvider : CString := cStr "CPUExecutionProvider".toUTF8.toList
def kCudaProvider : CString := cStr "CUDAExecutionProvider".toUTF8.toList
def kDmlProvider : CString := cStr "DmlExecutionProvider".toUTF8.toList
def kCoreMlProvider : CString := cStr "CoreMLExecutionProvider".toUTF8.toList
def kOpenVinoProvider : CString := cStr "OpenVINOExecutionProvider".toUTF8.toList
def kMiGraphXProvider : CString := cStr "MIGraphXExecutionProvider".toUTF8.toList

inductive Platform where
  | windows
  | apple
  | other
  deriving DecidableEq, Repr

structure OrtBuild where
  platform : Platform
  withDml : Bool
  withCoreMl : Bool
  deriving DecidableEq, Repr

/-- What a resolution depends on beside the request: the candidates of `auto`, in order, and the
providers the build can configure. -/
structure ProviderPolicy where
  candidates : List CString
  canConfigureProvider : ByteString → Bool

def isKnownProvider (provider : ByteString) : Bool :=
  provider == kAutoProvider.val || provider == kCpuProvider.val ||
    provider == kCudaProvider.val || provider == kDmlProvider.val ||
    provider == kCoreMlProvider.val || provider == kOpenVinoProvider.val ||
    provider == kMiGraphXProvider.val

def isProviderAvailable (available : List ByteString) (provider : CString) : Bool :=
  available.contains provider.val

namespace OrtBuild
variable (build : OrtBuild)

def canConfigureProvider (provider : ByteString) : Bool :=
  if provider == kCpuProvider.val || provider == kCudaProvider.val ||
      provider == kOpenVinoProvider.val || provider == kMiGraphXProvider.val then true
  else if build.withDml && provider == kDmlProvider.val then true
  else if build.withCoreMl && provider == kCoreMlProvider.val then true
  else false

def candidates : List CString :=
  match build.platform with
  | .windows => [kCudaProvider, kOpenVinoProvider, kDmlProvider, kMiGraphXProvider, kCpuProvider]
  | .apple => [kCoreMlProvider, kCpuProvider]
  | .other => [kCudaProvider, kMiGraphXProvider, kOpenVinoProvider, kCpuProvider]

def policy : ProviderPolicy := ⟨build.candidates, build.canConfigureProvider⟩

/-- The providers `canConfigureProvider` accepts. -/
def configurable : List ByteString :=
  [kCpuProvider.val, kCudaProvider.val, kOpenVinoProvider.val, kMiGraphXProvider.val] ++
    (if build.withDml then [kDmlProvider.val] else []) ++
    (if build.withCoreMl then [kCoreMlProvider.val] else [])

theorem mem_configurable (provider : ByteString) :
    provider ∈ build.configurable ↔ build.policy.canConfigureProvider provider = true := by
  obtain ⟨platform, withDml, withCoreMl⟩ := build
  cases withDml <;> cases withCoreMl <;>
    simp [configurable, policy, canConfigureProvider, or_assoc]

end OrtBuild

def firstCandidate (canConfigureProvider : ByteString → Bool) (available : List ByteString) :
    List CString → Except OrtException ByteString
  | [] => .error ⟨"No supported ONNX execution provider is available", .notImplemented⟩
  | candidate :: rest =>
      if isProviderAvailable available candidate && canConfigureProvider candidate.val then
        .ok candidate.val
      else firstCandidate canConfigureProvider available rest

namespace ProviderPolicy
variable (policy : ProviderPolicy) (available : List ByteString)

def resolveAutoProvider : Except OrtException ByteString :=
  firstCandidate policy.canConfigureProvider available policy.candidates

/-- `ResolveProvider`, where the runtime reports `available`. -/
def resolveProvider (requestedProvider : ByteString) : Except OrtException ByteString :=
  if ¬isKnownProvider requestedProvider then
    .error ⟨"Unknown ONNX execution provider", .invalidArgument⟩
  else if requestedProvider = kAutoProvider.val then policy.resolveAutoProvider available
  else if ¬isProviderAvailable available (cStr requestedProvider) then
    .error ⟨"Requested ONNX execution provider is not available", .notImplemented⟩
  else if ¬policy.canConfigureProvider requestedProvider then
    .error ⟨"Requested ONNX execution provider is not enabled in this Tensora build",
      .notImplemented⟩
  else .ok requestedProvider

/-- The provider `SessionCreate` selects, with what it catches turned into a status. -/
def selectProvider (requestedProvider : ByteString) : Except Failure ByteString :=
  (policy.resolveProvider available requestedProvider).mapError (ortFailure "onnx_session_create")

end ProviderPolicy

namespace Internal

def containsProvider (providers : List ByteString) (provider : ByteString) : Bool :=
  providers.contains provider

def isKnownProvider (provider : ByteString) : Bool :=
  provider == "auto".toUTF8.toList || provider == "CPUExecutionProvider".toUTF8.toList ||
    provider == "CUDAExecutionProvider".toUTF8.toList ||
    provider == "DmlExecutionProvider".toUTF8.toList ||
    provider == "CoreMLExecutionProvider".toUTF8.toList ||
    provider == "OpenVINOExecutionProvider".toUTF8.toList ||
    provider == "MIGraphXExecutionProvider".toUTF8.toList

/-- A status, `none` for `Status::Ok()`, and what `out_selected` points to afterwards. -/
abbrev SnapshotResult := Option Failure × Option ByteString

def firstSnapshotCandidate (available configurable : List ByteString) :
    List ByteString → SnapshotResult
  | [] =>
    (some (unsupported "onnx provider: no supported execution provider is available"), some [])
  | candidate :: rest =>
      if containsProvider available candidate && containsProvider configurable candidate then
        (none, some candidate)
      else firstSnapshotCandidate available configurable rest

/-- `none` for `outSelected` is a null pointer. -/
def resolveProviderFromSnapshot (requestedProvider : ByteString)
    (available configurable autoCandidates : List ByteString) (outSelected : Option ByteString) :
    SnapshotResult :=
  match outSelected with
  | none => (some (invalidArgument "onnx provider: output string pointer is null"), none)
  | some _ =>
      if ¬isKnownProvider requestedProvider then
        (some (invalidArgument "onnx provider: unknown execution provider"), some [])
      else if requestedProvider = "auto".toUTF8.toList then
        firstSnapshotCandidate available configurable autoCandidates
      else if ¬containsProvider available requestedProvider then
        (some (unsupported "onnx provider: requested execution provider is not available"), some [])
      else if ¬containsProvider configurable requestedProvider then
        (some (unsupported
          "onnx provider: requested execution provider is not enabled in this Tensora build"),
          some [])
      else (none, some requestedProvider)

end Internal

/-- The same status code, and the same provider: none but a cleared string where both fail. -/
def Agree : Except Failure ByteString → Internal.SnapshotResult → Prop
  | .ok selected, result => result = (none, some selected)
  | .error failure, result => ∃ other, result = (some other, some []) ∧ other.code = failure.code

/-- Every known name is free of zero bytes, so that `c_str()` loses none of it. -/
theorem terminated_of_known {provider : ByteString} (known : isKnownProvider provider = true) :
    0 ∉ provider := by
  simp only [isKnownProvider, Bool.or_eq_true, beq_iff_eq] at known
  rcases known with (((((rfl | rfl) | rfl) | rfl) | rfl) | rfl) | rfl <;> exact CString.terminated _

theorem isKnownProvider_eq (provider : ByteString) :
    Internal.isKnownProvider provider = isKnownProvider provider := by
  have names : ["auto".toUTF8.toList, "CPUExecutionProvider".toUTF8.toList,
      "CUDAExecutionProvider".toUTF8.toList, "DmlExecutionProvider".toUTF8.toList,
      "CoreMLExecutionProvider".toUTF8.toList, "OpenVINOExecutionProvider".toUTF8.toList,
      "MIGraphXExecutionProvider".toUTF8.toList] =
      [kAutoProvider.val, kCpuProvider.val, kCudaProvider.val, kDmlProvider.val,
        kCoreMlProvider.val, kOpenVinoProvider.val, kMiGraphXProvider.val] := by
    decide +kernel
  simp only [List.cons.injEq] at names
  obtain ⟨h0, h1, h2, h3, h4, h5, h6, -⟩ := names
  simp only [Internal.isKnownProvider, isKnownProvider, h0, h1, h2, h3, h4, h5, h6]

section
variable {policy : ProviderPolicy} {configurable : List ByteString}
  (same : ∀ provider, provider ∈ configurable ↔ policy.canConfigureProvider provider = true)
include same

theorem containsProvider_configurable (provider : ByteString) :
    Internal.containsProvider configurable provider = policy.canConfigureProvider provider := by
  rw [Bool.eq_iff_iff, ← same provider]
  exact List.contains_iff_mem

theorem firstCandidate_agrees (available : List ByteString) (candidates : List CString) :
    Agree ((firstCandidate policy.canConfigureProvider available candidates).mapError
        (ortFailure "onnx_session_create"))
      (Internal.firstSnapshotCandidate available configurable (candidates.map CString.val)) := by
  induction candidates with
  | nil => exact ⟨_, rfl, rfl⟩
  | cons candidate rest ih =>
      simp only [firstCandidate, List.map_cons, Internal.firstSnapshotCandidate,
        containsProvider_configurable same]
      change Agree _ (if isProviderAvailable available candidate &&
        policy.canConfigureProvider candidate.val then _ else _)
      split
      · rfl
      · exact ih

/-- On every request and every list of available providers the session's choice is the tested
policy's, and a provider asked for by name is never replaced. -/
theorem selectProvider_agrees (requestedProvider : ByteString) (available : List ByteString)
    (outSelected : ByteString) :
    Agree (policy.selectProvider available requestedProvider)
        (Internal.resolveProviderFromSnapshot requestedProvider available configurable
          (policy.candidates.map CString.val) (some outSelected)) ∧
      (requestedProvider ≠ kAutoProvider.val → ∀ selected,
        policy.selectProvider available requestedProvider = .ok selected →
          selected = requestedProvider) := by
  have auto : "auto".toUTF8.toList = kAutoProvider.val := by decide +kernel
  simp only [ProviderPolicy.selectProvider, ProviderPolicy.resolveProvider,
    Internal.resolveProviderFromSnapshot, isKnownProvider_eq, containsProvider_configurable same,
      auto]
  by_cases known : isKnownProvider requestedProvider
  · have whole : (cStr requestedProvider).val = requestedProvider :=
      cStr_val (terminated_of_known known)
    have reported : isProviderAvailable available (cStr requestedProvider) =
        Internal.containsProvider available requestedProvider := by
      rw [isProviderAvailable, whole, Internal.containsProvider]
    simp only [known, not_true_eq_false, if_false, reported]
    by_cases requestsAuto : requestedProvider = kAutoProvider.val
    · simp only [requestsAuto, if_true]
      exact ⟨firstCandidate_agrees same available policy.candidates, fun h => absurd rfl h⟩
    · simp only [requestsAuto, if_false]
      split
      · exact ⟨⟨_, rfl, rfl⟩, fun _ _ h => nomatch h⟩
      · split
        · exact ⟨⟨_, rfl, rfl⟩, fun _ _ h => nomatch h⟩
        · refine ⟨rfl, ?_⟩
          intro _ selected h
          exact (Except.ok.inj h).symm
  · simp only [known]
    exact ⟨⟨_, rfl, rfl⟩, fun _ _ h => nomatch h⟩

end

theorem selectProvider_agrees_windows :
    Agree ((OrtBuild.mk .windows true false).policy.selectProvider
        [kCpuProvider.val, kDmlProvider.val] kAutoProvider.val)
      (Internal.resolveProviderFromSnapshot kAutoProvider.val [kCpuProvider.val, kDmlProvider.val]
        (OrtBuild.mk .windows true false).configurable
        ((OrtBuild.mk .windows true false).candidates.map CString.val) (some [])) ∧
    (OrtBuild.mk .windows true false).policy.selectProvider
      [kCpuProvider.val, kDmlProvider.val] kAutoProvider.val = .ok kDmlProvider.val :=
  ⟨(selectProvider_agrees (OrtBuild.mk .windows true false).mem_configurable kAutoProvider.val
    [kCpuProvider.val, kDmlProvider.val] []).1, by decide +kernel⟩

end Tensora.Inference
