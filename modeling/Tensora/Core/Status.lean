import Tensora.Lib.CheckedLoop
import Tensora.Lib.ProgramLogic

/-! Status codes, exceptions and the fixed-width arithmetic of the native core. -/
namespace Tensora

inductive StatusCode where
  | invalidArgument
  | invalidShape
  | outOfMemory
  | unsupported
  | invalidHandle
  | internalError
  | modelError
  deriving DecidableEq, Repr

/-- How a native function can fail to return `Status::Ok()`: a returned status,
`std::bad_alloc` or `std::length_error` in flight, another C++ exception in
flight, or behaviour the language leaves undefined. -/
inductive Failure where
  | status (code : StatusCode) (message : String)
  | badAlloc
  | lengthError
  | exception (what : String)
  | fault (fault : CheckedLoop.Fault)
  | danglingReference
  | recursionLimit
  deriving DecidableEq, Repr

def invalidArgument (message : String) : Failure := .status .invalidArgument message
def invalidShape (message : String) : Failure := .status .invalidShape message
def outOfMemory (message : String) : Failure := .status .outOfMemory message
def unsupported (message : String) : Failure := .status .unsupported message
def invalidHandle (message : String) : Failure := .status .invalidHandle message
def internalError (message : String) : Failure := .status .internalError message
def modelError (message : String) : Failure := .status .modelError message

/-- The code `AbiGuard` returns. A fault has none: nothing is promised after it. -/
def Failure.code : Failure → Option StatusCode
  | .status code _ => some code
  | .badAlloc => some .outOfMemory
  | .lengthError | .exception _ => some .internalError
  | .fault _ | .danglingReference | .recursionLimit => none

inductive Exception where
  | badAlloc
  | lengthError
  | other (what : String)
  deriving DecidableEq, Repr

def Exception.failure : Exception → Failure
  | .badAlloc => .badAlloc
  | .lengthError => .lengthError
  | .other what => .exception what

/-- A status the function returns, and not an exception. -/
def Failure.Returned (failure : Failure) : Prop := ∃ code message, failure = .status code message

def maxU64 : Nat := 2 ^ 64 - 1
def maxI64 : Nat := 2 ^ 63 - 1

def add64 (a b : Nat) : Nat := (a + b) % 2 ^ 64
def mul64 (a b : Nat) : Nat := (a * b) % 2 ^ 64
def sub64 (a b : Nat) : Nat := (a + (2 ^ 64 - b % 2 ^ 64)) % 2 ^ 64

theorem add64_of_lt {a b : Nat} (h : a + b < 2 ^ 64) : add64 a b = a + b := Nat.mod_eq_of_lt h

theorem mul64_of_lt {a b : Nat} (h : a * b < 2 ^ 64) : mul64 a b = a * b := Nat.mod_eq_of_lt h

variable {σ α : Type}

/-- `if (condition) return failure;` -/
def failIf (condition : Prop) [Decidable condition] (failure : Failure) : EStateM Failure σ Unit :=
  if condition then throw failure else pure ()

def allocationGuard (operation : String) (function : EStateM Failure σ α) : EStateM Failure σ α :=
  tryCatch function fun failure =>
    match failure with
    | .badAlloc => throw (outOfMemory (operation ++ ": allocation failed"))
    | .lengthError => throw (outOfMemory (operation ++ ": allocation size is too large"))
    | failure => throw failure

def checked (kernel : Except CheckedLoop.Fault α) : EStateM Failure σ α :=
  match kernel with
  | .ok a => pure a
  | .error fault => throw (.fault fault)

open ProgramLogic

@[simp] theorem wp_failIf (condition : Prop) [Decidable condition] (failure : Failure)
    (Q : Unit → σ → Prop) (E : Failure → σ → Prop) (s : σ) :
    wp (failIf condition failure) Q E s ↔
      (condition → E failure s) ∧ (¬condition → Q () s) := by
  unfold failIf
  by_cases h : condition <;> simp [h]

@[simp] theorem wp_checked_ok (a : α) (Q : α → σ → Prop) (E : Failure → σ → Prop) (s : σ) :
    wp (checked (.ok a)) Q E s ↔ Q a s := Iff.rfl

theorem wp_checked {kernel : Except CheckedLoop.Fault α} {a : α} {Q : α → σ → Prop}
    {E : Failure → σ → Prop} {s : σ} (h : kernel = .ok a) (hq : Q a s) :
    wp (checked kernel) Q E s := by
  rw [h]
  exact hq

end Tensora
