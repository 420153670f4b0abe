import Mathlib.Algebra.Order.Field.Rat
import Mathlib.Data.BitVec
import Tensora.Api.ObliviousCalls

/-! Concrete carriers for runs of the model: 32-bit words, and exact numbers. -/
namespace Tensora

abbrev Word := BitVec 32

instance wordArith : Arith Word where
  natCast n := BitVec.ofNat 32 n
  div a b := a / b

/-- The library functions are the identity or the truncated ones of the integers. -/
instance wordScalar : Scalar Word where
  less a b := a.slt b
  lessEq a b := a.sle b
  isFinite _ := true
  exp a := a
  log a := a
  tanh a := a
  erf a := a
  sqrt a := a
  pow a _ := a
  kInvSqrt2 := 1
  kInvSqrt2Pi := 1
  uniform _ _ bound := bound

instance wordPrecision : Precision Word Word where
  widen := id
  narrow := id

instance wordPattern : Training.FloatPattern Word where
  bits := id
  ofBits := id
  ofBits_bits _ := rfl
  bits_ofBits _ := rfl

def emptyDisk : FileSystem where
  contents _ := none
  writable _ := true
  capacity := 4096

def sampleRun (calls : List (Api.Call Word Word)) : Runtime Word Word :=
  Api.run (Runtime.initial (fun _ => false) emptyDisk) calls

theorem lasting_sampleRun (calls : List (Api.Call Word Word)) : Api.Lasting (sampleRun calls) :=
  Api.Lasting.run (fun _ _ => rfl) calls

def squareRoot (q : ℚ) : ℚ :=
  let root := fun n : Nat => ((List.range (n + 1)).find? fun k => k * k = n).getD 0
  root q.num.natAbs / root q.den

/-- Exact comparisons, roots of squares and powers of naturals; the others are the identity. -/
instance rationalGiven : Given ℚ where
  less a b := decide (a < b)
  lessEq a b := decide (a ≤ b)
  isFinite _ := true
  exp a := a
  log a := a
  tanh a := a
  erf a := a
  sqrt := squareRoot
  pow a b := a ^ b.num.natAbs
  kInvSqrt2 := 1
  kInvSqrt2Pi := 1
  uniform _ _ bound := bound

instance rationalBits : Training.FloatBits ℚ where
  bits _ := 0
  ofBits _ := 0

def rationalRun (calls : List (Api.Call ℚ ℚ)) : Runtime ℚ ℚ :=
  Api.run (Runtime.initial (fun _ => false) emptyDisk) calls

theorem lasting_rationalRun (calls : List (Api.Call ℚ ℚ)) : Api.Lasting (rationalRun calls) :=
  Api.Lasting.run (fun _ _ => rfl) calls

end Tensora
