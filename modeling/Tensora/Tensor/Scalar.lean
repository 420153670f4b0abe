import Mathlib.Algebra.Field.Defs
import Mathlib.Algebra.Group.Basic

/-! The scalar arithmetic of the kernels. Nothing is assumed of it: `float` and
`double` are two opaque carriers, and a theorem about exact arithmetic instantiates
both with one field. -/
namespace Tensora

/-- `+ - * /`, negation, the literals `0` and `1`, and `static_cast` from a count. -/
class Arith (S : Type) extends Zero S, One S, Add S, Sub S, Neg S, Mul S, Div S, NatCast S

/-- The library functions, comparisons and constants the kernels call. -/
class Scalar (S : Type) extends Arith S where
  less : S → S → Bool
  lessEq : S → S → Bool
  isFinite : S → Bool
  exp : S → S
  log : S → S
  tanh : S → S
  erf : S → S
  sqrt : S → S
  pow : S → S → S
  kInvSqrt2 : S
  kInvSqrt2Pi : S
  /-- `seed`, number of earlier draws, bound: a draw from `[-bound, bound)`. -/
  uniform : Nat → Nat → S → S

/-- `static_cast<double>(float)` and `static_cast<float>(double)`. -/
class Precision (F D : Type) where
  widen : F → D
  narrow : D → F

/-- The literals `2.0f` and `0.5f`, exact in either precision. -/
def two {S : Type} [Arith S] : S := 1 + 1
def half {S : Type} [Arith S] : S := 1 / two

/-- `std::max(left, right)`. -/
def maximum {S : Type} [Scalar S] (left right : S) : S :=
  if Scalar.less left right then right else left

/-- Library functions over a field, taken as given. -/
class Given (K : Type) where
  less : K → K → Bool
  lessEq : K → K → Bool
  isFinite : K → Bool
  exp : K → K
  log : K → K
  tanh : K → K
  erf : K → K
  sqrt : K → K
  pow : K → K → K
  kInvSqrt2 : K
  kInvSqrt2Pi : K
  uniform : Nat → Nat → K → K

section Exact
variable (K : Type)

instance exactArith [Field K] : Arith K where
  toZero := inferInstance
  toOne := inferInstance
  toAdd := inferInstance
  toSub := inferInstance
  toNeg := inferInstance
  toMul := inferInstance
  toDiv := inferInstance
  toNatCast := inferInstance

instance exactScalar [Field K] [Given K] : Scalar K where
  less := Given.less
  lessEq := Given.lessEq
  isFinite := Given.isFinite
  exp := Given.exp
  log := Given.log
  tanh := Given.tanh
  erf := Given.erf
  sqrt := Given.sqrt
  pow := Given.pow
  kInvSqrt2 := Given.kInvSqrt2
  kInvSqrt2Pi := Given.kInvSqrt2Pi
  uniform := Given.uniform

instance exactPrecision [Field K] : Precision K K where
  widen := id
  narrow := id

end Exact

end Tensora
