import Mathlib.Algebra.Order.Ring.Unbundled.Rat
import SauronID.Lib.Int64

/-!
# Double-precision arithmetic as an interface

Programs that compute with `f64` are modelled over any type with these
operations. No law is assumed: a statement proved for every instance holds in
particular for binary64 with its rounding, infinities and NaN. `ℚ` is the
instance in which amounts are exact.
-/

namespace SauronID

/-- The operations on `f64` the models use; comparisons are the IEEE predicates. -/
class Float64 (F : Type) where
  ofInt : ℤ → F
  ofRat : ℚ → F
  add : F → F → F
  sub : F → F → F
  mul : F → F → F
  div : F → F → F
  neg : F → F
  abs : F → F
  lt : F → F → Bool
  le : F → F → Bool
  eq : F → F → Bool
  isFinite : F → Bool
  isNan : F → Bool
  /-- Round half away from zero and cast to `i64`. -/
  roundI64 : F → ℤ
  /-- Decimal text with a fixed number of places. -/
  fixed : ℕ → F → String
  /-- Shortest decimal text. -/
  display : F → String
  /-- Shortest decimal text with at least one place, as `{:?}` prints it. -/
  debug : F → String

/-- Exact amounts. -/
instance : Float64 ℚ where
  ofInt i := i
  ofRat q := q
  add := (· + ·)
  sub := (· - ·)
  mul := (· * ·)
  div := (· / ·)
  neg := (- ·)
  abs q := if q < 0 then -q else q
  lt a b := decide (a < b)
  le a b := decide (a ≤ b)
  eq a b := decide (a = b)
  isFinite _ := true
  isNan _ := false
  roundI64 q := satI64 (if q < 0 then -(1 / 2 - q).floor else (q + 1 / 2).floor)
  fixed _ q := toString q
  display q := toString q
  debug q := toString q

end SauronID
