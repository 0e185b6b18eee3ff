import Mathlib.Algebra.Group.Int.Defs
import Mathlib.Algebra.Group.Nat.Defs
import Mathlib.Data.Int.Notation
import Mathlib.Order.Lattice
import Mathlib.Data.Int.Order.Basic

/-!
# Fixed-width integers

Machine integers are modelled by `ℤ` and `ℕ`. These are the operations in which the
width shows: saturating results and casts that wrap.
-/

namespace SauronID

/-- The result of a saturating `i64` operation. -/
def satI64 (i : ℤ) : ℤ := max (-2 ^ 63) (min i (2 ^ 63 - 1))

/-- A cast to `i64`. -/
def wrapI64 (i : ℤ) : ℤ := Int.bmod i (2 ^ 64)

variable {i : ℤ}

theorem satI64_of_lt (h : -2 ^ 63 ≤ i) (h' : i < 2 ^ 63) : satI64 i = i := by
  unfold satI64
  omega

variable {j : ℤ}

theorem satI64_mono (h : i ≤ j) : satI64 i ≤ satI64 j := by
  unfold satI64
  omega

theorem wrapI64_of_lt (h : -2 ^ 63 ≤ i) (h' : i < 2 ^ 63) : wrapI64 i = i := by
  have hwidth : ((2 ^ 64 : ℕ) : ℤ) = 2 ^ 63 * 2 := rfl
  refine Int.bmod_eq_of_le_mul_two ?_ ?_ <;> rw [hwidth] <;> omega

/-- Truncation rounds a negative quotient up. -/
theorem ediv_le_tdiv (i : ℤ) {b : ℤ} (hb : 0 < b) : i / b ≤ i.tdiv b := by
  rw [Int.tdiv_eq_ediv]
  split
  · simp
  · rw [Int.sign_eq_one_of_pos hb]
    omega

/-- A cast to `u32`. -/
def wrapU32 (n : ℕ) : ℕ := n % 2 ^ 32

/-- An `i64` brought into the range of `u32`. -/
def clampU32 (i : ℤ) : ℕ := (max 0 (min i (2 ^ 32 - 1))).toNat

/-- The value of a non-empty list of decimal digits. -/
def digitsVal? (cs : List Char) : Option ℕ :=
  if !cs.isEmpty && cs.all fun c => '0' ≤ c && c ≤ '9' then
    some (cs.foldl (fun n c => 10 * n + (c.toNat - '0'.toNat)) 0)
  else none

/-- `str::parse::<i64>`: a sign at most, digits, and a value in range. -/
def parseI64 (s : String) : Option ℤ :=
  let value : Option ℤ :=
    match s.toList with
    | '-' :: cs => (digitsVal? cs).map fun n => -(n : ℤ)
    | '+' :: cs => (digitsVal? cs).map fun n => (n : ℤ)
    | cs => (digitsVal? cs).map fun n => (n : ℤ)
  value.filter fun i => satI64 i == i

theorem satI64_of_parseI64 {s : String} (h : parseI64 s = some i) : satI64 i = i := by
  simpa using (Option.filter_eq_some_iff.1 h).2

theorem digit_of_mem_repr {n : ℕ} {c : Char} (h : c ∈ (Nat.repr n).toList) : c.isDigit = true := by
  rw [Nat.repr, String.toList_ofList] at h
  exact Nat.isDigit_of_mem_toDigits (by decide) (by decide) h

theorem digitsVal?_repr (n : ℕ) : digitsVal? (Nat.repr n).toList = some n := by
  have hval : Nat.ofDigitChars 10 (Nat.toDigits 10 n) 0 = n :=
    Nat.ofDigitChars_toDigits (by decide) (by decide)
  rw [digitsVal?, if_pos]
  · rw [Nat.repr, String.toList_ofList]
    exact congrArg some hval
  · rw [Bool.and_eq_true, List.all_eq_true]
    refine ⟨by simp [Nat.repr], fun c hc => ?_⟩
    exact digit_of_mem_repr hc

/-- Decimal text is read as the number it was written for, if that is in range. -/
theorem parseI64_toString (i : ℤ) :
    parseI64 (toString i) = if satI64 i = i then some i else none := by
  suffices h : parseI64 (toString i) = (some i).filter fun i => satI64 i == i by
    simpa [Option.filter] using h
  refine congrArg (Option.filter _) ?_
  cases i with
  | ofNat n =>
    change (match (Nat.repr n).toList with
      | '-' :: cs => (digitsVal? cs).map fun n => -(n : ℤ)
      | '+' :: cs => (digitsVal? cs).map fun n => (n : ℤ)
      | cs => (digitsVal? cs).map fun n => (n : ℤ)) = some (n : ℤ)
    split
    · next cs hcs => exact absurd (digit_of_mem_repr (hcs ▸ List.mem_cons_self)) (by decide)
    · next cs hcs => exact absurd (digit_of_mem_repr (hcs ▸ List.mem_cons_self)) (by decide)
    · rw [digitsVal?_repr]
      rfl
  | negSucc n =>
    have htext : (toString (Int.negSucc n)).toList = '-' :: (Nat.repr (n + 1)).toList :=
      String.toList_append
    rw [htext]
    change (digitsVal? (Nat.repr (n + 1)).toList).map (fun n => -(n : ℤ)) = some _
    rw [digitsVal?_repr]
    rfl

/-- Decimal text is read as the number it was written for, if at all. -/
theorem eq_of_parseI64_toString (h : parseI64 (toString i) = some j) : j = i := by
  rw [parseI64_toString] at h
  split at h
  · exact (Option.some.inj h).symm
  · cases h

end SauronID
