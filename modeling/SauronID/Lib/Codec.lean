import Mathlib.Algebra.Order.Ring.Int
import Mathlib.Data.Rat.Defs

/-!
# Printers with readers

A codec prints values as characters and reads them back from the front of a text, whatever
follows. Codecs are put together along the shape of a type; a codec of a structure is that of
the tuple of its fields.
-/

namespace SauronID

/-- A printer, and a reader that leaves what follows the printed value. -/
structure Codec (α : Type) where
  write : α → List Char
  read : List Char → Option (α × List Char)
  read_write : ∀ a rest, read (write a ++ rest) = some (a, rest)

namespace Codec

variable {α β : Type}

theorem write_injective (c : Codec α) : Function.Injective c.write := by
  intro a b h
  have ha := c.read_write a []
  rw [h, c.read_write b []] at ha
  exact (congrArg Prod.fst (Option.some.inj ha)).symm

/-- Along a map with a right inverse. -/
def map (c : Codec α) (f : α → β) (g : β → α) (h : ∀ b, f (g b) = b) : Codec β where
  write b := c.write (g b)
  read cs := (c.read cs).map fun p => (f p.1, p.2)
  read_write b rest := by simp [c.read_write, h]

def pair (c : Codec α) (d : Codec β) : Codec (α × β) where
  write p := c.write p.1 ++ d.write p.2
  read cs := (c.read cs).bind fun p => (d.read p.2).map fun q => ((p.1, q.1), q.2)
  read_write p rest := by simp [c.read_write, d.read_write]

/-- A letter says which side it is. -/
def sum (c : Codec α) (d : Codec β) : Codec (α ⊕ β) where
  write
    | .inl a => 'l' :: c.write a
    | .inr b => 'r' :: d.write b
  read
    | 'l' :: cs => (c.read cs).map fun p => (.inl p.1, p.2)
    | 'r' :: cs => (d.read cs).map fun p => (.inr p.1, p.2)
    | _ => none
  read_write s rest := by cases s <;> simp [c.read_write, d.read_write]

def char : Codec Char where
  write c := [c]
  read
    | [] => none
    | c :: cs => some (c, cs)
  read_write _ _ := rfl

/-- Decimal digits and a blank. -/
def nat : Codec ℕ where
  write n := Nat.toDigits 10 n ++ [' ']
  read cs := some (Nat.ofDigitChars 10 (cs.takeWhile Char.isDigit) 0,
    (cs.dropWhile Char.isDigit).tail)
  read_write n rest := by
    have hdigits : ∀ c ∈ Nat.toDigits 10 n, c.isDigit = true := fun c hc =>
      Nat.isDigit_of_mem_toDigits (by decide) (by decide) hc
    have hblank : ¬(' ').isDigit = true := by decide
    rw [List.append_assoc, List.takeWhile_append_of_pos hdigits,
      List.dropWhile_append_of_pos hdigits, List.singleton_append,
      List.takeWhile_cons_of_neg hblank, List.dropWhile_cons_of_neg hblank, List.append_nil,
      Nat.ofDigitChars_toDigits (by decide) (by decide)]
    rfl

/-- So many values, one after the other. -/
def readMany (c : Codec α) : ℕ → List Char → Option (List α × List Char)
  | 0, cs => some ([], cs)
  | n + 1, cs => (c.read cs).bind fun p => (c.readMany n p.2).map fun q => (p.1 :: q.1, q.2)

/-- Values written one after the other are read back. -/
theorem readMany_flatMap (c : Codec α) (as : List α) (rest : List Char) :
    c.readMany as.length (as.flatMap c.write ++ rest) = some (as, rest) := by
  induction as with
  | nil => rfl
  | cons a as ih => simp [readMany, c.read_write, ih]

/-- The length, and the elements. -/
def list (c : Codec α) : Codec (List α) where
  write as := nat.write as.length ++ as.flatMap c.write
  read cs := (nat.read cs).bind fun p => c.readMany p.1 p.2
  read_write as rest := by
    rw [List.append_assoc, nat.read_write, Option.bind_some, readMany_flatMap]

def unit : Codec Unit where
  write _ := []
  read cs := some ((), cs)
  read_write _ _ := rfl

def option (c : Codec α) : Codec (Option α) :=
  (unit.sum c).map (Sum.elim (fun _ => none) some) (Option.elim · (.inl ()) .inr)
    fun o => by cases o <;> rfl

def string : Codec String := char.list.map String.ofList String.toList fun _ => String.ofList_toList

/-- The positive part and the negative part. -/
def int : Codec ℤ :=
  (nat.pair nat).map (fun p => (p.1 : ℤ) - p.2) (fun i => (i.toNat, (-i).toNat))
    Int.toNat_sub_toNat_neg

def rat : Codec ℚ :=
  (int.pair nat).map (fun p => mkRat p.1 p.2) (fun q => (q.num, q.den)) Rat.mkRat_self

end Codec

end SauronID
