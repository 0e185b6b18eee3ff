import Mathlib.Data.List.Basic

/-!
# Code that can fail

When a sequence of fallible steps succeeds, and checks in sequence.
-/

namespace SauronID

variable {ε α β : Type} {b : β} {x : Except ε α} {f : α → Except ε β}

/-- A sequence succeeds when its parts do. -/
theorem bind_eq_ok_iff : (x >>= f) = .ok b ↔ ∃ a, x = .ok a ∧ f a = .ok b := by
  cases x <;> simp [bind, Except.bind]

/-- The parts of a sequence that succeeds. -/
theorem exists_of_bind_eq_ok (h : (x >>= f) = .ok b) : ∃ a, x = .ok a ∧ f a = .ok b :=
  bind_eq_ok_iff.1 h

variable {a : α}

/-- A check and what follows it. -/
theorem check_bind_eq_ok {x : Except ε Unit} {y : Except ε α} :
    (do x; y) = .ok a ↔ x = .ok () ∧ y = .ok a := by
  cases x <;> simp [bind, Except.bind]

theorem eq_ok_of_mapError {ε' : Type} {f : ε → ε'} (h : x.mapError f = .ok a) : x = .ok a := by
  cases x with
  | error e => cases h
  | ok b =>
    cases h
    rfl

/-- A check that refuses with the error `e` when `p` holds. -/
def refuseIf {ε : Type} (p : Prop) [Decidable p] (e : ε) : Except ε Unit :=
  if p then .error e else .ok ()

variable {p : Prop} {e : ε}

/-- Checks in sequence pass when each of them does. -/
theorem refuseIf_bind_eq_ok [Decidable p] : (do refuseIf p e; x) = .ok a ↔ ¬p ∧ x = .ok a := by
  by_cases h : p <;> simp [refuseIf, h, bind, Except.bind]

theorem refuseIf_eq_ok [Decidable p] : refuseIf p e = .ok () ↔ ¬p := by
  by_cases h : p <;> simp [refuseIf, h]

/-- A function that checks and computes, over a list: every check passes, and the values
are those it computes. -/
theorem mapM_eq_ok_iff {p : α → Prop} {g : α → β} (hf : ∀ a b, f a = .ok b ↔ p a ∧ b = g a)
    (l : List α) (bs : List β) : l.mapM f = .ok bs ↔ (∀ a ∈ l, p a) ∧ bs = l.map g := by
  induction l generalizing bs with
  | nil => simp [pure, Except.pure, eq_comm]
  | cons a l ih =>
    rw [List.mapM_cons]
    cases ha : f a with
    | error e =>
      have hp : ¬p a := fun hp => by simp [(hf a (g a)).2 ⟨hp, rfl⟩] at ha
      simp [hp, bind, Except.bind]
    | ok b =>
      obtain ⟨hp, rfl⟩ := (hf a b).1 ha
      cases hl : l.mapM f with
      | error e =>
        have hrest : ¬∀ a ∈ l, p a := fun h => by simp [(ih (l.map g)).2 ⟨h, rfl⟩] at hl
        simp [hrest, bind, Except.bind]
      | ok cs =>
        obtain ⟨hrest, rfl⟩ := (ih cs).1 hl
        rw [and_iff_right (List.forall_mem_cons.2 ⟨hp, hrest⟩)]
        simp [bind, Except.bind, pure, Except.pure, eq_comm]

end SauronID
