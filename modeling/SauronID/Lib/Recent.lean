import Mathlib.Data.List.Basic
import Mathlib.Data.List.Nodup

/-!
# Entries in the order they were last written

A list of entries with a key each, the oldest first. Writing an entry replaces the one of
its key and makes it the newest. `newest p` is the newest entry that satisfies `p`.
-/

namespace SauronID.Recent

variable {α κ : Type} [DecidableEq κ] (key : α → κ)

/-- Delete the entry of a key. -/
def erase (k : κ) (l : List α) : List α := l.filter fun x => decide (key x ≠ k)

/-- Write an entry. -/
def put (a : α) (l : List α) : List α := erase key (key a) l ++ [a]

/-- The newest entry that satisfies `p`. -/
def newest (p : α → Bool) (l : List α) : Option α := (l.filter p).getLast?

variable {key} {l : List α} {p : α → Bool} {a x : α} {k : κ}

@[simp] theorem mem_erase : x ∈ erase key k l ↔ x ∈ l ∧ key x ≠ k := by simp [erase]

@[simp] theorem mem_put : x ∈ put key a l ↔ (x ∈ l ∧ key x ≠ key a) ∨ x = a := by
  simp [put]

theorem nodup_erase (h : (l.map key).Nodup) : ((erase key k l).map key).Nodup :=
  h.sublist (List.filter_sublist.map key)

theorem nodup_put (h : (l.map key).Nodup) : ((put key a l).map key).Nodup := by
  rw [put, List.map_append, List.map_singleton]
  refine (nodup_erase h).append (List.nodup_singleton _) ?_
  simp

omit [DecidableEq κ] in
theorem newest_eq_none : newest p l = none ↔ ∀ x ∈ l, p x = false := by
  simp [newest]

omit [DecidableEq κ] in
theorem newest_cons : newest p (a :: l) = (newest p l).or (if p a then some a else none) := by
  unfold newest
  rw [List.filter_cons]
  split
  · rw [List.getLast?_cons]
    cases (l.filter p).getLast? <;> rfl
  · simp

omit [DecidableEq κ] in
theorem of_newest (h : newest p l = some x) : x ∈ l ∧ p x = true :=
  List.mem_filter.1 (List.mem_of_getLast? h)

omit [DecidableEq κ] in
/-- Entries that do not come last may go. -/
theorem newest_filter {q : α → Bool} (h : newest p l = some x) (hq : q x = true) :
    newest p (l.filter q) = some x := by
  obtain ⟨older, hl⟩ := List.getLast?_eq_some_iff.1 h
  rw [newest, List.filter_comm, hl, List.filter_append]
  simp [hq]

/-- Deleting an older entry does not change the newest. -/
theorem newest_erase (h : newest p l = some x) (hne : key x ≠ k) :
    newest p (erase key k l) = some x :=
  newest_filter h (by simpa using hne)

/-- Deleting an entry that does not satisfy `p` does not change the newest one that does. -/
theorem newest_erase_of_not (h : ∀ x ∈ l, key x = k → p x = false) :
    newest p (erase key k l) = newest p l := by
  cases hnew : newest p l with
  | none =>
    rw [newest_eq_none] at hnew ⊢
    exact fun x hx => hnew x (mem_erase.1 hx).1
  | some x =>
    obtain ⟨hx, hp⟩ := of_newest hnew
    refine newest_erase hnew fun hkey => ?_
    rw [h x hx hkey] at hp
    cases hp

theorem newest_put (h : p a = true) : newest p (put key a l) = some a := by
  simp [newest, put, h]

theorem newest_put_of_not (h : p a = false) (hold : ∀ x ∈ l, key x = key a → p x = false) :
    newest p (put key a l) = newest p l := by
  rw [← newest_erase_of_not hold]
  simp [newest, put, h]

end SauronID.Recent
