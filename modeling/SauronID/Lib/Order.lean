import Mathlib.Data.List.Sort
import Mathlib.Data.Prod.Lex
import Mathlib.Data.String.Basic

/-!
# Ordered selections

`orderBy` is a result set in the order of a key. `pickMax` is the first row of a
result set ordered downwards by a key: any row of largest key, the argument `tie`
telling which.
-/

namespace SauronID

variable {α κ : Type} [LinearOrder κ]

/-- Rows in ascending order of `key`. -/
def orderBy (key : α → κ) (rows : List α) : List α :=
  rows.insertionSort fun a b => key a ≤ key b

variable {key : α → κ} {rows : List α} {a : α}

@[simp] theorem mem_orderBy :
    a ∈ orderBy key rows ↔ a ∈ rows := List.mem_insertionSort _

theorem perm_orderBy (key : α → κ) (rows : List α) : (orderBy key rows).Perm rows :=
  List.perm_insertionSort _ rows

theorem orderBy_map {β : Type} {key' : β → κ} {f : α → β} (hf : ∀ a, key' (f a) = key a)
    (rows : List α) : orderBy key' (rows.map f) = (orderBy key rows).map f :=
  (List.map_insertionSort _ _ f rows fun a _ b _ => by rw [hf, hf]).symm

theorem pairwise_orderBy (key : α → κ) (rows : List α) :
    (orderBy key rows).Pairwise fun a b => key a ≤ key b := by
  have htotal : Std.Total fun a b : α => key a ≤ key b := ⟨fun a b => le_total _ _⟩
  have htrans : IsTrans α fun a b => key a ≤ key b := ⟨fun _ _ _ => le_trans⟩
  exact List.pairwise_insertionSort _ rows

/-- A row of largest key comes last. -/
theorem orderBy_concat (h : ∀ x ∈ rows, key x ≤ key a) :
    orderBy key (rows ++ [a]) = orderBy key rows ++ [a] := by
  -- inserting a smaller row does not reach the last one
  have hinsert : ∀ (x : α) (l : List α), key x ≤ key a →
      (l ++ [a]).orderedInsert (fun a b => key a ≤ key b) x =
        l.orderedInsert (fun a b => key a ≤ key b) x ++ [a] := by
    intro x l hx
    induction l with
    | nil => simp [hx]
    | cons y ys ih => by_cases hy : key x ≤ key y <;> simp [hy, ih]
  induction rows with
  | nil => rfl
  | cons x xs ih =>
    have hxs := ih fun y hy => h y (List.mem_cons_of_mem _ hy)
    simp only [orderBy, List.cons_append, List.insertionSort_cons] at hxs ⊢
    rw [hxs, hinsert x _ (h x List.mem_cons_self)]

theorem nodup_orderBy (h : rows.Nodup) : (orderBy key rows).Nodup :=
  (perm_orderBy key rows).nodup_iff.2 h

variable {x : α}

theorem key_head_le (h : rows.Pairwise fun a b => key a ≤ key b) (ha : rows.head? = some a)
    (hx : x ∈ rows) : key a ≤ key x := by
  cases rows with
  | nil => cases hx
  | cons y ys =>
    cases ha
    rcases List.mem_cons.1 hx with rfl | hx
    · exact le_rfl
    · exact List.rel_of_pairwise_cons h hx

variable {b : α}

theorem key_le_getLast (h : rows.Pairwise fun a b => key a ≤ key b) (hb : rows.getLast? = some b)
    (hx : x ∈ rows) : key x ≤ key b := by
  obtain ⟨init, rfl⟩ := List.getLast?_eq_some_iff.1 hb
  rcases List.mem_append.1 hx with hx | hx
  · exact (List.pairwise_append.1 h).2.2 x hx b (List.mem_singleton_self b)
  · rw [List.mem_singleton.1 hx]

/-- The rows between the ends of an initial segment are that segment: `p` selects the rows
from some key on, and no two rows share a key. -/
theorem orderBy_between {p q : α → Bool} {n : ℕ}
    (hnodup : rows.Nodup) (hinj : ∀ x ∈ rows, ∀ y ∈ rows, key x = key y → x = y)
    (hup : ∀ x ∈ rows, ∀ y ∈ rows, p x = true → key x ≤ key y → p y = true)
    (hfirst : ((orderBy key (rows.filter p)).take n).head? = some a)
    (hlast : ((orderBy key (rows.filter p)).take n).getLast? = some b)
    (hq : ∀ x ∈ rows, q x = true ↔ key a ≤ key x ∧ key x ≤ key b) :
    orderBy key (rows.filter q) = (orderBy key (rows.filter p)).take n := by
  have hsorted := pairwise_orderBy key (rows.filter p)
  have hsplit := List.take_append_drop n (orderBy key (rows.filter p))
  rw [← hsplit] at hsorted
  obtain ⟨hseg, -, hcross⟩ := List.pairwise_append.1 hsorted
  have hmem : ∀ x ∈ (orderBy key (rows.filter p)).take n, x ∈ rows ∧ p x = true := fun x hx =>
    List.mem_filter.1 (mem_orderBy.1 (List.mem_of_mem_take hx))
  obtain ⟨harows, hpa⟩ := hmem a (List.mem_of_mem_head? hfirst)
  have hb := List.mem_of_mem_getLast? hlast
  -- the segment has exactly the rows between its ends
  have hsame : ∀ x, x ∈ orderBy key (rows.filter q) ↔
      x ∈ (orderBy key (rows.filter p)).take n := by
    intro x
    constructor
    · intro hx
      obtain ⟨hxr, hqx⟩ := List.mem_filter.1 (mem_orderBy.1 hx)
      obtain ⟨hax, hxb⟩ := (hq x hxr).1 hqx
      have hxS : x ∈ orderBy key (rows.filter p) :=
        mem_orderBy.2 (List.mem_filter.2 ⟨hxr, hup a harows x hxr hpa hax⟩)
      rw [← hsplit] at hxS
      rcases List.mem_append.1 hxS with hx | hx
      · exact hx
      · have hbx := hcross b hb x hx
        rw [hinj x hxr b (hmem b hb).1 (le_antisymm hxb hbx)]
        exact hb
    · intro hx
      refine mem_orderBy.2 (List.mem_filter.2 ⟨(hmem x hx).1, (hq x (hmem x hx).1).2 ⟨?_, ?_⟩⟩)
      · exact key_head_le hseg hfirst hx
      · exact key_le_getLast hseg hlast hx
  refine List.Perm.eq_of_pairwise ?_ (pairwise_orderBy key _) hseg ?_
  · intro x y hx hy hxy hyx
    exact hinj x ((hmem x ((hsame x).1 hx)).1) y (hmem y hy).1 (le_antisymm hxy hyx)
  · refine (List.perm_ext_iff_of_nodup (nodup_orderBy (hnodup.filter _)) ?_).2 hsame
    exact (nodup_orderBy (hnodup.filter _)).sublist (List.take_sublist _ _)

/-- Some row of largest key. -/
def pickMax (key : α → κ) (tie : ℕ) (rows : List α) : Option α :=
  let best := rows.filter fun a => rows.all fun b => decide (key b ≤ key a)
  best[tie % best.length]?

variable {tie : ℕ}

theorem pickMax_mem (h : pickMax key tie rows = some a) : a ∈ rows ∧ ∀ b ∈ rows, key b ≤ key a := by
  have hmem := List.mem_of_getElem? h
  simpa using hmem

/-- Editing rows without touching their keys keeps the choice. -/
theorem pickMax_map {f : α → α} (hf : ∀ a, key (f a) = key a) (tie : ℕ)
    (rows : List α) : pickMax key tie (rows.map f) = (pickMax key tie rows).map f := by
  have hbest : ((rows.map f).filter fun a => (rows.map f).all fun b => decide (key b ≤ key a)) =
      (rows.filter fun a => rows.all fun b => decide (key b ≤ key a)).map f := by
    rw [List.filter_map]
    congr 1
    refine List.filter_congr fun a _ => ?_
    simp [hf, Function.comp_def]
  simp only [pickMax, hbest, List.length_map, List.getElem?_map]

/-- A non-empty list has a row of largest key. -/
theorem exists_key_max (key : α → κ) (hne : rows ≠ []) : ∃ m ∈ rows, ∀ b ∈ rows, key b ≤ key m := by
  induction rows with
  | nil => exact absurd rfl hne
  | cons a rows ih =>
    by_cases hrows : rows = []
    · exact ⟨a, by simp, by simp [hrows]⟩
    · obtain ⟨m, hm, hmax⟩ := ih hrows
      rcases le_total (key a) (key m) with h | h
      · exact ⟨m, by simp [hm], by simpa [h] using hmax⟩
      · refine ⟨a, by simp, ?_⟩
        simpa using fun b hb => (hmax b hb).trans h

/-- A non-empty result set has a first row. -/
theorem pickMax_eq_none : pickMax key tie rows = none ↔ rows = [] := by
  constructor
  · intro h
    by_contra hne
    obtain ⟨m, hm, hmax⟩ := exists_key_max key hne
    have hbest : m ∈ rows.filter fun a => rows.all fun b => decide (key b ≤ key a) := by
      simpa using ⟨hm, hmax⟩
    have hlen := List.length_pos_of_mem hbest
    exact absurd (List.getElem?_eq_none_iff.1 h) (not_le.2 (Nat.mod_lt _ hlen))
  · rintro rfl
    rfl

end SauronID
