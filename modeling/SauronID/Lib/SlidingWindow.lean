import Mathlib.Data.List.TakeWhile
import Mathlib.Order.Lattice

/-!
# The recent past of a sequence of stamps

Stamps arrive in order, and only some of them are kept: those up to a cutoff are pruned from
time to time, and never more than `cap` are held. `Keeps` is the invariant of what is left, and
`Keeps.countP_lt` says what may be concluded from it: whoever counts fewer than `n ≤ cap` recent
stamps among those kept would count fewer than `n` among all.
-/

namespace SauronID

variable {α : Type} [LinearOrder α]

/-- The last `n` elements of a list. -/
def lastN (n : ℕ) (l : List α) : List α := l.drop (l.length - n)

/-- Of `all` stamps only `kept` are left: those dropped are not after the cutoff, unless so many
are kept that there was no place for them. -/
structure Keeps (cap : ℕ) (all kept : List α) (cutoff : α) : Prop where
  sorted : all.Pairwise (· ≤ ·)
  dropped : ∃ dropped, all = dropped ++ kept ∧ ∀ x ∈ dropped, x ≤ cutoff ∨ cap ≤ kept.length

namespace Keeps

variable {cap : ℕ} {all kept : List α} {c c' x : α}

theorem nil : Keeps cap ([] : List α) [] c where
  sorted := .nil
  dropped := ⟨[], rfl, nofun⟩

section

variable (h : Keeps cap all kept c)

include h

theorem kept_sorted : kept.Pairwise (· ≤ ·) := by
  obtain ⟨dropped, rfl, -⟩ := h.dropped
  exact (List.pairwise_append.1 h.sorted).2.1

theorem mem_all (hx : x ∈ kept) : x ∈ all := by
  obtain ⟨dropped, rfl, -⟩ := h.dropped
  exact List.mem_append_right _ hx

/-- Stamps up to a later cutoff are pruned. -/
theorem prune (hc : c ≤ c') : Keeps cap all (kept.dropWhile (· ≤ c')) c' where
  sorted := h.sorted
  dropped := by
    obtain ⟨dropped, hall, hdropped⟩ := h.dropped
    refine ⟨dropped ++ kept.takeWhile (· ≤ c'), ?_, ?_⟩
    · rw [List.append_assoc, List.takeWhile_append_dropWhile, hall]
    · intro x hx
      rcases List.mem_append.1 hx with hx | hx
      · cases hpruned : kept.takeWhile (· ≤ c') with
        | nil =>
          -- nothing is pruned now
          have hsplit := List.takeWhile_append_dropWhile (p := (· ≤ c')) (l := kept)
          rw [hpruned, List.nil_append] at hsplit
          rw [hsplit]
          exact (hdropped x hx).imp_left fun hxc => hxc.trans hc
        | cons y rest =>
          have hy : y ∈ kept.takeWhile (· ≤ c') := by
            rw [hpruned]
            exact List.mem_cons_self
          have hsorted := h.sorted
          rw [hall] at hsorted
          have hxy := (List.pairwise_append.1 hsorted).2.2 x hx y (List.takeWhile_subset _ hy)
          have hyc : y ≤ c' := by simpa using List.mem_takeWhile_imp hy
          exact .inl (hxy.trans hyc)
      · exact .inl (by simpa using List.mem_takeWhile_imp hx)

/-- A stamp arrives. -/
theorem push (hx : ∀ y ∈ all, y ≤ x) : Keeps cap (all ++ [x]) (lastN cap (kept ++ [x])) c where
  sorted := by
    refine List.pairwise_append.2 ⟨h.sorted, List.pairwise_singleton _ _, ?_⟩
    simpa using hx
  dropped := by
    obtain ⟨dropped, hall, hdropped⟩ := h.dropped
    unfold lastN
    by_cases hfits : kept.length + 1 ≤ cap
    · have hzero : (kept ++ [x]).length - cap = 0 := by
        rw [List.length_append, List.length_singleton]
        omega
      refine ⟨dropped, by rw [hzero, List.drop_zero, hall, List.append_assoc], ?_⟩
      intro y hy
      refine (hdropped y hy).imp_right fun hcap => ?_
      rw [hzero, List.drop_zero, List.length_append]
      omega
    · refine ⟨dropped ++ (kept ++ [x]).take ((kept ++ [x]).length - cap), ?_, ?_⟩
      · rw [List.append_assoc, List.take_append_drop, hall, List.append_assoc]
      · intro y _
        refine .inr ?_
        rw [List.length_drop, List.length_append, List.length_singleton]
        omega

/-- What is counted among the stamps kept. The counted ones are after the cutoff, and all that
are later than one of them are counted. -/
theorem countP_lt {p : α → Bool} {n : ℕ} (hn : n ≤ cap) (hp : ∀ x ∈ all, p x = true → c < x)
    (hup : ∀ x ∈ all, ∀ y ∈ all, x ≤ y → p x = true → p y = true) (hlt : kept.countP p < n) :
    all.countP p < n := by
  obtain ⟨dropped, hall, hdropped⟩ := h.dropped
  by_cases hex : ∃ x ∈ dropped, p x = true
  · -- then all that is kept is counted, and there is no less of it than `cap`
    obtain ⟨x, hx, hpx⟩ := hex
    have hxall : x ∈ all := by
      rw [hall]
      exact List.mem_append_left _ hx
    have hcap : cap ≤ kept.length :=
      (hdropped x hx).resolve_left (hp x hxall hpx).not_ge
    have hevery : ∀ y ∈ kept, p y = true := by
      intro y hy
      have hsorted := h.sorted
      rw [hall] at hsorted
      have hyall : y ∈ all := by
        rw [hall]
        exact List.mem_append_right _ hy
      exact hup x hxall y hyall ((List.pairwise_append.1 hsorted).2.2 x hx y hy) hpx
    rw [List.countP_eq_length.2 hevery] at hlt
    omega
  · have hnone : dropped.countP p = 0 := by
      rw [List.countP_eq_zero]
      exact fun x hx hpx => hex ⟨x, hx, hpx⟩
    rw [hall, List.countP_append, hnone, Nat.zero_add]
    exact hlt

end

end Keeps

/-- In a sorted list, what is after a cutoff is what remains when the stamps up to it are
dropped. -/
theorem filter_lt_eq_dropWhile {l : List α} (h : l.Pairwise (· ≤ ·)) (c : α) :
    l.filter (c < ·) = l.dropWhile (· ≤ c) := by
  induction l with
  | nil => rfl
  | cons x l ih =>
    rw [List.pairwise_cons] at h
    by_cases hx : x ≤ c
    · rw [List.filter_cons_of_neg (by simpa using hx),
        List.dropWhile_cons_of_pos (by simpa using hx), ih h.2]
    · have hlater : ∀ y ∈ l, decide (c < y) = true := by
        intro y hy
        simpa using (not_le.1 hx).trans_le (h.1 y hy)
      rw [List.filter_cons_of_pos (by simpa using hx),
        List.dropWhile_cons_of_neg (by simpa using hx), List.filter_eq_self.2 hlater]

end SauronID
