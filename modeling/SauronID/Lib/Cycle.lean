import Mathlib.Data.List.Range
import Mathlib.Data.Nat.ModEq

/-!
# Values around a cycle

`n` values stand in a circle, and a round function `f i` maps the value at `i` to the one that
follows it. From a value at any place the circle can be filled in place by place; it closes
when the round at the place it was started from gives the value it was started with. Someone
who goes around a closed circle from any value comes back to it.
-/

namespace SauronID.Cycle

variable {C : Type}

/-- Each value is followed by its image under the round function of its place. -/
def Closed (n : ℕ) (f : ℕ → C → C) (v : ℕ → C) : Prop := ∀ i < n, v ((i + 1) % n) = f i (v i)

/-- All rounds in turn, from place 0. -/
def goAround (n : ℕ) (f : ℕ → C → C) (c : C) : C := (List.range n).foldl (fun c i => f i c) c

theorem goAround_succ (n : ℕ) (f : ℕ → C → C) (c : C) :
    goAround (n + 1) f c = f n (goAround n f c) := by
  simp [goAround, List.range_succ]

theorem Closed.goAround_eq {n : ℕ} {f : ℕ → C → C} {v : ℕ → C} (h : Closed n f v) :
    goAround n f (v 0) = v 0 := by
  -- after `k` rounds one stands at place `k`
  have hwalk : ∀ k ≤ n, goAround k f (v 0) = v (k % n) := by
    intro k
    induction k with
    | zero => simp [goAround]
    | succ k ih =>
      intro hk
      rw [goAround_succ, ih (by omega), Nat.mod_eq_of_lt (show k < n by omega), h k (by omega)]
  rw [hwalk n le_rfl, Nat.mod_self]

/-- Write the value that follows the one `offset` places after `start`. -/
def fillStep (n : ℕ) (f : ℕ → C → C) (d : C) (start : ℕ) (v : List C) (offset : ℕ) : List C :=
  let i := (start + offset) % n
  v.set ((i + 1) % n) (f i (v.getD i d))

/-- The circle with `c` after `start`, filled from there through `offsets` more places. -/
def fill (n : ℕ) (f : ℕ → C → C) (d : C) (start : ℕ) (c : C) (offsets : ℕ) : List C :=
  (List.range' 1 offsets).foldl (fillStep n f d start)
    ((List.replicate n d).set ((start + 1) % n) c)

section Fill

variable {n : ℕ} {f : ℕ → C → C} {d : C} {start : ℕ} {c : C}

theorem fill_succ (k : ℕ) :
    fill n f d start c (k + 1) = fillStep n f d start (fill n f d start c k) (k + 1) := by
  simp [fill, List.range'_1_concat, Nat.add_comm]

@[simp] theorem length_fill (k : ℕ) : (fill n f d start c k).length = n := by
  induction k with
  | zero => simp [fill]
  | succ k ih => simp [fill_succ, fillStep, ih]

/-- Places less than a turn apart are different. -/
theorem mod_ne_of_lt {a b : ℕ} (hab : a < b) (hb : b < a + n) : a % n ≠ b % n := by
  intro h
  have hdvd : n ∣ b - a := (Nat.modEq_iff_dvd' hab.le).1 h
  have hzero := Nat.eq_zero_of_dvd_of_lt hdvd (by omega)
  omega

/-- A step writes one place and leaves the others. -/
theorem getD_fillStep {v : List C} (hv : v.length = n) {offset j : ℕ} (hj : j < n) :
    (fillStep n f d start v offset).getD j d = if j = (start + offset + 1) % n then
        f ((start + offset) % n) (v.getD ((start + offset) % n) d) else v.getD j d := by
  simp only [fillStep, Nat.mod_add_mod, List.getD_eq_getElem?_getD, List.getElem?_set, hv]
  by_cases h : (start + offset + 1) % n = j
  · simp [h, hj]
  · simp [h, Ne.symm h]

variable (f d start c) in
/-- What has been filled in stays: a step writes past the places filled in so far. -/
theorem getD_fill_succ {j k : ℕ} (h₁ : 1 ≤ j) (hj : j ≤ k + 1) (hk : k + 1 < n) :
    (fill n f d start c (k + 1)).getD ((start + j) % n) d =
      (fill n f d start c k).getD ((start + j) % n) d := by
  rw [fill_succ, getD_fillStep (length_fill k) (Nat.mod_lt _ (by omega)), if_neg]
  exact mod_ne_of_lt (by omega) (by omega)

variable (f d start c) in
theorem getD_fill_of_le {j k m : ℕ} (h₁ : 1 ≤ j) (hj : j ≤ k + 1) (hkm : k ≤ m) (hm : m < n) :
    (fill n f d start c m).getD ((start + j) % n) d =
      (fill n f d start c k).getD ((start + j) % n) d := by
  induction m, hkm using Nat.le_induction with
  | base => rfl
  | succ m hkm ih => rw [getD_fill_succ f d start c h₁ (by omega) hm, ih (by omega)]

variable (f d start c) in
/-- The first value, and after each place the round of its value. -/
theorem fill_spec {k : ℕ} (hk : k < n) : (fill n f d start c k).getD ((start + 1) % n) d = c ∧
      ∀ j, 1 ≤ j → j ≤ k → (fill n f d start c k).getD ((start + j + 1) % n) d =
        f ((start + j) % n) ((fill n f d start c k).getD ((start + j) % n) d) := by
  have hn : 0 < n := by omega
  induction k with
  | zero =>
    refine ⟨?_, fun j h₁ h₀ => by omega⟩
    simp [fill, List.getD_eq_getElem?_getD, Nat.mod_lt _ hn]
  | succ k ih =>
    obtain ⟨hfirst, hrounds⟩ := ih (by omega)
    refine ⟨by rw [getD_fill_succ f d start c le_rfl (by omega) hk, hfirst], fun j h₁ hj => ?_⟩
    rw [getD_fill_succ f d start c h₁ hj hk]
    rcases Nat.lt_or_eq_of_le hj with hlt | rfl
    · rw [show start + j + 1 = start + (j + 1) by omega,
        getD_fill_succ f d start c (by omega) (by omega) hk]
      exact hrounds j h₁ (by omega)
    · rw [fill_succ, getD_fillStep (length_fill k) (Nat.mod_lt _ hn), if_pos rfl]

/-- **A circle closes at its start.** The whole circle filled in from `start` is closed for
round functions that agree with those it was filled in by, off `start`, and that give the
first value at `start`. -/
theorem closed_fill (hstart : start < n) {g : ℕ → C → C} (hg : ∀ i, i ≠ start → g i = f i)
    (hclose : g start ((fill n f d start c (n - 1)).getD start d) = c) :
    Closed n g fun i => (fill n f d start c (n - 1)).getD i d := by
  obtain ⟨hfirst, hrounds⟩ := fill_spec f d start c (show n - 1 < n by omega)
  intro i hi
  by_cases his : i = start
  · subst his
    exact hfirst.trans hclose.symm
  -- every other place is `start + j` for a `j` less than a turn
  obtain ⟨j, h₁, hj, hplace⟩ : ∃ j, 1 ≤ j ∧ j ≤ n - 1 ∧ i = (start + j) % n := by
    rcases Nat.lt_or_gt_of_ne his with hlt | hgt
    · refine ⟨i + n - start, by omega, by omega, ?_⟩
      rw [show start + (i + n - start) = i + n by omega, Nat.add_mod_right, Nat.mod_eq_of_lt hi]
    · refine ⟨i - start, by omega, by omega, ?_⟩
      rw [show start + (i - start) = i by omega, Nat.mod_eq_of_lt hi]
  have hround := hrounds j h₁ hj
  rw [← hplace, ← Nat.mod_add_mod, ← hplace] at hround
  rw [hg i his]
  exact hround

end Fill

end SauronID.Cycle
