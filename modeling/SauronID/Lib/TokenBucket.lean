import Mathlib.Algebra.Order.Field.Basic
import Mathlib.Tactic.Linarith

/-!
# Token buckets

A bucket holds up to `cap` tokens and fills at `rate` tokens per unit of time; a missing bucket
counts as a full one. `Admitted` is the invariant that bounds what leaves it in a window of
time: the tokens taken since the window began and those still there are no more than a full
bucket and what has been filled in since. It is kept as long as the clock does not run
backwards, and also if a bucket that must be full by now is thrown away.
-/

namespace SauronID

structure TokenBucket (K : Type) where
  tokens : K
  lastRefill : K

namespace TokenBucket

variable {K : Type} [Field K] [LinearOrder K]

/-- The tokens at a time. A clock that is behind the last refill adds nothing. -/
def refilled (rate cap : K) (b : TokenBucket K) (now : K) : K :=
  min (b.tokens + max 0 (now - b.lastRefill) * rate) cap

/-- The tokens of a bucket that may be missing. -/
def level (rate cap : K) (b : Option (TokenBucket K)) (now : K) : K :=
  b.elim cap fun b => b.refilled rate cap now

variable {rate cap now now' : K} {b : Option (TokenBucket K)}

@[simp] theorem level_none : level rate cap none now = cap := rfl

@[simp] theorem level_some (b : TokenBucket K) :
    level rate cap (some b) now = b.refilled rate cap now :=
  rfl

theorem level_le_cap : level rate cap b now ≤ cap := by
  cases b with
  | none => exact le_rfl
  | some b => exact min_le_right _ _

/-- At the time of its refill a bucket holds its tokens. -/
theorem refilled_self {tokens : K} (h : tokens ≤ cap) :
    refilled rate cap ⟨tokens, now⟩ now = tokens := by
  simp [refilled, h]

variable [IsStrictOrderedRing K]

theorem refilled_nonneg (hrate : 0 ≤ rate) (hcap : 0 ≤ cap) {b : TokenBucket K}
    (hb : 0 ≤ b.tokens) : 0 ≤ b.refilled rate cap now := by
  have hfill : 0 ≤ max 0 (now - b.lastRefill) * rate := mul_nonneg (le_max_left _ _) hrate
  exact le_min (add_nonneg hb hfill) hcap

/-- A bucket fills no faster than its rate. -/
theorem level_le_add (hrate : 0 ≤ rate) (hle : now ≤ now') :
    level rate cap b now' ≤ level rate cap b now + rate * (now' - now) := by
  have hgain : 0 ≤ rate * (now' - now) := mul_nonneg hrate (sub_nonneg.2 hle)
  cases b with
  | none => simpa using hgain
  | some b =>
    have helapsed : max 0 (now' - b.lastRefill) ≤ max 0 (now - b.lastRefill) + (now' - now) := by
      rcases max_cases 0 (now' - b.lastRefill) with ⟨h, _⟩ | ⟨h, _⟩
      · have hpos := le_max_left 0 (now - b.lastRefill)
        linarith
      · have hpos := le_max_right 0 (now - b.lastRefill)
        linarith
    have hfill := mul_le_mul_of_nonneg_right helapsed hrate
    rw [add_mul] at hfill
    simp only [level_some, refilled]
    rw [← min_add_add_right]
    refine min_le_min ?_ ?_
    · linarith
    · linarith

/-- After long enough a bucket is full. -/
theorem level_eq_cap {b : TokenBucket K} {ttl : K} (hrate : 0 ≤ rate) (hb : 0 ≤ b.tokens)
    (hfull : cap ≤ ttl * rate) (hstale : ttl ≤ now - b.lastRefill) :
    level rate cap (some b) now = cap := by
  have helapsed := mul_le_mul_of_nonneg_right (hstale.trans (le_max_right 0 _)) hrate
  refine min_eq_right ?_
  linarith

/-! ## What leaves a bucket -/

/-- By `now`, `taken` tokens have been taken in the window of length `T` from `start`. -/
structure Admitted (rate cap start T : K) (taken : ℕ) (b : Option (TokenBucket K)) (now : K) :
    Prop where
  taken_le : (taken : K) ≤ cap + rate * T
  before : now < start → taken = 0
  within : start ≤ now → now ≤ start + T → taken + level rate cap b now ≤ cap + rate * (now - start)
  valid : ∀ x ∈ b, 0 ≤ x.tokens

namespace Admitted

variable {start T : K} {taken : ℕ}

theorem init (hrate : 0 ≤ rate) (hcap : 0 ≤ cap) (hT : 0 ≤ T) :
    Admitted rate cap start T 0 none now where
  taken_le := by
    have := mul_nonneg hrate hT
    simp only [Nat.cast_zero]
    linarith
  before _ := rfl
  within hstart _ := by
    have := mul_nonneg hrate (sub_nonneg.2 hstart)
    simp only [Nat.cast_zero, level_none]
    linarith
  valid := nofun

/-- Time passes. -/
theorem later (hrate : 0 ≤ rate) (h : Admitted rate cap start T taken b now) (hle : now ≤ now') :
    Admitted rate cap start T taken b now' where
  taken_le := h.taken_le
  before hlt := h.before (hle.trans_lt hlt)
  within hstart hend := by
    by_cases hbefore : now < start
    · -- nothing was taken before the window
      have hcap : level rate cap b now' ≤ cap := level_le_cap
      have hgain := mul_nonneg hrate (sub_nonneg.2 hstart)
      rw [h.before hbefore, Nat.cast_zero]
      linarith
    · have hnow := h.within (not_lt.1 hbefore) (hle.trans hend)
      have hgain : level rate cap b now' ≤ level rate cap b now + rate * (now' - now) :=
        level_le_add hrate hle
      linarith
  valid := h.valid

/-- The bucket is looked at. -/
theorem refill (hrate : 0 ≤ rate) (hcap : 0 ≤ cap) (h : Admitted rate cap start T taken b now) :
    Admitted rate cap start T taken (some ⟨level rate cap b now, now⟩) now where
  taken_le := h.taken_le
  before := h.before
  within := by
    rw [level_some, refilled_self level_le_cap]
    exact h.within
  valid := by
    rintro x ⟨⟩
    cases b with
    | none => exact hcap
    | some b => exact refilled_nonneg hrate hcap (h.valid b rfl)

/-- A token is taken, in the window or not. -/
theorem take (hrate : 0 ≤ rate) (h : Admitted rate cap start T taken b now)
    (hone : 1 ≤ level rate cap b now) :
    Admitted rate cap start T (taken + if start ≤ now ∧ now ≤ start + T then 1 else 0)
      (some ⟨level rate cap b now - 1, now⟩) now where
  taken_le := by
    split
    · rename_i hwindow
      have hnow := h.within hwindow.1 hwindow.2
      have hgain := mul_le_mul_of_nonneg_left (sub_le_iff_le_add'.2 hwindow.2) hrate
      push_cast
      linarith
    · exact h.taken_le
  before hlt := by
    rw [h.before hlt, if_neg fun hwindow => hlt.not_ge hwindow.1]
  within hstart hend := by
    have hnow := h.within hstart hend
    have hle : level rate cap b now - 1 ≤ cap := by
      have : level rate cap b now ≤ cap := level_le_cap
      linarith
    rw [level_some, refilled_self hle, if_pos ⟨hstart, hend⟩]
    push_cast
    linarith
  valid := by
    rintro x ⟨⟩
    exact sub_nonneg.2 hone

/-- A bucket that has not been used for so long that it is full is thrown away. -/
theorem drop {x : TokenBucket K} {ttl : K} (hrate : 0 ≤ rate) (hfull : cap ≤ ttl * rate)
    (h : Admitted rate cap start T taken (some x) now) (hstale : ttl ≤ now - x.lastRefill) :
    Admitted rate cap start T taken none now where
  taken_le := h.taken_le
  before := h.before
  within hstart hend := by
    have hnow := h.within hstart hend
    rwa [level_eq_cap hrate (h.valid x rfl) hfull hstale] at hnow
  valid := nofun

end Admitted

end TokenBucket

end SauronID
