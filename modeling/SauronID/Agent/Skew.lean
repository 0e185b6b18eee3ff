import Mathlib.Algebra.Order.Group.Abs
import Mathlib.Algebra.Order.Group.Int
import SauronID.Agent.CallUse

/-!
# The skew check

A signed call is accepted while its timestamp is within the skew of the server's clock. The
difference and its absolute value are taken in `i64`, where both wrap:
`skew_check_exact_iff` says that the check is exact but for one timestamp, the one 2^63
milliseconds before now, whose difference is its own negative.
-/

namespace SauronID.Agent

open Conc Text

/-- `call_sig_skew_ms`: `SAURON_CALL_SIG_SKEW_MS`, a minute by default, between a second and
ten minutes. -/
def callSigSkewMs (setting : Option String) : ℤ :=
  max 1000 (min ((setting.bind parseI64).getD 60000) 600000)

variable {F : Type} {env : Env F} {nowMs ts : ℤ}

/-- A difference that is too large comes out negative. -/
theorem wrapI64_of_ge {i : ℤ} (h : 2 ^ 63 ≤ i) (h' : i < 2 ^ 64) : wrapI64 i = i - 2 ^ 64 := by
  have hwidth : ((2 ^ 64 : ℕ) : ℤ) = 2 ^ 64 := rfl
  rw [wrapI64, ← Int.sub_bmod_right, hwidth]
  exact wrapI64_of_lt (by omega) (by omega)

/-- The check accepts what is within the skew, and one timestamp that is not. -/
theorem withinSkew_iff (hnow : 0 ≤ nowMs) (hnow' : nowMs < 2 ^ 53) (hts : -2 ^ 63 ≤ ts)
    (hts' : ts < 2 ^ 63) (hskew : 0 ≤ env.callSigSkewMs) (hskew' : env.callSigSkewMs < 2 ^ 62) :
    withinSkew env nowMs ts ↔ |nowMs - ts| ≤ env.callSigSkewMs ∨ ts = nowMs - 2 ^ 63 := by
  unfold withinSkew
  by_cases hfits : nowMs - ts < 2 ^ 63
  · -- the difference and its absolute value fit
    have hdiff : wrapI64 (nowMs - ts) = nowMs - ts := wrapI64_of_lt (by omega) hfits
    have habs : |nowMs - ts| < 2 ^ 63 := abs_lt.2 ⟨by omega, hfits⟩
    have hnonneg := abs_nonneg (nowMs - ts)
    rw [hdiff, wrapI64_of_lt (by omega) habs]
    constructor
    · exact .inl
    · rintro (h | h)
      · exact h
      · omega
  · have hdiff : wrapI64 (nowMs - ts) = nowMs - ts - 2 ^ 64 := wrapI64_of_ge (by omega) (by omega)
    have hneg : |nowMs - ts - 2 ^ 64| = 2 ^ 64 - (nowMs - ts) := by
      rw [abs_of_neg (by omega)]
      omega
    have hpos : |nowMs - ts| = nowMs - ts := abs_of_pos (by omega)
    rw [hdiff, hneg, hpos]
    by_cases hmin : ts = nowMs - 2 ^ 63
    · have hwrap : wrapI64 (2 ^ 64 - (nowMs - ts)) = -2 ^ 63 := by
        rw [wrapI64_of_ge (by omega) (by omega)]
        omega
      rw [hwrap]
      omega
    · rw [wrapI64_of_lt (by omega) (by omega)]
      omega

/-- **The skew check.** For every setting, the check of a signed call is exact at a timestamp
if and only if that is not 2^63 milliseconds before now; and that of a DPoP proof accepts only
what is within the skew if and only if the seconds of the proof do not lead there, times a
thousand and saturated. -/
theorem skew_check_exact_iff (env : Env F) (setting : Option String)
    (hsetting : env.callSigSkewMs = callSigSkewMs setting) (nowMs : ℤ) (hnow : 0 ≤ nowMs)
    (hnow' : nowMs < 2 ^ 53) :
    (∀ text ts, parseI64 text = some ts →
        ((withinSkew env nowMs ts ↔ |nowMs - ts| ≤ env.callSigSkewMs) ↔ ts ≠ nowMs - 2 ^ 63)) ∧
      ∀ proof : DpopProof, -2 ^ 63 ≤ proof.iat → proof.iat < 2 ^ 63 →
        ((withinSkew env nowMs (satI64 (proof.iat * 1000)) →
            |nowMs - 1000 * proof.iat| ≤ env.callSigSkewMs) ↔
          max (1000 * proof.iat) (-2 ^ 63) ≠ nowMs - 2 ^ 63) ∧
        ∀ req, max (1000 * proof.iat) (-2 ^ 63) ≠ nowMs - 2 ^ 63 →
          checkContext env proof req nowMs = .ok () →
          |nowMs - 1000 * proof.iat| ≤ env.callSigSkewMs := by
  have hskew : 1000 ≤ env.callSigSkewMs ∧ env.callSigSkewMs ≤ 600000 := by
    rw [hsetting, callSigSkewMs]
    omega
  constructor
  · intro text ts htext
    have hrange := satI64_of_parseI64 htext
    unfold satI64 at hrange
    rw [withinSkew_iff hnow hnow' (by omega) (by omega) (by omega) (by omega)]
    by_cases hmin : ts = nowMs - 2 ^ 63
    · have habs : |nowMs - ts| = 2 ^ 63 := by
        rw [hmin, sub_sub_cancel]
        rfl
      rw [habs]
      omega
    · simp only [hmin, or_false, ne_eq, not_false_eq_true]
  · intro proof hlo hhi
    have hexact : (withinSkew env nowMs (satI64 (proof.iat * 1000)) →
        |nowMs - 1000 * proof.iat| ≤ env.callSigSkewMs) ↔
          max (1000 * proof.iat) (-2 ^ 63) ≠ nowMs - 2 ^ 63 := by
      have hsat : -2 ^ 63 ≤ satI64 (proof.iat * 1000) ∧ satI64 (proof.iat * 1000) < 2 ^ 63 := by
        unfold satI64
        omega
      rw [withinSkew_iff hnow hnow' hsat.1 hsat.2 (by omega) (by omega)]
      constructor
      · intro haccepts hmin
        have hsatmin : satI64 (proof.iat * 1000) = nowMs - 2 ^ 63 := by
          unfold satI64
          omega
        have hle := (le_abs_self _).trans (haccepts (.inr hsatmin))
        omega
      · rintro hmin (hwithin | hsatmin)
        · -- nothing within the skew is saturated
          have hbounds := abs_le.1 hwithin
          have hunsat : satI64 (proof.iat * 1000) = 1000 * proof.iat := by
            unfold satI64 at hbounds ⊢
            omega
          rwa [hunsat] at hwithin
        · unfold satI64 at hsatmin
          omega
    exact ⟨hexact, fun req hmin hok => hexact.2 hmin (withinSkew_of_checkContext hok)⟩

/-! ## A call from before the epoch -/

/-- The call with another timestamp, sent at second 5. -/
def callAt (ts : String) : CallRequest :=
  { sampleCall with headers := [("x-sauron-call-ts", some ts)] ++ sampleCall.headers }

/-- A timestamp 292 million years old is accepted: 5000 less 2^63. -/
theorem ancient_call_accepted :
    parseI64 "-9223372036854770808" = some (5000 - 2 ^ 63) ∧
      ((tryVerifyCallSig (sampleEnv ℚ) (callAt "-9223372036854770808")).exec
        (World.steady { Db.empty ℚ with agents := [callAgent] } 5000)).1 = .ok "agt_1" ∧
      ¬|(5000 : ℤ) - (5000 - 2 ^ 63)| ≤ (sampleEnv ℚ).callSigSkewMs ∧
      withinSkew (sampleEnv ℚ) 0 (satI64 (-(2 ^ 63) * 1000)) ∧
      ¬|0 - 1000 * (-(2 ^ 63) : ℤ)| ≤ (sampleEnv ℚ).callSigSkewMs := by
  decide +kernel

theorem recent_timestamp_exact :
    parseI64 "4000" = some 4000 ∧
      (withinSkew (sampleEnv ℚ) 5000 4000 ↔ |(5000 : ℤ) - 4000| ≤ 60000) := by
  have htext : parseI64 "4000" = some 4000 := by decide +kernel
  have hexact := (skew_check_exact_iff (sampleEnv ℚ) none (by decide +kernel) 5000 (by decide)
    (by decide)).1 "4000" 4000 htext
  exact ⟨htext, hexact.2 (by decide)⟩

end SauronID.Agent
