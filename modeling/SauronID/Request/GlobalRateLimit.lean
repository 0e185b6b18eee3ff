import Mathlib.Algebra.Order.Field.Rat
import Mathlib.Data.Rat.Floor
import SauronID.Lib.TokenBucket

/-!
# The ingress limiter

Every address has a token bucket, which a request takes one token out of before anything else
happens to it. Requests read the clock first and wait for the lock then, so the times that
`try_acquire_at` sees may run backwards; and a bucket that was idle for five minutes is dropped.
`ingress_bound_iff` says for which configurations an address gets no more than the burst and
the rate allow, if time does not run backwards; if it does, none of them keeps the bound.
-/

namespace SauronID.Request

open TokenBucket

structure GlobalRateLimitConfig where
  requestsPerSecondPerIp : ℕ
  burst : ℕ

/-- A rate or a burst of zero switches the limiter off. -/
def GlobalRateLimitConfig.isDisabled (cfg : GlobalRateLimitConfig) : Bool :=
  cfg.requestsPerSecondPerIp == 0 || cfg.burst == 0

abbrev BucketState := TokenBucket ℚ

section Limiter

variable {Ip : Type} [DecidableEq Ip] (cfg : GlobalRateLimitConfig)

/-- `try_acquire_at`: the answer, with the seconds to wait if it is a refusal, and the
buckets. -/
def tryAcquireAt (buckets : Ip → Option BucketState) (ip : Ip) (now : ℚ) :
    Except ℕ Unit × (Ip → Option BucketState) :=
  if cfg.isDisabled then (.ok (), buckets)
  else
    let rps : ℚ := cfg.requestsPerSecondPerIp
    let burst : ℚ := cfg.burst
    let entry := (buckets ip).getD ⟨burst, now⟩
    let tokens := entry.refilled rps burst now
    if 1 ≤ tokens then (.ok (), Function.update buckets ip (some ⟨tokens - 1, now⟩))
    else
      (.error (max 1 ⌈1 / rps⌉.toNat), Function.update buckets ip (some ⟨tokens, now⟩))

/-- `prune`: only the buckets used within `ttl` are retained. -/
def prune (buckets : Ip → Option BucketState) (ttl now : ℚ) : Ip → Option BucketState :=
  fun ip => (buckets ip).filter fun b => decide (max 0 (now - b.lastRefill) < ttl)

/-- What happens to the buckets under the lock, with the time that was read for it. -/
inductive IngressEvent (Ip : Type) where
  | acquire (ip : Ip) (now : ℚ)
  | prune (now : ℚ)

/-- The background task drops buckets that were idle for five minutes. -/
def pruneTtl : ℚ := 5 * 60

/-- One event: the buckets after it, and the request that it let through. -/
def ingressStep (buckets : Ip → Option BucketState) :
    IngressEvent Ip → (Ip → Option BucketState) × List (Ip × ℚ)
  | .acquire ip now =>
    match tryAcquireAt cfg buckets ip now with
    | (.ok (), buckets') => (buckets', [(ip, now)])
    | (.error _, buckets') => (buckets', [])
  | .prune now => (prune buckets pruneTtl now, [])

/-- The events in the order in which they get the lock. -/
def ingressRun (buckets : Ip → Option BucketState) :
    List (IngressEvent Ip) → (Ip → Option BucketState) × List (Ip × ℚ)
  | [] => (buckets, [])
  | e :: es =>
    let (buckets', out) := ingressStep cfg buckets e
    let (buckets'', out') := ingressRun buckets' es
    (buckets'', out ++ out')

/-- The requests of an address that were let through at times between `start` and
`start + T`. -/
def countIn (ip : Ip) (start T : ℚ) (out : List (Ip × ℚ)) : ℕ :=
  out.countP fun p => decide (p.1 = ip ∧ start ≤ p.2 ∧ p.2 ≤ start + T)

def acceptedIn (ip : Ip) (es : List (IngressEvent Ip)) (start T : ℚ) : ℕ :=
  countIn ip start T (ingressRun cfg (fun _ => none) es).2

/-- The time of an event that concerns the bucket of an address. -/
def IngressEvent.timeFor (ip : Ip) : IngressEvent Ip → Option ℚ
  | acquire ip' now => if ip' = ip then some now else none
  | prune now => some now

/-- The times of the address's requests and of the background task do not run backwards. -/
def InOrder (ip : Ip) (es : List (IngressEvent Ip)) : Prop :=
  (es.filterMap (IngressEvent.timeFor ip)).Pairwise (· ≤ ·)

/-! ## Time runs forwards -/

variable {cfg} {buckets : Ip → Option BucketState} {ip : Ip} {start T now : ℚ} {taken : ℕ}

/-- What `try_acquire_at` does, in terms of the level of the bucket. -/
theorem tryAcquireAt_eq (hrps : 0 < cfg.requestsPerSecondPerIp) (hburst : 0 < cfg.burst) :
    tryAcquireAt cfg buckets ip now =
      let tokens := level (cfg.requestsPerSecondPerIp : ℚ) cfg.burst (buckets ip) now
      if 1 ≤ tokens then (.ok (), Function.update buckets ip (some ⟨tokens - 1, now⟩))
      else (.error (max 1 ⌈1 / (cfg.requestsPerSecondPerIp : ℚ)⌉.toNat),
        Function.update buckets ip (some ⟨tokens, now⟩)) := by
  have henabled : cfg.isDisabled = false := by
    simp [GlobalRateLimitConfig.isDisabled, hrps.ne', hburst.ne']
  have hentry : ((buckets ip).getD ⟨(cfg.burst : ℚ), now⟩).refilled
      (cfg.requestsPerSecondPerIp : ℚ) cfg.burst now =
        level (cfg.requestsPerSecondPerIp : ℚ) cfg.burst (buckets ip) now := by
    cases buckets ip with
    | none => exact refilled_self le_rfl
    | some b => rfl
  simp only [tryAcquireAt, henabled, Bool.false_eq_true, if_false, hentry]

/-- A request that finds a token is let through, any other is not. -/
theorem ingressStep_acquire (hrps : 0 < cfg.requestsPerSecondPerIp) (hburst : 0 < cfg.burst) :
    ingressStep cfg buckets (.acquire ip now) =
      let tokens := level (cfg.requestsPerSecondPerIp : ℚ) cfg.burst (buckets ip) now
      if 1 ≤ tokens then (Function.update buckets ip (some ⟨tokens - 1, now⟩), [(ip, now)])
      else (Function.update buckets ip (some ⟨tokens, now⟩), []) := by
  simp only [ingressStep, tryAcquireAt_eq hrps hburst]
  split_ifs <;> rfl

/-- An event keeps the invariant of the buckets, if it is not dated back. -/
theorem admitted_step (hrps : 0 < cfg.requestsPerSecondPerIp) (hburst : 0 < cfg.burst)
    (hfull : cfg.burst ≤ 300 * cfg.requestsPerSecondPerIp)
    (h : Admitted (cfg.requestsPerSecondPerIp : ℚ) cfg.burst start T taken (buckets ip) now)
    (e : IngressEvent Ip) (hle : ∀ t ∈ e.timeFor ip, now ≤ t) :
    Admitted (cfg.requestsPerSecondPerIp : ℚ) cfg.burst start T
      (taken + countIn ip start T (ingressStep cfg buckets e).2)
      ((ingressStep cfg buckets e).1 ip) ((e.timeFor ip).getD now) := by
  have hrate : (0 : ℚ) ≤ cfg.requestsPerSecondPerIp := Nat.cast_nonneg _
  have hcap : (0 : ℚ) ≤ cfg.burst := Nat.cast_nonneg _
  cases e with
  | acquire ip' t =>
    rw [ingressStep_acquire hrps hburst]
    by_cases hip : ip' = ip
    · subst hip
      have htime : (IngressEvent.acquire ip' t).timeFor ip' = some t := if_pos rfl
      rw [htime] at hle ⊢
      have hlater := h.later hrate (hle t rfl)
      dsimp only
      split
      · rename_i hone
        have htake := hlater.take hrate hone
        simpa [countIn, List.countP_cons] using htake
      · simpa [countIn] using hlater.refill hrate hcap
    · -- the request of another address
      have htime : (IngressEvent.acquire ip' t).timeFor ip = none := if_neg hip
      rw [htime]
      dsimp only
      split
      · simpa [countIn, List.countP_cons, hip, Function.update_of_ne (Ne.symm hip)] using h
      · simpa [countIn, Function.update_of_ne (Ne.symm hip)] using h
  | prune t =>
    have hlater := h.later hrate (hle t rfl)
    simp only [ingressStep, prune, countIn, List.countP_nil, Nat.add_zero,
      IngressEvent.timeFor, Option.getD_some]
    cases hb : buckets ip with
    | none => simpa [hb] using hlater
    | some b =>
      rw [hb] at hlater
      by_cases hkept : max 0 (t - b.lastRefill) < pruneTtl
      · simpa [Option.filter, hkept] using hlater
      · have hstale : (300 : ℚ) ≤ t - b.lastRefill := by
          simp only [pruneTtl, max_lt_iff, not_and_or, not_lt] at hkept
          rcases hkept with h' | h' <;> linarith
        have hfull' : (cfg.burst : ℚ) ≤ 300 * cfg.requestsPerSecondPerIp := by exact_mod_cast hfull
        simpa [Option.filter, hkept] using hlater.drop hrate hfull' hstale

theorem countIn_append (out out' : List (Ip × ℚ)) :
    countIn ip start T (out ++ out') = countIn ip start T out + countIn ip start T out' :=
  List.countP_append

variable {es : List (IngressEvent Ip)}

/-- No run takes more out of a bucket than the invariant allows. -/
theorem countIn_ingressRun_le (hrps : 0 < cfg.requestsPerSecondPerIp) (hburst : 0 < cfg.burst)
    (hfull : cfg.burst ≤ 300 * cfg.requestsPerSecondPerIp)
    (h : Admitted (cfg.requestsPerSecondPerIp : ℚ) cfg.burst start T taken (buckets ip) now)
    (horder : (now :: es.filterMap (IngressEvent.timeFor ip)).Pairwise (· ≤ ·)) :
    ((taken + countIn ip start T (ingressRun cfg buckets es).2 : ℕ) : ℚ) ≤
      cfg.burst + cfg.requestsPerSecondPerIp * T := by
  induction es generalizing buckets taken now with
  | nil => exact h.taken_le
  | cons e es ih =>
    have hnow : ∀ t ∈ e.timeFor ip, now ≤ t := by
      intro t ht
      refine (List.pairwise_cons.1 horder).1 t ?_
      rw [List.mem_filterMap]
      exact ⟨e, List.mem_cons_self, ht⟩
    have horder' : ((e.timeFor ip).getD now :: es.filterMap (IngressEvent.timeFor ip)).Pairwise
        (· ≤ ·) := by
      cases ht : e.timeFor ip with
      | none => rwa [List.filterMap_cons_none ht] at horder
      | some t =>
        rw [List.filterMap_cons_some ht] at horder
        exact (List.pairwise_cons.1 horder).2
    have hstep := ih (admitted_step hrps hburst hfull h e hnow) horder'
    simp only [ingressRun, countIn_append]
    rwa [Nat.add_assoc] at hstep

/-- If the bucket fills in five minutes and time does not run backwards, then the bound is
kept. -/
theorem acceptedIn_le (hrps : 0 < cfg.requestsPerSecondPerIp) (hburst : 0 < cfg.burst)
    (hfull : cfg.burst ≤ 300 * cfg.requestsPerSecondPerIp) (horder : InOrder ip es) (hT : 0 ≤ T) :
    (acceptedIn cfg ip es start T : ℚ) ≤ cfg.burst + cfg.requestsPerSecondPerIp * T := by
  -- nothing has happened before the first time
  have hfirst : ∃ now : ℚ,
      (now :: es.filterMap (IngressEvent.timeFor ip)).Pairwise (· ≤ ·) := by
    cases htimes : es.filterMap (IngressEvent.timeFor ip) with
    | nil => exact ⟨0, by simp⟩
    | cons t ts =>
      refine ⟨t, List.pairwise_cons.2 ⟨?_, htimes ▸ horder⟩⟩
      intro t' ht'
      rcases List.mem_cons.1 ht' with rfl | ht'
      · exact le_rfl
      · exact (List.pairwise_cons.1 (htimes ▸ horder : (t :: ts).Pairwise (· ≤ ·))).1 t' ht'
  obtain ⟨now, hnow⟩ := hfirst
  have hrun : ((0 + countIn ip start T (ingressRun cfg (fun _ : Ip => none) es).2 : ℕ) : ℚ) ≤
      cfg.burst + cfg.requestsPerSecondPerIp * T :=
    countIn_ingressRun_le hrps hburst hfull
      (Admitted.init (Nat.cast_nonneg _) (Nat.cast_nonneg _) hT) hnow
  rwa [Nat.zero_add] at hrun

/-! ## A bucket that is dropped too early -/

theorem ingressRun_append (es es' : List (IngressEvent Ip)) : ingressRun cfg buckets (es ++ es') =
      let (buckets', out) := ingressRun cfg buckets es
      let (buckets'', out') := ingressRun cfg buckets' es'
      (buckets'', out ++ out') := by
  induction es generalizing buckets with
  | nil => rfl
  | cons e es ih => simp only [List.cons_append, ingressRun, ih, List.append_assoc]

/-- Requests at one time empty the bucket. -/
theorem countIn_replicate (hrps : 0 < cfg.requestsPerSecondPerIp) (hburst : 0 < cfg.burst)
    {k : ℕ} (hk : (k : ℚ) ≤ level (cfg.requestsPerSecondPerIp : ℚ) cfg.burst (buckets ip) now)
    (hstart : start ≤ now) (hend : now ≤ start + T) :
    countIn ip start T (ingressRun cfg buckets (List.replicate k (.acquire ip now))).2 = k := by
  induction k generalizing buckets with
  | zero => rfl
  | succ k ih =>
    push_cast at hk
    have hle : level (cfg.requestsPerSecondPerIp : ℚ) cfg.burst (buckets ip) now ≤ cfg.burst :=
      level_le_cap
    have hpos : (0 : ℚ) ≤ k := Nat.cast_nonneg k
    have hone : 1 ≤ level (cfg.requestsPerSecondPerIp : ℚ) cfg.burst (buckets ip) now := by
      linarith
    simp only [List.replicate_succ, ingressRun, countIn_append,
      ingressStep_acquire hrps hburst, if_pos hone]
    rw [ih]
    · simp [countIn, hstart, hend, Nat.add_comm]
    · rw [Function.update_self, level_some, refilled_self (by linarith)]
      linarith

theorem lastRefill_replicate (hrps : 0 < cfg.requestsPerSecondPerIp) (hburst : 0 < cfg.burst)
    (k : ℕ) (hlast : ∀ x ∈ buckets ip, x.lastRefill = now) :
    ∀ x ∈ (ingressRun cfg buckets (List.replicate k (.acquire ip now))).1 ip,
      x.lastRefill = now := by
  induction k generalizing buckets with
  | zero => exact hlast
  | succ k ih =>
    simp only [List.replicate_succ, ingressRun]
    refine ih ?_
    rw [ingressStep_acquire hrps hburst]
    dsimp only
    split <;> simp [Function.update_self]

/-- Five rounds of the background task. -/
def pruneRounds : List (IngressEvent Ip) :=
  [.prune 60, .prune 120, .prune 180, .prune 240, .prune 300]

/-- The burst at once, and again when the bucket has been dropped. -/
def burstTwice (cfg : GlobalRateLimitConfig) (ip : Ip) : List (IngressEvent Ip) :=
  List.replicate cfg.burst (.acquire ip 0) ++ (pruneRounds ++
    List.replicate cfg.burst (.acquire ip 300))

theorem inOrder_burstTwice (cfg : GlobalRateLimitConfig) (ip : Ip) :
    InOrder ip (burstTwice cfg ip) := by
  have htimes : (burstTwice cfg ip).filterMap (IngressEvent.timeFor ip) =
      List.replicate cfg.burst 0 ++ ([60, 120, 180, 240, 300] ++ List.replicate cfg.burst 300) := by
    simp [burstTwice, pruneRounds, IngressEvent.timeFor]
  rw [InOrder, htimes]
  refine List.pairwise_append.2 ⟨by simp [List.pairwise_replicate], ?_, ?_⟩
  · refine List.pairwise_append.2 ⟨by decide +kernel, by simp [List.pairwise_replicate], ?_⟩
    intro t ht t' ht'
    rw [List.eq_of_mem_replicate ht']
    revert t
    decide +kernel
  · intro t ht t' ht'
    rw [List.eq_of_mem_replicate ht]
    rcases List.mem_append.1 ht' with hround | hsecond
    · clear ht'
      revert t'
      decide +kernel
    · rw [List.eq_of_mem_replicate hsecond]
      decide +kernel

/-- The rounds drop a bucket that was last used at 0. -/
theorem pruneRounds_drop (hlast : ∀ x ∈ buckets ip, x.lastRefill = 0) :
    (ingressRun cfg buckets pruneRounds).1 ip = none ∧
      (ingressRun cfg buckets pruneRounds).2 = [] := by
  refine ⟨?_, rfl⟩
  simp only [pruneRounds, ingressRun, ingressStep, prune]
  cases hb : buckets ip with
  | none => rfl
  | some b =>
    have hzero : b.lastRefill = 0 := hlast b hb
    norm_num [Option.filter, pruneTtl, hzero]

theorem acceptedIn_burstTwice (hrps : 0 < cfg.requestsPerSecondPerIp) (hburst : 0 < cfg.burst)
    (ip : Ip) : acceptedIn cfg ip (burstTwice cfg ip) 0 300 = 2 * cfg.burst := by
  simp only [acceptedIn, burstTwice, ingressRun_append, countIn_append]
  set spent := (ingressRun cfg (fun _ : Ip => none) (List.replicate cfg.burst (.acquire ip 0))).1
  have hfirst : countIn ip 0 300 (ingressRun cfg (fun _ : Ip => none)
      (List.replicate cfg.burst (.acquire ip 0))).2 = cfg.burst :=
    countIn_replicate hrps hburst le_rfl (by decide) (by decide +kernel)
  have hlast : ∀ x ∈ spent ip, x.lastRefill = 0 := lastRefill_replicate hrps hburst cfg.burst nofun
  obtain ⟨hnone, hsilent⟩ : (ingressRun cfg spent pruneRounds).1 ip = none ∧
      (ingressRun cfg spent pruneRounds).2 = [] := pruneRounds_drop hlast
  have hfull : (cfg.burst : ℚ) ≤ level (cfg.requestsPerSecondPerIp : ℚ) cfg.burst
      ((ingressRun cfg spent pruneRounds).1 ip) 300 := by
    rw [hnone, level_none]
  have hsecond : countIn ip 0 300 (ingressRun cfg (ingressRun cfg spent pruneRounds).1
      (List.replicate cfg.burst (.acquire ip 300))).2 = cfg.burst :=
    countIn_replicate hrps hburst hfull (by decide +kernel) (by decide +kernel)
  have hnothing : countIn ip 0 300 (ingressRun cfg spent pruneRounds).2 = 0 := by
    rw [hsilent]
    rfl
  omega

/-! ## Time runs backwards -/

/-- A request leaves a bucket that is not in debt, refilled at its own time. -/
theorem exists_ingressStep_acquire (hrps : 0 < cfg.requestsPerSecondPerIp)
    (hburst : 0 < cfg.burst) (h : ∀ x ∈ buckets ip, 0 ≤ x.tokens) : ∃ tokens, 0 ≤ tokens ∧
      (ingressStep cfg buckets (.acquire ip now)).1 ip = some ⟨tokens, now⟩ := by
  have hlevel : 0 ≤ level (cfg.requestsPerSecondPerIp : ℚ) cfg.burst (buckets ip) now := by
    cases hb : buckets ip with
    | none => exact Nat.cast_nonneg _
    | some b => exact refilled_nonneg (Nat.cast_nonneg _) (Nat.cast_nonneg _) (h b hb)
  rw [ingressStep_acquire hrps hburst]
  dsimp only
  split
  · rename_i hone
    exact ⟨_, sub_nonneg.2 hone, Function.update_self ..⟩
  · exact ⟨_, hlevel, Function.update_self ..⟩

theorem nonneg_replicate (hrps : 0 < cfg.requestsPerSecondPerIp) (hburst : 0 < cfg.burst) (k : ℕ)
    (h : ∀ x ∈ buckets ip, 0 ≤ x.tokens) :
    ∀ x ∈ (ingressRun cfg buckets (List.replicate k (.acquire ip now))).1 ip, 0 ≤ x.tokens := by
  induction k generalizing buckets with
  | zero => exact h
  | succ k ih =>
    simp only [List.replicate_succ, ingressRun]
    obtain ⟨tokens, hpos, hstep⟩ := exists_ingressStep_acquire hrps hburst h
    refine ih ?_
    rw [hstep]
    rintro x ⟨⟩
    exact hpos

/-- The clock goes back and forth between 0 and 1. -/
def backAndForth (ip : Ip) (n : ℕ) : List (IngressEvent Ip) :=
  (List.replicate n [.acquire ip 0, .acquire ip 1]).flatten

/-- Each time it goes forward, the bucket is refilled. -/
theorem le_countIn_backAndForth (hrps : 0 < cfg.requestsPerSecondPerIp) (hburst : 0 < cfg.burst)
    (h : ∀ x ∈ buckets ip, 0 ≤ x.tokens) (n : ℕ) :
    n ≤ countIn ip 0 1 (ingressRun cfg buckets (backAndForth ip n)).2 := by
  induction n generalizing buckets with
  | zero => exact Nat.zero_le _
  | succ n ih =>
    obtain ⟨tokens, hpos, hback⟩ : ∃ tokens, 0 ≤ tokens ∧
        (ingressStep cfg buckets (.acquire ip 0)).1 ip = some ⟨tokens, 0⟩ :=
      exists_ingressStep_acquire hrps hburst h
    have hrps' : (1 : ℚ) ≤ cfg.requestsPerSecondPerIp := by exact_mod_cast hrps
    have hburst' : (1 : ℚ) ≤ cfg.burst := by exact_mod_cast hburst
    have hone : 1 ≤ level (cfg.requestsPerSecondPerIp : ℚ) cfg.burst
        ((ingressStep cfg buckets (.acquire ip 0)).1 ip) 1 := by
      rw [hback, level_some, refilled]
      refine le_min ?_ hburst'
      norm_num
      linarith
    have hout : (ingressStep cfg (ingressStep cfg buckets (.acquire ip 0)).1 (.acquire ip 1)).2 =
        [(ip, 1)] := by
      rw [ingressStep_acquire hrps hburst]
      simp only [if_pos hone]
    have hcount : countIn ip 0 1 [(ip, (1 : ℚ))] = 1 := by simp [countIn]
    have hback' : ∀ x ∈ (ingressStep cfg buckets (.acquire ip 0)).1 ip, 0 ≤ x.tokens := by
      rw [hback]
      rintro x ⟨⟩
      exact hpos
    obtain ⟨tokens', hpos', hforth⟩ : ∃ tokens, 0 ≤ tokens ∧
        (ingressStep cfg (ingressStep cfg buckets (.acquire ip 0)).1 (.acquire ip 1)).1 ip =
          some ⟨tokens, 1⟩ := exists_ingressStep_acquire hrps hburst hback'
    have hforth' : ∀ x ∈ (ingressStep cfg (ingressStep cfg buckets (.acquire ip 0)).1
        (.acquire ip 1)).1 ip, 0 ≤ x.tokens := by
      rw [hforth]
      rintro x ⟨⟩
      exact hpos'
    have hrest := ih hforth'
    have hevents : backAndForth ip (n + 1) =
        .acquire ip 0 :: .acquire ip 1 :: backAndForth ip n := by
      simp [backAndForth, List.replicate_succ]
    simp only [hevents, ingressRun, countIn_append, hout, hcount]
    omega

/-- **The ingress limiter.** For every rate and burst, an address has at most `burst + rps * T`
requests let through in every window of length `T` of every run in which the times of its
requests and of the background task do not run backwards, if and only if a bucket fills within
the five minutes after which it is dropped. If they do run backwards then no rate and burst
keep the bound, even if no bucket is dropped. -/
theorem ingress_bound_iff [Nonempty Ip] (cfg : GlobalRateLimitConfig)
    (hrps : 0 < cfg.requestsPerSecondPerIp) (hburst : 0 < cfg.burst) :
    ((∀ (ip : Ip) es start T, 0 ≤ T → InOrder ip es →
        (acceptedIn cfg ip es start T : ℚ) ≤ cfg.burst + cfg.requestsPerSecondPerIp * T) ↔
      cfg.burst ≤ 300 * cfg.requestsPerSecondPerIp) ∧
    ∀ ip : Ip, ∃ requests : List ℚ, ∃ start T, 0 ≤ T ∧
      cfg.burst + cfg.requestsPerSecondPerIp * T <
        (acceptedIn cfg ip (requests.map (.acquire ip)) start T : ℚ) := by
  constructor
  · constructor
    · intro hbound
      obtain ⟨ip⟩ := ‹Nonempty Ip›
      have htwice := hbound ip (burstTwice cfg ip) 0 300 (by decide +kernel)
        (inOrder_burstTwice cfg ip)
      rw [acceptedIn_burstTwice hrps hburst] at htwice
      have hnat : 2 * cfg.burst ≤ cfg.burst + cfg.requestsPerSecondPerIp * 300 := by
        exact_mod_cast htwice
      omega
    · intro hfull ip es start T hT horder
      exact acceptedIn_le hrps hburst hfull horder hT
  · intro ip
    refine ⟨List.replicate cfg.burst 1 ++
      (List.replicate (cfg.requestsPerSecondPerIp + 1) [0, 1]).flatten, 0, 1, by decide, ?_⟩
    have hevents : (List.replicate cfg.burst (1 : ℚ) ++
        (List.replicate (cfg.requestsPerSecondPerIp + 1) [0, 1]).flatten).map
          (IngressEvent.acquire ip) = List.replicate cfg.burst (.acquire ip 1) ++
            backAndForth ip (cfg.requestsPerSecondPerIp + 1) := by
      simp [backAndForth, List.map_flatten]
    have hfirst : countIn ip 0 1 (ingressRun cfg (fun _ : Ip => none)
        (List.replicate cfg.burst (.acquire ip 1))).2 = cfg.burst :=
      countIn_replicate hrps hburst le_rfl (by decide) (by decide +kernel)
    have hspent : ∀ x ∈ (ingressRun cfg (fun _ : Ip => none)
        (List.replicate cfg.burst (.acquire ip 1))).1 ip, 0 ≤ x.tokens :=
      nonneg_replicate hrps hburst cfg.burst nofun
    have hmore := le_countIn_backAndForth hrps hburst hspent (cfg.requestsPerSecondPerIp + 1)
    have hcount : cfg.burst + cfg.requestsPerSecondPerIp * 1 <
        acceptedIn cfg ip (List.replicate cfg.burst (.acquire ip 1) ++
          backAndForth ip (cfg.requestsPerSecondPerIp + 1)) 0 1 := by
      simp only [acceptedIn, ingressRun_append, countIn_append, hfirst]
      omega
    rw [hevents]
    exact_mod_cast hcount

end Limiter

/-- One request per second: a clock that is read before waiting for the lock lets an address
have five in one second, and a bucket of 301 that is emptied, dropped after five minutes and
emptied again lets it have 602 within them. -/
theorem ingress_bound_exceeded :
    acceptedIn ⟨1, 1⟩ () ([1, 0, 1, 0, 1, 0, 1, 0, 1].map (.acquire ())) 0 1 = 5 ∧
      ¬(5 : ℚ) ≤ 1 + 1 * 1 ∧
      InOrder () (burstTwice ⟨1, 301⟩ ()) ∧
      acceptedIn ⟨1, 301⟩ () (burstTwice ⟨1, 301⟩ ()) 0 300 = 602 ∧
      ¬(602 : ℚ) ≤ 301 + 1 * 300 := by
  refine ⟨by decide +kernel, by decide +kernel, inOrder_burstTwice _ _, ?_, by decide +kernel⟩
  exact acceptedIn_burstTwice (by decide) (by decide) ()

theorem default_config_bounded :
    InOrder () [.acquire () 0, .prune 60, .acquire () 61] ∧
      (acceptedIn ⟨200, 50⟩ () [.acquire () 0, .prune 60, .acquire () 61] 0 61 : ℚ) ≤
        50 + 200 * 61 := by
  have horder : InOrder () [.acquire () 0, .prune 60, .acquire () 61] := by
    simp [InOrder, IngressEvent.timeFor]
    norm_num
  exact ⟨horder, ((ingress_bound_iff ⟨200, 50⟩ (by decide) (by decide)).1.2 (by decide) () _ 0 61
    (by decide +kernel) horder)⟩

end SauronID.Request
