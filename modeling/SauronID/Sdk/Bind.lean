import Mathlib.Algebra.Order.Floor.Ring
import Mathlib.Data.Rat.Floor
import SauronID.Sdk.Evaluator
import SauronID.Sdk.Tracker

/-!
# Tools behind a rate limit

`bind` wraps a tool: a call is judged in the client, the tool is invoked, and the call is
recorded in the tracker that the rate limit counts in. It is recorded only if the tool returns
and the action carries an amount; the tracker remembers 1024 calls; and times are cut to whole
seconds. `rate_limit_kept` says that apart from this the limit is kept.
-/

namespace SauronID.Sdk

open Dsl Text

variable {F : Type}

/-- One call of a wrapped tool: the readings of the clock in their order, what the classifier
makes of the arguments, and whether the tool returns. -/
structure ToolCall (F : Type) where
  /-- The action is made. -/
  actionAt : ℚ
  /-- The recent calls are looked up. -/
  recentAt : ℚ
  /-- The tool is invoked, if it is. -/
  invokedAt : ℚ
  /-- The tool is back. -/
  recordedAt : ℚ
  classified : Action F
  toolOk : Bool

/-- What the wrappers leave to their languages. -/
structure Wrapper (F : Type) where
  /-- The second that an action is made in. -/
  timestamp : ℚ → ℤ
  /-- What the tracker stores of the time of a call. -/
  stamp : ℚ → ℤ
  /-- The calls up to here are forgotten. -/
  cutoff : ℚ → ℤ
  prune : ℤ → List ℤ → List ℤ
  /-- The second of a stored time. -/
  toSecs : ℤ → ℤ
  /-- The time an action is judged by, given its own and another reading. -/
  nowEpoch : ℤ → ℤ → ℤ
  computeNowTzHhmm : ℤ → String → String
  /-- The evaluator, given what it may read of the clock by itself. -/
  evaluate : ℤ → Binding F → Action F → Context F → Verdict

variable [Float64 F]

/-- One call: whether the tool was invoked, and the tracker. -/
def Wrapper.call (w : Wrapper F) (b : Binding F) (t : BudgetTracker F) (c : ToolCall F) :
    Bool × BudgetTracker F :=
  let action := { c.classified with timestamp := w.timestamp c.actionAt }
  let now := w.nowEpoch action.timestamp (w.timestamp c.recentAt)
  let recent := w.prune (w.cutoff c.recentAt) t.callTimestamps
  let t := { t with callTimestamps := recent }
  let ctx : Context F :=
    { spendTotalUsd := t.totalUsd
      recentCallTimestamps := recent.map w.toSecs
      nowEpoch := now
      nowTzHhmm := w.computeNowTzHhmm now (b.timeWindow.elim "UTC" (·.timezone)) }
  match w.evaluate (w.timestamp c.recentAt) b action ctx with
  | .deny _ _ => (false, t)
  | .allow =>
    match c.toolOk, action.amountUsd with
    | true, some amount => (true, t.record amount (some action.actionId) (w.stamp c.recordedAt))
    | _, _ => (true, t)

/-- The times at which the tool is invoked. -/
def Wrapper.invocations (w : Wrapper F) (b : Binding F) :
    BudgetTracker F → List (ToolCall F) → List ℚ
  | _, [] => []
  | t, c :: cs =>
    let (invoked, t') := w.call b t c
    if invoked then c.invokedAt :: w.invocations b t' cs else w.invocations b t' cs

/-! ## The three languages -/

/-- `int` of a float. -/
def trunc (q : ℚ) : ℤ := if q < 0 then ⌈q⌉ else ⌊q⌋

/-- `bind` of `enforcement.py` -/
def pythonWrapper (rt : Runtimes) : Wrapper F where
  timestamp := trunc
  stamp := trunc
  cutoff t := trunc (t - 60)
  prune c calls := calls.filter (c < ·)
  toSecs s := s
  nowEpoch timestamp reading := if timestamp = 0 then reading else timestamp
  computeNowTzHhmm := rt.computeNowTzHhmm
  evaluate reading := evaluatePython { rt with pyTime := reading }

/-- `bind` of `tool-proxy.ts` -/
def typescriptWrapper (rt : Runtimes) : Wrapper F where
  timestamp t := ⌊t * 1000⌋ / 1000
  stamp t := ⌊t * 1000⌋
  cutoff t := ⌊t * 1000⌋ - 60000
  prune c calls := calls.dropWhile (· ≤ c)
  toSecs ms := ms / 1000
  nowEpoch timestamp _ := timestamp
  computeNowTzHhmm := rt.computeNowTzHhmm
  evaluate _ := evaluateTypescript rt

/-- `Bind` of `bind.go` -/
def goWrapper (rt : Runtimes) : Wrapper F where
  timestamp t := ⌊t⌋
  stamp t := ⌊t * 1000⌋
  cutoff t := ⌊(t - 60) * 1000⌋
  prune c calls := calls.dropWhile (· ≤ c)
  toSecs ms := ms.tdiv 1000
  nowEpoch timestamp _ := timestamp
  computeNowTzHhmm := rt.computeNowTzHhmm
  evaluate _ := evaluateGo rt

/-! ## What the limit counts -/

/-- The second is in the minute that ends with `now`. -/
def inMinute (now s : ℤ) : Bool := decide (now - 60 < s) && decide (s ≤ now)

/-- What the bound needs of a wrapper, from the first minute after the epoch on. -/
structure Wrapper.Sound (w : Wrapper F) : Prop where
  timestamp_eq : ∀ t, 0 ≤ t → w.timestamp t = ⌊t⌋
  toSecs_stamp : ∀ t, 0 ≤ t → w.toSecs (w.stamp t) = ⌊t⌋
  toSecs_mono : ∀ s s', s ≤ s' → w.toSecs s ≤ w.toSecs s'
  stamp_mono : ∀ t t', 0 ≤ t → t ≤ t' → w.stamp t ≤ w.stamp t'
  cutoff_mono : ∀ t t', 60 ≤ t → t ≤ t' → w.cutoff t ≤ w.cutoff t'
  prune_eq : ∀ c l, l.Pairwise (· ≤ ·) → w.prune c l = l.dropWhile (· ≤ c)
  nowEpoch_eq : ∀ s s', 0 < s → w.nowEpoch s s' = s
  /-- A call of the last sixty seconds of the clock is not forgotten. -/
  cutoff_lt : ∀ t t', 60 ≤ t → 0 ≤ t' → ⌊t⌋ < ⌊t'⌋ + 60 → w.cutoff t < w.stamp t'
  /-- What is allowed is below the limit. -/
  below : ∀ reading b a (ctx : Context F) limit, b.rateLimit = some limit → 60 ≤ ctx.nowEpoch →
    ctx.nowEpoch < 2 ^ 53 → w.evaluate reading b a ctx = .allow →
    ctx.recentCallTimestamps.countP (inMinute ctx.nowEpoch) < limit

variable {b : Binding F} {ctx : Context F} {limit : ℕ}

/-- What an evaluator allows is below the limit. -/
theorem callCount_lt_of_allow {lang : Language} {a : Action F} (hlimit : b.rateLimit = some limit)
    (h : evaluateWith lang b a ctx = .allow) : callCount lang.windowStart ctx < limit := by
  have hnone := deniedBy_evaluateWith lang b a ctx
  rw [h] at hnone
  by_contra hreached
  have hat : atLimit b (callCount lang.windowStart ctx) = true := by
    simpa [atLimit, hlimit] using hreached
  have hall := List.findSome?_eq_none_iff.1 hnone.symm
  have hrate := hall (atLimit b (callCount lang.windowStart ctx), "rate_limit") (by simp)
  simp [hat] at hrate

variable {t : ℚ}

theorem trunc_of_nonneg (h : 0 ≤ t) : trunc t = ⌊t⌋ := if_neg (not_lt.2 h)

/-- The milliseconds of a time are those of its second. -/
theorem floor_mul_ediv (t : ℚ) : ⌊t * 1000⌋ / 1000 = ⌊t⌋ := by
  have h := Int.floor_div_natCast (t * 1000) 1000
  rw [Nat.cast_ofNat, mul_div_cancel_right₀ t (by decide +kernel)] at h
  exact h.symm

variable {t' : ℚ}

theorem floor_mul_mono (h : t ≤ t') : ⌊t * 1000⌋ ≤ ⌊t' * 1000⌋ := by
  gcongr

/-- Sixty thousand milliseconds before a time whose second is less than sixty later. -/
theorem floor_mul_sub_lt (h : ⌊t⌋ < ⌊t'⌋ + 60) : ⌊t * 1000⌋ - 60000 < ⌊t' * 1000⌋ := by
  have ht := floor_mul_ediv t
  have ht' := floor_mul_ediv t'
  omega

theorem floor_sub_sixty (t : ℚ) : ⌊(t - 60) * 1000⌋ = ⌊t * 1000⌋ - 60000 := by
  have h := Int.floor_sub_intCast (t * 1000) 60000
  rw [← h]
  congr 1
  push_cast
  ring

omit [Float64 F] in
/-- The start of the minute is a number of every language. -/
theorem callCount_eq {windowStart : ℤ → ℤ} (h : windowStart ctx.nowEpoch = ctx.nowEpoch - 60) :
    callCount windowStart ctx = ctx.recentCallTimestamps.countP (inMinute ctx.nowEpoch) := by
  simp only [callCount, h]
  rfl

theorem pythonWrapper_sound (rt : Runtimes) : (pythonWrapper rt : Wrapper F).Sound where
  timestamp_eq _ := trunc_of_nonneg
  toSecs_stamp _ := trunc_of_nonneg
  toSecs_mono _ _ h := h
  stamp_mono t t' h0 h := by
    simp only [pythonWrapper, trunc_of_nonneg h0, trunc_of_nonneg (h0.trans h)]
    exact Int.floor_le_floor h
  cutoff_mono t t' h0 h := by
    simp only [pythonWrapper]
    rw [trunc_of_nonneg (by linarith), trunc_of_nonneg (by linarith)]
    gcongr
  prune_eq c l hl := filter_lt_eq_dropWhile hl c
  nowEpoch_eq s s' hs := if_neg hs.ne'
  cutoff_lt t t' h0 h0' h := by
    have hsub := Int.floor_sub_intCast t 60
    simp only [pythonWrapper]
    rw [trunc_of_nonneg (by linarith), trunc_of_nonneg h0']
    push_cast at hsub
    omega
  below reading b a ctx limit hlimit hlo hhi hallow := by
    have hcount := callCount_lt_of_allow hlimit hallow
    have hnow : (pythonContext { rt with pyTime := reading } b ctx).nowEpoch = ctx.nowEpoch :=
      if_pos (by omega)
    rwa [callCount_eq rfl, hnow] at hcount

theorem typescriptWrapper_sound (rt : Runtimes) : (typescriptWrapper rt : Wrapper F).Sound where
  timestamp_eq t _ := floor_mul_ediv t
  toSecs_stamp t _ := floor_mul_ediv t
  toSecs_mono _ _ h := Int.ediv_le_ediv (by decide) h
  stamp_mono t t' _ h := floor_mul_mono h
  cutoff_mono t t' _ h := by
    simp only [typescriptWrapper]
    have := floor_mul_mono h
    omega
  prune_eq _ _ _ := rfl
  nowEpoch_eq _ _ _ := rfl
  cutoff_lt t t' _ _ h := floor_mul_sub_lt h
  below reading b a ctx limit hlimit hlo hhi hallow := by
    have hcount := callCount_lt_of_allow hlimit hallow
    rwa [callCount_eq rfl] at hcount

theorem goWrapper_sound (rt : Runtimes) : (goWrapper rt : Wrapper F).Sound where
  timestamp_eq _ _ := rfl
  toSecs_stamp t h0 := by
    have hpos : 0 ≤ ⌊t * 1000⌋ := Int.floor_nonneg.2 (by positivity)
    simp only [goWrapper]
    rw [Int.tdiv_eq_ediv_of_nonneg hpos, floor_mul_ediv]
  toSecs_mono _ _ h := Int.tdiv_le_tdiv (by decide) h
  stamp_mono t t' _ h := floor_mul_mono h
  cutoff_mono t t' _ h := by
    simp only [goWrapper, floor_sub_sixty]
    have := floor_mul_mono h
    omega
  prune_eq _ _ _ := rfl
  nowEpoch_eq _ _ _ := rfl
  cutoff_lt t t' _ _ h := by
    simp only [goWrapper, floor_sub_sixty]
    exact floor_mul_sub_lt h
  below reading b a ctx limit hlimit hlo hhi hallow := by
    have hcount := callCount_lt_of_allow hlimit hallow
    rwa [callCount_eq (wrapI64_of_lt (by omega) (by omega))] at hcount

/-! ## Whole runs -/

/-- The readings of the clock that a call makes. -/
def ToolCall.readings (c : ToolCall F) : List ℚ :=
  [c.actionAt, c.recentAt, c.invokedAt, c.recordedAt]

/-- The clock does not run backwards, it is past the first minute of its era, and its seconds
are exact numbers in every language. -/
structure OnClock (calls : List (ToolCall F)) : Prop where
  ordered : (60 :: calls.flatMap ToolCall.readings).Pairwise (· ≤ ·)
  bounded : ∀ c ∈ calls, c.recordedAt < 2 ^ 53

/-- If less than sixty seconds lie between two invocations, then the seconds of the first one's
record and of the second one's lookup are less than sixty apart. -/
def SecondsAgree (c c' : ToolCall F) : Prop :=
  c'.invokedAt < c.invokedAt + 60 → ⌊c'.recentAt⌋ < ⌊c.recordedAt⌋ + 60

omit [Float64 F] in
instance (c c' : ToolCall F) : Decidable (SecondsAgree c c') :=
  inferInstanceAs (Decidable (_ → _))

/-- The time is in the window of sixty seconds after `start`. -/
def inSixty (start t : ℚ) : Bool := decide (start < t) && decide (t ≤ start + 60)

/-- What holds between two calls, by `now`: the tracker keeps the recent ones of all calls that
were let through, and they have kept the limit. -/
structure Wrapper.Inv (w : Wrapper F) (limit : ℕ) (log : List (ToolCall F)) (t : BudgetTracker F)
    (now : ℚ) : Prop where
  late : 60 ≤ now
  past : ∀ c ∈ log, 60 ≤ c.recordedAt ∧ c.invokedAt ≤ c.recordedAt ∧ c.recordedAt ≤ now
  keeps : ∃ pruned, 60 ≤ pruned ∧ pruned ≤ now ∧
    Keeps historyCap (log.map fun c => w.stamp c.recordedAt) t.callTimestamps (w.cutoff pruned)
  limited : ∀ start, log.countP (fun c => inSixty start c.invokedAt) ≤ limit

/-- The context that a call is judged in. -/
def Wrapper.context (w : Wrapper F) (b : Binding F) (t : BudgetTracker F) (c : ToolCall F) :
    Context F :=
  let now := w.nowEpoch (w.timestamp c.actionAt) (w.timestamp c.recentAt)
  { spendTotalUsd := t.totalUsd
    recentCallTimestamps := (w.prune (w.cutoff c.recentAt) t.callTimestamps).map w.toSecs
    nowEpoch := now
    nowTzHhmm := w.computeNowTzHhmm now (b.timeWindow.elim "UTC" (·.timezone)) }

/-- A call of a tool that returns, with an amount: it is denied, or judged as allowed and
recorded. -/
theorem Wrapper.call_cases (w : Wrapper F) (b : Binding F) (t : BudgetTracker F) {c : ToolCall F}
    (hok : c.toolOk = true) (hamount : c.classified.amountUsd.isSome = true) :
    (∃ t', w.call b t c = (false, t') ∧
      t'.callTimestamps = w.prune (w.cutoff c.recentAt) t.callTimestamps) ∨
    (∃ a t', w.evaluate (w.timestamp c.recentAt) b a (w.context b t c) = .allow ∧
      w.call b t c = (true, t') ∧ t'.callTimestamps =
        lastN historyCap (w.prune (w.cutoff c.recentAt) t.callTimestamps ++
          [w.stamp c.recordedAt])) := by
  obtain ⟨amount, hamount⟩ := Option.isSome_iff_exists.1 hamount
  have hcall : w.call b t c =
      match w.evaluate (w.timestamp c.recentAt) b
          { c.classified with timestamp := w.timestamp c.actionAt } (w.context b t c) with
      | .deny _ _ =>
        (false, { t with callTimestamps := w.prune (w.cutoff c.recentAt) t.callTimestamps })
      | .allow => (true, BudgetTracker.record
          { t with callTimestamps := w.prune (w.cutoff c.recentAt) t.callTimestamps } amount
          (some c.classified.actionId) (w.stamp c.recordedAt)) := by
    simp only [Wrapper.call, Wrapper.context, hok, hamount]
  rw [hcall]
  split
  · exact .inl ⟨_, rfl, rfl⟩
  · rename_i hallow
    exact .inr ⟨_, _, hallow, rfl, BudgetTracker.callTimestamps_record ..⟩

/-- The readings of a call, one after the other. -/
structure ToolCall.Follows (c : ToolCall F) (now : ℚ) : Prop where
  action : now ≤ c.actionAt
  recent : c.actionAt ≤ c.recentAt
  invoked : c.recentAt ≤ c.invokedAt
  recorded : c.invokedAt ≤ c.recordedAt

section Call

variable {w : Wrapper F} (hw : w.Sound) {b : Binding F} {limit : ℕ} {log : List (ToolCall F)}
  {t : BudgetTracker F} {now : ℚ} (h : w.Inv limit log t now) {c : ToolCall F} (hc : c.Follows now)

include h hc

section Minute

omit [Float64 F]

theorem Wrapper.Inv.past_recorded : ∀ e ∈ log, 60 ≤ e.recordedAt ∧ e.invokedAt ≤ e.recordedAt ∧
    e.recordedAt ≤ c.recordedAt := by
  intro e he
  obtain ⟨hnow, hrecent, hinvoked, hrecorded⟩ := hc
  obtain ⟨h60, hinv, hle⟩ := h.past e he
  exact ⟨h60, hinv, by linarith⟩

include hw

/-- The tracker after the lookup of a call. -/
theorem Wrapper.Inv.pruned : Keeps historyCap (log.map fun c => w.stamp c.recordedAt)
    (w.prune (w.cutoff c.recentAt) t.callTimestamps) (w.cutoff c.recentAt) := by
  obtain ⟨pruned, h60, hle, hkeeps⟩ := h.keeps
  rw [hw.prune_eq _ _ hkeeps.kept_sorted]
  exact hkeeps.prune (hw.cutoff_mono _ _ h60 (by linarith [hc.action, hc.recent]))

variable {a : Action F}

/-- An allowed call finds fewer kept calls than the limit in the minute before its lookup. -/
theorem Wrapper.Inv.countP_kept_lt (hlimit : b.rateLimit = some limit)
    (hbound : c.recordedAt < 2 ^ 53)
    (hallow : w.evaluate (w.timestamp c.recentAt) b a (w.context b t c) = .allow) :
    (w.prune (w.cutoff c.recentAt) t.callTimestamps).countP
      (fun s => decide (⌊c.recentAt⌋ - 60 < w.toSecs s)) < limit := by
  have hlate := h.late
  have hpruned := h.pruned hw hc
  obtain ⟨hnow, hrecent, hinvoked, hrecorded⟩ := hc
  have hts : w.timestamp c.actionAt = ⌊c.actionAt⌋ := hw.timestamp_eq _ (by linarith)
  have hfloor : (60 : ℤ) ≤ ⌊c.actionAt⌋ := Int.le_floor.2 (by push_cast; linarith)
  have hepoch : (w.context b t c).nowEpoch = ⌊c.actionAt⌋ := by
    simp only [Wrapper.context, hts]
    exact hw.nowEpoch_eq _ _ (by omega)
  have hbelow := hw.below _ b a (w.context b t c) limit hlimit (by rw [hepoch]; exact hfloor)
    (by rw [hepoch]; exact Int.floor_lt.2 (by push_cast; linarith)) hallow
  rw [hepoch] at hbelow
  -- what is in the last minute at the lookup was so when the action was built
  refine lt_of_le_of_lt ?_ hbelow
  simp only [Wrapper.context]
  rw [List.countP_map]
  refine List.countP_mono_left fun s hs hlater => ?_
  obtain ⟨e, he, rfl⟩ := List.mem_map.1 (hpruned.mem_all hs)
  obtain ⟨h60, -, hle⟩ := h.past e he
  have hbefore : ⌊e.recordedAt⌋ ≤ ⌊c.actionAt⌋ := Int.floor_le_floor (by linarith)
  have hlookup : ⌊c.actionAt⌋ ≤ ⌊c.recentAt⌋ := Int.floor_le_floor hrecent
  rw [decide_eq_true_eq, hw.toSecs_stamp _ (by linarith)] at hlater
  rw [Function.comp_apply, inMinute, hw.toSecs_stamp _ (by linarith)]
  simp only [Bool.and_eq_true, decide_eq_true_eq]
  omega

/-- Fewer calls than the limit were let through in the sixty seconds before an allowed one. -/
theorem Wrapper.Inv.countP_lastMinute_lt (hlimit : b.rateLimit = some limit)
    (hcap : limit ≤ historyCap) (hbound : c.recordedAt < 2 ^ 53)
    (hagree : ∀ e ∈ log, SecondsAgree e c)
    (hallow : w.evaluate (w.timestamp c.recentAt) b a (w.context b t c) = .allow) :
    log.countP (fun e => decide (c.invokedAt - 60 < e.invokedAt)) < limit := by
  have hlate := h.late
  have hpast := h.past_recorded hc
  have hall := (h.pruned hw hc).countP_lt hcap ?after ?upward
    (h.countP_kept_lt hw hc hlimit hbound hallow)
  case after =>
    intro s hs hlater
    obtain ⟨e, he, rfl⟩ := List.mem_map.1 hs
    obtain ⟨h60, -, -⟩ := hpast e he
    rw [hw.toSecs_stamp _ (by linarith), decide_eq_true_eq] at hlater
    exact hw.cutoff_lt _ _ (by linarith [hc.action, hc.recent]) (by linarith) (by omega)
  case upward =>
    intro s _ s' _ hle hlater
    have hmono := hw.toSecs_mono s s' hle
    rw [decide_eq_true_eq] at hlater ⊢
    omega
  refine lt_of_le_of_lt ?_ hall
  rw [List.countP_map]
  refine List.countP_mono_left fun e he hin => ?_
  obtain ⟨h60, -, -⟩ := hpast e he
  have hsecs := hagree e he (by linarith [of_decide_eq_true hin])
  rw [Function.comp_apply, hw.toSecs_stamp _ (by linarith), decide_eq_true_eq]
  omega

/-- A call that finds fewer than the limit before it is recorded. -/
theorem Wrapper.Inv.record {t' : BudgetTracker F} (ht' : t'.callTimestamps = lastN historyCap
      (w.prune (w.cutoff c.recentAt) t.callTimestamps ++ [w.stamp c.recordedAt]))
    (hcount : log.countP (fun e => decide (c.invokedAt - 60 < e.invokedAt)) < limit) :
    w.Inv limit (log ++ [c]) t' c.recordedAt := by
  have hlate := h.late
  have hpast := h.past_recorded hc
  have hpruned := h.pruned hw hc
  obtain ⟨hnow, hrecent, hinvoked, hrecorded⟩ := hc
  refine ⟨by linarith, ?_, ⟨c.recentAt, by linarith, by linarith, ?_⟩, ?_⟩
  · intro e he
    rcases List.mem_append.1 he with he | he
    · exact hpast e he
    · rw [List.mem_singleton.1 he]
      exact ⟨by linarith, hrecorded, le_rfl⟩
  · rw [ht', List.map_append]
    refine hpruned.push fun s hs => ?_
    obtain ⟨e, he, rfl⟩ := List.mem_map.1 hs
    obtain ⟨h60, -, hle⟩ := hpast e he
    exact hw.stamp_mono _ _ (by linarith) hle
  · intro start
    rw [List.countP_append, List.countP_singleton]
    by_cases hin : inSixty start c.invokedAt = true
    · have hstart : c.invokedAt ≤ start + 60 := by
        simpa using (Bool.and_eq_true_iff.1 hin).2
      have hle : log.countP (fun e => inSixty start e.invokedAt) ≤
          log.countP (fun e => decide (c.invokedAt - 60 < e.invokedAt)) := by
        refine List.countP_mono_left fun e _ he => ?_
        have hlater : start < e.invokedAt := by simpa using (Bool.and_eq_true_iff.1 he).1
        rw [decide_eq_true_eq]
        linarith
      rw [if_pos hin]
      omega
    · rw [if_neg hin]
      exact h.limited start

end Minute

include hw

/-- **One call.** The invariant is kept by a call that is recorded if it is let through. -/
theorem Wrapper.Inv.call (hlimit : b.rateLimit = some limit) (hcap : limit ≤ historyCap)
    (hbound : c.recordedAt < 2 ^ 53) (hok : c.toolOk = true)
    (hamount : c.classified.amountUsd.isSome = true) (hagree : ∀ e ∈ log, SecondsAgree e c) :
    w.Inv limit (if (w.call b t c).1 then log ++ [c] else log) (w.call b t c).2 c.recordedAt := by
  rcases w.call_cases b t hok hamount with ⟨t', hcall, ht'⟩ | ⟨a, t', hallow, hcall, ht'⟩
  · rw [hcall]
    have hlate := h.late
    have hpast := h.past_recorded hc
    have hpruned := h.pruned hw hc
    obtain ⟨hnow, hrecent, hinvoked, hrecorded⟩ := hc
    refine ⟨by linarith, hpast, ⟨c.recentAt, by linarith, by linarith, ?_⟩, h.limited⟩
    rw [ht']
    exact hpruned
  · rw [hcall, if_pos rfl]
    exact h.record hw hc ht' (h.countP_lastMinute_lt hw hc hlimit hcap hbound hagree hallow)

end Call

theorem Wrapper.countP_invocations_le {w : Wrapper F} (hw : w.Sound)
    (hlimit : b.rateLimit = some limit) (hcap : limit ≤ historyCap) {calls log : List (ToolCall F)}
    {t : BudgetTracker F} {now : ℚ} (h : w.Inv limit log t now)
    (hclock : (now :: calls.flatMap ToolCall.readings).Pairwise (· ≤ ·))
    (hbounded : ∀ c ∈ calls, c.recordedAt < 2 ^ 53)
    (hrecorded : ∀ c ∈ calls, c.toolOk = true ∧ c.classified.amountUsd.isSome = true)
    (hlog : ∀ e ∈ log, ∀ c ∈ calls, SecondsAgree e c) (hagree : calls.Pairwise SecondsAgree)
    (start : ℚ) : log.countP (fun c => inSixty start c.invokedAt) +
      (w.invocations b t calls).countP (inSixty start) ≤ limit := by
  induction calls generalizing log t now with
  | nil => exact h.limited start
  | cons c calls ih =>
    rw [List.forall_mem_cons] at hbounded hrecorded
    rw [List.pairwise_cons] at hagree
    have hreadings : now :: (c :: calls).flatMap ToolCall.readings =
        now :: c.actionAt :: c.recentAt :: c.invokedAt :: c.recordedAt ::
          calls.flatMap ToolCall.readings := rfl
    rw [hreadings] at hclock
    have hfollows : c.Follows now := by
      simp only [List.pairwise_cons, List.forall_mem_cons] at hclock
      exact ⟨hclock.1.1, hclock.2.1.1, hclock.2.2.1.1, hclock.2.2.2.1.1⟩
    have hlater : (c.recordedAt :: calls.flatMap ToolCall.readings).Pairwise (· ≤ ·) := by
      simp only [List.pairwise_cons] at hclock ⊢
      exact hclock.2.2.2.2
    have hcall := h.call hw hfollows hlimit hcap hbounded.1 hrecorded.1.1 hrecorded.1.2
      fun e he => hlog e he c List.mem_cons_self
    have hrest := ih hcall hlater hbounded.2 hrecorded.2 ?_ hagree.2
    · cases hinvoked : (w.call b t c).1 with
      | false => simpa [Wrapper.invocations, hinvoked] using hrest
      | true =>
        simp only [hinvoked, if_true, List.countP_append, List.countP_singleton] at hrest
        simp only [Wrapper.invocations, hinvoked, if_true, List.countP_cons]
        omega
    · intro e he c' hc'
      split at he
      · rcases List.mem_append.1 he with he | he
        · exact hlog e he c' (List.mem_cons_of_mem _ hc')
        · rw [List.mem_singleton.1 he]
          exact hagree.1 c' hc'
      · exact hlog e he c' (List.mem_cons_of_mem _ hc')

/-- **The rate limit of the wrappers.** In all three languages, for every policy with a limit of
up to 1024 calls and every sequence of calls, if every action carries an amount, every tool
returns, and seconds do not put calls farther apart than they are, then the tool is invoked at
most so many times in any window of sixty seconds. -/
theorem rate_limit_kept (rt : Runtimes) {b : Binding F} {limit : ℕ}
    (hlimit : b.rateLimit = some limit) (hcap : limit ≤ historyCap) {calls : List (ToolCall F)}
    (hclock : OnClock calls)
    (hrecorded : ∀ c ∈ calls, c.toolOk = true ∧ c.classified.amountUsd.isSome = true)
    (hagree : calls.Pairwise SecondsAgree) :
    ∀ w ∈ [pythonWrapper rt, typescriptWrapper rt, goWrapper rt], ∀ start,
      (w.invocations b .empty calls).countP (inSixty start) ≤ limit := by
  intro w hw start
  have hsound : w.Sound := by
    simp only [List.mem_cons, List.not_mem_nil, or_false] at hw
    rcases hw with rfl | rfl | rfl
    · exact pythonWrapper_sound rt
    · exact typescriptWrapper_sound rt
    · exact goWrapper_sound rt
  have hinit : w.Inv limit [] .empty 60 :=
    ⟨le_rfl, nofun, ⟨60, le_rfl, le_rfl, .nil⟩, fun _ => Nat.zero_le _⟩
  have hrun := Wrapper.countP_invocations_le hsound hlimit hcap hinit hclock.ordered
    hclock.bounded hrecorded nofun hagree start
  simpa using hrun

/-! ## Calls that are not recorded -/

/-- A call at one time, of a tool that may cost something and may fail. -/
def callAtTime (t : ℚ) (amountUsd : Option ℚ) (toolOk : Bool) : ToolCall ℚ where
  actionAt := t
  recentAt := t
  invokedAt := t
  recordedAt := t
  classified := { actionId := "act", tool := "search", amountUsd := amountUsd, timestamp := 0 }
  toolOk := toolOk

/-- One call a minute. -/
def onceAMinute : Binding ℚ := { rateLimit := some 1 }

/-- What the three wrappers let through. -/
def allInvocations (calls : List (ToolCall ℚ)) : List (List ℚ) :=
  [pythonWrapper asciiRuntimes, typescriptWrapper asciiRuntimes, goWrapper asciiRuntimes].map
    fun w => w.invocations onceAMinute .empty calls

/-- Under a limit of one call a minute, three calls that cost nothing are let through at once,
and so are three that fail; and two that cost something, 59.1 seconds apart. -/
theorem rate_limit_exceeded :
    allInvocations (List.replicate 3 (callAtTime 100 none true)) =
        List.replicate 3 [100, 100, 100] ∧
      allInvocations (List.replicate 3 (callAtTime 100 (some 1) false)) =
        List.replicate 3 [100, 100, 100] ∧
      allInvocations [callAtTime (1009 / 10) (some 1) true, callAtTime 160 (some 1) true] =
        List.replicate 3 [1009 / 10, 160] := by
  decide +kernel

theorem paid_calls_limited :
    OnClock [callAtTime 100 (some 1) true, callAtTime 159 (some 1) true] ∧
      ((pythonWrapper asciiRuntimes).invocations onceAMinute .empty
        [callAtTime 100 (some 1) true, callAtTime 159 (some 1) true]).countP (inSixty 99) ≤ 1 := by
  have hclock : OnClock [callAtTime 100 (some 1) true, callAtTime 159 (some 1) true] := by
    constructor <;> decide +kernel
  exact ⟨hclock, rate_limit_kept asciiRuntimes rfl (by decide) hclock (by decide)
    (by decide +kernel) _ List.mem_cons_self 99⟩

end SauronID.Sdk
