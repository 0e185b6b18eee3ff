import SauronID.Action.Steps

/-!
# Single use of an action nonce

A call spends its nonce by inserting a row whose key must be new; expired rows are
pruned by every call, with the clock reading that call took. A replay is stopped as
long as the row of the first use is there. `accepted_once` shows that it is there
for every replay whose insertion is executed no later than the envelope expires;
`replay_after_expiry` is the schedule in which it is not: the expiry test reads the
clock before the reading that the pruning uses.
-/

namespace SauronID.Action

open Conc

variable {F : Type} [Float64 F] {env : Env F}

/-- The nonce row a statement inserted, if it did. -/
def spentRow (e : LogEntry F) : Option NonceRow :=
  match e.label with
  | .write (.insertNonce row) =>
    match e.before.writeResult (.insertNonce row) with
    | .ok _ => some row
    | .error _ => none
  | _ => none

/-- The statement stored a receipt. -/
def storesReceipt (e : LogEntry F) : Bool :=
  match e.label with
  | .write (.upsertReceipt _ _) => e.before.fault.isNone
  | _ => false

/-- The statement stored a receipt for the envelope with this nonce key and expiry. -/
def accepts (calls : List ActionCall) (key : String) (exp : ℤ) (e : LogEntry F) : Bool :=
  storesReceipt e && (callInfo calls e.thread).nonceKey == key &&
    (callInfo calls e.thread).expiresAt == exp

/-- The statement spent the nonce with this key and expiry. -/
def spends (key : String) (exp : ℤ) (e : LogEntry F) : Bool :=
  (spentRow e).any fun row => row.nonce == key && row.expiresAt == exp

/-- If the statement inserts the nonce and it was spent before, it does so no later than the
envelope expires. -/
def replayedInTime (key : String) (exp : ℤ) (e : LogEntry F) (older : RunLog F) : Bool :=
  match e.label with
  | .write (.insertNonce row) => row.nonce != key || row.expiresAt != exp ||
      !older.any (spends key exp) || decide (e.before.nowSecs ≤ exp)
  | _ => true

/-- What holds of the nonce table, the calls and the log throughout a run. -/
structure NonceInv (calls : List ActionCall) (key : String) (exp : ℤ) (s : World F)
    (g : ℕ → ActLocal) (log : RunLog F) : Prop where
  /-- No call is ahead of the clock. -/
  clock : ∀ i t, (g i).now = some t → t ≤ s.nowSecs
  /-- A spent nonce is in the table until it has expired. -/
  kept : ∀ e ∈ log, ∀ row, spentRow e = some row →
    row ∈ s.db.nonces ∨ row.expiresAt < s.nowSecs
  /-- The nonce with this expiry is spent by one call. -/
  once : ∀ e ∈ log, ∀ e' ∈ log, spends key exp e = true → spends key exp e' = true →
    e.thread = e'.thread
  /-- A call that has spent a nonce has spent its own. -/
  spent : ∀ i, (g i).spent = true → ∃ e ∈ log, e.thread = i ∧ ∃ row, spentRow e = some row ∧
    row.nonce = (callInfo calls i).nonceKey ∧ row.expiresAt = (callInfo calls i).expiresAt
  /-- A call stores one receipt at most, as its last statement. -/
  stored : ∀ i, log.countP (fun e => e.thread == i && storesReceipt e) ≤
    if (g i).chain = .stored then 1 else 0
  /-- A receipt is stored by a call that has spent its nonce. -/
  paid : ∀ e ∈ log, storesReceipt e = true → (g e.thread).spent = true

namespace NonceInv

variable {calls : List ActionCall} {key : String} {exp : ℤ} {s s' : World F} {g : ℕ → ActLocal}
  {log : RunLog F}

theorem initial (calls : List ActionCall) (key : String) (exp : ℤ) (s : World F) :
    NonceInv calls key exp s (fun _ => ActLocal.init) [] where
  clock := by simp [ActLocal.init]
  kept := by simp
  once := by simp
  spent := by simp [ActLocal.init]
  stored := by simp [ActLocal.init]
  paid := by simp

theorem tick (h : NonceInv calls key exp s g log) (d : ℕ) :
    NonceInv calls key exp (Clocked.advance d s) g log where
  clock i t ht := (h.clock i t ht).trans (s.nowSecs_le_advance d)
  kept e he row hrow := (h.kept e he row hrow).imp id fun hlt =>
    hlt.trans_le (s.nowSecs_le_advance d)
  once := h.once
  spent := h.spent
  stored := h.stored
  paid := h.paid

variable {i : ℕ} {lbl : Label F} {l' : ActLocal}

section

variable (h : NonceInv calls key exp s g log)

include h

/-- What a statement has to say of itself: the row it spends is in the table and was not
spent before, and it stores a receipt only if the call has spent a nonce and stored none. -/
theorem next (hclock : s'.nowSecs = s.nowSecs)
    (hkeep : ∀ row ∈ s.db.nonces, row ∈ s'.db.nonces ∨ row.expiresAt < s.nowSecs)
    (hnow : ∀ t, l'.now = some t → t ≤ s.nowSecs)
    (hrow : ∀ row, spentRow ⟨i, lbl, s⟩ = some row → row ∈ s'.db.nonces)
    (hfirst : spends key exp ⟨i, lbl, s⟩ = true → ∀ e ∈ log, ¬spends key exp e = true)
    (hspent : l'.spent = true → (g i).spent = true ∨ ∃ row, spentRow ⟨i, lbl, s⟩ = some row ∧
      row.nonce = (callInfo calls i).nonceKey ∧ row.expiresAt = (callInfo calls i).expiresAt)
    (hpaid : (g i).spent = true ∨ storesReceipt ⟨i, lbl, s⟩ = true → l'.spent = true)
    (hchain : (if storesReceipt ⟨i, lbl, s⟩ = true then 1 else 0) +
      (if (g i).chain = .stored then 1 else 0) ≤ if l'.chain = .stored then 1 else 0) :
    NonceInv calls key exp s' (Function.update g i l') (⟨i, lbl, s⟩ :: log) where
  clock := by
    rw [hclock]
    exact (Function.forall_update_iff g fun _ l => ∀ t, l.now = some t → t ≤ s.nowSecs).2
      ⟨hnow, fun j _ => h.clock j⟩
  kept e he row hr := by
    rw [hclock]
    rcases List.mem_cons.1 he with rfl | he
    · exact .inl (hrow row hr)
    · exact (h.kept e he row hr).elim (hkeep row) .inr
  once e he e' he' hs hs' := by
    rcases List.mem_cons.1 he with rfl | he <;> rcases List.mem_cons.1 he' with rfl | he'
    · rfl
    · exact absurd hs' (hfirst hs e' he')
    · exact absurd hs (hfirst hs' e he)
    · exact h.once e he e' he' hs hs'
  spent j hj := by
    have hold (hg : (g j).spent = true) : ∃ e ∈ ⟨i, lbl, s⟩ :: log, e.thread = j ∧
        ∃ row, spentRow e = some row ∧ row.nonce = (callInfo calls j).nonceKey ∧
          row.expiresAt = (callInfo calls j).expiresAt := by
      obtain ⟨e, he, hrest⟩ := h.spent j hg
      exact ⟨e, List.mem_cons_of_mem _ he, hrest⟩
    by_cases hji : j = i
    · subst hji
      rw [Function.update_self] at hj
      exact (hspent hj).elim hold fun hnew => ⟨_, List.mem_cons_self, rfl, hnew⟩
    · rw [Function.update_of_ne hji] at hj
      exact hold hj
  stored j := by
    have hold := h.stored j
    rw [List.countP_cons]
    by_cases hji : j = i
    · subst hji
      simp only [Function.update_self, beq_self_eq_true, Bool.true_and]
      omega
    · simpa [Function.update_of_ne hji, Ne.symm hji] using hold
  paid e he hst := by
    by_cases hei : e.thread = i
    · rw [hei, Function.update_self]
      refine hpaid ?_
      rcases List.mem_cons.1 he with rfl | he
      · exact .inr hst
      · exact .inl (hei ▸ h.paid e he hst)
    · rw [Function.update_of_ne hei]
      exact h.paid e (List.mem_of_ne_of_mem (by rintro rfl; exact hei rfl) he) hst

/-- A statement that neither spends a nonce nor stores a receipt, and drops at most
expired rows from the nonce table. -/
theorem quiet (hspent : spentRow ⟨i, lbl, s⟩ = none)
    (hstores : storesReceipt ⟨i, lbl, s⟩ = false) (hclock : s'.nowSecs = s.nowSecs)
    (hkeep : ∀ row ∈ s.db.nonces, row ∈ s'.db.nonces ∨ row.expiresAt < s.nowSecs)
    (hnow : ∀ t, l'.now = some t → t ≤ s.nowSecs) (hsame : l'.spent = (g i).spent)
    (hchain : (g i).chain = .stored → l'.chain = .stored) :
    NonceInv calls key exp s' (Function.update g i l') (⟨i, lbl, s⟩ :: log) := by
  refine h.next hclock hkeep hnow (by simp [hspent]) (by simp [spends, hspent])
    (fun hl => .inl (hsame ▸ hl)) (by simp [hsame, hstores]) ?_
  by_cases hst : (g i).chain = .stored
  · simp [hstores, hst, hchain hst]
  · simp [hstores, hst]

/-- Pruning drops expired rows only: the reading it uses is not ahead of the clock. -/
theorem prune {now : ℤ} (hnow : (g i).now = some now) :
    NonceInv calls key exp (s.afterWrite (.pruneNonces now)) (Function.update g i (g i))
      (⟨i, .write (.pruneNonces now), s⟩ :: log) := by
  refine h.quiet rfl rfl (World.afterWrite_nowSecs _ _) (fun row hrow => ?_)
    (fun t ht => h.clock i t ht) rfl id
  have hle := h.clock i now hnow
  rcases World.afterWrite_cases s (.pruneNonces now) with ⟨e, -, hdb⟩ | ⟨db, n, -, happ, -, hdb⟩
  · exact .inl (by rwa [hdb])
  · by_cases hexp : row.expiresAt < now
    · exact .inr (by omega)
    · refine .inl ?_
      cases happ
      rw [hdb]
      simpa [hrow] using hexp

/-- A nonce inserted in time is inserted for the first time. -/
theorem spend {row : NonceRow} {n : ℕ} (hkey : row.nonce = (callInfo calls i).nonceKey)
    (hexp : row.expiresAt = (callInfo calls i).expiresAt)
    (hres : s.writeResult (.insertNonce row) = .ok n)
    (htime : replayedInTime key exp ⟨i, .write (.insertNonce row), s⟩ log = true) :
    NonceInv calls key exp (s.afterWrite (.insertNonce row))
      (Function.update g i { g i with spent := true })
      (⟨i, .write (.insertNonce row), s⟩ :: log) := by
  have hspent : spentRow ⟨i, .write (.insertNonce row), s⟩ = some row := by simp [spentRow, hres]
  obtain ⟨hnew, hdb⟩ := World.insertNonce_ok hres
  refine h.next (World.afterWrite_nowSecs _ _) (fun r hr => .inl (by simp [hdb, hr]))
    (h.clock i) (fun r hr => ?_) (fun hs e he hse => ?_) (fun _ => .inr ⟨row, hspent, hkey, hexp⟩)
    (fun _ => rfl) (by simp [storesReceipt])
  · cases hspent.symm.trans hr
    simp [hdb]
  -- an earlier use of the same nonce and expiry would still be in the table
  · obtain ⟨row', hrow', hkey', hexp'⟩ : ∃ row', spentRow e = some row' ∧ row'.nonce = key ∧
        row'.expiresAt = exp := by simpa [spends, Option.any_eq_true] using hse
    obtain ⟨rfl, rfl⟩ : row.nonce = key ∧ row.expiresAt = exp := by simpa [spends, hspent] using hs
    have hused : log.any (spends row.nonce row.expiresAt) = true :=
      List.any_eq_true.2 ⟨e, he, hse⟩
    have hlive : s.nowSecs ≤ row.expiresAt := by simpa [replayedInTime, hused] using htime
    rcases h.kept e he row' hrow' with hmem | hlt
    · exact hnew row' hmem hkey'
    · omega

/-- A receipt is stored by a call that has spent its nonce and has stored none. -/
theorem store {row : ReceiptRow} {anon : Bool}
    (hspent : (g i).spent = true) (hchain : (g i).chain ≠ .stored) :
    NonceInv calls key exp (s.afterWrite (.upsertReceipt row anon))
      (Function.update g i { g i with chain := .stored })
      (⟨i, .write (.upsertReceipt row anon), s⟩ :: log) := by
  have hnonces : (s.afterWrite (.upsertReceipt row anon)).db.nonces = s.db.nonces :=
    (World.afterWrite_sameOff s _).nonces fun h => by cases h
  refine h.next (World.afterWrite_nowSecs _ _) (fun r hr => .inl (hnonces ▸ hr)) (h.clock i)
    (by simp [spentRow]) (by simp [spends, spentRow]) .inl (fun _ => hspent) ?_
  rw [if_neg hchain, if_pos rfl]
  split <;> omega

/-- The receipts for one nonce with one expiry come from one call, and are one. -/
theorem accepts_le : log.countP (accepts calls key exp) ≤ 1 := by
  by_cases hnone : ∃ e ∈ log, accepts calls key exp e = true
  · obtain ⟨e, he, hacc⟩ := hnone
    -- every other acceptance is of the same thread: both threads spent the nonce
    have hthread : ∀ e' ∈ log, accepts calls key exp e' = true → e'.thread = e.thread := by
      intro e' he' hacc'
      simp only [accepts, Bool.and_eq_true, beq_iff_eq] at hacc hacc'
      obtain ⟨⟨hst, hk⟩, hx⟩ := hacc
      obtain ⟨⟨hst', hk'⟩, hx'⟩ := hacc'
      obtain ⟨f, hf, hft, row, hrow, hn, hxr⟩ := h.spent _ (h.paid e he hst)
      obtain ⟨f', hf', hft', row', hrow', hn', hxr'⟩ := h.spent _ (h.paid e' he' hst')
      rw [← hft, ← hft']
      exact h.once f' hf' f hf (by simp [spends, hrow', hn', hxr', hk', hx'])
        (by simp [spends, hrow, hn, hxr, hk, hx])
    calc log.countP (accepts calls key exp)
        ≤ log.countP (fun e' => e'.thread == e.thread && storesReceipt e') := by
          refine List.countP_mono_left fun e' he' hacc' => ?_
          have := hthread e' he' hacc'
          simp only [accepts, Bool.and_eq_true] at hacc'
          simp [this, hacc'.1.1]
      _ ≤ if (g e.thread).chain = .stored then 1 else 0 := h.stored _
      _ ≤ 1 := by split <;> omega
  · have hzero : log.countP (accepts calls key exp) = 0 :=
      List.countP_eq_zero.2 fun e he hacc => hnone ⟨e, he, hacc⟩
    omega

end

end NonceInv

/-- Every statement of an action call keeps the invariant, a nonce inserted again too late
excepted. -/
theorem nonceInv_run (calls : List ActionCall) (key : String) (exp : ℤ) :
    RunInvariant (fun i => ActStep env (callInfo calls i))
      (fun e older => replayedInTime key exp e older = true) (NonceInv calls key exp) where
  tick d h := h.tick d
  step {s g log i lbl s' l'} h htime hstep := by
    -- a statement of the calls that changes neither table
    have hread : ∀ {lbl : Label F} {s' : World F} {l' : ActLocal},
        spentRow ⟨i, lbl, s⟩ = none → storesReceipt ⟨i, lbl, s⟩ = false →
        s'.nowSecs = s.nowSecs → s'.db = s.db → l'.now = (g i).now → l'.spent = (g i).spent →
        ((g i).chain = .stored → l'.chain = .stored) →
        NonceInv calls key exp s' (Function.update g i l') (⟨i, lbl, s⟩ :: log) := by
      intro lbl s' l' hsp hst hclock hdb hnow hspent hchain
      refine h.quiet hsp hst hclock (fun row hrow => .inl ?_) (fun t ht => ?_) hspent hchain
      · rwa [hdb]
      · exact h.clock i t (hnow ▸ ht)
    cases hstep with
    | clock =>
      refine h.quiet rfl rfl rfl (fun row hrow => .inl hrow) (fun t ht => ?_) rfl id
      exact (Option.some.inj ht).ge
    | query | usage => exact hread rfl rfl rfl rfl rfl rfl id
    | agent => exact hread rfl rfl rfl rfl rfl rfl id
    | headFailed => exact hread rfl rfl rfl rfl rfl rfl id
    | head _ hidle => exact hread rfl rfl rfl rfl rfl rfl (by simp [hidle])
    | loadFailed => exact hread rfl rfl rfl rfl rfl rfl id
    | load _ q id r hhead => exact hread rfl rfl rfl rfl rfl rfl (by simp [hhead])
    | draw _ seq prev hpos =>
      refine hread rfl rfl rfl rfl rfl rfl fun hst => ?_
      rw [hst] at hpos
      cases hpos
    | prune _ now hnow => exact h.prune hnow
    | spendFailed _ row hkey hexp hres =>
      obtain ⟨e, hres⟩ := hres
      exact hread (by simp [spentRow, hres]) rfl (World.afterWrite_nowSecs _ _)
        (World.afterWrite_of_failed hres) rfl rfl id
    | spend _ row n hkey hexp hunspent hres =>
      exact h.spend hkey hexp hres htime
    | store _ row anon seq prev k hspent hnamed =>
      exact h.store hspent (by simp [hnamed])

/-- **Single use of an action nonce.** In every interleaving of action calls in
which a nonce that was spent is inserted again, if at all, no later than its envelope
expires, the nonce together with this expiry is accepted at most once. -/
theorem accepted_once (env : Env F) (calls : List ActionCall) (s : World F) (sched : List Event)
    (key : String) (exp : ℤ) (htime : LogOk (fun e older => replayedInTime key exp e older = true)
      ((Config.init s (calls.map (ActionCall.prog env))).run sched).log) :
    ((Config.init s (calls.map (ActionCall.prog env))).run sched).log.countP
      (accepts calls key exp) ≤ 1 := by
  obtain ⟨g, hinv, -⟩ := (nonceInv_run calls key exp).run (actionPool_follows calls)
    (NonceInv.initial calls key exp s) sched htime
  exact hinv.accepts_le

/-! ## The schedule in which a replay is accepted -/

/-- One envelope submitted twice to a server that knows the agent, at second 99. -/
def replayRun (sched : List Event) : SrvConfig ℚ AppError ActionReceipt :=
  (Config.init (sampleWorld 99500) (List.map (ActionCall.prog (sampleEnv ℚ))
    [.identity sampleProof sampleOptions, .identity sampleProof sampleOptions])).run sched

/-- The second submission follows the first within the lifetime of the envelope. -/
def replayInTime : List Event := List.replicate 10 (.step 0) ++ List.replicate 10 (.step 1)

/-- The second submission passes the expiry test at second 100 and reads the clock for
the pruning at second 101. -/
def replayAtExpiry : List Event :=
  List.replicate 10 (.step 0) ++ [.tick 1400, .step 1, .tick 200] ++ List.replicate 10 (.step 1)

theorem accepted_once_in_time :
    LogOk (fun e older => replayedInTime "nonce-0123456789" 100 e older = true)
        (replayRun replayInTime).log ∧
      (replayRun replayInTime).log.countP (accepts
        [.identity sampleProof sampleOptions, .identity sampleProof sampleOptions]
        "nonce-0123456789" 100) ≤ 1 :=
  ⟨by decide +kernel, accepted_once (sampleEnv ℚ)
    [.identity sampleProof sampleOptions, .identity sampleProof sampleOptions] _ replayInTime
    _ _ (by decide +kernel)⟩

/-- Both submissions of the one envelope are accepted. -/
theorem replay_after_expiry :
    (replayRun replayAtExpiry).log.countP (accepts
      [.identity sampleProof sampleOptions, .identity sampleProof sampleOptions]
      "nonce-0123456789" 100) = 2 := by
  decide +kernel

end SauronID.Action
