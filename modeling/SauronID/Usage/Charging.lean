import SauronID.Lib.Once
import SauronID.Usage.Ledger

/-!
# A report is charged once

Runs of usage reports with rounds of the nonce garbage collection of other requests between
them. A report spends its nonce, appends to the log and adds to the ledger, in this order, and
any of the three may fail. `reports_charged` says that the ledger is the sum of the log for a
pseudonym whose log rows have all been added, and that a report is charged at most once when
whoever presents it does so within the 30 days for which its nonce is kept.
-/

namespace SauronID.Usage

open Conc Text SauronID.Action

variable {F : Type} [Float64 F] (env : Env F)

/-- The garbage collection at the head of an action. -/
def collectNonces : Srv F AppError Unit := do
  let now ← Srv.nowSecs
  let _ ← (Srv.execute (.pruneNonces now)).mapErr (AppError.ofStatus 500)

/-- A usage report, or another request as far as it collects nonces. -/
inductive ReportCall where
  | report (req : RecordUsageRequest)
  | gc

def ReportCall.prog : ReportCall → Srv F AppError Unit
  | report req => do let _ ← recordUsageHandler env req
  | gc => collectNonces

/-- What is signed: receipt, model, counts and nonce. -/
def RecordUsageRequest.signed (req : RecordUsageRequest) : String × String × ℤ × ℤ × String :=
  (req.receiptId, req.modelId, req.inputTokens, req.outputTokens, req.nonce)

/-- The report that a request presents. -/
def ReportCall.presents : ReportCall → Option (String × String × ℤ × ℤ × String)
  | report req => some req.signed
  | gc => none

/-! ## How far a request has come -/

/-- How far a report has come. -/
inductive Phase (F : Type) where
  | fresh
  | spent
  | logged (row : UsageLogRow F)
  | charged (row : UsageLogRow F)

/-- Where a statement takes a report when it succeeds. -/
def target : Write F → Option (Phase F)
  | .insertNonce _ => some .spent
  | .insertUsageLog row => some (.logged row)
  | .addUsage row => some (.charged row)
  | _ => none

/-- Where a statement has taken a report. -/
def moves (lbl : Label F) (s : World F) : Option (Phase F) :=
  match lbl with
  | .write w => if (s.writeResult w).isOk then target w else none
  | _ => none

def phase : History F → Phase F
  | [] => .fresh
  | (lbl, s) :: t => (moves lbl s).getD (phase t)

variable {s : World F}

theorem moves_of_ok {w : Write F} {n : ℕ} (h : s.writeResult w = .ok n) :
    moves (.write w) s = target w := by
  rw [moves, h]
  rfl

variable {lbl : Label F}

/-- The three statements that take a report further. -/
theorem moves_eq_some {ph : Phase F} (h : moves lbl s = some ph) :
    ∃ w n, lbl = .write w ∧ s.writeResult w = .ok n ∧ ((∃ row, w = .insertNonce row ∧ ph = .spent) ∨
        (∃ row, w = .insertUsageLog row ∧ ph = .logged row) ∨
        ∃ row, w = .addUsage row ∧ ph = .charged row) := by
  cases lbl with
  | write w =>
    cases hw : s.writeResult w with
    | error e =>
      rw [moves, hw] at h
      cases h
    | ok n =>
      rw [moves_of_ok hw] at h
      refine ⟨w, n, rfl, hw, ?_⟩
      cases w with
      | insertNonce row =>
        cases h
        exact .inl ⟨row, rfl, rfl⟩
      | insertUsageLog row =>
        cases h
        exact .inr (.inl ⟨row, rfl, rfl⟩)
      | addUsage row =>
        cases h
        exact .inr (.inr ⟨row, rfl, rfl⟩)
      | _ => cases h
  | _ => cases h

/-- The row that a statement has appended to the log, with the request. -/
def logging (e : LogEntry F) : Option (ℕ × UsageLogRow F) :=
  match moves e.label e.before with
  | some (.logged row) => some (e.thread, row)
  | _ => none

/-- The rows that a run has appended to the log, newest first. -/
def logged (log : RunLog F) : List (ℕ × UsageLogRow F) :=
  log.filterMap logging

theorem logged_cons (e : LogEntry F) (log : RunLog F) :
    logged (e :: log) = (logging e).toList ++ logged log := by
  cases h : logging e <;> simp [logged, h]

/-- A charge is a statement that ends a report. -/
theorem charge_eq (e : LogEntry F) : charge e = match moves e.label e.before with
      | some (.charged row) => some (e.thread, row)
      | _ => none := by
  cases hmoves : moves e.label e.before with
  | none =>
    unfold charge
    split
    · next row hlbl =>
      rw [hlbl, moves] at hmoves
      split at hmoves
      · cases hmoves
      · next hfailed => exact if_neg hfailed
    · rfl
  | some ph =>
    obtain ⟨w, n, hlbl, hok, ⟨row, rfl, rfl⟩ | ⟨row, rfl, rfl⟩ | ⟨row, rfl, rfl⟩⟩ :=
      moves_eq_some hmoves
    · simp [charge, hlbl]
    · simp [charge, hlbl]
    · simp [charge, hlbl, hok, Except.isOk, Except.toBool]

/-- What a report may write, and how far it must have come: first its nonce, for the pseudonym
of its receipt; then its row, to the log and to the ledger. -/
def reportMay (call : Option ReportCall) (t : History F) (w : Write F) (_ : World F) : Prop :=
  match w with
  | .insertNonce row => phase t = .fresh ∧ ∃ req now s₁, call = some (.report req) ∧
      row = usageNonce req now ∧ ReadsNow t now ∧ (.select .other, s₁) ∈ t ∧ Reported req s₁
  | .insertUsageLog _ => phase t = .spent
  | .addUsage row => phase t = .logged row ∧ Nonneg row
  | .pruneNonces now => ReadsNow t now
  | _ => False

variable {env}

theorem ReportCall.prog_yields {calls : List ReportCall} (i : ℕ) (call : ReportCall)
    (hcall : calls[i]? = some call) :
    (call.prog env).Yields (srvRules (reportMay calls[i]?)) [] fun _ _ => True := by
  rw [hcall]
  cases call with
  | report req =>
    refine Prog.Yields.andThen (P := fun _ _ => True) ?_ fun _ _ _ _ => Prog.yields_pure trivial
    refine .rejectIf fun _ => Srv.yields_nowSecs fun s₀ => ?_
    refine (verifyUsageReport_yields fun s s₁ s₂ hreported => ⟨rfl, req, s₀.nowSecs, s₁, rfl, rfl,
      ⟨s₀, .tail _ (.tail _ (.head _)), rfl⟩, .tail _ (.head _), hreported⟩).andThen ?_
    rintro _ _ - ⟨s₁, s₂, s₃, n, rfl, hn⟩
    refine recordUsage_yields (fun row s s₄ s₅ hrow => ?_) fun row s s₄ s₅ s₆ k hrow hk => ?_
    · show phase _ = .spent
      simp only [phase, moves_of_ok hn]
      rfl
    · refine ⟨?_, hrow⟩
      simp only [phase, moves_of_ok hk]
      rfl
  | gc =>
    refine Srv.yields_nowSecs fun s₀ => ?_
    refine .bind (.mapErr (Srv.yields_execute fun s => ⟨⟨s₀, .head _, rfl⟩, fun _ _ => ?_⟩))
    exact Prog.yields_pure trivial

/-! ## Rows and phases -/

/-- The rows appended to the log are those of the requests that have come that far, one each;
so are the rows added to the ledger. -/
structure Tally (ph : ℕ → Phase F) (appended added : List (ℕ × UsageLogRow F)) : Prop where
  appended_iff : ∀ i row, (i, row) ∈ appended ↔ ph i = .logged row ∨ ph i = .charged row
  added_iff : ∀ i row, (i, row) ∈ added ↔ ph i = .charged row
  appended_nodup : appended.Nodup
  added_nodup : added.Nodup

section Tally

variable {ph : ℕ → Phase F} {appended added : List (ℕ × UsageLogRow F)} {i : ℕ}

omit [Float64 F]

theorem tally_nil : Tally (fun _ => .fresh) ([] : List (ℕ × UsageLogRow F)) [] where
  appended_iff _ _ := by simp
  added_iff _ _ := by simp
  appended_nodup := .nil
  added_nodup := .nil

section

variable (h : Tally ph appended added)

include h

theorem Tally.spend (hi : ph i = .fresh) : Tally (Function.update ph i .spent) appended added where
  appended_iff j row := by
    rw [h.appended_iff, Function.update_apply]
    split
    · next hj => simp [hj, hi]
    · rfl
  added_iff j row := by
    rw [h.added_iff, Function.update_apply]
    split
    · next hj => simp [hj, hi]
    · rfl
  appended_nodup := h.appended_nodup
  added_nodup := h.added_nodup

theorem Tally.append (hi : ph i = .spent) (row : UsageLogRow F) :
    Tally (Function.update ph i (.logged row)) ((i, row) :: appended) added where
  appended_iff j row' := by
    rw [List.mem_cons, h.appended_iff, Function.update_apply, Prod.mk.injEq]
    split
    · next hj => simp [hj, hi, eq_comm]
    · next hj => simp [hj]
  added_iff j row' := by
    rw [h.added_iff, Function.update_apply]
    split
    · next hj => simp [hj, hi]
    · rfl
  appended_nodup := by
    refine List.nodup_cons.2 ⟨fun hmem => ?_, h.appended_nodup⟩
    simp [h.appended_iff, hi] at hmem
  added_nodup := h.added_nodup

theorem Tally.add {row : UsageLogRow F} (hi : ph i = .logged row) :
    Tally (Function.update ph i (.charged row)) appended ((i, row) :: added) where
  appended_iff j row' := by
    rw [h.appended_iff, Function.update_apply]
    split
    · next hj => simp [hj, hi]
    · rfl
  added_iff j row' := by
    rw [List.mem_cons, h.added_iff, Function.update_apply, Prod.mk.injEq]
    split
    · next hj => simp [hj, hi, eq_comm]
    · next hj => simp [hj]
  appended_nodup := h.appended_nodup
  added_nodup := by
    refine List.nodup_cons.2 ⟨fun hmem => ?_, h.added_nodup⟩
    simp [h.added_iff, hi] at hmem

/-- When every row of a pseudonym that was appended has been added, their sums agree. -/
theorem Tally.sumOf_eq {p : Pseudonym}
    (hsettled : ∀ x ∈ appended, pseudonym x.2 = p → x ∈ added) (count : UsageLogRow F → ℤ) :
    sumOf count p (appended.map Prod.snd) = sumOf count p (added.map Prod.snd) := by
  have hrows : ∀ l : List (ℕ × UsageLogRow F), sumOf count p (l.map Prod.snd) =
      ((l.filter fun x => pseudonym x.2 = p).map fun x => count x.2).sum := by
    intro l
    simp [sumOf, List.filter_map, Function.comp_def]
  rw [hrows, hrows]
  refine (List.Perm.map _ ?_).sum_eq
  refine (List.perm_ext_iff_of_nodup (h.appended_nodup.filter _) (h.added_nodup.filter _)).2 ?_
  rintro ⟨j, row⟩
  simp only [List.mem_filter, decide_eq_true_eq]
  refine and_congr_left fun hp => ⟨fun hmem => hsettled _ hmem hp, fun hmem => ?_⟩
  rw [h.appended_iff, ← h.added_iff]
  exact .inr hmem

end

end Tally

/-- How far each request has come. -/
def phases (log : RunLog F) (i : ℕ) : Phase F := phase (threadTrace i log)

theorem phases_cons (i : ℕ) (lbl : Label F) (s : World F) (log : RunLog F) :
    phases (⟨i, lbl, s⟩ :: log) =
      Function.update (phases log) i ((moves lbl s).getD (phases log i)) := by
  funext j
  rw [Function.update_apply]
  split
  · next hj =>
    subst hj
    rw [phases, threadTrace_cons_self]
    rfl
  · next hj => rw [phases, threadTrace_cons_of_ne (Ne.symm hj), phases]

theorem tally_invariant (calls : List ReportCall) (C : LogEntry F → RunLog F → Prop) :
    TraceInvariant (fun i => srvRules (reportMay calls[i]?)) C fun _ log =>
      Tally (phases log) (logged log) (charged log) where
  tick _ h := h
  step := by
    rintro s log i lbl s' h - - hmay
    rw [phases_cons, logged_cons, charged_cons, charge_eq, logging]
    cases hmoves : moves lbl s with
    | none => simpa using h
    | some ph =>
      obtain ⟨w, n, rfl, -, ⟨row, rfl, rfl⟩ | ⟨row, rfl, rfl⟩ | ⟨row, rfl, rfl⟩⟩ :=
        moves_eq_some hmoves
      · exact h.spend hmay.1
      · exact h.append hmay row
      · exact h.add hmay.1

/-- The log holds what was there and what the run has appended. -/
def LogSum (start s : World F) (log : RunLog F) : Prop :=
  ∀ (count : UsageLogRow F → ℤ) (p : Pseudonym), sumOf count p s.db.usageLog =
    sumOf count p start.db.usageLog + sumOf count p ((logged log).map Prod.snd)

theorem logSum_invariant {may : ℕ → May F} (start : World F) (C : LogEntry F → RunLog F → Prop) :
    TraceInvariant (fun i => srvRules (may i)) C (LogSum start) where
  tick _ h := h
  step := by
    rintro s log i lbl s' h - heff - count p
    by_cases htable : lbl.table = .usageLog
    swap
    · have hnone : logging ⟨i, lbl, s⟩ = none := by
        unfold logging
        split
        · next row hmoves =>
          obtain ⟨w, n, rfl, -, ⟨_, rfl, hph⟩ | ⟨_, rfl, hph⟩ | ⟨_, rfl, hph⟩⟩ :=
            moves_eq_some hmoves
          · cases hph
          · exact absurd rfl htable
          · cases hph
        · rfl
      rw [(Label.Effect.sameOff heff).usageLog htable, h count p, logged_cons, hnone]
      rfl
    obtain ⟨w, rfl, ⟨e, herr, hdb⟩ | ⟨db, n, -, happly, hok, hdb⟩⟩ :=
      heff.written (by simp [htable])
    · have hnone : logging ⟨i, .write w, s⟩ = none := by
        rw [logging, moves, herr]
        rfl
      rw [hdb, h count p, logged_cons, hnone]
      rfl
    cases w with
    | insertUsageLog row =>
      have hsome : logging ⟨i, .write (.insertUsageLog row), s⟩ = some (i, row) := by
        rw [logging, moves_of_ok hok]
        rfl
      have hrows : db.usageLog = s.db.usageLog ++ [row] := by
        simp only [Write.apply] at happly
        split at happly
        · cases happly
        · split at happly <;> cases happly
          rfl
      rw [hdb, hrows, sumOf_append, h count p, logged_cons, hsome]
      simp only [Option.toList_some, List.singleton_append, List.map_cons, sumOf_cons, sumOf_nil]
      omega
    | _ => cases htable

/-! ## Nonces -/

/-- Every nonce that was inserted is that of a report, for the pseudonym of its receipt, and a
report that has come further has inserted one. -/
structure NoncesSpent (calls : List ReportCall) (log : RunLog F) : Prop where
  inserted : ∀ i row s, ⟨i, .write (.insertNonce row), s⟩ ∈ log →
    ∃ req s₀ s₁, calls[i]? = some (.report req) ∧ row = usageNonce req s₀.nowSecs ∧
      ⟨i, .clock, s₀⟩ ∈ log ∧ ⟨i, .select .other, s₁⟩ ∈ log ∧ Reported req s₁
  spent : ∀ i, phases log i ≠ .fresh → ∃ row s n, ⟨i, .write (.insertNonce row), s⟩ ∈ log ∧
    s.writeResult (.insertNonce row) = .ok n

theorem noncesSpent_invariant (calls : List ReportCall) (C : LogEntry F → RunLog F → Prop) :
    TraceInvariant (fun i => srvRules (reportMay calls[i]?)) C fun _ log =>
      NoncesSpent calls log where
  tick _ h := h
  step := by
    rintro s log i lbl s' h - - hmay
    constructor
    · intro j row s₀ hmem
      rcases List.mem_cons.1 hmem with heq | hmem
      · cases heq
        obtain ⟨-, req, now, s₁, hcall, hrow, ⟨s₀, hs₀, rfl⟩, hs₁, hreported⟩ := hmay
        exact ⟨req, s₀, s₁, hcall, hrow, .tail _ (mem_threadTrace.1 hs₀),
          .tail _ (mem_threadTrace.1 hs₁), hreported⟩
      · obtain ⟨req, s₀', s₁, hcall, hrow, hs₀, hs₁, hreported⟩ := h.inserted j row s₀ hmem
        exact ⟨req, s₀', s₁, hcall, hrow, .tail _ hs₀, .tail _ hs₁, hreported⟩
    · intro j hj
      rw [phases_cons, Function.update_apply] at hj
      -- either the request had come further before, or this statement has spent its nonce
      by_cases hbefore : phases log j = .fresh
      · split at hj
        · next heq =>
          subst heq
          cases hmoves : moves lbl s with
          | none =>
            rw [hmoves] at hj
            exact absurd hbefore hj
          | some ph =>
            obtain ⟨w, n, rfl, hok, ⟨row, rfl, rfl⟩ | ⟨row, rfl, rfl⟩ | ⟨row, rfl, rfl⟩⟩ :=
              moves_eq_some hmoves
            · exact ⟨row, s, n, .head _, hok⟩
            · cases hbefore.symm.trans hmay
            · cases hbefore.symm.trans hmay.1
        · exact absurd hbefore hj
      · obtain ⟨row, s₀, n, hs₀, hn⟩ := h.spent j hbefore
        exact ⟨row, s₀, n, .tail _ hs₀, hn⟩

/-- No request of the pool writes receipts. -/
theorem receipts_invariant (calls : List ReportCall) (start : World F)
    (C : LogEntry F → RunLog F → Prop) :
    TraceInvariant (fun i => srvRules (reportMay calls[i]?)) C fun s _ =>
      s.db.receipts = start.db.receipts where
  tick _ h := h
  step := by
    rintro s log i lbl s' h - heff hmay
    refine ((Label.Effect.sameOff heff).receipts ?_).trans h
    cases lbl with
    | write w =>
      cases w with
      | insertNonce _ | insertUsageLog _ | addUsage _ | pruneNonces _ => exact nofun
      | _ => exact hmay.elim
    | _ => exact nofun

/-- The report that the `i`-th request presents. -/
def presentedBy (calls : List ReportCall) (i : ℕ) : Option (String × String × ℤ × ℤ × String) :=
  calls[i]?.bind ReportCall.presents

/-- A request that presents the report inserts the nonce `key`, to be kept until `deadline`. -/
def SpendsNonce (calls : List ReportCall) (report : String × String × ℤ × ℤ × String)
    (key : String) (deadline : ℤ) (e : LogEntry F) : Prop :=
  presentedBy calls e.thread = some report ∧ ∃ row n, e.label = .write (.insertNonce row) ∧
    e.before.writeResult (.insertNonce row) = .ok n ∧ row.nonce = key ∧ deadline ≤ row.expiresAt

/-- The key under which the nonce of a report is spent. -/
def nonceKey (s : World F) (report : String × String × ℤ × ℤ × String) : String :=
  "usage|" ++ ((receiptRow report.1 s.db).map (·.ringKeyImageHex)).getD "" ++ "|" ++
    report.2.2.2.2

variable {start : World F} {report : String × String × ℤ × ℤ × String}

omit [Float64 F] in
theorem nonceKey_eq {req : RecordUsageRequest} (hsigned : req.signed = report)
    (hsame : s.db.receipts = start.db.receipts) (h : Reported req s) {now : ℤ} :
    (usageNonce req now).nonce = nonceKey start report := by
  subst hsigned
  obtain ⟨r, hr, hki⟩ := h
  rw [receiptRow, hsame] at hr
  simp only [nonceKey, usageNonce, RecordUsageRequest.signed, receiptRow, hr, hki, Option.map_some,
    Option.getD_some]

variable {deadline : ℤ}

/-- Within the window the row of a nonce stays where it is. -/
theorem nonce_kept {call : Option ReportCall} {lo : ℤ} {s' : World F} {i : ℕ} {log : RunLog F}
    (hclock : ClockFrom lo s log) (heff : lbl.Effect s s')
    (hmay : (srvRules (reportMay call)).may (threadTrace i log) lbl s)
    (hlive : s.nowSecs ≤ deadline) {r : NonceRow} (hr : r ∈ s.db.nonces)
    (hrow : deadline ≤ r.expiresAt) : r ∈ s'.db.nonces := by
  obtain ⟨t, ht, hsame⟩ | ⟨w, db, n, rfl, htable, happly, -, hdb⟩ := heff.onTable .nonces nofun
  · rwa [hsame.nonces ht]
  rw [hdb]
  cases w with
  | insertNonce row =>
    simp only [Write.apply] at happly
    split at happly <;> cases happly
    exact List.mem_append_left _ hr
  | pruneNonces now =>
    cases happly
    have hnow : now ≤ s.nowSecs := hclock.readsNow_le hmay
    exact List.mem_filter.2 ⟨hr, by simp; omega⟩
  | _ => cases htable

theorem spendsNonce_onceRules (calls : List ReportCall) (report : String × String × ℤ × ℤ × String)
    (key : String) (lo deadline : ℤ) : OnceRules (fun i => srvRules (F := F) (reportMay calls[i]?))
      (fun e _ => presentedBy calls e.thread = some report → e.before.nowSecs ≤ deadline)
      (ClockFrom lo) (SpendsNonce calls report key deadline) (fun s => s.nowSecs ≤ deadline)
      (fun s => ∃ r ∈ s.db.nonces, r.nonce = key ∧ deadline ≤ r.expiresAt) where
  live_of_tick {s} d h := (World.nowSecs_le_advance s d).trans h
  tick_stored _ h := h
  live_of_step heff h := (World.nowSecs_mono (Label.Effect.clockMs_eq heff).ge).trans h
  step_stored := by
    rintro s log i lbl s' hclock heff hmay hlive ⟨r, hr, hkey, hrow⟩
    exact ⟨r, nonce_kept hclock heff hmay hlive hr hrow, hkey, hrow⟩
  uses_stored := by
    rintro i lbl s s' heff ⟨-, row, n, rfl, hn, hkey, hrow⟩
    cases heff
    refine ⟨row, ?_, hkey, hrow⟩
    rw [(World.insertNonce_ok hn).2]
    exact List.mem_append_right _ (.head _)
  uses_live := by
    rintro s log i lbl - hC - ⟨hreport, -⟩ -
    exact hC hreport
  uses_fresh := by
    rintro s log i lbl - - - ⟨-, row, n, rfl, hn, rfl, -⟩ ⟨r, hr, hkey, -⟩
    exact (World.insertNonce_ok hn).1 r hr hkey

/-! ## Runs -/

omit [Float64 F] in
theorem length_le_one_of_nodup {α : Type} {l : List α} (hl : l.Nodup)
    (h : ∀ x ∈ l, ∀ y ∈ l, x = y) : l.length ≤ 1 := by
  match l with
  | [] => exact Nat.zero_le 1
  | [x] => exact le_rfl
  | x :: y :: l =>
    rw [h x (.head _) y (.tail _ (.head _))] at hl
    exact absurd (.head _) (List.nodup_cons.1 hl).1

variable (env) in
/-- The requests run together from `start`. -/
def reportRun (start : World F) (calls : List ReportCall) (sched : List Event) :
    SrvConfig F AppError Unit :=
  (Config.init start (calls.map (ReportCall.prog env))).run sched

/-- The ledger is the sum of the log, for one pseudonym. -/
def LedgerIsLog (p : Pseudonym) (db : Db F) : Prop :=
  Holds p (sumOf (·.inputTokens) p db.usageLog) (sumOf (·.outputTokens) p db.usageLog) db.usage

theorem ledgerIsLog_run (calls : List ReportCall) (sched : List Event) {p : Pseudonym}
    (hrows : ∀ row ∈ start.db.usageLog, Nonneg row) (hstart : LedgerIsLog p start.db)
    (hsettled : ∀ x ∈ logged (reportRun env start calls sched).log, pseudonym x.2 = p →
      x ∈ charged (reportRun env start calls sched).log)
    (hin : sumOf (·.inputTokens) p (reportRun env start calls sched).world.db.usageLog < 2 ^ 63)
    (hout : sumOf (·.outputTokens) p (reportRun env start calls sched).world.db.usageLog < 2 ^ 63) :
    LedgerIsLog p (reportRun env start calls sched).world.db := by
  have hledger : TraceInvariant (fun i => srvRules (F := F) (reportMay calls[i]?))
      (fun _ _ => True) (LedgerSum p (sumOf (·.inputTokens) p start.db.usageLog)
        (sumOf (·.outputTokens) p start.db.usageLog)) :=
    ledgerSum_invariant (fun _ _ _ _ h => h.2) p
      (sumOf_nonneg fun row hrow => (hrows row hrow).1)
      (sumOf_nonneg fun row hrow => (hrows row hrow).2) _
  have hinv := (hledger.and (tally_invariant calls _)).and (logSum_invariant start _)
  obtain ⟨⟨⟨⟨-, hholds⟩, htally⟩, hlog⟩, -⟩ := hinv.run_calls
    (@ReportCall.prog_yields F _ env calls)
    ⟨⟨ledgerSum_nil hstart, tally_nil⟩, fun _ _ => (add_zero _).symm⟩ sched
    (LogOk.of_true _)
  -- what was appended has been added, so the sums of the log are those of the ledger
  have hsums : ∀ count : UsageLogRow F → ℤ,
      sumOf count p (reportRun env start calls sched).world.db.usageLog =
        recorded count p (sumOf count p start.db.usageLog)
          (reportRun env start calls sched).log := by
    intro count
    exact (hlog count p).trans (congrArg _ (htally.sumOf_eq hsettled count))
  unfold LedgerIsLog
  rw [hsums, hsums]
  rw [hsums] at hin hout
  exact hholds ⟨hin, hout⟩

/-- The nonce of a report is spent once while it is kept. -/
theorem charged_once_run (calls : List ReportCall) (sched : List Event)
    (hwindow : ∀ e ∈ (reportRun env start calls sched).log,
      presentedBy calls e.thread = some report →
        deadline - 30 * 24 * 3600 ≤ e.before.nowSecs ∧ e.before.nowSecs ≤ deadline) :
    ((charged (reportRun env start calls sched).log).filter fun x =>
      presentedBy calls x.1 = some report).length ≤ 1 := by
  have hcalls := @ReportCall.prog_yields F _ env calls
  have hinv := ((tally_invariant calls fun _ _ => True).and (noncesSpent_invariant calls _)).and
    (receipts_invariant calls start _).throughout
  obtain ⟨⟨⟨htally, hspent⟩, -, hreceipts⟩, -⟩ := hinv.run_calls hcalls
    ⟨⟨tally_nil, ⟨fun _ _ _ h => absurd h List.not_mem_nil, fun _ h => absurd rfl h⟩⟩, rfl,
      List.forall_mem_nil _⟩ sched (LogOk.of_true _)
  -- a request that has charged the report has spent its nonce
  have huse : ∀ x ∈ charged (reportRun env start calls sched).log,
      presentedBy calls x.1 = some report → ∃ e ∈ (reportRun env start calls sched).log,
        e.thread = x.1 ∧ SpendsNonce calls report (nonceKey start report) deadline e := by
    rintro ⟨i, row⟩ hx hreport
    obtain ⟨nonce, s, n, hs, hn⟩ := hspent.spent i fun h => by
      cases h.symm.trans ((htally.added_iff i row).1 hx)
    refine ⟨_, hs, rfl, hreport, nonce, n, rfl, hn, ?_⟩
    obtain ⟨req, s₀, s₁, hcall, rfl, hs₀, hs₁, hreported⟩ := hspent.inserted i nonce s hs
    have hsigned : req.signed = report := by
      simpa [presentedBy, hcall, ReportCall.presents] using hreport
    obtain ⟨-, -, hsame⟩ := hreceipts _ hs₁
    refine ⟨nonceKey_eq hsigned hsame hreported, ?_⟩
    have hopen : deadline - 30 * 24 * 3600 ≤ s₀.nowSecs := (hwindow _ hs₀ hreport).1
    simp only [usageNonce]
    omega
  obtain ⟨honce, -⟩ := ((spendsNonce_onceRules calls report (nonceKey start report) start.clockMs
    deadline).invariant (clockFrom_invariant _ _ _)).run_calls hcalls
    ⟨⟨le_rfl, List.forall_mem_nil _⟩, List.forall_mem_nil _, .nil⟩ sched
    (LogOk.of_forall_mem fun e he hreport => (hwindow e he hreport).2)
  refine length_le_one_of_nodup (htally.added_nodup.filter _) ?_
  rintro ⟨i, row⟩ hx ⟨j, row'⟩ hy
  simp only [List.mem_filter, decide_eq_true_eq] at hx hy
  obtain ⟨e, he, hthread, hspends⟩ := huse _ hx.1 hx.2
  obtain ⟨e', he', hthread', hspends'⟩ := huse _ hy.1 hy.2
  have hij : i = j := hthread.symm.trans
    ((congrArg Entry.thread (honce.eq he he' hspends hspends')).trans hthread')
  subst hij
  have hrow := (htally.added_iff i row).1 hx.1
  cases hrow.symm.trans ((htally.added_iff i row').1 hy.1)
  rfl

variable (env) in
/-- **Charging.** The ledger of a pseudonym is the sum of its log when every row that was
appended has been added and the sums are an `i64`, and a report is charged at most once when
all requests that present it fall within 30 days. -/
theorem reports_charged (start : World F) (calls : List ReportCall) (sched : List Event)
    (hrows : ∀ row ∈ start.db.usageLog, Nonneg row) (hstart : ∀ p, LedgerIsLog p start.db) :
    (∀ p, (∀ x ∈ logged (reportRun env start calls sched).log, pseudonym x.2 = p →
        x ∈ charged (reportRun env start calls sched).log) →
      sumOf (·.inputTokens) p (reportRun env start calls sched).world.db.usageLog < 2 ^ 63 →
      sumOf (·.outputTokens) p (reportRun env start calls sched).world.db.usageLog < 2 ^ 63 →
      LedgerIsLog p (reportRun env start calls sched).world.db) ∧
    ∀ (report : String × String × ℤ × ℤ × String) (deadline : ℤ),
      (∀ e ∈ (reportRun env start calls sched).log, presentedBy calls e.thread = some report →
        deadline - 30 * 24 * 3600 ≤ e.before.nowSecs ∧ e.before.nowSecs ≤ deadline) →
      ((charged (reportRun env start calls sched).log).filter fun x =>
        presentedBy calls x.1 = some report).length ≤ 1 :=
  ⟨fun p => ledgerIsLog_run calls sched hrows (hstart p), fun _ _ => charged_once_run calls sched⟩

instance [DecidableEq F] (p : Pseudonym) (db : Db F) : Decidable (LedgerIsLog p db) :=
  inferInstanceAs (Decidable (Holds _ _ _ _))

/-! ## A report that is charged twice, and one that is not charged -/

/-- A report of 11 input tokens. -/
def sampleReport : RecordUsageRequest where
  receiptId := "ar_1"
  modelId := "model"
  inputTokens := 11
  outputTokens := 0
  nonce := "nonce-0123456789"
  ringSignature := ⟨[], [], [0]⟩

/-- Whose usage it is. -/
def sampleReporter : Pseudonym := ⟨"default", "ring", "00"⟩

def reportTwice : List ReportCall := [.report sampleReport, .gc, .report sampleReport]

/-- The nonces are collected after some days and a second, and the report is presented again. -/
def againAfter (days : ℕ) : List Event :=
  List.replicate 9 (.step 0) ++ [.tick ((days * 86400 + 1) * 1000)] ++
    List.replicate 2 (.step 1) ++ List.replicate 9 (.step 2)

@[irreducible] def presentedTwice (faults : List (Option String)) (days : ℕ) :
    SrvConfig ℚ AppError Unit :=
  reportRun usageEnv { usageWorld with faults := faults } reportTwice (againAfter days)

/-- After 30 days and a second the report is charged again. When the statement on the ledger
fails, the row is in the log alone. -/
theorem report_charged_twice :
    ((presentedTwice [] 30).result 0 = some (.ok ()) ∧
      (presentedTwice [] 30).result 2 = some (.ok ()) ∧
      ((charged (presentedTwice [] 30).log).filter fun x =>
        presentedBy reportTwice x.1 = some sampleReport.signed).length = 2) ∧
      sumOf (·.inputTokens) sampleReporter (presentedTwice (List.replicate 5 none ++
        [some "disk I/O error"]) 0).world.db.usageLog = 11 ∧
      ¬LedgerIsLog sampleReporter (presentedTwice (List.replicate 5 none ++
        [some "disk I/O error"]) 0).world.db := by
  decide +kernel

/-- Within the 30 days the report is charged once. -/
theorem report_charged_at_once :
    LedgerIsLog sampleReporter (presentedTwice [] 1).world.db ∧
      sumOf (·.inputTokens) sampleReporter (presentedTwice [] 1).world.db.usageLog = 11 ∧
      ((charged (presentedTwice [] 1).log).filter fun x =>
        presentedBy reportTwice x.1 = some sampleReport.signed).length ≤ 1 := by
  have hrun : (∀ x ∈ logged (presentedTwice [] 1).log, x ∈ charged (presentedTwice [] 1).log) ∧
      sumOf (·.inputTokens) sampleReporter (presentedTwice [] 1).world.db.usageLog = 11 ∧
      sumOf (·.outputTokens) sampleReporter (presentedTwice [] 1).world.db.usageLog = 0 ∧
      ∀ e ∈ (presentedTwice [] 1).log, 2592005 - 30 * 24 * 3600 ≤ e.before.nowSecs ∧
        e.before.nowSecs ≤ 2592005 := by
    decide +kernel
  obtain ⟨hsettled, hin, hout, hwindow⟩ := hrun
  rw [and_left_comm, and_iff_right hin]
  have hcharged := reports_charged usageEnv { usageWorld with faults := [] } reportTwice
    (againAfter 1) (List.forall_mem_nil _) fun _ => ⟨rfl, rfl⟩
  have hc : reportRun usageEnv { usageWorld with faults := [] } reportTwice (againAfter 1) =
      presentedTwice [] 1 := by
    unfold presentedTwice
    rfl
  rw [hc] at hcharged
  obtain ⟨hledger, honce⟩ := hcharged
  refine ⟨hledger sampleReporter (fun x hx _ => hsettled x hx) ?_ ?_,
    honce sampleReport.signed 2592005 fun e he _ => hwindow e he⟩
  · rw [hin]
    decide
  · rw [hout]
    decide

end SauronID.Usage
