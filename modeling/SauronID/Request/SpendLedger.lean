import Mathlib.Algebra.BigOperators.Group.List.Basic
import SauronID.Lib.Transaction
import SauronID.Request.Redeem

/-!
# The spend ledger and the spend log

`record_spend_with_period_tenant` writes a row of `spend_log` and adds its amount to a row of
`spend_ledger` in one transaction: under `BEGIN IMMEDIATE` on SQLite, and on Postgres in a
serializable transaction that is tried up to three times. `get_spend_total_tenant` reads the
ledger. The statements of any number of such calls interleave, and each of them can fail.

With exact amounts the total of every key is the sum of the logged amounts of that key, and a
call that fails has no effect on either table, as long as no transaction is left open on a
connection of the pool and no commit takes effect that is reported as failed. A connection to
Postgres that is lost after the server has committed makes such a commit: the call is reported
as failed, its amount is in both tables, and a client that sends it again, as the trackers of
the SDKs do, is charged twice.
-/

namespace SauronID.Request

open Conc

variable {F S D : Type}

/-! ## The two tables -/

/-- The key of a total. -/
@[ext]
structure SpendKey where
  tenantId : String
  policyId : String
  agentId : String
  periodStart : ℤ
  deriving DecidableEq, Repr

/-- A row of `spend_log`, with the period it was recorded for. The table has no column for the
period. -/
structure LoggedSpend (F : Type) where
  row : SpendLogRow F
  actionId : Option String
  periodStart : ℤ

def LoggedSpend.key (spend : LoggedSpend F) : SpendKey :=
  ⟨spend.row.tenantId, spend.row.policyId, spend.row.agentId, spend.periodStart⟩

/-- `spend_log` and `spend_ledger`. -/
structure SpendBooks (F : Type) where
  log : List (LoggedSpend F)
  ledger : List (SpendLedgerRow F)

/-- The two statements of a recording. -/
inductive SpendStmt (F : Type) where
  | insertLog (spend : LoggedSpend F)
  | upsertLedger (spend : LoggedSpend F)

/-- What either backend reports when a log id is taken. -/
def logIdTaken : Backend → SqlError
  | .sqlite => ⟨none, uniqueViolation "spend_log.log_id"⟩
  | .postgres => ⟨some "23505", "error returned from database: duplicate key value violates " ++
      "unique constraint \"spend_log_pkey\""⟩

section Tables

variable [Float64 F]

def SpendStmt.apply (backend : Backend) : SpendStmt F → SpendBooks F →
    Except SqlError (SpendBooks F)
  | insertLog spend, books =>
    if books.log.any fun l => l.row.logId == spend.row.logId then .error (logIdTaken backend)
    else .ok { books with log := books.log ++ [spend] }
  | upsertLedger spend, books =>
    .ok { books with ledger := addSpend books.ledger spend.row spend.periodStart }

/-- The database, on which the environment decides what fails. -/
def spendDb (backend : Backend) (fate : ℕ → Fate) (pick : ℕ → ℕ) :
    Sql (SpendStmt F) (SpendBooks F) where
  apply := SpendStmt.apply backend
  fate := fate
  pick := pick

def isLedgerRow (key : SpendKey) (l : SpendLedgerRow F) : Bool :=
  l.policyId == key.policyId && l.agentId == key.agentId && l.periodStart == key.periodStart &&
    l.tenantId == key.tenantId

/-- The total of a key; a missing row counts as zero. -/
def SpendBooks.total (books : SpendBooks F) (key : SpendKey) : F :=
  ((books.ledger.find? (isLedgerRow key)).map (·.totalUsd)).getD (Float64.ofInt 0)

/-- The logged amounts of a key. -/
def SpendBooks.amounts (books : SpendBooks F) (key : SpendKey) : List F :=
  (books.log.filter fun l => l.key = key).map (·.row.amountUsd)

end Tables

/-! ## Transactions of the repository -/

/-- `txn_immediate_sqlite`, for a closure that executes `body`. A `COMMIT` that fails is not
followed by a `ROLLBACK`. -/
def txnImmediateSqlite (db : Sql S D) (body : List (S × (SqlError → RepoError))) :
    SqlProg S D RepoError Unit :=
  db.withConnection (fun e => .backend e.text) fun conn => do
    (db.statement (.begin (some conn))).mapErr fun e => .backend s!"begin immediate: {e.text}"
    match ← (db.execAll (some conn) [] body).attempt with
    | .ok ops =>
      (db.statement (.commit (some conn) ops)).mapErr fun e => .backend s!"commit: {e.text}"
    | .error (e, ops) => do
      let _ ← (db.statement (.rollback (some conn) ops)).attempt
      .fail e

/-- `txn_serializable_pg`, for a closure that executes `body`: `n` attempts are left after
`attempt` of them. -/
def txnSerializablePg (db : Sql S D) (body : List (S × (SqlError → RepoError))) :
    ℕ → ℕ → Option RepoError → SqlProg S D RepoError Unit
  | 0, _, lastErr => .fail
      (lastErr.getD (.backend "serialisable retry exhausted with no error captured"))
  | n + 1, attempt, _ => do
    (db.statement (.begin none)).mapErr fun e => .backend s!"postgres begin: {e.text}"
    match ← (db.statement .configure).attempt with
    | .error e => do
      let _ ← (db.statement (.rollback none [])).attempt
      .fail (.backend s!"postgres set isolation: {e.text}")
    | .ok _ =>
      match ← (db.execAll none [] body).attempt with
      | .ok ops =>
        match ← (db.statement (.commit none ops)).attempt with
        | .ok _ => return ()
        | .error e =>
          if e.code = some "40001" then
            txnSerializablePg db body n (attempt + 1)
              (some (.backend s!"serialisation_failure on commit (attempt {attempt + 1})"))
          else .fail (.backend s!"postgres commit: {e.text}")
      | .error (e, ops) => do
        let _ ← (db.statement (.rollback none ops)).attempt
        if isRetryable e then txnSerializablePg db body n (attempt + 1) (some e)
        else .fail e

/-! ## Recording and reading -/

/-- The arguments of `record_spend_with_period_tenant`. -/
structure SpendArgs (F : Type) where
  tenantId : String
  policyId : String
  agentId : String
  actionId : Option String
  amountUsd : F
  source : String
  periodStart : ℤ
  now : ℤ

def SpendArgs.logged (args : SpendArgs F) (logId : String) : LoggedSpend F where
  row := ⟨logId, args.tenantId, args.policyId, args.agentId, args.amountUsd, args.now, args.source⟩
  actionId := args.actionId
  periodStart := args.periodStart

/-- How a failed statement is reported on Postgres. -/
def pgStatementError (what : String) (e : SqlError) : RepoError :=
  if e.code = some "40001" then .backend "40001 serialization_failure"
  else .backend s!"pg {what}: {e.text}"

/-- The transaction of a recording. -/
def booking (spend : LoggedSpend F) : List (SpendStmt F) :=
  [.insertLog spend, .upsertLedger spend]

/-- The closure that records, on either backend. -/
def bookingBody (spend : LoggedSpend F) : Backend → List (SpendStmt F × (SqlError → RepoError))
  | .sqlite =>
    [(.insertLog spend, fun e => .backend s!"spend_log insert: {e.text}"),
      (.upsertLedger spend, fun e => .backend s!"spend_ledger upsert: {e.text}")]
  | .postgres =>
    [(.insertLog spend, pgStatementError "spend_log insert"),
      (.upsertLedger spend, pgStatementError "spend_ledger upsert")]

theorem map_fst_bookingBody (spend : LoggedSpend F) (backend : Backend) :
    (bookingBody spend backend).map Prod.fst = booking spend := by
  cases backend <;> rfl

section Calls

variable [Float64 F] (backend : Backend) (db : Sql (SpendStmt F) (SpendBooks F))

/-- `record_spend_with_period_tenant`; `hex` is what `uuid_like_hex` returns. -/
def recordSpendWithPeriodTenant (args : SpendArgs F) (hex : String) :
    SqlProg (SpendStmt F) (SpendBooks F) RepoError String := do
  .rejectIf (args.policyId = "" ∨ args.agentId = "") (.backend "missing policy_id or agent_id")
  .rejectIf (Float64.isFinite args.amountUsd = false) (.backend "amount_usd must be finite")
  .rejectIf (args.source ≠ "sdk_flush" ∧ args.source ≠ "server_recompute")
    (.backend s!"unknown spend source '{args.source}'")
  let logId := "splog_" ++ hex
  let body := bookingBody (args.logged logId) backend
  match backend with
  | .sqlite => txnImmediateSqlite db body
  | .postgres => txnSerializablePg db body 3 0 none
  return logId

/-- `get_spend_total_tenant` -/
def getSpendTotalTenant (key : SpendKey) : SqlProg (SpendStmt F) (SpendBooks F) RepoError F :=
  db.withConnection (fun e => .backend e.text) fun conn =>
    let through := match backend with
      | .sqlite => some conn
      | .postgres => none
    (db.select through fun books => books.total key).mapErr fun e => .backend e.text

/-- A call on the spend tables. -/
inductive SpendCall (F : Type) where
  | record (args : SpendArgs F) (hex : String)
  | total (key : SpendKey)

inductive SpendReply (F : Type) where
  | recorded (logId : String)
  | total (usd : F)
  deriving DecidableEq

/-- A call, whose outcome is handed on as a value. -/
def SpendCall.prog : SpendCall F →
    SqlProg (SpendStmt F) (SpendBooks F) Empty (Except RepoError (SpendReply F))
  | record args hex => (do
      let logId ← recordSpendWithPeriodTenant backend db args hex
      return SpendReply.recorded logId : SqlProg _ _ RepoError _).attempt
  | total key => (do
      let usd ← getSpendTotalTenant backend db key
      return SpendReply.total usd : SqlProg _ _ RepoError _).attempt

/-- A run of calls from the state `start`. -/
def spendRun (start : Store (SpendStmt F) (SpendBooks F)) (calls : List (SpendCall F))
    (sched : List Event) : Config (Stmt (SpendStmt F)) (Store (SpendStmt F) (SpendBooks F)) Empty
      (Except RepoError (SpendReply F)) :=
  (Config.init start (calls.map (SpendCall.prog backend db))).run sched

end Calls

/-! ## Transactions take effect or fail -/

section Transactions

variable {db : Sql S D} {complete : List S → Prop} {t : Trace (Stmt S) (Store S D)}
  {body : List (S × (SqlError → RepoError))}

/-- What a program returns tells whether one of its transactions has taken effect. -/
def Tells {α ε : Type} (db : Sql S D) (t : Trace (Stmt S) (Store S D)) : Except ε α → Prop
  | .ok _ => ∃ x ∈ t, db.Commits x.1 x.2
  | .error _ => db.Quiet t

/-- A value is returned after a transaction that has taken effect. -/
theorem returning_follows {α : Type} {p : SqlProg S D RepoError Unit} {a : α}
    (h : p.Follows (db.rules complete).Step t fun t' r => Tells db t' r) :
    (p >>= fun _ => pure a).Follows (db.rules complete).Step t fun t' r =>
      Tells db t' r ∧ ∀ b, r = .ok b → b = a := by
  refine .bind (h.mono fun t' r hr => ?_)
  cases r with
  | ok u =>
    refine Prog.follows_pure.2 ⟨hr, ?_⟩
    rintro _ ⟨⟩
    rfl
  | error e => exact ⟨hr, nofun⟩

theorem txnImmediateSqlite_follows (hbody : complete (body.map Prod.fst)) (ht : db.Quiet t) :
    (txnImmediateSqlite db body).Follows (db.rules complete).Step t fun t' r => Tells db t' r := by
  refine Sql.follows_withConnection (fun w e => ht.of_ne nofun) fun w conn => ?_
  have ht₁ : db.Quiet ((.acquire, w) :: t) := ht.of_ne nofun
  refine .bind (.mapErr (Sql.follows_statement nofun fun w₁ => ?_))
  have ht₂ : db.Quiet ((.begin (some conn), w₁) :: (.acquire, w) :: t) := ht₁.of_ne nofun
  cases db.answer (.begin (some conn)) w₁ with
  | error e => exact fun _ => ht₂.of_ne nofun
  | ok u =>
    refine .bind (.attempt ((Sql.follows_execAll ht₂).mono fun t₃ r ⟨ht₃, hops⟩ => ?_))
    cases r with
    | ok ops =>
      obtain rfl : ops = body.map Prod.fst := by simpa using hops ops rfl
      refine .mapErr (Sql.follows_statement (fun _ _ h => by cases h; exact hbody) fun w₃ => ?_)
      cases hans : db.answer (.commit (some conn) (body.map Prod.fst)) w₃ with
      | ok u => exact fun w₄ => ⟨_, .tail _ (.head _), _, _, rfl, hans⟩
      | error e => exact fun w₄ => (ht₃.of_error hans).of_ne nofun
    | error e =>
      refine Sql.follows_ignored nofun fun w₃ _ => Prog.follows_fail.2 fun w₄ => ?_
      have ht₄ : db.Quiet ((.rollback (some conn) e.2, w₃) :: t₃) := ht₃.of_ne nofun
      exact ht₄.of_ne nofun

theorem txnSerializablePg_follows (hbody : complete (body.map Prod.fst)) (ht : db.Quiet t)
    (n attempt : ℕ) (lastErr : Option RepoError) :
    (txnSerializablePg db body n attempt lastErr).Follows (db.rules complete).Step t
      fun t' r => Tells db t' r := by
  -- an attempt that is tried again has committed nothing
  induction n generalizing t attempt lastErr with
  | zero => exact Prog.follows_fail.2 ht
  | succ n ih =>
    refine .bind (.mapErr (Sql.follows_statement nofun fun w => ?_))
    have ht₁ : db.Quiet ((.begin none, w) :: t) := ht.of_ne nofun
    cases db.answer (.begin none) w with
    | error e => exact ht₁
    | ok u =>
      refine .bind (.attempt (Sql.follows_statement nofun fun w₁ => ?_))
      have ht₂ : db.Quiet ((.configure, w₁) :: (.begin none, w) :: t) := ht₁.of_ne nofun
      cases db.answer .configure w₁ with
      | error e =>
        exact Sql.follows_ignored nofun fun w₂ _ => Prog.follows_fail.2 (ht₂.of_ne nofun)
      | ok u =>
        refine .bind (.attempt ((Sql.follows_execAll ht₂).mono fun t₃ r ⟨ht₃, hops⟩ => ?_))
        cases r with
        | ok ops =>
          obtain rfl : ops = body.map Prod.fst := by simpa using hops ops rfl
          refine .bind (.attempt (Sql.follows_statement (fun _ _ h => by cases h; exact hbody)
            fun w₃ => ?_))
          cases hans : db.answer (.commit none (body.map Prod.fst)) w₃ with
          | ok u => exact Prog.follows_pure.2 ⟨_, .head _, _, _, rfl, hans⟩
          | error e =>
            dsimp only
            split
            · exact ih (ht₃.of_error hans) _ _
            · exact Prog.follows_fail.2 (ht₃.of_error hans)
        | error e =>
          refine Sql.follows_ignored nofun fun w₃ _ => ?_
          have ht₄ : db.Quiet ((.rollback none e.2, w₃) :: t₃) := ht₃.of_ne nofun
          split
          · exact ih ht₄ _ _
          · exact Prog.follows_fail.2 ht₄

end Transactions

/-! ## The calls -/

section Specifications

variable [Float64 F] {backend : Backend} {db : Sql (SpendStmt F) (SpendBooks F)}
  {t : Trace (Stmt (SpendStmt F)) (Store (SpendStmt F) (SpendBooks F))}

/-- A recording commits its own row and nothing else; a reading commits nothing. -/
def SpendCall.Books (call : Option (SpendCall F)) (ops : List (SpendStmt F)) : Prop :=
  ∃ args hex, call = some (.record args hex) ∧ ops = booking (args.logged ("splog_" ++ hex))

/-- What a call has done when it returns. -/
def SpendCall.Post (db : Sql (SpendStmt F) (SpendBooks F))
    (t : Trace (Stmt (SpendStmt F)) (Store (SpendStmt F) (SpendBooks F)))
    (r : Except RepoError (SpendReply F)) : SpendCall F → Prop
  | record _ hex => Tells db t r ∧ ∀ reply, r = .ok reply → reply = .recorded ("splog_" ++ hex)
  | total key => db.Quiet t ∧ ∀ reply, r = .ok reply → ∃ conn w, (.query conn, w) ∈ t ∧
      reply = .total ((db.view w conn).total key)

variable {complete : List (SpendStmt F) → Prop}

theorem recordSpend_follows {args : SpendArgs F}
    {hex : String} (hbooks : complete (booking (args.logged ("splog_" ++ hex)))) :
    (recordSpendWithPeriodTenant backend db args hex).Follows (db.rules complete).Step []
      fun t' r => Tells db t' r ∧ ∀ logId, r = .ok logId → logId = "splog_" ++ hex := by
  have hquiet : ∀ e : RepoError, Tells db [] (.error e : Except RepoError String) ∧
      ∀ logId, (.error e : Except RepoError String) = .ok logId → logId = "splog_" ++ hex :=
    fun e => ⟨Sql.quiet_nil, nofun⟩
  refine .rejectIf (fun _ => hquiet _) fun _ => .rejectIf (fun _ => hquiet _) fun _ => ?_
  refine .rejectIf (fun _ => hquiet _) fun _ => ?_
  have hbody : complete ((bookingBody (args.logged ("splog_" ++ hex)) backend).map Prod.fst) := by
    rw [map_fst_bookingBody]
    exact hbooks
  cases backend with
  | sqlite => exact returning_follows (txnImmediateSqlite_follows hbody Sql.quiet_nil)
  | postgres => exact returning_follows (txnSerializablePg_follows hbody Sql.quiet_nil 3 0 none)

theorem getSpendTotal_follows {key : SpendKey} :
    (getSpendTotalTenant backend db key).Follows (db.rules complete).Step [] fun t' r =>
      db.Quiet t' ∧ ∀ usd, r = .ok usd →
        ∃ conn w, (.query conn, w) ∈ t' ∧ usd = (db.view w conn).total key := by
  refine Sql.follows_withConnection (fun w e => ⟨Sql.quiet_nil.of_ne nofun, nofun⟩) ?_
  intro w conn
  have ht : db.Quiet [(.acquire, w)] := Sql.quiet_nil.of_ne nofun
  refine .mapErr (Sql.follows_select fun w₁ => ?_)
  generalize (match backend with | .sqlite => some conn | .postgres => none : Option ℕ) = through
  have ht₁ : db.Quiet [(.query through, w₁), (.acquire, w)] := ht.of_ne nofun
  cases db.answer (.query through) w₁ with
  | error e => exact fun w₂ => ⟨ht₁.of_ne nofun, nofun⟩
  | ok u =>
    intro w₂
    refine ⟨ht₁.of_ne nofun, ?_⟩
    rintro usd ⟨⟩
    exact ⟨through, w₁, .tail _ (.head _), rfl⟩

/-- Each call keeps to its own books and does what it returns. -/
theorem SpendCall.prog_yields (call : SpendCall F) :
    (call.prog backend db).Yields (db.rules (SpendCall.Books (some call))) []
      fun t' r => call.Post db t' r := by
  cases call with
  | record args hex =>
    refine .attempt (.bind ((recordSpend_follows ⟨args, hex, rfl, rfl⟩).mono ?_))
    rintro t' r ⟨htells, hid⟩
    cases r with
    | ok logId =>
      refine Prog.follows_pure.2 ⟨htells, ?_⟩
      rintro _ ⟨⟩
      rw [hid logId rfl]
    | error e => exact ⟨htells, nofun⟩
  | total key =>
    refine .attempt (.bind (getSpendTotal_follows.mono ?_))
    rintro t' r ⟨hquiet, hread⟩
    cases r with
    | ok usd =>
      refine Prog.follows_pure.2 ⟨hquiet, ?_⟩
      rintro _ ⟨⟩
      obtain ⟨conn, w, hmem, rfl⟩ := hread usd rfl
      exact ⟨conn, w, hmem, rfl⟩
    | error e => exact ⟨hquiet, nofun⟩

end Specifications

/-! ## The books balance -/

section Books

theorem isLedgerRow_iff {key : SpendKey} {l : SpendLedgerRow F} : isLedgerRow key l = true ↔
      (⟨l.tenantId, l.policyId, l.agentId, l.periodStart⟩ : SpendKey) = key := by
  simp only [isLedgerRow, Bool.and_eq_true, beq_iff_eq, SpendKey.ext_iff]
  tauto

/-- Every total is the sum of the logged amounts. -/
def SpendBooks.Balanced (books : SpendBooks ℚ) : Prop :=
  ∀ key, books.total key = (books.amounts key).sum

variable {books books' : SpendBooks ℚ} {spend : LoggedSpend ℚ} {key : SpendKey}

/-- Adding to the ledger adds to one total. -/
theorem total_addSpend :
    ({ books with ledger := addSpend books.ledger spend.row spend.periodStart } :
        SpendBooks ℚ).total key =
      books.total key + if spend.key = key then spend.row.amountUsd else 0 := by
  have hkey : ∀ l : SpendLedgerRow ℚ, (l.tenantId == spend.row.tenantId &&
      l.policyId == spend.row.policyId && l.agentId == spend.row.agentId &&
        l.periodStart == spend.periodStart) = isLedgerRow spend.key l := by
    intro l
    rw [Bool.eq_iff_iff, isLedgerRow_iff]
    simp [LoggedSpend.key, and_assoc]
  simp only [SpendBooks.total, addSpend, hkey]
  split
  · -- the row is there, and the lookup finds the same row as before
    next hany =>
    have hsame : (isLedgerRow key ∘ fun l => if isLedgerRow spend.key l then
        { l with totalUsd := Float64.add l.totalUsd spend.row.amountUsd } else l) =
        isLedgerRow key := by
      funext l
      rw [Function.comp_apply]
      split <;> rfl
    rw [List.find?_map, hsame]
    cases hfind : books.ledger.find? (isLedgerRow key) with
    | none =>
      have hne : spend.key ≠ key := by
        rintro rfl
        obtain ⟨l, hmem, hl⟩ := List.any_eq_true.1 hany
        exact absurd hl (List.find?_eq_none.1 hfind l hmem)
      simp [hne]
    | some l =>
      have hl := isLedgerRow_iff.1 (List.find?_some hfind)
      by_cases h : spend.key = key
      · have hrow : isLedgerRow key l = true := List.find?_some hfind
        simp [hrow, h, Float64.add]
      · have hrow : ¬isLedgerRow spend.key l = true := by
          intro hrow
          exact h ((isLedgerRow_iff.1 hrow).symm.trans hl)
        simp [hrow, h]
  · -- a new row, which the lookup finds only under its own key
    next hany =>
    rw [List.find?_append]
    by_cases h : spend.key = key
    · have hnone : books.ledger.find? (isLedgerRow key) = none := by
        rw [List.find?_eq_none, ← h]
        intro l hl hrow
        exact hany (List.any_eq_true.2 ⟨l, hl, hrow⟩)
      have hnew : isLedgerRow key ⟨spend.row.tenantId, spend.row.policyId, spend.row.agentId,
          spend.periodStart, spend.row.amountUsd⟩ = true := isLedgerRow_iff.2 h
      simp [hnone, hnew, h, Float64.ofInt]
    · have hnew : ¬isLedgerRow key ⟨spend.row.tenantId, spend.row.policyId, spend.row.agentId,
          spend.periodStart, spend.row.amountUsd⟩ = true := fun hrow => h (isLedgerRow_iff.1 hrow)
      simp [hnew, h]

theorem amounts_append :
    (({ books with log := books.log ++ [spend] } : SpendBooks ℚ).amounts key).sum =
      (books.amounts key).sum + if spend.key = key then spend.row.amountUsd else 0 := by
  by_cases h : spend.key = key <;> simp [SpendBooks.amounts, List.filter_append, h]

variable {backend : Backend} {fate : ℕ → Fate} {pick : ℕ → ℕ}

/-- What a recording that commits makes of the books. -/
theorem replay_booking (h : (spendDb backend fate pick).replay (booking spend) books = .ok books') :
    books' = { log := books.log ++ [spend],
               ledger := addSpend books.ledger spend.row spend.periodStart } := by
  simp only [Sql.replay, booking, spendDb, SpendStmt.apply] at h
  split at h
  · cases h
  · cases h
    rfl

/-- A recording keeps the books balanced. -/
theorem SpendBooks.Balanced.replay (hbooks : books.Balanced)
    (h : (spendDb backend fate pick).replay (booking spend) books = .ok books') :
    books'.Balanced := by
  intro key
  rw [replay_booking h]
  -- the log does not enter a total, nor the ledger the logged amounts
  calc _ = books.total key + if spend.key = key then spend.row.amountUsd else 0 := total_addSpend
    _ = (books.amounts key).sum + if spend.key = key then spend.row.amountUsd else 0 := by
      rw [hbooks key]
    _ = _ := amounts_append.symm

/-- A recording that commits is the one write by which the requests of the server record
spend, on the rows of the two tables. -/
theorem replay_booking_recordSpend {tables : Db ℚ}
    (hlog : books.log.map (·.row) = tables.spendLog) (hledger : books.ledger = tables.spendLedger)
    (h : (spendDb backend fate pick).replay (booking spend) books = .ok books') :
    ∃ tables', (Write.recordSpend spend.row spend.periodStart).apply tables = .ok (tables', 1) ∧
      books'.log.map (·.row) = tables'.spendLog ∧ books'.ledger = tables'.spendLedger := by
  have hfree : tables.spendLog.any (fun r => r.logId == spend.row.logId) = false := by
    rw [← hlog, List.any_map]
    simp only [Sql.replay, booking, spendDb, SpendStmt.apply] at h
    split at h
    · cases h
    · next hany => exact Bool.eq_false_iff.2 hany
  rw [replay_booking h]
  simp [Write.apply, hfree, hlog, hledger]

end Books

/-! ## Runs -/

section Runs

variable {backend : Backend} {fate : ℕ → Fate} {pick : ℕ → ℕ}

/-- **The spend ledger is the sum of the spend log.** Exact amounts, any calls on any keys in
any interleaving, on either backend, with any statement failing: as long as no transaction is
left open on a connection and no commit takes effect that is reported as failed, the books are
balanced, every total that is read is the sum of the logged amounts at that moment, a call that
fails leaves both tables as they are, and a call that succeeds has booked its row. -/
theorem spend_ledger_balances (start : Store (SpendStmt ℚ) (SpendBooks ℚ))
    (hopened : start.opened = []) (hstart : start.data.Balanced) (calls : List (SpendCall ℚ))
    (sched : List Event) (c : Config _ _ Empty (Except RepoError (SpendReply ℚ)))
    (hc : c = spendRun backend (spendDb backend fate pick) start calls sched)
    (hclean : ∀ e ∈ c.log, (spendDb backend fate pick).Clean e) :
    c.world.data.Balanced ∧
      (∀ i key usd, calls[i]? = some (.total key) → c.result i = some (.ok (.ok (.total usd))) →
        ∃ e ∈ c.log, e.thread = i ∧ usd = (e.before.data.amounts key).sum) ∧
      (∀ i args hex err, calls[i]? = some (.record args hex) →
        c.result i = some (.ok (.error err)) → ∀ e ∈ c.log, e.thread = i →
          ((spendDb backend fate pick).after e.label e.before).data = e.before.data) ∧
      ∀ i args hex reply, calls[i]? = some (.record args hex) →
        c.result i = some (.ok (.ok reply)) → reply = .recorded ("splog_" ++ hex) ∧
          ∃ e ∈ c.log, e.thread = i ∧
            (spendDb backend fate pick).replay (booking (args.logged ("splog_" ++ hex)))
              e.before.data = .ok ((spendDb backend fate pick).after e.label e.before).data := by
  subst hc
  set db := spendDb (F := ℚ) backend fate pick
  have hkeep : ∀ (i : ℕ) ops d d', SpendCall.Books calls[i]? ops → SpendBooks.Balanced d →
      db.replay ops d = .ok d' → d'.Balanced := by
    rintro i ops d d' ⟨args, hex, -, rfl⟩ hd h
    exact hd.replay h
  have hI := ((Sql.invariant hkeep).throughout).and TraceInvariant.allowed
  have hcalls : ∀ (i : ℕ) call, calls[i]? = some call →
      (call.prog backend db).Yields (db.rules (SpendCall.Books calls[i]?)) []
        fun t' r => call.Post db t' r := by
    intro i call hcall
    rw [hcall]
    exact call.prog_yields
  obtain ⟨⟨⟨⟨hopen, hbalanced⟩, hpast⟩, hallowed⟩, hpost⟩ := hI.run_calls hcalls
    ⟨⟨⟨hopened, hstart⟩, nofun⟩, fun e older h => by cases List.suffix_nil.1 h⟩ sched
    (LogOk.of_forall_mem hclean)
  refine ⟨hbalanced, fun i key usd hcall hr => ?_, fun i args hex err hcall hr => ?_,
    fun i args hex reply hcall hr => ?_⟩
  · obtain ⟨-, hread⟩ := hpost i _ _ hcall hr
    obtain ⟨conn, w, hmem, husd⟩ := hread _ rfl
    have hentry := mem_threadTrace.1 hmem
    obtain ⟨older, -, hopen', hbalanced'⟩ := hpast _ hentry
    refine ⟨_, hentry, rfl, ?_⟩
    rw [Sql.view_of_opened hopen'] at husd
    cases husd
    exact hbalanced' key
  · obtain ⟨hquiet, -⟩ := hpost i _ _ hcall hr
    rintro ⟨_, lbl, w⟩ he rfl
    exact Sql.data_after (hclean _ he) (hquiet _ (mem_threadTrace.2 he))
  · obtain ⟨⟨⟨lbl, w⟩, hmem, hcommits⟩, hid⟩ := hpost i _ _ hcall hr
    have hentry := mem_threadTrace.1 hmem
    obtain ⟨newer, older, hsplit⟩ := List.append_of_mem hentry
    obtain ⟨conn, ops, rfl, -⟩ := id hcommits
    obtain ⟨args', hex', hcall', rfl⟩ := hallowed _ older ⟨newer, hsplit.symm⟩ conn ops rfl
    cases hcall.symm.trans hcall'
    exact ⟨hid reply rfl, _, hentry, rfl, hcommits.replay⟩

/-! ### Two runs -/

def sampleSpend (amountUsd : ℚ) : SpendArgs ℚ where
  tenantId := "default"
  policyId := "p"
  agentId := "a"
  actionId := none
  amountUsd := amountUsd
  source := "sdk_flush"
  periodStart := 0
  now := 1

def sampleSpendKey : SpendKey := ⟨"default", "p", "a", 0⟩

def emptyBooks : Store (SpendStmt ℚ) (SpendBooks ℚ) := ⟨⟨[], []⟩, [], none, [], 0⟩

/-- The connection is lost while the answer to a `COMMIT` is awaited. -/
def lostAnswer : ℕ → Fate
  | 4 => .fails ⟨none, "error communicating with database: Connection reset by peer"⟩ .done
  | _ => .works

/-- On Postgres: the server commits a recording whose answer is lost, the amount is sent again,
and the total is read after either. -/
@[irreducible] def resentRun : Config (Stmt (SpendStmt ℚ)) (Store (SpendStmt ℚ) (SpendBooks ℚ))
    Empty (Except RepoError (SpendReply ℚ)) :=
  spendRun .postgres (spendDb .postgres lostAnswer fun _ => 0) emptyBooks
    [.record (sampleSpend 5) "1", .total sampleSpendKey, .record (sampleSpend 5) "2",
      .total sampleSpendKey]
    (List.replicate 5 (.step 0) ++ List.replicate 3 (.step 1) ++ List.replicate 5 (.step 2) ++
      List.replicate 3 (.step 3))

/-- The call that failed has changed both tables, and the amount that is sent again counts
twice. -/
theorem failed_spend_is_booked :
    resentRun.result 0 = some (.ok (.error (.backend
        "postgres commit: error communicating with database: Connection reset by peer"))) ∧
      resentRun.result 1 = some (.ok (.ok (.total 5))) ∧
      resentRun.result 2 = some (.ok (.ok (.recorded "splog_2"))) ∧
      resentRun.result 3 = some (.ok (.ok (.total 10))) ∧
      resentRun.world.data.log.map (·.row.logId) = ["splog_1", "splog_2"] := by
  unfold resentRun
  decide +kernel

/-- A statement of the first recording cannot be serialized, one of the second finds the disk
full. -/
def retriedFate : ℕ → Fate
  | 2 => .fails ⟨some "40001", "could not serialize access"⟩ .undone
  | 12 => .fails ⟨some "53100", "could not extend file: No space left on device"⟩ .undone
  | _ => .works

/-- On Postgres: a recording that succeeds when it is tried again, one that fails, and a
reading. -/
@[irreducible] def retriedRun : Config (Stmt (SpendStmt ℚ)) (Store (SpendStmt ℚ) (SpendBooks ℚ))
    Empty (Except RepoError (SpendReply ℚ)) :=
  spendRun .postgres (spendDb .postgres retriedFate fun _ => 0) emptyBooks
    [.record (sampleSpend 5) "1", .record (sampleSpend 7) "2", .total sampleSpendKey]
    (List.replicate 9 (.step 0) ++ List.replicate 5 (.step 1) ++ List.replicate 3 (.step 2))

theorem retried_spend_balances :
    (retriedRun.result 1).isSome ∧ retriedRun.result 2 = some (.ok (.ok (.total 5))) ∧
      retriedRun.world.data.Balanced := by
  have hrun : ((retriedRun.result 1).isSome ∧
      retriedRun.result 2 = some (.ok (.ok (.total 5)))) ∧
      ∀ e ∈ retriedRun.log, (spendDb .postgres retriedFate fun _ => 0).Clean e := by
    unfold retriedRun
    decide +kernel
  have hempty : emptyBooks.data.Balanced := fun _ => rfl
  exact ⟨hrun.1.1, hrun.1.2, (spend_ledger_balances emptyBooks rfl hempty _ _ retriedRun
    (by unfold retriedRun; rfl) hrun.2).1⟩

end Runs

end SauronID.Request
