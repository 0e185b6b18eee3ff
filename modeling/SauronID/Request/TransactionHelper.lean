import SauronID.Request.Redeem

/-!
# The transaction helper

`AnyConn::transaction` brackets a closure with `BEGIN` and `COMMIT`, or `ROLLBACK` when the
closure returns an error. Any statement can fail, and the closure may go on after one that did.
The two backends differ in what a failure leaves behind: on SQLite a statement that fails
undoes itself and a `COMMIT` that fails leaves the transaction open; on Postgres a statement
that fails aborts the transaction, and a `COMMIT` of an aborted transaction is reported as a
success and rolls back. `transaction_contract_iff` says on which patterns of failures a result
tells what has become durable and the connection can be used again.
-/

namespace SauronID.Request

/-! ## A connection -/

/-- An open transaction: what is read through it, unless a failure has aborted it. -/
inductive Txn (D : Type) where
  | running (view : D)
  | aborted

/-- What is committed, the transaction that is open on the connection, and how many statements
have been executed. -/
structure Conn (D : Type) where
  data : D
  txn : Option (Txn D)
  executed : ℕ

/-- A backend: what a statement returns and does to the data, and the error that the
environment makes the `n`-th statement end in, if it does. -/
structure Driver (S R D : Type) where
  backend : Backend
  apply : S → D → Except String (R × D)
  fate : ℕ → Option String

/-- What a closure does: it executes statements, learns of each what it returned, and in the
end returns itself. -/
inductive Closure (S R α : Type) where
  | ret (r : Except String α)
  | exec (s : S) (next : Except String R → Closure S R α)

variable {S R D α : Type}

def Conn.counted (c : Conn D) : Conn D := { c with executed := c.executed + 1 }

@[simp] theorem Conn.counted_data (c : Conn D) : c.counted.data = c.data := rfl

@[simp] theorem Conn.counted_txn (c : Conn D) : c.counted.txn = c.txn := rfl

def abortedText : String :=
  "current transaction is aborted, commands ignored until end of transaction block"

namespace Driver

variable (db : Driver S R D)

/-- After a statement that failed. -/
def refused (c : Conn D) : Conn D :=
  match db.backend with
  | .sqlite => c.counted
  | .postgres => { c.counted with txn := c.txn.map fun _ => .aborted }

/-- `AnyConn::execute` of a statement on the data; without a transaction it commits itself. -/
def execute (s : S) (c : Conn D) : Except String R × Conn D :=
  match db.fate c.executed with
  | some e => (.error e, db.refused c)
  | none =>
    match c.txn with
    | some .aborted => (.error abortedText, db.refused c)
    | some (.running view) =>
      match db.apply s view with
      | .error e => (.error e, db.refused c)
      | .ok (r, view') => (.ok r, { c.counted with txn := some (.running view') })
    | none =>
      match db.apply s c.data with
      | .error e => (.error e, db.refused c)
      | .ok (r, data) => (.ok r, { c.counted with data := data })

/-- `BEGIN IMMEDIATE TRANSACTION`, a plain `BEGIN` on Postgres. -/
def begin (c : Conn D) : Except String Unit × Conn D :=
  match db.fate c.executed with
  | some e => (.error e, db.refused c)
  | none =>
    match c.txn, db.backend with
    | none, _ => (.ok (), { c.counted with txn := some (.running c.data) })
    | some _, .sqlite =>
      (.error "cannot start a transaction within a transaction", db.refused c)
    | some (.running _), .postgres => (.ok (), c.counted)
    | some .aborted, .postgres => (.error abortedText, db.refused c)

/-- `COMMIT`. One that fails on SQLite leaves the transaction open, on Postgres it has ended. -/
def commit (c : Conn D) : Except String Unit × Conn D :=
  match db.fate c.executed, db.backend with
  | some e, .sqlite => (.error e, c.counted)
  | some e, .postgres => (.error e, { c.counted with txn := none })
  | none, _ =>
    match c.txn, db.backend with
    | some (.running view), _ => (.ok (), { c.counted with data := view, txn := none })
    | some .aborted, _ | none, .postgres => (.ok (), { c.counted with txn := none })
    | none, .sqlite => (.error "cannot commit - no transaction is active", c.counted)

/-- `ROLLBACK`. One that fails leaves the transaction open. -/
def rollback (c : Conn D) : Except String Unit × Conn D :=
  match db.fate c.executed with
  | some e => (.error e, db.refused c)
  | none =>
    match c.txn, db.backend with
    | none, .sqlite => (.error "cannot rollback - no transaction is active", c.counted)
    | _, _ => (.ok (), { c.counted with txn := none })

/-- A run of a closure. -/
def run : Closure S R α → Conn D → Except String α × Conn D
  | .ret r, c => (r, c)
  | .exec s next, c => run (next (db.execute s c).1) (db.execute s c).2

/-- `AnyConn::transaction` -/
def transaction (f : Closure S R α) (c : Conn D) : Except String α × Conn D :=
  match db.begin c with
  | (.error e, c₁) => (.error s!"begin: {e}", c₁)
  | (.ok _, c₁) =>
    match db.run f c₁ with
    | (.ok v, c₂) =>
      match db.commit c₂ with
      | (.error e, c₃) => (.error s!"commit: {e}", c₃)
      | (.ok _, c₃) => (.ok v, c₃)
    | (.error e, c₂) => (.error e, (db.rollback c₂).2)

/-! ## What a closure has done -/

/-- The statements of a run that were executed successfully, in order. -/
def succeeded : Closure S R α → Conn D → List S
  | .ret _, _ => []
  | .exec s next, c =>
    (if (db.execute s c).1.isOk then [s] else []) ++
      succeeded (next (db.execute s c).1) (db.execute s c).2

/-- A statement of the run has failed. -/
def fails : Closure S R α → Conn D → Bool
  | .ret _, _ => false
  | .exec s next, c =>
    !(db.execute s c).1.isOk || fails (next (db.execute s c).1) (db.execute s c).2

/-- The data with the effects of statements. -/
def replay : List S → D → D
  | [], d => d
  | s :: ops, d =>
    match db.apply s d with
    | .ok (_, d') => replay ops d'
    | .error _ => replay ops d

variable {db} {c : Conn D} {s : S} {f : Closure S R α}

@[simp] theorem refused_data : (db.refused c).data = c.data := by
  unfold refused
  split <;> rfl

variable {view : D}

variable (db s) in
theorem execute_running (h : c.txn = some (.running view)) :
    (∃ r view', db.apply s view = .ok (r, view') ∧
        db.execute s c = (.ok r, { c.counted with txn := some (.running view') })) ∨
      ∃ e, db.execute s c = (.error e, db.refused c) := by
  cases hfate : db.fate c.executed with
  | some e => exact .inr ⟨e, by simp [execute, hfate]⟩
  | none =>
    cases happly : db.apply s view with
    | error e => exact .inr ⟨e, by simp [execute, hfate, h, happly]⟩
    | ok x => exact .inl ⟨x.1, x.2, rfl, by simp [execute, hfate, h, happly]⟩

variable (db s) in
theorem execute_aborted (h : c.txn = some .aborted) :
    ∃ e, db.execute s c = (.error e, db.refused c) := by
  cases hfate : db.fate c.executed with
  | some e => exact ⟨e, by simp [execute, hfate]⟩
  | none => exact ⟨abortedText, by simp [execute, hfate, h]⟩

variable (db) in
theorem refused_aborted (h : c.txn = some .aborted) : (db.refused c).txn = some .aborted := by
  unfold refused
  split
  · exact h
  · rw [h]
    rfl

variable (db f) in
/-- In an aborted transaction nothing succeeds. -/
theorem run_aborted (h : c.txn = some .aborted) :
    (db.run f c).2.data = c.data ∧ (db.run f c).2.txn = some .aborted ∧ db.succeeded f c = [] := by
  induction f generalizing c with
  | ret r => exact ⟨rfl, h, rfl⟩
  | exec s next ih =>
    obtain ⟨e, he⟩ := db.execute_aborted s h
    have hnext := ih (.error e) (db.refused_aborted h)
    simpa [run, succeeded, he, Except.isOk, Except.toBool] using hnext

variable (db f) in
/-- Until a statement fails on Postgres, the transaction has the effects of the statements that
succeeded. -/
theorem run_running (h : c.txn = some (.running view)) : (db.run f c).2.data = c.data ∧
      ((db.backend = .postgres ∧ db.fails f c = true ∧ (db.run f c).2.txn = some .aborted) ∨
        ((db.backend = .postgres → db.fails f c = false) ∧
          (db.run f c).2.txn = some (.running (db.replay (db.succeeded f c) view)))) := by
  induction f generalizing c view with
  | ret r => simp [run, fails, succeeded, replay, h]
  | exec s next ih =>
    rcases db.execute_running s h with ⟨r, view', happly, hok⟩ | ⟨e, he⟩
    · have hnext := ih (.ok r) (c := { c.counted with txn := some (.running view') }) rfl
      simpa [run, fails, succeeded, replay, hok, happly, Except.isOk, Except.toBool] using hnext
    · cases hbackend : db.backend with
      | sqlite =>
        have hc : db.refused c = c.counted := by simp [refused, hbackend]
        have hnext := ih (.error e) (c := c.counted) h
        simpa [run, fails, succeeded, he, hc, hbackend, Except.isOk, Except.toBool] using hnext
      | postgres =>
        have hc : (db.refused c).txn = some .aborted := by simp [refused, hbackend, h]
        obtain ⟨hdata, htxn, -⟩ := db.run_aborted (next (.error e)) hc
        simp [run, fails, he, hdata, htxn, Except.isOk, Except.toBool]

variable {c₁ : Conn D} {e : String}

theorem transaction_of_begin (h : db.begin c = (.error e, c₁)) :
    db.transaction f c = (.error s!"begin: {e}", c₁) := by
  rw [transaction, h]

variable {c₂ : Conn D}

theorem transaction_of_ok {c₃ : Conn D} {v : α} {r : Except String Unit}
    (hbegin : db.begin c = (.ok (), c₁)) (hrun : db.run f c₁ = (.ok v, c₂))
    (hcommit : db.commit c₂ = (r, c₃)) :
    db.transaction f c = ((r.mapError fun e => s!"commit: {e}").map fun _ => v, c₃) := by
  rw [transaction, hbegin]
  dsimp only
  rw [hrun]
  dsimp only
  rw [hcommit]
  cases r <;> rfl

theorem transaction_of_error (hbegin : db.begin c = (.ok (), c₁))
    (hrun : db.run f c₁ = (.error e, c₂)) :
    db.transaction f c = (.error e, (db.rollback c₂).2) := by
  rw [transaction, hbegin]
  dsimp only
  rw [hrun]

end Driver

/-! ## The contract -/

/-- A success makes durable what the statements of the closure did that succeeded, an error
makes nothing durable, and the connection is left without an open transaction. -/
structure Contract (db : Driver S R D) (f : Closure S R α) (c : Conn D) : Prop where
  durable : ∀ v, (db.transaction f c).1 = .ok v →
    (db.transaction f c).2.data = db.replay (db.succeeded f (db.begin c).2) c.data
  undone : ∀ e, (db.transaction f c).1 = .error e → (db.transaction f c).2.data = c.data
  closed : (db.transaction f c).2.txn = none

theorem contract_iff {db : Driver S R D} {f : Closure S R α} {c c' : Conn D}
    {r : Except String α} (h : db.transaction f c = (r, c')) : Contract db f c ↔
      (∀ v, r = .ok v → c'.data = db.replay (db.succeeded f (db.begin c).2) c.data) ∧
        (∀ e, r = .error e → c'.data = c.data) ∧ c'.txn = none := by
  constructor
  · rintro ⟨hdurable, hundone, hclosed⟩
    rw [h] at hdurable hundone hclosed
    exact ⟨hdurable, hundone, hclosed⟩
  · rintro ⟨hdurable, hundone, hclosed⟩
    refine ⟨?_, ?_, ?_⟩ <;> rw [h]
    · exact hdurable
    · exact hundone
    · exact hclosed

/-- **Transaction helper.** For every closure and every pattern of failures, on a connection
without an open transaction: the contract is kept exactly if, once `BEGIN` has succeeded, a
`COMMIT` does not fail on SQLite, no statement of a closure that returns a success has failed on
Postgres unless the others had no effect or the `COMMIT` fails too, and a `ROLLBACK` does not
fail. -/
theorem transaction_contract_iff (db : Driver S R D) (f : Closure S R α) (data : D) (n : ℕ) :
    Contract db f ⟨data, none, n⟩ ↔ (db.fate n = none →
      let c₁ : Conn D := ⟨data, some (.running data), n + 1⟩
      let c₂ := (db.run f c₁).2
      ((db.run f c₁).1.isOk = true → db.fate c₂.executed ≠ none → db.backend = .postgres) ∧
      ((db.run f c₁).1.isOk = true → db.fate c₂.executed = none → db.backend = .postgres →
        db.fails f c₁ = true → db.replay (db.succeeded f c₁) data = data) ∧
      ((db.run f c₁).1.isOk = false → db.fate c₂.executed = none)) := by
  cases hfate : db.fate n with
  | some e =>
    have hbegin : db.begin ⟨data, none, n⟩ = (.error e, db.refused ⟨data, none, n⟩) := by
      simp [Driver.begin, hfate]
    have htxn : (db.refused ⟨data, none, n⟩).txn = none := by
      unfold Driver.refused
      split <;> rfl
    rw [contract_iff (Driver.transaction_of_begin hbegin)]
    simp [htxn]
  | none =>
    have hbegin : db.begin ⟨data, none, n⟩ = (.ok (), ⟨data, some (.running data), n + 1⟩) := by
      simp [Driver.begin, hfate, Conn.counted]
    obtain ⟨hdata, htxn⟩ := db.run_running f
      (c := ⟨data, some (.running data), n + 1⟩) rfl
    rcases hrun : db.run f ⟨data, some (.running data), n + 1⟩ with ⟨r, c₂⟩
    rw [hrun] at hdata htxn
    dsimp only at hdata htxn
    cases r with
    | ok v =>
      cases hcommit : db.fate c₂.executed with
      | some e =>
        cases hbackend : db.backend with
        | sqlite =>
          have hleft : db.commit c₂ = (.error e, c₂.counted) := by
            simp [Driver.commit, hcommit, hbackend]
          rw [contract_iff (Driver.transaction_of_ok hbegin hrun hleft)]
          rcases htxn with ⟨hpg, -⟩ | ⟨-, hopen⟩
          · cases hbackend.symm.trans hpg
          · simp [hrun, hopen, hcommit, Except.isOk, Except.toBool]
        | postgres =>
          have hended : db.commit c₂ = (.error e, { c₂.counted with txn := none }) := by
            simp [Driver.commit, hcommit, hbackend]
          rw [contract_iff (Driver.transaction_of_ok hbegin hrun hended)]
          simp [hrun, hdata, hcommit, Except.isOk, Except.toBool, Except.mapError, Except.map]
      | none =>
        rcases htxn with ⟨hpg, hfails, haborted⟩ | ⟨hworked, hopen⟩
        · have hrolled : db.commit c₂ = (.ok (), { c₂.counted with txn := none }) := by
            simp [Driver.commit, hcommit, haborted]
          rw [contract_iff (Driver.transaction_of_ok hbegin hrun hrolled)]
          simp [hrun, hdata, hcommit, hpg, hfails, hbegin, Except.isOk, Except.toBool,
            Except.mapError, Except.map, eq_comm]
        · have hdone : db.commit c₂ = (.ok (), { c₂.counted with
              data := db.replay (db.succeeded f ⟨data, some (.running data), n + 1⟩) data
              txn := none }) := by
            simp only [Driver.commit, hcommit, hopen]
          rw [contract_iff (Driver.transaction_of_ok hbegin hrun hdone)]
          simp +contextual [hrun, hcommit, hworked, hbegin, Except.isOk, Except.toBool,
            Except.mapError, Except.map]
    | error e =>
      rw [contract_iff (Driver.transaction_of_error hbegin hrun)]
      cases hrollback : db.fate c₂.executed with
      | some e' =>
        have hopen : (db.rollback c₂).2.txn ≠ none := by
          simp only [Driver.rollback, hrollback, Driver.refused]
          rcases htxn with ⟨-, -, h⟩ | ⟨-, h⟩ <;> split <;> simp [h]
        simp [hrun, hopen, hrollback, Except.isOk, Except.toBool]
      | none =>
        have hclosed : (db.rollback c₂).2 = { c₂.counted with txn := none } := by
          rcases htxn with ⟨-, -, h⟩ | ⟨-, h⟩ <;> simp [Driver.rollback, hrollback, h]
        simp [hrun, hclosed, hdata, hrollback, Except.isOk, Except.toBool]

/-! ## A table of numbers -/

/-- A statement inserts a number, which must be new. -/
def numbersDb (backend : Backend) (fate : ℕ → Option String) : Driver ℕ Unit (List ℕ) where
  backend := backend
  apply n rows := if n ∈ rows then .error "duplicate key" else .ok ((), rows ++ [n])
  fate := fate

/-- The closure inserts the numbers and does not look at what the statements return. -/
def insertAll : List ℕ → Closure ℕ Unit Unit
  | [] => .ret (.ok ())
  | n :: ns => .exec n fun _ => insertAll ns

/-- A `COMMIT` fails on SQLite: the transaction stays open, and the next one cannot begin. On
Postgres an insertion fails that the closure does not look at: the helper reports a success, and
the other insertion is lost. -/
theorem transaction_contract_broken :
    (∃ c, ((numbersDb .sqlite fun n => if n = 2 then some "disk I/O error" else none).transaction
        (insertAll [1]) ⟨[], none, 0⟩) = (.error "commit: disk I/O error", c) ∧ c.txn ≠ none ∧
      ((numbersDb .sqlite fun n => if n = 2 then some "disk I/O error" else none).begin c).1 =
        .error "cannot start a transaction within a transaction") ∧
    ∃ c, (numbersDb .postgres fun _ => none).transaction (insertAll [1, 1]) ⟨[], none, 0⟩ =
        (.ok (), c) ∧
      c.data = [] ∧ (numbersDb .postgres fun _ => none).succeeded (insertAll [1, 1])
        ⟨[], some (.running []), 1⟩ = [1] :=
  ⟨⟨_, rfl, Option.some_ne_none _, rfl⟩, _, rfl, rfl, rfl⟩

/-- Without failures two numbers are inserted. -/
theorem two_numbers_durable : Contract (numbersDb .postgres fun _ => none) (insertAll [1, 2])
    ⟨[], none, 0⟩ :=
  (transaction_contract_iff _ _ _ _).2 (by decide)

end SauronID.Request
