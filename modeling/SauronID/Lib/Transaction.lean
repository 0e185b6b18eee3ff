import SauronID.Lib.Trace

/-!
# Transactions whose statements can fail

A database that is used through transactions. The statements of a transaction are its own
until it commits; a commit replays them on the committed data, which is what a single writer
sees and what serializable isolation promises. Any statement can fail. How the end of a
transaction fails makes a difference: the transaction may be undone, it may stay open, or it
may have taken effect although an error is reported.

A connection is lent to one program at a time. One that is given back with its transaction
still open keeps it: whoever borrows it next reads the data through that transaction.

* `Sql.after`, `Sql.answer`: what a statement does, and what it reports.
* `Sql.rules`: programs that commit complete transactions only.
* `Sql.invariant`: what every complete transaction keeps holds throughout a run in which no
  transaction stays open and no commit that is reported as failed has taken effect.
-/

namespace SauronID.Conc

/-- What the database reports when a statement fails. -/
structure SqlError where
  code : Option String
  text : String
  deriving DecidableEq, Repr

/-- What has become of a transaction after a statement of it failed. -/
inductive Aftermath where
  | undone
  | left
  | done
  deriving DecidableEq, Repr

/-- What the environment has in store for a statement. -/
inductive Fate where
  | works
  | fails (e : SqlError) (after : Aftermath)
  deriving DecidableEq, Repr

/-- What becomes of a transaction at a statement that does not succeed. -/
def Fate.aftermath : Fate → Aftermath
  | works => .undone
  | fails _ after => after

/-- The statements of programs on a database. Those of a transaction say on which connection
it runs, if it is one of the pool, and which statements it has executed so far. -/
inductive Stmt (S : Type) where
  | acquire
  | giveBack (conn : ℕ)
  | begin (conn : Option ℕ)
  | configure
  | exec (conn : Option ℕ) (ops : List S) (s : S)
  | commit (conn : Option ℕ) (ops : List S)
  | rollback (conn : Option ℕ) (ops : List S)
  | query (conn : Option ℕ)

/-- The state of a database. -/
structure Store (S D : Type) where
  /-- What is committed. -/
  data : D
  /-- The transactions that are open on connections nobody is working on. -/
  opened : List (ℕ × List S)
  /-- The connection that holds the lock of the writer. -/
  writer : Option ℕ
  /-- The connections that are lent. -/
  held : List ℕ
  /-- How many statements have been executed. -/
  executed : ℕ

instance {S D : Type} : Clocked (Store S D) where
  advance _ w := w

/-- A database: what a statement does to the data, what happens to the `n`-th statement that
is executed, and which connection the pool would lend then. -/
structure Sql (S D : Type) where
  apply : S → D → Except SqlError D
  fate : ℕ → Fate
  pick : ℕ → ℕ

/-- Programs on a database. -/
abbrev SqlProg (S D ε α : Type) := Prog (Stmt S) (Store S D) ε α

variable {S D ε α : Type}

/-- The connection gives up the lock of the writer, if it has it. -/
def Store.release (w : Store S D) (conn : Option ℕ) : Store S D :=
  { w with writer := if w.writer = conn then none else w.writer }

@[simp] theorem Store.release_data (w : Store S D) (conn : Option ℕ) :
    (w.release conn).data = w.data := rfl

@[simp] theorem Store.release_opened (w : Store S D) (conn : Option ℕ) :
    (w.release conn).opened = w.opened := rfl

namespace Sql

variable (db : Sql S D)

/-! ## Statements -/

/-- The statements of a transaction, one after the other. -/
def replay : List S → D → Except SqlError D
  | [], d => .ok d
  | s :: ops, d => db.apply s d >>= replay ops

/-- The data with a transaction in effect. -/
def outcome (ops : List S) (d : D) : D :=
  match db.replay ops d with
  | .ok d' => d'
  | .error _ => d

/-- What a statement reports unless the environment makes it fail. -/
def verdict (w : Store S D) : Stmt S → Except SqlError Unit
  | .acquire =>
    if db.pick w.executed ∈ w.held then .error ⟨none, "timed out waiting for connection"⟩
    else .ok ()
  | .begin (some c) =>
    if w.opened.any fun p => p.1 == c then
      .error ⟨none, "cannot start a transaction within a transaction"⟩
    else if w.writer.isSome then .error ⟨none, "database is locked"⟩
    else .ok ()
  | .exec _ ops s => (db.replay (ops ++ [s]) w.data).map fun _ => ()
  | .commit _ ops =>
    match db.replay ops w.data with
    | .ok _ => .ok ()
    | .error _ => .error ⟨some "40001", "could not serialize access"⟩
  | .giveBack _ | .begin none | .configure | .rollback .. | .query _ => .ok ()

/-- What a statement reports. -/
def answer (lbl : Stmt S) (w : Store S D) : Except SqlError Unit :=
  match db.fate w.executed with
  | .works => db.verdict w lbl
  | .fails e _ => .error e

/-- The effect of a statement that succeeds. -/
def succeed (w : Store S D) : Stmt S → Store S D
  | .acquire => { w with held := db.pick w.executed :: w.held }
  | .giveBack c => { w with held := w.held.erase c }
  | .begin (some c) => { w with writer := some c }
  | .commit conn ops => { w.release conn with data := db.outcome ops w.data }
  | .rollback conn _ => w.release conn
  | .begin none | .configure | .exec .. | .query _ => w

/-- The effect of a statement that fails. A transaction that is not on a connection of the
pool is rolled back when it is dropped. -/
def failed (w : Store S D) : Aftermath → Stmt S → Store S D
  | .undone, .commit conn _ | .undone, .exec conn .. => w.release conn
  | .done, .commit conn ops => { w.release conn with data := db.outcome ops w.data }
  | .left, .commit (some c) ops | .left, .rollback (some c) ops =>
    { w with opened := (c, ops) :: w.opened }
  | _, .rollback conn _ => w.release conn
  | _, .giveBack c => { w with held := w.held.erase c }
  | _, _ => w

/-- The effect of a statement. -/
def after (lbl : Stmt S) (w : Store S D) : Store S D :=
  let w' := match db.answer lbl w with
    | .ok _ => db.succeed w lbl
    | .error _ => db.failed w (db.fate w.executed).aftermath lbl
  { w' with executed := w.executed + 1 }

/-- The data as seen through a connection. -/
def view (w : Store S D) : Option ℕ → D
  | none => w.data
  | some c =>
    match w.opened.find? fun p => p.1 == c with
    | some p => db.outcome p.2 w.data
    | none => w.data

/-! ## Programs -/

/-- One statement. -/
def statement (lbl : Stmt S) : SqlProg S D SqlError Unit :=
  .step lbl (db.after lbl) fun w => .ofExcept (db.answer lbl w)

/-- A query over a connection. -/
def select (conn : Option ℕ) (f : D → α) : SqlProg S D SqlError α :=
  .step (.query conn) (db.after (.query conn)) fun w =>
    .ofExcept ((db.answer (.query conn) w).map fun _ => f (db.view w conn))

/-- A program that borrows a connection of the pool and gives it back however it ends. -/
def withConnection (onError : SqlError → ε) (body : ℕ → SqlProg S D ε α) : SqlProg S D ε α :=
  .step .acquire (db.after .acquire) fun w =>
    match db.answer .acquire w with
    | .error e => .fail (onError e)
    | .ok _ => do
      let r ← (body (db.pick w.executed)).attempt
      let _ ← (db.statement (.giveBack (db.pick w.executed))).attempt
      .ofExcept r

/-- The statements of a transaction, each with what its failure is reported as. The result,
and the error, tell which statements have been executed. -/
def execAll (conn : Option ℕ) (ops : List S) :
    List (S × (SqlError → ε)) → SqlProg S D (ε × List S) (List S)
  | [] => pure ops
  | (s, onError) :: rest => do
    (db.statement (.exec conn ops s)).mapErr fun e => (onError e, ops)
    execAll conn (ops ++ [s]) rest

/-! ## What a statement does to the data -/

/-- The statement ends a transaction, and reports that the transaction has taken effect. -/
def Commits (lbl : Stmt S) (w : Store S D) : Prop :=
  ∃ conn ops, lbl = .commit conn ops ∧ db.answer lbl w = .ok ()

/-- The end of a transaction leaves nothing behind: the transaction does not stay open on a
connection of the pool, and it has no effect if an error is reported. -/
def Clean (e : Entry (Stmt S) (Store S D)) : Prop :=
  match e.label with
  | .commit conn _ => (db.fate e.before.executed).aftermath ≠ .done ∧
      (conn = none ∨ (db.fate e.before.executed).aftermath ≠ .left)
  | .rollback conn _ => conn = none ∨ (db.fate e.before.executed).aftermath ≠ .left
  | _ => True

instance decidableClean : ∀ e, Decidable (db.Clean e)
  | ⟨_, .commit .., _⟩ => inferInstanceAs (Decidable (_ ∧ _))
  | ⟨_, .rollback .., _⟩ => inferInstanceAs (Decidable (_ ∨ _))
  | ⟨_, .acquire, _⟩ | ⟨_, .giveBack _, _⟩ | ⟨_, .begin _, _⟩ | ⟨_, .configure, _⟩
  | ⟨_, .exec .., _⟩ | ⟨_, .query _, _⟩ => .isTrue trivial

section Effects

variable {db} {i : ℕ} {lbl : Stmt S} {w : Store S D}

theorem answer_eq_ok : db.answer lbl w = .ok () ↔
    db.fate w.executed = .works ∧ db.verdict w lbl = .ok () := by
  unfold answer
  cases db.fate w.executed <;> simp

/-- A commit that succeeds replays the statements of its transaction. -/
theorem Commits.replay {conn : Option ℕ} {ops : List S} (h : db.Commits (.commit conn ops) w) :
    db.replay ops w.data = .ok (db.after (.commit conn ops) w).data := by
  obtain ⟨_, _, -, hok⟩ := h
  have hverdict := (answer_eq_ok.1 hok).2
  simp only [verdict] at hverdict
  cases hreplay : db.replay ops w.data with
  | error e => simp [hreplay] at hverdict
  | ok d => simp [after, hok, succeed, outcome, hreplay]

/-- Only a commit that succeeds changes the data. -/
theorem data_after (hclean : db.Clean ⟨i, lbl, w⟩) (h : ¬db.Commits lbl w) :
    (db.after lbl w).data = w.data := by
  cases hans : db.answer lbl w with
  | ok u =>
    cases lbl with
    | commit conn ops => exact absurd ⟨conn, ops, rfl, hans⟩ h
    | begin conn => cases conn <;> simp [after, hans, succeed]
    | _ => simp [after, hans, succeed]
  | error e =>
    cases lbl with
    | commit conn ops =>
      obtain ⟨hdone, -⟩ := hclean
      cases hafter : (db.fate w.executed).aftermath with
      | undone => simp [after, hans, failed, hafter]
      | done => exact absurd hafter hdone
      | left => cases conn <;> simp [after, hans, failed, hafter]
    | rollback conn ops =>
      cases hafter : (db.fate w.executed).aftermath <;> cases conn <;>
        simp [after, hans, failed, hafter]
    | _ => cases hafter : (db.fate w.executed).aftermath <;> simp [after, hans, failed, hafter]

/-- No transaction stays open. -/
theorem opened_after (hclean : db.Clean ⟨i, lbl, w⟩) : (db.after lbl w).opened = w.opened := by
  cases hans : db.answer lbl w with
  | ok u =>
    cases lbl with
    | begin conn => cases conn <;> simp [after, hans, succeed]
    | _ => simp [after, hans, succeed]
  | error e =>
    have hleft : ∀ conn : Option ℕ, conn = none ∨ (db.fate w.executed).aftermath ≠ .left →
        (db.fate w.executed).aftermath = .left → conn = none := by
      intro conn h hafter
      exact h.resolve_right (not_not.2 hafter)
    cases hafter : (db.fate w.executed).aftermath <;> cases lbl
    case left.commit conn ops =>
      cases hleft conn hclean.2 hafter
      simp [after, hans, failed, hafter]
    case left.rollback conn ops =>
      cases hleft conn hclean hafter
      simp [after, hans, failed, hafter]
    all_goals simp [after, hans, failed, hafter]

/-- Nothing is open, so every connection sees what is committed. -/
theorem view_of_opened (h : w.opened = []) (conn : Option ℕ) : db.view w conn = w.data := by
  cases conn <;> simp [view, h]

end Effects

/-! ## Runs -/

/-- Programs on the database, which commit complete transactions only. -/
def rules (complete : List S → Prop) : Rules (Stmt S) (Store S D) where
  effect lbl w w' := w' = db.after lbl w
  may _ lbl _ := ∀ conn ops, lbl = .commit conn ops → complete ops

variable {db}

/-- **What every complete transaction keeps holds throughout.** -/
theorem invariant {complete : ℕ → List S → Prop} {Inv : D → Prop}
    (hInv : ∀ i ops d d', complete i ops → Inv d → db.replay ops d = .ok d' → Inv d') :
    TraceInvariant (fun i => db.rules (complete i)) (fun e _ => db.Clean e)
      fun w _ => w.opened = [] ∧ Inv w.data where
  tick _ h := h
  step := by
    rintro w log i lbl w' ⟨hopened, hdata⟩ hclean heff hmay
    cases heff
    refine ⟨(opened_after hclean).trans hopened, ?_⟩
    by_cases hcommits : db.Commits lbl w
    · obtain ⟨conn, ops, rfl, -⟩ := id hcommits
      exact hInv i ops _ _ (hmay conn ops rfl) hdata hcommits.replay
    · rw [data_after hclean hcommits]
      exact hdata

/-- Nothing has been committed. -/
def Quiet (db : Sql S D) (t : Trace (Stmt S) (Store S D)) : Prop :=
  ∀ x ∈ t, ¬db.Commits x.1 x.2

section Quiet

variable {complete : List S → Prop} {t : Trace (Stmt S) (Store S D)} {lbl : Stmt S}
  {w : Store S D}

theorem quiet_nil : db.Quiet [] := by
  intro x hx
  cases hx

theorem Quiet.cons (ht : db.Quiet t) (h : ¬db.Commits lbl w) : db.Quiet ((lbl, w) :: t) := by
  intro x hx
  rcases List.mem_cons.1 hx with rfl | hx
  · exact h
  · exact ht x hx

theorem Quiet.of_ne (ht : db.Quiet t) (h : ∀ conn ops, lbl ≠ .commit conn ops) :
    db.Quiet ((lbl, w) :: t) :=
  ht.cons fun ⟨conn, ops, hlbl, _⟩ => h conn ops hlbl

/-- A commit that is reported as failed. -/
theorem Quiet.of_error {e : SqlError} (ht : db.Quiet t) (h : db.answer lbl w = .error e) :
    db.Quiet ((lbl, w) :: t) :=
  ht.cons fun ⟨_, _, _, hok⟩ => by rw [h] at hok; cases hok

theorem follows_statement {Q : Trace (Stmt S) (Store S D) → Except SqlError Unit → Prop}
    (hmay : ∀ conn ops, lbl = .commit conn ops → complete ops)
    (h : ∀ w, Q ((lbl, w) :: t) (db.answer lbl w)) :
    (db.statement lbl).Follows (db.rules complete).Step t Q :=
  Prog.follows_step.2 fun w => ⟨_, ⟨rfl, hmay, rfl⟩, Prog.follows_done.2 (h w)⟩

variable {conn : Option ℕ}

theorem follows_select {f : D → α}
    {Q : Trace (Stmt S) (Store S D) → Except SqlError α → Prop} (h : ∀ w, Q ((.query conn, w) :: t)
      ((db.answer (.query conn) w).map fun _ => f (db.view w conn))) :
    (db.select conn f).Follows (db.rules complete).Step t Q :=
  Prog.follows_step.2 fun w => ⟨_, ⟨rfl, nofun, rfl⟩, Prog.follows_done.2 (h w)⟩

variable {Q : Trace (Stmt S) (Store S D) → Except ε α → Prop}

/-- A statement whose outcome is not looked at. -/
theorem follows_ignored {lbl : Stmt S} {f : Except SqlError Unit → SqlProg S D ε α}
    (hne : ∀ conn ops, lbl ≠ .commit conn ops)
    (h : ∀ w r, (f r).Follows (db.rules complete).Step ((lbl, w) :: t) Q) :
    ((db.statement lbl).attempt >>= f).Follows (db.rules complete).Step t Q := by
  refine .bind (.attempt (follows_statement (fun conn ops hlbl => absurd hlbl (hne conn ops)) ?_))
  intro w
  exact h w _

/-- A connection is borrowed around the body and given back. -/
theorem follows_withConnection {onError : SqlError → ε} {body : ℕ → SqlProg S D ε α}
    (herr : ∀ w e, Q ((.acquire, w) :: t) (.error e))
    (hbody : ∀ w c, (body c).Follows (db.rules complete).Step ((.acquire, w) :: t) fun t' r =>
      ∀ w', Q ((.giveBack c, w') :: t') r) :
    (db.withConnection onError body).Follows (db.rules complete).Step t Q := by
  refine Prog.follows_step.2 fun w => ⟨_, ⟨rfl, (fun _ _ h => by cases h), rfl⟩, ?_⟩
  cases db.answer .acquire w with
  | error e => exact Prog.follows_fail.2 (herr w _)
  | ok u =>
    refine .bind (.attempt (Prog.Follows.mono (hbody w (db.pick w.executed)) ?_))
    intro t' r hr
    refine follows_ignored (fun _ _ h => by cases h) fun w' _ => ?_
    exact Prog.follows_done.2 (hr w')

/-- The statements of a transaction commit nothing, and if none fails they have all been
executed. -/
theorem follows_execAll {ops : List S} {body : List (S × (SqlError → ε))}
    (ht : db.Quiet t) : (db.execAll conn ops body).Follows (db.rules complete).Step t fun t' r =>
      db.Quiet t' ∧ ∀ ops', r = .ok ops' → ops' = ops ++ body.map Prod.fst := by
  induction body generalizing ops t with
  | nil => exact Prog.follows_pure.2 ⟨ht, by rintro _ ⟨⟩; simp⟩
  | cons head rest ih =>
    obtain ⟨s, onError⟩ := head
    refine .bind (.mapErr (follows_statement (fun _ _ h => by cases h) fun w => ?_))
    have ht' : db.Quiet ((.exec conn ops s, w) :: t) := ht.of_ne fun _ _ h => by cases h
    cases db.answer (.exec conn ops s) w with
    | error e => exact ⟨ht', by rintro _ ⟨⟩⟩
    | ok u => exact (ih ht').mono fun t' r hr => by simpa using hr

end Quiet

end Sql

end SauronID.Conc
