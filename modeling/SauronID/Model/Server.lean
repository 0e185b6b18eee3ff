import SauronID.Lib.Fallible
import SauronID.Lib.Pool
import SauronID.Model.Json
import SauronID.Model.Statements

/-!
# The server as a program over its world

`World` is what the requests share: the database, the clock, and the choices the
model leaves open, namely which of the coming statements fail, how ties of an
`ORDER BY … LIMIT 1` fall, what the external publishers will answer and how many
random identifiers have been drawn. A statement that fails leaves the database
as it was.

`Srv F ε α` is a piece of server code as a program on the world. Its primitives
are one database statement, one reading of the clock, one random draw, one
publication, and `judged`, which changes nothing and records in the log that a
bound policy was evaluated.
-/

namespace SauronID

open Conc Text

/-! ## Errors -/

/-- The HTTP errors of the handlers. -/
inductive AppError where
  | badRequest (message : String)
  | unauthorized (message : String)
  | notFound (message : String)
  | conflict (message : String)
  | serviceUnavailable (message : String)
  | internal (message : String)
  | detailed (status : ℕ) (code message : String)
  deriving DecidableEq, Repr

/-- `From<(StatusCode, String)>`: adopt a status and a message. -/
def AppError.ofStatus (status : ℕ) (message : String) : AppError :=
  match status with
  | 400 => .badRequest message
  | 401 => .unauthorized message
  | 404 => .notFound message
  | 409 => .conflict message
  | 503 => .serviceUnavailable message
  | 500 => .internal message
  | 403 => .detailed 403 "forbidden" message
  | 422 => .detailed 422 "unprocessable_entity" message
  | 429 => .detailed 429 "rate_limited" message
  | 413 => .detailed 413 "payload_too_large" message
  | other => .detailed other "error" message

/-- The error as `Display` prints it. -/
def AppError.display : AppError → String
  | .badRequest s => s!"bad request: {s}"
  | .unauthorized s => s!"unauthorized: {s}"
  | .notFound s => s!"not found: {s}"
  | .conflict s => s!"conflict: {s}"
  | .serviceUnavailable s => s!"service unavailable: {s}"
  | .internal s => s!"internal: {s}"
  | .detailed _ code message => s!"{code}: {message}"

/-! ## The world -/

/-- What comes of a publication: the publisher's receipt id with the provider or the
signature it reports, its error, or the failure of the task it ran in. -/
inductive Publication where
  | anchored (anchorId detail : String)
  | failed (error : String)
  | crashed (error : String)
  deriving DecidableEq, Repr

/-- What the requests share. -/
structure World (F : Type) where
  db : Db F
  clockMs : ℤ
  /-- For each statement to come: the error it fails with, if it fails. -/
  faults : List (Option String)
  /-- For each `ORDER BY … LIMIT 1` to come: which of the tied rows it returns. -/
  ties : List ℕ
  /-- For each publication to come: what comes of it. -/
  publications : List Publication
  /-- Random identifiers drawn so far. -/
  drawn : ℕ

/-- A world in which no statement fails. -/
def World.steady {F : Type} (db : Db F) (clockMs : ℤ) : World F := ⟨db, clockMs, [], [], [], 0⟩

variable {F : Type}

@[simp] theorem World.steady_db (db : Db F) (clockMs : ℤ) : (World.steady db clockMs).db = db := rfl

@[simp] theorem World.steady_faults (db : Db F) (clockMs : ℤ) :
    (World.steady db clockMs).faults = [] := rfl

/-- What the log records of a statement. -/
inductive Label (F : Type) where
  | select (q : Query)
  | write (w : Write F)
  | clock
  /-- The clock read to the millisecond. -/
  | clockMs
  | draw
  | publish (network : Network) (rootHex : String)
  | judged (tenant agentId policyId : String) (allowed : Bool)
  /-- A request that leaves the gateway. -/
  | forward (method url : String) (body : Option String)

/-- The statement marks a verdict. -/
def Label.isJudged {F : Type} : Label F → Bool
  | .judged .. => true
  | _ => false

namespace World

variable {F : Type}

def fault (s : World F) : Option String := s.faults.head?.join

/-- Whether the statement `k` places ahead fails. -/
def faultAt (s : World F) (k : ℕ) : Option String := (s.faults[k]?).join

def tie (s : World F) : ℕ := s.ties.headD 0

def nowSecs (s : World F) : ℤ := s.clockMs / 1000

/-- What comes of the next publication. -/
def publication (s : World F) : Publication := s.publications.headD (.failed "unreachable")

/-- A publisher stores its receipt under the default tenant. -/
def afterPublish (network : Network) (s : World F) : World F :=
  let rest : World F := { s with publications := s.publications.tail }
  match s.publication, network with
  | .anchored anchorId detail, .bitcoin =>
    { rest with db.btcAnchors := s.db.btcAnchors ++ [⟨anchorId, detail, false, "default"⟩] }
  | .anchored anchorId detail, .solana =>
    { rest with db.solAnchors := s.db.solAnchors ++ [⟨anchorId, 0, false, detail, "default"⟩] }
  | _, _ => rest

/-- The next statement's chance to fail is used up. -/
def spendFault (s : World F) : World F := { s with faults := s.faults.tail }

def spendTie (s : World F) : World F := { s.spendFault with ties := s.ties.tail }

/-- What a data-changing statement leaves: the changed database, or the old one if
the statement failed or violated a constraint. -/
def afterWrite [Float64 F] (s : World F) (w : Write F) : World F :=
  match s.fault, w.apply s.db with
  | none, .ok (db, _) => { s.spendFault with db := db }
  | _, _ => s.spendFault

/-- What a data-changing statement reports. -/
def writeResult [Float64 F] (s : World F) (w : Write F) : Except String ℕ :=
  match s.fault with
  | some e => .error e
  | none => (w.apply s.db).map Prod.snd

instance : Clocked (World F) where
  advance d s := { s with clockMs := s.clockMs + d }

section Lemmas

variable (s : World F)

@[simp] theorem spendFault_db : s.spendFault.db = s.db := rfl
@[simp] theorem spendFault_clockMs : s.spendFault.clockMs = s.clockMs := rfl
@[simp] theorem spendFault_nowSecs : s.spendFault.nowSecs = s.nowSecs := rfl
@[simp] theorem spendFault_drawn : s.spendFault.drawn = s.drawn := rfl
@[simp] theorem spendTie_db : s.spendTie.db = s.db := rfl
@[simp] theorem spendTie_clockMs : s.spendTie.clockMs = s.clockMs := rfl
@[simp] theorem spendTie_drawn : s.spendTie.drawn = s.drawn := rfl
@[simp] theorem advance_db (d : ℕ) : (Clocked.advance d s).db = s.db := rfl
@[simp] theorem advance_clockMs (d : ℕ) : (Clocked.advance d s).clockMs = s.clockMs + d := rfl
@[simp] theorem advance_drawn (d : ℕ) : (Clocked.advance d s).drawn = s.drawn := rfl

theorem fault_eq_faultAt : s.fault = s.faultAt 0 := by
  simp [fault, faultAt, List.head?_eq_getElem?]

@[simp] theorem spendFault_faultAt (k : ℕ) : s.spendFault.faultAt k = s.faultAt (k + 1) := by
  simp [spendFault, faultAt]

/-- No statement ahead fails. -/
def Reliable : Prop := ∀ k, s.faultAt k = none

variable {s} in
theorem Reliable.fault (h : s.Reliable) : s.fault = none := by
  rw [fault_eq_faultAt]
  exact h 0

variable {s} in
theorem Reliable.spendFault (h : s.Reliable) : s.spendFault.Reliable := fun k => by
  rw [spendFault_faultAt]
  exact h (k + 1)

variable {s} in
theorem Reliable.spendTie (h : s.Reliable) : s.spendTie.Reliable := h.spendFault

variable {s} in
theorem Reliable.of_nil (h : s.faults = []) : s.Reliable := fun k => by simp [faultAt, h]

theorem nowSecs_mono {s s' : World F} (h : s.clockMs ≤ s'.clockMs) : s.nowSecs ≤ s'.nowSecs :=
  Int.ediv_le_ediv (by decide) h

theorem nowSecs_le_advance (d : ℕ) : s.nowSecs ≤ (Clocked.advance d s).nowSecs := by
  simp only [nowSecs, advance_clockMs]
  omega

@[simp] theorem afterPublish_receipts (network : Network) :
    (s.afterPublish network).db.receipts = s.db.receipts := by
  unfold afterPublish
  split <;> rfl

@[simp] theorem afterPublish_anchors (network : Network) :
    (s.afterPublish network).db.anchors = s.db.anchors := by
  unfold afterPublish
  split <;> rfl

@[simp] theorem afterPublish_clockMs (network : Network) :
    (s.afterPublish network).clockMs = s.clockMs := by
  unfold afterPublish
  split <;> rfl

variable [Float64 F] (w : Write F)

@[simp] theorem afterWrite_clockMs : (s.afterWrite w).clockMs = s.clockMs := by
  unfold afterWrite
  split <;> rfl

@[simp] theorem afterWrite_drawn : (s.afterWrite w).drawn = s.drawn := by
  unfold afterWrite
  split <;> rfl

@[simp] theorem afterWrite_faults : (s.afterWrite w).faults = s.faults.tail := by
  unfold afterWrite
  split <;> rfl

@[simp] theorem afterWrite_nowSecs : (s.afterWrite w).nowSecs = s.nowSecs := by
  simp [nowSecs]

variable {s} in
theorem Reliable.afterWrite (h : s.Reliable) : (s.afterWrite w).Reliable := fun k => by
  have hk := h (k + 1)
  simpa [faultAt] using hk

variable {s w} {n : ℕ}

theorem afterWrite_of_ok {db : Db F} (hf : s.fault = none)
    (h : w.apply s.db = .ok (db, n)) : (s.afterWrite w).db = db := by
  simp [afterWrite, hf, h]

variable {e : String}

theorem afterWrite_of_error (h : w.apply s.db = .error e) : (s.afterWrite w).db = s.db := by
  unfold afterWrite
  split
  · next h' => rw [h] at h'; cases h'
  · rfl

theorem afterWrite_of_fault (h : s.fault = some e) : (s.afterWrite w).db = s.db := by
  unfold afterWrite
  split
  · next h' _ => rw [h] at h'; cases h'
  · rfl

/-- A statement either failed and left the database, or did what it says. -/
theorem afterWrite_cases (s : World F) (w : Write F) :
    (∃ e, s.writeResult w = .error e ∧ (s.afterWrite w).db = s.db) ∨
      ∃ db n, s.fault = none ∧ w.apply s.db = .ok (db, n) ∧ s.writeResult w = .ok n ∧
        (s.afterWrite w).db = db := by
  cases hf : s.fault with
  | some e => exact .inl ⟨e, by simp [writeResult, hf], afterWrite_of_fault hf⟩
  | none =>
    cases ha : w.apply s.db with
    | error e =>
      exact .inl ⟨e, by simp [writeResult, hf, ha, Except.map], afterWrite_of_error ha⟩
    | ok p =>
      obtain ⟨db, n⟩ := p
      exact .inr ⟨db, n, rfl, rfl, by simp [writeResult, hf, ha, Except.map],
        afterWrite_of_ok hf ha⟩

theorem afterWrite_of_failed {s : World F} {w : Write F}
    (h : s.writeResult w = .error e) : (s.afterWrite w).db = s.db := by
  rcases afterWrite_cases s w with ⟨_, -, hdb⟩ | ⟨_, _, -, -, hok, -⟩
  · exact hdb
  · rw [h] at hok
    cases hok

/-- An insertion that succeeds finds no row of the nonce and leaves one. -/
theorem insertNonce_ok {row : NonceRow} {s : World F}
    (h : s.writeResult (.insertNonce row) = .ok n) : (∀ r ∈ s.db.nonces, r.nonce ≠ row.nonce) ∧
      (s.afterWrite (.insertNonce row)).db.nonces = s.db.nonces ++ [row] := by
  rcases afterWrite_cases s (.insertNonce row) with ⟨e, herr, -⟩ | ⟨db, m, -, happly, -, hdb⟩
  · cases herr.symm.trans h
  simp only [Write.apply] at happly
  split at happly
  · cases happly
  · next hnew =>
    cases happly
    rw [hdb]
    exact ⟨by simpa using hnew, rfl⟩

/-- A statement that was executed has done what it says. -/
theorem apply_of_writeResult {s : World F} {w : Write F} (h : s.writeResult w = .ok n) :
    w.apply s.db = .ok ((s.afterWrite w).db, n) := by
  rcases afterWrite_cases s w with ⟨e, herr, -⟩ | ⟨db, m, -, happ, hok, hdb⟩
  · cases herr.symm.trans h
  · cases hok.symm.trans h
    rw [happ, hdb]

/-- **Frame.** A statement, failed or not, changes no table but its own. -/
theorem afterWrite_sameOff (s : World F) (w : Write F) :
    Db.SameOff w.table s.db (s.afterWrite w).db := by
  rcases afterWrite_cases s w with ⟨e, -, hdb⟩ | ⟨db, n, -, happ, -, hdb⟩
  · rw [hdb]
    exact .rfl _ _
  · rw [hdb]
    exact Write.apply_sameOff happ

end Lemmas

end World

/-- What the repository fails with: a row that is there already, or anything else. -/
inductive RepoError where
  | replay (message : String)
  | backend (message : String)
  deriving DecidableEq, Repr

def RepoError.display : RepoError → String
  | replay s | backend s => s

/-! ## Server code -/

/-- Server code with errors in `ε` and results in `α`. -/
abbrev Srv (F ε α : Type) := Prog (Label F) (World F) ε α

/-- A statement in the log of a run. -/
abbrev LogEntry (F : Type) := Entry (Label F) (World F)

/-- The log of a run, newest statement first. -/
abbrev RunLog (F : Type) := List (LogEntry F)

/-- The requests in the course of a run. -/
abbrev SrvConfig (F ε α : Type) := Config (Label F) (World F) ε α

/-- The numbers of the random identifiers that are drawn in the log. -/
def drawnIn (log : RunLog F) : Set ℕ := {k | ∃ e ∈ log, e.label = .draw ∧ e.before.drawn = k}

namespace Srv

variable {F ε α β L : Type}

/-- One `SELECT`. -/
def select (q : Query) (f : Db F → α) : Srv F String α :=
  .step (.select q) World.spendFault fun s =>
    match s.fault with
    | some e => .fail e
    | none => pure (f s.db)

/-- One `SELECT … ORDER BY … LIMIT 1` whose answer may depend on how ties fall. -/
def selectTop (q : Query) (f : Db F → ℕ → α) : Srv F String α :=
  .step (.select q) World.spendTie fun s =>
    match s.fault with
    | some e => .fail e
    | none => pure (f s.db s.tie)

/-- One data-changing statement; the result is the count it reports. -/
def execute [Float64 F] (w : Write F) : Srv F String ℕ :=
  .step (.write w) (fun s => s.afterWrite w) fun s => .ofExcept (s.writeResult w)

/-- `AnyConn::require`: one row, or the caller's error for a missing row and for a
failed query alike. -/
def require (q : Query) (f : Db F → Option α) (e : ε) : Srv F ε α := do
  match ← (select q f).attempt with
  | .ok (some a) => pure a
  | _ => .fail e

/-- `AnyConn::scalar_or`: one row, or the default when it is missing or the query
failed. -/
def scalarOr (q : Query) (f : Db F → Option α) (default : α) : Srv F ε α := do
  match ← (select q f).attempt with
  | .ok (some a) => pure a
  | _ => pure default

/-- The clock, in seconds since the epoch. -/
def nowSecs : Srv F ε ℤ := .atomic .clock id World.nowSecs

/-- The clock, in milliseconds since the epoch. -/
def nowMs : Srv F ε ℤ := .atomic .clockMs id World.clockMs

/-- A fresh random identifier out of the supply `rand`. -/
def random (rand : ℕ → String) : Srv F ε String :=
  .atomic .draw (fun s => { s with drawn := s.drawn + 1 }) fun s => rand s.drawn

/-- Publish a root. -/
def publish (network : Network) (rootHex : String) : Srv F ε Publication :=
  .atomic (.publish network rootHex) (World.afterPublish network) World.publication

/-- Record that the bound policy of an agent was evaluated. -/
def judged (tenant agentId policyId : String) (allowed : Bool) : Srv F ε Unit :=
  .atomic (.judged tenant agentId policyId allowed) id fun _ => ()

/-- Send a request out of the gateway; `answer` is what comes back. -/
def forward (method url : String) (body : Option String) (answer : Except ε α) : Srv F ε α :=
  .step (.forward method url body) id fun _ => .ofExcept answer

/-! ## The primitives run alone -/

theorem exec_select (q : Query) (f : Db F → α) (s : World F) : (select q f).exec s =
      (match s.fault with
        | some e => .error e
        | none => .ok (f s.db), s.spendFault) := by
  unfold select
  rw [Prog.exec_step]
  cases s.fault <;> rfl

variable {q : Query} {s : World F}

theorem brings_select {f : Db F → α} :
    (select q f).Brings s fun a s' => a = f s.db ∧ s'.db = s.db := by
  intro a s' h
  rw [exec_select] at h
  cases hf : s.fault with
  | some e =>
    rw [hf] at h
    cases h
  | none =>
    rw [hf] at h
    cases h
    exact ⟨rfl, rfl⟩

theorem exec_scalarOr (q : Query) (f : Db F → α) (d : α) (s : World F) :
    (scalarOr q (fun db => some (f db)) d : Srv F ε α).exec s =
      (.ok (if s.fault.isSome then d else f s.db), s.spendFault) := by
  unfold scalarOr
  rw [Prog.exec_bind, Prog.exec_attempt, exec_select]
  cases s.fault <;> rfl

theorem brings_require {f : Db F → Option α} {e : ε} :
    (require q f e).Brings s fun a _ => f s.db = some a := by
  intro a s' h
  unfold require at h
  rw [Prog.exec_bind, Prog.exec_attempt, exec_select] at h
  cases hf : s.fault with
  | some _ =>
    rw [hf] at h
    cases h
  | none =>
    rw [hf] at h
    dsimp only at h
    cases ha : f s.db with
    | none =>
      rw [ha] at h
      cases h
    | some b =>
      rw [ha] at h
      cases h
      rfl

/-- A statement that reports did what it says. -/
theorem brings_execute [Float64 F] {w : Write F} :
    (execute w).Brings s fun n s' => s.writeResult w = .ok n ∧ s' = s.afterWrite w := by
  intro n s' h
  obtain ⟨hres, rfl⟩ := Prod.mk.inj (show (s.writeResult w, s.afterWrite w) = (.ok n, s') from h)
  exact ⟨hres, rfl⟩

section Reliable

variable {s : World F} (h : s.Reliable)

include h

theorem exec_select_reliable (q : Query) (f : Db F → α) :
    (select q f).exec s = (.ok (f s.db), s.spendFault) := by
  rw [exec_select, h.fault]

theorem exec_selectTop_reliable (q : Query) (f : Db F → ℕ → α) :
    (selectTop q f).exec s = (.ok (f s.db s.tie), s.spendTie) := by
  unfold selectTop
  rw [Prog.exec_step, h.fault]
  rfl

theorem exec_scalarOr_reliable (q : Query) (f : Db F → Option α) (d : α) :
    (scalarOr q f d : Srv F ε α).exec s = (.ok ((f s.db).getD d), s.spendFault) := by
  unfold scalarOr
  rw [Prog.exec_bind, Prog.exec_attempt, exec_select_reliable h]
  dsimp only
  cases f s.db <;> rfl

theorem reaches_select (q : Query) (f : Db F → α) :
    (select q f).Reaches s fun a s' => a = f s.db ∧ s' = s.spendFault :=
  ⟨_, _, exec_select_reliable h q f, rfl, rfl⟩

theorem reaches_selectTop (q : Query) (f : Db F → ℕ → α) :
    (selectTop q f).Reaches s fun a s' => a = f s.db s.tie ∧ s' = s.spendTie :=
  ⟨_, _, exec_selectTop_reliable h q f, rfl, rfl⟩

theorem reaches_scalarOr (q : Query) (f : Db F → Option α) (d : α) :
    (scalarOr q f d : Srv F ε α).Reaches s fun _ s' => s' = s.spendFault :=
  ⟨_, _, exec_scalarOr_reliable h q f d, rfl⟩

theorem reaches_require (q : Query) {f : Db F → Option α} (e : ε) {a : α} (ha : f s.db = some a) :
    (require q f e).Reaches s fun b s' => b = a ∧ s' = s.spendFault := by
  refine ⟨a, s.spendFault, ?_, rfl, rfl⟩
  unfold require
  rw [Prog.exec_bind, Prog.exec_attempt, exec_select_reliable h]
  dsimp only
  rw [ha]
  rfl

theorem reaches_execute [Float64 F] {w : Write F} {db : Db F} {n : ℕ}
    (hw : w.apply s.db = .ok (db, n)) :
    (execute w).Reaches s fun _ s' => s' = s.afterWrite w ∧ s'.db = db := by
  refine ⟨n, s.afterWrite w, ?_, rfl, World.afterWrite_of_ok h.fault hw⟩
  simp [execute, World.writeResult, h.fault, hw, Prog.ofExcept, Except.map]

end Reliable

/-! ## The protocol rules of the primitives -/

section Rules

variable {T : L → Label F → World F → World F → L → Prop} {l : L} {q : Query}
  {Q : L → Except String α → Prop}

theorem follows_select {f : Db F → α} (h : ∀ s, ∃ l', T l (.select q) s s.spendFault l' ∧
      (s.fault = none → Q l' (.ok (f s.db))) ∧ ∀ e, s.fault = some e → Q l' (.error e)) :
    (select q f).Follows T l Q := by
  refine Prog.follows_step.2 fun s => ?_
  obtain ⟨l', hT, hok, herr⟩ := h s
  refine ⟨l', hT, ?_⟩
  cases hf : s.fault with
  | none => simpa [hf] using hok hf
  | some e => simpa [hf] using herr e hf

/-- A query the protocol does not look at. -/
theorem follows_select_silent {f : Db F → α} (hT : ∀ s, T l (.select q) s s.spendFault l)
    (hok : ∀ db, Q l (.ok (f db))) (herr : ∀ e, Q l (.error e)) : (select q f).Follows T l Q :=
  follows_select fun s => ⟨l, hT s, fun _ => hok s.db, fun e _ => herr e⟩

variable {f : Db F → Option α}

theorem follows_require {e : ε} {k : α → Srv F ε β} {Q : L → Except ε β → Prop}
    (h : ∀ s, ∃ l', T l (.select q) s s.spendFault l' ∧ Q l' (.error e) ∧
      ∀ a, s.fault = none → f s.db = some a → (k a).Follows T l' Q) :
    (require q f e >>= k).Follows T l Q := by
  refine .bind (.bind (.attempt (follows_select fun s => ?_)))
  obtain ⟨l', hT, herr, hok⟩ := h s
  refine ⟨l', hT, fun hf => ?_, fun _ _ => Prog.follows_fail.2 herr⟩
  cases ha : f s.db with
  | none => exact Prog.follows_fail.2 herr
  | some a => exact Prog.follows_pure.2 (hok a hf ha)

variable {d : α}

theorem follows_scalarOr {Q : L → Except ε α → Prop}
    (h : ∀ s, ∃ l', T l (.select q) s s.spendFault l' ∧
      Q l' (.ok (if s.fault = none then (f s.db).getD d else d))) :
    (scalarOr q f d).Follows T l Q := by
  refine .bind (.attempt (follows_select fun s => ?_))
  obtain ⟨l', hT, hQ⟩ := h s
  refine ⟨l', hT, fun hf => ?_, fun _ hf => Prog.follows_pure.2 (by simpa [hf] using hQ)⟩
  rw [if_pos hf] at hQ
  cases hrow : f s.db with
  | none => exact Prog.follows_pure.2 (by simpa [hrow] using hQ)
  | some a => exact Prog.follows_pure.2 (by simpa [hrow] using hQ)

theorem follows_scalarOr_silent {Q : L → Except ε α → Prop}
    (hT : ∀ s, T l (.select q) s s.spendFault l) (hok : ∀ a, Q l (.ok a)) :
    (scalarOr q f d).Follows T l Q :=
  follows_scalarOr fun s => ⟨l, hT s, hok _⟩

theorem follows_selectTop {f : Db F → ℕ → α} (h : ∀ s, ∃ l', T l (.select q) s s.spendTie l' ∧
      (s.fault = none → Q l' (.ok (f s.db s.tie))) ∧ ∀ e, s.fault = some e → Q l' (.error e)) :
    (selectTop q f).Follows T l Q := by
  refine Prog.follows_step.2 fun s => ?_
  obtain ⟨l', hT, hok, herr⟩ := h s
  refine ⟨l', hT, ?_⟩
  cases hf : s.fault with
  | none => simpa [hf] using hok hf
  | some e => simpa [hf] using herr e hf

theorem follows_execute [Float64 F] {w : Write F} {Q : L → Except String ℕ → Prop}
    (h : ∀ s, ∃ l', T l (.write w) s (s.afterWrite w) l' ∧ Q l' (s.writeResult w)) :
    (execute w).Follows T l Q :=
  Prog.follows_step.2 fun s =>
    let ⟨l', hT, hQ⟩ := h s
    ⟨l', hT, Prog.follows_done.2 hQ⟩

theorem follows_nowSecs {k : ℤ → Srv F ε β} {Q : L → Except ε β → Prop}
    (h : ∀ s : World F, ∃ l', T l .clock s s l' ∧ (k s.nowSecs).Follows T l' Q) :
    (nowSecs >>= k).Follows T l Q := .atomic h

theorem follows_random {rand : ℕ → String} {k : String → Srv F ε β}
    {Q : L → Except ε β → Prop}
    (h : ∀ s : World F, ∃ l', T l .draw s { s with drawn := s.drawn + 1 } l' ∧
      (k (rand s.drawn)).Follows T l' Q) :
    (random rand >>= k).Follows T l Q := .atomic h

end Rules

end Srv

end SauronID
