import SauronID.Anchor.Checkpoint
import SauronID.Audit.Chain

/-!
# Appending to the audit chain

An append reads the head of the chain, seals its event behind it and inserts the row; when
the head cannot be read it starts over at the genesis value. Between the read and the insert
any number of other writers may have appended. `audit_rows_one_chain` says that the unique
index on the number of a row is all that is needed: a row that goes in has the next number,
so that the head it was sealed behind is still the head.
-/

namespace SauronID.Audit

open Conc Text Anchor

variable {F : Type}

/-! ## What an append has read -/

/-- A head of the audit chain, if there is one, is the head of a table that was read. -/
def HeadRead (t : History F) (head : Option (ℤ × String)) : Prop :=
  ∀ h ∈ head, ∃ q s, (.select q, s) ∈ t ∧ auditHead s.db s.tie = some h

/-- The row follows the head that was read, or the start of the chain. -/
def Appends (env : Env F) (t : History F) (row : AuditRow) : Prop :=
  ∃ record head, HeadRead t head ∧
    row = (let last := head.getD (0, "genesis")
      ⟨record.auditId, record.tenantId, record.eventType, record.eventJson, record.timestamp,
        some (last.1 + 1), last.2, computeEntryHash env (last.1 + 1) last.2 record⟩)

section Appending

variable [Float64 F] {env : Env F} {may : May F} {t : History F} {ε : Type}

theorem chainHeadRaw_yields {q : Query} :
    (chainHeadRaw q : Srv F ε _).Yields (srvRules may) t HeadRead := by
  refine Srv.yields_trySelectTop fun s r hr => ?_
  cases r with
  | ok head => exact Prog.yields_pure fun h hh => ⟨q, s, .head _, (hr head rfl) ▸ hh⟩
  | error e => exact Prog.yields_pure nofun

theorem appendAudit_yields (happend : ∀ t row s, Appends env t row → may t (.insertAudit row) s)
    (record : AuditRecord) (attempts : ℕ) :
    (appendAudit env record attempts : Srv F ε _).Yields (srvRules may) t fun _ _ => True := by
  induction attempts generalizing t with
  | zero => exact Prog.yields_pure trivial
  | succ attempts ih =>
    refine chainHeadRaw_yields.andThen fun t' head _ hhead => ?_
    refine Srv.yields_tryExecute fun s => ⟨happend _ _ _ ⟨record, head, hhead, rfl⟩, fun r => ?_⟩
    cases r with
    | ok n => exact Prog.yields_pure trivial
    | error e =>
      dsimp only
      split
      · exact ih
      · exact Prog.yields_pure trivial

end Appending

/-! ## Chains -/

/-- The numbered rows of a table are one sealed chain. -/
structure IsChain (env : Env F) (rows : List AuditRow) : Prop where
  linked : Sealed 1 "genesis" (numberedRows rows)
  sealed : ∀ r ∈ numberedRows rows, sealOf env r = r.entryHash

variable {rows : List AuditRow} {r : AuditRow}

theorem mem_numberedRows : r ∈ numberedRows rows ↔ r ∈ rows ∧ r.seq.isSome = true := by
  rw [numberedRows, mem_orderBy, List.mem_filter]

/-- A numbered row past all others comes last. -/
theorem numberedRows_append (rows : List AuditRow) (row : AuditRow) (hrow : row.seq.isSome = true)
    (hlast : ∀ r ∈ numberedRows rows, r.seq.getD 0 ≤ row.seq.getD 0) :
    numberedRows (rows ++ [row]) = numberedRows rows ++ [row] := by
  have hfilter : (rows ++ [row]).filter (fun r => r.seq.isSome) =
      rows.filter (fun r => r.seq.isSome) ++ [row] := by
    rw [List.filter_append, List.filter_singleton, hrow]
    rfl
  rw [numberedRows, hfilter]
  exact orderBy_concat fun r hr => hlast r (mem_orderBy.2 hr)

/-- The end of a chain whose newest row is `r`, if no row has the number after it. -/
theorem IsChain.end_of_max {env : Env F} (h : IsChain env rows) (hr : r ∈ numberedRows rows)
    (hfree : ∀ x ∈ numberedRows rows, x.seq.getD 0 ≠ r.seq.getD 0 + 1) :
    chainEnd (fun r : AuditRow => r.seq.getD 0) (fun r => r.entryHash) 1 "genesis"
      (numberedRows rows) = (r.seq.getD 0 + 1, r.entryHash) := by
  refine h.linked.end_eq hr fun x hx => ?_
  by_contra hlt
  -- the numbers have no gaps
  have hone := h.linked.le_seq hr
  obtain ⟨y, hy, hnext⟩ := h.linked.exists_seq (j := r.seq.getD 0 + 1) (by omega) hx (by omega)
  exact hfree y hy hnext

theorem IsChain.end_of_empty {env : Env F} (h : IsChain env rows)
    (hfree : ∀ x ∈ numberedRows rows, x.seq.getD 0 ≠ 1) : numberedRows rows = [] := by
  rw [List.eq_nil_iff_forall_not_mem]
  intro x hx
  obtain ⟨y, hy, hone⟩ := h.linked.exists_seq le_rfl hx (h.linked.le_seq hx)
  exact hfree y hy hone

/-- The head of a table of rows that are all still there, if no row has the next number, is
where the chain ends. -/
theorem IsChain.end_of_head {env : Env F} (h : IsChain env rows) {head : Option (ℤ × String)}
    (hhead : ∀ p ∈ head, ∃ (db : Db F) (tie : ℕ), db.audit ⊆ rows ∧ auditHead db tie = some p)
    (hfree : ∀ x ∈ numberedRows rows, x.seq.getD 0 ≠ (head.getD (0, "genesis")).1 + 1) :
    chainEnd (fun r : AuditRow => r.seq.getD 0) (fun r => r.entryHash) 1 "genesis"
      (numberedRows rows) = ((head.getD (0, "genesis")).1 + 1, (head.getD (0, "genesis")).2) := by
  cases head with
  | none =>
    rw [h.end_of_empty hfree]
    rfl
  | some p =>
    obtain ⟨db, tie, hsub, hpick⟩ := hhead p rfl
    obtain ⟨r, hr, rfl⟩ := Option.map_eq_some_iff.1 hpick
    obtain ⟨hmem, hnum⟩ := List.mem_filter.1 (pickMax_mem hr).1
    exact h.end_of_max (mem_numberedRows.2 ⟨hsub hmem, hnum⟩) hfree

/-- **The step.** A row sealed behind a head that was read keeps the chain, if its number is
free. -/
theorem IsChain.append {env : Env F} (h : IsChain env rows)
    {t : History F} (hpast : ∀ q s, (Label.select q, s) ∈ t → s.db.audit ⊆ rows) {row : AuditRow}
    (hrow : Appends env t row) (hfree : ∀ r ∈ rows, r.seq ≠ row.seq) :
    IsChain env (rows ++ [row]) := by
  obtain ⟨record, head, hhead, rfl⟩ := hrow
  have hfree' : ∀ x ∈ numberedRows rows, x.seq.getD 0 ≠ (head.getD (0, "genesis")).1 + 1 := by
    intro x hx hseq
    obtain ⟨hmem, hnum⟩ := mem_numberedRows.1 hx
    obtain ⟨n, hn⟩ := Option.isSome_iff_exists.1 hnum
    rw [hn, Option.getD_some] at hseq
    exact hfree x hmem (by rw [hn, hseq])
  have hend := h.end_of_head (fun p hp => by
    obtain ⟨q, s, hs, hp'⟩ := hhead p hp
    exact ⟨s.db, s.tie, hpast q s hs, hp'⟩) hfree'
  have hnumbered := numberedRows_append rows (⟨record.auditId, record.tenantId,
    record.eventType, record.eventJson, record.timestamp,
    some ((head.getD (0, "genesis")).1 + 1), (head.getD (0, "genesis")).2,
    computeEntryHash env ((head.getD (0, "genesis")).1 + 1) (head.getD (0, "genesis")).2 record⟩)
    rfl fun r hr => by
      have hlt := h.linked.seq_lt_end hr
      rw [hend] at hlt
      exact hlt.le
  refine ⟨?_, ?_⟩
  · rw [hnumbered]
    exact h.linked.concat hend.symm
  · rw [hnumbered]
    intro r hr
    rcases List.mem_append.1 hr with hr | hr
    · exact h.sealed r hr
    · rw [List.mem_singleton.1 hr]
      rfl

/-! ## Runs -/

variable [Float64 F] (env : Env F)

/-- The unique index on `seq`: an insert that goes through brings a number that no row
has. -/
def seqIndex (e : LogEntry F) : Bool :=
  match e.label with
  | .write (.insertAudit row) =>
      !(e.before.writeResult (.insertAudit row)).isOk ||
        e.before.db.audit.all fun r => r.seq != row.seq
  | _ => true

/-- The writers of `records` run together from `start`, in one process or in several. -/
def auditRun (start : World F) (records : List AuditRecord) (sched : List Event) :
    SrvConfig F String Unit :=
  (Config.init start (records.map fun record =>
    appendAudit env record auditChainAppendAttempts)).run sched

variable {env}

/-- What a statement does to the audit log. -/
theorem audit_of_effect {lbl : Label F} {s s' : World F} (heff : lbl.Effect s s') :
    s'.db.audit = s.db.audit ∨ ∃ row n, lbl = .write (.insertAudit row) ∧
      s.writeResult (.insertAudit row) = .ok n ∧ s'.db.audit = s.db.audit ++ [row] := by
  obtain ⟨t, ht, hsame⟩ | ⟨w, db, n, rfl, htable, happly, hn, hdb⟩ := heff.onTable .audit nofun
  · exact .inl (hsame.audit ht)
  · cases w with
    | insertAudit row =>
      refine .inr ⟨row, n, rfl, hn, ?_⟩
      rw [hdb]
      simp only [Write.apply] at happly
      split at happly
      · cases happly
      · cases happly
        rfl
    | _ => cases htable

/-- A chain in which every row that was ever read is still there; a row without a number was
there at the start. -/
structure Growing (env : Env F) (start : World F) (s : World F) (log : RunLog F) : Prop where
  chain : IsChain env s.db.audit
  past : ∀ e ∈ log, e.before.db.audit ⊆ s.db.audit
  unnumbered : ∀ r ∈ s.db.audit, r.seq = none → r ∈ start.db.audit

def appendMay (env : Env F) (t : History F) (w : Write F) (_ : World F) : Prop :=
  ∀ row, w = .insertAudit row → Appends env t row

theorem growing_invariant (start : World F) :
    TraceInvariant (fun _ => srvRules (appendMay env)) (fun e _ => seqIndex e = true)
      (Growing env start) where
  tick _ h := ⟨h.chain, h.past, h.unnumbered⟩
  step := by
    rintro s log i lbl s' h hindex heff hmay
    rcases audit_of_effect heff with hsame | ⟨row, n, rfl, hn, hnew⟩
    · refine ⟨by rw [hsame]; exact h.chain, fun e he => ?_, by rw [hsame]; exact h.unnumbered⟩
      rw [hsame]
      rcases List.mem_cons.1 he with rfl | he
      · exact List.Subset.refl _
      · exact h.past e he
    · have hrow : Appends env (threadTrace i log) row := hmay row rfl
      have hfree : ∀ r ∈ s.db.audit, r.seq ≠ row.seq := by
        simpa [seqIndex, hn, Except.isOk, Except.toBool] using hindex
      have hpast : ∀ q s₀, (Label.select q, s₀) ∈ threadTrace i log → s₀.db.audit ⊆ s.db.audit :=
        fun q s₀ hs₀ => h.past _ (mem_threadTrace.1 hs₀)
      refine ⟨by rw [hnew]; exact h.chain.append hpast hrow hfree, fun e he => ?_, fun r hr => ?_⟩
      · rw [hnew]
        rcases List.mem_cons.1 he with rfl | he
        · exact List.subset_append_left _ _
        · exact List.Subset.trans (h.past e he) (List.subset_append_left _ _)
      · rw [hnew] at hr
        rcases List.mem_append.1 hr with hr | hr
        · exact h.unnumbered r hr
        · rw [List.mem_singleton.1 hr]
          obtain ⟨record, head, -, rfl⟩ := hrow
          exact nofun

/-- **The audit log is one chain.** However the writers interleave and whatever fails, the
numbered rows carry the numbers from 1 on, each with the seal of the row before it and the
first with the genesis value, so that verification succeeds; every row the writers have
added is numbered. -/
theorem audit_rows_one_chain (env : Env F) (start : World F) (records : List AuditRecord)
    (sched : List Event) (hstart : IsChain env start.db.audit)
    (hindex : LogOk (fun e _ => seqIndex e = true) (auditRun env start records sched).log)
    {rows : List AuditRow}
    (hrows : rows = (auditRun env start records sched).world.db.audit) :
    ((numberedRows rows).map fun r => r.seq.getD 0) =
        (List.range (numberedRows rows).length).map (fun n : ℕ => 1 + (n : ℤ)) ∧
      Sealed 1 "genesis" (numberedRows rows) ∧
      (∀ r ∈ rows, r.seq = none → r ∈ start.db.audit) ∧
      ∀ w : World F, w.db.audit = rows → w.fault = none →
        ((verifyAuditChain env).exec w).1 = .ok (numberedRows rows).length := by
  have hpool : ∀ (i : ℕ) (record : AuditRecord), records[i]? = some record →
      (appendAudit env record auditChainAppendAttempts : Srv F String Unit).Yields
        (srvRules (appendMay env)) [] fun _ _ => True :=
    fun _ record _ => appendAudit_yields
      (fun t row s h row' hrow => by cases hrow; exact h) record _
  obtain ⟨h, -⟩ := (growing_invariant start).run_calls hpool
    ⟨hstart, List.forall_mem_nil _, fun r hr _ => hr⟩ sched hindex
  subst hrows
  refine ⟨h.chain.linked.map_seq, h.chain.linked, h.unnumbered, fun w hw hfault => ?_⟩
  refine verifyAuditChain_eq_ok.2 ⟨hfault, ?_⟩
  rw [hw]
  exact ⟨h.chain.linked, h.chain.sealed, rfl⟩

/-- The fourth statement fails with the message of the index. -/
def emptyLog : World ℚ :=
  { World.steady (Db.empty ℚ) 0 with
      faults := [none, none, none, some (uniqueViolation "security_audit_log.seq")] }

/-- Two writers on an empty log. The first reads the head and waits; the second appends; the
insert of the first is refused by the index, and it reads the head again. -/
def twoWriters : SrvConfig ℚ String Unit :=
  auditRun (sampleEnv ℚ) emptyLog
    [⟨"a", "t", "login", "", 5⟩, ⟨"b", "t", "logout", "", 6⟩]
    [.step 0, .step 1, .step 1, .step 0, .step 0, .step 0]

theorem two_writers_one_chain :
    (twoWriters.world.db.audit.map fun r => (r.auditId, r.seq)) =
        [("b", some 1), ("a", some 2)] ∧
      Sealed 1 "genesis" (numberedRows twoWriters.world.db.audit) := by
  refine ⟨by decide +kernel, ?_⟩
  have hstart : IsChain (sampleEnv ℚ) emptyLog.db.audit := ⟨trivial, List.forall_mem_nil _⟩
  exact (audit_rows_one_chain (sampleEnv ℚ) emptyLog _ _ hstart (by decide +kernel) rfl).2.1

end SauronID.Audit
