import SauronID.Anchor.Steps

/-!
# Batches and the log

What the log of a history says about receipts and batches, and the invariant that
the table of batches agrees with it: every batch of the table was stored by a run,
none is deleted, and an id names one batch.
-/

namespace SauronID.Anchor

open Conc Text

variable {F : Type} [Float64 F]

/-- The receipts an anchoring run fetched with this statement. -/
def fetchedRows (e : LogEntry F) : List ReceiptRow :=
  match e.label with
  | .select (.pendingReceipts tenant mark) =>
    match e.before.fault with
    | none => pendingReceipts tenant mark e.before.db
    | some _ => []
  | _ => []

/-- The batch this statement stored, with the receipts it was built from. -/
def storedBatch (e : LogEntry F) : Option (AnchorRow × List ReceiptRow) :=
  match e.label with
  | .write (.insertAnchor row rs) =>
    match e.before.writeResult (.insertAnchor row rs) with
    | .ok _ => some (row, rs)
    | .error _ => none
  | _ => none

/-- A statement that is not tracked fetches nothing and stores nothing. -/
theorem untracked {lbl : Label F} (h : tracked lbl = false) (i : ℕ) (s : World F) :
    fetchedRows ⟨i, lbl, s⟩ = [] ∧ storedBatch ⟨i, lbl, s⟩ = none := by
  unfold fetchedRows storedBatch
  constructor
  · split
    · next hl =>
      dsimp only at hl
      subst hl
      cases h
    · rfl
  · split
    · next hl =>
      dsimp only at hl
      subst hl
      cases h
    · rfl

/-- The log has the batch stored, built from these receipts. -/
def Stored (log : RunLog F) (row : AnchorRow) (rs : List ReceiptRow) : Prop :=
  ∃ e ∈ log, storedBatch e = some (row, rs)

variable {log : RunLog F} {e : LogEntry F} {row : AnchorRow} {rs : List ReceiptRow}

theorem stored_cons :
    Stored (e :: log) row rs ↔ storedBatch e = some (row, rs) ∨ Stored log row rs :=
  List.exists_mem_cons_iff ..

theorem Stored.cons (h : Stored log row rs) : Stored (e :: log) row rs :=
  stored_cons.2 (.inr h)

/-- An inserted receipt has an id of its own. -/
def freshId (e : LogEntry F) : Bool :=
  match e.label with
  | .write (.upsertReceipt row _) => e.before.db.receipts.all fun r => r.receiptId != row.receiptId
  | _ => true

/-- A row of the table and the row it was stored as agree but for the outcome. -/
structure SameBatch (b row : AnchorRow) : Prop where
  anchorId : b.anchorId = row.anchorId
  root : b.batchRootHex = row.batchRootHex
  first : firstKey b = firstKey row
  last : lastKey b = lastKey row
  leafVersion : b.leafVersion = row.leafVersion
  tenantId : b.tenantId = row.tenantId

theorem SameBatch.rfl {b : AnchorRow} : SameBatch b b := ⟨.refl _, .refl _, .refl _, .refl _,
  .refl _, .refl _⟩

/-- A row with its outcome recorded. -/
def finished (id btc sol : String) (status : AnchorStatus) (err : String) (b : AnchorRow) :
    AnchorRow :=
  if b.anchorId == id then
    { b with btcAnchorId := btc, solAnchorId := sol, anchorStatus := status, anchorError := err }
  else b

theorem sameBatch_finished (id btc sol : String) (status : AnchorStatus) (err : String)
    (b : AnchorRow) : SameBatch (finished id btc sol status err b) b := by
  unfold finished
  split
  · exact ⟨rfl, rfl, rfl, rfl, rfl, rfl⟩
  · exact .rfl

theorem afterWrite_finishAnchor (s : World F) (id btc sol : String) (status : AnchorStatus)
    (err : String) :
    (s.afterWrite (.finishAnchor id btc sol status err)).db.anchors = s.db.anchors ∨
      s.fault = none ∧ (s.afterWrite (.finishAnchor id btc sol status err)).db.anchors =
        s.db.anchors.map (finished id btc sol status err) := by
  rcases World.afterWrite_cases s (.finishAnchor id btc sol status err) with
    ⟨e, -, hdb⟩ | ⟨db, n, hf, happ, -, hdb⟩
  · exact .inl (by rw [hdb])
  · cases happ
    exact .inr ⟨hf, by rw [hdb]; rfl⟩

/-- Statements on batches leave the receipts. -/
theorem receipts_insertAnchor (s : World F) (row : AnchorRow) (rs : List ReceiptRow) :
    (s.afterWrite (.insertAnchor row rs)).db.receipts = s.db.receipts :=
  (World.afterWrite_sameOff s (.insertAnchor row rs)).receipts fun h => by cases h

theorem receipts_finishAnchor (s : World F) (id btc sol : String) (status : AnchorStatus)
    (err : String) :
    (s.afterWrite (.finishAnchor id btc sol status err)).db.receipts = s.db.receipts :=
  (World.afterWrite_sameOff s (.finishAnchor id btc sol status err)).receipts fun h => by cases h

variable {s : World F}

theorem afterWrite_insertAnchor {n : ℕ} (hres : s.writeResult (.insertAnchor row rs) = .ok n) :
    (∀ b ∈ s.db.anchors, b.anchorId ≠ row.anchorId) ∧
      (s.afterWrite (.insertAnchor row rs)).db.anchors = s.db.anchors ++ [row] := by
  rcases World.afterWrite_cases s (.insertAnchor row rs) with
    ⟨e, he, -⟩ | ⟨db, m, -, happ, -, hdb⟩
  · rw [hres] at he
    cases he
  · simp only [Write.apply] at happ
    split at happ
    · cases happ
    · next hany =>
      cases happ
      exact ⟨by simpa using hany, by rw [hdb]⟩

/-- A receipt with a fresh id is appended, or the statement failed. -/
theorem afterWrite_upsertReceipt {i : ℕ} {row : ReceiptRow} {anon : Bool}
    (hfresh : freshId ⟨i, .write (.upsertReceipt row anon), s⟩ = true) :
    (s.afterWrite (.upsertReceipt row anon)).db.receipts = s.db.receipts ∨
      (s.afterWrite (.upsertReceipt row anon)).db.receipts = s.db.receipts ++ [row] ∧
        ∀ r ∈ s.db.receipts, r.receiptId ≠ row.receiptId := by
  have hnew : ∀ r ∈ s.db.receipts, r.receiptId ≠ row.receiptId := by
    simpa [freshId] using hfresh
  rcases World.afterWrite_cases s (.upsertReceipt row anon) with
    ⟨e, -, hdb⟩ | ⟨db, m, -, happ, -, hdb⟩
  · exact .inl (by rw [hdb])
  · cases happ
    refine .inr ⟨?_, hnew⟩
    rw [hdb]
    exact if_neg (by simpa using hnew)

/-- The table of batches and the log tell the same story. -/
structure BatchLog (s : World F) (log : RunLog F) : Prop where
  /-- Every batch of the table was stored by a run. -/
  known : ∀ b ∈ s.db.anchors, ∃ e ∈ log, ∃ row rs, storedBatch e = some (row, rs) ∧ SameBatch b row
  /-- No batch is deleted. -/
  present : ∀ e ∈ log, ∀ row rs, storedBatch e = some (row, rs) →
    ∃ b ∈ s.db.anchors, b.anchorId = row.anchorId
  /-- An id names one batch. -/
  unique : ∀ e ∈ log, ∀ e' ∈ log, ∀ row rs row' rs', storedBatch e = some (row, rs) →
    storedBatch e' = some (row', rs') → row.anchorId = row'.anchorId → row = row' ∧ rs = rs'

namespace BatchLog

variable {s s' : World F} {log : RunLog F}

theorem initial (h : s.db.anchors = []) : BatchLog s [] where
  known := by simp [h]
  present := by simp
  unique := by simp

variable {row : AnchorRow} {rs : List ReceiptRow}

/-- A row of the table with the id of a stored batch is that batch. -/
theorem sameBatch (h : BatchLog s log) {b : AnchorRow} (hs : Stored log row rs)
    (hb : b ∈ s.db.anchors) (hid : b.anchorId = row.anchorId) : SameBatch b row := by
  obtain ⟨e, he, row', rs', hs', hsame⟩ := h.known b hb
  obtain ⟨f, hf, hs⟩ := hs
  obtain ⟨rfl, -⟩ := h.unique e he f hf row' rs' row rs hs' hs (hsame.anchorId.symm.trans hid)
  exact hsame

variable {e : LogEntry F}

/-- A statement that stores no batch and at most records outcomes. -/
theorem cons (h : BatchLog s log) (he : storedBatch e = none)
    (hback : ∀ b' ∈ s'.db.anchors, ∃ b ∈ s.db.anchors, SameBatch b' b)
    (hforth : ∀ b ∈ s.db.anchors, ∃ b' ∈ s'.db.anchors, b'.anchorId = b.anchorId) :
    BatchLog s' (e :: log) := by
  have hold : ∀ {f : LogEntry F} {row rs}, f ∈ e :: log →
      storedBatch f = some (row, rs) → f ∈ log := by
    intro f row rs hf hs
    rcases List.mem_cons.1 hf with rfl | hf
    · rw [he] at hs
      cases hs
    · exact hf
  constructor
  case known =>
    intro b' hb'
    obtain ⟨b, hb, hsame⟩ := hback b' hb'
    obtain ⟨f, hf, row, rs, hs, hrow⟩ := h.known b hb
    exact ⟨f, List.mem_cons_of_mem _ hf, row, rs, hs,
      hsame.anchorId.trans hrow.anchorId, hsame.root.trans hrow.root, hsame.first.trans hrow.first,
      hsame.last.trans hrow.last, hsame.leafVersion.trans hrow.leafVersion,
      hsame.tenantId.trans hrow.tenantId⟩
  case present =>
    intro f hf row rs hs
    obtain ⟨b, hb, hid⟩ := h.present f (hold hf hs) row rs hs
    obtain ⟨b', hb', hid'⟩ := hforth b hb
    exact ⟨b', hb', hid'.trans hid⟩
  case unique =>
    intro f hf f' hf' row rs row' rs' hs hs'
    exact h.unique f (hold hf hs) f' (hold hf' hs') row rs row' rs' hs hs'

/-- A statement that leaves the batches alone. -/
theorem quiet (h : BatchLog s log) (he : storedBatch e = none)
    (ha : s'.db.anchors = s.db.anchors) : BatchLog s' (e :: log) :=
  h.cons he (fun b hb => ⟨b, ha ▸ hb, .rfl⟩) fun b hb => ⟨b, ha ▸ hb, rfl⟩

/-- Recording an outcome changes no more than the outcome. -/
theorem finish (h : BatchLog s log) (i : ℕ) (id btc sol : String) (status : AnchorStatus)
    (err : String) : BatchLog (s.afterWrite (.finishAnchor id btc sol status err))
      (⟨i, .write (.finishAnchor id btc sol status err), s⟩ :: log) := by
  rcases afterWrite_finishAnchor s id btc sol status err with ha | ⟨-, ha⟩
  · exact h.quiet rfl ha
  · refine h.cons rfl (fun b' hb' => ?_) fun b hb => ?_
    · rw [ha] at hb'
      obtain ⟨b, hb, rfl⟩ := List.mem_map.1 hb'
      exact ⟨b, hb, sameBatch_finished _ _ _ _ _ _⟩
    · exact ⟨_, ha ▸ List.mem_map_of_mem hb, (sameBatch_finished _ _ _ _ _ _).anchorId⟩

/-- A batch is stored under an id that names no other. -/
theorem store (h : BatchLog s log) {i : ℕ} {n : ℕ}
    (hres : s.writeResult (.insertAnchor row rs) = .ok n) :
    BatchLog (s.afterWrite (.insertAnchor row rs))
      (⟨i, .write (.insertAnchor row rs), s⟩ :: log) := by
  obtain ⟨hnew, ha⟩ := afterWrite_insertAnchor hres
  have hstored : storedBatch ⟨i, .write (.insertAnchor row rs), s⟩ = some (row, rs) := by
    simp [storedBatch, hres]
  -- the id was not in the table, so no earlier batch has it
  have hfirst : ∀ f ∈ log, ∀ row' rs', storedBatch f = some (row', rs') →
      row'.anchorId ≠ row.anchorId := by
    intro f hf row' rs' hs hid
    obtain ⟨b, hb, hbid⟩ := h.present f hf row' rs' hs
    exact hnew b hb (hbid.trans hid)
  constructor
  case known =>
    intro b hb
    rw [ha] at hb
    rcases List.mem_append.1 hb with hb | hb
    · obtain ⟨f, hf, hrest⟩ := h.known b hb
      exact ⟨f, List.mem_cons_of_mem _ hf, hrest⟩
    · rw [List.mem_singleton.1 hb]
      exact ⟨_, List.mem_cons_self, row, rs, hstored, .rfl⟩
  case present =>
    intro f hf row' rs' hs
    rw [ha]
    rcases List.mem_cons.1 hf with rfl | hf
    · rw [hstored] at hs
      cases hs
      exact ⟨row, by simp, rfl⟩
    · obtain ⟨b, hb, hid⟩ := h.present f hf row' rs' hs
      exact ⟨b, List.mem_append_left _ hb, hid⟩
  case unique =>
    intro f hf f' hf' r₁ rs₁ r₂ rs₂ hs hs' hid
    rcases List.mem_cons.1 hf with rfl | hf <;> rcases List.mem_cons.1 hf' with rfl | hf'
    · rw [hstored] at hs hs'
      cases hs
      cases hs'
      exact ⟨rfl, rfl⟩
    · rw [hstored] at hs
      cases hs
      exact absurd hid.symm (hfirst f' hf' r₂ rs₂ hs')
    · rw [hstored] at hs'
      cases hs'
      exact absurd hid (hfirst f hf r₁ rs₁ hs)
    · exact h.unique f hf f' hf' r₁ rs₁ r₂ rs₂ hs hs' hid

end BatchLog

end SauronID.Anchor
