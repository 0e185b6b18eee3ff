import Mathlib.Data.List.Pairwise
import SauronID.Anchor.BatchLog

/-!
# Finding the batch of a receipt

A proof request looks for the oldest batch whose seconds cover the second of the receipt.
Batches are cut by second and receipt id, and a batch that was not published in full is
tried again under a new row, so that batch need not hold the receipt, and need not be the
one that was published. Both are excluded as long as no two batches cover the second of the
receipt: `lookup_finds_batch`.
-/

namespace SauronID.Anchor

open Conc

variable {F : Type} {env : Env F}

/-! ## Batches apart in time -/

/-- The receipt lies between the ends of the batch. -/
def Contains (b : AnchorRow) (r : ReceiptRow) : Prop :=
  toLex (firstKey b) ≤ receiptKey r ∧ receiptKey r ≤ toLex (lastKey b)

variable {b : AnchorRow} {r : ReceiptRow}

theorem Contains.covers (h : Contains b r) :
    b.fromCreatedAt ≤ r.timestamp ∧ r.timestamp ≤ b.toCreatedAt := by
  have hfirst := Prod.Lex.toLex_le_toLex.1 h.1
  have hlast := Prod.Lex.toLex_le_toLex.1 h.2
  simp only [firstKey, lastKey] at hfirst hlast
  omega

/-- A request of the tenant for a receipt of the second looks at the batch. -/
def Candidate (tenant : String) (t : ℤ) (b : AnchorRow) : Prop :=
  tenantMatches tenant b.tenantId = true ∧ b.fromCreatedAt ≤ t ∧ t ≤ b.toCreatedAt

instance (tenant : String) (t : ℤ) (b : AnchorRow) : Decidable (Candidate tenant t b) :=
  inferInstanceAs (Decidable (_ ∧ _))

/-- Such a request does not look at both batches. -/
def Apart (tenant : String) (t : ℤ) (b b' : AnchorRow) : Prop :=
  ¬(Candidate tenant t b ∧ Candidate tenant t b')

instance (tenant : String) (t : ℤ) : Std.Symm (Apart tenant t) := ⟨fun _ _ h hb => h hb.symm⟩

variable {tenant : String} {t : ℤ} {rows : List AnchorRow}

/-- Of batches that are apart a request looks at one. -/
theorem eq_of_apart (h : rows.Pairwise (Apart tenant t)) {b' : AnchorRow} (hb : b ∈ rows)
    (hb' : b' ∈ rows) (hc : Candidate tenant t b) (hc' : Candidate tenant t b') : b = b' := by
  by_contra hne
  exact h.forall hb hb' hne ⟨hc, hc'⟩

/-- A statement that stores no batch the request looks at, or the first one. -/
def coversAlone (tenant : String) (t : ℤ) (e : LogEntry F) : Bool :=
  match e.label with
  | .write (.insertAnchor row _) => decide (Candidate tenant t row →
      ∀ b ∈ e.before.db.anchors, ¬Candidate tenant t b)
  | _ => true

variable {s : World F} {row : AnchorRow} {rs : List ReceiptRow}

theorem pairwise_concat {i : ℕ} (h : s.db.anchors.Pairwise (Apart tenant t))
    (halone : coversAlone tenant t ⟨i, .write (.insertAnchor row rs), s⟩ = true) :
    (s.db.anchors ++ [row]).Pairwise (Apart tenant t) := by
  refine List.pairwise_append.2 ⟨h, List.pairwise_singleton _ _, fun b hb b' hb' => ?_⟩
  rw [List.mem_singleton.1 hb']
  rintro ⟨hc, hrow⟩
  exact of_decide_eq_true halone hrow b hb hc

/-- Recording an outcome moves no batch. -/
theorem pairwise_finished (h : rows.Pairwise (Apart tenant t)) (id btc sol : String)
    (status : AnchorStatus) (err : String) :
    (rows.map (finished id btc sol status err)).Pairwise (Apart tenant t) := by
  have hsame : ∀ b, Candidate tenant t (finished id btc sol status err b) ↔
      Candidate tenant t b := by
    intro b
    have hb := sameBatch_finished id btc sol status err b
    have hfirst := congrArg Prod.fst hb.first
    have hlast := congrArg Prod.fst hb.last
    simp only [firstKey, lastKey] at hfirst hlast
    rw [Candidate, hb.tenantId, hfirst, hlast, Candidate]
  refine List.pairwise_map.2 (h.imp fun {b b'} hapart => ?_)
  rwa [Apart, hsame, hsame]

/-! ## The invariant -/

/-- The receipts are in the table, of the tenant and in order. -/
structure Held (s : World F) (tenant : String) (rs : List ReceiptRow) : Prop where
  mem : ∀ r ∈ rs, r ∈ s.db.receipts
  tenantId : ∀ r ∈ rs, r.tenantId = tenant
  sorted : rs.Pairwise fun a b => receiptKey a ≤ receiptKey b

variable {s' : World F}

theorem Held.mono (h : Held s tenant rs) (hsub : s.db.receipts ⊆ s'.db.receipts) :
    Held s' tenant rs :=
  ⟨fun r hr => hsub (h.mem r hr), h.tenantId, h.sorted⟩

theorem held_pendingReceipts (s : World F) (tenant : String) (m : ℤ × String) :
    Held s tenant (pendingReceipts tenant m s.db) where
  mem _ hr := (mem_pendingReceipts hr).1
  tenantId _ hr := (mem_pendingReceipts hr).2.1
  sorted := (pairwise_orderBy _ _).sublist (List.take_sublist _ _)

/-- The receipts a run works on are held. -/
def PhaseHeld (s : World F) (tenant : String) : Phase → Prop
  | .fetched _ rs => Held s tenant rs
  | .headed _ rs _ => Held s tenant rs
  | _ => True

theorem PhaseHeld.mono {p : Phase}
    (h : PhaseHeld s tenant p) (hsub : s.db.receipts ⊆ s'.db.receipts) : PhaseHeld s' tenant p := by
  cases p with
  | fetched m rs => exact Held.mono h hsub
  | headed m rs head => exact Held.mono h hsub
  | _ => trivial

variable [Float64 F]

/-- What holds of receipts and batches throughout a history. -/
structure LookupInv (env : Env F) (tenant : String) (t : ℤ) (calls : List HistCall)
    (s : World F) (g : ℕ → Phase) (log : RunLog F) : Prop where
  nodup : (s.db.receipts.map fun r => r.receiptId).Nodup
  batches : BatchLog s log
  built : ∀ row rs, Stored log row rs →
    (∃ head, IsBatch env row.tenantId row rs head) ∧ Held s row.tenantId rs
  apart : s.db.anchors.Pairwise (Apart tenant t)
  phases : ∀ i, PhaseHeld s (histTenant calls i) (g i)

namespace LookupInv

variable {tenant : String} {t : ℤ} {calls : List HistCall} {s s' : World F} {g : ℕ → Phase}
  {log : RunLog F} {i : ℕ} {lbl : Label F} {p' : Phase}

theorem initial (tenant : String) (t : ℤ) (calls : List HistCall)
    (hnodup : (s.db.receipts.map fun r => r.receiptId).Nodup) (hanchors : s.db.anchors = []) :
    LookupInv env tenant t calls s (fun _ => .idle) [] where
  nodup := hnodup
  batches := .initial hanchors
  built := by simp [Stored]
  apart := by simp [hanchors]
  phases _ := trivial

section

variable (h : LookupInv env tenant t calls s g log)

include h

/-- A statement after which all receipts are still there. -/
theorem next (hnodup : (s'.db.receipts.map fun r => r.receiptId).Nodup)
    (hsub : s.db.receipts ⊆ s'.db.receipts) (hbatches : BatchLog s' (⟨i, lbl, s⟩ :: log))
    (hbuilt : ∀ row rs, storedBatch ⟨i, lbl, s⟩ = some (row, rs) →
      (∃ head, IsBatch env row.tenantId row rs head) ∧ Held s row.tenantId rs)
    (hapart : s'.db.anchors.Pairwise (Apart tenant t))
    (hphase : PhaseHeld s (histTenant calls i) p') :
    LookupInv env tenant t calls s' (Function.update g i p') (⟨i, lbl, s⟩ :: log) where
  nodup := hnodup
  batches := hbatches
  built row rs hs := by
    obtain ⟨hbatch, hheld⟩ := (stored_cons.1 hs).elim (hbuilt row rs) (h.built row rs)
    exact ⟨hbatch, hheld.mono hsub⟩
  apart := hapart
  phases := (Function.forall_update_iff g fun j => PhaseHeld s' (histTenant calls j)).2
    ⟨hphase.mono hsub, fun j _ => (h.phases j).mono hsub⟩

/-- A statement that reads, or writes other tables. -/
theorem quiet (hrows : s'.db.receipts = s.db.receipts) (hanchors : s'.db.anchors = s.db.anchors)
    (hstore : storedBatch ⟨i, lbl, s⟩ = none) (hphase : PhaseHeld s (histTenant calls i) p') :
    LookupInv env tenant t calls s' (Function.update g i p') (⟨i, lbl, s⟩ :: log) := by
  refine h.next (hrows ▸ h.nodup) (by rw [hrows]; exact List.Subset.refl _)
    (h.batches.quiet hstore hanchors) ?_ (hanchors ▸ h.apart) hphase
  intro row rs hs
  rw [hstore] at hs
  cases hs

/-- A receipt with a fresh id. -/
theorem receipt {row : ReceiptRow} {anon : Bool}
    (hfresh : freshId ⟨i, .write (.upsertReceipt row anon), s⟩ = true) :
    LookupInv env tenant t calls (s.afterWrite (.upsertReceipt row anon))
      (Function.update g i (g i)) (⟨i, .write (.upsertReceipt row anon), s⟩ :: log) := by
  have hanchors := (World.afterWrite_sameOff s (.upsertReceipt row anon)).anchors nofun
  rcases afterWrite_upsertReceipt hfresh with hrows | ⟨hrows, hnew⟩
  · exact h.quiet hrows hanchors rfl (h.phases i)
  · refine h.next ?_ ?_ (h.batches.quiet rfl hanchors) (by simp [storedBatch]) (hanchors ▸ h.apart)
      (h.phases i)
    · rw [hrows, List.map_append, List.map_singleton]
      refine h.nodup.append (List.nodup_singleton _) ?_
      simpa using hnew
    · rw [hrows]
      exact List.subset_append_left _ _

end

end LookupInv

/-- Every statement of a history keeps the invariant, given that ids are fresh and no second
batch covers the second. -/
theorem lookupInv_run (tenant : String) (t : ℤ) (calls : List HistCall) :
    RunInvariant (fun i => HistStep env (histTenant calls i))
      (fun e _ => freshId e = true ∧ coversAlone tenant t e = true)
      (LookupInv env tenant t calls) where
  tick _ h := ⟨h.nodup, ⟨h.batches.known, h.batches.present, h.batches.unique⟩,
    fun row rs hs => ⟨(h.built row rs hs).1, (h.built row rs hs).2.mono (List.Subset.refl _)⟩,
    h.apart, fun i => (h.phases i).mono (List.Subset.refl _)⟩
  step {s g log i lbl s' p'} h hcond hstep := by
    generalize hp : g i = p at hstep
    have hphase := h.phases i
    rw [hp] at hphase
    obtain ⟨hfresh, halone⟩ := hcond
    cases hstep with
    | quiet _ _ _ _ _ hlbl hrows hanchors =>
      exact h.quiet hrows hanchors (untracked hlbl i s).2 hphase
    | receipt _ row anon =>
      rw [← hp]
      exact h.receipt hfresh
    | fetch m _ hf => exact h.quiet rfl rfl rfl (held_pendingReceipts s _ m)
    | head m rs => exact h.quiet rfl rfl rfl hphase
    | storeFailed m rs head row _ e hres =>
      have hdb : (s.afterWrite (.insertAnchor row rs)).db = s.db := World.afterWrite_of_failed hres
      exact h.quiet (by rw [hdb]) (by rw [hdb]) (by simp [storedBatch, hres]) trivial
    | store m rs head row _ n hbatch hres =>
      have hrows := receipts_insertAnchor s row rs
      refine h.next (hrows ▸ h.nodup) (by rw [hrows]; exact List.Subset.refl _)
        (h.batches.store hres) (fun row' rs' hs => ?_) ?_ trivial
      · simp only [storedBatch, hres, Option.some.injEq, Prod.mk.injEq] at hs
        obtain ⟨rfl, rfl⟩ := hs
        rw [hbatch.ends.1]
        exact ⟨⟨head, hbatch⟩, hphase⟩
      · rw [(afterWrite_insertAnchor hres).2]
        exact pairwise_concat h.apart halone
    | finish m rs row _ btc sol status err =>
      have hrows := receipts_finishAnchor s row.anchorId btc sol status err
      refine h.next (hrows ▸ h.nodup) (by rw [hrows]; exact List.Subset.refl _)
        (h.batches.finish i _ _ _ _ _) (by simp [storedBatch]) ?_ trivial
      rcases afterWrite_finishAnchor s row.anchorId btc sol status err with ha | ⟨-, ha⟩
      · exact ha ▸ h.apart
      · exact ha ▸ pairwise_finished h.apart _ _ _ _ _
    | mark => exact h.quiet rfl rfl rfl trivial
    | fetchFailed => exact h.quiet rfl rfl rfl trivial
    | choose => exact h.quiet rfl rfl rfl trivial
    | rebuildFailed => exact h.quiet rfl rfl rfl trivial
    | rebuild => exact h.quiet rfl rfl rfl trivial

/-! ## The lookup -/

/-- A receipt of a stored batch is in the table, and a batch of its tenant contains it. -/
theorem LookupInv.leaf {calls : List HistCall} {g : ℕ → Phase} {log : RunLog F}
    (h : LookupInv env tenant t calls s g log) (hs : Stored log row rs) (hr : r ∈ rs) :
    r ∈ s.db.receipts ∧ ∃ b ∈ s.db.anchors, b.tenantId = r.tenantId ∧ Contains b r := by
  obtain ⟨⟨head, hbatch⟩, hheld⟩ := h.built row rs hs
  obtain ⟨-, -, first, last, hhead, hlast, hfirstKey, hlastKey⟩ := hbatch.ends
  obtain ⟨e, he, hstored⟩ := hs
  obtain ⟨b, hb, hid⟩ := h.batches.present e he row rs hstored
  have hsame := h.batches.sameBatch ⟨e, he, hstored⟩ hb hid
  refine ⟨hheld.mem r hr, b, hb, hsame.tenantId.trans (hheld.tenantId r hr).symm, ?_, ?_⟩
  · rw [hsame.first, hfirstKey]
    exact key_head_le hheld.sorted hhead hr
  · rw [hsame.last, hlastKey]
    exact key_le_getLast hheld.sorted hlast hr

section

omit [Float64 F]

variable {r : ReceiptRow} {tenant : String}

/-- The query by id and tenant finds the receipt. -/
theorem find?_receipt {rows : List ReceiptRow} (hnodup : (rows.map fun r => r.receiptId).Nodup)
    (hr : r ∈ rows) (hmatch : tenantMatches tenant r.tenantId = true) :
    rows.find? (fun x => x.receiptId == r.receiptId && tenantMatches tenant x.tenantId) =
      some r := by
  obtain ⟨x, hx⟩ := Option.isSome_iff_exists.1 (List.find?_isSome
    (p := fun x : ReceiptRow => x.receiptId == r.receiptId && tenantMatches tenant x.tenantId)
    |>.2 ⟨r, hr, by simp [hmatch]⟩)
  have hfound := List.find?_some hx
  have hid : x.receiptId = r.receiptId := by
    simpa using (Bool.and_eq_true_iff.1 hfound).1
  rw [hx, List.inj_on_of_nodup_map hnodup (List.mem_of_find?_eq_some hx) hr hid]

variable {b : AnchorRow}

/-- The only batch that covers the second is found, however ties fall. -/
theorem coveringBatch_eq {t : ℤ} {db : Db F}
    (h : db.anchors.Pairwise (Apart tenant t)) (hb : b ∈ db.anchors)
    (hc : Candidate tenant t b) (tie : ℕ) : coveringBatch tenant t db tie = some b := by
  cases hpick : coveringBatch tenant t db tie with
  | none =>
    have hnil := pickMax_eq_none.1 hpick
    have hcovers := List.filter_eq_nil_iff.1 hnil b hb
    simp [hc.1, hc.2] at hcovers
  | some b' =>
    have hmem := List.mem_filter.1 (pickMax_mem hpick).1
    simp only [Bool.and_eq_true, decide_eq_true_eq] at hmem
    rw [eq_of_apart h hmem.1 hb ⟨hmem.2.2, hmem.2.1⟩ hc]

variable (env) in
/-- The receipts of the batch, fetched again, have the receipt among them. -/
theorem buildProof_of_mem {receiptId : String} {rs : List ReceiptRow} (hr : r ∈ rs)
    (hid : r.receiptId = receiptId) (sol : Bool × Option ℤ × Option String) (btc : Bool × String) :
    ∃ q, buildProof env receiptId b rs sol btc = .ok q := by
  cases hidx : rs.findIdx? fun x => x.receiptId == receiptId with
  | none =>
    have hno := List.findIdx?_eq_none_iff.1 hidx r hr
    simp [hid] at hno
  | some i =>
    unfold buildProof
    rw [hidx]
    exact ⟨_, rfl⟩

variable {s : World F}

theorem exec_solanaState (tenant solId : String) (hs : s.Reliable) :
    ∃ sol s', (solanaState tenant solId : Srv F String _).exec s = (.ok sol, s') ∧ s'.db = s.db ∧
      s'.Reliable := by
  unfold solanaState
  split
  · exact ⟨_, s, rfl, rfl, hs⟩
  · exact ⟨_, _, Srv.exec_scalarOr_reliable hs _ _ _, rfl, hs.spendFault⟩

theorem exec_bitcoinState (tenant btcId : String) (hs : s.Reliable) :
    ∃ btc s', (bitcoinState tenant btcId : Srv F String _).exec s = (.ok btc, s') ∧ s'.db = s.db ∧
      s'.Reliable := by
  unfold bitcoinState
  split
  · exact ⟨_, s, rfl, rfl, hs⟩
  · exact ⟨_, _, Srv.exec_scalarOr_reliable hs _ _ _, rfl, hs.spendFault⟩

variable (env) in
/-- A receipt whose batch is the only one that covers its second gets a proof from it. -/
theorem exec_proofForReceipt (hs : s.Reliable)
    (hnodup : (s.db.receipts.map fun r => r.receiptId).Nodup)
    (hapart : s.db.anchors.Pairwise (Apart tenant r.timestamp)) (hr : r ∈ s.db.receipts)
    (hb : b ∈ s.db.anchors) (hmatch : tenantMatches tenant r.tenantId = true)
    (htenant : b.tenantId = r.tenantId) (hcontains : Contains b r) :
    ∃ q sol btc, ((proofForReceiptForTenant env r.receiptId tenant).exec s).1 = .ok (some q) ∧
      buildProof env r.receiptId b (batchReceipts tenant (firstKey b) (lastKey b) s.db) sol btc =
        .ok q := by
  have hfound := find?_receipt hnodup hr hmatch
  have hcover := coveringBatch_eq hapart hb ⟨htenant ▸ hmatch, hcontains.covers⟩
  obtain ⟨sol, s₁, hsol, hdb₁, hs₁⟩ :=
    exec_solanaState tenant b.solAnchorId hs.spendFault.spendTie
  obtain ⟨btc, s₂, hbtc, hdb₂, hs₂⟩ := exec_bitcoinState tenant b.btcAnchorId hs₁
  have hdb : s₂.db = s.db := hdb₂.trans hdb₁
  have hmem : r ∈ batchReceipts tenant (firstKey b) (lastKey b) s.db := by
    refine mem_orderBy.2 (List.mem_filter.2 ⟨hr, ?_⟩)
    simp [hmatch, hcontains.1, hcontains.2]
  obtain ⟨q, hq⟩ := buildProof_of_mem env (b := b) hmem rfl sol btc
  refine ⟨q, sol, btc, ?_, hq⟩
  unfold proofForReceiptForTenant
  rw [Prog.exec_bind, Prog.exec_attempt, Srv.exec_select_reliable hs, hfound]
  dsimp only [Option.map_some]
  rw [Prog.exec_bind, Prog.exec_attempt, Srv.exec_selectTop_reliable hs.spendFault,
    World.spendFault_db, hcover]
  dsimp only
  rw [Prog.exec_bind, hsol]
  dsimp only
  rw [Prog.exec_bind, hbtc]
  dsimp only
  rw [Prog.exec_bind, Srv.exec_select_reliable hs₂, hdb]
  dsimp only
  rw [show (batchReceipts tenant (b.fromCreatedAt, b.fromReceiptId)
    (b.toCreatedAt, b.toReceiptId) s.db) =
      batchReceipts tenant (firstKey b) (lastKey b) s.db from rfl, hq]
  rfl

end

/-- **Batch lookup.** In every history in which receipt ids are fresh and no batch that covers
the second of `r` is stored beside another one, a request for a leaf `r` of a stored batch, its
queries not failing, returns a proof built from a batch of the tenant of `r` that contains `r`,
and from a submitted one if there is one. -/
theorem lookup_finds_batch (env : Env F) (publishers : Publishers) (calls : List HistCall)
    (s : World F) (hnodup : (s.db.receipts.map fun r => r.receiptId).Nodup)
    (hanchors : s.db.anchors = []) (sched : List Event) (tenant : String) (r : ReceiptRow)
    (halone : LogOk (fun e _ => freshId e = true ∧ coversAlone tenant r.timestamp e = true)
      ((Config.init s (calls.map (HistCall.prog env publishers))).run sched).log)
    {w : World F}
    (hw : w = ((Config.init s (calls.map (HistCall.prog env publishers))).run sched).world)
    (hreliable : w.Reliable) (e : Entry (Label F) (World F))
    (he : e ∈ ((Config.init s (calls.map (HistCall.prog env publishers))).run sched).log)
    (row : AnchorRow) (rs : List ReceiptRow) (hstored : storedBatch e = some (row, rs))
    (hr : r ∈ rs) (hmatch : tenantMatches tenant r.tenantId = true) :
    ∃ q b sol btc, ((proofForReceiptForTenant env r.receiptId tenant).exec w).1 = .ok (some q) ∧
      buildProof env r.receiptId b (batchReceipts tenant (firstKey b) (lastKey b) w.db) sol btc =
        .ok q ∧
      b ∈ w.db.anchors ∧ b.tenantId = r.tenantId ∧ Contains b r ∧
      ((∃ b' ∈ w.db.anchors, b'.tenantId = r.tenantId ∧ Contains b' r ∧
        b'.anchorStatus = .submitted) → b.anchorStatus = .submitted) := by
  obtain ⟨g, hinv, -⟩ := (lookupInv_run tenant r.timestamp calls).run
    (histPool_follows publishers calls)
    (LookupInv.initial tenant r.timestamp calls hnodup hanchors) sched halone
  rw [← hw] at hinv
  obtain ⟨hmem, b, hb, htenant, hcontains⟩ := hinv.leaf ⟨e, he, hstored⟩ hr
  obtain ⟨q, sol, btc, hexec, hbuild⟩ := exec_proofForReceipt env hreliable hinv.nodup hinv.apart
    hmem hb hmatch htenant hcontains
  refine ⟨q, b, sol, btc, hexec, hbuild, hb, htenant, hcontains, ?_⟩
  rintro ⟨b', hb', htenant', hcontains', hsubmitted⟩
  rwa [eq_of_apart hinv.apart hb hb' ⟨htenant ▸ hmatch, hcontains.covers⟩
    ⟨htenant' ▸ hmatch, hcontains'.covers⟩]

/-! ## Three histories -/

/-- A hash that is short to compute. -/
def lookupEnv : Env ℚ := { plainEnv with sha256 := fun b => b.take 1 }

/-- A receipt and an anchoring run, twice. -/
def lookupCalls : List HistCall :=
  [.insert (sampleReceipt "ar_1") false, .anchor "default", .insert (sampleReceipt "ar_2") false,
    .anchor "default"]

/-- Second 5; the first publication ends as given, the others are good. -/
def lookupStart (first : Publication) : World ℚ :=
  { sampleWorld 5000 with
    publications := [first, .anchored "sola_1" "sig", .anchored "btca_2" "mock",
      .anchored "sola_2" "sig"] }

def lookupRun (first : Publication) (sched : List Event) : SrvConfig ℚ AppError HistResult :=
  (Config.init (lookupStart first) (lookupCalls.map (HistCall.prog lookupEnv bothPublishers))).run
    sched

/-- The receipt is inserted and anchored. -/
def insertAndAnchor (i j : ℕ) : List Event :=
  List.replicate 2 (.step i) ++ List.replicate 11 (.step j)

/-- A second apart. -/
def apartSched : List Event := insertAndAnchor 0 1 ++ [.tick 1000] ++ insertAndAnchor 2 3

/-- Both receipts in second 5, the second batch in second 6. -/
def sameSecondSched : List Event :=
  insertAndAnchor 0 1 ++ List.replicate 2 (.step 2) ++ [.tick 1000] ++ List.replicate 11 (.step 3)

/-- The leaves of the stored batches, the newest batch first. -/
def leafIds (c : SrvConfig ℚ AppError HistResult) : List (List String) :=
  (c.log.filterMap storedBatch).map fun x => x.2.map fun r => r.receiptId

theorem lookup_finds_second :
    ∃ q, ((proofForReceiptForTenant lookupEnv "ar_2" "default").exec
      (lookupRun (.anchored "btca_1" "mock") apartSched).world).1 = .ok (some q) := by
  -- for any schedule, so that the run is not evaluated here
  have hrun : ∀ sched, LogOk (fun e _ => freshId e = true ∧ coversAlone "default" 6 e = true)
        (lookupRun (.anchored "btca_1" "mock") sched).log →
      (lookupRun (.anchored "btca_1" "mock") sched).world.faults = [] →
      ((lookupRun (.anchored "btca_1" "mock") sched).log.any fun e =>
        (storedBatch e).any fun x => x.2.any fun r =>
          r.receiptId == "ar_2" && r.tenantId == "default" && r.timestamp == 6) = true →
      ∃ q, ((proofForReceiptForTenant lookupEnv "ar_2" "default").exec
        (lookupRun (.anchored "btca_1" "mock") sched).world).1 = .ok (some q) := by
    intro sched halone hfaults hleaf
    obtain ⟨e, he, hany⟩ := List.any_eq_true.1 hleaf
    obtain ⟨⟨row, rs⟩, hstored, hany⟩ := (Option.any_eq_true _ _).1 hany
    obtain ⟨r, hr, hr2⟩ := List.any_eq_true.1 hany
    simp only [Bool.and_eq_true, beq_iff_eq] at hr2
    obtain ⟨q, -, -, -, hq, -⟩ := lookup_finds_batch lookupEnv bothPublishers lookupCalls
      (lookupStart (.anchored "btca_1" "mock")) List.nodup_nil rfl sched "default" r
      (hr2.2 ▸ halone) rfl (World.Reliable.of_nil hfaults) e he row rs hstored hr
      (by rw [hr2.1.2]; rfl)
    exact ⟨q, hr2.1.1 ▸ hq⟩
  exact hrun apartSched (by decide +kernel) (by decide +kernel) (by decide +kernel)

/-- A receipt that is a leaf of a submitted batch gets an error when an older batch ends in
the same second; and a receipt whose batch was tried again gets its proof from the batch
that was not published in full. -/
theorem lookup_misses_batch :
    (leafIds (lookupRun (.anchored "btca_1" "mock") sameSecondSched) = [["ar_2"], ["ar_1"]] ∧
      ((proofForReceiptForTenant lookupEnv "ar_2" "default").exec
        (lookupRun (.anchored "btca_1" "mock") sameSecondSched).world).1 =
          .error "receipt not in batch (DB drift?)") ∧
      leafIds (lookupRun (.failed "timeout") apartSched) = [["ar_1", "ar_2"], ["ar_1"]] ∧
      (lookupRun (.failed "timeout") apartSched).world.db.anchors.map
        (fun b => (b.anchorId, b.anchorStatus)) = [("aaa_", .partially), ("aaa_f", .submitted)] ∧
      (((proofForReceiptForTenant lookupEnv "ar_1" "default").exec
        (lookupRun (.failed "timeout") apartSched).world).1.map
          fun q => q.map fun q => q.anchorId) = .ok (some "aaa_") := by
  decide +kernel

end SauronID.Anchor
