import Mathlib
import SauronID.Anchor.Batch
import SauronID.Lib.Chain

/-!
# The audit chain

Every entry of the security audit log is sealed by a keyed hash over its columns, joined by
bars, and over the seal of the entry before. `verifyAuditChain` walks the numbered rows and
recomputes the seals.

The join can be read back only when no column contains a bar, and the walk skips rows that
have no number: `audit_chain_tamper_evident` says that a table shows every change exactly
when it has neither.
-/

namespace SauronID.Audit

open Conc Text Anchor

variable {F : Type}

/-! ## Verification -/

/-- `SELECT … FROM security_audit_log WHERE seq IS NOT NULL ORDER BY seq ASC` -/
def numberedRows (rows : List AuditRow) : List AuditRow :=
  orderBy (fun r => r.seq.getD 0) (rows.filter fun r => r.seq.isSome)

/-- The columns of a row that an event fills. -/
def recordOf (r : AuditRow) : AuditRecord :=
  ⟨r.auditId, r.tenantId, r.eventType, r.eventJson, r.timestamp⟩

/-- The seal of a row, recomputed from its own columns. -/
def sealOf (env : Env F) (r : AuditRow) : String :=
  computeEntryHash env (r.seq.getD 0) r.prevHash (recordOf r)

/-- The loop of `verify_audit_chain`. -/
def verifyRowsFrom (env : Env F) : List AuditRow → ℤ → String → ℕ → Except String ℕ
  | [], _, _, count => .ok count
  | r :: rows, expectedSeq, prev, count =>
    let seq := r.seq.getD 0
    if seq ≠ expectedSeq then
      .error s!"seq gap: expected {expectedSeq}, got {seq} (row deleted/reordered)"
    else if r.prevHash ≠ prev then .error s!"prev_hash mismatch at seq {seq} (chain broken)"
    else if sealOf env r ≠ r.entryHash then
      .error s!"entry_hash mismatch at seq {seq} (row tampered)"
    else verifyRowsFrom env rows (expectedSeq + 1) r.entryHash (count + 1)

def verifyAuditChain (env : Env F) : Srv F String ℕ := do
  let rows ← (Srv.select .other fun db => numberedRows db.audit).mapErr fun e =>
    s!"query: {e}"
  Prog.ofExcept (verifyRowsFrom env rows 1 "genesis" 0)

/-! ## What a successful walk has found -/

/-- The rows are linked by their seals. -/
abbrev Sealed (k : ℤ) (b : String) (rows : List AuditRow) : Prop :=
  LinkedFrom (fun r : AuditRow => r.seq.getD 0) (fun r => r.prevHash) (fun r => r.entryHash) k b
    rows

variable {env : Env F} {rows : List AuditRow} {b : String} {n : ℕ}

theorem verifyRowsFrom_eq_ok {k : ℤ} {c : ℕ} : verifyRowsFrom env rows k b c = .ok n ↔
      Sealed k b rows ∧ (∀ r ∈ rows, sealOf env r = r.entryHash) ∧ n = c + rows.length := by
  induction rows generalizing k b c with
  | nil => simp [verifyRowsFrom, LinkedFrom, eq_comm]
  | cons r rows ih =>
    simp only [verifyRowsFrom, LinkedFrom, List.forall_mem_cons, List.length_cons]
    by_cases hseq : r.seq.getD 0 = k
    · by_cases hprev : r.prevHash = b
      · by_cases hseal : sealOf env r = r.entryHash
        · simp only [hseq, hprev, hseal, ne_eq, not_true_eq_false, if_false, true_and, ih]
          rw [show c + 1 + rows.length = c + (rows.length + 1) by omega]
        · simp [hseq, hprev, hseal]
      · simp [hseq, hprev]
    · simp [hseq]

variable {w : World F}

theorem verifyAuditChain_eq_ok : ((verifyAuditChain env).exec w).1 = .ok n ↔ w.fault = none ∧
      Sealed 1 "genesis" (numberedRows w.db.audit) ∧
      (∀ r ∈ numberedRows w.db.audit, sealOf env r = r.entryHash) ∧
      n = (numberedRows w.db.audit).length := by
  simp only [verifyAuditChain, Srv.select, Prog.mapErr, Prog.step_bind, Prog.exec_step]
  cases hfault : w.fault with
  | some e => simp [Prog.fail, Prog.mapErr]
  | none =>
    simp only [Prog.pure_eq, Prog.mapErr, Prog.done_ok_bind, Prog.ofExcept, Prog.exec_done,
      true_and]
    rw [verifyRowsFrom_eq_ok, Nat.zero_add]

/-! ## What a seal commits to -/

/-- No column that an event fills with text contains the separator. -/
def BarFree (r : AuditRow) : Prop :=
  '|' ∉ r.auditId.toList ∧ '|' ∉ r.tenantId.toList ∧ '|' ∉ r.eventType.toList ∧
    '|' ∉ r.eventJson.toList

instance (r : AuditRow) : Decidable (BarFree r) := inferInstanceAs (Decidable (_ ∧ _))

/-- The parts of the sealed text. -/
def sealParts (r : AuditRow) : List (List Char) :=
  [(toString (r.seq.getD 0)).toList, r.prevHash.toList, r.auditId.toList, r.tenantId.toList,
    r.eventType.toList, r.eventJson.toList, (toString r.timestamp).toList]

theorem sealOf_eq (env : Env F) (r : AuditRow) :
    sealOf env r = hexEncode (env.hmacSha256 env.auditHmacKey
      (utf8 (String.ofList (['|'].intercalate (sealParts r))))) := by
  have htext : toString (r.seq.getD 0) ++ "|" ++ r.prevHash ++ "|" ++ r.auditId ++ "|" ++
      r.tenantId ++ "|" ++ r.eventType ++ "|" ++ r.eventJson ++ "|" ++ toString r.timestamp =
        String.ofList (['|'].intercalate (sealParts r)) := by
    refine String.toList_injective ?_
    simp [sealParts, List.intercalate]
  exact congrArg (fun text => hexEncode (env.hmacSha256 env.auditHmacKey (utf8 text))) htext

variable {r r' : AuditRow}

/-- The seal of a numbered row determines the row, if its columns have no bar in them. -/
theorem eq_of_sealOf_eq (hmac : Function.Injective (env.hmacSha256 env.auditHmacKey))
    (hfree : BarFree r) (hprev : '|' ∉ r.prevHash.toList) (hnum : r.seq.isSome = true)
    (hnum' : r'.seq.isSome = true) (hseal : sealOf env r = sealOf env r')
    (hhash : r.entryHash = r'.entryHash) : r = r' := by
  rw [sealOf_eq, sealOf_eq] at hseal
  have htext := String.ofList_injective (utf8_injective (hmac (hexEncode_injective hseal)))
  obtain ⟨hid, htenant, htype, hjson⟩ := hfree
  have hparts : sealParts r = sealParts r' := by
    refine intercalate_inj rfl ?_ htext
    simp only [sealParts, List.forall_mem_cons]
    exact ⟨notMem_toString_int (by decide) (by decide) _, hprev, hid, htenant, htype, hjson,
      notMem_toString_int (by decide) (by decide) _, List.forall_mem_nil _⟩
  simp only [sealParts, List.cons.injEq, and_true, String.toList_inj] at hparts
  obtain ⟨hseq, hprev', hid', htenant', htype', hjson', htime⟩ := hparts
  obtain ⟨k, hk⟩ := Option.isSome_iff_exists.1 hnum
  obtain ⟨k', hk'⟩ := Option.isSome_iff_exists.1 hnum'
  have hseq' : r.seq = r'.seq := by
    rw [hk, hk'] at hseq ⊢
    exact congrArg some (Int.repr_injective hseq)
  cases r
  cases r'
  simp only [AuditRow.mk.injEq]
  exact ⟨hid', htenant', htype', hjson', Int.repr_injective htime, hseq', hprev', hhash⟩

/-- The links of a verified chain are seals, so they have no bar in them. -/
theorem notMem_prevHash (hlinked : Sealed 1 "genesis" rows)
    (hseal : ∀ r ∈ rows, sealOf env r = r.entryHash) : ∀ r ∈ rows, '|' ∉ r.prevHash.toList := by
  intro r hr
  rcases hlinked.prev_cases hr with h | ⟨x, hx, h⟩
  · rw [h]
    decide
  · rw [h, ← hseal x hx]
    exact notMem_hexEncode (by decide) _

/-! ## Changing a table -/

/-- What can be made of a table without the key: columns change, but every row carries a
seal that was there before. -/
structure Tampered (rows rows' : List AuditRow) : Prop where
  length_eq : rows'.length = rows.length
  entryHash_mem : ∀ r' ∈ rows', ∃ r ∈ rows, r'.entryHash = r.entryHash

/-- The newest seal of a chain is where it ends. -/
theorem chainEnd_of_auditHead {db : Db F} (h : Sealed 1 b (numberedRows db.audit)) :
    (chainEnd (fun r : AuditRow => r.seq.getD 0) (fun r => r.entryHash) 1 b
      (numberedRows db.audit)).2 = ((auditHead db 0).map Prod.snd).getD b := by
  cases hpick : pickMax (fun r : AuditRow => r.seq.getD 0) 0
      (db.audit.filter fun r => r.seq.isSome) with
  | none =>
    have hnil : numberedRows db.audit = [] := by
      rw [numberedRows, pickMax_eq_none.1 hpick]
      rfl
    simp [auditHead, hpick, hnil, chainEnd]
  | some r =>
    obtain ⟨hr, hmax⟩ := pickMax_mem hpick
    rw [h.end_eq (mem_orderBy.2 hr) fun x hx => hmax x (mem_orderBy.1 hx)]
    simp [auditHead, hpick]

/-- A table whose rows are all numbered and free of bars shows every change. -/
theorem perm_of_tampered (hmac : Function.Injective (env.hmacSha256 env.auditHmacKey))
    {w' : World F} (hfree : ∀ r ∈ w.db.audit, r.seq.isSome = true ∧ BarFree r)
    (hok : ((verifyAuditChain env).exec w).1 = .ok n)
    (hok' : ((verifyAuditChain env).exec w').1 = .ok n)
    (hlen : w'.db.audit.length = w.db.audit.length) (hhead : auditHead w'.db 0 = auditHead w.db 0) :
    w'.db.audit.Perm w.db.audit := by
  obtain ⟨-, hlinked, hseal, hn⟩ := verifyAuditChain_eq_ok.1 hok
  obtain ⟨-, hlinked', hseal', hn'⟩ := verifyAuditChain_eq_ok.1 hok'
  have hperm : (numberedRows w.db.audit).Perm w.db.audit := by
    rw [numberedRows, List.filter_eq_self.2 fun r hr => (hfree r hr).1]
    exact perm_orderBy _ _
  -- as many rows verify as the table has, so all rows of the changed table are numbered
  have hall : w'.db.audit.filter (fun r => r.seq.isSome) = w'.db.audit := by
    refine List.filter_sublist.eq_of_length ?_
    rw [hlen, ← hperm.length_eq, ← hn, hn']
    exact ((perm_orderBy _ _).length_eq).symm
  have hperm' : (numberedRows w'.db.audit).Perm w'.db.audit := by
    rw [numberedRows, hall]
    exact perm_orderBy _ _
  have hsame : (numberedRows w.db.audit).map id = (numberedRows w'.db.audit).map id := by
    refine hlinked.map_eq hlinked' (by omega) ?_ fun r hr r' hr' hhash => ?_
    · rw [chainEnd_of_auditHead hlinked, chainEnd_of_auditHead hlinked', hhead]
    · have hmem := hperm.mem_iff.1 hr
      have hnum' : r'.seq.isSome = true := List.filter_eq_self.1 hall r' (hperm'.mem_iff.1 hr')
      have heq : r = r' := eq_of_sealOf_eq hmac (hfree r hmem).2
        (notMem_prevHash hlinked hseal r hr) (hfree r hmem).1 hnum'
        (by rw [hseal r hr, hseal' r' hr', hhash]) hhash
      exact ⟨heq, congrArg _ heq⟩
  rw [List.map_id, List.map_id] at hsame
  exact hperm'.symm.trans ((List.Perm.of_eq hsame.symm).trans hperm)

/-- Put a row in the place of another one. -/
def swapRow (r r' x : AuditRow) : AuditRow := if x = r then r' else x

/-- A row can give way to another one that the walk cannot tell from it. -/
structure Indistinguishable (env : Env F) (r r' : AuditRow) : Prop where
  ne : r ≠ r'
  seq : r'.seq = r.seq
  entryHash : r'.entryHash = r.entryHash
  numbered : r.seq.isSome = true → r'.prevHash = r.prevHash ∧ sealOf env r' = sealOf env r

section Swap

variable {env : Env F} {r r' : AuditRow} (hind : Indistinguishable env r r')

include hind

theorem swapRow_seq (x : AuditRow) : (swapRow r r' x).seq = x.seq := by
  by_cases h : x = r
  · simp [swapRow, h, hind.seq]
  · simp [swapRow, h]

theorem swapRow_entryHash (x : AuditRow) : (swapRow r r' x).entryHash = x.entryHash := by
  by_cases h : x = r
  · simp [swapRow, h, hind.entryHash]
  · simp [swapRow, h]

theorem swapRow_numbered {x : AuditRow} (hx : x.seq.isSome = true) :
    (swapRow r r' x).prevHash = x.prevHash ∧ sealOf env (swapRow r r' x) = sealOf env x := by
  by_cases h : x = r
  · subst h
    simpa [swapRow] using hind.numbered hx
  · simp [swapRow, h]

theorem filter_isSome_swapRow (rows : List AuditRow) :
    (rows.map (swapRow r r')).filter (fun x => x.seq.isSome) =
      (rows.filter fun x => x.seq.isSome).map (swapRow r r') := by
  rw [List.filter_map]
  congr 1
  exact List.filter_congr fun x _ => by rw [Function.comp_apply, swapRow_seq hind]

theorem numberedRows_swapRow (rows : List AuditRow) :
    numberedRows (rows.map (swapRow r r')) = (numberedRows rows).map (swapRow r r') := by
  rw [numberedRows, filter_isSome_swapRow hind, orderBy_map fun x => by rw [swapRow_seq hind]]
  rfl

/-- The walk over the changed table finds the same chain. -/
theorem verify_swapRow {w : World F} {n : ℕ} (hok : ((verifyAuditChain env).exec w).1 = .ok n) :
    ((verifyAuditChain env).exec
      { w with db := { w.db with audit := w.db.audit.map (swapRow r r') } }).1 = .ok n := by
  obtain ⟨hfault, hlinked, hseal, hn⟩ := verifyAuditChain_eq_ok.1 hok
  have hnum : ∀ x ∈ numberedRows w.db.audit, x.seq.isSome = true := fun x hx =>
    (List.mem_filter.1 (mem_orderBy.1 hx)).2
  refine verifyAuditChain_eq_ok.2 ⟨hfault, ?_, ?_, ?_⟩
  · simp only [numberedRows_swapRow hind]
    refine hlinked.map fun x hx => ⟨?_, (swapRow_numbered hind (hnum x hx)).1, ?_⟩
    · rw [swapRow_seq hind]
    · rw [swapRow_entryHash hind]
  · simp only [numberedRows_swapRow hind, List.forall_mem_map]
    intro x hx
    rw [(swapRow_numbered hind (hnum x hx)).2, swapRow_entryHash hind, hseal x hx]
  · simp only [numberedRows_swapRow hind, List.length_map, hn]

theorem auditHead_swapRow (db : Db F) :
    auditHead { db with audit := db.audit.map (swapRow r r') } 0 = auditHead db 0 := by
  rw [auditHead, filter_isSome_swapRow hind, pickMax_map fun x => by rw [swapRow_seq hind],
    Option.map_map]
  rw [auditHead]
  congr 1
  funext x
  rw [Function.comp_apply, swapRow_seq hind, swapRow_entryHash hind]

/-- The replaced row is gone. -/
theorem not_perm_swapRow {rows : List AuditRow} (hr : r ∈ rows) :
    ¬ (rows.map (swapRow r r')).Perm rows := by
  intro hperm
  obtain ⟨x, -, hx⟩ := List.mem_map.1 (hperm.mem_iff.2 hr)
  by_cases h : x = r
  · exact hind.ne (by simpa [swapRow, h] using hx.symm)
  · rw [swapRow, if_neg h] at hx
    exact h hx

end Swap

/-- Rows with one sealed text have one seal. -/
theorem sealOf_congr (env : Env F)
    (h : ['|'].intercalate (sealParts r') = ['|'].intercalate (sealParts r)) :
    sealOf env r' = sealOf env r := by
  rw [sealOf_eq, sealOf_eq, h]

/-- A text with a bar in it can be cut there. -/
theorem exists_cut {s : String} (h : '|' ∈ s.toList) :
    ∃ u v : String, s.toList = u.toList ++ '|' :: v.toList ∧ s ≠ u ∧ s ≠ v := by
  obtain ⟨u, v, huv⟩ := List.append_of_mem h
  have hlen := congrArg List.length huv
  rw [List.length_append, List.length_cons] at hlen
  refine ⟨String.ofList u, String.ofList v, by simpa using huv, ?_, ?_⟩
  · rintro rfl
    rw [String.toList_ofList] at hlen
    omega
  · rintro rfl
    rw [String.toList_ofList] at hlen
    omega

/-- A column with a bar in it can lose a part to its neighbour, and a row without a number
can change at will. -/
theorem exists_indistinguishable (env : Env F)
    (h : ¬ (r.seq.isSome = true ∧ BarFree r)) : ∃ r', Indistinguishable env r r' := by
  by_cases hnum : r.seq.isSome = true
  · have hbar : '|' ∈ r.auditId.toList ∨ '|' ∈ r.tenantId.toList ∨ '|' ∈ r.eventType.toList ∨
        '|' ∈ r.eventJson.toList := by
      by_contra hno
      push Not at hno
      exact h ⟨hnum, hno⟩
    rcases hbar with hbar | hbar | hbar | hbar <;> obtain ⟨u, v, huv, hu, hv⟩ := exists_cut hbar
    · refine ⟨{ r with auditId := u, tenantId := v ++ "|" ++ r.tenantId }, ?_, rfl, rfl, fun _ =>
        ⟨rfl, sealOf_congr env ?_⟩⟩
      · exact fun heq => hu (congrArg AuditRow.auditId heq)
      · simp [sealParts, List.intercalate, huv]
    · refine ⟨{ r with auditId := r.auditId ++ "|" ++ u, tenantId := v }, ?_, rfl, rfl, fun _ =>
        ⟨rfl, sealOf_congr env ?_⟩⟩
      · exact fun heq => hv (congrArg AuditRow.tenantId heq)
      · simp [sealParts, List.intercalate, huv]
    · refine ⟨{ r with tenantId := r.tenantId ++ "|" ++ u, eventType := v }, ?_, rfl, rfl, fun _ =>
        ⟨rfl, sealOf_congr env ?_⟩⟩
      · exact fun heq => hv (congrArg AuditRow.eventType heq)
      · simp [sealParts, List.intercalate, huv]
    · refine ⟨{ r with eventType := r.eventType ++ "|" ++ u, eventJson := v }, ?_, rfl, rfl,
        fun _ => ⟨rfl, sealOf_congr env ?_⟩⟩
      · exact fun heq => hv (congrArg AuditRow.eventJson heq)
      · simp [sealParts, List.intercalate, huv]
  · refine ⟨{ r with timestamp := r.timestamp + 1 }, ?_, rfl, rfl, fun h => absurd h hnum⟩
    intro heq
    have := congrArg AuditRow.timestamp heq
    dsimp only at this
    omega

/-- **Tamper evidence of the audit log.** A table that verifies shows every change made
without the key, exactly when all its rows are numbered and no column of text contains a
bar. -/
theorem audit_chain_tamper_evident (env : Env F)
    (hmac : Function.Injective (env.hmacSha256 env.auditHmacKey)) {w : World F} {n : ℕ}
    (hok : ((verifyAuditChain env).exec w).1 = .ok n) :
    (∀ w' : World F, Tampered w.db.audit w'.db.audit →
      ((verifyAuditChain env).exec w').1 = .ok n → auditHead w'.db 0 = auditHead w.db 0 →
        w'.db.audit.Perm w.db.audit) ↔
      ∀ r ∈ w.db.audit, r.seq.isSome = true ∧ BarFree r := by
  constructor
  · intro hevident r hr
    by_contra hbad
    obtain ⟨r', hind⟩ := exists_indistinguishable env hbad
    refine not_perm_swapRow hind hr (hevident _ ⟨List.length_map _, ?_⟩
      (verify_swapRow hind hok) (auditHead_swapRow hind w.db))
    exact List.forall_mem_map.2 fun x hx => ⟨x, hx, swapRow_entryHash hind x⟩
  · intro hfree w' htampered hok' hhead
    exact perm_of_tampered hmac hfree hok hok' htampered.length_eq hhead

/-! ## A shifted column -/

/-- The keyed hash keeps its input. -/
def plainSealEnv : Env ℚ := { sampleEnv ℚ with hmacSha256 := fun _ input => input }

/-- A row of the log, sealed over the hash of the row before. -/
def sealedEvent (seq : ℤ) (prevHash auditId tenantId : String) : AuditRow :=
  { auditId := auditId, tenantId := tenantId, eventType := "login", eventJson := "",
    timestamp := 5, seq := some seq, prevHash := prevHash,
    entryHash :=
      computeEntryHash plainSealEnv seq prevHash ⟨auditId, tenantId, "login", "", 5⟩ }

/-- A log of one event of a tenant. -/
def oneEvent (auditId tenantId : String) : World ℚ :=
  World.steady { Db.empty ℚ with audit := [sealedEvent 1 "genesis" auditId tenantId] } 0

/-- A log of two linked events. -/
def twoEvents : World ℚ :=
  let first := sealedEvent 1 "genesis" "a" "t"
  World.steady
    { Db.empty ℚ with audit := [first, sealedEvent 2 first.entryHash "b" "u"] } 0

/-- A log whose events name no bar shows every change. -/
theorem audit_chain_tamper_evident_plain :
    ((verifyAuditChain plainSealEnv).exec twoEvents).1 = .ok 2 ∧
      ∀ w' : World ℚ, Tampered twoEvents.db.audit w'.db.audit →
        ((verifyAuditChain plainSealEnv).exec w').1 = .ok 2 →
        auditHead w'.db 0 = auditHead twoEvents.db 0 →
          w'.db.audit.Perm twoEvents.db.audit := by
  have hok : ((verifyAuditChain plainSealEnv).exec twoEvents).1 = .ok 2 := by
    decide +kernel
  exact ⟨hok, (audit_chain_tamper_evident plainSealEnv Function.injective_id hok).2
    (by decide +kernel)⟩

/-- The event `a` of tenant `b|c` passes for the event `a|b` of tenant `c`. -/
theorem audit_column_shifted :
    Function.Injective (plainSealEnv.hmacSha256 plainSealEnv.auditHmacKey) ∧
      ((verifyAuditChain plainSealEnv).exec (oneEvent "a" "b|c")).1 = .ok 1 ∧
      Tampered (oneEvent "a" "b|c").db.audit (oneEvent "a|b" "c").db.audit ∧
      ((verifyAuditChain plainSealEnv).exec (oneEvent "a|b" "c")).1 = .ok 1 ∧
      auditHead (oneEvent "a|b" "c").db 0 = auditHead (oneEvent "a" "b|c").db 0 ∧
      ¬ (oneEvent "a|b" "c").db.audit.Perm (oneEvent "a" "b|c").db.audit := by
  refine ⟨Function.injective_id, by decide +kernel, ⟨rfl, by decide +kernel⟩, by decide +kernel,
    by decide +kernel, by decide +kernel⟩

end SauronID.Audit
