import Mathlib
import SauronID.Audit.Report
import SauronID.Lib.Codec
import SauronID.Lib.Encoding
import SauronID.Model.Env

/-!
# The MAC of an audit report

`sign_report` authenticates everything of a report but the time it was generated. Two parts of
what it covers are not determined by the report's data: the denial breakdown is a `HashMap`
and is printed in the order the map iterates, and the report id is drawn at random for each
build. `report_mac_iff` says when a stored report keeps its MAC, and when two builds over one
state have one MAC.

The text of a document is left to `serde_json` (`Serde`). A map is its list of entries in the
order of iteration; a map that is read back iterates in any order.
-/

namespace SauronID.Audit

open Text

/-! ## Signing -/

/-- `Canon`: what is signed of a report. -/
structure Canon (F : Type) where
  reportId : String
  tenantId : String
  agentIds : List String
  periodStart : ℤ
  periodEnd : ℤ
  merkleRoot : String
  sections : List (AuditSection F)
  anchors : AnchorEvidence
  zkProofs : List AttachedProof
  rawReceiptsCount : ℕ
  policyComplianceSummary : ComplianceSummary F

variable {F : Type}

def AuditReport.canon (r : AuditReport F) : Canon F where
  reportId := r.reportId
  tenantId := r.tenantId
  agentIds := r.agentIds
  periodStart := r.periodStart
  periodEnd := r.periodEnd
  merkleRoot := r.merkleRoot
  sections := r.sections
  anchors := r.anchors
  zkProofs := r.zkProofs
  rawReceiptsCount := r.rawReceiptsCount
  policyComplianceSummary := r.policyComplianceSummary

/-- The same evidence, its map in another order of iteration. -/
inductive SectionEvidence.Reordered : SectionEvidence F → SectionEvidence F → Prop
  | refl (e : SectionEvidence F) : Reordered e e
  | map {entries entries' : List (String × ℕ)} (allowed denied : ℕ) (h : entries.Perm entries') :
      Reordered (.policyEvaluations allowed denied entries)
        (.policyEvaluations allowed denied entries')

def AuditSection.Reordered (s s' : AuditSection F) : Prop :=
  ∃ e, s.evidence.Reordered e ∧ s' = { s with evidence := e }

/-- The same report, its maps in other orders of iteration. -/
def AuditReport.Reordered (r r' : AuditReport F) : Prop :=
  ∃ sections, List.Forall₂ AuditSection.Reordered r.sections sections ∧
    r' = { r with sections := sections }

/-- `serde_json` on reports: different documents have different texts, and the text of a
report is read as that report, with fresh maps. -/
structure Serde (F : Type) where
  /-- `to_vec` of the canonical form. -/
  canonBytes : Canon F → Bytes
  /-- `to_string` of a report. -/
  reportText : AuditReport F → String
  /-- `from_str`: the reports a text may be read as. -/
  Reads : String → AuditReport F → Prop
  canonBytes_injective : Function.Injective canonBytes
  reads_iff : ∀ r r', Reads (reportText r) r' ↔ r.Reordered r'

section Store

variable {G : Type} (env : Env G) (serde : Serde F)

/-- `sign_report` -/
def signReport (report : AuditReport F) (key : Bytes) : String :=
  hexEncode (env.hmacSha256 (env.deriveSubkey key "audit-report-hmac-v1")
    (serde.canonBytes report.canon))

/-- A row of `audit_reports`. -/
structure AuditReportRow where
  reportId : String
  tenantId : String
  agentIdsJson : String
  periodStart : ℤ
  periodEnd : ℤ
  generatedAt : ℤ
  reportJson : String
  signature : String

/-- The row that `store_report` inserts. -/
def auditReportRow (report : AuditReport F) (signature : String) : AuditReportRow where
  reportId := report.reportId
  tenantId := report.tenantId
  agentIdsJson := env.jsonText (.arr (report.agentIds.map .str))
  periodStart := report.periodStart
  periodEnd := report.periodEnd
  generatedAt := report.generatedAt
  reportJson := serde.reportText report
  signature := signature

/-- `store_report`: `INSERT OR IGNORE` under the report id. -/
def storeReport (rows : List AuditReportRow) (report : AuditReport F) (signature : String) :
    List AuditReportRow :=
  if rows.any fun row => row.reportId == report.reportId then rows
  else rows ++ [auditReportRow env serde report signature]

/-- `get_report`: what the call may return. -/
def GetReport (rows : List AuditReportRow) (tenantId reportId : String) :
    Option (AuditReport F) → Prop
  | some report => ∃ row ∈ rows, row.reportId = reportId ∧ row.tenantId = tenantId ∧
      serde.Reads row.reportJson report
  | none => ∀ row ∈ rows, ¬(row.reportId = reportId ∧ row.tenantId = tenantId)

variable {env serde} {key : Bytes} {r r' : AuditReport F}

theorem signReport_eq_iff
    (hmac : Function.Injective (env.hmacSha256 (env.deriveSubkey key "audit-report-hmac-v1"))) :
    signReport env serde r key = signReport env serde r' key ↔ r.canon = r'.canon := by
  rw [signReport, signReport, hexEncode_injective.eq_iff, hmac.eq_iff,
    serde.canonBytes_injective.eq_iff]

/-! ## Reading a report back -/

/-- The entries of the section's map, in the order of iteration. -/
def AuditSection.entries (s : AuditSection F) : List (String × ℕ) :=
  match s.evidence with
  | .policyEvaluations _ _ entries => entries
  | _ => []

/-- No map of the report has two entries to put in order. -/
def AuditReport.OneCheck (r : AuditReport F) : Prop := ∀ s ∈ r.sections, s.entries.length ≤ 1

theorem AuditSection.Reordered.refl (s : AuditSection F) : s.Reordered s :=
  ⟨s.evidence, .refl _, rfl⟩

theorem AuditReport.Reordered.refl (r : AuditReport F) : r.Reordered r :=
  ⟨r.sections, List.forall₂_same.2 fun s _ => .refl s, rfl⟩

theorem AuditSection.Reordered.eq {s s' : AuditSection F} (h : s.Reordered s')
    (hone : s.entries.length ≤ 1) : s = s' := by
  obtain ⟨e, he, rfl⟩ := h
  cases s with
  | mk heading statement evidence verdict =>
    cases he with
    | refl => rfl
    | @map entries entries' allowed denied hperm =>
      match entries, hone with
      | [], _ => rw [hperm.nil_eq]
      | [p], _ => rw [hperm.singleton_eq]

theorem eq_of_forall₂_reordered {sections sections' : List (AuditSection F)}
    (h : List.Forall₂ AuditSection.Reordered sections sections')
    (hone : ∀ s ∈ sections, s.entries.length ≤ 1) : sections = sections' := by
  induction h with
  | nil => rfl
  | cons hs _ ih =>
    obtain ⟨hfirst, hrest⟩ := List.forall_mem_cons.1 hone
    rw [hs.eq hfirst, ih hrest]

theorem AuditReport.OneCheck.eq_of_reordered (hone : r.OneCheck) (h : r.Reordered r') : r = r' := by
  obtain ⟨sections', hsections, rfl⟩ := h
  rw [← eq_of_forall₂_reordered hsections hone]

/-- A map of two entries can be read back the other way round. -/
theorem AuditReport.exists_reordered (hkeys : ∀ s ∈ r.sections, (s.entries.map Prod.fst).Nodup)
    (h : ¬r.OneCheck) : ∃ r', r.Reordered r' ∧ r'.canon ≠ r.canon := by
  simp only [OneCheck, not_forall] at h
  obtain ⟨s, hs, hlength⟩ := h
  have hnodup := hkeys s hs
  obtain ⟨before, after, hsections⟩ := List.append_of_mem hs
  obtain ⟨heading, statement, evidence, verdict⟩ := s
  match evidence with
  | .policyEvaluations allowed denied (p :: q :: entries) =>
    let s' : AuditSection F :=
      ⟨heading, statement, .policyEvaluations allowed denied (q :: p :: entries), verdict⟩
    refine ⟨{ r with sections := before ++ s' :: after }, ⟨_, ?_, rfl⟩, fun hcanon => ?_⟩
    · rw [hsections]
      refine List.rel_append (List.forall₂_same.2 fun s _ => .refl s)
        (.cons ⟨_, .map allowed denied (List.Perm.swap q p entries), rfl⟩
          (List.forall₂_same.2 fun s _ => .refl s))
    · have hsame := congrArg Canon.sections hcanon
      simp only [canon, hsections] at hsame
      have hswap : q = p ∧ p = q := by simpa [s'] using hsame
      simp [AuditSection.entries, hswap.1] at hnodup
  | .policyEvaluations _ _ [] | .policyEvaluations _ _ [_] | .spendBound _ _ _
  | .toolAllowlist _ _ | .timeWindow _ _ _ | .anchorChain _ _ _ _ | .statsCommitment _ _ _ _ =>
    simp [AuditSection.entries] at hlength

variable {rows : List AuditReportRow} {report : AuditReport F}

theorem storeReport_of_fresh (hfresh : ∀ row ∈ rows, row.reportId ≠ report.reportId)
    (signature : String) : storeReport env serde rows report signature =
      rows ++ [auditReportRow env serde report signature] := by
  rw [storeReport, if_neg]
  simpa using hfresh

/-- **A stored report keeps its MAC.** Whatever report is read back under the id has the stored
signature, exactly when no map of the report has two entries. -/
theorem readBack_iff
    (hmac : Function.Injective (env.hmacSha256 (env.deriveSubkey key "audit-report-hmac-v1")))
    (hfresh : ∀ row ∈ rows, row.reportId ≠ report.reportId)
    (hkeys : ∀ s ∈ report.sections, (s.entries.map Prod.fst).Nodup) :
    (∀ row ∈ storeReport env serde rows report (signReport env serde report key),
        row.reportId = report.reportId → ∀ r',
        GetReport serde (storeReport env serde rows report (signReport env serde report key))
          report.tenantId report.reportId (some r') →
        signReport env serde r' key = row.signature) ↔ report.OneCheck := by
  -- the only row under the id is the one that was stored
  have honly {row : AuditReportRow} (hrow : row ∈ rows ++
      [auditReportRow env serde report (signReport env serde report key)])
      (hid : row.reportId = report.reportId) :
      row = auditReportRow env serde report (signReport env serde report key) :=
    (List.mem_append.1 hrow).elim (fun h => absurd hid (hfresh row h)) List.mem_singleton.1
  rw [storeReport_of_fresh hfresh]
  constructor
  · intro h
    by_contra hone
    obtain ⟨r', hr', hcanon⟩ := report.exists_reordered hkeys hone
    have hlast := List.mem_append_right rows (List.mem_singleton_self
      (auditReportRow env serde report (signReport env serde report key)))
    exact hcanon ((signReport_eq_iff hmac).1
      (h _ hlast rfl r' ⟨_, hlast, rfl, rfl, (serde.reads_iff _ _).2 hr'⟩))
  · rintro hone row hrow hid r' ⟨row', hrow', hid', -, hreads⟩
    rw [honly hrow' hid', auditReportRow, serde.reads_iff] at hreads
    rw [honly hrow hid, hone.eq_of_reordered hreads]
    rfl

end Store

/-! ## Two builds over one state -/

/-- A row of an anchor table, with the columns that the query selects. -/
structure AnchorAt (α : Type) where
  tenantId : String
  createdAt : ℤ
  columns : α

/-- The two anchor tables, as far as a report reads them. -/
structure AnchorTables where
  btc : List (AnchorAt (String × Option Bytes × ℕ)) := []
  sol : List (AnchorAt (String × String × ℕ)) := []

/-- What one build draws and is given: its id and time, the rows in the order the queries
returned them, and the order in which the map of denials iterates. -/
structure Build where
  reportId : String
  now : ℤ
  receipts : List ReceiptRow
  stats : List StatsRow
  violations : List PolicyViolation
  found : AnchorsFound
  breakdown : List (String × ℕ)

section Builds

variable (readEvent : String → Option PolicyViolation) (base64 : Bytes → String) (db : Db ℚ)
  (anchors : AnchorTables) (tenantId : String) (req : BuildRequest)

/-- `… ORDER BY created_at DESC LIMIT 1` -/
def IsLatest {α : Type} (rows : List (AnchorAt α)) (found : Option α) : Prop :=
  let rows := rows.filter fun row => row.tenantId == tenantId && req.covers row.createdAt
  match found with
  | none => rows = []
  | some columns =>
      ∃ row ∈ rows, row.columns = columns ∧ ∀ row' ∈ rows, row'.createdAt ≤ row.createdAt

/-- The rows are those of the state; the queries without `ORDER BY`, and ties, leave their
order open. -/
structure Build.Over (b : Build) : Prop where
  valid : ¬req.periodEnd < req.periodStart
  receipts : b.receipts.Perm (periodReceipts db tenantId req)
  stats : b.stats.Perm (periodStats db tenantId req)
  sorted : b.stats.Pairwise fun r r' =>
    toLex (r.periodStart, r.metricId) ≤ toLex (r'.periodStart, r'.metricId)
  violations : b.violations.Perm (periodViolations readEvent db tenantId req)
  btc : IsLatest tenantId req anchors.btc b.found.btc
  sol : IsLatest tenantId req anchors.sol b.found.sol
  breakdown : b.breakdown.Perm (denialsOf b.violations).breakdown

/-- The section with its map in the given order of iteration. -/
def AuditSection.withEntries (entries : List (String × ℕ)) (s : AuditSection F) : AuditSection F :=
  match s.evidence with
  | .policyEvaluations allowed denied _ =>
      { s with evidence := .policyEvaluations allowed denied entries }
  | _ => s

/-- The report of a build. -/
def Build.report (b : Build) : AuditReport ℚ :=
  let report := assembleReport ⟨readEvent, base64, b.found, b.reportId, b.now⟩ tenantId req
    b.receipts b.stats b.violations
  { report with sections := report.sections.map (.withEntries b.breakdown) }

/-- The columns of `customer_stats` that the query selects. -/
def selected (r : StatsRow) : StatsRow :=
  ⟨"", "", r.metricId, r.claimedValue, r.nRecords, 0, 0, r.merkleRoot, r.proofB64, r.vkId, "", 0⟩

/-- What two builds over one state must have in common for one MAC. -/
structure Build.Agree (b b' : Build) : Prop where
  reportId : b.reportId = b'.reportId
  policyIds : (denialsOf b.violations).policyIds = (denialsOf b'.violations).policyIds
  breakdown : b.breakdown = b'.breakdown
  stats : b.stats.map selected = b'.stats.map selected
  anchorSection : (anchorSection b.found : AuditSection ℚ) = anchorSection b'.found
  anchorEvidence : anchorEvidence base64 b.found = anchorEvidence base64 b'.found

end Builds

/-! ### What does not depend on the order -/

theorem count_countCheck (check c : String) (l : List (String × ℕ)) :
    (((countCheck check l).find? fun p => p.1 == c).map Prod.snd).getD 0 =
      if check = c then wrapU32 (((l.find? fun p => p.1 == c).map Prod.snd).getD 0 + 1)
      else ((l.find? fun p => p.1 == c).map Prod.snd).getD 0 := by
  induction l with
  | nil => by_cases h : check = c <;> simp [countCheck, h, wrapU32]
  | cons p l ih =>
    obtain ⟨c', n⟩ := p
    by_cases h : c' = check
    · subst h
      by_cases hc : c' = c <;> simp [countCheck, hc]
    · by_cases hc : c' = c
      · subst hc
        simp [countCheck, h, Ne.symm h]
      · simpa [countCheck, h, hc] using ih

theorem count_denialsOf (violations : List PolicyViolation) (c : String) :
    (denialsOf violations).count c = wrapU32 (violations.countP fun v => v.check == c) := by
  induction violations using List.reverseRecOn with
  | nil => rfl
  | append_singleton violations v ih =>
    rw [denialsOf, List.foldl_append]
    change (Denials.add (denialsOf violations) v).count c = _
    rw [Denials.count, Denials.add, count_countCheck, ← Denials.count, ih, List.countP_append]
    by_cases h : v.check = c <;> simp [h, wrapU32]

theorem denied_eq_min (violations : List PolicyViolation) :
    (denialsOf violations).denied = min violations.length (2 ^ 32 - 1) := by
  induction violations using List.reverseRecOn with
  | nil => rfl
  | append_singleton violations v ih =>
    rw [denialsOf, List.foldl_append]
    change satAddU32 (denialsOf violations).denied 1 = _
    rw [ih, satAddU32, List.length_append, List.length_singleton]
    omega

theorem observedAgents_perm {req : BuildRequest} {receipts receipts' : List ReceiptRow}
    (h : receipts.Perm receipts') : observedAgents req receipts = observedAgents req receipts' := by
  unfold observedAgents
  split
  · have hagents : (receipts.map fun r => r.agentId).Perm (receipts'.map fun r => r.agentId) :=
      h.map _
    rw [List.Perm.eq_of_pairwise (fun _ _ _ _ => le_antisymm) (pairwise_orderBy id _)
      (pairwise_orderBy id _)
      ((perm_orderBy id _).trans (hagents.trans (perm_orderBy id _).symm))]
  · rfl

/-! ### The report is made of the selected columns -/

variable {stats stats' : List StatsRow}

theorem map_selected {α : Type} {f : StatsRow → α} (hf : ∀ r, f (selected r) = f r)
    (h : stats.map selected = stats'.map selected) : stats.map f = stats'.map f := by
  have hcomp : f = f ∘ selected := funext fun r => (hf r).symm
  rw [hcomp, ← List.map_map, ← List.map_map, h]

theorem find?_selected {p : StatsRow → Bool} (hp : ∀ r, p (selected r) = p r)
    (h : stats.map selected = stats'.map selected) :
    (stats.find? p).map selected = (stats'.find? p).map selected := by
  have hcomp : p = p ∘ selected := funext fun r => (hp r).symm
  rw [hcomp, ← List.find?_map, ← List.find?_map, h]

theorem spendSection_selected (o : Option StatsRow) :
    (spendSection (o.map selected) : AuditSection ℚ) = spendSection o := by
  cases o <;> rfl

/-- The proofs attached for the submissions. -/
def attached (stats : List StatsRow) : List AttachedProof :=
  stats.map statsProof ++ (stats.find? isSpendMetric).toList.map (spendProof stats)

theorem attached_selected (stats : List StatsRow) :
    attached (stats.map selected) = attached stats := by
  have hproof (r : StatsRow) :
      spendProof (stats.map selected) (selected r) = spendProof stats r := by
    simp only [spendProof, List.find?_map, Option.map_map]
    rfl
  simp only [attached, List.map_map, List.find?_map]
  rw [show isSpendMetric ∘ selected = isSpendMetric from rfl,
    show statsProof ∘ selected = statsProof from rfl]
  cases stats.find? isSpendMetric with
  | none => rfl
  | some r => simp [hproof]

/-- The sections of the submissions and their proofs show every selected column. -/
theorem selected_inj {r r' : StatsRow}
    (hsection : (statsSection r : AuditSection ℚ) = statsSection r')
    (hproof : statsProof r = statsProof r') : selected r = selected r' := by
  obtain ⟨hmetric, hvalue, -, hvk⟩ :=
    SectionEvidence.statsCommitment.inj (congrArg AuditSection.evidence hsection)
  have hstatement := congrArg AuditSection.statement hsection
  have hroot := (List.cons.inj (congrArg AttachedProof.publicInputs hproof)).1
  have hproof : r.proofB64 = r'.proofB64 := congrArg AttachedProof.proofB64 hproof
  have hclaimed : r.claimedValue = r'.claimedValue := by
    have hdiv : (r.claimedValue : ℚ) / (1000 : ℤ) = (r'.claimedValue : ℚ) / (1000 : ℤ) := hvalue
    have hcast := (div_left_inj' (by norm_num)).1 hdiv
    exact Int.cast_injective hcast
  have hrecords : r.nRecords = r'.nRecords := by
    unfold statsSection at hstatement
    dsimp only at hstatement
    rw [hmetric, hclaimed, String.append_left_inj, String.append_right_inj] at hstatement
    exact Int.repr_injective hstatement
  rw [selected, selected, hmetric, hclaimed, hrecords, hroot, hproof, hvk]

theorem selected_of_sections
    (hsections : stats.map (statsSection (F := ℚ)) = stats'.map statsSection)
    (hproofs : stats.map statsProof = stats'.map statsProof) :
    stats.map selected = stats'.map selected := by
  induction stats generalizing stats' with
  | nil => cases stats' with
    | nil => rfl
    | cons r stats' => simp at hproofs
  | cons r stats ih => cases stats' with
    | nil => simp at hproofs
    | cons r' stats' =>
      obtain ⟨hsection, hsections⟩ := List.cons.inj hsections
      obtain ⟨hproof, hproofs⟩ := List.cons.inj hproofs
      rw [List.map_cons, List.map_cons, selected_inj hsection hproof, ih hsections hproofs]

section Compare

variable {readEvent : String → Option PolicyViolation} {base64 : Bytes → String} {db : Db ℚ}
  {anchors : AnchorTables} {tenantId : String} {req : BuildRequest}

theorem Build.sections_report (b : Build) : (b.report readEvent base64 tenantId req).sections =
      [spendSection (b.stats.find? isSpendMetric), allowlistSection (denialsOf b.violations),
        timeWindowSection (denialsOf b.violations), anchorSection b.found] ++
      b.stats.map statsSection ++ [.withEntries b.breakdown
        (evaluationsSection (wrapU32 b.receipts.length) (denialsOf b.violations))] := by
  have hspend (o : Option StatsRow) :
      (spendSection o : AuditSection ℚ).withEntries b.breakdown = spendSection o := by
    cases o <;> rfl
  simp only [report, assembleReport, List.map_append, List.map_map, List.map_cons, List.map_nil,
    hspend]
  rfl

theorem Build.canon_report (b : Build) : (b.report readEvent base64 tenantId req).canon =
      { reportId := b.reportId
        tenantId := tenantId
        agentIds := observedAgents req b.receipts
        periodStart := req.periodStart
        periodEnd := req.periodEnd
        merkleRoot := (anchorEvidence base64 b.found).merkleRoot
        sections := (b.report readEvent base64 tenantId req).sections
        anchors := anchorEvidence base64 b.found
        zkProofs := attached b.stats
        rawReceiptsCount := wrapU32 b.receipts.length
        policyComplianceSummary := .fromCounts (denialsOf b.violations).policyIds
          (wrapU32 b.receipts.length) (denialsOf b.violations).denied } := rfl

/-- The MAC of two builds covers one content exactly when the builds agree. -/
theorem Build.canon_eq_iff {b b' : Build} (h : b.Over readEvent db anchors tenantId req)
    (h' : b'.Over readEvent db anchors tenantId req) :
    (b.report readEvent base64 tenantId req).canon =
        (b'.report readEvent base64 tenantId req).canon ↔ b.Agree base64 b' := by
  have hreceipts := h.receipts.trans h'.receipts.symm
  have hviolations := h.violations.trans h'.violations.symm
  have hcount (c : String) :
      (denialsOf b.violations).count c = (denialsOf b'.violations).count c := by
    rw [count_denialsOf, count_denialsOf, hviolations.countP_eq]
  have hdenied : (denialsOf b.violations).denied = (denialsOf b'.violations).denied := by
    rw [denied_eq_min, denied_eq_min, hviolations.length_eq]
  constructor
  · intro hcanon
    have hsections := congrArg Canon.sections hcanon
    have hproofs := congrArg Canon.zkProofs hcanon
    change (b.report readEvent base64 tenantId req).sections =
      (b'.report readEvent base64 tenantId req).sections at hsections
    rw [sections_report, sections_report] at hsections
    obtain ⟨hfront, hlast⟩ := List.append_inj' hsections rfl
    obtain ⟨hfour, hstats⟩ := List.append_inj hfront rfl
    have hlength : b.stats.length = b'.stats.length := by
      simpa using congrArg List.length hstats
    refine ⟨congrArg Canon.reportId hcanon, ?_, ?_, ?_, ?_, congrArg Canon.anchors hcanon⟩
    · exact congrArg (fun c => c.policyComplianceSummary.policyIdsEvaluated) hcanon
    · exact congrArg AuditSection.entries (List.cons.inj hlast).1
    · exact selected_of_sections hstats (List.append_inj hproofs (by simpa using hlength)).1
    · simp only [List.cons.injEq] at hfour
      exact hfour.2.2.2.1
  · intro hagree
    have hspend : (spendSection (b.stats.find? isSpendMetric) : AuditSection ℚ) =
        spendSection (b'.stats.find? isSpendMetric) := by
      rw [← spendSection_selected, find?_selected (fun _ => rfl) hagree.stats,
        spendSection_selected]
    have hattached : attached b.stats = attached b'.stats := by
      rw [← attached_selected, hagree.stats, attached_selected]
    have hsections : (b.report readEvent base64 tenantId req).sections =
        (b'.report readEvent base64 tenantId req).sections := by
      rw [sections_report, sections_report, hspend, hagree.anchorSection, hagree.breakdown,
        map_selected (fun _ => rfl) hagree.stats]
      simp only [allowlistSection, timeWindowSection, evaluationsSection,
        AuditSection.withEntries, hcount, hdenied, hagree.policyIds, hreceipts.length_eq]
    rw [canon_report, canon_report, hsections, hattached, hagree.reportId, hagree.anchorEvidence,
      hagree.policyIds, hdenied, hreceipts.length_eq, observedAgents_perm hreceipts]

end Compare

/-- **When the MAC of a report is reproducible.** A report that was stored with its MAC is read
back with that MAC, in whatever order its maps iterate then, exactly when none of them has two
entries. Two builds over one state and request have one MAC exactly when they drew one report
id, and saw the policies, the checks, the submissions and the anchors in the same order. -/
theorem report_mac_iff {G : Type} {env : Env G} {serde : Serde ℚ} {key : Bytes}
    (hmac : Function.Injective
      (env.hmacSha256 (env.deriveSubkey key "audit-report-hmac-v1"))) :
    (∀ rows report, (∀ row ∈ rows, row.reportId ≠ report.reportId) →
      (∀ s ∈ report.sections, (s.entries.map Prod.fst).Nodup) →
      let rows' := storeReport env serde rows report (signReport env serde report key)
      (∃ r', GetReport serde rows' report.tenantId report.reportId (some r')) ∧
      ((∀ row ∈ rows', row.reportId = report.reportId → ∀ r',
        GetReport serde rows' report.tenantId report.reportId (some r') →
        signReport env serde r' key = row.signature) ↔ report.OneCheck)) ∧
    ∀ readEvent base64 db anchors tenantId req (b b' : Build),
      b.Over readEvent db anchors tenantId req → b'.Over readEvent db anchors tenantId req →
      (signReport env serde (b.report readEvent base64 tenantId req) key =
        signReport env serde (b'.report readEvent base64 tenantId req) key ↔
          b.Agree base64 b') := by
  refine ⟨fun rows report hfresh hkeys => ⟨⟨report, ?_⟩, readBack_iff hmac hfresh hkeys⟩, ?_⟩
  · rw [storeReport_of_fresh hfresh]
    exact ⟨_, List.mem_append_right rows (List.mem_singleton_self _), rfl, rfl,
      (serde.reads_iff _ _).2 (.refl report)⟩
  · intro readEvent base64 db anchors tenantId req b b' h h'
    rw [signReport_eq_iff hmac, Build.canon_eq_iff h h']

/-! ### Reports on two checks -/

section Codecs

open Codec (string nat int rat)

def evidenceCodec : Codec (SectionEvidence ℚ) :=
  ((string.pair (string.list.pair string)).sum <| (string.list.pair nat).sum <|
    (string.pair (string.pair nat)).sum <|
    (string.option.pair (nat.option.pair (string.option.pair nat.option))).sum <|
    (string.pair (rat.pair (nat.pair string))).sum <|
    nat.pair (nat.pair (string.pair nat).list)).map
    (fun
      | .inl (circuit, inputs, claim) => .spendBound circuit inputs claim
      | .inr (.inl (tools, n)) => .toolAllowlist tools n
      | .inr (.inr (.inl (start, stop, n))) => .timeWindow start stop n
      | .inr (.inr (.inr (.inl (root, block, sig, slot)))) => .anchorChain root block sig slot
      | .inr (.inr (.inr (.inr (.inl (id, value, n, vk))))) => .statsCommitment id value n vk
      | .inr (.inr (.inr (.inr (.inr (allowed, denied, map))))) =>
          .policyEvaluations allowed denied map)
    (fun
      | .spendBound circuit inputs claim => .inl (circuit, inputs, claim)
      | .toolAllowlist tools n => .inr (.inl (tools, n))
      | .timeWindow start stop n => .inr (.inr (.inl (start, stop, n)))
      | .anchorChain root block sig slot => .inr (.inr (.inr (.inl (root, block, sig, slot))))
      | .statsCommitment id value n vk => .inr (.inr (.inr (.inr (.inl (id, value, n, vk)))))
      | .policyEvaluations allowed denied map =>
          .inr (.inr (.inr (.inr (.inr (allowed, denied, map))))))
    fun e => by cases e <;> rfl

def verdictCodec : Codec SectionVerdict :=
  (Codec.unit.sum (string.list.sum string)).map
    (fun
      | .inl _ => .confirmed
      | .inr (.inl gaps) => .partly gaps
      | .inr (.inr reason) => .insufficient reason)
    (fun
      | .confirmed => .inl ()
      | .partly gaps => .inr (.inl gaps)
      | .insufficient reason => .inr (.inr reason))
    fun v => by cases v <;> rfl

def sectionCodec : Codec (AuditSection ℚ) :=
  (string.pair (string.pair (evidenceCodec.pair verdictCodec))).map
    (fun p => ⟨p.1, p.2.1, p.2.2.1, p.2.2.2⟩)
    (fun s => (s.heading, s.statement, s.evidence, s.verdict)) fun _ => rfl

def proofCodec : Codec AttachedProof :=
  (string.pair (string.list.pair (string.pair string))).map
    (fun p => ⟨p.1, p.2.1, p.2.2.1, p.2.2.2⟩)
    (fun p => (p.circuit, p.publicInputs, p.proofB64, p.vkId)) fun _ => rfl

def anchorsCodec : Codec AnchorEvidence :=
  (string.pair (string.option.pair (nat.option.pair (string.option.pair nat.option)))).map
    (fun p => ⟨p.1, p.2.1, p.2.2.1, p.2.2.2.1, p.2.2.2.2⟩)
    (fun e => (e.merkleRoot, e.bitcoinOtsReceiptB64, e.bitcoinBlockHeight, e.solanaSignature,
      e.solanaSlot)) fun _ => rfl

def summaryCodec : Codec (ComplianceSummary ℚ) :=
  (string.list.pair (nat.pair (nat.pair (nat.pair rat)))).map
    (fun p => ⟨p.1, p.2.1, p.2.2.1, p.2.2.2.1, p.2.2.2.2⟩)
    (fun s => (s.policyIdsEvaluated, s.totalActions, s.allowed, s.denied, s.policyViolationRate))
    fun _ => rfl

def canonCodec : Codec (Canon ℚ) :=
  (string.pair <| string.pair <| string.list.pair <| int.pair <| int.pair <| string.pair <|
    sectionCodec.list.pair <| anchorsCodec.pair <| proofCodec.list.pair <|
    nat.pair summaryCodec).map
    (fun (id, tenant, agents, start, stop, root, sections, anchors, proofs, n, summary) =>
      ⟨id, tenant, agents, start, stop, root, sections, anchors, proofs, n, summary⟩)
    (fun c => (c.reportId, c.tenantId, c.agentIds, c.periodStart, c.periodEnd, c.merkleRoot,
      c.sections, c.anchors, c.zkProofs, c.rawReceiptsCount, c.policyComplianceSummary))
    fun _ => rfl

/-- A report is what is signed of it, and when it was generated. -/
def reportCodec : Codec (AuditReport ℚ) :=
  (int.pair canonCodec).map
    (fun (now, c) => ⟨c.reportId, c.tenantId, c.agentIds, c.periodStart, c.periodEnd, now,
      c.merkleRoot, c.sections, c.anchors, c.zkProofs, c.rawReceiptsCount,
      c.policyComplianceSummary⟩)
    (fun r => (r.generatedAt, r.canon)) fun _ => rfl

/-- Documents printed field by field. -/
def plainSerde : Serde ℚ where
  canonBytes c := utf8 (String.ofList (canonCodec.write c))
  reportText r := String.ofList (reportCodec.write r)
  Reads text r' := ∃ r, reportCodec.read text.toList = some (r, []) ∧ r.Reordered r'
  canonBytes_injective c c' h :=
    canonCodec.write_injective (String.ofList_injective (utf8_injective h))
  reads_iff r r' := by
    have hread := reportCodec.read_write r []
    rw [List.append_nil] at hread
    simp [hread]

end Codecs

/-- A MAC that returns the message. -/
def plainMac : Env ℚ := { sampleEnv ℚ with hmacSha256 := fun _ message => message }

/-- The text of a violation is the check it violates. -/
def readCheck (check : String) : Option PolicyViolation :=
  some ⟨"t1", "agent-1", "p1", check, ""⟩

/-- The log with one violation for each check. -/
def violationsLog (checks : List String) : Db ℚ :=
  { Db.empty ℚ with
    audit := checks.map fun check =>
      ⟨check, "t1", "policy_violation", check, 10, none, "", ""⟩ }

/-- A build over that log. -/
def logBuild (reportId : String) (now : ℤ) (checks : List String) : Build where
  reportId := reportId
  now := now
  receipts := []
  stats := []
  violations := checks.filterMap readCheck
  found := {}
  breakdown := (denialsOf (checks.filterMap readCheck)).breakdown

theorem logBuild_over (reportId : String) (now : ℤ) :
    (logBuild reportId now ["a", "b"]).Over readCheck (violationsLog ["a", "b"]) {} "t1"
      ⟨none, 0, 60⟩ where
  valid := by decide
  receipts := .refl _
  stats := .refl _
  sorted := .nil
  violations := .refl _
  btc := rfl
  sol := rfl
  breakdown := .refl _

/-- The report of that build for the whole tenant. -/
def logReport (reportId : String) (now : ℤ) (checks : List String) : AuditReport ℚ :=
  (logBuild reportId now checks).report readCheck (fun _ => "") "t1" ⟨none, 0, 60⟩

/-- A stored report on one check keeps its MAC, and so does a later build under one id. -/
theorem one_check_reproducible :
    (∀ row ∈ storeReport plainMac plainSerde [] (logReport "r1" 0 ["a"])
        (signReport plainMac plainSerde (logReport "r1" 0 ["a"]) []), row.reportId = "r1" → ∀ r',
      GetReport plainSerde (storeReport plainMac plainSerde [] (logReport "r1" 0 ["a"])
        (signReport plainMac plainSerde (logReport "r1" 0 ["a"]) [])) "t1" "r1" (some r') →
      signReport plainMac plainSerde r' [] = row.signature) ∧
    signReport plainMac plainSerde (logReport "r1" 0 ["a", "b"]) [] =
      signReport plainMac plainSerde (logReport "r1" 9 ["a", "b"]) [] := by
  have hmac : Function.Injective (plainMac.hmacSha256 (plainMac.deriveSubkey []
      "audit-report-hmac-v1")) := Function.injective_id
  obtain ⟨hstored, hbuilt⟩ := @report_mac_iff ℚ plainMac plainSerde [] hmac
  constructor
  · refine (hstored [] (logReport "r1" 0 ["a"]) (by simp) (by decide)).2.2 ?_
    unfold AuditReport.OneCheck
    decide
  · exact (hbuilt readCheck _ _ {} "t1" _ _ _ (logBuild_over "r1" 0) (logBuild_over "r1" 9)).2
      ⟨rfl, rfl, rfl, rfl, rfl, rfl⟩

/-- A report on two checks is read back with its map the other way round, and has another MAC;
the next build over the same state has another MAC too. -/
theorem mac_not_reproducible :
    ∃ r' : AuditReport ℚ,
      let report := logReport "r1" 0 ["a", "b"]
      let rows := storeReport plainMac plainSerde [] report
        (signReport plainMac plainSerde report [])
      GetReport plainSerde rows "t1" "r1" (some r') ∧
      (∀ row ∈ rows, row.reportId = "r1" ∧
        signReport plainMac plainSerde r' [] ≠ row.signature) ∧
      (logBuild "r1" 0 ["a", "b"]).Over readCheck (violationsLog ["a", "b"]) {} "t1"
        ⟨none, 0, 60⟩ ∧
      (logBuild "r2" 0 ["a", "b"]).Over readCheck (violationsLog ["a", "b"]) {} "t1"
        ⟨none, 0, 60⟩ ∧
      signReport plainMac plainSerde report [] ≠
        signReport plainMac plainSerde (logReport "r2" 0 ["a", "b"]) [] := by
  have hmac : Function.Injective (plainMac.hmacSha256 (plainMac.deriveSubkey []
      "audit-report-hmac-v1")) := Function.injective_id
  obtain ⟨r', hr', hcanon⟩ := (logReport "r1" 0 ["a", "b"]).exists_reordered (by decide) (by
    unfold AuditReport.OneCheck
    decide)
  refine ⟨r', ⟨_, List.mem_singleton_self _, rfl, rfl, (plainSerde.reads_iff _ _).2 hr'⟩, ?_,
    logBuild_over "r1" 0, logBuild_over "r2" 0, fun h => ?_⟩
  · intro row hrow
    obtain rfl := List.mem_singleton.1 hrow
    exact ⟨rfl, fun h => hcanon ((signReport_eq_iff hmac).1 h)⟩
  · have hids : "r1" = "r2" := congrArg Canon.reportId ((signReport_eq_iff hmac).1 h)
    simp at hids

end SauronID.Audit
