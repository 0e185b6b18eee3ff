import SauronID.Lib.Encoding
import SauronID.Policy.Store

/-!
# Data scopes

`validate` compares the tags of a data scope as they are spelled, the compiled check compares
them in lower case, and `DataClassification::from_tag` also takes `financial_records` for
`financial`. A scope that was accepted can therefore allow and deny one classification, and
treat two spellings of it differently; `scope_coherent_iff` says which scopes do not.
-/

namespace SauronID.Dsl

open Text

/-! ## Classifications -/

inductive DataClassification where
  | «public»
  | customerOwned
  | pii
  | financial
  | restricted
  | custom (tag : String)
  deriving DecidableEq, Repr

def DataClassification.fromTag (tag : String) : DataClassification :=
  match asciiLower tag with
  | "public" => .«public»
  | "customer_owned" => .customerOwned
  | "pii" => .pii
  | "financial" | "financial_records" => .financial
  | "restricted" => .restricted
  | _ => .custom tag

open DataClassification (fromTag)

/-- One of the two names of financial data. -/
def isFinancial (tag : String) : Prop :=
  asciiLower tag = "financial" ∨ asciiLower tag = "financial_records"

instance (tag : String) : Decidable (isFinancial tag) := inferInstanceAs (Decidable (_ ∨ _))

variable {tag : String}

theorem fromTag_of_isFinancial (h : isFinancial tag) : fromTag tag = .financial := by
  unfold fromTag
  rcases h with h | h
  · rw [h]
    rfl
  · rw [h]
    rfl

variable {tag' : String}

/-- Tags of one classification differ in their case, or are names of financial data. -/
theorem alike_of_fromTag_eq (h : fromTag tag = fromTag tag') :
    asciiLower tag = asciiLower tag' ∨ isFinancial tag ∧ isFinancial tag' := by
  unfold isFinancial
  unfold fromTag at h
  split at h <;> split at h <;> simp_all

theorem fromTag_asciiLower_eq_iff : fromTag (asciiLower tag) = fromTag (asciiLower tag') ↔
      asciiLower tag = asciiLower tag' ∨ isFinancial tag ∧ isFinancial tag' := by
  constructor
  · intro h
    simpa [isFinancial, asciiLower_asciiLower] using alike_of_fromTag_eq h
  · rintro (h | ⟨h, h'⟩)
    · rw [h]
    · rw [fromTag_of_isFinancial (by simpa [isFinancial, asciiLower_asciiLower] using h),
        fromTag_of_isFinancial (by simpa [isFinancial, asciiLower_asciiLower] using h')]

/-! ## Validation -/

variable {F : Type} (engine : Engine F)

/-- `validate_hhmm`, with the error as the parser reports it. -/
def checkHhmm (s : String) : Except PolicyParseError Unit :=
  refuseIf (isHhmm engine s = false) (.schemaViolation (s!"invalid HH:MM time '{s}' (expected " ++
    "24-hour with leading zeros, e.g. 09:00)"))

def validateIanaTz (tz : String) : Except PolicyParseError Unit :=
  refuseIf (engine.zone tz = none) (.schemaViolation
    s!"invalid IANA tz '{tz}': failed to parse timezone")

def isYyyyMmDd (s : String) : Bool :=
  match utf8 s with
  | [y₁, y₂, y₃, y₄, dash₁, m₁, m₂, dash₂, d₁, d₂] =>
    dash₁ == 45 && dash₂ == 45 &&
      [y₁, y₂, y₃, y₄, m₁, m₂, d₁, d₂].all fun b => decide (48 ≤ b) && decide (b ≤ 57)
  | _ => false

variable [Float64 F]

def validateAmount (field : String) (amount : Option F) : Except PolicyParseError Unit :=
  amount.forM fun b =>
    refuseIf (Float64.isFinite b = false ∨ Float64.lt b (Float64.ofInt 0) = true)
      (.schemaViolation ("`binding." ++ field ++
        s!"` must be a finite, non-negative number, got {Float64.display b}"))

def validateScope (ds : DataScope) : Except PolicyParseError Unit :=
  let conflict := ds.allow.filter fun t => ds.deny.contains t
  refuseIf (conflict ≠ []) (.schemaViolation
    s!"`binding.data_scope.allow` and `.deny` must be disjoint; overlap: {debugList conflict}")

/-- `validate` -/
def validate (policy : Policy F) : Except PolicyParseError Unit := do
  let b := policy.binding
  refuseIf (policy.version ≠ "1") (.unsupportedVersion
    s!"expected version \"1\", got \"{policy.version}\"")
  refuseIf (trim policy.agent = "") (.schemaViolation "`agent` must be non-empty")
  validateAmount "max_budget_usd" b.maxBudgetUsd
  refuseIf (b.rateLimit = some 0) (.schemaViolation
    "`binding.rate_limit.requests_per_minute` must be > 0")
  b.timeWindow.forM fun tw => do
    checkHhmm engine tw.start
    checkHhmm engine tw.stop
    validateIanaTz engine tw.timezone
  b.dataScope.forM validateScope
  (b.requiredSignatures.getD []).forM fun s => do
    refuseIf (s.threshold = 0) (.schemaViolation
      s!"`required_signatures[role={s.role}].threshold` must be > 0")
    refuseIf (trim s.role = "") (.schemaViolation
      "`required_signatures[].role` must be non-empty")
  validateAmount "daily_budget_usd" b.dailyBudgetUsd
  validateAmount "max_single_action_usd" b.maxSingleActionUsd
  refuseIf (b.weeklyRate = some 0) (.schemaViolation
    "`binding.weekly_rate.requests_per_week` must be > 0")
  b.businessHours.forM fun bh => do
    validateIanaTz engine bh.timezone
    bh.weekdayWindows.forM fun w => do
      refuseIf (6 < w.1) (.schemaViolation
        s!"`business_hours.weekday_windows` key must be 0..=6 (got {w.1})")
      checkHhmm engine w.2.1
      checkHhmm engine w.2.2
  (b.holidayBlackoutDates.getD []).forM fun d =>
    refuseIf (isYyyyMmDd d = false) (.schemaViolation
      s!"`holiday_blackout_dates` entry must be YYYY-MM-DD, got '{d}'")

variable {engine} {ds : DataScope}

/-- The lists of an accepted scope have no tag in common, as the tags are spelled. -/
theorem disjoint_of_validate {policy : Policy F} (h : validate engine policy = .ok ())
    (hds : policy.binding.dataScope = some ds) : ∀ tag ∈ ds.allow, tag ∉ ds.deny := by
  have hscope : validateScope ds = .ok () := by
    simp only [validate, check_bind_eq_ok, hds] at h
    exact h.2.2.2.2.2.1
  intro tag hallow hdeny
  have hmem : tag ∈ ds.allow.filter fun t => ds.deny.contains t := by simp [hallow, hdeny]
  rw [not_not.1 (refuseIf_eq_ok.1 hscope)] at hmem
  cases hmem

/-! ## The compiled check -/

/-- The context with its action under a tag. -/
def EvaluationContext.classified (ctx : EvaluationContext F) (tag : String) : EvaluationContext F :=
  { ctx with action := { ctx.action with dataClassification := some tag } }

/-- The tag, in lower case, is not on the deny list, and on the allow list if there is one. -/
def passesScope (allow deny : List String) (tag : String) : Prop :=
  tag ∉ deny ∧ (allow = [] ∨ tag ∈ allow)

instance (allow deny : List String) (tag : String) : Decidable (passesScope allow deny tag) :=
  inferInstanceAs (Decidable (_ ∧ _))

variable {allow deny : List String}

theorem scope_isAllow {ctx : EvaluationContext F} :
    ((RuntimeCheck.scope allow deny).evaluate engine (ctx.classified tag)).isAllow = true ↔
      passesScope allow deny (asciiLower tag) := by
  unfold RuntimeCheck.evaluate passesScope EvaluationContext.classified denyIf
  by_cases hdeny : asciiLower tag ∈ deny
  · simp [hdeny, Verdict.isAllow]
  · by_cases hallow : allow = [] ∨ asciiLower tag ∈ allow
    · rcases hallow with rfl | hallow <;> simp_all [Verdict.isAllow]
    · simp_all [Verdict.isAllow]

omit [Float64 F] in
theorem CompiledPolicy.scope_mem (p : CompiledPolicy engine) :
    .scope allow deny ∈ p.checks ↔ ∃ ds, p.raw.binding.dataScope = some ds ∧
      ds.allow.map asciiLower = allow ∧ ds.deny.map asciiLower = deny := by
  rw [p.mem_checks rfl]
  unfold orderedChecks
  simp [optional]

/-- No classification is on both lists of the check, and it gives the spellings of one
classification one verdict. -/
def CompiledPolicy.ScopeCoherent (p : CompiledPolicy engine) : Prop :=
  ∀ allow deny, .scope allow deny ∈ p.checks →
    (∀ a ∈ allow, ∀ d ∈ deny, fromTag a ≠ fromTag d) ∧
      ∀ (ctx : EvaluationContext F) tag tag', fromTag tag = fromTag tag' →
        ((RuntimeCheck.scope allow deny).evaluate engine (ctx.classified tag)).isAllow =
          ((RuntimeCheck.scope allow deny).evaluate engine (ctx.classified tag')).isAllow

/-- The lists name no classification twice, and the two names of financial data fare alike. -/
structure DataScope.Coherent (ds : DataScope) : Prop where
  apart : ∀ a ∈ ds.allow, ∀ d ∈ ds.deny,
    asciiLower a ≠ asciiLower d ∧ ¬(isFinancial a ∧ isFinancial d)
  financial : passesScope (ds.allow.map asciiLower) (ds.deny.map asciiLower) "financial" ↔
    passesScope (ds.allow.map asciiLower) (ds.deny.map asciiLower) "financial_records"

/-- Tags of one classification pass alike if the names of financial data do. -/
theorem DataScope.Coherent.passes_iff (h : ds.Coherent) (heq : fromTag tag = fromTag tag') :
    passesScope (ds.allow.map asciiLower) (ds.deny.map asciiLower) (asciiLower tag) ↔
      passesScope (ds.allow.map asciiLower) (ds.deny.map asciiLower) (asciiLower tag') := by
  rcases alike_of_fromTag_eq heq with heq | ⟨hfin | hfin, hfin' | hfin'⟩
  · rw [heq]
  · rw [hfin, hfin']
  · rw [hfin, hfin', h.financial]
  · rw [hfin, hfin', h.financial]
  · rw [hfin, hfin']

/-- **Data scope.** Of every accepted policy the lists are disjoint as they are spelled, and its
check is coherent up to `from_tag` exactly if the lists are disjoint in lower case, not both
with a name of financial data, and the two names of financial data fare alike. -/
theorem scope_coherent_iff (p : CompiledPolicy engine) (hvalid : validate engine p.raw = .ok ()) :
    (∀ ds, p.raw.binding.dataScope = some ds → ∀ tag ∈ ds.allow, tag ∉ ds.deny) ∧
      (p.ScopeCoherent ↔ ∀ ds, p.raw.binding.dataScope = some ds → ds.Coherent) := by
  refine ⟨fun ds => disjoint_of_validate hvalid, fun h ds hds => ?_, fun h allow deny hmem => ?_⟩
  · obtain ⟨hlists, hverdicts⟩ := h _ _ (p.scope_mem.2 ⟨ds, hds, rfl, rfl⟩)
    refine ⟨fun a ha d hd => ?_, ?_⟩
    · have hne := hlists _ (List.mem_map_of_mem ha) _ (List.mem_map_of_mem hd)
      rw [Ne, fromTag_asciiLower_eq_iff, not_or] at hne
      exact hne
    · let ctx : EvaluationContext F := ⟨⟨"", "", none, none, [], 0, 0, []⟩, Float64.ofInt 0, [], 0,
        "", Float64.ofInt 0, [], 0, none, 0, ""⟩
      have hsame := hverdicts ctx "financial" "financial_records" rfl
      rw [Bool.eq_iff_iff, scope_isAllow, scope_isAllow] at hsame
      exact hsame
  · obtain ⟨ds, hds, rfl, rfl⟩ := p.scope_mem.1 hmem
    have hds := h ds hds
    refine ⟨?_, fun ctx tag tag' heq => ?_⟩
    · simp only [List.forall_mem_map]
      intro a ha d hd heq
      obtain ⟨hcase, hfin⟩ := hds.apart a ha d hd
      exact (fromTag_asciiLower_eq_iff.1 heq).elim hcase hfin
    · rw [Bool.eq_iff_iff, scope_isAllow, scope_isAllow]
      exact hds.passes_iff heq

/-- A policy with nothing but a data scope. -/
def scopePolicy (allow deny : List String) : CompiledPolicy (sampleEngine ℚ) where
  policyId := "p1"
  agent := "agt_1"
  checks := [.scope (allow.map asciiLower) (deny.map asciiLower)]
  raw := ⟨"1", "agt_1", { dataScope := some ⟨allow, deny⟩ }, []⟩
  compiled := rfl

/-- Both policies are accepted. The first allows and denies personal data, in two spellings; the
second allows financial data under one name and denies it under the other. -/
theorem accepted_scope_incoherent :
    (validate (sampleEngine ℚ) (scopePolicy ["PII"] ["pii"]).raw = .ok () ∧
      ¬(scopePolicy ["PII"] ["pii"]).ScopeCoherent) ∧
    validate (sampleEngine ℚ) (scopePolicy ["financial"] []).raw = .ok () ∧
      ¬(scopePolicy ["financial"] []).ScopeCoherent := by
  refine ⟨⟨by decide +kernel, fun h => ?_⟩, by decide +kernel, fun h => ?_⟩
  · have hlists := (h ["pii"] ["pii"] (.head _)).1
    exact hlists "pii" (.head _) "pii" (.head _) rfl
  · let ctx : EvaluationContext ℚ := ⟨⟨"a1", "search", none, none, [], 0, 0, []⟩, 0, [], 0, "12:00",
      0, [], 0, none, 1, ""⟩
    have hsame := (h ["financial"] [] (.head _)).2 ctx "financial" "financial_records" rfl
    rw [Bool.eq_iff_iff, scope_isAllow, scope_isAllow] at hsame
    revert hsame
    decide +kernel

/-- Public data is allowed and personal data denied. -/
theorem public_scope_coherent : (scopePolicy ["public"] ["pii"]).ScopeCoherent := by
  have hvalid : validate (sampleEngine ℚ) (scopePolicy ["public"] ["pii"]).raw = .ok () := by
    decide +kernel
  refine (scope_coherent_iff (scopePolicy ["public"] ["pii"]) hvalid).2.2 fun ds hds => ?_
  cases hds
  exact ⟨by decide +kernel, by decide +kernel⟩

end SauronID.Dsl
