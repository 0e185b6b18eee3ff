import SauronID.Model.Env

/-!
# Tightening a policy

A policy becomes another one when invariants are appended and limits are set that it did not
have. `tightened_denies` says that what the first denies the second denies too, whatever check
it is that denies. Invariants can read the budget of their policy, so it has to stay as it is,
and the two lists of countries are judged by one check.
-/

namespace SauronID.Dsl

open Text

variable {F : Type}

/-- The limit is as it was, or it was not set. -/
def Kept {α : Type} (o o' : Option α) : Prop := o = none ∨ o' = o

/-- The second binding sets what the first one sets, and perhaps more; the budget stays. -/
structure Binding.Extends (b b' : Binding F) : Prop where
  maxBudgetUsd : b'.maxBudgetUsd = b.maxBudgetUsd
  allowedTools : Kept b.allowedTools b'.allowedTools
  dataScope : Kept b.dataScope b'.dataScope
  rateLimit : Kept b.rateLimit b'.rateLimit
  timeWindow : Kept b.timeWindow b'.timeWindow
  requiredSignatures : Kept b.requiredSignatures b'.requiredSignatures
  delegation : Kept b.delegation b'.delegation
  domainAllowlist : Kept b.domainAllowlist b'.domainAllowlist
  domainDenylist : Kept b.domainDenylist b'.domainDenylist
  toolDenylist : Kept b.toolDenylist b'.toolDenylist
  dailyBudgetUsd : Kept b.dailyBudgetUsd b'.dailyBudgetUsd
  maxSingleActionUsd : Kept b.maxSingleActionUsd b'.maxSingleActionUsd
  weeklyRate : Kept b.weeklyRate b'.weeklyRate
  maxConcurrent : Kept b.maxConcurrent b'.maxConcurrent
  cooldownSeconds : Kept b.cooldownSeconds b'.cooldownSeconds
  maxPayloadBytes : Kept b.maxPayloadBytes b'.maxPayloadBytes
  contentTypeAllowlist : Kept b.contentTypeAllowlist b'.contentTypeAllowlist
  maxRecipients : Kept b.maxRecipients b'.maxRecipients
  maxChainDepth : Kept b.maxChainDepth b'.maxChainDepth
  piiBlock : Kept b.piiBlock b'.piiBlock
  languageAllowlist : Kept b.languageAllowlist b'.languageAllowlist
  currencyAllowlist : Kept b.currencyAllowlist b'.currencyAllowlist
  geoAllowCountries : Kept b.geoAllowCountries b'.geoAllowCountries
  geoDenyCountries : Kept b.geoDenyCountries b'.geoDenyCountries
  businessHours : Kept b.businessHours b'.businessHours
  holidayBlackoutDates : Kept b.holidayBlackoutDates b'.holidayBlackoutDates
  pinnedVersion : Kept b.pinnedVersion b'.pinnedVersion
  dryRun : Kept b.dryRun b'.dryRun

/-- Invariants are appended and limits are set. -/
structure Policy.Tightened (p q : Policy F) : Prop where
  binding : p.binding.Extends q.binding
  invariants : p.invariants <+: q.invariants

variable [Float64 F] {engine : Engine F}

/-- What all the checks of the second list allow, those of the first list allow. -/
def Covers (engine : Engine F) (ctx : EvaluationContext F)
    (checks checks' : List (RuntimeCheck F)) : Prop :=
  (∀ c ∈ checks', c.evaluate engine ctx = .allow) → ∀ c ∈ checks, c.evaluate engine ctx = .allow

section Covers

variable {ctx : EvaluationContext F} {checks checks' : List (RuntimeCheck F)}

theorem Covers.of_subset (h : checks ⊆ checks') : Covers engine ctx checks checks' :=
  fun hallow c hc => hallow c (h hc)

theorem Covers.flatten {lists lists' : List (List (RuntimeCheck F))}
    (h : List.Forall₂ (Covers engine ctx) lists lists') :
    Covers engine ctx lists.flatten lists'.flatten := by
  intro hallow c hc
  induction h with
  | nil => cases hc
  | cons hfirst _ ih =>
    simp only [List.flatten_cons, List.mem_append] at hallow hc
    rcases hc with hc | hc
    · exact hfirst (fun c hc => hallow c (.inl hc)) c hc
    · exact ih (fun c hc => hallow c (.inr hc)) hc

variable {α : Type} {o o' : Option α}

theorem covers_optional (h : Kept o o') (f : α → RuntimeCheck F) :
    Covers engine ctx (optional o f) (optional o' f) := by
  rcases h with rfl | rfl
  · exact .of_subset (by simp [optional])
  · exact .of_subset (List.Subset.refl _)

theorem covers_flag {o o' : Option Bool} (h : Kept o o') (c : RuntimeCheck F) :
    Covers engine ctx (if o = some true then [c] else []) (if o' = some true then [c] else []) := by
  rcases h with rfl | rfl
  · exact .of_subset (by simp)
  · exact .of_subset (List.Subset.refl _)

theorem covers_optionalM {f : α → Except CompileError (RuntimeCheck F)} (hkept : Kept o o')
    (h : optionalM o f = .ok checks) (h' : optionalM o' f = .ok checks') :
    Covers engine ctx checks checks' := by
  rcases hkept with rfl | rfl
  · cases h
    exact .of_subset (List.nil_subset _)
  · cases h.symm.trans h'
    exact .of_subset (List.Subset.refl _)

/-! ## Countries -/

variable {allow deny : List String}

omit [Float64 F] in
/-- No country on the deny list, and one on the allow list if there is such a list. -/
theorem geoVerdict_eq_allow {country : Option String} : geoVerdict allow deny country = .allow ↔
      (∀ c ∈ country, c ∉ deny) ∧ (allow ≠ [] → ∃ c ∈ country, c ∈ allow) := by
  cases country with
  | none => simp [geoVerdict, denyIf]
  | some c =>
    by_cases hdeny : c ∈ deny
    · simp [geoVerdict, hdeny]
    · by_cases hallow : allow = []
      · simp [geoVerdict, denyIf, hdeny, hallow]
      · simp [geoVerdict, denyIf, hdeny, hallow]

/-- The check of the countries, if there is one. -/
theorem forall_geo : (∀ c ∈ (if !allow.isEmpty || !deny.isEmpty then
        [RuntimeCheck.geoRestriction (allow.map asciiUpper) (deny.map asciiUpper)] else []),
      c.evaluate engine ctx = .allow) ↔ geoVerdict (allow.map asciiUpper) (deny.map asciiUpper)
      ((ctx.action.metaStr "client_country").map asciiUpper) = .allow := by
  by_cases h : allow = [] ∧ deny = []
  · simp [h, geoVerdict_eq_allow]
  · have hsome : (!allow.isEmpty || !deny.isEmpty) = true := by
      simp only [Bool.or_eq_true, Bool.not_eq_true', List.isEmpty_eq_false_iff]
      tauto
    rw [if_pos hsome]
    simp [RuntimeCheck.evaluate]

/-- A list of countries that comes to the other one denies no less. -/
theorem covers_geo {allow allow' deny deny' : Option (List String)} (hallow : Kept allow allow')
    (hdeny : Kept deny deny') : Covers engine ctx
      (if !(allow.getD []).isEmpty || !(deny.getD []).isEmpty then
        [.geoRestriction ((allow.getD []).map asciiUpper) ((deny.getD []).map asciiUpper)] else [])
      (if !(allow'.getD []).isEmpty || !(deny'.getD []).isEmpty then
        [.geoRestriction ((allow'.getD []).map asciiUpper) ((deny'.getD []).map asciiUpper)]
        else []) := by
  intro h
  rw [forall_geo, geoVerdict_eq_allow] at h ⊢
  refine ⟨?_, ?_⟩
  · rcases hdeny with rfl | rfl
    · simp
    · exact h.1
  · rcases hallow with rfl | rfl
    · simp
    · exact h.2

/-! ## Invariants -/

variable {b b' : Binding F}

/-- An invariant reads of the binding only the budget. -/
theorem evaluate_expression_congr (h : b'.maxBudgetUsd = b.maxBudgetUsd)
    (src : String) (expr : Expr F) : (RuntimeCheck.expression src expr b').evaluate engine ctx =
      (RuntimeCheck.expression src expr b).evaluate engine ctx := by
  have hsame : EvalEnv.Same ⟨ctx.action, ctx, b, ctx.nowEpoch⟩
      ⟨ctx.action, ctx, b', ctx.nowEpoch⟩ := ⟨rfl, rfl, h, rfl⟩
  simp only [RuntimeCheck.evaluate, evalPredicate_congr hsame, RuntimeCheck.name]

theorem covers_invariants (h : b'.maxBudgetUsd = b.maxBudgetUsd)
    {srcs more : List String} : ∀ {line : ℕ} {checks checks' : List (RuntimeCheck F)},
      compileInvariants engine b line srcs = .ok checks →
      compileInvariants engine b' line (srcs ++ more) = .ok checks' →
      Covers engine ctx checks checks' := by
  induction srcs with
  | nil =>
    intro line checks checks' hc _
    cases hc
    exact .of_subset (List.nil_subset _)
  | cons src srcs ih =>
    intro line checks checks' hc hc'
    rw [List.cons_append] at hc'
    simp only [compileInvariants] at hc hc'
    obtain ⟨expr, hexpr, hc⟩ := exists_of_bind_eq_ok hc
    obtain ⟨expr', hexpr', hc'⟩ := exists_of_bind_eq_ok hc'
    cases hexpr.symm.trans hexpr'
    obtain ⟨rest, hrest, hc⟩ := exists_of_bind_eq_ok hc
    obtain ⟨rest', hrest', hc'⟩ := exists_of_bind_eq_ok hc'
    cases hc
    cases hc'
    have hih := ih hrest hrest'
    intro hallow
    rw [List.forall_mem_cons] at hallow ⊢
    rw [evaluate_expression_congr h] at hallow
    exact ⟨hallow.1, hih hallow.2⟩

end Covers

/-! ## Policies -/

variable {ctx : EvaluationContext F}

theorem covers_checks {p q : Policy F} (h : p.Tightened q)
    {checks checks' : List (RuntimeCheck F)} (hp : compileChecks engine p = .ok checks)
    (hq : compileChecks engine q = .ok checks') : Covers engine ctx checks checks' := by
  obtain ⟨window, hours, invariants, hw, hh, hi, rfl⟩ := compileChecks_parts hp
  obtain ⟨window', hours', invariants', hw', hh', hi', rfl⟩ := compileChecks_parts hq
  obtain ⟨more, hmore⟩ := h.invariants
  rw [← hmore] at hi'
  have hb := h.binding
  refine Covers.flatten ?_
  refine .cons (covers_optional (.inr hb.maxBudgetUsd) _) ?_
  refine .cons (covers_optional hb.dataScope _) ?_
  refine .cons (covers_optional hb.allowedTools _) ?_
  refine .cons (covers_optional hb.rateLimit _) ?_
  refine .cons (covers_optionalM hb.timeWindow hw hw') ?_
  refine .cons (covers_optional hb.requiredSignatures _) ?_
  refine .cons (covers_optional hb.delegation _) ?_
  refine .cons (covers_optional hb.domainDenylist _) ?_
  refine .cons (covers_optional hb.domainAllowlist _) ?_
  refine .cons (covers_optional hb.toolDenylist _) ?_
  refine .cons (covers_optional hb.dailyBudgetUsd _) ?_
  refine .cons (covers_optional hb.maxSingleActionUsd _) ?_
  refine .cons (covers_optional hb.weeklyRate _) ?_
  refine .cons (covers_optional hb.maxConcurrent _) ?_
  refine .cons (covers_optional hb.cooldownSeconds _) ?_
  refine .cons (covers_optional hb.maxPayloadBytes _) ?_
  refine .cons (covers_optional hb.contentTypeAllowlist _) ?_
  refine .cons (covers_optional hb.maxRecipients _) ?_
  refine .cons (covers_optional hb.maxChainDepth _) ?_
  refine .cons (covers_flag hb.piiBlock _) ?_
  refine .cons (covers_optional hb.languageAllowlist _) ?_
  refine .cons (covers_optional hb.currencyAllowlist _) ?_
  refine .cons (covers_geo hb.geoAllowCountries hb.geoDenyCountries) ?_
  refine .cons (covers_optionalM hb.businessHours hh hh') ?_
  refine .cons (covers_optional hb.holidayBlackoutDates _) ?_
  refine .cons (covers_optional hb.pinnedVersion _) ?_
  refine .cons (covers_flag hb.dryRun _) ?_
  exact .cons (covers_invariants hb.maxBudgetUsd hi hi') .nil

/-! ## The trace -/

/-- The loop of `evaluate_with_trace`: every check is asked, and the first denial stays. -/
def traceChecks (engine : Engine F) (ctx : EvaluationContext F) :
    List (RuntimeCheck F) → Verdict → List (String × Verdict) → Verdict × List (String × Verdict)
  | [], overall, trace => (overall, trace)
  | check :: checks, overall, trace =>
    let v := check.evaluate engine ctx
    let overall := if !v.isAllow && overall.isAllow then v else overall
    traceChecks engine ctx checks overall (trace ++ [(check.name, v)])

def evaluateWithTrace (compiled : CompiledPolicy engine) (ctx : EvaluationContext F) :
    Verdict × List (String × Verdict) :=
  traceChecks engine ctx compiled.checks .allow []

/-- Once it is a denial, the verdict stays; until then it is that of the remaining checks. -/
theorem traceChecks_fst (checks : List (RuntimeCheck F)) (overall : Verdict)
    (trace : List (String × Verdict)) : (traceChecks engine ctx checks overall trace).1 =
      if overall.isAllow then evaluateChecks engine ctx checks else overall := by
  induction checks generalizing overall trace with
  | nil => cases overall <;> rfl
  | cons check checks ih =>
    rw [traceChecks, ih, evaluateChecks]
    cases overall with
    | deny name reason => simp [Verdict.isAllow]
    | allow => cases h : check.evaluate engine ctx <;> simp [Verdict.isAllow]

/-- A policy that appends invariants to another one and sets limits that it lacks denies what
it denies, and the verdict of a policy is that of its trace. -/
theorem tightened_denies (engine : Engine F) :
    (∀ (p q : Policy F) (P Q : CompiledPolicy engine) (ctx : EvaluationContext F),
      p.Tightened q → compile engine p = .ok P → compile engine q = .ok Q →
      (evaluate P ctx).isAllow = false → (evaluate Q ctx).isAllow = false) ∧
    ∀ (P : CompiledPolicy engine) (ctx : EvaluationContext F),
      evaluate P ctx = (evaluateWithTrace P ctx).1 := by
  refine ⟨fun p q P Q ctx htight hp hq hdeny => ?_, fun P ctx => ?_⟩
  · by_contra hallow
    have hQ : evaluate Q ctx = .allow := by
      cases hv : evaluate Q ctx with
      | allow => rfl
      | deny name reason => simp [hv, Verdict.isAllow] at hallow
    have hcovers := covers_checks htight (checks_of_compile engine hp)
      (checks_of_compile engine hq) (evaluateChecks_eq_allow.1 hQ)
    have hP : evaluate P ctx = .allow := evaluateChecks_eq_allow.2 hcovers
    simp [hP, Verdict.isAllow] at hdeny
  · rw [evaluateWithTrace, traceChecks_fst]
    rfl

/-- An engine for which every invariant is `true`. -/
def trueEngine : Engine ℚ := { sampleEngine ℚ with parseExpr := fun _ => .ok (.bool true) }

/-- A policy against one country. -/
def notFromUs : Policy ℚ where
  version := "1"
  agent := "agt_1"
  binding := { geoDenyCountries := some ["us"] }
  invariants := []

/-- The same with a list of countries to act from, and an invariant. -/
def fromFrOrUs : Policy ℚ :=
  { notFromUs with
    binding := { notFromUs.binding with geoAllowCountries := some ["fr", "us"] }
    invariants := ["true"] }

/-- A call from that country. -/
def callFromUs : EvaluationContext ℚ where
  action := { actionId := "a1", tool := "search", timestamp := 0,
              metadata := [("client_country", .str "us")] }
  spendTotalUsd := 0
  recentCallTimestamps := []
  nowEpoch := 0
  nowTzHhmm := "12:00"
  dailySpendUsd := 0
  weeklyCallTimestamps := []
  inFlightActions := 0
  lastActionAt := none
  nowWeekday := 1
  nowDate := ""

/-- The call stays denied, although the country is on the new list. -/
theorem denied_country_stays_denied : ∃ P Q : CompiledPolicy trueEngine,
    compile trueEngine notFromUs = .ok P ∧ compile trueEngine fromFrOrUs = .ok Q ∧
      (evaluate Q callFromUs).isAllow = false := by
  obtain ⟨P, hP⟩ : ∃ P, compile trueEngine notFromUs = .ok P := ⟨_, rfl⟩
  obtain ⟨Q, hQ⟩ : ∃ Q, compile trueEngine fromFrOrUs = .ok Q := ⟨_, rfl⟩
  have htight : notFromUs.Tightened fromFrOrUs :=
    ⟨by constructor <;> first | exact rfl | exact .inl rfl | exact .inr rfl, List.nil_prefix⟩
  have hdeny : (evaluate P callFromUs).isAllow = false := by
    cases hP
    decide +kernel
  exact ⟨P, Q, hP, hQ, (tightened_denies trueEngine).1 _ _ P Q callFromUs htight hP hQ hdeny⟩

end SauronID.Dsl
