import SauronID.Policy.Checks

/-!
# Compiling and evaluating a policy

`compile` turns a document into its checks in declaration order, and `evaluate` asks
them in that order until one denies. A `CompiledPolicy` can only be had from the
compiler: it carries the proof that its checks are those of its document.
-/

namespace SauronID.Dsl

open Text

inductive CompileError where
  | invalidScope (message : String)
  | invalidTimeWindow (message : String)
  | invariantParseError (line : ℕ) (message : String)
  deriving DecidableEq, Repr

variable {F : Type} (engine : Engine F)

/-- Two digits of an hour, a colon and two digits of a minute; the second digit of
either may be of any script. -/
def isHhmm (s : String) : Bool :=
  match s.toList with
  | [h₁, h₂, ':', m₁, m₂] =>
    (((h₁ == '0' || h₁ == '1') && engine.digit h₂) || (h₁ == '2' && '0' ≤ h₂ && h₂ ≤ '3')) &&
      '0' ≤ m₁ && m₁ ≤ '5' && engine.digit m₂
  | _ => false

/-- `validate_hhmm`, with the error as the compiler reports it. -/
def validateHhmm (s : String) : Except CompileError Unit :=
  if isHhmm engine s then .ok ()
  else .error (.invalidTimeWindow (s!"schema violation: invalid HH:MM time '{s}' (expected " ++
    "24-hour with leading zeros, e.g. 09:00)"))

def timeFromWindow (tw : TimeWindow) : Except CompileError (RuntimeCheck F) := do
  validateHhmm engine tw.start
  validateHhmm engine tw.stop
  return .time tw.start tw.stop tw.timezone

def businessHoursFromConfig (bh : BusinessHours) : Except CompileError (RuntimeCheck F) := do
  bh.weekdayWindows.forM fun w => do
    validateHhmm engine w.2.1
    validateHhmm engine w.2.2
  return .businessHours bh.weekdayWindows bh.timezone

/-- The invariants of a policy, numbered from `line`. -/
def compileInvariants (binding : Binding F) :
    ℕ → List String → Except CompileError (List (RuntimeCheck F))
  | _, [] => .ok []
  | line, src :: rest => do
    let expr ← (engine.parseExpr src).mapError (CompileError.invariantParseError line)
    return .expression src expr binding :: (← compileInvariants binding (line + 1) rest)

/-- The check an optional limit stands for. -/
def optional {α : Type} (o : Option α) (f : α → RuntimeCheck F) : List (RuntimeCheck F) :=
  o.toList.map f

variable {α : Type} {o : Option α}

theorem forall_mem_optional {f : α → RuntimeCheck F}
    {P : RuntimeCheck F → Prop} : (∀ c ∈ optional o f, P c) ↔ ∀ a, o = some a → P (f a) := by
  simp [optional]

/-- The check an optional limit stands for, when the limit is well formed. -/
def optionalM {α : Type} (o : Option α) (f : α → Except CompileError (RuntimeCheck F)) :
    Except CompileError (List (RuntimeCheck F)) :=
  o.toList.mapM f

/-- The checks in declaration order, with those that had to be validated given. -/
def orderedChecks (b : Binding F) (window hours invariants : List (RuntimeCheck F)) :
    List (RuntimeCheck F) :=
  let geoAllow := b.geoAllowCountries.getD []
  let geoDeny := b.geoDenyCountries.getD []
  [optional b.maxBudgetUsd .budget,
    optional b.dataScope (fun ds => .scope (ds.allow.map asciiLower) (ds.deny.map asciiLower)),
    optional b.allowedTools .allowlist,
    optional b.rateLimit .rate,
    window,
    optional b.requiredSignatures .signature,
    optional b.delegation (fun d => .delegationDepth d.maxDepth),
    optional b.domainDenylist (fun ds => .domainDenylist (ds.map asciiLower)),
    optional b.domainAllowlist (fun ds => .domainAllowlist (ds.map asciiLower)),
    optional b.toolDenylist .toolDenylist,
    optional b.dailyBudgetUsd .dailyBudget,
    optional b.maxSingleActionUsd .perActionCap,
    optional b.weeklyRate .weeklyRate,
    optional b.maxConcurrent .concurrency,
    optional b.cooldownSeconds .cooldown,
    optional b.maxPayloadBytes .payloadSize,
    optional b.contentTypeAllowlist (fun cts => .contentType (cts.map asciiLower)),
    optional b.maxRecipients .recipientCount,
    optional b.maxChainDepth .chainDepth,
    (if b.piiBlock = some true then [.piiDetection] else []),
    optional b.languageAllowlist (fun ls => .languageAllowlist (ls.map asciiLower)),
    optional b.currencyAllowlist (fun cs => .currencyAllowlist (cs.map asciiUpper)),
    (if !geoAllow.isEmpty || !geoDeny.isEmpty then
      [.geoRestriction (geoAllow.map asciiUpper) (geoDeny.map asciiUpper)] else []),
    hours,
    optional b.holidayBlackoutDates .holidayBlackout,
    optional b.pinnedVersion .versionPin,
    (if b.dryRun = some true then [.dryRun] else []),
    invariants].flatten

def compileChecks (policy : Policy F) : Except CompileError (List (RuntimeCheck F)) := do
  let window ← optionalM policy.binding.timeWindow (timeFromWindow engine)
  let hours ← optionalM policy.binding.businessHours (businessHoursFromConfig engine)
  let invariants ← compileInvariants engine policy.binding 0 policy.invariants
  return orderedChecks policy.binding window hours invariants

/-- A compiled policy; `compiled` says where the checks come from. -/
structure CompiledPolicy where
  policyId : String
  agent : String
  checks : List (RuntimeCheck F)
  raw : Policy F
  compiled : compileChecks engine raw = .ok checks

def compile (policy : Policy F) : Except CompileError (CompiledPolicy engine) :=
  match h : compileChecks engine policy with
  | .error e => .error e
  | .ok checks => .ok ⟨engine.hashPolicy policy, policy.agent, checks, policy, h⟩

variable {policy : Policy F}

/-- What the compiler returns are the checks of the document. -/
theorem checks_of_compile {compiled : CompiledPolicy engine}
    (h : compile engine policy = .ok compiled) :
    compileChecks engine policy = .ok compiled.checks := by
  unfold compile at h
  split at h
  · cases h
  · rename_i checks hchecks
    cases h
    exact hchecks

/-! ## Evaluation -/

variable [Float64 F]

/-- The verdict of the first check that denies. -/
def evaluateChecks (ctx : EvaluationContext F) : List (RuntimeCheck F) → Verdict
  | [] => .allow
  | check :: checks =>
    match check.evaluate engine ctx with
    | .allow => evaluateChecks ctx checks
    | .deny name reason => .deny name reason

variable {engine}

def evaluate (compiled : CompiledPolicy engine) (ctx : EvaluationContext F) : Verdict :=
  evaluateChecks engine ctx compiled.checks

variable {checks : List (RuntimeCheck F)}

/-- A policy allows exactly what each of its checks allows. -/
theorem evaluateChecks_eq_allow {ctx : EvaluationContext F} :
    evaluateChecks engine ctx checks = .allow ↔ ∀ c ∈ checks, c.evaluate engine ctx = .allow := by
  induction checks with
  | nil => simp [evaluateChecks]
  | cons check checks ih =>
    unfold evaluateChecks
    cases h : check.evaluate engine ctx with
    | allow => simp [h, ih]
    | deny name reason => simp [h]

/-! ## Where a check comes from -/

omit [Float64 F]

variable {c : RuntimeCheck F}

theorem mem_optionalM {f : α → Except CompileError (RuntimeCheck F)}
    (h : optionalM o f = .ok checks) (hc : c ∈ checks) : ∃ a, f a = .ok c := by
  cases o with
  | none =>
    cases h
    cases hc
  | some a =>
    cases hf : f a with
    | error e => simp [optionalM, hf, bind, Except.bind] at h
    | ok c' =>
      simp only [optionalM, Option.toList, List.mapM_cons, hf, List.mapM_nil] at h
      cases h
      rw [List.mem_singleton.1 hc]
      exact ⟨a, hf⟩

/-- A validation in front does not change the result. -/
theorem eq_ok_of_validated {m : Except CompileError Unit} {x : Except CompileError (RuntimeCheck F)}
    (h : (do m; x) = .ok c) : x = .ok c := by
  cases m with
  | error e => cases h
  | ok _ => exact h

theorem timeFromWindow_eq_ok {tw : TimeWindow}
    (h : timeFromWindow engine tw = .ok c) : c = .time tw.start tw.stop tw.timezone := by
  cases eq_ok_of_validated (eq_ok_of_validated h)
  rfl

theorem businessHoursFromConfig_eq_ok {bh : BusinessHours}
    (h : businessHoursFromConfig engine bh = .ok c) :
    c = .businessHours bh.weekdayWindows bh.timezone := by
  cases eq_ok_of_validated h
  rfl

theorem mem_compileInvariants {b : Binding F} {srcs : List String} :
    ∀ {line : ℕ} {checks : List (RuntimeCheck F)},
      compileInvariants engine b line srcs = .ok checks → c ∈ checks →
        ∃ src expr, c = .expression src expr b := by
  induction srcs with
  | nil =>
    intro line checks h hc
    cases h
    cases hc
  | cons src rest ih =>
    intro line checks h hc
    unfold compileInvariants at h
    obtain ⟨expr, -, h⟩ := exists_of_bind_eq_ok h
    obtain ⟨checks', hrest, h⟩ := exists_of_bind_eq_ok h
    cases h
    rcases List.mem_cons.1 hc with rfl | hc
    · exact ⟨src, expr, rfl⟩
    · exact ih hrest hc

/-- The parts of the compilation. -/
theorem compileChecks_parts (h : compileChecks engine policy = .ok checks) :
    ∃ window hours invariants,
      optionalM policy.binding.timeWindow (timeFromWindow engine) = .ok window ∧
      optionalM policy.binding.businessHours (businessHoursFromConfig engine) = .ok hours ∧
      compileInvariants engine policy.binding 0 policy.invariants = .ok invariants ∧
      checks = orderedChecks policy.binding window hours invariants := by
  obtain ⟨window, hwindow, h⟩ := exists_of_bind_eq_ok h
  obtain ⟨hours, hhours, h⟩ := exists_of_bind_eq_ok h
  obtain ⟨invariants, hinv, h⟩ := exists_of_bind_eq_ok h
  exact ⟨window, hours, invariants, hwindow, hhours, hinv, (Except.ok.inj h).symm⟩

/-- The kinds of checks the compiler validates before it emits them. -/
def RuntimeCheck.validated : RuntimeCheck F → Bool
  | time _ _ _ | businessHours _ _ | expression _ _ _ => true
  | _ => false

/-- The checks of a compiled policy are those its limits stand for; the three lists
that were validated hold nothing but checks of these kinds. -/
theorem compileChecks_eq_ok (h : compileChecks engine policy = .ok checks) :
    ∃ window hours invariants, checks = orderedChecks policy.binding window hours invariants ∧
      ∀ c ∈ window ++ hours ++ invariants, c.validated = true := by
  obtain ⟨window, hours, invariants, hw, hh, hi, rfl⟩ := compileChecks_parts h
  refine ⟨window, hours, invariants, rfl, fun c hc => ?_⟩
  simp only [List.mem_append] at hc
  rcases hc with (hc | hc) | hc
  · obtain ⟨tw, hf⟩ := mem_optionalM hw hc
    rw [timeFromWindow_eq_ok hf]
    rfl
  · obtain ⟨bh, hf⟩ := mem_optionalM hh hc
    rw [businessHoursFromConfig_eq_ok hf]
    rfl
  · obtain ⟨src, expr, rfl⟩ := mem_compileInvariants hi hc
    rfl

/-- Without time rules and invariants nothing is validated. -/
theorem CompiledPolicy.checks_eq (p : CompiledPolicy engine)
    (hwindow : p.raw.binding.timeWindow = none) (hhours : p.raw.binding.businessHours = none)
    (hinv : p.raw.invariants = []) : p.checks = orderedChecks p.raw.binding [] [] [] := by
  have h := p.compiled
  rw [compileChecks, hwindow, hhours, hinv] at h
  exact (Except.ok.inj h).symm

/-- A check that needs no validation is there exactly when a limit stands for it. -/
theorem CompiledPolicy.mem_checks (p : CompiledPolicy engine)
    (hc : c.validated = false) : c ∈ p.checks ↔ c ∈ orderedChecks p.raw.binding [] [] [] := by
  obtain ⟨window, hours, invariants, h, hval⟩ := compileChecks_eq_ok p.compiled
  have hno : c ∉ window ++ hours ++ invariants := fun hmem => by simp [hval c hmem] at hc
  simp only [List.mem_append, not_or] at hno
  rw [h]
  unfold orderedChecks
  simp [hno]

variable {cap : F}

theorem CompiledPolicy.budget_mem (p : CompiledPolicy engine) :
    .budget cap ∈ p.checks ↔ p.raw.binding.maxBudgetUsd = some cap := by
  rw [p.mem_checks rfl]
  unfold orderedChecks
  simp [optional]

variable {tools : List String}

theorem CompiledPolicy.allowlist_mem (p : CompiledPolicy engine) :
    .allowlist tools ∈ p.checks ↔ p.raw.binding.allowedTools = some tools := by
  rw [p.mem_checks rfl]
  unfold orderedChecks
  simp [optional]

theorem CompiledPolicy.toolDenylist_mem (p : CompiledPolicy engine) :
    .toolDenylist tools ∈ p.checks ↔ p.raw.binding.toolDenylist = some tools := by
  rw [p.mem_checks rfl]
  unfold orderedChecks
  simp [optional]

theorem CompiledPolicy.dailyBudget_mem (p : CompiledPolicy engine) :
    .dailyBudget cap ∈ p.checks ↔ p.raw.binding.dailyBudgetUsd = some cap := by
  rw [p.mem_checks rfl]
  unfold orderedChecks
  simp [optional]

theorem CompiledPolicy.concurrency_mem (p : CompiledPolicy engine) {n : ℕ} :
    .concurrency n ∈ p.checks ↔ p.raw.binding.maxConcurrent = some n := by
  rw [p.mem_checks rfl]
  unfold orderedChecks
  simp [optional]

end SauronID.Dsl
