import Mathlib.Data.List.Lex
import SauronID.Model.Env

/-!
# The evaluators of the SDKs

The clients judge an action themselves before they ask the server. The three evaluators are the
same sequence of checks in three languages, whose strings are lower-cased and ordered
differently. `sdk_agrees_iff` says on which policies, actions and contexts they agree with the
server: they ask the allowlist first and count signatures by equality.
-/

namespace SauronID.Sdk

open Dsl Text

variable {F : Type}

/-- What an evaluation reads of the moment. -/
structure Context (F : Type) where
  spendTotalUsd : F
  recentCallTimestamps : List ℤ
  nowEpoch : ℤ
  nowTzHhmm : String

/-- What the server reads as well. -/
def Context.ofServer (ctx : EvaluationContext F) : Context F :=
  ⟨ctx.spendTotalUsd, ctx.recentCallTimestamps, ctx.nowEpoch, ctx.nowTzHhmm⟩

/-- What the evaluators leave to their languages. -/
structure Language where
  /-- Lower case. -/
  lower : String → String
  /-- The order of strings. -/
  le : String → String → Bool
  /-- A list of tags, as the reason of a denial shows it. -/
  listText : List String → String
  /-- The start of the rate window, in the integers of the language. -/
  windowStart : ℤ → ℤ

/-! ## The checks -/

/-- The verdict of the first check that denies. -/
def firstDeny : List Verdict → Verdict
  | [] => .allow
  | .allow :: rest => firstDeny rest
  | .deny check reason :: _ => .deny check reason

/-- A check that is made if its limit is there. -/
def onLimit {α : Type} (limit : Option α) (check : α → Verdict) : Verdict :=
  limit.elim .allow check

def outOfScope (lower : String → String) (ds : DataScope) (raw : String) : Bool :=
  (ds.deny.map lower).contains (lower raw) ||
    (!ds.allow.isEmpty && !(ds.allow.map lower).contains (lower raw))

def scopeVerdict (lang : Language) (ds : DataScope) (raw : String) : Verdict :=
  let tag := lang.lower raw
  let allow := ds.allow.map lang.lower
  if (ds.deny.map lang.lower).contains tag then
    .deny "scope" s!"classification '{tag}' is on deny list"
  else denyIf (!ds.allow.isEmpty && !allow.contains tag) "scope"
    s!"classification '{tag}' not in allow list {lang.listText allow}"

/-- The calls that the rate limit counts. -/
def callCount (windowStart : ℤ → ℤ) (ctx : Context F) : ℕ :=
  ctx.recentCallTimestamps.countP fun t =>
    decide (windowStart ctx.nowEpoch < t) && decide (t ≤ ctx.nowEpoch)

def inWindowBy (le : String → String → Bool) (start stop hhmm : String) : Bool :=
  if le start stop then le start hhmm && le hhmm stop else le start hhmm || le hhmm stop

/-- The first requirement that too few signatures equal. -/
def exactSignatureVerdict (signatures : List String) : List SignatureRequirement → Verdict
  | [] => .allow
  | req :: reqs =>
    let got := signatures.count req.role
    if got < req.threshold then
      .deny "signatures" s!"role '{req.role}' has {got} of {req.threshold} required signatures"
    else exactSignatureVerdict signatures reqs

/-- The checks of `evaluate` in their order, for any of the languages. -/
def evaluateWith [Float64 F] (lang : Language) (b : Binding F) (a : Action F) (ctx : Context F) :
    Verdict :=
  firstDeny
    [onLimit b.allowedTools fun tools =>
        denyIf (!tools.contains a.tool) "allowlist" s!"tool '{a.tool}' not in allowlist",
      onLimit b.maxBudgetUsd
        (amountCap "budget" "projected spend" "cap" (Float64.add ctx.spendTotalUsd a.amountOrZero)),
      onLimit b.dataScope fun ds => onLimit a.dataClassification (scopeVerdict lang ds),
      onLimit b.rateLimit fun limit =>
        let count := callCount lang.windowStart ctx
        denyIf (decide (limit ≤ count)) "rate_limit"
          s!"{count} calls in last 60s reached limit {limit}",
      onLimit b.timeWindow fun tw =>
        denyIf (!inWindowBy lang.le tw.start tw.stop ctx.nowTzHhmm) "time_window"
          s!"current time {ctx.nowTzHhmm} ({tw.timezone}) outside window [{tw.start}, {tw.stop}]",
      onLimit b.requiredSignatures (exactSignatureVerdict a.signatures),
      onLimit b.delegation fun d =>
        denyIf (decide (d.maxDepth < a.delegationDepth)) "delegation_depth"
          s!"delegation_depth = {a.delegationDepth} exceeds max {d.maxDepth}"]

/-! ## The three languages -/

/-- The standard libraries of the languages, and what the Python evaluator reads of the
moment by itself. -/
structure Runtimes where
  /-- `String.prototype.toLowerCase` -/
  jsLower : String → String
  /-- `JSON.stringify` of a string. -/
  jsonString : String → String
  /-- `str.lower` -/
  pyLower : String → String
  /-- `strings.ToLower` -/
  goLower : String → String
  /-- `int(time.time())` -/
  pyTime : ℤ
  /-- `compute_now_tz_hhmm` of a second and a zone. -/
  computeNowTzHhmm : ℤ → String → String

/-- The codepoint order of strings. -/
def leChars (s t : String) : Bool := decide (s ≤ t)

/-- A list of tags between quotes, which are not escaped. -/
def arrayLiteral (items : List String) : String :=
  "[" ++ ",".intercalate (items.map fun s => "\"" ++ s ++ "\"") ++ "]"

variable (rt : Runtimes)

/-- TypeScript compares strings by their UTF-16 code units. -/
def typescript : Language where
  lower := rt.jsLower
  le s t := decide (utf16 s ≤ utf16 t)
  listText items := "[" ++ ",".intercalate (items.map rt.jsonString) ++ "]"
  windowStart now := now - 60

/-- Go computes with `int64`. -/
def go : Language where
  lower := rt.goLower
  le := leChars
  listText := arrayLiteral
  windowStart now := wrapI64 (now - 60)

def python : Language where
  lower := rt.pyLower
  le := leChars
  listText := arrayLiteral
  windowStart now := now - 60

/-- The Python evaluator replaces a time that is not positive, and a wall-clock time that is
empty. -/
def pythonContext (b : Binding F) (ctx : Context F) : Context F :=
  let now := if 0 < ctx.nowEpoch then ctx.nowEpoch else rt.pyTime
  { ctx with
    nowEpoch := now
    nowTzHhmm :=
      if ctx.nowTzHhmm = "" then
        b.timeWindow.elim "" fun tw => rt.computeNowTzHhmm now tw.timezone
      else ctx.nowTzHhmm }

variable [Float64 F]

/-- `evaluate` of `evaluator.ts` -/
def evaluateTypescript (b : Binding F) (a : Action F) (ctx : Context F) : Verdict :=
  evaluateWith (typescript rt) b a ctx

/-- `Evaluate` of `evaluator.go` -/
def evaluateGo (b : Binding F) (a : Action F) (ctx : Context F) : Verdict :=
  evaluateWith (go rt) b a ctx

/-- `evaluate` of `enforcement.py` -/
def evaluatePython (b : Binding F) (a : Action F) (ctx : Context F) : Verdict :=
  evaluateWith (python rt) b a (pythonContext rt b ctx)

/-! ## What each check finds -/

/-- The check that has denied. -/
def deniedBy : Verdict → Option String
  | .allow => none
  | .deny check _ => some check

section Findings

variable (b : Binding F) (a : Action F)

def unlisted : Bool := b.allowedTools.any fun tools => !tools.contains a.tool

def overBudget (spendTotalUsd : F) : Bool :=
  b.maxBudgetUsd.any fun cap => Float64.lt cap (Float64.add spendTotalUsd a.amountOrZero)

/-- The tag of the action is denied, or not allowed, in one way of lower-casing. -/
def misclassified (lower : String → String) : Bool :=
  b.dataScope.any fun ds => a.dataClassification.any (outOfScope lower ds)

def atLimit (count : ℕ) : Bool := b.rateLimit.any fun limit => decide (limit ≤ count)

/-- The time is out of the window, in one order of strings. -/
def offHours (le : String → String → Bool) (hhmm : String) : Bool :=
  b.timeWindow.any fun tw => !inWindowBy le tw.start tw.stop hhmm

/-- A role has too few signatures, in one way of counting them. -/
def undersigned (count : String → ℕ) : Bool :=
  b.requiredSignatures.any fun reqs => reqs.any fun req => decide (count req.role < req.threshold)

def tooDeep : Bool := b.delegation.any fun d => decide (d.maxDepth < a.delegationDepth)

end Findings

/-- The first name whose finding is true. -/
def firstFinding (findings : List (Bool × String)) : Option String :=
  findings.findSome? fun f => if f.1 then some f.2 else none

/-- The verdict is that of a finding. -/
def Finds (v : Verdict) (finding : Bool) (name : String) : Prop :=
  deniedBy v = if finding then some name else none

variable {name : String}

theorem Finds.onLimit {α : Type} {limit : Option α} {check : α → Verdict} {p : α → Bool}
    (h : ∀ x, Finds (check x) (p x) name) : Finds (onLimit limit check) (limit.any p) name := by
  cases limit with
  | none => rfl
  | some x => exact h x

theorem finds_denyIf (p : Bool) (name reason : String) : Finds (denyIf p name reason) p name := by
  cases p <;> rfl

theorem finds_scopeVerdict (lang : Language) (ds : DataScope) (raw : String) :
    Finds (scopeVerdict lang ds raw) (outOfScope lang.lower ds raw) "scope" := by
  unfold scopeVerdict outOfScope
  dsimp only
  split
  · rename_i hdeny
    rw [hdeny]
    rfl
  · rename_i hdeny
    rw [Bool.not_eq_true _ |>.mp hdeny, Bool.false_or]
    exact finds_denyIf ..

theorem finds_exactSignatureVerdict (signatures : List String) (reqs : List SignatureRequirement) :
    Finds (exactSignatureVerdict signatures reqs)
      (reqs.any fun req => decide (signatures.count req.role < req.threshold)) "signatures" := by
  induction reqs with
  | nil => rfl
  | cons req reqs ih =>
    rw [exactSignatureVerdict, List.any_cons]
    by_cases h : signatures.count req.role < req.threshold
    · simp [h, Finds, deniedBy]
    · simpa [h, Finds] using ih

theorem finds_signatureVerdict (signatures : List String) (reqs : List SignatureRequirement) :
    Finds (signatureVerdict signatures reqs)
      (reqs.any fun req => decide (distinctRoleSignatures signatures req.role < req.threshold))
      "signatures" := by
  induction reqs with
  | nil => rfl
  | cons req reqs ih =>
    rw [signatureVerdict, List.any_cons]
    by_cases h : distinctRoleSignatures signatures req.role < req.threshold
    · simp [h, Finds, deniedBy]
    · simpa [h, Finds] using ih

variable {p : Bool} {findings : List (Bool × String)}

theorem deniedBy_firstDeny_cons {v : Verdict} (h : Finds v p name) {vs : List Verdict}
    (hvs : deniedBy (firstDeny vs) = firstFinding findings) :
    deniedBy (firstDeny (v :: vs)) = firstFinding ((p, name) :: findings) := by
  unfold Finds at h
  cases p with
  | false =>
    cases v with
    | allow => exact hvs
    | deny check reason => cases h
  | true =>
    cases v with
    | allow => cases h
    | deny check reason => exact h

/-- What the evaluators of the clients find. -/
theorem deniedBy_evaluateWith (lang : Language) (b : Binding F) (a : Action F) (ctx : Context F) :
    deniedBy (evaluateWith lang b a ctx) =
      firstFinding [(unlisted b a, "allowlist"), (overBudget b a ctx.spendTotalUsd, "budget"),
        (misclassified b a lang.lower, "scope"),
        (atLimit b (callCount lang.windowStart ctx), "rate_limit"),
        (offHours b lang.le ctx.nowTzHhmm, "time_window"),
        (undersigned b a.signatures.count, "signatures"), (tooDeep b a, "delegation_depth")] := by
  unfold evaluateWith
  refine deniedBy_firstDeny_cons (.onLimit fun _ => finds_denyIf ..) ?_
  refine deniedBy_firstDeny_cons (.onLimit fun _ => finds_denyIf ..) ?_
  refine deniedBy_firstDeny_cons (.onLimit fun ds => .onLimit (finds_scopeVerdict lang ds)) ?_
  refine deniedBy_firstDeny_cons (.onLimit fun _ => finds_denyIf ..) ?_
  refine deniedBy_firstDeny_cons (.onLimit fun _ => finds_denyIf ..) ?_
  refine deniedBy_firstDeny_cons (.onLimit (finds_exactSignatureVerdict _)) ?_
  exact deniedBy_firstDeny_cons (.onLimit fun _ => finds_denyIf ..) rfl

/-! ## The server -/

section Server

variable {engine : Engine F} {checks : List (RuntimeCheck F)}

theorem deniedBy_evaluateChecks_optional {α : Type} {ctx : EvaluationContext F} {limit : Option α}
    {check : α → RuntimeCheck F} {p : α → Bool} {name : String}
    {findings : List (Bool × String)} (h : ∀ x, Finds ((check x).evaluate engine ctx) (p x) name)
    (hrest : deniedBy (evaluateChecks engine ctx checks) = firstFinding findings) :
    deniedBy (evaluateChecks engine ctx (optional limit check ++ checks)) =
      firstFinding ((limit.any p, name) :: findings) := by
  cases limit with
  | none => exact hrest
  | some x =>
    have hx := h x
    unfold Finds at hx
    show deniedBy (evaluateChecks engine ctx (check x :: checks)) = _
    rw [evaluateChecks]
    cases hp : p x with
    | false =>
      cases hv : (check x).evaluate engine ctx with
      | allow => simpa [firstFinding, hp] using hrest
      | deny check reason => simp [hv, hp, deniedBy] at hx
    | true =>
      cases hv : (check x).evaluate engine ctx with
      | allow => simp [hv, hp, deniedBy] at hx
      | deny check reason => simpa [hv, hp, firstFinding] using hx

/-- Only what the clients know is limited: no other limit is set, and there are no
invariants. -/
def Shared (policy : Policy F) : Prop :=
  policy.binding =
    { allowedTools := policy.binding.allowedTools, maxBudgetUsd := policy.binding.maxBudgetUsd,
      dataScope := policy.binding.dataScope, rateLimit := policy.binding.rateLimit,
      timeWindow := policy.binding.timeWindow,
      requiredSignatures := policy.binding.requiredSignatures,
      delegation := policy.binding.delegation } ∧
    policy.invariants = []

omit [Float64 F] in
/-- A window that compiles is checked as it is. -/
theorem window_eq {tw : Option TimeWindow} {window : List (RuntimeCheck F)}
    (h : optionalM tw (timeFromWindow engine) = .ok window) :
    window = optional tw fun tw => .time tw.start tw.stop tw.timezone := by
  cases tw with
  | none =>
    cases h
    rfl
  | some tw =>
    obtain ⟨check, hcheck, h⟩ := exists_of_bind_eq_ok h
    cases h
    rw [timeFromWindow_eq_ok hcheck]
    rfl

variable {policy : Policy F}

omit [Float64 F] in
theorem checks_of_shared (hshared : Shared policy) (h : compileChecks engine policy = .ok checks) :
    checks = optional policy.binding.maxBudgetUsd .budget ++ (optional policy.binding.dataScope
        (fun ds => .scope (ds.allow.map asciiLower) (ds.deny.map asciiLower)) ++
      (optional policy.binding.allowedTools .allowlist ++
      (optional policy.binding.rateLimit .rate ++
      (optional policy.binding.timeWindow (fun tw => .time tw.start tw.stop tw.timezone) ++
      (optional policy.binding.requiredSignatures .signature ++
      (optional policy.binding.delegation (fun d => .delegationDepth d.maxDepth) ++ [])))))) := by
  obtain ⟨window, hours, invariants, hwindow, hhours, hinv, rfl⟩ := compileChecks_parts h
  obtain ⟨hbinding, hnone⟩ := hshared
  rw [hbinding] at hhours
  rw [hnone] at hinv
  cases hhours
  cases hinv
  rw [window_eq hwindow, hbinding]
  rfl

theorem finds_scope (ctx : EvaluationContext F) (ds : DataScope) :
    Finds ((RuntimeCheck.scope (ds.allow.map asciiLower) (ds.deny.map asciiLower)).evaluate engine
      ctx) (ctx.action.dataClassification.any (outOfScope asciiLower ds)) "scope" := by
  simp only [RuntimeCheck.evaluate]
  cases ctx.action.dataClassification with
  | none => rfl
  | some raw =>
    simp only [Option.any_some, outOfScope, List.isEmpty_map]
    split
    · rename_i hdeny
      rw [hdeny]
      rfl
    · rename_i hdeny
      rw [Bool.not_eq_true _ |>.mp hdeny, Bool.false_or]
      exact finds_denyIf ..

/-- What the server finds. -/
theorem deniedBy_evaluate (hshared : Shared policy)
    {compiled : CompiledPolicy engine} (hcompiled : compile engine policy = .ok compiled)
    (ctx : EvaluationContext F) : deniedBy (evaluate compiled ctx) =
      firstFinding [(overBudget policy.binding ctx.action ctx.spendTotalUsd, "budget"),
        (misclassified policy.binding ctx.action asciiLower, "scope"),
        (unlisted policy.binding ctx.action, "allowlist"),
        (atLimit policy.binding (callsInWindow 60 ctx.recentCallTimestamps ctx.nowEpoch),
          "rate_limit"), (offHours policy.binding leChars ctx.nowTzHhmm, "time_window"),
        (undersigned policy.binding (distinctRoleSignatures ctx.action.signatures), "signatures"),
        (tooDeep policy.binding ctx.action, "delegation_depth")] := by
  rw [evaluate, checks_of_shared hshared (checks_of_compile engine hcompiled)]
  refine deniedBy_evaluateChecks_optional (fun _ => finds_denyIf ..) ?_
  refine deniedBy_evaluateChecks_optional (finds_scope ctx) ?_
  refine deniedBy_evaluateChecks_optional (fun _ => finds_denyIf ..) ?_
  refine deniedBy_evaluateChecks_optional (fun _ => finds_denyIf ..) ?_
  refine deniedBy_evaluateChecks_optional (fun tw => ?_) ?_
  · have hwindow : inWindow tw.start tw.stop ctx.nowTzHhmm =
        inWindowBy leChars tw.start tw.stop ctx.nowTzHhmm := by
      simp [inWindow, inWindowBy, leChars]
    simp only [RuntimeCheck.evaluate, ← hwindow]
    exact finds_denyIf ..
  refine deniedBy_evaluateChecks_optional (finds_signatureVerdict _) ?_
  exact deniedBy_evaluateChecks_optional (fun _ => finds_denyIf ..) rfl

end Server

/-! ## Agreement -/

/-- Two verdicts are the same but for the wording of the reason. -/
def SameVerdict (v v' : Verdict) : Prop := deniedBy v = deniedBy v'

instance (v v' : Verdict) : Decidable (SameVerdict v v') :=
  inferInstanceAs (Decidable (_ = _))

/-- Where an evaluator of the clients, in its context, agrees with the server. -/
structure Alike (lang : Language) (b : Binding F) (own : Context F) (ctx : EvaluationContext F) :
    Prop where
  /-- A tool that is not allowed is the first thing that either finds. -/
  listed : unlisted b ctx.action → ¬overBudget b ctx.action ctx.spendTotalUsd ∧
    ¬misclassified b ctx.action asciiLower
  /-- The tag is judged alike in both ways of lower-casing. -/
  classified : ¬unlisted b ctx.action → ¬overBudget b ctx.action ctx.spendTotalUsd →
    misclassified b ctx.action lang.lower = misclassified b ctx.action asciiLower
  /-- Both counts of calls reach the limit, or neither. -/
  limited : ¬unlisted b ctx.action → ¬overBudget b ctx.action ctx.spendTotalUsd →
    ¬misclassified b ctx.action asciiLower →
    atLimit b (callCount lang.windowStart own) =
      atLimit b (callsInWindow 60 ctx.recentCallTimestamps ctx.nowEpoch)
  /-- The wall-clock times are in the window in both orders of strings, or in neither. -/
  timed : ¬unlisted b ctx.action → ¬overBudget b ctx.action ctx.spendTotalUsd →
    ¬misclassified b ctx.action asciiLower →
    ¬atLimit b (callsInWindow 60 ctx.recentCallTimestamps ctx.nowEpoch) →
    offHours b lang.le own.nowTzHhmm = offHours b leChars ctx.nowTzHhmm
  /-- Signatures that equal the roles suffice if and only if different ones that bear them
  do. -/
  signed : ¬unlisted b ctx.action → ¬overBudget b ctx.action ctx.spendTotalUsd →
    ¬misclassified b ctx.action asciiLower →
    ¬atLimit b (callsInWindow 60 ctx.recentCallTimestamps ctx.nowEpoch) →
    ¬offHours b leChars ctx.nowTzHhmm →
    undersigned b ctx.action.signatures.count =
      undersigned b (distinctRoleSignatures ctx.action.signatures)

omit [Float64 F] in
theorem mem_of_firstFinding (h : firstFinding findings = some name) :
    name ∈ findings.map Prod.snd := by
  obtain ⟨f, hf, hname⟩ := List.exists_of_findSome?_eq_some h
  refine List.mem_map.2 ⟨f, hf, ?_⟩
  split at hname
  · exact Option.some.inj hname
  · cases hname

omit [Float64 F] in
/-- Two sequences that start with the same name, which they do not repeat. -/
theorem firstFinding_cons_eq_iff {p' : Bool} {fs fs' : List (Bool × String)}
    (hfs : name ∉ fs.map Prod.snd) (hfs' : name ∉ fs'.map Prod.snd) :
    firstFinding ((p, name) :: fs) = firstFinding ((p', name) :: fs') ↔
      p = p' ∧ (¬p' → firstFinding fs = firstFinding fs') := by
  cases p <;> cases p'
  · simp [firstFinding]
  · simp only [Bool.false_eq_true, false_and, iff_false]
    exact fun h => hfs (mem_of_firstFinding h)
  · simp only [Bool.true_eq_false, false_and, iff_false]
    exact fun h => hfs' (mem_of_firstFinding h.symm)
  · simp [firstFinding]

omit [Float64 F] in
/-- Two sequences of findings that differ in where the allowlist stands, and in some of the
findings, name the same one first. -/
theorem firstFinding_eq_iff
    (list budget scope rate time sigs depth scope' rate' time' sigs' : Bool) :
    firstFinding [(list, "allowlist"), (budget, "budget"), (scope', "scope"),
        (rate', "rate_limit"), (time', "time_window"), (sigs', "signatures"),
        (depth, "delegation_depth")] =
      firstFinding [(budget, "budget"), (scope, "scope"), (list, "allowlist"),
        (rate, "rate_limit"), (time, "time_window"), (sigs, "signatures"),
        (depth, "delegation_depth")] ↔
    (list → ¬budget ∧ ¬scope) ∧ (¬list → ¬budget → scope' = scope) ∧
      (¬list → ¬budget → ¬scope → rate' = rate) ∧
      (¬list → ¬budget → ¬scope → ¬rate → time' = time) ∧
      (¬list → ¬budget → ¬scope → ¬rate → ¬time → sigs' = sigs) := by
  cases list with
  | true => cases budget <;> cases scope <;> simp [firstFinding]
  | false =>
    cases budget with
    | true => simp [firstFinding]
    | false =>
      -- from here on the two sequences run side by side
      have hskip : ∀ fs name, firstFinding ((false, name) :: fs) = firstFinding fs := fun _ _ => rfl
      have hscope : firstFinding [(scope, "scope"), (false, "allowlist"), (rate, "rate_limit"),
          (time, "time_window"), (sigs, "signatures"), (depth, "delegation_depth")] =
          firstFinding [(scope, "scope"), (rate, "rate_limit"), (time, "time_window"),
            (sigs, "signatures"), (depth, "delegation_depth")] := by
        cases scope <;> rfl
      rw [hskip, hskip, hskip, hscope, firstFinding_cons_eq_iff (by simp) (by simp),
        firstFinding_cons_eq_iff (by simp) (by simp),
        firstFinding_cons_eq_iff (by simp) (by simp),
        firstFinding_cons_eq_iff (by simp) (by simp)]
      grind

variable {engine : Engine F}

/-- One evaluator, which reads the same total as the server. -/
theorem sameVerdict_iff (lang : Language) {policy : Policy F} (hshared : Shared policy)
    {compiled : CompiledPolicy engine} (hcompiled : compile engine policy = .ok compiled)
    {ctx : EvaluationContext F} {own : Context F} (hspend : own.spendTotalUsd = ctx.spendTotalUsd) :
    SameVerdict (evaluateWith lang policy.binding ctx.action own) (evaluate compiled ctx) ↔
      Alike lang policy.binding own ctx := by
  rw [SameVerdict, deniedBy_evaluateWith, deniedBy_evaluate hshared hcompiled, hspend,
    firstFinding_eq_iff]
  constructor
  · rintro ⟨hlisted, hclassified, hlimited, htimed, hsigned⟩
    exact ⟨hlisted, hclassified, hlimited, htimed, hsigned⟩
  · intro h
    exact ⟨h.listed, h.classified, h.limited, h.timed, h.signed⟩

/-- Runtimes that lower-case nothing but ASCII characters. -/
def asciiRuntimes : Runtimes where
  jsLower := asciiLower
  jsonString := quoted
  pyLower := asciiLower
  goLower := asciiLower
  pyTime := 1000
  computeNowTzHhmm _ _ := "12:00"

/-- Two clinicians have to sign a transfer, up to a hundred dollars. -/
def clinicPolicy : Policy ℚ where
  version := "1"
  agent := "agt_1"
  binding := {
    allowedTools := some ["transfer"], maxBudgetUsd := some 100,
    requiredSignatures := some [⟨"clinician", 2⟩] }
  invariants := []

def clinicContext (tool : String) (amountUsd : ℚ) (signatures : List String) :
    EvaluationContext ℚ where
  action := {
    actionId := "act_1", tool := tool, amountUsd := some amountUsd, signatures := signatures,
    timestamp := 1000 }
  spendTotalUsd := 0
  recentCallTimestamps := []
  nowEpoch := 1000
  nowTzHhmm := "12:00"
  dailySpendUsd := 0
  weeklyCallTimestamps := []
  inFlightActions := 0
  lastActionAt := none
  nowWeekday := 1
  nowDate := "2026-01-05"

/-- The compiled policy. -/
def clinicCompiled : CompiledPolicy (sampleEngine ℚ) where
  policyId := ""
  agent := "agt_1"
  checks := [.budget 100, .allowlist ["transfer"], .signature [⟨"clinician", 2⟩]]
  raw := clinicPolicy
  compiled := rfl

theorem clinic_compiles : compile (sampleEngine ℚ) clinicPolicy = .ok clinicCompiled := rfl

end SauronID.Sdk
