import SauronID.Lib.Fallible
import SauronID.Lib.Text
import SauronID.Policy.Expr

/-!
# The runtime checks of a policy

A compiled policy is a list of checks, one for each limit its document sets. Each
check looks at the action and the facts of the moment and allows or denies. Four
checks require an entry of the action's metadata to be on a list and share one
definition; three compare an amount with a cap, and two count calls in a window.
-/

namespace SauronID.Dsl

open Text

/-- The instants a local time stands for. -/
inductive LocalResult where
  | none
  | single (t : ℤ)
  | ambiguous (earlier later : ℤ)
  deriving DecidableEq, Repr

/-- A time zone: its offset from UTC at an instant, in seconds, and the instants at which
its clocks show a given number of seconds since their own epoch. -/
structure Zone where
  offset : ℤ → ℤ
  fromLocal : ℤ → LocalResult

def Zone.utc : Zone := ⟨fun _ => 0, .single⟩

/-- The libraries the engine is built on: regular expressions and the time zone data,
and the parser of the invariant expressions. -/
structure Engine (F : Type) where
  /-- `\d`: a decimal digit of any script. -/
  digit : Char → Bool
  emailRe : String → Bool
  ssnRe : String → Bool
  parseExpr : String → Except String (Expr F)
  /-- `hash_policy`, the content address of a document. -/
  hashPolicy : Policy F → String
  /-- The instants that are a calendar date of the library. -/
  representable : ℤ → Bool
  zone : String → Option Zone

/-- A compiled check. Lists are kept in the case they are compared in. -/
inductive RuntimeCheck (F : Type) where
  | budget (maxUsd : F)
  | scope (allow deny : List String)
  | allowlist (tools : List String)
  | rate (requestsPerMinute : ℕ)
  | time (start stop tz : String)
  | signature (requirements : List SignatureRequirement)
  | delegationDepth (max : ℕ)
  | domainDenylist (domains : List String)
  | domainAllowlist (domains : List String)
  | toolDenylist (tools : List String)
  | dailyBudget (dailyCapUsd : F)
  | perActionCap (maxSingleActionUsd : F)
  | weeklyRate (requestsPerWeek : ℕ)
  | concurrency (maxConcurrent : ℕ)
  | cooldown (cooldownSeconds : ℕ)
  | payloadSize (maxBytes : ℕ)
  | contentType (allowed : List String)
  | recipientCount (maxRecipients : ℕ)
  | chainDepth (maxChainDepth : ℕ)
  | piiDetection
  | languageAllowlist (allowed : List String)
  | currencyAllowlist (allowed : List String)
  | geoRestriction (allow deny : List String)
  | businessHours (windows : List (ℕ × String × String)) (tz : String)
  | holidayBlackout (dates : List String)
  | versionPin (pinned : String)
  | dryRun
  | expression (src : String) (expr : Expr F) (binding : Binding F)

variable {F : Type}

def RuntimeCheck.name : RuntimeCheck F → String
  | budget _ => "budget"
  | scope _ _ => "scope"
  | allowlist _ => "allowlist"
  | rate _ => "rate_limit"
  | time _ _ _ => "time_window"
  | signature _ => "signatures"
  | delegationDepth _ => "delegation_depth"
  | domainDenylist _ => "domain_denylist"
  | domainAllowlist _ => "domain_allowlist"
  | toolDenylist _ => "tool_denylist"
  | dailyBudget _ => "daily_budget"
  | perActionCap _ => "per_action_cap"
  | weeklyRate _ => "weekly_rate"
  | concurrency _ => "concurrency"
  | cooldown _ => "cooldown"
  | payloadSize _ => "payload_size"
  | contentType _ => "content_type_allowlist"
  | recipientCount _ => "recipient_count"
  | chainDepth _ => "chain_depth"
  | piiDetection => "pii_detection"
  | languageAllowlist _ => "language_allowlist"
  | currencyAllowlist _ => "currency_allowlist"
  | geoRestriction _ _ => "geo_restriction"
  | businessHours _ _ => "business_hours"
  | holidayBlackout _ => "holiday_blackout"
  | versionPin _ => "version_pin"
  | dryRun => "dry_run"
  | expression _ _ _ => "invariant_expr"

/-! ## The judgements -/

/-- Deny with the reason when `p` holds. -/
def denyIf (p : Bool) (check reason : String) : Verdict := if p then .deny check reason else .allow

/-- An entry of the metadata, brought to the case of the list, must be on the list; a
missing entry is denied. -/
def metaAllowlist (check key noun : String) (normal : String → String) (allowed : List String)
    (a : Action F) : Verdict :=
  match a.metaStr key with
  | none => .deny check s!"action.metadata.{key} missing"
  | some raw => denyIf (!allowed.contains (normal raw)) check
      s!"{noun} '{normal raw}' not in allowlist"

/-- The media type without its parameters. -/
def mediaType (raw : String) : String :=
  asciiLower (trim (String.ofList (raw.toList.takeWhile (· ≠ ';'))))

/-- The action's amount; an action without one costs nothing. -/
def Action.amountOrZero [Float64 F] (a : Action F) : F := a.amountUsd.getD (Float64.ofInt 0)

/-- An amount must not exceed a cap. -/
def amountCap [Float64 F] (check what capName : String) (amount cap : F) : Verdict :=
  denyIf (Float64.lt cap amount) check
    s!"{what} {Float64.fixed 2 amount} USD exceeds {capName} {Float64.fixed 2 cap} USD"

/-- How many of the calls fall in the last `secs` seconds. -/
def callsInWindow (secs : ℤ) (stamps : List ℤ) (now : ℤ) : ℕ :=
  wrapU32 (stamps.countP fun t => decide (satI64 (now - secs) < t) && decide (t ≤ now))

/-- The time is in the window; a window that ends before it starts spans midnight. -/
def inWindow (start stop hhmm : String) : Bool :=
  if start ≤ stop then decide (start ≤ hhmm) && decide (hhmm ≤ stop)
  else decide (start ≤ hhmm) || decide (hhmm ≤ stop)

/-- A list of strings as `{:?}` prints it. -/
def debugList (xs : List String) : String := "[" ++ ", ".intercalate (xs.map quoted) ++ "]"

/-- The first requirement that too few signatures meet. -/
def signatureVerdict (signatures : List String) : List SignatureRequirement → Verdict
  | [] => .allow
  | req :: reqs =>
    let got := distinctRoleSignatures signatures req.role
    if got < req.threshold then
      .deny "signatures"
        s!"role '{req.role}' has {got} of {req.threshold} required distinct signatures"
    else signatureVerdict signatures reqs

def geoVerdict (allow deny : List String) (country : Option String) : Verdict :=
  match country with
  | some c =>
    if deny.contains c then .deny "geo_restriction" s!"country '{c}' on geo deny list"
    else denyIf (!allow.isEmpty && !allow.contains c) "geo_restriction"
      s!"country '{c}' not in geo allow list"
  | none => denyIf (!allow.isEmpty) "geo_restriction" "action.metadata.client_country missing"

variable [Float64 F] (engine : Engine F)

/-- `RuntimeCheck::evaluate`. -/
def RuntimeCheck.evaluate (check : RuntimeCheck F) (ctx : EvaluationContext F) : Verdict :=
  let a := ctx.action
  match check with
  | budget maxUsd =>
      amountCap check.name "projected spend" "cap"
        (Float64.add ctx.spendTotalUsd a.amountOrZero) maxUsd
  | dailyBudget dailyCapUsd =>
      amountCap check.name "projected daily spend" "daily cap"
        (Float64.add ctx.dailySpendUsd a.amountOrZero) dailyCapUsd
  | perActionCap cap =>
      amountCap check.name "single action amount" "per-action cap" a.amountOrZero cap
  | scope allow deny =>
      match a.dataClassification with
      | none => .allow
      | some raw =>
        let tag := asciiLower raw
        if deny.contains tag then .deny check.name s!"classification '{tag}' is on deny list"
        else denyIf (!allow.isEmpty && !allow.contains tag) check.name
          s!"classification '{tag}' not in allow list {debugList allow}"
  | allowlist tools =>
      denyIf (!tools.contains a.tool) check.name s!"tool '{a.tool}' not in allowlist"
  | toolDenylist tools =>
      denyIf (tools.contains a.tool) check.name s!"tool '{a.tool}' is on deny list"
  | rate limit =>
      let count := callsInWindow 60 ctx.recentCallTimestamps ctx.nowEpoch
      denyIf (decide (limit ≤ count)) check.name s!"{count} calls in last 60s reached limit {limit}"
  | weeklyRate limit =>
      let count := callsInWindow (7 * 24 * 60 * 60) ctx.weeklyCallTimestamps ctx.nowEpoch
      denyIf (decide (limit ≤ count)) check.name
        s!"{count} calls in last 7 days reached weekly limit {limit}"
  | time start stop tz =>
      denyIf (!inWindow start stop ctx.nowTzHhmm) check.name
        s!"current time {ctx.nowTzHhmm} ({tz}) outside window [{start}, {stop}]"
  | businessHours windows tz =>
      match windows.find? fun w => w.1 == ctx.nowWeekday with
      | none => .deny check.name s!"weekday {ctx.nowWeekday} not configured as a business day"
      | some (_, start, stop) =>
        denyIf (!inWindow start stop ctx.nowTzHhmm) check.name
          (s!"current time {ctx.nowTzHhmm} ({tz}) outside business hours [{start}, {stop}] " ++
            s!"on weekday {ctx.nowWeekday}")
  | signature requirements => signatureVerdict a.signatures requirements
  | delegationDepth max =>
      denyIf (decide (max < a.delegationDepth)) check.name
        s!"{check.name} = {a.delegationDepth} exceeds max {max}"
  | domainAllowlist domains =>
      metaAllowlist check.name "target_domain" "domain" asciiLower domains a
  | contentType allowed =>
      metaAllowlist check.name "content_type" "content type" mediaType allowed a
  | languageAllowlist allowed =>
      metaAllowlist check.name "detected_language" "language" asciiLower allowed a
  | currencyAllowlist allowed =>
      metaAllowlist check.name "currency" "currency" asciiUpper allowed a
  | domainDenylist domains =>
      -- no destination is on no list
      match a.metaStr "target_domain" with
      | none => .allow
      | some raw => denyIf (domains.contains (asciiLower raw)) check.name
          s!"domain '{asciiLower raw}' is on deny list"
  | concurrency maxConcurrent =>
      denyIf (decide (maxConcurrent ≤ ctx.inFlightActions)) check.name
        s!"{ctx.inFlightActions} in-flight actions reached concurrency cap {maxConcurrent}"
  | cooldown seconds =>
      match ctx.lastActionAt with
      | none => .allow
      | some last =>
        let gap := satI64 (ctx.nowEpoch - last)
        denyIf (decide (gap < wrapI64 seconds)) check.name
          s!"only {gap}s since previous action; cooldown requires {seconds}s"
  | payloadSize maxBytes =>
      match a.metaU64 "payload_bytes" with
      | none => .allow
      | some bytes => denyIf (decide (maxBytes < bytes)) check.name
          s!"payload {bytes} bytes exceeds max {maxBytes} bytes"
  | recipientCount maxRecipients =>
      match a.metaU64 "recipient_count" with
      | none => .allow
      | some n => denyIf (decide (maxRecipients < n)) check.name
          s!"{n} recipients exceeds max {maxRecipients}"
  | chainDepth maxChainDepth =>
      let depth := (a.metaU64 "chain_depth").getD 0
      denyIf (decide (maxChainDepth < depth)) check.name
        s!"chain_depth {depth} exceeds max {maxChainDepth}"
  | piiDetection =>
      if a.metaBool "pii_detected" = some true then
        .deny check.name "action.metadata.pii_detected is true"
      else
        match a.metaStr "payload" with
        | none => .allow
        | some payload =>
          if engine.emailRe payload then .deny check.name "payload contains email-like pattern"
          else denyIf (engine.ssnRe payload) check.name "payload contains SSN-like pattern"
  | geoRestriction allow deny =>
      geoVerdict allow deny ((a.metaStr "client_country").map asciiUpper)
  | holidayBlackout dates =>
      denyIf (ctx.nowDate != "" && dates.contains ctx.nowDate) check.name
        s!"{ctx.nowDate} is on holiday blackout"
  | versionPin pinned =>
      match a.metaStr "agent_version" with
      | none => .deny check.name "action.metadata.agent_version missing"
      | some v => denyIf (v != pinned) check.name
          s!"agent_version '{v}' does not match pinned '{pinned}'"
  | dryRun => .allow
  | expression src expr binding =>
      match evalPredicate expr ⟨a, ctx, binding, ctx.nowEpoch⟩ with
      | .ok true => .allow
      | .ok false => .deny check.name s!"invariant violated: {src}"
      | .error e => .deny check.name s!"invariant evaluation error in `{src}`: {e.display}"

end SauronID.Dsl
