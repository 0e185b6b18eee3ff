import Mathlib.Data.List.Dedup
import SauronID.Lib.Float64
import SauronID.Model.Json

/-!
# Policies, actions and verdicts

The policy document after parsing, the action an agent wants to take, and what the
server knows when it judges the action. Widths of the integer fields are not kept:
`u32` and `u64` fields are natural numbers.
-/

namespace SauronID.Dsl

/-! ## The document -/

/-- Classification tags an agent may and may not touch. -/
structure DataScope where
  allow : List String
  deny : List String

/-- A wall-clock window, `HH:MM` at both ends. -/
structure TimeWindow where
  start : String
  stop : String
  timezone : String

/-- So many distinct signatures of a role. -/
structure SignatureRequirement where
  role : String
  threshold : ℕ

structure DelegationLimits where
  maxDepth : ℕ
  allowedSubagents : List String

/-- Per weekday, 0 for Sunday, the first and the last `HH:MM`. -/
structure BusinessHours where
  weekdayWindows : List (ℕ × String × String)
  timezone : String

/-- The limits a policy declares; an absent field sets no limit. -/
structure Binding (F : Type) where
  allowedTools : Option (List String) := none
  maxBudgetUsd : Option F := none
  dataScope : Option DataScope := none
  /-- Requests per minute. -/
  rateLimit : Option ℕ := none
  timeWindow : Option TimeWindow := none
  requiredSignatures : Option (List SignatureRequirement) := none
  delegation : Option DelegationLimits := none
  domainAllowlist : Option (List String) := none
  domainDenylist : Option (List String) := none
  toolDenylist : Option (List String) := none
  dailyBudgetUsd : Option F := none
  maxSingleActionUsd : Option F := none
  /-- Requests per week. -/
  weeklyRate : Option ℕ := none
  maxConcurrent : Option ℕ := none
  cooldownSeconds : Option ℕ := none
  maxPayloadBytes : Option ℕ := none
  contentTypeAllowlist : Option (List String) := none
  maxRecipients : Option ℕ := none
  maxChainDepth : Option ℕ := none
  piiBlock : Option Bool := none
  languageAllowlist : Option (List String) := none
  currencyAllowlist : Option (List String) := none
  geoAllowCountries : Option (List String) := none
  geoDenyCountries : Option (List String) := none
  businessHours : Option BusinessHours := none
  holidayBlackoutDates : Option (List String) := none
  pinnedVersion : Option String := none
  dryRun : Option Bool := none

/-- A policy document. -/
structure Policy (F : Type) where
  version : String
  agent : String
  binding : Binding F
  invariants : List String

/-! ## Actions -/

/-- One tool invocation an agent wants to make. -/
structure Action (F : Type) where
  actionId : String
  tool : String
  amountUsd : Option F := none
  dataClassification : Option String := none
  signatures : List String := []
  delegationDepth : ℕ := 0
  timestamp : ℤ
  metadata : List (String × Json) := []

variable {F : Type}

/-- An entry of the metadata. -/
def Action.meta? (a : Action F) (key : String) : Option Json :=
  (a.metadata.find? fun p => p.1 == key).map Prod.snd

def Action.metaStr (a : Action F) (key : String) : Option String := (a.meta? key).bind Json.asStr

def Action.metaU64 (a : Action F) (key : String) : Option ℕ := (a.meta? key).bind Json.asU64

def Action.metaBool (a : Action F) (key : String) : Option Bool := (a.meta? key).bind Json.asBool

/-! ## What an action is judged by -/

/-- `EvaluationContext`: the action and the facts of the moment. -/
structure EvaluationContext (F : Type) where
  action : Action F
  spendTotalUsd : F
  recentCallTimestamps : List ℤ
  nowEpoch : ℤ
  nowTzHhmm : String
  dailySpendUsd : F
  weeklyCallTimestamps : List ℤ
  inFlightActions : ℕ
  lastActionAt : Option ℤ
  nowWeekday : ℕ
  nowDate : String

/-- What a check, or a policy, says of an action. -/
inductive Verdict where
  | allow
  | deny (check reason : String)
  deriving DecidableEq, Repr

def Verdict.isAllow : Verdict → Bool
  | allow => true
  | deny _ _ => false

/-! ## Signatures -/

/-- The signature is the role itself, or the role with a signer behind a colon. -/
def signatureBearsRole (sig role : String) : Bool :=
  sig == role ||
    (role.toList.isPrefixOf sig.toList &&
      match sig.toList.drop role.toList.length with
      | ':' :: _ :: _ => true
      | _ => false)

/-- How many different signatures bear the role. -/
def distinctRoleSignatures (signatures : List String) (role : String) : ℕ :=
  wrapU32 (signatures.filter fun s => signatureBearsRole s role).dedup.length

end SauronID.Dsl
