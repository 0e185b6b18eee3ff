import SauronID.Action.Validate

/-!
# The anonymous ring path

An agent proves membership in a ring, which is a rule, without naming itself.
`validateAnonAction` evaluates the rule of every named ring, verifies one signature
per ring over the same envelope, enforces the budget of the primary ring, spends
the nonce under the key image of the signature and writes a receipt without an
agent. `submitAnonAction` is the endpoint: it reads the clock once and passes the
value on.
-/

namespace SauronID.Action

open Conc Text

variable {F : Type} [Float64 F] (env : Env F)

/-! ## Ring rules -/

inductive RuleDecision where
  | allow
  | deny (reason : String)
  deriving DecidableEq, Repr

/-- Evaluate an action and a configuration digest against a ring rule. -/
def evaluateRule (rule : RingRule F) (action configDigest : String) : RuleDecision :=
  let actionL := asciiLower (trim action)
  if actionL.isEmpty then .deny "empty action"
  else if !(rule.allowedActions.any fun a => asciiLower (trim a) == actionL) then
    .deny ("action '" ++ action ++ "' not permitted by ring rule")
  -- config drift is checked only when the ring pins a set
  else if !rule.allowedConfigDigests.isEmpty &&
      !(rule.allowedConfigDigests.any fun d => eqIgnoreAsciiCase (trim d) (trim configDigest)) then
    .deny "config_digest not in ring allowed-digest set (drift)"
  else .allow

/-- `get_ring`: a failed query reads as a missing ring, a rule that does not parse is
an error. -/
def getRing (tenant ringId : String) : Srv F String (Option (RingRule F × ℤ)) := do
  let row ← (Srv.select .other fun db =>
    db.rings.find? fun r => r.tenantId == tenant && r.ringId == ringId).attempt
  match row with
  | .ok (some r) =>
    match env.parseRingRule r.ruleJson with
    | .ok rule => pure (some (rule, r.version))
    | .error e => .fail ("rule deserialize: " ++ e)
  | _ => pure none

/-- The member keys of a ring in their order, or the error of the first that is not a
point. -/
def memberPoints : List String → Except String (List Bytes)
  | [] => .ok []
  | hex :: rest =>
    match hexDecode (trim hex) with
    | none => .error ("point hex: " ++ hexError (trim hex))
    | some bytes =>
      if bytes.length ≠ 32 then .error "point must be 32 bytes"
      else if !env.validPoint bytes then .error "not a valid ristretto point"
      else (memberPoints rest).map (bytes :: ·)

def listMemberPoints (tenant ringId : String) : Srv F String (List Bytes) := do
  let rows ← (Srv.select .other fun db =>
    orderBy id ((db.ringMembers.filter fun r => r.tenantId == tenant && r.ringId == ringId).map
      RingMemberRow.memberPointHex)).mapErr fun e => "query members: " ++ e
  .ofExcept (memberPoints env rows)

/-! ## Usage budgets -/

/-- The columns of a row of totals, if both counts decode. -/
def usageTotals (r : UsageRow F) : Option (ℤ × ℤ × F) := do
  let input ← r.inputTokens.toI64
  let output ← r.outputTokens.toI64
  return (input, output, r.usd)

/-- Totals of one ring pseudonym; a failed query reads as no usage, and so does a row that
does not decode. -/
def getUsage (tenant ringId keyImageHex : String) : Srv F String (ℤ × ℤ × F) :=
  Srv.scalarOr (.usage tenant ringId keyImageHex)
    (fun db => (db.usage.find? fun r =>
        r.tenantId == tenant && r.ringId == ringId && r.keyImageHex == keyImageHex).bind
      usageTotals)
    (0, 0, Float64.ofInt 0)

/-- Why the totals exceed a budget the ring caps, if they do. -/
def budgetExceeded (totals : ℤ × ℤ × F) (budgets : RingBudgets F) : Option String :=
  let usd : Option String := budgets.usd.bind fun cap =>
    if Float64.lt cap totals.2.2 then
      some ("usd " ++ Float64.fixed 4 totals.2.2 ++ " > cap " ++ Float64.fixed 4 cap)
    else none
  let input : Option String := budgets.inputTokens.bind fun cap =>
    if totals.1 > cap then
      some ("input_tokens " ++ toString totals.1 ++ " > cap " ++ toString cap)
    else none
  let output : Option String := budgets.outputTokens.bind fun cap =>
    if totals.2.1 > cap then
      some ("output_tokens " ++ toString totals.2.1 ++ " > cap " ++ toString cap)
    else none
  (usd <|> input) <|> output

/-! ## The action -/

/-- The checks on the list of additional rings. -/
def checkAlsoRings (primary : String) : (before rest : List String) → Except AppError Unit
  | _, [] => .ok ()
  | before, r :: rest =>
    if (trim r).isEmpty then .error (.ofStatus 400 "empty also_ring_ids entry")
    else if r = primary ∨ r ∈ before then
      .error (.ofStatus 400 ("duplicate ring '" ++ r ++ "' in also_ring_ids"))
    else checkAlsoRings primary (before ++ [r]) rest

/-- The checks before anything is read. -/
def checkAnonEnvelope (proof : AnonActionProof) (now : ℤ) : Except AppError Unit := do
  let e := proof.envelope
  if (trim e.ringId).isEmpty then throw (.ofStatus 400 "ring_id is required")
  if nonceWellFormed e.nonce = false then throw (.ofStatus 400 "nonce must be 16..128 chars")
  if e.expiresAt < now then throw (.ofStatus 401 "anon action envelope expired")
  if proof.alsoRingSignatures.length ≠ e.alsoRingIds.length then
    throw (.ofStatus 400 "also_ring_signatures must have one signature per also_ring_ids entry")
  checkAlsoRings e.ringId [] e.alsoRingIds

/-- The error texts of the checks of one ring: the primary ring and the additional
rings word them differently. -/
structure RingErrors where
  missing : String
  denied : String → String
  empty : String
  badSignature : String

/-- One named ring: its rule admits the action and a member signed the envelope. The
result is the rule and its version. -/
def admitByRing (e : AnonActionEnvelope) (ringId : String) (sig : RingSignature)
    (texts : RingErrors) : Srv F AppError (RingRule F × ℤ) := do
  let found ← (getRing env e.tenantId ringId).mapErr (AppError.ofStatus 500)
  let rule ← .okOr (.ofStatus 404 texts.missing) found
  match evaluateRule rule.1 e.action e.configDigest with
  | .deny why => .fail (.ofStatus 403 (texts.denied why))
  | .allow =>
    let members ← (listMemberPoints env e.tenantId ringId).mapErr (AppError.ofStatus 500)
    .rejectIf (members.isEmpty) (.ofStatus 401 texts.empty)
    .rejectIf (env.ringVerify (canonicalAnonEnvelopeBytes env e) members sig = false)
      (.ofStatus 401 texts.badSignature)
    return rule

def primaryErrors : RingErrors where
  missing := "ring not found"
  denied why := "ring rule denied: " ++ why
  empty := "ring has no members"
  badSignature := "anon ring signature verification failed"

def alsoErrors (ringId : String) : RingErrors where
  missing := "ring '" ++ ringId ++ "' not found"
  denied why := "ring '" ++ ringId ++ "' rule denied: " ++ why
  empty := "ring '" ++ ringId ++ "' has no members"
  badSignature := "ring '" ++ ringId ++ "' signature verification failed"

def ringVersion (ringId : String) (version : ℤ) : String :=
  "ring:" ++ ringId ++ ":v" ++ toString version

/-- The additional rings in turn; the result is their versions. -/
def admitByAlsoRings (e : AnonActionEnvelope) :
    List (String × RingSignature) → Srv F AppError (List String)
  | [] => pure []
  | (ringId, sig) :: rest => do
    let rule ← admitByRing env e ringId sig (alsoErrors ringId)
    let versions ← admitByAlsoRings e rest
    return ringVersion ringId rule.2 :: versions

/-- The receipt of an anonymous action, signed. -/
def buildAnonReceipt (e : AnonActionEnvelope) (keyImageHex receiptId policyVersion : String)
    (now seq : ℤ) (prevHash : String) : ActionReceipt :=
  let unsigned : ActionReceipt :=
    { tenantId := e.tenantId, receiptId := receiptId, actionHash := anonActionHash env e,
      agentId := "", ringKeyImageHex := keyImageHex, policyVersion := policyVersion,
      ajwtJti := "", popJkt := "", timestamp := now, status := "verified", signature := "",
      seq := seq, prevHash := prevHash, ownerMandateHash := "" }
  { unsigned with signature := signReceipt env unsigned }

/-- The key the nonce is spent under: the key image of the signature and the nonce. -/
def anonNonceKey (proof : AnonActionProof) : String :=
  hexEncode proof.ringSignature.keyImage ++ "|" ++ proof.envelope.nonce

/-- `validate_anon_action` -/
def validateAnonAction (proof : AnonActionProof) (now : ℤ) : Srv F AppError ActionReceipt := do
  let e := proof.envelope
  .ofExcept (checkAnonEnvelope proof now)
  let keyImageHex := hexEncode proof.ringSignature.keyImage
  let rule ← admitByRing env e e.ringId proof.ringSignature primaryErrors
  let also ← admitByAlsoRings env e (e.alsoRingIds.zip proof.alsoRingSignatures)
  let totals ← (getUsage e.tenantId e.ringId keyImageHex).mapErr (AppError.ofStatus 500)
  match budgetExceeded totals rule.1.budgets with
  | some why => .fail (.ofStatus 402 ("ring budget exceeded: " ++ why))
  | none =>
    spendNonce ⟨anonNonceKey proof, "", anonActionHash env e, e.expiresAt, now⟩ now
      "anon action nonce replay"
    let position ← (nextChainPosition env e.tenantId).mapErr (AppError.ofStatus 500)
    let rand ← Srv.random env.randomHex32
    let receipt := buildAnonReceipt env e keyImageHex ("ar_" ++ rand)
      ("+".intercalate (ringVersion e.ringId rule.2 :: also)) now position.1 position.2
    let _ ← (Srv.execute (.upsertReceipt ⟨receipt, some e.ringId, some e.configDigest⟩
      true)).mapErr (AppError.ofStatus 500)
    return receipt

/-- `POST /agent/action/anon` -/
def submitAnonAction (tenant : String) (proof : AnonActionProof) :
    Srv F AppError ActionReceipt := do
  .rejectIf (env.anonRings = false)
    (.ofStatus 503 "anonymous rings are disabled (set SAURON_ANON_RINGS=1)")
  .rejectIf (proof.envelope.tenantId ≠ tenant)
    (.ofStatus 403 ("envelope tenant '" ++ proof.envelope.tenantId ++
      "' does not match the request tenant '" ++ tenant ++
      "' — send x-sauron-tenant-id matching the signed envelope"))
  let now ← Srv.nowSecs
  validateAnonAction env proof now

end SauronID.Action
