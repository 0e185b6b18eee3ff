import SauronID.Action.Anon
import SauronID.Model.Rules

/-!
# Recording usage

The usage of a receipt's pseudonym is reported by its holder: the report is signed against the
ring of the receipt, its nonce is spent in the table of the action nonces, and the counts are
appended to `usage_log` and added to `usage_ledger`. These are three statements, each of which
commits on its own.
-/

namespace SauronID.Usage

open Conc Text SauronID.Action

variable {F : Type} [Float64 F] (env : Env F)

/-! ## Prices -/

/-- The prices of `SAURON_MODEL_PRICES`; none when it is unset or does not parse. -/
def loadPriceMap : List (String × ModelPrice F) :=
  ((env.processVar "SAURON_MODEL_PRICES").bind env.parsePrices).getD []

def usdFromPrices (prices : List (String × ModelPrice F)) (modelId : String)
    (inTokens outTokens : ℤ) : F :=
  match prices.lookup modelId with
  | some p =>
    Float64.add (Float64.mul (Float64.div (Float64.ofInt inTokens) (Float64.ofInt 1000)) p.inPer1k)
      (Float64.mul (Float64.div (Float64.ofInt outTokens) (Float64.ofInt 1000)) p.outPer1k)
  | none => Float64.ofInt 0

def deriveUsd (modelId : String) (inTokens outTokens : ℤ) : F :=
  usdFromPrices (loadPriceMap env) modelId inTokens outTokens

/-! ## The ledger -/

/-- The row of a receipt. -/
def receiptRow (receiptId : String) (db : Db F) : Option ReceiptRow :=
  db.receipts.find? fun r => r.receiptId == receiptId

/-- The ring of an anonymous receipt. -/
def anonRing (r : ReceiptRow) : Except AppError String :=
  match r.ringId.filter (!·.isEmpty) with
  | some ringId => .ok ringId
  | none => .error (.ofStatus 400
      "usage recording requires an anon-ring receipt (ring_id missing)")

/-- What `record_usage` returns. -/
structure Recorded (F : Type) where
  ringId : String
  keyImageHex : String
  totals : ℤ × ℤ × F

/-- `record_usage` -/
def recordUsage (receiptId modelId : String) (inTokens outTokens now : ℤ) :
    Srv F AppError (Recorded F) := do
  .rejectIf (inTokens < 0 ∨ outTokens < 0) (.ofStatus 400 "token counts must be >= 0")
  let receipt ← Srv.require .other (receiptRow receiptId) (.ofStatus 404 "receipt not found")
  let ringId ← .ofExcept (anonRing receipt)
  let rand ← Srv.random env.randomHex32
  let row : UsageLogRow F :=
    { logId := "ul_" ++ rand, tenantId := receipt.tenantId, ringId := ringId,
      keyImageHex := receipt.ringKeyImageHex, modelId := modelId, inputTokens := inTokens,
      outputTokens := outTokens, usd := deriveUsd env modelId inTokens outTokens,
      recordedAt := now }
  let _ ← (Srv.execute (.insertUsageLog row)).mapErr (AppError.ofStatus 500)
  let _ ← (Srv.execute (.addUsage row)).mapErr (AppError.ofStatus 500)
  let totals ← (getUsage receipt.tenantId ringId receipt.ringKeyImageHex).mapErr
    (AppError.ofStatus 500)
  return ⟨ringId, receipt.ringKeyImageHex, totals⟩

/-! ## Reports -/

structure RecordUsageRequest where
  receiptId : String
  modelId : String
  inputTokens : ℤ
  outputTokens : ℤ
  nonce : String
  ringSignature : RingSignature

/-- The text that is signed. -/
def canonicalUsageReportJson (receiptId modelId : String) (inputTokens outputTokens : ℤ)
    (nonce : String) : String :=
  "\x7b\"receipt_id\":" ++ env.jsonStr receiptId ++ ",\"model_id\":" ++ env.jsonStr modelId ++
    ",\"input_tokens\":" ++ toString inputTokens ++ ",\"output_tokens\":" ++
    toString outputTokens ++ ",\"nonce\":" ++ env.jsonStr nonce ++ "\x7d"

/-- The row under which the nonce of a report is spent, for 30 days. -/
def usageNonce (req : RecordUsageRequest) (now : ℤ) : NonceRow where
  nonce := "usage|" ++ hexEncode req.ringSignature.keyImage ++ "|" ++ req.nonce
  agentId := ""
  actionHash := req.receiptId
  expiresAt := now + 30 * 24 * 3600
  usedAt := now

/-- `verify_usage_report` -/
def verifyUsageReport (req : RecordUsageRequest) (now : ℤ) : Srv F AppError Unit := do
  .rejectIf (nonceWellFormed req.nonce = false) (.ofStatus 400 "nonce must be 16..128 chars")
  let receipt ← Srv.require .other (receiptRow req.receiptId) (.ofStatus 404 "receipt not found")
  let ringId ← .ofExcept (anonRing receipt)
  -- the pseudonym of the receipt, not some member of the ring
  .rejectIf (hexEncode req.ringSignature.keyImage ≠ receipt.ringKeyImageHex)
    (.ofStatus 401 "usage report signed by a different ring pseudonym than the receipt")
  let members ← (listMemberPoints env receipt.tenantId ringId).mapErr (AppError.ofStatus 500)
  .rejectIf members.isEmpty (.ofStatus 401 "ring has no members")
  .rejectIf (env.ringVerify (utf8 (canonicalUsageReportJson env req.receiptId req.modelId
      req.inputTokens req.outputTokens req.nonce)) members req.ringSignature = false)
    (.ofStatus 401 "usage report signature verification failed")
  let _ ← (Srv.execute (.insertNonce (usageNonce req now))).mapErr fun e =>
    if contains e "UNIQUE" then .ofStatus 401 "usage report replay" else .ofStatus 500 e

/-- `POST /agent/usage` -/
def recordUsageHandler (req : RecordUsageRequest) : Srv F AppError (Recorded F) := do
  .rejectIf (env.anonRings = false)
    (.ofStatus 503 "anonymous rings are disabled (set SAURON_ANON_RINGS=1)")
  let now ← Srv.nowSecs
  verifyUsageReport env req now
  recordUsage env req.receiptId req.modelId req.inputTokens req.outputTokens now

/-! ## Evaluation -/

/-- A ring whose rule allows to read and caps the input at 10 tokens. -/
def usageEnv : Env ℚ :=
  { sampleEnv ℚ with
    parseRingRule := fun _ => .ok ⟨["read"], [], ⟨none, some 10, none⟩⟩ }

/-- The ring has a member, and the pseudonym `00` a receipt; it is second 5. -/
def usageWorld : World ℚ :=
  World.steady { Db.empty ℚ with
    rings := [⟨"default", "ring", "", 1⟩]
    ringMembers := [⟨"default", "ring", String.ofList (List.replicate 64 '0')⟩]
    receipts := [⟨⟨"default", "ar_1", "", "", "00", "", "", "", 5, "verified", "", 0, "", ""⟩,
      some "ring", none⟩] } 5000

/-! ## Specifications -/

variable {env} {may : May F} {t : History F}

/-- A row of counts that may be recorded. -/
def Nonneg (row : UsageLogRow F) : Prop := 0 ≤ row.inputTokens ∧ 0 ≤ row.outputTokens

/-- The counts are appended to the log and added to the ledger by two statements that follow
each other. -/
theorem recordUsage_yields {receiptId modelId : String} {inTokens outTokens now : ℤ}
    (hlog : ∀ row s s₁ s₂, Nonneg row →
      may ((.draw, s₂) :: (.select .other, s₁) :: t) (.insertUsageLog row) s)
    (hadd : ∀ row s s₁ s₂ s₃ n, Nonneg row → s₃.writeResult (.insertUsageLog row) = .ok n →
      may ((.write (.insertUsageLog row), s₃) :: (.draw, s₂) :: (.select .other, s₁) :: t)
        (.addUsage row) s) :
    (recordUsage env receiptId modelId inTokens outTokens now).Yields (srvRules may) t
      fun _ _ => True := by
  refine .rejectIf fun htokens => Srv.yields_require fun s₁ receipt _ _ => ?_
  refine .ofExcept fun ringId _ => ?_
  have hnonneg : 0 ≤ inTokens ∧ 0 ≤ outTokens := by omega
  refine Srv.yields_random fun s₂ => ?_
  refine .bind (.mapErr (Srv.yields_execute fun s => ⟨hlog _ _ _ _ hnonneg, fun n hn => ?_⟩))
  refine .bind (.mapErr (Srv.yields_execute fun s' =>
    ⟨hadd _ _ _ _ _ _ hnonneg hn, fun _ _ => ?_⟩))
  exact .bind (.mapErr (Srv.yields_scalarOr fun _ _ _ => Prog.yields_pure trivial))

theorem listMemberPoints_yields {tenant ringId : String} :
    (listMemberPoints env tenant ringId).Yields (srvRules may) t fun t' _ =>
      ∃ s, t' = (.select .other, s) :: t := by
  refine .bind (.mapErr (Srv.yields_select fun s _ => ?_))
  exact Prog.follows_done.2 fun _ _ => ⟨s, rfl⟩

/-- The pseudonym of the report is that of its receipt. -/
def Reported (req : RecordUsageRequest) (s : World F) : Prop :=
  ∃ r, receiptRow req.receiptId s.db = some r ∧
    hexEncode req.ringSignature.keyImage = r.ringKeyImageHex

/-- A report that is accepted has spent its nonce. -/
theorem verifyUsageReport_yields {req : RecordUsageRequest} {now : ℤ}
    (hnonce : ∀ s s₁ s₂, Reported req s₁ →
      may ((.select .other, s₂) :: (.select .other, s₁) :: t) (.insertNonce (usageNonce req now))
        s) : (verifyUsageReport env req now).Yields (srvRules may) t fun t' _ =>
      ∃ s₁ s₂ s₃ n, t' = (.write (.insertNonce (usageNonce req now)), s₃) ::
          (.select .other, s₂) :: (.select .other, s₁) :: t ∧
        s₃.writeResult (.insertNonce (usageNonce req now)) = .ok n := by
  refine .rejectIf fun _ => Srv.yields_require fun s₁ receipt _ hreceipt => ?_
  refine .ofExcept fun ringId _ => .rejectIf fun hki => ?_
  refine listMemberPoints_yields.mapErr.andThen ?_
  rintro _ members - ⟨s₂, rfl⟩
  refine .rejectIf fun _ => .rejectIf fun _ => ?_
  refine .bind (.mapErr (Srv.yields_execute fun s₃ =>
    ⟨hnonce _ _ _ ⟨receipt, hreceipt, not_not.1 hki⟩, fun n hn => ?_⟩))
  exact Prog.yields_pure ⟨s₁, s₂, s₃, n, rfl, hn⟩

end SauronID.Usage
