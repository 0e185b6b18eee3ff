import SauronID.Action.Canonical

/-!
# The receipt chain

Receipts of a tenant are linked by `seq` and `prev_hash`. `nextChainPosition` reads
where the next receipt goes; the caller inserts the receipt in a later statement.
`verifyReceiptChain` walks the stored chain.
-/

namespace SauronID.Action

open Conc

variable {F : Type} (env : Env F)

/-- `load_receipt`: the receipt stored under an id. -/
def findReceipt (db : Db F) (receiptId : String) : Option ActionReceipt :=
  (db.receipts.find? fun r => r.receiptId == receiptId).map ReceiptRow.toActionReceipt

def loadReceipt (receiptId : String) : Srv F String (Option ActionReceipt) :=
  Srv.select (.loadReceipt receiptId) fun db => findReceipt db receiptId

/-- The rows of a tenant. -/
def tenantReceipts (db : Db F) (tenant : String) : List ReceiptRow :=
  db.receipts.filter fun r => r.tenantId == tenant

/-- `SELECT seq, receipt_id … WHERE tenant_id = ? ORDER BY seq DESC LIMIT 1` -/
def chainHead (tenant : String) (db : Db F) (tie : ℕ) : Option (ℤ × String) :=
  (pickMax (fun r : ReceiptRow => r.seq) tie (tenantReceipts db tenant)).map fun r =>
    (r.seq, r.receiptId)

/-- Where the next receipt of the tenant goes: its `seq` and `prev_hash`. -/
def nextChainPosition (tenant : String) : Srv F String (ℤ × String) := do
  let head ← Srv.selectTop (.chainHead tenant) (chainHead tenant)
  match head with
  | none => pure (1, "")
  | some (prevSeq, prevReceiptId) =>
    -- the chain starts after the legacy rows, which have `seq = 0`
    if prevSeq = 0 then pure (1, "")
    else
      let prev ← loadReceipt prevReceiptId
      match prev with
      | none => .fail "chain head receipt vanished between read and link"
      | some receipt => pure (prevSeq + 1, receiptChainHash env receipt)

/-- The ids of the chained receipts of a tenant, in chain order. -/
def chainedIds (tenant : String) (db : Db F) : List String :=
  (orderBy (fun r : ReceiptRow => r.seq)
    ((tenantReceipts db tenant).filter fun r => decide (0 < r.seq))).map fun r => r.receiptId

/-- The walk of `verify_receipt_chain` over the remaining ids. -/
def verifyChainFrom (tenant : String) :
    List String → (expectedSeq : ℤ) → (expectedPrev : String) → (checked : ℤ) → Srv F String ℤ
  | [], _, _, checked => pure checked
  | id :: ids, expectedSeq, expectedPrev, checked => do
    let loaded ← loadReceipt id
    match loaded with
    | none => .fail ("receipt " ++ id ++ " listed but not loadable")
    | some receipt =>
      if receipt.seq ≠ expectedSeq then
        .fail ("receipt chain break for tenant " ++ tenant ++ ": expected seq " ++
          toString expectedSeq ++ ", found " ++ toString receipt.seq ++ " (" ++
          receipt.receiptId ++ ")")
      else if receipt.prevHash ≠ expectedPrev then
        .fail ("receipt chain break for tenant " ++ tenant ++ " at seq " ++
          toString receipt.seq ++ ": prev_hash does not match the previous receipt")
      else
        verifyChainFrom tenant ids (expectedSeq + 1) (receiptChainHash env receipt) (checked + 1)

/-- Walk a tenant's receipt chain and return how many chained receipts verified. -/
def verifyReceiptChain (tenant : String) : Srv F String ℤ := do
  let ids ← Srv.select .other (chainedIds tenant)
  verifyChainFrom env tenant ids 1 "" 0

end SauronID.Action
