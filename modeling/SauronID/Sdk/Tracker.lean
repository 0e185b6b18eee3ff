import SauronID.Lib.Float64
import SauronID.Lib.SlidingWindow

/-!
# The budget trackers of the SDKs

A tracker holds what an agent has spent, when it made its recent calls, and the records that
the server has not been told of yet.
-/

namespace SauronID.Sdk

variable {F : Type}

/-- One spend that waits for the next flush. -/
structure PendingSpendRecord (F : Type) where
  amountUsd : F
  actionId : Option String
  timestamp : ℤ
  deriving DecidableEq

structure BudgetTracker (F : Type) where
  totalUsd : F
  /-- Oldest first: in seconds in Python, in milliseconds in TypeScript and in Go. -/
  callTimestamps : List ℤ
  pending : List (PendingSpendRecord F)

/-- A tracker that has seen nothing. -/
def BudgetTracker.empty [Float64 F] : BudgetTracker F := ⟨Float64.ofInt 0, [], []⟩

/-- The calls that are remembered at most. -/
def historyCap : ℕ := 1024

/-- `record` -/
def BudgetTracker.record [Float64 F] (t : BudgetTracker F) (amountUsd : F)
    (actionId : Option String) (now : ℤ) : BudgetTracker F where
  totalUsd := Float64.add t.totalUsd amountUsd
  callTimestamps := lastN historyCap (t.callTimestamps ++ [now])
  pending := t.pending ++ [⟨amountUsd, actionId, now⟩]

theorem BudgetTracker.callTimestamps_record [Float64 F] (t : BudgetTracker F) (amountUsd : F)
    (actionId : Option String) (now : ℤ) : (t.record amountUsd actionId now).callTimestamps =
      lastN historyCap (t.callTimestamps ++ [now]) := by
  simp only [BudgetTracker.record]

end SauronID.Sdk
