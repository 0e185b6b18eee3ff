import Mathlib.Algebra.BigOperators.Group.List.Basic
import Mathlib.Algebra.Order.BigOperators.Group.List
import SauronID.Usage.Record

/-!
# The usage ledger as a sum

A pseudonym is a key image in a ring of a tenant. What the ledger holds for it is the exact sum
of the rows that were added for it, as long as that sum is an `i64`: `ledgerSum_invariant`.
-/

namespace SauronID.Usage

open Conc Text SauronID.Action

variable {F : Type}

/-- Whose usage is counted. -/
structure Pseudonym where
  tenantId : String
  ringId : String
  keyImageHex : String
  deriving DecidableEq, Repr

/-- The pseudonym that a row of the log counts for. -/
def pseudonym (row : UsageLogRow F) : Pseudonym := ⟨row.tenantId, row.ringId, row.keyImageHex⟩

/-- The totals of a pseudonym. -/
def totalsOf (p : Pseudonym) (rows : List (UsageRow F)) : Option (UsageRow F) :=
  rows.find? fun r =>
    r.tenantId == p.tenantId && r.ringId == p.ringId && r.keyImageHex == p.keyImageHex

/-- The rows of a pseudonym, added up exactly. -/
def sumOf (count : UsageLogRow F → ℤ) (p : Pseudonym) (rows : List (UsageLogRow F)) : ℤ :=
  ((rows.filter fun row => pseudonym row = p).map count).sum

section Sums

variable {count : UsageLogRow F → ℤ} {p : Pseudonym}

@[simp] theorem sumOf_nil : sumOf count p [] = 0 := rfl

theorem sumOf_cons (row : UsageLogRow F) (rows : List (UsageLogRow F)) :
    sumOf count p (row :: rows) =
      (if pseudonym row = p then count row else 0) + sumOf count p rows := by
  by_cases h : pseudonym row = p <;> simp [sumOf, h]

theorem sumOf_append (rows rows' : List (UsageLogRow F)) :
    sumOf count p (rows ++ rows') = sumOf count p rows + sumOf count p rows' := by
  simp [sumOf]

theorem sumOf_nonneg {rows : List (UsageLogRow F)} (h : ∀ row ∈ rows, 0 ≤ count row) :
    0 ≤ sumOf count p rows := by
  refine List.sum_nonneg fun n hn => ?_
  obtain ⟨row, hrow, rfl⟩ := List.mem_map.1 hn
  exact h row (List.mem_filter.1 hrow).1

end Sums

/-- The ledger has the totals `m` and `n` of input and output tokens for the pseudonym. -/
def Holds (p : Pseudonym) (m n : ℤ) (rows : List (UsageRow F)) : Prop :=
  match totalsOf p rows with
  | none => m = 0 ∧ n = 0
  | some r => r.inputTokens = .int m ∧ r.outputTokens = .int n

instance [DecidableEq F] (p : Pseudonym) (m n : ℤ) (rows : List (UsageRow F)) :
    Decidable (Holds p m n rows) :=
  match h : totalsOf p rows with
  | none => decidable_of_iff (m = 0 ∧ n = 0) (by rw [Holds, h])
  | some r => decidable_of_iff (r.inputTokens = .int m ∧ r.outputTokens = .int n) (by rw [Holds, h])

variable [Float64 F] {m n : ℤ}

/-- Within the range of `i64` the sum of two cells is exact. -/
theorem IntCell.add_int (hlo : -2 ^ 63 ≤ m + n) (hhi : m + n < 2 ^ 63) :
    (IntCell.int m : IntCell F).add n = .int (m + n) :=
  if_pos ⟨hlo, hhi⟩

variable {p : Pseudonym} {rows : List (UsageRow F)} {r : UsageRow F}

omit [Float64 F] in
theorem totalsOf_eq_some (h : totalsOf p rows = some r) :
    (⟨r.tenantId, r.ringId, r.keyImageHex⟩ : Pseudonym) = p := by
  have hkey := List.find?_some h
  simp only [Bool.and_eq_true, beq_iff_eq] at hkey
  obtain ⟨⟨htenant, hring⟩, hki⟩ := hkey
  rw [htenant, hring, hki]

variable {row : UsageLogRow F}

omit [Float64 F] in
theorem isOf_iff :
    r.isOf row = true ↔ (⟨r.tenantId, r.ringId, r.keyImageHex⟩ : Pseudonym) = pseudonym row := by
  simp [UsageRow.isOf, pseudonym, and_assoc]

omit [Float64 F] in
theorem totalsOf_concat (p : Pseudonym) (rows : List (UsageRow F)) (r : UsageRow F) :
    totalsOf p (rows ++ [r]) = (totalsOf p rows).or
      (if (⟨r.tenantId, r.ringId, r.keyImageHex⟩ : Pseudonym) = p then some r else none) := by
  unfold totalsOf
  rw [List.find?_append, List.find?_singleton]
  congr 1
  obtain ⟨tenantId, ringId, keyImageHex⟩ := p
  simp [and_assoc]

/-- The rows of the pseudonym of a row change when it is added, and no others. -/
theorem totalsOf_map_plus (p : Pseudonym) (rows : List (UsageRow F)) (row : UsageLogRow F) :
    totalsOf p (rows.map fun r => if r.isOf row then r.plus row else r) =
      (totalsOf p rows).map fun r => if pseudonym row = p then r.plus row else r := by
  have hkey : ∀ r : UsageRow F, (if r.isOf row then r.plus row else r).tenantId = r.tenantId ∧
      (if r.isOf row then r.plus row else r).ringId = r.ringId ∧
      (if r.isOf row then r.plus row else r).keyImageHex = r.keyImageHex := by
    intro r
    split <;> exact ⟨rfl, rfl, rfl⟩
  have hmap : totalsOf p (rows.map fun r => if r.isOf row then r.plus row else r) =
      (totalsOf p rows).map fun r => if r.isOf row then r.plus row else r := by
    simp only [totalsOf, List.find?_map, Function.comp_def, (hkey _).1, (hkey _).2.1, (hkey _).2.2]
  rw [hmap]
  refine Option.map_congr fun r hr => if_congr ?_ rfl rfl
  rw [isOf_iff, totalsOf_eq_some hr, eq_comm]

/-- The upsert changes the totals of the pseudonym of the row, and no others. -/
theorem totalsOf_upsertUsage (p : Pseudonym) (rows : List (UsageRow F)) (row : UsageLogRow F) :
    totalsOf p (upsertUsage rows row) = if pseudonym row = p then
        some (((totalsOf p rows).map (·.plus row)).getD
          ⟨row.tenantId, row.ringId, row.keyImageHex, .int row.inputTokens, .int row.outputTokens,
            row.usd⟩) else totalsOf p rows := by
  unfold upsertUsage
  split
  · next hany =>
    rw [totalsOf_map_plus]
    split
    · next hp =>
      subst hp
      obtain ⟨r, hr, hof⟩ := List.any_eq_true.1 hany
      have hsome : (totalsOf (pseudonym row) rows).isSome = true :=
        List.find?_isSome.2 ⟨r, hr, hof⟩
      obtain ⟨r', hr'⟩ := Option.isSome_iff_exists.1 hsome
      rw [hr']
      rfl
    · exact Option.map_id_apply
  · next hany =>
    rw [totalsOf_concat, ← pseudonym]
    by_cases hp : pseudonym row = p
    · subst hp
      have hnone : totalsOf (pseudonym row) rows = none :=
        List.find?_eq_none.2 fun r hr hof => hany (List.any_eq_true.2 ⟨r, hr, hof⟩)
      rw [if_pos rfl, if_pos rfl, hnone]
      rfl
    · rw [if_neg hp, if_neg hp, Option.or_none]

/-- **The step.** The totals after a row is added, when they stay in the range of `i64`. -/
theorem Holds.upsert (h : Holds p m n rows) (hm : 0 ≤ m) (hn : 0 ≤ n) (hrow : Nonneg row)
    (hin : m + sumOf (·.inputTokens) p [row] < 2 ^ 63)
    (hout : n + sumOf (·.outputTokens) p [row] < 2 ^ 63) :
    Holds p (m + sumOf (·.inputTokens) p [row]) (n + sumOf (·.outputTokens) p [row])
      (upsertUsage rows row) := by
  obtain ⟨hrow₁, hrow₂⟩ := hrow
  simp only [sumOf_cons, sumOf_nil, add_zero] at hin hout ⊢
  unfold Holds at h ⊢
  rw [totalsOf_upsertUsage]
  by_cases hp : pseudonym row = p
  · simp only [hp, if_true] at hin hout ⊢
    cases ht : totalsOf p rows with
    | none =>
      rw [ht] at h
      obtain ⟨rfl, rfl⟩ := h
      simp
    | some r =>
      rw [ht] at h
      obtain ⟨h₁, h₂⟩ := h
      simp only [Option.map_some, Option.getD_some, UsageRow.plus, h₁, h₂]
      exact ⟨IntCell.add_int (by omega) hin, IntCell.add_int (by omega) hout⟩
  · simpa [hp] using h

/-! ## Runs -/

/-- The row that a statement has added to the ledger, with the request that added it. -/
def charge (e : LogEntry F) : Option (ℕ × UsageLogRow F) :=
  match e.label with
  | .write (.addUsage row) =>
    if (e.before.writeResult (.addUsage row)).isOk then some (e.thread, row) else none
  | _ => none

/-- What a run has added to the ledger, newest first. -/
def charged (log : RunLog F) : List (ℕ × UsageLogRow F) :=
  log.filterMap charge

theorem charged_cons (e : LogEntry F) (log : RunLog F) :
    charged (e :: log) = (charge e).toList ++ charged log := by
  cases h : charge e <;> simp [charged, h]

variable {i : ℕ} {s : World F}

theorem charged_cons_of_ok {n : ℕ} (h : s.writeResult (.addUsage row) = .ok n) (log : RunLog F) :
    charged (⟨i, .write (.addUsage row), s⟩ :: log) = (i, row) :: charged log := by
  simp [charged, charge, h, Except.isOk, Except.toBool]

theorem charged_cons_of_error {e : String} (h : s.writeResult (.addUsage row) = .error e)
    (log : RunLog F) : charged (⟨i, .write (.addUsage row), s⟩ :: log) = charged log := by
  simp [charged, charge, h, Except.isOk, Except.toBool]

theorem charged_cons_of_table {lbl : Label F} (h : lbl.table ≠ .usage)
    (log : RunLog F) : charged (⟨i, lbl, s⟩ :: log) = charged log := by
  refine List.filterMap_cons_none ?_
  unfold charge
  split
  · next hlbl =>
    subst hlbl
    exact absurd rfl h
  · rfl

/-- What has been recorded for a pseudonym, on top of `base`. -/
def recorded (count : UsageLogRow F → ℤ) (p : Pseudonym) (base : ℤ) (log : RunLog F) : ℤ :=
  base + sumOf count p ((charged log).map Prod.snd)

/-- What has been recorded is an `i64`, for both kinds of tokens. -/
def InRange (p : Pseudonym) (m n : ℤ) (log : RunLog F) : Prop :=
  recorded (·.inputTokens) p m log < 2 ^ 63 ∧ recorded (·.outputTokens) p n log < 2 ^ 63

/-- The ledger is the sum of what was added, from the totals `m` and `n`. -/
def LedgerSum (p : Pseudonym) (m n : ℤ) (s : World F) (log : RunLog F) : Prop :=
  (∀ x ∈ charged log, Nonneg x.2) ∧ (InRange p m n log →
    Holds p (recorded (·.inputTokens) p m log) (recorded (·.outputTokens) p n log) s.db.usage)

theorem ledgerSum_nil (h : Holds p m n s.db.usage) : LedgerSum p m n s [] :=
  ⟨List.forall_mem_nil _, fun _ => by simpa [recorded, charged] using h⟩

variable {count : UsageLogRow F → ℤ} {base : ℤ} {log : RunLog F}

theorem recorded_nonneg (hbase : 0 ≤ base) (h : ∀ x ∈ charged log, 0 ≤ count x.2) :
    0 ≤ recorded count p base log := by
  refine add_nonneg hbase (sumOf_nonneg fun row hrow => ?_)
  obtain ⟨x, hx, rfl⟩ := List.mem_map.1 hrow
  exact h x hx

/-- What has been recorded only grows. -/
theorem recorded_mono {older : RunLog F} (hsuffix : older <:+ log)
    (h : ∀ x ∈ charged log, 0 ≤ count x.2) :
    recorded count p base older ≤ recorded count p base log := by
  obtain ⟨newer, rfl⟩ := hsuffix
  simp only [charged, List.filterMap_append] at h
  have hnonneg : 0 ≤ sumOf count p ((charged newer).map Prod.snd) := by
    refine sumOf_nonneg fun row hrow => ?_
    obtain ⟨x, hx, rfl⟩ := List.mem_map.1 hrow
    exact h x (List.mem_append_left _ hx)
  simp only [recorded, charged, List.filterMap_append, List.map_append, sumOf_append] at hnonneg ⊢
  omega

theorem recorded_cons {n : ℕ} (h : s.writeResult (.addUsage row) = .ok n)
    (log : RunLog F) : recorded count p base (⟨i, .write (.addUsage row), s⟩ :: log) =
      recorded count p base log + sumOf count p [row] := by
  simp only [recorded, charged_cons_of_ok h, List.map_cons, sumOf_cons, sumOf_nil]
  omega

theorem ledgerSum_invariant {may : ℕ → May F}
    (hmay : ∀ i t row s, may i t (.addUsage row) s → Nonneg row) (p : Pseudonym)
    (hm : 0 ≤ m) (hn : 0 ≤ n) (C : LogEntry F → RunLog F → Prop) :
    TraceInvariant (fun i => srvRules (may i)) C (LedgerSum p m n) where
  tick d h := h
  step := by
    rintro s log i lbl s' ⟨hrows, hledger⟩ - heff hstep
    by_cases htable : lbl.table = .usage
    swap
    · have hsame := (Label.Effect.sameOff heff).usage htable
      simpa only [LedgerSum, InRange, recorded, charged_cons_of_table htable, hsame] using
        And.intro hrows hledger
    obtain ⟨w, rfl, ⟨e, herr, hdb⟩ | ⟨db, k, -, happly, hok, hdb⟩⟩ :=
      heff.written (by simp [htable])
    · cases w with
      | addUsage row =>
        simpa only [LedgerSum, InRange, recorded, charged_cons_of_error herr, hdb] using
          And.intro hrows hledger
      | _ => cases htable
    cases w with
    | addUsage row =>
      have hrow : Nonneg row := hmay _ _ _ _ hstep
      have hall : ∀ x ∈ charged (⟨i, .write (.addUsage row), s⟩ :: log), Nonneg x.2 := by
        rw [charged_cons_of_ok hok]
        exact List.forall_mem_cons.2 ⟨hrow, hrows⟩
      refine ⟨hall, fun hrange => ?_⟩
      have hdb' : s'.db.usage = upsertUsage s.db.usage row := by
        rw [hdb]
        simp only [Write.apply] at happly
        split at happly <;> cases happly
        rfl
      simp only [InRange, recorded_cons hok] at hrange ⊢
      -- the sums were in range before the row, which only adds to them
      have hin : 0 ≤ sumOf (·.inputTokens) p [row] := sumOf_nonneg (by simpa using hrow.1)
      have hout : 0 ≤ sumOf (·.outputTokens) p [row] := sumOf_nonneg (by simpa using hrow.2)
      have hheld := hledger ⟨by omega, by omega⟩
      rw [hdb']
      exact hheld.upsert (recorded_nonneg hm fun x hx => (hrows x hx).1)
        (recorded_nonneg hn fun x hx => (hrows x hx).2) hrow hrange.1 hrange.2
    | _ => cases htable

end SauronID.Usage
