import SauronID.Lib.Chain
import SauronID.Action.NonceUse

/-!
# The receipt chain under concurrency

A call reads the head of its tenant's chain and inserts the receipt that follows it
some statements later. `chain_intact` shows that the chain stays dense, linked and
verifiable in every interleaving in which no other receipt of the tenant is inserted
between the two; `chain_forks` is the interleaving of two calls in which one is.
-/

namespace SauronID.Action

open Conc

variable {F : Type} (env : Env F)

/-! ## The chain of a table -/

/-- The chained receipts of a tenant, in chain order. -/
def chainOf (tenant : String) (rows : List ReceiptRow) : List ReceiptRow :=
  orderBy (fun r => r.seq) ((rows.filter fun r => r.tenantId == tenant).filter fun r =>
    decide (0 < r.seq))

/-- A tenant's receipts form a chain from the first position, after legacy rows that are
not numbered. -/
structure ChainOk (tenant : String) (rows : List ReceiptRow) : Prop where
  nonneg : ∀ r ∈ rows, r.tenantId = tenant → 0 ≤ r.seq
  linked : LinkedFrom (fun r : ReceiptRow => r.seq) (fun r => r.prevHash)
    (fun r => receiptChainHash env r.toActionReceipt) 1 "" (chainOf tenant rows)

/-- Where the tenant's next receipt belongs. -/
def chainPosition (tenant : String) (rows : List ReceiptRow) : ℤ × String :=
  chainEnd (fun r : ReceiptRow => r.seq) (fun r => receiptChainHash env r.toActionReceipt) 1 ""
    (chainOf tenant rows)

variable {env} {tenant : String} {rows : List ReceiptRow} {r : ReceiptRow}

theorem mem_chainOf : r ∈ chainOf tenant rows ↔ r ∈ rows ∧ r.tenantId = tenant ∧ 0 < r.seq := by
  simp [chainOf, and_comm]

/-- A tenant whose receipts are not numbered has its first position free. -/
theorem chainPosition_of_unnumbered (h : ∀ r ∈ rows, r.tenantId = tenant → r.seq ≤ 0) :
    chainPosition env tenant rows = (1, "") := by
  have hnil : chainOf tenant rows = [] := by
    refine List.eq_nil_iff_forall_not_mem.2 fun r hr => ?_
    obtain ⟨hmem, ht, hpos⟩ := mem_chainOf.1 hr
    exact absurd (h r hmem ht) (not_le.2 hpos)
  rw [chainPosition, hnil]
  rfl

/-- The position after a numbered receipt that no other exceeds. -/
theorem ChainOk.position_of_max (h : ChainOk env tenant rows) (hr : r ∈ rows)
    (ht : r.tenantId = tenant) (hpos : 0 < r.seq)
    (hmax : ∀ x ∈ rows, x.tenantId = tenant → x.seq ≤ r.seq) :
    chainPosition env tenant rows = (r.seq + 1, receiptChainHash env r.toActionReceipt) :=
  h.linked.end_eq (mem_chainOf.2 ⟨hr, ht, hpos⟩) fun x hx =>
    hmax x (mem_chainOf.1 hx).1 (mem_chainOf.1 hx).2.1

variable {row : ReceiptRow}

theorem chainOf_concat_of_ne (ht : row.tenantId ≠ tenant) :
    chainOf tenant (rows ++ [row]) = chainOf tenant rows := by
  simp [chainOf, ht]

/-- Another tenant's receipt does not touch the chain. -/
theorem ChainOk.concat_of_ne (h : ChainOk env tenant rows)
    (ht : row.tenantId ≠ tenant) : ChainOk env tenant (rows ++ [row]) where
  nonneg r hr hrt := by
    rcases List.mem_append.1 hr with hr | hr
    · exact h.nonneg r hr hrt
    · rw [List.mem_singleton.1 hr] at hrt
      exact absurd hrt ht
  linked := by
    rw [chainOf_concat_of_ne ht]
    exact h.linked

/-- A receipt at the free position extends the chain. -/
theorem ChainOk.concat (h : ChainOk env tenant rows)
    (ht : row.tenantId = tenant) (hpos : (row.seq, row.prevHash) = chainPosition env tenant rows) :
    ChainOk env tenant (rows ++ [row]) := by
  have hseq : row.seq = (chainPosition env tenant rows).1 := congrArg Prod.fst hpos
  have hone : 0 < row.seq := lt_of_lt_of_le Int.one_pos (hseq ▸ h.linked.le_end)
  constructor
  case nonneg =>
    intro r hr hrt
    rcases List.mem_append.1 hr with hr | hr
    · exact h.nonneg r hr hrt
    · rw [List.mem_singleton.1 hr]
      exact hone.le
  case linked =>
    have hlast : chainOf tenant (rows ++ [row]) = chainOf tenant rows ++ [row] := by
      have hbelow : ∀ x ∈ (rows.filter fun r => r.tenantId == tenant).filter
          (fun r => decide (0 < r.seq)), x.seq ≤ row.seq := by
        intro x hx
        rw [hseq]
        exact (h.linked.seq_lt_end (mem_orderBy.2 hx)).le
      simpa [chainOf, ht, hone] using orderBy_concat hbelow
    rw [hlast]
    exact h.linked.concat hpos

/-! ## What a call knows of the chain -/

/-- What a call has read still says where the next receipt belongs. -/
def AtEnd (env : Env F) (tenant : String) (rows : List ReceiptRow) : ChainPhase → Prop
  | .head none => chainPosition env tenant rows = (1, "")
  | .head (some (q, id)) =>
      if q = 0 then chainPosition env tenant rows = (1, "")
      else ∃ r ∈ rows, r.receiptId = id ∧
        chainPosition env tenant rows = (q + 1, receiptChainHash env r.toActionReceipt)
  | .placed seq prev => chainPosition env tenant rows = (seq, prev)
  | .named seq prev _ => chainPosition env tenant rows = (seq, prev)
  | .idle => True
  | .stored => True

variable {db : Db F}

/-- The head read from a valid chain says where the next receipt belongs. -/
theorem ChainOk.atEnd_head (h : ChainOk env tenant db.receipts) (tie : ℕ) :
    AtEnd env tenant db.receipts (.head (chainHead tenant db tie)) := by
  unfold chainHead tenantReceipts
  cases hmax : pickMax (fun r : ReceiptRow => r.seq) tie
      (db.receipts.filter fun r => r.tenantId == tenant) with
  | none =>
    have hnil := pickMax_eq_none.1 hmax
    refine chainPosition_of_unnumbered fun r hr ht => ?_
    have hmem : r ∈ db.receipts.filter fun r => r.tenantId == tenant := by simp [hr, ht]
    rw [hnil] at hmem
    cases hmem
  | some r =>
    obtain ⟨hmem, hle⟩ := pickMax_mem hmax
    obtain ⟨hr, ht⟩ : r ∈ db.receipts ∧ r.tenantId = tenant := by simpa using hmem
    have hall : ∀ x ∈ db.receipts, x.tenantId = tenant → x.seq ≤ r.seq := fun x hx hxt =>
      hle x (by simp [hx, hxt])
    show if r.seq = 0 then _ else _
    split
    · next hzero => exact chainPosition_of_unnumbered fun x hx hxt => hzero ▸ hall x hx hxt
    · next hne =>
      have hpos : 0 < r.seq := lt_of_le_of_ne (h.nonneg r hr ht) (Ne.symm hne)
      exact ⟨r, hr, rfl, h.position_of_max hr ht hpos hall⟩

variable {ph : ChainPhase}

theorem AtEnd.position (h : AtEnd env tenant rows ph) {seq : ℤ} {prev : String}
    (hp : ph.position = some (seq, prev)) : chainPosition env tenant rows = (seq, prev) := by
  unfold ChainPhase.position at hp
  split at hp
  · exact h.trans (Option.some.inj hp)
  · exact h.trans (Option.some.inj hp)
  · exact h.trans (Option.some.inj hp)
  · cases hp

/-- Another tenant's receipt does not change what a call knows. -/
theorem AtEnd.concat_of_ne (h : AtEnd env tenant rows ph)
    (ht : row.tenantId ≠ tenant) : AtEnd env tenant (rows ++ [row]) ph := by
  have hpos : chainPosition env tenant (rows ++ [row]) = chainPosition env tenant rows := by
    rw [chainPosition, chainOf_concat_of_ne ht]
    rfl
  unfold AtEnd at h ⊢
  rw [hpos]
  split at h
  · exact h
  · split at h
    · next hz =>
      rw [if_pos hz]
      exact h
    · next hz =>
      obtain ⟨r, hr, hrest⟩ := h
      rw [if_neg hz]
      exact ⟨r, List.mem_append_left _ hr, hrest⟩
  · exact h
  · exact h
  · exact h
  · exact h

/-- The receipts have distinct ids, so an id finds its receipt. -/
theorem findReceipt_of_mem (hnodup : (db.receipts.map fun r => r.receiptId).Nodup)
    (hr : r ∈ db.receipts) : findReceipt db r.receiptId = some r.toActionReceipt := by
  unfold findReceipt
  cases hfind : db.receipts.find? fun x => x.receiptId == r.receiptId with
  | none => exact absurd hr fun hmem => by simpa using List.find?_eq_none.1 hfind r hmem
  | some x =>
    have hid : x.receiptId = r.receiptId := by simpa using List.find?_some hfind
    have hx : x = r :=
      List.inj_on_of_nodup_map hnodup (List.mem_of_find?_eq_some hfind) hr hid
    rw [hx]
    rfl

/-! ## Undisturbed reads -/

/-- The statement is this call's reading of the tenant's chain head. -/
def readsHead (tenant : String) (i : ℕ) (e : LogEntry F) : Bool :=
  e.thread == i &&
    match e.label with
    | .select (.chainHead t) => t == tenant
    | _ => false

/-- The statement stored a receipt of the tenant. -/
def storesFor (tenant : String) (e : LogEntry F) : Bool :=
  match e.label with
  | .write (.upsertReceipt row _) => row.tenantId == tenant && e.before.fault.isNone
  | _ => false

/-- No receipt of the tenant was stored since the call read the chain head. -/
def undisturbed (tenant : String) (i : ℕ) : RunLog F → Bool
  | [] => true
  | e :: older => readsHead tenant i e || !storesFor tenant e && undisturbed tenant i older

/-- If the statement inserts a receipt, the chain head the call read is still the head. -/
def storesUndisturbed (e : LogEntry F) (older : RunLog F) : Bool :=
  match e.label with
  | .write (.upsertReceipt row _) => undisturbed row.tenantId e.thread older
  | _ => true

variable {i : ℕ}

theorem undisturbed_of_cons {e : LogEntry F} {log : RunLog F}
    (h : undisturbed tenant i (e :: log) = true) (hread : readsHead tenant i e = false) :
    storesFor tenant e = false ∧ undisturbed tenant i log = true := by
  simpa [undisturbed, hread] using h

variable {j : ℕ}

theorem readsHead_of_ne (h : j ≠ i) {lbl : Label F} {s : World F} :
    readsHead tenant j ⟨i, lbl, s⟩ = false := by
  simp [readsHead, Ne.symm h]

/-! ## The invariant -/

variable {D : Set ℕ}

/-- Distinct drawn identifiers give distinct receipt ids. -/
theorem receiptId_ne (hrand : Set.InjOn env.randomHex32 D) {k : ℕ} (hj : j ∈ D)
    (hk : k ∈ D) (h : j ≠ k) : "ar_" ++ env.randomHex32 j ≠ "ar_" ++ env.randomHex32 k := by
  intro heq
  have hlist := congrArg String.toList heq
  rw [String.toList_append, String.toList_append] at hlist
  exact h (hrand hj hk (String.toList_inj.1 (List.append_cancel_left hlist)))

/-- The id of the `k`-th draw is not in the table. -/
def Unused (env : Env F) (rows : List ReceiptRow) (k : ℕ) : Prop :=
  ∀ r ∈ rows, r.receiptId ≠ "ar_" ++ env.randomHex32 k

/-- What holds of the receipt table, the calls and the log throughout a run that draws
numbers in `D`. -/
structure ChainInv (env : Env F) (D : Set ℕ) (calls : List ActionCall) (tenant : String)
    (s : World F) (g : ℕ → ActLocal) (log : RunLog F) : Prop where
  nodup : (s.db.receipts.map fun r => r.receiptId).Nodup
  /-- Identifiers still to be drawn are not in the table. -/
  fresh : ∀ k ∈ D, s.drawn ≤ k → Unused env s.db.receipts k
  /-- An identifier a call holds is drawn, not in the table, and held by no other. -/
  held : ∀ i seq prev k, (g i).chain = .named seq prev k → k ∈ D ∧ k < s.drawn ∧
    Unused env s.db.receipts k ∧ ∀ j ≠ i, ∀ seq' prev', (g j).chain ≠ .named seq' prev' k
  ok : ChainOk env tenant s.db.receipts
  /-- A call whose reading was not disturbed knows where its receipt belongs. -/
  placed : ∀ i, (callInfo calls i).tenant = tenant → undisturbed tenant i log = true →
    AtEnd env tenant s.db.receipts (g i).chain

namespace ChainInv

variable {D : Set ℕ} {calls : List ActionCall} {s s' : World F} {g : ℕ → ActLocal}
  {log : RunLog F}

theorem initial (calls : List ActionCall) (hnodup : (s.db.receipts.map fun r => r.receiptId).Nodup)
    (hfresh : ∀ k ∈ D, Unused env s.db.receipts k) (hok : ChainOk env tenant s.db.receipts) :
    ChainInv env D calls tenant s (fun _ => ActLocal.init) [] where
  nodup := hnodup
  fresh k hk _ := hfresh k hk
  held := by simp [ActLocal.init]
  ok := hok
  placed _ _ _ := trivial

theorem tick (h : ChainInv env D calls tenant s g log) (d : ℕ) :
    ChainInv env D calls tenant (Clocked.advance d s) g log :=
  ⟨h.nodup, h.fresh, h.held, h.ok, h.placed⟩

variable {i : ℕ} {lbl : Label F} {l' : ActLocal}

/-- A statement that leaves the receipts alone; the call's new phase is justified. -/
theorem quiet (h : ChainInv env D calls tenant s g log)
    (hrows : s'.db.receipts = s.db.receipts) (hdrawn : s.drawn ≤ s'.drawn)
    (hheld : ∀ seq prev k, l'.chain = .named seq prev k → k ∈ D ∧ k < s'.drawn ∧
      Unused env s.db.receipts k ∧ ∀ j ≠ i, ∀ seq' prev', (g j).chain ≠ .named seq' prev' k)
    (hplaced : (callInfo calls i).tenant = tenant →
      undisturbed tenant i (⟨i, lbl, s⟩ :: log) = true → AtEnd env tenant s.db.receipts l'.chain) :
    ChainInv env D calls tenant s' (Function.update g i l') (⟨i, lbl, s⟩ :: log) := by
  constructor
  case nodup => rw [hrows]; exact h.nodup
  case fresh =>
    rw [hrows]
    exact fun k hD hk => h.fresh k hD (hdrawn.trans hk)
  case held =>
    intro j seq prev k hj
    rw [hrows]
    by_cases hji : j = i
    · subst hji
      rw [Function.update_self] at hj
      obtain ⟨hD, hlt, hun, hother⟩ := hheld seq prev k hj
      refine ⟨hD, hlt, hun, fun m hm seq' prev' => ?_⟩
      rw [Function.update_of_ne hm]
      exact hother m hm seq' prev'
    · rw [Function.update_of_ne hji] at hj
      obtain ⟨hD, hlt, hun, hother⟩ := h.held j seq prev k hj
      refine ⟨hD, hlt.trans_le hdrawn, hun, fun m hm seq' prev' hmk => ?_⟩
      by_cases hmi : m = i
      · subst hmi
        rw [Function.update_self] at hmk
        exact (hheld seq' prev' k hmk).2.2.2 j hji seq prev hj
      · rw [Function.update_of_ne hmi] at hmk
        exact hother m hm seq' prev' hmk
  case ok => rw [hrows]; exact h.ok
  case placed =>
    intro j ht hund
    rw [hrows]
    by_cases hji : j = i
    · subst hji
      rw [Function.update_self]
      exact hplaced ht hund
    · rw [Function.update_of_ne hji]
      exact h.placed j ht (undisturbed_of_cons hund (readsHead_of_ne hji)).2

/-- A statement after which the call is where it was. -/
theorem still (h : ChainInv env D calls tenant s g log)
    (hrows : s'.db.receipts = s.db.receipts) (hdrawn : s'.drawn = s.drawn)
    (hread : readsHead tenant i ⟨i, lbl, s⟩ = false) (hchain : l'.chain = (g i).chain) :
    ChainInv env D calls tenant s' (Function.update g i l') (⟨i, lbl, s⟩ :: log) := by
  refine h.quiet hrows hdrawn.ge (fun seq prev k hk => ?_) fun ht hund => ?_
  · rw [hdrawn]
    exact h.held i seq prev k (hchain ▸ hk)
  · rw [hchain]
    exact h.placed i ht (undisturbed_of_cons hund hread).2

variable [Float64 F]

/-- A receipt stored at a position that was not disturbed extends its chain. -/
theorem store (hrand : Set.InjOn env.randomHex32 D) (h : ChainInv env D calls tenant s g log)
    {row : ReceiptRow} {anon : Bool} {k : ℕ} (hchain : (g i).chain = .named row.seq row.prevHash k)
    (ht : row.tenantId = (callInfo calls i).tenant)
    (hid : row.receiptId = "ar_" ++ env.randomHex32 k)
    (hund : undisturbed row.tenantId i log = true) :
    ChainInv env D calls tenant (s.afterWrite (.upsertReceipt row anon))
      (Function.update g i { g i with chain := .stored })
      (⟨i, .write (.upsertReceipt row anon), s⟩ :: log) := by
  rcases World.afterWrite_cases s (.upsertReceipt row anon) with
    ⟨e, -, hdb⟩ | ⟨db, n, hfault, happ, -, hdb⟩
  · exact h.quiet (by rw [hdb]) (World.afterWrite_drawn _ _).ge (by simp) fun _ _ => trivial
  obtain ⟨hD, hlt, hun, hother⟩ := h.held i _ _ k hchain
  have hrows : (s.afterWrite (.upsertReceipt row anon)).db.receipts = s.db.receipts ++ [row] := by
    cases happ
    rw [hdb]
    refine if_neg ?_
    simpa [hid, Unused] using hun
  have hstays : ∀ m ∈ D, Unused env s.db.receipts m → m ≠ k →
      Unused env (s.db.receipts ++ [row]) m := by
    intro m hDm hm hmk r hr
    rcases List.mem_append.1 hr with hr | hr
    · exact hm r hr
    · rw [List.mem_singleton.1 hr, hid]
      exact receiptId_ne hrand hD hDm (Ne.symm hmk)
  constructor
  case nodup =>
    rw [hrows, List.map_append, List.map_singleton]
    refine h.nodup.append (List.nodup_singleton _) ?_
    simpa [hid, Unused] using hun
  case fresh =>
    intro m hDm hm
    rw [World.afterWrite_drawn] at hm
    rw [hrows]
    exact hstays m hDm (h.fresh m hDm hm) (by omega)
  case held =>
    intro j seq prev m hj
    by_cases hji : j = i
    · subst hji
      rw [Function.update_self] at hj
      cases hj
    rw [Function.update_of_ne hji] at hj
    obtain ⟨hDm, hlt', hun', hother'⟩ := h.held j seq prev m hj
    rw [hrows, World.afterWrite_drawn]
    refine ⟨hDm, hlt', hstays m hDm hun' ?_, fun j' hj' seq' prev' hc => ?_⟩
    · rintro rfl
      exact hother j hji seq prev hj
    · by_cases hji' : j' = i
      · subst hji'
        rw [Function.update_self] at hc
        cases hc
      · rw [Function.update_of_ne hji'] at hc
        exact hother' j' hj' seq' prev' hc
  case ok =>
    rw [hrows]
    by_cases htt : row.tenantId = tenant
    · refine h.ok.concat htt ?_
      have hat := h.placed i (ht ▸ htt) (htt ▸ hund)
      rw [hchain] at hat
      exact hat.symm
    · exact h.ok.concat_of_ne htt
  case placed =>
    intro j hjt hjund
    by_cases hji : j = i
    · subst hji
      rw [Function.update_self]
      trivial
    obtain ⟨hst, hund'⟩ := undisturbed_of_cons hjund (readsHead_of_ne hji)
    have htt : row.tenantId ≠ tenant := by simpa [storesFor, hfault] using hst
    rw [Function.update_of_ne hji, hrows]
    exact (h.placed j hjt hund').concat_of_ne htt

end ChainInv

variable [Float64 F]

/-- Every statement of an action call keeps the invariant, a receipt stored at a
disturbed position excepted. -/
theorem chainInv_run (hrand : Set.InjOn env.randomHex32 D) (calls : List ActionCall)
    (tenant : String) : RunInvariant (fun i => ActStep env (callInfo calls i))
      (fun e older => storesUndisturbed e older = true ∧ (e.label = .draw → e.before.drawn ∈ D))
      (ChainInv env D calls tenant) where
  tick d h := h.tick d
  step {s g log i lbl s' l'} h hcond hstep := by
    obtain ⟨hund, hdraw⟩ := hcond
    have hwrite : ∀ {w : Write F} {l' : ActLocal}, w.table ≠ .receipts → l'.chain = (g i).chain →
        ChainInv env D calls tenant (s.afterWrite w) (Function.update g i l')
          (⟨i, .write w, s⟩ :: log) := fun hw hchain =>
      h.still ((World.afterWrite_sameOff s _).receipts hw) (World.afterWrite_drawn _ _)
        (by simp [readsHead]) hchain
    cases hstep with
    | clock => exact h.still rfl rfl (by simp [readsHead]) rfl
    | query | usage => exact h.still rfl rfl (by simp [readsHead]) rfl
    | agent => exact h.still rfl rfl (by simp [readsHead]) rfl
    | headFailed _ hidle =>
      exact h.quiet rfl le_rfl (by simp [hidle]) fun _ _ => by rw [hidle]; trivial
    | head =>
      refine h.quiet rfl le_rfl (by simp) fun ht _ => ?_
      rw [ht]
      exact h.ok.atEnd_head s.tie
    | loadFailed => exact h.still rfl rfl (by simp [readsHead]) rfl
    | load _ q id r hhead hq hfind =>
      refine h.quiet rfl le_rfl (by simp) fun ht hu => ?_
      have hat := h.placed i ht (undisturbed_of_cons hu (by simp [readsHead])).2
      rw [hhead, AtEnd, if_neg hq] at hat
      obtain ⟨row, hrow, hid, hpos⟩ := hat
      have hload := findReceipt_of_mem h.nodup hrow
      rw [hid, hfind] at hload
      rw [Option.some.inj hload]
      exact hpos
    | draw _ seq prev hpos =>
      refine h.quiet rfl (Nat.le_succ _) (fun seq' prev' k hk => ?_) fun ht hu => ?_
      · cases hk
        have hD : s.drawn ∈ D := hdraw rfl
        refine ⟨hD, Nat.lt_succ_self _, h.fresh _ hD le_rfl, fun j _ seq' prev' hj => ?_⟩
        exact absurd (h.held j seq' prev' _ hj).2.1 (lt_irrefl _)
      · exact (h.placed i ht (undisturbed_of_cons hu (by simp [readsHead])).2).position hpos
    | prune _ now => exact hwrite nofun rfl
    | spendFailed _ row => exact hwrite nofun rfl
    | spend _ row => exact hwrite nofun rfl
    | store _ row anon seq prev k _ hnamed ht hseq hprev hid _ =>
      subst hseq hprev
      exact h.store hrand hnamed ht hid hund

/-! ## Verification of the stored chain -/

omit [Float64 F] in
/-- The walk accepts a linked list of receipts it can load. -/
theorem verifyChainFrom_exec (rows : List ReceiptRow)
    (hload : ∀ r ∈ rows, findReceipt db r.receiptId = some r.toActionReceipt) :
    ∀ {k n : ℤ} {b : String} {w : World F}, w.db = db → w.faults = [] →
      LinkedFrom (fun r : ReceiptRow => r.seq) (fun r => r.prevHash)
        (fun r => receiptChainHash env r.toActionReceipt) k b rows →
      ((verifyChainFrom env tenant (rows.map fun r => r.receiptId) k b n).exec w).1 =
        .ok (n + rows.length) := by
  induction rows with
  | nil =>
    intro k n b w _ _ _
    simp [verifyChainFrom]
  | cons r rest ih =>
    intro k n b w hdb hfaults hlinked
    obtain ⟨hs, hp, hrest⟩ := hlinked
    have hstep := ih (fun x hx => hload x (List.mem_cons_of_mem _ hx)) (n := n + 1)
      (w := w.spendFault) hdb (by simp [World.spendFault, hfaults]) hrest
    have hnofault : w.fault = none := by simp [World.fault, hfaults]
    have hfind := hload r List.mem_cons_self
    rw [← hdb] at hfind
    have hseq : r.toActionReceipt.seq = k := hs
    have hprev : r.toActionReceipt.prevHash = b := hp
    simp only [List.map_cons, verifyChainFrom, loadReceipt, Srv.select, Prog.step_bind,
      Prog.exec_step, hnofault, hfind, Prog.pure_eq, Prog.done_ok_bind, hseq, hprev, ne_eq,
      not_true_eq_false, if_false]
    rw [hstep, List.length_cons]
    push_cast
    ring_nf

omit [Float64 F] in
/-- A valid chain verifies, and the count is the number of its receipts. -/
theorem verifyReceiptChain_exec {w : World F} (hfaults : w.faults = [])
    (hnodup : (w.db.receipts.map fun r => r.receiptId).Nodup)
    (hok : ChainOk env tenant w.db.receipts) :
    ((verifyReceiptChain env tenant).exec w).1 = .ok (chainOf tenant w.db.receipts).length := by
  have hids : chainedIds tenant w.db =
      (chainOf tenant w.db.receipts).map fun r => r.receiptId := rfl
  have hwalk : ((verifyChainFrom env tenant (chainedIds tenant w.db) 1 "" 0).exec
      w.spendFault).1 = .ok (0 + (chainOf tenant w.db.receipts).length) :=
    verifyChainFrom_exec _ (fun r hr => findReceipt_of_mem hnodup (mem_chainOf.1 hr).1) rfl
      (by simp [World.spendFault, hfaults]) hok.linked
  have hnofault : w.fault = none := by simp [World.fault, hfaults]
  simp only [verifyReceiptChain, Srv.select, Prog.step_bind, Prog.exec_step, hnofault,
    Prog.pure_eq, Prog.done_ok_bind]
  simpa using hwalk

/-- **The receipt chain under concurrency.** Start from a table in which the tenant's
chain is valid, for instance an empty one, and interleave any calls in any way in which
no receipt is inserted at a disturbed position, and the identifiers that are drawn collide
neither with each other nor with the table. The tenant's chained receipts then
carry the numbers `1` to `n`, each is linked to the one before, and the chain
verifies with count `n`. -/
theorem chain_intact (env : Env F) (calls : List ActionCall) (s : World F) (tenant : String)
    (hnodup : (s.db.receipts.map fun r => r.receiptId).Nodup)
    (hstart : ChainOk env tenant s.db.receipts) (sched : List Event)
    (hrand : Set.InjOn env.randomHex32
      (drawnIn ((Config.init s (calls.map (ActionCall.prog env))).run sched).log))
    (hfresh : ∀ k ∈ drawnIn ((Config.init s (calls.map (ActionCall.prog env))).run sched).log,
      Unused env s.db.receipts k)
    (hund : LogOk (fun e older => storesUndisturbed e older = true)
      ((Config.init s (calls.map (ActionCall.prog env))).run sched).log) :
    let rows := ((Config.init s (calls.map (ActionCall.prog env))).run sched).world.db.receipts
    let n := (chainOf tenant rows).length
    (chainOf tenant rows).map (fun r => r.seq) = (List.range n).map (fun k : ℕ => 1 + (k : ℤ)) ∧
      (∀ r ∈ chainOf tenant rows, r.seq = 1 → r.prevHash = "") ∧
      (∀ r ∈ chainOf tenant rows, ∀ r' ∈ chainOf tenant rows, r'.seq = r.seq + 1 →
        r'.prevHash = receiptChainHash env r.toActionReceipt) ∧
      ∀ w : World F, w.db.receipts = rows → w.faults = [] →
        ((verifyReceiptChain env tenant).exec w).1 = .ok n := by
  obtain ⟨g, hinv, -⟩ := (chainInv_run hrand calls tenant).run (actionPool_follows calls)
    (ChainInv.initial calls hnodup hfresh hstart) sched
    (hund.and_forall fun e he hdraw => ⟨e, he, hdraw, rfl⟩)
  refine ⟨hinv.ok.linked.map_seq, fun r hr => hinv.ok.linked.prev_first hr,
    fun r hr r' hr' => hinv.ok.linked.prev_eq hr hr', fun w hw hfaults => ?_⟩
  rw [← hw]
  exact verifyReceiptChain_exec hfaults (hw ▸ hinv.nodup) (hw ▸ hinv.ok)

/-! ## The interleaving in which the chain forks -/

/-- Two actions of the sample agent, under two nonces. -/
def twoActions : List ActionCall :=
  [.identity sampleProof sampleOptions,
    .identity { sampleProof with envelope :=
      { sampleProof.envelope with nonce := "nonce-9876543210" } } sampleOptions]

def twoActionsRun (sched : List Event) : SrvConfig ℚ AppError ActionReceipt :=
  (Config.init (sampleWorld 0) (twoActions.map (ActionCall.prog (sampleEnv ℚ)))).run sched

/-- One call after the other. -/
def inTurn : List Event := List.replicate 10 (.step 0) ++ List.replicate 11 (.step 1)

/-- Both calls read the chain head before either inserts. -/
def bothReadFirst : List Event :=
  List.replicate 7 (.step 0) ++ List.replicate 7 (.step 1) ++ List.replicate 3 (.step 0) ++
    List.replicate 3 (.step 1)

theorem chain_intact_in_turn :
    (twoActionsRun inTurn).world.db.receipts.length = 2 ∧
      ((verifyReceiptChain (sampleEnv ℚ) "default").exec
          (World.steady (twoActionsRun inTurn).world.db 0)).1 =
        .ok (chainOf "default" (twoActionsRun inTurn).world.db.receipts).length := by
  have hempty : (sampleWorld 0).db.receipts = [] := rfl
  obtain ⟨-, -, -, hverify⟩ := chain_intact (sampleEnv ℚ) twoActions (sampleWorld 0) "default"
    List.nodup_nil ⟨by simp [hempty], trivial⟩ inTurn (sampleEnv_random_injective ℚ).injOn
    (by simp [Unused, hempty]) (by decide +kernel)
  refine ⟨by decide +kernel, ?_⟩
  unfold twoActionsRun
  exact hverify _ (by rw [World.steady_db]) (World.steady_faults _ _)

/-- Both receipts are stored at position 1, and the chain does not verify. -/
theorem chain_forks :
    (twoActionsRun bothReadFirst).world.db.receipts.map (fun r => (r.tenantId, r.seq)) =
        [("default", 1), ("default", 1)] ∧
      ((verifyReceiptChain (sampleEnv ℚ) "default").exec
        (twoActionsRun bothReadFirst).world).1 ≠ .ok 2 := by
  decide +kernel

end SauronID.Action
