import SauronID.Action.ReceiptChain
import SauronID.Lib.Alike

/-!
# What one tenant sees of another

Two runs of `validate_agent_action` requests that agree on the requests of one tenant are
compared by way of the run of that tenant alone. The reads of the path are partitioned by
tenant, except one: `agent_action_nonces` is keyed by the nonce, which the client chooses,
and pruned by whoever comes along. `tenant_verdicts_eq` shows that this is all there is to
see: as long as no other tenant's request leaves a live row under a nonce of this tenant, and
none prunes ahead of its time, every request gets the verdict it gets without the others.
-/

namespace SauronID.Action

open Conc

variable {F : Type}

/-! ## Runs of requests -/

/-- A request with what it meets: the time, which of its statements fail, and how ties
fall. -/
structure TimedCall where
  proof : AgentActionProof
  opts : ValidateAgentActionOptions
  clockMs : ℤ
  faults : List (Option String)
  ties : List ℕ

namespace TimedCall

def tenant (c : TimedCall) : String := c.opts.tenantId

def nonce (c : TimedCall) : String := c.proof.envelope.nonce

def expiresAt (c : TimedCall) : ℤ := c.proof.envelope.expiresAt

def nowSecs (c : TimedCall) : ℤ := c.clockMs / 1000

/-- The world as the request meets it. -/
def start (c : TimedCall) (s : World F) : World F :=
  { s with clockMs := c.clockMs, faults := c.faults, ties := c.ties }

variable [Float64 F]

/-- What the request answers and leaves. -/
def exec (env : Env F) (c : TimedCall) (s : World F) :
    Except AppError AgentActionValidation × World F :=
  (validateAgentAction env c.proof c.opts).exec (c.start s)

end TimedCall

/-- The verdicts on the requests of a tenant, in a run of requests of any tenants. -/
def verdicts [Float64 F] (env : Env F) (tenant : String) : List TimedCall → World F → List Bool
  | [], _ => []
  | c :: rest, s =>
    let outcome := c.exec env s
    let later := verdicts env tenant rest outcome.2
    if c.tenant = tenant then outcome.1.isOk :: later else later

/-- The requests of one tenant. -/
def requestsOf (tenant : String) (run : List TimedCall) : List TimedCall :=
  run.filter fun c => c.tenant = tenant

/-- No other tenant's request has a later time than a request of this tenant that comes
after it, or its nonce, unless that has expired by then. -/
def Undisturbed (tenant : String) (run : List TimedCall) : Prop :=
  run.Pairwise fun other c => other.tenant ≠ tenant → c.tenant = tenant →
    other.nowSecs ≤ c.nowSecs ∧ (other.nonce = c.nonce → other.expiresAt < c.nowSecs)

/-! ## The view of a tenant -/

/-- A row under this nonce lives until `t` at least. -/
def HoldsNonce (db : Db F) (nonce : String) (t : ℤ) : Prop :=
  ∃ row ∈ db.nonces, row.nonce = nonce ∧ t ≤ row.expiresAt

/-- The next `n` numbers are in `D`, and no number in `D` that is still to be drawn is used. -/
def Stock (env : Env F) (D : Set ℕ) (n : ℕ) (s : World F) : Prop :=
  (∀ k < n, s.drawn + k ∈ D) ∧ ∀ k ∈ D, s.drawn ≤ k → Unused env s.db.receipts k

/-- The worlds look the same to the requests of `tenant` that are still to come, and at most `n`
receipts are still to be stored. -/
structure Beside (env : Env F) (D : Set ℕ) (tenant : String) (rest : List TimedCall) (n : ℕ)
    (s₁ s₂ : World F) : Prop where
  agents : s₁.db.agents = s₂.db.agents
  /-- The receipts differ in what was drawn at random, and in their links. -/
  seqs : (tenantReceipts s₁.db tenant).map (fun r => r.seq) =
    (tenantReceipts s₂.db tenant).map fun r => r.seq
  nonces : ∀ c ∈ rest, c.tenant = tenant → ∀ t, c.nowSecs ≤ t →
    (HoldsNonce s₁.db c.nonce t ↔ HoldsNonce s₂.db c.nonce t)
  stock₁ : Stock env D n s₁
  stock₂ : Stock env D n s₂

/-- Two worlds in the course of the same request. -/
structure InStep (env : Env F) (D : Set ℕ) (c : TimedCall) (rest : List TimedCall) (n : ℕ)
    (s₁ s₂ : World F) : Prop extends Beside env D c.tenant (c :: rest) n s₁ s₂ where
  faults : s₁.faults = s₂.faults
  clock₁ : s₁.clockMs = c.clockMs
  clock₂ : s₂.clockMs = c.clockMs

/-! ### Nonces -/

variable {db : Db F} {nonce : String} {now t : ℤ}

theorem holdsNonce_prune :
    HoldsNonce { db with nonces := db.nonces.filter fun r => !decide (r.expiresAt < now) } nonce t ↔
      HoldsNonce db nonce (max t now) := by
  simp only [HoldsNonce, List.mem_filter, Bool.not_eq_true', decide_eq_false_iff_not, not_lt,
    max_le_iff]
  constructor
  · rintro ⟨row, ⟨hrow, hnow⟩, hnonce, ht⟩
    exact ⟨row, hrow, hnonce, ht, hnow⟩
  · rintro ⟨row, hrow, hnonce, ht, hnow⟩
    exact ⟨row, ⟨hrow, hnow⟩, hnonce, ht⟩

theorem holdsNonce_insert {row : NonceRow} :
    HoldsNonce { db with nonces := db.nonces ++ [row] } nonce t ↔
      HoldsNonce db nonce t ∨ (row.nonce = nonce ∧ t ≤ row.expiresAt) := by
  simp only [HoldsNonce, List.mem_append, List.mem_singleton]
  constructor
  · rintro ⟨r, hr | rfl, h⟩
    · exact .inl ⟨r, hr, h⟩
    · exact .inr h
  · rintro (⟨r, hr, h⟩ | h)
    · exact ⟨r, .inl hr, h⟩
    · exact ⟨row, .inr rfl, h⟩

/-! ### Receipts -/

section Receipts

variable {env : Env F}

/-- A receipt under an id that is not in the table is appended. -/
theorem upsertReceipts_of_unused {rows : List ReceiptRow} {row : ReceiptRow} {anon : Bool} {k : ℕ}
    (hid : row.receiptId = "ar_" ++ env.randomHex32 k) (hunused : Unused env rows k) :
    upsertReceipts rows row anon = rows ++ [row] := by
  refine if_neg ?_
  simpa [hid, Unused] using hunused

section Stock

variable {D : Set ℕ} {n m : ℕ} {s s' : World F}

theorem Stock.mono (h : Stock env D m s) (hle : n ≤ m) : Stock env D n s :=
  ⟨fun k hk => h.1 k (hk.trans_le hle), h.2⟩

theorem Stock.next_mem (h : Stock env D (n + 1) s) : s.drawn ∈ D := h.1 0 n.succ_pos

theorem Stock.next_unused (h : Stock env D (n + 1) s) : Unused env s.db.receipts s.drawn :=
  h.2 _ h.next_mem le_rfl

/-- The next number is drawn. -/
theorem Stock.draw (h : Stock env D (n + 1) s) : Stock env D n { s with drawn := s.drawn + 1 } := by
  refine ⟨fun k hk => ?_, fun k hD hk => h.2 k hD (Nat.le_of_succ_le hk)⟩
  rw [Nat.add_assoc, Nat.add_comm 1]
  exact h.1 (k + 1) (Nat.succ_lt_succ hk)

/-- A receipt under a number that was drawn leaves the others unused. -/
theorem Stock.store (hrand : Set.InjOn env.randomHex32 D) (h : Stock env D n s)
    {row : ReceiptRow} {k : ℕ} (hk : k ∈ D) (hlt : k < s.drawn)
    (hid : row.receiptId = "ar_" ++ env.randomHex32 k) (hdrawn : s'.drawn = s.drawn)
    (hrows : s'.db.receipts = s.db.receipts ++ [row]) : Stock env D n s' := by
  refine ⟨fun j hj => hdrawn ▸ h.1 j hj, fun j hD hj r hr => ?_⟩
  rw [hdrawn] at hj
  rw [hrows] at hr
  rcases List.mem_append.1 hr with hr | hr
  · exact h.2 j hD hj r hr
  · rw [List.mem_singleton.1 hr, hid]
    exact receiptId_ne hrand hk hD (by omega)

end Stock

variable {tenant : String}

/-- The number at the head of a chain is the largest there is, whichever receipt has it. -/
theorem chainHead_seq {db₁ db₂ : Db F} (h : (tenantReceipts db₁ tenant).map (fun r => r.seq) =
      (tenantReceipts db₂ tenant).map fun r => r.seq) (tie₁ tie₂ : ℕ) :
    (chainHead tenant db₁ tie₁).map Prod.fst = (chainHead tenant db₂ tie₂).map Prod.fst := by
  have hmem : ∀ x : ℤ, (∃ r ∈ tenantReceipts db₁ tenant, r.seq = x) ↔
      ∃ r ∈ tenantReceipts db₂ tenant, r.seq = x := by
    intro x
    rw [← List.mem_map, ← List.mem_map, h]
  unfold chainHead
  cases h₁ : pickMax (fun r : ReceiptRow => r.seq) tie₁ (tenantReceipts db₁ tenant) with
  | none =>
    rw [pickMax_eq_none.1 h₁, List.map_nil, eq_comm, List.map_eq_nil_iff] at h
    simp [pickMax_eq_none.2 h]
  | some r₁ =>
    cases h₂ : pickMax (fun r : ReceiptRow => r.seq) tie₂ (tenantReceipts db₂ tenant) with
    | none =>
      rw [pickMax_eq_none.1 h₂, List.map_nil, List.map_eq_nil_iff] at h
      rw [pickMax_eq_none.2 h] at h₁
      cases h₁
    | some r₂ =>
      obtain ⟨hr₁, hmax₁⟩ := pickMax_mem h₁
      obtain ⟨hr₂, hmax₂⟩ := pickMax_mem h₂
      obtain ⟨x, hx, hxeq⟩ := (hmem r₁.seq).1 ⟨r₁, hr₁, rfl⟩
      obtain ⟨y, hy, hyeq⟩ := (hmem r₂.seq).2 ⟨r₂, hr₂, rfl⟩
      have : r₁.seq = r₂.seq := le_antisymm (hxeq ▸ hmax₂ x hx) (hyeq ▸ hmax₁ y hy)
      simp [this]

/-- The receipt at the head of a chain can be loaded. -/
theorem findReceipt_of_chainHead {receiptId : String} {db : Db F} {tie : ℕ} {seq : ℤ}
    (h : chainHead tenant db tie = some (seq, receiptId)) : (findReceipt db receiptId).isSome := by
  obtain ⟨row, hrow, hpair⟩ := Option.map_eq_some_iff.1 h
  cases hpair
  have hmem : row ∈ db.receipts := (List.mem_filter.1 (pickMax_mem hrow).1).1
  rw [findReceipt, Option.isSome_map, List.find?_isSome]
  exact ⟨row, hmem, by simp⟩

end Receipts

/-! ## A request of another tenant -/

section Other

variable [Float64 F] {env : Env F} {D : Set ℕ} {tenant : String} {c : TimedCall}
  {rest : List TimedCall} {n : ℕ} {s s' s₂ : World F} {l l' : ActLocal}

omit [Float64 F] in
theorem Beside.mono {m : ℕ} (h : Beside env D tenant rest m s s₂) (hle : n ≤ m) :
    Beside env D tenant rest n s s₂ :=
  ⟨h.agents, h.seqs, h.nonces, h.stock₁.mono hle, h.stock₂.mono hle⟩

omit [Float64 F] in
/-- A statement that leaves the three tables alone. -/
theorem Beside.quiet (h : Beside env D tenant rest n s s₂) (hagents : s'.db.agents = s.db.agents)
    (hreceipts : s'.db.receipts = s.db.receipts) (hnonces : s'.db.nonces = s.db.nonces)
    (hdrawn : s'.drawn = s.drawn) : Beside env D tenant rest n s' s₂ where
  agents := hagents.trans h.agents
  seqs := by
    rw [tenantReceipts, hreceipts]
    exact h.seqs
  nonces d hd ht t hle := by
    rw [HoldsNonce, hnonces]
    exact h.nonces d hd ht t hle
  stock₁ := by
    rw [Stock, hreceipts, hdrawn]
    exact h.stock₁
  stock₂ := h.stock₂

/-- The receipts that a call in the phase can still store. -/
def ChainPhase.toStore : ChainPhase → ℕ
  | .named _ _ _ | .stored => 0
  | _ => 1

/-- In the course of the request `c` of another tenant, which has the ghost state `l`. -/
structure Aside (env : Env F) (D : Set ℕ) (tenant : String) (c : TimedCall)
    (rest : List TimedCall) (n : ℕ) (s₂ : World F) (l : ActLocal) (s : World F) : Prop where
  beside : Beside env D tenant rest (n + l.chain.toStore) s s₂
  clock : s.clockMs = c.clockMs
  now : ∀ now, l.now = some now → now = c.nowSecs
  /-- An identifier that was drawn is not in the table yet. -/
  held : ∀ seq prev k, l.chain = .named seq prev k →
    k ∈ D ∧ k < s.drawn ∧ Unused env s.db.receipts k

section

variable (h : Aside env D tenant c rest n s₂ l s)

include h

omit [Float64 F] in
theorem Aside.quiet (hdb : s'.db = s.db)
    (hclock : s'.clockMs = s.clockMs) (hdrawn : s'.drawn = s.drawn)
    (hnow : ∀ now, l'.now = some now → now = c.nowSecs) (hleft : l'.chain.toStore ≤ l.chain.toStore)
    (hchain : ∀ seq prev k, l'.chain = .named seq prev k → l.chain = .named seq prev k) :
    Aside env D tenant c rest n s₂ l' s' where
  beside := (h.beside.quiet (by rw [hdb]) (by rw [hdb]) (by rw [hdb]) hdrawn).mono
    (Nat.add_le_add_left hleft n)
  clock := hclock.trans h.clock
  now := hnow
  held seq prev k hk := by
    rw [hdb, hdrawn]
    exact h.held seq prev k (hchain seq prev k hk)

/-- Pruning at the time of the request drops what the requests to come would drop. -/
theorem Aside.prune (hlater : ∀ d ∈ rest, d.tenant = tenant → c.nowSecs ≤ d.nowSecs) :
    Aside env D tenant c rest n s₂ l (s.afterWrite (.pruneNonces c.nowSecs)) := by
  rcases World.afterWrite_cases s (.pruneNonces c.nowSecs) with
    ⟨e, -, hdb⟩ | ⟨db, n, -, happ, -, hdb⟩
  · exact h.quiet hdb (by simp) (by simp) h.now le_rfl fun _ _ _ hk => hk
  · cases happ
    refine ⟨⟨by simpa [hdb] using h.beside.agents, ?_, fun d hd ht t hle => ?_, ?_,
      h.beside.stock₂⟩, by simpa using h.clock, h.now, ?_⟩
    · simpa [tenantReceipts, hdb] using h.beside.seqs
    · rw [hdb, holdsNonce_prune, max_eq_left ((hlater d hd ht).trans hle)]
      exact h.beside.nonces d hd ht t hle
    · simpa [Stock, hdb] using h.beside.stock₁
    · simpa [hdb] using h.held

/-- A row under the nonce of a request to come has expired by its time. -/
theorem Aside.spend {row : NonceRow}
    (hnonce : row.nonce = c.nonce) (hexp : row.expiresAt = c.expiresAt)
    (hlater : ∀ d ∈ rest, d.tenant = tenant → c.nonce = d.nonce → c.expiresAt < d.nowSecs)
    (hnow : l'.now = l.now) (hchain : l'.chain = l.chain) :
    Aside env D tenant c rest n s₂ l' (s.afterWrite (.insertNonce row)) := by
  rcases World.afterWrite_cases s (.insertNonce row) with
    ⟨e, -, hdb⟩ | ⟨db, n, -, happ, -, hdb⟩
  · exact h.quiet hdb (by simp) (by simp) (hnow ▸ h.now) (by rw [hchain]) (by simp [hchain])
  · simp only [Write.apply] at happ
    split at happ
    · cases happ
    cases happ
    refine ⟨⟨by simpa [hdb] using h.beside.agents, ?_, fun d hd ht t hle => ?_, ?_,
      hchain ▸ h.beside.stock₂⟩, by simpa using h.clock, hnow ▸ h.now, ?_⟩
    · simpa [tenantReceipts, hdb] using h.beside.seqs
    · rw [hdb, holdsNonce_insert, h.beside.nonces d hd ht t hle, or_iff_left]
      rintro ⟨hsame, hlive⟩
      have hlt := hlater d hd ht (hnonce.symm.trans hsame)
      omega
    · simpa [Stock, hdb, hchain] using h.beside.stock₁
    · simpa [hdb, hchain] using h.held

end

/-- A receipt of another tenant under an id that was drawn. -/
theorem Aside.store (hrand : Set.InjOn env.randomHex32 D) (h : Aside env D tenant c rest n s₂ l s)
    {row : ReceiptRow} {anon : Bool} {seq : ℤ} {prev : String} {k : ℕ}
    (hchain : l.chain = .named seq prev k) (hid : row.receiptId = "ar_" ++ env.randomHex32 k)
    (hne : row.tenantId ≠ tenant) : Aside env D tenant c rest n s₂ { l with chain := .stored }
      (s.afterWrite (.upsertReceipt row anon)) := by
  obtain ⟨hD, hlt, hunused⟩ := h.held seq prev k hchain
  have hleft : l.chain.toStore = 0 := by rw [hchain]; rfl
  rcases World.afterWrite_cases s (.upsertReceipt row anon) with
    ⟨e, -, hdb⟩ | ⟨db, n, -, happ, -, hdb⟩
  · exact h.quiet hdb (by simp) (by simp) h.now (Nat.zero_le _) (by simp)
  · cases happ
    have hrows : (s.afterWrite (.upsertReceipt row anon)).db.receipts =
        s.db.receipts ++ [row] := by
      rw [hdb]
      exact upsertReceipts_of_unused hid hunused
    have hbeside := h.beside.mono (Nat.le_add_right n l.chain.toStore)
    refine ⟨⟨by simpa [hdb] using h.beside.agents, ?_, fun d hd ht t hle => ?_, ?_,
      hbeside.stock₂⟩, by simpa using h.clock, h.now, by simp⟩
    · have hout : [row].filter (fun r => r.tenantId == tenant) = [] := by simpa using hne
      rw [tenantReceipts, hrows, List.filter_append, hout, List.append_nil]
      exact h.beside.seqs
    · simpa [hdb, HoldsNonce] using h.beside.nonces d hd ht t hle
    · exact hbeside.stock₁.store hrand hD hlt hid (World.afterWrite_drawn _ _) hrows

omit [Float64 F] in
theorem toStore_of_position {ph : ChainPhase} {p : ℤ × String} (h : ph.position = some p) :
    ph.toStore = 1 := by
  cases ph with
  | named | stored => cases h
  | _ => rfl

/-- Every statement of a request of another tenant leaves the view as it is. -/
theorem Aside.step (hrand : Set.InjOn env.randomHex32 D) (hne : c.tenant ≠ tenant)
    (hlater : ∀ d ∈ rest, d.tenant = tenant →
      c.nowSecs ≤ d.nowSecs ∧ (c.nonce = d.nonce → c.expiresAt < d.nowSecs))
    {lbl : Label F} (h : Aside env D tenant c rest n s₂ l s)
    (hstep : ActStep env (identityInfo c.proof c.opts) l lbl s s' l') :
    Aside env D tenant c rest n s₂ l' s' := by
  cases hstep with
  | clock =>
    refine h.quiet rfl rfl rfl (fun now hnow => ?_) le_rfl fun _ _ _ hk => hk
    cases hnow
    rw [World.nowSecs, h.clock, TimedCall.nowSecs]
  | query | usage => exact h.quiet rfl rfl rfl h.now le_rfl fun _ _ _ hk => hk
  | agent => exact h.quiet rfl rfl rfl h.now le_rfl fun _ _ _ hk => hk
  | headFailed => exact h.quiet rfl rfl rfl h.now le_rfl fun _ _ _ hk => hk
  | head _ hidle => exact h.quiet rfl rfl rfl h.now (by rw [hidle]; exact le_rfl) (by simp)
  | loadFailed => exact h.quiet rfl rfl rfl h.now le_rfl fun _ _ _ hk => hk
  | load _ q id r hhead =>
    exact h.quiet rfl rfl rfl h.now (by rw [hhead]; exact le_rfl) (by simp)
  | draw _ seq prev hpos =>
    have hbeside := h.beside
    rw [toStore_of_position hpos] at hbeside
    refine ⟨⟨hbeside.agents, hbeside.seqs, hbeside.nonces, hbeside.stock₁.draw,
      hbeside.stock₂.mono n.le_succ⟩, h.clock, h.now, fun seq' prev' k hk => ?_⟩
    cases hk
    exact ⟨hbeside.stock₁.next_mem, Nat.lt_succ_self _, hbeside.stock₁.next_unused⟩
  | prune _ now hnow =>
    cases h.now now hnow
    exact h.prune fun d hd ht => (hlater d hd ht).1
  | spendFailed _ row hnonce hexp =>
    exact h.spend hnonce hexp (fun d hd ht => (hlater d hd ht).2) rfl rfl
  | spend _ row n hnonce hexp =>
    exact h.spend hnonce hexp (fun d hd ht => (hlater d hd ht).2) rfl rfl
  | store _ row anon seq prev k _ hchain htenant _ _ hid =>
    exact h.store hrand hchain hid (htenant ▸ hne)

/-- A request of another tenant leaves the view as it is. -/
theorem Beside.other (hrand : Set.InjOn env.randomHex32 D)
    (h : Beside env D tenant (c :: rest) (n + 1) s s₂) (hne : c.tenant ≠ tenant)
    (hlater : ∀ d ∈ rest, d.tenant = tenant →
      c.nowSecs ≤ d.nowSecs ∧ (c.nonce = d.nonce → c.expiresAt < d.nowSecs)) :
    Beside env D tenant rest n (c.exec env s).2 s₂ := by
  have hstart : Aside env D tenant c rest n s₂ ActLocal.init (c.start s) :=
    { beside := ⟨h.agents, h.seqs, fun d hd => h.nonces d (List.mem_cons_of_mem _ hd), h.stock₁,
        h.stock₂⟩
      clock := rfl
      now := by simp [ActLocal.init]
      held := by simp [ActLocal.init] }
  obtain ⟨l', hend, -⟩ := (validateAgentAction_follows c.proof c.opts).exec_keeps
    (fun _ _ _ _ _ hs hT => Aside.step hrand hne hlater hs hT) hstart
  exact hend.beside.mono (Nat.le_add_right _ _)

end Other

/-! ## A request of the tenant itself -/

section Rules

variable {α β : Type} {s₁ s₂ : World F} {Q : α → β → World F → World F → Prop}
  {E : World F → World F → Prop} {q₁ q₂ : Query}

/-- Reads that fail together. -/
theorem alike_select {f : Db F → α} {g : Db F → β} (hfault : s₁.fault = s₂.fault)
    (herr : E s₁.spendFault s₂.spendFault)
    (hok : Q (f s₁.db) (g s₂.db) s₁.spendFault s₂.spendFault) :
    (Srv.select q₁ f).Alike s₁ (Srv.select q₂ g) s₂ Q E := by
  unfold Prog.Alike
  rw [Srv.exec_select, Srv.exec_select, hfault]
  cases s₂.fault with
  | some e => exact .error herr
  | none => exact .ok hok

theorem alike_selectTop {f : Db F → ℕ → α} {g : Db F → ℕ → β}
    (hfault : s₁.fault = s₂.fault) (herr : E s₁.spendTie s₂.spendTie)
    (hok : Q (f s₁.db s₁.tie) (g s₂.db s₂.tie) s₁.spendTie s₂.spendTie) :
    (Srv.selectTop q₁ f).Alike s₁ (Srv.selectTop q₂ g) s₂ Q E := by
  unfold Prog.Alike Srv.selectTop
  rw [Prog.exec_step, Prog.exec_step, hfault]
  cases s₂.fault with
  | some e => exact .error herr
  | none => exact .ok hok

variable {ε γ : Type} {q : Query} {f : Db F → Option γ} {k₁ : γ → Srv F ε α} {k₂ : γ → Srv F ε β}

/-- A required row that both find, or neither. -/
theorem alike_require {e : ε} (hfault : s₁.fault = s₂.fault)
    (hf : f s₁.db = f s₂.db) (herr : E s₁.spendFault s₂.spendFault)
    (hok : ∀ a, f s₂.db = some a → (k₁ a).Alike s₁.spendFault (k₂ a) s₂.spendFault Q E) :
    (Srv.require q f e >>= k₁).Alike s₁ (Srv.require q f e >>= k₂) s₂ Q E := by
  refine .bind ?_
  unfold Prog.Alike Srv.require
  rw [Prog.exec_bind, Prog.exec_bind, Prog.exec_attempt, Prog.exec_attempt, Srv.exec_select,
    Srv.exec_select, hfault, hf]
  cases s₂.fault with
  | some err => exact .error herr
  | none =>
    cases ha : f s₂.db with
    | none => exact .error herr
    | some a => exact .ok (hok a ha)

/-- A `scalar_or` read does not fail. -/
theorem alike_scalarOr {d : γ} (h : ∀ a b, (k₁ a).Alike s₁.spendFault (k₂ b) s₂.spendFault Q E) :
    (Srv.scalarOr q f d >>= k₁).Alike s₁ (Srv.scalarOr q f d >>= k₂) s₂ Q E := by
  have hexec : ∀ s : World F, ∃ a,
      (Srv.scalarOr q f d : Srv F ε γ).exec s = (.ok a, s.spendFault) := by
    intro s
    unfold Srv.scalarOr
    rw [Prog.exec_bind, Prog.exec_attempt, Srv.exec_select]
    cases s.fault with
    | some e => exact ⟨d, rfl⟩
    | none => cases f s.db <;> exact ⟨_, rfl⟩
  refine .bind ?_
  obtain ⟨a, ha⟩ := hexec s₁
  obtain ⟨b, hb⟩ := hexec s₂
  unfold Prog.Alike
  rw [ha, hb]
  exact .ok (h a b)

end Rules

/-- No row of the nonce table has expired. -/
def Pruned (now : ℤ) (s : World F) : Prop := ∀ row ∈ s.db.nonces, now ≤ row.expiresAt

/-- In a pruned table a row under a nonce is one that lives. -/
theorem Pruned.any_iff {s : World F} (h : Pruned now s) :
    s.db.nonces.any (fun r => r.nonce == nonce) = true ↔ HoldsNonce s.db nonce now := by
  simp only [List.any_eq_true, beq_iff_eq, HoldsNonce]
  constructor
  · rintro ⟨row, hrow, hnonce⟩
    exact ⟨row, hrow, hnonce, h row hrow⟩
  · rintro ⟨row, hrow, hnonce, -⟩
    exact ⟨row, hrow, hnonce⟩

section Own

variable {env : Env F} {D : Set ℕ} {c : TimedCall} {rest : List TimedCall} {n : ℕ}
  {s₁ s₂ : World F}

theorem InStep.less (h : InStep env D c rest (n + 1) s₁ s₂) : InStep env D c rest n s₁ s₂ :=
  ⟨h.toBeside.mono n.le_succ, h.faults, h.clock₁, h.clock₂⟩

theorem InStep.draw (h : InStep env D c rest (n + 1) s₁ s₂) :
    InStep env D c rest n { s₁ with drawn := s₁.drawn + 1 }
      { s₂ with drawn := s₂.drawn + 1 } :=
  ⟨⟨h.agents, h.seqs, h.nonces, h.stock₁.draw, h.stock₂.draw⟩, h.faults, h.clock₁, h.clock₂⟩

section Steps

variable (h : InStep env D c rest n s₁ s₂)

include h

namespace InStep

theorem fault_eq : s₁.fault = s₂.fault := by
  rw [World.fault, World.fault, h.faults]

theorem spendFault : InStep env D c rest n s₁.spendFault s₂.spendFault where
  toBeside := ⟨h.agents, h.seqs, h.nonces, h.stock₁, h.stock₂⟩
  faults := by simp only [World.spendFault, h.faults]
  clock₁ := h.clock₁
  clock₂ := h.clock₂

theorem spendTie : InStep env D c rest n s₁.spendTie s₂.spendTie where
  toBeside := ⟨h.agents, h.seqs, h.nonces, h.stock₁, h.stock₂⟩
  faults := by simp only [World.spendTie, World.spendFault, h.faults]
  clock₁ := h.clock₁
  clock₂ := h.clock₂

variable [Float64 F] {w₁ w₂ : Write F}

/-- Statements keep the clocks and the faults in step. -/
theorem written
    (hbeside : Beside env D c.tenant (c :: rest) n (s₁.afterWrite w₁) (s₂.afterWrite w₂)) :
    InStep env D c rest n (s₁.afterWrite w₁) (s₂.afterWrite w₂) where
  toBeside := hbeside
  faults := by simp only [World.afterWrite_faults, h.faults]
  clock₁ := by simpa using h.clock₁
  clock₂ := by simpa using h.clock₂

/-- Statements on the nonces that do the same to both. -/
theorem nonceWritten {rows₁ rows₂ : List NonceRow}
    (h₁ : (s₁.afterWrite w₁).db = { s₁.db with nonces := rows₁ })
    (h₂ : (s₂.afterWrite w₂).db = { s₂.db with nonces := rows₂ })
    (hrows : ∀ d ∈ c :: rest, d.tenant = c.tenant → ∀ t, d.nowSecs ≤ t →
      (HoldsNonce { s₁.db with nonces := rows₁ } d.nonce t ↔
        HoldsNonce { s₂.db with nonces := rows₂ } d.nonce t)) :
    InStep env D c rest n (s₁.afterWrite w₁) (s₂.afterWrite w₂) := by
  refine h.written ⟨?_, ?_, ?_, ?_, ?_⟩
  · simp only [h₁, h₂, h.agents]
  · simpa only [h₁, h₂, tenantReceipts] using h.seqs
  · simpa only [h₁, h₂] using hrows
  · simpa only [Stock, h₁, World.afterWrite_drawn] using h.stock₁
  · simpa only [Stock, h₂, World.afterWrite_drawn] using h.stock₂

/-- Statements that are both carried out, or both refused. -/
theorem execute {Q : ℕ → ℕ → World F → World F → Prop}
    (happly : (∃ e₁ e₂, w₁.apply s₁.db = .error e₁ ∧ w₂.apply s₂.db = .error e₂) ∨
      ∃ db₁ db₂ n₁ n₂, w₁.apply s₁.db = .ok (db₁, n₁) ∧ w₂.apply s₂.db = .ok (db₂, n₂) ∧
        ((s₁.afterWrite w₁).db = db₁ → (s₂.afterWrite w₂).db = db₂ →
          Q n₁ n₂ (s₁.afterWrite w₁) (s₂.afterWrite w₂))) :
    (Srv.execute w₁).Alike s₁ (Srv.execute w₂) s₂ Q (InStep env D c rest n) := by
  have hfailed (h₁ : (s₁.afterWrite w₁).db = s₁.db) (h₂ : (s₂.afterWrite w₂).db = s₂.db) :
      InStep env D c rest n (s₁.afterWrite w₁) (s₂.afterWrite w₂) :=
    h.nonceWritten h₁ h₂ h.nonces
  unfold Prog.Alike Srv.execute
  rw [Prog.exec_step, Prog.exec_step]
  cases hf : s₂.fault with
  | some e =>
    have hf₁ : s₁.fault = some e := h.fault_eq.trans hf
    simp only [World.writeResult, hf, hf₁]
    exact .error (hfailed (World.afterWrite_of_fault hf₁) (World.afterWrite_of_fault hf))
  | none =>
    have hf₁ : s₁.fault = none := h.fault_eq.trans hf
    rcases happly with ⟨e₁, e₂, h₁, h₂⟩ | ⟨db₁, db₂, n₁, n₂, h₁, h₂, hQ⟩
    · simp only [World.writeResult, hf, hf₁, h₁, h₂]
      exact .error (hfailed (World.afterWrite_of_error h₁) (World.afterWrite_of_error h₂))
    · simp only [World.writeResult, hf, hf₁, h₁, h₂]
      exact .ok (hQ (World.afterWrite_of_ok hf₁ h₁) (World.afterWrite_of_ok hf h₂))

end InStep

variable [Float64 F]

theorem pruneNonces_alike :
    (Srv.execute (.pruneNonces c.nowSecs)).Alike s₁ (Srv.execute (.pruneNonces c.nowSecs)) s₂
      (fun _ _ t₁ t₂ => InStep env D c rest n t₁ t₂ ∧ Pruned c.nowSecs t₁ ∧ Pruned c.nowSecs t₂)
      (InStep env D c rest n) := by
  refine h.execute (.inr ⟨_, _, _, _, rfl, rfl, fun h₁ h₂ => ⟨?_, ?_, ?_⟩⟩)
  · refine h.nonceWritten h₁ h₂ fun d hd ht t hle => ?_
    rw [holdsNonce_prune, holdsNonce_prune]
    exact h.nonces d hd ht _ (hle.trans (le_max_left _ _))
  · simp [Pruned, h₁]
  · simp [Pruned, h₂]

variable {row : NonceRow}

/-- The nonce of the request is fresh in both worlds or in neither. -/
theorem insertNonce_alike (h₁ : Pruned c.nowSecs s₁)
    (h₂ : Pruned c.nowSecs s₂) (hnonce : row.nonce = c.nonce) :
    (Srv.execute (.insertNonce row)).Alike s₁ (Srv.execute (.insertNonce row)) s₂
      (fun _ _ => InStep env D c rest n) (InStep env D c rest n) := by
  have hiff : s₁.db.nonces.any (fun r => r.nonce == row.nonce) = true ↔
      s₂.db.nonces.any (fun r => r.nonce == row.nonce) = true := by
    rw [hnonce, h₁.any_iff, h₂.any_iff]
    exact h.nonces c (List.mem_cons_self ..) rfl _ le_rfl
  refine h.execute ?_
  by_cases hany : s₂.db.nonces.any (fun r => r.nonce == row.nonce) = true
  · exact .inl ⟨_, _, if_pos (hiff.2 hany), if_pos hany⟩
  · refine .inr ⟨_, _, _, _, if_neg (mt hiff.1 hany), if_neg hany, fun h₁ h₂ => ?_⟩
    refine h.nonceWritten h₁ h₂ fun d hd ht t hle => ?_
    rw [holdsNonce_insert, holdsNonce_insert, h.nonces d hd ht t hle]

theorem spendNonce_alike {replay : String} (hnonce : row.nonce = c.nonce) :
    (spendNonce row c.nowSecs replay).Alike s₁ (spendNonce row c.nowSecs replay) s₂
      (fun _ _ => InStep env D c rest n) (InStep env D c rest n) := by
  refine .bind (.mapErr ((pruneNonces_alike h).mono fun _ _ t₁ t₂ ⟨ht, ht₁, ht₂⟩ => ?_))
  exact .bind (.mapErr ((insertNonce_alike ht ht₁ ht₂ hnonce).mono fun _ _ _ _ h =>
    Prog.alike_pure h))

omit [Float64 F] in
/-- The chains go on at the same number. -/
theorem nextChainPosition_alike :
    (nextChainPosition env c.tenant).Alike s₁ (nextChainPosition env c.tenant) s₂
      (fun p₁ p₂ t₁ t₂ => p₁.1 = p₂.1 ∧ InStep env D c rest n t₁ t₂) (InStep env D c rest n) := by
  refine .bind (alike_selectTop h.fault_eq h.spendTie ?_)
  have hseq := chainHead_seq h.seqs s₁.tie s₂.tie
  cases hh₁ : chainHead c.tenant s₁.db s₁.tie with
  | none =>
    rw [hh₁, Option.map_none, eq_comm, Option.map_eq_none_iff] at hseq
    rw [hseq]
    exact Prog.alike_pure ⟨rfl, h.spendTie⟩
  | some head₁ =>
    obtain ⟨seq₁, id₁⟩ := head₁
    rw [hh₁, Option.map_some, eq_comm, Option.map_eq_some_iff] at hseq
    obtain ⟨⟨seq, id₂⟩, hh₂, rfl⟩ := hseq
    rw [hh₂]
    by_cases hzero : seq = 0
    · simp only [hzero, if_true]
      exact Prog.alike_pure ⟨rfl, h.spendTie⟩
    · simp only [hzero, if_false]
      refine .bind (alike_select h.spendTie.fault_eq h.spendTie.spendFault ?_)
      -- both heads are still in their tables
      obtain ⟨r₁, hr₁⟩ := Option.isSome_iff_exists.1 (findReceipt_of_chainHead hh₁)
      obtain ⟨r₂, hr₂⟩ := Option.isSome_iff_exists.1 (findReceipt_of_chainHead hh₂)
      rw [World.spendTie_db, World.spendTie_db, hr₁, hr₂]
      exact Prog.alike_pure ⟨rfl, h.spendTie.spendFault⟩

end Steps

variable [Float64 F]

section

variable (hrand : Set.InjOn env.randomHex32 D)

include hrand

/-- Receipts of the tenant under ids that were drawn, with the same number. -/
theorem upsertReceipt_alike (h : InStep env D c rest n s₁ s₂) {row₁ row₂ : ReceiptRow} {k₁ k₂ : ℕ}
    (hid₁ : row₁.receiptId = "ar_" ++ env.randomHex32 k₁) (hD₁ : k₁ ∈ D) (hk₁ : k₁ < s₁.drawn)
    (hunused₁ : Unused env s₁.db.receipts k₁) (hid₂ : row₂.receiptId = "ar_" ++ env.randomHex32 k₂)
    (hD₂ : k₂ ∈ D) (hk₂ : k₂ < s₂.drawn) (hunused₂ : Unused env s₂.db.receipts k₂)
    (ht₁ : row₁.tenantId = c.tenant) (ht₂ : row₂.tenantId = c.tenant) (hseq : row₁.seq = row₂.seq) :
    (Srv.execute (.upsertReceipt row₁ false)).Alike s₁ (Srv.execute (.upsertReceipt row₂ false)) s₂
      (fun _ _ => InStep env D c rest n) (InStep env D c rest n) := by
  refine h.execute (.inr ⟨_, _, _, _, rfl, rfl, fun hdb₁ hdb₂ => h.written ?_⟩)
  rw [upsertReceipts_of_unused hid₁ hunused₁] at hdb₁
  rw [upsertReceipts_of_unused hid₂ hunused₂] at hdb₂
  constructor
  case agents => simp only [hdb₁, hdb₂, h.agents]
  case seqs =>
    have hseqs := h.seqs
    simp only [tenantReceipts] at hseqs
    simp [tenantReceipts, hdb₁, hdb₂, List.filter_append, ht₁, ht₂, hseq, hseqs]
  case nonces => simpa only [hdb₁, hdb₂, HoldsNonce] using h.nonces
  case stock₁ =>
    exact h.stock₁.store hrand hD₁ hk₁ hid₁ (World.afterWrite_drawn _ _) (by rw [hdb₁])
  case stock₂ =>
    exact h.stock₂.store hrand hD₂ hk₂ hid₂ (World.afterWrite_drawn _ _) (by rw [hdb₂])

/-- Whatever its verdict, an action draws one number. -/
theorem recordAction_alike (h : InStep env D c rest (n + 1) s₁ s₂) {ki : String} {ok : Bool} :
    (recordAction env c.proof c.opts ki c.nowSecs ok).Alike s₁
      (recordAction env c.proof c.opts ki c.nowSecs ok) s₂
      (fun _ _ => InStep env D c rest n) (InStep env D c rest n) := by
  have hless : ∀ t₁ t₂, InStep env D c rest (n + 1) t₁ t₂ → InStep env D c rest n t₁ t₂ :=
    fun _ _ h => h.less
  unfold recordAction
  cases ok with
  | true =>
    refine .bind (((spendNonce_alike h rfl).mono_error hless).mono fun _ _ t₁ t₂ ht => ?_)
    refine .bind (.mapErr (((nextChainPosition_alike ht).mono_error hless).mono
      fun p₁ p₂ u₁ u₂ hu => ?_))
    refine alike_scalarOr fun m₁ m₂ => .atomic (.bind (.mapErr ?_))
    have hu' := hu.2.spendFault
    refine (upsertReceipt_alike hrand hu'.draw rfl hu'.stock₁.next_mem (Nat.lt_succ_self _)
      hu'.stock₁.next_unused rfl hu'.stock₂.next_mem (Nat.lt_succ_self _)
      hu'.stock₂.next_unused rfl rfl hu.1).mono fun _ _ _ _ h => ?_
    exact Prog.alike_pure h
  | false =>
    refine .bind (.mapErr (((nextChainPosition_alike h).mono_error hless).mono
      fun p₁ p₂ u₁ u₂ hu => ?_))
    exact alike_scalarOr fun m₁ m₂ => .atomic (Prog.alike_pure hu.2.spendFault.draw)

/-- A request runs alike in worlds that look the same to its tenant. -/
theorem validateAgentAction_alike (h : InStep env D c rest (n + 1) s₁ s₂) :
    (validateAgentAction env c.proof c.opts).Alike s₁ (validateAgentAction env c.proof c.opts) s₂
      (fun _ _ => InStep env D c rest n) (InStep env D c rest n) := by
  have hnow₁ : s₁.nowSecs = c.nowSecs := by rw [World.nowSecs, h.clock₁, TimedCall.nowSecs]
  have hnow₂ : s₂.nowSecs = c.nowSecs := by rw [World.nowSecs, h.clock₂, TimedCall.nowSecs]
  refine .ofExcept h.less fun _ _ => .atomic ?_
  rw [hnow₁, hnow₂]
  refine .rejectIf h.less fun _ => .rejectIf h.less fun _ => .rejectIf h.less fun _ => .atomic ?_
  simp only [id_eq, hnow₁, hnow₂]
  refine alike_require h.fault_eq ?_ h.spendFault.less fun agent _ => ?_
  · simp only [findAgent, h.agents]
  refine .ofExcept h.spendFault.less fun pt _ => .bind (.mapErr ?_)
  refine alike_select h.spendFault.fault_eq h.spendFault.spendFault.less ?_
  have hring : activeTenantRing env c.opts.tenantId c.nowSecs s₁.spendFault.db =
      activeTenantRing env c.opts.tenantId c.nowSecs s₂.spendFault.db := by
    simp only [activeTenantRing, World.spendFault_db, h.agents]
  rw [hring]
  refine .rejectIf h.spendFault.spendFault.less fun _ => .bind ?_
  refine (recordAction_alike hrand h.spendFault.spendFault).mono fun r₁ r₂ t₁ t₂ ht => ?_
  exact .rejectIf ht fun _ => Prog.alike_pure ht

/-- The verdict is the same in both worlds, and they go on looking the same. -/
theorem Beside.own (h : Beside env D c.tenant (c :: rest) (n + 1) s₁ s₂) :
    (c.exec env s₁).1.isOk = (c.exec env s₂).1.isOk ∧
      Beside env D c.tenant rest n (c.exec env s₁).2 (c.exec env s₂).2 := by
  have hstart : InStep env D c rest (n + 1) (c.start s₁) (c.start s₂) :=
    { toBeside := ⟨h.agents, h.seqs, h.nonces, h.stock₁, h.stock₂⟩
      faults := rfl
      clock₁ := rfl
      clock₂ := rfl }
  obtain ⟨hverdict, hend⟩ := (validateAgentAction_alike hrand hstart).verdict
  exact ⟨hverdict, hend.agents, hend.seqs, fun d hd => hend.nonces d (List.mem_cons_of_mem _ hd),
    hend.stock₁, hend.stock₂⟩

end

end Own

/-! ## Runs -/

section Runs

variable [Float64 F] {env : Env F} {D : Set ℕ} {tenant : String}

/-- Leaving out the requests of the other tenants changes no verdict. -/
theorem verdicts_requestsOf (hrand : Set.InjOn env.randomHex32 D) {run : List TimedCall}
    (hrun : Undisturbed tenant run) {s₁ s₂ : World F}
    (h : Beside env D tenant run run.length s₁ s₂) :
    verdicts env tenant run s₁ = verdicts env tenant (requestsOf tenant run) s₂ := by
  induction run generalizing s₁ s₂ with
  | nil => rfl
  | cons c rest ih =>
    obtain ⟨hlater, hrest⟩ := List.pairwise_cons.1 hrun
    by_cases hc : c.tenant = tenant
    · subst hc
      obtain ⟨hverdict, hnext⟩ := h.own hrand
      have hcons : requestsOf c.tenant (c :: rest) = c :: requestsOf c.tenant rest := by
        simp [requestsOf]
      rw [hcons]
      simp only [verdicts, if_true, hverdict, ih hrest hnext]
    · have hskip : requestsOf tenant (c :: rest) = requestsOf tenant rest := by
        simp [requestsOf, hc]
      rw [hskip]
      simp only [verdicts, hc, if_false]
      exact ih hrest (h.other hrand hc fun d hd => hlater d hd hc)

/-- **Tenants do not interfere**, as long as the nonce table keeps them apart: two runs from
one state that contain the same requests of a tenant, in the same order and at the same
times, and are undisturbed by the requests of the others, give the same verdicts on them. A
request draws one identifier at most, and those that can be drawn do not collide. -/
theorem tenant_verdicts_eq (env : Env F) (tenant : String) (s : World F)
    (run₁ run₂ : List TimedCall) (hrand : Set.InjOn env.randomHex32
      (Set.Ico s.drawn (s.drawn + max run₁.length run₂.length)))
    (hfresh : ∀ k ∈ Set.Ico s.drawn (s.drawn + max run₁.length run₂.length),
      Unused env s.db.receipts k) (hsame : requestsOf tenant run₁ = requestsOf tenant run₂)
    (h₁ : Undisturbed tenant run₁) (h₂ : Undisturbed tenant run₂) :
    verdicts env tenant run₁ s = verdicts env tenant run₂ s := by
  have hself : ∀ run : List TimedCall, run.length ≤ max run₁.length run₂.length →
      Beside env (Set.Ico s.drawn (s.drawn + max run₁.length run₂.length)) tenant run run.length
        s s := by
    intro run hle
    have hstock : Stock env (Set.Ico s.drawn (s.drawn + max run₁.length run₂.length)) run.length
        s := ⟨fun k hk => ⟨by omega, by omega⟩, fun k hk _ => hfresh k hk⟩
    exact ⟨rfl, rfl, fun _ _ _ _ _ => Iff.rfl, hstock, hstock⟩
  rw [verdicts_requestsOf hrand h₁ (hself run₁ (le_max_left _ _)),
    verdicts_requestsOf hrand h₂ (hself run₂ (le_max_right _ _)), hsame]

end Runs

/-! ## Two tenants -/

/-- The sample agent, and an agent of another tenant. -/
def twoTenants : World ℚ :=
  World.steady { Db.empty ℚ with
    agents := [sampleAgent, { sampleAgent with agentId := "agt_2", tenantId := "acme" }] } 0

/-- The other tenant's request, under a nonce of its choice. -/
def acmeCall (nonce : String) : TimedCall where
  proof := { sampleProof with envelope :=
    { sampleProof.envelope with agentId := "agt_2", nonce := nonce } }
  opts := { sampleOptions with tenantId := "acme", agentId := "agt_2" }
  clockMs := 5000
  faults := []
  ties := []

/-- The sample agent's request a second later. -/
def defaultCall : TimedCall := ⟨sampleProof, sampleOptions, 6000, [], []⟩

theorem own_nonce_not_disturbed :
    Undisturbed "default" [acmeCall "nonce-9876543210", defaultCall] ∧
      verdicts (sampleEnv ℚ) "default" [acmeCall "nonce-9876543210", defaultCall] twoTenants =
        verdicts (sampleEnv ℚ) "default" [defaultCall] twoTenants ∧
      verdicts (sampleEnv ℚ) "default" [defaultCall] twoTenants = [true] := by
  have h₁ : Undisturbed "default" [acmeCall "nonce-9876543210", defaultCall] := by
    refine .cons (fun d hd _ _ => ?_) (List.pairwise_singleton _ _)
    cases List.mem_singleton.1 hd
    exact ⟨by decide, fun heq => absurd heq (by decide)⟩
  refine ⟨h₁, ?_, by decide +kernel⟩
  exact tenant_verdicts_eq (sampleEnv ℚ) "default" twoTenants _ _
    (sampleEnv_random_injective ℚ).injOn (by simp [Unused, twoTenants, Db.empty]) rfl h₁
    (List.pairwise_singleton _ _)

/-- The other tenant has used the nonce first: the request is refused as a replay. -/
theorem foreign_nonce_blocks :
    requestsOf "default" [acmeCall defaultCall.nonce, defaultCall] =
        requestsOf "default" [defaultCall] ∧
      verdicts (sampleEnv ℚ) "default" [defaultCall] twoTenants = [true] ∧
      verdicts (sampleEnv ℚ) "default" [acmeCall defaultCall.nonce, defaultCall] twoTenants =
        [false] := by
  refine ⟨rfl, by decide +kernel, by decide +kernel⟩

end SauronID.Action
