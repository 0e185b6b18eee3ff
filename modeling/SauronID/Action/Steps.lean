import SauronID.Action.Anon

/-!
# What an action call does, statement by statement

`ActStep` is the protocol of one call of the action path, on either of its two
paths: which statements it may send, in which order, with which values. The ghost
state `ActLocal` is what the call has learnt and done so far. Both paths keep to
it (`validateAgentAction_follows`, `submitAnonAction_follows`), so every property
of a run of action calls is a property of `ActStep`.
-/

namespace SauronID.Action

open Conc Text

variable {F : Type} [Float64 F] (env : Env F)

/-- How far a call has come with its chain position. -/
inductive ChainPhase where
  /-- The chain has not been read. -/
  | idle
  /-- The head was read: its `seq` and id, or none. -/
  | head (h : Option (ℤ × String))
  /-- The head's receipt was loaded; the position is known. -/
  | placed (seq : ℤ) (prev : String)
  /-- The receipt has its id, the `k`-th drawn. -/
  | named (seq : ℤ) (prev : String) (k : ℕ)
  /-- The receipt was sent to the database. -/
  | stored
  deriving DecidableEq

/-- The position a call will use, once it needs no further statement to know it. -/
def ChainPhase.position : ChainPhase → Option (ℤ × String)
  | head none => some (1, "")
  | head (some (0, _)) => some (1, "")
  | placed seq prev => some (seq, prev)
  | _ => none

/-- What one call has learnt and done. -/
structure ActLocal where
  /-- The last reading of the clock. -/
  now : Option ℤ
  /-- The agent's row, as read. -/
  agent : Option AgentRow
  /-- The nonce was inserted. -/
  spent : Bool
  chain : ChainPhase

def ActLocal.init : ActLocal := ⟨none, none, false, .idle⟩

/-- The data of a call its statements depend on. -/
structure CallInfo where
  tenant : String
  nonceKey : String
  expiresAt : ℤ
  deriving DecidableEq, Repr

/-- The statements of one action call. -/
inductive ActStep (c : CallInfo) : ActLocal → Label F → World F → World F → ActLocal → Prop
  | clock (l s) : ActStep c l .clock s s { l with now := some s.nowSecs }
  | query (l s) : ActStep c l (.select .other) s s.spendFault l
  | usage (l s t r k) : ActStep c l (.select (.usage t r k)) s s.spendFault l
  | agent (l s t a) : ActStep c l (.select (.agent t a)) s s.spendFault
      { l with agent := findAgent t a s.db }
  | headFailed (l s) : l.chain = .idle →
      ActStep c l (.select (.chainHead c.tenant)) s s.spendTie l
  | head (l s) : l.chain = .idle →
      ActStep c l (.select (.chainHead c.tenant)) s s.spendTie
        { l with chain := .head (chainHead c.tenant s.db s.tie) }
  | loadFailed (l s id) : ActStep c l (.select (.loadReceipt id)) s s.spendFault l
  | load (l s q id r) : l.chain = .head (some (q, id)) → q ≠ 0 → findReceipt s.db id = some r →
      ActStep c l (.select (.loadReceipt id)) s s.spendFault
        { l with chain := .placed (q + 1) (receiptChainHash env r) }
  | draw (l s seq prev) : l.chain.position = some (seq, prev) →
      ActStep c l .draw s { s with drawn := s.drawn + 1 }
        { l with chain := .named seq prev s.drawn }
  | prune (l s now) : l.now = some now →
      ActStep c l (.write (.pruneNonces now)) s (s.afterWrite (.pruneNonces now)) l
  | spendFailed (l s row) : row.nonce = c.nonceKey → row.expiresAt = c.expiresAt →
      (∃ e, s.writeResult (.insertNonce row) = .error e) →
      ActStep c l (.write (.insertNonce row)) s (s.afterWrite (.insertNonce row)) l
  | spend (l s row n) : row.nonce = c.nonceKey → row.expiresAt = c.expiresAt →
      l.spent = false → s.writeResult (.insertNonce row) = .ok n →
      ActStep c l (.write (.insertNonce row)) s (s.afterWrite (.insertNonce row))
        { l with spent := true }
  | store (l s row anon seq prev k) : l.spent = true → l.chain = .named seq prev k →
      row.tenantId = c.tenant → row.seq = seq → row.prevHash = prev →
      row.receiptId = "ar_" ++ env.randomHex32 k → l.now = some row.timestamp →
      ActStep c l (.write (.upsertReceipt row anon)) s (s.afterWrite (.upsertReceipt row anon))
        { l with chain := .stored }

variable {env} {c : CallInfo} {l : ActLocal}

/-! ## The parts of a call -/

variable {tenant : String}

theorem nextChainPosition_follows (ht : tenant = c.tenant)
    (hidle : l.chain = .idle) {Q : ActLocal → Except String (ℤ × String) → Prop}
    (herr : ∀ l' e, Q l' (.error e))
    (hok : ∀ seq prev ph, ph.position = some (seq, prev) →
      Q { l with chain := ph } (.ok (seq, prev))) :
    (nextChainPosition env tenant).Follows (ActStep env c) l Q := by
  subst ht
  refine .bind (Srv.follows_selectTop fun s => ?_)
  cases hf : s.fault with
  | some e => exact ⟨l, .headFailed l s hidle, by simp, fun e _ => herr l e⟩
  | none =>
    refine ⟨_, .head l s hidle, fun _ => ?_, by simp⟩
    cases hh : chainHead c.tenant s.db s.tie with
    | none => exact Prog.follows_pure.2 (hok 1 "" _ rfl)
    | some p =>
      obtain ⟨q, id⟩ := p
      by_cases hq : q = 0
      · subst hq
        exact Prog.follows_pure.2 (hok 1 "" _ rfl)
      · simp only [hq, if_false]
        refine .bind (Srv.follows_select fun s' => ?_)
        cases hr : findReceipt s'.db id with
        | none =>
          exact ⟨_, .loadFailed _ _ _, fun _ => Prog.follows_fail.2 (herr _ _), fun e _ => herr _ e⟩
        | some r =>
          exact ⟨_, .load _ s' q id r rfl hq hr, fun _ => Prog.follows_pure.2 (hok _ _ _ rfl),
            fun e _ => herr _ e⟩

variable {now : ℤ}

theorem spendNonce_follows {row : NonceRow} {replay : String} {α : Type}
    {k : Unit → Srv F AppError α} {Q : ActLocal → Except AppError α → Prop}
    (hnow : l.now = some now) (hkey : row.nonce = c.nonceKey) (hexp : row.expiresAt = c.expiresAt)
    (hspent : l.spent = false) (herr : ∀ l' e, Q l' (.error e))
    (hok : (k ()).Follows (ActStep env c) { l with spent := true } Q) :
    (spendNonce row now replay >>= k).Follows (ActStep env c) l Q := by
  refine .bind (.bind (.mapErr (Srv.follows_execute fun s => ⟨l, .prune l s now hnow, ?_⟩)))
  cases s.writeResult (.pruneNonces now) with
  | error e => exact herr l _
  | ok n =>
    refine .bind (.mapErr (Srv.follows_execute fun s' => ?_))
    cases hres : s'.writeResult (.insertNonce row) with
    | error e => exact ⟨l, .spendFailed l s' row hkey hexp ⟨e, hres⟩, herr l _⟩
    | ok m =>
      exact ⟨_, .spend l s' row m hkey hexp hspent hres, Prog.follows_pure.2 hok⟩

/-- The identity of an action call on the identity path. -/
def identityInfo (proof : AgentActionProof) (opts : ValidateAgentActionOptions) : CallInfo :=
  ⟨opts.tenantId, proof.envelope.nonce, proof.envelope.expiresAt⟩

variable {opts : ValidateAgentActionOptions} {ki : String}

theorem recordAction_follows {proof : AgentActionProof} {ok : Bool}
    {Q : ActLocal → Except AppError ActionReceipt → Prop} (hnow : l.now = some now)
    (hspent : l.spent = false) (hidle : l.chain = .idle) (herr : ∀ l' e, Q l' (.error e))
    (hok : ∀ sp ph r, (ok = true → ph = .stored) →
      Q { l with spent := sp, chain := ph } (.ok r)) :
    (recordAction env proof opts ki now ok).Follows (ActStep env (identityInfo proof opts)) l
      Q := by
  unfold recordAction
  cases ok with
  | true =>
    refine spendNonce_follows hnow rfl rfl hspent herr ?_
    refine .bind (.mapErr (nextChainPosition_follows rfl (by exact hidle)
      (fun l' e => herr l' _) ?_))
    intro seq prev ph hph
    refine .bind (Srv.follows_scalarOr_silent (fun s => .query _ s) fun mandate => ?_)
    refine Srv.follows_random fun s => ⟨_, .draw _ s seq prev hph, ?_⟩
    refine .bind (.mapErr (Srv.follows_execute fun s' =>
      ⟨_, .store _ s' _ _ seq prev s.drawn rfl rfl rfl rfl rfl rfl hnow, ?_⟩))
    cases s'.writeResult _ with
    | error e => exact herr _ _
    | ok n => exact Prog.follows_pure.2 (hok _ _ _ fun _ => rfl)
  | false =>
    refine .bind (.mapErr (nextChainPosition_follows rfl (by exact hidle)
      (fun l' e => herr l' _) ?_))
    intro seq prev ph hph
    refine .bind (Srv.follows_scalarOr_silent (fun s => .query _ s) fun mandate => ?_)
    refine Srv.follows_random fun s => ⟨_, .draw _ s seq prev hph, ?_⟩
    exact Prog.follows_pure.2 (hok l.spent _ _ (by simp))

omit [Float64 F] in
/-- A row that passes the checks is an unrevoked row of the expected owner. -/
theorem checkAgentRow_ok {agent : AgentRow} {pt : Bytes}
    (h : checkAgentRow env agent opts ki now = .ok pt) :
    agent.humanKeyImage = opts.humanKeyImage ∧ agent.revoked = 0 := by
  by_contra hne
  have hbad : agent.humanKeyImage ≠ opts.humanKeyImage ∨ agent.revoked ≠ 0 ∨
      agent.expiresAt < now := by tauto
  simp only [checkAgentRow, hbad, if_true] at h
  cases h

/-- **The identity path keeps to the protocol.** When it succeeds it has read an
unrevoked row of the agent and has sent its receipt to the database. -/
theorem validateAgentAction_follows (proof : AgentActionProof) (opts : ValidateAgentActionOptions) :
    (validateAgentAction env proof opts).Follows (ActStep env (identityInfo proof opts))
      ActLocal.init fun l r => ∀ v, r = .ok v → l.chain = .stored ∧
        ∃ a, l.agent = some a ∧ a.humanKeyImage = opts.humanKeyImage ∧ a.revoked = 0 := by
  refine .ofExcept (by simp) fun _ _ => ?_
  refine Srv.follows_nowSecs fun s => ⟨_, .clock _ s, ?_⟩
  refine .rejectIf (by simp) fun _ => .rejectIf (by simp) fun _ => .rejectIf (by simp) fun _ => ?_
  refine Srv.follows_nowSecs fun s => ⟨_, .clock _ s, ?_⟩
  refine Srv.follows_require fun s => ⟨_, .agent _ s _ _, by simp, fun agent _ hagent => ?_⟩
  refine .ofExcept (by simp) fun pt hpt => ?_
  refine .bind (.mapErr (Srv.follows_select_silent (fun s => .query _ s) (fun db => ?_) (by simp)))
  refine .rejectIf (by simp) fun _ => .bind ?_
  refine recordAction_follows rfl rfl rfl (by simp) fun sp ph r hstored => ?_
  refine .rejectIf (by simp) fun hring => Prog.follows_pure.2 fun v _ => ?_
  exact ⟨hstored (by simpa using hring), agent, hagent, checkAgentRow_ok hpt⟩

/-! ## The anonymous path -/

/-- The identity of an action call on the anonymous path. -/
def anonInfo (proof : AnonActionProof) : CallInfo :=
  ⟨proof.envelope.tenantId, anonNonceKey proof, proof.envelope.expiresAt⟩

variable {ringId : String}

theorem getRing_follows :
    (getRing env tenant ringId).Follows (ActStep env c) l fun l' _ => l' = l := by
  refine .bind (.attempt (Srv.follows_select_silent (fun s => .query l s) (fun db => ?_)
    fun e => Prog.follows_pure.2 rfl))
  cases db.rings.find? fun r => r.tenantId == tenant && r.ringId == ringId with
  | none => exact Prog.follows_pure.2 rfl
  | some r =>
    cases h : env.parseRingRule r.ruleJson with
    | ok rule => simp [h]
    | error e => simp [h]

theorem listMemberPoints_follows :
    (listMemberPoints env tenant ringId : Srv F String _).Follows (ActStep env c) l
      fun l' _ => l' = l := by
  refine .bind (.mapErr (Srv.follows_select_silent (fun s => .query l s) (fun db => ?_)
    fun e => rfl))
  exact Prog.follows_done.2 rfl

variable {e : AnonActionEnvelope}

/-- Admission by a ring only reads. -/
theorem admitByRing_follows {sig : RingSignature} {texts : RingErrors} :
    (admitByRing env e ringId sig texts).Follows (ActStep env c) l fun l' _ => l' = l := by
  refine .bind (.mapErr (getRing_follows.mono fun l' r hl => ?_))
  subst hl
  cases r with
  | error err => rfl
  | ok found =>
    refine .okOr (fun _ => rfl) fun rule _ => ?_
    cases evaluateRule rule.1 e.action e.configDigest with
    | deny why => exact Prog.follows_fail.2 rfl
    | allow =>
      refine .bind (.mapErr (listMemberPoints_follows.mono fun l'' r hl => ?_))
      subst hl
      cases r with
      | error err => rfl
      | ok members =>
        exact .rejectIf (fun _ => rfl) fun _ => .rejectIf (fun _ => rfl) fun _ =>
          Prog.follows_pure.2 rfl

theorem admitByAlsoRings_follows (rings : List (String × RingSignature)) :
    (admitByAlsoRings env e rings).Follows (ActStep env c) l fun l' _ => l' = l := by
  induction rings with
  | nil => exact Prog.follows_pure.2 rfl
  | cons ring rest ih =>
    refine .bind (admitByRing_follows.mono fun l' r hl => ?_)
    subst hl
    cases r with
    | error err => rfl
    | ok rule =>
      refine .bind (ih.mono fun l'' r hl => ?_)
      cases r with
      | error err => exact hl
      | ok versions => exact Prog.follows_pure.2 hl

/-- **The anonymous path keeps to the protocol.** -/
theorem validateAnonAction_follows (proof : AnonActionProof)
    (hnow : l.now = some now) (hspent : l.spent = false) (hidle : l.chain = .idle) :
    (validateAnonAction env proof now).Follows (ActStep env (anonInfo proof)) l
      fun l' r => ∀ v, r = .ok v → l'.chain = .stored := by
  refine .ofExcept (by simp) fun _ _ => ?_
  refine .bind (admitByRing_follows.mono fun l₁ r hl => ?_)
  subst hl
  cases r with
  | error err => simp
  | ok rule =>
    refine .bind ((admitByAlsoRings_follows _).mono fun l₂ r hl => ?_)
    subst hl
    cases r with
    | error err => simp
    | ok also =>
      refine .bind (.mapErr (Srv.follows_scalarOr_silent (fun s => .usage _ s _ _ _)
        fun totals => ?_))
      dsimp only
      cases budgetExceeded totals rule.1.budgets with
      | some why => exact Prog.follows_fail.2 (by simp)
      | none =>
        refine spendNonce_follows hnow rfl rfl hspent (by simp) ?_
        refine .bind (.mapErr (nextChainPosition_follows rfl (by exact hidle) (by simp) ?_))
        intro seq prev ph hph
        refine Srv.follows_random fun s => ⟨_, .draw _ s seq prev hph, ?_⟩
        refine .bind (.mapErr (Srv.follows_execute fun s' =>
          ⟨_, .store _ s' _ _ seq prev s.drawn rfl rfl rfl rfl rfl rfl hnow, ?_⟩))
        cases s'.writeResult _ with
        | error e => simp
        | ok n => exact Prog.follows_pure.2 fun _ _ => rfl

/-- `submit_anon_action` reads the clock once and runs the anonymous path. -/
theorem submitAnonAction_follows (tenant : String) (proof : AnonActionProof) :
    (submitAnonAction env tenant proof).Follows (ActStep env (anonInfo proof)) ActLocal.init
      fun l r => ∀ v, r = .ok v → l.chain = .stored := by
  refine .rejectIf (by simp) fun _ => .rejectIf (by simp) fun _ => ?_
  exact Srv.follows_nowSecs fun s => ⟨_, .clock _ s, validateAnonAction_follows proof rfl rfl rfl⟩

/-! ## Pools of action calls -/

/-- A call of the action path. -/
inductive ActionCall where
  | identity (proof : AgentActionProof) (opts : ValidateAgentActionOptions)
  | anonymous (tenant : String) (proof : AnonActionProof)

def ActionCall.info : ActionCall → CallInfo
  | identity proof opts => identityInfo proof opts
  | anonymous _ proof => anonInfo proof

/-- The call as a program; the result is its receipt. -/
def ActionCall.prog (env : Env F) : ActionCall → Srv F AppError ActionReceipt
  | identity proof opts => do
    let validated ← validateAgentAction env proof opts
    return validated.receipt
  | anonymous tenant proof => submitAnonAction env tenant proof

/-- What the `i`-th call of a pool is about. -/
def callInfo (calls : List ActionCall) (i : ℕ) : CallInfo :=
  (calls[i]?.map ActionCall.info).getD ⟨"", "", 0⟩

theorem ActionCall.follows (call : ActionCall) :
    (call.prog env).Follows (ActStep env call.info) ActLocal.init
      fun l r => ∀ v, r = .ok v → l.chain = .stored := by
  cases call with
  | identity proof opts =>
    refine .bind ((validateAgentAction_follows proof opts).mono fun l r h => ?_)
    cases r with
    | error e => simp
    | ok v => exact Prog.follows_pure.2 fun _ _ => (h v rfl).1
  | anonymous tenant proof => exact submitAnonAction_follows tenant proof

theorem actionPool_follows (calls : List ActionCall) :
    PoolFollows (fun i => ActStep env (callInfo calls i))
      (fun _ l r => ∀ v, r = .ok v → l.chain = .stored) (calls.map (ActionCall.prog env))
      fun _ => ActLocal.init := by
  intro i p hp
  rw [List.getElem?_map] at hp
  cases hc : calls[i]? with
  | none => simp [hc] at hp
  | some call =>
    have hpc : ActionCall.prog env call = p := by simpa [hc] using hp
    rw [← hpc]
    simpa [callInfo, hc] using call.follows

end SauronID.Action
