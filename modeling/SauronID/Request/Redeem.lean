import SauronID.Lib.Once
import SauronID.Request.Payment

/-!
# A payment authorization is spent once

Runs of the repository's calls on payment authorizations, on either backend, and of
`POST /agent/payment/consume` over them. On SQLite a consumption is one statement under
`BEGIN IMMEDIATE`; on Postgres it is one serializable transaction, tried again when it
could not be serialized. Either way it takes effect at one point of the run, or fails
and has no effect.
-/

namespace SauronID.Request

open Conc Text SauronID.Action

variable {F : Type} [Float64 F]

inductive Backend where
  | sqlite
  | postgres
  deriving DecidableEq, Repr

/-! ## The repository -/

/-- The errors after which a serializable transaction is tried again. -/
def isRetryable : RepoError → Bool
  | .backend s => contains s "40001" || contains s "serialization_failure"
  | .replay _ => false

/-- `txn_serializable_pg`: up to `n` attempts. -/
def txnSerializable {α : Type} (txn : Srv F RepoError α) : ℕ → Option RepoError → Srv F RepoError α
  | 0, lastErr => .fail
      (lastErr.getD (.backend "serialisable retry exhausted with no error captured"))
  | n + 1, _ => do
    match ← txn.attempt with
    | .ok a => return a
    | .error e => if isRetryable e then txnSerializable txn n (some e) else .fail e

/-- The transaction that consumes an authorization. -/
def claimAuthorization (onError : String → RepoError) (tenant authId : String) (now : ℤ) :
    Srv F RepoError Unit := do
  let rows ← (Srv.execute (.consumePaymentAuth tenant authId now)).mapErr onError
  .rejectIf (rows = 0) (.replay "Authorization already consumed or expired")

def pgConsumeError (e : String) : RepoError :=
  if contains e "40001" then .backend "40001 serialization_failure"
  else .backend s!"pg payauth consume: {e}"

def consumePaymentAuthorization (backend : Backend) (tenant authId : String) (now : ℤ) :
    Srv F RepoError Unit := do
  .rejectIf (authId = "") (.backend "missing auth_id")
  match backend with
  | .sqlite => claimAuthorization .backend tenant authId now
  | .postgres => txnSerializable (claimAuthorization pgConsumeError tenant authId now) 3 none

def paymentAuthorizationAgent (tenant authId : String) : Srv F RepoError (Option String) :=
  (Srv.select .other fun db =>
    (db.paymentAuths.find? fun r => r.tenantId == tenant && r.authId == authId).map
      (·.agentId)).mapErr .backend

/-- `insert_payment_authorization`; an authorization starts unspent. -/
def storePaymentAuthorization (row : PaymentAuthRow) : Srv F RepoError Unit := do
  let _ ← (Srv.execute (.insertPaymentAuth { row with consumed := 0 })).mapErr fun e =>
    if isUniqueViolation e then RepoError.replay "payment authorization already exists"
    else .backend e

/-- What the route makes of a failed consumption. -/
def consumeFailure : RepoError → AppError
  | .replay s => .detailed 409 "authorization_already_consumed" s
  | .backend s => .internal s

/-- `agent_payment_consume` over a repository. -/
def redeemAuthorization (backend : Backend) (tenant signer authorizationId : String) :
    Srv F AppError String := do
  let authId := trim authorizationId
  .rejectIf (authId.isEmpty ∨ 128 < authId.utf8ByteSize)
    (.detailed 400 "authorization_id_invalid" "authorization_id is required (1..128 chars)")
  let owner ← (paymentAuthorizationAgent tenant authId).mapErr fun e => .internal e.display
  match owner with
  | none => .fail (.detailed 404 "authorization_not_found"
      "no such payment authorization in this tenant")
  | some agentId =>
    .rejectIf (agentId ≠ signer) (.detailed 403 "authorization_not_yours"
      "payment authorization belongs to a different agent")
    let now ← Srv.nowSecs
    (consumePaymentAuthorization backend tenant authId now).mapErr consumeFailure
    return authId

variable {tenant authId : String}

/-- On SQLite a consumption is its statement. -/
theorem consume_sqlite (hne : authId ≠ "") (now : ℤ) :
    ((consumePaymentAuthorization .sqlite tenant authId now).mapErr consumeFailure :
        Srv F AppError Unit) =
      ((Srv.execute (.consumePaymentAuth tenant authId now)).mapErr AppError.internal >>=
        fun rows => .rejectIf (rows = 0) (.detailed 409 "authorization_already_consumed"
          "Authorization already consumed or expired")) := by
  simp only [consumePaymentAuthorization, Prog.rejectIf, hne, if_false]
  refine congrArg (Prog.step _ _) (funext fun s => ?_)
  dsimp only
  cases s.writeResult (.consumePaymentAuth tenant authId now) with
  | error e => rfl
  | ok n =>
    change (ite (n = 0) _ _ : Srv F RepoError Unit).mapErr consumeFailure = ite (n = 0) _ _
    split <;> rfl

/-- On SQLite the route is the one that the budget's runs consist of. -/
theorem redeemAuthorization_sqlite (tenant signer authorizationId : String) :
    (redeemAuthorization .sqlite tenant signer authorizationId : Srv F AppError String) =
      agentPaymentConsume tenant signer authorizationId := by
  unfold redeemAuthorization agentPaymentConsume Prog.rejectIf
  dsimp only
  split
  · rfl
  · next hid =>
    have hne : trim authorizationId ≠ "" := fun h => hid (.inl (by simp [h]))
    refine congrArg (Prog.step _ _) (funext fun s => ?_)
    simp only [consume_sqlite hne, Prog.bind_assoc]
    cases s.fault <;> rfl

/-! ## Specifications -/

variable {may : May F} {t : History F}

/-- The statement consumes the authorization. -/
def Spends (tenant authId : String) (now : ℤ) (lbl : Label F) (s : World F) : Prop :=
  lbl = .write (.consumePaymentAuth tenant authId now) ∧
    ∃ n, s.writeResult (.consumePaymentAuth tenant authId now) = .ok n ∧ n ≠ 0

variable {now : ℤ}

theorem claimAuthorization_yields {onError : String → RepoError}
    (hmay : ∀ s, may t (.consumePaymentAuth tenant authId now) s) :
    (claimAuthorization onError tenant authId now).Yields (srvRules may) t fun t' _ =>
      ∃ lbl s, (lbl, s) ∈ t' ∧ Spends tenant authId now lbl s := by
  refine .bind (.mapErr (Srv.yields_execute fun s => ⟨hmay s, fun n hn => ?_⟩))
  exact Prog.yields_rejectIf fun hne => ⟨_, s, .head _, rfl, n, hn, hne⟩

/-- A transaction that is tried again ends as one of its attempts. -/
theorem txnSerializable_yields {α : Type} {txn : Srv F RepoError α} {P : History F → α → Prop}
    (htxn : ∀ t', t <:+ t' → txn.Yields (srvRules may) t' P) (n : ℕ) (lastErr : Option RepoError) :
    (txnSerializable txn n lastErr).Yields (srvRules may) t P := by
  induction n generalizing t lastErr with
  | zero => exact Prog.yields_fail
  | succ n ih =>
    refine .bind (.attempt (Prog.Follows.mono (Prog.Follows.suffix (htxn t List.suffix_rfl)) ?_))
    rintro t' r ⟨ht, hr⟩
    cases r with
    | ok a => exact Prog.yields_pure (hr a rfl)
    | error e =>
      dsimp only
      split
      · exact ih (fun t'' ht'' => htxn t'' (ht.trans ht'')) (some e)
      · exact Prog.yields_fail

variable {backend : Backend}

theorem consumePaymentAuthorization_yields
    (hmay : ∀ t' s, t <:+ t' → may t' (.consumePaymentAuth tenant authId now) s) :
    (consumePaymentAuthorization backend tenant authId now).Yields (srvRules may) t fun t' _ =>
      ∃ lbl s, (lbl, s) ∈ t' ∧ Spends tenant authId now lbl s := by
  refine .rejectIf fun _ => ?_
  cases backend with
  | sqlite => exact claimAuthorization_yields fun s => hmay t s List.suffix_rfl
  | postgres =>
    exact txnSerializable_yields (fun t' ht => claimAuthorization_yields fun s => hmay t' s ht) 3
      none

/-- The request has read a row of the authorization with this owner. -/
def ReadsOwner (tenant authId agentId : String) (t : History F) : Prop :=
  ∃ q s, (.select q, s) ∈ t ∧ ∃ r ∈ s.db.paymentAuths,
    r.tenantId = tenant ∧ r.authId = authId ∧ r.agentId = agentId

/-- The route consumes an authorization only after it has read that the signer owns it, at
a time that it read from the clock. -/
theorem redeemAuthorization_yields {signer authorizationId : String}
    (hmay : ∀ t authId now s, ReadsOwner tenant authId signer t → ReadsNow t now →
      may t (.consumePaymentAuth tenant authId now) s) :
    (redeemAuthorization backend tenant signer authorizationId).Yields (srvRules may) t
      fun t' _ => ∃ now lbl s, (lbl, s) ∈ t' ∧ Spends tenant (trim authorizationId) now lbl s := by
  refine .rejectIf fun _ => .bind (.mapErr (.mapErr (Srv.yields_select fun s _ => ?_)))
  cases howner : s.db.paymentAuths.find? fun r =>
      r.tenantId == tenant && r.authId == trim authorizationId with
  | none => exact Prog.yields_fail
  | some r =>
    refine .rejectIf fun hsigner => Srv.yields_nowSecs fun sNow => ?_
    have hkey := List.find?_some howner
    simp only [Bool.and_eq_true, beq_iff_eq] at hkey
    refine (Prog.Yields.mapErr (consumePaymentAuthorization_yields fun t' s' ht => ?_)).andThen
      fun t' _ _ ⟨lbl, s', hs', hspends⟩ => Prog.yields_pure ⟨_, lbl, s', hs', hspends⟩
    refine hmay _ _ _ _ ⟨.other, s, ht.subset (.tail _ (.head _)), r,
      List.mem_of_find?_eq_some howner, hkey.1, hkey.2, not_not.1 hsigner⟩ ?_
    exact ⟨sNow, ht.subset (.head _), rfl⟩

/-! ## Calls -/

inductive RedeemCall where
  | insert (row : PaymentAuthRow)
  | owner (tenant authId : String)
  | consume (tenant authId : String) (now : ℤ)
  | redeem (tenant signer authorizationId : String)

def RedeemCall.prog (backend : Backend) : RedeemCall → Srv F AppError Unit
  | insert row => (storePaymentAuthorization row).mapErr fun e => .internal e.display
  | owner tenant authId => do
    let _ ← (paymentAuthorizationAgent tenant authId).mapErr fun e => .internal e.display
  | consume tenant authId now =>
    (consumePaymentAuthorization backend tenant authId now).mapErr consumeFailure
  | redeem tenant signer authorizationId => do
    let _ ← redeemAuthorization backend tenant signer authorizationId

/-- What a call that has succeeded has done. -/
def RedeemCall.Did (t : History F) : RedeemCall → Prop
  | insert row => ∃ s n, (.write (.insertPaymentAuth { row with consumed := 0 }), s) ∈ t ∧
      s.writeResult (.insertPaymentAuth { row with consumed := 0 }) = .ok n
  | owner _ _ => True
  | consume tenant authId now => ∃ lbl s, (lbl, s) ∈ t ∧ Spends tenant authId now lbl s
  | redeem tenant _ authorizationId =>
    ∃ now lbl s, (lbl, s) ∈ t ∧ Spends tenant (trim authorizationId) now lbl s

/-- The route consumes an authorization of its own tenant that it has read to be the
signer's, at a time it has read from the clock. The calls of the repository are free. -/
def redeemMay (call : Option RedeemCall) (t : History F) (w : Write F) (_ : World F) : Prop :=
  match w with
  | .consumePaymentAuth tenant authId now =>
    ∀ tenant' signer authorizationId, call = some (.redeem tenant' signer authorizationId) →
      tenant = tenant' ∧ ReadsOwner tenant authId signer t ∧ ReadsNow t now
  | _ => True

theorem RedeemCall.prog_yields {calls : List RedeemCall} (i : ℕ)
    (call : RedeemCall) (hcall : calls[i]? = some call) :
    (call.prog backend).Yields (srvRules (redeemMay (F := F) calls[i]?)) [] fun t _ =>
      call.Did t := by
  rw [hcall]
  cases call with
  | insert row =>
    refine .mapErr (.bind (.mapErr (Srv.yields_execute fun s => ⟨trivial, fun n hn => ?_⟩)))
    exact Prog.yields_pure ⟨s, n, .head _, hn⟩
  | owner tenant authId =>
    exact .bind (.mapErr (.mapErr (Srv.yields_select fun s _ => Prog.yields_pure trivial)))
  | consume tenant authId now =>
    exact .mapErr (consumePaymentAuthorization_yields fun _ _ _ => nofun)
  | redeem tenant signer authorizationId =>
    refine (redeemAuthorization_yields fun t authId now s howner hnow => ?_).andThen
      fun t _ _ h => Prog.yields_pure h
    rintro _ _ _ ⟨⟩
    exact ⟨rfl, howner, hnow⟩

/-! ## The rows -/

/-- What a statement can do to the authorizations. -/
inductive AuthsStep : Label F → List PaymentAuthRow → List PaymentAuthRow → Prop
  | same {lbl : Label F} {rows : List PaymentAuthRow} : AuthsStep lbl rows rows
  | insert {row : PaymentAuthRow} {rows : List PaymentAuthRow}
      (hid : ∀ r ∈ rows, r.authId ≠ row.authId) (hjti : ∀ r ∈ rows, r.jti ≠ row.jti) :
      AuthsStep (.write (.insertPaymentAuth row)) rows (rows ++ [row])
  | redeem {tenant authId : String} {now : ℤ} {rows : List PaymentAuthRow} :
      AuthsStep (.write (.consumePaymentAuth tenant authId now)) rows
        (rows.map (·.redeem tenant authId now))

variable {lbl : Label F} {s s' : World F}

theorem authsStep_of_effect (heff : lbl.Effect s s') :
    AuthsStep lbl s.db.paymentAuths s'.db.paymentAuths := by
  obtain ⟨t, ht, hsame⟩ | ⟨w, db, n, rfl, htable, happly, -, hdb⟩ :=
    heff.onTable .paymentAuths nofun
  · rw [hsame.paymentAuths ht]
    exact .same
  rw [hdb]
  cases w with
  | insertPaymentAuth row =>
    simp only [Write.apply] at happly
    split at happly
    · cases happly
    · next hid =>
      split at happly <;> cases happly
      next hjti => exact .insert (by simpa using hid) (by simpa using hjti)
  | consumePaymentAuth tenant authId now =>
    cases happly
    exact .redeem
  | _ => cases htable

@[simp] theorem redeem_authId (r : PaymentAuthRow) (tenant authId : String) (now : ℤ) :
    (r.redeem tenant authId now).authId = r.authId := by
  unfold PaymentAuthRow.redeem
  split <;> rfl

@[simp] theorem redeem_jti (r : PaymentAuthRow) (tenant authId : String) (now : ℤ) :
    (r.redeem tenant authId now).jti = r.jti := by
  unfold PaymentAuthRow.redeem
  split <;> rfl

/-- The unique columns: no two rows have one id, and no two have one `jti`. -/
structure AuthsUnique (rows : List PaymentAuthRow) : Prop where
  ids : (rows.map (·.authId)).Nodup
  jtis : (rows.map (·.jti)).Nodup

variable {rows rows' : List PaymentAuthRow}

omit [Float64 F] in
theorem AuthsStep.unique (h : AuthsStep lbl rows rows') (hu : AuthsUnique rows) :
    AuthsUnique rows' := by
  cases h with
  | same => exact hu
  | insert hid hjti =>
    constructor <;> rw [List.map_append]
    · refine hu.ids.append (List.nodup_singleton _) ?_
      simpa using hid
    · refine hu.jtis.append (List.nodup_singleton _) ?_
      simpa using hjti
  | redeem =>
    constructor
    · simpa [Function.comp_def] using hu.ids
    · simpa [Function.comp_def] using hu.jtis

/-- The row as it is or as it becomes when it is spent. -/
def LaterRow (r r' : PaymentAuthRow) : Prop := r' = r ∨ r' = { r with consumed := 1 }

/-- Every row is still there, spent or not. -/
def RowsKept (rows rows' : List PaymentAuthRow) : Prop := ∀ r ∈ rows, ∃ r' ∈ rows', LaterRow r r'

omit [Float64 F] in
theorem AuthsStep.rowsKept (h : AuthsStep lbl rows rows') : RowsKept rows rows' := by
  intro r hr
  cases h with
  | same => exact ⟨r, hr, .inl rfl⟩
  | insert _ _ => exact ⟨r, List.mem_append_left _ hr, .inl rfl⟩
  | @redeem tenant authId now _ =>
    refine ⟨_, List.mem_map_of_mem hr, ?_⟩
    unfold PaymentAuthRow.redeem
    split
    · exact .inr rfl
    · exact .inl rfl

theorem LaterRow.trans {r r' r'' : PaymentAuthRow} (h : LaterRow r r') (h' : LaterRow r' r'') :
    LaterRow r r'' := by
  rcases h with rfl | rfl
  · exact h'
  · rcases h' with rfl | rfl <;> exact .inr rfl

theorem RowsKept.trans {rows'' : List PaymentAuthRow} (h : RowsKept rows rows')
    (h' : RowsKept rows' rows'') : RowsKept rows rows'' := by
  intro r hr
  obtain ⟨r', hr', hlater⟩ := h r hr
  obtain ⟨r'', hr'', hlater'⟩ := h' r' hr'
  exact ⟨r'', hr'', hlater.trans hlater'⟩

/-- A consumption finds a row of its tenant that is unspent and has not expired, and
leaves it spent. -/
theorem Spends.row (h : Spends tenant authId now lbl s) (heff : lbl.Effect s s') :
    ∃ r ∈ s.db.paymentAuths, r.tenantId = tenant ∧ r.authId = authId ∧ r.consumed = 0 ∧
      now < r.expiresAt ∧ { r with consumed := 1 } ∈ s'.db.paymentAuths := by
  obtain ⟨rfl, n, hresult, hn⟩ := h
  cases heff
  rcases World.afterWrite_cases s (.consumePaymentAuth tenant authId now) with
    ⟨e, herr, -⟩ | ⟨db, m, -, happly, hm, hdb⟩
  · cases herr.symm.trans hresult
  cases hm.symm.trans hresult
  cases happly
  obtain ⟨r, hr, hredeem⟩ := List.countP_pos_iff.1 (Nat.pos_of_ne_zero hn)
  have hrow := id hredeem
  simp only [PaymentAuthRow.redeemable, Bool.and_eq_true, beq_iff_eq, decide_eq_true_eq] at hrow
  obtain ⟨⟨⟨htenant, hid⟩, hunspent⟩, hlive⟩ := hrow
  refine ⟨r, hr, htenant, hid, hunspent, hlive, ?_⟩
  rw [hdb]
  exact List.mem_map.2 ⟨r, hr, by simp [PaymentAuthRow.redeem, hredeem]⟩

/-! ## Runs -/

section Runs

variable (calls : List RedeemCall)

/-- A consumption is of an unspent row of its tenant that has not expired. One by the route
is of a row of the signer, at a time that the request has read from the clock. -/
def SpentRightly (log : RunLog F) (e : LogEntry F) : Prop :=
  ∀ tenant authId now, Spends tenant authId now e.label e.before →
    ∃ r ∈ e.before.db.paymentAuths, r.tenantId = tenant ∧ r.authId = authId ∧ r.consumed = 0 ∧
      now < r.expiresAt ∧
      ∀ tenant' signer authorizationId,
        calls[e.thread]? = some (.redeem tenant' signer authorizationId) →
        tenant = tenant' ∧ r.agentId = signer ∧
          ∃ s, ⟨e.thread, .clock, s⟩ ∈ log ∧ now = s.nowSecs

/-- The unique columns are kept, no row is ever lost, and consumptions are right. -/
def AuthsInv (s : World F) (log : RunLog F) : Prop :=
  AuthsUnique s.db.paymentAuths ∧
    (∀ e ∈ log, RowsKept e.before.db.paymentAuths s.db.paymentAuths) ∧
    ∀ e ∈ log, SpentRightly calls log e

variable {calls} {log : RunLog F}

theorem SpentRightly.cons {e e' : LogEntry F} (h : SpentRightly calls log e) :
    SpentRightly calls (e' :: log) e := by
  intro tenant authId now hspends
  obtain ⟨r, hr, htenant, hid, hunspent, hlive, hroute⟩ := h tenant authId now hspends
  refine ⟨r, hr, htenant, hid, hunspent, hlive, fun tenant' signer authorizationId hcall => ?_⟩
  obtain ⟨ht, hs, s, hlog, hnow⟩ := hroute tenant' signer authorizationId hcall
  exact ⟨ht, hs, s, .tail _ hlog, hnow⟩

variable {s : World F}

/-- The row that the route has read is the one it consumes. -/
theorem spentRightly_step {s' : World F} {i : ℕ}
    {lbl : Label F} (h : AuthsInv calls s log) (heff : lbl.Effect s s')
    (hmay : (srvRules (redeemMay calls[i]?)).may (threadTrace i log) lbl s) :
    SpentRightly calls (⟨i, lbl, s⟩ :: log) ⟨i, lbl, s⟩ := by
  intro tenant authId now hspends
  obtain ⟨r, hr, htenant, hid, hunspent, hlive, -⟩ := hspends.row heff
  refine ⟨r, hr, htenant, hid, hunspent, hlive, fun tenant' signer authorizationId hcall => ?_⟩
  obtain ⟨rfl, -⟩ := hspends
  obtain ⟨ht, ⟨q, s₀, hs₀, r₀, hr₀, -, hid₀, hagent⟩, sNow, hclock, hnow⟩ :=
    hmay tenant' signer authorizationId hcall
  refine ⟨ht, ?_, sNow, .tail _ (mem_threadTrace.1 hclock), hnow⟩
  obtain ⟨r', hr', hlater⟩ := h.2.1 _ (mem_threadTrace.1 hs₀) r₀ hr₀
  have hid' : r'.authId = r₀.authId := by rcases hlater with rfl | rfl <;> rfl
  have hagent' : r'.agentId = r₀.agentId := by rcases hlater with rfl | rfl <;> rfl
  cases List.inj_on_of_nodup_map h.1.ids hr hr' (hid.trans (hid'.trans hid₀).symm)
  exact hagent'.trans hagent

theorem authsInv_invariant :
    TraceInvariant (fun i => srvRules (redeemMay (F := F) calls[i]?)) (fun _ _ => True)
      (AuthsInv calls) where
  tick _ h := h
  step := by
    rintro s log i lbl s' h - heff hmay
    have hstep := authsStep_of_effect heff
    refine ⟨hstep.unique h.1, fun e he => ?_, fun e he => ?_⟩
    · rcases List.mem_cons.1 he with rfl | he
      · exact hstep.rowsKept
      · exact (h.2.1 e he).trans hstep.rowsKept
    · rcases List.mem_cons.1 he with rfl | he
      · exact spentRightly_step h heff hmay
      · exact (h.2.2 e he).cons

/-- The entry consumes the authorization. -/
def SpendsAuth (authId : String) (e : LogEntry F) : Prop :=
  ∃ tenant now, Spends tenant authId now e.label e.before

theorem auth_onceRules (authId : String) :
    OnceRules (fun i => srvRules (redeemMay (F := F) calls[i]?)) (fun _ _ => True)
      (AuthsInv calls) (SpendsAuth authId) (fun _ => True)
      (fun s => ∃ r ∈ s.db.paymentAuths, r.authId = authId ∧ r.consumed ≠ 0) where
  live_of_tick _ _ := trivial
  tick_stored _ h := h
  live_of_step _ _ := trivial
  step_stored := by
    rintro s log i lbl s' - heff - - ⟨r, hr, hid, hspent⟩
    obtain ⟨r', hr', hlater⟩ := (authsStep_of_effect heff).rowsKept r hr
    refine ⟨r', hr', ?_⟩
    rcases hlater with rfl | rfl
    · exact ⟨hid, hspent⟩
    · exact ⟨hid, one_ne_zero⟩
  uses_stored := by
    rintro i lbl s s' heff ⟨tenant, now, hspends⟩
    obtain ⟨r, -, -, hid, -, -, hr'⟩ := hspends.row heff
    exact ⟨_, hr', hid, one_ne_zero⟩
  uses_live _ _ _ _ _ := trivial
  uses_fresh := by
    rintro s log i lbl hJ hmay - ⟨tenant, now, hspends⟩ ⟨r', hr', hid', hspent⟩
    have hlbl : lbl = .write (.consumePaymentAuth tenant authId now) := hspends.1
    have heff : lbl.Effect s (s.afterWrite (.consumePaymentAuth tenant authId now)) := by
      rw [hlbl]
      rfl
    obtain ⟨r, hr, -, hid, hunspent, -⟩ := hspends.row heff
    cases List.inj_on_of_nodup_map hJ.1.ids hr hr' (hid.trans hid'.symm)
    exact hspent hunspent

/-- The entry issues an authorization for the `jti`. -/
def Issues (jti : String) (e : LogEntry F) : Prop :=
  ∃ row n, row.jti = jti ∧ e.label = .write (.insertPaymentAuth row) ∧
    e.before.writeResult (.insertPaymentAuth row) = .ok n

/-- An authorization that is issued is new, and stored. -/
theorem insertPaymentAuth_ok {row : PaymentAuthRow} {n : ℕ}
    (h : s.writeResult (.insertPaymentAuth row) = .ok n) :
    (∀ r ∈ s.db.paymentAuths, r.jti ≠ row.jti) ∧
      row ∈ (s.afterWrite (.insertPaymentAuth row)).db.paymentAuths := by
  rcases World.afterWrite_cases s (.insertPaymentAuth row) with
    ⟨e, herr, -⟩ | ⟨db, m, -, happly, -, hdb⟩
  · cases herr.symm.trans h
  simp only [Write.apply] at happly
  split at happly
  · cases happly
  · split at happly <;> cases happly
    next hjti =>
    rw [hdb]
    exact ⟨by simpa using hjti, List.mem_append_right _ (.head _)⟩

theorem jti_onceRules (jti : String) :
    OnceRules (fun i => srvRules (redeemMay (F := F) calls[i]?)) (fun _ _ => True)
      (AuthsInv calls) (Issues jti) (fun _ => True)
      (fun s => ∃ r ∈ s.db.paymentAuths, r.jti = jti) where
  live_of_tick _ _ := trivial
  tick_stored _ h := h
  live_of_step _ _ := trivial
  step_stored := by
    rintro s log i lbl s' - heff - - ⟨r, hr, hjti⟩
    obtain ⟨r', hr', hlater⟩ := (authsStep_of_effect heff).rowsKept r hr
    refine ⟨r', hr', ?_⟩
    rcases hlater with rfl | rfl <;> exact hjti
  uses_stored := by
    rintro i lbl s s' heff ⟨row, n, hjti, rfl, hn⟩
    cases heff
    exact ⟨row, (insertPaymentAuth_ok hn).2, hjti⟩
  uses_live _ _ _ _ _ := trivial
  uses_fresh := by
    rintro s log i lbl - - - ⟨row, n, hjti, rfl, hn⟩ ⟨r, hr, hjti'⟩
    exact (insertPaymentAuth_ok hn).1 r hr (hjti'.trans hjti.symm)

end Runs

/-- The calls run together from `start`. -/
def redeemRun (backend : Backend) (start : World F) (calls : List RedeemCall)
    (sched : List Event) : SrvConfig F AppError Unit :=
  (Config.init start (calls.map (RedeemCall.prog backend))).run sched

/-- **Single spend.** On either backend an authorization is consumed at most once, under
its tenant and before it expires, and by the route only for the agent it was issued to; a
call that succeeds has an entry that says so, and no two authorizations are issued for one
`jti`. -/
theorem authorization_spent_once (backend : Backend) (start : World F) (calls : List RedeemCall)
    (sched : List Event) (hstart : AuthsUnique start.db.paymentAuths) :
    (∀ authId, (redeemRun backend start calls sched).log.Pairwise fun e e' =>
        ¬(SpendsAuth authId e ∧ SpendsAuth authId e')) ∧
      (∀ e ∈ (redeemRun backend start calls sched).log,
        SpentRightly calls (redeemRun backend start calls sched).log e) ∧
      (∀ i call, calls[i]? = some call →
        (redeemRun backend start calls sched).result i = some (.ok ()) →
        call.Did (threadTrace i (redeemRun backend start calls sched).log)) ∧
      (∀ jti, (redeemRun backend start calls sched).log.Pairwise fun e e' =>
        ¬(Issues jti e ∧ Issues jti e')) ∧
      AuthsUnique (redeemRun backend start calls sched).world.db.paymentAuths := by
  have hcalls := @RedeemCall.prog_yields F _ backend calls
  have hinit : AuthsInv calls start [] := ⟨hstart, List.forall_mem_nil _, List.forall_mem_nil _⟩
  have hlog := LogOk.of_true (redeemRun backend start calls sched).log
  obtain ⟨⟨hunique, -, hright⟩, hdid⟩ := authsInv_invariant.run_calls hcalls hinit sched hlog
  have honce : ∀ {uses : Entry (Label F) (World F) → Prop} {stored : World F → Prop},
      OnceRules (fun i => srvRules (redeemMay calls[i]?)) (fun _ _ => True) (AuthsInv calls) uses
        (fun _ => True) stored →
      (redeemRun backend start calls sched).log.Pairwise fun e e' => ¬(uses e ∧ uses e') :=
    fun hrules => ((hrules.invariant authsInv_invariant).run_calls hcalls
      ⟨hinit, List.forall_mem_nil _, .nil⟩ sched hlog).1.2.2
  exact ⟨fun authId => honce (auth_onceRules authId), hright,
    fun i call hcall hr => hdid i call () hcall hr, fun jti => honce (jti_onceRules jti), hunique⟩

/-- An authorization of the agent "agt_1", good until second 100. -/
def sampleAuth : PaymentAuthRow where
  authId := "payauth_1"
  tenantId := "default"
  agentId := "agt_1"
  jti := "t"
  amountMinor := 100
  currency := "EUR"
  merchantId := ""
  paymentRef := "ref"
  createdAt := 0
  expiresAt := 100
  consumed := 0

/-- The fifth statement that is executed could not be serialized. -/
def redeemWorld : World ℚ :=
  { World.steady (Db.empty ℚ) 50000 with faults := [none, none, none, none, some "40001"] }

/-- The authorization is issued and redeemed twice. -/
def sampleRedeem (sched : List Event) : SrvConfig ℚ AppError Unit :=
  redeemRun .postgres redeemWorld
    [.insert sampleAuth, .redeem "default" "agt_1" "payauth_1",
      .redeem "default" "agt_1" "payauth_1"] sched

def redeemInTurn : List Event :=
  [.step 0] ++ List.replicate 3 (.step 1) ++ List.replicate 4 (.step 2)

theorem redeemed_once :
    (sampleRedeem redeemInTurn).result 1 = some (.ok ()) ∧
      (sampleRedeem redeemInTurn).result 2 ≠ some (.ok ()) ∧
      (sampleRedeem redeemInTurn).log.Pairwise fun e e' =>
        ¬(SpendsAuth "payauth_1" e ∧ SpendsAuth "payauth_1" e') :=
  ⟨by decide +kernel, by decide +kernel, (authorization_spent_once .postgres redeemWorld _
    redeemInTurn ⟨List.nodup_nil, List.nodup_nil⟩).1 "payauth_1"⟩

end SauronID.Request
