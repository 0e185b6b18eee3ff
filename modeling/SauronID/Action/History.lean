import SauronID.Action.Steps
import SauronID.Model.Rules

/-!
# What a validated action says about the agent

A request that validates an agent action has, on its way, read an unrevoked row of the
agent, and what it stores is a receipt of the envelope it was given. Stated on the history
of the request, so that the routes that validate an action inherit it.
-/

namespace SauronID.Action

open Conc Text

variable {F : Type} [Float64 F] {env : Env F}

/-- The request has read a row of the agent that was not revoked. -/
def SawActive (tenant agentId : String) (t : History F) : Prop :=
  ∃ s, (.select (.agent tenant agentId), s) ∈ t ∧
    ∃ row ∈ s.db.agents, row.agentId = agentId ∧ row.tenantId = tenant ∧ row.revoked = 0

variable {tenant agentId : String} {row : AgentRow}

omit [Float64 F] in
/-- A lookup finds a row of the agent. -/
theorem findAgent_eq_some {db : Db F} (h : findAgent tenant agentId db = some row) :
    row ∈ db.agents ∧ row.agentId = agentId ∧ row.tenantId = tenant := by
  have hkey := List.find?_some h
  simp only [Bool.and_eq_true, beq_iff_eq] at hkey
  exact ⟨List.mem_of_find?_eq_some h, hkey⟩

omit [Float64 F] in
theorem SawActive.of_findAgent {t : History F} {s : World F}
    (hs : (.select (.agent tenant agentId), s) ∈ t) (h : findAgent tenant agentId s.db = some row)
    (hrev : row.revoked = 0) : SawActive tenant agentId t := by
  obtain ⟨hmem, hid, htenant⟩ := findAgent_eq_some h
  exact ⟨s, hs, row, hmem, hid, htenant, hrev⟩

variable {t' : History F}

omit [Float64 F] in
theorem SawActive.mono {t : History F}
    (h : SawActive tenant agentId t) (ht : t <:+ t') : SawActive tenant agentId t' := by
  obtain ⟨s, hs, hrow⟩ := h
  exact ⟨s, ht.subset hs, hrow⟩

variable {may : May F} {t : History F}

theorem nextChainPosition_yields :
    (nextChainPosition env tenant).Yields (srvRules may) t fun _ _ => True := by
  refine .bind (Srv.yields_selectTop fun s _ => ?_)
  split
  · exact Prog.yields_pure trivial
  · split
    · exact Prog.yields_pure trivial
    · refine .bind (Srv.yields_select fun s _ => ?_)
      split
      · exact Prog.yields_fail
      · exact Prog.yields_pure trivial

variable {now : ℤ}

theorem spendNonce_yields (hmay : MayWrite .nonces may) {row : NonceRow}
    {replay : String} : (spendNonce row now replay).Yields (srvRules may) t fun _ _ => True := by
  refine .bind (.mapErr (Srv.yields_execute fun s => ⟨hmay _ _ _ rfl, fun n _ => ?_⟩))
  refine .bind (.mapErr (Srv.yields_execute fun s => ⟨hmay _ _ _ rfl, fun n _ => ?_⟩))
  exact Prog.yields_pure trivial

variable {proof : AgentActionProof} {opts : ValidateAgentActionOptions} {ki : String}

/-- A signature that does not verify is recorded nowhere. -/
theorem recordAction_unverified_yields :
    (recordAction env proof opts ki now false).Yields (srvRules may) t fun _ _ => True := by
  refine nextChainPosition_yields.mapErr.andThen fun t' position _ _ => ?_
  refine .bind (Srv.yields_scalarOr fun s mandate _ => Srv.yields_random fun s => ?_)
  exact Prog.yields_pure trivial

variable (env) in
/-- The receipt names the agent and the token of the envelope, and has its hash. -/
structure ReceiptOf (e : AgentActionEnvelope) (r : ReceiptRow) : Prop where
  agentId : r.agentId = e.agentId
  ajwtJti : r.ajwtJti = e.ajwtJti
  actionHash : r.actionHash = actionHash env e

/-- The rules allow to store receipts of the envelope. -/
def MayStore (env : Env F) (e : AgentActionEnvelope) (may : May F) : Prop :=
  ∀ t r s, ReceiptOf env e r → may t (.upsertReceipt r false) s

variable {e : AgentActionEnvelope}

omit [Float64 F] in
theorem MayStore.of_unguarded (h : Unguarded may) : MayStore env e may :=
  fun _ _ _ _ => h _ _ _ rfl

/-- The receipt is of the tenant and the agent the endpoint expects, with its status. -/
structure ReceiptFor (opts : ValidateAgentActionOptions) (r : ReceiptRow) : Prop where
  tenantId : r.tenantId = opts.tenantId
  agentId : r.agentId = opts.agentId
  status : r.status = opts.status

/-- The request has stored the receipt. -/
def StoresReceipt (t : History F) (r : ReceiptRow) : Prop :=
  ∃ s, (.write (.upsertReceipt r false), s) ∈ t ∧
    ∃ n, s.writeResult (.upsertReceipt r false) = .ok n

theorem StoresReceipt.mono {t : History F} {r : ReceiptRow} (h : StoresReceipt t r)
    (ht : t <:+ t') : StoresReceipt t' r := by
  obtain ⟨s, hs, hok⟩ := h
  exact ⟨s, ht.subset hs, hok⟩

/-- An action with a good signature is recorded by its receipt. -/
theorem recordAction_yields (hnonces : MayWrite .nonces may)
    (hmay : ∀ t' r s, t <:+ t' → ReceiptOf env proof.envelope r → ReceiptFor opts r →
      r.timestamp = now → may t' (.upsertReceipt r false) s) {ok : Bool}
    (hagent : opts.agentId = proof.envelope.agentId)
    (hjti : opts.ajwtJti = proof.envelope.ajwtJti) :
    (recordAction env proof opts ki now ok).Yields (srvRules may) t fun t' receipt =>
      ok = true → ∃ r, r.toActionReceipt = receipt ∧ ReceiptFor opts r ∧ StoresReceipt t' r := by
  cases ok with
  | true =>
    refine (spendNonce_yields hnonces).andThen fun t₁ _ ht₁ _ => ?_
    refine nextChainPosition_yields.mapErr.andThen fun t₂ position ht₂ _ => ?_
    refine .bind (Srv.yields_scalarOr fun s mandate _ => Srv.yields_random fun s' => ?_)
    refine .bind (.mapErr (Srv.yields_execute fun s => ⟨hmay _ _ _ ?_ ?_ ?_ rfl, fun n hn => ?_⟩))
    · exact (ht₁.trans ht₂).trans ((List.suffix_cons _ _).trans (List.suffix_cons _ _))
    · exact ⟨hagent, hjti, rfl⟩
    · exact ⟨rfl, rfl, rfl⟩
    · exact Prog.yields_pure fun _ => ⟨_, rfl, ⟨rfl, rfl, rfl⟩, s, .head _, n, hn⟩
  | false => exact recordAction_unverified_yields.mono fun _ _ _ h => by cases h

omit [Float64 F] in
theorem requireEqStr_eq_ok {label got expected : String} :
    requireEqStr label got expected = .ok () ↔ got = expected := by
  by_cases h : got = expected <;> simp [requireEqStr, h]

omit [Float64 F] in
/-- An envelope that passes is of the agent and the token the endpoint expects. -/
theorem of_checkEnvelope (h : checkEnvelope env e opts = .ok ()) :
    opts.agentId = e.agentId ∧ opts.ajwtJti = e.ajwtJti := by
  simp only [checkEnvelope, check_bind_eq_ok, requireEqStr_eq_ok] at h
  obtain ⟨hagent, -, -, hjti, -⟩ := h
  exact ⟨hagent.symm, hjti.symm⟩

/-- A validated action is of an agent that was not revoked, and has its receipt. The receipt
is of a time that is read on the way. -/
theorem validateAgentAction_stores (hnonces : MayWrite .nonces may)
    (hmay : ∀ t' r s, ReceiptOf env proof.envelope r → ReceiptFor opts r →
      ReadsNowAfter t t' r.timestamp → may t' (.upsertReceipt r false) s) :
    (validateAgentAction env proof opts).Yields (srvRules may) t fun t' v =>
      SawActive opts.tenantId opts.agentId t' ∧ ∃ r, r.toActionReceipt = v.receipt ∧
        ReceiptFor opts r ∧ StoresReceipt t' r := by
  refine .ofExcept fun _ hcheck => Srv.yields_nowSecs fun s => ?_
  obtain ⟨hopts, hjti⟩ := of_checkEnvelope hcheck
  refine .rejectIf fun _ => .rejectIf fun _ => .rejectIf fun _ => ?_
  refine Srv.yields_nowSecs fun sNow => ?_
  refine Srv.yields_require fun sAgent agent _ hagent => .ofExcept fun pt hpt => ?_
  refine .bind (.mapErr (Srv.yields_select fun sRing _ => .rejectIf fun _ => ?_))
  refine (recordAction_yields hnonces (fun t' r s' ht hof hfor hnow => ?_) hopts hjti).andThen
    fun t' _ ht hstored => ?_
  · refine hmay t' r s' hof hfor ⟨sNow, List.Sublist.trans ?_ ht.sublist, hnow⟩
    exact .cons _ (.cons _ (.cons_cons _ (List.sublist_cons_self _ _)))
  · refine .rejectIf fun hok => Prog.yields_pure ⟨SawActive.mono ?_ ht, ?_⟩
    · exact .of_findAgent (.tail _ (.head _)) hagent (checkAgentRow_ok hpt).2
    · exact hstored (by simpa using hok)

theorem validateAgentAction_yields (hnonces : MayWrite .nonces may)
    (hmay : MayStore env proof.envelope may) :
    (validateAgentAction env proof opts).Yields (srvRules may) t fun t' _ =>
      SawActive opts.tenantId opts.agentId t' :=
  (validateAgentAction_stores hnonces fun _ _ _ hof _ _ => hmay _ _ _ hof).mono
    fun _ _ h => h.1

end SauronID.Action
