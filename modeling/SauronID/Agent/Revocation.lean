import SauronID.Agent.CallSig
import SauronID.Agent.Issuance
import SauronID.Agent.Register
import SauronID.Request.Authorize
import SauronID.Request.Capability
import SauronID.Request.Challenge
import SauronID.Request.Payment

/-!
# Revocation is final

Runs of the routes that register, issue and revoke agents and of those by which an agent
acts. A revoked row leaves the unique indexes, so no later row can push it out, and a
plain insert with its id fails. Only the upsert of `POST /agent/vc/issue` can reach it:
when the id it derives is that of the revoked agent, it sets `revoked` back to zero.
`revocation_final` says that nothing else does. `agents_of_other_tenant` is about tenants: the same
upsert is the one way to another tenant's agents.
-/

namespace SauronID.Agent

open Conc Text SauronID.Action Request

variable {F : Type} [Float64 F] (env : Env F)

/-- A request that writes agents, or one by which an agent acts. -/
inductive AgentCall where
  | register (tenantId : String) (session : Option String) (req : RegisterAgentRequest)
  | issue (tenantId : String) (session : Option String) (body : AgentVcIssueBody)
  | revoke (tenantId : String) (session : Option String) (agentId : String)
  | authorize (tenantId : String) (body : PolicyAuthorizeBody)
  | payment (tenantId : String) (body : AgentPaymentAuthorizeBody)
  | challenge (tenantId : String) (body : AgentActionChallengeBody)
  | capability (tenantId signedAgent : String) (req : EgressCapabilityRequest)
  | signed (req : CallRequest)

/-- The request is one by which an agent acts. -/
def AgentCall.isAction : AgentCall → Bool
  | register .. | issue .. | revoke .. => false
  | _ => true

def AgentCall.tenant : AgentCall → String
  | register tenantId .. | issue tenantId .. | revoke tenantId .. | authorize tenantId _
  | payment tenantId _ | challenge tenantId _ | capability tenantId .. => tenantId
  | signed req => req.tenantId

/-- The result of a request is the agent it was about. -/
def AgentCall.prog : AgentCall → Srv F AppError String
  | register tenantId session req => do
    let resp ← registerAgent env tenantId session req
    return resp.agentId
  | issue tenantId session body => do
    let resp ← agentVcIssue env tenantId session body
    return resp.agentId
  | revoke tenantId session agentId => revokeAgent env tenantId session agentId
  | authorize tenantId body => do
    let _ ← policyAuthorize env tenantId body
    return body.agentId
  | payment tenantId body => do
    let resp ← agentPaymentAuthorize env tenantId body
    return resp.agentId
  | challenge tenantId body => do
    let _ ← actionChallenge env tenantId body
    return body.agentId
  | capability tenantId signedAgent req => do
    let _ ← issueEgressCapability env tenantId signedAgent req
    return req.agentId
  | signed req => tryVerifyCallSig env req

/-- What a request may write to the agents: the row it registers or issues, and the
revocation of the agent it names. -/
def agentMay (call : Option AgentCall) (t : History F) (w : Write F) (_ : World F) : Prop :=
  match w with
  | .insertAgent row => ∃ tenantId session req, call = some (.register tenantId session req) ∧
      RegisteredFor env tenantId req t row
  | .upsertAgent row => ∃ tenantId session body, call = some (.issue tenantId session body) ∧
      IssuedFor tenantId body row
  | .revokeAgent a _ tenantId => ∃ session, call = some (.revoke tenantId session a)
  | .setAgentChecksum _ _ => False
  | _ => True

/-- The statement revokes the agent `a`, and reports a row. -/
def Revokes (a : String) (lbl : Label F) (s : World F) : Prop :=
  ∃ human tenantId n, lbl = .write (.revokeAgent a human tenantId) ∧
    s.writeResult (.revokeAgent a human tenantId) = .ok n ∧ n ≠ 0

variable {env}

theorem agentMay_unguarded (call : Option AgentCall) : Unguarded (agentMay env call) := by
  intro t w s hfree
  cases w with
  | insertAgent row | upsertAgent row | revokeAgent a human tenantId | setAgentChecksum a c =>
    cases hfree
  | _ => trivial

/-- **The requests.** They write to the agents what they may, and one that has succeeded has
done its part: an action has read an unrevoked row of the agent, a revocation has revoked
one. -/
theorem AgentCall.prog_yields (call : AgentCall) :
    (call.prog env).Yields (srvRules (agentMay env (some call))) [] fun t a =>
      (call.isAction = true → SawActive call.tenant a t) ∧
        ∀ tenantId session b, call = .revoke tenantId session b →
          ∃ lbl s, (lbl, s) ∈ t ∧ Revokes b lbl s := by
  have hmay : Unguarded (agentMay env (some call)) := agentMay_unguarded _
  have hjti : ∀ token, MayConsume env (agentMay env (some call)) token :=
    fun _ _ _ _ _ _ _ _ => trivial
  cases call with
  | register tenantId session req =>
    refine (registerAgent_yields (hmay.mayWrite rfl) hmay.mayClaim
      (fun t row s h => ⟨_, _, _, rfl, h⟩) fun _ _ _ _ => trivial).andThen fun t resp _ _ => ?_
    exact Prog.yields_pure ⟨nofun, nofun⟩
  | issue tenantId session body =>
    refine (agentVcIssue_yields hmay fun t row s h _ => ⟨_, _, _, rfl, h⟩).andThen
      fun t resp _ _ => ?_
    exact Prog.yields_pure ⟨nofun, nofun⟩
  | revoke tenantId session agentId =>
    refine (revokeAgent_yields fun _ _ _ => ⟨session, rfl⟩).mono fun t a h => ⟨nofun, ?_⟩
    rintro _ _ _ ⟨⟩
    obtain ⟨-, human, s, n, hs, hn, hne⟩ := h
    exact ⟨_, s, hs, human, tenantId, n, rfl, hn, hne⟩
  | authorize tenantId body =>
    refine (policyAuthorize_yields hmay fun token _ => hjti token).andThen fun t resp _ h => ?_
    exact Prog.yields_pure ⟨fun _ => h.1, nofun⟩
  | payment tenantId body =>
    refine (agentPaymentAuthorize_yields hmay (hjti _) fun _ _ _ _ => trivial).andThen
      fun t resp _ h => ?_
    exact Prog.yields_pure ⟨fun _ => h.1, nofun⟩
  | challenge tenantId body =>
    refine actionChallenge_yields.andThen fun t resp _ h => ?_
    exact Prog.yields_pure ⟨fun _ => h.1, nofun⟩
  | capability tenantId signedAgent req =>
    refine (issueEgressCapability_yields hmay).andThen fun t resp _ h => ?_
    exact Prog.yields_pure ⟨fun _ => h.1, nofun⟩
  | signed req =>
    exact (tryVerifyCallSig_yields fun _ _ _ _ => trivial).mono fun t a h => ⟨fun _ => h.1, nofun⟩

/-- The requests of a pool, each with what it may write. -/
theorem agentCalls_yield (calls : List AgentCall) (i : ℕ) (call : AgentCall)
    (hcall : calls[i]? = some call) :
    (call.prog env).Yields (srvRules (agentMay env calls[i]?)) [] fun t a =>
      (call.isAction = true → SawActive call.tenant a t) ∧
        ∀ tenantId session b, call = .revoke tenantId session b →
          ∃ lbl s, (lbl, s) ∈ t ∧ Revokes b lbl s := by
  rw [hcall]
  exact call.prog_yields

/-! ## Statements on the agents -/

/-- What a statement can do to the agents. -/
inductive AgentsStep : Label F → List AgentRow → List AgentRow → Prop
  | same {lbl : Label F} {rows : List AgentRow} : AgentsStep lbl rows rows
  | upsert {row : AgentRow} {rows rows' : List AgentRow} (h : upsertAgents rows row = .ok rows') :
      AgentsStep (.write (.upsertAgent row)) rows rows'
  | insert {row : AgentRow} {rows rows' : List AgentRow} (h : insertAgents rows row = .ok rows') :
      AgentsStep (.write (.insertAgent row)) rows rows'
  | revoke {a human tenantId : String} {rows : List AgentRow} :
      AgentsStep (.write (.revokeAgent a human tenantId)) rows
        (rows.map (·.revokeIf a human tenantId))
  | checksum {a checksum : String} {rows : List AgentRow} :
      AgentsStep (.write (.setAgentChecksum a checksum)) rows (rows.map (·.checksumIf a checksum))

variable {lbl : Label F} {s s' : World F}

theorem agentsStep_of_effect (heff : lbl.Effect s s') :
    AgentsStep lbl s.db.agents s'.db.agents := by
  obtain ⟨t, ht, hsame⟩ | ⟨w, db, n, rfl, htable, happly, -, hdb⟩ := heff.onTable .agents nofun
  · rw [hsame.agents ht]
    exact .same
  rw [hdb]
  cases w with
  | upsertAgent row =>
    obtain ⟨rows, hrows, hdb'⟩ := exists_of_bind_eq_ok happly
    cases hdb'
    exact .upsert hrows
  | insertAgent row =>
    obtain ⟨rows, hrows, hdb'⟩ := exists_of_bind_eq_ok happly
    cases hdb'
    exact .insert hrows
  | revokeAgent a human tenantId =>
    cases happly
    exact .revoke
  | setAgentChecksum a checksum =>
    cases happly
    exact .checksum
  | _ => cases htable

variable {row : AgentRow}

/-- A statement that has added the row has reported it. -/
theorem writeResult_of_inserted (heff : (Label.write (.insertAgent row)).Effect s s')
    (hadd : s'.db.agents = s.db.agents ++ [row]) :
    ∃ n, s.writeResult (.insertAgent row) = .ok n := by
  cases heff
  rcases World.afterWrite_cases s (.insertAgent row) with ⟨e, -, hdb⟩ | ⟨db, n, -, -, hn, -⟩
  · rw [hdb] at hadd
    simp at hadd
  · exact ⟨n, hn⟩

/-- The primary key: no two rows have one id. -/
def IdsNodup (rows : List AgentRow) : Prop := (rows.map (·.agentId)).Nodup

/-- There is a row of the agent, and it is revoked. -/
def Dead (a : String) (rows : List AgentRow) : Prop :=
  (∃ r ∈ rows, r.agentId = a) ∧ ∀ r ∈ rows, r.agentId = a → r.revoked ≠ 0

/-- An upsert sets `revoked` of the row it finds back to zero. No row it finds was
revoked. -/
def spares (lbl : Label F) (rows : List AgentRow) : Bool :=
  match lbl with
  | .write (.upsertAgent row) => rows.all fun r => r.agentId != row.agentId || r.revoked == 0
  | _ => true

/-- A revocation changes one column. -/
theorem AgentRow.revokeIf_eq (a human tenantId : String) (r : AgentRow) :
    ∃ n, r.revokeIf a human tenantId = { r with revoked := n } := by
  unfold AgentRow.revokeIf
  split
  · exact ⟨1, rfl⟩
  · exact ⟨r.revoked, rfl⟩

@[simp] theorem AgentRow.revokeIf_agentId (a human tenantId : String) (r : AgentRow) :
    (r.revokeIf a human tenantId).agentId = r.agentId := by
  unfold AgentRow.revokeIf
  split <;> rfl

/-- So does a new checksum. -/
theorem AgentRow.checksumIf_eq (a checksum : String) (r : AgentRow) :
    ∃ c, r.checksumIf a checksum = { r with agentChecksum := c } := by
  unfold AgentRow.checksumIf
  split
  · exact ⟨checksum, rfl⟩
  · exact ⟨r.agentChecksum, rfl⟩

@[simp] theorem AgentRow.checksumIf_agentId (a checksum : String) (r : AgentRow) :
    (r.checksumIf a checksum).agentId = r.agentId := by
  obtain ⟨c, hc⟩ := AgentRow.checksumIf_eq a checksum r
  rw [hc]

variable {a : String} {r : AgentRow}

theorem AgentRow.revokeIf_revoked {human tenantId : String}
    (h : r.revoked ≠ 0 ∨ r.ownedBy a human tenantId = true) :
    (r.revokeIf a human tenantId).revoked ≠ 0 := by
  unfold AgentRow.revokeIf
  split
  · exact one_ne_zero
  · next hown => exact h.resolve_right hown

theorem AgentRow.clashes_of_revoked (h : r.revoked ≠ 0) : r.clashes row = false := by
  simp [AgentRow.clashes, AgentRow.sameActiveKey, h]

variable {rows rows' : List AgentRow}

/-- What an upsert makes of the rows: an update of the row with its id, if it collides with
no other row, or a new row after those it does not push out. -/
theorem upsertAgents_eq_ok (h : upsertAgents rows row = .ok rows') : (∃ old : AgentRow,
        (∀ r ∈ rows, r.agentId ≠ row.agentId → r.clashes (old.updateFrom row) = false) ∧
        rows' = rows.map fun r => if r.agentId == row.agentId then old.updateFrom row else r) ∨
      (∀ r ∈ rows, r.agentId ≠ row.agentId) ∧
        rows' = rows.filter (fun r => !r.clashes row) ++ [row] := by
  unfold upsertAgents at h
  split at h
  · next old _ =>
    dsimp only at h
    split at h
    · cases h
    · next hfree =>
      cases h
      refine .inl ⟨old, fun r hr hne => ?_, rfl⟩
      simpa [hne] using List.find?_eq_none.1 hfree r hr
  · next hnone =>
    cases h
    exact .inr ⟨by simpa using hnone, rfl⟩

theorem IdsNodup.append (h : IdsNodup rows)
    (hnew : ∀ r ∈ rows, r.agentId ≠ row.agentId) : IdsNodup (rows ++ [row]) := by
  unfold IdsNodup
  rw [List.map_append]
  refine List.Nodup.append h (List.nodup_singleton _) ?_
  simpa using hnew

omit [Float64 F] in
theorem AgentsStep.idsNodup (h : AgentsStep lbl rows rows') (hids : IdsNodup rows) :
    IdsNodup rows' := by
  cases h with
  | same => exact hids
  | @upsert row _ _ h =>
    rcases upsertAgents_eq_ok h with ⟨old, -, rfl⟩ | ⟨hnew, rfl⟩
    · have hid : (old.updateFrom row).agentId = row.agentId := rfl
      have hmap : (rows.map fun r => if r.agentId == row.agentId then old.updateFrom row
          else r).map (·.agentId) = rows.map (·.agentId) := by
        rw [List.map_map]
        refine List.map_congr_left fun r _ => ?_
        rw [Function.comp_apply]
        split <;> simp_all
      rwa [IdsNodup, hmap]
    · have hsub := List.filter_sublist (l := rows) (p := fun r => !r.clashes row)
      exact IdsNodup.append (hids.sublist (hsub.map _)) fun r hr => hnew r (hsub.subset hr)
  | insert h =>
    obtain ⟨hnew, rfl⟩ := insertAgents_eq_ok h
    exact hids.append hnew
  | revoke | checksum =>
    simpa [IdsNodup, Function.comp_def] using hids

theorem Dead.append (h : Dead a rows) (hne : row.agentId ≠ a) : Dead a (rows ++ [row]) := by
  obtain ⟨⟨r, hr, hra⟩, hall⟩ := h
  refine ⟨⟨r, List.mem_append_left _ hr, hra⟩, fun r' hr' hra' => ?_⟩
  rcases List.mem_append.1 hr' with hr' | hr'
  · exact hall r' hr' hra'
  · cases List.mem_singleton.1 hr'
    exact absurd hra' hne

omit [Float64 F] in
/-- The step lemma: a statement that spares revoked rows keeps the agent dead. -/
theorem AgentsStep.dead (h : AgentsStep lbl rows rows') (hspares : spares lbl rows = true)
    (hdead : Dead a rows) : Dead a rows' := by
  obtain ⟨⟨r, hr, hra⟩, hall⟩ := id hdead
  cases h with
  | same => exact hdead
  | @upsert row _ _ h =>
    have hne : row.agentId ≠ a := by
      rintro rfl
      simp only [spares, List.all_eq_true] at hspares
      simpa [hra, hall r hr hra] using hspares r hr
    rcases upsertAgents_eq_ok h with ⟨old, -, rfl⟩ | ⟨-, rfl⟩
    · -- The row that is updated is another agent's.
      refine ⟨⟨r, List.mem_map.2 ⟨r, hr, ?_⟩, hra⟩, fun r' hr' hra' => ?_⟩
      · simp [hra, hne.symm]
      · obtain ⟨r₀, hr₀, rfl⟩ := List.mem_map.1 hr'
        split at hra'
        · exact absurd hra' hne
        · next hid' =>
          simpa [hid'] using hall r₀ hr₀ hra'
    · refine Dead.append ⟨⟨r, ?_, hra⟩, fun r' hr' => hall r' (List.mem_filter.1 hr').1⟩ hne
      simp [hr, AgentRow.clashes_of_revoked (hall r hr hra)]
  | insert h =>
    obtain ⟨hnew, rfl⟩ := insertAgents_eq_ok h
    exact hdead.append fun hrow => hnew r hr (hra.trans hrow.symm)
  | revoke =>
    refine ⟨⟨_, List.mem_map_of_mem hr, by simpa using hra⟩, fun r' hr' hra' => ?_⟩
    obtain ⟨r₀, hr₀, rfl⟩ := List.mem_map.1 hr'
    rw [AgentRow.revokeIf_agentId] at hra'
    exact AgentRow.revokeIf_revoked (.inl (hall r₀ hr₀ hra'))
  | @checksum b checksum _ =>
    refine ⟨⟨_, List.mem_map_of_mem hr, by simpa using hra⟩, fun r' hr' hra' => ?_⟩
    obtain ⟨r₀, hr₀, rfl⟩ := List.mem_map.1 hr'
    obtain ⟨c, hc⟩ := AgentRow.checksumIf_eq b checksum r₀
    rw [hc] at hra' ⊢
    exact hall r₀ hr₀ hra'

/-- A revocation that reports a row leaves the agent dead. -/
theorem Revokes.dead (h : Revokes a lbl s)
    (heff : lbl.Effect s s') (hids : IdsNodup s.db.agents) : Dead a s'.db.agents := by
  obtain ⟨human, tenantId, n, rfl, hresult, hn⟩ := h
  cases heff
  rcases World.afterWrite_cases s (.revokeAgent a human tenantId) with
    ⟨e, herr, -⟩ | ⟨db, m, -, happly, hm, hdb⟩
  · cases herr.symm.trans hresult
  cases hm.symm.trans hresult
  cases happly
  obtain ⟨r, hr, hown⟩ := List.countP_pos_iff.1 (Nat.pos_of_ne_zero hn)
  have hra : r.agentId = a := by
    simp only [AgentRow.ownedBy, Bool.and_eq_true, beq_iff_eq] at hown
    exact hown.1.1
  rw [hdb]
  refine ⟨⟨_, List.mem_map_of_mem hr, by simpa using hra⟩, fun r' hr' hra' => ?_⟩
  obtain ⟨r₀, hr₀, rfl⟩ := List.mem_map.1 hr'
  rw [AgentRow.revokeIf_agentId] at hra'
  -- The owned row is the only one with the id.
  cases List.inj_on_of_nodup_map hids hr₀ hr (hra'.trans hra.symm)
  exact AgentRow.revokeIf_revoked (.inr hown)

/-! ## Runs -/

/-- Every agent that was revoked is dead. -/
def RevokedDead (s : World F) (log : RunLog F) : Prop :=
  IdsNodup s.db.agents ∧ ∀ e ∈ log, ∀ a, Revokes a e.label e.before → Dead a s.db.agents

theorem revokedDead_invariant (may : ℕ → May F) : TraceInvariant (fun i => srvRules (may i))
      (fun e _ => spares e.label e.before.db.agents = true) RevokedDead where
  tick _ h := h
  step := by
    rintro s log i lbl s' ⟨hids, hdead⟩ hspares heff -
    have hstep := agentsStep_of_effect heff
    refine ⟨hstep.idsNodup hids, fun e he a hrev => ?_⟩
    rcases List.mem_cons.1 he with rfl | he
    · exact hrev.dead heff hids
    · exact hstep.dead hspares (hdead e he a hrev)

/-- The agent is dead, and has been in every entry since `midLog`. -/
def StaysDead (a : String) (midLog : RunLog F) (s : World F) (log : RunLog F) : Prop :=
  Dead a s.db.agents ∧ ∀ e ∈ log, e ∈ midLog ∨ Dead a e.before.db.agents

theorem staysDead_invariant (may : ℕ → May F) (a : String) (midLog : RunLog F) :
    TraceInvariant (fun i => srvRules (may i))
      (fun e _ => spares e.label e.before.db.agents = true) (StaysDead a midLog) where
  tick _ h := h
  step := by
    rintro s log i lbl s' ⟨hdead, hthen⟩ hspares heff -
    refine ⟨(agentsStep_of_effect heff).dead hspares hdead, fun e he => ?_⟩
    rcases List.mem_cons.1 he with rfl | he
    · exact .inr hdead
    · exact hthen e he

variable (env) in
/-- The requests `calls` run together from `start`. -/
def agentRun (start : World F) (calls : List AgentCall) (sched : List Event) :
    SrvConfig F AppError String :=
  (Config.init start (calls.map (AgentCall.prog env))).run sched

variable (env) in
/-- **Revocation.** Once a revocation has succeeded, every row of the agent is revoked ever
after, and no action of the agent that starts later succeeds. -/
theorem revocation_final (start : World F) (calls : List AgentCall) (es fs : List Event)
    (hids : IdsNodup start.db.agents)
    (hlog : LogOk (fun e _ => spares e.label e.before.db.agents = true)
      (agentRun env start calls (es ++ fs)).log)
    {i : ℕ} {tenantId a b : String} {session : Option String}
    (hcall : calls[i]? = some (.revoke tenantId session a))
    (hresult : (agentRun env start calls es).result i = some (.ok b)) :
    (∀ r ∈ (agentRun env start calls (es ++ fs)).world.db.agents, r.agentId = a →
        r.revoked ≠ 0) ∧
      ∀ (j : ℕ) (call : AgentCall), calls[j]? = some call → call.isAction = true →
        (∀ e ∈ (agentRun env start calls es).log, e.thread ≠ j) →
        (agentRun env start calls (es ++ fs)).result j ≠ some (.ok a) := by
  have hcalls := @agentCalls_yield F _ env calls
  have hinit : RevokedDead start [] := ⟨hids, List.forall_mem_nil _⟩
  obtain ⟨⟨-, hdead⟩, hpost⟩ := (revokedDead_invariant _).run_calls hcalls hinit es hlog.of_run
  obtain ⟨lbl, s, hs, hrev⟩ := (hpost i _ b hcall hresult).2 _ _ _ rfl
  have hmid := hdead _ (mem_threadTrace.1 hs) a hrev
  obtain ⟨hend, hthen⟩ := (staysDead_invariant _ a _).run_then hcalls
    ⟨hmid, fun _ he => .inl he⟩ hlog
  refine ⟨hend.2, fun j call hj haction hstart hok => ?_⟩
  obtain ⟨s', hs', r, hr, hra, -, hactive⟩ := (run_post hcalls hj hok).1 haction
  -- The row that the action has read was read after the revocation.
  rcases hthen _ (mem_threadTrace.1 hs') with hold | hdead'
  · exact hstart _ hold rfl
  · exact hdead'.2 r hr hra hactive

/-! ## Other tenants -/

/-- The agents of a tenant. -/
def agentsOf (tenant : String) (rows : List AgentRow) : List AgentRow :=
  rows.filter (·.tenantId == tenant)

/-- An upsert takes over the row it finds, whoever it belongs to. No row it finds is of the
tenant. -/
def sparesTenant (tenant : String) (lbl : Label F) (rows : List AgentRow) : Bool :=
  match lbl with
  | .write (.upsertAgent row) => (agentsOf tenant rows).all fun r => r.agentId != row.agentId
  | _ => true

variable {tenant : String}

theorem agentsOf_map {f : AgentRow → AgentRow}
    (hto : ∀ r ∈ rows, (f r).tenantId = tenant → r.tenantId = tenant)
    (hfix : ∀ r ∈ rows, r.tenantId = tenant → f r = r) :
    agentsOf tenant (rows.map f) = agentsOf tenant rows := by
  unfold agentsOf
  induction rows with
  | nil => rfl
  | cons r rows ih =>
    simp only [List.forall_mem_cons] at hto hfix
    by_cases hr : r.tenantId = tenant
    · simp [ih hto.2 hfix.2, hfix.1 hr, hr]
    · simp [ih hto.2 hfix.2, hr, mt hto.1 hr]

theorem agentsOf_concat (h : row.tenantId ≠ tenant) :
    agentsOf tenant (rows ++ [row]) = agentsOf tenant rows := by
  simp [agentsOf, h]

/-- A statement of a request of another tenant. -/
theorem AgentsStep.agentsOf_eq {call : Option AgentCall} {t : History F}
    (h : AgentsStep lbl rows rows') (hcall : ∀ c ∈ call, c.tenant ≠ tenant)
    (hspares : sparesTenant tenant lbl rows = true)
    (hmay : (srvRules (agentMay env call)).may t lbl s) :
    agentsOf tenant rows' = agentsOf tenant rows := by
  cases h with
  | same => rfl
  | @upsert row _ _ h =>
    obtain ⟨tenantId, session, body, rfl, hfor⟩ := hmay
    have hrow : row.tenantId ≠ tenant := hfor.tenant ▸ hcall _ rfl
    rcases upsertAgents_eq_ok h with ⟨old, -, rfl⟩ | ⟨-, rfl⟩
    · have hid : ∀ r ∈ rows, r.tenantId = tenant → r.agentId ≠ row.agentId := by
        simpa [sparesTenant, agentsOf, imp_iff_not_or] using hspares
      refine agentsOf_map (fun r hr htenant => ?_) fun r hr htenant => ?_
      · split at htenant
        · exact absurd htenant hrow
        · exact htenant
      · simp [hid r hr htenant]
    · rw [agentsOf_concat hrow]
      -- Only rows of its own tenant are pushed out.
      simp only [agentsOf, List.filter_filter]
      refine List.filter_congr fun r _ => ?_
      by_cases hr : r.tenantId = tenant
      · simp [hr, AgentRow.clashes, AgentRow.sameActiveKey, Ne.symm hrow]
      · simp [hr]
  | insert h =>
    obtain ⟨tenantId, session, req, rfl, hfor⟩ := hmay
    obtain ⟨-, rfl⟩ := insertAgents_eq_ok h
    exact agentsOf_concat (hfor.tenant ▸ hcall _ rfl)
  | @revoke a human tenantId _ =>
    obtain ⟨session, rfl⟩ := hmay
    have hne : tenantId ≠ tenant := hcall _ rfl
    refine agentsOf_map (fun r _ htenant => ?_) fun r _ htenant => ?_
    · obtain ⟨n, hn⟩ := AgentRow.revokeIf_eq a human tenantId r
      rwa [hn] at htenant
    · simp [AgentRow.revokeIf, AgentRow.ownedBy, htenant, hne.symm]
  | checksum => exact hmay.elim

theorem agentsOf_invariant (calls : List AgentCall) (tenant : String) (n : ℕ)
    (agents : List AgentRow) : TraceInvariant (fun i => srvRules (agentMay env calls[i]?))
      (fun e older => n ≤ older.length → (∀ call ∈ calls[e.thread]?, call.tenant ≠ tenant) ∧
        sparesTenant tenant e.label e.before.db.agents = true)
      fun (s : World F) log => n ≤ log.length ∧ agentsOf tenant s.db.agents = agents where
  tick _ h := h
  step := by
    rintro s log i lbl s' ⟨hn, rfl⟩ hothers heff hmay
    obtain ⟨hcall, hspares⟩ := hothers hn
    exact ⟨Nat.le_succ_of_le hn, (agentsStep_of_effect heff).agentsOf_eq hcall hspares hmay⟩

variable (env) in
/-- **Tenants.** While only requests of other tenants take steps, the agents of a tenant stay
as they are, however far its own requests have come; unless an id that is issued to another
tenant is that of one of the agents. -/
theorem agents_of_other_tenant (start : World F) (calls : List AgentCall) (es fs : List Event)
    (tenant : String)
    (hothers : LogOk (fun e older => (agentRun env start calls es).log.length ≤ older.length →
        (∀ call ∈ calls[e.thread]?, call.tenant ≠ tenant) ∧
          sparesTenant tenant e.label e.before.db.agents = true)
      (agentRun env start calls (es ++ fs)).log) :
    agentsOf tenant (agentRun env start calls (es ++ fs)).world.db.agents =
      agentsOf tenant (agentRun env start calls es).world.db.agents :=
  ((agentsOf_invariant calls tenant _ _).run_then (@agentCalls_yield F _ env calls)
    ⟨Nat.le_refl _, rfl⟩ hothers).2

/-! ## Requests of an owner -/

/-- Every intent has the scope `read`. The hash of what looks like JSON is `00`, so that is
every thumbprint; of the rest it keeps the end. -/
def registerEnv : Env ℚ :=
  { sampleEnv ℚ with
    fromStr := fun _ => some (.obj [("scope", .arr [.str "read"])])
    sha256 := fun bytes => if bytes.head? = some 123 then [0] else bytes.reverse.take 12 }

/-- The owner is linked to a bank and has no agents; it is second 5. -/
def registerWorld : World ℚ :=
  World.steady { Db.empty ℚ with
    users := [⟨ownerKeyImage, ownerKeyImage⟩], bankLinks := [ownerKeyImage] } 5000

/-- An agent for a minute, with hexadecimal keys made of one digit. -/
def minuteLease (publicKey keyImage popKey : Char) : RegisterAgentRequest where
  humanKeyImage := ""
  ownerMandateSigB64u := ""
  agentChecksum := "checksum"
  agentType := ""
  checksumInputs := none
  attestationBlob := ""
  attestationKind := ""
  attestationChallengeId := ""
  attestationPubkeyB64u := none
  expectedMeasurementHex := none
  intentJson := ""
  publicKeyHex := String.ofList (List.replicate 64 publicKey)
  ringKeyImageHex := String.ofList (List.replicate 64 keyImage)
  ttlSecs := 60
  parentAgentId := ""
  popJkt := "00"
  popPublicKeyB64u := String.ofList (List.replicate 32 popKey)
  workflowId := ""
  delegationChainJson := ""

/-- The owner registers it, below a parent or none. -/
def registerWith (publicKey keyImage popKey : Char) (parent : String) : AgentCall :=
  .register "default" (some ownerSession)
    { minuteLease publicKey keyImage popKey with parentAgentId := parent }

/-! ## An agent that comes back -/

/-- The hash keeps the end of its input: the second, after the end of the owner. -/
def revokeEnv : Env ℚ := { sampleEnv ℚ with sha256 := fun b => b.reverse.take 12 }

/-- The request for an agent, and the row it was issued at second 5. -/
def issueAgain : IssueCall := issueWith '1' '2' "pop"

def issuedAgent : AgentRow :=
  issuedRow revokeEnv "default" ownerKeyImage issueAgain.body 5 86405

def issuedWorld : World ℚ :=
  { issueWorld with db := { issueWorld.db with agents := [issuedAgent] } }

/-- The owner revokes the agent. -/
def revokeIssued : AgentCall := .revoke "default" (some ownerSession) issuedAgent.agentId

/-- Revoked, then issued again within the second: the agent is back. -/
theorem issue_undoes_revocation :
    (agentRun revokeEnv issuedWorld
        [revokeIssued, .issue issueAgain.tenantId issueAgain.session issueAgain.body]
        (List.replicate 8 (.step 0))).result 0 = some (.ok issuedAgent.agentId) ∧
      ((agentRun revokeEnv issuedWorld
        [revokeIssued, .issue issueAgain.tenantId issueAgain.session issueAgain.body]
        (List.replicate 8 (.step 0) ++ List.replicate 20 (.step 1))).world.db.agents.any fun r =>
          r.agentId == issuedAgent.agentId && r.revoked == 0) = true := by
  decide +kernel

/-- The agent asks for a decision. -/
def authorizeIssued : AgentCall :=
  .authorize "default"
    { agentId := issuedAgent.agentId, action := "read", ajwt := none, agentAction := none }

theorem revoked_agent_refused :
    (∀ r ∈ (agentRun revokeEnv issuedWorld [revokeIssued, authorizeIssued]
        (List.replicate 8 (.step 0) ++ List.replicate 20 (.step 1))).world.db.agents,
        r.agentId = issuedAgent.agentId → r.revoked ≠ 0) ∧
      (agentRun revokeEnv issuedWorld [revokeIssued, authorizeIssued]
        (List.replicate 8 (.step 0) ++ List.replicate 20 (.step 1))).result 1 ≠
          some (.ok issuedAgent.agentId) := by
  obtain ⟨hrows, haction⟩ := revocation_final revokeEnv issuedWorld [revokeIssued, authorizeIssued]
    (List.replicate 8 (.step 0)) (List.replicate 20 (.step 1)) (List.nodup_singleton _)
    (by decide +kernel) (i := 0) rfl (b := issuedAgent.agentId) (by decide +kernel)
  exact ⟨hrows, haction 1 _ rfl rfl (by decide +kernel)⟩

/-- The owner asks for the same agent at another tenant. -/
def issueElsewhere : AgentCall :=
  .issue "other" (some ("v3|other|" ++ ownerKeyImage ++ "|0|100|")) issueAgain.body

/-- A second later, it is another agent that is issued. -/
theorem issued_elsewhere :
    ((agentRun revokeEnv issuedWorld [revokeIssued, issueElsewhere] (List.replicate 3 (.step 0) ++
        .tick 1000 :: List.replicate 20 (.step 1))).result 1).any Except.isOk = true ∧
      agentsOf "default" (agentRun revokeEnv issuedWorld [revokeIssued, issueElsewhere]
        (List.replicate 3 (.step 0) ++ .tick 1000 :: List.replicate 20 (.step 1))).world.db.agents =
      agentsOf "default" (agentRun revokeEnv issuedWorld [revokeIssued, issueElsewhere]
        (List.replicate 3 (.step 0))).world.db.agents :=
  ⟨by decide +kernel, agents_of_other_tenant revokeEnv issuedWorld _ _ _ _ (by decide +kernel)⟩

end SauronID.Agent
