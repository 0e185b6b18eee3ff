import SauronID.Agent.Revocation

/-!
# The licence ceiling

A registration counts the unrevoked agents of its tenant, compares the count with the ceiling
of the licence and inserts its row some statements later; a count that fails reads as zero,
and the route that issues credentials does not count at all. `licence_ceiling` says that the
ceiling holds as long as none of this matters: what a registration has counted is still so
when its row goes in, and a credential is issued only below the ceiling.
-/

namespace SauronID.Agent

open Conc Text Request

variable {F : Type}

/-! ## The ceiling -/

/-- The ceiling of a tenant at a reading of the clock. -/
def ceilingAt (env : Env F) (tenantId : String) (nowMs : ℤ) : ℤ :=
  (entitlementAt env tenantId nowMs).maxAgents

variable {tenantId : String}

theorem maxAgents_pos_of_licenceOf {env : Env F} {lic : DeploymentLicence}
    (h : licenceOf env tenantId = .ok lic) : 0 < lic.maxAgents := by
  obtain ⟨document, -, h⟩ := exists_of_bind_eq_ok h
  obtain ⟨lic', hverify, h⟩ := exists_of_bind_eq_ok h
  cases (refuseIf_bind_eq_ok.1 h).2
  obtain ⟨lic', -, hverify⟩ := exists_of_bind_eq_ok hverify
  obtain ⟨key, -, hverify⟩ := exists_of_bind_eq_ok hverify
  obtain ⟨sig, -, hverify⟩ := exists_of_bind_eq_ok hverify
  simp only [refuseIf_bind_eq_ok] at hverify
  obtain ⟨-, -, hpos, hpure⟩ := hverify
  cases hpure
  exact not_le.1 hpos

theorem ceilingAt_pos (env : Env F) (tenantId : String) (nowMs : ℤ) :
    0 < ceilingAt env tenantId nowMs := by
  have hfree : 0 < freeTierMaxAgents := by decide
  unfold ceilingAt entitlementAt
  split
  · exact hfree
  · next lic hlic =>
    split
    · exact hfree
    · exact maxAgents_pos_of_licenceOf hlic

/-! ## Counting -/

/-- An unrevoked agent of the tenant. -/
def isActive (tenantId : String) (r : AgentRow) : Bool := r.revoked == 0 && r.tenantId == tenantId

theorem activeAgents_eq (tenantId : String) (db : Db F) :
    activeAgents tenantId db = db.agents.countP (isActive tenantId) := rfl

/-- A change of the rows that `q` selects adds at most those to a count. -/
theorem countP_map_le {α : Type} {p q : α → Bool} {f : α → α}
    (hf : ∀ a, p (f a) = true → p a = true ∨ q a = true) (rows : List α) :
    (rows.map f).countP p ≤ rows.countP p + rows.countP q := by
  induction rows with
  | nil => simp
  | cons a rows ih =>
    simp only [List.map_cons, List.countP_cons]
    by_cases hp : p (f a) = true
    · rcases hf a hp with h | h <;> simp only [hp, h, if_true] <;> omega
    · simp only [hp, if_false, Bool.false_eq_true]
      omega

variable {rows : List AgentRow}

theorem IdsNodup.countP_le_one (h : IdsNodup rows) (a : String) :
    rows.countP (fun r => r.agentId == a) ≤ 1 := by
  have hcount := List.nodup_iff_count_le_one.1 h a
  rwa [List.count_eq_countP, List.countP_map] at hcount

/-- The statement writes a row of the tenant. -/
def addsTo (tenantId : String) : Label F → Bool
  | .write (.insertAgent row) | .write (.upsertAgent row) => row.tenantId == tenantId
  | _ => false

/-- A row at the end of the table counts if it is of the tenant. -/
theorem countP_append_le (tenantId : String) (rows : List AgentRow) (row : AgentRow) :
    (rows ++ [row]).countP (isActive tenantId) ≤
      rows.countP (isActive tenantId) + (row.tenantId == tenantId).toNat := by
  rw [List.countP_append, List.countP_singleton]
  refine Nat.add_le_add_left ?_ _
  by_cases hactive : isActive tenantId row = true
  · have htenant := (Bool.and_eq_true_iff.1 hactive).2
    simp [hactive, htenant]
  · simp [hactive]

/-- An updated row counts, beyond what it did before, if it is of the tenant. -/
theorem countP_update_le (hids : IdsNodup rows) (tenantId : String) (old row : AgentRow) :
    (rows.map fun r => if r.agentId == row.agentId then old.updateFrom row else r).countP
        (isActive tenantId) ≤
      rows.countP (isActive tenantId) + (row.tenantId == tenantId).toNat := by
  refine (countP_map_le (q := fun r => r.agentId == row.agentId && row.tenantId == tenantId)
    (fun r hr => ?_) rows).trans (Nat.add_le_add_left ?_ _)
  · by_cases hid : r.agentId == row.agentId
    · rw [if_pos hid] at hr
      exact .inr (Bool.and_eq_true_iff.2 ⟨hid, (Bool.and_eq_true_iff.1 hr).2⟩)
    · rw [if_neg hid] at hr
      exact .inl hr
  · by_cases htenant : (row.tenantId == tenantId) = true
    · simpa [htenant] using hids.countP_le_one row.agentId
    · simp [htenant]

/-- **The step.** Only a statement that writes a row of the tenant adds to its active agents,
and it adds one. -/
theorem AgentsStep.countP_le {lbl : Label F} {rows' : List AgentRow} (h : AgentsStep lbl rows rows')
    (hids : IdsNodup rows) (tenantId : String) : rows'.countP (isActive tenantId) ≤
      rows.countP (isActive tenantId) + (addsTo tenantId lbl).toNat := by
  cases h with
  | same => exact Nat.le_add_right _ _
  | @upsert row _ _ h =>
    rcases upsertAgents_eq_ok h with ⟨old, -, rfl⟩ | ⟨-, rfl⟩
    · exact countP_update_le hids tenantId old row
    · have hkept := List.Sublist.countP_le (p := isActive tenantId)
        (List.filter_sublist (l := rows) (p := fun r => !r.clashes row))
      exact (countP_append_le tenantId _ row).trans (Nat.add_le_add_right hkept _)
  | insert h =>
    obtain ⟨-, rfl⟩ := insertAgents_eq_ok h
    exact countP_append_le tenantId rows _
  | @revoke a human tenant _ =>
    refine (countP_map_le (q := fun _ => false) (fun r hr => .inl ?_) rows).trans (by simp)
    unfold AgentRow.revokeIf at hr
    split at hr
    · cases hr
    · exact hr
  | @checksum a checksum _ =>
    refine (countP_map_le (q := fun _ => false) (fun r hr => .inl ?_) rows).trans (by simp)
    obtain ⟨c, hc⟩ := AgentRow.checksumIf_eq a checksum r
    rw [hc] at hr
    exact hr

/-! ## Runs -/

variable [Float64 F] (env : Env F)

/-- A count of the agents of the tenant. -/
def isCount (tenantId : String) : Label F → Bool
  | .select (.activeAgents t) => t == tenantId
  | _ => false

/-- A statement that writes a row of the tenant stays below the ceiling: the count of a
registration came back and there are no more agents now, and a credential is issued when
there is room. -/
def staysBelow (tenantId : String) (e : LogEntry F) (older : RunLog F) : Bool :=
  match e.label with
  | .write (.insertAgent row) => row.tenantId != tenantId || older.all fun e' =>
      e'.thread != e.thread || !isCount tenantId e'.label || (e'.before.fault.isNone &&
        decide (activeAgents tenantId e.before.db ≤ activeAgents tenantId e'.before.db))
  | .write (.upsertAgent row) => row.tenantId != tenantId ||
      decide ((activeAgents tenantId e.before.db : ℤ) < ceilingAt env tenantId e.before.clockMs)
  | _ => true

/-- The agents of the tenant are within a ceiling that has been the same all along. -/
structure WithinCeiling (tenantId : String) (ceiling : ℤ) (s : World F)
    (log : RunLog F) : Prop where
  ids : IdsNodup s.db.agents
  within : (activeAgents tenantId s.db : ℤ) ≤ ceiling
  steady : ∀ e ∈ log, ceilingAt env tenantId e.before.clockMs = ceiling

variable {env}

/-- There is room for the row that a registration inserts. -/
theorem WithinCeiling.room {ceiling : ℤ} {s : World F}
    {log : RunLog F} (h : WithinCeiling env tenantId ceiling s log)
    (hnow : ceilingAt env tenantId s.clockMs = ceiling) {i : ℕ} {row : AgentRow}
    {req : RegisterAgentRequest} {t : String}
    (hrow : RegisteredFor env t req (threadTrace i log) row) (htenant : row.tenantId = tenantId)
    (hbelow : staysBelow env tenantId ⟨i, .write (.insertAgent row), s⟩ log = true) :
    (activeAgents tenantId s.db : ℤ) < ceiling := by
  obtain ⟨e, sCount, hentitled, hcount, hroom⟩ := hrow.room
  have hsame : t = tenantId := hrow.tenant.symm.trans htenant
  subst hsame
  have hmax : e.maxAgents = ceiling := by
    obtain hany | ⟨s₀, hs₀, he⟩ := hentitled
    · rw [hany s.clockMs]
      exact hnow
    · rw [he]
      exact h.steady _ (mem_threadTrace.1 hs₀)
  simp only [staysBelow, htenant, bne_self_eq_false, Bool.false_or, List.all_eq_true] at hbelow
  have hcounted := hbelow _ (mem_threadTrace.1 hcount)
  simp only [bne_self_eq_false, isCount, BEq.rfl, Bool.not_true, Bool.false_or, Bool.and_eq_true,
    Option.isNone_iff_eq_none, decide_eq_true_eq] at hcounted
  have hlt := hroom hcounted.1
  have hle := hcounted.2
  omega

theorem withinCeiling_invariant (calls : List AgentCall) (tenantId : String) (ceiling : ℤ) :
    TraceInvariant (fun i => srvRules (agentMay env calls[i]?))
      (fun e older => staysBelow env tenantId e older = true ∧
        ceilingAt env tenantId e.before.clockMs = ceiling)
      (WithinCeiling env tenantId ceiling) where
  tick d h := ⟨h.ids, h.within, h.steady⟩
  step := by
    rintro s log i lbl s' h ⟨hbelow, hnow⟩ heff hmay
    have hstep := agentsStep_of_effect heff
    have hcount := hstep.countP_le h.ids tenantId
    refine ⟨hstep.idsNodup h.ids, ?_, List.forall_mem_cons.2 ⟨hnow, h.steady⟩⟩
    -- only a statement with a row of the tenant has to be looked at
    by_cases hadds : addsTo tenantId lbl = true
    swap
    · have hle : activeAgents tenantId s'.db ≤ activeAgents tenantId s.db := by
        simpa [hadds, activeAgents_eq] using hcount
      have hwithin := h.within
      omega
    have hlt : (activeAgents tenantId s.db : ℤ) < ceiling := by
      unfold addsTo at hadds
      split at hadds
      · next row =>
        obtain ⟨_, _, _, -, hrow⟩ := hmay
        exact h.room hnow hrow (beq_iff_eq.1 hadds) hbelow
      · next row =>
        have hroom : row.tenantId ≠ tenantId ∨
            (activeAgents tenantId s.db : ℤ) < ceilingAt env tenantId s.clockMs := by
          simpa [staysBelow] using hbelow
        rw [← hnow]
        exact hroom.resolve_left (not_not.2 (beq_iff_eq.1 hadds))
      · cases hadds
    have hle : activeAgents tenantId s'.db ≤ activeAgents tenantId s.db + 1 := by
      simpa [hadds, activeAgents_eq] using hcount
    omega

variable (env) in
/-- **The licence ceiling.** A tenant that starts without agents stays within the ceiling of
its licence, as long as the licence does not expire and every statement that writes an agent
stays below it. -/
theorem licence_ceiling {start : World F} (hids : IdsNodup start.db.agents) {tenantId : String}
    (hnone : activeAgents tenantId start.db = 0) (calls : List AgentCall) (sched : List Event)
    (c : Config (Label F) (World F) AppError String) (hc : c = agentRun env start calls sched)
    (hlicence : ∀ e ∈ c.log,
      ceilingAt env tenantId e.before.clockMs = ceilingAt env tenantId c.world.clockMs)
    (hbelow : LogOk (fun e older => staysBelow env tenantId e older = true) c.log) :
    (activeAgents tenantId c.world.db : ℤ) ≤ ceilingAt env tenantId c.world.clockMs := by
  have hinit : WithinCeiling env tenantId (ceilingAt env tenantId c.world.clockMs) start [] :=
    { ids := hids
      within := by
        rw [hnone]
        exact (ceilingAt_pos env tenantId _).le
      steady := List.forall_mem_nil _ }
  subst hc
  obtain ⟨h, -⟩ := (withinCeiling_invariant calls tenantId _).run_calls (agentCalls_yield calls)
    hinit sched (hbelow.and_forall hlicence)
  exact h.within

/-! ## One agent too many -/

/-- A licence for one agent, good until second 1000. -/
def licensedEnv : Env ℚ :=
  { registerEnv with
    processVar := fun name =>
      if name = "SAURON_LICENCE" then some "licence"
      else if name = "SAURON_LICENCE_ISSUER_PUBKEY_B64U" then
        some (String.ofList (List.replicate 32 'k'))
      else none
    parseLicence := fun _ =>
      some ⟨"licence", "licensee", "*", 1, 0, 1000000, String.ofList (List.replicate 64 's')⟩ }

/-- Two registrations. -/
def twoRegistrations : List AgentCall :=
  [registerWith '1' '2' 'p' "", registerWith '3' '4' 'q' ""]

/-- One after the other. -/
@[irreducible] def inTurn (faults : List (Option String)) : SrvConfig ℚ AppError String :=
  agentRun licensedEnv { registerWorld with faults := faults } twoRegistrations
    (List.replicate 30 (.step 0) ++ List.replicate 30 (.step 1))

/-- The second registration is refused. -/
theorem second_agent_refused :
    (inTurn []).result 1 = some (.error (.detailed 402 "agent_licence_ceiling_reached"
        "tenant 'default' has 1 active agents and the deployment licence allows 1")) ∧
      (activeAgents "default" (inTurn []).world.db : ℤ) ≤
        ceilingAt licensedEnv "default" (inTurn []).world.clockMs := by
  have hrun : (inTurn []).result 1 = some (.error (.detailed 402 "agent_licence_ceiling_reached"
        "tenant 'default' has 1 active agents and the deployment licence allows 1")) ∧
      (∀ e ∈ (inTurn []).log, ceilingAt licensedEnv "default" e.before.clockMs =
        ceilingAt licensedEnv "default" (inTurn []).world.clockMs) ∧
      LogOk (fun e older => staysBelow licensedEnv "default" e older = true) (inTurn []).log := by
    decide +kernel
  obtain ⟨hrefused, hlicence, hbelow⟩ := hrun
  have hids : IdsNodup registerWorld.db.agents := List.nodup_nil
  exact ⟨hrefused, licence_ceiling licensedEnv hids rfl twoRegistrations _ (inTurn [])
    (by unfold inTurn; rfl) hlicence hbelow⟩

/-- Statement by statement in turn. -/
@[irreducible] def interleaved : SrvConfig ℚ AppError String :=
  agentRun licensedEnv registerWorld twoRegistrations
    (List.replicate 30 [.step 0, .step 1]).flatten

/-- The same owner issues itself two credentials, a second apart. -/
@[irreducible] def issuedTwice : SrvConfig ℚ AppError String :=
  agentRun licensedEnv registerWorld
    [.issue "default" (some ownerSession) (issueWith '1' '2' "pop").body,
      .issue "default" (some ownerSession) (issueWith '3' '4' "pop2").body]
    (List.replicate 30 (.step 0) ++ [.tick 1000] ++ List.replicate 30 (.step 1))

/-- A credential is issued without a count; two registrations count before either inserts;
the count of the second registration fails. Each leaves two agents where the licence allows
one. -/
theorem ceiling_exceeded :
    (ceilingAt licensedEnv "default" issuedTwice.world.clockMs = 1 ∧
        activeAgents "default" issuedTwice.world.db = 2) ∧
      (ceilingAt licensedEnv "default" interleaved.world.clockMs = 1 ∧
        activeAgents "default" interleaved.world.db = 2) ∧
      ceilingAt licensedEnv "default"
          (inTurn (List.replicate 10 none ++ [some "busy"])).world.clockMs = 1 ∧
        activeAgents "default" (inTurn (List.replicate 10 none ++ [some "busy"])).world.db = 2 := by
  decide +kernel

end SauronID.Agent
