import Mathlib.Logic.Relation
import SauronID.Agent.Revocation
import SauronID.Lib.Sequential

/-!
# The delegation tree

An agent may be registered as the child of another one of the same owner. The registration
reads the parent's row and refuses one that is revoked, one of another owner and one at the
greatest depth, but not one that has expired. `delegation_tree` says that the agents are a
forest of bounded depth after every sequence of registrations and revocations, and that a
parent was alive when its child was registered, if no request names one that has expired.
-/

namespace SauronID.Agent

open Conc Text Request

/-! ## Forests -/

/-- `p` can be the parent of `r`: of the same tenant and owner, one level above it. -/
structure Delegates (p r : AgentRow) : Prop where
  tenant : p.tenantId = r.tenantId
  human : p.humanKeyImage = r.humanKeyImage
  depth : r.delegationDepth = p.delegationDepth + 1
  depth_le : r.delegationDepth ≤ maxDelegationDepth

/-- A table of agents in which a row without a parent has depth 0, and every other row has
its parent in the table, one level above it. -/
structure DelegationTree (rows : List AgentRow) : Prop where
  ids : IdsNodup rows
  depth_nonneg : ∀ r ∈ rows, 0 ≤ r.delegationDepth
  root : ∀ r ∈ rows, r.parentAgentId = none → r.delegationDepth = 0
  child : ∀ r ∈ rows, ∀ a, r.parentAgentId = some a → ∃ p ∈ rows, p.agentId = a ∧ Delegates p r

/-- The parent relation of a table. -/
def ParentIn (rows : List AgentRow) (p r : AgentRow) : Prop :=
  p ∈ rows ∧ r ∈ rows ∧ r.parentAgentId = some p.agentId

/-- `x` is `n` parents above `r`. -/
inductive Above (rows : List AgentRow) : ℕ → AgentRow → AgentRow → Prop
  | self (r : AgentRow) : Above rows 0 r r
  | parent {n : ℕ} {r p x : AgentRow} : ParentIn rows p r → Above rows n p x →
      Above rows (n + 1) r x

namespace DelegationTree

variable {rows : List AgentRow} (h : DelegationTree rows)

include h

variable {r : AgentRow}

theorem delegates {p : AgentRow} (hpr : ParentIn rows p r) : Delegates p r := by
  obtain ⟨hp, hr, hparent⟩ := hpr
  obtain ⟨p', hp', hid, hdelegates⟩ := h.child r hr _ hparent
  rwa [List.inj_on_of_nodup_map h.ids hp hp' hid.symm]

/-- The parent relation has no cycles. -/
theorem acyclic (r : AgentRow) : ¬Relation.TransGen (ParentIn rows) r r := by
  intro hcycle
  have hdepth : Relation.TransGen (· < ·) r.delegationDepth r.delegationDepth := by
    refine Relation.TransGen.lift AgentRow.delegationDepth (fun p c hpc => ?_) _ _ hcycle
    exact Int.lt_iff_add_one_le.2 (h.delegates hpc).depth.ge
  rw [Relation.transGen_eq_self] at hdepth
  exact lt_irrefl _ hdepth

variable {n : ℕ} {x : AgentRow}

/-- A step up is a level of depth. -/
theorem depth_eq_of_above (hx : Above rows n r x) : r.delegationDepth = x.delegationDepth + n := by
  induction hx with
  | self r => simp
  | parent hpr _ ih =>
    rw [(h.delegates hpr).depth, ih]
    push_cast
    omega

theorem depth_le (hr : r ∈ rows) : r.delegationDepth ≤ maxDelegationDepth := by
  cases hparent : r.parentAgentId with
  | none =>
    rw [h.root r hr hparent]
    decide
  | some a =>
    obtain ⟨p, -, -, hdelegates⟩ := h.child r hr a hparent
    exact hdelegates.depth_le

theorem above_le (hr : r ∈ rows) (hx : x ∈ rows)
    (habove : Above rows n r x) : (n : ℤ) ≤ maxDelegationDepth := by
  have hdepth := h.depth_eq_of_above habove
  have hle := h.depth_le hr
  have hnonneg := h.depth_nonneg x hx
  omega

/-- Every chain of parents ends in a root. -/
theorem exists_root (hr : r ∈ rows) :
    ∃ (n : ℕ) (x : AgentRow), x ∈ rows ∧ Above rows n r x ∧ x.parentAgentId = none ∧
      x.delegationDepth = 0 := by
  -- by induction on the depth
  obtain ⟨d, hd⟩ := Int.eq_ofNat_of_zero_le (h.depth_nonneg r hr)
  induction d generalizing r with
  | zero =>
    cases hparent : r.parentAgentId with
    | none => exact ⟨0, r, hr, .self r, hparent, hd⟩
    | some a =>
      obtain ⟨p, hp, -, hdelegates⟩ := h.child r hr a hparent
      have hdepth := hdelegates.depth
      have hnonneg := h.depth_nonneg p hp
      omega
  | succ d ih =>
    cases hparent : r.parentAgentId with
    | none =>
      have hzero := h.root r hr hparent
      omega
    | some a =>
      obtain ⟨p, hp, rfl, hdelegates⟩ := h.child r hr a hparent
      have hdepth := hdelegates.depth
      obtain ⟨n, x, hx, habove, hroot, hzero⟩ := ih hp (by omega)
      exact ⟨n + 1, x, hx, .parent ⟨hp, hr, hparent⟩ habove, hroot, hzero⟩

/-- A new row without a parent, or below a row of the table, keeps the tree. -/
theorem append {row : AgentRow} (hnew : ∀ r ∈ rows, r.agentId ≠ row.agentId)
    (hrow : (row.parentAgentId = none ∧ row.delegationDepth = 0) ∨
      ∃ p ∈ rows, row.parentAgentId = some p.agentId ∧ Delegates p row) :
    DelegationTree (rows ++ [row]) where
  ids := h.ids.append hnew
  depth_nonneg := by
    rw [List.forall_mem_append, List.forall_mem_singleton]
    refine ⟨h.depth_nonneg, ?_⟩
    rcases hrow with ⟨-, hzero⟩ | ⟨p, hp, -, hdelegates⟩
    · exact hzero.ge
    · rw [hdelegates.depth]
      exact Int.le_add_one (h.depth_nonneg p hp)
  root := by
    rw [List.forall_mem_append, List.forall_mem_singleton]
    refine ⟨h.root, fun hnone => ?_⟩
    rcases hrow with ⟨-, hzero⟩ | ⟨p, -, hparent, -⟩
    · exact hzero
    · cases hnone.symm.trans hparent
  child := by
    rw [List.forall_mem_append, List.forall_mem_singleton]
    refine ⟨fun r hr a ha => ?_, fun a ha => ?_⟩
    · obtain ⟨p, hp, hpr⟩ := h.child r hr a ha
      exact ⟨p, List.mem_append_left _ hp, hpr⟩
    · rcases hrow with ⟨hnone, -⟩ | ⟨p, hp, hparent, hdelegates⟩
      · cases hnone.symm.trans ha
      · cases hparent.symm.trans ha
        exact ⟨p, List.mem_append_left _ hp, rfl, hdelegates⟩

end DelegationTree

theorem DelegationTree.revoke {rows : List AgentRow} (h : DelegationTree rows)
    (a human tenantId : String) : DelegationTree (rows.map (·.revokeIf a human tenantId)) where
  ids := by simpa [IdsNodup, Function.comp_def] using h.ids
  depth_nonneg := by
    refine List.forall_mem_map.2 fun r hr => ?_
    obtain ⟨n, hn⟩ := AgentRow.revokeIf_eq a human tenantId r
    rw [hn]
    exact h.depth_nonneg r hr
  root := by
    refine List.forall_mem_map.2 fun r hr => ?_
    obtain ⟨n, hn⟩ := AgentRow.revokeIf_eq a human tenantId r
    rw [hn]
    exact h.root r hr
  child := by
    refine List.forall_mem_map.2 fun r hr => ?_
    obtain ⟨n, hn⟩ := AgentRow.revokeIf_eq a human tenantId r
    rw [hn]
    intro b hb
    obtain ⟨p, hp, hid, hdelegates⟩ := h.child r hr b hb
    refine ⟨_, List.mem_map_of_mem hp, by simpa using hid, ?_⟩
    obtain ⟨m, hm⟩ := AgentRow.revokeIf_eq a human tenantId p
    rw [hm]
    exact ⟨hdelegates.tenant, hdelegates.human, hdelegates.depth, hdelegates.depth_le⟩

/-! ## Runs -/

variable {F : Type} [Float64 F] {env : Env F}

/-- The statement inserts a child of `a`, in a table where the parent is alive. -/
def BornOf (a childId : String) (e : LogEntry F) : Prop :=
  ∃ row n, e.label = .write (.insertAgent row) ∧ e.before.writeResult (.insertAgent row) = .ok n ∧
    row.agentId = childId ∧ ∃ p ∈ e.before.db.agents, p.agentId = a ∧ Delegates p row ∧
      p.revoked = 0 ∧ e.before.nowSecs ≤ p.expiresAt

/-- No child is inserted below a parent that has expired. -/
def parentUnexpired (e : LogEntry F) : Bool :=
  match e.label with
  | .write (.insertAgent row) => e.before.db.agents.all fun p =>
      some p.agentId != row.parentAgentId || decide (e.before.nowSecs ≤ p.expiresAt)
  | _ => true

/-- A request that registers an agent only adds agents. -/
def AddsAgents (calls : List AgentCall) (i : ℕ) (s s' : World F) : Prop :=
  (∃ tenantId session req, calls[i]? = some (.register tenantId session req)) →
    s.db.agents ⊆ s'.db.agents

variable {calls : List AgentCall} {i : ℕ} {s : World F}

theorem addsAgents_of_effect {t : History F} {lbl : Label F} {s' : World F} (heff : lbl.Effect s s')
    (hmay : (srvRules (agentMay env calls[i]?)).may t lbl s) : AddsAgents calls i s s' := by
  rintro ⟨tenantId, session, req, hcall⟩
  have hagents := agentsStep_of_effect heff
  generalize s.db.agents = rows, s'.db.agents = rows' at hagents
  cases hagents with
  | same => exact List.Subset.refl _
  | upsert _ =>
    obtain ⟨_, _, _, hissue, -⟩ := hmay
    cases hcall.symm.trans hissue
  | insert h =>
    obtain ⟨-, rfl⟩ := insertAgents_eq_ok h
    exact List.subset_append_left _ _
  | revoke =>
    obtain ⟨_, hrevoke⟩ := hmay
    cases hcall.symm.trans hrevoke
  | checksum => exact hmay.elim

/-- The agents are a delegation tree, and every child was born of a parent that was alive,
or was there at the start. -/
structure Delegating (calls : List AgentCall) (start s : World F) (log : RunLog F) : Prop where
  tree : DelegationTree s.db.agents
  kept : KeptByLast (AddsAgents calls) s log
  born : ∀ r ∈ s.db.agents, ∀ a, r.parentAgentId = some a →
    r.agentId ∈ start.db.agents.map (·.agentId) ∨ ∃ e ∈ log, BornOf a r.agentId e

variable {start : World F} {log : RunLog F}

theorem Delegating.born_cons (h : Delegating calls start s log) {r : AgentRow}
    (hr : r ∈ s.db.agents) {a : String} (ha : r.parentAgentId = some a) (e : LogEntry F) :
    r.agentId ∈ start.db.agents.map (·.agentId) ∨ ∃ e' ∈ e :: log, BornOf a r.agentId e' := by
  refine (h.born r hr a ha).imp_right ?_
  rintro ⟨e', he', hborn⟩
  exact ⟨e', List.mem_cons_of_mem _ he', hborn⟩

/-- What a registration that runs alone has read of a parent is still so. -/
theorem Delegating.parent_of_insert (h : Delegating calls start s log) {row : AgentRow}
    (hrun : uninterrupted (⟨i, .write (.insertAgent row), s⟩ : LogEntry F) log = true)
    (hmay : agentMay env calls[i]? (threadTrace i log) (.insertAgent row) s) :
    (row.parentAgentId = none ∧ row.delegationDepth = 0) ∨
      ∃ p ∈ s.db.agents, row.parentAgentId = some p.agentId ∧ Delegates p row ∧ p.revoked = 0 := by
  obtain ⟨tenantId, session, req, hcall, hrow⟩ := hmay
  refine hrow.delegated.imp_right ?_
  rintro ⟨s₀, p, hs₀, hp, htenant, hrevoked, hhuman, hparent, hdepth, hle⟩
  have hsub := h.kept.before hrun (mem_threadTrace.1 hs₀) rfl ⟨_, _, _, hcall⟩
  exact ⟨p, hsub hp, hparent, ⟨htenant.trans hrow.tenant.symm, hhuman, hdepth, hle⟩, hrevoked⟩

theorem delegating_invariant
    (hissue : ∀ tenantId session body, .issue tenantId session body ∉ calls) (start : World F) :
    TraceInvariant (fun i => srvRules (agentMay env calls[i]?))
      (fun e older => uninterrupted e older = true ∧ parentUnexpired e = true)
      (Delegating calls start) where
  tick d h := ⟨h.tree, fun last hlast e he hthread => h.kept last hlast e he hthread, h.born⟩
  step := by
    rintro s log i lbl s' h ⟨hrun, halive⟩ heff hmay
    have hkept : KeptByLast (AddsAgents calls) s' (⟨i, lbl, s⟩ :: log) :=
      (keptByLast_invariant (R := fun i => srvRules (agentMay env calls[i]?))
        (fun i _ _ _ h₁ h₂ hcall => List.Subset.trans (h₁ hcall) (h₂ hcall))
        (fun i d s _ => List.Subset.refl _)
        (fun i => addsAgents_of_effect)).step h.kept hrun heff hmay
    have hagents := agentsStep_of_effect heff
    generalize hrows : s.db.agents = rows, hrows' : s'.db.agents = rows' at hagents
    cases hagents with
    | same =>
      refine ⟨hrows' ▸ hrows ▸ h.tree, hkept, fun r hr a ha => ?_⟩
      exact h.born_cons (by rwa [hrows, ← hrows']) ha _
    | upsert _ =>
      obtain ⟨_, _, _, hcall, -⟩ := hmay
      exact absurd (List.mem_of_getElem? hcall) (hissue _ _ _)
    | @insert row _ _ hins =>
      obtain ⟨hnew, rfl⟩ := insertAgents_eq_ok hins
      have hparent := h.parent_of_insert hrun hmay
      refine ⟨?_, hkept, fun r hr a ha => ?_⟩
      · rw [hrows']
        refine DelegationTree.append (hrows ▸ h.tree) hnew (hparent.imp_right ?_)
        rintro ⟨p, hp, hid, hdelegates, -⟩
        exact ⟨p, hrows ▸ hp, hid, hdelegates⟩
      · rw [hrows'] at hr
        rcases List.mem_append.1 hr with hr | hr
        · exact h.born_cons (hrows ▸ hr) ha _
        · cases List.mem_singleton.1 hr
          obtain ⟨hnone, -⟩ | ⟨p, hp, hid, hdelegates, hrevoked⟩ := hparent
          · cases hnone.symm.trans ha
          obtain ⟨n, hn⟩ := writeResult_of_inserted heff (by rw [hrows', hrows])
          have hunexpired : s.nowSecs ≤ p.expiresAt := by
            have hall := List.all_eq_true.1 halive p hp
            simpa [hid] using hall
          cases hid.symm.trans ha
          exact .inr ⟨_, List.mem_cons_self, row, n, rfl, hn, rfl, p, hp, rfl, hdelegates,
            hrevoked, hunexpired⟩
    | @revoke b human tenantId _ =>
      refine ⟨?_, hkept, fun r hr a ha => ?_⟩
      · rw [hrows', ← hrows]
        exact h.tree.revoke b human tenantId
      · rw [hrows'] at hr
        obtain ⟨r₀, hr₀, rfl⟩ := List.mem_map.1 hr
        have hmem : r₀ ∈ s.db.agents := by rwa [hrows]
        obtain ⟨n, hn⟩ := AgentRow.revokeIf_eq b human tenantId r₀
        rw [hn] at ha ⊢
        exact h.born_cons hmem ha _
    | checksum => exact hmay.elim

variable (env) in
/-- **Delegation.** After every sequence of registrations and revocations the agents are a
forest: the parent relation has no cycles, and every chain of parents ends in an agent of
depth 0 after at most `maxDelegationDepth` steps. If no request names a parent that has
expired, every child was registered when its parent was alive. -/
theorem delegation_tree {start : World F} (htree : DelegationTree start.db.agents)
    (calls : List AgentCall)
    (hissue : ∀ tenantId session body, .issue tenantId session body ∉ calls)
    (sched : List Event) (c : Config (Label F) (World F) AppError String)
    (hc : c = agentRun env start calls sched)
    (hsequence : LogOk (fun e older => uninterrupted e older = true) c.log)
    (hunexpired : ∀ e ∈ c.log, parentUnexpired e = true) :
    (∀ r ∈ c.world.db.agents, ∀ a, r.parentAgentId = some a →
        (r.agentId ∈ start.db.agents.map (·.agentId) ∨ ∃ e ∈ c.log, BornOf a r.agentId e) ∧
        ∃ p ∈ c.world.db.agents, p.agentId = a ∧ Delegates p r) ∧
      (∀ r, ¬Relation.TransGen (ParentIn c.world.db.agents) r r) ∧
      (∀ n, ∀ r ∈ c.world.db.agents, ∀ x ∈ c.world.db.agents, Above c.world.db.agents n r x →
        (n : ℤ) ≤ maxDelegationDepth) ∧
      ∀ r ∈ c.world.db.agents, ∃ n, ∃ x ∈ c.world.db.agents, Above c.world.db.agents n r x ∧
        x.parentAgentId = none ∧ x.delegationDepth = 0 := by
  subst hc
  have hinit : Delegating calls start start [] :=
    { tree := htree
      kept := by
        intro last hlast
        cases hlast
      born := fun r hr a _ => .inl (List.mem_map_of_mem hr) }
  obtain ⟨h, -⟩ := (delegating_invariant hissue start).run_calls (agentCalls_yield calls) hinit
    sched (hsequence.and_forall hunexpired)
  refine ⟨fun r hr a ha => ⟨h.born r hr a ha, h.tree.child r hr a ha⟩, h.tree.acyclic,
    fun n r hr x hx => h.tree.above_le hr hx, fun r hr => ?_⟩
  obtain ⟨n, x, hx, hrest⟩ := h.tree.exists_root hr
  exact ⟨n, x, hx, hrest⟩

/-! ## An expired parent -/

/-- An agent, and a child of it. -/
def parentAndChild : List AgentCall :=
  [registerWith '1' '2' 'p' "", registerWith '3' '4' 'q' "agt_"]

/-- The child is registered `delay` seconds after its parent. -/
@[irreducible] def childAfter (delay : ℕ) : SrvConfig ℚ AppError String :=
  agentRun registerEnv registerWorld parentAndChild
    (List.replicate 30 (.step 0) ++ [.tick (1000 * delay)] ++ List.replicate 30 (.step 1))

/-- The child of an agent that has ten seconds left. -/
theorem child_of_living_parent :
    ((childAfter 50).world.db.agents.map fun r =>
        (r.agentId, r.parentAgentId, r.delegationDepth)) =
        [("agt_", none, 0), ("agt_ff", some "agt_", 1)] ∧
      ∀ r ∈ (childAfter 50).world.db.agents, ∀ a, r.parentAgentId = some a →
        ∃ e ∈ (childAfter 50).log, BornOf a r.agentId e := by
  have hrun : ((childAfter 50).world.db.agents.map fun r =>
        (r.agentId, r.parentAgentId, r.delegationDepth)) =
        [("agt_", none, 0), ("agt_ff", some "agt_", 1)] ∧
      LogOk (fun e older => uninterrupted e older = true) (childAfter 50).log ∧
      ∀ e ∈ (childAfter 50).log, parentUnexpired e = true := by
    decide +kernel
  obtain ⟨hrows, hsequence, hunexpired⟩ := hrun
  refine ⟨hrows, fun r hr a ha => ?_⟩
  have htree : DelegationTree registerWorld.db.agents :=
    ⟨List.nodup_nil, List.forall_mem_nil _, List.forall_mem_nil _, List.forall_mem_nil _⟩
  have h := delegation_tree registerEnv htree parentAndChild
    (by simp [parentAndChild, registerWith]) _ (childAfter 50)
    (by unfold childAfter; rfl) hsequence hunexpired
  exact (h.1 r hr a ha).1.resolve_left List.not_mem_nil

/-- When the statement inserts the child, every agent there is has expired. -/
def childOfExpired (e : LogEntry ℚ) : Bool :=
  match e.label with
  | .write (.insertAgent row) => row.agentId != "agt_ff" ||
      e.before.db.agents.all fun p => decide (p.expiresAt < e.before.nowSecs)
  | _ => true

/-- The parent was registered at second 5 for a minute; at second 75 it gets a child. -/
theorem child_of_expired_parent :
    LogOk (fun e older => uninterrupted e older = true) (childAfter 70).log ∧
      ((childAfter 70).world.db.agents.map fun r => (r.agentId, r.parentAgentId, r.expiresAt)) =
        [("agt_", none, 65), ("agt_ff", some "agt_", 135)] ∧
      ∀ e ∈ (childAfter 70).log, ¬BornOf "agt_" "agt_ff" e := by
  have hrun : LogOk (fun e older => uninterrupted e older = true) (childAfter 70).log ∧
      ((childAfter 70).world.db.agents.map fun r => (r.agentId, r.parentAgentId, r.expiresAt)) =
        [("agt_", none, 65), ("agt_ff", some "agt_", 135)] ∧
      (childAfter 70).log.all childOfExpired = true := by
    decide +kernel
  obtain ⟨hsequence, hrows, hexpired⟩ := hrun
  refine ⟨hsequence, hrows, ?_⟩
  rintro e he ⟨row, n, hlabel, -, hid, p, hp, -, -, -, halive⟩
  have hrow := List.all_eq_true.1 hexpired e he
  simp only [childOfExpired, hlabel, hid, bne_self_eq_false, Bool.false_or, List.all_eq_true,
    decide_eq_true_eq] at hrow
  exact absurd (hrow p hp) (not_lt.2 halive)

end SauronID.Agent
