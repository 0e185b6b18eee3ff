import SauronID.Agent.Issue

/-!
# What issuing an agent does to the others

Runs of `POST /agent/vc/issue`. The upsert updates a row with the derived id and deletes
every row that has one of the new row's keys in a unique index. The counts before it look
for the signing key and the ring key image in rows that have not expired, so they miss
expired rows, rows written since, and the proof-of-possession key.
`issuing_keeps_agents` says what holds when an upsert meets none of these.
-/

namespace SauronID.Agent

open Conc Text Request

variable {F : Type} [Float64 F] (env : Env F)

/-- A request to issue an agent. -/
structure IssueCall where
  tenantId : String
  session : Option String
  body : AgentVcIssueBody

def IssueCall.prog (call : IssueCall) : Srv F AppError AgentVcIssueResponse :=
  agentVcIssue env call.tenantId call.session call.body

/-- An unrevoked agent of the tenant has one of the keys of the request. -/
def IssueCall.ClashesWith (call : IssueCall) (r : AgentRow) : Prop :=
  r.revoked = 0 ∧ r.tenantId = call.tenantId ∧
    (r.publicKeyHex ≠ "" ∧ r.publicKeyHex = call.body.publicKeyHex ∨
      r.ringKeyImageHex ≠ "" ∧ r.ringKeyImageHex = call.body.ringKeyImageHex ∨
      r.popPublicKeyB64u ≠ "" ∧ r.popPublicKeyB64u = call.body.popPublicKeyB64u)

variable {r row : AgentRow}

omit [Float64 F] in
/-- In the table the clash is one of the rows. -/
theorem IssueCall.ClashesWith.clashes {call : IssueCall} (h : call.ClashesWith r)
    (hrow : IssuedFor call.tenantId call.body row) : r.clashes row = true := by
  obtain ⟨hrev, htenant, hkey⟩ := h
  obtain ⟨rtenant, rpub, rki, rpop, ractive⟩ := hrow
  rw [← rpub, ← rki, ← rpop] at hkey
  simp only [AgentRow.clashes, AgentRow.sameActiveKey, hrev, ractive, htenant, rtenant]
  rcases hkey with ⟨hne, heq⟩ | ⟨hne, heq⟩ | ⟨hne, heq⟩ <;> simp [← heq, hne]

/-! ## The condition on an upsert -/

/-- The count of the holders of the signing key, if the entry is one, has seen the row. -/
def sawPublicKey (r : AgentRow) (e : LogEntry F) : Bool :=
  match e.label with
  | .select (.activePublicKey _ _ now) =>
    e.before.fault.isNone && e.before.db.agents.contains r && decide (r.expiresAt > now)
  | _ => true

/-- The count of the holders of the key image, if the entry is one, has seen the row. -/
def sawKeyImage (r : AgentRow) (e : LogEntry F) : Bool :=
  match e.label with
  | .select (.activeKeyImage _ _ now) =>
    e.before.fault.isNone && e.before.db.agents.contains r && decide (r.expiresAt > now)
  | _ => true

/-- When a row is upserted, its id is new, no unrevoked agent of the tenant has its
proof-of-possession key, and those that have its signing key or its key image were there
to be counted, unexpired, when the request counted them. -/
def upsertsNew (e : LogEntry F) (older : RunLog F) : Bool :=
  match e.label with
  | .write (.upsertAgent row) =>
    e.before.db.agents.all fun r =>
      r.agentId != row.agentId && !r.sameActiveKey AgentRow.popPublicKeyB64u row &&
        older.all fun e' => e'.thread != e.thread ||
          (!r.sameActiveKey AgentRow.publicKeyHex row || sawPublicKey r e') &&
            (!r.sameActiveKey AgentRow.ringKeyImageHex row || sawKeyImage r e')
  | _ => true

variable {env}

/-- A request upserts rows for itself, after its counts, and writes nothing else to the
agents. -/
def issueMay (call : Option IssueCall) (t : History F) (w : Write F) (_ : World F) : Prop :=
  match w with
  | .upsertAgent row => ∃ c, call = some c ∧ IssuedFor c.tenantId c.body row ∧
      Prechecked c.tenantId c.body t
  | w => w.table ≠ .agents

omit [Float64 F] in
theorem issueMay_unguarded (call : Option IssueCall) : Unguarded (issueMay (F := F) call) := by
  rintro t w s hfree
  cases w with
  | upsertAgent row => cases hfree
  | _ =>
    rintro htable
    rw [htable] at hfree
    cases hfree

/-- The row meets no other: neither its id nor its active keys are in the table. -/
def IsNew (row : AgentRow) (rows : List AgentRow) : Prop :=
  ∀ r ∈ rows, r.agentId ≠ row.agentId ∧ r.clashes row = false

theorem upsertAgents_of_isNew {rows : List AgentRow} (h : IsNew row rows) :
    upsertAgents rows row = .ok (rows ++ [row]) := by
  have hid : (rows.find? fun r => r.agentId == row.agentId) = none := by
    simpa using fun r hr => (h r hr).1
  have hkeep : rows.filter (fun r => !r.clashes row) = rows := by
    simpa using fun r hr => (h r hr).2
  simp [upsertAgents, hid, hkeep]

variable {s : World F}

/-- The only statement on the agents that a request may send. -/
theorem issueMay_agents {call : Option IssueCall} {t : History F} {lbl : Label F}
    (htable : lbl.table = .agents) (h : (srvRules (issueMay call)).may t lbl s) :
    ∃ row c, lbl = .write (.upsertAgent row) ∧ call = some c ∧
      IssuedFor c.tenantId c.body row ∧ Prechecked c.tenantId c.body t := by
  cases lbl with
  | write w =>
    cases w with
    | upsertAgent row =>
      obtain ⟨c, hc, hrow, hpre⟩ := h
      exact ⟨row, c, rfl, hc, hrow, hpre⟩
    | _ => exact absurd htable h
  | _ => cases htable

/-- The upsert of a new row adds it, or fails. -/
theorem afterWrite_upsert {s' : World F} (heff : (Label.write (.upsertAgent row)).Effect s s')
    (hnew : IsNew row s.db.agents) : s.db.agents <+: s'.db.agents := by
  cases heff
  rcases World.afterWrite_cases s (.upsertAgent row) with
    ⟨e, -, hdb⟩ | ⟨db, n, -, happly, -, hdb⟩
  · exact hdb ▸ List.prefix_refl _
  · simp only [Write.apply, upsertAgents_of_isNew hnew] at happly
    cases happly
    rw [hdb]
    exact List.prefix_append _ _

omit [Float64 F] in
/-- A row that a count of zero has seen does not have the key. -/
theorem sameActiveKey_of_foundFree {key : AgentRow → String} {tenantId value : String} {now : ℤ}
    (hfree : FoundFree key tenantId value now s) (htenant : row.tenantId = tenantId)
    (hkey : key row = value) (hsaw : s.fault = none ∧ r ∈ s.db.agents ∧ now < r.expiresAt) :
    r.sameActiveKey key row = false := by
  have hholds := hfree hsaw.1 r hsaw.2.1
  by_contra hsame
  simp only [AgentRow.sameActiveKey, Bool.not_eq_false, Bool.and_eq_true, beq_iff_eq] at hsame
  simp [holdsKey, hsame.1.1.2, hsame.1.1.1.1, hsame.2, htenant, hkey, hsaw.2.2] at hholds

omit [Float64 F] in
/-- Under the condition the counts have seen to it that the row is new. -/
theorem isNew_of_upsertsNew {i : ℕ} {log : RunLog F} {c : IssueCall}
    (hcond : upsertsNew ⟨i, .write (.upsertAgent row), s⟩ log = true)
    (hrow : IssuedFor c.tenantId c.body row)
    (hpre : Prechecked c.tenantId c.body (threadTrace i log)) : IsNew row s.db.agents := by
  intro r hr
  simp only [upsertsNew, List.all_eq_true] at hcond
  have hr' := hcond r hr
  simp only [Bool.and_eq_true, bne_iff_ne, ne_eq, Bool.not_eq_true', List.all_eq_true] at hr'
  obtain ⟨⟨hid, hpop⟩, hseen⟩ := hr'
  obtain ⟨⟨now, sPub, hpub, hfreePub⟩, now', sKi, hki, hfreeKi⟩ := hpre
  refine ⟨hid, ?_⟩
  have hnoPub : r.sameActiveKey AgentRow.publicKeyHex row = false := by
    by_contra hsame
    have hsaw : sPub.fault = none ∧ r ∈ sPub.db.agents ∧ now < r.expiresAt := by
      simpa [hsame, sawPublicKey, sawKeyImage, and_assoc] using hseen _ (mem_threadTrace.1 hpub)
    exact hsame (sameActiveKey_of_foundFree hfreePub hrow.tenant hrow.publicKey hsaw)
  have hnoKi : r.sameActiveKey AgentRow.ringKeyImageHex row = false := by
    by_contra hsame
    have hsaw : sKi.fault = none ∧ r ∈ sKi.db.agents ∧ now' < r.expiresAt := by
      simpa [hsame, sawPublicKey, sawKeyImage, and_assoc] using hseen _ (mem_threadTrace.1 hki)
    exact hsame (sameActiveKey_of_foundFree hfreeKi hrow.tenant hrow.keyImage hsaw)
  simp [AgentRow.clashes, hnoPub, hnoKi, hpop]

/-! ## Runs -/

section Runs

variable (calls : List IssueCall) (mid : World F) (midLog : RunLog F)

/-- What an entry that writes the agents is. -/
def Upsertion (e : LogEntry F) : Prop :=
  ∃ c row, calls[e.thread]? = some c ∧ e.label = .write (.upsertAgent row) ∧
    IssuedFor c.tenantId c.body row ∧ IsNew row e.before.db.agents

/-- The agents are only written by upserts of new rows, and since `mid` rows were only
added. -/
def AgentsGrow (s : World F) (log : RunLog F) : Prop :=
  (∀ e ∈ log, e.label.table = .agents → Upsertion calls e) ∧
    mid.db.agents <+: s.db.agents ∧
    ∀ e ∈ log, e ∈ midLog ∨ mid.db.agents <+: e.before.db.agents

theorem agentsGrow_invariant : TraceInvariant (fun i => srvRules (issueMay calls[i]?))
      (fun e older => upsertsNew e older = true) (AgentsGrow calls mid midLog) where
  tick _ h := h
  step := by
    rintro s log i lbl s' ⟨hwrites, hgrow, hthen⟩ hcond heff hmay
    have hthen' : ∀ e ∈ (⟨i, lbl, s⟩ :: log : RunLog F),
        e ∈ midLog ∨ mid.db.agents <+: e.before.db.agents := by
      intro e he
      rcases List.mem_cons.1 he with rfl | he
      · exact .inr hgrow
      · exact hthen e he
    by_cases htable : lbl.table = .agents
    · obtain ⟨row, c, rfl, hc, hrow, hpre⟩ := issueMay_agents htable hmay
      have hnew := isNew_of_upsertsNew hcond hrow hpre
      refine ⟨fun e he htable' => ?_, hgrow.trans (afterWrite_upsert heff hnew), hthen'⟩
      rcases List.mem_cons.1 he with rfl | he
      · exact ⟨c, row, hc, rfl, hrow, hnew⟩
      · exact hwrites e he htable'
    · refine ⟨fun e he htable' => ?_, ?_, hthen'⟩
      · rcases List.mem_cons.1 he with rfl | he
        · exact absurd htable' htable
        · exact hwrites e he htable'
      · rwa [(Label.Effect.sameOff heff).agents htable]

end Runs

variable (env) in
/-- The requests `calls` run together from `start`. -/
def issueRun (start : World F) (calls : List IssueCall) (sched : List Event) :
    SrvConfig F AppError AgentVcIssueResponse :=
  (Config.init start (calls.map (IssueCall.prog env))).run sched

variable (env) in
/-- **Issuance.** Every agent that is there at some point of the run is there, unchanged,
ever after; and a request that starts when an unrevoked agent of its tenant has one of its
keys does not succeed and writes no agent. -/
theorem issuing_keeps_agents (start : World F) (calls : List IssueCall) (es fs : List Event)
    (hlog : LogOk (fun e older => upsertsNew e older = true)
      (issueRun env start calls (es ++ fs)).log) :
    (issueRun env start calls es).world.db.agents <+:
        (issueRun env start calls (es ++ fs)).world.db.agents ∧
      ∀ (i : ℕ) (call : IssueCall), calls[i]? = some call →
        (∀ e ∈ (issueRun env start calls es).log, e.thread ≠ i) →
        (∃ r ∈ (issueRun env start calls es).world.db.agents, call.ClashesWith r) →
        (∀ a, (issueRun env start calls (es ++ fs)).result i ≠ some (.ok a)) ∧
          ∀ e ∈ (issueRun env start calls (es ++ fs)).log, e.thread = i →
            e.label.table ≠ .agents := by
  have hcalls : ∀ (i : ℕ) (call : IssueCall), calls[i]? = some call →
      (IssueCall.prog env call).Yields (srvRules (issueMay calls[i]?)) [] fun t _ =>
        ∃ row s, (.write (.upsertAgent row), s) ∈ t := fun i call hcall =>
    (agentVcIssue_yields (issueMay_unguarded _) fun _ _ _ hrow hpre =>
      ⟨call, hcall, hrow, hpre⟩).mono fun _ _ h => h.1
  have hinit : AgentsGrow calls start [] start [] :=
    ⟨List.forall_mem_nil _, List.prefix_refl _, List.forall_mem_nil _⟩
  obtain ⟨⟨hwrites, -, -⟩, -⟩ :=
    (agentsGrow_invariant calls start []).run_calls hcalls hinit es hlog.of_run
  obtain ⟨hwrites', hgrow, hthen⟩ := (agentsGrow_invariant calls _ _).run_then hcalls
    ⟨hwrites, List.prefix_refl _, fun _ he => .inl he⟩ hlog
  refine ⟨hgrow, fun i call hcall hstart ⟨r, hr, hclash⟩ => ?_⟩
  have hnone : ∀ e ∈ (issueRun env start calls (es ++ fs)).log, e.thread = i →
      e.label.table ≠ .agents := by
    rintro e he rfl htable
    obtain ⟨c, row, hc, -, hrow, hnew⟩ := hwrites' e he htable
    cases hcall.symm.trans hc
    -- The row that clashes was there before the request started and is still there.
    rcases hthen e he with hold | hkept
    · exact hstart e hold rfl
    · have hfalse := (hnew r (hkept.subset hr)).2
      rw [hclash.clashes hrow] at hfalse
      cases hfalse
  refine ⟨fun a ha => ?_, hnone⟩
  obtain ⟨row, s, hs⟩ := run_post hcalls hcall ha
  exact hnone _ (mem_threadTrace.1 hs) rfl rfl

/-! ## Keys in use -/

/-- The hash keeps its input, reversed. -/
def issueEnv : Env ℚ := { sampleEnv ℚ with sha256 := List.reverse }

def ownerKeyImage : String := String.ofList (List.replicate 64 '0')

/-- A session of the owner, good until second 100. -/
def ownerSession : String := "v3|default|" ++ ownerKeyImage ++ "|0|100|"

/-- An agent that is active until second 1000000. -/
def popAgent : AgentRow := { sampleAgent with popPublicKeyB64u := "pop" }

/-- The owner is linked to a bank; one agent is registered. -/
def issueWorld : World ℚ :=
  World.steady { Db.empty ℚ with
    agents := [popAgent], users := [⟨ownerKeyImage, ownerKeyImage⟩],
    bankLinks := [ownerKeyImage] } 5000

/-- A request of the owner with signing key, key image and proof-of-possession key. -/
def issueWith (publicKey keyImage : Char) (popKey : String) : IssueCall where
  tenantId := "default"
  session := some ownerSession
  body :=
    { humanKeyImage := "", agentChecksum := "checksum", description := "", scope := [],
      publicKeyHex := String.ofList (List.replicate 64 publicKey),
      ringKeyImageHex := String.ofList (List.replicate 64 keyImage),
      popJkt := "jkt", popPublicKeyB64u := popKey, ttlHours := 24 }

/-- Issuing an agent with the proof-of-possession key of another succeeds and deletes
the other. -/
theorem issuing_deletes_agent :
    ((issueRun issueEnv issueWorld [issueWith '1' '2' "pop"]
        (List.replicate 20 (.step 0))).result 0).any Except.isOk = true ∧
      popAgent ∈ issueWorld.db.agents ∧
      popAgent ∉ (issueRun issueEnv issueWorld [issueWith '1' '2' "pop"]
        (List.replicate 20 (.step 0))).world.db.agents := by
  decide +kernel

/-- The first request has keys of its own, the second the signing key of the agent. -/
def twoIssues : List IssueCall := [issueWith '1' '2' "pop2", issueWith '0' '3' "pop3"]

def issueInTurn : List Event := List.replicate 20 (.step 0) ++ List.replicate 20 (.step 1)

theorem issuing_keeps_agent :
    issueWorld.db.agents <+:
        (issueRun issueEnv issueWorld twoIssues ([] ++ issueInTurn)).world.db.agents ∧
      ∀ e ∈ (issueRun issueEnv issueWorld twoIssues ([] ++ issueInTurn)).log, e.thread = 1 →
        e.label.table ≠ .agents := by
  obtain ⟨hgrow, hclash⟩ := issuing_keeps_agents issueEnv issueWorld twoIssues [] issueInTurn
    (by decide +kernel)
  have hpop : (issueWith '0' '3' "pop3").ClashesWith popAgent := by
    refine ⟨rfl, rfl, .inl ⟨?_, rfl⟩⟩
    decide
  refine ⟨hgrow, ?_⟩
  exact (hclash 1 _ rfl (List.forall_mem_nil _) ⟨popAgent, .head _, hpop⟩).2

end SauronID.Agent
