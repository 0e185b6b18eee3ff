import SauronID.Agent.Register

/-!
# Rotating a checksum

`POST /agent/:agent_id/checksum/update` replaces the inputs of an agent's checksum. After the
owner is checked, `rotate_inputs` reads the stored row, updates it, sets the checksum of the
agent and adds a row to the trail: four statements on three tables, each on its own.
-/

namespace SauronID.Agent

open Conc Text Request

variable {F : Type} [Float64 F] (env : Env F)

/-- The stored inputs of an agent. -/
def checksumInputsOf (agentId : String) (db : Db F) : Option ChecksumInputsRow :=
  db.checksumInputs.find? fun r => r.agentId == agentId

/-- `rotate_inputs`; the result is the new version. -/
def rotateInputs (agentId newAgentType newCanonical newChecksum reason actor : String) (now : ℤ) :
    Srv F String ℤ := do
  let prev ← Srv.require (.checksumInputs agentId) (checksumInputsOf agentId)
    "agent has no checksum_inputs row (legacy registration)"
  let prevInputsSha := "sha256:" ++ env.sha256Hex (utf8 prev.inputsCanonical)
  let newInputsSha := "sha256:" ++ env.sha256Hex (utf8 newCanonical)
  let newVersion := prev.version + 1
  let _ ← (Srv.execute (.updateChecksumInputs agentId newAgentType newCanonical newChecksum
    newVersion now)).mapErr fun e => s!"update agent_checksum_inputs: {e}"
  let _ ← (Srv.execute (.setAgentChecksum agentId newChecksum)).mapErr fun e =>
    s!"update agents.agent_checksum: {e}"
  let _ ← (Srv.execute (.insertChecksumAudit ⟨agentId, prev.computedChecksum, newChecksum,
    prevInputsSha, newInputsSha, reason, actor, now⟩)).mapErr fun e =>
      s!"insert agent_checksum_audit: {e}"
  return newVersion

structure ChecksumUpdateRequest where
  agentType : String
  checksumInputs : Json
  reason : String

structure ChecksumUpdateResponse where
  agentId : String
  fromChecksum : String
  toChecksum : String
  version : ℤ
  deriving DecidableEq, Repr

/-- `update_agent_checksum`; `session` is the `x-sauron-session` header. -/
def updateAgentChecksum (tenantId : String) (session : Option String) (agentId : String)
    (req : ChecksumUpdateRequest) : Srv F AppError ChecksumUpdateResponse := do
  let actor ← requireSession env tenantId session
  let (canonical, newChecksum) ←
    .ofExcept ((computeChecksum env req.agentType req.checksumInputs).mapError fun e =>
      AppError.ofStatus 400 e.display)
  let owner ← Srv.require .other (fun db => (db.agents.find? fun r =>
      r.agentId == agentId && r.revoked == 0 && r.tenantId == tenantId).map (·.humanKeyImage))
    (.ofStatus 404 "agent not found or revoked")
  .rejectIf (owner ≠ actor)
    (.ofStatus 403 "only the registering human can rotate this agent's checksum")
  let prevChecksum ← Srv.scalarOr .other (fun db => (db.agents.find? fun r =>
    r.agentId == agentId && r.tenantId == tenantId).map (·.agentChecksum)) ""
  let now ← Srv.nowSecs
  let stored := storagePayload env canonical newChecksum
  let newVersion ← (rotateInputs env agentId req.agentType stored newChecksum req.reason actor
    now).mapErr (AppError.ofStatus 500)
  return ⟨agentId, prevChecksum, newChecksum, newVersion⟩

/-! ## Requests -/

/-- The requests that store the inputs of a checksum; the result is the agent. -/
inductive ChecksumCall where
  | register (tenantId : String) (session : Option String) (req : RegisterAgentRequest)
  | update (tenantId : String) (session : Option String) (agentId : String)
      (req : ChecksumUpdateRequest)

def ChecksumCall.prog : ChecksumCall → Srv F AppError String
  | .register tenantId session req => do
    let resp ← registerAgent env tenantId session req
    return resp.agentId
  | .update tenantId session agentId req => do
    let resp ← updateAgentChecksum env tenantId session agentId req
    return resp.agentId

/-! ## Statements -/

/-- `UPDATE agent_checksum_inputs` at one row. -/
def updateInputsIf (agentId agentType canonical checksum : String) (version now : ℤ)
    (r : ChecksumInputsRow) : ChecksumInputsRow :=
  if r.agentId == agentId then
    { r with agentType := agentType, inputsCanonical := canonical, computedChecksum := checksum,
             version := version, updatedAt := now }
  else r

omit [Float64 F] in
@[simp] theorem updateInputsIf_agentId (a agentType canonical checksum : String)
    (version now : ℤ) (r : ChecksumInputsRow) :
    (updateInputsIf a agentType canonical checksum version now r).agentId = r.agentId := by
  unfold updateInputsIf
  split <;> rfl

/-- What a statement does to the stored inputs: nothing, if it is not one on them or has
failed, or it inserts or updates. -/
theorem inputs_of_effect {lbl : Label F} {s s' : World F} (heff : lbl.Effect s s') :
    (s'.db.checksumInputs = s.db.checksumInputs ∧
        ∀ w n, lbl = .write w → w.table = .checksumInputs → s.writeResult w ≠ .ok n) ∨
      (∃ row n, lbl = .write (.insertChecksumInputs row) ∧
        s.writeResult (.insertChecksumInputs row) = .ok n ∧
        (∀ r ∈ s.db.checksumInputs, r.agentId ≠ row.agentId) ∧
        s'.db.checksumInputs = s.db.checksumInputs ++ [row]) ∨
      ∃ a agentType canonical checksum version now n,
        lbl = .write (.updateChecksumInputs a agentType canonical checksum version now) ∧
        s.writeResult (.updateChecksumInputs a agentType canonical checksum version now) = .ok n ∧
        s'.db.checksumInputs = s.db.checksumInputs.map
          (updateInputsIf a agentType canonical checksum version now) := by
  by_cases htable : lbl.table = .checksumInputs
  swap
  · refine .inl ⟨(Label.Effect.sameOff heff).checksumInputs htable, fun w n hw hinputs => ?_⟩
    rw [hw] at htable
    exact absurd hinputs htable
  obtain ⟨w, rfl, ⟨e, he, hdb⟩ | ⟨db, n, -, happly, hn, hdb⟩⟩ := heff.written (by simp [htable])
  · refine .inl ⟨by rw [hdb], fun w' n hw _ hn => ?_⟩
    cases hw
    rw [he] at hn
    cases hn
  cases w with
  | insertChecksumInputs row =>
    simp only [Write.apply] at happly
    split at happly
    · cases happly
    · next hfree =>
      cases happly
      refine .inr (.inl ⟨row, 1, rfl, hn, ?_, by rw [hdb]⟩)
      simpa using hfree
  | updateChecksumInputs a agentType canonical checksum version now =>
    cases happly
    refine .inr (.inr ⟨a, agentType, canonical, checksum, version, now, _, rfl, hn, ?_⟩)
    rw [hdb]
    rfl
  | _ => cases htable

/-! ## Specifications -/

variable {env} {may : May F} {t : History F}

/-- The last statement of the history has read the stored inputs of the agent. -/
def Selected (a : String) (prev : ChecksumInputsRow) (t : History F) : Prop :=
  ∃ s t', t = (.select (.checksumInputs a), s) :: t' ∧ checksumInputsOf a s.db = some prev

/-- The last statement has replaced the inputs that were read right before it. -/
def Updated (a checksum : String) (prev : ChecksumInputsRow) (t : History F) : Prop :=
  ∃ agentType canonical now s n t',
    t = (.write (.updateChecksumInputs a agentType canonical checksum (prev.version + 1) now),
      s) :: t' ∧
    s.writeResult (.updateChecksumInputs a agentType canonical checksum (prev.version + 1) now) =
      .ok n ∧ Selected a prev t'

/-- The last statement has set the checksum of the agent to that of the inputs. -/
def Rechecked (a checksum : String) (prev : ChecksumInputsRow) (t : History F) : Prop :=
  ∃ s n t', t = (.write (.setAgentChecksum a checksum), s) :: t' ∧
    s.writeResult (.setAgentChecksum a checksum) = .ok n ∧ Updated a checksum prev t'

/-- The three writes of a rotation, each after what came before it. -/
structure MayRotate (may : May F) (agentId agentType canonical checksum : String) : Prop where
  update : ∀ t s prev now, Selected agentId prev t → may t
    (.updateChecksumInputs agentId agentType canonical checksum (prev.version + 1) now) s
  set : ∀ t s prev, Updated agentId checksum prev t → may t (.setAgentChecksum agentId checksum) s
  audit : ∀ t s prev row, Rechecked agentId checksum prev t → row.agentId = agentId →
    row.fromChecksum = prev.computedChecksum → row.toChecksum = checksum →
    may t (.insertChecksumAudit row) s

theorem rotateInputs_yields {agentId agentType canonical checksum reason actor : String} {now : ℤ}
    (hmay : MayRotate may agentId agentType canonical checksum) :
    (rotateInputs env agentId agentType canonical checksum reason actor now).Yields
      (srvRules may) t fun _ _ => True := by
  refine Srv.yields_require fun s₀ prev _ hprev => ?_
  have hselected : Selected agentId prev ((.select (.checksumInputs agentId), s₀) :: t) :=
    ⟨s₀, t, rfl, hprev⟩
  refine .bind (.mapErr (Srv.yields_execute fun s₁ =>
    ⟨hmay.update _ _ _ _ hselected, fun n hn => ?_⟩))
  have hupdated :
      Updated agentId checksum prev (_ :: (.select (.checksumInputs agentId), s₀) :: t) :=
    ⟨agentType, canonical, now, s₁, n, _, rfl, hn, hselected⟩
  refine .bind (.mapErr (Srv.yields_execute fun s₂ =>
    ⟨hmay.set _ _ _ hupdated, fun n hn => ?_⟩))
  refine .bind (.mapErr (Srv.yields_execute fun s₃ =>
    ⟨hmay.audit _ _ prev _ ⟨s₂, n, _, rfl, hn, hupdated⟩ rfl rfl rfl, fun n hn => ?_⟩))
  exact Prog.yields_pure trivial

theorem updateAgentChecksum_yields {tenantId : String} {session : Option String} {agentId : String}
    {req : ChecksumUpdateRequest} (hmay : ∀ canonical checksum,
      computeChecksum env req.agentType req.checksumInputs = .ok (canonical, checksum) →
      MayRotate may agentId req.agentType (storagePayload env canonical checksum) checksum) :
    (updateAgentChecksum env tenantId session agentId req).Yields (srvRules may) t
      fun _ _ => True := by
  refine requireSession_yields.andThen fun t₁ actor _ _ => ?_
  refine .ofExcept fun ⟨canonical, checksum⟩ hchecksum => ?_
  refine Srv.yields_require fun s owner _ _ => .rejectIf fun _ => ?_
  refine .bind (Srv.yields_scalarOr fun s' prevChecksum _ => Srv.yields_nowSecs fun sNow => ?_)
  refine (rotateInputs_yields (hmay _ _ (eq_ok_of_mapError hchecksum))).mapErr.andThen ?_
  exact fun _ _ _ _ => Prog.yields_pure trivial

end SauronID.Agent
