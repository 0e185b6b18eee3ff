import SauronID.Agent.Revocation
import SauronID.Agent.Rotation

/-!
# The gate for custom checksums

A custom agent has no required inputs, so that its checksum binds nothing; a deployment that
does not allow such agents refuses to register one. `inputs_stay_typed` says that every stored
row then has a type with required inputs, and was computed from inputs that had them, as long
as no rotation asks for the custom type: `update_agent_checksum` does not have the gate.
-/

namespace SauronID.Agent

open Conc Request

variable {F : Type} [Float64 F] (env : Env F)

/-- What is stored is of a type with required inputs, and the checksum was computed from
inputs that had all of them. -/
def TypedInputs (agentType stored checksum : String) : Prop :=
  ∃ kind inputs canonical, AgentType.parse agentType = some kind ∧ kind ≠ .custom ∧
    computeChecksum env agentType inputs = .ok (canonical, checksum) ∧
    stored = storagePayload env canonical checksum ∧
    ∀ field ∈ kind.requiredFields, Present inputs field

/-- The requests run together from `start`. -/
def checksumRun (start : World F) (calls : List ChecksumCall) (sched : List Event) :
    SrvConfig F AppError String :=
  (Config.init start (calls.map (ChecksumCall.prog env))).run sched

/-- A request stores typed inputs only. -/
def typedMay (_ : History F) (w : Write F) (_ : World F) : Prop :=
  match w with
  | .insertChecksumInputs row => TypedInputs env row.agentType row.inputsCanonical
      row.computedChecksum
  | .updateChecksumInputs _ agentType canonical checksum _ _ =>
      TypedInputs env agentType canonical checksum
  | _ => True

/-- All stored inputs are typed, and what was stored for an agent is still there. -/
structure AllTyped (s : World F) (log : RunLog F) : Prop where
  typed : ∀ r ∈ s.db.checksumInputs, TypedInputs env r.agentType r.inputsCanonical
    r.computedChecksum
  kept : ∀ e ∈ log, ∀ row n, e.label = .write (.insertChecksumInputs row) →
    e.before.writeResult (.insertChecksumInputs row) = .ok n →
    ∃ r ∈ s.db.checksumInputs, r.agentId = row.agentId

variable {env} {agentType canonical checksum : String}

omit [Float64 F] in
/-- The inputs of a checksum, if their type is not the custom one. -/
theorem TypedInputs.of_compute {inputs : Json}
    (h : computeChecksum env agentType inputs = .ok (canonical, checksum))
    (hcustom : AgentType.parse agentType ≠ some .custom) :
    TypedInputs env agentType (storagePayload env canonical checksum) checksum := by
  obtain ⟨kind, fields, hkind, -, hrequired, -⟩ := computeChecksum_eq_ok.1 h
  refine ⟨kind, inputs, canonical, hkind, ?_, h, rfl, hrequired⟩
  rintro rfl
  exact hcustom hkind

omit [Float64 F] in
/-- Where custom checksums are not allowed, a registration stores typed inputs. -/
theorem typedInputs_of_agentChecksum (hgate : env.allowCustomChecksum = false)
    {req : RegisterAgentRequest}
    (h : agentChecksum env req = .ok (checksum, some (agentType, canonical))) :
    TypedInputs env agentType (storagePayload env canonical checksum) checksum := by
  unfold agentChecksum at h
  obtain ⟨hcustom, h⟩ := refuseIf_bind_eq_ok.1 h
  split at h
  · split at h
    · obtain ⟨⟨canonical', computed⟩, hcompute, h⟩ := exists_of_bind_eq_ok h
      cases (refuseIf_bind_eq_ok.1 h).2
      refine .of_compute (eq_ok_of_mapError hcompute) fun hparse => hcustom ?_
      exact ⟨AgentType.parse_eq_custom.1 hparse, by simp [hgate]⟩
    · cases h
  · cases (refuseIf_bind_eq_ok.1 h).2

omit [Float64 F] in
theorem typedMay_unguarded : Unguarded (typedMay (F := F) env) := by
  intro t w s hfree
  cases w with
  | insertChecksumInputs _ | updateChecksumInputs _ _ _ _ _ _ => cases hfree
  | _ => trivial

theorem ChecksumCall.prog_yields (hgate : env.allowCustomChecksum = false) (call : ChecksumCall)
    (hcall : ∀ tenantId session agentId req, call = .update tenantId session agentId req →
      AgentType.parse req.agentType ≠ some .custom) :
    (call.prog env).Yields (srvRules (typedMay env)) [] fun t a =>
      ∀ tenantId session req, call = .register tenantId session req →
        env.requireAgentType = true → Stores t a := by
  cases call with
  | register tenantId session req =>
    refine (registerAgent_yields (typedMay_unguarded.mayWrite rfl) typedMay_unguarded.mayClaim
      (fun _ _ _ _ => trivial) ?_).andThen ?_
    · rintro t row s ⟨-, -, canonical, hchecksum, hstored⟩
      have htyped := typedInputs_of_agentChecksum hgate hchecksum
      rwa [← hstored] at htyped
    · rintro t resp - ⟨-, -, hstores⟩
      exact Prog.yields_pure fun _ _ _ _ => hstores
  | update tenantId session agentId req =>
    refine (updateAgentChecksum_yields fun canonical checksum hcompute => ?_).andThen
      fun t resp _ _ => Prog.yields_pure nofun
    have htyped := TypedInputs.of_compute hcompute (hcall _ _ _ _ rfl)
    exact ⟨fun _ _ _ _ _ => htyped, fun _ _ _ _ => trivial, fun _ _ _ _ _ _ _ _ => trivial⟩

theorem allTyped_invariant :
    TraceInvariant (fun _ => srvRules (typedMay env)) (fun _ _ => True) (AllTyped env) where
  tick _ h := ⟨h.typed, h.kept⟩
  step := by
    intro s log i lbl s' h _ heff hmay
    rcases inputs_of_effect heff with ⟨hsame, hfailed⟩ | ⟨row, n, rfl, hn, -, hnew⟩ |
      ⟨a, agentType, canonical, checksum, version, now, n, rfl, hn, hnew⟩
    · refine ⟨by rw [hsame]; exact h.typed, fun e he row n hrow hn => ?_⟩
      rw [hsame]
      rcases List.mem_cons.1 he with rfl | he
      · exact absurd hn (hfailed _ n hrow rfl)
      · exact h.kept e he row n hrow hn
    · constructor
      · intro r hr
        rw [hnew] at hr
        rcases List.mem_append.1 hr with hr | hr
        · exact h.typed r hr
        · rw [List.mem_singleton.1 hr]
          exact hmay
      · intro e he row' n' hrow hn'
        rw [hnew]
        rcases List.mem_cons.1 he with rfl | he
        · cases hrow
          exact ⟨row, by simp, rfl⟩
        · obtain ⟨r, hr, hid⟩ := h.kept e he row' n' hrow hn'
          exact ⟨r, by simp [hr], hid⟩
    · constructor
      · intro r hr
        rw [hnew] at hr
        obtain ⟨r₀, hr₀, rfl⟩ := List.mem_map.1 hr
        unfold updateInputsIf
        split
        · exact hmay
        · exact h.typed r₀ hr₀
      · intro e he row' n' hrow hn'
        rcases List.mem_cons.1 he with rfl | he
        · cases hrow
        · obtain ⟨r, hr, hid⟩ := h.kept e he row' n' hrow hn'
          rw [hnew]
          exact ⟨_, List.mem_map_of_mem hr, by rw [updateInputsIf_agentId, hid]⟩

/-- **The gate.** Where custom checksums are not allowed and a type is asked for, and no
rotation asks for the custom type, every stored row is typed in every run of registrations
and rotations, and every agent that was registered has such a row. -/
theorem inputs_stay_typed (env : Env F) (start : World F) (calls : List ChecksumCall)
    (sched : List Event) (hgate : env.allowCustomChecksum = false)
    (hrequire : env.requireAgentType = true) (hempty : start.db.checksumInputs = [])
    (hupdate : ∀ tenantId session agentId req, .update tenantId session agentId req ∈ calls →
      AgentType.parse req.agentType ≠ some .custom) :
    (∀ r ∈ (checksumRun env start calls sched).world.db.checksumInputs,
        TypedInputs env r.agentType r.inputsCanonical r.computedChecksum) ∧
      ∀ i tenantId session req a, calls[i]? = some (.register tenantId session req) →
        (checksumRun env start calls sched).result i = some (.ok a) →
        ∃ r ∈ (checksumRun env start calls sched).world.db.checksumInputs, r.agentId = a := by
  have hcalls : ∀ (i : ℕ) (call : ChecksumCall), calls[i]? = some call →
      (call.prog env).Yields (srvRules (typedMay env)) [] fun t a =>
        ∀ tenantId session req, call = .register tenantId session req →
          env.requireAgentType = true → Stores t a := by
    intro i call hcall
    refine ChecksumCall.prog_yields hgate call ?_
    rintro tenantId session agentId req rfl
    exact hupdate _ _ _ _ (List.mem_of_getElem? hcall)
  have hinit : AllTyped env start [] := ⟨by simp [hempty], List.forall_mem_nil _⟩
  obtain ⟨h, hpost⟩ := allTyped_invariant.run_calls hcalls hinit sched (LogOk.of_true _)
  refine ⟨h.typed, fun i tenantId session req a hcall hresult => ?_⟩
  obtain ⟨row, s, n, hs, hn, hid⟩ := hpost i _ a hcall hresult _ _ _ rfl hrequire
  obtain ⟨r, hr, hrow⟩ := h.kept _ (mem_threadTrace.1 hs) row n rfl hn
  exact ⟨r, hr, hrow.trans hid⟩

/-! ## A rotation past the gate -/

/-- Types are asked for, and custom checksums are not allowed. -/
def gateEnv : Env ℚ :=
  { registerEnv with allowCustomChecksum := false, requireAgentType := true }

/-- The owner registers an agent with the inputs of a language model. -/
def registerLlm : ChecksumCall :=
  .register "default" (some ownerSession)
    { minuteLease '1' '2' '3' with
      agentChecksum := ""
      agentType := "llm"
      checksumInputs := some (.obj [("model_id", .str "m"), ("system_prompt", .str "p"),
        ("tools", .arr [])]) }

/-- The owner gives the agent another type. -/
def retype (agentType : String) (inputs : Json) : ChecksumCall :=
  .update "default" (some ownerSession) "agt_" ⟨agentType, inputs, ""⟩

/-- The registration runs to its end, then the rotation. -/
@[irreducible] def retyped (agentType : String) (inputs : Json) : SrvConfig ℚ AppError String :=
  checksumRun gateEnv registerWorld [registerLlm, retype agentType inputs]
    (List.replicate 30 (.step 0) ++ List.replicate 12 (.step 1))

/-- A registered agent is given the custom type, with no inputs at all. -/
theorem rotation_passes_gate :
    gateEnv.allowCustomChecksum = false ∧ gateEnv.requireAgentType = true ∧
      registerWorld.db.checksumInputs = [] ∧
      (retyped "custom" (.obj [])).result 1 = some (.ok "agt_") ∧
      ∃ r ∈ (retyped "custom" (.obj [])).world.db.checksumInputs,
        AgentType.parse r.agentType = some .custom ∧
          ¬TypedInputs gateEnv r.agentType r.inputsCanonical r.computedChecksum := by
  have hrun : (retyped "custom" (.obj [])).result 1 = some (.ok "agt_") ∧
      (retyped "custom" (.obj [])).world.db.checksumInputs.map (·.agentType) = ["custom"] := by
    unfold retyped
    decide +kernel
  obtain ⟨r, hr, htype⟩ : ∃ r ∈ (retyped "custom" (.obj [])).world.db.checksumInputs,
      r.agentType = "custom" := by
    simpa using congrArg ("custom" ∈ ·) hrun.2
  refine ⟨rfl, rfl, rfl, hrun.1, r, hr, by rw [htype]; rfl, ?_⟩
  rintro ⟨kind, inputs, canonical, hkind, hcustom, -⟩
  rw [htype] at hkind
  cases hkind
  exact hcustom rfl

theorem retyped_bot_typed :
    (retyped "bot" (.obj [("image_sha", .str "s")])).result 1 = some (.ok "agt_") ∧
      ∀ r ∈ (retyped "bot" (.obj [("image_sha", .str "s")])).world.db.checksumInputs,
        TypedInputs gateEnv r.agentType r.inputsCanonical r.computedChecksum := by
  constructor
  · unfold retyped
    decide +kernel
  · unfold retyped
    refine (inputs_stay_typed gateEnv registerWorld _ _ rfl rfl rfl ?_).1
    rintro tenantId session agentId req hcall
    simp only [registerLlm, retype, List.mem_cons, reduceCtorEq, List.not_mem_nil, or_false,
      false_or, ChecksumCall.update.injEq] at hcall
    obtain ⟨-, -, -, rfl⟩ := hcall
    decide

end SauronID.Agent
