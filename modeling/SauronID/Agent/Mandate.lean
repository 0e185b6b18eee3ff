import Mathlib
import SauronID.Agent.Token

/-!
# Agents with the mandate of their owner

A deployment that requires a mandate refuses to register an agent without a signature of
its owner. The signature is over the fields of the request; the row is written with the
owner of the session and a lease that is brought into range, and the route that issues
credentials asks for no mandate at all. `agents_mandated` says when every row of the table
is what its owner has signed.
-/

namespace SauronID.Agent

open Conc Text Request

variable {F : Type} (env : Env F)

/-! ## Mandates -/

/-- What the owner of an agent signs, as the row has it, for a lease of `ttl` seconds. -/
def rowMandate (row : AgentRow) (ttl : ℤ) : OwnerMandateInput where
  tenantId := row.tenantId
  humanKeyImage := row.humanKeyImage
  agentPublicKeyHex := row.publicKeyHex
  popPublicKeyB64u := row.popPublicKeyB64u
  intentJson := row.intentJson
  ttlSecs := toString ttl

/-- The row carries a signature over its own fields and a lease no shorter than its own, by
the key that `db` binds to its owner. -/
def Mandated (db : Db F) (row : AgentRow) : Prop :=
  ∃ (ownerPkB64u : String) (ownerPk sig : Bytes) (ttl : ℤ),
    boundOwnerKey row.tenantId row.humanKeyImage db = some ownerPkB64u ∧
    b64Exactly env 32 ownerPkB64u = some ownerPk ∧
    b64Exactly env 64 row.ownerMandateSigB64u = some sig ∧
    env.edVerify ownerPk (ownerMandatePayload (rowMandate row ttl)) sig = true ∧
    row.expiresAt - row.issuedAt ≤ ttl ∧
    row.ownerMandateHash = ownerMandateHash env (rowMandate row ttl)

variable {env} {input : OwnerMandateInput}

theorem of_checkMandateSig {ownerPkB64u sigB64u hash : String}
    (h : checkMandateSig env input ownerPkB64u sigB64u = .ok hash) :
    ∃ ownerPk sig, b64Exactly env 32 ownerPkB64u = some ownerPk ∧
      b64Exactly env 64 sigB64u = some sig ∧
      env.edVerify ownerPk (ownerMandatePayload input) sig = true ∧
      hash = ownerMandateHash env input := by
  cases hpk : b64Exactly env 32 ownerPkB64u with
  | none => simp [checkMandateSig, hpk, throw, throwThe, MonadExceptOf.throw] at h
  | some ownerPk =>
    cases hsig : b64Exactly env 64 sigB64u with
    | none =>
      simp only [checkMandateSig, hpk, hsig] at h
      split at h <;> cases h
    | some sig =>
      simp only [checkMandateSig, hpk, hsig] at h
      split at h
      · cases h
      · split at h
        · cases h
        · next hverify =>
          cases h
          exact ⟨ownerPk, sig, rfl, rfl, by simpa using hverify, rfl⟩

variable [Float64 F]

/-- No statement changes the key of an owner. -/
theorem boundOwnerKey_of_effect {lbl : Label F} {s s' : World F} (heff : lbl.Effect s s')
    (tenantId keyImage : String) :
    boundOwnerKey tenantId keyImage s'.db = boundOwnerKey tenantId keyImage s.db := by
  obtain ⟨t, ht, hsame⟩ | ⟨w, db, n, rfl, htable, happly, -, hdb⟩ :=
    heff.onTable .credentials nofun
  · rw [boundOwnerKey, hsame.credentials ht, hsame.credentialTenants, boundOwnerKey]
  · cases w with
    | bumpSessionEpoch k =>
      cases happly
      -- Only the epoch of a row changes.
      have hrow : ∀ r : CredentialRow, (if r.keyImageHex == k then
          { r with sessionEpoch := r.sessionEpoch + 1 } else r).keyImageHex = r.keyImageHex ∧
          (if r.keyImageHex == k then { r with sessionEpoch := r.sessionEpoch + 1 }
            else r).ed25519PublicKeyB64u = r.ed25519PublicKeyB64u := by
        intro r
        split <;> exact ⟨rfl, rfl⟩
      simp only [hdb, boundOwnerKey, List.find?_map, Function.comp_def, Option.map_map, hrow]
    | _ => cases htable

/-! ## Runs -/

/-- The mandate of the request covers what it stores: the lease is not brought up to a
minute, and the owner is named, or there is no key for an owner without name. -/
def MintCall.Mandates (db : Db F) : MintCall → Prop
  | register tenantId _ req =>
      60 ≤ req.ttlSecs ∧ (req.humanKeyImage ≠ "" ∨ boundOwnerKey tenantId "" db = none)
  | issueToken _ _ _ => True
  | vcIssue _ _ _ => False

variable (env) in
/-- A request inserts the agent it registers, and writes nothing else to the agents. -/
def mandateMay (call : Option MintCall) (t : History F) (w : Write F) (_ : World F) : Prop :=
  match w with
  | .insertAgent row => ∃ tenantId session req,
      call = some (.register tenantId session req) ∧ RegisteredFor env tenantId req t row
  | w => w.table ≠ .agents

theorem mandateMay_unguarded (call : Option MintCall) : Unguarded (mandateMay env call) := by
  rintro t w s hfree
  cases w with
  | insertAgent row => cases hfree
  | _ =>
    rintro htable
    rw [htable] at hfree
    cases hfree

/-- Both databases bind the same keys to owners. -/
def SameKeys (db db' : Db F) : Prop :=
  ∀ tenantId keyImage, boundOwnerKey tenantId keyImage db = boundOwnerKey tenantId keyImage db'

variable (env) in
/-- One of the calls has registered the row; all it has seen binds keys as `db`. -/
def RegisteredIn (db : Db F) (calls : List MintCall) (row : AgentRow) : Prop :=
  ∃ tenantId session req t, .register tenantId session req ∈ calls ∧
    RegisteredFor env tenantId req t row ∧ ∀ lbl s, (lbl, s) ∈ t → SameKeys s.db db

variable {row : AgentRow}

/-- What the owner of the row would sign is what the owner has signed, but for the lease. -/
theorem RegisteredFor.rowMandate_eq {tenantId : String} {req : RegisterAgentRequest} {t : History F}
    (h : RegisteredFor env tenantId req t row) (hname : req.humanKeyImage ≠ "") (ttl : ℤ) :
    rowMandate row ttl = { mandateInput tenantId req with ttlSecs := toString ttl } := by
  have hhuman := h.human.resolve_left hname
  simp only [mandateInput, rowMandate, h.tenant, hhuman, h.publicKey, h.popKey, h.intent]

variable {calls : List MintCall}

/-- Registered rows are mandated when the mandates cover them. -/
theorem RegisteredIn.mandated (hrequire : env.requireOwnerMandate = true) {db : Db F}
    (hcalls : ∀ call ∈ calls, call.Mandates db) (hrow : RegisteredIn env db calls row) :
    Mandated env db row := by
  obtain ⟨tenantId, session, req, t, hcall, h, ht⟩ := hrow
  obtain ⟨httl, hname⟩ := hcalls _ hcall
  rcases h.mandate with ⟨-, hoff⟩ | ⟨s, ownerPkB64u, hs, hkey, hcheck⟩
  · rw [hrequire] at hoff
    cases hoff
  rw [ht _ _ hs] at hkey
  -- An empty name has no key, so the name is that of the session.
  have hnamed : req.humanKeyImage ≠ "" := by
    intro hempty
    rw [hempty] at hkey hname
    simp [hkey] at hname
  obtain ⟨ownerPk, sig, hpk, hsig, hverify, hhash⟩ := of_checkMandateSig hcheck
  have hinput : mandateInput tenantId req = rowMandate row req.ttlSecs :=
    (h.rowMandate_eq hnamed _).symm
  rw [hinput] at hverify hhash
  refine ⟨ownerPkB64u, ownerPk, sig, req.ttlSecs, ?_, hpk, ?_, hverify, ?_, hhash⟩
  · rw [h.tenant, ← h.human.resolve_left hnamed]
    exact hkey
  · rw [h.mandateSig]
    exact hsig
  · rw [h.lease]
    omega

variable (env) in
/-- Every agent was registered, and no key has changed. -/
def AllRegistered (db : Db F) (calls : List MintCall) (s : World F) (log : RunLog F) : Prop :=
  SameKeys s.db db ∧ (∀ e ∈ log, SameKeys e.before.db db) ∧
    ∀ row ∈ s.db.agents, RegisteredIn env db calls row

theorem allRegistered_invariant (db : Db F) (calls : List MintCall) :
    TraceInvariant (fun i => srvRules (mandateMay env calls[i]?)) (fun _ _ => True)
      (AllRegistered env db calls) where
  tick _ h := h
  step := by
    rintro s log i lbl s' ⟨hkeys, hlog, hrows⟩ - heff hmay
    refine ⟨fun tenantId keyImage => ?_, List.forall_mem_cons.2 ⟨hkeys, hlog⟩, ?_⟩
    · rw [boundOwnerKey_of_effect heff]
      exact hkeys tenantId keyImage
    obtain ⟨t, ht, hsame⟩ | ⟨w, db', n, rfl, htable, happly, -, hdb⟩ := heff.onTable .agents nofun
    · rwa [hsame.agents ht]
    cases w with
    | insertAgent row =>
      obtain ⟨tenantId, session, req, hcall, hrow⟩ := hmay
      have hnew : RegisteredIn env db calls row :=
        ⟨tenantId, session, req, _, List.mem_of_getElem? hcall, hrow,
          fun lbl s hs => hlog _ (mem_threadTrace.1 hs)⟩
      cases hins : insertAgents s.db.agents row with
      | error e => simp [Write.apply, hins, bind, Except.bind] at happly
      | ok rows =>
        simp only [Write.apply, hins] at happly
        cases happly
        rw [hdb]
        simpa [(insertAgents_eq_ok hins).2, or_imp, forall_and] using ⟨hrows, hnew⟩
    | _ => exact absurd htable hmay

/-- Without the route that issues credentials, every agent was registered. -/
theorem agents_registered {start : World F} (hempty : start.db.agents = []) (sched : List Event)
    (hcalls : ∀ tenantId session body, .vcIssue tenantId session body ∉ calls) :
    ∀ row ∈ (mintRun env start calls sched).world.db.agents,
      RegisteredIn env start.db calls row := by
  have hyields : ∀ (i : ℕ) (call : MintCall), calls[i]? = some call →
      (call.prog env).Yields (srvRules (mandateMay env calls[i]?)) [] fun _ _ => True := by
    intro i call hcall
    have hmay : Unguarded (mandateMay env calls[i]?) := mandateMay_unguarded _
    cases call with
    | register tenantId session req =>
      refine (registerAgent_yields (hmay.mayWrite rfl) hmay.mayClaim
        (fun t row s h => ⟨_, _, _, hcall, h⟩) fun _ _ _ _ => nofun).andThen ?_
      exact fun _ _ _ _ => Prog.yields_pure trivial
    | issueToken tenantId session req =>
      exact issueAgentToken_yields.andThen fun _ _ _ _ => Prog.yields_pure trivial
    | vcIssue tenantId session body => exact absurd (List.mem_of_getElem? hcall) (hcalls _ _ _)
  have hinit : AllRegistered env start.db calls start [] :=
    ⟨fun _ _ => rfl, List.forall_mem_nil _, by simp [hempty]⟩
  exact ((allRegistered_invariant start.db calls).run_calls hyields hinit sched
    (LogOk.of_true _)).1.2.2

/-- **Owner mandate.** From an empty table, when every request that creates an agent is a
registration whose mandate covers what it stores, every agent is mandated by its owner. -/
theorem agents_mandated (hrequire : env.requireOwnerMandate = true) {start : World F}
    (hempty : start.db.agents = []) (calls : List MintCall) (sched : List Event)
    (hcalls : ∀ call ∈ calls, call.Mandates start.db) :
    ∀ row ∈ (mintRun env start calls sched).world.db.agents, Mandated env start.db row :=
  fun row hrow => (agents_registered hempty sched (fun _ _ _ h => hcalls _ h) row hrow).mandated
    hrequire hcalls

/-! ## Agents without a mandate -/

/-- The deployment requires a mandate. The hash keeps what does not look like JSON. -/
def mandateEnv : Env ℚ :=
  { sampleEnv ℚ with
    requireOwnerMandate := true
    fromStr := fun _ => some .null
    sha256 := fun bytes => if bytes.head? = some 123 then [0] else bytes }

theorem mandateEnv_sha256 {bytes : Bytes} (h : bytes.head? ≠ some 123) :
    mandateEnv.sha256 bytes = bytes :=
  if_neg h

/-- A text of so many characters, which decodes to as many bytes. -/
def keyText (n : ℕ) : String := String.ofList (List.replicate n 'k')

/-- The owner has a key for the tenant; there are no agents. -/
def ownerWorld : World ℚ :=
  World.steady { Db.empty ℚ with
    users := [⟨ownerKeyImage, ownerKeyImage⟩], bankLinks := [ownerKeyImage]
    credentials := [⟨ownerKeyImage, keyText 32, 0⟩]
    credentialTenants := [("default", ownerKeyImage)] } 5000

/-- The owner registers an agent for so many seconds. -/
def registerFor (ttl : ℤ) : MintCall :=
  .register "default" (some ownerSession)
    { humanKeyImage := ownerKeyImage, ownerMandateSigB64u := keyText 64
      agentChecksum := "checksum", agentType := "", checksumInputs := none
      attestationBlob := "", attestationKind := "", attestationChallengeId := ""
      attestationPubkeyB64u := none, expectedMeasurementHex := none, intentJson := ""
      publicKeyHex := String.ofList (List.replicate 64 '1')
      ringKeyImageHex := String.ofList (List.replicate 64 '2'), ttlSecs := ttl
      parentAgentId := ""
      popJkt := ((ed25519JwkThumbprint mandateEnv (keyText 32)).toOption.getD "")
      popPublicKeyB64u := keyText 32, workflowId := "", delegationChainJson := "" }

/-- The agents after one request has run alone. -/
def agentsAfter (call : MintCall) : List AgentRow :=
  (mintRun mandateEnv ownerWorld [call] (List.replicate 30 (.step 0))).world.db.agents

theorem registered_agent_mandated :
    (agentsAfter (registerFor 60)).map (·.expiresAt) = [65] ∧
      ∀ row ∈ agentsAfter (registerFor 60), Mandated mandateEnv ownerWorld.db row := by
  refine ⟨by decide +kernel, ?_⟩
  unfold agentsAfter
  refine agents_mandated rfl rfl _ _ ?_
  intro call hcall
  obtain rfl := List.mem_singleton.1 hcall
  exact ⟨le_rfl, .inl (by decide)⟩

/-- The hash tells the lease. -/
theorem eq_of_ownerMandateHash {ttl ttl' : ℤ}
    (h : ownerMandateHash mandateEnv { input with ttlSecs := toString ttl } =
      ownerMandateHash mandateEnv { input with ttlSecs := toString ttl' }) : ttl = ttl' := by
  have hkeeps : ∀ input, mandateEnv.sha256 (ownerMandatePayload input) =
      ownerMandatePayload input := by
    intro input
    have hhead : (ownerMandatePayload input).head? = some 0 := rfl
    exact mandateEnv_sha256 (by rw [hhead]; decide)
  have hpayload := hexEncode_injective h
  rw [hkeeps, hkeeps] at hpayload
  simp only [ownerMandatePayload, canonicalFields, List.flatMap_cons,
    List.append_cancel_left_eq, List.append_cancel_right_eq] at hpayload
  have htext : utf8 (toString ttl) = utf8 (toString ttl') :=
    (List.append_inj hpayload (by simp [beBytes])).2
  exact Int.repr_injective (utf8_injective htext)

/-- An agent with a credential has no mandate, and an agent registered for half a minute
has a mandate for less than its lease. -/
theorem agents_without_mandate :
    (∃ row ∈ agentsAfter (mintFor 24), ¬Mandated mandateEnv ownerWorld.db row) ∧
      ∃ row ∈ agentsAfter (registerFor 30), ¬Mandated mandateEnv ownerWorld.db row := by
  have hissued : (agentsAfter (mintFor 24)).any (·.ownerMandateSigB64u == "") = true := by
    decide +kernel
  have hregistered : (agentsAfter (registerFor 30)).any (fun row =>
      row.expiresAt - row.issuedAt == 60) = true := by
    decide +kernel
  constructor
  · obtain ⟨row, hrow, hsig⟩ := List.any_eq_true.1 hissued
    refine ⟨row, hrow, ?_⟩
    rintro ⟨-, -, sig, -, -, -, hb64, -⟩
    rw [beq_iff_eq.1 hsig] at hb64
    cases hb64
  · obtain ⟨row, hrow, h⟩ := List.any_eq_true.1 hregistered
    refine ⟨row, hrow, ?_⟩
    rintro ⟨-, -, -, ttl, -, -, -, -, hlease, hhash⟩
    have hrow' : RegisteredIn mandateEnv ownerWorld.db [registerFor 30] row :=
      agents_registered rfl _ (by simp [registerFor]) row hrow
    obtain ⟨tenantId, session, req, t, hcall, hreg, -⟩ := hrow'
    cases List.mem_singleton.1 hcall
    obtain ⟨hblank, -⟩ | ⟨s, pk, -, -, hcheck⟩ := hreg.mandate
    · exact absurd hblank (by decide)
    obtain ⟨-, -, -, -, -, hsigned⟩ := of_checkMandateSig hcheck
    rw [hreg.rowMandate_eq (by decide)] at hhash
    have httl : ttl = 30 := eq_of_ownerMandateHash (hhash.symm.trans hsigned)
    rw [beq_iff_eq] at h
    omega

end SauronID.Agent
