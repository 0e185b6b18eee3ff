import Mathlib.Data.ZMod.Basic
import SauronID.Agent.DistinctKeys
import SauronID.Lib.Alike
import SauronID.Model.Ring

/-!
# A registered agent acts

From registration to the first action: `register_agent` stores the keys of an agent as texts,
`active_tenant_ring` decodes the public keys of a tenant, the agent signs over that ring with
its secret, and `validate_agent_action` compares the key image of the signature with the
registered text before it verifies. `registered_agent_acts_iff` says when an honest signature
is accepted.
-/

namespace SauronID.Action

open Conc Text Agent SauronID.Ring

variable {F : Type} [Float64 F] {env : Env F}
  {S P : Type} [CommRing S] [AddCommGroup P] [Module S P]

/-! ## What registration leaves -/

/-- A row of an agent that was inserted is the one that is found. -/
def Leaves (tenantId : String) (req : RegisterAgentRequest) (t : History F) (s : World F) : Prop :=
  ∀ row s₀ n, (.write (.insertAgent row), s₀) ∈ t →
    s₀.writeResult (.insertAgent row) = .ok n →
      findAgent tenantId row.agentId s.db = some row ∧ row.revoked = 0 ∧
        row.publicKeyHex = req.publicKeyHex ∧ row.ringKeyImageHex = req.ringKeyImageHex

variable {tenantId agentId : String} {db db' : Db F} {row : AgentRow}

omit [Float64 F] in
theorem findAgent_append {new : AgentRow} (hdb : db'.agents = db.agents ++ [new])
    (h : findAgent tenantId agentId db = some row) : findAgent tenantId agentId db' = some row := by
  unfold findAgent at h ⊢
  rw [hdb, List.find?_append, h]
  rfl

omit [Float64 F] in
theorem findAgent_inserted (htenant : row.tenantId = tenantId)
    (hnew : ∀ r ∈ db.agents, r.agentId ≠ row.agentId) (hdb : db'.agents = db.agents ++ [row]) :
    findAgent tenantId row.agentId db' = some row := by
  have hnone : db.agents.find? (fun r => r.agentId == row.agentId && r.tenantId == tenantId) =
      none := by
    refine List.find?_eq_none.2 fun r hr => ?_
    simp [hnew r hr]
  unfold findAgent
  rw [hdb, List.find?_append, hnone]
  simp [htenant]

variable {session : Option String} {req : RegisterAgentRequest} {s : World F}

/-- One statement of a registration. -/
theorem Leaves.step {t t' : History F} {lbl : Label F} {s' : World F} (h : Leaves tenantId req t s)
    (hstep : (srvRules (agentMay env (some (.register tenantId session req)))).Step t lbl s s' t') :
    Leaves tenantId req t' s' := by
  obtain ⟨heff, hmay, rfl⟩ := hstep
  intro row s₀ n hmem hn
  by_cases htable : lbl.table = .agents
  swap
  · -- the statement is on another table
    have hsame := (Label.Effect.sameOff heff).agents htable
    rcases List.mem_cons.1 hmem with heq | hmem
    · cases heq
      exact absurd rfl htable
    · simpa only [findAgent, hsame] using h row s₀ n hmem hn
  obtain ⟨w, rfl, ⟨e, herr, hdb⟩ | ⟨db, m, -, happly, hm, hdb⟩⟩ := heff.written (by simp [htable])
  · rcases List.mem_cons.1 hmem with heq | hmem
    · cases heq
      rw [herr] at hn
      cases hn
    · simpa only [findAgent, hdb] using h row s₀ n hmem hn
  cases w with
  | insertAgent new =>
    obtain ⟨_, _, _, hcall, hfor⟩ := hmay
    cases hcall
    obtain ⟨rows, hrows, hdb'⟩ := exists_of_bind_eq_ok happly
    cases hdb'
    obtain ⟨hnew, rfl⟩ := insertAgents_eq_ok hrows
    have hagents : s'.db.agents = s.db.agents ++ [new] := by rw [hdb]
    rcases List.mem_cons.1 hmem with heq | hmem
    · cases heq
      exact ⟨findAgent_inserted hfor.tenant hnew hagents, hfor.active, hfor.publicKey,
        hfor.keyImage⟩
    · obtain ⟨hfound, hrest⟩ := h row s₀ n hmem hn
      exact ⟨findAgent_append hagents hfound, hrest⟩
  | upsertAgent new =>
    obtain ⟨_, _, _, hcall, -⟩ := hmay
    cases hcall
  | revokeAgent a human tenant =>
    obtain ⟨_, hcall⟩ := hmay
    cases hcall
  | setAgentChecksum a checksum => exact hmay.elim
  | _ => cases htable

/-- **Registration.** A registered agent is found, unrevoked, with the keys of its request. -/
theorem registerAgent_leaves {s₀ s₁ : World F} {resp : RegisterAgentResponse}
    (hreg : (registerAgent env tenantId session req).exec s₀ = (.ok resp, s₁)) :
    ∃ row, findAgent tenantId resp.agentId s₁.db = some row ∧ row.revoked = 0 ∧
      row.publicKeyHex = req.publicKeyHex ∧ row.ringKeyImageHex = req.ringKeyImageHex := by
  have hyields : (registerAgent env tenantId session req).Yields
      (srvRules (agentMay env (some (.register tenantId session req)))) [] _ :=
    registerAgent_yields ((agentMay_unguarded _).mayWrite rfl) (agentMay_unguarded _).mayClaim
      (fun t row s hfor => ⟨tenantId, session, req, rfl, hfor⟩) fun _ _ _ _ => trivial
  obtain ⟨t, hleaves, hpost⟩ := hyields.exec_keeps
    (I := Leaves tenantId req) (fun _ _ _ _ _ h hT => h.step hT) (s := s₀)
    (fun _ _ _ hmem => absurd hmem List.not_mem_nil)
  rw [hreg] at hleaves hpost
  obtain ⟨-, ⟨row, s, n, hmem, hn, hid⟩, -⟩ := hpost resp rfl
  exact ⟨row, hid ▸ hleaves row s n hmem hn⟩

/-! ## The ring on the wire -/

/-- The server's points and ring signatures are those of the group. -/
structure UsesRing [DecidableEq S] (env : Env F) (K : Ristretto S P) : Prop where
  validPoint : ∀ bytes, env.validPoint bytes = (K.decompress bytes).isSome
  ringVerify : env.ringVerify = K.verifyEncoded

/-- The points of the ring that `active_tenant_ring` returns. -/
def tenantRing (env : Env F) (K : Ristretto S P) (tenantId : String) (s : World F) : List P :=
  (activeTenantRing env tenantId s.nowSecs s.db).filterMap fun p => K.decompress p.2

variable {hex : String} {bytes : Bytes}

omit [Float64 F] in
theorem decodePoint_eq_some (h : env.decodePoint hex = some bytes) :
    hexDecode hex = some bytes ∧ bytes.length = 32 ∧ env.validPoint bytes = true := by
  obtain ⟨b, hdecode, hb⟩ := Option.bind_eq_some_iff.1 h
  split at hb
  · next hok =>
    cases hb
    exact ⟨hdecode, hok⟩
  · cases hb

section Ring

variable [DecidableEq S] {K : Ristretto S P}

omit [Float64 F] in
/-- The ring as the server holds it, and as the signer does. -/
theorem activeTenantRing_eq (hK : UsesRing env K) (tenantId : String) (s : World F) :
    (activeTenantRing env tenantId s.nowSecs s.db).map Prod.snd =
      (tenantRing env K tenantId s).map K.compress := by
  have hpoint : ∀ p ∈ activeTenantRing env tenantId s.nowSecs s.db,
      (K.decompress p.2).map K.compress = some p.2 := by
    intro p hp
    simp only [activeTenantRing, List.mem_filterMap, Option.map_eq_some_iff] at hp
    obtain ⟨r, -, bytes, hbytes, rfl⟩ := hp
    have hvalid := (decodePoint_eq_some hbytes).2.2
    rw [hK.validPoint] at hvalid
    obtain ⟨q, hq⟩ := Option.isSome_iff_exists.1 hvalid
    simp [hq, K.compress_decompress hq]
  rw [tenantRing, List.map_filterMap, ← List.filterMap_eq_map]
  exact List.filterMap_congr fun p hp => (hpoint p hp).symm

omit [Float64 F] in
theorem ne_empty_of_decodePoint {hex : String} {bytes : Bytes}
    (h : env.decodePoint hex = some bytes) : hex ≠ "" := by
  rintro rfl
  obtain ⟨hdecode, hlen, -⟩ := decodePoint_eq_some h
  rw [← Option.some.inj hdecode] at hlen
  cases hlen

omit [Float64 F] [DecidableEq S] in
/-- An active agent is a member of the ring. -/
theorem mem_tenantRing {tenantId : String} {s : World F} {row : AgentRow} {p : P}
    (hrow : row ∈ s.db.agents) (htenant : row.tenantId = tenantId) (hactive : row.revoked = 0)
    (hlease : s.nowSecs < row.expiresAt)
    (hkey : env.decodePoint row.publicKeyHex = some (K.compress p)) :
    p ∈ tenantRing env K tenantId s := by
  have hne := ne_empty_of_decodePoint hkey
  refine List.mem_filterMap.2 ⟨(row.publicKeyHex, K.compress p), ?_, K.decompress_compress p⟩
  refine List.mem_filterMap.2 ⟨row, mem_orderBy.2 (List.mem_filter.2 ⟨hrow, ?_⟩), ?_⟩
  · simp [htenant, hactive, hlease, hne]
  · rw [hkey]
    rfl

end Ring

/-! ## Acting -/

/-- What a request presents for the agent, apart from the signature: an envelope in time that
agrees with what the endpoint expects of it, about an agent that is stored as `row` and
unexpired, with a nonce that is not in use. No statement fails. -/
structure Presents (env : Env F) (tenantId agentId : String) (row : AgentRow) (s : World F)
    (e : AgentActionEnvelope) (opts : ValidateAgentActionOptions) : Prop where
  reliable : s.Reliable
  stored : findAgent tenantId agentId s.db = some row
  unexpired : s.nowSecs ≤ row.expiresAt
  tenant : opts.tenantId = tenantId
  agent : opts.agentId = agentId
  human : row.humanKeyImage = opts.humanKeyImage
  popJkt : ∀ jkt, opts.popJkt = some jkt → jkt = "" ∨ row.popJkt = "" ∨ jkt = row.popJkt
  envelope : checkEnvelope env e opts = .ok ()
  inTime : s.nowSecs ≤ e.expiresAt
  nonce : nonceWellFormed e.nonce = true
  intent : actionAllowedByIntent opts.intent opts.expectedAction = true
  fresh : ∀ r ∈ s.db.nonces, r.nonce = e.nonce → r.expiresAt < s.nowSecs

variable {agent : AgentRow} {opts : ValidateAgentActionOptions} {ki : String} {now : ℤ} {pt : Bytes}

omit [Float64 F] in
/-- The key image of the signature must be the registered text. -/
theorem keyImage_of_checkAgentRow (h : checkAgentRow env agent opts ki now = .ok pt) :
    agent.ringKeyImageHex = ki := by
  by_contra hne
  -- either a check before the comparison fails or the comparison does
  by_cases hrow : agent.humanKeyImage ≠ opts.humanKeyImage ∨ agent.revoked ≠ 0 ∨
      agent.expiresAt < now
  · simp only [checkAgentRow, hrow, ↓reduceIte] at h
    cases h
  by_cases hpublic : agent.publicKeyHex.isEmpty = true
  · simp only [checkAgentRow, hrow, hpublic, ↓reduceIte] at h
    cases h
  by_cases hki : agent.ringKeyImageHex.isEmpty = true
  · simp only [checkAgentRow, hrow, hpublic, hki, ↓reduceIte] at h
    cases h
  · simp only [checkAgentRow, hrow, hpublic, hki, ne_eq, hne, not_false_eq_true, ↓reduceIte] at h
    cases h

omit [Float64 F] in
/-- The row of an unrevoked, unexpired agent passes with the registered key image. -/
theorem checkAgentRow_of_keyImage {image : Bytes}
    (hhuman : agent.humanKeyImage = opts.humanKeyImage) (hactive : agent.revoked = 0)
    (hlease : now ≤ agent.expiresAt)
    (hpop : ∀ jkt, opts.popJkt = some jkt → jkt = "" ∨ agent.popJkt = "" ∨ jkt = agent.popJkt)
    (hkey : env.decodePoint agent.publicKeyHex = some pt)
    (himage : env.decodePoint agent.ringKeyImageHex = some image) :
    checkAgentRow env agent opts agent.ringKeyImageHex now = .ok pt := by
  obtain ⟨hdecode, hlen, hvalid⟩ := decodePoint_eq_some hkey
  have hpublic := ne_empty_of_decodePoint hkey
  have hki := ne_empty_of_decodePoint himage
  unfold checkAgentRow
  simp only [hhuman, hactive, not_lt.2 hlease, ne_eq, not_true_eq_false, or_self, ↓reduceIte,
    String.isEmpty_iff, hpublic, hki, hdecode, hlen, hvalid]
  cases hjkt : opts.popJkt with
  | none => rfl
  | some jkt =>
    have hagree : ¬(¬jkt = "" ∧ ¬agent.popJkt = "" ∧ ¬jkt = agent.popJkt) := by
      have := hpop jkt hjkt
      tauto
    simp only [hagree, if_false]
    rfl

/-- A nonce that is not in use is spent. -/
theorem spendNonce_reaches (hs : s.Reliable) {row : NonceRow}
    {replay : String} (hfresh : ∀ r ∈ s.db.nonces, r.nonce = row.nonce → r.expiresAt < now) :
    (spendNonce row now replay : Srv F AppError Unit).Reaches s fun _ s' => s'.Reliable := by
  refine (Srv.reaches_execute hs rfl).mapErr.andThen ?_
  rintro _ _ ⟨rfl, hdb⟩
  have hnone : ((s.afterWrite (.pruneNonces now)).db.nonces.any fun r => r.nonce == row.nonce) =
      false := by
    rw [hdb]
    simp only [List.any_eq_false, List.mem_filter, beq_iff_eq, Bool.not_eq_true',
      decide_eq_false_iff_not]
    rintro r ⟨hr, hlive⟩ hnonce
    exact hlive (hfresh r hr hnonce)
  have hinsert : Write.apply (s.afterWrite (.pruneNonces now)).db (.insertNonce row) =
      .ok ({ (s.afterWrite (.pruneNonces now)).db with
        nonces := (s.afterWrite (.pruneNonces now)).db.nonces ++ [row] }, 1) := by
    simp only [Write.apply, hnone, Bool.false_eq_true, if_false]
  refine (Srv.reaches_execute (hs.afterWrite _) hinsert).mapErr.andThen ?_
  rintro _ _ ⟨rfl, -⟩
  exact Prog.reaches_pure ((hs.afterWrite _).afterWrite _)

omit [Float64 F] in
/-- The head of the chain that is read is there to be loaded. -/
theorem nextChainPosition_reaches (hs : s.Reliable) (tenant : String) :
    (nextChainPosition env tenant).Reaches s fun _ s' => s'.Reliable := by
  refine (Srv.reaches_selectTop hs _ _).andThen ?_
  rintro _ _ ⟨rfl, rfl⟩
  cases hhead : chainHead tenant s.db s.tie with
  | none => exact Prog.reaches_pure hs.spendTie
  | some head =>
    obtain ⟨prevSeq, prevId⟩ := head
    dsimp only
    split
    · exact Prog.reaches_pure hs.spendTie
    refine (Srv.reaches_select hs.spendTie _ _).andThen ?_
    rintro _ _ ⟨rfl, rfl⟩
    obtain ⟨r, hr, hid⟩ := Option.map_eq_some_iff.1 hhead
    cases hid
    have hmem : r ∈ s.db.receipts := (List.mem_filter.1 (pickMax_mem hr).1).1
    obtain ⟨receipt, hreceipt⟩ : ∃ receipt, findReceipt s.db r.receiptId = some receipt := by
      have hsome : (s.db.receipts.find? fun r' => r'.receiptId == r.receiptId).isSome = true :=
        List.find?_isSome.2 ⟨r, hmem, by simp⟩
      obtain ⟨r', hr'⟩ := Option.isSome_iff_exists.1 hsome
      exact ⟨_, by rw [findReceipt, hr']; rfl⟩
    simp only [World.spendTie_db, hreceipt]
    exact Prog.reaches_pure hs.spendTie.spendFault

variable {proof : AgentActionProof}

/-- A verified action with a nonce that is not in use is recorded. -/
theorem recordAction_reaches (hs : s.Reliable)
    (hfresh : ∀ r ∈ s.db.nonces, r.nonce = proof.envelope.nonce → r.expiresAt < now) :
    (recordAction env proof opts ki now true).Reaches s fun _ _ => True := by
  refine (spendNonce_reaches hs hfresh).andThen fun _ s₁ h₁ => ?_
  refine (nextChainPosition_reaches h₁ _).mapErr.andThen fun position s₂ h₂ => ?_
  refine (Srv.reaches_scalarOr h₂ _ _ _).andThen ?_
  rintro mandate _ rfl
  have h₃ : World.Reliable { s₂.spendFault with drawn := s₂.spendFault.drawn + 1 } := h₂.spendFault
  refine .atomic ((Srv.reaches_execute h₃ rfl).mapErr.andThen fun _ _ _ => ?_)
  exact Prog.reaches_pure trivial

/-- An action that is accepted carries the registered text of the key image. -/
theorem validateAgentAction_brings_keyImage :
    (validateAgentAction env proof opts).Brings s fun _ _ =>
      ∃ row, findAgent opts.tenantId opts.agentId s.db = some row ∧
        row.ringKeyImageHex = hexEncode proof.ringSignature.keyImage := by
  refine .ofExcept fun _ _ => .atomic (.rejectIf fun _ => .rejectIf fun _ => .rejectIf fun _ =>
    .atomic (Srv.brings_require.andThen fun row s' hrow => .ofExcept fun pt hpt => ?_))
  intro _ _ _
  exact ⟨row, hrow, keyImage_of_checkAgentRow hpt⟩

/-- The path of an action whose signature has the registered key image and verifies. -/
theorem validateAgentAction_reaches (h : Presents env tenantId agentId row s proof.envelope opts)
    (hactive : row.revoked = 0) (hkey : env.decodePoint row.publicKeyHex = some pt)
    (himage : env.decodePoint row.ringKeyImageHex = some proof.ringSignature.keyImage)
    (htext : row.ringKeyImageHex = hexEncode proof.ringSignature.keyImage)
    (hmember : pt ∈ (activeTenantRing env tenantId s.nowSecs s.db).map Prod.snd)
    (hverify : ringOk env proof (activeTenantRing env tenantId s.nowSecs s.db) = true) :
    (validateAgentAction env proof opts).Reaches s fun _ _ => True := by
  obtain rfl := h.tenant
  obtain rfl := h.agent
  refine .ofExcept h.envelope (.atomic (.rejectIf (not_lt.2 h.inTime) ?_))
  refine .rejectIf (by simp [h.nonce]) (.rejectIf (by simp [h.intent]) (.atomic ?_))
  refine (Srv.reaches_require h.reliable _ _ h.stored).andThen ?_
  rintro _ _ ⟨rfl, rfl⟩
  refine .ofExcept (a := pt) ?_ ?_
  · rw [← htext]
    exact checkAgentRow_of_keyImage h.human hactive h.unexpired h.popJkt hkey himage
  refine (Srv.reaches_select h.reliable.spendFault _ _).mapErr.andThen ?_
  rintro _ _ ⟨rfl, rfl⟩
  refine .rejectIf (not_not.2 hmember) ?_
  simp only [id_eq, World.spendFault_db, hverify]
  refine (recordAction_reaches h.reliable.spendFault.spendFault h.fresh).andThen fun _ _ _ => ?_
  exact .rejectIf (by simp) (Prog.reaches_pure trivial)

omit [Float64 F] in
/-- The registered text is the one an encoder writes for the key image. -/
theorem canonicalHex_iff (h : env.decodePoint hex = some bytes) :
    CanonicalHex hex ↔ hex = hexEncode bytes := by
  constructor
  · rintro ⟨b, rfl⟩
    have hdecode := (decodePoint_eq_some h).1
    rw [hexDecode_hexEncode] at hdecode
    rw [Option.some.inj hdecode]
  · exact fun heq => ⟨bytes, heq⟩

/-- **A registered agent acts.** An agent that has been registered with the public key and the
key image of a secret is stored. From any later world, as long as its row is there and its
lease has not ended, it is a member of the ring of its tenant, and a signature with its secret
over that ring is accepted exactly if the key image was registered in lower-case
hexadecimal. -/
theorem registered_agent_acts_iff [DecidableEq S] (K : Ristretto S P) (hK : UsesRing env K)
    {tenantId : String} {session : Option String} {req : RegisterAgentRequest}
    {s₀ s₁ : World F} {resp : RegisterAgentResponse}
    (hreg : (registerAgent env tenantId session req).exec s₀ = (.ok resp, s₁)) (secret : S)
    (hpublic : env.decodePoint req.publicKeyHex = some (K.compress (K.publicKey secret)))
    (himage : env.decodePoint req.ringKeyImageHex = some (K.compress (K.keyImage secret))) :
    ∃ row, findAgent tenantId resp.agentId s₁.db = some row ∧ row.revoked = 0 ∧
      ∀ (s : World F) (e : AgentActionEnvelope) (opts : ValidateAgentActionOptions),
        Presents env tenantId resp.agentId row s e opts →
        (s.nowSecs < row.expiresAt →
          ∃ signerIdx : ℕ, (tenantRing env K tenantId s)[signerIdx]? = some (K.publicKey secret)) ∧
        ∀ (signerIdx : ℕ) (draw : ℕ → S),
          (tenantRing env K tenantId s)[signerIdx]? = some (K.publicKey secret) →
          (((validateAgentAction env ⟨e, K.encode (K.sign (canonicalEnvelopeBytes env e)
              (tenantRing env K tenantId s) secret signerIdx draw)⟩ opts).exec s).1.isOk = true ↔
            CanonicalHex req.ringKeyImageHex) := by
  obtain ⟨row, hfound, hactive, hrowKey, hrowImage⟩ := registerAgent_leaves hreg
  refine ⟨row, hfound, hactive, fun s e opts h => ⟨fun hlease => ?_, fun signerIdx draw hidx => ?_⟩⟩
  · obtain ⟨hmem, -, htenant⟩ := findAgent_eq_some h.stored
    rw [← hrowKey] at hpublic
    exact List.getElem?_of_mem (mem_tenantRing hmem htenant hactive hlease hpublic)
  rw [canonicalHex_iff himage, ← hrowImage]
  constructor
  · intro hok
    obtain ⟨-, -, row', hrow', htext⟩ := validateAgentAction_brings_keyImage.of_isOk hok
    rw [h.tenant, h.agent, h.stored] at hrow'
    cases hrow'
    exact htext
  · intro htext
    refine (validateAgentAction_reaches h hactive (hrowKey ▸ hpublic) (hrowImage ▸ himage) htext
      ?_ ?_).isOk
    · rw [activeTenantRing_eq hK]
      exact List.mem_map_of_mem (List.mem_of_getElem? hidx)
    · rw [ringOk, hK.ringVerify, activeTenantRing_eq hK, Ristretto.verifyEncoded_encode]
      exact Ristretto.verify_sign _ hidx draw

/-! ## One key image, two spellings -/

/-- A group of 13 elements, each encoded by one digit, `00…` to `cc…`. -/
def smallGroup : Ristretto (ZMod 13) (ZMod 13) where
  basepoint := 1
  compress p := List.replicate 32 (UInt8.ofNat (17 * p.val))
  decompress bytes := (List.finRange 13).find? fun p =>
    List.replicate 32 (UInt8.ofNat (17 * p.val)) == bytes
  hashFromBytes _ := 5
  scalarFromHash bytes := bytes.length
  scalarBytes c := [UInt8.ofNat c.val]
  scalarOf bytes := (List.finRange 13).find? fun c => [UInt8.ofNat c.val] == bytes
  decompress_compress := by decide
  compress_decompress h := by
    have hfound := List.find?_some h
    exact beq_iff_eq.1 hfound
  scalarOf_scalarBytes := by decide

/-- The sample server over that group. -/
def ringEnv : Env ℚ :=
  { registerEnv with
    validPoint := fun bytes => (smallGroup.decompress bytes).isSome
    ringVerify := smallGroup.verifyEncoded }

/-- After a registration at second 5. An agent with the secret 10 has the public key `aa…` and
the key image `bb…`. -/
@[irreducible] def leasedWorld (req : RegisterAgentRequest) : World ℚ :=
  ((registerAgent ringEnv "default" (some ownerSession) req).exec registerWorld).2

/-- The agent reads, in an envelope that expires at second 60. -/
def readEnvelope : AgentActionEnvelope :=
  { sampleProof.envelope with
    agentId := "agt_", humanKeyImage := ownerKeyImage,
    policyHash := expectedPolicyHash ringEnv "read", expiresAt := 60 }

def readOptions : ValidateAgentActionOptions :=
  { sampleOptions with agentId := "agt_", humanKeyImage := ownerKeyImage }

/-- The signature of the agent over the ring of its tenant. -/
def readProof (s : World ℚ) : AgentActionProof :=
  ⟨readEnvelope, smallGroup.encode (smallGroup.sign (canonicalEnvelopeBytes ringEnv readEnvelope)
    (tenantRing ringEnv smallGroup "default" s) 10 0 fun n => n)⟩

/-- It is second 5, and the agent is stored with a lease to second 65. -/
abbrev HasLease (s : World ℚ) : Prop :=
  s.faults = [] ∧ s.nowSecs = 5 ∧ s.db.nonces = [] ∧
    (findAgent "default" "agt_" s.db).map (fun r => (r.expiresAt, r.humanKeyImage)) =
      some (65, ownerKeyImage)

/-- The envelope is in order then. -/
theorem HasLease.presents {s : World ℚ} (h : HasLease s)
    (hstored : findAgent "default" "agt_" s.db = some row) :
    Presents ringEnv "default" "agt_" row s readEnvelope readOptions := by
  obtain ⟨hfaults, hnow, hnonces, hfound⟩ := h
  rw [hstored] at hfound
  obtain ⟨hlease, hhuman⟩ := Prod.mk.inj (Option.some.inj hfound)
  exact
    { reliable := .of_nil hfaults
      stored := hstored
      unexpired := by rw [hnow, hlease]; decide
      tenant := rfl
      agent := rfl
      human := hhuman
      popJkt := nofun
      envelope := by decide +kernel
      inTime := by rw [hnow]; decide
      nonce := by decide +kernel
      intent := by decide +kernel
      fresh := by rw [hnonces]; exact List.forall_mem_nil _ }

/-- The agent registers in capitals, and its honest signature is refused. -/
theorem respelled_agent_refused :
    ((registerAgent ringEnv "default" (some ownerSession) respelledLease).exec
        registerWorld).1.isOk = true ∧
      ringEnv.decodePoint respelledLease.publicKeyHex =
        some (smallGroup.compress (smallGroup.publicKey 10)) ∧
      ringEnv.decodePoint respelledLease.ringKeyImageHex =
        some (smallGroup.compress (smallGroup.keyImage 10)) ∧
      (∃ row, Presents ringEnv "default" "agt_" row (leasedWorld respelledLease) readEnvelope
        readOptions) ∧
      tenantRing ringEnv smallGroup "default" (leasedWorld respelledLease) =
        [smallGroup.publicKey 10] ∧
      ((validateAgentAction ringEnv (readProof (leasedWorld respelledLease)) readOptions).exec
        (leasedWorld respelledLease)).1.isOk = false := by
  have hrun : HasLease (leasedWorld respelledLease) ∧
      ((registerAgent ringEnv "default" (some ownerSession) respelledLease).exec
        registerWorld).1.isOk = true ∧
      tenantRing ringEnv smallGroup "default" (leasedWorld respelledLease) =
        [smallGroup.publicKey 10] ∧
      ((validateAgentAction ringEnv (readProof (leasedWorld respelledLease)) readOptions).exec
        (leasedWorld respelledLease)).1.isOk = false := by
    decide +kernel
  obtain ⟨hlease, hreg, hring, hrefused⟩ := hrun
  obtain ⟨row, hstored, -⟩ := Option.map_eq_some_iff.1 hlease.2.2.2
  exact ⟨hreg, by decide, by decide, ⟨row, hlease.presents hstored⟩, hring, hrefused⟩

/-- The agent registers as an encoder writes its keys, and acts. -/
theorem leased_agent_acts :
    ∃ resp, (registerAgent ringEnv "default" (some ownerSession) (minuteLease 'a' 'b' 'p')).exec
        registerWorld = (.ok resp, leasedWorld (minuteLease 'a' 'b' 'p')) ∧
      ((validateAgentAction ringEnv (readProof (leasedWorld (minuteLease 'a' 'b' 'p')))
        readOptions).exec (leasedWorld (minuteLease 'a' 'b' 'p'))).1.isOk = true := by
  have hrun : HasLease (leasedWorld (minuteLease 'a' 'b' 'p')) ∧
      ((registerAgent ringEnv "default" (some ownerSession) (minuteLease 'a' 'b' 'p')).exec
        registerWorld).1.toOption.map (·.agentId) = some "agt_" ∧
      (tenantRing ringEnv smallGroup "default" (leasedWorld (minuteLease 'a' 'b' 'p')))[0]? =
        some (smallGroup.publicKey 10) := by
    decide +kernel
  obtain ⟨hlease, hresp, hring⟩ := hrun
  rcases hexec : (registerAgent ringEnv "default" (some ownerSession)
    (minuteLease 'a' 'b' 'p')).exec registerWorld with ⟨_ | resp, s₁⟩
  · rw [hexec] at hresp
    cases hresp
  have hworld : s₁ = leasedWorld (minuteLease 'a' 'b' 'p') := by
    unfold leasedWorld
    rw [hexec]
  subst hworld
  rw [hexec] at hresp
  have hid : resp.agentId = "agt_" := Option.some.inj hresp
  obtain ⟨row, hstored, -, hacts⟩ := registered_agent_acts_iff smallGroup
    (⟨fun _ => rfl, rfl⟩ : UsesRing ringEnv smallGroup) hexec 10 (by decide) (by decide)
  rw [hid] at hstored hacts
  refine ⟨resp, rfl, ?_⟩
  exact ((hacts _ _ _ (hlease.presents hstored)).2 0 _ hring).2
    ⟨List.replicate 32 0xbb, by decide⟩

end SauronID.Action
