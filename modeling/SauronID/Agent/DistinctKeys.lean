import SauronID.Agent.Revocation

/-!
# Keys of active agents

Two unrevoked agents of a tenant cannot hold one key: the partial unique indexes see to it
on every route, however requests interleave. The indexes are over the texts of the keys,
while the protocol uses the bytes they decode to. `active_keys_distinct` says that the keys
are distinct as bytes when every request spells its keys in the one way an encoder would.
-/

namespace SauronID.Agent

open Conc Text Request

variable {F : Type}

/-! ## Keys as bytes -/

/-- Hexadecimal text as an encoder writes it. -/
def CanonicalHex (text : String) : Prop := ∃ bytes, text = hexEncode bytes

/-- 32 bytes out of hexadecimal text. -/
def hex32 (text : String) : Option Bytes := (hexDecode (trim text)).filter (·.length == 32)

variable {text : String} {bytes : Bytes}

/-- What canonical text decodes to is what it encodes. -/
theorem CanonicalHex.eq_hexEncode (h : CanonicalHex text)
    (hbytes : hex32 text = some bytes) : text = hexEncode bytes ∧ text ≠ "" := by
  obtain ⟨b, rfl⟩ := h
  rw [hex32, trim_hexEncode, hexDecode_hexEncode] at hbytes
  obtain ⟨hb, hlen⟩ := Option.filter_eq_some_iff.1 hbytes
  cases hb
  refine ⟨rfl, fun hempty => ?_⟩
  have hsize := utf8ByteSize_hexEncode bytes
  rw [hempty, beq_iff_eq.1 hlen] at hsize
  cases hsize

/-- The decoder is strict: the empty text decodes to no bytes, and no two texts decode to the
same bytes. -/
structure B64Strict (env : Env F) : Prop where
  empty : env.b64Decode "" = .ok []
  injective : ∀ {s s' : String} {bytes : Bytes}, env.b64Decode s = .ok bytes →
    env.b64Decode s' = .ok bytes → s = s'

theorem decode_of_b64Exactly {env : Env F} (h : b64Exactly env 32 text = some bytes) :
    env.b64Decode (trim text) = .ok bytes ∧ bytes.length = 32 := by
  obtain ⟨hdecode, hlen⟩ := Option.filter_eq_some_iff.1 h
  refine ⟨?_, beq_iff_eq.1 hlen⟩
  cases hd : env.b64Decode (trim text) with
  | error e => simp [hd, Except.toOption] at hdecode
  | ok b =>
    rw [hd] at hdecode
    cases hdecode
    rfl

/-- The texts are spelt as encoders write them: hexadecimal in lower case, no blanks. -/
structure Canonical (publicKeyHex ringKeyImageHex popPublicKeyB64u : String) : Prop where
  publicKey : CanonicalHex publicKeyHex
  keyImage : CanonicalHex ringKeyImageHex
  popKey : trim popPublicKeyB64u = popPublicKeyB64u

/-- The keys of a row. -/
abbrev CanonicalRow (r : AgentRow) : Prop :=
  Canonical r.publicKeyHex r.ringKeyImageHex r.popPublicKeyB64u

/-- The rows agree on a key, as bytes. -/
def ShareKey (env : Env F) (r r' : AgentRow) : Prop :=
  (∃ bytes, hex32 r.publicKeyHex = some bytes ∧ hex32 r'.publicKeyHex = some bytes) ∨
    (∃ bytes, hex32 r.ringKeyImageHex = some bytes ∧ hex32 r'.ringKeyImageHex = some bytes) ∨
    ∃ bytes, b64Exactly env 32 r.popPublicKeyB64u = some bytes ∧
      b64Exactly env 32 r'.popPublicKeyB64u = some bytes

variable {key : AgentRow → String} {a b : AgentRow}

theorem AgentRow.sameActiveKey_iff : a.sameActiveKey key b = true ↔
      a.revoked = 0 ∧ b.revoked = 0 ∧ a.tenantId = b.tenantId ∧ key a ≠ "" ∧ key a = key b := by
  simp [AgentRow.sameActiveKey, and_assoc]

theorem AgentRow.sameActiveKey_symm (h : a.sameActiveKey key b = true) :
    b.sameActiveKey key a = true := by
  obtain ⟨ha, hb, htenant, hne, hkey⟩ := AgentRow.sameActiveKey_iff.1 h
  exact AgentRow.sameActiveKey_iff.2 ⟨hb, ha, htenant.symm, hkey ▸ hne, hkey.symm⟩

theorem AgentRow.clashes_iff : a.clashes b = true ↔ a.sameActiveKey AgentRow.publicKeyHex b = true ∨
      a.sameActiveKey AgentRow.ringKeyImageHex b = true ∨
      a.sameActiveKey AgentRow.popPublicKeyB64u b = true := by
  simp [AgentRow.clashes, or_assoc]

theorem AgentRow.clashes_symm (h : a.clashes b = true) : b.clashes a = true := by
  rw [AgentRow.clashes_iff] at h ⊢
  exact h.imp AgentRow.sameActiveKey_symm
    (Or.imp AgentRow.sameActiveKey_symm AgentRow.sameActiveKey_symm)

/-- Two canonical spellings of one key are one text, which the indexes see. -/
theorem ShareKey.clashes {env : Env F} (hb64 : B64Strict env) {r r' : AgentRow}
    (h : ShareKey env r r') (hr : CanonicalRow r) (hr' : CanonicalRow r') (hactive : r.revoked = 0)
    (hactive' : r'.revoked = 0) (htenant : r.tenantId = r'.tenantId) : r.clashes r' = true := by
  rw [AgentRow.clashes_iff]
  simp only [AgentRow.sameActiveKey_iff]
  obtain ⟨bytes, hkey, hkey'⟩ | ⟨bytes, hkey, hkey'⟩ | ⟨bytes, hkey, hkey'⟩ := h
  · obtain ⟨htext, hne⟩ := hr.publicKey.eq_hexEncode hkey
    obtain ⟨htext', -⟩ := hr'.publicKey.eq_hexEncode hkey'
    exact .inl ⟨hactive, hactive', htenant, hne, htext.trans htext'.symm⟩
  · obtain ⟨htext, hne⟩ := hr.keyImage.eq_hexEncode hkey
    obtain ⟨htext', -⟩ := hr'.keyImage.eq_hexEncode hkey'
    exact .inr (.inl ⟨hactive, hactive', htenant, hne, htext.trans htext'.symm⟩)
  · obtain ⟨hdecode, hlen⟩ := decode_of_b64Exactly hkey
    obtain ⟨hdecode', -⟩ := decode_of_b64Exactly hkey'
    have htext := hb64.injective hdecode hdecode'
    rw [hr.popKey, hr'.popKey] at htext
    refine .inr (.inr ⟨hactive, hactive', htenant, fun hempty => ?_, htext⟩)
    rw [hr.popKey, hempty, hb64.empty] at hdecode
    cases hdecode
    cases hlen

/-! ## The indexes -/

/-- No two rows collide on an index. -/
def NoClash (rows : List AgentRow) : Prop := rows.Pairwise fun a b => a.clashes b = false

theorem clashes_eq_false_symm (h : a.clashes b = false) : b.clashes a = false := by
  rw [Bool.eq_false_iff] at h ⊢
  exact fun hba => h (AgentRow.clashes_symm hba)

variable {rows : List AgentRow} {row : AgentRow}

theorem noClash_append (h : NoClash rows)
    (hrow : ∀ r ∈ rows, r.clashes row = false) : NoClash (rows ++ [row]) := by
  refine List.pairwise_append.2 ⟨h, List.pairwise_singleton _ _, fun r hr r' hr' => ?_⟩
  rw [List.mem_singleton.1 hr']
  exact hrow r hr

variable {rows' : List AgentRow}

theorem noClash_insert (h : NoClash rows)
    (hins : insertAgents rows row = .ok rows') : NoClash rows' := by
  unfold insertAgents at hins
  split at hins
  · cases hins
  · split at hins
    · cases hins
    · next hfree =>
      cases hins
      exact noClash_append h fun r hr => by simpa using List.find?_eq_none.1 hfree r hr

theorem noClash_upsert (h : NoClash rows)
    (hids : IdsNodup rows) (hup : upsertAgents rows row = .ok rows') : NoClash rows' := by
  rcases upsertAgents_eq_ok hup with ⟨old, hfree, rfl⟩ | ⟨-, rfl⟩
  · -- at most one of two rows is the updated one
    have hids' : rows.Pairwise fun a b => a.agentId ≠ b.agentId := List.pairwise_map.1 hids
    refine List.pairwise_map.2 ((h.and hids').imp_of_mem fun {a b} ha hb hab => ?_)
    by_cases hida : a.agentId = row.agentId
    · have hidb : b.agentId ≠ row.agentId := fun hb' => hab.2 (hida.trans hb'.symm)
      simpa [hida, hidb] using clashes_eq_false_symm (hfree b hb hidb)
    · by_cases hidb : b.agentId = row.agentId
      · simpa [hida, hidb] using hfree a ha hida
      · simpa [hida, hidb] using hab.1
  · refine noClash_append (h.sublist List.filter_sublist) fun r hr => ?_
    simpa using (List.mem_filter.1 hr).2

/-- A revoked row is in no index. -/
theorem AgentRow.clashes_of_revokeIf {x human tenantId : String}
    (h : (a.revokeIf x human tenantId).clashes (b.revokeIf x human tenantId) = true) :
    a.clashes b = true := by
  have hkeep : ∀ r : AgentRow, (r.revokeIf x human tenantId).revoked = 0 →
      r.revokeIf x human tenantId = r := by
    intro r hr
    unfold AgentRow.revokeIf at hr ⊢
    split
    · next hown =>
      rw [if_pos hown] at hr
      cases hr
    · rfl
  have hactive : (a.revokeIf x human tenantId).revoked = 0 ∧
      (b.revokeIf x human tenantId).revoked = 0 := by
    rw [AgentRow.clashes_iff] at h
    simp only [AgentRow.sameActiveKey_iff] at h
    tauto
  rwa [hkeep a hactive.1, hkeep b hactive.2] at h

variable {lbl : Label F}

/-- **The step.** Every statement keeps to the indexes. -/
theorem AgentsStep.noClash (h : AgentsStep lbl rows rows') (hids : IdsNodup rows)
    (hclash : NoClash rows) : NoClash rows' := by
  cases h with
  | same => exact hclash
  | upsert h => exact noClash_upsert hclash hids h
  | insert h => exact noClash_insert hclash h
  | revoke =>
    refine List.pairwise_map.2 (hclash.imp fun {a b} hab => ?_)
    rw [Bool.eq_false_iff] at hab ⊢
    exact fun h => hab (AgentRow.clashes_of_revokeIf h)
  | @checksum x checksum _ =>
    refine List.pairwise_map.2 (hclash.imp fun {a b} hab => ?_)
    obtain ⟨c, hc⟩ := AgentRow.checksumIf_eq x checksum a
    obtain ⟨d, hd⟩ := AgentRow.checksumIf_eq x checksum b
    rw [hc, hd]
    exact hab

/-- The rows after a statement are the rows before, but for their lease and checksum, and the
one it writes. -/
theorem AgentsStep.forall_row {P : AgentRow → Prop} (h : AgentsStep lbl rows rows')
    (hrows : ∀ r ∈ rows, P r) (hrevoke : ∀ r n, P r → P { r with revoked := n })
    (hchecksum : ∀ r c, P r → P { r with agentChecksum := c })
    (hwrite : ∀ row, lbl = .write (.insertAgent row) ∨ lbl = .write (.upsertAgent row) → P row)
    (hupdate : ∀ old row : AgentRow, P row → P (old.updateFrom row)) : ∀ r ∈ rows', P r := by
  cases h with
  | same => exact hrows
  | @upsert row _ _ h =>
    have hrow := hwrite row (.inr rfl)
    rcases upsertAgents_eq_ok h with ⟨old, -, rfl⟩ | ⟨-, rfl⟩
    · refine List.forall_mem_map.2 fun r hr => ?_
      split
      · exact hupdate old row hrow
      · exact hrows r hr
    · rw [List.forall_mem_append, List.forall_mem_singleton]
      exact ⟨fun r hr => hrows r (List.mem_filter.1 hr).1, hrow⟩
  | @insert row _ _ h =>
    obtain ⟨-, rfl⟩ := insertAgents_eq_ok h
    rw [List.forall_mem_append, List.forall_mem_singleton]
    exact ⟨hrows, hwrite row (.inl rfl)⟩
  | @revoke a human tenantId _ =>
    refine List.forall_mem_map.2 fun r hr => ?_
    obtain ⟨n, hn⟩ := AgentRow.revokeIf_eq a human tenantId r
    rw [hn]
    exact hrevoke r n (hrows r hr)
  | @checksum a checksum _ =>
    refine List.forall_mem_map.2 fun r hr => ?_
    obtain ⟨c, hc⟩ := AgentRow.checksumIf_eq a checksum r
    rw [hc]
    exact hchecksum r c (hrows r hr)

/-! ## Runs -/

/-- A request that creates an agent spells its keys canonically. -/
def AgentCall.SpellsKeys : AgentCall → Prop
  | register _ _ req => Canonical req.publicKeyHex req.ringKeyImageHex req.popPublicKeyB64u
  | issue _ _ body => Canonical body.publicKeyHex body.ringKeyImageHex body.popPublicKeyB64u
  | _ => True

/-- The rows keep to the indexes, and their keys are spelt canonically. -/
structure KeysApart (s : World F) (_ : RunLog F) : Prop where
  ids : IdsNodup s.db.agents
  noClash : NoClash s.db.agents
  canonical : ∀ r ∈ s.db.agents, CanonicalRow r

variable [Float64 F] {env : Env F}

theorem keysApart_invariant {calls : List AgentCall} (hcalls : ∀ call ∈ calls, call.SpellsKeys)
    (C : LogEntry F → RunLog F → Prop) :
    TraceInvariant (fun i => srvRules (agentMay env calls[i]?)) C KeysApart where
  tick _ h := ⟨h.ids, h.noClash, h.canonical⟩
  step := by
    rintro s log i lbl s' h - heff hmay
    have hstep := agentsStep_of_effect heff
    refine ⟨hstep.idsNodup h.ids, hstep.noClash h.ids h.noClash,
      hstep.forall_row h.canonical (fun r n hr => hr) (fun r c hr => hr) ?_
        fun old row hrow => hrow⟩
    rintro row (rfl | rfl)
    · obtain ⟨_, _, _, hcall, hrow⟩ := hmay
      have hspell := hcalls _ (List.mem_of_getElem? hcall)
      rw [CanonicalRow, hrow.publicKey, hrow.keyImage, hrow.popKey]
      exact hspell
    · obtain ⟨_, _, _, hcall, hrow⟩ := hmay
      have hspell := hcalls _ (List.mem_of_getElem? hcall)
      rw [CanonicalRow, hrow.publicKey, hrow.keyImage, hrow.popKey]
      exact hspell

variable (env) in
/-- **Keys of active agents.** When every request that creates an agent spells its keys
canonically, no two unrevoked agents of a tenant share a key, through every interleaving. -/
theorem active_keys_distinct (hb64 : B64Strict env) {start : World F}
    (hstart : KeysApart start []) (calls : List AgentCall)
    (hcalls : ∀ call ∈ calls, call.SpellsKeys) (sched : List Event) {r r' : AgentRow}
    (hr : r ∈ (agentRun env start calls sched).world.db.agents)
    (hr' : r' ∈ (agentRun env start calls sched).world.db.agents)
    (hne : r.agentId ≠ r'.agentId) (hactive : r.revoked = 0) (hactive' : r'.revoked = 0)
    (htenant : r.tenantId = r'.tenantId) : ¬ShareKey env r r' := by
  intro hshare
  obtain ⟨h, -⟩ := (keysApart_invariant hcalls fun _ _ => True).run_calls (agentCalls_yield calls)
    hstart sched (LogOk.of_true _)
  have hsymm : Std.Symm fun a b : AgentRow => a.clashes b = false :=
    ⟨fun _ _ => clashes_eq_false_symm⟩
  have hapart := h.noClash.forall hr hr' fun heq => hne (congrArg _ heq)
  rw [hshare.clashes hb64 (h.canonical r hr) (h.canonical r' hr') hactive hactive'
    htenant] at hapart
  cases hapart

/-! ## One key, two spellings -/

/-- The request of `minuteLease 'a' 'b' 'p'` with its hexadecimal keys in upper case and a
blank after its proof-of-possession key. -/
def respelledLease : RegisterAgentRequest :=
  { minuteLease 'A' 'B' 'p' with
    popPublicKeyB64u := String.ofList (List.replicate 32 'p' ++ [' ']) }

/-- The first request, and after it the second. -/
@[irreducible] def leasedAfter (req : RegisterAgentRequest) : SrvConfig ℚ AppError String :=
  agentRun registerEnv registerWorld
    [registerWith 'a' 'b' 'p' "", .register "default" (some ownerSession) req]
    (List.replicate 30 (.step 0) ++ List.replicate 30 (.step 1))

/-- The three keys of a row are these bytes, and it is an unrevoked row of the tenant. -/
def hasKeys (publicKey keyImage popKey : UInt8) (r : AgentRow) : Bool :=
  r.revoked == 0 && r.tenantId == "default" &&
    hex32 r.publicKeyHex == some (List.replicate 32 publicKey) &&
    hex32 r.ringKeyImageHex == some (List.replicate 32 keyImage) &&
    b64Exactly registerEnv 32 r.popPublicKeyB64u == some (List.replicate 32 popKey)

/-- Both are registered: two unrevoked agents with the same three keys. -/
theorem respelled_keys_registered :
    ∃ r r', (leasedAfter respelledLease).world.db.agents = [r, r'] ∧ r.agentId ≠ r'.agentId ∧
      r.revoked = 0 ∧ r'.revoked = 0 ∧ r.tenantId = r'.tenantId ∧
      (∃ bytes, hex32 r.publicKeyHex = some bytes ∧ hex32 r'.publicKeyHex = some bytes) ∧
      (∃ bytes, hex32 r.ringKeyImageHex = some bytes ∧ hex32 r'.ringKeyImageHex = some bytes) ∧
      ∃ bytes, b64Exactly registerEnv 32 r.popPublicKeyB64u = some bytes ∧
        b64Exactly registerEnv 32 r'.popPublicKeyB64u = some bytes := by
  have hrun : (leasedAfter respelledLease).world.db.agents.map (·.agentId) = ["agt_", "agt_ff"] ∧
      (leasedAfter respelledLease).world.db.agents.all (hasKeys 0xaa 0xbb 112) = true := by
    decide +kernel
  obtain ⟨hids, hkeys⟩ := hrun
  obtain ⟨r, rest, hrows, hid, hrest⟩ := List.map_eq_cons_iff.1 hids
  obtain ⟨r', rest', rfl, hid', hnil⟩ := List.map_eq_cons_iff.1 hrest
  rw [List.map_eq_nil_iff.1 hnil] at hrows
  simp only [hrows, List.all_cons, List.all_nil, hasKeys, Bool.and_true, Bool.and_eq_true,
    beq_iff_eq] at hkeys
  obtain ⟨⟨⟨⟨⟨hrev, htenant⟩, hpub⟩, hki⟩, hpop⟩, ⟨⟨⟨hrev', htenant'⟩, hpub'⟩, hki'⟩, hpop'⟩ :=
    hkeys
  refine ⟨r, r', hrows, ?_, hrev, hrev', htenant.trans htenant'.symm, ⟨_, hpub, hpub'⟩,
    ⟨_, hki, hki'⟩, _, hpop, hpop'⟩
  rw [hid, hid']
  decide

/-- Two requests with different keys in canonical spelling. -/
theorem canonical_keys_distinct :
    (leasedAfter (minuteLease 'c' 'd' 'q')).world.db.agents.length = 2 ∧
      ∀ r ∈ (leasedAfter (minuteLease 'c' 'd' 'q')).world.db.agents,
        ∀ r' ∈ (leasedAfter (minuteLease 'c' 'd' 'q')).world.db.agents, r.agentId ≠ r'.agentId →
          r.revoked = 0 → r'.revoked = 0 → r.tenantId = r'.tenantId →
            ¬ShareKey registerEnv r r' := by
  refine ⟨by decide +kernel, ?_⟩
  have hb64 : B64Strict registerEnv :=
    { empty := rfl
      injective := fun {s s' bytes} h h' =>
        utf8_injective ((Except.ok.inj h).trans (Except.ok.inj h').symm) }
  have hstart : KeysApart registerWorld [] :=
    ⟨List.nodup_nil, List.Pairwise.nil, List.forall_mem_nil _⟩
  unfold leasedAfter
  intro r hr r' hr' hne hrev hrev' htenant
  refine active_keys_distinct registerEnv hb64 hstart _ ?_ _ hr hr' hne hrev hrev' htenant
  refine List.forall_mem_cons.2 ⟨?_, List.forall_mem_cons.2 ⟨?_, List.forall_mem_nil _⟩⟩
  · exact ⟨⟨List.replicate 32 0xaa, by decide⟩, ⟨List.replicate 32 0xbb, by decide⟩, by decide⟩
  · exact ⟨⟨List.replicate 32 0xcc, by decide⟩, ⟨List.replicate 32 0xdd, by decide⟩, by decide⟩

end SauronID.Agent
