import SauronID.Action.TamperEvidence
import SauronID.Usage.Record

/-!
# What is signed can be read back

The payload of a receipt's signature has three versions, chosen by the fields of the receipt
itself: `receipt_payload_binds` says that a chained receipt is determined by its payload
across all of them. The texts that ring keys sign are JSON put together by hand:
`canonical_texts_injective` says that each determines what it was made from, and that no text
is one of two kinds.
-/

namespace SauronID.Action

open Text Usage

/-! ## Receipts -/

/-- The domain and the fields of the payload of a receipt's signature. -/
def signingFields (r : ActionReceipt) : String × List (String × String) :=
  if 0 < r.seq ∧ !r.ownerMandateHash.isEmpty then
    ("sauron.agent-action-receipt.v4",
      signedFields r ++ [("seq", toString r.seq), ("prev_hash", r.prevHash),
        ("owner_mandate_hash", r.ownerMandateHash)])
  else if 0 < r.seq then
    ("sauron.agent-action-receipt.v3",
      signedFields r ++ [("seq", toString r.seq), ("prev_hash", r.prevHash)])
  else ("sauron.agent-action-receipt.v2", signedFields r)

theorem receiptSigningPayload_eq (r : ActionReceipt) :
    receiptSigningPayload r = canonicalFields (signingFields r).1 (signingFields r).2 := by
  unfold receiptSigningPayload signingFields
  split_ifs <;> rfl

/-- The receipt can be signed: no field of its payload is four gibibytes or longer. -/
def SigningEncodable (r : ActionReceipt) : Prop := FieldsFit (signingFields r).2

instance (r : ActionReceipt) : Decidable (SigningEncodable r) :=
  inferInstanceAs (Decidable (FieldsFit _))

theorem fits_signingDomain (r : ActionReceipt) : Fits (utf8 (signingFields r).1) := by
  have hdomains : Fits (utf8 "sauron.agent-action-receipt.v4") ∧
      Fits (utf8 "sauron.agent-action-receipt.v3") ∧
      Fits (utf8 "sauron.agent-action-receipt.v2") := by
    decide +kernel
  unfold signingFields
  split_ifs
  · exact hdomains.1
  · exact hdomains.2.1
  · exact hdomains.2.2

theorem signedFields_inj {r r' : ActionReceipt} (h : signedFields r = signedFields r')
    (hseq : r.seq = r'.seq) (hprev : r.prevHash = r'.prevHash)
    (hmandate : r.ownerMandateHash = r'.ownerMandateHash) : chained r = chained r' := by
  simp only [signedFields, List.cons.injEq, Prod.mk.injEq, true_and, and_true] at h
  obtain ⟨htenant, hid, haction, hagent, hki, hpolicy, hjti, hjkt, htime, hstatus⟩ := h
  have htime' : r.timestamp = r'.timestamp := Int.repr_injective htime
  simp only [chained, ActionReceipt.mk.injEq]
  tauto

/-- The fields of a chained receipt's payload, under their domain, determine the receipt. -/
theorem signingFields_inj {r r' : ActionReceipt} (hseq : 0 < r.seq)
    (h : signingFields r = signingFields r') : chained r = chained r' := by
  have hv43 : "sauron.agent-action-receipt.v4" ≠ "sauron.agent-action-receipt.v3" := by decide
  have hv42 : "sauron.agent-action-receipt.v4" ≠ "sauron.agent-action-receipt.v2" := by decide
  have hv32 : "sauron.agent-action-receipt.v3" ≠ "sauron.agent-action-receipt.v2" := by decide
  unfold signingFields at h
  by_cases hmandate : r.ownerMandateHash = ""
  · rw [if_neg (by simp [hmandate]), if_pos hseq] at h
    by_cases hseq' : 0 < r'.seq
    · by_cases hmandate' : r'.ownerMandateHash = ""
      · rw [if_neg (by simp [hmandate']), if_pos hseq'] at h
        obtain ⟨hcommon, hchain⟩ := List.append_inj (Prod.ext_iff.1 h).2 rfl
        simp only [List.cons.injEq, Prod.mk.injEq, true_and, and_true] at hchain
        exact signedFields_inj hcommon (Int.repr_injective hchain.1) hchain.2
          (hmandate.trans hmandate'.symm)
      · rw [if_pos ⟨hseq', by simpa using hmandate'⟩] at h
        exact absurd (Prod.ext_iff.1 h).1.symm hv43
    · rw [if_neg (by simp [hseq']), if_neg hseq'] at h
      exact absurd (Prod.ext_iff.1 h).1 hv32
  · rw [if_pos ⟨hseq, by simpa using hmandate⟩] at h
    by_cases hseq' : 0 < r'.seq
    · by_cases hmandate' : r'.ownerMandateHash = ""
      · rw [if_neg (by simp [hmandate']), if_pos hseq'] at h
        exact absurd (Prod.ext_iff.1 h).1 hv43
      · rw [if_pos ⟨hseq', by simpa using hmandate'⟩] at h
        obtain ⟨hcommon, hchain⟩ := List.append_inj (Prod.ext_iff.1 h).2 rfl
        simp only [List.cons.injEq, Prod.mk.injEq, true_and, and_true] at hchain
        exact signedFields_inj hcommon (Int.repr_injective hchain.1) hchain.2.1 hchain.2.2
    · rw [if_neg (by simp [hseq']), if_neg hseq'] at h
      exact absurd (Prod.ext_iff.1 h).1 hv42

/-- **A receipt's signature is for this receipt.** If the payload of a chained receipt is that
of any receipt, chained or not, with a mandate or without, then they agree on every field but
the signature; so to clear the position, the hash before or the mandate of a chained receipt
is to change what is signed. -/
theorem receipt_payload_binds {r : ActionReceipt} (hseq : 0 < r.seq) (hr : SigningEncodable r) :
    (∀ r', SigningEncodable r' → receiptSigningPayload r = receiptSigningPayload r' →
        chained r = chained r') ∧
      ∀ r', SigningEncodable r' →
        r' = { r with seq := 0 } ∨ (r.prevHash ≠ "" ∧ r' = { r with prevHash := "" }) ∨
          (r.ownerMandateHash ≠ "" ∧ r' = { r with ownerMandateHash := "" }) →
        receiptSigningPayload r' ≠ receiptSigningPayload r := by
  have hbinds : ∀ r', SigningEncodable r' → receiptSigningPayload r = receiptSigningPayload r' →
      chained r = chained r' := by
    intro r' hr' h
    rw [receiptSigningPayload_eq, receiptSigningPayload_eq] at h
    obtain ⟨hdomain, hfields⟩ := canonicalFields_inj (fits_signingDomain r)
      (fits_signingDomain r') hr hr' h
    exact signingFields_inj hseq (Prod.ext hdomain hfields)
  refine ⟨hbinds, fun r' hr' hcleared hsame => ?_⟩
  have hchained := hbinds r' hr' hsame.symm
  simp only [chained, ActionReceipt.mk.injEq] at hchained
  obtain ⟨-, -, -, -, -, -, -, -, -, -, -, hs, hp, hm⟩ := hchained
  rcases hcleared with rfl | ⟨hprev, rfl⟩ | ⟨hmandate, rfl⟩
  · exact hseq.ne' hs
  · exact hprev hp
  · exact hmandate hm

/-- A receipt in the middle of a chain, under a mandate. -/
def mandatedReceipt : ActionReceipt where
  tenantId := "default"
  receiptId := "rcp_2"
  actionHash := "hash"
  agentId := "agt_1"
  ringKeyImageHex := "00"
  policyVersion := "v2"
  ajwtJti := "jti"
  popJkt := "jkt"
  timestamp := 7
  status := "accepted"
  signature := "v2.00"
  seq := 2
  prevHash := "prev"
  ownerMandateHash := "mandate"

theorem mandated_receipt_not_downgraded :
    receiptSigningPayload { mandatedReceipt with ownerMandateHash := "" } ≠
      receiptSigningPayload mandatedReceipt := by
  refine (receipt_payload_binds (r := mandatedReceipt) (by decide) (by decide +kernel)).2 _
    (by decide +kernel) (.inr (.inr ⟨by decide, rfl⟩))

/-! ## Canonical JSON -/

/-- The text of a string starts with a quote and can be split off whatever follows it. -/
structure JsonStrings (jsonStr : String → String) : Prop where
  quote : ∀ s, ∃ l, (jsonStr s).toList = '"' :: l
  reads : ∀ {s s' x y : String}, jsonStr s ++ x = jsonStr s' ++ y → s = s' ∧ x = y

section Members

variable {F : Type} {env : Env F} {name name' s s' x y : String} {i j : ℤ}

/-- A string is read off after the name of its member. -/
theorem string_member
    (hreads : ∀ {s s' x y}, env.jsonStr s ++ x = env.jsonStr s' ++ y → s = s' ∧ x = y)
    (h : name ++ (env.jsonStr s ++ x) = name ++ (env.jsonStr s' ++ y)) : s = s' ∧ x = y :=
  hreads ((String.append_right_inj _).1 h)

theorem JsonStrings.member (hjson : JsonStrings env.jsonStr)
    (h : name ++ (env.jsonStr s ++ x) = name ++ (env.jsonStr s' ++ y)) : s = s' ∧ x = y :=
  string_member hjson.reads h

/-- A number is read off where the name of the next member starts with a comma. -/
theorem number_member
    (h : name ++ (toString i ++ (name' ++ x)) = name ++ (toString j ++ (name' ++ y)))
    (hcomma : name'.toList.head? = some ',') : i = j ∧ name' ++ x = name' ++ y := by
  obtain ⟨l, hl⟩ : ∃ l, name'.toList = ',' :: l := by
    cases hlist : name'.toList with
    | nil =>
      rw [hlist] at hcomma
      cases hcomma
    | cons c l =>
      rw [hlist] at hcomma
      cases hcomma
      exact ⟨l, rfl⟩
  have hchars := congrArg String.toList ((String.append_right_inj _).1 h)
  simp only [String.toList_append, hl, List.cons_append] at hchars
  obtain ⟨hij, hrest⟩ := append_cons_inj (notMem_toString_int (by decide) (by decide) i)
    (notMem_toString_int (by decide) (by decide) j) hchars
  refine ⟨Int.repr_injective (String.toList_inj.1 hij), String.toList_inj.1 ?_⟩
  simp only [String.toList_append, hl, List.cons_append, hrest]

end Members

variable {F : Type} {env : Env F}

theorem canonicalEnvelopeJson_injective
    (hreads : ∀ {s s' x y}, env.jsonStr s ++ x = env.jsonStr s' ++ y → s = s' ∧ x = y) :
    Function.Injective (canonicalEnvelopeJson env) := by
  intro e e' h
  unfold canonicalEnvelopeJson at h
  simp only [String.append_assoc] at h
  obtain ⟨hagent, h⟩ := string_member hreads h
  obtain ⟨hhuman, h⟩ := string_member hreads h
  obtain ⟨haction, h⟩ := string_member hreads h
  obtain ⟨hresource, h⟩ := string_member hreads h
  obtain ⟨hmerchant, h⟩ := string_member hreads h
  obtain ⟨hamount, h⟩ := number_member h (by decide)
  obtain ⟨hcurrency, h⟩ := string_member hreads h
  obtain ⟨hnonce, h⟩ := string_member hreads h
  obtain ⟨hexpires, h⟩ := number_member h (by decide)
  obtain ⟨hpolicy, h⟩ := string_member hreads h
  obtain ⟨hjti, -⟩ := string_member hreads h
  cases e
  cases e'
  simp only [AgentActionEnvelope.mk.injEq]
  exact ⟨hagent, hhuman, haction, hresource, hmerchant, hamount, hcurrency, hnonce,
    hexpires, hpolicy, hjti⟩

/-- A joined list of strings is read off up to the bracket that ends it. -/
theorem JsonStrings.list_member (hjson : JsonStrings env.jsonStr) {name name' x y : String}
    {l l' : List String} (h : name ++ (",".intercalate (l.map env.jsonStr) ++ (name' ++ x)) =
      name ++ (",".intercalate (l'.map env.jsonStr) ++ (name' ++ y)))
    (hbracket : name'.toList.head? = some ']') : l = l' ∧ name' ++ x = name' ++ y := by
  obtain ⟨rest, hrest⟩ : ∃ rest, name'.toList = ']' :: rest := by
    cases hlist : name'.toList with
    | nil =>
      rw [hlist] at hbracket
      cases hbracket
    | cons c rest =>
      rw [hlist] at hbracket
      cases hbracket
      exact ⟨rest, rfl⟩
  have hdelimits : SelfDelimiting fun s => (env.jsonStr s).toList := by
    intro s s' x y h
    have htext : env.jsonStr s ++ String.ofList x = env.jsonStr s' ++ String.ofList y :=
      String.toList_inj.1 (by simpa using h)
    obtain ⟨hs, hxy⟩ := hjson.reads htext
    exact ⟨hs, String.ofList_inj.1 hxy⟩
  have hchars := congrArg String.toList ((String.append_right_inj _).1 h)
  simp only [String.toList_append, String.toList_intercalate, hrest, List.cons_append,
    List.map_map] at hchars
  obtain ⟨hl, hxy⟩ := hdelimits.intercalate_inj (by decide : ',' ≠ ']')
    (fun s => by
      obtain ⟨m, hm⟩ := hjson.quote s
      exact ⟨'"', m, hm, by decide⟩) hchars
  refine ⟨hl, String.toList_inj.1 ?_⟩
  simp only [String.toList_append, hrest, List.cons_append, hxy]

theorem canonicalAnonEnvelopeJson_injective (hjson : JsonStrings env.jsonStr) :
    Function.Injective (canonicalAnonEnvelopeJson env) := by
  intro e e' h
  unfold canonicalAnonEnvelopeJson at h
  simp only [String.append_assoc] at h
  obtain ⟨htenant, h⟩ := hjson.member h
  obtain ⟨hring, h⟩ := hjson.member h
  obtain ⟨halso, h⟩ := hjson.list_member h (by decide)
  obtain ⟨haction, h⟩ := hjson.member h
  obtain ⟨hresource, h⟩ := hjson.member h
  obtain ⟨hmerchant, h⟩ := hjson.member h
  obtain ⟨hamount, h⟩ := number_member h (by decide)
  obtain ⟨hcurrency, h⟩ := hjson.member h
  obtain ⟨hdigest, h⟩ := hjson.member h
  obtain ⟨hnonce, h⟩ := hjson.member h
  cases e
  cases e'
  simp_all

theorem canonicalUsageReportJson_inj (hjson : JsonStrings env.jsonStr)
    {receiptId receiptId' modelId modelId' nonce nonce' : String}
    {inputTokens inputTokens' outputTokens outputTokens' : ℤ}
    (h : canonicalUsageReportJson env receiptId modelId inputTokens outputTokens nonce =
      canonicalUsageReportJson env receiptId' modelId' inputTokens' outputTokens' nonce') :
    receiptId = receiptId' ∧ modelId = modelId' ∧ inputTokens = inputTokens' ∧
      outputTokens = outputTokens' ∧ nonce = nonce' := by
  unfold canonicalUsageReportJson at h
  simp only [String.append_assoc] at h
  obtain ⟨hreceipt, h⟩ := hjson.member h
  obtain ⟨hmodel, h⟩ := hjson.member h
  obtain ⟨hinput, h⟩ := number_member h (by decide)
  obtain ⟨houtput, h⟩ := number_member h (by decide)
  obtain ⟨hnonce, -⟩ := hjson.member h
  exact ⟨hreceipt, hmodel, hinput, houtput, hnonce⟩

/-- Texts that start differently are different. -/
theorem append_ne_append {a b x y : String} (n : ℕ) (ha : n ≤ a.toList.length)
    (hb : n ≤ b.toList.length) (h : a.toList.take n ≠ b.toList.take n) : a ++ x ≠ b ++ y := by
  intro heq
  have htake := congrArg (fun s => s.toList.take n) heq
  simp only [String.toList_append, List.take_append_of_le_length ha,
    List.take_append_of_le_length hb] at htake
  exact h htake

/-- **The signed texts.** When JSON strings can be split off what follows them, each of the
three texts determines every field it was made from, the list of further rings included, and
no text is of two kinds. -/
theorem canonical_texts_injective (env : Env F) (hjson : JsonStrings env.jsonStr) :
    Function.Injective (canonicalEnvelopeJson env) ∧
      Function.Injective (canonicalAnonEnvelopeJson env) ∧
      Function.Injective (fun p : String × String × ℤ × ℤ × String =>
        canonicalUsageReportJson env p.1 p.2.1 p.2.2.1 p.2.2.2.1 p.2.2.2.2) ∧
      ∀ (e : AgentActionEnvelope) (a : AnonActionEnvelope) (receiptId modelId nonce : String)
        (inputTokens outputTokens : ℤ),
        canonicalEnvelopeJson env e ≠ canonicalAnonEnvelopeJson env a ∧
          canonicalEnvelopeJson env e ≠
            canonicalUsageReportJson env receiptId modelId inputTokens outputTokens nonce ∧
          canonicalAnonEnvelopeJson env a ≠
            canonicalUsageReportJson env receiptId modelId inputTokens outputTokens nonce := by
  refine ⟨canonicalEnvelopeJson_injective hjson.reads, canonicalAnonEnvelopeJson_injective hjson,
    ?_, fun e a receiptId modelId nonce inputTokens outputTokens => ⟨?_, ?_, ?_⟩⟩
  · rintro ⟨r, m, i, o, n⟩ ⟨r', m', i', o', n'⟩ h
    obtain ⟨rfl, rfl, rfl, rfl, rfl⟩ := canonicalUsageReportJson_inj hjson h
    rfl
  -- the first member of each has a name of its own
  · unfold canonicalEnvelopeJson canonicalAnonEnvelopeJson
    simp only [String.append_assoc]
    exact append_ne_append 3 (by decide) (by decide) (by decide)
  · unfold canonicalEnvelopeJson canonicalUsageReportJson
    simp only [String.append_assoc]
    exact append_ne_append 3 (by decide) (by decide) (by decide)
  · unfold canonicalAnonEnvelopeJson canonicalUsageReportJson
    simp only [String.append_assoc]
    exact append_ne_append 3 (by decide) (by decide) (by decide)

/-- Quoting with escapes is such a text. -/
theorem quoted_jsonStrings : JsonStrings quoted where
  quote s := ⟨_, toList_quoted s⟩
  reads := by
    intro s s' x y h
    have hchars := congrArg String.toList h
    rw [String.toList_append, String.toList_append] at hchars
    obtain ⟨hs, hxy⟩ := quoted_selfDelimiting hchars
    exact ⟨hs, String.toList_inj.1 hxy⟩

theorem quoted_envelopes_injective :
    Function.Injective (canonicalAnonEnvelopeJson (sampleEnv ℚ)) :=
  (canonical_texts_injective (sampleEnv ℚ) quoted_jsonStrings).2.1

end SauronID.Action
