import SauronID.Action.Anon

/-!
# Every named ring admits the action

An anonymous action names a primary ring and any number of additional ones. The rules of the
rings intersect: whatever the database holds, `named_rings_admit` gives for each ring of an
accepted action a rule that admits it and members against which its own signature of the one
envelope verifies.
-/

namespace SauronID.Action

open Conc Text

variable {F : Type}

/-- The ring exists, its rule admits the action under the configuration, and the signature of
the envelope verifies against its members, of which there is one. -/
structure AdmittedBy (env : Env F) (db : Db F) (e : AnonActionEnvelope) (ringId : String)
    (sig : RingSignature) : Prop where
  rule : ∃ row rule, (db.rings.find? fun r => r.tenantId == e.tenantId && r.ringId == ringId) =
      some row ∧ env.parseRingRule row.ruleJson = .ok rule ∧
    evaluateRule rule e.action e.configDigest = .allow
  members : ∃ members ≠ [], memberPoints env (orderBy id ((db.ringMembers.filter fun r =>
      r.tenantId == e.tenantId && r.ringId == ringId).map RingMemberRow.memberPointHex)) =
      .ok members ∧
    env.ringVerify (canonicalAnonEnvelopeBytes env e) members sig = true

variable {env : Env F} {s : World F} {e : AnonActionEnvelope} {ringId : String} {tenant : String}

theorem getRing_brings :
    (getRing env tenant ringId).Brings s fun found s' => s'.db = s.db ∧ ∀ rule ∈ found, ∃ row,
      (s.db.rings.find? fun r => r.tenantId == tenant && r.ringId == ringId) = some row ∧
        env.parseRingRule row.ruleJson = .ok rule.1 := by
  intro found s' h
  rw [getRing, Prog.exec_bind, Prog.exec_attempt, Srv.exec_select] at h
  cases hf : s.fault with
  | some err =>
    rw [hf] at h
    cases h
    exact ⟨rfl, nofun⟩
  | none =>
    rw [hf] at h
    dsimp only at h
    split at h
    · next row hrow =>
      split at h
      · next rule hrule =>
        cases h
        refine ⟨rfl, fun x hx => ?_⟩
        cases hx
        exact ⟨row, Except.ok.inj hrow, hrule⟩
      · cases h
    · cases h
      exact ⟨rfl, nofun⟩

theorem listMemberPoints_brings :
    (listMemberPoints env tenant ringId).Brings s fun members s' => s'.db = s.db ∧
      memberPoints env (orderBy id ((s.db.ringMembers.filter fun r =>
        r.tenantId == tenant && r.ringId == ringId).map RingMemberRow.memberPointHex)) =
      .ok members := by
  refine Srv.brings_select.mapErr.andThen ?_
  rintro rows s' ⟨rfl, hs'⟩ members s'' h
  cases hpoints : memberPoints env (orderBy id ((s.db.ringMembers.filter fun r =>
      r.tenantId == tenant && r.ringId == ringId).map RingMemberRow.memberPointHex)) with
  | error err =>
    rw [hpoints] at h
    cases h
  | ok points =>
    rw [hpoints] at h
    cases h
    exact ⟨hs', rfl⟩

theorem admitByRing_brings {sig : RingSignature} {texts : RingErrors} :
    (admitByRing env e ringId sig texts).Brings s fun _ s' =>
      s'.db = s.db ∧ AdmittedBy env s.db e ringId sig := by
  refine getRing_brings.mapErr.andThen ?_
  rintro found s₁ ⟨hs₁, hfound⟩
  refine .okOr fun rule hrule => ?_
  obtain ⟨row, hrow, hparse⟩ := hfound rule hrule
  cases hdecision : evaluateRule rule.1 e.action e.configDigest with
  | deny why => exact nofun
  | allow =>
    refine listMemberPoints_brings.mapErr.andThen ?_
    rintro members s₂ ⟨hs₂, hmembers⟩
    rw [hs₁] at hmembers
    refine .rejectIf fun hne => .rejectIf fun hverify => Prog.brings_pure ⟨hs₂.trans hs₁, ?_⟩
    exact ⟨⟨row, rule.1, hrow, hparse, hdecision⟩,
      members, by simpa using hne, hmembers, by simpa using hverify⟩

/-- The loop over the additional rings leaves the database and has admitted each of them. -/
theorem admitByAlsoRings_brings (rings : List (String × RingSignature)) :
    (admitByAlsoRings env e rings).Brings s fun _ s' =>
      s'.db = s.db ∧ ∀ x ∈ rings, AdmittedBy env s.db e x.1 x.2 := by
  induction rings generalizing s with
  | nil => exact Prog.brings_pure ⟨rfl, List.forall_mem_nil _⟩
  | cons ring rings ih =>
    refine admitByRing_brings.andThen ?_
    rintro rule s₁ ⟨hs₁, hring⟩
    refine ih.andThen ?_
    rintro versions s₂ ⟨hs₂, hrings⟩
    rw [hs₁] at hrings
    exact Prog.brings_pure ⟨hs₂.trans hs₁, List.forall_mem_cons.2 ⟨hring, hrings⟩⟩

/-! ## The envelope -/

/-- The additional rings that pass are apart from the primary ring, from those before them and
from each other. -/
theorem nodup_of_checkAlsoRings {primary : String} {before rest : List String}
    (h : checkAlsoRings primary before rest = .ok ()) :
    (∀ r ∈ rest, r ≠ primary ∧ r ∉ before) ∧ rest.Nodup := by
  induction rest generalizing before with
  | nil => exact ⟨List.forall_mem_nil _, List.nodup_nil⟩
  | cons r rest ih =>
    unfold checkAlsoRings at h
    split at h
    · cases h
    split at h
    · cases h
    next hapart =>
    obtain ⟨hrest, hnodup⟩ := ih h
    rw [not_or] at hapart
    refine ⟨List.forall_mem_cons.2 ⟨hapart, fun x hx => ?_⟩,
      List.nodup_cons.2 ⟨fun hmem => ?_, hnodup⟩⟩
    · obtain ⟨hne, hx'⟩ := hrest x hx
      exact ⟨hne, fun hb => hx' (List.mem_append_left _ hb)⟩
    · exact (hrest r hmem).2 (List.mem_append_right _ (List.mem_singleton_self r))

/-- What the checks before the first read ensure of the named rings. -/
theorem named_of_checkAnonEnvelope {proof : AnonActionProof} {now : ℤ}
    (h : checkAnonEnvelope proof now = .ok ()) :
    proof.alsoRingSignatures.length = proof.envelope.alsoRingIds.length ∧
      (proof.envelope.ringId :: proof.envelope.alsoRingIds).Nodup := by
  unfold checkAnonEnvelope at h
  simp only [bind, Except.bind, throw, throwThe, MonadExceptOf.throw] at h
  split at h
  · cases h
  split at h
  · cases h
  split at h
  · cases h
  split at h
  · cases h
  next hlength =>
  obtain ⟨hapart, hnodup⟩ := nodup_of_checkAlsoRings h
  exact ⟨not_not.1 hlength, List.nodup_cons.2 ⟨fun hmem => (hapart _ hmem).1 rfl, hnodup⟩⟩

/-! ## Acceptance -/

variable [Float64 F]

/-- **Naming more rings narrows.** For every database, envelope and proof, if the action is
accepted then no two of the named rings are equal, and each of them, on its own, exists, has a
rule that admits the action, and members against which its signature of the envelope verifies. -/
theorem named_rings_admit (env : Env F) (proof : AnonActionProof) (now : ℤ) {s s' : World F}
    {receipt : ActionReceipt}
    (h : (validateAnonAction env proof now).exec s = (.ok receipt, s')) :
    (proof.envelope.ringId :: proof.envelope.alsoRingIds).Nodup ∧
      List.Forall₂ (AdmittedBy env s.db proof.envelope)
        (proof.envelope.ringId :: proof.envelope.alsoRingIds)
        (proof.ringSignature :: proof.alsoRingSignatures) := by
  refine Prog.Brings.ofExcept (Q := fun _ _ => _) (fun _ hcheck => ?_) receipt s' h
  obtain ⟨hlength, hnodup⟩ := named_of_checkAnonEnvelope hcheck
  refine admitByRing_brings.andThen ?_
  rintro rule s₁ ⟨hs₁, hprimary⟩
  refine (admitByAlsoRings_brings _).andThen ?_
  rintro also s₂ ⟨-, halso⟩ receipt s' -
  rw [hs₁] at halso
  refine ⟨hnodup, .cons hprimary (List.forall₂_iff_zip.2 ⟨hlength.symm, fun {a b} hab => ?_⟩)⟩
  exact halso (a, b) hab

/-- Two rings with a member each; both rules admit to read. -/
def twoRings : World ℚ :=
  World.steady { Db.empty ℚ with
    rings := [⟨"default", "staff", "", 1⟩, ⟨"default", "eu", "", 1⟩]
    ringMembers := [⟨"default", "staff", String.ofList (List.replicate 64 '0')⟩,
      ⟨"default", "eu", String.ofList (List.replicate 64 '1')⟩] } 5000

def readRuleEnv : Env ℚ :=
  { sampleEnv ℚ with parseRingRule := fun _ => .ok ⟨["read"], [], ⟨none, none, none⟩⟩ }

/-- A member of each ring signs that it reads. -/
def readInTwoRings : AnonActionProof where
  envelope :=
    { tenantId := "default", ringId := "staff", alsoRingIds := ["eu"], action := "read",
      resource := "", merchantId := "", amountMinor := 0, currency := "", configDigest := "",
      nonce := "nonce-0123456789", expiresAt := 100 }
  ringSignature := ⟨[], [], [0]⟩
  alsoRingSignatures := [⟨[], [], [1]⟩]

theorem both_rings_admit : ∃ receipt s', (validateAnonAction readRuleEnv readInTwoRings 5).exec
    twoRings = (.ok receipt, s') ∧
      AdmittedBy readRuleEnv twoRings.db readInTwoRings.envelope "eu" ⟨[], [], [1]⟩ := by
  have hok : ((validateAnonAction readRuleEnv readInTwoRings 5).exec twoRings).1.isOk = true := by
    decide +kernel
  rcases h : (validateAnonAction readRuleEnv readInTwoRings 5).exec twoRings with ⟨_ | receipt, s'⟩
  · rw [h] at hok
    cases hok
  · obtain ⟨-, hrings⟩ := named_rings_admit readRuleEnv readInTwoRings 5 h
    obtain ⟨-, heu, -⟩ := List.forall₂_cons.1 hrings |>.imp_right List.forall₂_cons.1
    exact ⟨receipt, s', rfl, heu⟩

end SauronID.Action
