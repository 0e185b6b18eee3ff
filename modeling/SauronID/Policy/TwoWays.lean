import SauronID.Policy.Compile

/-!
# Limits that can be written in two ways

A policy can deny a domain by its denylist or by the invariant `no_external_call_to`, and require
approvals by `required_signatures` or by the invariant `transfer_requires`. The check normalises
what it reads and the invariant compares it as it is, so the two ways agree only on some actions.
-/

namespace SauronID.Dsl

open Text

variable {F : Type} [Float64 F] {engine : Engine F} {ctx : EvaluationContext F}

/-! ## Domains -/

variable {src : String} {binding : Binding F}

/-- An invariant allows when it evaluates to true. -/
theorem expression_isAllow {expr : Expr F} :
    ((RuntimeCheck.expression src expr binding).evaluate engine ctx).isAllow = true ↔
      evalPredicate expr ⟨ctx.action, ctx, binding, ctx.nowEpoch⟩ = .ok true := by
  unfold RuntimeCheck.evaluate
  dsimp only
  split <;> simp_all [Verdict.isAllow]

variable {d : String}

/-- The invariant denies the domain as it is written. -/
theorem noExternalCallTo_denies_iff :
    ((RuntimeCheck.expression src (.call "no_external_call_to" [(some "domain", .str d)])
      binding).evaluate engine ctx).isAllow = false ↔
        ctx.action.metaStr "target_domain" = some d := by
  have heval : evalPredicate (.call "no_external_call_to" [(some "domain", .str d)])
      ⟨ctx.action, ctx, binding, ctx.nowEpoch⟩ =
        .ok (ctx.action.metaStr "target_domain" != some d) := rfl
  rw [← Bool.not_eq_true, expression_isAllow, heval]
  simp

/-- The denylist denies it in any case. -/
theorem domainDenylist_denies_iff :
    ((RuntimeCheck.domainDenylist [asciiLower d]).evaluate engine ctx).isAllow = false ↔
      ∃ target, ctx.action.metaStr "target_domain" = some target ∧
        asciiLower target = asciiLower d := by
  unfold RuntimeCheck.evaluate
  cases htarget : ctx.action.metaStr "target_domain" with
  | none => simp [htarget, Verdict.isAllow]
  | some target =>
    by_cases h : asciiLower target = asciiLower d <;> simp [htarget, h, denyIf, Verdict.isAllow]

/-- A policy of one check denies what the check denies. -/
theorem evaluate_singleton {p : CompiledPolicy engine} {check : RuntimeCheck F}
    (h : p.checks = [check]) : (evaluate p ctx).isAllow = (check.evaluate engine ctx).isAllow := by
  unfold evaluate
  rw [h]
  unfold evaluateChecks
  cases check.evaluate engine ctx <;> rfl

/-- **Two ways to deny a domain.** For every domain and every action, the policy with the invariant
denies exactly if the one with the denylist does, unless the action's target is the domain in
another case. -/
theorem domain_denials_agree_iff {d src version agent : String} {p p' : CompiledPolicy engine}
    (hsrc : engine.parseExpr src = .ok (.call "no_external_call_to" [(some "domain", .str d)]))
    (hp : compile engine ⟨version, agent, {}, [src]⟩ = .ok p)
    (hp' : compile engine ⟨version, agent, { domainDenylist := some [d] }, []⟩ = .ok p')
    (ctx : EvaluationContext F) :
    ((evaluate p ctx).isAllow = false ↔ (evaluate p' ctx).isAllow = false) ↔
      ∀ target, ctx.action.metaStr "target_domain" = some target →
        asciiLower target = asciiLower d → target = d := by
  have hchecks : p.checks = [.expression src (.call "no_external_call_to"
      [(some "domain", .str d)]) {}] := by
    have h := checks_of_compile _ hp
    simp [compileChecks, optionalM, compileInvariants, hsrc, Except.mapError, orderedChecks,
      optional, bind, Except.bind, pure, Except.pure] at h
    exact h.symm
  have hchecks' : p'.checks = [.domainDenylist [asciiLower d]] :=
    (Except.ok.inj (checks_of_compile _ hp')).symm
  rw [evaluate_singleton hchecks, evaluate_singleton hchecks', noExternalCallTo_denies_iff,
    domainDenylist_denies_iff]
  constructor
  · intro hagree target htarget hcase
    have := hagree.2 ⟨target, htarget, hcase⟩
    rw [htarget] at this
    exact Option.some.inj this
  · intro hsame
    constructor
    · intro htarget
      exact ⟨d, htarget, rfl⟩
    · rintro ⟨target, htarget, hcase⟩
      rw [htarget, hsame target htarget hcase]

/-- An engine that knows one invariant. -/
def denialEngine : Engine ℚ :=
  ⟨Char.isDigit, fun _ => false, fun _ => false, fun _ => .ok (.call "no_external_call_to"
    [(some "domain", .str "evil.example")]), fun _ => "", fun _ => true, fun _ => some .utc⟩

/-- The policies that deny the domain by the invariant and by the list. -/
def invariantPolicy : CompiledPolicy denialEngine :=
  ⟨"", "agt_1", [.expression "no_external_call_to(domain: 'evil.example')" (.call
    "no_external_call_to" [(some "domain", .str "evil.example")]) {}],
    ⟨"1", "agt_1", {}, ["no_external_call_to(domain: 'evil.example')"]⟩, rfl⟩

def denylistPolicy : CompiledPolicy denialEngine :=
  ⟨"", "agt_1", [.domainDenylist ["evil.example"]],
    ⟨"1", "agt_1", { domainDenylist := some ["evil.example"] }, []⟩, rfl⟩

/-- An action judged in second 0. -/
def plainContext (action : Action ℚ) : EvaluationContext ℚ :=
  ⟨action, 0, [], 0, "", 0, [], 0, none, 0, ""⟩

/-- A call to a domain. -/
def callContext (target : String) : EvaluationContext ℚ :=
  plainContext
    { actionId := "", tool := "egress", timestamp := 0,
      metadata := [("target_domain", .str target)] }

/-- The domain in upper case passes the invariant. -/
theorem upper_case_domain_passes :
    (evaluate invariantPolicy (callContext "EVIL.example")).isAllow = true ∧
      (evaluate denylistPolicy (callContext "EVIL.example")).isAllow = false := by
  decide +kernel

/-- As it is written both deny it. -/
theorem domain_denied_alike :
    (evaluate invariantPolicy (callContext "evil.example")).isAllow = false ↔
      (evaluate denylistPolicy (callContext "evil.example")).isAllow = false := by
  have hinvariant : compile denialEngine invariantPolicy.raw = .ok invariantPolicy := rfl
  have hdenylist : compile denialEngine denylistPolicy.raw = .ok denylistPolicy := rfl
  refine (domain_denials_agree_iff rfl hinvariant hdenylist _).2 fun target htarget _ => ?_
  exact (Option.some.inj htarget).symm

/-! ## Approvals -/

theorem evalList_str (env : EvalEnv F) (roles : List String) :
    evalList env (roles.map .str) = .ok (roles.map .str) := by
  induction roles with
  | nil => rfl
  | cons r roles ih =>
    rw [List.map_cons, evalList, ih]
    rfl

omit [Float64 F] in
theorem wantStrList_str (func : String) (roles : List String) :
    wantStrList (F := F) func (.list (roles.map .str)) = .ok roles := by
  have hmap : (roles.map Value.str).mapM (wantStr (F := F) func) = .ok roles := by
    induction roles with
    | nil => rfl
    | cons r roles ih =>
      rw [List.map_cons, List.mapM_cons, ih]
      rfl
  exact hmap

variable {roles : List String}

/-- The predicate asks for the roles themselves among the signatures. -/
theorem transferRequires_holds_iff {amount : F} (h : ctx.action.amountUsd = some amount) :
    evalPredicate (.call "transfer_requires" [(some "roles", .list (roles.map .str))])
        ⟨ctx.action, ctx, binding, ctx.nowEpoch⟩ = .ok true ↔
      ∀ r ∈ roles, r ∈ ctx.action.signatures := by
  have heval : evalPredicate (.call "transfer_requires" [(some "roles", .list (roles.map .str))])
      ⟨ctx.action, ctx, binding, ctx.nowEpoch⟩ =
        .ok (roles.all fun r => ctx.action.signatures.any fun s => s == r) := by
    simp [evalPredicate, eval, evalArgs, evalArg, call, requireArity, argValue, evalList_str,
      wantStrList_str, h, bind, Except.bind, pure, Except.pure]
  rw [heval]
  simp

/-- The signatures that bear a role, each of them once. -/
def bearers (signatures : List String) (role : String) : List String :=
  (signatures.filter fun s => signatureBearsRole s role).dedup

/-- The check asks for a signature that bears the role; it counts them as `u32`. -/
theorem signature_allows_iff :
    (RuntimeCheck.signature (roles.map fun r => ⟨r, 1⟩)).evaluate engine ctx = .allow ↔
      ∀ r ∈ roles, (bearers ctx.action.signatures r).length % 2 ^ 32 ≠ 0 := by
  have hverdict : ∀ roles : List String,
      signatureVerdict ctx.action.signatures (roles.map fun r => ⟨r, 1⟩) = .allow ↔
        ∀ r ∈ roles, (bearers ctx.action.signatures r).length % 2 ^ 32 ≠ 0 := by
    intro roles
    induction roles with
    | nil => simp [signatureVerdict]
    | cons r roles ih =>
      rw [List.map_cons, signatureVerdict, List.forall_mem_cons, ← ih]
      unfold distinctRoleSignatures wrapU32 bearers
      dsimp only
      split <;> rename_i hgot
      · simp; omega
      · simp; omega
  exact hverdict roles

/-- The count of fewer than `2 ^ 32` signatures does not wrap. -/
theorem bearers_wrapped_iff {signatures : List String} (hshort : signatures.length < 2 ^ 32)
    {role : String} : (bearers signatures role).length % 2 ^ 32 = 0 ↔
      ∀ s ∈ signatures, signatureBearsRole s role = false := by
  have hle : (bearers signatures role).length ≤ signatures.length :=
    (List.dedup_sublist _).length_le.trans (List.length_filter_le _ _)
  rw [Nat.mod_eq_of_lt (by omega), List.length_eq_zero_iff, bearers, List.dedup_eq_nil,
    List.filter_eq_nil_iff]
  simp

/-- The predicate holds exactly if the check allows. -/
def ApprovalsAgree (engine : Engine F) (ctx : EvaluationContext F) (roles : List String)
    (binding : Binding F) : Prop :=
  evalPredicate (.call "transfer_requires" [(some "roles", .list (roles.map .str))])
      ⟨ctx.action, ctx, binding, ctx.nowEpoch⟩ = .ok true ↔
    (RuntimeCheck.signature (roles.map fun r => ⟨r, 1⟩)).evaluate engine ctx = .allow

/-- **Two ways to require approvals.** For every list of roles and every action that moves money,
the predicate holds exactly if the check allows, if and only if each role is a signature itself
and borne by a number of signatures that is not 0 as `u32`, or one of them is not a signature and
one of them borne by a number that is 0. With fewer than `2 ^ 32` signatures: if and only if each
role is a signature itself or one of them is borne by none. -/
theorem approvals_agree_iff (roles : List String) (binding : Binding F) {amount : F}
    (h : ctx.action.amountUsd = some amount) :
    (ApprovalsAgree engine ctx roles binding ↔
      (∀ r ∈ roles, r ∈ ctx.action.signatures ∧
        (bearers ctx.action.signatures r).length % 2 ^ 32 ≠ 0) ∨
      (∃ r ∈ roles, r ∉ ctx.action.signatures) ∧
        ∃ r ∈ roles, (bearers ctx.action.signatures r).length % 2 ^ 32 = 0) ∧
    (ctx.action.signatures.length < 2 ^ 32 →
      (ApprovalsAgree engine ctx roles binding ↔
        (∀ r ∈ roles, r ∈ ctx.action.signatures) ∨
          ∃ r ∈ roles, ∀ s ∈ ctx.action.signatures, signatureBearsRole s r = false)) := by
  rw [ApprovalsAgree, transferRequires_holds_iff h, signature_allows_iff]
  have hiff : ((∀ r ∈ roles, r ∈ ctx.action.signatures) ↔
      ∀ r ∈ roles, (bearers ctx.action.signatures r).length % 2 ^ 32 ≠ 0) ↔
      (∀ r ∈ roles, r ∈ ctx.action.signatures ∧
        (bearers ctx.action.signatures r).length % 2 ^ 32 ≠ 0) ∨
      (∃ r ∈ roles, r ∉ ctx.action.signatures) ∧
        ∃ r ∈ roles, (bearers ctx.action.signatures r).length % 2 ^ 32 = 0 := by
    constructor
    · intro hagree
      by_cases hall : ∀ r ∈ roles, r ∈ ctx.action.signatures
      · exact .inl fun r hr => ⟨hall r hr, hagree.1 hall r hr⟩
      · have hborne := hagree.not.1 hall
        push Not at hall hborne
        exact .inr ⟨hall, hborne⟩
    · rintro (hall | ⟨⟨r, hr, hbare⟩, r', hr', hborne⟩)
      · exact ⟨fun _ r hr => (hall r hr).2, fun _ r hr => (hall r hr).1⟩
      · exact ⟨fun hall => absurd (hall r hr) hbare, fun hall => absurd hborne (hall r' hr')⟩
  refine ⟨hiff, fun hshort => hiff.trans ?_⟩
  have hself : ∀ r ∈ ctx.action.signatures,
      (bearers ctx.action.signatures r).length % 2 ^ 32 ≠ 0 := fun r hr hzero =>
    absurd ((bearers_wrapped_iff hshort).1 hzero r hr) (by simp [signatureBearsRole])
  simp only [ne_eq, bearers_wrapped_iff hshort] at hself ⊢
  constructor
  · exact Or.imp (fun hall r hr => (hall r hr).1) And.right
  · rintro (hall | ⟨r, hr, hnone⟩)
    · exact .inl fun r hr => ⟨hall r hr, hself r (hall r hr)⟩
    · exact .inr ⟨⟨r, hr, fun hbare => hself r hbare hnone⟩, r, hr, hnone⟩

/-- A transfer with signatures. -/
def transferContext (signatures : List String) : EvaluationContext ℚ :=
  plainContext
    { actionId := "", tool := "wire", timestamp := 0, amountUsd := some 10,
      signatures := signatures }

/-- A signature with the signer's identity counts for the check and not for the predicate. -/
theorem named_signer_not_counted :
    evalPredicate (.call "transfer_requires" [(some "roles", .list [.str "cfo"])])
        ⟨(transferContext ["cfo:alice"]).action, transferContext ["cfo:alice"], {}, 0⟩ =
      .ok false ∧
    (RuntimeCheck.signature [⟨"cfo", 1⟩]).evaluate denialEngine (transferContext ["cfo:alice"]) =
      .allow := by
  decide +kernel

/-- A bare role counts for both. -/
theorem bare_role_counts :
    ApprovalsAgree denialEngine (transferContext ["cfo"]) ["cfo"] {} := by
  have hamount : (transferContext ["cfo"]).action.amountUsd = some 10 := rfl
  exact ((approvals_agree_iff ["cfo"] {} hamount).2 (by decide)).2 (.inl (by decide))

end SauronID.Dsl
