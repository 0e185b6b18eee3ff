import SauronID.Lib.Text
import SauronID.Model.Json

/-!
# Delegation and the intent of an agent

An agent's intent document names the actions it may take. Two functions read it.
`scopesFromIntentJson` is used when a child agent is registered: the first of
`scope[]`, `constraints.scope[]` and `action` that is present, compared as
written. `actionAllowedByIntent` is used when an action is enforced: all three
fields together, compared after trimming and ASCII lower-casing.

`delegation_narrows_iff` settles when the registration check keeps the child
within the parent: exactly when the fields it does not read stay within too.
-/

namespace SauronID.Agent

open Text

/-- `serde_json::from_str` is a parameter: the parser is a dependency of the server. -/
abbrev FromStr := String → Option Json

/-- The strings among the elements of an array. -/
def stringItems (xs : List Json) : List String := xs.filterMap Json.asStr

/-- `scope[]` of an intent. -/
def scopeArray (v : Json) : Option (List Json) := v.getArray "scope"

/-- `constraints.scope[]` of an intent. -/
def constraintsScopeArray (v : Json) : Option (List Json) :=
  (v.get "constraints").bind fun c => c.getArray "scope"

/-! ## The registration check -/

/-- Effective delegable scopes from agent `intent_json`. -/
def scopesFromIntentJson (fromStr : FromStr) (intentJson : String) : List String :=
  let v := (fromStr intentJson).getD .null
  match scopeArray v with
  | some arr => stringItems arr
  | none =>
    match constraintsScopeArray v with
    | some arr => stringItems arr
    | none =>
      match v.getStr "action" with
      | some s => if s ≠ "" then [s] else []
      | none => []

/-- Every child scope string must appear in parent scopes. -/
def assertChildScopesSubsetOfParent (fromStr : FromStr)
    (parentIntentJson childIntentJson : String) : Except String Unit :=
  let parent := scopesFromIntentJson fromStr parentIntentJson
  if parent.isEmpty then
    .error "parent agent intent defines no delegable scopes (add scope[] or action)"
  else
    let child := scopesFromIntentJson fromStr childIntentJson
    if child.isEmpty then
      .error "child agent intent must declare scope[] (or action) for delegated registration"
    else
      match child.find? fun s => !parent.contains s with
      | some s => .error ("delegation scope " ++ quoted s ++ " not allowed by parent intent")
      | none => .ok ()

/-! ## Enforcement -/

/-- How enforcement compares action names. -/
def normScope (s : String) : String := asciiLower (trim s)

/-- Whether an intent lets its agent take `expectedAction`. -/
def actionAllowedByIntent (intent : Option Json) (expectedAction : String) : Bool :=
  match intent with
  | none => false
  | some v =>
    let expected := normScope expectedAction
    if expected = "" then false
    else
      let scopes :=
        (match scopeArray v with
          | some arr => (stringItems arr).map normScope
          | none => []) ++
        (match constraintsScopeArray v with
          | some arr => (stringItems arr).map normScope
          | none => []) ++
        (match v.getStr "action" with
          | some action => [normScope action]
          | none => [])
      scopes.any fun s => s == expected

/-! ## What the two functions read -/

/-- Every string enforcement reads from an intent. -/
def intentScopes (v : Json) : List String :=
  ((scopeArray v).elim [] stringItems) ++ ((constraintsScopeArray v).elim [] stringItems) ++
    (v.getStr "action").toList

/-- The strings of an intent that the registration check does not read because an
earlier field is present. -/
def uncheckedScopes (v : Json) : List String :=
  match scopeArray v with
  | some _ => ((constraintsScopeArray v).elim [] stringItems) ++ (v.getStr "action").toList
  | none =>
    match constraintsScopeArray v with
    | some _ => (v.getStr "action").toList
    | none => []

theorem actionAllowedByIntent_some (v : Json) (a : String) :
    actionAllowedByIntent (some v) a = true ↔
      normScope a ≠ "" ∧ ∃ s ∈ intentScopes v, normScope s = normScope a := by
  by_cases ha : normScope a = ""
  · simp [actionAllowedByIntent, ha]
  · cases hs : scopeArray v <;> cases hc : constraintsScopeArray v <;>
      cases hact : v.getStr "action" <;>
      simp [actionAllowedByIntent, intentScopes, hs, hc, hact, ha, or_and_right, exists_or]

/-- The registration check reads strings that enforcement reads. -/
theorem scopesFromIntentJson_subset (fromStr : FromStr) (text : String) :
    ∀ s ∈ scopesFromIntentJson fromStr text, s ∈ intentScopes ((fromStr text).getD .null) := by
  intro s hs
  simp only [scopesFromIntentJson] at hs
  split at hs
  · next arr h => simp [intentScopes, h, hs]
  · next h =>
    split at hs
    · next arr hc => simp [intentScopes, h, hc, hs]
    · next hc =>
      split at hs
      · next a hact =>
        split at hs
        · simp only [List.mem_singleton] at hs
          simp [intentScopes, h, hc, hact, hs]
        · cases hs
      · cases hs

/-- What enforcement reads is read by the registration check, unread by it, or blank. -/
theorem intentScopes_cases (fromStr : FromStr) (text : String) {s : String}
    (hs : s ∈ intentScopes ((fromStr text).getD .null)) :
    s ∈ scopesFromIntentJson fromStr text ∨ s ∈ uncheckedScopes ((fromStr text).getD .null) ∨
      s = "" := by
  unfold intentScopes at hs
  unfold scopesFromIntentJson uncheckedScopes
  cases hsc : scopeArray ((fromStr text).getD .null) with
  | some arr =>
    simp only [hsc, Option.elim_some, List.mem_append] at hs ⊢
    tauto
  | none =>
    cases hcs : constraintsScopeArray ((fromStr text).getD .null) with
    | some arr =>
      simp only [hsc, hcs, Option.elim_none, Option.elim_some, List.nil_append,
        List.mem_append] at hs ⊢
      tauto
    | none =>
      cases hact : ((fromStr text).getD .null).getStr "action" with
      | none => simp [hsc, hcs, hact] at hs
      | some a =>
        have hsa : s = a := by simpa [hsc, hcs, hact] using hs
        by_cases ha : a = ""
        · exact .inr (.inr (hsa.trans ha))
        · exact .inl (by simp [hsc, hcs, hact, ha, hsa])

theorem uncheckedScopes_subset (v : Json) : ∀ s ∈ uncheckedScopes v, s ∈ intentScopes v := by
  intro s hs
  unfold uncheckedScopes at hs
  unfold intentScopes
  split at hs
  · simp only [List.mem_append] at hs ⊢
    tauto
  · split at hs
    · simp [hs]
    · cases hs

variable {fromStr : FromStr}

/-- A passed check bounds the child's checked scopes by the parent's. -/
theorem assertChildScopesSubsetOfParent_ok {parent child : String}
    (h : assertChildScopesSubsetOfParent fromStr parent child = .ok ()) :
    scopesFromIntentJson fromStr parent ≠ [] ∧ scopesFromIntentJson fromStr child ≠ [] ∧
      ∀ s ∈ scopesFromIntentJson fromStr child, s ∈ scopesFromIntentJson fromStr parent := by
  unfold assertChildScopesSubsetOfParent at h
  simp only at h
  split at h
  · cases h
  · next hp =>
    split at h
    · cases h
    · next hc =>
      split at h
      · cases h
      · next hfind =>
        refine ⟨by simpa using hp, by simpa using hc, fun s hs => ?_⟩
        simpa using List.find?_eq_none.1 hfind s hs

/-- An intent with delegable scopes is a document that parses. -/
theorem fromStr_of_scopes_ne_nil {text : String}
    (h : scopesFromIntentJson fromStr text ≠ []) : ∃ v, fromStr text = some v := by
  cases hv : fromStr text with
  | some v => exact ⟨v, rfl⟩
  | none =>
    exact absurd (by simp [scopesFromIntentJson, hv, scopeArray, constraintsScopeArray,
      Json.getArray, Json.getStr, Json.get]) h

/-! ## Delegation and authority -/

/-- **When delegation narrows.** After a passed registration check every action the
child's intent allows is allowed by the parent's, exactly when each string of the
child's intent that the check does not read is blank or, up to normalisation, a
string of the parent's intent. -/
theorem delegation_narrows_iff (fromStr : FromStr) (parent child : String)
    (h : assertChildScopesSubsetOfParent fromStr parent child = .ok ()) :
    (∀ action, actionAllowedByIntent (fromStr child) action = true →
        actionAllowedByIntent (fromStr parent) action = true) ↔
      ∀ s ∈ uncheckedScopes ((fromStr child).getD .null), normScope s = "" ∨
        ∃ p ∈ intentScopes ((fromStr parent).getD .null), normScope p = normScope s := by
  obtain ⟨hpne, hcne, hsub⟩ := assertChildScopesSubsetOfParent_ok h
  obtain ⟨pv, hpv⟩ := fromStr_of_scopes_ne_nil hpne
  obtain ⟨cv, hcv⟩ := fromStr_of_scopes_ne_nil hcne
  have hpsub := scopesFromIntentJson_subset fromStr parent
  simp only [hpv, hcv, Option.getD_some, actionAllowedByIntent_some] at hpsub ⊢
  constructor
  · intro hall s hs
    by_cases hblank : normScope s = ""
    · exact .inl hblank
    · exact .inr (hall s ⟨hblank, s, uncheckedScopes_subset cv s hs, rfl⟩).2
  · rintro hun action ⟨hne, s, hs, hsa⟩
    refine ⟨hne, ?_⟩
    have hcases := intentScopes_cases fromStr child (by simpa [hcv] using hs)
    simp only [hcv, Option.getD_some] at hcases
    rcases hcases with hchecked | hunchecked | rfl
    · exact ⟨s, hpsub s (hsub s hchecked), hsa⟩
    · rcases hun s hunchecked with hblank | ⟨p, hp, hps⟩
      · exact absurd (hsa.symm.trans hblank) hne
      · exact ⟨p, hp, hps.trans hsa⟩
    · exact absurd (hsa.symm.trans (by decide)) hne

/-- A parser that knows three documents. -/
def sampleFromStr : FromStr := fun text =>
  if text = "parent" then some (.obj [("scope", .arr [.str "read"])])
  else if text = "child" then some (.obj [("scope", .arr [.str "read"]), ("action", .str "pay")])
  else if text = "narrow" then
    some (.obj [("scope", .arr [.str "read"]), ("action", .str " READ ")])
  else none

/-- Both directions apply to a child whose unread `action` stays within the parent. -/
theorem delegation_narrows_narrow :
    assertChildScopesSubsetOfParent sampleFromStr "parent" "narrow" = .ok () ∧
      ∀ action, actionAllowedByIntent (sampleFromStr "narrow") action = true →
        actionAllowedByIntent (sampleFromStr "parent") action = true :=
  ⟨by decide, (delegation_narrows_iff sampleFromStr "parent" "narrow" (by decide)).2 (by decide)⟩

/-- The check passes, yet the child may `pay` and the parent may not. -/
theorem delegation_widens :
    assertChildScopesSubsetOfParent sampleFromStr "parent" "child" = .ok () ∧
      actionAllowedByIntent (sampleFromStr "child") "pay" = true ∧
      actionAllowedByIntent (sampleFromStr "parent") "pay" = false := by
  decide

end SauronID.Agent
