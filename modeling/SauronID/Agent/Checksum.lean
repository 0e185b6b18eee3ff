import Mathlib.Data.List.Sort
import SauronID.Model.Env

/-!
# The checksum of an agent's configuration

`agent_checksum.rs`: an agent submits the inputs of its checksum as a JSON object, and the
server asks for the members its type requires, puts the keys in order and hashes the text
under the name of the type. `computeChecksum_eq_ok` says what a checksum was computed from.
-/

namespace SauronID.Agent

open Text

/-! ## Types of agents -/

inductive AgentType where
  | llm
  | mcpServer
  | ruleBot
  | browser
  | openAiAssistant
  | framework
  | custom
  deriving DecidableEq, Repr

namespace AgentType

def parse : String → Option AgentType
  | "llm" | "llm_agent" => some .llm
  | "mcp" | "mcp_server" => some .mcpServer
  | "rule_bot" | "rule" | "bot" => some .ruleBot
  | "browser" | "browser_automation" => some .browser
  | "openai_assistant" | "assistants" => some .openAiAssistant
  | "framework" | "langchain" | "llamaindex" => some .framework
  | "custom" => some .custom
  | _ => none

def asStr : AgentType → String
  | .llm => "llm"
  | .mcpServer => "mcp_server"
  | .ruleBot => "rule_bot"
  | .browser => "browser"
  | .openAiAssistant => "openai_assistant"
  | .framework => "framework"
  | .custom => "custom"

/-- The members that must be there, and not null, in the inputs of a type. -/
def requiredFields : AgentType → List String
  | .llm => ["model_id", "system_prompt", "tools"]
  | .mcpServer => ["manifest_json", "tool_signatures"]
  | .ruleBot => ["image_sha"]
  | .browser => ["script_sha", "lockfile_sha"]
  | .openAiAssistant => ["assistant_id", "instructions", "tools", "model"]
  | .framework => ["code_sha", "lockfile_sha"]
  | .custom => []

theorem parse_asStr (kind : AgentType) : parse kind.asStr = some kind := by
  cases kind <;> rfl

/-- No alias leads to the custom type. -/
theorem parse_eq_custom {s : String} : parse s = some .custom ↔ s = "custom" := by
  constructor
  · intro h
    unfold parse at h
    split at h <;> first | rfl | cases h
  · rintro rfl
    rfl

end AgentType

/-! ## Checksums -/

inductive ChecksumError where
  | unknownType (s : String)
  | missingField (agentType field : String)
  | notAnObject
  | encoding (s : String)
  deriving DecidableEq, Repr

/-- `impl Display for ChecksumError`. -/
def ChecksumError.display : ChecksumError → String
  | .unknownType s => s!"unknown agent_type: {s}"
  | .missingField agentType field =>
      s!"agent_type='{agentType}' requires checksum_inputs.{field} (non-null)"
  | .notAnObject => "checksum_inputs.inputs must be a JSON object"
  | .encoding s => s!"canonical JSON encoding: {s}"

mutual

/-- `canonicalize_value`: the members of every object in the order of their keys. -/
def canonicalizeValue : Json → Json
  | .obj fields =>
      .obj ((canonicalizeFields fields).insertionSort fun p q => p.1 ≤ q.1)
  | .arr xs => .arr (canonicalizeList xs)
  | .null => .null
  | .bool b => .bool b
  | .int i => .int i
  | .float q => .float q
  | .str s => .str s

def canonicalizeList : List Json → List Json
  | [] => []
  | x :: xs => canonicalizeValue x :: canonicalizeList xs

def canonicalizeFields : List (String × Json) → List (String × Json)
  | [] => []
  | (k, v) :: fields => (k, canonicalizeValue v) :: canonicalizeFields fields

end

/-- A member that is there and not null. -/
def Present (v : Json) (field : String) : Prop :=
  ∃ x, v.get field = some x ∧ x ≠ .null

/-- The required member `field` of the inputs. -/
def requireField (kind : AgentType) (inputs : Json) (field : String) : Except ChecksumError Unit :=
  match inputs.get field with
  | none | some .null => .error (.missingField kind.asStr field)
  | some _ => .ok ()

variable {F : Type} (env : Env F)

/-- `compute_checksum`: the canonical text of the inputs and their checksum. -/
def computeChecksum (agentType : String) (inputs : Json) :
    Except ChecksumError (String × String) := do
  let some kind := AgentType.parse agentType | throw (.unknownType agentType)
  let .obj _ := inputs | throw .notAnObject
  forM kind.requiredFields (requireField kind inputs)
  let canonical := env.jsonText (canonicalizeValue inputs)
  return (canonical, "sha256:" ++ env.sha256Hex (utf8 (kind.asStr ++ "|" ++ canonical)))

/-- `storage_payload`: what is stored of the canonical inputs. -/
def storagePayload (canonical computedChecksum : String) : String :=
  if env.hashOnlyInputs then computedChecksum else canonical

variable {kind : AgentType} {inputs : Json}

theorem requireField_eq_ok {field : String} :
    requireField kind inputs field = .ok () ↔ Present inputs field := by
  unfold requireField Present
  cases h : inputs.get field with
  | none => simp
  | some x => cases x <;> simp

theorem forM_requireField (fields : List String) :
    forM fields (requireField kind inputs) = .ok () ↔ ∀ field ∈ fields, Present inputs field := by
  induction fields with
  | nil => simp [pure, Except.pure]
  | cons field fields ih =>
    rw [List.forM_cons, bind_eq_ok_iff, List.forall_mem_cons]
    constructor
    · rintro ⟨⟨⟩, hfield, hrest⟩
      exact ⟨requireField_eq_ok.1 hfield, ih.1 hrest⟩
    · rintro ⟨hfield, hrest⟩
      exact ⟨(), requireField_eq_ok.2 hfield, ih.2 hrest⟩

variable {env}

/-- **What a checksum is of.** The inputs are an object with every member its type requires,
and the checksum hashes their canonical text under the name of the type. -/
theorem computeChecksum_eq_ok {agentType : String} {canonical checksum : String} :
    computeChecksum env agentType inputs = .ok (canonical, checksum) ↔
      ∃ kind fields, AgentType.parse agentType = some kind ∧ inputs = .obj fields ∧
        (∀ field ∈ kind.requiredFields, Present inputs field) ∧
        canonical = env.jsonText (canonicalizeValue inputs) ∧
        checksum = "sha256:" ++ env.sha256Hex (utf8 (kind.asStr ++ "|" ++ canonical)) := by
  unfold computeChecksum
  cases hkind : AgentType.parse agentType with
  | none => simp [throw, throwThe, MonadExceptOf.throw]
  | some kind =>
    cases inputs with
    | obj fields =>
      simp only [bind_eq_ok_iff]
      constructor
      · rintro ⟨⟨⟩, hrequired, hok⟩
        cases hok
        exact ⟨kind, fields, rfl, rfl, (forM_requireField _).1 hrequired, rfl, rfl⟩
      · rintro ⟨kind', _, hk, hfields, hrequired, rfl, rfl⟩
        cases hk
        exact ⟨(), (forM_requireField _).2 hrequired, rfl⟩
    | _ => simp [throw, throwThe, MonadExceptOf.throw]

end SauronID.Agent
