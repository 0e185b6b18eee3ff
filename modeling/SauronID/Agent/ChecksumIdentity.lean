import Mathlib.Data.Set.Function
import SauronID.Agent.Checksum
import SauronID.Lib.Encoding

/-!
# A checksum identifies the configuration

`compute_checksum` prints the inputs with the members of every object in the order of their
keys. Two inputs have one canonical form exactly when they are the same document up to that
order (`canonicalizeValue_eq_iff`), so two checksums agree exactly on one type of agent and
one such document.
-/

namespace SauronID

/-! ## Documents up to the order of members -/

namespace Json

mutual

/-- The same value, the members of objects in any order at every level. -/
def Same : Json → Json → Prop
  | .null, w => w = .null
  | .bool b, w => w = .bool b
  | .int i, w => w = .int i
  | .float q, w => w = .float q
  | .str s, w => w = .str s
  | .arr xs, w => ∃ ys, w = .arr ys ∧ SameList xs ys
  | .obj fields, w => ∃ fields', w = .obj fields' ∧ SameFields fields fields'

def SameList : List Json → List Json → Prop
  | [], ys => ys = []
  | x :: xs, ys => ∃ y ys', ys = y :: ys' ∧ Same x y ∧ SameList xs ys'

/-- Each member has its partner of the same key on the other side, and none is left over. -/
def SameFields : List (String × Json) → List (String × Json) → Prop
  | [], fields' => fields' = []
  | (key, v) :: fields, fields' =>
      ∃ w rest, fields'.Perm ((key, w) :: rest) ∧ Same v w ∧ SameFields fields rest

end

/-- No object has two members of one key, as in every `serde_json::Map`. -/
inductive UniqueKeys : Json → Prop
  | null : UniqueKeys .null
  | bool (b : Bool) : UniqueKeys (.bool b)
  | int (i : ℤ) : UniqueKeys (.int i)
  | float (q : ℚ) : UniqueKeys (.float q)
  | str (s : String) : UniqueKeys (.str s)
  | arr (xs : List Json) : (∀ x ∈ xs, UniqueKeys x) → UniqueKeys (.arr xs)
  | obj (fields : List (String × Json)) : (fields.map Prod.fst).Nodup →
      (∀ p ∈ fields, UniqueKeys p.2) → UniqueKeys (.obj fields)

end Json

namespace Agent

open Json Text

/-! ## Sorting by key -/

/-- The order of a `BTreeMap`. -/
abbrev byKey (l : List (String × Json)) : List (String × Json) :=
  l.insertionSort fun p q => p.1 ≤ q.1

/-- Sorting forgets the order of members with different keys, and nothing else. -/
theorem byKey_eq_iff {l l' : List (String × Json)} (hl : (l.map Prod.fst).Nodup) :
    byKey l = byKey l' ↔ l.Perm l' := by
  have hperm (l) : (byKey l).Perm l := List.perm_insertionSort _ l
  have hsorted (l) : (byKey l).Pairwise fun p q => p.1 ≤ q.1 := by
    have : Std.Total fun p q : String × Json => p.1 ≤ q.1 := ⟨fun p q => String.le_total p.1 q.1⟩
    have : IsTrans (String × Json) fun p q => p.1 ≤ q.1 := ⟨fun _ _ _ => String.le_trans⟩
    exact List.pairwise_insertionSort _ l
  constructor
  · intro h
    exact (hperm l).symm.trans (h ▸ hperm l')
  · intro h
    refine List.Perm.eq_of_pairwise ?_ (hsorted l) (hsorted l')
      ((hperm l).trans (h.trans (hperm l').symm))
    -- two members of `l` with one key are one member
    intro p q hp hq hpq hqp
    exact List.inj_on_of_nodup_map hl ((hperm l).mem_iff.1 hp)
      (h.mem_iff.2 ((hperm l').mem_iff.1 hq)) (String.le_antisymm hpq hqp)

theorem canonicalizeFields_eq_map (fields : List (String × Json)) :
    canonicalizeFields fields = fields.map fun p => (p.1, canonicalizeValue p.2) := by
  induction fields with
  | nil => rfl
  | cons p fields ih => rw [canonicalizeFields, ih, List.map_cons]

theorem keys_canonicalizeFields (fields : List (String × Json)) :
    (canonicalizeFields fields).map Prod.fst = fields.map Prod.fst := by
  rw [canonicalizeFields_eq_map, List.map_map]
  rfl

/-! ## One canonical form -/

/-- A member is matched by one of the same key and the same canonical form, and the rest of
the members match the rest. -/
theorem cons_perm_canonicalizeFields {key : String} {v : Json}
    {fields : List (String × Json)} {l : List (String × Json)} :
    ((key, canonicalizeValue v) :: l).Perm (canonicalizeFields fields) ↔
      ∃ w rest, fields.Perm ((key, w) :: rest) ∧ canonicalizeValue v = canonicalizeValue w ∧
        l.Perm (canonicalizeFields rest) := by
  simp only [canonicalizeFields_eq_map]
  constructor
  · intro h
    obtain ⟨⟨key', w⟩, hmem, heq⟩ := List.mem_map.1 (h.subset List.mem_cons_self)
    obtain ⟨rfl, hw⟩ := Prod.mk.inj heq
    obtain ⟨before, after, rfl⟩ := List.append_of_mem hmem
    have hmiddle : (before ++ (key', w) :: after).Perm ((key', w) :: (before ++ after)) :=
      List.perm_middle
    refine ⟨w, before ++ after, hmiddle, hw.symm, ?_⟩
    have hmap := h.trans (hmiddle.map fun p => (p.1, canonicalizeValue p.2))
    rw [List.map_cons, hw] at hmap
    exact hmap.cons_inv
  · rintro ⟨w, rest, hperm, hw, hl⟩
    refine ((hl.cons _).trans ?_).trans (hperm.map _).symm
    rw [hw, List.map_cons]

mutual

/-- **Two values have one canonical form exactly when they are the same up to the order of
members.** -/
theorem canonicalizeValue_eq_iff {v w : Json} (hv : v.UniqueKeys) :
    canonicalizeValue v = canonicalizeValue w ↔ Same v w := by
  cases hv with
  | arr xs hxs => cases w <;> simp [canonicalizeValue, Same, canonicalizeList_eq_iff hxs]
  | obj fields hkeys hfields =>
    have hsort (fields' : List (String × Json)) :
        byKey (canonicalizeFields fields) = byKey (canonicalizeFields fields') ↔
          SameFields fields fields' :=
      (byKey_eq_iff ((keys_canonicalizeFields fields).symm ▸ hkeys)).trans
        (canonicalizeFields_perm_iff hfields)
    cases w <;> simp [canonicalizeValue, Same, hsort]
  | _ => cases w <;> simp [canonicalizeValue, Same, eq_comm]
termination_by structural v

theorem canonicalizeList_eq_iff {xs ys : List Json} (hxs : ∀ x ∈ xs, x.UniqueKeys) :
    canonicalizeList xs = canonicalizeList ys ↔ SameList xs ys := by
  cases xs with
  | nil => cases ys <;> simp [canonicalizeList, SameList]
  | cons x xs =>
    obtain ⟨hx, hxs⟩ := List.forall_mem_cons.1 hxs
    cases ys <;> simp [canonicalizeList, SameList, canonicalizeValue_eq_iff hx,
      canonicalizeList_eq_iff hxs]
termination_by structural xs

theorem canonicalizeFields_perm_iff {fields fields' : List (String × Json)}
    (hfields : ∀ p ∈ fields, p.2.UniqueKeys) :
    (canonicalizeFields fields).Perm (canonicalizeFields fields') ↔ SameFields fields fields' := by
  cases fields with
  | nil => simp [canonicalizeFields_eq_map, SameFields]
  | cons p fields =>
    obtain ⟨hp, hfields⟩ := List.forall_mem_cons.1 hfields
    simp only [canonicalizeFields, SameFields, cons_perm_canonicalizeFields,
      canonicalizeValue_eq_iff hp, canonicalizeFields_perm_iff hfields]
termination_by structural fields

end

/-! ## Checksums -/

theorem bar_notMem_asStr (kind : AgentType) : '|' ∉ kind.asStr.toList := by
  cases kind <;> simp [AgentType.asStr]

theorem asStr_injective : Function.Injective AgentType.asStr := by
  intro kind kind' h
  have hparse := congrArg AgentType.parse h
  rw [AgentType.parse_asStr, AgentType.parse_asStr] at hparse
  exact Option.some.inj hparse

/-- The text that is hashed determines the type and the canonical inputs. -/
theorem hashed_inj {kind kind' : AgentType} {canonical canonical' : String} :
    kind.asStr ++ "|" ++ canonical = kind'.asStr ++ "|" ++ canonical' ↔
      kind = kind' ∧ canonical = canonical' := by
  constructor
  · intro h
    have hlist := congrArg String.toList h
    simp only [String.toList_append, List.append_assoc] at hlist
    obtain ⟨hkind, hcanonical⟩ :=
      append_cons_inj (bar_notMem_asStr kind) (bar_notMem_asStr kind') hlist
    exact ⟨asStr_injective (String.toList_inj.1 hkind), String.toList_inj.1 hcanonical⟩
  · rintro ⟨rfl, rfl⟩
    rfl

/-- **The checksum identifies the configuration.** Where neither the hash nor the printing of
the two canonical inputs collides, the checksums of accepted inputs are equal exactly when the
types parse to one type and the inputs are one document up to the order of members. -/
theorem checksum_eq_iff {F : Type} {env : Env F} {type₁ type₂ : String} {v₁ v₂ : Json}
    {canonical₁ canonical₂ checksum₁ checksum₂ : String}
    (hsha : Function.Injective env.sha256)
    (hprint : Set.InjOn env.jsonText {canonicalizeValue v₁, canonicalizeValue v₂})
    (hkeys : v₁.UniqueKeys)
    (h₁ : computeChecksum env type₁ v₁ = .ok (canonical₁, checksum₁))
    (h₂ : computeChecksum env type₂ v₂ = .ok (canonical₂, checksum₂)) :
    checksum₁ = checksum₂ ↔
      AgentType.parse type₁ = AgentType.parse type₂ ∧ Same v₁ v₂ := by
  obtain ⟨kind₁, -, hkind₁, -, -, rfl, rfl⟩ := computeChecksum_eq_ok.1 h₁
  obtain ⟨kind₂, -, hkind₂, -, -, rfl, rfl⟩ := computeChecksum_eq_ok.1 h₂
  have htext : env.jsonText (canonicalizeValue v₁) = env.jsonText (canonicalizeValue v₂) ↔
      canonicalizeValue v₁ = canonicalizeValue v₂ :=
    hprint.eq_iff (Set.mem_insert _ _) (Set.mem_insert_of_mem _ rfl)
  rw [hkind₁, hkind₂, Option.some_inj, ← canonicalizeValue_eq_iff hkeys, ← htext, ← hashed_inj,
    String.append_right_inj, Env.sha256Hex, Env.sha256Hex, hexEncode_injective.eq_iff,
    hsha.eq_iff, utf8_injective.eq_iff]

/-- A rule bot at an image, with the members of its region in the given order. -/
def ruleBot (image : String) (region : List (String × Json)) : Json :=
  .obj [("image_sha", .str image), ("region", .obj region)]

mutual

/-- A document as compact text, members in the order of the document. -/
def compactText : Json → String
  | .null => "null"
  | .bool b => toString b
  | .int i => toString i
  | .float q => toString q
  | .str s => quoted s
  | .arr xs => "[" ++ ",".intercalate (compactItems xs) ++ "]"
  | .obj fields => "\x7b" ++ ",".intercalate (compactMembers fields) ++ "\x7d"
termination_by structural v => v

def compactItems : List Json → List String
  | [] => []
  | x :: xs => compactText x :: compactItems xs
termination_by structural xs => xs

def compactMembers : List (String × Json) → List String
  | [] => []
  | (key, v) :: fields => (quoted key ++ ":" ++ compactText v) :: compactMembers fields
termination_by structural fields => fields

end

/-- An environment that prints documents and does not hash. -/
def printingEnv : Env Unit :=
  { sampleEnv Unit with sha256 := id, jsonText := compactText }

/-- Two bots under two names of their type, at different images: the checksums differ. -/
theorem checksum_of_images :
    ∃ canonical checksum canonical' checksum',
      computeChecksum printingEnv "rule" (ruleBot "i" [("a", .null), ("b", .null)]) =
        .ok (canonical, checksum) ∧
      computeChecksum printingEnv "bot" (ruleBot "j" [("b", .null), ("a", .null)]) =
        .ok (canonical', checksum') ∧ checksum ≠ checksum' := by
  refine ⟨_, _, _, _, rfl, rfl, fun heq => ?_⟩
  have htext : compactText (canonicalizeValue (ruleBot "i" [("a", .null), ("b", .null)])) ≠
      compactText (canonicalizeValue (ruleBot "j" [("b", .null), ("a", .null)])) := by
    decide +kernel
  have hkeys : (ruleBot "i" [("a", .null), ("b", .null)]).UniqueKeys := by
    refine .obj _ (by simp) (List.forall_mem_cons.2 ⟨.str _, List.forall_mem_singleton.2 ?_⟩)
    refine .obj _ (by simp) ?_
    simp [UniqueKeys.null]
  have h : computeChecksum printingEnv "rule" (ruleBot "i" [("a", .null), ("b", .null)]) =
      .ok (_, _) := rfl
  have h' : computeChecksum printingEnv "bot" (ruleBot "j" [("b", .null), ("a", .null)]) =
      .ok (_, _) := rfl
  obtain ⟨-, hsame⟩ := (checksum_eq_iff Function.injective_id
    (Set.injOn_pair.2 fun h => absurd h htext) hkeys h h').1 heq
  exact htext (congrArg compactText ((canonicalizeValue_eq_iff hkeys).2 hsame))

end Agent

end SauronID
