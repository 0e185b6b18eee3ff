import Mathlib.Data.Rat.Defs

/-!
# JSON documents

The values `serde_json` works on, with the accessors the server uses. Numbers
keep the distinction of the library: an integer literal answers `as_i64`, any
other numeral only `as_f64`.
-/

namespace SauronID

/-- A JSON value; an object is its list of members, keys unique. -/
inductive Json where
  | null
  | bool (b : Bool)
  | int (i : ℤ)
  | float (q : ℚ)
  | str (s : String)
  | arr (xs : List Json)
  | obj (fields : List (String × Json))

namespace Json

/-- `Value::get` with a string key: a member of an object, nothing on other values. -/
def get (v : Json) (key : String) : Option Json :=
  match v with
  | obj fields => (fields.find? fun p => p.1 == key).map Prod.snd
  | _ => none

def asStr : Json → Option String
  | str s => some s
  | _ => none

def asArray : Json → Option (List Json)
  | arr xs => some xs
  | _ => none

def asI64 : Json → Option ℤ
  | int i => some i
  | _ => none

def asU64 : Json → Option ℕ
  | int i => if 0 ≤ i then some i.toNat else none
  | _ => none

def asBool : Json → Option Bool
  | bool b => some b
  | _ => none

mutual

/-- How deep arrays and objects are nested. -/
def depth : Json → ℕ
  | arr xs => depthList xs + 1
  | obj fields => depthFields fields + 1
  | _ => 0

def depthList : List Json → ℕ
  | [] => 0
  | x :: xs => max x.depth (depthList xs)

def depthFields : List (String × Json) → ℕ
  | [] => 0
  | (_, v) :: fields => max v.depth (depthFields fields)

end

/-- The member `key` when it is a string. -/
def getStr (v : Json) (key : String) : Option String := (v.get key).bind asStr

/-- The member `key` when it is an array. -/
def getArray (v : Json) (key : String) : Option (List Json) := (v.get key).bind asArray

/-- The member `key` when it is an unsigned integer. -/
def getU64 (v : Json) (key : String) : Option ℕ := (v.get key).bind asU64

/-- The member `key` when it is an integer. -/
def getI64 (v : Json) (key : String) : Option ℤ := (v.get key).bind asI64

theorem depthFields_append (l l' : List (String × Json)) :
    depthFields (l ++ l') = max (depthFields l) (depthFields l') := by
  induction l with
  | nil => simp [depthFields]
  | cons p l ih => simp [depthFields, ih, max_assoc]

/-- A key that no member has. -/
theorem get_eq_none {fields : List (String × Json)} {key : String}
    (h : key ∉ fields.map Prod.fst) : (obj fields).get key = none := by
  rw [get, Option.map_eq_none_iff, List.find?_eq_none]
  rintro p hp hkey
  exact h (List.mem_map.2 ⟨p, hp, beq_iff_eq.1 hkey⟩)

end Json

end SauronID
