import SauronID.Policy.Ast

/-!
# Invariant expressions

The syntax of the free-form `invariants:` of a policy and their evaluation against an
action. Evaluation is total: it ends in a value or in an error, and a predicate that
does not come out as a Boolean is an error.
-/

namespace SauronID.Dsl

/-! ## Syntax -/

inductive BinOp where
  | eq
  | neq
  | lt
  | lte
  | gt
  | gte
  | add
  | sub
  | and
  | or
  deriving DecidableEq, Repr

/-- The operator as `{:?}` prints it. -/
def BinOp.debug : BinOp → String
  | eq => "Eq"
  | neq => "Neq"
  | lt => "Lt"
  | lte => "Lte"
  | gt => "Gt"
  | gte => "Gte"
  | add => "Add"
  | sub => "Sub"
  | and => "And"
  | or => "Or"

inductive UnaryOp where
  | not
  | neg
  deriving DecidableEq, Repr

/-- A parsed expression; an argument of a call may carry a name. -/
inductive Expr (F : Type) where
  | ident (name : String)
  | num (n : F)
  | str (s : String)
  | bool (b : Bool)
  | list (items : List (Expr F))
  | binary (op : BinOp) (l r : Expr F)
  | unary (op : UnaryOp) (e : Expr F)
  | isIn (lhs rhs : Expr F)
  | call (name : String) (args : List (Option String × Expr F))

/-! ## Values and errors -/

/-- What an expression evaluates to; `null` is a field absent from the action. -/
inductive Value (F : Type) where
  | num (n : F)
  | str (s : String)
  | bool (b : Bool)
  | list (items : List (Value F))
  | null

inductive EvalError where
  | unknownIdent (name : String)
  | unknownFunction (name : String)
  | typeError (message : String)
  | badArgs (func message : String)
  deriving DecidableEq, Repr

def EvalError.display : EvalError → String
  | unknownIdent n => s!"unknown identifier '{n}'"
  | unknownFunction n => s!"unknown function '{n}'"
  | typeError m => s!"type error: {m}"
  | badArgs func msg => s!"bad arguments to {func}: {msg}"

variable {F : Type}

/-- The type of a value in error messages. -/
def Value.tag : Value F → String
  | num _ => "Num"
  | str _ => "Str"
  | bool _ => "Bool"
  | list _ => "List"
  | null => "Null"

mutual

/-- `PartialEq`: numbers compare as `f64` do. -/
def Value.same [Float64 F] : Value F → Value F → Bool
  | .num a, .num b => Float64.eq a b
  | .str a, .str b => a == b
  | .bool a, .bool b => a == b
  | .list a, .list b => Value.sameAll a b
  | .null, .null => true
  | _, _ => false

def Value.sameAll [Float64 F] : List (Value F) → List (Value F) → Bool
  | [], [] => true
  | a :: as, b :: bs => Value.same a b && Value.sameAll as bs
  | _, _ => false

end

/-- `EvalEnv`: what the names of an expression refer to. -/
structure EvalEnv (F : Type) where
  action : Action F
  ctx : EvaluationContext F
  binding : Binding F
  nowEpoch : ℤ

/-- How an evaluation ends. -/
abbrev Eval := Except EvalError

/-- An optional field as a value. -/
def Value.ofOption {α : Type} (f : α → Value F) (o : Option α) : Value F := (o.map f).getD .null

/-! ## Identifiers -/

variable [Float64 F]

def resolveIdent (name : String) (env : EvalEnv F) : Eval (Value F) :=
  match name with
  | "spend_total" | "spend_total_usd" => .ok (.num env.ctx.spendTotalUsd)
  | "now" => .ok (.num (Float64.ofInt env.nowEpoch))
  | "max_budget_usd" => .ok (.ofOption .num env.binding.maxBudgetUsd)
  | "tool" | "action.tool" => .ok (.str env.action.tool)
  | "amount_usd" | "action.amount_usd" => .ok (.ofOption .num env.action.amountUsd)
  | "data_classification" | "action.data_classification" =>
      .ok (.ofOption .str env.action.dataClassification)
  | "action.signatures" | "signatures" => .ok (.list (env.action.signatures.map .str))
  | "delegation_depth" | "action.delegation_depth" =>
      .ok (.num (Float64.ofInt env.action.delegationDepth))
  | "timestamp" | "action.timestamp" => .ok (.num (Float64.ofInt env.action.timestamp))
  | "payment_currency" =>
      let entry := (env.action.meta? "payment_currency").or (env.action.meta? "currency")
      .ok (.ofOption .str (entry.bind Json.asStr))
  | _ => .error (.unknownIdent name)

/-! ## Operators -/

/-- Mixed types do not compare. -/
def eqNeq (l r : Value F) (negate : Bool) : Eval (Value F) :=
  let answer := fun eq : Bool => (.ok (.bool (if negate then !eq else eq)) : Eval (Value F))
  match l, r with
  | .num a, .num b => answer (Float64.eq a b)
  | .str a, .str b => answer (a == b)
  | .bool a, .bool b => answer (a == b)
  | .null, .null => answer true
  | _, _ => .error (.typeError s!"cannot compare {l.tag} and {r.tag} with ==/!=")

/-- The operands of an operator on numbers; other operands and numbers that are not
finite are errors. -/
def numOperands (op : BinOp) (verb : String) (l r : Value F) : Eval (F × F) :=
  match l, r with
  | .num a, .num b =>
    if !Float64.isFinite a || !Float64.isFinite b then
      .error (.typeError (s!"{op.debug} on non-finite number ({Float64.display a} vs " ++
        s!"{Float64.display b}) — refusing to {verb} (fail-closed)"))
    else .ok (a, b)
  | _, _ => .error (.typeError s!"{op.debug} expects two Num, got {l.tag} and {r.tag}")

/-- Compare two numbers by `rel`. -/
def numCmp (op : BinOp) (rel : F → F → Bool) (l r : Value F) : Eval (Value F) := do
  let (a, b) ← numOperands op "order" l r
  return .bool (rel a b)

/-- Combine two numbers by `f`; the result must be finite too. -/
def numArith (op : BinOp) (f : F → F → F) (l r : Value F) : Eval (Value F) := do
  let (a, b) ← numOperands op "compute" l r
  let out := f a b
  if !Float64.isFinite out then
    .error (.typeError (s!"{op.debug} produced non-finite result ({Float64.display out}) — " ++
      "refusing (fail-closed)"))
  else .ok (.num out)

def boolBin (op : BinOp) (f : Bool → Bool → Bool) (l r : Value F) : Eval (Value F) :=
  match l, r with
  | .bool a, .bool b => .ok (.bool (f a b))
  | _, _ => .error (.typeError s!"{op.debug} expects two Bool, got {l.tag} and {r.tag}")

def applyBinary (op : BinOp) (l r : Value F) : Eval (Value F) :=
  match op with
  | .eq => eqNeq l r false
  | .neq => eqNeq l r true
  | .lt => numCmp op Float64.lt l r
  | .lte => numCmp op Float64.le l r
  | .gt => numCmp op (fun a b => Float64.lt b a) l r
  | .gte => numCmp op (fun a b => Float64.le b a) l r
  | .add => numArith op Float64.add l r
  | .sub => numArith op Float64.sub l r
  | .and => boolBin op and l r
  | .or => boolBin op or l r

def applyUnary : UnaryOp → Value F → Eval (Value F)
  | .not, .bool b => .ok (.bool !b)
  | .not, other => .error (.typeError s!"`!` expects Bool, got {other.tag}")
  | .neg, .num n => .ok (.num (Float64.neg n))
  | .neg, other => .error (.typeError s!"unary `-` expects Num, got {other.tag}")

/-- Membership. A left-hand side that is absent from the action is not constrained. -/
def applyIn (v list : Value F) : Eval (Value F) :=
  match list, v with
  | .list _, .null => .ok (.bool true)
  | .list items, v => .ok (.bool (items.any fun x => x.same v))
  | other, _ => .error (.typeError s!"`in` expects List on rhs, got {other.tag}")

/-! ## Functions -/

section Functions

/-- The arguments of a call with what they evaluate to. A function looks only at the
arguments it uses, so an error in another one does not show. -/
abbrev Args (F : Type) := List (Option String × Eval (Value F))

variable (func : String)

def requireArity (args : Args F) (want : ℕ) : Eval Unit :=
  if args.length ≠ want then .error (.badArgs func s!"expected {want} args, got {args.length}")
  else .ok ()

/-- The argument with the given name, else the unnamed one at the position. -/
def argValue (keyword : String) (pos : ℕ) (args : Args F) : Eval (Value F) :=
  match args.find? fun a => a.1 == some keyword, args[pos]? with
  | some (_, v), _ => v
  | none, some (none, v) => v
  | none, _ => .error (.badArgs func s!"missing argument '{keyword}'")

def wantStr : Value F → Eval String
  | .str s => .ok s
  | other => .error (.badArgs func s!"expected Str, got {other.tag}")

def wantNum : Value F → Eval F
  | .num n => if Float64.isFinite n then .ok n else .error (.badArgs func "expected finite Num")
  | other => .error (.badArgs func s!"expected Num, got {other.tag}")

def wantStrList : Value F → Eval (List String)
  | .list items => items.mapM (wantStr func)
  | other => .error (.badArgs func s!"expected List, got {other.tag}")

end Functions

/-- A call of one of the known functions. -/
def call (name : String) (args : Args F) (env : EvalEnv F) : Eval (Value F) :=
  match name with
  | "now" => do
      requireArity "now" args 0
      return .num (Float64.ofInt env.nowEpoch)
  | "len" => do
      requireArity "len" args 1
      match ← (args.map Prod.snd).headD (.ok .null) with
      | .str s => return .num (Float64.ofInt s.length)
      | other => .error (.badArgs "len" s!"expected Str, got {other.tag}")
  | "count" => do
      requireArity "count" args 1
      match ← (args.map Prod.snd).headD (.ok .null) with
      | .list items => return .num (Float64.ofInt items.length)
      | other => .error (.badArgs "count" s!"expected List, got {other.tag}")
  | "no_external_call_to" => do
      requireArity "no_external_call_to" args 1
      let domain ← wantStr "no_external_call_to"
        (← argValue "no_external_call_to" "domain" 0 args)
      return .bool (env.action.metaStr "target_domain" != some domain)
  | "transfer_requires" => do
      requireArity "transfer_requires" args 1
      let roles ← wantStrList "transfer_requires" (← argValue "transfer_requires" "roles" 0 args)
      if env.action.amountUsd.isNone then return .bool true
      return .bool (roles.all fun r => env.action.signatures.any fun s => s == r)
  | "exports_require_signatures" => do
      requireArity "exports_require_signatures" args 2
      let role ← wantStr "exports_require_signatures"
        (← argValue "exports_require_signatures" "role" 0 args)
      let threshold ← wantNum "exports_require_signatures"
        (← argValue "exports_require_signatures" "threshold" 1 args)
      if Float64.lt threshold (Float64.ofInt 0) then
        .error (.badArgs "exports_require_signatures" "threshold must be >= 0")
      else
        let got := distinctRoleSignatures env.action.signatures role
        return .bool (Float64.le threshold (Float64.ofInt got))
  | "tool_class" => do
      requireArity "tool_class" args 1
      -- the argument is evaluated, but the class comes from the metadata
      let _ ← argValue "tool_class" "tool" 0 args
      return .str ((env.action.metaStr "tool_class").getD "unknown")
  | "sandbox_required" => do
      requireArity "sandbox_required" args 1
      let tool ← wantStr "sandbox_required" (← argValue "sandbox_required" "tool" 0 args)
      if env.action.tool != tool then return .bool true
      return .bool ((env.action.metaBool "sandbox_mode").getD false)
  | _ => .error (.unknownFunction name)

/-! ## Evaluation -/

mutual

def eval (env : EvalEnv F) : Expr F → Eval (Value F)
  | .num n => .ok (.num n)
  | .str s => .ok (.str s)
  | .bool b => .ok (.bool b)
  | .ident name => resolveIdent name env
  | .list items => return .list (← evalList env items)
  | .binary op l r => do applyBinary op (← eval env l) (← eval env r)
  | .unary op e => do applyUnary op (← eval env e)
  | .isIn lhs rhs => do applyIn (← eval env lhs) (← eval env rhs)
  | .call name args => call name (evalArgs env args) env

def evalList (env : EvalEnv F) : List (Expr F) → Eval (List (Value F))
  | [] => .ok []
  | e :: es => return (← eval env e) :: (← evalList env es)

def evalArgs (env : EvalEnv F) : List (Option String × Expr F) → Args F
  | [] => []
  | a :: as => evalArg env a :: evalArgs env as

def evalArg (env : EvalEnv F) : Option String × Expr F → Option String × Eval (Value F)
  | (k, e) => (k, eval env e)

end

/-- Evaluate and require a Boolean. -/
def evalPredicate (e : Expr F) (env : EvalEnv F) : Eval Bool := do
  match ← eval env e with
  | .bool b => return b
  | v => .error (.typeError s!"predicate must be Bool, got {v.tag}")

/-! ## What an evaluation depends on -/

/-- The environments agree on all that the names of an expression refer to. Of the
context that is the total spend, and of the binding the budget. -/
structure EvalEnv.Same (env env' : EvalEnv F) : Prop where
  action : env'.action = env.action
  spendTotalUsd : env'.ctx.spendTotalUsd = env.ctx.spendTotalUsd
  maxBudgetUsd : env'.binding.maxBudgetUsd = env.binding.maxBudgetUsd
  nowEpoch : env'.nowEpoch = env.nowEpoch

section Congr

variable {env env' : EvalEnv F}

theorem resolveIdent_congr (h : env.Same env') (name : String) :
    resolveIdent name env' = resolveIdent name env := by
  unfold resolveIdent
  rw [h.action, h.spendTotalUsd, h.maxBudgetUsd, h.nowEpoch]

theorem call_congr (h : env.Same env') (name : String) (args : Args F) :
    call name args env' = call name args env := by
  unfold call
  rw [h.action, h.nowEpoch]

mutual

/-- Expressions have one value in environments that are the same to them. -/
theorem eval_congr (h : env.Same env') : ∀ e : Expr F, eval env' e = eval env e
  | .num _ | .str _ | .bool _ => rfl
  | .ident name => resolveIdent_congr h name
  | .list items => by rw [eval, eval, evalList_congr h items]
  | .binary op l r => by rw [eval, eval, eval_congr h l, eval_congr h r]
  | .unary op e => by rw [eval, eval, eval_congr h e]
  | .isIn lhs rhs => by rw [eval, eval, eval_congr h lhs, eval_congr h rhs]
  | .call name args => by rw [eval, eval, evalArgs_congr h args, call_congr h]

theorem evalList_congr (h : env.Same env') :
    ∀ es : List (Expr F), evalList env' es = evalList env es
  | [] => rfl
  | e :: es => by rw [evalList, evalList, eval_congr h e, evalList_congr h es]

theorem evalArgs_congr (h : env.Same env') :
    ∀ as : List (Option String × Expr F), evalArgs env' as = evalArgs env as
  | [] => rfl
  | a :: as => by rw [evalArgs, evalArgs, evalArg_congr h a, evalArgs_congr h as]

theorem evalArg_congr (h : env.Same env') :
    ∀ a : Option String × Expr F, evalArg env' a = evalArg env a
  | (k, e) => by rw [evalArg, evalArg, eval_congr h e]

end

theorem evalPredicate_congr (h : env.Same env') (e : Expr F) :
    evalPredicate e env' = evalPredicate e env := by
  unfold evalPredicate
  rw [eval_congr h]

end Congr

end SauronID.Dsl
