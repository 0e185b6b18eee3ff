import Mathlib.Logic.Relation
import SauronID.Model.Env

/-!
# Invariant expressions are strict

An error anywhere in an invariant is an error of the invariant, and an invariant that does not
come out as `true` denies. The operators evaluate both sides. The functions choose their
arguments by name and then by position, and look only at those they choose, so for them it has
to be shown that a call that succeeds has chosen all of its arguments.
-/

namespace SauronID.Dsl

variable {F : Type}

/-- An expression of which another one is made, at the top. -/
inductive Operand : Expr F → Expr F → Prop
  | item {e : Expr F} {items : List (Expr F)} (h : e ∈ items) : Operand e (.list items)
  | left {op : BinOp} {l r : Expr F} : Operand l (.binary op l r)
  | right {op : BinOp} {l r : Expr F} : Operand r (.binary op l r)
  | unary {op : UnaryOp} {e : Expr F} : Operand e (.unary op e)
  | lhs {l r : Expr F} : Operand l (.isIn l r)
  | rhs {l r : Expr F} : Operand r (.isIn l r)
  | arg {k : Option String} {e : Expr F} {name : String} {args : List (Option String × Expr F)}
      (h : (k, e) ∈ args) : Operand e (.call name args)

/-- An expression of which another one is made, at any depth. -/
def Subexpression : Expr F → Expr F → Prop := Relation.ReflTransGen Operand

/-- The evaluation has ended in a value. -/
def Succeeds {α : Type} (x : Eval α) : Prop := ∃ v, x = .ok v

variable {α β : Type} {x : Eval α} {f : α → Eval β}

theorem Succeeds.of_bind (h : Succeeds (x >>= f)) : Succeeds x := by
  cases x with
  | error e => obtain ⟨v, hv⟩ := h; cases hv
  | ok a => exact ⟨a, rfl⟩

theorem Succeeds.bind_ok (h : Succeeds (x >>= f)) : ∃ a, x = .ok a ∧ Succeeds (f a) := by
  cases x with
  | error e => obtain ⟨v, hv⟩ := h; cases hv
  | ok a => exact ⟨a, rfl, h⟩

/-! ## Calls -/

section Calls

variable {func : String} {args : Args F}

/-- Every argument has a value. -/
def Evaluated (args : Args F) : Prop := ∀ a ∈ args, Succeeds a.2

theorem length_of_requireArity {n : ℕ} {u : Unit} (h : requireArity func args n = .ok u) :
    args.length = n := by
  by_contra hne
  simp [requireArity, hne] at h

variable {keyword : String}

/-- An argument that is found is that of its name, or the unnamed one in its place. -/
theorem argValue_succeeds {pos : ℕ}
    (h : Succeeds (argValue func keyword pos args)) : ∃ i k v, args[i]? = some (k, v) ∧
      Succeeds v ∧ (k = some keyword ∨ k = none ∧ i = pos) := by
  unfold argValue at h
  split at h
  · rename_i k v hfind
    have hkey : k = some keyword := by simpa using List.find?_some hfind
    obtain ⟨i, hi⟩ := List.mem_iff_getElem?.1 (List.mem_of_find?_eq_some hfind)
    exact ⟨i, k, v, hi, h, .inl hkey⟩
  · rename_i v _ hpos
    exact ⟨pos, none, v, hpos, h, .inr ⟨rfl, rfl⟩⟩
  · obtain ⟨v, hv⟩ := h
    cases hv

/-- Whatever is at every place has a value. -/
theorem evaluated_of_places {args : Args F}
    (h : ∀ i < args.length, ∃ k v, args[i]? = some (k, v) ∧ Succeeds v) : Evaluated args := by
  intro a ha
  obtain ⟨i, hi⟩ := List.mem_iff_getElem?.1 ha
  obtain ⟨k, v, hkv, hv⟩ := h i (List.getElem?_eq_some_iff.1 hi).1
  cases hi.symm.trans hkv
  exact hv

variable {k : Value F → Eval (Value F)}

/-- A function of one argument has evaluated it. -/
theorem evaluated_of_one
    (h : Succeeds (do
      requireArity func args 1
      let v ← argValue func keyword 0 args
      k v)) : Evaluated args := by
  obtain ⟨_, harity, h⟩ := h.bind_ok
  have hlength := length_of_requireArity harity
  obtain ⟨i, k, v, hi, hv, -⟩ := argValue_succeeds h.of_bind
  refine evaluated_of_places fun j hj => ⟨k, v, ?_, hv⟩
  have hlt := (List.getElem?_eq_some_iff.1 hi).1
  have hj : j = i := by omega
  rw [hj, hi]

/-- `len` and `count` take their argument under any name. -/
theorem evaluated_of_head
    (h : Succeeds (do
      requireArity func args 1
      let v ← (args.map Prod.snd).headD (.ok .null)
      k v)) : Evaluated args := by
  obtain ⟨_, harity, h⟩ := h.bind_ok
  obtain ⟨a, rfl⟩ := List.length_eq_one_iff.1 (length_of_requireArity harity)
  intro a' ha'
  cases List.mem_singleton.1 ha'
  exact h.of_bind

/-- Two arguments that are found under different names and in different places are not the
same one. -/
theorem evaluated_of_two {keyword' : String} (hne : keyword ≠ keyword')
    (hlength : args.length = 2) (h : Succeeds (argValue func keyword 0 args))
    (h' : Succeeds (argValue func keyword' 1 args)) : Evaluated args := by
  obtain ⟨i, k, v, hi, hv, hk⟩ := argValue_succeeds h
  obtain ⟨i', k', v', hi', hv', hk'⟩ := argValue_succeeds h'
  have hapart : i ≠ i' := by
    intro heq
    subst heq
    cases hi.symm.trans hi'
    rcases hk with rfl | ⟨rfl, hpos⟩
    · rcases hk' with hkey | ⟨hnone, -⟩
      · exact hne (Option.some.inj hkey)
      · cases hnone
    · rcases hk' with hkey | ⟨-, hpos'⟩
      · cases hkey
      · omega
  have hlt := (List.getElem?_eq_some_iff.1 hi).1
  have hlt' := (List.getElem?_eq_some_iff.1 hi').1
  refine evaluated_of_places fun j hj => ?_
  by_cases hji : j = i
  · exact ⟨k, v, hji ▸ hi, hv⟩
  · have hji' : j = i' := by omega
    exact ⟨k', v', hji' ▸ hi', hv'⟩

/-- A call that succeeds has evaluated all of its arguments. -/
theorem evaluated_of_call [Float64 F] {name : String} {env : EvalEnv F}
    (h : Succeeds (call name args env)) : Evaluated args := by
  unfold call at h
  split at h
  · obtain ⟨_, harity, -⟩ := h.bind_ok
    rw [List.length_eq_zero_iff.1 (length_of_requireArity harity)]
    exact List.forall_mem_nil _
  · exact evaluated_of_head h
  · exact evaluated_of_head h
  · exact evaluated_of_one h
  · exact evaluated_of_one h
  · obtain ⟨_, harity, h⟩ := h.bind_ok
    obtain ⟨role, hrole, h⟩ := h.bind_ok
    obtain ⟨_, -, h⟩ := h.bind_ok
    exact evaluated_of_two (by decide) (length_of_requireArity harity) ⟨role, hrole⟩ h.of_bind
  · exact evaluated_of_one h
  · exact evaluated_of_one h
  · obtain ⟨v, hv⟩ := h
    cases hv

end Calls

/-! ## Expressions -/

variable [Float64 F] {env : EvalEnv F} {e : Expr F}

theorem succeeds_of_evalList {items : List (Expr F)} (h : Succeeds (evalList env items))
    (he : e ∈ items) : Succeeds (eval env e) := by
  induction items with
  | nil => cases he
  | cons item items ih =>
    rw [evalList] at h
    obtain ⟨v, hv, h⟩ := h.bind_ok
    rcases List.mem_cons.1 he with rfl | he
    · exact ⟨v, hv⟩
    · exact ih h.of_bind he

theorem evalArgs_eq_map (args : List (Option String × Expr F)) :
    evalArgs env args = args.map fun a => (a.1, eval env a.2) := by
  induction args with
  | nil => rfl
  | cons a args ih => rw [evalArgs, evalArg, ih, List.map_cons]

variable {e' : Expr F}

/-- An expression has a value only when each of its operands has. -/
theorem succeeds_of_operand (h : Operand e' e) (hok : Succeeds (eval env e)) :
    Succeeds (eval env e') := by
  cases h with
  | item he =>
    rw [eval] at hok
    exact succeeds_of_evalList hok.of_bind he
  | left =>
    rw [eval] at hok
    exact hok.of_bind
  | right =>
    rw [eval] at hok
    obtain ⟨_, -, hok⟩ := hok.bind_ok
    exact hok.of_bind
  | unary =>
    rw [eval] at hok
    exact hok.of_bind
  | lhs =>
    rw [eval] at hok
    exact hok.of_bind
  | rhs =>
    rw [eval] at hok
    obtain ⟨_, -, hok⟩ := hok.bind_ok
    exact hok.of_bind
  | arg harg =>
    rw [eval, evalArgs_eq_map] at hok
    exact evaluated_of_call hok _ (List.mem_map_of_mem harg)

theorem succeeds_of_subexpression (h : Subexpression e' e)
    (hok : Succeeds (eval env e)) : Succeeds (eval env e') := by
  induction h with
  | refl => exact hok
  | tail _ hop ih => exact ih (succeeds_of_operand hop hok)

theorem evalPredicate_eq_true : evalPredicate e env = .ok true ↔ eval env e = .ok (.bool true) := by
  unfold evalPredicate
  cases h : eval env e with
  | error err => simp [bind, Except.bind]
  | ok v => cases v <;> simp [bind, Except.bind, pure, Except.pure]

/-- **Strictness.** An error of any subexpression is an error of the expression. The check of
an invariant allows exactly when the expression is `true`, and so never when a subexpression
fails. -/
theorem invariants_fail_closed (engine : Engine F) :
    (∀ (env : EvalEnv F) (e' e : Expr F), Subexpression e' e →
      (∃ err, eval env e' = .error err) → ∃ err, eval env e = .error err) ∧
    ∀ (src : String) (e : Expr F) (binding : Binding F) (ctx : EvaluationContext F),
      (RuntimeCheck.expression src e binding).evaluate engine ctx = .allow ↔
        eval ⟨ctx.action, ctx, binding, ctx.nowEpoch⟩ e = .ok (.bool true) := by
  refine ⟨fun env e' e hsub herr => ?_, fun src e binding ctx => ?_⟩
  · obtain ⟨err, herr⟩ := herr
    cases hok : eval env e with
    | error err' => exact ⟨err', rfl⟩
    | ok v =>
      obtain ⟨v', hv'⟩ := succeeds_of_subexpression hsub ⟨v, hok⟩
      cases herr.symm.trans hv'
  · rw [← evalPredicate_eq_true]
    simp only [RuntimeCheck.evaluate]
    split
    · simp_all
    · simp_all
    · simp_all

/-- `true || len(x: nosuch)`. -/
def maskedError : Expr ℚ :=
  .binary .or (.bool true) (.call "len" [(some "x", .ident "nosuch")])

/-- Neither the true operand nor the name of the argument hides the unknown identifier. -/
theorem masked_error_denied : ∃ (e : Expr ℚ) (env : EvalEnv ℚ), Subexpression e maskedError ∧
    (∃ err, eval env e = .error err) ∧ ∃ err, eval env maskedError = .error err := by
  have hsub : Subexpression (.ident "nosuch") maskedError :=
    .tail (.single (.arg (.head _))) .right
  let ctx : EvaluationContext ℚ := ⟨⟨"a1", "search", none, none, [], 0, 0, []⟩, 0, [], 0,
    "12:00", 0, [], 0, none, 1, ""⟩
  let env : EvalEnv ℚ := ⟨ctx.action, ctx, {}, 0⟩
  have herr : ∃ err, eval env (.ident "nosuch") = .error err := ⟨_, rfl⟩
  exact ⟨_, env, hsub, herr, (invariants_fail_closed (sampleEngine ℚ)).1 env _ _ hsub herr⟩

end SauronID.Dsl
