import Mathlib.Data.List.Induction
import SauronID.Lib.Prog

/-!
# Interleavings of a pool of programs

A `Config` is the shared state, the programs of the pool and the log of the
statements executed so far. A schedule is a list of events: a tick of the clock,
or one statement of the `i`-th program. Every interleaving of the pool is a
schedule, and `run` executes it.

`RunInvariant.run` is the induction over schedules, packaged once: an invariant
of the shared state, the programs' ghost states and the log that survives ticks
and the transitions of a protocol holds after every schedule whose log meets the
side condition, and a program that has returned meets its postcondition.
-/

namespace SauronID.Conc

variable {ℓ σ ε α L : Type}

/-- Shared states with a clock that can be advanced. -/
class Clocked (σ : Type) where
  advance : ℕ → σ → σ

/-- One executed statement: who executed it, which one, and the state it saw. -/
structure Entry (ℓ σ : Type) where
  thread : ℕ
  label : ℓ
  before : σ

/-- A pool at work. The log is newest first. -/
structure Config (ℓ σ ε α : Type) where
  world : σ
  pool : List (Prog ℓ σ ε α)
  log : List (Entry ℓ σ)

/-- One move of a schedule. -/
inductive Event where
  | tick (d : ℕ)
  | step (i : ℕ)
  deriving DecidableEq, Repr

namespace Config

/-- The pool before anything has run. -/
def init (s : σ) (pool : List (Prog ℓ σ ε α)) : Config ℓ σ ε α := ⟨s, pool, []⟩

/-- One event. A step of a program that has returned, or does not exist, does nothing. -/
def next [Clocked σ] (c : Config ℓ σ ε α) : Event → Config ℓ σ ε α
  | .tick d => { c with world := Clocked.advance d c.world }
  | .step i =>
    match c.pool[i]? with
    | some (.step lbl upd nxt) =>
        { world := upd c.world
          pool := c.pool.set i (nxt c.world)
          log := ⟨i, lbl, c.world⟩ :: c.log }
    | _ => c

/-- Execute a schedule. -/
def run [Clocked σ] (c : Config ℓ σ ε α) (sched : List Event) : Config ℓ σ ε α :=
  sched.foldl next c

/-- What the `i`-th program has returned, if it has. -/
def result (c : Config ℓ σ ε α) (i : ℕ) : Option (Except ε α) :=
  match c.pool[i]? with
  | some (.done r) => some r
  | _ => none

theorem result_eq_some {c : Config ℓ σ ε α} {i : ℕ} {r : Except ε α}
    (h : c.result i = some r) : c.pool[i]? = some (.done r) := by
  unfold result at h
  split at h
  · next r' hr => rw [hr, Option.some.inj h]
  · cases h

variable [Clocked σ]

@[simp] theorem run_nil (c : Config ℓ σ ε α) : c.run [] = c := rfl

theorem run_append (c : Config ℓ σ ε α) (es fs : List Event) :
    c.run (es ++ fs) = (c.run es).run fs := List.foldl_append ..

theorem run_concat (c : Config ℓ σ ε α) (es : List Event) (e : Event) :
    c.run (es ++ [e]) = (c.run es).next e := by
  rw [run_append]
  rfl

/-- What a step event does, when it does something. -/
theorem next_step_cases (c : Config ℓ σ ε α) (i : ℕ) :
    c.next (.step i) = c ∨ ∃ lbl upd nxt, c.pool[i]? = some (.step lbl upd nxt) ∧
      c.next (.step i) = ⟨upd c.world, c.pool.set i (nxt c.world), ⟨i, lbl, c.world⟩ :: c.log⟩ := by
  cases h : c.pool[i]? with
  | none => exact .inl (by simp only [next, h])
  | some p =>
    cases p with
    | done r => exact .inl (by simp only [next, h])
    | step lbl upd nxt => exact .inr ⟨lbl, upd, nxt, rfl, by simp only [next, h]⟩

end Config

/-- Every entry of the log meets `C`, given the entries before it. -/
def LogOk (C : Entry ℓ σ → List (Entry ℓ σ) → Prop) : List (Entry ℓ σ) → Prop
  | [] => True
  | e :: older => C e older ∧ LogOk C older

instance LogOk.decidable (C : Entry ℓ σ → List (Entry ℓ σ) → Prop)
    [∀ e older, Decidable (C e older)] : ∀ log, Decidable (LogOk C log)
  | [] => .isTrue trivial
  | _ :: older => @instDecidableAnd _ _ _ (LogOk.decidable C older)

theorem LogOk.of_true : ∀ log : List (Entry ℓ σ), LogOk (fun _ _ => True) log
  | [] => trivial
  | _ :: older => ⟨trivial, of_true older⟩

variable {D : Entry ℓ σ → Prop} {log : List (Entry ℓ σ)}

theorem LogOk.of_forall_mem (h : ∀ e ∈ log, D e) : LogOk (fun e _ => D e) log := by
  induction log with
  | nil => trivial
  | cons e log ih => exact ⟨h e (.head _), ih fun e he => h e (.tail _ he)⟩

/-- The condition together with what holds of every entry. -/
theorem LogOk.and_forall {C : Entry ℓ σ → List (Entry ℓ σ) → Prop} :
    ∀ {log}, LogOk C log → (∀ e ∈ log, D e) → LogOk (fun e older => C e older ∧ D e) log
  | [], _, _ => trivial
  | e :: _, h, hD =>
    ⟨⟨h.1, hD e (.head _)⟩, and_forall h.2 fun e' he' => hD e' (.tail _ he')⟩

theorem LogOk.of_suffix {C : Entry ℓ σ → List (Entry ℓ σ) → Prop} {e : Entry ℓ σ}
    {older : List (Entry ℓ σ)} (h : LogOk C log) (hs : e :: older <:+ log) : C e older := by
  induction log with
  | nil => exact absurd (List.suffix_nil.1 hs) (List.cons_ne_nil e older)
  | cons e' log ih =>
    rcases List.suffix_cons_iff.1 hs with heq | hs
    · cases heq
      exact h.1
    · exact ih h.2 hs

variable {T : ℕ → L → ℓ → σ → σ → L → Prop}

/-- Every program of the pool keeps to the protocol from its ghost state. -/
def PoolFollows (T : ℕ → L → ℓ → σ → σ → L → Prop) (Q : ℕ → L → Except ε α → Prop)
    (pool : List (Prog ℓ σ ε α)) (g : ℕ → L) : Prop :=
  ∀ (i : ℕ) (p : Prog ℓ σ ε α), pool[i]? = some p → p.Follows (T i) (g i) (Q i)

variable {Q : ℕ → L → Except ε α → Prop} {g : ℕ → L} {i : ℕ}

theorem PoolFollows.set {pool : List (Prog ℓ σ ε α)} (h : PoolFollows T Q pool g) {p : Prog ℓ σ ε α}
    {l' : L} (hp : p.Follows (T i) l' (Q i)) :
    PoolFollows T Q (pool.set i p) (Function.update g i l') := by
  intro j q hq
  by_cases hij : j = i
  · subst hij
    rw [List.getElem?_set_self'] at hq
    cases hj : pool[j]? with
    | none => simp [hj] at hq
    | some q' =>
      have hqp : p = q := by simpa [hj] using hq
      rw [← hqp, Function.update_self]
      exact hp
  · rw [List.getElem?_set_ne (Ne.symm hij)] at hq
    rw [Function.update_of_ne hij]
    exact h j q hq

variable {c : Config ℓ σ ε α}

/-- A program that has returned ended in its postcondition. -/
theorem PoolFollows.result (h : PoolFollows T Q c.pool g) {r : Except ε α}
    (hr : c.result i = some r) : Q i (g i) r :=
  Prog.follows_done.1 (h i _ (Config.result_eq_some hr))

/-- An invariant of the shared state, the ghost states and the log that is kept
by ticks and by the transitions of the protocol `T` in which the statement meets `C`. -/
structure RunInvariant [Clocked σ] (T : ℕ → L → ℓ → σ → σ → L → Prop)
    (C : Entry ℓ σ → List (Entry ℓ σ) → Prop)
    (I : σ → (ℕ → L) → List (Entry ℓ σ) → Prop) : Prop where
  tick : ∀ {s g log} (d : ℕ), I s g log → I (Clocked.advance d s) g log
  step : ∀ {s g log i lbl s' l'}, I s g log → C ⟨i, lbl, s⟩ log → T i (g i) lbl s s' l' →
    I s' (Function.update g i l') (⟨i, lbl, s⟩ :: log)

variable [Clocked σ] {C : Entry ℓ σ → List (Entry ℓ σ) → Prop}
  {I : σ → (ℕ → L) → List (Entry ℓ σ) → Prop}

/-- One event keeps the invariant and the programs on their protocols. -/
theorem RunInvariant.next (hI : RunInvariant T C I) (hpool : PoolFollows T Q c.pool g)
    (hc : I c.world g c.log) (e : Event) (hlog : LogOk C (c.next e).log) :
    ∃ g', I (c.next e).world g' (c.next e).log ∧ PoolFollows T Q (c.next e).pool g' := by
  cases e with
  | tick d => exact ⟨g, hI.tick d hc, hpool⟩
  | step i =>
    rcases c.next_step_cases i with hid | ⟨lbl, upd, nxt, hp, hnext⟩
    · rw [hid]
      exact ⟨g, hc, hpool⟩
    · rw [hnext] at hlog ⊢
      obtain ⟨l', hT, hrest⟩ := Prog.follows_step.1 (hpool i _ hp) c.world
      exact ⟨_, hI.step hc hlog.1 hT, hpool.set hrest⟩

/-- The log only grows, so a side condition on the log after a schedule holds
of the log at every earlier point. -/
theorem LogOk.of_next {e : Event} (h : LogOk C (c.next e).log) : LogOk C c.log := by
  cases e with
  | tick d => exact h
  | step i =>
    rcases c.next_step_cases i with hid | ⟨lbl, upd, nxt, -, hnext⟩
    · rwa [hid] at h
    · rw [hnext] at h
      exact h.2

theorem LogOk.of_run {es fs : List Event}
    (h : LogOk C (c.run (es ++ fs)).log) : LogOk C (c.run es).log := by
  induction fs using List.reverseRecOn with
  | nil => simpa using h
  | append_singleton fs f ih =>
    rw [← List.append_assoc, Config.run_concat] at h
    exact ih h.of_next

/-- A run only adds to the log. -/
theorem Config.log_suffix_run (c : Config ℓ σ ε α) (sched : List Event) :
    c.log <:+ (c.run sched).log := by
  induction sched using List.reverseRecOn with
  | nil => exact List.suffix_refl _
  | append_singleton es e ih =>
    rw [Config.run_concat]
    refine ih.trans ?_
    cases e with
    | tick d => exact List.suffix_refl _
    | step i =>
      rcases Config.next_step_cases (c.run es) i with hnext | ⟨lbl, upd, next, -, hnext⟩
      · simp only [hnext, List.suffix_refl]
      · simp only [hnext, List.suffix_cons]

/-- **The run rule.** The invariant holds after every schedule whose log meets
the side condition. -/
theorem RunInvariant.run (hI : RunInvariant T C I) (hpool : PoolFollows T Q c.pool g)
    (hc : I c.world g c.log) (sched : List Event) (hlog : LogOk C (c.run sched).log) :
    ∃ g', I (c.run sched).world g' (c.run sched).log ∧ PoolFollows T Q (c.run sched).pool g' := by
  induction sched using List.reverseRecOn with
  | nil => exact ⟨g, hc, hpool⟩
  | append_singleton es e ih =>
    rw [Config.run_concat] at hlog ⊢
    obtain ⟨g₁, hc₁, hpool₁⟩ := ih hlog.of_next
    exact hI.next hpool₁ hc₁ e hlog

end SauronID.Conc
