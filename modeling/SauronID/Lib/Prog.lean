import Mathlib.Logic.Function.Basic
import Mathlib.Data.List.Basic

/-!
# Programs that act on a shared state one statement at a time

A `Prog` is a resumption: it either has its result, or performs one labelled
atomic statement on the shared state and goes on with what that statement saw.
Between two statements other programs may run. The result is an `Except`, so a
program can return early with an error as a fallible function does.

`Prog.Follows` states that a program keeps to a protocol, whatever the other
programs do between its statements: a transition relation on a local ghost state
and the shared states before and after each statement, with a postcondition on
the ghost state and the result at the end.
-/

namespace SauronID.Conc

/-- A computation with statements labelled in `ℓ` on the shared state `σ`,
errors in `ε` and results in `α`. A statement is executed at once: `upd` is its
effect and `next` continues with the state it saw. -/
inductive Prog (ℓ σ ε α : Type) : Type where
  | done (r : Except ε α)
  | step (lbl : ℓ) (upd : σ → σ) (next : σ → Prog ℓ σ ε α)

namespace Prog

variable {ℓ σ ε ε' α β L : Type}

/-- Run `p`, then `f` on its result; an error of `p` is the error of the whole. -/
def bind : Prog ℓ σ ε α → (α → Prog ℓ σ ε β) → Prog ℓ σ ε β
  | done (.ok a), f => f a
  | done (.error e), _ => done (.error e)
  | step lbl upd next, f => step lbl upd fun s => (next s).bind f

instance : Monad (Prog ℓ σ ε) where
  pure a := done (.ok a)
  bind := bind

/-- Stop with the error `e`. -/
def fail (e : ε) : Prog ℓ σ ε α := done (.error e)

/-- Translate the error of a program. -/
def mapErr (f : ε → ε') : Prog ℓ σ ε α → Prog ℓ σ ε' α
  | done (.ok a) => done (.ok a)
  | done (.error e) => done (.error (f e))
  | step lbl upd next => step lbl upd fun s => (next s).mapErr f

/-- Run `p` and hand its outcome on as a value. -/
def attempt : Prog ℓ σ ε α → Prog ℓ σ ε' (Except ε α)
  | done r => done (.ok r)
  | step lbl upd next => step lbl upd fun s => (next s).attempt

/-- Stop with the error `e` when `p` holds. -/
def rejectIf (p : Prop) [Decidable p] (e : ε) : Prog ℓ σ ε Unit :=
  if p then fail e else pure ()

/-- The value of an option, or the error `e`. -/
def okOr (e : ε) : Option α → Prog ℓ σ ε α
  | some a => pure a
  | none => fail e

/-- The result of a fallible pure function. -/
def ofExcept (r : Except ε α) : Prog ℓ σ ε α := done r

/-- One atomic statement with its label; the result is read off the state the
statement saw. -/
def atomic (lbl : ℓ) (upd : σ → σ) (out : σ → α) : Prog ℓ σ ε α :=
  step lbl upd fun s => pure (out s)

@[simp] theorem pure_eq (a : α) : (pure a : Prog ℓ σ ε α) = done (.ok a) := rfl

@[simp] theorem done_ok_bind (a : α) (f : α → Prog ℓ σ ε β) : (done (.ok a) >>= f) = f a := rfl

@[simp] theorem done_error_bind (e : ε) (f : α → Prog ℓ σ ε β) :
    ((done (.error e) : Prog ℓ σ ε α) >>= f) = done (.error e) := rfl

@[simp] theorem step_bind (lbl : ℓ) (upd : σ → σ) (next : σ → Prog ℓ σ ε α) (f : α → Prog ℓ σ ε β) :
    (step lbl upd next >>= f) = step lbl upd fun s => next s >>= f := rfl

theorem bind_assoc {γ : Type} (p : Prog ℓ σ ε α) (f : α → Prog ℓ σ ε β) (g : β → Prog ℓ σ ε γ) :
    (p >>= f) >>= g = p >>= fun a => f a >>= g := by
  induction p with
  | done r => cases r <;> rfl
  | step lbl upd next ih => exact congrArg (step lbl upd) (funext ih)

/-! ## Running alone -/

/-- The result and final state when no other program runs in between. -/
def exec : Prog ℓ σ ε α → σ → Except ε α × σ
  | done r, s => (r, s)
  | step _ upd next, s => (next s).exec (upd s)

@[simp] theorem exec_done (r : Except ε α) (s : σ) : (done r : Prog ℓ σ ε α).exec s = (r, s) := rfl

@[simp] theorem exec_step (lbl : ℓ) (upd : σ → σ) (next : σ → Prog ℓ σ ε α) (s : σ) :
    (step lbl upd next).exec s = (next s).exec (upd s) := rfl

/-- Sequencing runs the second program from the state the first one left. -/
theorem exec_bind (p : Prog ℓ σ ε α) (f : α → Prog ℓ σ ε β) (s : σ) :
    (p >>= f).exec s = match p.exec s with
      | (.ok a, s') => (f a).exec s'
      | (.error e, s') => (.error e, s') := by
  induction p generalizing s with
  | done r => cases r <;> rfl
  | step lbl upd next ih => exact ih s (upd s)

theorem exec_mapErr (f : ε → ε') (p : Prog ℓ σ ε α) (s : σ) :
    (p.mapErr f).exec s = ((p.exec s).1.mapError f, (p.exec s).2) := by
  induction p generalizing s with
  | done r => cases r <;> rfl
  | step lbl upd next ih => exact ih s (upd s)

theorem exec_attempt (p : Prog ℓ σ ε α) (s : σ) :
    (p.attempt : Prog ℓ σ ε' _).exec s = (.ok (p.exec s).1, (p.exec s).2) := by
  induction p generalizing s with
  | done r => rfl
  | step lbl upd next ih => exact ih s (upd s)

/-- Both parts of a sequence that succeeds do. -/
theorem exec_bind_eq_ok {p : Prog ℓ σ ε α} {f : α → Prog ℓ σ ε β} {s s' : σ} {b : β} :
    (p >>= f).exec s = (.ok b, s') ↔
      ∃ a s₁, p.exec s = (.ok a, s₁) ∧ (f a).exec s₁ = (.ok b, s') := by
  rw [exec_bind]
  rcases p.exec s with ⟨_ | a, s₁⟩ <;> simp

/-- Run alone from `s`, a success meets `Q`. -/
def Brings (p : Prog ℓ σ ε α) (s : σ) (Q : α → σ → Prop) : Prop :=
  ∀ a s', p.exec s = (.ok a, s') → Q a s'

section Brings

variable {s : σ} {P : α → σ → Prop} {Q : β → σ → Prop}

theorem brings_pure {a : α} (h : P a s) : (pure a : Prog ℓ σ ε α).Brings s P := by
  rintro _ _ ⟨⟩
  exact h

variable {p : Prog ℓ σ ε α} {f : α → Prog ℓ σ ε β}

theorem Brings.andThen (h : p.Brings s P)
    (hf : ∀ a s', P a s' → (f a).Brings s' Q) : (p >>= f).Brings s Q := by
  intro b s' hb
  obtain ⟨a, s₁, ha, hb⟩ := exec_bind_eq_ok.1 hb
  exact hf a s₁ (h a s₁ ha) b s' hb

theorem Brings.mapErr {g : ε → ε'} (h : p.Brings s P) : (p.mapErr g).Brings s P := by
  intro a s' ha
  rw [exec_mapErr] at ha
  refine h a s' ?_
  rcases hp : p.exec s with ⟨_ | b, s₁⟩ <;> rw [hp] at ha <;> cases ha
  rfl

variable {e : ε}

theorem Brings.rejectIf {p : Prop} [Decidable p] {f : Unit → Prog ℓ σ ε β}
    (h : ¬p → (f ()).Brings s Q) : (Prog.rejectIf p e >>= f).Brings s Q := by
  by_cases hp : p
  · rw [Prog.rejectIf, if_pos hp]
    exact nofun
  · rw [Prog.rejectIf, if_neg hp]
    exact h hp

theorem Brings.ofExcept {r : Except ε α}
    (h : ∀ a, r = .ok a → (f a).Brings s Q) : (Prog.ofExcept r >>= f).Brings s Q := by
  cases r with
  | error e => exact nofun
  | ok a => exact h a rfl

theorem Brings.okOr {o : Option α}
    (h : ∀ a, o = some a → (f a).Brings s Q) : (Prog.okOr e o >>= f).Brings s Q := by
  cases o with
  | none => exact nofun
  | some a => exact h a rfl

/-- One statement at the head of a program. -/
theorem Brings.atomic {lbl : ℓ} {upd : σ → σ} {out : σ → α}
    (h : (f (out s)).Brings (upd s) Q) : (Prog.atomic lbl upd out >>= f).Brings s Q := h

/-- A success is there to meet `P`. -/
theorem Brings.of_isOk (h : p.Brings s P) (hok : (p.exec s).1.isOk = true) : ∃ a s', P a s' := by
  rcases hp : p.exec s with ⟨_ | a, s'⟩
  · rw [hp] at hok
    cases hok
  · exact ⟨a, s', h a s' hp⟩

end Brings

/-- Run alone from `s`, the program succeeds, and it meets `Q`. -/
def Reaches (p : Prog ℓ σ ε α) (s : σ) (Q : α → σ → Prop) : Prop :=
  ∃ a s', p.exec s = (.ok a, s') ∧ Q a s'

section Reaches

variable {s : σ} {P : α → σ → Prop} {Q : β → σ → Prop} {a : α}

theorem reaches_pure (h : P a s) : (pure a : Prog ℓ σ ε α).Reaches s P := ⟨a, s, rfl, h⟩

variable {p : Prog ℓ σ ε α} {f : α → Prog ℓ σ ε β}

theorem Reaches.andThen (h : p.Reaches s P)
    (hf : ∀ a s', P a s' → (f a).Reaches s' Q) : (p >>= f).Reaches s Q := by
  obtain ⟨a, s₁, ha, hP⟩ := h
  obtain ⟨b, s', hb, hQ⟩ := hf a s₁ hP
  exact ⟨b, s', exec_bind_eq_ok.2 ⟨a, s₁, ha, hb⟩, hQ⟩

theorem Reaches.mapErr {g : ε → ε'} (h : p.Reaches s P) : (p.mapErr g).Reaches s P := by
  obtain ⟨a, s', ha, hP⟩ := h
  refine ⟨a, s', ?_, hP⟩
  rw [exec_mapErr, ha]
  rfl

theorem Reaches.rejectIf {p : Prop} [Decidable p] {e : ε} {f : Unit → Prog ℓ σ ε β} (hp : ¬p)
    (h : (f ()).Reaches s Q) : (Prog.rejectIf p e >>= f).Reaches s Q := by
  rw [Prog.rejectIf, if_neg hp]
  exact h

theorem Reaches.ofExcept {r : Except ε α} (hr : r = .ok a)
    (h : (f a).Reaches s Q) : (Prog.ofExcept r >>= f).Reaches s Q := by
  rw [hr]
  exact h

/-- One statement at the head of a program. -/
theorem Reaches.atomic {lbl : ℓ} {upd : σ → σ} {out : σ → α}
    (h : (f (out s)).Reaches (upd s) Q) : (Prog.atomic lbl upd out >>= f).Reaches s Q := h

theorem Reaches.isOk (h : p.Reaches s P) : (p.exec s).1.isOk = true := by
  obtain ⟨a, s', ha, -⟩ := h
  rw [ha]
  rfl

end Reaches

/-! ## Keeping to a protocol -/

/-- `p` keeps to the protocol `T` from the ghost state `l` and ends in `Q`: in
whatever state `s` a statement finds the shared memory, `T` allows what the
statement does there, and `p` goes on from the next ghost state. -/
def Follows (T : L → ℓ → σ → σ → L → Prop) :
    Prog ℓ σ ε α → L → (L → Except ε α → Prop) → Prop
  | done r, l, Q => Q l r
  | step lbl upd next, l, Q =>
      ∀ s, ∃ l', T l lbl s (upd s) l' ∧ (next s).Follows T l' Q

section Rules

variable {T : L → ℓ → σ → σ → L → Prop} {l : L} {r : Except ε α} {Q : L → Except ε α → Prop}

@[simp] theorem follows_done :
    (done r : Prog ℓ σ ε α).Follows T l Q ↔ Q l r := Iff.rfl

@[simp] theorem follows_pure {a : α} :
    (pure a : Prog ℓ σ ε α).Follows T l Q ↔ Q l (.ok a) := Iff.rfl

variable {lbl : ℓ} {upd : σ → σ}

theorem follows_step {next : σ → Prog ℓ σ ε α} : (step lbl upd next).Follows T l Q ↔
      ∀ s, ∃ l', T l lbl s (upd s) l' ∧ (next s).Follows T l' Q := Iff.rfl

variable {e : ε}

@[simp] theorem follows_fail :
    (fail e : Prog ℓ σ ε α).Follows T l Q ↔ Q l (.error e) := Iff.rfl

variable {p : Prog ℓ σ ε α}

/-- The postcondition may be weakened. -/
theorem Follows.mono {Q' : L → Except ε α → Prop}
    (h : p.Follows T l Q) (hQ : ∀ l r, Q l r → Q' l r) : p.Follows T l Q' := by
  induction p generalizing l with
  | done r => exact hQ l r h
  | step lbl upd next ih =>
    intro s
    obtain ⟨l', hT, hnext⟩ := h s
    exact ⟨l', hT, ih s hnext⟩

/-- **Simulation.** A protocol that can match every transition of `T`, keeping its ghost
state related to that of `T`, is followed too. -/
theorem Follows.simulate {L' : Type} {T' : L' → ℓ → σ → σ → L' → Prop} (R : L → L' → Prop)
    (hR : ∀ l m lbl s s' l', R l m → T l lbl s s' l' → ∃ m', T' m lbl s s' m' ∧ R l' m')
    (h : p.Follows T l Q) {m : L'} (hm : R l m) :
    p.Follows T' m fun m' r => ∃ l', R l' m' ∧ Q l' r := by
  induction p generalizing l m with
  | done r => exact ⟨l, hm, h⟩
  | step lbl upd next ih =>
    intro s
    obtain ⟨l', ht, hnext⟩ := h s
    obtain ⟨m', ht', hm'⟩ := hR _ _ _ _ _ _ hm ht
    exact ⟨m', ht', ih s hnext hm'⟩

variable {f : α → Prog ℓ σ ε β}

/-- Sequencing: the second program starts in the ghost state the first one ends in. -/
theorem Follows.bind {Q : L → Except ε β → Prop}
    (h : p.Follows T l fun l' r => match r with
      | .ok a => (f a).Follows T l' Q
      | .error e => Q l' (.error e)) :
    (p >>= f).Follows T l Q := by
  induction p generalizing l with
  | done r => cases r <;> exact h
  | step lbl upd next ih =>
    intro s
    obtain ⟨l', hT, hnext⟩ := h s
    exact ⟨l', hT, ih s hnext⟩

theorem Follows.mapErr {g : ε → ε'} {Q : L → Except ε' α → Prop}
    (h : p.Follows T l fun l' r => match r with
      | .ok a => Q l' (.ok a)
      | .error e => Q l' (.error (g e))) :
    (p.mapErr g).Follows T l Q := by
  induction p generalizing l with
  | done r => cases r <;> exact h
  | step lbl upd next ih =>
    intro s
    obtain ⟨l', hT, hnext⟩ := h s
    exact ⟨l', hT, ih s hnext⟩

theorem Follows.attempt {Q : L → Except ε' (Except ε α) → Prop}
    (h : p.Follows T l fun l' r => Q l' (.ok r)) : (p.attempt : Prog ℓ σ ε' _).Follows T l Q := by
  induction p generalizing l with
  | done r => exact h
  | step lbl upd next ih =>
    intro s
    obtain ⟨l', hT, hnext⟩ := h s
    exact ⟨l', hT, ih s hnext⟩

/-- A guard at the head of a program: the rest runs knowing the guard let it pass. -/
theorem Follows.rejectIf {p : Prop} [Decidable p] {f : Unit → Prog ℓ σ ε β}
    {Q : L → Except ε β → Prop} (herr : p → Q l (.error e))
    (hok : ¬p → (f ()).Follows T l Q) : (rejectIf p e >>= f).Follows T l Q := by
  by_cases h : p
  · simpa [Prog.rejectIf, fail, h] using herr h
  · simpa [Prog.rejectIf, h] using hok h

theorem Follows.okOr {o : Option α} {Q : L → Except ε β → Prop} (herr : o = none → Q l (.error e))
    (hok : ∀ a, o = some a → (f a).Follows T l Q) : (okOr e o >>= f).Follows T l Q := by
  cases o with
  | none => exact herr rfl
  | some a => exact hok a rfl

theorem Follows.ofExcept {Q : L → Except ε β → Prop} (herr : ∀ e, r = .error e → Q l (.error e))
    (hok : ∀ a, r = .ok a → (f a).Follows T l Q) : (ofExcept r >>= f).Follows T l Q := by
  cases r with
  | error e => exact herr e rfl
  | ok a => exact hok a rfl

/-- One atomic statement at the head of a program. -/
theorem Follows.atomic {out : σ → α} {Q : L → Except ε β → Prop}
    (h : ∀ s, ∃ l', T l lbl s (upd s) l' ∧ (f (out s)).Follows T l' Q) :
    (Prog.atomic lbl upd out >>= f).Follows T l Q := h

end Rules

-- Proofs go through the rules above; unfolding `Follows` would execute the program.
attribute [irreducible] Follows

end Prog

end SauronID.Conc
